import Mathlib.Algebra.Group.Int.Defs
import Mathlib.Algebra.Group.Nat.Defs
import Mathlib.Data.List.Basic

set_option autoImplicit false

namespace ZyAgf.Pppoe

abbrev Mac := Vector UInt8 6

def macAddr (a b c d e f : UInt8) : Mac := #v[a, b, c, d, e, f]

instance bytesLawful : LawfulBEq (List UInt8) := inferInstance

def codePADI : UInt8 := 0x09
def codePADO : UInt8 := 0x07
def codePADR : UInt8 := 0x19
def codePADS : UInt8 := 0x65
def codePADT : UInt8 := 0xA7
def codeSess : UInt8 := 0x00

def tagEndOfList : Nat := 0x0000
def tagServiceName : Nat := 0x0101
def tagAcName : Nat := 0x0102
def tagHostUniq : Nat := 0x0103
def tagAcCookie : Nat := 0x0104
def tagRelaySessionId : Nat := 0x0110
def tagPppMaxPayload : Nat := 0x0120
def tagServiceNameError : Nat := 0x0201
def tagAcSystemError : Nat := 0x0202
def tagGenericError : Nat := 0x0203

def ethDataLen : Nat := 1500
def ethJumboLen : Nat := ethDataLen + 8
def pppoeOverhead : Nat := 6
def hdrSize : Nat := 14 + pppoeOverhead
def maxPppoePayload : Nat := ethJumboLen - pppoeOverhead
def totalOverhead : Nat := pppoeOverhead + 2
def ethPppoeMtu : Nat := ethDataLen - totalOverhead
def tagHdrSize : Nat := 4

-- Sixteen-bit fields stay in network order, as a little-endian host holds them.
def htons (n : UInt16) : UInt16 :=
  UInt16.ofNat (n.toNat % 256 * 256 + n.toNat / 256)

def ntohs (n : UInt16) : UInt16 := htons n

theorem htons_toNat (n : UInt16) : (htons n).toNat = n.toNat % 256 * 256 + n.toNat / 256 := by
  have bound := n.toNat_lt
  unfold htons
  rw [UInt16.toNat_ofNat']
  omega

theorem htons_htons (n : UInt16) : htons (htons n) = n := by
  apply UInt16.toNat_inj.mp
  rw [htons_toNat, htons_toNat]
  have bound := n.toNat_lt
  omega

theorem htons_injective (m n : UInt16) (same : htons m = htons n) : m = n := by
  rw [← htons_htons m, same, htons_htons]

-- A frame as received or sent: the payload is what follows the PPPoE header in
-- the buffer, so a received one may be longer than the length field says.
structure PPPoEPacket where
  hDest : Mac
  hSource : Mac
  vertype : UInt8
  code : UInt8
  session : UInt16
  length : Nat
  payload : List UInt8
deriving DecidableEq, Repr

structure PPPoETag where
  type : Nat
  payload : List UInt8
deriving DecidableEq, Repr

def pppoeVer (vertype : UInt8) : Nat := vertype.toNat / 16
def pppoeType (vertype : UInt8) : Nat := vertype.toNat % 16
def pppoeVerType : UInt8 := 0x11

def broadcast (mac : Mac) : Bool :=
  mac == Vector.replicate 6 0xff

def notUnicast (mac : Mac) : Bool :=
  (mac.get 0).toNat % 2 != 0

def byteAt (payload : List UInt8) (offset : Nat) : Nat := (payload.getD offset 0).toNat

def wordAt (payload : List UInt8) (offset : Nat) : Nat :=
  byteAt payload offset * 256 + byteAt payload (offset + 1)

def bytesAt (payload : List UInt8) (offset count : Nat) : List UInt8 := (payload.drop offset).take count

def macAt (payload : List UInt8) (offset : Nat) : Mac :=
  Vector.ofFn fun i => payload.getD (offset + i) 0

def tagBytes (tag : PPPoETag) : List UInt8 :=
  [UInt8.ofNat (tag.type / 256), UInt8.ofNat tag.type, UInt8.ofNat (tag.payload.length / 256),
    UInt8.ofNat tag.payload.length] ++ tag.payload

-- The two loops over the tag list step by a header at least, so the length is
-- fuel enough. A tag that overruns the length ends the walk with an error.
def tagsFrom (payload : List UInt8) (len : Nat) : Nat → Nat → List (Nat × PPPoETag) × Bool
  | 0, _ => ([], true)
  | fuel + 1, curTag =>
      if curTag + tagHdrSize ≤ len then
        let tagType := wordAt payload curTag
        let tagLen := wordAt payload (curTag + 2)
        if tagType = tagEndOfList then ([], true)
        else if curTag + tagLen + tagHdrSize > len then ([], false)
        else
          let rest := tagsFrom payload len fuel (curTag + tagHdrSize + tagLen)
          ((curTag, ⟨tagType, bytesAt payload (curTag + tagHdrSize) tagLen⟩) :: rest.1, rest.2)
      else ([], true)

def tagsReadable (packet : PPPoEPacket) : Bool :=
  pppoeVer packet.vertype == 1 && pppoeType packet.vertype == 1 && packet.length ≤ maxPppoePayload

-- The tags the callback of parsePacket sees, with their positions, and whether
-- the walk went well to its end.
def parsePacket (packet : PPPoEPacket) : List (Nat × PPPoETag) × Bool :=
  if tagsReadable packet then tagsFrom packet.payload packet.length packet.length 0 else ([], false)

def findTagFrom (payload : List UInt8) (len type : Nat) : Nat → Nat → Option (Nat × PPPoETag)
  | 0, _ => none
  | fuel + 1, curTag =>
      if curTag + tagHdrSize ≤ len then
        let tagType := wordAt payload curTag
        let tagLen := wordAt payload (curTag + 2)
        if tagType = tagEndOfList then none
        else if curTag + tagLen + tagHdrSize > len then none
        else if tagType = type then some (curTag, ⟨tagType, bytesAt payload (curTag + tagHdrSize) tagLen⟩)
        else findTagFrom payload len type fuel (curTag + tagHdrSize + tagLen)
      else none

def findTag (packet : PPPoEPacket) (type : Nat) : Option (Nat × PPPoETag) :=
  if tagsReadable packet then findTagFrom packet.payload packet.length type packet.length 0 else none

theorem findTagFrom_eq_find (payload : List UInt8) (len type fuel curTag : Nat) :
    findTagFrom payload len type fuel curTag =
      (tagsFrom payload len fuel curTag).1.find? (fun visit => visit.2.type == type) := by
  induction fuel generalizing curTag with
  | zero => rfl
  | succ fuel ih =>
      unfold findTagFrom tagsFrom
      by_cases room : curTag + tagHdrSize ≤ len
      · rw [if_pos room, if_pos room]
        by_cases ended : wordAt payload curTag = tagEndOfList
        · rw [if_pos ended, if_pos ended]
          rfl
        · rw [if_neg ended, if_neg ended]
          by_cases overrun : curTag + wordAt payload (curTag + 2) + tagHdrSize > len
          · rw [if_pos overrun, if_pos overrun]
            rfl
          · rw [if_neg overrun, if_neg overrun]
            by_cases found : wordAt payload curTag = type
            · simp [found]
            · have other : (wordAt payload curTag == type) = false := by simpa using found
              rw [if_neg found, List.find?_cons]
              simp only [other]
              exact ih _
      · rw [if_neg room, if_neg room]
        rfl

theorem findTag_eq_find (packet : PPPoEPacket) (type : Nat) :
    findTag packet type = (parsePacket packet).1.find? (fun visit => visit.2.type == type) := by
  unfold findTag parsePacket
  by_cases readable : tagsReadable packet = true
  · rw [if_pos readable, if_pos readable]
    exact findTagFrom_eq_find packet.payload packet.length type packet.length 0
  · rw [if_neg readable, if_neg readable]
    rfl

theorem tagsFrom_inside (payload : List UInt8) (len fuel curTag : Nat) (received : len ≤ payload.length)
    (visit : Nat × PPPoETag) (member : visit ∈ (tagsFrom payload len fuel curTag).1) :
    curTag ≤ visit.1 ∧ visit.1 + tagHdrSize + visit.2.payload.length ≤ len ∧
      visit.2.payload = bytesAt payload (visit.1 + tagHdrSize) visit.2.payload.length := by
  induction fuel generalizing curTag with
  | zero => cases member
  | succ fuel ih =>
      unfold tagsFrom at member
      by_cases room : curTag + tagHdrSize ≤ len
      · rw [if_pos room] at member
        by_cases ended : wordAt payload curTag = tagEndOfList
        · rw [if_pos ended] at member
          cases member
        · rw [if_neg ended] at member
          by_cases overrun : curTag + wordAt payload (curTag + 2) + tagHdrSize > len
          · rw [if_pos overrun] at member
            cases member
          · rw [if_neg overrun] at member
            rcases List.mem_cons.mp member with here | later
            · subst here
              have full : (bytesAt payload (curTag + tagHdrSize) (wordAt payload (curTag + 2))).length =
                  wordAt payload (curTag + 2) := by
                unfold bytesAt
                rw [List.length_take, List.length_drop]
                omega
              refine ⟨Nat.le_refl _, ?_, ?_⟩
              · simp only [full]
                omega
              · simp only [full]
            · obtain ⟨after, inside, bytes⟩ := ih (curTag + tagHdrSize + wordAt payload (curTag + 2)) later
              exact ⟨by omega, inside, bytes⟩
      · rw [if_neg room] at member
        cases member

theorem findTag_inside (packet : PPPoEPacket) (type loc : Nat) (tag : PPPoETag)
    (received : packet.length ≤ packet.payload.length) (found : findTag packet type = some (loc, tag)) :
    loc + tagHdrSize + tag.payload.length ≤ packet.length ∧ tag.type = type ∧
      tag.payload = bytesAt packet.payload (loc + tagHdrSize) tag.payload.length := by
  rw [findTag_eq_find] at found
  have member := List.mem_of_find?_eq_some found
  have typed := List.find?_some found
  unfold parsePacket at member
  by_cases readable : tagsReadable packet = true
  · rw [if_pos readable] at member
    obtain ⟨_, inside, bytes⟩ := tagsFrom_inside packet.payload packet.length packet.length 0 received _ member
    exact ⟨inside, by simpa using typed, bytes⟩
  · rw [if_neg readable] at member
    cases member

-- Both edits check that the place lies in the payload before they move bytes.
def insertBytes (packet : PPPoEPacket) (loc : Nat) (bytes : List UInt8) : Option PPPoEPacket :=
  if loc > packet.length ∨ bytes.length + packet.length > maxPppoePayload then none
  else some { packet with
    length := packet.length + bytes.length
    payload := packet.payload.take loc ++ bytes ++ packet.payload.drop loc }

def removeBytes (packet : PPPoEPacket) (loc len : Nat) : Option PPPoEPacket :=
  if len > packet.length ∨ loc + len > packet.length then none
  else some { packet with
    length := packet.length - len
    payload := packet.payload.take loc ++ packet.payload.drop (loc + len) }

def addTag (packet : PPPoEPacket) (tag : PPPoETag) : Option PPPoEPacket :=
  insertBytes packet 0 (tagBytes tag)

end ZyAgf.Pppoe
