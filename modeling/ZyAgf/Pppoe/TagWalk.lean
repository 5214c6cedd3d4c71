import ZyAgf.Pppoe.TagEdit

set_option autoImplicit false

namespace ZyAgf.Pppoe

-- The walkers as they go through memory. A read that the memory does not grant
-- ends the walk, so a walk that ends otherwise has read nothing else.
abbrev Memory := Nat → Option UInt8

def granted (payload : List UInt8) (len : Nat) : Memory := fun offset => if offset < len then payload[offset]? else none

def readWord (mem : Memory) (offset : Nat) : Option Nat :=
  (mem offset).bind fun hi => (mem (offset + 1)).map fun lo => hi.toNat * 256 + lo.toNat

def readBytes (mem : Memory) : Nat → Nat → Option (List UInt8)
  | _, 0 => some []
  | offset, count + 1 => (mem offset).bind fun byte => (readBytes mem (offset + 1) count).map fun rest => byte :: rest

def parseWalk (mem : Memory) (len : Nat) : Nat → Nat → Option (List (Nat × PPPoETag) × Bool)
  | 0, _ => some ([], true)
  | fuel + 1, curTag =>
      if curTag + tagHdrSize ≤ len then
        (readWord mem curTag).bind fun tagType =>
        (readWord mem (curTag + 2)).bind fun tagLen =>
        if tagType = tagEndOfList then some ([], true)
        else if curTag + tagLen + tagHdrSize > len then some ([], false)
        else
          (readBytes mem (curTag + tagHdrSize) tagLen).bind fun data =>
          (parseWalk mem len fuel (curTag + tagHdrSize + tagLen)).map fun rest =>
            ((curTag, ⟨tagType, data⟩) :: rest.1, rest.2)
      else some ([], true)

-- Where a tag stands, its type and its length: all that the search looks at of
-- the tags it passes.
abbrev Header := Nat × Nat × Nat

def header (visit : Nat × PPPoETag) : Header := (visit.1, visit.2.type, visit.2.payload.length)

-- The headers that are visited, and what memcpy takes of the tag that is found.
def findWalk (mem : Memory) (len type : Nat) : Nat → Nat → Option (List Header × Option (Nat × List UInt8))
  | 0, _ => some ([], none)
  | fuel + 1, curTag =>
      if curTag + tagHdrSize ≤ len then
        (readWord mem curTag).bind fun tagType =>
        (readWord mem (curTag + 2)).bind fun tagLen =>
        if tagType = tagEndOfList then some ([], none)
        else if curTag + tagLen + tagHdrSize > len then some ([], none)
        else if tagType = type then
          (readBytes mem curTag (tagLen + tagHdrSize)).map fun copy =>
            ([(curTag, tagType, tagLen)], some (curTag, copy))
        else
          (findWalk mem len type fuel (curTag + tagHdrSize + tagLen)).map fun rest =>
            ((curTag, tagType, tagLen) :: rest.1, rest.2)
      else some ([], none)

def parsePacketIn (mem : Memory) (packet : PPPoEPacket) : Option (List (Nat × PPPoETag) × Bool) :=
  if tagsReadable packet then parseWalk mem packet.length packet.length 0 else some ([], false)

def findTagIn (mem : Memory) (packet : PPPoEPacket) (type : Nat) : Option (List Header × Option (Nat × List UInt8)) :=
  if tagsReadable packet then findWalk mem packet.length type packet.length 0 else some ([], none)

section Granted

variable (payload : List UInt8) (len : Nat) (received : len ≤ payload.length)

include received

theorem granted_byte (offset : Nat) (inside : offset < len) : granted payload len offset = some
    (payload.getD offset 0) := by
  have bound : offset < payload.length := Nat.lt_of_lt_of_le inside received
  unfold granted
  rw [if_pos inside, List.getElem?_eq_getElem bound, List.getD_eq_getElem _ _ bound]

theorem readWord_granted (offset : Nat) (inside : offset + 2 ≤ len) :
    readWord (granted payload len) offset = some (wordAt payload offset) := by
  unfold readWord
  rw [granted_byte payload len received offset (by omega), granted_byte payload len received (offset + 1) (by omega)]
  rfl

theorem readBytes_granted (offset count : Nat) (inside : offset + count ≤ len) :
    readBytes (granted payload len) offset count = some (bytesAt payload offset count) := by
  induction count generalizing offset with
  | zero => simp [readBytes, bytesAt]
  | succ count ih =>
      have bound : offset < payload.length := by omega
      rw [readBytes, granted_byte payload len received offset (by omega), ih (offset + 1) (by omega)]
      simp only [Option.bind_some, Option.map_some, Option.some.injEq, bytesAt]
      rw [List.getD_eq_getElem _ _ bound, ← List.take_succ_cons, ← List.drop_eq_getElem_cons bound]

theorem parseWalk_granted (fuel curTag : Nat) :
    parseWalk (granted payload len) len fuel curTag = some (tagsFrom payload len fuel curTag) := by
  induction fuel generalizing curTag with
  | zero => rfl
  | succ fuel ih =>
      unfold parseWalk tagsFrom
      by_cases room : curTag + tagHdrSize ≤ len
      · have four : tagHdrSize = 4 := rfl
        rw [if_pos room, if_pos room, readWord_granted payload len received curTag (by omega),
          readWord_granted payload len received (curTag + 2) (by omega)]
        dsimp only [Option.bind_some]
        split
        · rfl
        · split
          · rfl
          · next fits =>
              rw [readBytes_granted payload len received _ _ (by omega), ih]
              rfl
      · rw [if_neg room, if_neg room]

end Granted

theorem granted_append (payload rest : List UInt8) (len : Nat) (received : len ≤ payload.length) :
    granted (payload ++ rest) len = granted payload len := by
  funext offset
  unfold granted
  split
  next inside => rw [List.getElem?_append_left (by omega)]
  next => rfl

theorem tagsFrom_append (payload rest : List UInt8) (len fuel curTag : Nat) (received : len ≤ payload.length) :
    tagsFrom (payload ++ rest) len fuel curTag = tagsFrom payload len fuel curTag := by
  have walked := parseWalk_granted (payload ++ rest) len (by rw [List.length_append]; omega) fuel curTag
  rw [granted_append payload rest len received, parseWalk_granted payload len received fuel curTag] at walked
  exact (Option.some.inj walked).symm

theorem tagBytes_at (payload : List UInt8) (curTag : Nat)
    (inside : curTag + tagHdrSize + wordAt payload (curTag + 2) ≤ payload.length) :
    bytesAt payload curTag (wordAt payload (curTag + 2) + tagHdrSize) =
      tagBytes ⟨wordAt payload curTag, bytesAt payload (curTag + tagHdrSize) (wordAt payload (curTag + 2))⟩ := by
  obtain ⟨stands, _, size⟩ := tagBytes_read payload curTag inside
  unfold bytesAt at stands size ⊢
  rw [stands]
  refine List.take_left' ?_
  rw [tagBytes_length]
  exact congrArg (· + tagHdrSize) size

-- The search sees the tags before the first of its type, and that one.
def upTo (type : Nat) (tags : List (Nat × PPPoETag)) : List (Nat × PPPoETag) :=
  tags.takeWhile (·.2.type != type) ++ (tags.find? (·.2.type == type)).toList

theorem upTo_found (type : Nat) (visit : Nat × PPPoETag) (later : List (Nat × PPPoETag)) (found : visit.2.type = type) :
    upTo type (visit :: later) = [visit] := by
  simp [upTo, found]

theorem upTo_passed (type : Nat) (visit : Nat × PPPoETag) (later : List (Nat × PPPoETag))
    (other : visit.2.type ≠ type) :
    upTo type (visit :: later) = visit :: upTo type later := by
  simp [upTo, other]

theorem findWalk_granted (payload : List UInt8) (len : Nat) (received : len ≤ payload.length) (type fuel curTag : Nat) :
    findWalk (granted payload len) len type fuel curTag =
      some ((upTo type (tagsFrom payload len fuel curTag).1).map header,
        (findTagFrom payload len type fuel curTag).map fun visit => (visit.1, tagBytes visit.2)) := by
  induction fuel generalizing curTag with
  | zero => rfl
  | succ fuel ih =>
      have four : tagHdrSize = 4 := rfl
      unfold findWalk tagsFrom findTagFrom
      by_cases room : curTag + tagHdrSize ≤ len
      · rw [if_pos room, if_pos room, if_pos room, readWord_granted payload len received curTag (by omega),
          readWord_granted payload len received (curTag + 2) (by omega)]
        dsimp only [Option.bind_some]
        by_cases last : wordAt payload curTag = tagEndOfList
        · rw [if_pos last, if_pos last, if_pos last]
          rfl
        rw [if_neg last, if_neg last, if_neg last]
        by_cases past : curTag + wordAt payload (curTag + 2) + tagHdrSize > len
        · rw [if_pos past, if_pos past, if_pos past]
          rfl
        rw [if_neg past, if_neg past, if_neg past]
        have size : (bytesAt payload (curTag + tagHdrSize) (wordAt payload (curTag + 2))).length = wordAt payload
          (curTag + 2) := by
          unfold bytesAt
          rw [List.length_take, List.length_drop]
          omega
        by_cases found : wordAt payload curTag = type
        · rw [if_pos found, if_pos found, readBytes_granted payload len received _ _ (by omega),
            tagBytes_at payload curTag (by omega),
            upTo_found _ _ _ found]
          simp [header, size]
        · rw [if_neg found, if_neg found, ih, upTo_passed _ _ _ found]
          simp [header, size]
      · rw [if_neg room, if_neg room, if_neg room]
        rfl

theorem tagsFrom_words (payload : List UInt8) (len fuel curTag : Nat) (received : len ≤ payload.length)
    (visit : Nat × PPPoETag)
    (member : visit ∈ (tagsFrom payload len fuel curTag).1) :
    visit.2 = ⟨wordAt payload visit.1, bytesAt payload (visit.1 + tagHdrSize) (wordAt payload (visit.1 + 2))⟩ ∧
      visit.1 + tagHdrSize + wordAt payload (visit.1 + 2) ≤ payload.length := by
  induction fuel generalizing curTag with
  | zero => cases member
  | succ fuel ih =>
      unfold tagsFrom at member
      split at member
      · dsimp only at member
        split at member
        · cases member
        · split at member
          · cases member
          · rcases List.mem_cons.mp member with rfl | later
            · exact ⟨rfl, by dsimp only; omega⟩
            · exact ih _ later
      · cases member

-- Two walkers, one language: both stay inside the length, stop where the tags end
-- to be well formed, and see the same ones up to where the search may stop.
structure WalkersAgree (packet : PPPoEPacket) : Prop where
  parses : parsePacketIn (granted packet.payload packet.length) packet = some (parsePacket packet)
  wellFormed : WellFormedPrefix packet (readTags packet)
  searches : ∀ type, findTagIn (granted packet.payload packet.length) packet type =
    some ((upTo type (parsePacket packet).1).map header, (findTag packet type).map fun visit =>
      (visit.1, tagBytes visit.2))
  finds : ∀ type loc tag, findTag packet type = some (loc, tag) →
    (parsePacket packet).1.find? (·.2.type == type) = some (loc, tag) ∧
      tagBytes tag = bytesAt packet.payload loc (tag.payload.length + tagHdrSize)
  reported : ∀ type, (findTag packet type).isSome ↔ ∃ visit ∈ (parsePacket packet).1, visit.2.type = type
  fits : ∀ visit ∈ (parsePacket packet).1, visit.1 + tagHdrSize + visit.2.payload.length ≤ packet.length ∧
    visit.2.payload.length ≤ ethDataLen

theorem walkers_agree (packet : PPPoEPacket) (received : packet.length ≤ packet.payload.length) : WalkersAgree
    packet := by
  have visits (visit : Nat × PPPoETag) (member : visit ∈ (parsePacket packet).1) :
      (tagsReadable packet = true ∧ visit.1 + tagHdrSize + visit.2.payload.length ≤ packet.length) ∧
        visit.2 = ⟨wordAt packet.payload visit.1,
          bytesAt packet.payload (visit.1 + tagHdrSize) (wordAt packet.payload (visit.1 + 2))⟩ ∧
          visit.1 + tagHdrSize + wordAt packet.payload (visit.1 + 2) ≤ packet.payload.length := by
    unfold parsePacket at member
    split at member
    · next readable =>
        obtain ⟨_, inside, _⟩ := tagsFrom_inside packet.payload packet.length packet.length 0 received visit member
        exact ⟨⟨readable, inside⟩, tagsFrom_words packet.payload packet.length packet.length 0 received visit member⟩
    · cases member
  constructor
  · unfold parsePacketIn parsePacket
    split
    · exact parseWalk_granted packet.payload packet.length received _ _
    · rfl
  · exact (readTags_wellFormed packet _).mpr rfl
  · intro type
    unfold findTagIn parsePacket findTag
    split
    · exact findWalk_granted packet.payload packet.length received type _ _
    · rfl
  · intro type loc tag found
    have first := (findTag_eq_find packet type).symm.trans found
    refine ⟨first, ?_⟩
    obtain ⟨_, words⟩ := visits (loc, tag) (List.mem_of_find?_eq_some first)
    obtain ⟨shown, inside⟩ := words
    dsimp only at shown inside
    have size : tag.payload.length = wordAt packet.payload (loc + 2) := by
      rw [shown]
      unfold bytesAt
      rw [List.length_take, List.length_drop]
      omega
    rw [size, tagBytes_at packet.payload loc inside, ← shown]
  · intro type
    rw [findTag_eq_find, List.find?_isSome]
    simp
  · intro visit member
    obtain ⟨⟨readable, inside⟩, _⟩ := visits visit member
    simp only [tagsReadable, Bool.and_eq_true, decide_eq_true_eq] at readable
    refine ⟨inside, ?_⟩
    have room : maxPppoePayload = 1502 := rfl
    have most : ethDataLen = 1500 := rfl
    have four : tagHdrSize = 4 := rfl
    omega

-- Two tags, and a third that claims more bytes than the length leaves.
def overrunPacket : PPPoEPacket where
  hDest := Vector.replicate 6 2
  hSource := Vector.replicate 6 4
  vertype := pppoeVerType
  code := codePADI
  session := 0
  length := 14
  payload := tagBytes ⟨tagServiceName, []⟩ ++ tagBytes ⟨tagHostUniq, [7]⟩ ++ [1, 4, 0, 9, 5, 6, 7, 8]

theorem walkers_agree_overrun : WalkersAgree overrunPacket ∧
    parsePacket overrunPacket = ([(0, ⟨tagServiceName, []⟩), (4, ⟨tagHostUniq, [7]⟩)], false) ∧
      findTag overrunPacket tagHostUniq = some (4, ⟨tagHostUniq, [7]⟩) ∧ findTag overrunPacket tagAcCookie = none :=
  ⟨walkers_agree overrunPacket (by decide), by decide +kernel, by decide +kernel, by decide +kernel⟩

end ZyAgf.Pppoe
