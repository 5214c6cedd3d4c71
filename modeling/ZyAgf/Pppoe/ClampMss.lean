import ZyAgf.Library.OnesComplement
import ZyAgf.Pppoe.Packet

set_option autoImplicit false

namespace ZyAgf.Pppoe.Clamp

-- The payload of a session packet, as far as packet.length says: clampMSS ends
-- with none at the first byte that it reads or writes anywhere else.

def readByte (payload : List UInt8) (i : Nat) : Option Nat := payload[i]?.map UInt8.toNat

def writeByte (payload : List UInt8) (i : Nat) (byte : UInt8) : Option (List UInt8) :=
  if i < payload.length then some (payload.set i byte) else none

-- A uint16_t read in host order.
def readHost (payload : List UInt8) (i : Nat) : Option Nat := do
  let low ← readByte payload i
  let high ← readByte payload (i + 1)
  return low + 256 * high

def readNet (payload : List UInt8) (i : Nat) : Option Nat := do
  let high ← readByte payload i
  let low ← readByte payload (i + 1)
  return high * 256 + low

def sumSegment (payload : List UInt8) : Nat → Nat → Nat → Option Nat
  | 0, _, sum => some sum
  | 1, addr, sum => do
      let last ← readByte payload addr
      return sum + last
  | count + 2, addr, sum => do
      let tmp ← readHost payload addr
      sumSegment payload count (addr + 2) (sum + tmp)

-- The count is a uint16_t. The sum has 32 bits, which it never needs.
def computeTCPChecksum (payload : List UInt8) (ipHdr tcpHdr : Nat) : Option Nat := do
  let total ← readNet payload (ipHdr + 2)
  let ihl ← readByte payload ipHdr
  let count := (total + 65536 - (ihl &&& 0x0F) * 4) % 65536
  let source₀ ← readHost payload (ipHdr + 12)
  let source₁ ← readHost payload (ipHdr + 14)
  let dest₀ ← readHost payload (ipHdr + 16)
  let dest₁ ← readHost payload (ipHdr + 18)
  let protocol ← readByte payload (ipHdr + 9)
  let pseudo := source₀ + source₁ + dest₀ + dest₁ + 256 * protocol + (count / 256 + 256 * (count % 256))
  let sum ← sumSegment payload count tcpHdr pseudo
  return 65535 - foldCarries 32 sum

-- The walk over the options. The outer none is a byte outside, the inner one
-- means that there is no MSS option or that an option has a bogus length. Every
-- turn but the last goes on by a byte at least.
def findMss (payload : List UInt8) (endHdr : Nat) : Nat → Nat → Option (Option Nat)
  | 0, _ => some none
  | fuel + 1, opt =>
      if endHdr ≤ opt then some none
      else do
        let kind ← readByte payload opt
        if kind = 0 then some none
        else if kind = 1 then findMss payload endHdr fuel (opt + 1)
        else do
          let length ← readByte payload (opt + 1)
          if kind = 2 then some (if length = 4 then some opt else none)
          else if length < 2 then some none
          else findMss payload endHdr fuel (opt + length)

def storeMss (payload : List UInt8) (ipHdr tcpHdr mssopt clampMss : Nat) : Option (List UInt8) := do
  let payload ← writeByte payload (mssopt + 2) (UInt8.ofNat (clampMss / 256))
  let payload ← writeByte payload (mssopt + 3) (UInt8.ofNat clampMss)
  let payload ← writeByte payload (tcpHdr + 16) 0
  let payload ← writeByte payload (tcpHdr + 17) 0
  let csum ← computeTCPChecksum payload ipHdr tcpHdr
  let payload ← writeByte payload (tcpHdr + 16) (UInt8.ofNat csum)
  writeByte payload (tcpHdr + 17) (UInt8.ofNat (csum / 256))

def clampOptions (payload : List UInt8) (ipHdr tcpHdr clampMss : Nat) : Option (List UInt8) := do
  let offset ← readByte payload (tcpHdr + 12)
  let endHdr := tcpHdr + (offset &&& 0xF0) >>> 2
  match ← findMss payload endHdr (endHdr - (tcpHdr + 20)) (tcpHdr + 20) with
  | none => return payload
  | some mssopt => do
      let mss ← readNet payload (mssopt + 2)
      if mss ≤ clampMss then return payload else storeMss payload ipHdr tcpHdr mssopt clampMss

def clampTcp (payload : List UInt8) (ipHdr clampMss : Nat) : Option (List UInt8) := do
  let ihl ← readByte payload ipHdr
  let tcpHdr := ipHdr + (ihl &&& 0x0F) * 4
  let flags ← readByte payload (tcpHdr + 13)
  if flags &&& 0x02 = 0 then return payload
  else do
    let csum ← computeTCPChecksum payload ipHdr tcpHdr
    if csum ≠ 0 then return payload else clampOptions payload ipHdr tcpHdr clampMss

def clampIp (payload : List UInt8) (ipHdr minlen clampMss : Nat) : Option (List UInt8) :=
  if payload.length < minlen then return payload
  else do
    let version ← readByte payload ipHdr
    if version &&& 0xF0 ≠ 0x40 then return payload
    else do
      let fragment ← readByte payload (ipHdr + 6)
      if fragment &&& 0x1F ≠ 0 then return payload
      else do
        let offset ← readByte payload (ipHdr + 7)
        if offset ≠ 0 then return payload
        else do
          let protocol ← readByte payload (ipHdr + 9)
          if protocol ≠ 0x06 then return payload else clampTcp payload ipHdr clampMss

def clampMSS (payload : List UInt8) (clampMss : Nat) : Option (List UInt8) := do
  let first ← readByte payload 0
  if first &&& 0x01 ≠ 0 then
    if first ≠ 0x21 then return payload else clampIp payload 1 41 clampMss
  else if first ≠ 0x00 then return payload
  else do
    let second ← readByte payload 1
    if second ≠ 0x21 then return payload else clampIp payload 2 42 clampMss

-- What stands in the payload.

def ipAt (payload : List UInt8) : Nat := if byteAt payload 0 = 0x21 then 1 else 2

def headerLen (payload : List UInt8) : Nat := (byteAt payload (ipAt payload) &&& 0x0F) * 4

def totalLen (payload : List UInt8) : Nat := wordAt payload (ipAt payload + 2)

def tcpAt (payload : List UInt8) : Nat := ipAt payload + headerLen payload

def optionsAt (payload : List UInt8) : Nat := tcpAt payload + 20

def optionsEnd (payload : List UInt8) : Nat := tcpAt payload + (byteAt payload (tcpAt payload + 12) &&& 0xF0) >>> 2

def hostAt (payload : List UInt8) (i : Nat) : Nat := byteAt payload i + 256 * byteAt payload (i + 1)

def pseudoSum (payload : List UInt8) (ipHdr count : Nat) : Nat :=
  hostAt payload (ipHdr + 12) + hostAt payload (ipHdr + 14) + hostAt payload (ipHdr + 16) + hostAt payload
    (ipHdr + 18) +
    256 * byteAt payload (ipHdr + 9) + (count / 256 + 256 * (count % 256))

def checksumOf (payload : List UInt8) (ipHdr tcpHdr count : Nat) : Nat :=
  65535 - foldCarries 32 (pseudoSum payload ipHdr count + wordSum (bytesAt payload tcpHdr count))

def IsIpv4 (payload : List UInt8) : Prop := byteAt payload 0 = 0x21 ∨ byteAt payload 0 = 0 ∧ byteAt payload 1 = 0x21

-- The first fragment of a TCP segment, with two headers at least.
structure IsTcp (payload : List UInt8) : Prop where
  ipv4 : IsIpv4 payload
  long : ipAt payload + 40 ≤ payload.length
  version : byteAt payload (ipAt payload) &&& 0xF0 = 0x40
  first : byteAt payload (ipAt payload + 6) &&& 0x1F = 0 ∧ byteAt payload (ipAt payload + 7) = 0
  protocol : byteAt payload (ipAt payload + 9) = 0x06

def IsSyn (payload : List UInt8) : Prop := IsTcp payload ∧ byteAt payload (tcpAt payload + 13) &&& 0x02 ≠ 0

theorem readByte_eq (payload : List UInt8) (i : Nat) :
    readByte payload i = if i < payload.length then some (byteAt payload i) else none := by
  unfold readByte byteAt
  split
  · rename_i inside
    simp [List.getD_eq_getElem?_getD, List.getElem?_eq_getElem inside]
  · rename_i outside
    simp [List.getElem?_eq_none (Nat.not_lt.mp outside)]

theorem readByte_inside (payload : List UInt8) (i : Nat) (inside : i < payload.length) :
    readByte payload i = some (byteAt payload i) := by
  rw [readByte_eq, if_pos inside]

theorem readByte_outside (payload : List UInt8) (i : Nat)
    (outside : payload.length ≤ i) : readByte payload i = none := by
  rw [readByte_eq, if_neg (Nat.not_lt.mpr outside)]

theorem readHost_inside (payload : List UInt8) (i : Nat) (inside : i + 1 < payload.length) :
    readHost payload i = some (hostAt payload i) := by
  simp [readHost, readByte_inside payload i (by omega), readByte_inside payload (i + 1) inside, hostAt]

theorem readHost_outside (payload : List UInt8) (i : Nat)
    (outside : payload.length ≤ i + 1) : readHost payload i = none := by
  unfold readHost
  rw [readByte_outside payload (i + 1) outside]
  cases readByte payload i <;> rfl

theorem readNet_inside (payload : List UInt8) (i : Nat) (inside : i + 1 < payload.length) :
    readNet payload i = some (wordAt payload i) := by
  simp [readNet, readByte_inside payload i (by omega), readByte_inside payload (i + 1) inside, wordAt]

theorem bytesAt_cons (payload : List UInt8) (i count : Nat) (inside : i < payload.length) :
    bytesAt payload i (count + 1) = payload.getD i 0 :: bytesAt payload (i + 1) count := by
  unfold bytesAt
  rw [List.drop_eq_getElem_cons inside, List.take_succ_cons, List.getD_eq_getElem?_getD,
    List.getElem?_eq_getElem inside]
  rfl

theorem sumSegment_eq (payload : List UInt8) (count addr sum : Nat) :
    sumSegment payload count addr sum =
      if count = 0 ∨ addr + count ≤ payload.length then some
        (sum + wordSum (bytesAt payload addr count)) else none := by
  induction count, addr, sum using sumSegment.induct with
  | case1 addr sum => simp [sumSegment, bytesAt, wordSum]
  | case2 addr sum =>
      by_cases inside : addr < payload.length
      · rw [sumSegment, readByte_inside payload addr inside, if_pos (Or.inr (Nat.succ_le_of_lt inside)),
          bytesAt_cons payload addr 0 inside]
        simp [bytesAt, wordSum, byteAt]
      · rw [sumSegment, readByte_outside payload addr (by omega), if_neg (by omega)]
        rfl
  | case3 count addr sum ih =>
      rw [sumSegment]
      by_cases inside : addr + 1 < payload.length
      · rw [readHost_inside payload addr inside]
        show sumSegment payload count (addr + 2) (sum + hostAt payload addr) = _
        rw [ih, bytesAt_cons payload addr (count + 1) (by omega), bytesAt_cons payload (addr + 1) count inside, wordSum]
        by_cases fits : addr + (count + 2) ≤ payload.length
        · rw [if_pos (Or.inr (by omega)), if_pos (Or.inr fits), hostAt, byteAt, byteAt, Nat.add_assoc sum]
        · rw [if_neg (by omega), if_neg (by omega)]
      · rw [readHost_outside payload addr (by omega), if_neg (by omega)]
        rfl

-- The count as it is computed, which wraps if the header is longer than the
-- datagram.
def segmentCount (payload : List UInt8) (ipHdr : Nat) : Nat :=
  (wordAt payload (ipHdr + 2) + 65536 - (byteAt payload ipHdr &&& 0x0F) * 4) % 65536

theorem computeTCPChecksum_eq (payload : List UInt8) (ipHdr tcpHdr : Nat) (long : ipHdr + 20 ≤ payload.length) :
    computeTCPChecksum payload ipHdr tcpHdr =
      if segmentCount payload ipHdr = 0 ∨ tcpHdr + segmentCount payload ipHdr ≤ payload.length then
        some (checksumOf payload ipHdr tcpHdr (segmentCount payload ipHdr))
      else none := by
  unfold computeTCPChecksum
  rw [readNet_inside payload _ (by omega), readByte_inside payload ipHdr (by omega),
    readHost_inside payload _ (by omega),
    readHost_inside payload _ (by omega), readHost_inside payload _ (by omega), readHost_inside payload _ (by omega),
    readByte_inside payload _ (by omega)]
  simp only [Option.bind_eq_bind, Option.bind_some, Option.pure_def, sumSegment_eq]
  rw [← segmentCount]
  split
  · rfl
  · rfl

-- The options the walk comes to.
inductive ComesTo (payload : List UInt8) (endHdr start : Nat) : Nat → Prop
  | first (more : start < endHdr) : ComesTo payload endHdr start start
  | behindNop (opt : Nat) (there : ComesTo payload endHdr start opt) (kind : byteAt payload opt = 1)
    (more : opt + 1 < endHdr) :
      ComesTo payload endHdr start (opt + 1)
  | behind (opt : Nat) (there : ComesTo payload endHdr start opt) (kind : 2 < byteAt payload opt)
      (length : 2 ≤ byteAt payload (opt + 1)) (more : opt + byteAt payload (opt + 1) < endHdr) :
      ComesTo payload endHdr start (opt + byteAt payload (opt + 1))

-- What is read of an option: its kind, its length if it has one, and the value
-- of an MSS option of the right length.
structure OptionInside (payload : List UInt8) (opt : Nat) : Prop where
  kind : opt < payload.length
  length : 2 ≤ byteAt payload opt → opt + 1 < payload.length
  value : byteAt payload opt = 2 → byteAt payload (opt + 1) = 4 → opt + 3 < payload.length

theorem comesTo_nop (payload : List UInt8) (endHdr start opt : Nat) (kind : byteAt payload start = 1)
    (more : start < endHdr)
    (there : ComesTo payload endHdr (start + 1) opt) : ComesTo payload endHdr start opt := by
  induction there with
  | first later => exact .behindNop start (.first more) kind later
  | behindNop opt there kind more ih => exact .behindNop opt ih kind more
  | behind opt there kind length more ih => exact .behind opt ih kind length more

theorem comesTo_skip (payload : List UInt8) (endHdr start opt : Nat) (kind : 2 < byteAt payload start)
    (length : 2 ≤ byteAt payload (start + 1)) (more : start < endHdr)
    (there : ComesTo payload endHdr (start + byteAt payload (start + 1)) opt) : ComesTo payload endHdr start opt := by
  induction there with
  | first later => exact .behind start (.first more) kind length later
  | behindNop opt there kind more ih => exact .behindNop opt ih kind more
  | behind opt there kind length more ih => exact .behind opt ih kind length more

theorem comesTo_cases (payload : List UInt8) (endHdr start opt : Nat) (there : ComesTo payload endHdr start opt) :
    opt = start ∨ byteAt payload start = 1 ∧ ComesTo payload endHdr (start + 1) opt ∨
      2 < byteAt payload start ∧ 2 ≤ byteAt payload (start + 1) ∧
        ComesTo payload endHdr (start + byteAt payload (start + 1)) opt := by
  induction there with
  | first more => exact Or.inl rfl
  | behindNop opt there kind more ih =>
      rcases ih with rfl | ⟨nop, there⟩ | ⟨long, two, there⟩
      · exact Or.inr (Or.inl ⟨kind, .first more⟩)
      · exact Or.inr (Or.inl ⟨nop, .behindNop opt there kind more⟩)
      · exact Or.inr (Or.inr ⟨long, two, .behindNop opt there kind more⟩)
  | behind opt there kind length more ih =>
      rcases ih with rfl | ⟨nop, there⟩ | ⟨long, two, there⟩
      · exact Or.inr (Or.inr ⟨kind, length, .first more⟩)
      · exact Or.inr (Or.inl ⟨nop, .behind opt there kind length more⟩)
      · exact Or.inr (Or.inr ⟨long, two, .behind opt there kind length more⟩)

theorem comesTo_start (payload : List UInt8) (endHdr start opt : Nat)
    (there : ComesTo payload endHdr start opt) : start < endHdr := by
  induction there with
  | first more => exact more
  | behindNop _ _ _ _ ih => exact ih
  | behind _ _ _ _ _ ih => exact ih

theorem comesTo_only (payload : List UInt8) (endHdr start opt : Nat) (nop : byteAt payload start ≠ 1)
    (last : ¬ (2 < byteAt payload start ∧ 2 ≤ byteAt payload (start + 1))) (there : ComesTo payload endHdr start opt) :
    opt = start := by
  rcases comesTo_cases payload endHdr start opt there with same | ⟨one, -⟩ | ⟨long, two, -⟩
  · exact same
  · exact absurd one nop
  · exact absurd ⟨long, two⟩ last

-- The walk has read nothing outside, and neither will the look at what it found.
def WalkInside (payload : List UInt8) (walk : Option (Option Nat)) : Prop :=
  ∃ found, walk = some found ∧ ∀ mssopt ∈ found, mssopt + 3 < payload.length

theorem walk_inside_none (payload : List UInt8) : WalkInside payload (some none) := ⟨none, rfl, by simp⟩

theorem walk_outside (payload : List UInt8) : ¬ WalkInside payload none := by
  rintro ⟨found, walked, -⟩
  cases walked

theorem findMss_inside_iff (payload : List UInt8) (endHdr fuel start : Nat) (enough : endHdr ≤ start + fuel) :
    WalkInside payload (findMss payload endHdr fuel start) ↔
      ∀ opt, ComesTo payload endHdr start opt → OptionInside payload opt := by
  induction fuel generalizing start with
  | zero =>
      refine ⟨fun _ opt there => ?_, fun _ => walk_inside_none payload⟩
      have more := comesTo_start payload endHdr start opt there
      omega
  | succ fuel ih =>
      rw [findMss]
      by_cases past : endHdr ≤ start
      · rw [if_pos past]
        refine ⟨fun _ opt there => ?_, fun _ => walk_inside_none payload⟩
        have more := comesTo_start payload endHdr start opt there
        omega
      rw [if_neg past]
      have here : ComesTo payload endHdr start start := .first (by omega)
      by_cases inside : start < payload.length
      swap
      · rw [readByte_outside payload start (by omega)]
        exact ⟨fun walk => absurd walk (walk_outside payload), fun all => absurd (all start here).kind inside⟩
      rw [readByte_inside payload start inside]
      simp only [Option.bind_eq_bind, Option.bind_some]
      by_cases ends : byteAt payload start = 0
      · rw [if_pos ends]
        refine ⟨fun _ opt there => ?_, fun _ => walk_inside_none payload⟩
        rw [comesTo_only payload endHdr start opt (by omega) (by omega) there]
        exact ⟨inside, by omega, by omega⟩
      by_cases nop : byteAt payload start = 1
      · rw [if_neg ends, if_pos nop, ih (start + 1) (by omega)]
        constructor
        · intro later opt there
          rcases comesTo_cases payload endHdr start opt there with rfl | ⟨-, behind⟩ | ⟨long, -, -⟩
          · exact ⟨inside, by omega, by omega⟩
          · exact later opt behind
          · omega
        · exact fun all opt behind => all opt (comesTo_nop payload endHdr start opt nop (by omega) behind)
      rw [if_neg ends, if_neg nop]
      by_cases sized : start + 1 < payload.length
      swap
      · rw [readByte_outside payload (start + 1) (by omega)]
        exact ⟨fun walk => absurd walk (walk_outside payload), fun all =>
          absurd ((all start here).length (by omega)) sized⟩
      rw [readByte_inside payload (start + 1) sized]
      simp only [Option.bind_some]
      by_cases mss : byteAt payload start = 2
      · rw [if_pos mss]
        constructor
        · rintro ⟨found, walked, value⟩ opt there
          rw [comesTo_only payload endHdr start opt (by omega) (by omega) there]
          refine ⟨inside, fun _ => sized, fun _ four => ?_⟩
          rw [if_pos four] at walked
          exact value start (Option.some.inj walked ▸ rfl)
        · intro all
          refine ⟨_, rfl, fun mssopt found => ?_⟩
          split at found
          · cases found
            exact (all start here).value mss (by assumption)
          · cases found
      by_cases bogus : byteAt payload (start + 1) < 2
      · rw [if_neg mss, if_pos bogus]
        refine ⟨fun _ opt there => ?_, fun _ => walk_inside_none payload⟩
        rw [comesTo_only payload endHdr start opt (by omega) (by omega) there]
        exact ⟨inside, fun _ => sized, by omega⟩
      · rw [if_neg mss, if_neg bogus, ih (start + byteAt payload (start + 1)) (by omega)]
        constructor
        · intro later opt there
          rcases comesTo_cases payload endHdr start opt there with rfl | ⟨one, -⟩ | ⟨-, -, behind⟩
          · exact ⟨inside, fun _ => sized, by omega⟩
          · omega
          · exact later opt behind
        · exact fun all opt behind => all opt
            (comesTo_skip payload endHdr start opt (by omega) (by omega) (by omega) behind)

end ZyAgf.Pppoe.Clamp
