import ZyAgf.Xl2tpd.Memory

set_option autoImplicit false

namespace ZyAgf.Xl2tpd

section Words

variable (mem : List UInt8)

theorem hostWord_swapped (offset words i : Nat) (near : i < words) (inside : offset + 2 * words ≤ mem.length) :
    hostWord (swaps mem offset words) (offset + 2 * i) = netWord mem (offset + 2 * i) := by
  induction words generalizing mem offset i with
  | zero => cases near
  | succ words ih =>
      cases i with
      | zero => exact hostWord_swaps mem offset words (by omega)
      | succ i =>
          rw [swaps, show offset + 2 * (i + 1) = offset + 2 + 2 * i by omega]
          rw [ih _ (offset + 2) i (by omega) (by rw [List.length_set, List.length_set]; omega)]
          unfold netWord
          rw [byteAt_set_other _ _ _ _ (by omega), byteAt_set_other _ _ _ _ (by omega),
            byteAt_set_other _ _ _ _ (by omega),
            byteAt_set_other _ _ _ _ (by omega)]

theorem hostWord_unswapped (words i : Nat) (far : words ≤ i) : hostWord (swaps mem 0 words) (2 * i) = hostWord mem
    (2 * i) := by
  unfold hostWord
  rw [byteAt_swaps_other _ _ _ _ (by omega), byteAt_swaps_other _ _ _ _ (by omega)]

theorem hostBytes_hostWord (offset : Nat) : hostBytes
    (hostWord mem offset) = [byteAt mem offset, byteAt mem (offset + 1)] :=
  pair_hostBytes _ _

theorem hostBytes_netWord (offset : Nat) : hostBytes
    (netWord mem offset) = [byteAt mem (offset + 1), byteAt mem offset] :=
  pair_hostBytes _ _

theorem orders_agree_iff (offset : Nat) : hostWord mem offset = netWord mem offset ↔
    byteAt mem offset = byteAt mem (offset + 1) := by
  constructor
  · intro same
    have bytes := congrArg hostBytes same
    rw [hostBytes_hostWord, hostBytes_netWord] at bytes
    exact (List.cons_eq_cons.mp bytes).1
  · intro same
    unfold hostWord netWord
    rw [same]

theorem bytes_of_hostWord (other : List UInt8) (offset : Nat) (same : hostWord mem offset = hostWord other offset) :
    byteAt mem offset = byteAt other offset ∧ byteAt mem (offset + 1) = byteAt other (offset + 1) := by
  have bytes := congrArg hostBytes same
  rw [hostBytes_hostWord, hostBytes_hostWord] at bytes
  obtain ⟨low, high⟩ := List.cons_eq_cons.mp bytes
  exact ⟨low, (List.cons_eq_cons.mp high).1⟩

end Words

-- The words of a header stand in host order, and all behind them is as it came.
structure Converted (mem mem' : List UInt8) (words : Nat) : Prop where
  header : ∀ i < words, hostWord mem' (2 * i) = netWord mem (2 * i)
  behind : ∀ j, 2 * words ≤ j → byteAt mem' j = byteAt mem j

theorem swaps_converts_iff (mem : List UInt8) (swapped words : Nat) (inside : 2 * swapped ≤ mem.length) :
    Converted mem (swaps mem 0 swapped) words ↔
      ∀ i, min swapped words ≤ i → i < max swapped words → byteAt mem (2 * i) = byteAt mem (2 * i + 1) := by
  have within (i : Nat) (near : i < swapped) : hostWord (swaps mem 0 swapped) (2 * i) = netWord mem (2 * i) := by
    have word := hostWord_swapped mem 0 swapped i near (by omega)
    rwa [Nat.zero_add] at word
  constructor
  · intro converted i above below
    rw [← orders_agree_iff]
    by_cases near : i < swapped
    · have apart : 2 * words ≤ 2 * i := by omega
      have kept : hostWord (swaps mem 0 swapped) (2 * i) = hostWord mem (2 * i) := by
        unfold hostWord
        rw [converted.behind _ apart, converted.behind _ (by omega)]
      exact kept.symm.trans (within i near)
    · exact (hostWord_unswapped mem swapped i (by omega)).symm.trans (converted.header i (by omega))
  · intro equal
    constructor
    · intro i near
      by_cases swap : i < swapped
      · exact within i swap
      · rw [hostWord_unswapped mem swapped i (by omega)]
        exact (orders_agree_iff mem _).mpr (equal i (by omega) (by omega))
    · intro j apart
      by_cases beyond : 2 * swapped ≤ j
      · exact byteAt_swaps_other _ _ _ _ (.inr (by omega))
      · have there : j / 2 < swapped := by omega
        have same : hostWord (swaps mem 0 swapped) (2 * (j / 2)) = hostWord mem (2 * (j / 2)) :=
          (within _ there).trans ((orders_agree_iff mem _).mpr (equal (j / 2) (by omega) (by omega))).symm
        obtain ⟨low, high⟩ := bytes_of_hostWord _ _ _ same
        rcases Nat.even_or_odd' j with ⟨half, rfl | rfl⟩
        · rwa [show 2 * (2 * half / 2) = 2 * half by omega] at low
        · rwa [show 2 * ((2 * half + 1) / 2) + 1 = 2 * half + 1 by omega] at high

-- The version word as it was sent, and what its bits say of the header: a control
-- header has six words, a data header those its L, S and O bits name. (The S bit
-- is the one for Ns and Nr, PFBIT; the O bit the one for the offset, PSBIT.)
def sentVersion (mem : List UInt8) : U16 := netWord mem 0

def flaggedWords (ver : U16) : Nat :=
  3 + (if PSBIT ver then 1 else 0) + (if PLBIT ver then 1 else 0) + (if PFBIT ver then 2 else 0)

def headerWords (mem : List UInt8) : Nat := if CTBIT (sentVersion mem) then 6 else flaggedWords (sentVersion mem)

def sentIds (mem : List UInt8) : Nat × Nat :=
  if CTBIT (sentVersion mem) ∨ PLBIT (sentVersion mem) then ((netWord mem 4).toNat, (netWord mem 6).toNat)
  else ((netWord mem 2).toNat, (netWord mem 4).toNat)

-- Exactly the words of the header are converted, and extract finds its ids.
structure HeaderRight (mem : List UInt8) : Prop where
  converted : Converted mem (fixHdr mem) (headerWords mem)
  ids : extract (fixHdr mem) = sentIds mem

-- fix_hdr looks for the T bit in the second byte. Where that is not what the first
-- one says, six words are taken for as many as are flagged or the other way round.
def TakenAlike (mem : List UInt8) : Prop :=
  CTBIT (hostWord mem 0) ≠ CTBIT (sentVersion mem) → ∀ i, min 6 (flaggedWords (sentVersion mem)) ≤ i →
    i < max 6 (flaggedWords (sentVersion mem)) → byteAt mem (2 * i) = byteAt mem (2 * i + 1)

-- extract takes a header without the L bit for one without a length.
def LengthGiven (mem : List UInt8) : Prop :=
  CTBIT (sentVersion mem) = true → PLBIT (sentVersion mem) = false → netWord mem 2 = netWord mem 4 ∧
    netWord mem 4 = netWord mem 6

instance (mem : List UInt8) : Decidable (LengthGiven mem) := inferInstanceAs (Decidable (_ → _ → _))

theorem flaggedWords_bounds (ver : U16) : 3 ≤ flaggedWords ver ∧ flaggedWords ver ≤ 7 ∧
    (PLBIT ver = true → 4 ≤ flaggedWords ver) := by
  unfold flaggedWords
  cases PSBIT ver <;> cases PLBIT ver <;> cases PFBIT ver <;> simp

theorem fixHdr_swaps (mem : List UInt8) :
    fixHdr mem = swaps mem 0 (if CTBIT (hostWord mem 0) then 6 else flaggedWords (sentVersion mem)) := by
  unfold fixHdr
  cases CTBIT (hostWord mem 0) <;> rfl

theorem fixHdr_converts_iff (mem : List UInt8) (room : 14 ≤ mem.length) :
    Converted mem (fixHdr mem) (headerWords mem) ↔ TakenAlike mem := by
  have bounds := flaggedWords_bounds (sentVersion mem)
  have inside : 2 * (if CTBIT (hostWord mem 0) then 6 else flaggedWords (sentVersion mem)) ≤ mem.length := by
    split <;> omega
  rw [fixHdr_swaps, swaps_converts_iff mem _ _ inside]
  unfold headerWords TakenAlike
  cases looked : CTBIT (hostWord mem 0) <;> cases sent : CTBIT (sentVersion mem)
  case false.false => exact ⟨fun _ differ => absurd rfl differ, fun _ i above below => by simp at above below; omega⟩
  case false.true => simp [Nat.min_comm, Nat.max_comm]
  case true.false => simp
  case true.true => exact ⟨fun _ differ => absurd rfl differ, fun _ i above below => by simp at above below; omega⟩

theorem extract_ids_iff (mem : List UInt8) (room : 14 ≤ mem.length) : extract (fixHdr mem) = sentIds mem ↔
    LengthGiven mem := by
  have bounds := flaggedWords_bounds (sentVersion mem)
  have word (i : Nat) (near : i < 6 ∧ i < flaggedWords (sentVersion mem)) :
      hostWord (fixHdr mem) (0 + 2 * i) = netWord mem (0 + 2 * i) := by
    rw [fixHdr_swaps]
    refine hostWord_swapped mem 0 _ i ?_ ?_
    · split <;> omega
    · split <;> omega
  have version : hostWord (fixHdr mem) 0 = sentVersion mem := word 0 (by omega)
  have first : hostWord (fixHdr mem) 2 = netWord mem 2 := word 1 (by omega)
  have second : hostWord (fixHdr mem) 4 = netWord mem 4 := word 2 (by omega)
  unfold extract sentIds LengthGiven
  rw [version, first, second]
  cases given : PLBIT (sentVersion mem) with
  | true =>
      have third : hostWord (fixHdr mem) 6 = netWord mem 6 := word 3 (by have := bounds.2.2 given; omega)
      simp [third]
  | false =>
      cases control : CTBIT (sentVersion mem) with
      | true => simp [BitVec.toNat_inj]
      | false => simp

-- The header is converted as its first byte says, and its ids are found.
theorem header_order_iff (mem : List UInt8) (room : 14 ≤ mem.length) : HeaderRight mem ↔ TakenAlike mem ∧
    LengthGiven mem := by
  rw [← fixHdr_converts_iff mem room, ← extract_ids_iff mem room]
  exact ⟨fun right => ⟨right.converted, right.ids⟩, fun both => ⟨both.1, both.2⟩⟩

-- A request as every peer sends it.
theorem header_order_request :
    HeaderRight (ControlHdr.wire ⟨0xC802, 20, 0, 0, 0, 0⟩ ++ [0x80, 8, 0, 0, 0, 0, 0, 1]) := by
  refine (header_order_iff _ (by decide)).mpr ⟨fun differ i above below => ?_, by decide⟩
  have none' : min 6 (flaggedWords 0xC802) = 6 ∧ max 6 (flaggedWords 0xC802) = 6 := by decide
  have above' : min 6 (flaggedWords 0xC802) ≤ i := above
  have below' : i < max 6 (flaggedWords 0xC802) := below
  omega

-- With the O bit set one word more is swapped than the header has, and the first
-- AVP is no longer what was sent.
theorem header_order_offset_bit : ¬ ∀ mem : List UInt8, 14 ≤ mem.length → HeaderRight mem := by
  intro claimed
  have right := claimed (ControlHdr.wire ⟨0xCA02, 20, 0, 0, 0, 0⟩ ++ [0x80, 8, 0, 0, 0, 0, 0, 1]) (by decide)
  have kept := right.converted.behind 12 (by decide)
  exact absurd kept (by decide)

end ZyAgf.Xl2tpd
