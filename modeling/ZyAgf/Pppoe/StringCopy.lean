import Mathlib.Algebra.Group.Int.Defs
import Mathlib.Algebra.Group.Nat.Defs
import Mathlib.Data.List.Basic

set_option autoImplicit false

namespace ZyAgf.Pppoe

def store (dst : List UInt8) (i : Nat) (c : UInt8) : Option (List UInt8) :=
    if i < dst.length then some (dst.set i c) else none

-- The loop of rp_strlcpy, with what is left of the size after its test, the bytes
-- that src points to, and how far both pointers are. It ends with the size.
def copyLoop : Nat → List UInt8 → List UInt8 → Nat → Option (List UInt8 × Nat × Nat)
  | 0, _, dst, i => some (dst, i, 0)
  | _ + 1, [], _, _ => none
  | left + 1, c :: src, dst, i => do
      let dst ← store dst i c
      if c = 0 then some (dst, i + 1, left + 1) else copyLoop left src dst (i + 1)

def rpStrlcpy (dst src : List UInt8) (size : Nat) : Option (List UInt8 × UInt64) :=
  if size = 0 then some (dst, 0)
  else do
    let (dst, i, left) ← copyLoop (size - 1) src dst 0
    let dst ← if left = 0 then store dst i 0 else some dst
    return (dst, UInt64.ofNat i - 1)

theorem store_append (front rest : List UInt8) (byte c : UInt8) :
    store (front ++ byte :: rest) front.length c = some (front ++ c :: rest) := by
  have inside : front.length < (front ++ byte :: rest).length := by simp
  rw [store, if_pos inside, List.set_append_right _ _ (Nat.le_refl _), Nat.sub_self]
  rfl

theorem copyLoop_whole (left : Nat) (text behind front room : List UInt8) (nonzero : ∀ byte ∈ text, byte ≠ 0)
    (short : text.length < left) (roomy : left < room.length) :
    copyLoop left (text ++ 0 :: behind) (front ++ room) front.length =
      some (front ++ (text ++ 0 :: room.drop (text.length + 1)), front.length + text.length + 1,
        left - text.length) := by
  induction left generalizing text front room with
  | zero => exact absurd short (Nat.not_lt_zero _)
  | succ left ih =>
      obtain ⟨byte, room, rfl⟩ := List.exists_cons_of_ne_nil
        (List.ne_nil_of_length_pos (Nat.lt_of_le_of_lt (Nat.zero_le _) roomy))
      cases text with
      | nil =>
          rw [List.nil_append, copyLoop, store_append]
          rfl
      | cons c text =>
          have nonzero' := List.forall_mem_cons.mp nonzero
          have later := ih text (front ++ [c]) room nonzero'.2 (by simpa using short) (by simpa using roomy)
          rw [List.cons_append, copyLoop, store_append]
          simp only [Option.bind_eq_bind, Option.bind_some]
          rw [if_neg nonzero'.1]
          simp only [List.length_append, List.length_singleton, List.append_assoc, List.singleton_append] at later
          rw [later]
          simp only [List.length_cons, List.drop_succ_cons, List.cons_append, Nat.reduceSubDiff]
          congr 3
          omega

theorem copyLoop_full (left : Nat) (text behind front room : List UInt8) (nonzero : ∀ byte ∈ text, byte ≠ 0)
    (long : left ≤ text.length) (roomy : left < room.length) :
    copyLoop left (text ++ 0 :: behind) (front ++ room) front.length =
      some (front ++ (text.take left ++ room.drop left), front.length + left, 0) := by
  induction left generalizing text front room with
  | zero => rfl
  | succ left ih =>
      obtain ⟨byte, room, rfl⟩ := List.exists_cons_of_ne_nil
        (List.ne_nil_of_length_pos (Nat.lt_of_le_of_lt (Nat.zero_le _) roomy))
      cases text with
      | nil => exact absurd long (Nat.not_succ_le_zero _)
      | cons c text =>
          have nonzero' := List.forall_mem_cons.mp nonzero
          have later := ih text (front ++ [c]) room nonzero'.2 (by simpa using long) (by simpa using roomy)
          rw [List.cons_append, copyLoop, store_append]
          simp only [Option.bind_eq_bind, Option.bind_some]
          rw [if_neg nonzero'.1]
          simp only [List.length_append, List.length_singleton, List.append_assoc, List.singleton_append] at later
          rw [later, List.take_succ_cons, List.drop_succ_cons, List.cons_append, Nat.add_assoc, Nat.add_comm 1]

section Copies

variable (dst text behind : List UInt8) (size : Nat)

-- What rp_strlcpy puts into a destination, and what it is to return.
def copied : List UInt8 := text.take (size - 1) ++ 0 :: dst.drop (min text.length (size - 1) + 1)

def Counts (count : UInt64) : Prop := count.toNat = min text.length (size - 1)

instance (count : UInt64) : Decidable (Counts text size count) := inferInstanceAs (Decidable (_ = _))

theorem rpStrlcpy_copies (nonzero : ∀ byte ∈ text, byte ≠ 0) (positive : 0 < size) (roomy : size ≤ dst.length) :
    rpStrlcpy dst (text ++ 0 :: behind) size = some (copied dst text size,
      if text.length + 2 ≤ size then UInt64.ofNat text.length else UInt64.ofNat (size - 1) - 1) := by
  unfold rpStrlcpy copied
  rw [if_neg (Nat.ne_of_gt positive)]
  by_cases whole : text.length + 2 ≤ size
  · have ran := copyLoop_whole (size - 1) text behind [] dst nonzero (by omega) (by omega)
    simp only [List.nil_append, List.length_nil, Nat.zero_add] at ran
    have left : ¬ size - 1 - text.length = 0 := by omega
    have short : min text.length (size - 1) = text.length := by omega
    rw [ran, if_pos whole, List.take_of_length_le (by omega), short]
    simp only [Option.bind_eq_bind, Option.bind_some, if_neg left]
    rw [UInt64.ofNat_add]
    simp
  · have ran := copyLoop_full (size - 1) text behind [] dst nonzero (by omega) (by omega)
    simp only [List.nil_append, List.length_nil, Nat.zero_add] at ran
    have full : min text.length (size - 1) = size - 1 := by omega
    obtain ⟨byte, beyond, rest⟩ : ∃ byte beyond, dst.drop (size - 1) = byte :: beyond :=
      List.exists_cons_of_ne_nil (List.ne_nil_of_length_pos (by simp; omega))
    have taken : (text.take (size - 1)).length = size - 1 := by simp; omega
    have terminated := store_append (text.take (size - 1)) beyond byte 0
    rw [taken, ← rest] at terminated
    have behind' : dst.drop (size - 1 + 1) = beyond := by
      rw [← List.drop_drop, rest]
      rfl
    rw [ran, if_neg whole, full, behind']
    simp only [Option.bind_eq_bind, Option.bind_some, if_true]
    rw [terminated]
    rfl

-- For every destination of the size and every string behind a terminator: the copy
-- and its count are right if and only if the loop comes to the terminator itself.
theorem rp_strlcpy_counts (nonzero : ∀ byte ∈ text, byte ≠ 0) (positive : 0 < size) (roomy : size ≤ dst.length)
    (addressable : size < 2 ^ 64) :
    (∃ count, rpStrlcpy dst (text ++ 0 :: behind) size = some (copied dst text size, count) ∧ Counts text size count) ↔
      text.length + 2 ≤ size := by
  have ran := rpStrlcpy_copies dst text behind size nonzero positive roomy
  rw [ran]
  constructor
  · rintro ⟨count, same, counts⟩
    by_contra room
    obtain rfl : UInt64.ofNat (size - 1) - 1 = count := by
      have second := congrArg Prod.snd (Option.some.inj same)
      rwa [if_neg room] at second
    have full : min text.length (size - 1) = size - 1 := by omega
    unfold Counts at counts
    rw [full, UInt64.toNat_sub, UInt64.toNat_ofNat_of_lt' (Nat.lt_of_le_of_lt (Nat.sub_le _ _) addressable)] at counts
    change (2 ^ 64 - 1 + (size - 1)) % 2 ^ 64 = size - 1 at counts
    omega
  · intro whole
    have short : min text.length (size - 1) = text.length := by omega
    refine ⟨UInt64.ofNat text.length, by rw [if_pos whole], ?_⟩
    rw [Counts, short]
    exact UInt64.toNat_ofNat_of_lt' (show text.length < 2 ^ 64 by omega)

end Copies

theorem rp_strlcpy_counts_ab : ∃ count, rpStrlcpy [7, 7, 7, 7, 7] [97, 98, 0, 9] 4 = some ([97, 98, 0, 7, 7], count) ∧
    Counts [97, 98] 4 count :=
  (rp_strlcpy_counts [7, 7, 7, 7, 7] [97, 98] [9] 4 (by simp) (by decide) (by decide) (by decide)).mpr (by decide)

-- A string that fills the destination, and a destination for the terminator alone.
theorem rp_strlcpy_short :
    rpStrlcpy [7, 7, 7, 7] [97, 98, 99, 0] 4 = some ([97, 98, 99, 0], 2) ∧
      rpStrlcpy [7] [97, 98, 99, 0] 1 = some ([0], UInt64.ofNat (2 ^ 64 - 1)) ∧
      ¬ ∀ (dst text behind : List UInt8) (size : Nat), (∀ byte ∈ text, byte ≠ 0) → 0 < size → size ≤ dst.length →
        size < 2 ^ 64 →
        ∃ count, rpStrlcpy dst (text ++ 0 :: behind) size = some (copied dst text size, count) ∧
          Counts text size count := by
  refine ⟨by decide, by decide, fun claimed => ?_⟩
  obtain ⟨count, same, counts⟩ := claimed [7, 7, 7, 7] [97, 98, 99] [] 4 (by simp) (by decide) (by decide) (by decide)
  have two : rpStrlcpy [7, 7, 7, 7] [97, 98, 99, 0] 4 = some (copied [7, 7, 7, 7] [97, 98, 99] 4, 2) := by decide
  obtain rfl : 2 = count := congrArg Prod.snd (Option.some.inj (two.symm.trans same))
  revert counts
  decide

end ZyAgf.Pppoe
