import Mathlib.Data.BitVec
import Mathlib.Data.List.Chain

set_option autoImplicit false

namespace ZyAgf.Serial

variable {w : Nat}

-- Serial numbers of w bits live on a ring of 2 ^ w values. The distance is
-- counted forward, so it is never symmetric.
def dist (a b : BitVec w) : Nat := (b - a).toNat

def Before (a b : BitVec w) : Prop := 0 < dist a b ∧ 2 * dist a b < 2 ^ w

-- Two numbers straddle the wrap when they are half the ring or more apart as
-- plain integers. Subtraction is truncated, so one disjunct is always idle.
def Straddles (a b : BitVec w) : Prop :=
  2 ^ w ≤ 2 * (a.toNat - b.toNat) ∨ 2 ^ w ≤ 2 * (b.toNat - a.toNat)

instance (a b : BitVec w) : Decidable (Before a b) := inferInstanceAs (Decidable (_ ∧ _))
instance (a b : BitVec w) : Decidable (Straddles a b) := inferInstanceAs (Decidable (_ ∨ _))

theorem dist_self (a : BitVec w) : dist a a = 0 := by
  simp [dist]

theorem dist_lt (a b : BitVec w) : dist a b < 2 ^ w := (b - a).isLt

theorem dist_of_le (a b : BitVec w) (le : a.toNat ≤ b.toNat) : dist a b = b.toNat - a.toNat :=
  BitVec.toNat_sub_of_le le

theorem dist_of_lt (a b : BitVec w) (lt : b.toNat < a.toNat) : dist a b = 2 ^ w - (a.toNat - b.toNat) :=
  BitVec.toNat_sub_of_lt lt

theorem dist_eq_zero (a b : BitVec w) : dist a b = 0 ↔ a = b := by
  constructor
  · intro zero
    have same : b - a = 0#w := BitVec.eq_of_toNat_eq (by simpa [dist] using zero)
    have sum := BitVec.sub_add_cancel b a
    rw [same, BitVec.zero_add] at sum
    exact sum
  · rintro rfl
    exact dist_self a

theorem before_irrefl (a : BitVec w) : ¬ Before a a := by
  simp [Before, dist_self]

theorem before_iff_lt (a b : BitVec w) (near : ¬ Straddles a b) : Before a b ↔ a.toNat < b.toNat := by
  unfold Straddles at near
  unfold Before
  have aBound := a.isLt
  have bBound := b.isLt
  rcases Nat.lt_or_ge b.toNat a.toNat with behind | ahead
  · rw [dist_of_lt a b behind]
    omega
  · rw [dist_of_le a b ahead]
    omega

theorem lt_agrees_iff (a b : BitVec w) (window : 2 * dist a b ≠ 2 ^ w) :
    (a.toNat < b.toNat ↔ Before a b) ↔ ¬ Straddles a b := by
  constructor
  · intro agree straddle
    unfold Straddles at straddle
    unfold Before at agree
    have aBound := a.isLt
    have bBound := b.isLt
    rcases Nat.lt_or_ge b.toNat a.toNat with behind | ahead
    · rw [dist_of_lt a b behind] at agree window
      omega
    · rw [dist_of_le a b ahead] at agree window
      omega
  · intro near
    exact (before_iff_lt a b near).symm

def travelled (a : BitVec w) : List (BitVec w) → Nat
  | [] => 0
  | b :: rest => dist a b + travelled b rest

theorem dist_trans (a b c : BitVec w) : (dist a b + dist b c) % 2 ^ w = dist a c := by
  unfold dist
  rw [← sub_add_sub_cancel' b a c, BitVec.toNat_add]

theorem travelled_mod (a last : BitVec w) (between : List (BitVec w)) :
    travelled a (between ++ [last]) % 2 ^ w = dist a last := by
  induction between generalizing a with
  | nil => exact Nat.mod_eq_of_lt (dist_lt a last)
  | cons b rest ih =>
      show (dist a b + travelled b (rest ++ [last])) % 2 ^ w = dist a last
      rw [Nat.add_mod, ih b, Nat.mod_eq_of_lt (dist_lt a b), dist_trans]

theorem wraps_between (n : BitVec w) (between : List (BitVec w)) (forward : (n :: between ++ [n]).IsChain Before) :
    2 ^ w ≤ travelled n (between ++ [n]) := by
  have whole : travelled n (between ++ [n]) % 2 ^ w = 0 := by
    rw [travelled_mod, dist_self]
  have moved : 0 < travelled n (between ++ [n]) := by
    cases between with
    | nil => exact absurd (List.isChain_pair.mp forward) (before_irrefl n)
    | cons b rest =>
        have first : Before n b := (List.isChain_cons_cons.mp forward).1
        exact Nat.lt_of_lt_of_le first.1 (Nat.le_add_right _ _)
  exact Nat.le_of_dvd moved (Nat.dvd_of_mod_eq_zero whole)

-- From a the number b is reached going forward, and the limit is not passed.
def Reached (a b limit : BitVec w) : Prop := (b = a ∨ Before a b) ∧ dist a b ≤ dist a limit

instance (a b limit : BitVec w) : Decidable (Reached a b limit) := inferInstanceAs (Decidable (_ ∧ _))

theorem reached_self (a limit : BitVec w) : Reached a a limit := by
  refine ⟨.inl rfl, ?_⟩
  rw [dist_self]
  exact Nat.zero_le _

theorem ofNat_count (n : Nat) : BitVec.ofNat w n + 1#w = BitVec.ofNat w (n + 1) := by
  rw [BitVec.ofNat_add]

end ZyAgf.Serial
