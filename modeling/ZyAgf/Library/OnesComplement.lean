import Mathlib.Algebra.Group.Int.Defs
import Mathlib.Algebra.Group.Nat.Defs
import Mathlib.Data.List.Basic

set_option autoImplicit false

namespace ZyAgf

-- Sixteen-bit sums in one's complement, words taken with their low byte first
-- and a last odd byte as a word of its own.

def wordSum : List UInt8 → Nat
  | [] => 0
  | [last] => last.toNat
  | low :: high :: rest => low.toNat + 256 * high.toNat + wordSum rest

def foldCarries : Nat → Nat → Nat
  | 0, sum => sum
  | fuel + 1, sum => if sum / 65536 = 0 then sum else foldCarries fuel (sum % 65536 + sum / 65536)

theorem wordSum_le (bytes : List UInt8) : 2 * wordSum bytes ≤ 65535 * (bytes.length + 1) := by
  induction bytes using wordSum.induct with
  | case1 => simp [wordSum]
  | case2 last =>
      have := last.toNat_lt
      simp only [wordSum, List.length_singleton]
      omega
  | case3 low high rest ih =>
      have := low.toNat_lt
      have := high.toNat_lt
      simp only [wordSum, List.length_cons]
      omega

theorem wordSum_set_word (bytes : List UInt8) (k : Nat) (low high : UInt8) (inside : 2 * k + 1 < bytes.length) :
    wordSum ((bytes.set (2 * k) low).set (2 * k + 1) high) +
      ((bytes.getD (2 * k) 0).toNat + 256 * (bytes.getD (2 * k + 1) 0).toNat) =
      wordSum bytes + (low.toNat + 256 * high.toNat) := by
  induction bytes using wordSum.induct generalizing k with
  | case1 => simp at inside
  | case2 last => simp at inside
  | case3 first second rest ih =>
      cases k with
      | zero =>
          simp [wordSum]
          omega
      | succ k =>
          have later := ih k (by simp at inside; omega)
          simp only [Nat.mul_add, Nat.mul_one, Nat.add_assoc, Nat.reduceAdd, List.set_cons_succ, wordSum,
            List.getD_cons_succ] at later ⊢
          omega

theorem foldCarries_mod (fuel sum : Nat) : foldCarries fuel sum % 65535 = sum % 65535 := by
  induction fuel generalizing sum with
  | zero => rfl
  | succ fuel ih =>
      unfold foldCarries
      split
      · rfl
      · rw [ih]
        omega

theorem foldCarries_pos (fuel sum : Nat) (positive : 0 < sum) : 0 < foldCarries fuel sum := by
  induction fuel generalizing sum with
  | zero => exact positive
  | succ fuel ih =>
      unfold foldCarries
      split
      · exact positive
      · exact ih _ (by omega)

theorem foldCarries_done (fuel sum : Nat) (small : sum < 65536) : foldCarries fuel sum = sum := by
  cases fuel with
  | zero => rfl
  | succ fuel => rw [foldCarries, if_pos (by omega)]

theorem foldCarries_small (fuel sum : Nat) (bounded : sum < 2 ^ 32) : foldCarries (fuel + 2) sum < 65536 := by
  unfold foldCarries
  split
  · omega
  · unfold foldCarries
    split
    · omega
    · rw [foldCarries_done fuel _ (by omega)]
      omega

theorem foldCarries_complement (fuel sum : Nat) (positive : 0 < sum) (bounded : sum + 65536 < 2 ^ 32) :
    foldCarries (fuel + 2) (sum + (65535 - foldCarries (fuel + 2) sum)) = 65535 := by
  have small := foldCarries_small fuel sum (by omega)
  have same := foldCarries_mod (fuel + 2) sum
  have total := foldCarries_mod (fuel + 2) (sum + (65535 - foldCarries (fuel + 2) sum))
  have below := foldCarries_small fuel (sum + (65535 - foldCarries (fuel + 2) sum)) (by omega)
  have above := foldCarries_pos (fuel + 2) (sum + (65535 - foldCarries (fuel + 2) sum)) (by omega)
  omega

end ZyAgf
