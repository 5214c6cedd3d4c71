import Mathlib.Data.List.Basic

set_option autoImplicit false

namespace ZyAgf

universe u v

-- A function of whole blocks fed with a stream: what it makes of the blocks so
-- far, and the items that wait for the rest of theirs.
section Blocks

variable {S : Type u} {A : Type v} (size : Nat) (take : S → List A → S)

def absorbFrom : Nat → S → List A → S × List A
  | 0, state, items => (state, items)
  | fuel + 1, state, items =>
      if items.length < size then (state, items) else absorbFrom fuel (take state (items.take size)) (items.drop size)

def absorb (state : S) (items : List A) : S × List A := absorbFrom size take items.length state items

variable (positive : 0 < size)

include positive

theorem absorbFrom_fuel (fuel other : Nat) (state : S) (items : List A) (enough : items.length ≤ fuel)
    (enough' : items.length ≤ other) :
    absorbFrom size take fuel state items = absorbFrom size take other state items := by
  induction fuel generalizing other state items with
  | zero =>
      obtain rfl := List.length_eq_zero_iff.mp (Nat.le_zero.mp enough)
      cases other with
      | zero => rfl
      | succ other => exact (if_pos positive).symm
  | succ fuel ih =>
      cases other with
      | zero =>
          obtain rfl := List.length_eq_zero_iff.mp (Nat.le_zero.mp enough')
          exact if_pos positive
      | succ other =>
          unfold absorbFrom
          by_cases short : items.length < size
          · rw [if_pos short, if_pos short]
          · rw [if_neg short, if_neg short]
            have left : (items.drop size).length = items.length - size := List.length_drop
            exact ih other _ _ (by omega) (by omega)

omit positive in
theorem absorb_short (state : S) (items : List A) (short : items.length < size) : absorb size take state items =
    (state, items) := by
  unfold absorb
  cases items with
  | nil => rfl
  | cons item rest =>
      rw [List.length_cons]
      exact if_pos short

theorem absorb_block (state : S) (block rest : List A) (whole : block.length = size) :
    absorb size take state (block ++ rest) = absorb size take (take state block) rest := by
  unfold absorb
  have length : (block ++ rest).length = size + rest.length := by rw [List.length_append, whole]
  obtain ⟨fuel, counted⟩ : ∃ fuel, (block ++ rest).length = fuel + 1 := ⟨size + rest.length - 1, by omega⟩
  rw [counted, absorbFrom, if_neg (by omega), List.take_left' whole, List.drop_left' whole]
  exact absorbFrom_fuel size take positive fuel rest.length _ _ (by omega) (Nat.le_refl _)

omit positive in
theorem absorb_cases (items : List A) : items.length < size ∨ ∃ block rest, items = block ++ rest ∧
    block.length = size := by
  by_cases short : items.length < size
  · exact .inl short
  · exact .inr ⟨items.take size, items.drop size, (List.take_append_drop size items).symm, by
      rw [List.length_take]
      omega⟩

theorem absorb_rest (state : S) (items : List A) : (absorb size take state items).2.length = items.length % size := by
  induction hn : items.length using Nat.strongRecOn generalizing state items with
  | _ n ih =>
      rcases absorb_cases size items with short | ⟨block, rest, rfl, whole⟩
      · rw [absorb_short size take state items short, ← hn, Nat.mod_eq_of_lt short]
      · rw [List.length_append, whole] at hn
        rw [absorb_block size take positive state block rest whole, ih rest.length (by omega) _ rest rfl, ← hn,
          Nat.add_mod_left]

theorem absorb_append (state : S) (items more : List A) : absorb size take state (items ++ more) =
    absorb size take (absorb size take state items).1 ((absorb size take state items).2 ++ more) := by
  induction hn : items.length using Nat.strongRecOn generalizing state items with
  | _ n ih =>
      rcases absorb_cases size items with short | ⟨block, rest, rfl, whole⟩
      · rw [absorb_short size take state items short]
      · rw [List.length_append, whole] at hn
        rw [List.append_assoc, absorb_block size take positive state block _ whole,
          absorb_block size take positive state block rest whole]
        exact ih rest.length (by omega) _ rest rfl

end Blocks

end ZyAgf
