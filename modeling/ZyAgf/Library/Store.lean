import Mathlib.Logic.Basic

set_option autoImplicit false

namespace ZyAgf

universe u v w

variable {P : Type u} {A : Type v} {B : Type w} [DecidableEq P]

-- A store gives every address a value; which addresses are in use is the
-- business of whoever owns the store.
def write (store : P → A) (address : P) (value : A) : P → A :=
  fun other => if other = address then value else store other

@[simp] theorem write_here (store : P → A) (address : P) (value : A) : write store address value address = value :=
  if_pos rfl

theorem write_elsewhere (store : P → A) (address other : P) (value : A) (different : other ≠ address) :
    write store address value other = store other :=
  if_neg different

theorem write_comp (project : A → B) (store : P → A) (address : P) (value : A) :
    (fun other => project (write store address value other)) =
      write (fun other => project (store other)) address (project value) := by
  funext other
  unfold write
  split <;> rfl

theorem write_same (store : P → A) (project : A → B) (address : P) (value : A)
    (same : project value = project (store address)) (other : P) :
    project (write store address value other) = project (store other) := by
  unfold write
  split
  · next here => rw [same, here]
  · rfl

end ZyAgf
