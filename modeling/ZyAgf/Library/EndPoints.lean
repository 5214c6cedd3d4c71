import Mathlib.Data.List.Range
import ZyAgf.Library.Run

set_option autoImplicit false

namespace ZyAgf

universe u v

-- The two ends of a link. A step that happens at one of them leaves the other as
-- it is.
inductive EndPoint where
  | near | far
deriving DecidableEq, Repr

namespace EndPoint

def other : EndPoint → EndPoint
  | .near => .far
  | .far => .near

theorem other_ne (side : EndPoint) : side.other ≠ side := by
  cases side <;> decide

theorem other_other (side : EndPoint) : side.other.other = side := by
  cases side <;> rfl

theorem other_of_ne (side side' : EndPoint) (different : side' ≠ side) : side' = side.other := by
  cases side <;> cases side' <;> first | rfl | exact absurd rfl different

variable {T : Type u}

def pair (near far : T) : EndPoint → T
  | .near => near
  | .far => far

theorem update_here (ends : EndPoint → T) (side : EndPoint) (t : T) : Function.update ends side t side = t :=
    Function.update_self side t ends

theorem update_other (ends : EndPoint → T) (side : EndPoint)
    (t : T) : Function.update ends side t side.other = ends side.other :=
  Function.update_of_ne (other_ne side) t ends

theorem update_at_other (ends : EndPoint → T) (side : EndPoint)
    (t : T) : Function.update ends side.other t side = ends side :=
  Function.update_of_ne (other_ne side).symm t ends

end EndPoint

def Run.stream {S : Type u} {E : Type v} {B : Type v} (reads : E → List B) (visits : List (S × E)) : List B :=
  visits.flatMap fun visit => reads visit.2

theorem Run.stream_snoc {S : Type u} {E : Type v} {B : Type v} (reads : E → List B) (visits : List (S × E)) (state : S)
    (event : E) :
    Run.stream reads (visits ++ [(state, event)]) = Run.stream reads visits ++ reads event := by
  simp [Run.stream]

def InOrder (numbers : List Nat) : Prop := numbers = List.range numbers.length

theorem inOrder_snoc (numbers : List Nat) (number : Nat) (order : InOrder (numbers ++ [number])) :
    InOrder numbers ∧ number = numbers.length := by
  unfold InOrder at order
  rw [List.length_append, List.length_singleton, List.range_succ] at order
  obtain ⟨front, last⟩ := List.append_inj' order rfl
  exact ⟨front, List.singleton_inj.mp last⟩

theorem inOrder_take {A : Type u} {B : Type v} (items : List A) (missing : A) (encode : A → List B) (numbers : List Nat)
    (order : InOrder numbers) (bound : ∀ number ∈ numbers, number < items.length) :
    (numbers.flatMap fun number => encode (items.getD number missing)) =
    (items.take numbers.length).flatMap encode := by
  induction numbers using List.reverseRecOn with
  | nil => rfl
  | append_singleton numbers number ih =>
      obtain ⟨before, rfl⟩ := inOrder_snoc numbers number order
      have inside : numbers.length < items.length := bound _ (List.mem_append_right _ (List.mem_singleton_self _))
      have earlier := ih before fun other member => bound other (List.mem_append_left _ member)
      rw [List.flatMap_append, earlier, List.flatMap_singleton, List.length_append, List.length_singleton,
        List.take_add_one,
        List.flatMap_append, List.getD_eq_getElem?_getD, List.getElem?_eq_getElem inside, Option.getD_some,
          Option.toList_some,
        List.flatMap_singleton]

end ZyAgf
