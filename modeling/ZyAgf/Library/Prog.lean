import Mathlib.Logic.Basic

set_option autoImplicit false

namespace ZyAgf

-- A program over a state either stops in a new state or goes wrong: it follows
-- a null or dangling pointer, or it never stops.
abbrev Prog (S : Type) := StateT S Option

namespace Prog

variable {S α β : Type}

def wrong : Prog S α := fun _ => none

def onlyWhen (c : Prop) [Decidable c] (act : Prog S PUnit) : Prog S PUnit := if c then act else pure ()

-- The partial-correctness relation of a program: whatever it does, it moves the
-- state along rel.
def Within (rel : S → S → Prop) (prog : Prog S α) : Prop :=
  ∀ s a s', prog s = some (a, s') → rel s s'

-- The relations worth having are closed under doing nothing and under doing one
-- thing after another.
class Steady (rel : S → S → Prop) : Prop where
  refl : ∀ s, rel s s
  trans : ∀ s s' s'', rel s s' → rel s' s'' → rel s s''

theorem pure_some (a b : α) (s s' : S) : (pure a : Prog S α) s = some (b, s') ↔ a = b ∧ s = s' := by
  show some (a, s) = some (b, s') ↔ _
  rw [Option.some.injEq, Prod.mk.injEq]

theorem bind_some (first : Prog S α) (later : α → Prog S β) (s s'' : S) (b : β) :
    (first >>= later) s = some (b, s'') ↔ ∃ a s', first s = some (a, s') ∧ later a s' = some (b, s'') := by
  show (first s).bind (fun p => later p.1 p.2) = some (b, s'') ↔ _
  rw [Option.bind_eq_some_iff]
  constructor
  · rintro ⟨⟨a, s'⟩, ran, rest⟩
    exact ⟨a, s', ran, rest⟩
  · rintro ⟨a, s', ran, rest⟩
    exact ⟨(a, s'), ran, rest⟩

theorem get_some (s a s' : S) : (get : Prog S S) s = some (a, s') ↔ s = a ∧ s = s' := by
  show some (s, s) = some (a, s') ↔ _
  rw [Option.some.injEq, Prod.mk.injEq]

theorem modify_some (f : S → S) (s s' : S) (a : PUnit) : (modify f : Prog S PUnit) s = some (a, s') ↔ f s = s' := by
  show some (PUnit.unit, f s) = some (a, s') ↔ _
  rw [Option.some.injEq, Prod.mk.injEq]
  exact ⟨fun both => both.2, fun same => ⟨rfl, same⟩⟩

theorem wrong_some (s s' : S) (a : α) : (wrong : Prog S α) s = some (a, s') ↔ False := by
  simp [wrong]

section Rules

variable (rel : S → S → Prop) [steady : Steady rel]

theorem within_pure (a : α) : Within rel (pure a : Prog S α) := by
  intro s b s' ran
  obtain ⟨_, rfl⟩ := (pure_some a b s s').mp ran
  exact steady.refl s

theorem within_get : Within rel (get : Prog S S) := by
  intro s a s' ran
  obtain ⟨_, rfl⟩ := (get_some s a s').mp ran
  exact steady.refl s

omit steady in
theorem within_wrong : Within rel (wrong : Prog S α) := by
  intro s a s' ran
  exact ((wrong_some s s' a).mp ran).elim

omit steady in
theorem within_modify (f : S → S) (moves : ∀ s, rel s (f s)) : Within rel (modify f : Prog S PUnit) := by
  intro s a s' ran
  obtain rfl := (modify_some f s s' a).mp ran
  exact moves s

variable {rel}

theorem within_bind {first : Prog S α} {later : α → Prog S β} (one : Within rel first)
    (rest : ∀ a, Within rel (later a)) : Within rel (first >>= later) := by
  intro s b s'' ran
  obtain ⟨a, s', moved, followed⟩ := (bind_some first later s s'' b).mp ran
  exact steady.trans s s' s'' (one s a s' moved) (rest a s' b s'' followed)

theorem within_forM (items : List α) (body : α → Prog S PUnit) (each : ∀ a ∈ items, Within rel (body a)) :
    Within rel (items.forM body) := by
  induction items with
  | nil => exact within_pure rel PUnit.unit
  | cons item rest ih =>
      show Within rel (body item >>= fun _ => rest.forM body)
      exact within_bind (each item List.mem_cons_self) fun _ => ih fun a member =>
        each a (List.mem_cons_of_mem _ member)

end Rules

theorem within_ite (rel : S → S → Prop) (c : Prop) [Decidable c] (yes no : Prog S α) (ifYes : c → Within rel yes)
    (ifNo : ¬ c → Within rel no) : Within rel (if c then yes else no) := by
  by_cases holds : c
  · rw [if_pos holds]
    exact ifYes holds
  · rw [if_neg holds]
    exact ifNo holds

theorem within_onlyWhen (rel : S → S → Prop) [Steady rel] (c : Prop) [Decidable c] (act : Prog S PUnit)
    (within : c → Within rel act) : Within rel (onlyWhen c act) :=
  within_ite rel c act (pure ()) within fun _ => within_pure rel ()

-- What a program does at its end may be less orderly than what went before.
structure Leads (small large : S → S → Prop) : Prop where
  implies : ∀ s s', small s s' → large s s'
  joins : ∀ s s' s'', small s s' → large s' s'' → large s s''

theorem Leads.self (rel : S → S → Prop) [Steady rel] : Leads rel rel := ⟨fun _ _ => id, Steady.trans⟩

theorem within_lead {small large : S → S → Prop} (leads : Leads small large) {first : Prog S α} {later : α → Prog S β}
    (one : Within small first) (rest : ∀ a, Within large (later a)) : Within large (first >>= later) := by
  intro s b s'' ran
  obtain ⟨a, s', moved, followed⟩ := (bind_some first later s s'' b).mp ran
  exact leads.joins s s' s'' (one s a s' moved) (rest a s' b s'' followed)

theorem within_weaken (small large : S → S → Prop) (prog : Prog S α) (implies : ∀ s s', small s s' → large s s')
    (within : Within small prog) : Within large prog :=
  fun s a s' ran => implies s s' (within s a s' ran)

end Prog

end ZyAgf
