import ZyAgf.Library.Prog

set_option autoImplicit false

namespace ZyAgf.Prog

variable {S α β : Type}

-- Total correctness: started here the program stops without going wrong, and
-- post holds of what it returns and of the state it leaves.
def Delivers (prog : Prog S α) (s : S) (post : α → S → Prop) : Prop := ∃ a s', prog s = some (a, s') ∧ post a s'

theorem gives_pure {post : α → S → Prop} (a : α) (s : S) (holds : post a s) : Delivers (pure a : Prog S α) s post :=
  ⟨a, s, rfl, holds⟩

theorem gives_modify {post : PUnit → S → Prop} (f : S → S) (s : S) (holds : post () (f s)) :
    Delivers (modify f : Prog S PUnit) s post :=
  ⟨(), f s, rfl, holds⟩

theorem gives_weaken {prog : Prog S α} {s : S} {strong weak : α → S → Prop} (gives : Delivers prog s strong)
    (implies : ∀ a s', strong a s' → weak a s') : Delivers prog s weak := by
  obtain ⟨a, s', ran, holds⟩ := gives
  exact ⟨a, s', ran, implies a s' holds⟩

theorem gives_bind {first : Prog S α} {later : α → Prog S β} {s : S} {mid : α → S → Prop} {post : β → S → Prop}
    (one : Delivers first s mid) (rest : ∀ a s', mid a s' → Delivers (later a) s' post) : Delivers
    (first >>= later) s post := by
  obtain ⟨a, s', moved, between⟩ := one
  obtain ⟨b, s'', followed, holds⟩ := rest a s' between
  exact ⟨b, s'', (bind_some first later s s'' b).mpr ⟨a, s', moved, followed⟩, holds⟩

theorem gives_then {first : Prog S α} {later : α → Prog S β} {s s' : S} {a : α} {post : β → S → Prop}
    (ran : first s = some (a, s')) (rest : Delivers (later a) s' post) : Delivers (first >>= later) s post := by
  have known : Delivers first s fun b t => b = a ∧ t = s' := ⟨a, s', ran, rfl, rfl⟩
  refine gives_bind known ?_
  rintro _ _ ⟨rfl, rfl⟩
  exact rest

theorem gives_get {later : S → Prog S β} {s : S} {post : β → S → Prop} (rest : Delivers (later s) s post) :
    Delivers ((get : Prog S S) >>= later) s post :=
  gives_then ((get_some s s s).mpr ⟨rfl, rfl⟩) rest

theorem gives_onlyWhen {post : PUnit → S → Prop} (c : Prop) [Decidable c] (act : Prog S PUnit) (s : S)
    (does : c → Delivers act s post) (skips : ¬ c → post () s) : Delivers (onlyWhen c act) s post := by
  unfold onlyWhen
  by_cases holds : c
  · rw [if_pos holds]
    exact does holds
  · rw [if_neg holds]
    exact gives_pure () s (skips holds)

theorem gives_forM (inv : List α → S → Prop) (body : α → Prog S PUnit)
    (each : ∀ item rest s, inv (item :: rest) s → Delivers (body item) s fun _ s' => inv rest s') (items : List α)
    (s : S)
    (holds : inv items s) : Delivers (items.forM body) s fun _ s' => inv [] s' := by
  induction items generalizing s with
  | nil => exact gives_pure () s holds
  | cons item rest ih =>
      show Delivers (body item >>= fun _ => rest.forM body) s _
      exact gives_bind (each item rest s holds) fun _ s' invariant => ih s' invariant

end ZyAgf.Prog
