import Mathlib.Data.List.Induction

set_option autoImplicit false

namespace ZyAgf

universe u v w

variable {S : Type u} {E : Type v} {O : Type w}

-- A run records every state it leaves together with the event that left it, so
-- an observation of the run is a fold over the visits and needs no ghost state.
inductive Run (step : S → E → Option S) (start : S) : List (S × E) → S → Prop where
  | start : Run step start [] start
  | snoc (visits : List (S × E)) (state next : S) (event : E) (before : Run step start visits state)
      (taken : step state event = some next) : Run step start (visits ++ [(state, event)]) next

namespace Run

variable {step : S → E → Option S} {start : S}

def Meets (allowed : S → E → Prop) (visits : List (S × E)) : Prop :=
  ∀ visit ∈ visits, allowed visit.1 visit.2

instance (allowed : S → E → Prop) [∀ state event, Decidable (allowed state event)] (visits : List (S × E)) :
    Decidable (Meets allowed visits) :=
  inferInstanceAs (Decidable (∀ visit ∈ visits, allowed visit.1 visit.2))

theorem meets_nil (allowed : S → E → Prop) : Meets allowed [] := by
  intro visit member
  cases member

theorem meets_snoc (allowed : S → E → Prop) (visits : List (S × E)) (state : S) (event : E) :
    Meets allowed (visits ++ [(state, event)]) ↔ Meets allowed visits ∧ allowed state event := by
  constructor
  · intro meets
    exact ⟨fun visit member => meets visit (List.mem_append_left _ member),
      meets (state, event) (List.mem_append_right _ (List.mem_singleton_self _))⟩
  · rintro ⟨meets, last⟩ visit member
    rcases List.mem_append.mp member with early | final
    · exact meets visit early
    · rw [List.mem_singleton.mp final]
      exact last

theorem meets_always (visits : List (S × E)) : Meets (fun _ _ => True) visits :=
  fun _ _ => trivial

theorem invariant (allowed : S → E → Prop) (inv : S → Prop) (initial : inv start)
    (preserved : ∀ state event next, inv state → allowed state event → step state event = some next → inv next)
    {visits : List (S × E)} {finish : S} (run : Run step start visits finish) (meets : Meets allowed visits) :
    inv finish := by
  induction run with
  | start => exact initial
  | snoc visits state next event _ taken earlier =>
      obtain ⟨kept, last⟩ := (meets_snoc allowed visits state event).mp meets
      exact preserved state event next (earlier kept) last taken

theorem split_at {visits : List (S × E)} {finish : S} (run : Run step start visits finish) (visit : S × E)
    (member : visit ∈ visits) :
    ∃ earlier later next, visits = earlier ++ visit :: later ∧ Run step start earlier visit.1 ∧
      step visit.1 visit.2 = some next := by
  induction run with
  | start => cases member
  | snoc visits state next event before taken ih =>
      rcases List.mem_append.mp member with early | final
      · obtain ⟨earlier, later, after, rfl, reaches, moved⟩ := ih early
        exact ⟨earlier, later ++ [(state, event)], after, by simp, reaches, moved⟩
      · obtain rfl := List.mem_singleton.mp final
        exact ⟨visits, [], next, rfl, before, taken⟩

theorem visit_split {visits : List (S × E)} {finish : S} (run : Run step start visits finish) (visit : S × E)
    (member : visit ∈ visits) :
    ∃ earlier next, Run step start earlier visit.1 ∧ (∀ seen ∈ earlier, seen ∈ visits) ∧
      step visit.1 visit.2 = some next := by
  obtain ⟨earlier, later, next, rfl, reaches, moved⟩ := split_at run visit member
  exact ⟨earlier, next, reaches, fun seen found => List.mem_append_left _ found, moved⟩

theorem each_step (allowed : S → E → Prop) (inv : S → Prop) (initial : inv start)
    (preserved : ∀ state event next, inv state → allowed state event → step state event = some next → inv next)
    (fact : S → E → Prop) (shown : ∀ state event, inv state → allowed state event → fact state event)
    {visits : List (S × E)} {finish : S} (run : Run step start visits finish) (meets : Meets allowed visits) :
    Meets fact visits := by
  intro visit member
  obtain ⟨earlier, _, reaches, inside, _⟩ := visit_split run visit member
  have kept : Meets allowed earlier := fun seen found => meets seen (inside seen found)
  exact shown visit.1 visit.2 (invariant allowed inv initial preserved reaches kept) (meets visit member)

theorem append {visits later : List (S × E)} {middle finish : S} (run : Run step start visits middle)
    (onward : Run step middle later finish) : Run step start (visits ++ later) finish := by
  induction onward with
  | start =>
      rw [List.append_nil]
      exact run
  | snoc later state next event _ taken ih =>
      rw [← List.append_assoc]
      exact ih.snoc _ state next event taken

theorem single (event : E) (next : S) (taken : step start event = some next) : Run step start [(start, event)] next :=
  Run.start.snoc [] start next event taken

theorem meets_append (allowed : S → E → Prop) (visits later : List (S × E)) :
    Meets allowed (visits ++ later) ↔ Meets allowed visits ∧ Meets allowed later :=
  List.forall_mem_append

theorem meets_weaken (narrow wide : S → E → Prop) (visits : List (S × E)) (meets : Meets narrow visits)
    (implies : ∀ state event, narrow state event → wide state event) : Meets wide visits :=
  fun visit member => implies visit.1 visit.2 (meets visit member)

theorem snoc_inv {visits : List (S × E)} {visit : S × E} {finish : S}
    (run : Run step start (visits ++ [visit]) finish) :
    Run step start visits visit.1 ∧ step visit.1 visit.2 = some finish := by
  generalize whole : visits ++ [visit] = taken at run
  cases run with
  | start => simp at whole
  | snoc earlier state _ event before moved =>
      obtain ⟨rfl, last⟩ := List.append_inj' whole rfl
      obtain rfl := (List.singleton_inj.mp last).symm
      exact ⟨before, moved⟩

theorem of_append {earlier later : List (S × E)} {finish : S} (run : Run step start (earlier ++ later) finish) :
    ∃ middle, Run step start earlier middle ∧ Run step middle later finish := by
  induction later using List.reverseRecOn generalizing finish with
  | nil =>
      rw [List.append_nil] at run
      exact ⟨finish, run, Run.start⟩
  | append_singleton later visit ih =>
      rw [← List.append_assoc] at run
      obtain ⟨before, moved⟩ := snoc_inv run
      obtain ⟨middle, first, onward⟩ := ih before
      exact ⟨middle, first, onward.snoc later visit.1 finish visit.2 moved⟩

theorem through {earlier later : List (S × E)} {visit : S × E} {finish : S}
    (run : Run step start (earlier ++ visit :: later) finish) :
    ∃ next, Run step start earlier visit.1 ∧ step visit.1 visit.2 = some next ∧ Run step next later finish := by
  rw [List.append_cons] at run
  obtain ⟨next, first, onward⟩ := of_append run
  obtain ⟨before, moved⟩ := snoc_inv first
  exact ⟨next, before, moved, onward⟩

def play (step : S → E → Option S) : S → List E → Option S
  | state, [] => some state
  | state, event :: rest => (step state event).bind fun next => play step next rest

def trace (step : S → E → Option S) : S → List E → List (S × E)
  | _, [] => []
  | state, event :: rest => (state, event) :: (step state event).elim [] fun next => trace step next rest

theorem of_play (events : List E) (finish : S) (played : play step start events = some finish) :
    Run step start (trace step start events) finish := by
  induction events generalizing start with
  | nil =>
      obtain rfl := Option.some.inj played
      exact Run.start
  | cons event rest ih =>
      obtain ⟨next, moved, later⟩ := Option.bind_eq_some_iff.mp played
      have onward := append (single event next moved) (ih later)
      simpa [trace, moved] using onward

theorem trace_event (state : S) (events : List E) (visit : S × E) (member : visit ∈ trace step state events) :
    visit.2 ∈ events := by
  induction events generalizing state with
  | nil => cases member
  | cons event rest ih =>
      rcases List.mem_cons.mp member with rfl | later
      · exact List.mem_cons_self
      · cases moved : step state event with
        | none => simp [moved] at later
        | some next =>
            rw [moved] at later
            exact List.mem_cons_of_mem _ (ih next later)

-- A history variable: what an observer has noted before each visit, and after
-- the last one. The run itself is untouched.
section History

variable {G : Type w} (note : G → S → E → G)

def noted : G → List (S × E) → List ((S × G) × E)
  | _, [] => []
  | g, visit :: rest => ((visit.1, g), visit.2) :: noted (note g visit.1 visit.2) rest

def notes (g : G) (visits : List (S × E)) : G := visits.foldl (fun g visit => note g visit.1 visit.2) g

def noting (step : S → E → Option S) (state : S × G) (event : E) : Option (S × G) :=
  (step state.1 event).map fun next => (next, note state.2 state.1 event)

theorem noted_snoc (g : G) (visits : List (S × E)) (state : S) (event : E) :
    noted note g (visits ++ [(state, event)]) = noted note g visits ++ [((state, notes note g visits), event)] := by
  induction visits generalizing g with
  | nil => rfl
  | cons visit rest ih =>
      rw [List.cons_append, noted, ih]
      rfl

theorem notes_append (g : G) (visits later : List (S × E)) :
    notes note g (visits ++ later) = notes note (notes note g visits) later :=
  List.foldl_append

theorem notes_snoc (g : G) (visits : List (S × E)) (state : S) (event : E) :
    notes note g (visits ++ [(state, event)]) = note (notes note g visits) state event :=
  notes_append note g visits [(state, event)]

theorem noted_run (g : G) {visits : List (S × E)} {finish : S} (run : Run step start visits finish) :
    Run (noting note step) (start, g) (noted note g visits) (finish, notes note g visits) := by
  induction run with
  | start => exact Run.start
  | snoc visits state next event _ taken ih =>
      rw [noted_snoc, notes_snoc]
      exact ih.snoc _ _ _ event (Option.map_eq_some_iff.mpr ⟨next, taken, rfl⟩)

end History

-- What a run does to the outside world, one observation a step at most.
def observe (seen : S → E → Option O) (visits : List (S × E)) : List O :=
  visits.filterMap fun visit => seen visit.1 visit.2

theorem observe_snoc (seen : S → E → Option O) (visits : List (S × E)) (state : S) (event : E) :
    observe seen (visits ++ [(state, event)]) = observe seen visits ++ (seen state event).toList := by
  unfold observe
  rw [List.filterMap_append]
  cases found : seen state event <;> simp [found]

end Run

end ZyAgf
