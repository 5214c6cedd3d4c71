import ZyAgf.Library.Run
import ZyAgf.Xl2tpd.Close

set_option autoImplicit false

namespace ZyAgf.Xl2tpd

-- An entry of the queue. Its address tells it apart from every other one, and
-- later entries get later addresses.
structure Queued (α : Type) where
  ptr : Nat
  tv : Timeval
  func : α
deriving DecidableEq

-- Whether process_schedule is at work: not at all, at the top of its loop, or
-- inside the handler of an entry it has taken off the queue.
inductive Phase (α : Type) where
  | outside
  | looking
  | running (p : Queued α)
deriving DecidableEq

structure Scheduler (α : Type) where
  events : List (Queued α)
  phase : Phase α
  fresh : Nat
  clock : Timeval
deriving DecidableEq

namespace Scheduler

variable {α : Type}

def initScheduler (start : Timeval) : Scheduler α := ⟨[], .outside, 0, start⟩

-- The loop of schedule: the new entry goes in front of the first later one.
def place (entry : Queued α) : List (Queued α) → List (Queued α)
  | [] => [entry]
  | p :: rest => if entry.tv.less p.tv then entry :: p :: rest else p :: place entry rest

def unlink (s : Nat) : List (Queued α) → List (Queued α)
  | [] => []
  | p :: rest => if p.ptr = s then rest else p :: unlink s rest

-- The time from one reading of the clock to a moment, with a borrow.
def relative (now tv : Timeval) : Timeval :=
  if tv.usec - now.usec < 0 then ⟨tv.sec - now.sec - 1, tv.usec - now.usec + 1000000⟩
  else ⟨tv.sec - now.sec, tv.usec - now.usec⟩

def schedule (now tv : Timeval) (func : α) (s : Scheduler α) : Scheduler α :=
  { s with events := place ⟨s.fresh, now.after tv, func⟩ s.events, fresh := s.fresh + 1, clock := now }

def aschedule (first second tv : Timeval) (func : α) (s : Scheduler α) : Scheduler α :=
  schedule second (relative first tv) func s

def deschedule (entry : Option Nat) (s : Scheduler α) : Scheduler α :=
  match entry with
  | none => s
  | some ptr => { s with events := unlink ptr s.events }

def timeLeft (now tv : Timeval) : Timeval :=
  let left := relative now tv
  if left.sec ≤ 0 ∧ left.usec ≤ 0 then ⟨1, 0⟩ else left

-- One round of process_schedule's loop: a handler is called, or the function
-- returns with the time to wait, or with NULL.
inductive Turn (α : Type) where
  | runs (p : Queued α) (rest : List (Queued α))
  | returns (ptv : Option Timeval)

def turn (now : Timeval) : List (Queued α) → Turn α
  | [] => .returns none
  | p :: rest => if p.tv.lessEq now then .runs p rest else .returns (some (timeLeft now p.tv))

inductive Move (α : Type) where
  | schedule (now tv : Timeval) (func : α)
  | aschedule (first second tv : Timeval) (func : α)
  | deschedule (entry : Option Nat)
  | processSchedule
  | look (now : Timeval)
  | handled

-- The main program and the handlers may schedule and deschedule as they like;
-- between two handlers nobody does.
def step (s : Scheduler α) : Move α → Option (Scheduler α)
  | .schedule now tv func => match s.phase with
      | .looking => none
      | _ => some (schedule now tv func s)
  | .aschedule first second tv func => match s.phase with
      | .looking => none
      | _ => some (aschedule first second tv func s)
  | .deschedule entry => match s.phase with
      | .looking => none
      | _ => some (deschedule entry s)
  | .processSchedule => match s.phase with
      | .outside => some { s with phase := .looking }
      | _ => none
  | .look now => match s.phase with
      | .looking => match turn now s.events with
          | .runs p rest => some { s with events := rest, phase := .running p, clock := now }
          | .returns _ => some { s with phase := .outside, clock := now }
      | _ => none
  | .handled => match s.phase with
      | .running _ => some { s with phase := .looking }
      | _ => none

theorem insertEntry_place (entry : Queued Func) (queue : List (Queued Func)) :
    (place entry queue).map (fun p => (⟨p.tv, p.func⟩ : ScheduleEntry)) =
      insertEntry ⟨entry.tv, entry.func⟩ (queue.map fun p => ⟨p.tv, p.func⟩) := by
  induction queue with
  | nil => rfl
  | cons p rest ih =>
      by_cases early : entry.tv.less p.tv = true
      · simp [place, insertEntry, early]
      · rw [place, if_neg early, List.map_cons, ih]
        simp [insertEntry, early]

end Scheduler

def Timeval.micros (tv : Timeval) : Int := tv.sec * 1000000 + tv.usec

def Timeval.Normal (tv : Timeval) : Prop := 0 ≤ tv.usec ∧ tv.usec < 1000000

instance (tv : Timeval) : Decidable tv.Normal := inferInstanceAs (Decidable (_ ∧ _))

theorem less_iff (a b : Timeval) (first : a.Normal) (second : b.Normal) : a.less b = true ↔ a.micros < b.micros := by
  unfold Timeval.Normal at first second
  unfold Timeval.less Timeval.micros
  split <;> simp only [decide_eq_true_eq] <;> omega

theorem lessEq_iff (a b : Timeval) (first : a.Normal) (second : b.Normal) : a.lessEq b = true ↔
    a.micros ≤ b.micros := by
  unfold Timeval.Normal at first second
  unfold Timeval.lessEq Timeval.micros
  split <;> simp only [decide_eq_true_eq] <;> omega

theorem after_micros (now diff : Timeval) : (now.after diff).micros = now.micros + diff.micros := by
  unfold Timeval.after Timeval.micros
  dsimp only
  split <;> dsimp only <;> omega

theorem after_normal_iff (now diff : Timeval) (first : now.Normal) (second : diff.Normal) :
    (now.after diff).Normal ↔ now.usec + diff.usec ≠ 1000000 := by
  unfold Timeval.Normal at *
  unfold Timeval.after
  dsimp only
  split <;> dsimp only <;> omega

namespace Scheduler

variable {α : Type}

theorem relative_micros (now tv : Timeval) : (relative now tv).micros = tv.micros - now.micros := by
  unfold relative Timeval.micros
  split <;> dsimp only <;> omega

theorem relative_normal (now tv : Timeval) (first : now.Normal) (second : tv.Normal) : (relative now tv).Normal := by
  unfold Timeval.Normal at *
  unfold relative
  split <;> dsimp only <;> omega

theorem timeLeft_later (now tv : Timeval) (first : now.Normal) (second : tv.Normal) (later : now.micros < tv.micros) :
    timeLeft now tv = relative now tv := by
  have normal := relative_normal now tv first second
  have positive : 0 < (relative now tv).micros := by
    rw [relative_micros]
    omega
  unfold Timeval.Normal at normal
  unfold Timeval.micros at positive
  unfold timeLeft
  dsimp only
  rw [if_neg]
  omega

-- The order entries are run in.
def Before (p q : Queued α) : Prop := p.tv.micros < q.tv.micros ∨ p.tv.micros = q.tv.micros ∧ p.ptr < q.ptr

theorem before_trans (p q r : Queued α) (first : Before p q) (second : Before q r) : Before p r := by
  unfold Before at *
  omega

structure Orderly (s : Scheduler α) : Prop where
  sorted : s.events.Pairwise Before
  normal : ∀ p ∈ s.events, p.tv.Normal
  old : ∀ p ∈ s.events, p.ptr < s.fresh

theorem place_perm (entry : Queued α) (queue : List (Queued α)) : (place entry queue).Perm (entry :: queue) := by
  induction queue with
  | nil => exact List.Perm.refl _
  | cons p rest ih =>
      unfold place
      split
      · exact List.Perm.refl _
      · exact (ih.cons p).trans (List.Perm.swap entry p rest)

theorem place_sorted (entry : Queued α) (queue : List (Queued α)) (sorted : queue.Pairwise Before)
    (normal : ∀ p ∈ queue, p.tv.Normal) (own : entry.tv.Normal) (newest : ∀ p ∈ queue, p.ptr < entry.ptr) :
    (place entry queue).Pairwise Before := by
  induction queue with
  | nil => exact List.pairwise_singleton Before entry
  | cons p rest ih =>
      obtain ⟨head, tail⟩ := List.pairwise_cons.mp sorted
      have headNormal := normal p List.mem_cons_self
      unfold place
      split
      next early =>
        have sooner : Before entry p := .inl ((less_iff _ _ own headNormal).mp early)
        refine List.pairwise_cons.mpr ⟨fun q member => ?_, sorted⟩
        rcases List.mem_cons.mp member with rfl | later
        · exact sooner
        · exact before_trans entry p q sooner (head q later)
      next late =>
        have rightly := ih tail (fun q member => normal q (List.mem_cons_of_mem p member))
          fun q member => newest q (List.mem_cons_of_mem p member)
        refine List.pairwise_cons.mpr ⟨fun q member => ?_, rightly⟩
        rcases List.mem_cons.mp ((place_perm entry rest).mem_iff.mp member) with rfl | other
        · have notSooner : ¬ q.tv.micros < p.tv.micros := fun less => late ((less_iff _ _ own headNormal).mpr less)
          have younger := newest p List.mem_cons_self
          unfold Before
          omega
        · exact head q other

theorem unlink_sublist (ptr : Nat) (queue : List (Queued α)) : (unlink ptr queue).Sublist queue := by
  induction queue with
  | nil => exact List.Sublist.refl _
  | cons p rest ih =>
      unfold unlink
      split
      · exact List.sublist_cons_self p rest
      · exact ih.cons_cons p

theorem unlink_filter (ptr : Nat) (queue : List (Queued α)) (apart : (queue.map Queued.ptr).Nodup) :
    unlink ptr queue = queue.filter fun p => p.ptr ≠ ptr := by
  induction queue with
  | nil => rfl
  | cons p rest ih =>
      obtain ⟨absent, others⟩ := List.nodup_cons.mp apart
      unfold unlink
      split
      next found =>
        rw [List.filter_cons_of_neg (by simpa using found), List.filter_eq_self.mpr]
        intro q member
        have different : q.ptr ≠ p.ptr := fun same => absent (same ▸ List.mem_map_of_mem member)
        simpa [← found] using different
      next passed => rw [List.filter_cons_of_pos (by simpa using passed), ih others]

-- What the clock reads does not go back, and times are given in normal form.
def Reads (s : Scheduler α) (now : Timeval) : Prop := now.Normal ∧ s.clock.micros ≤ now.micros

def Proper (s : Scheduler α) : Move α → Prop
  | .schedule now tv _ => Reads s now ∧ tv.Normal
  | .aschedule first second tv _ => Reads s first ∧ Reads s second ∧ first.micros ≤ second.micros ∧ tv.Normal
  | .look now => Reads s now
  | _ => True

def Carries (_ : Scheduler α) : Move α → Prop
  | .schedule now tv _ => now.usec + tv.usec ≠ 1000000
  | .aschedule first second tv _ => second.usec + (relative first tv).usec ≠ 1000000
  | _ => True

def Adds (s next : Scheduler α) (micros : Int) (func : α) : Prop :=
  ∃ p : Queued α, p.ptr = s.fresh ∧ p.tv.micros = micros ∧ p.func = func ∧ next.events.Perm (p :: s.events)

-- The head of the queue is run if it is due. Otherwise nothing is due, and the
-- time returned is the one to the head.
def Looks (s : Scheduler α) (now : Timeval) : Turn α → Prop
  | .runs p rest => s.events = p :: rest ∧ p.tv.micros ≤ now.micros ∧ ∀ q ∈ rest, Before p q
  | .returns ptv =>
      (∀ q ∈ s.events, now.micros < q.tv.micros) ∧
        (ptv.isSome ↔ s.events ≠ []) ∧
          ∀ left ∈ ptv, left.Normal ∧ 0 < left.micros ∧ ∃ p ∈ s.events.head?, now.micros + left.micros = p.tv.micros

def Does (s next : Scheduler α) : Move α → Prop
  | .schedule now tv func => Adds s next (now.micros + tv.micros) func
  | .aschedule first second tv func => Adds s next (second.micros + (tv.micros - first.micros)) func
  | .deschedule entry => next.events = s.events.filter fun p => some p.ptr ≠ entry
  | .look now => Looks s now (turn now s.events)
  | _ => next.events = s.events

def Obeys (s : Scheduler α) (move : Move α) : Prop := ∀ next, step s move = some next → Orderly next ∧ Does s next move

-- The entries that were run, and those that were taken off while they waited.
def started (s : Scheduler α) : Move α → Option Nat
  | .look now => match turn now s.events with
      | .runs p _ => some p.ptr
      | .returns _ => none
  | _ => none

def cancelled (s : Scheduler α) : Move α → Option Nat
  | .deschedule (some ptr) => if ptr ∈ s.events.map Queued.ptr then some ptr else none
  | _ => none

def Accounted (visits : List (Scheduler α × Move α)) (s : Scheduler α) : Prop :=
  (Run.observe started visits ++ Run.observe cancelled visits ++ s.events.map Queued.ptr).Perm (List.range s.fresh)

theorem accounted_apart (visits : List (Scheduler α × Move α)) (s : Scheduler α) (accounted : Accounted visits s) :
    (s.events.map Queued.ptr).Nodup ∧ ∀ p ∈ s.events, p.ptr < s.fresh := by
  have whole := accounted.nodup_iff.mpr List.nodup_range
  refine ⟨(List.nodup_append.mp whole).2.1, fun p member => ?_⟩
  have inside : p.ptr ∈ List.range s.fresh :=
    accounted.mem_iff.mp (List.mem_append_right _ (List.mem_map_of_mem member))
  exact List.mem_range.mp inside

theorem schedule_accounted (now tv : Timeval) (func : α) (s : Scheduler α) (gone : List Nat)
    (accounted : (gone ++ s.events.map Queued.ptr).Perm (List.range s.fresh)) :
    (gone ++ (schedule now tv func s).events.map Queued.ptr).Perm (List.range (schedule now tv func s).fresh) := by
  have entry : ((schedule now tv func s).events.map Queued.ptr).Perm (s.fresh :: s.events.map Queued.ptr) :=
    (place_perm _ s.events).map Queued.ptr
  calc (gone ++ (schedule now tv func s).events.map Queued.ptr)
      |>.Perm (gone ++ s.fresh :: s.events.map Queued.ptr) := entry.append_left gone
    _ |>.Perm (s.fresh :: (gone ++ s.events.map Queued.ptr)) := List.perm_middle
    _ |>.Perm (s.fresh :: List.range s.fresh) := accounted.cons s.fresh
    _ |>.Perm (List.range (s.fresh + 1)) := by
        rw [List.range_succ]
        exact (List.perm_append_singleton s.fresh _).symm

theorem unlink_accounted (ptr : Nat) (queue : List (Queued α)) :
    (queue.map Queued.ptr).Perm
      ((if ptr ∈ queue.map Queued.ptr then [ptr] else []) ++ (unlink ptr queue).map Queued.ptr) := by
  induction queue with
  | nil => exact List.Perm.refl _
  | cons p rest ih =>
      by_cases found : p.ptr = ptr
      · simp [unlink, found]
      · rw [unlink, if_neg found]
        simp only [List.map_cons, List.mem_cons, Ne.symm found, false_or]
        exact (ih.cons p.ptr).trans List.perm_middle.symm

def effect (s : Scheduler α) : Move α → Scheduler α
  | .schedule now tv func => schedule now tv func s
  | .aschedule first second tv func => aschedule first second tv func s
  | .deschedule entry => deschedule entry s
  | .look now => match turn now s.events with
      | .runs _ rest => { s with events := rest, clock := now }
      | .returns _ => { s with clock := now }
  | _ => s

theorem step_effect (s next : Scheduler α) (move : Move α) (taken : step s move = some next) :
    ∃ phase, next = { effect s move with phase := phase } := by
  cases move with
  | look now =>
      simp only [step] at taken
      simp only [effect]
      split at taken
      · split at taken
        · obtain rfl := Option.some.inj taken
          exact ⟨_, rfl⟩
        · obtain rfl := Option.some.inj taken
          exact ⟨_, rfl⟩
      · cases taken
  | _ =>
      simp only [step] at taken
      split at taken
      all_goals first
        | cases taken; done
        | (obtain rfl := Option.some.inj taken; exact ⟨_, rfl⟩)

theorem turn_cases (now : Timeval) (queue : List (Queued α)) :
    match turn now queue with
    | .runs p rest => queue = p :: rest ∧ p.tv.lessEq now = true
    | .returns ptv =>
        queue = [] ∧ ptv = none ∨ ∃ p rest, queue = p :: rest ∧ ¬ p.tv.lessEq now ∧ ptv = some (timeLeft now p.tv) := by
  cases queue with
  | nil => exact .inl ⟨rfl, rfl⟩
  | cons p rest =>
      by_cases due : p.tv.lessEq now = true
      · rw [show turn now (p :: rest) = .runs p rest from if_pos due]
        exact ⟨rfl, due⟩
      · rw [show turn now (p :: rest) = .returns (some (timeLeft now p.tv)) from if_neg due]
        exact .inr ⟨p, rest, rfl, due, rfl⟩

theorem step_accounted (s : Scheduler α) (move : Move α) (ran gone : List Nat)
    (accounted : (ran ++ gone ++ s.events.map Queued.ptr).Perm (List.range s.fresh)) :
    ((ran ++ (started s move).toList) ++ (gone ++ (cancelled s move).toList) ++
      (effect s move).events.map Queued.ptr).Perm (List.range (effect s move).fresh) := by
  cases move with
  | schedule now tv func => simpa [started, cancelled, effect] using schedule_accounted now tv func s _ accounted
  | aschedule first second tv func =>
      simpa [started, cancelled, effect, aschedule] using schedule_accounted second
        (relative first tv) func s _ accounted
  | deschedule entry =>
      cases entry with
      | none => simpa [started, cancelled, effect, deschedule] using accounted
      | some ptr =>
          have parts := unlink_accounted ptr s.events
          refine List.Perm.trans ?_ accounted
          by_cases held : ptr ∈ s.events.map Queued.ptr
          · rw [if_pos held] at parts
            simpa [started, cancelled, effect, deschedule, held] using (parts.symm.append_left gone).append_left ran
          · rw [if_neg held] at parts
            simpa [started, cancelled, effect, deschedule, held] using (parts.symm.append_left gone).append_left ran
  | look now =>
      have cases := turn_cases now s.events
      simp only [started, cancelled, effect]
      split at cases
      next p rest runs =>
        refine List.Perm.trans ?_ accounted
        rw [cases.1]
        simpa using (List.perm_middle.symm : (p.ptr :: (gone ++ rest.map Queued.ptr)).Perm _).append_left ran
      next ptv returns => simpa using accounted
  | processSchedule => simpa [started, cancelled, effect] using accounted
  | handled => simpa [started, cancelled, effect] using accounted

theorem run_accounted (start : Timeval) {visits : List (Scheduler α × Move α)} {s : Scheduler α}
    (run : Run step (initScheduler start) visits s) : Accounted visits s := by
  induction run with
  | start => exact List.Perm.refl _
  | snoc visits s next move _ taken ih =>
      obtain ⟨phase, rfl⟩ := step_effect s next move taken
      unfold Accounted
      rw [Run.observe_snoc, Run.observe_snoc]
      exact step_accounted s move _ _ ih

theorem schedule_does (now tv : Timeval) (func : α) (s : Scheduler α) (phase : Phase α) :
    Adds s { schedule now tv func s with phase := phase } (now.micros + tv.micros) func :=
  ⟨⟨s.fresh, now.after tv, func⟩, rfl, after_micros now tv, rfl, place_perm _ s.events⟩

theorem schedule_orderly_iff (now tv : Timeval) (func : α) (s : Scheduler α) (phase : Phase α) (orderly : Orderly s)
    (reading : now.Normal) (given : tv.Normal) :
    Orderly { schedule now tv func s with phase := phase } ↔ now.usec + tv.usec ≠ 1000000 := by
  have members := fun p => (place_perm ⟨s.fresh, now.after tv, func⟩ s.events).mem_iff (a := p)
  rw [← after_normal_iff now tv reading given]
  constructor
  · intro kept
    exact kept.normal _ ((members _).mpr List.mem_cons_self)
  · intro own
    refine ⟨place_sorted _ s.events orderly.sorted orderly.normal own orderly.old, fun p member => ?_, fun p member =>
      ?_⟩
    · rcases List.mem_cons.mp ((members p).mp member) with rfl | old
      · exact own
      · exact orderly.normal p old
    · rcases List.mem_cons.mp ((members p).mp member) with rfl | old
      · exact Nat.lt_succ_self _
      · exact Nat.lt_succ_of_lt (orderly.old p old)

theorem deschedule_orderly (entry : Option Nat) (s : Scheduler α) (phase : Phase α) (orderly : Orderly s) :
    Orderly { deschedule entry s with phase := phase } := by
  cases entry with
  | none => exact ⟨orderly.sorted, orderly.normal, orderly.old⟩
  | some ptr =>
      have inside := unlink_sublist ptr s.events
      exact ⟨orderly.sorted.sublist inside, fun p member => orderly.normal p (inside.subset member),
        fun p member => orderly.old p (inside.subset member)⟩

theorem look_looks (now : Timeval) (s : Scheduler α) (orderly : Orderly s) (reading : now.Normal) :
    Looks s now (turn now s.events) := by
  have cases := turn_cases now s.events
  split at cases
  next p rest runs =>
    rw [runs]
    have sorted := orderly.sorted
    have normal := orderly.normal p (cases.1 ▸ List.mem_cons_self)
    rw [cases.1] at sorted
    exact ⟨cases.1, (lessEq_iff _ _ normal reading).mp cases.2, (List.pairwise_cons.mp sorted).1⟩
  next ptv returns =>
    rw [returns]
    rcases cases with ⟨empty, rfl⟩ | ⟨p, rest, whole, waits, rfl⟩
    · rw [Looks, empty]
      simp
    · have sorted := orderly.sorted
      have normal := orderly.normal p (whole ▸ List.mem_cons_self)
      rw [whole] at sorted
      have later : now.micros < p.tv.micros := by
        have notDue : ¬ p.tv.micros ≤ now.micros := fun due => waits ((lessEq_iff _ _ normal reading).mpr due)
        omega
      refine ⟨fun q member => ?_, by rw [whole]; simp, ?_⟩
      · rw [whole] at member
        rcases List.mem_cons.mp member with rfl | behind
        · exact later
        · have order := (List.pairwise_cons.mp sorted).1 q behind
          unfold Before at order
          omega
      · intro left given
        obtain rfl := Option.some.inj given
        rw [timeLeft_later now p.tv reading normal later]
        have size := relative_micros now p.tv
        exact ⟨relative_normal now p.tv reading normal, by omega, p, by rw [whole]; rfl, by omega⟩

theorem look_orderly (now : Timeval) (s : Scheduler α) (phase : Phase α) (orderly : Orderly s) :
    Orderly { effect s (.look now) with phase := phase } := by
  have cases := turn_cases now s.events
  simp only [effect]
  split at cases
  next p rest runs =>
    have inside : rest.Sublist s.events := cases.1 ▸ List.sublist_cons_self p rest
    exact ⟨orderly.sorted.sublist inside, fun q member => orderly.normal q (inside.subset member),
      fun q member => orderly.old q (inside.subset member)⟩
  next ptv returns => exact ⟨orderly.sorted, orderly.normal, orderly.old⟩

theorem obeys_iff (s : Scheduler α) (move : Move α) (next : Scheduler α) (orderly : Orderly s)
    (apart : (s.events.map Queued.ptr).Nodup) (proper : Proper s move) (taken : step s move = some next) :
    Obeys s move ↔ Carries s move := by
  have once : Obeys s move ↔ Orderly next ∧ Does s next move := by
    unfold Obeys
    rw [taken]
    simp
  rw [once]
  obtain ⟨phase, rfl⟩ := step_effect s next move taken
  cases move with
  | schedule now tv func =>
      have kept := schedule_orderly_iff now tv func s phase orderly proper.1.1 proper.2
      exact ⟨fun both => kept.mp both.1, fun carries => ⟨kept.mpr carries, schedule_does now tv func s phase⟩⟩
  | aschedule first second tv func =>
      have given := relative_normal first tv proper.1.1 proper.2.2.2
      have kept := schedule_orderly_iff second (relative first tv) func s phase orderly proper.2.1.1 given
      refine ⟨fun both => kept.mp both.1, fun carries => ⟨kept.mpr carries, ?_⟩⟩
      have added := schedule_does second (relative first tv) func s phase
      rw [relative_micros] at added
      exact added
  | deschedule entry =>
      refine ⟨fun _ => trivial, fun _ => ⟨deschedule_orderly entry s phase orderly, ?_⟩⟩
      cases entry with
      | none => simp [Does, effect, deschedule]
      | some ptr => simpa [Does, effect, deschedule] using unlink_filter ptr s.events apart
  | look now =>
      exact ⟨fun _ => trivial, fun _ => ⟨look_orderly now s phase orderly, look_looks now s orderly proper.1⟩⟩
  | processSchedule => exact ⟨fun _ => trivial, fun _ => ⟨⟨orderly.sorted, orderly.normal, orderly.old⟩, rfl⟩⟩
  | handled => exact ⟨fun _ => trivial, fun _ => ⟨⟨orderly.sorted, orderly.normal, orderly.old⟩, rfl⟩⟩

theorem init_orderly (start : Timeval) : Orderly (initScheduler start : Scheduler α) where
  sorted := List.Pairwise.nil
  normal := fun p member => by cases member
  old := fun p member => by cases member

theorem run_obeys_iff (start : Timeval) {visits : List (Scheduler α × Move α)} {s : Scheduler α}
    (run : Run step (initScheduler start) visits s) (proper : Run.Meets Proper visits) :
    Orderly s ∧ Run.Meets Obeys visits ↔ Run.Meets Carries visits := by
  induction run with
  | start => exact ⟨fun _ => Run.meets_nil _, fun _ => ⟨init_orderly start, Run.meets_nil _⟩⟩
  | snoc visits s next move before taken ih =>
      rw [Run.meets_snoc] at proper ⊢
      rw [Run.meets_snoc]
      have earlier := ih proper.1
      have apart := (accounted_apart visits s (run_accounted start before)).1
      constructor
      · rintro ⟨_, obeyed, obeys⟩
        have orderly : Orderly s := by
          cases before with
          | start => exact init_orderly start
          | snoc visits first _ move _ moved => exact (((Run.meets_snoc _ _ _ _).mp obeyed).2 s moved).1
        exact ⟨earlier.mp ⟨orderly, obeyed⟩, (obeys_iff s move next orderly apart proper.2 taken).mp obeys⟩
      · rintro ⟨carried, carries⟩
        obtain ⟨orderly, obeyed⟩ := earlier.mpr carried
        have obeys := (obeys_iff s move next orderly apart proper.2 taken).mpr carries
        exact ⟨(obeys next taken).1, obeyed, obeys⟩

instance (s : Scheduler α) (now : Timeval) : Decidable (Reads s now) := inferInstanceAs (Decidable (_ ∧ _))

instance (s : Scheduler α) (move : Move α) : Decidable (Proper s move) :=
  match move with
  | .schedule _ _ _ | .aschedule _ _ _ _ => inferInstanceAs (Decidable (_ ∧ _))
  | .look _ => inferInstanceAs (Decidable (_ ∧ _))
  | .deschedule _ | .processSchedule | .handled => inferInstanceAs (Decidable True)

instance (s : Scheduler α) (move : Move α) : Decidable (Carries s move) :=
  match move with
  | .schedule _ _ _ | .aschedule _ _ _ _ => inferInstanceAs (Decidable (_ ≠ _))
  | .look _ | .deschedule _ | .processSchedule | .handled => inferInstanceAs (Decidable True)

-- In every run the queue stays in order, its times in normal form, every step
-- does what it should, and every entry is run once, taken off once or waiting,
-- if and only if no sum of a reading and a delay comes to a whole second.
theorem scheduler_in_order_iff (start : Timeval) (visits : List (Scheduler α × Move α)) (s : Scheduler α)
    (run : Run step (initScheduler start) visits s) (proper : Run.Meets Proper visits) :
    Accounted visits s ∧ Orderly s ∧ Run.Meets Obeys visits ↔ Run.Meets Carries visits :=
  ⟨fun kept => (run_obeys_iff start run proper).mp kept.2,
    fun carries => ⟨run_accounted start run, (run_obeys_iff start run proper).mpr carries⟩⟩

def twoMoves : List (Move Bool) :=
  [.schedule ⟨0, 999999⟩ ⟨1, 2⟩ true, .schedule ⟨1, 0⟩ ⟨1, 1⟩ false, .processSchedule, .look ⟨2, 1⟩, .handled,
    .look ⟨2, 1⟩]

def ranBoth : Scheduler Bool := ⟨[], .running ⟨1, ⟨2, 1⟩, false⟩, 2, ⟨2, 1⟩⟩

theorem scheduler_in_order_two : Accounted (Run.trace step (initScheduler ⟨0, 0⟩) twoMoves) ranBoth ∧ Orderly ranBoth ∧
    Run.Meets Obeys (Run.trace step (initScheduler ⟨0, 0⟩) twoMoves) :=
  (scheduler_in_order_iff ⟨0, 0⟩ _ ranBoth (Run.of_play twoMoves ranBoth rfl) (by decide)).mpr (by decide)

def halfMoves : List (Move Unit) := [.schedule ⟨0, 500000⟩ ⟨0, 500000⟩ ()]

def halfPast : Scheduler Unit := ⟨[⟨0, ⟨0, 1000000⟩, ()⟩], .outside, 1, ⟨0, 500000⟩⟩

theorem carry_missed : ¬ ∀ (start : Timeval) (visits : List (Scheduler Unit × Move Unit)) (s : Scheduler Unit),
    Run step (initScheduler start) visits s → Run.Meets Proper visits →
      Accounted visits s ∧ Orderly s ∧ Run.Meets Obeys visits := by
  intro claimed
  have played : Run.play step (initScheduler ⟨0, 0⟩) halfMoves = some halfPast := rfl
  obtain ⟨_, orderly, _⟩ := claimed ⟨0, 0⟩ _ halfPast (Run.of_play halfMoves halfPast played) (by decide)
  have normal := orderly.normal ⟨0, ⟨0, 1000000⟩, ()⟩ List.mem_cons_self
  exact absurd normal (by decide)

end Scheduler

end ZyAgf.Xl2tpd
