import ZyAgf.Library.Store
import ZyAgf.Pppoe.HashTable

set_option autoImplicit false

namespace ZyAgf.Pppoe.EventSig

-- A child whose exit is waited for, at its address. It stays as it was made.
structure ChildEntry where
  address : Nat
  pid : Nat
  data : Nat
deriving DecidableEq, Repr

def childHash (ce : ChildEntry) : UInt32 := UInt32.ofNat ce.pid

def childCompare (d1 d2 : ChildEntry) : Int := if d1.pid ≠ d2.pid then 1 else 0

abbrev Table := Hash.HashTable ChildEntry

-- Where Event_HandleChildExit is.
inductive Stage where
  | forked | handled | blocked | inserted
deriving DecidableEq, Repr

-- Where the program is: in its event loop, in DoPipe, or on the way from fork to
-- the end of Event_HandleChildExit, in the loop or in some signal's handler.
inductive Place (n : Nat) where
  | loop
  | clearing
  | scan (i : Nat)
  | seen (sig : Fin n)
  | handler (sig : Fin n)
  | returned (sig : Fin n)
  | cleared (sig : Fin n)
  | registers (stage : Stage) (child : ChildEntry) (caller : Option (Fin n))
deriving DecidableEq, Repr

structure State (n : Nat) where
  fired : Fin n → Bool
  handled : Fin n → Bool
  blocked : Fin n → Bool
  pending : Fin n → Bool
  pipe : Nat
  place : Place n
  table : Table
  fresh : Nat
  alive : List Nat
  zombies : List (Nat × Int)
  called : List (ChildEntry × Int)

-- What comes from outside, and what the program does next.
inductive Event (n : Nat) where
  | signal (sig : Fin n)
  | exits (pid : Nat) (status : Int)
  | handleSignal (sig : Fin n)
  | fork (pid data : Nat)
  | readable
  | goOn
  | waitpid (pid : Nat)
  | returns

-- The signals the system has, the one that tells of children, and the bytes the
-- pipe takes at most.
structure Unix (n : Nat) where
  sigchld : Fin n
  capacity : Nat
  room : 0 < capacity

section Moves

variable {n : Nat} (unix : Unix n)

def sigHandler (s : State n) (sig : Fin n) : State n :=
  if s.handled sig then { s with fired := write s.fired sig true, pipe := min unix.capacity (s.pipe + 1) } else s

def raised (s : State n) (sig : Fin n) : State n :=
  if s.blocked sig then { s with pending := write s.pending sig true } else sigHandler unix s sig

def block (s : State n) (sig : Fin n) : State n := { s with blocked := write s.blocked sig true }

def unblock (s : State n) (sig : Fin n) : State n :=
  let freed := { s with blocked := write s.blocked sig false, pending := write s.pending sig false }
  if s.pending sig then sigHandler unix freed sig else freed

def back (caller : Option (Fin n)) : Place n :=
  match caller with
  | none => .loop
  | some sig => .handler sig

-- DoPipe and Event_HandleChildExit, up to the next point where a signal may come.
def goOn (s : State n) : Option (State n) :=
  match s.place with
  | .loop => none
  | .handler _ => none
  | .clearing =>
      let got := min 64 s.pipe
      some { s with pipe := s.pipe - got, place := if got = 64 then .clearing else .scan 0 }
  | .scan i =>
      if within : i < n then
        if s.fired ⟨i, within⟩ && s.handled ⟨i, within⟩ then some { s with place := .seen ⟨i, within⟩ }
        else some { s with place := .scan (i + 1) }
      else some { s with place := .loop }
  | .seen sig => some { block s sig with place := .handler sig }
  | .returned sig => some { s with fired := write s.fired sig false, place := .cleared sig }
  | .cleared sig => some { unblock unix s sig with place := .scan (sig.val + 1) }
  | .registers .forked child caller =>
      some { s with handled := write s.handled unix.sigchld true, place := .registers .handled child caller }
  | .registers .handled child caller => some { block s unix.sigchld with place := .registers .blocked child caller }
  | .registers .blocked child caller =>
      some { s with table := Hash.hashInsert s.table child, place := .registers .inserted child caller }
  | .registers .inserted _ caller => some { unblock unix s unix.sigchld with place := back caller }

-- One round of child_handler's loop, for the child the kernel chose.
def reaped (s : State n) (zombie : Nat × Int) : State n :=
  let s := { s with zombies := s.zombies.erase zombie }
  match Hash.hashFind (s.table.numEntries + 1) s.table ⟨0, zombie.1, 0⟩ with
  | some ce => { s with table := Hash.hashRemove s.table ce, called := s.called ++ [(ce, zombie.2)] }
  | none => s

def next (s : State n) : Event n → Option (State n)
  | .signal sig => some (raised unix s sig)
  | .exits pid status =>
      if pid ∈ s.alive then
        some (raised unix { s with alive := s.alive.erase pid, zombies := s.zombies ++ [(pid, status)] } unix.sigchld)
      else none
  | .handleSignal sig => if s.place = .loop then some { s with handled := write s.handled sig true } else none
  | .fork pid data =>
      let child : ChildEntry := ⟨s.fresh, pid, data⟩
      let made := { s with alive := s.alive ++ [pid], fresh := s.fresh + 1 }
      if pid ∈ s.alive ∨ pid ∈ s.zombies.map Prod.fst then none
      else match s.place with
        | .loop => some { made with place := .registers .forked child none }
        | .handler sig => some { made with place := .registers .forked child (some sig) }
        | _ => none
  | .readable => if s.place = .loop ∧ s.pipe ≠ 0 then some { s with place := .clearing } else none
  | .goOn => goOn unix s
  | .waitpid pid =>
      if s.place = .handler unix.sigchld then (s.zombies.find? fun zombie => zombie.1 == pid).map (reaped s) else none
  | .returns =>
      match s.place with
      | .handler sig =>
          if sig = unix.sigchld ∧ s.zombies ≠ [] then none
          else some { s with place := .returned sig }
      | _ => none

end Moves

def start {n : Nat} (next prev : ChildEntry → Option ChildEntry) (words : ChildEntry → UInt32) : State n where
  fired := fun _ => false
  handled := fun _ => false
  blocked := fun _ => false
  pending := fun _ => false
  pipe := 0
  place := .loop
  table := Hash.hashInit next prev words childHash childCompare
  fresh := 0
  alive := []
  zombies := []
  called := []

-- The signals that came since the handler was last called.
def owes {n : Nat} (unix : Unix n) (sig : Fin n) (owed : Bool) (s : State n) : Event n → Bool
  | .signal other => owed || (decide (other = sig) && s.handled sig)
  | .exits _ _ => owed || (decide (unix.sigchld = sig) && s.handled sig)
  | .goOn => owed && decide (s.place ≠ .seen sig)
  | _ => owed

def owed {n : Nat} (unix : Unix n) (sig : Fin n) (visits : List (State n × Event n)) : Bool :=
  Run.notes (owes unix sig) false visits

-- A handler of SIGCHLD that waits for a child of its own would unblock it.
def SpawnsOutside {n : Nat} (unix : Unix n) (s : State n) : Event n → Prop
  | .fork _ _ => s.place ≠ .handler unix.sigchld
  | _ => True

section Places

variable {n : Nat}

def Place.within (sig : Fin n) : Place n → Prop
  | .handler other => other = sig
  | .returned other => other = sig
  | .registers _ _ caller => caller = some sig
  | _ => False

def Place.masks (unix : Unix n) (sig : Fin n) : Place n → Prop
  | .handler other => other = sig
  | .returned other => other = sig
  | .cleared other => other = sig
  | .registers stage _ caller => caller = some sig ∨ sig = unix.sigchld ∧ (stage = .blocked ∨ stage = .inserted)
  | _ => False

def Place.ahead : Place n → Nat
  | .loop => n
  | .clearing => 0
  | .scan i => i
  | .seen sig => sig.val
  | .handler sig => sig.val + 1
  | .returned sig => sig.val + 1
  | .cleared sig => sig.val + 1
  | .registers _ _ caller => caller.elim n fun sig => sig.val + 1

def Awake (s : State n) (sig : Fin n) : Prop := s.pipe ≠ 0 ∨ s.place.ahead ≤ sig.val

def Due (s : State n) (sig : Fin n) : Prop := s.pending sig = true ∨ s.fired sig = true ∧ Awake s sig

-- A signal that is owed will be seen: it waits for its handler to return, or it
-- is marked and DoPipe has not passed it or will be called again.
structure Kept (unix : Unix n) (sig : Fin n) (owed : Prop) (s : State n) : Prop where
  listens : owed → s.handled sig = true
  held : s.place.within sig → s.blocked sig = true ∧ (owed → s.pending sig = true)
  masked : s.blocked sig = true → s.place.masks unix sig
  queued : s.pending sig = true → s.blocked sig = true ∧ owed
  armed : s.blocked sig = true → s.handled sig = true
  due : ¬ s.place.within sig → owed → Due s sig
  meant : ¬ s.place.within sig → s.fired sig = true → owed
  seen : s.place = .seen sig → s.fired sig = true ∧ s.handled sig = true
  ready : ∀ stage child caller, s.place = .registers stage child caller →
    caller ≠ some unix.sigchld ∧ (stage ≠ .forked → s.handled unix.sigchld = true)

theorem start_kept (unix : Unix n) (sig : Fin n) (next prev : ChildEntry → Option ChildEntry)
    (words : ChildEntry → UInt32) :
    Kept unix sig (false = true) (start (n := n) next prev words) where
  listens := fun no => absurd no Bool.false_ne_true
  held := fun inside => inside.elim
  masked := fun no => absurd no Bool.false_ne_true
  queued := fun no => absurd no Bool.false_ne_true
  armed := fun no => absurd no Bool.false_ne_true
  due := fun _ no => absurd no Bool.false_ne_true
  meant := fun _ no => no
  seen := fun no => Place.noConfusion rfl (heq_of_eq no)
  ready := fun _ _ _ no => Place.noConfusion rfl (heq_of_eq no)

-- A step that leaves this signal's marks alone.
structure Alike (sig : Fin n) (s s' : State n) : Prop where
  fired : s'.fired sig = s.fired sig
  blocked : s'.blocked sig = s.blocked sig
  pending : s'.pending sig = s.pending sig
  handled : ∀ other, s.handled other = true → s'.handled other = true

theorem Kept.moved {unix : Unix n} {sig : Fin n} {owed : Prop} {s s' : State n} (kept : Kept unix sig owed s)
    (alike : Alike sig s s')
    (within : s'.place.within sig ↔ s.place.within sig)
    (masks : s.place.masks unix sig → s'.place.masks unix sig)
    (awake : s.fired sig = true → s.handled sig = true → Awake s sig → Awake s' sig)
    (seen : s'.place = .seen sig → s.fired sig = true ∧ s.handled sig = true)
    (ready : ∀ stage child caller, s'.place = .registers stage child caller →
      caller ≠ some unix.sigchld ∧ (stage ≠ .forked → s'.handled unix.sigchld = true)) : Kept unix sig owed s' where
  listens := fun need => alike.handled sig (kept.listens need)
  held := by
    intro inside
    rw [alike.blocked, alike.pending]
    exact kept.held (within.mp inside)
  masked := by
    intro blocked
    rw [alike.blocked] at blocked
    exact masks (kept.masked blocked)
  queued := by
    intro waiting
    rw [alike.pending] at waiting
    rw [alike.blocked]
    exact kept.queued waiting
  armed := by
    intro blocked
    rw [alike.blocked] at blocked
    exact alike.handled sig (kept.armed blocked)
  due := by
    intro outside need
    unfold Due
    rw [alike.pending, alike.fired]
    refine (kept.due (mt within.mpr outside) need).imp_right fun marked => ?_
    exact ⟨marked.1, awake marked.1 (kept.listens need) marked.2⟩
  meant := by
    intro outside marked
    rw [alike.fired] at marked
    exact kept.meant (mt within.mpr outside) marked
  seen := fun there => ⟨alike.fired.trans (seen there).1, alike.handled sig (seen there).2⟩
  ready := ready

section Steps

variable {unix : Unix n} {sig : Fin n} {owed : Prop} {s : State n}

theorem pipe_filled (unix : Unix n) (count : Nat) : min unix.capacity (count + 1) ≠ 0 := by
  have room := unix.room
  omega

theorem raised_kept (kept : Kept unix sig owed s) : Kept unix sig (owed ∨ s.handled sig = true)
    (raised unix s sig) := by
  unfold raised
  by_cases masked : s.blocked sig = true
  · rw [if_pos masked]
    have handled := kept.armed masked
    exact
      { listens := fun _ => handled
        held := fun _ => ⟨masked, fun _ => write_here _ _ _⟩
        masked := kept.masked
        queued := fun _ => ⟨masked, .inr handled⟩
        armed := kept.armed
        due := fun _ _ => .inl (write_here _ _ _)
        meant := fun _ _ => .inr handled
        seen := kept.seen
        ready := kept.ready }
  · have outside : ¬ s.place.within sig := fun inside => masked (kept.held inside).1
    rw [if_neg masked]
    unfold sigHandler
    by_cases handled : s.handled sig = true
    · rw [if_pos handled]
      exact
        { listens := fun _ => handled
          held := fun inside => absurd inside outside
          masked := kept.masked
          queued := fun waiting => ⟨(kept.queued waiting).1, .inr handled⟩
          armed := kept.armed
          due := fun _ _ => .inr ⟨write_here _ _ _, .inl (pipe_filled unix s.pipe)⟩
          meant := fun _ _ => .inr handled
          seen := fun there => ⟨write_here _ _ _, handled⟩
          ready := kept.ready }
    · rw [if_neg handled]
      have still : owed ∨ s.handled sig = true ↔ owed := or_iff_left handled
      rw [still]
      exact kept

theorem raised_other (kept : Kept unix sig owed s) (other : Fin n) (different : sig ≠ other) :
    Kept unix sig owed (raised unix s other) := by
  unfold raised
  by_cases masked : s.blocked other = true
  · rw [if_pos masked]
    exact kept.moved ⟨rfl, rfl, write_elsewhere _ _ _ _ different, fun _ listens => listens⟩ Iff.rfl id
      (fun _ _ => id) kept.seen
      kept.ready
  · rw [if_neg masked]
    unfold sigHandler
    by_cases handled : s.handled other = true
    · rw [if_pos handled]
      exact kept.moved ⟨write_elsewhere _ _ _ _ different, rfl, rfl, fun _ listens => listens⟩ Iff.rfl id
        (fun _ _ awake => awake.imp_left fun _ => pipe_filled unix s.pipe) kept.seen kept.ready
    · rw [if_neg handled]
      exact kept

theorem unblocked_kept (kept : Kept unix sig owed s) (outside : ¬ s.place.within sig) (place : Place n)
    (outside' : ¬ place.within sig) (ahead : s.place.ahead ≤ sig.val → place.ahead ≤ sig.val)
    (elsewhere : place ≠ .seen sig)
    (done : ∀ stage child caller, place ≠ .registers stage child caller) :
    Kept unix sig owed { unblock unix s sig with place := place } := by
  unfold unblock
  dsimp only
  by_cases waiting : s.pending sig = true
  · have due := kept.queued waiting
    have handled := kept.armed due.1
    rw [if_pos waiting]
    unfold sigHandler
    rw [if_pos handled]
    exact
      { listens := fun _ => handled
        held := fun inside => absurd inside outside'
        masked := fun blocked => absurd ((write_here _ _ _).symm.trans blocked) Bool.false_ne_true
        queued := fun again => absurd ((write_here _ _ _).symm.trans again) Bool.false_ne_true
        armed := fun _ => handled
        due := fun _ _ => .inr ⟨write_here _ _ _, .inl (pipe_filled unix s.pipe)⟩
        meant := fun _ _ => due.2
        seen := fun there => absurd there elsewhere
        ready := fun stage child caller there => absurd there (done stage child caller) }
  · rw [if_neg waiting]
    exact
      { listens := kept.listens
        held := fun inside => absurd inside outside'
        masked := fun blocked => absurd ((write_here _ _ _).symm.trans blocked) Bool.false_ne_true
        queued := fun again => absurd ((write_here _ _ _).symm.trans again) Bool.false_ne_true
        armed := fun blocked => absurd ((write_here _ _ _).symm.trans blocked) Bool.false_ne_true
        due := fun _ need => .inr ⟨((kept.due outside need).resolve_left waiting).1,
          ((kept.due outside need).resolve_left waiting).2.imp_right ahead⟩
        meant := fun _ marked => kept.meant outside marked
        seen := fun there => absurd there elsewhere
        ready := fun stage child caller there => absurd there (done stage child caller) }

theorem unblocked_other (kept : Kept unix sig owed s) (other : Fin n) (different : sig ≠ other) (place : Place n)
    (within : place.within sig ↔ s.place.within sig) (masks : s.place.masks unix sig → place.masks unix sig)
    (ahead : s.place.ahead ≤ sig.val → place.ahead ≤ sig.val) (elsewhere : place ≠ .seen sig)
    (done : ∀ stage child caller, place ≠ .registers stage child caller) :
    Kept unix sig owed { unblock unix s other with place := place } := by
  unfold unblock
  dsimp only
  by_cases waiting : s.pending other = true
  · rw [if_pos waiting]
    unfold sigHandler
    by_cases handled : s.handled other = true
    · rw [if_pos handled]
      exact kept.moved ⟨write_elsewhere _ _ _ _ different, write_elsewhere _ _ _ _ different,
        write_elsewhere _ _ _ _ different,
        fun _ listens => listens⟩ within masks (fun _ _ _ => .inl (pipe_filled unix s.pipe))
          (fun there => absurd there elsewhere)
        (fun stage child caller there => absurd there (done stage child caller))
    · rw [if_neg handled]
      exact kept.moved ⟨rfl, write_elsewhere _ _ _ _ different, write_elsewhere _ _ _ _ different,
        fun _ listens => listens⟩ within masks (fun _ _ awake => awake.imp_right ahead)
          (fun there => absurd there elsewhere)
        (fun stage child caller there => absurd there (done stage child caller))
  · rw [if_neg waiting]
    exact kept.moved ⟨rfl, write_elsewhere _ _ _ _ different, write_elsewhere _ _ _ _ different,
      fun _ listens => listens⟩ within masks (fun _ _ awake => awake.imp_right ahead)
        (fun there => absurd there elsewhere)
      (fun stage child caller there => absurd there (done stage child caller))

theorem goOn_calls (kept : Kept unix sig owed s) (there : s.place = .seen sig) (s' : State n)
    (took : goOn unix s = some s') :
    owed ∧ Kept unix sig False s' := by
  have outside : ¬ s.place.within sig := by
    rw [there]
    exact id
  have free : s.blocked sig ≠ true := by
    intro blocked
    have masks := kept.masked blocked
    rw [there] at masks
    exact masks
  have marked := kept.seen there
  unfold goOn at took
  rw [there] at took
  obtain rfl := Option.some.inj took
  exact ⟨kept.meant outside marked.1,
    { listens := fun no => no.elim
      held := fun _ => ⟨write_here _ _ _, fun no => no.elim⟩
      masked := fun _ => rfl
      queued := fun waiting => absurd (kept.queued waiting).1 free
      armed := fun _ => marked.2
      due := fun _ no => no.elim
      meant := fun aside _ => absurd rfl aside
      seen := fun no => Place.noConfusion rfl (heq_of_eq no)
      ready := fun _ _ _ no => Place.noConfusion rfl (heq_of_eq no) }⟩

-- A step that leaves the signals as they are and takes the program from one place to another.
theorem Kept.goes (kept : Kept unix sig owed s) {s' : State n} {earlier later : Place n} (alike : Alike sig s s')
    (pipe : s'.pipe = s.pipe) (before : s.place = earlier) (after : s'.place = later)
    (within : later.within sig ↔ earlier.within sig)
    (masks : earlier.masks unix sig → later.masks unix sig)
    (ahead : s.fired sig = true → s.handled sig = true → earlier.ahead ≤ sig.val → later.ahead ≤ sig.val)
    (seen : later = .seen sig → s.fired sig = true ∧ s.handled sig = true)
    (ready : ∀ stage child caller, later = .registers stage child caller →
      caller ≠ some unix.sigchld ∧ (stage ≠ .forked → s'.handled unix.sigchld = true)) : Kept unix sig owed s' := by
  subst before after
  refine kept.moved alike within masks ?_ seen ready
  intro fired handled awake
  unfold Awake
  rw [pipe]
  exact awake.imp_right (ahead fired handled)

theorem clearing_kept (kept : Kept unix sig owed s) (there : s.place = .clearing) (s' : State n)
    (took : goOn unix s = some s') : Kept unix sig owed s' := by
  rw [goOn, there] at took
  obtain rfl := Option.some.inj took
  refine kept.moved ⟨rfl, rfl, rfl, fun _ listens => listens⟩ ?_ ?_ ?_ ?_ ?_
  · rw [there]
    dsimp only
    split <;> exact Iff.rfl
  · rw [there]
    exact fun no => no.elim
  · refine fun _ _ _ => .inr ?_
    dsimp only
    split <;> exact Nat.zero_le _
  · dsimp only
    split <;> exact fun no => Place.noConfusion rfl (heq_of_eq no)
  · dsimp only
    split <;> exact fun _ _ _ no => Place.noConfusion rfl (heq_of_eq no)

-- DoPipe passes a signal only when it is not both marked and handled.
theorem scan_kept (kept : Kept unix sig owed s) {i : Nat} (there : s.place = .scan i) (s' : State n)
    (took : goOn unix s = some s') : Kept unix sig owed s' := by
  rw [goOn, there] at took
  dsimp only at took
  by_cases within : i < n
  · rw [dif_pos within] at took
    by_cases marked : (s.fired ⟨i, within⟩ && s.handled ⟨i, within⟩) = true
    · rw [if_pos marked] at took
      obtain rfl := Option.some.inj took
      refine kept.goes ⟨rfl, rfl, rfl, fun _ listens => listens⟩ rfl there rfl Iff.rfl (fun no => no.elim)
        (fun _ _ ahead => ahead) ?_ fun _ _ _ no => Place.noConfusion rfl (heq_of_eq no)
      intro here
      obtain rfl := Place.seen.inj here
      exact (Bool.and_eq_true _ _).mp marked
    · rw [if_neg marked] at took
      obtain rfl := Option.some.inj took
      refine kept.goes ⟨rfl, rfl, rfl, fun _ listens => listens⟩ rfl there rfl Iff.rfl (fun no => no.elim) ?_
        (fun no => Place.noConfusion rfl (heq_of_eq no)) fun _ _ _ no => Place.noConfusion rfl (heq_of_eq no)
      intro fired handled ahead
      refine Nat.lt_of_le_of_ne ahead fun here => marked ?_
      obtain rfl : (⟨i, within⟩ : Fin n) = sig := Fin.ext here
      exact (Bool.and_eq_true _ _).mpr ⟨fired, handled⟩
  · rw [dif_neg within] at took
    obtain rfl := Option.some.inj took
    exact kept.goes ⟨rfl, rfl, rfl, fun _ listens => listens⟩ rfl there rfl Iff.rfl (fun no => no.elim)
      (fun _ _ ahead => absurd (Nat.lt_of_le_of_lt ahead sig.isLt) within)
      (fun no => Place.noConfusion rfl (heq_of_eq no)) fun _ _ _ no => Place.noConfusion rfl (heq_of_eq no)

theorem seen_kept (kept : Kept unix sig owed s) {other : Fin n} (there : s.place = .seen other)
    (different : sig ≠ other) (s' : State n) (took : goOn unix s = some s') : Kept unix sig owed s' := by
  rw [goOn, there] at took
  obtain rfl := Option.some.inj took
  exact kept.goes ⟨rfl, write_elsewhere _ _ _ _ different, rfl, fun _ listens => listens⟩ rfl there rfl
    (iff_of_false different.symm id) (fun no => no.elim)
    (fun _ _ ahead => Nat.lt_of_le_of_ne ahead fun same => different (Fin.ext same).symm)
    (fun no => Place.noConfusion rfl (heq_of_eq no)) fun _ _ _ no => Place.noConfusion rfl (heq_of_eq no)

theorem returned_kept (kept : Kept unix sig owed s) {other : Fin n} (there : s.place = .returned other) (s' : State n)
    (took : goOn unix s = some s') : Kept unix sig owed s' := by
  rw [goOn, there] at took
  obtain rfl := Option.some.inj took
  by_cases same : sig = other
  · subst same
    have held := kept.held (by rw [there]; exact rfl)
    exact
      { listens := kept.listens
        held := fun no => no.elim
        masked := fun _ => rfl
        queued := kept.queued
        armed := kept.armed
        due := fun _ need => .inl (held.2 need)
        meant := fun _ marked => absurd ((write_here _ _ _).symm.trans marked) Bool.false_ne_true
        seen := fun no => Place.noConfusion rfl (heq_of_eq no)
        ready := fun _ _ _ no => Place.noConfusion rfl (heq_of_eq no) }
  · exact kept.goes ⟨write_elsewhere _ _ _ _ same, rfl, rfl, fun _ listens => listens⟩ rfl there rfl
      (iff_of_false id (Ne.symm same)) id (fun _ _ ahead => ahead)
      (fun no => Place.noConfusion rfl (heq_of_eq no)) fun _ _ _ no => Place.noConfusion rfl (heq_of_eq no)

theorem cleared_kept (kept : Kept unix sig owed s) {other : Fin n} (there : s.place = .cleared other) (s' : State n)
    (took : goOn unix s = some s') : Kept unix sig owed s' := by
  rw [goOn, there] at took
  obtain rfl := Option.some.inj took
  have ahead : s.place.ahead ≤ sig.val → (Place.scan (n := n) (other.val + 1)).ahead ≤ sig.val := by
    rw [there]
    exact id
  have elsewhere : Place.scan (other.val + 1) ≠ .seen sig := fun no => Place.noConfusion rfl (heq_of_eq no)
  have done : ∀ stage child caller, Place.scan (n := n) (other.val + 1) ≠ .registers stage child caller :=
    fun _ _ _ no => Place.noConfusion rfl (heq_of_eq no)
  by_cases same : sig = other
  · subst same
    exact unblocked_kept kept (by rw [there]; exact id) _ id ahead elsewhere done
  · refine unblocked_other kept other same _ ?_ ?_ ahead elsewhere done
    · rw [there]
      exact Iff.rfl
    · rw [there]
      exact fun no => absurd no.symm same

theorem forked_kept (kept : Kept unix sig owed s) {child : ChildEntry} {caller : Option (Fin n)}
    (there : s.place = .registers .forked child caller) (s' : State n) (took : goOn unix s = some s') :
    Kept unix sig owed s' := by
  have known := kept.ready .forked child caller there
  rw [goOn, there] at took
  obtain rfl := Option.some.inj took
  refine kept.goes ⟨rfl, rfl, rfl, ?_⟩ rfl there rfl Iff.rfl ?_ (fun _ _ ahead => ahead)
    (fun no => Place.noConfusion rfl (heq_of_eq no)) ?_
  · intro other listens
    by_cases same : other = unix.sigchld
    · rw [same]
      exact write_here _ _ _
    · exact (write_elsewhere _ _ _ _ same).trans listens
  · exact fun masks => masks.imp_right fun no => absurd no.2 (by decide)
  · intro _ _ _ here
    obtain ⟨rfl, rfl, rfl⟩ := Place.registers.inj here
    exact ⟨known.1, fun _ => write_here _ _ _⟩

theorem handled_kept (kept : Kept unix sig owed s) {child : ChildEntry} {caller : Option (Fin n)}
    (there : s.place = .registers .handled child caller) (s' : State n) (took : goOn unix s = some s') :
    Kept unix sig owed s' := by
  have known := kept.ready .handled child caller there
  rw [goOn, there] at took
  obtain rfl := Option.some.inj took
  have ready : ∀ stage' child' caller', Place.registers .blocked child caller = .registers stage' child' caller' →
      caller' ≠ some unix.sigchld ∧ (stage' ≠ .forked → s.handled unix.sigchld = true) := by
    intro _ _ _ here
    obtain ⟨rfl, rfl, rfl⟩ := Place.registers.inj here
    exact ⟨known.1, fun _ => known.2 (by decide)⟩
  by_cases same : sig = unix.sigchld
  · subst same
    have outside : ¬ s.place.within unix.sigchld := by
      rw [there]
      exact known.1
    have ahead : s.place.ahead ≤ unix.sigchld.val →
      (Place.registers .blocked child caller).ahead ≤ unix.sigchld.val := by
      rw [there]
      exact id
    exact
      { listens := kept.listens
        held := fun inside => absurd inside known.1
        masked := fun _ => .inr ⟨rfl, .inl rfl⟩
        queued := fun waiting => ⟨write_here _ _ _, (kept.queued waiting).2⟩
        armed := fun _ => known.2 (by decide)
        due := fun _ need => (kept.due outside need).imp_right fun marked => ⟨marked.1, marked.2.imp_right ahead⟩
        meant := fun _ marked => kept.meant outside marked
        seen := fun no => Place.noConfusion rfl (heq_of_eq no)
        ready := ready }
  · exact kept.goes ⟨rfl, write_elsewhere _ _ _ _ same, rfl, fun _ listens => listens⟩ rfl there rfl Iff.rfl
      (fun masks => masks.imp_right fun no => absurd no.1 same) (fun _ _ ahead => ahead)
      (fun no => Place.noConfusion rfl (heq_of_eq no)) ready

theorem blocked_kept (kept : Kept unix sig owed s) {child : ChildEntry} {caller : Option (Fin n)}
    (there : s.place = .registers .blocked child caller) (s' : State n) (took : goOn unix s = some s') :
    Kept unix sig owed s' := by
  have known := kept.ready .blocked child caller there
  rw [goOn, there] at took
  obtain rfl := Option.some.inj took
  refine kept.goes ⟨rfl, rfl, rfl, fun _ listens => listens⟩ rfl there rfl Iff.rfl
    (fun masks => masks.imp_right fun own => ⟨own.1, .inr rfl⟩) (fun _ _ ahead => ahead)
    (fun no => Place.noConfusion rfl (heq_of_eq no)) ?_
  intro _ _ _ here
  obtain ⟨rfl, rfl, rfl⟩ := Place.registers.inj here
  exact ⟨known.1, fun _ => known.2 (by decide)⟩

theorem back_within (caller : Option (Fin n)) (other : Fin n) : (back caller).within other ↔ caller = some other := by
  cases caller with
  | none => exact iff_of_false id (Option.some_ne_none _).symm
  | some which => exact ⟨congrArg some, Option.some.inj⟩

theorem inserted_kept (kept : Kept unix sig owed s) {child : ChildEntry} {caller : Option (Fin n)}
    (there : s.place = .registers .inserted child caller) (s' : State n) (took : goOn unix s = some s') :
    Kept unix sig owed s' := by
  have known := kept.ready .inserted child caller there
  rw [goOn, there] at took
  obtain rfl := Option.some.inj took
  have ahead : s.place.ahead ≤ sig.val → (back caller).ahead ≤ sig.val := by
    rw [there]
    cases caller <;> exact id
  have elsewhere : back caller ≠ .seen sig := by
    cases caller <;> exact fun no => Place.noConfusion rfl (heq_of_eq no)
  have done : ∀ stage child caller', back caller ≠ .registers stage child caller' := by
    cases caller <;> exact fun _ _ _ no => Place.noConfusion rfl (heq_of_eq no)
  by_cases same : sig = unix.sigchld
  · subst same
    refine unblocked_kept kept ?_ _ (fun inside => known.1 ((back_within caller _).mp inside)) ahead elsewhere done
    rw [there]
    exact known.1
  · refine unblocked_other kept unix.sigchld same _ ?_ ?_ ahead elsewhere done
    · rw [there]
      exact back_within caller sig
    · rw [there]
      rintro (rfl | no)
      · exact rfl
      · exact absurd no.1 same

theorem goOn_kept (kept : Kept unix sig owed s) (apart : s.place ≠ .seen sig) (s' : State n)
    (took : goOn unix s = some s') :
    Kept unix sig owed s' := by
  cases place : s.place with
  | loop | handler =>
      rw [goOn, place] at took
      cases took
  | clearing => exact clearing_kept kept place s' took
  | scan => exact scan_kept kept place s' took
  | seen => exact seen_kept kept place (fun same => apart (by rw [place, same])) s' took
  | returned => exact returned_kept kept place s' took
  | cleared => exact cleared_kept kept place s' took
  | registers stage =>
      cases stage with
      | forked => exact forked_kept kept place s' took
      | handled => exact handled_kept kept place s' took
      | blocked => exact blocked_kept kept place s' took
      | inserted => exact inserted_kept kept place s' took

theorem Kept.same {owed' : Prop} (kept : Kept unix sig owed s) (same : owed ↔ owed') : Kept unix sig owed' s :=
  propext same ▸ kept

theorem Kept.besides (kept : Kept unix sig owed s) (s' : State n) (fired : s'.fired = s.fired)
    (blocked : s'.blocked = s.blocked)
    (pending : s'.pending = s.pending) (handled : s'.handled = s.handled) (pipe : s'.pipe = s.pipe)
    (place : s'.place = s.place) :
    Kept unix sig owed s' := by
  refine kept.moved ⟨by rw [fired], by rw [blocked], by rw [pending], fun _ => by rw [handled]; exact id⟩ ?_ ?_ ?_ ?_ ?_
  · rw [place]
  · rw [place]
    exact id
  · unfold Awake
    rw [pipe, place]
    exact fun _ _ => id
  · rw [place]
    exact kept.seen
  · rw [place, handled]
    exact kept.ready

theorem reaped_besides (s : State n) (zombie : Nat × Int) :
    ∃ table called, reaped s zombie =
      { s with zombies := s.zombies.erase zombie, table := table, called := called } := by
  unfold reaped
  dsimp only
  split
  · exact ⟨_, _, rfl⟩
  · exact ⟨_, _, rfl⟩

theorem exits_kept (kept : Kept unix sig owed s) (pid : Nat) (status : Int) (s' : State n)
    (took : next unix s (.exits pid status) = some s') :
    Kept unix sig (owed ∨ unix.sigchld = sig ∧ s.handled sig = true) s' := by
  rw [next] at took
  by_cases alive : pid ∈ s.alive
  · rw [if_pos alive] at took
    obtain rfl := Option.some.inj took
    have kept' := kept.besides { s with alive := s.alive.erase pid, zombies := s.zombies ++ [(pid, status)] }
      rfl rfl rfl rfl rfl rfl
    by_cases same : unix.sigchld = sig
    · subst same
      exact (raised_kept kept').same (or_congr_right (and_iff_right rfl).symm)
    · exact (raised_other kept' unix.sigchld (Ne.symm same)).same (or_iff_left fun no => same no.1).symm
  · rw [if_neg alive] at took
    cases took

theorem handleSignal_kept (kept : Kept unix sig owed s) (other : Fin n) (s' : State n)
    (took : next unix s (.handleSignal other) = some s') : Kept unix sig owed s' := by
  rw [next] at took
  by_cases there : s.place = .loop
  · rw [if_pos there] at took
    obtain rfl := Option.some.inj took
    refine kept.moved ⟨rfl, rfl, rfl, ?_⟩ Iff.rfl id (fun _ _ => id) kept.seen ?_
    · intro which listens
      by_cases same : which = other
      · rw [same]
        exact write_here _ _ _
      · exact (write_elsewhere _ _ _ _ same).trans listens
    · intro _ _ _ here
      exact Place.noConfusion rfl (heq_of_eq (there.symm.trans here))
  · rw [if_neg there] at took
    cases took

theorem fork_kept (kept : Kept unix sig owed s) (pid data : Nat) (spared : s.place ≠ .handler unix.sigchld)
    (s' : State n) (took : next unix s (.fork pid data) = some s') : Kept unix sig owed s' := by
  rw [next] at took
  dsimp only at took
  split at took
  · cases took
  · cases place : s.place with
    | loop =>
        rw [place] at took
        obtain rfl := Option.some.inj took
        refine kept.goes ⟨rfl, rfl, rfl, fun _ listens => listens⟩ rfl place rfl
          (iff_of_false (Option.some_ne_none _).symm id) (fun no => no.elim) (fun _ _ ahead => ahead)
          (fun no => Place.noConfusion rfl (heq_of_eq no)) ?_
        intro _ _ _ here
        obtain ⟨rfl, rfl, rfl⟩ := Place.registers.inj here
        exact ⟨(Option.some_ne_none _).symm, fun no => absurd rfl no⟩
    | handler other =>
        have apart : other ≠ unix.sigchld := fun same => spared (by rw [place, same])
        rw [place] at took
        obtain rfl := Option.some.inj took
        refine kept.goes ⟨rfl, rfl, rfl, fun _ listens => listens⟩ rfl place rfl ⟨Option.some.inj, congrArg some⟩
          (fun same => .inl (congrArg some same)) (fun _ _ ahead => ahead)
          (fun no => Place.noConfusion rfl (heq_of_eq no)) ?_
        intro _ _ _ here
        obtain ⟨rfl, rfl, rfl⟩ := Place.registers.inj here
        exact ⟨fun same => apart (Option.some.inj same), fun no => absurd rfl no⟩
    | clearing | scan | seen | returned | cleared | registers =>
        rw [place] at took
        cases took

theorem readable_kept (kept : Kept unix sig owed s) (s' : State n) (took : next unix s .readable = some s') :
    Kept unix sig owed s' := by
  rw [next] at took
  by_cases there : s.place = .loop ∧ s.pipe ≠ 0
  · rw [if_pos there] at took
    obtain rfl := Option.some.inj took
    exact kept.goes ⟨rfl, rfl, rfl, fun _ listens => listens⟩ rfl there.1 rfl Iff.rfl (fun no => no.elim)
      (fun _ _ _ => Nat.zero_le _) (fun no => Place.noConfusion rfl (heq_of_eq no))
      fun _ _ _ no => Place.noConfusion rfl (heq_of_eq no)
  · rw [if_neg there] at took
    cases took

theorem waitpid_kept (kept : Kept unix sig owed s) (pid : Nat) (s' : State n)
    (took : next unix s (.waitpid pid) = some s') : Kept unix sig owed s' := by
  rw [next] at took
  split at took
  · obtain ⟨zombie, _, rfl⟩ := Option.map_eq_some_iff.mp took
    obtain ⟨table, called, shape⟩ := reaped_besides s zombie
    rw [shape]
    exact kept.besides _ rfl rfl rfl rfl rfl rfl
  · cases took

theorem returns_kept (kept : Kept unix sig owed s) (s' : State n) (took : next unix s .returns = some s') :
    Kept unix sig owed s' := by
  rw [next] at took
  cases place : s.place with
  | handler other =>
      rw [place] at took
      dsimp only at took
      split at took
      · cases took
      · obtain rfl := Option.some.inj took
        exact kept.goes ⟨rfl, rfl, rfl, fun _ listens => listens⟩ rfl place rfl Iff.rfl id (fun _ _ ahead => ahead)
          (fun no => Place.noConfusion rfl (heq_of_eq no)) fun _ _ _ no => Place.noConfusion rfl (heq_of_eq no)
  | loop | clearing | scan | seen | returned | cleared | registers =>
      rw [place] at took
      cases took

theorem next_kept {due : Bool} (kept : Kept unix sig (due = true) s) (event : Event n)
    (spared : SpawnsOutside unix s event)
    (s' : State n) (took : next unix s event = some s') : Kept unix sig (owes unix sig due s event = true) s' := by
  cases event with
  | signal other =>
      obtain rfl := Option.some.inj took
      by_cases same : other = sig
      · subst same
        refine (raised_kept kept).same ?_
        simp [owes]
      · refine (raised_other kept other (Ne.symm same)).same ?_
        simp [owes, same]
  | exits pid status =>
      refine (exits_kept kept pid status s' took).same ?_
      simp [owes]
  | handleSignal other => exact handleSignal_kept kept other s' took
  | fork pid data => exact fork_kept kept pid data spared s' took
  | readable => exact readable_kept kept s' took
  | goOn =>
      by_cases there : s.place = .seen sig
      · refine (goOn_calls kept there s' took).2.same ?_
        simp [owes, there]
      · refine (goOn_kept kept there s' took).same ?_
        simp [owes, there]
  | waitpid pid => exact waitpid_kept kept pid s' took
  | returns => exact returns_kept kept s' took

end Steps

variable (unix : Unix n) {next' prev : ChildEntry → Option ChildEntry} {words : ChildEntry → UInt32}

theorem run_kept {visits : List (State n × Event n)} {s : State n}
    (run : Run (next unix) (start next' prev words) visits s)
    (spared : Run.Meets (SpawnsOutside unix) visits) (sig : Fin n) : Kept unix sig (owed unix sig visits = true) s := by
  induction run with
  | start => exact start_kept unix sig next' prev words
  | snoc visits state following event before took ih =>
      obtain ⟨spared, last⟩ := (Run.meets_snoc _ visits state event).mp spared
      unfold owed
      rw [Run.notes_snoc]
      exact next_kept (ih spared) event last following took

-- Nothing is lost on the way from the signal to its handler, and nothing is made
-- up: the handler is called for a signal that came since its last call, and when
-- the event loop finds nothing to read every signal has been followed by a call.
theorem signals_served {visits : List (State n × Event n)} {s : State n}
    (run : Run (next unix) (start next' prev words) visits s)
    (spared : Run.Meets (SpawnsOutside unix) visits) (sig : Fin n) :
    (s.place = .loop → s.pipe = 0 → owed unix sig visits = false) ∧
      ∀ earlier state later, visits = earlier ++ (state, .goOn) :: later → state.place = .seen sig →
        owed unix sig earlier = true := by
  constructor
  · intro idle dry
    have kept := run_kept unix run spared sig
    by_contra owing
    have outside : ¬ s.place.within sig := by
      rw [idle]
      exact id
    rcases kept.due outside (Bool.eq_true_of_not_eq_false owing) with waiting | ⟨_, more | ahead⟩
    · have masks := kept.masked (kept.queued waiting).1
      rw [idle] at masks
      exact masks
    · exact more dry
    · rw [idle] at ahead
      exact absurd sig.isLt (Nat.not_lt.mpr ahead)
  · rintro earlier state later rfl there
    obtain ⟨following, before, took, _⟩ := Run.through run
    have spared' := ((Run.meets_append _ _ _).mp spared).1
    exact (goOn_calls (run_kept unix before spared' sig) there following took).1

end Places

instance {n : Nat} (unix : Unix n) (s : State n) : ∀ event, Decidable (SpawnsOutside unix s event)
  | .fork _ _ => inferInstanceAs (Decidable (s.place ≠ .handler unix.sigchld))
  | .signal _ => inferInstanceAs (Decidable True)
  | .exits _ _ => inferInstanceAs (Decidable True)
  | .handleSignal _ => inferInstanceAs (Decidable True)
  | .readable => inferInstanceAs (Decidable True)
  | .goOn => inferInstanceAs (Decidable True)
  | .waitpid _ => inferInstanceAs (Decidable True)
  | .returns => inferInstanceAs (Decidable True)

-- A second signal comes before the handler is called and two more while it runs,
-- through a pipe that takes one byte.
def twoSignals : Unix 2 := ⟨0, 1, Nat.one_pos⟩

def plainStart : State 2 := start (fun _ => none) (fun _ => none) (fun _ => 0)

def nestedSignals : List (Event 2) :=
  [.handleSignal 1, .signal 1, .signal 1, .readable, .goOn, .signal 0, .goOn, .goOn, .goOn, .signal 1, .signal 1,
    .returns, .goOn, .goOn,
    .goOn, .readable, .goOn, .goOn, .goOn, .goOn, .returns, .goOn, .goOn, .goOn]

theorem signals_served_nested : ∃ s, Run.play (next twoSignals) plainStart nestedSignals = some s ∧
    owed twoSignals 1 (Run.trace (next twoSignals) plainStart nestedSignals) = false := by
  have seen : (Run.play (next twoSignals) plainStart nestedSignals).any
    (fun s => decide (s.place = .loop ∧ s.pipe = 0)) = true := by
    decide +kernel
  obtain ⟨s, played, rests⟩ := (Option.any_eq_true _ _).mp seen
  have rests := of_decide_eq_true rests
  exact ⟨s, played, (signals_served twoSignals (Run.of_play nestedSignals s played)
    (by decide +kernel) 1).1 rests.1 rests.2⟩

end ZyAgf.Pppoe.EventSig
