import ZyAgf.Pppoe.EventSignals

set_option autoImplicit false

namespace ZyAgf.Pppoe.EventSig

variable {n : Nat}

-- The children that exited, and the entries that went into the table.
def departure (_ : State n) : Event n → Option (Nat × Int)
  | .exits pid status => some (pid, status)
  | _ => none

def exitsOf (visits : List (State n × Event n)) : List (Nat × Int) := Run.observe departure visits

def registration (s : State n) : Event n → Option ChildEntry
  | .goOn =>
      match s.place with
      | .registers .blocked child _ => some child
      | _ => none
  | _ => none

def registered (visits : List (State n × Event n)) : List ChildEntry := Run.observe registration visits

-- Until Event_HandleSignal has been called for it, SIGCHLD is not noticed.
def Watches (unix : Unix n) (s : State n) : Event n → Prop
  | .fork _ _ => s.place ≠ .handler unix.sigchld
  | .exits _ _ => s.handled unix.sigchld = true
  | _ => True

instance (unix : Unix n) (s : State n) : ∀ event, Decidable (Watches unix s event)
  | .fork _ _ => inferInstanceAs (Decidable (s.place ≠ .handler unix.sigchld))
  | .exits _ _ => inferInstanceAs (Decidable (s.handled unix.sigchld = true))
  | .signal _ => inferInstanceAs (Decidable True)
  | .handleSignal _ => inferInstanceAs (Decidable True)
  | .readable => inferInstanceAs (Decidable True)
  | .goOn => inferInstanceAs (Decidable True)
  | .waitpid _ => inferInstanceAs (Decidable True)
  | .returns => inferInstanceAs (Decidable True)

theorem watches_spares (unix : Unix n) (s : State n) (event : Event n) (watches : Watches unix s event) :
    SpawnsOutside unix s event := by
  cases event with
  | fork pid data => exact watches
  | signal | exits | handleSignal | readable | goOn | waitpid | returns => exact trivial

def Place.coming : Place n → List ChildEntry
  | .registers .inserted _ _ => []
  | .registers _ child _ => [child]
  | _ => []

-- Every child that runs or waits to be reaped has its entry in the table, or is
-- on its way into it, and every entry that left the table has been called.
structure Family (unix : Unix n) (exits : List (Nat × Int)) (entries : List ChildEntry) (owed : Prop) (s : State n)
    (present : List ChildEntry) : Prop where
  holds : Hash.Holds s.table present
  hash : s.table.computeHash = childHash
  compare : s.table.compare = childCompare
  older : ∀ ce ∈ s.called.map Prod.fst ++ present ++ s.place.coming, ce.address < s.fresh
  distinct : ((s.called.map Prod.fst ++ present ++ s.place.coming).map ChildEntry.address).Nodup
  children : ((present ++ s.place.coming).map ChildEntry.pid).Perm (s.alive ++ s.zombies.map Prod.fst)
  apart : (s.alive ++ s.zombies.map Prod.fst).Nodup
  told : (s.called.map (fun call => (call.1.pid, call.2)) ++ s.zombies).Perm exits
  known : (s.called.map Prod.fst ++ present).Perm entries
  waiting : s.zombies ≠ [] → owed ∨ s.place = .handler unix.sigchld

theorem start_family (unix : Unix n) (next prev : ChildEntry → Option ChildEntry) (words : ChildEntry → UInt32) :
    Family unix [] [] (false = true) (start (n := n) next prev words) [] where
  holds := Hash.init_holds _ _ _ _ _
  hash := rfl
  compare := rfl
  older := fun _ no => absurd no List.not_mem_nil
  distinct := List.nodup_nil
  children := List.Perm.refl _
  apart := List.nodup_nil
  told := List.Perm.refl _
  known := List.Perm.refl _
  waiting := fun no => absurd rfl no

section Steps

variable {unix : Unix n} {exits : List (Nat × Int)} {entries present : List ChildEntry} {owed : Prop} {s : State n}

theorem Family.moved (family : Family unix exits entries owed s present) {owed' : Prop} (s' : State n)
    (table : s'.table = s.table)
    (fresh : s'.fresh = s.fresh) (alive : s'.alive = s.alive) (zombies : s'.zombies = s.zombies)
    (called : s'.called = s.called)
    (coming : s'.place.coming = s.place.coming)
    (waiting : s.zombies ≠ [] → (owed ∨ s.place = .handler unix.sigchld) → owed' ∨ s'.place = .handler unix.sigchld) :
    Family unix exits entries owed' s' present where
  holds := by rw [table]; exact family.holds
  hash := by rw [table]; exact family.hash
  compare := by rw [table]; exact family.compare
  older := by rw [called, coming, fresh]; exact family.older
  distinct := by rw [called, coming]; exact family.distinct
  children := by rw [coming, alive, zombies]; exact family.children
  apart := by rw [alive, zombies]; exact family.apart
  told := by rw [called, zombies]; exact family.told
  known := by rw [called]; exact family.known
  waiting := by
    rw [zombies]
    exact fun some => waiting some (family.waiting some)

-- What a signal or its unblocking leaves as it was.
structure SameFamily (s s' : State n) : Prop where
  place : s'.place = s.place
  table : s'.table = s.table
  fresh : s'.fresh = s.fresh
  alive : s'.alive = s.alive
  zombies : s'.zombies = s.zombies
  called : s'.called = s.called

theorem sigHandler_family (unix : Unix n) (s : State n) (sig : Fin n) : SameFamily s (sigHandler unix s sig) := by
  unfold sigHandler
  split <;> exact ⟨rfl, rfl, rfl, rfl, rfl, rfl⟩

theorem raised_family (unix : Unix n) (s : State n) (sig : Fin n) : SameFamily s (raised unix s sig) := by
  unfold raised
  split
  · exact ⟨rfl, rfl, rfl, rfl, rfl, rfl⟩
  · exact sigHandler_family unix s sig

theorem unblock_family (unix : Unix n) (s : State n) (sig : Fin n) : SameFamily s (unblock unix s sig) := by
  unfold unblock
  dsimp only
  split
  · obtain ⟨place, table, fresh, alive, zombies, called⟩ := sigHandler_family unix
      { s with blocked := write s.blocked sig false, pending := write s.pending sig false } sig
    exact ⟨place, table, fresh, alive, zombies, called⟩
  · exact ⟨rfl, rfl, rfl, rfl, rfl, rfl⟩

theorem exited_perm (alive : List Nat) (zombies : List (Nat × Int)) (pid : Nat) (status : Int) (member : pid ∈ alive) :
    (alive ++ zombies.map Prod.fst).Perm (alive.erase pid ++ (zombies ++ [(pid, status)]).map Prod.fst) := by
  rw [List.map_append, List.map_singleton, ← List.append_assoc]
  exact ((List.perm_cons_erase member).append_right _).trans (List.perm_append_singleton pid _).symm

theorem Family.exited (family : Family unix exits entries owed s present) (pid : Nat) (status : Int)
    (member : pid ∈ s.alive) :
    Family unix (exits ++ [(pid, status)]) entries True
      { s with alive := s.alive.erase pid, zombies := s.zombies ++ [(pid, status)] }
      present where
  holds := family.holds
  hash := family.hash
  compare := family.compare
  older := family.older
  distinct := family.distinct
  children := family.children.trans (exited_perm s.alive s.zombies pid status member)
  apart := (exited_perm s.alive s.zombies pid status member).nodup_iff.mp family.apart
  told := by
    rw [← List.append_assoc]
    exact family.told.append_right _
  known := family.known
  waiting := fun _ => .inl trivial

theorem forked_perm (alive zombies : List Nat) (pid : Nat) : (alive ++ [pid] ++ zombies).Perm
    (alive ++ zombies ++ [pid]) := by
  rw [List.append_assoc, List.append_assoc]
  exact List.perm_append_comm.append_left alive

theorem Family.forked (family : Family unix exits entries owed s present) (pid data : Nat) (caller : Option (Fin n))
    (free : s.place.coming = []) (fresh : pid ∉ s.alive ++ s.zombies.map Prod.fst) (waiting : s.zombies ≠ [] → owed) :
    Family unix exits entries owed
      { s with alive := s.alive ++ [pid], fresh := s.fresh + 1, place := .registers .forked ⟨s.fresh, pid, data⟩ caller } present := by
  have older := family.older
  have distinct := family.distinct
  have children := family.children
  rw [free, List.append_nil] at older distinct children
  have unused : s.fresh ∉ (s.called.map Prod.fst ++ present).map ChildEntry.address := by
    intro taken
    obtain ⟨ce, member, same⟩ := List.mem_map.mp taken
    exact absurd (older ce member) (Nat.not_lt.mpr (Nat.le_of_eq same.symm))
  exact
    { holds := family.holds
      hash := family.hash
      compare := family.compare
      older := by
        intro ce member
        rcases List.mem_append.mp member with early | new
        · exact Nat.lt_succ_of_lt (older ce early)
        · rw [List.mem_singleton.mp new]
          exact Nat.lt_succ_self _
      distinct := by
        change ((s.called.map Prod.fst ++ present ++ [(⟨s.fresh, pid, data⟩ : ChildEntry)]).map
          ChildEntry.address).Nodup
        rw [List.map_append, List.map_singleton]
        refine List.nodup_append.mpr ⟨distinct, List.nodup_singleton _, fun address early other new same => unused ?_⟩
        rw [same, List.mem_singleton.mp new] at early
        exact early
      children := by
        change ((present ++ [(⟨s.fresh, pid, data⟩ : ChildEntry)]).map ChildEntry.pid).Perm _
        rw [List.map_append, List.map_singleton]
        exact (children.append_right _).trans (forked_perm _ _ _).symm
      apart := by
        refine (forked_perm s.alive (s.zombies.map Prod.fst) pid).nodup_iff.mpr ?_
        refine List.nodup_append.mpr ⟨family.apart, List.nodup_singleton _, fun taken early other new same => fresh ?_⟩
        rw [same, List.mem_singleton.mp new] at early
        exact early
      told := family.told
      known := family.known
      waiting := fun some => .inl (waiting some) }

theorem Family.inserted (family : Family unix exits entries owed s present) (child : ChildEntry)
    (caller : Option (Fin n))
    (there : s.place = .registers .blocked child caller) :
    Family unix exits (entries ++ [child]) owed
      { s with table := Hash.hashInsert s.table child, place := .registers .inserted child caller }
        (child :: present) := by
  have older := family.older
  have distinct := family.distinct
  have children := family.children
  have waiting := family.waiting
  rw [there] at older distinct children waiting
  have order : (s.called.map Prod.fst ++ child :: present ++ []).Perm
    (s.called.map Prod.fst ++ present ++ [child]) := by
    rw [List.append_nil, List.append_assoc]
    exact (List.perm_append_singleton child present).symm.append_left _
  have outside : child ∉ present := by
    intro member
    change ((s.called.map Prod.fst ++ present ++ [child]).map ChildEntry.address).Nodup at distinct
    rw [List.map_append, List.nodup_append] at distinct
    exact distinct.2.2 child.address (List.mem_map_of_mem (List.mem_append_right _ member)) child.address
      (List.mem_map_of_mem (List.mem_singleton_self child)) rfl
  exact
    { holds := Hash.insert_holds s.table present child family.holds outside
      hash := family.hash
      compare := family.compare
      older := fun ce member => older ce (order.mem_iff.mp member)
      distinct := (order.map ChildEntry.address).nodup_iff.mpr distinct
      children := by
        change ((child :: present ++ []).map ChildEntry.pid).Perm _
        rw [List.append_nil]
        exact ((List.perm_append_singleton child present).symm.map ChildEntry.pid).trans children
      apart := family.apart
      told := family.told
      known := by
        rw [List.append_nil] at order
        exact order.trans (family.known.append_right _)
      waiting := fun some => (waiting some).imp_right fun no => Place.noConfusion rfl (heq_of_eq no) }

theorem child_agree : Hash.Agree childHash childCompare := by
  have zero (d1 d2 : ChildEntry) : childCompare d1 d2 = 0 ↔ d1.pid = d2.pid := by
    unfold childCompare
    split
    · next differ => exact iff_of_false (by decide) differ
    · next same => exact iff_of_true rfl (not_not.mp same)
  refine ⟨⟨fun d => (zero d d).mpr rfl, fun {d1 d2} same => ?_, fun {d1 d2 d3} first second => ?_⟩, fun d1 d2 same =>
    ?_⟩
  · exact (zero d2 d1).mpr ((zero d1 d2).mp same).symm
  · exact (zero d1 d3).mpr (((zero d1 d2).mp first).trans ((zero d2 d3).mp second))
  · exact congrArg UInt32.ofNat ((zero d1 d2).mp same)

theorem Family.found (family : Family unix exits entries owed s present) (free : s.place.coming = [])
    (zombie : Nat × Int)
    (member : zombie ∈ s.zombies) : ∃ ce ∈ present, ce.pid = zombie.1 ∧
      Hash.hashFind (s.table.numEntries + 1) s.table ⟨0, zombie.1, 0⟩ = some ce := by
  have children := family.children
  rw [free, List.append_nil] at children
  have agree : Hash.Agree s.table.computeHash s.table.compare := by
    rw [family.hash, family.compare]
    exact child_agree
  have newest := Hash.find_newest s.table present ⟨0, zombie.1, 0⟩ (s.table.numEntries + 1) family.holds agree
    (by rw [family.holds.counted]; exact Nat.le_succ _)
  have same (ce : ChildEntry) : Hash.same s.table ⟨0, zombie.1, 0⟩ ce = true ↔ ce.pid = zombie.1 := by
    unfold Hash.same
    rw [family.compare, beq_iff_eq]
    unfold childCompare
    dsimp only
    split
    · next differ => exact iff_of_false (by decide) fun no => differ no.symm
    · next equal => exact iff_of_true rfl (not_not.mp equal).symm
  obtain ⟨entry, inside, pid⟩ := List.mem_map.mp
    (children.mem_iff.mpr (List.mem_append_right s.alive (List.mem_map_of_mem (f := Prod.fst) member)))
  have some : (present.find? (Hash.same s.table ⟨0, zombie.1, 0⟩)).isSome = true :=
    List.find?_isSome.mpr ⟨entry, inside, (same entry).mpr pid⟩
  obtain ⟨ce, found⟩ := Option.isSome_iff_exists.mp some
  exact ⟨ce, List.mem_of_find?_eq_some found, (same ce).mp (List.find?_some found), newest.trans found⟩

theorem Family.reaped (family : Family unix exits entries owed s present) (there : s.place = .handler unix.sigchld)
    (zombie : Nat × Int)
    (member : zombie ∈ s.zombies) : ∃ present', Family unix exits entries owed (reaped s zombie) present' := by
  have free : s.place.coming = [] := by
    rw [there]
    rfl
  obtain ⟨ce, inside, pid, found⟩ := family.found free zombie member
  have children := family.children
  have older := family.older
  have distinct := family.distinct
  rw [free, List.append_nil] at children older distinct
  have rest := List.perm_cons_erase member
  have left := List.perm_cons_erase inside
  have order : (s.called.map Prod.fst ++ [ce] ++ present.erase ce).Perm (s.called.map Prod.fst ++ present) := by
    rw [List.append_assoc]
    exact left.symm.append_left _
  have sorted : (s.alive ++ s.zombies.map Prod.fst).Perm
    (zombie.1 :: (s.alive ++ (s.zombies.erase zombie).map Prod.fst)) :=
    ((rest.map Prod.fst).append_left _).trans List.perm_middle
  have moved : (s.called ++ [(ce, zombie.2)]).map Prod.fst = s.called.map Prod.fst ++ [ce] := List.map_append
  refine ⟨present.erase ce, ?_⟩
  unfold EventSig.reaped
  dsimp only
  rw [found]
  exact
    { holds := Hash.remove_holds s.table present ce family.holds inside
      hash := family.hash
      compare := family.compare
      older := by
        dsimp only
        rw [free, List.append_nil, moved]
        exact fun entry there => older entry (order.mem_iff.mp there)
      distinct := by
        dsimp only
        rw [free, List.append_nil, moved]
        exact (order.map ChildEntry.address).nodup_iff.mpr distinct
      children := by
        dsimp only
        rw [free, List.append_nil]
        have whole := ((left.map ChildEntry.pid).symm.trans children).trans sorted
        rw [List.map_cons, pid] at whole
        exact whole.cons_inv
      apart := (List.nodup_cons.mp (sorted.nodup_iff.mp family.apart)).2
      told := by
        dsimp only
        rw [List.map_append, List.map_singleton, pid, List.append_assoc]
        exact (rest.symm.append_left _).trans family.told
      known := by
        dsimp only
        rw [moved]
        exact order.trans family.known
      waiting := fun _ => .inr there }

theorem Family.walks (family : Family unix exits entries owed s present) (s' : State n) (table : s'.table = s.table)
    (fresh : s'.fresh = s.fresh) (alive : s'.alive = s.alive) (zombies : s'.zombies = s.zombies)
    (called : s'.called = s.called)
    (coming : s'.place.coming = s.place.coming) (outside : s.place ≠ .handler unix.sigchld)
    (calls : s.place = .seen unix.sigchld → s'.place = .handler unix.sigchld) :
    Family unix exits entries (owed ∧ s.place ≠ .seen unix.sigchld) s' present := by
  refine family.moved s' table fresh alive zombies called coming fun _ waits => ?_
  by_cases there : s.place = .seen unix.sigchld
  · exact .inr (calls there)
  · exact .inl ⟨waits.resolve_right outside, there⟩

theorem goOn_family (family : Family unix exits entries owed s present) (s' : State n) (took : goOn unix s = some s') :
    ∃ present', Family unix exits (entries ++ (registration s .goOn).toList)
      (owed ∧ s.place ≠ .seen unix.sigchld) s' present' := by
  have walks := family.walks s'
  unfold registration
  unfold goOn at took
  cases place : s.place with
  | loop =>
      rw [place] at took
      cases took
  | handler other =>
      rw [place] at took
      cases took
  | clearing =>
      rw [place] at took walks
      obtain rfl := Option.some.inj took
      refine ⟨present, ?_⟩
      rw [Option.toList_none, List.append_nil]
      refine walks rfl rfl rfl rfl rfl ?_ (fun no => Place.noConfusion rfl (heq_of_eq no)) fun no =>
        Place.noConfusion rfl (heq_of_eq no)
      dsimp only
      split <;> rfl
  | scan i =>
      rw [place] at took walks
      refine ⟨present, ?_⟩
      rw [Option.toList_none, List.append_nil]
      dsimp only at took
      split at took
      · split at took
        · obtain rfl := Option.some.inj took
          exact walks rfl rfl rfl rfl rfl rfl (fun no => Place.noConfusion rfl (heq_of_eq no)) fun no =>
            Place.noConfusion rfl (heq_of_eq no)
        · obtain rfl := Option.some.inj took
          exact walks rfl rfl rfl rfl rfl rfl (fun no => Place.noConfusion rfl (heq_of_eq no)) fun no =>
            Place.noConfusion rfl (heq_of_eq no)
      · obtain rfl := Option.some.inj took
        exact walks rfl rfl rfl rfl rfl rfl (fun no => Place.noConfusion rfl (heq_of_eq no)) fun no =>
          Place.noConfusion rfl (heq_of_eq no)
  | seen other =>
      rw [place] at took walks
      obtain rfl := Option.some.inj took
      refine ⟨present, ?_⟩
      rw [Option.toList_none, List.append_nil]
      refine walks rfl rfl rfl rfl rfl rfl (fun no => Place.noConfusion rfl (heq_of_eq no)) fun same => ?_
      exact congrArg Place.handler (Place.seen.inj same)
  | returned other =>
      rw [place] at took walks
      obtain rfl := Option.some.inj took
      refine ⟨present, ?_⟩
      rw [Option.toList_none, List.append_nil]
      exact walks rfl rfl rfl rfl rfl rfl (fun no => Place.noConfusion rfl (heq_of_eq no)) fun no =>
        Place.noConfusion rfl (heq_of_eq no)
  | cleared other =>
      rw [place] at took walks
      obtain rfl := Option.some.inj took
      obtain ⟨_, table, fresh, alive, zombies, called⟩ := unblock_family unix s other
      refine ⟨present, ?_⟩
      rw [Option.toList_none, List.append_nil]
      exact walks table fresh alive zombies called rfl (fun no => Place.noConfusion rfl (heq_of_eq no)) fun no =>
        Place.noConfusion rfl (heq_of_eq no)
  | registers stage child caller =>
      rw [place] at took walks
      cases stage with
      | forked =>
          obtain rfl := Option.some.inj took
          refine ⟨present, ?_⟩
          rw [Option.toList_none, List.append_nil]
          exact walks rfl rfl rfl rfl rfl rfl (fun no => Place.noConfusion rfl (heq_of_eq no)) fun no =>
            Place.noConfusion rfl (heq_of_eq no)
      | handled =>
          obtain rfl := Option.some.inj took
          refine ⟨present, ?_⟩
          rw [Option.toList_none, List.append_nil]
          exact walks rfl rfl rfl rfl rfl rfl (fun no => Place.noConfusion rfl (heq_of_eq no)) fun no =>
            Place.noConfusion rfl (heq_of_eq no)
      | blocked =>
          obtain rfl := Option.some.inj took
          refine ⟨child :: present, ?_⟩
          have put := family.inserted child caller place
          exact put.moved _ rfl rfl rfl rfl rfl rfl fun _ waits => waits.imp_left fun owing =>
            ⟨owing, fun no => Place.noConfusion rfl (heq_of_eq no)⟩
      | inserted =>
          obtain rfl := Option.some.inj took
          obtain ⟨_, table, fresh, alive, zombies, called⟩ := unblock_family unix s unix.sigchld
          refine ⟨present, ?_⟩
          rw [Option.toList_none, List.append_nil]
          refine walks table fresh alive zombies called ?_ (fun no => Place.noConfusion rfl (heq_of_eq no)) fun no =>
            Place.noConfusion rfl (heq_of_eq no)
          cases caller <;> rfl

theorem Family.same {owed' : Prop} (family : Family unix exits entries owed s present) (same : owed ↔ owed') :
    Family unix exits entries owed' s present := propext same ▸ family

-- An event that no child exits by and no entry goes into the table by.
theorem Family.unchanged {exits : List (Nat × Int)} {entries present : List ChildEntry} {owed : Prop} {s' : State n}
    (family : Family unix exits entries owed s' present) :
    ∃ present', Family unix (exits ++ (none : Option (Nat × Int)).toList) (entries ++ (none : Option ChildEntry).toList)
      owed s' present' := by
  refine ⟨present, ?_⟩
  rw [Option.toList_none, Option.toList_none, List.append_nil, List.append_nil]
  exact family

theorem signal_family {due : Bool} (family : Family unix exits entries (due = true) s present) (other : Fin n) :
    Family unix exits entries (owes unix unix.sigchld due s (.signal other) = true) (raised unix s other) present := by
  obtain ⟨place, table, fresh, alive, zombies, called⟩ := raised_family unix s other
  refine family.moved _ table fresh alive zombies called (by rw [place]) fun _ waits => ?_
  rw [place]
  exact waits.imp_left fun owing => by rw [owes, owing, Bool.true_or]

theorem exits_family {due : Bool} (family : Family unix exits entries (due = true) s present) (pid : Nat) (status : Int)
    (handled : s.handled unix.sigchld = true) (s' : State n) (took : next unix s (.exits pid status) = some s') :
    Family unix (exits ++ [(pid, status)]) entries (owes unix unix.sigchld due s (.exits pid status) = true) s'
      present := by
  rw [next] at took
  by_cases member : pid ∈ s.alive
  · rw [if_pos member] at took
    obtain rfl := Option.some.inj took
    obtain ⟨place, table, fresh, alive, zombies, called⟩ :=
      raised_family unix { s with alive := s.alive.erase pid, zombies := s.zombies ++ [(pid, status)] } unix.sigchld
    refine (family.exited pid status member).moved _ table fresh alive zombies called (by rw [place]) fun _ _ => .inl ?_
    rw [owes, handled, decide_eq_true rfl, Bool.and_self, Bool.or_true]
  · rw [if_neg member] at took
    cases took

theorem fork_family (family : Family unix exits entries owed s present) (pid data : Nat)
    (spared : s.place ≠ .handler unix.sigchld) (s' : State n) (took : next unix s (.fork pid data) = some s') :
    Family unix exits entries owed s' present := by
  rw [next] at took
  dsimp only at took
  split at took
  · cases took
  · next fresh =>
      have unused : pid ∉ s.alive ++ s.zombies.map Prod.fst := fun taken => fresh (List.mem_append.mp taken)
      have owing (some : s.zombies ≠ []) : owed := (family.waiting some).resolve_right spared
      cases place : s.place with
      | loop =>
          rw [place] at took
          obtain rfl := Option.some.inj took
          exact family.forked pid data none (by rw [place]; rfl) unused owing
      | handler other =>
          rw [place] at took
          obtain rfl := Option.some.inj took
          exact family.forked pid data (some other) (by rw [place]; rfl) unused owing
      | clearing | scan | seen | returned | cleared | registers =>
          rw [place] at took
          cases took

theorem readable_family (family : Family unix exits entries owed s present) (s' : State n)
    (took : next unix s .readable = some s') : Family unix exits entries owed s' present := by
  rw [next] at took
  split at took
  · next there =>
      obtain rfl := Option.some.inj took
      refine family.moved _ rfl rfl rfl rfl rfl (by rw [there.1]; rfl) fun _ waits => .inl (waits.resolve_right ?_)
      rw [there.1]
      exact fun no => Place.noConfusion rfl (heq_of_eq no)
  · cases took

-- SIGCHLD's handler returns only when no child waits to be reaped.
theorem returns_family (family : Family unix exits entries owed s present) (s' : State n)
    (took : next unix s .returns = some s') : Family unix exits entries owed s' present := by
  rw [next] at took
  cases place : s.place with
  | handler other =>
      rw [place] at took
      dsimp only at took
      split at took
      · cases took
      · next outside =>
          obtain rfl := Option.some.inj took
          refine family.moved _ rfl rfl rfl rfl rfl (by rw [place]; rfl) fun some waits => .inl ?_
          refine waits.resolve_right fun there => ?_
          rw [place] at there
          exact outside ⟨Place.handler.inj there, some⟩
  | loop | clearing | scan | seen | returned | cleared | registers =>
      rw [place] at took
      cases took

theorem next_family {due : Bool} (family : Family unix exits entries (due = true) s present) (event : Event n)
    (watches : Watches unix s event) (s' : State n) (took : next unix s event = some s') :
    ∃ present', Family unix (exits ++ (departure s event).toList) (entries ++ (registration s event).toList)
      (owes unix unix.sigchld due s event = true) s' present' := by
  cases event with
  | signal other =>
      obtain rfl := Option.some.inj took
      exact (signal_family family other).unchanged
  | exits pid status =>
      refine ⟨present, ?_⟩
      change Family unix _ (entries ++ (none : Option ChildEntry).toList) _ _ _
      rw [Option.toList_none, List.append_nil]
      exact exits_family family pid status watches s' took
  | handleSignal other =>
      rw [next] at took
      split at took
      · obtain rfl := Option.some.inj took
        exact (family.moved { s with handled := write s.handled other true } rfl rfl rfl rfl rfl rfl
          fun _ waits => waits).unchanged
      · cases took
  | fork pid data => exact (fork_family family pid data watches s' took).unchanged
  | readable => exact (readable_family family s' took).unchanged
  | goOn =>
      obtain ⟨present', family'⟩ := goOn_family family s' took
      refine ⟨present', ?_⟩
      change Family unix (exits ++ (none : Option (Nat × Int)).toList) _ _ _ _
      rw [Option.toList_none, List.append_nil]
      refine family'.same ?_
      simp [owes]
  | waitpid pid =>
      rw [next] at took
      split at took
      · next there =>
          obtain ⟨zombie, found, rfl⟩ := Option.map_eq_some_iff.mp took
          obtain ⟨present', family'⟩ := family.reaped there zombie (List.mem_of_find?_eq_some found)
          exact family'.unchanged
      · cases took
  | returns => exact (returns_family family s' took).unchanged

end Steps

variable (unix : Unix n) {next' prev : ChildEntry → Option ChildEntry} {words : ChildEntry → UInt32}

theorem run_family {visits : List (State n × Event n)} {s : State n}
    (run : Run (next unix) (start next' prev words) visits s)
    (watched : Run.Meets (Watches unix) visits) :
    ∃ present, Family unix (exitsOf visits) (registered visits) (owed unix unix.sigchld visits = true) s present := by
  induction run with
  | start => exact ⟨[], start_family unix next' prev words⟩
  | snoc visits state following event before took ih =>
      obtain ⟨earlier, last⟩ := (Run.meets_snoc _ visits state event).mp watched
      obtain ⟨present, family⟩ := ih earlier
      unfold exitsOf registered owed
      rw [Run.observe_snoc, Run.observe_snoc, Run.notes_snoc]
      exact next_family family event last following took

-- Whenever the event loop finds nothing to read, every child that has exited has
-- been reaped and its handler called once, with its status, and the table holds
-- the entries of the children that still run.
theorem children_told {visits : List (State n × Event n)} {s : State n}
    (run : Run (next unix) (start next' prev words) visits s)
    (watched : Run.Meets (Watches unix) visits) (idle : s.place = .loop) (dry : s.pipe = 0) :
    s.zombies = [] ∧ (s.called.map fun call => (call.1.pid, call.2)).Perm (exitsOf visits) ∧
      ∃ present, Hash.Holds s.table present ∧ (present.map ChildEntry.pid).Perm s.alive ∧
        (s.called.map Prod.fst ++ present).Perm (registered visits) ∧ (registered visits).Nodup := by
  obtain ⟨present, family⟩ := run_family unix run watched
  have spared : Run.Meets (SpawnsOutside unix) visits := Run.meets_weaken _ _ visits watched (watches_spares unix)
  have none : s.zombies = [] := by
    by_contra some
    rcases family.waiting some with owing | there
    · rw [(signals_served unix run spared unix.sigchld).1 idle dry] at owing
      cases owing
    · exact Place.noConfusion rfl (heq_of_eq (idle.symm.trans there))
  have children := family.children
  have told := family.told
  have distinct := family.distinct
  rw [idle] at children distinct
  rw [none] at children told
  change ((present ++ []).map ChildEntry.pid).Perm (s.alive ++ []) at children
  change ((s.called.map Prod.fst ++ present ++ []).map ChildEntry.address).Nodup at distinct
  rw [List.append_nil, List.append_nil] at children
  rw [List.append_nil] at told distinct
  exact ⟨none, told, present, family.holds, children, family.known,
    family.known.nodup_iff.mp (List.Nodup.of_map _ distinct)⟩

-- Two children exit at the worst moments: one before its entry is in the table,
-- the other while the first is being told of.
def twoChildren : List (Event 2) :=
  [.fork 7 1, .goOn, .exits 7 0, .goOn, .goOn, .goOn, .fork 8 2, .goOn, .goOn, .goOn, .goOn, .readable, .goOn, .goOn,
    .goOn, .exits 8 1,
    .waitpid 8, .waitpid 7, .returns, .goOn, .goOn, .goOn, .goOn, .readable, .goOn, .goOn, .goOn, .returns, .goOn,
      .goOn, .goOn, .goOn]

theorem children_told_two : ∃ s, Run.play (next twoSignals) plainStart twoChildren = some s ∧
    (s.called.map fun call => (call.1.pid, call.2)).Perm [(7, 0), (8, 1)] := by
  have seen : (Run.play (next twoSignals) plainStart twoChildren).any
    (fun s => decide (s.place = .loop ∧ s.pipe = 0)) = true := by
    decide +kernel
  obtain ⟨s, played, rests⟩ := (Option.any_eq_true _ _).mp seen
  have rests := of_decide_eq_true rests
  have exits : exitsOf (Run.trace (next twoSignals) plainStart twoChildren) = [(7, 0), (8, 1)] := by decide +kernel
  refine ⟨s, played, ?_⟩
  rw [← exits]
  exact (children_told twoSignals (Run.of_play twoChildren s played) (by decide +kernel) rests.1 rests.2).2.1

-- With a handler that waits for a child of its own, an exit between its last
-- waitpid and the end of DoPipe is not noticed.
example : (Run.play (next twoSignals) plainStart
    [.fork 7 1, .goOn, .goOn, .goOn, .goOn, .exits 7 0, .readable, .goOn, .goOn, .goOn,
    .waitpid 7, .fork 8 2, .goOn, .goOn, .goOn, .goOn, .returns, .exits 8 1, .goOn, .goOn, .goOn, .goOn, .readable,
      .goOn, .goOn, .goOn,
    .goOn]).any (fun s => decide (s.place = .loop ∧ s.pipe = 0 ∧ s.zombies = [(8, 1)])) = true := by
  decide +kernel

end ZyAgf.Pppoe.EventSig
