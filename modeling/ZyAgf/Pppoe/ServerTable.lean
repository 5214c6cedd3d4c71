import Mathlib.Data.List.GetD
import ZyAgf.Pppoe.ServerPadt

set_option autoImplicit false

namespace ZyAgf.Pppoe.Server

def swapped (permutation : List Nat) (i j : Nat) : List Nat :=
  (permutation.set j (permutation.getD i 0)).set i (permutation.getD j 0)

def shuffled (rand : Nat → Nat) (slots : Nat) : List Nat :=
  (List.range (slots - 1)).foldl (fun permutation i =>
    let j := i + rand i % (slots - i)
    if j ≠ i then swapped permutation i j else permutation) (List.range slots)

def slotOrder (cfg : Config) (randomize : Bool) (rand : Nat → Nat) : List Nat :=
  if randomize then shuffled rand cfg.numSessionSlots else List.range cfg.numSessionSlots

-- Every slot is linked to the one after it, and the last one to nothing.
def linkSessions : List Nat → (Nat → ClientSession) → Nat → ClientSession
  | p :: q :: rest, sessions => linkSessions (q :: rest) (write sessions p { sessions p with next := some q })
  | [p], sessions => write sessions p { sessions p with next := none }
  | [], sessions => sessions

-- The table is cleared memory with the session numbers filled in.
def mainServer (cfg : Config) (randomize : Bool) (rand : Nat → Nat) : ServerState :=
  let order := slotOrder cfg randomize rand
  { initServer cfg [] with
    sessions := linkSessions order (initialSessions cfg [])
    freeSessions := some (order.headD 0)
    lastFreeSession := some (order.getLastD 0) }

theorem swapped_perm (permutation : List Nat) (i j : Nat) (first : i < permutation.length)
    (second : j < permutation.length) :
    (swapped permutation i j).Perm permutation := by
  unfold swapped
  rw [List.getD_eq_getElem _ _ first, List.getD_eq_getElem _ _ second]
  exact List.set_set_perm second first

theorem shuffled_perm (rand : Nat → Nat) (slots : Nat) : (shuffled rand slots).Perm (List.range slots) := by
  unfold shuffled
  have bounded : ∀ i ∈ List.range (slots - 1), i + 1 < slots := by
    intro i member
    have below := List.mem_range.mp member
    omega
  have kept : ∀ (indices permutation : List Nat), (∀ i ∈ indices, i + 1 < slots) → permutation.Perm (List.range slots) →
      (indices.foldl (fun permutation i =>
        if i + rand i % (slots - i) ≠ i then swapped permutation i (i + rand i % (slots - i)) else permutation)
        permutation).Perm (List.range slots) := by
    intro indices
    induction indices with
    | nil => exact fun _ _ linked => linked
    | cons i rest ih =>
        intro permutation inside linked
        refine ih _ (fun k member => inside k (List.mem_cons_of_mem i member)) ?_
        dsimp only
        split
        · have first := inside i List.mem_cons_self
          have drawn : rand i % (slots - i) < slots - i := Nat.mod_lt _ (by omega)
          have length := linked.length_eq
          rw [List.length_range] at length
          exact (swapped_perm permutation i _ (by omega) (by omega)).trans linked
        · exact linked
  exact kept _ _ bounded (List.Perm.refl _)

theorem slotOrder_perm (cfg : Config) (randomize : Bool) (rand : Nat → Nat) :
    (slotOrder cfg randomize rand).Perm (List.range cfg.numSessionSlots) := by
  unfold slotOrder
  split
  · exact shuffled_perm rand _
  · exact List.Perm.refl _

theorem linkSessions_at (order : List Nat) (sessions : Nat → ClientSession) (distinct : order.Nodup) (p : Nat) :
    linkSessions order sessions p =
      if p ∈ order then { sessions p with next := (order.drop (order.idxOf p + 1)).head? } else sessions p := by
  induction order generalizing sessions with
  | nil => rfl
  | cons first rest ih =>
      obtain ⟨apart, later⟩ := List.nodup_cons.mp distinct
      cases rest with
      | nil =>
          show write sessions first _ p = _
          by_cases here : p = first
          · subst here
            rw [write_here, if_pos List.mem_cons_self, List.idxOf_cons_self]
            rfl
          · rw [write_elsewhere _ _ _ _ here, if_neg fun member => here (List.mem_singleton.mp member)]
      | cons second tail =>
          show linkSessions (second :: tail) _ p = _
          rw [ih _ later]
          by_cases here : p = first
          · subst here
            rw [if_neg apart, if_pos List.mem_cons_self, write_here, List.idxOf_cons_self]
            rfl
          · rw [write_elsewhere _ _ _ _ here, List.idxOf_cons_ne _ (Ne.symm here)]
            by_cases inside : p ∈ second :: tail
            · rw [if_pos inside, if_pos (List.mem_cons_of_mem first inside)]
              rfl
            · rw [if_neg inside, if_neg fun member => (List.mem_cons.mp member).elim here inside]

theorem mainServer_eq (cfg : Config) (positive : 1 ≤ cfg.numSessionSlots) (randomize : Bool) (rand : Nat → Nat) :
    mainServer cfg randomize rand = initServer cfg (slotOrder cfg randomize rand) := by
  have linked := slotOrder_perm cfg randomize rand
  have distinct : (slotOrder cfg randomize rand).Nodup := linked.nodup_iff.mpr List.nodup_range
  have sessions : linkSessions (slotOrder cfg randomize rand) (initialSessions cfg []) =
      initialSessions cfg (slotOrder cfg randomize rand) := by
    funext p
    rw [linkSessions_at _ _ distinct]
    split
    next => rfl
    next outside =>
      have past : (slotOrder cfg randomize rand).idxOf p = (slotOrder cfg randomize rand).length :=
        List.idxOf_eq_length_iff.mpr outside
      unfold initialSessions
      rw [past, List.drop_eq_nil_of_le (Nat.le_succ _)]
      rfl
  unfold mainServer initServer
  simp only [sessions]
  cases order : slotOrder cfg randomize rand with
  | nil =>
      have none := linked.length_eq
      rw [order, List.length_range] at none
      exact absurd none.symm (Nat.ne_of_gt positive)
  | cons first rest =>
      simp [List.getLast?_eq_some_getLast, List.getLastD_eq_getLast?]

-- The two operations on the table by themselves. What pppoe_free_session returns
-- says whether its walk met the session.
inductive SlotOp where
  | alloc
  | free (ses : Nat)

def freeCode (cfg : Config) (s : ServerState) (ses : Nat) : Int :=
  match before (fun p => (s.sessions p).next) cfg.numSessionSlots s.busySessions none ses with
  | none => -1
  | some _ => 0

def slotStep (cfg : Config) (s : ServerState) : SlotOp → Option ServerState
  | .alloc => some ((pppoeAllocSession s).elim s (·.2))
  | .free ses => some (pppoeFreeSession cfg s ses)

def handsOut (s : ServerState) : SlotOp → Option Nat
  | .alloc => (pppoeAllocSession s).map (·.1)
  | .free _ => none

def freeList (cfg : Config) (s : ServerState) : List Nat :=
  collect (fun p => (s.sessions p).next) cfg.numSessionSlots s.freeSessions

theorem freeList_eq (cfg : Config) (s : ServerState) (busy free : List Nat) (slots : Slots cfg s busy free) :
    freeList cfg s = free := by
  have total := slots.slots.length_eq
  rw [List.length_append, List.length_range] at total
  exact collect_chain (slotNext s) cfg.numSessionSlots s.freeSessions free slots.freeList (by omega)

theorem freeSession_absent (cfg : Config) (s : ServerState) (busy free : List Nat) (slots : Slots cfg s busy free)
    (ses : Nat)
    (idle : ses ∉ busy) : freeCode cfg s ses = -1 ∧ pppoeFreeSession cfg s ses = s := by
  have absent := before_absent (slotNext s) cfg.numSessionSlots s.busySessions none busy ses idle slots.busyList
  unfold freeCode pppoeFreeSession
  rw [show (fun p => (s.sessions p).next) = slotNext s from rfl, absent]
  exact ⟨rfl, rfl⟩

theorem allocSession_none (cfg : Config) (s : ServerState) (busy free : List Nat) (slots : Slots cfg s busy free) :
    pppoeAllocSession s = none ↔ free = [] := by
  unfold pppoeAllocSession
  rw [Option.map_eq_none_iff, chain_head _ _ _ slots.freeList]
  cases free <;> simp

def QueueMoves (s : ServerState) (busy free free' : List Nat) : SlotOp → Prop
  | .alloc => free = (handsOut s .alloc).toList ++ free'
  | .free ses => free' = if ses ∈ busy then free ++ [ses] else free

theorem slotStep_slots (cfg : Config) (s s' : ServerState) (busy free : List Nat) (slots : Slots cfg s busy free)
    (op : SlotOp)
    (moved : slotStep cfg s op = some s') :
    ∃ busy' free', Slots cfg s' busy' free' ∧ QueueMoves s busy free free' op := by
  cases op with
  | alloc =>
      obtain rfl := Option.some.inj moved
      cases alloc : pppoeAllocSession s with
      | none =>
          rw [Option.elim_none]
          refine ⟨busy, free, slots, ?_⟩
          simp [QueueMoves, handsOut, alloc]
      | some taken =>
          obtain ⟨ses, after⟩ := taken
          obtain ⟨free', split, slots', _, _⟩ := allocSession_slots cfg s busy free slots ses after alloc
          exact ⟨ses :: busy, free', slots', by simp [QueueMoves, handsOut, alloc, split]⟩
  | free ses =>
      obtain rfl := Option.some.inj moved
      by_cases member : ses ∈ busy
      · exact ⟨_, _, (freeSession_slots cfg s busy free slots ses member).1, (if_pos member).symm⟩
      · rw [(freeSession_absent cfg s busy free slots ses member).2]
        exact ⟨busy, free, slots, (if_neg member).symm⟩

-- The queue and the busy list as a whole.
structure SlotLists (cfg : Config) (s : ServerState) (busy free : List Nat) : Prop where
  busyList : Chain (slotNext s) s.busySessions busy
  freeList : Chain (slotNext s) s.freeSessions free
  partition : (busy ++ free).Perm (List.range cfg.numSessionSlots)
  tail : s.lastFreeSession = free.getLast?
  empty : s.lastFreeSession = none ↔ s.freeSessions = none
  count : s.numActiveSessions = busy.length
  refused : ∀ ses, ses ∉ busy → freeCode cfg s ses = -1 ∧ pppoeFreeSession cfg s ses = s

theorem slotLists_of_slots (cfg : Config) (s : ServerState) (busy free : List Nat) (slots : Slots cfg s busy free) :
    SlotLists cfg s busy free where
  busyList := slots.busyList
  freeList := slots.freeList
  partition := slots.slots
  tail := slots.lastFree
  empty := by
    rw [slots.lastFree, chain_head _ _ _ slots.freeList]
    cases free <;> simp
  count := slots.count
  refused := freeSession_absent cfg s busy free slots

-- A session that is freed waits behind every slot that is free by then.
def FreedInTurn (cfg : Config) (visits : List (ServerState × SlotOp)) : Prop :=
  ∀ earlier between later freed taken ses,
    visits = earlier ++ (freed, .free ses) :: (between ++ (taken, .alloc) :: later) → ses ∈ busyList cfg freed →
    handsOut taken .alloc = some ses → ∀ p ∈ freeList cfg freed, p ∈ Run.observe handsOut between

-- Until the slots that were free are all handed out, the rest of them are ahead of
-- the session.
def Waits (cfg : Config) (queue : List Nat) (ses : Nat) (given : List Nat) (s : ServerState) : Prop :=
  (∀ p ∈ queue, p ∈ given) ∨ ∃ gone ahead behind busy, queue = gone ++ ahead ∧ (∀ p ∈ gone, p ∈ given) ∧
    Slots cfg s busy (ahead ++ ses :: behind)

theorem slotStep_waits (cfg : Config) (queue given : List Nat) (ses : Nat) (s s' : ServerState) (op : SlotOp)
    (moved : slotStep cfg s op = some s') (waits : Waits cfg queue ses given s) :
    Waits cfg queue ses (given ++ (handsOut s op).toList) s' := by
  rcases waits with all | ⟨gone, ahead, behind, busy, rfl, handed, slots⟩
  · exact .inl fun p member => List.mem_append_left _ (all p member)
  · obtain ⟨busy', free', slots', change⟩ := slotStep_slots cfg s s' busy _ slots op moved
    have kept : ∀ p ∈ gone, p ∈ given ++ (handsOut s op).toList := fun p member =>
      List.mem_append_left _ (handed p member)
    cases op with
    | alloc =>
        cases out : handsOut s .alloc with
        | none =>
            unfold QueueMoves at change
            rw [out] at change
            obtain rfl : ahead ++ ses :: behind = free' := change
            exact .inr ⟨gone, ahead, behind, busy', rfl, by rw [← out]; exact kept, slots'⟩
        | some p =>
            unfold QueueMoves at change
            rw [out] at change
            cases ahead with
            | nil =>
                rw [List.append_nil]
                exact .inl fun q member => List.mem_append_left _ (handed q member)
            | cons first ahead =>
                obtain ⟨rfl, rfl⟩ := List.cons.inj (show first :: (ahead ++ ses :: behind) = p :: free' from change)
                refine .inr ⟨gone ++ [first], ahead, behind, busy', by simp, fun q member => ?_, slots'⟩
                rcases List.mem_append.mp member with old | new
                · exact List.mem_append_left _ (handed q old)
                · exact List.mem_append_right _ new
    | free other =>
        change free' = if other ∈ busy then (ahead ++ ses :: behind) ++ [other] else ahead ++ ses :: behind at change
        split at change
        · exact .inr ⟨gone, ahead, behind ++ [other], busy', rfl, kept, by rw [change] at slots'; simpa using slots'⟩
        · exact .inr ⟨gone, ahead, behind, busy', rfl, kept, by rw [change] at slots'; exact slots'⟩

theorem run_slotLists (cfg : Config) (start s : ServerState) (visits : List (ServerState × SlotOp))
    (slots : ∃ busy free, Slots cfg start busy free) (run : Run (slotStep cfg) start visits s) :
    ∃ busy free, Slots cfg s busy free := by
  refine Run.invariant (fun _ _ => True) (fun s => ∃ busy free, Slots cfg s busy free) slots ?_ run
    (Run.meets_always visits)
  rintro d op d' ⟨busy, free, held⟩ _ moved
  obtain ⟨busy', free', held', _⟩ := slotStep_slots cfg d d' busy free held op moved
  exact ⟨busy', free', held'⟩

theorem run_waits (cfg : Config) (queue : List Nat) (ses : Nat) (start s : ServerState)
    (visits : List (ServerState × SlotOp))
    (waits : Waits cfg queue ses [] start) (run : Run (slotStep cfg) start visits s) :
    Waits cfg queue ses (Run.observe handsOut visits) s := by
  induction run with
  | start => exact waits
  | snoc visits d d' op _ moved ih =>
      rw [Run.observe_snoc]
      exact slotStep_waits cfg queue _ ses d d' op moved ih

theorem run_freedInTurn (cfg : Config) (start s : ServerState) (visits : List (ServerState × SlotOp))
    (slots : ∃ busy free, Slots cfg start busy free)
    (run : Run (slotStep cfg) start visits s) : FreedInTurn cfg visits := by
  rintro earlier between later freed taken ses rfl member given
  obtain ⟨after, before, moved, onward⟩ := Run.through run
  obtain ⟨_, middle, _, _⟩ := Run.through onward
  obtain ⟨busy, free, there⟩ := run_slotLists cfg start freed earlier slots before
  rw [busyList_eq cfg freed busy free there] at member
  rw [freeList_eq cfg freed busy free there]
  obtain rfl := Option.some.inj moved
  have queued : Waits cfg free ses [] (pppoeFreeSession cfg freed ses) :=
    .inr ⟨[], free, [], _, rfl, fun p inside => (List.not_mem_nil inside).elim,
      (freeSession_slots cfg freed busy free there ses member).1⟩
  rcases run_waits cfg free ses _ taken between queued
    middle with all | ⟨gone, ahead, behind, busy', split, handed, last⟩
  · exact all
  · -- Handed out at last, the session is the head of the queue.
    cases ahead with
    | nil =>
        rw [split, List.append_nil]
        exact handed
    | cons first ahead =>
        obtain ⟨⟨out, _⟩, alloc, rfl⟩ := Option.map_eq_some_iff.mp given
        obtain ⟨_, same, _⟩ := allocSession_slots cfg taken busy' _ last out _ alloc
        obtain ⟨rfl, _⟩ := List.cons.inj same
        have distinct := (List.nodup_append.mp (slots_distinct cfg taken busy' _ last)).2.1
        exact absurd (by simp) (List.nodup_cons.mp distinct).1

-- From main's set-up on, the two lists share out the slots, and slots are used in
-- turn.
theorem server_slot_lists (cfg : Config) (positive : 1 ≤ cfg.numSessionSlots) (randomize : Bool) (rand : Nat → Nat)
    {visits : List (ServerState × SlotOp)} {s : ServerState}
    (run : Run (slotStep cfg) (mainServer cfg randomize rand) visits s) :
    (∃ busy free, SlotLists cfg s busy free) ∧ FreedInTurn cfg visits := by
  have start : ∃ busy free, Slots cfg (mainServer cfg randomize rand) busy free := by
    rw [mainServer_eq cfg positive]
    exact ⟨[], _, order_slots cfg _ (slotOrder_perm cfg randomize rand)⟩
  obtain ⟨busy, free, slots⟩ := run_slotLists cfg _ s visits start run
  exact ⟨⟨busy, free, slotLists_of_slots cfg s busy free slots⟩, run_freedInTurn cfg _ s visits start run⟩

-- Two slots in swapped order: the first one out comes back behind the other.
def swapOps : List SlotOp := [.alloc, .free 1, .alloc, .alloc]

theorem server_slot_lists_swapped : ∃ s, Run.play (slotStep twoSlots)
    (mainServer twoSlots true fun _ => 1) swapOps = some s ∧
    Run.observe handsOut (Run.trace (slotStep twoSlots) (mainServer twoSlots true fun _ => 1) swapOps) = [1, 0, 1] ∧
    (∃ busy free, SlotLists twoSlots s busy free) ∧
    FreedInTurn twoSlots (Run.trace (slotStep twoSlots) (mainServer twoSlots true fun _ => 1) swapOps) := by
  obtain ⟨s, played⟩ : ∃ s, Run.play (slotStep twoSlots) (mainServer twoSlots true fun _ => 1) swapOps = some s :=
    ⟨_, rfl⟩
  exact ⟨s, played, by decide, server_slot_lists twoSlots (by decide) true (fun _ => 1) (Run.of_play swapOps s played)⟩

end ZyAgf.Pppoe.Server
