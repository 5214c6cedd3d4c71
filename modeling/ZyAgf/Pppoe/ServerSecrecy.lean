import ZyAgf.Pppoe.ServerStatics

set_option autoImplicit false

namespace ZyAgf.Pppoe.Server

-- All that an answer may depend on: the two lists with the owners of the busy
-- sessions, and the drain mode.
structure SameLists (cfg : Config) (s s' : ServerState) : Prop where
  busy : busyList cfg s = busyList cfg s'
  free : freeList cfg s = freeList cfg s'
  owners : ∀ p ∈ busyList cfg s, (s.sessions p).eth = (s'.sessions p).eth
  draining : s.draining = s'.draining

theorem sameLists_ledger (cfg : Config) (s s' : ServerState) (same : SameLists cfg s s') (ledger ledger' : Ledger)
    (holds : Holds cfg s ledger) (holds' : Holds cfg s' ledger') : Holds cfg s' ledger := by
  have busy : ledger'.busy.map Prod.fst = ledger.busy.map Prod.fst := by
    rw [← busyList_eq cfg s _ _ holds.slots, ← busyList_eq cfg s' _ _ holds'.slots, same.busy]
  have free : ledger'.free = ledger.free := by
    rw [← freeList_eq cfg s _ _ holds.slots, ← freeList_eq cfg s' _ _ holds'.slots, same.free]
  refine ⟨by rw [← busy, ← free]; exact holds'.slots, fun entry member => ?_⟩
  have listed : entry.1 ∈ busyList cfg s := by
    rw [busyList_eq cfg s _ _ holds.slots]
    exact List.mem_map_of_mem member
  rw [← same.owners entry.1 listed]
  exact holds.owners entry member

section Answers

variable {cfg : Config} {s s' : ServerState} {ledger : Ledger} (holds : Holds cfg s ledger)
    (holds' : Holds cfg s' ledger)

include holds holds'

theorem sameCount (mac : Mac) : countSessionsFromMac cfg s mac = countSessionsFromMac cfg s' mac := by
  rw [count_owners cfg s ledger holds, count_owners cfg s' ledger holds']

theorem sameFree : s.freeSessions = s'.freeSessions := by
  rw [chain_head _ _ _ holds.slots.freeList, chain_head _ _ _ holds'.slots.freeList]

theorem sameAdmitted (ethif : Interface) (packet : PPPoEPacket) : padrAdmitted cfg s ethif packet = padrAdmitted cfg s'
    ethif packet := by
  unfold padrAdmitted
  rw [sameCount holds holds']

end Answers

theorem parsePADITags_cookie (statics : Statics) (tags : List PPPoETag) (cookie : Option PPPoETag) :
    tags.foldl parsePADITags { statics with receivedCookie := cookie } =
      { tags.foldl parsePADITags statics with receivedCookie := cookie } := by
  induction tags generalizing statics with
  | nil => rfl
  | cons tag tags ih =>
      have one : parsePADITags { statics with receivedCookie := cookie } tag =
          { parsePADITags statics tag with receivedCookie := cookie } := by
        unfold parsePADITags
        repeat' split
        all_goals rfl
      rw [List.foldl_cons, List.foldl_cons, one, ih]

theorem padiStatics_cookie (packet : PPPoEPacket) (statics statics' : Statics) :
    parseTags parsePADITags packet
        { statics with relayId := none, hostUniq := none, requestedService := none, maxPppPayload := 0 } =
      { parseTags parsePADITags packet
          { statics' with relayId := none, hostUniq := none, requestedService := none, maxPppPayload := 0 } with
        receivedCookie := statics.receivedCookie } :=
  parsePADITags_cookie { statics' with relayId := none, hostUniq := none, requestedService := none, maxPppPayload := 0 }
    (readTags packet) statics.receivedCookie

theorem processPADI_answers (cfg : Config) (s s' : ServerState) (ledger : Ledger) (holds : Holds cfg s ledger)
    (holds' : Holds cfg s' ledger) (mode : s.draining = s'.draining) (ethif : Interface) (packet : PPPoEPacket) :
    (processPADI cfg s ethif packet).2 = (processPADI cfg s' ethif packet).2 := by
  rw [processPADI_eq, processPADI_eq, mode, sameFree holds holds', sameCount holds holds',
    padiStatics_cookie packet s.statics s'.statics]
  split
  · rfl
  split
  · rfl
  split
  · rfl
  split
  · rfl
  dsimp only
  split <;> rfl

theorem allocSession_next (cfg : Config) (s : ServerState) (ledger : Ledger) (holds : Holds cfg s ledger)
    (statics : Statics) :
    pppoeAllocSession { s with statics := statics } = none ∧ ledger.free = [] ∨
      ∃ ses rest taken, ledger.free = ses :: rest ∧
        pppoeAllocSession { s with statics := statics } = some (ses, taken) ∧
        (taken.sessions ses).sess = slotNumber cfg ses := by
  have parsed : Holds cfg { s with statics := statics } ledger := holds_besides holds _ rfl ⟨rfl, rfl, rfl, rfl⟩
  cases alloc : pppoeAllocSession { s with statics := statics } with
  | none => exact .inl ⟨rfl, (allocSession_none cfg _ _ _ parsed.slots).mp alloc⟩
  | some both =>
      obtain ⟨ses, taken⟩ := both
      obtain ⟨rest, split, slots, _, _⟩ := allocSession_slots cfg _ _ _ parsed.slots ses taken alloc
      exact .inr ⟨ses, rest, taken, split, rfl, slots.numbers ses (slot_lt cfg taken _ _ slots ses List.mem_cons_self)⟩

theorem processPADR_answers (cfg : Config) (s s' : ServerState) (ledger : Ledger) (holds : Holds cfg s ledger)
    (holds' : Holds cfg s' ledger) (face : Nat) (ethif : Interface) (packet : PPPoEPacket) (fork fork' : Option Nat)
    (outcome : fork.isSome = fork'.isSome) :
    (processPADR cfg s face ethif packet fork).2 = (processPADR cfg s' face ethif packet fork').2 := by
  unfold processPADR
  dsimp only
  rw [sameAdmitted holds holds']
  split
  · rfl
  split
  · rfl
  cases (padrStatics packet).requestedService with
  | none => rfl
  | some requested =>
      dsimp only
      split
      · rfl
      rcases allocSession_next cfg s ledger holds
        (padrStatics packet) with ⟨full, empty⟩ | ⟨ses, rest, taken, next, alloc, number⟩
      · rcases allocSession_next cfg s' ledger holds' (padrStatics packet) with ⟨full', _⟩ | ⟨_, _, _, next', _, _⟩
        · rw [full, full']
        · rw [empty] at next'
          cases next'
      · rcases allocSession_next cfg s' ledger holds'
          (padrStatics packet) with ⟨_, empty⟩ | ⟨_, _, taken', next', alloc', number'⟩
        · rw [empty] at next
          cases next
        · rw [next] at next'
          obtain ⟨rfl, rfl⟩ := List.cons.inj next'
          rw [alloc, alloc']
          cases fork with
          | none =>
              cases fork' with
              | none => rfl
              | some _ => cases outcome
          | some child =>
              cases fork' with
              | none => cases outcome
              | some child' => simp [number, number']

def Process.answer (cfg : Config) (d : Process) (face : Nat) (ethif : Interface) (frame : PPPoEPacket)
    (fork : Option Nat) :
    Option (List Sent) :=
  (d.serverProcessPacket cfg face ethif frame fork).map (·.2)

theorem answer_shows (cfg : Config) (d : Process) (s : ServerState) (shown : Shows d s) (face : Nat) (ethif : Interface)
    (frame : PPPoEPacket) (fork : Option Nat) :
    d.answer cfg face ethif frame fork = (serverProcessPacket cfg s face ethif frame fork).map (·.2) := by
  have matched := serverProcessPacket_matched cfg d s shown face ethif frame fork
  unfold Process.answer
  generalize d.serverProcessPacket cfg face ethif frame fork = concrete at matched
  generalize serverProcessPacket cfg s face ethif frame fork = abstract at matched
  cases matched with
  | none => rfl
  | some both => exact congrArg some both.2

theorem serverProcessPacket_answers (cfg : Config) (s s' : ServerState) (ledger : Ledger) (holds : Holds cfg s ledger)
    (holds' : Holds cfg s' ledger) (mode : s.draining = s'.draining) (face : Nat) (ethif : Interface)
    (frame : PPPoEPacket)
    (discovery : frame.code = codePADI ∨ frame.code = codePADR) (fork fork' : Option Nat)
    (outcome : fork.isSome = fork'.isSome) :
    (serverProcessPacket cfg s face ethif frame fork).map (·.2) =
    (serverProcessPacket cfg s' face ethif frame fork').map (·.2) := by
  unfold serverProcessPacket framesOf
  split
  · rfl
  split
  · rfl
  split
  · rw [Option.map_some, Option.map_some, processPADI_answers cfg s s' ledger holds holds' mode ethif frame]
  next notPADI =>
    rw [if_pos (discovery.resolve_left notPADI), if_pos (discovery.resolve_left notPADI), Option.map_some,
      Option.map_some,
      processPADR_answers cfg s s' ledger holds holds' face ethif frame fork fork' outcome]

-- What the tags of earlier packets left in memory decides nothing: whatever came
-- before, servers with the same lists answer a PADI or a PADR alike.
theorem no_leakage (cfg : Config) (order order' : List Nat) (valid : cfg.Valid order) (valid' : cfg.Valid order')
    {visits visits' : List (Process × Event)} {d d' : Process}
    (run : Run (Process.next cfg) (initProcess cfg order) visits d)
    (run' : Run (Process.next cfg) (initProcess cfg order') visits' d') (same : SameLists cfg d.server d'.server)
    (face : Nat) (ethif : Interface) (frame : PPPoEPacket) (discovery : frame.code = codePADI ∨ frame.code = codePADR)
    (fork fork' : Option Nat) (outcome : fork.isSome = fork'.isSome) :
    d.answer cfg face ethif frame fork = d'.answer cfg face ethif frame fork' := by
  obtain ⟨_, s, reached, shown⟩ := run_shows cfg order run
  obtain ⟨_, s', reached', shown'⟩ := run_shows cfg order' run'
  obtain ⟨ledger, holds⟩ := run_holds cfg order valid reached
  obtain ⟨ledger', holds'⟩ := run_holds cfg order' valid' reached'
  have same' : SameLists cfg s s' := by
    rw [shown.rest, shown'.rest]
    exact ⟨same.busy, same.free, same.owners, same.draining⟩
  rw [answer_shows cfg d s shown, answer_shows cfg d' s' shown']
  exact serverProcessPacket_answers cfg s s' ledger holds (sameLists_ledger cfg s s' same' ledger ledger' holds holds')
    same'.draining face ethif frame discovery fork fork' outcome

-- A PADI with a relay id of its own comes before the PADR in one history, and
-- nothing in the other.
def relayedPADI : PPPoEPacket where
  hDest := Vector.replicate 6 0xff
  hSource := macAddr 2 0 0 0 0 8
  vertype := pppoeVerType
  code := codePADI
  session := 0
  length := 12
  payload := tagBytes ⟨tagRelaySessionId, [1, 2, 3, 4]⟩ ++ tagBytes ⟨tagServiceName, []⟩

theorem no_leakage_relayed : ∃ d, Run.play (Process.next twoSlots)
    (initProcess twoSlots [0, 1]) [.packet 0 relayedPADI none] = some d ∧
    d.globals.relayId.length = 4 ∧
    d.answer twoSlots 0 ⟨#v[2, 0, 0, 0, 0, 1], 1500⟩ padrFrame (some 77) =
      (initProcess twoSlots [0, 1]).answer twoSlots 0 ⟨#v[2, 0, 0, 0, 0, 1], 1500⟩ padrFrame (some 78) := by
  have scene : (Run.play (Process.next twoSlots) (initProcess twoSlots [0, 1]) [.packet 0 relayedPADI none]).any
    (fun d =>
      d.globals.relayId.length == 4 && busyList twoSlots d.server == [] && freeList twoSlots d.server == [0, 1] &&
        d.server.draining == .off) = true := by
    decide +kernel
  obtain ⟨d, played, facts⟩ := (Option.any_eq_true _ _).mp scene
  simp only [Bool.and_eq_true, beq_iff_eq] at facts
  obtain ⟨⟨⟨stale, busy⟩, free⟩, mode⟩ := facts
  have same : SameLists twoSlots d.server (initProcess twoSlots [0, 1]).server :=
    ⟨busy, free, by rw [busy]; exact fun p member => (List.not_mem_nil member).elim, mode⟩
  exact ⟨d, played, stale, no_leakage twoSlots [0, 1] [0, 1] twoSlots_valid twoSlots_valid
    (Run.of_play _ d played) .start same 0 _
    padrFrame (.inr rfl) (some 77) (some 78) rfl⟩

end ZyAgf.Pppoe.Server
