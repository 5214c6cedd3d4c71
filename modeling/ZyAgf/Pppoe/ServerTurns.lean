import ZyAgf.Pppoe.ServerDrain

set_option autoImplicit false

namespace ZyAgf.Pppoe.Server

-- The table as an account of who holds which slot, and which slots are next.
structure Ledger where
  busy : List (Nat × Mac)
  free : List Nat

structure Holds (cfg : Config) (s : ServerState) (ledger : Ledger) : Prop where
  slots : Slots cfg s (ledger.busy.map Prod.fst) ledger.free
  owners : ∀ entry ∈ ledger.busy, (s.sessions entry.1).eth = entry.2

theorem holds_init (cfg : Config) (order : List Nat) (valid : cfg.Valid order) : Holds cfg (initServer cfg order)
    ⟨[], order⟩ :=
  ⟨initServer_slots cfg order valid, fun _ member => nomatch member⟩

theorem count_owners (cfg : Config) (s : ServerState) (ledger : Ledger) (holds : Holds cfg s ledger) (mac : Mac) :
    countSessionsFromMac cfg s mac = (ledger.busy.map Prod.snd).count mac := by
  unfold countSessionsFromMac
  rw [busyList_eq cfg s _ _ holds.slots, List.count_eq_countP, List.countP_map, List.countP_map]
  refine List.countP_congr fun entry member => ?_
  show ((s.sessions entry.1).eth == mac) = true ↔ (entry.2 == mac) = true
  rw [holds.owners entry member]

section Changes

variable {cfg : Config} {s : ServerState} {ledger : Ledger} (holds : Holds cfg s ledger)

include holds

theorem holds_besides (s' : ServerState) (sameSessions : s'.sessions = s.sessions)
    (sameHeads : s'.freeSessions = s.freeSessions ∧ s'.lastFreeSession = s.lastFreeSession ∧
      s'.busySessions = s.busySessions ∧ s'.numActiveSessions = s.numActiveSessions) : Holds cfg s' ledger := by
  have same (p : Nat) : s'.sessions p = s.sessions p := congrFun sameSessions p
  constructor
  · refine slots_congr cfg s _ _ holds.slots s' ?_ ?_ ?_ sameHeads
    · intro p
      unfold slotNext
      rw [same]
    · exact fun p => by rw [same]
    · exact fun p _ => by rw [same]
  · intro entry member
    rw [same]
    exact holds.owners entry member

theorem holds_upd (p : Nat) (f : ClientSession → ClientSession) (keepsNext : ∀ x, (f x).next = x.next)
    (keepsNumber : ∀ x, (f x).sess = x.sess) (keepsEth : ∀ x, (f x).eth = x.eth) : Holds cfg
    (s.updSession p f) ledger := by
  refine ⟨slots_upd cfg s _ _ holds.slots p f keepsNext keepsNumber fun _ => keepsEth, fun entry member => ?_⟩
  rw [ServerState.updSession_sessions]
  split
  · rw [keepsEth]
    exact holds.owners entry member
  · exact holds.owners entry member

end Changes

theorem freeSession_elsewhere {F : Type} (field : ClientSession → F)
    (keeps : ∀ x next, field { x with next := next } = field x)
    (cfg : Config) (s : ServerState) (ses p : Nat) (other : p ≠ ses) :
    field ((pppoeFreeSession cfg s ses).sessions p) = field (s.sessions p) := by
  have linked (c : Prop) [Decidable c] (x : ClientSession) (next : Option Nat) :
      field (if c then { x with next := next } else x) = field x := by
    split
    · exact keeps x next
    · rfl
  unfold pppoeFreeSession
  split
  · rfl
  · simp only [ServerState.updSession_sessions, ServerState.updSession?_sessions, if_neg other, linked]

theorem freeSession_eth (cfg : Config) (s : ServerState) (ses p : Nat) (other : p ≠ ses) :
    ((pppoeFreeSession cfg s ses).sessions p).eth = (s.sessions p).eth :=
  freeSession_elsewhere ClientSession.eth (fun _ _ => rfl) cfg s ses p other

theorem holds_free (cfg : Config) (s : ServerState) (ledger : Ledger) (holds : Holds cfg s ledger) (ses : Nat) :
    ∃ ledger', Holds cfg (pppoeFreeSession cfg s ses) ledger' ∧ ledger'.busy.Sublist ledger.busy := by
  by_cases member : ses ∈ ledger.busy.map Prod.fst
  · refine ⟨⟨ledger.busy.filter (·.1 != ses), ledger.free ++ [ses]⟩, ⟨?_, ?_⟩, List.filter_sublist⟩
    · have freed := (freeSession_slots cfg s _ _ holds.slots ses member).1
      have distinct := (List.nodup_append.mp (slots_distinct cfg s _ _ holds.slots)).1
      have kept : (ledger.busy.filter (·.1 != ses)).map Prod.fst = (ledger.busy.map Prod.fst).erase ses := by
        rw [distinct.erase_eq_filter, List.filter_map]
        rfl
      rw [← kept] at freed
      exact freed
    · intro entry inside
      obtain ⟨there, other⟩ := List.mem_filter.mp inside
      rw [freeSession_eth cfg s ses entry.1 (by simpa using other)]
      exact holds.owners entry there
  · have absent := before_absent (slotNext s) cfg.numSessionSlots s.busySessions none _ ses member holds.slots.busyList
    refine ⟨ledger, ?_, List.Sublist.refl _⟩
    unfold pppoeFreeSession
    rw [show (fun p => (s.sessions p).next) = slotNext s from rfl, absent]
    exact holds

theorem processPADR_kept (cfg : Config) (s : ServerState) (ledger : Ledger) (holds : Holds cfg s ledger) (face : Nat)
    (ethif : Interface) (packet : PPPoEPacket) (fork : Option Nat) (unopened : ¬ Opens cfg s ethif packet) :
    Holds cfg (processPADR cfg s face ethif packet fork).1 ledger := by
  obtain ⟨_, same⟩ := processPADR_unopened cfg s face ethif packet fork unopened
  rw [same]
  exact holds_besides holds _ rfl ⟨rfl, rfl, rfl, rfl⟩

theorem holds_claimed (cfg : Config) (s taken : ServerState) (ledger : Ledger) (holds : Holds cfg s ledger)
    (ses face : Nat)
    (source : Mac) (alloc : pppoeAllocSession s = some (ses, taken)) : ∃ rest, ledger.free = ses :: rest ∧
      Holds cfg (claimed taken ses face source) ⟨(ses, source) :: ledger.busy, rest⟩ := by
  obtain ⟨rest, split, slots, _, others⟩ := allocSession_slots cfg s _ _ holds.slots ses taken alloc
  have distinct := slots_distinct cfg taken _ _ slots
  have notFree : ses ∉ rest := fun inside => (List.nodup_append.mp distinct).2.2 ses List.mem_cons_self ses inside rfl
  have notBusy : ses ∉ ledger.busy.map Prod.fst := (List.nodup_cons.mp (List.nodup_append.mp distinct).1).1
  refine ⟨rest, split, slots_upd cfg taken _ rest slots ses _ (fun _ => rfl) (fun _ => rfl)
    (fun inside => absurd inside notFree), ?_⟩
  intro entry member
  unfold claimed
  rw [ServerState.updSession_sessions]
  rcases List.mem_cons.mp member with rfl | old
  · rw [if_pos rfl]
  · have other : entry.1 ≠ ses := fun same => notBusy (same ▸ List.mem_map_of_mem old)
    rw [if_neg other, others entry.1 other]
    exact holds.owners entry old

theorem processPADR_taken (cfg : Config) (s : ServerState) (ledger : Ledger) (holds : Holds cfg s ledger) (face : Nat)
    (ethif : Interface) (packet : PPPoEPacket) (fork : Option Nat) (opens : Opens cfg s ethif packet) :
    ∃ ses rest, ledger.free = ses :: rest ∧ Holds cfg (processPADR cfg s face ethif packet fork).1
      (match fork with
        | none => ⟨ledger.busy, rest ++ [ses]⟩
        | some _ => ⟨(ses, packet.hSource) :: ledger.busy, rest⟩) := by
  obtain ⟨requested, ses, taken, _, alloc, same⟩ := processPADR_opened cfg s face ethif packet fork opens
  have parsed : Holds cfg { s with statics := padrStatics packet } ledger :=
    holds_besides holds _ rfl ⟨rfl, rfl, rfl, rfl⟩
  obtain ⟨rest, split, holds'⟩ := holds_claimed cfg _ taken ledger parsed ses face packet.hSource alloc
  refine ⟨ses, rest, split, ?_⟩
  rw [same]
  cases fork with
  | none =>
      have freed := (freeSession_slots cfg _ _ _ holds'.slots ses List.mem_cons_self).1
      rw [List.map_cons, List.erase_cons_head] at freed
      refine ⟨freed, fun entry (member : entry ∈ ledger.busy) => ?_⟩
      have distinct := (List.nodup_append.mp (slots_distinct cfg _ _ _ holds'.slots)).1
      have listed : entry.1 ∈ ledger.busy.map Prod.fst := List.mem_map_of_mem member
      have other : entry.1 ≠ ses := fun here => (List.nodup_cons.mp distinct).1 (here ▸ listed)
      rw [freeSession_eth cfg _ ses entry.1 other]
      exact holds'.owners entry (List.mem_cons_of_mem _ member)
  | some child =>
      exact holds_besides (holds_upd holds' ses (fun x => { x with pid := child }) (fun _ => rfl) (fun _ => rfl)
        fun _ => rfl)
        _ rfl ⟨rfl, rfl, rfl, rfl⟩

-- What an event may do to the account: let clients go, or let one in whose PADR
-- got past every check.
def Turn (cfg : Config) (s : ServerState) (event : Event) (ledger ledger' : Ledger) : Prop :=
  ledger'.busy.Sublist ledger.busy ∨ ∃ face frame child ethif ses, event = .packet face frame (some child) ∧
    frame.code = codePADR ∧ cfg.interfaces[face]? = some ethif ∧ Opens cfg s ethif frame ∧
    ledger'.busy = (ses, frame.hSource) :: ledger.busy

section Turns

variable (cfg : Config) (s : ServerState) (ledger : Ledger) (holds : Holds cfg s ledger)

include holds

theorem stopSession_holds (ses : Nat) (reason : String) (result : ServerState × List Sent)
    (stopped : pppoeStopSession cfg s ses reason = some result) : Holds cfg result.1 ledger := by
  obtain ⟨e, _, stopped⟩ := Option.bind_eq_some_iff.mp stopped
  obtain ⟨i, _, rfl⟩ := Option.map_eq_some_iff.mp stopped
  exact holds_upd holds ses (fun x => { x with sentPadt := true }) (fun _ => rfl) (fun _ => rfl) fun _ => rfl

theorem killAllFrom_holds (fuel : Nat) (cur : Option Nat) (result : ServerState × List Sent)
    (ran : killAllFrom cfg fuel cur s = some result) : Holds cfg result.1 ledger := by
  induction fuel generalizing cur s result with
  | zero =>
      obtain rfl := Option.some.inj ran
      exact holds
  | succ fuel ih =>
      cases cur with
      | none =>
          obtain rfl := Option.some.inj ran
          exact holds
      | some sess =>
          obtain ⟨stopped, first, rest⟩ := Option.bind_eq_some_iff.mp ran
          obtain ⟨later, onward, rfl⟩ := Option.map_eq_some_iff.mp rest
          exact ih stopped.1 (stopSession_holds cfg s ledger holds sess _ stopped first) _ later onward

theorem killAllSessions_holds (result : ServerState × List Sent) (ran : killAllSessions cfg s = some result) :
    Holds cfg result.1 ledger := by
  obtain ⟨all, killed, rfl⟩ := Option.map_eq_some_iff.mp ran
  exact holds_besides (killAllFrom_holds cfg s ledger holds _ _ all killed) _ rfl ⟨rfl, rfl, rfl, rfl⟩

theorem processPADI_holds (ethif : Interface) (packet : PPPoEPacket) : Holds cfg
    (processPADI cfg s ethif packet).1 ledger := by
  unfold processPADI
  split
  · exact holds
  split
  · exact holds
  split
  · exact holds
  split
  · exact holds
  dsimp only
  split <;> split <;> exact holds_besides holds _ rfl ⟨rfl, rfl, rfl, rfl⟩

theorem processPADT_holds (ethif : Interface) (packet : PPPoEPacket) (result : ServerState × List Sent)
    (ran : processPADT cfg s ethif packet = some result) : Holds cfg result.1 ledger := by
  unfold processPADT at ran
  split at ran
  · obtain rfl := Option.some.inj ran
    exact holds
  · next i _ =>
      have marked := holds_upd holds i (fun x => { x with recvdPadt := true }) (fun _ => rfl) (fun _ => rfl) fun _ =>
        rfl
      exact stopSession_holds cfg _ ledger marked i _ result ran

theorem handle_turn (event : Event) (result : ServerState × List Sent) (ran : handle cfg s event = some result) :
    ∃ ledger', Holds cfg result.1 ledger' ∧ Turn cfg s event ledger ledger' := by
  have still (kept : Holds cfg result.1 ledger) : ∃ ledger', Holds cfg result.1 ledger' ∧
    Turn cfg s event ledger ledger' :=
    ⟨ledger, kept, .inl (List.Sublist.refl _)⟩
  cases event with
  | packet face frame fork =>
      rw [handle] at ran
      split at ran
      · cases ran
      obtain ⟨ethif, known, ran⟩ := Option.bind_eq_some_iff.mp ran
      unfold serverProcessPacket framesOf at ran
      split at ran
      · obtain rfl := Option.some.inj ran
        exact still holds
      split at ran
      · obtain rfl := Option.some.inj ran
        exact still holds
      split at ran
      · obtain rfl := Option.some.inj ran
        exact still (processPADI_holds cfg s ledger holds ethif frame)
      split at ran
      · next coded =>
          obtain rfl := Option.some.inj ran
          by_cases opens : Opens cfg s ethif frame
          · obtain ⟨ses, rest, _, taken⟩ := processPADR_taken cfg s ledger holds face ethif frame fork opens
            cases fork with
            | none => exact ⟨_, taken, .inl (List.Sublist.refl _)⟩
            | some child => exact ⟨_, taken, .inr ⟨face, frame, child, ethif, ses, rfl, coded, known, opens, rfl⟩⟩
          · exact still (processPADR_kept cfg s ledger holds face ethif frame fork opens)
      split at ran
      · exact still (processPADT_holds cfg s ledger holds ethif frame result ran)
      · obtain rfl := Option.some.inj ran
        exact still holds
  | childExit pid =>
      obtain ⟨entry, _, ran⟩ := Option.bind_eq_some_iff.mp ran
      obtain ⟨e, _, ran⟩ := Option.bind_eq_some_iff.mp ran
      obtain ⟨i, _, rfl⟩ := Option.map_eq_some_iff.mp ran
      have gone : Holds cfg { s with children := s.children.erase entry } ledger :=
        holds_besides holds _ rfl ⟨rfl, rfl, rfl, rfl⟩
      have marked := holds_upd gone entry.2 (fun x => { x with sentPadt := true }) (fun _ => rfl) (fun _ => rfl)
        fun _ => rfl
      obtain ⟨ledger', freed, fewer⟩ := holds_free cfg _ ledger marked entry.2
      exact ⟨ledger', freed, .inl fewer⟩
  | setDrain mode =>
      obtain rfl := Option.some.inj ran
      exact still (holds_besides holds _ rfl ⟨rfl, rfl, rfl, rfl⟩)
  | terminate => exact still (killAllSessions_holds cfg s ledger holds result ran)

theorem next_turn (s' : ServerState) (event : Event) (moved : next cfg s event = some s') :
    ∃ ledger', Holds cfg s' ledger' ∧ Turn cfg s event ledger ledger' := by
  obtain ⟨result, ran, rfl⟩ := Option.map_eq_some_iff.mp moved
  unfold step at ran
  split at ran
  · cases ran
  obtain ⟨handled, first, ran⟩ := Option.bind_eq_some_iff.mp ran
  obtain ⟨ledger', after, turn⟩ := handle_turn cfg s ledger holds event handled first
  split at ran
  · obtain ⟨ended, all, rfl⟩ := Option.map_eq_some_iff.mp ran
    exact ⟨ledger', killAllSessions_holds cfg handled.1 ledger' after ended all, turn⟩
  · obtain rfl := Option.some.inj ran
    exact ⟨ledger', after, turn⟩

end Turns

def WithinLimit (cfg : Config) (s : ServerState) : Prop := ∀ mac, countSessionsFromMac cfg s mac ≤ cfg.maxSessionsPerMac

-- A PADR of a client below the limit is treated as if there were none.
def Unlimited (cfg : Config) (s : ServerState) : Prop :=
  ∀ face ethif packet fork, countSessionsFromMac cfg s packet.hSource < cfg.maxSessionsPerMac →
    processPADR cfg s face ethif packet fork = processPADR { cfg with maxSessionsPerMac := 0 } s face ethif packet fork

theorem unlimited (cfg : Config) (s : ServerState) : Unlimited cfg s := by
  intro face ethif packet fork below
  have admitted : padrAdmitted cfg s ethif packet = padrAdmitted
    { cfg with maxSessionsPerMac := 0 } s ethif packet := by
    unfold padrAdmitted
    rw [decide_eq_false (Nat.not_le.mpr below)]
    simp
  unfold processPADR
  rw [admitted]
  rfl

theorem turn_withinLimit (cfg : Config) (s s' : ServerState) (event : Event) (ledger ledger' : Ledger)
    (limited : 0 < cfg.maxSessionsPerMac) (holds : Holds cfg s ledger) (holds' : Holds cfg s' ledger')
    (turn : Turn cfg s event ledger ledger') (within : WithinLimit cfg s) : WithinLimit cfg s' := by
  intro mac
  have before := within mac
  rw [count_owners cfg s ledger holds] at before
  rw [count_owners cfg s' ledger' holds']
  rcases turn with fewer | ⟨_, frame, _, ethif, ses, _, _, _, opens, more⟩
  · exact Nat.le_trans ((fewer.map Prod.snd).count_le mac) before
  · rw [more, List.map_cons, List.count_cons]
    split
    next same =>
      obtain rfl : frame.hSource = mac := by simpa using same
      have admitted := opens.admitted
      unfold padrAdmitted at admitted
      rw [count_owners cfg s ledger holds] at admitted
      simp only [Bool.and_eq_true, Bool.not_eq_true', Bool.and_eq_false_iff, bne_eq_false_iff_eq,
        decide_eq_false_iff_not] at admitted
      omega
    next => exact before

-- In every run with a limit, no client ever has more sessions than it, and none is
-- refused for it below it.
theorem session_limit (cfg : Config) (order : List Nat) (valid : cfg.Valid order) (limited : 0 < cfg.maxSessionsPerMac)
    {visits : List (ServerState × Event)} {s : ServerState} (run : Run (next cfg) (initServer cfg order) visits s) :
    WithinLimit cfg s ∧ Unlimited cfg s := by
  have kept : ∃ ledger, Holds cfg s ledger ∧ WithinLimit cfg s := by
    refine Run.invariant (fun _ _ => True) (fun s => ∃ ledger, Holds cfg s ledger ∧ WithinLimit cfg s) ?_ ?_ run
      (Run.meets_always visits)
    · refine ⟨_, holds_init cfg order valid, fun mac => ?_⟩
      rw [count_owners cfg _ _ (holds_init cfg order valid)]
      exact Nat.zero_le _
    · rintro d event d' ⟨ledger, holds, within⟩ _ moved
      obtain ⟨ledger', holds', turn⟩ := next_turn cfg d ledger holds d' event moved
      exact ⟨ledger', holds', turn_withinLimit cfg d d' event ledger ledger' limited holds holds' turn within⟩
  obtain ⟨_, _, within⟩ := kept
  exact ⟨within, unlimited cfg s⟩

-- Of two PADRs of one client, the second finds the limit reached.
def oneEach : Config := { twoSlots with maxSessionsPerMac := 1 }

def padrTwice : List Event := [.packet 0 padrFrame (some 77), .packet 0 padrFrame (some 78)]

theorem session_limit_reached : ∃ s, Run.play (next oneEach) (initServer oneEach [0, 1]) padrTwice = some s ∧
    countSessionsFromMac oneEach s clientMac = 1 ∧ s.freeSessions = some 1 ∧ WithinLimit oneEach s ∧
      Unlimited oneEach s := by
  have seen : (Run.play (next oneEach) (initServer oneEach [0, 1]) padrTwice).any (fun s =>
      countSessionsFromMac oneEach s clientMac == 1 && s.freeSessions == some 1) = true := by decide +kernel
  obtain ⟨s, played, facts⟩ := (Option.any_eq_true _ _).mp seen
  simp only [Bool.and_eq_true, beq_iff_eq] at facts
  have valid : oneEach.Valid [0, 1] := ⟨by decide, by decide, List.Perm.refl _⟩
  exact ⟨s, played, facts.1, facts.2, session_limit oneEach [0, 1] valid (by decide) (Run.of_play padrTwice s played)⟩

end ZyAgf.Pppoe.Server
