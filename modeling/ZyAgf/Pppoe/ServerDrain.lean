import ZyAgf.Pppoe.ServerPadt

set_option autoImplicit false

namespace ZyAgf.Pppoe.Server

-- A PADR that gets past every check of processPADR while a slot is free. None of
-- the checks looks at the drain mode.
structure Opens (cfg : Config) (s : ServerState) (ethif : Interface) (packet : PPPoEPacket) : Prop where
  admitted : padrAdmitted cfg s ethif packet = true
  cookie : cookieKosher cfg (padrStatics packet) ethif packet.hSource = true
  service : ∃ requested, (padrStatics packet).requestedService = some requested ∧
    (requested.payload = [] ∨ requested.payload ∈ cfg.serviceNames)
  slot : s.freeSessions ≠ none

def OpensSession (cfg : Config) (s : ServerState) : Event → Prop
  | .packet face frame _ =>
      ∃ ethif, cfg.interfaces[face]? = some ethif ∧ frame.code = codePADR ∧ Opens cfg s ethif frame
  | _ => False

def IsPADR : Event → Prop
  | .packet _ frame _ => frame.code = codePADR
  | _ => False

-- What a drained server may still do: let sessions go.
structure Dwindles (s s' : ServerState) : Prop where
  active : s'.numActiveSessions ≤ s.numActiveSessions
  children : s'.children.Sublist s.children

-- A refused PADR allocates no slot and starts no child.
structure SameSlots (s s' : ServerState) : Prop where
  free : s'.freeSessions = s.freeSessions
  busy : s'.busySessions = s.busySessions
  active : s'.numActiveSessions = s.numActiveSessions
  children : s'.children = s.children

theorem sameSlots_refl (s : ServerState) : SameSlots s s := ⟨rfl, rfl, rfl, rfl⟩

theorem sameSlots_trans (s s' s'' : ServerState) (first : SameSlots s s')
    (second : SameSlots s' s'') : SameSlots s s'' :=
  ⟨second.free.trans first.free, second.busy.trans first.busy, second.active.trans first.active,
    second.children.trans first.children⟩

theorem dwindles_of_same (s s' : ServerState) (same : SameSlots s s') : Dwindles s s' :=
  ⟨Nat.le_of_eq same.active, same.children ▸ List.Sublist.refl _⟩

theorem dwindles_trans (s s' s'' : ServerState) (first : Dwindles s s') (second : Dwindles s' s'') : Dwindles s s'' :=
  ⟨Nat.le_trans second.active first.active, second.children.trans first.children⟩

theorem freeSession_dwindles (cfg : Config) (s : ServerState) (ses : Nat) : Dwindles s
    (pppoeFreeSession cfg s ses) := by
  unfold pppoeFreeSession
  split
  · exact dwindles_of_same s s (sameSlots_refl s)
  · constructor
    · simp only [ServerState.updSession_rest, ServerState.updSession?_rest]
      exact Nat.sub_le _ 1
    · simp only [ServerState.updSession_rest, ServerState.updSession?_rest]
      exact List.Sublist.refl _

@[simp] theorem updSession_running (s : ServerState) (p : Nat) (f : ClientSession → ClientSession) :
    (s.updSession p f).running = s.running := rfl

@[simp] theorem updSession?_running (s : ServerState) (p : Option Nat) (f : ClientSession → ClientSession) :
    (s.updSession? p f).running = s.running := by
  cases p <;> rfl

theorem freeSession_running (cfg : Config) (s : ServerState) (ses : Nat) :
    (pppoeFreeSession cfg s ses).running = s.running := by
  unfold pppoeFreeSession
  split
  · rfl
  · simp only [updSession_running, updSession?_running]

theorem stopSession_same (cfg : Config) (s : ServerState) (ses : Nat) (reason : String)
    (result : ServerState × List Sent)
    (stopped : pppoeStopSession cfg s ses reason = some result) :
    SameSlots s result.1 ∧ result.1.draining = s.draining ∧ result.1.running = s.running := by
  obtain ⟨e, _, stopped⟩ := Option.bind_eq_some_iff.mp stopped
  obtain ⟨i, _, rfl⟩ := Option.map_eq_some_iff.mp stopped
  exact ⟨⟨rfl, rfl, rfl, rfl⟩, rfl, rfl⟩

theorem killAllFrom_same (cfg : Config) (fuel : Nat) (cur : Option Nat) (s : ServerState)
    (result : ServerState × List Sent)
    (ran : killAllFrom cfg fuel cur s = some result) : SameSlots s result.1 ∧ result.1.draining = s.draining := by
  induction fuel generalizing cur s result with
  | zero =>
      obtain rfl := Option.some.inj ran
      exact ⟨sameSlots_refl s, rfl⟩
  | succ fuel ih =>
      cases cur with
      | none =>
          obtain rfl := Option.some.inj ran
          exact ⟨sameSlots_refl s, rfl⟩
      | some sess =>
          obtain ⟨stopped, first, rest⟩ := Option.bind_eq_some_iff.mp ran
          obtain ⟨later, onward, rfl⟩ := Option.map_eq_some_iff.mp rest
          obtain ⟨same, mode, _⟩ := stopSession_same cfg s sess _ stopped first
          obtain ⟨sameLater, modeLater⟩ := ih _ stopped.1 later onward
          exact ⟨sameSlots_trans s stopped.1 later.1 same sameLater, modeLater.trans mode⟩

theorem killAllSessions_same (cfg : Config) (s : ServerState) (result : ServerState × List Sent)
    (ran : killAllSessions cfg s = some result) :
    SameSlots s result.1 ∧ result.1.draining = s.draining ∧ result.1.running = false := by
  obtain ⟨all, killed, rfl⟩ := Option.map_eq_some_iff.mp ran
  obtain ⟨same, mode⟩ := killAllFrom_same cfg _ _ s all killed
  exact ⟨⟨same.free, same.busy, same.active, same.children⟩, mode, rfl⟩

theorem processPADR_unopened (cfg : Config) (s : ServerState) (face : Nat) (ethif : Interface) (packet : PPPoEPacket)
    (fork : Option Nat) (unopened : ¬ Opens cfg s ethif packet) :
    ∃ statics, (processPADR cfg s face ethif packet fork).1 = { s with statics := statics } := by
  unfold processPADR
  dsimp only
  cases admitted : padrAdmitted cfg s ethif packet with
  | false => exact ⟨_, rfl⟩
  | true =>
      rw [if_neg (by decide)]
      cases cookie : cookieKosher cfg (padrStatics packet) ethif packet.hSource with
      | false => exact ⟨_, rfl⟩
      | true =>
          rw [if_neg (by decide)]
          cases service : (padrStatics packet).requestedService with
          | none => exact ⟨_, rfl⟩
          | some requested =>
              dsimp only
              split
              · exact ⟨_, rfl⟩
              · next offered =>
                  have full : s.freeSessions = none := by
                    by_contra slot
                    refine unopened ⟨admitted, cookie, ⟨requested, service, ?_⟩, slot⟩
                    by_cases blank : requested.payload = []
                    · exact .inl blank
                    · exact .inr (by_contra fun unknown => offered ⟨blank, unknown⟩)
                  have refused : pppoeAllocSession { s with statics := padrStatics packet } = none := by
                    unfold pppoeAllocSession
                    rw [full]
                    rfl
                  rw [refused]
                  exact ⟨_, rfl⟩

theorem processPADR_refused (cfg : Config) (s : ServerState) (face : Nat) (ethif : Interface) (packet : PPPoEPacket)
    (fork : Option Nat) (unopened : ¬ Opens cfg s ethif packet) :
    SameSlots s (processPADR cfg s face ethif packet fork).1 := by
  obtain ⟨_, same⟩ := processPADR_unopened cfg s face ethif packet fork unopened
  rw [same]
  exact ⟨rfl, rfl, rfl, rfl⟩

-- The slot of a PADR that opens a session, with the client's address in it.
def claimed (s : ServerState) (ses face : Nat) (source : Mac) : ServerState :=
  s.updSession ses fun x => { x with eth := source, ethif := some face, recvdPadt := false, sentPadt := false }

theorem processPADR_opened (cfg : Config) (s : ServerState) (face : Nat) (ethif : Interface) (packet : PPPoEPacket)
    (fork : Option Nat) (opens : Opens cfg s ethif packet) :
    ∃ requested ses taken, (padrStatics packet).requestedService = some requested ∧
      pppoeAllocSession { s with statics := padrStatics packet } = some (ses, taken) ∧
      processPADR cfg s face ethif packet fork =
        match fork with
        | none =>
            (pppoeFreeSession cfg (claimed taken ses face packet.hSource) ses,
              [sendErrorPADS (padrStatics packet) ethif.mac packet.hSource tagAcSystemError unableToStart])
        | some child =>
            ({ (claimed taken ses face packet.hSource).updSession ses fun x => { x with pid := child } with
                children := (child, ses) :: taken.children },
              [childPADS cfg (padrStatics packet) ethif packet.hSource (taken.sessions ses).sess requested]) := by
  obtain ⟨requested, service, offered⟩ := opens.service
  obtain ⟨ses, slot⟩ := Option.ne_none_iff_exists'.mp opens.slot
  have known : ¬ (requested.payload ≠ [] ∧ requested.payload ∉ cfg.serviceNames) := by
    rintro ⟨named, unknown⟩
    exact offered.elim named unknown
  obtain ⟨taken, alloc⟩ : ∃ taken, pppoeAllocSession { s with statics := padrStatics packet } = some (ses, taken) := by
    unfold pppoeAllocSession
    rw [slot]
    exact ⟨_, rfl⟩
  refine ⟨requested, ses, taken, service, alloc, ?_⟩
  unfold processPADR
  dsimp only
  rw [if_neg (by rw [opens.admitted]; decide), if_neg (by rw [opens.cookie]; decide), service]
  dsimp only
  rw [if_neg known, alloc]
  cases fork with
  | none => rfl
  | some child => simp [claimed]

theorem processPADI_same (cfg : Config) (s : ServerState) (ethif : Interface) (packet : PPPoEPacket) :
    SameSlots s (processPADI cfg s ethif packet).1 ∧ (processPADI cfg s ethif packet).1.running = s.running := by
  unfold processPADI
  split
  · exact ⟨sameSlots_refl s, rfl⟩
  split
  · exact ⟨sameSlots_refl s, rfl⟩
  split
  · exact ⟨sameSlots_refl s, rfl⟩
  split
  · exact ⟨sameSlots_refl s, rfl⟩
  dsimp only
  split <;> split <;> exact ⟨⟨rfl, rfl, rfl, rfl⟩, rfl⟩

theorem processPADT_same (cfg : Config) (s : ServerState) (ethif : Interface) (packet : PPPoEPacket)
    (result : ServerState × List Sent) (ran : processPADT cfg s ethif packet = some result) :
    SameSlots s result.1 ∧ result.1.running = s.running := by
  unfold processPADT at ran
  split at ran
  · obtain rfl := Option.some.inj ran
    exact ⟨sameSlots_refl s, rfl⟩
  · next i _ =>
      obtain ⟨same, _, running⟩ := stopSession_same cfg _ i _ result ran
      exact ⟨⟨same.free, same.busy, same.active, same.children⟩, running⟩

theorem serverProcessPacket_same (cfg : Config) (s : ServerState) (face : Nat) (ethif : Interface) (frame : PPPoEPacket)
    (fork : Option Nat) (unopened : frame.code = codePADR → ¬ Opens cfg s ethif frame)
    (result : ServerState × List Sent)
    (ran : serverProcessPacket cfg s face ethif frame fork = some result) : SameSlots s result.1 := by
  unfold serverProcessPacket framesOf at ran
  split at ran
  · obtain rfl := Option.some.inj ran
    exact sameSlots_refl s
  split at ran
  · obtain rfl := Option.some.inj ran
    exact sameSlots_refl s
  split at ran
  · obtain rfl := Option.some.inj ran
    exact (processPADI_same cfg s ethif frame).1
  split at ran
  · next coded =>
      obtain rfl := Option.some.inj ran
      exact processPADR_refused cfg s face ethif frame fork (unopened coded)
  split at ran
  · exact (processPADT_same cfg s ethif frame result ran).1
  · obtain rfl := Option.some.inj ran
    exact sameSlots_refl s

-- While the server drains, a step lets sessions go and takes none on.
structure Refuses (s s' : ServerState) (event : Event) : Prop where
  dwindles : Dwindles s s'
  padr : IsPADR event → SameSlots s s'

theorem handle_refuses (cfg : Config) (s : ServerState) (event : Event) (unopened : ¬ OpensSession cfg s event)
    (result : ServerState × List Sent) (ran : handle cfg s event = some result) : Refuses s result.1 event := by
  cases event with
  | packet face frame fork =>
      rw [handle] at ran
      split at ran
      · cases ran
      · obtain ⟨ethif, known, ran⟩ := Option.bind_eq_some_iff.mp ran
        have same := serverProcessPacket_same cfg s face ethif frame fork
          (fun coded opens => unopened ⟨ethif, known, coded, opens⟩) result ran
        exact ⟨dwindles_of_same s result.1 same, fun _ => same⟩
  | childExit pid =>
      obtain ⟨entry, _, ran⟩ := Option.bind_eq_some_iff.mp ran
      obtain ⟨e, _, ran⟩ := Option.bind_eq_some_iff.mp ran
      obtain ⟨i, _, rfl⟩ := Option.map_eq_some_iff.mp ran
      have freed := freeSession_dwindles cfg
        ({ s with children := s.children.erase entry }.updSession entry.2 fun x => { x with sentPadt := true }) entry.2
      exact ⟨⟨freed.active, freed.children.trans List.erase_sublist⟩, fun padr => padr.elim⟩
  | setDrain mode =>
      obtain rfl := Option.some.inj ran
      exact ⟨dwindles_of_same s _ ⟨rfl, rfl, rfl, rfl⟩, fun padr => padr.elim⟩
  | terminate =>
      obtain ⟨same, _, _⟩ := killAllSessions_same cfg s result ran
      exact ⟨dwindles_of_same s result.1 same, fun padr => padr.elim⟩

theorem next_refuses (cfg : Config) (s s' : ServerState) (event : Event) (unopened : ¬ OpensSession cfg s event)
    (moved : next cfg s event = some s') : Refuses s s' event := by
  obtain ⟨result, ran, rfl⟩ := Option.map_eq_some_iff.mp moved
  unfold step at ran
  split at ran
  · cases ran
  · obtain ⟨handled, first, ran⟩ := Option.bind_eq_some_iff.mp ran
    have after := handle_refuses cfg s event unopened handled first
    split at ran
    · obtain ⟨ended, all, rfl⟩ := Option.map_eq_some_iff.mp ran
      have same := (killAllSessions_same cfg handled.1 ended all).1
      exact ⟨dwindles_trans s handled.1 ended.1 after.dwindles (dwindles_of_same handled.1 ended.1 same),
        fun padr => sameSlots_trans s handled.1 ended.1 (after.padr padr) same⟩
    · obtain rfl := Option.some.inj ran
      exact after

theorem allocSession_running (s s' : ServerState) (ses : Nat) (alloc : pppoeAllocSession s = some (ses, s')) :
    s'.running = s.running := by
  obtain ⟨_, _, same⟩ := Option.map_eq_some_iff.mp alloc
  cases same
  rfl

theorem processPADR_running (cfg : Config) (s : ServerState) (face : Nat) (ethif : Interface) (packet : PPPoEPacket)
    (fork : Option Nat) : (processPADR cfg s face ethif packet fork).1.running = s.running := by
  unfold processPADR
  dsimp only
  split
  · rfl
  split
  · rfl
  split
  · rfl
  split
  · rfl
  split
  · rfl
  · next ses s' alloc =>
      have kept := allocSession_running _ s' ses alloc
      split
      · exact (freeSession_running cfg _ ses).trans kept
      · exact kept

theorem handle_running (cfg : Config) (s : ServerState) (event : Event) (other : event ≠ .terminate)
    (result : ServerState × List Sent) (ran : handle cfg s event = some result) : result.1.running = s.running := by
  cases event with
  | packet face frame fork =>
      rw [handle] at ran
      split at ran
      · cases ran
      · obtain ⟨ethif, _, ran⟩ := Option.bind_eq_some_iff.mp ran
        unfold serverProcessPacket framesOf at ran
        split at ran
        · obtain rfl := Option.some.inj ran
          rfl
        split at ran
        · obtain rfl := Option.some.inj ran
          rfl
        split at ran
        · obtain rfl := Option.some.inj ran
          exact (processPADI_same cfg s ethif frame).2
        split at ran
        · obtain rfl := Option.some.inj ran
          exact processPADR_running cfg s face ethif frame fork
        split at ran
        · exact (processPADT_same cfg s ethif frame result ran).2
        · obtain rfl := Option.some.inj ran
          rfl
  | childExit pid =>
      obtain ⟨entry, _, ran⟩ := Option.bind_eq_some_iff.mp ran
      obtain ⟨e, _, ran⟩ := Option.bind_eq_some_iff.mp ran
      obtain ⟨i, _, rfl⟩ := Option.map_eq_some_iff.mp ran
      exact freeSession_running cfg _ entry.2
  | setDrain mode =>
      obtain rfl := Option.some.inj ran
      rfl
  | terminate => exact absurd rfl other

theorem next_quits (cfg : Config) (s s' : ServerState) (event : Event) (moved : next cfg s event = some s')
    (mode : s'.draining = .quit) : s'.running = false ↔ s'.numActiveSessions = 0 ∨ event = .terminate := by
  obtain ⟨result, ran, rfl⟩ := Option.map_eq_some_iff.mp moved
  unfold step at ran
  split at ran
  · cases ran
  next alive =>
    obtain ⟨handled, first, ran⟩ := Option.bind_eq_some_iff.mp ran
    split at ran
    · next drained =>
        obtain ⟨ended, all, rfl⟩ := Option.map_eq_some_iff.mp ran
        obtain ⟨same, _, stopped⟩ := killAllSessions_same cfg handled.1 ended all
        exact ⟨fun _ => .inl (same.active.trans drained.2.1), fun _ => stopped⟩
    · next undrained =>
        obtain rfl := Option.some.inj ran
        constructor
        · intro stopped
          by_cases ends : event = .terminate
          · exact .inr ends
          · rw [handle_running cfg s event ends handled first] at stopped
            exact absurd stopped alive
        · rintro (none' | rfl)
          · by_contra going
            exact undrained ⟨mode, none', by simpa using going⟩
          · exact (killAllSessions_same cfg s handled first).2.2

-- Over a stretch of any run in which the server drains and no PADR opens a
-- session, sessions and children only go.
theorem draining_refuses (cfg : Config) (s0 s : ServerState) (visits : List (ServerState × Event))
    (run : Run (next cfg) s0 visits s) (draining : Run.Meets (fun state _ => state.draining ≠ .off) visits)
    (unopened : Run.Meets (fun state event => state.draining ≠ .off → ¬ OpensSession cfg state event) visits) :
    Dwindles s0 s ∧
      Run.Meets (fun state event => ∀ after, next cfg state event = some after → Refuses state after event) visits ∧
      ∀ state event after, next cfg state event = some after → after.draining = .quit →
        (after.running = false ↔ after.numActiveSessions = 0 ∨ event = .terminate) := by
  refine ⟨?_, ?_, fun state event after moved mode => next_quits cfg state after event moved mode⟩
  · induction run with
    | start => exact dwindles_of_same s0 s0 (sameSlots_refl s0)
    | snoc visits state after event _ moved ih =>
        obtain ⟨earlierDraining, mode⟩ := (Run.meets_snoc _ visits state event).mp draining
        obtain ⟨earlierUnopened, closed⟩ := (Run.meets_snoc _ visits state event).mp unopened
        exact dwindles_trans s0 state after (ih earlierDraining earlierUnopened)
          (next_refuses cfg state after event (closed mode) moved).dwindles
  · intro visit member after moved
    exact next_refuses cfg visit.1 after visit.2 (unopened visit member (draining visit member)) moved

-- One session is open when the drain is set; its child exits, and the server ends.
theorem draining_refuses_quit : ∃ s0 s,
    Run.play (next twoSlots) (initServer twoSlots [0, 1]) [.packet 0 padrFrame (some 77), .setDrain .quit] = some s0 ∧
    next twoSlots s0 (.childExit 77) = some s ∧ Dwindles s0 s ∧ s.running = false := by
  have scene : (Run.play (next twoSlots) (initServer twoSlots [0, 1])
    [.packet 0 padrFrame (some 77), .setDrain .quit]).any
      (fun s0 => s0.draining == .quit && (next twoSlots s0 (.childExit 77)).any fun s =>
        s.draining == .quit && s.numActiveSessions == 0) = true := by
    decide +kernel
  obtain ⟨s0, played, later⟩ := (Option.any_eq_true _ _).mp scene
  obtain ⟨mode, later⟩ := Bool.and_eq_true_iff.mp later
  obtain ⟨s, moved, last⟩ := (Option.any_eq_true _ _).mp later
  simp only [Bool.and_eq_true, beq_iff_eq] at mode last
  obtain ⟨dwindles, _, quits⟩ := draining_refuses twoSlots s0 s _ (Run.start.snoc _ _ _ _ moved)
    (by rw [Run.meets_snoc]; exact ⟨Run.meets_nil _, by rw [mode]; decide⟩)
    (by rw [Run.meets_snoc]; exact ⟨Run.meets_nil _, fun _ opens => opens⟩)
  exact ⟨s0, s, played, moved, dwindles, (quits s0 _ s moved last.1).mpr (.inl last.2)⟩

-- A PADR is served in the drain as at any other time.
theorem draining_admits : ¬ ∀ (cfg : Config) (order : List Nat), cfg.Valid order →
    ∀ visits s, Run (next cfg) (initServer cfg order) visits s → s.draining ≠ .off →
    ∀ event s', next cfg s event = some s' → s'.numActiveSessions ≤ s.numActiveSessions := by
  intro claimed
  have scene : (next twoSlots (initServer twoSlots [0, 1]) (.setDrain .on)).any (fun s =>
      s.draining == .on && s.numActiveSessions == 0 && (next twoSlots s (.packet 0 padrFrame (some 77))).any fun s' =>
        s'.numActiveSessions == 1) = true := by
    decide +kernel
  obtain ⟨s, moved, later⟩ := (Option.any_eq_true _ _).mp scene
  obtain ⟨mode, later⟩ := Bool.and_eq_true_iff.mp later
  obtain ⟨s', opened, one⟩ := (Option.any_eq_true _ _).mp later
  simp only [Bool.and_eq_true, beq_iff_eq] at mode one
  have fewer := claimed twoSlots [0, 1] twoSlots_valid _ s (Run.start.snoc _ _ _ _ moved)
    (by rw [mode.1]; decide) _ s' opened
  rw [one, mode.2] at fewer
  exact absurd fewer (by decide)

end ZyAgf.Pppoe.Server
