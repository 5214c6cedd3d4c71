import ZyAgf.Pppoe.ClientPhases

set_option autoImplicit false

namespace ZyAgf.Pppoe.Client

-- The client answers a PADO it may answer, and its peer is where that came from.
def Answering (cfg : Config) (w : Watch) : Prop :=
  ∃ pado, w.pado = some pado ∧ Acceptable cfg pado ∧ w.client.conn.peerEth = pado.hSource

def PadrFollowsPado (cfg : Config) (w : Watch) (event : Event) : Prop :=
  ∀ next frame, watch cfg w event = some next → .padr frame ∈ sends cfg w.client event →
    ∃ pado, next.pado = some pado ∧ Acceptable cfg pado ∧ ∀ sent, frame = some sent → sent.hDest = pado.hSource

-- The session that main enters is the one a clear PADS of the chosen access
-- concentrator has named.
def SessionNamed (cfg : Config) (w : Watch) : Prop :=
  w.client.conn.discoveryState = .session ∧
    ∃ pado pads, w.pado = some pado ∧ Acceptable cfg pado ∧ w.pads = some pads ∧ pads.code = codePADS ∧
      (∀ tag ∈ tagsOf pads, errorTag tag.type = false) ∧ pads.hSource = pado.hSource ∧
      w.client.conn.session = pads.session ∧ w.client.conn.peerEth = pads.hSource

theorem buildFrame_hDest (dest source : Mac) (code : UInt8) (tags : List PPPoETag) (frame : PPPoEPacket)
    (built : buildFrame dest source code tags = some frame) : frame.hDest = dest := by
  obtain ⟨payload, _, rfl⟩ := Option.map_eq_some_iff.mp built
  rfl

theorem padrRound_follows (cfg : Config) (client : Process) (attempts : Nat) (frame : Option PPPoEPacket)
    (sent : .padr frame ∈ (padrRound cfg client attempts).2) :
    ∀ packet, frame = some packet → packet.hDest = client.conn.peerEth := by
  rintro packet rfl
  have same := List.mem_singleton.mp sent
  exact buildFrame_hDest _ _ _ _ packet (Sending.padr.inj same).symm

theorem padiRound_no_padr (cfg : Config) (client : Process) (attempts : Nat) (frame : Option PPPoEPacket) :
    .padr frame ∉ (padiRound cfg client attempts).2 := by
  intro sent
  cases List.mem_singleton.mp sent

-- The invariant of a run that never gives up: whoever waits for a PADS has
-- answered a PADO of this round, and a session has been named.
def Founded (cfg : Config) (w : Watch) : Prop :=
  match w.client.place with
  | .waitForPADS _ => Answering cfg w
  | .session => SessionNamed cfg w
  | _ => True

theorem founded_turn (cfg : Config) (w next : Watch) (event : Event) (out : List Sending)
    (turn : Turn cfg w.client event next.client out) (seen : next = observed w event next.client)
    (founded : Founded cfg w) (searches : givesUpPADO cfg w.client event = false) :
    (∀ frame, .padr frame ∈ out →
      ∃ pado, next.pado = some pado ∧ Acceptable cfg pado ∧ ∀ sent, frame = some sent → sent.hDest = pado.hSource) ∧
    (Founded cfg next ∨ givesUpPADS cfg w.client event = true ∧ next.client.place = .session) := by
  obtain ⟨client, pado, pads⟩ := next
  dsimp only at turn seen ⊢
  cases turn with
  | searching attempts packet size conn waiting state =>
      refine ⟨fun frame sent => absurd sent List.not_mem_nil, .inl ?_⟩
      simp only [Founded, waiting]
  | dropped attempts packet size waiting =>
      refine ⟨fun frame sent => absurd sent List.not_mem_nil, .inl ?_⟩
      simp only [observed, waiting] at seen
      simp only [Founded, waiting] at founded ⊢
      rw [seen]
      exact founded
  | rejected attempts packet size waiting =>
      refine ⟨fun frame sent => absurd sent List.not_mem_nil, .inl ?_⟩
      simp only [observed, waiting] at seen
      simp only [Founded, waiting] at founded ⊢
      rw [seen]
      exact founded
  | leaves _ _ gone =>
      refine ⟨fun frame sent => absurd sent List.not_mem_nil, .inl ?_⟩
      simp only [Founded, gone]
  | restarts _ from_ attempts =>
      exact ⟨fun frame sent => absurd sent (padiRound_no_padr cfg from_ attempts frame), .inl trivial⟩
  | answers attempts packet size conn waiting sized acceptable peer =>
      simp only [observed, waiting, padrRound, heard, Watch.mk.injEq, true_and] at seen
      obtain ⟨rfl, rfl⟩ := seen
      have follows := padrRound_follows cfg { w.client with conn := conn } 1
      refine ⟨fun frame sent => ⟨packet, rfl, acceptable, fun built same => ?_⟩, .inl ⟨packet, rfl, acceptable, peer⟩⟩
      exact (follows frame sent built same).trans peer
  | answersNothing attempts _ waiting gave =>
      rw [gave] at searches
      cases searches
  | repeats attempts waiting =>
      simp only [observed, waiting, padrRound, Watch.mk.injEq, true_and] at seen
      obtain ⟨rfl, rfl⟩ := seen
      simp only [Founded, waiting] at founded
      obtain ⟨chosen, known, acceptable, peer⟩ := founded
      have follows := padrRound_follows cfg w.client (attempts + 1)
      refine ⟨fun frame sent => ⟨chosen, known, acceptable, fun built same => ?_⟩,
        .inl ⟨chosen, known, acceptable, peer⟩⟩
      exact (follows frame sent built same).trans peer
  | opens attempts packet size conn waiting once sent clear peer state session =>
      refine ⟨fun frame sent => absurd sent List.not_mem_nil, .inl ?_⟩
      simp only [observed, waiting, heard, Watch.mk.injEq, true_and] at seen
      obtain ⟨rfl, rfl⟩ := seen
      simp only [Founded, waiting] at founded
      obtain ⟨chosen, known, acceptable, source⟩ := founded
      exact ⟨state, chosen, packet, known, acceptable, rfl, sent.2.2, clear, sent.1.trans source, session,
        peer.trans sent.1.symm⟩
  | opensUnanswered attempts _ waiting once gave =>
      exact ⟨fun frame sent => absurd sent List.not_mem_nil, .inr ⟨gave, rfl⟩⟩

theorem main_waits (cfg : Config) (discovers : cfg.skipDiscovery = false) :
    (watchMain cfg).client.place = .waitForPADO 1 := by
  unfold watchMain main
  rw [if_neg (by simp [discovers])]
  rfl

theorem main_founded (cfg : Config) : Founded cfg (watchMain cfg) ∨ (watchMain cfg).client.place = .session := by
  unfold watchMain main
  split
  · split
    · exact .inl trivial
    · split
      · exact .inl trivial
      · rcases afterDiscovery_cases cfg _ with ⟨next, ends, gone⟩ | ⟨floods, from_, ends, _⟩ | ⟨single, ends⟩
        · rw [ends]
          simp [Founded, gone]
        · rw [ends]
          exact .inl trivial
        · rw [ends]
          exact .inr rfl
  · exact .inl trivial

theorem session_ends (cfg : Config) (w next : Watch) (event : Event) (ended : w.client.place = .session)
    (moved : watch cfg w event = some next) : False := by
  simp [watch, step, ended] at moved

theorem gaveUp_answers (cfg : Config) (client : Process) (event : Event) (phased : Phased client)
    (gave : givesUpPADO cfg client event = true) : step cfg client event = some (padrRound cfg client 1) := by
  obtain ⟨conn, place, floods⟩ := client
  cases place with
  | waitForPADO attempts =>
      cases event with
      | receive packet size => cases gave
      | timeOut =>
          simp only [givesUpPADO, Bool.and_eq_true, decide_eq_true_eq, Bool.not_eq_true'] at gave
          obtain ⟨⟨spent, once⟩, silent⟩ := gave
          have state : conn.discoveryState = .sentPADI := phased
          have spentAll : attempts + 1 > maxPadiAttempts := by omega
          simp [step, afterPADO, secondPhase, silent, once, state, spentAll]
  | waitForPADS attempts => cases gave
  | session => cases gave
  | exited => cases gave

-- Every PADR of a run answers an acceptable PADO of its round exactly when the
-- client never gives up waiting for one.
theorem padr_after_pado (cfg : Config) {visits : List (Watch × Event)} {finish : Watch}
    (run : Run (watch cfg) (watchMain cfg) visits finish) :
    Run.Meets (PadrFollowsPado cfg) visits ↔
      Run.Meets (fun w event => givesUpPADO cfg w.client event = false) visits := by
  constructor
  · intro follows visit member
    obtain ⟨earlier, next, reaches, _, moved⟩ := Run.visit_split run visit member
    by_contra gave
    have gave : givesUpPADO cfg visit.1.client visit.2 = true := by simpa using gave
    have phased := watch_phased cfg reaches
    have answered := gaveUp_answers cfg visit.1.client visit.2 phased gave
    have sent : sendPADR cfg visit.1.client.conn ∈ sends cfg visit.1.client visit.2 := by
      simp [sends, answered, padrRound]
    obtain ⟨pado, known, _⟩ := follows visit member next _ moved sent
    have unheard : next.pado = none := by
      rw [watch, answered] at moved
      obtain rfl := Option.some.inj moved
      unfold givesUpPADO at gave
      split at gave
      next attempts waiting timed => simp [observed, waiting, padrRound, timed, heard]
      next => cases gave
    rw [unheard] at known
    cases known
  · intro searches
    refine Run.each_step _ (fun w => (Founded cfg w ∨ w.client.place = .session) ∧ Phased w.client)
      ⟨main_founded cfg, main_phased cfg⟩ ?_ (PadrFollowsPado cfg) ?_ run searches
    · rintro w event next ⟨founded | ended, phased⟩ patient moved
      · obtain ⟨turn, seen⟩ := watch_turn cfg w next event phased moved
        refine ⟨?_, turn_phased cfg w.client next.client event _ turn phased⟩
        exact (founded_turn cfg w next event _ turn seen founded patient).2.imp id And.right
      · exact (session_ends cfg w next event ended moved).elim
    · rintro w event ⟨founded | ended, phased⟩ patient next frame moved sent
      · obtain ⟨turn, seen⟩ := watch_turn cfg w next event phased moved
        exact (founded_turn cfg w next event _ turn seen founded patient).1 frame sent
      · exact (session_ends cfg w next event ended moved).elim

-- A client that asks for any service, and an access concentrator that answers.
def anyService : Config where
  myEth := macAddr 2 0 0 0 0 1
  serviceName := none
  acName := none
  hostUniq := none
  existing := none
  noDiscoverySocket := false
  killSession := false
  printACNames := false
  persist := false
  optSkipSession := false
  optFloodDiscovery := 0
  serviceNameFits := by simp
  hostUniqFits := by simp

def acMac : Mac := macAddr 2 0 0 0 0 9

def fromAC (code : UInt8) (session : UInt16) (tags : List PPPoETag) : PPPoEPacket where
  hDest := anyService.myEth
  hSource := acMac
  vertype := pppoeVerType
  code := code
  session := session
  length := (tags.flatMap tagBytes).length
  payload := tags.flatMap tagBytes

def padoFrame (more : List PPPoETag) : PPPoEPacket :=
  fromAC codePADO 0 ([⟨tagAcName, [97]⟩, ⟨tagServiceName, []⟩] ++ more)

def padsFrame : PPPoEPacket := fromAC codePADS 0x0100 [⟨tagServiceName, []⟩]

-- The client after a number of time-outs, and while it waits for its PADS.
def searching (attempts : Nat) : Watch :=
  ⟨⟨clearConnection anyService, .waitForPADO attempts, 0⟩, none, none⟩

def answered (pado : Option PPPoEPacket) (peer : Mac) (attempts : Nat) : Watch :=
  ⟨⟨{ clearConnection anyService with discoveryState := .sentPADR, peerEth := peer, numPADOs := pado.toList.length },
    .waitForPADS attempts, 0⟩, pado, none⟩

theorem searching_on (attempts : Nat) (early : attempts < maxPadiAttempts) :
    watch anyService (searching attempts) .timeOut = some (searching (attempts + 1)) := by
  have more : ¬ attempts + 1 > maxPadiAttempts := by omega
  simp [watch, step, searching, afterPADO, more, anyService, clearConnection, observed, padiRound]

theorem answered_on (pado : Option PPPoEPacket) (peer : Mac) (attempts : Nat) (early : attempts < maxPadiAttempts) :
    watch anyService (answered pado peer attempts) .timeOut = some (answered pado peer (attempts + 1)) := by
  have more : ¬ attempts + 1 > maxPadiAttempts := by omega
  simp [watch, step, answered, afterPADS, more, observed, padrRound]

theorem answers_offer :
    watch anyService (searching 1) (.receive (padoFrame []) none) = some (answered (some (padoFrame [])) acMac 1) := by
  decide +kernel

theorem padr_after_pado_offered :
    Run.Meets (PadrFollowsPado anyService) [(watchMain anyService, .receive (padoFrame []) none)] :=
  (padr_after_pado anyService (Run.start.snoc _ _ _ _ answers_offer)).mpr (by
    rw [Run.meets_snoc _ []]
    exact ⟨Run.meets_nil _, by decide⟩)

-- Three time-outs and the client sends a PADR to the address of zeros.
theorem padr_unanswered : ¬ ∀ (cfg : Config) (visits : List (Watch × Event)) (finish : Watch),
    Run (watch cfg) (watchMain cfg) visits finish → Run.Meets (PadrFollowsPado cfg) visits := by
  intro claimed
  have last : watch anyService (searching 3) .timeOut = some (answered none (Vector.replicate 6 0) 1) := by
    decide +kernel
  have run := (((Run.start.snoc _ _ _ _ (searching_on 1 (by decide))).snoc _ _ _ _ (searching_on 2 (by decide))).snoc _
    _ _ _ last)
  have sent : sendPADR anyService (searching 3).client.conn ∈ sends anyService (searching 3).client .timeOut := by
    decide +kernel
  have follows := claimed anyService _ _ run (searching 3, .timeOut) (by simp)
  obtain ⟨pado, known, _⟩ := follows _ _ last sent
  cases known

-- A run that has given up has no PADO of its round, and without floods it never
-- comes to another round.
structure Lost (cfg : Config) (w : Watch) : Prop where
  once : cfg.persist = false
  unnamed : w.client.place = .session → ¬ SessionNamed cfg w
  unanswered : cfg.optFloodDiscovery = 0 →
    (∀ attempts, w.client.place ≠ .waitForPADO attempts) ∧
    (∀ attempts, w.client.place = .waitForPADS attempts → w.pado = none)

theorem lost_elsewhere (cfg : Config) (w : Watch) (once : cfg.persist = false) (place : w.client.place ≠ .session)
    (unanswered : cfg.optFloodDiscovery = 0 →
      (∀ attempts, w.client.place ≠ .waitForPADO attempts) ∧
        (∀ attempts, w.client.place = .waitForPADS attempts → w.pado = none)) : Lost cfg w :=
  ⟨once, fun ended => absurd ended place, unanswered⟩

theorem gaveUp_once (cfg : Config) (client : Process) (event : Event)
    (gave : givesUpPADO cfg client event = true ∨ givesUpPADS cfg client event = true) : cfg.persist = false := by
  rcases gave with gave | gave
  · unfold givesUpPADO at gave
    split at gave
    · simp only [Bool.and_eq_true, Bool.not_eq_true'] at gave
      exact gave.1.2
    · cases gave
  · unfold givesUpPADS at gave
    split at gave
    · simp only [Bool.and_eq_true, Bool.not_eq_true'] at gave
      exact gave.2
    · cases gave

theorem lost_turn (cfg : Config) (w next : Watch) (event : Event) (out : List Sending)
    (turn : Turn cfg w.client event next.client out) (seen : next = observed w event next.client)
    (phased : Phased w.client)
    (lost : Lost cfg w ∨ givesUpPADO cfg w.client event = true ∨ givesUpPADS cfg w.client event = true) :
    Lost cfg next := by
  have once : cfg.persist = false := by
    rcases lost with lost | gave
    · exact lost.once
    · exact gaveUp_once cfg w.client event gave
  obtain ⟨client, pado, pads⟩ := next
  dsimp only at turn seen
  cases turn with
  | searching attempts packet size conn waiting state =>
      simp only [givesUpPADO, givesUpPADS, waiting, Bool.false_eq_true, or_false] at lost
      exact lost_elsewhere cfg _ once (by simp [waiting]) fun single =>
        absurd waiting ((lost.unanswered single).1 attempts)
  | dropped attempts packet size waiting =>
      simp only [givesUpPADO, givesUpPADS, waiting, Bool.false_eq_true, or_false] at lost
      simp only [observed, waiting] at seen
      rw [seen]
      exact lost
  | rejected attempts packet size waiting =>
      simp only [givesUpPADO, givesUpPADS, waiting, Bool.false_eq_true, or_false] at lost
      simp only [observed, waiting, Watch.mk.injEq, true_and] at seen
      obtain ⟨rfl, rfl⟩ := seen
      refine lost_elsewhere cfg _ once (by simp [waiting]) fun single => ⟨by simp [waiting], fun _ _ => ?_⟩
      exact (lost.unanswered single).2 attempts waiting
  | leaves _ _ gone => exact lost_elsewhere cfg _ once (by simp [gone]) fun _ => ⟨by simp [gone], by simp [gone]⟩
  | restarts _ from_ attempts source cause =>
      refine lost_elsewhere cfg _ once (by simp [padiRound]) fun single => ?_
      rcases cause single with ⟨⟨before, waiting⟩, patient⟩ | persists
      · rcases lost with lost | gave | gave
        · exact absurd waiting ((lost.unanswered single).1 before)
        · rw [gave] at patient
          cases patient
        · simp [givesUpPADS, waiting] at gave
      · rw [once] at persists
        cases persists
  | answers attempts packet size conn waiting =>
      simp only [givesUpPADO, givesUpPADS, waiting, Bool.false_eq_true, or_false] at lost
      exact lost_elsewhere cfg _ once (by simp [padrRound]) fun single =>
        absurd waiting ((lost.unanswered single).1 attempts)
  | answersNothing attempts _ waiting gave =>
      simp only [observed, waiting, padrRound, Watch.mk.injEq, true_and] at seen
      have unheard : heard event = none := by
        cases event with
        | timeOut => rfl
        | receive packet size => simp [givesUpPADO, waiting] at gave
      refine lost_elsewhere cfg _ once (by simp [padrRound]) fun _ => ⟨by simp [padrRound], fun _ _ => ?_⟩
      exact seen.1.trans unheard
  | repeats attempts waiting more =>
      have few : ¬ maxPadiAttempts ≤ attempts := by omega
      simp only [givesUpPADO, givesUpPADS, waiting, few, decide_false, Bool.false_and, Bool.false_eq_true,
        or_false] at lost
      simp only [observed, waiting, padrRound, Watch.mk.injEq, true_and] at seen
      obtain ⟨rfl, rfl⟩ := seen
      refine lost_elsewhere cfg _ once (by simp [padrRound]) fun single => ⟨by simp [padrRound], fun _ _ => ?_⟩
      exact (lost.unanswered single).2 attempts waiting
  | opens attempts packet size conn waiting single =>
      simp only [givesUpPADO, givesUpPADS, waiting, Bool.false_eq_true, or_false] at lost
      simp only [observed, waiting, heard, Watch.mk.injEq, true_and] at seen
      obtain ⟨rfl, rfl⟩ := seen
      have absent := (lost.unanswered single).2 attempts waiting
      refine ⟨once, fun _ named => ?_, fun _ => ⟨by simp, by simp⟩⟩
      obtain ⟨_, chosen, _, known, _⟩ := named
      rw [absent] at known
      cases known
  | opensUnanswered attempts _ waiting single gave =>
      simp only [Phased, waiting] at phased
      refine ⟨once, fun _ named => ?_, fun _ => ⟨by simp, by simp⟩⟩
      have state := named.1
      rw [phased] at state
      cases state

def GivesUp (cfg : Config) (w : Watch) (event : Event) : Prop :=
  givesUpPADO cfg w.client event = true ∨ givesUpPADS cfg w.client event = true

-- The session main enters is one that the chosen access concentrator has named
-- exactly when no loop of discovery gave up on the way.
theorem session_after_pads (cfg : Config) (discovers : cfg.skipDiscovery = false) {visits : List (Watch × Event)}
    {finish : Watch} (run : Run (watch cfg) (watchMain cfg) visits finish) (entered : finish.client.place = .session) :
    SessionNamed cfg finish ↔ Run.Meets (fun w event => ¬ GivesUp cfg w event) visits := by
  have either : Run.Meets (fun w event => ¬ GivesUp cfg w event) visits ∨ Lost cfg finish := by
    clear entered
    induction run with
    | start => exact .inl (Run.meets_nil _)
    | snoc visits w next event before moved earlier =>
        have phased := watch_phased cfg before
        obtain ⟨turn, seen⟩ := watch_turn cfg w next event phased moved
        have after := lost_turn cfg w next event _ turn seen phased
        by_cases gave : GivesUp cfg w event
        · exact .inr (after (.inr gave))
        · rcases earlier with patient | lost
          · exact .inl ((Run.meets_snoc _ visits w event).mpr ⟨patient, gave⟩)
          · exact .inr (after (.inl lost))
  constructor
  · intro named
    rcases either with patient | lost
    · exact patient
    · exact absurd named (lost.unnamed entered)
  · intro patient
    have started : Founded cfg (watchMain cfg) := by simp [Founded, main_waits cfg discovers]
    have founded : Founded cfg finish ∧ Phased finish.client := by
      refine Run.invariant (fun w event => ¬ GivesUp cfg w event) (fun w => Founded cfg w ∧ Phased w.client)
        ⟨started, main_phased cfg⟩ ?_ run patient
      rintro w event next ⟨founded, phased⟩ patient moved
      obtain ⟨turn, seen⟩ := watch_turn cfg w next event phased moved
      have searches : givesUpPADO cfg w.client event = false := by
        by_contra gave
        exact patient (.inl (by simpa using gave))
      refine ⟨?_, turn_phased cfg w.client next.client event _ turn phased⟩
      rcases (founded_turn cfg w next event _ turn seen founded searches).2 with onward | ⟨gave, _⟩
      · exact onward
      · exact absurd (.inr gave) patient
    have named := founded.1
    simp only [Founded, entered] at named
    exact named

theorem session_after_pads_opened :
    SessionNamed anyService ⟨⟨{ (answered (some (padoFrame [])) acMac 1).client.conn with
      discoveryState := .session, session := 0x0100 }, .session, 0⟩, some (padoFrame []), some padsFrame⟩ := by
  have opens : watch anyService (answered (some (padoFrame [])) acMac 1) (.receive padsFrame none) = some
      ⟨⟨{ (answered (some (padoFrame [])) acMac 1).client.conn with discoveryState := .session, session := 0x0100 },
        .session, 0⟩, some (padoFrame []), some padsFrame⟩ := by
    decide +kernel
  refine (session_after_pads anyService rfl ((Run.start.snoc _ _ _ _ answers_offer).snoc _ _ _ _ opens) rfl).mpr ?_
  rw [Run.meets_snoc, Run.meets_snoc _ []]
  exact ⟨⟨Run.meets_nil _, by simp [GivesUp, givesUpPADO, givesUpPADS, watchMain, main, padiRound]⟩,
    by simp [GivesUp, givesUpPADO, givesUpPADS, answered]⟩

-- The access concentrator answers the PADI and none of the three PADRs: main
-- enters the session with the state that waitForPADS left and with number zero.
theorem session_unnamed : ¬ ∀ (cfg : Config) (visits : List (Watch × Event)) (finish : Watch),
    cfg.skipDiscovery = false → Run (watch cfg) (watchMain cfg) visits finish → finish.client.place = .session →
    SessionNamed cfg finish := by
  intro claimed
  let w := answered (some (padoFrame [])) acMac
  have last : watch anyService (w 3) .timeOut = some
    { w 3 with client := { (w 3).client with place := .session } } := by
    decide +kernel
  have run := (((Run.start.snoc _ _ _ _ answers_offer).snoc _ _ _ _ (answered_on _ acMac 1 (by decide))).snoc _ _ _ _
    (answered_on _ acMac 2 (by decide))).snoc _ _ _ _ last
  have named := claimed anyService _ _ rfl run rfl
  cases named.1

end ZyAgf.Pppoe.Client
