import ZyAgf.Pppoe.ClientDiscovery

set_option autoImplicit false

namespace ZyAgf.Pppoe.Client

-- The state that discovery leaves in the connection while it waits.
def Phased (client : Process) : Prop :=
  match client.place with
  | .waitForPADO _ => client.conn.discoveryState = .sentPADI
  | .waitForPADS _ => client.conn.discoveryState = .sentPADR
  | _ => True

-- The last attempt of a loop has timed out and nothing makes it start again.
def givesUpPADO (cfg : Config) (client : Process) (event : Event) : Bool :=
  match client.place, event with
  | .waitForPADO attempts, .timeOut => maxPadiAttempts ≤ attempts && !cfg.persist && !cfg.printACNames
  | _, _ => false

def givesUpPADS (cfg : Config) (client : Process) (event : Event) : Bool :=
  match client.place, event with
  | .waitForPADS attempts, .timeOut => maxPadiAttempts ≤ attempts && !cfg.persist
  | _, _ => false

-- Everything one event can do to a waiting client.
inductive Turn (cfg : Config) (client : Process) : Event → Process → List Sending → Prop where
  | searching (attempts : Nat) (packet : PPPoEPacket) (size : Option Nat) (conn : Connection)
      (waiting : client.place = .waitForPADO attempts) (state : conn.discoveryState = .sentPADI)
      (stored : Typed client.conn → Typed conn) :
      Turn cfg client (.receive packet size) { client with conn := conn } []
  | dropped (attempts : Nat) (packet : PPPoEPacket) (size : Option Nat)
    (waiting : client.place = .waitForPADS attempts) :
      Turn cfg client (.receive packet size) client []
  | rejected (attempts : Nat) (packet : PPPoEPacket) (size : Option Nat)
    (waiting : client.place = .waitForPADS attempts)
      (sized : lengthOk packet size = true) (sent : FromPeer cfg client.conn packet)
      (bad : ∃ tag ∈ tagsOf packet, errorTag tag.type = true) :
      Turn cfg client (.receive packet size) { client with conn := { client.conn with
        padsHadError := true, relayId := heldTag tagRelaySessionId client.conn.relayId (tagsOf packet) } } []
  | leaves (event : Event) (next : Process) (gone : next.place = .exited) : Turn cfg client event next []
  | restarts (event : Event) (from_ : Process) (attempts : Nat)
      (source : (∃ before, client.place = .waitForPADO before) ∨ ∃ before, client.place = .waitForPADS before)
      (cause : cfg.optFloodDiscovery = 0 →
        (∃ before, client.place = .waitForPADO before) ∧ givesUpPADO cfg client event = false ∨ cfg.persist = true)
      (stored : Typed client.conn → Typed from_.conn) :
      Turn cfg client event (padiRound cfg from_ attempts).1 (padiRound cfg from_ attempts).2
  | answers (attempts : Nat) (packet : PPPoEPacket) (size : Option Nat) (conn : Connection)
      (waiting : client.place = .waitForPADO attempts) (sized : lengthOk packet size = true)
      (acceptable : Acceptable cfg packet) (peer : conn.peerEth = packet.hSource)
      (stored : Overwritten (tagsOf packet) client.conn conn) :
      Turn cfg client (.receive packet size) (padrRound cfg { client with conn := conn } 1).1
        (padrRound cfg { client with conn := conn } 1).2
  | answersNothing (attempts : Nat) (event : Event) (waiting : client.place = .waitForPADO attempts)
      (gave : givesUpPADO cfg client event = true) :
      Turn cfg client event (padrRound cfg client 1).1 (padrRound cfg client 1).2
  | repeats (attempts : Nat) (waiting : client.place = .waitForPADS attempts) (more : attempts < maxPadiAttempts) :
      Turn cfg client .timeOut (padrRound cfg client (attempts + 1)).1 (padrRound cfg client (attempts + 1)).2
  | opens (attempts : Nat) (packet : PPPoEPacket) (size : Option Nat) (conn : Connection)
      (waiting : client.place = .waitForPADS attempts) (once : cfg.optFloodDiscovery = 0)
      (sent : FromPeer cfg client.conn packet) (clear : ∀ tag ∈ tagsOf packet, errorTag tag.type = false)
      (peer : conn.peerEth = client.conn.peerEth) (state : conn.discoveryState = .session)
      (session : conn.session = packet.session) :
      Turn cfg client (.receive packet size) { client with conn := conn, place := .session } []
  | opensUnanswered (attempts : Nat) (event : Event) (waiting : client.place = .waitForPADS attempts)
      (once : cfg.optFloodDiscovery = 0) (gave : givesUpPADS cfg client event = true) :
      Turn cfg client event { client with place := .session } []

theorem afterPADO_turn (cfg : Config) (client : Process) (attempts : Nat)
    (waiting : client.place = .waitForPADO attempts) (state : client.conn.discoveryState = .sentPADI) :
    Turn cfg client .timeOut (afterPADO cfg client attempts).1 (afterPADO cfg client attempts).2 := by
  unfold afterPADO
  split
  next named =>
    unfold secondPhase
    rw [if_pos named.1]
    exact .leaves _ _ rfl
  next =>
    split
    next spent =>
      split
      next persists => exact .restarts _ client 0 (.inl ⟨attempts, waiting⟩) (fun _ => .inr persists) id
      next once =>
        unfold secondPhase
        split
        · exact .leaves _ _ rfl
        next silent =>
          apply Turn.answersNothing attempts _ waiting
          simp only [givesUpPADO, waiting]
          have enough : maxPadiAttempts ≤ attempts := by omega
          simp [enough, once, silent]
    next more =>
      have early : givesUpPADO cfg client .timeOut = false := by
        have few : ¬ maxPadiAttempts ≤ attempts := by omega
        simp [givesUpPADO, waiting, few]
      exact .restarts _ client (attempts + 1) (.inl ⟨attempts, waiting⟩) (fun _ => .inl ⟨⟨attempts, waiting⟩, early⟩) id

theorem afterPADO_accepted (cfg : Config) (client : Process) (attempts : Nat) (silent : cfg.printACNames = false)
    (state : client.conn.discoveryState = .receivedPADO) : afterPADO cfg client attempts = padrRound cfg client 1 := by
  unfold afterPADO secondPhase
  rw [if_neg (by simp [silent]), if_neg (by simp [state]), if_neg (by simp [silent])]

theorem afterDiscovery_cases (cfg : Config) (client : Process) :
    (∃ next, afterDiscovery cfg client = (next, []) ∧ next.place = .exited) ∨
    (cfg.optFloodDiscovery ≠ 0 ∧ ∃ from_, afterDiscovery cfg client = padiRound cfg from_ 1 ∧
      (Typed client.conn → Typed from_.conn)) ∨
    (cfg.optFloodDiscovery = 0 ∧ afterDiscovery cfg client = ({ client with place := .session }, [])) := by
  unfold afterDiscovery
  split
  next floods =>
    dsimp only
    split
    · exact .inr (.inl ⟨by omega, _, rfl, id⟩)
    · exact .inl ⟨_, rfl, rfl⟩
  next once =>
    split
    · exact .inl ⟨_, rfl, rfl⟩
    · exact .inr (.inr ⟨by omega, rfl⟩)

theorem afterPADS_turn (cfg : Config) (client : Process) (attempts : Nat)
    (waiting : client.place = .waitForPADS attempts) (state : client.conn.discoveryState = .sentPADR) :
    Turn cfg client .timeOut (afterPADS cfg client attempts).1 (afterPADS cfg client attempts).2 := by
  unfold afterPADS
  rw [if_pos state]
  split
  next spent =>
    split
    next persists => exact .restarts _ client 1 (.inr ⟨attempts, waiting⟩) (fun _ => .inr persists) id
    next once =>
      rcases afterDiscovery_cases cfg client with ⟨next, ends, gone⟩ | ⟨floods, from_, ends, stored⟩ | ⟨single, ends⟩
      · rw [ends]
        exact .leaves _ next gone
      · rw [ends]
        exact .restarts _ from_ 1 (.inr ⟨attempts, waiting⟩) (fun none => absurd none floods) stored
      · rw [ends]
        apply Turn.opensUnanswered attempts _ waiting single
        simp only [givesUpPADS, waiting]
        have enough : maxPadiAttempts ≤ attempts := by omega
        simp [enough, once]
  next more => exact .repeats attempts waiting (by omega)

theorem step_turn (cfg : Config) (client next : Process) (event : Event) (out : List Sending) (phased : Phased client)
    (moved : step cfg client event = some (next, out)) : Turn cfg client event next out := by
  obtain ⟨was, place, floods⟩ := client
  unfold Phased at phased
  cases place with
  | session => simp [step] at moved
  | exited => simp [step] at moved
  | waitForPADO attempts =>
      dsimp only at phased
      cases event with
      | timeOut =>
          simp only [step, Option.some.injEq] at moved
          have turn := afterPADO_turn cfg ⟨was, .waitForPADO attempts, floods⟩ attempts rfl phased
          rw [moved] at turn
          exact turn
      | receive packet size =>
          simp only [step] at moved
          split at moved
          next sized =>
            cases received : cfg.request.receivePADO was packet with
            | none =>
                simp only [received] at moved
                obtain ⟨rfl, rfl⟩ := Prod.mk.inj (Option.some.inj moved)
                exact .leaves _ _ rfl
            | some conn =>
                simp only [received] at moved
                rcases receivePADO_accepts cfg was conn packet received phased with
                  ⟨state, stored⟩ | ⟨state, silent, acceptable, peer, stored⟩
                · rw [if_neg (by simp [state])] at moved
                  obtain ⟨rfl, rfl⟩ := Prod.mk.inj (Option.some.inj moved)
                  exact .searching attempts packet size conn rfl state stored
                · rw [if_pos state, afterPADO_accepted cfg
                    ⟨conn, .waitForPADO attempts, floods⟩ attempts silent state] at moved
                  obtain ⟨rfl, rfl⟩ := Prod.mk.inj (Option.some.inj moved)
                  exact .answers attempts packet size conn rfl sized acceptable peer stored
          next =>
            obtain ⟨rfl, rfl⟩ := Prod.mk.inj (Option.some.inj moved)
            exact .searching attempts packet size was rfl phased id
  | waitForPADS attempts =>
      dsimp only at phased
      cases event with
      | timeOut =>
          simp only [step, Option.some.injEq] at moved
          have turn := afterPADS_turn cfg ⟨was, .waitForPADS attempts, floods⟩ attempts rfl phased
          rw [moved] at turn
          exact turn
      | receive packet size =>
          simp only [step] at moved
          split at moved
          next sized =>
            rcases receivePADS_cases cfg was packet with ⟨_, same⟩ | ⟨sent, bad, stored⟩ | ⟨sent, clear, stored⟩
            · rw [same, if_neg (by simp [phased])] at moved
              obtain ⟨rfl, rfl⟩ := Prod.mk.inj (Option.some.inj moved)
              exact .dropped attempts packet size rfl
            · rw [stored, if_neg (by simp [phased])] at moved
              obtain ⟨rfl, rfl⟩ := Prod.mk.inj (Option.some.inj moved)
              exact .rejected attempts packet size rfl sized sent bad
            · rw [stored, if_pos rfl] at moved
              have padsTyped : Typed was → Typed
                { was with relayId := heldTag tagRelaySessionId was.relayId (tagsOf packet) } :=
                fun typed => ⟨typed.1, heldTag_type tagRelaySessionId was.relayId (tagsOf packet) typed.2⟩
              unfold afterPADS at moved
              rw [if_neg (by simp)] at moved
              rcases afterDiscovery_cases cfg _ with ⟨next', ends, gone⟩ | ⟨floods, from_, ends, left⟩ | ⟨single, ends⟩
              · rw [ends] at moved
                obtain ⟨rfl, rfl⟩ := Prod.mk.inj (Option.some.inj moved)
                exact .leaves _ _ gone
              · rw [ends] at moved
                obtain ⟨rfl, rfl⟩ := Prod.mk.inj (Option.some.inj moved)
                exact .restarts _ from_ 1 (.inr ⟨attempts, rfl⟩) (fun none => absurd none floods) fun typed =>
                  left (padsTyped typed)
              · rw [ends] at moved
                obtain ⟨rfl, rfl⟩ := Prod.mk.inj (Option.some.inj moved)
                exact .opens attempts packet size _ rfl single sent clear rfl rfl rfl
          next =>
            obtain ⟨rfl, rfl⟩ := Prod.mk.inj (Option.some.inj moved)
            exact .dropped attempts packet size rfl

theorem turn_phased (cfg : Config) (client next : Process) (event : Event) (out : List Sending)
    (turn : Turn cfg client event next out) (phased : Phased client) : Phased next := by
  cases turn with
  | searching attempts packet size conn waiting state =>
      simp only [Phased, waiting]
      exact state
  | dropped => exact phased
  | rejected attempts packet size waiting =>
      simp only [Phased, waiting] at phased ⊢
      exact phased
  | leaves _ _ gone => simp [Phased, gone]
  | restarts => rfl
  | answers => rfl
  | answersNothing => rfl
  | repeats => rfl
  | opens => trivial
  | opensUnanswered => trivial

-- A client together with the PADO that ended waitForPADO in this round and the
-- PADS that ended waitForPADS. A PADI begins a round in which there is neither.
structure Watch where
  client : Process
  pado : Option PPPoEPacket
  pads : Option PPPoEPacket
deriving DecidableEq

def heard (event : Event) : Option PPPoEPacket :=
  match event with
  | .receive packet _ => some packet
  | .timeOut => none

def observed (w : Watch) (event : Event) (client : Process) : Watch :=
  match w.client.place, client.place with
  | _, .waitForPADO _ => ⟨client, none, none⟩
  | .waitForPADO _, .waitForPADS _ => ⟨client, heard event, none⟩
  | .waitForPADS _, .session => ⟨client, w.pado, heard event⟩
  | _, _ => { w with client := client }

def watch (cfg : Config) (w : Watch) (event : Event) : Option Watch :=
  (step cfg w.client event).map fun moved => observed w event moved.1

def sends (cfg : Config) (client : Process) (event : Event) : List Sending :=
  ((step cfg client event).map Prod.snd).getD []

def watchMain (cfg : Config) : Watch := ⟨(main cfg).1, none, none⟩

@[simp] theorem observed_client (w : Watch) (event : Event) (client : Process) :
    (observed w event client).client = client := by
  unfold observed
  split <;> rfl

theorem watch_turn (cfg : Config) (w next : Watch) (event : Event) (phased : Phased w.client)
    (moved : watch cfg w event = some next) :
    Turn cfg w.client event next.client (sends cfg w.client event) ∧ next = observed w event next.client := by
  obtain ⟨⟨client, out⟩, stepped, rfl⟩ := Option.map_eq_some_iff.mp moved
  have turn := step_turn cfg w.client client event out phased stepped
  simpa [sends, stepped] using turn

theorem main_phased (cfg : Config) : Phased (watchMain cfg).client := by
  unfold watchMain main
  split
  · split
    · trivial
    · split
      · trivial
      · rcases afterDiscovery_cases cfg _ with ⟨next, ends, gone⟩ | ⟨floods, from_, ends, stored⟩ | ⟨single, ends⟩
        · rw [ends]
          simp [Phased, gone]
        · rw [ends]
          rfl
        · rw [ends]
          trivial
  · rfl

theorem watch_phased (cfg : Config) {visits : List (Watch × Event)} {finish : Watch}
    (run : Run (watch cfg) (watchMain cfg) visits finish) : Phased finish.client := by
  refine Run.invariant (fun _ _ => True) (fun w => Phased w.client) (main_phased cfg) ?_ run (Run.meets_always visits)
  intro w event next phased _ moved
  obtain ⟨turn, _⟩ := watch_turn cfg w next event phased moved
  exact turn_phased cfg w.client next.client event _ turn phased

end ZyAgf.Pppoe.Client
