import ZyAgf.Xl2tpd.ControlStep

set_option autoImplicit false

namespace ZyAgf.Xl2tpd

open Serial

-- What a peer has acknowledged only grows, and never takes in a number that no
-- message had when the acknowledgement came.
def AckSane (cfg : Config) (d : Daemon) (event : Event) : Prop :=
  ∀ d', next cfg d event = some d' → ∀ t, Reached (d.tunnel t).cLr (d'.tunnel t).cLr (d.tunnel t).controlSeqNum

-- The message check_control takes in order acknowledges something between what
-- was acknowledged last and what was sent.
def AckInWindow (cfg : Config) (d : Daemon) (event : Event) : Prop :=
  ∀ p, presentation cfg d event = some p → inOrder p.buf p.tun = true →
    Reached p.tun.cLr (controlHdr p.buf.mem).Nr p.tun.controlSeqNum

instance (cfg : Config) (d : Daemon) (event : Event) : Decidable (AckInWindow cfg d event) :=
  decidable_of_iff ((presentation cfg d event).all (fun p => !inOrder p.buf p.tun ||
      decide (Reached p.tun.cLr (controlHdr p.buf.mem).Nr p.tun.controlSeqNum)) = true) <| by
    simp only [Option.all_eq_true, Bool.or_eq_true, Bool.not_eq_true', decide_eq_true_eq, ← Bool.not_eq_true]
    exact forall_congr' fun p => imp_congr_right fun _ => Decidable.imp_iff_not_or.symm

theorem channelAfter_ack (buf : RecvBuffer) (onEntry : Bool) (tun : Tunnel) :
    (channelAfter buf onEntry tun).2 = if inOrder buf tun then (controlHdr buf.mem).Nr else tun.cLr := by
  unfold channelAfter
  split <;> rfl

theorem ack_presented (cfg : Config) (d d' : Daemon) (event : Event) (p : Presentation) (linked : Linked d)
    (presented : presentation cfg d event = some p) (moved : next cfg d event = some d') (t : TunnelPtr) :
    (d'.tunnel t).cLr =
      if t = p.t ∧ inOrder p.buf p.tun = true then (controlHdr p.buf.mem).Nr else (d.tunnel t).cLr := by
  have changed := congrArg Prod.snd (next_presented cfg d d' event p linked presented moved t)
  have kept := congrArg Prod.snd ((presented_kept cfg d event p linked presented).2 t).1
  change (d'.tunnel t).cLr = _ at changed
  change (p.found.tunnel t).cLr = (d.tunnel t).cLr at kept
  rw [changed]
  by_cases here : t = p.t
  · rw [if_pos here, channelAfter_ack]
    by_cases expected : inOrder p.buf p.tun = true
    · rw [if_pos expected, if_pos ⟨here, expected⟩]
    · rw [if_neg expected, if_neg fun both => expected both.2, ← kept, here]
      rfl
  · rw [if_neg here, if_neg fun both => here both.1]
    rfl

theorem ackSane_iff (cfg : Config) (d d' : Daemon) (event : Event) (linked : Linked d)
    (moved : next cfg d event = some d') :
    AckSane cfg d event ↔ AckInWindow cfg d event := by
  cases presented : presentation cfg d event with
  | none =>
      refine iff_of_true (fun after went t => ?_) fun p some => by rw [presented] at some; cases some
      obtain rfl := Option.some.inj (moved.symm.trans went)
      have kept := congrArg Prod.snd (next_unpresented cfg d d' event linked presented moved t)
      change (d'.tunnel t).cLr = (d.tunnel t).cLr at kept
      rw [kept]
      exact reached_self _ _
  | some p =>
      have acked := ack_presented cfg d d' event p linked presented moved
      have kept := (presented_kept cfg d event p linked presented).2 p.t
      have before : p.tun.cLr = (d.tunnel p.t).cLr := congrArg Prod.snd kept.1
      have sent : p.tun.controlSeqNum = (d.tunnel p.t).controlSeqNum := kept.2
      constructor
      · intro sane p' some expected
        obtain rfl := Option.some.inj (presented.symm.trans some)
        have reached := sane d' moved p.t
        rw [acked p.t, if_pos ⟨rfl, expected⟩] at reached
        rw [before, sent]
        exact reached
      · intro window after went t
        obtain rfl := Option.some.inj (moved.symm.trans went)
        rw [acked t]
        by_cases taken : t = p.t ∧ inOrder p.buf p.tun = true
        · obtain ⟨rfl, expected⟩ := taken
          rw [if_pos ⟨rfl, expected⟩, ← before, ← sent]
          exact window p presented expected
        · rw [if_neg taken]
          exact reached_self _ _

theorem next_linked (cfg : Config) (d d' : Daemon) (event : Event) (linked : Linked d)
    (moved : next cfg d event = some d') :
    Linked d' :=
  linked_of_performed _ _ d d' linked (next_performed cfg d d' event moved)

-- In every run, acknowledgements are sane at every step if and only if each one
-- that is taken lies in the window.
theorem acknowledgements_sane (cfg : Config) (deflns : Option Lns) (lnslist : List Lns) (deflac : Option Lac)
    (laclist : List Lac) {visits : List (Daemon × Event)} {finish : Daemon}
    (run : Run (next cfg) (initDaemon deflns lnslist deflac laclist) visits finish) :
    Run.Meets (AckSane cfg) visits ↔ Run.Meets (AckInWindow cfg) visits := by
  have each (visit : Daemon × Event) (member : visit ∈ visits) :
      AckSane cfg visit.1 visit.2 ↔ AckInWindow cfg visit.1 visit.2 := by
    obtain ⟨earlier, d', reaches, _, moved⟩ := Run.visit_split run visit member
    have linked : Linked visit.1 :=
      Run.invariant (fun _ _ => True) Linked (linked_init deflns lnslist deflac laclist)
        (fun d event d' held _ done => next_linked cfg d d' event held done) reaches (Run.meets_always earlier)
    exact ackSane_iff cfg visit.1 d' visit.2 linked moved
  constructor
  · exact fun sane visit member => (each visit member).mp (sane visit member)
  · exact fun window visit member => (each visit member).mpr (window visit member)

-- A ZLB of the peer of a tunnel we started, with this acknowledgement.
def ackEvent (nr : U16) : Event := ⟨plainWorld, controlFrame 513 0 0 nr []⟩

def ackTaken (nr : U16) (d : Daemon) : Bool := (next plainConfig d (ackEvent nr)).any fun d' => (d'.tunnel 0).cLr == nr

theorem ack_run (nr : U16) (fact : Daemon → Bool)
    (seen : (next plainConfig (initDaemon none [] none []) startTunnelEvent).any
    (fun d => fact d && ackTaken nr d) = true) :
    ∃ d₁ d₂, Run (next plainConfig) (initDaemon none [] none [])
      [(initDaemon none [] none [], startTunnelEvent), (d₁, ackEvent nr)] d₂ ∧
      next plainConfig d₁ (ackEvent nr) = some d₂ ∧ (d₂.tunnel 0).cLr = nr ∧ fact d₁ = true := by
  obtain ⟨d₁, started, facts⟩ := (Option.any_eq_true _ _).mp seen
  obtain ⟨fact, acks⟩ := (Bool.and_eq_true _ _).mp facts
  obtain ⟨d₂, moved, acked⟩ := (Option.any_eq_true _ _).mp acks
  exact ⟨d₁, d₂, (Run.start.snoc [] _ _ startTunnelEvent started).snoc _ _ _ _ moved, moved, beq_iff_eq.mp acked, fact⟩

-- The tunnel's own message is acknowledged.
theorem acknowledgements_sane_first : ∃ d₁ d₂,
    Run (next plainConfig) (initDaemon none [] none [])
      [(initDaemon none [] none [], startTunnelEvent), (d₁, ackEvent 1)] d₂ ∧ (d₂.tunnel 0).cLr = 1 ∧
    Run.Meets (AckSane plainConfig) [(initDaemon none [] none [], startTunnelEvent), (d₁, ackEvent 1)] := by
  obtain ⟨d₁, d₂, run, _, acked, window⟩ :=
    ack_run 1 (fun d => decide (AckInWindow plainConfig d (ackEvent 1))) (by decide +kernel)
  refine ⟨d₁, d₂, run, acked, (acknowledgements_sane plainConfig none [] none [] run).mpr ?_⟩
  intro visit member
  rcases List.mem_cons.mp member with rfl | later
  · intro p presented
    cases presented
  · obtain rfl := List.mem_singleton.mp later
    exact of_decide_eq_true window

-- A peer acknowledges messages that were never sent.
theorem acknowledgement_ahead : ¬ ∀ (cfg : Config) (deflns : Option Lns) (lnslist : List Lns) (deflac : Option Lac)
    (laclist : List Lac) (visits : List (Daemon × Event)) (finish : Daemon),
    Run (next cfg) (initDaemon deflns lnslist deflac laclist) visits finish → Run.Meets (AckSane cfg) visits := by
  intro claimed
  obtain ⟨d₁, d₂, run, moved, acked, before⟩ :=
    ack_run 65535 (fun d => (d.tunnel 0).cLr == 0 && (d.tunnel 0).controlSeqNum == 1) (by decide +kernel)
  have reached := claimed plainConfig none [] none [] _ _ run (d₁, ackEvent 65535) (by simp) d₂ moved 0
  simp only [Bool.and_eq_true, beq_iff_eq] at before
  rw [acked, before.1, before.2] at reached
  revert reached
  decide

end ZyAgf.Xl2tpd
