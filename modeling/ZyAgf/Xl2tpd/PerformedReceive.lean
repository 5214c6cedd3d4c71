import ZyAgf.Xl2tpd.PerformedDaemon

set_option autoImplicit false

namespace ZyAgf.Xl2tpd

section Receiving

variable {env : Env} {allowed : Op → Prop} (closesDown : ∀ op : Op, op.ClosesDown → allowed op)

include closesDown

omit closesDown in
theorem getCall_performed (tunnel call : Nat) (peer : SockAddr) (refhim : Nat) (ok : allowed (.newTunnel peer refhim)) :
    Does env allowed (getCall env tunnel call peer refhim) := by
  intro d found d' ran
  by_cases numbered : tunnel = 0
  · unfold getCall at ran
    rw [if_pos numbered] at ran
    refine Prog.within_ite _ _ _ _ (fun _ => Prog.within_pure _ _) (fun _ => ?_) d found d' ran
    exact addTunnel_performed peer refhim ok
  · rw [getCall_same env tunnel call peer refhim d d' found numbered ran]
    exact Prog.Steady.refl d

end Receiving

def Op.On (c : CallPtr) : Op → Prop
  | .takeLocal other _ => other = c
  | _ => True

theorem on_of_closesDown (c : CallPtr) (op : Op) (closesDown : op.ClosesDown) : op.On c := by
  cases op <;> trivial

theorem on_of_parses (t : TunnelPtr) (c : CallPtr) (op : Op) (parses : op.Parses t c) : op.On c := by
  cases op <;> trivial

theorem on_of_finishes (t : TunnelPtr) (c : CallPtr) (m : Msg) (op : Op) (finishes : op.Finishes t c m) : op.On c := by
  cases op with
  | takeLocal other addr => cases m <;> first | exact finishes | cases finishes
  | _ => trivial

theorem on_of_finishesAs (t : TunnelPtr) (c : CallPtr) (msgtype : Int) (op : Op)
    (finishes : op.FinishesAs t c msgtype) :
    op.On c := by
  cases op with
  | takeLocal other addr =>
      unfold Op.FinishesAs at finishes
      split at finishes
      next => cases finishes
      next =>
        split at finishes
        next => cases finishes
        next =>
          split at finishes
          next m _ => exact on_of_finishes t c m _ finishes
          next => cases finishes
  | _ => trivial

section Whole

variable {env : Env}

theorem checkControl_does {allowed : Op → Prop} (buf : RecvBuffer) (t : TunnelPtr) (c : CallPtr)
    (ok : allowed (.check buf t c)) :
    Does env allowed (checkControl buf t c) := by
  intro d bad d' ran
  refine performed_op (.check buf t c) d d' ok ?_
  show (checkControl buf t c d).map Prod.snd = some d'
  rw [ran]
  rfl

theorem takeZlb_does {allowed : Op → Prop} (t : TunnelPtr) (c : CallPtr) (ok : allowed (.zlb t c)) :
    Does env allowed (takeZlb t c) := by
  intro d u d' ran
  refine performed_op (.zlb t c) d d' ok ?_
  show (takeZlb t c d).map Prod.snd = some d'
  rw [ran]
  rfl

theorem handleControl_on (buf : RecvBuffer) (t : TunnelPtr) (c : CallPtr) :
    Does env (Op.On c) (handleControl env buf t c) := by
  unfold handleControl
  refine Prog.within_bind (checkControl_does buf t c trivial) fun bad => ?_
  refine Prog.within_ite _ _ _ _ (fun _ => Prog.within_pure _ _) fun _ => ?_
  refine Prog.within_bind (mark_performed c (-1) trivial) fun _ => Prog.within_ite _ _ _ _ (fun _ => ?_) fun _ => ?_
  · exact Prog.within_bind (takeZlb_does t c trivial) fun _ => Prog.within_pure _ _
  refine Prog.within_bind (handleAvps_does t c (on_of_parses t c) buf) fun failed => ?_
  refine Prog.within_ite _ _ _ _ (fun _ => Prog.within_pure _ _) fun _ => ?_
  intro d result d' ran
  exact performed_weaken _ (on_of_finishesAs t c _) d d' (controlFinish_performed t c d d' result ran)

theorem receiveOnCall_on (buf : RecvBuffer) (c : CallPtr) : Does env (Op.On c) (receiveOnCall env buf c) := by
  have closesDown := on_of_closesDown c
  unfold receiveOnCall
  refine Prog.within_bind (readCall_within _ c) fun cal =>
    Prog.within_bind (closesDown_setTunnel closesDown _ _ fun _ => rfl) fun _ => ?_
  refine Prog.within_bind ?_ fun _ => acknowledge_within (closesDown_tiesOnly closesDown) c
  exact Prog.within_ite _ _ _ _ (fun _ => handleControl_on _ _ c) fun _ =>
    handlePayload_within (closesDown_tiesOnly closesDown) _ _ c

def Reaches (cfg : Config) (d : Daemon) (event : Event) (c : CallPtr) : Prop :=
  ∃ peer refhim datagram buf found, event.occurs = .datagram peer refhim datagram ∧
    Delivered { toConfig := cfg, toWorld := event.world } d peer refhim datagram buf found c

def Op.Concerns (cfg : Config) (d : Daemon) (event : Event) : Op → Prop
  | .takeLocal c _ => Reaches cfg d event c
  | _ => True

theorem concerns_of_manages (cfg : Config) (d : Daemon) (event : Event) (op : Op) (manages : op.Manages) :
    op.Concerns cfg d event := by
  cases op <;> trivial

theorem concerns_of_on (cfg : Config) (d : Daemon) (event : Event) (c : CallPtr) (reaches : Reaches cfg d event c)
    (op : Op)
    (on : op.On c) : op.Concerns cfg d event := by
  cases op with
  | takeLocal other addr =>
      obtain rfl : other = c := on
      exact reaches
  | _ => trivial

theorem receive_concerns (cfg : Config) (d d' : Daemon) (event : Event) (peer : SockAddr) (refhim : Nat)
    (datagram : RecvBuffer)
    (occurs : event.occurs = .datagram peer refhim datagram) (u : PUnit)
    (ran : receive { toConfig := cfg, toWorld := event.world } peer refhim datagram d = some (u, d')) :
    Performed { toConfig := cfg, toWorld := event.world } (Op.Concerns cfg d event) d d' := by
  unfold receive at ran
  split at ran
  next =>
    obtain ⟨_, rfl⟩ := (Prog.pure_some _ _ _ _).mp ran
    exact Prog.Steady.refl _
  next long =>
    obtain ⟨answer, d₁, looked, ran⟩ := (Prog.bind_some _ _ _ _ _).mp ran
    refine Prog.Steady.trans _ _ _ (getCall_performed _ _ peer refhim trivial d answer d₁ looked) ?_
    cases answer with
    | some c =>
        have reaches : Reaches cfg d event c :=
          ⟨peer, refhim, datagram, _, d₁, occurs, Nat.le_of_not_lt long, rfl, looked⟩
        exact performed_weaken _ (concerns_of_on cfg d event c reaches) d₁ d' (receiveOnCall_on _ c d₁ u d' ran)
    | none =>
        have closesDown : ∀ op : Op, op.ClosesDown → op.Concerns cfg d event := fun op closesDown => by
          cases op <;> trivial
        exact receiveOnTunnel_within (closesDown_tiesOnly closesDown)
          (fun _ _ _ => checkControl_does _ _ _ trivial) _ _ _ d₁ u d' ran

theorem next_performed (cfg : Config) (d d' : Daemon) (event : Event) (moved : next cfg d event = some d') :
    Performed { toConfig := cfg, toWorld := event.world } (Op.Concerns cfg d event) d d' := by
  unfold next at moved
  obtain ⟨⟨u, after⟩, ran, rfl⟩ := Option.map_eq_some_iff.mp moved
  by_cases received : ∃ peer refhim datagram, event.occurs = .datagram peer refhim datagram
  · obtain ⟨peer, refhim, datagram, occurs⟩ := received
    rw [occurs] at ran
    exact receive_concerns cfg d after event peer refhim datagram occurs u ran
  · have other : ∀ peer refhim datagram, event.occurs ≠ .datagram peer refhim datagram :=
      fun peer refhim datagram occurs => received ⟨peer, refhim, datagram, occurs⟩
    exact performed_weaken _ (concerns_of_manages cfg d event) d after (handle_manages event.occurs other d u after ran)

end Whole

end ZyAgf.Xl2tpd
