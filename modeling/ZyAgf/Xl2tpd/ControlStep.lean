import ZyAgf.Xl2tpd.Duplicates
import ZyAgf.Xl2tpd.Linked

set_option autoImplicit false

namespace ZyAgf.Xl2tpd

def Tunnel.channel (tun : Tunnel) : U16 × U16 := (tun.controlRecSeqNum, tun.cLr)

theorem channel_of_core {tun new : Tunnel} (same : new.core = tun.core) : new.channel = tun.channel :=
  congrArg (fun core : TunnelCore => (core.controlRecSeqNum, core.cLr)) same

-- Only check_control and its undoing for a ZLB move them.
def Op.Quiet : Op → Prop
  | .check _ _ _ | .zlb _ _ => False
  | _ => True

def ChannelKept (d d' : Daemon) : Prop := Linked d → Linked d' ∧ ∀ t, (d'.tunnel t).channel = (d.tunnel t).channel

instance : Prog.Steady ChannelKept where
  refl _ := fun linked => ⟨linked, fun _ => rfl⟩
  trans := by
    intro d d' d'' first second linked
    obtain ⟨middle, one⟩ := first linked
    obtain ⟨last, two⟩ := second middle
    exact ⟨last, fun t => (two t).trans (one t)⟩

theorem channel_made (d d' : Daemon) (linked : Linked d) (t : TunnelPtr) (new : Tunnel) (fresh : new.channel = (0, 0))
    (elsewhere : ∀ t, t ≠ d.fresh → d'.tunnel t = d.tunnel t) (here : d'.tunnel d.fresh = new) :
    (d'.tunnel t).channel = (d.tunnel t).channel := by
  by_cases same : t = d.fresh
  · rw [same, here, fresh, linked.blank d.fresh (Nat.le_refl _)]
    rfl
  · rw [elsewhere t same]

theorem perform_channel (env : Env) (d d' : Daemon) (op : Op) (quiet : op.Quiet) (linked : Linked d)
    (done : perform env d op = some d') (t : TunnelPtr) : (d'.tunnel t).channel = (d.tunnel t).channel := by
  by_cases still : op.Retunnels
  · have effect := perform_effect env d d' op done
    have written (other : TunnelPtr) (new : Tunnel) (same : new.channel = (d.tunnel other).channel) :
        (write d.tunnel other new t).channel = (d.tunnel t).channel :=
          write_same d.tunnel Tunnel.channel other new same t
    cases op with
    | raise other m new =>
        obtain ⟨_, core, rfl⟩ := effect
        exact written other new (congrArg (fun core : TunnelCore => (core.controlRecSeqNum, core.cLr)) core)
    | choose other l =>
        obtain ⟨_, rfl⟩ := effect
        exact written other _ rfl
    | challenge other chal =>
        obtain ⟨_, rfl⟩ := effect
        exact written other _ rfl
    | newTunnel peer refhim =>
        rcases effect with rfl | rfl | rfl
        · rfl
        · exact channel_made d _ linked t _ rfl (withLostTunnel_elsewhere env d) (withLostTunnel_here env d)
        · exact channel_made d _ linked t _ rfl (withTunnel_elsewhere env d peer refhim)
            (withTunnel_here env d peer refhim)
    | newCall other =>
        rcases effect with rfl | ⟨_, rfl⟩
        · rfl
        · exact written other _ rfl
    | destroyCall c =>
        obtain ⟨_, _, rest, _, rfl⟩ := effect
        exact written (d.call c).container _ rfl
    | bury other =>
        obtain ⟨_, _, rfl⟩ := effect
        exact written other _ rfl
    | check buf other c => exact quiet.elim
    | zlb other c => exact quiet.elim
    | _ => exact still.elim
  · exact channel_of_core (perform_tunnelCore env d d' op still done t)

theorem channelKept_of_performed (env : Env) (allowed : Op → Prop) (quiet : ∀ op, allowed op → op.Quiet) (d d' : Daemon)
    (performed : Performed env allowed d d') : ChannelKept d d' := by
  intro linked
  obtain ⟨visits, run, meets⟩ := performed linked.listed
  refine Run.invariant (fun _ op => allowed op)
    (fun s => Linked s ∧ ∀ t, (s.tunnel t).channel = (d.tunnel t).channel) ⟨linked, fun _ => rfl⟩ ?_ run meets
  rintro s op s' ⟨there, same⟩ ok done
  exact ⟨perform_linked env s s' op there done,
    fun t => (perform_channel env s s' op (quiet op ok) there done t).trans (same t)⟩

theorem quiet_of_closesDown (op : Op) (closesDown : op.ClosesDown) : op.Quiet := by
  cases op <;> trivial

theorem quiet_of_dials (op : Op) (dials : op.Dials) : op.Quiet := by
  cases op <;> trivial

theorem quiet_of_manages (op : Op) (manages : op.Manages) : op.Quiet := by
  cases op <;> trivial

theorem quiet_of_parses (t : TunnelPtr) (c : CallPtr) (op : Op) (parses : op.Parses t c) : op.Quiet := by
  cases op <;> trivial

theorem quiet_of_finishes (t : TunnelPtr) (c : CallPtr) (m : Msg) (op : Op)
    (finishes : op.Finishes t c m) : op.Quiet := by
  cases op with
  | check buf t c => cases m <;> exact finishes
  | zlb t c => cases m <;> exact finishes
  | _ => trivial

theorem quiet_of_finishesAs (t : TunnelPtr) (c : CallPtr) (msgtype : Int) (op : Op)
    (finishes : op.FinishesAs t c msgtype) :
    op.Quiet := by
  unfold Op.FinishesAs at finishes
  split at finishes
  next => exact quiet_of_closesDown op finishes
  next =>
    split at finishes
    next => exact quiet_of_dials op finishes
    next =>
      split at finishes
      next m _ => exact quiet_of_finishes t c m op finishes
      next => exact quiet_of_closesDown op finishes

theorem getCall_found (env : Env) (tunnel call : Nat) (peer : SockAddr) (refhim : Nat) (d found : Daemon)
    (answer : Option CallPtr) (looked : getCall env tunnel call peer refhim d = some (answer, found)) :
    found = d ∨ found = withLostTunnel env d ∨ found = withTunnel env d peer refhim := by
  by_cases numbered : tunnel = 0
  · unfold getCall at looked
    rw [if_pos numbered] at looked
    split at looked
    next =>
      obtain ⟨_, rfl⟩ := (Prog.pure_some _ _ _ _).mp looked
      exact .inl rfl
    next =>
      rcases addTunnel_some env peer refhim d found answer looked with ⟨_, _, same | lost⟩ | ⟨_, _, _, made⟩
      · exact .inl same
      · exact .inr (.inl lost)
      · exact .inr (.inr made)
  · exact .inl (getCall_same env tunnel call peer refhim d found answer numbered looked)

theorem getCall_kept (env : Env) (tunnel call : Nat) (peer : SockAddr) (refhim : Nat) (d found : Daemon)
    (answer : Option CallPtr) (looked : getCall env tunnel call peer refhim d = some (answer, found)) : ChannelKept d
    found :=
  channelKept_of_performed env Op.Quiet (fun _ quiet => quiet) d found
    (getCall_performed tunnel call peer refhim trivial d answer found looked)

theorem getCall_controlSeqNum (env : Env) (tunnel call : Nat) (peer : SockAddr) (refhim : Nat) (d found : Daemon)
    (answer : Option CallPtr) (linked : Linked d)
    (looked : getCall env tunnel call peer refhim d = some (answer, found))
    (t : TunnelPtr) : (found.tunnel t).controlSeqNum = (d.tunnel t).controlSeqNum := by
  have blank := linked.blank d.fresh (Nat.le_refl _)
  rcases getCall_found env tunnel call peer refhim d found answer looked with rfl | rfl | rfl
  · rfl
  · by_cases same : t = d.fresh
    · rw [same, withLostTunnel_here, blank]
      rfl
    · rw [withLostTunnel_elsewhere env d t same]
  · by_cases same : t = d.fresh
    · rw [same, withTunnel_here, blank]
      rfl
    · rw [withTunnel_elsewhere env d peer refhim t same]

-- What becomes of the counters of the tunnel a message comes in on. For a ZLB
-- that passes, the receive counter is taken back on the way through an entry.
def channelAfter (buf : RecvBuffer) (onEntry : Bool) (tun : Tunnel) : U16 × U16 :=
  if inOrder buf tun then
    (if onEntry && isZlb buf && inOrderOk buf tun then tun.controlRecSeqNum else tun.controlRecSeqNum + 1,
      (controlHdr buf.mem).Nr)
  else tun.channel

theorem checkedTunnel_channel (buf : RecvBuffer) (tun : Tunnel) :
    (checkedTunnel buf tun).channel = channelAfter buf false tun := by
  unfold checkedTunnel channelAfter
  split <;> rfl

theorem channelAfter_entry (buf : RecvBuffer) (tun : Tunnel) (other : inOrderOk buf tun = false ∨ isZlb buf = false) :
    channelAfter buf true tun = channelAfter buf false tun := by
  unfold channelAfter
  rcases other with refused | full
  · rw [refused, Bool.and_false]
    rfl
  · rw [full]
    rfl

theorem linked_of_performed (env : Env) (allowed : Op → Prop) (d d' : Daemon) (linked : Linked d)
    (performed : Performed env allowed d d') : Linked d' := by
  obtain ⟨visits, run, meets⟩ := performed linked.listed
  exact Run.invariant _ Linked linked (fun s op s' there _ done => perform_linked env s s' op there done) run meets

-- One tunnel's counters have moved as its message says, and nobody else's.
def ChannelMoved (buf : RecvBuffer) (onEntry : Bool) (t : TunnelPtr) (d d' : Daemon) : Prop :=
  ∀ other, (d'.tunnel other).channel = if other = t then channelAfter buf onEntry
    (d.tunnel t) else (d.tunnel other).channel

theorem channelMoved_of_write (buf : RecvBuffer) (onEntry : Bool) (t : TunnelPtr) (d d' : Daemon) (new : Tunnel)
    (written : d'.tunnel = write d.tunnel t new) (moved : new.channel = channelAfter buf onEntry (d.tunnel t)) :
    ChannelMoved buf onEntry t d d' := by
  intro other
  rw [written]
  by_cases same : other = t
  · rw [if_pos same, same, write_here, moved]
  · rw [if_neg same, write_elsewhere _ _ _ _ same]

theorem channelMoved_then (buf : RecvBuffer) (onEntry : Bool) (t : TunnelPtr) (d middle d' : Daemon)
    (linked : Linked middle)
    (moved : ChannelMoved buf onEntry t d middle) (kept : ChannelKept middle d') : ChannelMoved buf onEntry t d d' :=
  fun other => ((kept linked).2 other).trans (moved other)

section Received

variable (env : Env) (buf : RecvBuffer) (t : TunnelPtr) (c : CallPtr) (d d' : Daemon)

include env in
theorem linked_of_checkControl (bad : Int) (linked : Linked d)
    (ran : checkControl buf t c d = some (bad, d')) : Linked d' :=
  linked_of_performed env (fun _ => True) d d' linked (checkControl_does buf t c trivial d bad d' ran)

theorem checkControl_channel (bad : Int) (ran : checkControl buf t c d = some (bad, d')) : ChannelMoved buf false t d
    d' := by
  obtain ⟨_, same⟩ := checkControl_some buf t c d d' bad ran
  exact channelMoved_of_write buf false t d d' _ (congrArg Daemon.tunnel same) (checkedTunnel_channel buf _)

theorem handled_quiet (bad : Int) (long : ¬ buf.len = controlHdrSize) : Does env Op.Quiet (do
    if bad ≠ 0 then return einval
    else do
      setCall c fun cal => { cal with msgtype := -1 }
      if buf.len = controlHdrSize then do
        takeZlb t c
        return 0
      else do
        let failed ← handleAvps env t c buf
        if failed ≠ 0 then return einval else controlFinish env t c) := by
  refine Prog.within_ite _ _ _ _ (fun _ => Prog.within_pure _ _) fun _ => ?_
  refine Prog.within_bind (mark_performed c (-1) trivial) fun _ => ?_
  rw [if_neg long]
  refine Prog.within_bind (handleAvps_does t c (quiet_of_parses t c) buf) fun failed => ?_
  refine Prog.within_ite _ _ _ _ (fun _ => Prog.within_pure _ _) fun _ => ?_
  intro d result d' ran
  exact performed_weaken _ (quiet_of_finishesAs t c _) d d' (controlFinish_performed t c d d' result ran)

theorem handleControl_channel (result : Int) (linked : Linked d)
    (ran : handleControl env buf t c d = some (result, d')) :
    ChannelMoved buf true t d d' := by
  cases passed : inOrderOk buf (d.tunnel t) with
  | false =>
      have refused := congrArg Daemon.tunnel (handleControl_refused env buf t c d d' result passed ran)
      refine channelMoved_of_write buf true t d d' _ refused ?_
      rw [checkedTunnel_channel, channelAfter_entry buf _ (.inl passed)]
  | true =>
      cases empty : isZlb buf with
      | true =>
          have taken := congrArg Daemon.tunnel (handleControl_zlb env buf t c d d' result passed empty ran)
          refine channelMoved_of_write buf true t d d' _ taken ?_
          have expected := passed
          simp only [inOrderOk, Bool.and_eq_true] at expected
          simp only [channelAfter, expected.1, passed, empty, if_true, Bool.and_self]
          rfl
      | false =>
          unfold handleControl at ran
          obtain ⟨bad, d₁, checked, ran⟩ := (Prog.bind_some _ _ _ _ _).mp ran
          have there := linked_of_checkControl env buf t c d d₁ bad linked checked
          have moved : ChannelMoved buf true t d d₁ := by
            intro other
            rw [checkControl_channel buf t c d d₁ bad checked other, channelAfter_entry buf _ (.inr empty)]
          refine channelMoved_then buf true t d d₁ d' there moved ?_
          refine channelKept_of_performed env Op.Quiet (fun _ quiet => quiet) d₁ d' ?_
          have long : ¬ buf.len = controlHdrSize := by simpa [isZlb] using empty
          refine handled_quiet env buf t c bad long d₁ result d' ran

theorem special_quiet (bad : Int) : Does env Op.Quiet (do
    if bad ≠ 0 ∨ buf.len = controlHdrSize then do
      setCall c fun cal => { cal with cid := 0 }
      return (0 : Int)
    else do
      controlZlb t c
      setCall c fun cal => { cal with cid := 0 }
      return 1) := by
  have closesDown := quiet_of_closesDown
  refine Prog.within_ite _ _ _ _ (fun _ => ?_) fun _ => ?_
  · exact Prog.within_bind (closesDown_setCall closesDown c _ fun _ => rfl) fun _ => Prog.within_pure _ _
  · refine Prog.within_bind (controlZlb_within (closesDown_tiesOnly closesDown) t c) fun _ => ?_
    exact Prog.within_bind (closesDown_setCall closesDown c _ fun _ => rfl) fun _ => Prog.within_pure _ _

include env in
theorem handleSpecial_channel (call : Nat) (result : Int) (linked : Linked d)
    (control : CTBIT (hostWord buf.mem 0) = true)
    (ran : handleSpecial buf c call d = some (result, d')) : ChannelMoved buf false (d.call c).container d d' := by
  unfold handleSpecial at ran
  obtain ⟨cal, d₁, read, chosen⟩ := (Prog.bind_some _ _ _ _ _).mp ran
  obtain ⟨_, rfl, rfl⟩ := (readCall_some _ _ _ _).mp read
  rw [if_neg (not_not_intro control)] at chosen
  obtain ⟨_, d₂, borrowed, after⟩ := (Prog.bind_some _ _ _ _ _).mp chosen
  obtain ⟨bad, d₃, checked, finished⟩ := (Prog.bind_some _ _ _ _ _).mp after
  have lent := linked_of_performed env Op.Quiet d₁ d₂ linked
    (closesDown_setCall quiet_of_closesDown c (fun cal => { cal with cid := call }) (fun _ => rfl) d₁ _ d₂ borrowed)
  have there := linked_of_checkControl env buf _ c d₂ d₃ bad lent checked
  have kept := channelKept_of_performed env Op.Quiet (fun _ quiet => quiet) d₃ d'
    (special_quiet env buf _ c bad d₃ result d' finished)
  obtain ⟨_, rfl⟩ := (setCall_some _ _ _ _ _).mp borrowed
  have moved := checkControl_channel buf _ c _ d₃ bad checked
  exact channelMoved_then buf false _ _ d₃ d' there moved kept

theorem receiveOnCall_channel (u : PUnit) (linked : Linked d) (control : CTBIT (hostWord buf.mem 0) = true)
    (ran : receiveOnCall env buf c d = some (u, d')) : ChannelMoved buf true (d.call c).container d d' := by
  unfold receiveOnCall at ran
  obtain ⟨cal, d₁, read, found⟩ := (Prog.bind_some _ _ _ _ _).mp ran
  obtain ⟨_, rfl, rfl⟩ := (readCall_some _ _ _ _).mp read
  obtain ⟨_, d₂, dropped, handles⟩ := (Prog.bind_some _ _ _ _ _).mp found
  obtain ⟨result, d₃, handled, acknowledges⟩ := (Prog.bind_some _ _ _ _ _).mp handles
  have forgets := channelKept_of_performed env Op.Quiet (fun _ quiet => quiet) d₁ d₂
    (closesDown_setTunnel quiet_of_closesDown (d₁.call c).container withoutVector (fun _ => rfl) d₁ _ d₂ dropped) linked
  rw [handlePacket_control _ _ _ _ control] at handled
  have there := linked_of_performed env _ d₂ d₃ forgets.1 (handleControl_on buf _ c d₂ result d₃ handled)
  have acked := channelKept_of_performed env Op.Quiet (fun _ quiet => quiet) d₃ d'
    (acknowledge_within (closesDown_tiesOnly quiet_of_closesDown) c d₃ u d' acknowledges)
  have moved := handleControl_channel env buf _ c d₂ d₃ result forgets.1 handled
  obtain ⟨_, rfl⟩ := (setTunnel_some _ _ _ _ _).mp dropped
  intro other
  simp only [(acked there).2 other, moved other, forgets.2 other, write_here]
  rfl

theorem receiveOnCall_data (u : PUnit) (data : ¬ CTBIT (hostWord buf.mem 0) = true)
    (ran : receiveOnCall env buf c d = some (u, d')) : ChannelKept d d' := by
  have closesDown := quiet_of_closesDown
  have does : Does env Op.Quiet (receiveOnCall env buf c) := by
    unfold receiveOnCall
    refine Prog.within_bind (readCall_within _ c) fun cal => ?_
    refine Prog.within_bind (closesDown_setTunnel closesDown _ _ fun _ => rfl) fun _ => ?_
    refine Prog.within_bind ?_ fun _ => acknowledge_within (closesDown_tiesOnly closesDown) c
    exact Prog.within_ite _ _ _ _ (fun control => (data control).elim) fun _ =>
      handlePayload_within (closesDown_tiesOnly closesDown) _ _ c
  exact channelKept_of_performed env Op.Quiet (fun _ quiet => quiet) d d' (does d u d' ran)

end Received

-- The control message that an event brings to check_control, and the state it is
-- found in: on the entry get_call answers with, or on the tunnel's own for a
-- call that the tunnel does not have.
structure Presentation where
  onEntry : Bool
  buf : RecvBuffer
  found : Daemon
  c : CallPtr

def Presentation.t (p : Presentation) : TunnelPtr := (p.found.call p.c).container

def Presentation.tun (p : Presentation) : Tunnel := p.found.tunnel p.t

def presentedBy (env : Env) (peer : SockAddr) (refhim : Nat) (buf : RecvBuffer) (d : Daemon) : Option Presentation :=
  match getCall env (extract buf.mem).1 (extract buf.mem).2 peer refhim d with
  | some (some c, found) => some ⟨true, buf, found, c⟩
  | some (none, found) =>
      match getTunnel (extract buf.mem).1 found with
      | some (some c, _) => some ⟨false, buf, found, c⟩
      | _ => none
  | none => none

def presentation (cfg : Config) (d : Daemon) (event : Event) : Option Presentation :=
  match event.occurs with
  | .datagram peer refhim datagram =>
      let buf : RecvBuffer := { datagram with mem := fixHdr datagram.mem }
      if minPayloadHdrLen ≤ datagram.len ∧ CTBIT (hostWord buf.mem 0) then
        presentedBy { toConfig := cfg, toWorld := event.world } peer refhim buf d
      else none
  | _ => none

theorem findTunnel_same (d d' : Daemon) (tid : Nat) (tunnels : List TunnelPtr) (found : Option TunnelPtr)
    (ran : findTunnel tid tunnels d = some (found, d')) : d' = d := by
  induction tunnels with
  | nil => exact ((Prog.pure_some _ _ _ _).mp ran).2.symm
  | cons t rest ih =>
      rw [findTunnel] at ran
      obtain ⟨tun, d₁, read, ran⟩ := (Prog.bind_some _ _ _ _ _).mp ran
      obtain ⟨_, rfl, rfl⟩ := (readTunnel_some _ _ _ _).mp read
      split at ran
      next => exact ((Prog.pure_some _ _ _ _).mp ran).2.symm
      next => exact ih ran

theorem getTunnel_same (d d' : Daemon) (tunnel : Nat) (own : Option CallPtr)
    (ran : getTunnel tunnel d = some (own, d')) :
    d' = d := by
  unfold getTunnel at ran
  obtain ⟨_, _, got, ran⟩ := (Prog.bind_some _ _ _ _ _).mp ran
  obtain ⟨rfl, rfl⟩ := (Prog.get_some _ _ _).mp got
  split at ran
  next => exact ((Prog.pure_some _ _ _ _).mp ran).2.symm
  next =>
    obtain ⟨answer, d₁, looked, ran⟩ := (Prog.bind_some _ _ _ _ _).mp ran
    obtain rfl := findTunnel_same _ d₁ tunnel _ answer looked
    cases answer with
    | none => exact ((Prog.pure_some _ _ _ _).mp ran).2.symm
    | some t =>
        obtain ⟨tun, d₂, read, ran⟩ := (Prog.bind_some _ _ _ _ _).mp ran
        obtain ⟨_, rfl, rfl⟩ := (readTunnel_some _ _ _ _).mp read
        exact ((Prog.pure_some _ _ _ _).mp ran).2.symm

structure Presented (env : Env) (d : Daemon) (p : Presentation) (peer : SockAddr) (refhim : Nat)
    (datagram : RecvBuffer) :
    Prop where
  control : CTBIT (hostWord p.buf.mem 0) = true
  onEntry : p.onEntry = true → Delivered env d peer refhim datagram p.buf p.found p.c
  onSelf : p.onEntry = false → DeliveredToSelf env d peer refhim datagram p.buf p.found p.c

theorem presentation_some (cfg : Config) (d : Daemon) (event : Event) (p : Presentation)
    (presented : presentation cfg d event = some p) : ∃ peer refhim datagram,
      event.occurs = .datagram peer refhim datagram ∧
      Presented { toConfig := cfg, toWorld := event.world } d p peer refhim datagram := by
  cases occurs : event.occurs with
  | datagram peer refhim datagram =>
      refine ⟨peer, refhim, datagram, rfl, ?_⟩
      unfold presentation presentedBy at presented
      simp only [occurs] at presented
      split at presented
      next taken =>
        obtain ⟨long, control⟩ := taken
        split at presented
        next c found looked =>
          obtain rfl := Option.some.inj presented
          exact ⟨control, fun _ => ⟨long, rfl, looked⟩, fun off => by cases off⟩
        next found looked =>
          split at presented
          next c own owned =>
            obtain rfl := Option.some.inj presented
            rw [getTunnel_same _ own _ _ owned] at owned
            refine ⟨control, fun on => ?_, fun _ => ⟨long, rfl, looked, owned⟩⟩
            cases on
          next => cases presented
        next => cases presented
      next => cases presented
  | _ =>
      unfold presentation at presented
      rw [occurs] at presented
      cases presented

section Steps

variable (cfg : Config) (d d' : Daemon) (event : Event)

theorem next_received (moved : next cfg d event = some d') (peer : SockAddr) (refhim : Nat) (datagram : RecvBuffer)
    (occurs : event.occurs = .datagram peer refhim datagram) :
    ∃ u, receive { toConfig := cfg, toWorld := event.world } peer refhim datagram d = some (u, d') := by
  unfold next at moved
  rw [occurs] at moved
  obtain ⟨⟨u, after⟩, ran, rfl⟩ := Option.map_eq_some_iff.mp moved
  exact ⟨u, ran⟩

theorem presented_kept (p : Presentation) (linked : Linked d) (presented : presentation cfg d event = some p) :
    Linked p.found ∧ ∀ t, (p.found.tunnel t).channel = (d.tunnel t).channel ∧
      (p.found.tunnel t).controlSeqNum = (d.tunnel t).controlSeqNum := by
  obtain ⟨peer, refhim, datagram, _, reaches⟩ := presentation_some cfg d event p presented
  obtain ⟨answer, looked⟩ : ∃ answer, getCall { toConfig := cfg, toWorld := event.world } (extract p.buf.mem).1
    (extract p.buf.mem).2
      peer refhim d = some (answer, p.found) := by
    cases entry : p.onEntry with
    | true => exact ⟨_, (reaches.onEntry entry).lookup⟩
    | false => exact ⟨_, (reaches.onSelf entry).lookup⟩
  have kept := getCall_kept _ _ _ peer refhim d p.found answer looked linked
  exact ⟨kept.1, fun t => ⟨kept.2 t, getCall_controlSeqNum _ _ _ peer refhim d p.found answer linked looked t⟩⟩

theorem next_presented (p : Presentation) (linked : Linked d) (presented : presentation cfg d event = some p)
    (moved : next cfg d event = some d') (t : TunnelPtr) :
    (d'.tunnel t).channel = if t = p.t then channelAfter p.buf p.onEntry p.tun else (d.tunnel t).channel := by
  obtain ⟨there, kept⟩ := presented_kept cfg d event p linked presented
  obtain ⟨peer, refhim, datagram, occurs, reaches⟩ := presentation_some cfg d event p presented
  obtain ⟨u, ran⟩ := next_received cfg d d' event moved peer refhim datagram occurs
  rw [← (kept t).1]
  cases entry : p.onEntry with
  | true =>
      have onCall := receive_delivered _ d d' p.found peer refhim datagram p.buf p.c u (reaches.onEntry entry) ran
      exact receiveOnCall_channel _ p.buf p.c p.found d' u there reaches.control onCall t
  | false =>
      obtain ⟨result, onSelf⟩ :=
        receive_deliveredToSelf _ d d' p.found peer refhim datagram p.buf p.c u (reaches.onSelf entry) ran
      exact handleSpecial_channel { toConfig := cfg, toWorld := event.world } p.buf p.c p.found d' _ result there
        reaches.control onSelf t

theorem next_unpresented (linked : Linked d) (silent : presentation cfg d event = none)
    (moved : next cfg d event = some d') :
    ∀ t, (d'.tunnel t).channel = (d.tunnel t).channel := by
  by_cases received : ∃ peer refhim datagram, event.occurs = .datagram peer refhim datagram
  · obtain ⟨peer, refhim, datagram, occurs⟩ := received
    obtain ⟨u, ran⟩ := next_received cfg d d' event moved peer refhim datagram occurs
    unfold presentation at silent
    simp only [occurs] at silent
    obtain ⟨buf, header⟩ : ∃ buf : RecvBuffer, buf = { datagram with mem := fixHdr datagram.mem } := ⟨_, rfl⟩
    have mem : fixHdr datagram.mem = buf.mem := by rw [header]
    unfold receive at ran
    rw [← header] at ran
    rw [← header, mem] at silent
    split at ran
    next =>
      obtain ⟨_, rfl⟩ := (Prog.pure_some _ _ _ _).mp ran
      exact fun _ => rfl
    next long =>
      obtain ⟨answer, d₁, looked, ran⟩ := (Prog.bind_some _ _ _ _ _).mp ran
      have found := getCall_kept _ _ _ peer refhim d d₁ _ looked linked
      cases answer with
      | some c =>
          have data : ¬ CTBIT (hostWord buf.mem 0) = true := by
            intro control
            rw [if_pos ⟨Nat.le_of_not_lt long, control⟩, presentedBy, looked] at silent
            cases silent
          have kept := receiveOnCall_data _ buf c d₁ d' u data ran found.1
          exact fun t => (kept.2 t).trans (found.2 t)
      | none =>
          obtain ⟨own, d₂, owned, onSelf⟩ := (Prog.bind_some _ _ _ _ _).mp ran
          have same := getTunnel_same d₁ d₂ _ own owned
          cases own with
          | none =>
              obtain ⟨_, rfl⟩ := (Prog.pure_some _ _ _ _).mp onSelf
              exact fun t => by rw [same, found.2 t]
          | some c =>
              have data : ¬ CTBIT (hostWord buf.mem 0) = true := by
                intro control
                rw [if_pos ⟨Nat.le_of_not_lt long, control⟩, presentedBy, looked] at silent
                simp only [owned] at silent
                cases silent
              obtain ⟨taken, d₃, special, done⟩ := (Prog.bind_some _ _ _ _ _).mp onSelf
              obtain ⟨_, rfl⟩ := (Prog.pure_some _ _ _ _).mp done
              unfold handleSpecial at special
              obtain ⟨cal, d₄, read, special⟩ := (Prog.bind_some _ _ _ _ _).mp special
              obtain ⟨_, rfl, rfl⟩ := (readCall_some _ _ _ _).mp read
              rw [if_pos data] at special
              obtain ⟨_, rfl⟩ := (Prog.pure_some _ _ _ _).mp special
              exact fun t => by rw [same, found.2 t]
  · have other : ∀ peer refhim datagram, event.occurs ≠ .datagram peer refhim datagram :=
      fun peer refhim datagram occurs => received ⟨peer, refhim, datagram, occurs⟩
    unfold next at moved
    obtain ⟨⟨u, after⟩, ran, rfl⟩ := Option.map_eq_some_iff.mp moved
    exact (channelKept_of_performed _ Op.Manages quiet_of_manages d after
      (handle_manages event.occurs other d u after ran) linked).2

end Steps

end ZyAgf.Xl2tpd
