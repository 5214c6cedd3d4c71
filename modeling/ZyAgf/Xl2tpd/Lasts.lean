import ZyAgf.Xl2tpd.TieSteps

set_option autoImplicit false

namespace ZyAgf.Xl2tpd

-- What holds of an old record goes on holding; new records are made behind them.
structure Lasts (ofTunnel : Tunnel → Bool) (ofCall : Call → Bool) (d d' : Daemon) : Prop where
  grows : d.fresh ≤ d'.fresh
  tunnel : ∀ t, t < d.fresh → ofTunnel (d.tunnel t) = true → ofTunnel (d'.tunnel t) = true
  call : ∀ c, c < d.fresh → ofCall (d.call c) = true → ofCall (d'.call c) = true

section Lasts

variable (ofTunnel : Tunnel → Bool) (ofCall : Call → Bool)

instance : Prog.Steady (Lasts ofTunnel ofCall) where
  refl _ := ⟨Nat.le_refl _, fun _ _ => id, fun _ _ => id⟩
  trans _ _ _ first second :=
    ⟨Nat.le_trans first.grows second.grows,
      fun t old holds => second.tunnel t (Nat.lt_of_lt_of_le old first.grows) (first.tunnel t old holds),
      fun c old holds => second.call c (Nat.lt_of_lt_of_le old first.grows) (first.call c old holds)⟩

-- It hangs on nothing but whether a record is there, where a call belongs and
-- whether it is closing.
structure Plain : Prop where
  tunnel : ∀ tun new : Tunnel, new.live = tun.live → ofTunnel tun = true → ofTunnel new = true
  call : ∀ cal new : Call, new.live = cal.live → new.container = cal.container →
    (cal.closing = true → new.closing = true) →
    ofCall cal = true → ofCall new = true

variable {ofTunnel : Tunnel → Bool} {ofCall : Call → Bool}

theorem lasts_records (d d' : Daemon) (grows : d.fresh ≤ d'.fresh) (tunnel : d'.tunnel = d.tunnel)
    (call : d'.call = d.call) :
    Lasts ofTunnel ofCall d d' :=
  ⟨grows, fun t _ holds => by rw [tunnel]; exact holds, fun c _ holds => by rw [call]; exact holds⟩

theorem lasts_tunnel (d : Daemon) (t : TunnelPtr) (new : Tunnel)
    (keeps : ofTunnel (d.tunnel t) = true → ofTunnel new = true) :
    Lasts ofTunnel ofCall d { d with tunnel := write d.tunnel t new } := by
  refine ⟨Nat.le_refl _, fun other _ holds => ?_, fun _ _ => id⟩
  by_cases same : other = t
  · subst same
    simpa using keeps holds
  · simpa [write_elsewhere _ _ _ _ same] using holds

theorem lasts_call (d : Daemon) (c : CallPtr) (new : Call) (keeps : ofCall (d.call c) = true → ofCall new = true) :
    Lasts ofTunnel ofCall d { d with call := write d.call c new } := by
  refine ⟨Nat.le_refl _, fun _ _ => id, fun other _ holds => ?_⟩
  by_cases same : other = c
  · subst same
    simpa using keeps holds
  · simpa [write_elsewhere _ _ _ _ same] using holds

theorem setTunnel_lasts (t : TunnelPtr) (change : Tunnel → Tunnel)
    (keeps : ∀ tun, ofTunnel tun = true → ofTunnel (change tun) = true) :
    Prog.Within (Lasts ofTunnel ofCall) (setTunnel t change) := by
  intro d u d' ran
  obtain ⟨_, rfl⟩ := (setTunnel_some _ _ _ _ _).mp ran
  exact lasts_tunnel d t _ (keeps _)

theorem setCall_lasts (c : CallPtr) (change : Call → Call)
    (keeps : ∀ cal, ofCall cal = true → ofCall (change cal) = true) :
    Prog.Within (Lasts ofTunnel ofCall) (setCall c change) := by
  intro d u d' ran
  obtain ⟨_, rfl⟩ := (setCall_some _ _ _ _ _).mp ran
  exact lasts_call d c _ (keeps _)

theorem setLac_lasts (l : LacPtr) (change : Lac → Lac) : Prog.Within (Lasts ofTunnel ofCall) (setLac l change) := by
  intro d u d' ran
  obtain ⟨_, rfl⟩ := (setLac_some _ _ _ _ _).mp ran
  exact lasts_records d _ (Nat.le_refl _) rfl rfl

theorem beside_lasts (d d' : Daemon) (beside : Beside d d') : Lasts ofTunnel ofCall d d' := by
  obtain ⟨rest, grows, rfl⟩ := beside
  exact lasts_records d _ grows rfl rfl

theorem addTunnel_lasts (env : Env) (peer : SockAddr) (refhim : Nat) :
    Prog.Within (Lasts ofTunnel ofCall) (addTunnel env peer refhim) := by
  intro d made d' ran
  rcases addTunnel_some env peer refhim d d' made ran with ⟨_, _, rfl | rfl⟩ | ⟨_, _, _, rfl⟩
  · exact Prog.Steady.refl _
  · refine ⟨Nat.le_succ _, fun t old holds => ?_, fun _ _ => id⟩
    rw [withLostTunnel_elsewhere env d t (Nat.ne_of_lt old)]
    exact holds
  · refine ⟨Nat.le_add_right _ 2, fun t old holds => ?_, fun c old holds => ?_⟩
    · rw [withTunnel_elsewhere env d peer refhim t (Nat.ne_of_lt old)]
      exact holds
    · rw [withTunnel_call env d peer refhim c (Nat.ne_of_lt (Nat.lt_succ_of_lt old))]
      exact holds

theorem newCall_lasts (env : Env) (t : TunnelPtr) : Prog.Within (Lasts ofTunnel ofCall) (newCall env t) := by
  intro d made d' ran
  rcases newCall_some env t d d' made ran with ⟨_, _, rfl⟩ | ⟨_, _, _, rfl⟩
  · exact Prog.Steady.refl _
  · refine ⟨Nat.le_succ _, fun _ _ => id, fun c old holds => ?_⟩
    exact (congrArg ofCall (write_elsewhere _ _ _ _ (Nat.ne_of_lt old))).trans holds

variable (plain : Plain ofTunnel ofCall)

include plain

theorem addIncomingCall_lasts (env : Env) (t : TunnelPtr) : Prog.Within (Lasts ofTunnel ofCall)
    (addIncomingCall env t) := by
  unfold addIncomingCall
  refine Prog.within_bind (newCall_lasts env t) fun made => ?_
  split
  next => exact Prog.within_pure _ _
  next => exact Prog.within_bind (setTunnel_lasts t _ fun tun => plain.tunnel tun _ rfl) fun _ => Prog.within_pure _ _

theorem tied_lasts (d d' : Daemon) (tied : Tied d d') : Lasts ofTunnel ofCall d d' where
  grows := Nat.le_of_eq tied.fresh.symm
  tunnel t _ := plain.tunnel _ _ (congrArg Prod.fst (tied.tunnel t))
  call c _ := plain.call _ _ (congrArg Prod.fst (tied.call c)) (congrArg (fun ties => ties.2.1) (tied.call c))
    (tied.closing c)

theorem chooses_lasts (t : TunnelPtr) (d : Daemon) (chosen : Option LnsPtr) :
    Lasts ofTunnel ofCall d { d with tunnel := write d.tunnel t { d.tunnel t with lns := chosen } } :=
  lasts_tunnel d t _ (plain.tunnel _ _ rfl)

theorem handleAvps_lasts (env : Env) (t : TunnelPtr) (c : CallPtr) (buf : RecvBuffer) :
    Prog.Within (Lasts ofTunnel ofCall) (handleAvps env t c buf) :=
  handleAvps_within (tiesOnly_weaken (tied_lasts plain) tiesOnly_tied).admits.stores
    (fun _ => setCall_lasts c _ fun cal => plain.call cal _ rfl rfl id) (addIncomingCall_lasts plain env t) buf

theorem opens_lasts (env : Env) (addr : Nat) (port : U16) (lac : Option LacPtr) :
    Prog.Within (Lasts ofTunnel ofCall) (openTunnel env addr port lac) := by
  have binds (t : TunnelPtr) : Prog.Within (Lasts ofTunnel ofCall) (bindLac t lac) := by
    cases lac with
    | none => exact Prog.within_pure _ _
    | some l => exact setLac_lasts l _
  unfold openTunnel
  refine Prog.within_bind (addTunnel_lasts env _ 0) fun made => ?_
  split
  next => exact Prog.within_pure _ _
  next self =>
    refine Prog.within_bind (readCall_within _ self) fun cal => ?_
    refine Prog.within_bind (setTunnel_lasts _ _ fun tun => plain.tunnel tun _ rfl) fun _ => ?_
    refine Prog.within_bind (setCall_lasts self _ fun cal => plain.call cal _ rfl rfl id) fun _ => ?_
    exact Prog.within_bind (binds _) fun _ => Prog.within_pure _ _

theorem places_lasts (env : Env) (t : TunnelPtr) (lac : Option LacPtr) (dialNo : CString) :
    Prog.Within (Lasts ofTunnel ofCall) (placeCall env t lac dialNo) := by
  have binds (c : CallPtr) : Prog.Within (Lasts ofTunnel ofCall) (bindCall c lac) := by
    cases lac with
    | none => exact Prog.within_pure _ _
    | some l => exact setLac_lasts l _
  unfold placeCall
  refine Prog.within_bind (newCall_lasts env t) fun made => ?_
  split
  next => exact Prog.within_pure _ _
  next tmp =>
    refine Prog.within_bind (setTunnel_lasts t _ fun tun => plain.tunnel tun _ rfl) fun _ => ?_
    refine Prog.within_bind (setCall_lasts tmp _ fun cal => plain.call cal _ rfl rfl id) fun _ => ?_
    refine Prog.within_bind (binds tmp) fun _ => ?_
    exact Prog.within_bind (setCall_lasts tmp _ fun cal => plain.call cal _ rfl rfl id) fun _ => Prog.within_pure _ _

theorem dials_lasts (env : Env) (sends : Sends env (Lasts ofTunnel ofCall)) : Dials env (Lasts ofTunnel ofCall) where
  initiates t c := initiate_starts
    (startTunnel_within (sends.on t c) (raises_of_tied (tied_lasts plain) t _)
    (challenges_of_tied (tied_lasts plain) t))
    (startIncoming_within (sends.on t c) (raisesCall_of_tied (tied_lasts plain) c _))
    (startOutgoing_within (sends.on t c) (raisesCall_of_tied (tied_lasts plain) c _))
  redials l := Prog.within_weaken _ _ _ beside_lasts (redialLater_beside env l)
  opens := opens_lasts plain env
  places := places_lasts plain env

end Lasts

end ZyAgf.Xl2tpd
