import ZyAgf.Xl2tpd.TiesOnlyDial

set_option autoImplicit false

namespace ZyAgf.Xl2tpd

-- What no step takes back: a number that was given out, a message that was sent,
-- the tunnel of a call, a call that is gone.
structure Grows (d d' : Daemon) : Prop where
  fresh : d.fresh ≤ d'.fresh
  out : ∃ said, d'.out = d.out ++ said
  home : ∀ c, c < d.fresh → (d'.call c).container = (d.call c).container
  gone : ∀ c, c < d.fresh → (d.call c).live = false → (d'.call c).live = false

instance : Prog.Steady Grows where
  refl d := ⟨Nat.le_refl _, ⟨[], (List.append_nil _).symm⟩, fun _ _ => rfl, fun _ _ dead => dead⟩
  trans d d' d'' first second := by
    refine ⟨Nat.le_trans first.fresh second.fresh, ?_, fun c old => ?_, fun c old dead => ?_⟩
    · obtain ⟨said, one⟩ := first.out
      obtain ⟨more, two⟩ := second.out
      exact ⟨said ++ more, by rw [two, one, List.append_assoc]⟩
    · exact (second.home c (Nat.lt_of_lt_of_le old first.fresh)).trans (first.home c old)
    · exact second.gone c (Nat.lt_of_lt_of_le old first.fresh) (first.gone c old dead)

theorem grows_records (d d' : Daemon) (fresh : d.fresh ≤ d'.fresh) (out : d'.out = d.out)
    (call : d'.call = d.call) : Grows d d' :=
  ⟨fresh, ⟨[], by rw [out, List.append_nil]⟩, fun c _ => by rw [call], fun c _ dead => by rw [call]; exact dead⟩

section Primitives

theorem setTunnel_grows (t : TunnelPtr) (change : Tunnel → Tunnel) : Prog.Within Grows (setTunnel t change) := by
  intro d u d' ran
  obtain ⟨_, rfl⟩ := (setTunnel_some _ _ _ _ _).mp ran
  exact grows_records d _ (Nat.le_refl _) rfl rfl

theorem setCall_grows (c : CallPtr) (change : Call → Call) (dead : ∀ cal, cal.live = false → (change cal).live = false)
    (home : ∀ cal, (change cal).container = cal.container) : Prog.Within Grows (setCall c change) := by
  intro d u d' ran
  obtain ⟨_, rfl⟩ := (setCall_some _ _ _ _ _).mp ran
  refine ⟨Nat.le_refl _, ⟨[], (List.append_nil _).symm⟩, fun other _ => ?_, fun other _ gone => ?_⟩
  · exact write_same d.call Call.container c (change (d.call c)) (home _) other
  · by_cases here : other = c
    · subst here
      simpa using dead _ gone
    · simpa [write_elsewhere _ _ _ _ here] using gone

theorem setLac_grows (l : LacPtr) (change : Lac → Lac) : Prog.Within Grows (setLac l change) := by
  intro d u d' ran
  obtain ⟨_, rfl⟩ := (setLac_some _ _ _ _ _).mp ran
  exact grows_records d _ (Nat.le_refl _) rfl rfl

theorem setLns_grows (l : LnsPtr) (change : Lns → Lns) : Prog.Within Grows (setLns l change) := by
  intro d u d' ran
  obtain ⟨_, rfl⟩ := (setLns_some _ _ _ _ _).mp ran
  exact grows_records d _ (Nat.le_refl _) rfl rfl

theorem admits_grows : AdmitsUpdates Grows where
  tunnel t change _ := setTunnel_grows t change
  call c change keeps := setCall_grows c change
    (fun cal gone => (congrArg CallCore.live (keeps cal).1 : (change cal).live = cal.live).trans gone)
    fun cal => congrArg CallCore.container (keeps cal).1
  lac l change _ := setLac_grows l change
  modify change side _ out := by
    refine Prog.within_modify _ _ fun d => ⟨?_, out d, fun c _ => ?_, fun c _ gone => ?_⟩
    · rw [side d]
      exact Nat.le_refl _
    · rw [side d]
      rfl
    · rw [side d]
      exact gone

theorem raises_grows (t : TunnelPtr) (m : Msg) : Raises Grows t m := fun change _ => setTunnel_grows t change

theorem raisesCall_grows (c : CallPtr) (m : Msg) : RaisesCall Grows c m := fun change keeps =>
  setCall_grows c change (fun cal gone => (congrArg CallCore.live (keeps cal).1 : (change cal).live = cal.live).trans
    gone)
    fun cal => congrArg CallCore.container (keeps cal).1

theorem challenges_grows (t : TunnelPtr) : Challenges Grows t := fun change _ => setTunnel_grows t change

end Primitives

theorem redialLater_grows (env : Env) (l : LacPtr) : Prog.Within Grows (redialLater env l) := by
  unfold redialLater
  refine Prog.within_bind (readLac_within _ l) fun lac => Prog.within_onlyWhen _ _ _ fun _ => ?_
  refine Prog.within_bind (Prog.within_modify _ _ fun d => ?_) fun _ => setLac_grows l _
  exact grows_records d _ (Nat.le_refl _) rfl rfl

theorem leaveLac_grows (env : Env) (change : Lac → Lac) (lac : Option LacPtr) : Prog.Within Grows
    (leaveLac env change lac) := by
  cases lac with
  | none => exact Prog.within_pure _ _
  | some l => exact Prog.within_bind (setLac_grows l change) fun _ => redialLater_grows env l

theorem leaveLns_grows (lns : Option LnsPtr) : Prog.Within Grows (leaveLns lns) := by
  cases lns with
  | none => exact Prog.within_pure _ _
  | some l => exact setLns_grows l _

section Destroying

variable (env : Env)

theorem unreserveAddr_grows (addr : Nat) : Prog.Within Grows (unreserveAddr addr) :=
  Prog.within_modify _ _ fun d => grows_records d _ (Nat.le_refl _) rfl rfl

theorem destroyCall_grows (c : CallPtr) : Prog.Within Grows (destroyCall env c) := by
  have returns (lns : Option LnsPtr) : Prog.Within Grows (unreserveLocal lns) := by
    cases lns with
    | none => exact Prog.within_pure _ _
    | some l =>
        refine Prog.within_bind (readLns_within _ l) fun lns => Prog.within_onlyWhen _ _ _ fun _ => ?_
        exact unreserveAddr_grows _
  unfold destroyCall
  refine Prog.within_bind (readCall_within _ c) fun cal => ?_
  refine Prog.within_bind (Prog.within_onlyWhen _ _ _ fun _ => unreserveAddr_grows _) fun _ => ?_
  refine Prog.within_bind (returns cal.lns) fun _ => ?_
  refine Prog.within_bind (Prog.within_onlyWhen _ _ _ fun _ => emit_within admits_grows _) fun _ => ?_
  refine Prog.within_bind (setTunnel_grows _ _) fun _ => Prog.within_bind (leaveLac_grows env _ cal.lac) fun _ => ?_
  exact setCall_grows c _ (fun _ _ => rfl) fun _ => rfl

theorem destroyTunnel_grows (t : TunnelPtr) : Prog.Within Grows (destroyTunnel env t) := by
  unfold destroyTunnel
  refine Prog.within_bind (readTunnel_within _ t) fun tun => ?_
  refine Prog.within_bind (Prog.within_forM tun.calls _ fun c _ => destroyCall_grows env c) fun _ => ?_
  refine Prog.within_bind (Prog.within_modify _ _ fun d => grows_records d _ (Nat.le_refl _) rfl rfl) fun _ => ?_
  refine Prog.within_bind (leaveLac_grows env _ tun.lac) fun _ => Prog.within_bind (leaveLns_grows tun.lns) fun _ => ?_
  refine Prog.within_bind (deref_within _ tun.self) fun me => ?_
  exact Prog.within_bind (destroyCall_grows env me) fun _ => setTunnel_grows t _

theorem shuts_grows : Shuts env Grows where
  admits := admits_grows
  numbers t := setTunnel_grows t _
  destroyCall c d u d' _ ran := destroyCall_grows env c d u d' ran
  destroyTunnel t _ d u d' _ _ ran := destroyTunnel_grows env t d u d' ran

theorem sendsOn_grows (t : TunnelPtr) (c : CallPtr) : SendsOn env Grows t c where
  admits := admits_grows
  sends body := sendControl_shuts (shuts_grows env) t c body (setCall_grows c _ (fun _ => id) fun _ => rfl)

theorem bindLac_grows (t : TunnelPtr) (lac : Option LacPtr) : Prog.Within Grows (bindLac t lac) := by
  cases lac with
  | none => exact Prog.within_pure _ _
  | some l => exact setLac_grows l _

theorem bindCall_grows (c : CallPtr) (lac : Option LacPtr) : Prog.Within Grows (bindCall c lac) := by
  cases lac with
  | none => exact Prog.within_pure _ _
  | some l => exact setLac_grows l _

theorem newCall_grows (t : TunnelPtr) : Prog.Within Grows (newCall env t) := by
  intro d made d' ran
  rcases newCall_some env t d d' made ran with ⟨_, _, rfl⟩ | ⟨_, _, _, rfl⟩
  · exact Prog.Steady.refl _
  · refine ⟨Nat.le_succ _, ⟨[], (List.append_nil _).symm⟩, fun c old => ?_, fun c old gone => ?_⟩
    · exact congrArg Call.container (write_elsewhere _ _ _ _ (Nat.ne_of_lt old))
    · exact (congrArg Call.live (write_elsewhere _ _ _ _ (Nat.ne_of_lt old))).trans gone

theorem addTunnel_grows (peer : SockAddr) (refhim : Nat) : Prog.Within Grows (addTunnel env peer refhim) := by
  intro d made d' ran
  rcases addTunnel_some env peer refhim d d' made ran with ⟨_, _, rfl | rfl⟩ | ⟨_, _, _, rfl⟩
  · exact Prog.Steady.refl _
  · exact grows_records d _ (Nat.le_succ _) rfl rfl
  · refine ⟨Nat.le_add_right _ 2, ⟨[], (List.append_nil _).symm⟩, fun c old => ?_, fun c old gone => ?_⟩
    · exact congrArg Call.container (write_elsewhere _ _ _ _ (Nat.ne_of_lt (Nat.lt_succ_of_lt old)))
    · exact (congrArg Call.live (write_elsewhere _ _ _ _ (Nat.ne_of_lt (Nat.lt_succ_of_lt old)))).trans gone

theorem addIncomingCall_grows (t : TunnelPtr) : Prog.Within Grows (addIncomingCall env t) := by
  unfold addIncomingCall
  refine Prog.within_bind (newCall_grows env t) fun made => ?_
  split
  next => exact Prog.within_pure _ _
  next => exact Prog.within_bind (setTunnel_grows t _) fun _ => Prog.within_pure _ _

theorem dials_grows : Dials env Grows where
  initiates t c := initiate_starts (startTunnel_within (sendsOn_grows env t c) (raises_grows t _) (challenges_grows t))
    (startIncoming_within (sendsOn_grows env t c) (raisesCall_grows c _))
    (startOutgoing_within (sendsOn_grows env t c) (raisesCall_grows c _))
  redials := redialLater_grows env
  opens addr port lac := by
    unfold openTunnel
    refine Prog.within_bind (addTunnel_grows env _ 0) fun made => ?_
    split
    next => exact Prog.within_pure _ _
    next self =>
      refine Prog.within_bind (readCall_within _ self) fun cal => Prog.within_bind (setTunnel_grows _ _) fun _ => ?_
      refine Prog.within_bind (setCall_grows self _ (fun _ => id) fun _ => rfl) fun _ => ?_
      exact Prog.within_bind (bindLac_grows _ lac) fun _ => Prog.within_pure _ _
  places t lac dialNo := by
    unfold placeCall
    refine Prog.within_bind (newCall_grows env t) fun made => ?_
    split
    next => exact Prog.within_pure _ _
    next tmp =>
      refine Prog.within_bind (setTunnel_grows t _) fun _ =>
        Prog.within_bind (setCall_grows tmp _ (fun _ => id) fun _ => rfl) fun _ => ?_
      refine Prog.within_bind (bindCall_grows tmp lac) fun _ => ?_
      exact Prog.within_bind (setCall_grows tmp _ (fun _ => id) fun _ => rfl) fun _ => Prog.within_pure _ _

theorem dialLac_grows (lac : Option LacPtr) : Prog.Within Grows (dialLac env lac) := by
  cases lac with
  | none => exact Prog.within_pure _ _
  | some l => exact magicLacDial_dials (dials_grows env) l (setLac_grows l _)

end Destroying

end ZyAgf.Xl2tpd
