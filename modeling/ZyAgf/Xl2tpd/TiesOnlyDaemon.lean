import ZyAgf.Xl2tpd.Daemon
import ZyAgf.Xl2tpd.TiesOnlyFinish

set_option autoImplicit false

namespace ZyAgf.Xl2tpd

section Lookups

variable (rel : Daemon → Daemon → Prop) [Prog.Steady rel]

theorem openCall_within (c : CallPtr) : Prog.Within rel (openCall c) := by
  unfold openCall
  refine Prog.within_bind (readCall_within _ c) fun cal => Prog.within_bind (readTunnel_within _ _) fun tun => ?_
  exact Prog.within_bind (Prog.within_get _) fun d => Prog.within_pure _ _

theorem findLac_within (name : CString) (entries : List LacPtr) : Prog.Within rel (findLac name entries) := by
  induction entries with
  | nil => exact Prog.within_pure _ _
  | cons l rest ih =>
      rw [findLac]
      exact Prog.within_bind (readLac_within _ l) fun _ =>
        Prog.within_ite _ _ _ _ (fun _ => Prog.within_pure _ _) fun _ => ih

theorem findLns_within (name : CString) (entries : List LnsPtr) : Prog.Within rel (findLns name entries) := by
  induction entries with
  | nil => exact Prog.within_pure _ _
  | cons l rest ih =>
      rw [findLns]
      exact Prog.within_bind (readLns_within _ l) fun _ =>
        Prog.within_ite _ _ _ _ (fun _ => Prog.within_pure _ _) fun _ => ih

theorem findLnsByName_within (name : CString) : Prog.Within rel (findLnsByName name) := by
  unfold findLnsByName
  refine Prog.within_bind (Prog.within_get _) fun d => Prog.within_ite _ _ _ _ (fun _ => Prog.within_pure _ _) fun _ =>
    ?_
  exact findLns_within _ name d.lnslist

end Lookups

theorem takePayload_tiesOnly (sanity : Bool) (buf : RecvBuffer) (cal : Call) :
    (takePayload sanity buf cal).1.core = cal.core ∧ (takePayload sanity buf cal).1.ties = cal.ties ∧
      (takePayload sanity buf cal).1.closing = cal.closing := by
  have expands (after : Call) (rest : PayloadHdr × Nat) (expanded : expandPayload buf cal = some (after, rest)) :
      after.core = cal.core ∧ after.ties = cal.ties ∧ after.closing = cal.closing := by
    unfold expandPayload at expanded
    simp only at expanded
    split at expanded
    · split at expanded
      · cases expanded
      · split at expanded
        · obtain ⟨rfl, _⟩ := Prod.mk.inj (Option.some.inj expanded)
          exact ⟨rfl, rfl, rfl⟩
        · cases expanded
    · obtain ⟨rfl, _⟩ := Prod.mk.inj (Option.some.inj expanded)
      exact ⟨rfl, rfl, rfl⟩
  unfold takePayload
  split
  next => exact ⟨rfl, rfl, rfl⟩
  next =>
    split
    next => exact ⟨rfl, rfl, rfl⟩
    next after h len expanded =>
      have same := expands after (h, len) expanded
      split
      next => exact same
      next =>
        split
        · exact same
        · exact same

-- Taking in payload, and what goes on around pppd.
section Traffic

variable {env : Env} {rel : Daemon → Daemon → Prop} [Prog.Steady rel] (tiesOnly : TiesOnly rel)

include tiesOnly

theorem reapCalls_within (pid : Int) (calls : List CallPtr) : Prog.Within rel (reapCalls pid calls) := by
  induction calls with
  | nil => exact Prog.within_pure _ _
  | cons c rest ih =>
      rw [reapCalls]
      refine Prog.within_bind (readCall_within _ c) fun cal => Prog.within_ite _ _ _ _ (fun _ => ?_) fun _ => ih
      exact Prog.within_bind (tiesOnly.call c _ fun _ => ⟨rfl, rfl, id⟩) fun _ => Prog.within_pure _ _

theorem childHandler_within (pid : Int) (tunnels : List TunnelPtr) : Prog.Within rel (childHandler pid tunnels) := by
  induction tunnels with
  | nil => exact Prog.within_pure _ _
  | cons t rest ih =>
      rw [childHandler]
      refine Prog.within_bind (readTunnel_within _ t) fun tun =>
        Prog.within_bind (reapCalls_within tiesOnly pid _) fun found => ?_
      exact Prog.within_onlyWhen _ _ _ fun _ => ih

theorem sendFrame_within (c : CallPtr) (frame : List UInt8) : Prog.Within rel (sendFrame c frame) := by
  unfold sendFrame
  refine Prog.within_bind (readCall_within _ c) fun cal => Prog.within_bind (readTunnel_within _ _) fun tun => ?_
  exact Prog.within_bind (tiesOnly.call c _ fun _ => ⟨rfl, rfl, id⟩) fun _ => emit_within tiesOnly _

theorem hangupCall_within (ourcid : Nat) (tunnels : List TunnelPtr) : Prog.Within rel (hangupCall ourcid tunnels) := by
  induction tunnels with
  | nil => exact Prog.within_pure _ _
  | cons t rest ih =>
      rw [hangupCall]
      refine Prog.within_bind (readTunnel_within _ t) fun tun =>
        Prog.within_bind (findOurcid_within rel ourcid _) fun found => ?_
      split
      next => exact ih
      next c =>
        refine Prog.within_bind (tiesOnly.call c _ fun _ => ⟨rfl, rfl, id⟩) fun _ => ?_
        exact Prog.within_bind (readCall_within _ c) fun _ => emit_within tiesOnly _

theorem writePacket_within (buf : RecvBuffer) (c : CallPtr) (h : PayloadHdr) (len : Nat) :
    Prog.Within rel (writePacket env buf c h len) := by
  unfold writePacket
  refine Prog.within_bind (readCall_within _ c) fun cal =>
    Prog.within_ite _ _ _ _ (fun _ => Prog.within_pure _ _) fun _ => ?_
  refine Prog.within_ite _ _ _ _ (fun _ => Prog.within_wrong _) fun _ =>
    Prog.within_ite _ _ _ _ (fun _ => Prog.within_pure _ _) fun _ => ?_
  refine Prog.within_ite _ _ _ _ (fun _ => ?_) fun _ => ?_
  · exact Prog.within_bind (tiesOnly.call c _ fun _ => ⟨rfl, rfl, id⟩) fun _ => Prog.within_pure _ _
  · exact Prog.within_bind (emit_within tiesOnly _) fun _ => Prog.within_pure _ _

theorem handlePayload_within (buf : RecvBuffer) (t : TunnelPtr) (c : CallPtr) : Prog.Within rel
    (handlePayload env buf t c) := by
  unfold handlePayload
  refine Prog.within_bind (readTunnel_within _ t) fun tun => ?_
  intro d result d' ran
  obtain ⟨cal, d₁, read, ran⟩ := (Prog.bind_some _ _ _ _ _).mp ran
  obtain ⟨live, rfl, rfl⟩ := (readCall_some _ _ _ _).mp read
  obtain ⟨_, d₂, taken, ran⟩ := (Prog.bind_some _ _ _ _ _).mp ran
  obtain ⟨_, rfl⟩ := (setCall_some _ _ _ _ _).mp taken
  have keeps (cal : Call) : (takePayload tun.sanity buf cal).1.core = cal.core ∧
    (takePayload tun.sanity buf cal).1.ties = cal.ties ∧
      (cal.closing = true → (takePayload tun.sanity buf cal).1.closing = true) := by
    obtain ⟨core, ties, closing⟩ := takePayload_tiesOnly tun.sanity buf cal
    exact ⟨core, ties, closing.trans⟩
  have first := tiesOnly.call c (fun cal => (takePayload tun.sanity buf cal).1) keeps d₁ PUnit.unit _
    ((setCall_some _ _ _ _ _).mpr ⟨live, rfl⟩)
  refine Prog.Steady.trans _ _ _ first ?_
  cases frame : (takePayload tun.sanity buf (d₁.call c)).2 with
  | some frame' =>
      rw [frame] at ran
      exact writePacket_within tiesOnly buf c frame'.1 frame'.2 _ result d' ran
  | none =>
      rw [frame] at ran
      obtain ⟨_, rfl⟩ := (Prog.pure_some _ _ _ _).mp ran
      exact Prog.Steady.refl _

omit env in
theorem acknowledge_within (c : CallPtr) : Prog.Within rel (acknowledge c) := by
  unfold acknowledge
  refine Prog.within_bind (readCall_within _ c) fun cal => Prog.within_onlyWhen _ _ _ fun _ => ?_
  exact Prog.within_bind (controlZlb_within tiesOnly _ c) fun _ => tiesOnly.call c _ fun _ => ⟨rfl, rfl, id⟩

theorem handleSpecial_within (checks : ∀ buf t c, Prog.Within rel (checkControl buf t c)) (buf : RecvBuffer)
    (c : CallPtr)
    (call : Nat) : Prog.Within rel (handleSpecial buf c call) := by
  unfold handleSpecial
  refine Prog.within_bind (readCall_within _ c) fun cal =>
    Prog.within_ite _ _ _ _ (fun _ => Prog.within_pure _ _) fun _ => ?_
  refine Prog.within_bind (tiesOnly.call c _ fun _ => ⟨rfl, rfl, id⟩) fun _ =>
    Prog.within_bind (checks _ _ _) fun bad => ?_
  refine Prog.within_ite _ _ _ _ (fun _ => ?_) fun _ => ?_
  · exact Prog.within_bind (tiesOnly.call c _ fun _ => ⟨rfl, rfl, id⟩) fun _ => Prog.within_pure _ _
  · refine Prog.within_bind (controlZlb_within tiesOnly _ c) fun _ => ?_
    exact Prog.within_bind (tiesOnly.call c _ fun _ => ⟨rfl, rfl, id⟩) fun _ => Prog.within_pure _ _

omit tiesOnly in
theorem getTunnel_within (tunnel : Nat) : Prog.Within rel (getTunnel tunnel) := by
  unfold getTunnel
  refine Prog.within_bind (Prog.within_get _) fun d => Prog.within_ite _ _ _ _ (fun _ => Prog.within_pure _ _) fun _ =>
    ?_
  refine Prog.within_bind (findTunnel_within _ _ _) fun t => ?_
  split
  next => exact Prog.within_pure _ _
  next t => exact Prog.within_bind (readTunnel_within _ t) fun _ => Prog.within_pure _ _

theorem receiveOnTunnel_within (checks : ∀ buf t c, Prog.Within rel (checkControl buf t c)) (buf : RecvBuffer)
    (tunnel call : Nat) :
    Prog.Within rel (receiveOnTunnel buf tunnel call) := by
  unfold receiveOnTunnel
  refine Prog.within_bind (getTunnel_within tunnel) fun own => ?_
  split
  next => exact Prog.within_pure _ _
  next c => exact Prog.within_bind (handleSpecial_within tiesOnly checks _ c _) fun _ => Prog.within_pure _ _

end Traffic

-- What ends in a close.
section Closing

variable {env : Env} {rel : Daemon → Daemon → Prop} [Prog.Steady rel] (closes : Closes env rel)

include closes

theorem closeCalls_closes (t : TunnelPtr) (fuel : Nat) (calls : List CallPtr) :
    Prog.Within rel (closeCalls env t fuel calls) := by
  induction fuel generalizing calls with
  | zero =>
      rw [closeCalls]
      exact Prog.within_wrong _
  | succ fuel ih =>
      cases calls with
      | nil =>
          rw [closeCalls]
          exact Prog.within_pure _ _
      | cons c rest =>
          rw [closeCalls]
          refine Prog.within_bind (readCall_within _ c) fun cal => Prog.within_ite _ _ _ _ (fun _ => ?_) fun _ =>
            ih rest
          refine Prog.within_bind ((close_within closes _).2 c) fun _ => ?_
          exact Prog.within_bind (readTunnel_within _ t) fun tun => ih tun.calls

theorem closeTunnels_closes (fuel : Nat) (tunnels : List TunnelPtr) : Prog.Within rel
    (closeTunnels env fuel tunnels) := by
  induction fuel generalizing tunnels with
  | zero =>
      rw [closeTunnels]
      exact Prog.within_wrong _
  | succ fuel ih =>
      cases tunnels with
      | nil =>
          rw [closeTunnels]
          exact Prog.within_pure _ _
      | cons t rest =>
          rw [closeTunnels]
          refine Prog.within_bind (readTunnel_within _ t) fun tun => ?_
          refine Prog.within_bind (closeCalls_closes closes t _ _) fun _ =>
            Prog.within_bind (readTunnel_within _ t) fun tun => ?_
          refine Prog.within_bind (deref_within _ tun.self) fun self =>
            Prog.within_bind (readCall_within _ self) fun me => ?_
          refine Prog.within_ite _ _ _ _ (fun _ => ?_) fun _ => ih rest
          refine Prog.within_bind ((close_within closes _).2 self) fun _ => ?_
          exact Prog.within_bind (Prog.within_get _) fun d => ih d.tunnels

theorem buildFdset_closes : Prog.Within rel (buildFdset env) := by
  unfold buildFdset
  exact Prog.within_bind (Prog.within_get _) fun d => closeTunnels_closes closes _ d.tunnels

theorem lacDisconnect_closes (tid : Nat) : Prog.Within rel (lacDisconnect env tid) := by
  unfold lacDisconnect
  refine Prog.within_bind (Prog.within_get _) fun d => Prog.within_bind (findTunnel_within _ tid _) fun found => ?_
  split
  next => exact Prog.within_pure _ _
  next t =>
    refine Prog.within_bind (readTunnel_within _ t) fun tun => Prog.within_bind (deref_within _ tun.self) fun self => ?_
    exact Prog.within_bind (closes.tiesOnly.call self _ fun _ => ⟨rfl, rfl, id⟩) fun _ => (close_within closes _).2 self

theorem disconnectEntry_closes (leaves : ∀ l,
    Prog.Within rel (setLac l fun lac => { lac with active := false, rtries := 0 }))
    (l : LacPtr) : Prog.Within rel (disconnectEntry env l) := by
  unfold disconnectEntry
  refine Prog.within_bind (leaves l) fun _ => Prog.within_bind (readLac_within _ l) fun lac => ?_
  split
  next => exact Prog.within_pure _ _
  next t _ => exact Prog.within_bind (readTunnel_within _ t) fun tun => lacDisconnect_closes closes tun.ourtid

theorem controlHandleLacDisconnect_closes
    (leaves : ∀ l, Prog.Within rel (setLac l fun lac => { lac with active := false, rtries := 0 })) (name : CString) :
    Prog.Within rel (controlHandleLacDisconnect env name) := by
  unfold controlHandleLacDisconnect
  refine Prog.within_bind (Prog.within_get _) fun d => Prog.within_bind (findLac_within rel name _) fun found => ?_
  split
  next l => exact disconnectEntry_closes closes leaves l
  next => exact Prog.within_onlyWhen _ _ _ fun _ => lacDisconnect_closes closes _

theorem closeEach_closes (calls : List CallPtr) : Prog.Within rel (closeEach env calls) := by
  induction calls with
  | nil => exact Prog.within_pure _ _
  | cons c rest ih =>
      rw [closeEach]
      exact Prog.within_bind ((close_within closes _).2 c) fun _ => Prog.within_bind (readCall_within _ c) fun _ => ih

theorem closeServed_closes (l : LnsPtr) (tunnels : List TunnelPtr) : Prog.Within rel (closeServed env l tunnels) := by
  induction tunnels with
  | nil => exact Prog.within_pure _ _
  | cons t rest ih =>
      rw [closeServed]
      refine Prog.within_bind (readTunnel_within _ t) fun tun => ?_
      refine Prog.within_bind (Prog.within_onlyWhen _ _ _ fun _ => closeEach_closes closes tun.calls) fun _ => ?_
      exact Prog.within_bind (readTunnel_within _ t) fun _ => ih

end Closing

end ZyAgf.Xl2tpd
