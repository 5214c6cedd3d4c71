import ZyAgf.Xl2tpd.RecordTies

set_option autoImplicit false

namespace ZyAgf.Xl2tpd

-- What control_finish and its helpers do to the ties.
section Finishing

variable {rel : Daemon → Daemon → Prop} [Prog.Steady rel] (admits : AdmitsUpdates rel) (env : Env) (t : TunnelPtr)
    (c : CallPtr)

include admits

theorem handleChallenge_us_within : Prog.Within rel (handleChallenge env t .us) := by
  unfold handleChallenge
  refine Prog.within_bind (readTunnel_within _ t) fun tun =>
    Prog.within_bind (challengeNames_within _ env tun) fun names => ?_
  split
  next => exact Prog.within_pure _ _
  next => exact Prog.within_bind (admits.tunnel t _ fun _ => ⟨rfl, rfl, rfl⟩) fun _ => Prog.within_pure _ _

theorem answerTheirs_within (ss : Msg) : Prog.Within rel (answerTheirs env t ss) := by
  unfold answerTheirs
  refine Prog.within_bind (readTunnel_within _ t) fun tun =>
    Prog.within_ite _ _ _ _ (fun _ => Prog.within_pure _ _) fun _ => ?_
  refine Prog.within_bind (admits.tunnel t _ fun _ => ⟨rfl, rfl, rfl⟩) fun _ =>
    Prog.within_bind (handleChallenge_us_within admits env t) fun _ => ?_
  exact Prog.within_bind (readTunnel_within _ t) fun _ => Prog.within_pure _ _

theorem inheritTunnel_within : Prog.Within rel (inheritTunnel t) := by
  unfold inheritTunnel
  refine Prog.within_bind (readTunnel_within _ t) fun tun => ?_
  split
  next l _ => exact Prog.within_bind (readLns_within _ l) fun _ => admits.tunnel t _ fun _ => ⟨rfl, rfl, rfl⟩
  next l _ _ => exact Prog.within_bind (readLac_within _ l) fun _ => admits.tunnel t _ fun _ => ⟨rfl, rfl, rfl⟩
  next => exact Prog.within_pure _ _

theorem inheritCall_within (fromLac : Bool) : Prog.Within rel (inheritCall c fromLac) := by
  unfold inheritCall
  refine Prog.within_bind (readCall_within _ c) fun cal => ?_
  split
  next l _ => exact Prog.within_bind (readLns_within _ l) fun _ => admits.call c _ fun _ => ⟨rfl, rfl, id, rfl⟩
  next l _ _ => exact Prog.within_bind (readLac_within _ l) fun _ => admits.call c _ fun _ => ⟨rfl, rfl, id, rfl⟩
  next => exact Prog.within_pure _ _

theorem takeSerno_within : Prog.Within rel (takeSerno c) := by
  unfold takeSerno
  refine Prog.within_bind (Prog.within_get _) fun d => Prog.within_bind (admits.call c _ fun _ => ⟨rfl, rfl, id, rfl⟩)
    fun _ => ?_
  exact Prog.within_bind (admits.modify _ (fun _ => rfl) (fun _ _ => rfl) fun d => ⟨[], (List.append_nil d.out).symm⟩)
    fun _ => Prog.within_pure _ _

theorem connectPppol2tp_within : Prog.Within rel (connectPppol2tp env t) :=
  Prog.within_onlyWhen _ _ _ fun _ => admits.tunnel t _ fun _ => ⟨rfl, rfl, rfl⟩

omit [Prog.Steady rel] in
theorem startHello_within : Prog.Within rel (startHello env t) := schedule_within admits env _ _ fun _ => rfl

theorem startPppd_within (options : List CString) : Prog.Within rel (startPppd env c options) := by
  unfold startPppd
  refine Prog.within_bind (readCall_within _ c) fun cal => ?_
  refine Prog.within_ite _ _ _ _ (fun _ => Prog.within_pure _ _) fun _ => ?_
  refine Prog.within_bind (Prog.within_onlyWhen _ _ _ fun _ => admits.call c _ fun _ => ⟨rfl, rfl, id, rfl⟩) fun _ => ?_
  refine Prog.within_ite _ _ _ _ (fun _ => Prog.within_pure _ _) fun _ => ?_
  refine Prog.within_bind (admits.call c _ fun _ => ⟨rfl, rfl, id, rfl⟩) fun _ => ?_
  refine Prog.within_ite _ _ _ _ (fun _ => Prog.within_pure _ _) fun _ => ?_
  exact Prog.within_bind (emit_within admits _) fun _ => Prog.within_pure _ _

theorem passPassword_within (l : LacPtr) (lac : Lac) : Prog.Within rel (passPassword env l lac) := by
  unfold passPassword
  refine Prog.within_ite _ _ _ _ (fun _ => Prog.within_pure _ _) fun _ => ?_
  split
  next => exact Prog.within_pure _ _
  next =>
    refine Prog.within_bind (Prog.within_onlyWhen _ _ _ fun _ => ?_) fun _ => Prog.within_pure _ _
    exact admits.lac l _ fun _ => rfl

theorem finishStopCCN_within : Prog.Within rel (finishStopCCN t c) := by
  unfold finishStopCCN
  refine Prog.within_bind (readTunnel_within _ t) fun tun => ?_
  refine Prog.within_ite _ _ _ _ (fun _ => Prog.within_pure _ _) fun _ => ?_
  refine Prog.within_ite _ _ _ _ (fun _ => Prog.within_pure _ _) fun _ => ?_
  refine Prog.within_bind (admits.tunnel t _ fun _ => ⟨rfl, rfl, rfl⟩) fun _ =>
    Prog.within_bind (deref_within _ tun.self) fun self => ?_
  refine Prog.within_bind (readCall_within _ self) fun me =>
    Prog.within_ite _ _ _ _ (fun _ => Prog.within_pure _ _) fun _ => ?_
  exact Prog.within_bind (admits.call c _ fun _ => ⟨rfl, rfl, fun _ => rfl, rfl⟩) fun _ => Prog.within_pure _ _

theorem finishOCCN_within : Prog.Within rel (finishOCCN env t c) := by
  unfold finishOCCN
  refine Prog.within_bind (readCall_within _ c) fun cal => Prog.within_bind (readTunnel_within _ t) fun tun => ?_
  refine Prog.within_bind (deref_within _ cal.lac) fun l => Prog.within_bind (readLac_within _ l) fun lac => ?_
  refine Prog.within_bind (startPppd_within admits env c _) fun _ =>
    Prog.within_bind (admits.lac l _ fun _ => rfl) fun _ => ?_
  exact Prog.within_pure _ _

theorem finishCDN_within : Prog.Within rel (finishCDN t c) := by
  unfold finishCDN
  refine Prog.within_bind (readTunnel_within _ t) fun tun => Prog.within_bind (readCall_within _ c) fun cal => ?_
  refine Prog.within_ite _ _ _ _ (fun _ => Prog.within_pure _ _) fun _ =>
    Prog.within_bind (namedCall_within _ tun c _) fun named => ?_
  split
  next => exact Prog.within_pure _ _
  next p =>
    refine Prog.within_bind (readCall_within _ p) fun found =>
      Prog.within_ite _ _ _ _ (fun _ => Prog.within_pure _ _) fun _ => ?_
    refine Prog.within_bind (admits.call c _ fun _ => ⟨rfl, rfl, id, rfl⟩) fun _ => ?_
    refine Prog.within_ite _ _ _ _ (fun _ => Prog.within_pure _ _) fun _ => ?_
    exact Prog.within_bind (admits.call c _ fun _ => ⟨rfl, rfl, fun _ => rfl, rfl⟩) fun _ => Prog.within_pure _ _

end Finishing

-- Handlers store what their AVPs say.
section Handlers

variable {rel : Daemon → Daemon → Prop} [Prog.Steady rel] (stores : Stores rel) (env : Env) (t : TunnelPtr)
    (c : CallPtr) (a : AvpData)

include stores

omit [Prog.Steady rel] in
theorem wrongLength_within (field : String) (expected found : Nat) (atLeast : Bool) :
    Prog.Within rel (wrongLength c field expected found atLeast) :=
  stores.call c _ fun _ => ⟨rfl, rfl, rfl, rfl⟩

theorem expectsThen_within (allowed : List Msg) (field : String) (expected : Nat) (atLeast : Bool) (body : Handler)
    (within : Prog.Within rel (body env t c a)) : Prog.Within rel
    (expectsThen allowed field expected atLeast body env t c a) := by
  unfold expectsThen
  refine Prog.within_bind (readTunnel_within _ t) fun tun => Prog.within_bind (readCall_within _ c) fun cal => ?_
  refine Prog.within_ite _ _ _ _ (fun _ => Prog.within_pure _ _) fun _ => Prog.within_ite _ _ _ _ (fun _ => ?_) fun _ =>
    within
  exact Prog.within_bind (wrongLength_within stores c _ _ _ _) fun _ => Prog.within_pure _ _

theorem expects_within (allowed : List Msg) (field : String) (expected : Nat) (atLeast : Bool)
    (store : TunnelPtr → CallPtr → AvpData → Act PUnit) (within : Prog.Within rel (store t c a)) :
    Prog.Within rel (expects allowed field expected atLeast store env t c a) :=
  expectsThen_within stores env t c a allowed field expected atLeast _
    (Prog.within_bind within fun _ => Prog.within_pure _ _)

theorem setCallHead_within (change : Call → Call)
    (keeps : ∀ cal, (change cal).core = cal.core ∧ (change cal).ties = cal.ties ∧ (change cal).closing = cal.closing ∧
    (change cal).cnu = cal.cnu) :
    Prog.Within rel (setCallHead t change) := by
  unfold setCallHead
  refine Prog.within_bind (readTunnel_within _ t) fun tun => Prog.within_bind (deref_within _ _) fun head => ?_
  exact stores.call head change keeps

theorem assignedTunnelAvp_within : Prog.Within rel (assignedTunnelAvp env t c a) := by
  refine expects_within stores env t c a _ _ _ _ _ (Prog.within_bind (readCall_within _ c) fun cal => ?_)
  exact stores.tunnel t _ fun _ => by split <;> exact ⟨rfl, rfl, rfl⟩

theorem assignedCallAvp_within : Prog.Within rel (assignedCallAvp env t c a) := by
  refine expects_within stores env t c a _ _ _ _ _ (Prog.within_bind (readCall_within _ c) fun cal => ?_)
  refine Prog.within_ite _ _ _ _ (fun _ => stores.call c _ fun _ => ⟨rfl, rfl, rfl, rfl⟩) fun _ => ?_
  refine Prog.within_ite _ _ _ _ (fun _ => setCallHead_within stores t _ fun _ => ⟨rfl, rfl, rfl, rfl⟩) fun _ => ?_
  exact Prog.within_ite _ _ _ _ (fun _ => stores.call c _ fun _ => ⟨rfl, rfl, rfl, rfl⟩) fun _ => Prog.within_pure _ _

theorem challengeAvp_within : Prog.Within rel (challengeAvp env t c a) := by
  refine expectsThen_within stores env t c a _ _ _ _ _ (Prog.within_ite _ _ _ _ (fun _ => ?_) fun _ => ?_)
  · exact Prog.within_bind (stores.tunnel t _ fun _ => ⟨rfl, rfl, rfl⟩) fun _ => Prog.within_pure _ _
  · exact Prog.within_bind (stores.tunnel t _ fun _ => ⟨rfl, rfl, rfl⟩) fun _ => Prog.within_pure _ _

theorem chalrespAvp_within : Prog.Within rel (chalrespAvp env t c a) := by
  refine expectsThen_within stores env t c a _ _ _ _ _
    (Prog.within_ite _ _ _ _ (fun _ => Prog.within_pure _ _) fun _ => ?_)
  exact Prog.within_bind (stores.tunnel t _ fun _ => ⟨rfl, rfl, rfl⟩) fun _ => Prog.within_pure _ _

theorem randVectorAvp_within : Prog.Within rel (randVectorAvp env t c a) := by
  unfold randVectorAvp
  refine Prog.within_bind (readTunnel_within _ t) fun tun => Prog.within_ite _ _ _ _ (fun _ => ?_) fun _ => ?_
  · exact Prog.within_bind (wrongLength_within stores c _ _ _ _) fun _ => Prog.within_pure _ _
  · exact Prog.within_bind (stores.tunnel t _ fun _ => ⟨rfl, rfl, rfl⟩) fun _ => Prog.within_pure _ _

theorem seqReqdAvp_within : Prog.Within rel (seqReqdAvp env t c a) := by
  unfold seqReqdAvp
  refine Prog.within_bind (readTunnel_within _ t) fun tun => Prog.within_bind (readCall_within _ c) fun cal => ?_
  refine Prog.within_ite _ _ _ _ (fun _ => ?_) fun _ => Prog.within_ite _ _ _ _ (fun _ => Prog.within_pure _ _) fun _ =>
    ?_
  · exact Prog.within_bind (wrongLength_within stores c _ _ _ _) fun _ => Prog.within_pure _ _
  · exact Prog.within_bind (stores.call c _ fun _ => ⟨rfl, rfl, rfl, rfl⟩) fun _ => Prog.within_pure _ _

theorem protocolVersionAvp_within : Prog.Within rel (protocolVersionAvp env t c a) := by
  unfold protocolVersionAvp
  refine Prog.within_bind (readTunnel_within _ t) fun tun => Prog.within_ite _ _ _ _ (fun _ => ?_) fun _ =>
    Prog.within_pure _ _
  exact Prog.within_bind (wrongLength_within stores c _ _ _ _) fun _ => Prog.within_pure _ _

theorem resultCodeAvp_within : Prog.Within rel (resultCodeAvp env t c a) := by
  unfold resultCodeAvp
  refine Prog.within_bind (readTunnel_within _ t) fun tun => Prog.within_bind (readCall_within _ c) fun cal => ?_
  refine Prog.within_ite _ _ _ _ (fun _ => ?_) fun _ => ?_
  · exact Prog.within_bind (wrongLength_within stores c _ _ _ _) fun _ => Prog.within_pure _ _
  refine Prog.within_ite _ _ _ _ (fun _ => Prog.within_pure _ _) fun _ => ?_
  refine Prog.within_ite _ _ _ _ (fun _ => Prog.within_pure _ _) fun _ => ?_
  refine Prog.within_ite _ _ _ _ (fun _ => Prog.within_pure _ _) fun _ => ?_
  exact Prog.within_bind (stores.call c _ fun _ => ⟨rfl, rfl, rfl, rfl⟩) fun _ => Prog.within_pure _ _

section Stored

variable (msgs : List Msg) (field : String) (expected : Nat) (atLeast : Bool)

theorem storesTunnel_within (change : AvpData → Tunnel → Tunnel)
    (keeps : ∀ tun, (change a tun).core = tun.core ∧ (change a tun).ties = tun.ties ∧
    (change a tun).route = tun.route) :
    Prog.Within rel (expects msgs field expected atLeast (fun t _ a => setTunnel t (change a)) env t c a) :=
  expects_within stores env t c a _ _ _ _ _ (stores.tunnel t _ keeps)

theorem storesCall_within (change : AvpData → Call → Call)
    (keeps : ∀ cal, (change a cal).core = cal.core ∧ (change a cal).ties = cal.ties ∧
      (change a cal).closing = cal.closing ∧ (change a cal).cnu = cal.cnu) :
    Prog.Within rel (expects msgs field expected atLeast (fun _ c a => setCall c (change a)) env t c a) :=
  expects_within stores env t c a _ _ _ _ _ (stores.call c _ keeps)

theorem storesHead_within (change : AvpData → Call → Call)
    (keeps : ∀ cal, (change a cal).core = cal.core ∧ (change a cal).ties = cal.ties ∧
      (change a cal).closing = cal.closing ∧ (change a cal).cnu = cal.cnu) :
    Prog.Within rel (expects msgs field expected atLeast (fun t _ a => setCallHead t (change a)) env t c a) :=
  expects_within stores env t c a _ _ _ _ _ (setCallHead_within stores t _ keeps)

end Stored

theorem avps_within (attr : Nat) (other : attr ≠ 0) (handler : Handler) (found : (avps attr).1 = some handler) :
    Prog.Within rel (handler env t c a) := by
  match attr with
  | 0 => exact absurd rfl other
  | 1 =>
      obtain rfl := Option.some.inj found
      exact resultCodeAvp_within stores env t c a
  | 2 =>
      obtain rfl := Option.some.inj found
      exact protocolVersionAvp_within stores env t c a
  | 9 =>
      obtain rfl := Option.some.inj found
      exact assignedTunnelAvp_within stores env t c a
  | 11 =>
      obtain rfl := Option.some.inj found
      exact challengeAvp_within stores env t c a
  | 13 =>
      obtain rfl := Option.some.inj found
      exact chalrespAvp_within stores env t c a
  | 14 =>
      obtain rfl := Option.some.inj found
      exact assignedCallAvp_within stores env t c a
  | 36 =>
      obtain rfl := Option.some.inj found
      exact randVectorAvp_within stores env t c a
  | 39 =>
      obtain rfl := Option.some.inj found
      exact seqReqdAvp_within stores env t c a
  | 3 | 4 | 6 | 7 | 8 | 10 =>
      obtain rfl := Option.some.inj found
      exact storesTunnel_within stores env t c a _ _ _ _ _ fun _ => ⟨rfl, rfl, rfl⟩
  | 15 | 18 | 21 | 22 | 23 | 25 =>
      obtain rfl := Option.some.inj found
      exact storesHead_within stores env t c a _ _ _ _ _ fun _ => ⟨rfl, rfl, rfl, rfl⟩
  | 19 | 20 | 24 | 38 =>
      obtain rfl := Option.some.inj found
      exact storesCall_within stores env t c a _ _ _ _ _ fun _ => ⟨rfl, rfl, rfl, rfl⟩
  | 29 | 30 | 31 | 32 | 33 | 35 =>
      obtain rfl := Option.some.inj found
      exact Prog.within_pure _ _
  | 5 | 12 | 16 | 17 | 26 | 27 | 28 | 34 | 37 => cases found
  | n + 40 => cases found

end Handlers

-- The handler of the message type notes it, and may make a call.
section Messages

variable {env : Env} {rel : Daemon → Daemon → Prop} [Prog.Steady rel] (stores : Stores rel) {t : TunnelPtr}
    {c : CallPtr}
  (marks : ∀ msgtype : Int, Prog.Within rel (setCall c fun cal => { cal with msgtype := msgtype }))
  (calls : Prog.Within rel (addIncomingCall env t))

include stores marks calls

theorem messageTypeAvp_within (a : AvpData) : Prog.Within rel (messageTypeAvp env t c a) := by
  unfold messageTypeAvp
  refine Prog.within_bind (marks _) fun _ => ?_
  refine Prog.within_bind (readTunnel_within _ t) fun tun => Prog.within_bind (readCall_within _ c) fun cal => ?_
  refine Prog.within_ite _ _ _ _ (fun _ => ?_) fun _ => ?_
  · exact Prog.within_bind (wrongLength_within stores c _ _ _ _) fun _ => Prog.within_pure _ _
  split
  next => exact Prog.within_pure _ _
  next m _ =>
    refine Prog.within_ite _ _ _ _ (fun _ => Prog.within_pure _ _) fun _ => ?_
    exact Prog.within_ite _ _ _ _ (fun _ => calls) fun _ => Prog.within_pure _ _

theorem handler_within (attr : Nat) (handler : Handler) (found : (avps attr).1 = some handler) (a : AvpData) :
    Prog.Within rel (handler env t c a) := by
  by_cases first : attr = 0
  · subst first
    obtain rfl := Option.some.inj found
    exact messageTypeAvp_within stores marks calls a
  · exact avps_within stores env t c a attr first handler found

omit marks calls in
theorem refuseAvp_within (error : Int) (message : CString) : Prog.Within rel (refuseAvp c error message) := by
  unfold refuseAvp
  exact Prog.within_bind (setError_within stores c error message) fun _ => Prog.within_pure _ _

theorem runHandler_within (mem : List UInt8) (data : Nat) : Prog.Within rel (runHandler env t c mem data) := by
  unfold runHandler
  dsimp only
  split
  next =>
    exact Prog.within_ite _ _ _ _ (fun _ => refuseAvp_within stores _ _) fun _ => Prog.within_pure _ _
  next handler found =>
    refine Prog.within_bind (handler_within stores marks calls _ handler found _) fun result => ?_
    refine Prog.within_ite _ _ _ _ (fun _ => ?_) fun _ => Prog.within_pure _ _
    exact Prog.within_bind (stores.call c _ fun _ => ⟨rfl, rfl, rfl, rfl⟩) fun _ => Prog.within_pure _ _

theorem handleAvp_within (mem : List UInt8) (data : Nat) (len : Int) (first : Bool) :
    Prog.Within rel (handleAvp env t c mem data len first) := by
  have refused (error : Int) (message : CString) : Prog.Within rel (refuseAvp c error message) :=
    refuseAvp_within stores error message
  unfold handleAvp
  dsimp only
  refine Prog.within_ite _ _ _ _ (fun _ => ?_) fun _ => ?_
  · exact Prog.within_ite _ _ _ _ (fun _ => refused _ _) fun _ => Prog.within_pure _ _
  refine Prog.within_ite _ _ _ _ (fun _ => refused _ _) fun _ => ?_
  refine Prog.within_ite _ _ _ _ (fun _ => refused _ _) fun _ => ?_
  refine Prog.within_ite _ _ _ _ (fun _ => refused _ _) fun _ => ?_
  refine Prog.within_ite _ _ _ _ (fun _ => ?_) fun _ => ?_
  · exact Prog.within_ite _ _ _ _ (fun _ => refused _ _) fun _ => Prog.within_pure _ _
  refine Prog.within_ite _ _ _ _ (fun _ => ?_) fun _ => runHandler_within stores marks calls mem data
  refine Prog.within_bind (readTunnel_within _ t) fun tun => ?_
  split
  next => exact Prog.within_ite _ _ _ _ (fun _ => refused _ _) fun _ => Prog.within_pure _ _
  next => exact runHandler_within stores marks calls _ _

theorem avpLoop_within (fuel : Nat) (mem : List UInt8) (data : Nat) (len : Int) (first : Bool) :
    Prog.Within rel (avpLoop env t c fuel mem data len first) := by
  induction fuel generalizing mem data len first with
  | zero => exact Prog.within_pure _ _
  | succ fuel ih =>
      rw [avpLoop]
      refine Prog.within_ite _ _ _ _ (fun _ => Prog.within_pure _ _) fun _ => ?_
      refine Prog.within_bind (handleAvp_within stores marks calls _ _ _ _) fun left => ?_
      split
      next => exact Prog.within_pure _ _
      next => exact Prog.within_ite _ _ _ _ (fun _ => Prog.within_pure _ _) fun _ => ih _ _ _ _

theorem handleAvps_within (buf : RecvBuffer) : Prog.Within rel (handleAvps env t c buf) :=
  avpLoop_within stores marks calls _ _ _ _ _

end Messages

end ZyAgf.Xl2tpd
