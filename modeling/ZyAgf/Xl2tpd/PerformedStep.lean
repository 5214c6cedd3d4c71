import ZyAgf.Xl2tpd.Performed

set_option autoImplicit false

namespace ZyAgf.Xl2tpd

section Rules

variable {env : Env} {allowed : Op → Prop}

theorem raise_performed (t : TunnelPtr) (m : Msg) (change : Tunnel → Tunnel)
    (raises : ∀ tun, (change tun).core = { tun.core with state := some m }) (ok : ∀ new, allowed (.raise t m new)) :
    Does env allowed (setTunnel t change) := by
  intro d u d' ran
  obtain ⟨live, rfl⟩ := (setTunnel_some _ _ _ _ _).mp ran
  exact performed_op (.raise t m (change (d.tunnel t))) d _ (ok _) (if_pos ⟨live, raises _⟩)

theorem raiseCall_performed (c : CallPtr) (m : Msg) (change : Call → Call)
    (raises : ∀ cal, (change cal).core = { cal.core with state := some m }) (ok : ∀ new, allowed (.raiseCall c m new)) :
    Does env allowed (setCall c change) := by
  intro d u d' ran
  obtain ⟨live, rfl⟩ := (setCall_some _ _ _ _ _).mp ran
  exact performed_op (.raiseCall c m (change (d.call c))) d _ (ok _) (if_pos ⟨live, raises _⟩)

theorem challenge_performed (t : TunnelPtr) (change : Tunnel → Tunnel)
    (only : ∀ tun, change tun = { tun with chalThem := (change tun).chalThem })
    (ok : ∀ chal, allowed (.challenge t chal)) :
    Does env allowed (setTunnel t change) := by
  intro d u d' ran
  obtain ⟨live, moved⟩ := (setTunnel_some _ _ _ _ _).mp ran
  rw [only] at moved
  rw [moved]
  exact performed_op (.challenge t (change (d.tunnel t)).chalThem) d _ (ok _) (if_pos live)

theorem mark_performed (c : CallPtr) (msgtype : Int) (ok : allowed (.mark c msgtype)) :
    Does env allowed (setCall c fun cal => { cal with msgtype := msgtype }) := by
  intro d u d' ran
  obtain ⟨live, rfl⟩ := (setCall_some _ _ _ _ _).mp ran
  exact performed_op (.mark c msgtype) d _ ok (if_pos live)

theorem addTunnel_performed (peer : SockAddr) (refhim : Nat) (ok : allowed (.newTunnel peer refhim)) :
    Does env allowed (addTunnel env peer refhim) := by
  intro d made d' ran
  refine performed_op (.newTunnel peer refhim) d d' ok ?_
  show (addTunnel env peer refhim d).map Prod.snd = some d'
  rw [ran]
  rfl

theorem raises_performed (t : TunnelPtr) (m : Msg) (ok : ∀ new, allowed (.raise t m new)) : Raises
    (Performed env allowed) t m :=
  fun change keeps => raise_performed t m change (fun tun => (keeps tun).1) ok

theorem raisesCall_performed (c : CallPtr) (m : Msg) (ok : ∀ new, allowed (.raiseCall c m new)) :
    RaisesCall (Performed env allowed) c m :=
  fun change keeps => raiseCall_performed c m change (fun cal => (keeps cal).1) ok

theorem challenges_performed (t : TunnelPtr) (ok : ∀ chal, allowed (.challenge t chal)) : Challenges
    (Performed env allowed) t :=
  fun change only => challenge_performed t change only ok

end Rules

section Dialling

variable {env : Env} {allowed : Op → Prop}

theorem dialling_closesDown (dials : ∀ op : Op, op.Dials → allowed op) (op : Op)
    (closesDown : op.ClosesDown) : allowed op :=
  dials op (dials_of_closesDown op closesDown)

theorem startTunnel_does (dials : ∀ op : Op, op.Dials → allowed op) (t : TunnelPtr) (c : CallPtr) :
    Does env allowed (startTunnel env t c) :=
  startTunnel_within ((closesDown_sends (dialling_closesDown dials)).on t c)
    (raises_performed t .SCCRQ fun _ => dials _ rfl)
    (challenges_performed t fun _ => dials _ trivial)

theorem startIncoming_does (t : TunnelPtr) (c : CallPtr) : Does env Op.Places (startIncoming env t c) :=
  startIncoming_within ((closesDown_sends places_of_closesDown).on t c) (raisesCall_performed c .ICRQ fun _ => .inl rfl)

theorem startOutgoing_does (t : TunnelPtr) (c : CallPtr) : Does env Op.Places (startOutgoing env t c) :=
  startOutgoing_within ((closesDown_sends places_of_closesDown).on t c) (raisesCall_performed c .OCRQ fun _ => .inr rfl)

-- Dialling keeps to a relation when its asking for tunnels does and the rest of
-- it does.
structure Dialling (env : Env) (rel : Daemon → Daemon → Prop) : Prop where
  places : ∀ d d', Performed env Op.Places d d' → rel d d'
  starts : ∀ t c, Prog.Within rel (startTunnel env t c)

section Within

variable {rel : Daemon → Daemon → Prop} [Prog.Steady rel] (dialling : Dialling env rel)

include dialling

omit [Prog.Steady rel] in
theorem places_within {α : Type} (prog : Act α) (does : Does env Op.Places prog) : Prog.Within rel prog :=
  Prog.within_weaken _ _ prog dialling.places does

theorem initiate_within (t : TunnelPtr) (c : CallPtr) : Prog.Within rel (initiate env t c) :=
  initiate_starts (dialling.starts t c) (places_within dialling _ (startIncoming_does t c))
    (places_within dialling _ (startOutgoing_does t c))

omit dialling in
theorem openTunnel_places (addr : Nat) (port : U16) (lac : Option LacPtr) : Does env Op.Places
    (openTunnel env addr port lac) := by
  intro d r d' ran
  unfold openTunnel at ran
  obtain ⟨made, d₁, new, ran₁⟩ := (Prog.bind_some _ _ _ _ _).mp ran
  have created : Performed env Op.Places d d₁ := addTunnel_performed ⟨addr, port⟩ 0 trivial d made d₁ new
  refine Prog.Steady.trans _ _ _ created ?_
  rcases addTunnel_some env _ 0 d d₁ made new with ⟨_, rfl, _⟩ | ⟨_, _, rfl, added⟩
  · obtain ⟨_, rfl⟩ := (Prog.pure_some _ _ _ _).mp ran₁
    exact Prog.Steady.refl _
  · obtain ⟨cal, d₂, read, ran₂⟩ := (Prog.bind_some _ _ _ _ _).mp ran₁
    obtain ⟨_, rfl, rfl⟩ := (readCall_some _ _ _ _).mp read
    obtain ⟨_, d₃, tunnelSet, ran₃⟩ := (Prog.bind_some _ _ _ _ _).mp ran₂
    obtain ⟨_, d₄, callSet, ran₄⟩ := (Prog.bind_some _ _ _ _ _).mp ran₃
    have container : (d₂.call (d.fresh + 1)).container = d.fresh := by
      rw [added]
      simp only [withTunnel, write_here]
      rfl
    have noLnsYet : (d₂.tunnel d.fresh).lns = none ∧ (d₂.call (d.fresh + 1)).lns = none := by
      rw [added]
      simp only [withTunnel, write_here]
      exact ⟨rfl, rfl⟩
    rw [container] at tunnelSet
    have first : Performed env Op.Places d₂ d₃ := by
      obtain ⟨live, rfl⟩ := (setTunnel_some _ _ _ _ _).mp tunnelSet
      refine performed_op (.tunnel d.fresh _) d₂ _ trivial (if_pos ⟨live, ?_⟩)
      simp only [Tunnel.core, noLnsYet.1]
    have sameCalls : d₃.call = d₂.call := by
      obtain ⟨_, rfl⟩ := (setTunnel_some _ _ _ _ _).mp tunnelSet
      rfl
    have second : Performed env Op.Places d₃ d₄ := by
      obtain ⟨live, rfl⟩ := (setCall_some _ _ _ _ _).mp callSet
      refine performed_op (.call (d.fresh + 1) _) d₃ _ trivial (if_pos ⟨live, ?_⟩)
      rw [sameCalls]
      simp only [Call.core, noLnsYet.2]
    refine Prog.Steady.trans _ _ _ first (Prog.Steady.trans _ _ _ second ?_)
    exact Prog.within_bind (bindLac_does places_of_closesDown _ lac) (fun _ => Prog.within_pure _ _) d₄ r d' ran₄

omit dialling in
theorem placeCall_places (t : TunnelPtr) (lac : Option LacPtr) (dialNo : CString) :
    Does env Op.Places (placeCall env t lac dialNo) := by
  intro d r d' ran
  unfold placeCall at ran
  obtain ⟨made, d₁, new, ran₁⟩ := (Prog.bind_some _ _ _ _ _).mp ran
  rcases newCall_some env t d d₁ made new with ⟨_, rfl, rfl⟩ | ⟨_, rfl, live, added⟩
  · obtain ⟨_, rfl⟩ := (Prog.pure_some _ _ _ _).mp ran₁
    exact Prog.Steady.refl _
  · obtain ⟨_, d₂, linked, ran₂⟩ := (Prog.bind_some _ _ _ _ _).mp ran₁
    obtain ⟨_, d₃, cleared, ran₃⟩ := (Prog.bind_some _ _ _ _ _).mp ran₂
    have first : Performed env Op.Places d d₂ := by
      refine performed_op (.newCall t) d d₂ trivial ?_
      have ran : addIncomingCall env t d = some (0, d₂) := by
        unfold addIncomingCall
        rw [Prog.bind_some]
        refine ⟨some d.fresh, d₁, new, ?_⟩
        dsimp only
        rw [Prog.bind_some]
        exact ⟨_, d₂, linked, rfl⟩
      show (addIncomingCall env t d).map Prod.snd = some d₂
      rw [ran]
      rfl
    have idle : (d₂.call d.fresh).state = none := by
      obtain ⟨_, rfl⟩ := (setTunnel_some _ _ _ _ _).mp linked
      rw [added]
      simp only [withCall, write_here]
      rfl
    have second : Performed env Op.Places d₂ d₃ := by
      obtain ⟨callLive, rfl⟩ := (setCall_some _ _ _ _ _).mp cleared
      exact performed_op (.free d.fresh _) d₂ _ trivial (if_pos ⟨callLive, idle, rfl⟩)
    refine Prog.Steady.trans _ _ _ first (Prog.Steady.trans _ _ _ second ?_)
    refine Prog.within_bind (bindCall_does places_of_closesDown _ lac) (fun _ => ?_) d₃ r d' ran₃
    exact Prog.within_bind (closesDown_setCall places_of_closesDown _ _ fun _ => rfl) fun _ => Prog.within_pure _ _

theorem dials_of_dialling : Dials env rel where
  initiates := initiate_within dialling
  redials l := places_within dialling _ (closesDown_beside places_of_closesDown _ (redialLater_beside env l))
  opens addr port lac := places_within dialling _ (openTunnel_places addr port lac)
  places t lac dialNo := places_within dialling _ (placeCall_places t lac dialNo)

theorem l2tpCall_within (host : CString) (port : U16) (lac : Option LacPtr) : Prog.Within rel
    (l2tpCall env host port lac) :=
  l2tpCall_dials (dials_of_dialling dialling) host port lac

theorem lacCall_within (tid : Nat) (lac : Option LacPtr) : Prog.Within rel (lacCall env tid lac) :=
  lacCall_dials (dials_of_dialling dialling) tid lac

theorem magicLacDial_within (l : LacPtr) : Prog.Within rel (magicLacDial env l) :=
  magicLacDial_dials (dials_of_dialling dialling) l (places_within dialling _ (setLac_does places_of_closesDown l _))

theorem dialLac_within (lac : Option LacPtr) : Prog.Within rel (dialLac env lac) := by
  cases lac with
  | none => exact Prog.within_pure _ _
  | some l => exact magicLacDial_within dialling l

end Within

theorem dialling_performed (dials : ∀ op : Op, op.Dials → allowed op) : Dialling env (Performed env allowed) where
  places d d' := performed_weaken _ (fun op places => dials op (dials_of_places op places)) d d'
  starts := startTunnel_does dials

end Dialling

-- Reading a message marks the entry it came on, and may make calls.
def Op.Parses (t : TunnelPtr) (c : CallPtr) : Op → Prop
  | .mark c' _ => c' = c
  | .newCall t' => t' = t
  | op => op.ClosesDown

theorem parses_of_closesDown (t : TunnelPtr) (c : CallPtr) (op : Op) (closesDown : op.ClosesDown) : op.Parses t c := by
  cases op <;> trivial

section Messages

variable {env : Env} {allowed : Op → Prop} (t : TunnelPtr) (c : CallPtr)
    (parses : ∀ op : Op, op.Parses t c → allowed op)

include parses

theorem parsing_closesDown (op : Op) (closesDown : op.ClosesDown) : allowed op :=
    parses op (parses_of_closesDown t c op closesDown)

theorem addIncomingCall_does : Does env allowed (addIncomingCall env t) := by
  intro d result d' ran
  refine performed_op (.newCall t) d d' (parses _ rfl) ?_
  show (addIncomingCall env t d).map Prod.snd = some d'
  rw [ran]
  rfl

theorem handleAvps_does (buf : RecvBuffer) : Does env allowed (handleAvps env t c buf) :=
  handleAvps_within (closesDown_tiesOnly (parsing_closesDown t c parses)).admits.stores
    (fun msgtype => mark_performed c msgtype (parses _ rfl))
    (addIncomingCall_does t c parses) buf

end Messages

end ZyAgf.Xl2tpd
