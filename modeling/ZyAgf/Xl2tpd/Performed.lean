import ZyAgf.Xl2tpd.TiesOnlyDial

set_option autoImplicit false

namespace ZyAgf.Xl2tpd

abbrev Does (env : Env) (allowed : Op → Prop) {α : Type} (prog : Act α) : Prop :=
    Prog.Within (Performed env allowed) prog

def Op.ClosesDown : Op → Prop
  | .aside _ | .tunnel _ _ | .call _ _ | .leaves _ | .destroyCall _ | .unlink _ | .bury _ => True
  | _ => False

def Op.Dials : Op → Prop
  | .newTunnel _ _ | .newCall _ | .free _ _ | .challenge _ _ => True
  | .raise _ m _ => m = .SCCRQ
  | .raiseCall _ m _ => m = .ICRQ ∨ m = .OCRQ
  | op => op.ClosesDown

theorem dials_of_closesDown (op : Op) (closesDown : op.ClosesDown) : op.Dials := by
  cases op <;> trivial

def Op.Places : Op → Prop
  | .newTunnel _ _ | .newCall _ | .free _ _ => True
  | .raiseCall _ m _ => m = .ICRQ ∨ m = .OCRQ
  | op => op.ClosesDown

theorem places_of_closesDown (op : Op) (closesDown : op.ClosesDown) : op.Places := by
  cases op <;> trivial

theorem dials_of_places (op : Op) (places : op.Places) : op.Dials := by
  cases op <;> trivial

theorem leaveLns_tunnels (lns : Option LnsPtr) (d d' : Daemon) (u : PUnit) (ran : leaveLns lns d = some (u, d')) :
    d'.tunnels = d.tunnels := by
  cases lns with
  | none =>
      obtain ⟨_, rfl⟩ := (Prog.pure_some _ _ _ _).mp ran
      rfl
  | some l =>
      obtain ⟨_, rfl⟩ := (setLns_some _ _ _ _ _).mp ran
      rfl

section ClosesDown

variable {env : Env} {allowed : Op → Prop} (closesDown : ∀ op : Op, op.ClosesDown → allowed op)

include closesDown

theorem closesDown_beside {α : Type} (prog : Act α) (beside : Prog.Within Beside prog) : Does env allowed prog :=
  performed_beside (fun _ => closesDown _ trivial) prog beside

theorem closesDown_setTunnel (t : TunnelPtr) (change : Tunnel → Tunnel) (keeps : ∀ tun, (change tun).core = tun.core) :
    Does env allowed (setTunnel t change) :=
  setTunnel_performed t change keeps fun _ => closesDown _ trivial

theorem closesDown_setCall (c : CallPtr) (change : Call → Call) (keeps : ∀ cal, (change cal).core = cal.core) :
    Does env allowed (setCall c change) :=
  setCall_performed c change keeps fun _ => closesDown _ trivial

theorem closesDown_tiesOnly : TiesOnly (Performed env allowed) where
  tunnel t change keeps := closesDown_setTunnel closesDown t change fun tun => (keeps tun).1
  call c change keeps := closesDown_setCall closesDown c change fun cal => (keeps cal).1
  lac l change _ := closesDown_beside closesDown _ (setLac_beside l change)
  modify change side _ := by
    refine closesDown_beside closesDown _ (modify_beside change (fun d => ?_) fun d => ?_)
    · rw [side d]
      rfl
    · rw [side d]
      exact Nat.le_refl _

theorem destroyCall_does (c : CallPtr) : Does env allowed (destroyCall env c) := by
  intro d u d' ran
  refine performed_op (.destroyCall c) d d' (closesDown _ trivial) ?_
  show (destroyCall env c d).map Prod.snd = some d'
  rw [ran]
  rfl

theorem leaveLns_does (lns : Option LnsPtr) : Does env allowed (leaveLns lns) := by
  cases lns with
  | none => exact Prog.within_pure _ _
  | some l =>
      intro d u d' ran
      obtain ⟨live, rfl⟩ := (setLns_some _ _ _ _ _).mp ran
      exact performed_op (.leaves l) d _ (closesDown _ trivial) (if_pos live)

theorem destroyTunnel_does (t : TunnelPtr) : Does env allowed (destroyTunnel env t) := by
  unfold destroyTunnel
  refine Prog.within_bind (readTunnel_within _ t) fun tun => ?_
  refine Prog.within_bind (Prog.within_forM tun.calls _ fun c _ => destroyCall_does closesDown c) fun _ => ?_
  intro d u d' ran listed
  obtain ⟨_, d₁, unlinked, ran₁⟩ := (Prog.bind_some _ _ _ _ _).mp ran
  obtain rfl := (Prog.modify_some _ _ _ _).mp unlinked
  obtain ⟨_, d₂, forgotten, ran₂⟩ := (Prog.bind_some _ _ _ _ _).mp ran₁
  obtain ⟨_, d₃, served, ran₃⟩ := (Prog.bind_some _ _ _ _ _).mp ran₂
  obtain ⟨self, d₄, own, ran₄⟩ := (Prog.bind_some _ _ _ _ _).mp ran₃
  obtain ⟨_, rfl⟩ := (deref_some _ _ _ _).mp own
  obtain ⟨_, d₅, destroyed, ran₅⟩ := (Prog.bind_some _ _ _ _ _).mp ran₄
  obtain ⟨live, buried⟩ := (setTunnel_some _ _ _ _ _).mp ran₅
  have absent : t ∉ d₅.tunnels := by
    have sameLac : d₂.tunnels = d.tunnels.erase t := by
      obtain ⟨_, _, rfl⟩ := leaveLac_beside env _ tun.lac _ _ d₂ forgotten
      rfl
    have sameLns : d₄.tunnels = d₂.tunnels := leaveLns_tunnels tun.lns d₂ d₄ _ served
    have sameCall : d₅.tunnels = d₄.tunnels := by
      obtain ⟨_, _, _, _, rfl⟩ := destroyCall_some env self d₄ d₅ _ destroyed
      rfl
    rw [sameCall, sameLns, sameLac]
    exact listed.1.not_mem_erase
  have chain : Performed env allowed d d' := by
    refine Prog.Steady.trans _ _ _ (performed_op (.unlink t) d _ (closesDown _ trivial) rfl) ?_
    refine Prog.Steady.trans _ _ _ (closesDown_beside closesDown _ (leaveLac_beside env _ tun.lac) _ _ _ forgotten) ?_
    refine Prog.Steady.trans _ _ _ (leaveLns_does closesDown tun.lns _ _ _ served) ?_
    refine Prog.Steady.trans _ _ _ (destroyCall_does closesDown self _ _ _ destroyed) ?_
    exact performed_op (.bury t) d₅ d' (closesDown _ trivial) (by rw [buried]; exact if_pos ⟨live, absent⟩)
  exact chain listed

theorem closesDown_closes : Closes env (Performed env allowed) where
  tiesOnly := closesDown_tiesOnly closesDown
  destroyCall c d u d' _ ran := destroyCall_does closesDown c d u d' ran
  destroyTunnel t _ d u d' _ _ ran := destroyTunnel_does closesDown t d u d' ran

theorem closesDown_sends : Sends env (Performed env allowed) := sends_of_closes (closesDown_closes closesDown)

theorem controlXmit_does (depth : Nat) (buf : Buffer) : Does env allowed (controlXmit env depth buf) :=
  (close_within (closesDown_closes closesDown).shuts depth).1 buf

theorem callClose_does (depth : Nat) (c : CallPtr) : Does env allowed (callClose env depth c) :=
  (close_within (closesDown_closes closesDown).shuts depth).2 c

theorem setLac_does (l : LacPtr) (change : Lac → Lac) : Does env allowed (setLac l change) :=
  closesDown_beside closesDown _ (setLac_beside l change)

theorem closeRefused_does (p : CallPtr) : Does env allowed (closeRefused env p) := by
  unfold closeRefused
  exact Prog.within_bind (callClose_does closesDown _ p) fun _ => Prog.within_pure _ _

theorem bindLac_does (t : TunnelPtr) (lac : Option LacPtr) : Does env allowed (bindLac t lac) := by
  cases lac with
  | none => exact Prog.within_pure _ _
  | some l => exact setLac_does closesDown l _

theorem bindCall_does (c : CallPtr) (lac : Option LacPtr) : Does env allowed (bindCall c lac) := by
  cases lac with
  | none => exact Prog.within_pure _ _
  | some l => exact setLac_does closesDown l _

end ClosesDown

end ZyAgf.Xl2tpd
