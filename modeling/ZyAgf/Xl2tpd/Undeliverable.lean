import ZyAgf.Xl2tpd.Growth
import ZyAgf.Xl2tpd.Retransmission

set_option autoImplicit false

namespace ZyAgf.Xl2tpd

theorem destroyCalls_kills (env : Env) (calls : List CallPtr) (c : CallPtr) (member : c ∈ calls) (d d' : Daemon)
    (u : PUnit)
    (old : c < d.fresh) (ran : calls.forM (destroyCall env) d = some (u, d')) : (d'.call c).live = false := by
  induction calls generalizing d with
  | nil => cases member
  | cons first rest ih =>
      obtain ⟨_, d₁, one, ran⟩ := (Prog.bind_some _ _ _ _ _).mp ran
      have first' := destroyCall_grows env first d _ d₁ one
      have later : Grows d₁ d' := Prog.within_forM rest _ (fun c _ => destroyCall_grows env c) d₁ u d' ran
      rcases List.mem_cons.mp member with rfl | inside
      · exact later.gone c (Nat.lt_of_lt_of_le old first'.fresh) (destroyCall_dead env c d d₁ _ one)
      · exact ih inside d₁ (Nat.lt_of_lt_of_le old first'.fresh) ran

theorem destroyTunnel_kills (env : Env) (t : TunnelPtr) (c : CallPtr) (d d' : Daemon) (u : PUnit) (old : c < d.fresh)
    (member : (d.tunnel t).self = some c ∨ c ∈ (d.tunnel t).calls) (ran : destroyTunnel env t d = some (u, d')) :
    (d'.call c).live = false := by
  unfold destroyTunnel at ran
  obtain ⟨tun, d₁, read, ran⟩ := (Prog.bind_some _ _ _ _ _).mp ran
  obtain ⟨_, rfl, rfl⟩ := (readTunnel_some _ _ _ _).mp read
  obtain ⟨_, d₂, cleared, ran⟩ := (Prog.bind_some _ _ _ _ _).mp ran
  have clears : Grows d₁ d₂ := Prog.within_forM _ _ (fun c _ => destroyCall_grows env c) d₁ _ d₂ cleared
  have old₂ : c < d₂.fresh := Nat.lt_of_lt_of_le old clears.fresh
  rcases member with own | inside
  · obtain ⟨_, d₃, unlinked, ran⟩ := (Prog.bind_some _ _ _ _ _).mp ran
    obtain ⟨_, d₄, left, ran⟩ := (Prog.bind_some _ _ _ _ _).mp ran
    obtain ⟨_, d₅, leftLns, ran⟩ := (Prog.bind_some _ _ _ _ _).mp ran
    obtain ⟨me, d₆, found, ran⟩ := (Prog.bind_some _ _ _ _ _).mp ran
    obtain ⟨is, rfl⟩ := (deref_some _ _ _ _).mp found
    obtain rfl : c = me := Option.some.inj (own.symm.trans is)
    obtain ⟨_, d₇, destroyed, ran⟩ := (Prog.bind_some _ _ _ _ _).mp ran
    obtain ⟨_, rfl⟩ := (setTunnel_some _ _ _ _ _).mp ran
    exact destroyCall_dead env c _ d₇ _ destroyed
  · have gone := destroyCalls_kills env _ c inside d₁ d₂ _ old cleared
    have rest : Prog.Within Grows (do
        modify fun d => { d with tunnels := d.tunnels.erase t }
        leaveLac env (fun lac => { lac with t := none }) (d₁.tunnel t).lac
        leaveLns (d₁.tunnel t).lns
        let me ← deref (d₁.tunnel t).self
        destroyCall env me
        setTunnel t fun tun => { tun with live := false } : Act PUnit) := by
      refine Prog.within_bind (Prog.within_modify _ _ fun d => grows_records d _ (Nat.le_refl _) rfl rfl) fun _ => ?_
      refine Prog.within_bind (leaveLac_grows env _ _) fun _ => Prog.within_bind (leaveLns_grows _) fun _ => ?_
      refine Prog.within_bind (deref_within _ _) fun me => ?_
      exact Prog.within_bind (destroyCall_grows env me) fun _ => setTunnel_grows t _
    exact (rest d₂ u d' ran).gone c old₂ gone

-- What building a closing message leaves of the tunnel and its own entry.
structure Unshaken (t : TunnelPtr) (s : CallPtr) (d d' : Daemon) : Prop where
  fresh : d'.fresh = d.fresh
  tunnel : ((d'.tunnel t).self, (d'.tunnel t).calls, (d'.tunnel t).cLr, (d'.tunnel t).controlSeqNum) =
    ((d.tunnel t).self, (d.tunnel t).calls, (d.tunnel t).cLr, (d.tunnel t).controlSeqNum)
  call : ((d'.call s).needclose, (d'.call s).closing, (d'.call s).container) =
    ((d.call s).needclose, (d.call s).closing, (d.call s).container)

instance (t : TunnelPtr) (s : CallPtr) : Prog.Steady (Unshaken t s) where
  refl _ := ⟨rfl, rfl, rfl⟩
  trans _ _ _ first second :=
    ⟨second.fresh.trans first.fresh, second.tunnel.trans first.tunnel, second.call.trans first.call⟩

section Unshaken

variable (env : Env) (t : TunnelPtr) (s : CallPtr)

theorem setSelf_unshaken (change : Call → Call)
    (keeps : ∀ cal, ((change cal).needclose, (change cal).closing, (change cal).container) =
    (cal.needclose, cal.closing, cal.container)) : Prog.Within (Unshaken t s) (setCall s change) := by
  intro d u d' ran
  obtain ⟨_, rfl⟩ := (setCall_some _ _ _ _ _).mp ran
  refine ⟨rfl, rfl, ?_⟩
  simpa using keeps (d.call s)

theorem noteCloseSs_unshaken : Prog.Within (Unshaken t s) (noteCloseSs t s) := by
  unfold noteCloseSs
  exact Prog.within_bind (readTunnel_within _ t) fun _ => setSelf_unshaken t s _ fun _ => rfl

theorem stopCCNBody_unshaken : Prog.Within (Unshaken t s) (stopCCNBody env t s) := by
  have vector : Prog.Within (Unshaken t s) (addRandvect env t) := by
    unfold addRandvect getEntropy
    refine Prog.within_bind (readTunnel_within _ t) fun tun => Prog.within_ite _ _ _ _ (fun _ => ?_) fun _ =>
      Prog.within_pure _ _
    refine Prog.within_bind ?_ fun vector => Prog.within_bind ?_ fun _ => Prog.within_pure _ _
    · refine Prog.within_bind (Prog.within_get _) fun d => Prog.within_bind ?_ fun _ => Prog.within_pure _ _
      exact Prog.within_modify _ _ fun d => ⟨rfl, rfl, rfl⟩
    · intro d u d' ran
      obtain ⟨_, rfl⟩ := (setTunnel_some _ _ _ _ _).mp ran
      refine ⟨rfl, ?_, rfl⟩
      simp only [write_here]
  unfold stopCCNBody closingResult
  refine Prog.within_bind vector fun _ => Prog.within_bind (readTunnel_within _ t) fun _ => Prog.within_bind ?_ fun _ =>
    Prog.within_pure _ _
  refine Prog.within_bind (setSelf_unshaken t s _ fun _ => rfl) fun _ => ?_
  exact Prog.within_bind (readCall_within _ s) fun _ => Prog.within_pure _ _

end Unshaken

def withNumber (d : Daemon) (t : TunnelPtr) : Daemon :=
  { d with tunnel := write d.tunnel t { d.tunnel t with controlSeqNum := (d.tunnel t).controlSeqNum + 1 } }

theorem withNumber_here (d : Daemon) (t : TunnelPtr) :
    (withNumber d t).tunnel t = { d.tunnel t with controlSeqNum := (d.tunnel t).controlSeqNum + 1 } := write_here _ _ _

theorem withNumber_call (d : Daemon) (t : TunnelPtr) : (withNumber d t).call = d.call := rfl

theorem withNumber_grows (d : Daemon) (t : TunnelPtr) : Grows d (withNumber d t) :=
    grows_records _ _ (Nat.le_refl _) rfl rfl

theorem numbered_some {β : Type} (t : TunnelPtr) (c : CallPtr) (body : List UInt8) (later : Buffer → Act β)
    (d d' : Daemon) (b : β)
    (ran : (do
      let buf ← newOutgoing t body
      let buf ← addControlHdr t c buf
      later buf) d = some (b, d')) : ∃ buf : Buffer,
      later buf (withNumber d t) = some (b, d') ∧
      buf.tunnel = some t ∧ buf.peer = (d.tunnel t).peer ∧ buf.retries = 0 ∧ buf.hdr.Ns = (d.tunnel t).controlSeqNum ∧
      buf.hdr.Nr = (d.tunnel t).controlRecSeqNum := by
  unfold newOutgoing addControlHdr at ran
  simp only [Prog.bind_some, Prog.pure_some, readTunnel_some, readCall_some, setTunnel_some] at ran
  obtain ⟨_, _, ⟨_, _, ⟨_, rfl, rfl⟩, rfl, rfl⟩, _, _, ⟨_, _, ⟨_, rfl, rfl⟩, _, _, ⟨_, rfl, rfl⟩, _, _, ⟨_, rfl⟩, rfl, rfl⟩, ran⟩ := ran
  exact ⟨_, ran, rfl, rfl, rfl, rfl, rfl⟩

-- A tunnel and its own entry, when a message of the tunnel cannot be sent at all.
structure Stuck (t : TunnelPtr) (c : CallPtr) (d : Daemon) : Prop where
  old : c < d.fresh
  member : (d.tunnel t).self = some c ∨ c ∈ (d.tunnel t).calls
  self : ∀ s, (d.tunnel t).self = some s → (d.call s).container = t ∧ s < d.fresh
  uncovered : (d.tunnel t).cLr.toNat ≤ (d.tunnel t).controlSeqNum.toNat

theorem spent_some (env : Env) (spent : env.maxRetries ≤ 0) (depth : Nat) (buf : Buffer) (t : TunnelPtr) (d d' : Daemon)
    (u : PUnit)
    (owner : buf.tunnel = some t) (unsent : buf.retries = 0) (uncovered : (d.tunnel t).cLr.toNat ≤ buf.hdr.Ns.toNat)
    (ran : controlXmit env depth buf d = some (u, d')) : ∃ below s, (d.tunnel t).self = some s ∧
      callClose env below s { d with call := write d.call s (exhausted (d.call s)) } = some (u, d') := by
  cases depth with
  | zero =>
      rw [controlXmit] at ran
      exact ((Prog.wrong_some _ _ _).mp ran).elim
  | succ below =>
      rw [controlXmit, owner] at ran
      obtain ⟨tun, d₁, read, gives⟩ := (Prog.bind_some _ _ _ _ _).mp ran
      obtain ⟨_, rfl, rfl⟩ := (readTunnel_some _ _ _ _).mp read
      have late : env.maxRetries < buf.retries + 1 := by omega
      rw [if_neg (Nat.not_lt.mpr uncovered)] at gives
      dsimp only at gives
      rw [if_pos late] at gives
      obtain ⟨s, d₂, found, closes⟩ := (Prog.bind_some _ _ _ _ _).mp gives
      obtain ⟨own, rfl⟩ := (deref_some _ _ _ _).mp found
      obtain ⟨_, d₃, noted, closed⟩ := (Prog.bind_some _ _ _ _ _).mp closes
      obtain ⟨_, rfl⟩ := (setCall_some _ _ _ _ _).mp noted
      exact ⟨below, s, own, closed⟩

theorem callClose_kills (env : Env) (spent : env.maxRetries ≤ 0) (depth : Nat) (t : TunnelPtr) (s c : CallPtr)
    (d d' : Daemon) (u : PUnit)
    (stuck : Stuck t c d) (own : (d.tunnel t).self = some s)
    (marked : (d.call s).closing = true ∨ (d.call s).needclose = true)
    (ran : callClose env depth s d = some (u, d')) : (d'.call c).live = false := by
  obtain ⟨old, member, home, counted⟩ := stuck
  obtain ⟨inside, young⟩ := home s own
  cases depth with
  | zero =>
      rw [callClose] at ran
      exact ((Prog.wrong_some _ _ _).mp ran).elim
  | succ depth =>
      rw [callClose] at ran
      obtain ⟨cal, d₁, read, ran⟩ := (Prog.bind_some _ _ _ _ _).mp ran
      obtain ⟨_, rfl, rfl⟩ := (readCall_some _ _ _ _).mp read
      obtain ⟨tun, d₂, read, ran⟩ := (Prog.bind_some _ _ _ _ _).mp ran
      obtain ⟨_, rfl, rfl⟩ := (readTunnel_some _ _ _ _).mp read
      rw [inside, if_pos own] at ran
      obtain ⟨_, d₃, descheduled, ran⟩ := (Prog.bind_some _ _ _ _ _).mp ran
      obtain rfl := (Prog.modify_some _ _ _ _).mp descheduled
      by_cases closing : (d₂.call s).closing = true
      · rw [if_pos closing] at ran
        refine destroyTunnel_kills env t c _ d' u ?_ ?_ ran
        · exact old
        · exact member
      · have wants : (d₂.call s).needclose = true := marked.resolve_left closing
        rw [if_neg closing] at ran
        obtain ⟨_, d₄, noted, ran⟩ := (Prog.bind_some _ _ _ _ _).mp ran
        obtain ⟨body, d₅, built, ran⟩ := (Prog.bind_some _ _ _ _ _).mp ran
        have kept := Prog.Steady.trans _ _ _ (noteCloseSs_unshaken t s _ _ d₄ noted)
          (stopCCNBody_unshaken env t s d₄ body d₅ built)
        obtain ⟨buf, ran, owner, _, unsent, number, _⟩ := numbered_some t s body _ d₅ d' u ran
        obtain ⟨_, d₆, sent, later⟩ := (Prog.bind_some _ _ _ _ _).mp ran
        obtain ⟨tun, d₇, read, walks⟩ := (Prog.bind_some _ _ _ _ _).mp later
        obtain ⟨standing, rfl, rfl⟩ := (readTunnel_some _ _ _ _).mp read
        obtain ⟨_, d₈, cleared, ends⟩ := (Prog.bind_some _ _ _ _ _).mp walks
        obtain ⟨present, _⟩ := (setCall_some _ _ _ _ _).mp ends
        have self : (d₅.tunnel t).self = some s := (congrArg Prod.fst kept.tunnel).trans own
        have close : (d₅.call s).needclose = true := (congrArg Prod.fst kept.call).trans wants
        have numbers : (d₅.tunnel t).cLr.toNat ≤ (d₅.tunnel t).controlSeqNum.toNat := by
          have acked := congrArg (fun kept => kept.2.2.1) kept.tunnel
          have next' := congrArg (fun kept => kept.2.2.2) kept.tunnel
          dsimp only at acked next'
          rw [acked, next']
          exact counted
        obtain ⟨below, s', own', closed⟩ := spent_some env spent depth buf t _ d₇ _ owner unsent
          (by rw [withNumber_here, number]; exact numbers) sent
        rw [withNumber_here] at own'
        obtain rfl : s = s' := Option.some.inj (self.symm.trans own')
        obtain ⟨_, _, marks⟩ := callClose_marks env below s _ d₇ _ closed
        have shut : (exhausted (d₅.call s)).closing = true := by rw [exhausted, if_pos close]
        have container : (d₅.call s).container = t := (congrArg (fun kept => kept.2.2) kept.call).trans inside
        simp only [write_here, withNumber_call, exhausted_live, container] at marks
        rw [if_pos shut] at marks
        rcases marks with buried | gone
        · rw [standing] at buried
          cases buried
        · -- The entry is marked once more behind its calls, when it is gone already.
          have old₇ : s < d₇.fresh := by
            have more := ((close_within (shuts_grows env) below).2 s _ _ d₇ closed).fresh
            exact Nat.lt_of_lt_of_le young (Nat.le_trans (Nat.le_of_eq kept.fresh.symm) more)
          have walked : Grows d₇ d₈ := by
            refine Prog.within_forM _ _ (fun tmp _ => ?_) d₇ _ d₈ cleared
            exact Prog.within_bind (setCall_grows tmp _ (fun _ => id) fun _ => rfl) fun _ =>
              (close_within (shuts_grows env) depth).2 tmp
          rw [walked.gone s old₇ gone] at present
          cases present

theorem controlXmit_kills (env : Env) (spent : env.maxRetries ≤ 0) (depth : Nat) (buf : Buffer) (t : TunnelPtr)
    (c : CallPtr)
    (d d' : Daemon) (u : PUnit) (owner : buf.tunnel = some t) (unsent : buf.retries = 0) (stuck : Stuck t c d)
    (uncovered : (d.tunnel t).cLr.toNat ≤ buf.hdr.Ns.toNat) (ran : controlXmit env depth buf d = some (u, d')) :
    (d'.call c).live = false := by
  obtain ⟨below, s, own, closed⟩ := spent_some env spent depth buf t d d' u owner unsent uncovered ran
  have still : Stuck t c { d with call := write d.call s (exhausted (d.call s)) } := by
    refine ⟨stuck.old, stuck.member, fun s' own' => ?_, stuck.uncovered⟩
    obtain rfl := Option.some.inj (own.symm.trans own')
    simp only [write_here, exhausted_live]
    exact stuck.self s own
  refine callClose_kills env spent below t s c _ d' u still own ?_ closed
  simp only [write_here]
  unfold exhausted
  split
  · exact .inl rfl
  · exact .inr rfl

end ZyAgf.Xl2tpd
