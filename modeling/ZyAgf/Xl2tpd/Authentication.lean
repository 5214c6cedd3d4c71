import ZyAgf.Xl2tpd.StateGuard
import ZyAgf.Xl2tpd.Mandatory

set_option autoImplicit false

namespace ZyAgf.Xl2tpd

def Tunnel.proof (tun : Tunnel) : Option Msg × Option LnsPtr × CString × List UInt8 × Vector UInt8 16 × Bool :=
  (tun.state, tun.lns, tun.chalThem.secret, tun.chalThem.challenge, tun.chalThem.response, tun.chalThem.challenged)

theorem proof_of_core {tun new : Tunnel} (same : new.core = tun.core) : new.proof = tun.proof :=
  congrArg (fun core : TunnelCore => (core.state, core.lns, core.secret, core.challenge, core.response,
    core.challenged)) same

def Op.Calm : Op → Prop
  | .raise _ _ _ | .choose _ _ | .challenge _ _ | .newTunnel _ _ | .editLns _ _ => False
  | _ => True

-- The operations that touch it only where they may, let no other tunnel wait for an
-- answer and leave the settings of the entries alone.
def Op.Spares (but : TunnelPtr → Prop) : Op → Prop
  | .choose t _ | .challenge t _ => but t
  | .raise t m _ => but t ∨ m ≠ .SCCRP
  | .editLns _ _ => False
  | _ => True

def LnsListed (d : Daemon) : Prop := ∀ l ∈ d.lnslist ++ d.deflns.toList, l < d.fresh

-- A tunnel is no new one, and nothing has touched what the check rests on.
def Stands (t : TunnelPtr) (d d' : Daemon) : Prop := (d'.tunnel t).proof = (d.tunnel t).proof ∧
    (t ∈ d'.tunnels → t ∈ d.tunnels)

structure Unmoved (but : TunnelPtr → Prop) (d d' : Daemon) : Prop where
  tunnel : ∀ t, ¬ but t → Stands t d d' ∨ (d'.tunnel t).state ≠ some .SCCRP
  lns : ∀ l, l < d.fresh → (d'.lns l).challenge = (d.lns l).challenge
  lists : LnsListed d → LnsListed d'
  grows : d.fresh ≤ d'.fresh

def Steadfast (but : TunnelPtr → Prop) (d d' : Daemon) : Prop := Listed d → Listed d' ∧ Unmoved but d d'

section Steadfast

variable (but : TunnelPtr → Prop)

theorem unmoved_refl (d : Daemon) : Unmoved but d d := ⟨fun _ _ => .inl ⟨rfl, id⟩, fun _ _ => rfl, id, Nat.le_refl _⟩

theorem unmoved_trans (d d' d'' : Daemon) (first : Unmoved but d d')
    (second : Unmoved but d' d'') : Unmoved but d d'' where
  tunnel t other := by
    rcases second.tunnel t other with ⟨kept, inside⟩ | idle
    · rcases first.tunnel t other with ⟨before, already⟩ | idle
      · exact .inl ⟨kept.trans before, already ∘ inside⟩
      · exact .inr fun waits => idle ((congrArg Prod.fst kept).symm.trans waits)
    · exact .inr idle
  lns l old := (second.lns l (Nat.lt_of_lt_of_le old first.grows)).trans (first.lns l old)
  lists := second.lists ∘ first.lists
  grows := Nat.le_trans first.grows second.grows

instance : Prog.Steady (Steadfast but) where
  refl d := fun listed => ⟨listed, unmoved_refl but d⟩
  trans := by
    intro d d' d'' first second listed
    obtain ⟨middle, one⟩ := first listed
    obtain ⟨last, two⟩ := second middle
    exact ⟨last, unmoved_trans but d d' d'' one two⟩

section Performed

variable (env : Env) (d d' : Daemon) (op : Op) (done : perform env d op = some d')

include done

theorem perform_calm (calm : op.Calm) (t : TunnelPtr) : (d'.tunnel t).proof = (d.tunnel t).proof := by
  by_cases still : op.Retunnels
  · have effect := perform_effect env d d' op done
    have written (x : TunnelPtr) (new : Tunnel) (same : new.proof = (d.tunnel x).proof) :
        (write d.tunnel x new t).proof = (d.tunnel t).proof := write_same d.tunnel Tunnel.proof x new same t
    cases op with
    | newCall x =>
        rcases effect with rfl | ⟨_, rfl⟩
        · rfl
        · exact written x _ rfl
    | destroyCall c =>
        obtain ⟨_, _, rest, _, rfl⟩ := effect
        exact written (d.call c).container _ rfl
    | bury x =>
        obtain ⟨_, _, rfl⟩ := effect
        exact written x _ rfl
    | check buf x c =>
        rcases effect with rfl | ⟨_, rfl⟩
        · rfl
        · refine written x _ ?_
          unfold checkedTunnel
          split <;> rfl
    | zlb x c =>
        obtain ⟨_, _, rfl⟩ := effect
        exact written x _ rfl
    | raise _ _ _ | choose _ _ | challenge _ _ | newTunnel _ _ | editLns _ _ => exact calm.elim
    | _ => exact still.elim
  · exact proof_of_core (perform_tunnelCore env d d' op still done t)

theorem perform_proof (spares : op.Spares but) (t : TunnelPtr) (other : ¬ but t) :
    Stands t d d' ∨ (d'.tunnel t).state ≠ some .SCCRP := by
  have effect := perform_effect env d d' op done
  have fewer (still : ∀ peer refhim, op ≠ .newTunnel peer refhim) : t ∈ d'.tunnels → t ∈ d.tunnels :=
    fun member => perform_fewer env d d' op done still member
  cases op with
  | raise x m new =>
      obtain ⟨_, core, rfl⟩ := effect
      by_cases same : t = x
      · have raised : new.state = some m := congrArg TunnelCore.state core
        refine .inr ?_
        rw [same]
        simp only [write_here, raised]
        exact fun waits => (spares.resolve_left (same ▸ other)) (Option.some.inj waits)
      · exact .inl ⟨congrArg Tunnel.proof (write_elsewhere _ _ _ _ same), id⟩
  | choose x l =>
      obtain ⟨_, rfl⟩ := effect
      exact .inl ⟨congrArg Tunnel.proof (write_elsewhere d.tunnel x t _ fun same => other (same ▸ spares)), id⟩
  | challenge x chal =>
      obtain ⟨_, rfl⟩ := effect
      exact .inl ⟨congrArg Tunnel.proof (write_elsewhere d.tunnel x t _ fun same => other (same ▸ spares)), id⟩
  | newTunnel peer refhim =>
      rcases effect with rfl | rfl | rfl
      · exact .inl ⟨rfl, id⟩
      · by_cases new : t = d.fresh
        · exact .inr (by rw [new, withLostTunnel_here]; intro waits; cases waits)
        · exact .inl ⟨by rw [withLostTunnel_elsewhere env d t new], id⟩
      · by_cases new : t = d.fresh
        · exact .inr (by rw [new, withTunnel_here]; intro waits; cases waits)
        · exact .inl ⟨by rw [withTunnel_elsewhere env d peer refhim t new], fun member =>
            (List.mem_cons.mp member).resolve_left new⟩
  | editLns l options => exact spares.elim
  | _ => exact .inl ⟨perform_calm env d d' _ done trivial t, fewer (by rintro _ _ ⟨⟩)⟩

theorem perform_entries (spares : op.Spares but) :
    (∀ l, l < d.fresh → (d'.lns l).challenge = (d.lns l).challenge) ∧ (LnsListed d → LnsListed d') ∧
    d.fresh ≤ d'.fresh := by
  have effect := perform_effect env d d' op done
  have set (l : LnsPtr) (new : Lns) (same : new.challenge = (d.lns l).challenge) (other : LnsPtr) :
      (write d.lns l new other).challenge = (d.lns other).challenge := write_same d.lns Lns.challenge l new same other
  have later (n : Nat) (grows : d.fresh ≤ n) (listed : LnsListed d) : ∀ l ∈ d.lnslist ++ d.deflns.toList, l < n :=
    fun l member => Nat.lt_of_lt_of_le (listed l member) grows
  cases op with
  | aside rest =>
      obtain ⟨grows, rfl⟩ := effect
      exact ⟨fun _ _ => rfl, later rest.fresh grows, grows⟩
  | leaves l =>
      obtain ⟨_, rfl⟩ := effect
      exact ⟨fun other _ => set l { d.lns l with t := none } rfl other, id, Nat.le_refl _⟩
  | addLns entry =>
      obtain rfl := effect
      refine ⟨fun l old => ?_, fun listed l member => ?_, Nat.le_succ _⟩
      · exact congrArg Lns.challenge (write_elsewhere _ _ _ _ (Nat.ne_of_lt old))
      · rcases List.mem_cons.mp member with rfl | old
        · exact Nat.lt_succ_self _
        · exact later _ (Nat.le_succ _) listed l old
  | editLns l options => exact spares.elim
  | dropLns l =>
      obtain ⟨_, rfl⟩ := effect
      refine ⟨fun other _ => set l { d.lns l with live := false } rfl other, fun listed other member => listed other ?_,
        Nat.le_refl _⟩
      rcases List.mem_append.mp member with kept | fallback
      · exact List.mem_append_left _ (List.mem_of_mem_erase kept)
      · exact List.mem_append_right _ fallback
  | newTunnel peer refhim =>
      rcases effect with rfl | rfl | rfl
      · exact ⟨fun _ _ => rfl, id, Nat.le_refl _⟩
      · exact ⟨fun _ _ => rfl, later (d.fresh + 1) (Nat.le_succ _), Nat.le_succ _⟩
      · exact ⟨fun _ _ => rfl, later (d.fresh + 2) (Nat.le_add_right _ 2), Nat.le_add_right _ 2⟩
  | newCall t =>
      rcases effect with rfl | ⟨_, rfl⟩
      · exact ⟨fun _ _ => rfl, id, Nat.le_refl _⟩
      · exact ⟨fun _ _ => rfl, later (d.fresh + 1) (Nat.le_succ _), Nat.le_succ _⟩
  | destroyCall c =>
      obtain ⟨_, _, rest, grows, rfl⟩ := effect
      exact ⟨fun _ _ => rfl, later rest.fresh grows, grows⟩
  | takeLocal c addr =>
      obtain ⟨l, _, _, _, _, _, rfl⟩ := effect
      exact ⟨fun other _ => set l { d.lns l with localaddr := addr } rfl other, id, Nat.le_refl _⟩
  | check buf t c =>
      rcases effect with rfl | ⟨_, rfl⟩
      · exact ⟨fun _ _ => rfl, id, Nat.le_refl _⟩
      · exact ⟨fun _ _ => rfl, id, Nat.le_refl _⟩
  | unlink t => obtain rfl := effect; exact ⟨fun _ _ => rfl, id, Nat.le_refl _⟩
  | zlb t c => obtain ⟨_, _, rfl⟩ := effect; exact ⟨fun _ _ => rfl, id, Nat.le_refl _⟩
  | mark c msgtype => obtain ⟨_, rfl⟩ := effect; exact ⟨fun _ _ => rfl, id, Nat.le_refl _⟩
  | choose t l => obtain ⟨_, rfl⟩ := effect; exact ⟨fun _ _ => rfl, id, Nat.le_refl _⟩
  | challenge t chal => obtain ⟨_, rfl⟩ := effect; exact ⟨fun _ _ => rfl, id, Nat.le_refl _⟩
  | free c new => obtain ⟨_, _, _, rfl⟩ := effect; exact ⟨fun _ _ => rfl, id, Nat.le_refl _⟩
  | _ => obtain ⟨_, _, rfl⟩ := effect; exact ⟨fun _ _ => rfl, id, Nat.le_refl _⟩

theorem perform_unmoved (spares : op.Spares but) : Unmoved but d d' :=
  have entries := perform_entries but env d d' op done spares
  ⟨perform_proof but env d d' op done spares, entries.1, entries.2.1, entries.2.2⟩

end Performed

theorem steadfast_of_performed (env : Env) (allowed : Op → Prop) (spares : ∀ op, allowed op → op.Spares but)
    (d d' : Daemon)
    (performed : Performed env allowed d d') : Steadfast but d d' := by
  intro listed
  obtain ⟨visits, run, meets⟩ := performed listed
  refine Run.invariant (fun _ op => allowed op) (fun s => Listed s ∧ Unmoved but d s)
    ⟨listed, unmoved_refl but d⟩ ?_ run meets
  rintro s op s' ⟨there, unmoved⟩ ok done
  exact ⟨perform_listed env s s' op there done,
    unmoved_trans but d s s' unmoved (perform_unmoved but env s s' op done (spares op ok))⟩

theorem performed_calm (env : Env) (allowed : Op → Prop) (calm : ∀ op, allowed op → op.Calm) (d d' : Daemon)
    (listed : Listed d)
    (performed : Performed env allowed d d') (t : TunnelPtr) : (d'.tunnel t).proof = (d.tunnel t).proof := by
  obtain ⟨visits, run, meets⟩ := performed listed
  refine Run.invariant (fun _ op => allowed op) (fun s => (s.tunnel t).proof = (d.tunnel t).proof) rfl ?_ run meets
  intro s op s' same ok done
  exact (perform_calm env s s' op done (calm op ok) t).trans same

theorem calm_of_closesDown (op : Op) (closesDown : op.ClosesDown) : op.Calm := by
  cases op <;> trivial

theorem spares_of_calm (op : Op) (calm : op.Calm) : op.Spares but := by
  cases op <;> trivial

theorem steadfast_weaken (more : TunnelPtr → Prop) (implies : ∀ t, but t → more t) (d d' : Daemon)
    (steadfast : Steadfast but d d') :
    Steadfast more d d' := by
  intro listed
  obtain ⟨there, unmoved⟩ := steadfast listed
  exact ⟨there, fun t other => unmoved.tunnel t fun is => other (implies t is), unmoved.lns, unmoved.lists,
    unmoved.grows⟩

end Steadfast

-- Asking a peer for a tunnel challenges it, but the tunnel waits for no answer to
-- an SCCRP by then.
section Asking

variable {env : Env}

def Op.Asks (t : TunnelPtr) : Op → Prop
  | .challenge x _ => x = t
  | .raise x m _ => x = t ∧ m = .SCCRQ
  | op => op.ClosesDown

theorem asks_of_closesDown (t : TunnelPtr) (op : Op) (closesDown : op.ClosesDown) : op.Asks t := by
  cases op <;> first | exact closesDown | exact closesDown.elim

theorem startTunnel_asks (t : TunnelPtr) (c : CallPtr) : Does env (Op.Asks t) (startTunnel env t c) :=
  startTunnel_within ((closesDown_sends (asks_of_closesDown t)).on t c) (raises_performed t .SCCRQ fun _ => ⟨rfl, rfl⟩)
    (challenges_performed t fun _ => rfl)

theorem spares_of_asks (t : TunnelPtr) (op : Op) (asks : op.Asks t) : op.Spares (· = t) := by
  cases op with
  | challenge x chal => exact asks
  | raise x m new => exact .inl asks.1
  | choose x l => exact asks.elim
  | _ => trivial

theorem startTunnel_asked (t : TunnelPtr) (c : CallPtr) (d d' : Daemon) (result : Int) (listed : Listed d)
    (ran : startTunnel env t c d = some (result, d')) : (d'.tunnel t).state ≠ some .SCCRP := by
  unfold startTunnel at ran
  obtain ⟨_, d₁, inherited, ran⟩ := (Prog.bind_some _ _ _ _ _).mp ran
  obtain ⟨_, d₂, raised, ran⟩ := (Prog.bind_some _ _ _ _ _).mp ran
  have sends : Sends env (Performed env (Op.Asks t)) := closesDown_sends (asks_of_closesDown t)
  have challenges : Challenges (Performed env (Op.Asks t)) t := challenges_performed t fun _ => rfl
  have later : Performed env (Op.Asks t) d₂ d' := by
    have admits := (sends.on t c).admits
    refine Prog.within_bind (introduction_within admits env t .SCCRQ) (fun intro' => ?_) d₂ result d' ran
    refine Prog.within_bind (readTunnel_within _ t) fun tun =>
      Prog.within_bind (wantsChallenge_within _ tun) fun wanted => ?_
    refine Prog.within_ite _ _ _ _ (fun _ => ?_) fun _ => Prog.within_bind (sends.sends t c _) fun _ =>
      Prog.within_pure _ _
    refine Prog.within_bind (makeChallenge_within admits env challenges) fun made => ?_
    refine Prog.within_ite _ _ _ _ (fun _ => Prog.within_pure _ _) fun _ => ?_
    refine Prog.within_bind (challenges _ fun _ => rfl) fun _ => Prog.within_bind (readTunnel_within _ t) fun _ => ?_
    exact Prog.within_bind (sends.sends t c _) fun _ => Prog.within_pure _ _
  have earlier : Performed env (Op.Asks t) d d₁ := inheritTunnel_within (sends.on t c).admits t d _ d₁ inherited
  have there := performed_listed listed earlier
  obtain ⟨_, rfl⟩ := (setTunnel_some _ _ _ _ _).mp raised
  intro waits
  have listed₂ : Listed { d₁ with tunnel := write d₁.tunnel t { d₁.tunnel t with state := some .SCCRQ } } := there
  rcases performed_raise listed₂ later t .SCCRP waits with before | ⟨new, _, impossible⟩
  · simp at before
  · cases impossible

theorem startTunnel_steadfast (t : TunnelPtr) (c : CallPtr) : Prog.Within (Steadfast fun _ => False)
    (startTunnel env t c) := by
  intro d result d' ran listed
  have asked := startTunnel_asked t c d d' result listed ran
  obtain ⟨there, unmoved⟩ := steadfast_of_performed (· = t) env _ (spares_of_asks t) d d'
    (startTunnel_asks t c d result d' ran) listed
  refine ⟨there, fun other _ => ?_, unmoved.lns, unmoved.lists, unmoved.grows⟩
  by_cases here : other = t
  · exact .inr (here ▸ asked)
  · exact unmoved.tunnel other here

theorem spares_of_places (but : TunnelPtr → Prop) (op : Op) (places : op.Places) : op.Spares but := by
  cases op <;> trivial

theorem managing_steadfast : Managing env (Steadfast fun _ => False) where
  dialling := ⟨steadfast_of_performed _ env _ (spares_of_places _), startTunnel_steadfast⟩
  lists d d' := steadfast_of_performed _ env _ (fun op lists => by rcases lists with ⟨_, rfl⟩ | ⟨_, rfl⟩ <;> trivial) d
    d'

variable (env)

theorem closesDown_steadfast (but : TunnelPtr → Prop) (d d' : Daemon)
    (performed : Performed env Op.ClosesDown d d') : Steadfast but d d' :=
  steadfast_of_performed but env _ (fun op closesDown => spares_of_calm but op (calm_of_closesDown op closesDown)) d d'
    performed

include env in
theorem tiesOnly_steadfast (but : TunnelPtr → Prop) : TiesOnly (Steadfast but) :=
  tiesOnly_weaken (closesDown_steadfast env but) (closesDown_tiesOnly fun _ closesDown => closesDown)

end Asking

end ZyAgf.Xl2tpd
