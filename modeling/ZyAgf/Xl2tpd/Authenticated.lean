import ZyAgf.Xl2tpd.Authentication
import ZyAgf.Xl2tpd.Addresses

set_option autoImplicit false

namespace ZyAgf.Xl2tpd

-- handle_challenge has worked out what answers our challenge in an SCCCN.
def Challenged (cfg : Config) (tun : Tunnel) : Prop :=
  tun.chalThem.challenged = true ∧ tun.chalThem.response =
    cfg.md5 (UInt8.ofNat Msg.SCCCN.code :: tun.chalThem.secret ++ tun.chalThem.challenge)

def Authentic (cfg : Config) (tun : Tunnel) : Prop := Challenged cfg tun ∧ tun.chalThem.reply = tun.chalThem.response

instance (cfg : Config) (tun : Tunnel) : Decidable (Authentic cfg tun) := inferInstanceAs (Decidable ((_ ∧ _) ∧ _))

-- A tunnel that an SCCCN brings up for an LNS entry with a challenge is one whose
-- peer has given it.
def Authenticates (cfg : Config) (d : Daemon) (event : Event) : Prop :=
  ∀ d' p l, next cfg d event = some d' → presentation cfg d event = some p →
    p.receives { toConfig := cfg, toWorld := event.world } .SCCCN →
    (d.tunnel p.t).state ≠ some .SCCCN → (d'.tunnel p.t).state = some .SCCCN →
    (d'.tunnel p.t).lns = some l → (d'.lns l).challenge = true → Authentic cfg (d'.tunnel p.t)

def lnsSecret (env : Env) (lns : Lns) (tun : Tunnel) : Option CString :=
  env.secretFor (orElse lns.hostname env.hostname) (orElse lns.peername tun.hostname)

def repeats (env : Env) (d : Daemon) (t : TunnelPtr) : Bool :=
  d.tunnels.any fun y => decide ((d.tunnel y).tid = (d.tunnel t).tid ∧ (d.tunnel y).peer.addr = (d.tunnel t).peer.addr ∧
    (¬ env.ipsecsaref ∨ (d.tunnel y).refhim = (d.tunnel t).refhim) ∧ y ≠ t)

-- An SCCRQ that is not refused anyway, and whose LNS entry wants a challenge,
-- finds memory for it and a secret.
def Provides (env : Env) (d : Daemon) (t : TunnelPtr) : Prop :=
  (d.tunnel t).tid ≤ 0 ∨ (d.tunnel t).fc < 0 ∨ (d.tunnel t).hostname = [] ∨ repeats env d t = true ∨
    ∀ found ∈ getLns env t d, ∀ l ∈ found.1, (d.lns l).challenge = true →
      env.challengeMemory = true ∧ (lnsSecret env (d.lns l) (d.tunnel t)).isSome = true

instance (env : Env) (d : Daemon) (t : TunnelPtr) : Decidable (Provides env d t) := by
  unfold Provides
  infer_instance

def SecretsFound (cfg : Config) (d : Daemon) (event : Event) : Prop :=
  ∀ p ∈ presentation cfg d event, p.hears = true →
    ∀ ended ∈ handleAvps { toConfig := cfg, toWorld := event.world } p.t p.c p.buf p.heard, ended.1 = 0 →
      Msg.ofCode (ended.2.call p.c).msgtype = some .SCCRQ → Provides
        { toConfig := cfg, toWorld := event.world } ended.2 p.t

instance (cfg : Config) (d : Daemon) (event : Event) : Decidable (SecretsFound cfg d event) :=
  inferInstanceAs (Decidable (∀ p ∈ _, _))

-- A command that makes an LNS entry ask for a challenge finds no tunnel of it that
-- waits for an SCCCN without one.
def EditsSpare (cfg : Config) (d : Daemon) (event : Event) : Prop :=
  match event.occurs with
  | .command (.lnsAddModify name options) =>
      ∀ found ∈ findLnsByName name d, ∀ l ∈ found.1, (d.lns l).challenge = false →
        (options (d.lns l)).challenge = true →
        ∀ t ∈ d.tunnels, (d.tunnel t).state = some .SCCRP → (d.tunnel t).lns = some l → Challenged cfg (d.tunnel t)
  | _ => True

instance (cfg : Config) (tun : Tunnel) : Decidable (Challenged cfg tun) := inferInstanceAs (Decidable (_ ∧ _))

instance (cfg : Config) (d : Daemon) (event : Event) : Decidable (EditsSpare cfg d event) := by
  unfold EditsSpare
  split
  · infer_instance
  · infer_instance

-- A tunnel that waits for an SCCCN knows the answer it waits for.
def Answerable (cfg : Config) (d : Daemon) (t : TunnelPtr) : Prop :=
  (d.tunnel t).state = some .SCCRP → ∀ l, (d.tunnel t).lns = some l →
    l < d.fresh ∧ ((d.lns l).challenge = true → Challenged cfg (d.tunnel t))

structure Poised (cfg : Config) (d : Daemon) : Prop where
  listed : Listed d
  lists : LnsListed d
  waits : ∀ t ∈ d.tunnels, Answerable cfg d t

def StaysPoised (cfg : Config) (d d' : Daemon) : Prop := Poised cfg d → Poised cfg d'

instance (cfg : Config) : Prog.Steady (StaysPoised cfg) where
  refl _ := id
  trans _ _ _ first second := second ∘ first

theorem challenged_of_proof (cfg : Config) {tun new : Tunnel} (same : new.proof = tun.proof)
    (challenged : Challenged cfg tun) :
    Challenged cfg new := by
  simp only [Tunnel.proof, Prod.mk.injEq] at same
  obtain ⟨_, _, secret, challenge, response, flag⟩ := same
  unfold Challenged
  rw [secret, challenge, response, flag]
  exact challenged

theorem answerable_kept (cfg : Config) (but : TunnelPtr → Prop) (d d' : Daemon) (t : TunnelPtr)
    (unmoved : Unmoved but d d')
    (kept : (d'.tunnel t).proof = (d.tunnel t).proof) (waits : Answerable cfg d t) : Answerable cfg d' t := by
  intro waiting l own
  have state : (d'.tunnel t).state = (d.tunnel t).state := congrArg Prod.fst kept
  have lns : (d'.tunnel t).lns = (d.tunnel t).lns := congrArg (fun proof => proof.2.1) kept
  obtain ⟨old, knows⟩ := waits (state.symm.trans waiting) l (lns.symm.trans own)
  refine ⟨Nat.lt_of_lt_of_le old unmoved.grows, fun asks => challenged_of_proof cfg kept (knows ?_)⟩
  rw [← unmoved.lns l old]
  exact asks

theorem steadfast_keeps (cfg : Config) (d d' : Daemon) (steadfast : Steadfast (fun _ => False) d d') : StaysPoised cfg d
    d' := by
  intro poised
  obtain ⟨there, unmoved⟩ := steadfast poised.listed
  refine ⟨there, unmoved.lists poised.lists, fun t member => ?_⟩
  rcases unmoved.tunnel t id with ⟨kept, inside⟩ | idle
  · exact answerable_kept cfg _ d d' t unmoved kept (poised.waits t (inside member))
  · exact fun waiting => absurd waiting idle

theorem poised_but (cfg : Config) (d d' : Daemon) (t : TunnelPtr) (poised : Poised cfg d)
    (steadfast : Steadfast (· = t) d d')
    (waits : Answerable cfg d' t) : Poised cfg d' := by
  obtain ⟨there, unmoved⟩ := steadfast poised.listed
  refine ⟨there, unmoved.lists poised.lists, fun other member => ?_⟩
  by_cases here : other = t
  · exact here ▸ waits
  · rcases unmoved.tunnel other here with ⟨kept, inside⟩ | idle
    · exact answerable_kept cfg _ d d' other unmoved kept (poised.waits other (inside member))
    · exact fun waiting => absurd waiting idle

-- What one tunnel's record says, and the entries, is left as it was.
structure Steers {α : Type} (kept : Tunnel → α) (t : TunnelPtr) (d d' : Daemon) : Prop where
  tunnels : d'.tunnels = d.tunnels
  fresh : d'.fresh = d.fresh
  lns : d'.lns = d.lns
  tunnel : kept (d'.tunnel t) = kept (d.tunnel t)

instance {α : Type} (kept : Tunnel → α) (t : TunnelPtr) : Prog.Steady (Steers kept t) where
  refl _ := ⟨rfl, rfl, rfl, rfl⟩
  trans _ _ _ first second := ⟨second.tunnels.trans first.tunnels, second.fresh.trans first.fresh,
    second.lns.trans first.lns,
    second.tunnel.trans first.tunnel⟩

-- The name that a secret is looked up under, and the entry it is for.
def Tunnel.named (tun : Tunnel) : Option LnsPtr × CString := (tun.lns, tun.hostname)

def Tunnel.claimed (tun : Tunnel) : Option LnsPtr × Challenge := (tun.lns, tun.chalThem)

section Replying

variable {env : Env} {t : TunnelPtr} {c : CallPtr}

theorem setTunnel_steers {α : Type} (kept : Tunnel → α) (change : Tunnel → Tunnel)
    (keeps : ∀ tun, kept (change tun) = kept tun) :
    Prog.Within (Steers kept t) (setTunnel t change) := by
  intro d u d' ran
  obtain ⟨_, rfl⟩ := (setTunnel_some _ _ _ _ _).mp ran
  refine ⟨rfl, rfl, rfl, ?_⟩
  simp only [write_here]
  exact keeps _

theorem introduction_steers (type : Msg) : Prog.Within (Steers Tunnel.named t) (introduction env t type) := by
  have draws : Prog.Within (Steers Tunnel.named t) (getEntropy env vectorSize) := by
    unfold getEntropy
    refine Prog.within_bind (Prog.within_get _) fun d => ?_
    exact Prog.within_bind (Prog.within_modify _ _ fun d => ⟨rfl, rfl, rfl, rfl⟩) fun _ => Prog.within_pure _ _
  unfold introduction addRandvect
  refine Prog.within_bind ?_ fun vector => Prog.within_bind (readTunnel_within _ t) fun tun => ?_
  · refine Prog.within_bind (readTunnel_within _ t) fun tun => Prog.within_ite _ _ _ _ (fun _ => ?_) fun _ =>
      Prog.within_pure _ _
    exact Prog.within_bind draws fun vector => Prog.within_bind (setTunnel_steers _ _ fun _ => rfl) fun _ =>
      Prog.within_pure _ _
  · exact Prog.within_bind (reportedName_within env tun) fun _ => Prog.within_pure _ _

theorem answerTheirs_steers (ss : Msg) : Prog.Within (Steers Tunnel.named t) (answerTheirs env t ss) := by
  unfold answerTheirs
  refine Prog.within_bind (readTunnel_within _ t) fun tun =>
    Prog.within_ite _ _ _ _ (fun _ => Prog.within_pure _ _) fun _ => ?_
  refine Prog.within_bind (setTunnel_steers _ _ fun _ => rfl) fun _ => ?_
  refine Prog.within_bind ?_ fun failed => Prog.within_bind (readTunnel_within _ t) fun _ => Prog.within_pure _ _
  unfold handleChallenge
  refine Prog.within_bind (readTunnel_within _ t) fun tun =>
    Prog.within_bind (challengeNames_within _ env tun) fun names => ?_
  split
  next => exact Prog.within_pure _ _
  next => exact Prog.within_bind (setTunnel_steers _ _ fun _ => rfl) fun _ => Prog.within_pure _ _

theorem handleChallenge_them (d d' : Daemon) (l : LnsPtr) (secret : CString) (failed : Int)
    (own : (d.tunnel t).lns = some l)
    (shared : lnsSecret env (d.lns l) (d.tunnel t) = some secret)
    (ran : handleChallenge env t .them d = some (failed, d')) :
    failed = 0 ∧ d' = { d with
      tunnel := write d.tunnel t { d.tunnel t with chalThem := (d.tunnel t).chalThem.answer env secret } } := by
  unfold handleChallenge at ran
  obtain ⟨tun, d₁, read, ran₁⟩ := (Prog.bind_some _ _ _ _ _).mp ran
  obtain ⟨_, rfl, rfl⟩ := (readTunnel_some _ _ _ _).mp read
  obtain ⟨names, d₂, named, ran₂⟩ := (Prog.bind_some _ _ _ _ _).mp ran₁
  obtain ⟨rfl, rfl⟩ : names = some (orElse (d₁.lns l).hostname env.hostname,
    orElse (d₁.lns l).peername (d₁.tunnel t).hostname) ∧
      d₂ = d₁ := by
    unfold challengeNames at named
    rw [own] at named
    obtain ⟨lns, d₃, opened, named⟩ := (Prog.bind_some _ _ _ _ _).mp named
    obtain ⟨_, rfl, rfl⟩ := (readLns_some _ _ _ _).mp opened
    obtain ⟨rfl, rfl⟩ := (Prog.pure_some _ _ _ _).mp named
    exact ⟨rfl, rfl⟩
  have found : (some (orElse (d₂.lns l).hostname env.hostname, orElse (d₂.lns l).peername (d₂.tunnel t).hostname)).bind
      (fun n => env.secretFor n.1 n.2) = some secret := shared
  rw [found] at ran₂
  obtain ⟨_, d₃, set, ran₃⟩ := (Prog.bind_some _ _ _ _ _).mp ran₂
  obtain ⟨_, rfl⟩ := (setTunnel_some _ _ _ _ _).mp set
  obtain ⟨rfl, rfl⟩ := (Prog.pure_some _ _ _ _).mp ran₃
  exact ⟨rfl, rfl⟩

theorem sent_answerable (cfg : Config) (body : List UInt8) (u : PUnit) (d d' : Daemon) (l : LnsPtr) (listed : Listed d)
    (own : (d.tunnel t).lns = some l) (old : l < d.fresh)
    (knows : (d.lns l).challenge = true → Challenged cfg (d.tunnel t))
    (ran : sendControl env t c body d = some (u, d')) : Answerable cfg d' t := by
  have performed : Performed env Op.ClosesDown d d' := ((closesDown_sends fun _ closesDown => closesDown).on t c).sends
    body d u d' ran
  have kept := performed_calm env _ calm_of_closesDown d d' listed performed t
  obtain ⟨_, unmoved⟩ := closesDown_steadfast env (fun _ => False) d d' performed listed
  refine answerable_kept cfg _ d d' t unmoved kept fun _ l' own' => ?_
  obtain rfl := Option.some.inj (own.symm.trans own')
  exact ⟨old, knows⟩

theorem challengePeer_answerable (intro' : List UInt8) (d d' : Daemon) (l : LnsPtr) (result : Int) (listed : Listed d)
    (own : (d.tunnel t).lns = some l) (old : l < d.fresh) (memory : env.challengeMemory = true) (secret : CString)
    (shared : lnsSecret env (d.lns l) (d.tunnel t) = some secret)
    (ran : challengePeer env t c intro' d = some (result, d')) :
    Answerable env.toConfig d' t := by
  unfold challengePeer at ran
  obtain ⟨made, d₁, challenged, ran₁⟩ := (Prog.bind_some _ _ _ _ _).mp ran
  obtain ⟨challenge, rfl, rfl⟩ : ∃ challenge, made = true ∧ d₁ = { d with
      drawn := d.drawn + mdSigSize
      tunnel := write d.tunnel t { d.tunnel t with chalThem := { (d.tunnel t).chalThem with challenge := challenge } }
        } := by
    unfold makeChallenge getEntropy at challenged
    rw [if_neg (not_not_intro memory)] at challenged
    obtain ⟨bytes, d₂, drew, challenged⟩ := (Prog.bind_some _ _ _ _ _).mp challenged
    obtain ⟨_, d₃, got, drew⟩ := (Prog.bind_some _ _ _ _ _).mp drew
    obtain ⟨rfl, rfl⟩ := (Prog.get_some _ _ _).mp got
    obtain ⟨_, d₄, counted, drew⟩ := (Prog.bind_some _ _ _ _ _).mp drew
    obtain rfl := (Prog.modify_some _ _ _ _).mp counted
    obtain ⟨_, rfl⟩ := (Prog.pure_some _ _ _ _).mp drew
    obtain ⟨_, d₅, set, challenged⟩ := (Prog.bind_some _ _ _ _ _).mp challenged
    obtain ⟨_, rfl⟩ := (setTunnel_some _ _ _ _ _).mp set
    obtain ⟨rfl, rfl⟩ := (Prog.pure_some _ _ _ _).mp challenged
    exact ⟨bytes, rfl, rfl⟩
  rw [if_neg (not_not_intro rfl)] at ran₁
  obtain ⟨_, d₂, typed, ran₂⟩ := (Prog.bind_some _ _ _ _ _).mp ran₁
  obtain ⟨_, rfl⟩ := (setTunnel_some _ _ _ _ _).mp typed
  obtain ⟨failed, d₃, handled, ran₃⟩ := (Prog.bind_some _ _ _ _ _).mp ran₂
  obtain ⟨rfl, rfl⟩ := handleChallenge_them _ d₃ l secret failed (by simpa using own)
    (by simpa [lnsSecret] using shared) handled
  rw [if_neg (not_not_intro rfl)] at ran₃
  obtain ⟨tun, d₄, read, ran₄⟩ := (Prog.bind_some _ _ _ _ _).mp ran₃
  obtain ⟨_, rfl, rfl⟩ := (readTunnel_some _ _ _ _).mp read
  obtain ⟨_, d₅, sent, ran₅⟩ := (Prog.bind_some _ _ _ _ _).mp ran₄
  obtain ⟨_, rfl⟩ := (Prog.pure_some _ _ _ _).mp ran₅
  refine sent_answerable env.toConfig _ _ _ d₅ l (by exact listed) ?_ (by exact old) (fun _ => ?_) sent
  · simpa using own
  · simp only [write_here]
    exact ⟨rfl, rfl⟩

theorem replySCCRQ_answerable (d d' : Daemon) (l : LnsPtr) (result : Int) (listed : Listed d)
    (own : (d.tunnel t).lns = some l)
    (old : l < d.fresh)
    (provides : (d.lns l).challenge = true → env.challengeMemory = true ∧
    (lnsSecret env (d.lns l) (d.tunnel t)).isSome = true)
    (ran : replySCCRQ env t c (d.lns l) d = some (result, d')) : Answerable env.toConfig d' t := by
  unfold replySCCRQ at ran
  obtain ⟨_, d₁, raised, ran₁⟩ := (Prog.bind_some _ _ _ _ _).mp ran
  obtain ⟨intro', d₂, introduced, ran₂⟩ := (Prog.bind_some _ _ _ _ _).mp ran₁
  obtain ⟨answer, d₃, answered, ran₃⟩ := (Prog.bind_some _ _ _ _ _).mp ran₂
  have first : Steers Tunnel.named t d d₁ := setTunnel_steers _ (fun tun => { tun with state := some .SCCRP })
    (fun _ => rfl) d _ d₁ raised
  have steers : Steers Tunnel.named t d d₃ := Prog.Steady.trans _ _ _ first
    (Prog.Steady.trans _ _ _ (introduction_steers .SCCRP d₁ intro' d₂ introduced)
    (answerTheirs_steers .SCCRP d₂ answer d₃ answered))
  have lns : (d₃.tunnel t).lns = some l := (congrArg Prod.fst steers.tunnel).trans own
  have name : (d₃.tunnel t).hostname = (d.tunnel t).hostname := congrArg Prod.snd steers.tunnel
  have listed₃ : Listed d₃ := by
    unfold Listed
    rw [steers.tunnels, steers.fresh]
    exact listed
  have old₃ : l < d₃.fresh := steers.fresh ▸ old
  split at ran₃
  next asks =>
    obtain ⟨memory, found⟩ := provides asks
    obtain ⟨secret, shared⟩ := Option.isSome_iff_exists.mp found
    refine challengePeer_answerable _ d₃ d' l result listed₃ lns old₃ memory secret ?_ ran₃
    unfold lnsSecret at shared ⊢
    rw [steers.lns, name]
    exact shared
  next silent =>
    obtain ⟨_, d₄, sent, ran₄⟩ := (Prog.bind_some _ _ _ _ _).mp ran₃
    obtain ⟨_, rfl⟩ := (Prog.pure_some _ _ _ _).mp ran₄
    exact sent_answerable env.toConfig _ _ d₃ d₄ l listed₃ lns old₃ (fun asks => absurd (steers.lns ▸ asks) silent) sent

theorem twiceRequested_some (tun : Tunnel) (tunnels : List TunnelPtr) (d d' : Daemon) (twice : Bool)
    (ran : twiceRequested env t tun tunnels d = some (twice, d')) : d' = d ∧
      twice = tunnels.any fun y => decide ((d.tunnel y).tid = tun.tid ∧ (d.tunnel y).peer.addr = tun.peer.addr ∧
        (¬ env.ipsecsaref ∨ (d.tunnel y).refhim = tun.refhim) ∧ y ≠ t) := by
  induction tunnels with
  | nil =>
      obtain ⟨rfl, rfl⟩ := (Prog.pure_some _ _ _ _).mp ran
      exact ⟨rfl, rfl⟩
  | cons y rest ih =>
      rw [twiceRequested] at ran
      obtain ⟨other, d₁, read, ran⟩ := (Prog.bind_some _ _ _ _ _).mp ran
      obtain ⟨_, rfl, rfl⟩ := (readTunnel_some _ _ _ _).mp read
      split at ran
      next same =>
        obtain ⟨rfl, rfl⟩ := (Prog.pure_some _ _ _ _).mp ran
        exact ⟨rfl, by rw [List.any_cons, decide_eq_true same, Bool.true_or]⟩
      next other =>
        obtain ⟨rfl, rfl⟩ := ih ran
        exact ⟨rfl, by rw [List.any_cons, decide_eq_false other, Bool.false_or]⟩

theorem refuse_tunnel (message : String) (d d' : Daemon) (result : Int) (ran : refuse c message d = some (result, d')) :
    d'.tunnel = d.tunnel := by
  unfold refuse setError at ran
  obtain ⟨_, d₁, marked, ran⟩ := (Prog.bind_some _ _ _ _ _).mp ran
  obtain ⟨_, rfl⟩ := (setCall_some _ _ _ _ _).mp marked
  obtain ⟨_, rfl⟩ := (Prog.pure_some _ _ _ _).mp ran
  rfl

theorem scanLns_listed (peer : Nat) (before : Bool) (entries : List LnsPtr) (l : LnsPtr) (d d' : Daemon)
    (ran : scanLns peer before entries d = some (some l, d')) : l ∈ entries := by
  induction entries generalizing before with
  | nil => cases ((Prog.pure_some _ _ _ _).mp ran).1
  | cons first rest ih =>
      rw [scanLns] at ran
      obtain ⟨lns, d₁, read, ran⟩ := (Prog.bind_some _ _ _ _ _).mp ran
      obtain ⟨_, rfl, rfl⟩ := (readLns_some _ _ _ _).mp read
      split at ran
      next =>
        obtain rfl := Option.some.inj ((Prog.pure_some _ _ _ _).mp ran).1
        exact List.mem_cons_self
      next => exact List.mem_cons_of_mem _ (ih _ ran)

theorem getLns_listed (d d' : Daemon) (l : LnsPtr) (ran : getLns env t d = some (some l, d')) :
    l ∈ d.lnslist ++ d.deflns.toList := by
  unfold getLns at ran
  obtain ⟨tun, d₁, read, ran⟩ := (Prog.bind_some _ _ _ _ _).mp ran
  obtain ⟨_, rfl, rfl⟩ := (readTunnel_some _ _ _ _).mp read
  obtain ⟨_, _, got, ran⟩ := (Prog.bind_some _ _ _ _ _).mp ran
  obtain ⟨rfl, rfl⟩ := (Prog.get_some _ _ _).mp got
  obtain ⟨found, d₂, scanned, ran⟩ := (Prog.bind_some _ _ _ _ _).mp ran
  cases found with
  | some l' =>
      obtain same := Option.some.inj ((Prog.pure_some _ _ _ _).mp ran).1
      exact same ▸ scanLns_listed _ _ _ l' _ d₂ scanned
  | none =>
      have chosen := ((Prog.pure_some _ _ _ _).mp ran).1
      split at chosen
      next => cases chosen
      next => exact List.mem_append_right _ (Option.mem_toList.mpr chosen)

theorem repeats_own (d d' : Daemon) (tun : Tunnel)
    (same : tun.tid = (d.tunnel t).tid ∧ tun.peer.addr = (d.tunnel t).peer.addr ∧
      tun.refhim = (d.tunnel t).refhim) (tunnels : d'.tunnels = d.tunnels)
        (others : ∀ y, y ≠ t → d'.tunnel y = d.tunnel y) :
    (d'.tunnels.any fun y => decide ((d'.tunnel y).tid = tun.tid ∧ (d'.tunnel y).peer.addr = tun.peer.addr ∧
      (¬ env.ipsecsaref ∨ (d'.tunnel y).refhim = tun.refhim) ∧ y ≠ t)) = repeats env d t := by
  unfold repeats
  rw [tunnels, same.1, same.2.1, same.2.2]
  refine congrArg d.tunnels.any (funext fun y => ?_)
  by_cases own : y = t
  · rw [decide_eq_false fun is => is.2.2.2 own, decide_eq_false fun is => is.2.2.2 own]
  · rw [others y own]

theorem finishSCCRQ_answerable (d d' : Daemon) (result : Int) (listed : Listed d) (lists : LnsListed d)
    (idle : (d.tunnel t).state ≠ some .SCCRP) (provides : Provides env d t)
    (ran : finishSCCRQ env t c d = some (result, d')) : Answerable env.toConfig d' t := by
  have rests (s : Daemon) (same : (s.tunnel t).state = (d.tunnel t).state) : Answerable env.toConfig s t :=
    fun waits => absurd (same.symm.trans waits) idle
  have refused (message : String) (s : Daemon) (same : (s.tunnel t).state = (d.tunnel t).state)
      (ran : refuse c message s = some (result, d')) : Answerable env.toConfig d' t :=
    rests d' ((congrArg (fun tunnel => (tunnel t).state) (refuse_tunnel message s d' result ran)).trans same)
  unfold finishSCCRQ at ran
  obtain ⟨tun, d₁, read, ran₁⟩ := (Prog.bind_some _ _ _ _ _).mp ran
  obtain ⟨_, rfl, rfl⟩ := (readTunnel_some _ _ _ _).mp read
  split at ran₁
  next => exact refused _ d₁ rfl ran₁
  next set =>
    obtain ⟨chosen, d₂, scanned, ran₂⟩ := (Prog.bind_some _ _ _ _ _).mp ran₁
    obtain rfl : d₁ = d₂ := getLns_within Eq env t d₁ chosen d₂ scanned
    obtain ⟨_, d₃, given, ran₃⟩ := (Prog.bind_some _ _ _ _ _).mp ran₂
    obtain ⟨_, rfl⟩ := (setTunnel_some _ _ _ _ _).mp given
    cases chosen with
    | none => exact refused _ _ (by simp) ran₃
    | some l =>
        obtain ⟨lns, d₄, readEntry, ran₄⟩ := (Prog.bind_some _ _ _ _ _).mp ran₃
        obtain ⟨_, rfl, rfl⟩ := (readLns_some _ _ _ _).mp readEntry
        obtain ⟨_, d₅, takes, ran₅⟩ := (Prog.bind_some _ _ _ _ _).mp ran₄
        obtain ⟨_, rfl⟩ := (setTunnel_some _ _ _ _ _).mp takes
        split at ran₅
        next => exact refused _ _ (by simp) ran₅
        next framing =>
          split at ran₅
          next => exact refused _ _ (by simp) ran₅
          next named =>
            obtain ⟨now, d₆, got, ran₆⟩ := (Prog.bind_some _ _ _ _ _).mp ran₅
            obtain ⟨rfl, rfl⟩ := (Prog.get_some _ _ _).mp got
            obtain ⟨twice, d₇, compared, ran₇⟩ := (Prog.bind_some _ _ _ _ _).mp ran₆
            obtain ⟨rfl, again⟩ := twiceRequested_some _ _ _ _ _ compared
            have again : twice = repeats env d₁ t := again.trans
              (repeats_own d₁ _ (d₁.tunnel t) ⟨rfl, rfl, rfl⟩ rfl
                fun y other => by simp only [write_elsewhere _ _ _ _ other])
            split at ran₇
            next =>
              obtain ⟨_, d₈, marked, ran₈⟩ := (Prog.bind_some _ _ _ _ _).mp ran₇
              obtain ⟨_, rfl⟩ := (setCall_some _ _ _ _ _).mp marked
              obtain ⟨_, rfl⟩ := (Prog.pure_some _ _ _ _).mp ran₈
              exact rests _ (by simp)
            next once =>
              have old : l < d₁.fresh := lists l (getLns_listed d₁ _ l scanned)
              refine replySCCRQ_answerable _ d' l result (by exact listed) (by simp) (by exact old)
                (fun asks => ?_) ran₇
              have fresh : repeats env d₁ t ≠ true := fun same => once (again.trans same)
              rcases provides with unset | unframed | nameless | repeated | found
              · exact absurd unset set
              · exact absurd (by simpa using unframed) framing
              · exact absurd ⟨by simpa using nameless, .inr asks⟩ named
              · exact absurd repeated fresh
              · obtain ⟨memory, shared⟩ := found _ scanned l rfl asks
                refine ⟨memory, ?_⟩
                simpa [lnsSecret] using shared

theorem controlFinish_scccn (d d' : Daemon) (result : Int) (known : Msg.ofCode (d.call c).msgtype = some .SCCCN)
    (ran : controlFinish env t c d = some (result, d')) : finishSCCCN env t c d = some (result, d') := by
  have code : (d.call c).msgtype = Msg.SCCCN.code := (Msg.code_ofCode _ _ known).symm
  unfold controlFinish at ran
  obtain ⟨cal, d₁, read, ran⟩ := (Prog.bind_some _ _ _ _ _).mp ran
  obtain ⟨_, rfl, rfl⟩ := (readCall_some _ _ _ _).mp read
  rw [code, if_neg (by decide), if_neg (by decide), Msg.ofCode_code] at ran
  exact ran

theorem finishSCCCN_checked (d d' : Daemon) (result : Int) (down : (d.tunnel t).state ≠ some .SCCCN)
    (ran : finishSCCCN env t c d = some (result, d')) (up : (d'.tunnel t).state = some .SCCCN) :
    Steers Tunnel.claimed t d d' ∧
      ((d.tunnel t).chalThem.challenged = true → (d.tunnel t).chalThem.reply = (d.tunnel t).chalThem.response) := by
  unfold finishSCCCN at ran
  obtain ⟨tun, d₁, read, ran₁⟩ := (Prog.bind_some _ _ _ _ _).mp ran
  obtain ⟨_, rfl, rfl⟩ := (readTunnel_some _ _ _ _).mp read
  split at ran₁
  next =>
    rw [refuse_tunnel _ d₁ d' result ran₁] at up
    exact absurd up down
  next passes =>
    refine ⟨?_, fun challenged => not_not.mp fun differs => passes ⟨challenged, differs⟩⟩
    have raises : Prog.Within (Steers Tunnel.claimed t) (setTunnel t fun tun => { tun with state := some .SCCCN }) :=
      setTunnel_steers _ _ fun _ => rfl
    refine Prog.within_bind raises (fun _ => ?_) d₁ result d' ran₁
    refine Prog.within_bind (deref_within _ _) fun l => Prog.within_bind (readLns_within _ l) fun _ => ?_
    refine Prog.within_bind (Prog.within_onlyWhen _ _ _ fun _ => setTunnel_steers _ _ fun _ => rfl) fun _ => ?_
    exact Prog.within_bind (Prog.within_modify _ _ fun d => ⟨rfl, rfl, rfl, rfl⟩) fun _ => Prog.within_pure _ _

theorem spares_of_finishes (but : TunnelPtr → Prop) (m : Msg) (request : m ≠ .SCCRQ) (reply : m ≠ .SCCRP) (op : Op)
    (finishes : op.Finishes t c m) : op.Spares but := by
  cases op with
  | raise t' m' new =>
      refine .inr fun waits => ?_
      cases m with
      | SCCRQ => exact request rfl
      | SCCRP => exact reply rfl
      | SCCCN => cases finishes.2.symm.trans waits
      | _ => exact finishes.elim
  | choose t' l =>
      cases m with
      | SCCRQ => exact absurd rfl request
      | SCCRP => exact absurd rfl reply
      | _ => exact finishes.elim
  | challenge t' chal =>
      cases m with
      | SCCRQ => exact absurd rfl request
      | SCCRP => exact absurd rfl reply
      | _ => exact finishes.elim
  | editLns l options => cases m <;> exact finishes.elim
  | _ => trivial

theorem spares_of_request (op : Op) (finishes : op.Finishes t c .SCCRQ) : op.Spares (· = t) := by
  cases op with
  | raise t' m' new => exact .inl finishes.1
  | choose t' l => exact finishes
  | challenge t' chal => exact finishes
  | editLns l options => exact finishes.elim
  | _ => trivial

theorem sends_steadfast (but : TunnelPtr → Prop) : Sends env (Steadfast but) :=
  sends_weaken (closesDown_steadfast env but) (closesDown_sends fun _ closesDown => closesDown)

theorem raises_steadfast (env : Env) (m : Msg) : Raises (Steadfast (· = t)) t m :=
  fun change keeps => Prog.within_weaken _ _ _
    (steadfast_of_performed (· = t) env (fun op => ∃ new, op = .raise t m new)
    fun op raised => by
      obtain ⟨_, rfl⟩ := raised; exact .inl rfl) (raises_performed t m (fun new => ⟨new, rfl⟩) change keeps)

theorem challenges_steadfast (env : Env) : Challenges (Steadfast (· = t)) t :=
  fun change only => Prog.within_weaken _ _ _
    (steadfast_of_performed (· = t) env (fun op => ∃ chal, op = .challenge t chal)
    fun op made => by obtain ⟨_, rfl⟩ := made; rfl) (challenges_performed t (fun chal => ⟨chal, rfl⟩) change only)

theorem dialLac_steadfast (but : TunnelPtr → Prop) (lac : Option LacPtr) : Prog.Within (Steadfast but)
    (dialLac env lac) :=
  Prog.within_weaken _ _ _ (steadfast_weaken _ but fun _ => False.elim) (dialLac_within managing_steadfast.dialling lac)

theorem finishSCCRP_answerable (d d' : Daemon) (result : Int) (listed : Listed d)
    (idle : (d.tunnel t).state ≠ some .SCCRP)
    (ran : finishSCCRP env t c d = some (result, d')) : Answerable env.toConfig d' t := by
  intro waits
  rcases performed_raise listed (finishSCCRP_does t c d result d' ran) t .SCCRP
    waits with before | ⟨new, ⟨_, up⟩ | asked⟩
  · exact absurd before idle
  · cases up
  · cases asked

theorem controlFinish_keeps (d d' : Daemon) (result : Int)
    (asks : Msg.ofCode (d.call c).msgtype = some .SCCRQ → (d.tunnel t).state ≠ some .SCCRP ∧ Provides env d t)
    (answers : Msg.ofCode (d.call c).msgtype = some .SCCRP → (d.tunnel t).state ≠ some .SCCRP)
    (ran : controlFinish env t c d = some (result, d')) : StaysPoised env.toConfig d d' := by
  have steady (m : Msg) (request : m ≠ .SCCRQ) (reply : m ≠ .SCCRP) (done : Performed env (Op.Finishes t c m) d d') :
      StaysPoised env.toConfig d d' :=
    steadfast_keeps _ d d' (steadfast_of_performed _ env _ (spares_of_finishes _ m request reply) d d' done)
  have tiesOnly : TiesOnly (StaysPoised env.toConfig) := tiesOnly_weaken (steadfast_keeps _) (tiesOnly_steadfast env _)
  refine controlFinish_leads (Prog.Leads.self _) tiesOnly.admits ran (fun _ ran => ?_) (fun known ran poised => ?_)
    (fun known ran poised => ?_)
    (fun _ ran => steady .SCCCN (by decide) (by decide) (finishSCCCN_does t c d result d' ran))
    (fun _ ran => steady .ICRQ (by decide) (by decide) (finishICRQ_does t c d result d' ran))
    (fun _ ran => steady .ICRP (by decide) (by decide) (finishICRP_does t c d result d' ran))
    (fun _ ran => steady .ICCN (by decide) (by decide) (finishICCN_does t c d result d' ran))
  · exact steadfast_keeps _ d d' (initiate_within managing_steadfast.dialling t c d result d' ran)
  · obtain ⟨idle, provides⟩ := asks known
    have steadfast := steadfast_of_performed (· = t) env _ spares_of_request d d' (finishSCCRQ_does t c d result d' ran)
    exact poised_but _ d d' t poised steadfast
      (finishSCCRQ_answerable d d' result poised.listed poised.lists idle provides ran)
  · have steadfast := finishSCCRP_within ((sends_steadfast _).on t c) (raises_steadfast env .SCCCN)
      (challenges_steadfast env)
      (dialLac_steadfast _) d result d' ran
    exact poised_but _ d d' t poised steadfast (finishSCCRP_answerable d d' result poised.listed (answers known) ran)

end Replying

section Steps

variable {cfg : Config} {d d' : Daemon} {event : Event} (settled : Settled d) (sane : Sane d)
  (honoured : RefusalsHonoured cfg d event) (moved : next cfg d event = some d')

theorem calm_of_parses {t : TunnelPtr} {c : CallPtr} (op : Op) (parses : op.Parses t c) : op.Calm := by
  cases op <;> trivial

theorem heard_steadfast (p : Presentation) (presented : presentation cfg d event = some p) (hears : p.hears = true) :
    Steadfast (fun _ => False) d p.heard := by
  have found : Steadfast (fun _ => False) d p.found :=
    steadfast_of_performed _ _ _ (fun op made => by obtain ⟨_, _, rfl⟩ := made; trivial) _ _
      (heard_performed hears presented)
  refine Prog.Steady.trans _ _ _ found fun listed =>
    ⟨listed, fun t _ => .inl ⟨?_, id⟩, fun _ _ => rfl, id, Nat.le_refl _⟩
  refine write_same p.found.tunnel Tunnel.proof p.t _ ?_ t
  unfold checkedTunnel
  split <;> rfl

theorem parsed_steadfast (env : Env) (t : TunnelPtr) (c : CallPtr) (s after : Daemon)
    (reads : Performed env (Op.Parses t c) s after) :
    Steadfast (fun _ => False) s after :=
  steadfast_of_performed _ env _ (fun op parses => spares_of_calm _ op (calm_of_parses op parses)) s after reads

include settled in
theorem parsed_state (p : Presentation) (presented : presentation cfg d event = some p) (hears : p.hears = true)
    (after : Daemon)
    (reads : Performed { toConfig := cfg, toWorld := event.world } (Op.Parses p.t p.c) p.heard after) (t : TunnelPtr) :
    (after.tunnel t).state = (p.heard.tunnel t).state :=
  have listed := (found_settled cfg d event p settled presented hears).1.1.listed
  congrArg Prod.fst (performed_calm _ _ calm_of_parses p.heard after listed reads t)

include moved

theorem edit_poised (name : CString) (options : Lns → Lns) (edit : event.occurs = .command (.lnsAddModify name options))
    (spare : EditsSpare cfg d event) : StaysPoised cfg d d' := by
  unfold EditsSpare at spare
  unfold next handle doControl controlHandleLnsAddModify at moved
  simp only [edit] at spare moved
  obtain ⟨⟨u, after⟩, ran, rfl⟩ := Option.map_eq_some_iff.mp moved
  obtain ⟨found, d₁, looked, ran⟩ := (Prog.bind_some _ _ _ _ _).mp ran
  obtain rfl : d = d₁ := findLnsByName_within Eq name d found d₁ looked
  cases found with
  | some l =>
      obtain ⟨_, rfl⟩ := (setLns_some _ _ _ _ _).mp ran
      refine fun poised => ⟨poised.listed, poised.lists, fun t member waiting other own => ?_⟩
      obtain ⟨old, knows⟩ := poised.waits t member waiting other own
      refine ⟨old, fun asks => ?_⟩
      by_cases here : other = l
      · obtain rfl := here
        rcases Bool.eq_false_or_eq_true (d.lns other).challenge with before | silent
        · exact knows before
        · simp only [write_here] at asks
          exact spare _ looked other rfl silent asks t member waiting own
      · simp only [write_elsewhere _ _ _ _ here] at asks
        exact knows asks
  | none =>
      obtain rfl := (Prog.modify_some _ _ _ _).mp ran
      refine steadfast_keeps cfg d _ (steadfast_of_performed _ plainEnv (fun op => ∃ entry, op = .addLns entry) ?_ d _
        (performed_op (.addLns (optioned options { newLns with entname := name.take entnameSize })) d _ ⟨_, rfl⟩ rfl))
      rintro op ⟨entry, rfl⟩
      trivial

include settled sane honoured

theorem next_poised (found : SecretsFound cfg d event) (spare : EditsSpare cfg d event) : StaysPoised cfg d d' := by
  by_cases edit : ∃ name options, event.occurs = .command (.lnsAddModify name options)
  · obtain ⟨name, options, edit⟩ := edit
    exact edit_poised moved name options edit spare
  by_cases heard : ∃ p, presentation cfg d event = some p ∧ p.hears = true
  · obtain ⟨p, presented, hears⟩ := heard
    have fits := received_fits settled sane honoured moved p presented hears
    have first : StaysPoised cfg d p.heard := steadfast_keeps cfg d p.heard (heard_steadfast p presented hears)
    have closesDown (s s' : Daemon) (done : Performed { toConfig := cfg, toWorld := event.world } Op.ClosesDown s s') :
      StaysPoised cfg s s' :=
      steadfast_keeps cfg s s' (closesDown_steadfast _ _ s s' done)
    rcases next_finished cfg d d' event p presented hears
      moved with ⟨after, reads, ends⟩ | ⟨after, result, final, parsed, reads, ran, ends⟩
    · exact Prog.Steady.trans _ _ _ first (Prog.Steady.trans _ _ _
        (steadfast_keeps cfg p.heard after (parsed_steadfast _ _ _ _ _ reads)) (closesDown after d' ends))
    · have second : StaysPoised cfg d after :=
        Prog.Steady.trans _ _ _ first (steadfast_keeps cfg p.heard after (parsed_steadfast _ _ _ _ _ reads))
      have state := parsed_state settled p presented hears after reads p.t
      refine Prog.Steady.trans _ _ _ second (Prog.Steady.trans _ _ _
        (controlFinish_keeps after final result (fun known => ⟨?_, ?_⟩) (fun known => ?_) ran)
          (closesDown final d' ends))
      · have fit := fits after parsed .SCCRQ known rfl
        simp only [msgFits, Bool.and_eq_true, Bool.or_eq_true, beq_iff_eq] at fit
        rw [state]
        rcases fit.2 with idle | asked
        · rw [idle]; exact fun waits => by cases waits
        · rw [asked]; exact fun waits => by cases waits
      · exact found p presented hears (0, after) parsed rfl known
      · have fit := fits after parsed .SCCRP known rfl
        simp only [msgFits, Bool.and_eq_true, beq_iff_eq] at fit
        rw [state, fit.2]
        exact fun waits => by cases waits
  · have unheard (p : Presentation) (presented : presentation cfg d event = some p) : p.hears = false :=
      eq_false_of_ne_true fun hears => heard ⟨p, presented, hears⟩
    have idles (s s' : Daemon) (done : Performed { toConfig := cfg, toWorld := event.world } Op.Idles s s') :
        Steadfast (fun _ => False) s s' :=
      steadfast_of_performed _ _ _ (fun op idles => by cases op <;> trivial) s s' done
    have edits (name : CString) (options : Lns → Lns) (u : PUnit)
      (is : event.occurs = .command (.lnsAddModify name options)) :
        controlHandleLnsAddModify name options d = some (u, d') → Steadfast (fun _ => False) d d' :=
      absurd ⟨name, options, is⟩ edit
    exact steadfast_keeps cfg d d' (next_unheard cfg d d' event _ managing_steadfast idles edits unheard moved)

theorem next_authenticates (poised : Poised cfg d) : Authenticates cfg d event := by
  intro final p l moved' presented received down up own asks
  obtain rfl := Option.some.inj (moved.symm.trans moved')
  obtain ⟨hears, after, parsed, known⟩ := received
  have reads := handleAvps_does p.t p.c (fun op (parses : op.Parses p.t p.c) => parses) p.buf p.heard 0 after parsed
  have fit := received_fits settled sane honoured moved p presented hears after parsed .SCCCN known rfl
  simp only [msgFits, Bool.and_eq_true, beq_iff_eq] at fit
  have waits : (after.tunnel p.t).state = some .SCCRP := (parsed_state settled p presented hears after reads p.t).trans
    fit.2
  have member := (found_settled cfg d event p settled presented hears).2
  have heard : Poised cfg p.heard := steadfast_keeps cfg d p.heard (heard_steadfast p presented hears) poised
  have ready : Answerable cfg after p.t := answerable_kept cfg _ p.heard after p.t
    (parsed_steadfast _ _ _ _ _ reads heard.listed).2
    (performed_calm _ _ calm_of_parses p.heard after heard.listed reads p.t)
    (heard.waits p.t member)
  obtain ⟨u, result, final, ran, acknowledged⟩ := next_hears cfg d d' event p presented hears moved
  obtain ⟨failed, after₁, parsed₁, ran⟩ := (Prog.bind_some _ _ _ _ _).mp ran
  obtain ⟨rfl, rfl⟩ := Prod.mk.inj (Option.some.inj (parsed.symm.trans parsed₁))
  rw [if_neg (not_not_intro rfl)] at ran
  obtain rfl := acknowledge_some p.c final d' u acknowledged
  have finished := controlFinish_scccn after final result known ran
  obtain ⟨steers, checked⟩ := finishSCCCN_checked after final result
    (by rw [waits]; exact fun up => by cases up) finished up
  have lns : (after.tunnel p.t).lns = some l := (congrArg Prod.fst steers.tunnel).symm.trans own
  have chal : (final.tunnel p.t).chalThem = (after.tunnel p.t).chalThem := congrArg Prod.snd steers.tunnel
  have knows : Challenged cfg (after.tunnel p.t) := (ready waits l lns).2 (by rw [← steers.lns]; exact asks)
  unfold Authentic Challenged
  rw [chal]
  exact ⟨knows, checked knows.1⟩

end Steps

theorem poised_init (cfg : Config) (deflns : Option Lns) (lnslist : List Lns) (deflac : Option Lac)
    (laclist : List Lac) :
    Poised cfg (initDaemon deflns lnslist deflac laclist) where
  listed := initDaemon_listed deflns lnslist deflac laclist
  lists := by
    intro l member
    have counted : l < deflns.toList.length + lnslist.length := by
      rcases List.mem_append.mp member with listed | fallback
      · obtain ⟨n, inside, rfl⟩ := List.mem_map.mp listed
        have small : n < lnslist.length := List.mem_range.mp inside
        exact Nat.add_comm n _ ▸ Nat.add_lt_add_left small _
      · obtain ⟨_, given, rfl⟩ := Option.map_eq_some_iff.mp (Option.mem_toList.mp fallback)
        rw [given]
        exact Nat.lt_of_lt_of_le Nat.one_pos (Nat.le_add_right _ _)
    refine Nat.lt_of_lt_of_le ?_ (Nat.le_max_left _ _)
    simpa using counted
  waits _ waiting := by cases waiting

-- An entry that wants a challenge, under a digest that depends on what it is of.
def checkingLns : Lns := { poolLns with challenge := true }

def summing : Config :=
    { plainConfig with md5 := fun bytes => Vector.replicate 16 (UInt8.ofNat (bytes.foldl (fun sum byte => sum + byte.toNat) 0)) }

def sharing : World := { plainWorld with secretFor := fun _ _ => some (text "s") }

def requesting (world : World) : Event :=
  ⟨world, controlFrame 0 0 0 0 (addMessageTypeAvp .SCCRQ ++ addFrameCapsAvp 3 ++ addHostnameAvp
    (text "peer") ++ addTunnelidAvp 9)⟩

def joining (world : World) (answer : List UInt8) : Event :=
    ⟨world, controlFrame 513 0 1 1 (addMessageTypeAvp .SCCCN ++ answer)⟩

def officeLns : Lns := { poolLns with entname := text "office" }

def demanding : Event := ⟨sharing, .command (.lnsAddModify (text "office") fun lns => { lns with challenge := true })⟩

def answering : List Event := [demanding, requesting sharing, joining sharing (addChalrespAvp (Vector.replicate 16 30))]

-- Without a secret the challenge is never recorded, but the tunnel waits for an
-- SCCCN all the same; one without an answer brings it up.
structure Bypasses (d d' : Daemon) (p : Presentation) (after : Daemon) : Prop where
  presented : presentation plainConfig d (joining plainWorld []) = some p
  hears : p.hears = true
  parsed : handleAvps plainEnv p.t p.c p.buf p.heard = some (0, after)
  known : Msg.ofCode (after.call p.c).msgtype = some .SCCCN
  down : (d.tunnel p.t).state ≠ some .SCCCN
  moved : next plainConfig d (joining plainWorld []) = some d'
  up : (d'.tunnel p.t).state = some .SCCCN
  own : (d'.tunnel p.t).lns = some 0
  asks : (d'.lns 0).challenge = true
  unknown : (d'.tunnel p.t).chalThem.challenged = false

theorem bypasses_joining :
    ∃ d d' p after, next plainConfig (initDaemon none [checkingLns] none []) (requesting plainWorld) = some d ∧
      Bypasses d d' p after := by
  have seen : (next plainConfig (initDaemon none [checkingLns] none []) (requesting plainWorld)).any (fun d =>
      (presentation plainConfig d (joining plainWorld [])).any fun p => p.hears &&
        (handleAvps plainEnv p.t p.c p.buf p.heard).any
          (fun ended => ended.1 == 0 && Msg.ofCode (ended.2.call p.c).msgtype == some .SCCCN) &&
        (d.tunnel p.t).state != some .SCCCN &&
        (next plainConfig d (joining plainWorld [])).any fun d' =>
          (d'.tunnel p.t).state == some .SCCCN && (d'.tunnel p.t).lns == some 0 &&
          (d'.lns 0).challenge && !(d'.tunnel p.t).chalThem.challenged) = true := by decide +kernel
  obtain ⟨d, moved, seen⟩ := (Option.any_eq_true _ _).mp seen
  obtain ⟨p, presented, seen⟩ := (Option.any_eq_true _ _).mp seen
  simp only [Bool.and_eq_true, bne_iff_ne] at seen
  obtain ⟨⟨⟨hears, parses⟩, down⟩, moves⟩ := seen
  obtain ⟨⟨failed, after⟩, parsed, typed⟩ := (Option.any_eq_true _ _).mp parses
  obtain ⟨d', moved', facts⟩ := (Option.any_eq_true _ _).mp moves
  simp only [Bool.and_eq_true, beq_iff_eq, Bool.not_eq_true'] at typed facts
  obtain ⟨rfl, known⟩ := typed
  exact ⟨d, d', p, after, moved, presented, hears, parsed, known, down, moved', facts.1.1.1, facts.1.1.2, facts.1.2,
    facts.2⟩

end ZyAgf.Xl2tpd
