import ZyAgf.Xl2tpd.Operations

set_option autoImplicit false

namespace ZyAgf.Xl2tpd

-- What ties the records to one another: who is there, what belongs to what, and
-- which entries are referred to. What the messages say is not among it.
def Tunnel.ties (tun : Tunnel) : Bool × List CallPtr × Option CallPtr × Option LnsPtr × Option LacPtr :=
  (tun.live, tun.calls, tun.self, tun.lns, tun.lac)

def Call.ties (cal : Call) : Bool × TunnelPtr × Option LnsPtr × Option LacPtr :=
    (cal.live, cal.container, cal.lns, cal.lac)

def Lac.ties (lac : Lac) : Bool × Bool × Bool × Option TunnelPtr × Option CallPtr :=
  (lac.live, lac.rsched, lac.active, lac.t, lac.c)

def Func.dials (l : LacPtr) (func : Func) : Bool := func == .magicLacDial l

def Daemon.pending (d : Daemon) (l : LacPtr) : Nat := d.events.countP fun entry => entry.func.dials l

-- The ties are as they were, and no call that was closing is open again.
structure Tied (d d' : Daemon) : Prop where
  lists : (d'.tunnels, d'.lnslist, d'.deflns, d'.laclist, d'.deflac) =
    (d.tunnels, d.lnslist, d.deflns, d.laclist, d.deflac)
  fresh : d'.fresh = d.fresh
  tunnel : ∀ t, (d'.tunnel t).ties = (d.tunnel t).ties
  call : ∀ c, (d'.call c).ties = (d.call c).ties
  lns : ∀ l, (d'.lns l).live = (d.lns l).live
  lac : ∀ l, (d'.lac l).ties = (d.lac l).ties
  pending : ∀ l, d'.pending l = d.pending l
  closing : ∀ c, (d.call c).closing = true → (d'.call c).closing = true

instance : Prog.Steady Tied where
  refl _ := ⟨rfl, rfl, fun _ => rfl, fun _ => rfl, fun _ => rfl, fun _ => rfl, fun _ => rfl, fun _ => id⟩
  trans _ _ _ first second :=
    ⟨second.lists.trans first.lists, second.fresh.trans first.fresh, fun t => (second.tunnel t).trans (first.tunnel t),
      fun c => (second.call c).trans (first.call c), fun l => (second.lns l).trans (first.lns l),
      fun l => (second.lac l).trans (first.lac l), fun l => (second.pending l).trans (first.pending l),
      fun c => second.closing c ∘ first.closing c⟩

theorem pending_insert (entry : ScheduleEntry) (queue : List ScheduleEntry) (l : LacPtr) :
    (insertEntry entry queue).countP (fun e => e.func.dials l) =
      queue.countP (fun e => e.func.dials l) + if entry.func.dials l then 1 else 0 := by
  unfold insertEntry
  rw [List.countP_append, List.countP_cons, ← Nat.add_assoc, ← List.countP_append, List.takeWhile_append_dropWhile]

-- The primitives that change no tie.
section Primitives

theorem setTunnel_tied (t : TunnelPtr) (change : Tunnel → Tunnel) (keeps : ∀ tun, (change tun).ties = tun.ties) :
    Prog.Within Tied (setTunnel t change) := by
  intro d u d' ran
  obtain ⟨_, rfl⟩ := (setTunnel_some _ _ _ _ _).mp ran
  exact ⟨rfl, rfl, write_same d.tunnel Tunnel.ties t (change (d.tunnel t)) (keeps _), fun _ => rfl, fun _ => rfl,
    fun _ => rfl,
    fun _ => rfl, fun _ => id⟩

theorem tied_call (d : Daemon) (c : CallPtr) (new : Call) (same : new.ties = (d.call c).ties)
    (closing : (d.call c).closing = true → new.closing = true) : Tied d { d with call := write d.call c new } := by
  refine ⟨rfl, rfl, fun _ => rfl, write_same d.call Call.ties c new same, fun _ => rfl, fun _ => rfl, fun _ => rfl, ?_⟩
  intro other already
  by_cases here : other = c
  · subst here
    simpa using closing already
  · simpa [write_elsewhere _ _ _ _ here] using already

theorem setCall_tied (c : CallPtr) (change : Call → Call)
    (keeps : ∀ cal, (change cal).ties = cal.ties ∧ (cal.closing = true → (change cal).closing = true)) :
    Prog.Within Tied (setCall c change) := by
  intro d u d' ran
  obtain ⟨_, rfl⟩ := (setCall_some _ _ _ _ _).mp ran
  exact tied_call d c _ (keeps _).1 (keeps _).2

theorem setLns_tied (l : LnsPtr) (change : Lns → Lns) (keeps : ∀ lns, (change lns).live = lns.live) :
    Prog.Within Tied (setLns l change) := by
  intro d u d' ran
  obtain ⟨_, rfl⟩ := (setLns_some _ _ _ _ _).mp ran
  exact ⟨rfl, rfl, fun _ => rfl, fun _ => rfl, write_same d.lns Lns.live l (change (d.lns l)) (keeps _), fun _ => rfl,
    fun _ => rfl, fun _ => id⟩

theorem setLac_tied (l : LacPtr) (change : Lac → Lac) (keeps : ∀ lac, (change lac).ties = lac.ties) :
    Prog.Within Tied (setLac l change) := by
  intro d u d' ran
  obtain ⟨_, rfl⟩ := (setLac_some _ _ _ _ _).mp ran
  exact ⟨rfl, rfl, fun _ => rfl, fun _ => rfl, fun _ => rfl, write_same d.lac Lac.ties l (change (d.lac l)) (keeps _),
    fun _ => rfl, fun _ => id⟩

theorem modify_tied (change : Daemon → Daemon) (records : ∀ d, change d = { d with
      uaddr := (change d).uaddr, events := (change d).events, globalSerno := (change d).globalSerno
      switchIo := (change d).switchIo, dialNoTmp := (change d).dialNoTmp, drawn := (change d).drawn, out :=
        (change d).out })
    (pending : ∀ d l, (change d).pending l = d.pending l) : Prog.Within Tied (modify change : Act PUnit) := by
  refine Prog.within_modify Tied change fun d => ?_
  have same := pending d
  rw [records d] at same ⊢
  exact ⟨rfl, rfl, fun _ => rfl, fun _ => rfl, fun _ => rfl, fun _ => rfl, same, fun _ => id⟩

theorem reserveAddr_tied (addr : Nat) : Prog.Within Tied (reserveAddr addr) :=
  modify_tied _ (fun d => by split <;> rfl) fun d l => by split <;> rfl

end Primitives

instance : Prog.Steady (@Eq Daemon) := ⟨fun _ => rfl, fun _ _ _ => Eq.trans⟩

-- Walks that read and change nothing.
section Walks

variable (rel : Daemon → Daemon → Prop) [Prog.Steady rel]

theorem findTunnel_within (tid : Nat) (tunnels : List TunnelPtr) : Prog.Within rel (findTunnel tid tunnels) := by
  induction tunnels with
  | nil => exact Prog.within_pure _ _
  | cons t rest ih =>
      rw [findTunnel]
      exact Prog.within_bind (readTunnel_within _ t) fun _ =>
        Prog.within_ite _ _ _ _ (fun _ => Prog.within_pure _ _) fun _ => ih

theorem twiceRequested_within (env : Env) (t : TunnelPtr) (tun : Tunnel) (tunnels : List TunnelPtr) :
    Prog.Within rel (twiceRequested env t tun tunnels) := by
  induction tunnels with
  | nil => exact Prog.within_pure _ _
  | cons y rest ih =>
      rw [twiceRequested]
      exact Prog.within_bind (readTunnel_within _ y) fun _ =>
        Prog.within_ite _ _ _ _ (fun _ => Prog.within_pure _ _) fun _ => ih

theorem hasCid_within (cid : Int) (calls : List CallPtr) : Prog.Within rel (hasCid cid calls) := by
  induction calls with
  | nil => exact Prog.within_pure _ _
  | cons z rest ih =>
      rw [hasCid]
      exact Prog.within_bind (readCall_within _ z) fun _ =>
        Prog.within_ite _ _ _ _ (fun _ => Prog.within_pure _ _) fun _ => ih

theorem findCid_within (cid : Int) (calls : List CallPtr) : Prog.Within rel (findCid cid calls) := by
  induction calls with
  | nil => exact Prog.within_pure _ _
  | cons p rest ih =>
      rw [findCid]
      exact Prog.within_bind (readCall_within _ p) fun _ =>
        Prog.within_ite _ _ _ _ (fun _ => Prog.within_pure _ _) fun _ => ih

theorem findOurcid_within (ourcid : Nat) (calls : List CallPtr) : Prog.Within rel (findOurcid ourcid calls) := by
  induction calls with
  | nil => exact Prog.within_pure _ _
  | cons p rest ih =>
      rw [findOurcid]
      exact Prog.within_bind (readCall_within _ p) fun _ =>
        Prog.within_ite _ _ _ _ (fun _ => Prog.within_pure _ _) fun _ => ih

theorem scanLns_within (peer : Nat) (before : Bool) (entries : List LnsPtr) : Prog.Within rel
    (scanLns peer before entries) := by
  induction entries generalizing before with
  | nil => exact Prog.within_pure _ _
  | cons l rest ih =>
      rw [scanLns]
      exact Prog.within_bind (readLns_within _ l) fun _ =>
        Prog.within_ite _ _ _ _ (fun _ => Prog.within_pure _ _) fun _ => ih _

theorem getLns_within (env : Env) (t : TunnelPtr) : Prog.Within rel (getLns env t) := by
  unfold getLns
  refine Prog.within_bind (readTunnel_within _ t) fun tun => Prog.within_bind (Prog.within_get _) fun d => ?_
  refine Prog.within_bind (scanLns_within rel _ _ _) fun found => ?_
  split
  next => exact Prog.within_pure _ _
  next => exact Prog.within_pure _ _

theorem challengeNames_within (env : Env) (tun : Tunnel) : Prog.Within rel (challengeNames env tun) := by
  unfold challengeNames
  split
  next l _ => exact Prog.within_bind (readLns_within _ l) fun _ => Prog.within_pure _ _
  next l _ _ => exact Prog.within_bind (readLac_within _ l) fun _ => Prog.within_pure _ _
  next => exact Prog.within_pure _ _

theorem wantsChallenge_within (tun : Tunnel) : Prog.Within rel (wantsChallenge tun) := by
  have byLac : Prog.Within rel (lacChallenges tun.lac) := by
    cases tun.lac with
    | none => exact Prog.within_pure _ _
    | some l => exact Prog.within_bind (readLac_within _ l) fun _ => Prog.within_pure _ _
  have byLns : Prog.Within rel (lnsChallenges tun.lns) := by
    cases tun.lns with
    | none => exact Prog.within_pure _ _
    | some l => exact Prog.within_bind (readLns_within _ l) fun _ => Prog.within_pure _ _
  unfold wantsChallenge
  exact Prog.within_bind byLac fun _ => Prog.within_ite _ _ _ _ (fun _ => Prog.within_pure _ _) fun _ => byLns

theorem namedCall_within (tun : Tunnel) (c : CallPtr) (cid : Int) : Prog.Within rel (namedCall tun c cid) :=
  Prog.within_ite _ _ _ _ (fun _ => findCid_within rel cid _) fun _ => Prog.within_pure _ _

end Walks

def Tunnel.route (tun : Tunnel) : SockAddr × U16 := (tun.peer, tun.controlSeqNum)

-- A relation that keeps to whatever is stored beside the cores and the ties,
-- where messages go on going where they went and a call on owing an
-- acknowledgement.
structure Stores (rel : Daemon → Daemon → Prop) : Prop where
  tunnel : ∀ t change, (∀ tun : Tunnel, (change tun).core = tun.core ∧ (change tun).ties = tun.ties ∧
    (change tun).route = tun.route) → Prog.Within rel (setTunnel t change)
  call : ∀ c change, (∀ cal : Call, (change cal).core = cal.core ∧ (change cal).ties = cal.ties ∧
    (change cal).closing = cal.closing ∧ (change cal).cnu = cal.cnu) → Prog.Within rel (setCall c change)

-- And to what else leaves them alone: a call may be marked as closing, nothing is
-- dialled more or less often, and nothing that was said is unsaid.
structure AdmitsUpdates (rel : Daemon → Daemon → Prop) : Prop where
  tunnel : ∀ t change, (∀ tun : Tunnel, (change tun).core = tun.core ∧ (change tun).ties = tun.ties ∧
    (change tun).route = tun.route) → Prog.Within rel (setTunnel t change)
  call : ∀ c change, (∀ cal : Call, (change cal).core = cal.core ∧ (change cal).ties = cal.ties ∧
    (cal.closing = true → (change cal).closing = true) ∧ (change cal).cnu = cal.cnu) →
    Prog.Within rel (setCall c change)
  lac : ∀ l change, (∀ lac : Lac, (change lac).ties = lac.ties) → Prog.Within rel (setLac l change)
  modify : ∀ change : Daemon → Daemon, (∀ d, change d = d.aside { d.rest with
      events := (change d).events, globalSerno := (change d).globalSerno, switchIo := (change d).switchIo
      dialNoTmp := (change d).dialNoTmp, drawn := (change d).drawn, out := (change d).out }) →
    (∀ d l, (change d).pending l = d.pending l) → (∀ d, ∃ said, (change d).out = d.out ++ said) →
    Prog.Within rel (modify change : Act PUnit)

theorem AdmitsUpdates.stores {rel : Daemon → Daemon → Prop} (admits : AdmitsUpdates rel) : Stores rel where
  tunnel := admits.tunnel
  call c change keeps := admits.call c change fun cal =>
    ⟨(keeps cal).1, (keeps cal).2.1, fun closing => (keeps cal).2.2.1 ▸ closing, (keeps cal).2.2.2⟩

-- Whatever the messages and the acknowledgements are.
structure TiesOnly (rel : Daemon → Daemon → Prop) : Prop where
  tunnel : ∀ t change, (∀ tun : Tunnel, (change tun).core = tun.core ∧ (change tun).ties = tun.ties) →
    Prog.Within rel (setTunnel t change)
  call : ∀ c change, (∀ cal : Call, (change cal).core = cal.core ∧ (change cal).ties = cal.ties ∧
    (cal.closing = true → (change cal).closing = true)) → Prog.Within rel (setCall c change)
  lac : ∀ l change, (∀ lac : Lac, (change lac).ties = lac.ties) → Prog.Within rel (setLac l change)
  modify : ∀ change : Daemon → Daemon, (∀ d, change d = d.aside { d.rest with
      events := (change d).events, globalSerno := (change d).globalSerno, switchIo := (change d).switchIo
      dialNoTmp := (change d).dialNoTmp, drawn := (change d).drawn, out := (change d).out }) →
    (∀ d l, (change d).pending l = d.pending l) → Prog.Within rel (modify change : Act PUnit)

theorem TiesOnly.admits {rel : Daemon → Daemon → Prop} (tiesOnly : TiesOnly rel) : AdmitsUpdates rel where
  tunnel t change keeps := tiesOnly.tunnel t change fun tun => ⟨(keeps tun).1, (keeps tun).2.1⟩
  call c change keeps := tiesOnly.call c change fun cal => ⟨(keeps cal).1, (keeps cal).2.1, (keeps cal).2.2.1⟩
  lac := tiesOnly.lac
  modify change side pending _ := tiesOnly.modify change side pending

instance (rel : Daemon → Daemon → Prop) : Coe (TiesOnly rel) (AdmitsUpdates rel) := ⟨TiesOnly.admits⟩

theorem tiesOnly_weaken {small large : Daemon → Daemon → Prop} (implies : ∀ d d', small d d' → large d d')
    (tiesOnly : TiesOnly small) :
    TiesOnly large where
  tunnel t change keeps := Prog.within_weaken _ _ _ implies (tiesOnly.tunnel t change keeps)
  call c change keeps := Prog.within_weaken _ _ _ implies (tiesOnly.call c change keeps)
  lac l change keeps := Prog.within_weaken _ _ _ implies (tiesOnly.lac l change keeps)
  modify change side pending := Prog.within_weaken _ _ _ implies (tiesOnly.modify change side pending)

theorem tiesOnly_tied : TiesOnly Tied where
  tunnel t change keeps := setTunnel_tied t change fun tun => (keeps tun).2
  call c change keeps := setCall_tied c change fun cal => (keeps cal).2
  lac := setLac_tied
  modify change side pending := modify_tied change (fun d => by rw [side d]; rfl) pending

def Numbers (rel : Daemon → Daemon → Prop) : Prop :=
  ∀ t, Prog.Within rel (setTunnel t fun tun => { tun with controlSeqNum := tun.controlSeqNum + 1 })

theorem TiesOnly.numbers {rel : Daemon → Daemon → Prop} (tiesOnly : TiesOnly rel) : Numbers rel := fun t =>
  tiesOnly.tunnel t _ fun _ => ⟨rfl, rfl⟩

-- Putting a message together.
section Building

variable {rel : Daemon → Daemon → Prop} [Prog.Steady rel] (admits : AdmitsUpdates rel) (env : Env)

include admits

omit [Prog.Steady rel] in
theorem emit_within (output : Output) : Prog.Within rel (emit output) :=
  admits.modify _ (fun _ => rfl) (fun _ _ => rfl) fun _ => ⟨[output], rfl⟩

omit [Prog.Steady rel] in
theorem schedule_within (tv : Timeval) (func : Func) (other : ∀ l, func.dials l = false) :
    Prog.Within rel (schedule env tv func) := by
  refine admits.modify _ (fun _ => rfl) (fun d l => ?_) fun d => ⟨[], (List.append_nil d.out).symm⟩
  refine (pending_insert ⟨env.now.after tv, func⟩ d.events l).trans ?_
  rw [if_neg (by rw [other l]; exact Bool.false_ne_true)]
  rfl

omit [Prog.Steady rel] in
theorem descheduleTunnel_within (t : TunnelPtr) : Prog.Within rel (descheduleTunnel t) := by
  refine admits.modify _ (fun _ => rfl) (fun d l => ?_) fun d => ⟨[], (List.append_nil d.out).symm⟩
  show (d.events.filter _).countP _ = _
  rw [List.countP_filter]
  refine List.countP_congr fun entry _ => ?_
  cases func : entry.func <;> simp [Func.dials, Func.isFor]

theorem getEntropy_within (count : Nat) : Prog.Within rel (getEntropy env count) := by
  unfold getEntropy
  refine Prog.within_bind (Prog.within_get rel) fun d => ?_
  refine Prog.within_bind (admits.modify _ (fun _ => rfl) (fun _ _ => rfl) fun d => ⟨[], (List.append_nil d.out).symm⟩)
    fun _ => ?_
  exact Prog.within_pure rel _

theorem addRandvect_within (t : TunnelPtr) : Prog.Within rel (addRandvect env t) := by
  unfold addRandvect
  refine Prog.within_bind (readTunnel_within _ t) fun tun => Prog.within_ite _ _ _ _ (fun _ => ?_) fun _ =>
    Prog.within_pure _ _
  refine Prog.within_bind (getEntropy_within admits env _) fun vector => ?_
  exact Prog.within_bind (admits.tunnel t _ fun _ => ⟨rfl, rfl, rfl⟩) fun _ => Prog.within_pure _ _

omit admits in
theorem newOutgoing_within (t : TunnelPtr) (body : List UInt8) : Prog.Within rel (newOutgoing t body) := by
  unfold newOutgoing
  exact Prog.within_bind (readTunnel_within _ t) fun _ => Prog.within_pure _ _

omit admits in
theorem addControlHdr_within (numbers : Numbers rel) (t : TunnelPtr) (c : CallPtr) (buf : Buffer) :
    Prog.Within rel (addControlHdr t c buf) := by
  unfold addControlHdr
  refine Prog.within_bind (readTunnel_within _ t) fun _ => Prog.within_bind (readCall_within _ c) fun _ => ?_
  exact Prog.within_bind (numbers t) fun _ => Prog.within_pure _ _

theorem udpXmit_within (buf : Buffer) (t : TunnelPtr) : Prog.Within rel (udpXmit buf t) := by
  unfold udpXmit
  exact Prog.within_bind (readTunnel_within _ t) fun _ => emit_within admits _

omit admits in
theorem controlZlb_within (tiesOnly : TiesOnly rel) (t : TunnelPtr) (c : CallPtr) : Prog.Within rel
    (controlZlb t c) := by
  unfold controlZlb
  refine Prog.within_bind (readTunnel_within _ t) fun _ => ?_
  refine Prog.within_bind (addControlHdr_within tiesOnly.numbers t c _) fun buf => ?_
  exact Prog.within_bind (tiesOnly.tunnel t _ fun _ => ⟨rfl, rfl⟩) fun _ => udpXmit_within tiesOnly buf t

theorem closingResult_within (c : CallPtr) : Prog.Within rel (closingResult c) := by
  unfold closingResult
  refine Prog.within_bind (admits.call c _ fun _ => ⟨rfl, rfl, id, rfl⟩) fun _ => ?_
  exact Prog.within_bind (readCall_within _ c) fun _ => Prog.within_pure _ _

theorem stopCCNBody_within (t : TunnelPtr) (c : CallPtr) : Prog.Within rel (stopCCNBody env t c) := by
  unfold stopCCNBody
  refine Prog.within_bind (addRandvect_within admits env t) fun _ => Prog.within_bind (readTunnel_within _ t) fun _ =>
    ?_
  exact Prog.within_bind (closingResult_within admits c) fun _ => Prog.within_pure _ _

theorem cdnBody_within (t : TunnelPtr) (c : CallPtr) : Prog.Within rel (cdnBody env t c) := by
  unfold cdnBody
  refine Prog.within_bind (addRandvect_within admits env t) fun _ =>
    Prog.within_bind (closingResult_within admits c) fun _ => ?_
  exact Prog.within_bind (readCall_within _ c) fun _ => Prog.within_pure _ _

theorem noteCloseSs_within (t : TunnelPtr) (c : CallPtr) : Prog.Within rel (noteCloseSs t c) := by
  unfold noteCloseSs
  exact Prog.within_bind (readTunnel_within _ t) fun _ => admits.call c _ fun _ => ⟨rfl, rfl, id, rfl⟩

omit [Prog.Steady rel] admits in
theorem setError_within (stores : Stores rel) (c : CallPtr) (error : Int) (message : CString) :
    Prog.Within rel (setError c error message) :=
  stores.call c _ fun _ => ⟨rfl, rfl, rfl, rfl⟩

theorem refuse_within (c : CallPtr) (message : String) : Prog.Within rel (refuse c message) := by
  unfold refuse
  exact Prog.within_bind (setError_within admits.stores c _ _) fun _ => Prog.within_pure _ _

omit admits in
theorem reportedName_within (tun : Tunnel) : Prog.Within rel (reportedName env tun) := by
  have fromLac : Prog.Within rel (lacHostname tun.lac) := by
    cases tun.lac with
    | none => exact Prog.within_pure _ _
    | some l => exact Prog.within_bind (readLac_within _ l) fun _ => Prog.within_pure _ _
  have fromLns : Prog.Within rel (lnsHostname tun.lns) := by
    cases tun.lns with
    | none => exact Prog.within_pure _ _
    | some l => exact Prog.within_bind (readLns_within _ l) fun _ => Prog.within_pure _ _
  unfold reportedName
  refine Prog.within_bind fromLac fun _ => Prog.within_ite _ _ _ _ (fun _ => Prog.within_pure _ _) fun _ => ?_
  exact Prog.within_bind fromLns fun _ => Prog.within_pure _ _

theorem introduction_within (t : TunnelPtr) (type : Msg) : Prog.Within rel (introduction env t type) := by
  unfold introduction
  refine Prog.within_bind (addRandvect_within admits env t) fun _ => Prog.within_bind (readTunnel_within _ t) fun tun =>
    ?_
  exact Prog.within_bind (reportedName_within env tun) fun _ => Prog.within_pure _ _

end Building

-- A relation that closing down keeps to: besides what is tiesOnly it destroys a
-- call that is not its tunnel's own entry, or a tunnel by that entry.
structure Closes (env : Env) (rel : Daemon → Daemon → Prop) : Prop where
  tiesOnly : TiesOnly rel
  destroyCall : ∀ c d u d', (d.tunnel (d.call c).container).self ≠ some c → destroyCall env c d = some (u, d') →
    rel d d'
  destroyTunnel : ∀ t c d u d', (d.tunnel t).self = some c → (d.call c).container = t →
    destroyTunnel env t d = some (u, d') → rel d d'

-- The same of a relation that asks for more.
structure Shuts (env : Env) (rel : Daemon → Daemon → Prop) : Prop where
  admits : AdmitsUpdates rel
  numbers : Numbers rel
  destroyCall : ∀ c d u d', (d.tunnel (d.call c).container).self ≠ some c → destroyCall env c d = some (u, d') →
    rel d d'
  destroyTunnel : ∀ t c d u d', (d.tunnel t).self = some c → (d.call c).container = t →
    destroyTunnel env t d = some (u, d') → rel d d'

theorem Closes.shuts {env : Env} {rel : Daemon → Daemon → Prop} (closes : Closes env rel) : Shuts env rel :=
  ⟨closes.tiesOnly, closes.tiesOnly.numbers, closes.destroyCall, closes.destroyTunnel⟩

instance (env : Env) (rel : Daemon → Daemon → Prop) : Coe (Closes env rel) (Shuts env rel) := ⟨Closes.shuts⟩

section Closing

variable {env : Env} {rel : Daemon → Daemon → Prop} [Prog.Steady rel] (shuts : Shuts env rel)

include shuts

theorem close_within (depth : Nat) : (∀ buf, Prog.Within rel (controlXmit env depth buf)) ∧
    ∀ c, Prog.Within rel (callClose env depth c) := by
  have admits := shuts.admits
  induction depth with
  | zero =>
      constructor
      · intro buf
        rw [controlXmit]
        exact Prog.within_wrong _
      · intro c
        rw [callClose]
        exact Prog.within_wrong _
  | succ depth ih =>
      obtain ⟨xmit, close⟩ := ih
      have send (t : TunnelPtr) (c : CallPtr) (body : List UInt8) (later : Act PUnit) (rest : Prog.Within rel later) :
          Prog.Within rel (do
            let buf ← newOutgoing t body
            let buf ← addControlHdr t c buf
            controlXmit env depth buf
            later) := by
        refine Prog.within_bind (newOutgoing_within t body) fun buf => ?_
        exact Prog.within_bind (addControlHdr_within shuts.numbers t c buf) fun buf =>
          Prog.within_bind (xmit buf) fun _ => rest
      constructor
      · intro buf
        rw [controlXmit]
        split
        next => exact Prog.within_ite _ _ _ _ (fun _ => Prog.within_pure _ _) fun _ => Prog.within_wrong _
        next t _ =>
          refine Prog.within_bind (readTunnel_within _ t) fun tun => ?_
          refine Prog.within_ite _ _ _ _ (fun _ => Prog.within_pure _ _) fun _ => ?_
          refine Prog.within_ite _ _ _ _ (fun _ => ?_) fun _ => ?_
          · refine Prog.within_bind (deref_within _ tun.self) fun self => ?_
            exact Prog.within_bind (admits.call self _
              fun cal => by
                split <;> first | exact ⟨rfl, rfl, fun _ => rfl, rfl⟩ | exact ⟨rfl, rfl, id, rfl⟩) fun _ => close self
          · exact Prog.within_bind (schedule_within admits env _ _ fun _ => rfl) fun _ => udpXmit_within admits _ t
      · intro c d u d' ran
        rw [callClose] at ran
        obtain ⟨cal, d₁, read, ran⟩ := (Prog.bind_some _ _ _ _ _).mp ran
        obtain ⟨_, rfl, rfl⟩ := (readCall_some _ _ _ _).mp read
        obtain ⟨tun, d₂, read, ran⟩ := (Prog.bind_some _ _ _ _ _).mp ran
        obtain ⟨_, rfl, rfl⟩ := (readTunnel_some _ _ _ _).mp read
        split at ran
        next own =>
          obtain ⟨_, d₃, descheduled, ran⟩ := (Prog.bind_some _ _ _ _ _).mp ran
          refine Prog.Steady.trans _ _ _ (descheduleTunnel_within admits _ d₂ _ d₃ descheduled) ?_
          obtain rfl := (Prog.modify_some _ _ _ _).mp descheduled
          split at ran
          next => exact shuts.destroyTunnel _ c _ u d' own rfl ran
          next =>
            refine Prog.within_bind (noteCloseSs_within admits _ c) (fun _ => ?_) _ u d' ran
            refine Prog.within_bind (stopCCNBody_within admits env _ c) fun body => ?_
            refine send _ c body _ ?_
            refine Prog.within_bind (readTunnel_within _ _) fun tun => ?_
            refine Prog.within_bind (Prog.within_forM tun.calls _ fun tmp _ => ?_) fun _ => admits.call c _ fun _ =>
              ⟨rfl, rfl, fun _ => rfl, rfl⟩
            exact Prog.within_bind (admits.call tmp _ fun _ => ⟨rfl, rfl, fun _ => rfl, rfl⟩) fun _ => close tmp
        next other =>
          split at ran
          next => exact shuts.destroyCall c d₂ u d' other ran
          next =>
            refine Prog.within_bind (noteCloseSs_within admits _ c) (fun _ => ?_) d₂ u d' ran
            refine Prog.within_bind (cdnBody_within admits env _ c) fun body => ?_
            exact send _ c body _ (admits.call c _ fun _ => ⟨rfl, rfl, fun _ => rfl, rfl⟩)

theorem sendControl_shuts (t : TunnelPtr) (c : CallPtr) (body : List UInt8)
    (clears : Prog.Within rel (setCall c fun cal => { cal with cnu := false })) : Prog.Within rel
    (sendControl env t c body) := by
  unfold sendControl
  refine Prog.within_bind (newOutgoing_within t body) fun buf => ?_
  refine Prog.within_bind (addControlHdr_within shuts.numbers t c buf) fun buf => ?_
  exact Prog.within_bind clears fun _ => (close_within shuts _).1 buf

omit shuts in
theorem sendControl_closes (closes : Closes env rel) (t : TunnelPtr) (c : CallPtr) (body : List UInt8) :
    Prog.Within rel (sendControl env t c body) :=
  sendControl_shuts closes t c body (closes.tiesOnly.call c _ fun _ => ⟨rfl, rfl, id⟩)

omit shuts in
theorem hello_closes (closes : Closes env rel) (t : TunnelPtr) : Prog.Within rel (hello env t) := by
  have tiesOnly := closes.tiesOnly
  unfold hello
  refine Prog.within_bind (newOutgoing_within t _) fun buf => Prog.within_bind (readTunnel_within _ t) fun tun => ?_
  refine Prog.within_bind (deref_within _ tun.self) fun self => ?_
  refine Prog.within_bind (addControlHdr_within tiesOnly.numbers t self buf) fun buf => ?_
  exact Prog.within_bind ((close_within closes.shuts _).1 buf) fun _ => schedule_within tiesOnly.admits env _ _ fun _ =>
    rfl

end Closing

theorem controlXmit_tied (env : Env) (depth : Nat) (buf : Buffer) (spare : buf.retries + 1 ≤ env.maxRetries) :
    Prog.Within Tied (controlXmit env depth buf) := by
  cases depth with
  | zero =>
      rw [controlXmit]
      exact Prog.within_wrong _
  | succ depth =>
      rw [controlXmit]
      split
      next => exact Prog.within_ite _ _ _ _ (fun _ => Prog.within_pure _ _) fun _ => Prog.within_wrong _
      next t _ =>
        refine Prog.within_bind (readTunnel_within _ t) fun tun => ?_
        refine Prog.within_ite _ _ _ _ (fun _ => Prog.within_pure _ _) fun _ => ?_
        refine Prog.within_ite _ _ _ _ (fun spent => absurd spare (Int.not_le.mpr spent)) fun _ => ?_
        exact Prog.within_bind (schedule_within tiesOnly_tied env _ _ fun _ => rfl) fun _ =>
          udpXmit_within tiesOnly_tied _ t

theorem sendControl_tied (env : Env) (retries : 0 < env.maxRetries) (t : TunnelPtr) (c : CallPtr) (body : List UInt8) :
    Prog.Within Tied (sendControl env t c body) := by
  unfold sendControl newOutgoing addControlHdr
  simp only [bind_assoc, pure_bind]
  refine Prog.within_bind (readTunnel_within _ t) fun tun => Prog.within_bind (readTunnel_within _ t) fun _ => ?_
  refine Prog.within_bind (readCall_within _ c) fun _ => Prog.within_bind (setTunnel_tied t _ fun _ => rfl) fun _ => ?_
  refine Prog.within_bind (setCall_tied c _ fun _ => ⟨rfl, id⟩) fun _ => controlXmit_tied env _ _ ?_
  exact retries

end ZyAgf.Xl2tpd
