import ZyAgf.Xl2tpd.TiesOnly

set_option autoImplicit false

namespace ZyAgf.Xl2tpd

theorem scanAddr_good (good : Nat → Bool) (x : Nat) (count : Nat) (addr : Nat)
    (found : scanAddr good x count = some addr) :
    good addr = true := by
  induction count generalizing x with
  | zero => cases found
  | succ count ih =>
      rw [scanAddr] at found
      split at found
      next fits =>
        obtain rfl := Option.some.inj found
        exact fits
      next => exact ih _ found

theorem getAddr_some (uaddr : List Nat) (ranges : List IpRange) (d d' : Daemon) (addr : Nat)
    (ran : getAddr uaddr ranges d = some (addr, d')) : d' = d ∧ (addr = 0 ∨ addr ∉ uaddr) := by
  have unused (rest : List IpRange) (start count : Nat)
      (found : scanAddr (fun x => !ipUsed uaddr x && lastSense rest x true) start count = some addr) : addr ∉
        uaddr := by
    have good := scanAddr_good _ _ _ _ found
    simp only [Bool.and_eq_true, Bool.not_eq_true', ipUsed] at good
    simpa using good.1
  induction ranges with
  | nil =>
      obtain ⟨rfl, rfl⟩ := (Prog.pure_some _ _ _ _).mp ran
      exact ⟨rfl, .inl rfl⟩
  | cons r rest ih =>
      rw [getAddr] at ran
      split at ran
      next => exact ih ran
      next =>
        split at ran
        next =>
          obtain ⟨found, rfl⟩ := (deref_some _ _ _ _).mp ran
          exact ⟨rfl, .inr (unused rest _ _ found)⟩
        next =>
          cases found : scanAddr (fun x => !ipUsed uaddr x && lastSense rest x true) r.start (r.stop + 1 - r.start) with
          | some x =>
              rw [found] at ran
              obtain ⟨rfl, rfl⟩ := (Prog.pure_some _ _ _ _).mp ran
              exact ⟨rfl, .inr (unused rest _ _ found)⟩
          | none =>
              rw [found] at ran
              exact ih ran

theorem reserveAddr_some (addr : Nat) (d d' : Daemon) (u : PUnit) (given : addr ≠ 0)
    (ran : reserveAddr addr d = some (u, d')) (free : addr = 0 ∨ addr ∉ d.uaddr) :
    d' = { d with uaddr := reserved d.uaddr addr } := by
  unfold reserveAddr at ran
  obtain rfl := (Prog.modify_some _ _ _ _).mp ran
  have unused : ¬ ipUsed d.uaddr addr = true := by
    rcases free with zero | absent
    · exact absurd zero given
    · simpa [ipUsed] using absent
  rw [if_neg unused, reserved, if_neg given]

theorem getAddr_within (rel : Daemon → Daemon → Prop) [Prog.Steady rel] (uaddr : List Nat) (ranges : List IpRange) :
    Prog.Within rel (getAddr uaddr ranges) := by
  intro d addr d' ran
  obtain ⟨rfl, _⟩ := getAddr_some uaddr ranges d d' addr ran
  exact Prog.Steady.refl _

-- What control_finish does to a core, taken as what a relation keeps to.
def Raises (rel : Daemon → Daemon → Prop) (t : TunnelPtr) (m : Msg) : Prop :=
  ∀ change : Tunnel → Tunnel, (∀ tun, (change tun).core = { tun.core with state := some m } ∧
    (change tun).ties = tun.ties ∧
    (change tun).route = tun.route) → Prog.Within rel (setTunnel t change)

def RaisesCall (rel : Daemon → Daemon → Prop) (c : CallPtr) (m : Msg) : Prop :=
  ∀ change : Call → Call, (∀ cal, (change cal).core = { cal.core with state := some m } ∧ (change cal).ties = cal.ties ∧
    (change cal).closing = cal.closing ∧ (change cal).cnu = cal.cnu) → Prog.Within rel (setCall c change)

def Challenges (rel : Daemon → Daemon → Prop) (t : TunnelPtr) : Prop :=
  ∀ change : Tunnel → Tunnel, (∀ tun, change tun = { tun with chalThem := (change tun).chalThem }) →
    Prog.Within rel (setTunnel t change)

-- Not one of these is a tie.
section OfTied

variable {rel : Daemon → Daemon → Prop} (tied : ∀ d d', Tied d d' → rel d d')

include tied

theorem raises_of_tied (t : TunnelPtr) (m : Msg) : Raises rel t m := fun change keeps =>
  Prog.within_weaken _ _ _ tied (setTunnel_tied t change fun tun => (keeps tun).2.1)

theorem raisesCall_of_tied (c : CallPtr) (m : Msg) : RaisesCall rel c m := fun change keeps =>
  Prog.within_weaken _ _ _ tied (setCall_tied c change fun cal =>
    ⟨(keeps cal).2.1, fun closing => (keeps cal).2.2.1 ▸ closing⟩)

theorem challenges_of_tied (t : TunnelPtr) : Challenges rel t := fun change only =>
  Prog.within_weaken _ _ _ tied (setTunnel_tied t change fun tun => by rw [only tun]; rfl)

end OfTied

-- A relation that sending a message keeps to as well.
structure Sends (env : Env) (rel : Daemon → Daemon → Prop) : Prop where
  tiesOnly : TiesOnly rel
  sends : ∀ t c body, Prog.Within rel (sendControl env t c body)

theorem sends_of_closes {env : Env} {rel : Daemon → Daemon → Prop} [Prog.Steady rel]
    (closes : Closes env rel) : Sends env rel :=
  ⟨closes.tiesOnly, sendControl_closes closes⟩

theorem sends_weaken {env : Env} {small large : Daemon → Daemon → Prop} (implies : ∀ d d', small d d' → large d d')
    (sends : Sends env small) : Sends env large :=
  ⟨tiesOnly_weaken implies sends.tiesOnly, fun t c body => Prog.within_weaken _ _ _ implies (sends.sends t c body)⟩

theorem sends_tied (env : Env) (retries : 0 < env.maxRetries) : Sends env Tied :=
    ⟨tiesOnly_tied, sendControl_tied env retries⟩

-- The same of the messages of one entry, and of a relation that asks for more.
structure SendsOn (env : Env) (rel : Daemon → Daemon → Prop) (t : TunnelPtr) (c : CallPtr) : Prop where
  admits : AdmitsUpdates rel
  sends : ∀ body, Prog.Within rel (sendControl env t c body)

theorem Sends.on {env : Env} {rel : Daemon → Daemon → Prop} (sends : Sends env rel) (t : TunnelPtr) (c : CallPtr) :
    SendsOn env rel t c :=
  ⟨sends.tiesOnly, sends.sends t c⟩

instance (env : Env) (rel : Daemon → Daemon → Prop) (t : TunnelPtr) (c : CallPtr) : Coe (Sends env rel)
    (SendsOn env rel t c) :=
  ⟨fun sends => sends.on t c⟩

section Challenging

variable {rel : Daemon → Daemon → Prop} [Prog.Steady rel] (admits : AdmitsUpdates rel) (env : Env) {t : TunnelPtr}
  (challenges : Challenges rel t)

include challenges

include admits in
theorem makeChallenge_within : Prog.Within rel (makeChallenge env t) := by
  unfold makeChallenge
  refine Prog.within_ite _ _ _ _ (fun _ => ?_) fun _ => ?_
  · exact Prog.within_bind (challenges _ fun _ => rfl) fun _ => Prog.within_pure _ _
  · refine Prog.within_bind (getEntropy_within admits env _) fun challenge => ?_
    exact Prog.within_bind (challenges _ fun _ => rfl) fun _ => Prog.within_pure _ _

theorem handleChallenge_them_within : Prog.Within rel (handleChallenge env t .them) := by
  unfold handleChallenge
  refine Prog.within_bind (readTunnel_within _ t) fun tun =>
    Prog.within_bind (challengeNames_within _ env tun) fun names => ?_
  split
  next => exact Prog.within_pure _ _
  next => exact Prog.within_bind (challenges _ fun _ => rfl) fun _ => Prog.within_pure _ _

include admits in
theorem checkSCCRP_within (c : CallPtr) : Prog.Within rel (checkSCCRP env t c) := by
  unfold checkSCCRP
  refine Prog.within_bind (readTunnel_within _ t) fun tun =>
    Prog.within_ite _ _ _ _ (fun _ => Prog.within_pure _ _) fun _ => ?_
  refine Prog.within_bind (challenges _ fun _ => rfl) fun _ => ?_
  refine Prog.within_bind (handleChallenge_them_within env challenges) fun failed => ?_
  refine Prog.within_ite _ _ _ _ (fun _ => refuse_within admits c _) fun _ =>
    Prog.within_bind (readTunnel_within _ t) fun tun => ?_
  exact Prog.within_ite _ _ _ _ (fun _ => refuse_within admits c _) fun _ => Prog.within_pure _ _

end Challenging

section Sending

variable {env : Env} {rel : Daemon → Daemon → Prop} [Prog.Steady rel] {t : TunnelPtr} {c : CallPtr}
    (sends : SendsOn env rel t c)

include sends

theorem challengePeer_within (challenges : Challenges rel t) (intro' : List UInt8) :
    Prog.Within rel (challengePeer env t c intro') := by
  have admits := sends.admits
  unfold challengePeer
  refine Prog.within_bind (makeChallenge_within admits env challenges) fun made => ?_
  refine Prog.within_ite _ _ _ _ (fun _ => refuse_within admits c _) fun _ => ?_
  refine Prog.within_bind (challenges _ fun _ => rfl) fun _ => ?_
  refine Prog.within_bind (handleChallenge_them_within env challenges) fun failed => ?_
  refine Prog.within_ite _ _ _ _ (fun _ => refuse_within admits c _) fun _ => ?_
  refine Prog.within_bind (readTunnel_within _ t) fun tun => ?_
  exact Prog.within_bind (sends.sends _) fun _ => Prog.within_pure _ _

theorem startTunnel_within (raises : Raises rel t .SCCRQ) (challenges : Challenges rel t) :
    Prog.Within rel (startTunnel env t c) := by
  have admits := sends.admits
  unfold startTunnel
  refine Prog.within_bind (inheritTunnel_within admits t) fun _ =>
    Prog.within_bind (raises _ fun _ => ⟨rfl, rfl, rfl⟩) fun _ => ?_
  refine Prog.within_bind (introduction_within admits env t .SCCRQ) fun intro' => ?_
  refine Prog.within_bind (readTunnel_within _ t) fun tun =>
    Prog.within_bind (wantsChallenge_within _ tun) fun wanted => ?_
  refine Prog.within_ite _ _ _ _ (fun _ => ?_) fun _ => ?_
  · refine Prog.within_bind (makeChallenge_within admits env challenges) fun made => ?_
    refine Prog.within_ite _ _ _ _ (fun _ => Prog.within_pure _ _) fun _ => ?_
    refine Prog.within_bind (challenges _ fun _ => rfl) fun _ => Prog.within_bind (readTunnel_within _ t) fun _ => ?_
    exact Prog.within_bind (sends.sends _) fun _ => Prog.within_pure _ _
  · exact Prog.within_bind (sends.sends _) fun _ => Prog.within_pure _ _

theorem startIncoming_within (raises : RaisesCall rel c .ICRQ) : Prog.Within rel (startIncoming env t c) := by
  have admits := sends.admits
  unfold startIncoming
  refine Prog.within_bind (raises _ fun _ => ⟨rfl, rfl, rfl, rfl⟩) fun _ =>
    Prog.within_bind (inheritCall_within admits c true) fun _ => ?_
  refine Prog.within_bind (addRandvect_within admits env t) fun _ => Prog.within_bind (readCall_within _ c) fun _ => ?_
  refine Prog.within_bind (takeSerno_within admits c) fun _ => ?_
  exact Prog.within_bind (sends.sends _) fun _ => Prog.within_pure _ _

theorem startOutgoing_within (raises : RaisesCall rel c .OCRQ) : Prog.Within rel (startOutgoing env t c) := by
  have admits := sends.admits
  unfold startOutgoing
  refine Prog.within_bind (raises _ fun _ => ⟨rfl, rfl, rfl, rfl⟩) fun _ =>
    Prog.within_bind (inheritCall_within admits c false) fun _ => ?_
  refine Prog.within_bind (readTunnel_within _ t) fun _ =>
    Prog.within_bind (admits.call c _ fun _ => ⟨rfl, rfl, id, rfl⟩) fun _ => ?_
  refine Prog.within_bind (readCall_within _ c) fun _ => Prog.within_bind (takeSerno_within admits c) fun _ => ?_
  exact Prog.within_bind (sends.sends _) fun _ => Prog.within_pure _ _

omit sends in
theorem initiate_starts (tunnel : Prog.Within rel (startTunnel env t c))
    (incoming : Prog.Within rel (startIncoming env t c))
    (outgoing : Prog.Within rel (startOutgoing env t c)) : Prog.Within rel (initiate env t c) := by
  unfold initiate
  refine Prog.within_bind (readTunnel_within _ t) fun _ => Prog.within_bind (Prog.within_get _) fun _ => ?_
  exact Prog.within_ite _ _ _ _ (fun _ => tunnel) fun _ => Prog.within_ite _ _ _ _ (fun _ => incoming) fun _ => outgoing

theorem replySCCRQ_within (raises : Raises rel t .SCCRP) (challenges : Challenges rel t) (lns : Lns) :
    Prog.Within rel (replySCCRQ env t c lns) := by
  have admits := sends.admits
  unfold replySCCRQ
  refine Prog.within_bind (raises _ fun _ => ⟨rfl, rfl, rfl⟩) fun _ => ?_
  refine Prog.within_bind (introduction_within admits env t .SCCRP) fun intro' => ?_
  refine Prog.within_bind (answerTheirs_within admits env t .SCCRP) fun answer => ?_
  refine Prog.within_ite _ _ _ _ (fun _ => challengePeer_within sends challenges _) fun _ => ?_
  exact Prog.within_bind (sends.sends _) fun _ => Prog.within_pure _ _

theorem finishSCCRQ_within (raises : Raises rel t .SCCRP) (challenges : Challenges rel t)
    (chooses : ∀ d chosen, (d.tunnel t).live = true → (∀ l, chosen = some l → (d.lns l).live = true) →
      rel d { d with tunnel := write d.tunnel t { d.tunnel t with lns := chosen } }) : Prog.Within rel
        (finishSCCRQ env t c) := by
  have admits := sends.admits
  unfold finishSCCRQ
  refine Prog.within_bind (readTunnel_within _ t) fun tun =>
    Prog.within_ite _ _ _ _ (fun _ => refuse_within admits c _) fun _ => ?_
  intro d result d' ran
  obtain ⟨chosen, d₁, scanned, ran⟩ := (Prog.bind_some _ _ _ _ _).mp ran
  obtain rfl : d = d₁ := getLns_within Eq env t d chosen d₁ scanned
  obtain ⟨_, d₂, set, ran⟩ := (Prog.bind_some _ _ _ _ _).mp ran
  obtain ⟨live, rfl⟩ := (setTunnel_some _ _ _ _ _).mp set
  cases chosen with
  | none =>
      refine Prog.Steady.trans _ _ _ (chooses d none live fun _ none' => by cases none') ?_
      exact refuse_within admits c _ _ result d' ran
  | some l =>
      obtain ⟨lns, d₃, read, ran⟩ := (Prog.bind_some _ _ _ _ _).mp ran
      obtain ⟨served, _, rfl⟩ := (readLns_some _ _ _ _).mp read
      refine Prog.Steady.trans _ _ _ (chooses d (some l) live fun _ same => Option.some.inj same ▸ served) ?_
      have takes := admits.tunnel t (fun tun => { tun with ourrws := lns.tunRws, hbit := lns.hbit }) fun _ =>
        ⟨rfl, rfl, rfl⟩
      refine Prog.within_bind takes (fun _ => ?_) _ result d' ran
      refine Prog.within_ite _ _ _ _ (fun _ => refuse_within admits c _) fun _ => ?_
      refine Prog.within_ite _ _ _ _ (fun _ => refuse_within admits c _) fun _ =>
        Prog.within_bind (Prog.within_get _) fun now => ?_
      refine Prog.within_bind (twiceRequested_within _ env t tun _) fun twice =>
        Prog.within_ite _ _ _ _ (fun _ => ?_) fun _ => ?_
      · exact Prog.within_bind (admits.call c _ fun _ => ⟨rfl, rfl, fun _ => rfl, rfl⟩) fun _ => Prog.within_pure _ _
      · exact replySCCRQ_within sends raises challenges lns

omit sends in
theorem finishSCCRP_leads {large : Daemon → Daemon → Prop} (leads : Prog.Leads rel large) (admits : AdmitsUpdates rel)
    (challenges : Challenges rel t) (joins : ∀ answer, Prog.Within large (joinTunnel env t c answer)) :
    Prog.Within large (finishSCCRP env t c) := by
  have refuses (message : String) : Prog.Within large (refuse c message) :=
    Prog.within_weaken _ _ _ leads.implies (refuse_within admits c message)
  have leaves (result : Int) : Prog.Within large (pure result) :=
    Prog.within_weaken _ _ _ leads.implies (Prog.within_pure rel result)
  unfold finishSCCRP
  refine Prog.within_lead leads (readTunnel_within rel t) fun tun =>
    Prog.within_ite _ _ _ _ (fun _ => refuses _) fun _ => ?_
  refine Prog.within_ite _ _ _ _ (fun _ => refuses _) fun _ => Prog.within_ite _ _ _ _ (fun _ => refuses _) fun _ => ?_
  refine Prog.within_lead leads (checkSCCRP_within admits env challenges c) fun unproven => ?_
  refine Prog.within_ite _ _ _ _ (fun _ => leaves _) fun _ => ?_
  refine Prog.within_lead leads (answerTheirs_within admits env t .SCCCN) fun answer => ?_
  exact Prog.within_ite _ _ _ _ (fun _ => refuses _) fun _ => joins answer.1

theorem finishSCCRP_within (raises : Raises rel t .SCCCN) (challenges : Challenges rel t)
    (dials : ∀ lac, Prog.Within rel (dialLac env lac)) : Prog.Within rel (finishSCCRP env t c) := by
  have admits := sends.admits
  refine finishSCCRP_leads (Prog.Leads.self rel) admits challenges fun answer => ?_
  unfold joinTunnel
  refine Prog.within_bind (raises _ fun _ => ⟨rfl, rfl, rfl⟩) fun _ =>
    Prog.within_bind (addRandvect_within admits env t) fun vector => ?_
  refine Prog.within_bind (sends.sends _) fun _ => Prog.within_bind (connectPppol2tp_within admits env t) fun _ => ?_
  refine Prog.within_bind (startHello_within admits env t) fun _ => Prog.within_bind (readTunnel_within _ t) fun tun =>
    ?_
  exact Prog.within_bind (dials tun.lac) fun _ => Prog.within_pure _ _

omit sends in
theorem finishSCCCN_within (admits : AdmitsUpdates rel) (raises : Raises rel t .SCCCN) (c : CallPtr) :
    Prog.Within rel (finishSCCCN env t c) := by
  unfold finishSCCCN
  refine Prog.within_bind (readTunnel_within _ t) fun tun =>
    Prog.within_ite _ _ _ _ (fun _ => refuse_within admits c _) fun _ => ?_
  refine Prog.within_bind (raises _ fun _ => ⟨rfl, rfl, rfl⟩) fun _ =>
    Prog.within_bind (deref_within _ tun.lns) fun l => ?_
  refine Prog.within_bind (readLns_within _ l) fun _ => Prog.within_bind (connectPppol2tp_within admits env t) fun _ =>
    ?_
  exact Prog.within_bind (startHello_within admits env t) fun _ => Prog.within_pure _ _

omit sends in
theorem finishICRQ_leads {large : Daemon → Daemon → Prop} (leads : Prog.Leads rel large) (admits : AdmitsUpdates rel)
    (raises : ∀ p, RaisesCall rel p .ICRP) (assigns : ∀ p, Prog.Within rel (assignAddr t p))
    (refuses : ∀ p, Prog.Within large (closeRefused env p))
    (answers : ∀ p body, Prog.Within large (do
      sendControl env t p body
      return 0 : Act Int)) :
    Prog.Within large (finishICRQ env t) := by
  unfold finishICRQ
  refine Prog.within_lead leads (readTunnel_within _ t) fun tun => Prog.within_lead leads (deref_within _ _) fun p => ?_
  refine Prog.within_lead leads (readCall_within _ p) fun cal => ?_
  split
  next => exact Prog.within_lead leads (setError_within admits.stores p _ _) fun _ => refuses p
  next l _ =>
    refine Prog.within_lead leads (readLns_within _ l) fun lns => ?_
    refine Prog.within_lead leads (admits.call p _ fun _ => ⟨rfl, rfl, id, rfl⟩) fun _ => ?_
    refine Prog.within_ite _ _ _ _ (fun _ => refuses p) fun _ =>
      Prog.within_lead leads (hasCid_within _ _ _) fun twice => ?_
    refine Prog.within_ite _ _ _ _ (fun _ => Prog.within_weaken _ _ _ leads.implies ?_) fun _ => ?_
    · exact Prog.within_bind (admits.call p _ fun _ => ⟨rfl, rfl, fun _ => rfl, rfl⟩) fun _ => Prog.within_pure _ _
    refine Prog.within_lead leads (assigns p) fun assigned => Prog.within_ite _ _ _ _ (fun _ => ?_) fun _ => ?_
    · exact Prog.within_lead leads (setError_within admits.stores p _ _) fun _ => refuses p
    refine Prog.within_lead leads (raises p _ fun _ => ⟨rfl, rfl, rfl, rfl⟩) fun _ => ?_
    exact Prog.within_lead leads (addRandvect_within admits env t) fun vector => answers p _

omit sends in
theorem finishICRQ_within (admits : AdmitsUpdates rel) (sends : ∀ p, SendsOn env rel t p)
    (raises : ∀ p, RaisesCall rel p .ICRP)
    (assigns : ∀ p, Prog.Within rel (assignAddr t p)) (refuses : ∀ p, Prog.Within rel (closeRefused env p)) :
    Prog.Within rel (finishICRQ env t) :=
  finishICRQ_leads (Prog.Leads.self rel) admits raises assigns refuses fun p body =>
    Prog.within_bind ((sends p).sends body) fun _ => Prog.within_pure _ _

theorem finishICRP_within (raises : RaisesCall rel c .ICCN) : Prog.Within rel (finishICRP env t c) := by
  have admits := sends.admits
  unfold finishICRP
  refine Prog.within_bind (readCall_within _ c) fun cal => Prog.within_ite _ _ _ _ (fun _ => ?_) fun _ => ?_
  · exact Prog.within_bind (admits.call c _ fun _ => ⟨rfl, rfl, id, rfl⟩) fun _ => Prog.within_pure _ _
  refine Prog.within_bind (readTunnel_within _ t) fun tun =>
    Prog.within_bind (raises _ fun _ => ⟨rfl, rfl, rfl, rfl⟩) fun _ => ?_
  refine Prog.within_bind (addRandvect_within admits env t) fun vector => Prog.within_bind (sends.sends _) fun _ => ?_
  refine Prog.within_bind (deref_within _ cal.lac) fun l => Prog.within_bind (readLac_within _ l) fun lac => ?_
  refine Prog.within_bind (passPassword_within admits env l lac) fun password => ?_
  split
  next => exact Prog.within_pure _ _
  next =>
    refine Prog.within_bind (startPppd_within admits env c _) fun _ => ?_
    exact Prog.within_bind (admits.lac l _ fun _ => rfl) fun _ => Prog.within_pure _ _

omit sends in
theorem finishICCN_within (admits : AdmitsUpdates rel) (raises : RaisesCall rel c .ICCN)
    (takes : ∀ d d' full, (d.call c).state ≠ none → getLocalAddr env t c d = some (full, d') → rel d d') :
    Prog.Within rel (finishICCN env t c) := by
  unfold finishICCN
  refine Prog.within_bind (readTunnel_within _ t) fun tun =>
    Prog.within_ite _ _ _ _ (fun _ => Prog.within_pure _ _) fun _ => ?_
  intro d result d' ran
  obtain ⟨_, d₁, raised, ran⟩ := (Prog.bind_some _ _ _ _ _).mp ran
  obtain ⟨full, d₂, took, ran⟩ := (Prog.bind_some _ _ _ _ _).mp ran
  have busy : (d₁.call c).state ≠ none := by
    obtain ⟨_, rfl⟩ := (setCall_some _ _ _ _ _).mp raised
    simp only [write_here]
    exact Option.some_ne_none _
  have first : rel d d₁ := raises (fun cal => { cal with state := some .ICCN })
    (fun _ => ⟨rfl, rfl, rfl, rfl⟩) d _ d₁ raised
  refine Prog.Steady.trans _ _ _ first (Prog.Steady.trans _ _ _ (takes d₁ d₂ full busy took) ?_)
  refine Prog.within_ite _ _ _ _ (fun _ => Prog.within_pure _ _) (fun _ => ?_) d₂ result d' ran
  refine Prog.within_bind (readCall_within _ c) fun cal => Prog.within_bind (deref_within _ cal.lns) fun l => ?_
  refine Prog.within_bind (readLns_within _ l) fun lns => ?_
  exact Prog.within_bind (startPppd_within admits env c _) fun _ => Prog.within_pure _ _

end Sending

theorem controlFinish_leads {env : Env} {rel large : Daemon → Daemon → Prop} [Prog.Steady rel]
    (leads : Prog.Leads rel large)
    (admits : AdmitsUpdates rel) {t : TunnelPtr} {c : CallPtr} {d d' : Daemon} {result : Int}
    (ran : controlFinish env t c d = some (result, d'))
    (starts : (d.call c).msgtype = 0 → initiate env t c d = some (result, d') → large d d')
    (sccrq : Msg.ofCode (d.call c).msgtype = some .SCCRQ → finishSCCRQ env t c d = some (result, d') → large d d')
    (sccrp : Msg.ofCode (d.call c).msgtype = some .SCCRP → finishSCCRP env t c d = some (result, d') → large d d')
    (scccn : Msg.ofCode (d.call c).msgtype = some .SCCCN → finishSCCCN env t c d = some (result, d') → large d d')
    (icrq : Msg.ofCode (d.call c).msgtype = some .ICRQ → finishICRQ env t d = some (result, d') → large d d')
    (icrp : Msg.ofCode (d.call c).msgtype = some .ICRP → finishICRP env t c d = some (result, d') → large d d')
    (iccn : Msg.ofCode (d.call c).msgtype = some .ICCN → finishICCN env t c d = some (result, d') → large d d') : large
    d d' := by
  unfold controlFinish at ran
  obtain ⟨cal, d₁, read, ran⟩ := (Prog.bind_some _ _ _ _ _).mp ran
  obtain ⟨_, rfl, rfl⟩ := (readCall_some _ _ _ _).mp read
  have idle : Prog.Within rel (pure (0 : Int)) := Prog.within_pure _ _
  have unimplemented : Prog.Within rel (do
      setError c vendorError (text "Unimplemented message " ++ decimal (d₁.call c).msgtype ++ text "\n")
      return 0 : Act Int) :=
    Prog.within_bind (setError_within admits.stores c _ _) fun _ => Prog.within_pure _ _
  split at ran
  next =>
    obtain ⟨_, rfl⟩ := (Prog.pure_some _ _ _ _).mp ran
    exact leads.implies _ _ (Prog.Steady.refl _)
  next =>
    split at ran
    next zero => exact starts zero ran
    next =>
      cases known : Msg.ofCode (d₁.call c).msgtype with
      | none =>
          rw [known] at ran
          exact leads.implies _ _ (unimplemented d₁ result d' ran)
      | some m =>
          rw [known] at ran
          cases m with
          | SCCRQ => exact sccrq known ran
          | SCCRP => exact sccrp known ran
          | SCCCN => exact scccn known ran
          | StopCCN => exact leads.implies _ _ (finishStopCCN_within admits t c d₁ result d' ran)
          | ICRQ => exact icrq known ran
          | ICRP => exact icrp known ran
          | ICCN => exact iccn known ran
          | OCRP => exact leads.implies _ _ (idle d₁ result d' ran)
          | OCCN => exact leads.implies _ _ (finishOCCN_within admits env t c d₁ result d' ran)
          | CDN => exact leads.implies _ _ (finishCDN_within admits t c d₁ result d' ran)
          | Hello => exact leads.implies _ _ (idle d₁ result d' ran)
          | SLI => exact leads.implies _ _ (idle d₁ result d' ran)
          | OCRQ => exact leads.implies _ _ (unimplemented d₁ result d' ran)
          | WEN => exact leads.implies _ _ (unimplemented d₁ result d' ran)

-- What else changes no tie.
section TakingIn

theorem assignAddr_tied (t : TunnelPtr) (p : CallPtr) : Prog.Within Tied (assignAddr t p) := by
  have assigns (addr : Nat) : Prog.Within Tied (setCall p fun cal => { cal with addr := addr }) :=
    setCall_tied p _ fun _ => ⟨rfl, id⟩
  unfold assignAddr
  refine Prog.within_bind (readTunnel_within _ t) fun tun => Prog.within_bind (deref_within _ tun.lns) fun l => ?_
  refine Prog.within_bind (readLns_within _ l) fun lns => Prog.within_ite _ _ _ _ (fun _ => ?_) fun _ => ?_
  · exact Prog.within_bind (assigns 0) fun _ => Prog.within_pure _ _
  · refine Prog.within_bind (Prog.within_get _) fun d => Prog.within_bind (getAddr_within _ _ _) fun addr => ?_
    refine Prog.within_bind (assigns addr) fun _ => Prog.within_ite _ _ _ _ (fun _ => Prog.within_pure _ _) fun _ => ?_
    exact Prog.within_bind (reserveAddr_tied addr) fun _ => Prog.within_pure _ _

theorem checkControl_tied (buf : RecvBuffer) (t : TunnelPtr) (c : CallPtr) : Prog.Within Tied
    (checkControl buf t c) := by
  unfold checkControl
  dsimp only
  refine Prog.within_ite _ _ _ _ (fun _ => Prog.within_pure _ _) fun _ => ?_
  refine Prog.within_ite _ _ _ _ (fun _ => Prog.within_pure _ _) fun _ =>
    Prog.within_bind (readTunnel_within _ t) fun tun => ?_
  refine Prog.within_ite _ _ _ _ (fun _ => ?_) fun _ => ?_
  · refine Prog.within_bind ?_ fun _ => Prog.within_pure _ _
    unfold outOfOrder
    refine Prog.within_bind (readTunnel_within _ t) fun tun => Prog.within_ite _ _ _ _ (fun _ => ?_) fun _ => ?_
    · exact Prog.within_onlyWhen _ _ _ fun _ => controlZlb_within tiesOnly_tied t c
    · exact Prog.within_onlyWhen _ _ _ fun _ => setCall_tied c _ fun _ => ⟨rfl, fun _ => rfl⟩
  · refine Prog.within_bind (setTunnel_tied t _ fun _ => rfl) fun _ =>
      Prog.within_bind (setCall_tied c _ fun _ => ⟨rfl, id⟩) fun _ => ?_
    exact Prog.within_bind (setTunnel_tied t _ fun _ => rfl) fun _ => Prog.within_pure _ _

theorem takeZlb_tied (t : TunnelPtr) (c : CallPtr) : Prog.Within Tied (takeZlb t c) := by
  unfold takeZlb
  refine Prog.within_bind (setTunnel_tied t _ fun _ => rfl) fun _ => Prog.within_bind (readTunnel_within _ t) fun tun =>
    ?_
  exact setCall_tied c _ fun _ => ⟨rfl, id⟩

end TakingIn

end ZyAgf.Xl2tpd
