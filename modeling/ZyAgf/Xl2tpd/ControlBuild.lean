import ZyAgf.Xl2tpd.ControlMessage

set_option autoImplicit false

namespace ZyAgf.Xl2tpd

-- What a tunnel and a call have to say. A tunnel that hides AVPs puts its
-- Random Vector first.
def vectorItems (tun : Tunnel) : List Item := if tun.hbit then tun.chalThem.vector.toList.map .randvect else []

def nameIn (env : Env) (s : Daemon) (tun : Tunnel) : CString :=
  orElse ((tun.lac.map fun l => (s.lac l).hostname).getD [])
    (orElse ((tun.lns.map fun l => (s.lns l).hostname).getD []) env.hostname)

def introItems (env : Env) (s : Daemon) (tun : Tunnel) : List Item :=
  vectorItems tun ++ [.protocol, .frameCaps tun.ourfc, .bearerCaps tun.ourbc, .firmware, .hostname (nameIn env s tun),
    .vendor,
    .tunnelid tun.ourtid] ++ if 0 ≤ tun.ourrws then [.rws tun.ourrws] else []

def askItems (asks : Bool) (tun : Tunnel) : List Item := if asks then [.challenge tun.chalThem.challenge] else []

def answerItems (tun : Tunnel) : List Item := if tun.chalUs.challenged then [.chalresp tun.chalUs.response] else []

def resultItem (cal : Call) : Item := .resultCode cal.result cal.error cal.errormsg

-- The messages of control_finish and call_close behind their type, as the
-- sender's records have it when they are sent. Only an SCCRQ or an SCCRP may ask
-- for proof.
def spoken (env : Env) (s : Daemon) (t : TunnelPtr) (c : CallPtr) (asks : Bool) : Msg → List Item
  | .SCCRQ => introItems env s (s.tunnel t) ++ askItems asks (s.tunnel t)
  | .SCCRP => introItems env s (s.tunnel t) ++ answerItems (s.tunnel t) ++ askItems asks (s.tunnel t)
  | .SCCCN => vectorItems (s.tunnel t) ++ answerItems (s.tunnel t)
  | .StopCCN => vectorItems (s.tunnel t) ++ [.tunnelid (s.tunnel t).ourtid, resultItem (s.call c)]
  | .ICRQ => vectorItems (s.tunnel t) ++ [.callid (s.call c).ourcid, .serno (s.call c).serno, .bearer 0]
  | .ICRP => vectorItems (s.tunnel t) ++ [.callid (s.call c).ourcid]
  | .ICCN =>
      vectorItems (s.tunnel t) ++ [.txspeed (s.tunnel t).txspeed, .frame (s.call c).frame,
        .rxspeed (s.tunnel t).rxspeed]
  | .CDN => vectorItems (s.tunnel t) ++ [resultItem (s.call c), .callid (s.call c).ourcid]
  | _ => []

def sccrqBody (env : Env) (t : TunnelPtr) : Act (Option (List UInt8 × Bool)) := do
  inheritTunnel t
  setTunnel t fun tun => { tun with state := some .SCCRQ }
  let intro ← introduction env t .SCCRQ
  let tun ← readTunnel t
  let wanted ← wantsChallenge tun
  if wanted then do
    let made ← makeChallenge env t
    if ¬ made then return none
    else do
      setTunnel t fun tun => { tun with chalThem := { tun.chalThem with challenged := true } }
      let tun ← readTunnel t
      return some (intro ++ addChallengeAvp tun.chalThem.challenge, true)
  else return some (intro, false)

-- Here and below: what the daemon sends is the body, put together in this state.
theorem startTunnel_eq (env : Env) (t : TunnelPtr) (c : CallPtr) : startTunnel env t c = (do
    match ← sccrqBody env t with
    | none => return einval
    | some (body, _) => do
        sendControl env t c body
        return 0) := by
  unfold startTunnel sccrqBody
  simp only [bind_assoc]
  refine bind_congr fun _ => bind_congr fun _ => bind_congr fun intro' => bind_congr fun tun => bind_congr fun wanted =>
    ?_
  cases wanted with
  | false => simp
  | true =>
      simp only [if_true, bind_assoc]
      refine bind_congr fun made => ?_
      cases made with
      | false => simp
      | true => simp

def challengedBody (env : Env) (t : TunnelPtr) (intro : List UInt8) : Act (Except String (List UInt8)) := do
  let made ← makeChallenge env t
  if ¬ made then return .error "malloc failed"
  else do
    setTunnel t fun tun => { tun with chalThem := { tun.chalThem with ss := UInt8.ofNat Msg.SCCCN.code } }
    let failed ← handleChallenge env t .them
    if failed ≠ 0 then return .error "No secret on our side"
    else do
      let tun ← readTunnel t
      return .ok (intro ++ addChallengeAvp tun.chalThem.challenge)

def sccrpBody (env : Env) (t : TunnelPtr) (asks : Bool) : Act (Except String (List UInt8)) := do
  setTunnel t fun tun => { tun with state := some .SCCRP }
  let intro ← introduction env t .SCCRP
  let answer ← answerTheirs env t .SCCRP
  if asks then challengedBody env t (intro ++ answer.1) else return .ok (intro ++ answer.1)

def sendOrRefuse (env : Env) (t : TunnelPtr) (c : CallPtr) : Except String (List UInt8) → Act Int
  | .error message => refuse c message
  | .ok body => do
      sendControl env t c body
      return 0

theorem challengePeer_eq (env : Env) (t : TunnelPtr) (c : CallPtr) (intro : List UInt8) :
    challengePeer env t c intro = challengedBody env t intro >>= sendOrRefuse env t c := by
  unfold challengePeer challengedBody
  simp only [bind_assoc]
  refine bind_congr fun made => ?_
  cases made with
  | false => simp [sendOrRefuse]
  | true =>
      simp only [not_true_eq_false, if_false, bind_assoc]
      refine bind_congr fun _ => bind_congr fun failed => ?_
      by_cases missing : failed ≠ 0
      · rw [if_pos missing, if_pos missing, pure_bind]
        rfl
      · rw [if_neg missing, if_neg missing, bind_assoc]
        refine bind_congr fun tun => ?_
        rw [pure_bind]
        rfl

theorem replySCCRQ_eq (env : Env) (t : TunnelPtr) (c : CallPtr) (lns : Lns) :
    replySCCRQ env t c lns = sccrpBody env t lns.challenge >>= sendOrRefuse env t c := by
  unfold replySCCRQ sccrpBody
  simp only [bind_assoc]
  refine bind_congr fun _ => bind_congr fun intro' => bind_congr fun answer => ?_
  cases lns.challenge with
  | true => exact challengePeer_eq env t c _
  | false =>
      rw [if_neg Bool.false_ne_true, if_neg Bool.false_ne_true, pure_bind]
      rfl

def scccnBody (env : Env) (t : TunnelPtr) : Act (Option (List UInt8)) := do
  let answer ← answerTheirs env t .SCCCN
  if answer.2 ≠ 0 then return none
  else do
    setTunnel t fun tun => { tun with state := some .SCCCN }
    let vector ← addRandvect env t
    return some (addMessageTypeAvp .SCCCN ++ vector ++ answer.1)

def goOnline (env : Env) (t : TunnelPtr) : Act Int := do
  connectPppol2tp env t
  startHello env t
  let tun ← readTunnel t
  dialLac env tun.lac
  return 0

def sendOrRefuseJoin (env : Env) (t : TunnelPtr) (c : CallPtr) : Option (List UInt8) → Act Int
  | none => refuse c "No secret key on our end"
  | some body => do
      sendControl env t c body
      goOnline env t

theorem finishSCCRP_eq (env : Env) (t : TunnelPtr) (c : CallPtr) : finishSCCRP env t c = (do
    let tun ← readTunnel t
    if tun.fc < 0 then refuse c "Specify framing capability"
    else if tun.hostname = [] ∧ (tun.chalThem.challenged ∨ tun.chalUs.challenged) then refuse c "Specify your hostname"
    else if tun.tid ≤ 0 then refuse c "Specify your assigned tunnel ID"
    else do
      let unproven ← checkSCCRP env t c
      if unproven ≠ 0 then return unproven else scccnBody env t >>= sendOrRefuseJoin env t c) := by
  unfold finishSCCRP scccnBody joinTunnel
  simp only [bind_assoc]
  refine bind_congr fun tun => ?_
  split
  · rfl
  · split
    · rfl
    · split
      · rfl
      · refine bind_congr fun unproven => ?_
        split
        · rfl
        · refine bind_congr fun answer => ?_
          by_cases missing : answer.2 ≠ 0
          · rw [if_pos missing, if_pos missing, pure_bind]
            rfl
          · rw [if_neg missing, if_neg missing]
            simp only [bind_assoc, pure_bind]
            rfl

def icrqBody (env : Env) (t : TunnelPtr) (c : CallPtr) : Act (List UInt8) := do
  setCall c fun cal => { cal with state := some .ICRQ }
  inheritCall c true
  let vector ← addRandvect env t
  let cal ← readCall c
  let serno ← takeSerno c
  return addMessageTypeAvp .ICRQ ++ vector ++ addCallidAvp cal.ourcid ++ addSernoAvp serno ++ addBearerAvp 0

theorem startIncoming_eq (env : Env) (t : TunnelPtr) (c : CallPtr) : startIncoming env t c = (do
    let body ← icrqBody env t c
    sendControl env t c body
    return 0) := by
  unfold startIncoming icrqBody
  simp only [bind_assoc, pure_bind]

def icrpBody (env : Env) (t : TunnelPtr) (p : CallPtr) (ourcid : Nat) : Act (List UInt8) := do
  setCall p fun cal => { cal with state := some .ICRP }
  let vector ← addRandvect env t
  return addMessageTypeAvp .ICRP ++ vector ++ addCallidAvp ourcid

def iccnBody (env : Env) (t : TunnelPtr) (c : CallPtr) (tun : Tunnel) : Act (List UInt8) := do
  setCall c fun cal => { cal with state := some .ICCN, frame := peerFraming tun }
  let vector ← addRandvect env t
  return addMessageTypeAvp .ICCN ++ vector ++ addTxspeedAvp tun.txspeed ++ addFrameAvp
    (peerFraming tun) ++ addRxspeedAvp tun.rxspeed

theorem finishICRP_eq (env : Env) (t : TunnelPtr) (c : CallPtr) : finishICRP env t c = (do
    let cal ← readCall c
    if cal.cid < 0 then do
      setCall c fun cal => { cal with needclose := true }
      return einval
    else do
      let tun ← readTunnel t
      let body ← iccnBody env t c tun
      sendControl env t c body
      let l ← deref cal.lac
      let lac ← readLac l
      match ← passPassword env l lac with
      | none => return einval
      | some password => do
          let _ ← startPppd env c
            ([text "passive", text "nodetach"] ++ lac.sessionOptions ++ password ++ lac.ppp.fileOptions tun.peer.addr)
          setLac l fun lac => { lac with rtries := 0 }
          return 0) := by
  unfold finishICRP
  refine bind_congr fun cal => ?_
  by_cases negative : cal.cid < 0
  · rw [if_pos negative, if_pos negative]
  · rw [if_neg negative, if_neg negative]
    refine bind_congr fun tun => Eq.trans ?_ (bind_assoc _ _ _).symm
    refine bind_congr fun _ => Eq.trans ?_ (bind_assoc _ _ _).symm
    refine bind_congr fun vector => Eq.trans ?_ (pure_bind _ _).symm
    rfl

theorem finishICRQ_eq (env : Env) (t : TunnelPtr) : finishICRQ env t = (do
    let tun ← readTunnel t
    let p ← deref tun.calls.head?
    let cal ← readCall p
    match cal.lns with
    | none => do
        setError p errorInvalid (text "This tunnel cannot accept calls\n")
        closeRefused env p
    | some l => do
        let lns ← readLns l
        setCall p fun cal => { cal with lbit := lns.lbit }
        if cal.cid < 0 then closeRefused env p
        else do
          let twice ← hasCid cal.cid tun.calls.tail
          if twice then do
            setCall p fun cal => { cal with needclose := false, closing := true }
            return 0
          else do
            let assigned ← assignAddr t p
            if ¬ assigned then do
              setError p errorNores (text "No available IP address")
              closeRefused env p
            else do
              let body ← icrpBody env t p cal.ourcid
              sendControl env t p body
              return 0) := by
  unfold finishICRQ
  refine bind_congr fun tun => bind_congr fun p => bind_congr fun cal => ?_
  cases cal.lns with
  | none => rfl
  | some l =>
      refine bind_congr fun lns => bind_congr fun _ => ?_
      by_cases negative : cal.cid < 0
      · rw [if_pos negative, if_pos negative]
      · rw [if_neg negative, if_neg negative]
        refine bind_congr fun twice => ?_
        cases twice with
        | true => rfl
        | false =>
            refine bind_congr fun assigned => ?_
            cases assigned with
            | false => rfl
            | true =>
                refine Eq.trans ?_ (bind_assoc _ _ _).symm
                refine bind_congr fun _ => Eq.trans ?_ (bind_assoc _ _ _).symm
                refine bind_congr fun vector => Eq.trans ?_ (pure_bind _ _).symm
                rfl

-- The message m is put together from one state on, and complete in another one.
inductive Builds (env : Env) (t : TunnelPtr) (c : CallPtr) (before s : Daemon) (body : List UInt8) : Msg → Bool →
    Prop where
  | sccrq (asks : Bool) (ran : sccrqBody env t before = some (some (body, asks), s)) : Builds env t c before s body
    .SCCRQ asks
  | sccrp (asks : Bool) (ran : sccrpBody env t asks before = some (.ok body, s)) : Builds env t c before s body .SCCRP
    asks
  | scccn (ran : scccnBody env t before = some (some body, s)) : Builds env t c before s body .SCCCN false
  | stopCCN (ran : stopCCNBody env t c before = some (body, s)) : Builds env t c before s body .StopCCN false
  | icrq (ran : icrqBody env t c before = some (body, s)) : Builds env t c before s body .ICRQ false
  | icrp (ran : icrpBody env t c (before.call c).ourcid before = some (body, s)) : Builds env t c before s body .ICRP
    false
  | iccn (ran : iccnBody env t c (before.tunnel t) before = some (body, s)) : Builds env t c before s body .ICCN false
  | cdn (ran : cdnBody env t c before = some (body, s)) : Builds env t c before s body .CDN false

-- What the rest of a message leaves as it was when its first part was made.
def Tunnel.profile (tun : Tunnel) : Bool × Option (List UInt8) × Int × Int × Nat × Int × Option LacPtr × Option
    LnsPtr :=
  (tun.hbit, tun.chalThem.vector, tun.ourfc, tun.ourbc, tun.ourtid, tun.ourrws, tun.lac, tun.lns)

structure Keeps {α : Type} (part : Tunnel → α) (t : TunnelPtr) (d d' : Daemon) : Prop where
  lac : d'.lac = d.lac
  lns : d'.lns = d.lns
  call : d'.call = d.call
  part : part (d'.tunnel t) = part (d.tunnel t)

instance {α : Type} (part : Tunnel → α) (t : TunnelPtr) : Prog.Steady (Keeps part t) where
  refl _ := ⟨rfl, rfl, rfl, rfl⟩
  trans _ _ _ first second :=
    ⟨second.lac.trans first.lac, second.lns.trans first.lns, second.call.trans first.call, second.part.trans first.part⟩

theorem introItems_kept (env : Env) (t : TunnelPtr) (s s' : Daemon) (keeps : Keeps Tunnel.profile t s s') :
    introItems env s' (s'.tunnel t) = introItems env s (s.tunnel t) := by
  have same := keeps.part
  simp only [Tunnel.profile, Prod.mk.injEq] at same
  obtain ⟨hbit, vector, ourfc, ourbc, ourtid, ourrws, lac, lns⟩ := same
  unfold introItems vectorItems nameIn
  rw [hbit, vector, ourfc, ourbc, ourtid, ourrws, lac, lns, keeps.lac, keeps.lns]

section Keeping

variable {α : Type} (part : Tunnel → α) (t : TunnelPtr)

theorem setTunnel_keeps (change : Tunnel → Tunnel) (same : ∀ tun, part (change tun) = part tun) :
    Prog.Within (Keeps part t) (setTunnel t change) := by
  intro d u d' ran
  obtain ⟨_, rfl⟩ := (setTunnel_some _ _ _ _ _).mp ran
  exact ⟨rfl, rfl, rfl, (congrArg part (write_here _ _ _)).trans (same _)⟩

theorem getEntropy_keeps (env : Env) (count : Nat) : Prog.Within (Keeps part t) (getEntropy env count) := by
  unfold getEntropy
  refine Prog.within_bind (Prog.within_get _) fun d => Prog.within_bind ?_ fun _ => Prog.within_pure _ _
  exact Prog.within_modify _ _ fun _ => ⟨rfl, rfl, rfl, rfl⟩

theorem challengeNames_keeps (env : Env) (tun : Tunnel) : Prog.Within (Keeps part t) (challengeNames env tun) := by
  unfold challengeNames
  split
  next l _ => exact Prog.within_bind (readLns_within _ l) fun _ => Prog.within_pure _ _
  next l _ _ => exact Prog.within_bind (readLac_within _ l) fun _ => Prog.within_pure _ _
  next => exact Prog.within_pure _ _

theorem handleChallenge_keeps (env : Env) (side : Side)
    (same : ∀ tun secret, part (tun.withChal side ((tun.chal side).answer env secret)) = part tun) :
    Prog.Within (Keeps part t) (handleChallenge env t side) := by
  unfold handleChallenge
  refine Prog.within_bind (readTunnel_within _ t) fun tun =>
    Prog.within_bind (challengeNames_keeps part t env tun) fun names => ?_
  split
  next => exact Prog.within_pure _ _
  next secret _ =>
    exact Prog.within_bind (setTunnel_keeps part t _ fun tun => same tun secret) fun _ => Prog.within_pure _ _

theorem wantsChallenge_keeps (tun : Tunnel) : Prog.Within (Keeps part t) (wantsChallenge tun) := by
  have byLac : Prog.Within (Keeps part t) (lacChallenges tun.lac) := by
    cases tun.lac with
    | none => exact Prog.within_pure _ _
    | some l => exact Prog.within_bind (readLac_within _ l) fun _ => Prog.within_pure _ _
  have byLns : Prog.Within (Keeps part t) (lnsChallenges tun.lns) := by
    cases tun.lns with
    | none => exact Prog.within_pure _ _
    | some l => exact Prog.within_bind (readLns_within _ l) fun _ => Prog.within_pure _ _
  unfold wantsChallenge
  exact Prog.within_bind byLac fun _ => Prog.within_ite _ _ _ _ (fun _ => Prog.within_pure _ _) fun _ => byLns

theorem makeChallenge_keeps (env : Env)
    (same : ∀ tun challenge, part { tun with chalThem := { tun.chalThem with challenge := challenge } } = part tun) :
    Prog.Within (Keeps part t) (makeChallenge env t) := by
  unfold makeChallenge
  refine Prog.within_ite _ _ _ _ (fun _ => ?_) fun _ => ?_
  · exact Prog.within_bind (setTunnel_keeps part t _ fun tun => same tun []) fun _ => Prog.within_pure _ _
  · refine Prog.within_bind (getEntropy_keeps part t env _) fun challenge => ?_
    exact Prog.within_bind (setTunnel_keeps part t _ fun tun => same tun challenge) fun _ => Prog.within_pure _ _

end Keeping

section Said

variable (env : Env) (t : TunnelPtr) (c : CallPtr) (d s : Daemon)

theorem wireOf_append (first second : List Item) : wireOf (first ++ second) = wireOf first ++ wireOf second :=
    List.flatMap_append ..

theorem wireOf_nil : wireOf [] = [] := rfl

theorem wireOf_cons (item : Item) (rest : List Item) : wireOf (item :: rest) = item.wire ++ wireOf rest :=
    List.flatMap_cons ..

theorem addRandvect_said (vector : List UInt8) (ran : addRandvect env t d = some (vector, s)) :
    vector = wireOf (vectorItems (s.tunnel t)) ∧ s.lac = d.lac ∧ s.lns = d.lns ∧ s.call = d.call ∧
      ∃ kept, s.tunnel t = { d.tunnel t with chalThem := { (d.tunnel t).chalThem with vector := kept } } := by
  unfold addRandvect at ran
  obtain ⟨tun, d₁, read, ran⟩ := (Prog.bind_some _ _ _ _ _).mp ran
  obtain ⟨_, rfl, rfl⟩ := (readTunnel_some _ _ _ _).mp read
  split at ran
  next hides =>
    obtain ⟨drawn, d₂, drew, ran⟩ := (Prog.bind_some _ _ _ _ _).mp ran
    have kept := getEntropy_keeps id t env vectorSize d₁ drawn d₂ drew
    obtain ⟨_, d₃, set, ran⟩ := (Prog.bind_some _ _ _ _ _).mp ran
    obtain ⟨_, moved⟩ := (setTunnel_some _ _ _ _ _).mp set
    obtain ⟨rfl, rfl⟩ := (Prog.pure_some _ _ _ _).mp ran
    have same : d₂.tunnel t = d₁.tunnel t := kept.part
    have here : d₃.tunnel t =
      { d₁.tunnel t with chalThem := { (d₁.tunnel t).chalThem with vector := some drawn } } := by
      rw [moved, same]
      exact write_here _ _ _
    refine ⟨?_, ?_, ?_, ?_, some drawn, here⟩
    · rw [here, vectorItems, if_pos hides]
      exact (List.append_nil _).symm
    · rw [moved]
      exact kept.lac
    · rw [moved]
      exact kept.lns
    · rw [moved]
      exact kept.call
  next plain =>
    obtain ⟨rfl, rfl⟩ := (Prog.pure_some _ _ _ _).mp ran
    refine ⟨?_, rfl, rfl, rfl, (d₁.tunnel t).chalThem.vector, rfl⟩
    rw [vectorItems, if_neg plain]
    rfl

theorem lacHostname_said (lac : Option LacPtr) (name : CString) (ran : lacHostname lac d = some (name, s)) :
    s = d ∧ name = (lac.map fun l => (d.lac l).hostname).getD [] := by
  cases lac with
  | none =>
      obtain ⟨rfl, rfl⟩ := (Prog.pure_some _ _ _ _).mp ran
      exact ⟨rfl, rfl⟩
  | some l =>
      obtain ⟨entry, d₁, read, ran⟩ := (Prog.bind_some _ _ _ _ _).mp ran
      obtain ⟨_, rfl, rfl⟩ := (readLac_some _ _ _ _).mp read
      obtain ⟨rfl, rfl⟩ := (Prog.pure_some _ _ _ _).mp ran
      exact ⟨rfl, rfl⟩

theorem lnsHostname_said (lns : Option LnsPtr) (name : CString) (ran : lnsHostname lns d = some (name, s)) :
    s = d ∧ name = (lns.map fun l => (d.lns l).hostname).getD [] := by
  cases lns with
  | none =>
      obtain ⟨rfl, rfl⟩ := (Prog.pure_some _ _ _ _).mp ran
      exact ⟨rfl, rfl⟩
  | some l =>
      obtain ⟨entry, d₁, read, ran⟩ := (Prog.bind_some _ _ _ _ _).mp ran
      obtain ⟨_, rfl, rfl⟩ := (readLns_some _ _ _ _).mp read
      obtain ⟨rfl, rfl⟩ := (Prog.pure_some _ _ _ _).mp ran
      exact ⟨rfl, rfl⟩

theorem reportedName_said (tun : Tunnel) (name : CString) (ran : reportedName env tun d = some (name, s)) :
    s = d ∧ name = nameIn env d tun := by
  unfold reportedName at ran
  obtain ⟨fromLac, d₁, read, ran⟩ := (Prog.bind_some _ _ _ _ _).mp ran
  obtain ⟨rfl, rfl⟩ := lacHostname_said d d₁ tun.lac fromLac read
  unfold nameIn orElse
  split at ran
  next given =>
    obtain ⟨rfl, rfl⟩ := (Prog.pure_some _ _ _ _).mp ran
    exact ⟨rfl, (if_pos given).symm⟩
  next missing =>
    obtain ⟨fromLns, d₂, read₂, ran⟩ := (Prog.bind_some _ _ _ _ _).mp ran
    obtain ⟨rfl, rfl⟩ := lnsHostname_said d₁ d₂ tun.lns fromLns read₂
    obtain ⟨rfl, rfl⟩ := (Prog.pure_some _ _ _ _).mp ran
    exact ⟨rfl, (if_neg missing).symm⟩

theorem introduction_said (type : Msg) (said : List UInt8) (ran : introduction env t type d = some (said, s)) :
    said = wireOf (.messageType type :: introItems env s (s.tunnel t)) := by
  unfold introduction at ran
  obtain ⟨vector, d₁, added, ran⟩ := (Prog.bind_some _ _ _ _ _).mp ran
  obtain ⟨rfl, _⟩ := addRandvect_said env t d d₁ vector added
  obtain ⟨tun, d₂, read, ran⟩ := (Prog.bind_some _ _ _ _ _).mp ran
  obtain ⟨_, rfl, rfl⟩ := (readTunnel_some _ _ _ _).mp read
  obtain ⟨name, d₃, named, ran⟩ := (Prog.bind_some _ _ _ _ _).mp ran
  obtain ⟨rfl, rfl⟩ := reportedName_said env d₂ d₃ _ name named
  obtain ⟨rfl, rfl⟩ := (Prog.pure_some _ _ _ _).mp ran
  have window : (if 0 ≤ (d₃.tunnel t).ourrws then addAvpRws (d₃.tunnel t).ourrws else []) =
      wireOf (if 0 ≤ (d₃.tunnel t).ourrws then [.rws (d₃.tunnel t).ourrws] else []) := by
    split
    · exact (List.append_nil _).symm
    · rfl
  rw [window, introItems, wireOf_cons, wireOf_append, wireOf_append]
  simp only [wireOf, List.flatMap_cons, List.flatMap_nil, List.append_assoc, List.append_nil]
  rfl

theorem askItems_said (tun : Tunnel) : addChallengeAvp tun.chalThem.challenge = wireOf (askItems true tun) :=
  (List.append_nil _).symm

theorem sccrq_said (body : List UInt8) (asks : Bool) (ran : sccrqBody env t d = some (some (body, asks), s)) :
    body = wireOf (.messageType .SCCRQ :: spoken env s t c asks .SCCRQ) := by
  unfold sccrqBody at ran
  obtain ⟨_, d₁, _, ran⟩ := (Prog.bind_some _ _ _ _ _).mp ran
  obtain ⟨_, d₂, _, ran⟩ := (Prog.bind_some _ _ _ _ _).mp ran
  obtain ⟨intro', d₃, introduced, ran⟩ := (Prog.bind_some _ _ _ _ _).mp ran
  obtain rfl := introduction_said env t d₂ d₃ .SCCRQ intro' introduced
  obtain ⟨tun, d₄, read, ran⟩ := (Prog.bind_some _ _ _ _ _).mp ran
  obtain ⟨_, rfl, rfl⟩ := (readTunnel_some _ _ _ _).mp read
  obtain ⟨wanted, d₅, asked, ran⟩ := (Prog.bind_some _ _ _ _ _).mp ran
  have first := wantsChallenge_keeps Tunnel.profile t _ d₄ wanted d₅ asked
  split at ran
  next =>
    obtain ⟨made, d₆, drawn, ran⟩ := (Prog.bind_some _ _ _ _ _).mp ran
    have second := makeChallenge_keeps Tunnel.profile t env (fun _ _ => rfl) d₅ made d₆ drawn
    split at ran
    next => cases ((Prog.pure_some _ _ _ _).mp ran).1
    next =>
      obtain ⟨_, d₇, set, ran⟩ := (Prog.bind_some _ _ _ _ _).mp ran
      have third : Keeps Tunnel.profile t d₆ d₇ := setTunnel_keeps Tunnel.profile t
        (fun tun => { tun with chalThem := { tun.chalThem with challenged := true } }) (fun _ => rfl) d₆ _ d₇ set
      obtain ⟨tun, d₈, read₂, ran⟩ := (Prog.bind_some _ _ _ _ _).mp ran
      obtain ⟨_, rfl, rfl⟩ := (readTunnel_some _ _ _ _).mp read₂
      obtain ⟨said, rfl⟩ := (Prog.pure_some _ _ _ _).mp ran
      obtain ⟨rfl, rfl⟩ := Prod.mk.inj (Option.some.inj said)
      have kept := introItems_kept env t d₄ d₈ (Prog.Steady.trans _ _ _ (Prog.Steady.trans _ _ _ first second) third)
      rw [spoken, kept, askItems_said, wireOf_cons, wireOf_cons, wireOf_append, List.append_assoc]
  next =>
    obtain ⟨said, rfl⟩ := (Prog.pure_some _ _ _ _).mp ran
    obtain ⟨rfl, rfl⟩ := Prod.mk.inj (Option.some.inj said)
    rw [spoken, introItems_kept env t d₄ d₅ first]
    simp [askItems]

theorem handleChallenge_us_challenged (failed : Int) (challenged : (d.tunnel t).chalUs.challenged = true)
    (ran : handleChallenge env t .us d = some (failed, s)) : (s.tunnel t).chalUs.challenged = true := by
  unfold handleChallenge at ran
  obtain ⟨tun, d₁, read, ran⟩ := (Prog.bind_some _ _ _ _ _).mp ran
  obtain ⟨_, rfl, rfl⟩ := (readTunnel_some _ _ _ _).mp read
  obtain ⟨names, d₂, named, ran⟩ := (Prog.bind_some _ _ _ _ _).mp ran
  have same : d₂.tunnel t = d₁.tunnel t := (challengeNames_keeps id t env _ d₁ names d₂ named).part
  cases found : names.bind fun n => env.secretFor n.1 n.2 with
  | none =>
      rw [found] at ran
      obtain ⟨_, rfl⟩ := (Prog.pure_some _ _ _ _).mp ran
      rw [same]
      exact challenged
  | some secret =>
      rw [found] at ran
      obtain ⟨_, d₃, set, ran⟩ := (Prog.bind_some _ _ _ _ _).mp ran
      obtain ⟨_, rfl⟩ := (setTunnel_some _ _ _ _ _).mp set
      obtain ⟨_, rfl⟩ := (Prog.pure_some _ _ _ _).mp ran
      have here : (write d₂.tunnel t ((d₂.tunnel t).withChal .us
          (((d₂.tunnel t).chal .us).answer env secret)) t).chalUs.challenged = true := by
        rw [write_here]
        rfl
      exact here

theorem answerTheirs_said (ss : Msg) (answer : List UInt8) (failed : Int)
    (ran : answerTheirs env t ss d = some ((answer, failed), s)) :
    answer = wireOf (answerItems (s.tunnel t)) ∧ Keeps Tunnel.profile t d s := by
  unfold answerTheirs at ran
  obtain ⟨tun, d₁, read, ran⟩ := (Prog.bind_some _ _ _ _ _).mp ran
  obtain ⟨_, rfl, rfl⟩ := (readTunnel_some _ _ _ _).mp read
  split at ran
  next unasked =>
    obtain ⟨said, rfl⟩ := (Prog.pure_some _ _ _ _).mp ran
    obtain ⟨rfl, rfl⟩ := Prod.mk.inj said
    exact ⟨by rw [answerItems, if_neg unasked]; rfl, Prog.Steady.refl _⟩
  next asked =>
    obtain ⟨_, d₂, set, ran⟩ := (Prog.bind_some _ _ _ _ _).mp ran
    have first : Keeps Tunnel.profile t d₁ d₂ := setTunnel_keeps Tunnel.profile t
      (fun tun => { tun with chalUs := { tun.chalUs with ss := UInt8.ofNat ss.code } }) (fun _ => rfl) d₁ _ d₂ set
    have still : (d₂.tunnel t).chalUs.challenged = true := by
      obtain ⟨_, rfl⟩ := (setTunnel_some _ _ _ _ _).mp set
      have here : (write d₁.tunnel t { d₁.tunnel t with
          chalUs := { (d₁.tunnel t).chalUs with ss := UInt8.ofNat ss.code } } t).chalUs.challenged = true := by
        rw [write_here]
        exact not_not.mp asked
      exact here
    obtain ⟨result, d₃, handled, ran⟩ := (Prog.bind_some _ _ _ _ _).mp ran
    have second := handleChallenge_keeps Tunnel.profile t env .us (fun _ _ => rfl) d₂ result d₃ handled
    have answered := handleChallenge_us_challenged env t d₂ d₃ result still handled
    obtain ⟨tun, d₄, read₂, ran⟩ := (Prog.bind_some _ _ _ _ _).mp ran
    obtain ⟨_, rfl, rfl⟩ := (readTunnel_some _ _ _ _).mp read₂
    obtain ⟨said, rfl⟩ := (Prog.pure_some _ _ _ _).mp ran
    obtain ⟨rfl, rfl⟩ := Prod.mk.inj said
    refine ⟨?_, Prog.Steady.trans _ _ _ first second⟩
    rw [answerItems, if_pos answered]
    exact (List.append_nil _).symm

def Tunnel.answering (tun : Tunnel) := (tun.profile, tun.chalUs)

theorem challengedBody_said (intro' body : List UInt8) (ran : challengedBody env t intro' d = some (.ok body, s)) :
    body = intro' ++ wireOf (askItems true (s.tunnel t)) ∧ Keeps Tunnel.answering t d s := by
  unfold challengedBody at ran
  obtain ⟨made, d₁, drawn, ran⟩ := (Prog.bind_some _ _ _ _ _).mp ran
  have first := makeChallenge_keeps Tunnel.answering t env (fun _ _ => rfl) d made d₁ drawn
  split at ran
  next => cases ((Prog.pure_some _ _ _ _).mp ran).1
  next =>
    obtain ⟨_, d₂, set, ran⟩ := (Prog.bind_some _ _ _ _ _).mp ran
    have second : Keeps Tunnel.answering t d₁ d₂ := setTunnel_keeps Tunnel.answering t
      (fun tun => { tun with chalThem := { tun.chalThem with ss := UInt8.ofNat Msg.SCCCN.code } })
        (fun _ => rfl) d₁ _ d₂ set
    obtain ⟨failed, d₃, handled, ran⟩ := (Prog.bind_some _ _ _ _ _).mp ran
    have third := handleChallenge_keeps Tunnel.answering t env .them (fun _ _ => rfl) d₂ failed d₃ handled
    split at ran
    next => cases ((Prog.pure_some _ _ _ _).mp ran).1
    next =>
      obtain ⟨tun, d₄, read, ran⟩ := (Prog.bind_some _ _ _ _ _).mp ran
      obtain ⟨_, rfl, rfl⟩ := (readTunnel_some _ _ _ _).mp read
      obtain ⟨said, rfl⟩ := (Prog.pure_some _ _ _ _).mp ran
      obtain rfl := Except.ok.inj said
      exact ⟨by rw [askItems_said], Prog.Steady.trans _ _ _ (Prog.Steady.trans _ _ _ first second) third⟩

theorem sccrp_said (body : List UInt8) (asks : Bool) (ran : sccrpBody env t asks d = some (.ok body, s)) :
    body = wireOf (.messageType .SCCRP :: spoken env s t c asks .SCCRP) := by
  unfold sccrpBody at ran
  obtain ⟨_, d₁, _, ran⟩ := (Prog.bind_some _ _ _ _ _).mp ran
  obtain ⟨intro', d₂, introduced, ran⟩ := (Prog.bind_some _ _ _ _ _).mp ran
  obtain rfl := introduction_said env t d₁ d₂ .SCCRP intro' introduced
  obtain ⟨⟨answer, failed⟩, d₃, answered, ran⟩ := (Prog.bind_some _ _ _ _ _).mp ran
  obtain ⟨rfl, kept⟩ := answerTheirs_said env t d₂ d₃ .SCCRP answer failed answered
  have introduced := introItems_kept env t d₂ d₃ kept
  split at ran
  next asked =>
    obtain ⟨rfl, later⟩ := challengedBody_said env t d₃ s _ body ran
    have profile : Keeps Tunnel.profile t d₃ s := ⟨later.lac, later.lns, later.call, congrArg Prod.fst later.part⟩
    have answers : (s.tunnel t).chalUs = (d₃.tunnel t).chalUs := congrArg Prod.snd later.part
    have same : answerItems (s.tunnel t) = answerItems (d₃.tunnel t) := by rw [answerItems, answerItems, answers]
    rw [spoken, asked, introItems_kept env t d₃ s profile, same, introduced]
    simp only [wireOf_cons, wireOf_append, List.append_assoc]
  next silent =>
    obtain ⟨said, rfl⟩ := (Prog.pure_some _ _ _ _).mp ran
    obtain rfl := Except.ok.inj said
    rw [spoken, introduced, askItems, if_neg silent, List.append_nil]
    simp only [wireOf_cons, wireOf_append, List.append_assoc]

theorem scccn_said (body : List UInt8) (ran : scccnBody env t d = some (some body, s)) :
    body = wireOf (.messageType .SCCCN :: spoken env s t c false .SCCCN) := by
  unfold scccnBody at ran
  obtain ⟨⟨answer, failed⟩, d₁, answered, ran⟩ := (Prog.bind_some _ _ _ _ _).mp ran
  obtain ⟨rfl, _⟩ := answerTheirs_said env t d d₁ .SCCCN answer failed answered
  split at ran
  next => cases ((Prog.pure_some _ _ _ _).mp ran).1
  next =>
    obtain ⟨_, d₂, set, ran⟩ := (Prog.bind_some _ _ _ _ _).mp ran
    have first : Keeps Tunnel.chalUs t d₁ d₂ :=
      setTunnel_keeps Tunnel.chalUs t (fun tun => { tun with state := some .SCCCN }) (fun _ => rfl) d₁ _ d₂ set
    obtain ⟨vector, d₃, added, ran⟩ := (Prog.bind_some _ _ _ _ _).mp ran
    obtain ⟨rfl, _, _, _, kept, here⟩ := addRandvect_said env t d₂ d₃ vector added
    obtain ⟨said, rfl⟩ := (Prog.pure_some _ _ _ _).mp ran
    obtain rfl := Option.some.inj said
    have answers : (d₃.tunnel t).chalUs = (d₁.tunnel t).chalUs := by
      rw [here]
      exact first.part
    have same : answerItems (d₃.tunnel t) = answerItems (d₁.tunnel t) := by rw [answerItems, answerItems, answers]
    rw [spoken, same, wireOf_cons, wireOf_append]
    simp only [List.append_assoc]
    rfl

theorem closingResult_said (result : List UInt8) (ran : closingResult c d = some (result, s)) :
    result = (resultItem (s.call c)).wire ∧ s.tunnel = d.tunnel ∧ (s.call c).ourcid = (d.call c).ourcid := by
  unfold closingResult at ran
  obtain ⟨_, d₁, set, ran⟩ := (Prog.bind_some _ _ _ _ _).mp ran
  obtain ⟨_, moved⟩ := (setCall_some _ _ _ _ _).mp set
  obtain ⟨cal, d₂, read, ran⟩ := (Prog.bind_some _ _ _ _ _).mp ran
  obtain ⟨_, rfl, rfl⟩ := (readCall_some _ _ _ _).mp read
  obtain ⟨rfl, rfl⟩ := (Prog.pure_some _ _ _ _).mp ran
  refine ⟨rfl, by rw [moved], ?_⟩
  have here : (write d.call c { d.call c with
      result := if (d.call c).result < 0 then resultClear else (d.call c).result, error :=
        max (d.call c).error 0 } c).ourcid =
      (d.call c).ourcid := by rw [write_here]
  rw [moved]
  exact here

theorem stopCCN_said (body : List UInt8) (ran : stopCCNBody env t c d = some (body, s)) :
    body = wireOf (.messageType .StopCCN :: spoken env s t c false .StopCCN) := by
  unfold stopCCNBody at ran
  obtain ⟨vector, d₁, added, ran⟩ := (Prog.bind_some _ _ _ _ _).mp ran
  obtain ⟨rfl, _⟩ := addRandvect_said env t d d₁ vector added
  obtain ⟨tun, d₂, read, ran⟩ := (Prog.bind_some _ _ _ _ _).mp ran
  obtain ⟨_, rfl, rfl⟩ := (readTunnel_some _ _ _ _).mp read
  obtain ⟨result, d₃, closing, ran⟩ := (Prog.bind_some _ _ _ _ _).mp ran
  obtain ⟨rfl, tunnel, _⟩ := closingResult_said c d₂ d₃ result closing
  obtain ⟨rfl, rfl⟩ := (Prog.pure_some _ _ _ _).mp ran
  rw [spoken, wireOf_cons, wireOf_append, wireOf_cons, wireOf_cons, wireOf_nil, List.append_nil, tunnel]
  simp only [List.append_assoc]
  rfl

theorem cdn_said (body : List UInt8) (ran : cdnBody env t c d = some (body, s)) :
    body = wireOf (.messageType .CDN :: spoken env s t c false .CDN) := by
  unfold cdnBody at ran
  obtain ⟨vector, d₁, added, ran⟩ := (Prog.bind_some _ _ _ _ _).mp ran
  obtain ⟨rfl, _⟩ := addRandvect_said env t d d₁ vector added
  obtain ⟨result, d₂, closing, ran⟩ := (Prog.bind_some _ _ _ _ _).mp ran
  obtain ⟨rfl, tunnel, _⟩ := closingResult_said c d₁ d₂ result closing
  obtain ⟨cal, d₃, read, ran⟩ := (Prog.bind_some _ _ _ _ _).mp ran
  obtain ⟨_, rfl, rfl⟩ := (readCall_some _ _ _ _).mp read
  obtain ⟨rfl, rfl⟩ := (Prog.pure_some _ _ _ _).mp ran
  rw [spoken, wireOf_cons, wireOf_append, wireOf_cons, wireOf_cons, wireOf_nil, List.append_nil, tunnel]
  simp only [List.append_assoc]
  rfl

theorem takeSerno_said (serno : Nat) (ran : takeSerno c d = some (serno, s)) :
    s.tunnel = d.tunnel ∧ (s.call c).ourcid = (d.call c).ourcid ∧ (s.call c).serno = serno := by
  unfold takeSerno at ran
  obtain ⟨_, _, got, ran⟩ := (Prog.bind_some _ _ _ _ _).mp ran
  obtain ⟨rfl, rfl⟩ := (Prog.get_some _ _ _).mp got
  obtain ⟨_, d₁, set, ran⟩ := (Prog.bind_some _ _ _ _ _).mp ran
  obtain ⟨_, moved⟩ := (setCall_some _ _ _ _ _).mp set
  obtain ⟨_, d₂, counted, ran⟩ := (Prog.bind_some _ _ _ _ _).mp ran
  obtain rfl := (Prog.modify_some _ _ _ _).mp counted
  obtain ⟨rfl, rfl⟩ := (Prog.pure_some _ _ _ _).mp ran
  have here : d₁.call c = { d.call c with serno := d.globalSerno } := by
    rw [moved]
    exact write_here _ _ _
  refine ⟨by rw [moved], ?_, ?_⟩
  · show (d₁.call c).ourcid = _
    rw [here]
  · show (d₁.call c).serno = _
    rw [here]

theorem icrq_said (body : List UInt8) (ran : icrqBody env t c d = some (body, s)) :
    body = wireOf (.messageType .ICRQ :: spoken env s t c false .ICRQ) := by
  unfold icrqBody at ran
  obtain ⟨_, d₁, _, ran⟩ := (Prog.bind_some _ _ _ _ _).mp ran
  obtain ⟨_, d₂, _, ran⟩ := (Prog.bind_some _ _ _ _ _).mp ran
  obtain ⟨vector, d₃, added, ran⟩ := (Prog.bind_some _ _ _ _ _).mp ran
  obtain ⟨rfl, _⟩ := addRandvect_said env t d₂ d₃ vector added
  obtain ⟨cal, d₄, read, ran⟩ := (Prog.bind_some _ _ _ _ _).mp ran
  obtain ⟨_, rfl, rfl⟩ := (readCall_some _ _ _ _).mp read
  obtain ⟨serno, d₅, taken, ran⟩ := (Prog.bind_some _ _ _ _ _).mp ran
  obtain ⟨rfl, rfl⟩ := (Prog.pure_some _ _ _ _).mp ran
  obtain ⟨tunnel, ourcid, given⟩ := takeSerno_said c d₄ d₅ serno taken
  rw [spoken, tunnel, ourcid, given, wireOf_cons, wireOf_append]
  simp only [wireOf_cons, wireOf_nil, List.append_assoc, List.append_nil]
  rfl

theorem icrp_said (body : List UInt8) (ran : icrpBody env t c (d.call c).ourcid d = some (body, s)) :
    body = wireOf (.messageType .ICRP :: spoken env s t c false .ICRP) := by
  unfold icrpBody at ran
  obtain ⟨_, d₁, set, ran⟩ := (Prog.bind_some _ _ _ _ _).mp ran
  obtain ⟨_, moved⟩ := (setCall_some _ _ _ _ _).mp set
  have here : d₁.call c = { d.call c with state := some .ICRP } := by
    rw [moved]
    exact write_here _ _ _
  obtain ⟨vector, d₂, added, ran⟩ := (Prog.bind_some _ _ _ _ _).mp ran
  obtain ⟨rfl, _, _, call, _⟩ := addRandvect_said env t d₁ d₂ vector added
  obtain ⟨rfl, rfl⟩ := (Prog.pure_some _ _ _ _).mp ran
  rw [spoken, call, here, wireOf_cons, wireOf_append]
  simp only [wireOf_cons, wireOf_nil, List.append_assoc, List.append_nil]
  rfl

theorem iccn_said (body : List UInt8) (ran : iccnBody env t c (d.tunnel t) d = some (body, s)) :
    body = wireOf (.messageType .ICCN :: spoken env s t c false .ICCN) := by
  unfold iccnBody at ran
  obtain ⟨_, d₁, set, ran⟩ := (Prog.bind_some _ _ _ _ _).mp ran
  obtain ⟨_, moved⟩ := (setCall_some _ _ _ _ _).mp set
  have here : d₁.call c = { d.call c with state := some .ICCN, frame := peerFraming (d.tunnel t) } := by
    rw [moved]
    exact write_here _ _ _
  have tunnel : d₁.tunnel = d.tunnel := by rw [moved]
  obtain ⟨vector, d₂, added, ran⟩ := (Prog.bind_some _ _ _ _ _).mp ran
  obtain ⟨rfl, _, _, call, kept, vectored⟩ := addRandvect_said env t d₁ d₂ vector added
  obtain ⟨rfl, rfl⟩ := (Prog.pure_some _ _ _ _).mp ran
  have tx : (d₂.tunnel t).txspeed = (d.tunnel t).txspeed := by rw [vectored, tunnel]
  have rx : (d₂.tunnel t).rxspeed = (d.tunnel t).rxspeed := by rw [vectored, tunnel]
  rw [spoken, call, here, tx, rx, wireOf_cons, wireOf_append]
  simp only [wireOf_cons, wireOf_nil, List.append_assoc, List.append_nil]
  rfl

theorem builds_said (body : List UInt8) (m : Msg) (asks : Bool) (builds : Builds env t c d s body m asks) :
    body = wireOf (.messageType m :: spoken env s t c asks m) := by
  cases builds with
  | sccrq asks ran => exact sccrq_said env t c d s body asks ran
  | sccrp asks ran => exact sccrp_said env t c d s body asks ran
  | scccn ran => exact scccn_said env t c d s body ran
  | stopCCN ran => exact stopCCN_said env t c d s body ran
  | icrq ran => exact icrq_said env t c d s body ran
  | icrp ran => exact icrp_said env t c d s body ran
  | iccn ran => exact iccn_said env t c d s body ran
  | cdn ran => exact cdn_said env t c d s body ran

end Said

end ZyAgf.Xl2tpd
