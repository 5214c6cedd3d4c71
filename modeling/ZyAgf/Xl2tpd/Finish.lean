import ZyAgf.Xl2tpd.Avp

set_option autoImplicit false

namespace ZyAgf.Xl2tpd

def lacHostname : Option LacPtr → Act CString
  | none => return []
  | some l => do
      let lac ← readLac l
      return lac.hostname

def lnsHostname : Option LnsPtr → Act CString
  | none => return []
  | some l => do
      let lns ← readLns l
      return lns.hostname

-- The name we report: the LAC entry's, then the LNS entry's, then the host's.
def reportedName (env : Env) (tun : Tunnel) : Act CString := do
  let fromLac ← lacHostname tun.lac
  if fromLac ≠ [] then return fromLac
  else do
    let fromLns ← lnsHostname tun.lns
    return orElse fromLns env.hostname

def introduction (env : Env) (t : TunnelPtr) (type : Msg) : Act (List UInt8) := do
  let vector ← addRandvect env t
  let tun ← readTunnel t
  let name ← reportedName env tun
  return addMessageTypeAvp type ++ vector ++ addProtocolAvp ++ addFrameCapsAvp tun.ourfc ++ addBearerCapsAvp
    tun.ourbc ++
    addFirmwareAvp ++ addHostnameAvp name ++ addVendorAvp ++ addTunnelidAvp tun.ourtid ++
    if 0 ≤ tun.ourrws then addAvpRws tun.ourrws else []

def refuse (c : CallPtr) (message : String) : Act Int := do
  setError c vendorError (text message)
  return einval

def lacChallenges : Option LacPtr → Act Bool
  | none => return false
  | some l => do
      let lac ← readLac l
      return lac.challenge

def lnsChallenges : Option LnsPtr → Act Bool
  | none => return false
  | some l => do
      let lns ← readLns l
      return lns.challenge

def wantsChallenge (tun : Tunnel) : Act Bool := do
  let byLac ← lacChallenges tun.lac
  if byLac then return true else lnsChallenges tun.lns

-- malloc and mk_challenge; the answer is not known yet.
def makeChallenge (env : Env) (t : TunnelPtr) : Act Bool :=
  if ¬ env.challengeMemory then do
    setTunnel t fun tun => { tun with chalThem := { tun.chalThem with challenge := [] } }
    return false
  else do
    let challenge ← getEntropy env mdSigSize
    setTunnel t fun tun => { tun with chalThem := { tun.chalThem with challenge := challenge } }
    return true

def inheritTunnel (t : TunnelPtr) : Act PUnit := do
  let tun ← readTunnel t
  match tun.lns, tun.lac with
  | some l, _ => do
      let lns ← readLns l
      setTunnel t fun tun =>
        { tun with ourrws := lns.tunRws, hbit := lns.hbit, rxspeed := lns.rxspeed, txspeed := lns.txspeed }
  | none, some l => do
      let lac ← readLac l
      setTunnel t fun tun =>
        { tun with ourrws := lac.tunRws, hbit := lac.hbit, rxspeed := lac.rxspeed, txspeed := lac.txspeed }
  | none, none => return ()

def startTunnel (env : Env) (t : TunnelPtr) (c : CallPtr) : Act Int := do
  inheritTunnel t
  setTunnel t fun tun => { tun with state := some .SCCRQ }
  let intro ← introduction env t .SCCRQ
  let tun ← readTunnel t
  let wanted ← wantsChallenge tun
  if wanted then do
    let made ← makeChallenge env t
    if ¬ made then return einval
    else do
      setTunnel t fun tun => { tun with chalThem := { tun.chalThem with challenged := true } }
      let tun ← readTunnel t
      sendControl env t c (intro ++ addChallengeAvp tun.chalThem.challenge)
      return 0
  else do
    sendControl env t c intro
    return 0

def inheritCall (c : CallPtr) (fromLac : Bool) : Act PUnit := do
  let cal ← readCall c
  match cal.lns, cal.lac with
  | some l, _ => do
      let lns ← readLns l
      setCall c fun cal => { cal with lbit := lns.lbit }
  | none, some l => do
      let lac ← readLac l
      setCall c fun cal => { cal with lbit := if fromLac then lac.lbit else cal.lbit }
  | none, none => return ()

def takeSerno (c : CallPtr) : Act Nat := do
  let d ← get
  setCall c fun cal => { cal with serno := d.globalSerno }
  modify fun d => { d with globalSerno := d.globalSerno + 1 }
  return d.globalSerno

def peerFraming (tun : Tunnel) : Int := if (BitVec.ofInt 32 tun.fc).getLsbD 0 then syncFraming else asyncFraming

def startIncoming (env : Env) (t : TunnelPtr) (c : CallPtr) : Act Int := do
  setCall c fun cal => { cal with state := some .ICRQ }
  inheritCall c true
  let vector ← addRandvect env t
  let cal ← readCall c
  let serno ← takeSerno c
  sendControl env t c
    (addMessageTypeAvp .ICRQ ++ vector ++ addCallidAvp cal.ourcid ++ addSernoAvp serno ++ addBearerAvp 0)
  return 0

def startOutgoing (env : Env) (t : TunnelPtr) (c : CallPtr) : Act Int := do
  setCall c fun cal => { cal with state := some .OCRQ }
  inheritCall c false
  let tun ← readTunnel t
  setCall c fun cal => { cal with frame := peerFraming tun }
  let cal ← readCall c
  let serno ← takeSerno c
  sendControl env t c
    (addMessageTypeAvp .OCRQ ++ addCallidAvp cal.ourcid ++ addSernoAvp serno ++ addMinbpsAvp 10000 ++
      addMaxbpsAvp 10000000 ++ addBearerAvp 0 ++ addFrameAvp (peerFraming tun) ++ addNumberAvp cal.dialNo)
  return 0

-- Message type 0: nothing was received, we start the tunnel or the call.
def initiate (env : Env) (t : TunnelPtr) (c : CallPtr) : Act Int := do
  let tun ← readTunnel t
  let d ← get
  if tun.self = some c then startTunnel env t c
  else if d.switchIo then startIncoming env t c
  else startOutgoing env t c

-- get_call for tunnel 0 and call 0.
def addTunnel (env : Env) (peer : SockAddr) (refhim : Nat) : Act (Option CallPtr) := do
  match ← newTunnel env with
  | none => return none
  | some t => do
      setTunnel t fun tun => { tun with peer := peer, refhim := refhim, udpFd := -1, pppoxFd := -1 }
      modify fun d => { d with tunnels := t :: d.tunnels }
      let tun ← readTunnel t
      return tun.self

def bindLac (t : TunnelPtr) : Option LacPtr → Act PUnit
  | none => return ()
  | some l => setLac l fun lac => { lac with t := some t }

-- A new self call has message type 0, so control_finish initiates.
def l2tpCall (env : Env) (host : CString) (port : U16) (lac : Option LacPtr) : Act (Option TunnelPtr) :=
  match env.resolve host with
  | none => do
      let l ← deref lac
      redialLater env l
      return none
  | some addr => do
      match ← addTunnel env ⟨addr, port⟩ 0 with
      | none => return none
      | some self => do
          let cal ← readCall self
          let t := cal.container
          setTunnel t fun tun => { tun with tid := 0, lac := lac, lns := none }
          setCall self fun cal => { cal with lac := lac, lns := none }
          bindLac t lac
          let _ ← initiate env t self
          return some t

def magicLacTunnel (env : Env) (l : LacPtr) : Act PUnit := do
  let lac ← readLac l
  let d ← get
  match lac.lns.head? with
  | some host => do
      let _ ← l2tpCall env host.hostname host.port (some l)
      return ()
  | none =>
      match d.deflac with
      | none => return ()
      | some fallback => do
          let def' ← readLac fallback
          match def'.lns.head? with
          | none => return ()
          | some host => do
              let _ ← l2tpCall env host.hostname host.port (some l)
              return ()

def bindCall (c : CallPtr) : Option LacPtr → Act PUnit
  | none => return ()
  | some l => setLac l fun lac => { lac with c := some c }

def findTunnel (tid : Nat) : List TunnelPtr → Act (Option TunnelPtr)
  | [] => return none
  | t :: rest => do
      let tun ← readTunnel t
      if tun.ourtid = tid then return some t else findTunnel tid rest

-- A new call has message type 0, so control_finish initiates.
def lacCall (env : Env) (tid : Nat) (lac : Option LacPtr) : Act (Option CallPtr) := do
  let d ← get
  match ← findTunnel tid d.tunnels with
  | none => return none
  | some t => do
      match ← newCall env t with
      | none => return none
      | some tmp => do
          setTunnel t fun tun => { tun with calls := tmp :: tun.calls }
          setCall tmp fun cal => { cal with cid := 0, lac := lac, lns := none }
          bindCall tmp lac
          setCall tmp fun cal => { cal with dialNo := d.dialNoTmp }
          let _ ← initiate env t tmp
          return some tmp

def magicLacDial (env : Env) (l : LacPtr) : Act PUnit := do
  let lac ← readLac l
  if ¬ lac.active then return ()
  else do
    setLac l fun lac => { lac with rsched := false, rtries := lac.rtries + 1 }
    if lac.rmax ≠ 0 ∧ lac.rmax < lac.rtries + 1 then return ()
    else
      match lac.t with
      | none => magicLacTunnel env l
      | some t => do
          let tun ← readTunnel t
          let _ ← lacCall env tun.ourtid (some l)
          return ()

def twiceRequested (env : Env) (t : TunnelPtr) (tun : Tunnel) : List TunnelPtr → Act Bool
  | [] => return false
  | y :: rest => do
      let other ← readTunnel y
      if other.tid = tun.tid ∧ other.peer.addr = tun.peer.addr ∧ (¬ env.ipsecsaref ∨ other.refhim = tun.refhim) ∧
        y ≠ t then
        return true
      else twiceRequested env t tun rest

-- The answer to a challenge of theirs, if there was one. Without a secret the
-- answer is what the last one left.
def answerTheirs (env : Env) (t : TunnelPtr) (ss : Msg) : Act (List UInt8 × Int) := do
  let tun ← readTunnel t
  if ¬ tun.chalUs.challenged then return ([], 0)
  else do
    setTunnel t fun tun => { tun with chalUs := { tun.chalUs with ss := UInt8.ofNat ss.code } }
    let failed ← handleChallenge env t .us
    let tun ← readTunnel t
    return (addChalrespAvp tun.chalUs.response, failed)

-- Our own challenge. The tunnel is in state SCCRP already when it fails.
def challengePeer (env : Env) (t : TunnelPtr) (c : CallPtr) (intro : List UInt8) : Act Int := do
  let made ← makeChallenge env t
  if ¬ made then refuse c "malloc failed"
  else do
    setTunnel t fun tun => { tun with chalThem := { tun.chalThem with ss := UInt8.ofNat Msg.SCCCN.code } }
    let failed ← handleChallenge env t .them
    if failed ≠ 0 then refuse c "No secret on our side"
    else do
      let tun ← readTunnel t
      sendControl env t c (intro ++ addChallengeAvp tun.chalThem.challenge)
      return 0

def replySCCRQ (env : Env) (t : TunnelPtr) (c : CallPtr) (lns : Lns) : Act Int := do
  setTunnel t fun tun => { tun with state := some .SCCRP }
  let intro ← introduction env t .SCCRP
  let answer ← answerTheirs env t .SCCRP
  if lns.challenge then challengePeer env t c (intro ++ answer.1)
  else do
    sendControl env t c (intro ++ answer.1)
    return 0

def finishSCCRQ (env : Env) (t : TunnelPtr) (c : CallPtr) : Act Int := do
  let tun ← readTunnel t
  if tun.tid ≤ 0 then refuse c "Specify your assigned tunnel ID"
  else do
    let chosen ← getLns env t
    setTunnel t fun tun => { tun with lns := chosen }
    match chosen with
    | none => refuse c "No Authorization"
    | some l => do
        let lns ← readLns l
        setTunnel t fun tun => { tun with ourrws := lns.tunRws, hbit := lns.hbit }
        if tun.fc < 0 then refuse c "Specify framing capability"
        else if tun.hostname = [] ∧ (tun.chalUs.challenged ∨ lns.challenge) then refuse c "Specify your hostname"
        else do
          let d ← get
          let twice ← twiceRequested env t tun d.tunnels
          if twice then do
            setCall c fun cal => { cal with needclose := false, closing := true }
            return 0
          else replySCCRQ env t c lns

def startHello (env : Env) (t : TunnelPtr) : Act PUnit := schedule env helloDelay (.hello t)

def dialLac (env : Env) : Option LacPtr → Act PUnit
  | none => return ()
  | some l => magicLacDial env l

def joinTunnel (env : Env) (t : TunnelPtr) (c : CallPtr) (answer : List UInt8) : Act Int := do
  setTunnel t fun tun => { tun with state := some .SCCCN }
  let vector ← addRandvect env t
  sendControl env t c (addMessageTypeAvp .SCCCN ++ vector ++ answer)
  connectPppol2tp env t
  startHello env t
  let tun ← readTunnel t
  dialLac env tun.lac
  return 0

def checkSCCRP (env : Env) (t : TunnelPtr) (c : CallPtr) : Act Int := do
  let tun ← readTunnel t
  if ¬ tun.chalThem.challenged then return 0
  else do
    setTunnel t fun tun => { tun with chalThem := { tun.chalThem with ss := UInt8.ofNat Msg.SCCRP.code } }
    let failed ← handleChallenge env t .them
    if failed ≠ 0 then refuse c "No secret key on our side"
    else do
      let tun ← readTunnel t
      if tun.chalThem.reply ≠ tun.chalThem.response then refuse c "Invalid challenge authentication"
      else return 0

def finishSCCRP (env : Env) (t : TunnelPtr) (c : CallPtr) : Act Int := do
  let tun ← readTunnel t
  if tun.fc < 0 then refuse c "Specify framing capability"
  else if tun.hostname = [] ∧ (tun.chalThem.challenged ∨ tun.chalUs.challenged) then refuse c "Specify your hostname"
  else if tun.tid ≤ 0 then refuse c "Specify your assigned tunnel ID"
  else do
    let unproven ← checkSCCRP env t c
    if unproven ≠ 0 then return unproven
    else do
      let answer ← answerTheirs env t .SCCCN
      if answer.2 ≠ 0 then refuse c "No secret key on our end"
      else joinTunnel env t c answer.1

def finishSCCCN (env : Env) (t : TunnelPtr) (c : CallPtr) : Act Int := do
  let tun ← readTunnel t
  if tun.chalThem.challenged ∧ tun.chalThem.reply ≠ tun.chalThem.response then
    refuse c "Invalid challenge authentication"
  else do
    setTunnel t fun tun => { tun with state := some .SCCCN }
    let l ← deref tun.lns
    let _ ← readLns l
    connectPppol2tp env t
    startHello env t
    return 0

def isMsl2tp (tun : Tunnel) : Bool :=
  tun.firmware == 0xff00 && tun.vendor.take 27 == text "Deterministic Networks Inc."

def finishStopCCN (t : TunnelPtr) (c : CallPtr) : Act Int := do
  let tun ← readTunnel t
  let tmptid := if isMsl2tp tun then (tun.ourtid : Int) else tun.tid
  if tun.qtid < 0 then return einval
  else if tun.qtid ≠ tmptid ∧ 0 < tmptid then return einval
  else do
    setTunnel t fun tun => { tun with tid := if tun.tid = 0 then tun.qtid else tun.tid }
    let self ← deref tun.self
    let me ← readCall self
    if me.result < 0 then return einval
    else do
      setCall c fun cal => { cal with needclose := false, closing := true }
      return 0

def hasCid (cid : Int) : List CallPtr → Act Bool
  | [] => return false
  | z :: rest => do
      let cal ← readCall z
      if cal.cid = cid then return true else hasCid cid rest

def closeRefused (env : Env) (p : CallPtr) : Act Int := do
  callClose env env.fuel p
  return einval

-- An address of the LNS entry's range for the new call, if it gives any.
def assignAddr (t : TunnelPtr) (p : CallPtr) : Act Bool := do
  let tun ← readTunnel t
  let l ← deref tun.lns
  let lns ← readLns l
  if ¬ lns.assignIp then do
    setCall p fun cal => { cal with addr := 0 }
    return true
  else do
    let d ← get
    let addr ← getAddr d.uaddr lns.range
    setCall p fun cal => { cal with addr := addr }
    if addr = 0 then return false
    else do
      reserveAddr addr
      return true

def finishICRQ (env : Env) (t : TunnelPtr) : Act Int := do
  let tun ← readTunnel t
  let p ← deref tun.calls.head?
  let cal ← readCall p
  match cal.lns with
  | none => do
      setError p errorInvalid (text "This tunnel cannot accept calls\n")
      closeRefused env p
  | some l => do
      let lns ← readLns l
      setCall p fun cal => { cal with lbit := lns.lbit }
      if cal.cid < 0 then closeRefused env p
      else do
        let twice ← hasCid cal.cid tun.calls.tail
        if twice then do
          setCall p fun cal => { cal with needclose := false, closing := true }
          return 0
        else do
          let assigned ← assignAddr t p
          if ¬ assigned then do
            setError p errorNores (text "No available IP address")
            closeRefused env p
          else do
            setCall p fun cal => { cal with state := some .ICRP }
            let vector ← addRandvect env t
            sendControl env t p (addMessageTypeAvp .ICRP ++ vector ++ addCallidAvp cal.ourcid)
            return 0

-- The password goes to pppd through a pipe; without redialling it is forgotten.
def passPassword (env : Env) (l : LacPtr) (lac : Lac) : Act (Option (List CString)) :=
  if lac.password = [] then return some []
  else
    match env.passwordPipe with
    | none => return none
    | some fd => do
        Prog.onlyWhen (¬ lac.redial) (setLac l fun lac => { lac with password := [] })
        return some [text "plugin", text "passwordfd.so", text "passwordfd", decimal fd]

def finishICRP (env : Env) (t : TunnelPtr) (c : CallPtr) : Act Int := do
  let cal ← readCall c
  if cal.cid < 0 then do
    setCall c fun cal => { cal with needclose := true }
    return einval
  else do
    let tun ← readTunnel t
    setCall c fun cal => { cal with state := some .ICCN, frame := peerFraming tun }
    let vector ← addRandvect env t
    sendControl env t c
      (addMessageTypeAvp .ICCN ++ vector ++ addTxspeedAvp tun.txspeed ++ addFrameAvp (peerFraming tun) ++
        addRxspeedAvp tun.rxspeed)
    let l ← deref cal.lac
    let lac ← readLac l
    match ← passPassword env l lac with
    | none => return einval
    | some password => do
        let _ ← startPppd env c
          ([text "passive", text "nodetach"] ++ lac.sessionOptions ++ password ++ lac.ppp.fileOptions tun.peer.addr)
        setLac l fun lac => { lac with rtries := 0 }
        return 0

-- The range is the one of the tunnel's LNS entry, the address goes to the
-- call's.
def getLocalAddr (env : Env) (t : TunnelPtr) (c : CallPtr) : Act Int := do
  let tun ← readTunnel t
  let l ← deref tun.lns
  let lns ← readLns l
  if lns.localrange = [] then return 0
  else do
    let d ← get
    let addr ← getAddr d.uaddr lns.localrange
    let cal ← readCall c
    let own ← deref cal.lns
    setLns own fun lns => { lns with localaddr := addr }
    if addr = 0 then do
      setError c errorNores (text "No available local IP addresses")
      closeRefused env c
    else do
      reserveAddr addr
      return 0

def finishICCN (env : Env) (t : TunnelPtr) (c : CallPtr) : Act Int := do
  let tun ← readTunnel t
  if tun.self = some c then return einval
  else do
    setCall c fun cal => { cal with state := some .ICCN }
    let full ← getLocalAddr env t c
    if full ≠ 0 then return einval
    else do
      let cal ← readCall c
      let l ← deref cal.lns
      let lns ← readLns l
      let _ ← startPppd env c
        ([text "passive", text "nodetach", addrOption lns.localaddr ++ text ":" ++ dotted cal.addr] ++
          lns.ppp.options lns.passwdauth ++ lns.ppp.fileOptions tun.peer.addr)
      return 0

def finishOCCN (env : Env) (t : TunnelPtr) (c : CallPtr) : Act Int := do
  let cal ← readCall c
  let tun ← readTunnel t
  let l ← deref cal.lac
  let lac ← readLac l
  let _ ← startPppd env c
    ([text "passive", text "nodetach", text "file", text "/var/l2tp/" ++ cal.dialNo ++ text ".options"] ++
      lac.sessionOptions ++ lac.ppp.fileOptions tun.peer.addr)
  setLac l fun lac => { lac with rtries := 0 }
  return 0

def findCid (cid : Int) : List CallPtr → Act (Option CallPtr)
  | [] => return none
  | p :: rest => do
      let cal ← readCall p
      if cal.cid = cid then return some p else findCid cid rest

def namedCall (tun : Tunnel) (c : CallPtr) (cid : Int) : Act (Option CallPtr) :=
  if tun.self = some c then findCid cid tun.calls else return some c

-- Whatever call the CDN names, it is the one it came on that is closed.
def finishCDN (t : TunnelPtr) (c : CallPtr) : Act Int := do
  let tun ← readTunnel t
  let cal ← readCall c
  if cal.qcid < 0 then return einval
  else do
    match ← namedCall tun c cal.qcid with
    | none => return einval
    | some p => do
        let named ← readCall p
        let tmpcid := if isMsl2tp tun then (named.ourcid : Int) else named.cid
        if cal.qcid ≠ tmpcid ∧ 0 < tmpcid then return einval
        else do
          setCall c fun cal => { cal with qcid := -1 }
          if cal.result < 0 then return einval
          else do
            setCall c fun cal => { cal with needclose := false, closing := true }
            return 0

def controlFinish (env : Env) (t : TunnelPtr) (c : CallPtr) : Act Int := do
  let cal ← readCall c
  if cal.msgtype < 0 then return einval
  else if cal.msgtype = 0 then initiate env t c
  else
    match Msg.ofCode cal.msgtype with
    | some .SCCRQ => finishSCCRQ env t c
    | some .SCCRP => finishSCCRP env t c
    | some .SCCCN => finishSCCCN env t c
    | some .StopCCN => finishStopCCN t c
    | some .ICRQ => finishICRQ env t
    | some .ICRP => finishICRP env t c
    | some .ICCN => finishICCN env t c
    | some .OCRP => return 0
    | some .OCCN => finishOCCN env t c
    | some .CDN => finishCDN t c
    | some .Hello => return 0
    | some .SLI => return 0
    | _ => do
        setError c vendorError (text "Unimplemented message " ++ decimal cal.msgtype ++ text "\n")
        return 0

end ZyAgf.Xl2tpd
