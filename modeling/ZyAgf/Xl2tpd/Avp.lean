import ZyAgf.Xl2tpd.Aaa

set_option autoImplicit false

namespace ZyAgf.Xl2tpd

def drawOurcid (env : Env) : Option CallPtr → Act Nat
  | none => return 0
  | some _ => getEntropy16 env

def Call.created (parent : TunnelPtr) (tun : Tunnel) (ourcid : Nat) : Call where
  live := true
  lbit := false
  seqReqd := false
  state := none
  frame := 0
  msgtype := 0
  ourcid := ourcid
  cid := 0
  qcid := -1
  bearer := -1
  serno := 0
  addr := 0
  txspeed := 0
  rxspeed := 0
  ppd := 0
  physchan := -1
  dialed := []
  dialing := []
  subaddy := []
  needclose := false
  closing := false
  container := parent
  fd := -1
  pppd := 0
  result := -1
  error := -1
  fbit := false
  ourfbit := false
  cnu := false
  errormsg := []
  dataSeqNum := 0
  dataRecSeqNum := 0
  closeSs := 0
  pLr := -1
  lns := tun.lns
  lac := tun.lac
  dialNo := []

def newCall (env : Env) (parent : TunnelPtr) : Act (Option CallPtr) :=
  if ¬ env.callMemory then return none
  else do
    let tun ← readTunnel parent
    let ourcid ← drawOurcid env tun.self
    let d ← get
    modify fun d => { d with call := write d.call d.fresh (Call.created parent tun ourcid), fresh := d.fresh + 1 }
    return some d.fresh

def Tunnel.created (ourtid : Nat) : Tunnel where
  live := true
  calls := []
  fc := -1
  ourfc := asyncFraming + syncFraming
  bc := -1
  ourbc := 0
  hbit := false
  tid := -1
  refhim := 0
  ourtid := ourtid
  qtid := -1
  firmware := 0
  peer := ⟨0, 0⟩
  state := none
  controlSeqNum := 0
  controlRecSeqNum := 0
  cLr := 0
  sanity := true
  rws := 0
  ourrws := 0
  rxspeed := 0
  txspeed := 0
  udpFd := 0
  pppoxFd := 0
  self := none
  lns := none
  lac := none
  hostname := []
  vendor := []
  chalUs := Challenge.zero
  chalThem := Challenge.zero

def newTunnel (env : Env) : Act (Option TunnelPtr) :=
  if ¬ env.tunnelMemory then return none
  else do
    let ourtid ← getEntropy16 env
    let d ← get
    let t := d.fresh
    modify fun d => { d with tunnel := write d.tunnel t (Tunnel.created ourtid), fresh := t + 1 }
    match ← newCall env t with
    | none => do
        setTunnel t fun tun => { tun with live := false }
        return none
    | some self => do
        setTunnel t fun tun => { tun with self := some self, ourrws := 4, rxspeed := 10000000, txspeed := 10000000 }
        setCall self fun cal => { cal with ourfbit := true }
        return some t

-- What a handler is given: its AVP in memory, header in host order, and the
-- length the header states. Words are counted from the header's first.
structure AvpData where
  mem : List UInt8
  data : Nat
  datalen : Nat

def AvpData.raw (a : AvpData) (i : Nat) : U16 := netWord a.mem (a.data + 2 * i)
def AvpData.long (a : AvpData) : Nat := (a.raw 3).toNat * 65536 + (a.raw 4).toNat
def AvpData.size (a : AvpData) : Nat := (hostWord a.mem a.data &&& 0x3FF).toNat - avpHdrSize
def AvpData.value (a : AvpData) : List UInt8 := bytesAt a.mem (a.data + avpHdrSize) a.size
def AvpData.string (a : AvpData) : CString :=
    safeCopy (bytesAt a.mem (a.data + avpHdrSize) (min a.size (maxStrLen - 1))) a.size

abbrev Handler := Env → TunnelPtr → CallPtr → AvpData → Act Int

def wrongLength (c : CallPtr) (field : String) (expected found : Nat) (atLeast : Bool) : Act PUnit :=
  setCall c fun cal =>
    { cal with
      errormsg := (text field ++ text (if atLeast then ": expected at least " else ": expected ") ++ decimal expected ++
        text ", got " ++ decimal found).take (maxStrLen - 1)
      error := errorLength
      result := resultError
      needclose := true }

def isOneOf (msgtype : Int) (allowed : List Msg) : Bool := allowed.any fun m => (m.code : Int) == msgtype

-- Most handlers ignore their AVP in a message it does not belong to, and only
-- then look at its length.
def expectsThen (allowed : List Msg) (field : String) (expected : Nat) (atLeast : Bool) (body : Handler) : Handler :=
  fun env t c a => do
    let tun ← readTunnel t
    let cal ← readCall c
    if tun.sanity ∧ ¬ isOneOf cal.msgtype allowed then return 0
    else if tun.sanity ∧ ¬ (if atLeast then expected ≤ a.datalen else a.datalen = expected) then do
      wrongLength c field expected a.datalen atLeast
      return einval
    else body env t c a

def expects (allowed : List Msg) (field : String) (expected : Nat) (atLeast : Bool)
    (store : TunnelPtr → CallPtr → AvpData → Act PUnit) : Handler :=
  expectsThen allowed field expected atLeast fun _ t c a => do
    store t c a
    return 0

def setCallHead (t : TunnelPtr) (change : Call → Call) : Act PUnit := do
  let tun ← readTunnel t
  let head ← deref tun.calls.head?
  setCall head change

def framingCapsAvp : Handler :=
  expects [.SCCRP, .SCCRQ] "Framming Capabilities" 10 false fun t _ a =>
    setTunnel t fun tun => { tun with fc := (a.raw 4 &&& 3).toNat }

def bearerCapsAvp : Handler :=
  expects [.SCCRP, .SCCRQ] "Bearer Capabilities" 10 false fun t _ a =>
    setTunnel t fun tun => { tun with bc := (a.raw 4 &&& 3).toNat }

def firmwareRevAvp : Handler :=
  expects [.SCCRP, .SCCRQ] "Firmware Revision" 8 false fun t _ a =>
    setTunnel t fun tun => { tun with firmware := (a.raw 3).toNat }

def bearerTypeAvp : Handler :=
  expects [.ICRQ, .OCRQ] "Bearer Type" 10 false fun t _ a =>
    setCallHead t fun cal => { cal with bearer := (a.raw 4).toNat }

def frameTypeAvp : Handler :=
  expects [.ICCN, .OCRQ, .OCCN] "Frame Type" 10 false fun _ c a =>
    setCall c fun cal => { cal with frame := (a.raw 4).toNat }

def hostnameAvp : Handler :=
  expects [.SCCRP, .SCCRQ] "Hostname" 6 true fun t _ a => setTunnel t fun tun => { tun with hostname := a.string }

def dialingNumberAvp : Handler :=
  expects [.ICRQ] "Dialing Number" 6 true fun t _ a => setCallHead t fun cal => { cal with dialing := a.string }

def dialedNumberAvp : Handler :=
  expects [.OCRQ, .ICRQ] "Dialed Number" 6 true fun t _ a => setCallHead t fun cal => { cal with dialed := a.string }

def subAddressAvp : Handler :=
  expects [.OCRP, .ICRQ] "Sub-address" 6 true fun t _ a => setCallHead t fun cal => { cal with subaddy := a.string }

def vendorAvp : Handler :=
  expects [.SCCRP, .SCCRQ] "Vendor" 6 true fun t _ a => setTunnel t fun tun => { tun with vendor := a.string }

def assignedTunnelAvp : Handler :=
  expects [.SCCRP, .SCCRQ, .StopCCN] "Assigned Tunnel ID" 8 false fun t c a => do
    let cal ← readCall c
    setTunnel t fun tun =>
      if cal.msgtype = Msg.StopCCN.code then { tun with qtid := (a.raw 3).toNat }
        else { tun with tid := (a.raw 3).toNat }

def assignedCallAvp : Handler :=
  expects [.CDN, .ICRP, .ICRQ, .OCRP] "Assigned Call ID" 8 false fun t c a => do
    let cal ← readCall c
    if cal.msgtype = Msg.CDN.code then setCall c fun cal => { cal with qcid := (a.raw 3).toNat }
    else if cal.msgtype = Msg.ICRQ.code then setCallHead t fun cal => { cal with cid := (a.raw 3).toNat }
    else if cal.msgtype = Msg.ICRP.code ∨ cal.msgtype = Msg.OCRP.code then
      setCall c fun cal => { cal with cid := (a.raw 3).toNat }
    else return ()

-- The field name of its error is the one of the handler it was copied from.
def packetDelayAvp : Handler :=
  expects [.ICRP, .OCRQ, .ICCN, .OCRP, .OCCN] "Assigned Call ID" 8 false fun _ c a =>
    setCall c fun cal => { cal with ppd := (a.raw 3).toNat }

def callSernoAvp : Handler :=
  expects [.ICRQ, .OCRQ] "Serial Number" 0 true fun t _ a => setCallHead t fun cal => { cal with serno := a.long }

def rxSpeedAvp : Handler :=
  expects [.ICCN, .OCCN, .OCRP] "Connect Speed (RX)" 10 false fun _ c a =>
    setCall c fun cal => { cal with rxspeed := a.long }

def txSpeedAvp : Handler :=
  expects [.ICCN, .OCCN, .OCRP] "Connect Speed (tx)" 10 false fun _ c a =>
    setCall c fun cal => { cal with txspeed := a.long }

def callPhyschanAvp : Handler :=
  expects [.ICRQ, .OCRQ, .OCRP, .OCCN] "Physical Channel" 10 false fun t _ a =>
    setCallHead t fun cal => { cal with physchan := (BitVec.ofNat 32 a.long).toInt }

def receiveWindowSizeAvp : Handler :=
  expects [.SCCRP, .SCCRQ, .OCRP, .OCCN, .StopCCN] "Receive Window Size" 8 false fun t _ a =>
    setTunnel t fun tun => { tun with rws := (a.raw 3).toNat }

def Vector.ofBytes (bytes : List UInt8) : Vector UInt8 16 := Vector.ofFn fun i => bytes.getD i 0

def challengeAvp : Handler :=
  expectsThen [.SCCRP, .SCCRQ] "challenge" 6 true fun env t _ a =>
    if ¬ env.challengeMemory then do
      setTunnel t fun tun => { tun with chalUs := { tun.chalUs with challenge := [] } }
      return enomem
    else do
      setTunnel t fun tun => { tun with chalUs := { tun.chalUs with challenge := a.value, challenged := true } }
      return 0

def chalrespAvp : Handler :=
  expectsThen [.SCCRP, .SCCCN] "challenge" 6 true fun _ t _ a =>
    if a.size ≠ mdSigSize then return einval
    else do
      setTunnel t fun tun => { tun with chalThem := { tun.chalThem with reply := Vector.ofBytes a.value } }
      return 0

def ignoreAvp : Handler := fun _ _ _ _ => return 0

def randVectorAvp : Handler := fun _ t c a => do
  let tun ← readTunnel t
  if tun.sanity ∧ a.size > maxVectorSize then do
    wrongLength c "Random Vector" 6 a.datalen true
    return einval
  else do
    setTunnel t fun tun => { tun with chalUs := { tun.chalUs with vector := some a.value } }
    return 0

def seqReqdAvp : Handler := fun _ t c a => do
  let tun ← readTunnel t
  let cal ← readCall c
  if tun.sanity ∧ a.datalen ≠ 6 then do
    wrongLength c "Sequencing Required" 6 a.datalen true
    return einval
  else if tun.sanity ∧ ¬ isOneOf cal.msgtype [.ICCN] then return einval
  else do
    setCall c fun cal => { cal with seqReqd := true }
    return 0

-- The length comes before the message type here and in the next one.
def protocolVersionAvp : Handler := fun _ t c a => do
  let tun ← readTunnel t
  if tun.sanity ∧ a.datalen ≠ 8 then do
    wrongLength c "Protocol Version" 8 a.datalen true
    return einval
  else return 0

-- Some clients send these codes in their own byte order.
def appleOrder (code : Nat) : Nat := if code % 256 = 0 ∧ code / 256 ≠ 0 then code / 256 else code

def resultCodeAvp : Handler := fun _ t c a => do
  let tun ← readTunnel t
  let cal ← readCall c
  let result := appleOrder (a.raw 3).toNat
  if tun.sanity ∧ a.datalen < 8 then do
    wrongLength c "Result Code" 8 a.datalen true
    return einval
  else if tun.sanity ∧ ¬ isOneOf cal.msgtype [.CDN, .StopCCN] then return 0
  else if cal.msgtype = Msg.StopCCN.code ∧ (result > 7 ∨ result < 1) then return 0
  else if cal.msgtype = Msg.CDN.code ∧ (result > 11 ∨ result < 1) then return 0
  else do
    setCall c fun cal =>
      { cal with
        error := if a.datalen ≥ 10 then appleOrder (a.raw 4).toNat else -1
        result := result
        errormsg := if a.datalen > 10 then safeCopy (bytesAt a.mem (a.data + 10) (a.datalen - 10))
          (a.datalen - 10) else [] }
    return 0

def msgFits (onSelf : Bool) (tunnel call : Option Msg) : Msg → Bool
  | .SCCRQ => onSelf && (tunnel == none || tunnel == some .SCCRQ)
  | .SCCRP => onSelf && tunnel == some .SCCRQ
  | .SCCCN => onSelf && tunnel == some .SCCRP
  | .StopCCN => onSelf
  | .ICRQ => tunnel == some .SCCCN && onSelf
  | .ICRP => tunnel == some .SCCCN && call == some .ICRQ
  | .ICCN => call == some .ICRP
  | .SLI => call == some .ICCN
  | .OCRP => tunnel == some .SCCCN && call == some .OCRQ
  | .OCCN => call == some .OCRQ
  | .CDN => true
  | .Hello => true
  | .OCRQ => false
  | .WEN => false

def addIncomingCall (env : Env) (t : TunnelPtr) : Act Int := do
  match ← newCall env t with
  | none => return einval
  | some tmp => do
      setTunnel t fun tun => { tun with calls := tmp :: tun.calls }
      return 0

def messageTypeAvp : Handler := fun env t c a => do
  setCall c fun cal => { cal with msgtype := (a.raw 3).toNat }
  let tun ← readTunnel t
  let cal ← readCall c
  if a.datalen ≠ 8 then do
    wrongLength c "Message Type" 8 a.datalen false
    return einval
  else
    match Msg.ofCode (a.raw 3).toNat with
    | none => return einval
    | some m =>
        if tun.sanity ∧ ¬ msgFits (tun.self == some c) tun.state cal.state m then return einval
        else if m = .ICRQ then addIncomingCall env t
        else return 0

def avps : Nat → Option Handler × String
  | 0 => (some messageTypeAvp, "Message Type")
  | 1 => (some resultCodeAvp, "Result Code")
  | 2 => (some protocolVersionAvp, "Protocol Version")
  | 3 => (some framingCapsAvp, "Framing Capabilities")
  | 4 => (some bearerCapsAvp, "Bearer Capabilities")
  | 5 => (none, "Tie Breaker")
  | 6 => (some firmwareRevAvp, "Firmware Revision")
  | 7 => (some hostnameAvp, "Host Name")
  | 8 => (some vendorAvp, "Vendor Name")
  | 9 => (some assignedTunnelAvp, "Assigned Tunnel ID")
  | 10 => (some receiveWindowSizeAvp, "Receive Window Size")
  | 11 => (some challengeAvp, "Challenge")
  | 12 => (none, "Q.931 Cause Code")
  | 13 => (some chalrespAvp, "Challenge Response")
  | 14 => (some assignedCallAvp, "Assigned Call ID")
  | 15 => (some callSernoAvp, "Call Serial Number")
  | 16 => (none, "Minimum BPS")
  | 17 => (none, "Maximum BPS")
  | 18 => (some bearerTypeAvp, "Bearer Type")
  | 19 => (some frameTypeAvp, "Framing Type")
  | 20 => (some packetDelayAvp, "Packet Processing Delay")
  | 21 => (some dialedNumberAvp, "Dialed Number")
  | 22 => (some dialingNumberAvp, "Dialing Number")
  | 23 => (some subAddressAvp, "Sub-Address")
  | 24 => (some txSpeedAvp, "Transmit Connect Speed")
  | 25 => (some callPhyschanAvp, "Physical channel ID")
  | 26 => (none, "Initial Received LCP Confreq")
  | 27 => (none, "Last Sent LCP Confreq")
  | 28 => (none, "Last Received LCP Confreq")
  | 29 => (some ignoreAvp, "Proxy Authen Type")
  | 30 => (some ignoreAvp, "Proxy Authen Name")
  | 31 => (some ignoreAvp, "Proxy Authen Challenge")
  | 32 => (some ignoreAvp, "Proxy Authen ID")
  | 33 => (some ignoreAvp, "Proxy Authen Response")
  | 34 => (none, "Call Errors")
  | 35 => (some ignoreAvp, "ACCM")
  | 36 => (some randVectorAvp, "Random Vector")
  | 37 => (none, "Private Group ID")
  | 38 => (some rxSpeedAvp, "Receive Connect Speed")
  | 39 => (some seqReqdAvp, "Sequencing Required")
  | _ => (none, "")

def AMBIT (length : U16) : Bool := length.getLsbD 15
def AHBIT (length : U16) : Bool := length.getLsbD 14
def AZBITS (length : U16) : Bool := length &&& 0x3C00 != 0
def ALENGTH (length : U16) : Nat := (length &&& 0x3FF).toNat

def xorBytes (as bs : List UInt8) : List UInt8 := List.zipWith (· ^^^ ·) as bs

def decryptSegments (env : Env) (secret : CString) : Nat → Vector UInt8 16 → List UInt8 → List UInt8
  | 0, _, _ => []
  | segments + 1, key, cipher =>
      xorBytes (cipher.take mdSigSize) key.toList ++
        decryptSegments env secret segments (env.md5 (secret ++ cipher.take mdSigSize)) (cipher.drop mdSigSize)

-- The hidden value is decrypted where it lies, and the header of the AVP it
-- holds is written two bytes behind the old one.
def decryptAvp (env : Env) (tun : Tunnel) (mem : List UInt8) (data : Nat) : Option (List UInt8) × List UInt8 :=
  match tun.chalUs.vector with
  | none => (none, mem)
  | some vector =>
      let length := hostWord mem data
      let olen := (length &&& 0x0FFF).toNat
      let attr := hostWord mem (data + 4)
      let key := env.md5 (wordBytes attr ++ tun.chalUs.secret ++ vector)
      let cipher := bytesAt mem (data + avpHdrSize) (olen - avpHdrSize)
      let plain := decryptSegments env tun.chalUs.secret (cipher.length / mdSigSize + 1) key cipher
      let opened := mem.take (data + avpHdrSize) ++ plain ++ mem.drop (data + avpHdrSize + cipher.length)
      let len := (netWord opened (data + 6)).toNat + avpHdrSize
      if len + 2 > olen then (none, opened)
      else
        let renumbered := storeHostWord opened (data + 6) attr
        let revendored := storeHostWord renumbered (data + 4) (hostWord mem (data + 2))
        (some (storeHostWord revendored (data + 2) (BitVec.ofNat 16 len ||| length &&& 0xB000)), opened)

-- A refused message leaves the loop with -EINVAL; any other AVP leaves the
-- buffer as the next one finds it.
def refuseAvp (c : CallPtr) (error : Int) (message : CString) : Act (Option (List UInt8)) := do
  setError c error message
  return none

def runHandler (env : Env) (t : TunnelPtr) (c : CallPtr) (mem : List UInt8) (data : Nat) : Act (Option (List UInt8)) :=
    do
  let length := hostWord mem data
  let attr := (hostWord mem (data + 4)).toNat
  match (avps attr).1 with
  | none =>
      if AMBIT length then
        refuseAvp c vendorError (text "No handler for attr " ++ decimal attr ++ text " (" ++ text
          (avps attr).2 ++ text ")\n")
      else return some mem
  | some handler => do
      let result ← handler env t c ⟨mem, data, ALENGTH length⟩
      if result ≠ 0 ∧ AMBIT length then do
        setCall c fun cal => { cal with needclose := true }
        return none
      else return some mem

def handleAvp (env : Env) (t : TunnelPtr) (c : CallPtr) (mem : List UInt8) (data : Nat) (len : Int) (first : Bool) :
    Act (Option (List UInt8)) := do
  let length := hostWord mem data
  let attr := (hostWord mem (data + 4)).toNat
  if attr > avpMax then
    if AMBIT length then refuseAvp c vendorError (text "mandatory attribute " ++ decimal attr ++ text " cannot be handled")
    else return some mem
  else if (ALENGTH length : Int) > len then refuseAvp c errorLength (text "Invalid AVP length")
  else if attr ≠ 0 ∧ first then refuseAvp c vendorError (text "First AVP must be message type")
  else if ALENGTH length < avpHdrSize then refuseAvp c errorLength (text "AVP too small")
  else if AZBITS length then
    if AMBIT length then refuseAvp c errorReserved (text "reserved bits set in AVP") else return some mem
  else if AHBIT length then do
    let tun ← readTunnel t
    match decryptAvp env tun mem data with
    | (none, opened) =>
        if AMBIT length then refuseAvp c vendorError (text "Invalid Hidden AVP") else return some opened
    | (some shown, _) => runHandler env t c shown (data + 2)
  else runHandler env t c mem data

-- A hidden AVP moves on by two bytes first and by two less afterwards, so every
-- AVP moves on by the length it came with; that is one at least, or the loop
-- ends, and len is fuel enough.
def avpLoop (env : Env) (t : TunnelPtr) (c : CallPtr) : Nat → List UInt8 → Nat → Int → Bool → Act Int
  | 0, _, _, len, _ => return if len ≠ 0 then einval else 0
  | fuel + 1, mem, data, len, first =>
      if len ≤ 0 then return if len ≠ 0 then einval else 0
      else do
        let swapped := swaps mem data 3
        let alen := ALENGTH (hostWord swapped data)
        match ← handleAvp env t c swapped data len first with
        | none => return einval
        | some left =>
            if alen = 0 then return einval
            else avpLoop env t c fuel left (data + alen) (len - alen) false

def handleAvps (env : Env) (t : TunnelPtr) (c : CallPtr) (buf : RecvBuffer) : Act Int :=
  avpLoop env t c (buf.len - controlHdrSize) buf.mem controlHdrSize (buf.len - controlHdrSize) true

end ZyAgf.Xl2tpd
