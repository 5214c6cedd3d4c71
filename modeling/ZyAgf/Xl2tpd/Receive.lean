import ZyAgf.Xl2tpd.Finish
import ZyAgf.Xl2tpd.Payload
import ZyAgf.Xl2tpd.SyncToAsync

set_option autoImplicit false

namespace ZyAgf.Xl2tpd

-- A message we should have had already. The comparisons are made on ints, so
-- the half of the test that is about wrapped numbers is never true.
def isOld (ns expected : U16) : Bool :=
  let ns : Int := ns.toNat
  let rec' : Int := expected.toNat
  ns < rec' ∧ rec' - ns < 32768 ∨ ns > rec' ∧ rec' - ns > 32768

def flagsOk (ver : U16) : Bool := CTBIT ver && CLBIT ver && CFBIT ver && CVER ver == verL2tp

-- A ZLB is not answered with a ZLB. A tunnel made only for this message is given up.
def outOfOrder (buf : RecvBuffer) (t : TunnelPtr) (c : CallPtr) : Act PUnit := do
  let tun ← readTunnel t
  if isOld (controlHdr buf.mem).Ns tun.controlRecSeqNum then
    Prog.onlyWhen (buf.len ≠ controlHdrSize) (controlZlb t c)
  else
    Prog.onlyWhen (tun.controlRecSeqNum = 0 ∧ tun.tid = -1)
      (setCall c fun cal => { cal with needclose := false, closing := true })

def checkControl (buf : RecvBuffer) (t : TunnelPtr) (c : CallPtr) : Act Int := do
  let h := controlHdr buf.mem
  if buf.len < controlHdrSize then return einval
  else if buf.len ≠ h.length.toNat then return einval
  else do
    let tun ← readTunnel t
    if h.Ns ≠ tun.controlRecSeqNum then do
      outOfOrder buf t c
      return einval
    else do
      setTunnel t fun tun => { tun with controlRecSeqNum := tun.controlRecSeqNum + 1 }
      setCall c fun cal => { cal with cnu := true }
      setTunnel t fun tun => { tun with cLr := h.Nr }
      return if tun.sanity ∧ ¬ flagsOk h.ver then einval else 0

def handleSpecial (buf : RecvBuffer) (c : CallPtr) (call : Nat) : Act Int := do
  let cal ← readCall c
  let t := cal.container
  if ¬ CTBIT (hostWord buf.mem 0) then return 0
  else do
    setCall c fun cal => { cal with cid := call }
    let bad ← checkControl buf t c
    if bad ≠ 0 ∨ buf.len = controlHdrSize then do
      setCall c fun cal => { cal with cid := 0 }
      return 0
    else do
      controlZlb t c
      setCall c fun cal => { cal with cid := 0 }
      return 1

-- The receive counter went up for the ZLB too. A ZLB that covers the closing
-- message completes the close.
def takeZlb (t : TunnelPtr) (c : CallPtr) : Act PUnit := do
  setTunnel t fun tun => { tun with controlRecSeqNum := tun.controlRecSeqNum - 1 }
  let tun ← readTunnel t
  setCall c fun cal =>
    { cal with
      cnu := false
      needclose := cal.needclose && !(cal.closing && decide (cal.closeSs.toNat ≤ tun.cLr.toNat)) }

def handleControl (env : Env) (buf : RecvBuffer) (t : TunnelPtr) (c : CallPtr) : Act Int := do
  let bad ← checkControl buf t c
  if bad ≠ 0 then return einval
  else do
    setCall c fun cal => { cal with msgtype := -1 }
    if buf.len = controlHdrSize then do
      takeZlb t c
      return 0
    else do
      let failed ← handleAvps env t c buf
      if failed ≠ 0 then return einval else controlFinish env t c

-- The frame starts behind the full header and the offset it names. With an
-- offset past the end, the length wraps and the checksum is written anywhere.
def writePacket (env : Env) (buf : RecvBuffer) (c : CallPtr) (h : PayloadHdr) (len : Nat) : Act Int := do
  let cal ← readCall c
  if cal.fd < 0 then return eio
  else if len < payloadHdrSize + h.oSize.toNat then Prog.wrong
  else
    let frame := bytesAt buf.mem (payloadHdrSize + h.oSize.toNat - missingBytes h.ver)
      (len - payloadHdrSize - h.oSize.toNat)
    if (encodePpp [pppFlag] (addFcs frame)).isNone then return einval
    else if ¬ env.ptyWrite then do
      setCall c fun cal => { cal with needclose := true, fd := -1 }
      return eio
    else do
      emit (.pty c frame)
      return 0

def isPayloadZlb (sanity : Bool) (buf : RecvBuffer) (c : Call) : Bool :=
  checkPayload sanity buf == 0 && (expandPayload buf c).any fun expanded => expanded.2.2 == payloadHdrSize

def handlePayload (env : Env) (buf : RecvBuffer) (t : TunnelPtr) (c : CallPtr) : Act Int := do
  let tun ← readTunnel t
  let cal ← readCall c
  let taken := takePayload tun.sanity buf cal
  setCall c fun _ => taken.1
  match taken.2 with
  | some frame => writePacket env buf c frame.1 frame.2
  | none => return if isPayloadZlb tun.sanity buf cal then 0 else einval

def handlePacket (env : Env) (buf : RecvBuffer) (t : TunnelPtr) (c : CallPtr) : Act Int :=
  if CTBIT (hostWord buf.mem 0) then handleControl env buf t c else handlePayload env buf t c

def getTunnel (tunnel : Nat) : Act (Option CallPtr) := do
  let d ← get
  if tunnel = 0 then return none
  else
    match ← findTunnel tunnel d.tunnels with
    | none => return none
    | some t => do
        let tun ← readTunnel t
        return tun.self

-- Under IPsec two tunnels are told apart by their security associations; zero
-- is none.
def Tunnel.answersTo (tun : Tunnel) (env : Env) (tunnel refhim : Nat) : Bool :=
  tun.ourtid == tunnel && (!env.ipsecsaref || tun.refhim == refhim || refhim == 0 || tun.refhim == 0)

def findSecure (env : Env) (tunnel refhim : Nat) : List TunnelPtr → Act (Option TunnelPtr)
  | [] => return none
  | t :: rest => do
      let tun ← readTunnel t
      if tun.answersTo env tunnel refhim then return some t else findSecure env tunnel refhim rest

def findOurcid (ourcid : Nat) : List CallPtr → Act (Option CallPtr)
  | [] => return none
  | c :: rest => do
      let cal ← readCall c
      if cal.ourcid = ourcid then return some c else findOurcid ourcid rest

def getCall (env : Env) (tunnel call : Nat) (peer : SockAddr) (refhim : Nat) : Act (Option CallPtr) := do
  if tunnel = 0 then
    if call ≠ 0 then return none else addTunnel env peer refhim
  else do
    let d ← get
    match ← findSecure env tunnel refhim d.tunnels with
    | none => return none
    | some t => do
        let tun ← readTunnel t
        if call = 0 then return tun.self else findOurcid call tun.calls

def acknowledge (c : CallPtr) : Act PUnit := do
  let cal ← readCall c
  Prog.onlyWhen cal.cnu do
    controlZlb cal.container c
    setCall c fun cal => { cal with cnu := false }

def receiveOnCall (env : Env) (buf : RecvBuffer) (c : CallPtr) : Act PUnit := do
  let cal ← readCall c
  setTunnel cal.container fun tun => { tun with chalUs := { tun.chalUs with vector := none } }
  let _ ← handlePacket env buf cal.container c
  acknowledge c

def receiveOnTunnel (buf : RecvBuffer) (tunnel call : Nat) : Act PUnit := do
  match ← getTunnel tunnel with
  | none => return ()
  | some c => do
      let _ ← handleSpecial buf c call
      return ()

-- The part of network_thread that takes in one datagram.
def receive (env : Env) (peer : SockAddr) (refhim : Nat) (datagram : RecvBuffer) : Act PUnit := do
  if datagram.len < minPayloadHdrLen then return ()
  else do
    let buf := { datagram with mem := fixHdr datagram.mem }
    match ← getCall env (extract buf.mem).1 (extract buf.mem).2 peer refhim with
    | some c => receiveOnCall env buf c
    | none => receiveOnTunnel buf (extract buf.mem).1 (extract buf.mem).2

end ZyAgf.Xl2tpd
