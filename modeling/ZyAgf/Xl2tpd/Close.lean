import ZyAgf.Xl2tpd.State

set_option autoImplicit false

namespace ZyAgf.Xl2tpd

def Timeval.less (a b : Timeval) : Bool := if a.sec = b.sec then a.usec < b.usec else a.sec < b.sec

def Timeval.lessEq (a b : Timeval) : Bool := if a.sec = b.sec then a.usec ≤ b.usec else a.sec ≤ b.sec

def Timeval.after (now diff : Timeval) : Timeval :=
  let sum : Timeval := ⟨now.sec + diff.sec, now.usec + diff.usec⟩
  if sum.usec > 1000000 then ⟨sum.sec + 1, sum.usec - 1000000⟩ else sum

-- The queue is kept in order of time; an entry goes behind its equals.
def insertEntry (entry : ScheduleEntry) (queue : List ScheduleEntry) : List ScheduleEntry :=
  queue.takeWhile (fun p => !entry.tv.less p.tv) ++ entry :: queue.dropWhile (fun p => !entry.tv.less p.tv)

def schedule (env : Env) (tv : Timeval) (func : Func) : Act PUnit :=
  modify fun d => { d with events := insertEntry ⟨env.now.after tv, func⟩ d.events }

-- The events of a tunnel: its Hello, and every control message it still waits
-- to have acknowledged.
def Func.isFor (t : TunnelPtr) : Func → Bool
  | .hello owner => owner == t
  | .controlXmit buf => buf.tunnel == some t
  | .magicLacDial _ => false

def descheduleTunnel (t : TunnelPtr) : Act PUnit :=
  modify fun d => { d with events := d.events.filter fun entry => !entry.func.isFor t }

-- An AVP is a header with the M bit and the whole length, a vendor id of zero,
-- an attribute number and its value.
def avp (mandatory : Bool) (attr : Nat) (value : List UInt8) : List UInt8 :=
  wordBytes (BitVec.ofNat 16 (avpHdrSize + value.length + if mandatory then 0x8000 else 0)) ++ [0, 0] ++
    wordBytes (BitVec.ofNat 16 attr) ++ value

def shortAvp (mandatory : Bool) (attr : Nat) (value : Int) : List UInt8 :=
  avp mandatory attr (wordBytes (BitVec.ofInt 16 value))

def longAvp (mandatory : Bool) (attr : Nat) (value : Int) : List UInt8 :=
  avp mandatory attr (longBytes (BitVec.ofInt 32 value).toNat)

def addMessageTypeAvp (type : Msg) : List UInt8 := shortAvp true 0 type.code
def addResultCodeAvp (result error : Int) (msg : CString) : List UInt8 :=
  avp true 1 (wordBytes (BitVec.ofInt 16 result) ++ wordBytes (BitVec.ofInt 16 error) ++ msg)
def addProtocolAvp : List UInt8 := shortAvp true 2 0x100
def addFrameCapsAvp (caps : Int) : List UInt8 := avp true 3 ([0, 0] ++ wordBytes (BitVec.ofInt 16 caps))
def addBearerCapsAvp (caps : Int) : List UInt8 := avp true 4 ([0, 0] ++ wordBytes (BitVec.ofInt 16 caps))
def addFirmwareAvp : List UInt8 := shortAvp false 6 0x0690
def addHostnameAvp (name : CString) : List UInt8 := avp true 7 (name.take (1023 - 6))
def addVendorAvp : List UInt8 := avp false 8 (text "xelerance.com")
def addTunnelidAvp (tid : Nat) : List UInt8 := shortAvp true 9 tid
def addAvpRws (rws : Int) : List UInt8 := shortAvp true 10 rws
def addChallengeAvp (challenge : List UInt8) : List UInt8 := avp true 11 challenge
def addChalrespAvp (response : Vector UInt8 16) : List UInt8 := avp true 13 response.toList
def addCallidAvp (callid : Nat) : List UInt8 := shortAvp true 14 callid
def addSernoAvp (serno : Nat) : List UInt8 := longAvp true 15 serno
def addMinbpsAvp (speed : Int) : List UInt8 := longAvp true 16 speed
def addMaxbpsAvp (speed : Int) : List UInt8 := longAvp true 17 speed
def addBearerAvp (bearer : Int) : List UInt8 := longAvp true 18 bearer
def addFrameAvp (frame : Int) : List UInt8 := longAvp true 19 frame
def addNumberAvp (number : CString) : List UInt8 := avp true 21 number
def addTxspeedAvp (speed : Int) : List UInt8 := longAvp true 24 speed
def addRandvectAvp (vector : List UInt8) : List UInt8 := avp true 36 vector
def addRxspeedAvp (speed : Int) : List UInt8 := longAvp false 38 speed

-- The Random Vector a tunnel that hides AVPs starts its messages with.
def addRandvect (env : Env) (t : TunnelPtr) : Act (List UInt8) := do
  let tun ← readTunnel t
  if tun.hbit then
    let vector ← getEntropy env vectorSize
    setTunnel t fun tun => { tun with chalThem := { tun.chalThem with vector := some vector } }
    return addRandvectAvp vector
  else return []

def newOutgoing (t : TunnelPtr) (body : List UInt8) : Act Buffer := do
  let tun ← readTunnel t
  return ⟨tun.peer, ⟨0, 0, 0, 0, 0, 0⟩, body, 0, some t⟩

def addControlHdr (t : TunnelPtr) (c : CallPtr) (buf : Buffer) : Act Buffer := do
  let tun ← readTunnel t
  let cal ← readCall c
  setTunnel t fun tun => { tun with controlSeqNum := tun.controlSeqNum + 1 }
  return { buf with
    hdr := ⟨0xC802, BitVec.ofNat 16 (controlHdrSize + buf.body.length), BitVec.ofInt 16 tun.tid,
      BitVec.ofInt 16 cal.cid,
      tun.controlSeqNum, tun.controlRecSeqNum⟩ }

def udpXmit (buf : Buffer) (t : TunnelPtr) : Act PUnit := do
  let _ ← readTunnel t
  emit (.udp buf.peer buf.wire)

def controlZlb (t : TunnelPtr) (c : CallPtr) : Act PUnit := do
  let tun ← readTunnel t
  let buf ← addControlHdr t c ⟨tun.peer, ⟨0, 0, 0, 0, 0, 0⟩, [], -1, none⟩
  setTunnel t fun tun => { tun with controlSeqNum := tun.controlSeqNum - 1 }
  udpXmit buf t

-- Addresses are kept in host order, so ntohl and htonl cancel.
def ipUsed (uaddr : List Nat) (addr : Nat) : Bool := uaddr.contains addr

def reserveAddr (addr : Nat) : Act PUnit :=
  modify fun d => if ipUsed d.uaddr addr then d else { d with uaddr := addr :: d.uaddr }

def unreserveAddr (addr : Nat) : Act PUnit :=
  modify fun d => { d with uaddr := d.uaddr.filter (· ≠ addr) }

def redialLater (env : Env) (l : LacPtr) : Act PUnit := do
  let lac ← readLac l
  Prog.onlyWhen (lac.redial ∧ 0 < lac.rtimeout ∧ ¬ lac.rsched ∧ lac.active) do
    schedule env ⟨lac.rtimeout, 0⟩ (.magicLacDial l)
    setLac l fun lac => { lac with rsched := true }

def unreserveLocal : Option LnsPtr → Act PUnit
  | none => pure ()
  | some l => do
      let lns ← readLns l
      Prog.onlyWhen (lns.localrange ≠ []) (unreserveAddr lns.localaddr)

def leaveLac (env : Env) (change : Lac → Lac) : Option LacPtr → Act PUnit
  | none => pure ()
  | some l => do
      setLac l change
      redialLater env l

def leaveLns : Option LnsPtr → Act PUnit
  | none => pure ()
  | some l => setLns l fun lns => { lns with t := none }

def destroyCall (env : Env) (c : CallPtr) : Act PUnit := do
  let cal ← readCall c
  Prog.onlyWhen (cal.addr ≠ 0) (unreserveAddr cal.addr)
  unreserveLocal cal.lns
  Prog.onlyWhen (0 < cal.pppd) (emit (.kill cal.pppd))
  setTunnel cal.container fun tun => { tun with calls := tun.calls.erase c }
  leaveLac env (fun lac => { lac with c := none }) cal.lac
  setCall c fun cal => { cal with live := false, fd := -1, pppd := 0 }

def destroyTunnel (env : Env) (t : TunnelPtr) : Act PUnit := do
  let tun ← readTunnel t
  tun.calls.forM (destroyCall env)
  modify fun d => { d with tunnels := d.tunnels.erase t }
  leaveLac env (fun lac => { lac with t := none }) tun.lac
  leaveLns tun.lns
  let me ← deref tun.self
  destroyCall env me
  setTunnel t fun tun => { tun with live := false }

-- The error a closing message reports, with the defaults filled in.
def closingResult (c : CallPtr) : Act (List UInt8) := do
  setCall c fun cal =>
    { cal with result := if cal.result < 0 then resultClear else cal.result, error := max cal.error 0 }
  let cal ← readCall c
  return addResultCodeAvp cal.result cal.error cal.errormsg

def stopCCNBody (env : Env) (t : TunnelPtr) (c : CallPtr) : Act (List UInt8) := do
  let vector ← addRandvect env t
  let tun ← readTunnel t
  let result ← closingResult c
  return addMessageTypeAvp .StopCCN ++ vector ++ addTunnelidAvp tun.ourtid ++ result

def cdnBody (env : Env) (t : TunnelPtr) (c : CallPtr) : Act (List UInt8) := do
  let vector ← addRandvect env t
  let result ← closingResult c
  let cal ← readCall c
  return addMessageTypeAvp .CDN ++ vector ++ result ++ addCallidAvp cal.ourcid

def noteCloseSs (t : TunnelPtr) (c : CallPtr) : Act PUnit := do
  let tun ← readTunnel t
  setCall c fun cal => { cal with closeSs := tun.controlSeqNum }

-- A closed tunnel's exhausted message closes the tunnel, and closing sends a
-- message. The depth bounds how often the two call each other.
mutual
def controlXmit (env : Env) : Nat → Buffer → Act PUnit
  | 0, _ => Prog.wrong
  | depth + 1, queued => do
      let buf := { queued with retries := queued.retries + 1 }
      match queued.tunnel with
      | none => if env.maxRetries < buf.retries then return () else Prog.wrong
      | some t => do
          let tun ← readTunnel t
          -- int ns < int cLr: a plain comparison of two sixteen-bit counters.
          if queued.hdr.Ns.toNat < tun.cLr.toNat then return ()
          else if env.maxRetries < buf.retries then do
            let self ← deref tun.self
            setCall self fun cal =>
              if cal.needclose then { cal with needclose := false, closing := true }
              else { cal with needclose := true, errormsg := text "Timeout" }
            callClose env depth self
          else do
            schedule env ⟨2 ^ min (buf.retries - 1).toNat 31, 0⟩ (.controlXmit buf)
            udpXmit buf t
def callClose (env : Env) : Nat → CallPtr → Act PUnit
  | 0, _ => Prog.wrong
  | depth + 1, c => do
      let cal ← readCall c
      let t := cal.container
      let tun ← readTunnel t
      if tun.self = some c then do
        descheduleTunnel t
        if cal.closing then destroyTunnel env t
        else do
          noteCloseSs t c
          let body ← stopCCNBody env t c
          let buf ← newOutgoing t body
          let buf ← addControlHdr t c buf
          controlXmit env depth buf
          let tun ← readTunnel t
          tun.calls.forM fun tmp => do
            setCall tmp fun cal => { cal with needclose := false, closing := true }
            callClose env depth tmp
          setCall c fun cal => { cal with closing := true }
      else if cal.closing then destroyCall env c
      else do
        noteCloseSs t c
        let body ← cdnBody env t c
        let buf ← newOutgoing t body
        let buf ← addControlHdr t c buf
        controlXmit env depth buf
        setCall c fun cal => { cal with closing := true }
end

def sendControl (env : Env) (t : TunnelPtr) (c : CallPtr) (body : List UInt8) : Act PUnit := do
  let buf ← newOutgoing t body
  let buf ← addControlHdr t c buf
  setCall c fun cal => { cal with cnu := false }
  controlXmit env env.fuel buf

def helloDelay : Timeval := ⟨60, 0⟩

def hello (env : Env) (t : TunnelPtr) : Act PUnit := do
  let buf ← newOutgoing t (addMessageTypeAvp .Hello)
  let tun ← readTunnel t
  let self ← deref tun.self
  let buf ← addControlHdr t self buf
  controlXmit env env.fuel buf
  schedule env helloDelay (.hello t)

end ZyAgf.Xl2tpd
