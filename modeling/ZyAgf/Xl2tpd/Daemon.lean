import ZyAgf.Library.Run
import ZyAgf.Xl2tpd.Receive

set_option autoImplicit false

namespace ZyAgf.Xl2tpd

def Call.dueToClose (cal : Call) : Bool := xor cal.needclose cal.closing

-- The calls of a tunnel from the given one on. A call that is closed may leave
-- the list, so the scan starts over at its head.
def closeCalls (env : Env) (t : TunnelPtr) : Nat → List CallPtr → Act PUnit
  | 0, _ => Prog.wrong
  | _ + 1, [] => return ()
  | fuel + 1, c :: rest => do
      let cal ← readCall c
      if cal.dueToClose then do
        callClose env env.fuel c
        let tun ← readTunnel t
        closeCalls env t fuel tun.calls
      else closeCalls env t fuel rest

-- build_fdset, as far as it changes anything.
def closeTunnels (env : Env) : Nat → List TunnelPtr → Act PUnit
  | 0, _ => Prog.wrong
  | _ + 1, [] => return ()
  | fuel + 1, t :: rest => do
      let tun ← readTunnel t
      closeCalls env t env.fuel tun.calls
      let tun ← readTunnel t
      let self ← deref tun.self
      let me ← readCall self
      if me.dueToClose then do
        callClose env env.fuel self
        let d ← get
        closeTunnels env fuel d.tunnels
      else closeTunnels env fuel rest

def buildFdset (env : Env) : Act PUnit := do
  let d ← get
  closeTunnels env env.fuel d.tunnels

def runFunc (env : Env) : Func → Act PUnit
  | .hello t => hello env t
  | .controlXmit buf => controlXmit env env.fuel buf
  | .magicLacDial l => magicLacDial env l

-- One round of process_schedule's loop.
def processSchedule (env : Env) : Act PUnit := do
  let d ← get
  match d.events with
  | [] => return ()
  | entry :: rest =>
      if entry.tv.lessEq env.now then do
        modify fun d => { d with events := rest }
        runFunc env entry.func
      else return ()

def reapCalls (pid : Int) : List CallPtr → Act Bool
  | [] => return false
  | c :: rest => do
      let cal ← readCall c
      if cal.pppd = pid then do
        setCall c fun cal => { cal with needclose := true, fd := -1 }
        return true
      else reapCalls pid rest

def childHandler (pid : Int) : List TunnelPtr → Act PUnit
  | [] => return ()
  | t :: rest => do
      let tun ← readTunnel t
      let found ← reapCalls pid tun.calls
      Prog.onlyWhen (¬ found) (childHandler pid rest)

-- A frame that was read from pppd goes to the peer; a failed read ends the call.
def sendFrame (c : CallPtr) (frame : List UInt8) : Act PUnit := do
  let cal ← readCall c
  let tun ← readTunnel cal.container
  setCall c Call.sentPayload
  emit (.udp tun.peer (payloadHeader tun.tid cal.cid cal frame ++ frame))

def loseFrame (c : CallPtr) (message : CString) : Act PUnit :=
  setCall c fun cal => { cal with errormsg := message, needclose := true }

def openCall (c : CallPtr) : Act Bool := do
  let cal ← readCall c
  let tun ← readTunnel cal.container
  let d ← get
  return decide (0 ≤ cal.fd) && tun.calls.contains c && d.tunnels.contains cal.container

def lower (byte : UInt8) : UInt8 := if 65 ≤ byte ∧ byte ≤ 90 then byte + 32 else byte

def sameName (a b : CString) : Bool := a.map lower == b.map lower

def isSpace (byte : UInt8) : Bool := byte == 32 || (9 ≤ byte && byte ≤ 13)

def isDigit (byte : UInt8) : Bool := 48 ≤ byte && byte ≤ 57

def digits (bytes : CString) : Nat := (bytes.takeWhile isDigit).foldl (fun n byte => 10 * n + (byte.toNat - 48)) 0

def atoi (bytes : CString) : Int :=
  match bytes.dropWhile isSpace with
  | 45 :: rest => -digits rest
  | 43 :: rest => digits rest
  | rest => digits rest

def findLac (name : CString) : List LacPtr → Act (Option LacPtr)
  | [] => return none
  | l :: rest => do
      let lac ← readLac l
      if sameName lac.entname name then return some l else findLac name rest

def findLns (name : CString) : List LnsPtr → Act (Option LnsPtr)
  | [] => return none
  | l :: rest => do
      let lns ← readLns l
      if sameName lns.entname name then return some l else findLns name rest

def overwrite (field : CString) : Option CString → CString
  | some given => given
  | none => field

def udpListenPort : U16 := 1701

def dialEntry (env : Env) (l : LacPtr) : Act PUnit := do
  let lac ← readLac l
  Prog.onlyWhen (lac.c = none) (magicLacDial env l)

def callByNumber (env : Env) (name : CString) : Act PUnit :=
  Prog.onlyWhen (0 < atoi name) do
    let _ ← lacCall env (atoi name).toNat none
    return ()

def controlHandleLacConnect (env : Env) (name : CString) (authname password : Option CString) : Act PUnit := do
  modify fun d => { d with switchIo := true }
  let d ← get
  match ← findLac name d.laclist with
  | some l => do
      setLac l fun lac =>
        { lac with
          active := true
          rtries := 0
          ppp := { lac.ppp with authname := overwrite lac.ppp.authname authname }
          password := overwrite lac.password password }
      dialEntry env l
  | none => callByNumber env name

def controlHandleLacOutgoingCall (env : Env) (name number : CString) : Act PUnit := do
  modify fun d => { d with switchIo := false, dialNoTmp := number }
  let d ← get
  match ← findLac name d.laclist with
  | some l => do
      setLac l fun lac => { lac with active := true, rtries := 0 }
      dialEntry env l
  | none => callByNumber env name

def hangupCall (ourcid : Nat) : List TunnelPtr → Act PUnit
  | [] => return ()
  | t :: rest => do
      let tun ← readTunnel t
      match ← findOurcid ourcid tun.calls with
      | none => hangupCall ourcid rest
      | some c => do
          setCall c fun cal => { cal with errormsg := text "Goodbye!" }
          let cal ← readCall c
          emit (.kill cal.pppd)

def lacHangup (ourcid : Nat) : Act PUnit := do
  let d ← get
  hangupCall ourcid d.tunnels

def lacDisconnect (env : Env) (tid : Nat) : Act PUnit := do
  let d ← get
  match ← findTunnel tid d.tunnels with
  | none => return ()
  | some t => do
      let tun ← readTunnel t
      let self ← deref tun.self
      setCall self fun cal => { cal with needclose := true, errormsg := text "Goodbye!" }
      callClose env env.fuel self

def disconnectEntry (env : Env) (l : LacPtr) : Act PUnit := do
  setLac l fun lac => { lac with active := false, rtries := 0 }
  let lac ← readLac l
  match lac.t with
  | none => return ()
  | some t => do
      let tun ← readTunnel t
      lacDisconnect env tun.ourtid

def controlHandleLacDisconnect (env : Env) (name : CString) : Act PUnit := do
  let d ← get
  match ← findLac name d.laclist with
  | some l => disconnectEntry env l
  | none => Prog.onlyWhen (0 < atoi name) (lacDisconnect env (atoi name).toNat)

def controlHandleLacAddModify (env : Env) (entry : Lac) (autodial : Bool) : Act PUnit := do
  let d ← get
  match ← findLac entry.entname d.laclist with
  | some _ => return ()
  | none => do
      modify fun d =>
        { d with
          lac := write d.lac d.fresh
            { entry with live := true, rsched := false, active := autodial, rtries := 0, t := none, c := none }
          laclist := d.fresh :: d.laclist
          fresh := d.fresh + 1
          switchIo := d.switchIo || autodial }
      Prog.onlyWhen autodial (magicLacDial env d.fresh)

-- Every call from the entry's own on forgets it, to the end of its tunnel's list.
def forgetLac : List CallPtr → Act PUnit
  | [] => return ()
  | c :: rest => do
      setCall c fun cal => { cal with lac := none }
      forgetLac rest

def callsFrom (c : CallPtr) : Act (List CallPtr) := do
  let cal ← readCall c
  let tun ← readTunnel cal.container
  return tun.calls.dropWhile (· ≠ c)

def detachTunnel : Option TunnelPtr → Act PUnit
  | none => return ()
  | some t => do
      setTunnel t fun tun => { tun with lac := none }
      let tun ← readTunnel t
      let self ← deref tun.self
      setCall self fun cal => { cal with lac := none }

def detachCalls : Option CallPtr → Act PUnit
  | none => return ()
  | some c => do
      let calls ← callsFrom c
      forgetLac calls

def controlHandleLacRemove (env : Env) (name : CString) : Act PUnit := do
  let d ← get
  match ← findLac name d.laclist with
  | none => return ()
  | some l => do
      disconnectEntry env l
      let lac ← readLac l
      detachTunnel lac.t
      let lac ← readLac l
      detachCalls lac.c
      modify fun d => { d with laclist := d.laclist.erase l }
      setLac l fun lac => { lac with live := false }

def entnameSize : Nat := 100

def defaultRwsSize : Int := 4
def defaultBps : Int := 10000000

def newAuth : PppAuth where
  authself := true
  authpeer := false
  papRefuse := false
  chapRefuse := false
  papRequire := false
  chapRequire := false
  authname := []
  debug := false
  pppoptfile := []
  passPeer := false

-- new_lns, where there is memory.
def newLns : Lns where
  live := true
  entname := []
  localaddr := 0
  tunRws := defaultRwsSize
  rxspeed := defaultBps
  txspeed := defaultBps
  hbit := false
  lbit := false
  challenge := false
  peername := []
  hostname := []
  lacs := []
  range := []
  localrange := []
  assignIp := true
  passwdauth := false
  ppp := newAuth
  t := none

-- What parse_one_line makes of an entry. No option is its name or its tunnel.
def optioned (options : Lns → Lns) (lns : Lns) : Lns :=
  { options lns with live := lns.live, entname := lns.entname, t := lns.t }

def findLnsByName (name : CString) : Act (Option LnsPtr) := do
  let d ← get
  if name = text "default" then return d.deflns else findLns name d.lnslist

-- The options change the entry that is there, or else the new one.
def controlHandleLnsAddModify (name : CString) (options : Lns → Lns) : Act PUnit := do
  match ← findLnsByName name with
  | some l => setLns l (optioned options)
  | none =>
      modify fun d =>
        { d with
          lns := write d.lns d.fresh (optioned options { newLns with entname := name.take entnameSize })
          lnslist := d.fresh :: d.lnslist
          fresh := d.fresh + 1 }

def closeEach (env : Env) : List CallPtr → Act PUnit
  | [] => return ()
  | c :: rest => do
      callClose env env.fuel c
      let _ ← readCall c
      closeEach env rest

def closeServed (env : Env) (l : LnsPtr) : List TunnelPtr → Act PUnit
  | [] => return ()
  | t :: rest => do
      let tun ← readTunnel t
      Prog.onlyWhen (tun.lns = some l) (closeEach env tun.calls)
      let _ ← readTunnel t
      closeServed env l rest

def controlHandleLnsRemove (env : Env) (name : CString) : Act PUnit := do
  let d ← get
  match ← findLns name d.lnslist with
  | none => return ()
  | some l => do
      closeServed env l d.tunnels
      modify fun d => { d with lnslist := d.lnslist.erase l }
      setLns l fun lns => { lns with live := false }

-- The commands of the control pipe, with their arguments taken apart.
inductive Command where
  | tunnel (host : CString)
  | lacConnect (name : CString) (authname password : Option CString)
  | lacOutgoingCall (name number : CString)
  | lacHangup (ourcid : Nat)
  | lacDisconnect (name : CString)
  | lacAddModify (entry : Lac) (autodial : Bool)
  | lacRemove (name : CString)
  | lnsAddModify (name : CString) (options : Lns → Lns)
  | lnsRemove (name : CString)

def doControl (env : Env) : Command → Act PUnit
  | .tunnel host => do
      let _ ← l2tpCall env host udpListenPort none
      return ()
  | .lacConnect name authname password => controlHandleLacConnect env name authname password
  | .lacOutgoingCall name number => controlHandleLacOutgoingCall env name number
  | .lacHangup ourcid => lacHangup ourcid
  | .lacDisconnect name => controlHandleLacDisconnect env name
  | .lacAddModify entry autodial => controlHandleLacAddModify env entry autodial
  | .lacRemove name => controlHandleLacRemove env name
  | .lnsAddModify name options => controlHandleLnsAddModify name options
  | .lnsRemove name => controlHandleLnsRemove env name

def autodial (env : Env) (l : LacPtr) : Act PUnit := do
  let d ← get
  Prog.onlyWhen (l ∈ d.laclist) do
    setLac l fun lac => { lac with active := true }
    modify fun d => { d with switchIo := true }
    magicLacDial env l

-- What the main loop of network_thread does next, and the dialling at the start.
inductive Occurrence where
  | autodial (l : LacPtr)
  | fdset
  | timer
  | datagram (peer : SockAddr) (refhim : Nat) (datagram : RecvBuffer)
  | command (command : Command)
  | child (pid : Int)
  | frame (c : CallPtr) (frame : List UInt8)
  | frameLost (c : CallPtr) (message : CString)

structure Event where
  world : World
  occurs : Occurrence

def handle (env : Env) : Occurrence → Act PUnit
  | .autodial l => autodial env l
  | .fdset => buildFdset env
  | .timer => processSchedule env
  | .datagram peer refhim datagram => receive env peer refhim datagram
  | .command command => doControl env command
  | .child pid => do
      let d ← get
      Prog.onlyWhen (0 < pid) (childHandler pid d.tunnels)
  | .frame c frame => do
      let watched ← openCall c
      Prog.onlyWhen watched (sendFrame c frame)
  | .frameLost c message => do
      let watched ← openCall c
      Prog.onlyWhen watched (loseFrame c message)

def next (cfg : Config) (d : Daemon) (event : Event) : Option Daemon :=
  (handle { toConfig := cfg, toWorld := event.world } event.occurs d).map Prod.snd

def noTunnel : Tunnel := { Tunnel.created 0 with live := false }

def noCall : Call := { Call.created 0 noTunnel 0 with live := false }

def noAuth : PppAuth := ⟨false, false, false, false, false, false, [], false, [], false⟩

def noLns : Lns where
  live := false
  entname := []
  localaddr := 0
  tunRws := 0
  rxspeed := 0
  txspeed := 0
  hbit := false
  lbit := false
  challenge := false
  peername := []
  hostname := []
  lacs := []
  range := []
  localrange := []
  assignIp := false
  passwdauth := false
  ppp := noAuth
  t := none

def noLac : Lac where
  live := false
  entname := []
  lns := []
  rsched := false
  tunRws := 0
  rxspeed := 0
  txspeed := 0
  active := false
  hbit := false
  lbit := false
  challenge := false
  localaddr := 0
  remoteaddr := 0
  password := []
  peername := []
  hostname := []
  ppp := noAuth
  defaultroute := false
  redial := false
  rmax := 0
  rtries := 0
  rtimeout := 0
  t := none
  c := none

def entriesFrom {α : Type} (first : Nat) (entries : List α) (absent : α) : Nat → α := fun address =>
  if first ≤ address then entries.getD (address - first) absent else absent

-- The daemon as its configuration file leaves it: the default entries first,
-- and no tunnel. Entries are numbered from zero.
def initDaemon (deflns : Option Lns) (lnslist : List Lns) (deflac : Option Lac) (laclist : List Lac) : Daemon :=
  let lnses := (deflns.toList ++ lnslist).map fun lns => { lns with live := true, t := none }
  let lacs := (deflac.toList ++ laclist).map fun lac =>
    { lac with live := true, rsched := false, rtries := 0, t := none, c := none }
  { tunnel := fun _ => noTunnel
    call := fun _ => noCall
    lns := entriesFrom 0 lnses noLns
    lac := entriesFrom 0 lacs noLac
    tunnels := []
    lnslist := (List.range lnslist.length).map (· + deflns.toList.length)
    deflns := deflns.map fun _ => 0
    laclist := (List.range laclist.length).map (· + deflac.toList.length)
    deflac := deflac.map fun _ => 0
    uaddr := []
    events := []
    globalSerno := 1
    switchIo := false
    dialNoTmp := []
    fresh := max lnses.length lacs.length
    drawn := 0
    out := [] }

def plainConfig : Config where
  hostname := text "lns"
  maxRetries := 5
  ipsecsaref := false
  accesscontrol := false
  kernelSupport := false
  md5 := fun _ => noDigest

def plainWorld : World where
  now := ⟨0, 0⟩
  entropy := fun i => UInt8.ofNat (i + 1)
  secretFor := fun _ _ => none
  resolve := fun _ => some 1
  tunnelMemory := true
  callMemory := true
  challengeMemory := true
  tunnelSockets := (none, none)
  passwordPipe := none
  ptyMaster := 3
  pppReady := true
  pppPid := 100
  ptyWrite := true
  fuel := 8

def plainEnv : Env := { toConfig := plainConfig, toWorld := plainWorld }

def controlFrame (tid cid Ns Nr : U16) (body : List UInt8) : Occurrence :=
  .datagram ⟨1, udpListenPort⟩ 0
    ⟨ControlHdr.wire ⟨0xC802, BitVec.ofNat 16 (controlHdrSize + body.length), tid, cid, Ns, Nr⟩ ++ body,
      controlHdrSize + body.length⟩

end ZyAgf.Xl2tpd
