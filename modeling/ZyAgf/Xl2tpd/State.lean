import Mathlib.Data.List.Basic
import ZyAgf.Library.Prog
import ZyAgf.Library.Store
import ZyAgf.Xl2tpd.Wire

set_option autoImplicit false

namespace ZyAgf.Xl2tpd

abbrev TunnelPtr := Nat
abbrev CallPtr := Nat
abbrev LnsPtr := Nat
abbrev LacPtr := Nat

structure Timeval where
  sec : Int
  usec : Int
deriving DecidableEq, Repr

structure SockAddr where
  addr : Nat
  port : U16
deriving DecidableEq, Repr

structure Challenge where
  ss : UInt8
  secret : CString
  challenge : List UInt8
  response : Vector UInt8 16
  reply : Vector UInt8 16
  vector : Option (List UInt8)
  challenged : Bool
deriving DecidableEq, Repr

def noDigest : Vector UInt8 16 := Vector.replicate 16 0

def Challenge.zero : Challenge := ⟨0, [], [], noDigest, noDigest, none, false⟩

structure Tunnel where
  live : Bool
  calls : List CallPtr
  fc : Int
  ourfc : Int
  bc : Int
  ourbc : Int
  hbit : Bool
  tid : Int
  refhim : Nat
  ourtid : Nat
  qtid : Int
  firmware : Int
  peer : SockAddr
  state : Option Msg
  controlSeqNum : U16
  controlRecSeqNum : U16
  cLr : U16
  sanity : Bool
  rws : Int
  ourrws : Int
  rxspeed : Int
  txspeed : Int
  udpFd : Int
  pppoxFd : Int
  self : Option CallPtr
  lns : Option LnsPtr
  lac : Option LacPtr
  hostname : CString
  vendor : CString
  chalUs : Challenge
  chalThem : Challenge
deriving DecidableEq, Repr

structure Call where
  live : Bool
  lbit : Bool
  seqReqd : Bool
  state : Option Msg
  frame : Int
  msgtype : Int
  ourcid : Nat
  cid : Int
  qcid : Int
  bearer : Int
  serno : Nat
  addr : Nat
  txspeed : Nat
  rxspeed : Nat
  ppd : Int
  physchan : Int
  dialed : CString
  dialing : CString
  subaddy : CString
  needclose : Bool
  closing : Bool
  container : TunnelPtr
  fd : Int
  pppd : Int
  result : Int
  error : Int
  fbit : Bool
  ourfbit : Bool
  cnu : Bool
  errormsg : CString
  dataSeqNum : U16
  dataRecSeqNum : U16
  closeSs : U16
  pLr : Int
  lns : Option LnsPtr
  lac : Option LacPtr
  dialNo : CString
deriving DecidableEq, Repr

structure IpRange where
  start : Nat
  stop : Nat
  allow : Bool
deriving DecidableEq, Repr

structure Host where
  hostname : CString
  port : U16
deriving DecidableEq, Repr

-- What an LNS and a LAC entry both say about authenticating the PPP session.
structure PppAuth where
  authself : Bool
  authpeer : Bool
  papRefuse : Bool
  chapRefuse : Bool
  papRequire : Bool
  chapRequire : Bool
  authname : CString
  debug : Bool
  pppoptfile : CString
  passPeer : Bool
deriving DecidableEq, Repr

structure Lns where
  live : Bool
  entname : CString
  localaddr : Nat
  tunRws : Int
  rxspeed : Int
  txspeed : Int
  hbit : Bool
  lbit : Bool
  challenge : Bool
  peername : CString
  hostname : CString
  lacs : List IpRange
  range : List IpRange
  localrange : List IpRange
  assignIp : Bool
  passwdauth : Bool
  ppp : PppAuth
  t : Option TunnelPtr
deriving DecidableEq, Repr

structure Lac where
  live : Bool
  entname : CString
  lns : List Host
  rsched : Bool
  tunRws : Int
  rxspeed : Int
  txspeed : Int
  active : Bool
  hbit : Bool
  lbit : Bool
  challenge : Bool
  localaddr : Nat
  remoteaddr : Nat
  password : CString
  peername : CString
  hostname : CString
  ppp : PppAuth
  defaultroute : Bool
  redial : Bool
  rmax : Int
  rtries : Int
  rtimeout : Int
  t : Option TunnelPtr
  c : Option CallPtr
deriving DecidableEq, Repr

-- An outgoing control message. Its header is filled in when it is complete.
structure Buffer where
  peer : SockAddr
  hdr : ControlHdr
  body : List UInt8
  retries : Int
  tunnel : Option TunnelPtr
deriving DecidableEq, Repr

def Buffer.wire (buf : Buffer) : List UInt8 := buf.hdr.wire ++ buf.body

-- The functions that are ever scheduled, with their data.
inductive Func where
  | hello (t : TunnelPtr)
  | controlXmit (buf : Buffer)
  | magicLacDial (lac : LacPtr)
deriving DecidableEq, Repr

structure ScheduleEntry where
  tv : Timeval
  func : Func
deriving DecidableEq, Repr

inductive Output where
  | udp (dest : SockAddr) (datagram : List UInt8)
  | pppd (c : CallPtr) (options : List CString)
  | kill (pid : Int)
  | pty (c : CallPtr) (frame : List UInt8)
deriving DecidableEq, Repr

-- Addresses below fresh have been handed out by calloc; they are not reused.
structure Daemon where
  tunnel : TunnelPtr → Tunnel
  call : CallPtr → Call
  lns : LnsPtr → Lns
  lac : LacPtr → Lac
  tunnels : List TunnelPtr
  lnslist : List LnsPtr
  deflns : Option LnsPtr
  laclist : List LacPtr
  deflac : Option LacPtr
  uaddr : List Nat
  events : List ScheduleEntry
  globalSerno : Nat
  switchIo : Bool
  dialNoTmp : CString
  fresh : Nat
  drawn : Nat
  out : List Output

structure Config where
  hostname : CString
  maxRetries : Int
  ipsecsaref : Bool
  accesscontrol : Bool
  kernelSupport : Bool
  md5 : List UInt8 → Vector UInt8 16

-- The world around the daemon, which may answer differently at every event. Its
-- fuel bounds the loops of one event, and is as much as that event needs.
structure World where
  now : Timeval
  entropy : Nat → UInt8
  secretFor : CString → CString → Option CString
  resolve : CString → Option Nat
  tunnelMemory : Bool
  callMemory : Bool
  challengeMemory : Bool
  tunnelSockets : Option Int × Option Int
  passwordPipe : Option Nat
  ptyMaster : Int
  pppReady : Bool
  pppPid : Int
  ptyWrite : Bool
  fuel : Nat

structure Env extends Config, World

abbrev Act := Prog Daemon

def einval : Int := -22
def enomem : Int := -12
def eio : Int := -5

def resultClear : Int := 1
def resultError : Int := 2
def errorLength : Int := 2
def errorReserved : Int := 3
def errorNores : Int := 4
def errorInvalid : Int := 6
def vendorError : Int := 6

def asyncFraming : Int := 2
def syncFraming : Int := 1

-- Every access goes through a pointer to a live record; anything else is
-- undefined behaviour, and nothing is said about what follows it.
def readTunnel (t : TunnelPtr) : Act Tunnel := do
  let d ← get
  if (d.tunnel t).live then return d.tunnel t else Prog.wrong

def readCall (c : CallPtr) : Act Call := do
  let d ← get
  if (d.call c).live then return d.call c else Prog.wrong

def readLns (l : LnsPtr) : Act Lns := do
  let d ← get
  if (d.lns l).live then return d.lns l else Prog.wrong

def readLac (l : LacPtr) : Act Lac := do
  let d ← get
  if (d.lac l).live then return d.lac l else Prog.wrong

def deref {α : Type} : Option α → Act α
  | none => Prog.wrong
  | some p => return p

def setTunnel (t : TunnelPtr) (change : Tunnel → Tunnel) : Act PUnit := do
  let tun ← readTunnel t
  modify fun d => { d with tunnel := write d.tunnel t (change tun) }

def setCall (c : CallPtr) (change : Call → Call) : Act PUnit := do
  let cal ← readCall c
  modify fun d => { d with call := write d.call c (change cal) }

def setLns (l : LnsPtr) (change : Lns → Lns) : Act PUnit := do
  let entry ← readLns l
  modify fun d => { d with lns := write d.lns l (change entry) }

def setLac (l : LacPtr) (change : Lac → Lac) : Act PUnit := do
  let entry ← readLac l
  modify fun d => { d with lac := write d.lac l (change entry) }

def emit (output : Output) : Act PUnit :=
  modify fun d => { d with out := d.out ++ [output] }

-- vsnprintf into errormsg, with the newline at its end dropped.
def errorText (message : CString) : CString :=
  let cut := message.take (maxStrLen - 1)
  if cut.getLast? = some 10 then cut.dropLast else cut

def setError (c : CallPtr) (error : Int) (message : CString) : Act PUnit :=
  setCall c fun cal =>
    { cal with error := error, result := resultError, needclose := true, errormsg := errorText message }

-- Reading the entropy source; count bytes of it.
def getEntropy (env : Env) (count : Nat) : Act (List UInt8) := do
  let d ← get
  modify fun d => { d with drawn := d.drawn + count }
  return (List.range count).map fun i => env.entropy (d.drawn + i)

def getEntropy16 (env : Env) : Act Nat := do
  let bytes ← getEntropy env 2
  return (hostWord bytes 0).toNat

theorem checked_some {α : Type} (live : Daemon → Bool) (value : Daemon → α) (d d' : Daemon) (a : α) :
    (do let d ← get; if live d then return value d else Prog.wrong : Act α) d = some (a, d') ↔
      live d = true ∧ a = value d ∧ d' = d := by
  simp only [Prog.bind_some, Prog.get_some]
  constructor
  · rintro ⟨_, _, ⟨rfl, rfl⟩, read⟩
    split at read
    next live =>
      obtain ⟨rfl, rfl⟩ := (Prog.pure_some _ _ _ _).mp read
      exact ⟨live, rfl, rfl⟩
    next => exact ((Prog.wrong_some _ _ _).mp read).elim
  · rintro ⟨live, rfl, rfl⟩
    exact ⟨_, _, ⟨rfl, rfl⟩, by rw [if_pos live]; rfl⟩

theorem readTunnel_some (t : TunnelPtr) (d d' : Daemon) (tun : Tunnel) :
    readTunnel t d = some (tun, d') ↔ (d.tunnel t).live = true ∧ tun = d.tunnel t ∧ d' = d :=
  checked_some (fun d => (d.tunnel t).live) (fun d => d.tunnel t) d d' tun

theorem readCall_some (c : CallPtr) (d d' : Daemon) (cal : Call) :
    readCall c d = some (cal, d') ↔ (d.call c).live = true ∧ cal = d.call c ∧ d' = d :=
  checked_some (fun d => (d.call c).live) (fun d => d.call c) d d' cal

theorem readLns_some (l : LnsPtr) (d d' : Daemon) (lns : Lns) :
    readLns l d = some (lns, d') ↔ (d.lns l).live = true ∧ lns = d.lns l ∧ d' = d :=
  checked_some (fun d => (d.lns l).live) (fun d => d.lns l) d d' lns

theorem readLac_some (l : LacPtr) (d d' : Daemon) (lac : Lac) :
    readLac l d = some (lac, d') ↔ (d.lac l).live = true ∧ lac = d.lac l ∧ d' = d :=
  checked_some (fun d => (d.lac l).live) (fun d => d.lac l) d d' lac

theorem updated_some {α : Type} {live : Daemon → Bool} {value : Daemon → α} (read : Act α)
    (reads : ∀ d d' a, read d = some (a, d') ↔ live d = true ∧ a = value d ∧ d' = d) (update : Daemon → α → Daemon)
    (d d' : Daemon) (u : PUnit) :
    (do let a ← read; modify fun d => update d a : Act PUnit) d = some (u, d') ↔
      live d = true ∧ d' = update d (value d) := by
  simp only [Prog.bind_some, reads, Prog.modify_some]
  constructor
  · rintro ⟨_, _, ⟨live, rfl, rfl⟩, rfl⟩
    exact ⟨live, rfl⟩
  · rintro ⟨live, rfl⟩
    exact ⟨_, _, ⟨live, rfl, rfl⟩, rfl⟩

theorem setTunnel_some (t : TunnelPtr) (change : Tunnel → Tunnel) (d d' : Daemon) (u : PUnit) :
    setTunnel t change d = some (u, d') ↔
      (d.tunnel t).live = true ∧ d' = { d with tunnel := write d.tunnel t (change (d.tunnel t)) } :=
  updated_some (readTunnel t) (readTunnel_some t) (fun d new => { d with tunnel := write d.tunnel t (change new) }) d d'
    u

theorem setCall_some (c : CallPtr) (change : Call → Call) (d d' : Daemon) (u : PUnit) :
    setCall c change d = some (u, d') ↔
      (d.call c).live = true ∧ d' = { d with call := write d.call c (change (d.call c)) } :=
  updated_some (readCall c) (readCall_some c) (fun d new => { d with call := write d.call c (change new) }) d d' u

theorem setLns_some (l : LnsPtr) (change : Lns → Lns) (d d' : Daemon) (u : PUnit) :
    setLns l change d = some (u, d') ↔
      (d.lns l).live = true ∧ d' = { d with lns := write d.lns l (change (d.lns l)) } :=
  updated_some (readLns l) (readLns_some l) (fun d new => { d with lns := write d.lns l (change new) }) d d' u

theorem setLac_some (l : LacPtr) (change : Lac → Lac) (d d' : Daemon) (u : PUnit) :
    setLac l change d = some (u, d') ↔
      (d.lac l).live = true ∧ d' = { d with lac := write d.lac l (change (d.lac l)) } :=
  updated_some (readLac l) (readLac_some l) (fun d new => { d with lac := write d.lac l (change new) }) d d' u

theorem deref_some {α : Type} (p : Option α) (d d' : Daemon) (a : α) :
    deref p d = some (a, d') ↔ p = some a ∧ d' = d := by
  cases p with
  | none => simp [deref, Prog.wrong_some]
  | some b =>
      unfold deref
      rw [Prog.pure_some, Option.some.injEq]
      exact ⟨fun both => ⟨both.1, both.2.symm⟩, fun both => ⟨both.1, both.2.symm⟩⟩

theorem emit_some (output : Output) (d d' : Daemon) (u : PUnit) :
    emit output d = some (u, d') ↔ d' = { d with out := d.out ++ [output] } := by
  unfold emit
  rw [Prog.modify_some]
  exact eq_comm

end ZyAgf.Xl2tpd
