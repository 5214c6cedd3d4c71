import ZyAgf.Xl2tpd.Close

set_option autoImplicit false

namespace ZyAgf.Xl2tpd

def IpRange.covers (r : IpRange) (addr : Nat) : Bool := r.start ≤ addr && addr ≤ r.stop

def lastSense (ranges : List IpRange) (addr : Nat) (before : Bool) : Bool :=
  ranges.foldl (fun sense r => if r.covers addr then r.allow else sense) before

def scanAddr (good : Nat → Bool) (x : Nat) : Nat → Option Nat
  | 0 => none
  | count + 1 => if good x then some x else scanAddr good ((x + 1) % 2 ^ 32) count

-- A loop up to the last address of all never ends: its counter wraps, and goes
-- through the whole ring.
def getAddr (uaddr : List Nat) : List IpRange → Act Nat
  | [] => return 0
  | r :: rest =>
      let good := fun x => !ipUsed uaddr x && lastSense rest x true
      if ¬ r.allow then getAddr uaddr rest
      else if r.stop = 2 ^ 32 - 1 then deref (scanAddr good r.start (2 ^ 32))
      else
        match scanAddr good r.start (r.stop + 1 - r.start) with
        | some x => return x
        | none => getAddr uaddr rest

-- allow is not reset between entries; an entry that sets it is the one returned.
def scanLns (peer : Nat) : Bool → List LnsPtr → Act (Option LnsPtr)
  | _, [] => return none
  | before, l :: rest => do
      let lns ← readLns l
      let allow := lastSense lns.lacs peer before
      if allow then return some l else scanLns peer allow rest

def getLns (env : Env) (t : TunnelPtr) : Act (Option LnsPtr) := do
  let tun ← readTunnel t
  let d ← get
  let found ← scanLns tun.peer.addr false (d.lnslist ++ d.deflns.toList)
  match found with
  | some l => return some l
  | none => return if env.accesscontrol then none else d.deflns

inductive Side where
  | us | them
deriving DecidableEq, Repr

def Tunnel.chal (tun : Tunnel) : Side → Challenge
  | .us => tun.chalUs
  | .them => tun.chalThem

def Tunnel.withChal (tun : Tunnel) (side : Side) (chal : Challenge) : Tunnel :=
  match side with
  | .us => { tun with chalUs := chal }
  | .them => { tun with chalThem := chal }

def orElse (configured fallback : CString) : CString := if configured ≠ [] then configured else fallback

def challengeNames (env : Env) (tun : Tunnel) : Act (Option (CString × CString)) :=
  match tun.lns, tun.lac with
  | some l, _ => do
      let lns ← readLns l
      return some (orElse lns.hostname env.hostname, orElse lns.peername tun.hostname)
  | none, some l => do
      let lac ← readLac l
      return some (orElse lac.hostname env.hostname, orElse lac.peername tun.hostname)
  | none, none => return none

-- MD5 over the message type octet, the shared secret and the challenge.
def digest (env : Env) (ss : UInt8) (secret : CString) (challenge : List UInt8) : Vector UInt8 16 :=
  env.md5 (ss :: secret ++ challenge)

def Challenge.answer (env : Env) (chal : Challenge) (secret : CString) : Challenge :=
  { chal with secret := secret, response := digest env chal.ss secret chal.challenge, challenged := true }

def handleChallenge (env : Env) (t : TunnelPtr) (side : Side) : Act Int := do
  let tun ← readTunnel t
  let names ← challengeNames env tun
  match names.bind fun n => env.secretFor n.1 n.2 with
  | none => return -1
  | some secret => do
      setTunnel t fun tun => tun.withChal side ((tun.chal side).answer env secret)
      return 0

def decimal (n : Int) : CString := text (toString n)

def dotted (addr : Nat) : CString :=
  decimal (addr / 2 ^ 24 % 256) ++ text "." ++ decimal (addr / 2 ^ 16 % 256) ++ text "." ++ decimal
    (addr / 2 ^ 8 % 256) ++
    text "." ++ decimal (addr % 256)

def onlyIf (c : Bool) (options : List CString) : List CString := if c then options else []

def PppAuth.options (auth : PppAuth) (login : Bool) : List CString :=
  (if auth.authself then onlyIf auth.papRefuse [text "refuse-pap"] ++ onlyIf auth.chapRefuse [text "refuse-chap"]
    else [text "refuse-pap", text "refuse-chap"]) ++
  onlyIf auth.authpeer ([text "auth"] ++ onlyIf auth.papRequire [text "require-pap"] ++
    onlyIf auth.chapRequire [text "require-chap"] ++ onlyIf login [text "login"]) ++
  onlyIf (auth.authname ≠ []) [text "name", auth.authname] ++ onlyIf auth.debug [text "debug"]

def PppAuth.fileOptions (auth : PppAuth) (peer : Nat) : List CString :=
  onlyIf (auth.pppoptfile ≠ []) [text "file", auth.pppoptfile] ++ onlyIf auth.passPeer [text "ipparam", dotted peer]

def addrOption (addr : Nat) : CString := if addr ≠ 0 then dotted addr else []

def Lac.sessionOptions (lac : Lac) : List CString :=
  onlyIf lac.defaultroute [text "defaultroute"] ++
    [addrOption lac.localaddr ++ text ":" ++ addrOption lac.remoteaddr] ++
    lac.ppp.options false

-- The pty or the kernel socket, then the child. A descriptor that was opened
-- before a later step fails stays with the call.
def startPppd (env : Env) (c : CallPtr) (options : List CString) : Act Int := do
  let cal ← readCall c
  if 0 < cal.pppd ∨ -1 < cal.fd then return einval
  else do
    Prog.onlyWhen (¬ env.kernelSupport) (setCall c fun cal => { cal with fd := env.ptyMaster })
    if ¬ env.kernelSupport ∧ env.ptyMaster < 0 ∨ ¬ env.pppReady then return einval
    else do
      setCall c fun cal => { cal with pppd := env.pppPid }
      if env.pppPid < 0 then return einval
      else do
        emit (.pppd c (options.map fun option => option.take (maxStrLen - 1)))
        return 0

def connectPppol2tp (env : Env) (t : TunnelPtr) : Act PUnit :=
  Prog.onlyWhen env.kernelSupport <| setTunnel t fun tun =>
    { tun with udpFd := env.tunnelSockets.1.getD tun.udpFd, pppoxFd := env.tunnelSockets.2.getD tun.pppoxFd }

end ZyAgf.Xl2tpd
