import ZyAgf.Library.Chain
import ZyAgf.Pppoe.Packet

set_option autoImplicit false

namespace ZyAgf.Pppoe.Server

structure Interface where
  mac : Mac
  mtu : Nat
deriving DecidableEq, Repr

-- The digest is a parameter: a cookie is an MD5 sum followed by the pid.
structure Config where
  numSessionSlots : Nat
  sessOffset : Nat
  interfaces : List Interface
  maxSessionsPerMac : Nat
  ignorePADIIfNoFreeSessions : Bool
  acName : List UInt8
  serviceNames : List (List UInt8)
  cookieSeed : Vector UInt8 16
  pid : Vector UInt8 4
  md5 : List UInt8 → Vector UInt8 16

def cookieLen : Nat := 20

def genCookie (cfg : Config) (peerEthAddr myEthAddr : Mac) : List UInt8 :=
  (cfg.md5 (peerEthAddr.toList ++ myEthAddr.toList ++ cfg.cookieSeed.toList)).toList ++ cfg.pid.toList

structure ClientSession where
  next : Option Nat
  pid : Nat
  ethif : Option Nat
  sess : UInt16
  eth : Mac
  recvdPadt : Bool
  sentPadt : Bool
deriving DecidableEq, Repr

-- The file-scope tags. A type of zero marks a tag that was not received, and
-- what is left in such a tag is never read.
structure Statics where
  relayId : Option PPPoETag
  hostUniq : Option PPPoETag
  receivedCookie : Option PPPoETag
  requestedService : Option PPPoETag
  maxPppPayload : Nat
deriving DecidableEq, Repr

inductive Drain where
  | off
  | on
  | quit
deriving DecidableEq, Repr

-- The children are the entries Event_HandleChildExit keeps for the event loop:
-- a pid and the session its handler was given.
structure ServerState where
  sessions : Nat → ClientSession
  freeSessions : Option Nat
  lastFreeSession : Option Nat
  busySessions : Option Nat
  numActiveSessions : Nat
  draining : Drain
  statics : Statics
  children : List (Nat × Nat)
  running : Bool

structure Sent where
  ethif : Nat
  frame : PPPoEPacket
deriving DecidableEq, Repr

def noMac : Mac := Vector.replicate 6 0

def noTags : Statics := ⟨none, none, none, none, 0⟩

-- The order of the free list is the identity or the permutation that main draws
-- when session numbers are randomized.
def initialSessions (cfg : Config) (order : List Nat) (i : Nat) : ClientSession where
  next := (order.drop (order.idxOf i + 1)).head?
  pid := 0
  ethif := none
  sess := if i < cfg.numSessionSlots then htons (UInt16.ofNat (i + 1 + cfg.sessOffset)) else 0
  eth := noMac
  recvdPadt := false
  sentPadt := false

def initServer (cfg : Config) (order : List Nat) : ServerState where
  sessions := initialSessions cfg order
  freeSessions := order.head?
  lastFreeSession := order.getLast?
  busySessions := none
  numActiveSessions := 0
  draining := .off
  statics := noTags
  children := []
  running := true

namespace ServerState

def updSession (s : ServerState) (p : Nat) (f : ClientSession → ClientSession) : ServerState :=
  { s with sessions := write s.sessions p (f (s.sessions p)) }

def updSession? (s : ServerState) (p : Option Nat) (f : ClientSession → ClientSession) : ServerState :=
  match p with
  | some p => s.updSession p f
  | none => s

end ServerState

def busyList (cfg : Config) (s : ServerState) : List Nat :=
  collect (fun p => (s.sessions p).next) cfg.numSessionSlots s.busySessions

def countSessionsFromMac (cfg : Config) (s : ServerState) (eth : Mac) : Nat :=
  (busyList cfg s).countP fun p => (s.sessions p).eth == eth

def pppoeAllocSession (s : ServerState) : Option (Nat × ServerState) :=
  s.freeSessions.map fun ses =>
    let busy := s.busySessions
    let s := { s with lastFreeSession := if s.lastFreeSession = some ses then none else s.lastFreeSession }
    let s := { s with freeSessions := (s.sessions ses).next }
    let s := s.updSession ses fun x => { x with next := busy }
    let s := { s with busySessions := some ses }
    let s := s.updSession ses fun x =>
      { x with pid := 0, ethif := none, eth := noMac, recvdPadt := false, sentPadt := false }
    (ses, { s with numActiveSessions := s.numActiveSessions + 1 })

def pppoeFreeSession (cfg : Config) (s : ServerState) (ses : Nat) : ServerState :=
  match before (fun p => (s.sessions p).next) cfg.numSessionSlots s.busySessions none ses with
  | none => s
  | some prev =>
      let after := (s.sessions ses).next
      let s := s.updSession? prev fun x => { x with next := after }
      let s := { s with busySessions := if prev = none then after else s.busySessions }
      let s := s.updSession ses fun x => { x with next := none }
      let last := s.lastFreeSession
      let s := s.updSession? last fun x => { x with next := some ses }
      let s := { s with freeSessions := if last = none then some ses else s.freeSessions, lastFreeSession := some ses }
      let s := s.updSession ses fun x => { x with pid := 0, eth := noMac, recvdPadt := false, sentPadt := false }
      { s with numActiveSessions := s.numActiveSessions - 1 }

def textBytes (text : String) : List UInt8 := text.toList.map fun c => UInt8.ofNat c.toNat

def sendPADT (i : Interface) (ethif : Nat) (ses : ClientSession) (msg : String) : List Sent :=
  if ses.sess = 0 then []
  else
    [⟨ethif,
      { hDest := ses.eth
        hSource := i.mac
        vertype := pppoeVerType
        code := codePADT
        session := ses.sess
        length := (tagBytes ⟨tagGenericError, textBytes msg⟩).length
        payload := tagBytes ⟨tagGenericError, textBytes msg⟩ }⟩]

-- Killing the child is left to the system; its exit is an event of its own.
def pppoeStopSession (cfg : Config) (s : ServerState) (ses : Nat) (reason : String) : Option
    (ServerState × List Sent) :=
  (s.sessions ses).ethif.bind fun ethif =>
  cfg.interfaces[ethif]?.map fun i =>
    (s.updSession ses fun x => { x with sentPadt := true }, sendPADT i ethif (s.sessions ses) reason)

-- The slot whose stop function processPADT calls. The index is computed in a
-- 64-bit unsigned type, so numbers at or below the offset wrap far out of range.
def padtTarget (cfg : Config) (s : ServerState) (ethif : Interface) (packet : PPPoEPacket) : Option Nat :=
  if packet.hDest ≠ ethif.mac then none
  else
    let i := ((ntohs packet.session).toNat + 2 ^ 64 - 1 - cfg.sessOffset) % 2 ^ 64
    if i ≥ cfg.numSessionSlots then none
    else if (s.sessions i).sess ≠ packet.session then none
    else if packet.hSource ≠ (s.sessions i).eth then none
    else some i

def processPADT (cfg : Config) (s : ServerState) (ethif : Interface) (packet : PPPoEPacket) :
    Option (ServerState × List Sent) :=
  match padtTarget cfg s ethif packet with
  | none => some (s, [])
  | some i => pppoeStopSession cfg (s.updSession i fun x => { x with recvdPadt := true }) i "Received PADT"

def childHandler (cfg : Config) (s : ServerState) (session : Nat) : Option (ServerState × List Sent) :=
  (s.sessions session).ethif.bind fun ethif =>
  cfg.interfaces[ethif]?.map fun i =>
    let out :=
      if (s.sessions session).sentPadt then []
      else if (s.sessions session).recvdPadt then sendPADT i ethif
        (s.sessions session) "RP-PPPoE: Received PADT from peer"
      else sendPADT i ethif (s.sessions session) "RP-PPPoE: Child pppd process terminated"
    let s := s.updSession session fun x => { x with sentPadt := true }
    (pppoeFreeSession cfg s session, out)

-- A reply under construction: where the cursor stands, the sixteen-bit length
-- so far, and every write made into the payload array.
structure Reply where
  hDest : Mac
  hSource : Mac
  code : UInt8
  session : UInt16
  cursor : Nat
  plen : Nat
  writes : List (Nat × List UInt8)
  sent : Bool
deriving DecidableEq, Repr

def Reply.put (r : Reply) (bytes : List UInt8) : Reply :=
  { r with
    cursor := r.cursor + bytes.length
    plen := (r.plen + bytes.length) % 65536
    writes := r.writes ++ [(r.cursor, bytes)] }

def Reply.putTag (r : Reply) (tag : Option PPPoETag) : Reply :=
  match tag with
  | some tag => r.put (tagBytes tag)
  | none => r

def Reply.send (r : Reply) : Reply := { r with sent := true }

def Reply.noRoom (r : Reply) (len : Nat) : Bool := r.cursor + len > maxPppoePayload

def newReply (hDest hSource : Mac) (code : UInt8) (session : UInt16) : Reply :=
  ⟨hDest, hSource, code, session, 0, 0, [], false⟩

def sendErrorPADS (statics : Statics) (source dest : Mac) (errorTag : Nat) (errorMsg : String) : Reply :=
  let r := newReply dest source codePADS (htons 0)
  let r := r.put (tagBytes ⟨errorTag, textBytes errorMsg⟩)
  let r := r.putTag statics.relayId
  let r := r.putTag statics.hostUniq
  r.send

def maxPayloadOf (data : List UInt8) : Nat :=
  if wordAt data 0 ≤ ethPppoeMtu then 0 else wordAt data 0

def parsePADITags (statics : Statics) (tag : PPPoETag) : Statics :=
  if tag.type = tagPppMaxPayload then
    if tag.payload.length = 2 then { statics with maxPppPayload := maxPayloadOf tag.payload } else statics
  else if tag.type = tagServiceName then { statics with requestedService := some tag }
  else if tag.type = tagRelaySessionId then { statics with relayId := some tag }
  else if tag.type = tagHostUniq then { statics with hostUniq := some tag }
  else statics

def parsePADRTags (statics : Statics) (tag : PPPoETag) : Statics :=
  if tag.type = tagPppMaxPayload then
    if tag.payload.length = 2 then { statics with maxPppPayload := maxPayloadOf tag.payload } else statics
  else if tag.type = tagRelaySessionId then { statics with relayId := some tag }
  else if tag.type = tagHostUniq then { statics with hostUniq := some tag }
  else if tag.type = tagAcCookie then { statics with receivedCookie := some tag }
  else if tag.type = tagServiceName then { statics with requestedService := some tag }
  else statics

def parseTags (parse : Statics → PPPoETag → Statics) (packet : PPPoEPacket) (statics : Statics) : Statics :=
  ((parsePacket packet).1.map (·.2)).foldl parse statics

-- The MTU a client asked for, shrunk to what the interface and a frame can
-- carry. Zero stands for no tag in the reply. The static keeps the value asked
-- for here, which is cleared before it is read again.
def mruFor (ethif : Interface) (maxPppPayload : Nat) : Nat :=
  if maxPppPayload > ethPppoeMtu ∧ ethif.mtu > 0 then
    let m := if (maxPppPayload : Int) > (ethif.mtu : Int) - totalOverhead then
        (((ethif.mtu : Int) - totalOverhead) % 65536).toNat else maxPppPayload
    let m := if m > ethJumboLen - totalOverhead then ethJumboLen - totalOverhead else m
    if m > ethPppoeMtu then m else 0
  else 0

def mruTag (mru : Nat) : PPPoETag := ⟨tagPppMaxPayload, [UInt8.ofNat (mru / 256), UInt8.ofNat mru]⟩

def processPADI (cfg : Config) (s : ServerState) (ethif : Interface)
    (packet : PPPoEPacket) : ServerState × List Reply :=
  if s.draining ≠ .off then (s, [])
  else if notUnicast packet.hSource then (s, [])
  else if cfg.ignorePADIIfNoFreeSessions ∧ s.freeSessions = none then (s, [])
  else if cfg.maxSessionsPerMac ≠ 0 ∧ countSessionsFromMac cfg s packet.hSource ≥ cfg.maxSessionsPerMac then (s, [])
  else
    let cleared := { s.statics with relayId := none, hostUniq := none, requestedService := none, maxPppPayload := 0 }
    let statics := parseTags parsePADITags packet cleared
    let mru := mruFor ethif statics.maxPppPayload
    let s := { s with statics := statics }
    let offered := match statics.requestedService with
      | some tag => tag.payload.isEmpty || cfg.serviceNames.contains tag.payload
      | none => true
    if offered = false then (s, [])
    else
      let r := newReply packet.hSource ethif.mac codePADO 0
      let put (r : Option Reply) (bytes : List UInt8) : Option Reply :=
        r.bind fun r => if r.noRoom bytes.length then none else some (r.put bytes)
      let r := put (some r) (tagBytes ⟨0x0102, cfg.acName⟩)
      let r := if mru ≠ 0 then put r (tagBytes (mruTag mru)) else r
      let names := if cfg.serviceNames = [] then [[]] else cfg.serviceNames
      let r := names.foldl (fun r name => put r (tagBytes ⟨tagServiceName, name⟩)) r
      let r := put r (tagBytes ⟨tagAcCookie, genCookie cfg packet.hSource ethif.mac⟩)
      let r := match statics.relayId with
        | some tag => put r (tagBytes tag)
        | none => r
      let r := match statics.hostUniq with
        | some tag => put r (tagBytes tag)
        | none => r
      (s, (r.map Reply.send).toList)

-- The PADS that the forked child builds. Only the max-payload tag is written
-- behind a check for room, and failing it ends the reply unsent.
def childPADS (cfg : Config) (statics : Statics) (ethif : Interface) (dest : Mac) (sess : UInt16)
    (requested : PPPoETag) : Reply :=
  let service : PPPoETag :=
    if requested.payload = [] then ⟨requested.type, cfg.serviceNames.headD []⟩ else requested
  let mru := mruFor ethif statics.maxPppPayload
  let r := newReply dest ethif.mac codePADS sess
  let r := r.put (tagBytes service)
  if mru ≠ 0 ∧ r.noRoom (tagBytes (mruTag mru)).length then r
  else
    let r := if mru ≠ 0 then r.put (tagBytes (mruTag mru)) else r
    let r := r.putTag statics.relayId
    let r := r.putTag statics.hostUniq
    r.send

def noServiceName : String := "RP-PPPoE: Server: No service name tag"
def invalidServiceName : String := "RP-PPPoE: Server: Invalid service name tag"
def noClientSlots : String := "RP-PPPoE: Server: No client slots available"
def unableToStart : String := "RP-PPPoE: Server: Unable to start session process"

-- What processPADR knows of a PADR once the tags are parsed: the statics, all of
-- which were cleared first, and whether the frame is ours, within the limit, and
-- carries our cookie.
def padrStatics (packet : PPPoEPacket) : Statics := parseTags parsePADRTags packet noTags

def padrAdmitted (cfg : Config) (s : ServerState) (ethif : Interface) (packet : PPPoEPacket) : Bool :=
  packet.hDest == ethif.mac && !notUnicast packet.hSource &&
    !(cfg.maxSessionsPerMac != 0 && decide (countSessionsFromMac cfg s packet.hSource ≥ cfg.maxSessionsPerMac))

def cookieKosher (cfg : Config) (statics : Statics) (ethif : Interface) (source : Mac) : Bool :=
  match statics.receivedCookie with
  | none => false
  | some cookie => cookie.payload.length == cookieLen && cookie.payload == genCookie cfg source ethif.mac

-- The outcome of fork is given with the event; the replies list what the parent
-- or, after a successful fork, the child builds.
def processPADR (cfg : Config) (s : ServerState) (face : Nat) (ethif : Interface) (packet : PPPoEPacket)
    (fork : Option Nat) : ServerState × List Reply :=
  let cleared := { s.statics with relayId := none, hostUniq := none, receivedCookie := none, requestedService := none }
  if padrAdmitted cfg s ethif packet = false then ({ s with statics := cleared }, [])
  else
    let statics := padrStatics packet
    let s := { s with statics := statics }
    if cookieKosher cfg statics ethif packet.hSource = false then (s, [])
    else
      match statics.requestedService with
      | none => (s, [sendErrorPADS statics ethif.mac packet.hSource tagServiceNameError noServiceName])
      | some requested =>
          if requested.payload ≠ [] ∧ requested.payload ∉ cfg.serviceNames then
            (s, [sendErrorPADS statics ethif.mac packet.hSource tagServiceNameError invalidServiceName])
          else
            match pppoeAllocSession s with
            | none => (s, [sendErrorPADS statics ethif.mac packet.hSource tagAcSystemError noClientSlots])
            | some (ses, s) =>
                let s := s.updSession ses fun x =>
                  { x with eth := packet.hSource, ethif := some face, recvdPadt := false, sentPadt := false }
                match fork with
                | none =>
                    (pppoeFreeSession cfg s ses,
                      [sendErrorPADS statics ethif.mac packet.hSource tagAcSystemError unableToStart])
                | some child =>
                    let s := s.updSession ses fun x => { x with pid := child }
                    ({ s with children := (child, ses) :: s.children },
                      [childPADS cfg statics ethif packet.hSource (s.sessions ses).sess requested])

def Reply.bytes (r : Reply) : List UInt8 := (r.writes.map (·.2)).flatten

def Reply.frames (face : Nat) (r : Reply) : List Sent :=
  if r.sent then
    [⟨face,
      { hDest := r.hDest
        hSource := r.hSource
        vertype := pppoeVerType
        code := r.code
        session := r.session
        length := r.plen
        payload := r.bytes }⟩]
  else []

def framesOf (face : Nat) (result : ServerState × List Reply) : ServerState × List Sent :=
  (result.1, result.2.flatMap (Reply.frames face))

def serverProcessPacket (cfg : Config) (s : ServerState) (face : Nat) (ethif : Interface) (packet : PPPoEPacket)
    (fork : Option Nat) : Option (ServerState × List Sent) :=
  if pppoeVer packet.vertype ≠ 1 ∨ pppoeType packet.vertype ≠ 1 then some (s, [])
  else if packet.length > packet.payload.length then some (s, [])
  else if packet.code = codePADI then some (framesOf face (processPADI cfg s ethif packet))
  else if packet.code = codePADR then some (framesOf face (processPADR cfg s face ethif packet fork))
  else if packet.code = codePADT then processPADT cfg s ethif packet
  else some (s, [])

def killAllFrom (cfg : Config) : Nat → Option Nat → ServerState → Option (ServerState × List Sent)
  | 0, _, s => some (s, [])
  | _ + 1, none, s => some (s, [])
  | fuel + 1, some sess, s =>
      (pppoeStopSession cfg s sess "Shutting Down").bind fun stopped =>
      (killAllFrom cfg fuel (stopped.1.sessions sess).next stopped.1).map fun rest => (rest.1, stopped.2 ++ rest.2)

def killAllSessions (cfg : Config) (s : ServerState) : Option (ServerState × List Sent) :=
  (killAllFrom cfg cfg.numSessionSlots s.busySessions s).map fun result =>
    ({ result.1 with running := false }, result.2)

inductive Event where
  | packet (face : Nat) (frame : PPPoEPacket) (fork : Option Nat)
  | childExit (pid : Nat)
  | setDrain (mode : Drain)
  | terminate

-- A pid belongs to one child until its exit was handled, and the server checks
-- for the end of a drain after every event.
def handle (cfg : Config) (s : ServerState) : Event → Option (ServerState × List Sent)
  | .packet face frame fork =>
      if fork.any (fun pid => pid == 0 || (s.children.map (·.1)).contains pid) then none
      else cfg.interfaces[face]?.bind fun ethif => serverProcessPacket cfg s face ethif frame fork
  | .childExit pid =>
      (s.children.find? fun entry => entry.1 == pid).bind fun entry =>
        childHandler cfg { s with children := s.children.erase entry } entry.2
  | .setDrain mode => some ({ s with draining := mode }, [])
  | .terminate => killAllSessions cfg s

def step (cfg : Config) (s : ServerState) (event : Event) : Option (ServerState × List Sent) :=
  if s.running = false then none
  else
    (handle cfg s event).bind fun handled =>
      if handled.1.draining = .quit ∧ handled.1.numActiveSessions = 0 ∧ handled.1.running then
        (killAllSessions cfg handled.1).map fun ended => (ended.1, handled.2 ++ ended.2)
      else some handled

def next (cfg : Config) (s : ServerState) (event : Event) : Option ServerState := (step cfg s event).map (·.1)

end ZyAgf.Pppoe.Server
