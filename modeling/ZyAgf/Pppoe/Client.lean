import ZyAgf.Library.Run
import ZyAgf.Pppoe.Packet

set_option autoImplicit false

namespace ZyAgf.Pppoe.Client

-- The options of main. A service name that does not fit a tag overflows the
-- packet already in sendPADI; main itself bounds the Host-Uniq value.
structure Config where
  myEth : Mac
  serviceName : Option (List UInt8)
  acName : Option (List UInt8)
  hostUniq : Option (List UInt8)
  existing : Option (Mac × UInt16)
  noDiscoverySocket : Bool
  killSession : Bool
  printACNames : Bool
  persist : Bool
  optSkipSession : Bool
  optFloodDiscovery : Nat
  serviceNameFits : ∀ name, serviceName = some name → name.length + tagHdrSize < 2 ^ 16
  hostUniqFits : ∀ uniq, hostUniq = some uniq → uniq.length ≤ 64

-- The option that names an existing session is the one that skips discovery.
def Config.skipDiscovery (cfg : Config) : Bool := cfg.existing.isSome

inductive DiscoveryState where
  | sentPADI
  | receivedPADO
  | sentPADR
  | session
  | terminated
deriving DecidableEq, Repr

-- A stored tag whose type is zero has not been received.
structure Connection where
  discoveryState : DiscoveryState
  peerEth : Mac
  session : UInt16
  numPADOs : Nat
  cookie : Option PPPoETag
  relayId : Option PPPoETag
  padsHadError : Bool
deriving DecidableEq, Repr

-- Where the process waits. The two waits of discovery carry the attempts made so
-- far in their loop, and main counts the floods that are still to come.
inductive Place where
  | waitForPADO (padiAttempts : Nat)
  | waitForPADS (padrAttempts : Nat)
  | session
  | exited
deriving DecidableEq, Repr

structure Process where
  conn : Connection
  place : Place
  floods : Nat
deriving DecidableEq, Repr

-- A send that finds no room in the packet returns without sending anything.
inductive Sending where
  | padi (frame : Option PPPoEPacket)
  | padr (frame : Option PPPoEPacket)
  | padt (frame : Option PPPoEPacket)
deriving DecidableEq, Repr

-- What select and receivePacket report. A failed recv leaves the buffer as it
-- was, with a size of minus one.
inductive Event where
  | receive (packet : PPPoEPacket) (size : Option Nat)
  | timeOut

def maxPadiAttempts : Nat := 3

-- The size is compared as an unsigned number, so minus one is a long frame.
def lengthOk (packet : PPPoEPacket) (size : Option Nat) : Bool :=
  match size with
  | some len => packet.length + hdrSize ≤ len
  | none => true

def tagsOf (packet : PPPoEPacket) : List PPPoETag := (parsePacket packet).1.map Prod.snd

def errorTag (type : Nat) : Bool :=
  type == tagServiceNameError || type == tagAcSystemError || type == tagGenericError

structure PacketCriteria where
  acNameOK : Bool
  serviceNameOK : Bool
  seenACName : Bool
  seenServiceName : Bool
  gotError : Bool
deriving DecidableEq, Repr

-- What discovery reads of the connection its caller set up, with no bound on the
-- names: the two waits and the packets built are the same for all of them.
structure Request where
  myEth : Mac
  serviceName : Option (List UInt8)
  acName : Option (List UInt8)
  hostUniq : Option (List UInt8)
  printACNames : Bool
  persist : Bool

def Config.request (cfg : Config) : Request where
  myEth := cfg.myEth
  serviceName := cfg.serviceName
  acName := cfg.acName
  hostUniq := cfg.hostUniq
  printACNames := cfg.printACNames
  persist := cfg.persist

def parsePADSTags (conn : Connection) (tag : PPPoETag) : Connection :=
  if errorTag tag.type then { conn with padsHadError := true }
  else if tag.type = tagRelaySessionId then { conn with relayId := some tag }
  else conn

namespace Request

def packetIsForMe (req : Request) (packet : PPPoEPacket) : Bool :=
  packet.hDest == req.myEth &&
    match req.hostUniq with
    | none => true
    | some uniq => (tagsOf packet).any fun tag => tag.type == tagHostUniq && tag.payload == uniq

def freshCriteria (req : Request) : PacketCriteria := ⟨req.acName.isNone, req.serviceName.isNone, false, false, false⟩

-- The callback writes what it finds into the connection at once, while the
-- packet is still being judged. Without persist an error tag ends the process.
def parsePADOTags (req : Request) (judged : PacketCriteria × Connection) (tag : PPPoETag) :
    Option (PacketCriteria × Connection) :=
  let (pc, conn) := judged
  if tag.type = tagAcName then
    some ({ pc with seenACName := true, acNameOK := pc.acNameOK || req.acName == some tag.payload }, conn)
  else if tag.type = tagServiceName then
    some ({ pc with seenServiceName := true, serviceNameOK := pc.serviceNameOK || req.serviceName == some tag.payload },
      conn)
  else if tag.type = tagAcCookie then some (pc, { conn with cookie := some tag })
  else if tag.type = tagRelaySessionId then some (pc, { conn with relayId := some tag })
  else if errorTag tag.type then
    if req.printACNames then some judged
    else if req.persist then some ({ pc with gotError := true }, conn)
    else none
  else some judged

-- One packet in the loop of waitForPADO; the loop ends when the state says so.
-- There is no connection any more when an error tag ended the process.
def receivePADO (req : Request) (conn : Connection) (packet : PPPoEPacket) : Option Connection :=
  if req.packetIsForMe packet ∧ packet.code = codePADO ∧ ¬ broadcast packet.hSource then
    ((tagsOf packet).foldlM req.parsePADOTags (req.freshCriteria, conn)).map fun (pc, conn) =>
      if pc.gotError ∨ ¬ pc.seenACName ∨ ¬ pc.seenServiceName then conn
      else
        let conn := { conn with numPADOs := conn.numPADOs + 1 }
        if pc.acNameOK ∧ pc.serviceNameOK then
          let conn := { conn with peerEth := packet.hSource }
          if req.printACNames then conn else { conn with discoveryState := .receivedPADO }
        else conn
  else some conn

def receivePADS (req : Request) (conn : Connection) (packet : PPPoEPacket) : Connection :=
  if packet.hSource = conn.peerEth ∧ req.packetIsForMe packet ∧ packet.code = codePADS then
    let conn := (tagsOf packet).foldl parsePADSTags { conn with padsHadError := false }
    if conn.padsHadError then conn else { conn with discoveryState := .session, session := packet.session }
  else conn

end Request

def putTag (payload : List UInt8) (tag : PPPoETag) : Option (List UInt8) :=
  if payload.length + (tag.payload.length + tagHdrSize) > maxPppoePayload then none else some (payload ++ tagBytes tag)

def buildFrame (dest source : Mac) (code : UInt8) (tags : List PPPoETag) : Option PPPoEPacket :=
  (tags.foldlM putTag []).map fun payload =>
    { hDest := dest, hSource := source, vertype := pppoeVerType, code := code, session := 0,
      length := payload.length, payload := payload }

def uniqTag (cfg : Config) : List PPPoETag := cfg.hostUniq.toList.map fun uniq => ⟨tagHostUniq, uniq⟩

def omitServiceName : List UInt8 := "NO-SERVICE-NAME-NON-RFC-COMPLIANT".toList.map fun c => UInt8.ofNat c.toNat

def padiTags (cfg : Config) : List PPPoETag :=
  (if cfg.serviceName = some omitServiceName then [] else [⟨tagServiceName, cfg.serviceName.getD []⟩]) ++ uniqTag cfg

def padrTags (cfg : Config) (conn : Connection) : List PPPoETag :=
  [⟨tagServiceName, cfg.serviceName.getD []⟩] ++ uniqTag cfg ++ conn.cookie.toList ++ conn.relayId.toList

def sendPADI (cfg : Config) : Sending := .padi (buildFrame (Vector.replicate 6 0xff) cfg.myEth codePADI (padiTags cfg))

def sendPADR (cfg : Config) (conn : Connection) : Sending :=
  .padr (buildFrame conn.peerEth cfg.myEth codePADR (padrTags cfg conn))

def padtTags (cfg : Config) (conn : Connection) (msg : List UInt8) : List PPPoETag :=
  uniqTag cfg ++ [⟨tagGenericError, msg⟩] ++ conn.cookie.toList ++ conn.relayId.toList

-- The room for the message is not checked in the source; the only one sent from
-- here, and a Host-Uniq tag before it, always fit.
def sendPADT (cfg : Config) (conn : Connection) (msg : List UInt8) : List Sending :=
  if conn.session = 0 then []
  else
    [.padt ((buildFrame conn.peerEth cfg.myEth codePADT (padtTags cfg conn msg)).map fun frame =>
      { frame with session := conn.session })]

def sessionKilled : List UInt8 := "RP-PPPoE: Session killed manually".toList.map fun c => UInt8.ofNat c.toNat

-- The heads of the two loops of discovery, entered with the attempts counted.
def padiRound (cfg : Config) (client : Process) (padiAttempts : Nat) : Process × List Sending :=
  ({ client with conn := { client.conn with discoveryState := .sentPADI }, place := .waitForPADO padiAttempts },
    [sendPADI cfg])

def padrRound (cfg : Config) (client : Process) (padrAttempts : Nat) : Process × List Sending :=
  ({ client with conn := { client.conn with discoveryState := .sentPADR }, place := .waitForPADS padrAttempts },
    [sendPADR cfg client.conn])

def exit (client : Process) : Process × List Sending := ({ client with place := .exited }, [])

-- What main does when discovery returns: it floods again, prints the session and
-- leaves, or starts the session, and looks at no result.
def afterDiscovery (cfg : Config) (client : Process) : Process × List Sending :=
  if cfg.optFloodDiscovery > 0 then
    let client := { client with conn := { client.conn with discoveryState := .sentPADI } }
    if client.floods > 0 then padiRound cfg { client with floods := client.floods - 1 } 1 else exit client
  else if cfg.optSkipSession then exit client
  else ({ client with place := .session }, [])

-- Between the two loops: a client that only prints names is done.
def secondPhase (cfg : Config) (client : Process) : Process × List Sending :=
  if cfg.printACNames then exit client else padrRound cfg client 1

def afterPADO (cfg : Config) (client : Process) (padiAttempts : Nat) : Process × List Sending :=
  if cfg.printACNames ∧ client.conn.numPADOs > 0 then secondPhase cfg client
  else if client.conn.discoveryState = .sentPADI then
    if padiAttempts + 1 > maxPadiAttempts then
      if cfg.persist then padiRound cfg client 0 else secondPhase cfg client
    else padiRound cfg client (padiAttempts + 1)
  else secondPhase cfg client

def afterPADS (cfg : Config) (client : Process) (padrAttempts : Nat) : Process × List Sending :=
  if client.conn.discoveryState = .sentPADR then
    if padrAttempts + 1 > maxPadiAttempts then
      if cfg.persist then padiRound cfg client 1 else afterDiscovery cfg client
    else padrRound cfg client (padrAttempts + 1)
  else afterDiscovery cfg { client with conn := { client.conn with discoveryState := .session } }

def step (cfg : Config) (client : Process) (event : Event) : Option (Process × List Sending) :=
  match client.place, event with
  | .waitForPADO attempts, .timeOut => some (afterPADO cfg client attempts)
  | .waitForPADO attempts, .receive packet size =>
      if lengthOk packet size then
        match cfg.request.receivePADO client.conn packet with
        | none => some (exit client)
        | some conn =>
            if conn.discoveryState = .receivedPADO then some (afterPADO cfg { client with conn := conn } attempts)
            else some ({ client with conn := conn }, [])
      else some (client, [])
  | .waitForPADS attempts, .timeOut => some (afterPADS cfg client attempts)
  | .waitForPADS attempts, .receive packet size =>
      if lengthOk packet size then
        let conn := cfg.request.receivePADS client.conn packet
        if conn.discoveryState = .session then some (afterPADS cfg { client with conn := conn } attempts)
        else some ({ client with conn := conn }, [])
      else some (client, [])
  | .session, _ => none
  | .exited, _ => none

def clearConnection (cfg : Config) : Connection where
  discoveryState := .sentPADI
  peerEth := (cfg.existing.map Prod.fst).getD (Vector.replicate 6 0)
  session := (cfg.existing.map Prod.snd).getD 0
  numPADOs := 0
  cookie := none
  relayId := none
  padsHadError := false

-- From the start of the process to its first wait. Floods of a discovery that is
-- skipped do nothing.
def main (cfg : Config) : Process × List Sending :=
  let client : Process := ⟨clearConnection cfg, .exited, cfg.optFloodDiscovery - 1⟩
  if cfg.skipDiscovery then
    let client := { client with conn := { client.conn with discoveryState := .session } }
    if cfg.killSession ∧ (cfg.optFloodDiscovery > 0 ∨ ¬ cfg.noDiscoverySocket) then
      ({ client with conn := { client.conn with session := 0 }, place := .exited },
        sendPADT cfg client.conn sessionKilled)
    else if cfg.optFloodDiscovery > 0 then exit client
    else afterDiscovery cfg client
  else padiRound cfg client 1

end ZyAgf.Pppoe.Client
