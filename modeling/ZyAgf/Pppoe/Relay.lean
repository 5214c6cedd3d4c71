import ZyAgf.Library.Chain
import ZyAgf.Pppoe.Packet

set_option autoImplicit false

namespace ZyAgf.Pppoe.Relay

def hashtabSize : Nat := 18917
def myRelayTagLen : Nat := 4 + 6

structure PPPoEInterface where
  clientOK : Bool
  acOK : Bool
  mac : Mac
deriving DecidableEq, Repr

structure Config where
  interfaces : List PPPoEInterface
  cleanPeriod : UInt32
  idleTimeout : UInt32

-- Pointers into the two calloc'ed arrays are indices, and NULL is none. The
-- sockets of an interface are told apart only in what is sent.
structure PPPoESession where
  next : Option Nat
  prev : Option Nat
  acHash : Option Nat
  clientHash : Option Nat
  epoch : UInt32
  sesNum : UInt16
deriving DecidableEq, Repr

structure SessionHash where
  next : Option Nat
  prev : Option Nat
  peer : Option Nat
  interface : Option Nat
  peerMac : Mac
  sesNum : UInt16
  ses : Option Nat
deriving DecidableEq, Repr

structure RelayState where
  numSessions : Nat
  maxSessions : Nat
  allSessions : Nat → PPPoESession
  freeSessions : Option Nat
  activeSessions : Option Nat
  allHashes : Nat → SessionHash
  freeHashes : Option Nat
  buckets : Nat → Option Nat
  epoch : UInt32
  cleanCounter : UInt32
  cleanPipe : Nat

inductive Sock where
  | discovery
  | session
deriving DecidableEq, Repr

structure Sent where
  iface : Nat
  sock : Sock
  frame : PPPoEPacket
deriving DecidableEq, Repr

-- The last element is linked apart from the others in the source; the index
-- bounds below are the same case split written per element.
def initRelay (nsess : Nat) : RelayState where
  numSessions := 0
  maxSessions := nsess
  allSessions := fun i =>
    { next := if i + 1 < nsess then some (i + 1) else none
      prev := if 0 < i ∧ i < nsess then some (i - 1) else none
      acHash := none
      clientHash := none
      epoch := 0
      sesNum := if i < nsess then htons (UInt16.ofNat (i + 1)) else 0 }
  freeSessions := some 0
  activeSessions := none
  allHashes := fun i =>
    { next := if i + 1 < 2 * nsess then some (i + 1) else none
      prev := if 0 < i ∧ i < 2 * nsess then some (i - 1) else none
      peer := none
      interface := none
      peerMac := Vector.replicate 6 0
      sesNum := 0
      ses := none }
  freeHashes := some 0
  buckets := fun _ => none
  epoch := 0
  cleanCounter := 0
  cleanPipe := 0

def hash (mac : Mac) (sesNum : UInt16) : UInt32 :=
  let ans1 := mac[0].toUInt32 ||| (mac[1].toUInt32 <<< 8) ||| (mac[2].toUInt32 <<< 16) ||| (mac[3].toUInt32 <<< 24)
  let ans2 := sesNum.toUInt32 ||| (mac[4].toUInt32 <<< 16) ||| (mac[5].toUInt32 <<< 24)
  ans1 ^^^ ans2

def bucketOf (mac : Mac) (sesNum : UInt16) : Nat := (hash mac sesNum).toNat % hashtabSize

namespace RelayState

def updSession (s : RelayState) (p : Nat) (f : PPPoESession → PPPoESession) : RelayState :=
  { s with allSessions := write s.allSessions p (f (s.allSessions p)) }

def updHash (s : RelayState) (p : Nat) (f : SessionHash → SessionHash) : RelayState :=
  { s with allHashes := write s.allHashes p (f (s.allHashes p)) }

def updSession? (s : RelayState) (p : Option Nat) (f : PPPoESession → PPPoESession) : RelayState :=
  match p with
  | some p => s.updSession p f
  | none => s

def updHash? (s : RelayState) (p : Option Nat) (f : SessionHash → SessionHash) : RelayState :=
  match p with
  | some p => s.updHash p f
  | none => s

end RelayState

def addHash (s : RelayState) (sh : Nat) : RelayState :=
  let b := bucketOf (s.allHashes sh).peerMac (s.allHashes sh).sesNum
  let first := s.buckets b
  let s := s.updHash sh fun h => { h with next := first, prev := none }
  let s := s.updHash? first fun h => { h with prev := some sh }
  { s with buckets := write s.buckets b (some sh) }

def unhash (s : RelayState) (sh : Nat) : RelayState :=
  let entry := s.allHashes sh
  let b := bucketOf entry.peerMac entry.sesNum
  let s := s.updHash? entry.prev fun h => { h with next := entry.next }
  let s := { s with buckets := if entry.prev = none then write s.buckets b entry.next else s.buckets }
  let s := s.updHash? entry.next fun h => { h with prev := entry.prev }
  let free := s.freeHashes
  let s := s.updHash sh fun h => { h with next := free }
  { s with freeHashes := some sh }

-- A bucket cannot hold more entries than there are, so the table's size is fuel
-- enough for the search.
def findSession (s : RelayState) (mac : Mac) (sesNum : UInt16) : Option Nat :=
  walk (fun p => (s.allHashes p).next) (fun p => (s.allHashes p).peerMac == mac && (s.allHashes p).sesNum == sesNum)
    (2 * s.maxSessions) (s.buckets (bucketOf mac sesNum))

-- The session part of createSession: off the free list, onto the active one.
def grabSession (s : RelayState) (sess : Nat) : RelayState :=
  let active := s.activeSessions
  let epoch := s.epoch
  let s := { s with freeSessions := (s.allSessions sess).next, numSessions := s.numSessions + 1 }
  let s := s.updSession sess fun x => { x with next := active }
  let s := s.updSession? active fun x => { x with prev := some sess }
  let s := { s with activeSessions := some sess }
  s.updSession sess fun x => { x with prev := none, epoch := epoch }

-- The hash part: two entries leave their free list and become the two legs.
def fillHashes (s : RelayState) (sess acHash cliHash : Nat) (ac cli : Nat) (acMac cliMac : Mac) (acSes : UInt16) :
    RelayState :=
  let s := { s with freeHashes := (s.allHashes cliHash).next }
  let s := s.updHash acHash fun h => { h with peer := some cliHash }
  let s := s.updHash cliHash fun h => { h with peer := some acHash }
  let s := s.updSession sess fun x => { x with acHash := some acHash, clientHash := some cliHash }
  let s := s.updHash acHash fun h =>
    { h with interface := some ac, peerMac := acMac, sesNum := acSes, ses := some sess }
  let sesNum := (s.allSessions sess).sesNum
  s.updHash cliHash fun h => { h with interface := some cli, peerMac := cliMac, sesNum := sesNum, ses := some sess }

def openSession (s : RelayState) (sess acHash cliHash : Nat) (ac cli : Nat) (acMac cliMac : Mac) (acSes : UInt16) :
    RelayState :=
  addHash (addHash (fillHashes (grabSession s sess) sess acHash cliHash ac cli acMac cliMac acSes) acHash) cliHash

-- The outer none is a null pointer followed, the inner one the full table.
def createSession (s : RelayState) (ac cli : Nat) (acMac cliMac : Mac) (acSes : UInt16) :
    Option (Option Nat × RelayState) :=
  if s.numSessions ≥ s.maxSessions then some (none, s)
  else
    s.freeSessions.bind fun sess =>
    s.freeHashes.bind fun acHash =>
    (s.allHashes acHash).next.bind fun cliHash =>
    some (some sess, openSession s sess acHash cliHash ac cli acMac cliMac acSes)

-- The session part of freeSession: the free list is singly linked, so prev
-- keeps its old value.
def dropSession (s : RelayState) (ses : Nat) : RelayState :=
  let entry := s.allSessions ses
  let s := s.updSession? entry.prev fun x => { x with next := entry.next }
  let s := { s with activeSessions := if entry.prev = none then entry.next else s.activeSessions }
  let s := s.updSession? entry.next fun x => { x with prev := entry.prev }
  let free := s.freeSessions
  let s := s.updSession ses fun x => { x with next := free }
  { s with freeSessions := some ses }

def freeSession (s : RelayState) (ses : Nat) : Option RelayState :=
  (s.allSessions ses).acHash.bind fun acHash =>
  (s.allSessions ses).clientHash.bind fun clientHash =>
  let s := unhash (unhash (dropSession s ses) acHash) clientHash
  some { s with numSessions := s.numSessions - 1 }

def errMsgBytes (text : String) : List UInt8 := text.toList.map fun c => UInt8.ofNat c.toNat

def relaySendError (cfg : Config) (code : UInt8) (session : UInt16) (iface : Nat) (mac : Mac)
    (hostUniq : Option PPPoETag) (errMsg : String) : List Sent :=
  match cfg.interfaces[iface]? with
  | none => []
  | some i =>
      let packet : PPPoEPacket :=
        { hDest := mac, hSource := i.mac, vertype := pppoeVerType, code := code, session := session, length := 0, payload := [] }
      let tagged := match hostUniq with
        | some tag => addTag packet tag
        | none => some packet
      match tagged.bind fun packet => addTag packet ⟨tagGenericError, errMsgBytes errMsg⟩ with
      | none => []
      | some packet => [⟨iface, if code = codePADT then .discovery else .session, packet⟩]

-- An int as memcpy reads it on a little-endian host, and the bytes it leaves.
def intAt (bytes : List UInt8) (offset : Nat) : Int :=
  (BitVec.ofNat 32 (byteAt bytes offset + byteAt bytes (offset + 1) * 256 + byteAt bytes (offset + 2) * 65536 +
    byteAt bytes (offset + 3) * 16777216)).toInt

def intBytes (n : Nat) : List UInt8 :=
  [UInt8.ofNat n, UInt8.ofNat (n / 256), UInt8.ofNat (n / 65536), UInt8.ofNat (n / 16777216)]

def overwrite (payload : List UInt8) (offset : Nat) (bytes : List UInt8) : List UInt8 :=
  payload.take offset ++ bytes ++ payload.drop (offset + bytes.length)

structure RelayTag where
  loc : Nat
  ifIndex : Nat
  target : PPPoEInterface
  mac : Mac

-- PADO, PADR and PADS all start from the relay tag: the index in it must name
-- another interface that may face the other side.
def relayTag (cfg : Config) (iface : Nat) (packet : PPPoEPacket) (facing : PPPoEInterface → Bool) : Option RelayTag :=
  match findTag packet tagRelaySessionId with
  | none => none
  | some (loc, tag) =>
      if tag.payload.length ≠ myRelayTagLen then none
      else
        let ifIndex := intAt tag.payload 0
        if ifIndex < 0 then none
        else
          match cfg.interfaces[ifIndex.toNat]? with
          | none => none
          | some target =>
              if facing target = false ∨ ifIndex.toNat = iface then none
              else some ⟨loc, ifIndex.toNat, target, macAt tag.payload 4⟩

def relayHandlePADI (cfg : Config) (iface : Nat) (i : PPPoEInterface) (packet : PPPoEPacket) : List Sent :=
  if i.clientOK = false then []
  else if notUnicast packet.hSource then []
  else if broadcast packet.hDest = false then []
  else if (findTag packet tagRelaySessionId).isSome then []
  else
    match addTag packet ⟨tagRelaySessionId, intBytes iface ++ packet.hSource.toList⟩ with
    | none => []
    | some packet =>
        (cfg.interfaces.zipIdx.filter fun other => other.2 != iface && other.1.acOK).map fun other =>
          ⟨other.2, .discovery, { packet with hSource := other.1.mac }⟩

-- PADO and PADR cross the relay alike: the tag is turned round in place and the
-- frame goes where the tag said.
def relayAcross (iface : Nat) (packet : PPPoEPacket) (tag : RelayTag) : Sent :=
  { iface := tag.ifIndex
    sock := .discovery
    frame := { packet with
      hDest := tag.mac
      hSource := tag.target.mac
      payload := overwrite packet.payload (tag.loc + tagHdrSize) (intBytes iface ++ packet.hSource.toList) } }

def relayHandlePADO (cfg : Config) (iface : Nat) (i : PPPoEInterface) (packet : PPPoEPacket) : List Sent :=
  if i.acOK = false then []
  else if broadcast packet.hSource then []
  else if packet.hDest ≠ i.mac then []
  else ((relayTag cfg iface packet (·.clientOK)).map (relayAcross iface packet)).toList

def relayHandlePADR (cfg : Config) (iface : Nat) (i : PPPoEInterface) (packet : PPPoEPacket) : List Sent :=
  if i.clientOK = false then []
  else if notUnicast packet.hSource then []
  else if packet.hDest ≠ i.mac then []
  else ((relayTag cfg iface packet (·.acOK)).map (relayAcross iface packet)).toList

def unableToAllocate : String := "RP-PPPoE: Relay: Unable to allocate session"
def idleTimeoutExceeded : String := "RP-PPPoE: Relay: Session exceeded idle timeout"

-- The frame that goes to the client carries the session number given here.
def relayPADS (packet : PPPoEPacket) (tag : RelayTag) (session : UInt16) : Sent :=
  let stripped := (removeBytes packet tag.loc (myRelayTagLen + tagHdrSize)).getD packet
  ⟨tag.ifIndex, .discovery, { stripped with hDest := tag.mac, hSource := tag.target.mac, session := session }⟩

-- The checks before the session part of relayHandlePADS: each one drops the
-- frame without an answer.
def padsTag (cfg : Config) (iface : Nat) (i : PPPoEInterface) (packet : PPPoEPacket) : Option RelayTag :=
  if i.acOK = false then none
  else if notUnicast packet.hSource then none
  else if packet.hDest ≠ i.mac then none
  else relayTag cfg iface packet (·.clientOK)

def relayHandlePADS (cfg : Config) (s : RelayState) (iface : Nat) (i : PPPoEInterface) (packet : PPPoEPacket) :
    Option (RelayState × List Sent) :=
  match padsTag cfg iface i packet with
  | none => some (s, [])
  | some tag =>
      if packet.session = htons 0 then some (s, [relayPADS packet tag packet.session])
      else
        match (findSession s packet.hSource packet.session).bind fun sh => (s.allHashes sh).ses with
        | some ses => some (s, [relayPADS packet tag (s.allSessions ses).sesNum])
        | none =>
            (createSession s iface tag.ifIndex packet.hSource tag.mac packet.session).map fun made =>
              match made with
              | (some ses, s) => (s, [relayPADS packet tag (s.allSessions ses).sesNum])
              | (none, s) =>
                  (s, relaySendError cfg codePADS (htons 0) tag.ifIndex tag.mac
                      ((findTag packet tagHostUniq).map (·.2)) unableToAllocate ++
                    relaySendError cfg codePADT packet.session iface packet.hSource none unableToAllocate)

def relayHandlePADT (cfg : Config) (s : RelayState) (i : PPPoEInterface) (packet : PPPoEPacket) :
    Option (RelayState × List Sent) :=
  if packet.hDest ≠ i.mac then some (s, [])
  else
    match findSession s packet.hSource packet.session with
    | none => some (s, [])
    | some sh =>
        (s.allHashes sh).peer.bind fun peer =>
        (s.allHashes peer).ses.bind fun ses =>
        (s.allHashes peer).interface.bind fun out =>
        cfg.interfaces[out]?.bind fun o =>
        (freeSession s ses).map fun freed =>
          (freed, [⟨out, .session,
            { packet with session := (s.allHashes peer).sesNum, hSource := o.mac, hDest := (s.allHashes peer).peerMac }⟩])

-- The length check shared by both receive functions; padding is dropped here.
def checkLength (packet : PPPoEPacket) : Option PPPoEPacket :=
  if packet.length > packet.payload.length then none
  else some { packet with payload := packet.payload.take packet.length }

def relayGotDiscoveryPacket (cfg : Config) (s : RelayState) (iface : Nat) (i : PPPoEInterface) (packet : PPPoEPacket) :
    Option (RelayState × List Sent) :=
  if pppoeVer packet.vertype ≠ 1 ∨ pppoeType packet.vertype ≠ 1 then some (s, [])
  else
    match checkLength packet with
    | none => some (s, [])
    | some packet =>
        if packet.code = codePADT then relayHandlePADT cfg s i packet
        else if packet.code = codePADI then some (s, relayHandlePADI cfg iface i packet)
        else if packet.code = codePADO then some (s, relayHandlePADO cfg iface i packet)
        else if packet.code = codePADR then some (s, relayHandlePADR cfg iface i packet)
        else if packet.code = codePADS then relayHandlePADS cfg s iface i packet
        else some (s, [])

def relayGotSessionPacket (cfg : Config) (s : RelayState) (i : PPPoEInterface) (packet : PPPoEPacket) :
    Option (RelayState × List Sent) :=
  if pppoeVer packet.vertype ≠ 1 ∨ pppoeType packet.vertype ≠ 1 then some (s, [])
  else if packet.code ≠ codeSess then some (s, [])
  else if packet.hDest ≠ i.mac then some (s, [])
  else
    match checkLength packet with
    | none => some (s, [])
    | some packet =>
        match findSession s packet.hSource packet.session with
        | none => some (s, [])
        | some sh =>
            (s.allHashes sh).ses.bind fun ses =>
            (s.allHashes sh).peer.bind fun peer =>
            (s.allHashes peer).interface.bind fun out =>
            cfg.interfaces[out]?.map fun o =>
              let epoch := s.epoch
              (s.updSession ses fun x => { x with epoch := epoch },
                [⟨out, .session,
                  { packet with session := (s.allHashes peer).sesNum, hSource := o.mac, hDest := (s.allHashes peer).peerMac }⟩])

-- The loop over the active list; its fuel is the number of sessions.
def cleanFrom (cfg : Config) : Nat → Option Nat → RelayState → Option (RelayState × List Sent)
  | 0, _, s => some (s, [])
  | _ + 1, none, s => some (s, [])
  | fuel + 1, some cur, s =>
      let next := (s.allSessions cur).next
      if s.epoch - (s.allSessions cur).epoch > cfg.idleTimeout then
        (s.allSessions cur).acHash.bind fun acHash =>
        (s.allSessions cur).clientHash.bind fun clientHash =>
        (s.allHashes acHash).interface.bind fun acIf =>
        (s.allHashes clientHash).interface.bind fun cliIf =>
        (freeSession s cur).bind fun freed =>
        (cleanFrom cfg fuel next freed).map fun rest =>
          (rest.1,
            relaySendError cfg codePADT (s.allHashes acHash).sesNum acIf (s.allHashes acHash).peerMac none
              idleTimeoutExceeded ++
            relaySendError cfg codePADT (s.allHashes clientHash).sesNum cliIf (s.allHashes clientHash).peerMac none
              idleTimeoutExceeded ++ rest.2)
      else cleanFrom cfg fuel next s

def cleanSessions (cfg : Config) (s : RelayState) : Option (RelayState × List Sent) :=
  cleanFrom cfg s.maxSessions s.activeSessions s

def alarmHandler (cfg : Config) (s : RelayState) : RelayState :=
  { s with
    epoch := s.epoch + 1
    cleanCounter := s.cleanCounter + 1
    cleanPipe := if s.cleanCounter + 1 = cfg.cleanPeriod then s.cleanPipe + 1 else s.cleanPipe }

inductive Event where
  | session (iface : Nat) (packet : PPPoEPacket)
  | discovery (iface : Nat) (packet : PPPoEPacket)
  | clean
  | alarm

-- One turn of the select loop or one signal. Events that cannot occur, such as
-- a frame on an interface that was never opened, have no next state either.
def step (cfg : Config) (s : RelayState) : Event → Option (RelayState × List Sent)
  | .session iface packet => cfg.interfaces[iface]?.bind fun i => relayGotSessionPacket cfg s i packet
  | .discovery iface packet => cfg.interfaces[iface]?.bind fun i => relayGotDiscoveryPacket cfg s iface i packet
  | .clean =>
      if s.cleanPipe = 0 then none
      else
        let s := { s with cleanCounter := 0, cleanPipe := s.cleanPipe - 1 }
        if cfg.idleTimeout ≠ 0 then cleanSessions cfg s else some (s, [])
  | .alarm => if cfg.idleTimeout ≠ 0 then some (alarmHandler cfg s, []) else none

def next (cfg : Config) (s : RelayState) (event : Event) : Option RelayState := (step cfg s event).map (·.1)

end ZyAgf.Pppoe.Relay
