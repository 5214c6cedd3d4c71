import ZyAgf.Pppoe.ClientWait
import ZyAgf.Pppoe.TagWalk

set_option autoImplicit false

namespace ZyAgf.Pppoe.Frames

open Client (Request omitServiceName sizeT tagsOf)

-- Why nothing is sent: CHECK_ROOM returned, or the code has no defined meaning
-- there, such as a copy past the end of an object or a signed overflow.
inductive Stop where
  | noRoom
  | undefined
deriving DecidableEq, Repr

def memcpy (dest : List UInt8) (place : Nat) (source : List UInt8) (n : Nat) : Except Stop (List UInt8) :=
  if place + n ≤ dest.length ∧ n ≤ source.length then .ok (dest.take place ++ source.take n ++ dest.drop (place + n))
  else .error .undefined

def checkRoom (cursor : Nat) (len : Int) : Except Stop Unit :=
  if (cursor : Int) + len > maxPppoePayload then .error .noRoom else .ok ()

def intLen (text : List UInt8) : Int := (text.length + 2 ^ 31 : Int) % 2 ^ 32 - 2 ^ 31

def addInt (a b : Int) : Except Stop Int :=
  if -2 ^ 31 ≤ a + b ∧ a + b < 2 ^ 31 then .ok (a + b) else .error .undefined

def uint16 (n : Int) : Nat := (n % 65536).toNat

def tagStruct (type len : Nat) (payload : List UInt8) : List UInt8 :=
  [UInt8.ofNat (type / 256), UInt8.ofNat type, UInt8.ofNat (len / 256), UInt8.ofNat len] ++ payload

-- A tag as the connection stores it. Nothing but the parsers' own checks keeps
-- the length within the array.
structure StoredTag where
  length : UInt16
  payload : Vector UInt8 ethDataLen

def StoredTag.bytes (stored : StoredTag) (type : Nat) : List UInt8 :=
  tagStruct type stored.length.toNat stored.payload.toList

def StoredTag.tag (stored : StoredTag) (type : Nat) : PPPoETag := ⟨type, stored.payload.toList.take stored.length.toNat⟩

-- What the connection holds of the access concentrator. A tag whose type is zero
-- is not there.
structure Peer where
  peerEth : Mac
  session : UInt16
  cookie : Option StoredTag
  relayId : Option StoredTag

-- The packet and the tags on the stack, which nothing initialises.
structure Stack where
  payload : Vector UInt8 ethJumboLen
  hostUniq : Vector UInt8 ethDataLen
  err : Vector UInt8 ethDataLen

-- The payload with the place of the next tag, and the length counted so far.
structure Draft where
  payload : List UInt8
  cursor : Nat
  plen : Nat

def Draft.copy (draft : Draft) (bytes : List UInt8) (n : Int) : Except Stop Draft := do
  let payload ← memcpy draft.payload draft.cursor bytes (sizeT n)
  .ok ⟨payload, draft.cursor + n.toNat, uint16 (draft.plen + n)⟩

def Stack.draft (stack : Stack) : Draft := ⟨stack.payload.toList, 0, 0⟩

def nameLen (name : List UInt8) : Nat := name.length % 65536

-- The first tag is written in place, with as much of the name as its caller counts.
def putServiceName (stack : Stack) (name : List UInt8) (count : Nat) : Except Stop Draft := do
  let plen := (tagHdrSize + nameLen name) % 65536
  checkRoom 0 plen
  let payload ← memcpy stack.payload.toList 0 (tagStruct tagServiceName (nameLen name) []) tagHdrSize
  let payload ← memcpy payload tagHdrSize name count
  .ok ⟨payload, nameLen name + tagHdrSize, plen⟩

def putHostUniq (draft : Draft) (stack : Stack) (hostUniq : Option (List UInt8)) : Except Stop Draft :=
  match hostUniq with
  | none => .ok draft
  | some uniq => do
      let len := intLen uniq
      let whole ← addInt len tagHdrSize
      checkRoom draft.cursor whole
      let body ← memcpy stack.hostUniq.toList 0 uniq (sizeT len)
      draft.copy (tagStruct tagHostUniq (uint16 len) body) whole

def putStored (draft : Draft) (type : Nat) (stored : Option StoredTag) : Except Stop Draft :=
  match stored with
  | none => .ok draft
  | some stored => do
      let whole : Int := stored.length.toNat + tagHdrSize
      checkRoom draft.cursor whole
      draft.copy (stored.bytes type) whole

-- What sendPacket is given: the packet, and how much of it goes out.
structure Sent where
  packet : PPPoEPacket
  size : Nat
deriving DecidableEq

def Draft.sent (draft : Draft) (dest source : Mac) (code : UInt8) (session : UInt16) : Sent where
  packet :=
    { hDest := dest
      hSource := source
      vertype := pppoeVerType
      code := code
      session := session
      length := draft.plen
      payload := draft.payload }
  size := draft.plen + hdrSize

def serviceDraft (req : Request) (stack : Stack) : Except Stop Draft :=
  if req.serviceName = some omitServiceName then .ok stack.draft
  else putServiceName stack (req.serviceName.getD []) (req.serviceName.getD []).length

def sendPADI (req : Request) (stack : Stack) : Except Stop Sent := do
  let draft ← serviceDraft req stack
  let draft ← putHostUniq draft stack req.hostUniq
  .ok (draft.sent (Vector.replicate 6 0xff) req.myEth codePADI 0)

def sendPADR (req : Request) (peer : Peer) (stack : Stack) : Except Stop Sent := do
  let draft ← putServiceName stack (req.serviceName.getD []) (nameLen (req.serviceName.getD []))
  let draft ← putHostUniq draft stack req.hostUniq
  let draft ← putStored draft tagAcCookie peer.cookie
  let draft ← putStored draft tagRelaySessionId peer.relayId
  .ok (draft.sent peer.peerEth req.myEth codePADR 0)

def copyHostUniq (draft : Draft) (stack : Stack) (hostUniq : Option (List UInt8)) : Except Stop Draft :=
  match hostUniq with
  | none => .ok draft
  | some uniq => do
      let len := intLen uniq
      let body ← memcpy stack.hostUniq.toList 0 uniq (sizeT len)
      let whole ← addInt len tagHdrSize
      checkRoom draft.cursor whole
      draft.copy (tagStruct tagHostUniq (uint16 len) body) whole

-- The message is copied with its terminator into the tag on the stack, and from
-- there into the packet without a look at the room.
def copyError (draft : Draft) (stack : Stack) (msg : Option (List UInt8)) : Except Stop Draft :=
  match msg with
  | none => .ok draft
  | some msg => do
      let body ← memcpy stack.err.toList 0 (msg ++ [0]) (msg.length + 1)
      draft.copy (tagStruct tagGenericError (uint16 msg.length) body) (msg.length + tagHdrSize : Nat)

def buildPADT (req : Request) (peer : Peer) (msg : Option (List UInt8)) (stack : Stack) : Except Stop Sent := do
  let draft ← copyHostUniq stack.draft stack req.hostUniq
  let draft ← copyError draft stack msg
  let draft ← putStored draft tagAcCookie peer.cookie
  let draft ← putStored draft tagRelaySessionId peer.relayId
  .ok (draft.sent peer.peerEth req.myEth codePADT peer.session)

-- The session is reset before the packet is built. There is no result where
-- sendPADT does nothing at all.
def sendPADT (req : Request) (peer : Peer) (discoverySocket : Int) (msg : Option (List UInt8)) (stack : Stack) :
    Peer × Option (Except Stop Sent) :=
  if peer.session = 0 then (peer, none)
  else if discoverySocket < 0 then (peer, none)
  else ({ peer with session := 0 }, some (buildPADT req peer msg stack))

-- The formatted text is cut to the buffer of vsnprintf.
def sendPADTf (req : Request) (peer : Peer) (discoverySocket : Int) (text : List UInt8) (stack : Stack) :
    Peer × Option (Except Stop Sent) :=
  sendPADT req peer discoverySocket (some (text.take 511)) stack

section Copies

theorem ok_bind {α β : Type} (a : α) (later : α → Except Stop β) : (Except.ok a >>= later) = later a := rfl

theorem error_bind {α β : Type} (stop : Stop) (later : α → Except Stop β) :
    (Except.error stop >>= later) = .error stop := rfl

theorem memcpy_ok (dest source : List UInt8) (place n : Nat) (room : place + n ≤ dest.length)
    (enough : n ≤ source.length) :
    memcpy dest place source n = .ok (dest.take place ++ source.take n ++ dest.drop (place + n)) :=
  if_pos ⟨room, enough⟩

theorem memcpy_undefined (dest source : List UInt8) (place n : Nat) (past : dest.length < place + n) :
    memcpy dest place source n = .error .undefined :=
  if_neg fun inside => absurd inside.1 (by omega)

theorem checkRoom_ok (cursor : Nat) (len : Int) (room : (cursor : Int) + len ≤ maxPppoePayload) : checkRoom cursor len =
    .ok () :=
  if_neg (by omega)

theorem checkRoom_full (cursor : Nat) (len : Int) (full : maxPppoePayload < (cursor : Int) + len) :
    checkRoom cursor len = .error .noRoom :=
  if_pos (by omega)

theorem uint16_natCast (n : Nat) (small : n < 65536) : uint16 n = n := by
  unfold uint16
  omega

theorem tagStruct_value (type : Nat) (value rest : List UInt8) :
    tagStruct type value.length (value ++ rest) = tagBytes ⟨type, value⟩ ++ rest := by
  simp [tagStruct, tagBytes]

-- The draft holds these tags, one after the other and nothing else so far.
structure Holds (draft : Draft) (tags : List PPPoETag) : Prop where
  size : draft.payload.length = ethJumboLen
  cursor : draft.cursor = (tags.flatMap tagBytes).length
  written : draft.payload.take draft.cursor = tags.flatMap tagBytes
  plen : draft.plen = draft.cursor

theorem stack_holds (stack : Stack) : Holds stack.draft [] where
  size := Vector.size_toArray _
  cursor := rfl
  written := rfl
  plen := rfl

theorem copy_holds (draft : Draft) (tags : List PPPoETag) (held : Holds draft tags) (tag : PPPoETag) (rest : List UInt8)
    (room : draft.cursor + (tag.payload.length + tagHdrSize) ≤ ethJumboLen) :
    ∃ next, draft.copy (tagBytes tag ++ rest) (tag.payload.length + tagHdrSize : Nat) = .ok next ∧
      Holds next (tags ++ [tag]) ∧
      next.cursor = draft.cursor + (tag.payload.length + tagHdrSize) := by
  have most : ethJumboLen = 1508 := rfl
  have length := tagBytes_length tag
  have size := held.size
  have front : (draft.payload.take draft.cursor).length = draft.cursor := by
    rw [List.length_take]
    omega
  have copied : (tagBytes tag ++ rest).take (tag.payload.length + tagHdrSize) = tagBytes tag := by
    rw [← length]
    exact List.take_left' rfl
  unfold Draft.copy
  rw [Client.sizeT_natCast _ (by omega), memcpy_ok _ _ _ _ (by omega) (by rw [List.length_append]; omega), copied]
  refine ⟨_, rfl, ⟨?_, ?_, ?_, ?_⟩, by rw [Int.toNat_natCast]⟩
  · simp only [List.length_append, front, List.length_drop, length]
    omega
  · simp only [List.flatMap_append, List.length_append, List.flatMap_singleton, length, ← held.cursor,
      Int.toNat_natCast]
  · simp only [Int.toNat_natCast, List.flatMap_append, List.flatMap_singleton, held.written]
    refine List.take_left' ?_
    rw [List.length_append, ← held.cursor, length]
  · have counted := held.plen
    dsimp only
    rw [counted, Int.toNat_natCast]
    exact uint16_natCast _ (by omega)

theorem copy_undefined (draft : Draft) (tags : List PPPoETag) (held : Holds draft tags) (bytes : List UInt8) (n : Nat)
    (small : n < 2 ^ 63) (past : ethJumboLen < draft.cursor + n) : draft.copy bytes n = .error .undefined := by
  have size := held.size
  unfold Draft.copy
  rw [Client.sizeT_natCast _ (by omega), memcpy_undefined _ _ _ _ (by omega)]
  rfl

end Copies

section Puts

def room (tags : List PPPoETag) : Nat := (tags.flatMap tagBytes).length

@[simp] theorem room_nil : room [] = 0 := rfl

@[simp] theorem room_cons (tag : PPPoETag) (tags : List PPPoETag) : room
    (tag :: tags) = tag.payload.length + tagHdrSize + room tags := by
  simp [room, tagBytes_length]

@[simp] theorem room_append (tags more : List PPPoETag) : room (tags ++ more) = room tags + room more := by
  simp [room]

-- What is to be done from a draft on puts these tags behind those it holds where
-- the packet has room for all of them, and sends nothing where it has not.
structure Puts (draft : Draft) (tags : List PPPoETag) (result : Except Stop Draft) (more : List PPPoETag) : Prop where
  fits : draft.cursor + room more ≤ maxPppoePayload → ∃ next, result = .ok next ∧ Holds next (tags ++ more)
  full : maxPppoePayload < draft.cursor + room more → result = .error .noRoom

theorem puts_nil (draft : Draft) (tags : List PPPoETag) (held : Holds draft tags)
    (inside : draft.cursor ≤ maxPppoePayload) :
    Puts draft tags (.ok draft) [] where
  fits := fun _ => ⟨draft, rfl, by rwa [List.append_nil]⟩
  full := fun past => absurd past (by rw [room_nil]; omega)

theorem puts_bind (draft : Draft) (tags : List PPPoETag) (held : Holds draft tags) (first : Except Stop Draft)
    (later : Draft → Except Stop Draft) (more others : List PPPoETag) (puts : Puts draft tags first more)
    (onward : ∀ next, Holds next (tags ++ more) → next.cursor ≤ maxPppoePayload →
    Puts next (tags ++ more) (later next) others) :
    Puts draft tags (first >>= later) (more ++ others) := by
  have start : draft.cursor = room tags := held.cursor
  by_cases inside : draft.cursor + room more ≤ maxPppoePayload
  · obtain ⟨next, reached, holds⟩ := puts.fits inside
    have place : next.cursor = draft.cursor + room more := by
      rw [holds.cursor, start]
      exact room_append tags more
    have goes := onward next holds (by omega)
    rw [reached, ok_bind]
    constructor
    · intro fits
      rw [room_append] at fits
      obtain ⟨final, ended, all⟩ := goes.fits (by omega)
      exact ⟨final, ended, by rwa [List.append_assoc] at all⟩
    · intro full
      rw [room_append] at full
      exact goes.full (by omega)
  · have stopped := puts.full (by omega)
    rw [stopped, error_bind]
    refine ⟨fun fits => ?_, fun _ => rfl⟩
    rw [room_append] at fits
    omega

variable (draft : Draft) (tags : List PPPoETag) (stack : Stack)

theorem intLen_small (uniq : List UInt8) (small : uniq.length < 2 ^ 31) : intLen uniq = uniq.length := by
  unfold intLen
  omega

theorem addInt_tagHdrSize (uniq : List UInt8) (small : intLen uniq + tagHdrSize < 2 ^ 31) :
    addInt (intLen uniq) (tagHdrSize : Int) = .ok (intLen uniq + tagHdrSize) := by
  have low : -2 ^ 31 ≤ intLen uniq := by
    unfold intLen
    omega
  exact if_pos ⟨by omega, small⟩

theorem putHostUniq_full (uniq : List UInt8) (small : intLen uniq + tagHdrSize < 2 ^ 31)
    (full : maxPppoePayload < draft.cursor + (intLen uniq + tagHdrSize)) : putHostUniq draft stack
    (some uniq) = .error .noRoom := by
  unfold putHostUniq
  dsimp only
  rw [addInt_tagHdrSize uniq small, ok_bind, checkRoom_full _ _ full, error_bind]

theorem putHostUniq_undefined (uniq : List UInt8)
    (bad : 2 ^ 31 ≤ intLen uniq + tagHdrSize ∨
    (intLen uniq < 0 ∧ draft.cursor + (intLen uniq + tagHdrSize) ≤ maxPppoePayload)) :
    putHostUniq draft stack (some uniq) = .error .undefined := by
  have four : tagHdrSize = 4 := rfl
  have array : stack.hostUniq.toList.length = 1500 := Vector.length_toList
  unfold putHostUniq
  dsimp only
  rcases bad with large | ⟨negative, inside⟩
  · have whole : addInt (intLen uniq) (tagHdrSize : Int) = .error .undefined := if_neg (by omega)
    rw [whole, error_bind]
  · have huge : 1500 < 0 + sizeT (intLen uniq) := by
      unfold sizeT intLen
      unfold intLen at negative
      omega
    rw [addInt_tagHdrSize uniq (by omega), ok_bind, checkRoom_ok _ _ inside, ok_bind,
      memcpy_undefined _ _ _ _ (by omega), error_bind]

theorem putHostUniq_counted (held : Holds draft tags) (uniq : List UInt8) (len : Nat) (counted : intLen uniq = len)
    (small : len + tagHdrSize < 2 ^ 31) :
    Puts draft tags (putHostUniq draft stack (some uniq)) [⟨tagHostUniq, uniq.take len⟩] := by
  have four : tagHdrSize = 4 := rfl
  have most : maxPppoePayload = 1502 := rfl
  have jumbo : ethJumboLen = 1508 := rfl
  have array : stack.hostUniq.toList.length = 1500 := Vector.length_toList
  have enough : len ≤ uniq.length := by
    unfold intLen at counted
    omega
  have taken : (uniq.take len).length = len := by
    rw [List.length_take]
    omega
  constructor
  · intro fits
    rw [room_cons, room_nil, taken] at fits
    obtain ⟨next, copied, holds, _⟩ := copy_holds draft tags held ⟨tagHostUniq, uniq.take len⟩
      (stack.hostUniq.toList.drop len) (by rw [taken]; omega)
    refine ⟨next, ?_, holds⟩
    rw [taken, ← tagStruct_value, taken] at copied
    unfold putHostUniq
    dsimp only
    rw [addInt_tagHdrSize uniq (by omega), counted, ok_bind, checkRoom_ok _ _ (by omega), ok_bind,
      Client.sizeT_natCast _ (by omega),
      memcpy_ok _ _ _ _ (by omega) enough, ok_bind, uint16_natCast _ (by omega)]
    simpa using copied
  · intro full
    rw [room_cons, room_nil, taken] at full
    exact putHostUniq_full draft stack uniq (by omega) (by omega)

theorem putHostUniq_puts (held : Holds draft tags) (uniq : List UInt8)
    (countable : uniq.length + tagHdrSize < 2 ^ 31 ∨
      (intLen uniq + tagHdrSize < 2 ^ 31 ∧ maxPppoePayload < draft.cursor + (intLen uniq + tagHdrSize))) :
    Puts draft tags (putHostUniq draft stack (some uniq)) [⟨tagHostUniq, uniq⟩] := by
  rcases countable with short | ⟨small, past⟩
  · have counted := putHostUniq_counted draft tags stack held uniq uniq.length (intLen_small uniq (by omega)) short
    rwa [List.take_length] at counted
  · have least : intLen uniq ≤ uniq.length := by
      unfold intLen
      omega
    constructor
    · intro fits
      rw [room_cons, room_nil] at fits
      dsimp only at fits
      omega
    · exact fun _ => putHostUniq_full draft stack uniq small past

theorem putStored_puts (held : Holds draft tags) (inside : draft.cursor ≤ maxPppoePayload) (type : Nat)
    (stored : Option StoredTag) :
    Puts draft tags (putStored draft type stored) (stored.map fun stored => stored.tag type).toList := by
  cases stored with
  | none => exact puts_nil draft tags held inside
  | some stored =>
      have four : tagHdrSize = 4 := rfl
      have most : maxPppoePayload = 1502 := rfl
      have jumbo : ethJumboLen = 1508 := rfl
      have array : stored.payload.toList.length = 1500 := Vector.length_toList
      have taken : (stored.tag type).payload.length = min stored.length.toNat 1500 := by
        unfold StoredTag.tag
        rw [List.length_take, array]
      have whole : (stored.length.toNat : Int) + tagHdrSize = ((stored.length.toNat + tagHdrSize : Nat) : Int) := rfl
      unfold putStored
      dsimp only [Option.map_some, Option.toList_some]
      rw [whole]
      constructor
      · intro fits
        rw [room_cons, room_nil, taken] at fits
        have short : min stored.length.toNat 1500 = stored.length.toNat := by omega
        rw [short] at taken
        obtain ⟨next, copied, holds, _⟩ := copy_holds draft tags held (stored.tag type)
          (stored.payload.toList.drop stored.length.toNat) (by omega)
        refine ⟨next, ?_, holds⟩
        have bytes : tagBytes (stored.tag type) ++ stored.payload.toList.drop stored.length.toNat = stored.bytes
          type := by
          unfold StoredTag.bytes StoredTag.tag
          rw [← tagStruct_value, List.take_append_drop, List.length_take, Nat.min_eq_left (by omega)]
        rw [taken, bytes] at copied
        rw [checkRoom_ok _ _ (by omega), ok_bind, copied]
      · intro full
        rw [room_cons, room_nil, taken] at full
        rw [checkRoom_full _ _ (by omega), error_bind]

theorem putServiceName_puts (name : List UInt8) (count : Nat) (short : name.length + tagHdrSize < 65536)
    (whole : count = name.length) :
    Puts stack.draft [] (putServiceName stack name count) [⟨tagServiceName, name⟩] := by
  have four : tagHdrSize = 4 := rfl
  have most : maxPppoePayload = 1502 := rfl
  have jumbo : stack.payload.toList.length = 1508 := Vector.length_toList
  have counted : nameLen name = name.length := Nat.mod_eq_of_lt (by omega)
  have plen : (tagHdrSize + nameLen name) % 65536 = name.length + tagHdrSize := by omega
  subst whole
  unfold putServiceName
  dsimp only
  rw [plen, counted]
  constructor
  · intro fits
    rw [room_cons, room_nil] at fits
    dsimp only [Stack.draft] at fits
    have header : (tagStruct tagServiceName name.length []).length = tagHdrSize := rfl
    have bytes : tagStruct tagServiceName name.length [] ++ name = tagBytes ⟨tagServiceName, name⟩ := rfl
    rw [checkRoom_ok _ _ (by omega), ok_bind, memcpy_ok _ _ _ _ (by omega) (by omega), ok_bind,
      memcpy_ok _ _ _ _ (by simp only [List.length_append, List.length_take, List.length_drop]; omega) (Nat.le_refl _),
        ok_bind,
      List.take_zero, List.nil_append, List.take_of_length_le
        (by omega : (tagStruct tagServiceName name.length []).length ≤ tagHdrSize),
      List.take_left' header, List.take_length, bytes]
    refine ⟨_, rfl, ?_, ?_, ?_, ?_⟩
    · have jumboLen : ethJumboLen = 1508 := rfl
      simp only [List.length_append, List.length_drop, tagBytes_length, header]
      omega
    · simp [tagBytes_length]
    · refine List.take_left' ?_ |>.trans (by simp)
      rw [tagBytes_length]
    · rfl
  · intro full
    rw [room_cons, room_nil] at full
    rw [checkRoom_full _ _ (by dsimp only [Stack.draft] at full; omega), error_bind]

theorem putServiceName_plen (name : List UInt8) : (tagHdrSize + nameLen name) % 65536 =
    (name.length + tagHdrSize) % 65536 := by
  unfold nameLen
  omega

theorem putServiceName_full (name : List UInt8) (count : Nat)
    (full : maxPppoePayload < (name.length + tagHdrSize) % 65536) :
    putServiceName stack name count = .error .noRoom := by
  unfold putServiceName
  dsimp only
  rw [putServiceName_plen, checkRoom_full _ _ (by omega), error_bind]

theorem putServiceName_undefined (name : List UInt8) (long : 65536 ≤ name.length + tagHdrSize)
    (inside : (name.length + tagHdrSize) % 65536 ≤ maxPppoePayload) :
    putServiceName stack name name.length = .error .undefined := by
  have four : tagHdrSize = 4 := rfl
  have jumbo : stack.payload.toList.length = 1508 := Vector.length_toList
  have header : (tagStruct tagServiceName (nameLen name) []).length = tagHdrSize := rfl
  unfold putServiceName
  dsimp only
  rw [putServiceName_plen, checkRoom_ok _ _ (by omega), ok_bind, memcpy_ok _ _ _ _ (by omega) (by omega), ok_bind,
    memcpy_undefined _ _ _ _ (by simp only [List.length_append, List.length_take, List.length_drop]; omega), error_bind]

end Puts

section Decoding

-- A frame that says what it should: its size is the allowed one at most, and the
-- tag walker reads these tags off it and nothing else.
structure Encodes (sent : Sent) (code : UInt8) (dest source : Mac) (session : UInt16)
    (tags : List PPPoETag) : Prop where
  addressed : sent.packet.hDest = dest ∧ sent.packet.hSource = source
  header : sent.packet.code = code ∧ sent.packet.session = session
  size : sent.size = sent.packet.length + hdrSize
  fits : sent.packet.length ≤ maxPppoePayload
  parsed : (parsePacket sent.packet).2 = true
  decoded : tagsOf sent.packet = tags

-- Nothing is sent, or a frame that is good, and no write leaves the packet.
def NothingOr (good : Sent → Prop) (result : Except Stop Sent) : Prop :=
  match result with
  | .ok sent => good sent
  | .error stop => stop = .noRoom

theorem holds_encodes (draft : Draft) (tags : List PPPoETag) (held : Holds draft tags)
    (inside : draft.cursor ≤ maxPppoePayload)
    (types : ∀ tag ∈ tags, tag.type < 2 ^ 16 ∧ tag.type ≠ tagEndOfList) (dest source : Mac) (code : UInt8)
    (session : UInt16) :
    Encodes (draft.sent dest source code session) code dest source session tags := by
  have most : maxPppoePayload = 1502 := rfl
  have four : tagHdrSize = 4 := rfl
  have length : draft.plen = (tags.flatMap tagBytes).length := held.plen.trans held.cursor
  have encodable : ∀ tag ∈ tags, Encodable tag ∧ tag.type ≠ tagEndOfList := by
    intro tag member
    obtain ⟨typed, notEnd⟩ := types tag member
    have bound := tagBytes_member tags tag member
    have cursor := held.cursor
    rw [tagBytes_length] at bound
    exact ⟨⟨typed, by omega⟩, notEnd⟩
  have payload : draft.payload = tags.flatMap tagBytes ++ draft.payload.drop draft.cursor := by
    rw [← held.written, List.take_append_drop]
  have readable : tagsReadable (draft.sent dest source code session).packet = true := by
    have plen := held.plen
    have short : draft.plen ≤ maxPppoePayload := by omega
    have version : (pppoeVer pppoeVerType == 1 && pppoeType pppoeVerType == 1) = true := by decide
    exact Bool.and_eq_true_iff.mpr ⟨version, decide_eq_true short⟩
  have walked : parsePacket (draft.sent dest source code session).packet =
      tagsFrom (tags.flatMap tagBytes) (tags.flatMap tagBytes).length (tags.flatMap tagBytes).length 0 := by
    unfold parsePacket
    rw [if_pos readable]
    dsimp only [Draft.sent]
    rw [length, payload, tagsFrom_append _ _ _ _ _ (Nat.le_refl _)]
  have enough := tagBytes_count tags
  have tagsRead := tagsFrom_encoded tags [] _ enough encodable
  have endsWell := tagsFrom_encoded_ends tags [] _ enough encodable
  simp only [List.nil_append, List.length_nil, Nat.zero_add] at tagsRead endsWell
  exact
    { addressed := ⟨rfl, rfl⟩
      header := ⟨rfl, rfl⟩
      size := rfl
      fits := by
        have plen := held.plen
        dsimp only [Draft.sent]
        omega
      parsed := by rw [walked, endsWell]
      decoded := by
        unfold tagsOf
        rw [walked, tagsRead] }

theorem puts_sent (stack : Stack) (built : Except Stop Draft) (tags : List PPPoETag)
    (puts : Puts stack.draft [] built tags)
    (types : ∀ tag ∈ tags, tag.type < 2 ^ 16 ∧ tag.type ≠ tagEndOfList) (dest source : Mac) (code : UInt8)
    (session : UInt16) :
    (room tags ≤ maxPppoePayload → ∃ sent, (built >>= fun draft => .ok (draft.sent dest source code session)) = .ok
    sent ∧
      Encodes sent code dest source session tags) ∧
    (maxPppoePayload < room tags → (built >>= fun draft => .ok (draft.sent dest source code session)) = .error
    .noRoom) := by
  have start : stack.draft.cursor = 0 := rfl
  constructor
  · intro fits
    obtain ⟨draft, reached, held⟩ := puts.fits (by omega)
    rw [List.nil_append] at held
    have cursor : draft.cursor = room tags := held.cursor
    exact ⟨_, by rw [reached, ok_bind], holds_encodes draft tags held (by omega) types dest source code session⟩
  · intro full
    rw [puts.full (by omega), error_bind]

theorem puts_nothingOr (stack : Stack) (built : Except Stop Draft) (tags : List PPPoETag)
    (puts : Puts stack.draft [] built tags)
    (types : ∀ tag ∈ tags, tag.type < 2 ^ 16 ∧ tag.type ≠ tagEndOfList) (dest source : Mac) (code : UInt8)
    (session : UInt16) :
    NothingOr (fun sent => Encodes sent code dest source session tags)
      (built >>= fun draft => .ok (draft.sent dest source code session)) := by
  obtain ⟨whole, nothing⟩ := puts_sent stack built tags puts types dest source code session
  by_cases fits : room tags ≤ maxPppoePayload
  · obtain ⟨sent, shown, encodes⟩ := whole fits
    rw [shown]
    exact encodes
  · rw [nothing (by omega)]
    rfl

end Decoding

end ZyAgf.Pppoe.Frames
