import ZyAgf.Pppoe.DiscoveryRequests

set_option autoImplicit false

namespace ZyAgf.Pppoe.Frames

open Client (Request tagsOf sizeT)

-- The room of the optional tags of a connection, the Host-Uniq as its int counts it.
def uniqRoom (req : Request) : Int :=
  match req.hostUniq with
  | none => 0
  | some uniq => intLen uniq + tagHdrSize

def storedRoom (stored : Option StoredTag) : Nat :=
  match stored with
  | none => 0
  | some stored => stored.length.toNat + tagHdrSize

def countedUniq (req : Request) : List PPPoETag :=
  (req.hostUniq.map fun uniq => ⟨tagHostUniq, uniq.take (intLen uniq).toNat⟩).toList

def padtTags (req : Request) (peer : Peer) (msg : List UInt8) : List PPPoETag :=
  countedUniq req ++ ([⟨tagGenericError, msg⟩] ++ heldTags peer)

-- The session is cleared, and its PADT has been sent.
structure PadtSent (req : Request) (peer : Peer) (msg : List UInt8)
    (result : Peer × Option (Except Stop Sent)) : Prop where
  cleared : result.1 = { peer with session := 0 }
  sent : ∃ sent, result.2 = some (.ok sent) ∧
    Encodes sent codePADT peer.peerEth req.myEth peer.session (padtTags req peer msg)

section Inversion

theorem ok_of_bind {α β : Type} {first : Except Stop α} {later : α → Except Stop β} {b : β}
    (ran : (first >>= later) = .ok b) :
    ∃ a, first = .ok a ∧ later a = .ok b := by
  cases first with
  | error stop => cases ran
  | ok a => exact ⟨a, rfl, ran⟩

theorem checkRoom_inside (cursor : Nat) (len : Int) (checked : checkRoom cursor len = .ok ()) :
    (cursor : Int) + len ≤ maxPppoePayload := by
  unfold checkRoom at checked
  split at checked
  · cases checked
  · omega

theorem memcpy_inside (dest source : List UInt8) (place n : Nat) (copied : List UInt8)
    (ran : memcpy dest place source n = .ok copied) :
    place + n ≤ dest.length ∧ n ≤ source.length := by
  unfold memcpy at ran
  split at ran
  · assumption
  · cases ran

theorem copy_cursor (draft next : Draft) (bytes : List UInt8) (n : Int) (ran : draft.copy bytes n = .ok next) :
    next.cursor = draft.cursor + n.toNat := by
  unfold Draft.copy at ran
  obtain ⟨payload, _, made⟩ := ok_of_bind ran
  obtain rfl := Except.ok.inj made
  rfl

theorem putHostUniq_inside (req : Request) (draft next : Draft) (stack : Stack)
    (ran : putHostUniq draft stack req.hostUniq = .ok next)
    (inside : draft.cursor ≤ maxPppoePayload) :
    (next.cursor : Int) = draft.cursor + uniqRoom req ∧ next.cursor ≤ maxPppoePayload ∧
      ∀ uniq, req.hostUniq = some uniq → 0 ≤ intLen uniq := by
  unfold putHostUniq at ran
  unfold uniqRoom
  cases asked : req.hostUniq with
  | none =>
      rw [asked] at ran
      obtain rfl := Except.ok.inj ran
      simp [inside]
  | some uniq =>
      rw [asked] at ran
      have array : stack.hostUniq.toList.length = 1500 := Vector.length_toList
      have four : tagHdrSize = 4 := rfl
      obtain ⟨whole, added, ran⟩ := ok_of_bind ran
      obtain ⟨_, checked, ran⟩ := ok_of_bind ran
      obtain ⟨body, copied, ran⟩ := ok_of_bind ran
      have sum : whole = intLen uniq + tagHdrSize := by
        unfold addInt at added
        split at added
        · exact (Except.ok.inj added).symm
        · cases added
      have fits := checkRoom_inside _ _ checked
      have copies := (memcpy_inside _ _ _ _ _ copied).1
      have positive : 0 ≤ intLen uniq := by
        unfold sizeT intLen at copies
        unfold intLen
        omega
      have cursor := copy_cursor _ _ _ _ ran
      dsimp only
      refine ⟨by omega, by omega, ?_⟩
      rintro _ same
      obtain rfl := Option.some.inj same
      exact positive

theorem putStored_inside (draft next : Draft) (type : Nat) (stored : Option StoredTag)
    (ran : putStored draft type stored = .ok next) :
    next.cursor = draft.cursor + storedRoom stored ∧ (stored.isSome → next.cursor ≤ maxPppoePayload) := by
  unfold putStored at ran
  cases stored with
  | none =>
      obtain rfl := Except.ok.inj ran
      exact ⟨rfl, fun impossible => by cases impossible⟩
  | some stored =>
      obtain ⟨_, checked, ran⟩ := ok_of_bind ran
      have fits := checkRoom_inside _ _ checked
      have cursor := copy_cursor _ _ _ _ ran
      unfold storedRoom
      dsimp only
      exact ⟨by omega, fun _ => by omega⟩

theorem putServiceName_cursor (stack : Stack) (name : List UInt8) (count : Nat) (draft : Draft)
    (ran : putServiceName stack name count = .ok draft) (counted : count = nameLen name) :
    tagHdrSize ≤ draft.cursor ∧ draft.cursor ≤ maxPppoePayload := by
  have four : tagHdrSize = 4 := rfl
  have most : maxPppoePayload = 1502 := rfl
  have jumbo : stack.payload.toList.length = 1508 := Vector.length_toList
  have header : (tagStruct tagServiceName (nameLen name) []).length = tagHdrSize := rfl
  unfold putServiceName at ran
  obtain ⟨_, checked, ran⟩ := ok_of_bind ran
  have fits := checkRoom_inside _ _ checked
  rw [memcpy_ok _ _ _ _ (by omega) (by omega), ok_bind] at ran
  obtain ⟨payload, copied, made⟩ := ok_of_bind ran
  have inside := (memcpy_inside _ _ _ _ _ copied).1
  simp only [List.length_append, List.length_take, List.length_drop] at inside
  obtain rfl := Except.ok.inj made
  dsimp only
  omega

theorem padr_inside (req : Request) (peer : Peer) (stack : Stack) (sent : Sent)
    (built : sendPADR req peer stack = .ok sent) :
    tagHdrSize + uniqRoom req + storedRoom peer.cookie + storedRoom peer.relayId ≤ maxPppoePayload ∧
      ∀ uniq, req.hostUniq = some uniq → 0 ≤ intLen uniq := by
  rw [sendPADR_eq] at built
  obtain ⟨final, ran, _⟩ := ok_of_bind built
  unfold padrDraft at ran
  obtain ⟨first, named, ran⟩ := ok_of_bind ran
  obtain ⟨second, marked, ran⟩ := ok_of_bind ran
  obtain ⟨third, held, ran⟩ := ok_of_bind ran
  obtain ⟨low, high⟩ := putServiceName_cursor _ _ _ _ named rfl
  obtain ⟨afterUniq, inside, positive⟩ := putHostUniq_inside _ _ _ _ marked high
  obtain ⟨afterCookie, cookieFits⟩ := putStored_inside _ _ _ _ held
  obtain ⟨afterRelay, relayFits⟩ := putStored_inside _ _ _ _ ran
  refine ⟨?_, positive⟩
  have whole : third.cursor ≤ maxPppoePayload := by
    cases stored : peer.cookie with
    | none =>
        rw [stored] at afterCookie
        exact afterCookie ▸ inside
    | some cookie => exact cookieFits (by rw [stored]; rfl)
  have last : final.cursor ≤ maxPppoePayload := by
    cases stored : peer.relayId with
    | none =>
        rw [stored] at afterRelay
        exact afterRelay ▸ whole
    | some relayId => exact relayFits (by rw [stored]; rfl)
  omega

end Inversion

section Padt

variable (req : Request) (peer : Peer) (stack : Stack)

theorem copyHostUniq_holds (positive : ∀ uniq, req.hostUniq = some uniq → 0 ≤ intLen uniq)
    (inside : uniqRoom req ≤ maxPppoePayload) :
    ∃ draft, copyHostUniq stack.draft stack req.hostUniq = .ok draft ∧ Holds draft (countedUniq req) ∧
      (draft.cursor : Int) = uniqRoom req := by
  have four : tagHdrSize = 4 := rfl
  have most : maxPppoePayload = 1502 := rfl
  have jumbo : ethJumboLen = 1508 := rfl
  have start : stack.draft.cursor = 0 := rfl
  have array : stack.hostUniq.toList.length = 1500 := Vector.length_toList
  unfold copyHostUniq countedUniq
  unfold uniqRoom at inside ⊢
  cases asked : req.hostUniq with
  | none => exact ⟨stack.draft, rfl, stack_holds stack, rfl⟩
  | some uniq =>
      rw [asked] at inside
      dsimp only at inside ⊢
      obtain ⟨len, counted⟩ := Int.eq_ofNat_of_zero_le (positive uniq asked)
      have enough : len ≤ uniq.length := by
        unfold intLen at counted
        omega
      have taken : (uniq.take len).length = len := by
        rw [List.length_take]
        omega
      obtain ⟨next, copied, holds, cursor⟩ := copy_holds stack.draft [] (stack_holds stack) ⟨tagHostUniq, uniq.take len⟩
        (stack.hostUniq.toList.drop len) (by rw [taken]; omega)
      rw [taken, ← tagStruct_value, taken] at copied
      rw [taken] at cursor
      refine ⟨next, ?_, ?_, by omega⟩
      · rw [addInt_tagHdrSize uniq (by omega), counted, Client.sizeT_natCast _ (by omega),
          memcpy_ok _ _ _ _ (by omega) enough, ok_bind,
          ok_bind, checkRoom_ok _ _ (by omega), ok_bind, uint16_natCast _ (by omega)]
        simpa using copied
      · simpa [counted] using holds

theorem copyError_holds (draft : Draft) (tags : List PPPoETag) (held : Holds draft tags) (msg : List UInt8)
    (short : msg.length ≤ 511)
    (inside : draft.cursor + (msg.length + tagHdrSize) ≤ ethJumboLen) :
    ∃ next, copyError draft stack (some msg) = .ok next ∧ Holds next (tags ++ [⟨tagGenericError, msg⟩]) ∧
      next.cursor = draft.cursor + (msg.length + tagHdrSize) := by
  have four : tagHdrSize = 4 := rfl
  have array : stack.err.toList.length = 1500 := Vector.length_toList
  have terminated : (msg ++ [0]).length = msg.length + 1 := by simp
  obtain ⟨next, copied, holds, cursor⟩ := copy_holds draft tags held ⟨tagGenericError, msg⟩
    (0 :: stack.err.toList.drop (msg.length + 1)) inside
  refine ⟨next, ?_, holds, cursor⟩
  rw [← tagStruct_value] at copied
  unfold copyError
  dsimp only
  rw [memcpy_ok _ _ _ _ (by omega) (by omega), ok_bind, uint16_natCast _ (by omega), List.take_zero, List.nil_append,
    List.take_of_length_le (by omega : (msg ++ [0]).length ≤ msg.length + 1), Nat.zero_add, List.append_assoc]
  exact copied

theorem copyError_undefined (draft : Draft) (tags : List PPPoETag) (held : Holds draft tags) (msg : List UInt8)
    (short : msg.length ≤ 511)
    (past : ethJumboLen < draft.cursor + (msg.length + tagHdrSize)) : copyError draft stack
    (some msg) = .error .undefined := by
  have four : tagHdrSize = 4 := rfl
  have array : stack.err.toList.length = 1500 := Vector.length_toList
  have terminated : (msg ++ [0]).length = msg.length + 1 := by simp
  unfold copyError
  dsimp only
  rw [memcpy_ok _ _ _ _ (by omega) (by omega), ok_bind]
  exact copy_undefined draft tags held _ _ (by omega) past

theorem heldTags_puts (draft : Draft) (tags : List PPPoETag) (held : Holds draft tags)
    (inside : draft.cursor ≤ maxPppoePayload) :
    Puts draft tags (putStored draft tagAcCookie peer.cookie >>= fun draft =>
      putStored draft tagRelaySessionId peer.relayId)
      (heldTags peer) := by
  refine puts_bind _ _ held _ _ _ _ (putStored_puts draft _ held inside tagAcCookie peer.cookie) ?_
  intro draft held inside
  exact putStored_puts draft _ held inside tagRelaySessionId peer.relayId

theorem storedRoom_tag (stored : Option StoredTag) (type : Nat) (inside : storedRoom stored ≤ maxPppoePayload) :
    room (stored.map fun stored => stored.tag type).toList = storedRoom stored := by
  have most : maxPppoePayload = 1502 := rfl
  have four : tagHdrSize = 4 := rfl
  cases stored with
  | none => rfl
  | some stored =>
      have array : stored.payload.toList.length = 1500 := Vector.length_toList
      unfold storedRoom at inside ⊢
      dsimp only at inside ⊢
      simp only [Option.map_some, Option.toList_some, room_cons, room_nil, StoredTag.tag, List.length_take]
      omega

theorem heldTags_room (cookie : storedRoom peer.cookie ≤ maxPppoePayload)
    (relayId : storedRoom peer.relayId ≤ maxPppoePayload) :
    room (heldTags peer) = storedRoom peer.cookie + storedRoom peer.relayId := by
  unfold heldTags
  rw [room_append, storedRoom_tag _ _ cookie, storedRoom_tag _ _ relayId]

theorem padtTags_types (msg : List UInt8) : ProperTypes (padtTags req peer msg) :=
  properTypes_append _ _
    (properTypes_map req.hostUniq _ fun _ => (by decide : tagHostUniq < 2 ^ 16 ∧ tagHostUniq ≠ tagEndOfList))
    (properTypes_append _ _ (properTypes_single _ _ (by decide)) (heldTags_types peer))

end Padt

section Building

variable (req : Request) (peer : Peer) (stack : Stack) (msg : List UInt8) (short : msg.length ≤ 511)
  (positive : ∀ uniq, req.hostUniq = some uniq → 0 ≤ intLen uniq)
  (rooms : tagHdrSize + uniqRoom req + storedRoom peer.cookie + storedRoom peer.relayId ≤ maxPppoePayload)

theorem buildPADT_eq (first : Draft) (marked : copyHostUniq stack.draft stack req.hostUniq = .ok first) :
    buildPADT req peer (some msg) stack =
      ((copyError first stack (some msg) >>= fun draft => putStored draft tagAcCookie peer.cookie >>= fun draft =>
        putStored draft tagRelaySessionId peer.relayId) >>=
          fun draft => .ok (draft.sent peer.peerEth req.myEth codePADT peer.session)) := by
  unfold buildPADT
  rw [marked, ok_bind]
  simp only [bind_assoc]

include positive in
theorem uniqRoom_nonneg : 0 ≤ uniqRoom req := by
  unfold uniqRoom
  cases asked : req.hostUniq with
  | none => exact Int.le_refl 0
  | some uniq =>
      have low := positive uniq asked
      dsimp only
      omega

include short positive in
theorem buildPADT_fits
    (fits : uniqRoom req + (msg.length + tagHdrSize) + storedRoom peer.cookie + storedRoom peer.relayId ≤
    maxPppoePayload) :
    ∃ sent, buildPADT req peer (some msg) stack = .ok sent ∧
      Encodes sent codePADT peer.peerEth req.myEth peer.session (padtTags req peer msg) := by
  have four : tagHdrSize = 4 := rfl
  have most : maxPppoePayload = 1502 := rfl
  have jumbo : ethJumboLen = 1508 := rfl
  have low := uniqRoom_nonneg req positive
  obtain ⟨first, marked, held, start⟩ := copyHostUniq_holds req stack positive (by omega)
  obtain ⟨second, noted, holds, next⟩ := copyError_holds stack first _ held msg short (by omega)
  have heldRoom := heldTags_room peer (by omega) (by omega)
  obtain ⟨final, stored, all⟩ := (heldTags_puts peer second _ holds (by omega)).fits (by omega)
  rw [buildPADT_eq req peer stack msg first marked, noted, ok_bind, stored, ok_bind]
  have cursor : final.cursor = room (padtTags req peer msg) := by
    rw [all.cursor, List.append_assoc]
    rfl
  have counted : first.cursor = room (countedUniq req) := held.cursor
  refine ⟨_, rfl, ?_⟩
  rw [List.append_assoc] at all
  refine holds_encodes final _ all ?_ (padtTags_types req peer msg) _ _ _ _
  rw [cursor]
  unfold padtTags
  rw [room_append, room_append, room_cons, room_nil, heldRoom]
  dsimp only
  omega

include short positive rooms in
theorem buildPADT_inside (sent : Sent) (built : buildPADT req peer (some msg) stack = .ok sent)
    (allowed : sent.packet.length ≤ maxPppoePayload) :
    uniqRoom req + (msg.length + tagHdrSize) + storedRoom peer.cookie + storedRoom peer.relayId ≤ maxPppoePayload := by
  have four : tagHdrSize = 4 := rfl
  have most : maxPppoePayload = 1502 := rfl
  have low := uniqRoom_nonneg req positive
  obtain ⟨first, marked, held, start⟩ := copyHostUniq_holds req stack positive (by omega)
  rw [buildPADT_eq req peer stack msg first marked] at built
  obtain ⟨final, ran, made⟩ := ok_of_bind built
  obtain ⟨second, noted, ran⟩ := ok_of_bind ran
  obtain ⟨third, cookied, relayed⟩ := ok_of_bind ran
  have inside : first.cursor + (msg.length + tagHdrSize) ≤ ethJumboLen := by
    by_contra past
    rw [copyError_undefined stack first _ held msg short (by omega)] at noted
    cases noted
  obtain ⟨next, same, holds, cursor⟩ := copyError_holds stack first _ held msg short inside
  obtain rfl := Except.ok.inj (noted.symm.trans same)
  obtain ⟨afterCookie, cookieFits⟩ := putStored_inside _ _ _ _ cookied
  obtain ⟨afterRelay, relayFits⟩ := putStored_inside _ _ _ _ relayed
  -- The last tag that is put had its room checked; without one it is the error
  -- tag that counts.
  have last : final.cursor ≤ maxPppoePayload := by
    cases relayId : peer.relayId with
    | some stored => exact relayFits (by rw [relayId]; rfl)
    | none =>
        rw [relayId] at relayed
        obtain rfl := Except.ok.inj relayed
        cases cookie : peer.cookie with
        | some stored => exact cookieFits (by rw [cookie]; rfl)
        | none =>
            rw [cookie] at cookied
            obtain rfl := Except.ok.inj cookied
            obtain rfl := Except.ok.inj made
            have counted := holds.plen
            dsimp only [Draft.sent] at allowed
            omega
  omega

end Building

-- For every connection whose PADR could be built, and every text: the PADT goes
-- out just where all its tags have room.
theorem padt_sent_iff (req : Request) (peer : Peer) (discoverySocket : Int) (text : List UInt8) (stack earlier : Stack)
    (padr : Sent)
    (established : peer.session ≠ 0) (opened : 0 ≤ discoverySocket) (buildable : sendPADR req peer earlier = .ok padr) :
    PadtSent req peer (text.take 511) (sendPADTf req peer discoverySocket text stack) ↔
      uniqRoom req + ((text.take 511).length + tagHdrSize) + storedRoom peer.cookie + storedRoom peer.relayId ≤
        maxPppoePayload := by
  obtain ⟨rooms, positive⟩ := padr_inside req peer earlier padr buildable
  have short : (text.take 511).length ≤ 511 := List.length_take_le _ _
  have run : sendPADTf req peer discoverySocket text stack =
      ({ peer with session := 0 }, some (buildPADT req peer (some (text.take 511)) stack)) := by
    unfold sendPADTf sendPADT
    rw [if_neg established, if_neg (by omega)]
  rw [run]
  constructor
  · rintro ⟨_, sent, shown, encodes⟩
    exact buildPADT_inside req peer stack _ short positive rooms sent (Option.some.inj shown) encodes.fits
  · intro fits
    obtain ⟨sent, built, encodes⟩ := buildPADT_fits req peer stack _ short positive fits
    exact ⟨rfl, sent, by rw [built], encodes⟩

def plainRequest : Request := ⟨Vector.replicate 6 2, none, none, none, false, false⟩

-- A cookie of 1490 bytes leaves room for the PADR's empty service name, and not
-- for a message of nine characters.
def largeCookie : Peer := ⟨Vector.replicate 6 4, 0x0100, some ⟨1490, Vector.replicate _ 7⟩, none⟩

def smallCookie : Peer := ⟨Vector.replicate 6 4, 0x0100, some ⟨16, Vector.replicate _ 7⟩, none⟩

def timedOut : List UInt8 := [0x54, 0x69, 0x6d, 0x65, 0x64, 0x20, 0x6f, 0x75, 0x74]

theorem padt_sent_timedOut : PadtSent plainRequest smallCookie timedOut
    (sendPADTf plainRequest smallCookie 3 timedOut blankStack) := by
  have buildable : (sendPADR plainRequest smallCookie blankStack).isOk = true := by decide +kernel
  cases built : sendPADR plainRequest smallCookie blankStack with
  | error stop =>
      rw [built] at buildable
      cases buildable
  | ok padr =>
      exact (padt_sent_iff plainRequest smallCookie 3 timedOut blankStack blankStack padr (by decide)
        (by decide) built).mpr (by decide)

theorem padt_dropped : (sendPADR plainRequest largeCookie blankStack).isOk = true ∧
    (sendPADTf plainRequest largeCookie 3 timedOut blankStack).1.session = 0 ∧
    (sendPADTf plainRequest largeCookie 3 timedOut blankStack).2 = some (.error .noRoom) ∧
    ¬ PadtSent plainRequest largeCookie timedOut (sendPADTf plainRequest largeCookie 3 timedOut blankStack) := by
  have dropped : (sendPADTf plainRequest largeCookie 3 timedOut blankStack).2 = some (.error .noRoom) := by
    decide +kernel
  refine ⟨by decide +kernel, by decide +kernel, dropped, ?_⟩
  rintro ⟨_, sent, shown, _⟩
  rw [dropped] at shown
  cases shown

end ZyAgf.Pppoe.Frames
