import ZyAgf.Pppoe.DiscoveryFrames

set_option autoImplicit false

namespace ZyAgf.Pppoe.Frames

open Client (Request omitServiceName tagsOf)

-- The tags a PADI and a PADR are to carry. A client that asks for no service name
-- leaves that tag out of its PADI.
def uniqTag (req : Request) : List PPPoETag := (req.hostUniq.map fun uniq => ⟨tagHostUniq, uniq⟩).toList

def padiTags (req : Request) : List PPPoETag :=
  (if req.serviceName = some omitServiceName then [] else [⟨tagServiceName, req.serviceName.getD []⟩]) ++ uniqTag req

def heldTags (peer : Peer) : List PPPoETag :=
  (peer.cookie.map fun stored => stored.tag tagAcCookie).toList ++
    (peer.relayId.map fun stored => stored.tag tagRelaySessionId).toList

def padrTags (req : Request) (peer : Peer) : List PPPoETag :=
  [⟨tagServiceName, req.serviceName.getD []⟩] ++ (uniqTag req ++ heldTags peer)

def serviceRoom (req : Request) : Nat :=
  if req.serviceName = some omitServiceName then 0 else ((req.serviceName.getD []).length + tagHdrSize) % 65536

-- The lengths are within what counts them, or what is counted finds no room.
structure Countable (req : Request) : Prop where
  name : (req.serviceName.getD []).length + tagHdrSize < 65536 ∨
    maxPppoePayload < ((req.serviceName.getD []).length + tagHdrSize) % 65536
  uniq : ∀ uniq, req.hostUniq = some uniq → uniq.length + tagHdrSize < 2 ^ 31 ∨ maxPppoePayload < serviceRoom req ∨
    (intLen uniq + tagHdrSize < 2 ^ 31 ∧ maxPppoePayload < serviceRoom req + (intLen uniq + tagHdrSize))

abbrev PadiEncodes (req : Request) (stack : Stack) : Prop :=
  NothingOr (fun sent => Encodes sent codePADI (Vector.replicate 6 0xff) req.myEth 0 (padiTags req))
    (sendPADI req stack)

abbrev PadrEncodes (req : Request) (peer : Peer) (stack : Stack) : Prop :=
  NothingOr (fun sent => Encodes sent codePADR peer.peerEth req.myEth 0 (padrTags req peer)) (sendPADR req peer stack)

-- Discovery's tag types are words, and none of them ends the list.
def ProperTypes (tags : List PPPoETag) : Prop := ∀ tag ∈ tags, tag.type < 2 ^ 16 ∧ tag.type ≠ tagEndOfList

theorem properTypes_append (tags more : List PPPoETag) (one : ProperTypes tags) (two : ProperTypes more) :
    ProperTypes (tags ++ more) := by
  intro tag member
  rcases List.mem_append.mp member with first | later
  · exact one tag first
  · exact two tag later

theorem properTypes_single (type : Nat) (value : List UInt8) (small : type < 2 ^ 16 ∧ type ≠ tagEndOfList) :
    ProperTypes [⟨type, value⟩] := by
  intro tag member
  rw [List.mem_singleton.mp member]
  exact small

theorem properTypes_map {α : Type} (held : Option α) (make : α → PPPoETag)
    (small : ∀ a, (make a).type < 2 ^ 16 ∧ (make a).type ≠ tagEndOfList) :
    ProperTypes (held.map make).toList := by
  cases held with
  | none => simp [ProperTypes]
  | some a =>
      intro tag member
      rw [List.mem_singleton.mp member]
      exact small a

theorem uniqTag_types (req : Request) : ProperTypes (uniqTag req) :=
  properTypes_map req.hostUniq _ fun _ => (by decide : tagHostUniq < 2 ^ 16 ∧ tagHostUniq ≠ tagEndOfList)

theorem heldTags_types (peer : Peer) : ProperTypes (heldTags peer) :=
  properTypes_append _ _
    (properTypes_map peer.cookie _ fun _ => (by decide : tagAcCookie < 2 ^ 16 ∧ tagAcCookie ≠ tagEndOfList))
    (properTypes_map peer.relayId _ fun _ =>
    (by decide : tagRelaySessionId < 2 ^ 16 ∧ tagRelaySessionId ≠ tagEndOfList))

theorem padiTags_types (req : Request) : ProperTypes (padiTags req) := by
  refine properTypes_append _ _ ?_ (uniqTag_types req)
  split
  · simp [ProperTypes]
  · exact properTypes_single _ _ (by decide)

theorem padrTags_types (req : Request) (peer : Peer) : ProperTypes (padrTags req peer) :=
  properTypes_append _ _ (properTypes_single _ _ (by decide))
    (properTypes_append _ _ (uniqTag_types req) (heldTags_types peer))

theorem serviceDraft_puts (req : Request) (stack : Stack)
    (short : (req.serviceName.getD []).length + tagHdrSize < 65536) :
    Puts stack.draft [] (serviceDraft req stack)
      (if req.serviceName = some omitServiceName then [] else [⟨tagServiceName, req.serviceName.getD []⟩]) := by
  unfold serviceDraft
  split
  · exact puts_nil _ _ (stack_holds stack) (Nat.zero_le _)
  · exact putServiceName_puts stack _ _ short rfl

theorem sendPADI_eq (req : Request) (stack : Stack) :
    sendPADI req stack = ((serviceDraft req stack >>= fun draft => putHostUniq draft stack req.hostUniq) >>=
      fun draft => .ok (draft.sent (Vector.replicate 6 0xff) req.myEth codePADI 0)) := by
  unfold sendPADI
  rw [bind_assoc]

theorem serviceRoom_tags (req : Request) (short : (req.serviceName.getD []).length + tagHdrSize < 65536) :
    room (if req.serviceName = some omitServiceName then [] else [⟨tagServiceName, req.serviceName.getD []⟩]) =
      serviceRoom req := by
  unfold serviceRoom
  split
  · rfl
  · rw [Nat.mod_eq_of_lt short]
    simp

theorem sendPADI_full (req : Request) (stack : Stack) (other : req.serviceName ≠ some omitServiceName)
    (full : maxPppoePayload < ((req.serviceName.getD []).length + tagHdrSize) % 65536) : sendPADI req stack = .error
    .noRoom := by
  unfold sendPADI serviceDraft
  rw [if_neg other, putServiceName_full _ _ _ full, error_bind]

theorem sendPADR_full (req : Request) (peer : Peer) (stack : Stack)
    (full : maxPppoePayload < ((req.serviceName.getD []).length + tagHdrSize) % 65536) : sendPADR req peer stack =
    .error .noRoom := by
  unfold sendPADR
  rw [putServiceName_full _ _ _ full, error_bind]

theorem omit_short (req : Request) (omitted : req.serviceName = some omitServiceName) :
    (req.serviceName.getD []).length + tagHdrSize = 37 := by
  rw [omitted]
  decide

theorem serviceRoom_le (req : Request) (short : (req.serviceName.getD []).length + tagHdrSize < 65536) :
    serviceRoom req ≤ (req.serviceName.getD []).length + tagHdrSize := by
  unfold serviceRoom
  split <;> omega

theorem putHostUniq_option (req : Request) (stack : Stack) (draft : Draft) (tags : List PPPoETag)
    (held : Holds draft tags)
    (inside : draft.cursor ≤ maxPppoePayload)
    (countable : ∀ uniq, req.hostUniq = some uniq → uniq.length + tagHdrSize < 2 ^ 31 ∨
      (intLen uniq + tagHdrSize < 2 ^ 31 ∧ maxPppoePayload < draft.cursor + (intLen uniq + tagHdrSize))) :
    Puts draft tags (putHostUniq draft stack req.hostUniq) (uniqTag req) := by
  unfold uniqTag
  cases asked : req.hostUniq with
  | none => exact puts_nil draft tags held inside
  | some uniq => exact putHostUniq_puts draft tags stack held uniq (countable uniq asked)

theorem padi_puts (req : Request) (stack : Stack) (countable : Countable req)
    (short : (req.serviceName.getD []).length + tagHdrSize < 65536) :
    Puts stack.draft [] (serviceDraft req stack >>= fun draft => putHostUniq draft stack req.hostUniq)
      (padiTags req) := by
  refine puts_bind _ _ (stack_holds stack) _ _ _ _ (serviceDraft_puts req stack short) ?_
  intro draft held inside
  have cursor : draft.cursor = serviceRoom req := by
    rw [held.cursor, List.nil_append]
    exact serviceRoom_tags req short
  refine putHostUniq_option req stack draft _ held inside fun uniq asked => ?_
  rcases countable.uniq uniq asked with fits | past | past
  · exact .inl fits
  · omega
  · rw [cursor]
    exact .inr past

def padrDraft (req : Request) (peer : Peer) (stack : Stack) : Except Stop Draft :=
  putServiceName stack (req.serviceName.getD []) (nameLen (req.serviceName.getD [])) >>= fun draft =>
    putHostUniq draft stack req.hostUniq >>= fun draft =>
      putStored draft tagAcCookie peer.cookie >>= fun draft => putStored draft tagRelaySessionId peer.relayId

theorem sendPADR_eq (req : Request) (peer : Peer) (stack : Stack) :
    sendPADR req peer stack = (padrDraft req peer stack >>= fun draft =>
      .ok (draft.sent peer.peerEth req.myEth codePADR 0)) := by
  unfold sendPADR padrDraft
  simp only [bind_assoc]

theorem padr_puts (req : Request) (peer : Peer) (stack : Stack) (countable : Countable req)
    (short : (req.serviceName.getD []).length + tagHdrSize < 65536) :
    Puts stack.draft [] (padrDraft req peer stack) (padrTags req peer) := by
  refine puts_bind _ _ (stack_holds stack) _ _ _ _ (putServiceName_puts stack _ _ short (Nat.mod_eq_of_lt (by omega)))
    ?_
  intro draft held inside
  have cursor : draft.cursor = (req.serviceName.getD []).length + tagHdrSize := by
    rw [held.cursor]
    simp [tagBytes_length]
  have least := serviceRoom_le req short
  refine puts_bind _ _ held _ _ _ _ (putHostUniq_option req stack draft _ held inside fun uniq asked => ?_) ?_
  · rcases countable.uniq uniq asked with fits | past | ⟨small, past⟩
    · exact .inl fits
    · omega
    · exact .inr ⟨small, by omega⟩
  · intro draft held inside
    refine puts_bind _ _ held _ _ _ _ (putStored_puts draft _ held inside tagAcCookie peer.cookie) ?_
    intro draft held inside
    exact putStored_puts draft _ held inside tagRelaySessionId peer.relayId

theorem padi_encodes (req : Request) (stack : Stack) (countable : Countable req) : PadiEncodes req stack := by
  unfold PadiEncodes
  by_cases short : (req.serviceName.getD []).length + tagHdrSize < 65536
  · rw [sendPADI_eq]
    exact puts_nothingOr stack _ _ (padi_puts req stack countable short) (padiTags_types req) _ _ _ _
  · have full := countable.name.resolve_left short
    have other : req.serviceName ≠ some omitServiceName := by
      intro omitted
      have thirty := omit_short req omitted
      omega
    rw [sendPADI_full req stack other full]
    rfl

theorem padr_encodes (req : Request) (peer : Peer) (stack : Stack)
    (countable : Countable req) : PadrEncodes req peer stack := by
  unfold PadrEncodes
  by_cases short : (req.serviceName.getD []).length + tagHdrSize < 65536
  · rw [sendPADR_eq]
    exact puts_nothingOr stack _ _ (padr_puts req peer stack countable short) (padrTags_types req peer) _ _ _ _
  · have full := countable.name.resolve_left short
    rw [sendPADR_full req peer stack full]
    rfl

section Client

open Client (Config Connection putTag buildFrame)

theorem putTag_foldlM (tags : List PPPoETag) (payload : List UInt8) (inside : payload.length ≤ maxPppoePayload) :
    tags.foldlM putTag payload =
      if payload.length + room tags ≤ maxPppoePayload then some (payload ++ tags.flatMap tagBytes) else none := by
  induction tags generalizing payload with
  | nil => simp [inside]
  | cons tag tags ih =>
      rw [List.foldlM_cons, room_cons]
      unfold putTag
      by_cases past : payload.length + (tag.payload.length + tagHdrSize) > maxPppoePayload
      · rw [if_pos past, if_neg (by omega)]
        rfl
      · have length : (payload ++ tagBytes tag).length = payload.length + (tag.payload.length + tagHdrSize) := by
          rw [List.length_append, tagBytes_length]
        rw [if_neg past]
        change tags.foldlM putTag (payload ++ tagBytes tag) = _
        rw [ih _ (by omega), length, Nat.add_assoc, List.append_assoc, List.flatMap_cons]

theorem puts_buildFrame (stack : Stack) (built : Except Stop Draft) (tags : List PPPoETag)
    (puts : Puts stack.draft [] built tags)
    (dest source : Mac) (code : UInt8) :
    (buildFrame dest source code tags = none → (built >>= fun draft => .ok (draft.sent dest source code 0)) = .error
    .noRoom) ∧
    ∀ frame, buildFrame dest source code tags = some frame → ∃ rest,
      (built >>= fun draft => .ok (draft.sent dest source code 0)) =
        .ok ⟨{ frame with payload := frame.payload ++ rest }, frame.length + hdrSize⟩ := by
  have start : stack.draft.cursor = 0 := rfl
  unfold buildFrame
  rw [putTag_foldlM tags [] (Nat.zero_le _), List.length_nil, Nat.zero_add, List.nil_append]
  by_cases fits : room tags ≤ maxPppoePayload
  · rw [if_pos fits]
    refine ⟨fun impossible => (Option.some_ne_none _ impossible).elim, fun frame same => ?_⟩
    obtain rfl := Option.some.inj same
    obtain ⟨draft, reached, held⟩ := puts.fits (by omega)
    rw [List.nil_append] at held
    refine ⟨draft.payload.drop draft.cursor, ?_⟩
    have plen : draft.plen = (tags.flatMap tagBytes).length := held.plen.trans held.cursor
    rw [reached, ok_bind]
    unfold Draft.sent
    rw [plen, ← held.written, List.take_append_drop]
  · rw [if_neg fits]
    refine ⟨fun _ => ?_, fun frame impossible => (Option.some_ne_none _ impossible.symm).elim⟩
    rw [puts.full (by omega), error_bind]

theorem config_short (cfg : Config) : (cfg.request.serviceName.getD []).length + tagHdrSize < 65536 := by
  unfold Config.request
  cases named : cfg.serviceName with
  | none => exact (by decide : 0 + tagHdrSize < 65536)
  | some name => exact cfg.serviceNameFits name named

theorem config_countable (cfg : Config) : Countable cfg.request := by
  refine ⟨.inl (config_short cfg), fun uniq asked => .inl ?_⟩
  have fits := cfg.hostUniqFits uniq asked
  have four : tagHdrSize = 4 := rfl
  omega

theorem sendPADI_client (cfg : Config) (stack : Stack) :
    (Client.sendPADI cfg = .padi none → sendPADI cfg.request stack = .error .noRoom) ∧
    ∀ frame, Client.sendPADI cfg = .padi (some frame) → ∃ rest,
      sendPADI cfg.request stack = .ok ⟨{ frame with payload := frame.payload ++ rest }, frame.length + hdrSize⟩ := by
  have tags : Client.padiTags cfg = padiTags cfg.request := by
    unfold Client.padiTags padiTags Client.uniqTag uniqTag
    rw [Option.toList_map]
    rfl
  have built := puts_buildFrame stack _ _ (padi_puts cfg.request stack (config_countable cfg) (config_short cfg))
    (Vector.replicate 6 0xff) cfg.myEth codePADI
  rw [← tags] at built
  rw [sendPADI_eq]
  exact ⟨fun same => built.1 (Client.Sending.padi.inj same), fun frame same =>
    built.2 frame (Client.Sending.padi.inj same)⟩

theorem sendPADR_client (cfg : Config) (conn : Connection) (peer : Peer) (stack : Stack)
    (eth : peer.peerEth = conn.peerEth)
    (cookie : conn.cookie = peer.cookie.map fun stored => stored.tag tagAcCookie)
    (relayId : conn.relayId = peer.relayId.map fun stored => stored.tag tagRelaySessionId) :
    (Client.sendPADR cfg conn = .padr none → sendPADR cfg.request peer stack = .error .noRoom) ∧
    ∀ frame, Client.sendPADR cfg conn = .padr (some frame) → ∃ rest,
      sendPADR cfg.request peer stack = .ok ⟨{ frame with payload := frame.payload ++ rest },
        frame.length + hdrSize⟩ := by
  have tags : Client.padrTags cfg conn = padrTags cfg.request peer := by
    unfold Client.padrTags padrTags Client.uniqTag uniqTag heldTags
    rw [Option.toList_map, cookie, relayId, List.append_assoc, List.append_assoc]
    rfl
  have built := puts_buildFrame stack _ _ (padr_puts cfg.request peer stack (config_countable cfg) (config_short cfg))
    peer.peerEth cfg.myEth codePADR
  rw [← tags, eth] at built
  rw [sendPADR_eq, eth]
  exact ⟨fun same => built.1 (Client.Sending.padr.inj same), fun frame same =>
    built.2 frame (Client.Sending.padr.inj same)⟩

end Client

theorem padi_cut (req : Request) (stack : Stack) (uniq : List UInt8) (asked : req.hostUniq = some uniq)
    (short : (req.serviceName.getD []).length + tagHdrSize < 65536) (long : 2 ^ 31 ≤ uniq.length + tagHdrSize)
    (len : Nat)
    (counted : intLen uniq = len) (inside : serviceRoom req + (len + tagHdrSize) ≤ maxPppoePayload) : ¬ PadiEncodes req
    stack := by
  have most : maxPppoePayload = 1502 := rfl
  have four : tagHdrSize = 4 := rfl
  let service : List PPPoETag := if req.serviceName = some omitServiceName then []
    else [⟨tagServiceName, req.serviceName.getD []⟩]
  have rooms : room service = serviceRoom req := serviceRoom_tags req short
  have puts : Puts stack.draft [] (serviceDraft req stack >>= fun draft => putHostUniq draft stack req.hostUniq)
      (service ++ [⟨tagHostUniq, uniq.take len⟩]) := by
    refine puts_bind _ _ (stack_holds stack) _ _ _ _ (serviceDraft_puts req stack short) ?_
    intro draft held _
    rw [asked]
    exact putHostUniq_counted draft _ stack held uniq len counted (by omega)
  have types : ProperTypes (service ++ [⟨tagHostUniq, uniq.take len⟩]) := by
    refine properTypes_append _ _ ?_ (properTypes_single _ _ (by decide))
    unfold service
    split
    · simp [ProperTypes]
    · exact properTypes_single _ _ (by decide)
  have taken : (uniq.take len).length ≤ len := List.length_take_le _ _
  obtain ⟨sent, shown, encodes⟩ := (puts_sent stack _ _ puts types (Vector.replicate 6 0xff) req.myEth codePADI 0).1 (by
    rw [room_append, rooms, room_cons, room_nil]
    dsimp only
    omega)
  intro good
  unfold PadiEncodes at good
  rw [sendPADI_eq, shown] at good
  have same := encodes.decoded.symm.trans good.decoded
  unfold padiTags uniqTag at same
  rw [asked] at same
  have tail := List.append_cancel_left same
  have values := congrArg PPPoETag.payload (List.cons.inj tail).1
  have lengths := congrArg List.length values
  dsimp only at lengths
  omega

theorem padi_undefined (req : Request) (stack : Stack) (broken : sendPADI req stack = .error .undefined) : ¬ PadiEncodes
    req stack := by
  intro good
  unfold PadiEncodes at good
  rw [broken] at good
  cases good

theorem padi_fails (req : Request) (stack : Stack) (uncountable : ¬ Countable req) : ¬ PadiEncodes req stack := by
  have most : maxPppoePayload = 1502 := rfl
  by_cases short : (req.serviceName.getD []).length + tagHdrSize < 65536
  · -- The name is in order, so it is the Host-Uniq that is not counted.
    have stuck : ¬ ∀ uniq, req.hostUniq = some uniq → uniq.length + tagHdrSize < 2 ^ 31 ∨
      maxPppoePayload < serviceRoom req ∨
        (intLen uniq + tagHdrSize < 2 ^ 31 ∧ maxPppoePayload < serviceRoom req + (intLen uniq + tagHdrSize)) :=
      fun uniq => uncountable ⟨.inl short, uniq⟩
    push Not at stuck
    obtain ⟨uniq, asked, long, service, past⟩ := stuck
    by_cases cut : 0 ≤ intLen uniq ∧ intLen uniq + tagHdrSize < 2 ^ 31
    · have inside := past cut.2
      exact padi_cut req stack uniq asked short (by omega) (intLen uniq).toNat (by omega) (by omega)
    · obtain ⟨draft, reached, held⟩ := (serviceDraft_puts req stack short).fits (by
        have start : stack.draft.cursor = 0 := rfl
        rw [serviceRoom_tags req short]
        omega)
      have cursor : draft.cursor = serviceRoom req := by
        rw [held.cursor, List.nil_append]
        exact serviceRoom_tags req short
      have broken : putHostUniq draft stack (some uniq) = .error .undefined := by
        refine putHostUniq_undefined draft stack uniq ?_
        by_cases large : 2 ^ 31 ≤ intLen uniq + tagHdrSize
        · exact .inl large
        · have inside := past (by omega)
          exact .inr ⟨by omega, by omega⟩
      exact padi_undefined req stack (by rw [sendPADI_eq, reached, ok_bind, asked, broken, error_bind])
  · -- All of the name is copied into the room of a wrapped length, or there is none.
    have long : 65536 ≤ (req.serviceName.getD []).length + tagHdrSize := by omega
    have other : req.serviceName ≠ some omitServiceName := by
      intro omitted
      have thirty := omit_short req omitted
      omega
    by_cases inside : ((req.serviceName.getD []).length + tagHdrSize) % 65536 ≤ maxPppoePayload
    · refine padi_undefined req stack ?_
      rw [sendPADI_eq]
      unfold serviceDraft
      rw [if_neg other, putServiceName_undefined stack _ long inside, error_bind, error_bind]
    · refine absurd ⟨.inr (by omega), fun uniq _ => .inr (.inl ?_)⟩ uncountable
      unfold serviceRoom
      rw [if_neg other]
      omega

-- Whatever the stack holds, and for every name, Host-Uniq, cookie and relay id.
theorem discovery_encodes_iff (req : Request) (peer : Peer) (stack : Stack) :
    PadiEncodes req stack ∧ PadrEncodes req peer stack ↔ Countable req := by
  constructor
  · rintro ⟨padi, _⟩
    by_contra uncountable
    exact padi_fails req stack uncountable padi
  · intro countable
    exact ⟨padi_encodes req stack countable, padr_encodes req peer stack countable⟩

def blankStack : Stack := ⟨Vector.replicate _ 0, Vector.replicate _ 0, Vector.replicate _ 0⟩

def namelessPeer : Peer := ⟨Vector.replicate 6 4, 0x0100, none, none⟩

-- A service name of 65536 characters has the length zero in a word.
def longRequest : Request := ⟨Vector.replicate 6 2, some (List.replicate 65536 0x41), none, none, false, false⟩

theorem long_name_leaves_packet : sendPADI longRequest blankStack = .error .undefined ∧
    ¬ (PadiEncodes longRequest blankStack ∧ PadrEncodes longRequest namelessPeer blankStack) := by
  have four : tagHdrSize = 4 := rfl
  have most : maxPppoePayload = 1502 := rfl
  have length : (longRequest.serviceName.getD []).length = 65536 := List.length_replicate
  have other : longRequest.serviceName ≠ some omitServiceName := by
    intro omitted
    have thirty := omit_short longRequest omitted
    omega
  have broken : sendPADI longRequest blankStack = .error .undefined := by
    rw [sendPADI_eq]
    unfold serviceDraft
    rw [if_neg other, putServiceName_undefined _ _ (by omega) (by omega), error_bind, error_bind]
  exact ⟨broken, not_and_of_not_left _ (padi_undefined longRequest blankStack broken)⟩

end ZyAgf.Pppoe.Frames
