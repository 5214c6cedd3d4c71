import ZyAgf.Pppoe.ClientStale
import ZyAgf.Pppoe.ServerGrants

set_option autoImplicit false

namespace ZyAgf.Pppoe

namespace Client

theorem putTag_room (tags : List PPPoETag) (payload : List UInt8)
    (room : (payload ++ tags.flatMap tagBytes).length ≤ maxPppoePayload) :
    tags.foldlM putTag payload = some (payload ++ tags.flatMap tagBytes) := by
  induction tags generalizing payload with
  | nil => simp
  | cons tag rest ih =>
      rw [List.flatMap_cons, ← List.append_assoc] at room
      have fits : ¬ payload.length + (tag.payload.length + tagHdrSize) > maxPppoePayload := by
        rw [List.length_append, List.length_append, tagBytes_length] at room
        omega
      have put : putTag payload tag = some (payload ++ tagBytes tag) := if_neg fits
      rw [List.foldlM_cons, put, Option.bind_eq_bind, Option.bind_some, ih _ room, List.flatMap_cons, List.append_assoc]

theorem buildFrame_room (dest source : Mac) (code : UInt8) (tags : List PPPoETag)
    (room : (tags.flatMap tagBytes).length ≤ maxPppoePayload) :
    buildFrame dest source code tags = some (tagFrame dest source code 0 tags) := by
  have whole : (tags.flatMap tagBytes).length % 65536 = (tags.flatMap tagBytes).length :=
    tagFrame_length dest source code 0 tags room
  unfold buildFrame tagFrame
  rw [putTag_room tags [] room, List.nil_append, whole]
  rfl

def offered (conn : Connection) (packet : PPPoEPacket) : Connection := { conn with
  cookie := heldTag tagAcCookie conn.cookie (tagsOf packet)
  relayId := heldTag tagRelaySessionId conn.relayId (tagsOf packet)
  numPADOs := conn.numPADOs + 1
  peerEth := packet.hSource
  discoveryState := .receivedPADO }

theorem receivePADO_offered (cfg : Config) (conn : Connection) (packet : PPPoEPacket) (seeks : cfg.printACNames = false)
    (acceptable : Acceptable cfg packet) : cfg.request.receivePADO conn packet = some (offered conn packet) := by
  have forMe := (packetIsForMe_iff cfg packet).mpr ⟨acceptable.addressed, acceptable.matchesUniq⟩
  have good : ((tagsOf packet).any fun tag => errorTag tag.type) = false := by simpa using acceptable.noError
  have namesAC : (tagsOf packet).any (·.type == tagAcName) = true := by simpa using acceptable.namesAC
  have namesService : (tagsOf packet).any (·.type == tagServiceName) = true := by simpa using acceptable.namesService
  have nameOK : (cfg.acName.isNone || (tagsOf packet).any fun tag =>
    tag.type == tagAcName && cfg.acName == some tag.payload) = true := by
    cases wanted : cfg.acName with
    | none => rfl
    | some name =>
        rw [Option.isNone_some, Bool.false_or, List.any_eq_true]
        exact ⟨_, acceptable.matchesAC name wanted, by simp⟩
  have serviceOK : (cfg.serviceName.isNone ||
      (tagsOf packet).any fun tag => tag.type == tagServiceName && cfg.serviceName == some tag.payload) = true := by
    cases wanted : cfg.serviceName with
    | none => rfl
    | some name =>
        rw [Option.isNone_some, Bool.false_or, List.any_eq_true]
        exact ⟨_, acceptable.matchesService name wanted, by simp⟩
  unfold Request.receivePADO
  rw [if_pos ⟨forMe, acceptable.offer, by rw [acceptable.unicast]; decide⟩, parsePADOTags_foldlM,
    if_neg (by simp [good]),
    Option.map_some]
  simp only [Request.freshCriteria, Config.request, good, namesAC, namesService, nameOK, serviceOK, seeks]
  rfl

theorem step_offered (cfg : Config) (client : Process) (attempts : Nat) (packet : PPPoEPacket) (size : Option Nat)
    (waiting : client.place = .waitForPADO attempts) (seeks : cfg.printACNames = false)
    (sized : lengthOk packet size = true)
    (acceptable : Acceptable cfg packet) : step cfg client (.receive packet size) =
      some (padrRound cfg { client with conn := offered client.conn packet } 1) := by
  obtain ⟨conn, place, floods⟩ := client
  obtain rfl := waiting
  unfold step
  dsimp only
  rw [if_pos sized, receivePADO_offered cfg conn packet seeks acceptable]
  dsimp only
  rw [if_pos (show (offered conn packet).discoveryState = .receivedPADO from rfl),
    afterPADO_accepted cfg _ attempts seeks rfl]

theorem step_confirmed (cfg : Config) (client : Process) (attempts : Nat) (packet : PPPoEPacket) (size : Option Nat)
    (waiting : client.place = .waitForPADS attempts) (state : client.conn.discoveryState = .sentPADR)
    (once : cfg.optFloodDiscovery = 0)
    (stays : cfg.optSkipSession = false) (sized : lengthOk packet size = true) (sent : FromPeer cfg client.conn packet)
    (clear : ∀ tag ∈ tagsOf packet, errorTag tag.type = false) : ∃ conn, step cfg client (.receive packet size) =
      some ({ client with conn := conn, place := .session }, []) ∧ conn.session = packet.session ∧
        conn.peerEth = client.conn.peerEth := by
  obtain ⟨conn, place, floods⟩ := client
  obtain rfl := waiting
  rcases receivePADS_cases cfg conn packet with ⟨other, _⟩ | ⟨_, ⟨tag, member, bad⟩, _⟩ | ⟨_, _, opened⟩
  · exact absurd sent other
  · rw [clear tag member] at bad
    cases bad
  · unfold step
    dsimp only
    rw [if_pos sized, opened, if_pos rfl]
    unfold afterPADS
    rw [if_neg (by simp)]
    unfold afterDiscovery
    rw [if_neg (by omega), if_neg (by simp [stays])]
    exact ⟨_, rfl, rfl, rfl⟩

end Client

namespace Server

def offeredNames (cfg : Config) : List (List UInt8) := if cfg.serviceNames = [] then [[]] else cfg.serviceNames

-- A client that can use what the server has, and keeps it.
structure Suits (cfg : Config) (client : Client.Config) (ethif : Interface) : Prop where
  unicast : notUnicast client.myEth = false
  source : broadcast ethif.mac = false
  seeks : client.printACNames = false
  once : client.optFloodDiscovery = 0
  stays : client.optSkipSession = false
  acName : ∀ name, client.acName = some name → name = cfg.acName
  service : ∀ name, client.serviceName = some name → name ∈ offeredNames cfg

-- A server that would take a session on for this address.
structure Ready (cfg : Config) (s : ServerState) (mac : Mac) : Prop where
  running : s.running = true
  draining : s.draining = .off
  slot : s.freeSessions ≠ none
  below : cfg.maxSessionsPerMac = 0 ∨ countSessionsFromMac cfg s mac < cfg.maxSessionsPerMac

def uniq? (client : Client.Config) : Option PPPoETag := client.hostUniq.map fun uniq => ⟨tagHostUniq, uniq⟩

theorem uniqTag_eq (client : Client.Config) : Client.uniqTag client = (uniq? client).toList := by
  unfold Client.uniqTag uniq?
  cases client.hostUniq <;> rfl

def cookieFor (cfg : Config) (ethif : Interface) (mac : Mac) : PPPoETag := ⟨tagAcCookie, genCookie cfg mac ethif.mac⟩

-- The four packets of an exchange, with the relay id the client holds.
def offerTags (cfg : Config) (client : Client.Config) (ethif : Interface) : List PPPoETag :=
  padoTags cfg ethif client.myEth 0 none (uniq? client)

def requestTags (cfg : Config) (client : Client.Config) (ethif : Interface)
    (relayId : Option PPPoETag) : List PPPoETag :=
  ⟨tagServiceName, client.serviceName.getD []⟩ ::
    ((uniq? client).toList ++ (cookieFor cfg ethif client.myEth :: relayId.toList))

def confirmTags (cfg : Config) (client : Client.Config) (relayId : Option PPPoETag) : List PPPoETag :=
  serviceTag cfg ⟨tagServiceName, client.serviceName.getD []⟩ :: (relayId.toList ++ (uniq? client).toList)

def HasRoom (tags : List PPPoETag) : Prop := (tags.flatMap tagBytes).length ≤ maxPppoePayload

instance hasRoomDecidable (tags : List PPPoETag) : Decidable (HasRoom tags) := inferInstanceAs (Decidable (_ ≤ _))

structure Roomy (cfg : Config) (client : Client.Config) (ethif : Interface) (relayId : Option PPPoETag) : Prop where
  padi : HasRoom (Client.padiTags client)
  pado : HasRoom (offerTags cfg client ethif)
  padr : HasRoom (requestTags cfg client ethif relayId)
  pads : HasRoom (confirmTags cfg client relayId)

section Frames

variable (cfg : Config) (client : Client.Config) (ethif : Interface) (relayId : Option PPPoETag)

theorem readTags_tagFrame (hDest hSource : Mac) (code : UInt8) (session : UInt16) (tags : List PPPoETag)
    (behind : List UInt8)
    (room : HasRoom tags) (fits : ∀ tag ∈ tags, tag.type < 2 ^ 16 ∧ tag.type ≠ tagEndOfList) :
    (parsePacket (arrived (tagFrame hDest hSource code session tags) behind)).1.map (·.2) = tags :=
  tagsOf_tagFrame hDest hSource code session tags behind room fits

theorem tagFrame_checked (hDest hSource : Mac) (code : UInt8) (session : UInt16) (tags : List PPPoETag)
    (behind : List UInt8)
    (room : HasRoom tags) (packet : PPPoEPacket)
    (same : packet = arrived (tagFrame hDest hSource code session tags) behind) :
    ¬ (pppoeVer packet.vertype ≠ 1 ∨ pppoeType packet.vertype ≠ 1) ∧ ¬ packet.length > packet.payload.length := by
  have whole := tagFrame_length hDest hSource code session tags room
  subst same
  constructor
  · simp [arrived, tagFrame, pppoeVer, pppoeType, pppoeVerType]
  · show ¬ (tagFrame hDest hSource code session tags).length > ((tags.flatMap tagBytes) ++ behind).length
    rw [whole, List.length_append]
    omega

theorem uniq?_types : ∀ tag ∈ uniq? client, tag.type = tagHostUniq := by
  intro tag member
  obtain ⟨_, _, rfl⟩ := Option.map_eq_some_iff.mp member
  rfl

theorem padiTags_types : ∀ tag ∈ Client.padiTags client, tag.type = tagServiceName ∨ tag.type = tagHostUniq := by
  intro tag member
  unfold Client.padiTags at member
  rw [uniqTag_eq] at member
  rcases List.mem_append.mp member with named | uniq
  · split at named
    · cases named
    · rw [List.mem_singleton.mp named]
      exact .inl rfl
  · exact .inr (uniq?_types client tag (Option.mem_toList.mp uniq))

theorem offerTags_types : ∀ tag ∈ offerTags cfg client ethif,
    tag.type = tagAcName ∨ tag.type = tagServiceName ∨ tag.type = tagAcCookie ∨ tag.type = tagHostUniq := by
  intro tag member
  simp only [offerTags, padoTags, mruTags, List.mem_cons, List.mem_append, List.mem_map, Option.toList_none,
    List.not_mem_nil,
    ne_eq, not_true_eq_false, if_false, false_or, Option.mem_toList] at member
  rcases member with rfl | ⟨_, _, rfl⟩ | rfl | uniq
  · exact .inl rfl
  · exact .inr (.inl rfl)
  · exact .inr (.inr (.inl rfl))
  · exact .inr (.inr (.inr (uniq?_types client tag uniq)))

variable (typed : ∀ tag ∈ relayId, tag.type = tagRelaySessionId)

include typed

theorem requestTags_types : ∀ tag ∈ requestTags cfg client ethif relayId,
    tag.type = tagServiceName ∨ tag.type = tagHostUniq ∨ tag.type = tagAcCookie ∨ tag.type = tagRelaySessionId := by
  intro tag member
  simp only [requestTags, cookieFor, List.mem_cons, List.mem_append, Option.mem_toList] at member
  rcases member with rfl | uniq | rfl | relay
  · exact .inl rfl
  · exact .inr (.inl (uniq?_types client tag uniq))
  · exact .inr (.inr (.inl rfl))
  · exact .inr (.inr (.inr (typed tag relay)))

theorem confirmTags_types : ∀ tag ∈ confirmTags cfg client relayId,
    tag.type = tagServiceName ∨ tag.type = tagRelaySessionId ∨ tag.type = tagHostUniq := by
  intro tag member
  simp only [confirmTags, serviceTag, List.mem_cons, List.mem_append, Option.mem_toList] at member
  rcases member with rfl | relay | uniq
  · split <;> exact .inl rfl
  · exact .inr (.inl (typed tag relay))
  · exact .inr (.inr (uniq?_types client tag uniq))

end Frames

section Exchange

variable (cfg : Config) (s : ServerState) (face : Nat) (ethif : Interface) (client : Client.Config)
  (known : cfg.interfaces[face]? = some ethif) (suits : Suits cfg client ethif) (ready : Ready cfg s client.myEth)

theorem padiStatics (statics : Statics) (cleared : statics.relayId = none ∧ statics.hostUniq = none ∧
    statics.requestedService = none ∧
    statics.maxPppPayload = 0) : ∃ requested, (Client.padiTags client).foldl parsePADITags statics =
      { statics with hostUniq := uniq? client, requestedService := requested } ∧
        (∀ tag ∈ requested, tag.payload = client.serviceName.getD []) := by
  obtain ⟨relayId, hostUniq, cookie, service, size⟩ := statics
  obtain ⟨rfl, rfl, rfl, rfl⟩ := cleared
  unfold Client.padiTags uniq? Client.uniqTag
  by_cases omitted : client.serviceName = some Client.omitServiceName
  · rw [if_pos omitted]
    refine ⟨none, ?_, fun tag member => (Option.not_mem_none tag member).elim⟩
    cases client.hostUniq <;> simp [parsePADITags, tagHostUniq, tagPppMaxPayload, tagServiceName, tagRelaySessionId]
  · rw [if_neg omitted]
    refine ⟨some ⟨tagServiceName, client.serviceName.getD []⟩, ?_, fun tag member => by rw [← Option.some.inj member]⟩
    cases client.hostUniq <;> simp [parsePADITags, tagHostUniq, tagPppMaxPayload, tagServiceName, tagRelaySessionId]

include suits in
theorem service_offered (requested : Option PPPoETag)
    (named : ∀ tag ∈ requested, tag.payload = client.serviceName.getD []) :
    serviceOffered cfg requested = true := by
  cases requested with
  | none => rfl
  | some tag =>
      unfold serviceOffered
      dsimp only
      rw [named tag rfl]
      cases wanted : client.serviceName with
      | none => rfl
      | some name =>
          have listed := suits.service name wanted
          unfold offeredNames at listed
          split at listed
          · rw [List.mem_singleton.mp listed]
            rfl
          · simp [listed]

theorem mruFor_zero : mruFor ethif 0 = 0 := by
  unfold mruFor
  rw [if_neg (fun both => by simp at both)]

include known suits ready

theorem step_offers (room : HasRoom (Client.padiTags client)) (roomOffer : HasRoom (offerTags cfg client ethif)) :
    ∃ statics, step cfg s (.packet face (arrived
      (tagFrame (Vector.replicate 6 0xff) client.myEth codePADI 0 (Client.padiTags client)) [])
      none) = some ({ s with statics := statics },
        [⟨face, tagFrame client.myEth ethif.mac codePADO 0 (offerTags cfg client ethif)⟩]) := by
  have types : ∀ tag ∈ Client.padiTags client, tag.type < 2 ^ 16 ∧ tag.type ≠ tagEndOfList := by
    intro tag member
    rcases padiTags_types client tag member with same | same <;> rw [same] <;> decide
  have read := readTags_tagFrame (Vector.replicate 6 0xff) client.myEth codePADI 0
    (Client.padiTags client) [] room types
  generalize packetEq : arrived (tagFrame (Vector.replicate 6 0xff) client.myEth codePADI 0 (Client.padiTags client))
    [] = packet at read ⊢
  have source : packet.hSource = client.myEth := by rw [← packetEq]; rfl
  have coded : packet.code = codePADI := by rw [← packetEq]; rfl
  obtain ⟨version, complete⟩ := tagFrame_checked _ _ _ _ _ [] room packet packetEq.symm
  obtain ⟨requested, statics, named⟩ := padiStatics client
    { s.statics with relayId := none, hostUniq := none, requestedService := none, maxPppPayload := 0 }
    ⟨rfl, rfl, rfl, rfl⟩
  have answer : processPADI cfg s ethif packet = ({ s with statics := { s.statics with
      relayId := none, hostUniq := uniq? client, requestedService := requested, maxPppPayload := 0 } },
      (padoReply cfg ethif client.myEth 0 (none.map tagBytes) ((uniq? client).map tagBytes)).toList) := by
    have below : ¬ (cfg.maxSessionsPerMac ≠ 0 ∧ countSessionsFromMac cfg s packet.hSource ≥ cfg.maxSessionsPerMac) := by
      rw [source]
      rcases ready.below with none' | few
      · exact fun both => both.1 none'
      · exact fun both => by have reached := both.2; omega
    rw [processPADI_eq, if_neg (by simp [ready.draining]), if_neg (by rw [source, suits.unicast]; decide),
      if_neg (fun both => ready.slot both.2), if_neg below]
    unfold parseTags
    rw [read, statics, source]
    dsimp only
    rw [service_offered cfg ethif client suits requested named, if_neg (by decide), mruFor_zero]
  have offered := (padoReply_frames cfg ethif client.myEth 0 none (uniq? client) face).trans (if_pos roomOffer)
  have handled : handle cfg s (.packet face packet none) = some ({ s with statics := { s.statics with
      relayId := none, hostUniq := uniq? client, requestedService := requested, maxPppPayload := 0 } },
      [⟨face, tagFrame client.myEth ethif.mac codePADO 0 (offerTags cfg client ethif)⟩]) := by
    rw [handle, if_neg (by simp), known, Option.bind_some]
    unfold serverProcessPacket framesOf
    rw [if_neg version, if_neg complete, if_pos coded, answer]
    exact congrArg (fun out => some (_, out)) offered
  refine ⟨{ s.statics with relayId := none, hostUniq := uniq? client, requestedService := requested, maxPppPayload := 0 }, ?_⟩
  unfold step
  rw [if_neg (by simp [ready.running]), handled, Option.bind_some, if_neg (by simp [ready.draining])]

end Exchange

section Confirming

variable (cfg : Config) (s : ServerState) (face : Nat) (ethif : Interface) (client : Client.Config)
    (relayId : Option PPPoETag)
  (typed : ∀ tag ∈ relayId, tag.type = tagRelaySessionId)

include typed

theorem requestStatics : (requestTags cfg client ethif relayId).foldl parsePADRTags noTags =
    ⟨relayId, uniq? client, some (cookieFor cfg ethif client.myEth), some ⟨tagServiceName, client.serviceName.getD []⟩,
      0⟩ := by
  unfold requestTags uniq? cookieFor
  cases relayId with
  | none =>
      cases client.hostUniq <;>
        simp [parsePADRTags, noTags, tagHostUniq, tagPppMaxPayload, tagServiceName, tagRelaySessionId, tagAcCookie]
  | some relay =>
      obtain ⟨type, payload⟩ := relay
      obtain rfl : type = tagRelaySessionId := typed _ rfl
      cases client.hostUniq <;>
        simp [parsePADRTags, noTags, tagHostUniq, tagPppMaxPayload, tagServiceName, tagRelaySessionId, tagAcCookie]

theorem step_confirms (known : cfg.interfaces[face]? = some ethif) (suits : Suits cfg client ethif)
    (ready : Ready cfg s client.myEth)
    (sound : Sound cfg s) (pid : Nat) (fresh : pid ≠ 0 ∧ pid ∉ s.children.map (·.1))
    (room : HasRoom (requestTags cfg client ethif relayId)) :
    ∃ s' slot sess, step cfg s (.packet face (arrived (tagFrame ethif.mac
      client.myEth codePADR 0 (requestTags cfg client ethif relayId)) []) (some pid)) =
        some (s', [⟨face, tagFrame client.myEth ethif.mac codePADS sess (confirmTags cfg client relayId)⟩]) ∧
      Serves cfg s' slot client.myEth face sess := by
  have types : ∀ tag ∈ requestTags cfg client ethif relayId, tag.type < 2 ^ 16 ∧ tag.type ≠ tagEndOfList := by
    intro tag member
    rcases requestTags_types cfg client ethif relayId typed tag member with same | same | same | same <;> rw [same] <;>
      decide
  have read := readTags_tagFrame ethif.mac client.myEth codePADR 0 (requestTags cfg client ethif relayId) [] room types
  generalize packetEq : arrived (tagFrame ethif.mac client.myEth codePADR 0 (requestTags cfg client ethif relayId)) [] =
    packet at read ⊢
  have source : packet.hSource = client.myEth := by rw [← packetEq]; rfl
  have ours : packet.hDest = ethif.mac := by rw [← packetEq]; rfl
  have coded : packet.code = codePADR := by rw [← packetEq]; rfl
  obtain ⟨version, complete⟩ := tagFrame_checked _ _ _ _ _ [] room packet packetEq.symm
  have statics : padrStatics packet = ⟨relayId, uniq? client, some (cookieFor cfg ethif client.myEth),
      some ⟨tagServiceName, client.serviceName.getD []⟩, 0⟩ := by
    unfold padrStatics parseTags
    rw [read]
    exact requestStatics cfg ethif client relayId typed
  have opens : Opens cfg s ethif packet := by
    refine ⟨(padrAdmitted_iff cfg s ethif packet).mpr
      ⟨ours, by rw [source]; exact suits.unicast, by rw [source]; exact ready.below⟩,
      ?_, ⟨_, by rw [statics], ?_⟩, ready.slot⟩
    · rw [statics, source]
      simp [cookieKosher, cookieFor, genCookie, cookieLen]
    · cases wanted : client.serviceName with
      | none => exact .inl rfl
      | some name =>
          have listed := suits.service name wanted
          unfold offeredNames at listed
          split at listed
          · exact .inl (List.mem_singleton.mp listed)
          · exact .inr listed
  obtain ⟨requested, ses, taken, asked, alloc, answered⟩ := processPADR_opened cfg s face ethif packet (some pid) opens
  rw [statics] at asked
  obtain rfl := Option.some.inj asked
  have parsed : Sound cfg { s with statics := padrStatics packet } :=
    sound_besides cfg s _ rfl ⟨rfl, rfl, rfl, rfl⟩ sound
  have tags : padsTags cfg (padrStatics packet) ethif ⟨tagServiceName, client.serviceName.getD []⟩ = confirmTags cfg
    client relayId := by
    rw [statics]
    unfold padsTags confirmTags
    dsimp only
    rw [mruFor_zero]
    rfl
  have confirmed : (childPADS cfg (padrStatics packet) ethif packet.hSource (taken.sessions ses).sess
      ⟨tagServiceName, client.serviceName.getD []⟩).frames face =
        [⟨face, tagFrame client.myEth ethif.mac codePADS (taken.sessions ses).sess
          (confirmTags cfg client relayId)⟩] := by
    rcases childPADS_frames cfg (padrStatics packet) ethif packet.hSource (taken.sessions ses).sess
      ⟨tagServiceName, client.serviceName.getD []⟩ face with ⟨_, frames⟩ | ⟨full, _⟩
    · rw [frames, tags, source]
    · refine absurd (fun asked => ?_) full
      rw [statics] at asked
      exact absurd (mruFor_zero ethif) asked
  refine ⟨_, ses, (taken.sessions ses).sess, ?_, taken_serves cfg _ taken parsed ses face client.myEth pid alloc⟩
  have handled : handle cfg s (.packet face packet (some pid)) =
      some ({ (claimed taken ses face client.myEth).updSession ses fun x => { x with pid := pid } with
        children := (pid, ses) :: taken.children },
        [⟨face, tagFrame client.myEth ethif.mac codePADS (taken.sessions ses).sess
          (confirmTags cfg client relayId)⟩]) := by
    have notPADI : packet.code ≠ codePADI := by rw [coded]; decide
    rw [handle, if_neg (by simpa using fresh), known, Option.bind_some]
    unfold serverProcessPacket framesOf
    rw [if_neg version, if_neg complete, if_neg notPADI, if_pos coded, answered]
    dsimp only
    rw [List.flatMap_singleton, confirmed, source]
  unfold step
  rw [if_neg (by simp [ready.running]), handled, Option.bind_some]
  have mode : taken.draining = .off := by
    unfold pppoeAllocSession at alloc
    obtain ⟨_, _, same⟩ := Option.map_eq_some_iff.mp alloc
    rw [← (Prod.mk.inj same).2]
    exact ready.draining
  rw [if_neg (by
    intro quits
    have drains : taken.draining = .quit := quits.1
    rw [mode] at drains
    cases drains)]

end Confirming

end Server

namespace Client

theorem offer_acceptable (cfg : Server.Config) (client : Config) (ethif : Server.Interface)
    (suits : Server.Suits cfg client ethif)
    (room : Server.HasRoom (Server.offerTags cfg client ethif)) (behind : List UInt8) :
    Acceptable client (arrived (tagFrame client.myEth ethif.mac codePADO 0 (Server.offerTags cfg client ethif))
      behind) ∧
      tagsOf (arrived (tagFrame client.myEth ethif.mac codePADO 0 (Server.offerTags cfg client ethif)) behind) =
        Server.offerTags cfg client ethif := by
  have types := Server.offerTags_types cfg client ethif
  have read : tagsOf (arrived (tagFrame client.myEth ethif.mac codePADO 0 (Server.offerTags cfg client ethif)) behind) =
      Server.offerTags cfg client ethif := by
    refine tagsOf_tagFrame _ _ _ _ _ behind room fun tag member => ?_
    rcases types tag member with same | same | same | same <;> rw [same] <;> decide
  have names (name : List UInt8) (listed : name ∈ Server.offeredNames cfg) :
      ⟨tagServiceName, name⟩ ∈ Server.offerTags cfg client ethif := by
    simp only [Server.offerTags, Server.padoTags, List.mem_cons, List.mem_append, List.mem_map]
    exact .inr (.inr (.inl ⟨name, listed, rfl⟩))
  refine ⟨⟨rfl, rfl, suits.source, ?_, ?_, ?_, ?_, ?_, ?_⟩, read⟩
  all_goals rw [read]
  · intro tag member
    rcases types tag member with same | same | same | same <;> rw [same] <;> rfl
  · exact ⟨_, List.mem_cons_self, rfl⟩
  · obtain ⟨name, listed⟩ : ∃ name, name ∈ Server.offeredNames cfg := by
      unfold Server.offeredNames
      cases cfg.serviceNames with
      | nil => exact ⟨[], List.mem_cons_self⟩
      | cons name rest => exact ⟨name, by simp⟩
    exact ⟨_, names name listed, rfl⟩
  · intro name wanted
    rw [suits.acName name wanted]
    exact List.mem_cons_self
  · exact fun name wanted => names name (suits.service name wanted)
  · intro uniq wanted
    simp [Server.offerTags, Server.padoTags, Server.uniq?, wanted]

end Client

end ZyAgf.Pppoe
