import ZyAgf.Pppoe.Client

set_option autoImplicit false

namespace ZyAgf.Pppoe.Client

-- What a PADO must be like for the client to answer it.
structure Acceptable (cfg : Config) (packet : PPPoEPacket) : Prop where
  offer : packet.code = codePADO
  addressed : packet.hDest = cfg.myEth
  unicast : broadcast packet.hSource = false
  noError : ∀ tag ∈ tagsOf packet, errorTag tag.type = false
  namesAC : ∃ tag ∈ tagsOf packet, tag.type = tagAcName
  namesService : ∃ tag ∈ tagsOf packet, tag.type = tagServiceName
  matchesAC : ∀ name, cfg.acName = some name → ⟨tagAcName, name⟩ ∈ tagsOf packet
  matchesService : ∀ name, cfg.serviceName = some name → ⟨tagServiceName, name⟩ ∈ tagsOf packet
  matchesUniq : ∀ uniq, cfg.hostUniq = some uniq → ⟨tagHostUniq, uniq⟩ ∈ tagsOf packet

-- The last tag of a type, which is what a field keeps that each such tag
-- overwrites.
def heldTag (type : Nat) (held : Option PPPoETag) (tags : List PPPoETag) : Option PPPoETag :=
  tags.foldl (fun held tag => if tag.type = type then some tag else held) held

theorem heldTag_cons (type : Nat) (held : Option PPPoETag) (tag : PPPoETag) (tags : List PPPoETag) :
    heldTag type held (tag :: tags) = heldTag type (if tag.type = type then some tag else held) tags := rfl

theorem heldTag_or (type : Nat) (held : Option PPPoETag) (tags : List PPPoETag) :
    heldTag type held tags = (heldTag type none tags).or held := by
  induction tags generalizing held with
  | nil => rfl
  | cons tag tags ih =>
      rw [heldTag_cons, heldTag_cons]
      by_cases here : tag.type = type
      · rw [if_pos here, if_pos here, ih (some tag), Option.or_assoc, Option.some_or]
      · rw [if_neg here, if_neg here]
        exact ih held

theorem heldTag_type (type : Nat) (held : Option PPPoETag) (tags : List PPPoETag)
    (typed : ∀ tag, held = some tag → tag.type = type) :
    ∀ tag, heldTag type held tags = some tag → tag.type = type := by
  induction tags generalizing held with
  | nil => exact typed
  | cons first rest ih =>
      rw [heldTag_cons]
      apply ih
      intro tag found
      split at found
      next here =>
        obtain rfl := Option.some.inj found
        exact here
      next => exact typed tag found

theorem packetIsForMe_iff (cfg : Config) (packet : PPPoEPacket) :
    cfg.request.packetIsForMe packet = true ↔
      packet.hDest = cfg.myEth ∧ ∀ uniq, cfg.hostUniq = some uniq → ⟨tagHostUniq, uniq⟩ ∈ tagsOf packet := by
  unfold Request.packetIsForMe Config.request
  rw [Bool.and_eq_true, beq_iff_eq]
  cases cfg.hostUniq with
  | none => simp
  | some uniq =>
      have carried : ((tagsOf packet).any fun tag => tag.type == tagHostUniq && tag.payload == uniq) = true ↔
          ⟨tagHostUniq, uniq⟩ ∈ tagsOf packet := by
        rw [List.any_eq_true]
        constructor
        · rintro ⟨⟨type, payload⟩, member, same⟩
          simp only [Bool.and_eq_true, beq_iff_eq] at same
          obtain ⟨rfl, rfl⟩ := same
          exact member
        · intro member
          exact ⟨_, member, by simp⟩
      simp [carried]

-- What the tags of one packet add to the criteria and to the connection.
structure Judged (cfg : Config) (tags : List PPPoETag) (pc pc' : PacketCriteria) (conn conn' : Connection) : Prop where
  acNameOK : pc'.acNameOK = true → pc.acNameOK = true ∨ ∃ name, cfg.acName = some name ∧ ⟨tagAcName, name⟩ ∈ tags
  serviceNameOK : pc'.serviceNameOK = true →
    pc.serviceNameOK = true ∨ ∃ name, cfg.serviceName = some name ∧ ⟨tagServiceName, name⟩ ∈ tags
  seenACName : pc'.seenACName = true → pc.seenACName = true ∨ ∃ tag ∈ tags, tag.type = tagAcName
  seenServiceName : pc'.seenServiceName = true → pc.seenServiceName = true ∨ ∃ tag ∈ tags, tag.type = tagServiceName
  gotError : cfg.printACNames = false → pc'.gotError = false →
    pc.gotError = false ∧ ∀ tag ∈ tags, errorTag tag.type = false
  conn : conn' = { conn with
    cookie := heldTag tagAcCookie conn.cookie tags, relayId := heldTag tagRelaySessionId conn.relayId tags }

theorem judged_nil (cfg : Config) (pc : PacketCriteria) (conn : Connection) : Judged cfg [] pc pc conn conn where
  acNameOK := .inl
  serviceNameOK := .inl
  seenACName := .inl
  seenServiceName := .inl
  gotError := fun _ clear => ⟨clear, fun tag member => by cases member⟩
  conn := rfl

theorem judged_cons (cfg : Config) (tag : PPPoETag) (tags : List PPPoETag) (pc mid pc' : PacketCriteria)
    (conn between conn' : Connection) (first : Judged cfg [tag] pc mid conn between)
    (rest : Judged cfg tags mid pc' between conn') : Judged cfg (tag :: tags) pc pc' conn conn' where
  acNameOK := fun ok => by
    rcases rest.acNameOK ok with ok | ⟨name, wanted, member⟩
    · rcases first.acNameOK ok with ok | ⟨name, wanted, member⟩
      · exact .inl ok
      · exact .inr ⟨name, wanted, List.mem_cons.mpr (.inl (List.mem_singleton.mp member))⟩
    · exact .inr ⟨name, wanted, List.mem_cons_of_mem _ member⟩
  serviceNameOK := fun ok => by
    rcases rest.serviceNameOK ok with ok | ⟨name, wanted, member⟩
    · rcases first.serviceNameOK ok with ok | ⟨name, wanted, member⟩
      · exact .inl ok
      · exact .inr ⟨name, wanted, List.mem_cons.mpr (.inl (List.mem_singleton.mp member))⟩
    · exact .inr ⟨name, wanted, List.mem_cons_of_mem _ member⟩
  seenACName := fun seen => by
    rcases rest.seenACName seen with seen | ⟨found, member, typed⟩
    · rcases first.seenACName seen with seen | ⟨found, member, typed⟩
      · exact .inl seen
      · exact .inr ⟨found, List.mem_cons.mpr (.inl (List.mem_singleton.mp member)), typed⟩
    · exact .inr ⟨found, List.mem_cons_of_mem _ member, typed⟩
  seenServiceName := fun seen => by
    rcases rest.seenServiceName seen with seen | ⟨found, member, typed⟩
    · rcases first.seenServiceName seen with seen | ⟨found, member, typed⟩
      · exact .inl seen
      · exact .inr ⟨found, List.mem_cons.mpr (.inl (List.mem_singleton.mp member)), typed⟩
    · exact .inr ⟨found, List.mem_cons_of_mem _ member, typed⟩
  gotError := fun silent clear => by
    obtain ⟨midClear, restClear⟩ := rest.gotError silent clear
    obtain ⟨startClear, firstClear⟩ := first.gotError silent midClear
    exact ⟨startClear, List.forall_mem_cons.mpr ⟨firstClear tag (List.mem_singleton_self tag), restClear⟩⟩
  conn := by
    rw [rest.conn, first.conn]
    rfl

theorem judged_tag (cfg : Config) (tag : PPPoETag) (pc pc' : PacketCriteria) (conn conn' : Connection)
    (parsed : cfg.request.parsePADOTags (pc, conn) tag = some (pc', conn')) : Judged cfg [tag] pc pc' conn conn' := by
  obtain ⟨type, payload⟩ := tag
  unfold Request.parsePADOTags Config.request at parsed
  dsimp only at parsed
  split at parsed
  next typed =>
    obtain ⟨rfl, rfl⟩ := Prod.mk.inj (Option.some.inj parsed)
    obtain rfl := typed
    constructor <;> simp +contextual [heldTag, errorTag, tagAcName, tagAcCookie, tagRelaySessionId, tagServiceNameError,
      tagAcSystemError, tagGenericError]
  next notAC =>
    split at parsed
    next typed =>
      obtain ⟨rfl, rfl⟩ := Prod.mk.inj (Option.some.inj parsed)
      obtain rfl := typed
      constructor <;> simp +contextual [heldTag, errorTag, tagServiceName, tagAcCookie, tagRelaySessionId,
        tagServiceNameError,
        tagAcSystemError, tagGenericError]
    next notService =>
      split at parsed
      next typed =>
        obtain ⟨rfl, rfl⟩ := Prod.mk.inj (Option.some.inj parsed)
        obtain rfl := typed
        constructor <;> simp +contextual [heldTag, errorTag, tagAcCookie, tagRelaySessionId, tagServiceNameError,
          tagAcSystemError, tagGenericError]
      next notCookie =>
        split at parsed
        next typed =>
          obtain ⟨rfl, rfl⟩ := Prod.mk.inj (Option.some.inj parsed)
          obtain rfl := typed
          constructor <;> simp +contextual [heldTag, errorTag, tagAcCookie, tagRelaySessionId, tagServiceNameError,
            tagAcSystemError, tagGenericError]
        next notRelay =>
          split at parsed
          next bad =>
            split at parsed
            next printing =>
              obtain ⟨rfl, rfl⟩ := Prod.mk.inj (Option.some.inj parsed)
              constructor <;> simp +contextual [heldTag, notCookie, notRelay, printing]
            next =>
              split at parsed
              next =>
                obtain ⟨rfl, rfl⟩ := Prod.mk.inj (Option.some.inj parsed)
                constructor <;> simp +contextual [heldTag, notCookie, notRelay]
              next => cases parsed
          next good =>
            obtain ⟨rfl, rfl⟩ := Prod.mk.inj (Option.some.inj parsed)
            constructor <;> simp +contextual [heldTag, notCookie, notRelay, good]

theorem judged_tags (cfg : Config) (tags : List PPPoETag) (pc pc' : PacketCriteria) (conn conn' : Connection)
    (parsed : tags.foldlM cfg.request.parsePADOTags (pc, conn) = some (pc', conn')) :
    Judged cfg tags pc pc' conn conn' := by
  induction tags generalizing pc conn with
  | nil =>
      obtain ⟨rfl, rfl⟩ := Prod.mk.inj (Option.some.inj parsed)
      exact judged_nil cfg pc conn
  | cons tag tags ih =>
      rw [List.foldlM_cons] at parsed
      obtain ⟨⟨mid, between⟩, first, rest⟩ := Option.bind_eq_some_iff.mp parsed
      exact judged_cons cfg tag tags pc mid pc' conn between conn' (judged_tag cfg tag pc mid conn between first)
        (ih mid between rest)

def Overwritten (tags : List PPPoETag) (conn conn' : Connection) : Prop :=
  conn'.cookie = heldTag tagAcCookie conn.cookie tags ∧ conn'.relayId = heldTag tagRelaySessionId conn.relayId tags

def Typed (conn : Connection) : Prop :=
  (∀ tag, conn.cookie = some tag → tag.type = tagAcCookie) ∧
    ∀ tag, conn.relayId = some tag → tag.type = tagRelaySessionId

theorem overwritten_typed (tags : List PPPoETag) (conn conn' : Connection) (stored : Overwritten tags conn conn')
    (typed : Typed conn) : Typed conn' := by
  obtain ⟨cookie, relayId⟩ := stored
  constructor
  · rw [cookie]
    exact heldTag_type tagAcCookie conn.cookie tags typed.1
  · rw [relayId]
    exact heldTag_type tagRelaySessionId conn.relayId tags typed.2

theorem receivePADO_accepts (cfg : Config) (conn conn' : Connection) (packet : PPPoEPacket)
    (received : cfg.request.receivePADO conn packet = some conn') (waiting : conn.discoveryState = .sentPADI) :
    (conn'.discoveryState = .sentPADI ∧ (Typed conn → Typed conn')) ∨
      conn'.discoveryState = .receivedPADO ∧ cfg.printACNames = false ∧ Acceptable cfg packet ∧
        conn'.peerEth = packet.hSource ∧ Overwritten (tagsOf packet) conn conn' := by
  unfold Request.receivePADO at received
  split at received
  next passes =>
    obtain ⟨forMe, offer, unicast⟩ := passes
    obtain ⟨addressed, uniq⟩ := (packetIsForMe_iff cfg packet).mp forMe
    obtain ⟨⟨pc, between⟩, parsed, rfl⟩ := Option.map_eq_some_iff.mp received
    have judged := judged_tags cfg (tagsOf packet) cfg.request.freshCriteria pc conn between parsed
    have state : between.discoveryState = .sentPADI := by rw [judged.conn, ← waiting]
    have stored : Overwritten (tagsOf packet) conn between := by
      rw [judged.conn]
      exact ⟨rfl, rfl⟩
    dsimp only
    split
    · exact .inl ⟨state, overwritten_typed _ _ _ stored⟩
    next checked =>
      simp only [not_or, Bool.not_eq_true, Bool.not_eq_false] at checked
      obtain ⟨clear, seenAC, seenService⟩ := checked
      split
      next matched =>
        split
        · exact .inl ⟨state, overwritten_typed _ _ _ stored⟩
        next silent =>
          have silent : cfg.printACNames = false := by simpa [Config.request] using silent
          have acceptable : Acceptable cfg packet :=
            { offer := offer
              addressed := addressed
              unicast := by simpa using unicast
              noError := (judged.gotError silent clear).2
              namesAC := by simpa [Request.freshCriteria, Config.request] using judged.seenACName seenAC
              namesService := by simpa [Request.freshCriteria, Config.request] using judged.seenServiceName seenService
              matchesAC := by
                intro name wanted
                simpa [Request.freshCriteria, Config.request, wanted] using judged.acNameOK matched.1
              matchesService := by
                intro name wanted
                simpa [Request.freshCriteria, Config.request, wanted] using judged.serviceNameOK matched.2
              matchesUniq := uniq }
          exact .inr ⟨rfl, silent, acceptable, rfl, stored⟩
      next => exact .inl ⟨state, overwritten_typed _ _ _ stored⟩
  next =>
    obtain rfl := Option.some.inj received
    exact .inl ⟨waiting, id⟩

theorem parsePADSTags_fold (conn : Connection) (tags : List PPPoETag) :
    tags.foldl parsePADSTags conn = { conn with
      padsHadError := conn.padsHadError || tags.any fun tag => errorTag tag.type
      relayId := heldTag tagRelaySessionId conn.relayId tags } := by
  induction tags generalizing conn with
  | nil => simp [heldTag]
  | cons tag tags ih =>
      rw [List.foldl_cons, ih, heldTag_cons, List.any_cons]
      unfold parsePADSTags
      by_cases bad : errorTag tag.type = true
      · have other : tag.type ≠ tagRelaySessionId := by
          intro same
          rw [same] at bad
          cases bad
        rw [if_pos bad, if_neg other, bad]
        simp
      · rw [if_neg bad]
        have good : errorTag tag.type = false := by simpa using bad
        split <;> simp [good]

-- A PADS that the access concentrator sent to this host, whatever its tags say.
def FromPeer (cfg : Config) (conn : Connection) (packet : PPPoEPacket) : Prop :=
  packet.hSource = conn.peerEth ∧ cfg.request.packetIsForMe packet ∧ packet.code = codePADS

instance (cfg : Config) (conn : Connection) (packet : PPPoEPacket) : Decidable (FromPeer cfg conn packet) :=
  inferInstanceAs (Decidable (_ ∧ _ ∧ _))

theorem receivePADS_cases (cfg : Config) (conn : Connection) (packet : PPPoEPacket) :
    (¬ FromPeer cfg conn packet ∧ cfg.request.receivePADS conn packet = conn) ∨
    (FromPeer cfg conn packet ∧ (∃ tag ∈ tagsOf packet, errorTag tag.type = true) ∧
      cfg.request.receivePADS conn packet = { conn with
        padsHadError := true, relayId := heldTag tagRelaySessionId conn.relayId (tagsOf packet) }) ∨
    (FromPeer cfg conn packet ∧ (∀ tag ∈ tagsOf packet, errorTag tag.type = false) ∧
      cfg.request.receivePADS conn packet = { conn with
        padsHadError := false, relayId := heldTag tagRelaySessionId conn.relayId (tagsOf packet),
        discoveryState := .session, session := packet.session }) := by
  unfold Request.receivePADS
  by_cases sent : packet.hSource = conn.peerEth ∧ cfg.request.packetIsForMe packet = true ∧ packet.code = codePADS
  · rw [if_pos sent, parsePADSTags_fold]
    refine .inr ?_
    by_cases bad : ((tagsOf packet).any fun tag => errorTag tag.type) = true
    · exact .inl ⟨sent, by simpa using bad, by simp [bad]⟩
    · exact .inr ⟨sent, by simpa using bad, by simp [bad]⟩
  · rw [if_neg sent]
    exact .inl ⟨sent, rfl⟩

end ZyAgf.Pppoe.Client
