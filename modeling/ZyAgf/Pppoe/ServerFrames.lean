import ZyAgf.Pppoe.ClientEcho
import ZyAgf.Pppoe.ServerAnnounce
import ZyAgf.Pppoe.ServerStatics
import ZyAgf.Pppoe.TagWalk

set_option autoImplicit false

namespace ZyAgf.Pppoe

def tagFrame (hDest hSource : Mac) (code : UInt8) (session : UInt16) (tags : List PPPoETag) : PPPoEPacket where
  hDest := hDest
  hSource := hSource
  vertype := pppoeVerType
  code := code
  session := session
  length := (tags.flatMap tagBytes).length % 65536
  payload := tags.flatMap tagBytes

-- A frame as it lies in the buffer of the one that receives it, in front of what
-- the card padded it with and of what was there before.
def arrived (frame : PPPoEPacket) (behind : List UInt8) : PPPoEPacket :=
    { frame with payload := frame.payload ++ behind }

section Reading

variable (hDest hSource : Mac) (code : UInt8) (session : UInt16) (tags : List PPPoETag) (behind : List UInt8)
  (short : (tags.flatMap tagBytes).length ≤ maxPppoePayload)

include short

theorem tagFrame_length : (tagFrame hDest hSource code session tags).length = (tags.flatMap tagBytes).length := by
  have room : maxPppoePayload = 1502 := rfl
  exact Nat.mod_eq_of_lt (by omega)

theorem parsePacket_tagFrame : parsePacket (arrived (tagFrame hDest hSource code session tags) behind) =
    tagsFrom (tags.flatMap tagBytes) (tags.flatMap tagBytes).length (tags.flatMap tagBytes).length 0 := by
  have length := tagFrame_length hDest hSource code session tags short
  have readable : tagsReadable (arrived (tagFrame hDest hSource code session tags) behind) = true := by
    unfold tagsReadable arrived
    dsimp only
    rw [length]
    simpa [pppoeVer, pppoeType, pppoeVerType, tagFrame] using short
  unfold parsePacket
  rw [if_pos readable]
  unfold arrived
  dsimp only
  rw [length]
  exact tagsFrom_append _ behind _ _ 0 (Nat.le_refl _)

theorem tagsOf_tagFrame (fits : ∀ tag ∈ tags, tag.type < 2 ^ 16 ∧ tag.type ≠ tagEndOfList) :
    Client.tagsOf (arrived (tagFrame hDest hSource code session tags) behind) = tags := by
  have room : maxPppoePayload = 1502 := rfl
  have encodable : ∀ tag ∈ tags, Encodable tag ∧ tag.type ≠ tagEndOfList := by
    intro tag member
    have bound := tagBytes_member tags tag member
    rw [tagBytes_length] at bound
    exact ⟨⟨(fits tag member).1, by omega⟩, (fits tag member).2⟩
  have walked := tagsFrom_encoded tags [] _ (tagBytes_count tags) encodable
  rw [List.nil_append, List.length_nil, Nat.zero_add] at walked
  unfold Client.tagsOf
  rw [parsePacket_tagFrame hDest hSource code session tags behind short]
  exact walked

end Reading

theorem tagsOf_first (hDest hSource : Mac) (code : UInt8) (session : UInt16) (tag : PPPoETag) (rest : List PPPoETag)
    (behind : List UInt8)
    (short : ((tag :: rest).flatMap tagBytes).length ≤ maxPppoePayload)
    (typed : tag.type < 2 ^ 16 ∧ tag.type ≠ tagEndOfList) :
    tag ∈ Client.tagsOf (arrived (tagFrame hDest hSource code session (tag :: rest)) behind) := by
  have room : maxPppoePayload = 1502 := rfl
  have size := tagBytes_length tag
  have whole : ((tag :: rest).flatMap tagBytes).length = (tagBytes tag).length + (rest.flatMap tagBytes).length := by
    rw [List.flatMap_cons, List.length_append]
  have four : tagHdrSize = 4 := rfl
  unfold Client.tagsOf
  rw [parsePacket_tagFrame hDest hSource code session (tag :: rest) behind short]
  obtain ⟨fuel, counted⟩ : ∃ fuel, ((tag :: rest).flatMap tagBytes).length = fuel + 1 :=
    ⟨((tag :: rest).flatMap tagBytes).length - 1, by omega⟩
  have first := tagsFrom_tag [] (rest.flatMap tagBytes) tag ((tag :: rest).flatMap tagBytes).length fuel
    ⟨typed.1, by omega⟩ typed.2
    (by simp)
  rw [List.nil_append, ← List.flatMap_cons, List.length_nil, ← counted] at first
  rw [first, List.map_cons]
  exact List.mem_cons_self

namespace Server

-- What a reply says, and that its length counts it.
structure Reply.Carries (r : Reply) (hDest hSource : Mac) (code : UInt8) (session : UInt16)
    (tags : List PPPoETag) : Prop where
  hDest : r.hDest = hDest
  hSource : r.hSource = hSource
  code : r.code = code
  session : r.session = session
  bytes : r.bytes = tags.flatMap tagBytes
  cursor : r.cursor = r.bytes.length
  counted : r.plen = r.bytes.length % 65536

theorem newReply_carries (hDest hSource : Mac) (code : UInt8) (session : UInt16) :
    (newReply hDest hSource code session).Carries hDest hSource code session [] :=
  ⟨rfl, rfl, rfl, rfl, rfl, rfl, rfl⟩

section Carries

variable {r : Reply} {hDest hSource : Mac} {code : UInt8} {session : UInt16} {tags : List PPPoETag}
  (carries : r.Carries hDest hSource code session tags)

include carries

theorem put_carries (tag : PPPoETag) : (r.put (tagBytes tag)).Carries hDest hSource code session (tags ++ [tag]) := by
  have bytes : (r.put (tagBytes tag)).bytes = r.bytes ++ tagBytes tag := by simp [Reply.bytes, Reply.put]
  refine ⟨carries.hDest, carries.hSource, carries.code, carries.session, ?_, ?_, ?_⟩
  · rw [bytes, carries.bytes, List.flatMap_append, List.flatMap_singleton]
  · rw [bytes, List.length_append, ← carries.cursor]
    rfl
  · rw [bytes, List.length_append]
    show (r.plen + (tagBytes tag).length) % 65536 = _
    rw [carries.counted, Nat.mod_add_mod]

theorem putTag_carries (tag : Option PPPoETag) : (r.putTag tag).Carries hDest hSource code session
    (tags ++ tag.toList) := by
  cases tag with
  | none =>
      rw [Option.toList_none, List.append_nil]
      exact carries
  | some tag => exact put_carries carries tag

theorem send_carries : r.send.Carries hDest hSource code session tags :=
  ⟨carries.hDest, carries.hSource, carries.code, carries.session, carries.bytes, carries.cursor, carries.counted⟩

theorem frames_carries (face : Nat) : r.frames face = if r.sent then [⟨face, tagFrame hDest hSource code session tags⟩]
    else [] := by
  unfold Reply.frames tagFrame
  rw [carries.hDest, carries.hSource, carries.code, carries.session, carries.counted, carries.bytes]

theorem noRoom_carries (len : Nat) : r.noRoom len = decide
    ((tags.flatMap tagBytes).length + len > maxPppoePayload) := by
  unfold Reply.noRoom
  rw [carries.cursor, carries.bytes]

end Carries

theorem sendErrorPADS_carries (statics : Statics) (source dest : Mac) (errorTag : Nat) (errorMsg : String) :
    (sendErrorPADS statics source dest errorTag errorMsg).Carries dest source codePADS (htons 0)
      (⟨errorTag, textBytes errorMsg⟩ :: (statics.relayId.toList ++ statics.hostUniq.toList)) := by
  have first := put_carries (newReply_carries dest source codePADS (htons 0)) ⟨errorTag, textBytes errorMsg⟩
  exact send_carries (putTag_carries (putTag_carries first statics.relayId) statics.hostUniq)

def serviceTag (cfg : Config) (requested : PPPoETag) : PPPoETag :=
  if requested.payload = [] then ⟨requested.type, cfg.serviceNames.headD []⟩ else requested

def mruTags (mru : Nat) : List PPPoETag := if mru ≠ 0 then [mruTag mru] else []

-- The tags of a PADS, which is given up where the max-payload tag has no room.
def padsTags (cfg : Config) (statics : Statics) (ethif : Interface) (requested : PPPoETag) : List PPPoETag :=
  serviceTag cfg requested :: (mruTags (mruFor ethif statics.maxPppPayload) ++
    (statics.relayId.toList ++ statics.hostUniq.toList))

def PadsRoom (cfg : Config) (statics : Statics) (ethif : Interface) (requested : PPPoETag) : Prop :=
  mruFor ethif statics.maxPppPayload ≠ 0 →
    (tagBytes (serviceTag cfg requested)).length + (tagBytes (mruTag (mruFor ethif statics.maxPppPayload))).length ≤
    maxPppoePayload

theorem childPADS_frames (cfg : Config) (statics : Statics) (ethif : Interface) (dest : Mac) (sess : UInt16)
    (requested : PPPoETag)
    (face : Nat) : (PadsRoom cfg statics ethif requested ∧
    (childPADS cfg statics ethif dest sess requested).frames face =
        [⟨face, tagFrame dest ethif.mac codePADS sess (padsTags cfg statics ethif requested)⟩]) ∨
      ¬ PadsRoom cfg statics ethif requested ∧ (childPADS cfg statics ethif dest sess requested).frames face = [] := by
  have first := put_carries (newReply_carries dest ethif.mac codePADS sess) (serviceTag cfg requested)
  have room := noRoom_carries first (tagBytes (mruTag (mruFor ethif statics.maxPppPayload))).length
  rw [List.nil_append] at first
  rw [List.nil_append, List.flatMap_singleton] at room
  unfold childPADS
  dsimp only
  rw [show (if requested.payload = [] then ⟨requested.type, cfg.serviceNames.headD []⟩ else requested : PPPoETag) =
    serviceTag cfg requested from rfl, room]
  unfold PadsRoom padsTags mruTags
  by_cases full : mruFor ethif statics.maxPppPayload ≠ 0 ∧ decide ((tagBytes (serviceTag cfg requested)).length +
      (tagBytes (mruTag (mruFor ethif statics.maxPppPayload))).length > maxPppoePayload) = true
  · rw [if_pos full]
    have exceeded := of_decide_eq_true full.2
    exact .inr ⟨fun fits => by have bound := fits full.1; omega, rfl⟩
  · rw [if_neg full]
    refine .inl ⟨fun asked => ?_, ?_⟩
    · by_contra exceeded
      exact full ⟨asked, by simpa using exceeded⟩
    · by_cases asked : mruFor ethif statics.maxPppPayload ≠ 0
      · rw [if_pos asked, if_pos asked]
        have all := putTag_carries (putTag_carries (put_carries first (mruTag (mruFor ethif statics.maxPppPayload)))
          statics.relayId)
          statics.hostUniq
        rw [frames_carries (send_carries all)]
        simp [Reply.send]
      · rw [if_neg asked, if_neg asked]
        have all := putTag_carries (putTag_carries first statics.relayId) statics.hostUniq
        rw [frames_carries (send_carries all)]
        simp [Reply.send]

-- The tags of a PADO in their order.
def padoTags (cfg : Config) (ethif : Interface) (source : Mac) (mru : Nat)
    (relayId hostUniq : Option PPPoETag) : List PPPoETag :=
  ⟨tagAcName, cfg.acName⟩ :: (mruTags mru ++
    ((if cfg.serviceNames = [] then [[]] else cfg.serviceNames).map (fun name => (⟨tagServiceName, name⟩ : PPPoETag)) ++
      (⟨tagAcCookie, genCookie cfg source ethif.mac⟩ :: (relayId.toList ++ hostUniq.toList))))

section Offering

variable {hDest hSource : Mac} {code : UInt8} {session : UInt16}

def Offering (hDest hSource : Mac) (code : UInt8) (session : UInt16) (tags : List PPPoETag) (r : Option Reply) : Prop :=
  (∀ x ∈ r, x.Carries hDest hSource code session tags) ∧ (r.isSome ↔ (tags.flatMap tagBytes).length ≤ maxPppoePayload)

theorem offering_put (tags : List PPPoETag) (r : Option Reply) (offering : Offering hDest hSource code session tags r)
    (tag : PPPoETag) :
    Offering hDest hSource code session (tags ++ [tag])
      (r.bind fun r => if r.noRoom (tagBytes tag).length then none else some (r.put (tagBytes tag))) := by
  have longer : ((tags ++ [tag]).flatMap tagBytes).length = (tags.flatMap tagBytes).length + (tagBytes tag).length := by
    simp
  unfold Offering at offering ⊢
  rw [longer]
  cases r with
  | none =>
      have full : ¬ (tags.flatMap tagBytes).length ≤ maxPppoePayload := by simpa using offering.2
      refine ⟨fun x member => (Option.not_mem_none x member).elim, ?_⟩
      simp only [Option.bind_none, Option.isSome_none, Bool.false_eq_true, false_iff]
      omega
  | some r =>
      have carries := offering.1 r rfl
      rw [Option.bind_some, noRoom_carries carries]
      by_cases exceeded : (tags.flatMap tagBytes).length + (tagBytes tag).length > maxPppoePayload
      · rw [if_pos (by simpa using exceeded)]
        refine ⟨fun x member => (Option.not_mem_none x member).elim, ?_⟩
        simp only [Option.isSome_none, Bool.false_eq_true, false_iff]
        omega
      · rw [if_neg (by simpa using exceeded)]
        refine ⟨fun x member => ?_, ?_⟩
        · obtain rfl := Option.some.inj member
          exact put_carries carries tag
        · simp only [Option.isSome_some, true_iff]
          omega

theorem offering_names (names : List (List UInt8)) (tags : List PPPoETag) (r : Option Reply)
    (offering : Offering hDest hSource code session tags r) :
    Offering hDest hSource code session (tags ++ names.map fun name => ⟨tagServiceName, name⟩)
      (names.foldl (fun r name => r.bind fun r =>
        if r.noRoom (tagBytes ⟨tagServiceName, name⟩).length then none else some
          (r.put (tagBytes ⟨tagServiceName, name⟩))) r) := by
  induction names generalizing tags r with
  | nil => simpa using offering
  | cons name later ih =>
      rw [List.foldl_cons, List.map_cons, List.append_cons]
      exact ih _ _ (offering_put tags r offering ⟨tagServiceName, name⟩)

theorem offering_echo (tags : List PPPoETag) (r : Option Reply) (offering : Offering hDest hSource code session tags r)
    (echo : Option PPPoETag) : Offering hDest hSource code session (tags ++ echo.toList)
      (match echo.map tagBytes with
        | some bytes => r.bind fun r => if r.noRoom bytes.length then none else some (r.put bytes)
        | none => r) := by
  cases echo with
  | none => simpa using offering
  | some tag => exact offering_put tags r offering tag

theorem offering_mru (tags : List PPPoETag) (r : Option Reply) (offering : Offering hDest hSource code session tags r)
    (mru : Nat) :
    Offering hDest hSource code session (tags ++ mruTags mru)
      (if mru ≠ 0 then r.bind fun r => if r.noRoom (tagBytes (mruTag mru)).length then none else some
        (r.put (tagBytes (mruTag mru)))
        else r) := by
  unfold mruTags
  split
  · exact offering_put tags r offering (mruTag mru)
  · simpa using offering

theorem offering_sent (tags : List PPPoETag) (r : Option Reply) (offering : Offering hDest hSource code session tags r)
    (face : Nat) :
    (r.map Reply.send).toList.flatMap (Reply.frames face) =
      if (tags.flatMap tagBytes).length ≤ maxPppoePayload then [⟨face, tagFrame hDest hSource code session tags⟩]
        else [] := by
  obtain ⟨carries, fits⟩ := offering
  cases r with
  | none =>
      have exceeded : ¬ (tags.flatMap tagBytes).length ≤ maxPppoePayload := by simpa using fits.not.mp (by simp)
      rw [if_neg exceeded]
      rfl
  | some r =>
      rw [if_pos (fits.mp rfl), Option.map_some, Option.toList_some, List.flatMap_singleton,
        frames_carries (send_carries (carries r rfl))]
      simp [Reply.send]

end Offering

theorem padoReply_frames (cfg : Config) (ethif : Interface) (source : Mac) (mru : Nat)
    (relayId hostUniq : Option PPPoETag) (face : Nat) :
    (padoReply cfg ethif source mru (relayId.map tagBytes) (hostUniq.map tagBytes)).toList.flatMap (Reply.frames face) =
      if ((padoTags cfg ethif source mru relayId hostUniq).flatMap tagBytes).length ≤ maxPppoePayload then
        [⟨face, tagFrame source ethif.mac codePADO 0 (padoTags cfg ethif source mru relayId hostUniq)⟩]
      else [] := by
  have start : Offering source ethif.mac codePADO 0 [] (some (newReply source ethif.mac codePADO 0)) := by
    refine ⟨fun x member => ?_, by simp⟩
    obtain rfl := Option.some.inj member
    exact newReply_carries _ _ _ _
  have named := offering_mru _ _ (offering_put _ _ start ⟨tagAcName, cfg.acName⟩) mru
  have offered := offering_put _ _ (offering_names (if cfg.serviceNames = [] then [[]] else cfg.serviceNames) _ _ named)
    ⟨tagAcCookie, genCookie cfg source ethif.mac⟩
  have all := offering_echo _ _ (offering_echo _ _ offered relayId) hostUniq
  have same : ([] ++ [⟨tagAcName, cfg.acName⟩] ++ mruTags mru ++
      (if cfg.serviceNames = [] then [[]] else cfg.serviceNames).map
        (fun name => (⟨tagServiceName, name⟩ : PPPoETag)) ++
      [⟨tagAcCookie, genCookie cfg source ethif.mac⟩] ++ relayId.toList ++ hostUniq.toList) =
        padoTags cfg ethif source mru relayId hostUniq := by
    simp [padoTags]
  rw [same] at all
  exact offering_sent _ _ all face

end Server

end ZyAgf.Pppoe
