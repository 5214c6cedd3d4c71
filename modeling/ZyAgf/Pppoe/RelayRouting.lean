import ZyAgf.Pppoe.RelayAgreement
import ZyAgf.Pppoe.RelayIngress
import ZyAgf.Pppoe.TagEdit

set_option autoImplicit false

namespace ZyAgf.Pppoe.Relay

def maxInterfaces : Nat := 8

-- The tag the relay puts into a frame that came from a station on an interface.
def relayTagFor (iface : Nat) (mac : Mac) : PPPoETag := ⟨tagRelaySessionId, intBytes iface ++ mac.toList⟩

-- The first tag of the type changes its data, and nothing else changes.
def replaceFirst (type : Nat) (data : List UInt8) : List PPPoETag → List PPPoETag
  | [] => []
  | tag :: rest => if tag.type = type then ⟨tag.type, data⟩ :: rest else tag :: replaceFirst type data rest

def withoutFirst (type : Nat) (tags : List PPPoETag) : List PPPoETag := tags.eraseP (·.type == type)

theorem replaceFirst_split (type : Nat) (data : List UInt8) (before after : List PPPoETag) (tag : PPPoETag)
    (here : tag.type = type) (others : ∀ other ∈ before, other.type ≠ type) :
    replaceFirst type data (before ++ tag :: after) = before ++ ⟨tag.type, data⟩ :: after := by
  induction before with
  | nil => exact if_pos here
  | cons first before ih =>
      obtain ⟨apart, rest⟩ := List.forall_mem_cons.mp others
      rw [List.cons_append, replaceFirst, if_neg apart, ih rest]
      rfl

theorem withoutFirst_split (type : Nat) (before after : List PPPoETag) (tag : PPPoETag)
    (here : tag.type = type) (others : ∀ other ∈ before, other.type ≠ type) :
    withoutFirst type (before ++ tag :: after) = before ++ after := by
  unfold withoutFirst
  rw [List.eraseP_append_right _ (fun other member => by simpa using others other member),
    List.eraseP_cons_of_pos (by simpa using here)]

theorem intAt_intBytes (n : Nat) (small : n < 2 ^ 31) (rest : List UInt8) : intAt (intBytes n ++ rest) 0 = n := by
  have bytes : byteAt (intBytes n ++ rest) 0 + byteAt (intBytes n ++ rest) 1 * 256 + byteAt
    (intBytes n ++ rest) 2 * 65536 +
      byteAt (intBytes n ++ rest) 3 * 16777216 = n := by
    simp [byteAt, intBytes]
    omega
  unfold intAt
  simp only [Nat.zero_add]
  rw [bytes, BitVec.toInt_eq_toNat_cond, BitVec.toNat_ofNat, Nat.mod_eq_of_lt (by omega), if_pos (by omega)]

theorem macAt_toList (front : List UInt8) (mac : Mac) : macAt (front ++ mac.toList) front.length = mac := by
  unfold macAt
  ext i bound
  rw [Vector.getElem_ofFn, List.getD_append_right _ _ _ _ (Nat.le_add_right _ _), Nat.add_sub_cancel_left,
    List.getD_eq_getElem _ _ (by simpa using bound), Vector.getElem_toList]

theorem relayTagFor_fields (iface : Nat) (mac : Mac) (small : iface < 2 ^ 31) :
    (relayTagFor iface mac).payload.length = myRelayTagLen ∧ intAt (relayTagFor iface mac).payload 0 = iface ∧
      macAt (relayTagFor iface mac).payload 4 = mac :=
  ⟨by simp [relayTagFor, intBytes, myRelayTagLen], intAt_intBytes iface small _, macAt_toList (intBytes iface) mac⟩

theorem checkLength_cut (frame packet : PPPoEPacket) (checked : checkLength frame = some packet) :
    packet.payload.length = packet.length ∧ packet.length = frame.length ∧ packet.hSource = frame.hSource ∧
      packet.session = frame.session ∧ packet.vertype = frame.vertype := by
  unfold checkLength at checked
  split at checked
  · cases checked
  next whole =>
    obtain rfl := Option.some.inj checked
    refine ⟨?_, rfl, rfl, rfl, rfl⟩
    show (frame.payload.take frame.length).length = frame.length
    rw [List.length_take]
    omega

theorem readTags_cut (frame packet : PPPoEPacket) (checked : checkLength frame = some packet) : readTags packet =
    readTags frame := by
  obtain ⟨cut, size, _, _, version⟩ := checkLength_cut frame packet checked
  have same : tagsReadable packet = tagsReadable frame := by
    unfold tagsReadable
    rw [size, version]
  by_cases readable : tagsReadable frame = true
  · have walked := (readTags_wellFormed frame (readTags frame)).mpr rfl
    unfold WellFormedPrefix at walked
    rw [if_pos readable] at walked
    have payload : packet.payload = frame.payload.take frame.length ∧ frame.length ≤ frame.payload.length := by
      unfold checkLength at checked
      split at checked
      · cases checked
      · obtain rfl := Option.some.inj checked
        exact ⟨rfl, by omega⟩
    obtain ⟨rest, bytes, proper, inside, stops⟩ := tagPrefix_decompose _ _ 0 _ payload.2 (Nat.zero_le _) walked
    rw [List.drop_zero] at bytes
    rw [Nat.zero_add] at inside stops
    have long := congrArg List.length bytes
    rw [List.length_append] at long
    refine readTags_of_laid packet (same.trans readable) cut _
      (rest.take (frame.length - ((readTags frame).flatMap tagBytes).length)) ⟨?_, proper, ?_⟩
    · rw [payload.1, bytes, List.take_append]
      rw [List.take_of_length_le inside]
    · convert tagPrefix_cut rest _ stops using 1
      rw [List.length_take]
      omega
  · unfold readTags parsePacket
    rw [same, if_neg readable, if_neg readable]

theorem findTag_readable (packet : PPPoEPacket) (type : Nat) (visit : Nat × PPPoETag)
    (found : findTag packet type = some visit) :
    tagsReadable packet = true := by
  unfold findTag at found
  split at found
  next readable => exact readable
  next => cases found

-- What makes relayTag give up: the conditions under which a frame is dropped.
def BadRelayTag (cfg : Config) (iface : Nat) (facing : PPPoEInterface → Bool) (tags : List PPPoETag) : Prop :=
  match firstTag tags tagRelaySessionId with
  | none => True
  | some tag =>
      tag.payload.length ≠ myRelayTagLen ∨ intAt tag.payload 0 < 0 ∨
        cfg.interfaces[(intAt tag.payload 0).toNat]? = none ∨
        (∃ target, cfg.interfaces[(intAt tag.payload 0).toNat]? = some target ∧ facing target = false) ∨
        (intAt tag.payload 0).toNat = iface

theorem relayTag_bad (cfg : Config) (iface : Nat) (packet : PPPoEPacket) (facing : PPPoEInterface → Bool)
    (bad : BadRelayTag cfg iface facing (readTags packet)) : relayTag cfg iface packet facing = none := by
  unfold BadRelayTag at bad
  rw [← findTag_first] at bad
  unfold relayTag
  cases found : findTag packet tagRelaySessionId with
  | none => rfl
  | some visit =>
      obtain ⟨loc, tag⟩ := visit
      rw [found] at bad
      dsimp only [Option.map_some] at bad ⊢
      rcases bad with short | negative | outside | ⟨target, known, wrong⟩ | here
      · rw [if_pos short]
      · split <;> rfl
      · split
        · rfl
        split
        · rfl
        rw [outside]
      · split
        · rfl
        split
        · rfl
        rw [known]
        exact if_pos (.inl wrong)
      · split
        · rfl
        split
        · rfl
        cases cfg.interfaces[(intAt tag.payload 0).toNat]? with
        | none => rfl
        | some target => exact if_pos (.inr here)

theorem relayTag_echo (cfg : Config) (iface : Nat) (packet : PPPoEPacket) (facing : PPPoEInterface → Bool) (c : Nat)
    (mac : Mac)
    (target : PPPoEInterface) (few : cfg.interfaces.length ≤ maxInterfaces) (known : cfg.interfaces[c]? = some target)
    (faces : facing target = true) (other : c ≠ iface)
    (echo : firstTag (readTags packet) tagRelaySessionId = some (relayTagFor c mac)) :
    ∃ loc, findTag packet tagRelaySessionId = some (loc, relayTagFor c mac) ∧
      relayTag cfg iface packet facing = some ⟨loc, c, target, mac⟩ := by
  rw [← findTag_first] at echo
  obtain ⟨⟨loc, tag⟩, found, rfl⟩ := Option.map_eq_some_iff.mp echo
  have inside : c < cfg.interfaces.length := (List.getElem?_eq_some_iff.mp known).1
  obtain ⟨size, index, address⟩ := relayTagFor_fields c mac (by unfold maxInterfaces at few; omega)
  refine ⟨loc, found, ?_⟩
  unfold relayTag
  rw [found]
  dsimp only
  rw [if_neg (not_not_intro size), index, if_neg (by omega), Int.toNat_natCast, known]
  dsimp only
  rw [if_neg (by rintro (wrong | here) <;> simp_all), address]

theorem relayAcross_tags (packet : PPPoEPacket) (cut : packet.payload.length = packet.length) (iface : Nat)
    (tag : RelayTag)
    (found : PPPoETag) (there : findTag packet tagRelaySessionId = some (tag.loc, found))
    (size : found.payload.length = myRelayTagLen) :
    (relayAcross iface packet tag).frame.payload.length = packet.length ∧
    readTags (relayAcross iface packet tag).frame =
      replaceFirst tagRelaySessionId (relayTagFor iface packet.hSource).payload (readTags packet) := by
  obtain ⟨before, after, split, typed, others, place⟩ := findTag_split packet (Nat.le_of_eq cut.symm) _ _ _ there
  have readable := findTag_readable packet _ _ there
  obtain ⟨rest, laid⟩ := laid_of_read packet readable cut
  rw [split] at laid
  have same : (relayTagFor iface packet.hSource).payload.length = found.payload.length := by
    rw [size]
    simp [relayTagFor, intBytes, myRelayTagLen]
  have replaced := laid_replace packet.payload before after found rest laid _ same
  rw [← place] at replaced
  have whole : (relayAcross iface packet tag).frame.payload.length = packet.length := by
    have new := laid_length _ _ _ replaced
    have old := laid_length _ _ _ laid
    show (packet.payload.take _ ++ _ ++ packet.payload.drop _).length = _
    rw [← cut, old]
    refine new.trans ?_
    simp only [List.flatMap_append, List.flatMap_cons, List.length_append, tagBytes_length, same]
  refine ⟨whole, ?_⟩
  rw [split, replaceFirst_split _ _ before after found typed others]
  exact readTags_of_laid (relayAcross iface packet tag).frame readable whole _ rest replaced

theorem relayPADS_tags (packet : PPPoEPacket) (cut : packet.payload.length = packet.length) (tag : RelayTag)
    (session : UInt16)
    (found : PPPoETag) (there : findTag packet tagRelaySessionId = some (tag.loc, found))
    (size : found.payload.length = myRelayTagLen) :
    (relayPADS packet tag session).frame.payload.length = (relayPADS packet tag session).frame.length ∧
    readTags (relayPADS packet tag session).frame = withoutFirst tagRelaySessionId (readTags packet) := by
  obtain ⟨before, after, split, typed, others, place⟩ := findTag_split packet (Nat.le_of_eq cut.symm) _ _ _ there
  have readable := findTag_readable packet _ _ there
  obtain ⟨inside, _, _⟩ := findTag_inside packet _ _ _ (Nat.le_of_eq cut.symm) there
  obtain ⟨rest, laid⟩ := laid_of_read packet readable cut
  rw [split] at laid
  have removed := laid_remove packet.payload before after found rest laid
  rw [← place, tagBytes_length, size] at removed
  rw [size] at inside
  have edited : removeBytes packet tag.loc (myRelayTagLen + tagHdrSize) = some { packet with
      length := packet.length - (myRelayTagLen + tagHdrSize)
      payload := packet.payload.take tag.loc ++ packet.payload.drop (tag.loc + (myRelayTagLen + tagHdrSize)) } := by
    unfold removeBytes
    rw [if_neg (by omega)]
  have whole : (relayPADS packet tag session).frame.payload.length = (relayPADS packet tag session).frame.length := by
    unfold relayPADS
    rw [edited]
    show (packet.payload.take _ ++ packet.payload.drop _).length = packet.length - _
    rw [List.length_append, List.length_take, List.length_drop]
    omega
  refine ⟨whole, ?_⟩
  rw [split, withoutFirst_split _ before after found typed others]
  have payload : (relayPADS packet tag session).frame.payload =
      packet.payload.take tag.loc ++ packet.payload.drop (tag.loc + (myRelayTagLen + tagHdrSize)) := by
    unfold relayPADS
    rw [edited]
    rfl
  refine readTags_of_laid _ ?_ whole _ rest (payload ▸ removed)
  unfold tagsReadable at readable ⊢
  simp only [Bool.and_eq_true, decide_eq_true_eq] at readable ⊢
  unfold relayPADS
  rw [edited]
  exact ⟨readable.1, Nat.le_trans (Nat.sub_le _ _) readable.2⟩

-- The reply of a station to a frame of the relay: it goes back to where the frame
-- came from, and the relay tag in it is the one it was sent.
structure Answers (frame : PPPoEPacket) (code : UInt8) (source : Mac) (asked : PPPoEPacket) : Prop where
  version : versionOk frame = true
  whole : frame.length ≤ frame.payload.length
  coded : frame.code = code
  from' : frame.hSource = source
  to' : frame.hDest = asked.hSource
  echo : firstTag (readTags frame) tagRelaySessionId = firstTag (readTags asked) tagRelaySessionId

-- A frame that leaves for one station on one interface.
structure Reaches (sent : Sent) (iface : Nat) (mac : Mac) (code : UInt8) (tags : List PPPoETag) : Prop where
  iface : sent.iface = iface
  sock : sent.sock = .discovery
  dest : sent.frame.hDest = mac
  code : sent.frame.code = code
  size : sent.frame.payload.length = sent.frame.length
  tags : readTags sent.frame = tags

theorem checkLength_some (frame : PPPoEPacket) (whole : frame.length ≤ frame.payload.length) :
    checkLength frame = some { frame with payload := frame.payload.take frame.length } := by
  unfold checkLength
  rw [if_neg (Nat.not_lt.mpr whole)]

theorem relayHandlePADI_sent (cfg : Config) (c : Nat) (i : PPPoEInterface) (packet : PPPoEPacket) (asked : Sent)
    (member : asked ∈ relayHandlePADI cfg c i packet) :
    i.clientOK = true ∧ notUnicast packet.hSource = false ∧ findTag packet tagRelaySessionId = none ∧
      ∃ added o, addTag packet (relayTagFor c packet.hSource) = some added ∧ cfg.interfaces[asked.iface]? = some o ∧
        asked.iface ≠ c ∧ o.acOK = true ∧ asked.frame = { added with hSource := o.mac } := by
  unfold relayHandlePADI at member
  by_cases client : i.clientOK = false
  · rw [if_pos client] at member
    cases member
  rw [if_neg client] at member
  by_cases unicast : notUnicast packet.hSource = true
  · rw [if_pos unicast] at member
    cases member
  rw [if_neg unicast] at member
  by_cases toAll : broadcast packet.hDest = false
  · rw [if_pos toAll] at member
    cases member
  rw [if_neg toAll] at member
  by_cases tagged : (findTag packet tagRelaySessionId).isSome = true
  · rw [if_pos tagged] at member
    cases member
  rw [if_neg tagged] at member
  cases added : addTag packet ⟨tagRelaySessionId, intBytes c ++ packet.hSource.toList⟩ with
  | none =>
      rw [added] at member
      cases member
  | some added' =>
      rw [added] at member
      obtain ⟨other, inside, rfl⟩ := List.mem_map.mp member
      obtain ⟨listed, chosen⟩ := List.mem_filter.mp inside
      rw [Bool.and_eq_true, bne_iff_ne] at chosen
      have known : cfg.interfaces[other.2]? = some other.1 := List.mem_zipIdx_iff_getElem?.mp listed
      exact ⟨by simpa using client, by simpa using unicast, by simpa using tagged, added', other.1, added, known, chosen.1, chosen.2, rfl⟩

theorem addTag_tags (packet added : PPPoEPacket) (tag : PPPoETag) (version : versionOk packet = true)
    (cut : packet.payload.length = packet.length) (proper : Proper tag) (done : addTag packet tag = some added) :
    added.payload.length = added.length ∧ tagsReadable added = true ∧ readTags added = tag :: readTags packet := by
  unfold addTag insertBytes at done
  split at done
  · cases done
  next room =>
    obtain rfl := Option.some.inj done
    have small : (tagBytes tag).length + packet.length ≤ maxPppoePayload := by omega
    have readable : tagsReadable packet = true := by
      unfold tagsReadable
      unfold versionOk at version
      rw [version, Bool.true_and, decide_eq_true_eq]
      omega
    have after : tagsReadable { packet with
        length := packet.length + (tagBytes tag).length
        payload := packet.payload.take 0 ++ tagBytes tag ++ packet.payload.drop 0 } = true := by
      unfold tagsReadable
      unfold versionOk at version
      rw [version, Bool.true_and, decide_eq_true_eq]
      dsimp only
      omega
    have whole : (packet.payload.take 0 ++ tagBytes tag ++ packet.payload.drop 0).length = packet.length +
      (tagBytes tag).length := by
      simp [cut, Nat.add_comm]
    obtain ⟨rest, laid⟩ := laid_of_read packet readable cut
    exact ⟨whole, after, readTags_of_laid _ after whole _ rest
      (by simpa using laid_insert packet.payload _ rest laid tag proper)⟩

theorem relayTagFor_proper (iface : Nat) (mac : Mac) : Proper (relayTagFor iface mac) :=
  ⟨⟨by simp [relayTagFor,
    tagRelaySessionId], by simp [relayTagFor, intBytes]⟩, by simp [relayTagFor, tagRelaySessionId, tagEndOfList]⟩

theorem insertBytes_sized (packet packet' : PPPoEPacket) (loc : Nat) (bytes : List UInt8)
    (inserted : insertBytes packet loc bytes = some packet') :
    packet'.hDest = packet.hDest ∧ (packet.payload.length = packet.length →
      packet'.payload.length = packet'.length) := by
  unfold insertBytes at inserted
  split at inserted
  · cases inserted
  · obtain rfl := Option.some.inj inserted
    refine ⟨rfl, fun whole => ?_⟩
    simp only [List.length_append, List.length_take, List.length_drop]
    omega

theorem broadcast_notUnicast (mac : Mac) (unicast : notUnicast mac = false) : broadcast mac = false := by
  cases all : broadcast mac with
  | false => rfl
  | true =>
      have same : mac = Vector.replicate 6 0xff := beq_iff_eq.mp all
      rw [same] at unicast
      cases unicast

section Stages

variable (cfg : Config) (s : RelayState)

theorem padi_asked (c : Nat) (padi : PPPoEPacket) (coded : padi.code = codePADI) (s' : RelayState) (out : List Sent)
    (ran : step cfg s (.discovery c padi) = some (s', out)) (asked : Sent) (member : asked ∈ out) :
    ∃ i o, cfg.interfaces[c]? = some i ∧ cfg.interfaces[asked.iface]? = some o ∧ i.clientOK = true ∧ o.acOK = true ∧
      asked.iface ≠ c ∧ notUnicast padi.hSource = false ∧ asked.frame.hSource = o.mac ∧
      readTags asked.frame = relayTagFor c padi.hSource :: readTags padi := by
  obtain ⟨i, known, got⟩ := Option.bind_eq_some_iff.mp ran
  unfold relayGotDiscoveryPacket at got
  split at got
  · obtain rfl := (Prod.mk.inj (Option.some.inj got)).2
    cases member
  next version =>
    cases checked : checkLength padi with
    | none =>
        rw [checked] at got
        obtain rfl := (Prod.mk.inj (Option.some.inj got)).2
        cases member
    | some packet =>
        rw [checked] at got
        dsimp only at got
        obtain ⟨_, sameCode⟩ := checkLength_fields padi packet checked
        obtain ⟨cut, _, source, _, sameVersion⟩ := checkLength_cut padi packet checked
        rw [if_neg (by rw [sameCode, coded]; decide), if_pos (sameCode.trans coded)] at got
        obtain rfl := (Prod.mk.inj (Option.some.inj got)).2
        obtain ⟨client, unicast, _, added, o, done, listed, other, server, frame⟩ :=
          relayHandlePADI_sent cfg c i packet asked member
        have versioned : versionOk packet = true := by
          unfold versionOk
          rw [sameVersion]
          simpa using version
        obtain ⟨_, _, tags⟩ := addTag_tags packet added _ versioned cut (relayTagFor_proper c packet.hSource) done
        refine ⟨i, o, known, listed, client, server, other, source ▸ unicast, by rw [frame], ?_⟩
        rw [frame, ← source, ← readTags_cut padi packet checked, ← tags]
        rfl

theorem discovery_handled (a : Nat) (i : PPPoEInterface) (known : cfg.interfaces[a]? = some i) (frame : PPPoEPacket)
    (version : versionOk frame = true) (whole : frame.length ≤ frame.payload.length) :
    ∃ packet, checkLength frame = some packet ∧ packet.payload.length = packet.length ∧ packet.length = frame.length ∧
      packet.hSource = frame.hSource ∧ packet.hDest = frame.hDest ∧ packet.session = frame.session ∧
        packet.code = frame.code ∧
      readTags packet = readTags frame ∧
      (frame.code = codePADI → step cfg s (.discovery a frame) = some (s, relayHandlePADI cfg a i packet)) ∧
      (frame.code = codePADO → step cfg s (.discovery a frame) = some (s, relayHandlePADO cfg a i packet)) ∧
      (frame.code = codePADR → step cfg s (.discovery a frame) = some (s, relayHandlePADR cfg a i packet)) ∧
      (frame.code = codePADS → step cfg s (.discovery a frame) = relayHandlePADS cfg s a i packet) := by
  have checked := checkLength_some frame whole
  have size : (frame.payload.take frame.length).length = frame.length := by
    rw [List.length_take]
    omega
  have versioned : ¬ (pppoeVer frame.vertype ≠ 1 ∨ pppoeType frame.vertype ≠ 1) := by
    unfold versionOk at version
    rw [Bool.and_eq_true, beq_iff_eq, beq_iff_eq] at version
    omega
  refine ⟨_, checked, size, rfl, rfl, rfl, rfl, rfl, readTags_cut frame _ checked, ?_, ?_, ?_, ?_⟩
  all_goals
    intro coded
    show (cfg.interfaces[a]?.bind fun i => relayGotDiscoveryPacket cfg s a i frame) = _
    rw [known, Option.bind_some]
    unfold relayGotDiscoveryPacket
    rw [if_neg versioned, checked]
    dsimp only
    rw [coded]
    rfl

theorem firstTag_replaceFirst (type : Nat) (data : List UInt8) (tags : List PPPoETag) (tag : PPPoETag)
    (first : firstTag tags type = some tag) : firstTag (replaceFirst type data tags) type = some ⟨type, data⟩ := by
  unfold firstTag at first ⊢
  obtain ⟨typed, before, after, rfl, others⟩ := List.find?_eq_some_iff_append.mp first
  have apart : ∀ other ∈ before, other.type ≠ type := fun other member => by simpa using others other member
  have same : tag.type = type := by simpa using typed
  rw [replaceFirst_split type data before after tag same apart, same, List.find?_append,
    List.find?_eq_none.mpr (fun other member => by simpa using apart other member)]
  simp

theorem across_reaches (a : Nat) (packet : PPPoEPacket) (cut : packet.payload.length = packet.length)
    (facing : PPPoEInterface → Bool) (few : cfg.interfaces.length ≤ maxInterfaces) (c : Nat) (mac : Mac)
    (target : PPPoEInterface)
    (known : cfg.interfaces[c]? = some target) (faces : facing target = true) (other : c ≠ a)
    (echo : firstTag (readTags packet) tagRelaySessionId = some (relayTagFor c mac)) :
    ∃ sent, ((relayTag cfg a packet facing).map (relayAcross a packet)).toList = [sent] ∧
      Reaches sent c mac packet.code (replaceFirst tagRelaySessionId (relayTagFor a packet.hSource).payload
        (readTags packet)) ∧
      sent.frame.hSource = target.mac := by
  obtain ⟨loc, there, led⟩ := relayTag_echo cfg a packet facing c mac target few known faces other echo
  obtain ⟨whole, tags⟩ := relayAcross_tags packet cut a ⟨loc, c, target, mac⟩ (relayTagFor c mac) there
    (by simp [relayTagFor, intBytes, myRelayTagLen])
  exact ⟨_, by rw [led]; rfl, ⟨rfl, rfl, rfl, rfl, whole, tags⟩, rfl⟩

def Exhausted (pads : PPPoEPacket) : Prop :=
  pads.session ≠ htons 0 ∧ findSession s pads.hSource pads.session = none ∧ s.maxSessions ≤ s.numSessions

def Refused (sent : Sent) (c : Nat) (mac : Mac) (a : Nat) (pads : PPPoEPacket) : Prop :=
  (sent.iface = c ∧ sent.frame.hDest = mac ∧ sent.frame.code = codePADS ∧ sent.frame.session = htons 0) ∨
  (sent.iface = a ∧ sent.frame.hDest = pads.hSource ∧ sent.frame.code = codePADT ∧ sent.frame.session = pads.session)

theorem relaySendError_to (code : UInt8) (session : UInt16) (iface : Nat) (mac : Mac) (hostUniq : Option PPPoETag)
    (errMsg : String) (sent : Sent) (member : sent ∈ relaySendError cfg code session iface mac hostUniq errMsg) :
    sent.iface = iface ∧ sent.frame.hDest = mac ∧ sent.frame.payload.length = sent.frame.length := by
  unfold relaySendError at member
  split at member
  · cases member
  · dsimp only at member
    split at member
    · cases member
    next built =>
      rw [List.mem_singleton.mp member]
      obtain ⟨tagged, first, second⟩ := Option.bind_eq_some_iff.mp built
      obtain ⟨sameDest, sized⟩ := insertBytes_sized tagged _ _ _ second
      cases hostUniq with
      | none =>
          obtain rfl := Option.some.inj first
          exact ⟨rfl, sameDest, sized rfl⟩
      | some tag =>
          obtain ⟨dest, kept⟩ := insertBytes_sized _ tagged _ _ first
          exact ⟨rfl, sameDest.trans dest, sized (kept rfl)⟩

theorem pads_reaches (active free freeH : List Nat) (table : Table cfg s active free freeH) (a : Nat)
    (i : PPPoEInterface)
    (here : cfg.interfaces[a]? = some i) (packet : PPPoEPacket) (cut : packet.payload.length = packet.length)
    (few : cfg.interfaces.length ≤ maxInterfaces) (server : i.acOK = true) (unicast : notUnicast packet.hSource = false)
    (addressed : packet.hDest = i.mac) (c : Nat) (mac : Mac) (target : PPPoEInterface)
    (known : cfg.interfaces[c]? = some target)
    (client : target.clientOK = true) (other : c ≠ a)
    (echo : firstTag (readTags packet) tagRelaySessionId = some (relayTagFor c mac)) :
    (¬ Exhausted s packet → ∃ s' sent, relayHandlePADS cfg s a i packet = some (s', [sent]) ∧
      Reaches sent c mac packet.code (withoutFirst tagRelaySessionId (readTags packet))) ∧
    (Exhausted s packet → ∃ out, relayHandlePADS cfg s a i packet = some (s, out) ∧ ∀ sent ∈ out,
    Refused sent c mac a packet) := by
  obtain ⟨loc, there, led⟩ := relayTag_echo cfg a packet (·.clientOK) c mac target few known client other echo
  have fits : (relayTagFor c mac).payload.length = myRelayTagLen := by simp [relayTagFor, intBytes, myRelayTagLen]
  have tagged : padsTag cfg a i packet = some ⟨loc, c, target, mac⟩ := by
    unfold padsTag
    rw [if_neg (by simp [server]), if_neg (by simp [unicast]), if_neg (not_not_intro addressed), led]
  have reaches (session : UInt16) : Reaches (relayPADS packet ⟨loc, c, target, mac⟩ session) c mac packet.code
      (withoutFirst tagRelaySessionId (readTags packet)) := by
    obtain ⟨whole, tags⟩ := relayPADS_tags packet cut ⟨loc, c, target, mac⟩ session (relayTagFor c mac) there fits
    refine ⟨rfl, rfl, rfl, ?_, whole, tags⟩
    unfold relayPADS removeBytes
    split <;> rfl
  rcases relayHandlePADS_cases cfg s active free freeH table a i packet _ tagged with
    ⟨zero, done⟩ | ⟨_, p, ses, found, _, done⟩ | ⟨nonzero, absent, done⟩
  · exact ⟨fun _ => ⟨s, _, done, reaches _⟩, fun full => absurd zero full.1⟩
  · exact ⟨fun _ => ⟨s, _, done, reaches _⟩, fun full => absurd (found.symm.trans full.2.1) (by simp)⟩
  · by_cases room : s.numSessions < s.maxSessions
    · obtain ⟨sess, _, _, _, _, s', _, created, _⟩ :=
        createSession_table cfg s active free freeH table room a c packet.hSource mac packet.session ⟨i, here⟩
          ⟨target, known⟩
      rw [created] at done
      exact ⟨fun _ => ⟨s', _, done, reaches _⟩, fun full => absurd room (Nat.not_lt.mpr full.2.2)⟩
    · refine ⟨fun notFull => absurd ⟨nonzero, absent, Nat.not_lt.mp room⟩ notFull, fun _ => ?_⟩
      rw [createSession_full s _ _ _ _ _ (Nat.not_lt.mp room)] at done
      refine ⟨_, done, ?_⟩
      intro sent member
      rcases List.mem_append.mp member with errorPads | errorPadt
      · obtain ⟨code, session⟩ := relaySendError_header cfg _ _ _ _ _ _ sent errorPads
        obtain ⟨iface, dest, _⟩ := relaySendError_to cfg _ _ _ _ _ _ sent errorPads
        exact .inl ⟨iface, dest, code, session⟩
      · obtain ⟨code, session⟩ := relaySendError_header cfg _ _ _ _ _ _ sent errorPadt
        obtain ⟨iface, dest, _⟩ := relaySendError_to cfg _ _ _ _ _ _ sent errorPadt
        exact .inr ⟨iface, dest, code, session⟩

theorem relayTag_found (iface : Nat) (packet : PPPoEPacket) (facing : PPPoEInterface → Bool) (tag : RelayTag)
    (led : relayTag cfg iface packet facing = some tag) :
    ∃ found, findTag packet tagRelaySessionId = some (tag.loc, found) ∧ found.payload.length = myRelayTagLen := by
  unfold relayTag at led
  split at led
  · cases led
  next loc found there =>
    split at led
    · cases led
    next size =>
      dsimp only at led
      split at led
      · cases led
      split at led
      · cases led
      split at led
      · cases led
      obtain rfl := Option.some.inj led
      exact ⟨found, there, not_not.mp size⟩

theorem across_sized (a : Nat) (packet : PPPoEPacket) (cut : packet.payload.length = packet.length)
    (facing : PPPoEInterface → Bool) (sent : Sent)
    (member : sent ∈ ((relayTag cfg a packet facing).map (relayAcross a packet)).toList) :
    sent.frame.payload.length = sent.frame.length := by
  obtain ⟨tag, led, rfl⟩ := Option.map_eq_some_iff.mp (Option.mem_toList.mp member)
  obtain ⟨found, there, size⟩ := relayTag_found cfg a packet facing tag led
  exact (relayAcross_tags packet cut a tag found there size).1

theorem pads_sized (a : Nat) (i : PPPoEInterface) (packet : PPPoEPacket) (cut : packet.payload.length = packet.length)
    (s' : RelayState) (out : List Sent) (ran : relayHandlePADS cfg s a i packet = some (s', out)) (sent : Sent)
    (member : sent ∈ out) :
    sent.frame.payload.length = sent.frame.length := by
  unfold relayHandlePADS at ran
  split at ran
  · cases ran
    cases member
  next tag tagged =>
    obtain ⟨found, there, size⟩ : ∃ found, findTag packet tagRelaySessionId = some (tag.loc, found) ∧
        found.payload.length = myRelayTagLen := by
      unfold padsTag at tagged
      split at tagged
      · cases tagged
      split at tagged
      · cases tagged
      split at tagged
      · cases tagged
      exact relayTag_found cfg a packet _ tag tagged
    have stripped (session : UInt16) := (relayPADS_tags packet cut tag session found there size).1
    split at ran
    · cases ran
      rw [List.mem_singleton.mp member]
      exact stripped _
    split at ran
    · cases ran
      rw [List.mem_singleton.mp member]
      exact stripped _
    obtain ⟨made, _, outcome⟩ := Option.map_eq_some_iff.mp ran
    obtain ⟨got, after⟩ := made
    cases got with
    | some ses =>
        obtain ⟨rfl, rfl⟩ := Prod.mk.inj outcome
        rw [List.mem_singleton.mp member]
        exact stripped _
    | none =>
        obtain ⟨rfl, rfl⟩ := Prod.mk.inj outcome
        rcases List.mem_append.mp member with errorPads | errorPadt
        · exact (relaySendError_to cfg _ _ _ _ _ _ sent errorPads).2.2
        · exact (relaySendError_to cfg _ _ _ _ _ _ sent errorPadt).2.2

theorem discovery_sized (a : Nat) (frame : PPPoEPacket) (s' : RelayState) (out : List Sent)
    (ran : step cfg s (.discovery a frame) = some (s', out)) (sent : Sent) (member : sent ∈ out) :
    sent.frame.payload.length = sent.frame.length := by
  obtain ⟨i, known, got⟩ := Option.bind_eq_some_iff.mp ran
  unfold relayGotDiscoveryPacket at got
  split at got
  · cases got
    cases member
  split at got
  · cases got
    cases member
  next packet checked =>
    have cut := (checkLength_cut frame packet checked).1
    split at got
    · unfold relayHandlePADT at got
      split at got
      · cases got
        cases member
      split at got
      · cases got
        cases member
      obtain ⟨_, _, got⟩ := Option.bind_eq_some_iff.mp got
      obtain ⟨_, _, got⟩ := Option.bind_eq_some_iff.mp got
      obtain ⟨_, _, got⟩ := Option.bind_eq_some_iff.mp got
      obtain ⟨_, _, got⟩ := Option.bind_eq_some_iff.mp got
      obtain ⟨_, _, outcome⟩ := Option.map_eq_some_iff.mp got
      obtain ⟨rfl, rfl⟩ := Prod.mk.inj outcome
      rw [List.mem_singleton.mp member]
      exact cut
    split at got
    · cases got
      obtain ⟨_, _, _, added, o, done, _, _, _, frame⟩ := relayHandlePADI_sent cfg a i packet sent member
      rw [frame]
      exact (insertBytes_sized packet added _ _ done).2 cut
    split at got
    · cases got
      unfold relayHandlePADO at member
      split at member
      · cases member
      split at member
      · cases member
      split at member
      · cases member
      exact across_sized cfg a packet cut _ sent member
    split at got
    · cases got
      unfold relayHandlePADR at member
      split at member
      · cases member
      split at member
      · cases member
      split at member
      · cases member
      exact across_sized cfg a packet cut _ sent member
    split at got
    · exact pads_sized cfg s a i packet cut s' out got sent member
    · cases got
      cases member

def towards (code : UInt8) (i : PPPoEInterface) : Bool := if code = codePADR then i.acOK else i.clientOK

theorem bad_tag_dropped (a : Nat) (i : PPPoEInterface) (known : cfg.interfaces[a]? = some i) (frame : PPPoEPacket)
    (coded : frame.code = codePADO ∨ frame.code = codePADR ∨ frame.code = codePADS)
    (bad : BadRelayTag cfg a (towards frame.code) (readTags frame)) : step cfg s (.discovery a frame) = some
    (s, []) := by
  by_cases version : versionOk frame = true
  · by_cases whole : frame.length ≤ frame.payload.length
    · obtain ⟨packet, _, _, _, _, _, _, _, tags, _, pado, padr, pads⟩ :=
        discovery_handled cfg s a i known frame version whole
      rw [← tags] at bad
      rcases coded with code | code | code
      · rw [pado code]
        rw [code] at bad
        unfold relayHandlePADO
        rw [relayTag_bad cfg a packet (·.clientOK) bad]
        simp
      · rw [padr code]
        rw [code] at bad
        unfold relayHandlePADR
        rw [relayTag_bad cfg a packet (·.acOK) bad]
        simp
      · rw [pads code]
        rw [code] at bad
        unfold relayHandlePADS padsTag
        rw [relayTag_bad cfg a packet (·.clientOK) bad]
        simp
    · show (cfg.interfaces[a]?.bind fun i => relayGotDiscoveryPacket cfg s a i frame) = _
      rw [known, Option.bind_some]
      unfold relayGotDiscoveryPacket
      have short : checkLength frame = none := if_pos (Nat.not_le.mp whole)
      rw [short]
      split <;> rfl
  · show (cfg.interfaces[a]?.bind fun i => relayGotDiscoveryPacket cfg s a i frame) = _
    rw [known, Option.bind_some]
    unfold relayGotDiscoveryPacket
    refine if_pos ?_
    unfold versionOk at version
    rw [Bool.and_eq_true, beq_iff_eq, beq_iff_eq] at version
    omega

end Stages

-- From the PADI on, whoever answers with the tag it was sent is heard by the one
-- that asked. The states are those of any other traffic in between; only the PADS
-- needs to know which sessions there are.
theorem relay_discovery_routing (cfg : Config) (few : cfg.interfaces.length ≤ maxInterfaces) :
    (∀ c padi, padi.code = codePADI → ∀ s₁ s₁' out, step cfg s₁ (.discovery c padi) = some (s₁', out) → ∀ asked ∈ out,
      ∀ acMac, notUnicast acMac = false → ∀ pado, Answers pado codePADO acMac asked.frame → ∀ s₂,
      ∃ offered, step cfg s₂ (.discovery asked.iface pado) = some (s₂, [offered]) ∧
        Reaches offered c padi.hSource codePADO
          (replaceFirst tagRelaySessionId (relayTagFor asked.iface acMac).payload (readTags pado)) ∧
        ∀ padr, Answers padr codePADR padi.hSource offered.frame → ∀ s₃,
        ∃ request, step cfg s₃ (.discovery c padr) = some (s₃, [request]) ∧
          Reaches request asked.iface acMac codePADR
            (replaceFirst tagRelaySessionId (relayTagFor c padi.hSource).payload (readTags padr)) ∧
          ∀ pads, Answers pads codePADS acMac request.frame → ∀ nsess, 1 ≤ nsess → nsess ≤ 65534 →
          ∀ visits s₄, Run (next cfg) (initRelay nsess) visits s₄ →
            (¬ Exhausted s₄ pads → ∃ s' confirmed, step cfg s₄ (.discovery asked.iface pads) = some (s', [confirmed]) ∧
              Reaches confirmed c padi.hSource codePADS (withoutFirst tagRelaySessionId (readTags pads))) ∧
            (Exhausted s₄ pads → ∃ out, step cfg s₄ (.discovery asked.iface pads) = some (s₄, out) ∧
              ∀ sent ∈ out, Refused sent c padi.hSource asked.iface pads)) ∧
    (∀ s iface i, cfg.interfaces[iface]? = some i → ∀ frame, frame.code = codePADO ∨ frame.code = codePADR ∨
    frame.code = codePADS →
      BadRelayTag cfg iface (towards frame.code) (readTags frame) →
        step cfg s (.discovery iface frame) = some (s, [])) ∧
    (∀ s iface frame s' out, step cfg s (.discovery iface frame) = some (s', out) →
      ∀ sent ∈ out, sent.frame.payload.length = sent.frame.length) := by
  refine ⟨?_, fun s iface i known frame coded bad => bad_tag_dropped cfg s iface i known frame coded bad,
    fun s iface frame s' out ran sent member => discovery_sized cfg s iface frame s' out ran sent member⟩
  intro c padi coded s₁ s₁' out ran asked member acMac unicast pado answered s₂
  obtain ⟨i, o, hasClient, hasAc, client, server, apart, clientUnicast, askedFrom, askedTags⟩ :=
    padi_asked cfg s₁ c padi coded s₁' out ran asked member
  -- The PADO, to the client
  obtain ⟨packet, _, cut, _, source, dest, _, code, tags, _, handled, _, _⟩ :=
    discovery_handled cfg s₂ asked.iface o hasAc pado answered.version answered.whole
  have echo : firstTag (readTags packet) tagRelaySessionId = some (relayTagFor c padi.hSource) := by
    rw [tags, answered.echo, askedTags]
    rfl
  obtain ⟨offered, sent, reaches, offeredFrom⟩ :=
    across_reaches cfg asked.iface packet cut (·.clientOK) few c padi.hSource i hasClient client apart.symm echo
  have notAll : broadcast packet.hSource = false := by
    rw [source, answered.from']
    exact broadcast_notUnicast acMac unicast
  rw [source, answered.from', code, answered.coded, tags] at reaches
  refine ⟨offered, ?_, reaches, ?_⟩
  · rw [handled answered.coded]
    unfold relayHandlePADO
    rw [if_neg (by simp [server]), if_neg (by simp [notAll]),
      if_neg (not_not_intro (dest.trans (answered.to'.trans askedFrom))), sent]
  -- The PADR, to the concentrator
  intro padr requested s₃
  obtain ⟨packet₃, _, cut₃, _, source₃, dest₃, _, code₃, tags₃, _, _, handled₃, _⟩ :=
    discovery_handled cfg s₃ c i hasClient padr requested.version requested.whole
  have echo₃ : firstTag (readTags packet₃) tagRelaySessionId = some (relayTagFor asked.iface acMac) := by
    rw [tags₃, requested.echo, reaches.tags]
    exact firstTag_replaceFirst _ _ _ _ (tags ▸ echo)
  obtain ⟨request, sent₃, reaches₃, requestFrom⟩ :=
    across_reaches cfg c packet₃ cut₃ (·.acOK) few asked.iface acMac o hasAc server apart echo₃
  rw [source₃, requested.from', code₃, requested.coded, tags₃] at reaches₃
  refine ⟨request, ?_, reaches₃, ?_⟩
  · rw [handled₃ requested.coded]
    unfold relayHandlePADR
    rw [if_neg (by simp [client]), if_neg (by rw [source₃, requested.from']; simp [clientUnicast]),
      if_neg (not_not_intro (dest₃.trans (requested.to'.trans offeredFrom))), sent₃]
  -- The PADS, to the client
  intro pads opened nsess positive bounded visits s₄ run
  obtain ⟨active, free, freeH, table⟩ := run_table cfg nsess positive bounded visits s₄ run
  obtain ⟨packet₄, _, cut₄, _, source₄, dest₄, session₄, code₄, tags₄, _, _, _, handled₄⟩ :=
    discovery_handled cfg s₄ asked.iface o hasAc pads opened.version opened.whole
  have echo₄ : firstTag (readTags packet₄) tagRelaySessionId = some (relayTagFor c padi.hSource) := by
    rw [tags₄, opened.echo, reaches₃.tags]
    exact firstTag_replaceFirst _ _ _ _ (tags₃ ▸ echo₃)
  have outcome := pads_reaches cfg s₄ active free freeH table asked.iface o hasAc packet₄ cut₄ few server
    (by rw [source₄, opened.from']; exact unicast) (dest₄.trans (opened.to'.trans requestFrom)) c padi.hSource i
    hasClient
    client apart.symm echo₄
  rw [handled₄ opened.coded]
  unfold Exhausted Refused at outcome ⊢
  rw [source₄, session₄, code₄, opened.coded, tags₄] at outcome
  exact outcome

def reply (code : UInt8) (source : Mac) (session : UInt16) (asked : PPPoEPacket) : PPPoEPacket :=
  { asked with hDest := asked.hSource, hSource := source, code := code, session := session }

theorem reply_answers (code : UInt8) (source : Mac) (session : UInt16) (asked : PPPoEPacket)
    (version : versionOk asked = true)
    (whole : asked.length ≤ asked.payload.length) : Answers (reply code source session asked) code source asked :=
  ⟨version, whole, rfl, rfl, rfl, rfl⟩

def askingMac : Mac := macAddr 6 0 0 0 2 1

def padiFrame : PPPoEPacket where
  hDest := Vector.replicate 6 0xff
  hSource := askingMac
  vertype := pppoeVerType
  code := codePADI
  session := 0
  length := 9
  payload := tagBytes ⟨tagServiceName, []⟩ ++ tagBytes ⟨tagHostUniq, [7]⟩

def askedFrame : PPPoEPacket where
  hDest := Vector.replicate 6 0xff
  hSource := macAddr 6 0 0 0 0 2
  vertype := pppoeVerType
  code := codePADI
  session := 0
  length := 23
  payload := tagBytes (relayTagFor 0 askingMac) ++ tagBytes ⟨tagServiceName, []⟩ ++ tagBytes ⟨tagHostUniq, [7]⟩

def padoFrame : PPPoEPacket := reply codePADO concentratorMac 0 askedFrame

def offeredFrame : PPPoEPacket :=
  { padoFrame with
    hDest := askingMac
    hSource := macAddr 6 0 0 0 0 1
    payload := tagBytes (relayTagFor 1 concentratorMac) ++ tagBytes ⟨tagServiceName, []⟩ ++ tagBytes
      ⟨tagHostUniq, [7]⟩ }

def padrFrame : PPPoEPacket := reply codePADR askingMac 0 offeredFrame

def requestFrame : PPPoEPacket :=
  { padrFrame with
    hDest := concentratorMac
    hSource := macAddr 6 0 0 0 0 2
    payload := tagBytes (relayTagFor 0 askingMac) ++ tagBytes ⟨tagServiceName, []⟩ ++ tagBytes ⟨tagHostUniq, [7]⟩ }

def confirmFrame : PPPoEPacket := reply codePADS concentratorMac 0x0700 requestFrame

theorem discovery_exchange (s : RelayState) :
    step clientAndAc s (.discovery 0 padiFrame) = some (s, [⟨1, .discovery, askedFrame⟩]) ∧
    step clientAndAc s (.discovery 1 padoFrame) = some (s, [⟨0, .discovery, offeredFrame⟩]) ∧
    step clientAndAc s (.discovery 0 padrFrame) = some (s, [⟨1, .discovery, requestFrame⟩]) := by
  have asked : relayHandlePADI clientAndAc 0 ⟨true, false, macAddr 6 0 0 0 0 1⟩
      { padiFrame with payload := padiFrame.payload.take padiFrame.length } = [⟨1, .discovery, askedFrame⟩] := by
    decide +kernel
  have offered : relayHandlePADO clientAndAc 1 ⟨false, true, macAddr 6 0 0 0 0 2⟩
      { padoFrame with payload := padoFrame.payload.take padoFrame.length } = [⟨0, .discovery, offeredFrame⟩] := by
    decide +kernel
  have requested : relayHandlePADR clientAndAc 0 ⟨true, false, macAddr 6 0 0 0 0 1⟩
      { padrFrame with payload := padrFrame.payload.take padrFrame.length } = [⟨1, .discovery, requestFrame⟩] := by
    decide +kernel
  refine ⟨?_, ?_, ?_⟩
  · obtain ⟨packet, checked, _, _, _, _, _, _, _, handled, _⟩ :=
      discovery_handled clientAndAc s 0 _ rfl padiFrame (by decide) (by decide)
    rw [handled rfl, ← Option.some.inj checked, asked]
  · obtain ⟨packet, checked, _, _, _, _, _, _, _, _, handled, _⟩ :=
      discovery_handled clientAndAc s 1 _ rfl padoFrame (by decide) (by decide)
    rw [handled rfl, ← Option.some.inj checked, offered]
  · obtain ⟨packet, checked, _, _, _, _, _, _, _, _, _, handled, _⟩ :=
      discovery_handled clientAndAc s 0 _ rfl padrFrame (by decide) (by decide)
    rw [handled rfl, ← Option.some.inj checked, requested]

theorem relay_discovery_routing_confirmed : ∃ s' confirmed,
    step clientAndAc (initRelay 4) (.discovery 1 confirmFrame) = some (s', [confirmed]) ∧
    Reaches confirmed 0 askingMac codePADS [⟨tagServiceName, []⟩, ⟨tagHostUniq, [7]⟩] ∧
    step clientAndAc (initRelay 4) (.discovery 1 { padoFrame with length := 0 }) = some (initRelay 4, []) := by
  obtain ⟨asks, offers, requests⟩ := discovery_exchange (initRelay 4)
  obtain ⟨routed, dropped, _⟩ := relay_discovery_routing clientAndAc (by decide)
  obtain ⟨offered, offers', _, later⟩ := routed 0 padiFrame rfl (initRelay 4) (initRelay 4) _ asks _
    (List.mem_singleton_self _)
    concentratorMac (by decide) padoFrame (reply_answers _ _ _ askedFrame (by decide) (by decide)) (initRelay 4)
  obtain rfl := List.singleton_inj.mp (Prod.mk.inj (Option.some.inj (offers.symm.trans offers'))).2
  obtain ⟨request, requests', _, last⟩ :=
    later padrFrame (reply_answers _ _ _ offeredFrame (by decide) (by decide)) (initRelay 4)
  obtain rfl := List.singleton_inj.mp (Prod.mk.inj (Option.some.inj (requests.symm.trans requests'))).2
  obtain ⟨reached, _⟩ := last confirmFrame (reply_answers _ _ _ requestFrame (by decide) (by decide)) 4 (by decide)
    (by decide)
    [] (initRelay 4) Run.start
  obtain ⟨s', confirmed, ran, reaches⟩ := reached fun full => absurd full.2.2 (by decide)
  have left : withoutFirst tagRelaySessionId (readTags confirmFrame) = [⟨tagServiceName, []⟩, ⟨tagHostUniq, [7]⟩] := by
    decide +kernel
  refine ⟨s', confirmed, ran, left ▸ reaches, ?_⟩
  have none' : firstTag (readTags { padoFrame with length := 0 }) tagRelaySessionId = none := by decide +kernel
  exact dropped (initRelay 4) 1 _ rfl _ (.inl rfl) (by unfold BadRelayTag; rw [none']; trivial)

-- One session in all, and another client has it: the PADS is answered, not relayed.
theorem relay_discovery_full : ∃ visits s out s', Run (next clientAndAc) (initRelay 1) visits s ∧
    step clientAndAc s (.discovery 0 padiFrame) = some (s, [⟨1, .discovery, askedFrame⟩]) ∧
    Answers padoFrame codePADO concentratorMac askedFrame ∧
    step clientAndAc s (.discovery 1 padoFrame) = some (s, [⟨0, .discovery, offeredFrame⟩]) ∧
    Answers padrFrame codePADR askingMac offeredFrame ∧
    step clientAndAc s (.discovery 0 padrFrame) = some (s, [⟨1, .discovery, requestFrame⟩]) ∧
    Answers confirmFrame codePADS concentratorMac requestFrame ∧
    step clientAndAc s (.discovery 1 confirmFrame) = some (s', out) ∧
    ∀ sent ∈ out, ¬ Reaches sent 0 askingMac codePADS (withoutFirst tagRelaySessionId (readTags confirmFrame)) := by
  have scene : (next clientAndAc (initRelay 1) (.discovery 1 (padsFor #v[6, 0, 0, 0, 2, 2] 0x0900))).any (fun s =>
      (step clientAndAc s (.discovery 1 confirmFrame)).any fun result => result.2.all fun sent =>
        readTags sent.frame != withoutFirst tagRelaySessionId (readTags confirmFrame)) = true := by
    decide +kernel
  obtain ⟨s, moved, second⟩ := (Option.any_eq_true _ _).mp scene
  obtain ⟨⟨s', out⟩, ran, others⟩ := (Option.any_eq_true _ _).mp second
  obtain ⟨asks, offers, requests⟩ := discovery_exchange s
  refine ⟨_, s, out, s', Run.start.snoc _ _ _ _ moved, asks, reply_answers _ _ _ askedFrame (by decide) (by decide),
    offers,
    reply_answers _ _ _ offeredFrame (by decide) (by decide), requests,
    reply_answers _ _ _ requestFrame (by decide) (by decide), ran, ?_⟩
  intro sent member reaches
  have apart := List.all_eq_true.mp others sent member
  rw [bne_iff_ne] at apart
  exact apart reaches.tags

end ZyAgf.Pppoe.Relay
