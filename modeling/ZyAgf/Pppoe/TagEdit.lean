import ZyAgf.Pppoe.Tags

set_option autoImplicit false

namespace ZyAgf.Pppoe

def Proper (tag : PPPoETag) : Prop := Encodable tag ∧ tag.type ≠ tagEndOfList

theorem wordAt_size (front back : List UInt8) (offset : Nat) :
    wordAt (front ++ back) (front.length + offset + 2) = wordAt back (offset + 2) := by
  rw [Nat.add_assoc, wordAt_append]

theorem tagPrefix_shift (front payload : List UInt8) (len curTag : Nat) (tags : List PPPoETag)
    (walked : TagPrefix payload len curTag tags) : TagPrefix (front ++ payload) (front.length + len)
    (front.length + curTag) tags := by
  induction walked with
  | short curTag room => exact .short _ (by omega)
  | ended curTag last => exact .ended _ (by rw [wordAt_append]; exact last)
  | overrun curTag past => exact .overrun _ (by rw [wordAt_size]; omega)
  | tag curTag rest fits going later ih =>
      have atSize := wordAt_size front payload curTag
      have atPayload (count : Nat) : bytesAt (front ++ payload) (front.length + curTag + tagHdrSize) count =
          bytesAt payload (curTag + tagHdrSize) count := by
        rw [Nat.add_assoc, bytesAt_append]
      have here := @TagPrefix.tag (front ++ payload) (front.length + len) (front.length + curTag) rest
        (by rw [atSize]; omega) (by rw [wordAt_append]; exact going)
          (by rw [atSize]; simpa only [Nat.add_assoc] using ih)
      rw [wordAt_append, atSize, atPayload] at here
      exact here

theorem tagPrefix_unshift (front payload : List UInt8) (len curTag : Nat)
    (walked : TagPrefix (front ++ payload) (front.length + len) (front.length + curTag) []) : TagPrefix payload len
    curTag [] := by
  cases walked with
  | short _ room => exact .short _ (by omega)
  | ended _ last => exact .ended _ (by rw [wordAt_append] at last; exact last)
  | overrun _ past => exact .overrun _ (by rw [wordAt_size] at past; omega)

theorem tagPrefix_compose (tags others : List PPPoETag) (rest : List UInt8) (len : Nat)
    (proper : ∀ tag ∈ tags, Proper tag)
    (walked : TagPrefix rest len 0 others) :
    TagPrefix (tags.flatMap tagBytes ++ rest) ((tags.flatMap tagBytes).length + len) 0 (tags ++ others) := by
  induction tags with
  | nil => simpa using walked
  | cons tag tags ih =>
      obtain ⟨⟨encodable, notEnd⟩, later⟩ := List.forall_mem_cons.mp proper
      have onward := tagPrefix_shift (tagBytes tag) _ _ 0 _ (ih later)
      have size := tagBytes_length tag
      have atType := tagBytes_type tag (tags.flatMap tagBytes ++ rest) encodable
      have atSize := tagBytes_size tag (tags.flatMap tagBytes ++ rest) encodable
      have atPayload := tagBytes_payload tag (tags.flatMap tagBytes ++ rest)
      rw [List.flatMap_cons, List.append_assoc, List.length_append, Nat.add_assoc]
      have here := @TagPrefix.tag (tagBytes tag ++ (tags.flatMap tagBytes ++ rest))
        ((tagBytes tag).length + ((tags.flatMap tagBytes).length + len)) 0 (tags ++ others)
        (by rw [Nat.zero_add, atSize]; omega) (by rw [atType]; exact notEnd)
        (by rw [Nat.zero_add, Nat.zero_add, atSize, Nat.add_comm tagHdrSize, ← size]; exact onward)
      rw [atType, Nat.zero_add, Nat.zero_add, atSize, atPayload] at here
      exact here

theorem wordAt_drop (payload : List UInt8) (curTag offset : Nat) :
    wordAt payload (curTag + offset) = wordAt (payload.drop curTag) offset := by
  simp [wordAt, byteAt, List.getD_eq_getElem?_getD, List.getElem?_drop, Nat.add_assoc]

theorem word_bytes (high low : UInt8) : UInt8.ofNat ((high.toNat * 256 + low.toNat) / 256) = high ∧
    UInt8.ofNat (high.toNat * 256 + low.toNat) = low := by
  have first := high.toNat_lt
  have second := low.toNat_lt
  constructor
  · rw [show (high.toNat * 256 + low.toNat) / 256 = high.toNat by omega, UInt8.ofNat_toNat]
  · apply UInt8.toNat_inj.mp
    rw [UInt8.toNat_ofNat']
    omega

theorem tagBytes_read (payload : List UInt8) (curTag : Nat)
    (fits : curTag + tagHdrSize + wordAt payload (curTag + 2) ≤ payload.length) :
    payload.drop curTag =
      tagBytes ⟨wordAt payload curTag, bytesAt payload (curTag + tagHdrSize) (wordAt payload (curTag + 2))⟩ ++
        payload.drop (curTag + tagHdrSize + wordAt payload (curTag + 2)) ∧
    Encodable ⟨wordAt payload curTag, bytesAt payload (curTag + tagHdrSize) (wordAt payload (curTag + 2))⟩ ∧
    (bytesAt payload (curTag + tagHdrSize) (wordAt payload (curTag + 2))).length = wordAt payload (curTag + 2) := by
  have size : (bytesAt payload (curTag + tagHdrSize) (wordAt payload (curTag + 2))).length = wordAt payload
    (curTag + 2) := by
    unfold bytesAt
    rw [List.length_take, List.length_drop]
    omega
  have small (offset : Nat) : wordAt payload offset < 2 ^ 16 := by
    unfold wordAt byteAt
    have first := (payload.getD offset 0).toNat_lt
    have second := (payload.getD (offset + 1) 0).toNat_lt
    omega
  refine ⟨?_, ⟨small curTag, by rw [size]; exact small (curTag + 2)⟩, size⟩
  obtain ⟨a, b, c, d, tail, split⟩ : ∃ a b c d tail, payload.drop curTag = a :: b :: c :: d :: tail := by
    have long : 4 ≤ (payload.drop curTag).length := by
      rw [List.length_drop]
      unfold tagHdrSize at fits
      omega
    match drop : payload.drop curTag, long with
    | a :: b :: c :: d :: tail, _ => exact ⟨a, b, c, d, tail, rfl⟩
  have type : wordAt payload curTag = a.toNat * 256 + b.toNat := by
    rw [← Nat.add_zero curTag, wordAt_drop, split]
    rfl
  have count : wordAt payload (curTag + 2) = c.toNat * 256 + d.toNat := by
    rw [wordAt_drop, split]
    rfl
  have behind (n : Nat) : payload.drop (curTag + tagHdrSize + n) = tail.drop n := by
    rw [Nat.add_assoc, ← List.drop_drop, split]
    unfold tagHdrSize
    rw [Nat.add_comm 4 n]
    rfl
  unfold tagBytes
  dsimp only
  rw [size, type, count, (word_bytes a b).1, (word_bytes a b).2, (word_bytes c d).1, (word_bytes c d).2, behind, split]
  unfold bytesAt
  rw [← Nat.add_zero (curTag + tagHdrSize), behind, List.drop_zero]
  simp

theorem tagPrefix_decompose (payload : List UInt8) (len curTag : Nat) (tags : List PPPoETag)
    (received : len ≤ payload.length)
    (inside : curTag ≤ len) (walked : TagPrefix payload len curTag tags) :
    ∃ rest, payload.drop curTag = tags.flatMap tagBytes ++ rest ∧ (∀ tag ∈ tags, Proper tag) ∧
      curTag + (tags.flatMap tagBytes).length ≤ len ∧
      TagPrefix rest (len - (curTag + (tags.flatMap tagBytes).length)) 0 [] := by
  have ends (cur : Nat) (bound : cur ≤ len) (last : TagPrefix payload len cur []) :
      ∃ rest, payload.drop cur = [].flatMap tagBytes ++ rest ∧ (∀ tag ∈ ([] : List PPPoETag), Proper tag) ∧
        cur + (([] : List PPPoETag).flatMap tagBytes).length ≤ len ∧
        TagPrefix rest (len - (cur + (([] : List PPPoETag).flatMap tagBytes).length)) 0 [] := by
    refine ⟨payload.drop cur, rfl, by simp, by simpa using bound, ?_⟩
    have size : (payload.take cur).length = cur := by
      rw [List.length_take]
      omega
    apply tagPrefix_unshift (payload.take cur)
    rw [List.take_append_drop, size]
    simpa [Nat.add_sub_cancel' bound] using last
  induction walked with
  | short curTag room => exact ends curTag inside (.short curTag room)
  | ended curTag last => exact ends curTag inside (.ended curTag last)
  | overrun curTag past => exact ends curTag inside (.overrun curTag past)
  | tag curTag rest fits going later ih =>
      obtain ⟨bytes, encodable, size⟩ := tagBytes_read payload curTag (Nat.le_trans fits received)
      obtain ⟨behind, onward, proper, bound, last⟩ := ih fits
      refine ⟨behind, ?_, ?_, ?_, ?_⟩
      · rw [bytes, onward, List.flatMap_cons, List.append_assoc]
      · exact List.forall_mem_cons.mpr ⟨⟨encodable, going⟩, proper⟩
      · rw [List.flatMap_cons, List.length_append, tagBytes_length, size]
        omega
      · rw [List.flatMap_cons, List.length_append, tagBytes_length, size]
        convert last using 1
        omega

theorem tagPrefix_cut (payload : List UInt8) (len : Nat) (walked : TagPrefix payload len 0 []) : TagPrefix
    (payload.take len) len 0 [] := by
  by_cases room : len < tagHdrSize
  · exact .short 0 (by omega)
  have word (offset : Nat) (inside : offset + 1 < len) : wordAt (payload.take len) offset = wordAt payload offset := by
    simp [wordAt, byteAt, List.getD_eq_getElem?_getD, inside, Nat.lt_of_succ_lt inside]
  unfold tagHdrSize at room
  cases walked with
  | short _ short => exact .short 0 short
  | ended _ last => exact .ended 0 (by rw [word 0 (by omega)]; exact last)
  | overrun _ past => exact .overrun 0 (by rw [word _ (by omega)]; exact past)

-- A payload with nothing behind its length, taken apart.
structure Laid (payload : List UInt8) (tags : List PPPoETag) (rest : List UInt8) : Prop where
  bytes : payload = tags.flatMap tagBytes ++ rest
  proper : ∀ tag ∈ tags, Proper tag
  stops : TagPrefix rest rest.length 0 []

theorem laid_length (payload : List UInt8) (tags : List PPPoETag) (rest : List UInt8) (laid : Laid payload tags rest) :
    payload.length = (tags.flatMap tagBytes).length + rest.length := by
  rw [laid.bytes, List.length_append]

theorem laid_of_read (packet : PPPoEPacket) (readable : tagsReadable packet = true)
    (cut : packet.payload.length = packet.length) : ∃ rest, Laid packet.payload (readTags packet) rest := by
  have walked := (readTags_wellFormed packet (readTags packet)).mpr rfl
  unfold WellFormedPrefix at walked
  rw [if_pos readable] at walked
  obtain ⟨rest, bytes, proper, inside, stops⟩ :=
    tagPrefix_decompose packet.payload packet.length 0 _ (Nat.le_of_eq cut.symm) (Nat.zero_le _) walked
  rw [List.drop_zero] at bytes
  refine ⟨rest, bytes, proper, ?_⟩
  have size := congrArg List.length bytes
  rw [List.length_append] at size
  convert stops using 1
  omega

theorem readTags_of_laid (packet : PPPoEPacket) (readable : tagsReadable packet = true)
    (cut : packet.payload.length = packet.length) (tags : List PPPoETag) (rest : List UInt8)
    (laid : Laid packet.payload tags rest) : readTags packet = tags := by
  refine ((readTags_wellFormed packet tags).mp ?_).symm
  unfold WellFormedPrefix
  rw [if_pos readable, ← cut, laid_length packet.payload tags rest laid, laid.bytes]
  simpa using tagPrefix_compose tags [] rest rest.length laid.proper laid.stops

theorem laid_insert (payload : List UInt8) (tags : List PPPoETag) (rest : List UInt8) (laid : Laid payload tags rest)
    (tag : PPPoETag) (proper : Proper tag) : Laid (tagBytes tag ++ payload) (tag :: tags) rest where
  bytes := by rw [laid.bytes, List.flatMap_cons, List.append_assoc]
  proper := List.forall_mem_cons.mpr ⟨proper, laid.proper⟩
  stops := laid.stops

theorem laid_replace (payload : List UInt8) (before after : List PPPoETag) (tag : PPPoETag) (rest : List UInt8)
    (laid : Laid payload (before ++ tag :: after) rest) (data : List UInt8) (same : data.length = tag.payload.length) :
    Laid (payload.take ((before.flatMap tagBytes).length + tagHdrSize) ++ data ++
      payload.drop ((before.flatMap tagBytes).length + tagHdrSize + data.length))
        (before ++ ⟨tag.type, data⟩ :: after) rest := by
  have bytes : payload = before.flatMap tagBytes ++ (tagBytes tag ++ (after.flatMap tagBytes ++ rest)) := by
    rw [laid.bytes]
    simp
  have front : payload.take ((before.flatMap tagBytes).length + tagHdrSize) = before.flatMap tagBytes ++
    (tagBytes tag).take tagHdrSize := by
    rw [bytes, List.take_length_add_append, List.take_append_of_le_length (by rw [tagBytes_length]; omega)]
  have back : payload.drop ((before.flatMap tagBytes).length + tagHdrSize + data.length) = after.flatMap tagBytes ++
    rest := by
    rw [bytes, Nat.add_assoc, List.drop_length_add_append, same, Nat.add_comm tagHdrSize, ← tagBytes_length,
      List.drop_left]
  refine ⟨?_, ?_, laid.stops⟩
  · rw [front, back]
    simp [tagBytes, tagHdrSize, same]
  · intro other member
    rcases List.mem_append.mp member with early | late
    · exact laid.proper other (List.mem_append_left _ early)
    · rcases List.mem_cons.mp late with rfl | later
      · obtain ⟨⟨small, _⟩, notEnd⟩ := laid.proper tag (List.mem_append_right _ List.mem_cons_self)
        obtain ⟨⟨_, short⟩, _⟩ := laid.proper tag (List.mem_append_right _ List.mem_cons_self)
        exact ⟨⟨small, same ▸ short⟩, notEnd⟩
      · exact laid.proper other (List.mem_append_right _ (List.mem_cons_of_mem _ later))

theorem laid_remove (payload : List UInt8) (before after : List PPPoETag) (tag : PPPoETag) (rest : List UInt8)
    (laid : Laid payload (before ++ tag :: after) rest) :
    Laid (payload.take (before.flatMap tagBytes).length ++
      payload.drop ((before.flatMap tagBytes).length + (tagBytes tag).length)) (before ++ after) rest := by
  have bytes : payload = before.flatMap tagBytes ++ (tagBytes tag ++ (after.flatMap tagBytes ++ rest)) := by
    rw [laid.bytes]
    simp
  refine ⟨?_, ?_, laid.stops⟩
  · rw [bytes, List.take_left, List.drop_length_add_append, List.drop_left]
    simp
  · intro other member
    rcases List.mem_append.mp member with early | late
    · exact laid.proper other (List.mem_append_left _ early)
    · exact laid.proper other (List.mem_append_right _ (List.mem_cons_of_mem _ late))

theorem tagsFrom_position (payload : List UInt8) (len fuel curTag : Nat) (received : len ≤ payload.length)
    (before after : List (Nat × PPPoETag)) (loc : Nat) (tag : PPPoETag)
    (split : (tagsFrom payload len fuel curTag).1 = before ++ (loc, tag) :: after) :
    loc = curTag + ((before.map Prod.snd).flatMap tagBytes).length := by
  induction fuel generalizing curTag before with
  | zero => simp [tagsFrom] at split
  | succ fuel ih =>
      unfold tagsFrom at split
      split at split
      next room =>
        dsimp only at split
        split at split
        next => simp at split
        split at split
        next => simp at split
        next fits =>
          obtain ⟨_, _, size⟩ := tagBytes_read payload curTag (by omega)
          cases before with
          | nil =>
              obtain ⟨here, _⟩ := List.cons.inj split
              exact (Prod.mk.inj here).1.symm
          | cons visit before =>
              obtain ⟨rfl, later⟩ := List.cons.inj split
              rw [ih _ before later, List.map_cons, List.flatMap_cons, List.length_append, tagBytes_length, size]
              omega
      next => simp at split

theorem findTag_split (packet : PPPoEPacket) (received : packet.length ≤ packet.payload.length) (type loc : Nat)
    (tag : PPPoETag)
    (found : findTag packet type = some (loc, tag)) : ∃ before after, readTags packet = before ++ tag :: after ∧
      tag.type = type ∧ (∀ other ∈ before, other.type ≠ type) ∧ loc = (before.flatMap tagBytes).length := by
  rw [findTag_eq_find, List.find?_eq_some_iff_append] at found
  obtain ⟨typed, before, after, split, others⟩ := found
  refine ⟨before.map Prod.snd, after.map Prod.snd, ?_, by simpa using typed, ?_, ?_⟩
  · unfold readTags
    rw [split, List.map_append, List.map_cons]
  · intro other member
    obtain ⟨visit, inside, rfl⟩ := List.mem_map.mp member
    simpa using others visit inside
  · unfold parsePacket at split
    split at split
    · have position := tagsFrom_position packet.payload packet.length packet.length 0 received before after loc tag
        split
      rwa [Nat.zero_add] at position
    · simp at split

def firstTag (tags : List PPPoETag) (type : Nat) : Option PPPoETag := tags.find? (·.type == type)

theorem findTag_first (packet : PPPoEPacket) (type : Nat) : (findTag packet type).map (·.2) = firstTag
    (readTags packet) type := by
  rw [findTag_eq_find]
  unfold firstTag readTags
  rw [List.find?_map]
  rfl

end ZyAgf.Pppoe
