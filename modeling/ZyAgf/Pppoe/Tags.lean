import Mathlib.Data.List.GetD
import Mathlib.Data.List.Induction
import ZyAgf.Pppoe.Packet

set_option autoImplicit false

namespace ZyAgf.Pppoe

theorem byteAt_append (front back : List UInt8) (offset : Nat) :
    byteAt (front ++ back) (front.length + offset) = byteAt back offset := by
  unfold byteAt
  rw [List.getD_append_right _ _ _ _ (Nat.le_add_right _ _), Nat.add_sub_cancel_left]

theorem wordAt_append (front back : List UInt8) (offset : Nat) :
    wordAt (front ++ back) (front.length + offset) = wordAt back offset := by
  unfold wordAt
  rw [byteAt_append, Nat.add_assoc, byteAt_append]

theorem bytesAt_append (front back : List UInt8) (offset count : Nat) :
    bytesAt (front ++ back) (front.length + offset) count = bytesAt back offset count := by
  unfold bytesAt
  rw [List.drop_append, Nat.add_sub_cancel_left, List.drop_eq_nil_of_le (by omega), List.nil_append]

def Encodable (tag : PPPoETag) : Prop := tag.type < 2 ^ 16 ∧ tag.payload.length < 2 ^ 16

theorem tagBytes_length (tag : PPPoETag) : (tagBytes tag).length = tag.payload.length + tagHdrSize := by
  simp [tagBytes, tagHdrSize]

theorem tagBytes_type (tag : PPPoETag) (rest : List UInt8) (fits : Encodable tag) :
    wordAt (tagBytes tag ++ rest) 0 = tag.type := by
  have bound := fits.1
  simp [wordAt, byteAt, tagBytes]
  omega

theorem tagBytes_size (tag : PPPoETag) (rest : List UInt8) (fits : Encodable tag) :
    wordAt (tagBytes tag ++ rest) 2 = tag.payload.length := by
  have bound := fits.2
  simp [wordAt, byteAt, tagBytes]
  omega

theorem tagBytes_payload (tag : PPPoETag) (rest : List UInt8) :
    bytesAt (tagBytes tag ++ rest) tagHdrSize tag.payload.length = tag.payload := by
  simp [bytesAt, tagBytes, tagHdrSize]

theorem tagBytes_member (tags : List PPPoETag) (tag : PPPoETag) (member : tag ∈ tags) :
    (tagBytes tag).length ≤ (tags.flatMap tagBytes).length := by
  induction tags with
  | nil => cases member
  | cons first rest ih =>
      rw [List.flatMap_cons, List.length_append]
      rcases List.mem_cons.mp member with rfl | later
      · omega
      · have bound := ih later
        omega

theorem tagBytes_count (tags : List PPPoETag) : tags.length ≤ (tags.flatMap tagBytes).length := by
  induction tags with
  | nil => exact Nat.le_refl _
  | cons first rest ih =>
      rw [List.flatMap_cons, List.length_append, List.length_cons, tagBytes_length, tagHdrSize]
      omega

theorem tagsFrom_tag (front back : List UInt8) (tag : PPPoETag) (len fuel : Nat) (encodable : Encodable tag)
    (notEnd : tag.type ≠ tagEndOfList) (inside : front.length + (tagBytes tag).length ≤ len) :
    tagsFrom (front ++ (tagBytes tag ++ back)) len (fuel + 1) front.length =
      ((front.length, tag) :: (tagsFrom (front ++ tagBytes tag ++ back) len fuel
        (front.length + (tagBytes tag).length)).1,
        (tagsFrom (front ++ tagBytes tag ++ back) len fuel (front.length + (tagBytes tag).length)).2) := by
  have size := tagBytes_length tag
  have atType : wordAt (front ++ (tagBytes tag ++ back)) front.length = tag.type := by
    rw [← Nat.add_zero front.length, wordAt_append, tagBytes_type tag _ encodable]
  have atSize : wordAt (front ++ (tagBytes tag ++ back)) (front.length + 2) = tag.payload.length := by
    rw [wordAt_append, tagBytes_size tag _ encodable]
  have atPayload : bytesAt (front ++ (tagBytes tag ++ back))
    (front.length + tagHdrSize) tag.payload.length = tag.payload := by
    rw [bytesAt_append, tagBytes_payload]
  have behind : front.length + tagHdrSize + tag.payload.length = front.length + (tagBytes tag).length := by
    rw [size]
    omega
  rw [tagsFrom]
  simp only [atType, atSize, atPayload, if_neg notEnd, behind]
  rw [if_pos (by omega), if_neg (by omega), List.append_assoc]

theorem tagsFrom_encoded (tags : List PPPoETag) (front : List UInt8) (fuel : Nat) (enough : tags.length ≤ fuel)
    (fits : ∀ tag ∈ tags, Encodable tag ∧ tag.type ≠ tagEndOfList) :
    (tagsFrom (front ++ tags.flatMap tagBytes) (front.length + (tags.flatMap tagBytes).length) fuel front.length).1.map
    Prod.snd =
      tags := by
  induction tags generalizing front fuel with
  | nil =>
      cases fuel with
      | zero => rfl
      | succ fuel =>
          unfold tagsFrom
          rw [if_neg (by simp [tagHdrSize])]
          rfl
  | cons tag tags ih =>
      cases fuel with
      | zero => simp at enough
      | succ fuel =>
          obtain ⟨⟨encodable, notEnd⟩, fitsLater⟩ := List.forall_mem_cons.mp fits
          have onward := ih (front ++ tagBytes tag) fuel (by simpa using enough) fitsLater
          rw [List.length_append, Nat.add_assoc, ← List.length_append] at onward
          rw [List.flatMap_cons, tagsFrom_tag front _ tag _ fuel encodable notEnd (by rw [List.length_append]; omega),
            List.map_cons,
            onward]

theorem tagsFrom_encoded_ends (tags : List PPPoETag) (front : List UInt8) (fuel : Nat) (enough : tags.length ≤ fuel)
    (fits : ∀ tag ∈ tags, Encodable tag ∧ tag.type ≠ tagEndOfList) :
    (tagsFrom (front ++ tags.flatMap tagBytes) (front.length + (tags.flatMap tagBytes).length) fuel front.length).2 =
    true := by
  induction tags generalizing front fuel with
  | nil =>
      cases fuel with
      | zero => rfl
      | succ fuel =>
          unfold tagsFrom
          rw [if_neg (by simp [tagHdrSize])]
  | cons tag tags ih =>
      cases fuel with
      | zero => simp at enough
      | succ fuel =>
          obtain ⟨⟨encodable, notEnd⟩, fitsLater⟩ := List.forall_mem_cons.mp fits
          have onward := ih (front ++ tagBytes tag) fuel (by simpa using enough) fitsLater
          rw [List.length_append, Nat.add_assoc, ← List.length_append] at onward
          rw [List.flatMap_cons, tagsFrom_tag front _ tag _ fuel encodable notEnd (by rw [List.length_append]; omega)]
          exact onward

-- The longest well-formed part of a tag list: it ends where no header fits, at an
-- end-of-list tag, or before a tag that overruns the length.
inductive TagPrefix (payload : List UInt8) (len : Nat) : Nat → List PPPoETag → Prop where
  | short (curTag : Nat) (room : len < curTag + tagHdrSize) : TagPrefix payload len curTag []
  | ended (curTag : Nat) (last : wordAt payload curTag = tagEndOfList) : TagPrefix payload len curTag []
  | overrun (curTag : Nat) (past : len < curTag + tagHdrSize + wordAt payload (curTag + 2)) : TagPrefix payload len
    curTag []
  | tag (curTag : Nat) (rest : List PPPoETag) (fits : curTag + tagHdrSize + wordAt payload (curTag + 2) ≤ len)
      (going : wordAt payload curTag ≠ tagEndOfList)
      (later : TagPrefix payload len (curTag + tagHdrSize + wordAt payload (curTag + 2)) rest) :
      TagPrefix payload len curTag
        (⟨wordAt payload curTag, bytesAt payload (curTag + tagHdrSize) (wordAt payload (curTag + 2))⟩ :: rest)

theorem tagsFrom_prefix (payload : List UInt8) (len fuel curTag : Nat) (enough : len < curTag + tagHdrSize + fuel) :
    TagPrefix payload len curTag ((tagsFrom payload len fuel curTag).1.map Prod.snd) := by
  induction fuel generalizing curTag with
  | zero => exact .short curTag enough
  | succ fuel ih =>
      unfold tagsFrom
      split
      next room =>
        dsimp only
        split
        next last => exact .ended curTag last
        next going =>
          split
          next past => exact .overrun curTag (by omega)
          next fits => exact .tag curTag _ (by omega) going (ih _ (by unfold tagHdrSize at enough ⊢; omega))
      next room => exact .short curTag (by omega)

theorem tagPrefix_unique (payload : List UInt8) (len curTag : Nat) (tags others : List PPPoETag)
    (first : TagPrefix payload len curTag tags) (second : TagPrefix payload len curTag others) : tags = others := by
  induction first generalizing others with
  | short curTag room =>
      cases second with
      | tag _ _ fits => omega
      | _ => rfl
  | ended curTag last =>
      cases second with
      | tag _ _ _ going => exact absurd last going
      | _ => rfl
  | overrun curTag past =>
      cases second with
      | tag _ _ fits => omega
      | _ => rfl
  | tag curTag rest fits going later ih =>
      cases second with
      | short _ room => omega
      | ended _ last => exact absurd last going
      | overrun _ past => omega
      | tag _ rest' _ _ later' => rw [ih rest' later']

def readTags (packet : PPPoEPacket) : List PPPoETag := (parsePacket packet).1.map (·.2)

-- A packet of another version or type, or longer than a payload, has no part that
-- is well formed.
def WellFormedPrefix (packet : PPPoEPacket) (tags : List PPPoETag) : Prop :=
  if tagsReadable packet then TagPrefix packet.payload packet.length 0 tags else tags = []

theorem readTags_wellFormed (packet : PPPoEPacket) (tags : List PPPoETag) : WellFormedPrefix packet tags ↔
    tags = readTags packet := by
  unfold WellFormedPrefix readTags parsePacket
  split
  · have walked := tagsFrom_prefix packet.payload packet.length packet.length 0 (by unfold tagHdrSize; omega)
    exact ⟨fun formed => tagPrefix_unique _ _ _ _ _ formed walked, fun same => same ▸ walked⟩
  · exact Iff.rfl

def lastTag (tags : List PPPoETag) (type : Nat) : Option PPPoETag := tags.reverse.find? (·.type == type)

theorem lastTag_snoc (tags : List PPPoETag) (tag : PPPoETag) (type : Nat) :
    lastTag (tags ++ [tag]) type = if tag.type = type then some tag else lastTag tags type := by
  unfold lastTag
  rw [List.reverse_append, List.reverse_singleton, List.singleton_append, List.find?_cons]
  by_cases same : tag.type = type
  · rw [if_pos same, beq_iff_eq.mpr same]
  · rw [if_neg same, beq_eq_false_iff_ne.mpr same]

theorem foldl_lastTag {State : Type} (read : State → PPPoETag → State) (field : State → Option PPPoETag) (type : Nat)
    (overwrites : ∀ state tag, field (read state tag) = if tag.type = type then some tag else field state)
    (tags : List PPPoETag) (state : State) : field (tags.foldl read state) = (lastTag tags type).or (field state) := by
  induction tags using List.reverseRecOn with
  | nil => rfl
  | append_singleton tags tag ih =>
      rw [List.foldl_append, List.foldl_cons, List.foldl_nil, lastTag_snoc, overwrites, ih]
      split <;> rfl

end ZyAgf.Pppoe
