import ZyAgf.Pppoe.RelayRouting
import ZyAgf.Pppoe.TagWalk

set_option autoImplicit false

namespace ZyAgf.Pppoe.InPlace

-- The moves inside the payload array. There is no result where one of them would
-- leave it.
def memmove (array : List UInt8) (dest src n : Nat) : Option (List UInt8) :=
  if dest + n ≤ array.length ∧ src + n ≤ array.length then
    some (array.take dest ++ (array.drop src).take n ++ array.drop (dest + n))
  else none

def memcpy (array : List UInt8) (dest : Nat) (bytes : List UInt8) : Option (List UInt8) :=
  if dest + bytes.length ≤ array.length then some (array.take dest ++ bytes ++ array.drop (dest + bytes.length))
    else none

-- The packet as it lies in memory, with an array that is longer than its length
-- says. Places are counted from the start of the payload.
def insertBytes (packet : PPPoEPacket) (loc : Int) (bytes : List UInt8) : Option (PPPoEPacket × Int) :=
  let len : Int := bytes.length
  let plen : Int := packet.length
  if loc < 0 ∨ loc > plen ∨ len + plen > maxPppoePayload then some (packet, -1)
  else
    let toMove := plen - loc
    ((memmove packet.payload (loc + len).toNat loc.toNat toMove.toNat).bind fun moved =>
    memcpy moved loc.toNat bytes).map fun filled =>
    ({ packet with length := (plen + len).toNat, payload := filled }, len)

def removeBytes (packet : PPPoEPacket) (loc len : Int) : Option (PPPoEPacket × Int) :=
  let plen : Int := packet.length
  if len < 0 ∨ len > plen ∨ loc < 0 ∨ loc + len > plen then some (packet, -1)
  else
    let toMove := plen - loc - len
    (memmove packet.payload loc.toNat (loc + len).toNat toMove.toNat).map fun moved =>
    ({ packet with length := (plen - len).toNat, payload := moved }, len)

def addTag (packet : PPPoEPacket) (tag : PPPoETag) : Option (PPPoEPacket × Int) := insertBytes packet 0 (tagBytes tag)

-- The packet without what its array holds behind the length. This is all of it
-- that is sent or parsed.
def cut (packet : PPPoEPacket) : PPPoEPacket := { packet with payload := packet.payload.take packet.length }

theorem readTags_cut (packet : PPPoEPacket) (array : packet.length ≤ packet.payload.length) : readTags
    (cut packet) = readTags packet := by
  have size : (packet.payload.take packet.length).length = packet.length := by
    rw [List.length_take]
    omega
  have walked : tagsFrom (packet.payload.take packet.length) packet.length packet.length 0 =
      tagsFrom packet.payload packet.length packet.length 0 := by
    have behind := tagsFrom_append (packet.payload.take packet.length)
      (packet.payload.drop packet.length) packet.length packet.length 0
      (Nat.le_of_eq size.symm)
    rw [List.take_append_drop] at behind
    exact behind.symm
  unfold readTags parsePacket tagsReadable cut
  dsimp only
  rw [walked]

section Gaps

theorem memcpy_gap (front gap back bytes : List UInt8) (same : gap.length = bytes.length) :
    memcpy (front ++ gap ++ back) front.length bytes = some (front ++ bytes ++ back) := by
  have low : (front ++ gap ++ back).take front.length = front := by
    rw [List.append_assoc, List.take_left]
  have high : (front ++ gap ++ back).drop (front.length + bytes.length) = back := by
    rw [← same, ← List.length_append, List.drop_left]
  unfold memcpy
  rw [if_pos (by simp only [List.length_append]; omega), low, high]

theorem open_gap (front back junk bytes : List UInt8) (fits : bytes.length ≤ junk.length) :
    ((memmove (front ++ back ++ junk) (front.length + bytes.length) front.length back.length).bind fun moved =>
      memcpy moved front.length bytes) = some (front ++ bytes ++ back ++ junk.drop bytes.length) := by
  have low : ((front ++ back ++ junk).take (front.length + bytes.length)) = front ++
    (back ++ junk).take bytes.length := by
    rw [List.append_assoc, List.take_length_add_append]
  have taken : ((back ++ junk).take bytes.length).length = bytes.length := by
    rw [List.length_take, List.length_append]
    omega
  have middle : ((front ++ back ++ junk).drop front.length).take back.length = back := by
    rw [List.append_assoc, List.drop_left, List.take_left]
  have high : (front ++ back ++ junk).drop (front.length + bytes.length + back.length) = junk.drop bytes.length := by
    rw [Nat.add_assoc, Nat.add_comm bytes.length, ← Nat.add_assoc, ← List.length_append, List.drop_length_add_append]
  unfold memmove
  rw [if_pos (by simp only [List.length_append]; omega), Option.bind_some, low, middle, high]
  have filled := memcpy_gap front ((back ++ junk).take bytes.length) (back ++ junk.drop bytes.length) bytes taken
  simpa only [List.append_assoc] using filled

theorem close_gap (front gap back junk : List UInt8) :
    ∃ rest, memmove (front ++ gap ++ back ++ junk) front.length (front.length + gap.length) back.length = some
      (front ++ back ++ rest) ∧
      rest.length = gap.length + junk.length := by
  have low : (front ++ gap ++ back ++ junk).take front.length = front := by
    rw [List.append_assoc, List.append_assoc, List.take_left]
  have middle : ((front ++ gap ++ back ++ junk).drop (front.length + gap.length)).take back.length = back := by
    rw [← List.length_append, List.append_assoc, List.drop_left, List.take_left]
  unfold memmove
  rw [if_pos (by simp only [List.length_append]; omega), low, middle]
  refine ⟨_, rfl, ?_⟩
  simp only [List.length_drop, List.length_append]
  omega

end Gaps

theorem parts (payload : List UInt8) (len loc : Nat) (within : loc ≤ len) :
    payload = payload.take loc ++ (payload.take len).drop loc ++ payload.drop len := by
  have front : payload.take loc = (payload.take len).take loc := by rw [List.take_take, Nat.min_eq_left within]
  rw [front, List.take_append_drop, List.take_append_drop]

section Moves

variable (packet : PPPoEPacket) (array : packet.payload.length = ethJumboLen)

include array

theorem insertBytes_cut (loc : Nat) (within : loc ≤ packet.length) (bytes : List UInt8)
    (fits : bytes.length + packet.length ≤ maxPppoePayload) :
    ∃ added, insertBytes packet loc bytes = some (added, (bytes.length : Int)) ∧ added.payload.length = ethJumboLen ∧
      Pppoe.insertBytes (cut packet) loc bytes = some (cut added) := by
  have most : maxPppoePayload = 1502 := rfl
  have jumbo : ethJumboLen = 1508 := rfl
  have split := parts packet.payload packet.length loc within
  have front : (packet.payload.take loc).length = loc := by
    rw [List.length_take]
    omega
  have back : ((packet.payload.take packet.length).drop loc).length = packet.length - loc := by
    rw [List.length_drop, List.length_take]
    omega
  have opened := open_gap (packet.payload.take loc) ((packet.payload.take packet.length).drop loc)
    (packet.payload.drop packet.length)
    bytes (by rw [List.length_drop]; omega)
  rw [← split, front, back] at opened
  have places : ((loc : Int) + (bytes.length : Int)).toNat = loc + bytes.length ∧ (loc : Int).toNat = loc ∧
      ((packet.length : Int) - (loc : Int)).toNat = packet.length - loc ∧
      ((packet.length : Int) + (bytes.length : Int)).toNat = packet.length + bytes.length := by omega
  unfold insertBytes Pppoe.insertBytes
  dsimp only
  rw [if_neg (by omega), if_neg (by unfold cut; dsimp only; omega), places.1, places.2.1, places.2.2.1, places.2.2.2,
    opened]
  refine ⟨_, rfl, ?_, ?_⟩
  · simp only [List.length_append, List.length_drop, List.length_take]
    omega
  · have whole : (packet.payload.take loc ++ bytes ++ (packet.payload.take packet.length).drop loc).length =
        packet.length + bytes.length := by
      simp only [List.length_append, front, back]
      omega
    have before : (packet.payload.take packet.length).take loc = packet.payload.take loc := by
      rw [List.take_take, Nat.min_eq_left within]
    unfold cut
    dsimp only
    rw [List.take_left' whole, before]

theorem removeBytes_cut (loc len : Nat) (within : loc + len ≤ packet.length) (inside : packet.length ≤ ethJumboLen) :
    ∃ cleared, removeBytes packet loc len = some (cleared, (len : Int)) ∧ cleared.payload.length = ethJumboLen ∧
      Pppoe.removeBytes (cut packet) loc len = some (cut cleared) := by
  have front : (packet.payload.take loc).length = loc := by
    rw [List.length_take]
    omega
  have gap : ((packet.payload.take (loc + len)).drop loc).length = len := by
    rw [List.length_drop, List.length_take]
    omega
  have back : ((packet.payload.take packet.length).drop (loc + len)).length = packet.length - loc - len := by
    rw [List.length_drop, List.length_take]
    omega
  have split : packet.payload = packet.payload.take loc ++ (packet.payload.take (loc + len)).drop loc ++
      (packet.payload.take packet.length).drop (loc + len) ++ packet.payload.drop packet.length := by
    have outer := parts packet.payload packet.length (loc + len) within
    have inner : packet.payload.take (loc + len) = packet.payload.take loc ++
      (packet.payload.take (loc + len)).drop loc := by
      have cutTwice : (packet.payload.take (loc + len)).take loc = packet.payload.take loc := by
        rw [List.take_take, Nat.min_eq_left (by omega)]
      rw [← cutTwice, List.take_append_drop]
    rw [← inner]
    exact outer
  obtain ⟨rest, closed, restLength⟩ := close_gap (packet.payload.take loc) ((packet.payload.take (loc + len)).drop loc)
    ((packet.payload.take packet.length).drop (loc + len)) (packet.payload.drop packet.length)
  rw [← split, front, gap, back] at closed
  have places : ((loc : Int) + (len : Int)).toNat = loc + len ∧ (loc : Int).toNat = loc ∧
      ((packet.length : Int) - (loc : Int) - (len : Int)).toNat = packet.length - loc - len ∧
      ((packet.length : Int) - (len : Int)).toNat = packet.length - len := by omega
  unfold removeBytes Pppoe.removeBytes
  dsimp only
  rw [if_neg (by omega), if_neg (by unfold cut; dsimp only; omega), places.1, places.2.1, places.2.2.1, places.2.2.2,
    closed]
  refine ⟨_, rfl, ?_, ?_⟩
  · simp only [List.length_append, front, back, restLength, gap, List.length_drop]
    omega
  · have whole : (packet.payload.take loc ++ (packet.payload.take packet.length).drop (loc + len)).length =
      packet.length - len := by
      simp only [List.length_append, front, back]
      omega
    have before : (packet.payload.take packet.length).take loc = packet.payload.take loc := by
      rw [List.take_take, Nat.min_eq_left (by omega)]
    unfold cut
    dsimp only
    rw [List.take_left' whole, before]

end Moves

-- What an insertion at a place does to a packet, and that a removal takes it back.
structure Reversible (packet : PPPoEPacket) (loc : Nat) (bytes : List UInt8) : Prop where
  answers : insertBytes packet loc bytes = some (packet, -1) ∨ ∃ added,
    insertBytes packet loc bytes = some (added, (bytes.length : Int))
  succeeds : (∃ added, insertBytes packet loc bytes = some (added, (bytes.length : Int))) ↔
    packet.length + bytes.length ≤ maxPppoePayload
  inserted : ∀ added, insertBytes packet loc bytes = some (added, (bytes.length : Int)) →
    cut added = { cut packet with
      length := packet.length + bytes.length
      payload := (cut packet).payload.take loc ++ bytes ++ (cut packet).payload.drop loc }
  restored : ∀ added, insertBytes packet loc bytes = some (added, (bytes.length : Int)) →
    ∃ cleared, removeBytes added loc bytes.length = some (cleared, (bytes.length : Int)) ∧ cut cleared = cut packet

-- No call that fails has touched the packet, wherever it points.
structure FailsClean (packet : PPPoEPacket) : Prop where
  insert : ∀ loc bytes after, insertBytes packet loc bytes = some (after, -1) → after = packet
  remove : ∀ loc len after, removeBytes packet loc len = some (after, -1) → after = packet

def Prepends (packet : PPPoEPacket) (tag : PPPoETag) : Prop :=
  ∀ added result, addTag packet tag = some (added, result) → result ≠ -1 → readTags added = tag :: readTags packet

theorem fails_clean (packet : PPPoEPacket) : FailsClean packet := by
  constructor
  · intro loc bytes after failed
    unfold insertBytes at failed
    dsimp only at failed
    split at failed
    · exact (Prod.mk.inj (Option.some.inj failed)).1.symm
    · obtain ⟨filled, _, same⟩ := Option.map_eq_some_iff.mp failed
      have result := (Prod.mk.inj same).2
      omega
  · intro loc len after failed
    unfold removeBytes at failed
    dsimp only at failed
    split at failed
    · exact (Prod.mk.inj (Option.some.inj failed)).1.symm
    · obtain ⟨moved, _, same⟩ := Option.map_eq_some_iff.mp failed
      have result := (Prod.mk.inj same).2
      omega

theorem insertBytes_full (packet : PPPoEPacket) (loc : Nat) (bytes : List UInt8)
    (full : maxPppoePayload < packet.length + bytes.length) :
    insertBytes packet loc bytes = some (packet, -1) := by
  unfold insertBytes
  dsimp only
  rw [if_pos (by omega)]

section Packets

variable (packet : PPPoEPacket) (array : packet.payload.length = ethJumboLen) (short : packet.length ≤ maxPppoePayload)

include array short

theorem cut_size : (cut packet).payload.length = packet.length := by
  have most : maxPppoePayload = 1502 := rfl
  have jumbo : ethJumboLen = 1508 := rfl
  unfold cut
  dsimp only
  rw [List.length_take]
  omega

theorem reversible (loc : Nat) (within : loc ≤ packet.length) (bytes : List UInt8) : Reversible packet loc bytes := by
  have most : maxPppoePayload = 1502 := rfl
  have jumbo : ethJumboLen = 1508 := rfl
  have size := cut_size packet array short
  by_cases fits : packet.length + bytes.length ≤ maxPppoePayload
  · obtain ⟨added, ran, arrayAfter, refined⟩ := insertBytes_cut packet array loc within bytes (by omega)
    have only (after : PPPoEPacket) (again : insertBytes packet loc bytes = some (after, (bytes.length : Int))) :
      after = added :=
      (Prod.mk.inj (Option.some.inj (again.symm.trans ran))).1
    have whole : cut added = { cut packet with
        length := packet.length + bytes.length
        payload := (cut packet).payload.take loc ++ bytes ++ (cut packet).payload.drop loc } := by
      unfold Pppoe.insertBytes at refined
      rw [if_neg (by unfold cut; dsimp only; omega)] at refined
      exact (Option.some.inj refined).symm
    have grown : added.length = packet.length + bytes.length := congrArg PPPoEPacket.length whole
    refine ⟨.inr ⟨added, ran⟩, iff_of_true ⟨added, ran⟩ fits, ?_, ?_⟩
    · intro after again
      rw [only after again, whole]
    · intro after again
      rw [only after again]
      obtain ⟨cleared, removed, _, taken⟩ := removeBytes_cut added arrayAfter loc bytes.length (by omega) (by omega)
      refine ⟨cleared, removed, ?_⟩
      rw [whole] at taken
      unfold Pppoe.removeBytes at taken
      rw [if_neg (by dsimp only; omega)] at taken
      have front : ((cut packet).payload.take loc).length = loc := by
        rw [List.length_take]
        omega
      have before : ((cut packet).payload.take loc ++ bytes ++ (cut packet).payload.drop loc).take loc =
        (cut packet).payload.take loc := by
        rw [List.append_assoc]
        exact List.take_left' front
      have behind : ((cut packet).payload.take loc ++ bytes ++ (cut packet).payload.drop loc).drop
        (loc + bytes.length) =
          (cut packet).payload.drop loc := List.drop_left' (by rw [List.length_append, front])
      rw [← Option.some.inj taken]
      dsimp only
      rw [before, behind, List.take_append_drop, Nat.add_sub_cancel]
      rfl
  · have refused := insertBytes_full packet loc bytes (by omega)
    have never (after : PPPoEPacket) : insertBytes packet loc bytes ≠ some (after, (bytes.length : Int)) := by
      intro again
      have result := (Prod.mk.inj (Option.some.inj (again.symm.trans refused))).2
      omega
    exact ⟨.inl refused, iff_of_false (fun ⟨after, again⟩ => never after again) fits, fun after again =>
      absurd again (never after),
      fun after again => absurd again (never after)⟩

theorem prepends (version : Relay.versionOk packet = true) (tag : PPPoETag)
    (proper : Proper tag) : Prepends packet tag := by
  have most : maxPppoePayload = 1502 := rfl
  have jumbo : ethJumboLen = 1508 := rfl
  intro added result ran succeeded
  have fits : packet.length + (tagBytes tag).length ≤ maxPppoePayload := by
    by_contra past
    have refused := insertBytes_full packet 0 (tagBytes tag) (by omega)
    exact succeeded (Prod.mk.inj (Option.some.inj (ran.symm.trans refused))).2
  obtain ⟨after, again, arrayAfter, refined⟩ := insertBytes_cut packet array 0 (Nat.zero_le _) (tagBytes tag) (by omega)
  obtain rfl : added = after := (Prod.mk.inj (Option.some.inj (ran.symm.trans again))).1
  obtain ⟨sized, readable, tags⟩ := Relay.addTag_tags (cut packet) (cut added) tag version
    (cut_size packet array short) proper refined
  have inside : added.length ≤ maxPppoePayload := by
    unfold tagsReadable at readable
    rw [Bool.and_eq_true, decide_eq_true_eq] at readable
    exact readable.2
  rwa [readTags_cut added (by omega), readTags_cut packet (by omega)] at tags

end Packets

-- The whole of it, for a packet with its array: at every place and for every
-- string, and for every tag that has a type.
theorem insertion_undone (packet : PPPoEPacket) (array : packet.payload.length = ethJumboLen)
    (short : packet.length ≤ maxPppoePayload) :
    (∀ loc bytes, loc ≤ packet.length → Reversible packet loc bytes) ∧ FailsClean packet ∧
      (Relay.versionOk packet = true → ∀ tag, Proper tag → Prepends packet tag) :=
  ⟨fun loc bytes within => reversible packet array short loc within bytes, fails_clean packet,
    fun version tag proper => prepends packet array short version tag proper⟩

def emptyPacket (vertype : UInt8) : PPPoEPacket where
  hDest := Vector.replicate 6 2
  hSource := Vector.replicate 6 4
  vertype := vertype
  code := codePADI
  session := 0
  length := 0
  payload := List.replicate ethJumboLen 0

def serviceTag : PPPoETag := ⟨tagServiceName, [0x61]⟩

theorem insertion_undone_service : Reversible (emptyPacket pppoeVerType) 0 [1, 2, 3] ∧
    Prepends (emptyPacket pppoeVerType) serviceTag :=
  have whole := insertion_undone (emptyPacket pppoeVerType) List.length_replicate (by decide)
  ⟨whole.1 0 [1, 2, 3] (by decide), whole.2.2 (by decide) serviceTag ⟨⟨by decide, by decide⟩, by decide⟩⟩

-- A packet of version 2 has no tags for the parser, whatever is added.
theorem other_version_unread : (addTag (emptyPacket 0x21) serviceTag).map Prod.snd = some 5 ∧
    ¬ Prepends (emptyPacket 0x21) serviceTag := by
  have ran : (addTag (emptyPacket 0x21) serviceTag).map (fun done => (readTags done.1, done.2)) = some ([], 5) := by
    decide +kernel
  refine ⟨by decide +kernel, fun prepended => ?_⟩
  obtain ⟨⟨added, result⟩, inserted, shown⟩ := Option.map_eq_some_iff.mp ran
  obtain ⟨unread, five⟩ := Prod.mk.inj shown
  have tags := prepended added result inserted (by
    dsimp only at five
    omega)
  exact List.cons_ne_nil _ _ (tags.symm.trans unread)

end ZyAgf.Pppoe.InPlace
