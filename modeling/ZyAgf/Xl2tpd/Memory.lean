import ZyAgf.Xl2tpd.Wire

set_option autoImplicit false

namespace ZyAgf.Xl2tpd

def hostBytes (word : U16) : List UInt8 := [UInt8.ofNat word.toNat, UInt8.ofNat (word.toNat / 256)]

def storeNetWord (mem : List UInt8) (offset : Nat) (word : U16) : List UInt8 :=
  (mem.set offset (UInt8.ofNat (word.toNat / 256))).set (offset + 1) (UInt8.ofNat word.toNat)

section Front

-- Whatever stands in front of what is read or written does not matter.
variable (front back : List UInt8) (offset : Nat)

theorem byteAt_append : byteAt (front ++ back) (front.length + offset) = byteAt back offset := by
  unfold byteAt
  rw [List.getD_eq_getElem?_getD, List.getD_eq_getElem?_getD, List.getElem?_append_right (Nat.le_add_right _ _),
    Nat.add_sub_cancel_left]

theorem bytesAt_append (count : Nat) : bytesAt (front ++ back)
    (front.length + offset) count = bytesAt back offset count := by
  unfold bytesAt
  rw [← List.drop_drop, List.drop_left]

theorem hostWord_append : hostWord (front ++ back) (front.length + offset) = hostWord back offset := by
  unfold hostWord
  rw [byteAt_append, Nat.add_assoc, byteAt_append]

theorem netWord_append : netWord (front ++ back) (front.length + offset) = netWord back offset := by
  unfold netWord
  rw [byteAt_append, Nat.add_assoc, byteAt_append]

theorem set_append (byte : UInt8) : (front ++ back).set
    (front.length + offset) byte = front ++ back.set offset byte := by
  rw [List.set_append_right _ _ (Nat.le_add_right _ _), Nat.add_sub_cancel_left]

theorem storeHostWord_append (word : U16) :
    storeHostWord (front ++ back) (front.length + offset) word = front ++ storeHostWord back offset word := by
  unfold storeHostWord
  rw [set_append, Nat.add_assoc, set_append]

theorem storeNetWord_append (word : U16) :
    storeNetWord (front ++ back) (front.length + offset) word = front ++ storeNetWord back offset word := by
  unfold storeNetWord
  rw [set_append, Nat.add_assoc, set_append]

theorem swaps_append (words : Nat) : swaps (front ++ back)
    (front.length + offset) words = front ++ swaps back offset words := by
  induction words generalizing back offset with
  | zero => rfl
  | succ words ih =>
      rw [swaps, swaps, byteAt_append, Nat.add_assoc, byteAt_append, set_append, set_append, Nat.add_assoc, ih]

end Front

theorem joined (word : U16) : (UInt8.ofNat (word.toNat / 256)).toBitVec ++
    (UInt8.ofNat word.toNat).toBitVec = word := by
  apply BitVec.eq_of_toNat_eq
  have bound := word.isLt
  rw [BitVec.toNat_append]
  simp only [UInt8.toNat_toBitVec, UInt8.toNat_ofNat']
  rw [← Nat.shiftLeft_add_eq_or_of_lt (Nat.mod_lt _ (by decide) : word.toNat % 2 ^ 8 < 2 ^ 8), Nat.shiftLeft_eq]
  omega

theorem netWord_wordBytes (word : U16) (rest : List UInt8) : netWord (wordBytes word ++ rest) 0 = word := joined word

theorem hostWord_hostBytes (word : U16) (rest : List UInt8) : hostWord (hostBytes word ++ rest) 0 = word := joined word

theorem swaps_wordBytes (word : U16) (rest : List UInt8) (words : Nat) :
    swaps (wordBytes word ++ rest) 0 (words + 1) = hostBytes word ++ swaps rest 0 words := by
  rw [swaps]
  exact swaps_append (hostBytes word) rest 0 words

theorem bytesAt_here (front back : List UInt8) : bytesAt (front ++ back) 0 front.length = front := by
  simp [bytesAt]

theorem bytesAt_first (front back rest : List UInt8) (offset : Nat) (here : front.length = offset) :
    bytesAt (front ++ (back ++ rest)) offset back.length = back := by
  subst here
  exact (bytesAt_append front (back ++ rest) 0 back.length).trans (bytesAt_here back rest)

theorem bytesAt_second (front skipped back rest : List UInt8) (offset : Nat) (here : front.length = offset) :
    bytesAt (front ++ (skipped ++ (back ++ rest))) (offset + skipped.length) back.length = back := by
  rw [← List.append_assoc]
  exact bytesAt_first (front ++ skipped) back rest _ (by rw [List.length_append, here])

def wordsOf (ws : List U16) : List UInt8 := ws.flatMap hostBytes

theorem swaps_words (ws : List U16) (tail : List UInt8) : swaps
    (ws.flatMap wordBytes ++ tail) 0 ws.length = wordsOf ws ++ tail := by
  induction ws with
  | nil => rfl
  | cons w ws ih =>
      rw [List.flatMap_cons, List.append_assoc, List.length_cons, swaps_wordBytes, ih]
      rfl

theorem hostWord_words (ws : List U16) (tail : List UInt8) (offset : Nat) (even : offset % 2 = 0)
    (inside : offset / 2 < ws.length) :
    hostWord (wordsOf ws ++ tail) offset = ws.getD (offset / 2) 0 := by
  induction ws generalizing offset with
  | nil => cases inside
  | cons w ws ih =>
      rw [wordsOf, List.flatMap_cons, List.append_assoc]
      rcases half : offset / 2 with _ | i
      · obtain rfl : offset = 0 := by omega
        exact hostWord_hostBytes w _
      · obtain ⟨later, rfl⟩ : ∃ later, offset = (hostBytes w).length + later := ⟨2 * i, by simp [hostBytes]; omega⟩
        simp only [hostBytes, List.length_cons, List.length_nil] at half even inside
        rw [hostWord_append, List.getD_cons_succ]
        refine (ih later (by omega) (by omega)).trans ?_
        congr 1
        omega

theorem storeHostWord_words (ws : List U16) (tail : List UInt8) (offset : Nat) (word : U16) (even : offset % 2 = 0)
    (inside : offset / 2 < ws.length) : storeHostWord (wordsOf ws ++ tail) offset word = wordsOf
    (ws.set (offset / 2) word) ++ tail := by
  induction ws generalizing offset with
  | nil => cases inside
  | cons w ws ih =>
      rw [wordsOf, List.flatMap_cons, List.append_assoc]
      rcases half : offset / 2 with _ | i
      · obtain rfl : offset = 0 := by omega
        rfl
      · obtain ⟨later, rfl⟩ : ∃ later, offset = (hostBytes w).length + later := ⟨2 * i, by simp [hostBytes]; omega⟩
        simp only [hostBytes, List.length_cons, List.length_nil] at half even inside
        have stored := ih later (by omega) (by omega)
        rw [storeHostWord_append, List.set_cons_succ]
        show _ = (hostBytes w ++ wordsOf (ws.set i word)) ++ tail
        rw [List.append_assoc]
        refine congrArg (hostBytes w ++ ·) (stored.trans ?_)
        have same : later / 2 = i := by omega
        rw [same]

theorem pair_hostBytes (low high : UInt8) : hostBytes (high.toBitVec ++ low.toBitVec) = [low, high] := by
  have value : (high.toBitVec ++ low.toBitVec).toNat = high.toNat * 256 + low.toNat := by
    rw [BitVec.toNat_append, ← Nat.shiftLeft_add_eq_or_of_lt low.toBitVec.isLt, Nat.shiftLeft_eq]
    rfl
  have low_bound := low.toNat_lt
  rw [hostBytes, value]
  refine congr (congrArg List.cons (UInt8.toNat_inj.mp ?_)) (congr (congrArg List.cons (UInt8.toNat_inj.mp ?_)) rfl)
  · rw [UInt8.toNat_ofNat']
    omega
  · have high_bound := high.toNat_lt
    rw [UInt8.toNat_ofNat']
    omega

theorem exists_words (count : Nat) (bytes : List UInt8) (even : bytes.length = 2 * count) : ∃ ws, ws.length = count ∧
    wordsOf ws = bytes := by
  induction count generalizing bytes with
  | zero => exact ⟨[], rfl, (List.eq_nil_of_length_eq_zero even).symm⟩
  | succ count ih =>
      rcases bytes with _ | ⟨low, _ | ⟨high, bytes⟩⟩
      · simp at even
      · simp at even
        omega
      · simp only [List.length_cons] at even
        obtain ⟨ws, length, rfl⟩ := ih bytes (by omega)
        exact ⟨(high.toBitVec ++ low.toBitVec) :: ws, congrArg (· + 1) length, by
          rw [wordsOf, List.flatMap_cons, pair_hostBytes]
          rfl⟩

-- A store leaves the rest of the buffer alone.
section Elsewhere

variable (mem : List UInt8) (offset i : Nat)

theorem byteAt_set_other (byte : UInt8) (other : i ≠ offset) : byteAt (mem.set offset byte) i = byteAt mem i := by
  unfold byteAt
  rw [List.getD_eq_getElem?_getD, List.getD_eq_getElem?_getD, List.getElem?_set_ne (Ne.symm other)]

theorem byteAt_set_here (byte : UInt8) (inside : offset < mem.length) : byteAt (mem.set offset byte) offset = byte := by
  unfold byteAt
  rw [List.getD_eq_getElem?_getD, List.getElem?_set_self inside]
  rfl

theorem storeHostWord_length (word : U16) : (storeHostWord mem offset word).length = mem.length := by
  unfold storeHostWord
  rw [List.length_set, List.length_set]

theorem byteAt_storeHostWord_other (word : U16) (other : i ≠ offset ∧ i ≠ offset + 1) :
    byteAt (storeHostWord mem offset word) i = byteAt mem i := by
  unfold storeHostWord
  rw [byteAt_set_other _ _ _ _ other.2, byteAt_set_other _ _ _ _ other.1]

theorem hostWord_storeHostWord (word : U16) (inside : offset + 2 ≤ mem.length) :
    hostWord (storeHostWord mem offset word) offset = word := by
  unfold hostWord storeHostWord
  rw [byteAt_set_here _ _ _ (by rw [List.length_set]; omega), byteAt_set_other _ _ _ _ (by omega),
    byteAt_set_here _ _ _ (by omega)]
  exact joined word

theorem swaps_length (words : Nat) : (swaps mem offset words).length = mem.length := by
  induction words generalizing mem offset with
  | zero => rfl
  | succ words ih => rw [swaps, ih, List.length_set, List.length_set]

theorem byteAt_swaps_other (words : Nat) (other : i < offset ∨ offset + 2 * words ≤ i) :
    byteAt (swaps mem offset words) i = byteAt mem i := by
  induction words generalizing mem offset with
  | zero => rfl
  | succ words ih =>
      rw [swaps, ih _ _ (by omega), byteAt_set_other _ _ _ _ (by omega), byteAt_set_other _ _ _ _ (by omega)]

theorem hostWord_swaps (words : Nat) (inside : offset + 2 ≤ mem.length) :
    hostWord (swaps mem offset (words + 1)) offset = netWord mem offset := by
  unfold hostWord netWord
  rw [swaps, byteAt_swaps_other _ _ _ _ (by omega), byteAt_swaps_other _ _ _ _ (by omega),
    byteAt_set_here _ _ _ (by rw [List.length_set]; omega),
    byteAt_set_other _ _ _ _ (by omega), byteAt_set_here _ _ _ (by omega)]

end Elsewhere

-- Buffers with the same bytes somewhere have the same words there.
section Same

variable (mem other : List UInt8) (offset count : Nat) (same : bytesAt mem offset count = bytesAt other offset count)

include same

theorem byteAt_bytes (i : Nat) (near : i < count) : byteAt mem (offset + i) = byteAt other (offset + i) := by
  have byte (m : List UInt8) : byteAt m (offset + i) = byteAt (bytesAt m offset count) i := by
    unfold byteAt bytesAt
    simp only [List.getD_eq_getElem?_getD, List.getElem?_take_of_lt near, List.getElem?_drop]
  rw [byte mem, same, ← byte other]

theorem netWord_bytes (two : 2 ≤ count) : netWord mem offset = netWord other offset := by
  have first : byteAt mem offset = byteAt other offset := byteAt_bytes mem other offset count same 0 (by omega)
  have second := byteAt_bytes mem other offset count same 1 (by omega)
  unfold netWord
  rw [first, second]

theorem hostWord_bytes (two : 2 ≤ count) : hostWord mem offset = hostWord other offset := by
  have first : byteAt mem offset = byteAt other offset := byteAt_bytes mem other offset count same 0 (by omega)
  have second := byteAt_bytes mem other offset count same 1 (by omega)
  unfold hostWord
  rw [first, second]

end Same

-- Bytes of a buffer replaced by as many others.
section Splice

variable (mem plain : List UInt8) (offset : Nat) (inside : offset + plain.length ≤ mem.length)

include inside

theorem splice_length : (mem.take offset ++ plain ++ mem.drop (offset + plain.length)).length = mem.length := by
  simp only [List.length_append, List.length_take, List.length_drop]
  omega

theorem byteAt_splice (i : Nat) (behind : offset + plain.length ≤ i) :
    byteAt (mem.take offset ++ plain ++ mem.drop (offset + plain.length)) i = byteAt mem i := by
  have front : (mem.take offset ++ plain).length = offset + plain.length := by
    simp only [List.length_append, List.length_take]
    omega
  obtain ⟨j, rfl⟩ := Nat.exists_eq_add_of_le behind
  have shifted := byteAt_append (mem.take offset ++ plain) (mem.drop (offset + plain.length)) j
  rw [front] at shifted
  rw [shifted]
  unfold byteAt
  rw [List.getD_eq_getElem?_getD, List.getElem?_drop, ← List.getD_eq_getElem?_getD]

end Splice

end ZyAgf.Xl2tpd
