import ZyAgf.Pppoe.ClampSafety

set_option autoImplicit false

namespace ZyAgf.Pppoe.Clamp

-- A sequence of whole options, with where those start that are more than one
-- byte. What is behind an end of the list is padding.
inductive WholeOptions (payload : List UInt8) (endHdr : Nat) : Nat → List Nat → Prop
  | done : WholeOptions payload endHdr endHdr []
  | eol (opt : Nat) (inside : opt < endHdr) (kind : byteAt payload opt = 0) : WholeOptions payload endHdr opt []
  | nop (opt : Nat) (opts : List Nat) (inside : opt < endHdr) (kind : byteAt payload opt = 1)
      (rest : WholeOptions payload endHdr (opt + 1) opts) : WholeOptions payload endHdr opt opts
  | option (opt : Nat) (opts : List Nat) (kind : 2 ≤ byteAt payload opt) (length : 2 ≤ byteAt payload (opt + 1))
      (fits : opt + byteAt payload (opt + 1) ≤ endHdr)
        (rest : WholeOptions payload endHdr (opt + byteAt payload (opt + 1)) opts) :
      WholeOptions payload endHdr opt (opt :: opts)

-- The lengths of both headers and of the datagram, one within the other.
structure SegmentWhole (payload : List UInt8) (opts : List Nat) : Prop where
  header : 20 ≤ headerLen payload
  offset : optionsAt payload ≤ optionsEnd payload
  total : optionsEnd payload ≤ ipAt payload + totalLen payload
  inside : ipAt payload + totalLen payload ≤ payload.length
  options : WholeOptions payload (optionsEnd payload) (optionsAt payload) opts

structure WellFormed (payload : List UInt8) (opts : List Nat) : Prop where
  field : FieldInside payload
  segment : IsTcp payload → SegmentWhole payload opts

def ValidSyn (payload : List UInt8) : Prop :=
  IsSyn payload ∧ computeTCPChecksum payload (ipAt payload) (tcpAt payload) = some 0

def isMss (payload : List UInt8) (opt : Nat) : Bool := byteAt payload opt == 2

def MssAbove (payload : List UInt8) (clampMss mssopt : Nat) : Prop :=
  byteAt payload (mssopt + 1) = 4 ∧ clampMss < wordAt payload (mssopt + 2)

structure Clamped (payload : List UInt8) (clampMss mssopt : Nat) (result : List UInt8) : Prop where
  length : result.length = payload.length
  same : ∀ i, i ≠ mssopt + 2 → i ≠ mssopt + 3 → i ≠ tcpAt payload + 16 → i ≠ tcpAt payload + 17 →
    byteAt result i = byteAt payload i
  value : wordAt result (mssopt + 2) = clampMss
  checksum : computeTCPChecksum result (ipAt result) (tcpAt result) = some 0

-- The MSS option is the first of its kind.
structure ClampRight (payload : List UInt8) (opts : List Nat) (clampMss : Nat) : Prop where
  clamped : ∀ mssopt, ValidSyn payload → opts.find? (isMss payload) = some mssopt → MssAbove payload clampMss mssopt →
    ∃ result, clampMSS payload clampMss = some result ∧ Clamped payload clampMss mssopt result
  unchanged : ¬ (ValidSyn payload ∧ ∃ mssopt ∈ opts.find? (isMss payload), MssAbove payload clampMss mssopt) →
    clampMSS payload clampMss = some payload
  twice : (clampMSS payload clampMss).bind (clampMSS · clampMss) = clampMSS payload clampMss

theorem wholeOptions_mem (payload : List UInt8) (endHdr start : Nat) (opts : List Nat)
    (whole : WholeOptions payload endHdr start opts) :
    ∀ opt ∈ opts, start ≤ opt ∧ opt + byteAt payload (opt + 1) ≤ endHdr := by
  induction whole with
  | done => simp
  | eol => simp
  | nop opt opts inside kind rest ih =>
      exact fun other member => ⟨by have := (ih other member).1; omega, (ih other member).2⟩
  | option opt opts kind length fits rest ih =>
      intro other member
      rcases List.mem_cons.mp member with rfl | later
      · exact ⟨Nat.le_refl _, fits⟩
      · exact ⟨by have := (ih other later).1; omega, (ih other later).2⟩

def walkResult (payload : List UInt8) (opts : List Nat) : Option Nat :=
  (opts.find? (isMss payload)).bind fun mssopt => if byteAt payload (mssopt + 1) = 4 then some mssopt else none

theorem findMss_whole (payload : List UInt8) (endHdr start fuel : Nat) (opts : List Nat)
    (whole : WholeOptions payload endHdr start opts) (inside : endHdr ≤ payload.length)
    (enough : endHdr ≤ start + fuel) :
    findMss payload endHdr fuel start = some (walkResult payload opts) := by
  induction whole generalizing fuel with
  | done => cases fuel <;> simp [findMss, walkResult]
  | eol opt within kind =>
      obtain ⟨fuel, rfl⟩ : ∃ n, fuel = n + 1 := ⟨fuel - 1, by omega⟩
      rw [findMss, if_neg (by omega), readByte_inside payload opt (by omega)]
      simp [kind, walkResult]
  | nop opt opts within kind rest ih =>
      obtain ⟨fuel, rfl⟩ : ∃ n, fuel = n + 1 := ⟨fuel - 1, by omega⟩
      rw [findMss, if_neg (by omega), readByte_inside payload opt (by omega)]
      simp [kind, ih fuel (by omega)]
  | option opt opts kind length fits rest ih =>
      obtain ⟨fuel, rfl⟩ : ∃ n, fuel = n + 1 := ⟨fuel - 1, by omega⟩
      rw [findMss, if_neg (by omega), readByte_inside payload opt (by omega)]
      simp only [Option.bind_eq_bind, Option.bind_some]
      rw [if_neg (by omega), if_neg (by omega), readByte_inside payload (opt + 1) (by omega)]
      simp only [Option.bind_some]
      by_cases mss : byteAt payload opt = 2
      · simp [mss, walkResult, isMss]
      · rw [if_neg mss, if_neg (by omega), ih fuel (by omega)]
        simp [mss, walkResult, isMss]

section Whole

variable {payload : List UInt8} {opts : List Nat}

theorem whole_order (whole : SegmentWhole payload opts) : headerLen payload ≤ totalLen payload := by
  have offset := whole.offset
  have total := whole.total
  unfold optionsAt tcpAt at offset
  omega

theorem whole_flags (whole : SegmentWhole payload opts) : tcpAt payload + 20 ≤ payload.length := by
  have offset := whole.offset
  have total := whole.total
  have inside := whole.inside
  unfold optionsAt at offset
  omega

theorem whole_segment (whole : SegmentWhole payload opts) : SegmentInside payload (ipAt payload) (tcpAt payload) := by
  have order := whole_order whole
  have inside := whole.inside
  refine Or.inr ?_
  rw [segmentCount_eq payload order]
  unfold tcpAt
  omega

theorem whole_checksum (whole : SegmentWhole payload opts) : computeTCPChecksum payload (ipAt payload) (tcpAt payload) =
    some (checksumOf payload (ipAt payload) (tcpAt payload) (segmentCount payload (ipAt payload))) := by
  have flags := whole_flags whole
  have header := whole.header
  rw [computeTCPChecksum_eq payload _ _ (by unfold tcpAt at flags; omega)]
  exact if_pos (whole_segment whole)

theorem walkResult_mem {mssopt : Nat} (found : walkResult payload opts = some mssopt) :
    opts.find? (isMss payload) = some mssopt ∧ byteAt payload (mssopt + 1) = 4 := by
  unfold walkResult at found
  obtain ⟨first, is, four⟩ := Option.bind_eq_some_iff.mp found
  split at four
  · cases four
    exact ⟨is, by assumption⟩
  · cases four

theorem mss_inside (whole : SegmentWhole payload opts) {mssopt : Nat} (found : opts.find? (isMss payload) = some mssopt)
    (length : byteAt payload (mssopt + 1) = 4) : tcpAt payload + 20 ≤ mssopt ∧
    mssopt + 4 ≤ ipAt payload + totalLen payload := by
  have there := wholeOptions_mem payload _ _ opts whole.options mssopt (List.mem_of_find?_eq_some found)
  have total := whole.total
  rw [length] at there
  unfold optionsAt at there
  omega

theorem clampMSS_options (payload : List UInt8) (clampMss : Nat) (field : FieldInside payload)
    (valid : ValidSyn payload)
    (flags : tcpAt payload + 13 < payload.length) :
    clampMSS payload clampMss = clampOptions payload (ipAt payload) (tcpAt payload) clampMss := by
  obtain ⟨⟨tcp, syn⟩, good⟩ := valid
  have long := tcp.long
  rw [clampMSS_tcp payload clampMss field tcp]
  unfold clampTcp
  rw [readByte_inside payload (ipAt payload) (by omega)]
  simp only [Option.bind_eq_bind, Option.bind_some]
  rw [← headerLen, ← tcpAt, readByte_inside payload (tcpAt payload + 13) flags]
  simp only [Option.bind_some]
  rw [if_neg syn, good]
  simp only [Option.bind_some]
  rw [if_neg (not_not_intro rfl)]

def clampFound (payload : List UInt8) (clampMss : Nat) : Option Nat → Option (List UInt8)
  | none => some payload
  | some mssopt =>
      if wordAt payload (mssopt + 2) ≤ clampMss then some payload
      else storeMss payload (ipAt payload) (tcpAt payload) mssopt clampMss

theorem clampOptions_walked (payload : List UInt8) (clampMss : Nat) (flags : tcpAt payload + 13 < payload.length)
    (found : Option Nat)
    (walk : findMss payload (optionsEnd payload) (optionsEnd payload - optionsAt payload)
    (optionsAt payload) = some found)
    (inside : ∀ mssopt ∈ found, mssopt + 3 < payload.length) :
    clampOptions payload (ipAt payload) (tcpAt payload) clampMss = clampFound payload clampMss found := by
  unfold clampOptions
  rw [readByte_inside payload (tcpAt payload + 12) (by omega)]
  simp only [Option.bind_eq_bind, Option.bind_some]
  rw [← optionsEnd, ← optionsAt, walk]
  simp only [Option.bind_some]
  cases found with
  | none => rfl
  | some mssopt =>
      simp only [clampFound]
      rw [readNet_inside payload (mssopt + 2) (inside mssopt rfl)]
      rfl

theorem clampMSS_valid (formed : WellFormed payload opts) (clampMss : Nat) (valid : ValidSyn payload) :
    clampMSS payload clampMss = some (match walkResult payload opts with
      | none => payload
      | some mssopt =>
          if wordAt payload (mssopt + 2) ≤ clampMss then payload
          else storedMss payload (ipAt payload) (tcpAt payload) mssopt clampMss) := by
  have whole := formed.segment valid.1.1
  have flags := whole_flags whole
  have header := whole.header
  have inside := whole.inside
  have total := whole.total
  have start : ipAt payload ≤ tcpAt payload := by unfold tcpAt; omega
  have walk := findMss_whole payload (optionsEnd payload) (optionsAt payload)
    (optionsEnd payload - optionsAt payload) opts
    whole.options (by omega) (by omega)
  have places : ∀ mssopt ∈ walkResult payload opts, tcpAt payload + 20 ≤ mssopt ∧ mssopt + 3 < payload.length := by
    intro mssopt found
    obtain ⟨first, length⟩ := walkResult_mem found
    have place := mss_inside whole first length
    omega
  rw [clampMSS_options payload clampMss formed.field valid (by omega),
    clampOptions_walked payload clampMss (by omega) _ walk fun mssopt found => (places mssopt found).2]
  rcases found : walkResult payload opts with _ | mssopt
  · rfl
  · have place := places mssopt found
    simp only [clampFound]
    split
    · rfl
    · rw [storeMss_eq payload (ipAt payload) (tcpAt payload) mssopt clampMss (by omega) start place.1 place.2
        (whole_segment whole)]

theorem clampMSS_invalid (formed : WellFormed payload opts) (clampMss : Nat) (invalid : ¬ ValidSyn payload) :
    clampMSS payload clampMss = some payload := by
  by_cases tcp : IsTcp payload
  swap
  · exact clampMSS_other payload clampMss formed.field tcp
  have whole := formed.segment tcp
  have flags := whole_flags whole
  have checksum := whole_checksum whole
  rw [clampMSS_tcp payload clampMss formed.field tcp]
  unfold clampTcp
  rw [readByte_inside payload (ipAt payload) (by unfold tcpAt at flags; omega)]
  simp only [Option.bind_eq_bind, Option.bind_some]
  rw [← headerLen, ← tcpAt, readByte_inside payload (tcpAt payload + 13) (by omega)]
  simp only [Option.bind_some]
  by_cases syn : byteAt payload (tcpAt payload + 13) &&& 0x02 = 0
  · rw [if_pos syn]
    rfl
  rw [if_neg syn, checksum]
  simp only [Option.bind_some]
  rw [if_pos]
  · rfl
  · intro good
    exact invalid ⟨⟨tcp, syn⟩, by rw [checksum, good]⟩

end Whole

theorem bytesAt_set (payload : List UInt8) (start count k : Nat) (byte : UInt8) :
    bytesAt (payload.set (start + k) byte) start count = (bytesAt payload start count).set k byte := by
  unfold bytesAt
  rw [List.drop_set, if_neg (by omega), Nat.add_sub_cancel_left, List.take_set]

theorem byteAt_bytesAt (payload : List UInt8) (start count k : Nat) (inside : k < count) :
    ((bytesAt payload start count).getD k 0).toNat = byteAt payload (start + k) := by
  unfold bytesAt byteAt
  simp [List.getD_eq_getElem?_getD, List.getElem?_take_of_lt inside, List.getElem?_drop]

theorem hostAt_lt (payload : List UInt8) (i : Nat) : hostAt payload i < 65536 := by
  have := (payload.getD i 0).toNat_lt
  have := (payload.getD (i + 1) 0).toNat_lt
  unfold hostAt byteAt
  omega

theorem checksum_restored (cleared : List UInt8) (ipHdr tcpHdr count : Nat) (behind : ipHdr + 20 ≤ tcpHdr)
    (room : 18 ≤ count)
    (short : count < 65536) (inside : tcpHdr + count ≤ cleared.length) (protocol : 0 < byteAt cleared (ipHdr + 9))
    (low : byteAt cleared (tcpHdr + 16) = 0) (high : byteAt cleared (tcpHdr + 17) = 0) :
    checksumOf ((cleared.set (tcpHdr + 16) (UInt8.ofNat (checksumOf cleared ipHdr tcpHdr count))).set (tcpHdr + 17)
      (UInt8.ofNat (checksumOf cleared ipHdr tcpHdr count / 256))) ipHdr tcpHdr count = 0 := by
  have bound : checksumOf cleared ipHdr tcpHdr count ≤ 65535 := Nat.sub_le _ _
  generalize csum : checksumOf cleared ipHdr tcpHdr count = c at bound ⊢
  have early (i : Nat) (before : i < ipHdr + 20) :
      byteAt ((cleared.set (tcpHdr + 16) (UInt8.ofNat c)).set (tcpHdr + 17) (UInt8.ofNat (c / 256))) i = byteAt cleared
        i := by
    rw [byteAt_set_ne _ _ _ _ (by omega), byteAt_set_ne _ _ _ _ (by omega)]
  have pseudo : pseudoSum ((cleared.set (tcpHdr + 16) (UInt8.ofNat c)).set (tcpHdr + 17) (UInt8.ofNat (c / 256))) ipHdr
    count =
      pseudoSum cleared ipHdr count := by
    unfold pseudoSum hostAt
    simp only [early _ (show ipHdr + 12 < ipHdr + 20 by omega), early _ (show ipHdr + 12 + 1 < ipHdr + 20 by omega),
      early _ (show ipHdr + 14 < ipHdr + 20 by omega), early _ (show ipHdr + 14 + 1 < ipHdr + 20 by omega),
      early _ (show ipHdr + 16 < ipHdr + 20 by omega), early _ (show ipHdr + 16 + 1 < ipHdr + 20 by omega),
      early _ (show ipHdr + 18 < ipHdr + 20 by omega), early _ (show ipHdr + 18 + 1 < ipHdr + 20 by omega),
      early _ (show ipHdr + 9 < ipHdr + 20 by omega)]
  have length : (bytesAt cleared tcpHdr count).length = count := by
    unfold bytesAt
    rw [List.length_take, List.length_drop]
    omega
  have words := wordSum_set_word (bytesAt cleared tcpHdr count) 8 (UInt8.ofNat c) (UInt8.ofNat (c / 256)) (by omega)
  simp only [Nat.reduceMul, Nat.reduceAdd, byteAt_bytesAt _ _ _ _ (show 16 < count by omega),
    byteAt_bytesAt _ _ _ _ (show 17 < count by omega), low, high, UInt8.toNat_ofNat'] at words
  have sum : wordSum (bytesAt ((cleared.set (tcpHdr + 16) (UInt8.ofNat c)).set (tcpHdr + 17) (UInt8.ofNat (c / 256)))
    tcpHdr count) =
      wordSum (bytesAt cleared tcpHdr count) + c := by
    rw [bytesAt_set, bytesAt_set]
    omega
  have bytes := wordSum_le (bytesAt cleared tcpHdr count)
  have source₀ := hostAt_lt cleared (ipHdr + 12)
  have source₁ := hostAt_lt cleared (ipHdr + 14)
  have dest₀ := hostAt_lt cleared (ipHdr + 16)
  have dest₁ := hostAt_lt cleared (ipHdr + 18)
  have kind := (cleared.getD (ipHdr + 9) 0).toNat_lt
  have positive : 0 < pseudoSum cleared ipHdr count + wordSum (bytesAt cleared tcpHdr count) := by
    unfold pseudoSum
    omega
  have small : pseudoSum cleared ipHdr count + wordSum (bytesAt cleared tcpHdr count) + 65536 < 2 ^ 32 := by
    rw [length] at bytes
    unfold pseudoSum byteAt
    omega
  have good := foldCarries_complement 30 _ positive small
  unfold checksumOf at csum
  rw [checksumOf, pseudo, sum, ← Nat.add_assoc, ← csum, good]

section Stored

variable (payload : List UInt8) (ipHdr tcpHdr mssopt clampMss : Nat)

theorem storedMss_length : (storedMss payload ipHdr tcpHdr mssopt clampMss).length = payload.length := by
  simp [storedMss]

theorem storedMss_same (i : Nat) (value₀ : i ≠ mssopt + 2) (value₁ : i ≠ mssopt + 3) (check₀ : i ≠ tcpHdr + 16)
    (check₁ : i ≠ tcpHdr + 17) :
    byteAt (storedMss payload ipHdr tcpHdr mssopt clampMss) i = byteAt payload i := by
  unfold storedMss
  rw [byteAt_set_ne _ _ _ _ check₁, byteAt_set_ne _ _ _ _ check₀,
    withMss_same payload tcpHdr mssopt clampMss i value₀ value₁ check₀ check₁]

theorem storedMss_value (behind : tcpHdr + 20 ≤ mssopt) (inside : mssopt + 3 < payload.length)
    (range : clampMss < 65536) :
    wordAt (storedMss payload ipHdr tcpHdr mssopt clampMss) (mssopt + 2) = clampMss := by
  have high : byteAt (storedMss payload ipHdr tcpHdr mssopt clampMss) (mssopt + 2) = clampMss / 256 % 256 := by
    unfold storedMss withMss
    rw [byteAt_set_ne _ _ _ _ (by omega), byteAt_set_ne _ _ _ _ (by omega), byteAt_set_ne _ _ _ _ (by omega),
      byteAt_set_ne _ _ _ _ (by omega), byteAt_set_ne _ _ _ _ (by omega), byteAt_set_same _ _ _ (by omega),
        UInt8.toNat_ofNat']
  have low : byteAt (storedMss payload ipHdr tcpHdr mssopt clampMss) (mssopt + 2 + 1) = clampMss % 256 := by
    unfold storedMss withMss
    rw [byteAt_set_ne _ _ _ _ (by omega), byteAt_set_ne _ _ _ _ (by omega), byteAt_set_ne _ _ _ _ (by omega),
      byteAt_set_ne _ _ _ _ (by omega), byteAt_set_same _ _ _ (by simp; omega), UInt8.toNat_ofNat']
  unfold wordAt
  rw [high, low]
  omega

theorem findMss_agrees (other : List UInt8) (endHdr fuel start : Nat)
    (found : findMss payload endHdr fuel start = some (some mssopt))
    (same : ∀ i, start ≤ i → i < mssopt + 2 → readByte other i = readByte payload i) :
    findMss other endHdr fuel start = some (some mssopt) := by
  induction fuel generalizing start with
  | zero => cases found
  | succ fuel ih =>
      have order := findMss_behind payload endHdr (fuel + 1) start mssopt found
      rw [findMss] at found ⊢
      split at found
      · cases found
      rename_i more
      obtain ⟨kind, read, found⟩ := Option.bind_eq_some_iff.mp found
      rw [if_neg more, same start (Nat.le_refl _) (by omega), read]
      simp only [Option.bind_eq_bind, Option.bind_some]
      split at found
      · cases found
      rename_i continues
      rw [if_neg continues]
      split at found
      · rename_i nop
        rw [if_pos nop]
        exact ih (start + 1) found fun i after before => same i (by omega) before
      rename_i longer
      obtain ⟨length, sized, found⟩ := Option.bind_eq_some_iff.mp found
      rw [if_neg longer, same (start + 1) (by omega) (by omega), sized]
      simp only [Option.bind_some]
      split at found
      · rename_i is
        rw [if_pos is]
        exact found
      rename_i another
      rw [if_neg another]
      split at found
      · cases found
      rename_i whole
      rw [if_neg whole]
      exact ih (start + length) found fun i after before => same i (by omega) before

end Stored

theorem readByte_same (payload other : List UInt8) (i : Nat) (length : other.length = payload.length)
    (same : byteAt other i = byteAt payload i) : readByte other i = readByte payload i := by
  rw [readByte_eq, readByte_eq, length, same]

-- The payload as it is stored is a good segment with the same headers.
section Again

variable {payload : List UInt8} {opts : List Nat} {mssopt : Nat} (clampMss : Nat)

theorem stored_field (place : tcpAt payload + 20 ≤ mssopt) (i : Nat) (early : i < tcpAt payload + 16) :
    byteAt (storedMss payload (ipAt payload) (tcpAt payload) mssopt clampMss) i = byteAt payload i :=
  storedMss_same payload (ipAt payload) (tcpAt payload) mssopt clampMss i (by omega) (by omega) (by omega) (by omega)

theorem stored_places (whole : SegmentWhole payload opts) (place : tcpAt payload + 20 ≤ mssopt) :
    let stored := storedMss payload (ipAt payload) (tcpAt payload) mssopt clampMss
    ipAt stored = ipAt payload ∧ tcpAt stored = tcpAt payload ∧ totalLen stored = totalLen payload ∧
      segmentCount stored (ipAt payload) = segmentCount payload (ipAt payload) := by
  have field := stored_field clampMss place
  have header := whole.header
  have start : ipAt payload + 20 ≤ tcpAt payload := by unfold tcpAt; omega
  have ip : ipAt (storedMss payload (ipAt payload) (tcpAt payload) mssopt clampMss) = ipAt payload := by
    show (if byteAt (storedMss payload (ipAt payload) (tcpAt payload) mssopt clampMss) 0 = 0x21 then 1 else 2) = _
    rw [field 0 (by omega)]
    rfl
  have total : totalLen (storedMss payload (ipAt payload) (tcpAt payload) mssopt clampMss) = totalLen payload := by
    unfold totalLen wordAt
    rw [ip, field _ (by omega), field _ (by omega)]
  refine ⟨ip, ?_, total, ?_⟩
  · rw [tcpAt, headerLen, ip, field _ (by omega)]
    rfl
  · unfold segmentCount wordAt
    rw [field _ (by omega), field _ (by omega), field _ (by omega)]

theorem stored_checksum (whole : SegmentWhole payload opts) (tcp : IsTcp payload)
    (place : tcpAt payload + 20 ≤ mssopt) :
    computeTCPChecksum (storedMss payload (ipAt payload) (tcpAt payload) mssopt clampMss) (ipAt payload)
      (tcpAt payload) = some 0 := by
  have header := whole.header
  have offset := whole.offset
  have total := whole.total
  have inside := whole.inside
  have count := segmentCount_eq payload (whole_order whole)
  have start : ipAt payload + 20 ≤ tcpAt payload := by unfold tcpAt; omega
  have room : 20 ≤ segmentCount payload (ipAt payload) := by
    rw [count]
    unfold optionsAt tcpAt at offset
    omega
  have fits : tcpAt payload + segmentCount payload (ipAt payload) ≤ payload.length := by
    rcases whole_segment whole with none | fits
    · omega
    · exact fits
  have protocol : 0 < byteAt (withMss payload (tcpAt payload) mssopt clampMss) (ipAt payload + 9) := by
    rw [withMss_same _ _ _ _ _ (by omega) (by omega) (by omega) (by omega), tcp.protocol]
    decide
  have low : byteAt (withMss payload (tcpAt payload) mssopt clampMss) (tcpAt payload + 16) = 0 := by
    unfold withMss
    rw [byteAt_set_ne _ _ _ _ (by omega), byteAt_set_same _ _ _ (by simp; omega)]
    rfl
  have high : byteAt (withMss payload (tcpAt payload) mssopt clampMss) (tcpAt payload + 17) = 0 := by
    unfold withMss
    rw [byteAt_set_same _ _ _ (by simp; omega)]
    rfl
  have restored := checksum_restored (withMss payload (tcpAt payload) mssopt clampMss) (ipAt payload) (tcpAt payload)
    (segmentCount payload (ipAt payload)) start (by omega) (Nat.mod_lt _ (by decide))
    (by rw [withMss_length]; exact fits) protocol low high
  rw [computeTCPChecksum_eq _ _ _ (by rw [storedMss_length]; omega), (stored_places clampMss whole place).2.2.2,
    storedMss_length, if_pos (Or.inr fits)]
  exact congrArg some restored

theorem stored_valid (whole : SegmentWhole payload opts) (place : tcpAt payload + 20 ≤ mssopt)
    (valid : ValidSyn payload) :
    ValidSyn (storedMss payload (ipAt payload) (tcpAt payload) mssopt clampMss) := by
  have field := stored_field clampMss place
  have header := whole.header
  have start : ipAt payload + 20 ≤ tcpAt payload := by unfold tcpAt; omega
  obtain ⟨ip, tcpHdr, -, -⟩ := stored_places clampMss whole place
  obtain ⟨⟨tcp, syn⟩, -⟩ := valid
  refine ⟨⟨⟨?_, ?_, ?_, ?_, ?_⟩, ?_⟩, ?_⟩
  · unfold IsIpv4
    rw [field 0 (by omega), field 1 (by omega)]
    exact tcp.ipv4
  · rw [ip, storedMss_length]
    exact tcp.long
  · rw [ip, field _ (by omega)]
    exact tcp.version
  · rw [ip, field _ (by omega), field _ (by omega)]
    exact tcp.first
  · rw [ip, field _ (by omega)]
    exact tcp.protocol
  · rw [tcpHdr, field _ (by omega)]
    exact syn
  · rw [ip, tcpHdr]
    exact stored_checksum clampMss whole tcp place

theorem clampMSS_stored (formed : WellFormed payload opts) (valid : ValidSyn payload)
    (first : opts.find? (isMss payload) = some mssopt)
    (length : byteAt payload (mssopt + 1) = 4) (range : clampMss < 65536) :
    clampMSS (storedMss payload (ipAt payload) (tcpAt payload) mssopt clampMss) clampMss =
      some (storedMss payload (ipAt payload) (tcpAt payload) mssopt clampMss) := by
  have whole := formed.segment valid.1.1
  have flags := whole_flags whole
  have inside := whole.inside
  have total := whole.total
  have place := mss_inside whole first length
  have field := stored_field clampMss place.1
  have same := storedMss_same payload (ipAt payload) (tcpAt payload) mssopt clampMss
  have size := storedMss_length payload (ipAt payload) (tcpAt payload) mssopt clampMss
  have value := storedMss_value payload (ipAt payload) (tcpAt payload) mssopt clampMss place.1 (by omega) range
  obtain ⟨ip, tcpHdr, -, -⟩ := stored_places clampMss whole place.1
  have again := stored_valid clampMss whole place.1 valid
  generalize stored : storedMss payload (ipAt payload) (tcpAt payload) mssopt clampMss = result at *
  have fieldInside : FieldInside result := by
    refine ⟨by rw [size]; exact formed.field.1, fun zero => ?_⟩
    rw [field 0 (by omega)] at zero
    rw [size]
    exact formed.field.2 zero
  have start : optionsAt result = optionsAt payload := by
    unfold optionsAt
    rw [tcpHdr]
  have ends : optionsEnd result = optionsEnd payload := by
    unfold optionsEnd
    rw [tcpHdr, field _ (by omega)]
  have walk : findMss payload (optionsEnd payload) (optionsEnd payload - optionsAt payload) (optionsAt payload) = some
    (some mssopt) := by
    rw [findMss_whole payload (optionsEnd payload) (optionsAt payload) _ opts whole.options (by omega) (by omega)]
    simp [walkResult, first, length]
  have found := findMss_agrees payload mssopt result (optionsEnd payload) _ (optionsAt payload) walk
    fun i after before =>
    readByte_same payload result i size (same i (by omega) (by omega) (by unfold optionsAt at after; omega)
      (by unfold optionsAt at after; omega))
  rw [clampMSS_options result clampMss fieldInside again (by rw [tcpHdr, size]; omega),
    clampOptions_walked result clampMss (by rw [tcpHdr, size]; omega) (some mssopt) (by rw [start, ends]; exact found)
      (by intro other is; cases is; rw [size]; omega)]
  exact if_pos (by omega)

end Again

theorem clampMSS_correct (payload : List UInt8) (opts : List Nat) (clampMss : Nat) (formed : WellFormed payload opts)
    (range : clampMss < 65536) : ClampRight payload opts clampMss := by
  have changed (mssopt : Nat) (valid : ValidSyn payload) (first : opts.find? (isMss payload) = some mssopt)
      (above : MssAbove payload clampMss mssopt) :
      clampMSS payload clampMss = some (storedMss payload (ipAt payload) (tcpAt payload) mssopt clampMss) := by
    have walked : walkResult payload opts = some mssopt := by simp [walkResult, first, above.1]
    rw [clampMSS_valid formed clampMss valid, walked]
    exact congrArg some (if_neg (Nat.not_le.mpr above.2))
  have unchanged (low : ¬ (ValidSyn payload ∧ ∃ mssopt ∈ opts.find? (isMss payload),
    MssAbove payload clampMss mssopt)) :
      clampMSS payload clampMss = some payload := by
    by_cases valid : ValidSyn payload
    swap
    · exact clampMSS_invalid formed clampMss valid
    rw [clampMSS_valid formed clampMss valid]
    rcases found : walkResult payload opts with _ | mssopt
    · rfl
    · obtain ⟨first, length⟩ := walkResult_mem found
      exact congrArg some (if_pos (Nat.not_lt.mp fun above => low ⟨valid, mssopt, first, length, above⟩))
  refine ⟨fun mssopt valid first above => ⟨_, changed mssopt valid first above, ?_⟩, unchanged, ?_⟩
  · have whole := formed.segment valid.1.1
    have inside := whole.inside
    have place := mss_inside whole first above.1
    obtain ⟨ip, tcpHdr, -, -⟩ := stored_places clampMss whole place.1
    refine ⟨storedMss_length _ _ _ _ _, storedMss_same _ _ _ _ _, storedMss_value _ _ _ _ _ place.1 (by omega) range,
      ?_⟩
    rw [ip, tcpHdr]
    exact stored_checksum clampMss whole valid.1.1 place.1
  · by_cases above : ValidSyn payload ∧ ∃ mssopt ∈ opts.find? (isMss payload), MssAbove payload clampMss mssopt
    · obtain ⟨valid, mssopt, first, above⟩ := above
      rw [changed mssopt valid first above]
      exact clampMSS_stored clampMss formed valid first above.1 range
    · rw [unchanged above]
      exact unchanged above

def syn1460 : List UInt8 :=
  [33, 69, 0, 0, 45, 0, 0, 0, 0, 64, 6, 0, 0, 10, 0, 0, 1, 10, 0, 0, 2, 4, 1, 0, 80, 0, 0, 0, 1, 0, 0, 0, 0, 96, 2, 32,
    0, 254, 208, 0, 0,
    2, 4, 5, 180, 97]

theorem syn1460_formed : WellFormed syn1460 [41] where
  field := by decide
  segment _ := ⟨by decide, by decide, by decide, by decide, .option 41 [] (by decide) (by decide) (by decide) .done⟩

theorem clampMSS_correct_syn1460 : ClampRight syn1460 [41] 1400 :=
    clampMSS_correct syn1460 [41] 1400 syn1460_formed (by decide)

def synTwice : List UInt8 :=
  [33, 69, 0, 0, 48, 0, 0, 0, 0, 64, 6, 0, 0, 10, 0, 0, 1, 10, 0, 0, 2, 4, 1, 0, 80, 0, 0, 0, 1, 0, 0, 0, 0, 112, 2, 32,
    0, 73, 226, 0, 0,
    2, 4, 3, 232, 2, 4, 5, 180]

theorem second_mss_kept :
    WellFormed synTwice [41, 45] ∧ ValidSyn synTwice ∧
      (∃ mssopt ∈ [41, 45], isMss synTwice mssopt ∧ MssAbove synTwice 1400 mssopt) ∧
      clampMSS synTwice 1400 = some synTwice := by
  refine ⟨⟨by decide, fun _ => ⟨by decide, by decide, by decide, by decide,
    .option 41 [45] (by decide) (by decide) (by decide) (.option 45 [] (by decide) (by decide) (by decide) .done)⟩⟩, ?_,
      ?_, ?_⟩
  · exact ⟨⟨⟨Or.inl (by decide), by decide, by decide, by decide, by decide⟩, by decide⟩, by decide +kernel⟩
  · exact ⟨45, by decide, by decide, by decide, by decide⟩
  · decide +kernel

end ZyAgf.Pppoe.Clamp
