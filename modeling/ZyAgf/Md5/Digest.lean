import ZyAgf.Md5.Context
import ZyAgf.Pppoe.Server
import ZyAgf.Xl2tpd.Aaa

set_option autoImplicit false

namespace ZyAgf.Md5

theorem store_fits (input : Vector UInt8 64) (offset : Nat) (bytes : List UInt8) (fits : offset + bytes.length ≤ 64) :
    ∃ stored, store input offset bytes = some stored ∧
      stored.toList = input.toList.take offset ++ bytes ++ input.toList.drop (offset + bytes.length) := by
  unfold store
  rw [dif_pos fits]
  exact ⟨_, rfl, rfl⟩

theorem wordsOf_reversed (m : Endian) (bytes : List UInt8) (whole : bytes.length = 64) :
    wordsOf m (byteReverse m bytes 16) = wordsOf .little bytes := by
  unfold wordsOf
  rw [byteReverse_words m 16 bytes whole]

theorem reversed_toList (m : Endian) (ctx : MD5Context) (longs : Nat) :
    (ctx.reversed m longs).input.toList = byteReverse m ctx.input.toList longs := rfl

theorem transformed_block (m : Endian) (ctx : MD5Context) :
    ((ctx.reversed m 16).transformed m).buf = block ctx.buf ctx.input.toList := by
  unfold MD5Context.transformed block
  dsimp only
  rw [reversed_toList, wordsOf_reversed m _ ctx.input.length_toList, md5Transform_compress]
  rfl

theorem wordsOf_last (m : Endian) (bytes : List UInt8) (low high : UInt32) (length : bytes.length = 56) :
    wordsOf m (byteReverse m bytes 14 ++ m.bytes low ++ m.bytes high) =
      wordsOf .little (bytes ++ lowBytes low ++ lowBytes high) := by
  have bare (e : Endian) : e.words (e.bytes low ++ e.bytes high) = [low, high] := by
    rw [words_bytes]
    exact congrArg (fun words => low :: words)
      ((congrArg e.words (List.append_nil _).symm).trans (words_bytes e high []))
  have front : (byteReverse m bytes 14).length = 4 * 14 := by rw [byteReverse_length, length]
  have plain := bare .little
  unfold wordsOf
  rw [List.append_assoc, List.append_assoc, words_append m 14 _ _ front, byteReverse_words m 14 _ length, bare m,
    words_append .little 14 _ _ length]
  exact congrArg (fun words => Vector.ofFn fun i : Fin 16 => (Endian.little.words bytes ++ words).getD i 0) plain.symm

theorem counts_counted (ctx : MD5Context) (length : Nat) (counts : Counts ctx length) (chunk : Chunk) :
    Counts (ctx.counted (UInt32.ofNat chunk.val.length)) (length + chunk.val.length) := by
  obtain ⟨bytes, short⟩ := chunk
  dsimp only
  have len : (UInt32.ofNat bytes.length).toNat = bytes.length := UInt32.toNat_ofNat_of_lt' short
  have shifted : (UInt32.ofNat bytes.length <<< 3).toNat = 8 * bytes.length % 2 ^ 32 := by
    rw [UInt32.toNat_shiftLeft, len, Nat.shiftLeft_eq]
    exact congrArg (· % 2 ^ 32) (Nat.mul_comm _ _)
  have carried : (UInt32.ofNat bytes.length >>> 29).toNat = bytes.length / 2 ^ 29 := by
    rw [UInt32.toNat_shiftRight, len, Nat.shiftRight_eq_div_pow]
    rfl
  have sum : (UInt32.ofNat (8 * length) + (UInt32.ofNat bytes.length <<< 3)).toNat =
      (8 * length % 2 ^ 32 + 8 * bytes.length % 2 ^ 32) % 2 ^ 32 := by
    rw [UInt32.toNat_add, UInt32.toNat_ofNat', shifted]
  constructor
  · apply UInt32.toNat_inj.mp
    rw [counted_low, counts.low, sum, UInt32.toNat_ofNat']
    omega
  · apply UInt32.toNat_inj.mp
    rw [counted_high, counts.low, counts.high, UInt32.toNat_add, carried, UInt32.toNat_ofNat']
    by_cases carry : UInt32.ofNat (8 * length) + (UInt32.ofNat bytes.length <<< 3) < UInt32.ofNat (8 * length)
    · rw [if_pos carry, UInt32.toNat_add, UInt32.toNat_ofNat']
      have below := UInt32.lt_iff_toNat_lt.mp carry
      rw [sum, UInt32.toNat_ofNat'] at below
      have one : (1 : UInt32).toNat = 1 := rfl
      rw [one]
      omega
    · rw [if_neg carry, UInt32.toNat_ofNat']
      have above := mt UInt32.lt_iff_toNat_lt.mpr carry
      rw [sum, UInt32.toNat_ofNat'] at above
      omega

theorem stored_front (input : Vector UInt8 64) (bytes : List UInt8) (fits : bytes.length ≤ 64) :
    ∃ stored, store input 0 bytes = some stored ∧ stored.toList.take bytes.length = bytes := by
  obtain ⟨stored, copied, held⟩ := store_fits input 0 bytes (by omega)
  refine ⟨stored, copied, ?_⟩
  rw [held, List.take_zero, List.nil_append]
  exact List.take_left' rfl

theorem md5Blocks_absorb (m : Endian) (fuel : Nat) (ctx : MD5Context) (buf : List UInt8) (enough : buf.length < fuel) :
    ∃ after, md5Blocks m fuel ctx buf = some after ∧ after.buf = (absorb 64 block ctx.buf buf).1 ∧
      after.bits = ctx.bits ∧
      after.input.toList.take (buf.length % 64) = (absorb 64 block ctx.buf buf).2 := by
  induction fuel generalizing ctx buf with
  | zero => exact absurd enough (Nat.not_lt_zero _)
  | succ fuel ih =>
      unfold md5Blocks
      rcases absorb_cases 64 buf with short | ⟨first, rest, rfl, whole⟩
      · obtain ⟨stored, copied, held⟩ := stored_front ctx.input buf (by omega)
        rw [if_neg (by omega), copied, absorb_short 64 block ctx.buf buf short, Nat.mod_eq_of_lt short]
        exact ⟨{ ctx with input := stored }, rfl, rfl, rfl, held⟩
      · have length : (first ++ rest).length = 64 + rest.length := by rw [List.length_append, whole]
        obtain ⟨stored, copied, held⟩ := stored_front ctx.input first (by omega)
        rw [whole, List.take_of_length_le (Nat.le_of_eq stored.length_toList)] at held
        rw [if_pos (by omega), List.take_left' whole, List.drop_left' whole, copied,
          absorb_block 64 block (by decide) ctx.buf first rest whole, length, Nat.add_mod_left]
        have made := transformed_block m { ctx with input := stored }
        rw [held] at made
        obtain ⟨after, ran, buf, bits, waiting⟩ :=
          ih ((({ ctx with input := stored } : MD5Context).reversed m 16).transformed m) rest (by omega)
        rw [made] at buf waiting
        exact ⟨after, ran, buf, bits, waiting⟩

-- What the context holds after these bytes.
structure Holds (ctx : MD5Context) (bytes : List UInt8) : Prop where
  buf : ctx.buf = (absorb 64 block initial bytes).1
  waiting : ctx.input.toList.take (bytes.length % 64) = (absorb 64 block initial bytes).2
  counts : Counts ctx bytes.length

theorem md5Init_holds (input : Vector UInt8 64) : Holds (md5Init input) [] where
  buf := rfl
  waiting := rfl
  counts := ⟨rfl, rfl⟩

theorem Holds.goesOn {ctx : MD5Context} {bytes : List UInt8} (holds : Holds ctx bytes) (m : Endian) (fuel : Nat)
    (chunk : Chunk)
    (before : MD5Context) (rest : List UInt8) (enough : rest.length < fuel)
    (bits : before.bits = (ctx.counted (UInt32.ofNat chunk.val.length)).bits)
    (length : rest.length % 64 = (bytes ++ chunk.val).length % 64)
    (left : absorb 64 block initial (bytes ++ chunk.val) = absorb 64 block before.buf rest) :
    ∃ after, md5Blocks m fuel before rest = some after ∧ Holds after (bytes ++ chunk.val) := by
  obtain ⟨after, ran, made, kept, waiting⟩ := md5Blocks_absorb m fuel before rest enough
  rw [← left] at made waiting
  rw [length] at waiting
  have counts := counts_counted ctx bytes.length holds.counts chunk
  rw [← List.length_append] at counts
  refine ⟨after, ran, made, waiting, ?_, ?_⟩
  · rw [kept, bits]
    exact counts.low
  · rw [kept, bits]
    exact counts.high

theorem md5Update_holds (m : Endian) (ctx : MD5Context) (bytes : List UInt8) (holds : Holds ctx bytes) (chunk : Chunk) :
    ∃ after, md5Update m ctx chunk = some after ∧ Holds after (bytes ++ chunk.val) := by
  have place := counts_place ctx bytes.length holds.counts
  have len : (UInt32.ofNat chunk.val.length).toNat = chunk.val.length := UInt32.toNat_ofNat_of_lt' chunk.property
  have split := absorb_append 64 block (by decide) initial bytes chunk.val
  have total : (bytes ++ chunk.val).length = bytes.length + chunk.val.length := List.length_append
  have waits : (absorb 64 block initial bytes).2.length = bytes.length % 64 :=
    absorb_rest 64 block (by decide) initial bytes
  rw [← holds.buf, ← holds.waiting] at split
  unfold md5Update
  dsimp only
  by_cases begun : (ctx.bits[0] >>> 3) &&& 0x3f ≠ 0
  · rw [if_pos begun]
    have left := counts_left ctx bytes.length holds.counts
    have inside : bytes.length % 64 < 64 := Nat.mod_lt _ (by decide)
    by_cases short : UInt32.ofNat chunk.val.length < (64 : UInt32) - ((ctx.bits[0] >>> 3) &&& 0x3f)
    · have fits := UInt32.lt_iff_toNat_lt.mp short
      rw [len, left] at fits
      obtain ⟨stored, copied, held⟩ :=
        store_fits (ctx.counted (UInt32.ofNat chunk.val.length)).input (bytes.length % 64) chunk.val (by omega)
      have waiting : (ctx.input.toList.take (bytes.length % 64)).length = bytes.length % 64 := by
        rw [holds.waiting, waits]
      have count : (bytes ++ chunk.val).length % 64 =
        (ctx.input.toList.take (bytes.length % 64) ++ chunk.val).length := by
        rw [total, List.length_append, waiting]
        omega
      rw [absorb_short 64 block ctx.buf _ (by rw [List.length_append, waiting]; omega)] at split
      have counts := counts_counted ctx bytes.length holds.counts chunk
      rw [if_pos short, place, copied]
      refine ⟨_, rfl, ?_, ?_, ?_⟩
      · rw [split]
        rfl
      · rw [split, count]
        exact (congrArg (List.take _) held).trans (List.take_left' rfl)
      · rw [total]
        exact ⟨counts.low, counts.high⟩
    · have enough := mt UInt32.lt_iff_toNat_lt.mpr short
      rw [len, left] at enough
      have filled : (chunk.val.take (64 - bytes.length % 64)).length = 64 - bytes.length % 64 := by
        rw [List.length_take]; omega
      obtain ⟨stored, copied, held⟩ := store_fits (ctx.counted (UInt32.ofNat chunk.val.length)).input
        (bytes.length % 64)
        (chunk.val.take (64 - bytes.length % 64)) (by omega)
      have whole : stored.toList = ctx.input.toList.take (bytes.length % 64) ++ chunk.val.take
        (64 - bytes.length % 64) := by
        rw [held, List.drop_eq_nil_of_le (by rw [Vector.length_toList, filled]; omega), List.append_nil]
        rfl
      have made := transformed_block m { ctx.counted (UInt32.ofNat chunk.val.length) with input := stored }
      have rest : (chunk.val.drop (64 - bytes.length % 64)).length = chunk.val.length - (64 - bytes.length % 64) :=
        List.length_drop
      rw [if_neg short, place, left, copied]
      refine holds.goesOn m _ chunk _ (chunk.val.drop (64 - bytes.length % 64)) (by omega) rfl (by omega) ?_
      have cut : ctx.input.toList.take (bytes.length % 64) ++ chunk.val =
          stored.toList ++ chunk.val.drop (64 - bytes.length % 64) := by
        rw [whole, List.append_assoc, List.take_append_drop]
      rw [split, cut, absorb_block 64 block (by decide) ctx.buf stored.toList _ stored.length_toList, made]
      rfl
  · rw [if_neg begun]
    have none : bytes.length % 64 = 0 := by rw [← place, not_not.mp begun]; rfl
    rw [none, List.take_zero, List.nil_append] at split
    exact holds.goesOn m _ chunk _ chunk.val (by omega) rfl (by omega) split

theorem chunks_hold (m : Endian) (chunks : List Chunk) (ctx : MD5Context) (bytes : List UInt8)
    (holds : Holds ctx bytes) :
    ∃ after, chunks.foldlM (md5Update m) ctx = some after ∧ Holds after (bytes ++ chunks.flatMap Subtype.val) := by
  induction chunks generalizing ctx bytes with
  | nil => exact ⟨ctx, rfl, by rw [List.flatMap_nil, List.append_nil]; exact holds⟩
  | cons chunk chunks ih =>
      obtain ⟨next, updated, holds'⟩ := md5Update_holds m ctx bytes holds chunk
      obtain ⟨after, ran, final⟩ := ih next (bytes ++ chunk.val) holds'
      rw [List.foldlM_cons, updated, List.flatMap_cons, ← List.append_assoc]
      exact ⟨after, ran, final⟩

theorem last_block (m : Endian) (ctx : MD5Context) (front : List UInt8) (length : front.length = 56)
    (held : ctx.input.toList.take 56 = front) :
    ∃ lower upper, store (ctx.reversed m 14).input 56 (m.bytes ctx.bits[0]) = some lower ∧
      store lower 60 (m.bytes ctx.bits[1]) = some upper ∧
      (({ ctx with input := upper } : MD5Context).transformed m).buf =
        block ctx.buf (front ++ lowBytes ctx.bits[0] ++ lowBytes ctx.bits[1]) := by
  have fits (w : UInt32) : (m.bytes w).length = 4 := bytes_length m w
  obtain ⟨lower, copied, first⟩ := store_fits (ctx.reversed m 14).input 56 (m.bytes ctx.bits[0]) (by rw [fits]; decide)
  obtain ⟨upper, copied', second⟩ := store_fits lower 60 (m.bytes ctx.bits[1]) (Nat.le_of_eq (by rw [fits]))
  have cut : byteReverse m ctx.input.toList 14 = byteReverse m front 14 ++ ctx.input.toList.drop 56 := by
    have whole := List.take_append_drop 56 ctx.input.toList
    rw [held] at whole
    rw [← whole, byteReverse_append m 14 front _ length, whole]
  have turned : (byteReverse m front 14).length = 56 := by rw [byteReverse_length, length]
  have lowerFront : lower.toList.take 60 = byteReverse m front 14 ++ m.bytes ctx.bits[0] := by
    rw [first, reversed_toList, cut, List.take_left' turned]
    exact List.take_left' (by rw [List.length_append, turned, fits])
  have all : upper.toList = byteReverse m front 14 ++ m.bytes ctx.bits[0] ++ m.bytes ctx.bits[1] := by
    rw [second, lowerFront, List.drop_eq_nil_of_le (Nat.le_of_eq (by rw [Vector.length_toList, fits])), List.append_nil]
  refine ⟨lower, upper, copied, copied', ?_⟩
  unfold MD5Context.transformed block
  dsimp only
  rw [all, wordsOf_last m front _ _ length, md5Transform_compress]

theorem digestBytes_output (m : Endian) (buf : Vector UInt32 4) : (digestBytes m buf).toList = outputBytes buf := by
  have turned := byteReverse_bytes m buf.toList
  rw [buf.length_toList] at turned
  exact turned

theorem zeros_length (count : Nat) : (zeros count).length = count := List.length_replicate

theorem lengthBytes_length (length : Nat) : (lengthBytes length).length = 8 := rfl

theorem stored_zeros (input : Vector UInt8 64) (offset count : Nat) (fits : offset + count ≤ 64) :
    ∃ stored, store input offset (List.replicate count 0) = some stored ∧
      stored.toList.take (offset + count) = input.toList.take offset ++ zeros count := by
  obtain ⟨stored, copied, held⟩ := store_fits input offset (zeros count) (by rw [zeros_length]; exact fits)
  refine ⟨stored, copied, ?_⟩
  rw [held]
  exact List.take_left' (by rw [List.length_append, List.length_take, zeros_length, Vector.length_toList]; omega)

theorem zeros_add (front back : Nat) : zeros (front + back) = zeros front ++ zeros back :=
    List.replicate_append_replicate.symm

theorem absorb_whole (buf : Vector UInt32 4) (bytes : List UInt8) (whole : bytes.length = 64) :
    absorb 64 block buf bytes = (block buf bytes, []) := by
  have first := absorb_block 64 block (by decide) buf bytes [] whole
  rw [List.append_nil] at first
  exact first

theorem padded_holds (m : Endian) (ctx : MD5Context) (bytes : List UInt8) (holds : Holds ctx bytes) :
    ∃ after, ctx.padded m = some after ∧ after.bits = ctx.bits ∧
      (absorb 64 block initial (bytes ++ padding bytes.length)).1 =
        block after.buf (after.input.toList.take 56 ++ lengthBytes bytes.length) := by
  have place := counts_place ctx bytes.length holds.counts
  have inside : bytes.length % 64 < 64 := Nat.mod_lt _ (by decide)
  have waiting : (ctx.input.toList.take (bytes.length % 64)).length = bytes.length % 64 := by
    rw [List.length_take, Vector.length_toList]
    omega
  have split := absorb_append 64 block (by decide) initial bytes (padding bytes.length)
  rw [← holds.buf, ← holds.waiting] at split
  obtain ⟨marked, copied, held⟩ := store_fits ctx.input (bytes.length % 64) [0x80]
    (by rw [List.length_singleton]; omega)
  have front : marked.toList.take (bytes.length % 64 + 1) = ctx.input.toList.take (bytes.length % 64) ++ [0x80] := by
    rw [held]
    exact List.take_left' (by rw [List.length_append, waiting, List.length_singleton])
  unfold MD5Context.padded
  dsimp only
  rw [place, copied, split]
  dsimp only [Option.bind_eq_bind, Option.bind_some]
  by_cases crowded : 64 - 1 - bytes.length % 64 < 8
  · obtain ⟨full, copied', taken⟩ := stored_zeros marked (bytes.length % 64 + 1) (64 - 1 - bytes.length % 64) (by omega)
    obtain ⟨after, copied'', blank⟩ := stored_zeros
      ((({ ctx with input := full } : MD5Context).reversed m 16).transformed m).input 0 56 (by decide)
    have made := transformed_block m { ctx with input := full }
    have whole : full.toList = ctx.input.toList.take (bytes.length % 64) ++ [0x80] ++ zeros
      (64 - 1 - bytes.length % 64) := by
      rw [front, List.take_of_length_le (by rw [Vector.length_toList]; omega)] at taken
      exact taken
    have cut : ctx.input.toList.take (bytes.length % 64) ++ padding bytes.length =
        full.toList ++ (zeros 56 ++ lengthBytes bytes.length) := by
      have count : (119 - bytes.length % 64) % 64 = (64 - 1 - bytes.length % 64) + 56 := by omega
      unfold padding
      rw [whole, count, zeros_add]
      simp only [List.append_assoc, List.cons_append, List.nil_append]
    rw [cut, absorb_block 64 block (by decide) ctx.buf full.toList _ full.length_toList,
      absorb_whole _ _ (by rw [List.length_append, zeros_length, lengthBytes_length]), if_pos crowded, copied',
        Option.bind_some,
      copied'', Option.bind_some]
    refine ⟨{ (({ ctx with input := full } : MD5Context).reversed m 16).transformed m with input := after }, rfl, rfl,
      ?_⟩
    rw [Nat.zero_add, List.take_zero, List.nil_append] at blank
    dsimp only
    rw [blank, made]
  · obtain ⟨full, copied', taken⟩ := stored_zeros marked (bytes.length % 64 + 1) (64 - 1 - bytes.length % 64 - 8)
      (by omega)
    have reached : bytes.length % 64 + 1 + (64 - 1 - bytes.length % 64 - 8) = 56 := by omega
    have cut : ctx.input.toList.take (bytes.length % 64) ++ padding bytes.length =
        full.toList.take 56 ++ lengthBytes bytes.length := by
      have count : (119 - bytes.length % 64) % 64 = 64 - 1 - bytes.length % 64 - 8 := by omega
      unfold padding
      rw [← reached, taken, front, count]
      simp only [List.append_assoc, List.cons_append, List.nil_append]
    have length : (full.toList.take 56 ++ lengthBytes bytes.length).length = 64 := by
      rw [List.length_append, List.length_take, Vector.length_toList, lengthBytes_length]
      rfl
    rw [cut, absorb_whole _ _ length, if_neg crowded, copied']
    exact ⟨{ ctx with input := full }, rfl, rfl, rfl⟩

theorem md5Final_output (m : Endian) (ctx : MD5Context) (bytes : List UInt8) (holds : Holds ctx bytes) :
    md5Final m ctx = some (md5 bytes, cleared) := by
  obtain ⟨after, padded, kept, all⟩ := padded_holds m ctx bytes holds
  obtain ⟨lower, upper, copied, copied', made⟩ := last_block m after (after.input.toList.take 56)
    (by rw [List.length_take, Vector.length_toList]; rfl) rfl
  have bits : lowBytes after.bits[0] ++ lowBytes after.bits[1] = lengthBytes bytes.length := by
    rw [kept, holds.counts.low, holds.counts.high]
    rfl
  rw [List.append_assoc, bits, ← all] at made
  have result : digestBytes m (({ after with input := upper } : MD5Context).transformed m).buf = md5 bytes := by
    apply Vector.toList_inj.mp
    rw [digestBytes_output, made]
    rfl
  have kept' : (after.reversed m 14).bits = after.bits := rfl
  unfold md5Final MD5Context.finished
  dsimp only [Option.bind_eq_bind]
  rw [padded, Option.bind_some, kept', copied, Option.bind_some, copied', Option.bind_some]
  exact congrArg (fun digest => some (digest, cleared)) result

-- Whatever the pieces, the machine and what the array held before.
theorem digest_md5 (m : Endian) (input : Vector UInt8 64) (chunks : List Chunk) :
    digest m input chunks = some (md5 (chunks.flatMap Subtype.val)) := by
  obtain ⟨ctx, ran, holds⟩ := chunks_hold m chunks (md5Init input) [] (md5Init_holds input)
  unfold digest
  rw [ran]
  have final := md5Final_output m ctx _ holds
  rw [List.nil_append] at final
  exact congrArg (fun result => result.bind fun result => some result.1) final

def Chunk.ofVector {n : Nat} (bytes : Vector UInt8 n) (short : n < 2 ^ 32) : Chunk :=
  ⟨bytes.toList, by rw [bytes.length_toList]; exact short⟩

theorem genCookie_digest (m : Endian) (input : Vector UInt8 64) (cfg : Pppoe.Server.Config) (meant : cfg.md5 = md5)
    (peerEthAddr myEthAddr : Pppoe.Mac) :
    (digest m input [Chunk.ofVector peerEthAddr (by decide), Chunk.ofVector myEthAddr (by decide),
      Chunk.ofVector cfg.cookieSeed (by decide)]).map (fun cookie => cookie.toList ++ cfg.pid.toList) =
        some (Pppoe.Server.genCookie cfg peerEthAddr myEthAddr) := by
  rw [digest_md5]
  unfold Pppoe.Server.genCookie
  rw [meant]
  simp only [List.flatMap_cons, List.flatMap_nil, List.append_nil, Chunk.ofVector, List.append_assoc, Option.map_some]

theorem handleChallenge_digest (m : Endian) (input : Vector UInt8 64) (env : Xl2tpd.Env) (meant : env.md5 = md5)
    (ss : UInt8)
    (secret challenge : Chunk) :
    digest m input [⟨[ss], Nat.one_lt_two_pow (by decide)⟩, secret, challenge] = some
      (Xl2tpd.digest env ss secret.val challenge.val) := by
  rw [digest_md5]
  unfold Xl2tpd.digest
  rw [meant]
  simp only [List.flatMap_cons, List.flatMap_nil, List.append_nil, List.cons_append, List.nil_append]

end ZyAgf.Md5
