import Mathlib.Algebra.Group.Int.Defs
import Mathlib.Algebra.Group.Nat.Defs
import ZyAgf.Library.Blocks
import ZyAgf.Md5.Transform

set_option autoImplicit false

namespace ZyAgf.Md5

-- How the machine keeps a word in memory.
inductive Endian where
  | little | big
deriving DecidableEq, Repr

def lowFirst (b₀ b₁ b₂ b₃ : UInt8) : UInt32 :=
  ((b₃.toUInt32 <<< 8 ||| b₂.toUInt32) <<< 16) ||| (b₁.toUInt32 <<< 8 ||| b₀.toUInt32)

def lowBytes (w : UInt32) : List UInt8 := [w.toUInt8, (w >>> 8).toUInt8, (w >>> 16).toUInt8, (w >>> 24).toUInt8]

def Endian.word : Endian → UInt8 → UInt8 → UInt8 → UInt8 → UInt32
  | .little, b₀, b₁, b₂, b₃ => lowFirst b₀ b₁ b₂ b₃
  | .big, b₀, b₁, b₂, b₃ => lowFirst b₃ b₂ b₁ b₀

def Endian.bytes : Endian → UInt32 → List UInt8
  | .little, w => lowBytes w
  | .big, w => (lowBytes w).reverse

def Endian.words (m : Endian) : List UInt8 → List UInt32
  | b₀ :: b₁ :: b₂ :: b₃ :: rest => m.word b₀ b₁ b₂ b₃ :: m.words rest
  | _ => []

def byteReverse (m : Endian) : List UInt8 → Nat → List UInt8
  | b₀ :: b₁ :: b₂ :: b₃ :: rest, longs + 1 => m.bytes (lowFirst b₀ b₁ b₂ b₃) ++ byteReverse m rest longs
  | bytes, _ => bytes

theorem joined_toNat (high low : UInt32) (count : Nat) (short : count < 32) (fits : high.toNat * 2 ^ count < 2 ^ 32)
    (below : low.toNat < 2 ^ count) :
    (high <<< UInt32.ofNat count ||| low).toNat = high.toNat * 2 ^ count + low.toNat := by
  have shifted : (high <<< UInt32.ofNat count).toNat = high.toNat <<< count := by
    rw [UInt32.toNat_shiftLeft, UInt32.toNat_ofNat_of_lt' (Nat.lt_trans short (by decide)), Nat.mod_eq_of_lt short,
      Nat.shiftLeft_eq,
      Nat.mod_eq_of_lt fits]
  rw [UInt32.toNat_or, shifted, ← Nat.shiftLeft_add_eq_or_of_lt below, Nat.shiftLeft_eq]

theorem lowFirst_toNat (b₀ b₁ b₂ b₃ : UInt8) :
    (lowFirst b₀ b₁ b₂ b₃).toNat = b₀.toNat + 256 * b₁.toNat + 65536 * b₂.toNat + 16777216 * b₃.toNat := by
  have bound₀ := b₀.toNat_lt
  have bound₁ := b₁.toNat_lt
  have bound₂ := b₂.toNat_lt
  have bound₃ := b₃.toNat_lt
  have pair (high low : UInt8) : (high.toUInt32 <<< 8 ||| low.toUInt32).toNat = high.toNat * 2 ^ 8 + low.toNat := by
    have bound := high.toNat_lt
    have bound' := low.toNat_lt
    have joined := joined_toNat high.toUInt32 low.toUInt32 8 (by decide)
    rw [UInt8.toNat_toUInt32, UInt8.toNat_toUInt32] at joined
    exact joined (by omega) (by omega)
  have upper := pair b₃ b₂
  have lower := pair b₁ b₀
  have whole := joined_toNat (b₃.toUInt32 <<< 8 ||| b₂.toUInt32) (b₁.toUInt32 <<< 8 ||| b₀.toUInt32) 16 (by decide)
    (by rw [upper]; omega) (by rw [lower]; omega)
  unfold lowFirst
  rw [show (16 : UInt32) = UInt32.ofNat 16 from rfl, whole, upper, lower]
  omega

theorem lowBytes_toNat (w : UInt32) : (lowBytes w).map UInt8.toNat =
    [w.toNat % 256, w.toNat / 256 % 256, w.toNat / 65536 % 256, w.toNat / 16777216 % 256] := by
  simp [lowBytes, Nat.shiftRight_eq_div_pow]

theorem lowFirst_lowBytes (w : UInt32) :
    lowFirst w.toUInt8 (w >>> 8).toUInt8 (w >>> 16).toUInt8 (w >>> 24).toUInt8 = w := by
  have parts := lowBytes_toNat w
  have bound := w.toNat_lt
  simp only [lowBytes, List.map_cons, List.map_nil, List.cons.injEq, and_true] at parts
  obtain ⟨first, second, third, fourth⟩ := parts
  apply UInt32.toNat_inj.mp
  rw [lowFirst_toNat, first, second, third, fourth]
  omega

theorem lowBytes_lowFirst (b₀ b₁ b₂ b₃ : UInt8) : lowBytes (lowFirst b₀ b₁ b₂ b₃) = [b₀, b₁, b₂, b₃] := by
  have bound₀ := b₀.toNat_lt
  have bound₁ := b₁.toNat_lt
  have bound₂ := b₂.toNat_lt
  have bound₃ := b₃.toNat_lt
  apply List.map_injective_iff.mpr (fun _ _ same => UInt8.toNat_inj.mp same)
  rw [lowBytes_toNat, lowFirst_toNat]
  simp only [List.map_cons, List.map_nil, List.cons.injEq, and_true]
  refine ⟨?_, ?_, ?_, ?_⟩ <;> omega

theorem bytes_length (m : Endian) (w : UInt32) : (m.bytes w).length = 4 := by
  cases m <;> rfl

theorem words_bytes (m : Endian) (w : UInt32) (rest : List UInt8) : m.words
    (m.bytes w ++ rest) = w :: m.words rest := by
  cases m with
  | little => exact congrArg (fun word => word :: Endian.little.words rest) (lowFirst_lowBytes w)
  | big => exact congrArg (fun word => word :: Endian.big.words rest) (lowFirst_lowBytes w)

theorem four_more (bytes : List UInt8) (count : Nat) (length : bytes.length = 4 * (count + 1)) :
    ∃ b₀ b₁ b₂ b₃ rest, bytes = b₀ :: b₁ :: b₂ :: b₃ :: rest ∧ rest.length = 4 * count := by
  obtain _ | ⟨b₀, _ | ⟨b₁, _ | ⟨b₂, _ | ⟨b₃, rest⟩⟩⟩⟩ := bytes
  all_goals simp only [List.length_nil, List.length_cons] at length
  all_goals first | omega | skip
  exact ⟨b₀, b₁, b₂, b₃, rest, rfl, by omega⟩

theorem words_append (m : Endian) (count : Nat) (front back : List UInt8) (length : front.length = 4 * count) :
    m.words (front ++ back) = m.words front ++ m.words back := by
  induction count generalizing front with
  | zero =>
      obtain rfl := List.length_eq_zero_iff.mp length
      rfl
  | succ count ih =>
      obtain ⟨b₀, b₁, b₂, b₃, rest, rfl, left⟩ := four_more front count length
      exact congrArg (fun words => m.word b₀ b₁ b₂ b₃ :: words) (ih rest left)

theorem byteReverse_append (m : Endian) (count : Nat) (front back : List UInt8) (length : front.length = 4 * count) :
    byteReverse m (front ++ back) count = byteReverse m front count ++ back := by
  induction count generalizing front with
  | zero =>
      obtain rfl := List.length_eq_zero_iff.mp length
      rcases back with _ | ⟨_, _ | ⟨_, _ | ⟨_, _ | ⟨_, _⟩⟩⟩⟩ <;> rfl
  | succ count ih =>
      obtain ⟨b₀, b₁, b₂, b₃, rest, rfl, left⟩ := four_more front count length
      unfold byteReverse
      exact (congrArg (fun bytes => m.bytes (lowFirst b₀ b₁ b₂ b₃) ++ bytes) (ih rest left)).trans
        (List.append_assoc _ _ _).symm

theorem byteReverse_length (m : Endian) (bytes : List UInt8) (longs : Nat) :
    (byteReverse m bytes longs).length = bytes.length := by
  fun_induction byteReverse m bytes longs with
  | case1 longs b₀ b₁ b₂ b₃ rest ih =>
      rw [List.length_append, bytes_length, ih]
      simp only [List.length_cons]
      omega
  | case2 => rfl

theorem byteReverse_words (m : Endian) (count : Nat) (bytes : List UInt8) (length : bytes.length = 4 * count) :
    m.words (byteReverse m bytes count) = Endian.little.words bytes := by
  induction count generalizing bytes with
  | zero =>
      obtain rfl := List.length_eq_zero_iff.mp length
      rfl
  | succ count ih =>
      obtain ⟨b₀, b₁, b₂, b₃, rest, rfl, left⟩ := four_more bytes count length
      unfold byteReverse
      rw [words_bytes, ih rest left]
      rfl

theorem byteReverse_bytes (m : Endian) (words : List UInt32) :
    byteReverse m (words.flatMap m.bytes) words.length = words.flatMap lowBytes := by
  have swapped (w : UInt32) (rest : List UInt8) (longs : Nat) :
      byteReverse m (m.bytes w ++ rest) (longs + 1) = lowBytes w ++ byteReverse m rest longs := by
    cases m with
    | little => exact congrArg (fun word => lowBytes word ++ byteReverse .little rest longs) (lowFirst_lowBytes w)
    | big =>
        exact congrArg (fun bytes => bytes.reverse ++ byteReverse .big rest longs) (lowBytes_lowFirst _ _ _ _)
  induction words with
  | nil => rfl
  | cons w words ih =>
      rw [List.flatMap_cons, List.length_cons, swapped, ih, List.flatMap_cons]

structure MD5Context where
  buf : Vector UInt32 4
  bits : Vector UInt32 2
  input : Vector UInt8 64
deriving DecidableEq, Repr

def md5Init (input : Vector UInt8 64) : MD5Context :=
    ⟨#v[0x67452301, 0xefcdab89, 0x98badcfe, 0x10325476], #v[0, 0], input⟩

def store (input : Vector UInt8 64) (offset : Nat) (bytes : List UInt8) : Option (Vector UInt8 64) :=
  if fits : offset + bytes.length ≤ 64 then
    some ⟨(input.toList.take offset ++ bytes ++ input.toList.drop (offset + bytes.length)).toArray, by simp; omega⟩
  else none

def MD5Context.reversed (m : Endian) (ctx : MD5Context) (longs : Nat) : MD5Context :=
  { ctx with input := ⟨(byteReverse m ctx.input.toList longs).toArray, by simp [byteReverse_length]⟩ }

def wordsOf (m : Endian) (input : List UInt8) : Vector UInt32 16 := Vector.ofFn fun i => (m.words input).getD i 0

def MD5Context.transformed (m : Endian) (ctx : MD5Context) : MD5Context :=
  { ctx with buf := md5Transform ctx.buf (wordsOf m ctx.input.toList) }

def md5Blocks (m : Endian) : Nat → MD5Context → List UInt8 → Option MD5Context
  | 0, _, _ => none
  | fuel + 1, ctx, buf =>
      if 64 ≤ buf.length then do
        let input ← store ctx.input 0 (buf.take 64)
        md5Blocks m fuel (({ ctx with input := input }.reversed m 16).transformed m) (buf.drop 64)
      else do
        let input ← store ctx.input 0 buf
        return { ctx with input := input }

-- A buffer whose length is an unsigned int.
abbrev Chunk := { bytes : List UInt8 // bytes.length < 2 ^ 32 }

def MD5Context.counted (ctx : MD5Context) (len : UInt32) : MD5Context :=
  let t := ctx.bits[0]
  let low := t + (len <<< 3)
  let high := if low < t then ctx.bits[1] + 1 else ctx.bits[1]
  { ctx with bits := #v[low, high + (len >>> 29)] }

def md5Update (m : Endian) (ctx : MD5Context) (chunk : Chunk) : Option MD5Context :=
  let len := UInt32.ofNat chunk.val.length
  let t := (ctx.bits[0] >>> 3) &&& 0x3f
  let ctx := ctx.counted len
  if t ≠ 0 then
    let left := 64 - t
    if len < left then do
      let input ← store ctx.input t.toNat chunk.val
      return { ctx with input := input }
    else do
      let input ← store ctx.input t.toNat (chunk.val.take left.toNat)
      md5Blocks m (chunk.val.length + 1) (({ ctx with input := input }.reversed m 16).transformed m)
        (chunk.val.drop left.toNat)
  else md5Blocks m (chunk.val.length + 1) ctx chunk.val

def digestBytes (m : Endian) (buf : Vector UInt32 4) : Vector UInt8 16 :=
  ⟨(byteReverse m (buf.toList.flatMap m.bytes) 4).toArray, by simp [byteReverse_length, bytes_length]⟩

def cleared : MD5Context := ⟨Vector.replicate 4 0, Vector.replicate 2 0, Vector.replicate 64 0⟩

-- The padding up to the count of bits, which may take a block of its own.
def MD5Context.padded (m : Endian) (ctx : MD5Context) : Option MD5Context :=
  let count := ((ctx.bits[0] >>> 3) &&& 0x3f).toNat
  let left := 64 - 1 - count
  do
    let input ← store ctx.input count [0x80]
    if left < 8 then do
      let input ← store input (count + 1) (List.replicate left 0)
      let ctx := ({ ctx with input := input }.reversed m 16).transformed m
      let input ← store ctx.input 0 (List.replicate 56 0)
      return { ctx with input := input }
    else do
      let input ← store input (count + 1) (List.replicate (left - 8) 0)
      return { ctx with input := input }

def MD5Context.finished (m : Endian) (ctx : MD5Context) : Option (Vector UInt8 16 × MD5Context) := do
  let ctx := ctx.reversed m 14
  let input ← store ctx.input 56 (m.bytes ctx.bits[0])
  let input ← store input 60 (m.bytes ctx.bits[1])
  let ctx := { ctx with input := input }.transformed m
  return (digestBytes m ctx.buf, cleared)

def md5Final (m : Endian) (ctx : MD5Context) : Option (Vector UInt8 16 × MD5Context) := do
  let ctx ← ctx.padded m
  ctx.finished m

-- The digest of a message given in pieces, as every caller asks for it.
def digest (m : Endian) (input : Vector UInt8 64) (chunks : List Chunk) : Option (Vector UInt8 16) := do
  let ctx ← chunks.foldlM (md5Update m) (md5Init input)
  let (result, _) ← md5Final m ctx
  return result

-- What it is to be: the message with its padding and its length, block by block.
def initial : Vector UInt32 4 := #v[0x67452301, 0xefcdab89, 0x98badcfe, 0x10325476]

def block (buf : Vector UInt32 4) (bytes : List UInt8) : Vector UInt32 4 := compress buf (wordsOf .little bytes)

def zeros (count : Nat) : List UInt8 := List.replicate count 0

def lengthBytes (length : Nat) : List UInt8 :=
  lowBytes (UInt32.ofNat (8 * length)) ++ lowBytes (UInt32.ofNat (8 * length / 2 ^ 32))

def padding (length : Nat) : List UInt8 := 0x80 :: zeros ((119 - length % 64) % 64) ++ lengthBytes length

def outputBytes (buf : Vector UInt32 4) : List UInt8 := buf.toList.flatMap lowBytes

def md5 (message : List UInt8) : Vector UInt8 16 :=
  let buf := (absorb 64 block initial (message ++ padding message.length)).1
  ⟨(outputBytes buf).toArray, by simp [outputBytes, lowBytes]⟩

-- The count of bits in two words.
structure Counts (ctx : MD5Context) (length : Nat) : Prop where
  low : ctx.bits[0] = UInt32.ofNat (8 * length)
  high : ctx.bits[1] = UInt32.ofNat (8 * length / 2 ^ 32)

theorem counts_place (ctx : MD5Context) (length : Nat) (counts : Counts ctx length) :
    ((ctx.bits[0] >>> 3) &&& 0x3f).toNat = length % 64 := by
  rw [counts.low, UInt32.toNat_and, UInt32.toNat_shiftRight, UInt32.toNat_ofNat']
  have masked := Nat.and_two_pow_sub_one_eq_mod ((8 * length % 2 ^ 32) >>> 3) 6
  have mask : (0x3f : UInt32).toNat = 2 ^ 6 - 1 := rfl
  have three : (3 : UInt32).toNat % 32 = 3 := rfl
  rw [mask, three, masked, Nat.shiftRight_eq_div_pow]
  omega

theorem counts_left (ctx : MD5Context) (length : Nat) (counts : Counts ctx length) :
    ((64 : UInt32) - ((ctx.bits[0] >>> 3) &&& 0x3f)).toNat = 64 - length % 64 := by
  have place := counts_place ctx length counts
  have inside : length % 64 < 64 := Nat.mod_lt _ (by decide)
  have least : (ctx.bits[0] >>> 3) &&& 0x3f ≤ 64 :=
    UInt32.le_iff_toNat_le.mpr (by rw [place]; exact Nat.le_of_lt inside)
  rw [UInt32.toNat_sub_of_le _ _ least, place]
  rfl

theorem counted_low (ctx : MD5Context) (len : UInt32) : (ctx.counted len).bits[0] = ctx.bits[0] + (len <<< 3) := rfl

theorem counted_high (ctx : MD5Context) (len : UInt32) : (ctx.counted len).bits[1] =
    (if ctx.bits[0] + (len <<< 3) < ctx.bits[0] then ctx.bits[1] + 1 else ctx.bits[1]) + (len >>> 29) := rfl

end ZyAgf.Md5
