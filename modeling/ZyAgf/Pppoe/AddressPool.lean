import ZyAgf.Pppoe.Packet

set_option autoImplicit false

namespace ZyAgf.Pppoe.AddressPool

def maxLine : Nat := 512

-- A line with its newline, or as much of it as there is room for.
def fgets (text : List UInt8) : Option (List UInt8 × List UInt8) :=
  if text.isEmpty then none
  else
    let n := min (maxLine - 1) ((text.takeWhile (· != 10)).length + 1)
    some (text.take n, text.drop n)

-- What the loop reads, one buffer after the other, each as far as sscanf sees it.
def linesFrom : Nat → List UInt8 → List (List UInt8)
  | 0, _ => []
  | fuel + 1, text =>
      match fgets text with
      | none => []
      | some (line, rest) => line.takeWhile (· != 0) :: linesFrom fuel rest

def lines (text : List UInt8) : List (List UInt8) := linesFrom text.length text

inductive Directive where
  | unsigned
  | literal (c : UInt8)

def isSpace (c : UInt8) : Bool := c == 32 || (9 ≤ c && c ≤ 13)

def isDigit (c : UInt8) : Bool := 48 ≤ c && c ≤ 57

-- The number of %u: white space, a sign, and digits, as strtoul reads them into
-- 64 bits and the conversion keeps 32.
def strtoul (negative : Bool) (digits : List UInt8) : Nat :=
  let value := digits.foldl (fun value c => value * 10 + (c.toNat - 48)) 0
  if 2 ^ 64 ≤ value then 2 ^ 64 - 1
  else if negative then (2 ^ 64 - value) % 2 ^ 64
  else value

def scanUnsigned (text : List UInt8) : Option (Nat × List UInt8) :=
  let text := text.dropWhile isSpace
  let signed := text.head? == some 43 || text.head? == some 45
  let body := if signed then text.drop 1 else text
  let digits := body.takeWhile isDigit
  if digits.isEmpty then none
  else some (strtoul (text.head? == some 45) digits % 2 ^ 32, body.dropWhile isDigit)

def sscanf : List Directive → List UInt8 → List Nat
  | [], _ => []
  | .literal _ :: _, [] => []
  | .literal c :: rest, b :: text => if b = c then sscanf rest text else []
  | .unsigned :: rest, text =>
      match scanUnsigned text with
      | none => []
      | some (value, after) => value :: sscanf rest after

def quadFormat : List Directive :=
  [.unsigned, .literal 46, .unsigned, .literal 46, .unsigned, .literal 46, .unsigned]

def localRemoteFormat : List Directive := quadFormat ++ [.literal 58] ++ quadFormat

def rangeFormat : List Directive := quadFormat ++ [.literal 45, .unsigned]

abbrev IpAddr := UInt8 × UInt8 × UInt8 × UInt8

def ipAddr (a b c d : Nat) : IpAddr := (UInt8.ofNat a, UInt8.ofNat b, UInt8.ofNat c, UInt8.ofNat d)

-- What is installed in a slot: the remote address, and the local one if the line
-- has both.
structure Entry where
  myip : Option IpAddr
  peerip : IpAddr
deriving DecidableEq, Repr

-- The count so far, an int, and the slots written so far with what was written.
structure Pool where
  numAddrs : Int
  writes : List (Int × Entry)
deriving DecidableEq

inductive Stop where
  | fatal
  | undefined
deriving DecidableEq, Repr

-- The increment of an int that is at its largest has no meaning.
def Pool.increment (pool : Pool) : Except Stop Pool :=
  if pool.numAddrs = 2 ^ 31 - 1 then .error .undefined else .ok { pool with numAddrs := pool.numAddrs + 1 }

def Pool.write (pool : Pool) (install : Bool) (entry : Entry) : Pool :=
  if install then { pool with writes := pool.writes ++ [(pool.numAddrs, entry)] } else pool

-- An unsigned sum is kept modulo 2^32 and converted back to an int.
def Pool.add (pool : Pool) (n : Nat) : Pool := { pool with numAddrs := Int.bmod (pool.numAddrs + n) (2 ^ 32) }

-- The loop over the last byte. Both bounds are bytes, so it takes at most 256
-- rounds.
def fillRange (a b c e : Nat) : Nat → Nat → Pool → Except Stop Pool
  | 0, _, pool => .ok pool
  | fuel + 1, d, pool =>
      if d ≤ e then do
        let next ← (pool.write true ⟨none, ipAddr a b c d⟩).increment
        fillRange a b c e fuel (d + 1) next
      else .ok pool

def bytes (values : List Nat) : Bool := values.all (· < 256)

-- The three kinds of lines, tried in this order. Any other line is skipped.
inductive Kind where
  | both (a b c d e f g h : Nat)
  | range (a b c d e : Nat)
  | remote (a b c d : Nat)
  | other
deriving DecidableEq, Repr

def scanRemote (line : List UInt8) : Kind :=
  match sscanf quadFormat line with
  | [a, b, c, d] => if bytes [a, b, c, d] then .remote a b c d else .other
  | _ => .other

def scanRange (line : List UInt8) : Kind :=
  match sscanf rangeFormat line with
  | [a, b, c, d, e] => if bytes [a, b, c, d, e] then .range a b c d e else scanRemote line
  | _ => scanRemote line

def scanLine (line : List UInt8) : Kind :=
  match sscanf localRemoteFormat line with
  | [a, b, c, d, e, f, g, h] => if bytes [a, b, c, d, e, f, g, h] then .both a b c d e f g h else scanRange line
  | _ => scanRange line

def parseLine (install : Bool) (pool : Pool) (line : List UInt8) : Except Stop Pool :=
  match scanLine line with
  | .both a b c d e f g h => (pool.write install ⟨some (ipAddr a b c d), ipAddr e f g h⟩).increment
  | .range a b c d e =>
      let (d, e) := if e < d then (e, d) else (d, e)
      if install then fillRange a b c e 256 d pool else .ok (pool.add (e - d + 1))
  | .remote a b c d => (pool.write install ⟨none, ipAddr a b c d⟩).increment
  | .other => .ok pool

def parseAddressPool (file : List UInt8) (install : Bool) : Except Stop Pool := do
  let pool ← (lines file).foldlM (parseLine install) ⟨0, []⟩
  if pool.numAddrs = 0 then .error .fatal else .ok pool

-- The addresses that a line stands for. A range goes from the smaller to the
-- larger last byte.
def entriesOf (line : List UInt8) : List Entry :=
  match scanLine line with
  | .both a b c d e f g h => [⟨some (ipAddr a b c d), ipAddr e f g h⟩]
  | .range a b c d e => (List.range' (min d e) (max d e + 1 - min d e)).map fun last => ⟨none, ipAddr a b c last⟩
  | .remote a b c d => [⟨none, ipAddr a b c d⟩]
  | .other => []

def poolEntries (file : List UInt8) : List Entry := (lines file).flatMap entriesOf

def slots (entries : List Entry) : List (Int × Entry) := entries.zipIdx.map fun entry => ((entry.2 : Int), entry.1)

-- Both passes find the addresses of the file, or none; the second fills that many
-- slots, one after the other, and stays among those that the first one counted.
structure PassesAgree (file : List UInt8) : Prop where
  counts : parseAddressPool file false = if poolEntries file = [] then .error .fatal else .ok
    ⟨(poolEntries file).length, []⟩
  installs : parseAddressPool file true =
    if poolEntries file = [] then .error .fatal else .ok ⟨(poolEntries file).length, slots (poolEntries file)⟩
  inside : ∀ counted installed, parseAddressPool file false = .ok counted → parseAddressPool file true = .ok installed →
    ∀ write ∈ installed.writes, 0 ≤ write.1 ∧ write.1 < counted.numAddrs

section Filling

theorem slots_append (entries : List Entry) (entry : Entry) :
    slots (entries ++ [entry]) = slots entries ++ [((entries.length : Int), entry)] := by
  simp [slots, List.zipIdx_append]

-- The pool after these entries: as many are counted, and the installing pass has
-- written them in order.
structure Filled (install : Bool) (pool : Pool) (entries : List Entry) : Prop where
  counted : pool.numAddrs = entries.length
  written : pool.writes = if install then slots entries else []

theorem filled_increment (install : Bool) (pool : Pool) (entries : List Entry) (filled : Filled install pool entries)
    (entry : Entry)
    (small : entries.length + 1 < 2 ^ 31) :
    ∃ next, (pool.write install entry).increment = .ok next ∧ Filled install next (entries ++ [entry]) := by
  have counted := filled.counted
  have written := filled.written
  have count : (pool.write install entry).numAddrs = entries.length := by
    unfold Pool.write
    split <;> exact counted
  unfold Pool.increment
  rw [if_neg (by omega)]
  refine ⟨_, rfl, ?_, ?_⟩
  · simp [count]
  · unfold Pool.write
    cases install with
    | false => simpa using written
    | true =>
        simp only [if_true] at written ⊢
        rw [written, counted, slots_append]

theorem fillRange_filled (a b c e fuel d : Nat) (pool : Pool) (entries : List Entry) (filled : Filled true pool entries)
    (enough : e + 1 - d ≤ fuel) (small : entries.length + (e + 1 - d) < 2 ^ 31) :
    ∃ next, fillRange a b c e fuel d pool = .ok next ∧
      Filled true next (entries ++ (List.range' d (e + 1 - d)).map fun last => ⟨none, ipAddr a b c last⟩) := by
  induction fuel generalizing d pool entries with
  | zero =>
      have none_ : e + 1 - d = 0 := by omega
      rw [none_]
      exact ⟨pool, rfl, by simpa using filled⟩
  | succ fuel ih =>
      unfold fillRange
      by_cases more : d ≤ e
      · obtain ⟨next, wrote, after⟩ := filled_increment true pool entries filled ⟨none, ipAddr a b c d⟩ (by omega)
        have longer : (entries ++ [⟨none, ipAddr a b c d⟩] : List Entry).length = entries.length + 1 := by simp
        obtain ⟨last, ran, all⟩ := ih (d + 1) next _ after (by omega) (by omega)
        have steps : e + 1 - d = e + 1 - (d + 1) + 1 := by omega
        rw [if_pos more, wrote]
        refine ⟨last, ran, ?_⟩
        rw [steps, List.range'_succ, List.map_cons]
        simpa using all
      · have none_ : e + 1 - d = 0 := by omega
        rw [if_neg more, none_]
        exact ⟨pool, rfl, by simpa using filled⟩

theorem filled_add (pool : Pool) (entries more : List Entry) (filled : Filled false pool entries)
    (small : entries.length + more.length < 2 ^ 31) : Filled false (pool.add more.length) (entries ++ more) := by
  have counted := filled.counted
  constructor
  · unfold Pool.add
    rw [counted, List.length_append]
    dsimp only
    rw [Int.bmod_eq_of_le (by omega) (by omega)]
    rfl
  · exact filled.written

theorem scanLine_range (line : List UInt8) (a b c d e : Nat) (scanned : scanLine line = .range a b c d e) : d < 256 ∧
    e < 256 := by
  have ofRange : scanRange line = .range a b c d e := by
    unfold scanLine at scanned
    split at scanned
    · split at scanned
      · cases scanned
      · exact scanned
    · exact scanned
  unfold scanRange at ofRange
  split at ofRange
  · split at ofRange
    next small =>
      obtain ⟨rfl, rfl, rfl, rfl, rfl⟩ := Kind.range.inj ofRange
      simp only [bytes, List.all_cons, List.all_nil, Bool.and_eq_true, decide_eq_true_eq] at small
      exact ⟨small.2.2.2.1, small.2.2.2.2.1⟩
    next =>
      unfold scanRemote at ofRange
      split at ofRange
      · split at ofRange <;> cases ofRange
      · cases ofRange
  · unfold scanRemote at ofRange
    split at ofRange
    · split at ofRange <;> cases ofRange
    · cases ofRange

theorem parseLine_filled (install : Bool) (pool : Pool) (entries : List Entry) (filled : Filled install pool entries)
    (line : List UInt8) (small : entries.length + (entriesOf line).length < 2 ^ 31) :
    ∃ next, parseLine install pool line = .ok next ∧ Filled install next (entries ++ entriesOf line) := by
  unfold parseLine
  unfold entriesOf at small ⊢
  cases scanned : scanLine line with
  | both a b c d e f g h =>
      rw [scanned] at small
      exact filled_increment install pool entries filled _ small
  | remote a b c d =>
      rw [scanned] at small
      exact filled_increment install pool entries filled _ small
  | other => exact ⟨pool, rfl, by simpa using filled⟩
  | range a b c d e =>
      rw [scanned] at small
      obtain ⟨dSmall, eSmall⟩ := scanLine_range line a b c d e scanned
      -- The bounds are swapped if need be, so the first one is the smaller.
      have ordered : (if e < d then (e, d) else (d, e)) = (min d e, max d e) := by
        split
        · rw [Nat.min_eq_right (by omega), Nat.max_eq_left (by omega)]
        · rw [Nat.min_eq_left (by omega), Nat.max_eq_right (by omega)]
      dsimp only at small ⊢
      rw [List.length_map, List.length_range'] at small
      rw [ordered]
      cases install with
      | true => exact fillRange_filled a b c (max d e) 256 (min d e) pool entries filled (by omega) small
      | false =>
          refine ⟨_, rfl, ?_⟩
          have size : max d e - min d e + 1 =
              ((List.range' (min d e) (max d e + 1 - min d e)).map fun last =>
                (⟨none, ipAddr a b c last⟩ : Entry)).length := by
            rw [List.length_map, List.length_range']
            omega
          dsimp only
          rw [size]
          exact filled_add pool entries _ filled (by rw [List.length_map, List.length_range']; exact small)

theorem parseLines_filled (install : Bool) (read : List (List UInt8)) (pool : Pool) (entries : List Entry)
    (filled : Filled install pool entries) (small : entries.length + (read.flatMap entriesOf).length < 2 ^ 31) :
    ∃ next, read.foldlM (parseLine install) pool = .ok next ∧
      Filled install next (entries ++ read.flatMap entriesOf) := by
  induction read generalizing pool entries with
  | nil => exact ⟨pool, rfl, by simpa using filled⟩
  | cons line rest ih =>
      rw [List.flatMap_cons, List.length_append] at small
      obtain ⟨next, parsed, after⟩ := parseLine_filled install pool entries filled line (by omega)
      obtain ⟨last, ran, all⟩ := ih next _ after (by rw [List.length_append]; omega)
      refine ⟨last, ?_, ?_⟩
      · rw [List.foldlM_cons, parsed]
        exact ran
      · rw [List.flatMap_cons, ← List.append_assoc]
        exact all

end Filling

section Bounds

theorem add_int (pool : Pool) (n : Nat) : (pool.add n).numAddrs < 2 ^ 31 := by
  have bound := @Int.bmod_lt (pool.numAddrs + n) (2 ^ 32) (by decide)
  unfold Pool.add
  dsimp only
  omega

theorem parseLine_int (pool next : Pool) (line : List UInt8) (parsed : parseLine false pool line = .ok next)
    (int : pool.numAddrs < 2 ^ 31) :
    next.numAddrs < 2 ^ 31 := by
  have increments (ran : pool.increment = .ok next) : next.numAddrs < 2 ^ 31 := by
    unfold Pool.increment at ran
    split at ran
    · cases ran
    · obtain rfl := Except.ok.inj ran
      dsimp only
      omega
  unfold parseLine at parsed
  split at parsed
  · exact increments parsed
  · obtain rfl := Except.ok.inj parsed
    exact add_int pool _
  · exact increments parsed
  · obtain rfl := Except.ok.inj parsed
    exact int

theorem parseLines_int (read : List (List UInt8)) (pool last : Pool)
    (parsed : read.foldlM (parseLine false) pool = .ok last)
    (int : pool.numAddrs < 2 ^ 31) : last.numAddrs < 2 ^ 31 := by
  induction read generalizing pool with
  | nil =>
      obtain rfl := Except.ok.inj parsed
      exact int
  | cons line rest ih =>
      rw [List.foldlM_cons] at parsed
      cases first : parseLine false pool line with
      | error stop =>
          rw [first] at parsed
          cases parsed
      | ok next =>
          rw [first] at parsed
          exact ih next parsed (parseLine_int pool next line first int)

end Bounds

theorem parseAddressPool_filled (file : List UInt8) (install : Bool) (small : (poolEntries file).length < 2 ^ 31) :
    parseAddressPool file install = if poolEntries file = [] then .error .fatal
      else .ok ⟨(poolEntries file).length, if install then slots (poolEntries file) else []⟩ := by
  obtain ⟨⟨numAddrs, writes⟩, ran, filled⟩ := parseLines_filled install (lines file) ⟨0, []⟩ []
    ⟨rfl, by cases install <;> rfl⟩ (by simpa [poolEntries] using small)
  obtain ⟨counted, written⟩ := filled
  rw [List.nil_append] at counted written
  change numAddrs = (poolEntries file).length at counted
  change writes = if install then slots (poolEntries file) else [] at written
  unfold parseAddressPool
  rw [ran]
  change (if numAddrs = 0 then Except.error Stop.fatal else Except.ok (Pool.mk numAddrs writes)) = _
  have empty : numAddrs = 0 ↔ poolEntries file = [] := by
    rw [counted, ← List.length_eq_zero_iff]
    omega
  rw [counted, written]
  rw [counted] at empty
  simp only [empty]

theorem slots_inside (entries : List Entry) (write : Int × Entry) (member : write ∈ slots entries) :
    0 ≤ write.1 ∧ write.1 < entries.length := by
  obtain ⟨⟨entry, index⟩, numbered, rfl⟩ := List.mem_map.mp member
  have bound := (List.mem_zipIdx numbered).2.1
  dsimp only
  omega

-- For every file, whatever its lines are like.
theorem passes_agree_iff (file : List UInt8) : PassesAgree file ↔ (poolEntries file).length < 2 ^ 31 := by
  constructor
  · intro agree
    have counts := agree.counts
    by_cases empty : poolEntries file = []
    · rw [empty]
      decide
    · rw [if_neg empty] at counts
      unfold parseAddressPool at counts
      cases ran : (lines file).foldlM (parseLine false) ⟨0, []⟩ with
      | error stop =>
          rw [ran] at counts
          cases counts
      | ok last =>
          have int := parseLines_int (lines file) ⟨0, []⟩ last ran (by decide)
          rw [ran] at counts
          change (if last.numAddrs = 0 then Except.error Stop.fatal else .ok last) = _ at counts
          split at counts
          · cases counts
          · rw [Except.ok.inj counts] at int
            dsimp only at int
            omega
  · intro small
    have counts := parseAddressPool_filled file false small
    have installs := parseAddressPool_filled file true small
    refine ⟨by simpa using counts, by simpa using installs, ?_⟩
    intro counted installed first second write member
    rw [counts] at first
    rw [installs] at second
    by_cases empty : poolEntries file = []
    · rw [if_pos empty] at first
      cases first
    · rw [if_neg empty] at first second
      rw [← Except.ok.inj first]
      rw [← Except.ok.inj second] at member
      exact slots_inside _ write member

section Overflow

def rangeLine : List UInt8 := "0.0.0.0-255\n".toList.map fun c => UInt8.ofNat c.toNat

def hugePool : List UInt8 := (List.replicate (2 ^ 24 + 1) rangeLine).flatten

theorem fgets_rangeLine (rest : List UInt8) : fgets (rangeLine ++ rest) = some (rangeLine, rest) := rfl

theorem linesFrom_replicate (count fuel : Nat) (enough : count ≤ fuel) :
    linesFrom fuel (List.replicate count rangeLine).flatten = List.replicate count rangeLine := by
  induction count generalizing fuel with
  | zero => cases fuel <;> rfl
  | succ count ih =>
      cases fuel with
      | zero => omega
      | succ fuel =>
          have whole : rangeLine.takeWhile (· != 0) = rangeLine := by decide
          rw [List.replicate_succ, List.flatten_cons, linesFrom, fgets_rangeLine]
          dsimp only
          rw [ih fuel (by omega), whole]

theorem replicate_long (count : Nat) : count ≤ (List.replicate count rangeLine).flatten.length := by
  induction count with
  | zero => exact Nat.zero_le _
  | succ count ih =>
      have size : rangeLine.length = 12 := by decide
      rw [List.replicate_succ, List.flatten_cons, List.length_append, size]
      omega

theorem lines_replicate (count : Nat) : lines (List.replicate count rangeLine).flatten = List.replicate count
    rangeLine := by
  unfold lines
  exact linesFrom_replicate count _ (replicate_long count)

theorem scanLine_rangeLine : scanLine rangeLine = .range 0 0 0 0 255 := by
  decide

theorem count_replicate (count : Nat) (n : Int) :
    (List.replicate count rangeLine).foldlM (parseLine false) ⟨Int.bmod n (2 ^ 32), []⟩ =
      .ok ⟨Int.bmod (n + 256 * count) (2 ^ 32), []⟩ := by
  induction count generalizing n with
  | zero =>
      rw [show n + 256 * ((0 : Nat) : Int) = n by omega]
      rfl
  | succ count ih =>
      have parsed : parseLine false ⟨Int.bmod n (2 ^ 32), []⟩ rangeLine = .ok ⟨Int.bmod (n + 256) (2 ^ 32), []⟩ := by
        unfold parseLine Pool.add
        rw [scanLine_rangeLine]
        simp [Int.bmod_add_bmod]
      have rounds : n + 256 * ((count + 1 : Nat) : Int) = n + 256 + 256 * count := by omega
      rw [List.replicate_succ, List.foldlM_cons, parsed, rounds]
      exact ih (n + 256)

theorem entries_replicate (count : Nat) : ((List.replicate count rangeLine).flatMap entriesOf).length = 256 *
    count := by
  induction count with
  | zero => rfl
  | succ count ih =>
      have entries : (entriesOf rangeLine).length = 256 := by
        unfold entriesOf
        rw [scanLine_rangeLine]
        simp
      rw [List.replicate_succ, List.flatMap_cons, List.length_append, entries, ih]
      omega

-- The first pass counts 256 addresses in a file of 2^32 + 256.
theorem hugePool_miscounted : parseAddressPool hugePool false = .ok ⟨256, []⟩ ∧
    (poolEntries hugePool).length = 2 ^ 32 + 256 ∧
    ¬ PassesAgree hugePool := by
  have counted : parseAddressPool hugePool false = .ok ⟨256, []⟩ := by
    have ran := count_replicate (2 ^ 24 + 1) 0
    have wrapped : Int.bmod (0 + 256 * ((2 ^ 24 + 1 : Nat) : Int)) (2 ^ 32) = 256 := by decide
    rw [wrapped] at ran
    unfold parseAddressPool hugePool
    rw [lines_replicate]
    rw [show Int.bmod 0 (2 ^ 32) = 0 by decide] at ran
    rw [ran]
    rfl
  have size : (poolEntries hugePool).length = 2 ^ 32 + 256 := by
    have counts : (poolEntries hugePool).length = 256 * (2 ^ 24 + 1) := by
      unfold poolEntries hugePool
      rw [lines_replicate, entries_replicate]
    omega
  refine ⟨counted, size, fun agree => ?_⟩
  have counts := agree.counts
  have some_ : poolEntries hugePool ≠ [] := by
    intro empty
    rw [empty] at size
    cases size
  rw [counted, if_neg some_, size] at counts
  have same := (Pool.mk.inj (Except.ok.inj counts)).1
  omega

end Overflow

end ZyAgf.Pppoe.AddressPool
