import ZyAgf.Xl2tpd.Options

set_option autoImplicit false

namespace ZyAgf.Xl2tpd.Options

def quadField (field : CString) : Option Nat :=
  let value := field.foldl (fun value c => value * 10 + (c.toNat - 48)) 0
  if field.all (fun c => 48 ≤ c && c ≤ 57) ∧ 1 ≤ field.length ∧ field.length ≤ 3 ∧ value < 256 then some value else none

def quad (name : CString) : Option Nat :=
  match name.splitOn 46 with
  | [a, b, c, d] => do
      let a ← quadField a
      let b ← quadField b
      let c ← quadField c
      let d ← quadField d
      some (((a * 256 + b) * 256 + c) * 256 + d)
  | _ => none

-- A name read backwards, from the dot on that has n dots before it.
def fromDot : CString → Nat → CString
  | [], _ => []
  | c :: rest, n =>
      if c = 46 then
        match n with
        | 0 => c :: rest
        | n + 1 => fromDot rest n
      else fromDot rest n

def kept (low : CString) (n : Nat) : CString := (fromDot low.reverse n).reverse

-- The name of the end: for a dotted quad and fewer than four fields, the quad with
-- that many of its last fields replaced.
def wantedName (low high : CString) : CString :=
  if (quad low).isSome ∧ high.count 46 < 3 then kept low (high.count 46) ++ high else high

-- The range is appended if its end resolves and does not lie before its start.
def appended (env : Surroundings) (word : CString) (ranges : List IpRange) (start : Nat) (name : CString) : Option
    (List IpRange) :=
  (env.hostAddr 1 name).bind fun stop =>
    if stop < start then none else some (ranges ++ [⟨start, stop, word.head? ≠ some 110⟩])

def wantedRange (env : Surroundings) (word value : CString) (ranges : List IpRange) : Option (List IpRange) :=
  match ends value with
  | (low, none) =>
      if low = [] then none
      else (env.hostAddr 0 low).map fun start => ranges ++ [⟨start, start, word.head? ≠ some 110⟩]
  | (low, some high) =>
      if low = [] ∨ high = [] then none
      else (env.hostAddr 0 low).bind fun start => appended env word ranges start (wantedName low high)

def copies (e : Nat) (high : CString) : Prop := 17 < e ∨ high.length < 17 - e

instance (e : Nat) (high : CString) : Decidable (copies e high) := inferInstanceAs (Decidable (_ ∨ _))

-- The places that set_range writes to with its two strcpy, ip_hi being 1 to 16.
def scratchWrites (env : Surroundings) (value : CString) : List Nat :=
  match ends value with
  | (_, none) => []
  | (low, some high) =>
      if low = [] ∨ high = [] ∨ (env.hostAddr 0 low).isNone ∨ 3 ≤ high.count 46 then []
      else
        let e := lastFields (strcpy env.stack 1 low) 17 (high.count 46)
        List.range' 1 (low.length + 1) ++ if copies e high then List.range' e (high.length + 1) else []

-- For every resolver that knows dotted quads, and whatever the stack holds.
def RangeSyntax (word value : CString) : Prop :=
  ∀ (env : Surroundings) (ranges : List IpRange),
    (∀ n name addr, quad name = some addr → env.hostAddr n name = some addr) →
    (∀ place ∈ scratchWrites env value, 1 ≤ place ∧ place ≤ 16) ∧
      (setRange env word value ranges).toOption = wantedRange env word value ranges

-- Where the last fields of the start begin in ip_hi, or 0 if it has no dot for that.
def spot (low : CString) (n : Nat) : Nat := if kept low n = [] then 0 else 1 + (kept low n).length

-- There is no end, or one of the two is missing, or the end has all its dots; or
-- the start is no dotted quad and fits, and the end has one or two dots and is so
-- long that it is not put behind the first fields of the start.
def EndStandsAlone (value : CString) : Prop :=
  match ends value with
  | (_, none) => True
  | (low, some high) => low = [] ∨ high = [] ∨ 3 ≤ high.count 46 ∨
      (quad low = none ∧ low.length ≤ 15 ∧ 1 ≤ high.count 46 ∧ 17 ≤ spot low (high.count 46) + high.length)

section Quads

theorem quadField_some (field : CString) (n : Nat) (found : quadField field = some n) :
    field.length ≤ 3 ∧ field.count 46 = 0 := by
  unfold quadField at found
  dsimp only at found
  split at found
  next good =>
    refine ⟨good.2.2.1, List.count_eq_zero.mpr fun dot => ?_⟩
    have digit := List.all_eq_true.mp good.1 46 dot
    exact absurd digit (by decide)
  next => cases found

theorem quad_some (name : CString) (addr : Nat) (found : quad name = some addr) : name.count 46 = 3 ∧
    name.length ≤ 15 := by
  unfold quad at found
  split at found
  next a b c d fields =>
    obtain ⟨na, fa, found⟩ := Option.bind_eq_some_iff.mp found
    obtain ⟨nb, fb, found⟩ := Option.bind_eq_some_iff.mp found
    obtain ⟨nc, fc, found⟩ := Option.bind_eq_some_iff.mp found
    obtain ⟨nd, fd, _⟩ := Option.bind_eq_some_iff.mp found
    have whole : name = a ++ 46 :: (b ++ 46 :: (c ++ 46 :: d)) := by
      have joined : [46].intercalate (name.splitOn 46) = name := List.intercalate_splitOn 46
      rw [fields] at joined
      rw [← joined]
      simp [List.intercalate, List.intersperse]
    have ha := quadField_some a na fa
    have hb := quadField_some b nb fb
    have hc := quadField_some c nc fc
    have hd := quadField_some d nd fd
    rw [whole]
    constructor
    · simp only [List.count_append, List.count_cons_self]
      omega
    · simp only [List.length_append, List.length_cons]
      omega
  next => cases found

theorem quad_none (name : CString) (dots : name.count 46 ≠ 3) : quad name = none := by
  cases found : quad name with
  | none => rfl
  | some addr => exact absurd (quad_some name addr found).1 dots

end Quads

section Fields

theorem fromDot_suffix (l : CString) (n : Nat) : fromDot l n <:+ l := by
  induction l generalizing n with
  | nil => exact List.suffix_refl _
  | cons c rest ih =>
      unfold fromDot
      split
      · cases n with
        | zero => exact List.suffix_refl _
        | succ n => exact (ih n).trans (List.suffix_cons c rest)
      · exact (ih n).trans (List.suffix_cons c rest)

theorem fromDot_count (l : CString) (n : Nat) : (fromDot l n).count 46 = l.count 46 - n := by
  induction l generalizing n with
  | nil => simp [fromDot]
  | cons c rest ih =>
      unfold fromDot
      by_cases dot : c = 46
      · rw [if_pos dot, dot, List.count_cons_self]
        cases n with
        | zero => simp
        | succ n =>
            dsimp only
            rw [ih n]
            omega
      · rw [if_neg dot, ih n, List.count_cons_of_ne dot]

theorem fromDot_antitone (l : CString) (m n : Nat) (less : m ≤ n) : (fromDot l n).length ≤ (fromDot l m).length := by
  induction l generalizing m n with
  | nil => exact Nat.le_refl _
  | cons c rest ih =>
      unfold fromDot
      by_cases dot : c = 46
      · rw [if_pos dot, if_pos dot]
        cases m with
        | zero =>
            cases n with
            | zero => exact Nat.le_refl _
            | succ n => exact ((fromDot_suffix rest n).length_le).trans (Nat.le_succ _)
        | succ m =>
            cases n with
            | zero => omega
            | succ n => exact ih m n (by omega)
      · rw [if_neg dot, if_neg dot]
        exact ih m n less

theorem kept_take (low : CString) (n : Nat) : kept low n = low.take (kept low n).length := by
  have before : kept low n <+: low := by
    have suffix := (fromDot_suffix low.reverse n).reverse
    rw [List.reverse_reverse] at suffix
    exact suffix
  exact List.prefix_iff_eq_take.mp before

theorem kept_count (low : CString) (n : Nat) : (kept low n).count 46 = low.count 46 - n := by
  unfold kept
  rw [List.count_reverse, fromDot_count, List.count_reverse]

theorem kept_length (low : CString) (n : Nat) : (kept low n).length ≤ low.length := by
  rw [kept_take, List.length_take]
  exact Nat.min_le_right _ _

theorem spot_antitone (low : CString) (m n : Nat) (less : m ≤ n) : spot low n ≤ spot low m := by
  have shorter : (kept low n).length ≤ (kept low m).length := by
    unfold kept
    rw [List.length_reverse, List.length_reverse]
    exact fromDot_antitone low.reverse m n less
  unfold spot
  by_cases empty : kept low m = []
  · have none_ : kept low n = [] := by
      rw [empty] at shorter
      exact List.eq_nil_of_length_eq_zero (by simpa using shorter)
    rw [if_pos empty, if_pos none_]
  · rw [if_neg empty]
    split <;> omega

theorem spot_le (low : CString) (n : Nat) : spot low n ≤ low.length + 1 := by
  have bound := kept_length low n
  unfold spot
  split <;> omega

theorem kept_snoc_dot (low : CString) : kept (low ++ [46]) 0 = low ++ [46] := by
  simp [kept, fromDot]

theorem kept_snoc_next (low : CString) (n : Nat) : kept (low ++ [46]) (n + 1) = kept low n := by
  simp [kept, fromDot]

theorem kept_snoc_other (low : CString) (c : UInt8) (n : Nat) (other : c ≠ 46) : kept (low ++ [c]) n = kept low n := by
  simp [kept, fromDot, other]

end Fields

section Scan

theorem lastFields_text (memory : Nat → UInt8) (low : CString) (n : Nat)
    (holds : ∀ i, i < low.length → memory (i + 1) = low.getD i 0) : lastFields memory low.length n = spot low n := by
  induction low using List.reverseRecOn generalizing n with
  | nil => simp [lastFields, spot, kept, fromDot]
  | append_singleton low c ih =>
      have here : memory (low.length + 1) = c := by
        rw [holds low.length (by simp)]
        simp
      have before : ∀ i, i < low.length → memory (i + 1) = low.getD i 0 := by
        intro i inside
        rw [holds i (by simp; omega), List.getD_eq_getElem?_getD, List.getD_eq_getElem?_getD,
          List.getElem?_append_left inside]
      rw [List.length_append, List.length_singleton, lastFields, here]
      by_cases dot : c = 46
      · rw [if_pos dot, dot]
        cases n with
        | zero =>
            rw [if_pos (by omega)]
            unfold spot
            rw [kept_snoc_dot, if_neg (by simp)]
            simp
            omega
        | succ n =>
            have one : ((n + 1 : Nat) : Int) - 1 = (n : Int) := by omega
            rw [if_neg (by omega), one, ih n before]
            unfold spot
            rw [kept_snoc_next]
      · rw [if_neg dot]
        rw [if_neg (by omega), ih n before]
        unfold spot
        rw [kept_snoc_other low c n dot]

theorem lastFields_skip (memory : Nat → UInt8) (s more : Nat) (n : Nat)
    (plain : ∀ i, s < i → i ≤ s + more → memory i ≠ 46) :
    lastFields memory (s + more) n = lastFields memory s n := by
  induction more with
  | zero => rfl
  | succ more ih =>
      rw [← Nat.add_assoc, lastFields, if_neg (plain (s + more + 1) (by omega) (by omega))]
      rw [if_neg (by omega)]
      exact ih fun i above below => plain i above (by omega)

theorem lastFields_le (memory : Nat → UInt8) (e : Nat) (count : Int) : lastFields memory e count ≤ e + 1 := by
  induction e generalizing count with
  | zero => simp [lastFields]
  | succ e ih =>
      rw [lastFields]
      generalize (if memory (e + 1) = 46 then count - 1 else count) = left
      split
      · exact Nat.le_refl _
      · exact (ih _).trans (Nat.le_succ _)

theorem lastFields_ge (memory : Nat → UInt8) (low : CString) (n more : Nat) (count : Nat) (fewer : count ≤ n)
    (holds : ∀ i, i < low.length → memory (i + 1) = low.getD i 0) : spot low n ≤ lastFields memory
    (low.length + more) count := by
  induction more generalizing count with
  | zero =>
      rw [Nat.add_zero, lastFields_text memory low count holds]
      exact spot_antitone low count n fewer
  | succ more ih =>
      rw [← Nat.add_assoc, lastFields]
      by_cases dot : memory (low.length + more + 1) = 46
      · rw [if_pos dot]
        cases count with
        | zero =>
            rw [if_pos (by omega)]
            have bound := spot_le low n
            omega
        | succ count =>
            have one : ((count + 1 : Nat) : Int) - 1 = (count : Int) := by omega
            rw [if_neg (by omega), one]
            exact ih count (by omega)
      · rw [if_neg dot]
        rw [if_neg (by omega)]
        exact ih count fewer

theorem strcpy_text (memory : Nat → UInt8) (low : CString) : ∀ i, i < low.length →
    strcpy memory 1 low (i + 1) = low.getD i 0 := by
  intro i inside
  unfold strcpy
  rw [if_neg (by omega), if_pos (by omega), Nat.add_sub_cancel]

theorem strcpy_behind (memory : Nat → UInt8) (start : Nat) (string : CString) (i : Nat)
    (behind : start + string.length < i) :
    strcpy memory start string i = memory i := by
  unfold strcpy
  rw [if_neg (by omega), if_neg (by omega), if_neg (by omega)]

theorem lastFields_clean (stack : Nat → UInt8) (low : CString) (n e : Nat) (fits : low.length ≤ e)
    (clean : ∀ i, low.length + 1 < i → i ≤ e → stack i ≠ 46) : lastFields (strcpy stack 1 low) e n = spot low n := by
  obtain ⟨more, rfl⟩ := Nat.exists_eq_add_of_le fits
  rw [lastFields_skip, lastFields_text _ low n (strcpy_text stack low)]
  intro i above below
  by_cases terminator : i = low.length + 1
  · unfold strcpy
    rw [if_neg (by omega), if_neg (by omega), if_pos (by omega)]
    decide
  · rw [strcpy_behind stack 1 low i (by omega)]
    exact clean i (by omega) below

end Scan

section Names

theorem takeWhile_terminated (bytes : List UInt8) (m : Nat) (string : CString) (front : bytes.take m = string)
    (nonzero : 0 ∉ string)
    (terminator : bytes[m]? = some 0) : bytes.takeWhile (· ≠ 0) = string := by
  have inside : m < bytes.length := by
    by_contra outside
    rw [List.getElem?_eq_none (Nat.le_of_not_lt outside)] at terminator
    cases terminator
  have here : bytes[m] = 0 := Option.some.inj ((List.getElem?_eq_getElem inside).symm.trans terminator)
  rw [← List.take_append_drop m bytes, front, List.drop_eq_getElem_cons inside, here]
  rw [List.takeWhile_append_of_pos]
  · simp
  · intro byte member
    simpa using fun zero : byte = 0 => nonzero (zero ▸ member)

theorem highName_copied (stack : Nat → UInt8) (low high : CString) (k : Nat) (few : high.count 46 < 3)
    (inside : k ≤ low.length)
    (found : lastFields (strcpy stack 1 low) 17 (high.count 46) = 1 + k) (room : copies (1 + k) high)
    (lowText : 0 ∉ low)
    (highText : 0 ∉ high) : highName stack low high = low.take k ++ high := by
  unfold highName
  unfold copies at room
  rw [if_pos few]
  dsimp only
  rw [found, if_pos room]
  refine takeWhile_terminated _ (k + high.length) _ ?_ ?_ ?_
  · refine List.ext_getElem? fun i => ?_
    rw [List.getElem?_take]
    by_cases part : i < k + high.length
    · rw [if_pos part, List.getElem?_map, List.getElem?_range (by omega), Option.map_some]
      unfold strcpy
      by_cases first : i < k
      · rw [if_pos (by omega), if_neg (by omega), if_pos (by omega),
          List.getElem?_append_left (by rw [List.length_take]; omega),
          List.getElem?_take, if_pos first, Nat.add_sub_cancel]
        rw [List.getD_eq_getElem?_getD, List.getElem?_eq_getElem (by omega)]
        rfl
      · rw [if_neg (by omega), if_pos (by omega), List.getElem?_append_right (by rw [List.length_take]; omega),
          List.length_take,
          Nat.min_eq_left inside]
        have offset : i + 1 - (1 + k) = i - k := by omega
        rw [offset, List.getD_eq_getElem?_getD, List.getElem?_eq_getElem (by omega)]
        rfl
    · rw [if_neg part, List.getElem?_eq_none]
      rw [List.length_append, List.length_take]
      omega
  · intro zero
    rcases List.mem_append.mp zero with first | second
    · exact lowText (List.mem_of_mem_take first)
    · exact highText second
  · rw [List.getElem?_map, List.getElem?_range (by omega), Option.map_some]
    unfold strcpy
    rw [if_neg (by omega), if_neg (by omega), if_pos (by omega)]

theorem highName_alone (stack : Nat → UInt8) (low high : CString)
    (away : high.count 46 < 3 → ¬ copies (lastFields (strcpy stack 1 low) 17 (high.count 46)) high) : highName stack low
    high = high := by
  unfold highName
  by_cases few : high.count 46 < 3
  · have stays := away few
    unfold copies at stays
    rw [if_pos few]
    dsimp only
    rw [if_neg stays]
  · rw [if_neg few]

end Names

section Ranges

theorem setRange_single (env : Surroundings) (word value low : CString) (ranges : List IpRange)
    (split : ends value = (low, none)) :
    (setRange env word value ranges).toOption = wantedRange env word value ranges := by
  unfold setRange wantedRange
  rw [split]
  dsimp only
  by_cases empty : low = []
  · rw [if_pos (.inl (by rw [empty]; rfl)), if_pos empty]
    rfl
  · have nonempty : ¬ (low.length = 0 ∨ (none : Option CString) = some []) := by simp [empty]
    rw [if_neg nonempty, if_neg empty]
    cases env.hostAddr 0 low with
    | none => rfl
    | some start => simp [rangeStop, Except.toOption]

theorem setRange_double (env : Surroundings) (word value low high : CString) (ranges : List IpRange)
    (split : ends value = (low, some high)) :
    (setRange env word value ranges).toOption =
      if low = [] ∨ high = [] then none
      else (env.hostAddr 0 low).bind fun start => appended env word ranges start (highName env.stack low high) := by
  unfold setRange
  rw [split]
  dsimp only
  have same : (low.length = 0 ∨ some high = some []) ↔ (low = [] ∨ high = []) := by
    rw [List.length_eq_zero_iff, Option.some.injEq]
  by_cases empty : low = [] ∨ high = []
  · rw [if_pos (same.mpr empty), if_pos empty]
    rfl
  · rw [if_neg (fun bad => empty (same.mp bad)), if_neg empty]
    cases env.hostAddr 0 low with
    | none => rfl
    | some start =>
        dsimp only
        rw [Option.bind_some]
        unfold rangeStop appended
        dsimp only
        cases env.hostAddr 1 (highName env.stack low high) with
        | none => rfl
        | some stop =>
            dsimp only
            rw [Option.bind_some]
            split <;> rfl

theorem wantedRange_double (env : Surroundings) (word value low high : CString) (ranges : List IpRange)
    (split : ends value = (low, some high)) :
    wantedRange env word value ranges =
      if low = [] ∨ high = [] then none
      else (env.hostAddr 0 low).bind fun start => appended env word ranges start (wantedName low high) := by
  unfold wantedRange
  rw [split]

-- A resolver that knows the quads, answers any first question, and says x to the
-- second one if it is about the name given here.
def askedFor (name : CString) (x : Option Nat) (n : Nat) (asked : CString) : Option Nat :=
  match quad asked with
  | some addr => some addr
  | none => if n = 0 then some 0 else if asked = name then x else none

theorem askedFor_quad (name : CString) (x : Option Nat) (n : Nat) (asked : CString) (addr : Nat)
    (known : quad asked = some addr) :
    askedFor name x n asked = some addr := by
  unfold askedFor
  rw [known]

theorem askedFor_first (name : CString) (x : Option Nat) (asked : CString) : askedFor name x 0 asked = some
    ((quad asked).getD 0) := by
  unfold askedFor
  cases quad asked <;> rfl

theorem askedFor_here (name : CString) (x : Option Nat) (free : quad name = none) : askedFor name x 1 name = x := by
  unfold askedFor
  rw [free]
  simp

theorem askedFor_other (name asked : CString) (x y : Option Nat)
    (other : asked ≠ name) : askedFor name x 1 asked = askedFor name y 1 asked := by
  unfold askedFor
  cases quad asked with
  | some addr => rfl
  | none => simp [other]

theorem names_told_apart (stack : Nat → UInt8) (word : CString) (ranges : List IpRange) (low free fixed : CString)
    (other : fixed ≠ free) (notQuad : quad free = none) :
    ∃ env : Surroundings, env.stack = stack ∧ (∀ n name addr, quad name = some addr → env.hostAddr n name = some addr) ∧
      ∃ start, env.hostAddr 0 low = some start ∧ appended env word ranges start free ≠ appended env word ranges start
        fixed := by
  have start := askedFor_first free none low
  by_cases nothing : appended ⟨askedFor free none, stack⟩ word ranges ((quad low).getD 0) fixed = none
  · refine ⟨⟨askedFor free (some ((quad low).getD 0)), stack⟩, rfl, fun n name addr => askedFor_quad free _ n name addr,
      _,
      askedFor_first free _ low, ?_⟩
    have same : appended ⟨askedFor free (some ((quad low).getD 0)), stack⟩ word ranges
      ((quad low).getD 0) fixed = none := by
      rw [← nothing]
      unfold appended
      dsimp only
      rw [askedFor_other free fixed _ none other]
    rw [same]
    unfold appended
    dsimp only
    rw [askedFor_here free _ notQuad, Option.bind_some, if_neg (Nat.lt_irrefl _)]
    exact Option.some_ne_none _
  · refine ⟨⟨askedFor free none, stack⟩, rfl, fun n name addr => askedFor_quad free _ n name addr, _, start, ?_⟩
    intro same
    refine nothing (same.symm.trans ?_)
    unfold appended
    dsimp only
    rw [askedFor_here free _ notQuad]
    rfl

theorem range_wrong (stack : Nat → UInt8) (word value low high : CString) (split : ends value = (low, some high))
    (lowSome : low ≠ [])
    (highSome : high ≠ []) (other : highName stack low high ≠ wantedName low high)
    (free : quad (highName stack low high) = none ∨ quad (wantedName low high) = none) : ¬ RangeSyntax word value := by
  intro claimed
  have neither : ¬ (low = [] ∨ high = []) := by simp [lowSome, highSome]
  have equal : ∀ env : Surroundings, env.stack = stack →
    (∀ n name addr, quad name = some addr → env.hostAddr n name = some addr) →
      ∀ start, env.hostAddr 0 low = some start →
        appended env word [] start (highName stack low high) = appended env word [] start (wantedName low high) := by
    intro env isStack quads start begins
    have result := (claimed env [] quads).2
    rw [setRange_double env word value low high [] split, wantedRange_double env word value low high [] split,
      if_neg neither,
      if_neg neither, begins, Option.bind_some, Option.bind_some, isStack] at result
    exact result
  rcases free with first | second
  · obtain ⟨env, isStack, quads, start, begins, differ⟩ :=
      names_told_apart stack word [] low (highName stack low high) (wantedName low high) other.symm first
    exact differ (equal env isStack quads start begins)
  · obtain ⟨env, isStack, quads, start, begins, differ⟩ :=
      names_told_apart stack word [] low (wantedName low high) (highName stack low high) other second
    exact differ (equal env isStack quads start begins).symm

theorem write_outside (stack : Nat → UInt8) (word value low high : CString) (split : ends value = (low, some high))
    (lowSome : low ≠ [])
    (highSome : high ≠ []) (few : high.count 46 < 3) (place : Nat) (out : place = 0 ∨ 16 < place)
    (written : place ∈ List.range' 1 (low.length + 1) ∨
      copies (lastFields (strcpy stack 1 low) 17 (high.count 46)) high ∧
        place ∈ List.range' (lastFields (strcpy stack 1 low) 17 (high.count 46))
          (high.length + 1)) : ¬ RangeSyntax word value := by
  intro claimed
  have inside := (claimed ⟨askedFor [] none, stack⟩ [] fun n name addr => askedFor_quad [] none n name addr).1 place
  have going : ¬ (low = [] ∨ high = [] ∨ (askedFor [] none 0 low).isNone = true ∨ 3 ≤ high.count 46) := by
    rw [askedFor_first]
    simp [lowSome, highSome]
    omega
  unfold scratchWrites at inside
  rw [split] at inside
  dsimp only at inside
  rw [if_neg going] at inside
  have bounds := inside (by
    rcases written with first | ⟨there, second⟩
    · exact List.mem_append_left _ first
    · rw [if_pos there]
      exact List.mem_append_right _ second)
  omega

theorem ends_dash (low before after high : CString) (noDash : 45 ∉ low)
    (lowEnds : ∀ last, low.getLast? = some last → blank last = false)
    (highStarts : ∀ first, high.head? = some first → blank first = false)
    (blanksBefore : ∀ byte ∈ before, blank byte = true)
    (blanksAfter : ∀ byte ∈ after, blank byte = true) : ends (low ++ before ++ 45 :: (after ++ high)) =
    (low, some high) := by
  have plain : ∀ byte ∈ low ++ before, (decide (byte ≠ 45)) = true := by
    intro byte member
    refine decide_eq_true fun dash => ?_
    rcases List.mem_append.mp member with inLow | inGap
    · exact noDash (dash ▸ inLow)
    · exact absurd (blanksBefore byte inGap) (by rw [dash]; decide)
  have front : (low ++ before ++ 45 :: (after ++ high)).takeWhile (· ≠ 45) = low ++ before := by
    rw [List.takeWhile_append_of_pos plain]
    simp
  have behind : (low ++ before ++ 45 :: (after ++ high)).dropWhile (· ≠ 45) = 45 :: (after ++ high) := by
    rw [List.dropWhile_append_of_pos plain]
    simp
  have trimmed := blank_behind low before blanksBefore lowEnds
  have started : (after ++ high).dropWhile blank = high := by
    rw [List.dropWhile_append_of_pos blanksAfter]
    cases high with
    | nil => rfl
    | cons first rest => rw [List.dropWhile_cons_of_neg (by simp [highStarts first rfl])]
  unfold ends
  rw [behind, front]
  dsimp only
  rw [trimmed, started]

theorem ends_text (value low high : CString) (text : 0 ∉ value) (split : ends value = (low, some high)) : 0 ∉ low ∧
    0 ∉ high := by
  unfold ends at split
  split at split
  next => cases split
  next dash rest behind =>
    obtain ⟨rfl, isHigh⟩ := Prod.mk.inj split
    obtain rfl := Option.some.inj isHigh
    constructor
    · intro zero
      have front := List.mem_reverse.mp ((List.dropWhile_sublist _).subset (List.mem_reverse.mp zero))
      exact text ((List.takeWhile_sublist _).subset front)
    · intro zero
      have back : (0 : UInt8) ∈ value.dropWhile (· ≠ 45) := by
        rw [behind]
        exact List.mem_cons_of_mem _ ((List.dropWhile_sublist _).subset zero)
      exact text ((List.dropWhile_sublist _).subset back)

theorem lastFields_place (memory : Nat → UInt8) (n : Nat) (dots : 1 ≤ n) : lastFields memory 17 n ≤ 17 := by
  rw [lastFields]
  split
  · rw [if_neg (by omega)]
    exact lastFields_le memory 16 _
  · rw [if_neg (by omega)]
    exact lastFields_le memory 16 _

theorem quad_wrong (word value low high : CString) (addr : Nat) (split : ends value = (low, some high))
    (text : 0 ∉ value)
    (isQuad : quad low = some addr) (dots : 1 ≤ high.count 46)
    (few : high.count 46 < 3) : ¬ RangeSyntax word value := by
  obtain ⟨three, short⟩ := quad_some low addr isQuad
  obtain ⟨lowText, highText⟩ := ends_text value low high text split
  obtain ⟨n, isNext⟩ := Nat.exists_eq_add_of_le' dots
  have lowSome : low ≠ [] := by
    rintro rfl
    cases three
  have highSome : high ≠ [] := by
    rintro rfl
    cases dots
  have wanted : wantedName low high = kept low (n + 1) ++ high := by
    unfold wantedName
    rw [if_pos ⟨by rw [isQuad]; rfl, few⟩, isNext]
  have keptDots := kept_count low (n + 1)
  have moreDots := kept_count low n
  have found : lastFields (strcpy (fun i => if i = 17 then 46 else 0) 1 low) 17 (high.count 46) = 1 +
    (kept low n).length := by
    have stale : strcpy (fun i => if i = 17 then 46 else 0) 1 low 17 = 46 := by
      rw [strcpy_behind _ 1 low 17 (by omega)]
      rfl
    have one : ((n + 1 : Nat) : Int) - 1 = (n : Int) := by omega
    have some' : kept low n ≠ [] := by
      intro empty
      rw [empty, List.count_nil] at moreDots
      omega
    rw [isNext, lastFields, if_pos stale, one, if_neg (by omega)]
    rw [lastFields_clean _ low n 16 (by omega) fun i _ below => by rw [if_neg (by omega)]; decide]
    unfold spot
    rw [if_neg some']
  by_cases room : copies (1 + (kept low n).length) high
  · have name := highName_copied (fun i => if i = 17 then 46 else 0) low high (kept low n).length few
      (kept_length low n) found room
      lowText highText
    rw [← kept_take] at name
    refine range_wrong (fun i => if i = 17 then 46 else 0) word value low high split lowSome highSome ?_ (.inl ?_)
    · rw [name, wanted]
      intro same
      have counts := congrArg (List.count 46) same
      rw [List.count_append, List.count_append] at counts
      omega
    · rw [name]
      refine quad_none _ ?_
      rw [List.count_append]
      omega
  · have name := highName_alone (fun i => if i = 17 then 46 else 0) low high fun _ => by rw [found]; exact room
    refine range_wrong (fun i => if i = 17 then 46 else 0) word value low high split lowSome highSome ?_ (.inl ?_)
    · rw [name, wanted]
      intro same
      have counts := congrArg (List.count 46) same
      rw [List.count_append] at counts
      omega
    · rw [name]
      exact quad_none _ (by omega)

theorem name_wrong (word value low high : CString) (split : ends value = (low, some high)) (text : 0 ∉ value)
    (notQuad : quad low = none)
    (lowSome : low ≠ []) (highSome : high ≠ []) (short : low.length ≤ 15) (few : high.count 46 < 3)
    (fits : spot low (high.count 46) + high.length < 17) : ¬ RangeSyntax word value := by
  obtain ⟨lowText, highText⟩ := ends_text value low high text split
  have found : lastFields (strcpy (fun _ => 0) 1 low) 17 (high.count 46) = spot low (high.count 46) :=
    lastFields_clean _ low _ 17 (by omega) fun i _ _ => by decide
  by_cases none_ : kept low (high.count 46) = []
  · have front : spot low (high.count 46) = 0 := if_pos none_
    refine write_outside (fun _ => 0) word value low high split lowSome highSome few 0 (.inl rfl) (.inr ⟨?_, ?_⟩)
    · rw [found, front]
      exact .inr (by omega)
    · rw [found, front]
      simp
  · have behind : spot low (high.count 46) = 1 + (kept low (high.count 46)).length := if_neg none_
    have name := highName_copied (fun _ => 0) low high (kept low (high.count 46)).length few (kept_length low _)
      (by rw [found, behind]) (.inr (by omega)) lowText highText
    have wanted : wantedName low high = high := by
      unfold wantedName
      rw [notQuad]
      simp
    rw [← kept_take] at name
    refine range_wrong (fun _ => 0) word value low high split lowSome highSome ?_ (.inr ?_)
    · rw [name, wanted]
      intro same
      have lengths := congrArg List.length same
      rw [List.length_append] at lengths
      exact none_ (List.eq_nil_of_length_eq_zero (by omega))
    · rw [wanted]
      exact quad_none _ (by omega)

theorem range_right (word value low high : CString) (split : ends value = (low, some high))
    (alone : low = [] ∨ high = [] ∨ 3 ≤ high.count 46 ∨
      (quad low = none ∧ low.length ≤ 15 ∧ 1 ≤ high.count 46 ∧ 17 ≤ spot low (high.count 46) + high.length)) :
    RangeSyntax word value := by
  intro env ranges _
  rw [setRange_double env word value low high ranges split, wantedRange_double env word value low high ranges split]
  by_cases early : low = [] ∨ high = [] ∨ 3 ≤ high.count 46
  · constructor
    · intro place member
      unfold scratchWrites at member
      rw [split] at member
      dsimp only at member
      rw [if_pos (by rcases early with a | b | c <;> simp [*])] at member
      cases member
    · by_cases missing : low = [] ∨ high = []
      · rw [if_pos missing, if_pos missing]
      · have many : 3 ≤ high.count 46 := by
          rcases early with a | b | c
          · exact absurd (.inl a) missing
          · exact absurd (.inr b) missing
          · exact c
        have wanted : wantedName low high = high := if_neg (by omega)
        rw [highName_alone env.stack low high fun few => absurd few (by omega), wanted]
  · have standing : quad low = none ∧ low.length ≤ 15 ∧ 1 ≤ high.count 46 ∧
      17 ≤ spot low (high.count 46) + high.length := by
      rcases alone with a | b | c | d
      · exact absurd (.inl a) early
      · exact absurd (.inr (.inl b)) early
      · exact absurd (.inr (.inr c)) early
      · exact d
    obtain ⟨notQuad, short, dots, long⟩ := standing
    have below := lastFields_place (strcpy env.stack 1 low) (high.count 46) dots
    have above := lastFields_ge (strcpy env.stack 1 low) low (high.count 46) (17 - low.length) (high.count 46)
      (Nat.le_refl _)
      (strcpy_text env.stack low)
    rw [Nat.add_sub_cancel' (by omega)] at above
    have away : ¬ copies (lastFields (strcpy env.stack 1 low) 17 (high.count 46)) high := by
      unfold copies
      omega
    constructor
    · intro place member
      unfold scratchWrites at member
      rw [split] at member
      dsimp only at member
      rw [if_neg away, List.append_nil] at member
      split at member
      · cases member
      · rw [List.mem_range'_1] at member
        omega
    · have wanted : wantedName low high = high := by
        unfold wantedName
        rw [notQuad]
        simp
      rw [highName_alone env.stack low high fun _ => away, wanted]

end Ranges

-- For every value, with an end or without one.
theorem range_syntax_iff (word value : CString) (text : 0 ∉ value) : RangeSyntax word value ↔ EndStandsAlone value := by
  unfold EndStandsAlone
  cases split : ends value with
  | mk low high =>
      cases high with
      | none =>
          refine iff_of_true (fun env ranges _ => ⟨?_, setRange_single env word value low ranges split⟩) trivial
          intro place member
          unfold scratchWrites at member
          rw [split] at member
          cases member
      | some high =>
          refine ⟨fun claimed => ?_, range_right word value low high split⟩
          by_contra lone
          simp only [not_or] at lone
          obtain ⟨lowSome, highSome, few, rest⟩ := lone
          have fewer : high.count 46 < 3 := by omega
          rcases Nat.lt_or_ge 15 low.length with long | short
          · refine write_outside (fun _ => 0) word value low high split lowSome highSome fewer (low.length + 1)
              (.inr (by omega)) (.inl ?_) claimed
            rw [List.mem_range'_1]
            omega
          · by_cases dots : 1 ≤ high.count 46
            · cases isQuad : quad low with
              | some addr => exact quad_wrong word value low high addr split text isQuad dots fewer claimed
              | none =>
                  refine name_wrong word value low high split text isQuad lowSome highSome short fewer ?_ claimed
                  have unfit : ¬ 17 ≤ spot low (high.count 46) + high.length := fun long =>
                    rest ⟨isQuad, short, dots, long⟩
                  omega
            · -- No dot in the end: the byte behind ip_hi decides.
              have noDots : high.count 46 = 0 := by omega
              have stale : strcpy (fun _ => 46) 1 low 17 = 46 := strcpy_behind _ 1 low 17 (by omega)
              have found : lastFields (strcpy (fun _ => 46) 1 low) 17 (high.count 46) = 18 := by
                rw [noDots, lastFields, if_pos stale]
                rfl
              refine write_outside (fun _ => 46) word value low high split lowSome highSome fewer 18 (.inr (by omega))
                (.inr ⟨?_, ?_⟩) claimed
              · rw [found]
                exact .inl (by omega)
              · rw [found]
                simp

theorem range_syntax_pool : RangeSyntax (text "ip range") (text "10.0.0.1 - 10.0.0.9") := by
  refine (range_syntax_iff (text "ip range") (text "10.0.0.1 - 10.0.0.9") (by decide +kernel)).mpr ?_
  rw [EndStandsAlone, show ends (text "10.0.0.1 - 10.0.0.9") =
    (text "10.0.0.1", some (text "10.0.0.9")) by decide +kernel]
  exact .inr (.inr (.inl (by decide +kernel)))

-- A dot in the byte behind ip_hi sends the end there, and a start of more than 15
-- bytes does not fit.
theorem range_leaves_buffer :
    ¬ RangeSyntax (text "ip range") (text "10.0.0.5 - 9") ∧
      ¬ RangeSyntax (text "lac") (text "gateway.example.org - 9") := by
  constructor
  · refine write_outside (fun _ => 46) _ _ (text "10.0.0.5") (text "9") (by decide +kernel) (by decide) (by decide)
      (by decide) 18
      (.inr (by decide)) (.inr ⟨?_, ?_⟩)
    · decide +kernel
    · decide +kernel
  · refine write_outside (fun _ => 0) _ _ (text "gateway.example.org") (text "9") (by decide +kernel) (by decide)
      (by decide) (by decide) 17
      (.inr (by decide)) (.inl ?_)
    decide +kernel

end ZyAgf.Xl2tpd.Options
