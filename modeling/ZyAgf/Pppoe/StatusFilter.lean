import Mathlib.Data.List.Infix
import ZyAgf.Pppoe.Server

set_option autoImplicit false

namespace ZyAgf.Pppoe.Server

def optSize : Nat := 64
def intMax : Nat := 2 ^ 31 - 1

-- One round of the loop over the words: snprintf writes what there is room for and
-- returns the length of it all. It fails where that is no int.
def snprintfWord (opt : List UInt8) (wlen : Nat) (word : List UInt8) : Option (List UInt8 × Int) :=
  let whole := word ++ [32]
  let kept := whole.take (optSize - wlen - 1) ++ [0]
  if intMax < whole.length then some (opt, -1)
  else if wlen + kept.length ≤ opt.length then some
    (opt.take wlen ++ kept ++ opt.drop (wlen + kept.length), whole.length)
  else none

inductive Collected where
  | failed
  | words (opt : List UInt8) (wlen : Nat)
deriving DecidableEq, Repr

def collectWords : List (List UInt8) → List UInt8 → Nat → Option Collected
  | [], opt, wlen => some (.words opt wlen)
  | word :: args, opt, wlen =>
      if wlen < optSize then do
        let (opt, r) ← snprintfWord opt wlen word
        if r < 0 then some .failed else collectWords args opt (wlen + r.toNat)
      else some (.words opt wlen)

-- The blank behind the last word is dropped. The byte that is looked at for it is
-- in front of the buffer when there is no word.
def filterLength (opt : List UInt8) (wlen : Nat) : Option Nat :=
  match min wlen optSize with
  | 0 => none
  | wlen + 1 => do
      let last ← opt[wlen]?
      return if last = 32 then wlen else wlen + 1

def strncmpSame : Nat → List UInt8 → List UInt8 → Option Bool
  | 0, _, _ => some true
  | n + 1, x :: xs, y :: ys => if x ≠ y then some false else if x = 0 then some true else strncmpSame n xs ys
  | _ + 1, _, _ => none

def optMatches (opt : List UInt8) (wlen : Nat) (label : List UInt8) : Option Bool :=
  if wlen = 0 then some true else strncmpSame wlen opt (label ++ [0])

inductive StatusLine where
  | summary (label value : List UInt8)
  | details (name : List UInt8)
  | detail (label value : List UInt8)
  | finished
deriving DecidableEq, Repr

def drainString : Drain → String
  | .off => "off (actively accepting connection)"
  | .on => "on (not accepting connections)"
  | .quit => "quit (not accepting, will terminate when drained)"

def numberText (n : Nat) : List UInt8 := textBytes (toString n)

def hexText (byte : UInt8) : List UInt8 :=
  textBytes (String.ofList [Nat.digitChar (byte.toNat / 16), Nat.digitChar (byte.toNat % 16)])

def macText (mac : Mac) : List UInt8 := [58].intercalate (mac.toList.map hexText)

-- The summary lines there are, in their order.
def summaries (cfg : Config) (s : ServerState) : List (List UInt8 × List UInt8) :=
  [(textBytes "active sessions", numberText s.numActiveSessions),
    (textBytes "maximum sessions", numberText cfg.numSessionSlots),
    (textBytes "sessions per mac", numberText cfg.maxSessionsPerMac),
    (textBytes "interface count", numberText cfg.interfaces.length),
    (textBytes "global drain", textBytes (drainString s.draining))]

def optStatus (opt : List UInt8) (wlen : Nat) (line : List UInt8 × List UInt8) : Option (List StatusLine) := do
  let matched ← optMatches opt wlen line.1
  return if matched then [.summary line.1 line.2] else []

def optInterface (opt : List UInt8) (wlen : Nat) (interface : List UInt8 × Interface) : Option (List StatusLine) := do
  let matched ← optMatches opt wlen interface.1
  return if matched then
    [.details interface.1, .detail (textBytes "local mac") (macText interface.2.mac),
    .detail (textBytes "mtu") (numberText interface.2.mtu)]
  else []

def optInterfaces (cfg : Config) (names : List (List UInt8)) (opt : List UInt8) (wlen : Nat) : Option
    (List StatusLine) := do
  let matched ← optMatches opt wlen (textBytes "interface list")
  if matched then
    let lines ← (names.zip cfg.interfaces).mapM (optInterface opt wlen)
    return lines.flatten
  else return []

-- What is printed, with the buffer as the stack left it. There is no result where
-- anything outside of it is read or written.
def handleStatus (cfg : Config) (names : List (List UInt8)) (s : ServerState) (opt : List UInt8)
    (args : List (List UInt8)) :
    Option (List StatusLine) := do
  match ← collectWords args opt 0 with
  | .failed => return []
  | .words opt wlen => do
      let wlen ← filterLength opt wlen
      let lines ← (summaries cfg s).mapM (optStatus opt wlen)
      let details ← optInterfaces cfg names opt wlen
      return lines.flatten ++ details ++ [.finished]

def StatusLine.summary? : StatusLine → Option (List UInt8 × List UInt8)
  | .summary label value => some (label, value)
  | _ => none

def joined (args : List (List UInt8)) : List UInt8 := [32].intercalate args

def Filters (cfg : Config) (names : List (List UInt8)) (s : ServerState) (opt : List UInt8)
    (args : List (List UInt8)) : Prop :=
  ∃ lines, handleStatus cfg names s opt args = some lines ∧
    lines.filterMap StatusLine.summary? = (summaries cfg s).filter fun line => (joined args).isPrefixOf line.1

def blanked (args : List (List UInt8)) : List UInt8 := args.flatMap (· ++ [32])

theorem blanked_joined (args : List (List UInt8)) (some' : args ≠ []) : blanked args = joined args ++ [32] := by
  unfold blanked joined
  induction args with
  | nil => exact absurd rfl some'
  | cons word args ih =>
      cases args with
      | nil => simp
      | cons next args =>
          rw [List.flatMap_cons, ih (by simp), List.intercalate_cons_cons]
          simp

theorem strncmpSame_some (n : Nat) (xs label : List UInt8) (inside : n ≤ xs.length) : ∃ same,
    strncmpSame n xs (label ++ [0]) = some same := by
  induction n generalizing xs label with
  | zero => exact ⟨true, rfl⟩
  | succ n ih =>
      obtain ⟨x, xs, rfl⟩ := List.exists_cons_of_length_pos (Nat.lt_of_lt_of_le (Nat.succ_pos n) inside)
      cases label with
      | nil =>
          rw [List.nil_append, strncmpSame]
          by_cases ended : x = 0
          · exact ⟨true, by rw [if_neg (not_not_intro ended), if_pos ended]⟩
          · exact ⟨false, by rw [if_pos ended]⟩
      | cons y label =>
          rw [List.cons_append, strncmpSame]
          split
          next => exact ⟨false, rfl⟩
          next =>
            split
            next => exact ⟨true, rfl⟩
            next => exact ih xs label (by simpa using inside)

theorem strncmpSame_prefix (front behind label : List UInt8) (nonzero : ∀ byte ∈ front, byte ≠ 0) :
    strncmpSame front.length (front ++ behind) (label ++ [0]) = some (front.isPrefixOf label) := by
  induction front generalizing label with
  | nil => simp [strncmpSame]
  | cons x front ih =>
      obtain ⟨first, rest⟩ := List.forall_mem_cons.mp nonzero
      cases label with
      | nil => simp [strncmpSame, first]
      | cons y label =>
          rw [List.length_cons, List.cons_append, List.cons_append, strncmpSame, List.isPrefixOf_cons_cons,
            ih label rest]
          by_cases same : x = y
          · rw [if_neg (not_not_intro same), if_neg first, same, beq_self_eq_true, Bool.true_and]
          · rw [if_pos same, beq_false_of_ne same, Bool.false_and]

theorem strncmpSame_longer (front label : List UInt8) (nonzero : ∀ byte ∈ front, byte ≠ 0)
    (longer : label.length < front.length) :
    strncmpSame (front.length + 1) (front ++ [0]) (label ++ [0]) = some false := by
  induction front generalizing label with
  | nil => exact absurd longer (Nat.not_lt_zero _)
  | cons x front ih =>
      obtain ⟨first, rest⟩ := List.forall_mem_cons.mp nonzero
      cases label with
      | nil => simp [strncmpSame, first]
      | cons y label =>
          rw [List.length_cons, List.cons_append, List.cons_append, strncmpSame]
          by_cases same : x = y
          · rw [if_neg (not_not_intro same), if_neg first, ih label rest (by simpa using longer)]
          · rw [if_pos same]

-- How the text that was printed stands in the buffer: whole, or cut by the
-- terminator in its last byte.
structure Held (opt text : List UInt8) : Prop where
  sized : opt.length = optSize
  whole : text.length < optSize → opt.take text.length = text
  cut : optSize ≤ text.length → opt = text.take (optSize - 1) ++ [0]

theorem snprintfWord_held (opt text word : List UInt8) (held : Held opt text) (room : text.length < optSize)
    (short : (word ++ [32]).length ≤ intMax) :
    ∃ opt', snprintfWord opt text.length word = some (opt', (word ++ [32]).length) ∧
      Held opt' (text ++ (word ++ [32])) := by
  have sized : opt.length = 64 := held.sized
  have room' : text.length < 64 := room
  have front := held.whole room
  generalize whole' : word ++ [32] = whole at short
  have keptLength : (whole.take (optSize - text.length - 1) ++ [0]).length = min
    (64 - text.length - 1) whole.length + 1 := by
    simp [optSize]
  have inside : text.length + (whole.take (optSize - text.length - 1) ++ [0]).length ≤ opt.length := by
    rw [keptLength]
    omega
  unfold snprintfWord
  rw [whole']
  simp only
  rw [if_neg (Nat.not_lt.mpr short), if_pos inside, front]
  refine ⟨_, rfl, ?_, ?_, ?_⟩
  · simp only [List.length_append, List.length_drop, keptLength] at inside ⊢
    change _ = 64
    omega
  · intro fits
    have fits' : text.length + whole.length < 64 := by simpa [optSize] using fits
    have all : whole.take (optSize - text.length - 1) = whole := List.take_of_length_le (by
      change whole.length ≤ 64 - text.length - 1
      omega)
    rw [all, ← List.append_assoc text, List.append_assoc, List.take_left]
  · intro long
    have long' : 64 ≤ text.length + whole.length := by simpa [optSize] using long
    have whole63 : min (64 - text.length - 1) whole.length = 64 - text.length - 1 := by omega
    have none' : opt.drop (text.length + (whole.take (optSize - text.length - 1) ++ [0]).length) = [] := by
      rw [List.drop_eq_nil_iff, keptLength]
      omega
    have cutText : (text ++ whole).take (optSize - 1) = text ++ whole.take (optSize - text.length - 1) := by
      rw [List.take_append, List.take_of_length_le (show text.length ≤ optSize - 1 from Nat.le_of_lt_succ room'),
        Nat.sub_right_comm]
    rw [none', List.append_nil, ← List.append_assoc, cutText]

theorem blanked_append (args more : List (List UInt8)) : blanked (args ++ more) = blanked args ++ blanked more :=
    List.flatMap_append

theorem collectWords_held (args : List (List UInt8)) (opt text : List UInt8) (held : Held opt text) :
    (collectWords args opt text.length = some .failed ∧ ∃ word ∈ args, intMax < (word ++ [32]).length) ∨
      ∃ opt' used, collectWords args opt text.length = some (.words opt' (text ++ blanked used).length) ∧
        used <+: args ∧
        Held opt' (text ++ blanked used) ∧ ((text ++ blanked used).length < optSize → used = args) := by
  induction args generalizing opt text with
  | nil =>
      exact .inr ⟨opt, [], by simp [collectWords, blanked], List.nil_prefix, by simpa [blanked] using held, fun _ => rfl⟩
  | cons word args ih =>
      by_cases room : text.length < optSize
      · by_cases short : (word ++ [32]).length ≤ intMax
        · obtain ⟨opt', printed, held'⟩ := snprintfWord_held opt text word held room short
          have length : text.length + ((word ++ [32]).length : Int).toNat = (text ++ (word ++ [32])).length := by simp
          have steps : collectWords (word :: args) opt text.length = collectWords args opt'
            (text ++ (word ++ [32])).length := by
            rw [collectWords, if_pos room, printed]
            simp only [Option.bind_eq_bind, Option.bind_some]
            rw [if_neg (by omega), length]
          rw [steps]
          rcases ih opt' (text ++ (word ++ [32]))
            held' with ⟨failed, long, member, beyond⟩ | ⟨last, used, collected, begin', held'', done⟩
          · exact .inl ⟨failed, long, List.mem_cons_of_mem _ member, beyond⟩
          · have shape : text ++ (word ++ [32]) ++ blanked used = text ++ blanked (word :: used) := by
              rw [List.append_assoc]
              rfl
            rw [shape] at collected held'' done
            exact .inr ⟨last, word :: used, collected, (List.cons_prefix_cons).mpr ⟨rfl, begin'⟩, held'',
              fun fits => by rw [done fits]⟩
        · refine .inl ⟨?_, word, List.mem_cons_self, Nat.not_le.mp short⟩
          rw [collectWords, if_pos room, snprintfWord]
          simp only
          rw [if_pos (Nat.not_le.mp short)]
          rfl
      · refine .inr ⟨opt, [], ?_, List.nil_prefix, by simpa [blanked] using held, fun fits => ?_⟩
        · rw [collectWords, if_neg room]
          simp [blanked]
        · exact absurd (by simpa [blanked] using fits) room

theorem blanked_nonzero (args : List (List UInt8))
    (nonzero : ∀ word ∈ args, ∀ byte ∈ word, byte ≠ 0) : ∀ byte ∈ blanked args, byte ≠ 0 := by
  intro byte inside
  obtain ⟨word, member, there⟩ := List.mem_flatMap.mp inside
  rcases List.mem_append.mp there with text | last
  · exact nonzero word member byte text
  · rw [List.mem_singleton.mp last]
    decide

theorem word_le_joined (args : List (List UInt8)) (word : List UInt8) (member : word ∈ args) : word.length ≤
    (joined args).length := by
  have some' : args ≠ [] := List.ne_nil_of_mem member
  obtain ⟨before, after, rfl⟩ := List.append_of_mem member
  have lengths := congrArg List.length (blanked_joined (before ++ word :: after) some')
  rw [blanked_append, show blanked (word :: after) = word ++ [32] ++ blanked after from rfl] at lengths
  simp only [List.length_append, List.length_singleton] at lengths
  omega

def longestLabel : Nat := 62

-- What the filter then says about a label.
structure Sorts (opt : List UInt8) (wlen : Nat) (args : List (List UInt8)) : Prop where
  inside : wlen ≤ opt.length
  label : ∀ label : List UInt8, label.length ≤ longestLabel →
    optMatches opt wlen label = some ((joined args).isPrefixOf label)

theorem isPrefixOf_longer (xs ys : List UInt8) (longer : ys.length < xs.length) : xs.isPrefixOf ys = false := by
  rw [← Bool.not_eq_true, List.isPrefixOf_iff_prefix]
  exact fun begins => Nat.not_le.mpr longer begins.length_le

theorem filter_whole (opt : List UInt8) (args : List (List UInt8)) (some' : args ≠ [])
    (nonzero : ∀ word ∈ args, ∀ byte ∈ word, byte ≠ 0) (held : Held opt (blanked args))
    (fits : (blanked args).length < optSize) :
    filterLength opt (blanked args).length = some (joined args).length ∧ Sorts opt (joined args).length args := by
  have text := held.whole fits
  have sized : opt.length = 64 := held.sized
  have fits' : (blanked args).length < 64 := fits
  have shape := blanked_joined args some'
  have length : (blanked args).length = (joined args).length + 1 := by
    rw [shape, List.length_append, List.length_singleton]
  obtain ⟨behind, split⟩ : ∃ behind, opt = joined args ++ 32 :: behind :=
    ⟨opt.drop (blanked args).length, by
      conv => lhs; rw [← List.take_append_drop (blanked args).length opt, text]
      rw [shape, List.append_assoc]
      rfl⟩
  have plain : ∀ byte ∈ joined args, byte ≠ 0 := fun byte inside =>
    blanked_nonzero args nonzero byte (shape ▸ List.mem_append_left _ inside)
  constructor
  · have short : min ((joined args).length + 1) optSize = (joined args).length + 1 :=
      Nat.min_eq_left (by change _ ≤ 64; omega)
    unfold filterLength
    rw [length, short]
    simp only
    rw [split, List.getElem?_append_right (Nat.le_refl _), Nat.sub_self]
    rfl
  · refine ⟨by omega, fun label _ => ?_⟩
    unfold optMatches
    split
    next none' =>
      rw [List.length_eq_zero_iff.mp none']
      rfl
    next =>
      rw [split]
      exact strncmpSame_prefix (joined args) (32 :: behind) label plain

theorem filter_cut (opt : List UInt8) (args used : List (List UInt8)) (begins : used <+: args)
    (nonzero : ∀ word ∈ args, ∀ byte ∈ word, byte ≠ 0) (held : Held opt (blanked used))
    (cut : optSize ≤ (blanked used).length) :
    filterLength opt (blanked used).length = some optSize ∧ Sorts opt optSize args := by
  obtain ⟨rest, rfl⟩ := begins
  have shape := held.cut cut
  have cut' : 64 ≤ (blanked used).length := cut
  have front : ((blanked used).take 63).length = 63 := by
    rw [List.length_take]
    omega
  have plain : ∀ byte ∈ (blanked used).take 63, byte ≠ 0 := fun byte inside =>
    blanked_nonzero used (fun word member => nonzero word (List.mem_append_left _ member)) byte
      (List.mem_of_mem_take inside)
  have some' : used ++ rest ≠ [] := by
    rintro none'
    obtain ⟨rfl, rfl⟩ := List.append_eq_nil_iff.mp none'
    exact absurd cut' (by decide)
  have longer : 63 ≤ (joined (used ++ rest)).length := by
    have lengths := congrArg List.length (blanked_joined (used ++ rest) some')
    rw [blanked_append] at lengths
    simp only [List.length_append, List.length_singleton] at lengths
    omega
  constructor
  · have full : min (blanked used).length optSize = 63 + 1 := Nat.min_eq_right cut
    unfold filterLength
    rw [full]
    simp only
    rw [shape, List.getElem?_append_right (by rw [List.length_take]; exact Nat.min_le_left _ _)]
    change (do
      let last ← [(0 : UInt8)][63 - ((blanked used).take 63).length]?
      return if last = 32 then 63 else 63 + 1 : Option Nat) = _
    rw [front]
    rfl
  · refine ⟨Nat.le_of_eq held.sized.symm, fun label short => ?_⟩
    have small : label.length ≤ 62 := short
    rw [isPrefixOf_longer _ _ (by omega), shape]
    have compared := strncmpSame_longer ((blanked used).take 63) label plain (by omega)
    rw [front] at compared
    exact compared

section Printing

variable (cfg : Config) (names : List (List UInt8)) (s : ServerState)

theorem mapM_some {α β : Type} (f : α → Option β) (g : α → β) (xs : List α) (each : ∀ x ∈ xs, f x = some (g x)) :
    xs.mapM f = some (xs.map g) := by
  induction xs with
  | nil => rfl
  | cons x xs ih =>
      obtain ⟨first, rest⟩ := List.forall_mem_cons.mp each
      rw [List.mapM_cons, first, Option.bind_eq_bind, Option.bind_some, ih rest]
      rfl

theorem optInterfaces_some (opt : List UInt8) (wlen : Nat) (inside : wlen ≤ opt.length) :
    ∃ lines, optInterfaces cfg names opt wlen = some lines ∧ lines.filterMap StatusLine.summary? = [] := by
  have matched (label : List UInt8) : ∃ same, optMatches opt wlen label = some same := by
    unfold optMatches
    split
    · exact ⟨true, rfl⟩
    · exact strncmpSame_some wlen opt label inside
  have printed (interface : List UInt8 × Interface) :
      ∃ lines, optInterface opt wlen interface = some lines ∧ lines.filterMap StatusLine.summary? = [] := by
    obtain ⟨same, shown⟩ := matched interface.1
    unfold optInterface
    rw [shown]
    cases same <;> exact ⟨_, rfl, rfl⟩
  choose lines shows plain using printed
  obtain ⟨same, shown⟩ := matched (textBytes "interface list")
  unfold optInterfaces
  rw [shown]
  cases same with
  | false => exact ⟨[], rfl, rfl⟩
  | true =>
      refine ⟨((names.zip cfg.interfaces).map lines).flatten, ?_, ?_⟩
      · simp only [Option.bind_eq_bind, Option.bind_some, if_true]
        rw [mapM_some _ lines _ fun interface _ => shows interface]
        rfl
      · rw [List.filterMap_flatten, List.flatten_eq_nil_iff]
        intro part member
        obtain ⟨_, inside', rfl⟩ := List.mem_map.mp member
        obtain ⟨interface, _, rfl⟩ := List.mem_map.mp inside'
        exact plain interface

theorem summaries_short (line : List UInt8 × List UInt8)
    (member : line ∈ summaries cfg s) : line.1.length ≤ longestLabel := by
  simp only [summaries, List.mem_cons, List.not_mem_nil, or_false] at member
  rcases member with rfl | rfl | rfl | rfl | rfl <;> (dsimp only; decide)

theorem optStatus_lines (opt : List UInt8) (wlen : Nat) (args : List (List UInt8)) (sorts : Sorts opt wlen args) :
    ∃ lines, (summaries cfg s).mapM (optStatus opt wlen) = some lines ∧
      lines.flatten.filterMap StatusLine.summary? = (summaries cfg s).filter fun line =>
        (joined args).isPrefixOf line.1 := by
  have each (line : List UInt8 × List UInt8) (member : line ∈ summaries cfg s) :
      optStatus opt wlen line = some (if (joined args).isPrefixOf line.1 then [.summary line.1 line.2] else []) := by
    unfold optStatus
    rw [sorts.label line.1 (summaries_short cfg s line member)]
    rfl
  refine ⟨_, mapM_some _ _ _ each, ?_⟩
  generalize summaries cfg s = lines
  induction lines with
  | nil => rfl
  | cons line lines ih =>
      rw [List.map_cons, List.flatten_cons, List.filterMap_append, ih, List.filter_cons]
      split <;> rfl

theorem handleStatus_words (opt : List UInt8) (args : List (List UInt8)) (sized : opt.length = optSize)
    (some' : args ≠ [])
    (nonzero : ∀ word ∈ args, ∀ byte ∈ word, byte ≠ 0) : Filters cfg names s opt args := by
  have start : Held opt [] := ⟨sized, fun _ => rfl, fun cut => absurd cut (by decide)⟩
  rcases collectWords_held args opt [] start with ⟨failed, word, member, beyond⟩ | ⟨opt', used, collected, begins, held,
    done⟩
  · refine ⟨[], ?_, ?_⟩
    · unfold handleStatus
      rw [show collectWords args opt 0 = some .failed from failed]
      rfl
    · symm
      rw [List.filterMap_nil, List.filter_eq_nil_iff]
      intro line inside
      have short : line.1.length ≤ 62 := summaries_short cfg s line inside
      have long : intMax < word.length + 1 := by simpa using beyond
      have whole := word_le_joined args word member
      rw [isPrefixOf_longer _ _ (by unfold intMax at long; omega)]
      decide
  · rw [List.nil_append] at collected held done
    obtain ⟨wlen, known, sorts⟩ : ∃ wlen, filterLength opt' (blanked used).length = some wlen ∧
      Sorts opt' wlen args := by
      by_cases fits : (blanked used).length < optSize
      · obtain rfl := done fits
        exact ⟨_, filter_whole opt' used some' nonzero held fits⟩
      · exact ⟨_, filter_cut opt' args used begins nonzero held (Nat.not_lt.mp fits)⟩
    obtain ⟨lines, printed, wanted⟩ := optStatus_lines cfg s opt' wlen args sorts
    obtain ⟨details, shown, plain⟩ := optInterfaces_some cfg names opt' wlen sorts.inside
    refine ⟨lines.flatten ++ details ++ [.finished], ?_, ?_⟩
    · unfold handleStatus
      rw [show collectWords args opt 0 = some (.words opt' (blanked used).length) from collected]
      simp only [Option.bind_eq_bind, Option.bind_some]
      rw [known, Option.bind_some, printed, Option.bind_some, shown]
      rfl
    · rw [List.filterMap_append, List.filterMap_append, plain, wanted]
      simp [StatusLine.summary?]

-- For every status of the server and every list of words: the buffer is kept to and
-- the lines are the right ones, if and only if there is a word.
theorem status_filters_iff (opt : List UInt8) (args : List (List UInt8)) (sized : opt.length = optSize)
    (nonzero : ∀ word ∈ args, ∀ byte ∈ word, byte ≠ 0) : Filters cfg names s opt args ↔ args ≠ [] := by
  constructor
  · rintro ⟨lines, printed, _⟩ rfl
    cases printed
  · exact fun some' => handleStatus_words cfg names s opt args sized some' nonzero

end Printing

def quietConfig : Config :=
  ⟨4, 0, [⟨Vector.replicate 6 0, 1500⟩], 1, false, [], [], Vector.replicate 16 0, Vector.replicate 4 0, fun _ =>
    Vector.replicate 16 0⟩

def quietStart : ServerState := initServer quietConfig [0, 1, 2, 3]

def blankOpt : List UInt8 := List.replicate 64 0x20

theorem status_filters_global : Filters quietConfig [textBytes "eth0"] quietStart blankOpt [textBytes "global"] ∧
    handleStatus quietConfig [textBytes "eth0"] quietStart blankOpt [textBytes "global"] =
      some [.summary (textBytes "global drain") (textBytes "off (actively accepting connection)"), .finished] :=
  ⟨(status_filters_iff quietConfig [textBytes "eth0"] quietStart blankOpt [textBytes "global"] (by decide)
    (by decide +kernel)).mpr (by decide),
    by decide +kernel⟩

-- No words at all.
theorem status_unfiltered : handleStatus quietConfig [textBytes "eth0"] quietStart blankOpt [] = none ∧
    ¬ ∀ (cfg : Config) (names : List (List UInt8)) (s : ServerState) (opt : List UInt8) (args : List (List UInt8)),
      opt.length = optSize → (∀ word ∈ args, ∀ byte ∈ word, byte ≠ 0) → Filters cfg names s opt args := by
  have outside : handleStatus quietConfig [textBytes "eth0"] quietStart blankOpt [] = none := by decide
  refine ⟨outside, fun claimed => ?_⟩
  obtain ⟨lines, printed, _⟩ := claimed quietConfig [textBytes "eth0"] quietStart blankOpt [] (by decide) (by decide)
  rw [outside] at printed
  cases printed

end ZyAgf.Pppoe.Server
