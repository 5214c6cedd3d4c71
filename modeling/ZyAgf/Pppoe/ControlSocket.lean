import ZyAgf.Pppoe.StringCopy

set_option autoImplicit false

namespace ZyAgf.Pppoe.ControlSocket

def text (literal : String) : List UInt8 := literal.toList.map fun c => UInt8.ofNat c.toNat

def isspace (c : UInt8) : Bool := c == 32 || (9 ≤ c && c ≤ 13)

def cstring (mem : List UInt8) (p : Nat) : List UInt8 :=
  (mem.drop p).takeWhile (· ≠ 0)

def argvSize : Nat := 128

-- The scans give how far they go; there is no result where they leave the line.
def skipSpace : List UInt8 → Option Nat
  | [] => none
  | c :: rest => if c ≠ 0 ∧ isspace c = true then (skipSpace rest).map (· + 1) else some 0

-- A quote ends a quoted word unless the byte before it, command[-1], is a backslash.
def wordEnd (quoted : Bool) : UInt8 → List UInt8 → Option Nat
  | _, [] => none
  | behind, c :: rest =>
      if c ≠ 0 ∧ (if quoted then c ≠ 34 ∨ behind = 92 else isspace c = false) then (wordEnd quoted c rest).map (· + 1)
      else some 0

def findEscape : List UInt8 → Option Nat
  | [] => none
  | [_] => none
  | c :: d :: rest => if c = 92 ∧ d = 34 then some 0 else (findEscape (d :: rest)).map (· + 1)

def escaped (mem : List UInt8) (s : Nat) : Option Bool := do
  let c ← mem[s]?
  if c = 92 then mem[s + 1]?.map (· == 34) else some false

def compressLoop : Nat → List UInt8 → Nat → Nat → Option (List UInt8 × Nat)
  | 0, _, _, _ => none
  | fuel + 1, mem, s, d => do
      let c ← mem[s]?
      if c = 0 then some (mem, d)
      else do
        let skips ← escaped mem s
        let s := if skips then s + 1 else s
        let c ← mem[s]?
        let mem ← store mem d c
        compressLoop fuel mem (s + 1) (d + 1)

-- What becomes of a line, with how many pointers were stored: the words that argv
-- points to, a text for the client, a write through NULL, or one behind argv.
inductive Split where
  | words (argv : List (List UInt8))
  | reply (stored : Nat) (message : List UInt8)
  | nullWrite (stored : Nat)
  | overrun (stored : Nat)
  deriving DecidableEq

def closingQuote (word : List UInt8) : List UInt8 :=
  text "Error locating closing quote for " ++ word ++ text "\n"

def midWordQuote (word : List UInt8) : List UInt8 :=
  text "Unescaped mid-word quote in " ++ word ++ text "\n"

-- One word from its first byte on: where it starts and where the search goes on.
def readWord (mem : List UInt8) (command stored : Nat) : Option (Split ⊕ (List UInt8 × Nat × Nat)) := do
  let first ← mem[command]?
  let quoted := first == 34
  let length ← wordEnd quoted first (mem.drop (command + 1))
  let last := command + 1 + length
  let c ← mem[last]?
  if quoted then do
    if c ≠ 34 then some (.inl (.reply stored (closingQuote (cstring mem command))))
    else do
      let after ← mem[last + 1]?
      if after ≠ 0 ∧ isspace after = false then some (.inl (.reply stored (midWordQuote (cstring mem command))))
      else do
        let mem ← store mem last 0
        match findEscape (cstring mem (command + 1)) with
        | none => some (.inl (.nullWrite stored))
        | some found => do
            let mem ← (compressLoop mem.length mem (command + 1 + found) (command + 1 + found)).bind
              fun (mem, d) => store mem d 0
            some (.inr (mem, command + 1, last + 1))
  else if c = 0 then some (.inr (mem, command, last))
  else do
    let mem ← store mem last 0
    some (.inr (mem, command, last + 1))

def splitLoop : Nat → List UInt8 → Nat → List Nat → Option Split
  | 0, _, _, _ => none
  | fuel + 1, mem, command, argv => do
      let blanks ← skipSpace (mem.drop command)
      let command := command + blanks
      let first ← mem[command]?
      if first = 0 then some (if argv.length < argvSize then .words (argv.map (cstring mem)) else .overrun argv.length)
      else if argvSize ≤ argv.length then some (.overrun argv.length)
      else do
        match ← readWord mem command (argv.length + 1) with
        | .inl result => some result
        | .inr (mem, pointer, command) => splitLoop fuel mem command (argv ++ [pointer])

-- What control_socket_read does with what the reader hands it, up to the call of
-- control_socket_handle_command, which gets the words, or to the text for the
-- client. Leaving a context pops it.
inductive Outcome where
  | closeout
  | goodBye
  | split (ctxi : Nat) (result : Split)
  deriving DecidableEq

def controlSocketRead (complete pending : Bool) (ctxi : Nat) (command : List UInt8) : Option Outcome :=
  if complete = false then some .closeout
  else if pending then some .closeout
  else do
    let mem ← store command (command.length - 1) 0
    let line := cstring mem 0
    if line = text "quit" ∨ (line = text "exit" ∧ ctxi = 0) then some .goodBye
    else do
      let result ← splitLoop (mem.length + 1) mem 0 []
      return .split (if line = text "exit" then ctxi - 1 else ctxi) result

-- A command leads to further ones, with control_socket_handle_command as its
-- handler, or to a handler of the program's.
inductive ControlCommand where
  | menu (command : List UInt8) (subs : List ControlCommand)
  | action (command : List UInt8) (handler : List (Option (List UInt8)) → Nat → Int × List UInt8)

def ControlCommand.command : ControlCommand → List UInt8
  | .menu command _ => command
  | .action command _ => command

def selectCommand (word : List UInt8) : List ControlCommand → Option ControlCommand → Option ControlCommand × Bool
  | [], selected => (selected, true)
  | cc :: subs, selected =>
      if word.isPrefixOf cc.command then
        match selected with
        | some _ => (none, false)
        | none => selectCommand word subs (some cc)
      else selectCommand word subs selected

def listing (subs : List ControlCommand) : List UInt8 :=
  (subs.flatMap fun cc => text "  " ++ cc.command ++ text "\n") ++ text "-- end --\n"

-- argv ends with NULL, and there is no result where it is read behind that.
def handleCommand (subs : List ControlCommand) (argv : List (Option (List UInt8))) (argi : Nat) :
    Option (Int × List UInt8) :=
  match _found : argv[argi]? with
  | none => none
  | some none =>
      let before := (argv.take argi).filterMap id
      some (0, (if argi = 0 then text "No command specified, base commands:\n"
        else text "Incomplete command after '" ++ [32].intercalate before ++ text "', possible completions:\n") ++
        listing subs)
  | some (some word) =>
      match selectCommand word subs none with
      | (some (.menu _ subs), _) => handleCommand subs argv (argi + 1)
      | (some (.action _ handler), _) => some (handler argv (argi + 1))
      | (none, listall) =>
          some (0, (if argi = 0 then text "Command" else text "Sub-command") ++ text " '" ++ word ++
            text "' not found or ambiguous, possible options:\n" ++
            listing (subs.filter fun cc => listall || word.isPrefixOf cc.command))
termination_by argv.length - argi
decreasing_by
  have within := (List.getElem?_eq_some_iff.mp _found).1
  omega

-- Lines as a client writes them. A quoted word is given by its contents; every
-- quote in them goes with a backslash before it.
inductive Word where
  | bare (text : List UInt8)
  | quoted (content : List UInt8)

def escapeByte (c : UInt8) : List UInt8 := if c = 34 then [92, 34] else [c]

def escape (content : List UInt8) : List UInt8 := content.flatMap escapeByte

def Word.content : Word → List UInt8
  | .bare text => text
  | .quoted content => content

def Word.render : Word → List UInt8
  | .bare text => text
  | .quoted content => 34 :: (escape content ++ [34])

def Word.Fine : Word → Prop
  | .bare text => text ≠ [] ∧ text.head? ≠ some 34 ∧ ∀ c ∈ text, c ≠ 0 ∧ isspace c = false
  | .quoted content => (∀ c ∈ content, c ≠ 0) ∧ content.getLast? ≠ some 92

def Word.plain : Word → Bool
  | .bare _ => false
  | .quoted content => !content.contains 34

def Open : UInt8 → List UInt8 → Prop
  | _, [] => True
  | behind, c :: rest => (c = 34 → behind = 92) ∧ Open c rest

def White (gap : List UInt8) : Prop := ∀ c ∈ gap, isspace c = true

theorem space_nonzero (c : UInt8) (space : isspace c = true) : c ≠ 0 := by
  rintro rfl
  cases space

theorem skipSpace_gap (gap : List UInt8) (c : UInt8) (rest : List UInt8) (white : White gap)
    (stops : c = 0 ∨ isspace c = false) : skipSpace (gap ++ c :: rest) = some gap.length := by
  induction gap with
  | nil =>
      have halts : ¬ (c ≠ 0 ∧ isspace c = true) := by
        rintro ⟨nonzero, space⟩
        rcases stops with zero | other
        · exact nonzero zero
        · rw [other] at space
          cases space
      exact if_neg halts
  | cons b gap ih =>
      have space := white b List.mem_cons_self
      have later := ih fun c member => white c (List.mem_cons_of_mem b member)
      rw [List.cons_append, skipSpace, if_pos ⟨space_nonzero b space, space⟩, later]
      rfl

theorem wordEnd_bare (behind : UInt8) (body : List UInt8) (c : UInt8) (rest : List UInt8)
    (solid : ∀ b ∈ body, b ≠ 0 ∧ isspace b = false) (stops : c = 0 ∨ isspace c = true) :
    wordEnd false behind (body ++ c :: rest) = some body.length := by
  induction body generalizing behind with
  | nil =>
      refine if_neg ?_
      rintro ⟨nonzero, other⟩
      rcases stops with zero | space
      · exact nonzero zero
      · rw [if_neg Bool.false_ne_true, space] at other
        cases other
  | cons b body ih =>
      obtain ⟨nonzero, other⟩ := solid b List.mem_cons_self
      have later := ih b fun c member => solid c (List.mem_cons_of_mem b member)
      rw [List.cons_append, wordEnd, if_pos ⟨nonzero, (if_neg Bool.false_ne_true).mpr other⟩, later]
      rfl

theorem wordEnd_open (behind : UInt8) (body rest : List UInt8) (nonzero : ∀ b ∈ body, b ≠ 0)
    (opened : Open behind body) :
    wordEnd true behind (body ++ 0 :: rest) = some body.length := by
  induction body generalizing behind with
  | nil => exact if_neg fun goesOn => goesOn.1 rfl
  | cons b body ih =>
      have passes : b ≠ 34 ∨ behind = 92 := by
        by_cases quote : b = 34
        · exact .inr (opened.1 quote)
        · exact .inl quote
      have later := ih b (fun c member => nonzero c (List.mem_cons_of_mem b member)) opened.2
      rw [List.cons_append, wordEnd, if_pos ⟨nonzero b List.mem_cons_self, (if_pos rfl).mpr passes⟩, later]
      rfl

theorem escape_quote (content : List UInt8) : escape (34 :: content) = 92 :: 34 :: escape content := rfl

theorem escape_other (c : UInt8) (content : List UInt8) (other : c ≠ 34) : escape
    (c :: content) = c :: escape content := by
  rw [escape, List.flatMap_cons, escapeByte, if_neg other]
  rfl

theorem escape_plain (content : List UInt8) (plain : 34 ∉ content) : escape content = content := by
  induction content with
  | nil => rfl
  | cons c content ih =>
      have other := List.ne_of_not_mem_cons plain
      rw [escape_other c content (Ne.symm other), ih (List.not_mem_of_not_mem_cons plain)]

theorem escape_nonzero (content : List UInt8) (nonzero : ∀ c ∈ content, c ≠ 0) : ∀ c ∈ escape content, c ≠ 0 := by
  intro c member
  obtain ⟨b, inside, made⟩ := List.mem_flatMap.mp member
  unfold escapeByte at made
  split at made
  · simp only [List.mem_cons, List.not_mem_nil, or_false] at made
    rcases made with rfl | rfl <;> decide
  · rw [List.mem_singleton.mp made]
    exact nonzero b inside

theorem wordEnd_escape (behind : UInt8) (content rest : List UInt8) (nonzero : ∀ c ∈ content, c ≠ 0)
    (ends : (content.getLast?.getD behind) ≠ 92) :
    wordEnd true behind (escape content ++ 34 :: rest) = some (escape content).length := by
  induction content generalizing behind with
  | nil =>
      refine if_neg fun goesOn => ?_
      rcases (if_pos rfl).mp goesOn.2 with other | escaped
      · exact other rfl
      · exact ends escaped
  | cons c content ih =>
      have nonzero' := List.forall_mem_cons.mp nonzero
      have ends' : content.getLast?.getD c ≠ 92 := by
        cases content with
        | nil => exact ends
        | cons d content =>
            rw [List.getLast?_cons_cons, List.getLast?_cons] at ends
            rw [List.getLast?_cons]
            exact ends
      have later := ih c nonzero'.2 ends'
      by_cases quote : c = 34
      · subst quote
        rw [escape_quote, List.cons_append, List.cons_append, wordEnd,
          if_pos ⟨by decide, (if_pos rfl).mpr (.inl (by decide))⟩, wordEnd,
          if_pos ⟨by decide, (if_pos rfl).mpr (.inr rfl)⟩, later]
        rfl
      · rw [escape_other c content quote, List.cons_append, wordEnd,
          if_pos ⟨nonzero'.1, (if_pos rfl).mpr (.inl quote)⟩, later]
        rfl

theorem findEscape_cons (c d : UInt8) (rest : List UInt8) (other : ¬ (c = 92 ∧ d = 34)) :
    findEscape (c :: d :: rest) = (findEscape (d :: rest)).map (· + 1) :=
  if_neg other

theorem findEscape_plain (content : List UInt8) (plain : 34 ∉ content) : findEscape content = none := by
  induction content with
  | nil => rfl
  | cons c content ih =>
      cases content with
      | nil => rfl
      | cons d content =>
          have rest := List.not_mem_of_not_mem_cons plain
          have other : ¬ (c = 92 ∧ d = 34) := fun both => List.ne_of_not_mem_cons rest both.2.symm
          rw [findEscape_cons c d content other, ih rest]
          rfl

theorem findEscape_first (before rest : List UInt8) (plain : 34 ∉ before) :
    findEscape (before ++ 92 :: 34 :: rest) = some before.length := by
  induction before with
  | nil => rfl
  | cons c before ih =>
      have rest := List.not_mem_of_not_mem_cons plain
      have later := ih rest
      cases before with
      | nil =>
          rw [List.cons_append, List.nil_append, findEscape_cons c 92 (34 :: _) fun both => absurd both.2 (by decide)]
          exact congrArg (Option.map (· + 1)) later
      | cons d before =>
          have other : ¬ (c = 92 ∧ d = 34) := fun both => List.ne_of_not_mem_cons rest both.2.symm
          rw [List.cons_append, List.cons_append, findEscape_cons c d _ other]
          exact congrArg (Option.map (· + 1)) later

theorem load_at (front rest : List UInt8) (c : UInt8) (p : Nat) (here : p = front.length) :
    (front ++ c :: rest)[p]? = some c := by
  rw [here, List.getElem?_append_right (Nat.le_refl _), Nat.sub_self]
  rfl

theorem store_window (front window rest : List UInt8) (c : UInt8) (some' : window ≠ []) :
    store (front ++ (window ++ rest)) front.length c = some (front ++ c :: (window.tail ++ rest)) := by
  obtain ⟨b, window, rfl⟩ := List.exists_cons_of_ne_nil some'
  exact store_append front (window ++ rest) b c

theorem escape_head (content tail : List UInt8) : ∃ next rest, escape content ++ 0 :: tail = next :: rest ∧
    next ≠ 34 := by
  cases content with
  | nil => exact ⟨0, tail, rfl, by decide⟩
  | cons c content =>
      by_cases quote : c = 34
      · subst quote
        exact ⟨92, _, rfl, by decide⟩
      · rw [escape_other c content quote]
        exact ⟨c, _, rfl, quote⟩

theorem escaped_at (front rest : List UInt8) (c next : UInt8) (p : Nat) (here : p = front.length) :
    escaped (front ++ c :: next :: rest) p = some (decide (c = 92 ∧ next = 34)) := by
  have following : (front ++ c :: next :: rest)[p + 1]? = some next := by
    have moved := load_at (front ++ [c]) rest next (p + 1) (by rw [here, List.length_append]; rfl)
    rwa [List.append_assoc] at moved
  rw [escaped, load_at front (next :: rest) c p here, Option.bind_eq_bind, Option.bind_some]
  by_cases slash : c = 92
  · rw [if_pos slash, following, Option.map_some, slash]
    simp only [true_and]
    rfl
  · rw [if_neg slash]
    simp [slash]

theorem compress_escape (fuel : Nat) (front window content tail : List UInt8) (nonzero : ∀ c ∈ content, c ≠ 0)
    (enough : content.length < fuel) :
    ∃ junk, (compressLoop fuel (front ++ (window ++ (escape content ++ 0 :: tail))) (front.length + window.length)
        front.length).bind (fun (mem, d) => store mem d 0) = some (front ++ (content ++ 0 :: (junk ++ tail))) ∧
      content.length + junk.length = window.length + (escape content).length := by
  induction content generalizing fuel front window with
  | nil =>
      obtain ⟨fuel, rfl⟩ : ∃ n, fuel = n + 1 := ⟨fuel - 1, by omega⟩
      have zero := load_at (front ++ window) tail 0 _ (List.length_append ..).symm
      have stored := store_window front (window ++ [0]) tail 0 (by simp)
      simp only [List.append_assoc, List.singleton_append] at zero stored
      refine ⟨(window ++ [0]).tail, ?_, ?_⟩
      · rw [show escape [] = [] from rfl, List.nil_append, compressLoop]
        simp only [Option.bind_eq_bind, zero, Option.bind_some, if_true]
        exact stored
      · simp [escape]
  | cons c content ih =>
      obtain ⟨fuel, rfl⟩ : ∃ n, fuel = n + 1 := ⟨fuel - 1, by omega⟩
      have nonzero' := List.forall_mem_cons.mp nonzero
      have enough' : content.length < fuel := Nat.lt_of_succ_lt_succ enough
      by_cases quote : c = 34
      · subst quote
        obtain ⟨junk, result, count⟩ := ih fuel (front ++ [34]) ((window ++ [92, 34]).tail) nonzero'.2 enough'
        have slash := load_at (front ++ window) (34 :: (escape content ++ 0 :: tail)) 92 _ (List.length_append ..).symm
        have skips := escaped_at (front ++ window) (escape content ++ 0 :: tail) 92 34 _ (List.length_append ..).symm
        have quote := load_at (front ++ window ++ [92]) (escape content ++ 0 :: tail) 34
          (front.length + window.length + 1) (by simp [Nat.add_assoc])
        have stored := store_window front (window ++ [92, 34]) (escape content ++ 0 :: tail) 34 (by simp)
        have ahead : front.length + window.length + 1 + 1 = front.length + 1 + (window.length + (0 + 1 + 1) - 1) := by
          omega
        refine ⟨junk, ?_, ?_⟩
        · simp only [List.append_assoc, List.cons_append, List.nil_append] at slash skips quote stored
          simp only [List.length_append, List.length_tail, List.append_assoc, List.singleton_append,
            List.length_cons, List.length_nil] at result
          rw [escape_quote, List.cons_append, List.cons_append, compressLoop]
          simp only [Option.bind_eq_bind, slash, Option.bind_some]
          rw [if_neg (by decide)]
          simp only [skips, Option.bind_some, and_self, decide_true, if_true, quote, stored]
          rw [ahead]
          exact result
        · rw [List.length_tail, List.length_append] at count
          rw [escape_quote]
          simp only [List.length_cons, List.length_nil] at count ⊢
          omega
      · obtain ⟨junk, result, count⟩ := ih fuel (front ++ [c]) ((window ++ [c]).tail) nonzero'.2 enough'
        obtain ⟨next, rest, head, different⟩ := escape_head content tail
        have here := load_at (front ++ window) (escape content ++ 0 :: tail) c _ (List.length_append ..).symm
        have skips := escaped_at (front ++ window) rest c next _ (List.length_append ..).symm
        rw [← head] at skips
        have stored := store_window front (window ++ [c]) (escape content ++ 0 :: tail) c (by simp)
        have ahead : front.length + window.length + 1 = front.length + 1 + (window.length + (0 + 1) - 1) := by omega
        refine ⟨junk, ?_, ?_⟩
        · simp only [List.append_assoc, List.cons_append, List.nil_append] at here skips stored
          simp only [List.length_append, List.length_tail, List.append_assoc, List.singleton_append,
            List.length_cons, List.length_nil] at result
          rw [escape_other c content quote, List.cons_append, compressLoop]
          simp only [Option.bind_eq_bind, here, Option.bind_some]
          rw [if_neg nonzero'.1]
          simp only [skips, Option.bind_some, different, and_false, decide_false, Bool.false_eq_true, if_false, here,
            stored]
          rw [ahead]
          exact result
        · rw [List.length_tail, List.length_append] at count
          rw [escape_other c content quote]
          simp only [List.length_cons, List.length_nil] at count ⊢
          omega

theorem cstring_at (front body rest : List UInt8) (p : Nat) (here : p = front.length) (nonzero : ∀ c ∈ body, c ≠ 0) :
    cstring (front ++ (body ++ 0 :: rest)) p = body := by
  rw [cstring, here, List.drop_left, List.takeWhile_append_of_pos (by simpa using nonzero)]
  simp

theorem escape_length (content : List UInt8) : content.length ≤ (escape content).length := by
  induction content with
  | nil => exact Nat.le_refl _
  | cons c content ih =>
      by_cases quote : c = 34
      · subst quote
        rw [escape_quote]
        simp only [List.length_cons]
        omega
      · rw [escape_other c content quote]
        exact Nat.succ_le_succ ih

theorem readWord_bare (front body : List UInt8) (c : UInt8) (rest : List UInt8) (stored : Nat)
    (fine : (Word.bare body).Fine)
    (stops : c = 0 ∨ isspace c = true) :
    readWord (front ++ (body ++ c :: rest)) front.length stored =
      some (.inr (if c = 0 then (front ++ (body ++ 0 :: rest), front.length, front.length + body.length)
        else (front ++ (body ++ 0 :: rest), front.length, front.length + body.length + 1))) := by
  obtain ⟨some', noQuote, solid⟩ := fine
  obtain ⟨b, body, rfl⟩ := List.exists_cons_of_ne_nil some'
  have other : b ≠ 34 := fun same => noQuote (by rw [same]; rfl)
  have first : (front ++ (b :: body ++ c :: rest))[front.length]? = some b := load_at front (body ++ c :: rest) b _ rfl
  have behind : (front ++ (b :: body ++ c :: rest)).drop (front.length + 1) = body ++ c :: rest := by
    rw [List.drop_length_add_append]
    rfl
  have ends : (front ++ (b :: body ++ c :: rest))[front.length + 1 + body.length]? = some c := by
    rw [← List.append_assoc]
    exact load_at (front ++ b :: body) rest c _ (by simp; omega)
  have stored' : store (front ++ (b :: body ++ c :: rest)) (front.length + 1 + body.length) 0 =
      some (front ++ (b :: body ++ 0 :: rest)) := by
    have here := store_append (front ++ b :: body) rest c 0
    rw [List.append_assoc, List.append_assoc] at here
    rw [← here]
    congr 1
    simp
    omega
  have unquoted : (b == 34) = false := beq_false_of_ne other
  have length := wordEnd_bare b body c rest (fun d member => solid d (List.mem_cons_of_mem b member)) stops
  rw [readWord]
  simp only [Option.bind_eq_bind, first, Option.bind_some, unquoted, behind, length, ends, stored', Bool.false_eq_true,
    if_false]
  by_cases zero : c = 0
  · rw [if_pos zero, if_pos zero, zero]
    congr 3
    simp
    omega
  · rw [if_neg zero, if_neg zero]
    congr 3
    simp
    omega

theorem readWord_unclosed (front rest behind : List UInt8) (stored : Nat) (nonzero : ∀ c ∈ rest, c ≠ 0)
    (opened : Open 34 rest) :
    readWord (front ++ (34 :: rest ++ 0 :: behind)) front.length stored =
      some (.inl (.reply stored (closingQuote (34 :: rest)))) := by
  have first : (front ++ (34 :: rest ++ 0 :: behind))[front.length]? = some 34 :=
    load_at front (rest ++ 0 :: behind) 34 _ rfl
  have after : (front ++ (34 :: rest ++ 0 :: behind)).drop (front.length + 1) = rest ++ 0 :: behind := by
    rw [List.drop_length_add_append]
    rfl
  have ends : (front ++ (34 :: rest ++ 0 :: behind))[front.length + 1 + rest.length]? = some 0 := by
    rw [← List.append_assoc]
    exact load_at (front ++ 34 :: rest) behind 0 _ (by simp; omega)
  have word : cstring (front ++ (34 :: rest ++ 0 :: behind)) front.length = 34 :: rest :=
    cstring_at front (34 :: rest) behind _ rfl (List.forall_mem_cons.mpr ⟨by decide, nonzero⟩)
  have quoted : ((34 : UInt8) == 34) = true := rfl
  rw [readWord]
  simp only [Option.bind_eq_bind, first, Option.bind_some, quoted, after, wordEnd_open 34 rest behind nonzero opened,
    ends,
    if_true, word]
  rw [if_pos (by decide)]

section Closed

variable (front content rest : List UInt8) (c : UInt8) (stored : Nat)

theorem quoted_first : (front ++ ((Word.quoted content).render ++ c :: rest))[front.length]? = some 34 :=
  load_at front _ 34 _ rfl

theorem quoted_ends : (front ++ ((Word.quoted content).render ++ c :: rest))[front.length + 1 +
    (escape content).length]? =
    some 34 := by
  have here := load_at (front ++ 34 :: escape content) (c :: rest) 34 (front.length + 1 + (escape content).length)
    (by simp; omega)
  simpa [Word.render] using here

theorem quoted_after : (front ++ ((Word.quoted content).render ++ c :: rest))[front.length + 1 +
    (escape content).length + 1]? =
    some c := by
  have here := load_at (front ++ 34 :: (escape content ++ [34])) rest c (front.length + 1 + (escape content).length + 1)
    (by simp; omega)
  simpa [Word.render] using here

theorem quoted_length (fine : (Word.quoted content).Fine) :
    wordEnd true 34 ((front ++ ((Word.quoted content).render ++ c :: rest)).drop (front.length + 1)) =
      some (escape content).length := by
  have after : (front ++ ((Word.quoted content).render ++ c :: rest)).drop (front.length + 1) =
      escape content ++ 34 :: c :: rest := by
    rw [List.drop_length_add_append]
    simp [Word.render]
  rw [after]
  refine wordEnd_escape 34 content (c :: rest) fine.1 ?_
  intro last
  have ends := fine.2
  cases tail : content.getLast? with
  | none =>
      rw [tail] at last
      cases last
  | some d =>
      rw [tail] at last ends
      exact ends (congrArg some last)

theorem readWord_glued (behind : List UInt8) (fine : (Word.quoted content).Fine) (nonzero : ∀ c' ∈ c :: rest, c' ≠ 0)
    (stuck : isspace c = false) :
    readWord (front ++ ((Word.quoted content).render ++ c :: (rest ++ 0 :: behind))) front.length stored =
      some (.inl (.reply stored (midWordQuote (34 :: (escape content ++ 34 :: c :: rest))))) := by
  have word : cstring (front ++ ((Word.quoted content).render ++ c :: (rest ++ 0 :: behind))) front.length =
      34 :: (escape content ++ 34 :: c :: rest) := by
    have whole := cstring_at front (34 :: (escape content ++ 34 :: c :: rest)) behind _ rfl (by
      intro d member
      simp only [List.mem_cons, List.mem_append] at member
      rcases member with rfl | inside | rfl | inside
      · decide
      · exact escape_nonzero content fine.1 d inside
      · decide
      · exact nonzero d (List.mem_cons.mpr inside))
    simpa [Word.render] using whole
  have quoted : ((34 : UInt8) == 34) = true := rfl
  rw [readWord]
  simp only [Option.bind_eq_bind, quoted_first, Option.bind_some, quoted, quoted_length front content _ c fine,
    quoted_ends,
    quoted_after, if_true, word]
  rw [if_neg (by decide), if_pos ⟨nonzero c List.mem_cons_self, stuck⟩]

-- The closing quote becomes the end of the string; then the escapes go.
def closedWord : List UInt8 := front ++ 34 :: (escape content ++ 0 :: c :: rest)

theorem readWord_closed (fine : (Word.quoted content).Fine) (stops : c = 0 ∨ isspace c = true) :
    readWord (front ++ ((Word.quoted content).render ++ c :: rest)) front.length stored =
      match findEscape (escape content) with
      | none => some (.inl (.nullWrite stored))
      | some found =>
          ((compressLoop (closedWord front content rest c).length (closedWord front content rest c)
            (front.length + 1 + found) (front.length + 1 + found)).bind fun (mem, d) => store mem d 0).bind
          fun mem => some (.inr (mem, front.length + 1, front.length + 1 + (escape content).length + 1)) := by
  have stored' : store (front ++ ((Word.quoted content).render ++ c :: rest))
    (front.length + 1 + (escape content).length) 0 =
      some (closedWord front content rest c) := by
    have here := store_append (front ++ 34 :: escape content) (c :: rest) 34 0
    have place : (front ++ 34 :: escape content).length = front.length + 1 + (escape content).length := by
      simp
      omega
    rw [place] at here
    simpa [Word.render, closedWord] using here
  have word : cstring (closedWord front content rest c) (front.length + 1) = escape content := by
    have whole := cstring_at (front ++ [34]) (escape content) (c :: rest) (front.length + 1) (by simp)
      (escape_nonzero content fine.1)
    simpa [closedWord] using whole
  have quoted : ((34 : UInt8) == 34) = true := rfl
  have goesOn : ¬ (c ≠ 0 ∧ isspace c = false) := by
    rintro ⟨nonzero, other⟩
    rcases stops with zero | space
    · exact nonzero zero
    · rw [other] at space
      cases space
  rw [readWord]
  simp only [Option.bind_eq_bind, quoted_first, Option.bind_some, quoted, quoted_length front content rest c fine,
    quoted_ends,
    quoted_after, if_true, stored', word]
  rw [if_neg (by decide), if_neg goesOn]

theorem readWord_plain (fine : (Word.quoted content).Fine) (stops : c = 0 ∨ isspace c = true) (plain : 34 ∉ content) :
    readWord (front ++ ((Word.quoted content).render ++ c :: rest)) front.length stored =
      some (.inl (.nullWrite stored)) := by
  rw [readWord_closed front content rest c stored fine stops, escape_plain content plain,
    findEscape_plain content plain]

theorem readWord_quoted (fine : (Word.quoted content).Fine) (stops : c = 0 ∨ isspace c = true) (inner : 34 ∈ content) :
    ∃ junk, readWord (front ++ ((Word.quoted content).render ++ c :: rest)) front.length stored =
        some (.inr (front ++ (34 :: (content ++ 0 :: junk) ++ c :: rest), front.length + 1,
          front.length + (34 :: (content ++ 0 :: junk)).length)) := by
  obtain ⟨before, after, rfl, clean⟩ := List.eq_append_cons_of_mem inner
  have spelt : escape (before ++ 34 :: after) = before ++ 92 :: 34 :: escape after := by
    rw [escape, List.flatMap_append]
    exact congrArg (· ++ 92 :: 34 :: escape after) (escape_plain before clean)
  have longer := escape_length (before ++ 34 :: after)
  have nonzero : ∀ d ∈ (34 : UInt8) :: after, d ≠ 0 := fun d member => fine.1 d (List.mem_append_right _ member)
  have enough : (34 :: after).length < (closedWord front (before ++ 34 :: after) rest c).length := by
    simp only [closedWord, List.length_append, List.length_cons] at longer ⊢
    omega
  obtain ⟨junk, result, count⟩ := compress_escape (closedWord front (before ++ 34 :: after) rest c).length
    (front ++ 34 :: before) [] (34 :: after) (c :: rest) nonzero enough
  have place : (front ++ 34 :: before).length = front.length + 1 + before.length := by
    simp
    omega
  have same : (front ++ 34 :: before) ++ ([] ++ (escape (34 :: after) ++ 0 :: c :: rest)) =
      closedWord front (before ++ 34 :: after) rest c := by
    rw [closedWord, spelt, escape_quote]
    simp
  rw [same, place] at result
  refine ⟨junk, ?_⟩
  rw [readWord_closed front (before ++ 34 :: after) rest c stored fine stops]
  have found : findEscape (escape (before ++ 34 :: after)) = some before.length := by
    rw [spelt]
    exact findEscape_first before (escape after) clean
  rw [found]
  simp only [List.length_nil, Nat.add_zero] at result
  simp only [result, Option.bind_some]
  have length : front.length + 1 + (escape (before ++ 34 :: after)).length + 1 =
      front.length + (34 :: ((before ++ 34 :: after) ++ 0 :: junk)).length := by
    rw [spelt]
    rw [escape_quote] at count
    simp only [List.length_append, List.length_cons, List.length_nil] at count ⊢
    omega
  rw [length]
  congr 3
  simp

end Closed

theorem word_head (word : Word) (fine : word.Fine) :
    ∃ c rest, word.render = c :: rest ∧ c ≠ 0 ∧ isspace c = false := by
  cases word with
  | bare text =>
      obtain ⟨some', _, solid⟩ := fine
      obtain ⟨c, rest, rfl⟩ := List.exists_cons_of_ne_nil some'
      exact ⟨c, rest, rfl, solid c List.mem_cons_self⟩
  | quoted content => exact ⟨34, _, rfl, by decide, by decide⟩

theorem splitLoop_turn (fuel : Nat) (front gap : List UInt8) (c : UInt8) (rest : List UInt8) (argv : List Nat)
    (white : White gap) (solid : c ≠ 0 ∧ isspace c = false) :
    splitLoop (fuel + 1) (front ++ (gap ++ c :: rest)) front.length argv =
      if argvSize ≤ argv.length then some (.overrun argv.length)
      else (readWord ((front ++ gap) ++ c :: rest) (front ++ gap).length (argv.length + 1)).bind fun found =>
        match found with
        | .inl result => some result
        | .inr (mem, pointer, command) => splitLoop fuel mem command (argv ++ [pointer]) := by
  have blanks := skipSpace_gap gap c rest white (.inr solid.2)
  have first := load_at (front ++ gap) rest c (front.length + gap.length) (List.length_append ..).symm
  rw [List.append_assoc] at first
  rw [splitLoop, List.drop_left, blanks]
  simp only [Option.bind_eq_bind, Option.bind_some, first]
  rw [if_neg solid.1, List.append_assoc, List.length_append]

theorem splitLoop_end (fuel : Nat) (front gap rest : List UInt8) (argv : List Nat) (white : White gap) :
    splitLoop (fuel + 1) (front ++ (gap ++ 0 :: rest)) front.length argv =
      some (if argv.length < argvSize then .words (argv.map (cstring (front ++ (gap ++ 0 :: rest)))) else
        .overrun argv.length) := by
  have blanks := skipSpace_gap gap 0 rest white (.inl rfl)
  have first := load_at (front ++ gap) rest 0 (front.length + gap.length) (List.length_append ..).symm
  rw [List.append_assoc] at first
  rw [splitLoop, List.drop_left, blanks]
  simp only [Option.bind_eq_bind, Option.bind_some, first, if_true]

end ZyAgf.Pppoe.ControlSocket
