import ZyAgf.Xl2tpd.OptionLines

set_option autoImplicit false

namespace ZyAgf.Xl2tpd.CommandAdd

open Options (blank)
open OptionLines

-- The arguments one after the other. A key whose '=' is the last byte waits for its
-- value in the next argument.
def writeOptions : Bool → List CString → CString
  | _, [] => []
  | waitKey, opt :: optv =>
      if waitKey then
        match opt.findIdx? (· == 61) with
        | some eqv =>
            if eqv ≠ opt.length - 1 then opt ++ 59 :: writeOptions true optv
            else opt ++ writeOptions false optv
        | none => opt ++ 32 :: writeOptions true optv
      else opt ++ 59 :: writeOptions true optv

-- command_add gives an error where there are no arguments.
def commandAdd (reqopt : UInt8) (tunnel : CString) (optv : List CString) : Option CString :=
  if optv = [] then none else some (reqopt :: 32 :: (tunnel ++ 32 :: writeOptions true optv))

-- How the user gives an option: key=value, key= value or key = value, with the
-- words of the key in arguments of their own.
inductive Form where
  | joined | valueApart | apart

structure Given where
  front : List CString
  last : CString
  value : CString
  form : Form

def Given.key (given : Given) : CString :=
  given.front.foldr (fun word rest => word ++ 32 :: rest) given.last

def Given.args (given : Given) : List CString :=
  given.front ++
    match given.form with
    | .joined => [given.last ++ 61 :: given.value]
    | .valueApart => [given.last ++ [61], given.value]
    | .apart => [given.last, [61], given.value]

def Edges (p : UInt8 → Bool) (string : CString) : Prop :=
  (∀ byte ∈ string.head?, p byte = true) ∧ ∀ byte ∈ string.getLast?, p byte = true

structure Given.Fine (given : Given) : Prop where
  words : ∀ word ∈ given.front ++ [given.last],
    word ≠ [] ∧ (∀ byte ∈ word, byte ≠ 0 ∧ byte ≠ 59 ∧ byte ≠ 61) ∧ Edges (fun byte => !isSpace byte) word
  value : given.value ≠ [] ∧ (∀ byte ∈ given.value, byte ≠ 0 ∧ byte ≠ 59) ∧
    Edges (fun byte => !isSpace byte) given.value

-- What command_add makes of it, between two semicolons.
def Given.token (given : Given) : CString :=
  given.key ++
    match given.form with
    | .joined => 61 :: given.value
    | .valueApart => 61 :: given.value
    | .apart => 32 :: 61 :: given.value

theorem key_args (front : List CString) (last : CString) (rest : List CString)
    (plain : ∀ word ∈ front, ∀ byte ∈ word, byte ≠ 61) (tail : CString)
    (written : writeOptions true (last :: rest) = tail) :
    writeOptions true (front ++ last :: rest) = front.foldr (fun word rest => word ++ 32 :: rest) tail := by
  induction front with
  | nil => exact written
  | cons word front ih =>
      have none' : word.findIdx? (· == 61) = none := by
        rw [List.findIdx?_eq_none_iff]
        intro byte member
        simpa using plain word List.mem_cons_self byte member
      have later := ih fun word member => plain word (List.mem_cons_of_mem _ member)
      rw [List.cons_append, writeOptions, if_pos rfl, none', later]
      rfl

theorem foldr_append (front : List CString) (last tail : CString) :
    front.foldr (fun word rest => word ++ 32 :: rest) (last ++ tail) =
      front.foldr (fun word rest => word ++ 32 :: rest) last ++ tail := by
  induction front with
  | nil => rfl
  | cons word front ih =>
      rw [List.foldr_cons, List.foldr_cons, ih, List.append_assoc, List.cons_append]

theorem equals_at (last rest : CString) (plain : ∀ byte ∈ last, byte ≠ 61) :
    (last ++ 61 :: rest).findIdx? (· == 61) = some last.length := by
  have none' : last.findIdx? (· == 61) = none := by
    rw [List.findIdx?_eq_none_iff]
    intro byte member
    simpa using plain byte member
  rw [List.findIdx?_append, none', List.findIdx?_cons]
  simp

theorem write_args (given : Given) (rest : List CString) (fine : given.Fine) :
    writeOptions true (given.args ++ rest) = given.token ++ 59 :: writeOptions true rest := by
  have plain : ∀ word ∈ given.front, ∀ byte ∈ word, byte ≠ 61 := fun word member byte inside =>
    ((fine.words word (List.mem_append_left _ member)).2.1 byte inside).2.2
  have lastPlain : ∀ byte ∈ given.last, byte ≠ 61 := fun byte inside =>
    ((fine.words given.last (List.mem_append_right _ List.mem_cons_self)).2.1 byte inside).2.2
  obtain ⟨front, last, value, form⟩ := given
  obtain ⟨b, value, rfl⟩ := List.exists_cons_of_ne_nil fine.value.1
  cases form with
  | joined =>
      have inner : last.length ≠ (last ++ 61 :: b :: value).length - 1 := by
        simp only [List.length_append, List.length_cons]
        omega
      have written : writeOptions true ((last ++ 61 :: b :: value) :: rest) =
          last ++ (61 :: b :: value ++ 59 :: writeOptions true rest) := by
        rw [writeOptions, if_pos rfl, equals_at last _ lastPlain]
        dsimp only
        rw [if_pos inner, List.append_assoc]
      simp only [Given.args, Given.token, Given.key, List.append_assoc, List.singleton_append]
      rw [key_args front _ rest plain _ written, foldr_append]
  | valueApart =>
      have atEnd : ¬ last.length ≠ (last ++ [61]).length - 1 := by simp
      have written : writeOptions true ((last ++ [61]) :: (b :: value) :: rest) =
          last ++ (61 :: b :: value ++ 59 :: writeOptions true rest) := by
        rw [writeOptions, if_pos rfl, equals_at last [] lastPlain]
        dsimp only
        rw [if_neg atEnd, List.append_assoc]
        rfl
      simp only [Given.args, Given.token, Given.key, List.append_assoc, List.cons_append, List.nil_append]
      rw [key_args front _ _ plain _ written, foldr_append]
      rfl
  | apart =>
      have none' : last.findIdx? (· == 61) = none := by
        rw [List.findIdx?_eq_none_iff]
        intro byte member
        simpa using lastPlain byte member
      have written : writeOptions true (last :: [61] :: (b :: value) :: rest) =
          last ++ (32 :: 61 :: b :: value ++ 59 :: writeOptions true rest) := by
        rw [writeOptions, if_pos rfl, none']
        rfl
      simp only [Given.args, Given.token, Given.key, List.append_assoc, List.cons_append, List.nil_append]
      rw [key_args front _ _ plain _ written, foldr_append]
      rfl

theorem write_options (options : List Given) (fine : ∀ given ∈ options, given.Fine) :
    writeOptions true (options.flatMap Given.args) = options.flatMap fun given => given.token ++ [59] := by
  induction options with
  | nil => rfl
  | cons given options ih =>
      rw [List.flatMap_cons, List.flatMap_cons, write_args given _ (fine given List.mem_cons_self),
        ih fun other member => fine other (List.mem_cons_of_mem _ member), List.append_assoc]
      rfl

theorem key_bytes (given : Given) (fine : given.Fine) : ∀ byte ∈ given.key, byte ≠ 0 ∧ byte ≠ 59 ∧ byte ≠ 61 := by
  obtain ⟨front, last, value, form⟩ := given
  have words := fine.words
  clear fine
  change ∀ byte ∈ front.foldr _ last, _
  induction front with
  | nil => exact (words last (by simp)).2.1
  | cons word front ih =>
      intro byte member
      rw [List.foldr_cons] at member
      rcases List.mem_append.mp member with here | later
      · exact (words word (by simp)).2.1 byte here
      · rcases List.mem_cons.mp later with rfl | later
        · decide
        · exact ih (fun other inside => words other (List.mem_cons_of_mem _ inside)) byte later

theorem token_split (given : Given) : ∃ gap, given.token = given.key ++ (gap ++ 61 :: given.value) ∧
    ∀ byte ∈ gap, byte = 32 := by
  obtain ⟨front, last, value, form⟩ := given
  cases form with
  | joined => exact ⟨[], rfl, by simp⟩
  | valueApart => exact ⟨[], rfl, by simp⟩
  | apart => exact ⟨[32], rfl, by simp⟩

theorem token_bytes (given : Given) (fine : given.Fine) : ∀ byte ∈ given.token, byte ≠ 59 ∧ byte ≠ 0 := by
  obtain ⟨gap, split, spaces⟩ := token_split given
  intro byte member
  rw [split] at member
  rcases List.mem_append.mp member with inKey | rest
  · exact ⟨(key_bytes given fine byte inKey).2.1, (key_bytes given fine byte inKey).1⟩
  · rcases List.mem_append.mp rest with inGap | rest
    · rw [spaces byte inGap]
      decide
    · rcases List.mem_cons.mp rest with rfl | inValue
      · decide
      · exact ⟨(fine.value.2.1 byte inValue).2, (fine.value.2.1 byte inValue).1⟩

theorem token_equals (given : Given) : 61 ∈ given.token := by
  obtain ⟨gap, split, _⟩ := token_split given
  rw [split]
  simp

theorem tokens_written (options : List Given) (behind : List UInt8) (fine : ∀ given ∈ options, given.Fine) :
    tokensFrom ((options.flatMap fun given => given.token ++ [59]) ++ 0 :: behind) [] =
      (options.map Given.token, true) := by
  induction options with
  | nil => rfl
  | cons given options ih =>
      have later := ih fun other member => fine other (List.mem_cons_of_mem _ member)
      have some' : given.token ≠ [] := List.ne_nil_of_mem (token_equals given)
      rw [List.flatMap_cons, List.append_assoc, List.append_assoc,
        tokensFrom_plain given.token _ [] (token_bytes given (fine given List.mem_cons_self)), List.nil_append,
        List.singleton_append, tokensFrom]
      simp only [some', if_false, later]
      rfl

def trimmedKey (key : CString) : CString := trimEnd (key.dropWhile blank)

def trimmedValue (value : CString) : CString := (trimEnd value).dropWhile blank

theorem trimEnd_gap (body gap : CString) (blanks : ∀ byte ∈ gap, blank byte = true) : trimEnd
    (body ++ gap) = trimEnd body := by
  unfold trimEnd
  rw [List.reverse_append, List.dropWhile_append_of_pos (by simpa using blanks)]

theorem trimEnd_equals (front value : CString) : trimEnd (front ++ 61 :: value) = front ++ 61 :: trimEnd value := by
  obtain ⟨white, split, blanks, ends⟩ := trimEnd_split value
  have whole : front ++ 61 :: value = (front ++ 61 :: trimEnd value) ++ white := by
    conv_lhs => rw [split]
    simp
  rw [whole]
  refine trimEnd_blank _ white blanks fun last final => ?_
  rw [List.getLast?_append_cons] at final
  cases rest : trimEnd value with
  | nil =>
      rw [rest] at final
      obtain rfl := Option.some.inj final
      decide
  | cons first rest' =>
      rw [rest, List.getLast?_cons_cons, ← rest] at final
      exact ends last final

theorem takeWhile_equals (body rest : CString) (plain : ∀ byte ∈ body, byte ≠ 61) :
    (body ++ 61 :: rest).takeWhile (· != 61) = body := by
  rw [List.takeWhile_append_of_pos (by simpa using plain)]
  simp

theorem dropWhile_equals (body rest : CString) (plain : ∀ byte ∈ body, byte ≠ 61) :
    (body ++ 61 :: rest).dropWhile (· != 61) = 61 :: rest := by
  rw [List.dropWhile_append_of_pos (by simpa using plain)]
  rfl

theorem token_word (given : Given) (fine : given.Fine) : wordOf given.token = trimmedKey given.key := by
  obtain ⟨gap, split, spaces⟩ := token_split given
  have blanks : ∀ byte ∈ gap, blank byte = true := fun byte member => by rw [spaces byte member]; decide
  have gapPlain : ∀ byte ∈ gap, byte ≠ 61 := fun byte member => by rw [spaces byte member]; decide
  have plain : ∀ byte ∈ given.key, byte ≠ 61 := fun byte member => (key_bytes given fine byte member).2.2
  unfold wordOf trimmedKey
  rw [split]
  cases body : given.key.dropWhile blank with
  | nil =>
      have white : ∀ byte ∈ given.key, blank byte = true := List.dropWhile_eq_nil_iff.mp body
      have all : ∀ byte ∈ given.key ++ gap, blank byte = true := fun byte member =>
        (List.mem_append.mp member).elim (white byte) (blanks byte)
      rw [← List.append_assoc, List.dropWhile_append_of_pos all]
      rfl
  | cons first rest =>
      have inside : ∀ byte ∈ first :: rest, byte ≠ 61 := fun byte member =>
        plain byte ((List.dropWhile_suffix blank).subset (body ▸ member))
      have cut : (given.key ++ (gap ++ 61 :: given.value)).dropWhile blank =
        (first :: rest ++ gap) ++ 61 :: given.value := by
        rw [List.dropWhile_append, body]
        simp
      rw [cut, takeWhile_equals _ _ fun byte member => (List.mem_append.mp member).elim (inside byte) (gapPlain byte),
        trimEnd_gap _ _ blanks]

theorem token_value (given : Given) (fine : given.Fine) : valueOf given.token = trimmedValue given.value := by
  obtain ⟨gap, split, spaces⟩ := token_split given
  have plain : ∀ byte ∈ given.key ++ gap, byte ≠ 61 := by
    intro byte member
    rcases List.mem_append.mp member with inKey | inGap
    · exact (key_bytes given fine byte inKey).2.2
    · rw [spaces byte inGap]
      decide
  unfold valueOf trimmedValue
  rw [split, ← List.append_assoc, trimEnd_equals, dropWhile_equals _ _ plain]
  rfl

theorem trimEnd_length (string : CString) : (trimEnd string).length ≤ string.length := by
  obtain ⟨white, split, _⟩ := trimEnd_split string
  have size := congrArg List.length split
  rw [List.length_append] at size
  omega

theorem trimEnd_whole (string : CString) :
    trimEnd string = string ↔ ∀ byte ∈ string.getLast?, (!blank byte) = true := by
  constructor
  · intro whole byte last
    obtain ⟨_, _, _, ends⟩ := trimEnd_split string
    rw [whole] at ends
    simpa using ends byte last
  · intro ends
    have kept := trimEnd_blank string [] (by simp) fun last final => by simpa using ends last final
    rwa [List.append_nil] at kept

theorem dropWhile_whole (string : CString) :
    string.dropWhile blank = string ↔ ∀ byte ∈ string.head?, (!blank byte) = true := by
  constructor
  · intro whole byte first
    have stopped := List.head?_dropWhile_not blank string
    rw [whole, Option.mem_def.mp first] at stopped
    simpa using stopped
  · intro starts
    cases string with
    | nil => rfl
    | cons byte rest =>
        have nonblank := starts byte rfl
        exact List.dropWhile_cons_of_neg (by simpa using nonblank)

theorem dropWhile_length (string : CString) : (string.dropWhile blank).length ≤ string.length :=
  (List.dropWhile_suffix blank).length_le

theorem dropWhile_full (string : CString) (full : (string.dropWhile blank).length = string.length) :
    string.dropWhile blank = string :=
  (List.dropWhile_suffix blank).eq_of_length full

theorem trimmedKey_whole (key : CString) : trimmedKey key = key ↔ Edges (fun byte => !blank byte) key := by
  constructor
  · intro whole
    have full : (key.dropWhile blank).length = key.length := by
      have trims := trimEnd_length (key.dropWhile blank)
      have drops := dropWhile_length key
      rw [show trimEnd (key.dropWhile blank) = key from whole] at trims
      omega
    have kept := dropWhile_full key full
    rw [trimmedKey, kept] at whole
    exact ⟨(dropWhile_whole key).mp kept, (trimEnd_whole key).mp whole⟩
  · rintro ⟨starts, ends⟩
    rw [trimmedKey, (dropWhile_whole key).mpr starts, (trimEnd_whole key).mpr ends]

theorem trimmedValue_whole (value : CString) : trimmedValue value = value ↔ Edges (fun byte => !blank byte) value := by
  constructor
  · intro whole
    have full : (trimEnd value).length = value.length := by
      have trims := trimEnd_length value
      have drops := dropWhile_length (trimEnd value)
      rw [show (trimEnd value).dropWhile blank = value from whole] at drops
      omega
    have kept : trimEnd value = value := by
      obtain ⟨white, split, _⟩ := trimEnd_split value
      have size := congrArg List.length split
      rw [List.length_append] at size
      have none' : white = [] := List.eq_nil_of_length_eq_zero (by omega)
      rw [none', List.append_nil] at split
      exact split.symm
    rw [trimmedValue, kept] at whole
    exact ⟨(dropWhile_whole value).mp whole, (trimEnd_whole value).mp kept⟩
  · rintro ⟨starts, ends⟩
    rw [trimmedValue, (trimEnd_whole value).mpr ends, (dropWhile_whole value).mpr starts]

section Reader

variable {σ : Type} (option : σ → CString → CString → Int × σ)

-- An option that parse_one_option takes gives neither of its two errors.
def Accepts : Prop := ∀ state word value, (option state word value).1 ≠ -1 ∧ (option state word value).1 ≠ -2

def handed (state : σ) (pairs : List (CString × CString)) : σ :=
  pairs.foldl (fun state pair => (option state pair.1 pair.2).2) state

theorem equals_nonblank (token : CString) (equals : 61 ∈ token) : token.all blank = false := by
  rw [List.all_eq_false]
  exact ⟨61, equals, by decide⟩

theorem parseOneLine_hands (size : Nat) (buf : List UInt8) (save : Nat) (state : σ)
    (short : (buf.drop save).length ≤ size)
    (accepts : Accepts option) (equals : ∀ token ∈ (tokensFrom (buf.drop save) []).1, 61 ∈ token)
    (ends : (tokensFrom (buf.drop save) []).2 = true) (fuel : Nat)
    (enough : (tokensFrom (buf.drop save) []).1.length < fuel) :
    parseOneLine option fuel buf save state = some (.returned 0 (handed option state
      ((tokensFrom (buf.drop save) []).1.map fun token => (wordOf token, valueOf token)))) := by
  induction size generalizing buf save state fuel with
  | zero =>
      rcases strtok_cases buf save with ⟨_, tokens⟩ | ⟨_, _, tokens⟩ | ⟨_, _, _, _, _, _, _, _, _, less, _⟩
      · rw [tokens] at ends
        cases ends
      · have empty := List.eq_nil_of_length_eq_zero (Nat.le_zero.mp short)
        rw [empty] at tokens
        cases tokens
      · omega
  | succ size ih =>
      obtain ⟨fuel, rfl⟩ : ∃ n, fuel = n + 1 := ⟨fuel - 1, by omega⟩
      rcases strtok_cases buf save with ⟨_, tokens⟩ | ⟨after, ran, tokens⟩ |
        ⟨start, buf', save', token, more, ran, here, nonzero, behind, less, tokens⟩
      · rw [tokens] at ends
        cases ends
      · unfold parseOneLine
        rw [ran, tokens]
        rfl
      · rw [tokens] at equals ends enough ⊢
        have has := equals token List.mem_cons_self
        obtain ⟨buf'', turned, kept⟩ :=
          (turn_token option buf' start token more state here nonzero (equals_nonblank token has)).2 has
        have taken : ¬ ((option state (wordOf token) (valueOf token)).1 = -1 ∨
          (option state (wordOf token) (valueOf token)).1 = -2) := by
          rintro (first | second)
          · exact (accepts state _ _).1 first
          · exact (accepts state _ _).2 second
        have same := kept save' behind
        dsimp only at turned
        rw [if_neg taken] at turned
        have later := ih buf'' save' (option state (wordOf token) (valueOf token)).2 (by rw [same]; omega)
          (by rw [same]; exact fun other member => equals other (List.mem_cons_of_mem _ member))
            (by rw [same]; exact ends) fuel
          (by rw [same]; exact Nat.lt_of_succ_lt_succ enough)
        unfold parseOneLine
        rw [ran]
        dsimp only
        rw [parseFrom, turned]
        rw [same] at later
        exact later

end Reader

-- What is wanted: the name is taken off, and each option function that takes them
-- is handed the very options that were given, whatever stands behind the message.
def Intact (options : List Given) : Prop :=
  ∀ (reqopt : UInt8) (tunnel : CString) (behind : List UInt8), tunnel ≠ [] → (∀ byte ∈ tunnel, byte ≠ 32 ∧ byte ≠ 0) →
    ∃ message buf bufp, commandAdd reqopt tunnel (options.flatMap Given.args) = some message ∧
      optionsAt (message ++ 0 :: behind) = some (some (buf, bufp)) ∧
      ∀ (σ : Type) (option : σ → CString → CString → Int × σ) (state : σ), Accepts option → ∀ fuel,
        options.length < fuel →
        parseOneLine option fuel buf bufp state =
          some (.returned 0 (handed option state (options.map fun given => (given.key, given.value))))

theorem args_nonempty (options : List Given) (some' : options ≠ []) : options.flatMap Given.args ≠ [] := by
  obtain ⟨given, options, rfl⟩ := List.exists_cons_of_ne_nil some'
  rw [List.flatMap_cons]
  obtain ⟨front, last, value, form⟩ := given
  cases form <;> simp [Given.args]

theorem message_parsed (options : List Given) (some' : options ≠ []) (fine : ∀ given ∈ options, given.Fine)
    (reqopt : UInt8)
    (tunnel : CString) (behind : List UInt8) (named : tunnel ≠ []) (plain : ∀ byte ∈ tunnel, byte ≠ 32 ∧ byte ≠ 0) :
    ∃ message buf bufp, commandAdd reqopt tunnel (options.flatMap Given.args) = some message ∧
      optionsAt (message ++ 0 :: behind) = some (some (buf, bufp)) ∧
      ∀ (σ : Type) (option : σ → CString → CString → Int × σ) (state : σ), Accepts option → ∀ fuel,
        options.length < fuel →
        parseOneLine option fuel buf bufp state = some (.returned 0 (handed option state
          (options.map fun given => (trimmedKey given.key, trimmedValue given.value)))) := by
  obtain ⟨first, name, rfl⟩ := List.exists_cons_of_ne_nil named
  obtain ⟨buf, bufp, found, memory⟩ := optionsAt_name reqopt [32] first name
    ((options.flatMap fun given => given.token ++ [59]) ++ 0 :: behind) 32 (by simp) plain (.inl rfl)
  refine ⟨_, buf, bufp, if_neg (args_nonempty options some'), ?_, fun σ option state accepts fuel enough => ?_⟩
  · rw [write_options options fine, ← found]
    simp
  · have tokens := tokens_written options behind fine
    rw [← memory] at tokens
    have parsed := parseOneLine_hands option _ buf bufp state (Nat.le_refl _) accepts
    rw [tokens] at parsed
    have pairs : (options.map Given.token).map (fun token => (wordOf token, valueOf token)) =
        options.map fun given => (trimmedKey given.key, trimmedValue given.value) := by
      rw [List.map_map]
      refine List.map_congr_left fun given member => ?_
      rw [Function.comp_apply, token_word given (fine given member), token_value given (fine given member)]
    rw [← pairs]
    refine parsed (fun token member => ?_) rfl fuel (by simpa using enough)
    obtain ⟨given, _, rfl⟩ := List.mem_map.mp member
    exact token_equals given

def record (seen : List (CString × CString)) (word value : CString) : Int × List (CString × CString) :=
  (0, seen ++ [(word, value)])

theorem record_accepts : Accepts record := by
  intro seen word value
  dsimp only [record]
  decide

theorem record_handed (seen pairs : List (CString × CString)) : handed record seen pairs = seen ++ pairs := by
  induction pairs generalizing seen with
  | nil => exact (List.append_nil seen).symm
  | cons pair pairs ih =>
      change handed record (seen ++ [pair]) pairs = _
      rw [ih, List.append_assoc]
      rfl

theorem command_add_intact_iff (options : List Given) (some' : options ≠ []) (fine : ∀ given ∈ options, given.Fine) :
    Intact options ↔
      ∀ given ∈ options, Edges (fun byte => !blank byte) given.key ∧ Edges (fun byte => !blank byte) given.value := by
  constructor
  · intro intact given member
    obtain ⟨message, buf, bufp, written, found, hands⟩ := intact 97 [98] [] (by decide) (by simp)
    obtain ⟨message', buf', bufp', written', found', hands'⟩ :=
      message_parsed options some' fine 97 [98] [] (by decide) (by simp)
    obtain rfl := Option.some.inj (written.symm.trans written')
    obtain ⟨rfl, rfl⟩ := Prod.mk.inj (Option.some.inj (Option.some.inj (found.symm.trans found')))
    have wanted := hands _ record [] record_accepts _ (Nat.lt_succ_self _)
    rw [hands' _ record [] record_accepts _ (Nat.lt_succ_self _), record_handed, record_handed] at wanted
    have same := (Outcome.returned.inj (Option.some.inj wanted)).2
    rw [List.nil_append, List.nil_append] at same
    have pair := List.map_inj_left.mp same given member
    obtain ⟨key, value⟩ := Prod.mk.inj pair
    exact ⟨(trimmedKey_whole _).mp key, (trimmedValue_whole _).mp value⟩
  · intro edges reqopt tunnel behind named plain
    obtain ⟨message, buf, bufp, written, found, hands⟩ := message_parsed options some' fine reqopt tunnel behind named
      plain
    refine ⟨message, buf, bufp, written, found, fun σ option state accepts fuel enough => ?_⟩
    have pairs : (options.map fun given => (trimmedKey given.key, trimmedValue given.value)) =
        options.map fun given => (given.key, given.value) := by
      refine List.map_congr_left fun given member => ?_
      rw [(trimmedKey_whole _).mpr (edges given member).1, (trimmedValue_whole _).mpr (edges given member).2]
    rw [← pairs]
    exact hands σ option state accepts fuel enough

def dialOptions : List Given :=
  [⟨[], text "lns", text "10.0.0.1", .joined⟩, ⟨[text "bearer"], text "type", text "any = 2", .apart⟩,
    ⟨[], text "name", text "x", .valueApart⟩]

instance (p : UInt8 → Bool) (string : CString) : Decidable (Edges p string) :=
  inferInstanceAs (Decidable ((∀ byte ∈ string.head?, p byte = true) ∧ ∀ byte ∈ string.getLast?, p byte = true))

theorem dial_options_fine : ∀ given ∈ dialOptions, given.Fine := by
  have words : ∀ given ∈ dialOptions, (∀ word ∈ given.front ++ [given.last],
      word ≠ [] ∧ (∀ byte ∈ word, byte ≠ 0 ∧ byte ≠ 59 ∧ byte ≠ 61) ∧ Edges (fun byte => !isSpace byte) word) ∧
      given.value ≠ [] ∧ (∀ byte ∈ given.value, byte ≠ 0 ∧ byte ≠ 59) ∧
        Edges (fun byte => !isSpace byte) given.value := by
    decide +kernel
  exact fun given member => ⟨(words given member).1, (words given member).2⟩

theorem command_add_intact_dial : Intact dialOptions :=
  (command_add_intact_iff dialOptions (by decide) dial_options_fine).mpr (by decide +kernel)

def accented : Given := ⟨[], text "name", text "caf" ++ [195, 169], .joined⟩

theorem command_add_trims : accented.Fine ∧ ¬ Intact [accented] := by
  have fine : accented.Fine := ⟨by decide +kernel, by decide +kernel⟩
  refine ⟨fine, fun intact => ?_⟩
  obtain ⟨message, buf, bufp, written, found, hands⟩ := intact 97 [98] [] (by decide) (by simp)
  have wanted := hands _ record [] record_accepts 2 (by decide)
  obtain rfl : message = text "a b name=caf" ++ [195, 169, 59] := by
    have said : commandAdd 97 [98] ([accented].flatMap Given.args) = some (text "a b name=caf" ++ [195, 169, 59]) := by
      decide +kernel
    exact Option.some.inj (written.symm.trans said)
  obtain ⟨rfl, rfl⟩ : buf = text "a b" ++ 0 :: (text "name=caf" ++ [195, 169, 59, 0]) ∧ bufp = 4 := by
    have at_ : optionsAt (text "a b name=caf" ++ [195, 169, 59] ++ 0 :: []) =
        some (some (text "a b" ++ 0 :: (text "name=caf" ++ [195, 169, 59, 0]), 4)) := by decide +kernel
    exact Prod.mk.inj (Option.some.inj (Option.some.inj (found.symm.trans at_)))
  have loses : parseOneLine record 2 (text "a b" ++ 0 :: (text "name=caf" ++ [195, 169, 59, 0])) 4 [] =
      some (.returned 0 [(text "name", text "caf")]) := by rfl
  rw [loses] at wanted
  have same := (Outcome.returned.inj (Option.some.inj wanted)).2
  revert same
  decide

end ZyAgf.Xl2tpd.CommandAdd
