import Mathlib.Data.List.TakeWhile
import ZyAgf.Pppoe.ControlSocket

set_option autoImplicit false

namespace ZyAgf.Pppoe.ControlSocket

-- How a line ends: with its last word, or in a quoted word that is not closed or
-- has text behind its closing quote.
inductive Ending where
  | finish
  | unclosed (rest : List UInt8)
  | glued (content rest : List UInt8)

inductive Reads : List UInt8 → List Word → Ending → Prop where
  | finish (gap : List UInt8) (white : White gap) : Reads gap [] .finish
  | unclosed (gap rest : List UInt8) (white : White gap) (nonzero : ∀ c ∈ rest, c ≠ 0) (opened : Open 34 rest) :
      Reads (gap ++ 34 :: rest) [] (.unclosed rest)
  | glued (gap content : List UInt8) (c : UInt8) (rest : List UInt8) (white : White gap)
      (fine : (Word.quoted content).Fine) (nonzero : ∀ c' ∈ c :: rest, c' ≠ 0) (stuck : isspace c = false) :
      Reads (gap ++ ((Word.quoted content).render ++ c :: rest)) [] (.glued content (c :: rest))
  | last (gap : List UInt8) (word : Word) (white : White gap) (fine : word.Fine) :
      Reads (gap ++ word.render) [word] .finish
  | more (gap : List UInt8) (word : Word) (sep : UInt8) (rest : List UInt8) (words : List Word) (ending : Ending)
      (white : White gap) (fine : word.Fine) (space : isspace sep = true) (reads : Reads rest words ending) :
      Reads (gap ++ (word.render ++ sep :: rest)) (word :: words) ending

-- What the loop makes of such a line, behind the words it has already stored.
def badEnding : Ending → Option (List UInt8)
  | .finish => none
  | .unclosed rest => some (closingQuote (34 :: rest))
  | .glued content rest => some (midWordQuote (34 :: (escape content ++ 34 :: rest)))

def verdict (done : List (List UInt8)) : List Word → Ending → Split
  | [], ending =>
      match badEnding ending with
      | none => if done.length < argvSize then .words done else .overrun done.length
      | some message => if argvSize ≤ done.length then .overrun done.length else .reply (done.length + 1) message
  | word :: words, ending =>
      if argvSize ≤ done.length then .overrun done.length
      else if word.plain then .nullWrite (done.length + 1)
      else verdict (done ++ [word.content]) words ending

-- Where the words found so far are settled, whatever is stored further on.
def Settled (front : List UInt8) (argv : List Nat) (done : List (List UInt8)) : Prop :=
  ∀ after, argv.map (cstring (front ++ after)) = done

theorem settled_length (front : List UInt8) (argv : List Nat) (done : List (List UInt8))
    (settled : Settled front argv done) :
    argv.length = done.length := by
  rw [← settled [], List.length_map]

theorem settled_snoc (front more : List UInt8) (argv : List Nat) (pointer : Nat) (done : List (List UInt8))
    (word : List UInt8)
    (settled : Settled front argv done) (here : ∀ after, cstring (front ++ more ++ after) pointer = word) :
    Settled (front ++ more) (argv ++ [pointer]) (done ++ [word]) := by
  intro after
  rw [List.map_append, List.map_singleton, here after, List.append_assoc, settled (more ++ after)]

theorem splitLoop_space (fuel : Nat) (front more : List UInt8) (sep : UInt8) (argv : List Nat)
    (space : isspace sep = true) :
    splitLoop fuel (front ++ sep :: more) front.length argv =
      splitLoop fuel ((front ++ [sep]) ++ more) (front ++ [sep]).length argv := by
  cases fuel with
  | zero => rfl
  | succ fuel =>
      have blanks : skipSpace (sep :: more) = (skipSpace more).map (· + 1) := if_pos ⟨space_nonzero sep space, space⟩
      rw [splitLoop, splitLoop, List.drop_left, List.drop_left, blanks, List.append_assoc, List.length_append]
      cases skipSpace more with
      | none => rfl
      | some k =>
          simp only [Option.bind_eq_bind, Option.map_some, Option.bind_some, List.singleton_append,
            List.length_singleton]
          rw [Nat.add_assoc, Nat.add_comm 1 k]

theorem word_more (fuel : Nat) (front gap : List UInt8) (word : Word) (sep : UInt8) (more : List UInt8)
    (argv : List Nat)
    (done : List (List UInt8)) (white : White gap) (fine : word.Fine) (space : isspace sep = true)
    (taken : word.plain = false) (settled : Settled front argv done) (room : argv.length < argvSize) :
    ∃ front' pointer, splitLoop (fuel + 1) (front ++ (gap ++ (word.render ++ sep :: more))) front.length argv =
        splitLoop fuel (front' ++ more) front'.length (argv ++ [pointer]) ∧
      Settled front' (argv ++ [pointer]) (done ++ [word.content]) := by
  obtain ⟨c, rest, head, solid⟩ := word_head word fine
  have turn := splitLoop_turn fuel front gap c (rest ++ sep :: more) argv white solid
  rw [if_neg (Nat.not_le.mpr room), ← List.cons_append, ← head] at turn
  rw [turn]
  have nonzero := space_nonzero sep space
  cases word with
  | bare body =>
      have here : ∀ after, cstring (front ++ (gap ++ (body ++ [0])) ++ after) (front ++ gap).length = body := by
        intro after
        have here := cstring_at (front ++ gap) body after _ rfl fun d member => (fine.2.2 d member).1
        simpa using here
      refine ⟨front ++ (gap ++ (body ++ [0])), (front ++ gap).length, ?_,
        settled_snoc front _ argv _ done body settled here⟩
      change (readWord ((front ++ gap) ++ (body ++ sep :: more)) _ _).bind _ = _
      rw [readWord_bare (front ++ gap) body sep more _ fine (.inr space), if_neg nonzero]
      simp only [Option.bind_some]
      congr 1
      · simp
      · simp [Nat.add_assoc]
  | quoted content =>
      have inner : 34 ∈ content := by simpa [Word.plain] using taken
      obtain ⟨junk, result⟩ := readWord_quoted (front ++ gap) content more sep (argv.length + 1) fine (.inr space) inner
      have here : ∀ after, cstring (front ++ (gap ++ (34 :: (content ++ 0 :: junk) ++ [sep])) ++ after)
          ((front ++ gap).length + 1) = content := by
        intro after
        have here := cstring_at (front ++ gap ++ [34]) content (junk ++ sep :: after) ((front ++ gap).length + 1)
          (by simp [Nat.add_assoc]) fine.1
        simpa using here
      refine ⟨front ++ (gap ++ (34 :: (content ++ 0 :: junk) ++ [sep])), (front ++ gap).length + 1, ?_,
        settled_snoc front _ argv _ done content settled here⟩
      have moves := splitLoop_space fuel (front ++ gap ++ 34 :: (content ++ 0 :: junk)) more sep
        (argv ++ [(front ++ gap).length + 1]) space
      rw [result]
      simp only [Option.bind_some]
      have place : (front ++ gap ++ 34 :: (content ++ 0 :: junk)).length =
          (front ++ gap).length + (34 :: (content ++ 0 :: junk)).length := List.length_append ..
      rw [place, List.append_assoc (front ++ gap)] at moves
      rw [moves]
      simp only [List.append_assoc]

theorem word_last (fuel : Nat) (front gap : List UInt8) (word : Word) (behind : List UInt8) (argv : List Nat)
    (done : List (List UInt8)) (white : White gap) (fine : word.Fine) (taken : word.plain = false)
    (settled : Settled front argv done) (room : argv.length < argvSize) :
    splitLoop (fuel + 2) (front ++ (gap ++ (word.render ++ 0 :: behind))) front.length argv =
      some (if done.length + 1 < argvSize then .words (done ++ [word.content]) else .overrun (done.length + 1)) := by
  obtain ⟨c, rest, head, solid⟩ := word_head word fine
  have turn := splitLoop_turn (fuel + 1) front gap c (rest ++ 0 :: behind) argv white solid
  rw [if_neg (Nat.not_le.mpr room), ← List.cons_append, ← head] at turn
  rw [turn]
  have count := settled_length front argv done settled
  cases word with
  | bare body =>
      change (readWord ((front ++ gap) ++ (body ++ 0 :: behind)) _ _).bind _ = _
      rw [readWord_bare (front ++ gap) body 0 behind _ fine (.inl rfl), if_pos rfl]
      simp only [Option.bind_some]
      have ends := splitLoop_end fuel (front ++ gap ++ body) [] behind (argv ++ [(front ++ gap).length])
        (by simp [White])
      have place : (front ++ gap ++ body).length = (front ++ gap).length + body.length := List.length_append ..
      rw [place, List.nil_append, List.append_assoc (front ++ gap)] at ends
      rw [ends, List.map_append, List.map_singleton, cstring_at (front ++ gap) body behind _ rfl
        fun d member => (fine.2.2 d member).1, List.append_assoc front gap, settled, List.length_append, count]
      rfl
  | quoted content =>
      have inner : 34 ∈ content := by simpa [Word.plain] using taken
      obtain ⟨junk, result⟩ := readWord_quoted (front ++ gap) content behind 0 (argv.length + 1) fine (.inl rfl) inner
      rw [result]
      simp only [Option.bind_some]
      have ends := splitLoop_end fuel (front ++ gap ++ 34 :: (content ++ 0 :: junk)) [] behind
        (argv ++ [(front ++ gap).length + 1]) (by simp [White])
      have word := cstring_at (front ++ gap ++ [34]) content (junk ++ 0 :: behind) ((front ++ gap).length + 1)
        (by simp [Nat.add_assoc]) fine.1
      have place : (front ++ gap ++ 34 :: (content ++ 0 :: junk)).length =
          (front ++ gap).length + (34 :: (content ++ 0 :: junk)).length := List.length_append ..
      rw [place, List.nil_append, List.append_assoc (front ++ gap)] at ends
      have same : front ++ gap ++ (34 :: (content ++ 0 :: junk) ++ 0 :: behind) =
          front ++ gap ++ [34] ++ (content ++ 0 :: (junk ++ 0 :: behind)) := by simp
      rw [ends, List.map_append, List.map_singleton, same, word, List.append_assoc, List.append_assoc, settled,
        List.length_append, count]
      rfl

theorem word_plain (fuel : Nat) (front gap : List UInt8) (word : Word) (c : UInt8) (more : List UInt8) (argv : List Nat)
    (white : White gap) (fine : word.Fine) (stops : c = 0 ∨ isspace c = true) (plain : word.plain = true)
    (room : argv.length < argvSize) :
    splitLoop (fuel + 1) (front ++ (gap ++ (word.render ++ c :: more))) front.length argv =
      some (.nullWrite (argv.length + 1)) := by
  obtain ⟨b, rest, head, solid⟩ := word_head word fine
  have turn := splitLoop_turn fuel front gap b (rest ++ c :: more) argv white solid
  rw [if_neg (Nat.not_le.mpr room), ← List.cons_append, ← head] at turn
  rw [turn]
  cases word with
  | bare body => cases plain
  | quoted content =>
      have clean : 34 ∉ content := by simpa [Word.plain] using plain
      rw [readWord_plain (front ++ gap) content more c (argv.length + 1) fine stops clean]
      rfl

theorem splitLoop_reads (line : List UInt8) (words : List Word) (ending : Ending) (reads : Reads line words ending)
    (fuel : Nat) (front behind : List UInt8) (argv : List Nat) (done : List (List UInt8))
    (settled : Settled front argv done)
    (enough : words.length < fuel) :
    splitLoop fuel (front ++ (line ++ 0 :: behind)) front.length argv = some (verdict done words ending) := by
  have count := settled_length front argv done settled
  obtain ⟨fuel, rfl⟩ : ∃ n, fuel = n + 1 := ⟨fuel - 1, by omega⟩
  induction reads generalizing fuel front argv done with
  | finish gap white =>
      rw [splitLoop_end fuel front gap behind argv white, settled, count]
      rfl
  | unclosed gap rest white nonzero opened =>
      have turn := splitLoop_turn fuel front gap 34 (rest ++ 0 :: behind) argv white (by decide)
      rw [List.append_assoc, List.cons_append, turn, count, ← List.cons_append]
      change _ = some (if argvSize ≤ done.length then _ else _)
      by_cases full : argvSize ≤ done.length
      · rw [if_pos full, if_pos full]
      · rw [if_neg full, if_neg full, readWord_unclosed (front ++ gap) rest behind _ nonzero opened]
        rfl
  | glued gap content c rest white fine nonzero stuck =>
      have turn := splitLoop_turn fuel front gap 34 (escape content ++ [34] ++ c :: (rest ++ 0 :: behind)) argv white
        (by decide)
      have same : gap ++ ((Word.quoted content).render ++ c :: rest) ++ 0 :: behind =
          gap ++ 34 :: (escape content ++ [34] ++ c :: (rest ++ 0 :: behind)) := by simp [Word.render]
      rw [same, turn, count]
      change _ = some (if argvSize ≤ done.length then _ else _)
      by_cases full : argvSize ≤ done.length
      · rw [if_pos full, if_pos full]
      · have replies := readWord_glued (front ++ gap) content rest c (done.length + 1) behind fine nonzero stuck
        rw [if_neg full, if_neg full]
        exact congrArg (fun found => Option.bind found _) replies
  | last gap word white fine =>
      obtain ⟨c, rest, head, solid⟩ := word_head word fine
      change _ = some (if argvSize ≤ done.length then _ else _)
      by_cases full : argvSize ≤ done.length
      · have turn := splitLoop_turn fuel front gap c (rest ++ 0 :: behind) argv white solid
        rw [List.append_assoc, head, List.cons_append, turn, count, if_pos full, if_pos full]
      · have room : argv.length < argvSize := by omega
        rw [if_neg full, List.append_assoc]
        cases plain : word.plain with
        | true =>
            rw [word_plain fuel front gap word 0 behind argv white fine (.inl rfl) plain room, count]
            rfl
        | false =>
            obtain ⟨fuel, rfl⟩ : ∃ n, fuel = n + 1 := ⟨fuel - 1, by simp only [List.length_singleton] at enough; omega⟩
            rw [word_last fuel front gap word behind argv done white fine plain settled room]
            simp only [Bool.false_eq_true, if_false, verdict, badEnding, List.length_append, List.length_singleton]
  | more gap word sep rest words ending white fine space _ ih =>
      obtain ⟨c, rest', head, solid⟩ := word_head word fine
      rw [verdict]
      by_cases full : argvSize ≤ done.length
      · have turn := splitLoop_turn fuel front gap c (rest' ++ sep :: rest ++ 0 :: behind) argv white solid
        rw [List.append_assoc, head, List.cons_append, List.cons_append, turn, count, if_pos full, if_pos full]
      · have room : argv.length < argvSize := by omega
        rw [if_neg full, List.append_assoc, List.append_assoc, List.cons_append]
        cases plain : word.plain with
        | true =>
            rw [word_plain fuel front gap word sep (rest ++ 0 :: behind) argv white fine (.inr space) plain room, count]
            rfl
        | false =>
            have more' : words.length < fuel := by simpa using enough
            obtain ⟨fuel, rfl⟩ : ∃ n, fuel = n + 1 := ⟨fuel - 1, by omega⟩
            obtain ⟨front', pointer, moves, settled'⟩ := word_more (fuel + 1) front gap word sep
              (rest ++ 0 :: behind) argv done
              white fine space plain settled room
            rw [moves]
            exact ih front' (argv ++ [pointer]) (done ++ [word.content]) settled'
              (settled_length _ _ _ settled') fuel more'

theorem open_or_closed (behind : UInt8) (rest : List UInt8) :
    Open behind rest ∨ ∃ raw after, rest = raw ++ 34 :: after ∧ Open behind raw ∧ raw.getLast?.getD behind ≠ 92 := by
  induction rest generalizing behind with
  | nil => exact .inl trivial
  | cons c rest ih =>
      by_cases closes : c = 34 ∧ behind ≠ 92
      · obtain ⟨rfl, ends⟩ := closes
        exact .inr ⟨[], rest, rfl, trivial, ends⟩
      · have passes : c = 34 → behind = 92 := fun quote => by
          by_contra other
          exact closes ⟨quote, other⟩
        rcases ih c with opened | ⟨raw, after, rfl, opened, ends⟩
        · exact .inl ⟨passes, opened⟩
        · refine .inr ⟨c :: raw, after, rfl, ⟨passes, opened⟩, ?_⟩
          rwa [List.getLast?_cons, Option.getD_some]

theorem open_escape (length : Nat) (behind : UInt8) (raw : List UInt8) (short : raw.length ≤ length)
    (other : behind ≠ 92)
    (opened : Open behind raw) (nonzero : ∀ c ∈ raw, c ≠ 0) (ends : raw.getLast?.getD behind ≠ 92) :
    ∃ content, escape content = raw ∧ (Word.quoted content).Fine := by
  induction length generalizing behind raw with
  | zero =>
      obtain rfl := List.length_eq_zero_iff.mp (Nat.le_zero.mp short)
      exact ⟨[], rfl, by simp [Word.Fine]⟩
  | succ length ih =>
      cases raw with
      | nil => exact ⟨[], rfl, by simp [Word.Fine]⟩
      | cons c raw =>
          have noQuote : c ≠ 34 := fun quote => other (opened.1 quote)
          have nonzero' := List.forall_mem_cons.mp nonzero
          have shorter : raw.length ≤ length := Nat.le_of_succ_le_succ short
          rw [List.getLast?_cons, Option.getD_some] at ends
          by_cases slash : c = 92
          · subst slash
            cases raw with
            | nil => exact absurd rfl ends
            | cons d raw =>
                rw [List.getLast?_cons, Option.getD_some] at ends
                have nonzero'' := List.forall_mem_cons.mp nonzero'.2
                by_cases quote : d = 34
                · subst quote
                  obtain ⟨content, spelt, fine⟩ := ih 34 raw (Nat.le_of_succ_le shorter)
                    (by decide) opened.2.2 nonzero''.2 ends
                  refine ⟨34 :: content, by rw [escape_quote, spelt], List.forall_mem_cons.mpr ⟨by decide, fine.1⟩, ?_⟩
                  cases content with
                  | nil => decide
                  | cons e content => exact fine.2
                · -- A backslash that escapes nothing stands for itself.
                  have ends' : (d :: raw).getLast?.getD 0 ≠ 92 := by rwa [List.getLast?_cons, Option.getD_some]
                  obtain ⟨content, spelt, fine⟩ :=
                    ih 0 (d :: raw) shorter (by decide) ⟨fun same => absurd same quote, opened.2.2⟩
                    nonzero'.2 ends'
                  refine ⟨92 :: content, by rw [escape_other 92 content (by decide), spelt],
                    List.forall_mem_cons.mpr ⟨by decide, fine.1⟩, ?_⟩
                  cases content with
                  | nil => cases spelt
                  | cons e content => exact fine.2
          · obtain ⟨content, spelt, fine⟩ := ih c raw shorter slash opened.2 nonzero'.2 ends
            refine ⟨c :: content, by rw [escape_other c content noQuote, spelt],
              List.forall_mem_cons.mpr ⟨nonzero'.1, fine.1⟩, ?_⟩
            cases content with
            | nil => simpa using slash
            | cons e content => exact fine.2

theorem line_reads (length : Nat) (line : List UInt8) (short : line.length ≤ length) (nonzero : ∀ c ∈ line, c ≠ 0) :
    ∃ words ending, Reads line words ending := by
  induction length generalizing line with
  | zero =>
      obtain rfl := List.length_eq_zero_iff.mp (Nat.le_zero.mp short)
      exact ⟨[], .finish, .finish [] (by simp [White])⟩
  | succ length ih =>
      have white : White (line.takeWhile isspace) := fun c member => List.mem_takeWhile_imp member
      have split : line.takeWhile isspace ++ line.dropWhile isspace = line := List.takeWhile_append_dropWhile
      have rest' : ∀ c ∈ line.dropWhile isspace, c ≠ 0 := fun c member =>
        nonzero c (List.dropWhile_suffix isspace |>.mem member)
      have size : (line.takeWhile isspace).length + (line.dropWhile isspace).length = line.length := by
        rw [← List.length_append, split]
      -- What follows a word is the end, or a blank and the rest of the line.
      have goesOn : ∀ word : Word, word.Fine → ∀ after, line.dropWhile isspace = word.render ++ after →
          (∀ c ∈ after.head?, isspace c = true) → ∃ words ending, Reads line words ending := by
        intro word fine after cut blank
        obtain ⟨c, body, head, _⟩ := word_head word fine
        rw [cut] at split size rest'
        cases after with
        | nil => exact ⟨[word], .finish, by rw [← split, List.append_nil]; exact .last _ word white fine⟩
        | cons sep rest =>
            have shorter : rest.length ≤ length := by
              rw [head] at size
              simp only [List.length_append, List.length_cons] at size
              omega
            obtain ⟨words, ending, reads⟩ := ih rest shorter fun c member => rest' c (by simp [member])
            exact ⟨word :: words,
              ending, by rw [← split]; exact .more _ word sep rest words ending white fine (blank sep rfl) reads⟩
      cases body : line.dropWhile isspace with
      | nil => exact ⟨[], .finish, by rw [← split, body, List.append_nil]; exact .finish _ white⟩
      | cons c rest =>
          rw [body] at rest'
          have nonzero' := List.forall_mem_cons.mp rest'
          have solid : isspace c = false := by
            have stops := List.head?_dropWhile_not isspace line
            rw [body] at stops
            exact stops
          by_cases quote : c = 34
          · subst quote
            rcases open_or_closed 34 rest with opened | ⟨raw, after, rfl, opened, ends⟩
            · exact ⟨[], .unclosed rest, by rw [← split, body]; exact .unclosed _ rest white nonzero'.2 opened⟩
            · have rawNonzero : ∀ c ∈ raw, c ≠ 0 := fun c member => nonzero'.2 c (List.mem_append_left _ member)
              obtain ⟨content, spelt, fine⟩ := open_escape raw.length 34 raw (Nat.le_refl _)
                (by decide) opened rawNonzero ends
              have cut : line.dropWhile isspace = (Word.quoted content).render ++ after := by
                rw [body, Word.render, spelt]
                simp
              cases after with
              | nil => exact goesOn (.quoted content) fine [] cut (by simp)
              | cons d after =>
                  by_cases blank : isspace d = true
                  · exact goesOn (.quoted content) fine (d :: after) cut (by simpa using blank)
                  · refine ⟨[], .glued content (d :: after), ?_⟩
                    rw [← split, cut]
                    exact .glued _ content d after white fine
                      (fun c member => nonzero'.2 c (List.mem_append_right _ (List.mem_cons_of_mem 34 member)))
                        (by simpa using blank)
          · have cut : line.dropWhile isspace = (c :: rest.takeWhile fun d => !isspace d) ++ rest.dropWhile fun d =>
              !isspace d := by
              rw [body, List.cons_append, List.takeWhile_append_dropWhile]
            have fine : (Word.bare (c :: rest.takeWhile fun d => !isspace d)).Fine := by
              refine ⟨by simp, by simpa using quote, List.forall_mem_cons.mpr ⟨⟨nonzero'.1, solid⟩, fun d member => ⟨?_, ?_⟩⟩⟩
              · exact nonzero'.2 d (List.takeWhile_prefix _ |>.mem member)
              · simpa using List.mem_takeWhile_imp member
            refine goesOn _ fine _ cut fun d head => ?_
            have stops := List.head?_dropWhile_not (fun d => !isspace d) rest
            rw [Option.mem_def] at head
            rw [head] at stops
            simpa using stops

-- The line is what comes before the first NUL, and before the last byte.
def lineOf (command : List UInt8) : List UInt8 :=
  command.dropLast.takeWhile (· ≠ 0)

theorem lineOf_nonzero (command : List UInt8) : ∀ c ∈ lineOf command, c ≠ 0 := by
  intro c member
  simpa using List.mem_takeWhile_imp member

theorem command_line (command : List UInt8) (received : command ≠ []) :
    ∃ behind, store command (command.length - 1) 0 = some (lineOf command ++ 0 :: behind) := by
  obtain ⟨body, last, rfl⟩ : ∃ body last, command = body ++ [last] :=
    ⟨command.dropLast, command.getLast received, (List.dropLast_append_getLast received).symm⟩
  have stored := store_append body [] last 0
  have cut : body.takeWhile (· ≠ 0) ++ body.dropWhile (· ≠ 0) = body := List.takeWhile_append_dropWhile
  rw [List.length_append, List.length_singleton, Nat.add_sub_cancel, stored, lineOf, List.dropLast_concat]
  cases rest : body.dropWhile (· ≠ 0) with
  | nil =>
      rw [rest, List.append_nil] at cut
      exact ⟨[], by rw [cut]⟩
  | cons c rest' =>
      have zero : c = 0 := by
        have stops := List.head?_dropWhile_not (fun b : UInt8 => decide (b ≠ 0)) body
        rw [rest] at stops
        simpa using stops
      subst zero
      refine ⟨rest' ++ [0], ?_⟩
      rw [rest] at cut
      rw [← List.cons_append, ← List.append_assoc, cut]

theorem reads_length (line : List UInt8) (words : List Word) (ending : Ending) (reads : Reads line words ending) :
    words.length ≤ line.length := by
  induction reads with
  | finish gap => exact Nat.zero_le _
  | unclosed gap rest => exact Nat.zero_le _
  | glued gap content c rest => exact Nat.zero_le _
  | last gap word white fine =>
      obtain ⟨c, rest, head, _⟩ := word_head word fine
      rw [head]
      simp only [List.length_cons, List.length_append, List.length_nil]
      omega
  | more gap word sep rest words ending white fine space _ ih =>
      simp only [List.length_cons, List.length_append]
      omega

def farewell (ctxi : Nat) (line : List UInt8) : Bool :=
  line = text "quit" ∨ (line = text "exit" ∧ ctxi = 0)

def ctxiAfter (ctxi : Nat) (line : List UInt8) : Nat :=
  if line = text "exit" then ctxi - 1 else ctxi

theorem read_verdict (ctxi : Nat) (command : List UInt8) (received : command ≠ []) (words : List Word) (ending : Ending)
    (reads : Reads (lineOf command) words ending) :
    controlSocketRead true false ctxi command =
      some (if farewell ctxi (lineOf command) then .goodBye
        else .split (ctxiAfter ctxi (lineOf command)) (verdict [] words ending)) := by
  obtain ⟨behind, stored⟩ := command_line command received
  have line : cstring (lineOf command ++ 0 :: behind) 0 = lineOf command :=
    cstring_at [] (lineOf command) behind 0 rfl (lineOf_nonzero command)
  have short := reads_length (lineOf command) words ending reads
  have split := splitLoop_reads (lineOf command) words ending reads
    ((lineOf command ++ 0 :: behind).length + 1) [] behind [] []
    (fun _ => rfl) (by simp only [List.length_append]; omega)
  rw [List.nil_append, List.length_nil] at split
  rw [controlSocketRead, if_neg (by decide), if_neg (by decide), stored]
  simp only [Option.bind_eq_bind, Option.bind_some, line]
  by_cases bye : lineOf command = text "quit" ∨ (lineOf command = text "exit" ∧ ctxi = 0)
  · have goes : farewell ctxi (lineOf command) = true := decide_eq_true bye
    rw [if_pos bye, goes, if_pos rfl]
  · have stays : farewell ctxi (lineOf command) = false := decide_eq_false bye
    rw [if_neg bye, stays, if_neg Bool.false_ne_true, split]
    rfl

theorem verdict_words (done : List (List UInt8)) (words : List Word) (taken : ∀ word ∈ words, word.plain = false)
    (few : done.length + words.length ≤ 127) : verdict done words .finish = .words
    (done ++ words.map Word.content) := by
  induction words generalizing done with
  | nil =>
      have room : done.length < argvSize := Nat.lt_succ_of_le few
      rw [verdict, List.map_nil, List.append_nil]
      exact if_pos room
  | cons word words ih =>
      have taken' := List.forall_mem_cons.mp taken
      have few' : (done ++ [word.content]).length + words.length ≤ 127 := by
        simp only [List.length_append, List.length_cons, List.length_nil] at few ⊢
        omega
      have room : ¬ argvSize ≤ done.length := by
        simp only [argvSize, List.length_cons] at few ⊢
        omega
      rw [verdict, if_neg room, taken'.1, if_neg Bool.false_ne_true, ih _ taken'.2 few']
      simp

theorem verdict_reply (done : List (List UInt8)) (words : List Word) (ending : Ending) (message : List UInt8)
    (bad : badEnding ending = some message) (taken : ∀ word ∈ words, word.plain = false)
    (few : done.length + words.length ≤ 127) :
    verdict done words ending = .reply (done.length + words.length + 1) message := by
  induction words generalizing done with
  | nil =>
      have room : ¬ argvSize ≤ done.length := Nat.not_le.mpr (Nat.lt_succ_of_le few)
      rw [verdict, bad]
      exact if_neg room
  | cons word words ih =>
      have taken' := List.forall_mem_cons.mp taken
      have few' : (done ++ [word.content]).length + words.length ≤ 127 := by
        simp only [List.length_append, List.length_cons, List.length_nil] at few ⊢
        omega
      have room : ¬ argvSize ≤ done.length := by
        simp only [argvSize, List.length_cons] at few ⊢
        omega
      rw [verdict, if_neg room, taken'.1, if_neg Bool.false_ne_true, ih _ taken'.2 few']
      congr 1
      simp only [List.length_append, List.length_cons, List.length_nil]
      omega

theorem verdict_null (done : List (List UInt8)) (words : List Word) (ending : Ending) :
    (∃ stored, verdict done words ending = .nullWrite stored) ↔
      ∃ word ∈ words.take (argvSize - done.length), word.plain = true := by
  induction words generalizing done with
  | nil =>
      simp only [List.take_nil, List.not_mem_nil, false_and, exists_false, iff_false, not_exists]
      intro stored
      rw [verdict]
      split
      · split <;> simp
      · split <;> simp
  | cons word words ih =>
      rw [verdict]
      by_cases full : argvSize ≤ done.length
      · rw [if_pos full, Nat.sub_eq_zero_of_le full]
        simp
      · obtain ⟨left, more⟩ : ∃ n, argvSize - done.length = n + 1 := ⟨argvSize - done.length - 1, by omega⟩
        have left' : argvSize - (done ++ [word.content]).length = left := by
          simp only [List.length_append, List.length_singleton]
          omega
        rw [if_neg full, more, List.take_succ_cons]
        cases plain : word.plain with
        | true => simp [plain]
        | false =>
            rw [if_neg Bool.false_ne_true, ih, left']
            simp [plain]

theorem quoted_in_line (line : List UInt8) (words : List Word) (ending : Ending) (reads : Reads line words ending) :
    (∀ word ∈ words, word.plain = true → 34 ∈ line) ∧ (∀ message, badEnding ending = some message → 34 ∈ line) := by
  have inside : ∀ word : Word, word.plain = true → 34 ∈ word.render := by
    intro word plain
    cases word with
    | bare text => cases plain
    | quoted content => exact List.mem_cons_self
  induction reads with
  | finish gap =>
      exact ⟨fun word member => absurd member List.not_mem_nil, fun message bad => by cases bad⟩
  | unclosed gap rest => exact ⟨fun word member => absurd member List.not_mem_nil, fun _ _ => by simp⟩
  | glued gap content c rest =>
      exact ⟨fun word member => absurd member List.not_mem_nil, fun _ _ => by simp [Word.render]⟩
  | last gap word =>
      refine ⟨fun word' member plain => ?_, fun message bad => by cases bad⟩
      rw [List.mem_singleton.mp member] at plain
      exact List.mem_append_right gap (inside word plain)
  | more gap word sep rest words ending _ _ _ _ ih =>
      refine ⟨fun word' member plain => ?_, fun message bad => ?_⟩
      · rcases List.mem_cons.mp member with rfl | later
        · exact List.mem_append_right gap (List.mem_append_left _ (inside word' plain))
        · exact List.mem_append_right gap (List.mem_append_right _ (List.mem_cons_of_mem sep (ih.1 word' later plain)))
      · exact List.mem_append_right gap (List.mem_append_right _ (List.mem_cons_of_mem sep (ih.2 message bad)))

theorem farewell_quoteless (ctxi : Nat) (line : List UInt8) (bye : farewell ctxi line = true) : 34 ∉ line := by
  rcases of_decide_eq_true bye with quit | ⟨leave, _⟩
  · rw [quit]
    decide
  · rw [leave]
    decide

-- What a line has to come to: its words, or the text about its bad ending, and in
-- any case nothing is written through NULL.
structure Quoting (ctxi : Nat) (command : List UInt8) : Prop where
  words : ∀ words, Reads (lineOf command) words .finish → words.length ≤ 127 → farewell ctxi (lineOf command) = false →
    controlSocketRead true false ctxi command =
      some (.split (ctxiAfter ctxi (lineOf command)) (.words (words.map Word.content)))
  replies : ∀ words ending message, Reads (lineOf command) words ending → badEnding ending = some message →
    words.length ≤ 127 → controlSocketRead true false ctxi command =
      some (.split (ctxiAfter ctxi (lineOf command)) (.reply (words.length + 1) message))
  inside : ∃ outcome, controlSocketRead true false ctxi command = some outcome ∧
    ∀ ctxi' stored, outcome ≠ .split ctxi' (.nullWrite stored)

def Escaped (command : List UInt8) : Prop :=
  ∀ words ending, Reads (lineOf command) words ending → ∀ word ∈ words.take 128, word.plain = false

theorem escaped_inside (ctxi : Nat) (command : List UInt8) (received : command ≠ []) :
    (∃ outcome, controlSocketRead true false ctxi command = some outcome ∧
      ∀ ctxi' stored, outcome ≠ .split ctxi' (.nullWrite stored)) ↔ Escaped command := by
  constructor
  · rintro ⟨outcome, read, never⟩ words ending reads word member
    by_contra found
    have plain : word.plain = true := by simpa using found
    rw [read_verdict ctxi command received words ending reads] at read
    cases bye : farewell ctxi (lineOf command) with
    | true =>
        exact farewell_quoteless ctxi _ bye ((quoted_in_line _ words ending reads).1 word
          (List.mem_of_mem_take member) plain)
    | false =>
        obtain ⟨stored, null⟩ := (verdict_null [] words ending).mpr ⟨word, member, plain⟩
        rw [bye, if_neg Bool.false_ne_true, null] at read
        exact never _ stored (Option.some.inj read).symm
  · intro escaped
    obtain ⟨words, ending, reads⟩ := line_reads _ (lineOf command) (Nat.le_refl _) (lineOf_nonzero command)
    refine ⟨_, read_verdict ctxi command received words ending reads, fun ctxi' stored same => ?_⟩
    cases bye : farewell ctxi (lineOf command) with
    | true =>
        rw [bye, if_pos rfl] at same
        cases same
    | false =>
        rw [bye, if_neg Bool.false_ne_true] at same
        obtain ⟨_, null⟩ := Outcome.split.inj same
        obtain ⟨word, member, plain⟩ := (verdict_null [] words ending).mp ⟨stored, null⟩
        rw [escaped words ending reads word member] at plain
        cases plain

theorem control_socket_quoting_iff (ctxi : Nat) (command : List UInt8) (received : command ≠ []) :
    Quoting ctxi command ↔ Escaped command := by
  constructor
  · exact fun quoting => (escaped_inside ctxi command received).mp quoting.inside
  · intro escaped
    have taken : ∀ words ending, Reads (lineOf command) words ending → words.length ≤ 127 →
        ∀ word ∈ words, word.plain = false := by
      intro words ending reads few word member
      refine escaped words ending reads word ?_
      rwa [List.take_of_length_le (by omega)]
    refine ⟨fun words reads few stays => ?_, fun words ending message reads bad few => ?_,
      (escaped_inside ctxi command received).mpr escaped⟩
    · rw [read_verdict ctxi command received words .finish reads, stays, if_neg Bool.false_ne_true,
        verdict_words [] words (taken words .finish reads few) (by simpa using few), List.nil_append]
    · have stays : farewell ctxi (lineOf command) = false := by
        cases bye : farewell ctxi (lineOf command) with
        | false => rfl
        | true => exact absurd ((quoted_in_line _ words ending reads).2 message bad) (farewell_quoteless ctxi _ bye)
      rw [read_verdict ctxi command received words ending reads, stays, if_neg Bool.false_ne_true,
        verdict_reply [] words ending message bad (taken words ending reads few) (by simpa using few), List.length_nil,
        Nat.zero_add]

theorem control_socket_quoting_say : Quoting 0 (text "say \"a \\\"b\\\"\" now\n") := by
  refine (control_socket_quoting_iff 0 _ (by decide)).mpr ((escaped_inside 0 _ (by decide)).mp ⟨_, rfl, ?_⟩)
  intro ctxi' stored same
  cases same

theorem control_socket_quoting_null : ¬ Quoting 0 (text "\"a\"\n") := by
  intro quoting
  have line : lineOf (text "\"a\"\n") = [] ++ (Word.quoted [97]).render := by decide
  have reads : Reads (lineOf (text "\"a\"\n")) [.quoted [97]] .finish := by
    rw [line]
    exact .last [] (.quoted [97]) (by simp [White]) ⟨by simp, by decide⟩
  have split := quoting.words [.quoted [97]] reads (by decide) (by decide)
  revert split
  decide

end ZyAgf.Pppoe.ControlSocket
