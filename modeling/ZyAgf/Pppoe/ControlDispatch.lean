import ZyAgf.Pppoe.ControlQuoting

set_option autoImplicit false

namespace ZyAgf.Pppoe.ControlSocket

def Split.stored : Split → Nat
  | .words argv => argv.length
  | .reply stored _ => stored
  | .nullWrite stored => stored
  | .overrun stored => stored

def Outcome.stored : Outcome → Nat
  | .closeout => 0
  | .goodBye => 0
  | .split _ result => result.stored

-- The words that a line begins. The bad ending is one, and the code gets no further
-- than a quoted word with nothing to escape.
def begun : List Word → Ending → Nat
  | [], ending => if badEnding ending = none then 0 else 1
  | word :: words, ending => if word.plain then 1 else begun words ending + 1

theorem begun_le (words : List Word) (ending : Ending) : begun words ending ≤ words.length + 1 := by
  induction words with
  | nil =>
      rw [begun]
      split <;> simp
  | cons word words ih =>
      rw [begun, List.length_cons]
      split <;> omega

theorem verdict_overrun (done : List (List UInt8)) (words : List Word) (ending : Ending) (stored : Nat)
    (runsOver : verdict done words ending = .overrun stored) : argvSize ≤ stored := by
  induction words generalizing done with
  | nil =>
      rw [verdict] at runsOver
      split at runsOver
      · split at runsOver
        · cases runsOver
        · next full =>
            obtain rfl := Split.overrun.inj runsOver
            exact Nat.not_lt.mp full
      · split at runsOver
        · next full =>
            obtain rfl := Split.overrun.inj runsOver
            exact full
        · cases runsOver
  | cons word words ih =>
      rw [verdict] at runsOver
      split at runsOver
      · next full =>
          obtain rfl := Split.overrun.inj runsOver
          exact full
      · split at runsOver
        · cases runsOver
        · exact ih _ runsOver

theorem verdict_stored (done : List (List UInt8)) (words : List Word) (ending : Ending) :
    (verdict done words ending).stored ≤ 127 ↔ done.length + begun words ending ≤ 127 := by
  induction words generalizing done with
  | nil =>
      rw [verdict, begun]
      cases bad : badEnding ending with
      | none =>
          rw [if_pos rfl]
          dsimp only
          split <;> exact Iff.rfl
      | some message =>
          rw [if_neg (Option.some_ne_none message)]
          dsimp only
          split
          · next full =>
              simp only [Split.stored, argvSize] at full ⊢
              omega
          · exact Iff.rfl
  | cons word words ih =>
      rw [verdict, begun]
      by_cases full : argvSize ≤ done.length
      · rw [if_pos full]
        simp only [Split.stored, argvSize] at full ⊢
        omega
      · rw [if_neg full]
        cases plain : word.plain with
        | true => exact Iff.rfl
        | false =>
            rw [if_neg Bool.false_ne_true, if_neg Bool.false_ne_true, ih, List.length_append, List.length_singleton]
            omega

theorem handleCommand_inside (subs : List ControlCommand) (words : List (List UInt8)) (argi : Nat)
    (within : argi ≤ words.length) : (handleCommand subs (words.map some ++ [none]) argi).isSome = true := by
  induction left : words.length - argi generalizing subs argi with
  | zero =>
      obtain rfl : argi = words.length := by omega
      have ends : (words.map some ++ [none])[words.length]? = some none := by simp
      rw [handleCommand]
      split
      · next missing =>
          rw [ends] at missing
          cases missing
      · rfl
      · next word found =>
          rw [ends] at found
          cases found
  | succ left ih =>
      have inside : argi < words.length := by omega
      have here : (words.map some ++ [none])[argi]? = some (some words[argi]) := by
        rw [List.getElem?_append_left (by simpa using inside), List.getElem?_map, List.getElem?_eq_getElem inside]
        rfl
      rw [handleCommand]
      split
      · next missing =>
          rw [here] at missing
          cases missing
      · rfl
      · split
        · exact ih _ (argi + 1) inside (by omega)
        · rfl
        · rfl

-- At most 127 pointers are stored, so that the NULL behind them has its place, and
-- dispatch reads no further than to it.
structure WordLimit (ctxi : Nat) (command : List UInt8) : Prop where
  few : ∃ outcome, controlSocketRead true false ctxi command = some outcome ∧ outcome.stored ≤ 127
  room : ∀ ctxi' stored, controlSocketRead true false ctxi command ≠ some (.split ctxi' (.overrun stored))
  dispatch : ∀ ctxi' argv, controlSocketRead true false ctxi command = some (.split ctxi' (.words argv)) →
    ∀ root : List ControlCommand, (handleCommand root (argv.map some ++ [none]) 0).isSome = true

theorem control_socket_words_iff (ctxi : Nat) (command : List UInt8) (received : command ≠ []) :
    WordLimit ctxi command ↔
      ∀ words ending, Reads (lineOf command) words ending → begun words ending ≤ 127 := by
  constructor
  · rintro ⟨⟨outcome, read, few⟩, _, _⟩ words ending reads
    rw [read_verdict ctxi command received words ending reads] at read
    obtain rfl := Option.some.inj read
    cases bye : farewell ctxi (lineOf command) with
    | true =>
        -- The two lines that say good-bye are four bytes long.
        have short : (lineOf command).length ≤ 4 := by
          rcases of_decide_eq_true bye with quit | ⟨leave, _⟩
          · rw [quit]
            decide
          · rw [leave]
            decide
        have most := begun_le words ending
        have size := reads_length _ words ending reads
        omega
    | false =>
        rw [bye, if_neg Bool.false_ne_true] at few
        simpa using (verdict_stored [] words ending).mp few
  · intro limit
    obtain ⟨words, ending, reads⟩ := line_reads _ (lineOf command) (Nat.le_refl _) (lineOf_nonzero command)
    have read := read_verdict ctxi command received words ending reads
    have few := (verdict_stored [] words ending).mpr (by simpa using limit words ending reads)
    refine ⟨⟨_, read, ?_⟩, fun ctxi' stored runsOver => ?_, fun ctxi' argv _ root =>
      handleCommand_inside root argv 0 (Nat.zero_le _)⟩
    · split
      · exact Nat.zero_le _
      · exact few
    · rw [read] at runsOver
      cases bye : farewell ctxi (lineOf command) with
      | true =>
          rw [bye, if_pos rfl] at runsOver
          cases Option.some.inj runsOver
      | false =>
          rw [bye, if_neg Bool.false_ne_true] at runsOver
          obtain ⟨_, runsOver⟩ := Outcome.split.inj (Option.some.inj runsOver)
          have beyond := verdict_overrun [] words ending stored runsOver
          rw [runsOver] at few
          exact absurd few (Nat.not_le.mpr beyond)

theorem control_socket_words_show : WordLimit 0 (text "show sessions\n") := by
  refine (control_socket_words_iff 0 _ (by decide)).mpr fun words ending reads => ?_
  have size := reads_length _ words ending reads
  have most := begun_le words ending
  have line : (lineOf (text "show sessions\n")).length = 13 := by decide
  omega

-- A hundred and twenty-eight words of one letter leave no room for the NULL.
def letters : List UInt8 := (List.replicate 128 (text "a ")).flatten

theorem letter_words (n : Nat) :
    Reads ((List.replicate n (text "a ")).flatten ++ [97]) (List.replicate (n + 1) (.bare [97])) .finish := by
  have fine : (Word.bare [97]).Fine := by
    simp only [Word.Fine]
    decide +kernel
  have white : White [] := fun c member => absurd member List.not_mem_nil
  induction n with
  | zero => exact .last [] (.bare [97]) white fine
  | succ n ih =>
      rw [List.replicate_succ, List.flatten_cons, List.append_assoc, List.replicate_succ]
      exact .more [] (.bare [97]) 32 _ _ .finish white fine (by decide) ih

theorem control_socket_words_full : letters.length ≤ 2048 ∧ ¬ WordLimit 0 letters := by
  refine ⟨by decide +kernel, fun limit => ?_⟩
  have line : lineOf letters = (List.replicate 127 (text "a ")).flatten ++ [97] := by decide +kernel
  have reads := letter_words 127
  rw [← line] at reads
  have read := read_verdict 0 letters (by decide) _ _ reads
  have runsOver : verdict [] (List.replicate 128 (.bare [97])) .finish = .overrun 128 := by decide +kernel
  have stays : farewell 0 (lineOf letters) = false := by decide +kernel
  rw [stays, if_neg Bool.false_ne_true, runsOver] at read
  exact limit.room _ 128 read

end ZyAgf.Pppoe.ControlSocket
