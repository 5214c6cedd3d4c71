import Mathlib.Data.List.TakeWhile
import ZyAgf.Xl2tpd.Options

set_option autoImplicit false

namespace ZyAgf.Xl2tpd.OptionLines

open Options (blank)

variable {σ : Type}

-- A loop that goes on while the byte under the pointer is of a kind. It has no
-- result if it reads behind the buffer.
def whileAt (p : UInt8 → Bool) (buf : List UInt8) (i : Nat) : Option Nat :=
  ((buf.drop i).findIdx? fun byte => !p byte).map (i + ·)

-- Where the token starts, if there is one, the buffer with the zero behind it,
-- and where the next call goes on.
def strtok (delim : UInt8) (buf : List UInt8) (i : Nat) : Option (Option Nat × List UInt8 × Nat) := do
  let start ← whileAt (· == delim) buf i
  if buf[start]? = some 0 then some (none, buf, start)
  else
    let stop ← whileAt (fun byte => byte != delim && byte != 0) buf start
    if buf[stop]? = some 0 then some (some start, buf, stop) else some (some start, buf.set stop 0, stop + 1)

-- Where the options of a name begin, in either command: the name is taken off, and
-- they follow the zero that ends it.
def optionsAt (buf : List UInt8) : Option (Option (List UInt8 × Nat)) := do
  match ← strtok 32 buf 1 with
  | (none, _, _) => some none
  | (some tunstr, buf, _) =>
      let stop ← whileAt (· != 0) buf tunstr
      some (some (buf, stop + 1))

-- The names of the entries there are, and whether there is memory for one more.
structure Entries where
  lnslist : List CString
  deflns : Bool
  laclist : List CString
  memory : Bool

-- find_lns_by_name finds an entry of the name.
def Entries.findLnsByName (entries : Entries) (name : CString) : Bool :=
  if name = text "default" then entries.deflns else entries.lnslist.any (sameName · name)

-- control_handle_lac_add_modify up to parse_one_line: it returns if there is no
-- name, or an entry has it already.
def lacOptionsAt (entries : Entries) (buf : List UInt8) : Option (Option (List UInt8 × Nat)) := do
  match ← strtok 32 buf 1 with
  | (none, _, _) => some none
  | (some tunstr, buf, _) =>
      let stop ← whileAt (· != 0) buf tunstr
      if entries.laclist.any (sameName (cstring (buf.drop tunstr))) then some none
      else if entries.memory then some (some (buf, stop + 1)) else some none

-- control_handle_lns_add_modify up to parse_one_line: the name is compared without
-- a look at whether there is one.
def lnsOptionsAt (entries : Entries) (buf : List UInt8) : Option (Option (List UInt8 × Nat)) := do
  match ← strtok 32 buf 1 with
  | (none, _, _) => none
  | (some tunstr, buf, _) =>
      if entries.findLnsByName (cstring (buf.drop tunstr)) || entries.memory then
        let stop ← whileAt (· != 0) buf tunstr
        some (some (buf, stop + 1))
      else some none

inductive AddModify where
  | lac
  | lns
deriving DecidableEq

def AddModify.letter : AddModify → UInt8
  | .lac => 97
  | .lns => 122

def AddModify.optionsAt (entries : Entries) : AddModify → List UInt8 → Option (Option (List UInt8 × Nat))
  | .lac => lacOptionsAt entries
  | .lns => lnsOptionsAt entries

def ditch (buf : List UInt8) (s : Nat) : Nat → Option (List UInt8)
  | 0 => some buf
  | n + 1 => buf[s + n]?.bind fun byte => if blank byte then ditch (buf.set (s + n) 0) s n else some buf

def back (buf : List UInt8) (s : Nat) : Nat → Option Nat
  | 0 => some s
  | n + 1 => buf[s + n]?.bind fun byte => if blank byte then back buf s n else some (s + n + 1)

-- One round of the loop: it goes round again on the same token, it ends with an
-- error, or the option is taken and the next token asked for.
inductive Turn (σ : Type) where
  | again (buf : List UInt8) (s : Nat)
  | refused (state : σ)
  | taken (buf : List UInt8) (state : σ)

-- What follows once the token is trimmed: it is cut at the first '='.
def takeOption (option : σ → CString → CString → Int × σ) (buf : List UInt8) (s : Nat) (state : σ) : Option (Turn σ) :=
    do
  let t ← whileAt (fun byte => byte != 61 && byte != 0) buf s
  if buf[t]? = some 0 then some (.refused state)
  else
    let d ← back buf s (t - s)
    let buf := buf.set d 0
    let t ← whileAt (fun byte => byte != 0 && blank byte) buf (t + 1)
    let called := option state (cstring (buf.drop s)) (cstring (buf.drop t))
    some (if called.1 = -1 ∨ called.1 = -2 then .refused called.2 else .taken buf called.2)

def turn (option : σ → CString → CString → Int × σ) (buf : List UInt8) (s : Nat) (state : σ) : Option (Turn σ) := do
  let s ← whileAt (fun byte => blank byte && byte != 0) buf s
  let t ← whileAt (· != 0) buf s
  let buf ← ditch buf s (t + 1 - s)
  if buf[s]? = some 0 then some (.again buf s) else takeOption option buf s state

inductive Outcome (σ : Type) where
  | outside
  | returned (ret : Int) (state : σ)

def parseFrom (option : σ → CString → CString → Int × σ) : Nat → List UInt8 → Option Nat → Nat → σ → Option (Outcome σ)
  | 0, _, _, _, _ => none
  | _ + 1, _, none, _, state => some (.returned 0 state)
  | fuel + 1, buf, some s, save, state =>
      match turn option buf s state with
      | none => some .outside
      | some (.again buf s) => parseFrom option fuel buf (some s) save state
      | some (.refused state) => some (.returned (-1) state)
      | some (.taken buf state) =>
          match strtok 59 buf save with
          | none => some .outside
          | some (s, buf, save) => parseFrom option fuel buf s save state

-- The options are read by parse_one_option, which is handed their two halves.
def parseOneLine (option : σ → CString → CString → Int × σ) (fuel : Nat) (buf : List UInt8) (bufp : Nat) (state : σ) :
    Option (Outcome σ) :=
  match strtok 59 buf bufp with
  | none => some .outside
  | some (s, buf, save) => parseFrom option fuel buf s save state

-- The tokens in a stretch of memory, up to its first zero, and whether it has one.
def tokensFrom : List UInt8 → CString → List CString × Bool
  | [], _ => ([], false)
  | byte :: rest, token =>
      let found := if token = [] then [] else [token]
      if byte = 0 then (found, true)
      else if byte = 59 then
        let later := tokensFrom rest []
        (found ++ later.1, later.2)
      else tokensFrom rest (token ++ [byte])

def trimEnd (token : CString) : CString := (token.reverse.dropWhile blank).reverse

def wordOf (token : CString) : CString := trimEnd ((token.dropWhile blank).takeWhile (· != 61))

def valueOf (token : CString) : CString := (((trimEnd token).dropWhile (· != 61)).drop 1).dropWhile blank

-- No token is blank before one is refused, and if none is, the memory has a zero.
def Fine (option : σ → CString → CString → Int × σ) (ends : Bool) : σ → List CString → Prop
  | _, [] => ends = true
  | state, token :: rest =>
      token.all blank = false ∧
        (61 ∈ token →
          let called := option state (wordOf token) (valueOf token)
          called.1 = -1 ∨ called.1 = -2 ∨ Fine option ends called.2 rest)

def AddModify.reads (entries : Entries) (name : CString) : AddModify → Bool
  | .lac => !entries.laclist.any (sameName name) && entries.memory
  | .lns => entries.findLnsByName name || entries.memory

def named (rest : CString) : CString := rest.dropWhile (· == 32)

def nameOf (rest : CString) : CString := (named rest).takeWhile (· != 32)

-- The memory that the options are read from: what follows the name and its blank,
-- or, with nothing behind the name, what stands in the buffer behind the command.
def optionsMemory (entries : Entries) (command : AddModify) (rest : CString) (behind : List UInt8) : Option
    (List UInt8) :=
  if nameOf rest = [] ∨ ¬ command.reads entries (nameOf rest) then none
  else
    match (named rest).dropWhile (· != 32) with
    | [] => some behind
    | _ :: line => some (line ++ 0 :: behind)

-- What is wanted of an add command, with the memory behind it up to the end of
-- the buffer: every access is inside, and the loop ends after as many rounds as
-- there are tokens, and one.
structure AlwaysParses (option : σ → CString → CString → Int × σ) (entries : Entries) (command : AddModify)
    (rest : CString)
    (behind : List UInt8) (state : σ) : Prop where
  split : command.optionsAt entries (command.letter :: rest ++ 0 :: behind) ≠ none
  parsed : ∀ buf bufp, command.optionsAt entries (command.letter :: rest ++ 0 :: behind) = some (some (buf, bufp)) →
    ∃ ret after, ∀ fuel, (tokensFrom (buf.drop bufp) []).1.length < fuel →
      parseOneLine option fuel buf bufp state = some (.returned ret after)

-- An LNS command has a name, and the options that are read have no blank token
-- before one that is refused.
def NoBlankToken (option : σ → CString → CString → Int × σ) (entries : Entries) (command : AddModify) (rest : CString)
    (behind : List UInt8) (state : σ) : Prop :=
  (command = .lns → nameOf rest ≠ []) ∧
    ∀ mem ∈ optionsMemory entries command rest behind, Fine option (tokensFrom mem []).2 state (tokensFrom mem []).1

instance decideFine (option : σ → CString → CString → Int × σ) (ends : Bool) :
    (state : σ) → (tokens : List CString) → Decidable (Fine option ends state tokens)
  | _, [] => inferInstanceAs (Decidable (ends = true))
  | state, token :: rest =>
      have := decideFine option ends (option state (wordOf token) (valueOf token)).2 rest
      inferInstanceAs (Decidable (token.all blank = false ∧
        (61 ∈ token → (option state (wordOf token) (valueOf token)).1 = -1 ∨
          (option state (wordOf token) (valueOf token)).1 = -2 ∨ _)))

instance (option : σ → CString → CString → Int × σ) (entries : Entries) (command : AddModify) (rest : CString)
    (behind : List UInt8)
    (state : σ) : Decidable (NoBlankToken option entries command rest behind state) :=
  inferInstanceAs (Decidable (_ ∧ ∀ mem ∈ optionsMemory entries command rest behind, _))

section Pointers

theorem whileAt_stop (p : UInt8 → Bool) (buf : List UInt8) (i : Nat) (run rest : List UInt8) (c : UInt8)
    (here : buf.drop i = run ++ c :: rest) (all : ∀ byte ∈ run, p byte = true) (stops : p c = false) :
    whileAt p buf i = some (i + run.length) := by
  have nothing : run.findIdx? (fun byte => !p byte) = none := by
    rw [List.findIdx?_eq_none_iff]
    intro byte member
    simp [all byte member]
  unfold whileAt
  rw [here, List.findIdx?_append, nothing, List.findIdx?_cons]
  simp [stops]

theorem whileAt_none (p : UInt8 → Bool) (buf : List UInt8) (i : Nat) (all : ∀ byte ∈ buf.drop i, p byte = true) :
    whileAt p buf i = none := by
  have nothing : (buf.drop i).findIdx? (fun byte => !p byte) = none := by
    rw [List.findIdx?_eq_none_iff]
    intro byte member
    simp [all byte member]
  unfold whileAt
  rw [nothing]
  rfl

theorem getElem?_here (buf : List UInt8) (i : Nat) (run rest : List UInt8) (c : UInt8)
    (here : buf.drop i = run ++ c :: rest) :
    buf[i + run.length]? = some c := by
  have first : (buf.drop i)[run.length]? = some c := by
    rw [here]
    simp
  rwa [List.getElem?_drop] at first

theorem trimEnd_blank (body white : List UInt8) (blanks : ∀ byte ∈ white, blank byte = true)
    (ends : ∀ last, body.getLast? = some last → blank last = false) : trimEnd (body ++ white) = body :=
  Options.blank_behind body white blanks ends

theorem trimEnd_split (token : CString) : ∃ white, token = trimEnd token ++ white ∧
    (∀ byte ∈ white, blank byte = true) ∧
    ∀ last, (trimEnd token).getLast? = some last → blank last = false := by
  refine ⟨(token.reverse.takeWhile blank).reverse, ?_, ?_, ?_⟩
  · unfold trimEnd
    rw [← List.reverse_append, List.takeWhile_append_dropWhile, List.reverse_reverse]
  · intro byte member
    exact List.mem_takeWhile_imp (List.mem_reverse.mp member)
  · intro last final
    unfold trimEnd at final
    rw [List.getLast?_reverse] at final
    have stopped := List.head?_dropWhile_not blank token.reverse
    rw [final] at stopped
    exact stopped

theorem cstring_ends (bytes rest : List UInt8) (nonzero : ∀ byte ∈ bytes, byte ≠ 0) : cstring
    (bytes ++ 0 :: rest) = bytes := by
  unfold cstring
  rw [List.takeWhile_append_of_pos (by simpa using nonzero)]
  simp

theorem set_append (front rest : List UInt8) (byte c : UInt8) :
    (front ++ byte :: rest).set front.length c = front ++ c :: rest := by
  simp

theorem ditch_append (front body white rest : List UInt8) (blanks : ∀ byte ∈ white, blank byte = true)
    (ends : ∀ last, body.getLast? = some last → blank last = false) :
    ditch (front ++ (body ++ white) ++ rest) front.length (body ++ white).length =
      some (front ++ (body ++ List.replicate white.length 0) ++ rest) := by
  induction white using List.reverseRecOn generalizing rest with
  | nil =>
      rw [List.append_nil, List.length_nil, List.replicate_zero, List.append_nil]
      cases body using List.reverseRecOn with
      | nil => rfl
      | append_singleton body last =>
          have nonblank := ends last (by simp)
          rw [List.length_append, List.length_singleton, ditch]
          have whole : front ++ (body ++ [last]) ++ rest = (front ++ body) ++ last :: rest := by simp
          have here : ((front ++ body) ++ last :: rest)[(front ++ body).length]? = some last := by simp
          rw [whole, ← List.length_append, here, Option.bind_some, if_neg (by simp [nonblank])]
  | append_singleton white last ih =>
      have size : (body ++ (white ++ [last])).length = (body ++ white).length + 1 := by simp [Nat.add_assoc]
      have whole : front ++ (body ++ (white ++ [last])) ++ rest = (front ++ (body ++ white)) ++ last :: rest := by simp
      have spot : front.length + (body ++ white).length = (front ++ (body ++ white)).length := by simp
      have isBlank := blanks last (by simp)
      rw [size, ditch, whole, spot]
      have here : (front ++ (body ++ white) ++ last :: rest)[(front ++ (body ++ white)).length]? = some last := by simp
      rw [here, Option.bind_some, if_pos isBlank, set_append]
      rw [ih (0 :: rest) fun byte member => blanks byte (List.mem_append_left _ member)]
      simp [List.replicate_succ']

theorem back_append (buf word white rest : List UInt8) (s : Nat) (here : buf.drop s = (word ++ white) ++ rest)
    (blanks : ∀ byte ∈ white, blank byte = true) (ends : ∀ last, word.getLast? = some last → blank last = false) :
    back buf s (word ++ white).length = some (s + word.length) := by
  induction white using List.reverseRecOn generalizing rest with
  | nil =>
      rw [List.append_nil] at here ⊢
      cases word using List.reverseRecOn with
      | nil => rfl
      | append_singleton word last =>
          have nonblank := ends last (by simp)
          have at_ := getElem?_here buf s word rest last (by rw [here]; simp)
          rw [List.length_append, List.length_singleton, back, at_, Option.bind_some, if_neg (by simp [nonblank])]
          rw [Nat.add_assoc]
  | append_singleton white last ih =>
      have size : (word ++ (white ++ [last])).length = (word ++ white).length + 1 := by simp [Nat.add_assoc]
      have at_ := getElem?_here buf s (word ++ white) rest last (by rw [here]; simp)
      rw [size, back, at_, Option.bind_some, if_pos (blanks last (by simp))]
      exact ih (last :: rest) (by rw [here]; simp) fun byte member => blanks byte (List.mem_append_left _ member)

end Pointers

section Tokens

-- How a stretch of memory looks to strtok: no token ends in it, it has none up to
-- its zero, or there is one, up to the zero or to a delimiter.
inductive Cut (delim : UInt8) : List UInt8 → Prop where
  | endless (seps token : List UInt8) (all : ∀ byte ∈ seps, byte = delim)
    (plain : ∀ byte ∈ token, byte ≠ delim ∧ byte ≠ 0) :
      Cut delim (seps ++ token)
  | nothing (seps rest : List UInt8) (all : ∀ byte ∈ seps, byte = delim) : Cut delim (seps ++ 0 :: rest)
  | last (seps : List UInt8) (first : UInt8) (token rest : List UInt8) (all : ∀ byte ∈ seps, byte = delim)
      (plain : ∀ byte ∈ first :: token, byte ≠ delim ∧ byte ≠ 0) : Cut delim (seps ++ (first :: token ++ 0 :: rest))
  | inner (seps : List UInt8) (first : UInt8) (token rest : List UInt8) (all : ∀ byte ∈ seps, byte = delim)
      (plain : ∀ byte ∈ first :: token, byte ≠ delim ∧ byte ≠ 0) : Cut delim (seps ++ (first :: token ++ delim :: rest))

theorem cut_any (delim : UInt8) (mem : List UInt8) : Cut delim mem := by
  have seps : ∀ byte ∈ mem.takeWhile (· == delim), byte = delim := fun byte member => by
    simpa using List.mem_takeWhile_imp member
  rw [← List.takeWhile_append_dropWhile (p := (· == delim)) (l := mem)]
  cases behind : mem.dropWhile (· == delim) with
  | nil => exact .endless _ [] seps (by simp)
  | cons first rest =>
      have other : first ≠ delim := by
        have stopped := List.head?_dropWhile_not (· == delim) mem
        rw [behind] at stopped
        simpa using stopped
      by_cases zero : first = 0
      · rw [zero]
        exact .nothing _ rest seps
      · have plain : ∀ byte ∈ first :: rest.takeWhile (fun byte => byte != delim && byte != 0), byte ≠ delim ∧
          byte ≠ 0 := by
          intro byte member
          rcases List.mem_cons.mp member with rfl | inside
          · exact ⟨other, zero⟩
          · simpa using List.mem_takeWhile_imp inside
        have whole := (List.takeWhile_append_dropWhile (p := fun byte => byte != delim && byte != 0) (l := rest)).symm
        cases after : rest.dropWhile (fun byte => byte != delim && byte != 0) with
        | nil =>
            rw [after, List.append_nil] at whole
            rw [whole]
            exact .endless _ (first :: _) seps plain
        | cons stop tail =>
            have stopped := List.head?_dropWhile_not (fun byte => byte != delim && byte != 0) rest
            rw [after] at whole stopped
            rw [whole]
            have kind : stop = delim ∨ stop = 0 := by
              by_cases isDelim : stop = delim
              · exact .inl isDelim
              · simp [isDelim] at stopped
                exact .inr stopped
            rcases kind with rfl | rfl
            · exact .inner _ first _ tail seps plain
            · exact .last _ first _ tail seps plain

theorem seps_run (delim : UInt8) (seps : List UInt8) (all : ∀ byte ∈ seps, byte = delim) : ∀ byte ∈ seps,
    (byte == delim) = true :=
  fun byte member => by simpa using all byte member

theorem plain_run (delim : UInt8) (token : List UInt8) (plain : ∀ byte ∈ token, byte ≠ delim ∧ byte ≠ 0) :
    ∀ byte ∈ token, (byte != delim && byte != 0) = true :=
  fun byte member => by simpa using plain byte member

theorem strtok_endless (delim : UInt8) (buf : List UInt8) (i : Nat) (seps token : List UInt8)
    (here : buf.drop i = seps ++ token)
    (all : ∀ byte ∈ seps, byte = delim) (plain : ∀ byte ∈ token, byte ≠ delim ∧ byte ≠ 0) : strtok delim buf i =
    none := by
  unfold strtok
  cases token with
  | nil =>
      rw [List.append_nil] at here
      rw [whileAt_none _ _ _ (by rw [here]; exact seps_run delim seps all)]
      rfl
  | cons first token =>
      have kinds := plain first List.mem_cons_self
      have start := whileAt_stop (· == delim) buf i seps token first here (seps_run delim seps all) (by simp [kinds.1])
      have there : buf[i + seps.length]? = some first := getElem?_here buf i seps token first here
      have ahead : buf.drop (i + seps.length) = first :: token := by
        rw [← List.drop_drop, here, List.drop_left]
      simp only [start, there, Option.bind_eq_bind, Option.bind_some, Option.some.injEq, kinds.2, if_false]
      rw [whileAt_none _ _ _ (by rw [ahead]; exact plain_run delim _ plain)]
      rfl

theorem strtok_nothing (delim : UInt8) (real : delim ≠ 0) (buf : List UInt8) (i : Nat) (seps rest : List UInt8)
    (here : buf.drop i = seps ++ 0 :: rest) (all : ∀ byte ∈ seps, byte = delim) :
    strtok delim buf i = some (none, buf, i + seps.length) := by
  have start := whileAt_stop (· == delim) buf i seps rest 0 here (seps_run delim seps all) (by simpa using real.symm)
  have there : buf[i + seps.length]? = some 0 := getElem?_here buf i seps rest 0 here
  unfold strtok
  simp only [start, there, Option.bind_eq_bind, Option.bind_some, if_true]

theorem strtok_token (delim : UInt8) (buf : List UInt8) (i : Nat) (seps : List UInt8) (first : UInt8)
    (token rest : List UInt8)
    (stop : UInt8) (here : buf.drop i = seps ++ (first :: token ++ stop :: rest)) (all : ∀ byte ∈ seps, byte = delim)
    (plain : ∀ byte ∈ first :: token, byte ≠ delim ∧ byte ≠ 0) (stops : stop = delim ∨ stop = 0) :
    strtok delim buf i =
      if stop = 0 then some (some (i + seps.length), buf, i + seps.length + (first :: token).length)
      else some (some (i + seps.length), buf.set (i + seps.length + (first :: token).length) 0,
        i + seps.length + (first :: token).length + 1) := by
  have kinds := plain first List.mem_cons_self
  have start := whileAt_stop (· == delim) buf i seps (token ++ stop :: rest) first (by simpa using here)
    (seps_run delim seps all) (by simp [kinds.1])
  have there : buf[i + seps.length]? = some first :=
    getElem?_here buf i seps (token ++ stop :: rest) first (by simpa using here)
  have ahead : buf.drop (i + seps.length) = first :: token ++ stop :: rest := by
    rw [← List.drop_drop, here, List.drop_left]
  have ends := whileAt_stop (fun byte => byte != delim && byte != 0) buf (i + seps.length)
    (first :: token) rest stop ahead
    (plain_run delim _ plain) (by rcases stops with rfl | rfl <;> simp)
  have last := getElem?_here buf (i + seps.length) (first :: token) rest stop ahead
  unfold strtok
  simp only [start, there, Option.bind_eq_bind, Option.bind_some, Option.some.injEq, kinds.2, if_false, ends, last]

theorem tokensFrom_seps (seps mem : List UInt8) (all : ∀ byte ∈ seps, byte = 59) : tokensFrom
    (seps ++ mem) [] = tokensFrom mem [] := by
  induction seps with
  | nil => rfl
  | cons byte seps ih =>
      obtain rfl := all byte List.mem_cons_self
      rw [List.cons_append, tokensFrom, ih fun byte member => all byte (List.mem_cons_of_mem _ member)]
      simp

theorem tokensFrom_plain (token mem : List UInt8) (found : CString) (plain : ∀ byte ∈ token, byte ≠ 59 ∧ byte ≠ 0) :
    tokensFrom (token ++ mem) found = tokensFrom mem (found ++ token) := by
  induction token generalizing found with
  | nil => rw [List.nil_append, List.append_nil]
  | cons byte token ih =>
      obtain ⟨inner, nonzero⟩ := plain byte List.mem_cons_self
      rw [List.cons_append, tokensFrom]
      simp only [inner, nonzero, if_false]
      rw [ih _ fun byte member => plain byte (List.mem_cons_of_mem _ member)]
      simp

theorem strtok_cases (buf : List UInt8) (save : Nat) :
    (strtok 59 buf save = none ∧ tokensFrom (buf.drop save) [] = ([], false)) ∨
    (∃ after, strtok 59 buf save = some (none, buf, after) ∧ tokensFrom (buf.drop save) [] = ([], true)) ∨
    (∃ start buf' save' token more, strtok 59 buf save = some (some start, buf', save') ∧
      buf'.drop start = token ++ 0 :: more ∧ (∀ byte ∈ token, byte ≠ 0) ∧ start + token.length ≤ save' ∧
      (buf'.drop save').length < (buf.drop save).length ∧
      tokensFrom (buf.drop save) [] = (token :: (tokensFrom (buf'.drop save') []).1,
        (tokensFrom (buf'.drop save') []).2)) := by
  have cut := cut_any 59 (buf.drop save)
  generalize here : buf.drop save = mem at cut
  cases cut with
  | endless seps token all plain =>
      refine .inl ⟨strtok_endless 59 buf save seps token here all plain, ?_⟩
      have ended := tokensFrom_plain token [] [] plain
      rw [List.append_nil] at ended
      rw [tokensFrom_seps seps token all, ended]
      rfl
  | nothing seps rest all =>
      refine .inr (.inl ⟨_, strtok_nothing 59 (by decide) buf save seps rest here all, ?_⟩)
      rw [tokensFrom_seps seps _ all]
      simp [tokensFrom]
  | last seps first token rest all plain =>
      have called := strtok_token 59 buf save seps first token rest 0 here all plain (.inr rfl)
      have ahead : buf.drop (save + seps.length) = first :: token ++ 0 :: rest := by
        rw [← List.drop_drop, here, List.drop_left]
      have behind : buf.drop (save + seps.length + (first :: token).length) = 0 :: rest := by
        rw [← List.drop_drop, ahead, List.drop_left]
      refine .inr (.inr ⟨_, _, _, first :: token, rest, called.trans (if_pos rfl), ahead, fun byte member =>
        (plain byte member).2,
        Nat.le_refl _, ?_, ?_⟩)
      · rw [behind]
        simp only [List.length_append, List.length_cons]
        omega
      · rw [behind, tokensFrom_seps seps _ all, tokensFrom_plain _ _ [] plain]
        simp [tokensFrom]
  | inner seps first token rest all plain =>
      have called := strtok_token 59 buf save seps first token rest 59 here all plain (.inl rfl)
      have ahead : buf.drop (save + seps.length) = first :: token ++ 59 :: rest := by
        rw [← List.drop_drop, here, List.drop_left]
      have cutThere : (buf.set (save + seps.length + (first :: token).length) 0).drop
        (save + seps.length) = first :: token ++ 0 :: rest := by
        rw [List.drop_set, if_neg (by omega), Nat.add_sub_cancel_left, ahead, set_append]
      have behind : (buf.set (save + seps.length + (first :: token).length) 0).drop
        (save + seps.length + (first :: token).length + 1) = rest := by
        rw [Nat.add_assoc (save + seps.length), ← List.drop_drop, cutThere, ← List.drop_drop, List.drop_left]
        rfl
      refine .inr (.inr ⟨_, _, _, first :: token, rest, called.trans (if_neg (by decide)), cutThere, fun byte member =>
        (plain byte member).2,
        Nat.le_succ _, ?_, ?_⟩)
      · rw [behind]
        simp only [List.length_append, List.length_cons]
        omega
      · rw [behind, tokensFrom_seps seps _ all, tokensFrom_plain _ _ [] plain]
        simp [tokensFrom]

end Tokens

section Turns

variable (option : σ → CString → CString → Int × σ)

theorem blank_ne (byte : UInt8) (nonblank : blank byte = false) : byte ≠ 0 := by
  rintro rfl
  exact absurd nonblank (by decide)

theorem buf_split (buf : List UInt8) (s : Nat) (byte : UInt8) (rest : List UInt8) (here : buf.drop s = byte :: rest) :
    ∃ front, front.length = s ∧ buf = front ++ byte :: rest := by
  have inside : s < buf.length := by
    rcases Nat.lt_or_ge s buf.length with less | more
    · exact less
    · rw [List.drop_eq_nil_of_le more] at here
      cases here
  refine ⟨buf.take s, List.length_take_of_le (Nat.le_of_lt inside), ?_⟩
  rw [← here, List.take_append_drop]

theorem turn_blank (buf : List UInt8) (s : Nat) (token more : List UInt8) (state : σ)
    (here : buf.drop s = token ++ 0 :: more)
    (nonzero : ∀ byte ∈ token, byte ≠ 0) (white : token.all blank = true) :
    ∃ buf' s', turn option buf s state = some (.again buf' s') ∧ buf'.drop s' = 0 :: more := by
  have skip := whileAt_stop (fun byte => blank byte && byte != 0) buf s token more 0 here
    (fun byte member => by simpa [nonzero byte member] using List.all_eq_true.mp white byte member) (by simp)
  have ahead : buf.drop (s + token.length) = 0 :: more := by
    rw [← List.drop_drop, here, List.drop_left]
  have stop := whileAt_stop (· != 0) buf (s + token.length) [] more 0 ahead (by simp) (by simp)
  obtain ⟨front, size, whole⟩ := buf_split buf _ 0 more ahead
  have wiped := ditch_append front [] [0] more (by simp; decide) (by simp)
  have there : (front ++ 0 :: more)[front.length]? = some 0 := by simp
  refine ⟨front ++ 0 :: more, s + token.length, ?_, by rw [← size, List.drop_left]⟩
  unfold turn
  simp only [skip, stop, Option.bind_eq_bind, Option.bind_some]
  rw [← size, whole, List.length_nil, Nat.add_zero, Nat.add_sub_cancel_left]
  simp only [List.nil_append, List.length_singleton, List.append_assoc, List.cons_append, List.replicate_one] at wiped
  rw [wiped, Option.bind_some, if_pos there]

theorem turn_trimmed (buf : List UInt8) (s : Nat) (lead body white more : List UInt8) (first : UInt8) (state : σ)
    (here : buf.drop s = lead ++ (first :: body ++ white) ++ 0 :: more)
    (leads : ∀ byte ∈ lead, blank byte = true ∧ byte ≠ 0) (nonblank : blank first = false)
    (nonzero : ∀ byte ∈ first :: body ++ white, byte ≠ 0) (blanks : ∀ byte ∈ white, blank byte = true)
    (ends : ∀ last, (first :: body).getLast? = some last → blank last = false) :
    ∃ front, front.length = s + lead.length ∧ buf = front ++ (first :: body) ++ white ++ 0 :: more ∧
      turn option buf s state = takeOption option
        (front ++ (first :: body) ++ List.replicate (white.length + 1) 0 ++ more)
        front.length state := by
  have skip := whileAt_stop (fun byte => blank byte && byte != 0) buf s lead (body ++ white ++ 0 :: more) first
    (by simpa using here)
    (fun byte member => by simpa using leads byte member) (by simp [nonblank])
  have ahead : buf.drop (s + lead.length) = first :: body ++ white ++ 0 :: more := by
    rw [← List.drop_drop, here, List.append_assoc, List.drop_left]
  have stop := whileAt_stop (· != 0) buf (s + lead.length) (first :: body ++ white) more 0 ahead
    (fun byte member => by simpa using nonzero byte member) (by simp)
  obtain ⟨front, size, whole⟩ := buf_split buf _ first (body ++ white ++ 0 :: more) (by simpa using ahead)
  have wiped := ditch_append front (first :: body) (white ++ [0]) more
    (fun byte member => by
      rcases List.mem_append.mp member with inside | last
      · exact blanks byte inside
      · rw [List.mem_singleton.mp last]
        decide) ends
  refine ⟨front, size, by simpa using whole, ?_⟩
  unfold turn
  simp only [skip, stop, Option.bind_eq_bind, Option.bind_some]
  rw [← size]
  have shape : buf = front ++ (first :: body ++ (white ++ [0])) ++ more := by simpa using whole
  have count : front.length + (first :: body ++ white).length + 1 - front.length =
    (first :: body ++ (white ++ [0])).length := by
    simp only [List.length_append, List.length_cons, List.length_nil]
    omega
  have there : (front ++ (first :: body ++ List.replicate (white ++ [0]).length 0) ++ more)[front.length]? = some
    first := by simp
  rw [count, shape, wiped, Option.bind_some, if_neg (by rw [there]; simpa using blank_ne first nonblank)]
  simp

theorem takeOption_refused (front body zeros more : List UInt8) (state : σ) (nonzero : ∀ byte ∈ body, byte ≠ 0)
    (plain : 61 ∉ body) : takeOption option (front ++ body ++ 0 :: zeros ++ more) front.length state = some
    (.refused state) := by
  have here : (front ++ body ++ 0 :: zeros ++ more).drop front.length = body ++ 0 :: (zeros ++ more) := by simp
  have stop := whileAt_stop (fun byte => byte != 61 && byte != 0) _ front.length body (zeros ++ more) 0 here
    (fun byte member => by
      have other : byte ≠ 61 := fun same => plain (same ▸ member)
      simpa [other] using nonzero byte member) (by simp)
  have there := getElem?_here _ front.length body (zeros ++ more) 0 here
  unfold takeOption
  simp only [stop, Option.bind_eq_bind, Option.bind_some, there, if_true]

theorem takeOption_called (front word gap lead value more : List UInt8) (n : Nat) (state : σ)
    (wordEnds : ∀ last, word.getLast? = some last → blank last = false) (gapBlank : ∀ byte ∈ gap, blank byte = true)
    (plain : 61 ∉ word ++ gap) (nonzero : ∀ byte ∈ word ++ gap ++ lead ++ value, byte ≠ 0)
    (leadBlank : ∀ byte ∈ lead, blank byte = true)
    (valueStarts : ∀ first, value.head? = some first → blank first = false) :
    ∃ front', front'.length = (front ++ (word ++ gap ++ 61 :: (lead ++ value)) ++ List.replicate n 0).length ∧
      takeOption option (front ++ (word ++ gap ++ 61 :: (lead ++ value)) ++ List.replicate (n + 1) 0 ++ more)
        front.length state =
        some (let called := option state word value
          if called.1 = -1 ∨ called.1 = -2 then .refused called.2 else .taken (front' ++ 0 :: more) called.2) := by
  -- The zero that ends the word lies in the gap or on the '='.
  obtain ⟨g, gap', shifted⟩ : ∃ g gap', gap ++ [61] = g :: gap' := by
    cases gap with
    | nil => exact ⟨61, [], rfl⟩
    | cons g gap => exact ⟨g, gap ++ [61], rfl⟩
  have sameLength : gap.length = gap'.length := by
    have lengths := congrArg List.length shifted
    simpa using lengths
  have wordNonzero : ∀ byte ∈ word, byte ≠ 0 := fun byte member => nonzero byte (by simp [member])
  have valueNonzero : ∀ byte ∈ value, byte ≠ 0 := fun byte member => nonzero byte (by simp [member])
  have bufEq : front ++ (word ++ gap ++ 61 :: (lead ++ value)) ++ List.replicate (n + 1) 0 ++ more =
      (front ++ word) ++ g :: (gap' ++ lead ++ value ++ List.replicate (n + 1) 0 ++ more) := by
    have joined : gap ++ 61 :: (lead ++ value) = g :: (gap' ++ (lead ++ value)) := by
      have moved := congrArg (· ++ (lead ++ value)) shifted
      simpa using moved
    simp [joined]
  have here : (front ++ (word ++ gap ++ 61 :: (lead ++ value)) ++ List.replicate (n + 1) 0 ++ more).drop front.length =
      (word ++ gap) ++ 61 :: (lead ++ value ++ List.replicate (n + 1) 0 ++ more) := by simp
  have stop := whileAt_stop (fun byte => byte != 61 && byte != 0) _ front.length (word ++ gap) _ 61 here
    (fun byte member => by
      have other : byte ≠ 61 := fun same => plain (same ▸ member)
      have real := nonzero byte (List.mem_append_left _ (List.mem_append_left _ member))
      simpa [other] using real) (by simp)
  have there := getElem?_here _ front.length (word ++ gap) _ 61 here
  have backward := back_append _ word gap _ front.length here gapBlank wordEnds
  have written : (front ++ (word ++ gap ++ 61 :: (lead ++ value)) ++ List.replicate (n + 1) 0 ++ more).set
    (front.length + word.length) 0 =
      (front ++ word) ++ 0 :: (gap' ++ lead ++ value ++ List.replicate (n + 1) 0 ++ more) := by
    rw [bufEq, ← List.length_append, set_append]
  have valueAhead : ((front ++ word) ++ 0 :: (gap' ++ lead ++ value ++ List.replicate (n + 1) 0 ++ more)).drop
      (front.length + (word ++ gap).length + 1) = lead ++ (value ++ List.replicate (n + 1) 0 ++ more) := by
    have position : front.length + (word ++ gap).length + 1 = (front ++ word ++ 0 :: gap').length := by
      simp only [List.length_append, List.length_cons]
      omega
    have grouped : (front ++ word) ++ 0 :: (gap' ++ lead ++ value ++ List.replicate (n + 1) 0 ++ more) =
        (front ++ word ++ 0 :: gap') ++ (lead ++ (value ++ List.replicate (n + 1) 0 ++ more)) := by simp
    rw [position, grouped, List.drop_left]
  obtain ⟨c, rest, begins, halts⟩ : ∃ c rest, value ++ List.replicate (n + 1) 0 ++ more = c :: rest ∧
    (c != 0 && blank c) = false := by
    cases value with
    | nil => exact ⟨0, _, rfl, by simp⟩
    | cons first value => exact ⟨first, _, rfl, by simp [valueStarts first rfl]⟩
  have toValue := whileAt_stop (fun byte => byte != 0 && blank byte) _ _ lead rest c (valueAhead.trans (by rw [begins]))
    (fun byte member => by
      have real := nonzero byte (by simp [member])
      simpa [real] using leadBlank byte member) halts
  have isWord : cstring (((front ++ word) ++ 0 :: (gap' ++ lead ++ value ++ List.replicate (n + 1) 0 ++ more)).drop
    front.length) = word := by
    rw [List.append_assoc, List.drop_left]
    exact cstring_ends word _ wordNonzero
  have isValue : cstring (((front ++ word) ++ 0 :: (gap' ++ lead ++ value ++ List.replicate (n + 1) 0 ++ more)).drop
      (front.length + (word ++ gap).length + 1 + lead.length)) = value := by
    rw [← List.drop_drop, valueAhead, List.drop_left, List.replicate_succ, List.append_assoc]
    exact cstring_ends value _ valueNonzero
  have backEnd : (word ++ gap).length = front.length + (word ++ gap).length - front.length := by omega
  rw [backEnd] at backward
  refine ⟨front ++ word ++ 0 :: gap' ++ lead ++ value ++ List.replicate n 0, ?_, ?_⟩
  · simp only [List.length_append, List.length_cons, List.length_replicate]
    omega
  · unfold takeOption
    simp only [stop, Option.bind_eq_bind, Option.bind_some, there, Option.some.injEq]
    rw [if_neg (by decide), backward, Option.bind_some, written, toValue, Option.bind_some, isWord, isValue]
    have final : (front ++ word) ++ 0 :: (gap' ++ lead ++ value ++ List.replicate (n + 1) 0 ++ more) =
        front ++ word ++ 0 :: gap' ++ lead ++ value ++ List.replicate n 0 ++ 0 :: more := by
      simp [List.replicate_succ']
    rw [final]

theorem token_split (token : CString) (some' : token.all blank = false) :
    ∃ lead first body white, token = lead ++ (first :: body ++ white) ∧ (∀ byte ∈ lead, blank byte = true) ∧
      blank first = false ∧
      (∀ byte ∈ white, blank byte = true) ∧ (∀ last, (first :: body).getLast? = some last → blank last = false) ∧
      token.dropWhile blank = first :: body ++ white := by
  have leads : ∀ byte ∈ token.takeWhile blank, blank byte = true := fun byte member => List.mem_takeWhile_imp member
  cases behind : token.dropWhile blank with
  | nil =>
      rw [List.dropWhile_eq_nil_iff] at behind
      exact absurd (List.all_eq_true.mpr behind) (by simp [some'])
  | cons first rest =>
      have nonblank : blank first = false := by
        have stopped := List.head?_dropWhile_not blank token
        rw [behind] at stopped
        exact stopped
      obtain ⟨white, split, blanks, ends⟩ := trimEnd_split (first :: rest)
      cases trimmed : trimEnd (first :: rest) with
      | nil =>
          rw [trimmed, List.nil_append] at split
          exact absurd (blanks first (split ▸ List.mem_cons_self)) (by simp [nonblank])
      | cons head body =>
          rw [trimmed] at split ends
          obtain rfl : first = head := (List.cons.inj split).1
          have whole := (List.takeWhile_append_dropWhile (p := blank) (l := token)).symm
          rw [behind, split] at whole
          exact ⟨_, first, body, white, whole, leads, nonblank, blanks, ends, split⟩

theorem drop_same (front front' rest : List UInt8) (same : front'.length = front.length) (n : Nat)
    (behind : front.length ≤ n) :
    (front' ++ rest).drop n = (front ++ rest).drop n := by
  rw [List.drop_append, List.drop_append, same, List.drop_eq_nil_of_le (by omega), List.drop_eq_nil_of_le behind]

theorem turn_token (buf : List UInt8) (s : Nat) (token more : List UInt8) (state : σ)
    (here : buf.drop s = token ++ 0 :: more)
    (nonzero : ∀ byte ∈ token, byte ≠ 0) (some' : token.all blank = false) :
    (61 ∉ token → turn option buf s state = some (.refused state)) ∧
    (61 ∈ token → ∃ buf', turn option buf s state =
        some (let called := option state (wordOf token) (valueOf token)
          if called.1 = -1 ∨ called.1 = -2 then .refused called.2 else .taken buf' called.2) ∧
      ∀ save, s + token.length ≤ save → buf'.drop save = buf.drop save) := by
  obtain ⟨lead, first, body, white, whole, leads, nonblank, blanks, ends, ahead⟩ := token_split token some'
  have inside : ∀ byte ∈ first :: body ++ white, byte ≠ 0 := fun byte member =>
    nonzero byte (whole ▸ List.mem_append_right _ member)
  obtain ⟨front, size, bufEq, trimmed⟩ := turn_trimmed option buf s lead body white more first state
    (by rw [here, whole])
    (fun byte member => ⟨leads byte member, nonzero byte (whole ▸ List.mem_append_left _ member)⟩) nonblank inside
    blanks ends
  have equals : blank 61 = false := by decide
  have inBody : 61 ∈ token ↔ 61 ∈ first :: body := by
    have notLead : (61 : UInt8) ∉ lead := fun member => absurd (leads 61 member) (by simp [equals])
    have notWhite : (61 : UInt8) ∉ white := fun member => absurd (blanks 61 member) (by simp [equals])
    rw [whole]
    simp [notLead, notWhite]
  constructor
  · intro absent
    rw [trimmed, List.replicate_succ]
    exact takeOption_refused option front (first :: body) _ more state
      (fun byte member => inside byte (List.mem_append_left _ member)) (fun member => absent (inBody.mpr member))
  · intro present
    obtain ⟨left, right, cutThere, notLeft⟩ := List.eq_append_cons_of_mem (inBody.mp present)
    obtain ⟨gap, split, gapBlank, wordEnds⟩ := trimEnd_split left
    have unequal : ∀ byte ∈ left, (byte != 61) = true := fun byte member => by
      simpa using fun same : byte = 61 => notLeft (same ▸ member)
    have isWord : wordOf token = trimEnd left := by
      unfold wordOf
      rw [ahead, cutThere, List.append_assoc, List.takeWhile_append_of_pos unequal]
      simp
    have isValue : valueOf token = right.dropWhile blank := by
      have ended : ∀ last, (lead ++ first :: body).getLast? = some last → blank last = false := by
        intro last final
        rw [List.getLast?_append_of_ne_nil _ (List.cons_ne_nil _ _)] at final
        exact ends last final
      have unequalLead : ∀ byte ∈ lead, (byte != 61) = true := fun byte member => by
        have other : byte ≠ 61 := fun same => absurd (leads byte member) (by simp [same, equals])
        simpa using other
      unfold valueOf
      rw [whole, ← List.append_assoc, trimEnd_blank _ white blanks ended, cutThere,
        List.dropWhile_append_of_pos unequalLead,
        List.dropWhile_append_of_pos unequal]
      simp
    have halves := (List.takeWhile_append_dropWhile (p := blank) (l := right)).symm
    have bodyNonzero : ∀ byte ∈ left ++ 61 :: right, byte ≠ 0 := fun byte member =>
      inside byte (List.mem_append_left _ (cutThere ▸ member))
    obtain ⟨front', sameLength, called⟩ := takeOption_called option front (trimEnd left) gap (right.takeWhile blank)
      (right.dropWhile blank) more white.length state wordEnds gapBlank (split ▸ notLeft)
      (by
        rw [← split, List.append_assoc, ← halves]
        intro byte member
        refine bodyNonzero byte ?_
        rcases List.mem_append.mp member with before | after
        · exact List.mem_append_left _ before
        · exact List.mem_append_right _ (List.mem_cons_of_mem _ after))
      (fun byte member => List.mem_takeWhile_imp member)
      (fun c starts => by
        have stopped := List.head?_dropWhile_not blank right
        rw [starts] at stopped
        exact stopped)
    rw [← split, ← halves, ← cutThere] at sameLength called
    refine ⟨front' ++ 0 :: more, ?_, ?_⟩
    · rw [trimmed, called, isWord, isValue]
    · intro save behind
      rw [bufEq]
      refine drop_same _ _ _ ?_ save ?_
      · rw [sameLength]
        simp
      · rw [whole] at behind
        simp only [List.length_append] at behind ⊢
        omega

end Turns

section Lines

variable (option : σ → CString → CString → Int × σ)

theorem parseFrom_blank (fuel : Nat) (buf : List UInt8) (s save : Nat) (token more : List UInt8) (state : σ)
    (here : buf.drop s = token ++ 0 :: more) (nonzero : ∀ byte ∈ token, byte ≠ 0) (white : token.all blank = true) :
    parseFrom option fuel buf (some s) save state = none := by
  induction fuel generalizing buf s token with
  | zero => rfl
  | succ fuel ih =>
      obtain ⟨buf', s', ran, again⟩ := turn_blank option buf s token more state here nonzero white
      rw [parseFrom, ran]
      exact ih buf' s' [] again (by simp) rfl

theorem parseOneLine_fine (size : Nat) (buf : List UInt8) (save : Nat) (state : σ)
    (short : (buf.drop save).length ≤ size)
    (fine : Fine option (tokensFrom (buf.drop save) []).2 state (tokensFrom (buf.drop save) []).1) :
    ∃ ret after, ∀ fuel, (tokensFrom (buf.drop save) []).1.length < fuel →
      parseOneLine option fuel buf save state = some (.returned ret after) := by
  induction size generalizing buf save state with
  | zero =>
      rcases strtok_cases buf save with ⟨_, tokens⟩ | ⟨_, _, tokens⟩ | ⟨_, _, _, _, _, _, _, _, _, less, _⟩
      · rw [tokens] at fine
        cases fine
      · have empty := List.eq_nil_of_length_eq_zero (Nat.le_zero.mp short)
        rw [empty] at tokens
        cases tokens
      · omega
  | succ size ih =>
      rcases strtok_cases buf save with ⟨_, tokens⟩ | ⟨after, ran, tokens⟩ |
        ⟨start, buf', save', token, more, ran, here, nonzero, behind, less, tokens⟩
      · rw [tokens] at fine
        cases fine
      · refine ⟨0, state, fun fuel enough => ?_⟩
        unfold parseOneLine
        rw [ran]
        cases fuel with
        | zero => omega
        | succ fuel => rfl
      · rw [tokens] at fine ⊢
        obtain ⟨some', rest⟩ := fine
        obtain ⟨refuses, calls⟩ := turn_token option buf' start token more state here nonzero some'
        unfold parseOneLine
        rw [ran]
        by_cases equals : 61 ∈ token
        · obtain ⟨buf'', turned, same⟩ := calls equals
          have outcome := rest equals
          dsimp only at outcome turned
          by_cases refused : (option state (wordOf token) (valueOf token)).1 = -1 ∨
            (option state (wordOf token) (valueOf token)).1 = -2
          · rw [if_pos refused] at turned
            refine ⟨-1, (option state (wordOf token) (valueOf token)).2, fun fuel enough => ?_⟩
            cases fuel with
            | zero => simp at enough
            | succ fuel =>
                dsimp only
                rw [parseFrom, turned]
          · rw [if_neg refused] at turned
            have kept := same save' behind
            have later : Fine option (tokensFrom (buf''.drop save') []).2
              (option state (wordOf token) (valueOf token)).2
                (tokensFrom (buf''.drop save') []).1 := by
              rw [kept]
              rcases outcome with first | second | fine'
              · exact absurd (.inl first) refused
              · exact absurd (.inr second) refused
              · exact fine'
            obtain ⟨ret, after, runs⟩ := ih buf'' save' _ (by rw [kept]; omega) later
            refine ⟨ret, after, fun fuel enough => ?_⟩
            cases fuel with
            | zero => simp at enough
            | succ fuel =>
                dsimp only
                rw [parseFrom, turned]
                rw [kept] at runs
                exact runs fuel (by simpa using enough)
        · refine ⟨-1, state, fun fuel enough => ?_⟩
          cases fuel with
          | zero => simp at enough
          | succ fuel =>
              dsimp only
              rw [parseFrom, refuses equals]

theorem parseOneLine_stuck (size : Nat) (buf : List UInt8) (save : Nat) (state : σ)
    (short : (buf.drop save).length ≤ size)
    (notFine : ¬ Fine option (tokensFrom (buf.drop save) []).2 state (tokensFrom (buf.drop save) []).1) (fuel : Nat)
    (ret : Int)
    (after : σ) : parseOneLine option fuel buf save state ≠ some (.returned ret after) := by
  induction size generalizing buf save state fuel with
  | zero =>
      rcases strtok_cases buf save with ⟨ran, _⟩ | ⟨_, _, tokens⟩ | ⟨_, _, _, _, _, _, _, _, _, less, _⟩
      · unfold parseOneLine
        rw [ran]
        simp
      · rw [tokens] at notFine
        exact absurd rfl notFine
      · omega
  | succ size ih =>
      rcases strtok_cases buf save with ⟨ran, _⟩ | ⟨_, _, tokens⟩ |
        ⟨start, buf', save', token, more, ran, here, nonzero, behind, less, tokens⟩
      · unfold parseOneLine
        rw [ran]
        simp
      · rw [tokens] at notFine
        exact absurd rfl notFine
      · rw [tokens] at notFine
        unfold parseOneLine
        rw [ran]
        dsimp only
        cases white : token.all blank with
        | true =>
            rw [parseFrom_blank option fuel buf' start save' token more state here nonzero white]
            simp
        | false =>
            obtain ⟨refuses, calls⟩ := turn_token option buf' start token more state here nonzero white
            by_cases equals : 61 ∈ token
            · obtain ⟨buf'', turned, same⟩ := calls equals
              have kept := same save' behind
              have goesOn : ¬ ((option state (wordOf token) (valueOf token)).1 = -1 ∨
                (option state (wordOf token) (valueOf token)).1 = -2) := by
                intro refused
                refine notFine ⟨white, fun _ => ?_⟩
                rcases refused with first | second
                · exact .inl first
                · exact .inr (.inl second)
              dsimp only at turned
              rw [if_neg goesOn] at turned
              have later : ¬ Fine option (tokensFrom (buf''.drop save') []).2
                (option state (wordOf token) (valueOf token)).2
                  (tokensFrom (buf''.drop save') []).1 := by
                rw [kept]
                exact fun fine => notFine ⟨white, fun _ => .inr (.inr fine)⟩
              cases fuel with
              | zero => simp [parseFrom]
              | succ fuel =>
                  rw [parseFrom, turned]
                  exact ih buf'' save' _ (by rw [kept]; omega) later fuel
            · exact absurd ⟨white, fun present => absurd present equals⟩ notFine

theorem strtok_name (type : UInt8) (seps : List UInt8) (first : UInt8) (name mem : List UInt8) (stop : UInt8)
    (all : ∀ byte ∈ seps, byte = 32) (plain : ∀ byte ∈ first :: name, byte ≠ 32 ∧ byte ≠ 0)
    (stops : stop = 32 ∨ stop = 0) :
    ∃ buf after, strtok 32 (type :: (seps ++ (first :: name ++ stop :: mem))) 1 = some
      (some (1 + seps.length), buf, after) ∧
      buf.drop (1 + seps.length) = first :: name ++ 0 :: mem := by
  have called := strtok_token 32 (type :: (seps ++ (first :: name ++ stop :: mem))) 1 seps first name mem stop rfl all
    plain stops
  have start : (type :: (seps ++ (first :: name ++ stop :: mem))).drop
    (1 + seps.length) = first :: name ++ stop :: mem := by
    rw [← List.drop_drop, List.drop_one, List.tail_cons, List.drop_left]
  by_cases zero : stop = 0
  · rw [if_pos zero] at called
    exact ⟨_, _, called, by rw [start, zero]⟩
  · rw [if_neg zero] at called
    refine ⟨_, _, called, ?_⟩
    rw [List.drop_set, if_neg (by omega), Nat.add_sub_cancel_left, start, set_append]

theorem name_ends (buf : List UInt8) (start : Nat) (name mem : List UInt8) (here : buf.drop start = name ++ 0 :: mem)
    (plain : ∀ byte ∈ name, byte ≠ 32 ∧ byte ≠ 0) :
    whileAt (· != 0) buf start = some (start + name.length) ∧ buf.drop (start + name.length + 1) = mem := by
  refine ⟨whileAt_stop (· != 0) buf start name mem 0 here (fun byte member => by simpa using (plain byte member).2)
    (by simp), ?_⟩
  rw [Nat.add_assoc, ← List.drop_drop, here, ← List.drop_drop, List.drop_left]
  rfl

theorem optionsAt_name (type : UInt8) (seps : List UInt8) (first : UInt8) (name mem : List UInt8) (stop : UInt8)
    (all : ∀ byte ∈ seps, byte = 32) (plain : ∀ byte ∈ first :: name, byte ≠ 32 ∧ byte ≠ 0)
    (stops : stop = 32 ∨ stop = 0) :
    ∃ buf bufp, optionsAt (type :: (seps ++ (first :: name ++ stop :: mem))) = some (some (buf, bufp)) ∧
      buf.drop bufp = mem := by
  obtain ⟨buf, after, split, here⟩ := strtok_name type seps first name mem stop all plain stops
  obtain ⟨length, behind⟩ := name_ends buf (1 + seps.length) (first :: name) mem here plain
  refine ⟨buf, 1 + seps.length + (first :: name).length + 1, ?_, behind⟩
  unfold optionsAt
  simp only [split, Option.bind_eq_bind, Option.bind_some, length]

theorem AddModify.optionsAt_name (entries : Entries) (command : AddModify) (seps : List UInt8) (first : UInt8)
    (name mem : List UInt8) (stop : UInt8) (all : ∀ byte ∈ seps, byte = 32)
    (plain : ∀ byte ∈ first :: name, byte ≠ 32 ∧ byte ≠ 0) (stops : stop = 32 ∨ stop = 0) :
    ∃ buf bufp, command.optionsAt entries (command.letter :: (seps ++ (first :: name ++ stop :: mem))) =
      (if command.reads entries (first :: name) then some (some (buf, bufp)) else some none) ∧ buf.drop bufp = mem := by
  obtain ⟨buf, after, split, here⟩ := strtok_name command.letter seps first name mem stop all plain stops
  obtain ⟨length, behind⟩ := name_ends buf (1 + seps.length) (first :: name) mem here plain
  have is : cstring (buf.drop (1 + seps.length)) = first :: name := by
    rw [here]
    exact cstring_ends (first :: name) mem fun byte member => (plain byte member).2
  refine ⟨buf, 1 + seps.length + (first :: name).length + 1, ?_, behind⟩
  cases command with
  | lac =>
      unfold AddModify.optionsAt lacOptionsAt AddModify.reads
      simp only [split, Option.bind_eq_bind, Option.bind_some, length, is]
      cases entries.laclist.any (sameName (first :: name)) <;> simp
  | lns =>
      unfold AddModify.optionsAt lnsOptionsAt AddModify.reads
      simp only [split, Option.bind_eq_bind, Option.bind_some, length, is]

theorem AddModify.optionsAt_nameless (entries : Entries) (command : AddModify) (seps behind : List UInt8)
    (all : ∀ byte ∈ seps, byte = 32) :
    command.optionsAt entries (command.letter :: seps ++ 0 :: behind) = if command = .lns then none else some none := by
  have nothing := strtok_nothing 32 (by decide) (command.letter :: seps ++ 0 :: behind) 1 seps behind rfl all
  cases command with
  | lac =>
      unfold AddModify.optionsAt lacOptionsAt
      simp only [nothing, Option.bind_eq_bind, Option.bind_some]
      rfl
  | lns =>
      unfold AddModify.optionsAt lnsOptionsAt
      simp only [nothing, Option.bind_eq_bind, Option.bind_some]
      rfl

theorem rest_cases (rest behind : List UInt8) (text : ∀ byte ∈ rest, byte ≠ 0) :
    (∀ byte ∈ rest, byte = 32) ∧ nameOf rest = [] ∨
    ∃ seps first name stop mem, rest ++ 0 :: behind = seps ++ (first :: name ++ stop :: mem) ∧
      (∀ byte ∈ seps, byte = 32) ∧
      (∀ byte ∈ first :: name, byte ≠ 32 ∧ byte ≠ 0) ∧ (stop = 32 ∨ stop = 0) ∧ nameOf rest = first :: name ∧
      mem = match (named rest).dropWhile (· != 32) with
        | [] => behind
        | _ :: line => line ++ 0 :: behind := by
  have all : ∀ byte ∈ rest.takeWhile (· == 32), byte = 32 := fun byte member => by
    simpa using List.mem_takeWhile_imp member
  have whole := (List.takeWhile_append_dropWhile (p := (· == 32)) (l := rest)).symm
  unfold nameOf named
  generalize rest.takeWhile (· == 32) = seps at all whole
  cases calls : rest.dropWhile (· == 32) with
  | nil =>
      rw [calls, List.append_nil] at whole
      exact .inl ⟨whole ▸ all, rfl⟩
  | cons first name =>
      have notBlank : first ≠ 32 := by
        have stopped := List.head?_dropWhile_not (· == 32) rest
        rw [calls] at stopped
        simpa using stopped
      rw [calls] at whole
      have inside : ∀ byte ∈ first :: name, byte ≠ 0 := fun byte member =>
        text byte (whole ▸ List.mem_append_right _ member)
      have parts := (List.takeWhile_append_dropWhile (p := (· != 32)) (l := name)).symm
      have plain : ∀ byte ∈ first :: name.takeWhile (· != 32), byte ≠ 32 ∧ byte ≠ 0 := by
        intro byte member
        rcases List.mem_cons.mp member with rfl | later
        · exact ⟨notBlank, inside byte List.mem_cons_self⟩
        · refine ⟨by simpa using List.mem_takeWhile_imp later, inside byte ?_⟩
          exact List.mem_cons_of_mem _ ((List.takeWhile_sublist _).subset later)
      have goes : (first != 32) = true := by simpa using notBlank
      simp only [List.takeWhile_cons, List.dropWhile_cons, goes, if_true]
      cases ends : name.dropWhile (· != 32) with
      | nil =>
          rw [ends, List.append_nil] at parts
          exact .inr ⟨seps, first, name.takeWhile (· != 32), 0,
            behind, by rw [whole, ← parts]; simp, all, plain, .inr rfl, rfl, rfl⟩
      | cons stop line =>
          have isBlank : stop = 32 := by
            have stopped := List.head?_dropWhile_not (· != 32) name
            rw [ends] at stopped
            simpa using stopped
          rw [ends] at parts
          generalize name.takeWhile (· != 32) = token at parts plain
          exact .inr ⟨seps, first, token, stop,
            line ++ 0 :: behind, by rw [whole, parts]; simp, all, plain, .inl isBlank, rfl, rfl⟩

theorem optionsAt_memory (entries : Entries) (command : AddModify) (rest behind : List UInt8)
    (text : ∀ byte ∈ rest, byte ≠ 0)
    (calls : command = .lns → nameOf rest ≠ []) :
    (command.optionsAt entries (command.letter :: rest ++ 0 :: behind) = some none ∧
    optionsMemory entries command rest behind = none) ∨
    ∃ buf bufp mem, command.optionsAt entries (command.letter :: rest ++ 0 :: behind) = some (some (buf, bufp)) ∧
      optionsMemory entries command rest behind = some mem ∧ buf.drop bufp = mem := by
  unfold optionsMemory
  rcases rest_cases rest behind text with ⟨blanks, nameless⟩ | ⟨seps, first, name, stop, mem, whole, all, plain, stops,
    is, memory⟩
  · refine .inl ⟨?_, if_pos (.inl nameless)⟩
    rw [AddModify.optionsAt_nameless entries command rest behind blanks]
    exact if_neg fun lns => calls lns nameless
  · obtain ⟨buf, bufp, found, here⟩ := AddModify.optionsAt_name entries command seps first name mem stop all plain stops
    rw [List.cons_append, whole, found, is]
    by_cases reads : command.reads entries (first :: name) = true
    · rw [if_pos reads, if_neg (by simp [reads])]
      refine .inr ⟨buf, bufp, mem, rfl, ?_, here⟩
      rw [memory]
      split <;> rfl
    · rw [if_neg reads, if_pos (.inr reads)]
      exact .inl ⟨rfl, rfl⟩

end Lines

-- For every handler of the options, both commands, every text of theirs, the
-- entries there are, and whatever stands behind the command in the buffer.
theorem option_lines_parse_iff (option : σ → CString → CString → Int × σ) (entries : Entries) (command : AddModify)
    (rest behind : List UInt8) (text : ∀ byte ∈ rest, byte ≠ 0) (state : σ) :
    AlwaysParses option entries command rest behind state ↔ NoBlankToken option entries command rest behind state := by
  constructor
  · intro always
    have calls : command = .lns → nameOf rest ≠ [] := by
      rintro rfl nameless
      rcases rest_cases rest behind text with ⟨blanks, _⟩ | ⟨_, first, name, _, _, _, _, _, _, is, _⟩
      · exact always.split (AddModify.optionsAt_nameless entries .lns rest behind blanks)
      · rw [is] at nameless
        cases nameless
    refine ⟨calls, fun mem member => ?_⟩
    rcases optionsAt_memory entries command rest behind text
      calls with ⟨_, nothing⟩ | ⟨buf, bufp, mem', found, memory, rfl⟩
    · rw [nothing] at member
      cases member
    · obtain rfl := Option.some.inj (memory.symm.trans member)
      obtain ⟨ret, after, parses⟩ := always.parsed buf bufp found
      by_contra notFine
      exact parseOneLine_stuck option _ buf bufp state (Nat.le_refl _) notFine _ ret after
        (parses _ (Nat.lt_succ_self _))
  · rintro ⟨calls, fine⟩
    rcases optionsAt_memory entries command rest behind text calls with ⟨done, _⟩ | ⟨buf, bufp, mem, found, memory, rfl⟩
    · refine ⟨by rw [done]; simp, fun buf bufp found => ?_⟩
      rw [done] at found
      cases found
    · refine ⟨by rw [found]; simp, fun buf' bufp' found' => ?_⟩
      obtain ⟨rfl, rfl⟩ := Prod.mk.inj (Option.some.inj (Option.some.inj (found.symm.trans found')))
      exact parseOneLine_fine option _ buf bufp state (Nat.le_refl _) (fine _ memory)

def newEntry : Options.Parser := ⟨.lac { noLac with callRws := 4, autodial := false }, [], .dev⟩

def lacOption (p : Options.Parser) (word value : CString) : Options.Done :=
  Options.parseOneOption ⟨fun _ _ => none, fun _ => 0⟩ word value false p

def homeOnly : Entries := ⟨[], true, [text "home"], true⟩

theorem option_lines_parse_office :
    AlwaysParses lacOption homeOnly .lac (text "office lns = 10.0.0.1 ; redial=yes;name = box") [] newEntry :=
  (option_lines_parse_iff lacOption homeOnly .lac (text "office lns = 10.0.0.1 ; redial=yes;name = box") []
    (by decide +kernel)
    newEntry).mpr (by decide +kernel)

-- A blank behind the last semicolon is a token that is never left, the options of a
-- name that fills the buffer are looked for behind it, and an LNS command without a
-- name looks for it at a null pointer.
theorem option_line_stuck :
    ¬ AlwaysParses lacOption homeOnly .lac (text "office lns = 10.0.0.1; ") [0] newEntry ∧
      ¬ AlwaysParses lacOption homeOnly .lac (text "office") [] newEntry ∧
        ¬ AlwaysParses lacOption homeOnly .lns [] [0] newEntry := by
  refine ⟨fun always => ?_, fun always => ?_, fun always => always.split (by decide +kernel)⟩
  · obtain ⟨ret, after, parses⟩ := always.parsed (text "aoffice" ++ 0 :: text "lns = 10.0.0.1; " ++ [0, 0]) 8
      (by decide +kernel)
    refine parseOneLine_stuck lacOption _ _ 8 newEntry (Nat.le_refl _) ?_ 3 ret after (parses 3 ?_)
    · decide +kernel
    · decide +kernel
  · obtain ⟨ret, after, parses⟩ := always.parsed (text "aoffice" ++ [0]) 8 (by decide +kernel)
    exact absurd (parses 1 (by decide +kernel))
      (by rw [parseOneLine]; simp [show strtok 59 (text "aoffice" ++ [0]) 8 = none by decide +kernel])

end ZyAgf.Xl2tpd.OptionLines
