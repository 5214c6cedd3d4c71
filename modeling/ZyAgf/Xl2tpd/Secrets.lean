import Mathlib.Data.List.DropRight
import ZyAgf.Xl2tpd.Wire

set_option autoImplicit false

namespace ZyAgf.Xl2tpd.Secrets

-- STRLEN, the size of the line buffer of get_secret.
def strLen : Nat := 100

structure Entry where
  us : CString
  them : CString
  secret : CString
deriving DecidableEq

def isMark (byte : UInt8) : Bool := byte == 35 || byte == 59

-- A char is signed here: a byte from 128 on is below every limit.
def above (limit byte : UInt8) : Bool := limit < byte && byte < 128

def blank (byte : UInt8) : Bool := byte != 0 && !above 32 byte

-- What fgets hands out from a file, call after call: up to a newline, or one
-- byte less than the buffer has.
def loads : List UInt8 → List UInt8 → List (List UInt8)
  | load, [] => if load.isEmpty then [] else [load]
  | load, byte :: file =>
      if byte = 10 ∨ load.length + 2 = strLen then (load ++ [byte]) :: loads [] file
      else loads (load ++ [byte]) file

-- The buffer, with what lies behind it in memory, after a call of fgets.
def fgets (buf load : List UInt8) : List UInt8 := load ++ 0 :: buf.drop (load.length + 1)

-- The walk tests the byte behind the one it has written, so it goes on past the
-- mark, up to the first zero that was there before.
def stripComments : List UInt8 → List UInt8
  | [] => []
  | byte :: buf => if byte = 0 then byte :: buf else (if isMark byte then 0 else byte) :: stripComments buf

def stripTrailing (buf : List UInt8) : List UInt8 :=
  let line := cstring buf
  let kept := line.rdropWhile fun byte => !above 32 byte
  kept ++ List.replicate (line.length - kept.length) 0 ++ buf.drop line.length

def charAt (buf : List UInt8) (i : Nat) : UInt8 := buf.getD i 0

def skipBlanks (buf : List UInt8) (i : Nat) : Nat := i + ((buf.drop i).takeWhile blank).length

def skipWord (limit : UInt8) (buf : List UInt8) (i : Nat) : Nat := i + ((buf.drop i).takeWhile (above limit)).length

def cutFields (buf : List UInt8) : Option Entry × List UInt8 :=
  let u := skipBlanks buf 0
  if charAt buf u = 0 then (none, buf)
  else
    let t := skipWord 32 buf u
    let buf := buf.set t 0
    let t := skipBlanks buf (t + 1)
    if charAt buf t = 0 then (none, buf)
    else
      let s := skipWord 33 buf t
      let buf := buf.set s 0
      let s := skipBlanks buf (s + 1)
      if charAt buf s = 0 then (none, buf)
      else (some ⟨cstring (buf.drop u), cstring (buf.drop t), cstring (buf.drop s)⟩, buf)

def stripped (buf : List UInt8) : List UInt8 := stripTrailing (stripComments buf)

def takeLine (buf : List UInt8) : Option Entry × List UInt8 :=
  let buf := stripped buf
  if cstring buf = [] then (none, buf) else cutFields buf

def lower (byte : UInt8) : UInt8 := if 65 ≤ byte ∧ byte ≤ 90 then byte + 32 else byte

def strcasecmp (a b : CString) : Bool := a.map lower == b.map lower

def Entry.names (e : Entry) (us them : CString) : Bool :=
  (strcasecmp e.us us || strcasecmp e.us [42]) && (strcasecmp e.them them || strcasecmp e.them [42])

def scan (us them : CString) : List UInt8 → List (List UInt8) → Option CString
  | _, [] => none
  | buf, load :: rest =>
      match takeLine (fgets buf load) with
      | (some e, buf) => if e.names us them then some (e.secret.take maxStrLen) else scan us them buf rest
      | (none, buf) => scan us them buf rest

-- None for a file that cannot be opened. Nothing has been written to buf
-- before the first line is read.
def getSecret (us them : CString) (buf : List UInt8) : Option (List UInt8) → Option CString
  | none => none
  | some file => scan us them buf (loads [] file)

-- What the file says: its lines, each up to its first comment mark, with their
-- fields between blanks.

def lines : List UInt8 → List UInt8 → List (List UInt8)
  | line, [] => if line.isEmpty then [] else [line]
  | line, byte :: file => if byte = 10 then (line ++ [byte]) :: lines [] file else lines (line ++ [byte]) file

def white (byte : UInt8) : Bool := byte ≤ 32

def inText (byte : UInt8) : Bool := !isMark byte && byte != 0

def lineText (line : List UInt8) : List UInt8 := (line.takeWhile inText).rdropWhile white

def fieldsOf (line : List UInt8) : Option Entry :=
  let u := (lineText line).dropWhile white
  let t := (u.dropWhile (!white ·)).dropWhile white
  let s := (t.dropWhile (!white ·)).dropWhile white
  if s = [] then none else some ⟨u.takeWhile (!white ·), t.takeWhile (!white ·), s⟩

def Matched (us them : CString) (line : List UInt8) : Prop := ∃ e ∈ fieldsOf line, e.names us them

def secretOf (us them : CString) (file : List UInt8) : Option CString :=
  (((lines [] file).filterMap fieldsOf).find? (·.names us them)).map Entry.secret

-- Something about each load, or each line, that is come to before one matches,
-- and the buffer it finds.

def AtEachLoad (us them : CString) (P : List UInt8 → List UInt8 → Prop) : List UInt8 → List (List UInt8) → Prop
  | _, [] => True
  | buf, load :: rest =>
      P buf load ∧ (¬ Matched us them load → AtEachLoad us them P (takeLine (fgets buf load)).2 rest)

def leftBehind (buf : List UInt8) (loads : List (List UInt8)) : List UInt8 :=
  loads.foldl (fun buf load => (takeLine (fgets buf load)).2) buf

def AtEachLine (us them : CString) (P : List UInt8 → List UInt8 → Prop) : List UInt8 → List (List UInt8) → Prop
  | _, [] => True
  | buf, line :: rest =>
      P buf line ∧ (¬ Matched us them line → AtEachLine us them P (leftBehind buf (loads [] line)) rest)

-- The entries up to the first that matches: those get_secret takes from some
-- loads, and those of a list.

def taken (us them : CString) : List UInt8 → List (List UInt8) → List Entry
  | _, [] => []
  | buf, load :: rest =>
      match takeLine (fgets buf load) with
      | (some e, buf) => if e.names us them then [e] else e :: taken us them buf rest
      | (none, buf) => taken us them buf rest

def upToMatch (us them : CString) : List Entry → List Entry
  | [] => []
  | e :: rest => if e.names us them then [e] else e :: upToMatch us them rest

-- What is wanted of a line: each load is taken for the fields of its own text,
-- and the line for its own fields.
structure LineRight (us them : CString) (buf line : List UInt8) : Prop where
  loaded : AtEachLoad us them (fun buf load => (takeLine (fgets buf load)).1 = fieldsOf load) buf (loads [] line)
  whole : taken us them buf (loads [] line) = (fieldsOf line).toList

structure SecretRight (us them : CString) (buf file : List UInt8) : Prop where
  result : getSecret us them buf (some file) = secretOf us them file
  taken : AtEachLine us them (LineRight us them) buf (lines [] file)

-- Bytes with three words in a row, each one byte or more from the next.
structure Layout where
  gap₁ : List UInt8
  us : List UInt8
  cut₁ : UInt8
  gap₂ : List UInt8
  them : List UInt8
  cut₂ : UInt8
  gap₃ : List UInt8
  secret : List UInt8

def Layout.bytes (l : Layout) : List UInt8 :=
  l.gap₁ ++ (l.us ++ l.cut₁ :: (l.gap₂ ++ (l.them ++ l.cut₂ :: (l.gap₃ ++ l.secret))))

structure Layout.Words (l : Layout) : Prop where
  gap₁ : ∀ byte ∈ l.gap₁, blank byte
  us : ∀ byte ∈ l.us, above 32 byte
  some₁ : l.us ≠ []
  cut₁ : ¬ above 32 l.cut₁
  gap₂ : ∀ byte ∈ l.gap₂, blank byte
  them : ∀ byte ∈ l.them, above 33 byte
  some₂ : l.them ≠ [] ∨ l.cut₂ = 33
  cut₂ : ¬ above 33 l.cut₂
  gap₃ : ∀ byte ∈ l.gap₃, blank byte
  some₃ : above 32 (l.secret.headD 0)

def ThreeWords (buf : List UInt8) : Prop := ∃ l : Layout, l.Words ∧ l.bytes = buf

structure Entry.Plain (e : Entry) : Prop where
  us : ∀ byte ∈ e.us, byte < 128
  them : ∀ byte ∈ e.them, byte < 128 ∧ byte ≠ 33
  first : e.secret.headD 0 < 128
  last : e.secret.getLastD 0 < 128

structure LoadPlain (buf load : List UInt8) : Prop where
  fields : ∀ e ∈ fieldsOf load, e.Plain
  none : fieldsOf load = none → ¬ ThreeWords (stripped (fgets buf load))

structure LinePlain (us them : CString) (buf line : List UInt8) : Prop where
  loaded : AtEachLoad us them LoadPlain buf (loads [] line)
  whole : upToMatch us them ((loads [] line).filterMap fieldsOf) = (fieldsOf line).toList

theorem above_iff (limit byte : UInt8) : above limit byte = true ↔ limit < byte ∧ byte < 128 := by
  simp [above]

theorem above_nonzero (limit byte : UInt8) (high : above limit byte = true) : byte ≠ 0 := by
  have bounds := (above_iff limit byte).mp high
  rintro rfl
  exact absurd bounds.1 (UInt8.not_lt_zero)

theorem above_lower (byte : UInt8) (high : above 33 byte = true) : above 32 byte = true := by
  have bounds := (above_iff 33 byte).mp high
  exact (above_iff 32 byte).mpr ⟨UInt8.lt_trans (by decide) bounds.1, bounds.2⟩

theorem blank_iff (byte : UInt8) : blank byte = true ↔ byte ≠ 0 ∧ above 32 byte = false := by
  simp [blank]

theorem above_white (byte : UInt8) (small : white byte = true) : above 32 byte = false := by
  have bound : byte ≤ 32 := by simpa [white] using small
  simp [above, UInt8.not_lt.mpr bound]

theorem above_word (byte : UInt8) (large : white byte = false) (plain : byte < 128) : above 32 byte = true := by
  have bound : ¬ byte ≤ 32 := by simpa [white] using large
  exact (above_iff 32 byte).mpr ⟨UInt8.not_le.mp bound, plain⟩

theorem above_word_them (byte : UInt8) (large : white byte = false) (plain : byte < 128) (ordinary : byte ≠ 33) :
    above 33 byte = true := by
  have bounds := (above_iff 32 byte).mp (above_word byte large plain)
  refine (above_iff 33 byte).mpr ⟨?_, plain⟩
  have h := UInt8.lt_iff_toNat_lt.mp bounds.1
  have apart : byte.toNat ≠ 33 := fun same => ordinary (UInt8.toNat_inj.mp same)
  exact UInt8.lt_iff_toNat_lt.mpr (by simp at h ⊢; omega)

-- What the walk along the buffer finds, read off the bytes in front of it.
def entryIn (buf : List UInt8) : Option Entry :=
  let u := buf.dropWhile blank
  let t := ((u.dropWhile (above 32)).drop 1).dropWhile blank
  let s := ((t.dropWhile (above 33)).drop 1).dropWhile blank
  if u.headD 0 = 0 ∨ t.headD 0 = 0 ∨ s.headD 0 = 0 then none
  else some ⟨u.takeWhile (above 32), t.takeWhile (above 33), cstring s⟩

theorem charAt_drop (buf : List UInt8) (i : Nat) : charAt buf i = (buf.drop i).headD 0 := by
  simp [charAt, List.headD_eq_head?_getD, List.head?_drop, List.getD_eq_getElem?_getD]

theorem drop_length_takeWhile (p : UInt8 → Bool) (bytes : List UInt8) :
    bytes.drop (bytes.takeWhile p).length = bytes.dropWhile p := by
  calc bytes.drop (bytes.takeWhile p).length
      = (bytes.takeWhile p ++ bytes.dropWhile p).drop (bytes.takeWhile p).length := by
        rw [List.takeWhile_append_dropWhile]
    _ = bytes.dropWhile p := List.drop_left

theorem drop_skipBlanks (buf : List UInt8) (i : Nat) : buf.drop (skipBlanks buf i) = (buf.drop i).dropWhile blank := by
  rw [skipBlanks, ← List.drop_drop, drop_length_takeWhile]

theorem drop_skipWord (limit : UInt8) (buf : List UInt8) (i : Nat) :
    buf.drop (skipWord limit buf i) = (buf.drop i).dropWhile (above limit) := by
  rw [skipWord, ← List.drop_drop, drop_length_takeWhile]

theorem drop_set_behind (buf : List UInt8) (t : Nat) : (buf.set t 0).drop (t + 1) = (buf.drop t).drop 1 := by
  rw [List.drop_set_of_lt (by omega), List.drop_drop]

theorem split_takeWhile (p : UInt8 → Bool) (bytes : List UInt8) :
    bytes = bytes.takeWhile p ++ bytes.dropWhile p := List.takeWhile_append_dropWhile.symm

theorem cstring_word (limit : UInt8) (buf : List UInt8) (u : Nat) :
    cstring ((buf.set (skipWord limit buf u) 0).drop u) = (buf.drop u).takeWhile (above limit) := by
  have nonzero : ∀ byte ∈ (buf.drop u).takeWhile (above limit), (byte ≠ 0 : Bool) = true := fun byte member => by
    simpa using above_nonzero limit byte (List.mem_takeWhile_imp member)
  have there : (buf.set (skipWord limit buf u) 0).drop u =
      (buf.drop u).takeWhile (above limit) ++ ((buf.drop u).dropWhile (above limit)).set 0 0 := by
    rw [List.drop_set, if_neg (by unfold skipWord; omega), skipWord, Nat.add_sub_cancel_left]
    generalize buf.drop u = bytes
    calc bytes.set (bytes.takeWhile (above limit)).length 0
        = (bytes.takeWhile (above limit) ++ bytes.dropWhile (above limit)).set
            (bytes.takeWhile (above limit)).length 0 := by rw [← split_takeWhile]
      _ = bytes.takeWhile (above limit) ++ (bytes.dropWhile (above limit)).set 0 0 := by
          rw [List.set_append_right _ _ (Nat.le_refl _), Nat.sub_self]
  rw [there, cstring, List.takeWhile_append_of_pos nonzero]
  cases (buf.drop u).dropWhile (above limit) <;> simp

theorem cstring_set_behind (buf : List UInt8) (k : Nat) (behind : (cstring buf).length ≤ k) :
    cstring (buf.set k 0) = cstring buf := by
  induction buf generalizing k with
  | nil => rfl
  | cons byte buf inductionStep =>
      by_cases zero : byte = 0
      · cases k <;> simp [cstring, zero]
      · have more : (cstring (byte :: buf)).length = (cstring buf).length + 1 := by simp [cstring, zero]
        obtain ⟨k, rfl⟩ : ∃ j, k = j + 1 := ⟨k - 1, by omega⟩
        have same := inductionStep k (by omega)
        simpa [cstring, zero] using same

theorem cstring_first_word (buf : List UInt8) (u t k : Nat) (start : t = skipWord 32 buf u) (behind : t < k) :
    cstring (((buf.set t 0).set k 0).drop u) = (buf.drop u).takeWhile (above 32) := by
  have word : cstring ((buf.set t 0).drop u) = (buf.drop u).takeWhile (above 32) := start ▸ cstring_word 32 buf u
  have length : t = u + ((buf.drop u).takeWhile (above 32)).length := start
  rw [List.drop_set, if_neg (by omega), cstring_set_behind _ _ (by rw [word]; omega), word]

theorem cutFields_entry (buf : List UInt8) : (cutFields buf).1 = entryIn buf := by
  unfold cutFields entryIn
  simp only [charAt_drop, drop_skipBlanks, drop_set_behind, drop_skipWord, List.drop_zero]
  generalize first : buf.dropWhile blank = u
  generalize second : ((u.dropWhile (above 32)).drop 1).dropWhile blank = t
  generalize third : ((t.dropWhile (above 33)).drop 1).dropWhile blank = s
  by_cases none₁ : u.headD 0 = 0
  · rw [if_pos none₁, if_pos (Or.inl none₁)]
  by_cases none₂ : t.headD 0 = 0
  · rw [if_neg none₁, if_pos none₂, if_pos (Or.inr (Or.inl none₂))]
  by_cases none₃ : s.headD 0 = 0
  · rw [if_neg none₁, if_neg none₂, if_pos none₃, if_pos (Or.inr (Or.inr none₃))]
  rw [if_neg none₁, if_neg none₂, if_neg none₃, if_neg (by simp only [none₁, none₂, none₃, or_self, not_false_eq_true])]
  rw [cstring_word, cstring_first_word _ _ _ _ rfl (by unfold skipWord skipBlanks; omega)]
  simp only [drop_skipBlanks, drop_set_behind, drop_skipWord, List.drop_zero, first, second]

theorem stops_at (p : UInt8 → Bool) (bytes : List UInt8) (some : (bytes.dropWhile p) ≠ []) :
    p ((bytes.dropWhile p).headD 0) = false := by
  have stop := List.head_dropWhile_not p some
  rw [List.headD_eq_head?_getD, List.head?_eq_some_head some]
  exact stop

theorem headD_nonempty (bytes : List UInt8) (nonzero : bytes.headD 0 ≠ 0) : bytes ≠ [] := by
  rintro rfl
  exact nonzero rfl

theorem stops_above (bytes : List UInt8) (nonzero : (bytes.dropWhile blank).headD 0 ≠ 0) :
    above 32 ((bytes.dropWhile blank).headD 0) = true := by
  have stop := stops_at blank bytes (headD_nonempty _ nonzero)
  by_contra low
  have isBlank := (blank_iff _).mpr ⟨nonzero, Bool.eq_false_iff.mpr low⟩
  rw [stop] at isBlank
  exact absurd isBlank (by decide)

theorem takeWhile_stop (p : UInt8 → Bool) (bytes rest : List UInt8) (all : ∀ byte ∈ bytes, p byte)
    (stop : rest = [] ∨ p (rest.headD 0) = false) :
    (bytes ++ rest).takeWhile p = bytes ∧ (bytes ++ rest).dropWhile p = rest := by
  rw [List.takeWhile_append_of_pos all, List.dropWhile_append_of_pos all]
  cases rest with
  | nil => simp
  | cons byte rest =>
      have stays : p byte = false := by simpa using stop
      simp [stays]

theorem above_not_blank (byte : UInt8) (high : above 32 byte = true) : blank byte = false := by
  simp [blank, high]

theorem entryIn_words (l : Layout) (words : l.Words) :
    entryIn l.bytes = some ⟨l.us, l.them, cstring l.secret⟩ := by
  have head₁ : above 32 ((l.us ++ l.cut₁ :: (l.gap₂ ++ (l.them ++ l.cut₂ :: (l.gap₃ ++ l.secret)))).headD 0) =
    true := by
    obtain ⟨byte, us, shape⟩ := List.exists_cons_of_ne_nil words.some₁
    have high := words.us byte (by simp [shape])
    simpa [shape] using high
  have head₂ : above 32 ((l.them ++ l.cut₂ :: (l.gap₃ ++ l.secret)).headD 0) = true := by
    rcases shape : l.them with _ | ⟨byte, them⟩
    · have ends := words.some₂.resolve_left (by simp [shape])
      simp only [List.nil_append, List.headD_cons, ends]
      decide
    · exact above_lower byte (words.them byte (by simp [shape]))
  have gap₁ := takeWhile_stop blank _ _ words.gap₁ (Or.inr (above_not_blank _ head₁))
  have gap₂ := takeWhile_stop blank _ _ words.gap₂ (Or.inr (above_not_blank _ head₂))
  have gap₃ := takeWhile_stop blank _ _ words.gap₃ (Or.inr (above_not_blank _ words.some₃))
  have us := takeWhile_stop (above 32) l.us (l.cut₁ :: (l.gap₂ ++ (l.them ++ l.cut₂ :: (l.gap₃ ++ l.secret)))) words.us
    (Or.inr (Bool.eq_false_iff.mpr words.cut₁))
  have them := takeWhile_stop (above 33) l.them (l.cut₂ :: (l.gap₃ ++ l.secret)) words.them
    (Or.inr (Bool.eq_false_iff.mpr words.cut₂))
  unfold entryIn Layout.bytes
  simp only [gap₁.2, us.2, List.drop_one, List.tail_cons, gap₂.2, them.2, gap₃.2, us.1, them.1]
  rw [if_neg]
  rintro (zero | zero | zero)
  · exact above_nonzero 32 _ head₁ zero
  · exact above_nonzero 32 _ head₂ zero
  · exact above_nonzero 32 _ words.some₃ zero

theorem word_split (limit : UInt8) (bytes : List UInt8) (more : bytes.dropWhile (above limit) ≠ []) :
    ∃ cut, ¬ above limit cut ∧
      bytes = bytes.takeWhile (above limit) ++ cut :: (bytes.dropWhile (above limit)).drop 1 := by
  have stop := stops_at (above limit) bytes more
  obtain ⟨cut, rest, shape⟩ := List.exists_cons_of_ne_nil more
  refine ⟨cut, by simpa [shape] using stop, ?_⟩
  calc bytes = bytes.takeWhile (above limit) ++ bytes.dropWhile (above limit) := split_takeWhile _ _
    _ = bytes.takeWhile (above limit) ++ cut :: (bytes.dropWhile (above limit)).drop 1 := by
        rw [shape, List.drop_one, List.tail_cons]

theorem exclamation (byte : UInt8) (high : above 32 byte = true) (low : ¬ above 33 byte) : byte = 33 := by
  have bounds := (above_iff 32 byte).mp high
  have bound : ¬ 33 < byte := fun more => low ((above_iff 33 byte).mpr ⟨more, bounds.2⟩)
  have least := UInt8.lt_iff_toNat_lt.mp bounds.1
  have most := UInt8.le_iff_toNat_le.mp (UInt8.not_lt.mp bound)
  exact UInt8.toNat_inj.mp (by simp at least most ⊢; omega)

theorem words_of_entryIn (buf : List UInt8) (e : Entry) (found : entryIn buf = some e) :
    ∃ l : Layout, l.Words ∧ l.bytes = buf ∧ e = ⟨l.us, l.them, cstring l.secret⟩ := by
  unfold entryIn at found
  simp only at found
  generalize first : buf.dropWhile blank = u at found
  generalize second : ((u.dropWhile (above 32)).drop 1).dropWhile blank = t at found
  generalize third : ((t.dropWhile (above 33)).drop 1).dropWhile blank = s at found
  split at found
  · cases found
  rename_i present
  simp only [not_or] at present
  obtain ⟨some₁, some₂, some₃⟩ := present
  have more₁ : u.dropWhile (above 32) ≠ [] := by
    intro none
    rw [none] at second
    exact headD_nonempty _ some₂ second.symm
  have more₂ : t.dropWhile (above 33) ≠ [] := by
    intro none
    rw [none] at third
    exact headD_nonempty _ some₃ third.symm
  obtain ⟨cut₁, low₁, split₁⟩ := word_split 32 u more₁
  obtain ⟨cut₂, low₂, split₂⟩ := word_split 33 t more₂
  have high₁ : above 32 (u.headD 0) = true := by rw [← first] at some₁ ⊢; exact stops_above _ some₁
  have high₂ : above 32 (t.headD 0) = true := by rw [← second] at some₂ ⊢; exact stops_above _ some₂
  have high₃ : above 32 (s.headD 0) = true := by rw [← third] at some₃ ⊢; exact stops_above _ some₃
  have us : u.takeWhile (above 32) ≠ [] := by
    intro none
    rw [none, List.nil_append] at split₁
    rw [split₁] at high₁
    exact low₁ high₁
  have them : t.takeWhile (above 33) ≠ [] ∨ cut₂ = 33 := by
    by_cases none : t.takeWhile (above 33) = []
    · rw [none, List.nil_append] at split₂
      rw [split₂] at high₂
      exact Or.inr (exclamation cut₂ high₂ low₂)
    · exact Or.inl none
  refine ⟨⟨buf.takeWhile blank, u.takeWhile (above 32), cut₁, ((u.dropWhile (above 32)).drop 1).takeWhile blank,
    t.takeWhile (above 33), cut₂, ((t.dropWhile (above 33)).drop 1).takeWhile blank, s⟩, ?_, ?_, ?_⟩
  · constructor
    · exact fun byte member => List.mem_takeWhile_imp member
    · exact fun byte member => List.mem_takeWhile_imp member
    · exact us
    · exact low₁
    · exact fun byte member => List.mem_takeWhile_imp member
    · exact fun byte member => List.mem_takeWhile_imp member
    · exact them
    · exact low₂
    · exact fun byte member => List.mem_takeWhile_imp member
    · exact high₃
  · unfold Layout.bytes
    simp only
    rw [← third, ← split_takeWhile, ← split₂, ← second, ← split_takeWhile, ← split₁, ← first, ← split_takeWhile]
  · exact (Option.some.inj found).symm

theorem entryIn_empty (buf : List UInt8) (empty : cstring buf = []) : entryIn buf = none := by
  have zero : (buf.dropWhile blank).headD 0 = 0 := by
    cases buf with
    | nil => rfl
    | cons byte buf =>
        by_cases zero : byte = 0
        · simp [zero, blank]
        · simp [cstring, zero] at empty
  unfold entryIn
  rw [if_pos (Or.inl zero)]

theorem takeLine_entry (buf : List UInt8) : (takeLine buf).1 = entryIn (stripped buf) := by
  unfold takeLine
  simp only
  split
  · exact (entryIn_empty _ ‹_›).symm
  · exact cutFields_entry _

def lowChar (byte : UInt8) : Bool := !above 32 byte

theorem comments_stripped (load tail : List UInt8) :
    ∃ behind, stripComments (load ++ 0 :: tail) = load.takeWhile inText ++ 0 :: behind := by
  induction load with
  | nil => exact ⟨tail, by simp [stripComments]⟩
  | cons byte load inductionStep =>
      obtain ⟨behind, rest⟩ := inductionStep
      by_cases zero : byte = 0
      · exact ⟨load ++ 0 :: tail, by simp [stripComments, inText, zero]⟩
      · by_cases mark : isMark byte = true
        · exact ⟨_, by simp only [List.cons_append, stripComments, zero, mark, if_true, if_false]; simp [inText, mark]; rfl⟩
        · exact ⟨behind, by simp [stripComments, inText, zero, mark, rest]⟩

theorem text_nonzero (line : List UInt8) : ∀ byte ∈ line.takeWhile inText, byte ≠ 0 := by
  intro byte member
  have inside := List.mem_takeWhile_imp member
  simp only [inText, Bool.and_eq_true, bne_iff_ne] at inside
  exact inside.2

theorem cstring_before_zero (bytes behind : List UInt8) (nonzero : ∀ byte ∈ bytes, byte ≠ 0) :
    cstring (bytes ++ 0 :: behind) = bytes := by
  have keep := takeWhile_stop (fun byte => decide (byte ≠ 0)) bytes (0 :: behind)
    (fun byte member => by simpa using nonzero byte member) (Or.inr (by simp))
  exact keep.1

theorem zeros_shift (n : Nat) (behind : List UInt8) :
    List.replicate n 0 ++ 0 :: behind = 0 :: (List.replicate n 0 ++ behind) := by
  induction n with
  | zero => rfl
  | succ n inductionStep => simp [List.replicate_succ, inductionStep]

theorem stripped_load (buf load : List UInt8) :
    ∃ behind, stripped (fgets buf load) = (load.takeWhile inText).rdropWhile lowChar ++ 0 :: behind := by
  obtain ⟨behind, commentless⟩ := comments_stripped load (buf.drop (load.length + 1))
  have line : cstring (load.takeWhile inText ++ 0 :: behind) = load.takeWhile inText :=
    cstring_before_zero _ _ (text_nonzero load)
  refine ⟨(List.replicate ((load.takeWhile inText).length - ((load.takeWhile inText).rdropWhile lowChar).length) 0) ++
    behind, ?_⟩
  unfold stripped fgets stripTrailing
  simp only [commentless, line, List.drop_left]
  change (load.takeWhile inText).rdropWhile lowChar ++ _ ++ _ = _
  rw [List.append_assoc]
  congr 1
  exact zeros_shift _ behind

theorem rdropWhile_append_all (p : UInt8 → Bool) (front back : List UInt8) (all : ∀ byte ∈ back, p byte) :
    (front ++ back).rdropWhile p = front.rdropWhile p := by
  unfold List.rdropWhile
  rw [List.reverse_append, List.dropWhile_append_of_pos (by simpa using all)]

theorem rdropWhile_append_some (p : UInt8 → Bool) (front back : List UInt8) (some : back.rdropWhile p ≠ []) :
    (front ++ back).rdropWhile p = front ++ back.rdropWhile p := by
  unfold List.rdropWhile at some ⊢
  have more : back.reverse.dropWhile p ≠ [] := fun none => some (by rw [none]; rfl)
  rw [List.reverse_append, List.dropWhile_append, if_neg (by simpa using more), List.reverse_append,
    List.reverse_reverse]

-- Three fields of a line, in the text of the line.
structure Layout.Fields (l : Layout) : Prop where
  gap₁ : ∀ byte ∈ l.gap₁, white byte
  us : ∀ byte ∈ l.us, white byte = false
  some₁ : l.us ≠ []
  cut₁ : white l.cut₁
  gap₂ : ∀ byte ∈ l.gap₂, white byte
  them : ∀ byte ∈ l.them, white byte = false
  some₂ : l.them ≠ []
  cut₂ : white l.cut₂
  gap₃ : ∀ byte ∈ l.gap₃, white byte
  some₃ : l.secret ≠ []
  begins : white (l.secret.headD 0) = false
  ends : white (l.secret.getLastD 0) = false

theorem field_split (bytes : List UInt8) (more : (bytes.dropWhile (!white ·)).dropWhile white ≠ []) :
    ∃ cut gap, white cut ∧ (∀ byte ∈ gap, white byte) ∧
      bytes = bytes.takeWhile (!white ·) ++ cut :: (gap ++ (bytes.dropWhile (!white ·)).dropWhile white) := by
  have some : bytes.dropWhile (!white ·) ≠ [] := by
    intro none
    rw [none] at more
    exact more rfl
  have stop := stops_at (!white ·) bytes some
  obtain ⟨cut, rest, shape⟩ := List.exists_cons_of_ne_nil some
  have isWhite : white cut = true := by simpa [shape] using stop
  refine ⟨cut, rest.takeWhile white, isWhite, fun byte member => List.mem_takeWhile_imp member, ?_⟩
  calc bytes = bytes.takeWhile (!white ·) ++ bytes.dropWhile (!white ·) := split_takeWhile _ _
    _ = _ := by
        rw [shape, List.dropWhile_cons_of_pos isWhite, ← split_takeWhile]

theorem takeWhile_word_some (bytes : List UInt8) (some : bytes.dropWhile white ≠ []) :
    (bytes.dropWhile white).takeWhile (!white ·) ≠ [] := by
  have stop := stops_at white bytes some
  obtain ⟨byte, rest, shape⟩ := List.exists_cons_of_ne_nil some
  have dark : white byte = false := by simpa [shape] using stop
  simp [shape, dark]

theorem last_of_stripped (p : UInt8 → Bool) (bytes front back : List UInt8) (some : back ≠ [])
    (shape : bytes.rdropWhile p = front ++ back) : p (back.getLastD 0) = false := by
  have more : bytes.rdropWhile p ≠ [] := by
    rw [shape]
    simp [some]
  have last := List.rdropWhile_last_not p bytes more
  simp only [shape, List.getLast_append_of_ne_nil _ some] at last
  rw [List.getLastD_eq_getLast?, List.getLast?_eq_some_getLast some]
  simpa using last

theorem fieldsOf_layout (line : List UInt8) (e : Entry) (found : fieldsOf line = some e) :
    ∃ l : Layout, l.Fields ∧ l.bytes = lineText line ∧ e = ⟨l.us, l.them, l.secret⟩ := by
  unfold fieldsOf at found
  simp only at found
  generalize text : lineText line = bytes at found ⊢
  generalize first : bytes.dropWhile white = u at found
  generalize second : (u.dropWhile (!white ·)).dropWhile white = t at found
  generalize third : (t.dropWhile (!white ·)).dropWhile white = s at found
  split at found
  · cases found
  rename_i some₃
  have some₂ : t ≠ [] := by
    rintro rfl
    exact some₃ third.symm
  have some₁ : u ≠ [] := by
    rintro rfl
    exact some₂ second.symm
  obtain ⟨cut₁, gap₂, white₁, whites₂, split₁⟩ := field_split u (second ▸ some₂)
  obtain ⟨cut₂, gap₃, white₂, whites₃, split₂⟩ := field_split t (third ▸ some₃)
  rw [second] at split₁
  rw [third] at split₂
  have whole : bytes = bytes.takeWhile white ++ (u.takeWhile (!white ·) ++ cut₁ :: (gap₂ ++
      (t.takeWhile (!white ·) ++ cut₂ :: (gap₃ ++ s)))) := by
    rw [← split₂, ← split₁, ← first, ← split_takeWhile]
  refine ⟨⟨bytes.takeWhile white, u.takeWhile (!white ·), cut₁, gap₂, t.takeWhile (!white ·), cut₂, gap₃, s⟩,
    ?_, whole.symm, (Option.some.inj found).symm⟩
  constructor
  · exact fun byte member => List.mem_takeWhile_imp member
  · exact fun byte member => by simpa using List.mem_takeWhile_imp member
  · exact first ▸ takeWhile_word_some bytes (first ▸ some₁)
  · exact white₁
  · exact whites₂
  · exact fun byte member => by simpa using List.mem_takeWhile_imp member
  · exact second ▸ takeWhile_word_some _ (second ▸ some₂)
  · exact white₂
  · exact whites₃
  · exact some₃
  · exact third ▸ stops_at white _ (third ▸ some₃)
  · refine last_of_stripped white (line.takeWhile inText) (bytes.takeWhile white ++ (u.takeWhile (!white ·) ++ cut₁ ::
      (gap₂ ++ (t.takeWhile (!white ·) ++ cut₂ :: gap₃)))) s some₃ ?_
    exact text.trans (whole.trans (by simp only [List.append_assoc, List.cons_append]))

theorem head_kept (p : UInt8 → Bool) (bytes : List UInt8) (first : p (bytes.headD 0) = false) (some : bytes ≠ []) :
    bytes.rdropWhile p ≠ [] ∧ (bytes.rdropWhile p).headD 0 = bytes.headD 0 := by
  obtain ⟨byte, rest, rfl⟩ := List.exists_cons_of_ne_nil some
  have kept : (byte :: rest).rdropWhile p ≠ [] := by
    intro none
    have all := List.rdropWhile_eq_nil_iff.mp none byte (by simp)
    rw [List.headD_cons] at first
    rw [first] at all
    exact absurd all (by decide)
  obtain ⟨back, whole⟩ := List.rdropWhile_prefix p (byte :: rest)
  obtain ⟨head, front, shape⟩ := List.exists_cons_of_ne_nil kept
  rw [shape] at whole
  have same : head = byte := by simpa using congrArg (fun bytes => bytes.headD 0) whole
  exact ⟨kept, by rw [shape, List.headD_cons, List.headD_cons, same]⟩

theorem white_low (byte : UInt8) (small : white byte = true) : lowChar byte = true := by
  simp [lowChar, above_white byte small]

theorem white_blank (byte : UInt8) (small : white byte = true) (nonzero : byte ≠ 0) : blank byte = true :=
  (blank_iff byte).mpr ⟨nonzero, above_white byte small⟩

theorem lineText_nonzero (line : List UInt8) : ∀ byte ∈ lineText line, byte ≠ 0 := fun byte member =>
  text_nonzero line byte ((List.rdropWhile_prefix white _).subset member)

-- The bytes of the fields that the code takes for what they are.
structure Entry.Readable (e : Entry) : Prop where
  us : ∀ byte ∈ e.us, byte < 128
  them : ∀ byte ∈ e.them, byte < 128 ∧ byte ≠ 33
  first : e.secret.headD 0 < 128

theorem Layout.Fields.words (l : Layout) (fields : l.Fields) (nonzero : ∀ byte ∈ l.bytes, byte ≠ 0)
    (readable : (Entry.mk l.us l.them l.secret).Readable) (secret : List UInt8)
    (same : secret.headD 0 = l.secret.headD 0) : Layout.Words { l with secret := secret } := by
  unfold Layout.bytes at nonzero
  constructor
  · exact fun byte member => white_blank byte (fields.gap₁ byte member) (nonzero byte (by simp [member]))
  · exact fun byte member => above_word byte (fields.us byte member) (readable.us byte member)
  · exact fields.some₁
  · simp [above_white _ fields.cut₁]
  · exact fun byte member => white_blank byte (fields.gap₂ byte member) (nonzero byte (by simp [member]))
  · exact fun byte member =>
      above_word_them byte (fields.them byte member) (readable.them byte member).1 (readable.them byte member).2
  · exact Or.inl fields.some₂
  · intro high
    exact absurd (above_lower _ high) (by simp [above_white _ fields.cut₂])
  · exact fun byte member => white_blank byte (fields.gap₃ byte member) (nonzero byte (by simp [member]))
  · rw [same]
    exact above_word _ fields.begins readable.first

theorem text_kept (load : List UInt8) (l : Layout) (fields : l.Fields) (whole : l.bytes = lineText load)
    (first : l.secret.headD 0 < 128) :
    (load.takeWhile inText).rdropWhile lowChar =
      Layout.bytes { l with secret := l.secret.rdropWhile lowChar } := by
  have trail : ∀ byte ∈ (load.takeWhile inText).rtakeWhile white, lowChar byte := fun byte member =>
    white_low byte (List.mem_rtakeWhile_imp member)
  have high : lowChar (l.secret.headD 0) = false := by
    rw [lowChar, above_word _ fields.begins first]
    rfl
  calc (load.takeWhile inText).rdropWhile lowChar
      = (lineText load ++ (load.takeWhile inText).rtakeWhile white).rdropWhile lowChar := by
        rw [lineText, List.rdropWhile_append_rtakeWhile]
    _ = ((l.gap₁ ++ (l.us ++ l.cut₁ :: (l.gap₂ ++ (l.them ++ l.cut₂ :: l.gap₃)))) ++ l.secret).rdropWhile lowChar := by
        rw [rdropWhile_append_all _ _ _ trail, ← whole]
        simp only [Layout.bytes, List.append_assoc, List.cons_append]
    _ = Layout.bytes { l with secret := l.secret.rdropWhile lowChar } := by
        rw [rdropWhile_append_some _ _ _ (head_kept lowChar l.secret high fields.some₃).1]
        simp only [Layout.bytes, List.append_assoc, List.cons_append]

theorem load_read (buf load : List UInt8) (e : Entry) (found : fieldsOf load = some e) (readable : e.Readable) :
    (takeLine (fgets buf load)).1 = some { e with secret := e.secret.rdropWhile lowChar } := by
  obtain ⟨l, fields, whole, rfl⟩ := fieldsOf_layout load e found
  obtain ⟨behind, content⟩ := stripped_load buf load
  have high : lowChar (l.secret.headD 0) = false := by
    rw [lowChar, above_word _ fields.begins readable.first]
    rfl
  have head := head_kept lowChar l.secret high fields.some₃
  have nonzero : ∀ byte ∈ l.bytes, byte ≠ 0 := whole ▸ lineText_nonzero load
  have secretNonzero : ∀ byte ∈ l.secret.rdropWhile lowChar, byte ≠ 0 := fun byte member =>
    nonzero byte (by simp [Layout.bytes, (List.rdropWhile_prefix lowChar l.secret).subset member])
  have words := Layout.Fields.words l fields nonzero readable (l.secret.rdropWhile lowChar ++ 0 :: behind) (by
    obtain ⟨byte, rest, shape⟩ := List.exists_cons_of_ne_nil head.1
    rw [← head.2, shape, List.cons_append, List.headD_cons, List.headD_cons])
  have laid : stripped (fgets buf load) = Layout.bytes
    { l with secret := l.secret.rdropWhile lowChar ++ 0 :: behind } := by
    rw [content, text_kept load l fields whole readable.first]
    simp only [Layout.bytes, List.append_assoc, List.cons_append]
  rw [takeLine_entry, laid, entryIn_words _ words, cstring_before_zero _ _ secretNonzero]

theorem taken_readable (buf : List UInt8) (e : Entry) (found : entryIn buf = some e) : e.Readable := by
  obtain ⟨l, words, -, rfl⟩ := words_of_entryIn buf e found
  constructor
  · exact fun byte member => ((above_iff 32 byte).mp (words.us byte member)).2
  · intro byte member
    have bounds := (above_iff 33 byte).mp (words.them byte member)
    refine ⟨bounds.2, ?_⟩
    rintro rfl
    exact absurd bounds.1 (by decide)
  · have high := words.some₃
    rcases shape : l.secret with _ | ⟨byte, rest⟩
    · exact show (0 : UInt8) < 128 by decide
    · rw [shape, List.headD_cons] at high
      simp only [cstring, List.takeWhile_cons, decide_eq_true (above_nonzero 32 byte high), if_true, List.headD_cons]
      exact ((above_iff 32 byte).mp high).2

theorem threeWords_iff (buf : List UInt8) : ThreeWords buf ↔ entryIn buf ≠ none := by
  constructor
  · rintro ⟨l, words, rfl⟩
    rw [entryIn_words l words]
    simp
  · intro some
    obtain ⟨e, found⟩ := Option.ne_none_iff_exists'.mp some
    obtain ⟨l, words, same, -⟩ := words_of_entryIn buf e found
    exact ⟨l, words, same⟩

theorem last_low_iff (load : List UInt8) (e : Entry) (found : fieldsOf load = some e) :
    e.secret.rdropWhile lowChar = e.secret ↔ e.secret.getLastD 0 < 128 := by
  obtain ⟨l, fields, -, rfl⟩ := fieldsOf_layout load e found
  have dark := fields.ends
  simp only [List.getLastD_eq_getLast?, List.getLast?_eq_some_getLast fields.some₃, Option.getD_some] at dark ⊢
  rw [List.rdropWhile_eq_self_iff]
  constructor
  · intro stays
    have kept : above 32 (l.secret.getLast fields.some₃) = true := by simpa [lowChar] using stays fields.some₃
    exact ((above_iff 32 _).mp kept).2
  · intro plain some
    rw [lowChar, above_word _ dark plain]
    decide

theorem load_right_iff (buf load : List UInt8) :
    (takeLine (fgets buf load)).1 = fieldsOf load ↔ LoadPlain buf load := by
  rcases found : fieldsOf load with _ | e
  · rw [takeLine_entry]
    constructor
    · intro right
      exact ⟨fun e member => absurd (found ▸ member) (by simp),
        fun _ words => (threeWords_iff _).mp words right⟩
    · intro plain
      by_contra some
      exact plain.none found ((threeWords_iff _).mpr some)
  · constructor
    · intro right
      have readable : e.Readable := taken_readable _ e (by rw [← takeLine_entry, right])
      have read := load_read buf load e found readable
      rw [right] at read
      have last := (last_low_iff load e found).mp (congrArg Entry.secret (Option.some.inj read)).symm
      refine ⟨fun other member => ?_, fun none => absurd (found.symm.trans none) (by simp)⟩
      rw [found] at member
      cases member
      exact ⟨readable.us, readable.them, readable.first, last⟩
    · intro plain
      have fields := plain.fields e (by rw [found]; rfl)
      rw [load_read buf load e found ⟨fields.us, fields.them, fields.first⟩,
        (last_low_iff load e found).mpr fields.last]

theorem atEachLoad_congr (us them : CString) (P Q : List UInt8 → List UInt8 → Prop)
    (same : ∀ buf load, P buf load ↔ Q buf load) (buf : List UInt8) (loads : List (List UInt8)) :
    AtEachLoad us them P buf loads ↔ AtEachLoad us them Q buf loads := by
  induction loads generalizing buf with
  | nil => exact Iff.rfl
  | cons load rest inductionStep => exact and_congr (same buf load) (imp_congr Iff.rfl (inductionStep _))

theorem atEachLine_congr (us them : CString) (P Q : List UInt8 → List UInt8 → Prop)
    (same : ∀ buf line, P buf line ↔ Q buf line) (buf : List UInt8) (lines : List (List UInt8)) :
    AtEachLine us them P buf lines ↔ AtEachLine us them Q buf lines := by
  induction lines generalizing buf with
  | nil => exact Iff.rfl
  | cons line rest inductionStep => exact and_congr (same buf line) (imp_congr Iff.rfl (inductionStep _))

theorem matched_iff (us them : CString) (line : List UInt8) (e : Entry) (found : fieldsOf line = some e) :
    Matched us them line ↔ e.names us them = true := by
  unfold Matched
  simp [found]

theorem not_matched (us them : CString) (line : List UInt8) (none : fieldsOf line = none) : ¬ Matched us them line := by
  rintro ⟨e, member, -⟩
  rw [none] at member
  cases member

theorem taken_of_loaded (us them : CString) (buf : List UInt8) (loads : List (List UInt8))
    (right : AtEachLoad us them (fun buf load => (takeLine (fgets buf load)).1 = fieldsOf load) buf loads) :
    taken us them buf loads = upToMatch us them (loads.filterMap fieldsOf) := by
  induction loads generalizing buf with
  | nil => rfl
  | cons load rest inductionStep =>
      obtain ⟨own, later⟩ := right
      have outcome : takeLine (fgets buf load) = (fieldsOf load, (takeLine (fgets buf load)).2) := Prod.ext own rfl
      unfold taken
      rw [outcome]
      rcases found : fieldsOf load with _ | e
      · have goesOn := inductionStep _ (later (not_matched us them load found))
        simp only [List.filterMap_cons, found]
        exact goesOn
      · simp only [List.filterMap_cons, found, upToMatch]
        by_cases named : e.names us them = true
        · rw [if_pos named, if_pos named]
        · have goesOn := inductionStep _ (later (mt (matched_iff us them load e found).mp named))
          rw [if_neg named, if_neg named, goesOn]

theorem line_right_iff (us them : CString) (buf line : List UInt8) :
    LineRight us them buf line ↔ LinePlain us them buf line := by
  have loaded := atEachLoad_congr us them _ _ load_right_iff buf (loads [] line)
  constructor
  · intro right
    exact ⟨loaded.mp right.loaded, (taken_of_loaded us them buf _ right.loaded).symm.trans right.whole⟩
  · intro plain
    have own := loaded.mpr plain.loaded
    exact ⟨own, (taken_of_loaded us them buf _ own).trans plain.whole⟩

theorem scan_append (us them : CString) (buf : List UInt8) (front back : List (List UInt8)) :
    scan us them buf (front ++ back) =
      match (taken us them buf front).find? (·.names us them) with
      | some e => some (e.secret.take maxStrLen)
      | none => scan us them (leftBehind buf front) back := by
  induction front generalizing buf with
  | nil => rfl
  | cons load front inductionStep =>
      rw [List.cons_append, scan, taken, leftBehind, List.foldl_cons]
      rcases outcome : takeLine (fgets buf load) with ⟨_ | e, after⟩
      · exact inductionStep after
      · by_cases named : e.names us them = true
        · simp [named]
        · simp only [named, Bool.false_eq_true, if_false, List.find?_cons]
          exact inductionStep after

theorem loads_line (load file xs : List UInt8) :
    loads load (xs ++ 10 :: file) = loads load (xs ++ [10]) ++ loads [] file := by
  induction xs generalizing load with
  | nil => simp [loads]
  | cons byte xs inductionStep =>
      simp only [List.cons_append, loads]
      split
      · rw [inductionStep, List.cons_append]
      · exact inductionStep _

theorem loads_lines (line file : List UInt8) :
    loads [] (line ++ file) = (lines line file).flatMap (loads []) := by
  induction file generalizing line with
  | nil => cases line <;> simp [lines, loads]
  | cons byte file inductionStep =>
      by_cases newline : byte = 10
      · have behind := inductionStep []
        rw [List.nil_append] at behind
        rw [newline, loads_line, lines, if_pos rfl, List.flatMap_cons, behind]
      · rw [lines, if_neg newline, ← inductionStep, List.append_assoc, List.singleton_append]

theorem load_short (load file : List UInt8) (room : load.length + 2 ≤ strLen) :
    ∀ piece ∈ loads load file, piece.length < strLen := by
  induction file generalizing load with
  | nil =>
      intro piece member
      unfold loads at member
      split at member
      · cases member
      · rw [List.mem_singleton.mp member]
        omega
  | cons byte file inductionStep =>
      intro piece member
      unfold loads at member
      split at member
      · rcases List.mem_cons.mp member with rfl | later
        · simp
          omega
        · exact inductionStep [] (by decide) piece later
      · exact inductionStep _ (by simp; omega) piece member

theorem secret_short (load : List UInt8) (e : Entry) (found : fieldsOf load = some e) :
    e.secret.length ≤ load.length := by
  obtain ⟨l, -, whole, rfl⟩ := fieldsOf_layout load e found
  have within : (lineText load).length ≤ load.length :=
    (List.rdropWhile_prefix white _).length_le.trans (List.takeWhile_prefix inText).length_le
  have part : l.secret.length ≤ l.bytes.length := by
    simp only [Layout.bytes, List.length_append, List.length_cons]
    omega
  rw [whole] at part
  exact part.trans within

theorem upToMatch_subset (us them : CString) (entries : List Entry) : ∀ e ∈ upToMatch us them entries, e ∈ entries := by
  induction entries with
  | nil => exact fun e member => member
  | cons first rest inductionStep =>
      intro e member
      unfold upToMatch at member
      split at member
      · exact List.mem_cons.mpr (Or.inl (List.mem_singleton.mp member))
      · rcases List.mem_cons.mp member with rfl | later
        · exact List.mem_cons_self
        · exact List.mem_cons_of_mem _ (inductionStep e later)

theorem secret_fits (us them : CString) (buf line : List UInt8) (e : Entry) (right : LineRight us them buf line)
    (found : fieldsOf line = some e) : e.secret.take maxStrLen = e.secret := by
  have whole := (line_right_iff us them buf line).mp right |>.whole
  have member : e ∈ upToMatch us them ((loads [] line).filterMap fieldsOf) := by simp [whole, found]
  obtain ⟨load, loaded, own⟩ := List.mem_filterMap.mp (upToMatch_subset us them _ e member)
  have short := load_short [] line (by decide) load loaded
  have within := secret_short load e own
  exact List.take_of_length_le (by unfold strLen at short; unfold maxStrLen; omega)

theorem scan_right (us them : CString) (buf : List UInt8) (lines : List (List UInt8))
    (right : AtEachLine us them (LineRight us them) buf lines) :
    scan us them buf (lines.flatMap (loads [])) =
      ((lines.filterMap fieldsOf).find? (·.names us them)).map Entry.secret := by
  induction lines generalizing buf with
  | nil => rfl
  | cons line rest inductionStep =>
      obtain ⟨own, later⟩ := right
      rw [List.flatMap_cons, scan_append, own.whole]
      rcases found : fieldsOf line with _ | e
      · simp only [Option.toList_none, List.find?_nil, List.filterMap_cons, found]
        exact inductionStep _ (later (not_matched us them line found))
      · simp only [Option.toList_some, List.filterMap_cons, found]
        by_cases named : e.names us them = true
        · simp [named, secret_fits us them buf line e own found]
        · simp only [Bool.not_eq_true] at named
          simp only [List.find?_cons, named, List.find?_nil]
          exact inductionStep _ (later (mt (matched_iff us them line e found).mp (by simp [named])))

-- get_secret goes by the text of the lines, and by nothing else, exactly if
-- every line it comes to is plain.
theorem get_secret_right_iff (us them : CString) (buf file : List UInt8) :
    SecretRight us them buf file ↔ AtEachLine us them (LinePlain us them) buf (lines [] file) := by
  have same := atEachLine_congr us them _ _ (line_right_iff us them) buf (lines [] file)
  constructor
  · exact fun right => same.mp right.taken
  · intro plain
    have right := same.mpr plain
    refine ⟨?_, right⟩
    unfold getSecret secretOf
    rw [← scan_right us them buf _ right, ← loads_lines, List.nil_append]

-- A line with two fields and a comment directly behind them: office lac1#old.
theorem comment_taken_for_secret :
    ¬ SecretRight (text "office") (text "lac1") (List.replicate strLen 0) (text "office lac1#old\n") := by
  intro right
  exact absurd right.result (by decide +kernel)

end ZyAgf.Xl2tpd.Secrets
