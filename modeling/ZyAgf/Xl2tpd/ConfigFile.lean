import ZyAgf.Xl2tpd.OptionLines
import ZyAgf.Xl2tpd.OptionTitles
import ZyAgf.Xl2tpd.Secrets

set_option autoImplicit false

namespace ZyAgf.Xl2tpd.Options.ConfigFile

open OptionLines (trimEnd)

def bufSize : Nat := 1024
def ipIpsecRefinfo : Int := 30
def defaultMaxRetries : Int := 5

-- new_lns and new_lac, where there is memory.
def newLns : LnsItem := { Xl2tpd.newLns with exclusive := false, callRws := defaultRwsSize }

def newLac : LacItem :=
  { live := true, entname := [], lns := [], rsched := false, tunRws := defaultRwsSize, rxspeed := 0, txspeed := 0, active := false
    hbit := false, lbit := false, challenge := false, localaddr := 0, remoteaddr := 0, password := [], peername := [],
      hostname := []
    ppp := newAuth, defaultroute := false, redial := false, rmax := 0, rtries := 0, rtimeout := 30, t := none, c := none
    callRws := defaultRwsSize, autodial := false }

-- What data points to. The context is the one of this kind, or none yet.
inductive Section where
  | global
  | lns (i : Nat)
  | deflns
  | lac (i : Nat)
  | deflac
deriving DecidableEq

structure Config where
  gconfig : Global
  lnslist : List LnsItem
  deflns : Option LnsItem
  laclist : List LacItem
  deflac : Option LacItem
  filerr : CString
  randSource : RandSource
  data : Option Section
  isDefault : Bool
deriving DecidableEq

def zeroAuth : PppAuth := { newAuth with authself := false }

-- What init_config sets before it opens the file. The default lac entry is bare
-- memory here, not one of new_lac's.
def initConfig (authfile : CString) (accesscontrol : Bool) (randSource : RandSource) : Config where
  gconfig :=
    { listenaddr := 0, port := Options.udpListenPort, authfile := authfile, accesscontrol := accesscontrol, forceuserspace := false
      packetDump := false, debugAvp := false, debugNetwork := false, debugTunnel := false, debugState := false,
        ipsecsaref := false
      sarefnum := ipIpsecRefinfo, maxRetries := defaultMaxRetries, capBackoff := 0 }
  lnslist := []
  deflns := none
  laclist := []
  deflac := some { newLac with tunRws := 0, callRws := 0, rtimeout := 0, ppp := zeroAuth }
  filerr := []
  randSource := randSource
  data := none
  isDefault := false

inductive ConfigError where
  | noClosingBracket (linenum : Nat)
  | unknownContext (linenum : Nat) (s : CString)
  | noContext (linenum : Nat) (s : CString)
  | noEquals (linenum : Nat)
  | refused (linenum : Nat) (filerr : CString)
  | unknownField (linenum : Nat) (s : CString)
deriving DecidableEq

def ConfigError.linenum : ConfigError → Nat
  | .noClosingBracket linenum => linenum
  | .unknownContext linenum _ => linenum
  | .noContext linenum _ => linenum
  | .noEquals linenum => linenum
  | .refused linenum _ => linenum
  | .unknownField linenum _ => linenum

def atLine (linenum : Nat) : CString := text ("parse_config: line " ++ toString linenum ++ ": ")

def ConfigError.message : ConfigError → CString
  | .noClosingBracket linenum => atLine linenum ++ text "No closing bracket\n"
  | .unknownContext linenum s => atLine linenum ++ text "unknown context '" ++ s ++ text "'\n"
  | .noContext linenum s => atLine linenum ++ text "data '" ++ s ++ text "' occurs with no context\n"
  | .noEquals linenum => atLine linenum ++ text "line too long or no '=' in data\n"
  | .refused linenum filerr => atLine linenum ++ filerr
  | .unknownField linenum s => atLine linenum ++ text "Unknown field '" ++ s ++ text "'\n"

def Config.item (c : Config) : Section → Option Item
  | .global => some (.global c.gconfig)
  | .lns i => c.lnslist[i]?.map .lns
  | .deflns => c.deflns.map .lns
  | .lac i => c.laclist[i]?.map .lac
  | .deflac => c.deflac.map .lac

-- An option leaves an item of the kind it was, so the last case does not arise:
-- see call_keeps.
def Config.store (c : Config) : Section → Item → Config
  | .global, .global g => { c with gconfig := g }
  | .lns i, .lns n => { c with lnslist := c.lnslist.set i n }
  | .deflns, .lns n => { c with deflns := some n }
  | .lac i, .lac l => { c with laclist := c.laclist.set i l }
  | .deflac, .lac l => { c with deflac := some l }
  | _, _ => c

def namedLns (d : Option CString) (n : LnsItem) : LnsItem :=
  match d with
  | some d => { n with entname := d.take strLen }
  | none => n

def namedLac (d : Option CString) (l : LacItem) : LacItem :=
  match d with
  | some d => { l with entname := d.take strLen }
  | none => l

-- An entry that is there already gets its name again, in the letters it is
-- written in now.
def Config.lns (d : Option CString) (c : Config) : Config :=
  if c.isDefault then
    { c with deflns := some (c.deflns.getD { newLns with entname := text "default" }), data := some .deflns }
  else
    match d.bind fun d => c.lnslist.findIdx? fun tl => sameName d tl.entname with
    | some i => { c with lnslist := c.lnslist.modify i (namedLns d), data := some (.lns i) }
    | none => { c with lnslist := namedLns d newLns :: c.lnslist, data := some (.lns 0) }

def Config.lac (d : Option CString) (c : Config) : Config :=
  if c.isDefault then
    { c with deflac := some (c.deflac.getD { newLac with entname := text "default" }), data := some .deflac }
  else
    match d.bind fun d => c.laclist.findIdx? fun tc => sameName d tc.entname with
    | some i => { c with laclist := c.laclist.modify i (namedLac d), data := some (.lac i) }
    | none => { c with laclist := namedLac d newLac :: c.laclist, data := some (.lac 0) }

-- The parts of a heading: what stands between the brackets, up to the first
-- blank, and what stands behind it.
def insideOf (s : CString) : CString := (s.takeWhile (· != 93)).drop 1

def contextOf (s : CString) : CString := (insideOf s).takeWhile (· != 32)

def parameterOf (s : CString) : Option CString :=
  if 32 ∈ insideOf s then some (((insideOf s).dropWhile (· != 32)).drop 1) else none

def defaultOf (s : CString) : Bool := (parameterOf s).any (sameName · (text "default"))

def Config.heading (linenum : Nat) (s : CString) (c : Config) : Except ConfigError Config :=
  if 93 ∈ s then
    let c := { c with isDefault := defaultOf s }
    if sameName (contextOf s) (text "global") then .ok { c with data := some .global }
    else if sameName (contextOf s) (text "lns") then .ok (c.lns (parameterOf s))
    else if sameName (contextOf s) (text "lac") then .ok (c.lac (parameterOf s))
    else .error (.unknownContext linenum (contextOf s))
  else .error (.noClosingBracket linenum)

def Config.option (env : Surroundings) (linenum : Nat) (s : CString) (c : Config) : Except ConfigError Config :=
  match c.data.bind fun data => (c.item data).map (data, ·) with
  | none => .error (.noContext linenum s)
  | some (data, item) =>
      if 61 ∈ s then
        let word := trimEnd (s.takeWhile (· != 61))
        let value := ((s.dropWhile (· != 61)).drop 1).dropWhile blank
        let (result, p) := parseOneOption env word value c.isDefault ⟨item, c.filerr, c.randSource⟩
        if result = -1 then .error (.refused linenum p.filerr)
        else if result = -2 then .error (.unknownField linenum word)
        else .ok { c.store data p.item with filerr := p.filerr, randSource := p.randSource }
      else .error (.noEquals linenum)

def Config.statement (env : Surroundings) (linenum : Nat) (s : CString) (c : Config) : Except ConfigError Config :=
  if s.head? = some 91 then c.heading linenum s else c.option env linenum s

-- What is left of a line without its comment and the blanks around it.
def statementOf (line : CString) : CString := trimEnd ((line.takeWhile (· != 59)).dropWhile blank)

def loads : List UInt8 → List UInt8 → List (List UInt8)
  | load, [] => if load.isEmpty then [] else [load]
  | load, byte :: file =>
      if byte = 10 ∨ load.length + 2 = bufSize then (load ++ [byte]) :: loads [] file
      else loads (load ++ [byte]) file

structure Reader where
  linenum : Nat
  inComment : Bool
  config : Config

-- One round of the loop. The byte before the buffer is looked at where the file
-- has a zero.
def takeLoad (env : Surroundings) (before : UInt8) (r : Reader) (load : List UInt8) : Except ConfigError Reader :=
  let buf := cstring load
  let hasLf := buf.getLastD before == 10
  if r.inComment then .ok { r with inComment := !hasLf }
  else
    let s := statementOf buf
    let r := { r with linenum := r.linenum + 1, inComment := buf.contains 59 && !hasLf }
    if s = [] then .ok r
    else (r.config.statement env r.linenum s).map fun config => { r with config := config }

def Config.unopened (c : Config) : Config := { c with data := none, isDefault := false }

def parseConfig (env : Surroundings) (before : UInt8) (c : Config) (file : List UInt8) : Except ConfigError Config :=
  ((loads [] file).foldlM (takeLoad env before) ⟨0, false, c.unopened⟩).map Reader.config

-- What the file says, without a buffer: each line, under its number, that has
-- something besides blanks and a comment.
def Config.line (env : Surroundings) (linenum : Nat) (s : CString) (c : Config) : Except ConfigError Config :=
  if s = [] then .ok c else c.statement env linenum s

def statements : Nat → List (List UInt8) → List (Nat × CString)
  | _, [] => []
  | linenum, line :: rest =>
      (if statementOf line = [] then [] else [(linenum, statementOf line)]) ++ statements (linenum + 1) rest

def Config.follow (env : Surroundings) (c : Config) (list : List (Nat × CString)) : Except ConfigError Config :=
  list.foldlM (fun c stated => c.statement env stated.1 stated.2) c

-- Where the buffer does not show: the line, or what stands before its comment,
-- goes into it.
def Fits (line : List UInt8) : Prop := line.length < bufSize ∨ (line.takeWhile (· != 59)).length + 1 < bufSize

theorem loads_line (load file xs : List UInt8) : loads load (xs ++ 10 :: file) = loads load
    (xs ++ [10]) ++ loads [] file := by
  induction xs generalizing load with
  | nil => simp [loads]
  | cons byte xs inductionStep =>
      simp only [List.cons_append, loads]
      split
      · rw [inductionStep, List.cons_append]
      · exact inductionStep _

theorem loads_short (load xs : List UInt8) (inside : ∀ byte ∈ xs, byte ≠ 10)
    (room : load.length + xs.length + 1 < bufSize) :
    loads load (xs ++ [10]) = [load ++ xs ++ [10]] := by
  induction xs generalizing load with
  | nil => simp [loads]
  | cons byte xs inductionStep =>
      have longer : load.length + (xs.length + 1) + 1 < bufSize := room
      rw [List.cons_append, loads, if_neg, inductionStep _ (fun other member => inside other (.tail _ member))]
      · simp
      · simp only [List.length_append, List.length_singleton]
        omega
      · rintro (newline | full)
        · exact inside byte (.head _) newline
        · omega

theorem loads_end (load xs : List UInt8) (inside : ∀ byte ∈ xs, byte ≠ 10) (room : load.length + xs.length < bufSize)
    (some' : load ++ xs ≠ []) : loads load xs = [load ++ xs] := by
  induction xs generalizing load with
  | nil => simp_all [loads]
  | cons byte xs inductionStep =>
      have longer : load.length + (xs.length + 1) < bufSize := room
      rw [loads]
      by_cases full : load.length + 2 = bufSize
      · obtain rfl : xs = [] := List.length_eq_zero_iff.mp (by omega)
        rw [if_pos (.inr full)]
        rfl
      · rw [if_neg (not_or.mpr ⟨inside byte (.head _), full⟩),
          inductionStep _ (fun other member => inside other (.tail _ member))]
        · simp
        · simp only [List.length_append, List.length_singleton]
          omega
        · simp

theorem loads_long (load xs rest : List UInt8) (inside : ∀ byte ∈ xs, byte ≠ 10) (room : load.length + 1 < bufSize)
    (long : bufSize ≤ load.length + xs.length + 1) :
    loads load (xs ++ rest) =
      (load ++ xs.take (bufSize - 1 - load.length)) :: loads [] (xs.drop (bufSize - 1 - load.length) ++ rest) := by
  induction xs generalizing load with
  | nil =>
      simp only [List.length_nil] at long
      omega
  | cons byte xs inductionStep =>
      have longer : bufSize ≤ load.length + (xs.length + 1) + 1 := long
      rw [List.cons_append, loads]
      by_cases full : load.length + 2 = bufSize
      · have one : bufSize - 1 - load.length = 1 := by omega
        rw [if_pos (.inr full), one]
        rfl
      · have more : bufSize - 1 - load.length = bufSize - 1 - (load ++ [byte]).length + 1 := by
          simp only [List.length_append, List.length_singleton]
          omega
        rw [if_neg (not_or.mpr ⟨inside byte (.head _), full⟩),
          inductionStep _ (fun other member => inside other (.tail _ member)), more]
        · simp
        · simp only [List.length_append, List.length_singleton]
          omega
        · simp only [List.length_append, List.length_singleton]
          omega

section Reading

variable (env : Surroundings) (before : UInt8)

theorem cstring_plain (bytes : List UInt8) (plain : ∀ byte ∈ bytes, byte ≠ 0) : cstring bytes = bytes :=
  List.takeWhile_eq_self_iff.mpr fun byte member => by simpa using plain byte member

theorem last_inside (bytes : List UInt8) (some' : bytes ≠ []) (inside : ∀ byte ∈ bytes, byte ≠ 10) :
    (bytes.getLastD before == 10) = false := by
  rw [List.getLastD_eq_getLast?, List.getLast?_eq_getLast_of_ne_nil some', Option.getD_some]
  exact beq_false_of_ne (inside _ (List.getLast_mem some'))

theorem comment_skipped (load xs tail : List UInt8) (r : Reader) (inside : ∀ byte ∈ load ++ xs, byte ≠ 10 ∧ byte ≠ 0)
    (tails : tail = [] ∨ tail = [10]) (within : r.inComment = true) :
    ∃ inComment, (tail = [10] → inComment = false) ∧
      (loads load (xs ++ tail)).foldlM (takeLoad env before) r = .ok { r with inComment := inComment } := by
  have skipped : ∀ bytes, takeLoad env before r bytes = .ok
    { r with inComment := !((cstring bytes).getLastD before == 10) } := fun bytes =>
    if_pos within
  induction xs generalizing load with
  | nil =>
      rw [List.append_nil] at inside
      rcases tails with rfl | rfl
      · refine ⟨true, fun wrong => absurd wrong (by decide), ?_⟩
        cases load with
        | nil => exact congrArg Except.ok (by rw [← within])
        | cons byte load =>
            have plain := cstring_plain (byte :: load) fun other member => (inside other member).2
            have last := last_inside before (byte :: load) (by simp) fun other member => (inside other member).1
            rw [List.nil_append, loads, if_neg (by simp), List.foldlM_cons, skipped, plain, last]
            rfl
      · refine ⟨false, fun _ => rfl, ?_⟩
        have plain := cstring_plain (load ++ [10]) fun other member => by
          rcases List.mem_append.mp member with old | new
          · exact (inside other old).2
          · rw [List.mem_singleton.mp new]
            decide
        simp [loads, skipped, plain]
  | cons byte xs inductionStep =>
      have here := inside byte (by simp)
      have now : ∀ other ∈ load ++ [byte], other ≠ 10 ∧ other ≠ 0 := fun other member => inside other (by
        rcases List.mem_append.mp member with old | new
        · exact List.mem_append_left _ old
        · rw [List.mem_singleton.mp new]
          simp)
      rw [List.cons_append, loads]
      by_cases full : load.length + 2 = bufSize
      · obtain ⟨inComment, ended, rest⟩ := inductionStep [] fun other member => inside other
          (List.mem_append_right _ (.tail _ member))
        refine ⟨inComment, ended, ?_⟩
        have plain := cstring_plain (load ++ [byte]) fun other member => (now other member).2
        have last := last_inside before (load ++ [byte]) (by simp) fun other member => (now other member).1
        have same : { r with inComment := true } = r := by rw [← within]
        rw [if_pos (.inr full), List.foldlM_cons, skipped, plain, last]
        exact (congrArg (fun s => (loads [] (xs ++ tail)).foldlM (takeLoad env before) s) same).trans rest
      · rw [if_neg (not_or.mpr ⟨here.1, full⟩)]
        exact inductionStep (load ++ [byte]) fun other member => inside other (by simpa using member)

theorem takeWhile_take (p : UInt8 → Bool) (bytes : List UInt8) (n : Nat) (early : (bytes.takeWhile p).length < n) :
    (bytes.take n).takeWhile p = bytes.takeWhile p := by
  induction bytes generalizing n with
  | nil => rw [List.take_nil]
  | cons byte bytes inductionStep =>
      cases n with
      | zero => exact absurd early (Nat.not_lt_zero _)
      | succ n =>
          rw [List.take_succ_cons]
          by_cases holds : p byte = true
          · rw [List.takeWhile_cons_of_pos holds, List.length_cons] at early
            rw [List.takeWhile_cons_of_pos holds, List.takeWhile_cons_of_pos holds, inductionStep n (by omega)]
          · rw [List.takeWhile_cons_of_neg holds, List.takeWhile_cons_of_neg holds]

theorem takeLoad_outside (r : Reader) (load : List UInt8) (outside : r.inComment = false)
    (plain : ∀ byte ∈ load, byte ≠ 0) :
    takeLoad env before r load = (r.config.line env (r.linenum + 1) (statementOf load)).map fun config =>
      ⟨r.linenum + 1, load.contains 59 && !(load.getLastD before == 10), config⟩ := by
  unfold takeLoad Config.line
  rw [cstring_plain load plain, outside]
  simp only [Bool.false_eq_true, if_false]
  split <;> rfl

theorem line_read (body tail : List UInt8) (r : Reader) (inside : ∀ byte ∈ body, byte ≠ 10 ∧ byte ≠ 0)
    (tails : tail = [] ∨ tail = [10]) (some' : body ++ tail ≠ []) (fits : Fits (body ++ tail))
    (outside : r.inComment = false) :
    ∃ inComment, (tail = [10] → inComment = false) ∧
      (loads [] (body ++ tail)).foldlM (takeLoad env before) r =
        (r.config.line env (r.linenum + 1) (statementOf (body ++ tail))).map fun config =>
          ⟨r.linenum + 1, inComment, config⟩ := by
  have plain : ∀ byte ∈ body ++ tail, byte ≠ 0 := fun byte member => by
    rcases List.mem_append.mp member with old | new
    · exact (inside byte old).2
    · rcases tails with rfl | rfl
      · cases new
      · rw [List.mem_singleton.mp new]
        decide
  by_cases short : (body ++ tail).length < bufSize
  · have one : loads [] (body ++ tail) = [body ++ tail] := by
      rw [List.length_append] at short
      rcases tails with rfl | rfl
      · rw [List.append_nil] at some' ⊢
        exact loads_end [] body (fun byte member => (inside byte member).1) (by simpa using short) some'
      · exact loads_short [] body (fun byte member => (inside byte member).1) (by simpa using short)
    refine ⟨(body ++ tail).contains 59 && !((body ++ tail).getLastD before == 10), ?_, ?_⟩
    · rintro rfl
      simp
    · rw [one, List.foldlM_cons, takeLoad_outside env before r _ outside plain]
      cases r.config.line env (r.linenum + 1) (statementOf (body ++ tail)) <;> rfl
  · have early : ((body ++ tail).takeWhile (· != 59)).length < bufSize - 1 := by
      have := fits.resolve_left short
      omega
    have full : bufSize - 1 ≤ body.length := by
      rw [List.length_append] at short
      rcases tails with rfl | rfl <;> simp at short <;> omega
    have cut : (body ++ tail).take (bufSize - 1) = body.take (bufSize - 1) := List.take_append_of_le_length full
    have first := takeWhile_take (· != 59) _ _ early
    rw [cut] at first
    have length : (body.take (bufSize - 1)).length = bufSize - 1 := List.length_take_of_le full
    have comment : 59 ∈ body.take (bufSize - 1) := by
      by_contra none'
      have all := List.takeWhile_eq_self_iff.mpr fun byte (member : byte ∈ body.take (bufSize - 1)) =>
        bne_iff_ne.mpr fun (mark : byte = 59) => none' (mark ▸ member)
      rw [← first, all, length] at early
      exact absurd early (Nat.lt_irrefl _)
    have within : ∀ byte ∈ body.take (bufSize - 1), byte ≠ 10 ∧ byte ≠ 0 := fun byte member =>
      inside byte (List.mem_of_mem_take member)
    have last := last_inside before (body.take (bufSize - 1)) (List.ne_nil_of_mem comment) fun byte member =>
      (within byte member).1
    have same : statementOf (body.take (bufSize - 1)) = statementOf (body ++ tail) := by
      unfold statementOf
      rw [first]
    have taken := takeLoad_outside env before r (body.take (bufSize - 1)) outside fun byte member =>
      (within byte member).2
    rw [same, List.contains_iff_mem.mpr comment, last] at taken
    have split := loads_long [] body tail (fun byte member => (inside byte member).1) (by decide)
      (by simp only [List.length_nil]; omega)
    rw [List.nil_append, List.length_nil, Nat.sub_zero] at split
    cases stated : r.config.line env (r.linenum + 1) (statementOf (body ++ tail)) with
    | error e =>
        refine ⟨false, fun _ => rfl, ?_⟩
        rw [split, List.foldlM_cons, taken, stated]
        rfl
    | ok config =>
        obtain ⟨inComment, ended, rest⟩ := comment_skipped env before [] (body.drop (bufSize - 1)) tail
          ⟨r.linenum + 1, true, config⟩
          (fun byte member => inside byte (List.mem_of_mem_drop (by simpa using member))) tails rfl
        refine ⟨inComment, ended, ?_⟩
        rw [split, List.foldlM_cons, taken, stated]
        exact rest

theorem follow_line (c : Config) (linenum : Nat) (line : List UInt8) (rest : List (List UInt8)) :
    c.follow env (statements linenum (line :: rest)) =
      (c.line env linenum (statementOf line)).bind fun c => c.follow env (statements (linenum + 1) rest) := by
  unfold Config.line
  rw [statements, Config.follow, List.foldlM_append]
  by_cases empty : statementOf line = []
  · rw [if_pos empty, if_pos empty]
    rfl
  · rw [if_neg empty, if_neg empty, List.foldlM_cons]
    dsimp only
    cases c.statement env linenum (statementOf line) <;> rfl

theorem lines_read (line file : List UInt8) (r : Reader) (inside : ∀ byte ∈ line, byte ≠ 10 ∧ byte ≠ 0)
    (nonzero : ∀ byte ∈ file, byte ≠ 0) (fits : ∀ whole ∈ Secrets.lines line file, Fits whole)
    (outside : r.inComment = false) :
    ((loads [] (line ++ file)).foldlM (takeLoad env before) r).map Reader.config =
      r.config.follow env (statements (r.linenum + 1) (Secrets.lines line file)) := by
  induction file generalizing line r with
  | nil =>
      cases line with
      | nil => rfl
      | cons byte line =>
          have whole : Secrets.lines (byte :: line) [] = [byte :: line] := rfl
          rw [whole] at fits ⊢
          obtain ⟨inComment, _, read⟩ := line_read env before (byte :: line) [] r inside (.inl rfl) (by simp)
            (by simpa using fits) outside
          rw [read, follow_line, List.append_nil]
          cases r.config.line env (r.linenum + 1) (statementOf (byte :: line)) <;> rfl
  | cons byte file inductionStep =>
      have later : ∀ other ∈ file, other ≠ 0 := fun other member => nonzero other (.tail _ member)
      by_cases newline : byte = 10
      · subst newline
        have whole : Secrets.lines line (10 :: file) = (line ++ [10]) :: Secrets.lines [] file := if_pos rfl
        rw [whole] at fits ⊢
        obtain ⟨inComment, ended, read⟩ := line_read env before line [10] r inside (.inr rfl) (by simp)
          (fits _ (.head _)) outside
        obtain rfl := ended rfl
        rw [loads_line, List.foldlM_append, read, follow_line]
        cases r.config.line env (r.linenum + 1) (statementOf (line ++ [10])) with
        | error e => rfl
        | ok config =>
            exact inductionStep [] ⟨r.linenum + 1, false, config⟩ (by simp) later
              (fun other member => fits other (.tail _ member)) rfl
      · have whole : Secrets.lines line (byte :: file) = Secrets.lines (line ++ [byte]) file := if_neg newline
        rw [whole] at fits ⊢
        have more := inductionStep (line ++ [byte]) r (fun other member => by
          rcases List.mem_append.mp member with old | new
          · exact inside other old
          · rw [List.mem_singleton.mp new]
            exact ⟨newline, nonzero byte (.head _)⟩) later fits outside
        rwa [List.append_assoc, List.singleton_append] at more

end Reading

def Config.Points (c : Config) : Prop := ∀ data ∈ c.data, (c.item data).isSome = true

theorem store_item (c : Config) (data : Section) (item : Item) (there : (c.item data).isSome = true) :
    ((c.store data item).item data).isSome = true := by
  cases data <;> cases item <;> simp_all [Config.item, Config.store]

theorem lns_points (d : Option CString) (c : Config) : (c.lns d).Points := by
  unfold Config.lns
  split
  · rintro data ⟨⟩
    rfl
  · split
    · rename_i i found
      rintro data ⟨⟩
      obtain ⟨name, _, first⟩ := Option.bind_eq_some_iff.mp found
      have inside := (List.findIdx?_eq_some_iff_findIdx_eq.mp first).1
      simpa [Config.item] using inside
    · rintro data ⟨⟩
      rfl

theorem lac_points (d : Option CString) (c : Config) : (c.lac d).Points := by
  unfold Config.lac
  split
  · rintro data ⟨⟩
    rfl
  · split
    · rename_i i found
      rintro data ⟨⟩
      obtain ⟨name, _, first⟩ := Option.bind_eq_some_iff.mp found
      have inside := (List.findIdx?_eq_some_iff_findIdx_eq.mp first).1
      simpa [Config.item] using inside
    · rintro data ⟨⟩
      rfl

theorem heading_points (linenum : Nat) (s : CString) (c after : Config)
    (read : c.heading linenum s = .ok after) : after.Points := by
  unfold Config.heading at read
  dsimp only at read
  split at read
  · split at read
    · cases read
      rintro data ⟨⟩
      rfl
    · split at read
      · cases read
        exact lns_points _ _
      · split at read
        · cases read
          exact lac_points _ _
        · cases read
  · cases read

theorem option_cases (env : Surroundings) (linenum : Nat) (s : CString) (c after : Config)
    (read : c.option env linenum s = .ok after) :
    ∃ data item, c.data = some data ∧ c.item data = some item ∧ ∃ p : Parser, title p.item = title item ∧
      after = { c.store data p.item with filerr := p.filerr, randSource := p.randSource } := by
  unfold Config.option at read
  cases found : c.data.bind fun data => (c.item data).map (data, ·) with
  | none =>
      rw [found] at read
      cases read
  | some open' =>
      obtain ⟨data, open', inside⟩ := Option.bind_eq_some_iff.mp found
      obtain ⟨item, there, rfl⟩ := Option.map_eq_some_iff.mp inside
      rw [found] at read
      dsimp only at read
      split at read
      · split at read
        · cases read
        · split at read
          · cases read
          · cases read
            exact ⟨data, item, open', there, _, parseOneOption_keeps _ _ ⟨item, c.filerr, c.randSource⟩ env c.isDefault,
              rfl⟩
      · cases read

theorem store_data (c : Config) (data : Section) (item : Item) : (c.store data item).data = c.data := by
  cases data <;> cases item <;> rfl

theorem statement_points (env : Surroundings) (linenum : Nat) (s : CString) (c after : Config)
    (read : c.statement env linenum s = .ok after) : after.Points := by
  unfold Config.statement at read
  split at read
  · exact heading_points linenum s c after read
  · obtain ⟨data, item, open', there, p, _, rfl⟩ := option_cases env linenum s c after read
    intro other same
    obtain rfl : data = other := Option.some.inj (open'.symm.trans ((store_data c data p.item).symm.trans same))
    have kept := store_item c data p.item (by rw [there]; rfl)
    cases data <;> exact kept

theorem statement_error (env : Surroundings) (linenum : Nat) (s : CString) (c : Config) (e : ConfigError)
    (read : c.statement env linenum s = .error e) : e.linenum = linenum := by
  unfold Config.statement Config.heading Config.option at read
  dsimp only at read
  split at read
  · repeat' split at read
    all_goals cases read
    all_goals rfl
  · repeat' split at read
    all_goals cases read
    all_goals rfl

theorem follow_points (env : Surroundings) (list : List (Nat × CString)) (c after : Config) (points : c.Points)
    (read : c.follow env list = .ok after) : after.Points := by
  induction list generalizing c with
  | nil =>
      cases read
      exact points
  | cons stated list inductionStep =>
      rw [Config.follow, List.foldlM_cons] at read
      cases said : c.statement env stated.1 stated.2 with
      | error e =>
          rw [said] at read
          cases read
      | ok next =>
          rw [said] at read
          exact inductionStep next (statement_points env stated.1 stated.2 c next said) read

theorem follow_error (env : Surroundings) (list : List (Nat × CString)) (c : Config) (e : ConfigError)
    (read : c.follow env list = .error e) :
    ∃ s, (e.linenum, s) ∈ list := by
  induction list generalizing c with
  | nil => cases read
  | cons stated list inductionStep =>
      rw [Config.follow, List.foldlM_cons] at read
      cases said : c.statement env stated.1 stated.2 with
      | error e' =>
          rw [said] at read
          cases read
          exact ⟨stated.2, by rw [statement_error env stated.1 stated.2 c e said]; exact .head _⟩
      | ok next =>
          rw [said] at read
          obtain ⟨s, member⟩ := inductionStep next read
          exact ⟨s, .tail _ member⟩

-- However its statements are laid out over the lines, and however long the
-- comments are, the file means what its statements mean, and an error names the
-- line of a statement.
theorem config_read (env : Surroundings) (before : UInt8) (c : Config) (file : List UInt8)
    (nonzero : ∀ byte ∈ file, byte ≠ 0)
    (fits : ∀ line ∈ Secrets.lines [] file, Fits line) :
    parseConfig env before c file = c.unopened.follow env (statements 1 (Secrets.lines [] file)) ∧
      (∀ after, parseConfig env before c file = .ok after → after.Points) ∧
      (∀ e, parseConfig env before c file = .error e → ∃ s, (e.linenum, s) ∈ statements 1 (Secrets.lines [] file)) := by
  have read : parseConfig env before c file = c.unopened.follow env (statements 1 (Secrets.lines [] file)) :=
    lines_read env before [] file ⟨0, false, c.unopened⟩ (by simp) nonzero fits rfl
  refine ⟨read, fun after ended => ?_, fun e ended => ?_⟩
  · exact follow_points env _ c.unopened after (fun data there => by cases there) (read.symm.trans ended)
  · exact follow_error env _ c.unopened e (read.symm.trans ended)

def nowhere : Surroundings := ⟨fun _ _ => none, fun _ => 0⟩

def smallConfig : List UInt8 :=
  text "; one entry, twice\n[lac Home]\n  redial = yes ; keep trying\n\n[LAC home]\nredial timeout=15\n"

theorem accepted_with {α β ε : Type} (x : Except ε α) (f : α → β) (v : β) (gives : x.toOption.map f = some v) : ∃ a,
    x = .ok a ∧ f a = v := by
  cases x with
  | error e => cases gives
  | ok a => exact ⟨a, rfl, Option.some.inj gives⟩

theorem config_read_small : ∃ after, parseConfig nowhere 0 (initConfig [] false .sys) smallConfig = .ok after ∧
    after.Points ∧
    after.laclist.map (fun l => (l.redial, l.rtimeout)) = [(true, 15)] := by
  obtain ⟨_, points, _⟩ := config_read nowhere 0 (initConfig [] false .sys) smallConfig (by decide +kernel)
    (by unfold Fits; decide +kernel)
  obtain ⟨after, accepted, entry⟩ := accepted_with (parseConfig nowhere 0 (initConfig [] false .sys) smallConfig)
    (fun after => after.laclist.map fun l => (l.redial, l.rtimeout)) [(true, 15)] (by decide +kernel)
  exact ⟨after, accepted, points after accepted, entry⟩

end ZyAgf.Xl2tpd.Options.ConfigFile
