import ZyAgf.Xl2tpd.ConfigFile

set_option autoImplicit false

namespace ZyAgf.Xl2tpd.Options.ConfigFile

def key (name : CString) : CString := name.map lower

theorem sameName_iff (a b : CString) : sameName a b = true ↔ key a = key b := beq_iff_eq

def Config.lnsKeys (c : Config) : List CString := c.lnslist.map fun tl => key tl.entname

def Config.lacKeys (c : Config) : List CString := c.laclist.map fun tc => key tc.entname

-- What a heading does to the names of its list: one without a parameter makes an
-- entry without a name.
def entered (d : Option CString) (keys : List CString) : List CString :=
  match d with
  | some d => if keys.any (· == key d) then keys else key d :: keys
  | none => [] :: keys

theorem any_key (k : CString) (keys : List CString) : keys.any (· == k) = true ↔ k ∈ keys := by
  simp

def Opens (kind s : CString) : Prop := s.head? = some 91 ∧ sameName (contextOf s) kind = true ∧ defaultOf s = false

instance (kind s : CString) : Decidable (Opens kind s) := inferInstanceAs (Decidable (_ ∧ _ ∧ _))

def enteredBy (kind : CString) (keys : List CString) (s : CString) : List CString :=
  if Opens kind s then entered (parameterOf s) keys else keys

def Short (s : CString) : Prop := s.head? = some 91 → ∀ d ∈ parameterOf s, d.length < strLen

section Lists

variable {α : Type}

theorem map_modify_same (f : α → α) (g : α → CString) (l : List α) (i : Nat)
    (same : ∀ x, l[i]? = some x → g (f x) = g x) :
    (l.modify i f).map g = l.map g := by
  refine List.ext_getElem? fun j => ?_
  rw [List.getElem?_map, List.getElem?_map, List.getElem?_modify]
  cases there : l[j]? with
  | none => rfl
  | some x =>
      by_cases here : i = j
      · subst here
        exact (congrArg (fun y => some (g y)) (if_pos rfl)).trans (congrArg some (same x there))
      · exact congrArg (fun y => some (g y)) (if_neg here)

theorem map_set_same (g : α → CString) (l : List α) (i : Nat) (x y : α) (there : l[i]? = some x) (same : g y = g x) :
    (l.set i y).map g = l.map g := by
  refine List.ext_getElem? fun j => ?_
  rw [List.map_set, List.getElem?_set, List.length_map, List.getElem?_map]
  obtain ⟨inside, rfl⟩ := List.getElem?_eq_some_iff.mp there
  split
  · rename_i here
    subst here
    rw [there, same]
    rfl
  · rfl

theorem found_key (name : α → CString) (l : List α) (d : CString) (i : Nat)
    (found : l.findIdx? (fun x => sameName d (name x)) = some i) :
    ∃ x, l[i]? = some x ∧ key d = key (name x) := by
  obtain ⟨inside, holds, _⟩ := List.findIdx?_eq_some_iff_getElem.mp found
  exact ⟨l[i], List.getElem?_eq_getElem inside, (sameName_iff d _).mp holds⟩

theorem not_found_key (name : α → CString) (l : List α) (d : CString)
    (none' : l.findIdx? (fun x => sameName d (name x)) = none) :
    key d ∉ l.map fun x => key (name x) := by
  intro member
  obtain ⟨x, inside, same⟩ := List.mem_map.mp member
  have differs := List.findIdx?_eq_none_iff.mp none' x inside
  rw [(sameName_iff d (name x)).mpr same.symm] at differs
  cases differs

theorem found_keys (name : α → CString) (named : α → α) (l : List α) (d : CString) (i : Nat)
    (found : l.findIdx? (fun x => sameName d (name x)) = some i) (names : ∀ x, name (named x) = d) :
    (l.modify i named).map (fun x => key (name x)) = entered (some d) (l.map fun x => key (name x)) := by
  obtain ⟨x, there, same⟩ := found_key name l d i found
  have member : key d ∈ l.map fun x => key (name x) := List.mem_map.mpr ⟨x, List.mem_of_getElem? there, same.symm⟩
  refine (map_modify_same named _ l i fun y here => ?_).trans (if_pos ((any_key _ _).mpr member)).symm
  obtain rfl : x = y := Option.some.inj (there.symm.trans here)
  exact (congrArg key (names x)).trans same

theorem absent_keys (name : α → CString) (l : List α) (d : CString) (new : α)
    (absent : l.findIdx? (fun x => sameName d (name x)) = none) (names : name new = d) :
    (new :: l).map (fun x => key (name x)) = entered (some d) (l.map fun x => key (name x)) := by
  rw [List.map_cons, names]
  exact (if_neg fun there => not_found_key name l d absent ((any_key _ _).mp there)).symm

end Lists

theorem lns_keys (d : Option CString) (c : Config) (short : ∀ name ∈ d, name.length < strLen) :
    (c.lns d).lnsKeys = (if c.isDefault then c.lnsKeys else entered d c.lnsKeys) ∧ (c.lns d).lacKeys = c.lacKeys := by
  unfold Config.lns
  by_cases default' : c.isDefault = true
  · rw [if_pos default', if_pos default']
    exact ⟨rfl, rfl⟩
  · rw [if_neg default', if_neg default']
    cases d with
    | none => exact ⟨rfl, rfl⟩
    | some d =>
        have whole : d.take strLen = d := List.take_of_length_le (short d rfl).le
        rw [Option.bind_some]
        cases found : c.lnslist.findIdx? fun tl => sameName d tl.entname with
        | some i => exact ⟨found_keys (fun tl : LnsItem => tl.entname) _ _ d i found fun _ => whole, rfl⟩
        | none => exact ⟨absent_keys (fun tl : LnsItem => tl.entname) _ d _ found whole, rfl⟩

theorem lac_keys (d : Option CString) (c : Config) (short : ∀ name ∈ d, name.length < strLen) :
    (c.lac d).lacKeys = (if c.isDefault then c.lacKeys else entered d c.lacKeys) ∧ (c.lac d).lnsKeys = c.lnsKeys := by
  unfold Config.lac
  by_cases default' : c.isDefault = true
  · rw [if_pos default', if_pos default']
    exact ⟨rfl, rfl⟩
  · rw [if_neg default', if_neg default']
    cases d with
    | none => exact ⟨rfl, rfl⟩
    | some d =>
        have whole : d.take strLen = d := List.take_of_length_le (short d rfl).le
        rw [Option.bind_some]
        cases found : c.laclist.findIdx? fun tc => sameName d tc.entname with
        | some i => exact ⟨found_keys (fun tc : LacItem => tc.entname) _ _ d i found fun _ => whole, rfl⟩
        | none => exact ⟨absent_keys (fun tc : LacItem => tc.entname) _ d _ found whole, rfl⟩

theorem store_keys (c : Config) (data : Section) (old item : Item) (there : c.item data = some old)
    (same : title item = title old) :
    (c.store data item).lnsKeys = c.lnsKeys ∧ (c.store data item).lacKeys = c.lacKeys := by
  cases data with
  | global => cases item <;> exact ⟨rfl, rfl⟩
  | deflns => cases item <;> exact ⟨rfl, rfl⟩
  | deflac => cases item <;> exact ⟨rfl, rfl⟩
  | lns i =>
      obtain ⟨n, inside, rfl⟩ := Option.map_eq_some_iff.mp there
      cases item with
      | global g => exact ⟨rfl, rfl⟩
      | lac l => exact ⟨rfl, rfl⟩
      | lns m => exact ⟨map_set_same _ _ i n m inside (congrArg key (Title.lns.inj same)), rfl⟩
  | lac i =>
      obtain ⟨l, inside, rfl⟩ := Option.map_eq_some_iff.mp there
      cases item with
      | global g => exact ⟨rfl, rfl⟩
      | lns n => exact ⟨rfl, rfl⟩
      | lac m => exact ⟨rfl, map_set_same _ _ i l m inside (congrArg key (Title.lac.inj same))⟩

theorem enteredBy_own (kind s : CString) (keys : List CString) (bracket : s.head? = some 91)
    (is : sameName (contextOf s) kind = true) :
    (if defaultOf s then keys else entered (parameterOf s) keys) = enteredBy kind keys s := by
  unfold enteredBy
  by_cases default' : defaultOf s = true
  · rw [if_pos default', if_neg fun opens : Opens kind s => absurd opens.2.2 (by simp [default'])]
  · rw [if_neg default', if_pos ⟨bracket, is, Bool.eq_false_iff.mpr default'⟩]

theorem enteredBy_other (kind other s : CString) (keys : List CString) (is : sameName (contextOf s) other = true)
    (apart : key kind ≠ key other) :
    enteredBy kind keys s = keys :=
  if_neg fun opens => apart (((sameName_iff _ _).mp opens.2.1).symm.trans ((sameName_iff _ _).mp is))

theorem heading_keys (linenum : Nat) (s : CString) (c after : Config) (bracket : s.head? = some 91) (short : Short s)
    (read : c.heading linenum s = .ok after) :
    after.lnsKeys = enteredBy (text "lns") c.lnsKeys s ∧ after.lacKeys = enteredBy (text "lac") c.lacKeys s := by
  unfold Config.heading at read
  dsimp only at read
  split at read
  · split at read
    · rename_i global
      cases read
      exact ⟨(enteredBy_other _ _ s _ global (by decide)).symm, (enteredBy_other _ _ s _ global (by decide)).symm⟩
    · split at read
      · rename_i lns
        cases read
        obtain ⟨opened, other⟩ := lns_keys (parameterOf s) { c with isDefault := defaultOf s } (short bracket)
        exact ⟨opened.trans (enteredBy_own _ s _ bracket lns),
          other.trans (enteredBy_other _ _ s _ lns (by decide)).symm⟩
      · split at read
        · rename_i lac
          cases read
          obtain ⟨opened, other⟩ := lac_keys (parameterOf s) { c with isDefault := defaultOf s } (short bracket)
          exact ⟨other.trans (enteredBy_other _ _ s _ lac (by decide)).symm,
            opened.trans (enteredBy_own _ s _ bracket lac)⟩
        · cases read
  · cases read

theorem statement_keys (env : Surroundings) (linenum : Nat) (s : CString) (c after : Config) (short : Short s)
    (read : c.statement env linenum s = .ok after) :
    after.lnsKeys = enteredBy (text "lns") c.lnsKeys s ∧ after.lacKeys = enteredBy (text "lac") c.lacKeys s := by
  unfold Config.statement at read
  by_cases bracket : s.head? = some 91
  · rw [if_pos bracket] at read
    exact heading_keys linenum s c after bracket short read
  · rw [if_neg bracket] at read
    obtain ⟨data, item, open', there, p, same, rfl⟩ := option_cases env linenum s c after read
    unfold enteredBy
    rw [if_neg fun opens => bracket opens.1, if_neg fun opens => bracket opens.1]
    exact store_keys c data item p.item there same

theorem follow_keys (env : Surroundings) (list : List (Nat × CString)) (c after : Config)
    (short : ∀ stated ∈ list, Short stated.2)
    (read : c.follow env list = .ok after) :
    after.lnsKeys = (list.map Prod.snd).foldl (enteredBy (text "lns")) c.lnsKeys ∧
      after.lacKeys = (list.map Prod.snd).foldl (enteredBy (text "lac")) c.lacKeys := by
  induction list generalizing c with
  | nil =>
      cases read
      exact ⟨rfl, rfl⟩
  | cons stated list inductionStep =>
      rw [Config.follow, List.foldlM_cons] at read
      cases said : c.statement env stated.1 stated.2 with
      | error e =>
          rw [said] at read
          cases read
      | ok next =>
          rw [said] at read
          obtain ⟨lns, lac⟩ := statement_keys env stated.1 stated.2 c next (short stated (.head _)) said
          rw [List.map_cons, List.foldl_cons, List.foldl_cons, ← lns, ← lac]
          exact inductionStep next (fun other member => short other (.tail _ member)) read

def Distinct (keys : List CString) : Prop := keys.Pairwise fun a b => a = b → a = []

theorem entered_distinct (d : Option CString) (keys : List CString) (distinct : Distinct keys) : Distinct
    (entered d keys) := by
  cases d with
  | none => exact .cons (fun _ _ _ => rfl) distinct
  | some d =>
      unfold entered
      dsimp only
      split
      · exact distinct
      · rename_i absent
        exact .cons (fun other member same => absurd ((any_key _ _).mpr (same ▸ member)) absent) distinct

theorem entered_mem (d : Option CString) (keys : List CString) (k : CString) (named : k ≠ []) :
    k ∈ entered d keys ↔ k ∈ keys ∨ ∃ name ∈ d, key name = k := by
  cases d with
  | none => simp [entered, named]
  | some d =>
      unfold entered
      dsimp only
      split
      · rename_i there
        have member := (any_key _ _).mp there
        simpa using fun same => same ▸ member
      · simp [or_comm, eq_comm]

theorem opened_distinct (kind : CString) (list : List CString) (keys : List CString) (distinct : Distinct keys) :
    Distinct (list.foldl (enteredBy kind) keys) := by
  induction list generalizing keys with
  | nil => exact distinct
  | cons s list inductionStep =>
      refine inductionStep _ ?_
      unfold enteredBy
      split
      · exact entered_distinct _ keys distinct
      · exact distinct

theorem opened_mem (kind : CString) (list : List CString) (keys : List CString) (k : CString) (named : k ≠ []) :
    k ∈ list.foldl (enteredBy kind) keys ↔ k ∈ keys ∨ ∃ s ∈ list, Opens kind s ∧ ∃ d ∈ parameterOf s, key d = k := by
  induction list generalizing keys with
  | nil => simp
  | cons s list inductionStep =>
      rw [List.foldl_cons, inductionStep]
      unfold enteredBy
      by_cases opens : Opens kind s
      · rw [if_pos opens, entered_mem _ keys k named]
        simp [opens, or_assoc]
      · rw [if_neg opens]
        simp [opens]

-- The entries of one kind, by name, against the headings of the file.
structure Listed (kind : CString) (names : List CString) (list : List (Nat × CString)) : Prop where
  once : names.Pairwise fun a b => sameName a b = true → a = []
  named : ∀ name, name ≠ [] →
    ((∃ other ∈ names, sameName name other = true) ↔ ∃ stated ∈ list, Opens kind stated.2 ∧ ∃ d ∈ parameterOf stated.2,
    sameName name d = true)

theorem key_empty (name : CString) : key name = [] ↔ name = [] := List.map_eq_nil_iff

theorem listed_of_keys (kind : CString) (names : List CString) (list : List (Nat × CString))
    (keys : names.map key = (list.map Prod.snd).foldl (enteredBy kind) []) : Listed kind names list where
  once := by
    have distinct := opened_distinct kind (list.map Prod.snd) [] .nil
    rw [← keys] at distinct
    refine (List.pairwise_map.mp distinct).imp fun {a b} once same => ?_
    exact (key_empty a).mp (once ((sameName_iff a b).mp same))
  named name some' := by
    have listed := opened_mem kind (list.map Prod.snd) [] (key name) fun empty => some' ((key_empty name).mp empty)
    rw [← keys] at listed
    constructor
    · rintro ⟨other, member, same⟩
      have there := listed.mp (List.mem_map.mpr ⟨other, member, ((sameName_iff name other).mp same).symm⟩)
      obtain ⟨s, inside, opens, d, parameter, is⟩ := there.resolve_left List.not_mem_nil
      obtain ⟨stated, stands, rfl⟩ := List.mem_map.mp inside
      exact ⟨stated, stands, opens, d, parameter, (sameName_iff name d).mpr is.symm⟩
    · rintro ⟨stated, stands, opens, d, parameter, same⟩
      have there := listed.mpr (.inr ⟨stated.2, List.mem_map.mpr ⟨stated, stands, rfl⟩, opens, d, parameter,
        ((sameName_iff name d).mp same).symm⟩)
      obtain ⟨other, member, is⟩ := List.mem_map.mp there
      exact ⟨other, member, (sameName_iff name other).mpr is.symm⟩

-- After a file that is accepted there is one entry for each name that a heading
-- of its kind gives, in whatever case, and none besides.
theorem entries_named (env : Surroundings) (before : UInt8) (authfile : CString) (accesscontrol : Bool)
    (randSource : RandSource)
    (file : List UInt8) (nonzero : ∀ byte ∈ file, byte ≠ 0) (fits : ∀ line ∈ Secrets.lines [] file, Fits line)
    (short : ∀ stated ∈ statements 1 (Secrets.lines [] file), Short stated.2) (after : Config)
    (accepted : parseConfig env before (initConfig authfile accesscontrol randSource) file = .ok after) :
    Listed (text "lns") (after.lnslist.map fun tl => tl.entname) (statements 1 (Secrets.lines [] file)) ∧
      Listed (text "lac") (after.laclist.map fun tc => tc.entname) (statements 1 (Secrets.lines [] file)) := by
  have read := lines_read env before [] file ⟨0, false, (initConfig authfile accesscontrol randSource).unopened⟩
    (by simp) nonzero fits rfl
  obtain ⟨lns, lac⟩ := follow_keys env _ _ after short (read.symm.trans accepted)
  exact ⟨listed_of_keys _ _ _ (List.map_map.trans lns), listed_of_keys _ _ _ (List.map_map.trans lac)⟩

theorem entries_named_small : ∃ after, parseConfig nowhere 0 (initConfig [] false .sys) smallConfig = .ok after ∧
    after.laclist.map (fun tc => tc.entname) = [text "home"] ∧
    Listed (text "lac") (after.laclist.map fun tc => tc.entname) (statements 1 (Secrets.lines [] smallConfig)) := by
  obtain ⟨after, accepted, name⟩ := accepted_with (parseConfig nowhere 0 (initConfig [] false .sys) smallConfig)
    (fun after => after.laclist.map fun tc => tc.entname) [text "home"] (by decide +kernel)
  obtain ⟨_, lac⟩ := entries_named nowhere 0 [] false .sys smallConfig (by decide +kernel)
    (by unfold Fits; decide +kernel)
    (by unfold Short; decide +kernel) after accepted
  exact ⟨after, accepted, name, lac⟩

end ZyAgf.Xl2tpd.Options.ConfigFile
