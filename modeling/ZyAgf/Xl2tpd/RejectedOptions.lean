import ZyAgf.Xl2tpd.Options

set_option autoImplicit false

namespace ZyAgf.Xl2tpd.Options

def Harmless (before : Parser) (r : Done) : Prop := r.1 ≠ 0 → r.2.item = before.item

theorem done_harmless (p q : Parser) : Harmless p (done q) := fun failed => absurd rfl failed

theorem refuse_harmless_iff (message : CString) (p q : Parser) : Harmless p (refuse message q) ↔ q.item = p.item := by
  constructor
  · intro harmless
    exact harmless (show (-1 : Int) ≠ 0 by decide)
  · intro same _
    exact same

theorem refuse_harmless (message : CString) (p : Parser) : Harmless p (refuse message p) :=
  (refuse_harmless_iff message p p).mpr rfl

theorem notValid_harmless (word : CString) (p : Parser) : Harmless p (notValid word p) := refuse_harmless _ p

theorem setBoolean_harmless (word value : CString) (store : Bool → Item) (p : Parser) :
    Harmless p (setBoolean word value store p) := by
  unfold setBoolean
  split
  · exact done_harmless p _
  · exact refuse_harmless _ p

theorem setIp_harmless (env : Surroundings) (value : CString) (store : Nat → Item) (p : Parser) :
    Harmless p (setIp env value store p) := by
  unfold setIp
  split
  · exact done_harmless p _
  · exact refuse_harmless _ p

theorem booleanOption_harmless (word value : CString) (field : Item → Option (Bool → Item)) (p : Parser) :
    Harmless p (booleanOption word value field p) := by
  unfold booleanOption
  split
  · exact setBoolean_harmless word value _ p
  · exact notValid_harmless word p

theorem numberOption_harmless (word value : CString) (field : Item → Option (Int → Item)) (p : Parser) :
    Harmless p (numberOption word value field p) := by
  unfold numberOption
  split
  · exact done_harmless p _
  · exact notValid_harmless word p

theorem stringOption_harmless (word value : CString) (field : Item → Option (CString → Item)) (p : Parser) :
    Harmless p (stringOption word value field p) := by
  unfold stringOption
  split
  · exact done_harmless p _
  · exact notValid_harmless word p

theorem guarded_harmless {wrong : Prop} [Decidable wrong] (message : CString) {p : Parser} {r : Done}
    (rest : Harmless p r) : Harmless p (if wrong then refuse message p else r) := by
  split
  · exact refuse_harmless message p
  · exact rest

theorem setFlow_harmless (word value : CString) (p : Parser) : Harmless p (setFlow word value p) := by
  unfold setFlow
  split
  · exact refuse_harmless _ p
  · dsimp only
    split
    · exact done_harmless p _
    · exact done_harmless p _
    · exact notValid_harmless word p

theorem setPapchap_harmless (word value : CString) (p : Parser) : Harmless p (setPapchap word value p) := by
  unfold setPapchap
  split
  · exact refuse_harmless _ p
  · split
    · exact done_harmless p _
    · exact done_harmless p _
    · exact notValid_harmless word p

theorem setLocaladdr_harmless (env : Surroundings) (word value : CString) (p : Parser) :
    Harmless p (setLocaladdr env word value p) := by
  unfold setLocaladdr
  split
  · exact setIp_harmless env value _ p
  · exact guarded_harmless _ (setIp_harmless env value _ p)
  · exact notValid_harmless word p

theorem setRandSource_harmless (value : CString) (inDefault : Bool) (p : Parser) :
    Harmless p (setRandSource value inDefault p) := by
  unfold setRandSource
  split
  · split
    · exact refuse_harmless _ p
    · split
      · exact fun _ => rfl
      · split
        · exact done_harmless p _
        · split
          · exact done_harmless p _
          · exact fun _ => rfl
  · exact fun _ => rfl

-- The value gives a range: both ends are there and found, in this order.
def Describes (env : Surroundings) (value : CString) : Prop :=
  match ends value with
  | (low, none) => low ≠ [] ∧ ∃ start, env.hostAddr 0 low = some start
  | (low, some high) =>
      low ≠ [] ∧ high ≠ [] ∧
        ∃ start stop, env.hostAddr 0 low = some start ∧
          env.hostAddr 1 (highName env.stack low high) = some stop ∧ start ≤ stop

theorem setRange_ok_iff (env : Surroundings) (word value : CString) (ranges : List IpRange) :
    (∃ longer, setRange env word value ranges = .ok longer) ↔ Describes env value := by
  unfold setRange Describes
  obtain ⟨low, high⟩ := ends value
  by_cases malformed : low.length = 0 ∨ high = some []
  · rcases malformed with empty | rfl
    · cases high <;> simp [List.length_eq_zero_iff.mp empty]
    · simp
  · have given : low ≠ [] := fun empty => malformed (.inl (List.length_eq_zero_iff.mpr empty))
    cases high with
    | none => cases found : env.hostAddr 0 low <;> simp [given, found, rangeStop]
    | some high =>
      have known : high ≠ [] := fun empty => malformed (.inr (by rw [empty]))
      cases found : env.hostAddr 0 low with
      | none => simp [given, known, found]
      | some start =>
        cases last : env.hostAddr 1 (highName env.stack low high) with
        | none => simp [given, known, found, last, rangeStop]
        | some stop =>
          by_cases order : stop < start
          · have wrong : ¬ start ≤ stop := by omega
            simp [given, known, found, last, rangeStop, order, wrong]
          · have right : start ≤ stop := by omega
            simp [given, known, found, last, rangeStop, order, right]

theorem rangeOption_harmless_iff (env : Surroundings) (word value : CString) (ranges : List IpRange)
    (store : List IpRange → Item) (p : Parser) :
    Harmless p (rangeOption env word value ranges store p) ↔ ¬ (store [] ≠ p.item ∧ ¬ Describes env value) := by
  rw [← setRange_ok_iff env word value ranges]
  unfold rangeOption
  cases outcome : setRange env word value ranges with
  | ok longer => simp [done_harmless]
  | error message => simp [refuse_harmless_iff, Parser.hold]

theorem rwsOption_harmless_iff (word value : CString) (callRws tunnelRws : Int → Item) (p : Parser)
    (readBack : ∀ v, tunRws (tunnelRws v) = v) :
    Harmless p (rwsOption word value callRws tunnelRws p) ↔
      ¬ (word.head? = some 116 ∧ toInt value = 0 ∧ tunnelRws 0 ≠ p.item) := by
  unfold rwsOption
  by_cases calls : word.head? = some 99
  · simp [calls, done_harmless]
  · by_cases tunnels : word.head? = some 116
    · rw [if_neg calls, if_pos tunnels]
      dsimp only
      by_cases negative : toInt value < 0
      · have kept : (setInt word value tunnelRws p).2.item = p.item := by
          rw [setInt, if_pos negative]
          rfl
        have harmless : Harmless p
            (if tunRws (setInt word value tunnelRws p).2.item < 1 then
              refuse (text "receive window size for tunnels must be at least 1\n") (setInt word value tunnelRws p).2
            else done (setInt word value tunnelRws p).2) := by
          split
          · exact (refuse_harmless_iff _ p _).mpr kept
          · exact done_harmless p _
        exact iff_of_true harmless fun spoilt => by omega
      · have stored : (setInt word value tunnelRws p).2 = p.hold (tunnelRws (toInt value)) := by
          rw [setInt, if_neg negative]
          rfl
        rw [stored, show (p.hold (tunnelRws (toInt value))).item = tunnelRws (toInt value) from rfl, readBack]
        by_cases zero : toInt value = 0
        · rw [if_pos (by omega), refuse_harmless_iff, zero]
          simp [tunnels, Parser.hold]
        · rw [if_neg (by omega)]
          exact iff_of_true (done_harmless p _) fun spoilt => zero spoilt.2.1
    · simp [calls, tunnels, done_harmless]

theorem call_harmless (env : Surroundings) (word value : CString) (inDefault : Bool) (p : Parser) (handler : Handler)
    (plain : handler ∉ [.iprange, .localiprange, .lac, .rws]) :
    Harmless p (handler.call env word value inDefault p) := by
  cases handler with
  | iprange | localiprange | lac | rws => exact absurd (by decide) plain
  | listenaddr =>
    show Harmless p (setListenaddr env word value p)
    unfold setListenaddr
    split
    · exact setIp_harmless env value _ p
    · exact notValid_harmless word p
  | remoteaddr =>
    show Harmless p (setRemoteaddr env word value p)
    unfold setRemoteaddr
    split
    · exact setIp_harmless env value _ p
    · exact notValid_harmless word p
  | localaddr => exact setLocaladdr_harmless env word value p
  | lns =>
    show Harmless p (setLns word value p)
    unfold setLns
    split
    · exact done_harmless p _
    · exact notValid_harmless word p
  | randSource => exact setRandSource_harmless value inDefault p
  | flow => exact setFlow_harmless word value p
  | papchap => exact setPapchap_harmless word value p
  | port | sarefNum | maxretries | capbackoff => exact numberOption_harmless word value _ p
  | rtimeout | rmax | speed => exact guarded_harmless _ (numberOption_harmless word value _ p)
  | authfile => exact guarded_harmless _ (stringOption_harmless word value _ p)
  | authname | hostname | pppoptfile => exact stringOption_harmless word value _ p
  | exclusive | autodial | redial | accesscontrol | userspace | debugavp | debugnetwork | debugpacket | debugtunnel
  | debugstate | ipsecSaref | assignip | defaultroute | lbit | hbit | passwdauth | debug | passPeer | challenge =>
    exact booleanOption_harmless word value _ p

-- The options that are refused after something is lost: a value that gives no
-- range, for a list that is not empty, and the number 0 for the tunnel's window.
def Spoils (env : Surroundings) (word value : CString) (item : Item) : Prop :=
  match keyword word, item with
  | some .iprange, .lns n => n.range ≠ [] ∧ ¬ Describes env value
  | some .localiprange, .lns n => n.localaddr = 0 ∧ n.localrange ≠ [] ∧ ¬ Describes env value
  | some .lac, .lns n => n.lacs ≠ [] ∧ ¬ Describes env value
  | some .rws, .lns n => word.head? = some 116 ∧ toInt value = 0 ∧ n.tunRws ≠ 0
  | some .rws, .lac l => word.head? = some 116 ∧ toInt value = 0 ∧ l.tunRws ≠ 0
  | _, _ => False

theorem stored_iff {α : Type} {item stored : Item} (read : Item → α)
    (putBack : read item = read stored → stored = item) :
    stored = item ↔ read item = read stored := by
  constructor
  · intro same
    rw [same]
  · exact putBack

def rangeOf : Item → List IpRange
  | .lns n => n.range
  | _ => []

def lacsOf : Item → List IpRange
  | .lns n => n.lacs
  | _ => []

def localrangeOf : Item → List IpRange
  | .lns n => n.localrange
  | _ => []

theorem setIprange_harmless_iff (env : Surroundings) (word value : CString) (p : Parser) (n : LnsItem)
    (entry : p.item = .lns n) :
    Harmless p (setIprange env word value p) ↔ ¬ (n.range ≠ [] ∧ ¬ Describes env value) := by
  have empties : Item.lns { n with range := [] } = .lns n ↔ n.range = [] :=
    stored_iff rangeOf fun empty => by rw [← show n.range = [] from empty]
  unfold setIprange
  rw [entry]
  dsimp only
  rw [rangeOption_harmless_iff, entry, Ne, empties]

theorem setLac_harmless_iff (env : Surroundings) (word value : CString) (p : Parser) (n : LnsItem)
    (entry : p.item = .lns n) :
    Harmless p (setLac env word value p) ↔ ¬ (n.lacs ≠ [] ∧ ¬ Describes env value) := by
  have empties : Item.lns { n with lacs := [] } = .lns n ↔ n.lacs = [] :=
    stored_iff lacsOf fun empty => by rw [← show n.lacs = [] from empty]
  unfold setLac
  rw [entry]
  dsimp only
  rw [rangeOption_harmless_iff, entry, Ne, empties]

theorem setLocaliprange_harmless_iff (env : Surroundings) (word value : CString) (p : Parser) (n : LnsItem)
    (entry : p.item = .lns n) :
    Harmless p (setLocaliprange env word value p) ↔
      ¬ (n.localaddr = 0 ∧ n.localrange ≠ [] ∧ ¬ Describes env value) := by
  have empties : Item.lns { n with localrange := [] } = .lns n ↔ n.localrange = [] :=
    stored_iff localrangeOf fun empty => by rw [← show n.localrange = [] from empty]
  unfold setLocaliprange
  rw [entry]
  dsimp only
  by_cases fixed : n.localaddr ≠ 0
  · rw [if_pos fixed]
    exact iff_of_true (refuse_harmless _ p) fun spoilt => fixed spoilt.1
  · rw [if_neg fixed, rangeOption_harmless_iff, entry, Ne, empties]
    simp [not_not.mp fixed]

theorem setRws_harmless_iff (word value : CString) (p : Parser) (windowed : ∀ g, p.item ≠ .global g) :
    Harmless p (setRws word value p) ↔ ¬ (word.head? = some 116 ∧ toInt value = 0 ∧ tunRws p.item ≠ 0) := by
  unfold setRws
  split
  · next negative => exact iff_of_true (refuse_harmless _ p) fun spoilt => by omega
  · cases entry : p.item with
    | global g => exact absurd entry (windowed g)
    | lns n =>
      have zeroes : Item.lns { n with tunRws := 0 } = .lns n ↔ n.tunRws = 0 :=
        stored_iff tunRws fun zero => by rw [← show n.tunRws = 0 from zero]
      dsimp only
      rw [rwsOption_harmless_iff word value _ _ p fun v => rfl, entry, Ne, zeroes]
      rfl
    | lac l =>
      have zeroes : Item.lac { l with tunRws := 0 } = .lac l ↔ l.tunRws = 0 :=
        stored_iff tunRws fun zero => by rw [← show l.tunRws = 0 from zero]
      dsimp only
      rw [rwsOption_harmless_iff word value _ _ p fun v => rfl, entry, Ne, zeroes]
      rfl

theorem rejected_option_harmless_iff (env : Surroundings) (word value : CString) (inDefault : Bool) (p : Parser) :
    ((parseOneOption env word value inDefault p).1 ≠ 0 →
        (parseOneOption env word value inDefault p).2.item = p.item) ↔
      ¬ Spoils env word value p.item := by
  unfold parseOneOption Spoils
  cases found : keyword word with
  | none => simp
  | some handler =>
    have told : (((if (handler.call env word value inDefault p).1 ≠ 0 then (-1 : Int) else 0) ≠ 0 →
        (handler.call env word value inDefault p).2.item = p.item)) ↔
        Harmless p (handler.call env word value inDefault p) := by
      unfold Harmless
      split <;> simp_all
    refine told.trans ?_
    by_cases plain : handler ∉ [.iprange, .localiprange, .lac, .rws]
    · refine iff_of_true (call_harmless env word value inDefault p handler plain) ?_
      cases handler <;> first | exact not_false | exact absurd (by decide) plain
    · cases entry : p.item with
      | global g =>
        cases handler with
        | iprange => simp [Handler.call, setIprange, entry, notValid_harmless]
        | localiprange => simp [Handler.call, setLocaliprange, entry, notValid_harmless]
        | lac => simp [Handler.call, setLac, entry, notValid_harmless]
        | rws =>
          simp only [Handler.call, setRws, entry]
          exact iff_of_true (guarded_harmless _ (notValid_harmless word p)) not_false
        | _ => exact absurd (by decide) plain
      | lns n =>
        cases handler with
        | iprange => exact setIprange_harmless_iff env word value p n entry
        | localiprange => exact setLocaliprange_harmless_iff env word value p n entry
        | lac => exact setLac_harmless_iff env word value p n entry
        | rws =>
          have windowed := setRws_harmless_iff word value p (by simp [entry])
          rw [entry] at windowed
          exact windowed
        | _ => exact absurd (by decide) plain
      | lac l =>
        cases handler with
        | iprange => simp [Handler.call, setIprange, entry, notValid_harmless]
        | localiprange => simp [Handler.call, setLocaliprange, entry, notValid_harmless]
        | lac => simp [Handler.call, setLac, entry, notValid_harmless]
        | rws =>
          have windowed := setRws_harmless_iff word value p (by simp [entry])
          rw [entry] at windowed
          exact windowed
        | _ => exact absurd (by decide) plain

def nobody : Surroundings := ⟨fun _ _ => none, fun _ => 0⟩

def pooled : Parser :=
  ⟨.lns { noLns with exclusive := false, callRws := 4, tunRws := 4, range := [⟨3232235521, 3232235621, true⟩] },
    [], .dev⟩

-- A misspelt host in one more range takes the ranges there were, and a tunnel's
-- window of 0 is refused and kept.
theorem option_lost :
    ¬ ((parseOneOption nobody (text "ip range") (text "gateway") false pooled).1 ≠ 0 →
        (parseOneOption nobody (text "ip range") (text "gateway") false pooled).2.item = pooled.item) ∧
      ¬ ((parseOneOption nobody (text "tunnel rws") (text "0") false pooled).1 ≠ 0 →
        (parseOneOption nobody (text "tunnel rws") (text "0") false pooled).2.item = pooled.item) := by
  decide +kernel

end ZyAgf.Xl2tpd.Options
