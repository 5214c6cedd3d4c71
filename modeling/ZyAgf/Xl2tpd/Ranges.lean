import Mathlib.Data.List.Find
import ZyAgf.Xl2tpd.Daemon

set_option autoImplicit false

namespace ZyAgf.Xl2tpd

-- Of the ranges that contain an address the last one has the say.
def lastRange (ranges : List IpRange) (addr : Nat) : Option IpRange := (ranges.filter fun r => r.covers addr).getLast?

theorem lastRange_append (first second : List IpRange) (addr : Nat) :
    lastRange (first ++ second) addr = (lastRange second addr).or (lastRange first addr) := by
  unfold lastRange
  rw [List.filter_append, List.getLast?_append]

theorem lastRange_single (r : IpRange) (addr : Nat) : lastRange [r] addr = if r.covers addr then some r else none := by
  unfold lastRange
  cases covers : r.covers addr <;> simp [covers]

theorem lastSense_eq (ranges : List IpRange) (addr : Nat) (before : Bool) :
    lastSense ranges addr before = (lastRange ranges addr).elim before IpRange.allow := by
  unfold lastSense
  induction ranges using List.reverseRecOn with
  | nil => rfl
  | append_singleton rest r ih =>
      rw [List.foldl_append, ih, lastRange_append, lastRange_single]
      cases covers : r.covers addr <;> simp [covers]

def Lns.admits (lns : Lns) (peer : Nat) : Bool := (lastRange lns.lacs peer).any IpRange.allow

theorem admits_eq (lns : Lns) (peer : Nat) : lns.admits peer = lastSense lns.lacs peer false := by
  rw [lastSense_eq]
  unfold Lns.admits
  cases lastRange lns.lacs peer <;> rfl

-- The entries there are, in the order get_lns comes to them.
def Daemon.entries (d : Daemon) : List LnsPtr := d.lnslist ++ d.deflns.toList

def Daemon.lnsFor (env : Env) (d : Daemon) (peer : Nat) : Option LnsPtr :=
  (d.entries.find? fun l => (d.lns l).admits peer).or (if env.accesscontrol then none else d.deflns)

theorem scanLns_first (peer : Nat) (entries : List LnsPtr) (d : Daemon) (live : ∀ l ∈ entries, (d.lns l).live = true) :
    scanLns peer false entries d = some (entries.find? fun l => (d.lns l).admits peer, d) := by
  induction entries with
  | nil => rfl
  | cons l rest ih =>
      have there : readLns l d = some (d.lns l, d) := (readLns_some _ _ _ _).mpr ⟨live l List.mem_cons_self, rfl, rfl⟩
      have later := ih fun other member => live other (List.mem_cons_of_mem _ member)
      rw [scanLns]
      show (readLns l d).bind _ = _
      rw [there, Option.bind_some]
      show (if lastSense (d.lns l).lacs peer false then pure (some l) else scanLns peer _ rest) d = _
      rw [← admits_eq]
      cases admits : (d.lns l).admits peer with
      | true =>
          rw [if_pos rfl, List.find?_cons_of_pos (p := fun l => (d.lns l).admits peer) admits]
          rfl
      | false =>
          rw [if_neg Bool.false_ne_true, List.find?_cons_of_neg (by simp [admits])]
          exact later

-- The tunnel and the entries are there to be read.
structure Configured (d : Daemon) (t : TunnelPtr) : Prop where
  tunnel : (d.tunnel t).live = true
  entries : ∀ l ∈ d.entries, (d.lns l).live = true

instance (d : Daemon) (t : TunnelPtr) : Decidable (Configured d t) :=
  decidable_of_iff ((d.tunnel t).live = true ∧ ∀ l ∈ d.entries, (d.lns l).live = true)
    ⟨fun both => ⟨both.1, both.2⟩, fun there => ⟨there.tunnel, there.entries⟩⟩

theorem getLns_chooses (env : Env) (t : TunnelPtr) (d : Daemon) (there : Configured d t) :
    getLns env t d = some (d.lnsFor env (d.tunnel t).peer.addr, d) := by
  have read : readTunnel t d = some (d.tunnel t, d) := (readTunnel_some _ _ _ _).mpr ⟨there.tunnel, rfl, rfl⟩
  unfold getLns
  show (readTunnel t d).bind _ = _
  rw [read, Option.bind_some]
  show (scanLns _ false d.entries d).bind _ = _
  rw [scanLns_first _ _ d there.entries, Option.bind_some]
  unfold Daemon.lnsFor
  cases found : d.entries.find? fun l => (d.lns l).admits (d.tunnel t).peer.addr with
  | some l => rfl
  | none => rfl

-- The first entry that lets the peer in by its own ranges; the default, or
-- nothing, when none does.
def AdmittedFirst (d : Daemon) (peer : Nat) (l : LnsPtr) : Prop :=
  ∃ before after, d.entries = before ++ l :: after ∧ (d.lns l).admits peer = true ∧
    ∀ earlier ∈ before, (d.lns earlier).admits peer = false

def NoneAdmits (d : Daemon) (peer : Nat) : Prop := ∀ l ∈ d.entries, (d.lns l).admits peer = false

structure Selected (env : Env) (d : Daemon) (peer : Nat) (chosen : Option LnsPtr) : Prop where
  entry : ∀ l, chosen = some l → AdmittedFirst d peer l ∨ NoneAdmits d peer ∧ env.accesscontrol = false ∧
    d.deflns = some l
  nothing : chosen = none → NoneAdmits d peer ∧ (env.accesscontrol = true ∨ d.deflns = none)

theorem lnsFor_selected (env : Env) (d : Daemon) (peer : Nat) : Selected env d peer (d.lnsFor env peer) := by
  unfold Daemon.lnsFor
  cases found : d.entries.find? fun l => (d.lns l).admits peer with
  | some m =>
      obtain ⟨admits, before, after, split, refused⟩ := List.find?_eq_some_iff_append.mp found
      rw [Option.some_or]
      constructor
      · intro l chosen
        obtain rfl := Option.some.inj chosen
        exact .inl ⟨before, after, split, admits, fun earlier member => by simpa using refused earlier member⟩
      · intro nothing
        cases nothing
  | none =>
      have refused : NoneAdmits d peer := fun l member => by simpa using List.find?_eq_none.mp found l member
      rw [Option.none_or]
      cases control : env.accesscontrol with
      | true =>
          constructor
          · intro l chosen
            cases chosen
          · exact fun _ => ⟨refused, .inl control⟩
      | false =>
          rw [if_neg Bool.false_ne_true]
          exact ⟨fun l chosen => .inr ⟨refused, control, chosen⟩, fun nothing => ⟨refused, .inr nothing⟩⟩

-- The lists are the same, and every entry says the same of its peer by its own
-- ranges.
structure SaysAlike (d d' : Daemon) (t : TunnelPtr) : Prop where
  lists : (d'.lnslist, d'.deflns) = (d.lnslist, d.deflns)
  own : ∀ l ∈ d.entries, (d'.lns l).admits (d'.tunnel t).peer.addr = (d.lns l).admits (d.tunnel t).peer.addr

theorem lnsFor_alike (env : Env) (d d' : Daemon) (t : TunnelPtr) (alike : SaysAlike d d' t) :
    d'.lnsFor env (d'.tunnel t).peer.addr = d.lnsFor env (d.tunnel t).peer.addr := by
  obtain ⟨sameList, sameDefault⟩ := Prod.mk.inj alike.lists
  have entries : d'.entries = d.entries := by
    unfold Daemon.entries
    rw [sameList, sameDefault]
  unfold Daemon.lnsFor
  rw [entries, sameDefault, List.find?_congr alike.own]

-- get_lns gives the first entry that lets the peer in by its own ranges; of the
-- others nothing matters but what they say by theirs.
theorem lns_selected (env : Env) (t : TunnelPtr) (d : Daemon) (there : Configured d t) :
    (∃ chosen, getLns env t d = some (chosen, d) ∧ Selected env d (d.tunnel t).peer.addr chosen) ∧
      ∀ d', Configured d' t → SaysAlike d d' t → ∃ chosen, getLns env t d = some (chosen, d) ∧
        getLns env t d' = some (chosen, d') := by
  refine ⟨⟨_, getLns_chooses env t d there, lnsFor_selected env d _⟩, fun d' there' alike => ?_⟩
  refine ⟨_, getLns_chooses env t d there, ?_⟩
  rw [getLns_chooses env t d' there', lnsFor_alike env d d' t alike]

-- An entry that lets in all but one peer, another that lets in that one, too, and
-- a default that asks for nothing.
def twoEntries : Daemon :=
  { initDaemon (some noLns) [{ noLns with lacs := [⟨1, 10, true⟩, ⟨5, 5, false⟩] }, { noLns with lacs := [⟨1, 10, true⟩] }] none [] with
    tunnel := fun _ => { noTunnel with live := true, peer := ⟨5, udpListenPort⟩ } }

theorem lns_selected_second : getLns plainEnv 0 twoEntries = some (some 2, twoEntries) ∧
    AdmittedFirst twoEntries 5 2 := by
  have there : Configured twoEntries 0 := by decide
  obtain ⟨chosen, ran, selected⟩ := (lns_selected plainEnv 0 twoEntries there).1
  have second : chosen = some 2 := by
    rw [getLns_chooses plainEnv 0 twoEntries there] at ran
    exact (congrArg Prod.fst (Option.some.inj ran)).symm.trans (by decide)
  subst second
  refine ⟨ran, (selected.entry 2 rfl).resolve_right fun none' => ?_⟩
  have refused := none'.1 2 (by decide)
  exact absurd refused (by decide)

section Scanning

variable (good : Nat → Bool)

theorem scanAddr_add (x first second : Nat) (small : x < 2 ^ 32) :
    scanAddr good x (first + second) = (scanAddr good x first).or (scanAddr good ((x + first) % 2 ^ 32) second) := by
  induction first generalizing x with
  | zero => rw [Nat.zero_add, scanAddr, Option.none_or, Nat.add_zero, Nat.mod_eq_of_lt small]
  | succ first ih =>
      rw [Nat.add_right_comm, scanAddr, scanAddr]
      by_cases found : good x = true
      · rw [if_pos found, if_pos found, Option.some_or]
      · have later := ih ((x + 1) % 2 ^ 32) (Nat.mod_lt _ (by decide))
        rw [Nat.mod_add_mod, Nat.add_assoc, Nat.add_comm 1 first] at later
        rw [if_neg found, if_neg found, later]

theorem scanAddr_range (x count : Nat) (small : x + count ≤ 2 ^ 32) :
    scanAddr good x count = (List.range' x count).find? good := by
  induction count generalizing x with
  | zero => rfl
  | succ count ih =>
      rw [scanAddr, List.range'_succ]
      by_cases found : good x = true
      · rw [if_pos found, List.find?_cons_of_pos found]
      · rw [if_neg found, List.find?_cons_of_neg found]
        cases count with
        | zero => rfl
        | succ count =>
            rw [Nat.mod_eq_of_lt (by omega)]
            exact ih (x + 1) (by omega)

theorem scanAddr_none (x count : Nat) (small : x + count ≤ 2 ^ 32) :
    scanAddr good x count = none ↔ ∀ y, x ≤ y → y < x + count → good y = false := by
  rw [scanAddr_range good x count small, List.find?_range'_eq_none]
  simp

theorem scanAddr_some (x count y : Nat) (small : x + count ≤ 2 ^ 32) :
    scanAddr good x count = some y ↔ x ≤ y ∧ y < x + count ∧ good y = true ∧ ∀ z, x ≤ z → z < y → good z = false := by
  rw [scanAddr_range good x count small, List.find?_range'_eq_some]
  simp only [List.mem_range'_1, Bool.not_eq_true', and_assoc, and_left_comm]

end Scanning

-- An address that may be given: it is not in use, some range allows it, and so
-- does the last of those that contain it.
structure Available (used : List Nat) (ranges : List IpRange) (x : Nat) : Prop where
  unused : x ∉ used
  allowed : ∃ r ∈ ranges, r.allow = true ∧ r.covers x = true
  last : (lastRange ranges x).any IpRange.allow = true

def NoneIn (used : List Nat) (ranges : List IpRange) (r : IpRange) : Prop := ∀ x, r.covers x = true →
    ¬ Available used ranges x

def FirstAvailable (used : List Nat) (ranges : List IpRange) (x : Nat) : Prop :=
  ∃ before r rest, ranges = before ++ r :: rest ∧ r.allow = true ∧ r.covers x = true ∧ Available used ranges x ∧
    (∀ e ∈ before, e.allow = true → NoneIn used ranges e) ∧ ∀ y < x, r.covers y = true → ¬ Available used ranges y

structure Gives (used : List Nat) (ranges : List IpRange) (addr : Nat) : Prop where
  first : addr ≠ 0 → FirstAvailable used ranges addr
  nothing : addr = 0 ↔ ∀ x, ¬ Available used ranges x

-- get_addr ends, and gives the address it is to give.
def AddrRight (used : List Nat) (ranges : List IpRange) : Prop :=
  ∃ addr, (∀ d, getAddr used ranges d = some (addr, d)) ∧ Gives used ranges addr

def topAddr : Nat := 2 ^ 32 - 1

def Proper (ranges : List IpRange) : Prop := ∀ r ∈ ranges, 1 ≤ r.start ∧ r.start ≤ r.stop ∧ r.stop ≤ topAddr

instance (ranges : List IpRange) : Decidable (Proper ranges) := inferInstanceAs (Decidable (∀ r ∈ ranges, _ ∧ _ ∧ _))

-- The first allow range that ends at the last address of all is come to, and has
-- nothing to give: the counter wraps there.
structure Exhausts (used : List Nat) (ranges before : List IpRange) (r : IpRange) (rest : List IpRange) : Prop where
  split : ranges = before ++ r :: rest
  allow : r.allow = true
  top : r.stop = topAddr
  below : ∀ e ∈ before, e.allow = true → e.stop ≠ topAddr
  nothing : ∀ e ∈ before ++ [r], e.allow = true → NoneIn used ranges e

-- Then nothing may be left behind it either. (Were 0.0.0.0 in use, the search
-- would go on from there, and might come upon the right address by chance.)
def WrapsHarmlessly (used : List Nat) (ranges : List IpRange) : Prop :=
  ∀ before r rest, Exhausts used ranges before r rest →
    (0 ∉ used ∧ ∀ x, ¬ Available used ranges x) ∨
      0 ∈ used ∧ ∃ x < r.start, FirstAvailable used ranges x ∧ ∀ y < x, y ∈ used ∨ lastSense rest y true = false

theorem available_nonzero (used : List Nat) (ranges : List IpRange) (proper : Proper ranges) (x : Nat)
    (available : Available used ranges x) : x ≠ 0 := by
  obtain ⟨r, member, _, covers⟩ := available.allowed
  have lowest := (proper r member).1
  simp only [IpRange.covers, Bool.and_eq_true, decide_eq_true_eq] at covers
  omega

theorem gives_nonzero (used : List Nat) (ranges : List IpRange) (x : Nat) (nonzero : x ≠ 0) :
    Gives used ranges x ↔ FirstAvailable used ranges x := by
  constructor
  · exact fun gives => gives.first nonzero
  · intro first
    obtain ⟨_, _, _, _, _, _, available, _⟩ := id first
    exact ⟨fun _ => first, fun zero => absurd zero nonzero, fun none' => absurd available (none' x)⟩

-- What the search looks for in a range, with the ranges behind it.
def goodFor (used : List Nat) (rest : List IpRange) (x : Nat) : Bool := !ipUsed used x && lastSense rest x true

theorem goodFor_iff (used : List Nat) (rest : List IpRange) (x : Nat) :
    goodFor used rest x = true ↔ x ∉ used ∧ lastSense rest x true = true := by
  simp [goodFor, ipUsed]

section Searching

variable {used : List Nat} {before rest : List IpRange} {r : IpRange}

theorem goodFor_available (allow : r.allow = true) (x : Nat) (covers : r.covers x = true) :
    goodFor used rest x = true ↔ Available used (before ++ r :: rest) x := by
  have last : lastRange (before ++ r :: rest) x = (lastRange rest x).or (some r) := by
    rw [lastRange_append, ← List.singleton_append, lastRange_append, lastRange_single, if_pos covers, Option.or_assoc]
    cases lastRange rest x <;> rfl
  have same : (lastRange (before ++ r :: rest) x).any IpRange.allow = lastSense rest x true := by
    rw [last, lastSense_eq]
    cases lastRange rest x <;> simp [allow]
  rw [goodFor_iff, ← same]
  constructor
  · exact fun ⟨unused, sensed⟩ => ⟨unused, ⟨r, by simp, allow, covers⟩, sensed⟩
  · exact fun available => ⟨available.unused, available.last⟩

theorem available_good (x : Nat) (available : Available used (before ++ r :: rest) x) : goodFor used rest x = true := by
  have last := available.last
  rw [lastRange_append, ← List.singleton_append, lastRange_append] at last
  refine (goodFor_iff used rest x).mpr ⟨available.unused, ?_⟩
  rw [lastSense_eq]
  cases behind : lastRange rest x with
  | none => rfl
  | some e =>
      rw [behind, Option.some_or, Option.some_or] at last
      exact last

theorem covers_iff (x : Nat) : r.covers x = true ↔ r.start ≤ x ∧ x ≤ r.stop := by
  simp [IpRange.covers]

theorem scan_none (allow : r.allow = true) (ordered : r.start ≤ r.stop) (bounded : r.stop ≤ topAddr) :
    scanAddr (goodFor used rest) r.start (r.stop + 1 - r.start) = none ↔ NoneIn used (before ++ r :: rest) r := by
  have small : r.start + (r.stop + 1 - r.start) ≤ 2 ^ 32 := by
    unfold topAddr at bounded
    omega
  rw [scanAddr_none _ _ _ small]
  constructor
  · intro refused x covers available
    have inside := (covers_iff x).mp covers
    have good := (goodFor_available allow x covers).mpr available
    rw [refused x inside.1 (by omega)] at good
    cases good
  · intro nothing y above below
    have covers : r.covers y = true := (covers_iff y).mpr ⟨above, by omega⟩
    exact Bool.eq_false_iff.mpr fun good => nothing y covers ((goodFor_available allow y covers).mp good)

theorem scan_first (allow : r.allow = true) (ordered : r.start ≤ r.stop) (bounded : r.stop ≤ topAddr)
    (nothing : ∀ e ∈ before, e.allow = true → NoneIn used (before ++ r :: rest) e) (x : Nat)
    (found : scanAddr (goodFor used rest) r.start (r.stop + 1 - r.start) = some x) :
    FirstAvailable used (before ++ r :: rest) x := by
  have small : r.start + (r.stop + 1 - r.start) ≤ 2 ^ 32 := by
    unfold topAddr at bounded
    omega
  obtain ⟨above, below, good, lowest⟩ := (scanAddr_some _ _ _ _ small).mp found
  have covers : r.covers x = true := (covers_iff x).mpr ⟨above, by omega⟩
  refine ⟨before, r, rest, rfl, allow, covers, (goodFor_available allow x covers).mp good, nothing,
    fun y less inside available => ?_⟩
  have refused := lowest y ((covers_iff y).mp inside).1 less
  rw [(goodFor_available allow y inside).mpr available] at refused
  cases refused

theorem exhausts_here (below : ∀ e ∈ before, e.allow = true → e.stop ≠ topAddr) {before' rest' : List IpRange}
    {r' : IpRange}
    (exhausts : Exhausts used (before ++ r :: rest) before' r' rest') :
    before' = before ∧ r' = r ∧ rest' = rest ∨ r ∈ before' := by
  rcases List.append_eq_append_iff.mp exhausts.split with ⟨mid, rfl, tail⟩ | ⟨mid, rfl, tail⟩
  · cases mid with
    | nil =>
        rw [List.nil_append] at tail
        obtain ⟨rfl, rfl⟩ := List.cons_eq_cons.mp tail
        exact .inl ⟨List.append_nil _, rfl, rfl⟩
    | cons e later =>
        obtain ⟨rfl, _⟩ := List.cons_eq_cons.mp tail
        exact .inr (by simp)
  · cases mid with
    | nil =>
        rw [List.nil_append] at tail
        obtain ⟨rfl, rfl⟩ := List.cons_eq_cons.mp tail
        exact .inl ⟨(List.append_nil _).symm, rfl, rfl⟩
    | cons e later =>
        obtain ⟨rfl, _⟩ := List.cons_eq_cons.mp tail
        exact absurd exhausts.top (below r' (by simp) exhausts.allow)

theorem scan_around (ordered : r.start ≤ r.stop) (top : r.stop = topAddr) (good : Nat → Bool) :
    scanAddr good r.start (2 ^ 32) = (scanAddr good r.start (r.stop + 1 - r.start)).or (scanAddr good 0 r.start) := by
  have around : 2 ^ 32 = (r.stop + 1 - r.start) + r.start := by
    unfold topAddr at top
    omega
  have small : r.start < 2 ^ 32 := by omega
  have ends : (r.start + (r.stop + 1 - r.start)) % 2 ^ 32 = 0 := by
    rw [show r.start + (r.stop + 1 - r.start) = 2 ^ 32 by omega]
    exact Nat.mod_self _
  calc scanAddr good r.start (2 ^ 32)
      = scanAddr good r.start ((r.stop + 1 - r.start) + r.start) := congrArg _ around
    _ = _ := by rw [scanAddr_add _ _ _ _ small, ends]

theorem wrapped_right (proper : Proper (before ++ r :: rest)) (outcome : Option Nat)
    (searched : outcome = scanAddr (goodFor used rest) 0 r.start) :
    (∃ addr, (∀ d, (deref outcome : Act Nat) d = some (addr, d)) ∧ Gives used (before ++ r :: rest) addr) ↔
      (0 ∉ used ∧ ∀ x, ¬ Available used (before ++ r :: rest) x) ∨
        0 ∈ used ∧ ∃ x < r.start, FirstAvailable used (before ++ r :: rest) x ∧
          ∀ y < x, y ∈ used ∨ lastSense rest y true = false := by
  have lowest := proper r (by simp)
  have small : 0 + r.start ≤ 2 ^ 32 := by
    unfold topAddr at lowest
    omega
  have derefs (addr : Nat) : (∀ d, (deref outcome : Act Nat) d = some (addr, d)) ↔ outcome = some addr := by
    constructor
    · exact fun ran => ((deref_some _ _ _ _).mp (ran (initDaemon none [] none []))).1
    · exact fun found d => (deref_some _ _ _ _).mpr ⟨found, rfl⟩
  have undenied : lastSense rest 0 true = true := by
    have apart : lastRange rest 0 = none := by
      unfold lastRange
      rw [List.getLast?_eq_none_iff, List.filter_eq_nil_iff]
      intro e member covers
      have start := (proper e (by simp [member])).1
      have inside := (covers_iff 0).mp covers
      omega
    rw [lastSense_eq, apart]
    rfl
  simp only [derefs]
  subst searched
  by_cases zero : 0 ∈ used
  · have refused : goodFor used rest 0 = false := by simp [goodFor, ipUsed, zero]
    constructor
    · rintro ⟨addr, found, gives⟩
      obtain ⟨_, below, good, lowest⟩ := (scanAddr_some _ _ _ _ small).mp found
      have nonzero : addr ≠ 0 := by
        rintro rfl
        rw [refused] at good
        cases good
      refine .inr ⟨zero, addr, by omega, gives.first nonzero, fun y less => ?_⟩
      have bad := lowest y (Nat.zero_le _) less
      by_cases taken : y ∈ used
      · exact .inl taken
      · refine .inr (Bool.eq_false_iff.mpr fun sensed => ?_)
        rw [(goodFor_iff used rest y).mpr ⟨taken, sensed⟩] at bad
        cases bad
    · rintro (⟨free, _⟩ | ⟨_, x, below, first, passed⟩)
      · exact absurd zero free
      · have available : Available used (before ++ r :: rest) x := first.choose_spec.choose_spec.choose_spec.2.2.2.1
        have nonzero := available_nonzero used _ proper x available
        refine ⟨x, (scanAddr_some _ _ _ _ small).mpr
          ⟨Nat.zero_le _, by omega, available_good x available, fun z _ less => ?_⟩,
          (gives_nonzero used _ x nonzero).mpr first⟩
        refine Bool.eq_false_iff.mpr fun good => ?_
        obtain ⟨free, sensed⟩ := (goodFor_iff used rest z).mp good
        rcases passed z less with taken | denied
        · exact free taken
        · rw [denied] at sensed
          cases sensed
  · have good : goodFor used rest 0 = true := (goodFor_iff used rest 0).mpr ⟨zero, undenied⟩
    have found : scanAddr (goodFor used rest) 0 r.start = some 0 :=
      (scanAddr_some _ _ _ _ small).mpr ⟨Nat.le_refl _, by omega, good, fun z _ less => absurd less (Nat.not_lt_zero z)⟩
    rw [found]
    constructor
    · rintro ⟨addr, same, gives⟩
      obtain rfl := Option.some.inj same
      exact .inl ⟨zero, gives.nothing.mp rfl⟩
    · rintro (⟨_, nothing⟩ | ⟨taken, _⟩)
      · exact ⟨0, rfl, fun nonzero => absurd rfl nonzero, fun _ => nothing, fun _ => rfl⟩
      · exact absurd taken zero

end Searching

theorem getAddr_denied (used : List Nat) (r : IpRange) (rest : List IpRange) (deny : r.allow = false) :
    getAddr used (r :: rest) = getAddr used rest := by
  rw [getAddr, deny, if_pos Bool.false_ne_true]

theorem getAddr_below (used : List Nat) (r : IpRange) (rest : List IpRange) (allow : r.allow = true)
    (below : r.stop ≠ topAddr) :
    getAddr used (r :: rest) = match scanAddr (goodFor used rest) r.start (r.stop + 1 - r.start) with
      | some x => pure x
      | none => getAddr used rest := by
  rw [getAddr, allow, if_neg (not_not_intro rfl), if_neg (by exact below)]
  rfl

theorem getAddr_top (used : List Nat) (r : IpRange) (rest : List IpRange) (allow : r.allow = true)
    (ordered : r.start ≤ r.stop)
    (top : r.stop = topAddr) : getAddr used (r :: rest) =
      deref ((scanAddr (goodFor used rest) r.start (r.stop + 1 - r.start)).or
        (scanAddr (goodFor used rest) 0 r.start)) := by
  rw [getAddr, allow, if_neg (not_not_intro rfl), if_pos (by exact top), ← scan_around ordered top]
  rfl

theorem getAddr_from (used : List Nat) (before rest : List IpRange) (proper : Proper (before ++ rest))
    (below : ∀ e ∈ before, e.allow = true → e.stop ≠ topAddr)
    (nothing : ∀ e ∈ before, e.allow = true → NoneIn used (before ++ rest) e) :
    (∃ addr, (∀ d, getAddr used rest d = some (addr, d)) ∧ Gives used (before ++ rest) addr) ↔
    WrapsHarmlessly used (before ++ rest) := by
  induction rest generalizing before with
  | nil =>
      have empty : ∀ x, ¬ Available used (before ++ []) x := by
        intro x available
        obtain ⟨r, member, allow, covers⟩ := available.allowed
        exact nothing r (by simpa using member) allow x covers available
      constructor
      · intro _ before' r rest' exhausts
        have member : r ∈ before := by
          have split := exhausts.split
          rw [List.append_nil] at split
          simp [split]
        exact absurd exhausts.top (below r member exhausts.allow)
      · exact fun _ => ⟨0, fun _ => rfl, fun nonzero => absurd rfl nonzero, fun _ => empty, fun _ => rfl⟩
  | cons r rest ih =>
      have there := proper r (by simp)
      have onward : before ++ r :: rest = (before ++ [r]) ++ rest := by simp
      have goesOn (belowToo : r.allow = true → r.stop ≠ topAddr)
        (nothingToo : r.allow = true → NoneIn used (before ++ r :: rest) r) :
          (∃ addr, (∀ d, getAddr used rest d = some (addr, d)) ∧ Gives used (before ++ r :: rest) addr) ↔
            WrapsHarmlessly used (before ++ r :: rest) := by
        rw [onward] at proper nothing nothingToo ⊢
        refine ih (before ++ [r]) proper (fun e member => ?_) fun e member => ?_
        · rcases List.mem_append.mp member with earlier | last
          · exact below e earlier
          · obtain rfl := List.mem_singleton.mp last
            exact belowToo
        · rcases List.mem_append.mp member with earlier | last
          · exact nothing e earlier
          · obtain rfl := List.mem_singleton.mp last
            exact nothingToo
      cases allow : r.allow with
      | false =>
          rw [getAddr_denied used r rest allow]
          exact goesOn (fun yes => by rw [allow] at yes; cases yes) fun yes => by rw [allow] at yes; cases yes
      | true =>
          cases found : scanAddr (goodFor used rest) r.start (r.stop + 1 - r.start) with
          | some x =>
              -- The range has an address, so no wrap behind it is come to.
              have first := scan_first allow there.2.1 there.2.2 nothing x found
              have gives : Gives used (before ++ r :: rest) x := by
                have available : Available used (before ++ r :: rest) x :=
                  first.choose_spec.choose_spec.choose_spec.2.2.2.1
                exact (gives_nonzero used _ x (available_nonzero used _ proper x available)).mpr first
              have given (d : Daemon) : getAddr used (r :: rest) d = some (x, d) := by
                by_cases top : r.stop = topAddr
                · rw [getAddr_top used r rest allow there.2.1 top, found]
                  rfl
                · rw [getAddr_below used r rest allow top, found]
                  rfl
              refine ⟨fun _ before' r' rest' exhausts => ?_, fun _ => ⟨x, given, gives⟩⟩
              have drained : NoneIn used (before ++ r :: rest) r := by
                rcases exhausts_here below exhausts with ⟨rfl, rfl, rfl⟩ | member
                · exact exhausts.nothing r' (by simp) allow
                · exact exhausts.nothing r (List.mem_append_left _ member) allow
              rw [(scan_none allow there.2.1 there.2.2).mpr drained] at found
              cases found
          | none =>
              have drained : NoneIn used (before ++ r :: rest) r := (scan_none allow there.2.1 there.2.2).mp found
              by_cases top : r.stop = topAddr
              · rw [getAddr_top used r rest allow there.2.1 top, found, Option.none_or, wrapped_right proper _ rfl]
                have exhausts : Exhausts used (before ++ r :: rest) before r rest := by
                  refine ⟨rfl, allow, top, below, fun e member yes => ?_⟩
                  rcases List.mem_append.mp member with earlier | last
                  · exact nothing e earlier yes
                  · obtain rfl := List.mem_singleton.mp last
                    exact drained
                refine ⟨fun right before' r' rest' other => ?_, fun harmless => harmless before r rest exhausts⟩
                rcases exhausts_here below other with ⟨rfl, rfl, rfl⟩ | member
                · exact right
                · exact absurd top (other.below r member allow)
              · rw [getAddr_below used r rest allow top, found]
                exact goesOn (fun _ => top) fun _ => drained

-- get_addr ends with the address it is to give just when the wrap of its counter
-- does no harm.
theorem get_addr_right_iff (used : List Nat) (ranges : List IpRange) (proper : Proper ranges) :
    AddrRight used ranges ↔ WrapsHarmlessly used ranges :=
  getAddr_from used [] ranges proper (fun _ member => by cases member) fun _ member => by cases member

theorem harmless_of_below (used : List Nat) (ranges : List IpRange)
    (below : ∀ r ∈ ranges, r.allow = true → r.stop ≠ topAddr) :
    WrapsHarmlessly used ranges := by
  intro before r rest exhausts
  exact absurd exhausts.top (below r (by simp [exhausts.split]) exhausts.allow)

-- Three of ten addresses are denied, and the next one is in use.
theorem get_addr_right_fifth : AddrRight [4] [⟨1, 10, true⟩, ⟨1, 3, false⟩] ∧
    getAddr [4] [⟨1, 10, true⟩, ⟨1, 3, false⟩] twoEntries = some (5, twoEntries) :=
  ⟨(get_addr_right_iff [4] [⟨1, 10, true⟩, ⟨1, 3, false⟩] (by decide)).mpr (harmless_of_below _ _ (by decide)), rfl⟩

-- The one address of a range at the end is in use, and the range behind it is
-- forgotten.
theorem get_addr_gives_up : ¬ ∀ (used : List Nat) (ranges : List IpRange), Proper ranges → AddrRight used ranges := by
  intro claimed
  obtain ⟨addr, given, gives⟩ := claimed [topAddr] [⟨topAddr, topAddr, true⟩, ⟨1, 10, true⟩] (by decide)
  have ends : getAddr [topAddr] [⟨topAddr, topAddr, true⟩, ⟨1, 10, true⟩] twoEntries = some (0, twoEntries) := by
    rw [getAddr_top _ _ _ rfl (by decide) rfl]
    have used : scanAddr (goodFor [topAddr] [⟨1, 10, true⟩]) topAddr (topAddr + 1 - topAddr) = none := by decide
    have zero : scanAddr (goodFor [topAddr] [⟨1, 10, true⟩]) 0 topAddr = some 0 := by
      refine (scanAddr_some _ _ _ _ (by decide)).mpr ⟨Nat.le_refl _, by decide, by decide, fun z _ less => ?_⟩
      exact absurd less (Nat.not_lt_zero z)
    rw [used, zero]
    rfl
  obtain rfl : addr = 0 := by
    have both := (given twoEntries).symm.trans ends
    exact congrArg Prod.fst (Option.some.inj both)
  refine gives.nothing.mp rfl 1 ⟨by decide, ⟨⟨1, 10, true⟩, by decide⟩, by decide⟩

end ZyAgf.Xl2tpd
