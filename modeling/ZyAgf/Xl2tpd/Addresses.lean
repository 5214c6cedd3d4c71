import ZyAgf.Xl2tpd.Linked

set_option autoImplicit false

namespace ZyAgf.Xl2tpd

-- The local address get_local_addr last gave to each call that is still there.
abbrev Locals := CallPtr → Option Nat

def noteLocal (held : Locals) (_ : Daemon) (turn : World × Op) : Locals :=
  match turn.2 with
  | .takeLocal c addr => if addr = 0 then held else write held c (some addr)
  | .destroyCall c => write held c none
  | _ => held

def noLocals : Locals := fun _ => none

def HoldsRemote (d : Daemon) (c : CallPtr) (a : Nat) : Prop := (d.call c).live = true ∧ a ≠ 0 ∧ (d.call c).addr = a

def HoldsLocal (d : Daemon) (held : Locals) (c : CallPtr) (a : Nat) : Prop := (d.call c).live = true ∧ held c = some a

def Holds (d : Daemon) (held : Locals) (c : CallPtr) (a : Nat) : Prop := HoldsRemote d c a ∨ HoldsLocal d held c a

instance (d : Daemon) (c : CallPtr) (a : Nat) : Decidable (HoldsRemote d c a) :=
  inferInstanceAs (Decidable ((d.call c).live = true ∧ a ≠ 0 ∧ (d.call c).addr = a))

instance (d : Daemon) (held : Locals) (c : CallPtr) (a : Nat) : Decidable (HoldsLocal d held c a) :=
  inferInstanceAs (Decidable ((d.call c).live = true ∧ held c = some a))

instance (d : Daemon) (held : Locals) (c : CallPtr) (a : Nat) : Decidable (Holds d held c a) :=
  inferInstanceAs (Decidable (HoldsRemote d c a ∨ HoldsLocal d held c a))

-- The addresses of live calls are distinct, and they are the ones in use.
structure AddressesKept (d : Daemon) (held : Locals) : Prop where
  apart : ∀ c other a, Holds d held c a → Holds d held other a → c = other
  own : ∀ c a, HoldsRemote d c a → ¬ HoldsLocal d held c a
  used : ∀ c a, Holds d held c a → a ∈ d.uaddr
  held : ∀ a ∈ d.uaddr, ∃ c, Holds d held c a

-- An address is unreserved exactly when the call that holds it is destroyed.
def ReleasesRight (d : Daemon) (held : Locals) (op : Op) (d' : Daemon) : Prop :=
  ∀ a ∈ d.uaddr, a ∉ d'.uaddr ↔ ∃ c, op = .destroyCall c ∧ Holds d held c a

-- What has to hold where an address changes hands. A new remote address must not
-- replace one, nor a new local one; and where a destroyed call's LNS entry has a
-- range of local addresses, the one address it remembers must be the one the call
-- was given, or, if it was given none, nobody's.
def HandledRight (held : Locals) (d : Daemon) : Op → Prop
  | .assign c _ => (d.call c).addr = 0
  | .takeLocal c addr => addr ≠ 0 → held c = none
  | .destroyCall c =>
      match held c with
      | some a => ∃ l ∈ (d.call c).lns, (d.lns l).localrange ≠ [] ∧ (d.lns l).localaddr = a
      | none => ∀ l ∈ (d.call c).lns, (d.lns l).localrange ≠ [] →
          ∀ other < d.fresh, other ≠ c → ¬ Holds d held other (d.lns l).localaddr
  | _ => True

instance (held : Locals) (d : Daemon) (op : Op) : Decidable (HandledRight held d op) :=
  match op with
  | .assign c _ => inferInstanceAs (Decidable ((d.call c).addr = 0))
  | .takeLocal c addr => inferInstanceAs (Decidable (addr ≠ 0 → held c = none))
  | .destroyCall c =>
      match given : held c with
      | some a => decidable_of_iff (∃ l ∈ (d.call c).lns, (d.lns l).localrange ≠ [] ∧ (d.lns l).localaddr = a)
          (by rw [HandledRight, given])
      | none => decidable_of_iff (∀ l ∈ (d.call c).lns, (d.lns l).localrange ≠ [] →
          ∀ other < d.fresh, other ≠ c → ¬ Holds d held other (d.lns l).localaddr) (by rw [HandledRight, given])
  | .aside _ | .tunnel _ _ | .call _ _ | .leaves _ | .addLns _ | .editLns _ _ | .dropLns _ | .raise _ _ _ |
    .raiseCall _ _ _ | .mark _ _
  | .choose _ _ | .challenge _ _ | .newTunnel _ _ | .newCall _ | .free _ _ | .unlink _ | .bury _ | .check _ _ _
  | .zlb _ _ => .isTrue trivial

-- The operations that deal with addresses, or make or destroy a call.
def Op.Hands : Op → Prop
  | .newTunnel _ _ | .newCall _ | .destroyCall _ | .assign _ _ | .takeLocal _ _ => True
  | _ => False

theorem perform_uaddr (env : Env) (d d' : Daemon) (op : Op) (still : ¬ op.Hands) (done : perform env d op = some d') :
    d'.uaddr = d.uaddr := by
  have effect := perform_effect env d d' op done
  cases op with
  | aside rest => obtain ⟨_, rfl⟩ := effect; rfl
  | tunnel t new => obtain ⟨_, _, rfl⟩ := effect; rfl
  | call c new => obtain ⟨_, _, rfl⟩ := effect; rfl
  | leaves l => obtain ⟨_, rfl⟩ := effect; rfl
  | addLns entry => obtain rfl := effect; rfl
  | editLns l options => obtain ⟨_, rfl⟩ := effect; rfl
  | dropLns l => obtain ⟨_, rfl⟩ := effect; rfl
  | raise t m new => obtain ⟨_, _, rfl⟩ := effect; rfl
  | raiseCall c m new => obtain ⟨_, _, rfl⟩ := effect; rfl
  | mark c msgtype => obtain ⟨_, rfl⟩ := effect; rfl
  | choose t l => obtain ⟨_, rfl⟩ := effect; rfl
  | challenge t chal => obtain ⟨_, rfl⟩ := effect; rfl
  | free c new => obtain ⟨_, _, _, rfl⟩ := effect; rfl
  | unlink t => obtain rfl := effect; rfl
  | bury t => obtain ⟨_, _, rfl⟩ := effect; rfl
  | check buf t c => rcases effect with rfl | ⟨_, rfl⟩ <;> rfl
  | zlb t c => obtain ⟨_, _, rfl⟩ := effect; rfl
  | _ => exact (still trivial).elim

-- Of a call's core the other operations change the state and the message type,
-- and what gets a state keeps it and its LNS entry.
structure SameBase (cal new : Call) : Prop where
  live : new.live = cal.live
  addr : new.addr = cal.addr
  state : cal.state ≠ none → new.state ≠ none ∧ new.lns = cal.lns

theorem sameBase_of_core {cal new : Call} (same : new.core = cal.core) : SameBase cal new where
  live := congrArg CallCore.live same
  addr := congrArg CallCore.addr same
  state := fun some => ⟨(congrArg CallCore.state same).trans_ne some, congrArg CallCore.lns same⟩

theorem perform_base (env : Env) (d d' : Daemon) (op : Op) (still : ¬ op.Hands) (done : perform env d op = some d')
    (c : CallPtr) : SameBase (d.call c) (d'.call c) := by
  by_cases recalls : op.Recalls
  · have effect := perform_effect env d d' op done
    have written (x : CallPtr) (new : Call) (base : SameBase (d.call x) new) : SameBase (d.call c)
      (write d.call x new c) := by
      by_cases same : c = x
      · rw [same, write_here]
        exact base
      · rw [write_elsewhere _ _ _ _ same]
        exact sameBase_of_core rfl
    cases op with
    | raiseCall x m new =>
        obtain ⟨_, core, rfl⟩ := effect
        refine written x new ⟨congrArg CallCore.live core, congrArg CallCore.addr core, fun _ =>
          ⟨?_, congrArg CallCore.lns core⟩⟩
        exact (congrArg CallCore.state core).trans_ne (Option.some_ne_none m)
    | mark x msgtype =>
        obtain ⟨_, rfl⟩ := effect
        exact written x _ ⟨rfl, rfl, fun some => ⟨some, rfl⟩⟩
    | free x new =>
        obtain ⟨_, idle, core, rfl⟩ := effect
        exact written x new ⟨congrArg CallCore.live core, congrArg CallCore.addr core, fun some => (some idle).elim⟩
    | newTunnel peer refhim => exact (still trivial).elim
    | newCall t => exact (still trivial).elim
    | destroyCall x => exact (still trivial).elim
    | assign x addr => exact (still trivial).elim
    | _ => exact recalls.elim
  · exact sameBase_of_core (perform_callCore env d d' op recalls done c)

theorem AddressesKept.of_same {d d' : Daemon} {held held' : Locals} (kept : AddressesKept d held)
    (remote : ∀ c a, HoldsRemote d' c a ↔ HoldsRemote d c a)
    (local' : ∀ c a, HoldsLocal d' held' c a ↔ HoldsLocal d held c a) (uaddr : d'.uaddr = d.uaddr) :
    AddressesKept d' held' := by
  have same (c : CallPtr) (a : Nat) : Holds d' held' c a ↔ Holds d held c a := or_congr (remote c a) (local' c a)
  constructor
  · intro c other a one two
    exact kept.apart c other a ((same c a).mp one) ((same other a).mp two)
  · intro c a one two
    exact kept.own c a ((remote c a).mp one) ((local' c a).mp two)
  · intro c a holds
    rw [uaddr]
    exact kept.used c a ((same c a).mp holds)
  · intro a member
    rw [uaddr] at member
    obtain ⟨c, holds⟩ := kept.held a member
    exact ⟨c, (same c a).mpr holds⟩

-- Calls that are to be made hold nothing yet, and what was given a local address
-- is connected and has an LNS entry.
structure Pooled (d : Daemon) (held : Locals) : Prop where
  linked : Linked d
  born : ∀ c, held c ≠ none → (d.call c).live = true
  entered : ∀ c, held c ≠ none → (d.call c).state ≠ none ∧ (d.call c).lns ≠ none

theorem pooled_init (deflns : Option Lns) (lnslist : List Lns) (deflac : Option Lac) (laclist : List Lac) :
    Pooled (initDaemon deflns lnslist deflac laclist) noLocals :=
  ⟨linked_init deflns lnslist deflac laclist, fun _ some => (some rfl).elim, fun _ some => (some rfl).elim⟩

theorem kept_init (deflns : Option Lns) (lnslist : List Lns) (deflac : Option Lac) (laclist : List Lac) :
    AddressesKept (initDaemon deflns lnslist deflac laclist) noLocals := by
  have nobody (c : CallPtr) (a : Nat) : ¬ Holds (initDaemon deflns lnslist deflac laclist) noLocals c a := by
    rintro (⟨live, _⟩ | ⟨live, _⟩) <;> cases live
  exact ⟨fun c _ a holds => (nobody c a holds).elim, fun c a holds => (nobody c a (.inl holds)).elim,
    fun c a holds => (nobody c a holds).elim, fun _ member => by cases member⟩

theorem note_elsewhere (held : Locals) (d : Daemon) (world : World) (x c : CallPtr) (addr : Nat) (different : c ≠ x) :
    noteLocal held d (world, .takeLocal x addr) c = held c := by
  show (if addr = 0 then held else write held x (some addr)) c = held c
  split
  · rfl
  · exact write_elsewhere _ _ _ _ different

theorem holds_new (d : Daemon) (held : Locals) (n : CallPtr) (new : Call) (pooled : Pooled d held)
    (unborn : d.fresh ≤ n)
    (none : new.addr = 0) (calls : Daemon) (is : ∀ c, c ≠ n → calls.call c = d.call c) (made : calls.call n = new) :
    (∀ c a, HoldsRemote calls c a ↔ HoldsRemote d c a) ∧ ∀ c a, HoldsLocal calls held c a ↔ HoldsLocal d held c a := by
  have dead : (d.call n).live = false := pooled.linked.unborn n unborn
  constructor
  · intro c a
    by_cases same : c = n
    · subst same
      refine ⟨fun holds => ?_, fun holds => ?_⟩
      · have zero : a = 0 := by
          rw [← holds.2.2, made, none]
        exact (holds.2.1 zero).elim
      · rw [HoldsRemote, dead] at holds
        cases holds.1
    · rw [HoldsRemote, HoldsRemote, is c same]
  · intro c a
    by_cases same : c = n
    · subst same
      refine ⟨fun holds => ?_, fun holds => ?_⟩
      · have live := pooled.born c (by rw [holds.2]; exact Option.some_ne_none a)
        rw [dead] at live
        cases live
      · rw [HoldsLocal, dead] at holds
        cases holds.1
    · rw [HoldsLocal, HoldsLocal, is c same]

theorem note_still (held : Locals) (d : Daemon) (world : World) (op : Op) (still : ¬ op.Hands) :
    noteLocal held d (world, op) = held := by
  cases op <;> first | rfl | exact (still trivial).elim

theorem assign_holds (env : Env) (d d' : Daemon) (held : Locals) (c : CallPtr) (addr : Nat)
    (effect : Effect env d d' (.assign c addr)) :
    (∀ x a, HoldsRemote d' x a ↔ if x = c then a ≠ 0 ∧ addr = a else HoldsRemote d x a) ∧
      ∀ x a, HoldsLocal d' held x a ↔ HoldsLocal d held x a := by
  obtain ⟨live, _, rfl⟩ := effect
  constructor
  · intro x a
    by_cases same : x = c
    · subst same
      rw [if_pos rfl]
      unfold HoldsRemote
      simp only [write_here, live, true_and]
    · rw [if_neg same]
      unfold HoldsRemote
      simp only [write_elsewhere _ _ _ _ same]
  · intro x a
    have kept : (write d.call c { d.call c with addr := addr } x).live = (d.call x).live :=
      write_same d.call Call.live c { d.call c with addr := addr } rfl x
    unfold HoldsLocal
    simp only [kept]

theorem takeLocal_holds (env : Env) (d d' : Daemon) (held : Locals) (world : World) (c : CallPtr) (addr : Nat)
    (effect : Effect env d d' (.takeLocal c addr)) :
    (∀ x a, HoldsRemote d' x a ↔ HoldsRemote d x a) ∧
      ∀ x a, HoldsLocal d' (noteLocal held d (world, .takeLocal c addr)) x a ↔
        if x = c ∧ addr ≠ 0 then addr = a else HoldsLocal d held x a := by
  obtain ⟨_, _, live, _, _, _, rfl⟩ := effect
  refine ⟨fun _ _ => Iff.rfl, fun x a => ?_⟩
  unfold HoldsLocal noteLocal
  by_cases none : addr = 0
  · simp only [none, if_true, ne_eq, not_true_eq_false, and_false, if_false]
  · by_cases same : x = c
    · subst same
      simp only [none, if_false, write_here, live, true_and, ne_eq, not_false_eq_true, and_self, if_true,
        Option.some.injEq]
    · simp only [none, if_false, write_elsewhere _ _ _ _ same, same, false_and]

theorem destroyCall_holds (env : Env) (d d' : Daemon) (held : Locals) (world : World) (c : CallPtr)
    (effect : Effect env d d' (.destroyCall c)) :
    (∀ x a, HoldsRemote d' x a ↔ HoldsRemote d x a ∧ x ≠ c) ∧
      (∀ x a, HoldsLocal d' (noteLocal held d (world, .destroyCall c)) x a ↔ HoldsLocal d held x a ∧ x ≠ c) ∧
      ∀ a, a ∈ d'.uaddr ↔ a ∈ d.uaddr ∧ a ∉ releasedBy d (d.call c) := by
  obtain ⟨_, _, rest, _, rfl⟩ := effect
  have call : ((withoutCall d c).aside rest).call = (withoutCall d c).call := rfl
  refine ⟨fun x a => ?_, fun x a => ?_, fun a => ?_⟩
  · show HoldsRemote ((withoutCall d c).aside rest) x a ↔ _
    unfold HoldsRemote
    by_cases same : x = c
    · subst same
      simp only [call, withoutCall_gone, Bool.false_eq_true, false_and, ne_eq, not_true_eq_false, and_false]
    · simp only [call, withoutCall_call d c x same, ne_eq, same, not_false_eq_true, and_true]
  · show HoldsLocal ((withoutCall d c).aside rest) (write held c none) x a ↔ _
    unfold HoldsLocal
    by_cases same : x = c
    · subst same
      simp only [call, withoutCall_gone, Bool.false_eq_true, false_and, ne_eq, not_true_eq_false, and_false]
    · simp only [call, withoutCall_call d c x same, write_elsewhere _ _ _ _ same, ne_eq, same, not_false_eq_true,
        and_true]
  · show a ∈ d.uaddr.filter (· ∉ releasedBy d (d.call c)) ↔ _
    simp only [List.mem_filter, decide_eq_true_eq]

theorem AddressesKept.add {d d' : Daemon} {held held' : Locals} (kept : AddressesKept d held) (c : CallPtr) (addr : Nat)
    (isRemote : Prop) (free : addr ∉ d.uaddr) (uaddr : d'.uaddr = addr :: d.uaddr)
    (remote : ∀ x a, HoldsRemote d' x a ↔ HoldsRemote d x a ∨ isRemote ∧ x = c ∧ a = addr)
    (local' : ∀ x a, HoldsLocal d' held' x a ↔ HoldsLocal d held x a ∨ ¬ isRemote ∧ x = c ∧ a = addr) :
    AddressesKept d' held' := by
  have holds (x : CallPtr) (a : Nat) : Holds d' held' x a ↔ Holds d held x a ∨ x = c ∧ a = addr := by
    unfold Holds
    rw [remote, local']
    tauto
  have taken (x : CallPtr) (h : Holds d held x addr) : False := free (kept.used x addr h)
  constructor
  · intro x other a one two
    rcases (holds x a).mp one with old | ⟨rfl, rfl⟩ <;> rcases (holds other a).mp two with before | ⟨rfl, same⟩
    · exact kept.apart x other a old before
    · exact (taken x (same ▸ old)).elim
    · exact (taken other before).elim
    · rfl
  · intro x a one two
    rcases (remote x a).mp one with old | ⟨yes, _, rfl⟩ <;> rcases (local' x a).mp two with before | ⟨no, _, same⟩
    · exact kept.own x a old before
    · exact taken x (same ▸ .inl old)
    · exact taken x (.inr before)
    · exact no yes
  · intro x a one
    rw [uaddr]
    rcases (holds x a).mp one with old | ⟨_, rfl⟩
    · exact List.mem_cons_of_mem _ (kept.used x a old)
    · exact List.mem_cons_self
  · intro a member
    rw [uaddr] at member
    rcases List.mem_cons.mp member with rfl | old
    · exact ⟨c, (holds c a).mpr (.inr ⟨rfl, rfl⟩)⟩
    · obtain ⟨x, before⟩ := kept.held a old
      exact ⟨x, (holds x a).mpr (.inl before)⟩

theorem released_held (d : Daemon) (held : Locals) (c : CallPtr) (pooled : Pooled d held) (kept : AddressesKept d held)
    (live : (d.call c).live = true) (right : HandledRight held d (.destroyCall c)) (a : Nat) (member : a ∈ d.uaddr) :
    a ∈ releasedBy d (d.call c) ↔ Holds d held c a := by
  unfold releasedBy
  rw [List.mem_append]
  constructor
  · rintro (own | shared)
    · split at own
      next some =>
        obtain rfl := List.mem_singleton.mp own
        exact .inl ⟨live, some, rfl⟩
      next => cases own
    · cases entry : (d.call c).lns with
      | none =>
          rw [entry] at shared
          cases shared
      | some l =>
          rw [entry] at shared
          change a ∈ (if (d.lns l).localrange ≠ [] then [(d.lns l).localaddr] else []) at shared
          split at shared
          next ranged =>
            obtain rfl := List.mem_singleton.mp shared
            cases given : held c with
            | some b =>
                rw [HandledRight, given] at right
                obtain ⟨m, same, _, address⟩ := right
                rw [entry] at same
                obtain rfl := Option.some.inj same
                exact .inr ⟨live, given.trans (congrArg some address.symm)⟩
            | none =>
                rw [HandledRight, given] at right
                obtain ⟨other, holds⟩ := kept.held _ member
                by_cases same : other = c
                · exact same ▸ holds
                · have there : (d.call other).live = true := by
                    rcases holds with remote | local'
                    · exact remote.1
                    · exact local'.1
                  exact (right l entry ranged other (pooled.linked.call_old other there) same holds).elim
          next => cases shared
  · rintro (⟨_, some, address⟩ | ⟨_, given⟩)
    · refine .inl ?_
      rw [address, if_pos some]
      exact List.mem_singleton_self a
    · rw [HandledRight, given] at right
      obtain ⟨l, entry, ranged, address⟩ := right
      refine .inr ?_
      rw [entry]
      show a ∈ (if (d.lns l).localrange ≠ [] then [(d.lns l).localaddr] else [])
      rw [if_pos ranged, address]
      exact List.mem_singleton_self a

theorem noted_holder (env : Env) (d d' : Daemon) (held : Locals) (world : World) (op : Op) (pooled : Pooled d held)
    (done : perform env d op = some d') (c : CallPtr) (given : noteLocal held d (world, op) c ≠ none) :
    (d'.call c).live = true ∧ (d'.call c).state ≠ none ∧ (d'.call c).lns ≠ none := by
  have effect := perform_effect env d d' op done
  have before (same : d'.call c = d.call c) (some : held c ≠ none) :
      (d'.call c).live = true ∧ (d'.call c).state ≠ none ∧ (d'.call c).lns ≠ none := by
    rw [same]
    exact ⟨pooled.born c some, pooled.entered c some⟩
  by_cases still : op.Hands
  · cases op with
    | newTunnel peer refhim =>
        have old := pooled.linked.call_old c (pooled.born c given)
        rcases effect with rfl | rfl | rfl
        · exact before rfl given
        · exact before rfl given
        · exact before (withTunnel_call env d peer refhim c (Nat.ne_of_lt (Nat.lt_succ_of_lt old))) given
    | newCall t =>
        have old := pooled.linked.call_old c (pooled.born c given)
        rcases effect with rfl | ⟨_, rfl⟩
        · exact before rfl given
        · exact before (withLinkedCall_call env d t c (Nat.ne_of_lt old)) given
    | destroyCall x =>
        change write held x none c ≠ none at given
        by_cases same : c = x
        · rw [same, write_here] at given
          exact (given rfl).elim
        · rw [write_elsewhere _ _ _ _ same] at given
          obtain ⟨_, _, rest, _, rfl⟩ := effect
          exact before (withoutCall_call d x c same) given
    | assign x addr =>
        change held c ≠ none at given
        obtain ⟨_, _, rfl⟩ := effect
        have same : (write d.call x { d.call x with addr := addr } c).core = { (d.call c).core with
            addr := (write d.call x { d.call x with addr := addr } c).addr } := by
          unfold write
          split
          next here => rw [here]; rfl
          next => rfl
        refine ⟨(congrArg CallCore.live same).trans (pooled.born c given), ?_, ?_⟩
        · exact (congrArg CallCore.state same).trans_ne (pooled.entered c given).1
        · exact (congrArg CallCore.lns same).trans_ne (pooled.entered c given).2
    | takeLocal x addr =>
        obtain ⟨l, entry, live, connected, _, _, rfl⟩ := effect
        by_cases same : c = x
        · rw [same]
          exact ⟨live, connected, by rw [entry]; exact Option.some_ne_none l⟩
        · rw [note_elsewhere held d world x c addr same] at given
          exact before rfl given
    | _ => exact still.elim
  · rw [note_still held d world op still] at given
    have base := perform_base env d d' op still done c
    obtain ⟨connected, entry⟩ := base.state (pooled.entered c given).1
    exact ⟨base.live.trans (pooled.born c given), connected, entry.trans_ne (pooled.entered c given).2⟩

theorem perform_pooled (env : Env) (d d' : Daemon) (held : Locals) (world : World) (op : Op) (pooled : Pooled d held)
    (done : perform env d op = some d') : Pooled d' (noteLocal held d (world, op)) where
  linked := perform_linked env d d' op pooled.linked done
  born := fun c given => (noted_holder env d d' held world op pooled done c given).1
  entered := fun c given => (noted_holder env d d' held world op pooled done c given).2

theorem perform_kept (env : Env) (d d' : Daemon) (held : Locals) (world : World) (op : Op) (pooled : Pooled d held)
    (kept : AddressesKept d held) (right : HandledRight held d op) (done : perform env d op = some d') :
    AddressesKept d' (noteLocal held d (world, op)) := by
  by_cases still : op.Hands
  · have effect := perform_effect env d d' op done
    cases op with
    | newTunnel peer refhim =>
        rcases effect with rfl | rfl | rfl
        · exact kept
        · exact kept.of_same (fun _ _ => Iff.rfl) (fun _ _ => Iff.rfl) rfl
        · obtain ⟨remote, local'⟩ := holds_new d held (d.fresh + 1) (madeSelf d.fresh) pooled (Nat.le_succ _) rfl
            (withTunnel env d peer refhim) (fun c => withTunnel_call env d peer refhim c) (write_here _ _ _)
          exact kept.of_same remote local' rfl
    | newCall t =>
        rcases effect with rfl | ⟨_, rfl⟩
        · exact kept
        · obtain ⟨remote, local'⟩ := holds_new d held d.fresh _ pooled (Nat.le_refl _) rfl (withLinkedCall env d t)
            (fun c => withLinkedCall_call env d t c) (withLinkedCall_made env d t)
          exact kept.of_same remote local' rfl
    | destroyCall c =>
        have given := released_held d held c pooled kept effect.1 right
        obtain ⟨remote, local', uaddr⟩ := destroyCall_holds env d d' held world c effect
        have holds (x : CallPtr) (a : Nat) :
            Holds d' (noteLocal held d (world, .destroyCall c)) x a ↔ Holds d held x a ∧ x ≠ c := by
          unfold Holds
          rw [remote, local']
          tauto
        constructor
        · intro x other a one two
          exact kept.apart x other a ((holds x a).mp one).1 ((holds other a).mp two).1
        · intro x a one two
          exact kept.own x a ((remote x a).mp one).1 ((local' x a).mp two).1
        · intro x a one
          obtain ⟨before, different⟩ := (holds x a).mp one
          have member := kept.used x a before
          refine (uaddr a).mpr ⟨member, fun back => different ?_⟩
          exact kept.apart x c a before ((given a member).mp back)
        · intro a member
          obtain ⟨before, stays⟩ := (uaddr a).mp member
          obtain ⟨x, had⟩ := kept.held a before
          refine ⟨x, (holds x a).mpr ⟨had, ?_⟩⟩
          rintro rfl
          exact stays ((given a before).mpr had)
    | assign c addr =>
        obtain ⟨remote, local'⟩ := assign_holds env d d' held c addr effect
        obtain ⟨live, free, rfl⟩ := effect
        have empty (a : Nat) : ¬ HoldsRemote d c a := fun holds => holds.2.1 (holds.2.2.symm.trans right)
        by_cases none : addr = 0
        · refine kept.of_same (fun x a => ?_) local' (if_pos none)
          rw [remote]
          by_cases same : x = c
          · rw [if_pos same, same]
            refine ⟨fun holds => (holds.1 (holds.2.symm.trans none)).elim, fun holds => (empty a holds).elim⟩
          · rw [if_neg same]
        · refine kept.add c addr True (free.resolve_left none) (if_neg none) (fun x a => ?_) fun x a => ?_
          · rw [remote]
            by_cases same : x = c
            · rw [if_pos same, same]
              refine ⟨fun holds => .inr ⟨trivial, rfl, holds.2.symm⟩, ?_⟩
              rintro (before | ⟨_, _, rfl⟩)
              · exact (empty a before).elim
              · exact ⟨none, rfl⟩
            · rw [if_neg same]
              simp only [same, false_and, and_false, or_false]
          · refine (local' x a).trans ?_
            simp only [not_true_eq_false, false_and, or_false]
    | takeLocal c addr =>
        obtain ⟨remote, local'⟩ := takeLocal_holds env d d' held world c addr effect
        obtain ⟨_, _, _, _, _, free, rfl⟩ := effect
        by_cases none : addr = 0
        · refine kept.of_same remote (fun x a => ?_) (if_pos none)
          rw [local', if_neg fun both => both.2 none]
        · have empty : held c = Option.none := right none
          refine kept.add c addr False (free.resolve_left none) (if_neg none) (fun x a => ?_) fun x a => ?_
          · refine (remote x a).trans ?_
            simp only [false_and, or_false]
          · rw [local']
            by_cases same : x = c
            · rw [if_pos ⟨same, none⟩, same]
              refine ⟨fun is => .inr ⟨not_false, rfl, is.symm⟩, ?_⟩
              rintro (before | ⟨_, _, rfl⟩)
              · rw [HoldsLocal, empty] at before
                cases before.2
              · rfl
            · rw [if_neg fun both => same both.1]
              simp only [same, false_and, and_false, or_false]
    | _ => exact still.elim
  · have base := perform_base env d d' op still done
    rw [note_still held d world op still]
    refine kept.of_same (fun c a => ?_) (fun c a => ?_) (perform_uaddr env d d' op still done)
    · rw [HoldsRemote, (base c).live, (base c).addr]
      rfl
    · rw [HoldsLocal, (base c).live]
      rfl

theorem perform_releases (env : Env) (d d' : Daemon) (held : Locals) (op : Op) (pooled : Pooled d held)
    (kept : AddressesKept d held) (right : HandledRight held d op) (done : perform env d op = some d') :
    ReleasesRight d held op d' := by
  intro a member
  have effect := perform_effect env d d' op done
  have stays (inside : a ∈ d'.uaddr) (other : ∀ c, op ≠ .destroyCall c) :
      a ∉ d'.uaddr ↔ ∃ c, op = .destroyCall c ∧ Holds d held c a :=
    ⟨fun gone => (gone inside).elim, fun ⟨c, is, _⟩ => (other c is).elim⟩
  have reserves (addr : Nat) : a ∈ reserved d.uaddr addr := by
    unfold reserved
    split
    · exact member
    · exact List.mem_cons_of_mem _ member
  by_cases still : op.Hands
  · cases op with
    | newTunnel peer refhim =>
        refine stays ?_ fun _ => Op.noConfusion
        rcases effect with rfl | rfl | rfl <;> exact member
    | newCall t =>
        refine stays ?_ fun _ => Op.noConfusion
        rcases effect with rfl | ⟨_, rfl⟩ <;> exact member
    | assign c addr =>
        refine stays ?_ fun _ => Op.noConfusion
        obtain ⟨_, _, rfl⟩ := effect
        exact reserves addr
    | takeLocal c addr =>
        refine stays ?_ fun _ => Op.noConfusion
        obtain ⟨_, _, _, _, _, _, rfl⟩ := effect
        exact reserves addr
    | destroyCall c =>
        have given := released_held d held c pooled kept effect.1 right a member
        obtain ⟨_, _, uaddr⟩ := destroyCall_holds env d d' held plainWorld c effect
        rw [uaddr]
        constructor
        · intro gone
          refine ⟨c, rfl, given.mp ?_⟩
          by_contra kept
          exact gone ⟨member, kept⟩
        · rintro ⟨other, is, holds⟩ ⟨_, remains⟩
          obtain rfl := Op.destroyCall.inj is
          exact remains (given.mpr holds)
    | _ => exact still.elim
  · refine stays ?_ fun c is => still (by rw [is]; trivial)
    rw [perform_uaddr env d d' op still done]
    exact member

theorem perform_handledRight (env : Env) (d d' : Daemon) (held : Locals) (world : World) (op : Op)
    (kept : AddressesKept d held) (after : AddressesKept d' (noteLocal held d (world, op)))
    (done : perform env d op = some d') : HandledRight held d op := by
  have effect := perform_effect env d d' op done
  cases op with
  | assign c addr =>
      obtain ⟨remote, local'⟩ := assign_holds env d d' held c addr effect
      obtain ⟨live, free, rfl⟩ := effect
      by_contra some
      have before : HoldsRemote d c (d.call c).addr := ⟨live, some, rfl⟩
      have member := kept.used c _ (.inl before)
      have inside : (d.call c).addr ∈ reserved d.uaddr addr := by
        unfold reserved
        split
        · exact member
        · exact List.mem_cons_of_mem _ member
      obtain ⟨x, holds⟩ := after.held _ inside
      by_cases same : x = c
      · subst same
        rcases holds with new | own
        · rw [remote, if_pos rfl] at new
          rcases free with none | free
          · exact some (new.2.symm.trans none)
          · exact free (new.2 ▸ member)
        · exact kept.own x _ before ((local' x _).mp own)
      · refine same (kept.apart x c _ ?_ (.inl before))
        rcases holds with new | own
        · rw [remote, if_neg same] at new
          exact .inl new
        · exact .inr ((local' x _).mp own)
  | takeLocal c addr =>
      intro given
      obtain ⟨remote, local'⟩ := takeLocal_holds env d d' held world c addr effect
      obtain ⟨_, _, live, _, _, free, rfl⟩ := effect
      by_contra some
      obtain ⟨b, before⟩ := Option.ne_none_iff_exists'.mp some
      have own : HoldsLocal d held c b := ⟨live, before⟩
      have member := kept.used c b (.inr own)
      have inside : b ∈ reserved d.uaddr addr := by
        rw [reserved, if_neg given]
        exact List.mem_cons_of_mem _ member
      obtain ⟨x, holds⟩ := after.held b inside
      by_cases same : x = c
      · subst same
        rcases holds with old | new
        · exact kept.own x b ((remote x b).mp old) own
        · rw [local', if_pos ⟨rfl, given⟩] at new
          exact free.resolve_left given (new ▸ member)
      · refine same (kept.apart x c b ?_ (.inr own))
        rcases holds with old | new
        · exact .inl ((remote x b).mp old)
        · rw [local', if_neg fun both => same both.1] at new
          exact .inr new
  | destroyCall c =>
      obtain ⟨remote, local', uaddr⟩ := destroyCall_holds env d d' held world c effect
      have holds (x : CallPtr) (a : Nat) :
          Holds d' (noteLocal held d (world, .destroyCall c)) x a ↔ Holds d held x a ∧ x ≠ c := by
        unfold Holds
        rw [remote, local']
        tauto
      cases given : held c with
      | some a =>
          have own : HoldsLocal d held c a := ⟨effect.1, given⟩
          have member := kept.used c a (.inr own)
          have released : a ∈ releasedBy d (d.call c) := by
            by_contra stays
            obtain ⟨x, had⟩ := after.held a ((uaddr a).mpr ⟨member, stays⟩)
            obtain ⟨before, different⟩ := (holds x a).mp had
            exact different (kept.apart x c a before (.inr own))
          rw [HandledRight, given]
          unfold releasedBy at released
          rcases List.mem_append.mp released with remote | shared
          · split at remote
            next some =>
              exact (kept.own c a ⟨effect.1, by rw [List.mem_singleton.mp remote]; exact some, (List.mem_singleton.mp remote).symm⟩ own).elim
            next => cases remote
          · cases entry : (d.call c).lns with
            | none =>
                rw [entry] at shared
                cases shared
            | some l =>
                rw [entry] at shared
                change a ∈ (if (d.lns l).localrange ≠ [] then [(d.lns l).localaddr] else []) at shared
                split at shared
                next ranged => exact ⟨l, rfl, ranged, (List.mem_singleton.mp shared).symm⟩
                next => cases shared
      | none =>
          rw [HandledRight, given]
          intro l entry ranged other _ different had
          have member := after.used other _ ((holds other _).mpr ⟨had, different⟩)
          refine ((uaddr _).mp member).2 (List.mem_append_right _ ?_)
          rw [Option.mem_def.mp entry]
          show _ ∈ (if (d.lns l).localrange ≠ [] then [(d.lns l).localaddr] else [])
          rw [if_pos ranged]
          exact List.mem_singleton_self _
  | _ => trivial

-- The operations of a run with what each call had been given before them.
abbrev withLocals (turns : List (Daemon × (World × Op))) : List ((Daemon × Locals) × (World × Op)) :=
  Run.noted noteLocal noLocals turns

-- In every run of the daemon whose addresses change hands as they should, the
-- addresses of live calls are distinct and in use, and are given back when their
-- call is destroyed and at no other time. The condition is exact: a wrong move
-- breaks this at once.
theorem addresses_kept (cfg : Config) (deflns : Option Lns) (lnslist : List Lns) (deflac : Option Lac)
    (laclist : List Lac)
    (visits : List (Daemon × Event)) (d : Daemon)
    (run : Run (next cfg) (initDaemon deflns lnslist deflac laclist) visits d) :
    (∃ turns, Breakdown cfg (initDaemon deflns lnslist deflac laclist) visits turns d) ∧
      ∀ turns, Breakdown cfg (initDaemon deflns lnslist deflac laclist) visits turns d →
        (Run.Meets (fun state turn => HandledRight state.2 state.1 turn.2) (withLocals turns) ↔
          Run.Meets (fun state turn => ∀ d', performIn cfg state.1 turn = some d' →
            AddressesKept d' (noteLocal state.2 state.1 turn)) (withLocals turns)) ∧
        (Run.Meets (fun state turn => HandledRight state.2 state.1 turn.2) (withLocals turns) →
          AddressesKept d (Run.notes noteLocal noLocals turns) ∧
          Run.Meets (fun state turn => ∀ d', performIn cfg state.1 turn = some d' →
            ReleasesRight state.1 state.2 turn.2 d') (withLocals turns)) := by
  refine ⟨run_breakdown (initDaemon_listed deflns lnslist deflac laclist) run, fun turns broken => ?_⟩
  have noted := Run.noted_run noteLocal noLocals (breakdown_run broken)
  have init : Pooled (initDaemon deflns lnslist deflac laclist) noLocals ∧
      AddressesKept (initDaemon deflns lnslist deflac laclist) noLocals := ⟨pooled_init _ _ _ _, kept_init _ _ _ _⟩
  have step (state : Daemon × Locals) (turn : World × Op) (after : Daemon × Locals)
      (both : Pooled state.1 state.2 ∧ AddressesKept state.1 state.2) (right : HandledRight state.2 state.1 turn.2)
      (done : Run.noting noteLocal (performIn cfg) state turn = some after) :
      Pooled after.1 after.2 ∧ AddressesKept after.1 after.2 := by
    obtain ⟨d', moved, rfl⟩ := Option.map_eq_some_iff.mp done
    exact ⟨perform_pooled _ state.1 d' state.2 turn.1 turn.2 both.1 moved,
      perform_kept _ state.1 d' state.2 turn.1 turn.2 both.1 both.2 right moved⟩
  refine ⟨⟨fun right => ?_, fun reached => ?_⟩, fun right => ⟨?_, ?_⟩⟩
  · refine Run.each_step _ (fun state => Pooled state.1 state.2 ∧ AddressesKept state.1 state.2) init step _ ?_ noted
      right
    intro state turn both handled d' moved
    exact (step state turn _ both handled (Option.map_eq_some_iff.mpr ⟨d', moved, rfl⟩)).2
  · intro visit member
    -- What was reached by the step before is what this one starts from.
    obtain ⟨earlier, after, before, inside, done⟩ := Run.visit_split noted visit member
    obtain ⟨d', moved, _⟩ := Option.map_eq_some_iff.mp done
    have both : Pooled visit.1.1 visit.1.2 ∧ AddressesKept visit.1.1 visit.1.2 := by
      refine Run.invariant (fun (state : Daemon × Locals) (turn : World × Op) => ∀ d',
        performIn cfg state.1 turn = some d' →
        AddressesKept d' (noteLocal state.2 state.1 turn))
          (fun state => Pooled state.1 state.2 ∧ AddressesKept state.1 state.2)
        init ?_ before (fun seen found => reached seen (inside seen found))
      intro state turn next both kept done
      obtain ⟨d', moved, rfl⟩ := Option.map_eq_some_iff.mp done
      exact ⟨perform_pooled _ state.1 d' state.2 turn.1 turn.2 both.1 moved, kept d' moved⟩
    exact perform_handledRight _ visit.1.1 d' visit.1.2 visit.2.1 visit.2.2 both.2 (reached visit member d' moved) moved
  · exact (Run.invariant _ (fun state => Pooled state.1 state.2 ∧ AddressesKept state.1 state.2) init step noted
      right).2
  · refine Run.each_step _ (fun state => Pooled state.1 state.2 ∧ AddressesKept state.1 state.2) init step _ ?_ noted
      right
    intro state turn both handled d' moved
    exact perform_releases _ state.1 d' state.2 turn.2 both.1 both.2 handled moved

theorem breakdown_pooled {cfg : Config} {deflns : Option Lns} {lnslist : List Lns} {deflac : Option Lac}
    {laclist : List Lac}
    {visits : List (Daemon × Event)} {turns : List (Daemon × (World × Op))} {d : Daemon}
    (broken : Breakdown cfg (initDaemon deflns lnslist deflac laclist) visits turns d) :
    Pooled d (Run.notes noteLocal noLocals turns) := by
  refine Run.invariant (fun _ _ => True) (fun state : Daemon × Locals => Pooled state.1 state.2)
    (pooled_init _ _ _ _) ?_
    (Run.noted_run noteLocal noLocals (breakdown_run broken)) (Run.meets_always _)
  intro state turn after pooled _ done
  obtain ⟨d', moved, rfl⟩ := Option.map_eq_some_iff.mp done
  exact perform_pooled _ state.1 d' state.2 turn.1 turn.2 pooled moved

theorem local_persists (cfg : Config) (d d' : Daemon) (event : Event) (held : Locals) (ops : List (Daemon × Op))
    (c : CallPtr)
    (a : Nat) (linked : Linked d) (given : held c = some a) (away : ¬ Reaches cfg d event c)
    (run : Run (perform { toConfig := cfg, toWorld := event.world }) d ops d')
    (concerns : Run.Meets (fun _ op => op.Concerns cfg d event) ops) (live : (d'.call c).live = true) :
    Run.notes noteLocal held (inWorld event.world ops) c = some a := by
  have kept : Run.notes noteLocal held (inWorld event.world ops) c = some a ∨ c < d'.fresh ∧
    (d'.call c).live = false := by
    clear live
    induction run with
    | start => exact .inl given
    | snoc ops middle after op before done ih =>
        have linked : Linked middle :=
          Run.invariant (fun _ _ => True) Linked linked (fun d op d' kept _ done => perform_linked _ d d' op kept done)
            before
            (Run.meets_always ops)
        obtain ⟨earlier, last⟩ := (Run.meets_snoc _ _ _ _).mp concerns
        have noted : Run.notes noteLocal held (inWorld event.world (ops ++ [(middle, op)])) =
            noteLocal (Run.notes noteLocal held (inWorld event.world ops)) middle (event.world, op) := by
          unfold inWorld
          rw [List.map_append]
          exact Run.notes_snoc noteLocal held _ middle (event.world, op)
        rw [noted]
        rcases ih earlier with same | ⟨old, dead⟩
        · cases op with
          | destroyCall x =>
              by_cases this : c = x
              · subst this
                obtain ⟨live, _, rest, grows, rfl⟩ := perform_effect _ middle after (.destroyCall c) done
                exact .inr ⟨Nat.lt_of_lt_of_le (linked.call_old c live) grows,
                  congrArg Call.live (withoutCall_gone middle c)⟩
              · exact .inl ((write_elsewhere _ x c _ this).trans same)
          | takeLocal x addr =>
              refine .inl ?_
              rw [note_elsewhere]
              · exact same
              · rintro rfl
                exact away last
          | _ => exact .inl same
        · exact .inr (perform_dead _ middle after op c old dead done)
  rcases kept with same | ⟨_, dead⟩
  · exact same
  · rw [dead] at live
    cases live

theorem addresses_kept_strays : AddressesKept twoStrays (Run.notes noteLocal noLocals strayTurns) :=
  ((addresses_kept plainConfig none [] none [] _ twoStrays
    ((Run.start.snoc [] _ _ _ oneStray_moved).snoc _ _ _ _ twoStrays_moved)).2 strayTurns strays_breakdown |>.2
      (by decide +kernel)).1

def poolLns : Lns :=
  { noLns with lacs := [⟨0, 10, true⟩], range := [⟨100, 110, true⟩], localrange := [⟨200, 210, true⟩], assignIp := true }

def onTunnel (cid Ns : U16) (body : List UInt8) : Event := ⟨plainWorld, controlFrame 513 cid Ns 1 body⟩

def connects : List Event :=
  [⟨plainWorld, controlFrame 0 0 0 0 (addMessageTypeAvp .SCCRQ ++ addFrameCapsAvp 3 ++ addTunnelidAvp 9)⟩,
    onTunnel 0 1 (addMessageTypeAvp .SCCCN), onTunnel 0 2 (addMessageTypeAvp .ICRQ ++ addCallidAvp 5),
    onTunnel 1027 3 (addMessageTypeAvp .ICCN)]

-- A second request under the same call id, whose call is thrown away at once.
def requestsTwice : Event := onTunnel 0 4 (addMessageTypeAvp .ICRQ ++ addCallidAvp 5)

def roundTrip : Event := ⟨plainWorld, .fdset⟩

structure Connected (d d₁ d₂ : Daemon) : Prop where
  run : Run (next plainConfig) (initDaemon none [poolLns] none [])
    (Run.trace (next plainConfig) (initDaemon none [poolLns] none []) connects) d
  small : d.fresh = 4
  used : 200 ∈ d.uaddr
  remote : ∀ c < 4, ¬ HoldsRemote d c 200
  own : (d.call 2).lns = none
  others : ∀ c < 2, (d.call c).live = false
  requested : next plainConfig d requestsTwice = some d₁
  delivered : (getCall plainEnv 513 0 ⟨1, udpListenPort⟩ 0 d).map Prod.fst = some (some 2)
  live : (d₁.call 3).live = true
  rounded : next plainConfig d₁ roundTrip = some d₂
  stillLive : (d₂.call 3).live = true
  lost : 200 ∉ d₂.uaddr

theorem connected : ∃ d d₁ d₂, Connected d d₁ d₂ := by
  have seen : (Run.play (next plainConfig) (initDaemon none [poolLns] none []) connects).any (fun d =>
      d.fresh == 4 && d.uaddr.contains 200 && decide (∀ c : Nat, c < 4 → ¬ HoldsRemote d c 200) &&
        (d.call 2).lns == none &&
        decide (∀ c : Nat, c < 2 → (d.call c).live = false) &&
        (getCall plainEnv 513 0 ⟨1, udpListenPort⟩ 0 d).map Prod.fst == some (some 2) &&
        (next plainConfig d requestsTwice).any fun d₁ =>
          (d₁.call 3).live && (next plainConfig d₁ roundTrip).any fun d₂ =>
          (d₂.call 3).live && !d₂.uaddr.contains 200) = true := by decide +kernel
  obtain ⟨d, played, facts⟩ := (Option.any_eq_true _ _).mp seen
  simp only [Bool.and_eq_true, beq_iff_eq, decide_eq_true_eq, List.contains_iff_mem] at facts
  obtain ⟨⟨⟨⟨⟨⟨small, used⟩, remote⟩, own⟩, others⟩, delivered⟩, later⟩ := facts
  obtain ⟨d₁, requested, facts⟩ := (Option.any_eq_true _ _).mp later
  obtain ⟨live, later⟩ := (Bool.and_eq_true_iff).mp facts
  obtain ⟨d₂, rounded, facts⟩ := (Option.any_eq_true _ _).mp later
  simp only [Bool.and_eq_true, Bool.not_eq_true', List.contains_eq_mem, decide_eq_false_iff_not] at facts
  exact ⟨d, d₁, d₂, Run.of_play connects d played, small, used, remote, own, others, requested, delivered, live,
    rounded,
    facts.1, facts.2⟩

theorem requestsTwice_away (d d₁ d₂ : Daemon) (scene : Connected d d₁ d₂) : ¬ Reaches plainConfig d requestsTwice
    3 := by
  rintro ⟨peer, refhim, datagram, buf, found, occurs, delivered⟩
  obtain ⟨rfl, rfl, rfl⟩ := Occurrence.datagram.inj occurs
  have lookup := delivered.lookup
  rw [delivered.header] at lookup
  have own := scene.delivered
  obtain ⟨⟨answer, same⟩, looked, rfl⟩ := Option.map_eq_some_iff.mp own
  have both := lookup.symm.trans looked
  cases both

-- The thrown away call gives back the local address that the first call uses.
theorem addresses_lost :
    ¬ ∀ (cfg : Config) (deflns : Option Lns) (lnslist : List Lns) (deflac : Option Lac) (laclist : List Lac)
      (visits : List (Daemon × Event)) (d : Daemon) (turns : List (Daemon × (World × Op))),
      Run (next cfg) (initDaemon deflns lnslist deflac laclist) visits d →
        Breakdown cfg (initDaemon deflns lnslist deflac laclist) visits turns d →
          AddressesKept d (Run.notes noteLocal noLocals turns) := by
  intro claimed
  obtain ⟨d, d₁, d₂, scene⟩ := connected
  obtain ⟨turns, broken⟩ := run_breakdown (initDaemon_listed none [poolLns] none []) scene.run
  have pooled := breakdown_pooled broken
  obtain ⟨c, holds⟩ := (claimed _ _ _ _ _ _ d turns scene.run broken).held 200 scene.used
  have live : (d.call c).live = true := by
    rcases holds with remote | local'
    · exact remote.1
    · exact local'.1
  have young := pooled.linked.call_old c live
  rw [scene.small] at young
  obtain ⟨_, given⟩ : HoldsLocal d (Run.notes noteLocal noLocals turns) c 200 :=
    holds.resolve_left (scene.remote c young)
  have some : Run.notes noteLocal noLocals turns c ≠ none := by
    rw [given]
    exact Option.some_ne_none 200
  obtain rfl : c = 3 := by
    have notOwn : c ≠ 2 := by
      rintro rfl
      exact (pooled.entered 2 some).2 scene.own
    have late : ¬ c < 2 := by
      intro early
      rw [scene.others c early] at live
      cases live
    exact Nat.le_antisymm (Nat.le_of_lt_succ young) (Nat.lt_of_le_of_ne (Nat.le_of_not_lt late) notOwn.symm)
  obtain ⟨ops₁, run₁, concerns₁⟩ := next_performed _ d d₁ requestsTwice scene.requested pooled.linked.listed
  have broken₁ := Breakdown.step _ _ _ _ _ _ broken scene.requested run₁ concerns₁
  have given₁ := local_persists plainConfig d d₁ requestsTwice _ ops₁ 3 200 pooled.linked given
    (requestsTwice_away d d₁ d₂ scene) run₁ concerns₁ scene.live
  have pooled₁ := breakdown_pooled broken₁
  obtain ⟨ops₂, run₂, concerns₂⟩ := next_performed _ d₁ d₂ roundTrip scene.rounded pooled₁.linked.listed
  have broken₂ := Breakdown.step _ _ _ _ _ _ broken₁ scene.rounded run₂ concerns₂
  have given₂ := local_persists plainConfig d₁ d₂ roundTrip _ ops₂ 3 200 pooled₁.linked given₁
    (by rintro ⟨_, _, _, _, _, occurs, _⟩; cases occurs) run₂ concerns₂ scene.stillLive
  have kept := claimed _ _ _ _ _ _ d₂ _ ((scene.run.snoc _ _ _ _ scene.requested).snoc _ _ _ _ scene.rounded) broken₂
  refine scene.lost (kept.used 3 200 (.inr ⟨scene.stillLive, ?_⟩))
  rw [Run.notes_append, Run.notes_append]
  exact given₂

end ZyAgf.Xl2tpd
