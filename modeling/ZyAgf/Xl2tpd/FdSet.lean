import Mathlib.Algebra.Order.BigOperators.Group.List
import Mathlib.Tactic.Ring
import ZyAgf.Xl2tpd.CloseEffects
import ZyAgf.Xl2tpd.Sequencing
import ZyAgf.Xl2tpd.SelfHeld

set_option autoImplicit false

namespace ZyAgf.Xl2tpd

open Prog

-- The descriptors select is to wait for, and the highest of them.
structure FdSet where
  fds : List Int
  max : Int
deriving DecidableEq, Repr

def fdZero : FdSet := ⟨[], 0⟩

def FdSet.add (set : FdSet) (fd : Int) : FdSet := ⟨fd :: set.fds, if set.max < fd then fd else set.max⟩

def FdSet.watchTunnel (set : FdSet) (tun : Tunnel) : FdSet := if -1 < tun.udpFd then set.add tun.udpFd else set

def FdSet.watchCall (set : FdSet) (cal : Call) : FdSet :=
  if -1 < cal.fd ∧ cal.needclose = false ∧ cal.closing = false then set.add cal.fd else set

-- build_fdset with the set it builds. What it does to tunnels and calls is
-- closeCalls and closeTunnels.
def collectCalls (env : Env) (t : TunnelPtr) : Nat → List CallPtr → FdSet → Act FdSet
  | 0, _, _ => Prog.wrong
  | _ + 1, [], set => return set
  | fuel + 1, c :: rest, set => do
      let cal ← readCall c
      if cal.dueToClose then do
        callClose env env.fuel c
        let tun ← readTunnel t
        collectCalls env t fuel tun.calls set
      else collectCalls env t fuel rest (set.watchCall cal)

def collectTunnels (env : Env) : Nat → List TunnelPtr → FdSet → Act FdSet
  | 0, _, _ => Prog.wrong
  | _ + 1, [], set => return set
  | fuel + 1, t :: rest, set => do
      let tun ← readTunnel t
      let set ← collectCalls env t env.fuel tun.calls (set.watchTunnel tun)
      let tun ← readTunnel t
      let self ← deref tun.self
      let me ← readCall self
      if me.dueToClose then do
        callClose env env.fuel self
        let d ← get
        collectTunnels env fuel d.tunnels set
      else collectTunnels env fuel rest set

def readFds (env : Env) (serverSocket controlFd : Int) : Act FdSet := do
  let d ← get
  let set ← collectTunnels env env.fuel d.tunnels fdZero
  return (set.add serverSocket).add controlFd

-- Without the set it is the walk of the main loop.
section Forgets

variable (env : Env)

theorem collectCalls_forgets (t : TunnelPtr) (fuel : Nat) (calls : List CallPtr) (set set' : FdSet) (d d' : Daemon)
    (ran : collectCalls env t fuel calls set d = some (set', d')) : closeCalls env t fuel calls d = some ((), d') := by
  induction fuel generalizing calls set d with
  | zero => cases ran
  | succ fuel ih =>
      cases calls with
      | nil =>
          obtain ⟨_, rfl⟩ := (pure_some _ _ _ _).mp ran
          rfl
      | cons c rest =>
          rw [collectCalls] at ran
          rw [closeCalls]
          obtain ⟨cal, d₁, read, ran⟩ := (bind_some _ _ _ _ _).mp ran
          refine (bind_some _ _ _ _ _).mpr ⟨cal, d₁, read, ?_⟩
          split at ran
          · rw [if_pos (by assumption)]
            obtain ⟨u, d₂, closed, ran⟩ := (bind_some _ _ _ _ _).mp ran
            obtain ⟨tun, d₃, again, ran⟩ := (bind_some _ _ _ _ _).mp ran
            exact (bind_some _ _ _ _ _).mpr ⟨u, d₂, closed, (bind_some _ _ _ _ _).mpr ⟨tun, d₃, again, ih _ _ _ ran⟩⟩
          · rw [if_neg (by assumption)]
            exact ih _ _ _ ran

theorem collectTunnels_forgets (fuel : Nat) (tunnels : List TunnelPtr) (set set' : FdSet) (d d' : Daemon)
    (ran : collectTunnels env fuel tunnels set d = some (set', d')) : closeTunnels env fuel tunnels d = some
    ((), d') := by
  induction fuel generalizing tunnels set d with
  | zero => cases ran
  | succ fuel ih =>
      cases tunnels with
      | nil =>
          obtain ⟨_, rfl⟩ := (pure_some _ _ _ _).mp ran
          rfl
      | cons t rest =>
          rw [collectTunnels] at ran
          rw [closeTunnels]
          obtain ⟨tun, d₁, read, ran⟩ := (bind_some _ _ _ _ _).mp ran
          obtain ⟨next, d₂, collected, ran⟩ := (bind_some _ _ _ _ _).mp ran
          obtain ⟨tun', d₃, again, ran⟩ := (bind_some _ _ _ _ _).mp ran
          obtain ⟨self, d₄, own, ran⟩ := (bind_some _ _ _ _ _).mp ran
          obtain ⟨me, d₅, found, ran⟩ := (bind_some _ _ _ _ _).mp ran
          refine (bind_some _ _ _ _ _).mpr ⟨tun, d₁, read, (bind_some _ _ _ _ _).mpr ⟨(), d₂, ?_, ?_⟩⟩
          · exact collectCalls_forgets env t _ _ _ _ _ _ collected
          refine (bind_some _ _ _ _ _).mpr ⟨tun', d₃, again, (bind_some _ _ _ _ _).mpr ⟨self, d₄, own, ?_⟩⟩
          refine (bind_some _ _ _ _ _).mpr ⟨me, d₅, found, ?_⟩
          split at ran
          · rw [if_pos (by assumption)]
            obtain ⟨u, d₆, closed, ran⟩ := (bind_some _ _ _ _ _).mp ran
            obtain ⟨seen, d₇, looked, ran⟩ := (bind_some _ _ _ _ _).mp ran
            exact (bind_some _ _ _ _ _).mpr ⟨u, d₆, closed, (bind_some _ _ _ _ _).mpr ⟨seen, d₇, looked, ih _ _ _ ran⟩⟩
          · rw [if_neg (by assumption)]
            exact ih _ _ _ ran

theorem readFds_forgets (serverSocket controlFd : Int) (set : FdSet) (d d' : Daemon)
    (ran : readFds env serverSocket controlFd d = some (set, d')) : buildFdset env d = some ((), d') := by
  obtain ⟨seen, d₁, looked, ran⟩ := (bind_some _ _ _ _ _).mp ran
  obtain ⟨collected, d₂, walked, ran⟩ := (bind_some _ _ _ _ _).mp ran
  obtain ⟨_, rfl⟩ := (pure_some _ _ _ _).mp ran
  exact (bind_some _ _ _ _ _).mpr ⟨seen, d₁, looked, collectTunnels_forgets env _ _ _ _ _ _ walked⟩

end Forgets

theorem countP_fewer {α : Type} [DecidableEq α] (p q : α → Bool) (l l' : List α) (x : α) (sub : l'.Sublist l)
    (implies : ∀ y ∈ l', q y = true → p y = true) (member : x ∈ l) (counted : p x = true)
    (gone : x ∈ l' → q x = false) : l'.countP q < l.countP p := by
  have narrowed : l'.countP q ≤ l'.countP fun y => p y && y != x := by
    refine List.countP_mono_left fun y inside holds => ?_
    rw [Bool.and_eq_true, bne_iff_ne]
    refine ⟨implies y inside holds, ?_⟩
    rintro rfl
    rw [gone inside] at holds
    cases holds
  have shorter := sub.countP_le (p := fun y => p y && y != x)
  obtain ⟨before, after, rfl⟩ := List.append_of_mem member
  have left := List.countP_mono_left (l := before) (p := fun y => p y && y != x) (q := p)
    fun y _ holds => (Bool.and_eq_true _ _ ▸ holds).1
  have right := List.countP_mono_left (l := after) (p := fun y => p y && y != x) (q := p)
    fun y _ holds => (Bool.and_eq_true _ _ ▸ holds).1
  rw [List.countP_append, List.countP_cons_of_neg (by simp)] at shorter
  rw [List.countP_append, List.countP_cons_of_pos counted]
  omega

def CallLayout.due (cal : CallLayout) : Bool := xor cal.needclose cal.closing

namespace Layout

def dueCalls (L : Layout) (t : TunnelPtr) : Nat := (L.tunnel t).calls.countP fun c => (L.call c).due

def ownDue (L : Layout) (t : TunnelPtr) : Bool := (L.tunnel t).self.any fun s => (L.call s).due

-- What closing some of a tunnel's calls leaves.
structure Trimmed (t : TunnelPtr) (L L' : Layout) : Prop where
  outside : Outside t L L'
  tunnels : L'.tunnels = L.tunnels
  whole : L'.WholeAt t
  fewer : (L'.tunnel t).calls.Sublist (L.tunnel t).calls
  self : (L'.tunnel t).self = (L.tunnel t).self
  own : ∀ s, (L.tunnel t).self = some s → L'.call s = L.call s

theorem Trimmed.refl {t : TunnelPtr} {L : Layout} (whole : L.WholeAt t) : Trimmed t L L :=
  ⟨.refl, rfl, whole, List.Sublist.refl _, rfl, fun _ _ => rfl⟩

theorem Trimmed.trans {t : TunnelPtr} {L L' L'' : Layout} (first : Trimmed t L L') (second : Trimmed t L' L'') :
    Trimmed t L L'' where
  outside := first.outside.trans second.outside
  tunnels := second.tunnels.trans first.tunnels
  whole := second.whole
  fewer := second.fewer.trans first.fewer
  self := second.self.trans first.self
  own s is := (second.own s (first.self.trans is)).trans (first.own s is)

theorem WholeAt.own_apart {L : Layout} {t : TunnelPtr} (whole : L.WholeAt t) (s c : CallPtr)
    (own : (L.tunnel t).self = some s) (member : c ∈ (L.tunnel t).calls) : s ≠ c := by
  obtain ⟨s', is, _, apart⟩ := whole.own
  obtain rfl := Option.some.inj (own.symm.trans is)
  rintro rfl
  exact apart member

theorem trimmed_flag (L : Layout) (t : TunnelPtr) (c : CallPtr) (needclose closing : Bool) (whole : L.WholeAt t)
    (member : c ∈ (L.tunnel t).calls) : Trimmed t L (L.flag c needclose closing) where
  outside := outside_flag L t c needclose closing (whole.calls c member).container
  tunnels := rfl
  whole := wholeAt_flag L t c needclose closing whole (whole.calls c member).container
  fewer := List.Sublist.refl _
  self := rfl
  own s is := flag_call L c s needclose closing (whole.own_apart s c is member)

theorem trimmed_drop (L : Layout) (t : TunnelPtr) (c : CallPtr) (whole : L.WholeAt t)
    (member : c ∈ (L.tunnel t).calls) : Trimmed t L (L.drop c) := by
  have inside := (whole.calls c member).container
  have tunnel := drop_tunnel L t c inside
  refine ⟨outside_drop L t c inside, rfl, wholeAt_drop L t c whole member, ?_, ?_, ?_⟩
  · rw [tunnel]
    exact List.erase_sublist
  · rw [tunnel]
  · exact fun s is => drop_call L c s (whole.own_apart s c is member)

theorem dueCalls_flag (L : Layout) (t : TunnelPtr) (c : CallPtr) (member : c ∈ (L.tunnel t).calls)
    (due : (L.call c).due = true) (both : Bool) : (L.flag c both both).dueCalls t < L.dueCalls t := by
  refine countP_fewer _ _ _ _ c (List.Sublist.refl _) (fun y _ holds => ?_) member due fun _ => ?_
  · by_cases here : y = c
    · rw [here]; exact due
    · rwa [flag_call L c y both both here] at holds
  · rw [flag_here]
    exact Bool.xor_self both

theorem dueCalls_drop (L : Layout) (t : TunnelPtr) (c : CallPtr) (whole : L.WholeAt t)
    (member : c ∈ (L.tunnel t).calls) (due : (L.call c).due = true) : (L.drop c).dueCalls t < L.dueCalls t := by
  have left : ((L.drop c).tunnel t).calls = (L.tunnel t).calls.erase c := by
    rw [drop_tunnel L t c (whole.calls c member).container]
  unfold dueCalls
  rw [left]
  refine countP_fewer _ _ _ _ c List.erase_sublist (fun y inside holds => ?_) member due fun inside => ?_
  · have other := (whole.nodup.mem_erase_iff.mp inside).1
    rwa [drop_call L c y other] at holds
  · exact ((whole.nodup.mem_erase_iff.mp inside).1 rfl).elim

structure Whole (L : Layout) : Prop where
  nodup : L.tunnels.Nodup
  each : ∀ t ∈ L.tunnels, L.WholeAt t

def dueTunnels (L : Layout) : Nat := L.tunnels.countP L.ownDue

theorem ownDue_outside {t u : TunnelPtr} {L L' : Layout} (outside : Outside t L L') (other : u ≠ t)
    (whole : L.WholeAt u) :
    L'.ownDue u = L.ownDue u := by
  obtain ⟨s, own, sound, _⟩ := whole.own
  unfold ownDue
  rw [outside.tunnel u other, own]
  show (L'.call s).due = (L.call s).due
  rw [outside.call_of u s other sound]

theorem Trimmed.whole_all {t : TunnelPtr} {L L' : Layout} (trimmed : Trimmed t L L') (whole : L.Whole) : L'.Whole := by
  refine ⟨by rw [trimmed.tunnels]; exact whole.nodup, fun u member => ?_⟩
  rw [trimmed.tunnels] at member
  by_cases here : u = t
  · rw [here]
    exact trimmed.whole
  · exact trimmed.outside.wholeAt u here (whole.each u member)

theorem Trimmed.dueTunnels {t : TunnelPtr} {L L' : Layout} (trimmed : Trimmed t L L') (whole : L.Whole) :
    L'.dueTunnels = L.dueTunnels := by
  unfold Layout.dueTunnels
  rw [trimmed.tunnels]
  refine List.countP_congr fun u member => ?_
  suffices same : L'.ownDue u = L.ownDue u by rw [same]
  by_cases here : u = t
  · subst here
    obtain ⟨s, own, _, _⟩ := (whole.each u member).own
    unfold ownDue
    rw [trimmed.self, own]
    show (L'.call s).due = (L.call s).due
    rw [trimmed.own s own]
  · exact ownDue_outside trimmed.outside here (whole.each u member)

-- A tunnel whose own entry was due has been closed.
structure Folded (t : TunnelPtr) (L L' : Layout) : Prop where
  outside : Outside t L L'
  fate : (L'.tunnels = L.tunnels ∧ L'.WholeAt t ∧ (L'.tunnel t).calls = [] ∧ L'.ownDue t = false) ∨
    L'.tunnels = L.tunnels.erase t

namespace Folded

variable {t : TunnelPtr} {L L' : Layout} (folded : Folded t L L')

include folded

theorem fewer : L'.tunnels.Sublist L.tunnels := by
  rcases folded.fate with ⟨same, _⟩ | erased
  · rw [same]
  · rw [erased]
    exact List.erase_sublist

theorem whole (before : L.Whole) : L'.Whole := by
  refine ⟨folded.fewer.nodup before.nodup, fun u member => ?_⟩
  by_cases here : u = t
  · subst here
    rcases folded.fate with ⟨_, whole, _⟩ | erased
    · exact whole
    · rw [erased] at member
      exact ((before.nodup.mem_erase_iff.mp member).1 rfl).elim
  · exact folded.outside.wholeAt u here (before.each u (folded.fewer.subset member))

theorem shorter (before : L.Whole) (u : TunnelPtr) (member : u ∈ L'.tunnels) :
    (L'.tunnel u).calls.length ≤ (L.tunnel u).calls.length := by
  by_cases here : u = t
  · subst here
    rcases folded.fate with ⟨_, _, none, _⟩ | erased
    · rw [none]
      exact Nat.zero_le _
    · rw [erased] at member
      exact ((before.nodup.mem_erase_iff.mp member).1 rfl).elim
  · rw [folded.outside.tunnel u here]

theorem dueTunnels (before : L.Whole) (member : t ∈ L.tunnels) (due : L.ownDue t = true) :
    L'.dueTunnels < L.dueTunnels := by
  refine countP_fewer _ _ _ _ t folded.fewer (fun u inside holds => ?_) member due fun inside => ?_
  · by_cases here : u = t
    · rw [here]
      exact due
    · rwa [ownDue_outside folded.outside here (before.each u (folded.fewer.subset inside))] at holds
  · rcases folded.fate with ⟨_, _, _, undue⟩ | erased
    · exact undue
    · rw [erased] at inside
      exact ((before.nodup.mem_erase_iff.mp inside).1 rfl).elim

end Folded

-- Neither flag without the other, and an open entry that is not closing is
-- watched.
structure Settles (L : Layout) (set : FdSet) (c : CallPtr) : Prop where
  even : (L.call c).needclose = (L.call c).closing
  watched : 0 ≤ (L.call c).fd → (L.call c).needclose = false → (L.call c).closing = false → (L.call c).fd ∈ set.fds

structure SettlesAt (L : Layout) (set : FdSet) (t : TunnelPtr) : Prop where
  own : ∀ s, (L.tunnel t).self = some s → (L.call s).needclose = (L.call s).closing
  calls : ∀ c ∈ (L.tunnel t).calls, L.Settles set c

theorem Settles.widen {L : Layout} {set set' : FdSet} {c : CallPtr} (settles : L.Settles set c)
    (more : set.fds ⊆ set'.fds) :
    L.Settles set' c :=
  ⟨settles.even, fun isOpen needclose closing => more (settles.watched isOpen needclose closing)⟩

theorem SettlesAt.outside {t u : TunnelPtr} {L L' : Layout} {set set' : FdSet} (settles : L.SettlesAt set u)
    (outside : Outside t L L') (other : u ≠ t) (whole : L.WholeAt u)
    (more : set.fds ⊆ set'.fds) : L'.SettlesAt set' u := by
  refine ⟨fun s own => ?_, fun c member => ?_⟩
  · obtain ⟨s', own', sound, _⟩ := whole.own
    rw [outside.tunnel u other] at own
    obtain rfl : s = s' := Option.some.inj (own.symm.trans own')
    rw [outside.call_of u s other sound]
    exact settles.own s own
  · rw [outside.tunnel u other] at member
    have same := outside.call_of u c other (whole.calls c member)
    have wider := (settles.calls c member).widen more
    exact ⟨by rw [same]; exact wider.even, by rw [same]; exact wider.watched⟩

end Layout

theorem dueToClose_even (cal : Call) : cal.dueToClose = false ↔ cal.needclose = cal.closing := by
  unfold Call.dueToClose
  cases cal.needclose <;> cases cal.closing <;> decide

theorem watchCall_keeps (set : FdSet) (cal : Call) (fd : Int) (watched : fd ∈ set.fds) : fd ∈
    (set.watchCall cal).fds := by
  unfold FdSet.watchCall
  split
  · exact List.mem_cons_of_mem _ watched
  · exact watched

theorem watchTunnel_keeps (set : FdSet) (tun : Tunnel) (fd : Int) (watched : fd ∈ set.fds) : fd ∈
    (set.watchTunnel tun).fds := by
  unfold FdSet.watchTunnel
  split
  · exact List.mem_cons_of_mem _ watched
  · exact watched

theorem watchCall_settles (d : Daemon) (set : FdSet) (c : CallPtr) (undue : (d.call c).dueToClose = false) :
    d.layout.Settles (set.watchCall (d.call c)) c := by
  refine ⟨?_, fun isOpen needclose closing => ?_⟩
  · exact (dueToClose_even _).mp undue
  · have given : -1 < (d.call c).fd := Int.lt_of_lt_of_le (by decide) isOpen
    rw [FdSet.watchCall, if_pos ⟨given, needclose, closing⟩]
    exact List.mem_cons_self

section Walk

variable (env : Env) (retries : 1 ≤ env.maxRetries) (d : Daemon) (t : TunnelPtr)

include retries

theorem closeDue_gives (depth : Nat) (c : CallPtr) (whole : d.layout.WholeAt t) (member : c ∈ (d.tunnel t).calls)
    (due : (d.call c).dueToClose = true) :
    Delivers (callClose env (depth + 2) c) d fun _ d' =>
      d.layout.Trimmed t d'.layout ∧ d'.layout.dueCalls t < d.layout.dueCalls t := by
  have sound := whole.calls c member
  have other : (d.tunnel t).self ≠ some c := fun own => whole.own_apart c c own member rfl
  cases closing : (d.call c).closing with
  | true =>
      refine gives_weaken (callClose_drops env (depth + 1) d t c whole.live sound other closing) fun _ d' dropped => ?_
      rw [dropped]
      exact ⟨Layout.trimmed_drop d.layout t c whole member, Layout.dueCalls_drop d.layout t c whole member due⟩
  | false =>
      have needclose : (d.call c).needclose = true := by
        rw [Call.dueToClose, closing, Bool.xor_false] at due
        exact due
      refine gives_weaken (callClose_flags env retries depth d t c whole.live sound other closing) fun _ d' flagged =>
        ?_
      rw [flagged, needclose]
      exact ⟨Layout.trimmed_flag d.layout t c true true whole member, Layout.dueCalls_flag d.layout t c member due true⟩

theorem closeOwn_gives (depth : Nat) (c : CallPtr) (whole : d.layout.WholeAt t) (own : (d.tunnel t).self = some c)
    (due : (d.call c).dueToClose = true) :
    Delivers (callClose env (depth + 2) c) d fun _ d' => d.layout.Folded t d'.layout := by
  cases closing : (d.call c).closing with
  | true =>
      refine gives_weaken (callClose_destroys env (depth + 1) d t c whole own closing) fun _ d' destroyed => ?_
      exact ⟨destroyed.1, .inr destroyed.2⟩
  | false =>
      have needclose : (d.call c).needclose = true := by
        rw [Call.dueToClose, closing, Bool.xor_false] at due
        exact due
      refine gives_weaken (callClose_sheds env retries depth d t c whole own closing) ?_
      rintro _ d' ⟨L, shed, flagged⟩
      obtain ⟨s, is, sound, _⟩ := shed.whole.own
      have kept : (L.tunnel t).self = some c := by
        rw [shed.tunnel]
        exact own
      obtain rfl : c = s := Option.some.inj (kept.symm.trans is)
      rw [flagged, needclose]
      refine ⟨shed.outside.trans (Layout.outside_flag L t c true true sound.container), .inl ⟨shed.tunnels, ?_, ?_, ?_⟩⟩
      · exact Layout.wholeAt_flag L t c true true shed.whole sound.container
      · show (L.tunnel t).calls = []
        rw [shed.tunnel]
      · show ((L.tunnel t).self.any fun s => ((L.flag c true true).call s).due) = false
        rw [kept, Option.any_some, Layout.flag_here]
        rfl

theorem collectCalls_gives (n fuel : Nat) (done rest : List CallPtr) (set : FdSet) (whole : d.layout.WholeAt t)
    (split : (d.tunnel t).calls = done ++ rest) (settled : ∀ c ∈ done, d.layout.Settles set c)
    (short : (d.tunnel t).calls.length ≤ n) (room : 2 ≤ env.fuel)
    (enough : rest.length + 1 + d.layout.dueCalls t * (n + 1) ≤ fuel) :
    Delivers (collectCalls env t fuel rest set) d fun set' d' =>
      d.layout.Trimmed t d'.layout ∧ set.fds ⊆ set'.fds ∧ ∀ c ∈ (d'.tunnel t).calls, d'.layout.Settles set' c := by
  induction fuel generalizing done rest set d with
  | zero => omega
  | succ fuel ih =>
      cases rest with
      | nil =>
          refine gives_pure set d ⟨.refl whole, List.Subset.refl _, ?_⟩
          rw [split, List.append_nil]
          exact settled
      | cons c rest =>
          have member : c ∈ (d.tunnel t).calls := by
            rw [split]
            exact List.mem_append_right _ List.mem_cons_self
          rw [collectCalls]
          refine gives_readCall (whole.calls c member).live ?_
          rw [List.length_cons] at enough
          cases due : (d.call c).dueToClose with
          | true =>
              rw [if_pos rfl]
              obtain ⟨depth, fuelled⟩ := Nat.exists_eq_add_of_le' room
              refine gives_bind (fuelled ▸ closeDue_gives env retries d t depth c whole member due) fun _ d₁ closed =>
                ?_
              obtain ⟨trimmed, less⟩ := closed
              refine gives_readTunnel trimmed.whole.live ?_
              have shorter : (d₁.tunnel t).calls.length ≤ (d.tunnel t).calls.length := trimmed.fewer.length_le
              have bound := Nat.mul_le_mul_right (n + 1) less
              rw [Nat.succ_mul] at bound
              refine gives_weaken (ih d₁ [] _ set trimmed.whole rfl (fun _ none => nomatch none) (by omega) (by omega))
                ?_
              intro set' d' walked
              exact ⟨trimmed.trans walked.1, walked.2⟩
          | false =>
              rw [if_neg Bool.false_ne_true]
              have here := watchCall_settles d set c due
              refine gives_weaken (ih d (done ++ [c]) rest (set.watchCall (d.call c)) whole
                (by rw [split]; simp) ?_ short (by omega)) ?_
              · intro x inside
                rcases List.mem_append.mp inside with before | last
                · have earlier := settled x before
                  exact ⟨earlier.even, fun isOpen needclose closing =>
                    watchCall_keeps set (d.call c) _ (earlier.watched isOpen needclose closing)⟩
                · obtain rfl := List.mem_singleton.mp last
                  exact here
              · intro set' d' walked
                exact ⟨walked.1, fun fd kept => walked.2.1 (watchCall_keeps set (d.call c) fd kept), walked.2.2⟩

theorem collectTunnels_gives (n fuel : Nat) (done rest : List TunnelPtr) (set : FdSet) (whole : d.layout.Whole)
    (split : d.tunnels = done ++ rest) (settled : ∀ u ∈ done, d.layout.SettlesAt set u)
    (short : ∀ u ∈ d.tunnels, (d.tunnel u).calls.length ≤ n) (few : d.tunnels.length ≤ n)
    (room : 2 ≤ env.fuel) (ample : (n + 1) * (n + 1) ≤ env.fuel)
    (enough : rest.length + 1 + d.layout.dueTunnels * (n + 1) ≤ fuel) :
    Delivers (collectTunnels env fuel rest set) d fun set' d' =>
      d'.tunnels.Sublist d.tunnels ∧ d'.layout.Whole ∧ ∀ u ∈ d'.tunnels, d'.layout.SettlesAt set' u := by
  induction fuel generalizing done rest set d with
  | zero => omega
  | succ fuel ih =>
      cases rest with
      | nil =>
          refine gives_pure set d ⟨List.Sublist.refl _, whole, ?_⟩
          rw [split, List.append_nil]
          exact settled
      | cons t rest =>
          have member : t ∈ d.tunnels := by
            rw [split]
            exact List.mem_append_right _ List.mem_cons_self
          have here := whole.each t member
          rw [collectTunnels]
          refine gives_readTunnel here.live ?_
          rw [List.length_cons] at enough
          have callsFuel : (d.tunnel t).calls.length + 1 + d.layout.dueCalls t * (n + 1) ≤ env.fuel := by
            have counted : d.layout.dueCalls t ≤ (d.tunnel t).calls.length := List.countP_le_length
            have bound := Nat.mul_le_mul_right (n + 1) (counted.trans (short t member))
            have within := short t member
            rw [Nat.succ_mul] at ample
            omega
          refine gives_bind (collectCalls_gives env retries d t n env.fuel [] _ (set.watchTunnel (d.tunnel t)) here rfl
            (fun _ none => nomatch none) (short t member) room callsFuel) ?_
          rintro next d₁ ⟨trimmed, more, calls⟩
          have lists : d₁.tunnels = d.tunnels := trimmed.tunnels
          have moved : d₁.layout.Whole := trimmed.whole_all whole
          have asMany : d₁.layout.dueTunnels = d.layout.dueTunnels := trimmed.dueTunnels whole
          have still : ∀ u ∈ d₁.tunnels, (d₁.tunnel u).calls.length ≤ n := by
            intro u inside
            rw [lists] at inside
            refine Nat.le_trans ?_ (short u inside)
            by_cases same : u = t
            · rw [same]
              exact trimmed.fewer.length_le
            · exact Nat.le_of_eq (congrArg (fun tun : TunnelLayout => tun.calls.length) (trimmed.outside.tunnel u same))
          obtain ⟨s, own, sound, _⟩ := trimmed.whole.own
          refine gives_readTunnel trimmed.whole.live (gives_deref own (gives_readCall sound.live ?_))
          cases due : (d₁.call s).dueToClose with
          | true =>
              rw [if_pos rfl]
              obtain ⟨depth, fuelled⟩ := Nat.exists_eq_add_of_le' room
              refine gives_bind (fuelled ▸ closeOwn_gives env retries d₁ t depth s trimmed.whole own due)
                fun _ d₂ folded => ?_
              refine gives_get ?_
              have marked : d₁.layout.ownDue t = true := by
                show ((d₁.tunnel t).self.any fun s => (d₁.layout.call s).due) = true
                rw [show (d₁.tunnel t).self = some s from own]
                exact due
              have less := folded.dueTunnels moved (by rw [trimmed.tunnels]; exact member) marked
              have bound := Nat.mul_le_mul_right (n + 1) less
              rw [asMany, Nat.succ_mul] at bound
              have remaining : d₂.tunnels.length ≤ n := by
                rw [lists.symm] at few
                exact folded.fewer.length_le.trans few
              refine gives_weaken (ih d₂ [] d₂.tunnels next (folded.whole moved) rfl
                (fun _ none => nomatch none) ?_ remaining
                (by omega)) ?_
              · intro u inside
                exact (folded.shorter moved u inside).trans (still u (folded.fewer.subset inside))
              · intro set' d' walked
                refine ⟨walked.1.trans ?_, walked.2⟩
                rw [← lists]
                exact folded.fewer
          | false =>
              rw [if_neg Bool.false_ne_true]
              have widened : set.fds ⊆ next.fds := fun fd kept => more (watchTunnel_keeps set _ fd kept)
              refine gives_weaken (ih d₁ (done ++ [t]) rest next moved (by rw [lists, split]; simp) ?_ still
                (by rw [lists]; exact few)
                (by rw [asMany]; omega)) ?_
              · intro u inside
                rcases List.mem_append.mp inside with before | last
                · have listed : u ∈ d.tunnels := by
                    rw [split]
                    exact List.mem_append_left _ before
                  have other : u ≠ t := by
                    rintro rfl
                    have once := whole.nodup
                    rw [show d.layout.tunnels = done ++ u :: rest from split] at once
                    exact (List.nodup_append.mp once).2.2 u before u List.mem_cons_self rfl
                  exact (settled u before).outside trimmed.outside other (whole.each u listed) widened
                · obtain rfl := List.mem_singleton.mp last
                  refine ⟨fun s' is => ?_, calls⟩
                  obtain rfl : s = s' := Option.some.inj (own.symm.trans is)
                  exact (dueToClose_even _).mp due
              · intro set' d' walked
                rw [lists] at walked
                exact walked

end Walk

def Daemon.population (d : Daemon) : Nat := d.tunnels.length + (d.tunnels.map fun t => (d.tunnel t).calls.length).sum

-- build_fdset stops, and goes wrong nowhere, however often closing what is due
-- starts its walks again; afterwards nothing is due, and every open entry that is
-- not closing is in the set.
theorem buildFdset_settles (env : Env) (serverSocket controlFd : Int) (d : Daemon) (whole : d.layout.Whole)
    (retries : 1 ≤ env.maxRetries) (ample : (d.population + 2) * (d.population + 2) ≤ env.fuel) :
    ∃ set d', readFds env serverSocket controlFd d = some (set, d') ∧ buildFdset env d = some ((), d') ∧
      d'.tunnels.Sublist d.tunnels ∧ d'.layout.Whole ∧ ∀ t ∈ d'.tunnels, d'.layout.SettlesAt set t := by
  have short : ∀ t ∈ d.tunnels, (d.tunnel t).calls.length ≤ d.population := by
    intro t member
    have listed : (d.tunnel t).calls.length ∈ d.tunnels.map fun t => (d.tunnel t).calls.length :=
      List.mem_map_of_mem member
    exact (List.le_sum_of_mem listed).trans (Nat.le_add_left _ _)
  have few : d.tunnels.length ≤ d.population := Nat.le_add_right _ _
  have due : d.layout.dueTunnels ≤ d.tunnels.length := List.countP_le_length
  have restarts := Nat.mul_le_mul_right (d.population + 1) (due.trans few)
  have square : (d.population + 2) * (d.population + 2) = d.population * (d.population + 1) + 3 * d.population + 4 := by
    ring
  have smaller : (d.population + 1) * (d.population + 1) = d.population * (d.population + 1) + d.population + 1 := by
    ring
  have gives : Delivers (readFds env serverSocket controlFd) d fun set d' =>
      d'.tunnels.Sublist d.tunnels ∧ d'.layout.Whole ∧ ∀ t ∈ d'.tunnels, d'.layout.SettlesAt set t := by
    refine gives_get (gives_bind (collectTunnels_gives env retries d d.population env.fuel [] d.tunnels fdZero whole rfl
      (fun _ none => nomatch none) short few (by omega) (by omega) (by omega)) ?_)
    rintro set d' ⟨fewer, held, settled⟩
    refine gives_pure _ d' ⟨fewer, held, fun t member => ?_⟩
    refine ⟨(settled t member).own, fun c inside => ((settled t member).calls c inside).widen fun fd kept => ?_⟩
    exact List.mem_cons_of_mem _ (List.mem_cons_of_mem _ kept)
  obtain ⟨set, d', ran, settled⟩ := gives
  exact ⟨set, d', ran, readFds_forgets env serverSocket controlFd set d d' ran, settled⟩

-- The entries that tunnels and calls refer to have not been removed.
structure Attached (d : Daemon) : Prop where
  tunnelLns : ∀ t ∈ d.tunnels, ∀ l, (d.tunnel t).lns = some l → (d.lns l).live = true
  tunnelLac : ∀ t ∈ d.tunnels, ∀ l, (d.tunnel t).lac = some l → (d.lac l).live = true
  callLns : ∀ c, (d.call c).live = true → ∀ l, (d.call c).lns = some l → (d.lns l).live = true
  callLac : ∀ c, (d.call c).live = true → ∀ l, (d.call c).lac = some l → (d.lac l).live = true

theorem run_whole (cfg : Config) (deflns : Option Lns) (lnslist : List Lns) (deflac : Option Lac) (laclist : List Lac)
    {visits : List (Daemon × Event)} {d : Daemon}
    (run : Run (next cfg) (initDaemon deflns lnslist deflac laclist) visits d)
    (attached : Attached d) : d.layout.Whole := by
  have linked : Linked d := run_linked cfg deflns lnslist deflac laclist run
  have selfHeld := run_selfHeld cfg deflns lnslist deflac laclist run
  have sound (t : TunnelPtr) (c : CallPtr) (there : (d.call c).live = true ∧ (d.call c).container = t) : d.layout.Sound
    t c :=
    ⟨there.1, there.2, attached.callLns c there.1, attached.callLac c there.1⟩
  refine ⟨linked.listed.1, fun t member => ?_⟩
  obtain ⟨s, own⟩ := Option.ne_none_iff_exists'.mp (linked.own t member)
  exact ⟨linked.live t member, linked.nodup t member, fun c inside => sound t c (linked.calls t member c inside),
    ⟨s, own, sound t s (selfHeld.own t member s own), (selfHeld.filed.self t s own).2⟩, attached.tunnelLns t member,
    attached.tunnelLac t member⟩

-- A tunnel with a call to close, a call whose CDN has come, and a call that is
-- open on descriptor 7; and a tunnel that its peer has stopped.
def mixedDaemon : Daemon :=
  let up : Tunnel := { Tunnel.created 7 with calls := [2, 3, 4], self := some 1 }
  let stopped : Tunnel := { Tunnel.created 8 with self := some 6 }
  { initDaemon none [] none [] with
    tunnel := write (write (fun _ => noTunnel) 0 up) 5 stopped
    call := write (write (write (write (write (fun _ => noCall) 1 (Call.created 0 up 0))
      2 { Call.created 0 up 21 with needclose := true }) 3 { Call.created 0 up 22 with closing := true })
      4 { Call.created 0 up 23 with fd := 7 }) 6 { Call.created 5 stopped 0 with closing := true }
    tunnels := [5, 0]
    fresh := 7 }

theorem mixed_whole : mixedDaemon.layout.Whole := by
  have sound (t : TunnelPtr) (c : CallPtr) (live : (mixedDaemon.call c).live = true)
    (container : (mixedDaemon.call c).container = t)
      (lns : (mixedDaemon.call c).lns = none) (lac : (mixedDaemon.call c).lac = none) : mixedDaemon.layout.Sound t c :=
    ⟨live, container, fun l is => (nomatch lns.symm.trans is), fun l is => (nomatch lac.symm.trans is)⟩
  refine ⟨by decide, fun t member => ?_⟩
  change t ∈ [5, 0] at member
  rcases List.mem_pair.mp member with rfl | rfl
  · exact ⟨rfl, List.nodup_nil, fun _ none => (nomatch none), ⟨6, rfl, sound 5 6 rfl rfl rfl rfl, List.not_mem_nil⟩,
      fun _ is => (nomatch is), fun _ is => (nomatch is)⟩
  · refine ⟨rfl, (by decide : [2, 3, 4].Nodup), fun c inside => ?_,
      ⟨1, rfl, sound 0 1 rfl rfl rfl rfl, (by decide : 1 ∉ [2, 3, 4])⟩,
      fun _ is => (nomatch is), fun _ is => (nomatch is)⟩
    change c ∈ [2, 3, 4] at inside
    rcases List.mem_cons.mp inside with rfl | inside
    · exact sound 0 2 rfl rfl rfl rfl
    rcases List.mem_pair.mp inside with rfl | rfl
    · exact sound 0 3 rfl rfl rfl rfl
    · exact sound 0 4 rfl rfl rfl rfl

theorem buildFdset_settles_mixed : ∃ set d', readFds { plainEnv with fuel := 49 } 3 4 mixedDaemon = some (set, d') ∧
    d'.tunnels.Sublist [5, 0] ∧ ∀ t ∈ d'.tunnels, d'.layout.SettlesAt set t := by
  obtain ⟨set, d', ran, _, fewer, _, settled⟩ :=
    buildFdset_settles { plainEnv with fuel := 49 } 3 4 mixedDaemon mixed_whole (by decide) (by decide)
  exact ⟨set, d', ran, fewer, settled⟩

end ZyAgf.Xl2tpd
