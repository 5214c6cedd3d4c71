import ZyAgf.Xl2tpd.Acknowledged

set_option autoImplicit false

namespace ZyAgf.Xl2tpd

open Serial

-- Nothing that has to do with the order of messages has changed.
def SequencingKept (t : TunnelPtr) (c : CallPtr) (d d' : Daemon) : Prop :=
  (d'.tunnel t).controlRecSeqNum = (d.tunnel t).controlRecSeqNum ∧ (d'.tunnel t).cLr = (d.tunnel t).cLr ∧
    (d'.call c).cnu = (d.call c).cnu

theorem add_one_ne (n : U16) : n + 1 ≠ n := by
  intro same
  simp at same

-- A packet that check_control refuses has no effect on sequencing, exactly when
-- the packet whose turn it is has the right flags.
theorem rejected_unsequenced (buf : RecvBuffer) (t : TunnelPtr) (c : CallPtr) (d d' : Daemon) (bad : Int)
    (ran : checkControl buf t c d = some (bad, d')) :
    (bad ≠ 0 → SequencingKept t c d d') ↔ (inOrder buf (d.tunnel t) = true → inOrderOk buf (d.tunnel t) = true) := by
  obtain ⟨verdict, rfl⟩ := checkControl_some buf t c d d' bad ran
  rw [Ne, verdict]
  unfold SequencingKept
  simp only [write_here]
  cases expected : inOrder buf (d.tunnel t) with
  | true =>
      constructor
      · intro kept _
        by_contra refused
        have moved := (kept refused).1
        simp only [checkedTunnel, expected, if_true] at moved
        exact add_one_ne _ moved
      · exact fun passes refused => (refused (passes rfl)).elim
  | false =>
      refine iff_of_true (fun _ => ?_) fun no => by cases no
      simp only [checkedTunnel, checkedCall, expected, Bool.false_eq_true, if_false, true_and]
      split <;> rfl

-- A Hello that comes too early leaves a tunnel that waits for its first message.
theorem rejected_unsequenced_early : ∃ bad d', checkControl (helloBuffer 5) 0 1 oneStray = some (bad, d') ∧ bad ≠ 0 ∧
    SequencingKept 0 1 oneStray d' := by
  have early : (checkControl (helloBuffer 5) 0 1 oneStray).any (fun out => decide (out.1 ≠ 0)) = true := by
    decide +kernel
  obtain ⟨⟨bad, d'⟩, ran, refused⟩ := (Option.any_eq_true _ _).mp early
  have bad' := of_decide_eq_true refused
  exact ⟨bad, d', ran, bad', (rejected_unsequenced (helloBuffer 5) 0 1 oneStray d' bad ran).mpr
    (by decide +kernel) bad'⟩

-- A message of its number whose flow bit is clear is refused and counted.
def unsequencedBuffer : RecvBuffer := ⟨fixHdr (ControlHdr.wire ⟨0xC002, 12, 513, 0, 0, 0⟩), 12⟩

theorem rejected_counted : ¬ ∀ (buf : RecvBuffer) (t : TunnelPtr) (c : CallPtr) (d d' : Daemon) (bad : Int),
    checkControl buf t c d = some (bad, d') → bad ≠ 0 → SequencingKept t c d d' := by
  intro claimed
  have counted : (checkControl unsequencedBuffer 0 1 oneStray).any (fun out =>
      decide (out.1 ≠ 0) && (out.2.tunnel 0).controlRecSeqNum == 1 &&
        (oneStray.tunnel 0).controlRecSeqNum == 0) = true := by
    decide +kernel
  obtain ⟨⟨bad, d'⟩, ran, facts⟩ := (Option.any_eq_true _ _).mp counted
  simp only [Bool.and_eq_true, beq_iff_eq, decide_eq_true_eq] at facts
  have kept := (claimed unsequencedBuffer 0 1 oneStray d' bad ran facts.1.1).1
  rw [facts.1.2, facts.2] at kept
  cases kept

-- The message an event consumes: a control message with a body that passes
-- check_control, and so is acted on or acknowledged.
def consumed (cfg : Config) (d : Daemon) (event : Event) : Option (TunnelPtr × U16) :=
  (presentation cfg d event).bind fun p =>
    if inOrderOk p.buf p.tun && !isZlb p.buf then some (p.t, (controlHdr p.buf.mem).Ns) else none

def consumedOn (cfg : Config) (t : TunnelPtr) (visits : List (Daemon × Event)) : List U16 :=
  Run.observe (fun d event => (consumed cfg d event).bind fun taken => if taken.1 = t then some taken.2 else none)
    visits

-- The tunnels' messages have been consumed in order from 0 on, each once, and are
-- counted.
def InSequence (cfg : Config) (visits : List (Daemon × Event)) (d : Daemon) : Prop :=
  ∀ t, consumedOn cfg t visits = (List.range (consumedOn cfg t visits).length).map (BitVec.ofNat 16) ∧
    (d.tunnel t).controlRecSeqNum = BitVec.ofNat 16 (consumedOn cfg t visits).length

def ZlbUncounted (cfg : Config) (d : Daemon) (event : Event) : Prop :=
  ∀ p d', presentation cfg d event = some p → isZlb p.buf = true → next cfg d event = some d' →
    ∀ t, (d'.tunnel t).controlRecSeqNum = (d.tunnel t).controlRecSeqNum

-- The packet whose turn it is has the flags of a control message, and is no ZLB
-- for a call that the tunnel does not have.
def TakesInTurn (cfg : Config) (d : Daemon) (event : Event) : Prop :=
  ∀ p, presentation cfg d event = some p → inOrder p.buf p.tun = true →
    inOrderOk p.buf p.tun = true ∧ (isZlb p.buf = true → p.onEntry = true)

instance (cfg : Config) (d : Daemon) (event : Event) : Decidable (TakesInTurn cfg d event) :=
  decidable_of_iff ((presentation cfg d event).all (fun p => !inOrder p.buf p.tun ||
      (inOrderOk p.buf p.tun && (!isZlb p.buf || p.onEntry))) = true) <| by
    simp only [Option.all_eq_true, Bool.or_eq_true, Bool.and_eq_true, Bool.not_eq_true', ← Bool.not_eq_true]
    exact forall_congr' fun p => imp_congr_right fun _ => by
      rw [Decidable.imp_iff_not_or, Decidable.imp_iff_not_or]

-- The packet that check_control counts, and that is not taken back.
def counts (p : Presentation) : Bool := inOrder p.buf p.tun && !(p.onEntry && isZlb p.buf && inOrderOk p.buf p.tun)

theorem channelAfter_count (p : Presentation) :
    (channelAfter p.buf p.onEntry p.tun).1 = p.tun.controlRecSeqNum + if counts p then 1 else 0 := by
  unfold channelAfter counts
  cases inOrder p.buf p.tun with
  | false => simp [Tunnel.channel]
  | true => cases p.onEntry && isZlb p.buf && inOrderOk p.buf p.tun <;> simp

theorem inOrder_of_ok (buf : RecvBuffer) (tun : Tunnel)
    (passed : inOrderOk buf tun = true) : inOrder buf tun = true := by
  simp only [inOrderOk, Bool.and_eq_true] at passed
  exact passed.1

theorem counts_consumed (p : Presentation) :
    counts p = (inOrderOk p.buf p.tun && !isZlb p.buf) ↔
      (inOrder p.buf p.tun = true → inOrderOk p.buf p.tun = true ∧ (isZlb p.buf = true → p.onEntry = true)) := by
  unfold counts
  cases expected : inOrder p.buf p.tun with
  | false =>
      have refused : inOrderOk p.buf p.tun = false := by simp [inOrderOk, expected]
      simp [refused]
  | true =>
      cases inOrderOk p.buf p.tun <;> cases isZlb p.buf <;> cases p.onEntry <;> simp

section Step

variable (cfg : Config) (d d' : Daemon) (event : Event) (linked : Linked d) (moved : next cfg d event = some d')

include linked moved

theorem received_presented (p : Presentation) (presented : presentation cfg d event = some p) (t : TunnelPtr) :
    (d'.tunnel t).controlRecSeqNum = (d.tunnel t).controlRecSeqNum + if t = p.t ∧ counts p = true then 1 else 0 := by
  have changed := congrArg Prod.fst (next_presented cfg d d' event p linked presented moved t)
  have kept := congrArg Prod.fst ((presented_kept cfg d event p linked presented).2 t).1
  change (d'.tunnel t).controlRecSeqNum = _ at changed
  change (p.found.tunnel t).controlRecSeqNum = (d.tunnel t).controlRecSeqNum at kept
  rw [changed]
  by_cases here : t = p.t
  · rw [if_pos here, channelAfter_count, ← kept, here]
    simp [Presentation.tun]
  · rw [if_neg here, if_neg fun both => here both.1]
    exact (BitVec.add_zero _).symm

theorem received_step (taken : TakesInTurn cfg d event) (t : TunnelPtr) :
    (d'.tunnel t).controlRecSeqNum =
        (d.tunnel t).controlRecSeqNum + if (consumed cfg d event).map Prod.fst = some t then 1 else 0 := by
  cases presented : presentation cfg d event with
  | none =>
      have kept := congrArg Prod.fst (next_unpresented cfg d d' event linked presented moved t)
      change (d'.tunnel t).controlRecSeqNum = (d.tunnel t).controlRecSeqNum at kept
      simp [consumed, presented, kept]
  | some p =>
      rw [received_presented cfg d d' event linked moved p presented t, (counts_consumed p).mpr (taken p presented)]
      unfold consumed
      rw [presented, Option.bind_some]
      cases inOrderOk p.buf p.tun && !isZlb p.buf with
      | false => simp
      | true => simp only [if_true, Option.map_some, Option.some.injEq, and_true, eq_comm]

omit moved in
theorem consumed_expected (t : TunnelPtr) (ns : U16) (taken : consumed cfg d event = some (t, ns)) :
    ns = (d.tunnel t).controlRecSeqNum := by
  obtain ⟨p, presented, passed⟩ := Option.bind_eq_some_iff.mp taken
  split at passed
  next passes =>
    obtain ⟨rfl, rfl⟩ := Prod.mk.inj (Option.some.inj passed)
    have kept := congrArg Prod.fst ((presented_kept cfg d event p linked presented).2 p.t).1
    have expected := inOrder_of_ok _ _ (Bool.and_eq_true _ _ ▸ passes).1
    simp only [inOrder, Bool.and_eq_true, beq_iff_eq] at expected
    rw [expected.2]
    exact kept
  next => cases passed

end Step

theorem consumedOn_snoc (cfg : Config) (t : TunnelPtr) (visits : List (Daemon × Event)) (d : Daemon) (event : Event) :
    consumedOn cfg t (visits ++ [(d, event)]) = consumedOn cfg t visits ++
      ((consumed cfg d event).bind fun taken => if taken.1 = t then some taken.2 else none).toList :=
  Run.observe_snoc _ visits d event

theorem consumedOn_other (cfg : Config) (t : TunnelPtr) (visits : List (Daemon × Event)) (d : Daemon) (event : Event)
    (other : (consumed cfg d event).map Prod.fst ≠ some t) :
    consumedOn cfg t (visits ++ [(d, event)]) = consumedOn cfg t visits := by
  rw [consumedOn_snoc]
  cases taken : consumed cfg d event with
  | none => exact List.append_nil _
  | some taken' =>
      have elsewhere : taken'.1 ≠ t := fun same => other (by rw [taken, ← same]; rfl)
      rw [Option.bind_some, if_neg elsewhere]
      exact List.append_nil _

theorem next_inSequence (cfg : Config) (visits : List (Daemon × Event)) (d d' : Daemon) (event : Event)
    (linked : Linked d)
    (inTurn : TakesInTurn cfg d event) (moved : next cfg d event = some d') (before : InSequence cfg visits d) :
    InSequence cfg (visits ++ [(d, event)]) d' := by
  intro t
  have counted := received_step cfg d d' event linked moved inTurn t
  obtain ⟨listed, expected⟩ := before t
  by_cases here : (consumed cfg d event).map Prod.fst = some t
  · obtain ⟨⟨there, ns⟩, taken, same⟩ := Option.map_eq_some_iff.mp here
    obtain rfl : t = there := same.symm
    have number := consumed_expected cfg d event linked t ns taken
    have longer : consumedOn cfg t (visits ++ [(d, event)]) = consumedOn cfg t visits ++ [ns] := by
      rw [consumedOn_snoc, taken]
      simp
    rw [longer, List.length_append, List.length_singleton, List.range_succ, List.map_append, ← listed]
    rw [if_pos here, expected] at counted
    exact ⟨by rw [number, expected]; rfl, counted.trans (ofNat_count _)⟩
  · rw [consumedOn_other cfg t visits d event here]
    rw [if_neg here] at counted
    exact ⟨listed, (counted.trans (BitVec.add_zero _)).trans expected⟩

section Runs

variable (cfg : Config) (deflns : Option Lns) (lnslist : List Lns) (deflac : Option Lac) (laclist : List Lac)
  {visits : List (Daemon × Event)} {finish : Daemon}
    (run : Run (next cfg) (initDaemon deflns lnslist deflac laclist) visits finish)

include run

theorem run_linked : Linked finish :=
  Run.invariant (fun _ _ => True) Linked (linked_init deflns lnslist deflac laclist)
    (fun d event d' held _ done => next_linked cfg d d' event held done) run (Run.meets_always visits)

theorem run_inSequence (inTurn : Run.Meets (TakesInTurn cfg) visits) : InSequence cfg visits finish := by
  induction run with
  | start => exact fun t => ⟨rfl, rfl⟩
  | snoc visits d d' event before moved ih =>
      obtain ⟨earlier, last⟩ := (Run.meets_snoc _ visits d event).mp inTurn
      exact next_inSequence cfg visits d d' event (run_linked cfg deflns lnslist deflac laclist before) last moved
        (ih earlier)

end Runs

theorem inSequence_inTurn (cfg : Config) (visits : List (Daemon × Event)) (d d' : Daemon) (event : Event)
    (linked : Linked d)
    (moved : next cfg d event = some d') (before : InSequence cfg visits d)
    (after : InSequence cfg (visits ++ [(d, event)]) d') : TakesInTurn cfg d event := by
  intro p presented
  rw [← counts_consumed]
  have changed := received_presented cfg d d' event linked moved p presented p.t
  rw [(before p.t).2, (after p.t).2] at changed
  have taken : consumed cfg d event =
      if inOrderOk p.buf p.tun && !isZlb p.buf then some (p.t, (controlHdr p.buf.mem).Ns) else none := by
    unfold consumed
    rw [presented, Option.bind_some]
  cases passes : inOrderOk p.buf p.tun && !isZlb p.buf with
  | true =>
      have order : inOrder p.buf p.tun = true := inOrder_of_ok _ _ (Bool.and_eq_true _ _ ▸ passes).1
      simp only [Bool.and_eq_true, Bool.not_eq_true'] at passes
      simp [counts, order, passes.2]
  | false =>
      rw [passes] at taken
      rw [consumedOn_other cfg p.t visits d event (by rw [taken]; simp)] at changed
      cases counted : counts p with
      | false => rfl
      | true =>
          rw [if_pos ⟨rfl, counted⟩] at changed
          exact absurd changed.symm (add_one_ne _)

theorem zlb_uncounted (cfg : Config) (d : Daemon) (event : Event) (linked : Linked d)
    (inTurn : TakesInTurn cfg d event) :
    ZlbUncounted cfg d event := by
  intro p d' presented empty moved t
  have none : consumed cfg d event = Option.none := by
    unfold consumed
    rw [presented, Option.bind_some, empty]
    simp
  have counted := received_step cfg d d' event linked moved inTurn t
  rw [none] at counted
  exact counted.trans (BitVec.add_zero _)

-- In every run, every tunnel's messages are consumed in order, once each, and are
-- counted, and ZLBs are not, if and only if packets are taken in turn.
theorem control_received_once (cfg : Config) (deflns : Option Lns) (lnslist : List Lns) (deflac : Option Lac)
    (laclist : List Lac) {visits : List (Daemon × Event)} {finish : Daemon}
    (run : Run (next cfg) (initDaemon deflns lnslist deflac laclist) visits finish) :
    ((∀ earlier later d, visits = earlier ++ later → Run (next cfg)
    (initDaemon deflns lnslist deflac laclist) earlier d →
        InSequence cfg earlier d) ∧ Run.Meets (ZlbUncounted cfg) visits) ↔ Run.Meets (TakesInTurn cfg) visits := by
  constructor
  · rintro ⟨sequenced, _⟩ visit member
    obtain ⟨earlier, later, d', rfl, reaches, moved⟩ := Run.split_at run visit member
    have before := sequenced earlier (visit :: later) visit.1 rfl reaches
    have after := sequenced (earlier ++ [visit]) later d' (by simp) (reaches.snoc _ _ _ _ moved)
    exact inSequence_inTurn cfg earlier visit.1 d' visit.2 (run_linked cfg deflns lnslist deflac laclist reaches) moved
      before after
  · intro inTurn
    constructor
    · rintro earlier later d rfl reaches
      exact run_inSequence cfg deflns lnslist deflac laclist reaches ((Run.meets_append _ _ _).mp inTurn).1
    · intro visit member
      obtain ⟨earlier, later, d', rfl, reaches, moved⟩ := Run.split_at run visit member
      exact zlb_uncounted cfg visit.1 visit.2 (run_linked cfg deflns lnslist deflac laclist reaches)
        (inTurn visit member)

-- A peer's first message is taken in its turn.
theorem control_received_once_hello : ∃ d₁ d₂,
    Run (next plainConfig) (initDaemon none [] none [])
      [(initDaemon none [] none [], startTunnelEvent), (d₁, helloEvent 0)] d₂ ∧
    consumedOn plainConfig 0 [(initDaemon none [] none [], startTunnelEvent), (d₁, helloEvent 0)] = [0] ∧
    InSequence plainConfig [(initDaemon none [] none [], startTunnelEvent), (d₁, helloEvent 0)] d₂ := by
  have seen : (next plainConfig (initDaemon none [] none []) startTunnelEvent).any (fun d =>
      decide (TakesInTurn plainConfig d (helloEvent 0)) && consumed plainConfig d (helloEvent 0) == some (0, 0) &&
        (next plainConfig d (helloEvent 0)).isSome) = true := by decide +kernel
  obtain ⟨d₁, started, facts⟩ := (Option.any_eq_true _ _).mp seen
  simp only [Bool.and_eq_true, beq_iff_eq, decide_eq_true_eq] at facts
  obtain ⟨⟨inTurn, taken⟩, moves⟩ := facts
  obtain ⟨d₂, moved⟩ := Option.isSome_iff_exists.mp moves
  have run := (Run.start.snoc [] _ _ startTunnelEvent started).snoc _ _ _ (helloEvent 0) moved
  refine ⟨d₁, d₂, run, ?_, ((control_received_once plainConfig none [] none [] run).mpr ?_).1 _ [] d₂ (by simp) run⟩
  · rw [show [(initDaemon none [] none [], startTunnelEvent), (d₁, helloEvent 0)] =
      [(initDaemon none [] none [], startTunnelEvent)] ++ [(d₁, helloEvent 0)] from rfl, consumedOn_snoc, taken]
    rfl
  · intro visit member
    rcases List.mem_cons.mp member with rfl | later
    · intro p presented
      cases presented
    · obtain rfl := List.mem_singleton.mp later
      exact inTurn

def deadCallZlb : Event := ⟨plainWorld, controlFrame 513 99 0 1 []⟩

theorem zlb_counted :
    ¬ ∀ (cfg : Config) (deflns : Option Lns) (lnslist : List Lns) (deflac : Option Lac) (laclist : List Lac)
    (visits : List (Daemon × Event)) (finish : Daemon),
    Run (next cfg) (initDaemon deflns lnslist deflac laclist) visits finish →
    (∀ earlier later d, visits = earlier ++ later → Run (next cfg)
    (initDaemon deflns lnslist deflac laclist) earlier d →
        InSequence cfg earlier d) ∧ Run.Meets (ZlbUncounted cfg) visits := by
  intro claimed
  have seen : (next plainConfig (initDaemon none [] none []) startTunnelEvent).any (fun d =>
      (presentation plainConfig d deadCallZlb).any (fun p => isZlb p.buf) && (d.tunnel 0).controlRecSeqNum == 0 &&
        (next plainConfig d deadCallZlb).any fun d' => (d'.tunnel 0).controlRecSeqNum == 1) = true := by decide +kernel
  obtain ⟨d₁, started, facts⟩ := (Option.any_eq_true _ _).mp seen
  simp only [Bool.and_eq_true, beq_iff_eq, Option.any_eq_true] at facts
  obtain ⟨⟨⟨p, presented, empty⟩, before⟩, d₂, moved, after⟩ := facts
  have run := (Run.start.snoc [] _ _ startTunnelEvent started).snoc _ _ _ deadCallZlb moved
  have kept := (claimed plainConfig none [] none [] _ _ run).2 (d₁, deadCallZlb) (by simp) p d₂ presented empty moved 0
  rw [before, after] at kept
  cases kept

end ZyAgf.Xl2tpd
