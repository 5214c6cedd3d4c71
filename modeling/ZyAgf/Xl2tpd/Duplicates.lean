import ZyAgf.Xl2tpd.ControlChannel

set_option autoImplicit false

namespace ZyAgf.Xl2tpd

open Serial

-- The whole effect of a message that is answered with one ZLB: its entry's
-- pending acknowledgement goes out with it, and the last packet's Random Vector
-- is dropped as for every packet.
def AnsweredOnce (found d' : Daemon) (c : CallPtr) : Prop :=
  d' = { found with
    tunnel := write found.tunnel (found.call c).container (withoutVector (found.tunnel (found.call c).container))
    call := write found.call c { found.call c with cnu := false }
    out := found.out ++ [zlb (found.tunnel (found.call c).container) (found.call c)] }

-- A message for a call the tunnel does not have goes to the tunnel's own entry,
-- which borrows the number while it answers.
def AnsweredOnceOnSelf (found d' : Daemon) (c : CallPtr) (number : Nat) : Prop :=
  d' = { found with
    call := write found.call c { found.call c with cid := 0 }
    out := found.out ++ [zlb (found.tunnel (found.call c).container) { found.call c with cid := number }] }

-- What a message ahead leaves of its entry: a tunnel that has heard nothing
-- yet and has no number of its peer's is given up for it.
def afterAhead (tun : Tunnel) (cal : Call) : Call :=
  if tun.controlRecSeqNum = 0 ∧ tun.tid = -1 then { cal with needclose := false, closing := true } else cal

-- The whole effect of a message that is dropped without a ZLB.
def Dropped (found d' : Daemon) (c : CallPtr) : Prop :=
  d' = { found with
    tunnel := write found.tunnel (found.call c).container (withoutVector (found.tunnel (found.call c).container))
    call := write found.call c { afterAhead (found.tunnel (found.call c).container) (found.call c) with cnu := false } }

def DroppedOnSelf (found d' : Daemon) (c : CallPtr) : Prop :=
  d' = { found with
    call := write found.call c { afterAhead (found.tunnel (found.call c).container) (found.call c) with cid := 0 } }

structure DeliveredToSelf (env : Env) (d : Daemon) (peer : SockAddr) (refhim : Nat) (datagram : RecvBuffer)
    (buf : RecvBuffer) (found : Daemon) (c : CallPtr) : Prop where
  long : minPayloadHdrLen ≤ datagram.len
  header : buf = { datagram with mem := fixHdr datagram.mem }
  lookup : getCall env (extract buf.mem).1 (extract buf.mem).2 peer refhim d = some (none, found)
  own : getTunnel (extract buf.mem).1 found = some (some c, found)

theorem receive_deliveredToSelf (env : Env) (d d' found : Daemon) (peer : SockAddr) (refhim : Nat)
    (datagram buf : RecvBuffer)
    (c : CallPtr) (u : PUnit) (delivered : DeliveredToSelf env d peer refhim datagram buf found c)
    (ran : receive env peer refhim datagram d = some (u, d')) :
    ∃ result, handleSpecial buf c (extract buf.mem).2 found = some (result, d') := by
  unfold receive at ran
  rw [if_neg (by have long := delivered.long; omega), ← delivered.header] at ran
  obtain ⟨answer, d₁, looked, ran⟩ := (Prog.bind_some _ _ _ _ _).mp ran
  obtain ⟨rfl, rfl⟩ := Prod.mk.inj (Option.some.inj (looked.symm.trans delivered.lookup))
  change receiveOnTunnel buf _ _ d₁ = _ at ran
  unfold receiveOnTunnel at ran
  obtain ⟨answer, d₂, owned, onSelf⟩ := (Prog.bind_some _ _ _ _ _).mp ran
  obtain ⟨rfl, rfl⟩ := Prod.mk.inj (Option.some.inj (owned.symm.trans delivered.own))
  change (handleSpecial buf c (extract buf.mem).2 >>= fun _ => pure ()) d₂ = _ at onSelf
  obtain ⟨taken, d₃, special, done⟩ := (Prog.bind_some _ _ _ _ _).mp onSelf
  obtain ⟨_, rfl⟩ := (Prog.pure_some _ _ _ _).mp done
  exact ⟨taken, special⟩

-- A control message with a body, as check_control takes it.
def FullMessage (buf : RecvBuffer) : Prop :=
  CTBIT (hostWord buf.mem 0) = true ∧ wellSized buf = true ∧ isZlb buf = false

-- A message behind the expected one is answered with one ZLB that carries the
-- current Nr, and a message ahead of it is dropped without one.
def ReAcknowledges (cfg : Config) (d : Daemon) (event : Event) : Prop :=
  ∀ peer refhim datagram buf found c d', event.occurs = .datagram peer refhim datagram → FullMessage buf →
    next cfg d event = some d' →
    (Delivered { toConfig := cfg, toWorld := event.world } d peer refhim datagram buf found c →
      (Before (controlHdr buf.mem).Ns (found.tunnel (found.call c).container).controlRecSeqNum →
        AnsweredOnce found d' c) ∧
      (Before (found.tunnel (found.call c).container).controlRecSeqNum (controlHdr buf.mem).Ns → Dropped found d' c)) ∧
    (DeliveredToSelf { toConfig := cfg, toWorld := event.world } d peer refhim datagram buf found c →
      (Before (controlHdr buf.mem).Ns (found.tunnel (found.call c).container).controlRecSeqNum →
        AnsweredOnceOnSelf found d' c (extract buf.mem).2) ∧
      (Before (found.tunnel (found.call c).container).controlRecSeqNum (controlHdr buf.mem).Ns →
        DroppedOnSelf found d' c))

-- An old number and the expected one lie on the same side of the wrap, and no
-- acknowledgement is left over from a message for an unknown call. Past the wrap
-- only such a leftover makes a ZLB go out, if the tunnel is not given up.
def OldInPlace (found : Daemon) (c : CallPtr) (ns : U16) : Prop :=
  let tun := found.tunnel (found.call c).container
  let cal := found.call c
  ns.toNat < tun.controlRecSeqNum.toNat ∧ cal.cnu = false ∨
    tun.controlRecSeqNum.toNat < ns.toNat ∧ cal.cnu = true ∧
      (tun.controlRecSeqNum = 0 → tun.tid = -1 → cal.needclose = false ∧ cal.closing = true)

def SeenInPlace (cfg : Config) (d : Daemon) (event : Event) : Prop :=
  ∀ peer refhim datagram buf found c, event.occurs = .datagram peer refhim datagram → FullMessage buf →
    (Delivered { toConfig := cfg, toWorld := event.world } d peer refhim datagram buf found c →
      (Before (controlHdr buf.mem).Ns (found.tunnel (found.call c).container).controlRecSeqNum →
        OldInPlace found c (controlHdr buf.mem).Ns) ∧
      (Before (found.tunnel (found.call c).container).controlRecSeqNum (controlHdr buf.mem).Ns →
        (found.call c).cnu = false)) ∧
    (DeliveredToSelf { toConfig := cfg, toWorld := event.world } d peer refhim datagram buf found c →
      Before (controlHdr buf.mem).Ns (found.tunnel (found.call c).container).controlRecSeqNum →
        (controlHdr buf.mem).Ns.toNat < (found.tunnel (found.call c).container).controlRecSeqNum.toNat)

theorem isOld_behind (ns expected : U16) (behind : Before ns expected) :
    isOld ns expected = true ↔ ns.toNat < expected.toNat := by
  have nsBound := ns.isLt
  unfold isOld Before at *
  rw [decide_eq_true_iff]
  rcases Nat.lt_or_ge expected.toNat ns.toNat with wrapped | plain
  · rw [dist_of_lt ns expected wrapped] at behind
    omega
  · rw [dist_of_le ns expected plain] at behind
    omega

theorem isOld_ahead (ns expected : U16) (ahead : Before expected ns) : isOld ns expected = false := by
  have nsBound := ns.isLt
  have bound := expected.isLt
  unfold isOld Before at *
  rw [decide_eq_false_iff_not]
  rcases Nat.lt_or_ge ns.toNat expected.toNat with wrapped | plain
  · rw [dist_of_lt expected ns wrapped] at ahead
    omega
  · rw [dist_of_le expected ns plain] at ahead
    omega

theorem before_other (ns expected : U16) (apart : Before ns expected ∨ Before expected ns) : ns ≠ expected := by
  rintro rfl
  rcases apart with behind | ahead
  · exact before_irrefl ns behind
  · exact before_irrefl ns ahead

theorem late_refused (buf : RecvBuffer) (tun : Tunnel) (other : (controlHdr buf.mem).Ns ≠ tun.controlRecSeqNum) :
    inOrder buf tun = false ∧ inOrderOk buf tun = false ∧ checkedTunnel buf tun = tun := by
  have late : inOrder buf tun = false := by simp [inOrder, other]
  exact ⟨late, by simp [inOrderOk, late], by simp [checkedTunnel, late]⟩

theorem answersOld_full (buf : RecvBuffer) (tun : Tunnel) (full : FullMessage buf)
    (other : (controlHdr buf.mem).Ns ≠ tun.controlRecSeqNum) :
    answersOld buf tun = isOld (controlHdr buf.mem).Ns tun.controlRecSeqNum := by
  have late := (late_refused buf tun other).1
  simp [answersOld, full.2.1, full.2.2, late]

theorem givenUp_full (buf : RecvBuffer) (tun : Tunnel) (full : FullMessage buf)
    (other : (controlHdr buf.mem).Ns ≠ tun.controlRecSeqNum) : givenUp buf tun = true ↔
      isOld (controlHdr buf.mem).Ns tun.controlRecSeqNum = false ∧ tun.controlRecSeqNum = 0 ∧ tun.tid = -1 := by
  have late := (late_refused buf tun other).1
  simp [givenUp, full.2.1, late, and_assoc]

theorem checkedCall_late (buf : RecvBuffer) (tun : Tunnel) (cal : Call)
    (other : (controlHdr buf.mem).Ns ≠ tun.controlRecSeqNum) : (checkedCall buf tun cal).cnu = cal.cnu := by
  unfold checkedCall
  rw [(late_refused buf tun other).1]
  split
  next impossible => cases impossible
  next => split <;> rfl

theorem checkedCall_ahead (buf : RecvBuffer) (tun : Tunnel) (cal : Call) (full : FullMessage buf)
    (ahead : Before tun.controlRecSeqNum (controlHdr buf.mem).Ns) : checkedCall buf tun cal = afterAhead tun cal := by
  have other := before_other _ _ (.inr ahead)
  have given : givenUp buf tun = true ↔ tun.controlRecSeqNum = 0 ∧ tun.tid = -1 := by
    rw [givenUp_full buf tun full other]
    exact and_iff_right (isOld_ahead _ _ ahead)
  unfold checkedCall afterAhead
  rw [(late_refused buf tun other).1, if_neg Bool.false_ne_true]
  simp only [given]

theorem next_late (cfg : Config) (d d' found : Daemon) (event : Event) (peer : SockAddr) (refhim : Nat)
    (datagram buf : RecvBuffer) (c : CallPtr) (occurs : event.occurs = .datagram peer refhim datagram)
    (full : FullMessage buf)
    (delivered : Delivered { toConfig := cfg, toWorld := event.world } d peer refhim datagram buf found c)
    (other : (controlHdr buf.mem).Ns ≠ (found.tunnel (found.call c).container).controlRecSeqNum)
    (moved : next cfg d event = some d') :
    d' = { found with
      tunnel := write found.tunnel (found.call c).container (withoutVector (found.tunnel (found.call c).container))
      call := write found.call c
        { checkedCall buf (found.tunnel (found.call c).container) (found.call c) with cnu := false }
      out := found.out ++
        (if isOld (controlHdr buf.mem).Ns (found.tunnel (found.call c).container).controlRecSeqNum
          then [zlb (found.tunnel (found.call c).container) (found.call c)] else []) ++
        if (found.call c).cnu then [zlb (found.tunnel (found.call c).container) (found.call c)] else [] } := by
  obtain ⟨_, refused, same⟩ := late_refused buf (found.tunnel (found.call c).container) other
  rw [next_refused cfg d d' found event peer refhim datagram buf c occurs delivered full.1 refused moved, same,
    answersOld_full buf _ full other, checkedCall_late buf _ _ other]

theorem answeredOnce_iff (found : Daemon) (c : CallPtr) (cal : Call) (sent : List Output) :
    AnsweredOnce found { found with
      tunnel := write found.tunnel (found.call c).container (withoutVector (found.tunnel (found.call c).container))
      call := write found.call c cal
      out := found.out ++ sent } c ↔
    cal = { found.call c with cnu := false } ∧ sent = [zlb (found.tunnel (found.call c).container) (found.call c)] := by
  constructor
  · intro same
    have entry := congrFun (congrArg Daemon.call same) c
    exact ⟨by simpa using entry, List.append_cancel_left (congrArg Daemon.out same)⟩
  · rintro ⟨rfl, rfl⟩
    rfl

theorem checkedCall_kept (buf : RecvBuffer) (tun : Tunnel) (cal : Call) (late : inOrder buf tun = false) :
    ({ checkedCall buf tun cal with cnu := false } : Call) = { cal with cnu := false } ↔
      (givenUp buf tun = true → cal.needclose = false ∧ cal.closing = true) := by
  unfold checkedCall
  rw [late, if_neg Bool.false_ne_true]
  split
  next given =>
    simp only [given, forall_const, Call.mk.injEq, true_and, and_true]
    exact ⟨fun ⟨open', shut⟩ => ⟨open'.symm, shut.symm⟩, fun ⟨open', shut⟩ => ⟨open'.symm, shut.symm⟩⟩
  next spared => simp [spared]

theorem behind_answered (cfg : Config) (d d' found : Daemon) (event : Event) (peer : SockAddr) (refhim : Nat)
    (datagram buf : RecvBuffer) (c : CallPtr) (occurs : event.occurs = .datagram peer refhim datagram)
    (full : FullMessage buf)
    (delivered : Delivered { toConfig := cfg, toWorld := event.world } d peer refhim datagram buf found c)
    (behind : Before (controlHdr buf.mem).Ns (found.tunnel (found.call c).container).controlRecSeqNum)
    (moved : next cfg d event = some d') :
    AnsweredOnce found d' c ↔ OldInPlace found c (controlHdr buf.mem).Ns := by
  have other := before_other _ _ (.inl behind)
  have plain := isOld_behind _ _ behind
  rw [next_late cfg d d' found event peer refhim datagram buf c occurs full delivered other moved, List.append_assoc,
    answeredOnce_iff, checkedCall_kept buf _ _ (late_refused buf _ other).1, givenUp_full buf _ full other]
  unfold OldInPlace
  have apart : (controlHdr buf.mem).Ns.toNat ≠ (found.tunnel (found.call c).container).controlRecSeqNum.toNat :=
    fun same => other (BitVec.toNat_inj.mp same)
  by_cases early : (controlHdr buf.mem).Ns.toNat < (found.tunnel (found.call c).container).controlRecSeqNum.toNat
  · have notLate : ¬ (found.tunnel (found.call c).container).controlRecSeqNum.toNat <
      (controlHdr buf.mem).Ns.toNat := by omega
    rw [plain.mpr early]
    simp [early, notLate]
  · have late : (found.tunnel (found.call c).container).controlRecSeqNum.toNat < (controlHdr buf.mem).Ns.toNat := by
      omega
    have young : isOld (controlHdr buf.mem).Ns (found.tunnel (found.call c).container).controlRecSeqNum = false := by
      rw [Bool.eq_false_iff, Ne, plain]
      exact early
    rw [young]
    simp only [early, late, Bool.false_eq_true, if_false, List.nil_append, true_and, false_and, false_or, and_imp]
    rw [and_comm]
    simp

theorem ahead_dropped (cfg : Config) (d d' found : Daemon) (event : Event) (peer : SockAddr) (refhim : Nat)
    (datagram buf : RecvBuffer) (c : CallPtr) (occurs : event.occurs = .datagram peer refhim datagram)
    (full : FullMessage buf)
    (delivered : Delivered { toConfig := cfg, toWorld := event.world } d peer refhim datagram buf found c)
    (ahead : Before (found.tunnel (found.call c).container).controlRecSeqNum (controlHdr buf.mem).Ns)
    (moved : next cfg d event = some d') : Dropped found d' c ↔ (found.call c).cnu = false := by
  have other := before_other _ _ (.inr ahead)
  rw [next_late cfg d d' found event peer refhim datagram buf c occurs full delivered other moved,
    isOld_ahead _ _ ahead,
    checkedCall_ahead buf _ _ full ahead]
  constructor
  · intro same
    have outs := congrArg Daemon.out same
    simpa using outs
  · intro clear
    simp [Dropped, clear]

theorem next_special (cfg : Config) (d d' found : Daemon) (event : Event) (peer : SockAddr) (refhim : Nat)
    (datagram buf : RecvBuffer) (c : CallPtr) (occurs : event.occurs = .datagram peer refhim datagram)
    (full : FullMessage buf)
    (delivered : DeliveredToSelf { toConfig := cfg, toWorld := event.world } d peer refhim datagram buf found c)
    (other : (controlHdr buf.mem).Ns ≠ (found.tunnel (found.call c).container).controlRecSeqNum)
    (moved : next cfg d event = some d') :
    d' = { found with
      call := write found.call c
        { checkedCall buf (found.tunnel (found.call c).container) { found.call c with cid := (extract buf.mem).2 } with cid := 0 }
      out := found.out ++
        if isOld (controlHdr buf.mem).Ns (found.tunnel (found.call c).container).controlRecSeqNum
          then [zlb (found.tunnel (found.call c).container) { found.call c with cid := (extract buf.mem).2 }] else []
            } := by
  obtain ⟨_, refused, same⟩ := late_refused buf (found.tunnel (found.call c).container) other
  unfold next at moved
  rw [occurs] at moved
  obtain ⟨⟨u, after⟩, ran, rfl⟩ := Option.map_eq_some_iff.mp moved
  obtain ⟨taken, special⟩ := receive_deliveredToSelf _ d after found peer refhim datagram buf c u delivered ran
  unfold handleSpecial at special
  obtain ⟨cal, d₄, read, special⟩ := (Prog.bind_some _ _ _ _ _).mp special
  obtain ⟨_, rfl, rfl⟩ := (readCall_some _ _ _ _).mp read
  rw [if_neg (not_not_intro full.1)] at special
  obtain ⟨_, d₅, borrowed, special⟩ := (Prog.bind_some _ _ _ _ _).mp special
  obtain ⟨_, rfl⟩ := (setCall_some _ _ _ _ _).mp borrowed
  obtain ⟨bad, d₆, checked, special⟩ := (Prog.bind_some _ _ _ _ _).mp special
  obtain ⟨verdict, rfl⟩ := checkControl_some buf _ c _ d₆ bad checked
  have failed : bad ≠ 0 := by
    intro none
    rw [verdict, refused] at none
    cases none
  rw [if_pos (.inl failed)] at special
  obtain ⟨_, d₇, returned, special⟩ := (Prog.bind_some _ _ _ _ _).mp special
  obtain ⟨_, rfl⟩ := (setCall_some _ _ _ _ _).mp returned
  obtain ⟨_, rfl⟩ := (Prog.pure_some _ _ _ _).mp special
  simp only [write_here, write_same_address, same, write_self, answersOld_full buf _ full other]

theorem behind_answered_special (cfg : Config) (d d' found : Daemon) (event : Event) (peer : SockAddr) (refhim : Nat)
    (datagram buf : RecvBuffer) (c : CallPtr) (occurs : event.occurs = .datagram peer refhim datagram)
    (full : FullMessage buf)
    (delivered : DeliveredToSelf { toConfig := cfg, toWorld := event.world } d peer refhim datagram buf found c)
    (behind : Before (controlHdr buf.mem).Ns (found.tunnel (found.call c).container).controlRecSeqNum)
    (moved : next cfg d event = some d') :
    AnsweredOnceOnSelf found d' c (extract buf.mem).2 ↔
      (controlHdr buf.mem).Ns.toNat < (found.tunnel (found.call c).container).controlRecSeqNum.toNat := by
  have other := before_other _ _ (.inl behind)
  have late := (late_refused buf (found.tunnel (found.call c).container) other).1
  have plain := isOld_behind _ _ behind
  have given := givenUp_full buf (found.tunnel (found.call c).container) full other
  rw [next_special cfg d d' found event peer refhim datagram buf c occurs full delivered other moved, ← plain]
  cases old : isOld (controlHdr buf.mem).Ns (found.tunnel (found.call c).container).controlRecSeqNum with
  | true =>
      have spared : ¬ givenUp buf (found.tunnel (found.call c).container) = true := by simp [given, old]
      simp [AnsweredOnceOnSelf, checkedCall, late, spared]
  | false =>
      refine iff_of_false (fun same => ?_) Bool.false_ne_true
      have outs := congrArg (fun d => d.out.length) same
      simp at outs

theorem ahead_dropped_special (cfg : Config) (d d' found : Daemon) (event : Event) (peer : SockAddr) (refhim : Nat)
    (datagram buf : RecvBuffer) (c : CallPtr) (occurs : event.occurs = .datagram peer refhim datagram)
    (full : FullMessage buf)
    (delivered : DeliveredToSelf { toConfig := cfg, toWorld := event.world } d peer refhim datagram buf found c)
    (ahead : Before (found.tunnel (found.call c).container).controlRecSeqNum (controlHdr buf.mem).Ns)
    (moved : next cfg d event = some d') : DroppedOnSelf found d' c := by
  have other := before_other _ _ (.inr ahead)
  have kept (cal : Call) (number : Nat) :
    ({ afterAhead (found.tunnel (found.call c).container) { cal with cid := number }
      with cid := 0 } : Call) = { afterAhead (found.tunnel (found.call c).container) cal with cid := 0 } := by
    unfold afterAhead
    split <;> rfl
  rw [next_special cfg d d' found event peer refhim datagram buf c occurs full delivered other moved,
    isOld_ahead _ _ ahead,
    checkedCall_ahead buf _ _ full ahead, kept]
  simp [DroppedOnSelf]

-- In every run, every message behind the expected one is answered once and every
-- message ahead of it not at all, if and only if each is seen in place.
theorem duplicates_reacknowledged (cfg : Config) (deflns : Option Lns) (lnslist : List Lns) (deflac : Option Lac)
    (laclist : List Lac) {visits : List (Daemon × Event)} {finish : Daemon}
    (run : Run (next cfg) (initDaemon deflns lnslist deflac laclist) visits finish) :
    Run.Meets (ReAcknowledges cfg) visits ↔ Run.Meets (SeenInPlace cfg) visits := by
  constructor
  · intro answers visit member peer refhim datagram buf found c occurs full
    obtain ⟨_, d', _, _, moved⟩ := Run.visit_split run visit member
    obtain ⟨onCall, onSelf⟩ := answers visit member peer refhim datagram buf found c d' occurs full moved
    constructor
    · intro delivered
      obtain ⟨once, never⟩ := onCall delivered
      exact ⟨fun behind => (behind_answered cfg _ d' found _ peer refhim datagram buf c occurs full delivered behind
        moved).mp
          (once behind),
        fun ahead => (ahead_dropped cfg _ d' found _ peer refhim datagram buf c occurs full delivered ahead moved).mp
          (never ahead)⟩
    · intro delivered behind
      exact (behind_answered_special cfg _ d' found _ peer refhim datagram buf c occurs full delivered behind moved).mp
        ((onSelf delivered).1 behind)
  · intro places visit member peer refhim datagram buf found c d' occurs full moved
    obtain ⟨onCall, onSelf⟩ := places visit member peer refhim datagram buf found c occurs full
    constructor
    · intro delivered
      obtain ⟨inPlace, clear⟩ := onCall delivered
      exact ⟨fun behind => (behind_answered cfg _ d' found _ peer refhim datagram buf c occurs full delivered behind
        moved).mpr
          (inPlace behind),
        fun ahead => (ahead_dropped cfg _ d' found _ peer refhim datagram buf c occurs full delivered ahead moved).mpr
          (clear ahead)⟩
    · intro delivered
      exact ⟨fun behind =>
          (behind_answered_special cfg _ d' found _ peer refhim datagram buf c occurs full delivered behind moved).mpr
            (onSelf delivered behind),
        fun ahead => ahead_dropped_special cfg _ d' found _ peer refhim datagram buf c occurs full delivered ahead
          moved⟩

-- A tunnel we started, and Hellos of its peer: the first of them, the same one
-- again, and one from the other side of the wrap.
def startTunnelEvent : Event := ⟨plainWorld, .command (.tunnel (text "peer"))⟩

def helloEvent (ns : U16) : Event := ⟨plainWorld, controlFrame 513 0 ns 1 (addMessageTypeAvp .Hello)⟩

def helloBuffer (ns : U16) : RecvBuffer :=
  ⟨fixHdr (ControlHdr.wire ⟨0xC802, 20, 513, 0, ns, 1⟩ ++ addMessageTypeAvp .Hello), 20⟩

-- What a Hello meets.
structure HelloScene (d : Daemon) (ns rec' : U16) : Prop where
  lookup : getCall plainEnv 513 0 ⟨1, udpListenPort⟩ 0 d = some (some 1, d)
  container : (d.call 1).container = 0
  expects : (d.tunnel 0).controlRecSeqNum = rec'
  clear : (d.call 1).cnu = false
  moves : (next plainConfig d (helloEvent ns)).isSome = true

def helloSceneSeen (ns rec' : U16) (d : Daemon) : Bool :=
  (getCall plainEnv 513 0 ⟨1, udpListenPort⟩ 0 d).map Prod.fst == some (some 1) && (d.call 1).container == 0 &&
    (d.tunnel 0).controlRecSeqNum == rec' && !(d.call 1).cnu && (next plainConfig d (helloEvent ns)).isSome

theorem helloScene_of_seen (d : Daemon) (ns rec' : U16)
    (seen : helloSceneSeen ns rec' d = true) : HelloScene d ns rec' := by
  simp only [helloSceneSeen, Bool.and_eq_true, beq_iff_eq, Bool.not_eq_true'] at seen
  obtain ⟨⟨⟨⟨looked, container⟩, expects⟩, clear⟩, moves⟩ := seen
  obtain ⟨⟨answer, same⟩, lookup, rfl⟩ := Option.map_eq_some_iff.mp looked
  rw [getCall_same plainEnv 513 0 ⟨1, udpListenPort⟩ 0 d same _ (by decide) lookup] at lookup
  exact ⟨lookup, container, expects, clear, moves⟩

theorem helloBuffer_delivered (d : Daemon) (ns rec' : U16) (scene : HelloScene d ns rec')
    (ids : extract (helloBuffer ns).mem = (513, 0)) :
    Delivered plainEnv d ⟨1, udpListenPort⟩ 0
      ⟨ControlHdr.wire ⟨0xC802, 20, 513, 0, ns, 1⟩ ++ addMessageTypeAvp .Hello, 20⟩ (helloBuffer ns) d 1 := by
  refine ⟨show minPayloadHdrLen ≤ 20 by decide, rfl, ?_⟩
  rw [ids]
  exact scene.lookup

theorem hello_inPlace (d : Daemon) (ns rec' : U16) (scene : HelloScene d ns rec')
    (ids : extract (helloBuffer ns).mem = (513, 0)) (number : (controlHdr (helloBuffer ns).mem).Ns = ns)
    (early : Before ns rec' → ns.toNat < rec'.toNat) : SeenInPlace plainConfig d (helloEvent ns) := by
  intro peer refhim datagram buf found c occurs full
  injection occurs with samePeer sameRef sameData
  subst samePeer sameRef sameData
  constructor
  · intro delivered
    obtain rfl : buf = helloBuffer ns := delivered.header
    obtain ⟨here, rfl⟩ := Prod.mk.inj (Option.some.inj
      ((helloBuffer_delivered d ns rec' scene ids).lookup.symm.trans delivered.lookup))
    obtain rfl := Option.some.inj here
    rw [scene.container, scene.expects, number]
    refine ⟨fun behind => .inl ⟨?_, scene.clear⟩, fun _ => scene.clear⟩
    rw [scene.container, scene.expects]
    exact early behind
  · intro delivered
    obtain rfl : buf = helloBuffer ns := delivered.header
    obtain ⟨here, _⟩ := Prod.mk.inj (Option.some.inj
      ((helloBuffer_delivered d ns rec' scene ids).lookup.symm.trans delivered.lookup))
    cases here

theorem start_inPlace (d : Daemon) : SeenInPlace plainConfig d startTunnelEvent := by
  intro peer refhim datagram buf found c occurs
  cases occurs

theorem hello_again (ns : U16) (known : ns = 0 ∨ ns = 65535) : ∃ d₁ d₂,
    Run (next plainConfig) (initDaemon none [] none [])
      [(initDaemon none [] none [], startTunnelEvent), (d₁, helloEvent 0)] d₂ ∧
    HelloScene d₁ 0 0 ∧ HelloScene d₂ ns 1 := by
  have seen : (next plainConfig (initDaemon none [] none []) startTunnelEvent).any (fun d₁ =>
      helloSceneSeen 0 0 d₁ && (next plainConfig d₁ (helloEvent 0)).any (helloSceneSeen ns 1)) = true := by
    rcases known with rfl | rfl <;> decide +kernel
  obtain ⟨d₁, started, facts⟩ := (Option.any_eq_true _ _).mp seen
  obtain ⟨first, again⟩ := (Bool.and_eq_true _ _).mp facts
  obtain ⟨d₂, greeted, second⟩ := (Option.any_eq_true _ _).mp again
  have run := Run.start.snoc [] _ _ startTunnelEvent started
  exact ⟨d₁, d₂, run.snoc _ _ _ (helloEvent 0) greeted, helloScene_of_seen d₁ 0 0 first,
    helloScene_of_seen d₂ ns 1 second⟩

-- The second Hello 0 is answered once.
theorem duplicates_reacknowledged_hello : ∃ d₁ d₂, HelloScene d₂ 0 1 ∧ Run.Meets (ReAcknowledges plainConfig)
    [(initDaemon none [] none [], startTunnelEvent), (d₁, helloEvent 0), (d₂, helloEvent 0)] := by
  obtain ⟨d₁, d₂, run, first, second⟩ := hello_again 0 (.inl rfl)
  obtain ⟨d', moved⟩ := Option.isSome_iff_exists.mp second.moves
  refine ⟨d₁, d₂, second, (duplicates_reacknowledged plainConfig none [] none [] (run.snoc _ _ _ _ moved)).mpr ?_⟩
  intro visit member
  rcases List.mem_append.mp member with earlier | last
  · rcases List.mem_cons.mp earlier with rfl | later
    · exact start_inPlace _
    · obtain rfl := List.mem_singleton.mp later
      exact hello_inPlace d₁ 0 0 first (by decide) (by decide) (fun behind => absurd behind (before_irrefl 0))
  · obtain rfl := List.mem_singleton.mp last
    exact hello_inPlace d₂ 0 1 second (by decide) (by decide) (fun _ => by decide)

-- A Hello 65535 precedes the expected 1 by two, and no ZLB goes out for it.
theorem duplicate_unanswered : ¬ ∀ (cfg : Config) (deflns : Option Lns) (lnslist : List Lns) (deflac : Option Lac)
    (laclist : List Lac) (visits : List (Daemon × Event)) (finish : Daemon),
    Run (next cfg) (initDaemon deflns lnslist deflac laclist) visits finish →
      Run.Meets (ReAcknowledges cfg) visits := by
  intro claimed
  obtain ⟨d₁, d₂, run, _, scene⟩ := hello_again 65535 (.inr rfl)
  obtain ⟨d', moved⟩ := Option.isSome_iff_exists.mp scene.moves
  have delivered := helloBuffer_delivered d₂ 65535 1 scene (by decide)
  have full : FullMessage (helloBuffer 65535) := ⟨by decide, by decide, by decide⟩
  have behind : Before (controlHdr (helloBuffer 65535).mem).Ns (d₂.tunnel (d₂.call 1).container).controlRecSeqNum := by
    rw [scene.container, scene.expects]
    decide
  have answered := ((claimed plainConfig none [] none [] _ _ (run.snoc _ _ _ _ moved) (d₂, helloEvent 65535)
    (by simp) _ _ _ _ _ _ d' rfl
    full moved).1 delivered).1 behind
  rcases (behind_answered plainConfig d₂ d' d₂ (helloEvent 65535) _ _ _ _ 1 rfl full delivered behind moved).mp
    answered with
    ⟨early, _⟩ | ⟨_, pending, _⟩
  · rw [scene.container, scene.expects] at early
    revert early
    decide
  · rw [scene.clear] at pending
    cases pending

end ZyAgf.Xl2tpd
