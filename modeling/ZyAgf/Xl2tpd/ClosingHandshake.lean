import ZyAgf.Xl2tpd.ControlChannel

set_option autoImplicit false

namespace ZyAgf.Xl2tpd

open Serial

-- An entry that has sent its closing message waits with both flags set, and the
-- number that message went out under.
def Waiting (cal : Call) : Prop := cal.needclose = true ∧ cal.closing = true

-- A ZLB that reaches a waiting entry ends the wait exactly when the tunnel's
-- acknowledgement is then past the closing message.
def EndsWhenCovered (cfg : Config) (d : Daemon) (event : Event) : Prop :=
  ∀ peer refhim datagram buf found c d', event.occurs = .datagram peer refhim datagram →
    Delivered { toConfig := cfg, toWorld := event.world } d peer refhim datagram buf found c →
    CTBIT (hostWord buf.mem 0) = true → isZlb buf = true → Waiting (found.call c) → next cfg d event = some d' →
    ((d'.call c).needclose = false ↔ Before (found.call c).closeSs (d'.tunnel (found.call c).container).cLr)

-- Where the plain comparison closeSs <= Nr and the serial order say the same:
-- the closing message itself is not yet covered by its own number, and the two
-- do not lie on different sides of the wrap.
def ReadAlike (closeSs nr : U16) : Prop :=
  nr ≠ closeSs ∧ nr.toNat < closeSs.toNat + 32768 ∧ closeSs.toNat ≤ nr.toNat + 32768

-- A ZLB that check_control refuses changes no flags, unless the tunnel was made
-- for it and is given up.
def AckReadRight (buf : RecvBuffer) (tun : Tunnel) (cal : Call) : Prop :=
  if inOrderOk buf tun then ReadAlike cal.closeSs (controlHdr buf.mem).Nr
  else (givenUp buf tun = true ↔ Before cal.closeSs (ackAfter buf tun))

def ReadsAck (cfg : Config) (d : Daemon) (event : Event) : Prop :=
  ∀ peer refhim datagram buf found c, event.occurs = .datagram peer refhim datagram →
    Delivered { toConfig := cfg, toWorld := event.world } d peer refhim datagram buf found c →
    CTBIT (hostWord buf.mem 0) = true → isZlb buf = true → Waiting (found.call c) →
    AckReadRight buf (found.tunnel (found.call c).container) (found.call c)

theorem readAlike_iff (closeSs nr : U16) :
    ReadAlike closeSs nr ↔ (closeSs.toNat ≤ nr.toNat ↔ Before closeSs nr) := by
  have ssBound := closeSs.isLt
  have nrBound := nr.isLt
  have equal : nr = closeSs ↔ nr.toNat = closeSs.toNat := BitVec.toNat_inj.symm
  unfold ReadAlike Before
  rw [Ne, equal]
  rcases Nat.lt_or_ge nr.toNat closeSs.toNat with behind | ahead
  · rw [dist_of_lt closeSs nr behind]
    omega
  · rw [dist_of_le closeSs nr ahead]
    omega

theorem checkedTunnel_cLr (buf : RecvBuffer) (tun : Tunnel) : (checkedTunnel buf tun).cLr = ackAfter buf tun := by
  unfold checkedTunnel ackAfter
  split <;> rfl

theorem checkedCall_waiting (buf : RecvBuffer) (tun : Tunnel) (cal : Call) (waiting : Waiting cal) :
    (checkedCall buf tun cal).needclose = false ↔ givenUp buf tun = true := by
  unfold checkedCall
  split
  next expected =>
    have given : givenUp buf tun = false := by simp [givenUp, expected]
    simp [waiting.1, given]
  next =>
    split
    next given => simp [given]
    next spared => simp [waiting.1, spared]

theorem zlb_ends_wait (cfg : Config) (d d' found : Daemon) (event : Event) (peer : SockAddr) (refhim : Nat)
    (datagram buf : RecvBuffer) (c : CallPtr) (occurs : event.occurs = .datagram peer refhim datagram)
    (delivered : Delivered { toConfig := cfg, toWorld := event.world } d peer refhim datagram buf found c)
    (control : CTBIT (hostWord buf.mem 0) = true) (empty : isZlb buf = true) (waiting : Waiting (found.call c))
    (moved : next cfg d event = some d') :
    ((d'.call c).needclose = false ↔ Before (found.call c).closeSs (d'.tunnel (found.call c).container).cLr) ↔
      AckReadRight buf (found.tunnel (found.call c).container) (found.call c) := by
  unfold AckReadRight
  by_cases passed : inOrderOk buf (found.tunnel (found.call c).container) = true
  · rw [if_pos passed, readAlike_iff, next_zlb cfg d d' found event peer refhim datagram buf c occurs delivered control
      empty
      passed moved]
    simp [zlbTaken, waiting.1, waiting.2]
  · rw [if_neg passed, next_refused cfg d d' found event peer refhim datagram buf c occurs delivered control
      (by simpa using passed) moved]
    simp only [write_here, checkedCall_waiting buf _ _ waiting]
    rw [← checkedTunnel_cLr]
    rfl

-- In every run, each ZLB ends a wait exactly when the closing message is covered
-- if and only if each of them is read right.
theorem closing_handshake (cfg : Config) (deflns : Option Lns) (lnslist : List Lns) (deflac : Option Lac)
    (laclist : List Lac)
    {visits : List (Daemon × Event)} {finish : Daemon}
    (run : Run (next cfg) (initDaemon deflns lnslist deflac laclist) visits finish) :
    Run.Meets (EndsWhenCovered cfg) visits ↔ Run.Meets (ReadsAck cfg) visits := by
  constructor
  · intro ends visit member peer refhim datagram buf found c occurs delivered control empty waiting
    obtain ⟨_, d', _, _, moved⟩ := Run.visit_split run visit member
    exact (zlb_ends_wait cfg _ d' found visit.2 peer refhim datagram buf c occurs delivered control empty waiting
      moved).mp
      (ends visit member peer refhim datagram buf found c d' occurs delivered control empty waiting moved)
  · intro reads visit member peer refhim datagram buf found c d' occurs delivered control empty waiting moved
    exact (zlb_ends_wait cfg _ d' found visit.2 peer refhim datagram buf c occurs delivered control empty waiting
      moved).mpr
      (reads visit member peer refhim datagram buf found c occurs delivered control empty waiting)

-- We start a tunnel and disconnect it at once: the SCCRQ is message 0 and the
-- StopCCN message 1. Then a ZLB comes in.
def hangUp : List Event :=
  [⟨plainWorld, .command (.tunnel (text "peer"))⟩, ⟨plainWorld, .command (.lacDisconnect (text "513"))⟩]

def zlbEvent (nr : U16) : Event := ⟨plainWorld, controlFrame 513 0 0 nr []⟩

def zlbBuffer (nr : U16) : RecvBuffer := ⟨fixHdr (ControlHdr.wire ⟨0xC802, 12, 513, 0, 0, nr⟩), 12⟩

-- What the ZLB meets: the tunnel's own entry, which waits for message 1.
structure HungUp (d : Daemon) (nr : U16) : Prop where
  run : Run (next plainConfig) (initDaemon none [] none [])
    (Run.trace (next plainConfig) (initDaemon none [] none []) hangUp) d
  waiting : Waiting (d.call 1)
  closeSs : (d.call 1).closeSs = 1
  container : (d.call 1).container = 0
  lookup : getCall plainEnv 513 0 ⟨1, udpListenPort⟩ 0 d = some (some 1, d)
  expected : inOrderOk (zlbBuffer nr) (d.tunnel 0) = true
  moves : (next plainConfig d (zlbEvent nr)).isSome = true

theorem hungUp (nr : U16) (one : nr = 1 ∨ nr = 2) : ∃ d, HungUp d nr := by
  have seen : (Run.play (next plainConfig) (initDaemon none [] none []) hangUp).any (fun d =>
      (d.call 1).needclose && (d.call 1).closing && (d.call 1).closeSs == 1 && (d.call 1).container == 0 &&
        (getCall plainEnv 513 0 ⟨1, udpListenPort⟩ 0 d).map Prod.fst == some (some 1) &&
        inOrderOk (zlbBuffer nr) (d.tunnel 0) && (next plainConfig d (zlbEvent nr)).isSome) = true := by
    rcases one with rfl | rfl <;> decide +kernel
  obtain ⟨d, played, facts⟩ := (Option.any_eq_true _ _).mp seen
  simp only [Bool.and_eq_true, beq_iff_eq] at facts
  obtain ⟨⟨⟨⟨⟨⟨needclose, closing⟩, closeSs⟩, container⟩, looked⟩, expected⟩, moves⟩ := facts
  obtain ⟨⟨answer, same⟩, lookup, rfl⟩ := Option.map_eq_some_iff.mp looked
  have unchanged := getCall_same plainEnv 513 0 ⟨1, udpListenPort⟩ 0 d same _ (by decide) lookup
  rw [unchanged] at lookup
  exact ⟨d, Run.of_play hangUp d played, ⟨needclose, closing⟩, closeSs, container, lookup, expected, moves⟩

theorem zlbBuffer_delivered (d : Daemon) (nr : U16) (one : nr = 1 ∨ nr = 2) (scene : HungUp d nr) :
    Delivered plainEnv d ⟨1, udpListenPort⟩ 0 ⟨ControlHdr.wire ⟨0xC802, 12, 513, 0, 0, nr⟩ ++ [], 12⟩
      (zlbBuffer nr) d 1 := by
  refine ⟨show minPayloadHdrLen ≤ 12 by decide, by rcases one with rfl | rfl <;> rfl, ?_⟩
  have ids : extract (zlbBuffer nr).mem = (513, 0) := by rcases one with rfl | rfl <;> decide
  rw [ids]
  exact scene.lookup

-- A ZLB with Nr 2 covers the StopCCN and ends the wait.
theorem closing_handshake_covered : ∃ d, HungUp d 2 ∧ Run.Meets (EndsWhenCovered plainConfig)
    (Run.trace (next plainConfig) (initDaemon none [] none []) hangUp ++ [(d, zlbEvent 2)]) := by
  obtain ⟨d, scene⟩ := hungUp 2 (.inr rfl)
  obtain ⟨d', moved⟩ := Option.isSome_iff_exists.mp scene.moves
  refine ⟨d, scene, (closing_handshake plainConfig none [] none [] (scene.run.snoc _ _ _ _ moved)).mpr ?_⟩
  rw [Run.meets_snoc]
  constructor
  · intro visit member peer refhim datagram buf found c occurs
    have listed := Run.trace_event _ hangUp visit member
    simp only [hangUp, List.mem_cons, List.not_mem_nil, or_false] at listed
    rcases listed with same | same <;> rw [same] at occurs <;> cases occurs
  · intro peer refhim datagram buf found c occurs delivered control empty waiting
    injection occurs with samePeer sameRef sameData
    subst samePeer sameRef sameData
    obtain rfl : buf = zlbBuffer 2 := delivered.header
    obtain ⟨here, rfl⟩ := Prod.mk.inj (Option.some.inj
      ((zlbBuffer_delivered d 2 (.inr rfl) scene).lookup.symm.trans delivered.lookup))
    obtain rfl := Option.some.inj here
    simp only [AckReadRight, scene.container, scene.expected, if_true, scene.closeSs]
    exact ⟨by decide, by decide, by decide⟩

-- The same ZLB with Nr 1 acknowledges the SCCRQ only, and ends the wait too.
theorem closing_handshake_early : ¬ ∀ (cfg : Config) (deflns : Option Lns) (lnslist : List Lns) (deflac : Option Lac)
    (laclist : List Lac) (visits : List (Daemon × Event)) (finish : Daemon),
    Run (next cfg) (initDaemon deflns lnslist deflac laclist) visits finish →
      Run.Meets (EndsWhenCovered cfg) visits := by
  intro claimed
  obtain ⟨d, scene⟩ := hungUp 1 (.inl rfl)
  obtain ⟨d', moved⟩ := Option.isSome_iff_exists.mp scene.moves
  have ends := claimed plainConfig none [] none [] _ _ (scene.run.snoc _ _ _ _ moved) (d, zlbEvent 1)
    (by simp) _ _ _ _ _ _ d' rfl
    (zlbBuffer_delivered d 1 (.inl rfl) scene) (by decide) (by decide) scene.waiting moved
  have passed : inOrderOk (zlbBuffer 1) (d.tunnel (d.call 1).container) = true := by
    rw [scene.container]
    exact scene.expected
  rw [next_zlb plainConfig d d' d (zlbEvent 1) _ _ _ (zlbBuffer 1) 1 rfl (zlbBuffer_delivered d 1 (.inl rfl) scene)
    (by decide)
    (by decide) passed moved] at ends
  simp only [write_here, zlbTaken, scene.waiting.1, scene.waiting.2, scene.closeSs] at ends
  revert ends
  decide

end ZyAgf.Xl2tpd
