import ZyAgf.Xl2tpd.Daemon

set_option autoImplicit false

namespace ZyAgf.Xl2tpd

open Serial

-- What check_control and its callers do to a tunnel and a call, as functions of
-- the message and of the two records alone.
def wellSized (buf : RecvBuffer) : Bool := controlHdrSize ≤ buf.len && buf.len == (controlHdr buf.mem).length.toNat

def isZlb (buf : RecvBuffer) : Bool := buf.len == controlHdrSize

def inOrder (buf : RecvBuffer) (tun : Tunnel) : Bool := wellSized buf && (controlHdr buf.mem).Ns == tun.controlRecSeqNum

def inOrderOk (buf : RecvBuffer) (tun : Tunnel) : Bool :=
  inOrder buf tun && !(tun.sanity && !flagsOk (controlHdr buf.mem).ver)

def answersOld (buf : RecvBuffer) (tun : Tunnel) : Bool :=
  wellSized buf && !inOrder buf tun && isOld (controlHdr buf.mem).Ns tun.controlRecSeqNum && !isZlb buf

-- A tunnel that was made only for this message, which came too early.
def givenUp (buf : RecvBuffer) (tun : Tunnel) : Bool :=
  wellSized buf && !inOrder buf tun && !isOld (controlHdr buf.mem).Ns tun.controlRecSeqNum &&
    tun.controlRecSeqNum == 0 && tun.tid == -1

def ackAfter (buf : RecvBuffer) (tun : Tunnel) : U16 := if inOrder buf tun then (controlHdr buf.mem).Nr else tun.cLr

def checkedTunnel (buf : RecvBuffer) (tun : Tunnel) : Tunnel :=
  if inOrder buf tun then { tun with controlRecSeqNum := tun.controlRecSeqNum + 1, cLr := (controlHdr buf.mem).Nr }
    else tun

def checkedCall (buf : RecvBuffer) (tun : Tunnel) (cal : Call) : Call :=
  if inOrder buf tun then { cal with cnu := true }
  else if givenUp buf tun then { cal with needclose := false, closing := true }
  else cal

def zlb (tun : Tunnel) (cal : Call) : Output :=
  .udp tun.peer (ControlHdr.wire ⟨0xC802, BitVec.ofNat 16 controlHdrSize, BitVec.ofInt 16 tun.tid,
    BitVec.ofInt 16 cal.cid,
    tun.controlSeqNum, tun.controlRecSeqNum⟩)

theorem write_same_address {A : Type} (store : Nat → A) (p : Nat) (a b : A) : write
    (write store p a) p b = write store p b := by
  funext q
  unfold write
  split <;> rfl

theorem write_self {A : Type} (store : Nat → A) (p : Nat) : write store p (store p) = store := by
  funext q
  unfold write
  split
  next here => rw [here]
  next => rfl

theorem controlZlb_some (t : TunnelPtr) (c : CallPtr) (d d' : Daemon) (u : PUnit)
    (ran : controlZlb t c d = some (u, d')) :
    d' = { d with out := d.out ++ [zlb (d.tunnel t) (d.call c)] } := by
  unfold controlZlb addControlHdr udpXmit at ran
  simp only [Prog.bind_some, readTunnel_some, readCall_some, setTunnel_some, Prog.pure_some, emit_some] at ran
  obtain ⟨_, _, ⟨live, rfl, rfl⟩, _, _, ⟨_, _, ⟨_, rfl, rfl⟩, _, _, ⟨_, rfl, rfl⟩, _, _, ⟨_, rfl⟩, rfl, rfl⟩, _, _,
    ⟨_, rfl⟩, _, _, ⟨_, rfl, rfl⟩, rfl⟩ := ran
  simp only [write_here, write_same_address, BitVec.add_sub_cancel, write_self]
  rfl

theorem outOfOrder_some (buf : RecvBuffer) (t : TunnelPtr) (c : CallPtr) (d d' : Daemon) (u : PUnit)
    (sized : wellSized buf = true) (other : (controlHdr buf.mem).Ns ≠ (d.tunnel t).controlRecSeqNum)
    (ran : outOfOrder buf t c d = some (u, d')) :
    d' = { d with
      call := write d.call c (checkedCall buf (d.tunnel t) (d.call c))
      out := d.out ++ if answersOld buf (d.tunnel t) then [zlb (d.tunnel t) (d.call c)] else [] } := by
  have late : inOrder buf (d.tunnel t) = false := by simp [inOrder, other]
  unfold outOfOrder at ran
  obtain ⟨tun, d₁, read, ran⟩ := (Prog.bind_some _ _ _ _ _).mp ran
  obtain ⟨_, rfl, rfl⟩ := (readTunnel_some _ _ _ _).mp read
  split at ran
  next old =>
    have kept : checkedCall buf (d₁.tunnel t) (d₁.call c) = d₁.call c := by simp [checkedCall, late, givenUp, old]
    rw [kept, write_self]
    unfold Prog.onlyWhen at ran
    split at ran
    next full =>
      have answered : answersOld buf (d₁.tunnel t) = true := by simp [answersOld, sized, late, old, isZlb, full]
      rw [if_pos answered]
      exact controlZlb_some t c d₁ d' u ran
    next empty =>
      have silent : ¬ answersOld buf (d₁.tunnel t) = true := by simp [answersOld, isZlb, not_not.mp empty]
      obtain ⟨_, rfl⟩ := (Prog.pure_some _ _ _ _).mp ran
      rw [if_neg silent, List.append_nil]
  next ahead =>
    have silent : ¬ answersOld buf (d₁.tunnel t) = true := by simp [answersOld, ahead]
    rw [if_neg silent, List.append_nil]
    unfold Prog.onlyWhen at ran
    split at ran
    next fresh =>
      have given : givenUp buf (d₁.tunnel t) = true := by
        simp only [givenUp, sized, late, eq_false_of_ne_true ahead, beq_iff_eq.mpr fresh.1, beq_iff_eq.mpr fresh.2,
          Bool.not_false, Bool.and_true]
      obtain ⟨_, rfl⟩ := (setCall_some _ _ _ _ _).mp ran
      simp only [checkedCall, late, given, Bool.false_eq_true, if_false, if_true]
    next known =>
      have kept : checkedCall buf (d₁.tunnel t) (d₁.call c) = d₁.call c := by
        simp only [checkedCall, late, givenUp, Bool.false_eq_true, if_false]
        rw [if_neg]
        simpa [sized, ahead] using known
      obtain ⟨_, rfl⟩ := (Prog.pure_some _ _ _ _).mp ran
      rw [kept, write_self]

theorem checkControl_some (buf : RecvBuffer) (t : TunnelPtr) (c : CallPtr) (d d' : Daemon) (bad : Int)
    (ran : checkControl buf t c d = some (bad, d')) :
    (bad = 0 ↔ inOrderOk buf (d.tunnel t) = true) ∧
      d' = { d with
        tunnel := write d.tunnel t (checkedTunnel buf (d.tunnel t))
        call := write d.call c (checkedCall buf (d.tunnel t) (d.call c))
        out := d.out ++ if answersOld buf (d.tunnel t) then [zlb (d.tunnel t) (d.call c)] else [] } := by
  have untouched : wellSized buf = false → (einval = 0 ↔ inOrderOk buf (d.tunnel t) = true) ∧
      d = { d with
        tunnel := write d.tunnel t (checkedTunnel buf (d.tunnel t))
        call := write d.call c (checkedCall buf (d.tunnel t) (d.call c))
        out := d.out ++ if answersOld buf (d.tunnel t) then [zlb (d.tunnel t) (d.call c)] else [] } := by
    intro illSized
    have notInOrder : inOrder buf (d.tunnel t) = false := by simp [inOrder, illSized]
    simp [inOrderOk, notInOrder, einval, checkedTunnel, checkedCall, answersOld, givenUp, illSized, write_self]
  unfold checkControl at ran
  split at ran
  next short =>
    obtain ⟨rfl, rfl⟩ := (Prog.pure_some _ _ _ _).mp ran
    exact untouched (by simp [wellSized]; omega)
  next long =>
    split at ran
    next wrong =>
      obtain ⟨rfl, rfl⟩ := (Prog.pure_some _ _ _ _).mp ran
      exact untouched (by simp [wellSized, wrong])
    next right =>
      have sized : wellSized buf = true := by
        simp only [wellSized, Bool.and_eq_true, decide_eq_true_eq, beq_iff_eq]
        exact ⟨by omega, not_not.mp right⟩
      obtain ⟨tun, d₁, read, ran⟩ := (Prog.bind_some _ _ _ _ _).mp ran
      obtain ⟨_, rfl, rfl⟩ := (readTunnel_some _ _ _ _).mp read
      split at ran
      next other =>
        have late : inOrder buf (d₁.tunnel t) = false := by simp [inOrder, other]
        obtain ⟨_, d₂, dropped, ran⟩ := (Prog.bind_some _ _ _ _ _).mp ran
        obtain ⟨rfl, rfl⟩ := (Prog.pure_some _ _ _ _).mp ran
        have same : checkedTunnel buf (d₁.tunnel t) = d₁.tunnel t := by simp [checkedTunnel, late]
        rw [same, write_self]
        exact ⟨by simp [inOrderOk, late, einval], outOfOrder_some buf t c d₁ d₂ _ sized other dropped⟩
      next same =>
        have expected : inOrder buf (d₁.tunnel t) = true := by simp [inOrder, sized, not_not.mp same]
        simp only [Prog.bind_some, setTunnel_some, setCall_some, Prog.pure_some] at ran
        obtain ⟨_, _, ⟨_, rfl⟩, _, _, ⟨_, rfl⟩, _, _, ⟨_, rfl⟩, rfl, rfl⟩ := ran
        constructor
        · by_cases flagged : (d₁.tunnel t).sanity = true ∧ ¬ flagsOk (controlHdr buf.mem).ver = true
          · rw [if_pos flagged]
            simp [inOrderOk, expected, flagged, einval]
          · rw [if_neg flagged]
            cases sane : (d₁.tunnel t).sanity with
            | false => simp [inOrderOk, expected, sane]
            | true =>
                have plain : flagsOk (controlHdr buf.mem).ver = true := by simpa [sane] using flagged
                simp [inOrderOk, expected, plain]
        · simp [checkedTunnel, checkedCall, expected, answersOld, write_same_address]

theorem acknowledge_some (c : CallPtr) (d d' : Daemon) (u : PUnit) (ran : acknowledge c d = some (u, d')) :
    d' = { d with
      call := write d.call c { d.call c with cnu := false }
      out := d.out ++ if (d.call c).cnu then [zlb (d.tunnel (d.call c).container) (d.call c)] else [] } := by
  unfold acknowledge at ran
  obtain ⟨cal, d₁, read, ran⟩ := (Prog.bind_some _ _ _ _ _).mp ran
  obtain ⟨_, rfl, rfl⟩ := (readCall_some _ _ _ _).mp read
  unfold Prog.onlyWhen at ran
  split at ran
  next due =>
    obtain ⟨_, d₂, sent, ran⟩ := (Prog.bind_some _ _ _ _ _).mp ran
    obtain rfl := controlZlb_some _ _ _ _ _ sent
    obtain ⟨_, rfl⟩ := (setCall_some _ _ _ _ _).mp ran
    rw [if_pos due]
  next clear =>
    obtain ⟨_, rfl⟩ := (Prog.pure_some _ _ _ _).mp ran
    have same : { d₁.call c with cnu := false } = d₁.call c := by
      rw [← eq_false_of_ne_true clear]
    rw [same, write_self, if_neg clear, List.append_nil]

theorem findOurcid_same (ourcid : Nat) (calls : List CallPtr) (d d' : Daemon) (found : Option CallPtr)
    (ran : findOurcid ourcid calls d = some (found, d')) : d' = d := by
  induction calls with
  | nil => exact ((Prog.pure_some _ _ _ _).mp ran).2.symm
  | cons c rest ih =>
      rw [findOurcid] at ran
      obtain ⟨cal, d₁, read, ran⟩ := (Prog.bind_some _ _ _ _ _).mp ran
      obtain ⟨_, rfl, rfl⟩ := (readCall_some _ _ _ _).mp read
      split at ran
      next => exact ((Prog.pure_some _ _ _ _).mp ran).2.symm
      next => exact ih ran

theorem findSecure_same (env : Env) (tunnel refhim : Nat) (tunnels : List TunnelPtr) (d d' : Daemon)
    (found : Option TunnelPtr) (ran : findSecure env tunnel refhim tunnels d = some (found, d')) : d' = d := by
  induction tunnels with
  | nil => exact ((Prog.pure_some _ _ _ _).mp ran).2.symm
  | cons t rest ih =>
      rw [findSecure] at ran
      obtain ⟨tun, d₁, read, ran⟩ := (Prog.bind_some _ _ _ _ _).mp ran
      obtain ⟨_, rfl, rfl⟩ := (readTunnel_some _ _ _ _).mp read
      split at ran
      next => exact ((Prog.pure_some _ _ _ _).mp ran).2.symm
      next => exact ih ran

theorem getCall_same (env : Env) (tunnel call : Nat) (peer : SockAddr) (refhim : Nat) (d d' : Daemon)
    (found : Option CallPtr) (numbered : tunnel ≠ 0) (ran : getCall env tunnel call peer refhim d = some (found, d')) :
    d' = d := by
  unfold getCall at ran
  rw [if_neg numbered] at ran
  obtain ⟨_, _, got, ran⟩ := (Prog.bind_some _ _ _ _ _).mp ran
  obtain ⟨rfl, rfl⟩ := (Prog.get_some _ _ _).mp got
  obtain ⟨answer, d₁, looked, ran⟩ := (Prog.bind_some _ _ _ _ _).mp ran
  obtain rfl := findSecure_same _ _ _ _ _ _ _ looked
  cases answer with
  | none => exact ((Prog.pure_some _ _ _ _).mp ran).2.symm
  | some t =>
      obtain ⟨tun, d₂, read, ran⟩ := (Prog.bind_some _ _ _ _ _).mp ran
      obtain ⟨_, rfl, rfl⟩ := (readTunnel_some _ _ _ _).mp read
      split at ran
      next => exact ((Prog.pure_some _ _ _ _).mp ran).2.symm
      next => exact findOurcid_same _ _ _ _ _ ran

-- A datagram that get_call finds an entry for, with the state it finds it in: a
-- packet for no tunnel makes one.
structure Delivered (env : Env) (d : Daemon) (peer : SockAddr) (refhim : Nat) (datagram : RecvBuffer) (buf : RecvBuffer)
    (found : Daemon) (c : CallPtr) : Prop where
  long : minPayloadHdrLen ≤ datagram.len
  header : buf = { datagram with mem := fixHdr datagram.mem }
  lookup : getCall env (extract buf.mem).1 (extract buf.mem).2 peer refhim d = some (some c, found)

theorem receive_delivered (env : Env) (d d' found : Daemon) (peer : SockAddr) (refhim : Nat) (datagram buf : RecvBuffer)
    (c : CallPtr) (u : PUnit) (delivered : Delivered env d peer refhim datagram buf found c)
    (ran : receive env peer refhim datagram d = some (u, d')) : receiveOnCall env buf c found = some (u, d') := by
  unfold receive at ran
  rw [if_neg (by have long := delivered.long; omega)] at ran
  rw [← delivered.header] at ran
  obtain ⟨answer, d₁, looked, ran⟩ := (Prog.bind_some _ _ _ _ _).mp ran
  obtain ⟨rfl, rfl⟩ := Prod.mk.inj (Option.some.inj (looked.symm.trans delivered.lookup))
  exact ran

def withoutVector (tun : Tunnel) : Tunnel := { tun with chalUs := { tun.chalUs with vector := none } }

-- Nothing that is asked of a tunnel here looks at its Random Vector.
section WithoutVector

variable (buf : RecvBuffer) (tun : Tunnel) (cal : Call)

@[simp] theorem inOrderOk_withoutVector : inOrderOk buf (withoutVector tun) = inOrderOk buf tun := rfl
@[simp] theorem answersOld_withoutVector : answersOld buf (withoutVector tun) = answersOld buf tun := rfl
@[simp] theorem checkedCall_withoutVector : checkedCall buf (withoutVector tun) cal = checkedCall buf tun cal := rfl
@[simp] theorem zlb_withoutVector : zlb (withoutVector tun) cal = zlb tun cal := rfl

@[simp] theorem checkedTunnel_withoutVector :
    checkedTunnel buf (withoutVector tun) = withoutVector (checkedTunnel buf tun) := by
  unfold checkedTunnel
  rw [apply_ite withoutVector]
  rfl

end WithoutVector

theorem receiveOnCall_some (env : Env) (buf : RecvBuffer) (c : CallPtr) (d d' : Daemon) (u : PUnit)
    (ran : receiveOnCall env buf c d = some (u, d')) : ∃ result handled,
      handlePacket env buf (d.call c).container c { d with
        tunnel := write d.tunnel (d.call c).container (withoutVector (d.tunnel (d.call c).container)) } =
        some (result, handled) ∧ acknowledge c handled = some (u, d') := by
  unfold receiveOnCall at ran
  obtain ⟨cal, d₁, read, ran⟩ := (Prog.bind_some _ _ _ _ _).mp ran
  obtain ⟨_, rfl, rfl⟩ := (readCall_some _ _ _ _).mp read
  obtain ⟨_, d₂, dropped, ran⟩ := (Prog.bind_some _ _ _ _ _).mp ran
  obtain ⟨_, rfl⟩ := (setTunnel_some _ _ _ _ _).mp dropped
  obtain ⟨result, handled, took, ran⟩ := (Prog.bind_some _ _ _ _ _).mp ran
  exact ⟨result, handled, took, ran⟩

theorem handlePacket_control (env : Env) (buf : RecvBuffer) (t : TunnelPtr) (c : CallPtr)
    (control : CTBIT (hostWord buf.mem 0) = true) : handlePacket env buf t c = handleControl env buf t c := by
  unfold handlePacket
  rw [if_pos control]

theorem handleControl_refused (env : Env) (buf : RecvBuffer) (t : TunnelPtr) (c : CallPtr) (d d' : Daemon)
    (result : Int)
    (refused : inOrderOk buf (d.tunnel t) = false) (ran : handleControl env buf t c d = some (result, d')) :
    d' = { d with
      tunnel := write d.tunnel t (checkedTunnel buf (d.tunnel t))
      call := write d.call c (checkedCall buf (d.tunnel t) (d.call c))
      out := d.out ++ if answersOld buf (d.tunnel t) then [zlb (d.tunnel t) (d.call c)] else [] } := by
  unfold handleControl at ran
  obtain ⟨bad, d₁, checked, ran⟩ := (Prog.bind_some _ _ _ _ _).mp ran
  obtain ⟨verdict, moved⟩ := checkControl_some buf t c d d₁ bad checked
  have failed : bad ≠ 0 := by
    intro none
    rw [verdict, refused] at none
    cases none
  rw [if_pos failed] at ran
  obtain ⟨_, rfl⟩ := (Prog.pure_some _ _ _ _).mp ran
  exact moved

def zlbTaken (cal : Call) (ack : U16) : Call :=
  { cal with
    msgtype := -1
    cnu := false
    needclose := cal.needclose && !(cal.closing && decide (cal.closeSs.toNat ≤ ack.toNat)) }

theorem handleControl_zlb (env : Env) (buf : RecvBuffer) (t : TunnelPtr) (c : CallPtr) (d d' : Daemon) (result : Int)
    (passed : inOrderOk buf (d.tunnel t) = true) (empty : isZlb buf = true)
    (ran : handleControl env buf t c d = some (result, d')) :
    d' = { d with
      tunnel := write d.tunnel t { d.tunnel t with cLr := (controlHdr buf.mem).Nr }
      call := write d.call c (zlbTaken (d.call c) (controlHdr buf.mem).Nr) } := by
  have expected : inOrder buf (d.tunnel t) = true := by
    simp only [inOrderOk, Bool.and_eq_true] at passed
    exact passed.1
  have silent : ¬ answersOld buf (d.tunnel t) = true := by simp [answersOld, expected]
  have short : buf.len = controlHdrSize := by simpa [isZlb] using empty
  unfold handleControl at ran
  obtain ⟨bad, d₁, checked, ran⟩ := (Prog.bind_some _ _ _ _ _).mp ran
  obtain ⟨verdict, rfl⟩ := checkControl_some buf t c d d₁ bad checked
  rw [if_neg (not_not_intro (verdict.mpr passed))] at ran
  obtain ⟨_, d₂, noted, ran⟩ := (Prog.bind_some _ _ _ _ _).mp ran
  obtain ⟨_, rfl⟩ := (setCall_some _ _ _ _ _).mp noted
  rw [if_pos short] at ran
  obtain ⟨_, d₃, took, ran⟩ := (Prog.bind_some _ _ _ _ _).mp ran
  obtain ⟨_, rfl⟩ := (Prog.pure_some _ _ _ _).mp ran
  unfold takeZlb at took
  simp only [Prog.bind_some, setTunnel_some, readTunnel_some, setCall_some] at took
  obtain ⟨_, _, ⟨_, rfl⟩, _, _, ⟨_, rfl, rfl⟩, _, rfl⟩ := took
  rw [if_neg silent, List.append_nil]
  simp only [write_here, write_same_address, checkedTunnel, checkedCall, expected, if_true, BitVec.add_sub_cancel]
  rfl

theorem zlb_cid (tun : Tunnel) (cal other : Call) (same : cal.cid = other.cid) : zlb tun cal = zlb tun other := by
  unfold zlb
  rw [same]

theorem checkedCall_rest (buf : RecvBuffer) (tun : Tunnel) (cal : Call) :
    (checkedCall buf tun cal).cid = cal.cid ∧ (checkedCall buf tun cal).container = cal.container := by
  unfold checkedCall
  split
  · exact ⟨rfl, rfl⟩
  · split <;> exact ⟨rfl, rfl⟩

theorem next_refused (cfg : Config) (d d' found : Daemon) (event : Event) (peer : SockAddr) (refhim : Nat)
    (datagram buf : RecvBuffer) (c : CallPtr) (occurs : event.occurs = .datagram peer refhim datagram)
    (delivered : Delivered { toConfig := cfg, toWorld := event.world } d peer refhim datagram buf found c)
    (control : CTBIT (hostWord buf.mem 0) = true)
    (refused : inOrderOk buf (found.tunnel (found.call c).container) = false) (moved : next cfg d event = some d') :
    d' = { found with
      tunnel := write found.tunnel (found.call c).container
        (withoutVector (checkedTunnel buf (found.tunnel (found.call c).container)))
      call := write found.call c
        { checkedCall buf (found.tunnel (found.call c).container) (found.call c) with cnu := false }
      out := found.out ++
        (if answersOld buf (found.tunnel (found.call c).container)
          then [zlb (found.tunnel (found.call c).container) (found.call c)] else []) ++
        if (checkedCall buf (found.tunnel (found.call c).container) (found.call c)).cnu
          then [zlb (checkedTunnel buf (found.tunnel (found.call c).container)) (found.call c)] else [] } := by
  unfold next at moved
  rw [occurs] at moved
  obtain ⟨⟨u, after⟩, ran, rfl⟩ := Option.map_eq_some_iff.mp moved
  have received := receive_delivered _ d after found peer refhim datagram buf c u delivered ran
  obtain ⟨result, handled, took, acked⟩ := receiveOnCall_some _ buf c found after u received
  rw [handlePacket_control _ _ _ _ control] at took
  have unchecked := handleControl_refused _ buf _ c _ handled result (by simpa using refused) took
  obtain ⟨sameCid, sameContainer⟩ := checkedCall_rest buf (found.tunnel (found.call c).container) (found.call c)
  rw [acknowledge_some c handled after u acked, unchecked]
  simp only [write_here, write_same_address, answersOld_withoutVector, checkedTunnel_withoutVector, zlb_withoutVector,
    checkedCall_withoutVector, sameContainer, zlb_cid _ _ (found.call c) sameCid]

theorem next_zlb (cfg : Config) (d d' found : Daemon) (event : Event) (peer : SockAddr) (refhim : Nat)
    (datagram buf : RecvBuffer) (c : CallPtr) (occurs : event.occurs = .datagram peer refhim datagram)
    (delivered : Delivered { toConfig := cfg, toWorld := event.world } d peer refhim datagram buf found c)
    (control : CTBIT (hostWord buf.mem 0) = true) (empty : isZlb buf = true)
    (passed : inOrderOk buf (found.tunnel (found.call c).container) = true) (moved : next cfg d event = some d') :
    d' = { found with
      tunnel := write found.tunnel (found.call c).container
        { withoutVector (found.tunnel (found.call c).container) with cLr := (controlHdr buf.mem).Nr }
      call := write found.call c (zlbTaken (found.call c) (controlHdr buf.mem).Nr) } := by
  unfold next at moved
  rw [occurs] at moved
  obtain ⟨⟨u, after⟩, ran, rfl⟩ := Option.map_eq_some_iff.mp moved
  have received := receive_delivered _ d after found peer refhim datagram buf c u delivered ran
  obtain ⟨result, handled, took, acked⟩ := receiveOnCall_some _ buf c found after u received
  rw [handlePacket_control _ _ _ _ control] at took
  have taken := handleControl_zlb _ buf _ c _ handled result (by simpa using passed) empty took
  rw [acknowledge_some c handled after u acked, taken]
  simp [write_same_address, zlbTaken]

end ZyAgf.Xl2tpd
