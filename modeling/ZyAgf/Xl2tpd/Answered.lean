import ZyAgf.Xl2tpd.OwedAcks
import ZyAgf.Xl2tpd.HandledCall

set_option autoImplicit false

namespace ZyAgf.Xl2tpd

-- check_control takes the message, and it is no ZLB.
def Presentation.Accepted (p : Presentation) : Prop := inOrderOk p.buf p.tun = true ∧ isZlb p.buf = false

def AcksSent (cfg : Config) (d : Daemon) (event : Event) : Prop :=
  ∀ p, presentation cfg d event = some p → inOrder p.buf p.tun = true →
    (controlHdr p.buf.mem).Nr.toNat ≤ p.tun.controlSeqNum.toNat

-- The sequence numbers have not wrapped. The last one of all may be given out, but
-- not where a message is never sent again and the number behind it is its tunnel's
-- closing message's.
def Unwrapped (cfg : Config) (d : Daemon) (event : Event) : Prop :=
  ∀ p, presentation cfg d event = some p → cfg.maxRetries ≤ 0 → p.tun.controlSeqNum.toNat + 1 < 65536

-- handle_packet, or handle_special for a call that the tunnel does not have.
def Presentation.handling (p : Presentation) (env : Env) : Option (Int × Daemon) :=
  if p.onEntry then
    handlePacket env p.buf p.t p.c { p.found with tunnel := write p.found.tunnel p.t (withoutVector p.tun) }
  else handleSpecial p.buf p.c (extract p.buf.mem).2 p.found

-- An accepted message has been handled. Then network_thread gets back to its loop,
-- and by then the peer has been sent a message that expects the number the tunnel
-- expects now.
def Acknowledges (cfg : Config) (d : Daemon) (event : Event) : Prop :=
  ∀ p ended, presentation cfg d event = some p → p.Accepted →
    p.handling { toConfig := cfg, toWorld := event.world } = some ended →
    ∃ d', next cfg d event = some d' ∧ (d'.tunnel p.t).controlRecSeqNum = p.tun.controlRecSeqNum + 1 ∧
      ∃ said, d'.out = d.out ++ said ∧
        ∃ hdr : ControlHdr, ∃ body, Output.udp p.tun.peer (hdr.wire ++ body) ∈ said ∧
          hdr.Nr = (d'.tunnel p.t).controlRecSeqNum

namespace Debt

variable {env : Env} {debt : Debt} {d d' : Daemon}

theorem sendsOn_minds (c : CallPtr) : SendsOn env (debt.Minds env) debt.t c := ⟨admits_minds, sendControl_minds c⟩

theorem handleAvps_minds (c : CallPtr) (buf : RecvBuffer) : Prog.Within (debt.Minds env)
    (handleAvps env debt.t c buf) :=
  handleAvps_within admits_minds.stores (fun _ => setCall_minds c _ (fun _ => id) (fun _ => rfl) fun _ _ => rfl)
    (addIncomingCall_minds debt.t) buf

theorem controlFinish_minds (c : CallPtr) : Prog.Within (debt.Minds env) (controlFinish env debt.t c) := by
  intro d result d' ran
  have admits : AdmitsUpdates (debt.Minds env) := admits_minds
  have sends (c : CallPtr) : SendsOn env (debt.Minds env) debt.t c := sendsOn_minds c
  have challenges : Challenges (debt.Minds env) debt.t := challenges_minds debt.t
  refine controlFinish_leads (Prog.Leads.self _) admits ran (fun _ => ?_) (fun _ => ?_) (fun _ => ?_) (fun _ => ?_)
    (fun _ => ?_)
    (fun _ => ?_) fun _ => ?_
  · exact initiate_starts (startTunnel_within (sends c) (raises_minds _ _) challenges)
      (startIncoming_within (sends c) (raisesCall_minds c _))
        (startOutgoing_within (sends c) (raisesCall_minds c _)) d result d'
  · refine finishSCCRQ_within (sends c) (raises_minds _ _) challenges (fun d chosen _ _ => ?_) d result d'
    exact minds_of_grows (grows_records _ _ (Nat.le_refl _) rfl rfl) fun _ _ owed =>
      .inl (owed_tunnel owed _ _ fun _ => ⟨rfl, id⟩)
  · exact finishSCCRP_leads (Prog.Leads.self _) admits challenges (joinTunnel_minds c) d result d'
  · exact finishSCCCN_within admits (raises_minds _ _) c d result d'
  · exact finishICRQ_within admits sends (fun p => raisesCall_minds p _)
      (assignAddr_minds _) closeRefused_minds d result d'
  · exact finishICRP_within (sends c) (raisesCall_minds c _) d result d'
  · exact finishICCN_within admits (raisesCall_minds c _)
      (fun d d' full _ took => getLocalAddr_minds _ c d full d' took) d result d'

theorem acknowledge_pays (u : PUnit) (settles : debt.Settles env d) (ran : acknowledge debt.c d = some (u, d')) :
    ∃ said, d'.out = debt.before ++ said ∧ debt.PaidBy said := by
  obtain ⟨_, _, home, said, out, state⟩ := settles
  have live : (d.call debt.c).live = true := by
    unfold acknowledge at ran
    obtain ⟨cal, d₁, read, _⟩ := (Prog.bind_some _ _ _ _ _).mp ran
    exact ((readCall_some _ _ _ _).mp read).1
  obtain rfl := acknowledge_some debt.c d d' u ran
  rcases state with owed | ⟨hdr, body, sent, number⟩ | gone
  · refine ⟨said ++ [zlb (d.tunnel debt.t) (d.call debt.c)], ?_, ?_⟩
    · simp only [owed.due, home, if_true, out, List.append_assoc]
    · refine ⟨⟨0xC802, BitVec.ofNat 16 controlHdrSize, BitVec.ofInt 16 (d.tunnel debt.t).tid,
        BitVec.ofInt 16 (d.call debt.c).cid,
        (d.tunnel debt.t).controlSeqNum, (d.tunnel debt.t).controlRecSeqNum⟩, [], List.mem_append_right _ ?_,
          owed.number⟩
      rw [List.append_nil, zlb, owed.peer]
      exact List.mem_singleton_self _
  · refine ⟨said ++ if (d.call debt.c).cnu then [zlb (d.tunnel (d.call debt.c).container) (d.call debt.c)] else [], ?_,
      hdr, body, List.mem_append_left _ sent, number⟩
    rw [← List.append_assoc, ← out]
  · rw [live] at gone
    cases gone

end Debt

section Accepted

variable (cfg : Config) (d d' : Daemon) (event : Event) (p : Presentation)

theorem accepted_inOrder (accepted : p.Accepted) : inOrder p.buf p.tun = true := by
  have passed := accepted.1
  simp only [inOrderOk, Bool.and_eq_true] at passed
  exact passed.1

theorem found_out (presented : presentation cfg d event = some p) : p.found.out = d.out := by
  obtain ⟨peer, refhim, datagram, occurs, reaches⟩ := presentation_some cfg d event p presented
  obtain ⟨answer, looked⟩ : ∃ answer, getCall { toConfig := cfg, toWorld := event.world } (extract p.buf.mem).1
    (extract p.buf.mem).2
      peer refhim d = some (answer, p.found) := by
    cases entry : p.onEntry with
    | true => exact ⟨_, (reaches.onEntry entry).lookup⟩
    | false => exact ⟨_, (reaches.onSelf entry).lookup⟩
  rcases getCall_found _ _ _ peer refhim d p.found answer looked with same | same | same <;> rw [same] <;> rfl

theorem found_member (settled : Settled d) (presented : presentation cfg d event = some p) (hears : p.hears = true) :
    (p.found.tunnel p.t).self = some p.c ∨ p.c ∈ (p.found.tunnel p.t).calls := by
  simp only [Presentation.hears, Bool.and_eq_true, Bool.not_eq_true'] at hears
  obtain ⟨peer, refhim, datagram, occurs, reaches⟩ := presentation_some cfg d event p presented
  have looked := (reaches.onEntry hears.1.1).lookup
  rcases getCall_some _ _ _ peer refhim d p.found p.c looked with ⟨made, found⟩ | ⟨found, t, listed, own | member⟩
  · left
    have home : p.t = d.fresh := by
      rw [Presentation.t, made, found]
      exact congrArg Call.container (write_here _ _ _)
    rw [home, made, found, withTunnel_here]
    rfl
  · have home : p.t = t := by
      rw [Presentation.t, found]
      exact (settled.2 t listed p.c own).1
    rw [home, found]
    exact .inl own
  · have home : p.t = t := by
      rw [Presentation.t, found]
      exact (settled.1.calls t listed p.c member).2
    rw [home, found]
    exact .inr member

def Presentation.debt (p : Presentation) (before : List Output) : Debt where
  c := p.c
  t := p.t
  peer := p.tun.peer
  nr := p.tun.controlRecSeqNum + 1
  before := before

theorem heard_call (accepted : p.Accepted) : p.heard.call p.c =
    { p.found.call p.c with cnu := true, msgtype := -1 } := by
  have checked : checkedCall p.buf p.tun (p.found.call p.c) = { p.found.call p.c with cnu := true } :=
    if_pos (accepted_inOrder p accepted)
  have here : p.heard.call p.c = { checkedCall p.buf p.tun (p.found.call p.c) with msgtype := -1 } := write_here _ _ _
  rw [here, checked]

theorem heard_container (accepted : p.Accepted) (c : CallPtr) : (p.heard.call c).container =
    (p.found.call c).container := by
  by_cases here : c = p.c
  · rw [here, heard_call p accepted]
  · exact congrArg Call.container (write_elsewhere _ _ _ _ here)

theorem heard_owed (settled : Settled d) (presented : presentation cfg d event = some p) (hears : p.hears = true)
    (accepted : p.Accepted) (acks : AcksSent cfg d event) (unwrapped : Unwrapped cfg d event) :
    (p.debt d.out).Owed { toConfig := cfg, toWorld := event.world } p.heard := by
  have expected := accepted_inOrder p accepted
  obtain ⟨⟨_, housed⟩, listed⟩ := found_settled cfg d event p settled presented hears
  have tunnel : p.heard.tunnel p.t =
      { withoutVector p.tun with controlRecSeqNum := p.tun.controlRecSeqNum + 1, cLr := (controlHdr p.buf.mem).Nr } := by
    rw [heard_tunnel]
    exact if_pos expected
  refine ⟨?_, ?_, ?_, ?_, ?_, fun s own => ?_, ?_⟩
  · show (p.heard.tunnel p.t).peer = p.tun.peer
    rw [tunnel]
    rfl
  · show (p.heard.tunnel p.t).controlRecSeqNum = p.tun.controlRecSeqNum + 1
    rw [tunnel]
  · show (p.heard.tunnel p.t).cLr.toNat ≤ (p.heard.tunnel p.t).controlSeqNum.toNat
    rw [tunnel]
    exact acks p presented expected
  · intro spent
    show (p.heard.tunnel p.t).controlSeqNum.toNat + 1 < 65536
    rw [tunnel]
    exact unwrapped p presented spent
  · show (p.heard.tunnel p.t).self = some p.c ∨ p.c ∈ (p.heard.tunnel p.t).calls
    rw [tunnel]
    exact found_member cfg d event p settled presented hears
  · change (p.heard.tunnel p.t).self = some s at own
    rw [tunnel] at own
    obtain ⟨inside, young⟩ := housed p.t listed s own
    exact ⟨(heard_container p accepted s).trans inside, young⟩
  · show (p.heard.call p.c).cnu = true
    rw [heard_call p accepted]

theorem heard_settles (settled : Settled d) (presented : presentation cfg d event = some p) (hears : p.hears = true)
    (accepted : p.Accepted) (acks : AcksSent cfg d event) (unwrapped : Unwrapped cfg d event)
    (live : (p.found.call p.c).live = true) : (p.debt d.out).Settles
    { toConfig := cfg, toWorld := event.world } p.heard := by
  obtain ⟨⟨linked, _⟩, listed⟩ := found_settled cfg d event p settled presented hears
  have owed := heard_owed cfg d event p settled presented hears accepted acks unwrapped
  refine ⟨linked.call_old p.c live, linked.listed.2 p.t listed, heard_container p accepted p.c, [], ?_, .inl owed⟩
  rw [List.append_nil]
  exact found_out cfg d event p presented

theorem handled_settles (settled : Settled d) (presented : presentation cfg d event = some p) (hears : p.hears = true)
    (accepted : p.Accepted) (acks : AcksSent cfg d event) (unwrapped : Unwrapped cfg d event)
    (live : (p.found.call p.c).live = true) (control : CTBIT (hostWord p.buf.mem 0) = true) (result : Int) (after : Daemon)
    (handled : handlePacket { toConfig := cfg, toWorld := event.world } p.buf p.t p.c
      { p.found with tunnel := write p.found.tunnel p.t (withoutVector p.tun) } = some (result, after)) :
    (p.debt d.out).Settles { toConfig := cfg, toWorld := event.world } after := by
  have settles := heard_settles cfg d event p settled presented hears accepted acks unwrapped live
  have minds : Prog.Within ((p.debt d.out).Minds { toConfig := cfg, toWorld := event.world }) (do
      let failed ← handleAvps { toConfig := cfg, toWorld := event.world } p.t p.c p.buf
      if failed ≠ 0 then return einval else controlFinish { toConfig := cfg, toWorld := event.world } p.t p.c : Act Int) := by
    refine Prog.within_bind (Debt.handleAvps_minds p.c p.buf) fun failed => ?_
    refine Prog.within_ite _ _ _ _ (fun _ => Prog.within_pure _ _) fun _ => ?_
    exact Debt.controlFinish_minds p.c
  rw [handlePacket_control _ _ _ _ control] at handled
  exact minds p.heard result after (handleControl_hears p _ result after accepted.1 accepted.2 handled) settles

theorem special_pays (presented : presentation cfg d event = some p) (accepted : p.Accepted)
    (control : CTBIT (hostWord p.buf.mem 0) = true) (result : Int) (after : Daemon)
    (special : handleSpecial p.buf p.c (extract p.buf.mem).2 p.found = some (result, after)) :
    ∃ said, after.out = d.out ++ said ∧ (p.debt d.out).PaidBy said := by
  have expected := accepted_inOrder p accepted
  have silent : answersOld p.buf p.tun = false := by simp [answersOld, expected]
  have long : ¬ p.buf.len = controlHdrSize := by simpa [isZlb] using accepted.2
  unfold handleSpecial at special
  obtain ⟨cal, d₁, read, special⟩ := (Prog.bind_some _ _ _ _ _).mp special
  obtain ⟨_, rfl, rfl⟩ := (readCall_some _ _ _ _).mp read
  rw [if_neg (not_not_intro control)] at special
  obtain ⟨_, d₂, borrowed, special⟩ := (Prog.bind_some _ _ _ _ _).mp special
  obtain ⟨_, rfl⟩ := (setCall_some _ _ _ _ _).mp borrowed
  obtain ⟨bad, d₃, checked, special⟩ := (Prog.bind_some _ _ _ _ _).mp special
  obtain ⟨verdict, rfl⟩ := checkControl_some p.buf _ p.c _ d₃ bad checked
  have passed : ¬ (bad ≠ 0 ∨ p.buf.len = controlHdrSize) := not_or.mpr ⟨not_not_intro (verdict.mpr accepted.1), long⟩
  rw [if_neg passed] at special
  obtain ⟨_, d₄, sent, special⟩ := (Prog.bind_some _ _ _ _ _).mp special
  obtain rfl := controlZlb_some _ p.c _ d₄ _ sent
  obtain ⟨_, d₅, returned, special⟩ := (Prog.bind_some _ _ _ _ _).mp special
  obtain ⟨_, rfl⟩ := (setCall_some _ _ _ _ _).mp returned
  obtain ⟨_, rfl⟩ := (Prog.pure_some _ _ _ _).mp special
  have tunnel : checkedTunnel p.buf p.tun =
      { p.tun with controlRecSeqNum := p.tun.controlRecSeqNum + 1, cLr := (controlHdr p.buf.mem).Nr } := if_pos expected
  refine ⟨[zlb (checkedTunnel p.buf p.tun) (checkedCall p.buf p.tun
    { p.found.call p.c with cid := (extract p.buf.mem).2 })], ?_, ?_⟩
  · have quiet : answersOld p.buf (p.found.tunnel (p.found.call p.c).container) = false := silent
    simp only [write_here, quiet, Bool.false_eq_true, if_false, List.append_nil]
    rw [found_out cfg d event p presented]
    rfl
  · rw [tunnel]
    refine ⟨⟨0xC802, BitVec.ofNat 16 controlHdrSize, BitVec.ofInt 16 p.tun.tid,
      BitVec.ofInt 16 (checkedCall p.buf p.tun { p.found.call p.c with cid := (extract p.buf.mem).2 }).cid,
      p.tun.controlSeqNum, p.tun.controlRecSeqNum + 1⟩, [], ?_, rfl⟩
    rw [List.append_nil]
    exact List.mem_singleton_self _

theorem accepted_number (linked : Linked d) (presented : presentation cfg d event = some p) (accepted : p.Accepted)
    (moved : next cfg d event = some d') : (d'.tunnel p.t).controlRecSeqNum = p.tun.controlRecSeqNum + 1 := by
  have expected := accepted_inOrder p accepted
  have changed := congrArg Prod.fst (next_presented cfg d d' event p linked presented moved p.t)
  change (d'.tunnel p.t).controlRecSeqNum = _ at changed
  rw [changed, if_pos rfl, channelAfter, if_pos expected, accepted.2, Bool.and_false]
  rfl

end Accepted

-- Where the entry and its tunnel are there, network_thread gets through.
section Returning

theorem controlZlb_runs (t : TunnelPtr) (c : CallPtr) (d : Daemon) (tunnel : (d.tunnel t).live = true)
    (call : (d.call c).live = true) : ∃ d', controlZlb t c d = some (⟨⟩, d') ∧ d'.call = d.call := by
  unfold controlZlb addControlHdr udpXmit
  simp only [bind_assoc, pure_bind]
  rw [bind_read _ _ d _ (readTunnel_live t d tunnel), bind_read _ _ d _ (readTunnel_live t d tunnel),
    bind_read _ _ d _ (readCall_live c d call), bind_ran _ _ d _ _ (setTunnel_live t _ d tunnel),
    bind_ran _ _ _ _ _ (setTunnel_live t _ _ (by simpa using tunnel)),
    bind_read _ _ _ _ (readTunnel_live t _ (by simpa using tunnel))]
  exact ⟨_, rfl, rfl⟩

theorem acknowledge_runs (c : CallPtr) (d : Daemon) (call : (d.call c).live = true)
    (tunnel : (d.tunnel (d.call c).container).live = true) : ∃ d', acknowledge c d = some (⟨⟩, d') := by
  unfold acknowledge Prog.onlyWhen
  rw [bind_read _ _ d _ (readCall_live c d call)]
  split
  · obtain ⟨d₁, sent, same⟩ := controlZlb_runs (d.call c).container c d tunnel call
    rw [bind_ran _ _ _ _ _ sent]
    exact ⟨_, setCall_live c _ d₁ (same ▸ call)⟩
  · exact ⟨d, rfl⟩

variable (cfg : Config) (d d' found : Daemon) (event : Event) (peer : SockAddr) (refhim : Nat)
    (datagram buf : RecvBuffer) (c : CallPtr)

theorem next_receives (occurs : event.occurs = .datagram peer refhim datagram) (u : PUnit)
    (ran : receive { toConfig := cfg, toWorld := event.world } peer refhim datagram d = some (u, d')) :
    next cfg d event = some d' := by
  unfold next
  rw [occurs]
  exact Option.map_eq_some_iff.mpr ⟨(u, d'), ran, rfl⟩

theorem next_delivered (occurs : event.occurs = .datagram peer refhim datagram)
    (delivered : Delivered { toConfig := cfg, toWorld := event.world } d peer refhim datagram buf found c)
    (present : Present found (found.call c).container c) (result : Int) (after : Daemon) (u : PUnit)
    (handled : handlePacket { toConfig := cfg, toWorld := event.world } buf (found.call c).container c { found with
      tunnel := write found.tunnel (found.call c).container (withoutVector (found.tunnel (found.call c).container)) } =
        some (result, after)) (acknowledged : acknowledge c after = some (u, d')) : next cfg d event = some d' := by
  refine next_receives cfg d d' event peer refhim datagram occurs u ?_
  unfold receive
  rw [if_neg (Nat.not_lt.mpr delivered.long), ← delivered.header, bind_ran _ _ d found _ delivered.lookup]
  show receiveOnCall _ buf c found = _
  unfold receiveOnCall
  rw [bind_read _ _ found _ (readCall_live c found present.call),
    bind_ran _ _ found _ _ (setTunnel_live _ _ found present.tunnel)]
  exact (Prog.bind_some _ _ _ _ _).mpr ⟨result, after, handled, acknowledged⟩

theorem next_deliveredToSelf (occurs : event.occurs = .datagram peer refhim datagram)
    (delivered : DeliveredToSelf { toConfig := cfg, toWorld := event.world } d peer refhim datagram buf found c)
    (result : Int)
    (special : handleSpecial buf c (extract buf.mem).2 found = some (result, d')) : next cfg d event = some d' := by
  refine next_receives cfg d d' event peer refhim datagram occurs ⟨⟩ ?_
  unfold receive
  rw [if_neg (Nat.not_lt.mpr delivered.long), ← delivered.header, bind_ran _ _ d found _ delivered.lookup]
  show receiveOnTunnel buf _ _ found = _
  unfold receiveOnTunnel
  rw [bind_ran _ _ found found _ delivered.own]
  show (handleSpecial buf c (extract buf.mem).2 >>= fun _ => pure PUnit.unit) found = _
  rw [bind_ran _ _ found d' result special]
  rfl

end Returning

theorem accepted_answered (cfg : Config) (d : Daemon) (event : Event) (settled : Settled d)
    (acks : AcksSent cfg d event)
    (unwrapped : Unwrapped cfg d event) (survives : Survives cfg d event) (p : Presentation) (ended : Int × Daemon)
    (presented : presentation cfg d event = some p) (accepted : p.Accepted)
    (handled : p.handling { toConfig := cfg, toWorld := event.world } = some ended) :
    ∃ d', next cfg d event = some d' ∧ ∃ said, d'.out = d.out ++ said ∧ (p.debt d.out).PaidBy said := by
  obtain ⟨result, after⟩ := ended
  obtain ⟨peer, refhim, datagram, occurs, reaches⟩ := presentation_some cfg d event p presented
  obtain ⟨onCall, _⟩ := survives peer refhim datagram p.buf p.found p.c occurs
  unfold Presentation.handling at handled
  cases entry : p.onEntry with
  | true =>
      have hears : p.hears = true := by simp [Presentation.hears, entry, accepted.1, accepted.2]
      have delivered := reaches.onEntry entry
      obtain ⟨present, stays⟩ := onCall delivered
      rw [if_pos entry] at handled
      have remains := stays result after handled
      have settles := handled_settles cfg d event p settled presented hears accepted acks unwrapped present.call
        reaches.control
        result after handled
      have home : (after.call p.c).container = p.t := settles.home
      obtain ⟨d', acknowledged⟩ := acknowledge_runs p.c after remains.call (by rw [home]; exact remains.tunnel)
      exact ⟨d', next_delivered cfg d d' p.found event peer refhim datagram p.buf p.c occurs delivered present result
        after ⟨⟩ handled
        acknowledged, Debt.acknowledge_pays ⟨⟩ settles acknowledged⟩
  | false =>
      rw [entry, if_neg Bool.false_ne_true] at handled
      exact ⟨after, next_deliveredToSelf cfg d after p.found event peer refhim datagram p.buf p.c occurs
        (reaches.onSelf entry) result
        handled, special_pays cfg d event p presented accepted reaches.control result after handled⟩

-- Wherever a run has got to, an accepted message that spares what it came on is
-- acknowledged, if its peer acknowledges what was sent.
theorem accepted_acknowledged (cfg : Config) (deflns : Option Lns) (lnslist : List Lns) (deflac : Option Lac)
    (laclist : List Lac)
    {visits : List (Daemon × Event)} {d : Daemon}
    (run : Run (next cfg) (initDaemon deflns lnslist deflac laclist) visits d)
    (event : Event) (acks : AcksSent cfg d event) (unwrapped : Unwrapped cfg d event)
    (spares : SparesHandled cfg d event) :
    Acknowledges cfg d event := by
  intro p ended presented accepted handled
  have settled : Settled d := run_settled cfg deflns lnslist deflac laclist run
  have survives := survives_step cfg d event settled (run_selfHeld cfg deflns lnslist deflac laclist run) spares
  obtain ⟨d', moved, said, out, hdr, body, sent, answers⟩ :=
    accepted_answered cfg d event settled acks unwrapped survives p ended presented accepted handled
  have number := accepted_number cfg d d' event p settled.1 presented accepted moved
  exact ⟨d', moved, number, said, out, hdr, body, sent, answers.trans number.symm⟩

instance (cfg : Config) (d : Daemon) (event : Event) : Decidable (AcksSent cfg d event) :=
  decidable_of_iff ((presentation cfg d event).all (fun p => !inOrder p.buf p.tun ||
      decide ((controlHdr p.buf.mem).Nr.toNat ≤ p.tun.controlSeqNum.toNat)) = true) <| by
    simp only [Option.all_eq_true, Bool.or_eq_true, Bool.not_eq_true', decide_eq_true_eq, ← Bool.not_eq_true]
    exact forall_congr' fun p => imp_congr_right fun _ => Decidable.imp_iff_not_or.symm

instance Presentation.decidableAccepted (p : Presentation) : Decidable p.Accepted :=
  inferInstanceAs (Decidable (_ ∧ _))

def acceptedSeen (event : Event) (d : Daemon) : Bool :=
  (presentation plainConfig d event).any fun p => decide p.Accepted && (p.handling plainEnv).isSome

theorem acceptedSeen_some (event : Event) (d : Daemon) (world : event.world = plainWorld)
    (seen : acceptedSeen event d = true) :
    ∃ p ended, presentation plainConfig d event = some p ∧ p.Accepted ∧
      p.handling { toConfig := plainConfig, toWorld := event.world } = some ended := by
  obtain ⟨p, presented, facts⟩ := (Option.any_eq_true _ _).mp seen
  obtain ⟨accepted, handled⟩ := (Bool.and_eq_true _ _).mp facts
  obtain ⟨ended, handled⟩ := Option.isSome_iff_exists.mp handled
  exact ⟨p, ended, presented, of_decide_eq_true accepted, world ▸ handled⟩

-- The first Hello of a peer.
theorem accepted_acknowledged_hello : ∃ d,
    Run (next plainConfig) (initDaemon none [] none []) [(initDaemon none [] none [], startTunnelEvent)] d ∧
    (∃ p ended, presentation plainConfig d (helloEvent 0) = some p ∧ p.Accepted ∧
      p.handling { toConfig := plainConfig, toWorld := (helloEvent 0).world } = some ended) ∧
    Acknowledges plainConfig d (helloEvent 0) := by
  have seen : (next plainConfig (initDaemon none [] none []) startTunnelEvent).any (fun d =>
      acceptedSeen (helloEvent 0) d && decide (AcksSent plainConfig d (helloEvent 0)) &&
        decide (SparesHandled plainConfig d (helloEvent 0))) = true := by decide +kernel
  obtain ⟨d, started, facts⟩ := (Option.any_eq_true _ _).mp seen
  simp only [Bool.and_eq_true, decide_eq_true_eq] at facts
  obtain ⟨⟨taken, acks⟩, spares⟩ := facts
  have run := Run.start.snoc [] _ _ startTunnelEvent started
  exact ⟨d, run, acceptedSeen_some _ d rfl taken,
    accepted_acknowledged plainConfig none [] none [] run _ acks (fun _ _ spent => absurd spent (by decide)) spares⟩

-- The call that is refused a second time is destroyed with its message
-- unacknowledged, and network_thread does not get through.
theorem accepted_unacknowledged :
    ¬ ∀ (cfg : Config) (deflns : Option Lns) (lnslist : List Lns) (deflac : Option Lac) (laclist : List Lac)
      (visits : List (Daemon × Event)) (d : Daemon), Run (next cfg)
        (initDaemon deflns lnslist deflac laclist) visits d →
      Run.Meets (AcksSent cfg) visits → Run.Meets (Unwrapped cfg) visits →
      ∀ event, AcksSent cfg d event → Unwrapped cfg d event → Acknowledges cfg d event := by
  intro claimed
  have seen : (Run.play (next plainConfig) (initDaemon none [oneAddress] none []) refusedOnce).any (fun d =>
      decide (Run.Meets (AcksSent plainConfig)
        (Run.trace (next plainConfig) (initDaemon none [oneAddress] none []) refusedOnce)) &&
        acceptedSeen (onTunnel 1027 4 (addMessageTypeAvp .ICCN)) d &&
        decide (AcksSent plainConfig d (onTunnel 1027 4 (addMessageTypeAvp .ICCN))) &&
        (next plainConfig d (onTunnel 1027 4 (addMessageTypeAvp .ICCN))).isNone) = true := by decide +kernel
  obtain ⟨d, played, facts⟩ := (Option.any_eq_true _ _).mp seen
  simp only [Bool.and_eq_true, decide_eq_true_eq] at facts
  obtain ⟨⟨⟨earlier, taken⟩, acks⟩, stuck⟩ := facts
  obtain ⟨p, ended, presented, accepted, handled⟩ := acceptedSeen_some _ d rfl taken
  have run := Run.of_play refusedOnce d played
  have unwrapped : ∀ d event, Unwrapped plainConfig d event := fun _ _ _ _ spent => absurd spent (by decide)
  obtain ⟨d', moved, _⟩ := claimed plainConfig none [oneAddress] none [] _ d run earlier
    (fun _ _ => unwrapped _ _) _ acks
    (unwrapped _ _) p ended presented accepted handled
  rw [moved] at stuck
  cases stuck

end ZyAgf.Xl2tpd
