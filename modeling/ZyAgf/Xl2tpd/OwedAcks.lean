import ZyAgf.Xl2tpd.Message
import ZyAgf.Xl2tpd.Undeliverable

set_option autoImplicit false

namespace ZyAgf.Xl2tpd

-- An acknowledgement that is due: the call that owes it, its tunnel, the peer it
-- goes to, the number it carries, and what had been said before.
structure Debt where
  c : CallPtr
  t : TunnelPtr
  peer : SockAddr
  nr : U16
  before : List Output

def Tunnel.line (tun : Tunnel) : SockAddr × U16 × U16 × U16 × Option CallPtr :=
  (tun.peer, tun.controlRecSeqNum, tun.controlSeqNum, tun.cLr, tun.self)

namespace Debt

variable (env : Env) (debt : Debt)

def PaidBy (said : List Output) : Prop :=
  ∃ hdr : ControlHdr, ∃ body, Output.udp debt.peer (hdr.wire ++ body) ∈ said ∧ hdr.Nr = debt.nr

-- It is owed while the call says so, and the next message of its tunnel would go
-- out. One that cannot be repeated must not be the last number before they wrap.
structure Owed (d : Daemon) : Prop where
  peer : (d.tunnel debt.t).peer = debt.peer
  number : (d.tunnel debt.t).controlRecSeqNum = debt.nr
  uncovered : (d.tunnel debt.t).cLr.toNat ≤ (d.tunnel debt.t).controlSeqNum.toNat
  unwrapped : env.maxRetries ≤ 0 → (d.tunnel debt.t).controlSeqNum.toNat + 1 < 65536
  member : (d.tunnel debt.t).self = some debt.c ∨ debt.c ∈ (d.tunnel debt.t).calls
  self : ∀ s, (d.tunnel debt.t).self = some s → (d.call s).container = debt.t ∧ s < d.fresh
  due : (d.call debt.c).cnu = true

structure Settles (d : Daemon) : Prop where
  call : debt.c < d.fresh
  tunnel : debt.t < d.fresh
  home : (d.call debt.c).container = debt.t
  said : ∃ said, d.out = debt.before ++ said ∧ (debt.Owed env d ∨ debt.PaidBy said ∨ (d.call debt.c).live = false)

def Minds (d d' : Daemon) : Prop := debt.Settles env d → debt.Settles env d'

instance : Prog.Steady (debt.Minds env) where
  refl _ := id
  trans _ _ _ first second := second ∘ first

variable {env debt} {d d' : Daemon}

theorem minds_of_grows (grows : Grows d d') (keeps : debt.c < d.fresh → debt.t < d.fresh → debt.Owed env d →
    debt.Owed env d' ∨ (∃ said, d'.out = d.out ++ said ∧ debt.PaidBy said) ∨ (d'.call debt.c).live = false) :
    debt.Minds env d d' := by
  rintro ⟨old, oldTunnel, home, said, out, state⟩
  obtain ⟨more, extends'⟩ := grows.out
  have longer : d'.out = debt.before ++ (said ++ more) := by rw [extends', out, List.append_assoc]
  refine ⟨Nat.lt_of_lt_of_le old grows.fresh, Nat.lt_of_lt_of_le oldTunnel grows.fresh,
    (grows.home debt.c old).trans home,
    said ++ more, longer, ?_⟩
  rcases state with owed | ⟨hdr, body, sent, number⟩ | gone
  · rcases keeps old oldTunnel owed with still | ⟨last, ends, hdr, body, sent, number⟩ | gone
    · exact .inl still
    · obtain rfl : more = last := List.append_cancel_left (extends'.symm.trans ends)
      exact .inr (.inl ⟨hdr, body, List.mem_append_right _ sent, number⟩)
    · exact .inr (.inr gone)
  · exact .inr (.inl ⟨hdr, body, List.mem_append_left _ sent, number⟩)
  · exact .inr (.inr (grows.gone _ old gone))

theorem owed_tunnel (owed : debt.Owed env d) (t : TunnelPtr) (new : Tunnel)
    (same : t = debt.t → new.line = (d.tunnel t).line ∧ (debt.c ∈ (d.tunnel t).calls → debt.c ∈ new.calls)) :
    debt.Owed env { d with tunnel := write d.tunnel t new } := by
  by_cases here : debt.t = t
  · obtain ⟨line, calls⟩ := same here.symm
    subst here
    have peer : new.peer = (d.tunnel debt.t).peer := congrArg Prod.fst line
    have number : new.controlRecSeqNum = (d.tunnel debt.t).controlRecSeqNum := congrArg (fun line => line.2.1) line
    have next' : new.controlSeqNum = (d.tunnel debt.t).controlSeqNum := congrArg (fun line => line.2.2.1) line
    have acked : new.cLr = (d.tunnel debt.t).cLr := congrArg (fun line => line.2.2.2.1) line
    have self : new.self = (d.tunnel debt.t).self := congrArg (fun line => line.2.2.2.2) line
    constructor <;> simp only [write_here]
    · exact peer.trans owed.peer
    · exact number.trans owed.number
    · rw [acked, next']
      exact owed.uncovered
    · rw [next']
      exact owed.unwrapped
    · rw [self]
      exact owed.member.imp_right calls
    · rw [self]
      exact owed.self
    · exact owed.due
  · have elsewhere : (write d.tunnel t new) debt.t = d.tunnel debt.t := write_elsewhere _ _ _ _ here
    constructor <;> simp only [elsewhere]
    · exact owed.peer
    · exact owed.number
    · exact owed.uncovered
    · exact owed.unwrapped
    · exact owed.member
    · exact owed.self
    · exact owed.due

theorem owed_call (owed : debt.Owed env d) (c : CallPtr) (new : Call) (home : new.container = (d.call c).container)
    (due : c = debt.c → new.cnu = (d.call c).cnu) : debt.Owed env { d with call := write d.call c new } := by
  have container (x : CallPtr) : ((write d.call c new) x).container = (d.call x).container :=
    write_same d.call Call.container c new home x
  refine ⟨owed.peer, owed.number, owed.uncovered, owed.unwrapped, owed.member, fun s own => ?_, ?_⟩
  · obtain ⟨inside, old⟩ := owed.self s own
    exact ⟨(container s).trans inside, old⟩
  · by_cases here : debt.c = c
    · subst here
      simpa using (due rfl).trans owed.due
    · simpa [write_elsewhere _ _ _ _ here] using owed.due

theorem owed_side (owed : debt.Owed env d) (tunnel : d'.tunnel = d.tunnel) (call : d'.call = d.call)
    (fresh : d.fresh ≤ d'.fresh) :
    debt.Owed env d' := by
  constructor
  · rw [tunnel]
    exact owed.peer
  · rw [tunnel]
    exact owed.number
  · rw [tunnel]
    exact owed.uncovered
  · rw [tunnel]
    exact owed.unwrapped
  · rw [tunnel]
    exact owed.member
  · intro s own
    rw [tunnel] at own
    rw [call]
    exact ⟨(owed.self s own).1, Nat.lt_of_lt_of_le (owed.self s own).2 fresh⟩
  · rw [call]
    exact owed.due

section Primitives

theorem setTunnel_minds (t : TunnelPtr) (change : Tunnel → Tunnel)
    (same : t = debt.t → ∀ tun, (change tun).line = tun.line ∧ (debt.c ∈ tun.calls → debt.c ∈ (change tun).calls)) :
    Prog.Within (debt.Minds env) (setTunnel t change) := by
  intro d u d' ran
  refine minds_of_grows (setTunnel_grows t change d u d' ran) fun _ _ owed => .inl ?_
  obtain ⟨_, rfl⟩ := (setTunnel_some _ _ _ _ _).mp ran
  exact owed_tunnel owed t _ fun here => same here _

theorem setCall_minds (c : CallPtr) (change : Call → Call) (dead : ∀ cal, cal.live = false → (change cal).live = false)
    (home : ∀ cal, (change cal).container = cal.container) (due : c = debt.c → ∀ cal, (change cal).cnu = cal.cnu) :
    Prog.Within (debt.Minds env) (setCall c change) := by
  intro d u d' ran
  refine minds_of_grows (setCall_grows c change dead home d u d' ran) fun _ _ owed => .inl ?_
  obtain ⟨_, rfl⟩ := (setCall_some _ _ _ _ _).mp ran
  exact owed_call owed c _ (home _) fun here => due here _

theorem side_minds {α : Type} {prog : Act α} (grows : Prog.Within Grows prog)
    (side : ∀ d a d', prog d = some (a, d') → d'.tunnel = d.tunnel ∧ d'.call = d.call) : Prog.Within
    (debt.Minds env) prog := by
  intro d a d' ran
  have more := grows d a d' ran
  obtain ⟨tunnel, call⟩ := side d a d' ran
  exact minds_of_grows more fun _ _ owed => .inl (owed_side owed tunnel call more.fresh)

theorem beside_minds {α : Type} {prog : Act α} (grows : Prog.Within Grows prog) (beside : Prog.Within Beside prog) :
    Prog.Within (debt.Minds env) prog :=
  side_minds grows fun d a d' ran => by
    obtain ⟨_, _, rfl⟩ := beside d a d' ran
    exact ⟨rfl, rfl⟩

theorem setLns_minds (l : LnsPtr) (change : Lns → Lns) : Prog.Within (debt.Minds env) (setLns l change) :=
  side_minds (setLns_grows l change) fun d u d' ran => by
    obtain ⟨_, rfl⟩ := (setLns_some _ _ _ _ _).mp ran
    exact ⟨rfl, rfl⟩

theorem reserveAddr_minds (addr : Nat) : Prog.Within (debt.Minds env) (reserveAddr addr) := by
  refine Prog.within_modify _ _ fun d => ?_
  split
  · exact Prog.Steady.refl d
  · exact minds_of_grows (grows_records d _ (Nat.le_refl _) rfl rfl) fun _ _ owed =>
      .inl (owed_side owed rfl rfl (Nat.le_refl _))

theorem sameLine {tun new : Tunnel} (core : new.controlRecSeqNum = tun.controlRecSeqNum ∧ new.cLr = tun.cLr ∧
    new.self = tun.self ∧ new.calls = tun.calls) (route : new.route = tun.route) :
    new.line = tun.line ∧ (debt.c ∈ tun.calls → debt.c ∈ new.calls) := by
  obtain ⟨received, acked, self, calls⟩ := core
  have peer : new.peer = tun.peer := congrArg Prod.fst route
  have number : new.controlSeqNum = tun.controlSeqNum := congrArg Prod.snd route
  refine ⟨?_, fun inside => calls ▸ inside⟩
  rw [Tunnel.line, Tunnel.line, received, acked, self, peer, number]

theorem admits_minds : AdmitsUpdates (debt.Minds env) where
  tunnel t change keeps := setTunnel_minds t change fun _ tun => by
    obtain ⟨core, _, route⟩ := keeps tun
    exact sameLine ⟨congrArg TunnelCore.controlRecSeqNum core, congrArg TunnelCore.cLr core,
      congrArg TunnelCore.self core,
      congrArg TunnelCore.calls core⟩ route
  call c change keeps := setCall_minds c change (fun cal gone => (congrArg CallCore.live (keeps cal).1).trans gone)
    (fun cal => congrArg CallCore.container (keeps cal).1) fun _ cal => (keeps cal).2.2.2
  lac l change _ := side_minds (setLac_grows l change) fun d u d' ran => by
    obtain ⟨_, rfl⟩ := (setLac_some _ _ _ _ _).mp ran
    exact ⟨rfl, rfl⟩
  modify change side pending out := by
    refine side_minds (admits_grows.modify change side pending out) fun d u d' ran => ?_
    obtain rfl := (Prog.modify_some _ _ _ _).mp ran
    rw [side d]
    exact ⟨rfl, rfl⟩

theorem raises_minds (t : TunnelPtr) (m : Msg) : Raises (debt.Minds env) t m := fun change keeps =>
  setTunnel_minds t change fun _ tun => by
    obtain ⟨core, _, route⟩ := keeps tun
    exact sameLine ⟨congrArg TunnelCore.controlRecSeqNum core, congrArg TunnelCore.cLr core,
      congrArg TunnelCore.self core,
      congrArg TunnelCore.calls core⟩ route

theorem raisesCall_minds (c : CallPtr) (m : Msg) : RaisesCall (debt.Minds env) c m := fun change keeps =>
  setCall_minds c change (fun cal gone => (congrArg CallCore.live (keeps cal).1).trans gone)
    (fun cal => congrArg CallCore.container (keeps cal).1) fun _ cal => (keeps cal).2.2.2

theorem challenges_minds (t : TunnelPtr) : Challenges (debt.Minds env) t := fun change only =>
  setTunnel_minds t change fun _ tun => by rw [only tun]; exact ⟨rfl, id⟩

theorem addIncomingCall_minds (t : TunnelPtr) : Prog.Within (debt.Minds env) (addIncomingCall env t) := by
  intro d result d' ran
  refine minds_of_grows (addIncomingCall_grows env t d result d' ran) fun old _ owed => .inl ?_
  rcases addIncomingCall_some env t d d' result ran with ⟨_, rfl⟩ | ⟨_, _, rfl⟩
  · exact owed
  · have linked := owed_tunnel owed t { d.tunnel t with calls := d.fresh :: (d.tunnel t).calls } fun _ =>
      ⟨rfl, List.mem_cons_of_mem _⟩
    have untouched (x : CallPtr) (young : x < d.fresh) : (withLinkedCall env d t).call x = d.call x :=
      write_elsewhere _ _ _ _ (Nat.ne_of_lt young)
    refine ⟨linked.peer, linked.number, linked.uncovered, linked.unwrapped, linked.member, fun s own => ?_, ?_⟩
    · obtain ⟨inside, young⟩ := linked.self s own
      rw [untouched s young]
      exact ⟨inside, Nat.lt_succ_of_lt young⟩
    · rw [untouched debt.c old]
      exact linked.due

end Primitives

theorem destroyCall_minds (c : CallPtr) : Prog.Within (debt.Minds env) (destroyCall env c) := by
  intro d u d' ran
  refine minds_of_grows (destroyCall_grows env c d u d' ran) fun old _ owed => ?_
  by_cases same : c = debt.c
  · exact .inr (.inr (same ▸ destroyCall_dead env c d d' u ran))
  · left
    obtain ⟨_, _, rest, fresh, rfl⟩ := destroyCall_some env c d d' u ran
    have left' := owed_tunnel owed (d.call c).container { d.tunnel (d.call c).container with
      calls := (d.tunnel (d.call c).container).calls.erase c } fun _ =>
        ⟨rfl, fun inside => (List.mem_erase_of_ne fun is => same is.symm).mpr inside⟩
    have buried := owed_call left' c { d.call c with live := false, fd := -1, pppd := 0 } rfl fun here =>
      absurd here same
    exact owed_side buried rfl rfl fresh

theorem destroyTunnel_minds (t : TunnelPtr) : Prog.Within (debt.Minds env) (destroyTunnel env t) := by
  have leaves (lns : Option LnsPtr) : Prog.Within (debt.Minds env) (leaveLns lns) := by
    cases lns with
    | none => exact Prog.within_pure _ _
    | some l => exact setLns_minds l _
  unfold destroyTunnel
  refine Prog.within_bind (readTunnel_within _ t) fun tun => ?_
  refine Prog.within_bind (Prog.within_forM tun.calls _ fun c _ => destroyCall_minds c) fun _ => ?_
  refine Prog.within_bind (Prog.within_modify _ _ fun d => ?_) fun _ => ?_
  · exact minds_of_grows (grows_records d _ (Nat.le_refl _) rfl rfl) fun _ _ owed =>
      .inl (owed_side owed rfl rfl (Nat.le_refl _))
  refine Prog.within_bind (beside_minds (leaveLac_grows env _ _) (leaveLac_beside env _ _)) fun _ => ?_
  refine Prog.within_bind (leaves tun.lns) fun _ => Prog.within_bind (deref_within _ tun.self) fun me => ?_
  exact Prog.within_bind (destroyCall_minds me) fun _ => setTunnel_minds t _ fun _ _ => ⟨rfl, id⟩

theorem controlXmit_pays (depth : Nat) (buf : Buffer) (u : PUnit) (owner : buf.tunnel = some debt.t)
    (peer : buf.peer = debt.peer)
    (unsent : buf.retries = 0) (number : buf.hdr.Nr = debt.nr)
    (uncovered : (d.tunnel debt.t).cLr.toNat ≤ buf.hdr.Ns.toNat)
    (stuck : env.maxRetries ≤ 0 → Stuck debt.t debt.c d) (ran : controlXmit env depth buf d = some (u, d')) :
    (∃ said, d'.out = d.out ++ said ∧ debt.PaidBy said) ∨ (d'.call debt.c).live = false := by
  by_cases spent : env.maxRetries ≤ 0
  · exact .inr (controlXmit_kills env spent depth buf debt.t debt.c d d' u owner unsent (stuck spent) uncovered ran)
  · left
    cases depth with
    | zero =>
        rw [controlXmit] at ran
        exact ((Prog.wrong_some _ _ _).mp ran).elim
    | succ depth =>
        rw [controlXmit, owner] at ran
        obtain ⟨tun, d₁, read, gives⟩ := (Prog.bind_some _ _ _ _ _).mp ran
        obtain ⟨_, rfl, rfl⟩ := (readTunnel_some _ _ _ _).mp read
        have spare : ¬ env.maxRetries < buf.retries + 1 := by omega
        rw [if_neg (Nat.not_lt.mpr uncovered)] at gives
        dsimp only at gives
        rw [if_neg spare] at gives
        obtain ⟨_, d₂, scheduled, sends⟩ := (Prog.bind_some _ _ _ _ _).mp gives
        obtain rfl := (Prog.modify_some _ _ _ _).mp scheduled
        unfold udpXmit at sends
        obtain ⟨tun, d₃, read, emits⟩ := (Prog.bind_some _ _ _ _ _).mp sends
        obtain ⟨_, rfl, rfl⟩ := (readTunnel_some _ _ _ _).mp read
        obtain rfl := (emit_some _ _ _ _).mp emits
        refine ⟨_, rfl, buf.hdr, buf.body, ?_, number⟩
        rw [← peer]
        exact List.mem_singleton_self _

theorem owed_numbered (owed : debt.Owed env d) (old : debt.c < d.fresh) (spent : env.maxRetries ≤ 0) :
    Stuck debt.t debt.c (withNumber d debt.t) := by
  have room := owed.unwrapped spent
  refine ⟨old, ?_, fun s own => ?_, ?_⟩
  · rw [withNumber_here]
    exact owed.member
  · rw [withNumber_here] at own
    exact owed.self s own
  · simp only [withNumber_here, BitVec.toNat_add]
    rw [show (1 : U16).toNat = 1 from rfl, Nat.mod_eq_of_lt room]
    exact Nat.le_succ_of_le owed.uncovered

theorem sendControl_pays (c : CallPtr) (body : List UInt8) (u : PUnit) (old : debt.c < d.fresh) (owed : debt.Owed env d)
    (ran : sendControl env debt.t c body d = some (u, d')) :
    (∃ said, d'.out = d.out ++ said ∧ debt.PaidBy said) ∨ (d'.call debt.c).live = false := by
  unfold sendControl at ran
  obtain ⟨buf, rest, owner, peer, unsent, ns, nr⟩ := numbered_some debt.t c body _ d d' u ran
  obtain ⟨_, d₁, cleared, sends⟩ := (Prog.bind_some _ _ _ _ _).mp rest
  obtain ⟨_, rfl⟩ := (setCall_some _ _ _ _ _).mp cleared
  have numbered (spent : env.maxRetries ≤ 0) := owed_numbered owed old spent
  have paid := controlXmit_pays _ buf u owner (peer.trans owed.peer) unsent (nr.trans owed.number)
    (by rw [ns]; simp only [withNumber_here]; exact owed.uncovered)
    (fun spent => by
      refine ⟨old, (numbered spent).member, fun s own => ?_, (numbered spent).uncovered⟩
      obtain ⟨inside, young⟩ := (numbered spent).self s own
      exact ⟨(write_same d.call Call.container c { d.call c with cnu := false } rfl s).trans inside, young⟩) sends
  exact paid

theorem sendControl_minds (c : CallPtr) (body : List UInt8) : Prog.Within (debt.Minds env)
    (sendControl env debt.t c body) :=
  fun d u d' ran => minds_of_grows ((sendsOn_grows env debt.t c).sends body d u d' ran) fun old _ owed =>
    .inr (sendControl_pays c body u old owed ran)

theorem send_minds (depth : Nat) (xmit : ∀ buf, buf.tunnel ≠ some debt.t →
    Prog.Within (debt.Minds env) (controlXmit env depth buf))
    (t : TunnelPtr) (c : CallPtr) (body : List UInt8) (later : Act PUnit) (rest : Prog.Within (debt.Minds env) later) :
    Prog.Within (debt.Minds env) (do
      let buf ← newOutgoing t body
      let buf ← addControlHdr t c buf
      controlXmit env depth buf
      later) := by
  intro d u d' ran
  obtain ⟨buf, sends, owner, peer, unsent, ns, nr⟩ := numbered_some t c body _ d d' u ran
  obtain ⟨_, d₁, sent, followed⟩ := (Prog.bind_some _ _ _ _ _).mp sends
  refine Prog.Steady.trans _ _ _ ?_ (rest d₁ u d' followed)
  by_cases here : t = debt.t
  · subst here
    have grows := Prog.Steady.trans _ _ _ (withNumber_grows d debt.t)
      ((close_within (shuts_grows env) depth).1 buf _ _ d₁ sent)
    refine minds_of_grows grows fun old _ owed => .inr ?_
    have paid := controlXmit_pays depth buf _ owner (peer.trans owed.peer) unsent (nr.trans owed.number)
      (by rw [ns, withNumber_here]; exact owed.uncovered) (owed_numbered owed old) sent
    exact paid
  · have numbered : debt.Minds env d (withNumber d t) :=
      minds_of_grows (withNumber_grows d t) fun _ _ owed => .inl (owed_tunnel owed t _ fun same => absurd same here)
    exact Prog.Steady.trans _ _ _ numbered (xmit buf (fun same => here (Option.some.inj (owner.symm.trans same))) _ _ d₁
      sent)

theorem close_minds (depth : Nat) :
    (∀ buf, buf.tunnel ≠ some debt.t → Prog.Within (debt.Minds env) (controlXmit env depth buf)) ∧
    ∀ c, Prog.Within (debt.Minds env) (callClose env depth c) := by
  have admits : AdmitsUpdates (debt.Minds env) := admits_minds
  induction depth with
  | zero =>
      constructor
      · intro buf _
        rw [controlXmit]
        exact Prog.within_wrong _
      · intro c
        rw [callClose]
        exact Prog.within_wrong _
  | succ depth ih =>
      obtain ⟨xmit, close⟩ := ih
      have marks (c : CallPtr) : Prog.Within (debt.Minds env) (setCall c fun cal => { cal with closing := true }) :=
        admits.call c _ fun _ => ⟨rfl, rfl, fun _ => rfl, rfl⟩
      constructor
      · intro buf other
        rw [controlXmit]
        split
        next => exact Prog.within_ite _ _ _ _ (fun _ => Prog.within_pure _ _) fun _ => Prog.within_wrong _
        next t owner =>
          refine Prog.within_bind (readTunnel_within _ t) fun tun => ?_
          refine Prog.within_ite _ _ _ _ (fun _ => Prog.within_pure _ _) fun _ => ?_
          refine Prog.within_ite _ _ _ _ (fun _ => ?_) fun _ => ?_
          · refine Prog.within_bind (deref_within _ tun.self) fun self =>
              Prog.within_bind (admits.call self _ fun cal => ?_) fun _ => close self
            split
            · exact ⟨rfl, rfl, fun _ => rfl, rfl⟩
            · exact ⟨rfl, rfl, id, rfl⟩
          · exact Prog.within_bind (schedule_within admits env _ _ fun _ => rfl) fun _ => udpXmit_within admits _ t
      · intro c
        rw [callClose]
        refine Prog.within_bind (readCall_within _ c) fun cal => Prog.within_bind (readTunnel_within _ _) fun tun => ?_
        refine Prog.within_ite _ _ _ _ (fun _ => ?_) fun _ => ?_
        · refine Prog.within_bind (descheduleTunnel_within admits _) fun _ => ?_
          refine Prog.within_ite _ _ _ _ (fun _ => destroyTunnel_minds _) fun _ => ?_
          refine Prog.within_bind (noteCloseSs_within admits _ c) fun _ =>
            Prog.within_bind (stopCCNBody_within admits env _ c) fun body => ?_
          refine send_minds depth xmit _ c body _ (Prog.within_bind (readTunnel_within _ _) fun tun => ?_)
          refine Prog.within_bind (Prog.within_forM tun.calls _ fun tmp _ => ?_) fun _ => marks c
          exact Prog.within_bind (admits.call tmp _ fun _ => ⟨rfl, rfl, fun _ => rfl, rfl⟩) fun _ => close tmp
        · refine Prog.within_ite _ _ _ _ (fun _ => destroyCall_minds c) fun _ => ?_
          refine Prog.within_bind (noteCloseSs_within admits _ c) fun _ =>
            Prog.within_bind (cdnBody_within admits env _ c) fun body => ?_
          exact send_minds depth xmit _ c body _ (marks c)

theorem closeRefused_minds (c : CallPtr) : Prog.Within (debt.Minds env) (closeRefused env c) := by
  unfold closeRefused
  exact Prog.within_bind ((close_minds _).2 c) fun _ => Prog.within_pure _ _

theorem assignAddr_minds (t : TunnelPtr) (p : CallPtr) : Prog.Within (debt.Minds env) (assignAddr t p) := by
  have assigns (addr : Nat) : Prog.Within (debt.Minds env) (setCall p fun cal => { cal with addr := addr }) :=
    setCall_minds p _ (fun _ => id) (fun _ => rfl) fun _ _ => rfl
  unfold assignAddr
  refine Prog.within_bind (readTunnel_within _ t) fun tun => Prog.within_bind (deref_within _ tun.lns) fun l => ?_
  refine Prog.within_bind (readLns_within _ l) fun lns => Prog.within_ite _ _ _ _ (fun _ => ?_) fun _ => ?_
  · exact Prog.within_bind (assigns 0) fun _ => Prog.within_pure _ _
  · refine Prog.within_bind (Prog.within_get _) fun d => Prog.within_bind (getAddr_within _ _ _) fun addr => ?_
    refine Prog.within_bind (assigns addr) fun _ => Prog.within_ite _ _ _ _ (fun _ => Prog.within_pure _ _) fun _ => ?_
    exact Prog.within_bind (reserveAddr_minds addr) fun _ => Prog.within_pure _ _

theorem getLocalAddr_minds (t : TunnelPtr) (c : CallPtr) : Prog.Within (debt.Minds env) (getLocalAddr env t c) := by
  unfold getLocalAddr
  refine Prog.within_bind (readTunnel_within _ t) fun tun => Prog.within_bind (deref_within _ tun.lns) fun l => ?_
  refine Prog.within_bind (readLns_within _ l) fun lns =>
    Prog.within_ite _ _ _ _ (fun _ => Prog.within_pure _ _) fun _ => ?_
  refine Prog.within_bind (Prog.within_get _) fun d => Prog.within_bind (getAddr_within _ _ _) fun addr => ?_
  refine Prog.within_bind (readCall_within _ c) fun cal => Prog.within_bind (deref_within _ cal.lns) fun own => ?_
  refine Prog.within_bind (setLns_minds own _) fun _ => Prog.within_ite _ _ _ _ (fun _ => ?_) fun _ => ?_
  · exact Prog.within_bind (setError_within admits_minds.stores c _ _) fun _ => closeRefused_minds c
  · exact Prog.within_bind (reserveAddr_minds addr) fun _ => Prog.within_pure _ _

theorem joinTunnel_minds (c : CallPtr) (answer : List UInt8) : Prog.Within (debt.Minds env)
    (joinTunnel env debt.t c answer) := by
  have later : Prog.Within Grows (do
      connectPppol2tp env debt.t
      startHello env debt.t
      let tun ← readTunnel debt.t
      dialLac env tun.lac
      return 0 : Act Int) := by
    refine Prog.within_bind (connectPppol2tp_within admits_grows env _) fun _ => ?_
    refine Prog.within_bind (startHello_within admits_grows env _) fun _ =>
      Prog.within_bind (readTunnel_within _ _) fun tun => ?_
    exact Prog.within_bind (dialLac_grows env tun.lac) fun _ => Prog.within_pure _ _
  unfold joinTunnel
  refine Prog.within_bind (raises_minds debt.t .SCCCN _ fun _ => ⟨rfl, rfl, rfl⟩) fun _ => ?_
  refine Prog.within_bind (addRandvect_within admits_minds env _) fun vector => ?_
  intro d result d' ran
  obtain ⟨_, d₁, sent, dialled⟩ := (Prog.bind_some _ _ _ _ _).mp ran
  have sends := (sendsOn_grows env debt.t c).sends _ d _ d₁ sent
  have rest := later d₁ result d' dialled
  refine minds_of_grows (Prog.Steady.trans _ _ _ sends rest) fun old _ owed => .inr ?_
  rcases sendControl_pays c _ _ old owed sent with ⟨said, out, hdr, body, member, number⟩ | gone
  · obtain ⟨more, longer⟩ := rest.out
    exact .inl ⟨said ++ more, by rw [longer, out, List.append_assoc], hdr, body, List.mem_append_left _ member, number⟩
  · exact .inr (rest.gone _ (Nat.lt_of_lt_of_le old sends.fresh) gone)

end Debt

end ZyAgf.Xl2tpd
