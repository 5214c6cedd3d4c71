import ZyAgf.Xl2tpd.AvpTrace
import ZyAgf.Xl2tpd.ControlStep

set_option autoImplicit false

namespace ZyAgf.Xl2tpd

-- A tunnel, the entry a message came on and the calls of the tunnel, as get_call
-- finds them: all of them live.
structure Entry (d : Daemon) (t : TunnelPtr) (c : CallPtr) : Prop where
  tunnel : (d.tunnel t).live = true
  call : (d.call c).live = true
  calls : ∀ p ∈ (d.tunnel t).calls, (d.call p).live = true ∧ p < d.fresh
  old : c < d.fresh

theorem entry_reads (d : Daemon) (t : TunnelPtr) (c : CallPtr) (entry : Entry d t c) :
    Reads (standing d t c) (reading d t c) t c d :=
  ⟨entry.tunnel, entry.call, entry.calls, entry.old, rfl, rfl⟩

def messageTrace (env : Env) (d : Daemon) (t : TunnelPtr) (c : CallPtr) (buf : RecvBuffer) : List Visit × Bool :=
  avpTrace env (standing d t c) (buf.len - controlHdrSize) buf.mem controlHdrSize (buf.len - controlHdrSize) true
    (reading d t c)

theorem handleAvps_trace (env : Env) (d : Daemon) (t : TunnelPtr) (c : CallPtr) (buf : RecvBuffer)
    (entry : Entry d t c) :
    ∃ last, Goes env (standing d t c) t c (messageTrace env d t c buf).2 d (messageTrace env d t c buf).1 last ∧
      handleAvps env t c buf d = last.map fun d' => (verdict (messageTrace env d t c buf).2, d') :=
  avpLoop_trace _ buf.mem controlHdrSize _ true _ d (entry_reads d t c entry)

theorem handleAvps_taken (env : Env) (d after : Daemon) (t : TunnelPtr) (c : CallPtr) (buf : RecvBuffer)
    (entry : Entry d t c)
    (parsed : handleAvps env t c buf d = some (0, after)) : (messageTrace env d t c buf).2 = true ∧
      Goes env (standing d t c) t c true d (messageTrace env d t c buf).1 (some after) := by
  obtain ⟨last, goes, ended⟩ := handleAvps_trace env d t c buf entry
  obtain ⟨after', rfl, both⟩ := Option.map_eq_some_iff.mp (ended.symm.trans parsed)
  obtain ⟨taken, rfl⟩ := Prod.mk.inj both
  have whole : (messageTrace env d t c buf).2 = true := by
    cases all : (messageTrace env d t c buf).2 with
    | true => rfl
    | false =>
        rw [all] at taken
        cases taken
  exact ⟨whole, whole ▸ goes⟩

-- The own entry of a tunnel on the list knows it, even once it is gone.
def Housed (d : Daemon) : Prop := ∀ t ∈ d.tunnels, ∀ c, (d.tunnel t).self = some c → (d.call c).container = t ∧
    c < d.fresh

theorem housed_init (deflns : Option Lns) (lnslist : List Lns) (deflac : Option Lac) (laclist : List Lac) :
    Housed (initDaemon deflns lnslist deflac laclist) := by
  intro t member
  cases member

theorem housed_kept (d d' : Daemon) (housed : Housed d) (tunnels : ∀ t ∈ d'.tunnels, t ∈ d.tunnels)
    (grows : d.fresh ≤ d'.fresh)
    (self : ∀ t ∈ d.tunnels, (d'.tunnel t).self = (d.tunnel t).self)
    (container : ∀ c, c < d.fresh → (d'.call c).container = (d.call c).container) : Housed d' := by
  intro t member c own
  have listed := tunnels t member
  rw [self t listed] at own
  obtain ⟨inside, old⟩ := housed t listed c own
  exact ⟨(container c old).trans inside, Nat.lt_of_lt_of_le old grows⟩

theorem housed_withTunnel (env : Env) (d : Daemon) (peer : SockAddr) (refhim : Nat) (linked : Linked d)
    (housed : Housed d) :
    Housed (withTunnel env d peer refhim) := by
  intro t member c own
  rcases List.mem_cons.mp member with rfl | old
  · rw [withTunnel_here] at own
    obtain rfl : d.fresh + 1 = c := Option.some.inj own
    exact ⟨congrArg Call.container (write_here _ _ _), Nat.lt_succ_self _⟩
  · rw [withTunnel_elsewhere env d peer refhim t (Nat.ne_of_lt (linked.listed.2 t old))] at own
    obtain ⟨inside, young⟩ := housed t old c own
    rw [withTunnel_call env d peer refhim c (Nat.ne_of_lt (Nat.lt_succ_of_lt young))]
    exact ⟨inside, Nat.lt_add_right 2 young⟩

theorem perform_housed (env : Env) (d d' : Daemon) (op : Op) (linked : Linked d) (housed : Housed d)
    (done : perform env d op = some d') : Housed d' := by
  by_cases still : op.Relinks
  · have effect := perform_effect env d d' op done
    cases op with
    | newTunnel peer refhim =>
        rcases effect with rfl | rfl | rfl
        · exact housed
        · exact housed_kept d _ housed (fun _ member => member) (Nat.le_succ _)
            (fun t member => by rw [withLostTunnel_elsewhere env d t (Nat.ne_of_lt (linked.listed.2 t member))])
              fun _ _ => rfl
        · exact housed_withTunnel env d peer refhim linked housed
    | newCall t =>
        rcases effect with rfl | ⟨_, rfl⟩
        · exact housed
        · refine housed_kept d _ housed (fun _ member => member) (Nat.le_succ _) (fun other _ => ?_) fun c old => ?_
          · exact write_same d.tunnel Tunnel.self t { d.tunnel t with calls := d.fresh :: (d.tunnel t).calls } rfl other
          · rw [withLinkedCall_call env d t c (Nat.ne_of_lt old)]
    | destroyCall x =>
        obtain ⟨_, _, rest, grows, rfl⟩ := effect
        refine housed_kept d _ housed (fun _ member => member) grows (fun t _ => ?_) fun c _ => ?_
        · exact write_same d.tunnel Tunnel.self (d.call x).container { d.tunnel (d.call x).container with
            calls := (d.tunnel (d.call x).container).calls.erase x } rfl t
        · exact write_same d.call Call.container x { d.call x with live := false, fd := -1, pppd := 0 } rfl c
    | unlink t =>
        obtain rfl := effect
        exact housed_kept d _ housed (fun _ member => List.mem_of_mem_erase member) (Nat.le_refl _) (fun _ _ => rfl)
          fun _ _ => rfl
    | bury t =>
        obtain ⟨_, _, rfl⟩ := effect
        exact housed_kept d _ housed (fun _ member => member) (Nat.le_refl _)
          (fun other _ => write_same d.tunnel Tunnel.self t { d.tunnel t with live := false } rfl other) fun _ _ => rfl
    | _ => exact still.elim
  · have same := perform_sameLinks env d d' op still done
    exact housed_kept d d' housed (fun t member => same.tunnels ▸ member) same.fresh
      (fun t _ => congrArg (fun links => links.2.2.2) (same.tunnel t)) fun c _ =>
        congrArg (fun links => links.2.2) (same.call c)

-- The records hold together, wherever a run of the daemon has got to.
def Settled (d : Daemon) : Prop := Linked d ∧ Housed d

theorem settled_of_performed (env : Env) (allowed : Op → Prop) (d d' : Daemon) (settled : Settled d)
    (performed : Performed env allowed d d') : Settled d' := by
  obtain ⟨visits, run, meets⟩ := performed settled.1.listed
  exact Run.invariant _ Settled settled
    (fun s op s' there _ done => ⟨perform_linked env s s' op there.1 done,
    perform_housed env s s' op there.1 there.2 done⟩) run meets

theorem run_settled (cfg : Config) (deflns : Option Lns) (lnslist : List Lns) (deflac : Option Lac) (laclist : List Lac)
    {visits : List (Daemon × Event)} {finish : Daemon}
    (run : Run (next cfg) (initDaemon deflns lnslist deflac laclist) visits finish) : Settled finish :=
  Run.invariant (fun _ _ => True) Settled ⟨linked_init deflns lnslist deflac laclist,
    housed_init deflns lnslist deflac laclist⟩
    (fun d event d' held _ moved => settled_of_performed _ _ d d' held (next_performed cfg d d' event moved)) run
    (Run.meets_always visits)

theorem findSecure_member (env : Env) (tunnel refhim : Nat) (tunnels : List TunnelPtr) (d d' : Daemon) (t : TunnelPtr)
    (ran : findSecure env tunnel refhim tunnels d = some (some t, d')) : t ∈ tunnels := by
  induction tunnels with
  | nil => cases ((Prog.pure_some _ _ _ _).mp ran).1
  | cons first rest ih =>
      rw [findSecure] at ran
      obtain ⟨tun, d₁, read, ran⟩ := (Prog.bind_some _ _ _ _ _).mp ran
      obtain ⟨_, rfl, rfl⟩ := (readTunnel_some _ _ _ _).mp read
      split at ran
      next =>
        obtain rfl := Option.some.inj ((Prog.pure_some _ _ _ _).mp ran).1
        exact List.mem_cons_self
      next => exact List.mem_cons_of_mem _ (ih ran)

theorem findOurcid_member (ourcid : Nat) (calls : List CallPtr) (d d' : Daemon) (c : CallPtr)
    (ran : findOurcid ourcid calls d = some (some c, d')) : c ∈ calls := by
  induction calls with
  | nil => cases ((Prog.pure_some _ _ _ _).mp ran).1
  | cons first rest ih =>
      rw [findOurcid] at ran
      obtain ⟨cal, d₁, read, ran⟩ := (Prog.bind_some _ _ _ _ _).mp ran
      obtain ⟨_, rfl, rfl⟩ := (readCall_some _ _ _ _).mp read
      split at ran
      next =>
        obtain rfl := Option.some.inj ((Prog.pure_some _ _ _ _).mp ran).1
        exact List.mem_cons_self
      next => exact List.mem_cons_of_mem _ (ih ran)

theorem getCall_some (env : Env) (tunnel call : Nat) (peer : SockAddr) (refhim : Nat) (d found : Daemon) (c : CallPtr)
    (looked : getCall env tunnel call peer refhim d = some (some c, found)) :
    c = d.fresh + 1 ∧ found = withTunnel env d peer refhim ∨
      found = d ∧ ∃ t ∈ d.tunnels, (d.tunnel t).self = some c ∨ c ∈ (d.tunnel t).calls := by
  unfold getCall at looked
  by_cases numbered : tunnel = 0
  · rw [if_pos numbered] at looked
    split at looked
    next => cases ((Prog.pure_some _ _ _ _).mp looked).1
    next =>
      rcases addTunnel_some env peer refhim d found (some c) looked with ⟨_, lost, _⟩ | ⟨_, _, made, same⟩
      · cases lost
      · exact .inl ⟨Option.some.inj made, same⟩
  · rw [if_neg numbered] at looked
    obtain ⟨_, _, got, looked⟩ := (Prog.bind_some _ _ _ _ _).mp looked
    obtain ⟨rfl, rfl⟩ := (Prog.get_some _ _ _).mp got
    obtain ⟨answer, d₁, secure, looked⟩ := (Prog.bind_some _ _ _ _ _).mp looked
    obtain rfl := findSecure_same _ _ _ _ _ _ _ secure
    cases answer with
    | none => cases ((Prog.pure_some _ _ _ _).mp looked).1
    | some t =>
        have listed := findSecure_member env tunnel refhim _ _ _ t secure
        obtain ⟨tun, d₂, read, looked⟩ := (Prog.bind_some _ _ _ _ _).mp looked
        obtain ⟨_, rfl, rfl⟩ := (readTunnel_some _ _ _ _).mp read
        split at looked
        next =>
          obtain ⟨own, rfl⟩ := (Prog.pure_some _ _ _ _).mp looked
          exact .inr ⟨rfl, t, listed, .inl own⟩
        next =>
          have member := findOurcid_member _ _ _ _ c looked
          exact .inr ⟨findOurcid_same _ _ _ _ _ looked, t, listed, .inr member⟩

theorem getCall_listed (env : Env) (tunnel call : Nat) (peer : SockAddr) (refhim : Nat) (d found : Daemon) (c : CallPtr)
    (settled : Settled d) (looked : getCall env tunnel call peer refhim d = some (some c, found)) :
    (found.call c).container ∈ found.tunnels := by
  rcases getCall_some env tunnel call peer refhim d found c looked with ⟨rfl, rfl⟩ | ⟨rfl, t, listed, own | member⟩
  · have own : ((withTunnel env d peer refhim).call (d.fresh + 1)).container = d.fresh :=
      congrArg Call.container (write_here _ _ _)
    rw [own]
    exact List.mem_cons_self
  · rw [(settled.2 t listed c own).1]
    exact listed
  · rw [(settled.1.calls t listed c member).2]
    exact listed

-- A packet on an entry that is no ZLB and passes check_control is a message for
-- handle_avps, which finds the daemon in this state.
def Presentation.hears (p : Presentation) : Bool := p.onEntry && inOrderOk p.buf p.tun && !isZlb p.buf

def Presentation.heard (p : Presentation) : Daemon :=
  { p.found with
    tunnel := write p.found.tunnel p.t (checkedTunnel p.buf (withoutVector p.tun))
    call := write p.found.call p.c { checkedCall p.buf p.tun (p.found.call p.c) with msgtype := -1 } }

theorem heard_tunnel (p : Presentation) : p.heard.tunnel p.t = checkedTunnel p.buf (withoutVector p.tun) :=
    write_here _ _ _

section Heard

variable (cfg : Config) (d d' : Daemon) (event : Event) (p : Presentation)

theorem handleControl_hears (env : Env) (result : Int) (after : Daemon) (passed : inOrderOk p.buf p.tun = true)
    (full : isZlb p.buf = false)
    (ran : handleControl env p.buf p.t p.c { p.found with tunnel := write p.found.tunnel p.t (withoutVector p.tun) } =
    some (result, after)) :
    (do
      let failed ← handleAvps env p.t p.c p.buf
      if failed ≠ 0 then return einval else controlFinish env p.t p.c : Act Int) p.heard = some (result, after) := by
  have expected : inOrder p.buf p.tun = true := by
    simp only [inOrderOk, Bool.and_eq_true] at passed
    exact passed.1
  have silent : answersOld p.buf p.tun = false := by simp [answersOld, expected]
  have long : ¬ p.buf.len = controlHdrSize := by simpa [isZlb] using full
  unfold handleControl at ran
  obtain ⟨bad, d₁, checked, ran⟩ := (Prog.bind_some _ _ _ _ _).mp ran
  obtain ⟨verdict, rfl⟩ := checkControl_some p.buf p.t p.c _ d₁ bad checked
  simp only [write_here, inOrderOk_withoutVector] at verdict
  rw [if_neg (not_not_intro (verdict.mpr passed))] at ran
  obtain ⟨_, d₂, noted, ran⟩ := (Prog.bind_some _ _ _ _ _).mp ran
  obtain ⟨_, rfl⟩ := (setCall_some _ _ _ _ _).mp noted
  rw [if_neg long] at ran
  simp only [write_here, write_same_address, checkedCall_withoutVector, answersOld_withoutVector, silent,
    Bool.false_eq_true,
    if_false, List.append_nil] at ran
  exact ran

theorem next_hears (presented : presentation cfg d event = some p) (hears : p.hears = true)
    (moved : next cfg d event = some d') :
    ∃ u result after, (do
      let failed ← handleAvps { toConfig := cfg, toWorld := event.world } p.t p.c p.buf
      if failed ≠ 0 then return einval else controlFinish { toConfig := cfg, toWorld := event.world } p.t p.c : Act Int)
        p.heard =
        some (result, after) ∧ acknowledge p.c after = some (u, d') := by
  simp only [Presentation.hears, Bool.and_eq_true, Bool.not_eq_true'] at hears
  obtain ⟨⟨onEntry, passed⟩, full⟩ := hears
  obtain ⟨peer, refhim, datagram, occurs, reaches⟩ := presentation_some cfg d event p presented
  obtain ⟨u, received⟩ := next_received cfg d d' event moved peer refhim datagram occurs
  have onCall := receive_delivered _ d d' p.found peer refhim datagram p.buf p.c u (reaches.onEntry onEntry) received
  obtain ⟨result, after, handled, acknowledged⟩ := receiveOnCall_some _ p.buf p.c p.found d' u onCall
  rw [handlePacket_control _ _ _ _ reaches.control] at handled
  exact ⟨u, result, after, handleControl_hears p _ result after passed full handled, acknowledged⟩

theorem found_settled (settled : Settled d) (presented : presentation cfg d event = some p) (hears : p.hears = true) :
    Settled p.found ∧ p.t ∈ p.found.tunnels := by
  simp only [Presentation.hears, Bool.and_eq_true, Bool.not_eq_true'] at hears
  obtain ⟨peer, refhim, datagram, occurs, reaches⟩ := presentation_some cfg d event p presented
  have looked := (reaches.onEntry hears.1.1).lookup
  have found : Performed _ (fun _ => True) d p.found := getCall_performed _ _ peer refhim trivial d _ p.found looked
  exact ⟨settled_of_performed _ _ d p.found settled found,
    getCall_listed _ _ _ peer refhim d p.found p.c settled looked⟩

theorem found_live (presented : presentation cfg d event = some p) (hears : p.hears = true)
    (moved : next cfg d event = some d') :
    (p.found.call p.c).live = true := by
  simp only [Presentation.hears, Bool.and_eq_true, Bool.not_eq_true'] at hears
  obtain ⟨peer, refhim, datagram, occurs, reaches⟩ := presentation_some cfg d event p presented
  obtain ⟨u, received⟩ := next_received cfg d d' event moved peer refhim datagram occurs
  have onCall := receive_delivered _ d d' p.found peer refhim datagram p.buf p.c u (reaches.onEntry hears.1.1) received
  unfold receiveOnCall at onCall
  obtain ⟨cal, d₁, read, _⟩ := (Prog.bind_some _ _ _ _ _).mp onCall
  exact ((readCall_some _ _ _ _).mp read).1

theorem heard_entry (settled : Settled d) (presented : presentation cfg d event = some p) (hears : p.hears = true)
    (live : (p.found.call p.c).live = true) : Entry p.heard p.t p.c := by
  obtain ⟨⟨linked, _⟩, listed⟩ := found_settled cfg d event p settled presented hears
  have tunnel : (p.heard.tunnel p.t).live = (p.found.tunnel p.t).live ∧
    (p.heard.tunnel p.t).calls = (p.found.tunnel p.t).calls := by
    rw [heard_tunnel]
    unfold checkedTunnel
    split <;> exact ⟨rfl, rfl⟩
  have call (c : CallPtr) : (p.heard.call c).live = (p.found.call c).live := by
    refine write_same p.found.call Call.live p.c _ ?_ c
    show (checkedCall p.buf p.tun (p.found.call p.c)).live = _
    unfold checkedCall
    split
    · rfl
    · split <;> rfl
  refine ⟨tunnel.1.trans (linked.live p.t listed), (call p.c).trans live, fun c member => ?_, linked.call_old p.c live⟩
  have alive := (linked.calls p.t listed c (tunnel.2 ▸ member)).1
  exact ⟨(call c).trans alive, linked.call_old c alive⟩

theorem heard_self (settled : Settled d) (presented : presentation cfg d event = some p) (hears : p.hears = true)
    (self : CallPtr)
    (own : (p.heard.tunnel p.t).self = some self) : self < p.heard.fresh := by
  obtain ⟨⟨_, housed⟩, listed⟩ := found_settled cfg d event p settled presented hears
  have same : (p.heard.tunnel p.t).self = (p.found.tunnel p.t).self := by
    rw [heard_tunnel]
    unfold checkedTunnel
    split <;> rfl
  exact (housed p.t listed self (same ▸ own)).2

end Heard

-- What a datagram leads to that brings no message to handle_avps.
def Op.Idles : Op → Prop
  | .newTunnel _ _ | .check _ _ _ | .zlb _ _ | .mark _ _ => True
  | op => op.ClosesDown

theorem idles_of_closesDown (op : Op) (closesDown : op.ClosesDown) : op.Idles := by
  cases op <;> trivial

section Unheard

variable (env : Env) (buf : RecvBuffer) (t : TunnelPtr) (c : CallPtr) (d d' : Daemon)

theorem handleControl_idles (result : Int) (unheard : (inOrderOk buf (d.tunnel t) && !isZlb buf) = false)
    (ran : handleControl env buf t c d = some (result, d')) : Performed env Op.Idles d d' := by
  unfold handleControl at ran
  obtain ⟨bad, d₁, checked, ran⟩ := (Prog.bind_some _ _ _ _ _).mp ran
  refine Prog.Steady.trans _ _ _ (checkControl_does buf t c trivial d bad d₁ checked) ?_
  obtain ⟨passes, _⟩ := checkControl_some buf t c d d₁ bad checked
  by_cases failed : bad ≠ 0
  · rw [if_pos failed] at ran
    obtain ⟨_, rfl⟩ := (Prog.pure_some _ _ _ _).mp ran
    exact Prog.Steady.refl _
  · rw [passes.mp (not_not.mp failed), Bool.true_and, Bool.not_eq_false'] at unheard
    have empty : buf.len = controlHdrSize := by simpa [isZlb] using unheard
    rw [if_neg failed, if_pos empty] at ran
    refine Prog.within_bind (mark_performed c (-1) trivial) (fun _ => ?_) d₁ result d' ran
    exact Prog.within_bind (takeZlb_does t c trivial) fun _ => Prog.within_pure _ _

theorem receiveOnCall_idles (u : PUnit)
    (unheard : CTBIT (hostWord buf.mem 0) = true → (inOrderOk buf (d.tunnel (d.call c).container) && !isZlb buf) =
    false)
    (ran : receiveOnCall env buf c d = some (u, d')) : Performed env Op.Idles d d' := by
  unfold receiveOnCall at ran
  obtain ⟨cal, d₁, read, ran⟩ := (Prog.bind_some _ _ _ _ _).mp ran
  obtain ⟨_, rfl, rfl⟩ := (readCall_some _ _ _ _).mp read
  obtain ⟨_, d₂, dropped, ran⟩ := (Prog.bind_some _ _ _ _ _).mp ran
  refine Prog.Steady.trans _ _ _ (closesDown_setTunnel idles_of_closesDown (d₁.call c).container withoutVector
    (fun _ => rfl) d₁ _ d₂ dropped) ?_
  obtain ⟨_, rfl⟩ := (setTunnel_some _ _ _ _ _).mp dropped
  obtain ⟨result, d₃, handled, ran⟩ := (Prog.bind_some _ _ _ _ _).mp ran
  refine Prog.Steady.trans _ _ _ ?_ (acknowledge_within (closesDown_tiesOnly idles_of_closesDown) c d₃ u d' ran)
  by_cases control : CTBIT (hostWord buf.mem 0) = true
  · rw [handlePacket_control _ _ _ _ control] at handled
    refine handleControl_idles env buf _ c _ d₃ result ?_ handled
    simp only [write_here]
    exact unheard control
  · unfold handlePacket at handled
    rw [if_neg control] at handled
    exact handlePayload_within (closesDown_tiesOnly idles_of_closesDown) buf _ c _ result d₃ handled

end Unheard

theorem next_unheard (cfg : Config) (d d' : Daemon) (event : Event) (rel : Daemon → Daemon → Prop) [Prog.Steady rel]
    (managing : Managing { toConfig := cfg, toWorld := event.world } rel)
    (idles : ∀ d d', Performed { toConfig := cfg, toWorld := event.world } Op.Idles d d' → rel d d')
    (edits : ∀ name options u, event.occurs = .command (.lnsAddModify name options) →
      controlHandleLnsAddModify name options d = some (u, d') → rel d d')
    (unheard : ∀ p, presentation cfg d event = some p → p.hears = false)
    (moved : next cfg d event = some d') : rel d d' := by
  by_cases received : ∃ peer refhim datagram, event.occurs = .datagram peer refhim datagram
  · obtain ⟨peer, refhim, datagram, occurs⟩ := received
    obtain ⟨u, ran⟩ := next_received cfg d d' event moved peer refhim datagram occurs
    refine idles d d' ?_
    unfold presentation at unheard
    simp only [occurs] at unheard
    obtain ⟨buf, header⟩ : ∃ buf : RecvBuffer, buf = { datagram with mem := fixHdr datagram.mem } := ⟨_, rfl⟩
    have mem : fixHdr datagram.mem = buf.mem := by rw [header]
    unfold receive at ran
    rw [← header] at ran
    rw [← header, mem] at unheard
    split at ran
    next =>
      obtain ⟨_, rfl⟩ := (Prog.pure_some _ _ _ _).mp ran
      exact Prog.Steady.refl _
    next long =>
      obtain ⟨answer, d₁, looked, ran⟩ := (Prog.bind_some _ _ _ _ _).mp ran
      refine Prog.Steady.trans _ _ _ (getCall_performed _ _ peer refhim trivial d answer d₁ looked) ?_
      cases answer with
      | some c =>
          refine receiveOnCall_idles _ buf c d₁ d' u (fun control => ?_) ran
          have passed := unheard ⟨true, buf, d₁, c⟩ (by
            rw [if_pos ⟨Nat.le_of_not_lt long, control⟩]
            unfold presentedBy
            rw [looked])
          simpa [Presentation.hears, Presentation.tun, Presentation.t] using passed
      | none =>
          exact receiveOnTunnel_within (closesDown_tiesOnly idles_of_closesDown)
            (fun _ _ _ => checkControl_does _ _ _ trivial) _ _ _ d₁ u d' ran
  · have other : ∀ peer refhim datagram, event.occurs ≠ .datagram peer refhim datagram :=
      fun peer refhim datagram occurs => received ⟨peer, refhim, datagram, occurs⟩
    unfold next at moved
    obtain ⟨⟨u, after⟩, ran, rfl⟩ := Option.map_eq_some_iff.mp moved
    exact handle_within managing event.occurs other (fun name options occurs => edits name options u occurs) ran

theorem next_finished (cfg : Config) (d d' : Daemon) (event : Event) (p : Presentation)
    (presented : presentation cfg d event = some p) (hears : p.hears = true) (moved : next cfg d event = some d') :
    (∃ after, Performed { toConfig := cfg, toWorld := event.world } (Op.Parses p.t p.c) p.heard after ∧
      Performed { toConfig := cfg, toWorld := event.world } Op.ClosesDown after d') ∨
    ∃ after result final, handleAvps { toConfig := cfg, toWorld := event.world } p.t p.c p.buf p.heard = some
      (0, after) ∧
      Performed { toConfig := cfg, toWorld := event.world } (Op.Parses p.t p.c) p.heard after ∧
      controlFinish { toConfig := cfg, toWorld := event.world } p.t p.c after = some (result, final) ∧
      Performed { toConfig := cfg, toWorld := event.world } Op.ClosesDown final d' := by
  obtain ⟨u, result, final, ran, acknowledged⟩ := next_hears cfg d d' event p presented hears moved
  have later : Performed { toConfig := cfg, toWorld := event.world } Op.ClosesDown final d' :=
    acknowledge_within (closesDown_tiesOnly fun _ closesDown => closesDown) p.c final u d' acknowledged
  obtain ⟨failed, after, parsed, ran⟩ := (Prog.bind_some _ _ _ _ _).mp ran
  have reads := handleAvps_does p.t p.c (fun op (parses : op.Parses p.t p.c) => parses) p.buf p.heard failed after
    parsed
  by_cases bad : failed ≠ 0
  · rw [if_pos bad] at ran
    obtain ⟨_, rfl⟩ := (Prog.pure_some _ _ _ _).mp ran
    exact .inl ⟨after, reads, later⟩
  · obtain rfl := not_not.mp bad
    exact .inr ⟨after, result, final, parsed, reads, ran, later⟩

end ZyAgf.Xl2tpd
