import ZyAgf.Xl2tpd.TiesOnlyDaemon
import ZyAgf.Xl2tpd.TiesOnlyDial
import ZyAgf.Xl2tpd.Message

set_option autoImplicit false

namespace ZyAgf.Xl2tpd

-- What the daemon does to the ties, one by one: a relation that keeps to each of
-- these is kept to by everything but the note that a dialling is due.
structure TieSteps (env : Env) (rel : Daemon → Daemon → Prop) : Prop where
  tied : ∀ d d', Tied d d' → rel d d'
  chooses : ∀ t d chosen, (d.tunnel t).live = true → (∀ l, chosen = some l → (d.lns l).live = true) →
    rel d { d with tunnel := write d.tunnel t { d.tunnel t with lns := chosen } }
  makes : ∀ peer refhim, Prog.Within rel (addTunnel env peer refhim)
  rings : ∀ t, Prog.Within rel (addIncomingCall env t)
  opens : ∀ addr port lac, Prog.Within rel (openTunnel env addr port lac)
  places : ∀ t lac dialNo, Prog.Within rel (placeCall env t lac dialNo)
  redials : ∀ l, Prog.Within rel (redialLater env l)
  destroyCall : ∀ c d u d', (d.tunnel (d.call c).container).self ≠ some c → destroyCall env c d = some (u, d') →
    rel d d'
  destroyTunnel : ∀ t c d u d', (d.tunnel t).self = some c → (d.call c).container = t →
    destroyTunnel env t d = some (u, d') → rel d d'

section TieSteps

variable {env : Env} {rel : Daemon → Daemon → Prop} (works : TieSteps env rel)

include works

theorem TieSteps.tiesOnly : TiesOnly rel := tiesOnly_weaken works.tied tiesOnly_tied

theorem TieSteps.closes : Closes env rel := ⟨works.tiesOnly, works.destroyCall, works.destroyTunnel⟩

variable [Prog.Steady rel]

theorem TieSteps.sends : Sends env rel := sends_of_closes works.closes

theorem TieSteps.dials : Dials env rel where
  initiates t c := initiate_starts (startTunnel_within (works.sends.on t c) (raises_of_tied works.tied t _)
    (challenges_of_tied works.tied t))
    (startIncoming_within (works.sends.on t c) (raisesCall_of_tied works.tied c _))
    (startOutgoing_within (works.sends.on t c) (raisesCall_of_tied works.tied c _))
  redials := works.redials
  opens := works.opens
  places := works.places

theorem closeRefused_works (p : CallPtr) : Prog.Within rel (closeRefused env p) := by
  unfold closeRefused
  exact Prog.within_bind ((close_within works.closes _).2 p) fun _ => Prog.within_pure _ _

theorem getLocalAddr_works (t : TunnelPtr) (c : CallPtr) : Prog.Within rel (getLocalAddr env t c) := by
  unfold getLocalAddr
  refine Prog.within_bind (readTunnel_within _ t) fun tun => Prog.within_bind (deref_within _ tun.lns) fun l => ?_
  refine Prog.within_bind (readLns_within _ l) fun lns =>
    Prog.within_ite _ _ _ _ (fun _ => Prog.within_pure _ _) fun _ => ?_
  refine Prog.within_bind (Prog.within_get _) fun d => Prog.within_bind (getAddr_within _ _ _) fun addr => ?_
  refine Prog.within_bind (readCall_within _ c) fun cal => Prog.within_bind (deref_within _ cal.lns) fun own => ?_
  have stores := Prog.within_weaken _ _ _ works.tied
    (setLns_tied own (fun lns => { lns with localaddr := addr }) fun _ => rfl)
  refine Prog.within_bind stores fun _ => Prog.within_ite _ _ _ _ (fun _ => ?_) fun _ => ?_
  · exact Prog.within_bind (setError_within works.tiesOnly.admits.stores c _ _) fun _ => closeRefused_works works c
  · exact Prog.within_bind (Prog.within_weaken _ _ _ works.tied (reserveAddr_tied addr)) fun _ => Prog.within_pure _ _

theorem handleAvps_works (t : TunnelPtr) (c : CallPtr) (buf : RecvBuffer) : Prog.Within rel (handleAvps env t c buf) :=
  handleAvps_within works.tiesOnly.admits.stores
    (fun _ => Prog.within_weaken _ _ _ works.tied (setCall_tied c _ fun _ => ⟨rfl, id⟩)) (works.rings t) buf

theorem controlFinish_works {t : TunnelPtr} {c : CallPtr} {d d' : Daemon} {result : Int}
    (joins : Msg.ofCode (d.call c).msgtype = some .SCCRP → finishSCCRP env t c d = some (result, d') → rel d d')
    (ran : controlFinish env t c d = some (result, d')) : rel d d' := by
  have challenges := challenges_of_tied works.tied t
  refine controlFinish_leads (Prog.Leads.self _) works.tiesOnly.admits ran
    (fun _ => works.dials.initiates t c d result d') (fun _ => ?_) joins (fun _ => ?_)
    (fun _ => ?_) (fun _ => ?_) fun _ => ?_
  · exact finishSCCRQ_within (works.sends.on t c) (raises_of_tied works.tied t _) challenges
      (works.chooses t) d result d'
  · exact finishSCCCN_within works.tiesOnly (raises_of_tied works.tied t _) c d result d'
  · refine finishICRQ_within works.tiesOnly.admits (fun p => works.sends.on t p)
      (fun p => raisesCall_of_tied works.tied p _) (fun p => ?_) (closeRefused_works works) d result d'
    exact Prog.within_weaken _ _ _ works.tied (assignAddr_tied t p)
  · exact finishICRP_within (works.sends.on t c) (raisesCall_of_tied works.tied c _) d result d'
  · exact finishICCN_within works.tiesOnly (raisesCall_of_tied works.tied c _) (fun d d' full _ took =>
      getLocalAddr_works works t c d full d' took) d result d'

theorem getCall_works (tunnel call : Nat) (peer : SockAddr) (refhim : Nat) : Prog.Within rel
    (getCall env tunnel call peer refhim) := by
  intro d found d' ran
  by_cases numbered : tunnel = 0
  · unfold getCall at ran
    rw [if_pos numbered] at ran
    exact Prog.within_ite _ _ _ _ (fun _ => Prog.within_pure _ _) (fun _ => works.makes peer refhim) d found d' ran
  · rw [getCall_same env tunnel call peer refhim d d' found numbered ran]
    exact Prog.Steady.refl d

end TieSteps

-- Without a message for handle_avps, no tie changes behind get_call.
section Unheard

variable {env : Env} {buf : RecvBuffer} {t : TunnelPtr} {c : CallPtr} {d d' : Daemon}

theorem handleControl_tied {result : Int} (unheard : (inOrderOk buf (d.tunnel t) && !isZlb buf) = false)
    (ran : handleControl env buf t c d = some (result, d')) : Tied d d' := by
  unfold handleControl at ran
  obtain ⟨bad, d₁, checked, ran⟩ := (Prog.bind_some _ _ _ _ _).mp ran
  refine Prog.Steady.trans _ _ _ (checkControl_tied buf t c d bad d₁ checked) ?_
  obtain ⟨passes, _⟩ := checkControl_some buf t c d d₁ bad checked
  by_cases failed : bad ≠ 0
  · rw [if_pos failed] at ran
    obtain ⟨_, rfl⟩ := (Prog.pure_some _ _ _ _).mp ran
    exact Prog.Steady.refl _
  · rw [passes.mp (not_not.mp failed), Bool.true_and, Bool.not_eq_false'] at unheard
    have empty : buf.len = controlHdrSize := by simpa [isZlb] using unheard
    rw [if_neg failed, if_pos empty] at ran
    refine Prog.within_bind (setCall_tied c (fun cal => { cal with msgtype := -1 }) fun _ => ⟨rfl, id⟩)
      (fun _ => ?_) d₁ result d' ran
    exact Prog.within_bind (takeZlb_tied t c) fun _ => Prog.within_pure _ _

theorem receiveOnCall_tied {u : PUnit}
    (unheard : CTBIT (hostWord buf.mem 0) = true → (inOrderOk buf (d.tunnel (d.call c).container) && !isZlb buf) =
    false)
    (ran : receiveOnCall env buf c d = some (u, d')) : Tied d d' := by
  unfold receiveOnCall at ran
  obtain ⟨cal, d₁, read, ran⟩ := (Prog.bind_some _ _ _ _ _).mp ran
  obtain ⟨_, rfl, rfl⟩ := (readCall_some _ _ _ _).mp read
  obtain ⟨_, d₂, dropped, ran⟩ := (Prog.bind_some _ _ _ _ _).mp ran
  refine Prog.Steady.trans _ _ _ (setTunnel_tied (d₁.call c).container withoutVector (fun _ => rfl) d₁ _ d₂ dropped) ?_
  obtain ⟨_, rfl⟩ := (setTunnel_some _ _ _ _ _).mp dropped
  obtain ⟨result, d₃, handled, ran⟩ := (Prog.bind_some _ _ _ _ _).mp ran
  refine Prog.Steady.trans _ _ _ ?_ (acknowledge_within tiesOnly_tied c d₃ u d' ran)
  by_cases control : CTBIT (hostWord buf.mem 0) = true
  · rw [handlePacket_control _ _ _ _ control] at handled
    refine handleControl_tied ?_ handled
    simp only [write_here]
    exact unheard control
  · unfold handlePacket at handled
    rw [if_neg control] at handled
    exact handlePayload_within tiesOnly_tied buf _ c _ result d₃ handled

end Unheard

theorem heard_tied (p : Presentation) : Tied p.found p.heard := by
  have dropped : Tied p.found
    { p.found with tunnel := write p.found.tunnel p.t (checkedTunnel p.buf (withoutVector p.tun)) } := by
    refine ⟨rfl, rfl, write_same p.found.tunnel Tunnel.ties p.t _ ?_, fun _ => rfl, fun _ => rfl, fun _ => rfl, fun _ =>
      rfl,
      fun _ => id⟩
    unfold checkedTunnel
    split <;> rfl
  refine Prog.Steady.trans _ _ _ dropped (tied_call _ p.c _ ?_ ?_)
  · show (checkedCall p.buf p.tun (p.found.call p.c)).ties = _
    unfold checkedCall
    split
    · rfl
    · split <;> rfl
  · intro already
    show (checkedCall p.buf p.tun (p.found.call p.c)).closing = true
    unfold checkedCall
    split
    · exact already
    · split
      · rfl
      · exact already

theorem delivered_presented (cfg : Config) (d found : Daemon) (event : Event) (peer : SockAddr) (refhim : Nat)
    (datagram buf : RecvBuffer) (c : CallPtr) (occurs : event.occurs = .datagram peer refhim datagram)
    (delivered : Delivered { toConfig := cfg, toWorld := event.world } d peer refhim datagram buf found c)
    (control : CTBIT (hostWord buf.mem 0) = true) : presentation cfg d event = some ⟨true, buf, found, c⟩ := by
  obtain ⟨long, rfl, lookup⟩ := delivered
  unfold presentation
  rw [occurs]
  dsimp only
  rw [if_pos ⟨long, control⟩]
  unfold presentedBy
  rw [lookup]

theorem next_received_works {cfg : Config} {d d' : Daemon} {event : Event}
    {rel : Daemon → Daemon → Prop} [Prog.Steady rel]
    (works : TieSteps { toConfig := cfg, toWorld := event.world } rel)
    (finishes : ∀ p after result final, presentation cfg d event = some p → p.hears = true →
      handleAvps { toConfig := cfg, toWorld := event.world } p.t p.c p.buf p.heard = some (0, after) →
      controlFinish { toConfig := cfg, toWorld := event.world } p.t p.c after = some (result, final) → rel after final)
    (peer : SockAddr) (refhim : Nat) (datagram : RecvBuffer) (occurs : event.occurs = .datagram peer refhim datagram)
    (moved : next cfg d event = some d') : rel d d' := by
  have acknowledges := acknowledge_within works.tiesOnly
  obtain ⟨u, ran⟩ := next_received cfg d d' event moved peer refhim datagram occurs
  by_cases heard : ∃ p, presentation cfg d event = some p ∧ p.hears = true
  · obtain ⟨p, presented, hears⟩ := heard
    obtain ⟨_, result, final, handled, acknowledged⟩ := next_hears cfg d d' event p presented hears moved
    obtain ⟨failed, after, parsed, finished⟩ := (Prog.bind_some _ _ _ _ _).mp handled
    have looks : rel d p.found := by
      obtain ⟨_, _, _, _, reaches⟩ := presentation_some cfg d event p presented
      have onEntry : p.onEntry = true := by
        simp only [Presentation.hears, Bool.and_eq_true] at hears
        exact hears.1.1
      exact getCall_works works _ _ _ _ d _ p.found (reaches.onEntry onEntry).lookup
    refine Prog.Steady.trans _ _ _ looks (Prog.Steady.trans _ _ _ (works.tied _ _ (heard_tied p)) ?_)
    refine Prog.Steady.trans _ _ _ (handleAvps_works works p.t p.c p.buf p.heard failed after parsed) ?_
    refine Prog.Steady.trans _ _ _ ?_ (acknowledges p.c final _ d' acknowledged)
    by_cases bad : failed ≠ 0
    · rw [if_pos bad] at finished
      obtain ⟨_, rfl⟩ := (Prog.pure_some _ _ _ _).mp finished
      exact Prog.Steady.refl _
    · rw [if_neg bad] at finished
      exact finishes p after result final presented hears (not_not.mp bad ▸ parsed) finished
  · unfold receive at ran
    split at ran
    next =>
      obtain ⟨_, rfl⟩ := (Prog.pure_some _ _ _ _).mp ran
      exact Prog.Steady.refl _
    next long =>
      obtain ⟨answer, d₁, looked, ran⟩ := (Prog.bind_some _ _ _ _ _).mp ran
      refine Prog.Steady.trans _ _ _ (getCall_works works _ _ peer refhim d answer d₁ looked) (works.tied _ _ ?_)
      cases answer with
      | none => exact receiveOnTunnel_within tiesOnly_tied checkControl_tied _ _ _ d₁ u d' ran
      | some c =>
          refine receiveOnCall_tied (fun control => Bool.eq_false_iff.mpr fun passed => heard ?_) ran
          have delivered : Delivered _ d peer refhim datagram { datagram with mem := fixHdr datagram.mem } d₁ c :=
            ⟨Nat.le_of_not_lt long, rfl, looked⟩
          exact ⟨_, delivered_presented cfg d d₁ event peer refhim datagram _ c occurs delivered control, by
            simpa [Presentation.hears, Presentation.tun, Presentation.t] using passed⟩

-- What timers and commands do besides: an entry is switched on and off, added
-- and, where the relation bears it, removed.
structure Manages (env : Env) (rel : Daemon → Daemon → Prop) : Prop where
  works : TieSteps env rel
  switches : ∀ l change, (∀ lac : Lac, (change lac).live = lac.live ∧ (change lac).rsched = lac.rsched ∧
    (change lac).t = lac.t ∧
    (change lac).c = lac.c) → Prog.Within rel (setLac l change)
  addsLac : ∀ (d : Daemon) (entry : Lac) (dials : Bool), rel d { d with
    lac := write d.lac d.fresh
      { entry with live := true, rsched := false, active := dials, rtries := 0, t := none, c := none }
    laclist := d.fresh :: d.laclist, fresh := d.fresh + 1, switchIo := d.switchIo || dials }
  addsLns : ∀ (d : Daemon) (entry : Lns), rel d { d with
    lns := write d.lns d.fresh { entry with live := true, t := none }, lnslist := d.fresh :: d.lnslist, fresh :=
      d.fresh + 1 }

structure Strikes (rel : Daemon → Daemon → Prop) : Prop where
  forgets : ∀ t, Prog.Within rel (setTunnel t fun tun => { tun with lac := none })
  forgetsCall : ∀ c, Prog.Within rel (setCall c fun cal => { cal with lac := none })
  dropsLac : ∀ l, Prog.Within rel (setLac l fun lac => { lac with live := false })
  dropsLns : ∀ l, Prog.Within rel (setLns l fun lns => { lns with live := false })
  unlistsLac : ∀ d l, rel d { d with laclist := d.laclist.erase l }
  unlistsLns : ∀ d l, rel d { d with lnslist := d.lnslist.erase l }

section Removing

variable {env : Env} {rel : Daemon → Daemon → Prop} [Prog.Steady rel] (manages : Manages env rel)
    (strikes : Strikes rel)

include manages

omit [Prog.Steady rel] in
theorem leaves_manages (l : LacPtr) : Prog.Within rel (setLac l fun lac => { lac with active := false, rtries := 0 }) :=
  manages.switches l _ fun _ => ⟨rfl, rfl, rfl, rfl⟩

include strikes

omit manages in
theorem forgetLac_strikes (calls : List CallPtr) : Prog.Within rel (forgetLac calls) := by
  induction calls with
  | nil => exact Prog.within_pure _ _
  | cons c rest ih =>
      rw [forgetLac]
      exact Prog.within_bind (strikes.forgetsCall c) fun _ => ih

omit manages in
theorem detachTunnel_strikes (t : Option TunnelPtr) : Prog.Within rel (detachTunnel t) := by
  cases t with
  | none => exact Prog.within_pure _ _
  | some t =>
      refine Prog.within_bind (strikes.forgets t) fun _ => Prog.within_bind (readTunnel_within _ t) fun tun => ?_
      exact Prog.within_bind (deref_within _ tun.self) fun self => strikes.forgetsCall self

omit manages in
theorem detachCalls_strikes (c : Option CallPtr) : Prog.Within rel (detachCalls c) := by
  cases c with
  | none => exact Prog.within_pure _ _
  | some c =>
      refine Prog.within_bind ?_ fun calls => forgetLac_strikes strikes calls
      unfold callsFrom
      refine Prog.within_bind (readCall_within _ c) fun cal => ?_
      exact Prog.within_bind (readTunnel_within _ _) fun tun => Prog.within_pure _ _

theorem controlHandleLacRemove_strikes (name : CString) : Prog.Within rel (controlHandleLacRemove env name) := by
  unfold controlHandleLacRemove
  refine Prog.within_bind (Prog.within_get _) fun d => Prog.within_bind (findLac_within _ name _) fun found => ?_
  split
  next => exact Prog.within_pure _ _
  next l =>
    refine Prog.within_bind (disconnectEntry_closes manages.works.closes (leaves_manages manages) l) fun _ => ?_
    refine Prog.within_bind (readLac_within _ l) fun lac =>
      Prog.within_bind (detachTunnel_strikes strikes lac.t) fun _ => ?_
    refine Prog.within_bind (readLac_within _ l) fun lac =>
      Prog.within_bind (detachCalls_strikes strikes lac.c) fun _ => ?_
    exact Prog.within_bind (Prog.within_modify _ _ fun d => strikes.unlistsLac d l) fun _ => strikes.dropsLac l

theorem controlHandleLnsRemove_strikes (name : CString) : Prog.Within rel (controlHandleLnsRemove env name) := by
  unfold controlHandleLnsRemove
  refine Prog.within_bind (Prog.within_get _) fun d => Prog.within_bind (findLns_within _ name _) fun found => ?_
  split
  next => exact Prog.within_pure _ _
  next l =>
    refine Prog.within_bind (closeServed_closes manages.works.closes l _) fun _ => ?_
    exact Prog.within_bind (Prog.within_modify _ _ fun d => strikes.unlistsLns d l) fun _ => strikes.dropsLns l

end Removing

section Managing

variable {env : Env} {rel : Daemon → Daemon → Prop} [Prog.Steady rel] (manages : Manages env rel)

include manages

theorem processSchedule_manages {d d' : Daemon} {u : PUnit}
    (dues : ∀ tv l rest, d.events = ⟨tv, .magicLacDial l⟩ :: rest →
    magicLacDial env l { d with events := rest } = some (u, d') →
      rel d d') (ran : processSchedule env d = some (u, d')) : rel d d' := by
  have closes := manages.works.closes
  unfold processSchedule at ran
  obtain ⟨_, _, got, ran⟩ := (Prog.bind_some _ _ _ _ _).mp ran
  obtain ⟨rfl, rfl⟩ := (Prog.get_some _ _ _).mp got
  cases queued : d.events with
  | nil =>
      rw [queued] at ran
      obtain ⟨_, rfl⟩ := (Prog.pure_some _ _ _ _).mp ran
      exact Prog.Steady.refl _
  | cons entry rest =>
      obtain ⟨tv, func⟩ := entry
      rw [queued] at ran
      dsimp only at ran
      split at ran
      next =>
        obtain ⟨_, d₁, popped, ran⟩ := (Prog.bind_some _ _ _ _ _).mp ran
        obtain rfl := (Prog.modify_some _ _ _ _).mp popped
        have pops (other : ∀ l, func.dials l = false) : rel d { d with events := rest } := by
          refine manages.works.tied _ _ ⟨rfl, rfl, fun _ => rfl, fun _ => rfl, fun _ => rfl, fun _ => rfl, fun l => ?_,
            fun _ => id⟩
          show rest.countP _ = d.events.countP _
          rw [queued, List.countP_cons_of_neg (by rw [other l]; exact Bool.false_ne_true)]
        cases func with
        | hello t => exact Prog.Steady.trans _ _ _ (pops fun _ => rfl) (hello_closes closes t _ u d' ran)
        | controlXmit buf =>
            exact Prog.Steady.trans _ _ _ (pops fun _ => rfl) ((close_within closes _).1 buf _ u d' ran)
        | magicLacDial l => exact dues tv l rest queued ran
      next =>
        obtain ⟨_, rfl⟩ := (Prog.pure_some _ _ _ _).mp ran
        exact Prog.Steady.refl _

theorem callByNumber_manages (name : CString) : Prog.Within rel (callByNumber env name) :=
  Prog.within_onlyWhen _ _ _ fun _ => Prog.within_bind (lacCall_dials manages.works.dials _ none) fun _ =>
    Prog.within_pure _ _

omit [Prog.Steady rel] in
theorem switchIo_manages (change : Daemon → Daemon)
    (only : ∀ d, change d = { d with switchIo := (change d).switchIo, dialNoTmp := (change d).dialNoTmp }) :
    Prog.Within rel (modify change : Act PUnit) :=
  Prog.within_weaken _ _ _ manages.works.tied
    (modify_tied change (fun d => by rw [only d]) fun d l => by rw [only d]; rfl)

theorem controlHandleLnsAddModify_manages (name : CString) (options : Lns → Lns) :
    Prog.Within rel (controlHandleLnsAddModify name options) := by
  unfold controlHandleLnsAddModify
  refine Prog.within_bind (findLnsByName_within _ name) fun found => ?_
  split
  next l => exact Prog.within_weaken _ _ _ manages.works.tied (setLns_tied l (optioned options) fun _ => rfl)
  next =>
    exact Prog.within_modify _ _ fun d => manages.addsLns d
      (optioned options { newLns with entname := name.take entnameSize })

-- The commands that dial do so for the entry they find.
section Dialling

variable (dials : ∀ l, Prog.Within rel (magicLacDial env l))

include dials

omit manages in
theorem dialEntry_dials (l : LacPtr) : Prog.Within rel (dialEntry env l) := by
  unfold dialEntry
  exact Prog.within_bind (readLac_within _ l) fun lac => Prog.within_onlyWhen _ _ _ fun _ => dials l

theorem controlHandleLacConnect_manages (name : CString) (authname password : Option CString) :
    Prog.Within rel (controlHandleLacConnect env name authname password) := by
  unfold controlHandleLacConnect
  refine Prog.within_bind (switchIo_manages manages _ fun _ => rfl) fun _ => ?_
  refine Prog.within_bind (Prog.within_get _) fun d => Prog.within_bind (findLac_within _ name _) fun found => ?_
  split
  next l => exact Prog.within_bind (manages.switches l _ fun _ => ⟨rfl, rfl, rfl, rfl⟩) fun _ => dialEntry_dials dials l
  next => exact callByNumber_manages manages name

theorem controlHandleLacOutgoingCall_manages (name number : CString) :
    Prog.Within rel (controlHandleLacOutgoingCall env name number) := by
  unfold controlHandleLacOutgoingCall
  refine Prog.within_bind (switchIo_manages manages _ fun _ => rfl) fun _ => ?_
  refine Prog.within_bind (Prog.within_get _) fun d => Prog.within_bind (findLac_within _ name _) fun found => ?_
  split
  next l => exact Prog.within_bind (manages.switches l _ fun _ => ⟨rfl, rfl, rfl, rfl⟩) fun _ => dialEntry_dials dials l
  next => exact callByNumber_manages manages name

theorem autodial_manages (l : LacPtr) : Prog.Within rel (autodial env l) := by
  unfold autodial
  refine Prog.within_bind (Prog.within_get _) fun d => Prog.within_onlyWhen _ _ _ fun _ => ?_
  refine Prog.within_bind (manages.switches l _ fun _ => ⟨rfl, rfl, rfl, rfl⟩) fun _ => ?_
  exact Prog.within_bind (switchIo_manages manages _ fun _ => rfl) fun _ => dials l

end Dialling

theorem controlHandleLacAddModify_manages (entry : Lac) (dialled : Bool)
    (dials : ∀ l d u d', (d.lac l).rsched = false → magicLacDial env l d = some (u, d') → rel d d') :
    Prog.Within rel (controlHandleLacAddModify env entry dialled) := by
  intro d u d' ran
  unfold controlHandleLacAddModify at ran
  obtain ⟨_, _, got, ran⟩ := (Prog.bind_some _ _ _ _ _).mp ran
  obtain ⟨rfl, rfl⟩ := (Prog.get_some _ _ _).mp got
  obtain ⟨found, d₁, looked, ran⟩ := (Prog.bind_some _ _ _ _ _).mp ran
  obtain rfl : d = d₁ := findLac_within Eq entry.entname _ d found d₁ looked
  cases found with
  | some l =>
      obtain ⟨_, rfl⟩ := (Prog.pure_some _ _ _ _).mp ran
      exact Prog.Steady.refl _
  | none =>
      obtain ⟨_, d₂, added, ran⟩ := (Prog.bind_some _ _ _ _ _).mp ran
      obtain rfl := (Prog.modify_some _ _ _ _).mp added
      refine Prog.Steady.trans _ _ _ (manages.addsLac d entry dialled) ?_
      cases dialled with
      | false =>
          obtain ⟨_, rfl⟩ := (Prog.pure_some _ _ _ _).mp ran
          exact Prog.Steady.refl _
      | true => exact dials d.fresh _ u d' (by simp only [write_here]) ran

end Managing

-- What a step leaves open besides: the joining of a tunnel, which dials, and the
-- dialling and removing of entries.
structure LeftOpen (cfg : Config) (event : Event) (rel : Daemon → Daemon → Prop) (d d' : Daemon) : Prop where
  joins : ∀ p after result final, presentation cfg d event = some p → p.hears = true →
    handleAvps { toConfig := cfg, toWorld := event.world } p.t p.c p.buf p.heard = some (0, after) →
    Msg.ofCode (after.call p.c).msgtype = some .SCCRP →
    finishSCCRP { toConfig := cfg, toWorld := event.world } p.t p.c after = some (result, final) → rel after final
  dues : ∀ tv l rest u, event.occurs = .timer → d.events = ⟨tv, .magicLacDial l⟩ :: rest →
    magicLacDial { toConfig := cfg, toWorld := event.world } l { d with events := rest } = some (u, d') → rel d d'
  autodials : ∀ l u, event.occurs = .autodial l → autodial { toConfig := cfg, toWorld := event.world } l d = some
    (u, d') → rel d d'
  connects : ∀ name authname password u, event.occurs = .command (.lacConnect name authname password) →
    controlHandleLacConnect { toConfig := cfg, toWorld := event.world } name authname password d = some (u, d') →
      rel d d'
  calls : ∀ name number u, event.occurs = .command (.lacOutgoingCall name number) →
    controlHandleLacOutgoingCall { toConfig := cfg, toWorld := event.world } name number d = some (u, d') → rel d d'
  adds : ∀ l d u d', (d.lac l).rsched = false →
    magicLacDial { toConfig := cfg, toWorld := event.world } l d = some (u, d') → rel d d'
  removesLac : ∀ name u, event.occurs = .command (.lacRemove name) →
    controlHandleLacRemove { toConfig := cfg, toWorld := event.world } name d = some (u, d') → rel d d'
  removesLns : ∀ name u, event.occurs = .command (.lnsRemove name) →
    controlHandleLnsRemove { toConfig := cfg, toWorld := event.world } name d = some (u, d') → rel d d'

section Next

variable {cfg : Config} {d d' : Daemon} {event : Event} {rel : Daemon → Daemon → Prop} [Prog.Steady rel]
  (manages : Manages { toConfig := cfg, toWorld := event.world } rel)

include manages

theorem next_manages (leftOpen : LeftOpen cfg event rel d d') (moved : next cfg d event = some d') : rel d d' := by
  have works := manages.works
  by_cases received : ∃ peer refhim datagram, event.occurs = .datagram peer refhim datagram
  · obtain ⟨peer, refhim, datagram, occurs⟩ := received
    refine next_received_works works (fun p after result final presented hears parsed finished => ?_) peer refhim
      datagram occurs moved
    exact controlFinish_works works (leftOpen.joins p after result final presented hears parsed) finished
  unfold next at moved
  obtain ⟨⟨u, after⟩, ran, rfl⟩ := Option.map_eq_some_iff.mp moved
  cases occurs : event.occurs with
  | datagram peer refhim datagram => exact absurd ⟨peer, refhim, datagram, occurs⟩ received
  | autodial l =>
      rw [occurs] at ran
      exact leftOpen.autodials l u occurs ran
  | fdset =>
      rw [occurs] at ran
      exact buildFdset_closes works.closes d u after ran
  | timer =>
      rw [occurs] at ran
      exact processSchedule_manages manages (fun tv l rest queued => leftOpen.dues tv l rest u occurs queued) ran
  | child pid =>
      rw [occurs] at ran
      refine Prog.within_bind (Prog.within_get _) (fun d => Prog.within_onlyWhen _ _ _ fun _ => ?_) d u after ran
      exact childHandler_within works.tiesOnly pid d.tunnels
  | frame c frame =>
      rw [occurs] at ran
      refine Prog.within_bind (openCall_within _ c) (fun watched => Prog.within_onlyWhen _ _ _ fun _ => ?_) d u after
        ran
      exact sendFrame_within works.tiesOnly c frame
  | frameLost c message =>
      rw [occurs] at ran
      refine Prog.within_bind (openCall_within _ c) (fun watched => Prog.within_onlyWhen _ _ _ fun _ => ?_) d u after
        ran
      exact works.tiesOnly.call c _ fun _ => ⟨rfl, rfl, id⟩
  | command command =>
      rw [occurs] at ran
      cases command with
      | tunnel host =>
          exact Prog.within_bind (l2tpCall_dials works.dials host _ none) (fun _ => Prog.within_pure _ _) d u after ran
      | lacConnect name authname password => exact leftOpen.connects name authname password u occurs ran
      | lacOutgoingCall name number => exact leftOpen.calls name number u occurs ran
      | lacHangup ourcid =>
          have hangs : Prog.Within rel (lacHangup ourcid) :=
            Prog.within_bind (Prog.within_get _) fun d => hangupCall_within works.tiesOnly ourcid d.tunnels
          exact hangs d u after ran
      | lacDisconnect name =>
          exact controlHandleLacDisconnect_closes works.closes (leaves_manages manages) name d u after ran
      | lacAddModify entry dialled =>
          exact controlHandleLacAddModify_manages manages entry dialled leftOpen.adds d u after ran
      | lacRemove name => exact leftOpen.removesLac name u occurs ran
      | lnsAddModify name options => exact controlHandleLnsAddModify_manages manages name options d u after ran
      | lnsRemove name => exact leftOpen.removesLns name u occurs ran

theorem leftOpen_of_dials (dials : ∀ l, Prog.Within rel (magicLacDial { toConfig := cfg, toWorld := event.world } l))
    (pops : ∀ (d : Daemon) entry rest, d.events = entry :: rest → rel d { d with events := rest })
    (removesLac : ∀ name u, event.occurs = .command (.lacRemove name) →
      controlHandleLacRemove { toConfig := cfg, toWorld := event.world } name d = some (u, d') → rel d d')
    (removesLns : ∀ name u, event.occurs = .command (.lnsRemove name) →
      controlHandleLnsRemove { toConfig := cfg, toWorld := event.world } name d = some (u, d') → rel d d') :
    LeftOpen cfg event rel d d' where
  joins p after result final _ _ _ _ finished := by
    have dialsLac (lac : Option LacPtr) : Prog.Within rel
      (dialLac { toConfig := cfg, toWorld := event.world } lac) := by
      cases lac with
      | none => exact Prog.within_pure _ _
      | some l => exact dials l
    exact finishSCCRP_within (manages.works.sends.on p.t p.c) (raises_of_tied manages.works.tied p.t _)
      (challenges_of_tied manages.works.tied p.t) dialsLac after result final finished
  dues tv l rest u _ queued ran := Prog.Steady.trans _ _ _ (pops d _ rest queued) (dials l _ u d' ran)
  autodials l u _ ran := autodial_manages manages dials l d u d' ran
  connects name authname password u _ ran := controlHandleLacConnect_manages manages dials name authname password d u d'
    ran
  calls name number u _ ran := controlHandleLacOutgoingCall_manages manages dials name number d u d' ran
  adds l d u d' _ ran := dials l d u d' ran
  removesLac := removesLac
  removesLns := removesLns

end Next

end ZyAgf.Xl2tpd
