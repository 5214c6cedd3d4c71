import ZyAgf.Xl2tpd.PerformedFinish
import ZyAgf.Xl2tpd.TiesOnlyDaemon

set_option autoImplicit false

namespace ZyAgf.Xl2tpd

-- Commands and timers dial, and add, change and remove LNS entries.
def Op.Manages : Op → Prop
  | .addLns _ | .editLns _ _ | .dropLns _ => True
  | op => op.Dials

theorem manages_of_dials (op : Op) (dials : op.Dials) : op.Manages := by
  cases op <;> first | trivial | exact dials

section Managing

variable {env : Env}

theorem closesDown_modify (change : Daemon → Daemon) (side : ∀ d, change d = d.aside (change d).rest)
    (grows : ∀ d, d.fresh ≤ (change d).fresh) : Does env Op.ClosesDown (modify change : Act PUnit) :=
  closesDown_beside (fun _ => id) _ (modify_beside change side grows)

theorem closesDown_closed : Closes env (Performed env Op.ClosesDown) := closesDown_closes fun _ => id

theorem forgetLac_does (calls : List CallPtr) : Does env Op.ClosesDown (forgetLac calls) := by
  induction calls with
  | nil => exact Prog.within_pure _ _
  | cons c rest ih =>
      rw [forgetLac]
      exact Prog.within_bind (closesDown_setCall (fun _ => id) c _ fun _ => rfl) fun _ => ih

theorem detachTunnel_does (t : Option TunnelPtr) : Does env Op.ClosesDown (detachTunnel t) := by
  cases t with
  | none => exact Prog.within_pure _ _
  | some t =>
      refine Prog.within_bind (closesDown_setTunnel (fun _ => id) t _ fun _ => rfl) fun _ => ?_
      refine Prog.within_bind (readTunnel_within _ t) fun tun => Prog.within_bind (deref_within _ tun.self) fun self =>
        ?_
      exact closesDown_setCall (fun _ => id) self _ fun _ => rfl

theorem detachCalls_does (c : Option CallPtr) : Does env Op.ClosesDown (detachCalls c) := by
  cases c with
  | none => exact Prog.within_pure _ _
  | some c =>
      refine Prog.within_bind ?_ fun calls => forgetLac_does calls
      unfold callsFrom
      refine Prog.within_bind (readCall_within _ c) fun cal => ?_
      exact Prog.within_bind (readTunnel_within _ _) fun tun => Prog.within_pure _ _

theorem controlHandleLacRemove_does (name : CString) : Does env Op.ClosesDown (controlHandleLacRemove env name) := by
  unfold controlHandleLacRemove
  refine Prog.within_bind (Prog.within_get _) fun d => Prog.within_bind (findLac_within _ name _) fun found => ?_
  split
  next => exact Prog.within_pure _ _
  next l =>
    refine Prog.within_bind (disconnectEntry_closes closesDown_closed (fun l => setLac_does (fun _ => id) l _) l)
      fun _ => Prog.within_bind (readLac_within _ l) fun lac => ?_
    refine Prog.within_bind (detachTunnel_does lac.t) fun _ => Prog.within_bind (readLac_within _ l) fun lac => ?_
    refine Prog.within_bind (detachCalls_does lac.c) fun _ => ?_
    exact Prog.within_bind (closesDown_modify _ (fun _ => rfl) fun _ => Nat.le_refl _) fun _ =>
      setLac_does (fun _ => id) l _

-- What a relation has to keep to for the daemon to keep to it while it takes in
-- no datagram.
structure Managing (env : Env) (rel : Daemon → Daemon → Prop) : Prop where
  dialling : Dialling env rel
  lists : ∀ d d', Performed env (fun op => (∃ entry, op = .addLns entry) ∨ ∃ l, op = .dropLns l) d d' → rel d d'

section Within

variable {rel : Daemon → Daemon → Prop} [Prog.Steady rel] (managing : Managing env rel)

include managing

omit [Prog.Steady rel] in
theorem closesDown_within {α : Type} (prog : Act α) (does : Does env Op.ClosesDown prog) : Prog.Within rel prog :=
  places_within managing.dialling prog (Prog.within_weaken _ _ prog (performed_weaken _ places_of_closesDown) does)

theorem processSchedule_within : Prog.Within rel (processSchedule env) := by
  unfold processSchedule
  refine Prog.within_bind (Prog.within_get _) fun d => ?_
  split
  next => exact Prog.within_pure _ _
  next entry rest _ =>
    refine Prog.within_ite _ _ _ _ (fun _ => ?_) fun _ => Prog.within_pure _ _
    refine Prog.within_bind (closesDown_within managing _ (closesDown_modify _ (fun _ => rfl) fun _ => Nat.le_refl _))
      fun _ => ?_
    cases entry.func with
    | hello t => exact closesDown_within managing _ (hello_closes closesDown_closed t)
    | controlXmit buf => exact closesDown_within managing _ (controlXmit_does (fun _ => id) _ buf)
    | magicLacDial l => exact magicLacDial_within managing.dialling l

theorem dialEntry_within (l : LacPtr) : Prog.Within rel (dialEntry env l) := by
  unfold dialEntry
  refine Prog.within_bind (readLac_within _ l) fun lac => Prog.within_onlyWhen _ _ _ fun _ => ?_
  exact magicLacDial_within managing.dialling l

theorem callByNumber_within (name : CString) : Prog.Within rel (callByNumber env name) :=
  Prog.within_onlyWhen _ _ _ fun _ => Prog.within_bind (lacCall_within managing.dialling _ none) fun _ =>
    Prog.within_pure _ _

theorem controlHandleLacConnect_within (name : CString) (authname password : Option CString) :
    Prog.Within rel (controlHandleLacConnect env name authname password) := by
  unfold controlHandleLacConnect
  refine Prog.within_bind (closesDown_within managing _ (closesDown_modify _ (fun _ => rfl) fun _ => Nat.le_refl _))
    fun _ => ?_
  refine Prog.within_bind (Prog.within_get _) fun d => Prog.within_bind (findLac_within _ name _) fun found => ?_
  split
  next l =>
    exact Prog.within_bind (closesDown_within managing _ (setLac_does (fun _ => id) l _)) fun _ =>
      dialEntry_within managing l
  next => exact callByNumber_within managing name

theorem controlHandleLacOutgoingCall_within (name number : CString) :
    Prog.Within rel (controlHandleLacOutgoingCall env name number) := by
  unfold controlHandleLacOutgoingCall
  refine Prog.within_bind (closesDown_within managing _ (closesDown_modify _ (fun _ => rfl) fun _ => Nat.le_refl _))
    fun _ => ?_
  refine Prog.within_bind (Prog.within_get _) fun d => Prog.within_bind (findLac_within _ name _) fun found => ?_
  split
  next l =>
    exact Prog.within_bind (closesDown_within managing _ (setLac_does (fun _ => id) l _)) fun _ =>
      dialEntry_within managing l
  next => exact callByNumber_within managing name

theorem controlHandleLacAddModify_within (entry : Lac) (dials : Bool) :
    Prog.Within rel (controlHandleLacAddModify env entry dials) := by
  unfold controlHandleLacAddModify
  refine Prog.within_bind (Prog.within_get _) fun d => ?_
  refine Prog.within_bind (findLac_within _ entry.entname _) fun found => ?_
  split
  next => exact Prog.within_pure _ _
  next =>
    refine Prog.within_bind (closesDown_within managing _ (closesDown_modify _ (fun _ => rfl) fun _ => Nat.le_succ _))
      fun _ => ?_
    exact Prog.within_onlyWhen _ _ _ fun _ => magicLacDial_within managing.dialling _

theorem controlHandleLnsRemove_within (name : CString) : Prog.Within rel (controlHandleLnsRemove env name) := by
  unfold controlHandleLnsRemove
  refine Prog.within_bind (Prog.within_get _) fun d => Prog.within_bind (findLns_within _ name _) fun found => ?_
  split
  next => exact Prog.within_pure _ _
  next l =>
    refine Prog.within_bind (closesDown_within managing _ (closeServed_closes closesDown_closed l _)) fun _ => ?_
    intro d u d' ran
    obtain ⟨_, d₁, unlisted, ran₁⟩ := (Prog.bind_some _ _ _ _ _).mp ran
    obtain rfl := (Prog.modify_some _ _ _ _).mp unlisted
    obtain ⟨live, rfl⟩ := (setLns_some _ _ _ _ _).mp ran₁
    exact managing.lists _ _ (performed_op (.dropLns l) d _ (.inr ⟨l, rfl⟩) (if_pos live))

variable {d d' : Daemon} {u : PUnit}

theorem doControl_within (command : Command)
    (edits : ∀ name options, command = .lnsAddModify name options →
    controlHandleLnsAddModify name options d = some (u, d') → rel d d')
    (ran : doControl env command d = some (u, d')) : rel d d' := by
  cases command with
  | tunnel host =>
      exact Prog.within_bind (l2tpCall_within managing.dialling host _ none) (fun _ => Prog.within_pure _ _) d u d' ran
  | lacConnect name authname password => exact controlHandleLacConnect_within managing name authname password d u d' ran
  | lacOutgoingCall name number => exact controlHandleLacOutgoingCall_within managing name number d u d' ran
  | lacHangup ourcid =>
      refine Prog.within_bind (Prog.within_get _) (fun d => ?_) d u d' ran
      exact closesDown_within managing _ (hangupCall_within closesDown_closed.tiesOnly ourcid d.tunnels)
  | lacDisconnect name =>
      exact closesDown_within managing _ (controlHandleLacDisconnect_closes closesDown_closed
        (fun l => setLac_does (fun _ => id) l _) name) d u d' ran
  | lacAddModify entry dials => exact controlHandleLacAddModify_within managing entry dials d u d' ran
  | lacRemove name => exact closesDown_within managing _ (controlHandleLacRemove_does name) d u d' ran
  | lnsAddModify name options => exact edits name options rfl ran
  | lnsRemove name => exact controlHandleLnsRemove_within managing name d u d' ran

theorem handle_within (occurs : Occurrence) (other : ∀ peer refhim datagram, occurs ≠ .datagram peer refhim datagram)
    (edits : ∀ name options, occurs = .command (.lnsAddModify name options) →
      controlHandleLnsAddModify name options d = some (u, d') → rel d d')
    (ran : handle env occurs d = some (u, d')) : rel d d' := by
  cases occurs with
  | autodial l =>
      refine Prog.within_bind (Prog.within_get _) (fun d => Prog.within_onlyWhen _ _ _ fun _ => ?_) d u d' ran
      refine Prog.within_bind (closesDown_within managing _ (setLac_does (fun _ => id) l _)) fun _ => ?_
      exact Prog.within_bind (closesDown_within managing _ (closesDown_modify _ (fun _ => rfl) fun _ => Nat.le_refl _))
        fun _ =>
        magicLacDial_within managing.dialling l
  | fdset => exact closesDown_within managing _ (buildFdset_closes closesDown_closed) d u d' ran
  | timer => exact processSchedule_within managing d u d' ran
  | datagram peer refhim datagram => exact absurd rfl (other peer refhim datagram)
  | command command =>
      exact doControl_within managing command (fun name options is => edits name options (congrArg _ is)) ran
  | child pid =>
      refine Prog.within_bind (Prog.within_get _) (fun d => Prog.within_onlyWhen _ _ _ fun _ => ?_) d u d' ran
      exact closesDown_within managing _ (childHandler_within closesDown_closed.tiesOnly pid d.tunnels)
  | frame c frame =>
      refine Prog.within_bind (openCall_within _ c) (fun watched => Prog.within_onlyWhen _ _ _ fun _ => ?_) d u d' ran
      exact closesDown_within managing _ (sendFrame_within closesDown_closed.tiesOnly c frame)
  | frameLost c message =>
      refine Prog.within_bind (openCall_within _ c) (fun watched => Prog.within_onlyWhen _ _ _ fun _ => ?_) d u d' ran
      exact closesDown_within managing _ (closesDown_setCall (fun _ => id) c _ fun _ => rfl)

end Within

theorem managing_performed {allowed : Op → Prop} (manages : ∀ op : Op, op.Manages → allowed op) :
    Managing env (Performed env allowed) where
  dialling := dialling_performed fun op dials => manages op (manages_of_dials op dials)
  lists d d' := performed_weaken _ (fun op lists => manages op (by rcases lists with ⟨_, rfl⟩ | ⟨_, rfl⟩ <;> trivial)) d
    d'

theorem controlHandleLnsAddModify_does (name : CString) (options : Lns → Lns) :
    Does env Op.Manages (controlHandleLnsAddModify name options) := by
  unfold controlHandleLnsAddModify
  refine Prog.within_bind (findLnsByName_within _ name) fun found => ?_
  split
  next l =>
    intro d u d' ran
    obtain ⟨live, rfl⟩ := (setLns_some _ _ _ _ _).mp ran
    exact performed_op (.editLns l options) d _ trivial (if_pos live)
  next =>
    exact Prog.within_modify _ _ fun d => performed_op
      (.addLns (optioned options { newLns with entname := name.take entnameSize })) d _ trivial rfl

theorem handle_manages (occurs : Occurrence) (other : ∀ peer refhim datagram, occurs ≠ .datagram peer refhim datagram) :
    Does env Op.Manages (handle env occurs) := fun d u d' =>
  handle_within (managing_performed fun _ => id) occurs other fun name options _ =>
    controlHandleLnsAddModify_does name options d u d'

end Managing

end ZyAgf.Xl2tpd
