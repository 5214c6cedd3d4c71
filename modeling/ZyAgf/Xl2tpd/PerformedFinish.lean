import ZyAgf.Xl2tpd.PerformedStep

set_option autoImplicit false

namespace ZyAgf.Xl2tpd

-- What control_finish does for a message that came on c, an entry of t.
def Op.Finishes (t : TunnelPtr) (c : CallPtr) : Msg → Op → Prop
  | .SCCRQ, .choose t' _ => t' = t
  | .SCCRQ, .raise t' m _ => t' = t ∧ m = .SCCRP
  | .SCCRQ, .challenge t' _ => t' = t
  | .SCCRP, .raise t' m _ => t' = t ∧ m = .SCCCN ∨ m = .SCCRQ
  | .SCCRP, op => op.Dials
  | .SCCCN, .raise t' m _ => t' = t ∧ m = .SCCCN
  | .ICRQ, .assign _ _ => True
  | .ICRQ, .raiseCall _ m _ => m = .ICRP
  | .ICRP, .raiseCall c' m _ => c' = c ∧ m = .ICCN
  | .ICCN, .raiseCall c' m _ => c' = c ∧ m = .ICCN
  | .ICCN, .takeLocal c' _ => c' = c
  | _, op => op.ClosesDown

theorem finishes_of_closesDown (t : TunnelPtr) (c : CallPtr) (m : Msg) (op : Op)
    (closesDown : op.ClosesDown) : op.Finishes t c m := by
  cases op <;> first | (cases m <;> trivial) | cases closesDown

theorem finishes_of_dials (t : TunnelPtr) (c : CallPtr) (op : Op) (dials : op.Dials) : op.Finishes t c .SCCRP := by
  cases op <;> first | exact dials | exact .inr dials

section Finishing

variable {env : Env} (t : TunnelPtr) (c : CallPtr)

theorem finishSCCRQ_does : Does env (Op.Finishes t c .SCCRQ) (finishSCCRQ env t c) := by
  refine finishSCCRQ_within ((closesDown_sends (finishes_of_closesDown t c .SCCRQ)).on t c)
    (raises_performed t .SCCRP fun _ => ⟨rfl, rfl⟩)
    (challenges_performed t fun _ => rfl) fun d chosen live _ => ?_
  exact performed_op (.choose t chosen) d _ rfl (if_pos live)

theorem finishSCCRP_does : Does env (Op.Finishes t c .SCCRP) (finishSCCRP env t c) :=
  finishSCCRP_within ((closesDown_sends (finishes_of_closesDown t c .SCCRP)).on t c)
    (raises_performed t .SCCCN fun _ => .inl ⟨rfl, rfl⟩)
    (challenges_performed t fun _ => trivial) (dialLac_within (dialling_performed (finishes_of_dials t c)))

theorem finishSCCCN_does : Does env (Op.Finishes t c .SCCCN) (finishSCCCN env t c) :=
  finishSCCCN_within (closesDown_tiesOnly (finishes_of_closesDown t c .SCCCN)).admits
    (raises_performed t .SCCCN fun _ => ⟨rfl, rfl⟩) c

theorem assignAddr_does (p : CallPtr) : Does env (Op.Finishes t c .ICRQ) (assignAddr t p) := by
  unfold assignAddr
  refine Prog.within_bind (readTunnel_within _ t) fun tun => Prog.within_bind (deref_within _ tun.lns) fun l => ?_
  refine Prog.within_bind (readLns_within _ l) fun lns => Prog.within_ite _ _ _ _ (fun _ => ?_) fun _ => ?_
  · refine Prog.within_bind ?_ fun _ => Prog.within_pure _ _
    intro d u d' ran
    obtain ⟨live, rfl⟩ := (setCall_some _ _ _ _ _).mp ran
    exact performed_op (.assign p 0) d _ trivial (if_pos ⟨live, .inl rfl⟩)
  · intro d given d' ran
    obtain ⟨_, _, got, ran₁⟩ := (Prog.bind_some _ _ _ _ _).mp ran
    obtain ⟨rfl, rfl⟩ := (Prog.get_some _ _ _).mp got
    obtain ⟨addr, d₁, scanned, ran₂⟩ := (Prog.bind_some _ _ _ _ _).mp ran₁
    obtain ⟨rfl, free⟩ := getAddr_some _ _ _ _ _ scanned
    obtain ⟨_, d₂, set, ran₃⟩ := (Prog.bind_some _ _ _ _ _).mp ran₂
    obtain ⟨live, rfl⟩ := (setCall_some _ _ _ _ _).mp set
    refine performed_op (.assign p addr) d₁ d' trivial ?_
    refine (if_pos ⟨live, free⟩).trans (congrArg some ?_)
    split at ran₃
    next none' =>
      obtain ⟨_, rfl⟩ := (Prog.pure_some _ _ _ _).mp ran₃
      rw [reserved, if_pos none']
    next some' =>
      obtain ⟨_, d₃, kept, ran₄⟩ := (Prog.bind_some _ _ _ _ _).mp ran₃
      obtain ⟨_, rfl⟩ := (Prog.pure_some _ _ _ _).mp ran₄
      rw [reserveAddr_some addr _ _ _ some' kept free]

theorem finishICRQ_does : Does env (Op.Finishes t c .ICRQ) (finishICRQ env t) :=
  finishICRQ_within (closesDown_tiesOnly (finishes_of_closesDown t c .ICRQ)).admits
    (fun p => (closesDown_sends (finishes_of_closesDown t c .ICRQ)).on t p)
    (fun p => raisesCall_performed p .ICRP fun _ => rfl)
    (assignAddr_does t c) (closeRefused_does (finishes_of_closesDown t c .ICRQ))

theorem finishICRP_does : Does env (Op.Finishes t c .ICRP) (finishICRP env t c) :=
  finishICRP_within ((closesDown_sends (finishes_of_closesDown t c .ICRP)).on t c)
    (raisesCall_performed c .ICCN fun _ => ⟨rfl, rfl⟩)

theorem getLocalAddr_performed (d d' : Daemon) (full : Int) (busy : (d.call c).state ≠ none)
    (ran : getLocalAddr env t c d = some (full, d')) : Performed env (Op.Finishes t c .ICCN) d d' := by
  have closesDown := finishes_of_closesDown t c .ICCN
  unfold getLocalAddr at ran
  obtain ⟨tun, d₁, read, ran₁⟩ := (Prog.bind_some _ _ _ _ _).mp ran
  obtain ⟨_, _, rfl⟩ := (readTunnel_some _ _ _ _).mp read
  obtain ⟨l, d₂, entry, ran₂⟩ := (Prog.bind_some _ _ _ _ _).mp ran₁
  obtain ⟨_, rfl⟩ := (deref_some _ _ _ _).mp entry
  obtain ⟨lns, d₃, readEntry, ran₃⟩ := (Prog.bind_some _ _ _ _ _).mp ran₂
  obtain ⟨_, _, rfl⟩ := (readLns_some _ _ _ _).mp readEntry
  split at ran₃
  next =>
    obtain ⟨_, rfl⟩ := (Prog.pure_some _ _ _ _).mp ran₃
    exact Prog.Steady.refl _
  next =>
    obtain ⟨_, _, got, ran₄⟩ := (Prog.bind_some _ _ _ _ _).mp ran₃
    obtain ⟨rfl, rfl⟩ := (Prog.get_some _ _ _).mp got
    obtain ⟨addr, d₄, scanned, ran₅⟩ := (Prog.bind_some _ _ _ _ _).mp ran₄
    obtain ⟨rfl, free⟩ := getAddr_some _ _ _ _ _ scanned
    obtain ⟨cal, d₅, readCal, ran₆⟩ := (Prog.bind_some _ _ _ _ _).mp ran₅
    obtain ⟨live, rfl, rfl⟩ := (readCall_some _ _ _ _).mp readCal
    obtain ⟨own, d₆, serves, ran₇⟩ := (Prog.bind_some _ _ _ _ _).mp ran₆
    obtain ⟨serves, rfl⟩ := (deref_some _ _ _ _).mp serves
    obtain ⟨_, d₇, set, ran₈⟩ := (Prog.bind_some _ _ _ _ _).mp ran₇
    obtain ⟨ownLive, rfl⟩ := (setLns_some _ _ _ _ _).mp set
    have taken : perform env d₆ (.takeLocal c addr) = some
        { d₆ with lns := write d₆.lns own { d₆.lns own with localaddr := addr }, uaddr := reserved d₆.uaddr addr } := by
      show (d₆.call c).lns.bind _ = _
      rw [serves, Option.bind_some]
      exact if_pos ⟨live, busy, ownLive, free⟩
    refine Prog.Steady.trans _ _ _ (performed_op (.takeLocal c addr) d₆ _ rfl taken) ?_
    split at ran₈
    next none' =>
      rw [reserved, if_pos none']
      refine Prog.within_bind (setError_within (closesDown_tiesOnly closesDown).admits.stores c _ _)
        (fun _ => ?_) _ full d' ran₈
      exact closeRefused_does closesDown c
    next some' =>
      obtain ⟨_, d₈, kept, ran₉⟩ := (Prog.bind_some _ _ _ _ _).mp ran₈
      obtain ⟨_, rfl⟩ := (Prog.pure_some _ _ _ _).mp ran₉
      rw [reserveAddr_some addr _ _ _ some' kept free]
      exact Prog.Steady.refl _

theorem finishICCN_does : Does env (Op.Finishes t c .ICCN) (finishICCN env t c) :=
  finishICCN_within (closesDown_tiesOnly (finishes_of_closesDown t c .ICCN)).admits
    (raisesCall_performed c .ICCN fun _ => ⟨rfl, rfl⟩)
    (getLocalAddr_performed t c)

-- What a message type makes of the entry it is noted in: type 0 means that
-- nothing was received.
def Op.FinishesAs (msgtype : Int) (op : Op) : Prop :=
  if msgtype < 0 then op.ClosesDown
  else if msgtype = 0 then op.Dials
  else
    match Msg.ofCode msgtype with
    | some m => op.Finishes t c m
    | none => op.ClosesDown

theorem finishesAs_of_closesDown (msgtype : Int) (op : Op)
    (closesDown : op.ClosesDown) : op.FinishesAs t c msgtype := by
  unfold Op.FinishesAs
  split
  · exact closesDown
  · split
    · exact dials_of_closesDown op closesDown
    · split
      · exact finishes_of_closesDown t c _ op closesDown
      · exact closesDown

theorem controlFinish_performed (d d' : Daemon) (result : Int) (ran : controlFinish env t c d = some (result, d')) :
    Performed env (Op.FinishesAs t c (d.call c).msgtype) d d' := by
  have becomes (m : Msg) (known : Msg.ofCode (d.call c).msgtype = some m) (prog : Act Int)
      (does : Does env (Op.Finishes t c m) prog) (done : prog d = some (result, d')) :
      Performed env (Op.FinishesAs t c (d.call c).msgtype) d d' := by
    have given : 0 < (d.call c).msgtype := by
      rw [← Msg.code_ofCode _ m known]
      cases m <;> decide
    refine performed_weaken _ (fun op finishes => ?_) d d' (does d result d' done)
    rw [Op.FinishesAs, if_neg (Int.not_lt.mpr (Int.le_of_lt given)), if_neg (Int.ne_of_gt given), known]
    exact finishes
  refine controlFinish_leads (Prog.Leads.self _) (closesDown_tiesOnly (finishesAs_of_closesDown t c _)).admits ran
    (fun zero ran => ?_)
    (fun known => becomes .SCCRQ known _ (finishSCCRQ_does t c))
    (fun known => becomes .SCCRP known _ (finishSCCRP_does t c))
    (fun known => becomes .SCCCN known _ (finishSCCCN_does t c))
    (fun known => becomes .ICRQ known _ (finishICRQ_does t c))
    (fun known => becomes .ICRP known _ (finishICRP_does t c))
    (fun known => becomes .ICCN known _ (finishICCN_does t c))
  refine initiate_within (dialling_performed fun op dials => ?_) t c d result d' ran
  rw [zero, Op.FinishesAs, if_neg (Int.lt_irrefl 0), if_pos rfl]
  exact dials

end Finishing

end ZyAgf.Xl2tpd
