import ZyAgf.Xl2tpd.Mandatory

set_option autoImplicit false

namespace ZyAgf.Xl2tpd

-- control_finish again, with what comes of following a null c->lac left open. An
-- access that is never made cannot depend on it.
def finishICRPWith (absent : Act Int) (env : Env) (t : TunnelPtr) (c : CallPtr) : Act Int := do
  let cal ← readCall c
  if cal.cid < 0 then do
    setCall c fun cal => { cal with needclose := true }
    return einval
  else do
    let tun ← readTunnel t
    setCall c fun cal => { cal with state := some .ICCN, frame := peerFraming tun }
    let vector ← addRandvect env t
    sendControl env t c
      (addMessageTypeAvp .ICCN ++ vector ++ addTxspeedAvp tun.txspeed ++ addFrameAvp (peerFraming tun) ++
        addRxspeedAvp tun.rxspeed)
    match cal.lac with
    | none => absent
    | some l => do
        let lac ← readLac l
        match ← passPassword env l lac with
        | none => return einval
        | some password => do
            let _ ← startPppd env c
              ([text "passive", text "nodetach"] ++ lac.sessionOptions ++ password ++ lac.ppp.fileOptions tun.peer.addr)
            setLac l fun lac => { lac with rtries := 0 }
            return 0

def finishOCCNWith (absent : Act Int) (env : Env) (t : TunnelPtr) (c : CallPtr) : Act Int := do
  let cal ← readCall c
  let tun ← readTunnel t
  match cal.lac with
  | none => absent
  | some l => do
      let lac ← readLac l
      let _ ← startPppd env c
        ([text "passive", text "nodetach", text "file", text "/var/l2tp/" ++ cal.dialNo ++ text ".options"] ++
          lac.sessionOptions ++ lac.ppp.fileOptions tun.peer.addr)
      setLac l fun lac => { lac with rtries := 0 }
      return 0

def controlFinishWith (absent : Act Int) (env : Env) (t : TunnelPtr) (c : CallPtr) : Act Int := do
  let cal ← readCall c
  match Msg.ofCode cal.msgtype with
  | some .ICRP => finishICRPWith absent env t c
  | some .OCCN => finishOCCNWith absent env t c
  | _ => controlFinish env t c

-- The messages that make control_finish follow c->lac.
def FollowsLac (cal : Call) : Prop :=
  Msg.ofCode cal.msgtype = some .OCCN ∨ Msg.ofCode cal.msgtype = some .ICRP ∧ 0 ≤ cal.cid

instance (cal : Call) : Decidable (FollowsLac cal) := by
  unfold FollowsLac
  infer_instance

section Sending

variable (env : Env) (t : TunnelPtr) (c : CallPtr) (d : Daemon) (tunnel : (d.tunnel t).live = true)

include tunnel

theorem addRandvect_runs : ∃ vector d', addRandvect env t d = some (vector, d') ∧ (d'.tunnel t).live = true ∧
    d'.call = d.call := by
  unfold addRandvect
  rw [bind_read _ _ d _ (readTunnel_live t d tunnel)]
  split
  · obtain ⟨drawn, drew⟩ : ∃ drawn, getEntropy env vectorSize d = some
      (drawn, { d with drawn := d.drawn + vectorSize }) :=
      ⟨_, rfl⟩
    rw [bind_ran _ _ d _ _ drew, bind_ran _ _ _ _ _ (setTunnel_live t _ _ (by exact tunnel))]
    exact ⟨_, _, rfl, by simpa using tunnel, rfl⟩
  · exact ⟨_, d, rfl, tunnel, rfl⟩

theorem sendControl_runs (body : List UInt8) (call : (d.call c).live = true) (retries : 0 < env.maxRetries)
    (fuel : 0 < env.fuel) :
    ∃ d', sendControl env t c body d = some (⟨⟩, d') := by
  obtain ⟨depth, deep⟩ := Nat.exists_eq_succ_of_ne_zero (Nat.ne_of_gt fuel)
  unfold sendControl newOutgoing addControlHdr
  simp only [bind_assoc, pure_bind]
  rw [bind_read _ _ d _ (readTunnel_live t d tunnel), bind_read _ _ d _ (readTunnel_live t d tunnel),
    bind_read _ _ d _ (readCall_live c d call), bind_ran _ _ d _ _ (setTunnel_live t _ d tunnel),
    bind_ran _ _ _ _ _ (setCall_live c _ _ (by exact call)), deep, controlXmit]
  dsimp only
  rw [bind_read _ _ _ _ (readTunnel_live t _ (by simpa using tunnel))]
  split
  · exact ⟨_, rfl⟩
  · rw [if_neg (by omega)]
    refine ⟨_, (Prog.bind_some _ _ _ _ _).mpr
      ⟨_, _, rfl, (Prog.bind_some _ _ _ _ _).mpr ⟨_, _, readTunnel_live t _ ?_, rfl⟩⟩⟩
    simpa using tunnel

end Sending

section Finishing

variable (env : Env) (t : TunnelPtr) (c : CallPtr) (d : Daemon) (call : (d.call c).live = true)

include call

theorem controlFinish_icrp (type : Msg.ofCode (d.call c).msgtype = some .ICRP) :
    controlFinish env t c d = finishICRP env t c d := by
  have code := Msg.code_ofCode _ _ type
  unfold controlFinish
  rw [bind_read _ _ d _ (readCall_live c d call), ← code]
  rfl

theorem controlFinish_occn (type : Msg.ofCode (d.call c).msgtype = some .OCCN) :
    controlFinish env t c d = finishOCCN env t c d := by
  have code := Msg.code_ofCode _ _ type
  unfold controlFinish
  rw [bind_read _ _ d _ (readCall_live c d call), ← code]
  rfl

theorem finishICRP_spares (absent : Act Int) (spared : (d.call c).lac = none → (d.call c).cid < 0) :
    finishICRPWith absent env t c d = finishICRP env t c d := by
  unfold finishICRPWith finishICRP
  rw [bind_read _ _ d _ (readCall_live c d call), bind_read _ _ d _ (readCall_live c d call)]
  by_cases refused : (d.call c).cid < 0
  · rw [if_pos refused, if_pos refused]
  · rw [if_neg refused, if_neg refused]
    cases entry : (d.call c).lac with
    | none => exact absurd (spared entry) refused
    | some l => rfl

theorem finishOCCN_spares (absent : Act Int) (l : LacPtr) (entry : (d.call c).lac = some l) :
    finishOCCNWith absent env t c d = finishOCCN env t c d := by
  unfold finishOCCNWith finishOCCN
  rw [bind_read _ _ d _ (readCall_live c d call), bind_read _ _ d _ (readCall_live c d call), entry]
  rfl

theorem controlFinish_spares (absent : Act Int) (spared : (d.call c).lac = none → ¬ FollowsLac (d.call c)) :
    controlFinishWith absent env t c d = controlFinish env t c d := by
  unfold controlFinishWith
  rw [bind_read _ _ d _ (readCall_live c d call)]
  cases type : Msg.ofCode (d.call c).msgtype with
  | none => rfl
  | some m =>
      cases m with
      | ICRP =>
          rw [controlFinish_icrp env t c d call type]
          refine finishICRP_spares env t c d call absent fun entry => Int.not_le.mp fun named => ?_
          exact spared entry (.inr ⟨type, named⟩)
      | OCCN =>
          rw [controlFinish_occn env t c d call type]
          cases entry : (d.call c).lac with
          | none => exact absurd (.inl type) (spared entry)
          | some l => exact finishOCCN_spares env t c d call absent l entry
      | _ => rfl

variable (entry : (d.call c).lac = none)

include entry

theorem finishOCCN_follows (tunnel : (d.tunnel t).live = true) (absent : Act Int) :
    finishOCCN env t c d = none ∧ finishOCCNWith absent env t c d = absent d := by
  constructor
  · unfold finishOCCN
    rw [bind_read _ _ d _ (readCall_live c d call), bind_read _ _ d _ (readTunnel_live t d tunnel), entry]
    rfl
  · unfold finishOCCNWith
    rw [bind_read _ _ d _ (readCall_live c d call), bind_read _ _ d _ (readTunnel_live t d tunnel), entry]

theorem finishICRP_follows (tunnel : (d.tunnel t).live = true) (retries : 0 < env.maxRetries) (fuel : 0 < env.fuel)
    (named : 0 ≤ (d.call c).cid) (absent : Act Int) :
    ∃ d', finishICRP env t c d = none ∧ finishICRPWith absent env t c d = absent d' := by
  have taken : ¬ (d.call c).cid < 0 := Int.not_lt.mpr named
  obtain ⟨vector, d₁, drawn, tunnel₁, call₁⟩ := addRandvect_runs env t
    { d with call := write d.call c { d.call c with state := some .ICCN, frame := peerFraming (d.tunnel t) } } tunnel
  have live : (d₁.call c).live = true := by
    rw [call₁]
    simpa using call
  obtain ⟨d₂, sent⟩ := sendControl_runs env t c d₁ tunnel₁
    (addMessageTypeAvp .ICCN ++ vector ++ addTxspeedAvp (d.tunnel t).txspeed ++ addFrameAvp
    (peerFraming (d.tunnel t)) ++
      addRxspeedAvp (d.tunnel t).rxspeed) live retries fuel
  refine ⟨d₂, ?_, ?_⟩
  · unfold finishICRP
    rw [bind_read _ _ d _ (readCall_live c d call), if_neg taken, bind_read _ _ d _ (readTunnel_live t d tunnel),
      bind_ran _ _ d _ _ (setCall_live c _ d call), bind_ran _ _ _ _ _ drawn, bind_ran _ _ _ _ _ sent, entry]
    rfl
  · unfold finishICRPWith
    rw [bind_read _ _ d _ (readCall_live c d call), if_neg taken, bind_read _ _ d _ (readTunnel_live t d tunnel),
      bind_ran _ _ d _ _ (setCall_live c _ d call), bind_ran _ _ _ _ _ drawn, bind_ran _ _ _ _ _ sent, entry]

theorem controlFinish_follows (tunnel : (d.tunnel t).live = true) (retries : 0 < env.maxRetries) (fuel : 0 < env.fuel)
    (follows : FollowsLac (d.call c)) :
    controlFinish env t c d = none ∧ controlFinishWith (pure 0) env t c d ≠ none := by
  unfold controlFinishWith
  rw [bind_read _ _ d _ (readCall_live c d call)]
  rcases follows with type | ⟨type, named⟩
  · rw [controlFinish_occn env t c d call type, type]
    obtain ⟨wrong, open'⟩ := finishOCCN_follows env t c d call entry tunnel (pure 0)
    exact ⟨wrong, ne_of_eq_of_ne open' (Option.some_ne_none _)⟩
  · rw [controlFinish_icrp env t c d call type, type]
    obtain ⟨d', wrong, open'⟩ := finishICRP_follows env t c d call entry tunnel retries fuel named (pure 0)
    exact ⟨wrong, ne_of_eq_of_ne open' (Option.some_ne_none _)⟩

end Finishing

-- The message of the event comes on an entry that is there and gets past
-- handle_avps, and this is what control_finish finds.
structure Finishes (cfg : Config) (d : Daemon) (event : Event) (p : Presentation) (after : Daemon) : Prop where
  presented : presentation cfg d event = some p
  hears : p.hears = true
  live : (p.found.call p.c).live = true
  parsed : handleAvps { toConfig := cfg, toWorld := event.world } p.t p.c p.buf p.heard = some (0, after)

theorem outcome_live {env : Env} {s : Standing} {v : Visit} {t : TunnelPtr} {c : CallPtr} {d d' : Daemon} {r : Int}
    (old : c < d.fresh) (outcome : Outcome env s v t c d (some (r, d'))) :
    (d'.tunnel t).live = (d.tunnel t).live ∧ (d'.call c).live = (d.call c).live := by
  cases outcome with
  | quiet _ _ _ _ _ _ quiet _ =>
      exact ⟨congrArg (fun kept => kept.1) quiet.tunnel, congrArg (fun kept => kept.1) quiet.call⟩
  | stored p change _ _ _ keeps _ =>
      exact ⟨rfl, write_same d.call Call.live p (change (d.call p))
        (congrArg (fun kept => kept.1) (keeps (d.call p))) c⟩
  | vector =>
      refine ⟨?_, rfl⟩
      simp
  | typed _ _ _ _ _ quiet _ =>
      have noted := write_same d.call Call.live c { d.call c with msgtype := (v.avp.raw 3).toNat } rfl c
      exact ⟨congrArg (fun kept => kept.1) quiet.tunnel, (congrArg (fun kept => kept.1) quiet.call).trans noted⟩
  | called =>
      have noted := write_same d.call Call.live c { d.call c with msgtype := (v.avp.raw 3).toNat } rfl c
      have away := withLinkedCall_call env
        { d with call := write d.call c { d.call c with msgtype := (v.avp.raw 3).toNat } } t c
        (Nat.ne_of_lt old)
      refine ⟨?_, (congrArg Call.live away).trans noted⟩
      rw [withLinkedCall_here]

section Runs

variable {cfg : Config} {deflns : Option Lns} {lnslist : List Lns} {deflac : Option Lac} {laclist : List Lac}
  {visits : List (Daemon × Event)} {d : Daemon}

theorem finishes_live (run : Run (next cfg) (initDaemon deflns lnslist deflac laclist) visits d) (event : Event)
    (p : Presentation)
    (after : Daemon) (finishes : Finishes cfg d event p after) :
    (after.tunnel p.t).live = true ∧ (after.call p.c).live = true := by
  have settled := run_settled cfg deflns lnslist deflac laclist run
  have entry := heard_entry cfg d event p settled finishes.presented finishes.hears finishes.live
  obtain ⟨_, goes⟩ := handleAvps_taken _ p.heard after p.t p.c p.buf entry finishes.parsed
  have kept := goes_invariant
    (fun e => p.c < e.fresh ∧ (e.tunnel p.t).live = true ∧ (e.call p.c).live = true) (fun _ => True)
    (fun v e e' r vector _ _ outcome held => ⟨Nat.lt_of_lt_of_le held.1 (outcome_grows outcome),
      (outcome_live held.1 outcome).1.trans held.2.1, (outcome_live held.1 outcome).2.trans held.2.2⟩)
    _ goes (fun _ _ => trivial) ⟨entry.old, entry.tunnel, entry.call⟩
  exact kept.2

def LacThere (cal : Call) : Prop := cal.lac = none → ¬ FollowsLac cal

instance (cal : Call) : Decidable (LacThere cal) := by
  unfold LacThere
  infer_instance

theorem absent_lac_unused_iff (run : Run (next cfg) (initDaemon deflns lnslist deflac laclist) visits d) (event : Event)
    (p : Presentation) (after : Daemon) (finishes : Finishes cfg d event p after) :
    (LacThere (after.call p.c) → ∀ absent,
      controlFinishWith absent { toConfig := cfg, toWorld := event.world } p.t p.c after =
        controlFinish { toConfig := cfg, toWorld := event.world } p.t p.c after) ∧
    (0 < cfg.maxRetries → 0 < event.world.fuel →
      (∀ absent, controlFinishWith absent { toConfig := cfg, toWorld := event.world } p.t p.c after =
        controlFinish { toConfig := cfg, toWorld := event.world } p.t p.c after) → LacThere (after.call p.c)) := by
  obtain ⟨tunnel, call⟩ := finishes_live run event p after finishes
  constructor
  · intro there absent
    exact controlFinish_spares _ p.t p.c after call absent there
  · intro retries fuel unused entry follows
    obtain ⟨wrong, open'⟩ :=
      controlFinish_follows { toConfig := cfg, toWorld := event.world } p.t p.c after call entry tunnel retries fuel
        follows
    exact open' ((unused (pure 0)).trans wrong)

end Runs

-- A tunnel the peer has brought up, and a connect command under its number.
def rings : List Event := opens ++ [⟨plainWorld, .command (.lacConnect (text "513") none none)⟩]

def picksUp : Event := onTunnel 1027 2 (addMessageTypeAvp .ICRP ++ addCallidAvp 7)

structure Rung (d : Daemon) (p : Presentation) (after : Daemon) : Prop where
  run : Run (next plainConfig) (initDaemon none [poolLns] none [])
    (Run.trace (next plainConfig) (initDaemon none [poolLns] none []) rings) d
  finishes : Finishes plainConfig d picksUp p after
  entry : (after.call p.c).lac = none
  follows : FollowsLac (after.call p.c)
  stops : next plainConfig d picksUp = none

theorem rung : ∃ d p after, Rung d p after := by
  have seen : (Run.play (next plainConfig) (initDaemon none [poolLns] none []) rings).any (fun d =>
      (next plainConfig d picksUp).isNone && (presentation plainConfig d picksUp).any fun p =>
        p.hears && (p.found.call p.c).live && (handleAvps plainEnv p.t p.c p.buf p.heard).any fun parsed =>
          parsed.1 == 0 && (parsed.2.call p.c).lac == none && decide (FollowsLac (parsed.2.call p.c))) = true := by
    decide +kernel
  obtain ⟨d, played, facts⟩ := (Option.any_eq_true _ _).mp seen
  obtain ⟨stops, facts⟩ := Bool.and_eq_true_iff.mp facts
  obtain ⟨p, presented, facts⟩ := (Option.any_eq_true _ _).mp facts
  simp only [Bool.and_eq_true] at facts
  obtain ⟨⟨hears, live⟩, facts⟩ := facts
  obtain ⟨⟨result, after⟩, parsed, facts⟩ := (Option.any_eq_true _ _).mp facts
  simp only [Bool.and_eq_true, beq_iff_eq, decide_eq_true_eq] at facts
  obtain ⟨⟨rfl, entry⟩, follows⟩ := facts
  exact ⟨d, p, after, Run.of_play rings d played, ⟨presented, hears, live, parsed⟩, entry, follows,
    Option.isNone_iff_eq_none.mp stops⟩

-- The same answer on a call that the operator has the daemon make for a LAC.
def officeLac : Lac :=
  { noLac with live := true, entname := text "office", lns := [⟨text "peer", 1701⟩], tunRws := 4 }

def dials : List Event :=
  [⟨plainWorld, .command (.lacConnect (text "office") none none)⟩,
    onTunnel 0 0 (addMessageTypeAvp .SCCRP ++ addFrameCapsAvp 3 ++ addTunnelidAvp 9)]

def answersDial : Event := onTunnel 1027 1 (addMessageTypeAvp .ICRP ++ addCallidAvp 7)

structure Dialled (d : Daemon) (p : Presentation) (after : Daemon) : Prop where
  run : Run (next plainConfig) (initDaemon none [] none [officeLac])
    (Run.trace (next plainConfig) (initDaemon none [] none [officeLac]) dials) d
  finishes : Finishes plainConfig d answersDial p after
  entry : (after.call p.c).lac ≠ none
  follows : FollowsLac (after.call p.c)

theorem dialled : ∃ d p after, Dialled d p after := by
  have seen : (Run.play (next plainConfig) (initDaemon none [] none [officeLac]) dials).any (fun d =>
      (presentation plainConfig d answersDial).any fun p =>
        p.hears && (p.found.call p.c).live && (handleAvps plainEnv p.t p.c p.buf p.heard).any fun parsed =>
          parsed.1 == 0 && (parsed.2.call p.c).lac.isSome && decide (FollowsLac (parsed.2.call p.c))) = true := by
    decide +kernel
  obtain ⟨d, played, facts⟩ := (Option.any_eq_true _ _).mp seen
  obtain ⟨p, presented, facts⟩ := (Option.any_eq_true _ _).mp facts
  simp only [Bool.and_eq_true] at facts
  obtain ⟨⟨hears, live⟩, facts⟩ := facts
  obtain ⟨⟨result, after⟩, parsed, facts⟩ := (Option.any_eq_true _ _).mp facts
  simp only [Bool.and_eq_true, beq_iff_eq, decide_eq_true_eq] at facts
  obtain ⟨⟨rfl, entry⟩, follows⟩ := facts
  exact ⟨d, p, after, Run.of_play dials d played, ⟨presented, hears, live, parsed⟩, Option.isSome_iff_ne_none.mp entry,
    follows⟩

theorem absent_lac_unused_iff_rung : (∃ d p after, Rung d p after ∧
    ¬ ∀ absent, controlFinishWith absent plainEnv p.t p.c after = controlFinish plainEnv p.t p.c after) ∧
    ∃ d p after, Dialled d p after ∧
      ∀ absent, controlFinishWith absent plainEnv p.t p.c after = controlFinish plainEnv p.t p.c after := by
  constructor
  · obtain ⟨d, p, after, scene⟩ := rung
    refine ⟨d, p, after, scene, fun unused => ?_⟩
    exact (absent_lac_unused_iff scene.run picksUp p after scene.finishes).2 (by decide) (by decide) unused scene.entry
      scene.follows
  · obtain ⟨d, p, after, scene⟩ := dialled
    refine ⟨d, p, after, scene, ?_⟩
    exact (absent_lac_unused_iff scene.run answersDial p after scene.finishes).1 fun none => absurd none scene.entry

-- The peer answers the call, and the daemon is gone.
theorem absent_lac_followed : ∃ d p after, Rung d p after ∧ next plainConfig d picksUp = none ∧
    ¬ ∀ absent, controlFinishWith absent plainEnv p.t p.c after = controlFinish plainEnv p.t p.c after := by
  obtain ⟨d, p, after, scene⟩ := rung
  obtain ⟨tunnel, call⟩ := finishes_live scene.run picksUp p after scene.finishes
  obtain ⟨wrong, open'⟩ := controlFinish_follows plainEnv p.t p.c after call scene.entry tunnel (by decide)
    (by decide) scene.follows
  exact ⟨d, p, after, scene, scene.stops, fun unused => open' ((unused (pure 0)).trans wrong)⟩

end ZyAgf.Xl2tpd
