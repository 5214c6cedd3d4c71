import ZyAgf.Xl2tpd.Message
import ZyAgf.Xl2tpd.IncomingCall

set_option autoImplicit false

namespace ZyAgf.Xl2tpd

def Tunnel.guard (tun : Tunnel) : Bool × Option Msg := (tun.sanity, tun.state)

section Performed

variable (env : Env) (d d' : Daemon) (op : Op)

theorem perform_guard (done : perform env d op = some d') (t : TunnelPtr) :
    (d'.tunnel t).guard = (d.tunnel t).guard ∨ (d'.tunnel t).guard = (true, none) ∨
      ∃ m new, op = .raise t m new ∧ (d'.tunnel t).guard = ((d.tunnel t).sanity, some m) := by
  by_cases still : op.Retunnels
  · have effect := perform_effect env d d' op done
    have written (other : TunnelPtr) (new : Tunnel) (same : new.guard = (d.tunnel other).guard) :
        (write d.tunnel other new t).guard = (d.tunnel t).guard := write_same d.tunnel Tunnel.guard other new same t
    cases op with
    | raise other m new =>
        obtain ⟨_, core, rfl⟩ := effect
        have raised : new.guard = ((d.tunnel other).sanity, some m) :=
          congrArg (fun core : TunnelCore => (core.sanity, core.state)) core
        by_cases same : t = other
        · rw [same]
          exact .inr (.inr ⟨m, new, rfl, by rw [← raised]; simp⟩)
        · exact .inl (congrArg Tunnel.guard (write_elsewhere _ _ _ _ same))
    | choose other l =>
        obtain ⟨_, rfl⟩ := effect
        exact .inl (written other _ rfl)
    | challenge other chal =>
        obtain ⟨_, rfl⟩ := effect
        exact .inl (written other _ rfl)
    | newTunnel peer refhim =>
        rcases effect with rfl | rfl | rfl
        · exact .inl rfl
        · by_cases new : t = d.fresh
          · exact .inr (.inl (by rw [new, withLostTunnel_here]; rfl))
          · exact .inl (by rw [withLostTunnel_elsewhere env d t new])
        · by_cases new : t = d.fresh
          · exact .inr (.inl (by rw [new, withTunnel_here]; rfl))
          · exact .inl (by rw [withTunnel_elsewhere env d peer refhim t new])
    | newCall other =>
        rcases effect with rfl | ⟨_, rfl⟩
        · exact .inl rfl
        · exact .inl (written other _ rfl)
    | destroyCall c =>
        obtain ⟨_, _, rest, _, rfl⟩ := effect
        exact .inl (written (d.call c).container _ rfl)
    | bury other =>
        obtain ⟨_, _, rfl⟩ := effect
        exact .inl (written other _ rfl)
    | check buf other c =>
        rcases effect with rfl | ⟨_, rfl⟩
        · exact .inl rfl
        · refine .inl (written other _ ?_)
          unfold checkedTunnel
          split <;> rfl
    | zlb other c =>
        obtain ⟨_, _, rfl⟩ := effect
        exact .inl (written other _ rfl)
    | _ => exact still.elim
  · exact .inl (congrArg (fun core : TunnelCore => (core.sanity, core.state))
      (perform_tunnelCore env d d' op still done t))

theorem perform_callState (done : perform env d op = some d') (c : CallPtr) :
    (d'.call c).state = (d.call c).state ∨ (d'.call c).state = none ∨ ∃ m new, op = .raiseCall c m new ∧
    (d'.call c).state = some m := by
  by_cases still : op.Recalls
  · have effect := perform_effect env d d' op done
    have written (other : CallPtr) (new : Call) (same : new.state = (d.call other).state) :
        (write d.call other new c).state = (d.call c).state := write_same d.call Call.state other new same c
    cases op with
    | raiseCall other m new =>
        obtain ⟨_, core, rfl⟩ := effect
        have raised : new.state = some m := congrArg CallCore.state core
        by_cases same : c = other
        · rw [same]
          exact .inr (.inr ⟨m, new, rfl, by simpa using raised⟩)
        · exact .inl (congrArg Call.state (write_elsewhere _ _ _ _ same))
    | mark other msgtype =>
        obtain ⟨_, rfl⟩ := effect
        exact .inl (written other _ rfl)
    | newTunnel peer refhim =>
        rcases effect with rfl | rfl | rfl
        · exact .inl rfl
        · exact .inl rfl
        · by_cases new : c = d.fresh + 1
          · exact .inr (.inl (by rw [new]; exact congrArg Call.state (write_here _ _ _)))
          · exact .inl (by rw [withTunnel_call env d peer refhim c new])
    | newCall t =>
        rcases effect with rfl | ⟨_, rfl⟩
        · exact .inl rfl
        · by_cases new : c = d.fresh
          · exact .inr (.inl (by rw [new, withLinkedCall_made]; rfl))
          · exact .inl (by rw [withLinkedCall_call env d t c new])
    | free other new =>
        obtain ⟨_, _, core, rfl⟩ := effect
        exact .inl (written other new (congrArg CallCore.state core))
    | destroyCall other =>
        obtain ⟨_, _, rest, _, rfl⟩ := effect
        exact .inl (written other _ rfl)
    | assign other addr =>
        obtain ⟨_, _, rfl⟩ := effect
        exact .inl (written other _ rfl)
    | _ => exact still.elim
  · exact .inl (congrArg CallCore.state (perform_callCore env d d' op still done c))

end Performed

def Sane (d : Daemon) : Prop := ∀ t, (d.tunnel t).sanity = true

theorem perform_sane (env : Env) (d d' : Daemon) (op : Op) (sane : Sane d)
    (done : perform env d op = some d') : Sane d' := by
  intro t
  rcases perform_guard env d d' op done t with kept | made | ⟨m, _, _, raised⟩
  · exact (congrArg Prod.fst kept).trans (sane t)
  · exact congrArg Prod.fst made
  · exact (congrArg Prod.fst raised).trans (sane t)

section Performed

variable {env : Env} {allowed : Op → Prop} {d d' : Daemon} (listed : Listed d) (performed : Performed env allowed d d')

include listed performed

theorem performed_listed : Listed d' := by
  obtain ⟨visits, run, _⟩ := performed listed
  exact run_listed env run listed

theorem performed_sane (sane : Sane d) : Sane d' := by
  obtain ⟨visits, run, meets⟩ := performed listed
  exact Run.invariant _ Sane sane (fun s op s' there _ done => perform_sane env s s' op there done) run meets

theorem performed_raise (t : TunnelPtr) (m : Msg) (reached : (d'.tunnel t).state = some m) :
    (d.tunnel t).state = some m ∨ ∃ new, allowed (.raise t m new) := by
  obtain ⟨visits, run, meets⟩ := performed listed
  refine Run.invariant (fun _ op => allowed op)
    (fun s => (s.tunnel t).state = some m → (d.tunnel t).state = some m ∨ ∃ new, allowed (.raise t m new)) .inl ?_ run
    meets reached
  intro s op s' before ok done there
  rcases perform_guard env s s' op done t with kept | made | ⟨m', new, rfl, raised⟩
  · exact before ((congrArg Prod.snd kept).symm.trans there)
  · cases (congrArg Prod.snd made).symm.trans there
  · obtain rfl := Option.some.inj ((congrArg Prod.snd raised).symm.trans there)
    exact .inr ⟨new, ok⟩

theorem performed_raiseCall (c : CallPtr) (m : Msg) (reached : (d'.call c).state = some m) :
    (d.call c).state = some m ∨ ∃ new, allowed (.raiseCall c m new) := by
  obtain ⟨visits, run, meets⟩ := performed listed
  refine Run.invariant (fun _ op => allowed op)
    (fun s => (s.call c).state = some m → (d.call c).state = some m ∨ ∃ new, allowed (.raiseCall c m new)) .inl ?_ run
    meets reached
  intro s op s' before ok done there
  rcases perform_callState env s s' op done c with kept | made | ⟨m', new, rfl, raised⟩
  · exact before (kept.symm.trans there)
  · cases made.symm.trans there
  · obtain rfl := Option.some.inj (raised.symm.trans there)
    exact .inr ⟨new, ok⟩

end Performed

theorem finishesAs_raise (t t' : TunnelPtr) (c : CallPtr) (msgtype : Int) (new : Tunnel)
    (finishes : (Op.raise t' .SCCCN new).FinishesAs t c msgtype) :
    t' = t ∧ (Msg.ofCode msgtype = some .SCCRP ∨ Msg.ofCode msgtype = some .SCCCN) := by
  unfold Op.FinishesAs at finishes
  split at finishes
  next => exact finishes.elim
  next =>
    split at finishes
    next => cases finishes
    next =>
      split at finishes
      next m known =>
        rw [known]
        cases m with
        | SCCRQ => cases finishes.2
        | SCCRP =>
            rcases finishes with ⟨same, _⟩ | other
            · exact ⟨same, .inl rfl⟩
            · cases other
        | SCCCN => exact ⟨finishes.1, .inr rfl⟩
        | _ => exact finishes.elim
      next => exact finishes.elim

theorem finishesAs_raiseCall (t : TunnelPtr) (c c' : CallPtr) (msgtype : Int) (new : Call)
    (finishes : (Op.raiseCall c' .ICCN new).FinishesAs t c msgtype) :
    c' = c ∧ (Msg.ofCode msgtype = some .ICRP ∨ Msg.ofCode msgtype = some .ICCN) := by
  unfold Op.FinishesAs at finishes
  split at finishes
  next => exact finishes.elim
  next =>
    split at finishes
    next => rcases finishes with other | other <;> cases other
    next =>
      split at finishes
      next m known =>
        rw [known]
        cases m with
        | SCCRP => rcases finishes with other | other <;> cases other
        | ICRQ => cases finishes
        | ICRP => exact ⟨finishes.1, .inl rfl⟩
        | ICCN => exact ⟨finishes.1, .inr rfl⟩
        | _ => exact finishes.elim
      next => exact finishes.elim

-- What is done for a message: a state is moved, something is made, started or
-- sent, or a call is given up.
structure Rests (d d' : Daemon) : Prop where
  tunnels : ∀ t, (d'.tunnel t).state = (d.tunnel t).state
  calls : ∀ c, (d'.call c).state = (d.call c).state ∧ (d'.call c).closing = (d.call c).closing
  made : d'.fresh = d.fresh
  out : d'.out = d.out

def idle (msgtype : Int) : Bool :=
  match Msg.ofCode msgtype with
  | some .OCRQ | some .OCRP | some .Hello | some .WEN | some .SLI => true
  | some _ => false
  | none => msgtype != 0

theorem rests_refl (d : Daemon) : Rests d d := ⟨fun _ => rfl, fun _ => ⟨rfl, rfl⟩, rfl, rfl⟩

theorem setError_rests (c : CallPtr) (error : Int) (message : CString) (d d' : Daemon) (result : Int)
    (ran : (do
      setError c error message
      return 0 : Act Int) d = some (result, d')) : Rests d d' := by
  unfold setError at ran
  obtain ⟨_, d₁, marked, ran⟩ := (Prog.bind_some _ _ _ _ _).mp ran
  obtain ⟨_, rfl⟩ := (setCall_some _ _ _ _ _).mp marked
  obtain ⟨_, rfl⟩ := (Prog.pure_some _ _ _ _).mp ran
  exact ⟨fun _ => rfl, fun p => Prod.mk.inj (write_same d.call (fun cal => (cal.state, cal.closing)) c
    { d.call c with error := error, result := resultError, needclose := true, errormsg := errorText message } rfl p),
    rfl, rfl⟩

theorem controlFinish_idle (env : Env) (t : TunnelPtr) (c : CallPtr) (d d' : Daemon) (result : Int)
    (nothing : (d.call c).msgtype < 0 ∨ idle (d.call c).msgtype = true)
    (ran : controlFinish env t c d = some (result, d')) : Rests d d' := by
  unfold controlFinish at ran
  obtain ⟨cal, d₁, read, ran⟩ := (Prog.bind_some _ _ _ _ _).mp ran
  obtain ⟨_, rfl, rfl⟩ := (readCall_some _ _ _ _).mp read
  by_cases untyped : (d₁.call c).msgtype < 0
  · rw [if_pos untyped] at ran
    obtain ⟨_, rfl⟩ := (Prog.pure_some _ _ _ _).mp ran
    exact rests_refl d₁
  have unused := nothing.resolve_left untyped
  unfold idle at unused
  by_cases zero : (d₁.call c).msgtype = 0
  · rw [zero] at unused
    cases unused
  rw [if_neg untyped, if_neg zero] at ran
  have returned (ran : (return 0 : Act Int) d₁ = some (result, d')) : Rests d₁ d' := by
    obtain ⟨_, rfl⟩ := (Prog.pure_some _ _ _ _).mp ran
    exact rests_refl d₁
  cases known : Msg.ofCode (d₁.call c).msgtype with
  | none =>
      rw [known] at ran
      exact setError_rests c _ _ d₁ d' result ran
  | some m =>
      rw [known] at ran unused
      cases m with
      | OCRQ => exact setError_rests c _ _ d₁ d' result ran
      | OCRP => exact returned ran
      | Hello => exact returned ran
      | WEN => exact setError_rests c _ _ d₁ d' result ran
      | SLI => exact returned ran
      | _ => cases unused

def lastType (visits : List Visit) : Option Visit := (visits.filter (·.attr == 0)).getLast?

def notedType (visits : List Visit) (before : Int) : Int := (lastType visits).elim before fun v => (v.avp.raw 3).toNat

theorem notedType_cons (v : Visit) (later : List Visit) (before : Int) :
    notedType (v :: later) before = notedType later (if v.attr = 0 then (v.avp.raw 3).toNat else before) := by
  unfold notedType lastType
  by_cases typed : v.attr = 0
  · rw [if_pos typed, List.filter_cons_of_pos (by simp [typed]), List.getLast?_cons]
    cases (later.filter (·.attr == 0)).getLast? <;> rfl
  · rw [if_neg typed, List.filter_cons_of_neg (by simp [typed])]

theorem lastType_mem (visits : List Visit) (v : Visit) (last : lastType visits = some v) : v ∈ visits ∧ v.attr = 0 := by
  have member := List.mem_filter.mp (List.mem_of_getLast? last)
  exact ⟨member.1, by simpa using member.2⟩

theorem goes_noted (env : Env) (s : Standing) (t : TunnelPtr) (c : CallPtr) (d d' : Daemon) (visits : List Visit)
    (goes : Goes env s t c true d visits (some d')) : (d'.call c).msgtype = notedType visits (d.call c).msgtype := by
  generalize ends : some d' = last at goes
  induction goes with
  | done d d₁ _ whole =>
      cases ends
      rw [whole rfl]
      rfl
  | stuck => cases ends
  | visit d d₁ v later last handler vector result found reads ran rest ih =>
      have outcome : Outcome env s v t c d (handler env t c v.avp d) := handler_outcome reads handler found
      rw [ran] at outcome
      have before : (d.call c).msgtype = v.msgtype := congrArg Reading.msgtype reads.reading
      have after : (d₁.call c).msgtype = (v.leaves env s ⟨v.msgtype, vector⟩).msgtype :=
        congrArg Reading.msgtype (outcome_reads env s v vector t c d d₁ result reads outcome).2.reading
      rw [ih ends, notedType_cons, after, before]
      unfold Visit.leaves
      split
      · rfl
      · split <;> rfl

-- An AVP that message_type_avp has accepted where the tunnel and the call stood.
def Visit.accepted (env : Env) (s : Standing) (v : Visit) : Prop := v.attr = 0 ∧ v.typeFails env s = false

instance (env : Env) (s : Standing) (v : Visit) : Decidable (v.accepted env s) := inferInstanceAs (Decidable (_ ∧ _))

-- What control_finish does for a message, message_type_avp has accepted in it.
def ActsOnAccepted (cfg : Config) (d : Daemon) (event : Event) : Prop :=
  ∀ p, presentation cfg d event = some p → p.hears = true → ∀ after,
    handleAvps { toConfig := cfg, toWorld := event.world } p.t p.c p.buf p.heard = some (0, after) → ∀ result final,
      controlFinish { toConfig := cfg, toWorld := event.world } p.t p.c after = some (result, final) →
        ¬ Rests after final →
        ∃ v ∈ (messageTrace { toConfig := cfg, toWorld := event.world } p.heard p.t p.c p.buf).1,
          ((v.avp.raw 3).toNat : Int) = (after.call p.c).msgtype ∧
            v.accepted { toConfig := cfg, toWorld := event.world } (standing p.heard p.t p.c)

def Presentation.receives (p : Presentation) (env : Env) (m : Msg) : Prop :=
  p.hears = true ∧ ∃ after, handleAvps env p.t p.c p.buf p.heard = some (0, after) ∧
    Msg.ofCode (after.call p.c).msgtype = some m

-- How a tunnel comes up and a call is connected.
structure UpGuarded (cfg : Config) (d : Daemon) (event : Event) (d' : Daemon) : Prop where
  tunnel : ∀ t, (d.tunnel t).state ≠ some .SCCCN → (d'.tunnel t).state = some .SCCCN →
    ∃ p, presentation cfg d event = some p ∧ p.t = t ∧
      (p.receives { toConfig := cfg, toWorld := event.world } .SCCRP ∧ (d.tunnel t).state = some .SCCRQ ∨
        p.receives { toConfig := cfg, toWorld := event.world } .SCCCN ∧ (d.tunnel t).state = some .SCCRP)
  call : ∀ c, (d.call c).state ≠ some .ICCN → (d'.call c).state = some .ICCN →
    (d.call c).state = some .ICRQ ∨ (d.call c).state = some .ICRP

def StatesGuarded (cfg : Config) (d : Daemon) (event : Event) : Prop :=
  ActsOnAccepted cfg d event ∧ ∀ d', next cfg d event = some d' → UpGuarded cfg d event d'

-- The message type that a message is taken for has not been refused, or stands
-- for nothing.
def RefusalsHonoured (cfg : Config) (d : Daemon) (event : Event) : Prop :=
  ∀ p ∈ presentation cfg d event, p.hears = true →
    (messageTrace { toConfig := cfg, toWorld := event.world } p.heard p.t p.c p.buf).2 = true →
      ∀ v ∈ lastType (messageTrace { toConfig := cfg, toWorld := event.world } p.heard p.t p.c p.buf).1,
        v.typeFails { toConfig := cfg, toWorld := event.world } (standing p.heard p.t p.c) = true →
          idle (v.avp.raw 3).toNat = true

instance (cfg : Config) (d : Daemon) (event : Event) : Decidable (RefusalsHonoured cfg d event) :=
  inferInstanceAs (Decidable (∀ p ∈ _, _))

section Heard

variable {cfg : Config} {d d' : Daemon} {event : Event} {p : Presentation} (settled : Settled d)
  (presented : presentation cfg d event = some p) (hears : p.hears = true)

theorem heard_performed (hears : p.hears = true) (presented : presentation cfg d event = some p) :
    Performed { toConfig := cfg, toWorld := event.world }
      (fun op => ∃ peer refhim, op = .newTunnel peer refhim) d p.found := by
  simp only [Presentation.hears, Bool.and_eq_true] at hears
  obtain ⟨peer, refhim, datagram, _, reaches⟩ := presentation_some cfg d event p presented
  exact getCall_performed _ _ peer refhim ⟨peer, refhim, rfl⟩ d _ p.found (reaches.onEntry hears.1.1).lookup

theorem heard_guard (p : Presentation) (t : TunnelPtr) : (p.heard.tunnel t).guard = (p.found.tunnel t).guard := by
  refine write_same p.found.tunnel Tunnel.guard p.t _ ?_ t
  unfold checkedTunnel
  split <;> rfl

theorem heard_callState (p : Presentation) (c : CallPtr) : (p.heard.call c).state = (p.found.call c).state := by
  refine write_same p.found.call Call.state p.c _ ?_ c
  show (checkedCall p.buf p.tun (p.found.call p.c)).state = _
  unfold checkedCall
  split
  · rfl
  · split <;> rfl

include settled presented hears

theorem heard_state (t : TunnelPtr) (m : Msg) (there : (p.heard.tunnel t).state = some m) :
    (d.tunnel t).state = some m := by
  have found := (congrArg Prod.snd (heard_guard p t)).symm.trans there
  rcases performed_raise settled.1.listed (heard_performed hears presented) t m found with before | ⟨_, _, _, made⟩
  · exact before
  · cases made

theorem heard_connected (c : CallPtr) (m : Msg) (there : (p.heard.call c).state = some m) :
    (d.call c).state = some m := by
  have found := (heard_callState p c).symm.trans there
  rcases performed_raiseCall settled.1.listed (heard_performed hears presented) c m found with before | ⟨_, _, _, made⟩
  · exact before
  · cases made

theorem heard_sane (sane : Sane d) : (p.heard.tunnel p.t).sanity = true :=
  (congrArg Prod.fst (heard_guard p p.t)).trans
    (performed_sane settled.1.listed (heard_performed hears presented) sane p.t)

end Heard

theorem taken_accepted (env : Env) (d after : Daemon) (t : TunnelPtr) (c : CallPtr) (buf : RecvBuffer)
    (entry : Entry d t c)
    (untyped : (d.call c).msgtype = -1) (parsed : handleAvps env t c buf d = some (0, after))
    (honoured : ∀ v ∈ lastType (messageTrace env d t c buf).1, v.typeFails env (standing d t c) = true →
    idle (v.avp.raw 3).toNat = true) :
    ((after.call c).msgtype < 0 ∨ idle (after.call c).msgtype = true) ∨
      ∃ v ∈ (messageTrace env d t c buf).1, ((v.avp.raw 3).toNat : Int) = (after.call c).msgtype ∧
        v.accepted env (standing d t c) := by
  have noted := goes_noted env _ t c d after _ (handleAvps_taken env d after t c buf entry parsed).2
  rw [untyped] at noted
  rw [noted]
  unfold notedType
  cases last : lastType (messageTrace env d t c buf).1 with
  | none => exact .inl (.inl (by decide))
  | some v =>
      obtain ⟨member, typed⟩ := lastType_mem _ v last
      cases fails : v.typeFails env (standing d t c) with
      | true => exact .inl (.inr (honoured v last fails))
      | false => exact .inr ⟨v, member, rfl, typed, fails⟩

theorem accepted_fits (env : Env) (s : Standing) (v : Visit) (m : Msg) (msgtype : Int) (sane : s.sanity = true)
    (accepted : v.accepted env s) (noted : ((v.avp.raw 3).toNat : Int) = msgtype)
    (known : Msg.ofCode msgtype = some m) :
    msgFits s.own s.tunnel s.call m = true := by
  have fine := accepted.2
  unfold Visit.typeFails at fine
  rw [noted, known, sane] at fine
  simp only [Bool.or_eq_false_iff, Bool.true_and, Bool.not_eq_false'] at fine
  exact fine.2.1

theorem known_busy (msgtype : Int) (m : Msg) (known : Msg.ofCode msgtype = some m) (busy : idle m.code = false) :
    ¬ (msgtype < 0 ∨ idle msgtype = true) := by
  obtain rfl := Msg.code_ofCode msgtype m known
  rintro (negative | nothing)
  · omega
  · rw [busy] at nothing
    cases nothing

section Steps

variable {cfg : Config} {d d' : Daemon} {event : Event} (settled : Settled d) (sane : Sane d)
  (honoured : RefusalsHonoured cfg d event) (moved : next cfg d event = some d')

include settled honoured moved

theorem acts_on_accepted : ActsOnAccepted cfg d event := by
  intro p presented hears after parsed result final ran acts
  have entry := heard_entry cfg d event p settled presented hears (found_live cfg d d' event p presented hears moved)
  have taken := (handleAvps_taken _ p.heard after p.t p.c p.buf entry parsed).1
  have untyped : (p.heard.call p.c).msgtype = -1 := congrArg Call.msgtype (write_here _ _ _)
  refine (taken_accepted _ p.heard after p.t p.c p.buf entry untyped parsed
    (honoured p presented hears taken)).resolve_left fun nothing => ?_
  exact acts (controlFinish_idle _ p.t p.c after final result nothing ran)

include sane

theorem received_fits (p : Presentation) (presented : presentation cfg d event = some p) (hears : p.hears = true)
    (after : Daemon)
    (parsed : handleAvps { toConfig := cfg, toWorld := event.world } p.t p.c p.buf p.heard = some (0, after)) (m : Msg)
    (known : Msg.ofCode (after.call p.c).msgtype = some m) (busy : idle m.code = false) :
    msgFits (standing p.heard p.t p.c).own (p.heard.tunnel p.t).state (p.heard.call p.c).state m = true := by
  have entry := heard_entry cfg d event p settled presented hears (found_live cfg d d' event p presented hears moved)
  have taken := (handleAvps_taken _ p.heard after p.t p.c p.buf entry parsed).1
  have untyped : (p.heard.call p.c).msgtype = -1 := congrArg Call.msgtype (write_here _ _ _)
  obtain ⟨v, _, noted, accepted⟩ :=
    (taken_accepted _ p.heard after p.t p.c p.buf entry untyped parsed (honoured p presented hears taken)).resolve_left
      (known_busy _ m known busy)
  exact accepted_fits _ _ v m _ (heard_sane settled presented hears sane) accepted noted known

omit sane honoured in
theorem heard_raised (p : Presentation) (presented : presentation cfg d event = some p) (hears : p.hears = true)
    (t : TunnelPtr)
    (m : Msg) (reached : (d'.tunnel t).state = some m) : (d.tunnel t).state = some m ∨
      ∃ after new, handleAvps { toConfig := cfg, toWorld := event.world } p.t p.c p.buf p.heard = some (0, after) ∧
        (Op.raise t m new).FinishesAs p.t p.c (after.call p.c).msgtype := by
  have listed : Listed p.heard := (found_settled cfg d event p settled presented hears).1.1.listed
  have before (after : Daemon) (reads : Performed { toConfig := cfg, toWorld := event.world }
    (Op.Parses p.t p.c) p.heard after) (there : (after.tunnel t).state = some m) :
      (d.tunnel t).state = some m :=
    heard_state settled presented hears t m ((performed_raise listed reads t m there).resolve_right fun ⟨_, raised⟩ =>
      raised)
  rcases next_finished cfg d d' event p presented hears
    moved with ⟨after, reads, ends⟩ | ⟨after, result, final, parsed, reads, ran, ends⟩
  · have onward := performed_listed listed reads
    exact .inl (before after reads ((performed_raise onward ends t m reached).resolve_right fun ⟨_, raised⟩ => raised))
  · have onward := performed_listed listed reads
    have finishes := controlFinish_performed p.t p.c after final result ran
    have there := (performed_raise (performed_listed onward finishes) ends t m reached).resolve_right fun ⟨_, raised⟩ =>
      raised
    rcases performed_raise onward finishes t m there with earlier | ⟨new, raised⟩
    · exact .inl (before after reads earlier)
    · exact .inr ⟨after, new, parsed, raised⟩

omit sane honoured in
theorem heard_raisedCall (p : Presentation) (presented : presentation cfg d event = some p) (hears : p.hears = true)
    (c : CallPtr)
    (m : Msg) (reached : (d'.call c).state = some m) : (d.call c).state = some m ∨
      ∃ after new, handleAvps { toConfig := cfg, toWorld := event.world } p.t p.c p.buf p.heard = some (0, after) ∧
        (Op.raiseCall c m new).FinishesAs p.t p.c (after.call p.c).msgtype := by
  have listed : Listed p.heard := (found_settled cfg d event p settled presented hears).1.1.listed
  have before (after : Daemon) (reads : Performed { toConfig := cfg, toWorld := event.world }
    (Op.Parses p.t p.c) p.heard after) (there : (after.call c).state = some m) :
      (d.call c).state = some m :=
    heard_connected settled presented hears c m
      ((performed_raiseCall listed reads c m there).resolve_right fun ⟨_, raised⟩ => raised)
  rcases next_finished cfg d d' event p presented hears
    moved with ⟨after, reads, ends⟩ | ⟨after, result, final, parsed, reads, ran, ends⟩
  · have onward := performed_listed listed reads
    exact .inl (before after reads ((performed_raiseCall onward ends c m reached).resolve_right fun ⟨_, raised⟩ =>
      raised))
  · have onward := performed_listed listed reads
    have finishes := controlFinish_performed p.t p.c after final result ran
    have there := (performed_raiseCall (performed_listed onward finishes) ends c m reached).resolve_right
      fun ⟨_, raised⟩ => raised
    rcases performed_raiseCall onward finishes c m there with earlier | ⟨new, raised⟩
    · exact .inl (before after reads earlier)
    · exact .inr ⟨after, new, parsed, raised⟩

theorem up_guarded : UpGuarded cfg d event d' := by
  by_cases heard : ∃ p, presentation cfg d event = some p ∧ p.hears = true
  · obtain ⟨p, presented, hears⟩ := heard
    have fits := received_fits settled sane honoured moved p presented hears
    refine ⟨fun t down up => ?_, fun c apart connected => ?_⟩
    · obtain ⟨after, new, parsed, raised⟩ := (heard_raised settled moved p presented hears t .SCCCN up).resolve_left
        down
      obtain ⟨rfl, known⟩ := finishesAs_raise _ _ _ _ new raised
      refine ⟨p, presented, rfl, ?_⟩
      rcases known with known | known
      · have fit := fits after parsed .SCCRP known rfl
        simp only [msgFits, Bool.and_eq_true, beq_iff_eq] at fit
        exact .inl ⟨⟨hears, after, parsed, known⟩, heard_state settled presented hears _ _ fit.2⟩
      · have fit := fits after parsed .SCCCN known rfl
        simp only [msgFits, Bool.and_eq_true, beq_iff_eq] at fit
        exact .inr ⟨⟨hears, after, parsed, known⟩, heard_state settled presented hears _ _ fit.2⟩
    · obtain ⟨after, new, parsed, raised⟩ :=
        (heard_raisedCall settled moved p presented hears c .ICCN connected).resolve_left apart
      obtain ⟨rfl, known⟩ := finishesAs_raiseCall _ _ _ _ new raised
      rcases known with known | known
      · have fit := fits after parsed .ICRP known rfl
        simp only [msgFits, Bool.and_eq_true, beq_iff_eq] at fit
        exact .inl (heard_connected settled presented hears _ _ fit.2)
      · have fit := fits after parsed .ICCN known rfl
        simp only [msgFits, beq_iff_eq] at fit
        exact .inr (heard_connected settled presented hears _ _ fit)
  · have unheard (p : Presentation) (presented : presentation cfg d event = some p) : p.hears = false :=
      eq_false_of_ne_true fun hears => heard ⟨p, presented, hears⟩
    have kept : Performed _ (fun op => op.Idles ∨ op.Manages) d d' :=
      next_unheard cfg d d' event _ (managing_performed fun _ => .inr) (performed_weaken _ fun _ => .inl)
        (fun name options u _ ran => performed_weaken _ (fun _ => .inr) d d'
          (controlHandleLnsAddModify_does name options d u d' ran)) unheard moved
    refine ⟨fun t down up => ?_, fun c apart connected => ?_⟩
    · rcases performed_raise settled.1.listed kept t .SCCCN up with before | ⟨_, idle | raised⟩
      · exact absurd before down
      · exact idle.elim
      · cases raised
    · rcases performed_raiseCall settled.1.listed kept c .ICCN connected with before | ⟨_, idle | raised⟩
      · exact absurd before apart
      · exact idle.elim
      · rcases raised with other | other <;> cases other

end Steps

theorem run_sane (cfg : Config) (deflns : Option Lns) (lnslist : List Lns) (deflac : Option Lac) (laclist : List Lac)
    {visits : List (Daemon × Event)} {finish : Daemon}
    (run : Run (next cfg) (initDaemon deflns lnslist deflac laclist) visits finish) : Sane finish := by
  obtain ⟨turns, broken⟩ := run_breakdown (initDaemon_listed deflns lnslist deflac laclist) run
  exact Run.invariant (fun _ _ => True) Sane (fun _ => rfl)
    (fun s turn s' there _ done => perform_sane _ s s' turn.2 there done)
    (breakdown_run broken) (Run.meets_always turns)

-- In every run that lets no refused message type through, states change only as
-- message_type_avp allows.
theorem states_guarded (cfg : Config) (deflns : Option Lns) (lnslist : List Lns) (deflac : Option Lac)
    (laclist : List Lac)
    {visits : List (Daemon × Event)} {finish : Daemon}
    (run : Run (next cfg) (initDaemon deflns lnslist deflac laclist) visits finish)
    (honoured : Run.Meets (RefusalsHonoured cfg) visits) :
    Run.Meets (StatesGuarded cfg) visits := by
  intro visit member
  obtain ⟨earlier, d', reaches, _, moved⟩ := Run.visit_split run visit member
  have settled := run_settled cfg deflns lnslist deflac laclist reaches
  have sane := run_sane cfg deflns lnslist deflac laclist reaches
  have honoured := honoured visit member
  exact ⟨acts_on_accepted settled honoured moved, fun _ moved => up_guarded settled sane honoured moved⟩

theorem states_guarded_opened :
    ∃ visits d, Run (next plainConfig) (initDaemon none [poolLns] none []) visits d ∧ (d.tunnel 1).state = some .SCCCN ∧
      Run.Meets (StatesGuarded plainConfig) visits := by
  have seen : (Run.play (next plainConfig) (initDaemon none [poolLns] none []) opens).any (fun d =>
      (d.tunnel 1).state == some .SCCCN &&
        decide (Run.Meets (RefusalsHonoured plainConfig)
          (Run.trace (next plainConfig) (initDaemon none [poolLns] none []) opens))) = true := by decide +kernel
  obtain ⟨d, played, facts⟩ := (Option.any_eq_true _ _).mp seen
  simp only [Bool.and_eq_true, beq_iff_eq, decide_eq_true_eq] at facts
  have run := Run.of_play opens d played
  exact ⟨_, d, run, facts.1, states_guarded plainConfig none [poolLns] none [] run facts.2⟩

def optionalType (m : Msg) : List UInt8 := [0, 8, 0, 0, 0, 0, 0, UInt8.ofNat m.code]

def unaskedReply : Event :=
  ⟨plainWorld, controlFrame 0 0 0 0 (optionalType .SCCRP ++ addFrameCapsAvp 3 ++ addTunnelidAvp 9)⟩

-- A reply to no request brings up a tunnel of its own.
theorem states_unguarded :
    ¬ ∀ (cfg : Config) (deflns : Option Lns) (lnslist : List Lns) (deflac : Option Lac) (laclist : List Lac)
      (visits : List (Daemon × Event)) (finish : Daemon),
      Run (next cfg) (initDaemon deflns lnslist deflac laclist) visits finish →
        Run.Meets (StatesGuarded cfg) visits := by
  intro claimed
  have moves : (next plainConfig emptyDaemon unaskedReply).any (fun d => (d.tunnel 0).state == some .SCCCN) = true := by
    decide +kernel
  obtain ⟨d, moved, up⟩ := (Option.any_eq_true _ _).mp moves
  have guarded := claimed plainConfig none [] none [] _ d (Run.single unaskedReply d moved) (emptyDaemon, unaskedReply)
    (List.mem_singleton_self _)
  obtain ⟨_, _, _, asked | asked⟩ := (guarded.2 d moved).tunnel 0 (by decide) (by simpa using up)
  · cases asked.2
  · cases asked.2

end ZyAgf.Xl2tpd
