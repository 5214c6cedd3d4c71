import ZyAgf.Xl2tpd.Message
import ZyAgf.Xl2tpd.CallDisconnect
import ZyAgf.Xl2tpd.IncomingCall

set_option autoImplicit false

namespace ZyAgf.Xl2tpd

def Call.numbers (cal : Call) : Int × Int := (cal.cid, cal.qcid)

theorem inCall_numbers (env : Env) (s : Standing) (v : Visit) (out : v.namesCall s = false) (cal : Call) :
    (v.inCall env s cal).numbers = cal.numbers := by
  by_cases other : v.attr ∉ [14, 19, 20, 24, 38, 39]
  · rw [inCall_other env s v other]
    rfl
  simp only [List.mem_cons, List.not_mem_nil, or_false, not_not] at other
  unfold Visit.inCall
  rcases other with attr | attr | attr | attr | attr | attr <;> simp only [attr, out]
  · rfl
  all_goals split <;> rfl

theorem stores_numbers (s : Standing) (v : Visit) (change : Call → Call) (stores : v.stores s = some change)
    (out : v.namesCall s = false) (cal : Call) : (change cal).numbers = cal.numbers := by
  unfold Visit.stores at stores
  split at stores
  · next attr =>
      have admitted : v.admitted s [.CDN, .ICRP, .ICRQ, .OCRP] (decide (v.avp.datalen = 8)) = false := by
        simpa [Visit.namesCall, attr] using out
      simp [admitted] at stores
  all_goals
    first
      | cases stores
      | split at stores <;> cases stores
        rfl

theorem stores_result (s : Standing) (v : Visit) (change : Call → Call) (stores : v.stores s = some change)
    (cal : Call) :
    (change cal).result = cal.result := by
  unfold Visit.stores at stores
  split at stores
  all_goals
    first
      | cases stores
      | split at stores <;> cases stores
        rfl

section Handled

variable {env : Env} {s : Standing} {v : Visit} {t : TunnelPtr} {c : CallPtr} {d d' : Daemon} {r : Int}

theorem outcome_names (outcome : Outcome env s v t c d (some (r, d'))) (out : v.namesTunnel s = false) :
    (d'.tunnel t).names = (d.tunnel t).names := by
  cases outcome with
  | quiet _ _ _ _ _ _ _ own => exact own.names out
  | stored => rfl
  | vector => simp [Tunnel.names]
  | typed _ _ _ _ _ _ own => exact own.names out
  | called =>
      rw [withLinkedCall_here]
      rfl

theorem ownSide_numbers (own : OwnSide env s v t c d d') (out : v.namesCall s = false) : (d'.call c).numbers =
    (d.call c).numbers :=
  (congrArg Call.numbers own.call).trans (inCall_numbers env s v out (d.call c).unmarked)

theorem outcome_numbers (old : c < d.fresh) (outcome : Outcome env s v t c d (some (r, d')))
    (out : v.namesCall s = false) :
    (d'.call c).numbers = (d.call c).numbers := by
  cases outcome with
  | quiet _ _ _ _ _ _ _ own => exact ownSide_numbers own out
  | stored p change _ _ stores _ _ =>
      exact write_same d.call Call.numbers p (change (d.call p)) (stores_numbers s v change stores out (d.call p)) c
  | vector => rfl
  | typed _ _ _ _ _ _ own => exact ownSide_numbers own out
  | called =>
      have away := withLinkedCall_call env
        { d with call := write d.call c { d.call c with msgtype := (v.avp.raw 3).toNat } } t c
        (Nat.ne_of_lt old)
      exact (congrArg Call.numbers away).trans
        (write_same d.call Call.numbers c { d.call c with msgtype := (v.avp.raw 3).toNat } rfl c)

theorem outcome_result (q : CallPtr) (old : q < d.fresh) (outcome : Outcome env s v t c d (some (r, d')))
    (out : v.givesResult s = false) (fine : q = c → v.complains env s = false) : (d'.call q).result =
    (d.call q).result := by
  have aside (own : OwnSide env s v t c d d') (others : ∀ p, p ≠ c → (d'.call p).result = (d.call p).result) :
      (d'.call q).result = (d.call q).result := by
    by_cases here : q = c
    · rw [here]
      exact own.result out (fine here)
    · exact others q here
  cases outcome with
  | quiet _ _ _ _ _ _ quiet own => exact aside own fun p other => by rw [quiet.others p other]
  | stored p change _ _ stores _ _ =>
      exact write_same d.call Call.result p (change (d.call p)) (stores_result s v change stores (d.call p)) q
  | vector => rfl
  | typed _ _ _ _ _ quiet own =>
      refine aside own fun p other => ?_
      rw [quiet.others p other]
      exact congrArg Call.result (write_elsewhere _ _ _ _ other)
  | called =>
      have away := withLinkedCall_call env
        { d with call := write d.call c { d.call c with msgtype := (v.avp.raw 3).toNat } } t q
        (Nat.ne_of_lt old)
      exact (congrArg Call.result away).trans
        (write_same d.call Call.result c { d.call c with msgtype := (v.avp.raw 3).toNat } rfl q)

theorem outcome_self (outcome : Outcome env s v t c d (some (r, d'))) : (d'.tunnel t).self = (d.tunnel t).self := by
  cases outcome with
  | quiet _ _ _ _ _ _ quiet _ => exact congrArg (fun kept => kept.2.2.2.2.1) quiet.tunnel
  | stored => rfl
  | vector => simp
  | typed _ _ _ _ _ quiet _ => exact congrArg (fun kept => kept.2.2.2.2.1) quiet.tunnel
  | called => rw [withLinkedCall_here]

theorem outcome_grows (outcome : Outcome env s v t c d (some (r, d'))) : d.fresh ≤ d'.fresh := by
  cases outcome with
  | quiet _ _ _ _ _ _ quiet _ => exact Nat.le_of_eq quiet.fresh.symm
  | stored => exact Nat.le_refl _
  | vector => exact Nat.le_refl _
  | typed _ _ _ _ _ quiet _ => exact Nat.le_of_eq quiet.fresh.symm
  | called => exact Nat.le_succ _

theorem goes_invariant (inv : Daemon → Prop) (quietly : Visit → Prop)
    (step : ∀ v d d' r vector, quietly v → Reads s ⟨v.msgtype, vector⟩ t c d → Outcome env s v t c d (some (r, d')) →
    inv d → inv d')
    (visits : List Visit) (goes : Goes env s t c true d visits (some d')) (all : ∀ v ∈ visits, quietly v)
    (initial : inv d) : inv d' := by
  generalize ends : some d' = last at goes
  induction goes with
  | done d d₁ _ whole =>
      cases ends
      rw [whole rfl]
      exact initial
  | stuck => cases ends
  | visit d d₁ v later last handler vector result found reads ran rest ih =>
      have outcome : Outcome env s v t c d (handler env t c v.avp d) := handler_outcome reads handler found
      rw [ran] at outcome
      exact ih (fun v member => all v (List.mem_cons_of_mem _ member))
        (step v d d₁ result vector (all v List.mem_cons_self) reads outcome initial) ends

end Handled

section Taken

variable {env : Env} {s : Standing} {t : TunnelPtr} {c : CallPtr} {d d' : Daemon} {visits : List Visit}
  (goes : Goes env s t c true d visits (some d'))

include goes

theorem goes_names (out : visits.any (·.namesTunnel s) = false) : (d'.tunnel t).names = (d.tunnel t).names := by
  refine goes_invariant (fun e => (e.tunnel t).names = (d.tunnel t).names) (·.namesTunnel s = false) ?_ visits goes
    (fun v member => by simpa using List.any_eq_false.mp out v member) rfl
  exact fun v e e' r vector quiet _ outcome kept => (outcome_names outcome quiet).trans kept

theorem goes_self : (d'.tunnel t).self = (d.tunnel t).self :=
  goes_invariant (fun e => (e.tunnel t).self = (d.tunnel t).self) (fun _ => True)
    (fun _ _ _ _ _ _ _ outcome kept => (outcome_self outcome).trans kept) visits goes (fun _ _ => trivial) rfl

theorem goes_numbers (out : visits.any (·.namesCall s) = false) : (d'.call c).numbers = (d.call c).numbers := by
  refine goes_invariant (fun e => (e.call c).numbers = (d.call c).numbers) (·.namesCall s = false) ?_ visits goes
    (fun v member => by simpa using List.any_eq_false.mp out v member) rfl
  exact fun v e e' r vector quiet reads outcome kept => (outcome_numbers reads.callOld outcome quiet).trans kept

theorem goes_result (q : CallPtr) (old : q < d.fresh) (out : visits.any (·.givesResult s) = false)
    (fine : q = c → visits.any (·.complains env s) = false) : (d'.call q).result = (d.call q).result := by
  refine (goes_invariant (fun e => q < e.fresh ∧ (e.call q).result = (d.call q).result)
    (fun v => v.givesResult s = false ∧ (q = c → v.complains env s = false)) ?_ visits goes
    (fun v member => ⟨?_, fun here => ?_⟩)
    ⟨old, rfl⟩).2
  · intro v e e' r vector quiet _ outcome kept
    exact ⟨Nat.lt_of_lt_of_le kept.1 (outcome_grows outcome),
      (outcome_result q kept.1 outcome quiet.1 quiet.2).trans kept.2⟩
  · simpa using List.any_eq_false.mp out v member
  · simpa using List.any_eq_false.mp (fine here) v member

end Taken

-- A message that is refused is not answered, moves no state and closes nothing.
structure StoodStill (t : TunnelPtr) (c : CallPtr) (result : Int) (d d' : Daemon) : Prop where
  refused : result ≠ 0
  silent : d'.out = d.out
  tunnel : (d'.tunnel t).state = (d.tunnel t).state
  call : (d'.call c).state = (d.call c).state
  closing : (d'.call c).closing = (d.call c).closing

theorem refuse_stoodStill (t : TunnelPtr) (c : CallPtr) (message : String) (d d' : Daemon) (result : Int)
    (ran : refuse c message d = some (result, d')) : StoodStill t c result d d' := by
  unfold refuse setError at ran
  obtain ⟨_, d₁, marked, ran⟩ := (Prog.bind_some _ _ _ _ _).mp ran
  obtain ⟨_, rfl⟩ := (setCall_some _ _ _ _ _).mp marked
  obtain ⟨rfl, rfl⟩ := (Prog.pure_some _ _ _ _).mp ran
  exact ⟨by decide, rfl, rfl, by simp, by simp⟩

theorem stoodStill_refl (t : TunnelPtr) (c : CallPtr) (d d' : Daemon) (result : Int)
    (ran : (return einval : Act Int) d = some (result, d')) : StoodStill t c result d d' := by
  obtain ⟨rfl, rfl⟩ := (Prog.pure_some _ _ _ _).mp ran
  exact ⟨by decide, rfl, rfl, rfl, rfl⟩

section Finished

variable {env : Env} {t : TunnelPtr} {c : CallPtr} {d d' : Daemon} {result : Int}

theorem finishSCCRQ_unset (unset : (d.tunnel t).tid ≤ 0) (ran : finishSCCRQ env t c d = some (result, d')) :
    StoodStill t c result d d' := by
  unfold finishSCCRQ at ran
  obtain ⟨tun, d₁, read, ran⟩ := (Prog.bind_some _ _ _ _ _).mp ran
  obtain ⟨_, rfl, rfl⟩ := (readTunnel_some _ _ _ _).mp read
  rw [if_pos unset] at ran
  exact refuse_stoodStill t c _ d₁ d' result ran

def LacksIntroduction (tun : Tunnel) : Prop := tun.fc < 0 ∨ tun.hostname = [] ∧
    (tun.chalThem.challenged ∨ tun.chalUs.challenged)

instance (tun : Tunnel) : Decidable (LacksIntroduction tun) := inferInstanceAs (Decidable (_ ∨ _))

theorem finishSCCRP_unset (unset : LacksIntroduction (d.tunnel t) ∨ (d.tunnel t).tid ≤ 0)
    (ran : finishSCCRP env t c d = some (result, d')) : StoodStill t c result d d' := by
  unfold finishSCCRP at ran
  obtain ⟨tun, d₁, read, ran⟩ := (Prog.bind_some _ _ _ _ _).mp ran
  obtain ⟨_, rfl, rfl⟩ := (readTunnel_some _ _ _ _).mp read
  by_cases unframed : (d₁.tunnel t).fc < 0
  · rw [if_pos unframed] at ran
    exact refuse_stoodStill t c _ d₁ d' result ran
  rw [if_neg unframed] at ran
  by_cases nameless : (d₁.tunnel t).hostname = [] ∧
    ((d₁.tunnel t).chalThem.challenged ∨ (d₁.tunnel t).chalUs.challenged)
  · rw [if_pos nameless] at ran
    exact refuse_stoodStill t c _ d₁ d' result ran
  rw [if_neg nameless, if_pos ((unset.resolve_left (not_or.mpr ⟨unframed, nameless⟩)))] at ran
  exact refuse_stoodStill t c _ d₁ d' result ran

theorem finishICRP_unset (unset : (d.call c).cid < 0) (ran : finishICRP env t c d = some (result, d')) :
    StoodStill t c result d d' := by
  unfold finishICRP at ran
  obtain ⟨cal, d₁, read, ran⟩ := (Prog.bind_some _ _ _ _ _).mp ran
  obtain ⟨_, rfl, rfl⟩ := (readCall_some _ _ _ _).mp read
  rw [if_pos unset] at ran
  obtain ⟨_, d₂, marked, ran⟩ := (Prog.bind_some _ _ _ _ _).mp ran
  obtain ⟨_, rfl⟩ := (setCall_some _ _ _ _ _).mp marked
  obtain ⟨rfl, rfl⟩ := (Prog.pure_some _ _ _ _).mp ran
  exact ⟨by decide, rfl, rfl, by simp, by simp⟩

def stopExpects (tun : Tunnel) : Int := if isMsl2tp tun then tun.ourtid else tun.tid

def StopMisfits (tun : Tunnel) : Prop := tun.qtid ≠ stopExpects tun ∧ 0 < stopExpects tun

instance (tun : Tunnel) : Decidable (StopMisfits tun) := inferInstanceAs (Decidable (_ ∧ _))

theorem finishStopCCN_unset
    (unset : (d.tunnel t).qtid < 0 ∨ StopMisfits (d.tunnel t) ∨ ∀ self, (d.tunnel t).self = some self →
    (d.call self).result < 0)
    (ran : finishStopCCN t c d = some (result, d')) : StoodStill t c result d d' := by
  unfold finishStopCCN at ran
  obtain ⟨tun, d₁, read, ran⟩ := (Prog.bind_some _ _ _ _ _).mp ran
  obtain ⟨_, rfl, rfl⟩ := (readTunnel_some _ _ _ _).mp read
  by_cases unnamed : (d₁.tunnel t).qtid < 0
  · rw [if_pos unnamed] at ran
    exact stoodStill_refl t c d₁ d' result ran
  rw [if_neg unnamed] at ran
  change (if (d₁.tunnel t).qtid ≠ stopExpects (d₁.tunnel t) ∧ 0 < stopExpects (d₁.tunnel t) then _ else _ : Act Int)
    d₁ = _ at ran
  by_cases misfit : (d₁.tunnel t).qtid ≠ stopExpects (d₁.tunnel t) ∧ 0 < stopExpects (d₁.tunnel t)
  · rw [if_pos misfit] at ran
    exact stoodStill_refl t c d₁ d' result ran
  have unexplained := (unset.resolve_left unnamed).resolve_left misfit
  rw [if_neg misfit] at ran
  obtain ⟨_, d₂, named, ran⟩ := (Prog.bind_some _ _ _ _ _).mp ran
  obtain ⟨_, rfl⟩ := (setTunnel_some _ _ _ _ _).mp named
  obtain ⟨self, d₃, found, ran⟩ := (Prog.bind_some _ _ _ _ _).mp ran
  obtain ⟨own, rfl⟩ := (deref_some _ _ _ _).mp found
  obtain ⟨me, d₄, read, ran⟩ := (Prog.bind_some _ _ _ _ _).mp ran
  obtain ⟨_, rfl, rfl⟩ := (readCall_some _ _ _ _).mp read
  rw [if_pos (unexplained self own)] at ran
  obtain ⟨rfl, rfl⟩ := (Prog.pure_some _ _ _ _).mp ran
  exact ⟨by decide, rfl, by simp, rfl, rfl⟩

def CdnMisfits (d : Daemon) (t : TunnelPtr) (c : CallPtr) : Prop :=
  ∀ p ∈ cdnNames d t c, (d.call c).qcid ≠ cdnExpects d t p ∧ 0 < cdnExpects d t p

instance (d : Daemon) (t : TunnelPtr) (c : CallPtr) : Decidable (CdnMisfits d t c) :=
    inferInstanceAs (Decidable (∀ p ∈ _, _))

theorem finishCDN_unset (unset : (d.call c).qcid < 0 ∨ CdnMisfits d t c ∨ (d.call c).result < 0)
    (ran : finishCDN t c d = some (result, d')) : StoodStill t c result d d' := by
  unfold finishCDN at ran
  obtain ⟨tun, d₁, read, ran⟩ := (Prog.bind_some _ _ _ _ _).mp ran
  obtain ⟨_, rfl, rfl⟩ := (readTunnel_some _ _ _ _).mp read
  obtain ⟨cal, d₂, read, ran⟩ := (Prog.bind_some _ _ _ _ _).mp ran
  obtain ⟨_, rfl, rfl⟩ := (readCall_some _ _ _ _).mp read
  by_cases unnamed : (d₂.call c).qcid < 0
  · rw [if_pos unnamed] at ran
    exact stoodStill_refl t c d₂ d' result ran
  rw [if_neg unnamed] at ran
  obtain ⟨named, d₃, found, ran⟩ := (Prog.bind_some _ _ _ _ _).mp ran
  obtain ⟨rfl, names⟩ := namedCall_some d₂ d₃ t c named found
  cases named with
  | none => exact stoodStill_refl t c d₃ d' result ran
  | some p =>
      dsimp only at ran
      obtain ⟨named, d₄, read, ran⟩ := (Prog.bind_some _ _ _ _ _).mp ran
      obtain ⟨_, rfl, rfl⟩ := (readCall_some _ _ _ _).mp read
      change (if _ ≠ cdnExpects d₄ t p ∧ 0 < cdnExpects d₄ t p then _ else _ : Act Int) d₄ = _ at ran
      by_cases misfit : (d₄.call c).qcid ≠ cdnExpects d₄ t p ∧ 0 < cdnExpects d₄ t p
      · rw [if_pos misfit] at ran
        exact stoodStill_refl t c d₄ d' result ran
      rw [if_neg misfit] at ran
      have unexplained : (d₄.call c).result < 0 := by
        rcases (unset.resolve_left unnamed) with misfits | unexplained
        · exact absurd (misfits p names.symm) misfit
        · exact unexplained
      obtain ⟨_, d₅, taken, ran⟩ := (Prog.bind_some _ _ _ _ _).mp ran
      obtain ⟨_, rfl⟩ := (setCall_some _ _ _ _ _).mp taken
      rw [if_pos unexplained] at ran
      obtain ⟨rfl, rfl⟩ := (Prog.pure_some _ _ _ _).mp ran
      exact ⟨by decide, rfl, rfl, by simp, by simp⟩

theorem finishICRQ_unset (unset : ∀ p ∈ (d.tunnel t).calls.head?, (d.call p).lns = none)
    (ran : finishICRQ env t d = some (result, d')) : result ≠ 0 := by
  unfold finishICRQ at ran
  obtain ⟨tun, d₁, read, ran⟩ := (Prog.bind_some _ _ _ _ _).mp ran
  obtain ⟨_, rfl, rfl⟩ := (readTunnel_some _ _ _ _).mp read
  obtain ⟨p, d₂, found, ran⟩ := (Prog.bind_some _ _ _ _ _).mp ran
  obtain ⟨first, rfl⟩ := (deref_some _ _ _ _).mp found
  obtain ⟨cal, d₃, read, ran⟩ := (Prog.bind_some _ _ _ _ _).mp ran
  obtain ⟨_, rfl, rfl⟩ := (readCall_some _ _ _ _).mp read
  rw [unset p first] at ran
  obtain ⟨_, d₄, _, ran⟩ := (Prog.bind_some _ _ _ _ _).mp ran
  unfold closeRefused at ran
  obtain ⟨_, d₅, _, ran⟩ := (Prog.bind_some _ _ _ _ _).mp ran
  obtain ⟨rfl, _⟩ := (Prog.pure_some _ _ _ _).mp ran
  decide

theorem controlFinish_typed (m : Msg) (typed : Msg.ofCode (d.call c).msgtype = some m)
    (ran : controlFinish env t c d = some (result, d')) :
    (match m with
      | .SCCRQ => finishSCCRQ env t c
      | .SCCRP => finishSCCRP env t c
      | .StopCCN => finishStopCCN t c
      | .ICRQ => finishICRQ env t
      | .ICRP => finishICRP env t c
      | .CDN => finishCDN t c
      | _ => controlFinish env t c) d = some (result, d') := by
  have code : (d.call c).msgtype = m.code := (Msg.code_ofCode _ m typed).symm
  have positive : 0 < (m.code : Int) := by cases m <;> decide
  unfold controlFinish at ran ⊢
  obtain ⟨cal, d₁, read, ran'⟩ := (Prog.bind_some _ _ _ _ _).mp ran
  obtain ⟨_, rfl, rfl⟩ := (readCall_some _ _ _ _).mp read
  rw [code, if_neg (by omega), if_neg (by omega), Msg.ofCode_code] at ran'
  cases m <;> first | exact ran' | exact ran

end Finished

def carried (s : Standing) (m : Msg) (visits : List Visit) : Bool :=
  match m with
  | .SCCRQ | .SCCRP => visits.any (·.namesTunnel s)
  | .ICRQ | .ICRP => visits.any (·.namesCall s)
  | .StopCCN => visits.any (·.namesTunnel s) && visits.any (·.givesResult s)
  | .CDN => visits.any (·.namesCall s) && visits.any (·.givesResult s)
  | _ => true

-- An ICRQ is refused by closing the call that was made for it, every other
-- message by doing nothing.
def GoesOn (m : Msg) (t : TunnelPtr) (c : CallPtr) (result : Int) (d d' : Daemon) : Prop :=
  if m = .ICRQ then result = 0 else ¬ StoodStill t c result d d'

section Message

variable (env : Env) (d : Daemon) (t : TunnelPtr) (c : CallPtr) (visits : List Visit)

-- No result stands in the call, and the message puts none there but by giving it.
def ResultUnset (q : CallPtr) : Prop :=
  (d.call q).result < 0 ∧ (q = c → visits.any (·.complains env (standing d t c)) = false)

instance (q : CallPtr) : Decidable (ResultUnset env d t c visits q) := inferInstanceAs (Decidable (_ ∧ _))

-- A field that the message does not fill is as it was when it was made.
def Unset : Msg → Prop
  | .SCCRQ | .SCCRP => (d.tunnel t).tid ≤ 0 ∧ visits.any (·.namesTunnel (standing d t c)) = false
  | .ICRP => (d.call c).cid < 0 ∧ visits.any (·.namesCall (standing d t c)) = false
  | .StopCCN =>
      (d.tunnel t).qtid < 0 ∧ visits.any (·.namesTunnel (standing d t c)) = false ∨
        (∀ self ∈ (d.tunnel t).self, ResultUnset env d t c visits self) ∧
          visits.any (·.givesResult (standing d t c)) = false
  | .CDN =>
      (d.call c).qcid < 0 ∧ visits.any (·.namesCall (standing d t c)) = false ∨
        ResultUnset env d t c visits c ∧ visits.any (·.givesResult (standing d t c)) = false
  | _ => False

instance (m : Msg) : Decidable (Unset env d t c visits m) :=
  match m with
  | .SCCRQ | .SCCRP | .ICRP => inferInstanceAs (Decidable (_ ∧ _))
  | .StopCCN | .CDN => inferInstanceAs (Decidable (_ ∨ _))
  | .SCCCN | .ICRQ | .ICCN | .OCRQ | .OCRP | .OCCN | .Hello | .WEN | .SLI => inferInstanceAs (Decidable False)

def RefusedAnyway : Msg → Prop
  | .SCCRP => LacksIntroduction (d.tunnel t)
  | .ICRQ => ∀ p ∈ (d.tunnel t).calls.head?, (d.call p).lns = none
  | .StopCCN => StopMisfits (d.tunnel t)
  | .CDN => CdnMisfits d t c
  | _ => False

instance (m : Msg) : Decidable (RefusedAnyway d t c m) :=
  match m with
  | .SCCRP => inferInstanceAs (Decidable (LacksIntroduction _))
  | .ICRQ => inferInstanceAs (Decidable (∀ p ∈ _, _))
  | .StopCCN => inferInstanceAs (Decidable (StopMisfits _))
  | .CDN => inferInstanceAs (Decidable (CdnMisfits _ _ _))
  | .SCCRQ | .SCCCN | .ICRP | .ICCN | .OCRQ | .OCRP | .OCCN | .Hello | .WEN | .SLI => inferInstanceAs (Decidable False)

end Message

section Stands

variable {env : Env} {t : TunnelPtr} {c : CallPtr} {d after final : Daemon} {visits : List Visit} {result : Int}

theorem unset_stands (old : c < d.fresh) (selfOld : ∀ self, (d.tunnel t).self = some self → self < d.fresh)
    (goes : Goes env (standing d t c) t c true d visits (some after)) (m : Msg)
    (typed : Msg.ofCode (after.call c).msgtype = some m)
    (ran : controlFinish env t c after = some (result, final))
    (unset : Unset env d t c visits m ∨ RefusedAnyway after t c m) :
    ¬ GoesOn m t c result after final := by
  have finished := controlFinish_typed m typed ran
  have still (stood : StoodStill t c result after final) (other : m ≠ .ICRQ) : ¬ GoesOn m t c result after final := by
    unfold GoesOn
    rw [if_neg other]
    exact not_not_intro stood
  cases m with
  | SCCRQ =>
      obtain ⟨unnamed, absent⟩ := unset.resolve_right id
      have same := congrArg Prod.fst (goes_names goes absent)
      exact still (finishSCCRQ_unset (Eq.trans_le same unnamed) finished) (by decide)
  | SCCRP =>
      refine still (finishSCCRP_unset ?_ finished) (by decide)
      rcases unset with ⟨unnamed, absent⟩ | lacks
      · exact .inr (Eq.trans_le (congrArg Prod.fst (goes_names goes absent)) unnamed)
      · exact .inl lacks
  | ICRQ =>
      unfold GoesOn
      rw [if_pos rfl]
      exact finishICRQ_unset (unset.resolve_left id) finished
  | ICRP =>
      obtain ⟨unnamed, absent⟩ := unset.resolve_right id
      have same := congrArg Prod.fst (goes_numbers goes absent)
      exact still (finishICRP_unset (Eq.trans_lt same unnamed) finished) (by decide)
  | StopCCN =>
      refine still (finishStopCCN_unset ?_ finished) (by decide)
      rcases unset with (⟨unnamed, absent⟩ | ⟨unexplained, absent⟩) | misfits
      · exact .inl (Eq.trans_lt (congrArg Prod.snd (goes_names goes absent)) unnamed)
      · refine .inr (.inr fun self own => ?_)
        have own' := (goes_self goes).symm.trans own
        obtain ⟨unset, fine⟩ := unexplained self own'
        exact Eq.trans_lt (goes_result goes self (selfOld self own') absent fine) unset
      · exact .inr (.inl misfits)
  | CDN =>
      refine still (finishCDN_unset ?_ finished) (by decide)
      rcases unset with (⟨unnamed, absent⟩ | ⟨⟨unset, fine⟩, absent⟩) | misfits
      · exact .inl (Eq.trans_lt (congrArg Prod.snd (goes_numbers goes absent)) unnamed)
      · exact .inr (.inr (Eq.trans_lt (goes_result goes c old absent fine) unset))
      · exact .inr (.inl misfits)
  | _ => exact (unset.elim id id).elim

end Stands

-- Whatever a message is answered or followed by, it has carried what it must.
def IdentifiersCarried (cfg : Config) (d : Daemon) (event : Event) : Prop :=
  ∀ p, presentation cfg d event = some p → p.hears = true → ∀ after,
    handleAvps { toConfig := cfg, toWorld := event.world } p.t p.c p.buf p.heard = some (0, after) →
      ∀ m result final, Msg.ofCode (after.call p.c).msgtype = some m →
        controlFinish { toConfig := cfg, toWorld := event.world } p.t p.c after = some (result, final) →
          GoesOn m p.t p.c result after final →
            carried (standing p.heard p.t p.c) m
              (messageTrace { toConfig := cfg, toWorld := event.world } p.heard p.t p.c p.buf).1 = true

-- A message carries what it must, or finds a field it does not fill unset.
def NothingLeftOver (cfg : Config) (d : Daemon) (event : Event) : Prop :=
  ∀ p ∈ presentation cfg d event, p.hears = true →
    ∀ ended ∈ handleAvps { toConfig := cfg, toWorld := event.world } p.t p.c p.buf p.heard, ended.1 = 0 →
      ∀ m ∈ Msg.ofCode (ended.2.call p.c).msgtype,
        carried (standing p.heard p.t p.c) m
            (messageTrace { toConfig := cfg, toWorld := event.world } p.heard p.t p.c p.buf).1 = true ∨
          Unset { toConfig := cfg, toWorld := event.world } p.heard p.t p.c
              (messageTrace { toConfig := cfg, toWorld := event.world } p.heard p.t p.c p.buf).1 m ∨
            RefusedAnyway ended.2 p.t p.c m

instance (cfg : Config) (d : Daemon) (event : Event) : Decidable (NothingLeftOver cfg d event) :=
  inferInstanceAs (Decidable (∀ p ∈ _, _))

theorem identifiers_carried_step (cfg : Config) (d d' : Daemon) (event : Event) (settled : Settled d)
    (moved : next cfg d event = some d') (nothing : NothingLeftOver cfg d event) : IdentifiersCarried cfg d event := by
  intro p presented hears after parsed m result final typed ran goesOn
  have entry := heard_entry cfg d event p settled presented hears (found_live cfg d d' event p presented hears moved)
  have goes := (handleAvps_taken { toConfig := cfg, toWorld := event.world } p.heard after p.t p.c p.buf entry parsed).2
  refine (nothing p presented hears _ parsed rfl m typed).resolve_right fun unset => ?_
  exact unset_stands entry.old (heard_self cfg d event p settled presented hears) goes m typed ran unset goesOn

-- In every run whose messages find nothing left over in the fields they do not
-- fill, no message is followed without what it must carry.
theorem identifiers_carried (cfg : Config) (deflns : Option Lns) (lnslist : List Lns) (deflac : Option Lac)
    (laclist : List Lac)
    {visits : List (Daemon × Event)} {finish : Daemon}
    (run : Run (next cfg) (initDaemon deflns lnslist deflac laclist) visits finish)
    (nothing : Run.Meets (NothingLeftOver cfg) visits) :
    Run.Meets (IdentifiersCarried cfg) visits := by
  intro visit member
  obtain ⟨earlier, d', reaches, _, moved⟩ := Run.visit_split run visit member
  exact identifiers_carried_step cfg visit.1 d' visit.2 (run_settled cfg deflns lnslist deflac laclist reaches) moved
    (nothing visit member)

def requests (body : List UInt8) : List Event := opens ++ [onTunnel 0 2 (addMessageTypeAvp .ICRQ ++ body)]

theorem identifiers_carried_named :
    ∃ visits d, Run (next plainConfig) (initDaemon none [poolLns] none []) visits d ∧ visits.length = 3 ∧
      Run.Meets (IdentifiersCarried plainConfig) visits := by
  have seen : (Run.play (next plainConfig) (initDaemon none [poolLns] none []) (requests (addCallidAvp 5))).any
    (fun _ =>
      decide (Run.Meets (NothingLeftOver plainConfig)
        (Run.trace (next plainConfig) (initDaemon none [poolLns] none []) (requests (addCallidAvp 5)))) &&
      (Run.trace (next plainConfig) (initDaemon none [poolLns] none []) (requests (addCallidAvp 5))).length == 3) =
        true := by
    decide +kernel
  obtain ⟨d, played, facts⟩ := (Option.any_eq_true _ _).mp seen
  simp only [Bool.and_eq_true, beq_iff_eq, decide_eq_true_eq] at facts
  have run := Run.of_play (requests (addCallidAvp 5)) d played
  exact ⟨_, d, run, facts.2, identifiers_carried plainConfig none [poolLns] none [] run facts.1⟩

-- A call is made with the number zero, so an ICRQ that gives none is answered.
theorem identifiers_left_over :
    ¬ ∀ (cfg : Config) (deflns : Option Lns) (lnslist : List Lns) (deflac : Option Lac) (laclist : List Lac)
      (visits : List (Daemon × Event)) (finish : Daemon),
      Run (next cfg) (initDaemon deflns lnslist deflac laclist) visits finish →
        Run.Meets (IdentifiersCarried cfg) visits := by
  intro claimed
  have seen : (Run.play (next plainConfig) (initDaemon none [poolLns] none []) opens).any (fun d =>
      (next plainConfig d (onTunnel 0 2 (addMessageTypeAvp .ICRQ))).isSome &&
        (presentation plainConfig d (onTunnel 0 2 (addMessageTypeAvp .ICRQ))).any fun p =>
          p.hears && !carried (standing p.heard p.t p.c) .ICRQ (messageTrace plainEnv p.heard p.t p.c p.buf).1 &&
            (handleAvps plainEnv p.t p.c p.buf p.heard).any fun ended =>
              ended.1 == 0 && Msg.ofCode (ended.2.call p.c).msgtype == some .ICRQ &&
                (controlFinish plainEnv p.t p.c ended.2).any fun last => last.1 == 0) = true := by decide +kernel
  obtain ⟨d, played, facts⟩ := (Option.any_eq_true _ _).mp seen
  obtain ⟨moves, facts⟩ := (Bool.and_eq_true_iff).mp facts
  obtain ⟨d', moved⟩ := Option.isSome_iff_exists.mp moves
  obtain ⟨p, presented, facts⟩ := (Option.any_eq_true _ _).mp facts
  obtain ⟨facts, later⟩ := (Bool.and_eq_true_iff).mp facts
  obtain ⟨hears, lacks⟩ := (Bool.and_eq_true_iff).mp facts
  obtain ⟨⟨parse, after⟩, parsed, facts⟩ := (Option.any_eq_true _ _).mp later
  simp only [Bool.and_eq_true, beq_iff_eq] at facts
  obtain ⟨⟨rfl, typed⟩, facts⟩ := facts
  obtain ⟨⟨result, final⟩, ran, zero⟩ := (Option.any_eq_true _ _).mp facts
  have run := (Run.of_play opens d played).snoc _ _ _ _ moved
  have carries := claimed plainConfig none [poolLns] none [] _ d' run (d, _)
    (List.mem_append_right _ (List.mem_singleton_self _))
    p presented hears after parsed .ICRQ result final typed ran (by simpa [GoesOn] using zero)
  rw [Bool.not_eq_true'] at lacks
  exact Bool.false_ne_true (lacks.symm.trans carries)

end ZyAgf.Xl2tpd
