import ZyAgf.Xl2tpd.AvpOutcome
import ZyAgf.Xl2tpd.Linked

set_option autoImplicit false

namespace ZyAgf.Xl2tpd

-- Where the loop stands on an AVP before its handler is looked up: the message is
-- given up, the AVP is passed over, or its handler finds it here.
inductive Inspected where
  | refused
  | skipped (left : List UInt8)
  | handled (mem : List UInt8) (data : Nat)

section Reader

variable (env : Env) (s : Standing)

def keyed (r : Reading) : Tunnel :=
  { Tunnel.created 0 with chalUs := { Challenge.zero with secret := s.secret, vector := r.vector } }

def inspect (r : Reading) (mem : List UInt8) (data : Nat) (len : Int) (first : Bool) : Inspected :=
  let length := hostWord mem data
  let attr := (hostWord mem (data + 4)).toNat
  if attr > avpMax then if AMBIT length then .refused else .skipped mem
  else if (ALENGTH length : Int) > len then .refused
  else if attr ≠ 0 ∧ first then .refused
  else if ALENGTH length < avpHdrSize then .refused
  else if AZBITS length then if AMBIT length then .refused else .skipped mem
  else if AHBIT length then
    match decryptAvp env (keyed s r) mem data with
    | (none, opened) => if AMBIT length then .refused else .skipped opened
    | (some shown, _) => .handled shown (data + 2)
  else .handled mem data

def Visit.leaves (v : Visit) (r : Reading) : Reading :=
  if v.attr = 0 then { r with msgtype := (v.avp.raw 3).toNat }
  else if v.attr = 36 ∧ v.fails env s = false then { r with vector := some v.avp.value }
  else r

def visitAt (r : Reading) (mem : List UInt8) (data : Nat) : Visit :=
  ⟨(hostWord mem (data + 4)).toNat, ⟨mem, data, ALENGTH (hostWord mem data)⟩, r.msgtype⟩

-- The AVPs of a message that reach their handlers, in order, and whether the
-- message is taken as a whole.
def avpTrace : Nat → List UInt8 → Nat → Int → Bool → Reading → List Visit × Bool
  | 0, _, _, len, _, _ => ([], decide (len = 0))
  | fuel + 1, mem, data, len, first, r =>
      if len ≤ 0 then ([], decide (len = 0))
      else
        let swapped := swaps mem data 3
        let alen := ALENGTH (hostWord swapped data)
        let onward := fun (left : List UInt8) (r : Reading) =>
          if alen = 0 then ([], false) else avpTrace fuel left (data + alen) (len - alen) false r
        match inspect env s r swapped data len first with
        | .refused => ([], false)
        | .skipped left => onward left r
        | .handled shown place =>
            let v := visitAt r shown place
            let mandatory := AMBIT (hostWord shown place)
            if (avps v.attr).1.isNone then if mandatory then ([], false) else onward shown r
            else if v.fails env s ∧ mandatory then ([v], false)
            else
              let rest := onward shown (v.leaves env s r)
              (v :: rest.1, rest.2)

end Reader

theorem decryptAvp_keyed (env : Env) (s : Standing) (r : Reading) (tun : Tunnel) (mem : List UInt8) (data : Nat)
    (secret : tun.chalUs.secret = s.secret) (vector : tun.chalUs.vector = r.vector) :
    decryptAvp env tun mem data = decryptAvp env (keyed s r) mem data := by
  unfold decryptAvp keyed
  rw [secret, vector]

theorem outcome_reads (env : Env) (s : Standing) (v : Visit) (vector : Option (List UInt8)) (t : TunnelPtr)
    (c : CallPtr)
    (d d' : Daemon) (r : Int) (reads : Reads s ⟨v.msgtype, vector⟩ t c d)
    (outcome : Outcome env s v t c d (some (r, d'))) :
    (r ≠ 0 ↔ v.fails env s = true) ∧ Reads s (v.leaves env s ⟨v.msgtype, vector⟩) t c d' := by
  have typed : Reads s ⟨(v.avp.raw 3).toNat, vector⟩ t c
      { d with call := write d.call c { d.call c with msgtype := (v.avp.raw 3).toNat } } := by
    refine ⟨reads.tunnelLive, by simpa using reads.callLive, ?_, reads.callOld, ?_, ?_⟩
    · intro p member
      obtain ⟨live, old⟩ := reads.callsLive p member
      exact ⟨(write_same d.call Call.live c { d.call c with msgtype := (v.avp.raw 3).toNat } rfl p).trans live, old⟩
    · rw [← reads.standing]
      simp [standing]
    · have same := congrArg Reading.vector reads.reading
      simpa [reading] using same
  cases outcome with
  | quiet _ _ plain result keeps _ quiet _ =>
      refine ⟨result, ?_⟩
      unfold Visit.leaves
      rw [if_neg plain, if_neg (by rintro ⟨random, fine⟩; simp [keeps random] at fine)]
      exact reads_quiet s _ t c d d' reads quiet
  | stored p change plain taken _ keeps _ =>
      refine ⟨by simp [taken], ?_⟩
      unfold Visit.leaves
      rw [if_neg plain.1, if_neg fun both => plain.2 both.1]
      have same (other : CallPtr) := write_same d.call Call.kept p (change (d.call p)) (keeps _) other
      refine reads_kept s _ t c d _ reads rfl (same c) rfl fun other live => ?_
      exact (congrArg Prod.fst (same other)).trans live
  | vector attr taken =>
      refine ⟨by simp [taken], ?_⟩
      unfold Visit.leaves
      rw [if_neg (by omega), if_pos ⟨attr, taken⟩]
      refine ⟨by simpa using reads.tunnelLive, reads.callLive, by simpa using reads.callsLive, reads.callOld, ?_, ?_⟩
      · rw [← reads.standing]
        simp [standing]
      · have same := congrArg Reading.msgtype reads.reading
        simpa [reading] using same
  | typed _ _ attr result _ quiet _ =>
      refine ⟨result, ?_⟩
      unfold Visit.leaves
      rw [if_pos attr]
      exact reads_quiet s _ t c _ d' typed quiet
  | called attr taken _ =>
      refine ⟨by simp [taken], ?_⟩
      unfold Visit.leaves
      rw [if_pos attr]
      generalize ({ d with call := write d.call c { d.call c with msgtype := (v.avp.raw 3).toNat } } : Daemon) =
        d₀ at typed ⊢
      have own : c ≠ d₀.fresh := Nat.ne_of_lt typed.callOld
      have sameCall := withLinkedCall_call env d₀ t c own
      have here := withLinkedCall_here env d₀ t
      refine ⟨by rw [here]; exact typed.tunnelLive, by rw [sameCall]; exact typed.callLive, ?_,
        Nat.lt_succ_of_lt typed.callOld, ?_, ?_⟩
      · intro p member
        rw [here] at member
        rcases List.mem_cons.mp member with rfl | old
        · exact ⟨by rw [withLinkedCall_made]; rfl, Nat.lt_succ_self _⟩
        · obtain ⟨live, before⟩ := typed.callsLive p old
          exact ⟨by rw [withLinkedCall_call env d₀ t p (Nat.ne_of_lt before)]; exact live, Nat.lt_succ_of_lt before⟩
      · rw [← typed.standing]
        unfold standing
        rw [here, sameCall]
      · rw [← typed.reading]
        unfold reading
        rw [here, sameCall]

-- The handlers of a message one after the other; the last of them may go wrong.
-- Behind them, only a message that is given up leaves a mark of its own.
inductive Goes (env : Env) (s : Standing) (t : TunnelPtr) (c : CallPtr) (taken : Bool) : Daemon → List Visit →
    Option Daemon → Prop where
  | done (d d' : Daemon) (marked : Marked t c d d') (whole : taken = true → d' = d) : Goes env s t c taken d []
    (some d')
  | stuck (d : Daemon) (v : Visit) (later : List Visit) (handler : Handler) (vector : Option (List UInt8))
      (found : (avps v.attr).1 = some handler) (reads : Reads s ⟨v.msgtype, vector⟩ t c d)
      (ran : handler env t c v.avp d = none) : Goes env s t c taken d (v :: later) none
  | visit (d d' : Daemon) (v : Visit) (later : List Visit) (last : Option Daemon) (handler : Handler)
      (vector : Option (List UInt8)) (result : Int) (found : (avps v.attr).1 = some handler)
      (reads : Reads s ⟨v.msgtype, vector⟩ t c d) (ran : handler env t c v.avp d = some (result, d'))
      (rest : Goes env s t c taken d' later last) : Goes env s t c taken d (v :: later) last

section Loop

variable {env : Env} {s : Standing} {t : TunnelPtr} {c : CallPtr}

theorem refuseAvp_marked (d : Daemon) (live : (d.call c).live = true) (error : Int) (message : CString) :
    ∃ d', refuseAvp c error message d = some (none, d') ∧ Marked t c d d' :=
  ⟨_, (Prog.bind_some _ _ _ _ _).mpr ⟨_, _, setCall_live c _ d live, rfl⟩, marked_call t c d _ rfl rfl⟩

theorem handleAvp_inspect (r : Reading) (mem : List UInt8) (data : Nat) (len : Int) (first : Bool) (d : Daemon)
    (reads : Reads s r t c d) :
    match inspect env s r mem data len first with
    | .refused => ∃ d', handleAvp env t c mem data len first d = some (none, d') ∧ Marked t c d d'
    | .skipped left => handleAvp env t c mem data len first d = some (some left, d)
    | .handled shown place => handleAvp env t c mem data len first d = runHandler env t c shown place d := by
  have refused := refuseAvp_marked (t := t) d reads.callLive
  unfold inspect handleAvp
  dsimp only
  by_cases unknown : (hostWord mem (data + 4)).toNat > avpMax
  · rw [if_pos unknown, if_pos unknown]
    by_cases mandatory : AMBIT (hostWord mem data) = true
    · rw [if_pos mandatory, if_pos mandatory]
      exact refused _ _
    · rw [if_neg mandatory, if_neg mandatory]
      rfl
  rw [if_neg unknown, if_neg unknown]
  by_cases long : (ALENGTH (hostWord mem data) : Int) > len
  · rw [if_pos long, if_pos long]
    exact refused _ _
  rw [if_neg long, if_neg long]
  by_cases untyped : (hostWord mem (data + 4)).toNat ≠ 0 ∧ first
  · rw [if_pos untyped, if_pos untyped]
    exact refused _ _
  rw [if_neg untyped, if_neg untyped]
  by_cases small : ALENGTH (hostWord mem data) < avpHdrSize
  · rw [if_pos small, if_pos small]
    exact refused _ _
  rw [if_neg small, if_neg small]
  by_cases zbits : AZBITS (hostWord mem data) = true
  · rw [if_pos zbits, if_pos zbits]
    by_cases mandatory : AMBIT (hostWord mem data) = true
    · rw [if_pos mandatory, if_pos mandatory]
      exact refused _ _
    · rw [if_neg mandatory, if_neg mandatory]
      rfl
  rw [if_neg zbits, if_neg zbits]
  by_cases hidden : AHBIT (hostWord mem data) = true
  · rw [if_pos hidden, if_pos hidden, bind_read _ _ d _ (readTunnel_live t d reads.tunnelLive)]
    rw [decryptAvp_keyed env s r (d.tunnel t) mem data (congrArg Standing.secret reads.standing)
      (congrArg Reading.vector reads.reading)]
    rcases decryptAvp env (keyed s r) mem data with ⟨shown, opened⟩
    cases shown with
    | none =>
        dsimp only
        by_cases mandatory : AMBIT (hostWord mem data) = true
        · rw [if_pos mandatory, if_pos mandatory]
          exact refused _ _
        · rw [if_neg mandatory, if_neg mandatory]
          rfl
    | some shown => rfl
  · rw [if_neg hidden, if_neg hidden]

theorem bind_stuck {α β : Type} (first : Act α) (later : α → Act β) (d : Daemon) (stuck : first d = none) :
    (first >>= later) d = none := by
  show (first d).bind _ = none
  rw [stuck]
  rfl

section Handler

variable (r : Reading) (mem : List UInt8) (data : Nat) (d : Daemon)

theorem runHandler_absent (reads : Reads s r t c d) (found : (avps (visitAt r mem data).attr).1 = none) :
    if AMBIT (hostWord mem data) then ∃ d', runHandler env t c mem data d = some (none, d') ∧ Marked t c d d'
    else runHandler env t c mem data d = some (some mem, d) := by
  have found' : (avps (hostWord mem (data + 4)).toNat).1 = none := found
  unfold runHandler
  rw [found']
  by_cases mandatory : AMBIT (hostWord mem data) = true
  · simp only [if_pos mandatory]
    exact refuseAvp_marked d reads.callLive _ _
  · simp only [if_neg mandatory]
    rfl

variable (handler : Handler) (found : (avps (visitAt r mem data).attr).1 = some handler)

include found

theorem runHandler_stuck (stuck : handler env t c (visitAt r mem data).avp d = none) : runHandler env t c mem data d =
    none := by
  have found' : (avps (hostWord mem (data + 4)).toNat).1 = some handler := found
  unfold runHandler
  rw [found']
  exact bind_stuck _ _ d stuck

theorem runHandler_ran (result : Int) (d' : Daemon)
    (ran : handler env t c (visitAt r mem data).avp d = some (result, d'))
    (live : (d'.call c).live = true) :
    if result ≠ 0 ∧ AMBIT (hostWord mem data) then ∃ d'', runHandler env t c mem data d = some (none, d'') ∧
      Marked t c d' d''
    else runHandler env t c mem data d = some (some mem, d') := by
  have found' : (avps (hostWord mem (data + 4)).toNat).1 = some handler := found
  unfold runHandler
  rw [found']
  dsimp only
  have ran' : handler env t c ⟨mem, data, ALENGTH (hostWord mem data)⟩ d = some (result, d') := ran
  rw [bind_ran _ _ d d' result ran']
  by_cases bad : result ≠ 0 ∧ AMBIT (hostWord mem data) = true
  · simp only [if_pos bad]
    exact ⟨_, (Prog.bind_some _ _ _ _ _).mpr ⟨_, _, setCall_live c _ d' live, rfl⟩, marked_call t c d' _ rfl rfl⟩
  · simp only [if_neg bad]
    rfl

end Handler

def verdict (taken : Bool) : Int := if taken then 0 else einval

theorem avpLoop_trace (fuel : Nat) (mem : List UInt8) (data : Nat) (len : Int) (first : Bool) (r : Reading) (d : Daemon)
    (reads : Reads s r t c d) :
    ∃ last, Goes env s t c (avpTrace env s fuel mem data len first r).2 d
      (avpTrace env s fuel mem data len first r).1 last ∧
      avpLoop env t c fuel mem data len first d =
        last.map fun d' => (verdict (avpTrace env s fuel mem data len first r).2, d') := by
  have spent (len : Int) (d : Daemon) : (return if len ≠ 0 then einval else 0 : Act Int) d =
      (some d).map fun d' => (verdict (decide (len = 0)), d') := by
    by_cases whole : len = 0
    · rw [if_neg (not_not_intro whole), decide_eq_true whole]
      rfl
    · rw [if_pos whole, decide_eq_false whole]
      rfl
  induction fuel generalizing mem data len first r d with
  | zero => exact ⟨some d, .done d d (marked_refl t c d) fun _ => rfl, spent len d⟩
  | succ fuel ih =>
      rw [avpTrace, avpLoop]
      by_cases ended : len ≤ 0
      · rw [if_pos ended, if_pos ended]
        exact ⟨some d, .done d d (marked_refl t c d) fun _ => rfl, spent len d⟩
      rw [if_neg ended, if_neg ended]
      dsimp only
      generalize swaps mem data 3 = swapped
      have onward (left : List UInt8) (r : Reading) (d : Daemon) (reads : Reads s r t c d) :
          ∃ last, Goes env s t c
              (if ALENGTH (hostWord swapped data) = 0 then ([], false) else avpTrace env s fuel left
                (data + ALENGTH (hostWord swapped data)) (len - ALENGTH (hostWord swapped data)) false r).2 d
              (if ALENGTH (hostWord swapped data) = 0 then ([], false) else avpTrace env s fuel left
                (data + ALENGTH (hostWord swapped data)) (len - ALENGTH (hostWord swapped data)) false r).1 last ∧
            (if ALENGTH (hostWord swapped data) = 0 then return einval else avpLoop env t c fuel left
              (data + ALENGTH (hostWord swapped data)) (len - ALENGTH (hostWord swapped data)) false : Act Int) d =
              last.map fun d' => (verdict (if ALENGTH (hostWord swapped data) = 0 then ([], false) else
                avpTrace env s fuel left (data + ALENGTH (hostWord swapped data))
                  (len - ALENGTH (hostWord swapped data)) false r).2, d') := by
        by_cases broken : ALENGTH (hostWord swapped data) = 0
        · simp only [if_pos broken]
          exact ⟨some d, .done d d (marked_refl t c d) fun _ => rfl, rfl⟩
        · simp only [if_neg broken]
          exact ih left _ _ false r d reads
      have inspected := @handleAvp_inspect env s t c r swapped data len first d reads
      cases place : inspect env s r swapped data len first with
      | refused =>
          rw [place] at inspected
          obtain ⟨d', ran, marked⟩ := inspected
          rw [bind_ran _ _ d d' _ ran]
          exact ⟨some d', .done d d' marked (by simp), rfl⟩
      | skipped left =>
          rw [place] at inspected
          rw [bind_ran _ _ d d _ inspected]
          exact onward left r d reads
      | handled shown at' =>
          rw [place] at inspected
          dsimp only at inspected ⊢
          cases found : (avps (visitAt r shown at').attr).1 with
          | none =>
              have ran := @runHandler_absent env s t c r shown at' d reads found
              rw [if_pos (show (none : Option Handler).isNone = true from rfl)]
              by_cases mandatory : AMBIT (hostWord shown at') = true
              · rw [if_pos mandatory] at ran ⊢
                obtain ⟨d', ran, marked⟩ := ran
                rw [bind_ran _ _ d d' _ (inspected.trans ran)]
                exact ⟨some d', .done d d' marked (by simp), rfl⟩
              · rw [if_neg mandatory] at ran ⊢
                rw [bind_ran _ _ d d _ (inspected.trans ran)]
                exact onward shown r d reads
          | some handler =>
              have outcome : Outcome env s (visitAt r shown at') t c d (handler env t c (visitAt r shown at').avp d) :=
                handler_outcome reads handler found
              rw [if_neg (show ¬ (some handler).isNone = true by simp)]
              cases ran : handler env t c (visitAt r shown at').avp d with
              | none =>
                  have stuck := inspected.trans (runHandler_stuck r shown at' d handler found ran)
                  refine ⟨none, ?_, bind_stuck _ _ d stuck⟩
                  split
                  · exact .stuck d _ _ handler r.vector found reads ran
                  · exact .stuck d _ _ handler r.vector found reads ran
              | some done =>
                  obtain ⟨result, d₁⟩ := done
                  rw [ran] at outcome
                  obtain ⟨reported, after⟩ := outcome_reads env s _ r.vector t c d d₁ result reads outcome
                  have stepped := runHandler_ran r shown at' d handler found result d₁ ran after.callLive
                  by_cases bad : (visitAt r shown at').fails env s = true ∧ AMBIT (hostWord shown at') = true
                  · rw [if_pos bad]
                    rw [if_pos ⟨reported.mpr bad.1, bad.2⟩] at stepped
                    obtain ⟨d₂, ran₂, marked⟩ := stepped
                    rw [bind_ran _ _ d d₂ _ (inspected.trans ran₂)]
                    exact ⟨some d₂, .visit d d₁ _ [] _ handler r.vector result found reads ran
                      (.done d₁ d₂ marked (by simp)), rfl⟩
                  · rw [if_neg bad]
                    rw [if_neg (fun both => bad ⟨reported.mp both.1, both.2⟩)] at stepped
                    rw [bind_ran _ _ d d₁ _ (inspected.trans stepped)]
                    obtain ⟨last, rest, ends⟩ := onward shown _ d₁ after
                    exact ⟨last, .visit d d₁ _ _ _ handler r.vector result found reads ran rest, ends⟩

end Loop

end ZyAgf.Xl2tpd
