import ZyAgf.Xl2tpd.Message
import ZyAgf.Xl2tpd.Addresses

set_option autoImplicit false

namespace ZyAgf.Xl2tpd

-- Of the call a message came on, everything but the marks of the message.
def seen (c p : CallPtr) (cal : Call) : Call := if p = c then cal.unmarked else cal

section Followed

variable (env : Env) (s : Standing) (c : CallPtr)

-- What an AVP stores in a call, when the tunnel's list starts with head.
def Visit.into (head : Option CallPtr) (p : CallPtr) (v : Visit) (cal : Call) : Call :=
  let stored := if head = some p then (v.stores s).elim cal fun change => change cal else cal
  if p = c then v.inCall env s stored else stored

def storedIn (head : Option CallPtr) (visits : List Visit) (p : CallPtr) (cal : Call) : Call :=
  visits.foldl (fun cal v => v.into env s c head p cal) cal

-- Whether an AVP is stored in the head of a list that was empty and still is.
def strands : List Visit → Bool
  | [] => false
  | v :: rest => (v.stores s).isSome || !v.makesCall env s && strands rest

end Followed

theorem stores_unmarked (s : Standing) (v : Visit) (change : Call → Call) (stores : v.stores s = some change)
    (cal : Call) :
    (change cal).unmarked = change cal.unmarked := by
  unfold Visit.stores at stores
  split at stores
  all_goals
    first
      | cases stores
      | split at stores <;> cases stores
        rfl

theorem stores_inCall (env : Env) (s : Standing) (v : Visit) (change : Call → Call)
    (stores : v.stores s = some change) :
    v.inCall env s = id := by
  by_cases number : v.attr = 14
  · unfold Visit.stores at stores
    rw [number] at stores
    simp only [Option.ite_none_right_eq_some] at stores
    have icrq : v.msgtype = Msg.ICRQ.code := stores.1.2
    unfold Visit.inCall
    rw [number]
    simp only [icrq]
    split <;> rfl
  · refine inCall_other env s v fun inside => ?_
    rw [stores_other s v (by simp only [List.mem_cons, List.not_mem_nil, or_false] at inside ⊢; omega)] at stores
    cases stores

theorem stores_plain (env : Env) (s : Standing) (v : Visit) (change : Call → Call) (stores : v.stores s = some change) :
    v.makesCall env s = false := by
  have attr : v.attr ≠ 0 := by
    intro zero
    rw [stores_other s v (by rw [zero]; decide)] at stores
    cases stores
  simp [Visit.makesCall, attr]

theorem makesCall_attr (env : Env) (s : Standing) (v : Visit) (plain : v.attr ≠ 0) : v.makesCall env s = false := by
  simp [Visit.makesCall, plain]

section Followed

variable {env : Env} {s : Standing} {t : TunnelPtr} {c : CallPtr}

-- An AVP whose handler makes no call.
structure Passes (env : Env) (s : Standing) (t : TunnelPtr) (c : CallPtr) (v : Visit) (d d' : Daemon) : Prop where
  calls : (d'.tunnel t).calls = (d.tunnel t).calls
  fresh : d'.fresh = d.fresh
  into : ∀ p, seen c p (d'.call p) = v.into env s c (d.tunnel t).calls.head? p (seen c p (d.call p))

theorem passes_quiet (v : Visit) (d d' : Daemon) (stores : v.stores s = none)
    (calls : (d'.tunnel t).calls = (d.tunnel t).calls)
    (fresh : d'.fresh = d.fresh) (others : ∀ p, p ≠ c → d'.call p = d.call p) (own : OwnSide env s v t c d d') :
    Passes env s t c v d d' := by
  refine ⟨calls, fresh, fun p => ?_⟩
  have plain (cal : Call) : (if (d.tunnel t).calls.head? = some p then (v.stores s).elim cal fun change =>
    change cal else cal) = cal := by
    rw [stores]
    exact ite_self _
  unfold seen Visit.into
  rw [plain]
  by_cases here : p = c
  · rw [if_pos here, if_pos here, if_pos here, here]
    exact own.call
  · rw [if_neg here, if_neg here, if_neg here]
    exact others p here

theorem passes_stored (v : Visit) (d : Daemon) (p : CallPtr) (change : Call → Call) (stores : v.stores s = some change)
    (head : (d.tunnel t).calls.head? = some p) : Passes env s t c v d
    { d with call := write d.call p (change (d.call p)) } := by
  refine ⟨rfl, rfl, fun q => ?_⟩
  have plain (cal : Call) : (if q = c then v.inCall env s cal else cal) = cal := by
    rw [stores_inCall env s v change stores]
    exact ite_self _
  unfold Visit.into
  rw [plain, head, stores]
  dsimp only
  by_cases here : q = p
  · rw [here, if_pos rfl, write_here]
    unfold seen
    by_cases own : p = c
    · rw [if_pos own, if_pos own]
      exact stores_unmarked s v change stores (d.call p)
    · rw [if_neg own, if_neg own]
      rfl
  · rw [if_neg (fun same => here (Option.some.inj same).symm), write_elsewhere _ _ _ _ here]

-- What a message has done to the list and the calls on it.
structure Did (env : Env) (s : Standing) (t : TunnelPtr) (c : CallPtr) (d d' : Daemon)
    (visits : List Visit) : Prop where
  made : ∃ new, (d'.tunnel t).calls = new ++ (d.tunnel t).calls ∧ new.length = visits.countP (·.makesCall env s) ∧
    ∀ p ∈ new, d.fresh ≤ p
  kept : visits.countP (·.makesCall env s) = 0 → ∀ p,
    seen c p (d'.call p) = storedIn env s c (d.tunnel t).calls.head? visits p (seen c p (d.call p))

theorem did_quiet (d d' : Daemon) (quiet : Quiet t c d d') (own : (d'.call c).unmarked = (d.call c).unmarked) : Did env
    s t c d d' [] := by
  have tunnel := quiet.tunnel
  simp only [Tunnel.kept, Prod.mk.injEq] at tunnel
  refine ⟨⟨[], tunnel.2.1, rfl, by simp⟩, fun _ p => ?_⟩
  show seen c p (d'.call p) = seen c p (d.call p)
  unfold seen
  by_cases here : p = c
  · rw [if_pos here, if_pos here, here]
    exact own
  · rw [if_neg here, if_neg here]
    exact quiet.others p here

theorem did_before (d d₁ d' : Daemon) (v : Visit) (rest : List Visit) (none : v.makesCall env s = false)
    (passes : Passes env s t c v d d₁) (later : Did env s t c d₁ d' rest) : Did env s t c d d' (v :: rest) := by
  have count : (v :: rest).countP (·.makesCall env s) = rest.countP (·.makesCall env s) :=
    List.countP_cons_of_neg (by simp [none])
  obtain ⟨⟨new, list, size, young⟩, kept⟩ := later
  refine ⟨⟨new, by rw [list, passes.calls], by rw [size, count], passes.fresh ▸ young⟩, fun zero p => ?_⟩
  rw [count] at zero
  rw [kept zero p, passes.calls, passes.into p]
  rfl

theorem did_called (d d₀ d' : Daemon) (v : Visit) (rest : List Visit) (made : v.makesCall env s = true)
    (calls : (d₀.tunnel t).calls = (d.tunnel t).calls) (fresh : d₀.fresh = d.fresh)
    (later : Did env s t c (withLinkedCall env d₀ t) d' rest) : Did env s t c d d' (v :: rest) := by
  have count : (v :: rest).countP (·.makesCall env s) = rest.countP (·.makesCall env s) + 1 :=
    List.countP_cons_of_pos made
  obtain ⟨new, list, size, young⟩ := later.made
  refine ⟨⟨new ++ [d₀.fresh], ?_, ?_, ?_⟩, fun zero => by omega⟩
  · rw [list, withLinkedCall_here env d₀ t, ← calls, List.append_assoc]
    rfl
  · rw [List.length_append, size, count]
    rfl
  · intro p member
    rcases List.mem_append.mp member with inside | last
    · exact Nat.le_trans (Nat.le_of_eq fresh.symm) (Nat.le_trans (Nat.le_succ _) (young p inside))
    · rw [List.mem_singleton.mp last, fresh]

theorem goes_did (taken : Bool) (d : Daemon) (visits : List Visit) (last : Option Daemon)
    (goes : Goes env s t c taken d visits last) :
    (last = none ↔ (d.tunnel t).calls = [] ∧ strands env s visits = true) ∧ ∀ d', last = some d' →
    Did env s t c d d' visits := by
  induction goes with
  | done d d' marked _ =>
      refine ⟨by simp [strands], ?_⟩
      rintro _ ⟨⟩
      exact did_quiet d d' marked.quiet marked.call
  | stuck d v later handler vector found reads ran =>
      have outcome : Outcome env s v t c d (handler env t c v.avp d) := handler_outcome reads handler found
      rw [ran] at outcome
      cases outcome with
      | lost change stores noHead =>
          refine ⟨⟨fun _ => ⟨List.head?_eq_none_iff.mp noHead, ?_⟩, fun _ => rfl⟩, fun d' same => by cases same⟩
          simp [strands, stores]
  | visit d d₁ v later last handler vector result found reads ran rest ih =>
      have outcome : Outcome env s v t c d (handler env t c v.avp d) := handler_outcome reads handler found
      rw [ran] at outcome
      obtain ⟨stuck, did⟩ := ih
      -- a handler that makes no call and stores nothing in the list
      have plainly (none' : v.makesCall env s = false) (stores : v.stores s = none) (passes : Passes env s t c v d d₁) :
          (last = none ↔ (d.tunnel t).calls = [] ∧ strands env s (v :: later) = true) ∧
            ∀ d', last = some d' → Did env s t c d d' (v :: later) := by
        refine ⟨?_, fun d' ends => did_before d d₁ d' v later none' passes (did d' ends)⟩
        rw [stuck, passes.calls, strands, stores, none']
        simp
      cases outcome with
      | quiet _ _ plain _ _ stores quiet own =>
          have tunnel := quiet.tunnel
          simp only [Tunnel.kept, Prod.mk.injEq] at tunnel
          exact plainly (makesCall_attr env s v plain) stores
            (passes_quiet v d d₁ stores tunnel.2.1 quiet.fresh quiet.others own)
      | vector attr _ =>
          have stores := stores_other s v (by rw [attr]; decide)
          refine plainly (makesCall_attr env s v (by omega)) stores
            (passes_quiet v d _ stores (by simp) rfl (fun _ _ => rfl) ?_)
          exact ownSide_same (inCall_other env s v (by rw [attr]; decide)) (by simp [Tunnel.names]) rfl
      | typed _ _ attr _ none' quiet own =>
          have tunnel := quiet.tunnel
          have stores := stores_other s v (by rw [attr]; decide)
          simp only [Tunnel.kept, Prod.mk.injEq] at tunnel
          refine plainly none' stores (passes_quiet v d d₁ stores tunnel.2.1 quiet.fresh (fun p other => ?_) own)
          rw [quiet.others p other]
          exact write_elsewhere _ _ _ _ other
      | stored p change plain _ stores _ first =>
          have occupied : (d.tunnel t).calls ≠ [] := by
            intro empty
            rw [empty] at first
            cases first
          have passes := @passes_stored env s t c v d p change stores first
          refine ⟨?_, fun d' ends => did_before d _ d' v later (stores_plain env s v change stores) passes
            (did d' ends)⟩
          rw [stuck]
          simp [occupied]
      | called attr _ made =>
          generalize typed : ({ d with call := write d.call c { d.call c with msgtype := (v.avp.raw 3).toNat } } :
            Daemon) = d₀ at rest stuck did
          have sameCalls : (d₀.tunnel t).calls = (d.tunnel t).calls := by rw [← typed]
          have sameFresh : d₀.fresh = d.fresh := by rw [← typed]
          refine ⟨?_, fun d' ends => did_called d d₀ d' v later made sameCalls sameFresh (did d' ends)⟩
          rw [stuck, withLinkedCall_here, strands, made, stores_other s v (by rw [attr]; decide)]
          simp

end Followed

-- A refused message leaves the calls of the tunnel alone, of the one it came on
-- all but its marks; an accepted one puts one new call before them.
def IcrqAtomic (env : Env) (t : TunnelPtr) (c : CallPtr) (buf : RecvBuffer) (d : Daemon) : Prop :=
  ∃ result d', handleAvps env t c buf d = some (result, d') ∧
    (result ≠ 0 → (d'.tunnel t).calls = (d.tunnel t).calls ∧ ∀ p ∈ (d.tunnel t).calls,
    seen c p (d'.call p) = seen c p (d.call p)) ∧
    (result = 0 → ∃ new, d.fresh ≤ new ∧ (d'.tunnel t).calls = new :: (d.tunnel t).calls)

section Message

variable (env : Env) (d : Daemon) (t : TunnelPtr) (c : CallPtr) (buf : RecvBuffer)

-- What there is of a message's first AVP, and what it says when it can be read.
def opening : Inspected :=
  inspect env (standing d t c) (reading d t c) (swaps buf.mem controlHdrSize 3) controlHdrSize
    (buf.len - controlHdrSize) true

def firstType : Inspected → Nat × Nat
  | .handled shown place =>
      ((visitAt (reading d t c) shown place).attr, ((visitAt (reading d t c) shown place).avp.raw 3).toNat)
  | _ =>
      let swapped := swaps buf.mem controlHdrSize 3
      ((hostWord swapped (controlHdrSize + 4)).toNat, (netWord swapped (controlHdrSize + 6)).toNat)

def SaysIcrq : Prop := 0 < buf.len - controlHdrSize ∧ firstType d t c buf (opening env d t c buf) = (0, Msg.ICRQ.code)

instance : Decidable (SaysIcrq env d t c buf) := inferInstanceAs (Decidable (_ ∧ _))

-- What the AVPs store in the calls there are is what they hold already.
def StoresNothingNew (visits : List Visit) : Prop :=
  ∀ p ∈ (d.tunnel t).calls, storedIn env (standing d t c) c (d.tunnel t).calls.head? visits p
    (seen c p (d.call p)) = seen c p (d.call p)

instance (visits : List Visit) : Decidable (StoresNothingNew env d t c visits) :=
    inferInstanceAs (Decidable (∀ p ∈ _, _))

-- The message goes on behind an ICRQ that is passed over. Then nothing of it may
-- be stored in an empty list; when it is taken in the end a single one of its
-- other message types has made a call, and when it is given up none has, and
-- nothing new has been stored.
def PassesOn : Prop :=
  let visits := (messageTrace env d t c buf).1
  let made := visits.countP (·.makesCall env (standing d t c))
  ¬ ((d.tunnel t).calls = [] ∧ strands env (standing d t c) visits = true) ∧
    if (messageTrace env d t c buf).2 then made = 1 else made = 0 ∧ StoresNothingNew env d t c visits

instance : Decidable (PassesOn env d t c buf) := inferInstanceAs (Decidable (_ ∧ _))

-- An ICRQ that is accepted where it stands is followed by nothing that is refused
-- and by no second one; one that is refused is mandatory, or as above.
def WholeAfter : Inspected → Prop
  | .refused => True
  | .skipped _ => PassesOn env d t c buf
  | .handled shown place =>
      if (visitAt (reading d t c) shown place).makesCall env (standing d t c) then
        (messageTrace env d t c buf).2 = true ∧
          (messageTrace env d t c buf).1.tail.all (!·.makesCall env (standing d t c)) = true
      else if AMBIT (hostWord shown place) then True
      else PassesOn env d t c buf

instance (first : Inspected) : Decidable (WholeAfter env d t c buf first) :=
  match first with
  | .refused => inferInstanceAs (Decidable True)
  | .skipped _ => inferInstanceAs (Decidable (PassesOn env d t c buf))
  | .handled shown place =>
      inferInstanceAs (Decidable (if (visitAt (reading d t c) shown place).makesCall env (standing d t c) then
        (messageTrace env d t c buf).2 = true ∧
          (messageTrace env d t c buf).1.tail.all (!·.makesCall env (standing d t c)) = true
      else if AMBIT (hostWord shown place) then True
      else PassesOn env d t c buf))

def LeavesCallsWhole : Prop := WholeAfter env d t c buf (opening env d t c buf)

instance : Decidable (LeavesCallsWhole env d t c buf) := inferInstanceAs (Decidable (WholeAfter env d t c buf _))

variable {env d t c buf}

theorem atomic_iff (entry : Entry d t c) : IcrqAtomic env t c buf d ↔ PassesOn env d t c buf := by
  obtain ⟨last, goes, ran⟩ := handleAvps_trace env d t c buf entry
  obtain ⟨stuck, did⟩ := goes_did _ d _ last goes
  unfold IcrqAtomic PassesOn
  rw [ran]
  dsimp only
  generalize (messageTrace env d t c buf).1 = visits at did stuck
  generalize (messageTrace env d t c buf).2 = taken
  cases last with
  | none =>
      rw [← stuck]
      simp
  | some d' =>
      obtain ⟨⟨new, list, size, young⟩, kept⟩ := did d' rfl
      have fine : ¬ ((d.tunnel t).calls = [] ∧ strands env (standing d t c) visits = true) := fun both => by
        cases stuck.mpr both
      rw [← size] at kept ⊢
      cases taken with
      | false =>
          constructor
          · rintro ⟨result, d₁, same, refused, _⟩
            obtain ⟨rfl, rfl⟩ := Prod.mk.inj (Option.some.inj same)
            obtain ⟨sameList, unchanged⟩ := refused (by decide)
            have none : new.length = 0 := by
              have := congrArg List.length (list.symm.trans sameList)
              rw [List.length_append] at this
              omega
            refine ⟨fine, none, fun p member => ?_⟩
            rw [← kept none p]
            exact unchanged p member
          · rintro ⟨_, none, unchanged⟩
            refine ⟨_, d', rfl, fun _ => ⟨?_, fun p member => ?_⟩, fun taken => by cases taken⟩
            · rw [list, List.length_eq_zero_iff.mp none]
              rfl
            · rw [kept none p]
              exact unchanged p member
      | true =>
          constructor
          · rintro ⟨result, d₁, same, _, accepted⟩
            obtain ⟨rfl, rfl⟩ := Prod.mk.inj (Option.some.inj same)
            obtain ⟨one, _, longer⟩ := accepted rfl
            have sizes := congrArg List.length (list.symm.trans longer)
            rw [List.length_append, List.length_cons] at sizes
            exact ⟨fine, by rw [if_pos rfl]; omega⟩
          · rintro ⟨_, one⟩
            obtain ⟨call, rfl⟩ := List.length_eq_one_iff.mp one
            exact ⟨_, d', rfl, fun refused => absurd rfl refused, fun _ =>
              ⟨call, young call (List.mem_singleton.mpr rfl), list⟩⟩

section Opening

variable (some : 0 < buf.len - controlHdrSize)

include some

theorem messageTrace_refused (first : opening env d t c buf = .refused) : messageTrace env d t c buf = ([], false) := by
  obtain ⟨n, len⟩ := Nat.exists_eq_succ_of_ne_zero (Nat.ne_of_gt some)
  unfold messageTrace
  unfold opening at first
  rw [len]
  rw [avpTrace, if_neg (by omega)]
  dsimp only
  rw [first]

theorem messageTrace_handled (shown : List UInt8) (place : Nat) (first : opening env d t c buf = .handled shown place)
    (typed : (visitAt (reading d t c) shown place).attr = 0) :
    ∃ rest : List Visit × Bool, messageTrace env d t c buf =
      if (visitAt (reading d t c) shown place).typeFails env (standing d t c) ∧ AMBIT (hostWord shown place) then
        ([visitAt (reading d t c) shown place], false)
      else (visitAt (reading d t c) shown place :: rest.1, rest.2) := by
  obtain ⟨n, len⟩ := Nat.exists_eq_succ_of_ne_zero (Nat.ne_of_gt some)
  have fails : (visitAt (reading d t c) shown place).fails env (standing d t c) =
      (visitAt (reading d t c) shown place).typeFails env (standing d t c) := by
    unfold Visit.fails
    rw [typed]
    rfl
  unfold messageTrace
  unfold opening at first
  rw [len]
  rw [avpTrace, if_neg (by omega)]
  dsimp only
  rw [first]
  dsimp only
  rw [typed, if_neg (by simp [avps]), fails]
  exact ⟨_, rfl⟩

end Opening

theorem strands_plain (s : Standing) (v : Visit) (rest : List Visit) (typed : v.attr = 0) :
    strands env s (v :: rest) = (!v.makesCall env s && strands env s rest) := by
  rw [strands, stores_other s v (by rw [typed]; decide)]
  rfl

theorem storedIn_typed (s : Standing) (head : Option CallPtr) (v : Visit) (typed : v.attr = 0) (p : CallPtr)
    (cal : Call) :
    storedIn env s c head [v] p cal = cal := by
  show v.into env s c head p cal = cal
  unfold Visit.into
  rw [stores_other s v (by rw [typed]; decide), inCall_other env s v (by rw [typed]; decide)]
  simp

-- An ICRQ is atomic as long as the call its first AVP makes is not left behind
-- by the rest of the message, nor followed by another.
theorem icrq_atomic_iff (entry : Entry d t c) (icrq : SaysIcrq env d t c buf) :
    IcrqAtomic env t c buf d ↔ LeavesCallsWhole env d t c buf := by
  obtain ⟨some, stated⟩ := icrq
  rw [atomic_iff entry]
  unfold LeavesCallsWhole
  cases first : opening env d t c buf with
  | refused =>
      refine ⟨fun _ => trivial, fun _ => ?_⟩
      unfold PassesOn
      rw [messageTrace_refused some first]
      exact ⟨by simp [strands], rfl, fun p _ => rfl⟩
  | skipped left => exact Iff.rfl
  | handled shown place =>
      rw [first] at stated
      obtain ⟨typed, code⟩ := Prod.mk.inj stated
      obtain ⟨rest, trace⟩ := messageTrace_handled some shown place first typed
      unfold WholeAfter
      dsimp only
      generalize visitAt (reading d t c) shown place = v at typed code trace ⊢
      have makes : v.makesCall env (standing d t c) = !v.typeFails env (standing d t c) := by
        simp [Visit.makesCall, typed, code]
      by_cases made : v.makesCall env (standing d t c) = true
      · -- the handler makes the call
        have fine : v.typeFails env (standing d t c) = false := by simpa [makes] using made
        rw [if_neg (by simp [fine])] at trace
        rw [if_pos made]
        unfold PassesOn
        rw [trace]
        dsimp only
        rw [strands_plain _ _ _ typed, made, List.countP_cons_of_pos made]
        cases rest.2 <;> simp [List.countP_eq_zero]
      · rw [if_neg made]
        by_cases mandatory : AMBIT (hostWord shown place) = true
        · rw [if_pos mandatory]
          have fails : v.typeFails env (standing d t c) = true := by simpa [makes] using made
          rw [if_pos ⟨fails, mandatory⟩] at trace
          refine ⟨fun _ => trivial, fun _ => ?_⟩
          unfold PassesOn
          rw [trace]
          refine ⟨fun both => ?_, List.countP_cons_of_neg made, fun p _ => storedIn_typed _ _ v typed p _⟩
          have stranded := both.2
          rw [strands_plain _ _ _ typed] at stranded
          simp [strands] at stranded
        · rw [if_neg mandatory]

end Message

def opens : List Event :=
  [⟨plainWorld, controlFrame 0 0 0 0 (addMessageTypeAvp .SCCRQ ++ addFrameCapsAvp 3 ++ addTunnelidAvp 9)⟩,
    onTunnel 0 1 (addMessageTypeAvp .SCCCN)]

def request (body : List UInt8) : RecvBuffer :=
  ⟨ControlHdr.wire ⟨0xC802, BitVec.ofNat 16 (controlHdrSize + body.length), 513, 0, 2, 1⟩ ++ body,
    controlHdrSize + body.length⟩

theorem icrq_atomic_iff_opened :
    ∃ visits d, Run (next plainConfig) (initDaemon none [poolLns] none []) visits d ∧
      IcrqAtomic plainEnv 1 2 (request (addMessageTypeAvp .ICRQ ++ addCallidAvp 5)) d := by
  have seen : (Run.play (next plainConfig) (initDaemon none [poolLns] none []) opens).any (fun d =>
      (d.tunnel 1).live && (d.call 2).live && (d.tunnel 1).calls == [] && decide (2 < d.fresh) &&
        decide (SaysIcrq plainEnv d 1 2 (request (addMessageTypeAvp .ICRQ ++ addCallidAvp 5))) &&
        decide (LeavesCallsWhole plainEnv d 1 2 (request (addMessageTypeAvp .ICRQ ++ addCallidAvp 5)))) = true := by
          decide +kernel
  obtain ⟨d, played, facts⟩ := (Option.any_eq_true _ _).mp seen
  simp only [Bool.and_eq_true, beq_iff_eq, decide_eq_true_eq] at facts
  obtain ⟨⟨⟨⟨⟨tunnel, call⟩, calls⟩, old⟩, icrq⟩, whole⟩ := facts
  have entry : Entry d 1 2 := ⟨tunnel, call, by simp [calls], old⟩
  exact ⟨_, d, Run.of_play opens d played, (icrq_atomic_iff entry icrq).mpr whole⟩

-- One byte too many behind the request, and its call stays.
theorem icrq_left_behind :
    ¬ ∀ (cfg : Config) (deflns : Option Lns) (lnslist : List Lns) (deflac : Option Lac) (laclist : List Lac)
      (visits : List (Daemon × Event)) (d : Daemon) (env : Env) (t : TunnelPtr) (c : CallPtr) (buf : RecvBuffer),
      Run (next cfg) (initDaemon deflns lnslist deflac laclist) visits d → t ∈ d.tunnels → (d.tunnel t).self = some c →
        SaysIcrq env d t c buf → IcrqAtomic env t c buf d := by
  intro claimed
  have seen : (Run.play (next plainConfig) (initDaemon none [poolLns] none []) opens).any (fun d =>
      d.tunnels.contains 1 && (d.tunnel 1).self == some 2 && (d.tunnel 1).calls == [] &&
        decide (SaysIcrq plainEnv d 1 2 (request (addMessageTypeAvp .ICRQ ++ addCallidAvp 5 ++ [0]))) &&
        (handleAvps plainEnv 1 2 (request (addMessageTypeAvp .ICRQ ++ addCallidAvp 5 ++ [0])) d).any fun ended =>
          ended.1 == einval && (ended.2.tunnel 1).calls == [3]) = true := by decide +kernel
  obtain ⟨d, played, facts⟩ := (Option.any_eq_true _ _).mp seen
  simp only [Bool.and_eq_true, beq_iff_eq, decide_eq_true_eq, List.contains_iff_mem] at facts
  obtain ⟨⟨⟨⟨listed, self⟩, calls⟩, icrq⟩, later⟩ := facts
  obtain ⟨⟨result, d'⟩, ran, facts⟩ := (Option.any_eq_true _ _).mp later
  simp only [Bool.and_eq_true, beq_iff_eq] at facts
  obtain ⟨result', after, same, refused, _⟩ :=
    claimed plainConfig none [poolLns] none [] _ d plainEnv 1 2 _ (Run.of_play opens d played) listed self icrq
  obtain ⟨rfl, rfl⟩ := Prod.mk.inj (Option.some.inj (ran.symm.trans same))
  have kept := (refused (by rw [facts.1]; decide)).1
  rw [facts.2, calls] at kept
  cases kept

end ZyAgf.Xl2tpd
