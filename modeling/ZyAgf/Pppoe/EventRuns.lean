import ZyAgf.Pppoe.EventReentry

set_option autoImplicit false

namespace ZyAgf.Pppoe.EventLoop

variable {φ δ : Type}

theorem create_sound : Sound (createSelector : EventSelector φ δ) := by
  have holds : Holds (createSelector : EventSelector φ δ) [] :=
    ⟨rfl, List.nodup_nil, fun x => by simp [createSelector], fun x member => absurd member List.not_mem_nil⟩
  exact ⟨listed_of_holds _ _ holds, rfl, fun _ x member => absurd member List.not_mem_nil, fun _ => rfl,
    fun x eh found => (by cases found), fun p member => absurd member List.not_mem_nil, List.nodup_nil,
    fun p member => absurd member List.not_mem_nil⟩

theorem run_sound {start finish : EventSelector φ δ} {visits : List (EventSelector φ δ × Move φ δ)}
    (run : Run step start visits finish) (sound : Sound start) : Sound finish :=
  Run.invariant (fun _ _ => True) Sound sound
    (fun es move es' kept _ taken => (step_moves es es' move kept taken).1.sound) run
    (Run.meets_always visits)

def Gone (es : EventSelector φ δ) (x : Nat) : Prop :=
  x < es.fresh ∧ ∀ eh, es.heap x = some eh → eh.flags.deleted = true

theorem gone_worn (es es' : EventSelector φ δ) (x : Nat) (worn : Worn es es') (gone : Gone es x) : Gone es' x := by
  refine ⟨Nat.lt_of_lt_of_le gone.1 worn.grows, fun seen isOne => ?_⟩
  obtain ⟨was, there, mark, _⟩ := worn.wears x gone.1 seen isOne
  exact mark (gone.2 was there)

theorem gone_uncalled (es : EventSelector φ δ) (move : Move φ δ) (c : Called φ δ) (made : called es move = some c) :
    ¬ Gone es c.eh := by
  intro gone
  unfold called at made
  split at made
  · split at made
    · cases made
    · split at made
      · cases made
      · split at made
        · cases made
        · obtain ⟨eh, found, call⟩ := Option.bind_eq_some_iff.mp made
          unfold invoked at call
          split at call
          · cases call
          · next unmarked =>
            split at call
            · obtain rfl := Option.some.inj call
              exact unmarked (gone.2 eh found)
            · cases call
  · cases made

theorem gone_silent {start finish : EventSelector φ δ} {visits : List (EventSelector φ δ × Move φ δ)}
    (run : Run step start visits finish) (sound : Sound start) (x : Nat) (gone : Gone start x) :
    Gone finish x ∧ ∀ c ∈ Run.observe called visits, c.eh ≠ x := by
  induction run with
  | start => exact ⟨gone, fun c member => absurd member List.not_mem_nil⟩
  | snoc visits es es' move before taken ih =>
      have worn := (step_moves es es' move (run_sound before sound) taken).1.worn
      refine ⟨gone_worn es es' x worn ih.1, fun c member => ?_⟩
      rw [Run.observe_snoc] at member
      rcases List.mem_append.mp member with early | last
      · exact ih.2 c early
      · intro same
        exact gone_uncalled es move c (Option.mem_toList.mp last) (same ▸ ih.1)

theorem delHandler_gone (es es' : EventSelector φ δ) (x : Nat) (sound : Sound es) (inside : x ∈ listed es)
    (taken : step es (.delHandler x) = some es') : Gone es' x := by
  have worn := (step_moves es es' _ sound taken).1.worn
  obtain ⟨after, deletes, _, _, marks⟩ := delHandler_moves es x sound
  have same : es' = after := by
    unfold step at taken
    split at taken
    · cases taken
    · split at taken
      next impossible => cases impossible
      next =>
        split at taken
        · exact Option.some.inj (taken.symm.trans deletes)
        · cases taken
  rw [same] at worn ⊢
  exact ⟨Nat.lt_of_lt_of_le (sound.holds.old x inside) worn.grows, marks inside⟩

theorem timer_gone (es es' : EventSelector φ δ) (move : Move φ δ) (c : Called φ δ) (eh : EventHandler φ δ)
    (sound : Sound es)
    (taken : step es move = some es') (made : called es move = some c) (found : es.heap c.eh = some eh)
    (timer : eh.flags.timer = true) : Gone es' c.eh := by
  obtain ⟨moves, took⟩ := step_moves es es' move sound taken
  refine ⟨Nat.lt_of_lt_of_le (sound.holds.old _ (mem_of_heap es _ sound.holds _ eh found)) moves.worn.grows,
    fun seen isOne => ?_⟩
  cases took with
  | by' silent passes =>
      rw [silent] at made
      cases made
  | enters poll entered whole =>
      rw [entered] at made
      cases made
  | advances advanced pass rest top how =>
      subst advanced
      cases how with
      | left done still passes =>
          rw [still] at made
          cases made
      | passed x front tail here whole still passes =>
          rw [still] at made
          cases made
      | calls x front tail d here whole fresh made' serial target unmarked once passes =>
          obtain rfl := Option.some.inj (made'.symm.trans made)
          rw [target] at found isOne
          exact once eh found timer seen isOne

-- The calls one activation makes, as handlers in their order.
def callsOf (k : Nat) (visits : List (EventSelector φ δ × Move φ δ)) : List Nat :=
  ((Run.observe called visits).filter fun c => c.serial = k).map Called.eh

theorem callsOf_snoc (k : Nat) (visits : List (EventSelector φ δ × Move φ δ)) (es : EventSelector φ δ)
    (move : Move φ δ) :
    callsOf k (visits ++ [(es, move)]) =
      callsOf k visits ++ ((called es move).toList.filter fun c => c.serial = k).map Called.eh := by
  unfold callsOf
  rw [Run.observe_snoc, List.filter_append, List.map_append]

-- How far an activation has come with the handlers that were there when it
-- began: those it has called are among the ones it has passed.
def Traces (present : List Nat) (k : Nat) (es : EventSelector φ δ) (made : List Nat) : Prop :=
  k < es.begun ∧ made.Sublist present ∧ ∀ pass ∈ es.passes, pass.serial = k →
    ∃ new front rest, listed es = new ++ present ∧ present = front ++ rest ∧ pass.eh = rest.head? ∧
      made.Sublist (front ++ if pass.calling then rest.head?.toList else [])

theorem enter_traces (es : EventSelector φ δ) (poll : Poll) (sound : Sound es) : Traces (listed es) es.begun
    (enter poll es) [] := by
  refine ⟨Nat.lt_succ_self _, List.nil_sublist _, fun pass member serial => ?_⟩
  rcases List.mem_cons.mp member with rfl | older
  · cases failed : poll.failed with
    | true => exact ⟨[], listed es, [], rfl, by simp, by simp, List.nil_sublist _⟩
    | false =>
        exact ⟨[], [], listed es, rfl, rfl, by simpa using chain_head _ _ _ sound.holds.chain, List.nil_sublist _⟩
  · exact (Nat.ne_of_lt (sound.past pass older) serial).elim

theorem step_enters (es es' : EventSelector φ δ) (poll : Poll) (taken : step es (.handleEvent poll) = some es') :
    es' = enter poll es := by
  unfold step at taken
  split at taken
  · cases taken
  · split at taken
    next impossible => cases impossible
    next =>
      split at taken
      · exact (Option.some.inj taken).symm
      · cases taken

theorem traces_aside (present : List Nat) (k : Nat) (es es' : EventSelector φ δ) (made : List Nat)
    (moves : Moves es es')
    (traces : Traces present k es made) (kept : ∀ pass ∈ es'.passes, pass.serial = k → pass ∈ es.passes) :
    Traces present k es' made := by
  refine ⟨Nat.lt_of_lt_of_le traces.1 moves.worn.begun, traces.2.1, fun pass member serial => ?_⟩
  obtain ⟨new, front, rest, whole, split, spot, sublist⟩ := traces.2.2 pass (kept pass member serial) serial
  rcases moves.extends' with ⟨idle, _, _⟩ | ⟨newer, grown, _⟩
  · rw [idle] at member
    cases member
  · exact ⟨newer ++ new, front, rest, by rw [grown, whole, List.append_assoc], split, spot, sublist⟩

theorem advance_traces (present : List Nat) (k : Nat) (es es' : EventSelector φ δ) (pass after : Pass)
    (rest : List Pass) (x : Nat)
    (front tail made more : List Nat) (sound : Sound es) (moves : Moves es es') (top : es.passes = pass :: rest)
    (here : pass.eh = some x) (whole : listed es = front ++ x :: tail) (passes : es'.passes = after :: rest)
    (serial : after.serial = pass.serial) (traces : Traces present k es made)
    (reached : pass.serial = k → ∀ ahead, made.Sublist (ahead ++ if pass.calling then [x] else []) →
      (made ++ more).Sublist (ahead ++ [x]) ∧
        (after.eh = some x ∧ after.calling = true ∨ after.eh = tail.head? ∧ after.calling = false))
    (silent : pass.serial ≠ k → more = []) : Traces present k es' (made ++ more) := by
  obtain ⟨newer, grown⟩ : ∃ newer, listed es' = newer ++ listed es := by
    rcases moves.extends' with ⟨idle, _, _⟩ | ⟨newer, grown, _⟩
    · rw [passes] at idle
      cases idle
    · exact ⟨newer, grown⟩
  by_cases own : pass.serial = k
  · obtain ⟨new, behind, walked, split, shape, spot, sublist⟩ := traces.2.2 pass (top ▸ List.mem_cons_self) own
    cases walked with
    | nil => exact absurd (here.symm.trans spot) (by simp)
    | cons y ahead =>
        obtain rfl : x = y := Option.some.inj (here.symm.trans spot)
        obtain ⟨further, place⟩ := reached own behind sublist
        have within : (behind ++ [x]).Sublist present := by
          rw [shape, List.append_cons behind x ahead]
          exact List.sublist_append_left _ _
        have sameNext : tail.head? = ahead.head? := by
          have first := chain_next _ _ front tail x (whole ▸ sound.holds.chain)
          have second := chain_next _ _ (new ++ behind) ahead x (by
            rw [List.append_assoc, ← shape, ← split]
            exact sound.holds.chain)
          exact first.symm.trans second
        refine ⟨Nat.lt_of_lt_of_le traces.1 moves.worn.begun, further.trans within, fun p member own' => ?_⟩
        rw [passes] at member
        rcases List.mem_cons.mp member with rfl | older
        · rcases place with ⟨stays, calling⟩ | ⟨goes, calling⟩
          · exact ⟨newer ++ new, behind, x :: ahead, by rw [grown, split, List.append_assoc], shape, stays,
              by rw [calling]; simpa using further⟩
          · refine ⟨newer ++ new, behind ++ [x], ahead, by rw [grown, split, List.append_assoc], by rw [shape]; simp,
              goes.trans sameNext, ?_⟩
            rw [calling]
            simpa using further
        · have apart := sound.apart
          rw [top] at apart
          exact ((List.nodup_cons.mp apart).1 (List.mem_map.mpr ⟨p, older, own'.trans own.symm⟩)).elim
  · rw [silent own, List.append_nil]
    refine traces_aside present k es es' made moves traces fun p member own' => ?_
    rw [passes] at member
    rcases List.mem_cons.mp member with rfl | older
    · exact (own (serial.symm.trans own')).elim
    · exact top ▸ List.mem_cons_of_mem pass older

theorem step_traces (present : List Nat) (k : Nat) (es es' : EventSelector φ δ) (move : Move φ δ) (made : List Nat)
    (sound : Sound es)
    (taken : step es move = some es') (traces : Traces present k es made) :
    Traces present k es' (made ++ ((called es move).toList.filter fun c => c.serial = k).map Called.eh) := by
  obtain ⟨moves, took⟩ := step_moves es es' move sound taken
  have quiet : called es move = none → made ++ ((called es move).toList.filter fun c => c.serial = k).map Called.eh =
    made := by
    intro silent
    simp [silent]
  cases took with
  | by' silent passes =>
      rw [quiet silent]
      exact traces_aside present k es es' made moves traces fun pass member _ => passes ▸ member
  | enters poll entered whole =>
      rw [quiet (by rw [entered]; rfl)]
      refine traces_aside present k es es' made moves traces fun pass member serial => ?_
      rw [whole] at member
      rcases List.mem_cons.mp member with rfl | older
      · exact (Nat.ne_of_lt traces.1 serial.symm).elim
      · exact older
  | advances advanced pass rest top how =>
      subst advanced
      cases how with
      | left done still passes =>
          rw [quiet still]
          exact traces_aside present k es es' made moves traces fun p member _ =>
            top ▸ List.mem_cons_of_mem pass (passes ▸ member)
      | passed x front tail here whole still passes =>
          refine advance_traces present k es es' pass _ rest x front tail made _ sound moves top here whole passes rfl
            traces
            (fun _ ahead sublist => ⟨?_, .inr ⟨rfl, rfl⟩⟩) fun _ => by simp [still]
          rw [quiet still]
          refine sublist.trans (List.Sublist.append_left ?_ ahead)
          split
          · exact List.Sublist.refl _
          · exact List.nil_sublist _
      | calls x front tail c here whole fresh call serial target unmarked once passes =>
          refine advance_traces present k es es' pass _ rest x front tail made _ sound moves top here whole passes rfl
            traces
            (fun own ahead sublist => ⟨?_, .inl ⟨here, rfl⟩⟩) fun other => by simp [call, serial, other]
          rw [fresh] at sublist
          have kept : made.Sublist ahead := by simpa using sublist
          simpa [call, serial, own, target] using kept.append_right [x]

theorem run_traces (present : List Nat) (k : Nat) {start finish : EventSelector φ δ}
    {visits : List (EventSelector φ δ × Move φ δ)}
    (run : Run step start visits finish) (sound : Sound start) (traces : Traces present k start []) :
    Traces present k finish (callsOf k visits) := by
  induction run with
  | start => exact traces
  | snoc visits es es' move before taken ih =>
      rw [callsOf_snoc]
      exact step_traces present k es es' move _ (run_sound before sound) taken ih

def leaves (x : Nat) (es : EventSelector φ δ) (move : Move φ δ) : Bool :=
  decide (x ∈ listed es) && (step es move).any fun es' => decide (x ∉ listed es')

def unlinks (x : Nat) (visits : List (EventSelector φ δ × Move φ δ)) : Nat :=
  visits.countP fun visit => leaves x visit.1 visit.2

theorem run_unlinks {finish : EventSelector φ δ} {visits : List (EventSelector φ δ × Move φ δ)}
    (run : Run step createSelector visits finish) (x : Nat) :
    unlinks x visits = if x < finish.fresh ∧ x ∉ listed finish then 1 else 0 := by
  induction run with
  | start => rfl
  | snoc visits es es' move before taken ih =>
      have sound := run_sound before create_sound
      obtain ⟨moves, _⟩ := step_moves es es' move sound taken
      have count : unlinks x (visits ++ [(es, move)]) = unlinks x visits + if x ∈ listed es ∧
        x ∉ listed es' then 1 else 0 := by
        simp [unlinks, List.countP_append, List.countP_singleton, leaves, taken]
      rw [count, ih]
      have grows := moves.worn.grows
      by_cases inside : x ∈ listed es
      · have old := sound.holds.old x inside
        have young : x < es'.fresh := Nat.lt_of_lt_of_le old grows
        simp [inside, young]
      -- It comes in when it is made.
      · have entered : x ∈ listed es' ↔ es.fresh ≤ x ∧ x < es'.fresh := by
          rcases moves.extends' with ⟨_, fresh, fewer⟩ | ⟨new, grown, fresh⟩
          · refine ⟨fun now => (inside (fewer.subset now)).elim, fun between => ?_⟩
            rw [fresh] at between
            exact (Nat.lt_irrefl _ (Nat.lt_of_le_of_lt between.1 between.2)).elim
          · rw [grown, List.mem_append, or_iff_left inside]
            exact fresh x
        simp only [inside, entered, not_false_eq_true, and_true, false_and, if_false, Nat.add_zero]
        by_cases old : x < es.fresh
        · rw [if_pos old, if_pos ⟨Nat.lt_of_lt_of_le old grows, fun between => Nat.not_le_of_lt old between.1⟩]
        · rw [if_neg old, if_neg fun both => both.2 ⟨Nat.le_of_not_lt old, both.1⟩]

-- What holds of a run of the event loop, however its callbacks are nested and
-- whatever they add, delete and change.
structure Reentrant (visits : List (EventSelector φ δ × Move φ δ)) (finish : EventSelector φ δ) : Prop where
  deletedSilent : ∀ earlier later es x, visits = earlier ++ (es, .delHandler x) :: later → x ∈ listed es →
    ∀ c ∈ Run.observe called later, c.eh ≠ x
  calledOnce : ∀ earlier later es poll, visits = earlier ++ (es, .handleEvent poll) :: later →
    (listed es).Nodup ∧ (callsOf es.begun later).Sublist (listed es)
  timerOnce : ∀ earlier later es move c eh, visits = earlier ++ (es, move) :: later → called es move = some c →
    es.heap c.eh = some eh → eh.flags.timer = true → ∀ other ∈ Run.observe called later, other.eh ≠ c.eh
  swept : finish.passes = [] → ∀ x ∈ listed finish, deleted finish x = false
  unlinkedOnce : finish.passes = [] → ∀ earlier later es x, visits = earlier ++ (es, .delHandler x) :: later →
    x ∈ listed es →
    x ∉ listed finish ∧ unlinks x visits = 1
  expiredOnce : finish.passes = [] → ∀ earlier later es move c eh, visits = earlier ++ (es, move) :: later →
    called es move = some c → es.heap c.eh = some eh → eh.flags.timer = true → c.eh ∉ listed finish ∧
      unlinks c.eh visits = 1
  goesOn : finish.freed = false → finish.passes ≠ [] → (step finish .advance).isSome = true

theorem gone_unlinked {finish : EventSelector φ δ} {visits : List (EventSelector φ δ × Move φ δ)}
    (run : Run step createSelector visits finish) (idle : finish.passes = []) (x : Nat) (gone : Gone finish x) :
    x ∉ listed finish ∧ unlinks x visits = 1 := by
  have sound := run_sound run create_sound
  have absent : x ∉ listed finish := by
    intro inside
    obtain ⟨eh, found⟩ := heap_of_mem finish _ sound.holds x inside
    have unmarked := sound.tidy (sound.idle idle) x inside
    rw [deleted, found, Option.any_some, gone.2 eh found] at unmarked
    cases unmarked
  refine ⟨absent, ?_⟩
  rw [run_unlinks run x, if_pos ⟨gone.1, absent⟩]

theorem event_loop_reentrant (visits : List (EventSelector φ δ × Move φ δ)) (finish : EventSelector φ δ)
    (run : Run step createSelector visits finish) : Reentrant visits finish := by
  have sound := run_sound run create_sound
  have split : ∀ earlier later es move, visits = earlier ++ (es, move) :: later →
      ∃ es', Sound es ∧ step es move = some es' ∧ Sound es' ∧ Run step es' later finish := by
    intro earlier later es move whole
    subst whole
    obtain ⟨es', before, taken, after⟩ := Run.through run
    have here := run_sound before create_sound
    exact ⟨es', here, taken, (step_moves es es' move here taken).1.sound, after⟩
  have silenced : ∀ earlier later es x, visits = earlier ++ (es, .delHandler x) :: later → x ∈ listed es →
      Gone finish x ∧ ∀ c ∈ Run.observe called later, c.eh ≠ x := by
    intro earlier later es x whole inside
    obtain ⟨es', here, taken, there, after⟩ := split earlier later es _ whole
    exact gone_silent after there x (delHandler_gone es es' x here inside taken)
  have expired : ∀ earlier later es move c eh, visits = earlier ++ (es, move) :: later → called es move = some c →
      es.heap c.eh = some eh → eh.flags.timer = true → Gone finish c.eh ∧ ∀ other ∈ Run.observe called later,
        other.eh ≠ c.eh := by
    intro earlier later es move c eh whole made found timer
    obtain ⟨es', here, taken, there, after⟩ := split earlier later es _ whole
    exact gone_silent after there c.eh (timer_gone es es' move c eh here taken made found timer)
  constructor
  · exact fun earlier later es x whole inside => (silenced earlier later es x whole inside).2
  · intro earlier later es poll whole
    obtain ⟨es', here, taken, there, after⟩ := split earlier later es _ whole
    refine ⟨here.holds.distinct, ?_⟩
    obtain rfl := step_enters es es' poll taken
    exact (run_traces (listed es) es.begun after there (enter_traces es poll here)).2.1
  · exact fun earlier later es move c eh whole made found timer =>
      (expired earlier later es move c eh whole made found timer).2
  · exact fun idle => sound.tidy (sound.idle idle)
  · exact fun idle earlier later es x whole inside =>
      gone_unlinked run idle x (silenced earlier later es x whole inside).1
  · exact fun idle earlier later es move c eh whole made found timer =>
      gone_unlinked run idle c.eh (expired earlier later es move c eh whole made found timer).1
  · intro live busy
    cases top : finish.passes with
    | nil => exact (busy top).elim
    | cons pass rest =>
        obtain ⟨after, advances, _⟩ := advance_moves finish pass rest top sound
        simp [step, live, advances]

-- A reader deletes itself from its callback, which has first run the loop once
-- more; a timer goes off in the inner round and is not called again.
def nestedMoves : List (Move Nat Nat) :=
  [.addHandler true 3 { Flags.none with readable := true } 0 0, .addTimerHandler true ⟨0, 0⟩ ⟨1, 0⟩ 1 1,
    .handleEvent ⟨false, fun _ => true, fun _ => false, ⟨0, 500000⟩⟩, .advance, .advance,
    .handleEvent ⟨false, fun _ => false, fun _ => false, ⟨1, 0⟩⟩, .advance, .advance, .advance, .advance,
    .delHandler 0, .advance, .advance]

theorem event_loop_reentrant_nested : ∃ visits finish, Run step (createSelector : EventSelector Nat Nat) visits finish ∧
    (Run.observe called visits).map Called.eh = [0, 1] ∧ finish.passes.length = 0 ∧ finish.handlers = none ∧
      Reentrant visits finish := by
  have played : (Run.play step (createSelector : EventSelector Nat Nat) nestedMoves).any (fun es =>
      es.passes.length == 0 && es.handlers == none) = true := by decide +kernel
  obtain ⟨finish, reached, facts⟩ := (Option.any_eq_true _ _).mp played
  have run := Run.of_play nestedMoves finish reached
  simp only [Bool.and_eq_true, beq_iff_eq] at facts
  exact ⟨_, finish, run, by decide +kernel, facts.1, facts.2, event_loop_reentrant _ finish run⟩

end ZyAgf.Pppoe.EventLoop
