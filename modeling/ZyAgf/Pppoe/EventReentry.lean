import ZyAgf.Pppoe.EventLists

set_option autoImplicit false

namespace ZyAgf.Pppoe.EventLoop

variable {φ δ : Type}

def Walks (es : EventSelector φ δ) (pass : Pass) : Prop :=
  ∃ front rest, listed es = front ++ rest ∧ pass.eh = rest.head?

structure Sound (es : EventSelector φ δ) : Prop where
  holds : Holds es (listed es)
  nest : es.nestLevel = es.passes.length
  tidy : es.opsPending = false → ∀ x ∈ listed es, deleted es x = false
  idle : es.passes = [] → es.opsPending = false
  kinds : ∀ x eh, es.heap x = some eh → eh.flags.timer = true → eh.flags.readable = false ∧ eh.flags.writeable = false
  walks : ∀ pass ∈ es.passes, Walks es pass
  apart : (es.passes.map Pass.serial).Nodup
  past : ∀ pass ∈ es.passes, pass.serial < es.begun

-- What becomes of the handlers there were: none comes back, no mark is taken
-- off, and none changes its kind.
structure Worn (es es' : EventSelector φ δ) : Prop where
  grows : es.fresh ≤ es'.fresh
  begun : es.begun ≤ es'.begun
  wears : ∀ x < es.fresh, ∀ eh', es'.heap x = some eh' → ∃ eh, es.heap x = some eh ∧
    (eh.flags.deleted = true → eh'.flags.deleted = true) ∧ eh'.flags.timer = eh.flags.timer ∧
      eh'.flags.readable = eh.flags.readable ∧ eh'.flags.writeable = eh.flags.writeable

-- While an activation is under way the list only grows, at its front.
def Extends (es es' : EventSelector φ δ) : Prop :=
  es'.passes = [] ∧ es'.fresh = es.fresh ∧ (listed es').Sublist (listed es) ∨
    ∃ new, listed es' = new ++ listed es ∧ ∀ x, x ∈ new ↔ es.fresh ≤ x ∧ x < es'.fresh

structure Moves (es es' : EventSelector φ δ) : Prop where
  sound : Sound es'
  worn : Worn es es'
  extends' : Extends es es'

theorem listed_of_holds (es : EventSelector φ δ) (xs : List Nat) (holds : Holds es xs) : Holds es (listed es) := by
  rw [listed_eq es xs holds]
  exact holds

theorem holds_same (es es' : EventSelector φ δ) (xs : List Nat) (heap : es'.heap = es.heap)
    (handlers : es'.handlers = es.handlers) (fresh : es'.fresh = es.fresh) (holds : Holds es xs) : Holds es' xs := by
  have next : es'.nextOf = es.nextOf := by
    unfold EventSelector.nextOf
    rw [heap]
  refine ⟨?_, holds.distinct, fun x => ?_, fun x member => ?_⟩
  · rw [next, handlers]
    exact holds.chain
  · rw [heap]
    exact holds.live x
  · rw [fresh]
    exact holds.old x member

theorem worn_refl (es : EventSelector φ δ) : Worn es es :=
  ⟨Nat.le_refl _, Nat.le_refl _, fun _ _ eh found => ⟨eh, found, id, rfl, rfl, rfl⟩⟩

theorem worn_of_flags (es es' : EventSelector φ δ) (grows : es.fresh ≤ es'.fresh) (begun : es.begun ≤ es'.begun)
    (flags : ∀ x, es'.heap x = none ∨ (es'.heap x).map EventHandler.flags = (es.heap x).map EventHandler.flags) :
    Worn es es' := by
  refine ⟨grows, begun, fun x _ eh' found => ?_⟩
  rcases flags x with gone | same
  · rw [gone] at found
    cases found
  · rw [found, Option.map_some] at same
    obtain ⟨eh, was, like⟩ := Option.map_eq_some_iff.mp same.symm
    exact ⟨eh, was, by rw [like]; exact id, by rw [like], by rw [like], by rw [like]⟩

theorem extends_same (es es' : EventSelector φ δ) (same : listed es' = listed es) (fresh : es'.fresh = es.fresh) :
    Extends es es' := by
  refine .inr ⟨[], same, fun x => ⟨fun member => absurd member List.not_mem_nil, fun between => ?_⟩⟩
  rw [fresh] at between
  exact (Nat.lt_irrefl _ (Nat.lt_of_le_of_lt between.1 between.2)).elim

def Kinds (es : EventSelector φ δ) : Prop :=
  ∀ x eh, es.heap x = some eh → eh.flags.timer = true → eh.flags.readable = false ∧ eh.flags.writeable = false

theorem atRest_moves (es es' : EventSelector φ δ) (xs : List Nat) (holds : Holds es' xs)
    (fewer : xs.Sublist (listed es))
    (idle : es'.passes = []) (nest : es'.nestLevel = 0) (calm : es'.opsPending = false) (fresh : es'.fresh = es.fresh)
    (begun : es.begun ≤ es'.begun) (kinds : Kinds es)
    (flags : ∀ x, es'.heap x = none ∨ (es'.heap x).map EventHandler.flags = (es.heap x).map EventHandler.flags)
    (unmarked : ∀ x ∈ xs, deleted es' x = false) : Moves es es' := by
  have list := listed_eq _ _ holds
  refine ⟨⟨listed_of_holds _ _
    holds, by rw [nest, idle]; rfl, fun _ x member => unmarked x (list ▸ member), fun _ => calm,
    fun x seen isOne timer => ?_, fun p member => ?_, by rw [idle]; exact List.nodup_nil, fun p member => ?_⟩,
    worn_of_flags es es' (Nat.le_of_eq fresh.symm) begun flags, .inl ⟨idle, fresh, list ▸ fewer⟩⟩
  · rcases flags x with gone | same
    · rw [gone] at isOne
      cases isOne
    · rw [isOne, Option.map_some] at same
      obtain ⟨was, there, alike⟩ := Option.map_eq_some_iff.mp same.symm
      rw [← alike] at timer ⊢
      exact kinds x was there timer
  · rw [idle] at member
    cases member
  · rw [idle] at member
    cases member

section Calls

variable (es : EventSelector φ δ)

theorem addFirst_moves (memory : Bool) (eh : EventHandler φ δ) (unmarked : eh.flags.deleted = false)
    (kind : eh.flags.timer = true → eh.flags.readable = false ∧ eh.flags.writeable = false) (sound : Sound es) :
    Moves es (addFirst memory eh es) := by
  cases memory with
  | false => exact ⟨sound, worn_refl es, extends_same _ _ rfl rfl⟩
  | true =>
      have holds := addFirst_holds eh es (listed es) sound.holds
      have list := listed_eq _ _ holds
      have elsewhere : ∀ x, x ≠ es.fresh → (addFirst true eh es).heap x = es.heap x := fun x other =>
        write_elsewhere _ _ _ _ other
      have here : (addFirst true eh es).heap es.fresh = some { eh with next := es.handlers } := write_here _ _ _
      refine ⟨⟨listed_of_holds _ _ holds, sound.nest, fun calm x member => ?_, sound.idle, fun x found isOne timer =>
        ?_,
        fun pass member => ?_, sound.apart, sound.past⟩, ⟨Nat.le_succ _, Nat.le_refl _, fun x old found isOne => ?_⟩,
        .inr ⟨[es.fresh], list, fun x => ?_⟩⟩
      · rw [list] at member
        by_cases new : x = es.fresh
        · simp [deleted, new, here, unmarked]
        · have older : x ∈ listed es := (List.mem_cons.mp member).resolve_left new
          simpa [deleted, elsewhere x new] using sound.tidy calm x older
      · by_cases new : x = es.fresh
        · rw [new, here] at isOne
          obtain rfl := Option.some.inj isOne
          exact kind timer
        · rw [elsewhere x new] at isOne
          exact sound.kinds x found isOne timer
      · obtain ⟨front, rest, whole, at'⟩ := sound.walks pass member
        exact ⟨es.fresh :: front, rest, by rw [list, whole]; rfl, at'⟩
      · rw [elsewhere x (Nat.ne_of_lt old)] at isOne
        exact ⟨found, isOne, id, rfl, rfl, rfl⟩
      · rw [List.mem_singleton]
        have next : (addFirst true eh es).fresh = es.fresh + 1 := rfl
        omega

theorem update_moves (x : Nat) (new eh : EventHandler φ δ) (found : es.heap x = some eh) (next : new.next = eh.next)
    (flags : new.flags = eh.flags) (sound : Sound es) : Moves es { es with heap := write es.heap x (some new) } := by
  have holds := update_holds x new eh es (listed es) next found sound.holds
  have list := listed_eq _ _ holds
  have same : ∀ y, ((write es.heap x (some new)) y).map EventHandler.flags = (es.heap y).map EventHandler.flags := by
    intro y
    by_cases here : y = x
    · simp [here, found, flags]
    · rw [write_elsewhere _ _ _ _ here]
  have worn := worn_of_flags es { es with heap := write es.heap x (some new) } (Nat.le_refl _) (Nat.le_refl _) fun y =>
    .inr (same y)
  refine ⟨⟨listed_of_holds _ _ holds, sound.nest, fun calm y member => ?_, sound.idle, fun y seen isOne timer => ?_,
    fun pass member => ?_, sound.apart, sound.past⟩, worn, extends_same _ _ list rfl⟩
  · rw [deleted_of_flags es _ y (same y)]
    exact sound.tidy calm y (list ▸ member)
  · have like := same y
    rw [show (write es.heap x (some new)) y = some seen from isOne, Option.map_some] at like
    obtain ⟨was, there, alike⟩ := Option.map_eq_some_iff.mp like.symm
    rw [← alike] at timer ⊢
    exact sound.kinds y was there timer
  · obtain ⟨front, rest, whole, at'⟩ := sound.walks pass member
    exact ⟨front, rest, by rw [list, whole], at'⟩

def marked (x : Nat) (eh : EventHandler φ δ) : EventSelector φ δ :=
  { es with
    heap := write es.heap x (some { eh with flags := { eh.flags with deleted := true } })
    opsPending := true }

theorem marked_holds (x : Nat) (eh : EventHandler φ δ) (found : es.heap x = some eh) (sound : Sound es) :
    Holds (marked es x eh) (listed es) := by
  have updated := update_holds x { eh with flags := { eh.flags with deleted := true } } eh es
    (listed es) rfl found sound.holds
  refine holds_same _ _ _ ?_ ?_ ?_ updated <;> rfl

theorem marked_moves (x : Nat) (eh : EventHandler φ δ) (found : es.heap x = some eh) (busy : es.passes ≠ [])
    (sound : Sound es) : Moves es (marked es x eh) := by
  have holds := marked_holds es x eh found sound
  have list := listed_eq _ _ holds
  have cases : ∀ y seen, (marked es x eh).heap y = some seen →
      ∃ was, es.heap y = some was ∧ (was.flags.deleted = true → seen.flags.deleted = true) ∧
        seen.flags.timer = was.flags.timer ∧
        seen.flags.readable = was.flags.readable ∧ seen.flags.writeable = was.flags.writeable := by
    intro y seen isOne
    by_cases here : y = x
    · subst here
      obtain rfl := Option.some.inj (isOne.symm.trans (write_here _ _ _))
      exact ⟨eh, found, fun _ => rfl, rfl, rfl, rfl⟩
    · exact ⟨seen, (write_elsewhere _ _ _ _ here).symm.trans isOne, id, rfl, rfl, rfl⟩
  refine ⟨⟨listed_of_holds _ _ holds, sound.nest, fun calm => Bool.noConfusion calm, fun idle => (busy idle).elim,
    fun y seen isOne timer => ?_, fun pass member => ?_, sound.apart, sound.past⟩,
    ⟨Nat.le_refl _, Nat.le_refl _, fun y _ => cases y⟩, extends_same _ _ list rfl⟩
  · obtain ⟨was, there, _, kind, reads, writes⟩ := cases y seen isOne
    rw [reads, writes]
    exact sound.kinds y was there (kind ▸ timer)
  · obtain ⟨front, rest, whole, at'⟩ := sound.walks pass member
    exact ⟨front, rest, by rw [list, whole], at'⟩

theorem moved_moves (pass : Pass) (rest : List Pass) (eh : Option Nat) (calling : Bool) (top : es.passes = pass :: rest)
    (walks : Walks es { pass with eh := eh, calling := calling }) (sound : Sound es) :
    Moves es { es with passes := { pass with eh := eh, calling := calling } :: rest } := by
  have same : listed { es with passes := { pass with eh := eh, calling := calling } :: rest } = listed es := rfl
  refine ⟨⟨?_, ?_, sound.tidy, fun idle => (List.cons_ne_nil _ _ idle).elim, sound.kinds, fun p member => ?_, ?_,
    fun p member => ?_⟩,
    ⟨Nat.le_refl _, Nat.le_refl _, fun _ _ seen found => ⟨seen, found, id, rfl, rfl, rfl⟩⟩, extends_same _ _ same rfl⟩
  · refine holds_same _ _ _ ?_ ?_ ?_ sound.holds <;> rfl
  · rw [sound.nest, top]
    rfl
  · rcases List.mem_cons.mp member with rfl | other
    · exact walks
    · exact sound.walks p (top ▸ List.mem_cons_of_mem pass other)
  · have apart := sound.apart
    rw [top] at apart
    exact apart
  · rcases List.mem_cons.mp member with rfl | other
    · exact sound.past pass (top ▸ List.mem_cons_self)
    · exact sound.past p (top ▸ List.mem_cons_of_mem pass other)

theorem enter_moves (poll : Poll) (sound : Sound es) : Moves es (enter poll es) := by
  have same : listed (enter poll es) = listed es := rfl
  refine ⟨⟨?_, ?_, sound.tidy, fun idle => (List.cons_ne_nil _ _ idle).elim, sound.kinds, fun p member => ?_, ?_,
    fun p member => ?_⟩,
    ⟨Nat.le_refl _, Nat.le_succ _, fun _ _ seen found => ⟨seen, found, id, rfl, rfl, rfl⟩⟩, extends_same _ _ same rfl⟩
  · refine holds_same _ _ _ ?_ ?_ ?_ sound.holds <;> rfl
  · exact congrArg (· + 1) sound.nest
  · rcases List.mem_cons.mp member with rfl | other
    · cases failed : poll.failed with
      | true => exact ⟨listed es, [], by rw [same, List.append_nil], by simp⟩
      | false => exact ⟨[], listed es, same, by simpa using chain_head _ _ _ sound.holds.chain⟩
    · exact sound.walks p other
  · refine List.nodup_cons.mpr ⟨fun again => ?_, sound.apart⟩
    obtain ⟨p, member, serial⟩ := List.mem_map.mp again
    exact Nat.ne_of_lt (sound.past p member) serial
  · rcases List.mem_cons.mp member with rfl | other
    · exact Nat.lt_succ_self _
    · exact Nat.lt_succ_of_lt (sound.past p other)

theorem delHandler_moves (x : Nat) (sound : Sound es) : ∃ es', delHandler x es = some es' ∧ Moves es es' ∧
    es'.passes = es.passes ∧ (x ∈ listed es → ∀ eh, es'.heap x = some eh → eh.flags.deleted = true) := by
  by_cases inside : x ∈ listed es
  · obtain ⟨front, rest, whole⟩ := List.append_of_mem inside
    have holds := whole ▸ sound.holds
    have outside := (List.nodup_cons.mp (List.nodup_middle.mp holds.distinct)).1
    have absent : x ∉ front := fun early => outside (List.mem_append_left rest early)
    have short : front.length < es.fresh + 1 := by
      have bound := holds_length es _ holds
      simp only [List.length_append, List.length_cons] at bound
      omega
    have scan := before_chain es.nextOf (es.fresh + 1) es.handlers none front rest x absent holds.chain short
    rw [Option.or_none] at scan
    obtain ⟨eh, found⟩ := heap_of_mem es _ sound.holds x inside
    by_cases nested : es.nestLevel = 0
    · have idle : es.passes = [] := List.length_eq_zero_iff.mp (sound.nest ▸ nested)
      obtain ⟨es', unlinked, holds', ⟨heap, handlers, rfl⟩, freed, flags⟩ := unlink_holds es front rest x holds
      have fewer : (front ++ rest).Sublist (listed es) := whole ▸ (List.sublist_cons_self x rest).append_left front
      refine ⟨_, ?_, atRest_moves es _ _ holds' fewer idle nested (sound.idle idle) rfl (Nat.le_refl _) sound.kinds
        (fun y => ?_) fun y member => ?_, rfl, fun _ _ found' => absurd (freed.symm.trans found') (by simp)⟩
      · simp only [delHandler, scan]
        rw [if_neg fun busy => busy nested]
        exact unlinked
      · by_cases here : y = x
        · exact .inl (here ▸ freed)
        · exact .inr (flags y here)
      · have other : y ≠ x := fun same => outside (same ▸ member)
        rw [deleted_of_flags es _ y (flags y other)]
        exact sound.tidy (sound.idle idle) y (fewer.subset member)
    · have busy : es.passes ≠ [] := fun idle => nested (by rw [sound.nest, idle]; rfl)
      refine ⟨marked es x eh, ?_, marked_moves es x eh found busy sound, rfl, fun _ seen isOne => ?_⟩
      · simp only [delHandler, scan, ne_eq, nested, not_false_eq_true, if_true, update_some x _ es eh found,
          Option.map_some]
        rfl
      · obtain rfl := Option.some.inj (isOne.symm.trans (write_here _ _ _))
        rfl
  · have scan := before_absent es.nextOf (es.fresh + 1) es.handlers none (listed es) x inside sound.holds.chain
    refine ⟨es, ?_, ⟨sound, worn_refl es, extends_same _ _ rfl rfl⟩, rfl, fun member => (inside member).elim⟩
    simp only [delHandler, scan]

theorem destroyNow_moves (holds : Holds es (listed es)) (idle : es.passes = []) (nest : es.nestLevel = 0)
    (calm : es.opsPending = false) (kinds : Kinds es) : ∃ es', destroyNow es = some es' ∧ Moves es es' ∧
    es'.passes = [] := by
  obtain ⟨es', destroyed, holds', whole⟩ := destroyNow_holds es (listed es) holds
  have gone : ∀ x, es'.heap x = none := by
    intro x
    cases found : es'.heap x with
    | none => rfl
    | some eh => exact absurd (mem_of_heap es' [] holds' x eh found) List.not_mem_nil
  have still : es'.passes = [] := by
    rw [whole]
    exact idle
  refine ⟨es', destroyed, atRest_moves es es' [] holds' (List.nil_sublist _) still ?_ ?_ ?_ ?_ kinds
    (fun x => .inl (gone x)) fun x member => absurd member List.not_mem_nil, still⟩
  · rw [whole]
    exact nest
  · rw [whole]
    exact calm
  · rw [whole]
  · exact Nat.le_of_eq (congrArg EventSelector.begun whole).symm

theorem doPendingChanges_moves (holds : Holds es (listed es)) (idle : es.passes = []) (nest : es.nestLevel = 0)
    (kinds : Kinds es) : ∃ es', doPendingChanges es = some es' ∧ Moves es es' ∧ es'.passes = [] := by
  have calm : Holds { es with opsPending := false } (listed es) := by
    refine holds_same _ _ _ ?_ ?_ ?_ holds <;> rfl
  unfold doPendingChanges
  dsimp only
  split
  · obtain ⟨es', destroyed, moves, still⟩ := destroyNow_moves { es with opsPending := false } calm idle nest rfl kinds
    exact ⟨es', destroyed, ⟨moves.sound, ⟨moves.worn.grows, moves.worn.begun, moves.worn.wears⟩, moves.extends'⟩, still⟩
  · have short := Nat.lt_succ_of_le (holds_length es _ holds)
    obtain ⟨es', swept, holds', ⟨heap, handlers, rfl⟩, flags⟩ :=
      sweep_holds (es.fresh + 1) [] (listed es) { es with opsPending := false } calm short
    refine ⟨_, ?_, atRest_moves es _ _ holds' List.filter_sublist idle nest rfl rfl (Nat.le_refl _) kinds
      (fun x => ?_) fun x member => ?_, idle⟩
    · rw [← chain_head _ _ _ holds.chain] at swept
      exact swept
    · by_cases gone : x ∈ listed es ∧ deleted es x = true
      · exact .inl ((flags x).1 gone)
      · exact .inr ((flags x).2 gone)
    · obtain ⟨inside, unmarked⟩ := List.mem_filter.mp member
      have still : deleted es x = false := by simpa [deleted] using unmarked
      have same := (flags x).2 fun both => by
        have gone : deleted es x = true := both.2
        rw [still] at gone
        cases gone
      rw [deleted_of_flags es _ x same]
      exact still

theorem leave_moves (pass : Pass) (rest : List Pass) (top : es.passes = pass :: rest) (sound : Sound es) :
    ∃ es', leave rest es = some es' ∧ Moves es es' ∧ es'.passes = rest := by
  have nest : es.nestLevel - 1 = rest.length := by
    rw [sound.nest, top]
    rfl
  have holds : Holds { es with nestLevel := es.nestLevel - 1, passes := rest } (listed es) := by
    refine holds_same _ _ _ ?_ ?_ ?_ sound.holds <;> rfl
  have same : listed { es with nestLevel := es.nestLevel - 1, passes := rest } = listed es := rfl
  have worn : Worn es { es with nestLevel := es.nestLevel - 1, passes := rest } :=
    ⟨Nat.le_refl _, Nat.le_refl _, fun _ _ seen found => ⟨seen, found, id, rfl, rfl, rfl⟩⟩
  unfold leave
  dsimp only
  split
  next pending =>
    have idle : rest = [] := List.length_eq_zero_iff.mp (nest ▸ pending.1)
    obtain ⟨es', changed, moves, still⟩ := doPendingChanges_moves
      { es with nestLevel := es.nestLevel - 1, passes := rest } holds idle pending.1 sound.kinds
    exact ⟨es', changed, ⟨moves.sound, ⟨moves.worn.grows, moves.worn.begun, moves.worn.wears⟩, moves.extends'⟩,
      still.trans idle.symm⟩
  next settled =>
    refine ⟨_, rfl, ⟨⟨holds, nest, sound.tidy, fun idle => ?_, sound.kinds, fun p member => ?_, ?_, fun p member => ?_⟩,
      worn,
      extends_same _ _ same rfl⟩, rfl⟩
    · have nothing : es.nestLevel - 1 = 0 := by
        rw [nest]
        exact List.length_eq_zero_iff.mpr idle
      exact eq_false_of_ne_true fun ops => settled ⟨nothing, ops⟩
    · exact sound.walks p (top ▸ List.mem_cons_of_mem pass member)
    · have apart := sound.apart
      rw [top] at apart
      exact (List.nodup_cons.mp apart).2
    · exact sound.past p (top ▸ List.mem_cons_of_mem pass member)

end Calls

-- A callback that is invoked, and by which activation.
structure Called (φ δ : Type) where
  serial : Nat
  eh : Nat
  fd : Int
  flags : Flags
  fn : φ
  data : δ

def invoked (pass : Pass) (x : Nat) (eh : EventHandler φ δ) : Option (Called φ δ) :=
  if eh.flags.deleted then none
  else if (ready pass eh).any then some ⟨pass.serial, x, eh.fd, ready pass eh, eh.fn, eh.data⟩
  else none

def called (es : EventSelector φ δ) : Move φ δ → Option (Called φ δ)
  | .advance => match es.passes with
      | [] => none
      | pass :: _ => match pass.eh with
          | none => none
          | some x => if pass.calling then none else (es.heap x).bind (invoked pass x)
  | _ => none

-- What the innermost activation does next.
inductive Advanced (es es' : EventSelector φ δ) (pass : Pass) (rest : List Pass) : Prop where
  | left (done : pass.eh = none) (still : called es .advance = none) (passes : es'.passes = rest)
  | passed (x : Nat) (front tail : List Nat) (here : pass.eh = some x) (whole : listed es = front ++ x :: tail)
      (still : called es .advance = none) (passes : es'.passes =
        { pass with eh := tail.head?, calling := false } :: rest)
  | calls (x : Nat) (front tail : List Nat) (c : Called φ δ) (here : pass.eh = some x)
    (whole : listed es = front ++ x :: tail)
      (fresh : pass.calling = false) (made : called es .advance = some c) (serial : c.serial = pass.serial)
        (target : c.eh = x)
      (unmarked : deleted es x = false)
      (once : ∀ eh, es.heap x = some eh → eh.flags.timer = true → ∀ eh', es'.heap x = some eh' →
        eh'.flags.deleted = true)
      (passes : es'.passes = { pass with calling := true } :: rest)

theorem ready_timer (pass : Pass) (eh : EventHandler φ δ) (timer : eh.flags.timer = true)
    (kind : eh.flags.readable = false ∧ eh.flags.writeable = false) : (ready pass eh).any = expires pass eh := by
  simp [ready, Flags.any, expires, timer, kind.1, kind.2]

theorem worn_trans (es es' es'' : EventSelector φ δ) (first : Worn es es') (second : Worn es' es'') : Worn es es'' := by
  refine ⟨Nat.le_trans first.grows second.grows, Nat.le_trans first.begun second.begun, fun x old seen isOne => ?_⟩
  obtain ⟨mid, middle, mark, timer, reads, writes⟩ := second.wears x (Nat.lt_of_lt_of_le old first.grows) seen isOne
  obtain ⟨was, there, mark', timer', reads', writes'⟩ := first.wears x old mid middle
  exact ⟨was, there, fun marked => mark (mark' marked), timer.trans timer', reads.trans reads', writes.trans writes'⟩

theorem visit_moves (es : EventSelector φ δ) (pass : Pass) (rest : List Pass) (x : Nat) (eh : EventHandler φ δ)
    (front tail : List Nat) (top : es.passes = pass :: rest) (here : pass.eh = some x) (idle : pass.calling = false)
    (whole : listed es = front ++ x :: tail) (found : es.heap x = some eh)
    (call : called es .advance = invoked pass x eh)
    (sound : Sound es) : ∃ es', visit pass rest x es = some es' ∧ Moves es es' ∧ Advanced es es' pass rest := by
  have link := next_in_chain es front tail x eh (whole ▸ sound.holds) found
  have sameFlag : ∀ spot, ({ pass with eh := spot } : Pass) = { pass with eh := spot, calling := false } := by
    intro spot
    rw [← idle]
  have sameSpot : ({ pass with calling := true } : Pass) = { pass with eh := some x, calling := true } := by rw [← here]
  have onward : ∀ state : EventSelector φ δ, listed state = listed es →
    Walks state { pass with eh := tail.head?, calling := false } :=
    fun state same => ⟨front ++ [x], tail, by rw [same, whole]; simp, rfl⟩
  have stays : ∀ state : EventSelector φ δ, listed state = listed es →
    Walks state { pass with eh := some x, calling := true } :=
    fun state same => ⟨front, x :: tail, by rw [same, whole], rfl⟩
  unfold visit
  rw [found]
  dsimp only
  cases gone : eh.flags.deleted with
  | true =>
      refine ⟨_, ?_, moved_moves es pass rest tail.head? false top (onward es rfl) sound,
        .passed x front tail here whole (by rw [call, invoked, if_pos gone]) rfl⟩
      rw [if_pos rfl, sameFlag, link]
  | false =>
      have unmarked : deleted es x = false := by simp [deleted, found, gone]
      -- A timer is marked before its callback is invoked.
      obtain ⟨mid, taken, moves, list, fresh, passes, once⟩ : ∃ mid,
        (if expires pass eh then marked es x eh else es) = mid ∧
          Moves es mid ∧ listed mid = listed es ∧ mid.fresh = es.fresh ∧ mid.passes = es.passes ∧
            (expires pass eh = true → ∀ eh', mid.heap x = some eh' → eh'.flags.deleted = true) := by
        cases expired : expires pass eh with
        | true =>
            refine ⟨marked es x eh, if_pos rfl, marked_moves es x eh found (by simp [top]) sound,
              listed_eq _ _ (marked_holds es x eh found sound), rfl, rfl, fun _ seen isOne => ?_⟩
            obtain rfl := Option.some.inj (isOne.symm.trans (write_here _ _ _))
            rfl
        | false =>
            exact ⟨es, if_neg (by simp), ⟨sound, worn_refl es, extends_same _ _ rfl rfl⟩, rfl, rfl, rfl,
              fun early => by cases early⟩
      have onTop : mid.passes = pass :: rest := passes.trans top
      rw [if_neg (by simp)]
      have shown : (if expires pass eh then
          { es with
            heap := write es.heap x (some { eh with flags := { eh.flags with deleted := true } })
            opsPending := true }
        else es) = mid := taken
      rw [shown]
      cases fires : (ready pass eh).any with
      | true =>
          have further := moved_moves mid pass rest (some x) true onTop (stays mid list) moves.sound
          refine ⟨_, if_pos rfl, ?_, .calls x front tail _ here whole idle
            (by rw [call, invoked, gone]; simp [fires]; rfl) rfl rfl
            unmarked (fun was isOne timer seen there => ?_) rfl⟩
          · rw [sameSpot]
            exact ⟨further.sound, worn_trans _ _ _ moves.worn further.worn, extends_same _ _ list fresh⟩
          · obtain rfl := Option.some.inj (isOne.symm.trans found)
            refine once ?_ seen there
            rw [← ready_timer pass was timer (sound.kinds x was found timer), fires]
      | false =>
          have further := moved_moves mid pass rest tail.head? false onTop (onward mid list) moves.sound
          refine ⟨_, if_neg (by simp), ?_, .passed x front tail here whole
            (by rw [call, invoked, gone]; simp [fires]) ?_⟩
          · rw [sameFlag, link]
            exact ⟨further.sound, worn_trans _ _ _ moves.worn further.worn, extends_same _ _ list fresh⟩
          · rw [sameFlag, link]

theorem advance_moves (es : EventSelector φ δ) (pass : Pass) (rest : List Pass) (top : es.passes = pass :: rest)
    (sound : Sound es) : ∃ es', advance es = some es' ∧ Moves es es' ∧ Advanced es es' pass rest := by
  cases here : pass.eh with
  | none =>
      obtain ⟨es', left, moves, passes⟩ := leave_moves es pass rest top sound
      refine ⟨es', ?_, moves, .left here ?_ passes⟩
      · simp only [advance, top, here]
        exact left
      · simp only [called, top, here]
  | some x =>
      obtain ⟨front, walked, whole, spot⟩ := sound.walks pass (top ▸ List.mem_cons_self)
      cases walked with
      | nil => exact absurd (here.symm.trans spot) (by simp)
      | cons y tail =>
          obtain rfl : x = y := Option.some.inj (here.symm.trans spot)
          have inside : x ∈ listed es := by
            rw [whole]
            simp
          obtain ⟨eh, found⟩ := heap_of_mem es _ sound.holds x inside
          cases calling : pass.calling with
          | true =>
              have link := next_in_chain es front tail x eh (whole ▸ sound.holds) found
              have onward : Walks es { pass with eh := tail.head?, calling := false } :=
                ⟨front ++ [x], tail, by rw [whole]; simp, rfl⟩
              refine ⟨_, ?_, moved_moves es pass rest tail.head? false top onward sound,
                .passed x front tail here whole ?_ rfl⟩
              · simp [advance, top, here, calling, goOn, found, link]
              · simp [called, top, here, calling]
          | false =>
              have look : advance es = visit pass rest x es := by simp [advance, top, here, calling]
              have call : called es .advance = invoked pass x eh := by simp [called, top, here, calling, found]
              rw [look]
              exact visit_moves es pass rest x eh front tail top here calling whole found call sound

-- What a step is, as far as the activations go.
inductive Took (es : EventSelector φ δ) (move : Move φ δ) (es' : EventSelector φ δ) : Prop where
  | by' (silent : called es move = none) (passes : es'.passes = es.passes)
  | enters (poll : Poll) (entered : move = .handleEvent poll) (whole : es' = enter poll es)
  | advances (advanced : move = .advance) (pass : Pass) (rest : List Pass) (top : es.passes = pass :: rest)
      (how : Advanced es es' pass rest)

theorem updated_moves (es es' : EventSelector φ δ) (x : Nat) (change : EventHandler φ δ → EventHandler φ δ)
    (next : ∀ eh, (change eh).next = eh.next) (flags : ∀ eh, (change eh).flags = eh.flags) (sound : Sound es)
    (done : update x change es = some es') : Moves es es' ∧ es'.passes = es.passes := by
  obtain ⟨eh, found, rfl⟩ := Option.map_eq_some_iff.mp done
  exact ⟨update_moves es x (change eh) eh found (next eh) (flags eh) sound, rfl⟩

theorem addHandler_moves (memory : Bool) (fd : Int) (flags : Flags) (fn : φ) (data : δ) (es : EventSelector φ δ)
    (sound : Sound es) :
    Moves es (addHandler memory fd flags fn data es) ∧ (addHandler memory fd flags fn data es).passes = es.passes := by
  unfold addHandler
  split
  · exact ⟨⟨sound, worn_refl es, extends_same _ _ rfl rfl⟩, rfl⟩
  · refine ⟨addFirst_moves es memory _ rfl (fun timer => by cases timer) sound, ?_⟩
    cases memory <;> rfl

theorem calls_moves (es es' : EventSelector φ δ) (move : Move φ δ) (sound : Sound es)
    (done : calls es move = some es') :
    Moves es es' ∧ Took es move es' := by
  have same : Moves es es := ⟨sound, worn_refl es, extends_same _ _ rfl rfl⟩
  cases move with
  | addHandler memory fd flags fn data =>
      obtain rfl := Option.some.inj done
      obtain ⟨moves, passes⟩ := addHandler_moves memory fd flags fn data es sound
      exact ⟨moves, .by' rfl passes⟩
  | addHandlerWithTimeout memory now fd flags t fn data =>
      obtain rfl := Option.some.inj done
      unfold addHandlerWithTimeout
      split
      · obtain ⟨moves, passes⟩ := addHandler_moves memory fd flags fn data es sound
        exact ⟨moves, .by' rfl passes⟩
      · split
        · exact ⟨same, .by' rfl rfl⟩
        · split
          · exact ⟨same, .by' rfl rfl⟩
          · refine ⟨addFirst_moves es memory _ rfl (fun timer => by cases timer) sound, .by' rfl ?_⟩
            cases memory <;> rfl
  | addTimerHandler memory now t fn data =>
      obtain rfl := Option.some.inj done
      unfold addTimerHandler
      split
      · exact ⟨same, .by' rfl rfl⟩
      · refine ⟨addFirst_moves es memory _ rfl (fun _ => ⟨rfl, rfl⟩) sound, .by' rfl ?_⟩
        cases memory <;> rfl
  | delHandler x =>
      obtain ⟨after, deletes, moves, passes, _⟩ := delHandler_moves es x sound
      obtain rfl := Option.some.inj (deletes.symm.trans done)
      exact ⟨moves, .by' rfl passes⟩
  | setCallbackAndData x fn data =>
      obtain ⟨moves, passes⟩ := updated_moves es es' x (fun h => { h with fn := fn, data := data }) (fun _ => rfl)
        (fun _ => rfl) sound done
      exact ⟨moves, .by' rfl passes⟩
  | changeTimeout now x t =>
      simp only [calls, changeTimeout] at done
      split at done
      · obtain rfl := Option.some.inj done
        exact ⟨same, .by' rfl rfl⟩
      · obtain ⟨moves, passes⟩ := updated_moves es es' x (fun h => { h with tmout := absolute now t }) (fun _ => rfl)
          (fun _ => rfl)
          sound done
        exact ⟨moves, .by' rfl passes⟩
  | destroySelector =>
      simp only [calls, destroySelector] at done
      split at done
      next nested =>
        obtain rfl := Option.some.inj done
        refine ⟨⟨⟨?_, sound.nest, fun calm => Bool.noConfusion calm, fun idle => ?_, sound.kinds, sound.walks,
          sound.apart,
          sound.past⟩, ⟨Nat.le_refl _, Nat.le_refl _, fun _ _ seen found => ⟨seen, found, id, rfl, rfl, rfl⟩⟩,
          extends_same _ _ rfl rfl⟩, .by' rfl rfl⟩
        · refine holds_same _ _ _ ?_ ?_ ?_ sound.holds <;> rfl
        · have none' : es.passes = [] := idle
          exact (nested (by rw [sound.nest, none']; rfl)).elim
      next outermost =>
        have nest : es.nestLevel = 0 := Decidable.not_not.mp outermost
        have idle : es.passes = [] := List.length_eq_zero_iff.mp (sound.nest ▸ nest)
        obtain ⟨after, destroys, moves, passes⟩ :=
          destroyNow_moves es sound.holds idle nest (sound.idle idle) sound.kinds
        obtain rfl := Option.some.inj (destroys.symm.trans done)
        exact ⟨moves, .by' rfl (passes.trans idle.symm)⟩
  | handleEvent poll =>
      obtain rfl := Option.some.inj done
      exact ⟨enter_moves es poll sound, .enters poll rfl rfl⟩
  | advance => cases done

theorem step_moves (es es' : EventSelector φ δ) (move : Move φ δ) (sound : Sound es) (taken : step es move = some es') :
    Moves es es' ∧ Took es move es' := by
  unfold step at taken
  split at taken
  · cases taken
  · split at taken
    · cases top : es.passes with
      | nil => simp [advance, top] at taken
      | cons pass rest =>
          obtain ⟨after, advances, moves, how⟩ := advance_moves es pass rest top sound
          obtain rfl := Option.some.inj (advances.symm.trans taken)
          exact ⟨moves, .advances rfl pass rest top how⟩
    · split at taken
      · exact calls_moves es es' move sound taken
      · cases taken

end ZyAgf.Pppoe.EventLoop
