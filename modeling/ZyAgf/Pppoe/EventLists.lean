import Mathlib.Data.List.Nodup
import Mathlib.Data.List.Perm.Subperm
import ZyAgf.Pppoe.EventLoop

set_option autoImplicit false

namespace ZyAgf.Pppoe.EventLoop

variable {φ δ : Type}

-- The handlers of a selector, in the order of its list.
def listed (es : EventSelector φ δ) : List Nat := collect es.nextOf es.fresh es.handlers

def deleted (es : EventSelector φ δ) (x : Nat) : Bool := (es.heap x).any fun eh => eh.flags.deleted

-- The list is one, it has all the handlers there are, and nothing else.
structure Holds (es : EventSelector φ δ) (xs : List Nat) : Prop where
  chain : Chain es.nextOf es.handlers xs
  distinct : xs.Nodup
  live : ∀ x, x ∈ xs ↔ (es.heap x).isSome = true
  old : ∀ x ∈ xs, x < es.fresh

theorem holds_length (es : EventSelector φ δ) (xs : List Nat) (holds : Holds es xs) : xs.length ≤ es.fresh := by
  have inside : xs ⊆ List.range es.fresh := fun x member => List.mem_range.mpr (holds.old x member)
  have bound := (holds.distinct.subperm inside).length_le
  rwa [List.length_range] at bound

theorem listed_eq (es : EventSelector φ δ) (xs : List Nat) (holds : Holds es xs) : listed es = xs :=
  collect_chain es.nextOf es.fresh es.handlers xs holds.chain (holds_length es xs holds)

theorem heap_of_mem (es : EventSelector φ δ) (xs : List Nat) (holds : Holds es xs) (x : Nat) (member : x ∈ xs) :
    ∃ eh, es.heap x = some eh :=
  Option.isSome_iff_exists.mp ((holds.live x).mp member)

theorem mem_of_heap (es : EventSelector φ δ) (xs : List Nat) (holds : Holds es xs) (x : Nat) (eh : EventHandler φ δ)
    (found : es.heap x = some eh) : x ∈ xs :=
  (holds.live x).mpr (by rw [found]; rfl)

theorem next_in_chain (es : EventSelector φ δ) (front rest : List Nat) (x : Nat) (eh : EventHandler φ δ)
    (holds : Holds es (front ++ x :: rest)) (found : es.heap x = some eh) : eh.next = rest.head? := by
  have link := chain_next es.nextOf es.handlers front rest x holds.chain
  simpa [EventSelector.nextOf, found] using link

-- What only touches the heap and the head of the list.
def Rewired (es es' : EventSelector φ δ) : Prop :=
  ∃ heap handlers, es' = { es with heap := heap, handlers := handlers }

theorem rewired_trans (es es' es'' : EventSelector φ δ) (first : Rewired es es') (second : Rewired es' es'') :
    Rewired es es'' := by
  obtain ⟨_, _, rfl⟩ := first
  obtain ⟨heap, handlers, rfl⟩ := second
  exact ⟨heap, handlers, rfl⟩

theorem update_some (x : Nat) (change : EventHandler φ δ → EventHandler φ δ) (es : EventSelector φ δ)
    (eh : EventHandler φ δ)
    (found : es.heap x = some eh) :
    update x change es = some { es with heap := write es.heap x (some (change eh)) } := by
  simp [update, found]

theorem update_holds (x : Nat) (new eh : EventHandler φ δ) (es : EventSelector φ δ) (xs : List Nat)
    (same : new.next = eh.next) (found : es.heap x = some eh) (holds : Holds es xs) :
    Holds { es with heap := write es.heap x (some new) } xs := by
  refine ⟨?_, holds.distinct, fun y => ?_, holds.old⟩
  · refine chain_congr es.nextOf _ es.handlers xs (fun y _ => ?_) holds.chain
    by_cases here : y = x
    · simp [EventSelector.nextOf, here, found, same]
    · simp [EventSelector.nextOf, write_elsewhere _ _ _ _ here]
  · rw [holds.live y]
    by_cases here : y = x
    · simp [here, found]
    · simp [write_elsewhere _ _ _ _ here]

theorem addFirst_holds (eh : EventHandler φ δ) (es : EventSelector φ δ) (xs : List Nat) (holds : Holds es xs) :
    Holds (addFirst true eh es) (es.fresh :: xs) := by
  have new : es.fresh ∉ xs := fun member => Nat.lt_irrefl _ (holds.old es.fresh member)
  refine ⟨?_, List.nodup_cons.mpr ⟨new, holds.distinct⟩, fun y => ?_, fun y member => ?_⟩
  · refine chain_push es.nextOf _ es.handlers xs es.fresh ?_ (fun y member => ?_) holds.chain
    · simp [EventSelector.nextOf, addFirst]
    · have other : y ≠ es.fresh := fun same => new (same ▸ member)
      simp [EventSelector.nextOf, addFirst, write_elsewhere _ _ _ _ other]
  · by_cases here : y = es.fresh
    · simp [addFirst, here]
    · simp [addFirst, here, write_elsewhere _ _ _ _ here, holds.live y]
  · rcases List.mem_cons.mp member with rfl | older
    · exact Nat.lt_succ_self _
    · exact Nat.lt_succ_of_lt (holds.old y older)

theorem unlink_holds (es : EventSelector φ δ) (front rest : List Nat) (x : Nat)
    (holds : Holds es (front ++ x :: rest)) :
    ∃ es', (patch front.getLast? (es.nextOf x) es).bind (destroyHandler x) = some es' ∧ Holds es' (front ++ rest) ∧
      Rewired es es' ∧ es'.heap x = none ∧ ∀ y, y ≠ x →
        (es'.heap y).map EventHandler.flags = (es.heap y).map EventHandler.flags := by
  have inner : x ∈ front ++ x :: rest := by simp
  obtain ⟨eh, found⟩ := heap_of_mem es _ holds x inner
  have apart := List.nodup_middle.mp holds.distinct
  have outside : x ∉ front ++ rest := (List.nodup_cons.mp apart).1
  have kept : (front ++ rest).Nodup := (List.nodup_cons.mp apart).2
  cases last : front.getLast? with
  | none =>
      obtain rfl := List.getLast?_eq_none_iff.mp last
      refine ⟨{ es with handlers := es.nextOf x, heap := write es.heap x none }, by simp [patch, destroyHandler, found], ?_,
        ⟨_, _, rfl⟩, write_here _ _ _, fun y other => by simp [write_elsewhere _ _ _ _ other]⟩
      refine ⟨chain_congr es.nextOf _ (es.nextOf x) rest (fun y member => ?_) holds.chain.2, kept, fun y => ?_,
        fun y member =>
        holds.old y (List.mem_cons_of_mem x member)⟩
      · have other : y ≠ x := fun same => outside (same ▸ member)
        simp [EventSelector.nextOf, write_elsewhere _ _ _ _ other]
      · by_cases here : y = x
        · simpa [here] using outside
        · have before := holds.live y
          simp only [List.nil_append, List.mem_cons, here, false_or] at before
          simpa [write_elsewhere _ _ _ _ here] using before
  | some p =>
      have member : p ∈ front := List.mem_of_getLast? last
      have other : p ≠ x := fun same => outside (same ▸ List.mem_append_left rest member)
      obtain ⟨ph, pfound⟩ := heap_of_mem es _ holds p (List.mem_append_left _ member)
      refine ⟨{ es with heap := write (write es.heap p (some { ph with next := es.nextOf x })) x none },
        by simp [patch, update, destroyHandler, pfound, found, write_elsewhere _ _ _ _ other.symm], ?_, ⟨_, _, rfl⟩,
        write_here _ _ _, fun y different => ?_⟩
      · refine ⟨?_, kept, fun y => ?_, fun y inside => holds.old y ?_⟩
        · have removed := chain_remove es.nextOf
            (EventSelector.nextOf
              { es with heap := write (write es.heap p (some { ph with next := es.nextOf x })) x none })
            es.handlers front rest x holds.distinct (fun y here => ?_) (fun y inside notLast => ?_) holds.chain
          · rw [if_neg (by rw [last]; simp)] at removed
            exact removed
          · obtain rfl := Option.some.inj (last.symm.trans here)
            simp [EventSelector.nextOf, write_elsewhere _ _ _ _ other]
          · have off : y ≠ x := fun same => outside (same ▸ inside)
            have notPrev : y ≠ p := fun same => notLast (same ▸ last)
            simp [EventSelector.nextOf, write_elsewhere _ _ _ _ off, write_elsewhere _ _ _ _ notPrev]
        · have before := holds.live y
          by_cases here : y = x
          · simpa [here] using outside
          · simp only [List.mem_append, List.mem_cons, here, false_or] at before
            by_cases prior : y = p
            · simp [prior, member, write_elsewhere _ _ _ _ other]
            · simpa [write_elsewhere _ _ _ _ here, write_elsewhere _ _ _ _ prior] using before
        · rcases List.mem_append.mp inside with early | late
          · exact List.mem_append_left _ early
          · exact List.mem_append_right _ (List.mem_cons_of_mem x late)
      · by_cases prior : y = p
        · simp [prior, pfound, write_elsewhere _ _ _ _ other]
        · simp [write_elsewhere _ _ _ _ different, write_elsewhere _ _ _ _ prior]

theorem deleted_of_flags (es es' : EventSelector φ δ) (x : Nat)
    (same : (es'.heap x).map EventHandler.flags = (es.heap x).map EventHandler.flags) : deleted es' x = deleted es
    x := by
  unfold deleted
  cases old : es.heap x <;> cases new : es'.heap x <;> simp_all

theorem sweep_holds (fuel : Nat) (front rest : List Nat) (es : EventSelector φ δ) (holds : Holds es (front ++ rest))
    (enough : rest.length < fuel) :
    ∃ es', sweep fuel front.getLast? rest.head? es = some es' ∧
      Holds es' (front ++ rest.filter fun x => !deleted es x) ∧ Rewired es es' ∧
      ∀ y, (y ∈ rest ∧ deleted es y = true → es'.heap y = none) ∧
        (¬ (y ∈ rest ∧ deleted es y = true) →
          (es'.heap y).map EventHandler.flags = (es.heap y).map EventHandler.flags) := by
  induction rest generalizing fuel front es with
  | nil =>
      cases fuel with
      | zero => cases enough
      | succ fuel =>
          refine ⟨es, rfl, holds, ⟨_, _, rfl⟩, fun y => ⟨fun gone => ?_, fun _ => rfl⟩⟩
          exact absurd gone.1 List.not_mem_nil
  | cons x rest ih =>
      cases fuel with
      | zero => cases enough
      | succ fuel =>
          obtain ⟨eh, found⟩ := heap_of_mem es _ holds x (by simp)
          have link := next_in_chain es front rest x eh holds found
          have shorter : rest.length < fuel := Nat.lt_of_succ_lt_succ enough
          have outside := (List.nodup_cons.mp (List.nodup_middle.mp holds.distinct)).1
          have mark : deleted es x = eh.flags.deleted := by simp [deleted, found]
          cases marked : eh.flags.deleted with
          | false =>
              have passed : Holds es ((front ++ [x]) ++ rest) := by simpa using holds
              obtain ⟨es', swept, holds', rewired, flags⟩ := ih fuel (front ++ [x]) es passed shorter
              refine ⟨es', ?_, ?_, rewired, fun y => ?_⟩
              · simpa [sweep, found, marked, link] using swept
              · simpa [mark, marked] using holds'
              · have stays : ¬ (y = x ∧ deleted es y = true) := by
                  rintro ⟨rfl, gone⟩
                  rw [mark, marked] at gone
                  cases gone
                have same : y ∈ x :: rest ∧ deleted es y = true ↔ y ∈ rest ∧ deleted es y = true := by
                  rw [List.mem_cons, or_and_right, or_iff_right stays]
                rw [same]
                exact flags y
          | true =>
              obtain ⟨mid, unlinked, holds₁, rewired₁, freed, flags₁⟩ := unlink_holds es front rest x holds
              have nextOf : es.nextOf x = eh.next := by simp [EventSelector.nextOf, found]
              rw [nextOf, link] at unlinked
              obtain ⟨es', swept, holds', rewired', flags'⟩ := ih fuel front mid holds₁ shorter
              have sameMark : ∀ y, y ≠ x → deleted mid y = deleted es y := fun y other =>
                deleted_of_flags es mid y (flags₁ y other)
              have sameRest : rest.filter (fun y => !deleted mid y) = rest.filter fun y => !deleted es y := by
                refine List.filter_congr fun y member => ?_
                rw [sameMark y fun same => outside (same ▸ List.mem_append_right front member)]
              refine ⟨es', ?_, ?_, rewired_trans _ _ _ rewired₁ rewired', fun y => ?_⟩
              · simp only [List.head?_cons, sweep, found, marked, not_true_eq_false, if_false, link, unlinked,
                  Option.bind_some]
                exact swept
              · simpa [mark, marked, sameRest] using holds'
              · by_cases here : y = x
                · subst here
                  have gone : es'.heap y = none := by
                    have kept := (flags' y).2 fun both => outside (List.mem_append_right front both.1)
                    rw [freed] at kept
                    simpa using kept
                  exact ⟨fun _ => gone, fun stays => (stays ⟨List.mem_cons_self, by rw [mark, marked]⟩).elim⟩
                · have same : y ∈ x :: rest ∧ deleted es y = true ↔ y ∈ rest ∧ deleted mid y = true := by
                    rw [List.mem_cons, or_iff_right here, sameMark y here]
                  rw [same, ← flags₁ y here]
                  exact flags' y

theorem destroyFrom_holds (fuel : Nat) (rest : List Nat) (es : EventSelector φ δ) (head : Option Nat)
    (chain : Chain es.nextOf head rest) (distinct : rest.Nodup) (live : ∀ x, x ∈ rest ↔ (es.heap x).isSome = true)
    (enough : rest.length < fuel) :
    ∃ es', destroyFrom fuel head es = some es' ∧ Holds es' [] ∧ es'.freed = true ∧
      es' = { es with heap := es'.heap, handlers := none, freed := true } := by
  induction rest generalizing fuel es head with
  | nil =>
      cases fuel with
      | zero => cases enough
      | succ fuel =>
          rw [show head = none from chain]
          exact ⟨_, rfl, ⟨rfl, List.nodup_nil, live, fun x member => by cases member⟩, rfl, rfl⟩
  | cons x rest ih =>
      cases fuel with
      | zero => cases enough
      | succ fuel =>
          obtain ⟨here, tail⟩ := chain
          obtain ⟨outside, distinct'⟩ := List.nodup_cons.mp distinct
          obtain ⟨eh, found⟩ := Option.isSome_iff_exists.mp ((live x).mp List.mem_cons_self)
          have tail' : Chain (EventSelector.nextOf { es with heap := write es.heap x none }) (es.nextOf x) rest := by
            refine chain_congr es.nextOf _ _ rest (fun y member => ?_) tail
            have other : y ≠ x := fun same => outside (same ▸ member)
            simp [EventSelector.nextOf, write_elsewhere _ _ _ _ other]
          have live' : ∀ y, y ∈ rest ↔ (write es.heap x none y).isSome = true := by
            intro y
            by_cases same : y = x
            · simpa [same] using outside
            · have before := live y
              simp only [List.mem_cons, same, false_or] at before
              rwa [write_elsewhere _ _ _ _ same]
          obtain ⟨es', freed, holds, done, rest'⟩ :=
            ih fuel { es with heap := write es.heap x none } (es.nextOf x) tail' distinct' live'
              (Nat.lt_of_succ_lt_succ enough)
          refine ⟨es', ?_, holds, done, by rw [rest']⟩
          rw [here]
          simpa [destroyFrom, destroyHandler, found] using freed

theorem destroyNow_holds (es : EventSelector φ δ) (xs : List Nat) (holds : Holds es xs) :
    ∃ es', destroyNow es = some es' ∧ Holds es' [] ∧
      es' = { es with heap := es'.heap, handlers := none, freed := true } := by
  obtain ⟨es', freed, holds', _, whole⟩ := destroyFrom_holds (es.fresh + 1) xs es es.handlers holds.chain holds.distinct
    holds.live (Nat.lt_succ_of_le (holds_length es xs holds))
  exact ⟨es', freed, holds', whole⟩

end ZyAgf.Pppoe.EventLoop
