import Mathlib.Data.List.Basic
import ZyAgf.Library.Store

set_option autoImplicit false

namespace ZyAgf

universe u

variable {P : Type u}

-- Intrusive lists live in the link fields of a store. Both predicates say which
-- elements a head pointer leads to, and that the list ends there.
def Chain (next : P → Option P) : Option P → List P → Prop
  | head, [] => head = none
  | head, x :: rest => head = some x ∧ Chain next (next x) rest

def Linked (next prev : P → Option P) : Option P → Option P → List P → Prop
  | _, head, [] => head = none
  | back, head, x :: rest => head = some x ∧ prev x = back ∧ Linked next prev (some x) (next x) rest

-- A search that follows the links. The fuel bounds the walk, since a store whose
-- links run in a circle has no end to reach.
def walk (next : P → Option P) (wanted : P → Bool) : Nat → Option P → Option P
  | 0, _ => none
  | _ + 1, none => none
  | fuel + 1, some x => if wanted x then some x else walk next wanted fuel (next x)

def collect (next : P → Option P) : Nat → Option P → List P
  | 0, _ => []
  | _ + 1, none => []
  | fuel + 1, some x => x :: collect next fuel (next x)

theorem chain_of_linked (next prev : P → Option P) (back head : Option P) (xs : List P)
    (linked : Linked next prev back head xs) : Chain next head xs := by
  induction xs generalizing back head with
  | nil => exact linked
  | cons x rest ih => exact ⟨linked.1, ih (some x) (next x) linked.2.2⟩

theorem walk_chain (next : P → Option P) (wanted : P → Bool) (fuel : Nat) (head : Option P) (xs : List P)
    (chain : Chain next head xs) (enough : xs.length ≤ fuel) : walk next wanted fuel head = xs.find? wanted := by
  induction xs generalizing fuel head with
  | nil =>
      rw [show head = none from chain]
      cases fuel <;> rfl
  | cons x rest ih =>
      obtain ⟨here, tail⟩ := chain
      cases fuel with
      | zero => simp at enough
      | succ fuel =>
          have shorter : rest.length ≤ fuel := by simpa using enough
          rw [here, walk, List.find?_cons, ih fuel (next x) tail shorter]
          cases wanted x <;> rfl

theorem collect_chain (next : P → Option P) (fuel : Nat) (head : Option P) (xs : List P)
    (chain : Chain next head xs) (enough : xs.length ≤ fuel) : collect next fuel head = xs := by
  induction xs generalizing fuel head with
  | nil =>
      rw [show head = none from chain]
      cases fuel <;> rfl
  | cons x rest ih =>
      obtain ⟨here, tail⟩ := chain
      cases fuel with
      | zero => simp at enough
      | succ fuel =>
          rw [here, collect, ih fuel (next x) tail (by simpa using enough)]

theorem chain_head (next : P → Option P) (head : Option P) (xs : List P) (chain : Chain next head xs) :
    head = xs.head? := by
  cases xs with
  | nil => exact chain
  | cons x rest => exact chain.1

theorem chain_next (next : P → Option P) (head : Option P) (before rest : List P) (x : P)
    (chain : Chain next head (before ++ x :: rest)) : next x = rest.head? := by
  induction before generalizing head with
  | nil => exact chain_head next (next x) rest chain.2
  | cons y before ih => exact ih (next y) chain.2

theorem chain_congr (next next' : P → Option P) (head : Option P) (xs : List P)
    (same : ∀ x ∈ xs, next' x = next x) (chain : Chain next head xs) : Chain next' head xs := by
  induction xs generalizing head with
  | nil => exact chain
  | cons x rest ih =>
      refine ⟨chain.1, ?_⟩
      rw [same x List.mem_cons_self]
      exact ih (next x) (fun y member => same y (List.mem_cons_of_mem x member)) chain.2

theorem linked_congr (next prev next' prev' : P → Option P) (back head : Option P) (xs : List P)
    (sameNext : ∀ x ∈ xs, next' x = next x) (samePrev : ∀ x ∈ xs, prev' x = prev x)
    (linked : Linked next prev back head xs) : Linked next' prev' back head xs := by
  induction xs generalizing back head with
  | nil => exact linked
  | cons x rest ih =>
      refine ⟨linked.1, ?_, ?_⟩
      · rw [samePrev x List.mem_cons_self]
        exact linked.2.1
      · rw [sameNext x List.mem_cons_self]
        exact ih (some x) (next x) (fun y member => sameNext y (List.mem_cons_of_mem x member))
          (fun y member => samePrev y (List.mem_cons_of_mem x member)) linked.2.2

theorem linked_next (next prev : P → Option P) (back head : Option P) (xs : List P)
    (linked : Linked next prev back head xs) (x : P) (member : x ∈ xs) :
    next x = none ∨ ∃ y ∈ xs, next x = some y := by
  induction xs generalizing back head with
  | nil => cases member
  | cons first rest ih =>
      rcases List.mem_cons.mp member with rfl | inside
      · cases rest with
        | nil => exact .inl linked.2.2
        | cons second tail => exact .inr ⟨second, by simp, linked.2.2.1⟩
      · rcases ih (some first) (next first) linked.2.2 inside with last | ⟨y, found, link⟩
        · exact .inl last
        · exact .inr ⟨y, List.mem_cons_of_mem first found, link⟩

theorem linked_prev (next prev : P → Option P) (back head : Option P) (xs : List P)
    (linked : Linked next prev back head xs) (x : P) (member : x ∈ xs) :
    (head = some x ∧ prev x = back) ∨ ∃ y ∈ xs, prev x = some y := by
  induction xs generalizing back head with
  | nil => cases member
  | cons first rest ih =>
      rcases List.mem_cons.mp member with rfl | inside
      · exact .inl ⟨linked.1, linked.2.1⟩
      · rcases ih (some first) (next first) linked.2.2 inside with ⟨_, link⟩ | ⟨y, found, link⟩
        · exact .inr ⟨first, List.mem_cons_self, link⟩
        · exact .inr ⟨y, List.mem_cons_of_mem first found, link⟩

theorem chain_push (next next' : P → Option P) (head : Option P) (xs : List P) (x : P) (linked : next' x = head)
    (kept : ∀ y ∈ xs, next' y = next y) (chain : Chain next head xs) : Chain next' (some x) (x :: xs) := by
  refine ⟨rfl, ?_⟩
  rw [linked]
  exact chain_congr next next' head xs kept chain

theorem linked_push (next prev next' prev' : P → Option P) (head : Option P) (xs : List P) (x : P)
    (distinct : xs.Nodup) (nextHere : next' x = head) (prevHere : prev' x = none)
    (nextKept : ∀ y ∈ xs, next' y = next y) (prevFirst : ∀ y, head = some y → prev' y = some x)
    (prevKept : ∀ y ∈ xs, head ≠ some y → prev' y = prev y) (linked : Linked next prev none head xs) :
    Linked next' prev' none (some x) (x :: xs) := by
  refine ⟨rfl, prevHere, ?_⟩
  rw [nextHere]
  cases xs with
  | nil => exact linked
  | cons first rest =>
      obtain ⟨here, _, tail⟩ := linked
      have later : ∀ y ∈ rest, head ≠ some y := by
        intro y member same
        rw [here] at same
        exact (List.nodup_cons.mp distinct).1 (Option.some.inj same ▸ member)
      refine ⟨here, prevFirst first here, ?_⟩
      rw [nextKept first List.mem_cons_self]
      exact linked_congr next prev next' prev' (some first) (next first) rest
        (fun y member => nextKept y (List.mem_cons_of_mem first member))
        (fun y member => prevKept y (List.mem_cons_of_mem first member) (later y member)) tail

-- A walk along a singly linked list that stops at an element and remembers the
-- one before it.
def before [DecidableEq P] (next : P → Option P) : Nat → Option P → Option P → P → Option (Option P)
  | 0, _, _, _ => none
  | _ + 1, none, _, _ => none
  | fuel + 1, some cur, prev, x => if cur = x then some prev else before next fuel (next cur) (some cur) x

theorem before_chain [DecidableEq P] (next : P → Option P) (fuel : Nat) (head prev : Option P) (front rest : List P)
    (x : P) (fresh : x ∉ front) (chain : Chain next head (front ++ x :: rest)) (enough : front.length < fuel) :
    before next fuel head prev x = some (front.getLast?.or prev) := by
  induction front generalizing fuel head prev with
  | nil =>
      cases fuel with
      | zero => cases enough
      | succ fuel =>
          rw [chain.1, before, if_pos rfl]
          rfl
  | cons y front ih =>
      cases fuel with
      | zero => cases enough
      | succ fuel =>
          have other : y ≠ x := fun same => fresh (same ▸ List.mem_cons_self)
          rw [chain.1, before, if_neg other,
            ih fuel (next y) (some y) (fun inside => fresh (List.mem_cons_of_mem y inside))
            chain.2 (Nat.lt_of_succ_lt_succ enough)]
          cases front <;> rfl

theorem before_absent [DecidableEq P] (next : P → Option P) (fuel : Nat) (head prev : Option P) (xs : List P) (x : P)
    (absent : x ∉ xs) (chain : Chain next head xs) : before next fuel head prev x = none := by
  induction xs generalizing fuel head prev with
  | nil =>
      rw [show head = none from chain]
      cases fuel <;> rfl
  | cons y rest ih =>
      cases fuel with
      | zero => rfl
      | succ fuel =>
          have other : y ≠ x := fun same => absent (same ▸ List.mem_cons_self)
          rw [chain.1, before, if_neg other]
          exact ih fuel (next y) (some y) (fun inside => absent (List.mem_cons_of_mem y inside)) chain.2

theorem chain_remove (next next' : P → Option P) (head : Option P) (front rest : List P) (x : P)
    (distinct : (front ++ x :: rest).Nodup) (patched : ∀ y, front.getLast? = some y → next' y = next x)
    (kept : ∀ y ∈ front ++ rest, front.getLast? ≠ some y → next' y = next y)
    (chain : Chain next head (front ++ x :: rest)) :
    Chain next' (if front.getLast? = none then next x else head) (front ++ rest) := by
  induction front generalizing head with
  | nil => exact chain_congr next next' (next x) rest (fun y member => kept y member (by simp)) chain.2
  | cons y front ih =>
      obtain ⟨here, tail⟩ := chain
      rw [if_neg (by simp)]
      refine ⟨here, ?_⟩
      cases front with
      | nil =>
          rw [patched y rfl]
          have single := (List.nodup_cons.mp distinct).1
          refine chain_congr next next' (next x) rest (fun z member => kept z (List.mem_cons_of_mem y member) ?_) tail.2
          intro same
          have repeats : y = z := Option.some.inj same
          exact single (repeats ▸ List.mem_cons_of_mem x member)
      | cons z front =>
          have single := (List.nodup_cons.mp distinct).1
          have notLast : (y :: z :: front).getLast? ≠ some y := by
            intro same
            have member : y ∈ z :: front := List.mem_of_getLast? same
            exact single (List.mem_append_left _ member)
          rw [kept y List.mem_cons_self notLast]
          have inner := ih (next y) (List.nodup_cons.mp distinct).2 (fun w last => patched w last)
            (fun w member last => kept w (List.mem_cons_of_mem y member) last) tail
          rw [if_neg (by simp)] at inner
          exact inner

theorem chain_append (next next' : P → Option P) (head : Option P) (xs : List P) (x : P) (fresh : x ∉ xs)
    (distinct : xs.Nodup) (ends : next' x = none) (patched : ∀ y, xs.getLast? = some y → next' y = some x)
    (kept : ∀ y ∈ xs, xs.getLast? ≠ some y → next' y = next y) (chain : Chain next head xs) :
    Chain next' (if xs.getLast? = none then some x else head) (xs ++ [x]) := by
  induction xs generalizing head with
  | nil => exact ⟨rfl, ends⟩
  | cons y rest ih =>
      obtain ⟨here, tail⟩ := chain
      rw [if_neg (by simp)]
      refine ⟨here, ?_⟩
      cases rest with
      | nil =>
          rw [patched y rfl]
          exact ⟨rfl, ends⟩
      | cons z rest =>
          have single := (List.nodup_cons.mp distinct).1
          have notLast : (y :: z :: rest).getLast? ≠ some y := fun same => single (List.mem_of_getLast? same)
          rw [kept y List.mem_cons_self notLast]
          have inner := ih (next y) (fun inside => fresh (List.mem_cons_of_mem y inside))
            (List.nodup_cons.mp distinct).2
            (fun w last => patched w last) (fun w member last => kept w (List.mem_cons_of_mem y member) last) tail
          rw [if_neg (by simp)] at inner
          exact inner

section Updates

variable [DecidableEq P]

def setLink (links : P → Option P) (at? : Option P) (value : Option P) : P → Option P :=
  match at? with
  | some x => write links x value
  | none => links

theorem setLink_elsewhere (links : P → Option P) (at? value : Option P) (x : P) (other : at? ≠ some x) :
    setLink links at? value x = links x := by
  cases at? with
  | none => rfl
  | some y =>
      have different : x ≠ y := fun same => other (by rw [same])
      exact write_elsewhere links y x value different

theorem setLink_apply (links : P → Option P) (at? value : Option P) (x : P) :
    setLink links at? value x = if at? = some x then value else links x := by
  by_cases here : at? = some x
  · rw [if_pos here, here]
    exact write_here links x value
  · rw [if_neg here]
    exact setLink_elsewhere links at? value x here

theorem setLink_here (links : P → Option P) (value : Option P) (x : P) :
    setLink links (some x) value x = value :=
  write_here links x value

theorem linked_erase (next prev : P → Option P) (back head : Option P) (xs : List P) (x : P)
    (distinct : xs.Nodup) (outside : ∀ y ∈ xs, back ≠ some y) (member : x ∈ xs)
    (linked : Linked next prev back head xs) :
    Linked (setLink next (prev x) (next x)) (setLink prev (next x) (prev x)) back
      (if head = some x then next x else head) (xs.erase x) := by
  induction xs generalizing back head with
  | nil => cases member
  | cons first rest ih =>
      obtain ⟨here, behind, tail⟩ := linked
      obtain ⟨single, restDistinct⟩ := List.nodup_cons.mp distinct
      by_cases found : first = x
      · subst found
        rw [if_pos here, List.erase_cons_head, behind]
        cases rest with
        | nil => exact tail
        | cons second after =>
            obtain ⟨link, _, more⟩ := tail
            have apart : ∀ y ∈ second :: after, back ≠ some y := fun y inside =>
              outside y (List.mem_cons_of_mem first inside)
            have later : ∀ y ∈ after, next first ≠ some y := by
              intro y inside same
              rw [link] at same
              exact (List.nodup_cons.mp restDistinct).1 (Option.some.inj same ▸ inside)
            refine ⟨link, ?_, ?_⟩
            · rw [link, setLink_here]
            · rw [setLink_elsewhere next back (next first) second (apart second List.mem_cons_self)]
              refine linked_congr next prev _ _ (some second) (next second) after ?_ ?_ more
              · intro y inside
                exact setLink_elsewhere next back (next first) y (apart y (List.mem_cons_of_mem second inside))
              · intro y inside
                exact setLink_elsewhere prev (next first) back y (later y inside)
      · have inside : x ∈ rest := by
          rcases List.mem_cons.mp member with same | deeper
          · exact absurd same.symm found
          · exact deeper
        have notHead : head ≠ some x := by
          rw [here]
          exact fun same => found (Option.some.inj same)
        have away : ∀ y ∈ rest, some first ≠ some y := fun y deeper same =>
          single (Option.some.inj same ▸ deeper)
        rw [if_neg notHead, List.erase_cons_tail (by simpa using found)]
        have patched : setLink next (prev x) (next x) first = if next first = some x then next x else next first := by
          rcases linked_prev next prev (some first)
            (next first) rest tail x inside with ⟨link, back'⟩ | ⟨y, deeper, link⟩
          · rw [back', setLink_here, if_pos link]
          · have other : prev x ≠ some first := by
              rw [link]
              exact fun same => away y deeper same.symm
            rw [setLink_elsewhere next (prev x) (next x) first other]
            by_cases link' : next first = some x
            · cases rest with
              | nil => cases inside
              | cons second after =>
                  have same : second = x := Option.some.inj (tail.1.symm.trans link')
                  rw [← same, tail.2.1] at other
                  exact absurd rfl other
            · rw [if_neg link']
        refine ⟨here, ?_, ?_⟩
        · rw [setLink_elsewhere prev (next x) (prev x) first, behind]
          rcases linked_next next prev (some first) (next first) rest tail x inside with last | ⟨y, deeper, link⟩
          · rw [last]
            exact Option.some_ne_none first |>.symm
          · rw [link]
            exact fun same => away y deeper same.symm
        · rw [patched]
          exact ih (some first) (next first) restDistinct away inside tail

theorem linked_unlink (next prev next' prev' : P → Option P) (head : Option P) (xs : List P) (x : P)
    (distinct : xs.Nodup) (member : x ∈ xs)
    (nextAfter : ∀ y ∈ xs, y ≠ x → next' y = if prev x = some y then next x else next y)
    (prevAfter : ∀ y ∈ xs, y ≠ x → prev' y = if next x = some y then prev x else prev y)
    (linked : Linked next prev none head xs) :
    Linked next' prev' none (if prev x = none then next x else head) (xs.erase x) := by
  have erased := linked_erase next prev none head xs x distinct (by simp) member linked
  have heads : (head = some x) ↔ prev x = none := by
    constructor
    · intro first
      cases xs with
      | nil => cases member
      | cons y rest =>
          have same : y = x := Option.some.inj (linked.1.symm.trans first)
          rw [← same]
          exact linked.2.1
    · intro none'
      rcases linked_prev next prev none head xs linked x member with ⟨first, _⟩ | ⟨y, _, link⟩
      · exact first
      · rw [none'] at link
        cases link
  simp only [heads] at erased
  refine linked_congr _ _ next' prev' none _ (xs.erase x) ?_ ?_ erased
  · intro y inside
    obtain ⟨different, found⟩ := (distinct.mem_erase_iff).mp inside
    rw [nextAfter y found different, setLink_apply]
  · intro y inside
    obtain ⟨different, found⟩ := (distinct.mem_erase_iff).mp inside
    rw [prevAfter y found different, setLink_apply]

-- Taking an element off a list that is searched by looking one link ahead: the
-- walk stops at the element before it, or at the end.
def unlinkAhead (next : P → Option P) (fuel : Nat) (head : Option P) (x : P) : Option P × (P → Option P) × Bool :=
  match head with
  | none => (none, next, false)
  | some p =>
      if p = x then (next x, next, true)
      else
        match walk next (fun p => next p == none || next p == some x) fuel (some p) with
        | none => (some p, next, false)
        | some p' => if next p' = none then (some p, next, false) else (some p, write next p' (next x), true)

theorem find_before (next : P → Option P) (head : Option P) (front rest : List P) (x q : P) (fresh : x ∉ front)
    (last : front.getLast? = some q) (chain : Chain next head (front ++ x :: rest)) :
    (front ++ x :: rest).find? (fun p => next p == none || next p == some x) = some q ∧ next q = some x := by
  induction front generalizing head with
  | nil => cases last
  | cons y front ih =>
      cases front with
      | nil =>
          obtain rfl : y = q := Option.some.inj last
          have link : next y = some x := chain.2.1
          exact ⟨by simp [link], link⟩
      | cons z front =>
          have link : next y = some z := chain.2.1
          have other : z ≠ x := fun same => fresh (by simp [same])
          obtain ⟨found, linked⟩ := ih (next y) (fun inside => fresh (List.mem_cons_of_mem y inside)) last chain.2
          refine ⟨?_, linked⟩
          have passed : (next y == none || next y == some x) = false := by simp [link, other]
          rw [List.cons_append, List.find?_cons, passed]
          exact found

theorem find_end (next : P → Option P) (head : Option P) (xs : List P) (x q : P) (absent : x ∉ xs)
    (last : xs.getLast? = some q) (chain : Chain next head xs) :
    xs.find? (fun p => next p == none || next p == some x) = some q ∧ next q = none := by
  induction xs generalizing head with
  | nil => cases last
  | cons y rest ih =>
      cases rest with
      | nil =>
          obtain rfl : y = q := Option.some.inj last
          have link : next y = none := chain.2
          exact ⟨by simp [link], link⟩
      | cons z rest =>
          have link : next y = some z := chain.2.1
          have other : z ≠ x := fun same => absent (by simp [same])
          obtain ⟨found, linked⟩ := ih (next y) (fun inside => absent (List.mem_cons_of_mem y inside)) last chain.2
          refine ⟨?_, linked⟩
          have passed : (next y == none || next y == some x) = false := by simp [link, other]
          rw [List.find?_cons, passed]
          exact found

theorem unlinkAhead_chain (next : P → Option P) (fuel : Nat) (head : Option P) (xs : List P) (x : P)
    (distinct : xs.Nodup)
    (enough : xs.length ≤ fuel) (chain : Chain next head xs) :
    Chain (unlinkAhead next fuel head x).2.1 (unlinkAhead next fuel head x).1 (xs.erase x) ∧
      (unlinkAhead next fuel head x).2.2 = decide (x ∈ xs) ∧ ∀ y ∉ xs,
        (unlinkAhead next fuel head x).2.1 y = next y := by
  cases xs with
  | nil =>
      rw [show head = none from chain]
      exact ⟨rfl, rfl, fun _ _ => rfl⟩
  | cons p rest =>
      have walked := walk_chain next (fun p => next p == none || next p == some x) fuel head (p :: rest) chain enough
      obtain rfl : head = some p := chain.1
      unfold unlinkAhead
      by_cases first : p = x
      · subst first
        dsimp only
        rw [if_pos rfl, List.erase_cons_head]
        exact ⟨chain.2, by simp, fun _ _ => rfl⟩
      · dsimp only
        rw [if_neg first, walked]
        obtain ⟨q, last⟩ : ∃ q, (p :: rest).getLast? = some q :=
          ⟨_, List.getLast?_eq_some_getLast (List.cons_ne_nil p rest)⟩
        by_cases member : x ∈ p :: rest
        · obtain ⟨front, back, split, fresh⟩ := List.eq_append_cons_of_mem member
          have some' : ∃ q, front.getLast? = some q := by
            cases front with
            | nil => exact absurd (List.cons.inj split).1 first
            | cons y front => exact ⟨_, List.getLast?_eq_some_getLast (List.cons_ne_nil y front)⟩
          obtain ⟨q, last⟩ := some'
          rw [split] at chain distinct ⊢
          obtain ⟨found, link⟩ := find_before next (some p) front back x q fresh last chain
          have linked : next q ≠ none := by simp [link]
          have ahead : q ∈ front := List.mem_of_getLast? last
          have long : front.getLast? ≠ none := by simp [last]
          have removed := chain_remove next (write next q (next x)) (some p) front back x distinct
            (fun y ends => by rw [Option.some.inj (last.symm.trans ends), write_here])
            (fun y _ inner => write_elsewhere next q y _ fun same => inner (same ▸ last)) chain
          rw [if_neg long] at removed
          rw [found]
          dsimp only
          rw [if_neg linked, List.erase_append_right _ fresh, List.erase_cons_head]
          refine ⟨removed, by simp, fun y outside => write_elsewhere next q y _ fun same => outside ?_⟩
          rw [same]
          exact List.mem_append_left _ ahead
        · obtain ⟨found, ends⟩ := find_end next (some p) (p :: rest) x q member last chain
          rw [found]
          dsimp only
          rw [if_pos ends, List.erase_of_not_mem member]
          exact ⟨chain, by simp [member], fun _ _ => rfl⟩

end Updates

end ZyAgf
