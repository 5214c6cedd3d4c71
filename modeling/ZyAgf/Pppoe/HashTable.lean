import Mathlib.Data.List.FinRange
import Mathlib.Data.List.Nodup
import Mathlib.Data.List.Perm.Basic
import ZyAgf.Library.Chain
import ZyAgf.Library.Run

set_option autoImplicit false

namespace ZyAgf.Pppoe.Hash

universe u

variable {I : Type u}

def hashtabSize : Nat := 67

-- GET_BUCKET and GET_ITEM go back and forth between an item and the hash_bucket
-- inside it, so that the links are kept between the items themselves.
structure HashTable (I : Type u) where
  buckets : Fin hashtabSize → Option I
  next : I → Option I
  prev : I → Option I
  hashval : I → UInt32
  computeHash : I → UInt32
  compare : I → I → Int
  numEntries : Nat

def bucketOf (hash : UInt32) : Fin hashtabSize :=
  ⟨hash.toNat % hashtabSize, Nat.mod_lt _ (by decide)⟩

-- The links and the word of an item that is in no table are whatever they are.
def hashInit (next prev : I → Option I) (words compute : I → UInt32) (compare : I → I → Int) : HashTable I where
  buckets := fun _ => none
  next := next
  prev := prev
  hashval := words
  computeHash := compute
  compare := compare
  numEntries := 0

def hashInsert [DecidableEq I] (tab : HashTable I) (item : I) : HashTable I :=
  let val := tab.computeHash item
  let head := tab.buckets (bucketOf val)
  { tab with
    hashval := write tab.hashval item val
    next := write tab.next item head
    prev := setLink (write tab.prev item none) head (some item)
    buckets := write tab.buckets (bucketOf val) (some item)
    numEntries := tab.numEntries + 1 }

def hashRemove [DecidableEq I] (tab : HashTable I) (item : I) : HashTable I :=
  let next := setLink tab.next (tab.prev item) (tab.next item)
  { tab with
    next := next
    prev := setLink tab.prev (next item) (tab.prev item)
    buckets :=
      if tab.prev item = none then write tab.buckets (bucketOf (tab.hashval item)) (tab.next item) else tab.buckets
    numEntries := tab.numEntries - 1 }

def same (tab : HashTable I) (item item2 : I) : Bool :=
  tab.compare item item2 == 0

def hashFind (fuel : Nat) (tab : HashTable I) (item : I) : Option I :=
  walk tab.next (same tab item) fuel (tab.buckets (bucketOf (tab.computeHash item)))

def hashFindNext (fuel : Nat) (tab : HashTable I) (item : I) : Option I :=
  walk tab.next (same tab item) fuel (tab.next item)

def bucketsFrom (i : Nat) : List (Fin hashtabSize) :=
  (List.finRange hashtabSize).drop i

def hashNextCursor (tab : HashTable I) : Option I → Option I
  | none => none
  | some b =>
      match tab.next b with
      | some following => some following
      | none => (bucketsFrom ((bucketOf (tab.hashval b)).val + 1)).findSome? tab.buckets

-- Both steps of the iterator give the item and the cursor they leave behind.
def hashStart (tab : HashTable I) : Option I × Option I :=
  match (bucketsFrom 0).findSome? tab.buckets with
  | some b => (some b, hashNextCursor tab (some b))
  | none => (none, none)

def hashNext (tab : HashTable I) : Option I → Option I × Option I
  | none => (none, none)
  | some b => (some b, hashNextCursor tab (some b))

-- The loop of a caller that goes through the table, and may take each item out
-- before it asks for the next.
def visit [DecidableEq I] (removes : I → Bool) : Nat → HashTable I → Option I × Option I → Option (List I × HashTable I)
  | 0, _, _ => none
  | _ + 1, tab, (none, _) => some ([], tab)
  | fuel + 1, tab, (some item, cursor) =>
      let left := if removes item then hashRemove tab item else tab
      (visit removes fuel left (hashNext left cursor)).map fun (items, final) => (item :: items, final)

-- What a table must hold: in each bucket the items present whose hash leads there,
-- those put in last coming first.
def inBucket (tab : HashTable I) (v : Fin hashtabSize) (item : I) : Bool :=
  bucketOf (tab.computeHash item) == v

structure Holds (tab : HashTable I) (present : List I) : Prop where
  distinct : present.Nodup
  linked : ∀ v, Linked tab.next tab.prev none (tab.buckets v) (present.filter (inBucket tab v))
  words : ∀ item ∈ present, tab.hashval item = tab.computeHash item
  counted : tab.numEntries = present.length

theorem init_holds (next prev : I → Option I) (words compute : I → UInt32) (compare : I → I → Int) :
    Holds (hashInit next prev words compute compare) [] :=
  ⟨List.nodup_nil, fun _ => rfl, fun _ member => absurd member List.not_mem_nil, rfl⟩

theorem in_bucket (tab : HashTable I) (v : Fin hashtabSize) (item : I) :
    inBucket tab v item = true ↔ bucketOf (tab.computeHash item) = v := by
  simp [inBucket]

-- A search goes through one bucket, which holds every item with the key's hash.
structure Agree (compute : I → UInt32) (compare : I → I → Int) : Prop where
  equivalence : Equivalence fun item item2 => compare item item2 = 0
  hashes : ∀ item item2, compare item item2 = 0 → compute item = compute item2

theorem bucket_chain (tab : HashTable I) (present : List I) (holds : Holds tab present) (v : Fin hashtabSize) :
    Chain tab.next (tab.buckets v) (present.filter (inBucket tab v)) :=
  chain_of_linked _ _ _ _ _ (holds.linked v)

theorem find_filter (xs : List I) (p q : I → Bool) (within : ∀ x, q x = true → p x = true) :
    (xs.filter p).find? q = xs.find? q := by
  rw [List.find?_filter]
  congr 1
  funext x
  cases matched : q x with
  | false => simp
  | true => simp [within x matched]

theorem same_bucket (tab : HashTable I) (agree : Agree tab.computeHash tab.compare) (key item : I)
    (equal : same tab key item = true) : inBucket tab (bucketOf (tab.computeHash key)) item = true := by
  have zero : tab.compare key item = 0 := by simpa [same] using equal
  rw [in_bucket, agree.hashes key item zero]

theorem find_newest (tab : HashTable I) (present : List I) (key : I) (fuel : Nat) (holds : Holds tab present)
    (agree : Agree tab.computeHash tab.compare) (enough : present.length ≤ fuel) :
    hashFind fuel tab key = present.find? (same tab key) := by
  have chain := bucket_chain tab present holds (bucketOf (tab.computeHash key))
  have short := (List.length_filter_le (inBucket tab (bucketOf (tab.computeHash key))) present).trans enough
  rw [hashFind, walk_chain _ _ _ _ _ chain short]
  exact find_filter present _ _ (same_bucket tab agree key)

theorem same_trans (tab : HashTable I) (agree : Agree tab.computeHash tab.compare) (key item : I)
    (equal : same tab key item = true) : same tab item = same tab key := by
  have zero : tab.compare key item = 0 := by simpa [same] using equal
  funext other
  rw [Bool.eq_iff_iff]
  simp only [same, beq_iff_eq]
  exact ⟨fun rest => agree.equivalence.trans zero rest,
    fun rest => agree.equivalence.trans (agree.equivalence.symm zero) rest⟩

theorem equal_chain (next : I → Option I) (matching : I → Bool) (find : I → Option I) (fuel : Nat) (head : Option I)
    (xs : List I) (chain : Chain next head xs) (enough : xs.length ≤ fuel)
    (finds : ∀ x rest, Chain next (next x) rest → rest.length ≤ fuel → matching x = true →
      find x = rest.find? matching) : Chain find (xs.find? matching) (xs.filter matching) := by
  induction xs generalizing head with
  | nil => rfl
  | cons x rest ih =>
      have shorter : rest.length ≤ fuel := (Nat.le_succ _).trans enough
      have later := ih (next x) chain.2 shorter
      rw [List.find?_cons, List.filter_cons]
      cases matched : matching x with
      | false => exact later
      | true =>
          refine ⟨rfl, ?_⟩
          rw [finds x rest chain.2 shorter matched]
          exact later

theorem find_next_rest (tab : HashTable I) (present : List I) (key : I) (fuel : Nat) (holds : Holds tab present)
    (agree : Agree tab.computeHash tab.compare) (enough : present.length ≤ fuel) :
    Chain (hashFindNext fuel tab) (hashFind fuel tab key) (present.filter (same tab key)) := by
  have chain := bucket_chain tab present holds (bucketOf (tab.computeHash key))
  have short := (List.length_filter_le (inBucket tab (bucketOf (tab.computeHash key))) present).trans enough
  have all : (present.filter (inBucket tab (bucketOf (tab.computeHash key)))).filter (same tab key) =
      present.filter (same tab key) := by
    rw [List.filter_filter]
    refine List.filter_congr fun item _ => ?_
    cases matched : same tab key item with
    | false => rfl
    | true => rw [same_bucket tab agree key item matched, Bool.and_true]
  rw [← all, hashFind, walk_chain _ _ _ _ _ chain short]
  refine equal_chain tab.next (same tab key) _ fuel _ _ chain short fun item rest tail length equal => ?_
  rw [hashFindNext, walk_chain _ _ _ _ _ tail length, same_trans tab agree key item equal]

-- The order in which the iterator goes: bucket by bucket.
def order (tab : HashTable I) (present : List I) : List I :=
  (bucketsFrom 0).flatMap fun v => present.filter (inBucket tab v)

theorem order_nodup (tab : HashTable I) (present : List I) (distinct : present.Nodup) : (order tab present).Nodup := by
  refine List.nodup_flatMap.mpr ⟨fun v _ => distinct.filter _, ?_⟩
  refine (List.nodup_finRange hashtabSize).imp fun {v w} different item inV inW => ?_
  have first := (in_bucket tab v item).mp (List.mem_filter.mp inV).2
  have second := (in_bucket tab w item).mp (List.mem_filter.mp inW).2
  exact different (first.symm.trans second)

theorem order_perm (tab : HashTable I) (present : List I) (distinct : present.Nodup) :
    (order tab present).Perm present := by
  refine (List.perm_ext_iff_of_nodup (order_nodup tab present distinct) distinct).mpr fun item => ?_
  constructor
  · intro member
    obtain ⟨v, _, inside⟩ := List.mem_flatMap.mp member
    exact List.mem_of_mem_filter inside
  · intro member
    exact List.mem_flatMap.mpr ⟨bucketOf (tab.computeHash item), List.mem_finRange _,
      List.mem_filter.mpr ⟨member, (in_bucket tab _ item).mpr rfl⟩⟩

theorem scan_first (tab : HashTable I) (present : List I) (holds : Holds tab present) (i : Nat) :
    (bucketsFrom i).findSome? tab.buckets =
      ((bucketsFrom i).flatMap fun v => present.filter (inBucket tab v)).head? := by
  rw [List.head?_flatMap]
  congr 1
  funext v
  exact chain_head _ _ _ (bucket_chain tab present holds v)

theorem buckets_split (v : Fin hashtabSize) :
    bucketsFrom 0 = (List.finRange hashtabSize).take v.val ++ v :: bucketsFrom (v.val + 1) := by
  have within : v.val < (List.finRange hashtabSize).length := by rw [List.length_finRange]; exact v.isLt
  have here : (List.finRange hashtabSize)[v.val] = v := by simp
  have cut := List.drop_eq_getElem_cons within
  rw [here] at cut
  exact (List.take_append_drop v.val (List.finRange hashtabSize)).symm.trans (by rw [cut]; rfl)

theorem cursor_next (tab : HashTable I) (present : List I) (holds : Holds tab present) (front rest : List I) (item : I)
    (split : order tab present = front ++ item :: rest) : hashNextCursor tab (some item) = rest.head? := by
  have ordered := order_nodup tab present holds.distinct
  have member : item ∈ present := by
    refine (order_perm tab present holds.distinct).mem_iff.mp ?_
    rw [split]
    exact List.mem_append_right _ List.mem_cons_self
  have mine : item ∈ present.filter (inBucket tab (bucketOf (tab.computeHash item))) :=
    List.mem_filter.mpr ⟨member, (in_bucket tab _ item).mpr rfl⟩
  obtain ⟨earlier, later, cut⟩ := List.append_of_mem mine
  have link : tab.next item = later.head? := by
    have chain := bucket_chain tab present holds (bucketOf (tab.computeHash item))
    rw [cut] at chain
    exact chain_next _ _ _ _ _ chain
  have parts : front ++ item :: rest = (((List.finRange hashtabSize).take (bucketOf (tab.computeHash item)).val).flatMap
      (fun v => present.filter (inBucket tab v)) ++ earlier) ++ item :: (later ++
        (bucketsFrom ((bucketOf (tab.computeHash item)).val + 1)).flatMap fun v =>
          present.filter (inBucket tab v)) := by
    rw [← split, order, buckets_split (bucketOf (tab.computeHash item)), List.flatMap_append, List.flatMap_cons, cut]
    simp only [List.append_assoc, List.cons_append]
  have single : item ∉ front ∧ item ∉ rest := by
    rw [split] at ordered
    have apart := List.nodup_middle.mp ordered
    have outside := (List.nodup_cons.mp apart).1
    exact ⟨fun inside => outside (List.mem_append_left _ inside), fun inside =>
      outside (List.mem_append_right _ inside)⟩
  obtain ⟨_, _, tail⟩ := (List.append_cons_inj_of_notMem single.1 single.2).mp parts
  rw [tail, hashNextCursor, link]
  cases later with
  | cons following _ => rfl
  | nil =>
      rw [holds.words item member]
      exact scan_first tab present holds _

theorem start_first (tab : HashTable I) (present : List I) (holds : Holds tab present) :
    hashStart tab = ((order tab present).head?, (order tab present).tail.head?) := by
  unfold hashStart
  rw [scan_first tab present holds 0]
  change (match (order tab present).head? with | some b => _ | none => _) = _
  cases ordered : order tab present with
  | nil => rfl
  | cons item rest =>
      rw [List.head?_cons]
      dsimp only
      rw [cursor_next tab present holds [] rest item ordered]
      rfl

section Moves

variable [DecidableEq I]

theorem insert_holds (tab : HashTable I) (present : List I) (item : I) (holds : Holds tab present)
    (fresh : item ∉ present) : Holds (hashInsert tab item) (item :: present) := by
  have others : ∀ y ∈ present, y ≠ item := fun y member same => fresh (same ▸ member)
  refine ⟨List.nodup_cons.mpr ⟨fresh, holds.distinct⟩, ?_, ?_, ?_⟩
  · intro v
    have mine := holds.linked v
    have distinct : (present.filter (inBucket tab v)).Nodup := holds.distinct.filter _
    have keys : inBucket (hashInsert tab item) v = inBucket tab v := rfl
    rw [keys, List.filter_cons]
    by_cases here : bucketOf (tab.computeHash item) = v
    · subst here
      rw [if_pos ((in_bucket tab _ item).mpr rfl)]
      have head : (hashInsert tab item).buckets (bucketOf (tab.computeHash item)) = some item := write_here _ _ _
      rw [head]
      refine linked_push tab.next tab.prev _ _ _ _ item distinct (write_here _ _ _) ?_ ?_ ?_ ?_ mine
      · change setLink (write tab.prev item none) _ (some item) item = none
        rw [setLink_elsewhere, write_here]
        intro first
        have leads := chain_head _ _ _ (chain_of_linked _ _ _ _ _ mine)
        have member := List.mem_of_head? (leads.symm.trans first)
        exact fresh (List.mem_of_mem_filter member)
      · intro y member
        exact write_elsewhere _ _ _ _ (others y (List.mem_of_mem_filter member))
      · intro y first
        change setLink (write tab.prev item none) _ (some item) y = some item
        rw [first, setLink_here]
      · intro y member other
        change setLink (write tab.prev item none) _ (some item) y = tab.prev y
        rw [setLink_elsewhere _ _ _ _ other, write_elsewhere _ _ _ _ (others y (List.mem_of_mem_filter member))]
    · rw [if_neg (fun found => here ((in_bucket tab v item).mp found))]
      have head : (hashInsert tab item).buckets v = tab.buckets v := write_elsewhere _ _ _ _ (Ne.symm here)
      rw [head]
      refine linked_congr tab.next tab.prev _ _ none _ _ ?_ ?_ mine
      · intro y member
        exact write_elsewhere _ _ _ _ (others y (List.mem_of_mem_filter member))
      · intro y member
        change setLink (write tab.prev item none) _ (some item) y = tab.prev y
        rw [setLink_elsewhere, write_elsewhere _ _ _ _ (others y (List.mem_of_mem_filter member))]
        intro first
        have leads := chain_head _ _ _ (chain_of_linked _ _ _ _ _ (holds.linked (bucketOf (tab.computeHash item))))
        have elsewhere := List.mem_of_head? (leads.symm.trans first)
        have its := (in_bucket tab _ y).mp (List.mem_filter.mp elsewhere).2
        have mine' := (in_bucket tab _ y).mp (List.mem_filter.mp member).2
        exact here (its.symm.trans mine')
  · intro y member
    change write tab.hashval item (tab.computeHash item) y = tab.computeHash y
    rcases List.mem_cons.mp member with rfl | inside
    · exact write_here _ _ _
    · rw [write_elsewhere _ _ _ _ (others y inside)]
      exact holds.words y inside
  · exact congrArg (· + 1) holds.counted

theorem remove_holds (tab : HashTable I) (present : List I) (item : I) (holds : Holds tab present)
    (there : item ∈ present) : Holds (hashRemove tab item) (present.erase item) := by
  have word := holds.words item there
  have own := holds.linked (bucketOf (tab.computeHash item))
  have member : item ∈ present.filter (inBucket tab (bucketOf (tab.computeHash item))) :=
    List.mem_filter.mpr ⟨there, (in_bucket tab _ item).mpr rfl⟩
  have nextKept : (hashRemove tab item).next item = tab.next item := by
    change setLink tab.next (tab.prev item) (tab.next item) item = tab.next item
    rw [setLink_apply, ite_self]
  have nextAfter : ∀ y, (hashRemove tab item).next y = if tab.prev item = some y then tab.next item else tab.next y :=
    fun y => setLink_apply _ _ _ y
  have prevAfter : ∀ y, (hashRemove tab item).prev y = if tab.next item = some y then tab.prev item else tab.prev
    y := by
    intro y
    change setLink tab.prev ((hashRemove tab item).next item) (tab.prev item) y = _
    rw [nextKept, setLink_apply]
  refine ⟨holds.distinct.erase item, ?_, ?_, ?_⟩
  · intro v
    have mine := holds.linked v
    have distinct : (present.filter (inBucket tab v)).Nodup := holds.distinct.filter _
    have keys : inBucket (hashRemove tab item) v = inBucket tab v := rfl
    rw [keys, ← List.erase_filter]
    by_cases here : bucketOf (tab.computeHash item) = v
    · subst here
      have head : (hashRemove tab item).buckets (bucketOf (tab.computeHash item)) =
          if tab.prev item = none then tab.next item else tab.buckets (bucketOf (tab.computeHash item)) := by
        change (if tab.prev item = none then write tab.buckets (bucketOf (tab.hashval item)) (tab.next item)
          else tab.buckets) _ = _
        rw [word]
        split
        · exact write_here _ _ _
        · rfl
      rw [head]
      exact linked_unlink tab.next tab.prev _ _ _ _ item distinct member (fun y _ _ => nextAfter y)
        (fun y _ _ => prevAfter y) mine
    · have outside : item ∉ present.filter (inBucket tab v) := fun inside =>
        here ((in_bucket tab v item).mp (List.mem_filter.mp inside).2)
      rw [List.erase_of_not_mem outside]
      have head : (hashRemove tab item).buckets v = tab.buckets v := by
        change (if tab.prev item = none then write tab.buckets (bucketOf (tab.hashval item)) (tab.next item)
          else tab.buckets) v = _
        rw [word]
        split
        · exact write_elsewhere _ _ _ _ (Ne.symm here)
        · rfl
      have apart : ∀ y ∈ present.filter (inBucket tab v),
          y ∉ present.filter (inBucket tab (bucketOf (tab.computeHash item))) := by
        intro y inside there
        have its := (in_bucket tab _ y).mp (List.mem_filter.mp there).2
        have mine := (in_bucket tab v y).mp (List.mem_filter.mp inside).2
        exact here (its.symm.trans mine)
      rw [head]
      refine linked_congr tab.next tab.prev _ _ none _ _ ?_ ?_ mine
      · intro y inside
        rw [nextAfter, if_neg]
        intro link
        rcases linked_prev _ _ _ _ _ own item member with ⟨_, behind⟩ | ⟨z, deeper, behind⟩
        · rw [behind] at link
          cases link
        · exact apart y inside (Option.some.inj (behind.symm.trans link) ▸ deeper)
      · intro y inside
        rw [prevAfter, if_neg]
        intro link
        rcases linked_next _ _ _ _ _ own item member with last | ⟨z, deeper, ahead⟩
        · rw [last] at link
          cases link
        · exact apart y inside (Option.some.inj (ahead.symm.trans link) ▸ deeper)
  · intro y inside
    exact holds.words y (List.mem_of_mem_erase inside)
  · change tab.numEntries - 1 = _
    rw [holds.counted, List.length_erase_of_mem there]

theorem order_erase (tab : HashTable I) (present front rest : List I) (item : I) (distinct : present.Nodup)
    (split : order tab present = front ++ item :: rest) :
    order (hashRemove tab item) (present.erase item) = front ++ rest := by
  have ordered := order_nodup tab present distinct
  have kept : order (hashRemove tab item) (present.erase item) = (order tab present).erase item := by
    rw [distinct.erase_eq_filter, ordered.erase_eq_filter, order, order, List.filter_flatMap]
    congr 1
    funext v
    exact List.filter_comm ..
  rw [split] at ordered
  have outside : item ∉ front := fun inside =>
    (List.nodup_cons.mp (List.nodup_middle.mp ordered)).1 (List.mem_append_left _ inside)
  rw [kept, split, List.erase_append_right _ outside, List.erase_cons_head]

theorem visit_rest (removes : I → Bool) (fuel : Nat) (tab : HashTable I) (present front rest : List I)
    (holds : Holds tab present) (split : order tab present = front ++ rest) (enough : rest.length < fuel) :
    ∃ final, visit removes fuel tab (rest.head?, rest.tail.head?) = some (rest, final) ∧
      Holds final (present.diff (rest.filter removes)) := by
  induction rest generalizing fuel tab present front with
  | nil =>
      cases fuel with
      | zero => cases enough
      | succ fuel => exact ⟨tab, rfl, holds⟩
  | cons item rest ih =>
      cases fuel with
      | zero => cases enough
      | succ fuel =>
          have shorter : rest.length < fuel := Nat.lt_of_succ_lt_succ enough
          have member : item ∈ present := by
            refine (order_perm tab present holds.distinct).mem_iff.mp ?_
            rw [split]
            exact List.mem_append_right _ List.mem_cons_self
          have goesOn : ∀ (left : HashTable I) (present' front' : List I), Holds left present' →
              order left present' = front' ++ rest → hashNext left rest.head? = (rest.head?, rest.tail.head?) := by
            intro left present' front' holds' split'
            cases rest with
            | nil => rfl
            | cons following later =>
                change (some following, hashNextCursor left (some following)) = _
                rw [cursor_next left present' holds' front' later following split']
                rfl
          change ∃ final, (visit removes fuel (if removes item then hashRemove tab item else tab)
            (hashNext (if removes item then hashRemove tab item else tab) rest.head?)).map _ = _ ∧ _
          rw [List.filter_cons]
          cases removed : removes item with
          | true =>
              have holds' := remove_holds tab present item holds member
              have split' := order_erase tab present front rest item holds.distinct split
              obtain ⟨final, visited, finally'⟩ := ih fuel _ _ front holds' split' shorter
              rw [if_pos rfl, if_pos rfl, goesOn _ _ front holds' split', visited, List.diff_cons]
              exact ⟨final, rfl, finally'⟩
          | false =>
              have split' : order tab present = (front ++ [item]) ++ rest := by
                rw [split, List.append_assoc]
                rfl
              obtain ⟨final, visited, finally'⟩ := ih fuel tab present (front ++ [item]) holds split' shorter
              rw [if_neg (by decide), if_neg (by decide), goesOn _ _ _ holds split', visited]
              exact ⟨final, rfl, finally'⟩

theorem visit_all (removes : I → Bool) (fuel : Nat) (tab : HashTable I) (present : List I) (holds : Holds tab present)
    (enough : present.length < fuel) :
    ∃ visited final, visit removes fuel tab (hashStart tab) = some (visited, final) ∧ visited.Perm present ∧
      Holds final (present.filter fun item => !removes item) := by
  have perm := order_perm tab present holds.distinct
  have short : (order tab present).length < fuel := by rwa [perm.length_eq]
  obtain ⟨final, visited, left⟩ := visit_rest removes fuel tab present [] (order tab present) holds rfl short
  refine ⟨order tab present, final, ?_, perm, ?_⟩
  · rw [start_first tab present holds]
    exact visited
  · rw [holds.distinct.sdiff_eq_filter] at left
    have kept : present.filter (fun item => !removes item) =
        present.filter (· ∉ (order tab present).filter removes) := by
      refine List.filter_congr fun item member => ?_
      have inside : item ∈ order tab present := perm.mem_iff.mpr member
      cases removed : removes item <;> simp [inside, removed]
    rw [kept]
    exact left

-- A caller's moves. It puts in only what is not in the table and takes out only
-- what is; the list beside the table is what it knows to be there, newest first.
inductive Move (I : Type u) where
  | insert (item : I)
  | remove (item : I)

def step (state : HashTable I × List I) : Move I → Option (HashTable I × List I)
  | .insert item => if item ∈ state.2 then none else some (hashInsert state.1 item, item :: state.2)
  | .remove item => if item ∈ state.2 then some (hashRemove state.1 item, state.2.erase item) else none

theorem step_holds (compute : I → UInt32) (compare : I → I → Int) (state after : HashTable I × List I) (move : Move I)
    (holds : Holds state.1 state.2 ∧ state.1.computeHash = compute ∧ state.1.compare = compare)
    (moved : step state move = some after) :
    Holds after.1 after.2 ∧ after.1.computeHash = compute ∧ after.1.compare = compare := by
  obtain ⟨sound, computes, compares⟩ := holds
  cases move with
  | insert item =>
      by_cases there : item ∈ state.2
      · rw [step, if_pos there] at moved
        cases moved
      · rw [step, if_neg there] at moved
        obtain rfl := Option.some.inj moved
        exact ⟨insert_holds _ _ _ sound there, computes, compares⟩
  | remove item =>
      by_cases there : item ∈ state.2
      · rw [step, if_pos there] at moved
        obtain rfl := Option.some.inj moved
        exact ⟨remove_holds _ _ _ sound there, computes, compares⟩
      · rw [step, if_neg there] at moved
        cases moved

theorem hash_table_serves (next prev : I → Option I) (words compute : I → UInt32) (compare : I → I → Int)
    (agree : Agree compute compare) (visits : List ((HashTable I × List I) × Move I)) (tab : HashTable I)
    (present : List I) (run : Run step (hashInit next prev words compute compare, []) visits (tab, present)) :
    tab.numEntries = present.length ∧ present.Nodup ∧
    (∀ key fuel, present.length ≤ fuel →
      hashFind fuel tab key = present.find? (fun item => compare key item == 0) ∧
      Chain (hashFindNext fuel tab) (hashFind fuel tab key) (present.filter fun item => compare key item == 0)) ∧
    ∀ removes fuel, present.length < fuel →
      ∃ visited final, visit removes fuel tab (hashStart tab) = some (visited, final) ∧ visited.Perm present ∧
        Holds final (present.filter fun item => !removes item) := by
  obtain ⟨holds, computes, compares⟩ := Run.invariant (fun _ _ => True)
    (fun state => Holds state.1 state.2 ∧ state.1.computeHash = compute ∧ state.1.compare = compare)
    ⟨init_holds next prev words compute compare, rfl, rfl⟩
    (fun state move after sound _ moved => step_holds compute compare state after move sound moved) run
    (Run.meets_always visits)
  dsimp only at holds computes compares
  subst computes compares
  exact ⟨holds.counted, holds.distinct,
    fun key fuel enough => ⟨find_newest tab present key fuel holds agree enough,
      find_next_rest tab present key fuel holds agree enough⟩,
    fun removes fuel enough => visit_all removes fuel tab present holds enough⟩

end Moves

def digit (item : Nat) : UInt32 := UInt32.ofNat (item % 10)

def compareDigits (item item2 : Nat) : Int := (item % 10 : Nat) - (item2 % 10 : Nat)

theorem digits_agree : Agree digit compareDigits := by
  have zero : ∀ item item2, compareDigits item item2 = 0 ↔ item % 10 = item2 % 10 := by
    intro item item2
    unfold compareDigits
    omega
  refine ⟨⟨fun item => (zero item item).mpr rfl, fun {x y} equal => ?_, fun {x y z} first second => ?_⟩, ?_⟩
  · exact (zero y x).mpr ((zero x y).mp equal).symm
  · exact (zero x z).mpr (((zero x y).mp first).trans ((zero y z).mp second))
  · intro item item2 equal
    unfold digit
    rw [(zero item item2).mp equal]

def emptyTable : HashTable Nat :=
  hashInit (fun _ => none) (fun _ => none) (fun _ => 0) digit compareDigits

def threeMoves : HashTable Nat :=
  hashRemove (hashInsert (hashInsert (hashInsert emptyTable 3) 4) 13) 4

theorem three_moves_run :
    Run step (emptyTable, []) (Run.trace step (emptyTable, []) [.insert 3, .insert 4, .insert 13, .remove 4])
      (threeMoves, [13, 3]) :=
  Run.of_play _ _ rfl

theorem hash_table_serves_digits :
    hashFind 2 threeMoves 23 = some 13 ∧ hashFindNext 2 threeMoves 13 = some 3 ∧
      hashFindNext 2 threeMoves 3 = none := by
  obtain ⟨_, _, found, _⟩ := hash_table_serves _ _ _ _ _ digits_agree _ _ _ three_moves_run
  obtain ⟨first, rest⟩ := found 23 2 (by decide)
  have listed : ([13, 3] : List Nat).filter (fun item => compareDigits 23 item == 0) = [13, 3] := by decide
  rw [listed] at rest
  exact ⟨first, rest.2.1, rest.2.2⟩

end ZyAgf.Pppoe.Hash
