import Mathlib.Data.List.Perm.Basic
import Mathlib.Data.List.Nodup
import ZyAgf.Library.Run
import ZyAgf.Pppoe.Server

set_option autoImplicit false

namespace ZyAgf.Pppoe.Server

def slotNext (s : ServerState) (p : Nat) : Option Nat := (s.sessions p).next

-- The options main refuses to run without, and the order it links slots in.
structure Config.Valid (cfg : Config) (order : List Nat) : Prop where
  positive : 1 ≤ cfg.numSessionSlots
  bounded : cfg.numSessionSlots + cfg.sessOffset ≤ 65534
  linked : order.Perm (List.range cfg.numSessionSlots)

def slotNumber (cfg : Config) (i : Nat) : UInt16 := htons (UInt16.ofNat (i + 1 + cfg.sessOffset))

theorem slotNumber_toNat (cfg : Config) (bounded : cfg.numSessionSlots + cfg.sessOffset ≤ 65534) (i : Nat)
    (inside : i < cfg.numSessionSlots) : (ntohs (slotNumber cfg i)).toNat = i + 1 + cfg.sessOffset := by
  unfold slotNumber ntohs
  rw [htons_htons, UInt16.toNat_ofNat']
  exact Nat.mod_eq_of_lt (by omega)

-- The busy stack and the free queue share the next links and between them hold
-- every slot; a slot in the queue keeps no peer address.
structure Slots (cfg : Config) (s : ServerState) (busy free : List Nat) : Prop where
  busyList : Chain (slotNext s) s.busySessions busy
  freeList : Chain (slotNext s) s.freeSessions free
  lastFree : s.lastFreeSession = free.getLast?
  slots : (busy ++ free).Perm (List.range cfg.numSessionSlots)
  count : s.numActiveSessions = busy.length
  numbers : ∀ i, i < cfg.numSessionSlots → (s.sessions i).sess = slotNumber cfg i
  cleared : ∀ i ∈ free, (s.sessions i).eth = noMac

namespace ServerState

variable (s : ServerState) (p : Nat) (p? : Option Nat)

@[simp] theorem updSession_sessions (f : ClientSession → ClientSession) (q : Nat) :
    (s.updSession p f).sessions q = if q = p then f (s.sessions q) else s.sessions q := by
  unfold updSession write
  dsimp only
  split
  · next here => rw [here]
  · rfl

@[simp] theorem updSession?_sessions (f : ClientSession → ClientSession) (q : Nat) :
    (s.updSession? p? f).sessions q = if p? = some q then f (s.sessions q) else s.sessions q := by
  cases p? with
  | none => rfl
  | some p => simp [updSession?, eq_comm]

@[simp] theorem updSession_rest (f : ClientSession → ClientSession) :
    (s.updSession p f).freeSessions = s.freeSessions ∧ (s.updSession p f).lastFreeSession = s.lastFreeSession ∧
      (s.updSession p f).busySessions = s.busySessions ∧ (s.updSession p f).numActiveSessions = s.numActiveSessions ∧
      (s.updSession p f).children = s.children :=
  ⟨rfl, rfl, rfl, rfl, rfl⟩

@[simp] theorem updSession?_rest (f : ClientSession → ClientSession) :
    (s.updSession? p? f).freeSessions = s.freeSessions ∧ (s.updSession? p? f).lastFreeSession = s.lastFreeSession ∧
      (s.updSession? p? f).busySessions = s.busySessions ∧
      (s.updSession? p? f).numActiveSessions = s.numActiveSessions ∧ (s.updSession? p? f).children = s.children := by
  cases p? <;> exact ⟨rfl, rfl, rfl, rfl, rfl⟩

end ServerState

section Facts

variable (cfg : Config) (s : ServerState) (busy free : List Nat) (slots : Slots cfg s busy free)

include slots

theorem slots_distinct : (busy ++ free).Nodup := slots.slots.nodup_iff.mpr List.nodup_range

theorem busy_length : busy.length ≤ cfg.numSessionSlots := by
  have total := slots.slots.length_eq
  rw [List.length_append, List.length_range] at total
  omega

theorem busyList_eq : busyList cfg s = busy :=
  collect_chain (slotNext s) cfg.numSessionSlots s.busySessions busy slots.busyList (busy_length cfg s busy free slots)

theorem slot_lt (i : Nat) (member : i ∈ busy) : i < cfg.numSessionSlots :=
  List.mem_range.mp (slots.slots.subset (List.mem_append_left _ member))

theorem slot_busy_or_free (i : Nat) (bound : i < cfg.numSessionSlots) : i ∈ busy ∨ i ∈ free :=
  List.mem_append.mp (slots.slots.symm.subset (List.mem_range.mpr bound))

theorem slots_congr (s' : ServerState) (sameNext : ∀ p, slotNext s' p = slotNext s p)
    (sameNumber : ∀ p, (s'.sessions p).sess = (s.sessions p).sess)
    (sameEth : ∀ p ∈ free, (s'.sessions p).eth = (s.sessions p).eth)
    (sameHeads : s'.freeSessions = s.freeSessions ∧ s'.lastFreeSession = s.lastFreeSession ∧
      s'.busySessions = s.busySessions ∧ s'.numActiveSessions = s.numActiveSessions) : Slots cfg s' busy free := by
  obtain ⟨sameFree, sameLast, sameBusy, sameCount⟩ := sameHeads
  constructor
  · rw [sameBusy]
    exact chain_congr _ _ _ busy (fun p _ => sameNext p) slots.busyList
  · rw [sameFree]
    exact chain_congr _ _ _ free (fun p _ => sameNext p) slots.freeList
  · rw [sameLast]
    exact slots.lastFree
  · exact slots.slots
  · rw [sameCount]
    exact slots.count
  · intro i bound
    rw [sameNumber]
    exact slots.numbers i bound
  · intro i member
    rw [sameEth i member]
    exact slots.cleared i member

theorem slots_upd (p : Nat) (f : ClientSession → ClientSession) (keepsNext : ∀ x, (f x).next = x.next)
    (keepsNumber : ∀ x, (f x).sess = x.sess) (keepsEth : p ∈ free → ∀ x, (f x).eth = x.eth) :
    Slots cfg (s.updSession p f) busy free := by
  refine slots_congr cfg s busy free slots _ ?_ ?_ ?_ ⟨rfl, rfl, rfl, rfl⟩
  · intro q
    simp only [slotNext, ServerState.updSession_sessions]
    split
    · exact keepsNext _
    · rfl
  · intro q
    simp only [ServerState.updSession_sessions]
    split
    · exact keepsNumber _
    · rfl
  · intro q member
    simp only [ServerState.updSession_sessions]
    split
    · next here => exact keepsEth (here ▸ member) _
    · rfl

end Facts

theorem chain_order (order : List Nat) (distinct : order.Nodup) (cfg : Config) :
    Chain (slotNext (initServer cfg order)) order.head? order := by
  have along : ∀ front rest, order = front ++ rest → Chain (slotNext (initServer cfg order)) rest.head? rest := by
    intro front rest
    induction rest generalizing front with
    | nil => exact fun _ => rfl
    | cons x rest ih =>
        intro split
        refine ⟨rfl, ?_⟩
        have link : slotNext (initServer cfg order) x = rest.head? := by
          have fresh : x ∉ front := fun inside =>
            (List.nodup_append.mp (split ▸ distinct)).2.2 x inside x List.mem_cons_self rfl
          have here : order.idxOf x = front.length := by
            rw [split, List.idxOf_append_of_notMem fresh, List.idxOf_cons_self, Nat.add_zero]
          change (order.drop (order.idxOf x + 1)).head? = rest.head?
          rw [here, split, List.drop_append, List.drop_eq_nil_of_le (by simp)]
          simp
        rw [link]
        exact ih (front ++ [x]) (by simpa using split)
  exact along [] order rfl

theorem order_slots (cfg : Config) (order : List Nat) (linked : order.Perm (List.range cfg.numSessionSlots)) :
    Slots cfg (initServer cfg order) [] order := by
  constructor
  · rfl
  · exact chain_order order (linked.nodup_iff.mpr List.nodup_range) cfg
  · rfl
  · exact linked
  · rfl
  · intro i bound
    exact if_pos bound
  · exact fun _ _ => rfl

theorem initServer_slots (cfg : Config) (order : List Nat) (valid : cfg.Valid order) :
    Slots cfg (initServer cfg order) [] order := order_slots cfg order valid.linked

theorem allocSession_slots (cfg : Config) (s : ServerState) (busy free : List Nat) (slots : Slots cfg s busy free)
    (ses : Nat) (s' : ServerState) (alloc : pppoeAllocSession s = some (ses, s')) :
    ∃ free', free = ses :: free' ∧ Slots cfg s' (ses :: busy) free' ∧ s'.children = s.children ∧
      ∀ p, p ≠ ses → s'.sessions p = s.sessions p := by
  obtain ⟨head, here, same⟩ := Option.map_eq_some_iff.mp alloc
  simp only [Prod.mk.injEq] at same
  obtain ⟨rfl, rfl⟩ := same
  have freeChain := slots.freeList
  rw [here] at freeChain
  cases free with
  | nil => cases freeChain
  | cons first free' =>
      obtain rfl : head = first := Option.some.inj freeChain.1
      have distinct := slots_distinct cfg s busy _ slots
      obtain ⟨_, freeDistinct, apart⟩ := List.nodup_append.mp distinct
      have notBusy : head ∉ busy := fun inside => apart head inside head List.mem_cons_self rfl
      have notLater : head ∉ free' := (List.nodup_cons.mp freeDistinct).1
      refine ⟨free', rfl, ?_, rfl, ?_⟩
      · constructor
        · refine chain_push (slotNext s) _ s.busySessions busy head ?_ ?_ slots.busyList
          · simp [slotNext]
          · intro p member
            have other : p ≠ head := fun same => notBusy (same ▸ member)
            simp [slotNext, other]
        · refine chain_congr (slotNext s) _ _ free' ?_ freeChain.2
          intro p member
          have other : p ≠ head := fun same => notLater (same ▸ member)
          simp [slotNext, other]
        · simp only [ServerState.updSession_rest, slots.lastFree]
          cases free' with
          | nil => simp
          | cons second rest =>
              have inner : (head :: second :: rest).getLast? = (second :: rest).getLast? := rfl
              rw [inner, if_neg]
              exact fun same => notLater (List.mem_of_getLast? same)
        · exact (List.perm_middle.symm).trans slots.slots
        · simp [slots.count]
        · intro i bound
          rw [← slots.numbers i bound]
          by_cases same : i = head
          · subst same
            simp
          · simp [same]
        · intro i member
          have other : i ≠ head := fun same => notLater (same ▸ member)
          simp [other, slots.cleared i (List.mem_cons_of_mem head member)]
      · intro p other
        simp [other]

section Freed

variable (cfg : Config) (s : ServerState) (front rest free : List Nat) (ses : Nat)
  (slots : Slots cfg s (front ++ ses :: rest) free)

include slots

theorem freed_apart : ses ∉ front ∧ ses ∉ free ∧ ∀ p ∈ front ++ ses :: rest, p ∉ free := by
  obtain ⟨busyDistinct, _, apart⟩ := List.nodup_append.mp (slots_distinct cfg s _ free slots)
  have member : ses ∈ front ++ ses :: rest := List.mem_append_right _ List.mem_cons_self
  exact ⟨fun inside => (List.nodup_append.mp busyDistinct).2.2 ses inside ses List.mem_cons_self rfl,
    fun inside => apart ses member ses inside rfl, fun p busy found => apart p busy p found rfl⟩

theorem freed_before : before (fun p => (s.sessions p).next) cfg.numSessionSlots s.busySessions none ses = some
    front.getLast? := by
  have length := busy_length cfg s _ free slots
  have walked := before_chain (slotNext s) cfg.numSessionSlots s.busySessions none front rest ses
    (freed_apart cfg s front rest free ses slots).1 slots.busyList (by simp at length; omega)
  rw [Option.or_none] at walked
  exact walked

theorem freed_next (p : Nat) : slotNext (pppoeFreeSession cfg s ses) p =
    if free.getLast? = some p then some ses else if p = ses then none
    else if front.getLast? = some p then slotNext s ses else slotNext s p := by
  have notFree := (freed_apart cfg s front rest free ses slots).2.1
  unfold slotNext pppoeFreeSession
  rw [freed_before cfg s front rest free ses slots]
  simp only [ServerState.updSession_sessions, ServerState.updSession?_sessions, ServerState.updSession_rest,
    ServerState.updSession?_rest, slots.lastFree]
  by_cases last : free.getLast? = some p
  · have other : p ≠ ses := fun same => notFree (same ▸ List.mem_of_getLast? last)
    simp [last, other]
  · by_cases here : p = ses
    · subst here
      simp [last]
    · by_cases prev : front.getLast? = some p <;> simp [last, here, prev]

theorem freed_fields (p : Nat) : ((pppoeFreeSession cfg s ses).sessions p).sess = (s.sessions p).sess ∧
    ((pppoeFreeSession cfg s ses).sessions p).ethif = (s.sessions p).ethif ∧
    ((pppoeFreeSession cfg s ses).sessions p).eth = if p = ses then noMac else (s.sessions p).eth := by
  unfold pppoeFreeSession
  rw [freed_before cfg s front rest free ses slots]
  by_cases prev : front.getLast? = some p <;> by_cases last : s.lastFreeSession = some p <;>
    by_cases here : p = ses
  all_goals first | subst here; simp [prev, last] | simp [prev, last, here]

theorem freed_heads : (pppoeFreeSession cfg s ses).busySessions =
      (if front.getLast? = none then slotNext s ses else s.busySessions) ∧
    (pppoeFreeSession cfg s ses).freeSessions = (if free.getLast? = none then some ses else s.freeSessions) ∧
    (pppoeFreeSession cfg s ses).lastFreeSession = some ses ∧
    (pppoeFreeSession cfg s ses).numActiveSessions = s.numActiveSessions - 1 ∧
    (pppoeFreeSession cfg s ses).children = s.children := by
  unfold pppoeFreeSession slotNext
  rw [freed_before cfg s front rest free ses slots, ← slots.lastFree]
  simp

theorem freed_busy : Chain (slotNext (pppoeFreeSession cfg s ses)) (pppoeFreeSession cfg s ses).busySessions
    (front ++ rest) := by
  obtain ⟨fresh, notFree, apart⟩ := freed_apart cfg s front rest free ses slots
  have busyDistinct := (List.nodup_append.mp (slots_distinct cfg s _ free slots)).1
  have notLast (p : Nat) (busy : p ∈ front ++ ses :: rest) : free.getLast? ≠ some p := fun same =>
    apart p busy (List.mem_of_getLast? same)
  rw [(freed_heads cfg s front rest free ses slots).1]
  refine chain_remove (slotNext s) _ s.busySessions front rest ses busyDistinct ?_ ?_ slots.busyList
  · intro p last
    have inside : p ∈ front := List.mem_of_getLast? last
    have other : p ≠ ses := fun same => fresh (same ▸ inside)
    rw [freed_next cfg s front rest free ses slots, if_neg (notLast p (List.mem_append_left _ inside)), if_neg other,
      if_pos last]
  · intro p inside notPrev
    have listed : p ∈ front ++ ses :: rest := by
      rcases List.mem_append.mp inside with early | late
      · exact List.mem_append_left _ early
      · exact List.mem_append_right _ (List.mem_cons_of_mem _ late)
    have other : p ≠ ses := by
      rintro rfl
      rw [List.nodup_middle] at busyDistinct
      exact (List.nodup_cons.mp busyDistinct).1 inside
    rw [freed_next cfg s front rest free ses slots, if_neg (notLast p listed), if_neg other, if_neg notPrev]

theorem freed_free : Chain (slotNext (pppoeFreeSession cfg s ses)) (pppoeFreeSession cfg s ses).freeSessions
    (free ++ [ses]) := by
  obtain ⟨fresh, notFree, apart⟩ := freed_apart cfg s front rest free ses slots
  have freeDistinct := (List.nodup_append.mp (slots_distinct cfg s _ free slots)).2.1
  rw [(freed_heads cfg s front rest free ses slots).2.1]
  refine chain_append (slotNext s) _ s.freeSessions free ses notFree freeDistinct ?_ ?_ ?_ slots.freeList
  · have notLast : free.getLast? ≠ some ses := fun same => notFree (List.mem_of_getLast? same)
    rw [freed_next cfg s front rest free ses slots, if_neg notLast, if_pos rfl]
  · intro p last
    rw [freed_next cfg s front rest free ses slots, if_pos last]
  · intro p inside notLast
    have other : p ≠ ses := fun same => notFree (same ▸ inside)
    have notPrev : front.getLast? ≠ some p := fun same =>
      apart p (List.mem_append_left _ (List.mem_of_getLast? same)) inside
    rw [freed_next cfg s front rest free ses slots, if_neg notLast, if_neg other, if_neg notPrev]

end Freed

theorem freeSession_slots (cfg : Config) (s : ServerState) (busy free : List Nat) (slots : Slots cfg s busy free)
    (ses : Nat) (member : ses ∈ busy) : Slots cfg (pppoeFreeSession cfg s ses) (busy.erase ses) (free ++ [ses]) ∧
      (pppoeFreeSession cfg s ses).children = s.children ∧
      (∀ p, ((pppoeFreeSession cfg s ses).sessions p).ethif = (s.sessions p).ethif) := by
  obtain ⟨front, rest, rfl⟩ := List.append_of_mem member
  obtain ⟨fresh, notFree, _⟩ := freed_apart cfg s front rest free ses slots
  have fields := freed_fields cfg s front rest free ses slots
  obtain ⟨_, _, lastHead, count, children⟩ := freed_heads cfg s front rest free ses slots
  refine ⟨?_, children, fun p => (fields p).2.1⟩
  rw [List.erase_append_right _ fresh, List.erase_cons_head]
  constructor
  · exact freed_busy cfg s front rest free ses slots
  · exact freed_free cfg s front rest free ses slots
  · rw [lastHead, List.getLast?_append]
    rfl
  · refine List.Perm.trans ?_ slots.slots
    rw [← List.append_assoc]
    refine (List.perm_append_singleton ses _).trans ?_
    rw [List.append_assoc, List.append_assoc, List.cons_append]
    exact List.perm_middle.symm
  · rw [count, slots.count]
    simp
  · intro i bound
    rw [(fields i).1]
    exact slots.numbers i bound
  · intro i inside
    rw [(fields i).2.2]
    rcases List.mem_append.mp inside with old | new
    · have other : i ≠ ses := fun same => notFree (same ▸ old)
      rw [if_neg other]
      exact slots.cleared i old
    · rw [if_pos (List.mem_singleton.mp new)]

end ZyAgf.Pppoe.Server
