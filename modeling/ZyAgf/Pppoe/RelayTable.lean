import Mathlib.Data.List.Perm.Basic
import Mathlib.Data.List.Nodup
import ZyAgf.Library.Run
import ZyAgf.Pppoe.Relay

set_option autoImplicit false

namespace ZyAgf.Pppoe.Relay

-- A leg is a hash entry without its links: what the relay knows of one side.
structure Leg where
  interface : Option Nat
  peerMac : Mac
  sesNum : UInt16
  ses : Option Nat
  peer : Option Nat
deriving DecidableEq, Repr

def SessionHash.leg (h : SessionHash) : Leg := ⟨h.interface, h.peerMac, h.sesNum, h.ses, h.peer⟩

def Leg.bucket (l : Leg) : Nat := bucketOf l.peerMac l.sesNum

def Leg.matches (l : Leg) (mac : Mac) (sesNum : UInt16) : Bool := l.peerMac == mac && l.sesNum == sesNum

def legAt (s : RelayState) (p : Nat) : Leg := (s.allHashes p).leg

def hashNext (s : RelayState) (p : Nat) : Option Nat := (s.allHashes p).next
def hashPrev (s : RelayState) (p : Nat) : Option Nat := (s.allHashes p).prev
def sesNext (s : RelayState) (p : Nat) : Option Nat := (s.allSessions p).next
def sesPrev (s : RelayState) (p : Nat) : Option Nat := (s.allSessions p).prev

namespace RelayState

variable (s : RelayState) (p : Nat) (p? : Option Nat)

@[simp] theorem updHash_allHashes (f : SessionHash → SessionHash) (q : Nat) :
    (s.updHash p f).allHashes q = if q = p then f (s.allHashes q) else s.allHashes q := by
  unfold updHash write
  dsimp only
  split
  · next here => rw [here]
  · rfl

@[simp] theorem updHash?_allHashes (f : SessionHash → SessionHash) (q : Nat) :
    (s.updHash? p? f).allHashes q = if p? = some q then f (s.allHashes q) else s.allHashes q := by
  cases p? with
  | none => rfl
  | some p => simp [updHash?, eq_comm]

@[simp] theorem updSession_allSessions (f : PPPoESession → PPPoESession) (q : Nat) :
    (s.updSession p f).allSessions q = if q = p then f (s.allSessions q) else s.allSessions q := by
  unfold updSession write
  dsimp only
  split
  · next here => rw [here]
  · rfl

@[simp] theorem updSession?_allSessions (f : PPPoESession → PPPoESession) (q : Nat) :
    (s.updSession? p? f).allSessions q = if p? = some q then f (s.allSessions q) else s.allSessions q := by
  cases p? with
  | none => rfl
  | some p => simp [updSession?, eq_comm]

@[simp] theorem updHash_rest (f : SessionHash → SessionHash) :
    (s.updHash p f).allSessions = s.allSessions ∧ (s.updHash p f).buckets = s.buckets ∧
      (s.updHash p f).freeHashes = s.freeHashes ∧ (s.updHash p f).freeSessions = s.freeSessions ∧
      (s.updHash p f).activeSessions = s.activeSessions ∧ (s.updHash p f).numSessions = s.numSessions ∧
      (s.updHash p f).maxSessions = s.maxSessions ∧ (s.updHash p f).epoch = s.epoch :=
  ⟨rfl, rfl, rfl, rfl, rfl, rfl, rfl, rfl⟩

@[simp] theorem updHash?_rest (f : SessionHash → SessionHash) :
    (s.updHash? p? f).allSessions = s.allSessions ∧ (s.updHash? p? f).buckets = s.buckets ∧
      (s.updHash? p? f).freeHashes = s.freeHashes ∧ (s.updHash? p? f).freeSessions = s.freeSessions ∧
      (s.updHash? p? f).activeSessions = s.activeSessions ∧ (s.updHash? p? f).numSessions = s.numSessions ∧
      (s.updHash? p? f).maxSessions = s.maxSessions ∧ (s.updHash? p? f).epoch = s.epoch := by
  cases p? <;> exact ⟨rfl, rfl, rfl, rfl, rfl, rfl, rfl, rfl⟩

@[simp] theorem updSession_rest (f : PPPoESession → PPPoESession) :
    (s.updSession p f).allHashes = s.allHashes ∧ (s.updSession p f).buckets = s.buckets ∧
      (s.updSession p f).freeHashes = s.freeHashes ∧ (s.updSession p f).freeSessions = s.freeSessions ∧
      (s.updSession p f).activeSessions = s.activeSessions ∧ (s.updSession p f).numSessions = s.numSessions ∧
      (s.updSession p f).maxSessions = s.maxSessions ∧ (s.updSession p f).epoch = s.epoch :=
  ⟨rfl, rfl, rfl, rfl, rfl, rfl, rfl, rfl⟩

@[simp] theorem updSession?_rest (f : PPPoESession → PPPoESession) :
    (s.updSession? p? f).allHashes = s.allHashes ∧ (s.updSession? p? f).buckets = s.buckets ∧
      (s.updSession? p? f).freeHashes = s.freeHashes ∧ (s.updSession? p? f).freeSessions = s.freeSessions ∧
      (s.updSession? p? f).activeSessions = s.activeSessions ∧ (s.updSession? p? f).numSessions = s.numSessions ∧
      (s.updSession? p? f).maxSessions = s.maxSessions ∧ (s.updSession? p? f).epoch = s.epoch := by
  cases p? <;> exact ⟨rfl, rfl, rfl, rfl, rfl, rfl, rfl, rfl⟩

end RelayState

-- The bucket part of the table: each bucket holds the entries hashed to it, the
-- newest first.
structure Hashed (s : RelayState) (entries : List Nat) : Prop where
  distinct : entries.Nodup
  bucket : ∀ b, Linked (hashNext s) (hashPrev s) none (s.buckets b)
    (entries.filter fun p => (legAt s p).bucket == b)

theorem hashed_first (s : RelayState) (entries : List Nat) (hashed : Hashed s entries) (b p : Nat)
    (first : s.buckets b = some p) : p ∈ entries ∧ (legAt s p).bucket = b := by
  have linked := hashed.bucket b
  rw [first] at linked
  have member : p ∈ entries.filter fun p => (legAt s p).bucket == b := by
    cases listed : entries.filter fun p => (legAt s p).bucket == b with
    | nil =>
        rw [listed] at linked
        cases linked
    | cons head rest =>
        rw [listed] at linked
        rw [Option.some.inj linked.1]
        exact List.mem_cons_self
  simpa only [List.mem_filter, beq_iff_eq] using member

-- Hashing and unhashing move links only.
structure SameBesides (s s' : RelayState) : Prop where
  sessions : s'.allSessions = s.allSessions
  freeSessions : s'.freeSessions = s.freeSessions
  activeSessions : s'.activeSessions = s.activeSessions
  numSessions : s'.numSessions = s.numSessions
  maxSessions : s'.maxSessions = s.maxSessions
  legs : ∀ p, legAt s' p = legAt s p

theorem addHash_same (s : RelayState) (sh : Nat) : SameBesides s (addHash s sh) := by
  refine ⟨by simp [addHash], by simp [addHash], by simp [addHash], by simp [addHash], by simp [addHash], ?_⟩
  intro p
  simp only [legAt, SessionHash.leg, addHash, RelayState.updHash?_allHashes, RelayState.updHash_allHashes]
  split <;> split <;> rfl

theorem addHash_free (s : RelayState) (sh : Nat) : (addHash s sh).freeHashes = s.freeHashes := by
  simp [addHash]

theorem addHash_next (s : RelayState) (sh p : Nat) : hashNext (addHash s sh) p =
    if p = sh then s.buckets (legAt s sh).bucket else hashNext s p := by
  simp only [hashNext, addHash, RelayState.updHash?_allHashes, RelayState.updHash_allHashes]
  split <;> split <;> rfl

theorem addHash_prev (s : RelayState) (sh p : Nat) : hashPrev (addHash s sh) p =
    if s.buckets (legAt s sh).bucket = some p then some sh else if p = sh then none else hashPrev s p := by
  simp only [hashPrev, addHash, RelayState.updHash?_allHashes, RelayState.updHash_allHashes, legAt, Leg.bucket,
    SessionHash.leg]
  split <;> split <;> rfl

theorem addHash_buckets (s : RelayState) (sh : Nat) :
    (addHash s sh).buckets = write s.buckets (legAt s sh).bucket (some sh) := by
  simp only [addHash, RelayState.updHash?_rest, RelayState.updHash_rest]
  rfl

theorem addHash_hashed (s : RelayState) (entries : List Nat) (sh : Nat) (fresh : sh ∉ entries)
    (hashed : Hashed s entries) : Hashed (addHash s sh) (sh :: entries) := by
  have notFirst : s.buckets (legAt s sh).bucket ≠ some sh := fun first =>
    fresh (hashed_first s entries hashed _ sh first).1
  have away : ∀ p ∈ entries, p ≠ sh := fun p member same => fresh (same ▸ member)
  refine ⟨List.nodup_cons.mpr ⟨fresh, hashed.distinct⟩, ?_⟩
  intro b
  simp only [(addHash_same s sh).legs, addHash_buckets]
  by_cases here : (legAt s sh).bucket = b
  · subst here
    rw [List.filter_cons_of_pos (by simp), write_here]
    refine linked_push (hashNext s) (hashPrev s) _ _ _ _ sh (hashed.distinct.filter _) ?_ ?_ ?_ ?_ ?_ (hashed.bucket _)
    · rw [addHash_next, if_pos rfl]
    · rw [addHash_prev, if_neg notFirst, if_pos rfl]
    · intro p member
      rw [addHash_next, if_neg (away p (List.mem_filter.mp member).1)]
    · intro p first
      rw [addHash_prev, if_pos first]
    · intro p member different
      rw [addHash_prev, if_neg different, if_neg (away p (List.mem_filter.mp member).1)]
  · rw [List.filter_cons_of_neg (by simpa using here), write_elsewhere _ _ _ _ (Ne.symm here)]
    refine linked_congr (hashNext s) (hashPrev s) _ _ none _ _ ?_ ?_ (hashed.bucket b)
    · intro p member
      rw [addHash_next, if_neg (away p (List.mem_filter.mp member).1)]
    · intro p member
      obtain ⟨inside, bucketed⟩ := List.mem_filter.mp member
      have elsewhere : s.buckets (legAt s sh).bucket ≠ some p := fun first =>
        here ((hashed_first s entries hashed _ p first).2.symm.trans (beq_iff_eq.mp bucketed))
      rw [addHash_prev, if_neg elsewhere, if_neg (away p inside)]

theorem unhash_same (s : RelayState) (sh : Nat) : SameBesides s (unhash s sh) := by
  refine ⟨by simp [unhash], by simp [unhash], by simp [unhash], by simp [unhash], by simp [unhash], ?_⟩
  intro p
  by_cases here : p = sh <;> by_cases behind : (s.allHashes sh).prev = some p <;>
    by_cases ahead : (s.allHashes sh).next = some p <;> simp_all [legAt, SessionHash.leg, unhash]

theorem unhash_next (s : RelayState) (sh p : Nat) : hashNext (unhash s sh) p =
    if p = sh then s.freeHashes else if hashPrev s sh = some p then hashNext s sh else hashNext s p := by
  by_cases here : p = sh
  · simp [hashNext, unhash, here]
  · by_cases behind : (s.allHashes sh).prev = some p <;> by_cases ahead : (s.allHashes sh).next = some p <;>
      simp [hashNext, hashPrev, unhash, here, behind, ahead]

theorem unhash_prev (s : RelayState) (sh p : Nat) : hashPrev (unhash s sh) p =
    if hashNext s sh = some p then hashPrev s sh else hashPrev s p := by
  by_cases here : p = sh <;> by_cases behind : (s.allHashes sh).prev = some p <;>
    by_cases ahead : (s.allHashes sh).next = some p <;> simp_all [hashNext, hashPrev, unhash]

theorem unhash_buckets (s : RelayState) (sh b : Nat) : (unhash s sh).buckets b =
    if hashPrev s sh = none ∧ b = (legAt s sh).bucket then hashNext s sh else s.buckets b := by
  by_cases first : (s.allHashes sh).prev = none
  · simp [hashNext, hashPrev, unhash, first, write, legAt, Leg.bucket, SessionHash.leg]
  · simp [hashPrev, unhash, first]

theorem unhash_free (s : RelayState) (sh : Nat) : (unhash s sh).freeHashes = some sh := rfl

theorem unhash_hashed (s : RelayState) (entries : List Nat) (sh : Nat) (member : sh ∈ entries)
    (hashed : Hashed s entries) : Hashed (unhash s sh) (entries.erase sh) := by
  refine ⟨hashed.distinct.erase sh, ?_⟩
  intro b
  simp only [(unhash_same s sh).legs, unhash_buckets]
  have erased : (entries.erase sh).filter (fun p => (legAt s p).bucket == b) =
      (entries.filter fun p => (legAt s p).bucket == b).erase sh := by
    rw [hashed.distinct.erase_eq_filter, (hashed.distinct.filter _).erase_eq_filter, List.filter_filter,
      List.filter_filter]
    simp only [Bool.and_comm]
  rw [erased]
  have nextAfter : ∀ p ∈ entries.filter (fun p => (legAt s p).bucket == b), p ≠ sh → hashNext (unhash s sh) p =
      if hashPrev s sh = some p then hashNext s sh else hashNext s p := by
    intro p _ different
    rw [unhash_next, if_neg different]
  by_cases here : (legAt s sh).bucket = b
  · subst here
    have inside : sh ∈ entries.filter fun p => (legAt s p).bucket == (legAt s sh).bucket := by
      simp [member]
    simp only [and_true]
    exact linked_unlink (hashNext s) (hashPrev s) _ _ _ _ sh (hashed.distinct.filter _) inside nextAfter
      (fun p _ _ => unhash_prev s sh p) (hashed.bucket _)
  · have outside : sh ∉ entries.filter fun p => (legAt s p).bucket == b := by
      simp [here]
    rw [List.erase_of_not_mem outside, if_neg (fun both => here both.2.symm)]
    have bucketed := hashed.bucket (legAt s sh).bucket
    have inside : sh ∈ entries.filter fun p => (legAt s p).bucket == (legAt s sh).bucket := by
      simp [member]
    -- The neighbours that unhash patches lie in the entry's own bucket.
    have apart : ∀ p ∈ entries.filter (fun p => (legAt s p).bucket == b),
        p ∉ entries.filter fun p => (legAt s p).bucket == (legAt s sh).bucket := by
      intro p one other
      exact here ((beq_iff_eq.mp (List.mem_filter.mp other).2).symm.trans (beq_iff_eq.mp (List.mem_filter.mp one).2))
    refine linked_congr (hashNext s) (hashPrev s) _ _ none _ _ ?_ ?_ (hashed.bucket b)
    · intro p found
      have different : p ≠ sh := fun same => outside (same ▸ found)
      rw [nextAfter p found different, if_neg]
      intro link
      rcases linked_prev _ _ none _ _ bucketed sh inside with ⟨_, first⟩ | ⟨q, near, link'⟩
      · rw [first] at link
        cases link
      · rw [link'] at link
        exact apart p found (Option.some.inj link ▸ near)
    · intro p found
      rw [unhash_prev, if_neg]
      intro link
      rcases linked_next _ _ none _ _ bucketed sh inside with last | ⟨q, near, link'⟩
      · rw [last] at link
        cases link
      · rw [link'] at link
        exact apart p found (Option.some.inj link ▸ near)

theorem unhash_chain (s : RelayState) (entries free : List Nat) (sh : Nat) (member : sh ∈ entries)
    (apart : ∀ p ∈ free, p ∉ entries) (hashed : Hashed s entries) (chain : Chain (hashNext s) s.freeHashes free) :
    Chain (hashNext (unhash s sh)) (unhash s sh).freeHashes (sh :: free) := by
  rw [unhash_free]
  refine chain_push (hashNext s) _ s.freeHashes free sh ?_ ?_ chain
  · rw [unhash_next, if_pos rfl]
  · intro p found
    have different : p ≠ sh := fun same => apart p found (same ▸ member)
    rw [unhash_next, if_neg different, if_neg]
    intro link
    have inside : sh ∈ entries.filter fun p => (legAt s p).bucket == (legAt s sh).bucket := by
      simp [member]
    rcases linked_prev _ _ none _ _ (hashed.bucket (legAt s sh).bucket) sh inside with ⟨_, first⟩ | ⟨q, near, link'⟩
    · rw [first] at link
      cases link
    · rw [link'] at link
      exact apart p found (Option.some.inj link ▸ (List.mem_filter.mp near).1)

theorem findSession_hashed (s : RelayState) (entries : List Nat) (mac : Mac) (sesNum : UInt16)
    (fits : entries.length ≤ 2 * s.maxSessions) (hashed : Hashed s entries) :
    findSession s mac sesNum = entries.find? fun p => (legAt s p).matches mac sesNum := by
  have chain := chain_of_linked _ _ none _ _ (hashed.bucket (bucketOf mac sesNum))
  have short := Nat.le_trans (List.length_filter_le (fun p => (legAt s p).bucket == bucketOf mac sesNum) entries) fits
  unfold findSession
  rw [show (fun p => (s.allHashes p).next) = hashNext s from rfl, walk_chain _ _ _ _ _ chain short, List.find?_filter]
  congr 1
  funext p
  by_cases wanted : (legAt s p).matches mac sesNum = true
  · have pair : (legAt s p).peerMac = mac ∧ (legAt s p).sesNum = sesNum := by
      simpa [Leg.matches] using wanted
    have bucketed : (legAt s p).bucket = bucketOf mac sesNum := by
      rw [Leg.bucket, pair.1, pair.2]
    rw [wanted, bucketed]
    simpa [Leg.matches, legAt, SessionHash.leg] using wanted
  · have other : ((s.allHashes p).peerMac == mac && (s.allHashes p).sesNum == sesNum) = false := by
      simpa [Leg.matches, legAt, SessionHash.leg] using wanted
    rw [other, eq_false_of_ne_true wanted]
    simp

end ZyAgf.Pppoe.Relay
