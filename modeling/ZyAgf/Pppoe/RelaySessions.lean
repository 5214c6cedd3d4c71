import ZyAgf.Pppoe.RelayTable

set_option autoImplicit false

namespace ZyAgf.Pppoe.Relay

def legsOf (s : RelayState) (a : Nat) : List Nat :=
  (s.allSessions a).clientHash.toList ++ (s.allSessions a).acHash.toList

-- The client leg of a session is hashed after its AC leg, so it comes first.
def legs (s : RelayState) (active : List Nat) : List Nat := active.flatMap (legsOf s)

structure Paired (cfg : Config) (s : RelayState) (a ac cl : Nat) : Prop where
  acHash : (s.allSessions a).acHash = some ac
  clientHash : (s.allSessions a).clientHash = some cl
  acOwner : (legAt s ac).ses = some a
  clientOwner : (legAt s cl).ses = some a
  acPeer : (legAt s ac).peer = some cl
  clientPeer : (legAt s cl).peer = some ac
  acInterface : ∃ i o, (legAt s ac).interface = some i ∧ cfg.interfaces[i]? = some o
  clientInterface : ∃ i o, (legAt s cl).interface = some i ∧ cfg.interfaces[i]? = some o
  number : (legAt s cl).sesNum = (s.allSessions a).sesNum

-- What the pointers stand for: the active sessions, newest first, the free
-- ones, and the free hash entries.
structure Table (cfg : Config) (s : RelayState) (active free freeH : List Nat) : Prop where
  bounded : s.maxSessions ≤ 65534
  activeList : Linked (sesNext s) (sesPrev s) none s.activeSessions active
  freeList : Chain (sesNext s) s.freeSessions free
  sessions : (active ++ free).Perm (List.range s.maxSessions)
  count : s.numSessions = active.length
  paired : ∀ a ∈ active, ∃ ac cl, Paired cfg s a ac cl
  hashed : Hashed s (legs s active)
  freeHashList : Chain (hashNext s) s.freeHashes freeH
  hashes : (legs s active ++ freeH).Perm (List.range (2 * s.maxSessions))
  numbers : ∀ i, i < s.maxSessions → (s.allSessions i).sesNum = htons (UInt16.ofNat (i + 1))

theorem paired_legsOf (cfg : Config) (s : RelayState) (a ac cl : Nat) (pair : Paired cfg s a ac cl) :
    legsOf s a = [cl, ac] := by
  unfold legsOf
  rw [pair.acHash, pair.clientHash]
  rfl

section Facts

variable (cfg : Config) (s : RelayState) (active free freeH : List Nat) (table : Table cfg s active free freeH)

include table

theorem table_distinct : (active ++ free).Nodup := table.sessions.nodup_iff.mpr List.nodup_range

theorem table_hash_distinct : (legs s active ++ freeH).Nodup := table.hashes.nodup_iff.mpr List.nodup_range

theorem table_session_lt (a : Nat) (member : a ∈ active) : a < s.maxSessions :=
  List.mem_range.mp (table.sessions.subset (List.mem_append_left _ member))

theorem mem_legs (p : Nat) : p ∈ legs s active ↔ ∃ a ∈ active, ∃ ac cl, Paired cfg s a ac cl ∧ (p = cl ∨ p = ac) := by
  unfold legs
  rw [List.mem_flatMap]
  constructor
  · rintro ⟨a, member, leg⟩
    obtain ⟨ac, cl, pair⟩ := table.paired a member
    rw [paired_legsOf cfg s a ac cl pair] at leg
    exact ⟨a, member, ac, cl, pair, by simpa using leg⟩
  · rintro ⟨a, member, ac, cl, pair, leg⟩
    refine ⟨a, member, ?_⟩
    rw [paired_legsOf cfg s a ac cl pair]
    simpa using leg

theorem legs_owner (a : Nat) (member : a ∈ active) (p : Nat) (leg : p ∈ legsOf s a) : (legAt s p).ses = some a := by
  obtain ⟨ac, cl, pair⟩ := table.paired a member
  rw [paired_legsOf cfg s a ac cl pair] at leg
  rcases List.mem_cons.mp leg with rfl | last
  · exact pair.clientOwner
  · rw [List.mem_singleton.mp last]
    exact pair.acOwner

theorem legs_length : (legs s active).length = 2 * active.length := by
  have each : ∀ a ∈ active, (legsOf s a).length = 2 := by
    intro a member
    obtain ⟨ac, cl, pair⟩ := table.paired a member
    rw [paired_legsOf cfg s a ac cl pair]
    rfl
  unfold legs
  rw [List.length_flatMap, List.map_congr_left each, List.map_const', List.sum_replicate_nat, Nat.mul_comm]

theorem active_length : active.length ≤ s.maxSessions := by
  have total := table.sessions.length_eq
  rw [List.length_append, List.length_range] at total
  omega

theorem findSession_eq (mac : Mac) (sesNum : UInt16) :
    findSession s mac sesNum = (legs s active).find? fun p => (legAt s p).matches mac sesNum := by
  refine findSession_hashed s (legs s active) mac sesNum ?_ table.hashed
  rw [legs_length cfg s active free freeH table]
  exact Nat.mul_le_mul_left 2 (active_length cfg s active free freeH table)

theorem table_room (room : s.numSessions < s.maxSessions) : ∃ sess free' ac cl freeH',
    free = sess :: free' ∧ freeH = ac :: cl :: freeH' := by
  have total := table.sessions.length_eq
  have totalH := table.hashes.length_eq
  rw [List.length_append, List.length_range] at total totalH
  rw [legs_length cfg s active free freeH table] at totalH
  rw [table.count] at room
  match free, freeH, total, totalH with
  | [], _, total, _ => simp at total; omega
  | _ :: _, [], _, totalH => simp at totalH; omega
  | _ :: _, [_], _, totalH => simp at totalH; omega
  | sess :: free', ac :: cl :: freeH', _, _ => exact ⟨sess, free', ac, cl, freeH', rfl, rfl⟩

end Facts

section Create

variable (s : RelayState) (sess acHash cliHash ac cli : Nat) (acMac cliMac : Mac) (acSes : UInt16)

theorem grabSession_next (p : Nat) :
    sesNext (grabSession s sess) p = if p = sess then s.activeSessions else sesNext s p := by
  by_cases here : p = sess <;> by_cases first : s.activeSessions = some p <;>
    simp_all [sesNext, grabSession]

theorem grabSession_prev (p : Nat) : sesPrev (grabSession s sess) p =
    if p = sess then none else if s.activeSessions = some p then some sess else sesPrev s p := by
  by_cases here : p = sess <;> by_cases first : s.activeSessions = some p <;>
    simp_all [sesPrev, grabSession]

-- A session's own data: everything in it but the links and the epoch.
def sesData (s : RelayState) (p : Nat) : Option Nat × Option Nat × UInt16 :=
  ((s.allSessions p).acHash, (s.allSessions p).clientHash, (s.allSessions p).sesNum)

theorem grabSession_data (p : Nat) : sesData (grabSession s sess) p = sesData s p := by
  by_cases here : p = sess <;> by_cases first : s.activeSessions = some p <;>
    simp_all [sesData, grabSession]

theorem grabSession_rest : (grabSession s sess).allHashes = s.allHashes ∧ (grabSession s sess).buckets = s.buckets ∧
    (grabSession s sess).freeHashes = s.freeHashes ∧ (grabSession s sess).freeSessions = sesNext s sess ∧
    (grabSession s sess).activeSessions = some sess ∧ (grabSession s sess).numSessions = s.numSessions + 1 ∧
    (grabSession s sess).maxSessions = s.maxSessions := by
  simp [grabSession, sesNext]

theorem fillHashes_links : sesNext (fillHashes s sess acHash cliHash ac cli acMac cliMac acSes) = sesNext s ∧
    sesPrev (fillHashes s sess acHash cliHash ac cli acMac cliMac acSes) = sesPrev s ∧
    hashNext (fillHashes s sess acHash cliHash ac cli acMac cliMac acSes) = hashNext s ∧
    hashPrev (fillHashes s sess acHash cliHash ac cli acMac cliMac acSes) = hashPrev s := by
  refine ⟨?_, ?_, ?_, ?_⟩ <;> funext p <;>
    simp only [sesNext, sesPrev, hashNext, hashPrev, fillHashes, RelayState.updHash_allHashes,
      RelayState.updSession_allSessions, RelayState.updHash_rest, RelayState.updSession_rest]
  · split <;> rfl
  · split <;> rfl
  · split <;> split <;> rfl
  · split <;> split <;> rfl

theorem fillHashes_data (p : Nat) : sesData (fillHashes s sess acHash cliHash ac cli acMac cliMac acSes) p =
    if p = sess then (some acHash, some cliHash, (s.allSessions p).sesNum) else sesData s p := by
  by_cases here : p = sess <;> simp [sesData, fillHashes, here]

theorem fillHashes_leg (p : Nat) : legAt (fillHashes s sess acHash cliHash ac cli acMac cliMac acSes) p =
    if p = cliHash then ⟨some cli, cliMac, (s.allSessions sess).sesNum, some sess, some acHash⟩
    else if p = acHash then ⟨some ac, acMac, acSes, some sess, some cliHash⟩
    else legAt s p := by
  by_cases client : p = cliHash <;> by_cases server : p = acHash <;>
    simp_all [legAt, SessionHash.leg, fillHashes]

theorem fillHashes_rest :
    (fillHashes s sess acHash cliHash ac cli acMac cliMac acSes).buckets = s.buckets ∧
    (fillHashes s sess acHash cliHash ac cli acMac cliMac acSes).freeHashes = hashNext s cliHash ∧
    (fillHashes s sess acHash cliHash ac cli acMac cliMac acSes).freeSessions = s.freeSessions ∧
    (fillHashes s sess acHash cliHash ac cli acMac cliMac acSes).activeSessions = s.activeSessions ∧
    (fillHashes s sess acHash cliHash ac cli acMac cliMac acSes).numSessions = s.numSessions ∧
    (fillHashes s sess acHash cliHash ac cli acMac cliMac acSes).maxSessions = s.maxSessions := by
  simp [fillHashes, hashNext]

end Create

theorem hashed_congr (s s' : RelayState) (entries : List Nat) (sameLegs : ∀ p ∈ entries, legAt s' p = legAt s p)
    (sameNext : hashNext s' = hashNext s) (samePrev : hashPrev s' = hashPrev s) (sameBuckets : s'.buckets = s.buckets)
    (hashed : Hashed s entries) : Hashed s' entries := by
  refine ⟨hashed.distinct, ?_⟩
  intro b
  rw [sameNext, samePrev, sameBuckets,
    List.filter_congr (q := fun p => (legAt s p).bucket == b) fun p member => by rw [sameLegs p member]]
  exact hashed.bucket b

theorem legs_congr (s s' : RelayState) (active : List Nat) (same : ∀ a ∈ active, sesData s' a = sesData s a) :
    legs s' active = legs s active := by
  unfold legs
  rw [List.flatMap_congr]
  intro a member
  have fields := same a member
  simp only [sesData, Prod.mk.injEq] at fields
  unfold legsOf
  rw [fields.1, fields.2.1]

theorem paired_congr (cfg : Config) (s s' : RelayState) (a ac cl : Nat) (sameData : sesData s' a = sesData s a)
    (sameAc : legAt s' ac = legAt s ac) (sameClient : legAt s' cl = legAt s cl) (pair : Paired cfg s a ac cl) :
    Paired cfg s' a ac cl := by
  simp only [sesData, Prod.mk.injEq] at sameData
  obtain ⟨sameAcHash, sameClientHash, sameNum⟩ := sameData
  constructor
  · rw [sameAcHash, pair.acHash]
  · rw [sameClientHash, pair.clientHash]
  · rw [sameAc, pair.acOwner]
  · rw [sameClient, pair.clientOwner]
  · rw [sameAc, pair.acPeer]
  · rw [sameClient, pair.clientPeer]
  · rw [sameAc]
    exact pair.acInterface
  · rw [sameClient]
    exact pair.clientInterface
  · rw [sameClient, sameNum, pair.number]

-- What a created session adds: two legs with the given data and nothing else.
structure Opened (s s' : RelayState) (sess acHash cliHash ac cli : Nat) (acMac cliMac : Mac)
    (acSes : UInt16) : Prop where
  acLeg : legAt s' acHash = ⟨some ac, acMac, acSes, some sess, some cliHash⟩
  clientLeg : legAt s' cliHash = ⟨some cli, cliMac, (s.allSessions sess).sesNum, some sess, some acHash⟩
  otherLegs : ∀ p, p ≠ acHash → p ≠ cliHash → legAt s' p = legAt s p
  ownData : sesData s' sess = (some acHash, some cliHash, (s.allSessions sess).sesNum)
  otherData : ∀ p, p ≠ sess → sesData s' p = sesData s p

section Open

variable (s : RelayState) (sess acHash cliHash ac cli : Nat) (acMac cliMac : Mac) (acSes : UInt16)

theorem openSession_sessions : (openSession s sess acHash cliHash ac cli acMac cliMac acSes).allSessions =
    (fillHashes (grabSession s sess) sess acHash cliHash ac cli acMac cliMac acSes).allSessions := by
  unfold openSession
  rw [(addHash_same _ cliHash).sessions, (addHash_same _ acHash).sessions]

theorem openSession_leg (p : Nat) : legAt (openSession s sess acHash cliHash ac cli acMac cliMac acSes) p =
    legAt (fillHashes (grabSession s sess) sess acHash cliHash ac cli acMac cliMac acSes) p := by
  unfold openSession
  rw [(addHash_same _ cliHash).legs, (addHash_same _ acHash).legs]

theorem openSession_opened (two : cliHash ≠ acHash) :
    Opened s (openSession s sess acHash cliHash ac cli acMac cliMac acSes) sess acHash cliHash ac cli acMac cliMac
      acSes := by
  have grabLeg : ∀ p, legAt (grabSession s sess) p = legAt s p := fun p => by
    unfold legAt
    rw [(grabSession_rest s sess).1]
  have grabNum : ∀ p, ((grabSession s sess).allSessions p).sesNum = (s.allSessions p).sesNum := fun p =>
    congrArg (·.2.2) (grabSession_data s sess p)
  have data : ∀ p, sesData (openSession s sess acHash cliHash ac cli acMac cliMac acSes) p =
      if p = sess then (some acHash, some cliHash, (s.allSessions p).sesNum) else sesData s p := fun p => by
    have filled := fillHashes_data (grabSession s sess) sess acHash cliHash ac cli acMac cliMac acSes p
    rw [grabSession_data, grabNum] at filled
    refine Eq.trans ?_ filled
    unfold sesData
    rw [openSession_sessions]
  constructor
  · rw [openSession_leg, fillHashes_leg, if_neg two.symm, if_pos rfl]
  · rw [openSession_leg, fillHashes_leg, if_pos rfl, grabNum]
  · intro p notAc notClient
    rw [openSession_leg, fillHashes_leg, if_neg notClient, if_neg notAc, grabLeg]
  · rw [data, if_pos rfl]
  · intro p other
    rw [data, if_neg other]

theorem openSession_hashed (entries : List Nat) (two : cliHash ≠ acHash) (acFresh : acHash ∉ entries)
    (cliFresh : cliHash ∉ entries) (hashed : Hashed s entries) :
    Hashed (openSession s sess acHash cliHash ac cli acMac cliMac acSes) (cliHash :: acHash :: entries) := by
  obtain ⟨_, _, sameNext, samePrev⟩ :=
    fillHashes_links (grabSession s sess) sess acHash cliHash ac cli acMac cliMac acSes
  obtain ⟨sameHashes, sameBuckets, _⟩ := grabSession_rest s sess
  have filled : Hashed (fillHashes (grabSession s sess) sess acHash cliHash ac cli acMac cliMac acSes) entries := by
    refine hashed_congr s _ entries ?_ ?_ ?_ ?_ hashed
    · intro p member
      have notClient : p ≠ cliHash := fun same => cliFresh (same ▸ member)
      have notAc : p ≠ acHash := fun same => acFresh (same ▸ member)
      rw [fillHashes_leg, if_neg notClient, if_neg notAc]
      unfold legAt
      rw [sameHashes]
    · rw [sameNext]
      funext p
      unfold hashNext
      rw [sameHashes]
    · rw [samePrev]
      funext p
      unfold hashPrev
      rw [sameHashes]
    · rw [(fillHashes_rest (grabSession s sess) sess acHash cliHash ac cli acMac cliMac acSes).1, sameBuckets]
  have both : cliHash ∉ acHash :: entries := by
    rw [List.mem_cons]
    rintro (same | inside)
    · exact two same
    · exact cliFresh inside
  exact addHash_hashed _ _ cliHash both (addHash_hashed _ _ acHash acFresh filled)

theorem openSession_links (p : Nat) : sesNext (openSession s sess acHash cliHash ac cli acMac cliMac acSes) p =
      (if p = sess then s.activeSessions else sesNext s p) ∧
    sesPrev (openSession s sess acHash cliHash ac cli acMac cliMac acSes) p =
      (if p = sess then none else if s.activeSessions = some p then some sess else sesPrev s p) ∧
    (p ≠ acHash → p ≠ cliHash →
      hashNext (openSession s sess acHash cliHash ac cli acMac cliMac acSes) p = hashNext s p) := by
  obtain ⟨sameNext, samePrev, sameHashNext, _⟩ :=
    fillHashes_links (grabSession s sess) sess acHash cliHash ac cli acMac cliMac acSes
  refine ⟨?_, ?_, ?_⟩
  · rw [← grabSession_next, ← sameNext]
    unfold sesNext
    rw [openSession_sessions]
  · rw [← grabSession_prev, ← samePrev]
    unfold sesPrev
    rw [openSession_sessions]
  · intro notAc notClient
    unfold openSession
    rw [addHash_next, if_neg notClient, addHash_next, if_neg notAc, sameHashNext]
    unfold hashNext
    rw [(grabSession_rest s sess).1]

theorem openSession_rest :
    (openSession s sess acHash cliHash ac cli acMac cliMac acSes).freeHashes = hashNext s cliHash ∧
    (openSession s sess acHash cliHash ac cli acMac cliMac acSes).freeSessions = sesNext s sess ∧
    (openSession s sess acHash cliHash ac cli acMac cliMac acSes).activeSessions = some sess ∧
    (openSession s sess acHash cliHash ac cli acMac cliMac acSes).numSessions = s.numSessions + 1 ∧
    (openSession s sess acHash cliHash ac cli acMac cliMac acSes).maxSessions = s.maxSessions := by
  obtain ⟨hashes, _, _, free, active, count, max⟩ := grabSession_rest s sess
  obtain ⟨_, fillFreeH, fillFree, fillActive, fillCount, fillMax⟩ :=
    fillHashes_rest (grabSession s sess) sess acHash cliHash ac cli acMac cliMac acSes
  have one := addHash_same (fillHashes (grabSession s sess) sess acHash cliHash ac cli acMac cliMac acSes) acHash
  have both := addHash_same
    (addHash (fillHashes (grabSession s sess) sess acHash cliHash ac cli acMac cliMac acSes) acHash) cliHash
  unfold openSession
  refine ⟨?_, ?_, ?_, ?_, ?_⟩
  · rw [addHash_free, addHash_free, fillFreeH]
    unfold hashNext
    rw [hashes]
  · rw [both.freeSessions, one.freeSessions, fillFree, free]
  · rw [both.activeSessions, one.activeSessions, fillActive, active]
  · rw [both.numSessions, one.numSessions, fillCount, count]
  · rw [both.maxSessions, one.maxSessions, fillMax, max]

end Open

theorem createSession_full (s : RelayState) (ac cli : Nat) (acMac cliMac : Mac) (acSes : UInt16)
    (full : s.numSessions ≥ s.maxSessions) : createSession s ac cli acMac cliMac acSes = some (none, s) :=
  if_pos full

section Grown

variable (cfg : Config) (s s' : RelayState) (active free freeH : List Nat) (sess acHash cliHash ac cli : Nat)
  (acMac cliMac : Mac) (acSes : UInt16) (opened : Opened s s' sess acHash cliHash ac cli acMac cliMac acSes)

include opened

theorem opened_data (fresh : sess ∉ active) (a : Nat) (member : a ∈ active) : sesData s' a = sesData s a :=
  opened.otherData a fun same => fresh (same ▸ member)

theorem opened_number (p : Nat) : (s'.allSessions p).sesNum = (s.allSessions p).sesNum := by
  by_cases same : p = sess
  · subst same
    exact congrArg (·.2.2) opened.ownData
  · exact congrArg (·.2.2) (opened.otherData p same)

theorem opened_legs (fresh : sess ∉ active) : legs s' (sess :: active) = cliHash :: acHash :: legs s active := by
  have data := opened.ownData
  simp only [sesData, Prod.mk.injEq] at data
  have own : legsOf s' sess = [cliHash, acHash] := by
    unfold legsOf
    rw [data.1, data.2.1]
    rfl
  rw [← legs_congr s s' active (opened_data s s' active sess acHash cliHash ac cli acMac cliMac acSes opened fresh)]
  unfold legs
  rw [List.flatMap_cons, own]
  rfl

theorem opened_own (acKnown : ∃ o, cfg.interfaces[ac]? = some o) (cliKnown : ∃ o, cfg.interfaces[cli]? = some o) :
    Paired cfg s' sess acHash cliHash := by
  have data := opened.ownData
  simp only [sesData, Prod.mk.injEq] at data
  constructor
  · exact data.1
  · exact data.2.1
  · rw [opened.acLeg]
  · rw [opened.clientLeg]
  · rw [opened.acLeg]
  · rw [opened.clientLeg]
  · rw [opened.acLeg]
    exact ⟨ac, acKnown.choose, rfl, acKnown.choose_spec⟩
  · rw [opened.clientLeg]
    exact ⟨cli, cliKnown.choose, rfl, cliKnown.choose_spec⟩
  · rw [opened.clientLeg, data.2.2]

-- The legs a session takes were free, so no older session's legs change.
theorem opened_older (table : Table cfg s active free freeH) (fresh : sess ∉ active) (acFresh : acHash ∉ legs s active)
    (cliFresh : cliHash ∉ legs s active) (a : Nat) (member : a ∈ active) : ∃ p q, Paired cfg s' a p q := by
  obtain ⟨p, q, pair⟩ := table.paired a member
  have held : ∀ r, r = q ∨ r = p → legAt s' r = legAt s r := by
    intro r leg
    have inside : r ∈ legs s active := (mem_legs cfg s active _ _ table r).mpr ⟨a, member, p, q, pair, leg⟩
    exact opened.otherLegs r (fun same => acFresh (same ▸ inside)) (fun same => cliFresh (same ▸ inside))
  have data := opened_data s s' active sess acHash cliHash ac cli acMac cliMac acSes opened fresh a member
  exact ⟨p, q, paired_congr cfg s s' a p q data (held p (.inr rfl)) (held q (.inl rfl)) pair⟩

end Grown

theorem openSession_linked (s s' : RelayState) (active : List Nat) (sess : Nat) (fresh : sess ∉ active)
    (distinct : active.Nodup) (list : Linked (sesNext s) (sesPrev s) none s.activeSessions active)
    (next : ∀ p, sesNext s' p = if p = sess then s.activeSessions else sesNext s p)
    (prev : ∀ p, sesPrev s' p = if p = sess then none else if s.activeSessions = some p then some sess else sesPrev s
    p) :
    Linked (sesNext s') (sesPrev s') none (some sess) (sess :: active) := by
  refine linked_push (sesNext s) (sesPrev s) _ _ s.activeSessions active sess distinct ?_ ?_ ?_ ?_ ?_ list
  · rw [next, if_pos rfl]
  · rw [prev, if_pos rfl]
  · intro a member
    rw [next, if_neg (fun same : a = sess => fresh (same ▸ member))]
  · intro a first
    have inside : a ∈ active := by
      cases active with
      | nil => exact absurd (first.symm.trans list) (by simp)
      | cons b rest => exact Option.some.inj (first.symm.trans list.1) ▸ List.mem_cons_self
    rw [prev, if_neg (fun same : a = sess => fresh (same ▸ inside)), if_pos first]
  · intro a member other
    rw [prev, if_neg (fun same : a = sess => fresh (same ▸ member)), if_neg other]

theorem createSession_open (s : RelayState) (sess acHash cliHash ac cli : Nat) (acMac cliMac : Mac) (acSes : UInt16)
    (room : s.numSessions < s.maxSessions) (free : s.freeSessions = some sess) (first : s.freeHashes = some acHash)
    (second : hashNext s acHash = some cliHash) : createSession s ac cli acMac cliMac acSes =
      some (some sess, openSession s sess acHash cliHash ac cli acMac cliMac acSes) := by
  unfold createSession
  rw [if_neg (Nat.not_le.mpr room), free, first]
  dsimp only [Option.bind_some]
  rw [show (s.allHashes acHash).next = some cliHash from second]
  rfl

theorem createSession_table (cfg : Config) (s : RelayState) (active free freeH : List Nat)
    (table : Table cfg s active free freeH) (room : s.numSessions < s.maxSessions) (ac cli : Nat) (acMac cliMac : Mac)
    (acSes : UInt16) (acKnown : ∃ o, cfg.interfaces[ac]? = some o) (cliKnown : ∃ o, cfg.interfaces[cli]? = some o) :
    ∃ sess free' acHash cliHash freeH' s', free = sess :: free' ∧
      createSession s ac cli acMac cliMac acSes = some (some sess, s') ∧ Table cfg s' (sess :: active) free' freeH' ∧
      legs s' (sess :: active) = cliHash :: acHash :: legs s active ∧
      (acHash ∉ legs s active ∧ cliHash ∉ legs s active) ∧
      Opened s s' sess acHash cliHash ac cli acMac cliMac acSes := by
  obtain ⟨sess, free', acHash, cliHash, freeH', isFree, isFreeH⟩ := table_room cfg s active free freeH table room
  subst isFree isFreeH
  have distinct := table_distinct cfg s active _ _ table
  have hashDistinct := table_hash_distinct cfg s active _ _ table
  obtain ⟨freeHead, freeRest⟩ := table.freeList
  obtain ⟨hashHead, hashSecond, hashRest⟩ := table.freeHashList
  obtain ⟨activeDistinct, freeDistinct, apart⟩ := List.nodup_append.mp distinct
  obtain ⟨_, freeHDistinct, apartH⟩ := List.nodup_append.mp hashDistinct
  have sessFresh : sess ∉ active := fun inside => apart sess inside sess List.mem_cons_self rfl
  have acFresh : acHash ∉ legs s active := fun inside => apartH acHash inside acHash List.mem_cons_self rfl
  have cliFresh : cliHash ∉ legs s active := fun inside =>
    apartH cliHash inside cliHash (List.mem_cons_of_mem _ List.mem_cons_self) rfl
  obtain ⟨acSingle, cliTail⟩ := List.nodup_cons.mp freeHDistinct
  have two : cliHash ≠ acHash := fun same => acSingle (same ▸ List.mem_cons_self)
  have opened := openSession_opened s sess acHash cliHash ac cli acMac cliMac acSes two
  have links := openSession_links s sess acHash cliHash ac cli acMac cliMac acSes
  obtain ⟨newFreeH, newFree, newActive, newCount, newMax⟩ :=
    openSession_rest s sess acHash cliHash ac cli acMac cliMac acSes
  have hashed := openSession_hashed s sess acHash cliHash ac cli acMac cliMac acSes (legs s active) two acFresh cliFresh
    table.hashed
  have made := createSession_open s sess acHash cliHash ac cli acMac cliMac acSes room freeHead hashHead hashSecond
  generalize openSession s sess acHash cliHash ac cli acMac cliMac acSes = s' at *
  have grown := opened_legs s s' active sess acHash cliHash ac cli acMac cliMac acSes opened sessFresh
  refine ⟨sess, free', acHash, cliHash, freeH', s', rfl, made, ?_, grown, ⟨acFresh, cliFresh⟩, opened⟩
  constructor
  · rw [newMax]
    exact table.bounded
  · rw [newActive]
    exact openSession_linked s s' active sess sessFresh activeDistinct table.activeList (fun p => (links p).1)
      fun p => (links p).2.1
  · rw [newFree]
    refine chain_congr (sesNext s) _ _ free' ?_ freeRest
    intro a member
    have other : a ≠ sess := fun same => (List.nodup_cons.mp freeDistinct).1 (same ▸ member)
    rw [(links a).1, if_neg other]
  · rw [newMax]
    exact (List.perm_middle.symm).trans table.sessions
  · rw [newCount, table.count]
    rfl
  · intro a member
    rcases List.mem_cons.mp member with rfl | old
    · exact ⟨acHash, cliHash, opened_own cfg s s' a acHash cliHash ac cli acMac cliMac acSes opened acKnown cliKnown⟩
    · exact opened_older cfg s s' active _ _ sess acHash cliHash ac cli acMac cliMac acSes opened table sessFresh
        acFresh
        cliFresh a old
  · rw [grown]
    exact hashed
  · rw [newFreeH]
    refine chain_congr (hashNext s) _ _ freeH' ?_ hashRest
    intro p member
    exact (links p).2.2 (fun same => acSingle (same ▸ List.mem_cons_of_mem _ member))
      (fun same => (List.nodup_cons.mp cliTail).1 (same ▸ member))
  · rw [grown, newMax]
    refine List.Perm.trans ?_ table.hashes
    rw [List.cons_append, List.cons_append]
    refine (List.Perm.swap acHash cliHash _).trans ?_
    exact ((List.perm_middle (a := cliHash)).symm.cons acHash).trans (List.perm_middle (a := acHash)).symm
  · intro i bound
    rw [newMax] at bound
    rw [opened_number s s' sess acHash cliHash ac cli acMac cliMac acSes opened i]
    exact table.numbers i bound

section Free

variable (s : RelayState) (ses : Nat)

theorem dropSession_next (p : Nat) : sesNext (dropSession s ses) p =
    if p = ses then s.freeSessions else if sesPrev s ses = some p then sesNext s ses else sesNext s p := by
  by_cases here : p = ses
  · simp [sesNext, dropSession, here]
  · by_cases behind : (s.allSessions ses).prev = some p <;> by_cases ahead : (s.allSessions ses).next = some p <;>
      simp [sesNext, sesPrev, dropSession, here, behind, ahead]

theorem dropSession_prev (p : Nat) : sesPrev (dropSession s ses) p =
    if sesNext s ses = some p then sesPrev s ses else sesPrev s p := by
  by_cases here : p = ses <;> by_cases behind : (s.allSessions ses).prev = some p <;>
    by_cases ahead : (s.allSessions ses).next = some p <;> simp_all [sesNext, sesPrev, dropSession]

theorem dropSession_data (p : Nat) : sesData (dropSession s ses) p = sesData s p := by
  by_cases here : p = ses <;> by_cases behind : (s.allSessions ses).prev = some p <;>
    by_cases ahead : (s.allSessions ses).next = some p <;> simp_all [sesData, dropSession]

theorem dropSession_rest : (dropSession s ses).allHashes = s.allHashes ∧ (dropSession s ses).buckets = s.buckets ∧
    (dropSession s ses).freeHashes = s.freeHashes ∧ (dropSession s ses).freeSessions = some ses ∧
    (dropSession s ses).activeSessions = (if sesPrev s ses = none then sesNext s ses else s.activeSessions) ∧
    (dropSession s ses).numSessions = s.numSessions ∧ (dropSession s ses).maxSessions = s.maxSessions := by
  by_cases first : (s.allSessions ses).prev = none <;> simp [dropSession, sesNext, sesPrev, first]

end Free

theorem flatMap_drop (pieces : Nat → List Nat) (keep : Nat → Bool) (a : Nat) (xs : List Nat)
    (gone : (pieces a).filter keep = []) (kept : ∀ x ∈ xs, x ≠ a → (pieces x).filter keep = pieces x) :
    (xs.filter (· != a)).flatMap pieces = (xs.flatMap pieces).filter keep := by
  induction xs with
  | nil => rfl
  | cons x rest ih =>
      have rest' := ih fun y member => kept y (List.mem_cons_of_mem x member)
      by_cases same : x = a
      · subst same
        rw [List.filter_cons_of_neg (by simp), List.flatMap_cons, List.filter_append, gone, List.nil_append, rest']
      · rw [List.filter_cons_of_pos (by simpa using same), List.flatMap_cons, List.flatMap_cons, List.filter_append,
          kept x List.mem_cons_self same, rest']

theorem legs_erase (cfg : Config) (s : RelayState) (active free freeH : List Nat)
    (table : Table cfg s active free freeH)
    (a ac cl : Nat) (member : a ∈ active) (pair : Paired cfg s a ac cl) :
    legs s (active.erase a) = ((legs s active).erase ac).erase cl := by
  have hashDistinct := (List.nodup_append.mp (table_hash_distinct cfg s active free freeH table)).1
  have activeDistinct := (List.nodup_append.mp (table_distinct cfg s active free freeH table)).1
  rw [hashDistinct.erase_eq_filter, (hashDistinct.filter _).erase_eq_filter, activeDistinct.erase_eq_filter,
    List.filter_filter]
  have owner := legs_owner cfg s active free freeH table
  unfold legs
  refine flatMap_drop (legsOf s) _ a active ?_ ?_
  · rw [paired_legsOf cfg s a ac cl pair]
    simp
  · intro b inside different
    refine List.filter_eq_self.mpr fun p leg => ?_
    have apart : p ∉ legsOf s a := fun other =>
      different (Option.some.inj ((owner b inside p leg).symm.trans (owner a member p other)))
    rw [paired_legsOf cfg s a ac cl pair] at apart
    simpa using apart

section Dropped

variable (cfg : Config) (s : RelayState) (active free freeH : List Nat) (table : Table cfg s active free freeH)
    (a : Nat)
  (member : a ∈ active)

include table member

theorem dropSession_active : Linked (sesNext (dropSession s a)) (sesPrev (dropSession s a)) none
    (if sesPrev s a = none then sesNext s a else s.activeSessions) (active.erase a) := by
  have activeDistinct := (List.nodup_append.mp (table_distinct cfg s active free freeH table)).1
  refine linked_unlink (sesNext s) (sesPrev s) _ _ s.activeSessions active a activeDistinct member ?_ ?_
    table.activeList
  · intro b _ different
    rw [dropSession_next, if_neg different]
  · intro b _ _
    rw [dropSession_prev]

-- What the dropped session pointed back to is active, so the free list is left alone.
theorem dropSession_free : Chain (sesNext (dropSession s a)) (some a) (a :: free) := by
  have apart := (List.nodup_append.mp (table_distinct cfg s active free freeH table)).2.2
  have fresh : a ∉ free := fun inside => apart a member a inside rfl
  refine chain_push (sesNext s) _ s.freeSessions free a ?_ ?_ table.freeList
  · rw [dropSession_next, if_pos rfl]
  · intro b found
    have different : b ≠ a := fun same => fresh (same ▸ found)
    rw [dropSession_next, if_neg different, if_neg]
    intro link
    rcases linked_prev _ _ none _ _ table.activeList a member with ⟨_, first⟩ | ⟨c, near, link'⟩
    · rw [first] at link
      cases link
    · rw [link'] at link
      exact apart b (Option.some.inj link ▸ near) b found rfl

theorem paired_legs (ac cl : Nat) (pair : Paired cfg s a ac cl) :
    ac ∈ legs s active ∧ cl ∈ (legs s active).erase ac := by
  have legsDistinct := (List.nodup_append.mp (table_hash_distinct cfg s active free freeH table)).1
  have inside (p : Nat) (leg : p = cl ∨ p = ac) : p ∈ legs s active :=
    (mem_legs cfg s active free freeH table p).mpr ⟨a, member, ac, cl, pair, leg⟩
  have two : cl ≠ ac := by
    have pairDistinct : (legsOf s a).Nodup := (List.nodup_flatMap.mp legsDistinct).1 a member
    rw [paired_legsOf cfg s a ac cl pair] at pairDistinct
    simpa using pairDistinct
  exact ⟨inside ac (.inr rfl), (List.mem_erase_of_ne two).mpr (inside cl (.inl rfl))⟩

-- Both legs leave their buckets for the free list, the client's last.
theorem dropSession_hashes (ac cl : Nat) (pair : Paired cfg s a ac cl) :
    Hashed (unhash (unhash (dropSession s a) ac) cl) (((legs s active).erase ac).erase cl) ∧
      Chain (hashNext (unhash (unhash (dropSession s a) ac) cl)) (unhash (unhash (dropSession s a) ac) cl).freeHashes
        (cl :: ac :: freeH) := by
  obtain ⟨legsDistinct, _, apartH⟩ := List.nodup_append.mp (table_hash_distinct cfg s active free freeH table)
  obtain ⟨acIn, clIn⟩ := paired_legs cfg s active free freeH table a member ac cl pair
  obtain ⟨sameHashes, sameBuckets, sameFreeH, _⟩ := dropSession_rest s a
  have hashed : Hashed (dropSession s a) (legs s active) :=
    hashed_congr s _ _ (fun p _ => by unfold legAt; rw [sameHashes]) (by unfold hashNext; rw [sameHashes])
      (by unfold hashPrev; rw [sameHashes]) sameBuckets table.hashed
  have chain : Chain (hashNext (dropSession s a)) (dropSession s a).freeHashes freeH := by
    rw [sameFreeH]
    unfold hashNext
    rw [sameHashes]
    exact table.freeHashList
  have oneHashed := unhash_hashed (dropSession s a) _ ac acIn hashed
  have oneChain := unhash_chain (dropSession s a) _ freeH ac acIn (fun p found inside => apartH p inside p found rfl)
    hashed chain
  refine ⟨unhash_hashed (unhash (dropSession s a) ac) _ cl clIn oneHashed,
    unhash_chain (unhash (dropSession s a) ac) _ (ac :: freeH) cl clIn ?_ oneHashed oneChain⟩
  intro p found inside
  rcases List.mem_cons.mp found with rfl | old
  · exact legsDistinct.not_mem_erase inside
  · exact apartH p (List.mem_of_mem_erase inside) p old rfl

end Dropped

theorem erase_twice_perm (entries rest : List Nat) (first second : Nat) (firstIn : first ∈ entries)
    (secondIn : second ∈ entries.erase first) :
    ((entries.erase first).erase second ++ second :: first :: rest).Perm (entries ++ rest) := by
  refine List.perm_middle.trans ?_
  refine ((List.perm_cons_erase secondIn).append_right (first :: rest)).symm.trans ?_
  exact List.perm_middle.trans ((List.perm_cons_erase firstIn).append_right rest).symm

theorem freeSession_table (cfg : Config) (s : RelayState) (active free freeH : List Nat)
    (table : Table cfg s active free freeH) (a : Nat) (member : a ∈ active) :
    ∃ ac cl s', freeSession s a = some s' ∧ Table cfg s' (active.erase a) (a :: free) (cl :: ac :: freeH) ∧
      legs s' (active.erase a) = ((legs s active).erase ac).erase cl ∧
      (∀ p, legAt s' p = legAt s p) ∧ (∀ p, sesData s' p = sesData s p) := by
  obtain ⟨ac, cl, pair⟩ := table.paired a member
  obtain ⟨acIn, clIn⟩ := paired_legs cfg s active free freeH table a member ac cl pair
  obtain ⟨sameHashes, _, _, newFree, newActive, sameCount, sameMax⟩ := dropSession_rest s a
  have active' := dropSession_active cfg s active free freeH table a member
  have free' := dropSession_free cfg s active free freeH table a member
  obtain ⟨hashed, chain⟩ := dropSession_hashes cfg s active free freeH table a member ac cl pair
  have one := unhash_same (dropSession s a) ac
  have both := unhash_same (unhash (dropSession s a) ac) cl
  have ran : freeSession s a = some { unhash (unhash (dropSession s a) ac) cl with
      numSessions := (unhash (unhash (dropSession s a) ac) cl).numSessions - 1 } := by
    unfold freeSession
    rw [pair.acHash, pair.clientHash]
    rfl
  have sessions : (unhash (unhash (dropSession s a) ac) cl).allSessions = (dropSession s a).allSessions := by
    rw [both.sessions, one.sessions]
  have data : ∀ p, sesData (unhash (unhash (dropSession s a) ac) cl) p = sesData s p := fun p => by
    rw [← dropSession_data s a p]
    unfold sesData
    rw [sessions]
  have held : ∀ p, legAt (unhash (unhash (dropSession s a) ac) cl) p = legAt s p := fun p => by
    rw [both.legs, one.legs]
    unfold legAt
    rw [sameHashes]
  have nextAfter : sesNext (unhash (unhash (dropSession s a) ac) cl) = sesNext (dropSession s a) := by
    unfold sesNext
    rw [sessions]
  have prevAfter : sesPrev (unhash (unhash (dropSession s a) ac) cl) = sesPrev (dropSession s a) := by
    unfold sesPrev
    rw [sessions]
  have legsAfter : legs (unhash (unhash (dropSession s a) ac) cl) (active.erase a) =
      ((legs s active).erase ac).erase cl := by
    rw [legs_congr s _ _ fun b _ => data b]
    exact legs_erase cfg s active free freeH table a ac cl member pair
  have maxAfter : (unhash (unhash (dropSession s a) ac) cl).maxSessions = s.maxSessions := by
    rw [both.maxSessions, one.maxSessions, sameMax]
  have activeAfter := both.activeSessions.trans (one.activeSessions.trans newActive)
  have freeAfter := both.freeSessions.trans (one.freeSessions.trans newFree)
  have countAfter := both.numSessions.trans (one.numSessions.trans sameCount)
  generalize unhash (unhash (dropSession s a) ac) cl = s' at *
  refine ⟨ac, cl, _, ran, ?_, legsAfter, held, data⟩
  constructor
  · exact maxAfter ▸ table.bounded
  · change Linked (sesNext s') (sesPrev s') none s'.activeSessions (active.erase a)
    rw [nextAfter, prevAfter, activeAfter]
    exact active'
  · change Chain (sesNext s') s'.freeSessions (a :: free)
    rw [nextAfter, freeAfter]
    exact free'
  · change (active.erase a ++ a :: free).Perm (List.range s'.maxSessions)
    rw [maxAfter]
    refine List.Perm.trans ?_ table.sessions
    exact List.perm_middle.trans ((List.perm_cons_erase member).append_right free).symm
  · change s'.numSessions - 1 = (active.erase a).length
    rw [countAfter, table.count, List.length_erase_of_mem member]
  · intro b inside
    obtain ⟨p, q, old⟩ := table.paired b (List.mem_of_mem_erase inside)
    exact ⟨p, q, paired_congr cfg s _ b p q (data b) (held p) (held q) old⟩
  · change Hashed _ (legs s' (active.erase a))
    rw [legsAfter]
    exact ⟨hashed.distinct, hashed.bucket⟩
  · exact chain
  · change (legs s' (active.erase a) ++ cl :: ac :: freeH).Perm (List.range (2 * s'.maxSessions))
    rw [legsAfter, maxAfter]
    exact (erase_twice_perm (legs s active) freeH ac cl acIn clIn).trans table.hashes
  · intro i bound
    change i < s'.maxSessions at bound
    rw [maxAfter] at bound
    exact (congrArg (·.2.2) (data i)).trans (table.numbers i bound)

end ZyAgf.Pppoe.Relay
