import ZyAgf.Pppoe.RelayRun

set_option autoImplicit false

namespace ZyAgf.Pppoe.Relay

-- The arguments of createSession.
structure Request where
  ac : Nat
  cli : Nat
  acMac : Mac
  cliMac : Mac
  acSes : UInt16

def Request.create (request : Request) (s : RelayState) : Option (Option Nat × RelayState) :=
  createSession s request.ac request.cli request.acMac request.cliMac request.acSes

-- The operations on the table by themselves, and what moves the epochs between
-- them: an alarm, and a packet of a session.
inductive TableOp where
  | create (request : Request)
  | free (ses : Nat)
  | clean
  | find (mac : Mac) (sesNum : UInt16)
  | alarm
  | refresh (ses : Nat)

def tableStep (cfg : Config) (s : RelayState) : TableOp → Option RelayState
  | .create request => (request.create s).map (·.2)
  | .free ses => freeSession s ses
  | .clean => (cleanSessions cfg s).map (·.1)
  | .find _ _ => some s
  | .alarm => some (alarmHandler cfg s)
  | .refresh ses => some (s.updSession ses fun x => { x with epoch := s.epoch })

def Request.Known (cfg : Config) (request : Request) : Prop :=
  request.ac < cfg.interfaces.length ∧ request.cli < cfg.interfaces.length

-- The callers hand createSession interfaces that were opened, and freeSession
-- sessions that are active.
def Allowed (cfg : Config) (s : RelayState) : TableOp → Prop
  | .create request => request.Known cfg
  | .free ses => ses ∈ activeList s
  | _ => True

instance (cfg : Config) (s : RelayState) : (op : TableOp) → Decidable (Allowed cfg s op)
  | .create request =>
      inferInstanceAs (Decidable (request.ac < cfg.interfaces.length ∧ request.cli < cfg.interfaces.length))
  | .free ses => inferInstanceAs (Decidable (ses ∈ activeList s))
  | .clean => inferInstanceAs (Decidable True)
  | .find _ _ => inferInstanceAs (Decidable True)
  | .alarm => inferInstanceAs (Decidable True)
  | .refresh _ => inferInstanceAs (Decidable True)

-- The four linked structures over the two arrays, taken together.
structure TableLists (s : RelayState) (nsess : Nat) (active free hashed freeH : List Nat) : Prop where
  sessions : (active ++ free).Perm (List.range nsess)
  hashes : (hashed ++ freeH).Perm (List.range (2 * nsess))
  activeList : Linked (sesNext s) (sesPrev s) none s.activeSessions active
  freeList : Chain (sesNext s) s.freeSessions free
  buckets : ∀ b, Linked (hashNext s) (hashPrev s) none (s.buckets b)
    (hashed.filter fun p => bucketOf (s.allHashes p).peerMac (s.allHashes p).sesNum == b)
  freeHashes : Chain (hashNext s) s.freeHashes freeH
  peers : ∀ a ∈ active, ∃ ac cl, (s.allSessions a).acHash = some ac ∧ (s.allSessions a).clientHash = some cl ∧
    (s.allHashes ac).peer = some cl ∧ (s.allHashes cl).peer = some ac ∧
    (s.allHashes ac).ses = some a ∧ (s.allHashes cl).ses = some a
  owned : ∀ p ∈ hashed, ∃ a ∈ active, (s.allSessions a).acHash = some p ∨ (s.allSessions a).clientHash = some p
  count : s.numSessions = active.length
  search : ∀ mac sesNum, findSession s mac sesNum =
    hashed.find? fun p => (s.allHashes p).peerMac == mac && (s.allHashes p).sesNum == sesNum

theorem tableLists_of_table (cfg : Config) (s : RelayState) (nsess : Nat) (size : s.maxSessions = nsess)
    (active free freeH : List Nat) (table : Table cfg s active free freeH) :
    TableLists s nsess active free (legs s active) freeH where
  sessions := size ▸ table.sessions
  hashes := size ▸ table.hashes
  activeList := table.activeList
  freeList := table.freeList
  buckets := table.hashed.bucket
  freeHashes := table.freeHashList
  peers := by
    intro a member
    obtain ⟨ac, cl, pair⟩ := table.paired a member
    exact ⟨ac, cl, pair.acHash, pair.clientHash, pair.acPeer, pair.clientPeer, pair.acOwner, pair.clientOwner⟩
  owned := by
    intro p member
    obtain ⟨a, inside, ac, cl, pair, rfl | rfl⟩ := (mem_legs cfg s active free freeH table p).mp member
    · exact ⟨a, inside, .inr pair.clientHash⟩
    · exact ⟨a, inside, .inl pair.acHash⟩
  count := table.count
  search := findSession_eq cfg s active free freeH table

theorem freeSession_size (s s' : RelayState) (ses : Nat) (freed : freeSession s ses = some s') :
    s'.maxSessions = s.maxSessions := by
  obtain ⟨ac, _, freed⟩ := Option.bind_eq_some_iff.mp freed
  obtain ⟨cl, _, freed⟩ := Option.bind_eq_some_iff.mp freed
  obtain rfl := Option.some.inj freed
  have one := unhash_same (dropSession s ses) ac
  have both := unhash_same (unhash (dropSession s ses) ac) cl
  exact both.maxSessions.trans (one.maxSessions.trans (dropSession_rest s ses).2.2.2.2.2.2)

theorem cleanFrom_size (cfg : Config) (fuel : Nat) (cur : Option Nat) (s : RelayState) (result : RelayState × List Sent)
    (ran : cleanFrom cfg fuel cur s = some result) : result.1.maxSessions = s.maxSessions := by
  induction fuel generalizing cur s result with
  | zero =>
      obtain rfl := Option.some.inj ran
      rfl
  | succ fuel ih =>
      cases cur with
      | none =>
          obtain rfl := Option.some.inj ran
          rfl
      | some cur =>
          unfold cleanFrom at ran
          dsimp only at ran
          split at ran
          · obtain ⟨_, _, ran⟩ := Option.bind_eq_some_iff.mp ran
            obtain ⟨_, _, ran⟩ := Option.bind_eq_some_iff.mp ran
            obtain ⟨_, _, ran⟩ := Option.bind_eq_some_iff.mp ran
            obtain ⟨_, _, ran⟩ := Option.bind_eq_some_iff.mp ran
            obtain ⟨freed, first, ran⟩ := Option.bind_eq_some_iff.mp ran
            obtain ⟨rest, later, rfl⟩ := Option.map_eq_some_iff.mp ran
            exact (ih _ freed rest later).trans (freeSession_size s freed cur first)
          · exact ih _ s result ran

theorem createSession_size (s : RelayState) (request : Request) (made : Option Nat × RelayState)
    (ran : request.create s = some made) : made.2.maxSessions = s.maxSessions := by
  unfold Request.create createSession at ran
  split at ran
  · obtain rfl := Option.some.inj ran
    rfl
  · obtain ⟨sess, _, ran⟩ := Option.bind_eq_some_iff.mp ran
    obtain ⟨acHash, _, ran⟩ := Option.bind_eq_some_iff.mp ran
    obtain ⟨cliHash, _, ran⟩ := Option.bind_eq_some_iff.mp ran
    obtain rfl := Option.some.inj ran
    exact (openSession_rest s sess acHash cliHash request.ac request.cli request.acMac request.cliMac
      request.acSes).2.2.2.2

theorem tableStep_size (cfg : Config) (s s' : RelayState) (op : TableOp) (moved : tableStep cfg s op = some s') :
    s'.maxSessions = s.maxSessions := by
  cases op with
  | create request =>
      obtain ⟨made, ran, rfl⟩ := Option.map_eq_some_iff.mp moved
      exact createSession_size s request made ran
  | free ses => exact freeSession_size s s' ses moved
  | clean =>
      obtain ⟨result, ran, rfl⟩ := Option.map_eq_some_iff.mp moved
      exact cleanFrom_size cfg _ _ s result ran
  | find mac sesNum =>
      obtain rfl := Option.some.inj moved
      rfl
  | alarm =>
      obtain rfl := Option.some.inj moved
      rfl
  | refresh ses =>
      obtain rfl := Option.some.inj moved
      rfl

theorem create_room (cfg : Config) (s : RelayState) (active free freeH : List Nat)
    (table : Table cfg s active free freeH)
    (some' : s.freeSessions ≠ none) : s.numSessions < s.maxSessions := by
  have total := table.sessions.length_eq
  rw [List.length_append, List.length_range] at total
  have head := chain_head _ _ _ table.freeList
  rw [table.count]
  cases free with
  | nil => exact absurd head some'
  | cons sess rest =>
      rw [List.length_cons] at total
      omega

theorem create_table (cfg : Config) (s : RelayState) (active free freeH : List Nat)
    (table : Table cfg s active free freeH)
    (request : Request) (known : request.Known cfg) (room : s.numSessions < s.maxSessions) :
    ∃ sess s' free' freeH', request.create s = some (some sess, s') ∧ Table cfg s' (sess :: active) free' freeH' := by
  obtain ⟨sess, free', _, _, freeH', s', _, made, after, _⟩ :=
    createSession_table cfg s active free freeH table room request.ac request.cli request.acMac request.cliMac
      request.acSes
      ⟨_, List.getElem?_eq_getElem known.1⟩ ⟨_, List.getElem?_eq_getElem known.2⟩
  exact ⟨sess, s', free', freeH', made, after⟩

theorem tableStep_table (cfg : Config) (s : RelayState) (active free freeH : List Nat)
    (table : Table cfg s active free freeH)
    (op : TableOp) (allowed : Allowed cfg s op) :
    ∃ s' active' free' freeH', tableStep cfg s op = some s' ∧ Table cfg s' active' free' freeH' := by
  cases op with
  | create request =>
      by_cases room : s.numSessions < s.maxSessions
      · obtain ⟨sess, s', free', freeH', made, after⟩ := create_table cfg s active free freeH table request allowed room
        exact ⟨s', _, free', freeH', by rw [tableStep, made]; rfl, after⟩
      · refine ⟨s, active, free, freeH, ?_, table⟩
        rw [tableStep, Request.create, createSession_full s _ _ _ _ _ (Nat.not_lt.mp room)]
        rfl
  | free ses =>
      have member : ses ∈ active := activeList_eq cfg s active free freeH table ▸ allowed
      obtain ⟨s', free', freeH', freed, after, _⟩ := freeSession_shrunk cfg s active free freeH table ses member
      exact ⟨s', _, free', freeH', freed, after⟩
  | clean =>
      obtain ⟨s', active', free', freeH', ran, after, _⟩ := cleanSessions_shrinks cfg s active free freeH table
      exact ⟨s', active', free', freeH', ran, after⟩
  | find mac sesNum => exact ⟨s, active, free, freeH, rfl, table⟩
  | alarm =>
      exact ⟨_, active, free, freeH, rfl,
        table_congr cfg s _ active free freeH rfl rfl rfl (fun _ => rfl) ⟨rfl, rfl, rfl, rfl, rfl, rfl⟩ table⟩
  | refresh ses => exact ⟨_, active, free, freeH, rfl, table_touch cfg s active free freeH ses s.epoch table⟩

theorem frees_table (cfg : Config) (order : List Nat) (s : RelayState) (active free freeH : List Nat)
    (table : Table cfg s active free freeH) (all : order.Perm active) :
    ∃ s' free' freeH', Run.play (tableStep cfg) s (order.map .free) = some s' ∧ Table cfg s' [] free' freeH' ∧
      s'.maxSessions = s.maxSessions := by
  induction order generalizing s active free freeH with
  | nil =>
      obtain rfl := all.nil_eq
      exact ⟨s, free, freeH, rfl, table, rfl⟩
  | cons ses order ih =>
      have member : ses ∈ active := all.subset List.mem_cons_self
      obtain ⟨freed, free', freeH', moved, after, _⟩ := freeSession_shrunk cfg s active free freeH table ses member
      have rest : order.Perm (active.erase ses) := by simpa using all.erase ses
      obtain ⟨s', free'', freeH'', played, last, size⟩ := ih freed _ free' freeH' after rest
      refine ⟨s', free'', freeH'', ?_, last, size.trans (freeSession_size s freed ses moved)⟩
      rw [List.map_cons, Run.play, tableStep, moved, Option.bind_some]
      exact played

theorem creates_table (cfg : Config) (requests : List Request) (s : RelayState) (active free freeH : List Nat)
    (table : Table cfg s active free freeH) (known : ∀ request ∈ requests, request.Known cfg)
    (room : s.numSessions + requests.length ≤ s.maxSessions) :
    ∃ s' active' free' freeH', Run.play (tableStep cfg) s (requests.map .create) = some s' ∧
      Table cfg s' active' free' freeH' ∧ s'.numSessions = s.numSessions + requests.length := by
  induction requests generalizing s active free freeH with
  | nil => exact ⟨s, active, free, freeH, rfl, table, rfl⟩
  | cons request requests ih =>
      rw [List.length_cons] at room
      obtain ⟨first, later⟩ := List.forall_mem_cons.mp known
      obtain ⟨sess, made, free', freeH', created, after⟩ :=
        create_table cfg s active free freeH table request first (by omega)
      have size := createSession_size s request _ created
      have more : made.numSessions = s.numSessions + 1 := by rw [after.count, table.count, List.length_cons]
      obtain ⟨s', active', free'', freeH'', played, last, count⟩ :=
        ih made _ free' freeH' after later (by rw [more, size]; omega)
      refine ⟨s', active', free'', freeH'', ?_, last, by rw [count, more, List.length_cons]; omega⟩
      rw [List.map_cons, Run.play, tableStep, created, Option.map_some, Option.bind_some]
      exact played

-- What can be done in a state: any operation, a create while a session is free,
-- and after everything was freed as many creates as there are sessions.
structure Serves (cfg : Config) (s : RelayState) (nsess : Nat) (active : List Nat) : Prop where
  steps : ∀ op, Allowed cfg s op → ∃ s', tableStep cfg s op = some s'
  creates : s.freeSessions ≠ none → ∀ request : Request, request.Known cfg →
    ∃ sess s', request.create s = some (some sess, s')
  refills : ∀ order : List Nat, order.Perm active → ∃ s', Run.play (tableStep cfg) s (order.map .free) = some s' ∧
    s'.numSessions = 0 ∧ ∀ requests : List Request, requests.length = nsess →
      (∀ request ∈ requests, request.Known cfg) →
      ∃ s'', Run.play (tableStep cfg) s' (requests.map .create) = some s'' ∧ s''.numSessions = nsess

theorem serves_of_table (cfg : Config) (s : RelayState) (nsess : Nat) (size : s.maxSessions = nsess)
    (active free freeH : List Nat) (table : Table cfg s active free freeH) : Serves cfg s nsess active where
  steps := by
    intro op allowed
    obtain ⟨s', _, _, _, moved, _⟩ := tableStep_table cfg s active free freeH table op allowed
    exact ⟨s', moved⟩
  creates := by
    intro some' request known
    obtain ⟨sess, s', _, _, made, _⟩ :=
      create_table cfg s active free freeH table request known (create_room cfg s active free freeH table some')
    exact ⟨sess, s', made⟩
  refills := by
    intro order all
    obtain ⟨s', free', freeH', played, after, size'⟩ := frees_table cfg order s active free freeH table all
    refine ⟨s', played, after.count, fun requests length known => ?_⟩
    obtain ⟨s'', _, _, _, again, _, count⟩ := creates_table cfg requests s' [] free' freeH' after known (by
      rw [after.count, size', size, length, List.length_nil]
      omega)
    exact ⟨s'', again, by rw [count, after.count, length, List.length_nil, Nat.zero_add]⟩

-- From initRelay on, every sequence of operations keeps the table whole.
theorem relay_table_invariant (cfg : Config) (nsess : Nat) (positive : 1 ≤ nsess) (bounded : nsess ≤ 65534)
    {visits : List (RelayState × TableOp)} {s : RelayState} (run : Run (tableStep cfg) (initRelay nsess) visits s)
    (allowed : Run.Meets (Allowed cfg) visits) :
    ∃ active free hashed freeH, TableLists s nsess active free hashed freeH ∧ Serves cfg s nsess active := by
  have held : s.maxSessions = nsess ∧ ∃ active free freeH, Table cfg s active free freeH := by
    refine Run.invariant (Allowed cfg) (fun s => s.maxSessions = nsess ∧ ∃ active free freeH,
      Table cfg s active free freeH)
      ⟨rfl, [], _, _, initRelay_table cfg nsess positive bounded⟩ ?_ run allowed
    rintro state op after ⟨size, active, free, freeH, table⟩ ok moved
    obtain ⟨s', active', free', freeH', moved', table'⟩ := tableStep_table cfg state active free freeH table op ok
    obtain rfl := Option.some.inj (moved.symm.trans moved')
    exact ⟨(tableStep_size cfg state after op moved).trans size, active', free', freeH', table'⟩
  obtain ⟨size, active, free, freeH, table⟩ := held
  exact ⟨active, free, _, freeH, tableLists_of_table cfg s nsess size active free freeH table,
    serves_of_table cfg s nsess size active free freeH table⟩

-- Two sessions are opened on two slots, and the older one is given back.
def twoFaces : Config where
  interfaces := [⟨true, false, macAddr 4 0 0 0 0 1⟩, ⟨false, true, macAddr 4 0 0 0 0 2⟩]
  cleanPeriod := 30
  idleTimeout := 600

def sampleOps : List TableOp :=
  [.create ⟨1, 0, macAddr 6 0 0 0 0 1, macAddr 2 0 0 0 0 1, 5⟩,
    .create ⟨1, 0, macAddr 6 0 0 0 0 1, macAddr 2 0 0 0 0 2, 6⟩,
    .find (macAddr 6 0 0 0 0 1) 5, .free 0]

theorem relay_table_invariant_reused : ∃ s, Run.play (tableStep twoFaces) (initRelay 2) sampleOps = some s ∧
    s.freeSessions = some 0 ∧ ∃ active free hashed freeH, TableLists s 2 active free hashed freeH ∧
      Serves twoFaces s 2 active := by
  have scene : (Run.play (tableStep twoFaces) (initRelay 2) sampleOps).any
    (fun s => s.freeSessions == some 0) = true := by
    decide +kernel
  have allowed : Run.Meets (Allowed twoFaces) (Run.trace (tableStep twoFaces) (initRelay 2) sampleOps) := by
    decide +kernel
  obtain ⟨s, played, head⟩ := (Option.any_eq_true _ _).mp scene
  exact ⟨s, played, by simpa using head,
    relay_table_invariant twoFaces 2 (by decide) (by decide) (Run.of_play sampleOps s played) allowed⟩

end ZyAgf.Pppoe.Relay
