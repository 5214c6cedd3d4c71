import ZyAgf.Pppoe.RelayOps

set_option autoImplicit false

namespace ZyAgf.Pppoe.Relay

-- The epochs since a session was last active. The counter wraps, so they are
-- counted modulo 2^32.
def age (s : RelayState) (a : Nat) : Nat := (s.epoch.toNat + 2 ^ 32 - (s.allSessions a).epoch.toNat) % 2 ^ 32

def idle (cfg : Config) (s : RelayState) (a : Nat) : Bool := decide (cfg.idleTimeout.toNat < age s a)

-- The sessions that cleanSessions stands on, one after the other, or none if the
-- loop has not come to the end of the list.
def visited (cfg : Config) : Nat → Option Nat → RelayState → Option (List Nat)
  | 0, _, _ => none
  | _ + 1, none, _ => some []
  | fuel + 1, some cur, s =>
      let next := (s.allSessions cur).next
      let after := if s.epoch - (s.allSessions cur).epoch > cfg.idleTimeout then freeSession s cur else some s
      after.bind fun s => (visited cfg fuel next s).map (cur :: ·)

def idlePayload : List UInt8 := tagBytes ⟨tagGenericError, errMsgBytes idleTimeoutExceeded⟩

-- The PADT to one side of a session: the peer's own number, from the interface
-- that the peer is behind.
def padt (iface : Nat) (i : PPPoEInterface) (leg : Leg) : Sent where
  iface := iface
  sock := .discovery
  frame :=
    { hDest := leg.peerMac
      hSource := i.mac
      vertype := pppoeVerType
      code := codePADT
      session := leg.sesNum
      length := idlePayload.length
      payload := idlePayload }

def padtTo (cfg : Config) (leg : Leg) : List Sent :=
  match leg.interface.bind fun iface => (cfg.interfaces[iface]?).map fun i => (iface, i) with
  | none => []
  | some (iface, i) => [padt iface i leg]

def padtsOf (cfg : Config) (s : RelayState) (a : Nat) : List Sent :=
  ((s.allSessions a).acHash.toList ++ (s.allSessions a).clientHash.toList).flatMap fun p => padtTo cfg (legAt s p)

-- Everything in the two arrays but the links, and the clock.
structure SameRecords (s s' : RelayState) : Prop where
  legs : ∀ p, legAt s' p = legAt s p
  data : ∀ p, sesData s' p = sesData s p
  epochs : ∀ p, (s'.allSessions p).epoch = (s.allSessions p).epoch
  epoch : s'.epoch = s.epoch
  size : s'.maxSessions = s.maxSessions

-- One PADT to the access concentrator and one to the client, each with the number
-- that its receiver knows the session by.
def TwoPadts (cfg : Config) (s : RelayState) (a : Nat) : Prop :=
  ∃ ac cl acIf cliIf acFace cliFace, (s.allSessions a).acHash = some ac ∧ (s.allSessions a).clientHash = some cl ∧
    (legAt s ac).interface = some acIf ∧ (legAt s cl).interface = some cliIf ∧
    cfg.interfaces[acIf]? = some acFace ∧ cfg.interfaces[cliIf]? = some cliFace ∧
    padtsOf cfg s a = [padt acIf acFace (legAt s ac), padt cliIf cliFace (legAt s cl)]

-- What the clean-up has done: the idle sessions are on the free list, the last
-- one first, and the other ones are active in the same order, as are their hash
-- entries in the table.
structure Cleaned (cfg : Config) (s s' : RelayState) (active free : List Nat) (out : List Sent) : Prop where
  lists : ∃ freeH, TableLists s' s.maxSessions (active.filter fun a => !idle cfg s a)
    ((active.filter (idle cfg s)).reverse ++ free)
    (legs s (active.filter fun a => !idle cfg s a)) freeH
  records : SameRecords s s'
  sent : out = (active.filter (idle cfg s)).flatMap (padtsOf cfg s)
  twoEach : ∀ a ∈ active, TwoPadts cfg s a

theorem idle_iff (cfg : Config) (s : RelayState) (a : Nat) :
    s.epoch - (s.allSessions a).epoch > cfg.idleTimeout ↔ idle cfg s a = true := by
  have bound := (s.allSessions a).epoch.toNat_lt
  unfold idle age
  rw [decide_eq_true_iff, gt_iff_lt, UInt32.lt_iff_toNat_lt, UInt32.toNat_sub]
  rw [show s.epoch.toNat + 2 ^ 32 - (s.allSessions a).epoch.toNat = 2 ^ 32 -
    (s.allSessions a).epoch.toNat + s.epoch.toNat by omega]

theorem sameRecords_refl (s : RelayState) : SameRecords s s := ⟨fun _ => rfl, fun _ => rfl, fun _ => rfl, rfl, rfl⟩

theorem sameRecords_trans (s t u : RelayState) (first : SameRecords s t) (second : SameRecords t u) : SameRecords s u :=
  ⟨fun p => (second.legs p).trans (first.legs p), fun p => (second.data p).trans (first.data p),
    fun p => (second.epochs p).trans (first.epochs p), second.epoch.trans first.epoch, second.size.trans first.size⟩

theorem idle_same (cfg : Config) (s s' : RelayState) (same : SameRecords s s') : idle cfg s' = idle cfg s := by
  funext a
  unfold idle age
  rw [same.epoch, same.epochs]

theorem padtsOf_same (cfg : Config) (s s' : RelayState) (same : SameRecords s s') : padtsOf cfg s' = padtsOf cfg s := by
  funext a
  have data := same.data a
  simp only [sesData, Prod.mk.injEq] at data
  unfold padtsOf
  rw [data.1, data.2.1]
  congr 1
  funext p
  rw [same.legs]

theorem dropSession_epochs (s : RelayState) (ses p : Nat) : ((dropSession s ses).allSessions p).epoch =
    (s.allSessions p).epoch := by
  by_cases here : p = ses <;> by_cases behind : (s.allSessions ses).prev = some p <;>
    by_cases ahead : (s.allSessions ses).next = some p <;> simp_all [dropSession]

theorem dropSession_epoch (s : RelayState) (ses : Nat) : (dropSession s ses).epoch = s.epoch := by
  simp [dropSession]

theorem unhash_epoch (s : RelayState) (sh : Nat) : (unhash s sh).epoch = s.epoch := by
  simp [unhash]

theorem freeSession_epochs (s s' : RelayState) (ses : Nat) (freed : freeSession s ses = some s') :
    s'.epoch = s.epoch ∧ ∀ p, (s'.allSessions p).epoch = (s.allSessions p).epoch := by
  obtain ⟨ac, _, freed⟩ := Option.bind_eq_some_iff.mp freed
  obtain ⟨cl, _, freed⟩ := Option.bind_eq_some_iff.mp freed
  obtain rfl := Option.some.inj freed
  constructor
  · change (unhash (unhash (dropSession s ses) ac) cl).epoch = s.epoch
    rw [unhash_epoch, unhash_epoch, dropSession_epoch]
  · intro p
    change ((unhash (unhash (dropSession s ses) ac) cl).allSessions p).epoch = (s.allSessions p).epoch
    rw [(unhash_same _ cl).sessions, (unhash_same _ ac).sessions, dropSession_epochs]

theorem freeSession_cleans (cfg : Config) (s : RelayState) (before rest free freeH : List Nat) (cur : Nat)
    (table : Table cfg s (before ++ cur :: rest) free freeH) :
    ∃ s' freeH', freeSession s cur = some s' ∧ Table cfg s' (before ++ rest) (cur :: free) freeH' ∧
      SameRecords s s' := by
  have member : cur ∈ before ++ cur :: rest := by simp
  obtain ⟨ac, cl, s', freed, after, _, held, data⟩ := freeSession_table cfg s _ free freeH table cur member
  have erased : (before ++ cur :: rest).erase cur = before ++ rest := by
    have distinct := (List.nodup_append.mp (table_distinct cfg s _ free freeH table)).1
    have notBefore : cur ∉ before := fun inside =>
      (List.nodup_append.mp distinct).2.2 cur inside cur List.mem_cons_self rfl
    rw [List.erase_append_right _ notBefore, List.erase_cons_head]
  rw [erased] at after
  obtain ⟨sameEpoch, sameEpochs⟩ := freeSession_epochs s s' cur freed
  exact ⟨s', _, freed, after, held, data, sameEpochs, sameEpoch, freeSession_size s s' cur freed⟩

theorem padt_sent (cfg : Config) (s : RelayState) (p iface : Nat) (i : PPPoEInterface)
    (face : (legAt s p).interface = some iface)
    (known : cfg.interfaces[iface]? = some i) :
    relaySendError cfg codePADT (s.allHashes p).sesNum iface (s.allHashes p).peerMac none idleTimeoutExceeded =
      padtTo cfg (legAt s p) := by
  have room : ¬ (0 > 0 ∨ idlePayload.length + 0 > maxPppoePayload) := by decide +kernel
  unfold relaySendError padtTo
  rw [face, known, Option.bind_some, known]
  dsimp only [Option.map_some, Option.bind_some]
  unfold addTag insertBytes
  rw [show tagBytes ⟨tagGenericError, errMsgBytes idleTimeoutExceeded⟩ = idlePayload from rfl]
  dsimp only
  rw [if_neg room]
  simp [padt, legAt, SessionHash.leg]

theorem padtsOf_paired (cfg : Config) (s : RelayState) (a ac cl : Nat) (pair : Paired cfg s a ac cl) :
    padtsOf cfg s a = padtTo cfg (legAt s ac) ++ padtTo cfg (legAt s cl) := by
  unfold padtsOf
  rw [pair.acHash, pair.clientHash]
  simp

theorem cleanFrom_cleans (cfg : Config) (fuel : Nat) (before rest : List Nat) (s : RelayState) (free freeH : List Nat)
    (table : Table cfg s (before ++ rest) free freeH) (enough : rest.length ≤ fuel) :
    ∃ s' freeH', cleanFrom cfg fuel rest.head? s = some (s', (rest.filter (idle cfg s)).flatMap (padtsOf cfg s)) ∧
      visited cfg (fuel + 1) rest.head? s = some rest ∧
      Table cfg s' (before ++ rest.filter fun a => !idle cfg s a) ((rest.filter (idle cfg s)).reverse ++ free) freeH' ∧
      SameRecords s s' := by
  induction rest generalizing fuel before s free freeH with
  | nil =>
      refine ⟨s, freeH, ?_, rfl, by simpa using table, sameRecords_refl s⟩
      cases fuel <;> rfl
  | cons cur rest ih =>
      cases fuel with
      | zero => simp at enough
      | succ fuel =>
          have shorter : rest.length ≤ fuel := by simpa using enough
          have ahead : (s.allSessions cur).next = rest.head? :=
            chain_next (sesNext s) s.activeSessions before rest cur (chain_of_linked _ _ none _ _ table.activeList)
          unfold cleanFrom visited
          dsimp only [List.head?_cons]
          rw [ahead]
          by_cases old : s.epoch - (s.allSessions cur).epoch > cfg.idleTimeout
          · have isIdle : idle cfg s cur = true := (idle_iff cfg s cur).mp old
            obtain ⟨ac, cl, pair⟩ := table.paired cur (by simp)
            obtain ⟨acIf, acFace, acAt, acKnown⟩ := pair.acInterface
            obtain ⟨cliIf, cliFace, clAt, cliKnown⟩ := pair.clientInterface
            obtain ⟨freed, freeH', ran, after, same⟩ := freeSession_cleans cfg s before rest free freeH cur table
            obtain ⟨s', freeH'', cleaned, passed, final, kept⟩ :=
              ih fuel before freed (cur :: free) freeH' after shorter
            rw [idle_same cfg s freed same] at cleaned final
            rw [padtsOf_same cfg s freed same] at cleaned
            refine ⟨s', freeH'', ?_, ?_, ?_, sameRecords_trans s freed s' same kept⟩
            · rw [if_pos old, pair.acHash, Option.bind_some, pair.clientHash, Option.bind_some,
                show (s.allHashes ac).interface = some acIf from acAt, Option.bind_some,
                show (s.allHashes cl).interface = some cliIf from clAt, Option.bind_some, ran, Option.bind_some,
                  cleaned,
                Option.map_some, padt_sent cfg s ac acIf acFace acAt acKnown,
                  padt_sent cfg s cl cliIf cliFace clAt cliKnown,
                List.filter_cons_of_pos isIdle, List.flatMap_cons, padtsOf_paired cfg s cur ac cl pair]
            · rw [if_pos old, ran, Option.bind_some, passed]
              rfl
            · rw [List.filter_cons_of_neg (by simp [isIdle]), List.filter_cons_of_pos isIdle, List.reverse_cons,
                List.append_assoc]
              exact final
          · have fresh : idle cfg s cur = false := by
              rw [idle_iff] at old
              simpa using old
            have table' : Table cfg s ((before ++ [cur]) ++ rest) free freeH := by
              rw [List.append_assoc]
              exact table
            obtain ⟨s', freeH', cleaned, passed, final, kept⟩ := ih fuel (before ++ [cur]) s free freeH table' shorter
            refine ⟨s', freeH', ?_, ?_, ?_, kept⟩
            · rw [if_neg old, cleaned, List.filter_cons_of_neg (by simp [fresh])]
            · rw [if_neg old, Option.bind_some, passed]
              rfl
            · rw [List.filter_cons_of_pos (by simp [fresh]), List.filter_cons_of_neg (by simp [fresh])]
              rw [List.append_assoc] at final
              exact final

theorem padts_of_table (cfg : Config) (s : RelayState) (active free freeH : List Nat)
    (table : Table cfg s active free freeH)
    (a : Nat) (member : a ∈ active) : TwoPadts cfg s a := by
  obtain ⟨ac, cl, pair⟩ := table.paired a member
  obtain ⟨acIf, acFace, acAt, acKnown⟩ := pair.acInterface
  obtain ⟨cliIf, cliFace, clAt, cliKnown⟩ := pair.clientInterface
  refine ⟨ac, cl, acIf, cliIf, acFace, cliFace, pair.acHash, pair.clientHash, acAt, clAt, acKnown, cliKnown, ?_⟩
  rw [padtsOf_paired cfg s a ac cl pair]
  unfold padtTo
  rw [acAt, clAt, Option.bind_some, Option.bind_some, acKnown, cliKnown]
  rfl

-- For every table, whatever the epochs in it and the counter are.
theorem cleanSessions_frees_idle (cfg : Config) (s : RelayState) (active free freeH : List Nat)
    (table : Table cfg s active free freeH) :
    ∃ s' out, cleanSessions cfg s = some (s', out) ∧ Cleaned cfg s s' active free out ∧
      ∀ fuel, active.length < fuel → visited cfg fuel s.activeSessions s = some active := by
  have first : s.activeSessions = active.head? :=
    chain_head (sesNext s) _ active (chain_of_linked _ _ none _ _ table.activeList)
  obtain ⟨s', freeH', cleaned, _, after, same⟩ := cleanFrom_cleans cfg s.maxSessions [] active s free freeH table
    (active_length cfg s active free freeH table)
  refine ⟨s', _, ?_, ⟨⟨freeH', ?_⟩, same, rfl, fun a member => padts_of_table cfg s active free freeH table a member⟩,
    ?_⟩
  · unfold cleanSessions
    rw [first]
    exact cleaned
  · have lists := tableLists_of_table cfg s' s.maxSessions same.size _ _ freeH' after
    rw [List.nil_append, legs_congr s s' _ fun a _ => same.data a] at lists
    exact lists
  · intro fuel enough
    cases fuel with
    | zero => omega
    | succ fuel =>
        obtain ⟨_, _, _, passed, _⟩ := cleanFrom_cleans cfg fuel [] active s free freeH table (Nat.le_of_lt_succ enough)
        rw [first]
        exact passed

-- The counter wraps between the two sessions; only the older one is idle.
def quickFaces : Config := { twoFaces with idleTimeout := 1 }

def lateRelay : RelayState := { initRelay 2 with epoch := 4294967295 }

def lateOps : List TableOp :=
  [.create ⟨1, 0, macAddr 6 0 0 0 0 1, macAddr 2 0 0 0 0 1, 5⟩, .alarm,
    .create ⟨1, 0, macAddr 6 0 0 0 0 1, macAddr 2 0 0 0 0 2, 6⟩, .alarm]

theorem cleanSessions_frees_idle_late : ∃ s active free, Run.play (tableStep quickFaces) lateRelay lateOps = some s ∧
    s.epoch = 1 ∧
    ∃ s' out, cleanSessions quickFaces s = some (s', out) ∧ Cleaned quickFaces s s' active free out ∧
      s'.numSessions = 1 ∧
      out.length = 2 := by
  have scene : (Run.play (tableStep quickFaces) lateRelay lateOps).any (fun s => s.epoch == 1 &&
      (cleanSessions quickFaces s).any fun result => result.1.numSessions == 1 && result.2.length == 2) = true := by
    decide +kernel
  have allowed : Run.Meets (Allowed quickFaces) (Run.trace (tableStep quickFaces) lateRelay lateOps) := by
    decide +kernel
  have start : Table quickFaces lateRelay [] (List.range 2) (List.range (2 * 2)) :=
    table_congr quickFaces (initRelay 2) lateRelay [] _ _ rfl rfl rfl (fun _ => rfl) ⟨rfl, rfl, rfl, rfl, rfl, rfl⟩
      (initRelay_table quickFaces 2 (by decide) (by decide))
  obtain ⟨s, played, good⟩ := (Option.any_eq_true _ _).mp scene
  obtain ⟨active, free, freeH, table⟩ := Run.invariant (Allowed quickFaces)
    (fun s => ∃ active free freeH, Table quickFaces s active free freeH) ⟨[], _, _, start⟩
    (fun state op after ⟨active, free, freeH, table⟩ ok moved => by
      obtain ⟨s', active', free', freeH', moved', table'⟩ :=
        tableStep_table quickFaces state active free freeH table op ok
      obtain rfl := Option.some.inj (moved.symm.trans moved')
      exact ⟨active', free', freeH', table'⟩) (Run.of_play lateOps s played) allowed
  obtain ⟨s', out, ran, cleaned, _⟩ := cleanSessions_frees_idle quickFaces s active free freeH table
  rw [ran] at good
  simp only [Option.any_some, Bool.and_eq_true, beq_iff_eq] at good
  exact ⟨s, active, free, played, good.1, s', out, ran, cleaned, good.2.1, good.2.2⟩

end ZyAgf.Pppoe.Relay
