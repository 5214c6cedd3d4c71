import ZyAgf.Pppoe.RelayRun

set_option autoImplicit false

namespace ZyAgf.Pppoe.Relay

def Leg.key (l : Leg) : Mac × UInt16 := (l.peerMac, l.sesNum)

-- Every leg of an active session is found under its own pair, and no two hashed
-- legs share one.
structure Unambiguous (s : RelayState) : Prop where
  found : ∀ a ∈ activeList s, ∀ p ∈ legsOf s a, findSession s (legAt s p).peerMac (legAt s p).sesNum = some p
  distinct : ((legs s (activeList s)).map fun p => (legAt s p).key).Nodup

instance (s : RelayState) : Decidable (Unambiguous s) :=
  decidable_of_iff
    ((∀ a ∈ activeList s, ∀ p ∈ legsOf s a, findSession s (legAt s p).peerMac (legAt s p).sesNum = some p) ∧
      ((legs s (activeList s)).map fun p => (legAt s p).key).Nodup)
    ⟨fun both => ⟨both.1, both.2⟩, fun clear => ⟨clear.found, clear.distinct⟩⟩

-- What a PADS must satisfy when it opens a session: the pair handed out to its
-- client is not in the table and is not the one the access concentrator sent.
def FreshClientLeg (cfg : Config) (s : RelayState) (event : Event) : Prop :=
  ∀ pads ∈ opening cfg s event, ∀ sess ∈ s.freeSessions,
    findSession s pads.2.2.mac (s.allSessions sess).sesNum = none ∧
      ¬ (pads.2.2.mac = pads.2.1.hSource ∧ (s.allSessions sess).sesNum = pads.2.1.session)

instance (cfg : Config) (s : RelayState) (event : Event) : Decidable (FreshClientLeg cfg s event) :=
  inferInstanceAs (Decidable (∀ pads ∈ opening cfg s event, ∀ sess ∈ s.freeSessions, _))

theorem matches_key (l : Leg) (mac : Mac) (sesNum : UInt16) : l.matches mac sesNum = true ↔ l.key = (mac, sesNum) := by
  simp [Leg.matches, Leg.key]

theorem find_by_key (entries : List Nat) (legOf : Nat → Leg) (distinct : (entries.map fun p => (legOf p).key).Nodup)
    (p : Nat) (member : p ∈ entries) :
    entries.find? (fun q => (legOf q).matches (legOf p).peerMac (legOf p).sesNum) = some p := by
  induction entries with
  | nil => cases member
  | cons q rest ih =>
      rw [List.map_cons, List.nodup_cons] at distinct
      rcases List.mem_cons.mp member with rfl | later
      · exact List.find?_cons_of_pos ((matches_key _ _ _).mpr rfl)
      · have other : (legOf q).matches (legOf p).peerMac (legOf p).sesNum = false := by
          rw [← Bool.not_eq_true, matches_key]
          intro same
          exact distinct.1 (List.mem_map.mpr ⟨p, later, same.symm⟩)
        simp only [List.find?_cons, other]
        exact ih distinct.2 later

theorem absent_key (cfg : Config) (s : RelayState) (active free freeH : List Nat)
    (table : Table cfg s active free freeH) (mac : Mac) (sesNum : UInt16) (absent : findSession s mac sesNum = none) :
    (mac, sesNum) ∉ (legs s active).map fun p => (legAt s p).key := by
  rw [findSession_eq cfg s active free freeH table, List.find?_eq_none] at absent
  intro inside
  obtain ⟨p, member, same⟩ := List.mem_map.mp inside
  exact absent p member ((matches_key _ _ _).mpr same)

def Distinct (cfg : Config) (s : RelayState) : Prop :=
  ∃ active free freeH, Table cfg s active free freeH ∧ ((legs s active).map fun p => (legAt s p).key).Nodup

theorem distinct_unambiguous (cfg : Config) (s : RelayState) (distinct : Distinct cfg s) : Unambiguous s := by
  obtain ⟨active, free, freeH, table, keys⟩ := distinct
  have listed := activeList_eq cfg s active free freeH table
  constructor
  · intro a member p leg
    rw [listed] at member
    have inside : p ∈ legs s active := List.mem_flatMap.mpr ⟨a, member, leg⟩
    rw [findSession_eq cfg s active free freeH table]
    exact find_by_key (legs s active) (legAt s) keys p inside
  · rw [listed]
    exact keys

theorem next_distinct (cfg : Config) (s s' : RelayState) (event : Event) (distinct : Distinct cfg s)
    (fresh : FreshClientLeg cfg s event) (moved : next cfg s event = some s') : Distinct cfg s' := by
  obtain ⟨active, free, freeH, table, keys⟩ := distinct
  rcases step_table cfg s active free freeH table event (next_enabled cfg s s' event moved) with
    ⟨_, after, active', free', freeH', reached, kept, shrunk⟩ |
    ⟨iface, packet, tag, sess, acHash, cliHash, after, free', freeH', opens, head, reached, kept, grown,
      ⟨acNew, cliNew⟩, opened⟩
  · obtain rfl := Option.some.inj (moved.symm.trans reached)
    refine ⟨active', free', freeH', kept, ?_⟩
    simp only [shrunk.legs]
    exact keys.sublist (shrunk.fewerLegs.map _)
  · obtain rfl := Option.some.inj (moved.symm.trans reached)
    obtain ⟨absent, apart⟩ := fresh (iface, packet, tag) opens sess head
    have acAbsent : findSession s packet.hSource packet.session = none := by
      have filtered := (Option.filter_eq_some_iff.mp opens).2
      simp only [decide_eq_true_eq] at filtered
      exact filtered.2.1
    have oldKeys : (legs s active).map (fun p => (legAt s' p).key) = (legs s active).map fun p => (legAt s p).key := by
      refine List.map_congr_left fun p member => ?_
      rw [opened.otherLegs p (fun same => acNew (same ▸ member)) (fun same => cliNew (same ▸ member))]
    refine ⟨sess :: active, free', freeH', kept, ?_⟩
    rw [grown, List.map_cons, List.map_cons, oldKeys, opened.clientLeg, opened.acLeg, List.nodup_cons, List.nodup_cons]
    refine ⟨?_, absent_key cfg s active free freeH table _ _ acAbsent, keys⟩
    rw [List.mem_cons]
    rintro (same | inside)
    · simp only [Leg.key, Prod.mk.injEq] at same
      exact apart same
    · exact absent_key cfg s active free freeH table _ _ absent inside

-- Lookup stays unambiguous for as long as every opened session gets a client
-- pair that nothing else in the table answers to.
theorem relay_lookup_unambiguous (cfg : Config) (nsess : Nat) (positive : 1 ≤ nsess) (bounded : nsess ≤ 65534)
    (visits : List (RelayState × Event)) (s : RelayState) (run : Run (next cfg) (initRelay nsess) visits s)
    (fresh : Run.Meets (FreshClientLeg cfg) visits) : Unambiguous s := by
  refine distinct_unambiguous cfg s (run.invariant (FreshClientLeg cfg) (Distinct cfg) ?_ ?_ fresh)
  · exact ⟨[], _, _, initRelay_table cfg nsess positive bounded, List.nodup_nil⟩
  · intro state event after kept allowed moved
    exact next_distinct cfg state after event kept allowed moved

-- A host that serves sessions on one side of the relay and asks for one on the
-- other. Interface 0 faces clients, interface 1 the access concentrators.
def twoSides : Config where
  interfaces := [⟨true, false, macAddr 2 0 0 0 0 1⟩, ⟨false, true, macAddr 2 0 0 0 0 2⟩]
  cleanPeriod := 30
  idleTimeout := 600

def padsFrame (acMac cliMac : Mac) (session : UInt16) : Event :=
  .discovery 1
    { hDest := macAddr 2 0 0 0 0 2
      hSource := acMac
      vertype := pppoeVerType
      code := codePADS
      session := session
      length := 14
      payload := tagBytes ⟨tagRelaySessionId, intBytes 0 ++ cliMac.toList⟩ }

def hostMac : Mac := macAddr 2 0 0 0 0 9

theorem relay_lookup_unambiguous_opened : ∃ s,
    next twoSides (initRelay 4) (padsFrame hostMac #v[2, 0, 0, 0, 0, 7] 0x0200) = some s ∧
    activeList s = [0] ∧ Unambiguous s := by
  obtain ⟨s, moved⟩ := Option.isSome_iff_exists.mp
    (show (next twoSides (initRelay 4) (padsFrame hostMac #v[2, 0, 0, 0, 0, 7] 0x0200)).isSome = true by decide +kernel)
  have listed : (next twoSides (initRelay 4) (padsFrame hostMac #v[2, 0, 0, 0, 0, 7] 0x0200)).map activeList = some
    [0] := by
    decide +kernel
  rw [moved] at listed
  refine ⟨s, moved, Option.some.inj listed, relay_lookup_unambiguous twoSides 4 (by decide) (by decide)
    ([] ++ [(initRelay 4, padsFrame hostMac #v[2, 0, 0, 0, 0, 7] 0x0200)]) s (Run.start.snoc _ _ _ _ moved) ?_⟩
  rw [Run.meets_snoc]
  exact ⟨Run.meets_nil _, by decide +kernel⟩

-- The host's AC leg carries session number 2; the relay then hands number 2 to
-- the same host as a client, and the new leg hides the old one.
theorem relay_lookup_shadowed : ¬ ∀ (cfg : Config) (nsess : Nat), 1 ≤ nsess → nsess ≤ 65534 →
    ∀ visits s, Run (next cfg) (initRelay nsess) visits s → Unambiguous s := by
  intro claimed
  have shadowed : (Run.play (next twoSides) (initRelay 4)
      [padsFrame hostMac #v[2, 0, 0, 0, 0, 7] 0x0200, padsFrame #v[2, 0, 0, 0, 0, 8] hostMac 0x0500]).any
      (fun s => decide (¬ Unambiguous s)) = true := by
    decide +kernel
  obtain ⟨s, played, broken⟩ := (Option.any_eq_true _ _).mp shadowed
  exact of_decide_eq_true broken (claimed twoSides 4 (by decide) (by decide) _ s (Run.of_play _ s played))

end ZyAgf.Pppoe.Relay
