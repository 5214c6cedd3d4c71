import ZyAgf.Pppoe.RelayAgreement
import ZyAgf.Pppoe.RelayIngress

set_option autoImplicit false

namespace ZyAgf.Pppoe.Relay

inductive Side where
  | client
  | ac
deriving DecidableEq, Repr

def Side.across : Side → Side
  | .client => .ac
  | .ac => .client

def sideLeg (s : RelayState) (a : Nat) : Side → Option Nat
  | .client => (s.allSessions a).clientHash
  | .ac => (s.allSessions a).acHash

-- The pair a packet of the session carries when it leaves towards a side.
def egress (s : RelayState) (a : Nat) (side : Side) : Option (Mac × UInt16) := (sideLeg s a side).map fun p =>
    (legAt s p).key

-- No two active sessions have the same access concentrator and number there.
def ApartAtAc (s : RelayState) (active : List Nat) : Prop := (active.map fun a => egress s a .ac).Nodup

theorem egress_congr (s s' : RelayState) (a : Nat) (side : Side) (legs : ∀ p ∈ legsOf s a, legAt s' p = legAt s p)
    (data : sesData s' a = sesData s a) : egress s' a side = egress s a side := by
  simp only [sesData, Prod.mk.injEq] at data
  obtain ⟨sameAc, sameClient, _⟩ := data
  unfold egress
  cases side with
  | client =>
      rw [show sideLeg s' a .client = sideLeg s a .client from sameClient]
      refine Option.map_congr fun p here => ?_
      rw [legs p (List.mem_append_left _ (Option.mem_toList.mpr here))]
  | ac =>
      rw [show sideLeg s' a .ac = sideLeg s a .ac from sameAc]
      refine Option.map_congr fun p here => ?_
      rw [legs p (List.mem_append_right _ (Option.mem_toList.mpr here))]

theorem shrunk_apart (s s' : RelayState) (active active' : List Nat) (shrunk : Shrunk s s' active active')
    (apart : ApartAtAc s active) : ApartAtAc s' active' := by
  have same : (active'.map fun a => egress s' a .ac) = active'.map fun a => egress s a .ac :=
    List.map_congr_left fun a _ => egress_congr s s' a .ac (fun p _ => shrunk.legs p) (shrunk.data a)
  unfold ApartAtAc
  rw [same]
  exact List.Nodup.sublist (shrunk.fewer.map _) apart

theorem opened_apart (cfg : Config) (s s' : RelayState) (active free freeH : List Nat)
    (table : Table cfg s active free freeH)
    (sess acHash cliHash ac cli : Nat) (acMac cliMac : Mac) (acSes : UInt16)
    (opened : Opened s s' sess acHash cliHash ac cli acMac cliMac acSes) (fresh : sess ∉ active)
    (acNew : acHash ∉ legs s active) (cliNew : cliHash ∉ legs s active) (absent : findSession s acMac acSes = none)
    (apart : ApartAtAc s active) : ApartAtAc s' (sess :: active) := by
  have old : ∀ a ∈ active, egress s' a .ac = egress s a .ac := by
    intro a member
    refine egress_congr s s' a .ac (fun p leg => ?_) (opened.otherData a fun same => fresh (same ▸ member))
    have inside : p ∈ legs s active := List.mem_flatMap.mpr ⟨a, member, leg⟩
    exact opened.otherLegs p (fun same => acNew (same ▸ inside)) fun same => cliNew (same ▸ inside)
  have own : egress s' sess .ac = some (acMac, acSes) := by
    have data := opened.ownData
    simp only [sesData, Prod.mk.injEq] at data
    unfold egress
    rw [show sideLeg s' sess .ac = some acHash from data.1, Option.map_some, opened.acLeg]
    rfl
  unfold ApartAtAc
  rw [List.map_cons, own, List.map_congr_left old, List.nodup_cons]
  refine ⟨fun inside => ?_, apart⟩
  obtain ⟨a, member, same⟩ := List.mem_map.mp inside
  obtain ⟨p, leg, key⟩ := Option.map_eq_some_iff.mp same
  have listed : p ∈ legs s active :=
    List.mem_flatMap.mpr ⟨a, member, List.mem_append_right _ (Option.mem_toList.mpr leg)⟩
  exact absent_key cfg s active free freeH table acMac acSes absent (List.mem_map.mpr ⟨p, listed, key⟩)

theorem run_apart (cfg : Config) (nsess : Nat) (positive : 1 ≤ nsess) (bounded : nsess ≤ 65534)
    (visits : List (RelayState × Event)) (s : RelayState) (run : Run (next cfg) (initRelay nsess) visits s) :
    ∃ active free freeH, Table cfg s active free freeH ∧ ApartAtAc s active := by
  refine run.invariant (fun _ _ => True) (fun s => ∃ active free freeH, Table cfg s active free freeH ∧
    ApartAtAc s active)
    ⟨[], _, _, initRelay_table cfg nsess positive bounded, List.nodup_nil⟩ ?_ (Run.meets_always visits)
  rintro state event after ⟨active, free, freeH, table, apart⟩ _ moved
  rcases step_table cfg state active free freeH table event (next_enabled cfg state after event moved) with
    ⟨_, s', active', free', freeH', reached, kept, shrunk⟩ |
    ⟨iface, packet, tag, sess, acHash, cliHash, s', free', freeH', opens, head, reached, kept, _, ⟨acNew, cliNew⟩,
      opened⟩
  · obtain rfl := Option.some.inj (moved.symm.trans reached)
    exact ⟨active', free', freeH', kept, shrunk_apart state after active active' shrunk apart⟩
  · obtain rfl := Option.some.inj (moved.symm.trans reached)
    have absent : findSession state packet.hSource packet.session = none := by
      have filtered := (Option.filter_eq_some_iff.mp opens).2
      simp only [decide_eq_true_eq] at filtered
      exact filtered.2.1
    have fresh : sess ∉ active :=
      (List.nodup_cons.mp (List.nodup_append.mp (table_distinct cfg after _ free' freeH' kept)).1).1
    exact ⟨_, free', freeH', kept, opened_apart cfg state after active free freeH table sess acHash cliHash iface
      tag.ifIndex
      packet.hSource tag.mac packet.session opened fresh acNew cliNew absent apart⟩

theorem egress_injective (cfg : Config) (s : RelayState) (active free freeH : List Nat)
    (table : Table cfg s active free freeH)
    (apart : ApartAtAc s active) (a b : Nat) (aIn : a ∈ active) (bIn : b ∈ active) (side : Side)
    (same : egress s a side = egress s b side) : a = b := by
  cases side with
  | ac => exact List.inj_on_of_nodup_map apart aIn bIn same
  | client =>
      obtain ⟨ac, cl, pair⟩ := table.paired a aIn
      obtain ⟨ac', cl', pair'⟩ := table.paired b bIn
      unfold egress at same
      rw [show sideLeg s a .client = some cl from pair.clientHash,
        show sideLeg s b .client = some cl' from pair'.clientHash,
        Option.map_some, Option.map_some] at same
      have number : (legAt s cl).sesNum = (legAt s cl').sesNum := congrArg Prod.snd (Option.some.inj same)
      rw [pair.number, pair'.number] at number
      exact table_number cfg s active free freeH table a b aIn bIn number

-- A frame that came in on one leg of a session leaves on the leg of the other side.
def Relayed (cfg : Config) (s : RelayState) (iface : Nat) (frame : PPPoEPacket) (a : Nat) (side : Side)
    (sent : Sent) : Prop :=
  (∃ s', step cfg s (.session iface frame) = some (s', [sent])) ∧ a ∈ activeList s ∧
    ∃ p, findSession s frame.hSource frame.session = some p ∧ sideLeg s a side.across = some p

-- What is left of a frame: all but the two addresses and the session number, and
-- the padding.
structure Rewritten (frame sent : PPPoEPacket) : Prop where
  vertype : sent.vertype = frame.vertype
  code : sent.code = frame.code
  length : sent.length = frame.length
  payload : sent.payload = frame.payload.take frame.length

theorem checkLength_rewritten (frame packet : PPPoEPacket) (checked : checkLength frame = some packet) :
    packet.hSource = frame.hSource ∧ packet.session = frame.session ∧ Rewritten frame packet := by
  unfold checkLength at checked
  split at checked
  · cases checked
  · obtain rfl := Option.some.inj checked
    exact ⟨rfl, rfl, rfl, rfl, rfl, rfl⟩

theorem sessionFrame_rewritten (i : PPPoEInterface) (frame packet : PPPoEPacket)
    (taken : sessionFrame i frame = some packet) :
    packet.hSource = frame.hSource ∧ packet.session = frame.session ∧ Rewritten frame packet := by
  unfold sessionFrame at taken
  split at taken
  · exact checkLength_rewritten frame packet taken
  · cases taken

section Table

variable (cfg : Config) (s : RelayState) (active free freeH : List Nat) (table : Table cfg s active free freeH)

include table

theorem session_relayed (iface : Nat) (frame : PPPoEPacket) (s' : RelayState) (out : List Sent)
    (ran : step cfg s (.session iface frame) = some (s', out)) (sent : Sent) (member : sent ∈ out) :
    ∃ a side, Relayed cfg s iface frame a side sent := by
  obtain ⟨i, known, got⟩ := Option.bind_eq_some_iff.mp ran
  have moves := session_moves cfg s active free freeH table i frame
  rw [got] at moves
  rcases moves with ⟨_, silent⟩ | ⟨packet, a, p, peer, face, o, after, taken, admits, forwards, _⟩
  · cases silent
    cases member
  · obtain ⟨rfl, rfl⟩ := Prod.mk.inj (Option.some.inj forwards)
    obtain rfl := List.mem_singleton.mp member
    obtain ⟨source, session, _⟩ := sessionFrame_rewritten i frame packet taken
    have found := admits.found
    rw [source, session] at found
    have listed := admits.active
    rw [activeList_eq cfg s active free freeH table] at listed
    obtain ⟨ac, cl, pair⟩ := table.paired a listed
    have both := paired_legsOf cfg s a ac cl pair
    rcases admits.legs with order | order
    · obtain ⟨rfl, _⟩ := List.cons.inj (both.symm.trans order)
      exact ⟨a, .ac, ⟨s', ran⟩, admits.active, cl, found, pair.clientHash⟩
    · obtain ⟨rfl, rest⟩ := List.cons.inj (both.symm.trans order)
      obtain ⟨rfl, _⟩ := List.cons.inj rest
      exact ⟨a, .client, ⟨s', ran⟩, admits.active, ac, found, pair.acHash⟩

theorem relayed_egress (iface : Nat) (frame : PPPoEPacket) (a : Nat) (side : Side) (sent : Sent)
    (relayed : Relayed cfg s iface frame a side sent) :
    egress s a side = some (sent.frame.hDest, sent.frame.session) ∧ Rewritten frame sent.frame := by
  obtain ⟨⟨s', ran⟩, listed, p, found, leg⟩ := relayed
  rw [activeList_eq cfg s active free freeH table] at listed
  obtain ⟨ac, cl, pair⟩ := table.paired a listed
  -- The other leg is the peer of the one that was found.
  obtain ⟨peer, other, isPeer⟩ : ∃ peer, sideLeg s a side = some peer ∧ (s.allHashes p).peer = some peer := by
    cases side with
    | client =>
        obtain rfl := Option.some.inj (pair.acHash.symm.trans leg)
        exact ⟨cl, pair.clientHash, pair.acPeer⟩
    | ac =>
        obtain rfl := Option.some.inj (pair.clientHash.symm.trans leg)
        exact ⟨ac, pair.acHash, pair.clientPeer⟩
  obtain ⟨i, known, got⟩ := Option.bind_eq_some_iff.mp ran
  cases taken : sessionFrame i frame with
  | none =>
      rw [relayGotSessionPacket_dropped cfg s i frame taken] at got
      cases got
  | some packet =>
      obtain ⟨source, session, rewritten⟩ := sessionFrame_rewritten i frame packet taken
      rw [relayGotSessionPacket_looked cfg s i frame packet taken, source, session, found] at got
      obtain ⟨_, _, got⟩ := Option.bind_eq_some_iff.mp got
      obtain ⟨_, here, got⟩ := Option.bind_eq_some_iff.mp got
      obtain rfl := Option.some.inj (isPeer.symm.trans here)
      obtain ⟨_, _, got⟩ := Option.bind_eq_some_iff.mp got
      obtain ⟨_, _, got⟩ := Option.map_eq_some_iff.mp got
      obtain ⟨_, same⟩ := Prod.mk.inj got
      obtain ⟨rfl, _⟩ := List.cons.inj same
      refine ⟨?_, rewritten.vertype, rewritten.code, rewritten.length, rewritten.payload⟩
      unfold egress
      rw [other]
      rfl

end Table

-- Every session frame that goes out belongs to one session and one side, and what
-- it carries in front is that session's alone.
theorem relay_egress_separation (cfg : Config) (nsess : Nat) (positive : 1 ≤ nsess) (bounded : nsess ≤ 65534)
    {visits : List (RelayState × Event)} {s : RelayState} (run : Run (next cfg) (initRelay nsess) visits s) :
    (∀ iface frame s' out, step cfg s (.session iface frame) = some (s', out) → ∀ sent ∈ out,
      (∃ a side, Relayed cfg s iface frame a side sent) ∧ Rewritten frame sent.frame) ∧
    ∀ side a a' iface iface' frame frame' sent sent', a ≠ a' → Relayed cfg s iface frame a side sent →
      Relayed cfg s iface' frame' a' side sent' →
      (sent.frame.hDest, sent.frame.session) ≠ (sent'.frame.hDest, sent'.frame.session) := by
  obtain ⟨active, free, freeH, table, apart⟩ := run_apart cfg nsess positive bounded visits s run
  constructor
  · intro iface frame s' out ran sent member
    obtain ⟨a, side, relayed⟩ := session_relayed cfg s active free freeH table iface frame s' out ran sent member
    exact ⟨⟨a, side, relayed⟩, (relayed_egress cfg s active free freeH table iface frame a side sent relayed).2⟩
  · intro side a a' iface iface' frame frame' sent sent' different relayed relayed' same
    have first := (relayed_egress cfg s active free freeH table iface frame a side sent relayed).1
    have second := (relayed_egress cfg s active free freeH table iface' frame' a' side sent' relayed').1
    have aIn := relayed.2.1
    have bIn := relayed'.2.1
    rw [activeList_eq cfg s active free freeH table] at aIn bIn
    exact different (egress_injective cfg s active free freeH table apart a a' aIn bIn side
      (first.trans ((congrArg some same).trans second.symm)))

-- One concentrator serves two clients under two numbers, and sends each a packet.
def dataFrame (session : UInt16) : PPPoEPacket where
  hDest := macAddr 2 0 0 0 0 2
  hSource := hostMac
  vertype := pppoeVerType
  code := codeSess
  session := session
  length := 2
  payload := [0xc0, 0x21]

def dataSent (client : Mac) (session : UInt16) : Sent :=
  ⟨0, .session, { dataFrame session with hDest := client, hSource := macAddr 2 0 0 0 0 1 }⟩

theorem relay_egress_separation_two : ∃ s,
    Run.play (next twoSides) (initRelay 4)
      [padsFrame hostMac #v[2, 0, 0, 0, 0, 7] 0x0200, padsFrame hostMac #v[2, 0, 0, 0, 0, 8] 0x0300] = some s ∧
    Rewritten (dataFrame 0x0200) (dataSent #v[2, 0, 0, 0, 0, 7] (htons 1)).frame ∧
    ((dataSent #v[2, 0, 0, 0, 0, 7] (htons 1)).frame.hDest, (dataSent #v[2, 0, 0, 0, 0, 7] (htons 1)).frame.session) ≠
      ((dataSent #v[2, 0, 0, 0, 0, 8] (htons 2)).frame.hDest,
        (dataSent #v[2, 0, 0, 0, 0, 8] (htons 2)).frame.session) := by
  have scene : (Run.play (next twoSides) (initRelay 4)
      [padsFrame hostMac #v[2, 0, 0, 0, 0, 7] 0x0200, padsFrame hostMac #v[2, 0, 0, 0, 0, 8] 0x0300]).any (fun s =>
        activeList s == [1, 0] &&
        (findSession s hostMac 0x0200).any (fun p => sideLeg s 0 .ac == some p) &&
        (findSession s hostMac 0x0300).any (fun p => sideLeg s 1 .ac == some p) &&
        (step twoSides s (.session 1 (dataFrame 0x0200))).any
          (fun r => r.2 == [dataSent #v[2, 0, 0, 0, 0, 7] (htons 1)]) &&
        (step twoSides s (.session 1 (dataFrame 0x0300))).any
          (fun r => r.2 == [dataSent #v[2, 0, 0, 0, 0, 8] (htons 2)])) = true := by
    decide +kernel
  obtain ⟨s, played, facts⟩ := (Option.any_eq_true _ _).mp scene
  simp only [Bool.and_eq_true, Option.any_eq_true, beq_iff_eq] at facts
  obtain ⟨⟨⟨⟨listed, p, found, leg⟩, p', found', leg'⟩, ⟨s', out⟩, ran, one⟩, ⟨s'', out'⟩, ran', one'⟩ := facts
  obtain rfl : out = _ := one
  obtain rfl : out' = _ := one'
  obtain ⟨whole, apart⟩ := relay_egress_separation twoSides 4 (by decide) (by decide) (Run.of_play _ s played)
  exact ⟨s, played, (whole 1 _ s' _ ran _ List.mem_cons_self).2,
    apart .client 0 1 1 1 _ _ _ _ (by decide) ⟨⟨s', ran⟩, by rw [listed]; decide, p, found, leg⟩
      ⟨⟨s'', ran'⟩, by rw [listed]; decide, p', found', leg'⟩⟩

end ZyAgf.Pppoe.Relay
