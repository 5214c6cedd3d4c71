import ZyAgf.Pppoe.RelayLookup

set_option autoImplicit false

namespace ZyAgf.Pppoe.Relay

def versionOk (frame : PPPoEPacket) : Bool := pppoeVer frame.vertype == 1 && pppoeType frame.vertype == 1

-- The two kinds of frame that are looked up in the session table, without their
-- padding. Both must be addressed to the interface they came in on.
def sessionFrame (i : PPPoEInterface) (frame : PPPoEPacket) : Option PPPoEPacket :=
  if versionOk frame ∧ frame.code = codeSess ∧ frame.hDest = i.mac then checkLength frame else none

def padtFrame (i : PPPoEInterface) (frame : PPPoEPacket) : Option PPPoEPacket :=
  if versionOk frame ∧ frame.code = codePADT ∧ frame.hDest = i.mac then checkLength frame else none

-- A leg of an active session that answers to the frame's sender, and the other
-- leg of that session with its interface.
structure Admits (cfg : Config) (s : RelayState) (packet : PPPoEPacket) (a p peer out : Nat)
    (o : PPPoEInterface) : Prop where
  active : a ∈ activeList s
  found : findSession s packet.hSource packet.session = some p
  legs : legsOf s a = [p, peer] ∨ legsOf s a = [peer, p]
  sender : (legAt s p).peerMac = packet.hSource ∧ (legAt s p).sesNum = packet.session
  faces : (legAt s peer).interface = some out ∧ cfg.interfaces[out]? = some o

-- What goes out on the other leg. The interface the frame came in on is not in it.
def forwarded (s : RelayState) (packet : PPPoEPacket) (peer out : Nat) (o : PPPoEInterface) : Sent :=
  ⟨out, .session, { packet with session := (legAt s peer).sesNum, hSource := o.mac, hDest := (legAt s peer).peerMac }⟩

theorem versionOk_iff (frame : PPPoEPacket) :
    versionOk frame = true ↔ ¬ (pppoeVer frame.vertype ≠ 1 ∨ pppoeType frame.vertype ≠ 1) := by
  simp [versionOk]

theorem checkLength_fields (frame packet : PPPoEPacket) (checked : checkLength frame = some packet) :
    packet.hDest = frame.hDest ∧ packet.code = frame.code := by
  unfold checkLength at checked
  split at checked
  · cases checked
  · obtain rfl := Option.some.inj checked
    exact ⟨rfl, rfl⟩

theorem admits_of_found (cfg : Config) (s : RelayState) (active free freeH : List Nat)
    (table : Table cfg s active free freeH) (packet : PPPoEPacket) (p : Nat)
    (found : findSession s packet.hSource packet.session = some p) : ∃ a peer out o,
      Admits cfg s packet a p peer out o ∧ a ∈ active ∧ (s.allHashes p).ses = some a ∧
        (s.allHashes p).peer = some peer ∧
        (s.allHashes peer).ses = some a := by
  obtain ⟨a, member, ac, cl, pair, leg, sender⟩ := findSession_leg cfg s active free freeH table _ _ p found
  have listed : a ∈ activeList s := by
    rw [activeList_eq cfg s active free freeH table]
    exact member
  have both : legsOf s a = [cl, ac] := paired_legsOf cfg s a ac cl pair
  rcases leg with rfl | rfl
  · obtain ⟨out, o, here, known⟩ := pair.acInterface
    exact ⟨a, ac, out, o, ⟨listed, found, .inl both, sender, here, known⟩, member, pair.clientOwner, pair.clientPeer,
      pair.acOwner⟩
  · obtain ⟨out, o, here, known⟩ := pair.clientInterface
    exact ⟨a, cl, out, o, ⟨listed, found, .inr both, sender, here, known⟩, member, pair.acOwner, pair.acPeer,
      pair.clientOwner⟩

theorem relayGotSessionPacket_dropped (cfg : Config) (s : RelayState) (i : PPPoEInterface) (frame : PPPoEPacket)
    (dropped : sessionFrame i frame = none) : relayGotSessionPacket cfg s i frame = some (s, []) := by
  unfold sessionFrame at dropped
  unfold relayGotSessionPacket
  split
  · rfl
  next version =>
    split
    · rfl
    next coded =>
      split
      · rfl
      next addressed =>
        rw [if_pos ⟨(versionOk_iff frame).mpr version, not_not.mp coded, not_not.mp addressed⟩] at dropped
        rw [dropped]

theorem relayGotSessionPacket_looked (cfg : Config) (s : RelayState) (i : PPPoEInterface) (frame packet : PPPoEPacket)
    (taken : sessionFrame i frame = some packet) :
    relayGotSessionPacket cfg s i frame =
      match findSession s packet.hSource packet.session with
      | none => some (s, [])
      | some sh =>
          (s.allHashes sh).ses.bind fun ses =>
          (s.allHashes sh).peer.bind fun peer =>
          (s.allHashes peer).interface.bind fun out =>
          cfg.interfaces[out]?.map fun o =>
            (s.updSession ses fun x => { x with epoch := s.epoch }, [forwarded s packet peer out o]) := by
  unfold sessionFrame at taken
  split at taken
  next passes =>
    obtain ⟨version, coded, addressed⟩ := passes
    unfold relayGotSessionPacket
    rw [if_neg ((versionOk_iff frame).mp version),
      if_neg (not_not_intro coded), if_neg (not_not_intro addressed), taken]
    rfl
  next => cases taken

theorem relayHandlePADT_looked (cfg : Config) (s : RelayState) (i : PPPoEInterface) (packet : PPPoEPacket)
    (addressed : packet.hDest = i.mac) :
    relayHandlePADT cfg s i packet =
      match findSession s packet.hSource packet.session with
      | none => some (s, [])
      | some sh =>
          (s.allHashes sh).peer.bind fun peer =>
          (s.allHashes peer).ses.bind fun ses =>
          (s.allHashes peer).interface.bind fun out =>
          cfg.interfaces[out]?.bind fun o =>
          (freeSession s ses).map fun freed => (freed, [forwarded s packet peer out o]) := by
  unfold relayHandlePADT
  rw [if_neg (not_not_intro addressed)]
  rfl

theorem relayGotDiscoveryPacket_padt (cfg : Config) (s : RelayState) (iface : Nat) (i : PPPoEInterface)
    (frame : PPPoEPacket) (coded : frame.code = codePADT) :
    relayGotDiscoveryPacket cfg s iface i frame =
      match padtFrame i frame with
      | none => some (s, [])
      | some packet => relayHandlePADT cfg s i packet := by
  unfold relayGotDiscoveryPacket padtFrame
  by_cases version : pppoeVer frame.vertype ≠ 1 ∨ pppoeType frame.vertype ≠ 1
  · have bad : ¬ versionOk frame = true := fun ok => (versionOk_iff frame).mp ok version
    rw [if_pos version, if_neg fun passes => bad passes.1]
  · rw [if_neg version]
    have ok := (versionOk_iff frame).mpr version
    cases checked : checkLength frame with
    | none => rw [ite_self]
    | some packet =>
        obtain ⟨sameDest, sameCode⟩ := checkLength_fields frame packet checked
        dsimp only
        rw [if_pos (sameCode.trans coded)]
        by_cases addressed : frame.hDest = i.mac
        · rw [if_pos ⟨ok, coded, addressed⟩]
        · rw [if_neg fun passes => addressed passes.2.2]
          unfold relayHandlePADT
          rw [if_pos (fun same => addressed (sameDest ▸ same))]

-- What a frame does that passed its checks: nothing, or it moves the session its
-- sender belongs to and goes out on that session's other leg.
def MovesOnly (cfg : Config) (s : RelayState) (taken : Option PPPoEPacket) (result : Option (RelayState × List Sent))
    (moved : RelayState → Nat → RelayState → Prop) : Prop :=
  (taken.bind (fun packet => findSession s packet.hSource packet.session) = none ∧ result = some (s, [])) ∨
  ∃ packet a p peer out o s', taken = some packet ∧ Admits cfg s packet a p peer out o ∧
    result = some (s', [forwarded s packet peer out o]) ∧ moved s a s'

def Refreshed (s : RelayState) (a : Nat) (s' : RelayState) : Prop :=
  s' = s.updSession a fun x => { x with epoch := s.epoch }

def Destroyed (s : RelayState) (a : Nat) (s' : RelayState) : Prop :=
  freeSession s a = some s' ∧ activeList s' = (activeList s).erase a

theorem session_moves (cfg : Config) (s : RelayState) (active free freeH : List Nat)
    (table : Table cfg s active free freeH) (i : PPPoEInterface) (frame : PPPoEPacket) :
    MovesOnly cfg s (sessionFrame i frame) (relayGotSessionPacket cfg s i frame) Refreshed := by
  cases taken : sessionFrame i frame with
  | none => exact .inl ⟨rfl, relayGotSessionPacket_dropped cfg s i frame taken⟩
  | some packet =>
      have looked := relayGotSessionPacket_looked cfg s i frame packet taken
      cases found : findSession s packet.hSource packet.session with
      | none =>
          rw [found] at looked
          exact .inl ⟨found, looked⟩
      | some p =>
          obtain ⟨a, peer, out, o, admits, _, owner, isPeer, _⟩ :=
            admits_of_found cfg s active free freeH table packet p found
          refine .inr ⟨packet, a, p, peer, out, o, _, rfl, admits, ?_, rfl⟩
          rw [looked, found]
          dsimp only
          rw [owner, Option.bind_some, isPeer, Option.bind_some,
            show (s.allHashes peer).interface = some out from admits.faces.1, Option.bind_some, admits.faces.2]
          rfl

theorem padt_moves (cfg : Config) (s : RelayState) (active free freeH : List Nat)
    (table : Table cfg s active free freeH) (iface : Nat) (i : PPPoEInterface) (frame : PPPoEPacket)
    (coded : frame.code = codePADT) :
    MovesOnly cfg s (padtFrame i frame) (relayGotDiscoveryPacket cfg s iface i frame) Destroyed := by
  rw [relayGotDiscoveryPacket_padt cfg s iface i frame coded]
  cases taken : padtFrame i frame with
  | none => exact .inl ⟨rfl, rfl⟩
  | some packet =>
      have addressed : packet.hDest = i.mac := by
        unfold padtFrame at taken
        split at taken
        next passes => exact (checkLength_fields frame packet taken).1.trans passes.2.2
        next => cases taken
      have looked := relayHandlePADT_looked cfg s i packet addressed
      cases found : findSession s packet.hSource packet.session with
      | none =>
          rw [found] at looked
          exact .inl ⟨found, looked⟩
      | some p =>
          obtain ⟨a, peer, out, o, admits, member, _, isPeer, owner⟩ :=
            admits_of_found cfg s active free freeH table packet p found
          obtain ⟨s', free', freeH', freed, after, _⟩ := freeSession_shrunk cfg s active free freeH table a member
          refine .inr ⟨packet, a, p, peer, out, o, s', rfl, admits, ?_, freed, ?_⟩
          · dsimp only
            rw [looked, found]
            dsimp only
            rw [isPeer, Option.bind_some, owner, Option.bind_some,
              show (s.allHashes peer).interface = some out from admits.faces.1, Option.bind_some, admits.faces.2,
              Option.bind_some, freed]
            rfl
          · rw [activeList_eq cfg s' _ free' freeH' after, activeList_eq cfg s active free freeH table]

-- The sender's address and the session number decide alone: a frame that no
-- active leg answers to changes nothing, and any other acts on the session of
-- that leg, whatever interface it came in on.
theorem relay_ingress (cfg : Config) (nsess : Nat) (positive : 1 ≤ nsess) (bounded : nsess ≤ 65534)
    (visits : List (RelayState × Event)) (s : RelayState) (run : Run (next cfg) (initRelay nsess) visits s)
    (iface : Nat)
    (i : PPPoEInterface) (known : cfg.interfaces[iface]? = some i) (frame : PPPoEPacket) :
    MovesOnly cfg s (sessionFrame i frame) (step cfg s (.session iface frame)) Refreshed ∧
      (frame.code = codePADT →
        MovesOnly cfg s (padtFrame i frame) (step cfg s (.discovery iface frame)) Destroyed) := by
  obtain ⟨active, free, freeH, table⟩ := run_table cfg nsess positive bounded visits s run
  constructor
  · rw [step, known, Option.bind_some]
    exact session_moves cfg s active free freeH table i frame
  · intro coded
    rw [step, known, Option.bind_some]
    exact padt_moves cfg s active free freeH table iface i frame coded

-- The PADT of a client, played on the interface that faces the concentrators.
def clientMac : Mac := macAddr 2 0 0 0 0 7

def spoofedPadt : PPPoEPacket where
  hDest := macAddr 2 0 0 0 0 2
  hSource := clientMac
  vertype := pppoeVerType
  code := codePADT
  session := 0x0100
  length := 0
  payload := []

theorem relay_ingress_opened : ∃ s, next twoSides (initRelay 4) (padsFrame hostMac clientMac 0x0200) = some s ∧
    MovesOnly twoSides s (padtFrame ⟨false, true, #v[2, 0, 0, 0, 0, 2]⟩ spoofedPadt)
      (step twoSides s (.discovery 1 spoofedPadt)) Destroyed := by
  obtain ⟨s, moved⟩ := Option.isSome_iff_exists.mp
    (show (next twoSides (initRelay 4) (padsFrame hostMac clientMac 0x0200)).isSome = true by decide +kernel)
  exact ⟨s, moved, (relay_ingress twoSides 4 (by decide) (by decide) _ s (Run.start.snoc _ _ _ _ moved) 1 _ rfl
    spoofedPadt).2 rfl⟩

-- The client's leg was recorded on interface 0, and a PADT on interface 1 ends
-- the session.
theorem relay_ingress_spoofed : ¬ ∀ (cfg : Config) (nsess : Nat), 1 ≤ nsess → nsess ≤ 65534 →
    ∀ visits s, Run (next cfg) (initRelay nsess) visits s → ∀ iface frame s', frame.code = codePADT →
    next cfg s (.discovery iface frame) = some s' → activeList s' ≠ activeList s →
    ∃ p, findSession s frame.hSource frame.session = some p ∧ (legAt s p).interface = some iface := by
  intro claimed
  have ended : (next twoSides (initRelay 4) (padsFrame hostMac clientMac 0x0200)).any (fun s =>
      (next twoSides s (.discovery 1 spoofedPadt)).any (fun s' => activeList s' != activeList s) &&
        (findSession s clientMac 0x0100).all fun p => (legAt s p).interface != some 1) = true := by
    decide +kernel
  obtain ⟨s, moved, both⟩ := (Option.any_eq_true _ _).mp ended
  obtain ⟨destroyed, elsewhere⟩ := Bool.and_eq_true_iff.mp both
  obtain ⟨s', taken, fewer⟩ := (Option.any_eq_true _ _).mp destroyed
  obtain ⟨p, found, here⟩ := claimed twoSides 4 (by decide) (by decide) _ s
    (Run.start.snoc _ _ _ _ moved) 1 spoofedPadt s'
    rfl taken (by simpa using fewer)
  rw [show findSession s clientMac 0x0100 = some p from found, Option.all_some, here] at elsewhere
  exact absurd elsewhere (by decide)

end ZyAgf.Pppoe.Relay
