import ZyAgf.Pppoe.RelayRun

set_option autoImplicit false

namespace ZyAgf.Pppoe.Relay

-- One session joins a client on one interface to an access concentrator, with
-- its session number there, on another.
def Joins (s : RelayState) (a : Nat) (cliIf : Nat) (cliMac : Mac) (acIf : Nat) (acMac : Mac) (acSes : UInt16) : Prop :=
  ∃ ac ∈ (s.allSessions a).acHash, ∃ cl ∈ (s.allSessions a).clientHash,
    (legAt s cl).interface = some cliIf ∧ (legAt s cl).peerMac = cliMac ∧
    (legAt s ac).interface = some acIf ∧ (legAt s ac).peerMac = acMac ∧ (legAt s ac).sesNum = acSes

-- The table agrees with a forwarded PADS: an active session with the number in
-- the frame joins the two ends.
def Agrees (s : RelayState) (sent : Sent) (iface : Nat) (packet : PPPoEPacket) : Prop :=
  ∃ a ∈ activeList s, (∃ cl ∈ (s.allSessions a).clientHash, (legAt s cl).sesNum = sent.frame.session) ∧
    Joins s a sent.iface sent.frame.hDest iface packet.hSource packet.session

instance (s : RelayState) (a cliIf : Nat) (cliMac : Mac) (acIf : Nat) (acMac : Mac) (acSes : UInt16) :
    Decidable (Joins s a cliIf cliMac acIf acMac acSes) :=
  inferInstanceAs (Decidable (∃ ac ∈ (s.allSessions a).acHash, ∃ cl ∈ (s.allSessions a).clientHash, _))

instance (s : RelayState) (sent : Sent) (iface : Nat) (packet : PPPoEPacket) : Decidable (Agrees s sent iface packet) :=
  inferInstanceAs (Decidable (∃ a ∈ activeList s, _))

theorem htons_number (a b : Nat) (aBound : a < 65534) (bBound : b < 65534)
    (same : htons (UInt16.ofNat (a + 1)) = htons (UInt16.ofNat (b + 1))) : a = b := by
  have inner := congrArg UInt16.toNat (htons_injective _ _ same)
  rw [UInt16.toNat_ofNat', UInt16.toNat_ofNat', Nat.mod_eq_of_lt (by omega), Nat.mod_eq_of_lt (by omega)] at inner
  omega

theorem table_number (cfg : Config) (s : RelayState) (active free freeH : List Nat)
    (table : Table cfg s active free freeH)
    (a b : Nat) (aIn : a ∈ active) (bIn : b ∈ active) (same : (s.allSessions a).sesNum = (s.allSessions b).sesNum) :
    a = b := by
  have aBound := table_session_lt cfg s active free freeH table a aIn
  have bBound := table_session_lt cfg s active free freeH table b bIn
  rw [table.numbers a aBound, table.numbers b bBound] at same
  exact htons_number a b (Nat.lt_of_lt_of_le aBound table.bounded) (Nat.lt_of_lt_of_le bBound table.bounded) same

theorem agrees_iff_joins (cfg : Config) (s : RelayState) (active free freeH : List Nat)
    (table : Table cfg s active free freeH) (a : Nat) (member : a ∈ active) (sent : Sent) (iface : Nat)
    (packet : PPPoEPacket) (numbered : sent.frame.session = (s.allSessions a).sesNum) :
    Agrees s sent iface packet ↔ Joins s a sent.iface sent.frame.hDest iface packet.hSource packet.session := by
  unfold Agrees
  rw [activeList_eq cfg s active free freeH table]
  constructor
  · rintro ⟨b, inside, ⟨cl, client, number⟩, joined⟩
    obtain ⟨ac, cl', pair⟩ := table.paired b inside
    have own : cl = cl' := Option.some.inj ((Option.mem_def.mp client).symm.trans pair.clientHash)
    have same : b = a := table_number cfg s active free freeH table b a inside member
      (by rw [← pair.number, ← own, number, numbered])
    exact same ▸ joined
  · intro joined
    obtain ⟨ac, cl, pair⟩ := table.paired a member
    exact ⟨a, member, ⟨cl, pair.clientHash, pair.number.trans numbered.symm⟩, joined⟩

theorem relayPADS_fields (packet : PPPoEPacket) (tag : RelayTag) (session : UInt16) :
    (relayPADS packet tag session).iface = tag.ifIndex ∧ (relayPADS packet tag session).frame.hDest = tag.mac ∧
      (relayPADS packet tag session).frame.session = session :=
  ⟨rfl, rfl, rfl⟩

theorem insertBytes_header (packet packet' : PPPoEPacket) (loc : Nat) (bytes : List UInt8)
    (inserted : insertBytes packet loc bytes = some packet') :
    packet'.code = packet.code ∧ packet'.session = packet.session := by
  unfold insertBytes at inserted
  split at inserted
  · cases inserted
  · obtain rfl := Option.some.inj inserted
    exact ⟨rfl, rfl⟩

theorem relaySendError_header (cfg : Config) (code : UInt8) (session : UInt16) (iface : Nat) (mac : Mac)
    (hostUniq : Option PPPoETag) (errMsg : String) (sent : Sent)
    (member : sent ∈ relaySendError cfg code session iface mac hostUniq errMsg) :
    sent.frame.code = code ∧ sent.frame.session = session := by
  unfold relaySendError at member
  split at member
  · cases member
  · dsimp only at member
    split at member
    · cases member
    · next built =>
        rw [List.mem_singleton.mp member]
        obtain ⟨tagged, first, second⟩ := Option.bind_eq_some_iff.mp built
        obtain ⟨sameCode, sameSession⟩ := insertBytes_header tagged _ _ _ second
        dsimp only
        rw [sameCode, sameSession]
        cases hostUniq with
        | none =>
            obtain rfl := Option.some.inj first
            exact ⟨rfl, rfl⟩
        | some tag =>
            obtain ⟨c, n⟩ := insertBytes_header _ tagged _ _ first
            exact ⟨c, n⟩

-- In every reachable state a PADS forwarded with a session number either opened
-- the session it announces or was taken for a duplicate of an old one.
theorem relay_pads_agreement (cfg : Config) (nsess : Nat) (positive : 1 ≤ nsess) (bounded : nsess ≤ 65534)
    (visits : List (RelayState × Event)) (s : RelayState) (run : Run (next cfg) (initRelay nsess) visits s)
    (iface : Nat) (i : PPPoEInterface) (known : cfg.interfaces[iface]? = some i) (packet : PPPoEPacket)
    (s' : RelayState) (out : List Sent) (ran : relayHandlePADS cfg s iface i packet = some (s', out))
    (sent : Sent) (isSent : sent ∈ out) (pads : sent.frame.code = codePADS) (nonzero : sent.frame.session ≠ htons 0) :
    (findSession s packet.hSource packet.session = none → Agrees s' sent iface packet) ∧
    (∀ p, findSession s packet.hSource packet.session = some p → s' = s ∧ ∃ a, (legAt s p).ses = some a ∧
      sent.frame.session = (s.allSessions a).sesNum ∧
      (Agrees s' sent iface packet ↔ Joins s a sent.iface sent.frame.hDest iface packet.hSource packet.session)) := by
  obtain ⟨active, free, freeH, table⟩ := run_table cfg nsess positive bounded visits s run
  cases tagged : padsTag cfg iface i packet with
  | none =>
      unfold relayHandlePADS at ran
      rw [tagged] at ran
      cases ran
      cases isSent
  | some tag =>
      rcases relayHandlePADS_cases cfg s active free freeH table iface i packet tag tagged with
        ⟨zero, here⟩ | ⟨_, p, a, found, owner, here⟩ | ⟨_, absent, here⟩
      · cases ran.symm.trans here
        rw [List.mem_singleton.mp isSent, (relayPADS_fields _ _ _).2.2] at nonzero
        exact absurd zero nonzero
      · cases ran.symm.trans here
        refine ⟨fun absent => absurd (found.symm.trans absent) (by simp), ?_⟩
        intro q found'
        obtain rfl := Option.some.inj (found.symm.trans found')
        obtain ⟨b, member, ac, cl, pair, leg, _⟩ := findSession_leg cfg s active free freeH table _ _ p found
        obtain ⟨_, _, _, owner', _⟩ := paired_follow cfg s b ac cl p pair leg
        obtain rfl := Option.some.inj (owner.symm.trans owner')
        have numbered : sent.frame.session = (s.allSessions a).sesNum := by
          rw [List.mem_singleton.mp isSent, (relayPADS_fields _ _ _).2.2]
        exact ⟨rfl, a, owner, numbered, agrees_iff_joins cfg s active free freeH table a member sent iface packet
          numbered⟩
      · refine ⟨fun _ => ?_, fun p found => by rw [absent] at found; cases found⟩
        by_cases room : s.numSessions < s.maxSessions
        · obtain ⟨sess, free', acHash, cliHash, freeH', made, _, created, after, _, _, opened⟩ :=
            createSession_table cfg s active free freeH table room iface tag.ifIndex packet.hSource tag.mac
              packet.session
              ⟨i, known⟩ ⟨tag.target, (padsTag_known cfg iface i packet tag tagged).1⟩
          rw [created] at here
          cases ran.symm.trans here
          have only := List.mem_singleton.mp isSent
          have numbered : sent.frame.session = (s'.allSessions sess).sesNum := by
            rw [only, (relayPADS_fields _ _ _).2.2]
          have data := opened.ownData
          simp only [sesData, Prod.mk.injEq] at data
          refine (agrees_iff_joins cfg s' _ free' freeH' after sess List.mem_cons_self sent iface packet numbered).mpr
            ?_
          refine ⟨acHash, data.1, cliHash, data.2.1, ?_, ?_, ?_, ?_, ?_⟩
          · rw [opened.clientLeg, only, (relayPADS_fields _ _ _).1]
          · rw [opened.clientLeg, only, (relayPADS_fields _ _ _).2.1]
          · rw [opened.acLeg]
          · rw [opened.acLeg]
          · rw [opened.acLeg]
        · rw [createSession_full s _ _ _ _ _ (Nat.not_lt.mp room)] at here
          cases ran.symm.trans here
          rcases List.mem_append.mp isSent with errorPads | errorPadt
          · exact absurd (relaySendError_header cfg _ _ _ _ _ _ sent errorPads).2 nonzero
          · have coded := (relaySendError_header cfg _ _ _ _ _ _ sent errorPadt).1
            rw [pads] at coded
            cases coded

-- Interface 0 faces clients, interface 1 the access concentrators.
def clientAndAc : Config where
  interfaces := [⟨true, false, macAddr 6 0 0 0 0 1⟩, ⟨false, true, macAddr 6 0 0 0 0 2⟩]
  cleanPeriod := 30
  idleTimeout := 600

def concentratorMac : Mac := macAddr 6 0 0 0 1 1

-- What the concentrator answers to a client that asked for a session.
def padsFor (cliMac : Mac) (session : UInt16) : PPPoEPacket where
  hDest := macAddr 6 0 0 0 0 2
  hSource := concentratorMac
  vertype := pppoeVerType
  code := codePADS
  session := session
  length := 14
  payload := tagBytes ⟨tagRelaySessionId, intBytes 0 ++ cliMac.toList⟩

theorem relay_pads_agreement_first : ∃ s' sent,
    relayHandlePADS clientAndAc (initRelay 4) 1 ⟨false, true, #v[6, 0, 0, 0, 0, 2]⟩
      (padsFor #v[6, 0, 0, 0, 2, 1] 0x0700) =
      some (s', [sent]) ∧ sent.frame.session = 0x0100 ∧ Agrees s' sent 1 (padsFor #v[6, 0, 0, 0, 2, 1] 0x0700) := by
  have shape : (relayHandlePADS clientAndAc (initRelay 4) 1 ⟨false, true, #v[6, 0, 0, 0, 0, 2]⟩
      (padsFor #v[6, 0, 0, 0, 2, 1] 0x0700)).map (·.2) =
      some [relayPADS (padsFor #v[6, 0, 0, 0, 2, 1] 0x0700)
        ⟨0, 0, ⟨true, false, #v[6, 0, 0, 0, 0, 1]⟩, #v[6, 0, 0, 0, 2, 1]⟩
        0x0100] := by
    decide +kernel
  obtain ⟨⟨s', out⟩, ran, sends⟩ := Option.map_eq_some_iff.mp shape
  dsimp only at sends
  subst sends
  refine ⟨s', _, ran, rfl, ?_⟩
  exact (relay_pads_agreement clientAndAc 4 (by decide) (by decide) [] (initRelay 4) Run.start 1 _ rfl _ s' _
    ran _ (List.mem_singleton_self _) rfl (by decide)).1 (by decide +kernel)

-- The same PADS for a second client goes out with the first one's number, and
-- no session in the table is the second client's.
theorem relay_pads_disagreement : ¬ ∀ (cfg : Config) (nsess : Nat), 1 ≤ nsess → nsess ≤ 65534 →
    ∀ visits s, Run (next cfg) (initRelay nsess) visits s → ∀ iface i, cfg.interfaces[iface]? = some i →
    ∀ packet s' out, relayHandlePADS cfg s iface i packet = some (s', out) →
    ∀ sent ∈ out, sent.frame.code = codePADS → sent.frame.session ≠ htons 0 → Agrees s' sent iface packet := by
  intro claimed
  have scene : (next clientAndAc (initRelay 4) (.discovery 1 (padsFor #v[6, 0, 0, 0, 2, 1] 0x0700))).any (fun s =>
      (relayHandlePADS clientAndAc s 1 ⟨false, true, #v[6, 0, 0, 0, 0, 2]⟩ (padsFor #v[6, 0, 0, 0, 2, 2] 0x0700)).any
        fun result => result.2.any fun sent => sent.frame.code == codePADS && sent.frame.session != htons 0 &&
          !decide (Agrees result.1 sent 1 (padsFor #v[6, 0, 0, 0, 2, 2] 0x0700))) = true := by
    decide +kernel
  obtain ⟨s, moved, second⟩ := (Option.any_eq_true _ _).mp scene
  obtain ⟨⟨s', out⟩, ran, forwards⟩ := (Option.any_eq_true _ _).mp second
  obtain ⟨sent, isSent, facts⟩ := List.any_eq_true.mp forwards
  simp only [Bool.and_eq_true, beq_iff_eq, bne_iff_ne, Bool.not_eq_true', decide_eq_false_iff_not] at facts
  exact facts.2 (claimed clientAndAc 4 (by decide) (by decide) _ s (Run.start.snoc _ _ _ _ moved) 1 _ rfl _ s' out ran
    sent isSent facts.1.1 facts.1.2)

end ZyAgf.Pppoe.Relay
