import ZyAgf.Pppoe.RelaySessions

set_option autoImplicit false

namespace ZyAgf.Pppoe.Relay

def activeList (s : RelayState) : List Nat := collect (sesNext s) s.maxSessions s.activeSessions

theorem activeList_eq (cfg : Config) (s : RelayState) (active free freeH : List Nat)
    (table : Table cfg s active free freeH) : activeList s = active :=
  collect_chain (sesNext s) s.maxSessions s.activeSessions active (chain_of_linked _ _ none _ _ table.activeList)
    (active_length cfg s active free freeH table)

theorem chain_range (next : Nat → Option Nat) (start count total : Nat) (reach : start + count = total)
    (link : ∀ i, next i = if i + 1 < total then some (i + 1) else none) :
    Chain next (if start < total then some start else none) (List.range' start count) := by
  induction count generalizing start with
  | zero =>
      rw [if_neg (by omega)]
      rfl
  | succ count ih =>
      rw [if_pos (by omega)]
      refine ⟨rfl, ?_⟩
      rw [link start]
      exact ih (start + 1) (by omega)

theorem initRelay_table (cfg : Config) (nsess : Nat) (positive : 1 ≤ nsess) (bounded : nsess ≤ 65534) :
    Table cfg (initRelay nsess) [] (List.range nsess) (List.range (2 * nsess)) := by
  constructor
  · exact bounded
  · rfl
  · have chain := chain_range (sesNext (initRelay nsess)) 0 nsess nsess (by omega) fun _ => rfl
    rw [if_pos (by omega), ← List.range_eq_range'] at chain
    exact chain
  · exact List.Perm.refl _
  · rfl
  · intro a member
    cases member
  · exact ⟨List.nodup_nil, fun _ => rfl⟩
  · have chain := chain_range (hashNext (initRelay nsess)) 0 (2 * nsess) (2 * nsess) (by omega) fun _ => rfl
    rw [if_pos (by omega), ← List.range_eq_range'] at chain
    exact chain
  · exact List.Perm.refl _
  · intro i bound
    exact if_pos bound

theorem table_congr (cfg : Config) (s s' : RelayState) (active free freeH : List Nat)
    (sameHashes : s'.allHashes = s.allHashes) (sameNext : sesNext s' = sesNext s) (samePrev : sesPrev s' = sesPrev s)
    (sameData : ∀ p, sesData s' p = sesData s p)
    (sameHeads : s'.freeSessions = s.freeSessions ∧ s'.activeSessions = s.activeSessions ∧
      s'.freeHashes = s.freeHashes ∧ s'.buckets = s.buckets ∧ s'.numSessions = s.numSessions ∧
      s'.maxSessions = s.maxSessions)
    (table : Table cfg s active free freeH) : Table cfg s' active free freeH := by
  obtain ⟨sameFree, sameActive, sameFreeH, sameBuckets, sameCount, sameMax⟩ := sameHeads
  have sameLegs : ∀ p, legAt s' p = legAt s p := fun p => by
    unfold legAt
    rw [sameHashes]
  have sameList : legs s' active = legs s active := legs_congr s s' active fun a _ => sameData a
  have sameHashNext : hashNext s' = hashNext s := by
    unfold hashNext
    rw [sameHashes]
  have sameHashPrev : hashPrev s' = hashPrev s := by
    unfold hashPrev
    rw [sameHashes]
  constructor
  · rw [sameMax]
    exact table.bounded
  · rw [sameNext, samePrev, sameActive]
    exact table.activeList
  · rw [sameNext, sameFree]
    exact table.freeList
  · rw [sameMax]
    exact table.sessions
  · rw [sameCount]
    exact table.count
  · intro a member
    obtain ⟨ac, cl, pair⟩ := table.paired a member
    exact ⟨ac, cl, paired_congr cfg s s' a ac cl (sameData a) (sameLegs ac) (sameLegs cl) pair⟩
  · rw [sameList]
    exact hashed_congr s s' _ (fun p _ => sameLegs p) sameHashNext sameHashPrev sameBuckets table.hashed
  · rw [sameHashNext, sameFreeH]
    exact table.freeHashList
  · rw [sameList, sameMax]
    exact table.hashes
  · intro i bound
    rw [sameMax] at bound
    exact (congrArg (·.2.2) (sameData i)).trans (table.numbers i bound)

theorem table_touch (cfg : Config) (s : RelayState) (active free freeH : List Nat) (ses : Nat) (epoch : UInt32)
    (table : Table cfg s active free freeH) :
    Table cfg (s.updSession ses fun x => { x with epoch := epoch }) active free freeH := by
  refine table_congr cfg s _ active free freeH rfl ?_ ?_ ?_ ⟨rfl, rfl, rfl, rfl, rfl, rfl⟩ table
  · funext p
    simp only [sesNext, RelayState.updSession_allSessions]
    split <;> rfl
  · funext p
    simp only [sesPrev, RelayState.updSession_allSessions]
    split <;> rfl
  · intro p
    simp only [sesData, RelayState.updSession_allSessions]
    split <;> rfl

-- What a step may do to the table besides opening a session: forget some
-- sessions, and never alter a leg of those that stay.
structure Shrunk (s s' : RelayState) (active active' : List Nat) : Prop where
  fewer : List.Sublist active' active
  fewerLegs : List.Sublist (legs s' active') (legs s active)
  legs : ∀ p, legAt s' p = legAt s p
  data : ∀ p, sesData s' p = sesData s p

theorem shrunk_refl (s : RelayState) (active : List Nat) : Shrunk s s active active :=
  ⟨List.Sublist.refl _, List.Sublist.refl _, fun _ => rfl, fun _ => rfl⟩

theorem shrunk_trans (s t u : RelayState) (active middle final : List Nat) (first : Shrunk s t active middle)
    (second : Shrunk t u middle final) : Shrunk s u active final :=
  ⟨second.fewer.trans first.fewer, second.fewerLegs.trans first.fewerLegs,
    fun p => (second.legs p).trans (first.legs p), fun p => (second.data p).trans (first.data p)⟩

theorem freeSession_shrunk (cfg : Config) (s : RelayState) (active free freeH : List Nat)
    (table : Table cfg s active free freeH) (a : Nat) (member : a ∈ active) :
    ∃ s' free' freeH', freeSession s a = some s' ∧ Table cfg s' (active.erase a) free' freeH' ∧
      Shrunk s s' active (active.erase a) := by
  obtain ⟨ac, cl, s', freed, after, legsAfter, held, data⟩ := freeSession_table cfg s active free freeH table a member
  refine ⟨s', _, _, freed, after, List.erase_sublist, ?_, held, data⟩
  rw [legsAfter]
  exact List.erase_sublist.trans List.erase_sublist

theorem findSession_leg (cfg : Config) (s : RelayState) (active free freeH : List Nat)
    (table : Table cfg s active free freeH) (mac : Mac) (sesNum : UInt16) (p : Nat)
    (found : findSession s mac sesNum = some p) : ∃ a ∈ active, ∃ ac cl, Paired cfg s a ac cl ∧ (p = cl ∨ p = ac) ∧
      (legAt s p).peerMac = mac ∧ (legAt s p).sesNum = sesNum := by
  rw [findSession_eq cfg s active free freeH table] at found
  obtain ⟨a, member, ac, cl, pair, leg⟩ :=
    (mem_legs cfg s active free freeH table p).mp (List.mem_of_find?_eq_some found)
  have wanted := List.find?_some found
  simp only [Leg.matches, Bool.and_eq_true, beq_iff_eq] at wanted
  exact ⟨a, member, ac, cl, pair, leg, wanted.1, wanted.2⟩

theorem paired_follow (cfg : Config) (s : RelayState) (a ac cl p : Nat) (pair : Paired cfg s a ac cl)
    (leg : p = cl ∨ p = ac) : ∃ peer out o, (legAt s p).ses = some a ∧ (legAt s p).peer = some peer ∧
      (legAt s peer).ses = some a ∧ (legAt s peer).interface = some out ∧ cfg.interfaces[out]? = some o := by
  rcases leg with rfl | rfl
  · obtain ⟨out, o, here, known⟩ := pair.acInterface
    exact ⟨ac, out, o, pair.clientOwner, pair.clientPeer, pair.acOwner, here, known⟩
  · obtain ⟨out, o, here, known⟩ := pair.clientInterface
    exact ⟨cl, out, o, pair.acOwner, pair.acPeer, pair.clientOwner, here, known⟩

-- The state after an uneventful step: it exists, and the table only shrank.
def Shrinks (cfg : Config) (s : RelayState) (active : List Nat) (result : Option (RelayState × List Sent)) : Prop :=
  ∃ s' active' free' freeH', result.map (·.1) = some s' ∧ Table cfg s' active' free' freeH' ∧ Shrunk s s' active active'

theorem shrinks_same (cfg : Config) (s : RelayState) (active free freeH : List Nat)
    (table : Table cfg s active free freeH) (out : List Sent) : Shrinks cfg s active (some (s, out)) :=
  ⟨s, active, free, freeH, rfl, table, shrunk_refl s active⟩

theorem shrinks_after (cfg : Config) (s t : RelayState) (active middle : List Nat) (first : Shrunk s t active middle)
    (result : Option (RelayState × List Sent)) (later : Shrinks cfg t middle result) : Shrinks cfg s active result := by
  obtain ⟨s', active', free', freeH', ran, table, second⟩ := later
  exact ⟨s', active', free', freeH', ran, table, shrunk_trans s t s' active middle active' first second⟩

theorem relayHandlePADT_shrinks (cfg : Config) (s : RelayState) (active free freeH : List Nat)
    (table : Table cfg s active free freeH) (i : PPPoEInterface) (packet : PPPoEPacket) :
    Shrinks cfg s active (relayHandlePADT cfg s i packet) := by
  unfold relayHandlePADT
  by_cases elsewhere : packet.hDest ≠ i.mac
  · rw [if_pos elsewhere]
    exact shrinks_same cfg s active free freeH table []
  · rw [if_neg elsewhere]
    cases found : findSession s packet.hSource packet.session with
    | none => exact shrinks_same cfg s active free freeH table []
    | some p =>
        obtain ⟨a, member, ac, cl, pair, leg, _⟩ := findSession_leg cfg s active free freeH table _ _ p found
        obtain ⟨peer, out, o, _, isPeer, owner, face, known⟩ := paired_follow cfg s a ac cl p pair leg
        obtain ⟨s', free', freeH', freed, after, shrunk⟩ := freeSession_shrunk cfg s active free freeH table a member
        refine ⟨s', active.erase a, free', freeH', ?_, after, shrunk⟩
        dsimp only
        rw [show (s.allHashes p).peer = some peer from isPeer, Option.bind_some,
          show (s.allHashes peer).ses = some a from owner, Option.bind_some,
          show (s.allHashes peer).interface = some out from face, Option.bind_some, known, Option.bind_some, freed]
        rfl

theorem relayGotSessionPacket_shrinks (cfg : Config) (s : RelayState) (active free freeH : List Nat)
    (table : Table cfg s active free freeH) (i : PPPoEInterface) (packet : PPPoEPacket) :
    Shrinks cfg s active (relayGotSessionPacket cfg s i packet) := by
  have same := shrinks_same cfg s active free freeH table []
  unfold relayGotSessionPacket
  split
  · exact same
  split
  · exact same
  split
  · exact same
  cases checkLength packet with
  | none => exact same
  | some packet =>
      dsimp only
      cases found : findSession s packet.hSource packet.session with
      | none => exact same
      | some p =>
          obtain ⟨a, member, ac, cl, pair, leg, _⟩ := findSession_leg cfg s active free freeH table _ _ p found
          obtain ⟨peer, out, o, owner, isPeer, _, face, known⟩ := paired_follow cfg s a ac cl p pair leg
          have after := table_touch cfg s active free freeH a s.epoch table
          have data : ∀ p, sesData (s.updSession a fun x => { x with epoch := s.epoch }) p = sesData s p := by
            intro p
            simp only [sesData, RelayState.updSession_allSessions]
            split <;> rfl
          refine ⟨s.updSession a fun x => { x with epoch := s.epoch }, active, free, freeH, ?_, after,
            List.Sublist.refl _, ?_, fun _ => rfl, data⟩
          · dsimp only
            rw [show (s.allHashes p).ses = some a from owner, Option.bind_some,
              show (s.allHashes p).peer = some peer from isPeer, Option.bind_some,
              show (s.allHashes peer).interface = some out from face, Option.bind_some, known]
            rfl
          · rw [legs_congr s _ active fun b _ => data b]

theorem cleanFrom_shrinks (cfg : Config) (fuel : Nat) (kept rest : List Nat) (s : RelayState) (free freeH : List Nat)
    (table : Table cfg s (kept ++ rest) free freeH) (enough : rest.length ≤ fuel) :
    Shrinks cfg s (kept ++ rest) (cleanFrom cfg fuel rest.head? s) := by
  induction fuel generalizing kept rest s free freeH with
  | zero => exact shrinks_same cfg s _ free freeH table []
  | succ fuel ih =>
      cases rest with
      | nil => exact shrinks_same cfg s _ free freeH table []
      | cons cur rest =>
          have shorter : rest.length ≤ fuel := by simpa using enough
          have member : cur ∈ kept ++ cur :: rest := by simp
          have ahead : (s.allSessions cur).next = rest.head? :=
            chain_next (sesNext s) s.activeSessions kept rest cur (chain_of_linked _ _ none _ _ table.activeList)
          unfold cleanFrom
          dsimp only [List.head?_cons]
          rw [ahead]
          split
          · obtain ⟨ac, cl, pair⟩ := table.paired cur member
            obtain ⟨acIf, _, acFace, _⟩ := pair.acInterface
            obtain ⟨cliIf, _, cliFace, _⟩ := pair.clientInterface
            obtain ⟨freed, free', freeH', ran, after, shrunk⟩ := freeSession_shrunk cfg s _ free freeH table cur member
            have erased : (kept ++ cur :: rest).erase cur = kept ++ rest := by
              have distinct := (List.nodup_append.mp (table_distinct cfg s _ free freeH table)).1
              have notKept : cur ∉ kept := fun inside =>
                (List.nodup_append.mp distinct).2.2 cur inside cur List.mem_cons_self rfl
              rw [List.erase_append_right _ notKept, List.erase_cons_head]
            rw [erased] at after shrunk
            obtain ⟨s', active', free'', freeH'', rests, final, fewer⟩ := ih kept rest freed free' freeH' after shorter
            refine ⟨s', active', free'', freeH'', ?_, final, shrunk_trans s freed s' _ _ _ shrunk fewer⟩
            rw [pair.acHash, Option.bind_some, pair.clientHash, Option.bind_some,
              show (s.allHashes ac).interface = some acIf from acFace, Option.bind_some,
              show (s.allHashes cl).interface = some cliIf from cliFace, Option.bind_some, ran, Option.bind_some,
                Option.map_map]
            exact rests
          · have table' : Table cfg s ((kept ++ [cur]) ++ rest) free freeH := by
              rw [List.append_assoc]
              exact table
            have later := ih (kept ++ [cur]) rest s free freeH table' shorter
            rw [List.append_assoc] at later
            exact later

theorem cleanSessions_shrinks (cfg : Config) (s : RelayState) (active free freeH : List Nat)
    (table : Table cfg s active free freeH) : Shrinks cfg s active (cleanSessions cfg s) := by
  unfold cleanSessions
  rw [chain_head (sesNext s) s.activeSessions active (chain_of_linked _ _ none _ _ table.activeList)]
  exact cleanFrom_shrinks cfg s.maxSessions [] active s free freeH table (active_length cfg s active free freeH table)

-- The frames that reach the session part of relayHandlePADS, with the interface,
-- the frame without padding and the relay tag.
def padsOf (cfg : Config) : Event → Option (Nat × PPPoEPacket × RelayTag)
  | .discovery iface frame =>
      cfg.interfaces[iface]?.bind fun i =>
      if pppoeVer frame.vertype ≠ 1 ∨ pppoeType frame.vertype ≠ 1 then none
      else (checkLength frame).bind fun packet =>
        if packet.code = codePADS then (padsTag cfg iface i packet).map fun tag => (iface, packet, tag) else none
  | _ => none

def opening (cfg : Config) (s : RelayState) (event : Event) : Option (Nat × PPPoEPacket × RelayTag) :=
  (padsOf cfg event).filter fun pads =>
    pads.2.1.session ≠ htons 0 ∧ findSession s pads.2.1.hSource pads.2.1.session = none ∧ s.numSessions < s.maxSessions

theorem step_pads (cfg : Config) (s : RelayState) (event : Event) (iface : Nat) (packet : PPPoEPacket) (tag : RelayTag)
    (pads : padsOf cfg event = some (iface, packet, tag)) : ∃ i, cfg.interfaces[iface]? = some i ∧
      step cfg s event = relayHandlePADS cfg s iface i packet ∧ padsTag cfg iface i packet = some tag := by
  cases event with
  | discovery face frame =>
      unfold padsOf at pads
      obtain ⟨i, known, pads⟩ := Option.bind_eq_some_iff.mp pads
      split at pads
      · cases pads
      · next version =>
          obtain ⟨trimmed, checked, pads⟩ := Option.bind_eq_some_iff.mp pads
          split at pads
          · next coded =>
              obtain ⟨found, tagged, same⟩ := Option.map_eq_some_iff.mp pads
              simp only [Prod.mk.injEq] at same
              obtain ⟨rfl, rfl, rfl⟩ := same
              refine ⟨i, known, ?_, tagged⟩
              rw [step, known, Option.bind_some, relayGotDiscoveryPacket, if_neg version, checked]
              dsimp only
              rw [coded, if_neg (by decide), if_neg (by decide), if_neg (by decide), if_neg (by decide), if_pos rfl]
          · cases pads
  | session face frame => cases pads
  | clean => cases pads
  | alarm => cases pads

theorem padsTag_known (cfg : Config) (iface : Nat) (i : PPPoEInterface) (packet : PPPoEPacket) (tag : RelayTag)
    (tagged : padsTag cfg iface i packet = some tag) :
    cfg.interfaces[tag.ifIndex]? = some tag.target ∧ tag.ifIndex ≠ iface := by
  unfold padsTag at tagged
  split at tagged
  · cases tagged
  split at tagged
  · cases tagged
  split at tagged
  · cases tagged
  unfold relayTag at tagged
  split at tagged
  · cases tagged
  · dsimp only at tagged
    split at tagged
    · cases tagged
    split at tagged
    · cases tagged
    split at tagged
    · cases tagged
    · next known =>
        split at tagged
        · cases tagged
        · next fits =>
            obtain rfl := Option.some.inj tagged
            exact ⟨known, fun same => fits (.inr same)⟩

theorem relayHandlePADS_cases (cfg : Config) (s : RelayState) (active free freeH : List Nat)
    (table : Table cfg s active free freeH) (iface : Nat) (i : PPPoEInterface) (packet : PPPoEPacket) (tag : RelayTag)
    (tagged : padsTag cfg iface i packet = some tag) :
    (packet.session = htons 0 ∧ relayHandlePADS cfg s iface i packet = some
    (s, [relayPADS packet tag packet.session])) ∨
    (packet.session ≠ htons 0 ∧ ∃ p a, findSession s packet.hSource packet.session = some p ∧ (legAt s p).ses = some a ∧
      relayHandlePADS cfg s iface i packet = some (s, [relayPADS packet tag (s.allSessions a).sesNum])) ∨
    (packet.session ≠ htons 0 ∧ findSession s packet.hSource packet.session = none ∧
      relayHandlePADS cfg s iface i packet =
        (createSession s iface tag.ifIndex packet.hSource tag.mac packet.session).map fun made =>
          match made with
          | (some ses, s) => (s, [relayPADS packet tag (s.allSessions ses).sesNum])
          | (none, s) =>
              (s, relaySendError cfg codePADS (htons 0) tag.ifIndex tag.mac
                  ((findTag packet tagHostUniq).map (·.2)) unableToAllocate ++
                relaySendError cfg codePADT packet.session iface packet.hSource none unableToAllocate)) := by
  unfold relayHandlePADS
  rw [tagged]
  dsimp only
  by_cases zero : packet.session = htons 0
  · exact .inl ⟨zero, if_pos zero⟩
  · rw [if_neg zero]
    cases found : findSession s packet.hSource packet.session with
    | none => exact .inr (.inr ⟨zero, rfl, rfl⟩)
    | some p =>
        obtain ⟨a, _, ac, cl, pair, leg, _⟩ := findSession_leg cfg s active free freeH table _ _ p found
        obtain ⟨_, _, _, owner, _⟩ := paired_follow cfg s a ac cl p pair leg
        refine .inr (.inl ⟨zero, p, a, rfl, owner, ?_⟩)
        rw [Option.bind_some, show (s.allHashes p).ses = some a from owner]

theorem relayGotDiscoveryPacket_other (cfg : Config) (s : RelayState) (active free freeH : List Nat)
    (table : Table cfg s active free freeH) (iface : Nat) (i : PPPoEInterface) (frame : PPPoEPacket)
    (known : cfg.interfaces[iface]? = some i) (other : padsOf cfg (.discovery iface frame) = none) :
    Shrinks cfg s active (relayGotDiscoveryPacket cfg s iface i frame) := by
  have same := shrinks_same cfg s active free freeH table
  rw [padsOf, known, Option.bind_some] at other
  unfold relayGotDiscoveryPacket
  by_cases version : pppoeVer frame.vertype ≠ 1 ∨ pppoeType frame.vertype ≠ 1
  · rw [if_pos version]
    exact same []
  · rw [if_neg version] at other ⊢
    cases checked : checkLength frame with
    | none => exact same []
    | some packet =>
        rw [checked, Option.bind_some] at other
        dsimp only
        split
        · exact relayHandlePADT_shrinks cfg s active free freeH table i packet
        split
        · exact same _
        split
        · exact same _
        split
        · exact same _
        split
        · next coded =>
            rw [if_pos coded, Option.map_eq_none_iff] at other
            unfold relayHandlePADS
            rw [other]
            exact same []
        · exact same []

-- An event can occur: a frame needs its interface, the clean-up its wake-up.
def Enabled (cfg : Config) (s : RelayState) : Event → Prop
  | .session iface _ => iface < cfg.interfaces.length
  | .discovery iface _ => iface < cfg.interfaces.length
  | .clean => s.cleanPipe ≠ 0
  | .alarm => cfg.idleTimeout ≠ 0

theorem step_table (cfg : Config) (s : RelayState) (active free freeH : List Nat)
    (table : Table cfg s active free freeH) (event : Event) (enabled : Enabled cfg s event) :
    (opening cfg s event = none ∧ Shrinks cfg s active (step cfg s event)) ∨
    (∃ iface packet tag sess acHash cliHash s' free' freeH', opening cfg s event = some (iface, packet, tag) ∧
      s.freeSessions = some sess ∧ next cfg s event = some s' ∧ Table cfg s' (sess :: active) free' freeH' ∧
      legs s' (sess :: active) = cliHash :: acHash :: legs s active ∧
      (acHash ∉ legs s active ∧ cliHash ∉ legs s active) ∧
      Opened s s' sess acHash cliHash iface tag.ifIndex packet.hSource tag.mac packet.session) := by
  have same := shrinks_same cfg s active free freeH table []
  cases pads : padsOf cfg event with
  | none =>
      refine .inl ⟨by rw [opening, pads]; rfl, ?_⟩
      cases event with
      | session iface frame =>
          rw [step, List.getElem?_eq_getElem enabled, Option.bind_some]
          exact relayGotSessionPacket_shrinks cfg s active free freeH table _ frame
      | discovery iface frame =>
          rw [step, List.getElem?_eq_getElem enabled, Option.bind_some]
          exact relayGotDiscoveryPacket_other cfg s active free freeH table iface _ frame
            (List.getElem?_eq_getElem enabled) pads
      | clean =>
          have table' : Table cfg { s with cleanCounter := 0, cleanPipe := s.cleanPipe - 1 } active free freeH :=
            table_congr cfg s _ active free freeH rfl rfl rfl (fun _ => rfl) ⟨rfl, rfl, rfl, rfl, rfl, rfl⟩ table
          rw [step, if_neg enabled]
          dsimp only
          refine shrinks_after cfg s { s with cleanCounter := 0, cleanPipe := s.cleanPipe - 1 } active active
            ⟨List.Sublist.refl _, List.Sublist.refl _, fun _ => rfl, fun _ => rfl⟩ _ ?_
          split
          · exact cleanSessions_shrinks cfg _ active free freeH table'
          · exact shrinks_same cfg _ active free freeH table' []
      | alarm =>
          have table' : Table cfg (alarmHandler cfg s) active free freeH :=
            table_congr cfg s _ active free freeH rfl rfl rfl (fun _ => rfl) ⟨rfl, rfl, rfl, rfl, rfl, rfl⟩ table
          have timed : cfg.idleTimeout ≠ 0 := enabled
          rw [step, if_pos timed]
          exact shrinks_after cfg s (alarmHandler cfg s) active active
            ⟨List.Sublist.refl _, List.Sublist.refl _, fun _ => rfl, fun _ => rfl⟩ _
            (shrinks_same cfg _ active free freeH table' [])
  | some found =>
      obtain ⟨iface, packet, tag⟩ := found
      obtain ⟨i, known, stepped, tagged⟩ := step_pads cfg s event iface packet tag pads
      have cases := relayHandlePADS_cases cfg s active free freeH table iface i packet tag tagged
      rw [← stepped] at cases
      rcases cases with ⟨zero, ran⟩ | ⟨_, p, a, held, _, ran⟩ | ⟨nonzero, absent, ran⟩
      · refine .inl ⟨?_, ran ▸ shrinks_same cfg s active free freeH table _⟩
        simp [opening, pads, zero]
      · refine .inl ⟨?_, ran ▸ shrinks_same cfg s active free freeH table _⟩
        simp [opening, pads, held]
      · by_cases room : s.numSessions < s.maxSessions
        · obtain ⟨sess, free', acHash, cliHash, freeH', s', isFree, made, after, grown, fresh, opened⟩ :=
            createSession_table cfg s active free freeH table room iface tag.ifIndex packet.hSource tag.mac
              packet.session
              ⟨i, known⟩ ⟨tag.target, (padsTag_known cfg iface i packet tag tagged).1⟩
          refine .inr ⟨iface, packet, tag, sess, acHash, cliHash, s', free', freeH', ?_, ?_, ?_, after, grown, fresh,
            opened⟩
          · simp [opening, pads, nonzero, absent, room]
          · have head := table.freeList
            rw [isFree] at head
            exact head.1
          · unfold next
            rw [ran, made]
            rfl
        · refine .inl ⟨?_, ?_⟩
          · simp [opening, pads, room]
          · rw [ran, createSession_full s _ _ _ _ _ (Nat.not_lt.mp room)]
            exact shrinks_same cfg s active free freeH table _

theorem next_enabled (cfg : Config) (s s' : RelayState) (event : Event) (moved : next cfg s event = some s') :
    Enabled cfg s event := by
  unfold next at moved
  cases event with
  | session iface frame =>
      by_cases bound : iface < cfg.interfaces.length
      · exact bound
      · rw [step, List.getElem?_eq_none (Nat.le_of_not_lt bound)] at moved
        cases moved
  | discovery iface frame =>
      by_cases bound : iface < cfg.interfaces.length
      · exact bound
      · rw [step, List.getElem?_eq_none (Nat.le_of_not_lt bound)] at moved
        cases moved
  | clean =>
      intro zero
      rw [step, if_pos zero] at moved
      cases moved
  | alarm =>
      intro zero
      rw [step, if_neg (fun nonzero => nonzero zero)] at moved
      cases moved

theorem run_table (cfg : Config) (nsess : Nat) (positive : 1 ≤ nsess) (bounded : nsess ≤ 65534)
    (visits : List (RelayState × Event)) (s : RelayState) (run : Run (next cfg) (initRelay nsess) visits s) :
    ∃ active free freeH, Table cfg s active free freeH := by
  refine run.invariant (fun _ _ => True) (fun s => ∃ active free freeH, Table cfg s active free freeH)
    ⟨[], _, _, initRelay_table cfg nsess positive bounded⟩ ?_ (Run.meets_always visits)
  rintro state event after ⟨active, free, freeH, table⟩ _ moved
  rcases step_table cfg state active free freeH table event (next_enabled cfg state after event moved) with
    ⟨_, s', active', free', freeH', reached, kept, _⟩ | ⟨_, _, _, sess, _, _, s', free', freeH', _, _, reached, kept, _⟩
  · obtain rfl := Option.some.inj (moved.symm.trans reached)
    exact ⟨active', free', freeH', kept⟩
  · obtain rfl := Option.some.inj (moved.symm.trans reached)
    exact ⟨sess :: active, free', freeH', kept⟩

end ZyAgf.Pppoe.Relay
