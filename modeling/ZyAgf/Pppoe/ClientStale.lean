import ZyAgf.Pppoe.ClientDeadline
import ZyAgf.Pppoe.ClientDiscovery
import ZyAgf.Pppoe.TagWalk

set_option autoImplicit false

namespace ZyAgf.Pppoe.Client

-- A frame that holds its header and all that its length field counts.
def Frame.complete (frame : Frame) : Bool :=
  hdrSize ≤ frame.bytes.length && (packetIn frame.bytes).length + hdrSize ≤ frame.bytes.length

-- What a pass has to do to the connection, told by what it receives alone: no
-- buffer is left over from earlier passes.
def heed (receive : Connection → PPPoEPacket → Option Connection) (last : DiscoveryState) (expireAt : Timeval)
    (conn : Connection) (pass : Pass) : Connection × Status :=
  match (timeLeft pass.now expireAt).1, pass.outcome with
  | false, _ => (conn, .timedOut)
  | true, .failed => (conn, .exited)
  | true, .timedOut => (conn, .timedOut)
  | true, .ready received =>
      match received.filter Frame.complete with
      | none => (conn, .waiting)
      | some frame =>
          match receive conn (packetIn frame.bytes) with
          | none => (conn, .exited)
          | some conn => (conn, if conn.discoveryState = last then .answered else .waiting)

section Locality

theorem tagsOf_append (packet : PPPoEPacket) (rest : List UInt8) (received : packet.length ≤ packet.payload.length) :
    tagsOf { packet with payload := packet.payload ++ rest } = tagsOf packet := by
  unfold tagsOf parsePacket tagsReadable
  dsimp only
  split
  · rw [tagsFrom_append packet.payload rest packet.length _ _ received]
  · rfl

theorem macAt_append (front back : List UInt8) (offset : Nat) (inside : offset + 6 ≤ front.length) :
    macAt (front ++ back) offset = macAt front offset := by
  unfold macAt
  congr 1
  funext i
  rw [List.getD_append _ _ _ _ (by omega)]

theorem packetIn_append (front back : List UInt8) (header : hdrSize ≤ front.length) :
    packetIn (front ++ back) = { packetIn front with payload := (packetIn front).payload ++ back } := by
  have twenty : hdrSize = 20 := rfl
  have byte (offset : Nat) (inside : offset < 20) : (front ++ back).getD offset 0 = front.getD offset 0 :=
    List.getD_append _ _ _ _ (by omega)
  unfold packetIn wordAt byteAt
  rw [macAt_append front back 0 (by omega), macAt_append front back 6 (by omega), byte 14 (by omega),
    byte 15 (by omega),
    byte 16 (by omega), byte 17 (by omega), byte 18 (by omega), byte (18 + 1) (by omega),
      List.drop_append_of_le_length header]

end Locality

theorem failed_checked (buffer : Buffer) : lengthChecked buffer.packet (-1) = true := by
  have word : buffer.packet.length < 65536 := by
    have high := (buffer.toList.getD 18 0).toNat_lt
    have low := (buffer.toList.getD (18 + 1) 0).toNat_lt
    unfold Buffer.packet packetIn wordAt byteAt
    dsimp only
    omega
  have twenty : hdrSize = 20 := rfl
  have largest : sizeT (-1) = 2 ^ 64 - 1 := by decide
  unfold lengthChecked
  rw [largest, decide_eq_true_eq]
  omega

theorem store_toList (buffer : Buffer) (frame : Frame) :
    (buffer.store frame).toList = frame.bytes ++ buffer.toList.drop frame.bytes.length := by
  simp [Buffer.store, Vector.toList]

theorem stored_checked (buffer : Buffer) (frame : Frame) :
    lengthChecked (buffer.store frame).packet frame.bytes.length = frame.complete := by
  have fits := frame.fits
  have twenty : hdrSize = 20 := rfl
  have most : packetSize = 1528 := rfl
  unfold lengthChecked Frame.complete
  rw [sizeT_natCast _ (by omega), Bool.eq_iff_iff, decide_eq_true_eq, Bool.and_eq_true, decide_eq_true_eq,
    decide_eq_true_eq]
  by_cases header : hdrSize ≤ frame.bytes.length
  · unfold Buffer.packet
    rw [store_toList, packetIn_append _ _ header]
    dsimp only
    omega
  · omega

theorem lengthOk_checked (wait : Wait) (received : Option Frame) :
    lengthOk (receivePacket wait.buffer received).1.packet (received.map fun frame => frame.bytes.length) =
      lengthChecked (receivePacket wait.buffer received).1.packet (receivePacket wait.buffer received).2 := by
  cases received with
  | none => exact (failed_checked wait.buffer).symm
  | some frame =>
      have fits := frame.fits
      have most : packetSize = 1528 := rfl
      unfold lengthOk lengthChecked receivePacket
      dsimp only [Option.map_some]
      rw [sizeT_natCast _ (by omega), decide_eq_decide]
      omega

theorem takePacket_buffer (receive : Connection → PPPoEPacket → Option Connection) (last : DiscoveryState) (wait : Wait)
    (received : Option Frame) : (takePacket receive last wait received).buffer =
    (receivePacket wait.buffer received).1 := by
  unfold takePacket
  dsimp only
  split <;> rfl

theorem step_waitForPADO (cfg : Config) (client : Process) (attempts : Nat)
    (place : client.place = .waitForPADO attempts)
    (going : client.conn.discoveryState ≠ .receivedPADO) (buffer : Buffer) (received : Option Frame) :
    let next := takePacket cfg.request.receivePADO .receivedPADO ⟨client.conn, buffer, .waiting⟩ received
    step cfg client (.receive next.buffer.packet (received.map fun frame => frame.bytes.length)) =
      some (match next.status with
        | .exited => exit client
        | .answered => afterPADO cfg { client with conn := next.conn } attempts
        | _ => ({ client with conn := next.conn }, [])) := by
  intro next
  have sizes := lengthOk_checked ⟨client.conn, buffer, .waiting⟩ received
  unfold step
  rw [place]
  dsimp only
  rw [takePacket_buffer, sizes]
  unfold next takePacket
  dsimp only
  cases lengthChecked (receivePacket buffer received).1.packet (receivePacket buffer received).2 with
  | false => simp [going, ← place]
  | true =>
      rw [if_pos rfl, if_pos rfl]
      cases cfg.request.receivePADO client.conn (receivePacket buffer received).1.packet with
      | none => rfl
      | some conn => by_cases reached : conn.discoveryState = .receivedPADO <;> simp [reached]

theorem step_waitForPADS (cfg : Config) (client : Process) (attempts : Nat)
    (place : client.place = .waitForPADS attempts)
    (going : client.conn.discoveryState ≠ .session) (buffer : Buffer) (received : Option Frame) :
    let next := takePacket (fun conn packet => some (cfg.request.receivePADS conn packet)) .session
      ⟨client.conn, buffer, .waiting⟩ received
    step cfg client (.receive next.buffer.packet (received.map fun frame => frame.bytes.length)) =
      some (match next.status with
        | .answered => afterPADS cfg { client with conn := next.conn } attempts
        | _ => ({ client with conn := next.conn }, [])) := by
  intro next
  have sizes := lengthOk_checked ⟨client.conn, buffer, .waiting⟩ received
  unfold step
  rw [place]
  dsimp only
  rw [takePacket_buffer, sizes]
  unfold next takePacket
  dsimp only
  cases lengthChecked (receivePacket buffer received).1.packet (receivePacket buffer received).2 with
  | false => simp [going, ← place]
  | true =>
      rw [if_pos rfl, if_pos rfl]
      dsimp only
      by_cases reached : (cfg.request.receivePADS client.conn (receivePacket buffer received).1.packet).discoveryState =
        .session
      · simp [reached]
      · simp [reached]

section Judging

-- A judgement that sees no more of a packet than its header and its tags.
def Local (receive : Connection → PPPoEPacket → Option Connection) : Prop :=
  ∀ conn packet rest, packet.length ≤ packet.payload.length →
    receive conn { packet with payload := packet.payload ++ rest } = receive conn packet

theorem receivePADO_local (req : Request) : Local req.receivePADO := by
  intro conn packet rest received
  unfold Request.receivePADO Request.packetIsForMe
  simp only [tagsOf_append packet rest received]

theorem receivePADS_local (req : Request) : Local (fun conn packet => some (req.receivePADS conn packet)) := by
  intro conn packet rest received
  unfold Request.receivePADS Request.packetIsForMe
  simp only [tagsOf_append packet rest received]

end Judging

section Passes

variable (receive : Connection → PPPoEPacket → Option Connection) (last : DiscoveryState) (expireAt : Timeval)

def Wait.result (wait : Wait) : Connection × Status := (wait.conn, wait.status)

-- The connection is changed, and the wait ended, as a pass without leftovers
-- would have it.
def Heeds (wait : Wait) (pass : Pass) : Prop :=
  ∀ next, waitStep receive last expireAt wait pass = some next → next.result = heed receive last expireAt wait.conn pass

def FailsToReceive (pass : Pass) : Prop := (timeLeft pass.now expireAt).1 = true ∧ pass.outcome = .ready none

theorem onePass_heeds (isLocal : Local receive) (wait : Wait) (pass : Pass) (going : wait.conn.discoveryState ≠ last)
    (received : ¬ FailsToReceive expireAt pass) :
    (onePass receive last expireAt wait pass).result = heed receive last expireAt wait.conn pass := by
  unfold onePass heed Wait.result
  cases left : timeLeft pass.now expireAt with
  | mk more tv =>
      cases more with
      | false => rfl
      | true =>
          cases reported : pass.outcome with
          | failed => rfl
          | timedOut => rfl
          | ready received =>
              cases received with
              | none => exact absurd ⟨by rw [left], reported⟩ ‹¬ FailsToReceive expireAt pass›
              | some frame =>
                  simp only [takePacket, receivePacket, stored_checked wait.buffer frame]
                  cases complete : frame.complete with
                  | false => simp [Option.filter, complete, going]
                  | true =>
                      have sizes := complete
                      unfold Frame.complete at sizes
                      simp only [Bool.and_eq_true, decide_eq_true_eq] at sizes
                      have inside : (packetIn frame.bytes).length ≤ (packetIn frame.bytes).payload.length := by
                        have payload : (packetIn frame.bytes).payload = frame.bytes.drop hdrSize := rfl
                        rw [payload, List.length_drop]
                        omega
                      have same : receive wait.conn (wait.buffer.store frame).packet = receive wait.conn
                        (packetIn frame.bytes) := by
                        unfold Buffer.packet
                        rw [store_toList, packetIn_append _ _ sizes.1]
                        exact isLocal _ _ _ inside
                      simp only [Option.filter, complete, if_true, same]
                      cases receive wait.conn (packetIn frame.bytes) <;> rfl

theorem onePass_fails (wait : Wait) (pass : Pass) (fails : FailsToReceive expireAt pass) :
    onePass receive last expireAt wait pass =
      match receive wait.conn wait.buffer.packet with
      | none => { wait with status := .exited }
      | some conn =>
          { wait with conn := conn, status := if conn.discoveryState = last then .answered else .waiting } := by
  obtain ⟨left, reported⟩ := fails
  unfold onePass
  cases shown : timeLeft pass.now expireAt with
  | mk more tv =>
      rw [shown] at left
      obtain rfl : more = true := left
      rw [reported]
      unfold takePacket receivePacket
      dsimp only
      cases receive wait.conn wait.buffer.packet with
      | none => simp only [failed_checked wait.buffer, if_true]
      | some conn => simp only [failed_checked wait.buffer, if_true]

theorem heeds_iff (isLocal : Local receive) (wait : Wait) (pass : Pass) (waiting : wait.status = .waiting)
    (going : wait.conn.discoveryState ≠ last) :
    Heeds receive last expireAt wait pass ↔
      (FailsToReceive expireAt pass → receive wait.conn wait.buffer.packet = some wait.conn) := by
  unfold Heeds waitStep
  rw [if_pos waiting]
  simp only [Option.some.injEq, forall_eq']
  by_cases fails : FailsToReceive expireAt pass
  · have unheard : heed receive last expireAt wait.conn pass = (wait.conn, .waiting) := by
      unfold heed
      rw [fails.1, fails.2]
      rfl
    rw [onePass_fails receive last expireAt wait pass fails, unheard]
    cases receive wait.conn wait.buffer.packet with
    | none => simp [Wait.result, fails]
    | some conn =>
        simp only [Wait.result, Prod.mk.injEq, Option.some.injEq]
        constructor
        · rintro ⟨same, _⟩ _
          exact same
        · intro same
          obtain rfl := same fails
          exact ⟨rfl, if_neg going⟩
  · exact ⟨fun _ failed => absurd failed fails, fun _ =>
      onePass_heeds receive last expireAt isLocal wait pass going fails⟩

theorem waiting_going (start : Wait) (begun : start.conn.discoveryState ≠ last) (visits : List (Wait × Pass))
    (finish : Wait)
    (run : Run (waitStep receive last expireAt) start visits finish) :
    finish.status = .waiting → finish.conn.discoveryState ≠ last := by
  have invariant := Run.invariant (fun _ _ => True)
    (fun wait : Wait => wait.status = .waiting → wait.conn.discoveryState ≠ last)
    (fun _ => begun) ?_ run (Run.meets_always visits)
  · exact invariant
  · intro wait pass next _ _ moved
    unfold waitStep at moved
    split at moved
    next waiting =>
      obtain rfl := Option.some.inj moved
      unfold onePass
      split
      · intro impossible
        cases impossible
      · split
        · intro impossible
          cases impossible
        · intro impossible
          cases impossible
        · dsimp only [takePacket]
          split
          · intro impossible
            cases impossible
          · dsimp only
            split
            · intro impossible
              cases impossible
            next other => exact fun _ => other
    next => cases moved

theorem run_heeds_iff (isLocal : Local receive) (quiet : Connection → PPPoEPacket → Prop)
    (same : ∀ conn packet, conn.discoveryState ≠ last → (receive conn packet = some conn ↔ quiet conn packet))
    (start : Wait) (begun : start.conn.discoveryState ≠ last) (visits : List (Wait × Pass)) (finish : Wait)
    (run : Run (waitStep receive last expireAt) start visits finish) :
    Run.Meets (Heeds receive last expireAt) visits ↔
      Run.Meets (fun wait pass => FailsToReceive expireAt pass → quiet wait.conn wait.buffer.packet) visits := by
  refine forall₂_congr fun visit member => ?_
  obtain ⟨earlier, next, reaches, _, moved⟩ := Run.visit_split run visit member
  have waiting : visit.1.status = .waiting := by
    unfold waitStep at moved
    split at moved
    · assumption
    · cases moved
  have going := waiting_going receive last expireAt start begun earlier visit.1 reaches waiting
  rw [heeds_iff receive last expireAt isLocal visit.1 visit.2 waiting going, same _ _ going]

end Passes

theorem parsePADOTags_tag (req : Request) (tag : PPPoETag) (pc : PacketCriteria) (conn : Connection) :
    req.parsePADOTags (pc, conn) tag =
      if errorTag tag.type = true ∧ req.printACNames = false ∧ req.persist = false then none
      else some (
        { seenACName := pc.seenACName || tag.type == tagAcName
          seenServiceName := pc.seenServiceName || tag.type == tagServiceName
          acNameOK := pc.acNameOK || (tag.type == tagAcName && req.acName == some tag.payload)
          serviceNameOK := pc.serviceNameOK || (tag.type == tagServiceName && req.serviceName == some tag.payload)
          gotError := pc.gotError || (!req.printACNames && errorTag tag.type) },
        { conn with
          cookie := if tag.type = tagAcCookie then some tag else conn.cookie
          relayId := if tag.type = tagRelaySessionId then some tag else conn.relayId }) := by
  obtain ⟨type, payload⟩ := tag
  unfold Request.parsePADOTags
  dsimp only
  by_cases isAC : type = tagAcName
  · subst isAC
    simp [errorTag, tagAcName, tagServiceName, tagAcCookie, tagRelaySessionId, tagServiceNameError, tagAcSystemError,
      tagGenericError]
  by_cases isService : type = tagServiceName
  · subst isService
    simp [errorTag, tagAcName, tagServiceName, tagAcCookie, tagRelaySessionId, tagServiceNameError, tagAcSystemError,
      tagGenericError]
  by_cases isCookie : type = tagAcCookie
  · subst isCookie
    simp [errorTag, tagAcName, tagServiceName, tagAcCookie, tagRelaySessionId, tagServiceNameError, tagAcSystemError,
      tagGenericError]
  by_cases isRelay : type = tagRelaySessionId
  · subst isRelay
    simp [errorTag, tagAcName, tagServiceName, tagAcCookie, tagRelaySessionId, tagServiceNameError, tagAcSystemError,
      tagGenericError]
  have noAC : (type == tagAcName) = false := beq_eq_false_iff_ne.mpr isAC
  have noService : (type == tagServiceName) = false := beq_eq_false_iff_ne.mpr isService
  rw [if_neg isAC, if_neg isService, if_neg isCookie, if_neg isRelay, if_neg isCookie, if_neg isRelay]
  by_cases bad : errorTag type = true
  · rw [if_pos bad]
    cases printing : req.printACNames with
    | true => simp [noAC, noService]
    | false => cases persisting : req.persist <;> simp [noAC, noService, bad]
  · simp [noAC, noService, bad]

theorem parsePADOTags_foldlM (req : Request) (tags : List PPPoETag) (pc : PacketCriteria) (conn : Connection) :
    tags.foldlM req.parsePADOTags (pc, conn) =
      if (tags.any fun tag => errorTag tag.type) = true ∧ req.printACNames = false ∧ req.persist = false then none
      else some (
        { seenACName := pc.seenACName || tags.any (·.type == tagAcName)
          seenServiceName := pc.seenServiceName || tags.any (·.type == tagServiceName)
          acNameOK := pc.acNameOK || tags.any fun tag => tag.type == tagAcName && req.acName == some tag.payload
          serviceNameOK := pc.serviceNameOK || tags.any fun tag =>
            tag.type == tagServiceName && req.serviceName == some tag.payload
          gotError := pc.gotError || (!req.printACNames && tags.any fun tag => errorTag tag.type) },
        { conn with
          cookie := heldTag tagAcCookie conn.cookie tags
          relayId := heldTag tagRelaySessionId conn.relayId tags }) := by
  induction tags generalizing pc conn with
  | nil => simp [heldTag]
  | cons tag tags ih =>
      rw [List.foldlM_cons, parsePADOTags_tag]
      by_cases fatal : errorTag tag.type = true ∧ req.printACNames = false ∧ req.persist = false
      · rw [if_pos fatal, if_pos ⟨by simp [fatal.1], fatal.2⟩]
        rfl
      · rw [if_neg fatal]
        change tags.foldlM req.parsePADOTags _ = _
        rw [ih]
        simp only [List.any_cons, heldTag_cons, Bool.or_assoc, Bool.and_or_distrib_left, Bool.or_eq_true]
        by_cases later : (tags.any fun tag => errorTag tag.type) = true ∧ req.printACNames = false ∧ req.persist = false
        · rw [if_pos later, if_pos ⟨.inr later.1, later.2⟩]
        · have neither : ¬ ((errorTag tag.type = true ∨ (tags.any fun tag => errorTag tag.type) = true) ∧
              req.printACNames = false ∧ req.persist = false) := by
            rintro ⟨here | there, silent⟩
            · exact fatal ⟨here, silent⟩
            · exact later ⟨there, silent⟩
          rw [if_neg later, if_neg neither]

-- A packet in which waitForPADO finds nothing new: it is no PADO to this client,
-- or its tags are held already and it lacks a name or brings an error that does
-- not end the process.
def NothingOffered (req : Request) (conn : Connection) (packet : PPPoEPacket) : Prop :=
  req.packetIsForMe packet = true → packet.code = codePADO → broadcast packet.hSource = false →
    ((∃ tag ∈ tagsOf packet, errorTag tag.type = true) → req.printACNames = true ∨ req.persist = true) ∧
    heldTag tagAcCookie conn.cookie (tagsOf packet) = conn.cookie ∧
    heldTag tagRelaySessionId conn.relayId (tagsOf packet) = conn.relayId ∧
    ((req.printACNames = false ∧ ∃ tag ∈ tagsOf packet, errorTag tag.type = true) ∨
      (∀ tag ∈ tagsOf packet, tag.type ≠ tagAcName) ∨ ∀ tag ∈ tagsOf packet, tag.type ≠ tagServiceName)

-- The same for waitForPADS, which notes each error it sees and takes the relay id.
def NothingConfirmed (req : Request) (conn : Connection) (packet : PPPoEPacket) : Prop :=
  packet.hSource = conn.peerEth → req.packetIsForMe packet = true → packet.code = codePADS →
    (∃ tag ∈ tagsOf packet, errorTag tag.type = true) ∧ conn.padsHadError = true ∧
      heldTag tagRelaySessionId conn.relayId (tagsOf packet) = conn.relayId

theorem stored_same_iff (conn : Connection) (cookie relayId : Option PPPoETag) :
    { conn with cookie := cookie, relayId := relayId } = conn ↔ cookie = conn.cookie ∧ relayId = conn.relayId := by
  cases conn
  simp

theorem any_type_iff (tags : List PPPoETag) (type : Nat) : tags.any (·.type == type) = true ↔ ¬ ∀ tag ∈ tags,
    tag.type ≠ type := by
  rw [List.any_eq_true]
  push Not
  simp

theorem any_error_iff (tags : List PPPoETag) : (tags.any fun tag => errorTag tag.type) = true ↔ ∃ tag ∈ tags,
    errorTag tag.type = true :=
  List.any_eq_true

theorem judged_same_iff (req : Request) (packet : PPPoEPacket) (conn between : Connection) (pc : PacketCriteria)
    (counted : between.numPADOs = conn.numPADOs) :
    (if pc.gotError ∨ ¬ pc.seenACName ∨ ¬ pc.seenServiceName then between
      else
        let conn := { between with numPADOs := between.numPADOs + 1 }
        if pc.acNameOK ∧ pc.serviceNameOK then
          let conn := { conn with peerEth := packet.hSource }
          if req.printACNames then conn else { conn with discoveryState := .receivedPADO }
        else conn) = conn ↔
      between = conn ∧ (pc.gotError = true ∨ ¬ pc.seenACName = true ∨ ¬ pc.seenServiceName = true) := by
  by_cases overlooked : pc.gotError = true ∨ ¬ pc.seenACName = true ∨ ¬ pc.seenServiceName = true
  · rw [if_pos overlooked]
    exact (and_iff_left overlooked).symm
  · rw [if_neg overlooked]
    refine iff_of_false ?_ fun kept => overlooked kept.2
    intro same
    have more := congrArg Connection.numPADOs same
    simp only [apply_ite Connection.numPADOs, ite_self] at more
    omega

theorem receivePADO_same_iff (req : Request) (conn : Connection) (packet : PPPoEPacket) :
    req.receivePADO conn packet = some conn ↔ NothingOffered req conn packet := by
  unfold Request.receivePADO NothingOffered
  by_cases passes : req.packetIsForMe packet = true ∧ packet.code = codePADO ∧ ¬ broadcast packet.hSource = true
  · obtain ⟨forMe, offer, unicast⟩ := passes
    have notBroadcast : broadcast packet.hSource = false := by simpa using unicast
    rw [if_pos ⟨forMe, offer, unicast⟩, parsePADOTags_foldlM, ← any_error_iff]
    simp only [forMe, offer, notBroadcast, forall_const]
    by_cases fatal : ((tagsOf packet).any fun tag => errorTag tag.type) = true ∧ req.printACNames = false ∧
      req.persist = false
    · obtain ⟨bad, silent, once⟩ := fatal
      rw [if_pos ⟨bad, silent, once⟩]
      simp [bad, silent, once]
    · have survives : ((tagsOf packet).any fun tag => errorTag tag.type) = true → req.printACNames = true ∨
        req.persist = true := by
        intro bad
        by_contra neither
        rw [not_or, Bool.not_eq_true, Bool.not_eq_true] at neither
        exact fatal ⟨bad, neither⟩
      rw [if_neg fatal, Option.map_some, Option.some.injEq]
      refine (judged_same_iff req packet conn
        { conn with
          cookie := heldTag tagAcCookie conn.cookie (tagsOf packet)
          relayId := heldTag tagRelaySessionId conn.relayId (tagsOf packet) } _ rfl).trans ?_
      dsimp only [Request.freshCriteria]
      rw [stored_same_iff, Bool.false_or, Bool.false_or, Bool.false_or, any_type_iff, any_type_iff, not_not, not_not,
        Bool.and_eq_true, Bool.not_eq_true']
      exact ⟨fun same => ⟨survives, same.1.1, same.1.2, same.2⟩, fun quiet => ⟨⟨quiet.2.1, quiet.2.2.1⟩, quiet.2.2.2⟩⟩
  · rw [if_neg passes]
    refine iff_of_true rfl fun forMe offer unicast => absurd ⟨forMe, offer, ?_⟩ passes
    simpa using unicast

theorem receivePADS_same_iff (req : Request) (conn : Connection) (packet : PPPoEPacket)
    (going : conn.discoveryState ≠ .session) :
    some (req.receivePADS conn packet) = some conn ↔ NothingConfirmed req conn packet := by
  unfold Request.receivePADS NothingConfirmed
  by_cases passes : packet.hSource = conn.peerEth ∧ req.packetIsForMe packet = true ∧ packet.code = codePADS
  · obtain ⟨sender, forMe, confirm⟩ := passes
    rw [if_pos ⟨sender, forMe, confirm⟩, parsePADSTags_fold, ← any_error_iff, Option.some.injEq]
    simp only [sender, forMe, confirm, forall_const, Bool.false_or]
    cases bad : (tagsOf packet).any fun tag => errorTag tag.type with
    | true =>
        cases conn
        simp [eq_comm, and_comm]
    | false =>
        refine iff_of_false ?_ fun quiet => by simp at quiet
        intro same
        exact going (congrArg Connection.discoveryState same).symm
  · rw [if_neg passes]
    exact iff_of_true rfl fun sender forMe confirm => absurd ⟨sender, forMe, confirm⟩ passes

-- Both waits, from any connection and with anything in the buffer.
theorem failed_receives_ignored_iff (req : Request) (conn : Connection) (buffer : Buffer) (begun : Timeval)
    (timeout : Int) :
    (∀ visits finish, Run (waitForPADO req (expiry begun timeout)) (beginPADO conn buffer) visits finish →
      (Run.Meets (Heeds req.receivePADO .receivedPADO (expiry begun timeout)) visits ↔
        Run.Meets (fun wait pass => FailsToReceive (expiry begun timeout) pass →
          NothingOffered req wait.conn wait.buffer.packet) visits)) ∧
    ∀ visits finish, Run (waitForPADS req (expiry begun timeout)) (beginPADS conn buffer) visits finish →
      (Run.Meets (Heeds (fun conn packet => some (req.receivePADS conn packet)) .session (expiry begun timeout))
        visits ↔
        Run.Meets (fun wait pass => FailsToReceive (expiry begun timeout) pass →
          NothingConfirmed req wait.conn wait.buffer.packet)
          visits) := by
  constructor
  · intro visits finish run
    exact run_heeds_iff _ _ _ (receivePADO_local req) _ (fun conn packet _ => receivePADO_same_iff req conn packet) _
      (by simp [beginPADO]) visits finish run
  · intro visits finish run
    exact run_heeds_iff _ _ _ (receivePADS_local req) _ (receivePADS_same_iff req) _
      (by simp [beginPADS]) visits finish run

def offerBytes : List UInt8 :=
  List.replicate 6 2 ++ List.replicate 6 4 ++ [0x88, 0x63, 0x11, 0x07, 0, 0, 0, 12] ++
    tagBytes ⟨tagServiceName, []⟩ ++ tagBytes ⟨tagAcName, [97, 99, 0, 0]⟩

def received (bytes : List UInt8) (fits : bytes.length ≤ packetSize) : Pass :=
  ⟨⟨6, 0⟩, by decide, [], .ready (some ⟨bytes, fits⟩)⟩

def recvFailed : Pass := ⟨⟨6, 0⟩, by decide, [], .ready none⟩

-- The offer comes without its last two bytes, so it is dropped, and then recv
-- fails.
def offerCut : List Pass := [received (offerBytes.take 30) (by decide), recvFailed]

abbrev anyoneWaits : Wait → Pass → Option Wait := waitForPADO anyoneRequest (expiry begunAt 5)

theorem failed_receives_ignored_once :
    let trace := Run.trace anyoneWaits (beginPADO idleConnection clearBuffer) [received offerBytes (by decide)]
    Run.Meets (Heeds anyoneRequest.receivePADO .receivedPADO (expiry begunAt 5)) trace ∧
      (Run.play anyoneWaits (beginPADO idleConnection clearBuffer) [received offerBytes (by decide)]).map
        (·.status) = some .answered := by
  have answered : (Run.play anyoneWaits (beginPADO idleConnection clearBuffer) [received offerBytes (by decide)]).map
    (·.status) =
      some .answered := by decide +kernel
  obtain ⟨finish, played, _⟩ := Option.map_eq_some_iff.mp answered
  refine ⟨((failed_receives_ignored_iff anyoneRequest idleConnection clearBuffer begunAt 5).1 _ finish
    (Run.of_play _ finish played)).mpr ?_, answered⟩
  rintro ⟨wait, pass⟩ member ⟨_, failed⟩
  obtain rfl := List.mem_singleton.mp (Run.trace_event _ _ _ member)
  cases failed

theorem failed_receive_acts_on_dropped_offer :
    let trace := Run.trace anyoneWaits (beginPADO idleConnection clearBuffer) offerCut
    (∃ finish, Run anyoneWaits (beginPADO idleConnection clearBuffer) trace finish ∧ finish.status = .answered ∧
      finish.conn.discoveryState = .receivedPADO) ∧
    (∀ pass ∈ offerCut, ∀ frame, pass.outcome = .ready (some frame) → frame.complete = false) ∧
    ¬ Run.Meets (Heeds anyoneRequest.receivePADO .receivedPADO (expiry begunAt 5)) trace := by
  intro trace
  have ended : (Run.play anyoneWaits (beginPADO idleConnection clearBuffer) offerCut).map
    (fun wait => (wait.status, wait.conn.discoveryState)) =
      some (.answered, .receivedPADO) := by decide +kernel
  obtain ⟨finish, played, shown⟩ := Option.map_eq_some_iff.mp ended
  obtain ⟨status, state⟩ := Prod.mk.inj shown
  have run := Run.of_play offerCut finish played
  refine ⟨⟨finish, run, status, state⟩, ?_, ?_⟩
  · intro pass member frame came
    rcases List.mem_cons.mp member with rfl | last
    · obtain rfl := Option.some.inj (Outcome.ready.inj came)
      decide
    · obtain rfl := List.mem_singleton.mp last
      cases came
  · intro heeds
    cases dropped : anyoneWaits (beginPADO idleConnection clearBuffer) (received (offerBytes.take 30) (by decide)) with
    | none => simp [Run.play, offerCut, dropped] at played
    | some middle =>
        have moved : anyoneWaits middle recvFailed = some finish := by simpa [Run.play, offerCut, dropped] using played
        have last : (middle, recvFailed) ∈ trace := by simp [trace, Run.trace, offerCut, dropped]
        have idle := congrArg Prod.snd (heeds _ last finish moved)
        have unheard : (heed anyoneRequest.receivePADO .receivedPADO (expiry begunAt 5) middle.conn recvFailed).2 =
          .waiting := rfl
        rw [unheard] at idle
        exact absurd (status.symm.trans idle) (by decide)

end ZyAgf.Pppoe.Client
