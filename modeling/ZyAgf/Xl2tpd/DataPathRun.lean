import ZyAgf.Xl2tpd.DataPath

set_option autoImplicit false

namespace ZyAgf.Xl2tpd

theorem readAt_snoc (side : EndPoint) (visits : List (DataLink × LinkEvent)) (link : DataLink) (event : LinkEvent) :
    readAt side (visits ++ [(link, event)]) = readAt side visits ++ readBy side event :=
  Run.stream_snoc (readBy side) visits link event

theorem arrivalsAt_snoc (side : EndPoint) (visits : List (DataLink × LinkEvent)) (link : DataLink) (event : LinkEvent) :
    arrivalsAt side (visits ++ [(link, event)]) = arrivalsAt side visits ++ (arrivalBy side event).toList :=
  Run.observe_snoc (fun _ => arrivalBy side) visits link event

-- One direction of the call: what has been read, sent and written so far.
structure Carried (packets : List (List UInt8)) (sender receiver : PppEnd) (side : EndPoint)
    (visits : List (DataLink × LinkEvent))
    (link : DataLink) : Prop where
  reads : ∃ next log, feed (hdlc maxRecvSize) (0, []) (readAt side visits) = (some next, log) ∧ next.1 = 0 ∧
    (link.ends side).reader = ⟨[], next.2⟩ ∧ HasSent sender (link.ends side) (packetsIn log) (link.sent side)
  same : Same receiver (link.ends side.other)
  given : (link.ends side.other).given = (arrivalsAt side.other visits).flatMap fun number =>
    asyncFrame (packets.getD number [])
  bound : ∀ number ∈ arrivalsAt side.other visits, number < packets.length
  expects : sender.call.sequenced = true → Expects (link.ends side.other).call (arrivalsAt side.other visits).length

section Direction

variable (packets : List (List UInt8)) (sender receiver : PppEnd) (side : EndPoint) (special : UInt8 → Bool)
    (sanity : Bool)
  (visits : List (DataLink × LinkEvent)) (link : DataLink) (event : LinkEvent)

theorem carried_at_receiver (e : PppEnd) (sent : EndPoint → List (List UInt8))
    (carried : Carried packets sender receiver side visits link)
    (unread : readBy side event = []) (none' : arrivalBy side.other event = none) (unsent : sent side = link.sent side)
    (same : Same (link.ends side.other) e) (given : e.given = (link.ends side.other).given)
    (counted : e.call.dataRecSeqNum = (link.ends side.other).call.dataRecSeqNum) :
    Carried packets sender receiver side (visits ++ [(link, event)])
      ⟨Function.update link.ends side.other e, sent⟩ := by
  obtain ⟨⟨next, log, fed, quiet, rests, sends⟩, same', given', bound, expects⟩ := carried
  have away : Function.update link.ends side.other e side = link.ends side := EndPoint.update_at_other _ side _
  have there : Function.update link.ends side.other e side.other = e := EndPoint.update_here ..
  have arrivals : arrivalsAt side.other (visits ++ [(link, event)]) = arrivalsAt side.other visits := by
    rw [arrivalsAt_snoc, none']
    exact List.append_nil _
  refine ⟨⟨next, log, ?_, quiet, ?_, ?_⟩, ?_, ?_, ?_, ?_⟩
  · rw [readAt_snoc, unread, List.append_nil]
    exact fed
  · exact (congrArg PppEnd.reader away).trans rests
  · dsimp only
    rw [away, unsent]
    exact sends
  · dsimp only
    rw [there]
    exact same_trans _ _ _ same' same
  · rw [arrivals, ← given', ← given]
    exact congrArg PppEnd.given there
  · rw [arrivals]
    exact bound
  · rw [arrivals]
    dsimp only
    rw [there]
    unfold Expects
    rw [counted]
    exact expects

theorem carried_at_sender (e : PppEnd) (carried : Carried packets sender receiver side visits link)
    (unread : readBy side event = [])
    (none' : arrivalBy side.other event = none) (same : Same (link.ends side) e)
    (reader : e.reader = (link.ends side).reader)
    (counted : e.call.dataSeqNum = (link.ends side).call.dataSeqNum) :
    Carried packets sender receiver side (visits ++ [(link, event)])
      { link with ends := Function.update link.ends side e } := by
  obtain ⟨⟨next, log, fed, quiet, rests, sends⟩, same', given, bound, expects⟩ := carried
  have there : Function.update link.ends side e side = e := EndPoint.update_here ..
  have away : Function.update link.ends side e side.other = link.ends side.other := EndPoint.update_other _ side _
  have arrivals : arrivalsAt side.other (visits ++ [(link, event)]) = arrivalsAt side.other visits := by
    rw [arrivalsAt_snoc, none']
    exact List.append_nil _
  refine ⟨⟨next, log, ?_, quiet, ?_, ?_⟩, ?_, ?_, ?_, ?_⟩
  · rw [readAt_snoc, unread, List.append_nil]
    exact fed
  · exact (congrArg PppEnd.reader there).trans (reader.trans rests)
  · dsimp only
    rw [there]
    exact ⟨same_trans _ _ _ sends.same same, counted.trans sends.next, sends.count, sends.each⟩
  · dsimp only
    rw [away]
    exact same'
  · rw [arrivals]
    exact (congrArg PppEnd.given away).trans given
  · rw [arrivals]
    exact bound
  · rw [arrivals]
    dsimp only
    rw [away]
    exact expects

variable (escapes : Escapes special) (fit : ∀ packet ∈ packets, Fits packet)

include escapes fit

theorem own_turn_carried (reads : List PtyRead) (e : PppEnd) (datagrams : List (List UInt8))
    (carried : Carried packets sender receiver side visits link) (healthy : Healthy link (.turn side reads))
    (part : readAt side visits ++ streamOf reads <+: packets.flatMap (pppFrame special))
    (turned : (link.ends side).turn reads = some (e, datagrams)) :
    Carried packets sender receiver side (visits ++ [(link, .turn side reads)])
      ⟨Function.update link.ends side e, Function.update link.sent side (link.sent side ++ datagrams)⟩ := by
  obtain ⟨⟨next, log, fed, quiet, rests, sends⟩, same, given, bound, expects⟩ := carried
  have away : Function.update link.ends side e side.other = link.ends side.other := EndPoint.update_other _ side _
  have own : readBy side (.turn side reads) = streamOf reads := if_pos rfl
  have arrivals : arrivalsAt side.other (visits ++ [(link, .turn side reads)]) = arrivalsAt side.other visits := by
    rw [arrivalsAt_snoc]
    exact List.append_nil _
  obtain ⟨next', log', fed', _, clean, _⟩ := takes_prefix maxRecvSize _ _ packets
    (takes_frames maxRecvSize special escapes packets fun packet member =>
    ⟨(fit packet member).some, (fit packet member).room⟩) part
  have clean' := (shortInside_append maxRecvSize (0, []) next _ _ log fed clean).2
  obtain ⟨escape, buf⟩ := next
  obtain rfl : escape = 0 := quiet
  have split := fed'
  rw [feed_append, fed] at split
  rcases more : feed (hdlc maxRecvSize) (0, buf) (streamOf reads) with ⟨found, log''⟩
  simp only [resume, more] at split
  obtain ⟨rfl, rfl⟩ := Prod.mk.inj split
  obtain ⟨rests', sends'⟩ := turn_sends sender (link.ends side) e _ _ datagrams reads buf next' log'' sends rests
    healthy.1 more clean' turned
  refine ⟨⟨next', log ++ log'', ?_, feed_plain maxRecvSize (0, buf) next' _ log'' rfl more healthy.2, ?_, ?_⟩, ?_, ?_,
    ?_, ?_⟩
  · rw [readAt_snoc, own]
    exact fed'
  · exact (congrArg PppEnd.reader (EndPoint.update_here ..)).trans rests'
  · rw [packetsIn_append]
    simpa only [Function.update_self] using sends'
  · dsimp only
    rw [away]
    exact same
  · rw [arrivals]
    exact (congrArg PppEnd.given away).trans given
  · rw [arrivals]
    exact bound
  · rw [arrivals]
    dsimp only
    rw [away]
    exact expects

theorem sent_bears (carried : Carried packets sender receiver side visits link)
    (part : readAt side visits <+: packets.flatMap (pppFrame special)) (number : Nat) (datagram : List UInt8)
    (sent : (link.sent side)[number]? = some datagram) :
    ∃ packet, packets[number]? = some packet ∧ Bears sender number packet datagram := by
  obtain ⟨next, log, fed, _, _, sends⟩ := carried.reads
  obtain ⟨_, log', fed', first, _, _⟩ := takes_prefix maxRecvSize _ _ packets
    (takes_frames maxRecvSize special escapes packets fun packet member =>
    ⟨(fit packet member).some, (fit packet member).room⟩) part
  obtain ⟨_, rfl⟩ := Prod.mk.inj (fed'.symm.trans fed)
  obtain ⟨packet, inside, bears⟩ := sends.each number datagram sent
  obtain ⟨more, rfl⟩ := first
  exact ⟨packet, (List.getElem?_append_left (List.getElem?_eq_some_iff.mp inside).1).trans inside, bears⟩

variable (joins : Joins sender receiver)

include joins

theorem own_arrival_carried (number : Nat) (space tail datagram : List UInt8) (outcomes : List PtyWrite) (e : PppEnd)
    (carried : Carried packets sender receiver side visits link)
    (healthy : Healthy link (.arrive side.other number space tail outcomes))
    (part : readAt side visits <+: packets.flatMap (pppFrame special))
    (order : sender.call.sequenced = true → InOrder (arrivalsAt side.other visits ++ [number]))
    (sent : (link.sent side)[number]? = some datagram)
    (received : (link.ends side.other).receive sanity space datagram tail outcomes = some e) :
    Carried packets sender receiver side (visits ++ [(link, .arrive side.other number space tail outcomes)])
      { link with ends := Function.update link.ends side.other e } := by
  obtain ⟨packet, whole, bears⟩ := sent_bears packets sender receiver side special visits link escapes fit carried part
    number datagram sent
  obtain ⟨⟨next, log, fed, quiet, rests, sends⟩, same, given, bound, expects⟩ := carried
  have there : Function.update link.ends side.other e side.other = e := EndPoint.update_here ..
  have away : Function.update link.ends side.other e side = link.ends side := EndPoint.update_at_other _ side _
  have arrivals : arrivalsAt side.other (visits ++ [(link, .arrive side.other number space tail outcomes)]) =
      arrivalsAt side.other visits ++ [number] := by
    rw [arrivalsAt_snoc, arrivalBy, if_pos rfl]
    rfl
  have joins' : Joins sender (link.ends side.other) :=
    ⟨joins.tunnel.trans same.ourtid.symm, joins.call.trans same.ourcid.symm⟩
  have expects' : sender.call.sequenced = true → Expects (link.ends side.other).call number := fun on => by
    rw [(inOrder_snoc _ number (order on)).2]
    exact expects on
  obtain ⟨written, later⟩ := receive_bears sanity sender
    (link.ends side.other) e number packet datagram space tail outcomes joins'
    (fit packet (List.mem_of_getElem? whole)) bears healthy.1 healthy.2 expects' received
  refine ⟨⟨next, log, ?_, quiet, ?_, ?_⟩, ?_, ?_, ?_, ?_⟩
  · rw [readAt_snoc]
    exact (congrArg _ (List.append_nil _)).trans fed
  · exact (congrArg PppEnd.reader away).trans rests
  · dsimp only
    rw [away]
    exact sends
  · dsimp only
    rw [there]
    exact same_trans _ _ _ same (receive_frame sanity _ e space datagram tail outcomes received).1
  · rw [arrivals, List.flatMap_append, ← given]
    dsimp only
    rw [there, written, List.flatMap_singleton, List.getD_eq_getElem?_getD, whole, Option.getD_some]
  · rw [arrivals]
    intro other arrived
    rcases List.mem_append.mp arrived with old | new
    · exact bound other old
    · rw [List.mem_singleton.mp new]
      exact (List.getElem?_eq_some_iff.mp whole).1
  · intro on
    dsimp only
    rw [arrivals, List.length_append, List.length_singleton, there, ← (inOrder_snoc _ number (order on)).2]
    exact later on

theorem step_carried (after : DataLink) (carried : Carried packets sender receiver side visits link)
    (healthy : Healthy link event)
    (part : readAt side (visits ++ [(link, event)]) <+: packets.flatMap (pppFrame special))
    (order : sender.call.sequenced = true → InOrder (arrivalsAt side.other (visits ++ [(link, event)])))
    (took : link.step sanity event = some after) : Carried packets sender receiver side
    (visits ++ [(link, event)]) after := by
  rw [readAt_snoc] at part
  rw [arrivalsAt_snoc] at order
  cases event with
  | turn side' reads =>
      obtain ⟨⟨e, datagrams⟩, turned, rfl⟩ := Option.map_eq_some_iff.mp took
      by_cases here : side' = side
      · subst here
        rw [readBy, if_pos rfl] at part
        exact own_turn_carried packets sender receiver side' special visits link escapes fit reads e datagrams carried
          healthy part turned
      · obtain rfl := EndPoint.other_of_ne side side' here
        obtain ⟨same, given, counted⟩ := turn_frame _ e reads datagrams turned
        exact carried_at_receiver packets sender receiver side visits link _ e _ carried
          (if_neg (EndPoint.other_ne side)) rfl
          (EndPoint.update_at_other _ side _) same given counted
  | arrive side' number space tail outcomes =>
      obtain ⟨datagram, sent, took⟩ := Option.bind_eq_some_iff.mp took
      obtain ⟨e, received, rfl⟩ := Option.map_eq_some_iff.mp took
      by_cases here : side' = side
      · subst here
        obtain ⟨same, reader, counted⟩ := receive_frame sanity _ e space datagram tail outcomes received
        exact carried_at_sender packets sender receiver side' visits link _ e carried rfl
          (if_neg (EndPoint.other_ne side').symm) same reader counted
      · obtain rfl := EndPoint.other_of_ne side side' here
        rw [EndPoint.other_other] at sent
        rw [readBy, List.append_nil] at part
        rw [arrivalBy, if_pos rfl] at order
        exact own_arrival_carried packets sender receiver side special sanity visits link escapes fit joins number space
          tail datagram outcomes e
          carried healthy part order sent received

end Direction

section Call

variable (packets : List (List UInt8)) (near far : PppEnd) (side : EndPoint) (special : UInt8 → Bool) (sanity : Bool)
  (fresh : ∀ side, ((DataLink.between near far).ends side).Fresh)

include fresh

theorem between_carried :
    Carried packets ((DataLink.between near far).ends side) ((DataLink.between near far).ends side.other) side []
      (DataLink.between near far) where
  reads := ⟨(0, []), [], rfl, rfl, (fresh side).reader,
    { same := ⟨rfl, rfl, rfl, rfl, rfl⟩
      next := (fresh side).sends
      count := rfl
      each := fun _ _ there => by cases there }⟩
  same := ⟨rfl, rfl, rfl, rfl, rfl⟩
  given := (fresh side.other).given
  bound := fun _ member => absurd member List.not_mem_nil
  expects := fun _ => .inl (fresh side.other).expects

variable (escapes : Escapes special) (joins : Joins ((DataLink.between near far).ends side)
    ((DataLink.between near far).ends side.other))
  (fit : ∀ packet ∈ packets, Fits packet)

include escapes joins fit

theorem run_carried (visits : List (DataLink × LinkEvent)) (link : DataLink)
    (run : Run (DataLink.step sanity) (DataLink.between near far) visits link)
    (healthy : Run.Meets Healthy visits) (part : readAt side visits <+: packets.flatMap (pppFrame special))
    (order : ((DataLink.between near far).ends side).call.sequenced = true → InOrder (arrivalsAt side.other visits)) :
    Carried packets ((DataLink.between near far).ends side)
      ((DataLink.between near far).ends side.other) side visits link := by
  induction run with
  | start => exact between_carried packets near far side fresh
  | snoc visits link after event _ took ih =>
      obtain ⟨earlier, last⟩ := (Run.meets_snoc Healthy visits link event).mp healthy
      have part' : readAt side visits <+: packets.flatMap (pppFrame special) := by
        rw [readAt_snoc] at part
        exact (List.prefix_append _ _).trans part
      have order' : ((DataLink.between near far).ends side).call.sequenced = true →
        InOrder (arrivalsAt side.other visits) := fun on => by
        have ordered := order on
        rw [arrivalsAt_snoc] at ordered
        cases arrived : arrivalBy side.other event with
        | none =>
            rw [arrived, Option.toList_none, List.append_nil] at ordered
            exact ordered
        | some number =>
            rw [arrived, Option.toList_some] at ordered
            exact (inOrder_snoc _ number ordered).1
      exact step_carried packets _ _ side special sanity visits link event escapes fit joins after
        (ih earlier part' order') last part order took

end Call

-- A packet that is read in two turns, from a call with sequence numbers.
def nearEnd : PppEnd :=
  ⟨7, 9, { Call.created 0 (Tunnel.created 1) 5 with cid := 6, fbit := true }, ⟨[], []⟩, [], true⟩

def farEnd : PppEnd :=
  ⟨9, 7, { Call.created 0 (Tunnel.created 1) 6 with cid := 5 }, ⟨[], []⟩, [], true⟩

def smallPacket : List UInt8 := [0x21, 0x45, 0x7e]

def linkEvents : List LinkEvent :=
  [.turn .near [.bytes ((asyncFrame smallPacket).take 4), .bytes (((asyncFrame smallPacket).drop 4).take 1)],
    .turn .near [.bytes ((asyncFrame smallPacket).drop 5), .again],
      .arrive .far 0 (List.replicate 10 0) [1, 2] [.took 2, .again, .took 20]]

end ZyAgf.Xl2tpd
