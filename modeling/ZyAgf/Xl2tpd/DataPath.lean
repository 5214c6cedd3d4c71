import ZyAgf.Library.EndPoints
import ZyAgf.Xl2tpd.DataSequencing
import ZyAgf.Xl2tpd.PayloadRoundTrip
import ZyAgf.Xl2tpd.PtyPackets

set_option autoImplicit false

namespace ZyAgf.Xl2tpd

-- One end of a call: the tunnel's numbers, what network_thread keeps of the call
-- from one turn to the next, and what has been written to pppd.
structure PppEnd where
  tid : Int
  ourtid : Nat
  call : Call
  reader : PtyReader
  given : List UInt8
  up : Bool

-- add_payload_hdr and udp_xmit for each packet of a turn.
def sendPackets (tid : Int) (c : Call) : List (List UInt8) → Call × List (List UInt8)
  | [] => (c, [])
  | packet :: later =>
      let sent := sendPackets tid c.sentPayload later
      (sent.1, (payloadHeader tid c.cid c packet ++ packet) :: sent.2)

-- The call's part of network_thread's last loop. What was not read in the turn is
-- no part of it; a packet that is tossed closes the call.
def PppEnd.turn (e : PppEnd) (reads : List PtyRead) : Option (PppEnd × List (List UInt8)) :=
  if e.up then
    let turn := drain maxRecvSize (pending e.reader reads) e.reader reads
    if turn.reads = [] then
      let sent := sendPackets e.tid e.call (packetsIn turn.log)
      some ({ e with call := sent.1, reader := turn.reader, up := !decide (turn.result < 0) }, sent.2)
    else none
  else none

-- A datagram in the buffer it is received into, dumped if it is for another call.
-- There is no end to the loop in write_packet while the pty takes nothing.
def PppEnd.receive (sanity : Bool) (e : PppEnd) (space datagram tail : List UInt8)
    (outcomes : List PtyWrite) : Option PppEnd :=
  let buf := receivedDatagram datagram tail
  if !e.up then none
  else if extract buf.mem ≠ (e.ourtid, e.call.ourcid) then some e
  else
    match takePayload sanity buf e.call with
    | (after, none) => some { e with call := after }
    | (after, some (h, len)) =>
        match expandMem (space ++ buf.mem) space.length buf.len e.call with
        | none => some e
        | some (start, filled) =>
            let offset := payloadHdrSize + h.oSize.toNat
            let written := writePacketBytes (bytesAt filled.mem (start + offset) (len - offset)) outcomes
            written.2.map fun result => { e with call := after, given := e.given ++ written.1, up := result != eio }

-- The two ends, and every datagram that each has sent. The network may hand one
-- on at any time, several times or never.
structure DataLink where
  ends : EndPoint → PppEnd
  sent : EndPoint → List (List UInt8)

inductive LinkEvent where
  | turn (side : EndPoint) (reads : List PtyRead)
  | arrive (side : EndPoint) (number : Nat) (space tail : List UInt8) (outcomes : List PtyWrite)

def DataLink.step (sanity : Bool) (link : DataLink) : LinkEvent → Option DataLink
  | .turn side reads =>
      ((link.ends side).turn reads).map fun (e, datagrams) =>
        { ends := Function.update link.ends side e
          sent := Function.update link.sent side (link.sent side ++ datagrams) }
  | .arrive side number space tail outcomes =>
      (link.sent side.other)[number]?.bind fun datagram =>
        ((link.ends side).receive sanity space datagram tail outcomes).map fun e =>
          { link with ends := Function.update link.ends side e }

def DataLink.between (near far : PppEnd) : DataLink :=
  { ends := EndPoint.pair near far
    sent := fun _ => [] }

-- What has been read of the pty at one end, and the numbers of the datagrams that
-- have come in at it.
def readBy (side : EndPoint) : LinkEvent → List UInt8
  | .turn side' reads => if side' = side then streamOf reads else []
  | .arrive .. => []

def arrivalBy (side : EndPoint) : LinkEvent → Option Nat
  | .turn .. => none
  | .arrive side' number .. => if side' = side then some number else none

def readAt (side : EndPoint) (visits : List (DataLink × LinkEvent)) : List UInt8 := Run.stream (readBy side) visits

def arrivalsAt (side : EndPoint) (visits : List (DataLink × LinkEvent)) : List Nat :=
    Run.observe (fun _ => arrivalBy side) visits

def Call.sequenced (c : Call) : Bool := c.fbit || c.ourfbit

-- What one end sends the other takes for the call.
structure Joins (sender receiver : PppEnd) : Prop where
  tunnel : (BitVec.ofInt 16 sender.tid).toNat = receiver.ourtid
  call : (BitVec.ofInt 16 sender.call.cid).toNat = receiver.call.ourcid

structure PppEnd.Fresh (e : PppEnd) : Prop where
  up : e.up = true
  reader : e.reader = ⟨[], []⟩
  given : e.given = []
  sends : e.call.dataSeqNum = 0
  expects : e.call.dataRecSeqNum = 0

-- A turn reads what the pty has until it has no more, and that does not end with
-- an escape. The pty takes what is written to it sooner or later, and the buffer
-- has the room in front that new_payload leaves.
def Healthy (_ : DataLink) : LinkEvent → Prop
  | .turn _ reads => (∀ read ∈ reads, read.Delivers) ∧ (streamOf reads).getLast? ≠ some pppEscape
  | .arrive _ _ space _ outcomes => payloadBuf ≤ space.length ∧ .failed ∉ outcomes

instance (link : DataLink) (event : LinkEvent) : Decidable (Healthy link event) :=
  match event with
  | .turn _ reads =>
      inferInstanceAs (Decidable ((∀ read ∈ reads, read.Delivers) ∧ (streamOf reads).getLast? ≠ some pppEscape))
  | .arrive _ _ space _ outcomes => inferInstanceAs (Decidable (payloadBuf ≤ space.length ∧ .failed ∉ outcomes))

-- A packet that fits the buffers of both programs.
structure Fits (packet : List UInt8) : Prop where
  some : packet ≠ []
  room : packet.length + 2 ≤ maxRecvSize
  passes : framePasses packet

-- What neither a turn nor a datagram changes of an end.
structure Same (e e' : PppEnd) : Prop where
  tid : e'.tid = e.tid
  ourtid : e'.ourtid = e.ourtid
  cid : e'.call.cid = e.call.cid
  ourcid : e'.call.ourcid = e.call.ourcid
  sequenced : e'.call.sequenced = e.call.sequenced

theorem same_trans (e e' e'' : PppEnd) (first : Same e e') (second : Same e' e'') : Same e e'' where
  tid := second.tid.trans first.tid
  ourtid := second.ourtid.trans first.ourtid
  cid := second.cid.trans first.cid
  ourcid := second.ourcid.trans first.ourcid
  sequenced := second.sequenced.trans first.sequenced

def Bears (e : PppEnd) (number : Nat) (packet datagram : List UInt8) : Prop :=
  ∃ c : Call, c.sequenced = e.call.sequenced ∧ c.dataSeqNum = BitVec.ofNat 16 number ∧
    datagram = payloadHeader e.tid e.call.cid c packet ++ packet

theorem ofNat_succ (n : Nat) : BitVec.ofNat 16 (n + 1) = BitVec.ofNat 16 n + 1 := BitVec.ofNat_add n 1

theorem sendPackets_call (tid : Int) (c : Call) (packets : List (List UInt8)) :
    (sendPackets tid c packets).1 = { c with dataSeqNum := (sendPackets tid c packets).1.dataSeqNum } := by
  induction packets generalizing c with
  | nil => rfl
  | cons packet later ih =>
      rw [sendPackets]
      dsimp only
      rw [ih c.sentPayload]
      rfl

theorem sendPackets_numbers (tid : Int) (c : Call) (packets : List (List UInt8)) (start : Nat)
    (numbered : c.dataSeqNum = BitVec.ofNat 16 start) :
    (sendPackets tid c packets).1.dataSeqNum = BitVec.ofNat 16 (start + packets.length) := by
  induction packets generalizing c start with
  | nil => exact numbered
  | cons packet later ih =>
      have onward := ih c.sentPayload (start + 1) (by rw [ofNat_succ, ← numbered]; rfl)
      rw [sendPackets, List.length_cons, Nat.add_comm later.length 1, ← Nat.add_assoc]
      exact onward

theorem sendPackets_length (tid : Int) (c : Call) (packets : List (List UInt8)) :
    (sendPackets tid c packets).2.length = packets.length := by
  induction packets generalizing c with
  | nil => rfl
  | cons packet later ih => rw [sendPackets, List.length_cons, List.length_cons, ih]

theorem sendPackets_bears (e : PppEnd) (c : Call) (packets : List (List UInt8)) (start : Nat)
    (named : c.cid = e.call.cid)
    (alike : c.sequenced = e.call.sequenced) (numbered : c.dataSeqNum = BitVec.ofNat 16 start) (number : Nat)
    (datagram : List UInt8)
    (there : (sendPackets e.tid c packets).2[number]? = some datagram) :
    ∃ packet, packets[number]? = some packet ∧ Bears e (start + number) packet datagram := by
  induction packets generalizing c start number with
  | nil => cases there
  | cons packet later ih =>
      rw [sendPackets] at there
      cases number with
      | zero =>
          obtain rfl := Option.some.inj there
          exact ⟨packet, rfl, c, alike, numbered, by rw [named]⟩
      | succ number =>
          obtain ⟨packet', inside, bears⟩ :=
            ih c.sentPayload (start + 1) named alike (by rw [ofNat_succ, ← numbered]; rfl) number there
          rw [Nat.add_assoc, Nat.add_comm 1] at bears
          exact ⟨packet', inside, bears⟩

-- An end as it has sent some packets, from the first.
structure HasSent (start e : PppEnd) (packets datagrams : List (List UInt8)) : Prop where
  same : Same start e
  next : e.call.dataSeqNum = BitVec.ofNat 16 packets.length
  count : datagrams.length = packets.length
  each : ∀ number datagram, datagrams[number]? = some datagram → ∃ packet, packets[number]? = some packet ∧
    Bears start number packet datagram

theorem turn_frame (e e' : PppEnd) (reads : List PtyRead) (datagrams : List (List UInt8))
    (took : e.turn reads = some (e', datagrams)) :
    Same e e' ∧ e'.given = e.given ∧ e'.call.dataRecSeqNum = e.call.dataRecSeqNum := by
  unfold PppEnd.turn at took
  split at took
  · dsimp only at took
    split at took
    · have call := sendPackets_call e.tid e.call
        (packetsIn (drain maxRecvSize (pending e.reader reads) e.reader reads).log)
      cases took
      exact ⟨⟨rfl, rfl, (congrArg Call.cid call).trans rfl, (congrArg Call.ourcid call).trans rfl,
        (congrArg Call.sequenced call).trans rfl⟩,
        rfl, (congrArg Call.dataRecSeqNum call).trans rfl⟩
    · cases took
  · cases took

theorem sends_more (start e e' : PppEnd) (packets datagrams more : List (List UInt8))
    (sends : HasSent start e packets datagrams)
    (same : Same e e') (next : e'.call.dataSeqNum = (sendPackets e.tid e.call more).1.dataSeqNum) :
    HasSent start e' (packets ++ more) (datagrams ++ (sendPackets e.tid e.call more).2) where
  same := same_trans start e e' sends.same same
  next := by
    rw [next, List.length_append]
    exact sendPackets_numbers e.tid e.call more packets.length sends.next
  count := by rw [List.length_append, List.length_append, sends.count, sendPackets_length]
  each number datagram there := by
    by_cases old : number < datagrams.length
    · rw [List.getElem?_append_left old] at there
      obtain ⟨packet, inside, bears⟩ := sends.each number datagram there
      rw [sends.count] at old
      exact ⟨packet, by rw [List.getElem?_append_left old]; exact inside, bears⟩
    · have least : packets.length ≤ number := sends.count ▸ Nat.not_lt.mp old
      rw [List.getElem?_append_right (Nat.not_lt.mp old), sends.count, sends.same.tid] at there
      obtain ⟨packet, inside, bears⟩ := sendPackets_bears start e.call more packets.length sends.same.cid
        sends.same.sequenced
        sends.next (number - packets.length) datagram there
      rw [Nat.add_sub_of_le least] at bears
      exact ⟨packet, by rw [List.getElem?_append_right least]; exact inside, bears⟩

theorem turn_sends (start e e' : PppEnd) (packets datagrams datagrams' : List (List UInt8)) (reads : List PtyRead)
    (buf : List UInt8) (next : UInt8 × List UInt8) (log : List Decoded) (sends : HasSent start e packets datagrams)
    (rests : e.reader = ⟨[], buf⟩) (delivers : ∀ read ∈ reads, read.Delivers)
    (fed : feed (hdlc maxRecvSize) (0, buf) (streamOf reads) = (some next, log))
    (clean : shortInside maxRecvSize (0, buf) (streamOf reads) = false) (took : e.turn reads = some (e', datagrams')) :
    e'.reader = ⟨[], next.2⟩ ∧ HasSent start e' (packets ++ packetsIn log) (datagrams ++ datagrams') := by
  have same := (turn_frame e e' reads datagrams' took).1
  unfold PppEnd.turn at took
  split at took
  · rw [drain_flow maxRecvSize e.reader reads delivers, rests] at took
    dsimp only at took
    split at took
    · next all =>
        have ran := flow_takes maxRecvSize (0, buf) next [] reads log delivers fed clean all
        rw [ran] at took
        cases took
        exact ⟨rfl, sends_more start e _ packets datagrams (packetsIn log) sends same rfl⟩
    · cases took
  · cases took

-- The end expects the packet of that number, or has it for the last one.
def Expects (c : Call) (number : Nat) : Prop :=
  c.dataRecSeqNum = BitVec.ofNat 16 number ∨ c.dataRecSeqNum + 1 = BitVec.ofNat 16 number

theorem expects_open (c : Call) (number : Nat) (expects : Expects c number) : ¬ PassedOver c.dataRecSeqNum
    (BitVec.ofNat 16 number) := by
  unfold PassedOver payloadFudge
  rcases expects with here | behind
  · rw [here]
    omega
  · rw [← behind, toNat_succ]
    have bound := c.dataRecSeqNum.isLt
    omega

theorem expandPayload_expects (buf : RecvBuffer) (c : Call) (number : Nat)
    (numbered : (expandHdr buf c).Ns = BitVec.ofNat 16 number)
    (expects : Expects c number) : ∃ after,
    expandPayload buf c = some (after, expandHdr buf c, buf.len + missingBytes (expandHdr buf c).ver) ∧
      Expects after (number + 1) := by
  by_cases same : (expandHdr buf c).Ns = c.dataSeqNum
  · obtain ⟨after, ran, counted⟩ := expandPayload_expected buf c same
    refine ⟨after, ran, ?_⟩
    unfold Expects
    rw [counted, ofNat_succ]
    rcases expects with here | behind
    · exact .inl (by rw [here])
    · exact .inr (by rw [behind])
  · obtain ⟨after, ran, counted⟩ := expandPayload_fudged buf c same (numbered ▸ expects_open c number expects)
    refine ⟨after, ran, .inr ?_⟩
    rw [counted, numbered, ofNat_succ]

theorem expandPayload_call (buf : RecvBuffer) (c after : Call) (h : PayloadHdr) (len : Nat)
    (ran : expandPayload buf c = some (after, h, len)) : ∃ number last,
    after = { c with dataRecSeqNum := number, pLr := last } := by
  unfold expandPayload at ran
  dsimp only at ran
  split at ran
  · split at ran
    · cases ran
    split at ran
    · cases ran
      exact ⟨_, _, rfl⟩
    · cases ran
  · cases ran
    exact ⟨_, _, rfl⟩

theorem takePayload_call (sanity : Bool) (buf : RecvBuffer) (c : Call) :
    ∃ number last, (takePayload sanity buf c).1 = { c with dataRecSeqNum := number, pLr := last } := by
  unfold takePayload
  split
  · exact ⟨c.dataRecSeqNum, c.pLr, rfl⟩
  · rcases ran : expandPayload buf c with _ | ⟨after, h, len⟩
    · exact ⟨c.dataRecSeqNum, c.pLr, rfl⟩
    · obtain ⟨number, last, rfl⟩ := expandPayload_call buf c after h len ran
      dsimp only
      split
      · exact ⟨number, last, rfl⟩
      split
      · exact ⟨_, last, rfl⟩
      · exact ⟨number, last, rfl⟩

theorem receive_frame (sanity : Bool) (e e' : PppEnd) (space datagram tail : List UInt8) (outcomes : List PtyWrite)
    (took : e.receive sanity space datagram tail outcomes = some e') :
    Same e e' ∧ e'.reader = e.reader ∧ e'.call.dataSeqNum = e.call.dataSeqNum := by
  obtain ⟨number, last, call⟩ := takePayload_call sanity (receivedDatagram datagram tail) e.call
  have kept (given : List UInt8) (up : Bool) : Same e
    { e with call := (takePayload sanity (receivedDatagram datagram tail) e.call).1, given := given, up := up } := by
    rw [call]
    exact ⟨rfl, rfl, rfl, rfl, rfl⟩
  have numbers : (takePayload sanity (receivedDatagram datagram tail) e.call).1.dataSeqNum = e.call.dataSeqNum := by
    rw [call]
  unfold PppEnd.receive at took
  dsimp only at took
  split at took
  · cases took
  split at took
  · cases took
    exact ⟨⟨rfl, rfl, rfl, rfl, rfl⟩, rfl, rfl⟩
  rcases taken : takePayload sanity (receivedDatagram datagram tail) e.call with ⟨after, _ | ⟨h, len⟩⟩
  · rw [taken] at took kept numbers
    cases took
    exact ⟨kept e.given e.up, rfl, numbers⟩
  · rw [taken] at took kept numbers
    dsimp only at took
    split at took
    · cases took
      exact ⟨⟨rfl, rfl, rfl, rfl, rfl⟩, rfl, rfl⟩
    · obtain ⟨result, _, rfl⟩ := Option.map_eq_some_iff.mp took
      exact ⟨kept _ _, rfl, numbers⟩

theorem writeOut_works (wire : List UInt8) (outcomes : List PtyWrite) (result : Int) (works : .failed ∉ outcomes)
    (done : (writeOut wire outcomes).2 = some result) : result = 0 := by
  induction outcomes generalizing wire with
  | nil =>
      cases wire with
      | nil =>
          cases done
          rfl
      | cons w ws => cases done
  | cons outcome later ih =>
      have works' : .failed ∉ later := fun member => works (List.mem_cons_of_mem _ member)
      cases wire with
      | nil =>
          cases done
          rfl
      | cons w ws =>
          cases outcome with
          | took count => exact ih _ works' done
          | again => exact ih (w :: ws) works' done
          | failed => exact absurd List.mem_cons_self works

theorem expandPayload_carried (tid cid : Int) (sender : Call) (packet tail : List UInt8) (c : Call) (number : Nat)
    (numbered : sender.dataSeqNum = BitVec.ofNat 16 number) (expects : sender.sequenced = true → Expects c number) :
    ∃ after, expandPayload ⟨wordsOf (frameHdr tid cid sender packet).sent ++ (packet ++ tail),
          2 * (frameHdr tid cid sender packet).sent.length + packet.length⟩ c =
        some (after, (frameHdr tid cid sender packet).filled (payloadHdrSize + packet.length) c,
          payloadHdrSize + packet.length) ∧
      (sender.sequenced = true → Expects after (number + 1)) := by
  obtain ⟨l, f, s, _, _⟩ := frameHdr_flags tid cid sender packet
  have count := sent_length (frameHdr tid cid sender packet)
  have missing := missingBytes_words (frameHdr tid cid sender packet).ver
  have size : 2 * (frameHdr tid cid sender packet).sent.length + packet.length + missingBytes
    (frameHdr tid cid sender packet).ver =
      payloadHdrSize + packet.length := by
    unfold payloadHdrSize
    omega
  have header := expandHdr_sent (frameHdr tid cid sender packet) (packet ++ tail)
    (2 * (frameHdr tid cid sender packet).sent.length + packet.length) c
  rw [size] at header
  by_cases sequenced : sender.sequenced = true
  · have ns : (expandHdr ⟨wordsOf (frameHdr tid cid sender packet).sent ++ (packet ++ tail),
        2 * (frameHdr tid cid sender packet).sent.length + packet.length⟩ c).Ns = BitVec.ofNat 16 number := by
      rw [header, PayloadHdr.filled, f]
      unfold Call.sequenced at sequenced
      rw [sequenced, if_pos rfl, ← numbered]
      rfl
    obtain ⟨after, ran, later⟩ := expandPayload_expects _ c number ns (expects sequenced)
    rw [header] at ran
    refine ⟨after, ?_, fun _ => later⟩
    rw [ran]
    exact congrArg (fun len => some (after, _, len)) size
  · have plain : (expandHdr ⟨wordsOf (frameHdr tid cid sender packet).sent ++ (packet ++ tail),
        2 * (frameHdr tid cid sender packet).sent.length + packet.length⟩ c).Ns = c.dataRecSeqNum := by
      rw [header, PayloadHdr.filled, f]
      unfold Call.sequenced at sequenced
      rw [Bool.eq_false_iff.mpr sequenced]
      rfl
    obtain ⟨⟨after, h, len⟩, ran⟩ := Option.isSome_iff_exists.mp (expandPayload_plain _ c plain)
    obtain ⟨same, length⟩ := expandPayload_frame _ c after h len ran
    rw [header] at same
    subst same
    have whole : len = payloadHdrSize + packet.length := length.trans size
    rw [whole] at ran
    exact ⟨after, ran, fun on => absurd on sequenced⟩

theorem frameHdr_most (tid cid : Int) (sender : Call) (packet : List UInt8) : 2 *
    (frameHdr tid cid sender packet).sent.length ≤ 12 := by
  have length := frameHdr_length tid cid sender packet
  unfold minPayloadHdrLen words at length
  split at length <;> split at length <;> omega

theorem receive_bears (sanity : Bool) (sender e e' : PppEnd) (number : Nat) (packet datagram space tail : List UInt8)
    (outcomes : List PtyWrite) (joins : Joins sender e) (fits : Fits packet)
    (bears : Bears sender number packet datagram)
    (room : payloadBuf ≤ space.length) (works : .failed ∉ outcomes)
    (expects : sender.call.sequenced = true → Expects e.call number)
    (took : e.receive sanity space datagram tail outcomes = some e') :
    e'.given = e.given ++ asyncFrame packet ∧ (sender.call.sequenced = true → Expects e'.call (number + 1)) := by
  obtain ⟨c, alike, numbered, rfl⟩ := bears
  have received := receivedDatagram_sent sender.tid sender.call.cid c packet tail
  rw [← payloadHeader_sent] at received
  have most := frameHdr_most sender.tid sender.call.cid c packet
  have short := fits.room
  unfold maxRecvSize at short
  have valid := frameHdr_checks sender.tid sender.call.cid c packet sanity tail (by omega)
  obtain ⟨after, ran, later⟩ := expandPayload_carried sender.tid sender.call.cid c packet tail e.call number numbered
    (fun on => expects (alike ▸ on))
  have some' := List.length_pos_of_ne_nil fits.some
  have taken : takePayload sanity (receivedDatagram (payloadHeader sender.tid sender.call.cid c packet ++ packet) tail)
    e.call =
      (after, some ((frameHdr sender.tid sender.call.cid c packet).filled (payloadHdrSize + packet.length) e.call,
        payloadHdrSize + packet.length)) := by
    rw [received]
    rcases takePayload_accepted sanity _ e.call after _ _ valid ran with ⟨_, taken⟩ | ⟨none', _⟩ | ⟨less, _⟩
    · exact taken
    · omega
    · omega
  have count := sent_length (frameHdr sender.tid sender.call.cid c packet)
  have missing := missingBytes_words (frameHdr sender.tid sender.call.cid c packet).ver
  have length := frameHdr_length sender.tid sender.call.cid c packet
  unfold minPayloadHdrLen at length
  unfold payloadBuf at room
  obtain ⟨filled, expanded, mem, _⟩ := expandMem_sent space (packet ++ tail)
    (frameHdr sender.tid sender.call.cid c packet) (by omega)
    (2 * (frameHdr sender.tid sender.call.cid c packet).sent.length + packet.length) e.call
  have offset : ((frameHdr sender.tid sender.call.cid c packet).filled (payloadHdrSize + packet.length) e.call).oSize =
    0 := by
    rw [PayloadHdr.filled, (frameHdr_flags sender.tid sender.call.cid c packet).2.2.1]
    rfl
  have start : (space.take (space.length - missingBytes (frameHdr sender.tid sender.call.cid c packet).ver)).length =
      space.length - missingBytes (frameHdr sender.tid sender.call.cid c packet).ver := by
    rw [List.length_take]
    omega
  have width (h : PayloadHdr) : (wordsOf h.words).length = payloadHdrSize := by
    rw [wordsOf_length]
    rfl
  have bytes : bytesAt filled.mem (space.length - missingBytes
    (frameHdr sender.tid sender.call.cid c packet).ver + payloadHdrSize)
      packet.length = packet := by
    rw [mem, ← width]
    exact bytesAt_second _ _ packet tail _ start
  have ids : extract (receivedDatagram (payloadHeader sender.tid sender.call.cid c packet ++ packet) tail).mem =
      (e.ourtid, e.call.ourcid) := by
    rw [received, ← joins.tunnel, ← joins.call]
    exact frameHdr_extract sender.tid sender.call.cid c packet (packet ++ tail)
  unfold PppEnd.receive at took
  dsimp only at took
  split at took
  · cases took
  rw [if_neg (not_not_intro ids), taken] at took
  dsimp only at took
  rw [received] at took
  dsimp only at took
  rw [expanded] at took
  dsimp only at took
  rw [offset] at took
  obtain ⟨result, done, rfl⟩ := Option.map_eq_some_iff.mp took
  have behind : payloadHdrSize + packet.length - (payloadHdrSize + (0 : U16).toNat) = packet.length :=
    Nat.add_sub_cancel_left ..
  rw [behind] at done ⊢
  dsimp only at done ⊢
  have bytes' : bytesAt filled.mem (space.length - missingBytes (frameHdr sender.tid sender.call.cid c packet).ver +
      (payloadHdrSize + (0 : U16).toNat)) packet.length = packet := bytes
  rw [bytes', writePacketBytes_passes packet outcomes fits.passes] at done ⊢
  obtain rfl := writeOut_works _ outcomes result works done
  exact ⟨by rw [writeOut_whole _ outcomes done], fun on => later (alike.trans on)⟩

end ZyAgf.Xl2tpd
