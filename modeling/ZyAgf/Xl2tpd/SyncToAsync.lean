import ZyAgf.Xl2tpd.PtyFraming

set_option autoImplicit false

namespace ZyAgf.Xl2tpd

def addFcs (bytes : List UInt8) : List UInt8 :=
  let fcs := fcs16 pppInitFcs bytes ^^^ 0xffff
  bytes ++ [(fcs &&& 0xff).toUInt8, (fcs >>> 8 &&& 0xff).toUInt8]

-- What write_packet escapes on the way to pppd.
def escapesPpp (e : UInt8) : Bool := e < 0x20 || e == pppEscape || e == pppFlag

-- The loop over the octets, with what stands in wbuf so far. Before each octet
-- there has to be room for four more.
def encodePpp (wbuf : List UInt8) : List UInt8 → Option (List UInt8)
  | [] => some (wbuf ++ [pppFlag])
  | e :: rest =>
      if wbuf.length ≥ maxRecvSize - 4 then none
      else if escapesPpp e then encodePpp (wbuf ++ [pppEscape, e ^^^ 0x20]) rest
      else encodePpp (wbuf ++ [e]) rest

inductive PtyWrite where
  | took (count : Nat)
  | again
  | failed
deriving DecidableEq, Repr

-- The loop that writes wbuf out: what the pty has taken, and the result once it
-- is over.
def writeOut : List UInt8 → List PtyWrite → List UInt8 × Option Int
  | [], _ => ([], some 0)
  | _ :: _, [] => ([], none)
  | w :: ws, .took count :: later =>
      ((w :: ws).take count ++ (writeOut ((w :: ws).drop count) later).1, (writeOut ((w :: ws).drop count) later).2)
  | w :: ws, .again :: later => writeOut (w :: ws) later
  | _ :: _, .failed :: _ => ([], some eio)

-- write_packet for a call that converts: what the pty takes of the frame, and the
-- result.
def writePacketBytes (payload : List UInt8) (outcomes : List PtyWrite) : List UInt8 × Option Int :=
  match encodePpp [pppFlag] (addFcs payload) with
  | none => ([], some einval)
  | some wbuf => writeOut wbuf outcomes

-- Calls of read_packet that each find the buffer empty, with what they return and
-- what is then in the buffer.
def readPackets (maxlen : Nat) : Nat → List UInt8 → List PtyRead → List (Int × List UInt8) × List UInt8 × List PtyRead
  | 0, rbuf, reads => ([], rbuf, reads)
  | count + 1, rbuf, reads =>
      let packet := readPacket maxlen ⟨rbuf, []⟩ reads
      let later := readPackets maxlen count packet.reader.rbuf packet.reads
      ((packet.result, packet.reader.buf) :: later.1, later.2)

def asyncFrame (payload : List UInt8) : List UInt8 :=
    [pppFlag] ++ (addFcs payload).flatMap (stuff escapesPpp) ++ [pppFlag]

-- The frame leaves the room in wbuf that is asked for before its last octet.
def framePasses (payload : List UInt8) : Prop :=
  1 + ((addFcs payload).dropLast.flatMap (stuff escapesPpp)).length < maxRecvSize - 4

theorem encodePpp_stuffs (data wbuf wire : List UInt8) (encoded : encodePpp wbuf data = some wire) :
    wire = wbuf ++ data.flatMap (stuff escapesPpp) ++ [pppFlag] := by
  induction data generalizing wbuf with
  | nil =>
      cases encoded
      simp
  | cons e rest ih =>
      rw [encodePpp] at encoded
      split at encoded
      · cases encoded
      split at encoded
      · next marked =>
          rw [ih _ encoded, List.flatMap_cons, stuff, if_pos marked]
          simp [pppEscape, escapeOctet, turnOctet]
      · next plain =>
          rw [ih _ encoded, List.flatMap_cons, stuff, if_neg plain]
          simp

theorem writeOut_whole (wire : List UInt8) (outcomes : List PtyWrite) (done : (writeOut wire outcomes).2 = some 0) :
    (writeOut wire outcomes).1 = wire := by
  induction outcomes generalizing wire with
  | nil =>
      cases wire with
      | nil => rfl
      | cons w ws => cases done
  | cons outcome later ih =>
      cases wire with
      | nil => rfl
      | cons w ws =>
          cases outcome with
          | took count =>
              rw [writeOut] at done ⊢
              rw [ih _ done, List.take_append_drop]
          | again => exact ih (w :: ws) done
          | failed => cases done

theorem addFcs_length (payload : List UInt8) : (addFcs payload).length = payload.length + 2 := by
  simp [addFcs]

theorem encodePpp_fits (data wbuf : List UInt8) (octets : data ≠ []) :
    (encodePpp wbuf data).isSome ↔ wbuf.length + (data.dropLast.flatMap (stuff escapesPpp)).length < maxRecvSize -
    4 := by
  induction data generalizing wbuf with
  | nil => exact absurd rfl octets
  | cons e rest ih =>
      rw [encodePpp]
      by_cases full : wbuf.length ≥ maxRecvSize - 4
      · rw [if_pos full]
        simp only [Option.isSome_none, Bool.false_eq_true, false_iff]
        omega
      rw [if_neg full]
      cases rest with
      | nil =>
          simp only [encodePpp, List.dropLast_singleton, List.flatMap_nil, List.length_nil]
          split <;> simp <;> omega
      | cons next rest =>
          rw [List.dropLast_cons_of_ne_nil (List.cons_ne_nil next rest), List.flatMap_cons, List.length_append, stuff]
          split
          · rw [ih _ (List.cons_ne_nil next rest)]
            simp
            omega
          · rw [ih _ (List.cons_ne_nil next rest)]
            simp
            omega

theorem framePasses_iff (payload : List UInt8) : (encodePpp [pppFlag] (addFcs payload)).isSome ↔ framePasses payload :=
  encodePpp_fits (addFcs payload) [pppFlag] (by simp [addFcs])

theorem writePacketBytes_passes (payload : List UInt8) (outcomes : List PtyWrite) (passes : framePasses payload) :
    writePacketBytes payload outcomes = writeOut (asyncFrame payload) outcomes := by
  obtain ⟨wbuf, encoded⟩ := Option.isSome_iff_exists.mp ((framePasses_iff payload).mpr passes)
  rw [writePacketBytes, encoded, encodePpp_stuffs (addFcs payload) [pppFlag] wbuf encoded]
  rfl

theorem writePacketBytes_refused (payload : List UInt8) (outcomes : List PtyWrite) (refused : ¬ framePasses payload) :
    writePacketBytes payload outcomes = ([], some einval) := by
  rw [writePacketBytes, Option.not_isSome_iff_eq_none.mp (fun some => refused ((framePasses_iff payload).mp some))]

section Reading

variable (maxlen : Nat)

theorem takeOctet_plain (escape : UInt8) (buf : List UInt8) (ch : UInt8) (not_flag : ch ≠ pppFlag)
    (not_escape : ch ≠ pppEscape)
    (room : buf.length < maxlen) : takeOctet maxlen escape buf ch =
    (.go 0 (buf ++ [ch ^^^ escape]), .octet (ch ^^^ escape)) := by
  rw [takeOctet, if_neg not_flag, if_neg not_escape, if_pos room]

theorem takeOctet_escape (escape : UInt8) (buf : List UInt8) : takeOctet maxlen escape buf pppEscape =
    (.go pppTrans buf, .escape) := by
  rw [takeOctet, if_neg (by decide), if_pos rfl]

theorem read_stuffed_octet (c : UInt8) (buf tail : List UInt8) (reads : List PtyRead) (room : buf.length < maxlen) :
    ∃ log, readPacketFrom maxlen 0 0 ⟨stuff escapesPpp c ++ tail, buf⟩ reads =
      (readPacketFrom maxlen 0 0 ⟨tail, buf ++ [c]⟩ reads).after log := by
  by_cases marked : escapesPpp c = true
  · have turned : c ^^^ turnOctet ^^^ pppTrans = c := turn_turn c
    have not_flag : c ^^^ turnOctet ≠ pppFlag := turned_ne escapesPpp pppFlag c (by decide) marked
    have not_escape : c ^^^ turnOctet ≠ pppEscape := turned_ne escapesPpp pppEscape c (by decide) marked
    have second := takeOctet_plain maxlen pppTrans buf (c ^^^ turnOctet) not_flag not_escape room
    rw [turned] at second
    refine ⟨[.escape] ++ [.octet c], ?_⟩
    rw [stuff, if_pos marked]
    show readPacketFrom maxlen 0 0 ⟨pppEscape :: (c ^^^ turnOctet) :: tail, buf⟩ reads = _
    rw [readPacketFrom_go maxlen 0 pppTrans 0 buf buf pppEscape _ .escape (takeOctet_escape maxlen 0 buf) reads,
      readPacketFrom_go maxlen pppTrans 0 0 buf (buf ++ [c]) _ tail (.octet c) second reads, after_after]
  · have plain : (c < 0x20) = false ∧ c ≠ pppEscape ∧ c ≠ pppFlag := by
      simpa [escapesPpp, and_assoc] using marked
    have first := takeOctet_plain maxlen 0 buf c plain.2.2 plain.2.1 room
    rw [UInt8.xor_zero] at first
    refine ⟨[.octet c], ?_⟩
    rw [stuff, if_neg marked]
    exact readPacketFrom_go maxlen 0 0 0 buf (buf ++ [c]) c tail (.octet c) first reads

theorem read_stuffed (data buf tail : List UInt8) (reads : List PtyRead) (room : buf.length + data.length ≤ maxlen) :
    ∃ log, readPacketFrom maxlen 0 0 ⟨data.flatMap (stuff escapesPpp) ++ tail, buf⟩ reads =
      (readPacketFrom maxlen 0 0 ⟨tail, buf ++ data⟩ reads).after log := by
  induction data generalizing buf with
  | nil => exact ⟨[], by simp [after_nil]⟩
  | cons c data ih =>
      simp only [List.length_cons] at room
      obtain ⟨first, one⟩ := read_stuffed_octet maxlen c buf (data.flatMap (stuff escapesPpp) ++ tail) reads (by omega)
      obtain ⟨log, onward⟩ := ih (buf ++ [c]) (by simp; omega)
      refine ⟨first ++ log, ?_⟩
      rw [List.flatMap_cons, List.append_assoc, one, onward, after_after, List.append_assoc]
      rfl

theorem readPacket_frame (payload rest : List UInt8) (reads : List PtyRead) (room : payload.length + 2 ≤ maxlen) :
    ∃ log, readPacket maxlen ⟨asyncFrame payload ++ rest, []⟩ reads =
      ⟨log, payload.length, ⟨rest, payload⟩, reads⟩ := by
  have opening : takeOctet maxlen 0 [] pppFlag = (.go 0 [], .flag) := rfl
  have length := addFcs_length payload
  have whole : (addFcs payload).take ((addFcs payload).length - 2) = payload := by
    rw [length]
    simp [addFcs]
  have closing : ∃ d, takeOctet maxlen 0 (addFcs payload) pppFlag = (.back payload.length payload, d) := by
    refine ⟨if payload = [] then .flag else .frame payload, ?_⟩
    rw [takeOctet, if_pos rfl, if_neg (by simp), if_pos (by omega)]
    simp only [whole]
  obtain ⟨d, closed⟩ := closing
  obtain ⟨log, stuffed⟩ := read_stuffed maxlen (addFcs payload) [] (pppFlag :: rest) reads (by simp [length]; omega)
  refine ⟨[.flag] ++ (log ++ [d]), ?_⟩
  have shape : asyncFrame payload ++ rest = pppFlag ::
    ((addFcs payload).flatMap (stuff escapesPpp) ++ pppFlag :: rest) := by
    simp [asyncFrame]
  rw [shape, readPacket, readPacketFrom_go maxlen 0 0 0 [] [] pppFlag _ .flag opening reads, stuffed, List.nil_append,
    readPacketFrom_back maxlen 0 0 (addFcs payload) payload pppFlag rest payload.length d closed reads, after_after]
  simp [PacketRead.after]

end Reading

-- What write_packet has written for payloads that pass, frame behind frame, is
-- what as many calls of read_packet find.
theorem read_written (maxlen : Nat) (sent : List (List UInt8 × List PtyWrite))
    (passes : ∀ packet ∈ sent, framePasses packet.1 ∧ packet.1.length + 2 ≤ maxlen)
    (takes : ∀ packet ∈ sent, (writePacketBytes packet.1 packet.2).2 = some 0) (rest : List UInt8)
    (reads : List PtyRead) :
    readPackets maxlen sent.length (sent.flatMap (fun packet => (writePacketBytes packet.1 packet.2).1) ++ rest) reads =
      (sent.map fun packet => ((packet.1.length : Int), packet.1), rest, reads) := by
  induction sent with
  | nil => rfl
  | cons packet later ih =>
      have onward := ih (fun other member => passes other (List.mem_cons_of_mem _ member))
        (fun other member => takes other (List.mem_cons_of_mem _ member))
      have written := writePacketBytes_passes packet.1 packet.2 (passes packet List.mem_cons_self).1
      have took := takes packet List.mem_cons_self
      rw [written] at took
      have wire : (writePacketBytes packet.1 packet.2).1 = asyncFrame packet.1 := by
        rw [written]
        exact writeOut_whole (asyncFrame packet.1) packet.2 took
      obtain ⟨log, read⟩ := readPacket_frame maxlen packet.1
        (later.flatMap (fun packet => (writePacketBytes packet.1 packet.2).1) ++ rest) reads
          (passes packet List.mem_cons_self).2
      rw [List.flatMap_cons, List.append_assoc, List.length_cons, readPackets, wire, read]
      dsimp only
      rw [onward]
      rfl

theorem read_written_escapes :
    (writePacketBytes [0x7e, 0x41, 0x03, 0x42] [.took 2, .again, .took 20]).1 =
        [0x7e, 0x7d, 0x5e, 0x41, 0x7d, 0x23, 0x42, 0x7d, 0x2d, 0x7d, 0x3f, 0x7e] ∧
      readPackets 4096 1 ((writePacketBytes [0x7e, 0x41, 0x03, 0x42] [.took 2, .again, .took 20]).1 ++ [0x99]) [] =
        ([(4, [0x7e, 0x41, 0x03, 0x42])], [0x99], []) := by
  refine ⟨by decide +kernel, ?_⟩
  have round := read_written 4096 [([0x7e, 0x41, 0x03, 0x42], [.took 2, .again, .took 20])]
    (by simp only [List.mem_singleton, forall_eq]; exact ⟨by unfold framePasses; decide +kernel, by decide⟩)
    (by simp only [List.mem_singleton, forall_eq]; decide +kernel) [0x99] []
  exact round

theorem stuffed_length (data : List UInt8) :
    data.length ≤ (data.flatMap (stuff escapesPpp)).length ∧
      (data.flatMap (stuff escapesPpp)).length ≤ 2 * data.length := by
  induction data with
  | nil => exact ⟨Nat.le_refl 0, Nat.le_refl 0⟩
  | cons c data ih =>
      have one : (stuff escapesPpp c).length = 1 ∨ (stuff escapesPpp c).length = 2 := by
        rw [stuff]
        split
        · exact .inr rfl
        · exact .inl rfl
      rw [List.flatMap_cons, List.length_append, List.length_cons]
      omega

theorem stuffed_replicate (count : Nat) (c : UInt8) :
    ((List.replicate count c).flatMap (stuff escapesPpp)).length = count * (stuff escapesPpp c).length := by
  rw [List.flatMap_replicate]
  simp

def crowdedPayload : List UInt8 := List.replicate 4000 0x41 ++ List.replicate 45 0x7e

theorem crowded_stuffed : (crowdedPayload.flatMap (stuff escapesPpp)).length = 4090 := by
  rw [crowdedPayload, List.flatMap_append, List.length_append, stuffed_replicate, stuffed_replicate]
  rfl

-- The last octet of the check sequence would be the 4093rd at least, and wbuf
-- has 4096.
theorem frame_that_fits_refused :
    (asyncFrame crowdedPayload).length ≤ maxRecvSize ∧
      ∀ outcomes, writePacketBytes crowdedPayload outcomes = ([], some einval) ∧
        readPackets maxRecvSize 1 (writePacketBytes crowdedPayload outcomes).1 [] = ([(0, [])], [], []) := by
  obtain ⟨first, second, shape⟩ : ∃ first second, addFcs crowdedPayload = crowdedPayload ++ [first, second] :=
    ⟨_, _, rfl⟩
  have refused : ¬ framePasses crowdedPayload := by
    unfold framePasses maxRecvSize
    have before : (addFcs crowdedPayload).dropLast = crowdedPayload ++ [first] := by
      rw [shape, List.dropLast_append_cons]
      rfl
    have least := (stuffed_length [first]).1
    rw [before, List.flatMap_append, List.length_append, crowded_stuffed]
    simp only [List.length_singleton] at least
    omega
  refine ⟨?_, fun outcomes => ?_⟩
  · have most := (stuffed_length [first, second]).2
    rw [asyncFrame, shape, List.flatMap_append]
    simp only [List.length_append, List.length_singleton, crowded_stuffed, maxRecvSize]
    simp only [List.length_cons, List.length_nil] at most
    omega
  · rw [writePacketBytes_refused _ outcomes refused]
    exact ⟨rfl, rfl⟩

end ZyAgf.Xl2tpd
