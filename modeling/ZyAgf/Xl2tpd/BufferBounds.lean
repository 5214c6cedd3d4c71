import ZyAgf.Xl2tpd.PayloadRoundTrip
import ZyAgf.Xl2tpd.PtyFraming

set_option autoImplicit false

namespace ZyAgf.Xl2tpd

-- Where read_packet stores the octets it decodes, counted from the beginning of
-- the allocation: recycle_payload leaves the room of a full header in front.
def scanStores (maxlen : Nat) (escape : UInt8) (buf : List UInt8) : List UInt8 → List Nat
  | [] => []
  | ch :: rest =>
      match takeOctet maxlen escape buf ch with
      | (.go escape left, .octet _) => (payloadHdrSize + buf.length) :: scanStores maxlen escape left rest
      | (.go escape left, _) => scanStores maxlen escape left rest
      | _ => []

def readStoresFrom (maxlen : Nat) (escape : UInt8) (errors : Nat) (reader : PtyReader) : List PtyRead → List Nat
  | [] => scanStores maxlen escape reader.buf reader.rbuf
  | read :: reads =>
      scanStores maxlen escape reader.buf reader.rbuf ++
        match (scanRbuf maxlen escape reader.buf reader.rbuf).2 with
        | .back _ _ => []
        | .dry escape buf =>
            match read with
            | .again => []
            | .bytes chunk => readStoresFrom maxlen escape errors ⟨chunk, buf⟩ reads
            | .failed _ => if errors + 1 > 10 then [] else readStoresFrom maxlen escape (errors + 1) ⟨[], buf⟩ reads

def readStores (maxlen : Nat) (reader : PtyReader) (reads : List PtyRead) : List Nat :=
  readStoresFrom maxlen 0 0 reader reads

-- A call of read_packet: what it finds, and what the pty has for it.
abbrev ReadCall := PtyReader × List PtyRead

def drainCalls (maxlen : Nat) : Nat → PtyReader → List PtyRead → List ReadCall
  | 0, _, _ => []
  | fuel + 1, reader, reads =>
      let packet := readPacket maxlen reader reads
      (reader, reads) :: if packet.result > 0 then drainCalls maxlen fuel ⟨packet.reader.rbuf, []⟩ packet.reads else []

def turnCalls (maxlen : Nat) : Nat → PtyReader → List PtyRead → List ReadCall
  | 0, _, _ => []
  | fuel + 1, reader, reads =>
      let ready := reads.dropWhile (· == .again)
      if ready = [] then []
      else
        let turn := drain maxlen (pending reader ready) reader ready
        drainCalls maxlen (pending reader ready) reader ready ++
          if turn.result < 0 then [] else turnCalls maxlen fuel turn.reader turn.reads

def readCalls (reads : List PtyRead) : List ReadCall :=
  turnCalls maxRecvSize (pending ⟨[], []⟩ reads) ⟨[], []⟩ reads

-- new_payload allocates MAX_RECV_SIZE bytes, which is maxlen too.
def DecoderBounded (reads : List PtyRead) : Prop :=
  ∀ call ∈ readCalls reads, ∀ place ∈ readStores maxRecvSize call.1 call.2, place < maxRecvSize

-- The octets a call of read_packet can come to: up to a read that would block,
-- or the eleventh that fails.
def arriving (errors : Nat) : List PtyRead → List UInt8
  | [] => []
  | .again :: _ => []
  | .bytes chunk :: reads => chunk ++ arriving errors reads
  | .failed _ :: reads => if errors + 1 > 10 then [] else arriving (errors + 1) reads

-- Those in front of the next flag that are not escapes. Flags right at the
-- beginning of a packet do not count.
def packetOctets (begun : Bool) (octets : List UInt8) : List UInt8 :=
  ((if begun then octets else octets.dropWhile (· == pppFlag)).takeWhile (· != pppFlag)).filter (· != pppEscape)

def ReadCall.octets (call : ReadCall) : List UInt8 :=
  packetOctets (!call.1.buf.isEmpty) (call.1.rbuf ++ arriving 0 call.2)

-- The room there is behind the header, which maxlen takes no notice of.
def ReadCall.Fits (call : ReadCall) : Prop :=
  call.1.buf.length < maxRecvSize → call.octets ≠ [] →
    call.1.buf.length + call.octets.length ≤ maxRecvSize - payloadHdrSize

instance (call : ReadCall) : Decidable call.Fits := inferInstanceAs (Decidable (_ → _ → _))

section Decoder

variable (maxlen : Nat)

theorem scanStores_append (escape : UInt8) (buf front back : List UInt8) :
    scanStores maxlen escape buf (front ++ back) = scanStores maxlen escape buf front ++
      match (scanRbuf maxlen escape buf front).2 with
      | .dry escape buf => scanStores maxlen escape buf back
      | .back _ _ => [] := by
  induction front generalizing escape buf with
  | nil => rfl
  | cons ch front inductionStep =>
      rw [List.cons_append, scanStores, scanStores, scanRbuf]
      rcases takeOctet maxlen escape buf ch with ⟨_ | _ | _, _ | _ | _ | _ | _⟩ <;> simp only
        [List.nil_append, List.cons_append] <;>
        rw [inductionStep]

theorem readStoresFrom_octets (escape : UInt8) (errors : Nat) (reader : PtyReader) (reads : List PtyRead) :
    readStoresFrom maxlen escape errors reader reads =
      scanStores maxlen escape reader.buf (reader.rbuf ++ arriving errors reads) := by
  induction reads generalizing escape errors reader with
  | nil => rw [readStoresFrom, arriving, List.append_nil]
  | cons read reads inductionStep =>
      rw [readStoresFrom, scanStores_append]
      congr 1
      rcases (scanRbuf maxlen escape reader.buf reader.rbuf).2 with ⟨left, buf⟩ | ⟨result, reader⟩
      · cases read with
        | again => rfl
        | bytes chunk => exact inductionStep left errors ⟨chunk, buf⟩
        | failed errno =>
            simp only [arriving]
            split
            · rfl
            · exact inductionStep left (errors + 1) ⟨[], buf⟩
      · rfl

end Decoder

def stored (octet : UInt8) : Prop := octet ≠ pppFlag ∧ octet ≠ pppEscape

theorem packetOctets_flag (begun : Bool) (rest : List UInt8) :
    packetOctets begun (pppFlag :: rest) = if begun then [] else packetOctets false rest := by
  cases begun <;> simp [packetOctets]

theorem packetOctets_escape (begun : Bool) (rest : List UInt8) :
    packetOctets begun (pppEscape :: rest) = packetOctets true rest := by
  cases begun <;> simp [packetOctets, pppEscape, pppFlag]

theorem packetOctets_stored (begun : Bool) (ch : UInt8) (rest : List UInt8) (plain : stored ch) :
    packetOctets begun (ch :: rest) = ch :: packetOctets true rest := by
  cases begun <;> simp [packetOctets, plain.1, plain.2]

theorem scanStores_ended (escape : UInt8) (buf rest : List UInt8) (begun : (!buf.isEmpty || escape != 0) = true) :
    scanStores maxRecvSize escape buf (pppFlag :: rest) = [] := by
  rw [scanStores, takeOctet, if_pos rfl]
  by_cases escaped : escape ≠ 0
  · rw [if_pos escaped]
  · have some : buf.length ≠ 0 := by simpa [escaped] using begun
    rw [if_neg escaped]
    by_cases long : buf.length ≥ 2
    · rw [if_pos long]
    · rw [if_neg long, if_pos (by omega)]

theorem scanStores_iff (escape : UInt8) (buf octets : List UInt8) :
    (∀ place ∈ scanStores maxRecvSize escape buf octets, place < maxRecvSize) ↔
      (buf.length < maxRecvSize → packetOctets (!buf.isEmpty || escape != 0) octets ≠ [] →
        buf.length + (packetOctets (!buf.isEmpty || escape != 0) octets).length ≤ maxRecvSize - payloadHdrSize) := by
  induction octets generalizing escape buf with
  | nil => simp [scanStores, packetOctets]
  | cons ch rest inductionStep =>
      by_cases flag : ch = pppFlag
      · rw [flag, packetOctets_flag]
        cases begun : (!buf.isEmpty || escape != 0) with
        | true => simp [scanStores_ended escape buf rest begun]
        | false =>
            obtain ⟨empty, unescaped⟩ : buf = [] ∧ escape = 0 := by simpa using begun
            subst empty unescaped
            simpa [scanStores, takeOctet] using inductionStep 0 []
      by_cases escapes : ch = pppEscape
      · have taken : takeOctet maxRecvSize escape buf ch = (.go pppTrans buf, .escape) := by
          rw [takeOctet, if_neg flag, if_pos escapes]
        rw [scanStores, taken]
        simp only
        rw [inductionStep, escapes, packetOctets_escape]
        have begun : (!buf.isEmpty || pppTrans != 0) = true := by
          rw [Bool.or_eq_true]
          exact Or.inr (by decide)
        rw [begun]
      · have plain : stored ch := ⟨flag, escapes⟩
        rw [packetOctets_stored _ ch rest plain]
        by_cases room : buf.length < maxRecvSize
        · have taken : takeOctet maxRecvSize escape buf ch =
            (.go 0 (buf ++ [ch ^^^ escape]), .octet (ch ^^^ escape)) := by
            rw [takeOctet, if_neg flag, if_neg escapes, if_pos room]
          have later := inductionStep 0 (buf ++ [ch ^^^ escape])
          rw [scanStores, taken]
          have begun : (!(buf ++ [ch ^^^ escape]).isEmpty || (0 : UInt8) != 0) = true := by simp
          rw [List.forall_mem_cons, later, begun]
          simp only [← List.length_pos_iff, List.length_append, List.length_cons, List.length_nil, maxRecvSize,
            payloadHdrSize] at room ⊢
          omega
        · have taken : takeOctet maxRecvSize escape buf ch = (.toss einval, .tossed einval) := by
            rw [takeOctet, if_neg flag, if_neg escapes, if_neg room]
          rw [scanStores, taken]
          simp [room]

theorem readStores_iff (call : ReadCall) :
    (∀ place ∈ readStores maxRecvSize call.1 call.2, place < maxRecvSize) ↔ call.Fits := by
  rw [readStores, readStoresFrom_octets, scanStores_iff]
  unfold ReadCall.Fits ReadCall.octets
  simp

def minusSize (a b : Nat) : Nat := (a + 2 ^ 64 - b) % 2 ^ 64

-- write_packet skips the header and the offset. The buffer's length is a
-- size_t, the call's count of bytes an int.
structure Skipped where
  start : Nat
  len : Nat
  rxBytes : BitVec 32
deriving DecidableEq

def skipHeader (h : PayloadHdr) (len : Nat) (rxBytes : BitVec 32) : Skipped :=
  let skipped := payloadHdrSize + h.oSize.toNat
  { start := payloadBuf - missingBytes h.ver + skipped
    len := minusSize len skipped
    rxBytes := rxBytes + BitVec.ofNat 32 (minusSize len skipped) }

-- What is written to pppd is the end of the datagram, which lies behind the room
-- for the expansion, and as much is counted.
structure OffsetBounded (buf : RecvBuffer) (h : PayloadHdr) (len : Nat) (rxBytes : BitVec 32) : Prop where
  bounded : payloadHdrSize + h.oSize.toNat ≤ len
  behind : payloadBuf ≤ (skipHeader h len rxBytes).start
  inside : (skipHeader h len rxBytes).start + (skipHeader h len rxBytes).len = payloadBuf + buf.len
  counted : (skipHeader h len rxBytes).rxBytes =
    rxBytes + BitVec.ofNat 32 (payloadBuf + buf.len - (skipHeader h len rxBytes).start)

def sentHdrLen (ver : U16) : Nat := minPayloadHdrLen + words (PLBIT ver) 2 + words (PFBIT ver) 4 + words (PSBIT ver) 2

def statedOffset (buf : RecvBuffer) : Nat := (hostWord buf.mem (sentHdrLen (hostWord buf.mem 0) - 2)).toNat

def OffsetFits (buf : RecvBuffer) : Prop :=
  PSBIT (hostWord buf.mem 0) → sentHdrLen (hostWord buf.mem 0) + statedOffset buf ≤ buf.len

instance (buf : RecvBuffer) : Decidable (OffsetFits buf) := inferInstanceAs (Decidable (_ → _))

theorem sentHdrLen_missing (ver : U16) : sentHdrLen ver + missingBytes ver = payloadHdrSize := by
  unfold sentHdrLen missingBytes words minPayloadHdrLen payloadHdrSize
  cases PLBIT ver <;> cases PFBIT ver <;> cases PSBIT ver <;> rfl

theorem takePayload_frame (sanity : Bool) (buf : RecvBuffer) (c after : Call) (h : PayloadHdr) (len : Nat)
    (taken : takePayload sanity buf c = (after, some (h, len))) :
    h = expandHdr buf c ∧ len = buf.len + missingBytes h.ver ∧ payloadHdrSize < len := by
  unfold takePayload at taken
  split at taken
  · cases taken
  split at taken
  · cases taken
  · rename_i expanded
    split at taken
    · cases taken
      obtain ⟨header, length⟩ := expandPayload_frame buf c _ _ _ expanded
      exact ⟨header, length, by assumption⟩
    · split at taken <;> cases taken

theorem expandHdr_offset (buf : RecvBuffer) (c : Call) :
    (expandHdr buf c).oSize.toNat = if PSBIT (hostWord buf.mem 0) then statedOffset buf else 0 := by
  unfold expandHdr statedOffset sentHdrLen
  dsimp only
  split
  · rename_i offset
    rw [offset]
    congr 2
    unfold minPayloadHdrLen words
    simp only [if_true]
    omega
  · rfl

theorem skipped_iff (buf : RecvBuffer) (c : Call)
    (longer : payloadHdrSize < buf.len + missingBytes (expandHdr buf c).ver) :
    payloadHdrSize + (expandHdr buf c).oSize.toNat ≤ buf.len + missingBytes (expandHdr buf c).ver ↔ OffsetFits buf := by
  have version : (expandHdr buf c).ver = hostWord buf.mem 0 := rfl
  have header := sentHdrLen_missing (hostWord buf.mem 0)
  rw [version] at longer ⊢
  rw [expandHdr_offset]
  unfold OffsetFits
  cases PSBIT (hostWord buf.mem 0) <;> simp <;> omega

theorem minusSize_of_le (a b : Nat) (order : b ≤ a) (small : a < 2 ^ 64) : minusSize a b = a - b := by
  unfold minusSize
  omega

theorem minusSize_of_lt (a b : Nat) (order : a < b) (small : b < 2 ^ 64) : minusSize a b = a + 2 ^ 64 - b := by
  unfold minusSize
  omega

theorem missingBytes_le (ver : U16) : missingBytes ver ≤ 8 := by
  unfold missingBytes words
  cases PLBIT ver <;> cases PFBIT ver <;> cases PSBIT ver <;> decide

theorem offset_bounded (buf : RecvBuffer) (h : PayloadHdr) (rxBytes : BitVec 32)
    (received : buf.len ≤ maxRecvSize - payloadBuf)
    (bounded : payloadHdrSize + h.oSize.toNat ≤ buf.len + missingBytes h.ver) :
    OffsetBounded buf h (buf.len + missingBytes h.ver) rxBytes := by
  have room := missingBytes_le h.ver
  have behind : payloadBuf ≤ payloadBuf - missingBytes h.ver + (payloadHdrSize + h.oSize.toNat) := by
    unfold payloadBuf payloadHdrSize
    omega
  have left : minusSize (buf.len + missingBytes h.ver) (payloadHdrSize + h.oSize.toNat) =
      buf.len + missingBytes h.ver - (payloadHdrSize + h.oSize.toNat) := by
    refine minusSize_of_le _ _ bounded ?_
    unfold maxRecvSize payloadBuf at received
    omega
  have inside : payloadBuf - missingBytes h.ver + (payloadHdrSize + h.oSize.toNat) +
      (buf.len + missingBytes h.ver - (payloadHdrSize + h.oSize.toNat)) = payloadBuf + buf.len := by
    unfold payloadBuf at behind ⊢
    omega
  refine ⟨bounded, behind, ?_, ?_⟩
  · unfold skipHeader
    simp only [left]
    exact inside
  · unfold skipHeader
    simp only [left]
    rw [← inside, Nat.add_sub_cancel_left]

-- For every packet that write_packet is called for.
theorem payload_offset_bounded_iff (sanity : Bool) (buf : RecvBuffer) (c after : Call) (h : PayloadHdr) (len : Nat)
    (rxBytes : BitVec 32)
    (received : buf.len ≤ maxRecvSize - payloadBuf) (written : takePayload sanity buf c = (after, some (h, len))) :
    OffsetBounded buf h len rxBytes ↔ OffsetFits buf := by
  obtain ⟨rfl, rfl, longer⟩ := takePayload_frame sanity buf c after h len written
  rw [← skipped_iff buf c longer]
  exact ⟨OffsetBounded.bounded, offset_bounded buf _ rxBytes received⟩

def plainCall : Call := { Call.created 0 (Tunnel.created 1) 5 with fd := 3 }

def paddedPacket : RecvBuffer := ⟨[0x02, 0x02, 1, 0, 2, 0, 2, 0, 0, 0, 0xff, 0x03], 12⟩

theorem payload_offset_bounded_padded :
    OffsetBounded paddedPacket (expandHdr paddedPacket plainCall) 18 0 :=
  (payload_offset_bounded_iff true paddedPacket plainCall _ _ _ 0 (by decide) rfl).mpr (by decide)

def overstatedPacket : RecvBuffer := ⟨[0x02, 0x02, 1, 0, 2, 0, 0xff, 0xff, 0, 0, 0xff, 0x03], 12⟩

theorem offset_past_packet :
    (takePayload true overstatedPacket plainCall).2 = some (expandHdr overstatedPacket plainCall, 18) ∧
      ¬ OffsetBounded overstatedPacket (expandHdr overstatedPacket plainCall) 18 0 :=
  ⟨rfl, fun bounded => absurd bounded.bounded (by decide)⟩

def Touch.stores : Touch → List Nat
  | .read _ => []
  | .wrote offset => [offset, offset + 1]

def headerStores (space : List UInt8) (buf : RecvBuffer) (c : Call) : List Nat :=
  match expandMem (space ++ buf.mem) space.length buf.len c with
  | some (_, e) => e.log.flatMap Touch.stores
  | none => []

-- add_fcs goes over the frame and stores two bytes where that ends.
def fcsStores (frame : Skipped) : List Nat := [frame.start + frame.len, frame.start + frame.len + 1]

-- What expand_payload and add_fcs store of a data packet that was received behind
-- the room for the expansion.
def receiveStores (sanity : Bool) (space : List UInt8) (buf : RecvBuffer) (c : Call) : List Nat :=
  if checkPayload sanity buf ≠ 0 then []
  else
    headerStores space buf c ++
      match (takePayload sanity buf c).2 with
      | some (h, len) => if c.fd < 0 then [] else fcsStores (skipHeader h len 0)
      | none => []

def ReceiveBounded (sanity : Bool) (space : List UInt8) (buf : RecvBuffer) (c : Call) : Prop :=
  ∀ place ∈ receiveStores sanity space buf c, place < maxRecvSize

-- A frame that comes to add_fcs leaves two bytes of the buffer.
def FcsFits (sanity : Bool) (buf : RecvBuffer) (c : Call) : Prop :=
  (takePayload sanity buf c).2.isSome → 0 ≤ c.fd → OffsetFits buf ∧ payloadBuf + buf.len + 2 ≤ maxRecvSize

def WritesBelow (bound : Nat) (e : Expansion) : Prop := ∀ w, Touch.wrote w ∈ e.log → w ≤ bound

section Header

variable {bound : Nat} {e : Expansion}

theorem copy_below (below : WritesBelow bound e) (target : Nat) (inside : target ≤ bound) : WritesBelow bound
    (e.copy target) := by
  intro w member
  rcases List.mem_append.mp member with old | new
  · exact below w old
  · rcases List.mem_pair.mp new with read | wrote
    · cases read
    · cases wrote
      exact inside

theorem fill_below (below : WritesBelow bound e) (target : Nat) (word : U16) (inside : target ≤ bound) :
    WritesBelow bound (e.fill target word) := by
  intro w member
  rcases List.mem_append.mp member with old | new
  · exact below w old
  · cases List.mem_singleton.mp new
    exact inside

theorem next_below (below : WritesBelow bound e) : WritesBelow bound e.next := below

end Header

theorem expandInto_below (mem : List UInt8) (start new len : Nat) (c : Call) :
    WritesBelow (new + 12) (expandInto mem start new len c) := by
  have first : WritesBelow (new + 12) ((Expansion.mk mem start []).copy new) :=
    copy_below (fun w member => absurd member List.not_mem_nil) new (by omega)
  have measured : WritesBelow (new + 12) (expandLength ((Expansion.mk mem start []).copy new) new len) := by
    unfold expandLength
    split
    · exact copy_below (next_below first) _ (by omega)
    · exact fill_below first _ _ (by omega)
  have named := copy_below (next_below (copy_below (next_below measured) (new + 4) (by omega))) (new + 6) (by omega)
  unfold expandInto
  dsimp only
  revert named
  generalize (((expandLength _ new len).next.copy (new + 4)).next.copy (new + 6)) = e
  intro named
  have numbered : WritesBelow (new + 12) (expandNumbers e new c) := by
    unfold expandNumbers
    split
    · exact copy_below (next_below (copy_below (next_below named) _ (by omega))) _ (by omega)
    · exact fill_below (fill_below named _ _ (by omega)) _ _ (by omega)
  unfold expandOffset
  split
  · exact copy_below (next_below numbered) _ (by omega)
  · exact fill_below numbered _ _ (by omega)

theorem headerStores_bounded (space : List UInt8) (buf : RecvBuffer) (c : Call) (room : space.length = payloadBuf) :
    ∀ place ∈ headerStores space buf c, place < maxRecvSize := by
  unfold headerStores expandMem
  rw [room]
  dsimp only
  split
  · rename_i found
    split at found
    · cases found
      simp
    split at found
    · cases found
    · cases found
      intro place member
      obtain ⟨touch, touched, stored⟩ := List.mem_flatMap.mp member
      cases touch with
      | read offset => cases stored
      | wrote offset =>
          have below := expandInto_below _ _ _ _ _ offset touched
          unfold payloadBuf at below
          unfold maxRecvSize
          rcases List.mem_pair.mp stored with rfl | rfl <;> omega
  · simp

theorem fcsStores_iff (sanity : Bool) (buf : RecvBuffer) (c : Call) (h : PayloadHdr) (len : Nat)
    (received : buf.len ≤ maxRecvSize - payloadBuf) (found : (takePayload sanity buf c).2 = some (h, len)) :
    (∀ place ∈ fcsStores (skipHeader h len 0), place < maxRecvSize) ↔
      OffsetFits buf ∧ payloadBuf + buf.len + 2 ≤ maxRecvSize := by
  obtain ⟨rfl, rfl, longer⟩ := takePayload_frame sanity buf c _ h len (Prod.ext rfl found)
  have fits := skipped_iff buf c longer
  rw [← fits]
  unfold fcsStores
  rw [List.forall_mem_cons, List.forall_mem_singleton]
  by_cases bounded : payloadHdrSize + (expandHdr buf c).oSize.toNat ≤ buf.len + missingBytes (expandHdr buf c).ver
  · rw [(offset_bounded buf (expandHdr buf c) 0 received bounded).inside]
    constructor
    · exact fun both => ⟨bounded, both.2⟩
    · exact fun both => ⟨by omega, both.2⟩
  · -- the length has wrapped
    have room := missingBytes_le (expandHdr buf c).ver
    have size := (expandHdr buf c).oSize.isLt
    have wrapped : (skipHeader (expandHdr buf c) (buf.len + missingBytes (expandHdr buf c).ver) 0).start +
        (skipHeader (expandHdr buf c) (buf.len + missingBytes (expandHdr buf c).ver) 0).len = payloadBuf + buf.len + 2 ^
          64 := by
      unfold skipHeader
      dsimp only
      rw [minusSize_of_lt _ _ (by omega) (by unfold payloadHdrSize; omega)]
      unfold payloadBuf payloadHdrSize
      omega
    rw [wrapped]
    constructor
    · intro both
      exact absurd both.1 (by unfold maxRecvSize; omega)
    · exact fun both => absurd both.1 bounded

theorem receive_bounded_iff (sanity : Bool) (space : List UInt8) (buf : RecvBuffer) (c : Call)
    (room : space.length = payloadBuf)
    (received : buf.len ≤ maxRecvSize - payloadBuf) :
    ReceiveBounded sanity space buf c ↔ FcsFits sanity buf c := by
  have header := headerStores_bounded space buf c room
  unfold ReceiveBounded receiveStores FcsFits
  by_cases refused : checkPayload sanity buf ≠ 0
  · have none : (takePayload sanity buf c).2 = none := by rw [takePayload, if_pos refused]
    simp [refused, none]
  rw [if_neg refused]
  rcases found : (takePayload sanity buf c).2 with _ | ⟨h, len⟩
  · simpa using header
  · by_cases shut : c.fd < 0
    · simp only [if_pos shut, List.append_nil, Option.isSome_some]
      exact ⟨fun _ _ opened => absurd shut (by omega), fun _ => header⟩
    · simp only [if_neg shut, Option.isSome_some, forall_const]
      rw [← fcsStores_iff sanity buf c h len received found]
      constructor
      · exact fun all _ place member => all place (List.mem_append_right _ member)
      · intro fcs place member
        rcases List.mem_append.mp member with early | late
        · exact header place early
        · exact fcs (by omega) place late

-- The two buffers, for every run of the decoder and every data packet.
theorem buffers_bounded_iff (reads : List PtyRead) (sanity : Bool) (space : List UInt8) (buf : RecvBuffer) (c : Call)
    (room : space.length = payloadBuf) (received : buf.len ≤ maxRecvSize - payloadBuf) :
    (DecoderBounded reads ↔ ∀ call ∈ readCalls reads, call.Fits) ∧
      (ReceiveBounded sanity space buf c ↔ FcsFits sanity buf c) :=
  ⟨forall₂_congr fun call _ => readStores_iff call, receive_bounded_iff sanity space buf c room received⟩

theorem buffers_bounded_padded :
    (DecoderBounded [.bytes [0x7e, 0x41, 0x42, 0x43, 0x7e]] ↔
        ∀ call ∈ readCalls [.bytes [0x7e, 0x41, 0x42, 0x43, 0x7e]], call.Fits) ∧
      (ReceiveBounded true (List.replicate 10 0) paddedPacket plainCall ↔ FcsFits true paddedPacket plainCall) :=
  buffers_bounded_iff _ true _ paddedPacket plainCall (by decide) (by decide)

theorem first_call (chunk : List UInt8) (reads : List PtyRead) :
    (⟨[], []⟩, .bytes chunk :: reads) ∈ readCalls (.bytes chunk :: reads) := by
  obtain ⟨fuel, enough⟩ : ∃ fuel, pending ⟨[], []⟩ (.bytes chunk :: reads) = fuel + 1 :=
    ⟨chunk.length + (reads.map PtyRead.size).sum, by simp [pending, PtyRead.size]; omega⟩
  have ready : (PtyRead.bytes chunk :: reads).dropWhile (· == .again) = .bytes chunk :: reads := by
    rw [List.dropWhile_cons_of_neg (by simp)]
  unfold readCalls
  rw [enough, turnCalls]
  dsimp only
  rw [ready, if_neg (List.cons_ne_nil _ _), enough, drainCalls]
  exact List.mem_append_left _ List.mem_cons_self

-- A frame of 4083 octets without a flag, and a datagram as long as is received.
theorem buffers_overrun :
    ¬ DecoderBounded [.bytes (List.replicate 4083 0x41)] ∧
      ¬ ReceiveBounded true (List.replicate 10 0) ⟨[0x02, 0x00, 1, 0, 2, 0] ++ List.replicate 4080 0x41, 4086⟩
        plainCall := by
  constructor
  · intro bounded
    have call := bounded (⟨[], []⟩, [.bytes (List.replicate 4083 0x41)]) (first_call _ [])
    exact absurd ((readStores_iff _).mp call) (by decide +kernel)
  · intro bounded
    have fits := (receive_bounded_iff true _ _ plainCall (by decide) (by decide)).mp bounded
    exact absurd (fits (by decide +kernel) (by decide)).2 (by decide)

end ZyAgf.Xl2tpd
