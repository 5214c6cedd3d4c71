import ZyAgf.Library.Framing
import ZyAgf.Xl2tpd.State

set_option autoImplicit false

namespace ZyAgf.Xl2tpd

def pppFlag : UInt8 := 0x7e
def pppEscape : UInt8 := 0x7d
def pppTrans : UInt8 := 0x20
def pppInitFcs : UInt16 := 0xffff
def maxRecvSize : Nat := 4096

-- What one read from the pty brings. Nothing to read, an interrupt and a pty
-- that is gone are taken alike.
inductive PtyRead where
  | bytes (chunk : List UInt8)
  | again
  | failed (errno : Nat)
deriving DecidableEq, Repr

-- What the decoder makes of one octet.
inductive Decoded where
  | octet (c : UInt8)
  | escape
  | flag
  | frame (bytes : List UInt8)
  | tossed (error : Int)
deriving DecidableEq, Repr

-- The decoder's state that a call keeps: what it has read from the pty and not
-- looked at, and what stands in its packet buffer.
structure PtyReader where
  rbuf : List UInt8
  buf : List UInt8
deriving DecidableEq, Repr

-- The loop goes on, or returns with what is then in the buffer.
inductive Verdict where
  | go (escape : UInt8) (buf : List UInt8)
  | back (result : Int) (buf : List UInt8)
  | toss (error : Int)
deriving DecidableEq, Repr

def takeOctet (maxlen : Nat) (escape : UInt8) (buf : List UInt8) (ch : UInt8) : Verdict × Decoded :=
  if ch = pppFlag then
    if escape ≠ 0 then (.toss einval, .tossed einval)
    else if buf.length ≥ 2 then
      let whole := buf.take (buf.length - 2)
      (.back whole.length whole, if whole = [] then .flag else .frame whole)
    else if buf.length = 1 then (.back 1 buf, .frame buf)
    else (.go escape buf, .flag)
  else if ch = pppEscape then (.go pppTrans buf, .escape)
  else if buf.length < maxlen then (.go 0 (buf ++ [ch ^^^ escape]), .octet (ch ^^^ escape))
  else (.toss einval, .tossed einval)

-- What stands in rbuf is looked at first. A packet that is tossed takes the rest
-- of it with it.
inductive Scan where
  | dry (escape : UInt8) (buf : List UInt8)
  | back (result : Int) (reader : PtyReader)
deriving DecidableEq, Repr

def scanRbuf (maxlen : Nat) (escape : UInt8) (buf : List UInt8) : List UInt8 → List Decoded × Scan
  | [] => ([], .dry escape buf)
  | ch :: rest =>
      let taken := takeOctet maxlen escape buf ch
      match taken.1 with
      | .go escape buf => (taken.2 :: (scanRbuf maxlen escape buf rest).1, (scanRbuf maxlen escape buf rest).2)
      | .back result buf => ([taken.2], .back result ⟨rest, buf⟩)
      | .toss error => ([taken.2], .back error ⟨[], buf⟩)

structure PacketRead where
  log : List Decoded
  result : Int
  reader : PtyReader
  reads : List PtyRead
deriving DecidableEq, Repr

def PacketRead.after (log : List Decoded) (p : PacketRead) : PacketRead := { p with log := log ++ p.log }

-- The escape is a local variable of read_packet, as is the count of errors.
def readPacketFrom (maxlen : Nat) (escape : UInt8) (errors : Nat) (reader : PtyReader) : List PtyRead → PacketRead
  | [] =>
      match scanRbuf maxlen escape reader.buf reader.rbuf with
      | (log, .back result reader) => ⟨log, result, reader, []⟩
      | (log, .dry _ buf) => ⟨log, 0, ⟨[], buf⟩, []⟩
  | read :: reads =>
      match scanRbuf maxlen escape reader.buf reader.rbuf with
      | (log, .back result reader) => ⟨log, result, reader, read :: reads⟩
      | (log, .dry escape buf) =>
          match read with
          | .again => ⟨log, 0, ⟨[], buf⟩, reads⟩
          | .bytes chunk => (readPacketFrom maxlen escape errors ⟨chunk, buf⟩ reads).after log
          | .failed errno =>
              if errors + 1 > 10 then ⟨log, -errno, ⟨[], buf⟩, reads⟩
              else (readPacketFrom maxlen escape (errors + 1) ⟨[], buf⟩ reads).after log

def readPacket (maxlen : Nat) (reader : PtyReader) (reads : List PtyRead) : PacketRead :=
    readPacketFrom maxlen 0 0 reader reads

def PtyRead.size : PtyRead → Nat
  | .bytes chunk => chunk.length + 1
  | _ => 1

-- Every call that is made with something to read uses some of it up, so this is
-- fuel for both loops of network_thread.
def pending (reader : PtyReader) (reads : List PtyRead) : Nat := reader.rbuf.length + (reads.map PtyRead.size).sum

def drain (maxlen : Nat) : Nat → PtyReader → List PtyRead → PacketRead
  | 0, reader, reads => ⟨[], 0, reader, reads⟩
  | fuel + 1, reader, reads =>
      let packet := readPacket maxlen reader reads
      if packet.result > 0 then (drain maxlen fuel ⟨packet.reader.rbuf, []⟩ packet.reads).after packet.log
      else packet

-- The turns of network_thread for the call: one whenever select finds something
-- to read, until a packet is tossed, which closes the call. Where the call stood
-- after each turn is kept.
def turns (maxlen : Nat) : Nat → PtyReader → List PtyRead → List Decoded × List PtyReader
  | 0, _, _ => ([], [])
  | fuel + 1, reader, reads =>
      let ready := reads.dropWhile (· == .again)
      if ready = [] then ([], [])
      else
        let turn := drain maxlen (pending reader ready) reader ready
        if turn.result < 0 then (turn.log, [])
        else
          let later := turns maxlen fuel turn.reader turn.reads
          (turn.log ++ later.1, turn.reader :: later.2)

def networkThread (maxlen : Nat) (reads : List PtyRead) : List Decoded × List PtyReader :=
  turns maxlen (pending ⟨[], []⟩ reads) ⟨[], []⟩ reads

def hdlc (maxlen : Nat) (s : UInt8 × List UInt8) (ch : UInt8) : Option (UInt8 × List UInt8) × List Decoded :=
  match takeOctet maxlen s.1 s.2 ch with
  | (.go escape buf, d) => (some (escape, buf), [d])
  | (.back _ _, d) => (some (0, []), [d])
  | (.toss _, d) => (none, [d])

-- A turn as it goes through what it reads, frame after frame. It ends early at a
-- frame that comes to nothing.
inductive Left where
  | dry (s : UInt8 × List UInt8)
  | short (rest : List UInt8)
  | tossed (error : Int) (buf : List UInt8)
deriving DecidableEq, Repr

def eat (maxlen : Nat) (s : UInt8 × List UInt8) : List UInt8 → List Decoded × Left
  | [] => ([], .dry s)
  | ch :: rest =>
      match takeOctet maxlen s.1 s.2 ch with
      | (.go escape buf, d) => (d :: (eat maxlen (escape, buf) rest).1, (eat maxlen (escape, buf) rest).2)
      | (.back result _, d) =>
          if result > 0 then (d :: (eat maxlen (0, []) rest).1, (eat maxlen (0, []) rest).2) else ([d], .short rest)
      | (.toss error, d) => ([d], .tossed error s.2)

def flow (maxlen : Nat) (s : UInt8 × List UInt8) (rbuf : List UInt8) : List PtyRead → PacketRead
  | [] =>
      match eat maxlen s rbuf with
      | (log, .short rest) => ⟨log, 0, ⟨rest, []⟩, []⟩
      | (log, .tossed error buf) => ⟨log, error, ⟨[], buf⟩, []⟩
      | (log, .dry s) => ⟨log, 0, ⟨[], s.2⟩, []⟩
  | read :: reads =>
      match eat maxlen s rbuf with
      | (log, .short rest) => ⟨log, 0, ⟨rest, []⟩, read :: reads⟩
      | (log, .tossed error buf) => ⟨log, error, ⟨[], buf⟩, read :: reads⟩
      | (log, .dry s) =>
          match read with
          | .bytes chunk => (flow maxlen s chunk reads).after log
          | _ => ⟨log, 0, ⟨[], s.2⟩, reads⟩

def PtyRead.Delivers : PtyRead → Prop
  | .bytes chunk => chunk ≠ [] ∧ chunk.length ≤ maxRecvSize
  | .again => True
  | .failed _ => False

theorem takeOctet_back (maxlen : Nat) (escape : UInt8) (buf : List UInt8) (ch : UInt8) (result : Int)
    (left : List UInt8) (d : Decoded)
    (taken : takeOctet maxlen escape buf ch = (.back result left, d)) : result = left.length := by
  unfold takeOctet at taken
  split at taken
  · split at taken
    · cases taken
    split at taken
    · cases taken
      rfl
    split at taken
    · next one =>
        cases taken
        rw [one]
        rfl
    · cases taken
  split at taken
  · cases taken
  split at taken <;> cases taken

theorem takeOctet_toss (maxlen : Nat) (escape : UInt8) (buf : List UInt8) (ch : UInt8) (error : Int) (d : Decoded)
    (taken : takeOctet maxlen escape buf ch = (.toss error, d)) : error = einval := by
  unfold takeOctet at taken
  split at taken
  · split at taken
    · cases taken
      rfl
    split at taken
    · cases taken
    split at taken <;> cases taken
  split at taken
  · cases taken
  split at taken <;> cases taken
  rfl

section Turn

variable (maxlen : Nat)

theorem after_after (first second : List Decoded) (p : PacketRead) : (p.after second).after first = p.after
    (first ++ second) := by
  simp [PacketRead.after]

theorem after_nil (p : PacketRead) : p.after [] = p := rfl

theorem readPacketFrom_go (escape escape' : UInt8) (errors : Nat) (buf buf' : List UInt8) (ch : UInt8)
    (rest : List UInt8) (d : Decoded)
    (taken : takeOctet maxlen escape buf ch = (.go escape' buf', d)) (reads : List PtyRead) :
    readPacketFrom maxlen escape errors ⟨ch :: rest, buf⟩ reads =
      (readPacketFrom maxlen escape' errors ⟨rest, buf'⟩ reads).after [d] := by
  have scanned : scanRbuf maxlen escape buf (ch :: rest) =
      (d :: (scanRbuf maxlen escape' buf' rest).1, (scanRbuf maxlen escape' buf' rest).2) := by
    rw [scanRbuf, taken]
  cases reads with
  | nil =>
      unfold readPacketFrom
      dsimp only
      rw [scanned]
      rcases scanRbuf maxlen escape' buf' rest with ⟨log, _ | _⟩ <;> rfl
  | cons read reads =>
      unfold readPacketFrom
      dsimp only
      rw [scanned]
      rcases scanRbuf maxlen escape' buf' rest with ⟨log, _ | _⟩
      · cases read with
        | bytes chunk => rfl
        | again => rfl
        | failed errno =>
            dsimp only
            split <;> rfl
      · rfl

theorem readPacketFrom_back (escape : UInt8) (errors : Nat) (buf buf' : List UInt8) (ch : UInt8) (rest : List UInt8)
    (result : Int)
    (d : Decoded) (taken : takeOctet maxlen escape buf ch = (.back result buf', d)) (reads : List PtyRead) :
    readPacketFrom maxlen escape errors ⟨ch :: rest, buf⟩ reads = ⟨[d], result, ⟨rest, buf'⟩, reads⟩ := by
  have scanned : scanRbuf maxlen escape buf (ch :: rest) = ([d], .back result ⟨rest, buf'⟩) := by
    rw [scanRbuf, taken]
  cases reads <;> simp only [readPacketFrom, scanned]

theorem readPacketFrom_toss (escape : UInt8) (errors : Nat) (buf : List UInt8) (ch : UInt8) (rest : List UInt8)
    (error : Int)
    (d : Decoded) (taken : takeOctet maxlen escape buf ch = (.toss error, d)) (reads : List PtyRead) :
    readPacketFrom maxlen escape errors ⟨ch :: rest, buf⟩ reads = ⟨[d], error, ⟨[], buf⟩, reads⟩ := by
  have scanned : scanRbuf maxlen escape buf (ch :: rest) = ([d], .back error ⟨[], buf⟩) := by
    rw [scanRbuf, taken]
  cases reads <;> simp only [readPacketFrom, scanned]

theorem flow_go (s s' : UInt8 × List UInt8) (ch : UInt8) (rest : List UInt8) (d : Decoded)
    (taken : takeOctet maxlen s.1 s.2 ch = (.go s'.1 s'.2, d)) (reads : List PtyRead) :
    flow maxlen s (ch :: rest) reads = (flow maxlen s' rest reads).after [d] := by
  have eaten : eat maxlen s (ch :: rest) = (d :: (eat maxlen s' rest).1, (eat maxlen s' rest).2) := by
    rw [eat, taken]
  cases reads with
  | nil =>
      unfold flow
      rw [eaten]
      rcases eat maxlen s' rest with ⟨log, _ | _ | _⟩ <;> rfl
  | cons read reads =>
      unfold flow
      rw [eaten]
      rcases eat maxlen s' rest with ⟨log, _ | _ | _⟩
      · cases read <;> rfl
      · rfl
      · rfl

theorem flow_frame (s : UInt8 × List UInt8) (ch : UInt8) (rest : List UInt8) (result : Int) (left : List UInt8)
    (d : Decoded)
    (taken : takeOctet maxlen s.1 s.2 ch = (.back result left, d)) (whole : result > 0) (reads : List PtyRead) :
    flow maxlen s (ch :: rest) reads = (flow maxlen (0, []) rest reads).after [d] := by
  have eaten : eat maxlen s (ch :: rest) = (d :: (eat maxlen (0, []) rest).1, (eat maxlen (0, []) rest).2) := by
    rw [eat, taken]
    exact if_pos whole
  cases reads with
  | nil =>
      unfold flow
      rw [eaten]
      rcases eat maxlen (0, []) rest with ⟨log, _ | _ | _⟩ <;> rfl
  | cons read reads =>
      unfold flow
      rw [eaten]
      rcases eat maxlen (0, []) rest with ⟨log, _ | _ | _⟩
      · cases read <;> rfl
      · rfl
      · rfl

theorem flow_short (s : UInt8 × List UInt8) (ch : UInt8) (rest : List UInt8) (result : Int) (left : List UInt8)
    (d : Decoded)
    (taken : takeOctet maxlen s.1 s.2 ch = (.back result left, d)) (nothing : ¬ result > 0) (reads : List PtyRead) :
    flow maxlen s (ch :: rest) reads = ⟨[d], 0, ⟨rest, []⟩, reads⟩ := by
  have eaten : eat maxlen s (ch :: rest) = ([d], .short rest) := by
    rw [eat, taken]
    exact if_neg nothing
  cases reads <;> simp only [flow, eaten]

theorem flow_toss (s : UInt8 × List UInt8) (ch : UInt8) (rest : List UInt8) (error : Int) (d : Decoded)
    (taken : takeOctet maxlen s.1 s.2 ch = (.toss error, d)) (reads : List PtyRead) :
    flow maxlen s (ch :: rest) reads = ⟨[d], error, ⟨[], s.2⟩, reads⟩ := by
  have eaten : eat maxlen s (ch :: rest) = ([d], .tossed error s.2) := by
    rw [eat, taken]
  cases reads <;> simp only [flow, eaten]

def frameLoop (fuel : Nat) (packet : PacketRead) : PacketRead :=
  if packet.result > 0 then (drain maxlen fuel ⟨packet.reader.rbuf, []⟩ packet.reads).after packet.log else packet

theorem frameLoop_after (fuel : Nat) (log : List Decoded) (p : PacketRead) :
    frameLoop maxlen fuel (p.after log) = (frameLoop maxlen fuel p).after log := by
  by_cases whole : p.result > 0
  · have same : (p.after log).result > 0 := whole
    rw [frameLoop, if_pos same, frameLoop, if_pos whole, after_after]
    rfl
  · have same : ¬ (p.after log).result > 0 := whole
    rw [frameLoop, if_neg same, frameLoop, if_neg whole]

theorem size_pos (read : PtyRead) : 0 < read.size := by
  cases read <;> simp [PtyRead.size]

theorem sizes_nil (reads : List PtyRead) (none : (reads.map PtyRead.size).sum = 0) : reads = [] := by
  cases reads with
  | nil => rfl
  | cons read reads =>
      have := size_pos read
      simp only [List.map_cons, List.sum_cons] at none
      omega

theorem flow_nil (s : UInt8 × List UInt8) : flow maxlen s [] [] = ⟨[], 0, ⟨[], s.2⟩, []⟩ := rfl

theorem drain_succ (fuel : Nat) (reader : PtyReader) (reads : List PtyRead) :
    drain maxlen (fuel + 1) reader reads = frameLoop maxlen fuel (readPacketFrom maxlen 0 0 reader reads) := rfl

theorem frameLoop_scans (reads : List PtyRead)
    (onward : ∀ escape buf fuel, (reads.map PtyRead.size).sum ≤ fuel + 1 →
      frameLoop maxlen fuel (readPacketFrom maxlen escape 0 ⟨[], buf⟩ reads) = flow maxlen (escape, buf) [] reads)
    (rbuf : List UInt8) (escape : UInt8) (buf : List UInt8) (fuel : Nat)
    (enough : rbuf.length + (reads.map PtyRead.size).sum ≤ fuel + 1) :
    frameLoop maxlen fuel (readPacketFrom maxlen escape 0 ⟨rbuf, buf⟩ reads) = flow maxlen
      (escape, buf) rbuf reads := by
  induction rbuf generalizing escape buf fuel with
  | nil => exact onward escape buf fuel (by simpa using enough)
  | cons ch rest ih =>
      simp only [List.length_cons] at enough
      rcases taken : takeOctet maxlen escape buf ch with ⟨_ | ⟨result, left⟩ | error, d⟩
      · next escape' buf' =>
          rw [readPacketFrom_go maxlen escape escape' 0 buf buf' ch rest d taken reads, frameLoop_after,
            ih escape' buf' fuel (by omega),
            flow_go maxlen (escape, buf) (escape', buf') ch rest d taken reads]
      · rw [readPacketFrom_back maxlen escape 0 buf left ch rest result d taken reads]
        by_cases whole : result > 0
        · rw [flow_frame maxlen (escape, buf) ch rest result left d taken whole reads, frameLoop, if_pos whole]
          congr 1
          cases fuel with
          | zero =>
              have spent : rest = [] := List.eq_nil_of_length_eq_zero (by omega)
              have done : reads = [] := sizes_nil reads (by omega)
              subst spent done
              rfl
          | succ fuel =>
              rw [drain_succ]
              exact ih 0 [] fuel (by omega)
        · rw [flow_short maxlen (escape, buf) ch rest result left d taken whole reads, frameLoop, if_neg whole]
          have len := takeOctet_back maxlen escape buf ch result left d taken
          have empty : left = [] := List.eq_nil_of_length_eq_zero (by omega)
          subst empty
          rw [len]
          rfl
      · have error_neg : ¬ error > 0 := by
          rw [takeOctet_toss maxlen escape buf ch error d taken]
          decide
        rw [readPacketFrom_toss maxlen escape 0 buf ch rest error d taken reads,
          flow_toss maxlen (escape, buf) ch rest error d taken reads,
          frameLoop, if_neg error_neg]

theorem frameLoop_flow (reads : List PtyRead) (delivers : ∀ read ∈ reads, read.Delivers) (rbuf : List UInt8)
    (escape : UInt8) (buf : List UInt8)
    (fuel : Nat) (enough : rbuf.length + (reads.map PtyRead.size).sum ≤ fuel + 1) :
    frameLoop maxlen fuel (readPacketFrom maxlen escape 0 ⟨rbuf, buf⟩ reads) = flow maxlen
      (escape, buf) rbuf reads := by
  induction reads generalizing rbuf escape buf fuel with
  | nil => exact frameLoop_scans maxlen [] (fun _ _ _ _ => rfl) rbuf escape buf fuel enough
  | cons read reads ih =>
      refine frameLoop_scans maxlen (read :: reads) (fun escape buf fuel enough => ?_) rbuf escape buf fuel enough
      simp only [List.map_cons, List.sum_cons] at enough
      cases read with
      | bytes chunk =>
          have later := ih (fun other member => delivers other (List.mem_cons_of_mem _ member)) chunk escape buf fuel
            (by simp only [PtyRead.size] at enough; omega)
          exact later
      | again => rfl
      | failed errno => exact (delivers (.failed errno) List.mem_cons_self).elim

theorem drain_flow (reader : PtyReader) (reads : List PtyRead) (delivers : ∀ read ∈ reads, read.Delivers) :
    drain maxlen (pending reader reads) reader reads = flow maxlen (0, reader.buf) reader.rbuf reads := by
  rcases enough : pending reader reads with _ | fuel
  · unfold pending at enough
    have spent : reader.rbuf = [] := List.eq_nil_of_length_eq_zero (by omega)
    have done : reads = [] := sizes_nil reads (by omega)
    rw [spent, done, flow_nil]
    rcases reader with ⟨rbuf, buf⟩
    simp only at spent
    subst spent
    rfl
  · exact frameLoop_flow maxlen reads delivers reader.rbuf 0 reader.buf fuel (by unfold pending at enough; omega)

end Turn

-- What network_thread makes of a turn: on with the next, or the call is closed.
def onward (maxlen fuel : Nat) (turn : PacketRead) : List Decoded × List PtyReader :=
  if turn.result < 0 then (turn.log, [])
  else (turn.log ++ (turns maxlen fuel turn.reader turn.reads).1,
    turn.reader :: (turns maxlen fuel turn.reader turn.reads).2)

theorem turns_again (maxlen fuel : Nat) (reader : PtyReader) (reads : List PtyRead) :
    turns maxlen fuel reader (.again :: reads) = turns maxlen fuel reader reads := by
  cases fuel <;> simp [turns]

theorem turns_bytes (maxlen fuel : Nat) (buf chunk : List UInt8) (reads : List PtyRead)
    (delivers : ∀ read ∈ PtyRead.bytes chunk :: reads, read.Delivers) :
    turns maxlen (fuel + 1) ⟨[], buf⟩ (.bytes chunk :: reads) = onward maxlen fuel
      (flow maxlen (0, buf) chunk reads) := by
  have ready : (PtyRead.bytes chunk :: reads).dropWhile (· == .again) = .bytes chunk :: reads := rfl
  have turn : drain maxlen (pending ⟨[], buf⟩ (.bytes chunk :: reads)) ⟨[], buf⟩ (.bytes chunk :: reads) = flow maxlen
    (0, buf) chunk reads :=
    drain_flow maxlen ⟨[], buf⟩ (.bytes chunk :: reads) delivers
  rw [turns]
  simp only [ready, turn]
  rfl

theorem onward_after (maxlen fuel : Nat) (log : List Decoded) (turn : PacketRead) :
    onward maxlen fuel (turn.after log) = (log ++ (onward maxlen fuel turn).1, (onward maxlen fuel turn).2) := by
  by_cases tossed : turn.result < 0
  · have same : (turn.after log).result < 0 := tossed
    rw [onward, if_pos same, onward, if_pos tossed]
    rfl
  · have same : ¬ (turn.after log).result < 0 := tossed
    rw [onward, if_neg same, onward, if_neg tossed]
    simp [PacketRead.after]

theorem onward_zero (maxlen fuel : Nat) (log : List Decoded) (reader : PtyReader) (reads : List PtyRead) :
    onward maxlen fuel ⟨log, 0, reader, reads⟩ =
      (log ++ (turns maxlen fuel reader reads).1, reader :: (turns maxlen fuel reader reads).2) :=
  if_neg (by decide : ¬ (0 : Int) < 0)

def streamOf : List PtyRead → List UInt8
  | [] => []
  | .bytes chunk :: reads => chunk ++ streamOf reads
  | _ :: reads => streamOf reads

-- What comes out of the decoder is what comes out of the stream in one piece, and
-- no turn leaves in rbuf what has been read.
def Agrees (run : List Decoded × List PtyReader) (whole : List Decoded) : Prop := run.1 = whole ∧ ∀ reader ∈ run.2,
    reader.rbuf = []

def BoundaryFree (maxlen : Nat) (reads : List PtyRead) : Prop :=
  Agrees (networkThread maxlen reads) (feed (hdlc maxlen) (0, []) (streamOf reads)).2

-- An escape that is forgotten does no harm if the next octet is an escape too, or
-- finds the buffer full.
def unharmed (maxlen : Nat) (buf : List UInt8) : List UInt8 → Bool
  | [] => true
  | ch :: _ => ch == pppEscape || ch != pppFlag && maxlen ≤ buf.length

-- A frame of two octets, no more than its check sequence, is closed and octets of
-- the same read stand behind it.
def shortInside (maxlen : Nat) (s : UInt8 × List UInt8) : List UInt8 → Bool
  | [] => false
  | ch :: rest =>
      ch == pppFlag && s.1 == 0 && s.2.length == 2 && rest != [] ||
        match (hdlc maxlen s ch).1 with
        | none => false
        | some next => shortInside maxlen next rest

-- No read finds nothing right behind an escape that matters, and none brings such
-- a frame with more behind it.
def intact (maxlen : Nat) (s : UInt8 × List UInt8) : List PtyRead → Bool
  | [] => true
  | .bytes chunk :: reads =>
      !shortInside maxlen s chunk &&
        match (feed (hdlc maxlen) s chunk).1 with
        | none => true
        | some next => intact maxlen next reads
  | _ :: reads => (s.1 == 0 || unharmed maxlen s.2 (streamOf reads)) && intact maxlen s reads

section Boundary

variable (maxlen : Nat)

theorem takeOctet_unharmed (escape : UInt8) (buf : List UInt8) (ch : UInt8) (rest : List UInt8)
    (free : unharmed maxlen buf (ch :: rest) = true) : takeOctet maxlen escape buf ch = takeOctet maxlen 0 buf ch := by
  simp only [unharmed, Bool.or_eq_true, Bool.and_eq_true, beq_iff_eq, bne_iff_ne, decide_eq_true_eq] at free
  unfold takeOctet
  rcases free with escaped | ⟨plain, full⟩
  · subst escaped
    simp [pppEscape, pppFlag]
  · have no_room : ¬ buf.length < maxlen := by omega
    simp [plain, no_room]

theorem flow_unharmed (s : UInt8 × List UInt8) (ch : UInt8) (rest : List UInt8) (reads : List PtyRead)
    (free : unharmed maxlen s.2 (ch :: rest ++ streamOf reads) = true) :
    flow maxlen (0, s.2) (ch :: rest) reads = flow maxlen s (ch :: rest) reads := by
  have eaten : eat maxlen (0, s.2) (ch :: rest) = eat maxlen s (ch :: rest) := by
    rw [eat, eat, takeOctet_unharmed maxlen s.1 s.2 ch (rest ++ streamOf reads) free]
  cases reads <;> simp only [flow, eaten]

theorem eat_head (s : UInt8 × List UInt8) (ch : UInt8) (rest : List UInt8) :
    ∃ log, (eat maxlen s (ch :: rest)).1 = (takeOctet maxlen s.1 s.2 ch).2 :: log := by
  rw [eat]
  rcases takeOctet maxlen s.1 s.2 ch with ⟨⟨escape, buf⟩ | ⟨result, left⟩ | error, d⟩
  · exact ⟨_, rfl⟩
  · dsimp only
    split <;> exact ⟨_, rfl⟩
  · exact ⟨_, rfl⟩

theorem flow_head (s : UInt8 × List UInt8) (rbuf : List UInt8) (reads : List PtyRead) :
    ∃ log, (flow maxlen s rbuf reads).log = (eat maxlen s rbuf).1 ++ log := by
  cases reads with
  | nil =>
      rw [flow]
      rcases eat maxlen s rbuf with ⟨log, _ | _ | _⟩ <;> exact ⟨[], (List.append_nil log).symm⟩
  | cons read reads =>
      rw [flow]
      rcases eat maxlen s rbuf with ⟨log, _ | _ | _⟩
      · cases read with
        | bytes chunk => exact ⟨_, rfl⟩
        | again => exact ⟨[], (List.append_nil log).symm⟩
        | failed errno => exact ⟨[], (List.append_nil log).symm⟩
      · exact ⟨[], (List.append_nil log).symm⟩
      · exact ⟨[], (List.append_nil log).symm⟩

theorem onward_head (fuel : Nat) (s : UInt8 × List UInt8) (ch : UInt8) (rest : List UInt8) (reads : List PtyRead) :
    ∃ log, (onward maxlen fuel (flow maxlen s (ch :: rest) reads)).1 = (takeOctet maxlen s.1 s.2 ch).2 :: log := by
  obtain ⟨first, ate⟩ := eat_head maxlen s ch rest
  obtain ⟨later, flowed⟩ := flow_head maxlen s (ch :: rest) reads
  have log : (flow maxlen s (ch :: rest) reads).log = (takeOctet maxlen s.1 s.2 ch).2 :: (first ++ later) := by
    rw [flowed, ate, List.cons_append]
  unfold onward
  split
  · exact ⟨_, log⟩
  · exact ⟨_, by rw [log, List.cons_append]⟩

theorem feed_head (s : UInt8 × List UInt8) (ch : UInt8) (rest : List UInt8) :
    ∃ log, (feed (hdlc maxlen) s (ch :: rest)).2 = (takeOctet maxlen s.1 s.2 ch).2 :: log := by
  rw [feed, hdlc]
  rcases takeOctet maxlen s.1 s.2 ch with ⟨_ | _ | _, d⟩ <;> exact ⟨_, rfl⟩

theorem xor_ne (c escape : UInt8) (some : escape ≠ 0) : c ^^^ escape ≠ c := by
  intro same
  apply some
  have folded : c ^^^ (c ^^^ escape) = c ^^^ c := congrArg (c ^^^ ·) same
  rwa [← UInt8.xor_assoc, UInt8.xor_self, UInt8.zero_xor] at folded

theorem takeOctet_harmed (escape : UInt8) (buf : List UInt8) (ch : UInt8) (rest : List UInt8) (pending : escape ≠ 0)
    (harmed : ¬ unharmed maxlen buf (ch :: rest) = true) : (takeOctet maxlen 0 buf ch).2 ≠
    (takeOctet maxlen escape buf ch).2 := by
  simp only [unharmed, Bool.or_eq_true, Bool.and_eq_true, beq_iff_eq, bne_iff_ne, decide_eq_true_eq, not_or, not_and,
    Nat.not_le] at harmed
  obtain ⟨plain, room⟩ := harmed
  unfold takeOctet
  by_cases flag : ch = pppFlag
  · rw [if_pos flag, if_pos flag, if_neg (by simp), if_pos pending]
    intro same
    split at same
    · dsimp only at same
      split at same <;> cases same
    split at same <;> cases same
  · rw [if_neg flag, if_neg plain, if_pos (room flag), if_neg flag, if_neg plain, if_pos (room flag)]
    intro same
    simp only [Decoded.octet.injEq, UInt8.xor_zero] at same
    exact xor_ne ch escape pending same.symm

theorem takeOctet_closes (escape : UInt8) (buf : List UInt8) (ch : UInt8) (result : Int) (left : List UInt8)
    (d : Decoded)
    (taken : takeOctet maxlen escape buf ch = (.back result left, d)) :
    ch = pppFlag ∧ escape = 0 ∧ (¬ result > 0 ↔ buf.length = 2) := by
  unfold takeOctet at taken
  split at taken
  · next flag =>
      split at taken
      · cases taken
      next quiet =>
      have none : escape = 0 := Decidable.byContradiction quiet
      split at taken
      · next two =>
          cases taken
          refine ⟨flag, none, ?_⟩
          simp only [List.length_take]
          omega
      split at taken
      · next one =>
          cases taken
          refine ⟨flag, none, ?_⟩
          omega
      · cases taken
  · split at taken
    · cases taken
    split at taken <;> cases taken

theorem closes_nothing (s : UInt8 × List UInt8) (ch : UInt8) (rest : List UInt8)
    (stays : ∀ result left, (takeOctet maxlen s.1 s.2 ch).1 ≠ .back result left) :
    (ch == pppFlag && s.1 == 0 && s.2.length == 2 && rest != []) = false := by
  by_cases closed : ch = pppFlag ∧ s.1 = 0 ∧ s.2.length = 2
  · obtain ⟨flag, quiet, two⟩ := closed
    refine absurd ?_ (stays (s.2.take (s.2.length - 2)).length (s.2.take (s.2.length - 2)))
    rw [takeOctet, if_pos flag, quiet, if_neg (by simp), if_pos (by omega)]
  · simp only [Bool.and_eq_false_iff, beq_eq_false_iff_ne]
    tauto

-- What an octet string leaves of a turn, in terms of the machine and of the short
-- frames in it.
def Left.Accounts (s : UInt8 × List UInt8) (rbuf : List UInt8) (log : List Decoded) : Left → Prop
  | .dry next => feed (hdlc maxlen) s rbuf = (some next, log) ∧ shortInside maxlen s rbuf = false
  | .short [] => feed (hdlc maxlen) s rbuf = (some (0, []), log) ∧ shortInside maxlen s rbuf = false
  | .short (_ :: _) => shortInside maxlen s rbuf = true
  | .tossed error _ => feed (hdlc maxlen) s rbuf = (none, log) ∧ shortInside maxlen s rbuf = false ∧ error < 0

theorem accounts_on (s next : UInt8 × List UInt8) (ch : UInt8) (rest : List UInt8) (d : Decoded) (log : List Decoded)
    (left : Left)
    (stepped : hdlc maxlen s ch = (some next, [d]))
    (silent : (ch == pppFlag && s.1 == 0 && s.2.length == 2 && rest != []) = false)
    (later : left.Accounts maxlen next rest log) : left.Accounts maxlen s (ch :: rest) (d :: log) := by
  have fed : feed (hdlc maxlen) s (ch :: rest) =
    ((feed (hdlc maxlen) next rest).1, d :: (feed (hdlc maxlen) next rest).2) := by
    rw [feed, stepped]
    rfl
  have short : shortInside maxlen s (ch :: rest) = shortInside maxlen next rest := by
    rw [shortInside, silent, stepped, Bool.false_or]
  rcases left with next' | ⟨_ | ⟨c, rest'⟩⟩ | ⟨error, buf⟩
  · obtain ⟨fed', short'⟩ := later
    exact ⟨by rw [fed, fed'], by rw [short, short']⟩
  · obtain ⟨fed', short'⟩ := later
    exact ⟨by rw [fed, fed'], by rw [short, short']⟩
  · exact short.trans later
  · obtain ⟨fed', short', negative⟩ := later
    exact ⟨by rw [fed, fed'], by rw [short, short'], negative⟩

theorem eat_accounts (s : UInt8 × List UInt8) (rbuf : List UInt8) :
    (eat maxlen s rbuf).2.Accounts maxlen s rbuf (eat maxlen s rbuf).1 := by
  induction rbuf generalizing s with
  | nil => exact ⟨rfl, rfl⟩
  | cons ch rest ih =>
      rcases taken : takeOctet maxlen s.1 s.2 ch with ⟨⟨escape, buf⟩ | ⟨result, left⟩ | error, d⟩
      · have eaten : eat maxlen s (ch :: rest) =
          (d :: (eat maxlen (escape, buf) rest).1, (eat maxlen (escape, buf) rest).2) := by
          rw [eat, taken]
        have stepped : hdlc maxlen s ch = (some (escape, buf), [d]) := by
          rw [hdlc, taken]
        have silent := closes_nothing maxlen s ch rest (fun _ _ same => by rw [taken] at same; cases same)
        rw [eaten]
        exact accounts_on maxlen s (escape, buf) ch rest d _ _ stepped silent (ih (escape, buf))
      · obtain ⟨flag, quiet, closed⟩ := takeOctet_closes maxlen s.1 s.2 ch result left d taken
        have stepped : hdlc maxlen s ch = (some (0, []), [d]) := by
          rw [hdlc, taken]
        by_cases whole : result > 0
        · have eaten : eat maxlen s (ch :: rest) = (d :: (eat maxlen (0, []) rest).1, (eat maxlen (0, []) rest).2) := by
            rw [eat, taken]
            exact if_pos whole
          have longer : s.2.length ≠ 2 := fun two => closed.mpr two whole
          rw [eaten]
          exact accounts_on maxlen s (0, []) ch rest d _ _ stepped (by simp [longer]) (ih (0, []))
        · have eaten : eat maxlen s (ch :: rest) = ([d], .short rest) := by
            rw [eat, taken]
            exact if_neg whole
          have two := closed.mp whole
          rw [eaten]
          cases rest with
          | nil =>
              refine ⟨?_, ?_⟩
              · rw [feed, stepped]
                rfl
              · rw [shortInside, stepped]
                simp [shortInside]
          | cons c rest =>
              show shortInside maxlen s (ch :: c :: rest) = true
              rw [shortInside, flag, quiet, two]
              rfl
      · have eaten : eat maxlen s (ch :: rest) = ([d], .tossed error s.2) := by
          rw [eat, taken]
        have stepped : hdlc maxlen s ch = (none, [d]) := by
          rw [hdlc, taken]
        rw [eaten]
        refine ⟨?_, ?_, ?_⟩
        · rw [feed, stepped]
        · have silent := closes_nothing maxlen s ch rest (fun _ _ same => by rw [taken] at same; cases same)
          rw [shortInside, silent, stepped]
          rfl
        · rw [takeOctet_toss maxlen s.1 s.2 ch error d taken]
          decide

theorem agrees_cons (log : List Decoded) (run : List Decoded × List PtyReader) (reader : PtyReader)
    (whole : List Decoded)
    (spent : reader.rbuf = []) : Agrees (log ++ run.1, reader :: run.2) (log ++ whole) ↔ Agrees run whole := by
  simp [Agrees, spent]

theorem agrees_after (log : List Decoded) (run : List Decoded × List PtyReader) (whole : List Decoded) :
    Agrees (log ++ run.1, run.2) (log ++ whole) ↔ Agrees run whole := by
  simp [Agrees]

-- What is to be shown of the turns from a turn's end on, where the decoder has
-- forgotten the escape that the machine is in.
def TurnsAgree (fuel : Nat) (reads : List PtyRead) (s : UInt8 × List UInt8) : Prop :=
  Agrees (turns maxlen fuel ⟨[], s.2⟩ reads) (feed (hdlc maxlen) s (streamOf reads)).2 ↔
    (s.1 = 0 ∨ unharmed maxlen s.2 (streamOf reads) = true) ∧ intact maxlen s reads = true

theorem onward_agrees (fuel : Nat)
    (later : ∀ reads : List PtyRead, reads.length ≤ fuel → (∀ read ∈ reads, read.Delivers) → ∀ s,
    TurnsAgree maxlen fuel reads s)
    (reads : List PtyRead) (room : reads.length ≤ fuel) (delivers : ∀ read ∈ reads, read.Delivers)
    (s : UInt8 × List UInt8) (chunk : List UInt8) :
    Agrees (onward maxlen fuel (flow maxlen s chunk reads)) (feed (hdlc maxlen) s (chunk ++ streamOf reads)).2 ↔
      intact maxlen s (.bytes chunk :: reads) = true := by
  have accounts := eat_accounts maxlen s chunk
  rcases eaten : eat maxlen s chunk with ⟨log, next | ⟨_ | ⟨c, rest⟩⟩ | ⟨error, buf⟩⟩ <;> rw [eaten] at accounts
  case dry =>
    obtain ⟨fed, silent⟩ := accounts
    have split_at : (feed (hdlc maxlen) s (chunk ++ streamOf reads)).2 = log ++
      (feed (hdlc maxlen) next (streamOf reads)).2 := by
      rw [feed_append, fed]
      rfl
    have whole : intact maxlen s (.bytes chunk :: reads) = intact maxlen next reads := by
      rw [intact, silent, fed]
      rfl
    rw [split_at, whole]
    cases reads with
    | nil =>
        have ended : flow maxlen s chunk [] = ⟨log, 0, ⟨[], next.2⟩, []⟩ := by
          simp only [flow, eaten]
        have spent : turns maxlen fuel ⟨[], next.2⟩ [] = ([], []) := by
          cases fuel <;> rfl
        rw [ended, onward_zero, spent]
        simp [Agrees, streamOf, feed, intact]
    | cons read reads =>
        have rest_delivers : ∀ other ∈ reads, other.Delivers := fun other member =>
          delivers other (List.mem_cons_of_mem _ member)
        have rest_room : reads.length ≤ fuel := (Nat.le_succ _).trans room
        cases read with
        | bytes chunk' =>
            have going : flow maxlen s chunk (.bytes chunk' :: reads) = (flow maxlen next chunk' reads).after log := by
              simp only [flow, eaten]
            rw [going, onward_after, agrees_after]
            exact onward_agrees fuel later reads rest_room rest_delivers next chunk'
        | again =>
            have ended : flow maxlen s chunk (.again :: reads) = ⟨log, 0, ⟨[], next.2⟩, reads⟩ := by
              simp only [flow, eaten]
            rw [ended, onward_zero, agrees_cons log (turns maxlen fuel ⟨[], next.2⟩ reads) _ _ rfl]
            refine (later reads rest_room rest_delivers next).trans ?_
            simp [intact]
        | failed errno => exact (delivers (.failed errno) List.mem_cons_self).elim
  case short.nil =>
    obtain ⟨fed, silent⟩ := accounts
    have split_at : (feed (hdlc maxlen) s (chunk ++ streamOf reads)).2 = log ++
      (feed (hdlc maxlen) (0, []) (streamOf reads)).2 := by
      rw [feed_append, fed]
      rfl
    have whole : intact maxlen s (.bytes chunk :: reads) = intact maxlen (0, []) reads := by
      rw [intact, silent, fed]
      rfl
    have ended : flow maxlen s chunk reads = ⟨log, 0, ⟨[], []⟩, reads⟩ := by
      cases reads <;> simp only [flow, eaten]
    rw [split_at, whole, ended, onward_zero, agrees_cons log (turns maxlen fuel ⟨[], []⟩ reads) _ _ rfl]
    refine (later reads room delivers (0, [])).trans ?_
    simp
  case short.cons =>
    have broken : intact maxlen s (.bytes chunk :: reads) = false := by
      rw [intact, show shortInside maxlen s chunk = true from accounts]
      rfl
    have ended : flow maxlen s chunk reads = ⟨log, 0, ⟨c :: rest, []⟩, reads⟩ := by
      cases reads <;> simp only [flow, eaten]
    rw [broken, ended, onward_zero]
    simp [Agrees]
  case tossed =>
    obtain ⟨fed, silent, negative⟩ := accounts
    have ended : flow maxlen s chunk reads = ⟨log, error, ⟨[], buf⟩, reads⟩ := by
      cases reads <;> simp only [flow, eaten]
    have split_at : (feed (hdlc maxlen) s (chunk ++ streamOf reads)).2 = log := by
      rw [feed_append, fed]
      rfl
    rw [intact, silent, fed, ended, onward, if_pos negative, split_at]
    simp [Agrees]
termination_by reads.length

theorem turns_agree (fuel : Nat) (reads : List PtyRead) (room : reads.length ≤ fuel)
    (delivers : ∀ read ∈ reads, read.Delivers)
    (s : UInt8 × List UInt8) : TurnsAgree maxlen fuel reads s := by
  have none (fuel : Nat) (s : UInt8 × List UInt8) : TurnsAgree maxlen fuel [] s := by
    have spent : turns maxlen fuel ⟨[], s.2⟩ [] = ([], []) := by
      cases fuel <;> rfl
    simp [TurnsAgree, spent, Agrees, streamOf, feed, intact, unharmed]
  induction fuel generalizing reads s with
  | zero =>
      have empty := List.eq_nil_of_length_eq_zero (Nat.le_zero.mp room)
      subst empty
      exact none 0 s
  | succ fuel ih =>
      induction reads generalizing s with
      | nil => exact none (fuel + 1) s
      | cons read reads waiting =>
          have rest_delivers : ∀ other ∈ reads, other.Delivers := fun other member =>
            delivers other (List.mem_cons_of_mem _ member)
          cases read with
          | failed errno => exact (delivers (.failed errno) List.mem_cons_self).elim
          | again =>
              have later := waiting ((Nat.le_succ _).trans room) rest_delivers s
              unfold TurnsAgree at later ⊢
              rw [turns_again]
              refine later.trans ?_
              simp [streamOf, intact]
          | bytes chunk =>
              have rest_room : reads.length ≤ fuel := Nat.le_of_succ_le_succ room
              have go := onward_agrees maxlen fuel ih reads rest_room rest_delivers
              unfold TurnsAgree
              rw [turns_bytes maxlen fuel s.2 chunk reads delivers]
              show Agrees _ (feed (hdlc maxlen) s (chunk ++ streamOf reads)).2 ↔
                (s.1 = 0 ∨ unharmed maxlen s.2 (chunk ++ streamOf reads) = true) ∧ _
              obtain ⟨ch, rest, rfl⟩ := List.exists_cons_of_ne_nil (delivers (.bytes chunk) List.mem_cons_self).1
              by_cases quiet : s.1 = 0
              · have same : ((0 : UInt8), s.2) = s := by rw [← quiet]
                rw [same]
                exact (go s (ch :: rest)).trans (iff_and_self.mpr fun _ => Or.inl quiet)
              by_cases free : unharmed maxlen s.2 (ch :: rest ++ streamOf reads) = true
              · have same : flow maxlen (0, s.2) (ch :: rest) reads = flow maxlen s (ch :: rest) reads :=
                  flow_unharmed maxlen s ch rest reads free
                rw [same]
                exact (go s (ch :: rest)).trans (iff_and_self.mpr fun _ => Or.inr free)
              · refine iff_of_false (fun agrees => ?_) (fun both => both.1.elim quiet free)
                have other := takeOctet_harmed maxlen s.1 s.2 ch (rest ++ streamOf reads) quiet free
                obtain ⟨log, turned⟩ := onward_head maxlen fuel (0, s.2) ch rest reads
                obtain ⟨log', fed⟩ := feed_head maxlen s ch (rest ++ streamOf reads)
                have heads : (takeOctet maxlen 0 s.2 ch).2 :: log = (takeOctet maxlen s.1 s.2 ch).2 :: log' :=
                  turned.symm.trans (agrees.1.trans fed)
                exact other (List.cons.inj heads).1

end Boundary

theorem sizes_length (reads : List PtyRead) : reads.length ≤ (reads.map PtyRead.size).sum := by
  induction reads with
  | nil => exact Nat.le_refl 0
  | cons read reads ih =>
      have := size_pos read
      simp only [List.length_cons, List.map_cons, List.sum_cons]
      omega

-- The reads leave no trace on what is decoded exactly when they are intact.
theorem boundary_free_iff (maxlen : Nat) (reads : List PtyRead) (delivers : ∀ read ∈ reads, read.Delivers) :
    BoundaryFree maxlen reads ↔ intact maxlen (0, []) reads = true := by
  have room : reads.length ≤ pending ⟨[], []⟩ reads := by
    have := sizes_length reads
    unfold pending
    omega
  refine (turns_agree maxlen (pending ⟨[], []⟩ reads) reads room delivers (0, [])).trans ?_
  simp

theorem boundary_free_between_frames :
    (∀ read ∈ [PtyRead.bytes [0x7e, 0x41, 0x7d], .bytes [0x31, 0x43, 0x44, 0x7e], .again,
    .bytes [0x42, 0x43, 0x44, 0x7e]], read.Delivers) ∧
      (networkThread 4096 [.bytes [0x7e, 0x41, 0x7d], .bytes [0x31, 0x43, 0x44, 0x7e], .again,
        .bytes [0x42, 0x43, 0x44, 0x7e]]).1.filter
        (fun d => match d with | .frame _ => true | _ => false) = [.frame [0x41, 0x11], .frame [0x42]] ∧
      BoundaryFree 4096 [.bytes [0x7e, 0x41, 0x7d], .bytes [0x31, 0x43, 0x44, 0x7e], .again,
        .bytes [0x42, 0x43, 0x44, 0x7e]] := by
  have delivers : ∀ read ∈ [PtyRead.bytes [0x7e, 0x41, 0x7d], .bytes [0x31, 0x43, 0x44, 0x7e], .again,
    .bytes [0x42, 0x43, 0x44, 0x7e]],
      read.Delivers := by
    simp [PtyRead.Delivers, maxRecvSize]
  exact ⟨delivers, by decide +kernel, (boundary_free_iff 4096 _ delivers).mpr (by decide +kernel)⟩

-- The escape and the octet it is for come in two reads, with nothing to read
-- between them.
theorem escape_forgotten_on_would_block :
    (∀ read ∈ [PtyRead.bytes [0x7e, 0x41, 0x42, 0x7d], .again, .bytes [0x31, 0x43, 0x44, 0x7e]], read.Delivers) ∧
      Decoded.frame [0x41, 0x42, 0x31] ∈ (networkThread 4096
        [.bytes [0x7e, 0x41, 0x42, 0x7d], .again, .bytes [0x31, 0x43, 0x44, 0x7e]]).1 ∧
      ¬ BoundaryFree 4096 [.bytes [0x7e, 0x41, 0x42, 0x7d], .again, .bytes [0x31, 0x43, 0x44, 0x7e]] := by
  refine ⟨by simp [PtyRead.Delivers, maxRecvSize], by decide +kernel, fun free => ?_⟩
  have log := free.1
  revert log
  decide +kernel

end ZyAgf.Xl2tpd
