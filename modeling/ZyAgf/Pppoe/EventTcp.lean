import ZyAgf.Library.Run
import ZyAgf.Pppoe.StringCopy

set_option autoImplicit false

namespace ZyAgf.Pppoe.EventTcp

inductive Errno where
  | again | connReset | other
  deriving DecidableEq

-- How a stream ends: the peer closes it, or reading it fails from then on.
inductive Ending where
  | closed | reset | failed
  deriving DecidableEq

-- What the kernel holds for a non-blocking socket.
structure Socket where
  queue : List UInt8
  ending : Option Ending

inductive Nread where
  | count (n : Nat)
  | failed (errno : Errno)
  deriving DecidableEq

def atEnd : Option Ending → Nread
  | none => .failed .again
  | some .closed => .count 0
  | some .reset => .failed .connReset
  | some .failed => .failed .other

def read (socket : Socket) (count : Nat) : Nread × List UInt8 × Socket :=
  match socket.queue with
  | [] => (atEnd socket.ending, [], socket)
  | _ :: _ =>
      let bytes := socket.queue.take count
      (.count bytes.length, bytes, { socket with queue := socket.queue.drop count })

-- EVENT_TCP_FLAG_COMPLETE and so on.
inductive Flag where
  | complete | ioError | eof | timeout
  deriving DecidableEq

-- cur is how far the pointer is from buf.
structure EventTcpState where
  buf : List UInt8
  cur : Nat
  len : Nat
  delim : Int

-- The arguments of the callback: the buffer, how much of it is filled, and why.
structure Call where
  buf : List UInt8
  len : Nat
  flag : Flag

-- A char is signed here, as it is for gcc on most machines.
def charValue (byte : UInt8) : Int :=
  if byte.toNat < 128 then byte.toNat else (byte.toNat : Int) - 256

-- The loop that looks for a delimiter. There is no result where it stores
-- outside the buffer.
def readLoop (delim : Int) : Nat → Socket → List UInt8 → Nat → Nread → Option (Socket × List UInt8 × Nat × Nread)
  | 0, socket, buf, cur, nread => some (socket, buf, cur, nread)
  | togo + 1, socket, buf, cur, _ =>
      match read socket 1 with
      | (nread, [byte], socket) => do
          let buf ← store buf cur byte
          if charValue byte = delim then some (socket, buf, cur + 1, nread)
          else readLoop delim togo socket buf (cur + 1) nread
      | (nread, _, socket) => some (socket, buf, cur, nread)

def storeAll : List UInt8 → Nat → List UInt8 → Option (List UInt8)
  | buf, _, [] => some buf
  | buf, cur, byte :: bytes => do
      let buf ← store buf cur byte
      storeAll buf (cur + 1) bytes

-- The callback is called where the result has a call; free_state then takes the
-- handler away.
def handleReadable (timedOut : Bool) (socket : Socket) (state : EventTcpState) :
    Option (Socket × EventTcpState × Option Call) :=
  let done := state.cur
  let togo := state.len - done
  if timedOut then some (socket, state, some ⟨state.buf, done, .timeout⟩)
  else if state.delim < 0 then
    match read socket togo with
    | (.failed errno, _, socket) =>
        some (socket, state, some ⟨state.buf, done, if errno = .connReset ∧ 0 < done then .eof else .ioError⟩)
    | (.count 0, _, socket) => some (socket, state, some ⟨state.buf, done, .eof⟩)
    | (.count (n + 1), bytes, socket) => do
        let buf ← storeAll state.buf state.cur bytes
        let done := done + (n + 1)
        return (socket, { state with buf := buf, cur := done },
          if state.len ≤ done then some ⟨buf, done, .complete⟩ else none)
  else do
    let (socket, buf, cur, nread) ← readLoop state.delim togo socket state.buf state.cur (.count 0)
    return (socket, { state with buf := buf, cur := cur },
      match nread with
      | .failed .again => none
      | .failed _ => some ⟨buf, cur, .ioError⟩
      | .count 0 => some ⟨buf, cur, .eof⟩
      | .count (_ + 1) => some ⟨buf, cur, .complete⟩)

def eventTcpReadBuf (heap : Nat → UInt8) (socket len delim : Int) : Option EventTcpState :=
  if len ≤ 0 then none
  else if socket < 0 then none
  else some ⟨(List.range len.toNat).map heap, 0, len.toNat, delim⟩

-- The reader between the kernel and the event loop. Bytes arrive and the stream
-- ends when the peer says so; the loop reports the socket readable at any time.
structure World where
  socket : Socket
  reader : Option EventTcpState
  calls : List Call

inductive Event where
  | arrive (bytes : List UInt8)
  | ends (ending : Ending)
  | ready

def step (world : World) : Event → Option World
  | .arrive bytes =>
      if world.socket.ending = none then
        some { world with socket := { world.socket with queue := world.socket.queue ++ bytes } }
      else none
  | .ends ending =>
      if world.socket.ending = none then some { world with socket := { world.socket with ending := some ending } }
        else none
  | .ready =>
      match world.reader with
      | none => some world
      | some state => do
          let (socket, state, call) ← handleReadable false world.socket state
          return ⟨socket, if call.isNone then some state else none, world.calls ++ call.toList⟩

def started (state : EventTcpState) : World :=
  ⟨⟨[], none⟩, some state, []⟩

def arrivedBy : Event → List UInt8
  | .arrive bytes => bytes
  | .ends _ => []
  | .ready => []

def arrived (visits : List (World × Event)) : List UInt8 :=
  visits.flatMap fun visit => arrivedBy visit.2

-- What the reader has to do: report the bytes through the first delimiter or the
-- first len bytes, whichever is shorter, or all there is when the stream ends before.
def isDelim (delim : Int) (byte : UInt8) : Bool :=
  (byte.toNat : Int) == delim

def reach (len : Nat) (delim : Int) (stream : List UInt8) : Nat :=
  min (stream.findIdx (isDelim delim) + 1) len

def flagOf : Ending → Flag
  | .closed => .eof
  | .reset => .ioError
  | .failed => .ioError

def expected (len : Nat) (delim : Int) (stream : List UInt8) (ending : Option Ending) : List
    (Nat × List UInt8 × Flag) :=
  let upTo := reach len delim stream
  if upTo ≤ stream.length then [(upTo, stream.take upTo, .complete)]
  else match ending with
    | none => []
    | some ending => [(stream.length, stream, flagOf ending)]

def told (call : Call) : Nat × List UInt8 × Flag :=
  (call.len, call.buf.take call.len, call.flag)

theorem charValue_ascii (delim : Int) (byte : UInt8) (ascii : 0 ≤ delim ∧ delim ≤ 127) :
    charValue byte = delim ↔ isDelim delim byte = true := by
  have small := byte.toNat_lt
  simp only [charValue, isDelim, beq_iff_eq]
  split <;> omega

theorem read_cons (byte : UInt8) (queue : List UInt8) (ending : Option Ending) :
    read ⟨byte :: queue, ending⟩ 1 = (.count 1, [byte], ⟨queue, ending⟩) := rfl

theorem reach_cons (togo : Nat) (delim : Int) (byte : UInt8) (queue : List UInt8) (other : isDelim delim byte = false) :
    reach (togo + 1) delim (byte :: queue) = reach togo delim queue + 1 := by
  rw [reach, reach, List.findIdx_cons, other, cond_false, Nat.succ_min_succ]

theorem readLoop_enough (delim : Int) (togo : Nat) (queue front room : List UInt8) (ending : Option Ending)
    (nread : Nread)
    (ascii : 0 ≤ delim ∧ delim ≤ 127) (roomy : togo ≤ room.length) (before : togo = 0 → nread = .count 1)
    (there : reach togo delim queue ≤ queue.length) :
    readLoop delim togo ⟨queue, ending⟩ (front ++ room) front.length nread =
      some (⟨queue.drop (reach togo delim queue), ending⟩,
        front ++ (queue.take (reach togo delim queue) ++ room.drop (reach togo delim queue)),
        front.length + reach togo delim queue, .count 1) := by
  induction togo generalizing queue front room nread with
  | zero =>
      have none' : reach 0 delim queue = 0 := Nat.min_zero _
      rw [none', readLoop, before rfl]
      rfl
  | succ togo ih =>
      obtain ⟨c, room, rfl⟩ := List.exists_cons_of_ne_nil
        (List.ne_nil_of_length_pos (Nat.lt_of_lt_of_le (Nat.succ_pos _) roomy))
      cases queue with
      | nil =>
          have one : reach (togo + 1) delim [] = 1 := by
            change min (0 + 1) (togo + 1) = 1
            omega
          rw [one] at there
          exact absurd there (by decide)
      | cons byte queue =>
          rw [readLoop, read_cons]
          dsimp only
          rw [store_append]
          simp only [Option.bind_eq_bind, Option.bind_some]
          by_cases found : isDelim delim byte = true
          · have one : reach (togo + 1) delim (byte :: queue) = 1 := by
              rw [reach, List.findIdx_cons, found, cond_true]
              omega
            rw [if_pos ((charValue_ascii delim byte ascii).mpr found), one]
            rfl
          · have other : isDelim delim byte = false := by simpa using found
            rw [reach_cons togo delim byte queue other] at there ⊢
            have later := ih queue (front ++ [byte]) room (.count 1) (by simpa using roomy) (fun _ => rfl)
              (by simpa using there)
            simp only [List.length_append, List.length_singleton, List.append_assoc, List.singleton_append] at later
            rw [if_neg (fun same => found ((charValue_ascii delim byte ascii).mp same)), later]
            simp only [List.take_succ_cons, List.drop_succ_cons, List.cons_append, Nat.add_assoc, Nat.add_comm 1]

theorem readLoop_short (delim : Int) (togo : Nat) (queue front room : List UInt8) (ending : Option Ending)
    (nread : Nread)
    (ascii : 0 ≤ delim ∧ delim ≤ 127) (roomy : togo ≤ room.length) (short : queue.length < reach togo delim queue) :
    readLoop delim togo ⟨queue, ending⟩ (front ++ room) front.length nread =
      some (⟨[], ending⟩, front ++ (queue ++ room.drop queue.length), front.length + queue.length, atEnd ending) := by
  induction togo generalizing queue front room nread with
  | zero =>
      have none' : reach 0 delim queue = 0 := Nat.min_zero _
      rw [none'] at short
      cases short
  | succ togo ih =>
      obtain ⟨c, room, rfl⟩ := List.exists_cons_of_ne_nil
        (List.ne_nil_of_length_pos (Nat.lt_of_lt_of_le (Nat.succ_pos _) roomy))
      cases queue with
      | nil =>
          rw [readLoop]
          rfl
      | cons byte queue =>
          have other : isDelim delim byte = false := by
            cases found : isDelim delim byte with
            | false => rfl
            | true =>
                rw [reach, List.findIdx_cons, found, cond_true, List.length_cons] at short
                omega
          rw [readLoop, read_cons]
          dsimp only
          rw [store_append]
          simp only [Option.bind_eq_bind, Option.bind_some]
          rw [reach_cons togo delim byte queue other, List.length_cons] at short
          have later := ih queue (front ++ [byte]) room (.count 1) (by simpa using roomy) (Nat.lt_of_succ_lt_succ short)
          simp only [List.length_append, List.length_singleton, List.append_assoc, List.singleton_append] at later
          rw [if_neg (fun same => by rw [(charValue_ascii delim byte ascii).mp same] at other; cases other), later]
          simp only [List.length_cons, List.drop_succ_cons, List.cons_append, Nat.add_assoc, Nat.add_comm 1]

theorem reach_le (len : Nat) (delim : Int) (stream : List UInt8) : reach len delim stream ≤ len :=
  Nat.min_le_right _ _

theorem reach_append (len : Nat) (delim : Int) (stream more : List UInt8)
    (there : reach len delim stream ≤ stream.length) :
    reach len delim (stream ++ more) = reach len delim stream := by
  unfold reach at there ⊢
  rw [List.findIdx_append]
  split
  · rfl
  · next absent => omega

theorem reach_behind (len : Nat) (delim : Int) (front queue : List UInt8) (room : front.length ≤ len)
    (clean : ∀ byte ∈ front, isDelim delim byte = false) :
    reach len delim (front ++ queue) = front.length + reach (len - front.length) delim queue := by
  have none' : front.findIdx (isDelim delim) = front.length := List.findIdx_eq_length.mpr clean
  unfold reach
  rw [List.findIdx_append, none', if_neg (Nat.lt_irrefl _)]
  omega

theorem clean_of_short (len : Nat) (delim : Int) (stream : List UInt8)
    (short : stream.length < reach len delim stream) :
    ∀ byte ∈ stream, isDelim delim byte = false := by
  refine List.findIdx_eq_length.mp ?_
  have most : stream.findIdx (isDelim delim) ≤ stream.length := List.findIdx_le_length
  unfold reach at short
  omega

-- While the reader waits, what it has stored and what is queued are the stream,
-- and the delimiter is not among what it has stored.
structure Waits (len : Nat) (delim : Int) (stream : List UInt8) (world : World) (state : EventTcpState)
    (front room : List UInt8) : Prop where
  reads : world.reader = some state
  quiet : world.calls = []
  limit : state.len = len
  looks : state.delim = delim
  stored : state.buf = front ++ room
  cursor : state.cur = front.length
  whole : front.length + room.length = len
  more : 0 < room.length
  stream : front ++ world.socket.queue = stream
  clean : ∀ byte ∈ front, isDelim delim byte = false

-- Afterwards it is gone, with one call behind it.
structure Told (len : Nat) (delim : Int) (stream : List UInt8) (world : World) (call : Call) : Prop where
  gone : world.reader = none
  once : world.calls = [call]
  right : [told call] = expected len delim stream world.socket.ending
  rest : world.socket.queue = stream.drop call.len

def Reads (len : Nat) (delim : Int) (stream : List UInt8) (world : World) : Prop :=
  (∃ state front room, Waits len delim stream world state front room) ∨ ∃ call, Told len delim stream world call

theorem expected_enough (len : Nat) (delim : Int) (stream : List UInt8) (ending : Option Ending)
    (there : reach len delim stream ≤ stream.length) :
    expected len delim stream ending = [(reach len delim stream, stream.take (reach len delim stream), .complete)] :=
  if_pos there

theorem expected_short (len : Nat) (delim : Int) (stream : List UInt8) (ending : Ending)
    (short : stream.length < reach len delim stream) :
    expected len delim stream (some ending) = [(stream.length, stream, flagOf ending)] :=
  if_neg (Nat.not_le.mpr short)

theorem ready_reads (len : Nat) (delim : Int) (stream : List UInt8) (world : World)
    (ascii : 0 ≤ delim ∧ delim ≤ 127) (reads : Reads len delim stream world) :
    ∃ after, step world .ready = some after ∧ Reads len delim stream after ∧
      after.calls.map told = expected len delim stream after.socket.ending ∧
        after.socket.ending = world.socket.ending := by
  rcases reads with ⟨state, front, room, waits⟩ | ⟨call, tells⟩
  · obtain ⟨⟨queue, ending⟩, reader, calls⟩ := world
    obtain ⟨rfl, rfl, limit, looks, stored, cursor, whole, more, joined, clean⟩ := waits
    dsimp only at joined
    obtain ⟨buf, cur, len', delim'⟩ := state
    dsimp only at limit looks stored cursor
    subst limit looks stored cursor
    have togo : len' - front.length = room.length := by omega
    have reaches : reach len' delim' stream = front.length + reach room.length delim' queue := by
      rw [← joined, reach_behind len' delim' front queue (by omega) clean, togo]
    have size : stream.length = front.length + queue.length := by rw [← joined, List.length_append]
    have looking : ¬ delim' < 0 := by omega
    have within := reach_le room.length delim' queue
    simp only [step, handleReadable, Bool.false_eq_true, if_false, if_neg looking, togo]
    by_cases there : reach room.length delim' queue ≤ queue.length
    · have there' : reach len' delim' stream ≤ stream.length := by omega
      rw [readLoop_enough delim' room.length queue front room ending (.count 0) ascii (Nat.le_refl _) (by omega) there]
      have taken : stream.take (reach len' delim' stream) = front ++ queue.take (reach room.length delim' queue) := by
        rw [reaches, ← joined, List.take_length_add_append]
      have right := expected_enough len' delim' stream ending there'
      have reported : (front ++ (queue.take (reach room.length delim' queue) ++ room.drop
        (reach room.length delim' queue))).take
          (front.length + reach room.length delim' queue) = stream.take (reach len' delim' stream) := by
        rw [taken, List.take_length_add_append]
        congr 1
        rw [List.take_append_of_le_length (by rw [List.length_take]; omega), List.take_take, Nat.min_self]
      have shown : told ⟨front ++ (queue.take (reach room.length delim' queue) ++ room.drop
        (reach room.length delim' queue)),
          front.length + reach room.length delim' queue, .complete⟩ =
          (reach len' delim' stream, stream.take (reach len' delim' stream), .complete) := by
        rw [told, reported, reaches]
      refine ⟨_, rfl, .inr ⟨_, rfl, rfl, ?_, ?_⟩, ?_, rfl⟩
      · exact (congrArg (fun shown => [shown]) shown).trans right.symm
      · change queue.drop _ = stream.drop _
        rw [← joined, List.drop_length_add_append]
      · exact (congrArg (fun shown => [shown]) shown).trans right.symm
    · have short : queue.length < reach room.length delim' queue := by omega
      have short' : stream.length < reach len' delim' stream := by omega
      rw [readLoop_short delim' room.length queue front room ending (.count 0) ascii (Nat.le_refl _) short]
      have reported : (front ++ (queue ++ room.drop queue.length)).take (front.length + queue.length) = stream := by
        rw [List.take_length_add_append, List.take_left, joined]
      cases ending with
      | none =>
          refine ⟨_, rfl, .inl ⟨_, front ++ queue, room.drop queue.length, rfl, rfl, rfl, rfl, ?_, ?_, ?_, ?_, ?_, ?_⟩,
            ?_, rfl⟩
          · exact (List.append_assoc _ _ _).symm
          · exact (List.length_append ..).symm
          · rw [List.length_append, List.length_drop]
            omega
          · rw [List.length_drop]
            omega
          · exact (List.append_nil _).trans joined
          · rw [joined]
            exact clean_of_short len' delim' stream short'
          · exact (if_neg (Nat.not_le.mpr short')).symm
      | some ending =>
          have right := expected_short len' delim' stream ending short'
          have shown : told ⟨front ++ (queue ++ room.drop queue.length), front.length + queue.length, flagOf ending⟩ =
              (stream.length, stream, flagOf ending) := by
            rw [told, reported, size]
          have empty : ([] : List UInt8) = stream.drop (front.length + queue.length) := by
            rw [← size, List.drop_length]
          cases ending <;>
            exact ⟨_, rfl, .inr ⟨_, rfl, rfl, (congrArg (fun shown => [shown]) shown).trans right.symm, empty⟩,
              (congrArg (fun shown => [shown]) shown).trans right.symm, rfl⟩
  · have stays : step world .ready = some world := by
      rw [step, tells.gone]
    refine ⟨world, stays, .inr ⟨call, tells⟩, ?_, rfl⟩
    rw [tells.once]
    exact tells.right

theorem told_early (len : Nat) (delim : Int) (stream : List UInt8) (world : World) (call : Call)
    (tells : Told len delim stream world call) (going : world.socket.ending = none) :
    reach len delim stream ≤ stream.length ∧
      told call = (reach len delim stream, stream.take (reach len delim stream), .complete) := by
  have right := tells.right
  rw [going] at right
  by_cases there : reach len delim stream ≤ stream.length
  · rw [expected_enough len delim stream none there] at right
    exact ⟨there, List.head_eq_of_cons_eq right⟩
  · rw [expected, if_neg there] at right
    cases right

theorem arrive_reads (len : Nat) (delim : Int) (stream bytes : List UInt8) (world after : World)
    (reads : Reads len delim stream world) (arrives : step world (.arrive bytes) = some after) :
    Reads len delim (stream ++ bytes) after := by
  by_cases going : world.socket.ending = none
  · rw [step, if_pos going] at arrives
    obtain rfl := Option.some.inj arrives
    rcases reads with ⟨state, front, room, waits⟩ | ⟨call, tells⟩
    · refine .inl ⟨state, front, room, { waits with stream := ?_ }⟩
      rw [← waits.stream, List.append_assoc]
    · obtain ⟨there, shown⟩ := told_early len delim stream world call tells going
      have there' : reach len delim (stream ++ bytes) ≤ (stream ++ bytes).length := by
        rw [reach_append len delim stream bytes there, List.length_append]
        omega
      have length : call.len = reach len delim stream := congrArg Prod.fst shown
      refine .inr ⟨call, tells.gone, tells.once, ?_, ?_⟩
      · rw [shown, expected_enough len delim (stream ++ bytes) _ there', reach_append len delim stream bytes there,
          List.take_append_of_le_length there]
      · rw [length, List.drop_append_of_le_length there, ← length, ← tells.rest]
  · rw [step, if_neg going] at arrives
    cases arrives

theorem ends_reads (len : Nat) (delim : Int) (stream : List UInt8) (ending : Ending) (world after : World)
    (reads : Reads len delim stream world) (ends : step world (.ends ending) = some after) :
    Reads len delim stream after := by
  by_cases going : world.socket.ending = none
  · rw [step, if_pos going] at ends
    obtain rfl := Option.some.inj ends
    rcases reads with ⟨state, front, room, waits⟩ | ⟨call, tells⟩
    · exact .inl ⟨state, front, room, { waits with }⟩
    · obtain ⟨there, shown⟩ := told_early len delim stream world call tells going
      refine .inr ⟨call, tells.gone, tells.once, ?_, tells.rest⟩
      rw [shown, expected_enough len delim stream _ there]
  · rw [step, if_neg going] at ends
    cases ends

theorem arrived_snoc (visits : List (World × Event)) (world : World) (event : Event) :
    arrived (visits ++ [(world, event)]) = arrived visits ++ arrivedBy event := by
  simp [arrived]

theorem run_reads (len : Nat) (delim : Int) (start : World) (ascii : 0 ≤ delim ∧ delim ≤ 127)
    (fresh : Reads len delim [] start) (visits : List (World × Event)) (world : World)
    (run : Run step start visits world) : Reads len delim (arrived visits) world := by
  induction run with
  | start => exact fresh
  | snoc visits world after event _ taken reads =>
      rw [arrived_snoc]
      cases event with
      | arrive bytes => exact arrive_reads len delim _ bytes world after reads taken
      | ends ending =>
          rw [arrivedBy, List.append_nil]
          exact ends_reads len delim _ ending world after reads taken
      | ready =>
          obtain ⟨after', step', reads', _⟩ := ready_reads len delim _ world ascii reads
          obtain rfl := Option.some.inj (step'.symm.trans taken)
          rw [arrivedBy, List.append_nil]
          exact reads'

theorem started_reads (heap : Nat → UInt8) (socket len delim : Int) (state : EventTcpState)
    (set : eventTcpReadBuf heap socket len delim = some state) : Reads len.toNat delim [] (started state) := by
  by_cases positive : len ≤ 0
  · rw [eventTcpReadBuf, if_pos positive] at set
    cases set
  · rw [eventTcpReadBuf, if_neg positive] at set
    by_cases number : socket < 0
    · rw [if_pos number] at set
      cases set
    · rw [if_neg number] at set
      obtain rfl := Option.some.inj set
      have size : ((List.range len.toNat).map heap).length = len.toNat := by simp
      refine .inl ⟨_, [], (List.range len.toNat).map heap, rfl, rfl, rfl, rfl, rfl, rfl, ?_, ?_, rfl, ?_⟩
      · rw [size]
        exact Nat.zero_add _
      · rw [size]
        omega
      · exact fun byte member => absurd member List.not_mem_nil

-- Whatever came in which pieces, and however often the loop looked in between.
theorem delimited_reads (heap : Nat → UInt8) (socket len delim : Int) (state : EventTcpState)
    (ascii : 0 ≤ delim ∧ delim ≤ 127) (set : eventTcpReadBuf heap socket len delim = some state)
    (visits : List (World × Event)) (world : World) (run : Run step (started state) visits world) :
    (∃ after, step world .ready = some after ∧
      after.calls.map told = expected len.toNat delim (arrived visits) world.socket.ending) ∧
    ((world.calls = [] ∧ ∃ state', world.reader = some state' ∧
        state'.buf.take state'.cur ++ world.socket.queue = arrived visits) ∨
      ∃ call, world.calls = [call] ∧ world.reader = none ∧ world.socket.queue = (arrived visits).drop call.len ∧
        [told call] = expected len.toNat delim (arrived visits) world.socket.ending) := by
  have reads := run_reads len.toNat delim (started state) ascii
    (started_reads heap socket len delim state set) visits world run
  obtain ⟨after, ready, _, calls, ending⟩ := ready_reads len.toNat delim _ world ascii reads
  rw [ending] at calls
  refine ⟨⟨after, ready, calls⟩, ?_⟩
  rcases reads with ⟨state', front, room, waits⟩ | ⟨call, tells⟩
  · refine .inl ⟨waits.quiet, state', waits.reads, ?_⟩
    rw [waits.stored, waits.cursor, List.take_left, waits.stream]
  · exact .inr ⟨call, tells.once, tells.gone, tells.rest, tells.right⟩

-- A line of three bytes in two pieces, with what follows it left in the socket.
def lineReader : EventTcpState :=
  ⟨[0, 0, 0, 0, 0], 0, 5, 10⟩

def lineEvents : List Event :=
  [.arrive [104], .ready, .ready, .arrive [105, 10, 7]]

def lineWorld : World :=
  ⟨⟨[105, 10, 7], none⟩, some ⟨[104, 0, 0, 0, 0], 1, 5, 10⟩, []⟩

theorem delimited_reads_line :
    ∃ after, step lineWorld .ready = some after ∧ after.calls.map told = [(3, [104, 105, 10], .complete)] := by
  have run : Run step (started lineReader) (Run.trace step (started lineReader) lineEvents) lineWorld :=
    Run.of_play _ _ rfl
  obtain ⟨⟨after, ready, calls⟩, _⟩ := delimited_reads (fun _ => 0) 3 5 10 lineReader (by decide) rfl _ lineWorld run
  exact ⟨after, ready, calls⟩

end ZyAgf.Pppoe.EventTcp
