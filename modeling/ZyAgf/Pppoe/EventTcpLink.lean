import ZyAgf.Pppoe.EventTcp

set_option autoImplicit false

namespace ZyAgf.Pppoe.EventTcp

-- The bytes are those buf points to. They are copied into a block of their own.
def eventTcpWriteBuf (socket : Int) (buf : List UInt8) : Option EventTcpState :=
  if (buf.length : Int) ≤ 0 then none
  else if socket < 0 then none
  else some ⟨buf, 0, buf.length, -1⟩

-- What write returned is given; it takes no more than it is offered.
def handleWriteable (timedOut : Bool) (n : Int) (state : EventTcpState) : EventTcpState × Option Call :=
  let done := state.cur
  if timedOut then (state, some ⟨state.buf, done, .timeout⟩)
  else if n ≤ 0 then (state, some ⟨state.buf, done, .ioError⟩)
  else
    let state := { state with cur := state.cur + n.toNat }
    let done := done + n.toNat
    (state, if state.len ≤ done then some ⟨state.buf, done, .complete⟩ else none)

-- A writer at one end of a stream and a reader at the other, with what the
-- kernel has taken and not yet handed on.
structure Link where
  writer : Option EventTcpState
  reports : List Call
  flight : List UInt8
  reader : World

inductive LinkEvent where
  | writeable (timedOut : Bool) (n : Int)
  | carry (count : Nat)
  | readable

def Link.step (link : Link) : LinkEvent → Option Link
  | .writeable timedOut n =>
      match link.writer with
      | none => none
      | some state =>
          let offered := state.buf.drop state.cur
          if n ≤ offered.length then
            let (state, call) := handleWriteable timedOut n state
            some { link with
              writer := if call.isNone then some state else none
              reports := link.reports ++ call.toList
              flight := link.flight ++ if timedOut then [] else offered.take n.toNat }
          else none
  | .carry count =>
      (EventTcp.step link.reader (.arrive (link.flight.take count))).map fun reader =>
        { link with flight := link.flight.drop count, reader := reader }
  | .readable => (EventTcp.step link.reader .ready).map fun reader => { link with reader := reader }

def linked (writer reader : EventTcpState) : Link := ⟨some writer, [], [], started reader⟩

-- The bytes that have left the buffer are its first ones, and the reader is where
-- it would be had it been handed them some other way.
structure Transfers (buf : List UInt8) (reader : EventTcpState) (link : Link) (sent : Nat)
    (visits : List (World × Event)) : Prop where
  bound : sent ≤ buf.length
  read : Run EventTcp.step (started reader) visits link.reader
  opened : link.reader.socket.ending = none
  order : arrived visits ++ link.flight = buf.take sent
  writes : (∃ state, link.writer = some state ∧ state.buf = buf ∧ state.cur = sent ∧ state.len = buf.length ∧
    link.reports = [] ∧
      sent < buf.length) ∨
    ∃ call, link.writer = none ∧ link.reports = [call] ∧ call.len = sent ∧ (call.flag = .complete ↔ sent = buf.length)

theorem linked_transfers (socket : Int) (buf : List UInt8) (writer reader : EventTcpState)
    (set : eventTcpWriteBuf socket buf = some writer) : Transfers buf reader (linked writer reader) 0 [] := by
  unfold eventTcpWriteBuf at set
  split at set
  · cases set
  · next some =>
      split at set
      · cases set
      · obtain rfl := Option.some.inj set
        exact
          { bound := Nat.zero_le _
            read := Run.start
            opened := rfl
            order := rfl
            writes := .inl ⟨_, rfl, rfl, rfl, rfl, rfl, by omega⟩ }

theorem writeable_transfers (buf : List UInt8) (reader : EventTcpState) (link after : Link) (sent : Nat)
    (visits : List (World × Event)) (transfers : Transfers buf reader link sent visits) (timedOut : Bool) (n : Int)
    (took : link.step (.writeable timedOut n) = some after) : ∃ sent', Transfers buf reader after sent' visits := by
  obtain ⟨bound, read, opened, order, ⟨state, writer, rfl, rfl, len, quiet, left⟩ | ⟨call, writer, _⟩⟩ := transfers
  · rw [Link.step, writer] at took
    dsimp only at took
    split at took
    · next offered =>
        obtain rfl := Option.some.inj took
        rw [List.length_drop] at offered
        unfold handleWriteable
        dsimp only
        by_cases late : timedOut = true
        · rw [if_pos late, if_pos late, List.append_nil]
          refine ⟨state.cur, bound, read, opened, order, .inr ⟨⟨state.buf, state.cur, .timeout⟩, rfl, ?_, rfl, ?_⟩⟩
          · rw [quiet]
            rfl
          · exact iff_of_false (fun no => by cases no) (Nat.ne_of_lt left)
        · rw [if_neg late, if_neg late]
          by_cases failed : n ≤ 0
          · rw [if_pos failed, Int.toNat_of_nonpos failed, List.take_zero, List.append_nil]
            refine ⟨state.cur, bound, read, opened, order, .inr ⟨⟨state.buf, state.cur, .ioError⟩, rfl, ?_, rfl, ?_⟩⟩
            · rw [quiet]
              rfl
            · exact iff_of_false (fun no => by cases no) (Nat.ne_of_lt left)
          · rw [if_neg failed]
            dsimp only
            have fits : state.cur + n.toNat ≤ state.buf.length := by omega
            have order' : arrived visits ++ (link.flight ++ (state.buf.drop state.cur).take n.toNat) =
                state.buf.take (state.cur + n.toNat) := by
              rw [← List.append_assoc, order, List.take_add]
            refine ⟨state.cur + n.toNat, fits, read, opened, order', ?_⟩
            by_cases whole : state.len ≤ state.cur + n.toNat
            · rw [if_pos whole, quiet]
              exact .inr ⟨_, rfl, rfl, rfl, iff_of_true rfl (by omega)⟩
            · rw [if_neg whole, quiet]
              exact .inl ⟨_, rfl, rfl, rfl, len, rfl, by omega⟩
    · cases took
  · rw [Link.step, writer] at took
    cases took

section Whole

variable (buf : List UInt8) (reader : EventTcpState) (len : Nat) (delim : Int) (ascii : 0 ≤ delim ∧ delim ≤ 127)
  (fresh : Reads len delim [] (started reader))

include ascii fresh

theorem step_transfers (link after : Link) (sent : Nat) (visits : List (World × Event))
    (transfers : Transfers buf reader link sent visits)
    (event : LinkEvent) (took : link.step event = some after) : ∃ sent' visits',
    Transfers buf reader after sent' visits' := by
  cases event with
  | writeable timedOut n =>
      obtain ⟨sent', moved⟩ := writeable_transfers buf reader link after sent visits transfers timedOut n took
      exact ⟨sent', visits, moved⟩
  | carry count =>
      obtain ⟨bound, read, opened, order, writes⟩ := transfers
      obtain ⟨world, moved, rfl⟩ := Option.map_eq_some_iff.mp took
      refine ⟨sent, visits ++ [(link.reader, .arrive (link.flight.take count))], bound, read.snoc _ _ _ _ moved, ?_, ?_,
        writes⟩
      · rw [EventTcp.step, if_pos opened] at moved
        obtain rfl := Option.some.inj moved
        exact opened
      · rw [arrived_snoc, arrivedBy, List.append_assoc, List.take_append_drop]
        exact order
  | readable =>
      obtain ⟨bound, read, opened, order, writes⟩ := transfers
      obtain ⟨world, moved, rfl⟩ := Option.map_eq_some_iff.mp took
      refine ⟨sent, visits ++ [(link.reader, .ready)], bound, read.snoc _ _ _ _ moved, ?_, ?_, writes⟩
      · have reads := run_reads len delim (started reader) ascii fresh visits link.reader read
        obtain ⟨world', moved', _, _, ending⟩ := ready_reads len delim _ link.reader ascii reads
        obtain rfl := Option.some.inj (moved.symm.trans moved')
        exact ending.trans opened
      · rw [arrived_snoc, arrivedBy, List.append_nil]
        exact order

theorem run_transfers (socket : Int) (writer : EventTcpState) (set : eventTcpWriteBuf socket buf = some writer)
    {events : List (Link × LinkEvent)} {link : Link} (run : Run Link.step (linked writer reader) events link) :
    ∃ sent visits, Transfers buf reader link sent visits := by
  induction run with
  | start => exact ⟨0, [], linked_transfers socket buf writer reader set⟩
  | snoc events link after event _ took ih =>
      obtain ⟨sent, visits, transfers⟩ := ih
      exact step_transfers buf reader len delim ascii fresh link after sent visits transfers event took

end Whole

theorem expected_first (len : Nat) (delim : Int) (first rest : List UInt8) :
    expected len delim first none = [] ∧ first.length < reach len delim first ∨
      expected len delim first none = [(reach len delim (first ++ rest),
        (first ++ rest).take (reach len delim (first ++ rest)), .complete)] := by
  by_cases there : reach len delim first ≤ first.length
  · rw [expected_enough len delim first none there, reach_append len delim first rest there,
      List.take_append_of_le_length there]
    exact .inr rfl
  · exact .inl ⟨if_neg there, Nat.not_le.mp there⟩

-- However the kernel cuts it: the reader is told once of what the buffer holds
-- through the first delimiter or the first len bytes, and nothing else, and when
-- the writer was told that all is written only the way there is left.
theorem written_read (socket socket' len delim : Int) (heap : Nat → UInt8) (buf : List UInt8)
    (writer reader : EventTcpState)
    (ascii : 0 ≤ delim ∧ delim ≤ 127) (set : eventTcpWriteBuf socket buf = some writer)
    (set' : eventTcpReadBuf heap socket' len delim = some reader) (enough : reach len.toNat delim buf ≤ buf.length)
    {events : List (Link × LinkEvent)} {link : Link} (run : Run Link.step (linked writer reader) events link) :
    (link.reader.calls = [] ∨ link.reader.calls.map told =
    [(reach len.toNat delim buf, buf.take (reach len.toNat delim buf), .complete)]) ∧
      link.reports.length ≤ 1 ∧
      ((∃ report ∈ link.reports, report.flag = .complete) → link.flight = [] → ∃ after,
        link.step .readable = some after ∧
        after.reader.calls.map told = [(reach len.toNat delim buf, buf.take (reach len.toNat delim buf),
          .complete)]) := by
  have fresh := started_reads heap socket' len delim reader set'
  obtain ⟨sent, visits, bound, read, opened, order, writes⟩ :=
    run_transfers buf reader len.toNat delim ascii fresh socket writer set run
  have reads := run_reads len.toNat delim (started reader) ascii fresh visits link.reader read
  obtain ⟨after, ready, _, calls, ending⟩ := ready_reads len.toNat delim (arrived visits) link.reader ascii reads
  rw [ending, opened] at calls
  have split : arrived visits ++ (link.flight ++ buf.drop sent) = buf := by
    rw [← List.append_assoc, order, List.take_append_drop]
  have first := expected_first len.toNat delim (arrived visits) (link.flight ++ buf.drop sent)
  rw [split] at first
  refine ⟨?_, ?_, ?_⟩
  · rcases reads with ⟨state, front, room, waits⟩ | ⟨call, tells⟩
    · exact .inl waits.quiet
    · have right := tells.right
      rw [opened] at right
      rcases first with ⟨none, _⟩ | some
      · rw [none] at right
        cases right
      · rw [some] at right
        rw [tells.once]
        exact .inr right
  · rcases writes with ⟨_, _, _, _, _, quiet, _⟩ | ⟨call, _, once, _⟩
    · rw [quiet]
      exact Nat.zero_le _
    · rw [once]
      exact Nat.le_refl _
  · rintro ⟨report, member, complete⟩ dry
    rcases writes with ⟨_, _, _, _, _, quiet, _⟩ | ⟨call, _, once, _, whole⟩
    · rw [quiet] at member
      exact absurd member List.not_mem_nil
    · rw [once] at member
      obtain rfl := List.mem_singleton.mp member
      have all : arrived visits = buf := by
        rw [dry, List.append_nil, whole.mp complete, List.take_length] at order
        exact order
      rw [all, expected_enough len.toNat delim buf none enough] at calls
      exact ⟨{ link with reader := after }, Option.map_eq_some_iff.mpr ⟨after, ready, rfl⟩, calls⟩

-- Four bytes that are written in two pieces and carried in two others.
def lineWriter : EventTcpState := ⟨[104, 105, 10, 7], 0, 4, -1⟩

def pieceEvents : List LinkEvent := [.writeable false 2, .carry 1, .readable, .writeable false 2, .carry 3]

def pieceLink : Link :=
  ⟨none, [⟨[104, 105, 10, 7], 4, .complete⟩], [], ⟨⟨[105, 10, 7], none⟩, some ⟨[104, 0, 0, 0, 0], 1, 5, 10⟩, []⟩⟩

theorem written_read_pieces :
    ∃ after, pieceLink.step .readable = some after ∧
      after.reader.calls.map told = [(3, [104, 105, 10], .complete)] := by
  have run : Run Link.step (linked lineWriter ⟨[0, 0, 0, 0, 0], 0, 5, 10⟩)
      (Run.trace Link.step (linked lineWriter ⟨[0, 0, 0, 0, 0], 0, 5, 10⟩) pieceEvents) pieceLink := Run.of_play _ _ rfl
  obtain ⟨_, _, whole⟩ := written_read 4 3 5 10 (fun _ => 0) [104, 105, 10, 7] lineWriter ⟨[0, 0, 0, 0, 0], 0, 5, 10⟩
    (by decide) rfl rfl
    (by decide) run
  exact whole ⟨_, List.mem_singleton_self _, rfl⟩ rfl

end ZyAgf.Pppoe.EventTcp
