import ZyAgf.Xl2tpd.Options

set_option autoImplicit false

namespace ZyAgf.Xl2tpd.ReadResult

-- The conversion %i of sscanf: behind white space and a sign a number in base 16,
-- 8 or 10 as its first digits say, cut to a long and then to an int.
def digitOf (base : Nat) (byte : UInt8) : Option Nat :=
  let value :=
    if isDigit byte then some (byte.toNat - 48)
    else if 97 ≤ byte ∧ byte ≤ 102 then some (byte.toNat - 87)
    else if 65 ≤ byte ∧ byte ≤ 70 then some (byte.toNat - 55)
    else none
  value.filter (· < base)

def number (base : Nat) (bytes : CString) : Option Nat :=
  match bytes.takeWhile fun byte => (digitOf base byte).isSome with
  | [] => none
  | digits => some (digits.foldl (fun n byte => base * n + (digitOf base byte).getD 0) 0)

def scanNumber : CString → Option Nat
  | 48 :: 120 :: rest | 48 :: 88 :: rest => number 16 rest
  | 48 :: rest => number 8 (48 :: rest)
  | rest => number 10 rest

def longToInt (n : Int) : Int := (max (-9223372036854775808) (min 9223372036854775807 n)).bmod 4294967296

def scanInt (bytes : CString) : Option Int :=
  match bytes.dropWhile isSpace with
  | 45 :: rest => (scanNumber rest).map fun n => longToInt (-n)
  | 43 :: rest => (scanNumber rest).map fun n => longToInt n
  | rest => (scanNumber rest).map fun n => longToInt n

def timeout : Nat := 1000000

def noResultCode : Int := -3

-- What a call of read finds: a signal, an error, nothing, after so many
-- microseconds, or bytes, of which it takes as many as there is room for.
inductive PipeRead where
  | interrupted
  | failed
  | empty (elapsed : Nat)
  | data (bytes : List UInt8)
deriving DecidableEq, Repr

-- The loop of read_result, with the buffer, what it holds, and whether the writer
-- was seen. While there is nothing more to be read it has not ended.
def readLoop (size : Nat) : List PipeRead → List UInt8 → Nat → Bool → Option (List UInt8 × Nat)
  | [], _, _, _ => none
  | .interrupted :: reads, buf, readed, writePipe => readLoop size reads buf readed writePipe
  | .failed :: _, buf, readed, _ => some (buf, readed)
  | .empty elapsed :: reads, buf, readed, writePipe =>
      if writePipe ∨ timeout ≤ elapsed then some (buf, readed) else readLoop size reads buf readed writePipe
  | .data bytes :: reads, buf, readed, _ =>
      let taken := bytes.take (size - readed)
      let buf := buf.take readed ++ taken ++ buf.drop (readed + taken.length)
      if size - (readed + taken.length) = 0 then some (buf, readed + taken.length)
      else readLoop size reads buf (readed + taken.length) true

-- The terminator goes where the bytes that were read end.
inductive Outcome where
  | reading
  | outside (offset : Nat)
  | returned (buf : List UInt8) (code : Int)
deriving DecidableEq, Repr

def readResult (buf : List UInt8) (size : Nat) (reads : List PipeRead) : Outcome :=
  match readLoop size reads buf 0 false with
  | none => .reading
  | some (buf, readed) =>
      if readed < buf.length then
        let buf := buf.set readed 0
        .returned buf ((scanInt (cstring buf)).getD noResultCode)
      else .outside readed

def PipeRead.Opening : PipeRead → Prop
  | .interrupted => True
  | .empty elapsed => elapsed < timeout
  | _ => False

def PipeRead.Running : PipeRead → Prop
  | .interrupted => True
  | .data bytes => bytes ≠ []
  | _ => False

def PipeRead.bytes : PipeRead → List UInt8
  | .data bytes => bytes
  | _ => []

def received (reads : List PipeRead) : List UInt8 := reads.flatMap PipeRead.bytes

-- A way for a response to arrive: empty reads before the writer opens, then its
-- bytes, and an empty read once it has closed. A writer that says nothing is only
-- told from one that has not opened by the time.
inductive Arrives (response : List UInt8) : List PipeRead → Prop where
  | intro (before chunks later : List PipeRead) (elapsed : Nat) (opening : ∀ r ∈ before, r.Opening)
    (running : ∀ r ∈ chunks, r.Running)
      (whole : received chunks = response) (closed : response = [] → timeout ≤ elapsed) :
      Arrives response (before ++ (chunks ++ .empty elapsed :: later))

-- What is wanted: the longest prefix of the response that leaves room for the
-- terminator, and the number it starts with.
def Delivers (buf : List UInt8) (size : Nat) (response : List UInt8) (outcome : Outcome) : Prop :=
  outcome = .returned (response.take (size - 1) ++ 0 :: buf.drop (min response.length (size - 1) + 1))
    ((scanInt (cstring (response.take (size - 1)))).getD noResultCode)

theorem readLoop_opening (size : Nat) (before reads : List PipeRead) (buf : List UInt8) (readed : Nat)
    (opening : ∀ r ∈ before, r.Opening) : readLoop size (before ++ reads) buf readed false = readLoop size reads buf
    readed false := by
  induction before with
  | nil => rfl
  | cons r before ih =>
      obtain ⟨first, rest⟩ := List.forall_mem_cons.mp opening
      cases r with
      | interrupted => exact ih rest
      | failed => exact first.elim
      | empty elapsed =>
          have early : elapsed < timeout := first
          rw [List.cons_append, readLoop, if_neg (by simp; exact early)]
          exact ih rest
      | data bytes => exact first.elim

theorem cstring_ended (bytes rest : List UInt8) : cstring (bytes ++ 0 :: rest) = cstring bytes := by
  unfold cstring
  induction bytes with
  | nil => rfl
  | cons byte bytes ih =>
      rw [List.cons_append, List.takeWhile_cons, List.takeWhile_cons, ih]

theorem readLoop_running (size : Nat) (chunks reads : List PipeRead) (done room : List UInt8) (seen : Bool)
    (running : ∀ r ∈ chunks, r.Running) (sized : done.length + room.length = size) (short : done.length < size) :
    readLoop size (chunks ++ reads) (done ++ room) done.length seen =
      if done.length + (received chunks).length < size then
        readLoop size reads (done ++ received chunks ++ room.drop (received chunks).length)
          (done.length + (received chunks).length)
          (seen || !(received chunks).isEmpty)
      else some (done ++ (received chunks).take room.length, size) := by
  induction chunks generalizing done room seen with
  | nil => simp [received, short]
  | cons r chunks ih =>
      obtain ⟨first, rest⟩ := List.forall_mem_cons.mp running
      cases r with
      | interrupted => exact ih done room seen rest sized short
      | failed => exact first.elim
      | empty elapsed => exact first.elim
      | data bytes =>
          have shape : received (.data bytes :: chunks) = bytes ++ received chunks := rfl
          have some' : bytes ≠ [] := first
          have front : (done ++ room).take done.length = done := List.take_left
          have behind (n : Nat) : (done ++ room).drop (done.length + n) = room.drop n := by
            rw [← List.drop_drop, List.drop_left]
          have left : size - done.length = room.length := by omega
          rw [List.cons_append, readLoop, left, shape, List.length_append, front, behind]
          by_cases fits : bytes.length < room.length
          · have later := ih (done ++ bytes) (room.drop bytes.length) true rest (by simp; omega) (by simp; omega)
            rw [List.length_append] at later
            have now : (seen || !(bytes ++ received chunks).isEmpty) = true := by
              cases bytes with
              | nil => exact absurd rfl some'
              | cons byte bytes => exact Bool.or_true seen
            have data : (bytes ++ received chunks).take room.length = bytes ++ (received chunks).take
              (room.length - bytes.length) := by
              rw [List.take_append, List.take_of_length_le (Nat.le_of_lt fits)]
            rw [List.take_of_length_le (Nat.le_of_lt fits), if_neg (by omega), later, List.drop_drop, Nat.add_assoc,
              now, data,
              Bool.true_or, List.length_drop, List.append_assoc done bytes, List.append_assoc done bytes,
                List.append_assoc done]
          · have taken : (bytes.take room.length).length = room.length := by simp; omega
            have full : (bytes ++ received chunks).take room.length = bytes.take room.length := by
              rw [List.take_append, Nat.sub_eq_zero_of_le (Nat.not_lt.mp fits), List.take_zero, List.append_nil]
            rw [taken, if_pos (by omega), if_neg (by omega), full, List.drop_length, List.append_nil, sized]

section Reading

variable (buf response : List UInt8) (size : Nat) (reads : List PipeRead) (positive : 0 < size)
    (sized : buf.length = size)
  (arrives : Arrives response reads)

include positive sized arrives

theorem readLoop_arrives : readLoop size reads buf 0 false =
    if response.length < size then some (response ++ buf.drop response.length, response.length)
    else some (response.take size, size) := by
  obtain ⟨before, chunks, later, elapsed, opening, running, whole, closed⟩ := arrives
  have ran := readLoop_running size chunks (.empty elapsed :: later) [] buf false running
    (by simpa using sized) positive
  simp only [List.nil_append, List.length_nil, Nat.zero_add, whole, sized, Bool.false_or] at ran
  rw [readLoop_opening size before _ buf 0 opening, ran]
  split
  next => rw [readLoop, if_pos (by
    by_cases none' : response = []
    · exact .inr (closed none')
    · exact .inl (by simp [none']))]
  next => rfl

theorem readResult_arrives : readResult buf size reads =
    if response.length < size then
      .returned (response ++ 0 :: buf.drop (response.length + 1)) ((scanInt (cstring response)).getD noResultCode)
    else .outside size := by
  unfold readResult
  rw [readLoop_arrives buf response size reads positive sized arrives]
  split
  next ended =>
    split at ended
    next => cases ended
    next => cases ended
  next filled readed ended =>
    split at ended
    next fits =>
      obtain ⟨rfl, rfl⟩ := Prod.mk.inj (Option.some.inj ended)
      obtain ⟨byte, rest, behind⟩ : ∃ byte rest, buf.drop response.length = byte :: rest :=
        List.exists_cons_of_ne_nil (List.ne_nil_of_length_pos (by simp; omega))
      have next : buf.drop (response.length + 1) = rest := by
        rw [← List.drop_drop, behind]
        rfl
      rw [behind, next, if_pos (by simp), if_pos fits, List.set_append_right _ _ (Nat.le_refl _), Nat.sub_self]
      rw [List.set_cons_zero]
      exact congrArg (fun code => Outcome.returned (response ++ 0 :: rest) ((scanInt code).getD noResultCode))
        (cstring_ended response rest)
    next full =>
      obtain ⟨rfl, rfl⟩ := Prod.mk.inj (Option.some.inj ended)
      rw [if_neg (by simp), if_neg full]

-- For every way a response arrives, it is delivered if and only if it leaves room
-- for the terminator.
theorem read_result_delivers_iff : Delivers buf size response (readResult buf size reads) ↔ response.length < size := by
  unfold Delivers
  rw [readResult_arrives buf response size reads positive sized arrives]
  by_cases fits : response.length < size
  · have short : response.length ≤ size - 1 := by omega
    rw [if_pos fits, List.take_of_length_le short, Nat.min_eq_left short]
    exact iff_of_true rfl fits
  · rw [if_neg fits]
    refine iff_of_false (fun same => ?_) fits
    cases same

end Reading

def okResponse : List UInt8 := text "02 no\n"

def okReads : List PipeRead := [.empty 10, .interrupted] ++
    ([.data (text "02 "), .interrupted, .data (text "no\n")] ++ .empty 900 :: [])

theorem okReads_arrive : Arrives okResponse okReads :=
  .intro _ _ _ _ (by simp [PipeRead.Opening]; decide) (by simp [PipeRead.Running]; decide) (by decide) (by decide)

theorem read_result_delivers_no : Delivers [9, 9, 9, 9, 9, 9, 9] 7 okResponse
    (readResult [9, 9, 9, 9, 9, 9, 9] 7 okReads) ∧
    readResult [9, 9, 9, 9, 9, 9, 9] 7 okReads = .returned (text "02 no\n" ++ [0]) 2 :=
  ⟨(read_result_delivers_iff _ okResponse 7 okReads (by decide) (by decide) okReads_arrive).mpr (by decide), by decide⟩

-- The same response into a buffer of its own size.
theorem read_result_overruns : readResult [9, 9, 9, 9, 9, 9] 6 okReads = .outside 6 ∧
    ¬ ∀ (buf response : List UInt8) (size : Nat) (reads : List PipeRead), 0 < size → buf.length = size →
      Arrives response reads →
      Delivers buf size response (readResult buf size reads) := by
  have overrun : readResult [9, 9, 9, 9, 9, 9] 6 okReads = .outside 6 := by decide
  refine ⟨overrun, fun claimed => ?_⟩
  have delivered := claimed [9, 9, 9, 9, 9, 9] okResponse 6 okReads (by decide) (by decide) okReads_arrive
  rw [overrun] at delivered
  cases delivered

end ZyAgf.Xl2tpd.ReadResult
