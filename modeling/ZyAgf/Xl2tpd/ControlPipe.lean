import ZyAgf.Library.Run
import ZyAgf.Xl2tpd.Wire

set_option autoImplicit false

namespace ZyAgf.Xl2tpd

def controlPipeMessageSize : Nat := 1024

-- The request types in the table control_handlers.
def controlHandlers : List UInt8 := [120, 122, 121, 116, 99, 111, 104, 100, 97, 114, 115, 119]

def addsEntry (type : UInt8) : Bool := type == 122 || type == 97

-- One successful read of the control pipe, whether the result file can be
-- opened, whether an add command comes to its options (its entry is not there
-- yet and there is memory for it), and where the handler writes a zero.
structure Arrival where
  bytes : List UInt8
  opened : Bool
  goesOn : Bool
  wiped : List Nat
deriving DecidableEq

-- What do_control keeps from one message to the next.
structure Pipe where
  buf : List UInt8
  handlerFound : Bool
deriving DecidableEq

def openPipe : Pipe := ⟨List.replicate controlPipeMessageSize 0, false⟩

-- What becomes of a message: it is given up, its handler is called with the
-- command and perhaps reads options behind it, it is reported as unknown, or
-- nobody says anything about it.
inductive Reply where
  | dropped
  | handled (resf : Option CString) (bufp : CString) (options : Option CString)
  | unknown (resf : Option CString) (type : UInt8)
  | silent (resf : Option CString)
deriving DecidableEq

def endsLine (bytes : List UInt8) : Bool := bytes.getLast? == some 10

def arrived (buf bytes : List UInt8) : List UInt8 :=
  let buf := bytes ++ buf.drop bytes.length
  if endsLine bytes then buf.set (bytes.length - 1) 0 else buf

-- The result file a message starts with, and where the command begins.
def resultFile (message : CString) : Option (Option CString × Nat) :=
  match message with
  | 64 :: rest =>
      let name := rest.takeWhile (· ≠ 32)
      if name.length = 0 ∨ name.length = rest.length then none else some (some name, name.length + 2)
  | _ => some (none, 0)

def loneName (command : CString) : Bool :=
  let name := (command.drop 1).dropWhile (· == 32)
  !name.isEmpty && !name.contains 32

def readsOn (a : Arrival) (command : CString) : Bool := a.goesOn && addsEntry (command.headD 0) && loneName command

-- One round of do_control's loop, on the memory from the buffer's start. With a
-- lone name the options are looked for behind the terminator.
def reply (memory : List UInt8) (found : Bool) (a : Arrival) : Reply :=
  match resultFile (cstring memory) with
  | none => .dropped
  | some (resf, bufp) =>
      if resf.isSome ∧ ¬ a.opened then .dropped
      else
        let command := cstring (memory.drop bufp)
        let type := memory.getD bufp 0
        if type ∈ controlHandlers then
          .handled resf command
            (if readsOn a command then some (cstring (memory.drop (bufp + command.length + 1))) else none)
        else if found then .silent resf
        else .unknown resf type

def Reply.isHandled : Reply → Bool
  | .handled _ _ _ => true
  | _ => false

def nameEnd (memory : List UInt8) : List Nat :=
  match resultFile (cstring memory) with
  | some (some name, _) => [name.length + 1]
  | _ => []

def wipe (positions : List Nat) (buf : List UInt8) : List UInt8 :=
  buf.mapIdx fun i byte => if i ∈ positions then 0 else byte

section Behind

-- What stands in memory behind the buffer.
variable (behind : List UInt8)

def takeMessage (s : Pipe) (a : Arrival) : Option Pipe :=
  if 0 < a.bytes.length ∧ a.bytes.length ≤ controlPipeMessageSize then
    let buf := arrived s.buf a.bytes
    some ⟨wipe (nameEnd (buf ++ behind) ++ a.wiped) buf,
      s.handlerFound || (reply (buf ++ behind) s.handlerFound a).isHandled⟩
  else none

def bodyOf (bytes : List UInt8) : List UInt8 := if endsLine bytes then bytes.dropLast else bytes

def tailOf (s : Pipe) (bytes : List UInt8) : List UInt8 :=
  (if endsLine bytes then [0] else []) ++ s.buf.drop bytes.length ++ behind

-- The message is read as if there were nothing but its own bytes.
def Isolated (s : Pipe) (a : Arrival) : Prop :=
  let memory := arrived s.buf a.bytes ++ behind
  cstring memory = cstring (bodyOf a.bytes) ∧ reply memory s.handlerFound a = reply (bodyOf a.bytes) false a

-- A string that starts in the message ends there: at a zero of its own, or at
-- one right behind it.
def EndsWithin (body tail : List UInt8) (start : Nat) : Prop :=
  0 ∈ body.drop start ∨ (tail.drop (start - body.length)).headD 0 = 0

instance (body tail : List UInt8) (start : Nat) : Decidable (EndsWithin body tail start) :=
  inferInstanceAs (Decidable (_ ∨ _))

-- The message ends in a newline, or has a zero, or the buffer has one behind it;
-- so it is for options that are looked for behind a lone name; and no handler
-- was found before an unknown command.
def Apart (s : Pipe) (a : Arrival) : Prop :=
  EndsWithin (bodyOf a.bytes) (tailOf behind s a.bytes) 0 ∧
    match resultFile (cstring (bodyOf a.bytes)) with
    | none => True
    | some (resf, bufp) =>
        let command := (cstring (bodyOf a.bytes)).drop bufp
        if resf.isSome ∧ ¬ a.opened then True
        else if command.headD 0 ∈ controlHandlers then
          readsOn a command → EndsWithin (bodyOf a.bytes) (tailOf behind s a.bytes) (bufp + command.length + 1)
        else s.handlerFound = false

end Behind

theorem arrived_split (behind : List UInt8) (s : Pipe) (bytes : List UInt8) :
    arrived s.buf bytes ++ behind = bodyOf bytes ++ tailOf behind s bytes := by
  unfold arrived bodyOf tailOf
  cases line : endsLine bytes with
  | false => simp
  | true =>
      have last : bytes.getLast? = some 10 := by simpa [endsLine] using line
      obtain ⟨front, rfl⟩ := List.getLast?_eq_some_iff.mp last
      simp

theorem cstring_append_iff (front back : List UInt8) :
    cstring (front ++ back) = cstring front ↔ 0 ∈ front ∨ back.headD 0 = 0 := by
  induction front with
  | nil =>
      cases back with
      | nil => simp [cstring]
      | cons byte back => by_cases zero : byte = 0 <;> simp [cstring, zero]
  | cons byte front ih =>
      unfold cstring at *
      by_cases zero : byte = 0
      · simp [zero]
      · simp only [List.cons_append, List.takeWhile_cons, zero, ne_eq, not_false_eq_true, decide_true, if_true,
          List.cons.injEq, true_and, List.mem_cons, Ne.symm zero, false_or]
        exact ih

theorem cstring_within_iff (body tail : List UInt8) (start : Nat) :
    cstring ((body ++ tail).drop start) = cstring (body.drop start) ↔ EndsWithin body tail start := by
  rw [List.drop_append, cstring_append_iff]
  rfl

theorem cstring_drop (memory : List UInt8) (n : Nat) (inside : n ≤ (cstring memory).length) :
    cstring (memory.drop n) = (cstring memory).drop n := by
  induction memory generalizing n with
  | nil =>
      have none' : n = 0 := by simpa [cstring] using inside
      simp [none', cstring]
  | cons byte rest ih =>
      cases n with
      | zero => rfl
      | succ n =>
          by_cases zero : byte = 0
          · simp [cstring, zero] at inside
          · have shape : cstring (byte :: rest) = byte :: cstring rest := by simp [cstring, zero]
            rw [shape] at inside ⊢
            exact ih n (by simpa using inside)

theorem getD_cstring (memory : List UInt8) (n : Nat) (inside : n ≤ (cstring memory).length) :
    memory.getD n 0 = ((cstring memory).drop n).headD 0 := by
  rw [← cstring_drop memory n inside]
  cases whole : memory.drop n with
  | nil => simp [cstring, List.getD_eq_getElem?_getD, List.drop_eq_nil_iff.mp whole]
  | cons byte rest =>
      have here : memory[n]? = some byte := by
        have first := congrArg List.head? whole
        rwa [List.head?_drop] at first
      rw [List.getD_eq_getElem?_getD, here]
      by_cases zero : byte = 0 <;> simp [cstring, zero]

theorem resultFile_inside (message : CString) (resf : Option CString) (bufp : Nat)
    (found : resultFile message = some (resf, bufp)) : bufp ≤ message.length := by
  unfold resultFile at found
  split at found
  next rest =>
    dsimp only at found
    split at found
    · cases found
    next proper =>
      obtain ⟨_, rfl⟩ := Prod.mk.inj (Option.some.inj found)
      have short : (rest.takeWhile (· ≠ 32)).length ≤ rest.length := (List.takeWhile_sublist _).length_le
      simp only [not_or] at proper
      simp only [List.length_cons]
      omega
  next =>
    obtain ⟨_, rfl⟩ := Prod.mk.inj (Option.some.inj found)
    exact Nat.zero_le _

theorem reply_text (memory : List UInt8) (found : Bool) (a : Arrival) :
    reply memory found a =
      match resultFile (cstring memory) with
      | none => .dropped
      | some (resf, bufp) =>
          let command := (cstring memory).drop bufp
          if resf.isSome ∧ ¬ a.opened then .dropped
          else if command.headD 0 ∈ controlHandlers then
            .handled resf command
              (if readsOn a command then some (cstring (memory.drop (bufp + command.length + 1))) else none)
          else if found then .silent resf
          else .unknown resf (command.headD 0) := by
  unfold reply
  split
  next => rfl
  next resf bufp file =>
    have inside := resultFile_inside _ _ _ file
    dsimp only
    rw [cstring_drop memory bufp inside, getD_cstring memory bufp inside]

theorem isolated_iff (behind : List UInt8) (s : Pipe) (a : Arrival) : Isolated behind s a ↔ Apart behind s a := by
  unfold Isolated Apart
  dsimp only
  rw [arrived_split]
  have text := cstring_within_iff (bodyOf a.bytes) (tailOf behind s a.bytes) 0
  rw [List.drop_zero, List.drop_zero] at text
  rw [text]
  refine and_congr_right fun ends => ?_
  rw [reply_text, reply_text, text.mpr ends]
  split
  next => simp
  next resf bufp file =>
    dsimp only
    split
    · simp
    · split
      next known =>
        split
        next reads =>
          simp only [Reply.handled.injEq, true_and, Option.some.injEq, reads, forall_const]
          exact cstring_within_iff _ _ _
        next stops => simp [stops]
      next unknown => cases s.handlerFound <;> simp

theorem headD_replicate (n : Nat) (rest : List UInt8) (some' : 0 < n) : (List.replicate n 0 ++ rest).headD 0 =
    (0 : UInt8) := by
  cases n with
  | zero => cases some'
  | succ n => rfl

theorem first_isolated (behind : List UInt8) (a : Arrival) (short : a.bytes.length + 1 < controlPipeMessageSize) :
    Isolated behind openPipe a := by
  have zeros : ∀ n, n ≤ 1 → ((tailOf behind openPipe a.bytes).drop n).headD 0 = 0 := by
    intro n first
    have left : 1 < controlPipeMessageSize - a.bytes.length := by omega
    unfold tailOf openPipe
    rw [List.drop_replicate]
    cases endsLine a.bytes <;> rcases Nat.le_one_iff_eq_zero_or_eq_one.mp first with rfl | rfl
    · simpa using headD_replicate _ behind (by omega)
    · simpa [List.drop_append, List.drop_replicate] using
        headD_replicate (controlPipeMessageSize - a.bytes.length - 1) (behind.drop _) (by omega)
    · simp
    · simpa using headD_replicate _ behind (by omega)
  refine (isolated_iff behind openPipe a).mpr ⟨.inr (zeros _ (by omega)), ?_⟩
  split
  next => trivial
  next resf bufp file =>
    have inside := resultFile_inside _ _ _ file
    dsimp only
    split
    · trivial
    · split
      · intro _
        have cut : (cstring (bodyOf a.bytes)).length ≤ (bodyOf a.bytes).length := (List.takeWhile_sublist _).length_le
        refine .inr (zeros _ ?_)
        rw [List.length_drop]
        omega
      · rfl

-- In every sequence of messages one do_control takes in, the messages are
-- isolated from each other if and only if each of them finds the buffer and the
-- flag as the condition says.
theorem commands_isolated_iff (behind : List UInt8) (arrivals : List Arrival) :
    Run.Meets (Isolated behind) (Run.trace (takeMessage behind) openPipe arrivals) ↔
      Run.Meets (Apart behind) (Run.trace (takeMessage behind) openPipe arrivals) :=
  ⟨fun isolated visit member => (isolated_iff behind visit.1 visit.2).mp (isolated visit member),
    fun apart visit member => (isolated_iff behind visit.1 visit.2).mpr (apart visit member)⟩

-- The end of a longer command stands behind a shorter one.
theorem command_runs_on : ¬ ∀ (behind : List UInt8) (arrivals : List Arrival),
    Run.Meets (Isolated behind) (Run.trace (takeMessage behind) openPipe arrivals) := by
  intro claimed
  have second := claimed [] [⟨text "c office", true, true, []⟩, ⟨text "d lab", true, true, []⟩]
    (⟨text "c office" ++ List.replicate 1016 0, true⟩, ⟨text "d lab", true, true, []⟩) (by decide +kernel)
  have longer : cstring (arrived (text "c office" ++ List.replicate 1016 0) (text "d lab") ++ []) = text
    "d labice" := by
    decide +kernel
  exact absurd (longer.symm.trans second.1) (by decide +kernel)

end ZyAgf.Xl2tpd
