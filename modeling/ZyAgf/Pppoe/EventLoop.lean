import ZyAgf.Library.Chain
import ZyAgf.Library.Run

set_option autoImplicit false

namespace ZyAgf.Pppoe.EventLoop

structure Timeval where
  sec : Int
  usec : Int
deriving DecidableEq

-- The bits of the flags word that mean something.
structure Flags where
  readable : Bool
  writeable : Bool
  timer : Bool
  timeout : Bool
  deleted : Bool
deriving DecidableEq

def Flags.none : Flags := ⟨false, false, false, false, false⟩

def Flags.timerBits (flags : Flags) : Bool := flags.timer || flags.timeout

-- A handler with the callback and the data of its owner, which may be anything.
structure EventHandler (φ δ : Type) where
  next : Option Nat
  fd : Int
  flags : Flags
  tmout : Timeval
  fn : φ
  data : δ
deriving DecidableEq

-- What an activation of Event_HandleEvent keeps on the stack: what select and
-- the clock said, the handler it has come to, and whether its callback is
-- being called. Activations are numbered.
structure Pass where
  serial : Nat
  readfds : Int → Bool
  writefds : Int → Bool
  now : Timeval
  eh : Option Nat
  calling : Bool

-- Addresses below fresh have been handed out by malloc; they are not reused.
structure EventSelector (φ δ : Type) where
  heap : Nat → Option (EventHandler φ δ)
  handlers : Option Nat
  nestLevel : Nat
  opsPending : Bool
  destroyPending : Bool
  freed : Bool
  fresh : Nat
  begun : Nat
  passes : List Pass

section Source

variable {φ δ : Type}

def createSelector : EventSelector φ δ where
  heap := fun _ => none
  handlers := none
  nestLevel := 0
  opsPending := false
  destroyPending := false
  freed := false
  fresh := 0
  begun := 0
  passes := []

def EventSelector.nextOf (es : EventSelector φ δ) (x : Nat) : Option Nat := (es.heap x).bind EventHandler.next

def update (x : Nat) (change : EventHandler φ δ → EventHandler φ δ) (es : EventSelector φ δ) : Option
    (EventSelector φ δ) :=
  (es.heap x).map fun eh => { es with heap := write es.heap x (some (change eh)) }

def destroyHandler (x : Nat) (es : EventSelector φ δ) : Option (EventSelector φ δ) :=
  (es.heap x).map fun _ => { es with heap := write es.heap x none }

def patch (prev next : Option Nat) (es : EventSelector φ δ) : Option (EventSelector φ δ) :=
  match prev with
  | some p => update p (fun eh => { eh with next := next }) es
  | none => some { es with handlers := next }

def addFirst (memory : Bool) (eh : EventHandler φ δ) (es : EventSelector φ δ) : EventSelector φ δ :=
  if memory then
    { es with
      heap := write es.heap es.fresh (some { eh with next := es.handlers })
      handlers := some es.fresh
      fresh := es.fresh + 1 }
  else es

def addHandler (memory : Bool) (fd : Int) (flags : Flags) (fn : φ) (data : δ)
    (es : EventSelector φ δ) : EventSelector φ δ :=
  if fd < 0 then es
  else addFirst memory ⟨none, fd, { flags with timer := false, timeout := false, deleted := false }, ⟨0, 0⟩, fn, data⟩
    es

def absolute (now t : Timeval) : Timeval :=
  if now.usec + t.usec ≥ 1000000 then ⟨now.sec + t.sec + 1, now.usec + t.usec - 1000000⟩
  else ⟨now.sec + t.sec, now.usec + t.usec⟩

def addHandlerWithTimeout (memory : Bool) (now : Timeval) (fd : Int) (flags : Flags) (t : Timeval) (fn : φ) (data : δ)
    (es : EventSelector φ δ) : EventSelector φ δ :=
  if t.sec < 0 ∨ t.usec < 0 then addHandler memory fd flags fn data es
  else if fd < 0 then es
  else if t.usec ≥ 1000000 then es
  else
    addFirst memory ⟨none, fd, { flags with timer := false, timeout := true, deleted := false }, absolute now t, fn,
      data⟩ es

def addTimerHandler (memory : Bool) (now t : Timeval) (fn : φ) (data : δ)
    (es : EventSelector φ δ) : EventSelector φ δ :=
  if t.sec < 0 ∨ t.usec < 0 ∨ t.usec ≥ 1000000 then es
  else addFirst memory ⟨none, -1, { Flags.none with timer := true }, absolute now t, fn, data⟩ es

def delHandler (eh : Nat) (es : EventSelector φ δ) : Option (EventSelector φ δ) :=
  match before es.nextOf (es.fresh + 1) es.handlers none eh with
  | none => some es
  | some prev =>
      if es.nestLevel ≠ 0 then
        (update eh (fun h => { h with flags := { h.flags with deleted := true } }) es).map fun es =>
          { es with opsPending := true }
      else (patch prev (es.nextOf eh) es).bind (destroyHandler eh)

def setCallbackAndData (eh : Nat) (fn : φ) (data : δ) (es : EventSelector φ δ) : Option (EventSelector φ δ) :=
  update eh (fun h => { h with fn := fn, data := data }) es

def changeTimeout (now : Timeval) (eh : Nat) (t : Timeval) (es : EventSelector φ δ) : Option (EventSelector φ δ) :=
  if t.sec < 0 ∨ t.usec < 0 ∨ t.usec ≥ 1000000 then some es
  else update eh (fun h => { h with tmout := absolute now t }) es

-- The handlers are freed one after the other, and then the selector itself.
def destroyFrom : Nat → Option Nat → EventSelector φ δ → Option (EventSelector φ δ)
  | 0, _, _ => none
  | _ + 1, none, es => some { es with handlers := none, freed := true }
  | fuel + 1, some cur, es => (destroyHandler cur es).bind (destroyFrom fuel (es.nextOf cur))

def destroyNow (es : EventSelector φ δ) : Option (EventSelector φ δ) := destroyFrom (es.fresh + 1) es.handlers es

def destroySelector (es : EventSelector φ δ) : Option (EventSelector φ δ) :=
  if es.nestLevel ≠ 0 then some { es with destroyPending := true, opsPending := true } else destroyNow es

def sweep : Nat → Option Nat → Option Nat → EventSelector φ δ → Option (EventSelector φ δ)
  | 0, _, _, _ => none
  | _ + 1, _, none, es => some es
  | fuel + 1, prev, some cur, es =>
      match es.heap cur with
      | none => none
      | some eh =>
          if ¬ eh.flags.deleted then sweep fuel (some cur) eh.next es
          else ((patch prev eh.next es).bind (destroyHandler cur)).bind (sweep fuel prev eh.next)

def doPendingChanges (es : EventSelector φ δ) : Option (EventSelector φ δ) :=
  let es := { es with opsPending := false }
  if es.destroyPending then destroyNow es else sweep (es.fresh + 1) none es.handlers es

-- What select and the clock come to for one activation: no result, or which
-- descriptors are ready.
structure Poll where
  failed : Bool
  readfds : Int → Bool
  writefds : Int → Bool
  now : Timeval

-- Event_HandleEvent up to its loop over the handlers.
def enter (poll : Poll) (es : EventSelector φ δ) : EventSelector φ δ :=
  { es with
    nestLevel := es.nestLevel + 1
    begun := es.begun + 1
    passes := ⟨es.begun, poll.readfds, poll.writefds, poll.now, if poll.failed then none else es.handlers, false⟩ ::
      es.passes }

def Timeval.past (tmout now : Timeval) : Bool := tmout.sec < now.sec ∨ tmout.sec = now.sec ∧ tmout.usec ≤ now.usec

def ready (pass : Pass) (eh : EventHandler φ δ) : Flags :=
  let due := eh.flags.timerBits && eh.tmout.past pass.now
  ⟨eh.flags.readable && pass.readfds eh.fd, eh.flags.writeable && pass.writefds eh.fd, due, due, false⟩

def Flags.any (flags : Flags) : Bool := flags.readable || flags.writeable || flags.timer || flags.timeout

-- Timer events are only called once.
def expires (pass : Pass) (eh : EventHandler φ δ) : Bool := eh.flags.timer && (ready pass eh).timer

-- The body of the loop for one handler: up to its callback, or past it.
def visit (pass : Pass) (rest : List Pass) (x : Nat) (es : EventSelector φ δ) : Option (EventSelector φ δ) :=
  match es.heap x with
  | none => none
  | some eh =>
      if eh.flags.deleted then some { es with passes := { pass with eh := eh.next } :: rest }
      else
        let es := if expires pass eh then
            { es with
              heap := write es.heap x (some { eh with flags := { eh.flags with deleted := true } })
              opsPending := true }
          else es
        if (ready pass eh).any then some { es with passes := { pass with calling := true } :: rest }
        else some { es with passes := { pass with eh := eh.next } :: rest }

def goOn (pass : Pass) (rest : List Pass) (x : Nat) (es : EventSelector φ δ) : Option (EventSelector φ δ) :=
  (es.heap x).map fun eh => { es with passes := { pass with eh := eh.next, calling := false } :: rest }

def leave (rest : List Pass) (es : EventSelector φ δ) : Option (EventSelector φ δ) :=
  let es := { es with nestLevel := es.nestLevel - 1, passes := rest }
  if es.nestLevel = 0 ∧ es.opsPending then doPendingChanges es else some es

-- Whoever runs between two steps of the loop, the program around it or a
-- callback, calls what it likes. Between two handlers nobody does.
def EventSelector.quiet (es : EventSelector φ δ) : Bool :=
  match es.passes with
  | [] => true
  | pass :: _ => pass.calling

inductive Move (φ δ : Type) where
  | addHandler (memory : Bool) (fd : Int) (flags : Flags) (fn : φ) (data : δ)
  | addHandlerWithTimeout (memory : Bool) (now : Timeval) (fd : Int) (flags : Flags) (t : Timeval) (fn : φ) (data : δ)
  | addTimerHandler (memory : Bool) (now t : Timeval) (fn : φ) (data : δ)
  | delHandler (eh : Nat)
  | setCallbackAndData (eh : Nat) (fn : φ) (data : δ)
  | changeTimeout (now : Timeval) (eh : Nat) (t : Timeval)
  | destroySelector
  | handleEvent (poll : Poll)
  | advance

-- One step of the innermost activation: its callback returns, it looks at the
-- next handler, or it is done.
def advance (es : EventSelector φ δ) : Option (EventSelector φ δ) :=
  match es.passes with
  | [] => none
  | pass :: rest =>
      match pass.eh with
      | none => leave rest es
      | some x => if pass.calling then goOn pass rest x es else visit pass rest x es

def calls (es : EventSelector φ δ) : Move φ δ → Option (EventSelector φ δ)
  | .addHandler memory fd flags fn data => some (addHandler memory fd flags fn data es)
  | .addHandlerWithTimeout memory now fd flags t fn data =>
      some (addHandlerWithTimeout memory now fd flags t fn data es)
  | .addTimerHandler memory now t fn data => some (addTimerHandler memory now t fn data es)
  | .delHandler eh => delHandler eh es
  | .setCallbackAndData eh fn data => setCallbackAndData eh fn data es
  | .changeTimeout now eh t => changeTimeout now eh t es
  | .destroySelector => destroySelector es
  | .handleEvent poll => some (enter poll es)
  | .advance => none

def step (es : EventSelector φ δ) (move : Move φ δ) : Option (EventSelector φ δ) :=
  if es.freed then none
  else
    match move with
    | .advance => advance es
    | other => if es.quiet then calls es other else none

end Source

end ZyAgf.Pppoe.EventLoop
