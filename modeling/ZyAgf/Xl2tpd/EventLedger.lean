import ZyAgf.Xl2tpd.Purge

set_option autoImplicit false

namespace ZyAgf.Xl2tpd.Purge

-- The queue and the records its events point at. Addresses below fresh have been
-- handed out and are not handed out again; made are the buffers of control
-- messages, and freed is what toss was called on.
structure Ledger where
  block : Nat → Block
  events : List (Queued Task)
  fresh : Nat
  made : List Nat
  freed : List Nat

abbrev Act := Prog Ledger

def load {α : Type} (kind : Block → Option α) (p : Nat) : Act α := do
  let s ← get
  match kind (s.block p) with
  | some a => return a
  | none => Prog.wrong

def store (p : Nat) (block : Block) : Act PUnit :=
  modify fun s => { s with block := write s.block p block }

def setTunnel (t : Nat) (change : TunnelBlock → TunnelBlock) : Act PUnit := do
  let tun ← load Block.tunnel? t
  store t (.tunnel (change tun))

def setCall (c : Nat) (change : CallBlock → CallBlock) : Act PUnit := do
  let cal ← load Block.call? c
  store c (.call (change cal))

def setLac (l : Nat) (change : LacBlock → LacBlock) : Act PUnit := do
  let entry ← load Block.lac? l
  store l (.lac (change entry))

def Ledger.release (s : Ledger) (p : Nat) : Ledger := { s with block := write s.block p (.free (s.block p).word) }

def toss (b : Nat) : Act PUnit :=
  modify fun s => { s.release b with freed := s.freed ++ [b] }

def schedule (now tv : Timeval) (func : Task) : Act PUnit :=
  modify fun s => { s with events := Scheduler.place ⟨s.fresh, now.after tv, func⟩ s.events, fresh := s.fresh + 1 }

def newOutgoing (t : Nat) : Act Nat := do
  let _ ← load Block.tunnel? t
  let s ← get
  modify fun s => { s with block := write s.block s.fresh (.buffer ⟨0, 0, t⟩), fresh := s.fresh + 1, made := s.fresh :: s.made }
  return s.fresh

def addControlHdr (t : Nat) (b : Nat) : Act PUnit := do
  let tun ← load Block.tunnel? t
  let buf ← load Block.buffer? b
  store b (.buffer { buf with ns := tun.controlSeqNum })
  setTunnel t fun tun => { tun with controlSeqNum := tun.controlSeqNum + 1 }

def redialLater (now : Timeval) (l : Nat) : Act PUnit := do
  let entry ← load Block.lac? l
  Prog.onlyWhen (entry.redial ∧ 0 < entry.rtimeout ∧ ¬ entry.rsched ∧ entry.active) do
    schedule now ⟨entry.rtimeout, 0⟩ (.magicLacDial l)
    setLac l fun entry => { entry with rsched := true }

def leaveLac (now : Timeval) : Option Nat → Act PUnit
  | none => pure ()
  | some l => redialLater now l

def destroyCall (now : Timeval) (c : Nat) : Act PUnit := do
  let cal ← load Block.call? c
  setTunnel cal.container fun tun => { tun with calls := tun.calls.erase c }
  leaveLac now cal.lac
  modify fun s => s.release c

def destroyTunnel (now : Timeval) (t : Nat) : Act PUnit := do
  let tun ← load Block.tunnel? t
  tun.calls.forM (destroyCall now)
  leaveLac now tun.lac
  leaveLac now tun.selfLac
  modify fun s => s.release t

def purgeTunnel (t : Nat) : Act PUnit := do
  let s ← get
  let walked := purge (fun p => (s.block p).word) t s.events
  modify fun s => { s with events := walked.1 }
  walked.2.forM toss

-- What call_close is called on: a tunnel's self entry or one of its calls.
inductive Entry where
  | self (t : Nat)
  | member (c : Nat)
deriving DecidableEq, Repr

-- The depth bounds how often sending and closing call each other.
mutual
def controlXmit (maxRetries : Int) (now : Timeval) : Nat → Nat → Act PUnit
  | 0, _ => Prog.wrong
  | depth + 1, b => do
      let buf ← load Block.buffer? b
      store b (.buffer { buf with retries := buf.retries + 1 })
      if buf.tunnel = 0 then
        if maxRetries < buf.retries + 1 then toss b else Prog.wrong
      else do
        let tun ← load Block.tunnel? buf.tunnel
        if buf.ns.toNat < tun.cLr.toNat then toss b
        else if maxRetries < buf.retries + 1 then do
          setTunnel buf.tunnel fun tun =>
            if tun.needclose then { tun with needclose := false, closing := true } else { tun with needclose := true }
          callClose maxRetries now depth (.self buf.tunnel)
          toss b
        else schedule now ⟨2 ^ min buf.retries.toNat 31, 0⟩ (.controlXmit b)
def callClose (maxRetries : Int) (now : Timeval) : Nat → Entry → Act PUnit
  | 0, _ => Prog.wrong
  | depth + 1, .self t => do
      let tun ← load Block.tunnel? t
      purgeTunnel t
      if tun.closing then destroyTunnel now t
      else do
        let buf ← newOutgoing t
        addControlHdr t buf
        controlXmit maxRetries now depth buf
        let tun ← load Block.tunnel? t
        tun.calls.forM fun tmp => do
          setCall tmp fun cal => { cal with closing := true }
          callClose maxRetries now depth (.member tmp)
        setTunnel t fun tun => { tun with closing := true }
  | depth + 1, .member c => do
      let cal ← load Block.call? c
      if cal.closing then destroyCall now c
      else do
        let buf ← newOutgoing cal.container
        addControlHdr cal.container buf
        controlXmit maxRetries now depth buf
        setCall c fun cal => { cal with closing := true }
end

def helloDelay : Timeval := ⟨60, 0⟩

def hello (maxRetries : Int) (now : Timeval) (depth : Nat) (t : Nat) : Act PUnit := do
  let buf ← newOutgoing t
  addControlHdr t buf
  controlXmit maxRetries now depth buf
  schedule now helloDelay (.hello t)

-- One round of process_schedule: the first event, when it is due. Dialling is
-- done by the moves that follow, and send_zlb only sends a payload packet.
def turn (maxRetries : Int) (now : Timeval) (depth : Nat) : Act PUnit := do
  let s ← get
  match Scheduler.turn now s.events with
  | .returns _ => pure ()
  | .runs p rest => do
      modify fun s => { s with events := rest }
      match p.func with
      | .hello t => hello maxRetries now depth t
      | .controlXmit b => controlXmit maxRetries now depth b
      | .magicLacDial _ => pure ()
      | .sendZlb _ => pure ()

-- Whatever else the daemon writes into its records leaves their kind as it is,
-- and it never writes into a control message it has sent.
def Block.becomes : Block → Block → Bool
  | .tunnel _, .tunnel _ => true
  | .lac _, .lac _ => true
  | .call _, .call _ => true
  | .free _, .free _ => true
  | _, _ => false

def Block.record : Block → Bool
  | .tunnel _ => true
  | .lac _ => true
  | .call _ => true
  | _ => false

-- What the rest of the daemon does to the queue and its records, in any order:
-- it makes, changes and frees tunnels, calls and LAC entries, schedules a dialling
-- or a first Hello, sends a control message or gives one up unsent, and closes.
inductive Move where
  | allocate (block : Block)
  | adjust (p : Nat) (block : Block)
  | release (p : Nat)
  | dial (now tv : Timeval) (l : Nat)
  | startHello (now : Timeval) (t : Nat)
  | send (now : Timeval) (t : Nat)
  | discard (t : Nat)
  | close (now : Timeval) (entry : Entry)
  | turn (now : Timeval)

def perform (maxRetries : Int) (depth : Nat) : Move → Act PUnit
  | .allocate block =>
      if block.record then modify fun s => { s with block := write s.block s.fresh block, fresh := s.fresh + 1 }
      else Prog.wrong
  | .adjust p block => do
      let s ← get
      if (s.block p).becomes block then store p block else Prog.wrong
  | .release p => do
      let s ← get
      if (s.block p).record ∧ (s.block p).tunnel? = none then modify fun s => s.release p else Prog.wrong
  | .dial now tv l => do
      let _ ← load Block.lac? l
      schedule now tv (.magicLacDial l)
  | .startHello now t => do
      let _ ← load Block.tunnel? t
      schedule now helloDelay (.hello t)
  | .send now t => do
      let buf ← newOutgoing t
      addControlHdr t buf
      controlXmit maxRetries now depth buf
  | .discard t => do
      let buf ← newOutgoing t
      toss buf
  | .close now entry => callClose maxRetries now depth entry
  | .turn now => turn maxRetries now depth

def next (maxRetries : Int) (depth : Nat) (s : Ledger) (move : Move) : Option Ledger :=
  (perform maxRetries depth move s).map Prod.snd

def Ledger.start : Ledger := ⟨fun _ => .free 0, [], 1, [], []⟩

def Ledger.queued (s : Ledger) (b : Nat) : Nat := s.events.countP fun e => e.func == .controlXmit b

-- Every Hello and every retransmission is one of a live tunnel, and a control
-- message is in the queue once, or has been freed once.
structure Settled (s : Ledger) : Prop where
  hello : ∀ e ∈ s.events, ∀ t, e.func = .hello t → (s.block t).tunnel?.isSome = true
  xmit : ∀ e ∈ s.events, ∀ b, e.func = .controlXmit b →
    ∃ buf, s.block b = .buffer buf ∧ (s.block buf.tunnel).tunnel?.isSome = true
  once : ∀ b ∈ s.made, s.queued b = 1 ∧ s.freed.count b = 0 ∨ s.queued b = 0 ∧ s.freed.count b = 1

-- The tunnel whose events a step purges, if it does. A message sent for the first
-- time purges nothing where one transmission at least is allowed.
def purges (maxRetries : Int) (s : Ledger) : Move → Option Nat
  | .close _ (.self t) => some t
  | .turn now =>
      match Scheduler.turn now s.events with
      | .runs ⟨_, _, .controlXmit b⟩ _ => do
          let buf ← (s.block b).buffer?
          let tun ← (s.block buf.tunnel).tunnel?
          if buf.ns.toNat < tun.cLr.toNat ∨ buf.retries + 1 ≤ maxRetries then none else some buf.tunnel
      | _ => none
  | _ => none

def Meets (maxRetries : Int) (s : Ledger) (move : Move) : Prop :=
  0 < maxRetries ∧ ∀ t ∈ purges maxRetries s move, NoStray s.block t s.events

instance (maxRetries : Int) (s : Ledger) (move : Move) : Decidable (Meets maxRetries s move) :=
  inferInstanceAs (Decidable (_ ∧ _))

end ZyAgf.Xl2tpd.Purge
