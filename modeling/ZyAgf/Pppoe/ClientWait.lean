import ZyAgf.Library.Run
import ZyAgf.Pppoe.Client

set_option autoImplicit false

namespace ZyAgf.Pppoe.Client

structure Timeval where
  sec : Int
  usec : Int
deriving DecidableEq, Repr

def Timeval.micros (tv : Timeval) : Int := tv.sec * 1000000 + tv.usec

def Timeval.normalised (tv : Timeval) : Bool := 0 ≤ tv.usec && tv.usec < 1000000

-- Calculate the time remaining until expireAt. What is stored is left behind
-- when the time is up, too.
def timeLeft (now expireAt : Timeval) : Bool × Timeval :=
  let tv : Timeval := ⟨expireAt.sec - now.sec, expireAt.usec - now.usec⟩
  if tv.usec < 0 then
    let tv := { tv with usec := tv.usec + 1000000 }
    if tv.sec ≠ 0 then
      let tv := { tv with sec := tv.sec - 1 }
      (!(tv.sec ≤ 0 && tv.usec ≤ 0), tv)
    else (false, tv)
  else (!(tv.sec ≤ 0 && tv.usec ≤ 0), tv)

-- The packet on the stack of a wait. It is not initialised, and what a receive
-- does not overwrite stays for the next one.
def packetSize : Nat := hdrSize + ethJumboLen

abbrev Buffer := Vector UInt8 packetSize

-- The fields of the packet that lies at the start of these bytes.
def packetIn (bytes : List UInt8) : PPPoEPacket where
  hDest := macAt bytes 0
  hSource := macAt bytes 6
  vertype := bytes.getD 14 0
  code := bytes.getD 15 0
  session := UInt16.ofNat (byteAt bytes 17 * 256 + byteAt bytes 16)
  length := wordAt bytes 18
  payload := bytes.drop hdrSize

def Buffer.packet (buffer : Buffer) : PPPoEPacket := packetIn buffer.toList

-- What recv reports: the bytes it stored, as many as there is room for, or an
-- error that leaves the buffer as it was.
structure Frame where
  bytes : List UInt8
  fits : bytes.length ≤ packetSize

def Buffer.store (buffer : Buffer) (frame : Frame) : Buffer :=
  ⟨(frame.bytes ++ buffer.toList.drop frame.bytes.length).toArray, by
    have fits := frame.fits
    simp
    omega⟩

def receivePacket (buffer : Buffer) (received : Option Frame) : Buffer × Int :=
  match received with
  | none => (buffer, -1)
  | some frame => (buffer.store frame, frame.bytes.length)

-- The sum on the left has the type of sizeof, so the size is converted to it.
def sizeT (len : Int) : Nat := (len % 2 ^ 64).toNat

theorem sizeT_natCast (n : Nat) (small : n < 2 ^ 64) : sizeT n = n := by
  unfold sizeT
  omega

def lengthChecked (packet : PPPoEPacket) (len : Int) : Bool := ¬ packet.length + hdrSize > sizeT len

-- What is left of a timeout when a signal interrupts select.
structure Remainder where
  tv : Timeval
  valid : tv.normalised = true ∧ 0 ≤ tv.sec

inductive Outcome where
  | failed
  | timedOut
  | ready (received : Option Frame)

-- What one pass of a wait meets: the clock, signals that interrupt select, and
-- what select reports in the end.
structure Pass where
  now : Timeval
  normalised : now.normalised = true
  interrupted : List Remainder
  outcome : Outcome

inductive Status where
  | waiting
  | timedOut
  | answered
  | exited
deriving DecidableEq, Repr

structure Wait where
  conn : Connection
  buffer : Buffer
  status : Status

-- The timeouts that one pass hands to select, one call after the other.
def selectCalls (expireAt : Timeval) (pass : Pass) : List Timeval :=
  match timeLeft pass.now expireAt with
  | (false, _) => []
  | (true, tv) => tv :: pass.interrupted.map Remainder.tv

section Loop

variable (receive : Connection → PPPoEPacket → Option Connection) (last : DiscoveryState) (expireAt : Timeval)

-- The rest of a pass once select found something to read. The loop goes on until
-- the state is the last one.
def takePacket (wait : Wait) (received : Option Frame) : Wait :=
  let (buffer, len) := receivePacket wait.buffer received
  let judged := if lengthChecked buffer.packet len then receive wait.conn buffer.packet else some wait.conn
  match judged with
  | none => ⟨wait.conn, buffer, .exited⟩
  | some conn => ⟨conn, buffer, if conn.discoveryState = last then .answered else .waiting⟩

def onePass (wait : Wait) (pass : Pass) : Wait :=
  match timeLeft pass.now expireAt with
  | (false, _) => { wait with status := .timedOut }
  | (true, _) =>
      match pass.outcome with
      | .failed => { wait with status := .exited }
      | .timedOut => { wait with status := .timedOut }
      | .ready received => takePacket receive last wait received

def waitStep (wait : Wait) (pass : Pass) : Option Wait :=
  if wait.status = .waiting then some (onePass receive last expireAt wait pass) else none

end Loop

def expiry (begun : Timeval) (timeout : Int) : Timeval := { begun with sec := begun.sec + timeout }

def beginPADO (conn : Connection) (buffer : Buffer) : Wait :=
    ⟨{ conn with discoveryState := .sentPADI }, buffer, .waiting⟩

def waitForPADO (req : Request) (expireAt : Timeval) : Wait → Pass → Option Wait :=
  waitStep req.receivePADO .receivedPADO expireAt

def beginPADS (conn : Connection) (buffer : Buffer) : Wait :=
    ⟨{ conn with discoveryState := .sentPADR }, buffer, .waiting⟩

def waitForPADS (req : Request) (expireAt : Timeval) : Wait → Pass → Option Wait :=
  waitStep (fun conn packet => some (req.receivePADS conn packet)) .session expireAt

end ZyAgf.Pppoe.Client
