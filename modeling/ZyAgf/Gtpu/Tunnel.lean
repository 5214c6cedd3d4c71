import Mathlib.Algebra.Group.Int.Defs
import Mathlib.Algebra.Group.Nat.Defs
import Mathlib.Data.List.Basic
import Mathlib.Data.List.Infix

set_option autoImplicit false

namespace ZyAgf.Gtpu

def bufferSize : Nat := 1500

structure GtpHeader where
  flags : UInt8
  messageType : UInt8
  length : UInt16
  teid : UInt32
deriving DecidableEq, Repr

-- In network order, as it goes out.
def GtpHeader.bytes (h : GtpHeader) : List UInt8 :=
  [h.flags, h.messageType, (h.length >>> 8).toUInt8, h.length.toUInt8, (h.teid >>> 24).toUInt8, (h.teid >>> 16).toUInt8,
    (h.teid >>> 8).toUInt8, h.teid.toUInt8]

def gtpHeaderSize : Nat := 8

-- A signed size in size_t.
def sizeT (n : Int) : Nat := (n % 2 ^ 64).toNat

def memcpy (dst : List UInt8) (offset : Nat) (src : List UInt8) (count : Nat) : Option (List UInt8) :=
  if offset + count ≤ dst.length ∧ count ≤ src.length then
    some (dst.take offset ++ src.take count ++ dst.drop (offset + count))
  else none

def sendto (buffer : List UInt8) (count : Nat) : Option (List UInt8) :=
  if count ≤ buffer.length then some (buffer.take count) else none

def forwardToGtpu (buffer packet : List UInt8) (len : Int) (teid : UInt32) : Option (List UInt8) := do
  let gtp : GtpHeader := ⟨0x30, 0xff, UInt16.ofNat (len % 65536).toNat, teid⟩
  let buffer ← memcpy buffer 0 gtp.bytes gtpHeaderSize
  let buffer ← memcpy buffer gtpHeaderSize packet (sizeT len)
  sendto buffer (sizeT (gtpHeaderSize + len))

def ssizeMax : Nat := 2 ^ 63 - 1

-- What becomes of the write to the tun device, if there is one: bytes of the buffer
-- are written, or more than it has. A count above SSIZE_MAX is refused, and nothing
-- is written.
inductive TunWrite where
  | nothing
  | bytes (data : List UInt8)
  | refused
  | outside (count : Nat)
deriving DecidableEq, Repr

def writeTun (buffer : List UInt8) (offset count : Nat) : TunWrite :=
  if ssizeMax < count then .refused
  else if offset + count ≤ buffer.length then .bytes ((buffer.drop offset).take count)
  else .outside count

def processGtpuPacket (buffer : List UInt8) (len : Int) : TunWrite :=
  if buffer.getD 1 0 = 0xff then writeTun buffer gtpHeaderSize (sizeT (len - gtpHeaderSize)) else .nothing

-- read and recvfrom into the buffer of the main loop, which is the same for both.
def fill (buffer bytes : List UInt8) : List UInt8 × Int :=
  (bytes.take bufferSize ++ buffer.drop bytes.length, (min bytes.length bufferSize : Nat))

inductive Received where
  | failed
  | datagram (bytes : List UInt8)
deriving DecidableEq, Repr

def Received.bytes : Received → List UInt8
  | .failed => []
  | .datagram bytes => bytes

def recvfrom (buffer : List UInt8) : Received → List UInt8 × Int
  | .failed => (buffer, -1)
  | .datagram bytes => fill buffer bytes

def forwardedTeid : UInt32 := 0x12345678

def onTun (buffer stack packet : List UInt8) : Option (List UInt8) :=
  forwardToGtpu stack (fill buffer packet).1 (fill buffer packet).2 forwardedTeid

def onUdp (buffer : List UInt8) (received : Received) : TunWrite :=
  processGtpuPacket (recvfrom buffer received).1 (recvfrom buffer received).2

def Fits (packet : List UInt8) : Prop := gtpHeaderSize + packet.length ≤ bufferSize

instance (packet : List UInt8) : Decidable (Fits packet) := inferInstanceAs (Decidable (_ ≤ _))

theorem memcpy_some (dst : List UInt8) (offset : Nat) (src : List UInt8) (count : Nat)
    (fits : offset + count ≤ dst.length)
    (covered : count ≤ src.length) :
    memcpy dst offset src count = some (dst.take offset ++ src.take count ++ dst.drop (offset + count)) :=
      if_pos ⟨fits, covered⟩

theorem memcpy_none (dst : List UInt8) (offset : Nat) (src : List UInt8) (count : Nat)
    (beyond : dst.length < offset + count) :
    memcpy dst offset src count = none := if_neg fun both => Nat.not_lt.mpr both.1 beyond

theorem sizeT_small (n : Nat) (small : n < 2 ^ 64) : sizeT n = n := by
  unfold sizeT
  omega

theorem fill_length (buffer bytes : List UInt8) (sized : buffer.length = bufferSize) :
    (fill buffer bytes).1.length = bufferSize := by
  simp only [fill, List.length_append, List.length_take, List.length_drop, sized]
  omega

theorem fill_packet (buffer packet : List UInt8) (small : packet.length ≤ bufferSize) :
    fill buffer packet = (packet ++ buffer.drop packet.length, (packet.length : Int)) := by
  rw [fill, List.take_of_length_le small, Nat.min_eq_left small]

theorem memcpy_header (stack : List UInt8) (gtp : GtpHeader) (sized : stack.length = bufferSize) :
    memcpy stack 0 gtp.bytes gtpHeaderSize = some (gtp.bytes ++ stack.drop gtpHeaderSize) ∧
      (gtp.bytes ++ stack.drop gtpHeaderSize).length = bufferSize := by
  have header : gtp.bytes.length = gtpHeaderSize := rfl
  constructor
  · rw [memcpy_some stack 0 gtp.bytes gtpHeaderSize (by rw [sized]; decide) (Nat.le_of_eq header.symm), List.take_zero,
      List.nil_append, Nat.zero_add, ← header, List.take_length]
  · rw [List.length_append, header, List.length_drop, sized]
    decide

theorem sizeT_packet (packet : List UInt8) (small : packet.length ≤ bufferSize) :
    sizeT packet.length = packet.length ∧ sizeT
      (gtpHeaderSize + (packet.length : Int)) = gtpHeaderSize + packet.length := by
  have bound : packet.length ≤ 1500 := small
  have header : gtpHeaderSize = 8 := rfl
  exact ⟨sizeT_small _ (by omega), sizeT_small (gtpHeaderSize + packet.length) (by omega)⟩

theorem forwardToGtpu_fits (stack packet rest : List UInt8) (teid : UInt32) (sized : stack.length = bufferSize)
    (fits : Fits packet) :
    ∃ gtp : GtpHeader, gtp.messageType = 0xff ∧
      forwardToGtpu stack (packet ++ rest) packet.length teid = some (gtp.bytes ++ packet) := by
  let gtp : GtpHeader := ⟨0x30, 0xff, UInt16.ofNat ((packet.length : Int) % 65536).toNat, teid⟩
  refine ⟨gtp, rfl, ?_⟩
  have header : gtp.bytes.length = gtpHeaderSize := rfl
  obtain ⟨headed, length⟩ := memcpy_header stack gtp sized
  obtain ⟨count, whole⟩ := sizeT_packet packet (Nat.le_trans (Nat.le_add_left _ _) fits)
  have copied := memcpy_some (gtp.bytes ++ stack.drop gtpHeaderSize) gtpHeaderSize (packet ++ rest) packet.length
    (by rw [length]; exact fits) (by simp)
  rw [← header, List.take_left, List.take_left] at copied
  have sent (behind : List UInt8) : sendto (gtp.bytes ++ packet ++ behind) (gtpHeaderSize + packet.length) = some
    (gtp.bytes ++ packet) := by
    rw [sendto, ← header, ← List.length_append, if_pos (by simp), List.take_left]
  unfold forwardToGtpu
  simp only [Option.bind_eq_bind]
  rw [headed, Option.bind_some, count, ← header, copied, Option.bind_some, header, whole]
  exact sent _

theorem forwardToGtpu_over (stack packet rest : List UInt8) (teid : UInt32) (sized : stack.length = bufferSize)
    (small : packet.length ≤ bufferSize) (beyond : ¬ Fits packet) :
    forwardToGtpu stack (packet ++ rest) packet.length teid = none := by
  let gtp : GtpHeader := ⟨0x30, 0xff, UInt16.ofNat ((packet.length : Int) % 65536).toNat, teid⟩
  obtain ⟨headed, length⟩ := memcpy_header stack gtp sized
  unfold forwardToGtpu
  simp only [Option.bind_eq_bind]
  rw [headed, Option.bind_some, (sizeT_packet packet small).1,
    memcpy_none _ _ _ _ (by rw [length]; exact Nat.not_le.mp beyond)]
  rfl

-- The type that is looked at: without one of its own the packet has the last one's.
def typeByte (buffer : List UInt8) : Received → UInt8
  | .datagram (_ :: type :: _) => type
  | _ => buffer.getD 1 0

theorem recvfrom_type (buffer : List UInt8) (received : Received) :
    (recvfrom buffer received).1.getD 1 0 = typeByte buffer received := by
  cases received with
  | failed => rfl
  | datagram bytes =>
      cases bytes with
      | nil => rfl
      | cons first bytes =>
          cases bytes with
          | nil => cases buffer <;> rfl
          | cons type bytes => rfl

theorem recvfrom_length (buffer : List UInt8) (received : Received) (sized : buffer.length = bufferSize) :
    (recvfrom buffer received).1.length = bufferSize := by
  cases received with
  | failed => exact sized
  | datagram bytes => exact fill_length buffer bytes sized

theorem processGtpuPacket_long (buffer bytes : List UInt8) (sized : buffer.length = bufferSize)
    (long : gtpHeaderSize ≤ bytes.length)
    (known : typeByte buffer (.datagram bytes) = 0xff) :
    onUdp buffer (.datagram bytes) = .bytes ((bytes.take bufferSize).drop gtpHeaderSize) := by
  have limit : gtpHeaderSize ≤ bufferSize := by decide
  have enough : gtpHeaderSize ≤ min bytes.length bufferSize := Nat.le_min.mpr ⟨long, limit⟩
  have count : sizeT ((min bytes.length bufferSize : Nat) - (gtpHeaderSize : Int)) = min bytes.length bufferSize -
    gtpHeaderSize := by
    rw [← Int.ofNat_sub enough]
    refine sizeT_small _ ?_
    have small : min bytes.length bufferSize ≤ 1500 := Nat.min_le_right _ _
    omega
  have length : (recvfrom buffer (.datagram bytes)).1.length = bufferSize := recvfrom_length buffer _ sized
  have inside : gtpHeaderSize + (min bytes.length bufferSize - gtpHeaderSize) ≤
    (recvfrom buffer (.datagram bytes)).1.length := by
    rw [length, Nat.add_sub_cancel' enough]
    exact Nat.min_le_right _ _
  have small : ¬ ssizeMax < min bytes.length bufferSize - gtpHeaderSize := by
    have limits : ssizeMax = 2 ^ 63 - 1 ∧ bufferSize = 1500 := ⟨rfl, rfl⟩
    omega
  unfold onUdp processGtpuPacket
  rw [if_pos ((recvfrom_type buffer _).trans known),
    show (recvfrom buffer (.datagram bytes)).2 = (min bytes.length bufferSize : Nat) from rfl,
    count, writeTun, if_neg small, if_pos inside, ← List.drop_take]
  have taken : ((recvfrom buffer (.datagram bytes)).1).take (min bytes.length bufferSize) = bytes.take bufferSize := by
    have size : (bytes.take bufferSize).length = min bytes.length bufferSize := by rw [List.length_take, Nat.min_comm]
    change (bytes.take bufferSize ++ buffer.drop bytes.length).take _ = _
    rw [← size, List.take_left]
  rw [taken]

theorem processGtpuPacket_short (buffer : List UInt8) (received : Received)
    (short : received.bytes.length < gtpHeaderSize)
    (known : typeByte buffer received = 0xff) : onUdp buffer received = .refused := by
  have wraps : ssizeMax < sizeT ((recvfrom buffer received).2 - gtpHeaderSize) := by
    have negative : -9 ≤ (recvfrom buffer received).2 - gtpHeaderSize ∧
      (recvfrom buffer received).2 - gtpHeaderSize < 0 := by
      have header : gtpHeaderSize = 8 := rfl
      cases received with
      | failed =>
          rw [show (recvfrom buffer .failed).2 = -1 from rfl]
          omega
      | datagram bytes =>
          have count : (recvfrom buffer (.datagram bytes)).2 = (min bytes.length bufferSize : Nat) := rfl
          have below : min bytes.length bufferSize ≤ bytes.length := Nat.min_le_left _ _
          have few : bytes.length < gtpHeaderSize := short
          rw [count]
          omega
    have limit : ssizeMax = 2 ^ 63 - 1 := rfl
    unfold sizeT
    omega
  unfold onUdp processGtpuPacket
  rw [if_pos ((recvfrom_type buffer _).trans known), writeTun, if_pos wraps]

theorem processGtpuPacket_other (buffer : List UInt8) (received : Received) (other : typeByte buffer received ≠ 0xff) :
    onUdp buffer received = .nothing := if_neg (recvfrom_type buffer received ▸ other)

def RoundTrip (main stack packet : List UInt8) : Prop :=
  ∃ datagram, onTun main stack packet = some datagram ∧
    ∀ peer : List UInt8, peer.length = bufferSize → onUdp peer (.datagram datagram) = .bytes packet

def OnlyDatagram (main : List UInt8) (received : Received) : Prop :=
  onUdp main received = .nothing ∨ onUdp main received = .refused ∨ ∃ data, onUdp main received = .bytes data ∧
    data <:+: received.bytes

theorem roundTrip_iff (main stack packet : List UInt8) (sized : stack.length = bufferSize)
    (small : packet.length ≤ bufferSize) :
    RoundTrip main stack packet ↔ Fits packet := by
  unfold RoundTrip onTun
  rw [fill_packet main packet small]
  constructor
  · rintro ⟨datagram, forwarded, _⟩
    by_contra beyond
    rw [forwardToGtpu_over stack packet _ _ sized small beyond] at forwarded
    cases forwarded
  · intro fits
    obtain ⟨gtp, type, forwarded⟩ := forwardToGtpu_fits stack packet (main.drop packet.length) forwardedTeid sized fits
    refine ⟨_, forwarded, fun peer room => ?_⟩
    have header : gtp.bytes.length = gtpHeaderSize := rfl
    have length : (gtp.bytes ++ packet).length ≤ bufferSize := by
      rw [List.length_append, header]
      exact fits
    rw [processGtpuPacket_long peer (gtp.bytes ++ packet) room (by simp [header]) type, List.take_of_length_le length,
      ← header,
      List.drop_left]

theorem onlyDatagram_always (main : List UInt8) (received : Received)
    (sized : main.length = bufferSize) : OnlyDatagram main received := by
  unfold OnlyDatagram
  by_cases known : typeByte main received = 0xff
  · by_cases long : gtpHeaderSize ≤ received.bytes.length
    · cases received with
      | failed => exact absurd long (by decide)
      | datagram bytes =>
          refine .inr (.inr ⟨_, processGtpuPacket_long main bytes sized long known, ?_⟩)
          exact (List.drop_suffix _ _).isInfix.trans (List.take_prefix _ _).isInfix
    · exact .inr (.inl (processGtpuPacket_short main received (Nat.not_le.mp long) known))
  · exact .inl (processGtpuPacket_other main received known)

-- For every packet that is read and every datagram that is received, whatever the
-- main loop's buffer and the stack hold.
theorem gtpu_tunnel_iff (main stack packet : List UInt8) (received : Received) (mainSized : main.length = bufferSize)
    (stackSized : stack.length = bufferSize) (small : packet.length ≤ bufferSize) :
    (RoundTrip main stack packet ↔ Fits packet) ∧ OnlyDatagram main received :=
  ⟨roundTrip_iff main stack packet stackSized small, onlyDatagram_always main received mainSized⟩

theorem gtpu_tunnel_ping : RoundTrip (List.replicate 1500 0) (List.replicate 1500 7) [0x45, 0, 0, 28] ∧
    OnlyDatagram (List.replicate 1500 0) (.datagram [0x30, 0xff]) := by
  have both := gtpu_tunnel_iff (List.replicate 1500 0) (List.replicate 1500 7) [0x45, 0, 0, 28] (.datagram [0x30, 0xff])
    List.length_replicate List.length_replicate (by decide)
  exact ⟨both.1.mpr (by decide), both.2⟩

-- A packet of the tun device's own MTU.
theorem gtpu_tunnel_full :
    ¬ ∀ (main stack packet : List UInt8) (received : Received), main.length = bufferSize → stack.length = bufferSize →
      packet.length ≤ bufferSize → RoundTrip main stack packet ∧ OnlyDatagram main received := by
  intro claimed
  have trips := (claimed (List.replicate 1500 0) (List.replicate 1500 0)
    (List.replicate 1500 0x45) .failed List.length_replicate
    List.length_replicate (Nat.le_of_eq List.length_replicate)).1
  have fits := (roundTrip_iff _ _ _ List.length_replicate (Nat.le_of_eq List.length_replicate)).mp trips
  unfold Fits at fits
  rw [List.length_replicate] at fits
  revert fits
  decide

end ZyAgf.Gtpu
