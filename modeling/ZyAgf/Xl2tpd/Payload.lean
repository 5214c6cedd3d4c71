import ZyAgf.Xl2tpd.State

set_option autoImplicit false

namespace ZyAgf.Xl2tpd

structure PayloadHdr where
  ver : U16
  length : U16
  tid : U16
  cid : U16
  Ns : U16
  Nr : U16
  oSize : U16
deriving DecidableEq, Repr

def words (present : Bool) (count : Nat) : Nat := if present then count else 0

def checkPayload (sanity : Bool) (buf : RecvBuffer) : Int :=
  let ver := hostWord buf.mem 0
  let length := hostWord buf.mem 2
  let ehlen := minPayloadHdrLen + words (PLBIT ver) 2 + words (PFBIT ver) 4 + words (PSBIT ver) 2 +
    words (PLBIT ver) length.toNat
  if buf.len < minPayloadHdrLen then einval
  else if ¬ sanity then 0
  else if PTBIT ver then einval
  else if PVER ver ≠ verL2tp then einval
  else if buf.len < ehlen ∧ ¬ PLBIT ver then einval
  else if buf.len ≠ length.toNat ∧ PLBIT ver then einval
  else 0

-- How far the header grows when the fields it lacks are filled in. The buffer
-- keeps ten bytes free in front, so there is always room.
def missingBytes (ver : U16) : Nat := words (!PLBIT ver) 2 + words (!PFBIT ver) 4 + words (!PSBIT ver) 2

def expandHdr (buf : RecvBuffer) (c : Call) : PayloadHdr :=
  let ver := hostWord buf.mem 0
  let ids := 2 + words (PLBIT ver) 2
  let offset := ids + 4 + words (PFBIT ver) 4
  { ver := ver
    length := if PLBIT ver then hostWord buf.mem 2 else BitVec.ofNat 16 (buf.len + missingBytes ver)
    tid := hostWord buf.mem ids
    cid := hostWord buf.mem (ids + 2)
    Ns := if PFBIT ver then hostWord buf.mem (ids + 4) else c.dataRecSeqNum
    Nr := if PFBIT ver then hostWord buf.mem (ids + 6) else c.dataSeqNum
    oSize := if PSBIT ver then hostWord buf.mem offset else 0 }

-- The comparisons are made on ints, so the second half of the first test is
-- never true. What is compared for equality is the number we would send next.
def expandPayload (buf : RecvBuffer) (c : Call) : Option (Call × PayloadHdr × Nat) :=
  let h := expandHdr buf c
  let len := buf.len + missingBytes h.ver
  let ns : Int := h.Ns.toNat
  let rec' : Int := c.dataRecSeqNum.toNat
  if h.Ns ≠ c.dataSeqNum then
    if ns < rec' ∧ rec' - ns < 32768 ∨ ns > rec' ∧ rec' - ns > 32768 then none
    else if ns ≤ rec' + payloadFudge then some ({ c with dataRecSeqNum := h.Ns, pLr := h.Nr.toNat }, h, len)
    else none
  else some ({ c with dataRecSeqNum := c.dataRecSeqNum + 1, pLr := h.Nr.toNat }, h, len)

-- What handle_packet makes of a data packet: the call as it is left, and the
-- header and length of the frame to be written to pppd, if there is one.
def takePayload (sanity : Bool) (buf : RecvBuffer) (c : Call) : Call × Option (PayloadHdr × Nat) :=
  if checkPayload sanity buf ≠ 0 then (c, none)
  else
    match expandPayload buf c with
    | none => (c, none)
    | some (after, h, len) =>
        if len > payloadHdrSize then (after, some (h, len))
        else if len = payloadHdrSize then ({ after with dataRecSeqNum := after.dataRecSeqNum - 1 }, none)
        else (after, none)

-- add_payload_hdr: the header a frame from pppd is sent under.
def payloadHeader (tid cid : Int) (c : Call) (frame : List UInt8) : List UInt8 :=
  let sequenced := c.fbit || c.ourfbit
  let ver : U16 := (if c.lbit then 0x4000 else 0) ||| (if sequenced then 0x0800 else 0) ||| verL2tp
  let size := frame.length + minPayloadHdrLen + words c.lbit 2 + words sequenced 4
  wordBytes ver ++ (if c.lbit then wordBytes (BitVec.ofNat 16 size) else []) ++ wordBytes (BitVec.ofInt 16 tid) ++
    wordBytes (BitVec.ofInt 16 cid) ++ if sequenced then wordBytes c.dataSeqNum ++ wordBytes c.dataRecSeqNum else []

def Call.sentPayload (c : Call) : Call := { c with dataSeqNum := c.dataSeqNum + 1 }

end ZyAgf.Xl2tpd
