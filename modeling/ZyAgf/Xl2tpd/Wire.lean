import Mathlib.Data.List.Basic
import ZyAgf.Library.Serial

set_option autoImplicit false

namespace ZyAgf.Xl2tpd

abbrev U16 := BitVec 16

abbrev CString := List UInt8

def cstring (bytes : List UInt8) : CString := bytes.takeWhile (· ≠ 0)

def text (literal : String) : CString := literal.toList.map fun c => UInt8.ofNat c.toNat

def maxStrLen : Nat := 120

def safeCopy (bytes : List UInt8) (size : Nat) : CString := cstring (bytes.take (min size (maxStrLen - 1)))

def controlHdrSize : Nat := 12
def payloadHdrSize : Nat := 14
def minPayloadHdrLen : Nat := 6
def payloadFudge : Nat := 2
def avpHdrSize : Nat := 6
def avpMax : Nat := 39
def mdSigSize : Nat := 16
def vectorSize : Nat := 16
def maxVectorSize : Nat := 1024
def verL2tp : U16 := 2

def byteAt (mem : List UInt8) (offset : Nat) : UInt8 := mem.getD offset 0

def bytesAt (mem : List UInt8) (offset count : Nat) : List UInt8 := (mem.drop offset).take count

-- The host is little-endian: a word loads low byte first, and ntohs turns it
-- into the order of the wire.
def hostWord (mem : List UInt8) (offset : Nat) : U16 :=
  (byteAt mem (offset + 1)).toBitVec ++ (byteAt mem offset).toBitVec

def netWord (mem : List UInt8) (offset : Nat) : U16 :=
  (byteAt mem offset).toBitVec ++ (byteAt mem (offset + 1)).toBitVec

def wordBytes (word : U16) : List UInt8 := [UInt8.ofNat (word.toNat / 256), UInt8.ofNat word.toNat]

def longBytes (n : Nat) : List UInt8 := wordBytes (BitVec.ofNat 16 (n / 65536)) ++ wordBytes (BitVec.ofNat 16 n)

def storeHostWord (mem : List UInt8) (offset : Nat) (word : U16) : List UInt8 :=
  (mem.set offset (UInt8.ofNat word.toNat)).set (offset + 1) (UInt8.ofNat (word.toNat / 256))

def swaps (mem : List UInt8) (offset : Nat) : Nat → List UInt8
  | 0 => mem
  | words + 1 =>
      swaps ((mem.set offset (byteAt mem (offset + 1))).set (offset + 1) (byteAt mem offset)) (offset + 2) words

def CTBIT (ver : U16) : Bool := ver.getLsbD 15
def CLBIT (ver : U16) : Bool := ver.getLsbD 14
def CFBIT (ver : U16) : Bool := ver.getLsbD 11
def CVER (ver : U16) : U16 := ver &&& 7
def PTBIT (ver : U16) : Bool := CTBIT ver
def PLBIT (ver : U16) : Bool := CLBIT ver
def PFBIT (ver : U16) : Bool := CFBIT ver
def PSBIT (ver : U16) : Bool := ver.getLsbD 9
def PVER (ver : U16) : U16 := CVER ver

-- The T bit is looked for in the version word before its bytes are swapped, so
-- what is tested is the top bit of the datagram's second byte.
def fixHdr (mem : List UInt8) : List UInt8 :=
  let ver := netWord mem 0
  if CTBIT (hostWord mem 0) then swaps mem 0 6
  else
    swaps mem 0 (3 + (if PSBIT ver then 1 else 0) + (if PLBIT ver then 1 else 0) + (if PFBIT ver then 2 else 0))

def extract (mem : List UInt8) : Nat × Nat :=
  if PLBIT (hostWord mem 0) then ((hostWord mem 4).toNat, (hostWord mem 6).toNat)
  else ((hostWord mem 2).toNat, (hostWord mem 4).toNat)

-- A received datagram in the daemon's buffer. The tail is what older packets
-- and the allocator left behind it; the parsers may read that far.
structure RecvBuffer where
  mem : List UInt8
  len : Nat
deriving DecidableEq, Repr

structure ControlHdr where
  ver : U16
  length : U16
  tid : U16
  cid : U16
  Ns : U16
  Nr : U16
deriving DecidableEq, Repr

def controlHdr (mem : List UInt8) : ControlHdr where
  ver := hostWord mem 0
  length := hostWord mem 2
  tid := hostWord mem 4
  cid := hostWord mem 6
  Ns := hostWord mem 8
  Nr := hostWord mem 10

def ControlHdr.wire (h : ControlHdr) : List UInt8 :=
  wordBytes h.ver ++ wordBytes h.length ++ wordBytes h.tid ++ wordBytes h.cid ++ wordBytes h.Ns ++ wordBytes h.Nr

inductive Msg where
  | SCCRQ | SCCRP | SCCCN | StopCCN | Hello | OCRQ | OCRP | OCCN | ICRQ | ICRP | ICCN | CDN | WEN | SLI
deriving DecidableEq, Repr

def Msg.code : Msg → Nat
  | .SCCRQ => 1
  | .SCCRP => 2
  | .SCCCN => 3
  | .StopCCN => 4
  | .Hello => 6
  | .OCRQ => 7
  | .OCRP => 8
  | .OCCN => 9
  | .ICRQ => 10
  | .ICRP => 11
  | .ICCN => 12
  | .CDN => 14
  | .WEN => 15
  | .SLI => 16

def Msg.all : List Msg :=
  [.SCCRQ, .SCCRP, .SCCCN, .StopCCN, .Hello, .OCRQ, .OCRP, .OCCN, .ICRQ, .ICRP, .ICCN, .CDN, .WEN, .SLI]

def Msg.ofCode (code : Int) : Option Msg := Msg.all.find? fun m => (m.code : Int) = code

theorem Msg.ofCode_code (m : Msg) : Msg.ofCode m.code = some m := by
  cases m <;> rfl

theorem Msg.code_ofCode (code : Int) (m : Msg) (known : Msg.ofCode code = some m) : (m.code : Int) = code := by
  simpa using List.find?_some known

end ZyAgf.Xl2tpd
