import ZyAgf.Library.Crc
import ZyAgf.Pppoe.AsyncPpp
import ZyAgf.Xl2tpd.SyncToAsync

set_option autoImplicit false

namespace ZyAgf.Xl2tpd

def pppGoodFcs : UInt16 := 0xf0b8

def pppCrc16Table : List UInt16 :=
  [0x0000, 0x1189, 0x2312, 0x329b, 0x4624, 0x57ad, 0x6536, 0x74bf, 0x8c48, 0x9dc1, 0xaf5a, 0xbed3, 0xca6c, 0xdbe5,
    0xe97e, 0xf8f7] ++
  [0x1081, 0x0108, 0x3393, 0x221a, 0x56a5, 0x472c, 0x75b7, 0x643e, 0x9cc9, 0x8d40, 0xbfdb, 0xae52, 0xdaed, 0xcb64,
    0xf9ff, 0xe876] ++
  [0x2102, 0x308b, 0x0210, 0x1399, 0x6726, 0x76af, 0x4434, 0x55bd, 0xad4a, 0xbcc3, 0x8e58, 0x9fd1, 0xeb6e, 0xfae7,
    0xc87c, 0xd9f5] ++
  [0x3183, 0x200a, 0x1291, 0x0318, 0x77a7, 0x662e, 0x54b5, 0x453c, 0xbdcb, 0xac42, 0x9ed9, 0x8f50, 0xfbef, 0xea66,
    0xd8fd, 0xc974] ++
  [0x4204, 0x538d, 0x6116, 0x709f, 0x0420, 0x15a9, 0x2732, 0x36bb, 0xce4c, 0xdfc5, 0xed5e, 0xfcd7, 0x8868, 0x99e1,
    0xab7a, 0xbaf3] ++
  [0x5285, 0x430c, 0x7197, 0x601e, 0x14a1, 0x0528, 0x37b3, 0x263a, 0xdecd, 0xcf44, 0xfddf, 0xec56, 0x98e9, 0x8960,
    0xbbfb, 0xaa72] ++
  [0x6306, 0x728f, 0x4014, 0x519d, 0x2522, 0x34ab, 0x0630, 0x17b9, 0xef4e, 0xfec7, 0xcc5c, 0xddd5, 0xa96a, 0xb8e3,
    0x8a78, 0x9bf1] ++
  [0x7387, 0x620e, 0x5095, 0x411c, 0x35a3, 0x242a, 0x16b1, 0x0738, 0xffcf, 0xee46, 0xdcdd, 0xcd54, 0xb9eb, 0xa862,
    0x9af9, 0x8b70] ++
  [0x8408, 0x9581, 0xa71a, 0xb693, 0xc22c, 0xd3a5, 0xe13e, 0xf0b7, 0x0840, 0x19c9, 0x2b52, 0x3adb, 0x4e64, 0x5fed,
    0x6d76, 0x7cff] ++
  [0x9489, 0x8500, 0xb79b, 0xa612, 0xd2ad, 0xc324, 0xf1bf, 0xe036, 0x18c1, 0x0948, 0x3bd3, 0x2a5a, 0x5ee5, 0x4f6c,
    0x7df7, 0x6c7e] ++
  [0xa50a, 0xb483, 0x8618, 0x9791, 0xe32e, 0xf2a7, 0xc03c, 0xd1b5, 0x2942, 0x38cb, 0x0a50, 0x1bd9, 0x6f66, 0x7eef,
    0x4c74, 0x5dfd] ++
  [0xb58b, 0xa402, 0x9699, 0x8710, 0xf3af, 0xe226, 0xd0bd, 0xc134, 0x39c3, 0x284a, 0x1ad1, 0x0b58, 0x7fe7, 0x6e6e,
    0x5cf5, 0x4d7c] ++
  [0xc60c, 0xd785, 0xe51e, 0xf497, 0x8028, 0x91a1, 0xa33a, 0xb2b3, 0x4a44, 0x5bcd, 0x6956, 0x78df, 0x0c60, 0x1de9,
    0x2f72, 0x3efb] ++
  [0xd68d, 0xc704, 0xf59f, 0xe416, 0x90a9, 0x8120, 0xb3bb, 0xa232, 0x5ac5, 0x4b4c, 0x79d7, 0x685e, 0x1ce1, 0x0d68,
    0x3ff3, 0x2e7a] ++
  [0xe70e, 0xf687, 0xc41c, 0xd595, 0xa12a, 0xb0a3, 0x8238, 0x93b1, 0x6b46, 0x7acf, 0x4854, 0x59dd, 0x2d62, 0x3ceb,
    0x0e70, 0x1ff9] ++
  [0xf78f, 0xe606, 0xd49d, 0xc514, 0xb1ab, 0xa022, 0x92b9, 0x8330, 0x7bc7, 0x6a4e, 0x58d5, 0x495c, 0x3de3, 0x2c6a,
    0x1ef1, 0x0f78]

def pppFcs (fcs : UInt16) (c : UInt8) : UInt16 := fcs >>> 8 ^^^ pppCrc16Table.getD
    ((fcs ^^^ c.toUInt16) &&& 0xff).toNat 0

-- The loop of add_fcs over the octets of the buffer.
def fcsOver (fcs : UInt16) (bytes : List UInt8) : UInt16 := bytes.foldl pppFcs fcs

def crcPoly : BitVec 16 := 0x8408#16

def crc16 (fcs : UInt16) (bytes : List UInt8) : UInt16 := ⟨Crc.ofBytes crcPoly fcs.toBitVec (bytes.map UInt8.toBitVec)⟩

def fcsTail (fcs : UInt16) : List UInt8 := [(fcs &&& 0xff).toUInt8, (fcs >>> 8 &&& 0xff).toUInt8]

theorem tables_agree : pppCrc16Table = fcsTable := rfl

theorem fcsTable_crc (i : Fin 256) :
    fcsTable.getD i.val 0 = ⟨Crc.feed crcPoly 0#16 (Crc.lowBits 8 (BitVec.ofNat 8 i.val))⟩ := by
  revert i
  decide +kernel

theorem index_byte (fcs : UInt16) (c : UInt8) :
    ((fcs ^^^ c.toUInt16) &&& 0xff).toNat = (fcs.toBitVec.setWidth 8 ^^^ c.toBitVec).toNat := by
  have low : c.toNat % 2 ^ 8 = c.toNat := Nat.mod_eq_of_lt c.toNat_lt
  rw [UInt16.toNat_and, UInt16.toNat_xor, UInt8.toNat_toUInt16, BitVec.toNat_xor, BitVec.toNat_setWidth]
  change (fcs.toNat ^^^ c.toNat) &&& 2 ^ 8 - 1 = fcs.toNat % 2 ^ 8 ^^^ c.toNat
  rw [Nat.and_two_pow_sub_one_eq_mod, Nat.xor_mod_two_pow, low]

theorem step_crc (fcs : UInt16) (c : UInt8) :
    fcs >>> 8 ^^^ fcsTable.getD ((fcs ^^^ c.toUInt16) &&& 0xff).toNat 0 =
      ⟨Crc.feed crcPoly fcs.toBitVec (Crc.lowBits 8 c.toBitVec)⟩ := by
  have entry := fcsTable_crc ⟨(fcs.toBitVec.setWidth 8 ^^^ c.toBitVec).toNat, BitVec.isLt _⟩
  rw [BitVec.ofNat_toNat, BitVec.setWidth_eq] at entry
  rw [index_byte, entry, Crc.feed_byte crcPoly fcs.toBitVec]
  rfl

theorem fcs16_crc (fcs : UInt16) (bytes : List UInt8) : fcs16 fcs bytes = crc16 fcs bytes := by
  induction bytes generalizing fcs with
  | nil => rfl
  | cons c rest ih =>
      have later := ih (fcs >>> 8 ^^^ fcsTable.getD ((fcs ^^^ c.toUInt16) &&& 0xff).toNat 0)
      rw [step_crc fcs c] at later
      change fcs16 (fcs >>> 8 ^^^ fcsTable.getD ((fcs ^^^ c.toUInt16) &&& 0xff).toNat 0) rest = _
      rw [step_crc fcs c, later]
      rfl

theorem fcsOver_fcs16 (fcs : UInt16) (bytes : List UInt8) : fcsOver fcs bytes = fcs16 fcs bytes := by
  unfold fcsOver fcs16 pppFcs
  rw [tables_agree]

theorem addFcs_over (bytes : List UInt8) : addFcs bytes = bytes ++ fcsTail (fcsOver pppInitFcs bytes ^^^ 0xffff) := by
  rw [fcsOver_fcs16]
  rfl

theorem fcs16_append (fcs : UInt16) (bytes more : List UInt8) : fcs16 fcs (bytes ++ more) = fcs16
    (fcs16 fcs bytes) more :=
  List.foldl_append

theorem low_octet (fcs : UInt16) (i : Nat) (inside : i < 8) :
    (fcs &&& 0xff).toUInt8.toBitVec.getLsbD i = fcs.toBitVec.getLsbD i := by
  have ones : (0xff#16).getLsbD i = true := by
    have all : ∀ i : Fin 8, (0xff#16).getLsbD i.val = true := by decide
    exact all ⟨i, inside⟩
  rw [UInt16.toBitVec_toUInt8, BitVec.getLsbD_setWidth, decide_eq_true inside, Bool.true_and, UInt16.toBitVec_and,
    BitVec.getLsbD_and]
  change (fcs.toBitVec.getLsbD i && (0xff#16).getLsbD i) = _
  rw [ones, Bool.and_true]

theorem high_octet (fcs : UInt16) (i : Nat) (inside : i < 8) :
    (fcs >>> 8 &&& 0xff).toUInt8.toBitVec.getLsbD i = fcs.toBitVec.getLsbD (8 + i) := by
  rw [low_octet _ i inside]
  exact BitVec.getLsbD_ushiftRight fcs.toBitVec 8 i

theorem tail_bits (fcs : UInt16) :
    Crc.lowBits 16 fcs.toBitVec = (fcsTail fcs).flatMap fun c => Crc.lowBits 8 c.toBitVec := by
  have halves : List.range 16 = List.range 8 ++ (List.range 8).map (8 + ·) := rfl
  have low : Crc.lowBits 8 (fcs &&& 0xff).toUInt8.toBitVec = (List.range 8).map fcs.toBitVec.getLsbD :=
    List.map_congr_left fun i inside => low_octet fcs i (List.mem_range.mp inside)
  have high : Crc.lowBits 8 (fcs >>> 8 &&& 0xff).toUInt8.toBitVec = (List.range 8).map fun i =>
    fcs.toBitVec.getLsbD (8 + i) :=
    List.map_congr_left fun i inside => high_octet fcs i (List.mem_range.mp inside)
  rw [fcsTail, List.flatMap_cons, List.flatMap_cons, List.flatMap_nil, low, high, List.append_nil]
  rw [Crc.lowBits, halves, List.map_append, List.map_map]
  rfl

theorem fcs16_tail (fcs : UInt16) : fcs16 fcs (fcsTail (fcs ^^^ 0xffff)) = pppGoodFcs := by
  have masked := Crc.feed_masked crcPoly fcs.toBitVec 0xffff#16
  have bits := tail_bits (fcs ^^^ 0xffff)
  rw [UInt16.toBitVec_xor] at bits
  change Crc.lowBits 16 (fcs.toBitVec ^^^ 0xffff#16) = _ at bits
  rw [bits, fcsTail, List.flatMap_cons, List.flatMap_cons, List.flatMap_nil, List.append_nil, Crc.feed_append] at masked
  rw [fcs16_crc]
  have good : Crc.feed crcPoly 0#16 (Crc.lowBits 16 0xffff#16) = pppGoodFcs.toBitVec := by decide
  exact congrArg UInt16.ofBitVec (masked.trans good)

theorem pppFCS16_good (payload : List UInt8) :
    Pppoe.pppFCS16 Pppoe.pppInitFcs16 ([Pppoe.frameAddr, Pppoe.frameCtrl] ++ payload ++ Pppoe.pppTail payload) =
      pppGoodFcs := by
  unfold Pppoe.pppFCS16
  rw [fcs16_append, fcs16_append]
  exact fcs16_tail _

theorem fcsOver_good (bytes : List UInt8) : fcsOver pppInitFcs (addFcs bytes) = pppGoodFcs := by
  rw [addFcs_over, fcsOver_fcs16, fcsOver_fcs16, fcs16_append]
  exact fcs16_tail _

-- Both programs' checks are the bitwise one from any start, whether the string is
-- taken at once or in two parts, and a frame with its tail has the good residue.
theorem frame_checks (fcs : UInt16) (bytes more payload : List UInt8) :
    Pppoe.pppFCS16 fcs bytes = crc16 fcs bytes ∧ fcsOver fcs bytes = crc16 fcs bytes ∧
      Pppoe.pppFCS16 fcs (bytes ++ more) = Pppoe.pppFCS16 (Pppoe.pppFCS16 fcs bytes) more ∧
      fcsOver fcs (bytes ++ more) = fcsOver (fcsOver fcs bytes) more ∧
      Pppoe.pppFCS16 Pppoe.pppInitFcs16 ([Pppoe.frameAddr, Pppoe.frameCtrl] ++ payload ++ Pppoe.pppTail payload) =
        pppGoodFcs ∧
      addFcs payload = payload ++ fcsTail (fcsOver pppInitFcs payload ^^^ 0xffff) ∧
      fcsOver pppInitFcs (addFcs payload) = pppGoodFcs := by
  refine ⟨fcs16_crc fcs bytes, ?_, fcs16_append fcs bytes more, List.foldl_append, pppFCS16_good payload,
    addFcs_over payload,
    fcsOver_good payload⟩
  rw [fcsOver_fcs16]
  exact fcs16_crc fcs bytes

end ZyAgf.Xl2tpd
