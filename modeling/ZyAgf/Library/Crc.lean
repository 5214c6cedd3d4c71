import Mathlib.Data.List.Basic

set_option autoImplicit false

namespace ZyAgf.Crc

-- A cyclic redundancy check that takes a message bit by bit, lowest bit first.
section Bits

variable {w : Nat} (poly : BitVec w)

def shiftIn (crc : BitVec w) (bit : Bool) : BitVec w := crc >>> 1 ^^^ if crc.getLsbD 0 ^^ bit then poly else 0#w

def feed (crc : BitVec w) (bits : List Bool) : BitVec w := bits.foldl (shiftIn poly) crc

def lowBits {v : Nat} (n : Nat) (x : BitVec v) : List Bool := (List.range n).map x.getLsbD

def ofBytes (crc : BitVec w) (bytes : List (BitVec 8)) : BitVec w :=
  bytes.foldl (fun crc byte => feed poly crc (lowBits 8 byte)) crc

theorem feed_append (crc : BitVec w) (bits more : List Bool) :
    feed poly crc (bits ++ more) = feed poly (feed poly crc bits) more := List.foldl_append

theorem lowBits_succ {v : Nat} (n : Nat) (x : BitVec v) : lowBits (n + 1) x = lowBits n x ++ [x.getLsbD n] := by
  unfold lowBits
  rw [List.range_succ, List.map_append]
  rfl

theorem shiftIn_xor (x y : BitVec w) (a b : Bool) :
    shiftIn poly (x ^^^ y) (a ^^ b) = shiftIn poly x a ^^^ shiftIn poly y b := by
  have apart : ((x ^^^ y).getLsbD 0 ^^ (a ^^ b)) = ((x.getLsbD 0 ^^ a) ^^ (y.getLsbD 0 ^^ b)) := by
    rw [BitVec.getLsbD_xor]
    cases x.getLsbD 0 <;> cases y.getLsbD 0 <;> cases a <;> cases b <;> rfl
  have shifted : (x ^^^ y) >>> 1 = x >>> 1 ^^^ y >>> 1 := BitVec.ushiftRight_xor_distrib x y 1
  unfold shiftIn
  rw [apart, shifted]
  cases x.getLsbD 0 ^^ a with
  | false => simp [BitVec.xor_assoc]
  | true =>
      cases y.getLsbD 0 ^^ b with
      | false => simp only [Bool.xor_false, if_true, Bool.false_eq_true, if_false, BitVec.xor_zero]; ac_rfl
      | true =>
          have cancelled : poly ^^^ poly = 0#w := BitVec.xor_self
          have regrouped : x >>> 1 ^^^ poly ^^^ (y >>> 1 ^^^ poly) = x >>> 1 ^^^ y >>> 1 ^^^ (poly ^^^ poly) := by
            ac_rfl
          simp only [Bool.xor_self, Bool.false_eq_true, if_false, if_true]
          rw [regrouped, cancelled]

theorem feed_xor {v : Nat} (n : Nat) (x y : BitVec w) (a b : BitVec v) :
    feed poly (x ^^^ y) (lowBits n (a ^^^ b)) = feed poly x (lowBits n a) ^^^ feed poly y (lowBits n b) := by
  induction n with
  | zero => rfl
  | succ n ih =>
      rw [lowBits_succ, lowBits_succ, lowBits_succ, feed_append, feed_append, feed_append, ih, BitVec.getLsbD_xor]
      exact shiftIn_xor poly _ _ _ _

theorem feed_own (n : Nat) (x : BitVec w) : feed poly x (lowBits n x) = x >>> n := by
  induction n with
  | zero => exact (BitVec.ushiftRight_zero x).symm
  | succ n ih =>
      rw [lowBits_succ, feed_append, ih]
      change shiftIn poly (x >>> n) (x.getLsbD n) = _
      unfold shiftIn
      rw [BitVec.getLsbD_ushiftRight, Nat.add_zero, Bool.xor_self, if_neg Bool.false_ne_true, BitVec.xor_zero]
      exact (BitVec.shiftRight_add x n 1).symm

theorem feed_byte (crc : BitVec w) (byte : BitVec 8) :
    feed poly crc (lowBits 8 byte) = crc >>> 8 ^^^ feed poly 0#w (lowBits 8 (crc.setWidth 8 ^^^ byte)) := by
  have own : lowBits 8 (crc.setWidth 8) = lowBits 8 crc := by
    refine List.map_congr_left fun i inside => ?_
    rw [BitVec.getLsbD_setWidth, decide_eq_true (List.mem_range.mp inside), Bool.true_and]
  have halves := feed_xor poly 8 crc 0#w (crc.setWidth 8) (crc.setWidth 8 ^^^ byte)
  rw [BitVec.xor_zero, ← BitVec.xor_assoc, BitVec.xor_self, BitVec.zero_xor, own, feed_own] at halves
  exact halves

theorem feed_masked (crc mask : BitVec w) : feed poly crc (lowBits w (crc ^^^ mask)) = feed poly 0#w
    (lowBits w mask) := by
  have halves := feed_xor poly w crc 0#w crc mask
  rw [BitVec.xor_zero, feed_own] at halves
  have gone : crc >>> w = 0#w := BitVec.ushiftRight_eq_zero (Nat.le_refl w)
  rw [halves, gone, BitVec.zero_xor]

end Bits

end ZyAgf.Crc
