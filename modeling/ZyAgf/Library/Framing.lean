import Mathlib.Data.List.Basic

set_option autoImplicit false

namespace ZyAgf

universe u v w

section Feed

variable {S : Type u} {B : Type v} {O : Type w} (step : S → B → Option S × List O)

-- A machine that takes one input at a time: its next state, while it has one, and
-- what it puts out.
def feed (s : S) : List B → Option S × List O
  | [] => (some s, [])
  | b :: rest =>
      match step s b with
      | (none, out) => (none, out)
      | (some next, out) => ((feed next rest).1, out ++ (feed next rest).2)

-- Whatever takes inputs in portions, going on from what came before.
def resume {R : Type v} (read : S → R → Option S × List O) (done : Option S × List O) (more : R) : Option S × List O :=
  match done with
  | (none, out) => (none, out)
  | (some s, out) => ((read s more).1, out ++ (read s more).2)

def feedAll {R : Type v} (read : S → R → Option S × List O) (s : S) (portions : List R) : Option S × List O :=
  portions.foldl (resume read) (some s, [])

theorem feed_append (s : S) (front back : List B) :
    feed step s (front ++ back) = resume (feed step) (feed step s front) back := by
  induction front generalizing s with
  | nil => simp [feed, resume]
  | cons b front ih =>
      rw [List.cons_append, feed, feed]
      rcases step s b with ⟨_ | next, out⟩
      · rfl
      · dsimp only
        rw [ih next]
        rcases feed step next front with ⟨_ | later, out'⟩
        · rfl
        · simp [resume]

theorem resume_feed (done : Option S × List O) (portions : List (List B)) :
    portions.foldl (resume (feed step)) done = resume (feed step) done portions.flatten := by
  induction portions generalizing done with
  | nil =>
      rcases done with ⟨_ | s, out⟩
      · rfl
      · simp [resume, feed]
  | cons portion later ih =>
      rw [List.foldl_cons, ih, List.flatten_cons]
      rcases done with ⟨_ | s, out⟩
      · rfl
      · simp only [resume]
        rw [feed_append step s portion later.flatten]
        rcases feed step s portion with ⟨_ | later, out'⟩
        · rfl
        · simp [resume]

theorem feedAll_flatten (s : S) (portions : List (List B)) : feedAll
    (feed step) s portions = feed step s portions.flatten := by
  unfold feedAll
  rw [resume_feed]
  simp [resume]

theorem feed_flatMap {I : Type v} (rests : S → Prop) (encode : I → List B) (out : I → O) (items : List I)
    (one : ∀ item ∈ items, ∀ s, rests s → ∃ next, feed step s (encode item) = (some next, [out item]) ∧ rests next)
    (s : S) (start : rests s) :
    ∃ last, feed step s (items.flatMap encode) = (some last, items.map out) ∧ rests last := by
  induction items generalizing s with
  | nil => exact ⟨s, rfl, start⟩
  | cons item later ih =>
      obtain ⟨next, first, there⟩ := one item List.mem_cons_self s start
      obtain ⟨last, onward, ended⟩ := ih (fun other member => one other (List.mem_cons_of_mem _ member)) next there
      refine ⟨last, ?_, ended⟩
      rw [List.flatMap_cons, feed_append, first]
      simp only [resume]
      rw [onward]
      rfl

end Feed

-- Octet stuffing: an octet with a meaning of its own is sent as an escape and the
-- octet with one bit turned.
def escapeOctet : UInt8 := 0x7d
def turnOctet : UInt8 := 0x20

def stuff (special : UInt8 → Bool) (c : UInt8) : List UInt8 := if special c then [escapeOctet, c ^^^ turnOctet] else [c]

theorem turn_turn (c : UInt8) : c ^^^ turnOctet ^^^ turnOctet = c := by
  rw [UInt8.xor_assoc, UInt8.xor_self, UInt8.xor_zero]

theorem turned_ne (special : UInt8 → Bool) (octet c : UInt8) (plain : special (octet ^^^ turnOctet) = false)
    (marked : special c = true) :
    c ^^^ turnOctet ≠ octet := by
  intro same
  rw [← turn_turn c, same, plain] at marked
  cases marked

section Stuffing

variable {S : Type u} {O : Type v} (step : S → UInt8 → Option S × List O) (special : UInt8 → Bool)
  (holds : S → List UInt8 → Prop) (room : Nat)

theorem feed_stuffed
    (one : ∀ s bytes c, holds s bytes → bytes.length < room →
      ∃ next, feed step s (stuff special c) = (some next, []) ∧ holds next (bytes ++ [c]))
    (data : List UInt8) (s : S) (bytes : List UInt8) (start : holds s bytes)
    (fits : bytes.length + data.length ≤ room) :
    ∃ next, feed step s (data.flatMap (stuff special)) = (some next, []) ∧ holds next (bytes ++ data) := by
  induction data generalizing s bytes with
  | nil => exact ⟨s, rfl, by simpa using start⟩
  | cons c data ih =>
      simp only [List.length_cons] at fits
      obtain ⟨middle, first, there⟩ := one s bytes c start (by omega)
      obtain ⟨next, onward, ended⟩ := ih middle (bytes ++ [c]) there (by simp; omega)
      refine ⟨next, ?_, by simpa using ended⟩
      rw [List.flatMap_cons, feed_append, first]
      simp only [resume]
      rw [onward]
      rfl

end Stuffing

-- The sixteen-bit frame check sequence, one octet at a time by table.
def fcsTable : List UInt16 :=
  [0x0000, 0x1189, 0x2312, 0x329b, 0x4624, 0x57ad, 0x6536, 0x74bf, 0x8c48, 0x9dc1, 0xaf5a, 0xbed3, 0xca6c, 0xdbe5,
    0xe97e, 0xf8f7] ++
  [0x1081, 0x0108, 0x3393, 0x221a, 0x56a5, 0x472c, 0x75b7, 0x643e, 0x9cc9, 0x8d40, 0xbfdb, 0xae52, 0xdaed, 0xcb64,
    0xf9ff, 0xe876] ++
  [0x2102, 0x308b, 0x0210, 0x1399, 0x6726, 0x76af, 0x4434, 0x55bd, 0xad4a, 0xbcc3, 0x8e58, 0x9fd1, 0xeb6e, 0xfae7,
    0xc87c, 0xd9f5] ++
  [0x3183, 0x200a, 0x1291, 0x0318, 0x77a7, 0x662e, 0x54b5, 0x453c, 0xbdcb, 0xac42, 0x9ed9, 0x8f50, 0xfbef, 0xea66,
    0xd8fd, 0xc974] ++
  [0x4204, 0x538d, 0x6116, 0x709f, 0x0420, 0x15a9, 0x2732, 0x36bb, 0xce4c, 0xdfc5, 0xed5e, 0xfcd7, 0x8868, 0x99e1,
    0xab7a, 0xbaf3] ++
  [0x5285, 0x430c, 0x7197, 0x601e, 0x14a1, 0x0528, 0x37b3, 0x263a, 0xdecd, 0xcf44, 0xfddf, 0xec56, 0x98e9, 0x8960,
    0xbbfb, 0xaa72] ++
  [0x6306, 0x728f, 0x4014, 0x519d, 0x2522, 0x34ab, 0x0630, 0x17b9, 0xef4e, 0xfec7, 0xcc5c, 0xddd5, 0xa96a, 0xb8e3,
    0x8a78, 0x9bf1] ++
  [0x7387, 0x620e, 0x5095, 0x411c, 0x35a3, 0x242a, 0x16b1, 0x0738, 0xffcf, 0xee46, 0xdcdd, 0xcd54, 0xb9eb, 0xa862,
    0x9af9, 0x8b70] ++
  [0x8408, 0x9581, 0xa71a, 0xb693, 0xc22c, 0xd3a5, 0xe13e, 0xf0b7, 0x0840, 0x19c9, 0x2b52, 0x3adb, 0x4e64, 0x5fed,
    0x6d76, 0x7cff] ++
  [0x9489, 0x8500, 0xb79b, 0xa612, 0xd2ad, 0xc324, 0xf1bf, 0xe036, 0x18c1, 0x0948, 0x3bd3, 0x2a5a, 0x5ee5, 0x4f6c,
    0x7df7, 0x6c7e] ++
  [0xa50a, 0xb483, 0x8618, 0x9791, 0xe32e, 0xf2a7, 0xc03c, 0xd1b5, 0x2942, 0x38cb, 0x0a50, 0x1bd9, 0x6f66, 0x7eef,
    0x4c74, 0x5dfd] ++
  [0xb58b, 0xa402, 0x9699, 0x8710, 0xf3af, 0xe226, 0xd0bd, 0xc134, 0x39c3, 0x284a, 0x1ad1, 0x0b58, 0x7fe7, 0x6e6e,
    0x5cf5, 0x4d7c] ++
  [0xc60c, 0xd785, 0xe51e, 0xf497, 0x8028, 0x91a1, 0xa33a, 0xb2b3, 0x4a44, 0x5bcd, 0x6956, 0x78df, 0x0c60, 0x1de9,
    0x2f72, 0x3efb] ++
  [0xd68d, 0xc704, 0xf59f, 0xe416, 0x90a9, 0x8120, 0xb3bb, 0xa232, 0x5ac5, 0x4b4c, 0x79d7, 0x685e, 0x1ce1, 0x0d68,
    0x3ff3, 0x2e7a] ++
  [0xe70e, 0xf687, 0xc41c, 0xd595, 0xa12a, 0xb0a3, 0x8238, 0x93b1, 0x6b46, 0x7acf, 0x4854, 0x59dd, 0x2d62, 0x3ceb,
    0x0e70, 0x1ff9] ++
  [0xf78f, 0xe606, 0xd49d, 0xc514, 0xb1ab, 0xa022, 0x92b9, 0x8330, 0x7bc7, 0x6a4e, 0x58d5, 0x495c, 0x3de3, 0x2c6a,
    0x1ef1, 0x0f78]

def fcs16 (fcs : UInt16) (bytes : List UInt8) : UInt16 :=
  bytes.foldl (fun fcs c => fcs >>> 8 ^^^ fcsTable.getD ((fcs ^^^ c.toUInt16) &&& 0xff).toNat 0) fcs

end ZyAgf
