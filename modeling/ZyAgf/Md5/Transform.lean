import Mathlib.Data.List.Basic

set_option autoImplicit false

namespace ZyAgf.Md5

inductive Reg where
  | a | b | c | d
deriving DecidableEq, Repr

structure Regs where
  a : UInt32
  b : UInt32
  c : UInt32
  d : UInt32
deriving DecidableEq, Repr

def Regs.get (regs : Regs) : Reg → UInt32
  | .a => regs.a
  | .b => regs.b
  | .c => regs.c
  | .d => regs.d

def Regs.set (regs : Regs) (w : UInt32) : Reg → Regs
  | .a => { regs with a := w }
  | .b => { regs with b := w }
  | .c => { regs with c := w }
  | .d => { regs with d := w }

inductive Core where
  | f1 | f2 | f3 | f4
deriving DecidableEq, Repr

def f1 (x y z : UInt32) : UInt32 := z ^^^ (x &&& (y ^^^ z))
def f2 (x y z : UInt32) : UInt32 := f1 z x y
def f3 (x y z : UInt32) : UInt32 := x ^^^ y ^^^ z
def f4 (x y z : UInt32) : UInt32 := y ^^^ (x ||| ~~~z)

def coreFn : Core → UInt32 → UInt32 → UInt32 → UInt32
  | .f1 => f1
  | .f2 => f2
  | .f3 => f3
  | .f4 => f4

-- The arguments of one MD5STEP: the function, its registers, the word of the
-- block, the constant added to it and the shift.
structure Step where
  f : Core
  w : Reg
  x : Reg
  y : Reg
  z : Reg
  data : Fin 16
  t : UInt32
  s : UInt32
deriving DecidableEq, Repr

def md5Step (input : Vector UInt32 16) (regs : Regs) (step : Step) : Regs :=
  let regs := regs.set
    (regs.get step.w + (coreFn step.f (regs.get step.x) (regs.get step.y)
    (regs.get step.z) + input[step.data] + step.t)) step.w
  let regs := regs.set (regs.get step.w <<< step.s ||| regs.get step.w >>> (32 - step.s)) step.w
  regs.set (regs.get step.w + regs.get step.x) step.w

def steps : List Step := [
  ⟨.f1, .a, .b, .c, .d, 0, 0xd76aa478, 7⟩, ⟨.f1, .d, .a, .b, .c, 1, 0xe8c7b756, 12⟩,
  ⟨.f1, .c, .d, .a, .b, 2, 0x242070db, 17⟩, ⟨.f1, .b, .c, .d, .a, 3, 0xc1bdceee, 22⟩,
  ⟨.f1, .a, .b, .c, .d, 4, 0xf57c0faf, 7⟩, ⟨.f1, .d, .a, .b, .c, 5, 0x4787c62a, 12⟩,
  ⟨.f1, .c, .d, .a, .b, 6, 0xa8304613, 17⟩, ⟨.f1, .b, .c, .d, .a, 7, 0xfd469501, 22⟩,
  ⟨.f1, .a, .b, .c, .d, 8, 0x698098d8, 7⟩, ⟨.f1, .d, .a, .b, .c, 9, 0x8b44f7af, 12⟩,
  ⟨.f1, .c, .d, .a, .b, 10, 0xffff5bb1, 17⟩, ⟨.f1, .b, .c, .d, .a, 11, 0x895cd7be, 22⟩,
  ⟨.f1, .a, .b, .c, .d, 12, 0x6b901122, 7⟩, ⟨.f1, .d, .a, .b, .c, 13, 0xfd987193, 12⟩,
  ⟨.f1, .c, .d, .a, .b, 14, 0xa679438e, 17⟩, ⟨.f1, .b, .c, .d, .a, 15, 0x49b40821, 22⟩,
  ⟨.f2, .a, .b, .c, .d, 1, 0xf61e2562, 5⟩, ⟨.f2, .d, .a, .b, .c, 6, 0xc040b340, 9⟩,
  ⟨.f2, .c, .d, .a, .b, 11, 0x265e5a51, 14⟩, ⟨.f2, .b, .c, .d, .a, 0, 0xe9b6c7aa, 20⟩,
  ⟨.f2, .a, .b, .c, .d, 5, 0xd62f105d, 5⟩, ⟨.f2, .d, .a, .b, .c, 10, 0x02441453, 9⟩,
  ⟨.f2, .c, .d, .a, .b, 15, 0xd8a1e681, 14⟩, ⟨.f2, .b, .c, .d, .a, 4, 0xe7d3fbc8, 20⟩,
  ⟨.f2, .a, .b, .c, .d, 9, 0x21e1cde6, 5⟩, ⟨.f2, .d, .a, .b, .c, 14, 0xc33707d6, 9⟩,
  ⟨.f2, .c, .d, .a, .b, 3, 0xf4d50d87, 14⟩, ⟨.f2, .b, .c, .d, .a, 8, 0x455a14ed, 20⟩,
  ⟨.f2, .a, .b, .c, .d, 13, 0xa9e3e905, 5⟩, ⟨.f2, .d, .a, .b, .c, 2, 0xfcefa3f8, 9⟩,
  ⟨.f2, .c, .d, .a, .b, 7, 0x676f02d9, 14⟩, ⟨.f2, .b, .c, .d, .a, 12, 0x8d2a4c8a, 20⟩,
  ⟨.f3, .a, .b, .c, .d, 5, 0xfffa3942, 4⟩, ⟨.f3, .d, .a, .b, .c, 8, 0x8771f681, 11⟩,
  ⟨.f3, .c, .d, .a, .b, 11, 0x6d9d6122, 16⟩, ⟨.f3, .b, .c, .d, .a, 14, 0xfde5380c, 23⟩,
  ⟨.f3, .a, .b, .c, .d, 1, 0xa4beea44, 4⟩, ⟨.f3, .d, .a, .b, .c, 4, 0x4bdecfa9, 11⟩,
  ⟨.f3, .c, .d, .a, .b, 7, 0xf6bb4b60, 16⟩, ⟨.f3, .b, .c, .d, .a, 10, 0xbebfbc70, 23⟩,
  ⟨.f3, .a, .b, .c, .d, 13, 0x289b7ec6, 4⟩, ⟨.f3, .d, .a, .b, .c, 0, 0xeaa127fa, 11⟩,
  ⟨.f3, .c, .d, .a, .b, 3, 0xd4ef3085, 16⟩, ⟨.f3, .b, .c, .d, .a, 6, 0x04881d05, 23⟩,
  ⟨.f3, .a, .b, .c, .d, 9, 0xd9d4d039, 4⟩, ⟨.f3, .d, .a, .b, .c, 12, 0xe6db99e5, 11⟩,
  ⟨.f3, .c, .d, .a, .b, 15, 0x1fa27cf8, 16⟩, ⟨.f3, .b, .c, .d, .a, 2, 0xc4ac5665, 23⟩,
  ⟨.f4, .a, .b, .c, .d, 0, 0xf4292244, 6⟩, ⟨.f4, .d, .a, .b, .c, 7, 0x432aff97, 10⟩,
  ⟨.f4, .c, .d, .a, .b, 14, 0xab9423a7, 15⟩, ⟨.f4, .b, .c, .d, .a, 5, 0xfc93a039, 21⟩,
  ⟨.f4, .a, .b, .c, .d, 12, 0x655b59c3, 6⟩, ⟨.f4, .d, .a, .b, .c, 3, 0x8f0ccc92, 10⟩,
  ⟨.f4, .c, .d, .a, .b, 10, 0xffeff47d, 15⟩, ⟨.f4, .b, .c, .d, .a, 1, 0x85845dd1, 21⟩,
  ⟨.f4, .a, .b, .c, .d, 8, 0x6fa87e4f, 6⟩, ⟨.f4, .d, .a, .b, .c, 15, 0xfe2ce6e0, 10⟩,
  ⟨.f4, .c, .d, .a, .b, 6, 0xa3014314, 15⟩, ⟨.f4, .b, .c, .d, .a, 13, 0x4e0811a1, 21⟩,
  ⟨.f4, .a, .b, .c, .d, 4, 0xf7537e82, 6⟩, ⟨.f4, .d, .a, .b, .c, 11, 0xbd3af235, 10⟩,
  ⟨.f4, .c, .d, .a, .b, 2, 0x2ad7d2bb, 15⟩, ⟨.f4, .b, .c, .d, .a, 9, 0xeb86d391, 21⟩
]

def Regs.load (buf : Vector UInt32 4) : Regs := ⟨buf[0], buf[1], buf[2], buf[3]⟩

def Regs.addTo (regs : Regs) (buf : Vector UInt32 4) : Vector UInt32 4 :=
  #v[buf[0] + regs.a, buf[1] + regs.b, buf[2] + regs.c, buf[3] + regs.d]

def md5Transform (buf : Vector UInt32 4) (input : Vector UInt32 16) : Vector UInt32 4 :=
  (steps.foldl (md5Step input) (Regs.load buf)).addTo buf

-- What the steps add up to: sixty-four rounds that pass four words on, each made
-- with the function, the word of the block and the shift of its place.
def select (x y z : UInt32) : UInt32 := (x &&& y) ||| (~~~x &&& z)

def mix (n : Nat) (b c d : UInt32) : UInt32 :=
  match n / 16 with
  | 0 => select b c d
  | 1 => select d b c
  | 2 => b ^^^ c ^^^ d
  | _ => c ^^^ (b ||| ~~~d)

def place (n : Nat) : Nat :=
  match n / 16 with
  | 0 => n % 16
  | 1 => (5 * n + 1) % 16
  | 2 => (3 * n + 5) % 16
  | _ => 7 * n % 16

theorem place_lt (n : Nat) : place n < 16 := by
  unfold place
  split <;> exact Nat.mod_lt _ (by decide)

def shifts : List (List UInt32) := [[7, 12, 17, 22], [5, 9, 14, 20], [4, 11, 16, 23], [6, 10, 15, 21]]

def shift (n : Nat) : UInt32 := (shifts.getD (n / 16) []).getD (n % 4) 0

def constant (n : Nat) : UInt32 := (steps.map Step.t).getD n 0

def rotate (w s : UInt32) : UInt32 := w <<< s ||| w >>> (32 - s)

def round (input : Vector UInt32 16) (regs : Regs) (n : Nat) : Regs :=
  ⟨regs.d,
    regs.b + rotate (regs.a + mix n regs.b regs.c regs.d + input[(⟨place n, place_lt n⟩ : Fin 16)] + constant n)
      (shift n),
    regs.b, regs.c⟩

def compress (buf : Vector UInt32 4) (input : Vector UInt32 16) : Vector UInt32 4 :=
  ((List.range 64).foldl (round input) (Regs.load buf)).addTo buf

-- Which register has which part in a step: it moves on by one with each step.
def wAt (n : Nat) : Reg := [.a, .d, .c, .b].getD (n % 4) .a
def xAt (n : Nat) : Reg := wAt (n + 3)
def yAt (n : Nat) : Reg := wAt (n + 2)
def zAt (n : Nat) : Reg := wAt (n + 1)

def coreAt (n : Nat) : Core := [.f1, .f2, .f3, .f4].getD (n / 16) .f4

def stepAt (n : Nat) : Step := ⟨coreAt n, wAt n, xAt n, yAt n, zAt n, ⟨place n, place_lt n⟩, constant n, shift n⟩

theorem steps_table : steps = (List.range 64).map stepAt := by decide +kernel

def viewed (n : Nat) (regs : Regs) : Regs := ⟨regs.get (wAt n), regs.get (xAt n), regs.get (yAt n), regs.get (zAt n)⟩

theorem select_f1 (x y z : UInt32) : f1 x y z = select x y z := by
  unfold f1 select
  apply UInt32.eq_of_toBitVec_eq
  ext i
  simp only [UInt32.toBitVec_xor, UInt32.toBitVec_and, UInt32.toBitVec_or, UInt32.toBitVec_not, BitVec.getElem_xor,
    BitVec.getElem_and,
    BitVec.getElem_or, BitVec.getElem_not]
  cases x.toBitVec[i] <;> cases y.toBitVec[i] <;> cases z.toBitVec[i] <;> rfl

theorem mix_core (n : Nat) (early : n < 64) (b c d : UInt32) : coreFn (coreAt n) b c d = mix n b c d := by
  have place : n / 16 = 0 ∨ n / 16 = 1 ∨ n / 16 = 2 ∨ n / 16 = 3 := by omega
  unfold coreAt mix
  rcases place with first | second | third | fourth
  · rw [first]
    exact select_f1 b c d
  · rw [second]
    exact select_f1 d b c
  · rw [third]
    rfl
  · rw [fourth]
    rfl

theorem wAt_next (n : Nat) : wAt (n + 4) = wAt n := by
  unfold wAt
  rw [Nat.add_mod_right]

theorem wAt_cases (n : Nat) : (wAt n = .a ∧ xAt n = .b ∧ yAt n = .c ∧ zAt n = .d) ∨
    (wAt n = .d ∧ xAt n = .a ∧ yAt n = .b ∧ zAt n = .c) ∨
    (wAt n = .c ∧ xAt n = .d ∧ yAt n = .a ∧ zAt n = .b) ∨ (wAt n = .b ∧ xAt n = .c ∧ yAt n = .d ∧ zAt n = .a) := by
  have turn : n % 4 = 0 ∨ n % 4 = 1 ∨ n % 4 = 2 ∨ n % 4 = 3 := by omega
  unfold xAt yAt zAt wAt
  rcases turn with first | second | third | fourth
  · rw [first, show (n + 3) % 4 = 3 by omega, show (n + 2) % 4 = 2 by omega, show (n + 1) % 4 = 1 by omega]
    exact .inl ⟨rfl, rfl, rfl, rfl⟩
  · rw [second, show (n + 3) % 4 = 0 by omega, show (n + 2) % 4 = 3 by omega, show (n + 1) % 4 = 2 by omega]
    exact .inr (.inl ⟨rfl, rfl, rfl, rfl⟩)
  · rw [third, show (n + 3) % 4 = 1 by omega, show (n + 2) % 4 = 0 by omega, show (n + 1) % 4 = 3 by omega]
    exact .inr (.inr (.inl ⟨rfl, rfl, rfl, rfl⟩))
  · rw [fourth, show (n + 3) % 4 = 2 by omega, show (n + 2) % 4 = 1 by omega, show (n + 1) % 4 = 0 by omega]
    exact .inr (.inr (.inr ⟨rfl, rfl, rfl, rfl⟩))

theorem viewed_next (n : Nat) (regs : Regs) :
    viewed (n + 1) regs = ⟨regs.get (zAt n), regs.get (wAt n), regs.get (xAt n), regs.get (yAt n)⟩ := by
  unfold viewed xAt yAt zAt
  rw [wAt_next n]

theorem step_round (input : Vector UInt32 16) (regs : Regs) (n : Nat) (early : n < 64) :
    viewed (n + 1) (md5Step input regs (stepAt n)) = round input (viewed n regs) n := by
  rw [viewed_next]
  unfold md5Step stepAt round viewed rotate
  dsimp only
  rw [mix_core n early]
  rcases wAt_cases n with ⟨w, x, y, z⟩ | ⟨w, x, y, z⟩ | ⟨w, x, y, z⟩ | ⟨w, x, y, z⟩
  all_goals
    rw [w, x, y, z]
    simp only [Regs.get, Regs.set, Fin.getElem_fin, UInt32.add_assoc]
    exact congrArg (fun b => Regs.mk _ b _ _) (UInt32.add_comm _ _)

theorem steps_rounds (input : Vector UInt32 16) (count : Nat) (early : count ≤ 64) (regs : Regs) :
    viewed count (((List.range count).map stepAt).foldl (md5Step input) regs) = (List.range count).foldl (round input)
      (viewed 0 regs) := by
  induction count with
  | zero => rfl
  | succ count ih =>
      rw [List.range_succ, List.map_append, List.foldl_append, List.foldl_append]
      have before := ih (by omega)
      exact (step_round input _ count (by omega)).trans (congrArg (fun regs => round input regs count) before)

theorem viewed_start (regs : Regs) : viewed 0 regs = regs := rfl

theorem viewed_end (regs : Regs) : viewed 64 regs = regs := rfl

theorem steps_foldl (input : Vector UInt32 16) (regs : Regs) :
    steps.foldl (md5Step input) regs = (List.range 64).foldl (round input) regs := by
  have all := steps_rounds input 64 (Nat.le_refl 64) regs
  rw [viewed_end, viewed_start, ← steps_table] at all
  exact all

theorem md5Transform_compress (buf : Vector UInt32 4) (input : Vector UInt32 16) : md5Transform buf input = compress buf
    input :=
  congrArg (fun regs => regs.addTo buf) (steps_foldl input (Regs.load buf))

end ZyAgf.Md5
