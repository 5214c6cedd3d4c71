import Mathlib.Data.List.Chain
import ZyAgf.Library.Run
import ZyAgf.Library.Serial
import ZyAgf.Xl2tpd.Avp
import ZyAgf.Xl2tpd.Payload

set_option autoImplicit false

namespace ZyAgf.Xl2tpd

open Serial

-- The data channel of one call: packets come in, in any order and any number
-- of times, and frames of our own go out.
inductive Traffic where
  | receive (buf : RecvBuffer)
  | transmit

-- The call, and the number of the last packet that was written to pppd.
structure DataLine where
  call : Call
  last : Option U16

def written (sanity : Bool) (line : DataLine) : Traffic → Option U16
  | .receive buf => (takePayload sanity buf line.call).2.map fun frame => frame.1.Ns
  | .transmit => none

def DataLine.step (sanity : Bool) (line : DataLine) (traffic : Traffic) : Option DataLine :=
  match traffic with
  | .receive buf => some ⟨(takePayload sanity buf line.call).1, (written sanity line traffic).or line.last⟩
  | .transmit => some ⟨line.call.sentPayload, line.last⟩

def DataLine.start (call : Call) : DataLine := ⟨{ call with dataSeqNum := 0, dataRecSeqNum := 0 }, none⟩

-- The numbers that are refused unless they are the ones we would send next:
-- late by less than half the ring, or more than the fudge ahead. A number that
-- has wrapped is neither.
def PassedOver (rec' n : U16) : Prop :=
  n.toNat < rec'.toNat ∧ rec'.toNat - n.toNat < 32768 ∨ rec'.toNat + payloadFudge < n.toNat

def Wrapped (rec' n : U16) : Prop := n.toNat < rec'.toNat ∧ 32768 ≤ rec'.toNat - n.toNat

instance (rec' n : U16) : Decidable (PassedOver rec' n) := inferInstanceAs (Decidable (_ ∨ _))

theorem expandPayload_refused (buf : RecvBuffer) (c : Call) (other : (expandHdr buf c).Ns ≠ c.dataSeqNum)
    (passed : PassedOver c.dataRecSeqNum (expandHdr buf c).Ns) : expandPayload buf c = none := by
  unfold expandPayload
  unfold PassedOver at passed
  have bound := c.dataRecSeqNum.isLt
  rw [if_pos other]
  rcases passed with late | ahead
  · rw [if_pos (Or.inl (by omega))]
  · rw [if_neg (by omega), if_neg (by omega)]

theorem expandPayload_fudged (buf : RecvBuffer) (c : Call) (other : (expandHdr buf c).Ns ≠ c.dataSeqNum)
    (open' : ¬ PassedOver c.dataRecSeqNum (expandHdr buf c).Ns) : ∃ after,
    expandPayload buf c = some (after, expandHdr buf c, buf.len + missingBytes (expandHdr buf c).ver) ∧
      after.dataRecSeqNum = (expandHdr buf c).Ns := by
  unfold expandPayload
  unfold PassedOver at open'
  have bound := (expandHdr buf c).Ns.isLt
  rw [if_pos other, if_neg (by omega), if_pos (by omega)]
  exact ⟨_, rfl, rfl⟩

theorem expandPayload_expected (buf : RecvBuffer) (c : Call) (same : (expandHdr buf c).Ns = c.dataSeqNum) : ∃ after,
    expandPayload buf c = some (after, expandHdr buf c, buf.len + missingBytes (expandHdr buf c).ver) ∧
      after.dataRecSeqNum = c.dataRecSeqNum + 1 := by
  unfold expandPayload
  rw [if_neg (not_not_intro same)]
  exact ⟨_, rfl, rfl⟩

def fullLen (line : DataLine) (buf : RecvBuffer) : Nat := buf.len + missingBytes (expandHdr buf line.call).ver

-- When a packet keeps the order, on a line that kept it so far. Ours is the
-- number we would send next, and the code takes it for the one it expects.
-- Packets without a frame must leave the receive counter as it is.
structure KeepsOrder (line : DataLine) (buf : RecvBuffer) : Prop where
  sequenced : PFBIT (hostWord buf.mem 0) = true
  ours : (expandHdr buf line.call).Ns = line.call.dataSeqNum →
    (expandHdr buf line.call).Ns = line.call.dataRecSeqNum ∨ (expandHdr buf line.call).Ns = line.call.dataRecSeqNum + 1
  fresh : payloadHdrSize < fullLen line buf → (expandHdr buf line.call).Ns = line.call.dataRecSeqNum →
    line.last ≠ some line.call.dataRecSeqNum
  near : Wrapped line.call.dataRecSeqNum (expandHdr buf line.call).Ns →
    ∀ last, line.last = some last → dist last (expandHdr buf line.call).Ns < 32768
  empty : line.last ≠ none → fullLen line buf = payloadHdrSize → (expandHdr buf line.call).Ns = line.call.dataSeqNum ∨
    PassedOver line.call.dataRecSeqNum (expandHdr buf line.call).Ns ∨
    (expandHdr buf line.call).Ns = line.call.dataRecSeqNum + 1
  short : line.last ≠ none → fullLen line buf < payloadHdrSize → (expandHdr buf line.call).Ns ≠ line.call.dataSeqNum ∧
    (PassedOver line.call.dataRecSeqNum (expandHdr buf line.call).Ns ∨
      (expandHdr buf line.call).Ns = line.call.dataRecSeqNum)

instance (rec' n : U16) : Decidable (Wrapped rec' n) := inferInstanceAs (Decidable (_ ∧ _))

instance (last : Option U16) (n : U16) : Decidable (∀ a, last = some a → dist a n < 32768) :=
  match last with
  | none => isTrue fun _ absurd' => nomatch absurd'
  | some b => decidable_of_iff (dist b n < 32768)
      ⟨fun near _ same => Option.some.inj same ▸ near, fun near => near b rfl⟩

instance (line : DataLine) (buf : RecvBuffer) : Decidable (KeepsOrder line buf) :=
  decidable_of_iff
    (PFBIT (hostWord buf.mem 0) = true ∧
      ((expandHdr buf line.call).Ns = line.call.dataSeqNum →
        (expandHdr buf line.call).Ns = line.call.dataRecSeqNum ∨
          (expandHdr buf line.call).Ns = line.call.dataRecSeqNum + 1) ∧
      (payloadHdrSize < fullLen line buf → (expandHdr buf line.call).Ns = line.call.dataRecSeqNum →
        line.last ≠ some line.call.dataRecSeqNum) ∧
      (Wrapped line.call.dataRecSeqNum (expandHdr buf line.call).Ns →
        ∀ last, line.last = some last → dist last (expandHdr buf line.call).Ns < 32768) ∧
      (line.last ≠ none → fullLen line buf = payloadHdrSize → (expandHdr buf line.call).Ns = line.call.dataSeqNum ∨
        PassedOver line.call.dataRecSeqNum (expandHdr buf line.call).Ns ∨
        (expandHdr buf line.call).Ns = line.call.dataRecSeqNum + 1) ∧
      (line.last ≠ none → fullLen line buf < payloadHdrSize → (expandHdr buf line.call).Ns ≠ line.call.dataSeqNum ∧
        (PassedOver line.call.dataRecSeqNum (expandHdr buf line.call).Ns ∨
          (expandHdr buf line.call).Ns = line.call.dataRecSeqNum)))
    ⟨fun ⟨sequenced, ours, fresh, near, empty, short⟩ => ⟨sequenced, ours, fresh, near, empty, short⟩,
      fun keeps => ⟨keeps.sequenced, keeps.ours, keeps.fresh, keeps.near, keeps.empty, keeps.short⟩⟩

def Orderly (sanity : Bool) (line : DataLine) : Traffic → Prop
  | .receive buf => checkPayload sanity buf = 0 → KeepsOrder line buf
  | .transmit => True

instance (sanity : Bool) (line : DataLine) (traffic : Traffic) : Decidable (Orderly sanity line traffic) :=
  match traffic with
  | .receive buf => inferInstanceAs (Decidable (checkPayload sanity buf = 0 → KeepsOrder line buf))
  | .transmit => isTrue trivial

-- The receive counter is the last number written, or the one after it.
def Follows (line : DataLine) : Prop :=
  ∀ last, line.last = some last → line.call.dataRecSeqNum = last ∨ line.call.dataRecSeqNum = last + 1

theorem toNat_succ (n : U16) : (n + 1).toNat = (n.toNat + 1) % 65536 := by
  rw [BitVec.toNat_add]
  rfl

theorem dist_cases (a b : U16) : dist a b + a.toNat = b.toNat ∧ a.toNat ≤ b.toNat ∨
    dist a b + a.toNat = b.toNat + 65536 ∧ b.toNat < a.toNat := by
  have aBound := a.isLt
  rcases Nat.lt_or_ge b.toNat a.toNat with behind | ahead
  · right
    rw [dist_of_lt a b behind]
    omega
  · left
    rw [dist_of_le a b ahead]
    omega

theorem before_of_follows (last rec' n : U16) (follows : rec' = last ∨ rec' = last + 1) (fresh : n ≠ last)
    (ahead : n = rec' ∨ n = rec' + 1 ∨ n.toNat = rec'.toNat + 2) : Before last n := by
  have apart : dist last n ≠ 0 := fun same => fresh ((dist_eq_zero last n).mp same).symm
  have lastBound := last.isLt
  have nBound := n.isLt
  have away := dist_cases last n
  unfold Before
  rcases follows with rfl | rfl
  · rcases ahead with rfl | rfl | plus
    · exact absurd rfl fresh
    · rw [toNat_succ] at away
      omega
    · omega
  · rcases ahead with rfl | rfl | plus
    · rw [toNat_succ] at away
      omega
    · rw [toNat_succ, toNat_succ] at away
      omega
    · rw [toNat_succ] at plus
      omega

theorem takePayload_refused (sanity : Bool) (buf : RecvBuffer) (c : Call) (refused : expandPayload buf c = none) :
    takePayload sanity buf c = (c, none) := by
  unfold takePayload
  rw [refused]
  split <;> rfl

theorem takePayload_accepted (sanity : Bool) (buf : RecvBuffer) (c after : Call) (h : PayloadHdr) (len : Nat)
    (valid : checkPayload sanity buf = 0) (accepted : expandPayload buf c = some (after, h, len)) :
    payloadHdrSize < len ∧ takePayload sanity buf c = (after, some (h, len)) ∨
    len = payloadHdrSize ∧ takePayload sanity buf c = ({ after with dataRecSeqNum := after.dataRecSeqNum - 1 }, none) ∨
    len < payloadHdrSize ∧ takePayload sanity buf c = (after, none) := by
  unfold takePayload
  rw [if_neg (not_not_intro valid), accepted]
  dsimp only
  rcases Nat.lt_trichotomy len payloadHdrSize with less | same | more
  · right; right
    refine ⟨less, ?_⟩
    rw [if_neg (by omega), if_neg (by omega)]
  · right; left
    refine ⟨same, ?_⟩
    rw [if_neg (by omega), if_pos same]
  · left
    exact ⟨more, if_pos more⟩

theorem fudged_near (rec' n : U16) (open' : ¬ PassedOver rec' n) :
    Wrapped rec' n ∨ n = rec' ∨ n = rec' + 1 ∨ n.toNat = rec'.toNat + 2 := by
  have bound := rec'.isLt
  have nBound := n.isLt
  unfold PassedOver payloadFudge at open'
  unfold Wrapped
  have one := toNat_succ rec'
  rw [← BitVec.toNat_inj, ← BitVec.toNat_inj]
  omega

theorem add_sub_one (n : U16) : n + 1 - 1 = n := by
  rw [BitVec.sub_eq_add_neg, BitVec.add_assoc]
  exact BitVec.add_zero n

theorem follows_of_none (line : DataLine) (silent : line.last = none) : Follows line := by
  intro last written
  rw [silent] at written
  cases written

theorem succ_ne (n : U16) : n + 1 ≠ n := by
  intro same
  have numbers := congrArg BitVec.toNat same
  rw [toNat_succ] at numbers
  have bound := n.isLt
  omega

theorem before_of_expected (line : DataLine) (buf : RecvBuffer) (last : U16) (follows : Follows line)
    (keeps : KeepsOrder line buf) (held : line.last = some last) (full : payloadHdrSize < fullLen line buf)
    (same : (expandHdr buf line.call).Ns = line.call.dataSeqNum) : Before last (expandHdr buf line.call).Ns := by
  refine before_of_follows last line.call.dataRecSeqNum _ (follows last held) ?_ ?_
  · intro again
    rcases keeps.ours same with here | next
    · exact keeps.fresh full here (by rw [held, ← again, here])
    · rcases follows last held with at' | past
      · rw [next, at'] at again
        exact succ_ne last again
      · rw [next, past, BitVec.add_assoc] at again
        have numbers := congrArg BitVec.toNat again
        have bound := last.isLt
        rw [BitVec.toNat_add] at numbers
        simp only [BitVec.reduceAdd, BitVec.toNat_ofNat] at numbers
        omega
  · rcases keeps.ours same with here | next
    · exact Or.inl here
    · exact Or.inr (Or.inl next)

theorem before_of_fudged (line : DataLine) (buf : RecvBuffer) (last : U16) (follows : Follows line)
    (keeps : KeepsOrder line buf) (held : line.last = some last) (full : payloadHdrSize < fullLen line buf)
    (open' : ¬ PassedOver line.call.dataRecSeqNum (expandHdr buf line.call).Ns) :
    Before last (expandHdr buf line.call).Ns := by
  have lastBound := last.isLt
  have nBound := (expandHdr buf line.call).Ns.isLt
  have recIs : line.call.dataRecSeqNum.toNat = last.toNat ∨
      line.call.dataRecSeqNum.toNat = (last.toNat + 1) % 65536 := by
    rcases follows last held with at' | past
    · exact Or.inl (congrArg BitVec.toNat at')
    · exact Or.inr (by rw [past, toNat_succ])
  rcases fudged_near _ _ open' with wrapped | close
  · refine ⟨Nat.pos_of_ne_zero fun zero => ?_, by have near := keeps.near wrapped last held; omega⟩
    have again := congrArg BitVec.toNat ((dist_eq_zero _ _).mp zero)
    unfold Wrapped at wrapped
    omega
  · refine before_of_follows last _ _ (follows last held) ?_ close
    intro again
    have numbers := congrArg BitVec.toNat again
    rcases follows last held with at' | past
    · exact keeps.fresh full (by rw [at', again]) (by rw [held, at'])
    · rcases close with back | back | back
      · rw [back, past] at again
        exact succ_ne last again
      · have more := congrArg BitVec.toNat back
        rw [toNat_succ] at more
        omega
      · omega

def Later (last n : Option U16) : Prop := ∀ a, last = some a → ∀ b, n = some b → Before a b

theorem later_none (last : Option U16) : Later last none := by
  intro a _ b absurd'
  cases absurd'

theorem follows_unwritten (line : DataLine) (after : Call) (follows : Follows line)
    (counted : line.last ≠ none → after.dataRecSeqNum = line.call.dataRecSeqNum) : Follows ⟨after, line.last⟩ := by
  intro last held
  dsimp only at held ⊢
  rw [counted (by simp [held])]
  exact follows last held

theorem expected_follows (sanity : Bool) (line : DataLine) (buf : RecvBuffer) (valid : checkPayload sanity buf = 0)
    (follows : Follows line) (keeps : KeepsOrder line buf)
    (same : (expandHdr buf line.call).Ns = line.call.dataSeqNum) :
    Follows ⟨(takePayload sanity buf line.call).1, (written sanity line (.receive buf)).or line.last⟩ ∧
      Later line.last (written sanity line (.receive buf)) := by
  obtain ⟨after, accepted, counted⟩ := expandPayload_expected buf line.call same
  rcases takePayload_accepted sanity buf line.call after _ _ valid accepted with
    ⟨full, result⟩ | ⟨_, result⟩ | ⟨short, result⟩
  · simp only [written, result, Option.map_some, Option.some_or]
    constructor
    · rintro _ ⟨⟩
      dsimp only
      rcases keeps.ours same with here | next
      · exact Or.inr (by rw [counted, here])
      · exact Or.inl (by rw [counted, next])
    · rintro last held _ ⟨⟩
      exact before_of_expected line buf last follows keeps held full same
  · simp only [written, result, Option.map_none, Option.none_or]
    refine ⟨follows_unwritten line _ follows fun _ => ?_, later_none line.last⟩
    dsimp only
    rw [counted, add_sub_one]
  · simp only [written, result, Option.map_none, Option.none_or]
    refine ⟨follows_unwritten line _ follows fun spoken => ?_, later_none line.last⟩
    exact absurd same (keeps.short spoken short).1

theorem fudged_follows (sanity : Bool) (line : DataLine) (buf : RecvBuffer) (valid : checkPayload sanity buf = 0)
    (follows : Follows line) (keeps : KeepsOrder line buf)
    (other : (expandHdr buf line.call).Ns ≠ line.call.dataSeqNum)
    (open' : ¬ PassedOver line.call.dataRecSeqNum (expandHdr buf line.call).Ns) :
    Follows ⟨(takePayload sanity buf line.call).1, (written sanity line (.receive buf)).or line.last⟩ ∧
      Later line.last (written sanity line (.receive buf)) := by
  obtain ⟨after, accepted, counted⟩ := expandPayload_fudged buf line.call other open'
  rcases takePayload_accepted sanity buf line.call after _ _ valid accepted with
    ⟨full, result⟩ | ⟨empty, result⟩ | ⟨short, result⟩
  · simp only [written, result, Option.map_some, Option.some_or]
    constructor
    · rintro _ ⟨⟩
      exact Or.inl counted
    · rintro last held _ ⟨⟩
      exact before_of_fudged line buf last follows keeps held full open'
  · simp only [written, result, Option.map_none, Option.none_or]
    refine ⟨follows_unwritten line _ follows fun spoken => ?_, later_none line.last⟩
    rcases keeps.empty spoken empty with ours | refused | next
    · exact absurd ours other
    · exact absurd refused open'
    · dsimp only
      rw [counted, next, add_sub_one]
  · simp only [written, result, Option.map_none, Option.none_or]
    refine ⟨follows_unwritten line _ follows fun spoken => ?_, later_none line.last⟩
    rcases (keeps.short spoken short).2 with refused | here
    · exact absurd refused open'
    · rw [counted, here]

theorem receive_follows (sanity : Bool) (line : DataLine) (buf : RecvBuffer) (follows : Follows line)
    (orderly : Orderly sanity line (.receive buf)) :
    Follows ⟨(takePayload sanity buf line.call).1, (written sanity line (.receive buf)).or line.last⟩ ∧
      Later line.last (written sanity line (.receive buf)) := by
  have unchanged (same : takePayload sanity buf line.call = (line.call, none)) :
      Follows ⟨(takePayload sanity buf line.call).1, (written sanity line (.receive buf)).or line.last⟩ ∧
        Later line.last (written sanity line (.receive buf)) := by
    simp only [written, same, Option.map_none, Option.none_or]
    exact ⟨follows, later_none line.last⟩
  by_cases valid : checkPayload sanity buf = 0
  · have keeps := orderly valid
    by_cases same : (expandHdr buf line.call).Ns = line.call.dataSeqNum
    · exact expected_follows sanity line buf valid follows keeps same
    · by_cases passed : PassedOver line.call.dataRecSeqNum (expandHdr buf line.call).Ns
      · exact unchanged (takePayload_refused sanity buf line.call (expandPayload_refused buf line.call same passed))
      · exact fudged_follows sanity line buf valid follows keeps same passed
  · refine unchanged ?_
    unfold takePayload
    rw [if_pos valid]

theorem step_follows (sanity : Bool) (line after : DataLine) (traffic : Traffic) (follows : Follows line)
    (orderly : Orderly sanity line traffic) (moved : line.step sanity traffic = some after) :
    Follows after ∧ after.last = (written sanity line traffic).or line.last ∧
      Later line.last (written sanity line traffic) := by
  cases traffic with
  | receive buf =>
      obtain rfl := Option.some.inj moved
      obtain ⟨kept, later⟩ := receive_follows sanity line buf follows orderly
      exact ⟨kept, rfl, later⟩
  | transmit =>
      obtain rfl := Option.some.inj moved
      exact ⟨follows, rfl, later_none line.last⟩

theorem run_follows (sanity : Bool) (call : Call) (visits : List (DataLine × Traffic)) (line : DataLine)
    (run : Run (DataLine.step sanity) (DataLine.start call) visits line) (meets : Run.Meets (Orderly sanity) visits) :
    Follows line ∧ (Run.observe (written sanity) visits).IsChain Before ∧
      line.last = (Run.observe (written sanity) visits).getLast? := by
  induction run with
  | start => exact ⟨follows_of_none _ rfl, List.IsChain.nil, rfl⟩
  | snoc visits line after traffic _ moved ih =>
      obtain ⟨earlier, orderly⟩ := (Run.meets_snoc (Orderly sanity) visits line traffic).mp meets
      obtain ⟨follows, chain, last⟩ := ih earlier
      obtain ⟨kept, carried, later⟩ := step_follows sanity line after traffic follows orderly moved
      rw [Run.observe_snoc]
      refine ⟨kept, ?_, ?_⟩
      · refine List.IsChain.append chain ?_ ?_
        · cases written sanity line traffic <;> simp
        · intro a inside b first
          rw [← last] at inside
          refine later a (Option.mem_def.mp inside) b ?_
          cases found : written sanity line traffic with
          | none => simp [found] at first
          | some n => simpa [found] using first
      · rw [carried, List.getLast?_append, ← last]
        cases written sanity line traffic <;> rfl

-- Whatever is lost, repeated or late, the numbers written to pppd go forward,
-- and one comes back only after the ring has been gone round.
theorem data_sequencing (sanity : Bool) (call : Call) (visits : List (DataLine × Traffic)) (line : DataLine)
    (run : Run (DataLine.step sanity) (DataLine.start call) visits line) (meets : Run.Meets (Orderly sanity) visits) :
    (Run.observe (written sanity) visits).IsChain Before ∧
      ∀ n front between back, Run.observe (written sanity) visits = front ++ n :: between ++ n :: back →
        2 ^ 16 ≤ travelled n (between ++ [n]) := by
  obtain ⟨_, chain, _⟩ := run_follows sanity call visits line run meets
  refine ⟨chain, ?_⟩
  intro n front between back split
  rw [split] at chain
  have inner : (n :: between ++ [n]).IsChain Before := chain.infix ⟨front, back, by simp⟩
  exact wraps_between n between inner

-- A sequenced packet with a frame of two bytes, as receive leaves it.
def dataPacket (ns : UInt8) : RecvBuffer := ⟨[2, 8, 1, 0, 7, 0, ns, 0, 0, 0, 0x21, 0x45], 12⟩

def newLine : DataLine := DataLine.start (Call.created 0 (Tunnel.created 1) 7)

def lineAt (rec' last : U16) : DataLine := ⟨{ newLine.call with dataRecSeqNum := rec', pLr := 0 }, some last⟩

def lateVisits : List (DataLine × Traffic) :=
  [(newLine, .receive (dataPacket 0)), (lineAt 1 0, .receive (dataPacket 2)), (lineAt 2 2, .receive (dataPacket 1))]

theorem lateVisits_run : Run (DataLine.step true) newLine lateVisits (lineAt 2 2) := by
  have first : newLine.step true (.receive (dataPacket 0)) = some (lineAt 1 0) := rfl
  have second : (lineAt 1 0).step true (.receive (dataPacket 2)) = some (lineAt 2 2) := rfl
  have third : (lineAt 2 2).step true (.receive (dataPacket 1)) = some (lineAt 2 2) := rfl
  exact ((Run.start.snoc _ _ _ _ first).snoc _ _ _ _ second).snoc _ _ _ _ third

theorem data_sequencing_late : Run.observe (written true) lateVisits = [0, 2] ∧
    (Run.observe (written true) lateVisits).IsChain Before := by
  refine ⟨by decide +kernel, (data_sequencing true _ lateVisits (lineAt 2 2) lateVisits_run ?_).1⟩
  decide +kernel

-- Number 1 is never ours to send next, so it is let through as often as it comes.
def replayVisits : List (DataLine × Traffic) :=
  [(newLine, .receive (dataPacket 1)), (lineAt 1 1, .receive (dataPacket 1))]

theorem replayVisits_run : Run (DataLine.step true) newLine replayVisits (lineAt 1 1) := by
  have first : newLine.step true (.receive (dataPacket 1)) = some (lineAt 1 1) := rfl
  have again : (lineAt 1 1).step true (.receive (dataPacket 1)) = some (lineAt 1 1) := rfl
  exact (Run.start.snoc _ _ _ _ first).snoc _ _ _ _ again

theorem data_replay_written : ¬ ∀ (sanity : Bool) (call : Call) (visits : List (DataLine × Traffic)) (line : DataLine),
    Run (DataLine.step sanity) (DataLine.start call) visits line →
    (∀ visit ∈ visits, ∀ buf, visit.2 = .receive buf → PFBIT (hostWord buf.mem 0) = true) →
    (Run.observe (written sanity) visits).IsChain Before := by
  intro claimed
  have chain := claimed true _ replayVisits (lineAt 1 1) replayVisits_run ?_
  · exact absurd chain (by decide +kernel)
  · intro visit member buf received
    have same : visit.2 = .receive (dataPacket 1) := by
      simp only [replayVisits, List.mem_cons, List.not_mem_nil, or_false] at member
      rcases member with rfl | rfl <;> rfl
    obtain rfl := Traffic.receive.inj (received.symm.trans same)
    rfl

end ZyAgf.Xl2tpd
