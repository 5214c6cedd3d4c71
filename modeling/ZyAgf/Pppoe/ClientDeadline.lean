import ZyAgf.Pppoe.ClientWait

set_option autoImplicit false

namespace ZyAgf.Pppoe.Client

-- What time_left is for: whether the deadline is still to come, and how far off
-- it is.
structure Remains (now expireAt : Timeval) : Prop where
  later : (timeLeft now expireAt).1 = true ↔ now.micros < expireAt.micros
  exact : (timeLeft now expireAt).1 = true → (timeLeft now expireAt).2.micros = expireAt.micros - now.micros
  normalised : (timeLeft now expireAt).1 = true → (timeLeft now expireAt).2.normalised = true ∧
    0 ≤ (timeLeft now expireAt).2.sec

-- The deadline passed in an earlier second, and not by whole seconds.
def PassedByFraction (now expireAt : Timeval) : Prop := expireAt.sec < now.sec ∧ expireAt.usec ≠ now.usec

theorem normalised_iff (tv : Timeval) : tv.normalised = true ↔ 0 ≤ tv.usec ∧ tv.usec < 1000000 := by
  unfold Timeval.normalised
  rw [Bool.and_eq_true, decide_eq_true_eq, decide_eq_true_eq]

theorem timeLeft_plain (now expireAt : Timeval) (plain : now.usec ≤ expireAt.usec) :
    timeLeft now expireAt = (decide (now.sec < expireAt.sec ∨ now.usec < expireAt.usec),
      ⟨expireAt.sec - now.sec, expireAt.usec - now.usec⟩) := by
  unfold timeLeft
  dsimp only
  rw [if_neg (by omega)]
  congr 1
  rw [Bool.eq_iff_iff]
  simp only [Bool.not_eq_true', Bool.and_eq_false_iff, decide_eq_false_iff_not, decide_eq_true_eq]
  omega

theorem timeLeft_borrowed (now expireAt : Timeval) (borrowed : expireAt.usec < now.usec)
    (close : now.usec < expireAt.usec + 1000000) :
    (timeLeft now expireAt).1 = decide (expireAt.sec ≠ now.sec) ∧
      (expireAt.sec ≠ now.sec →
        (timeLeft now expireAt).2 = ⟨expireAt.sec - now.sec - 1, expireAt.usec - now.usec + 1000000⟩) := by
  unfold timeLeft
  dsimp only
  rw [if_pos (by omega)]
  by_cases differs : expireAt.sec - now.sec ≠ 0
  · rw [if_pos differs]
    refine ⟨?_, fun _ => rfl⟩
    rw [Bool.eq_iff_iff]
    simp only [Bool.not_eq_true', Bool.and_eq_false_iff, decide_eq_false_iff_not, decide_eq_true_eq]
    omega
  · rw [if_neg differs]
    have same : ¬ expireAt.sec ≠ now.sec := by omega
    exact ⟨by simpa using same, fun other => absurd other same⟩

theorem remains_iff (now expireAt : Timeval) (nowNormal : now.normalised = true)
    (expireNormal : expireAt.normalised = true) :
    Remains now expireAt ↔ ¬ PassedByFraction now expireAt := by
  obtain ⟨nowLow, nowHigh⟩ := (normalised_iff now).mp nowNormal
  obtain ⟨expireLow, expireHigh⟩ := (normalised_iff expireAt).mp expireNormal
  unfold PassedByFraction
  by_cases plain : now.usec ≤ expireAt.usec
  · have shown := timeLeft_plain now expireAt plain
    constructor
    · rintro ⟨later, _, _⟩ ⟨passed, differs⟩
      rw [shown, decide_eq_true_eq] at later
      unfold Timeval.micros at later
      omega
    · intro unbroken
      constructor
      · rw [shown, decide_eq_true_eq]
        unfold Timeval.micros
        omega
      · intro _
        rw [shown]
        unfold Timeval.micros
        dsimp only
        omega
      · rw [shown, normalised_iff, decide_eq_true_eq]
        dsimp only
        omega
  · obtain ⟨answer, stored⟩ := timeLeft_borrowed now expireAt (by omega) (by omega)
    constructor
    · rintro ⟨later, _, _⟩ ⟨passed, differs⟩
      rw [answer, decide_eq_true_eq] at later
      unfold Timeval.micros at later
      omega
    · intro unbroken
      constructor
      · rw [answer, decide_eq_true_eq]
        unfold Timeval.micros
        omega
      · rw [answer, decide_eq_true_eq]
        intro differs
        rw [stored differs]
        unfold Timeval.micros
        dsimp only
        omega
      · rw [answer, decide_eq_true_eq]
        intro differs
        rw [stored differs, normalised_iff]
        dsimp only
        omega

-- Every call of select comes before the deadline, as far as the clock was read,
-- and with a timeout that is not negative.
def Timely (expireAt : Timeval) (_wait : Wait) (pass : Pass) : Prop :=
  ∀ tv ∈ selectCalls expireAt pass, pass.now.micros < expireAt.micros ∧ 0 ≤ tv.sec ∧ 0 ≤ tv.usec

instance (expireAt : Timeval) (wait : Wait) (pass : Pass) : Decidable (Timely expireAt wait pass) :=
  inferInstanceAs (Decidable (∀ tv ∈ selectCalls expireAt pass, _ ∧ _ ∧ _))

theorem selectCalls_some (expireAt : Timeval) (pass : Pass) (left : (timeLeft pass.now expireAt).1 = true) :
    selectCalls expireAt pass = (timeLeft pass.now expireAt).2 :: pass.interrupted.map Remainder.tv := by
  unfold selectCalls
  split
  next spent => simp [spent] at left
  next tv going => rw [going]

theorem selectCalls_none (expireAt : Timeval) (pass : Pass) (left : (timeLeft pass.now expireAt).1 = false) :
    selectCalls expireAt pass = [] := by
  unfold selectCalls
  split
  next => rfl
  next tv going => simp [going] at left

theorem remainder_valid (left : List Remainder) (tv : Timeval) (member : tv ∈ left.map Remainder.tv) : 0 ≤ tv.sec ∧
    0 ≤ tv.usec := by
  obtain ⟨remainder, _, rfl⟩ := List.mem_map.mp member
  obtain ⟨normal, positive⟩ := remainder.valid
  exact ⟨positive, ((normalised_iff remainder.tv).mp normal).1⟩

theorem timely_iff (expireAt : Timeval) (expireNormal : expireAt.normalised = true) (wait : Wait) (pass : Pass) :
    Timely expireAt wait pass ↔ ¬ PassedByFraction pass.now expireAt := by
  rw [← remains_iff pass.now expireAt pass.normalised expireNormal]
  cases left : (timeLeft pass.now expireAt).1 with
  | false =>
      have calls := selectCalls_none expireAt pass left
      constructor
      · intro _
        -- No time is left by the function, so the deadline has passed.
        refine (remains_iff pass.now expireAt pass.normalised expireNormal).mpr ?_
        rintro ⟨passed, differs⟩
        obtain ⟨nowLow, nowHigh⟩ := (normalised_iff pass.now).mp pass.normalised
        obtain ⟨expireLow, expireHigh⟩ := (normalised_iff expireAt).mp expireNormal
        by_cases plain : pass.now.usec ≤ expireAt.usec
        · rw [timeLeft_plain pass.now expireAt plain, decide_eq_false_iff_not] at left
          omega
        · rw [(timeLeft_borrowed pass.now expireAt (by omega) (by omega)).1, decide_eq_false_iff_not] at left
          omega
      · intro _ tv member
        rw [calls] at member
        cases member
  | true =>
      have calls := selectCalls_some expireAt pass left
      constructor
      · intro timely
        obtain ⟨before, _⟩ := timely (timeLeft pass.now expireAt).2 (by rw [calls]; exact List.mem_cons_self)
        refine (remains_iff pass.now expireAt pass.normalised expireNormal).mpr ?_
        rintro ⟨passed, _⟩
        obtain ⟨nowLow, _⟩ := (normalised_iff pass.now).mp pass.normalised
        obtain ⟨_, expireHigh⟩ := (normalised_iff expireAt).mp expireNormal
        unfold Timeval.micros at before
        omega
      · intro remains tv member
        refine ⟨remains.later.mp left, ?_⟩
        rw [calls] at member
        rcases List.mem_cons.mp member with rfl | interrupted
        · obtain ⟨normal, positive⟩ := remains.normalised left
          exact ⟨positive, ((normalised_iff _).mp normal).1⟩
        · exact remainder_valid pass.interrupted tv interrupted

def ClockInOrder (expireAt : Timeval) (_wait : Wait) (pass : Pass) : Prop := ¬ PassedByFraction pass.now expireAt

theorem meets_timely_iff (expireAt : Timeval) (expireNormal : expireAt.normalised = true)
    (visits : List (Wait × Pass)) :
    Run.Meets (Timely expireAt) visits ↔ Run.Meets (ClockInOrder expireAt) visits :=
  forall₂_congr fun visit _ => timely_iff expireAt expireNormal visit.1 visit.2

theorem expiry_normalised (begun : Timeval) (timeout : Int) (normal : begun.normalised = true) :
    (expiry begun timeout).normalised = true := normal

-- Both waits, from any connection and whatever the buffer held, for every order
-- of clock values and packets.
theorem deadline_kept_iff (now expireAt begun : Timeval) (timeout : Int) (nowNormal : now.normalised = true)
    (expireNormal : expireAt.normalised = true) (begunNormal : begun.normalised = true) :
    (Remains now expireAt ↔ ¬ PassedByFraction now expireAt) ∧
    (∀ req conn buffer visits finish, Run (waitForPADO req (expiry begun timeout))
    (beginPADO conn buffer) visits finish →
      (Run.Meets (Timely (expiry begun timeout)) visits ↔ Run.Meets (ClockInOrder (expiry begun timeout)) visits)) ∧
    ∀ req conn buffer visits finish, Run (waitForPADS req (expiry begun timeout))
      (beginPADS conn buffer) visits finish →
      (Run.Meets (Timely (expiry begun timeout)) visits ↔ Run.Meets (ClockInOrder (expiry begun timeout)) visits) := by
  have normal := expiry_normalised begun timeout begunNormal
  refine ⟨remains_iff now expireAt nowNormal expireNormal, ?_, ?_⟩
  · intro req conn buffer visits finish _
    exact meets_timely_iff _ normal visits
  · intro req conn buffer visits finish _
    exact meets_timely_iff _ normal visits

-- The wait began at 5.5 s for five seconds, and the clock was read again at 11 s.
def begunAt : Timeval := ⟨5, 500000⟩

def latePass : Pass := ⟨⟨11, 0⟩, by decide, [], .timedOut⟩

def anyoneRequest : Request := ⟨Vector.replicate 6 2, none, none, none, false, false⟩

def idleConnection : Connection := ⟨.sentPADI, Vector.replicate 6 0, 0, 0, none, none, false⟩

def clearBuffer : Buffer := Vector.replicate packetSize 0

theorem deadline_kept_once : (timeLeft ⟨9, 250000⟩ ⟨10, 0⟩ = (true, ⟨0, 750000⟩) ∧ Remains ⟨9, 250000⟩ ⟨10, 0⟩) ∧
    (∀ req conn buffer visits finish, Run (waitForPADO req (expiry begunAt 5)) (beginPADO conn buffer) visits finish →
      (Run.Meets (Timely (expiry begunAt 5)) visits ↔ Run.Meets (ClockInOrder (expiry begunAt 5)) visits)) :=
  have kept := deadline_kept_iff ⟨9, 250000⟩ ⟨10, 0⟩ begunAt 5 (by decide) (by decide) (by decide)
  ⟨⟨by decide, kept.1.mpr (by unfold PassedByFraction; decide)⟩, kept.2.1⟩

theorem deadline_passed_waits_on : timeLeft ⟨11, 0⟩ ⟨10, 500000⟩ = (true, ⟨-1, 500000⟩) ∧
    ¬ Remains ⟨11, 0⟩ ⟨10, 500000⟩ ∧
    ∃ visits finish, Run (waitForPADO anyoneRequest (expiry begunAt 5))
      (beginPADO idleConnection clearBuffer) visits finish ∧
      selectCalls (expiry begunAt 5) latePass = [⟨-1, 500000⟩] ∧ ¬ Run.Meets (Timely (expiry begunAt 5)) visits := by
  refine ⟨by decide, fun remains => absurd (remains.later.mp (by decide)) (by decide), _, _,
    Run.single latePass _ rfl, by decide, ?_⟩
  intro timely
  exact absurd (timely _ (List.mem_singleton_self _)) (by decide)

end ZyAgf.Pppoe.Client
