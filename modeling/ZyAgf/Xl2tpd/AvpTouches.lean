import ZyAgf.Xl2tpd.AvpOutcome
import ZyAgf.Xl2tpd.Memory

set_option autoImplicit false

namespace ZyAgf.Xl2tpd

-- Bytes of the buffer that are read or written.
structure Span where
  start : Nat
  count : Nat
deriving DecidableEq, Repr

def Span.stop (span : Span) : Nat := span.start + span.count

def Span.bytes (span : Span) (mem : List UInt8) : List UInt8 := bytesAt mem span.start span.count

def AvpData.word (a : AvpData) (i : Nat) : Span := ⟨a.data + 2 * i, 2⟩

def AvpData.header (a : AvpData) : Span := ⟨a.data, avpHdrSize⟩

def AvpData.whole (a : AvpData) : Span := ⟨a.data + avpHdrSize, a.size⟩

def AvpData.text (a : AvpData) : Span := ⟨a.data + avpHdrSize, min a.size (maxStrLen - 1)⟩

section Touches

variable (env : Env) (s : Standing) (v : Visit)

def Visit.afterChecks (allowed : List Msg) (lengthOk : Bool) (spans : List Span) : List Span :=
  if v.admitted s allowed lengthOk then spans else []

def Visit.afterExactly (allowed : List Msg) (expected : Nat) (spans : List Span) : List Span :=
  v.afterChecks s allowed (decide (v.avp.datalen = expected)) spans

def Visit.afterAtLeast (allowed : List Msg) (expected : Nat) (spans : List Span) : List Span :=
  v.afterChecks s allowed (decide (expected ≤ v.avp.datalen)) spans

-- The error code and the message are looked at once the result is in range.
def Visit.resultTouches : List Span :=
  v.afterAtLeast s [.CDN, .StopCCN] 8 <| v.avp.word 3 ::
    if v.givesResult s then
      (if 10 ≤ v.avp.datalen then [v.avp.word 4] else []) ++
        if 10 < v.avp.datalen then [⟨v.avp.data + 10, min (v.avp.datalen - 10) (maxStrLen - 1)⟩] else []
    else []

-- What the handler of an AVP reads behind its header. The message type is read
-- before the length is looked at, a serial number whatever the length; a random
-- vector is read where it lies, by the AVPs that are hidden under it.
def Visit.touches : List Span :=
  match v.attr with
  | 0 => [v.avp.word 3]
  | 1 => v.resultTouches s
  | 2 => if v.fails env s then [] else [v.avp.word 3]
  | 3 => v.afterExactly s [.SCCRP, .SCCRQ] 10 [v.avp.word 4]
  | 4 => v.afterExactly s [.SCCRP, .SCCRQ] 10 [v.avp.word 4]
  | 6 => v.afterExactly s [.SCCRP, .SCCRQ] 8 [v.avp.word 3]
  | 7 => v.afterAtLeast s [.SCCRP, .SCCRQ] 6 [v.avp.text]
  | 8 => v.afterAtLeast s [.SCCRP, .SCCRQ] 6 [v.avp.text]
  | 9 => v.afterExactly s [.SCCRP, .SCCRQ, .StopCCN] 8 [v.avp.word 3]
  | 10 => v.afterExactly s [.SCCRP, .SCCRQ, .OCRP, .OCCN, .StopCCN] 8 [v.avp.word 3]
  | 11 => v.afterAtLeast s [.SCCRP, .SCCRQ] 6 (if env.challengeMemory then [v.avp.whole] else [])
  | 13 => v.afterAtLeast s [.SCCRP, .SCCCN] 6 (if v.avp.size = mdSigSize then [v.avp.whole] else [])
  | 14 => v.afterExactly s [.CDN, .ICRP, .ICRQ, .OCRP] 8 [v.avp.word 3]
  | 15 => v.afterChecks s [.ICRQ, .OCRQ] true [v.avp.word 3, v.avp.word 4]
  | 18 => v.afterExactly s [.ICRQ, .OCRQ] 10 [v.avp.word 4]
  | 19 => v.afterExactly s [.ICCN, .OCRQ, .OCCN] 10 [v.avp.word 4]
  | 20 => v.afterExactly s [.ICRP, .OCRQ, .ICCN, .OCRP, .OCCN] 8 [v.avp.word 3]
  | 21 => v.afterAtLeast s [.OCRQ, .ICRQ] 6 [v.avp.text]
  | 22 => v.afterAtLeast s [.ICRQ] 6 [v.avp.text]
  | 23 => v.afterAtLeast s [.OCRP, .ICRQ] 6 [v.avp.text]
  | 24 => v.afterExactly s [.ICCN, .OCCN, .OCRP] 10 [v.avp.word 3, v.avp.word 4]
  | 25 => v.afterExactly s [.ICRQ, .OCRQ, .OCRP, .OCCN] 10 [v.avp.word 3, v.avp.word 4]
  | 36 => if v.fails env s then [] else [v.avp.whole]
  | 38 => v.afterExactly s [.ICCN, .OCCN, .OCRP] 10 [v.avp.word 3, v.avp.word 4]
  | _ => []

def Visit.reach : Nat :=
  match v.attr with
  | 0 => 8
  | 15 => if isOneOf v.msgtype [.ICRQ, .OCRQ] then 10 else avpHdrSize
  | _ => avpHdrSize

end Touches

section Within

variable (env : Env) (s : Standing) (v : Visit) (sane : s.sanity = true)

include sane

theorem admitted_sane (allowed : List Msg) (lengthOk : Bool) :
    v.admitted s allowed lengthOk = (isOneOf v.msgtype allowed && lengthOk) := by
  simp [Visit.admitted, sane]

theorem afterExactly_within (allowed : List Msg) (expected : Nat) (spans : List Span)
    (fits : ∀ span ∈ spans, span.stop ≤ v.avp.data + expected) :
    ∀ span ∈ v.afterExactly s allowed expected spans, span.stop ≤ v.avp.data + v.avp.datalen := by
  intro span member
  unfold Visit.afterExactly Visit.afterChecks at member
  rw [admitted_sane s v sane] at member
  split at member
  next admitted =>
    simp only [Bool.and_eq_true, decide_eq_true_eq] at admitted
    rw [admitted.2]
    exact fits span member
  next => cases member

theorem afterAtLeast_within (allowed : List Msg) (expected : Nat) (spans : List Span)
    (fits : expected ≤ v.avp.datalen → ∀ span ∈ spans, span.stop ≤ v.avp.data + v.avp.datalen) :
    ∀ span ∈ v.afterAtLeast s allowed expected spans, span.stop ≤ v.avp.data + v.avp.datalen := by
  intro span member
  unfold Visit.afterAtLeast Visit.afterChecks at member
  rw [admitted_sane s v sane] at member
  split at member
  next admitted =>
    simp only [Bool.and_eq_true, decide_eq_true_eq] at admitted
    exact fits admitted.2 span member
  next => cases member

omit sane

theorem word_stop (a : AvpData) (i : Nat) : (a.word i).stop = a.data + (2 * i + 2) := Nat.add_assoc _ _ _

theorem words_within (a : AvpData) (i expected : Nat) (fits : 2 * i + 2 ≤ expected) :
    ∀ span ∈ [a.word i], span.stop ≤ a.data + expected := by
  simp only [List.mem_singleton, forall_eq, word_stop]
  omega

theorem long_within (a : AvpData) : ∀ span ∈ [a.word 3, a.word 4], span.stop ≤ a.data + 10 := by
  simp [word_stop]

theorem whole_stop (a : AvpData) (sized : a.datalen = avpHdrSize + a.size) : a.whole.stop = a.data + a.datalen := by
  unfold AvpData.whole Span.stop
  dsimp only
  omega

theorem text_stop (a : AvpData) (sized : a.datalen = avpHdrSize + a.size) : a.text.stop ≤ a.data + a.datalen := by
  unfold AvpData.text Span.stop
  dsimp only
  omega

include sane

theorem resultTouches_within : ∀ span ∈ v.resultTouches s, span.stop ≤ v.avp.data + v.avp.datalen := by
  refine afterAtLeast_within s v sane _ 8 _ fun long span member => ?_
  rcases List.mem_cons.mp member with rfl | member
  · rw [word_stop]
    omega
  split at member
  · rcases List.mem_append.mp member with member | member
    · split at member
      next both =>
        rw [List.mem_singleton.mp member, word_stop]
        omega
      next => cases member
    · split at member
      next texted =>
        rw [List.mem_singleton.mp member]
        unfold Span.stop
        dsimp only
        omega
      next => cases member
  · cases member

theorem touches_within (sized : v.avp.datalen = avpHdrSize + v.avp.size) (typed : v.attr ≠ 0) (serial : v.attr ≠ 15) :
    ∀ span ∈ v.touches env s, span.stop ≤ v.avp.data + v.avp.datalen := by
  have texts := afterAtLeast_within s v sane
  have fields := afterExactly_within s v sane
  have textual : 6 ≤ v.avp.datalen → ∀ span ∈ [v.avp.text], span.stop ≤ v.avp.data + v.avp.datalen := by
    intro _ span member
    rw [List.mem_singleton.mp member]
    exact text_stop v.avp sized
  have whole : ∀ span ∈ [v.avp.whole], span.stop ≤ v.avp.data + v.avp.datalen := by
    intro span member
    rw [List.mem_singleton.mp member]
    exact Nat.le_of_eq (whole_stop v.avp sized)
  generalize attr : v.attr = n at typed serial
  unfold Visit.touches
  rw [attr]
  split
  · exact absurd rfl typed
  · exact resultTouches_within s v sane
  · intro span member
    split at member
    next => cases member
    next fine =>
      have long : v.avp.datalen = 8 := by simpa [Visit.fails, attr, sane] using fine
      rw [List.mem_singleton.mp member, word_stop, long]
  · exact fields _ 10 _ (words_within v.avp 4 10 (by omega))
  · exact fields _ 10 _ (words_within v.avp 4 10 (by omega))
  · exact fields _ 8 _ (words_within v.avp 3 8 (by omega))
  · exact texts _ 6 _ textual
  · exact texts _ 6 _ textual
  · exact fields _ 8 _ (words_within v.avp 3 8 (by omega))
  · exact fields _ 8 _ (words_within v.avp 3 8 (by omega))
  · refine texts _ 6 _ fun _ => ?_
    split
    · exact whole
    · simp
  · refine texts _ 6 _ fun _ => ?_
    split
    · exact whole
    · simp
  · exact fields _ 8 _ (words_within v.avp 3 8 (by omega))
  · exact absurd rfl serial
  · exact fields _ 10 _ (words_within v.avp 4 10 (by omega))
  · exact fields _ 10 _ (words_within v.avp 4 10 (by omega))
  · exact fields _ 8 _ (words_within v.avp 3 8 (by omega))
  · exact texts _ 6 _ textual
  · exact texts _ 6 _ textual
  · exact texts _ 6 _ textual
  · exact fields _ 10 _ (long_within v.avp)
  · exact fields _ 10 _ (long_within v.avp)
  · split
    · simp
    · exact whole
  · exact fields _ 10 _ (long_within v.avp)
  · simp

theorem touches_within_iff (sized : v.avp.datalen = avpHdrSize + v.avp.size) (limit : Nat)
    (inside : v.avp.data + v.avp.datalen ≤ limit) :
    (∀ span ∈ v.touches env s, span.stop ≤ limit) ↔ v.avp.data + v.reach ≤ limit := by
  by_cases typed : v.attr = 0
  · simp [Visit.touches, Visit.reach, typed, word_stop]
  by_cases serial : v.attr = 15
  · unfold Visit.touches Visit.reach
    rw [serial]
    unfold Visit.afterChecks
    rw [admitted_sane s v sane, Bool.and_true]
    by_cases named : isOneOf v.msgtype [.ICRQ, .OCRQ] = true
    · rw [if_pos named, if_pos named]
      simp only [List.mem_cons, List.not_mem_nil, or_false, forall_eq_or_imp, forall_eq, word_stop]
      omega
    · rw [if_neg named, if_neg named]
      simp only [List.not_mem_nil, false_imp_iff, implies_true, true_iff]
      omega
  · have short : v.reach = avpHdrSize := by
      unfold Visit.reach
      split
      · exact absurd ‹_› typed
      · exact absurd ‹_› serial
      · rfl
    rw [short]
    refine ⟨fun _ => by omega, fun _ span member => ?_⟩
    exact Nat.le_trans (touches_within env s v sane sized typed serial span member) inside

end Within

-- Two buffers that have the same bytes there are the same to the reader.
section Frame

variable (a : AvpData) (mem : List UInt8)

def AvpData.over : AvpData := { a with mem := mem }

theorem raw_over (i : Nat) (same : (a.word i).bytes a.mem = (a.word i).bytes mem) : a.raw i = (a.over mem).raw i :=
  netWord_bytes a.mem mem _ 2 same (by omega)

theorem long_over (same : ∀ span ∈ [a.word 3, a.word 4], span.bytes a.mem = span.bytes mem) : a.long =
    (a.over mem).long := by
  unfold AvpData.long
  rw [raw_over a mem 3 (same _ (by simp)), raw_over a mem 4 (same _ (by simp))]

theorem size_over (header : a.header.bytes a.mem = a.header.bytes mem) : a.size = (a.over mem).size := by
  unfold AvpData.size
  rw [hostWord_bytes a.mem mem a.data avpHdrSize header (by decide)]
  rfl

theorem value_over (header : a.header.bytes a.mem = a.header.bytes mem)
    (same : a.whole.bytes a.mem = a.whole.bytes mem) :
    a.value = (a.over mem).value := by
  unfold AvpData.value
  rw [← size_over a mem header]
  exact same

theorem string_over (header : a.header.bytes a.mem = a.header.bytes mem)
    (same : a.text.bytes a.mem = a.text.bytes mem) :
    a.string = (a.over mem).string := by
  unfold AvpData.string
  rw [← size_over a mem header]
  exact congrArg (fun bytes => safeCopy bytes a.size) same

section Checked

variable {env : Env} {s : Standing} {v : Visit} {vector : Option (List UInt8)} {t : TunnelPtr} {c : CallPtr}
    {d : Daemon}
  (reads : Reads s ⟨v.msgtype, vector⟩ t c d)

include reads

theorem expectsThen_over (allowed : List Msg) (field : String) (expected : Nat) (atLeast : Bool) (body : Handler)
    (same : v.admitted s allowed (lengthFits v.avp expected atLeast) = true →
    body env t c v.avp d = body env t c (v.avp.over mem) d) :
    expectsThen allowed field expected atLeast body env t c v.avp d =
      expectsThen allowed field expected atLeast body env t c (v.avp.over mem) d := by
  have fits : (if atLeast then expected ≤ v.avp.datalen else v.avp.datalen = expected) ↔
    lengthFits v.avp expected atLeast = true := by
    unfold lengthFits
    cases atLeast <;> simp
  have len : (v.avp.over mem).datalen = v.avp.datalen := rfl
  unfold expectsThen
  rw [bind_read _ _ d _ (readTunnel_live t d reads.tunnelLive), bind_read _ _ d _ (readCall_live c d reads.callLive),
    bind_read _ _ d _ (readTunnel_live t d reads.tunnelLive), bind_read _ _ d _ (readCall_live c d reads.callLive),
    reads_sanity reads, reads_msgtype reads, len]
  simp only [fits]
  by_cases other : s.sanity = true ∧ ¬ isOneOf v.msgtype allowed = true
  · rw [if_pos other, if_pos other]
  rw [if_neg other, if_neg other]
  by_cases wrong : s.sanity = true ∧ ¬ lengthFits v.avp expected atLeast = true
  · rw [if_pos wrong, if_pos wrong]
  rw [if_neg wrong, if_neg wrong]
  apply same
  unfold Visit.admitted
  cases sane : s.sanity with
  | false => rfl
  | true => simp_all

theorem expects_over (allowed : List Msg) (field : String) (expected : Nat) (atLeast : Bool)
    (store : TunnelPtr → CallPtr → AvpData → Act PUnit) (spans : List Span)
    (touched : v.touches env s = v.afterChecks s allowed (lengthFits v.avp expected atLeast) spans)
    (same : ∀ span ∈ v.touches env s, span.bytes v.avp.mem = span.bytes mem)
    (stores : (∀ span ∈ spans, span.bytes v.avp.mem = span.bytes mem) → store t c v.avp = store t c (v.avp.over mem)) :
    expects allowed field expected atLeast store env t c v.avp d =
      expects allowed field expected atLeast store env t c (v.avp.over mem) d := by
  refine expectsThen_over mem reads allowed field expected atLeast _ fun admitted => ?_
  rw [touched] at same
  unfold Visit.afterChecks at same
  rw [if_pos admitted] at same
  rw [stores same]

section Special

variable (header : v.avp.header.bytes v.avp.mem = v.avp.header.bytes mem)
  (same : ∀ span ∈ v.touches env s, span.bytes v.avp.mem = span.bytes mem)

omit reads in
theorem messageTypeAvp_over (attr : v.attr = 0)
    (same : ∀ span ∈ v.touches env s, span.bytes v.avp.mem = span.bytes mem) :
    messageTypeAvp env t c v.avp d = messageTypeAvp env t c (v.avp.over mem) d := by
  have typed : v.avp.raw 3 = (v.avp.over mem).raw 3 := raw_over v.avp mem 3 (same _ (by simp [Visit.touches, attr]))
  have len : (v.avp.over mem).datalen = v.avp.datalen := rfl
  unfold messageTypeAvp
  rw [typed, len]

include reads header same

theorem challengeAvp_over (attr : v.attr = 11) : challengeAvp env t c v.avp d = challengeAvp env t c
    (v.avp.over mem) d := by
  have touched : v.touches env s = v.afterChecks s [.SCCRP, .SCCRQ] (lengthFits v.avp 6 true)
      (if env.challengeMemory then [v.avp.whole] else []) := by
    unfold Visit.touches
    rw [attr]
    rfl
  refine expectsThen_over mem reads _ _ 6 true _ fun admitted => ?_
  by_cases memory : env.challengeMemory = true
  · have value := value_over v.avp mem header (same _ (by simp [touched, Visit.afterChecks, admitted, memory]))
    rw [if_neg (not_not_intro memory), if_neg (not_not_intro memory), value]
  · rw [if_pos memory, if_pos memory]

theorem chalrespAvp_over (attr : v.attr = 13) : chalrespAvp env t c v.avp d = chalrespAvp env t c
    (v.avp.over mem) d := by
  have touched : v.touches env s = v.afterChecks s [.SCCRP, .SCCCN] (lengthFits v.avp 6 true)
      (if v.avp.size = mdSigSize then [v.avp.whole] else []) := by
    unfold Visit.touches
    rw [attr]
    rfl
  refine expectsThen_over mem reads _ _ 6 true _ fun admitted => ?_
  rw [← size_over v.avp mem header]
  by_cases sized : v.avp.size = mdSigSize
  · have value := value_over v.avp mem header (same _ (by simp [touched, Visit.afterChecks, admitted, sized]))
    rw [if_neg (not_not_intro sized), if_neg (not_not_intro sized), value]
  · rw [if_pos sized, if_pos sized]

theorem randVectorAvp_over (attr : v.attr = 36) : randVectorAvp env t c v.avp d = randVectorAvp env t c
    (v.avp.over mem) d := by
  have fails : v.fails env s = (s.sanity && decide (v.avp.size > maxVectorSize)) := by
    unfold Visit.fails
    rw [attr]
    rfl
  have touched : v.touches env s = if v.fails env s then [] else [v.avp.whole] := by
    unfold Visit.touches
    rw [attr]
    rfl
  have len : (v.avp.over mem).datalen = v.avp.datalen := rfl
  unfold randVectorAvp
  rw [bind_read _ _ d _ (readTunnel_live t d reads.tunnelLive),
    bind_read _ _ d _ (readTunnel_live t d reads.tunnelLive),
    reads_sanity reads, len, ← size_over v.avp mem header]
  by_cases large : s.sanity = true ∧ v.avp.size > maxVectorSize
  · rw [if_pos large, if_pos large]
  · have fine : ¬ v.fails env s = true := by simpa [fails] using large
    rw [touched, if_neg fine] at same
    rw [if_neg large, if_neg large, value_over v.avp mem header (same _ (List.mem_singleton_self _))]

omit header

theorem resultCodeAvp_over (attr : v.attr = 1) : resultCodeAvp env t c v.avp d = resultCodeAvp env t c
    (v.avp.over mem) d := by
  have touched : v.touches env s = v.resultTouches s := by
    unfold Visit.touches
    rw [attr]
    rfl
  have len : (v.avp.over mem).datalen = v.avp.datalen := rfl
  rw [touched] at same
  unfold resultCodeAvp
  rw [bind_read _ _ d _ (readTunnel_live t d reads.tunnelLive), bind_read _ _ d _ (readCall_live c d reads.callLive),
    bind_read _ _ d _ (readTunnel_live t d reads.tunnelLive), bind_read _ _ d _ (readCall_live c d reads.callLive),
    reads_sanity reads, reads_msgtype reads, len]
  by_cases short : s.sanity = true ∧ v.avp.datalen < 8
  · rw [if_pos short, if_pos short]
  rw [if_neg short, if_neg short]
  by_cases other : s.sanity = true ∧ ¬ isOneOf v.msgtype [.CDN, .StopCCN] = true
  · rw [if_pos other, if_pos other]
  rw [if_neg other, if_neg other]
  have admitted : v.admitted s [.CDN, .StopCCN] (decide (8 ≤ v.avp.datalen)) = true := by
    unfold Visit.admitted
    cases sane : s.sanity with
    | false => rfl
    | true =>
        rw [sane] at short other
        simp_all
  unfold Visit.resultTouches Visit.afterAtLeast Visit.afterChecks at same
  rw [if_pos admitted] at same
  rw [← raw_over v.avp mem 3 (same _ List.mem_cons_self)]
  by_cases stopped : v.msgtype = Msg.StopCCN.code ∧
    (appleOrder (v.avp.raw 3).toNat > 7 ∨ appleOrder (v.avp.raw 3).toNat < 1)
  · rw [if_pos stopped, if_pos stopped]
  rw [if_neg stopped, if_neg stopped]
  by_cases closed : v.msgtype = Msg.CDN.code ∧
    (appleOrder (v.avp.raw 3).toNat > 11 ∨ appleOrder (v.avp.raw 3).toNat < 1)
  · rw [if_pos closed, if_pos closed]
  rw [if_neg closed, if_neg closed]
  have gives : v.givesResult s = true := by
    unfold Visit.givesResult
    rw [attr]
    dsimp only
    rw [admitted, decide_eq_false stopped, decide_eq_false closed]
    rfl
  rw [if_pos gives] at same
  have error : (if v.avp.datalen ≥ 10 then (appleOrder (v.avp.raw 4).toNat : Int) else -1) =
      if v.avp.datalen ≥ 10 then (appleOrder ((v.avp.over mem).raw 4).toNat : Int) else -1 := by
    by_cases long : v.avp.datalen ≥ 10
    · rw [raw_over v.avp mem 4 (same _ (by simp [long]))]
    · rw [if_neg long, if_neg long]
  have message : (if v.avp.datalen > 10 then safeCopy (bytesAt v.avp.mem (v.avp.data + 10) (v.avp.datalen - 10))
    (v.avp.datalen - 10) else []) =
      if v.avp.datalen > 10 then safeCopy (bytesAt mem (v.avp.data + 10) (v.avp.datalen - 10))
        (v.avp.datalen - 10) else [] := by
    by_cases long : v.avp.datalen > 10
    · have agree := same ⟨v.avp.data + 10, min (v.avp.datalen - 10) (maxStrLen - 1)⟩ (by simp [long])
      have cut (m : List UInt8) : safeCopy (bytesAt m (v.avp.data + 10) (v.avp.datalen - 10)) (v.avp.datalen - 10) =
          cstring (bytesAt m (v.avp.data + 10) (min (v.avp.datalen - 10) (maxStrLen - 1))) := by
        unfold safeCopy bytesAt
        rw [List.take_take, Nat.min_eq_left (Nat.min_le_left _ _)]
      rw [if_pos long, if_pos long, cut v.avp.mem, cut mem]
      exact congrArg cstring agree
    · rw [if_neg long, if_neg long]
  have data : (v.avp.over mem).data = v.avp.data := rfl
  have buffer : (v.avp.over mem).mem = mem := rfl
  rw [data, buffer, error, message]

end Special

-- So touches lists all that a handler depends on: it does the same in every buffer
-- that has these bytes.
theorem handler_over (handler : Handler) (found : (avps v.attr).1 = some handler)
    (header : v.avp.header.bytes v.avp.mem = v.avp.header.bytes mem)
    (same : ∀ span ∈ v.touches env s, span.bytes v.avp.mem = span.bytes mem) :
    handler env t c v.avp d = handler env t c (v.avp.over mem) d := by
  generalize attr : v.attr = n at found
  unfold avps at found
  split at found
  · obtain rfl := Option.some.inj found
    exact messageTypeAvp_over mem attr same
  · obtain rfl := Option.some.inj found
    exact resultCodeAvp_over mem reads same attr
  · obtain rfl := Option.some.inj found
    rfl
  · obtain rfl := Option.some.inj found
    refine expects_over mem reads _ _ 10 false _ [v.avp.word 4] (by unfold Visit.touches; rw [attr]; rfl) same
      fun agree => ?_
    rw [raw_over v.avp mem 4 (agree _ (by simp))]
  · obtain rfl := Option.some.inj found
    refine expects_over mem reads _ _ 10 false _ [v.avp.word 4] (by unfold Visit.touches; rw [attr]; rfl) same
      fun agree => ?_
    rw [raw_over v.avp mem 4 (agree _ (by simp))]
  · cases found
  · obtain rfl := Option.some.inj found
    refine expects_over mem reads _ _ 8 false _ [v.avp.word 3] (by unfold Visit.touches; rw [attr]; rfl) same
      fun agree => ?_
    rw [raw_over v.avp mem 3 (agree _ (by simp))]
  · obtain rfl := Option.some.inj found
    refine expects_over mem reads _ _ 6 true _ [v.avp.text] (by unfold Visit.touches; rw [attr]; rfl) same fun agree =>
      ?_
    rw [string_over v.avp mem header (agree _ (by simp))]
  · obtain rfl := Option.some.inj found
    refine expects_over mem reads _ _ 6 true _ [v.avp.text] (by unfold Visit.touches; rw [attr]; rfl) same fun agree =>
      ?_
    rw [string_over v.avp mem header (agree _ (by simp))]
  · obtain rfl := Option.some.inj found
    refine expects_over mem reads _ _ 8 false _ [v.avp.word 3] (by unfold Visit.touches; rw [attr]; rfl) same
      fun agree => ?_
    rw [raw_over v.avp mem 3 (agree _ (by simp))]
  · obtain rfl := Option.some.inj found
    refine expects_over mem reads _ _ 8 false _ [v.avp.word 3] (by unfold Visit.touches; rw [attr]; rfl) same
      fun agree => ?_
    rw [raw_over v.avp mem 3 (agree _ (by simp))]
  · obtain rfl := Option.some.inj found
    exact challengeAvp_over mem reads header same attr
  · cases found
  · obtain rfl := Option.some.inj found
    exact chalrespAvp_over mem reads header same attr
  · obtain rfl := Option.some.inj found
    refine expects_over mem reads _ _ 8 false _ [v.avp.word 3] (by unfold Visit.touches; rw [attr]; rfl) same
      fun agree => ?_
    rw [raw_over v.avp mem 3 (agree _ (by simp))]
  · obtain rfl := Option.some.inj found
    refine expects_over mem reads _ _ 0 true _ [v.avp.word 3, v.avp.word 4]
      (by unfold Visit.touches; rw [attr]; simp [lengthFits]) same fun agree => ?_
    rw [long_over v.avp mem agree]
  · cases found
  · cases found
  · obtain rfl := Option.some.inj found
    refine expects_over mem reads _ _ 10 false _ [v.avp.word 4] (by unfold Visit.touches; rw [attr]; rfl) same
      fun agree => ?_
    rw [raw_over v.avp mem 4 (agree _ (by simp))]
  · obtain rfl := Option.some.inj found
    refine expects_over mem reads _ _ 10 false _ [v.avp.word 4] (by unfold Visit.touches; rw [attr]; rfl) same
      fun agree => ?_
    rw [raw_over v.avp mem 4 (agree _ (by simp))]
  · obtain rfl := Option.some.inj found
    refine expects_over mem reads _ _ 8 false _ [v.avp.word 3] (by unfold Visit.touches; rw [attr]; rfl) same
      fun agree => ?_
    rw [raw_over v.avp mem 3 (agree _ (by simp))]
  · obtain rfl := Option.some.inj found
    refine expects_over mem reads _ _ 6 true _ [v.avp.text] (by unfold Visit.touches; rw [attr]; rfl) same fun agree =>
      ?_
    rw [string_over v.avp mem header (agree _ (by simp))]
  · obtain rfl := Option.some.inj found
    refine expects_over mem reads _ _ 6 true _ [v.avp.text] (by unfold Visit.touches; rw [attr]; rfl) same fun agree =>
      ?_
    rw [string_over v.avp mem header (agree _ (by simp))]
  · obtain rfl := Option.some.inj found
    refine expects_over mem reads _ _ 6 true _ [v.avp.text] (by unfold Visit.touches; rw [attr]; rfl) same fun agree =>
      ?_
    rw [string_over v.avp mem header (agree _ (by simp))]
  · obtain rfl := Option.some.inj found
    refine expects_over mem reads _ _ 10 false _ [v.avp.word 3, v.avp.word 4]
      (by unfold Visit.touches; rw [attr]; rfl) same fun agree => ?_
    rw [long_over v.avp mem agree]
  · obtain rfl := Option.some.inj found
    refine expects_over mem reads _ _ 10 false _ [v.avp.word 3, v.avp.word 4]
      (by unfold Visit.touches; rw [attr]; rfl) same fun agree => ?_
    rw [long_over v.avp mem agree]
  · cases found
  · cases found
  · cases found
  · obtain rfl := Option.some.inj found
    rfl
  · obtain rfl := Option.some.inj found
    rfl
  · obtain rfl := Option.some.inj found
    rfl
  · obtain rfl := Option.some.inj found
    rfl
  · obtain rfl := Option.some.inj found
    rfl
  · cases found
  · obtain rfl := Option.some.inj found
    rfl
  · obtain rfl := Option.some.inj found
    exact randVectorAvp_over mem reads header same attr
  · cases found
  · obtain rfl := Option.some.inj found
    refine expects_over mem reads _ _ 10 false _ [v.avp.word 3, v.avp.word 4]
      (by unfold Visit.touches; rw [attr]; rfl) same fun agree => ?_
    rw [long_over v.avp mem agree]
  · obtain rfl := Option.some.inj found
    rfl
  · cases found

end Checked

end Frame

end ZyAgf.Xl2tpd
