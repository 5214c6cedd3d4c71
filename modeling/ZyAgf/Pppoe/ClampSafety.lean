import ZyAgf.Pppoe.ClampMss

set_option autoImplicit false

namespace ZyAgf.Pppoe.Clamp

theorem byteAt_set_ne (payload : List UInt8) (i j : Nat) (byte : UInt8) (other : i ≠ j) :
    byteAt (payload.set j byte) i = byteAt payload i := by
  simp [byteAt, List.getD_eq_getElem?_getD, List.getElem?_set_ne (Ne.symm other)]

theorem byteAt_set_same (payload : List UInt8) (i : Nat) (byte : UInt8) (inside : i < payload.length) :
    byteAt (payload.set i byte) i = byte.toNat := by
  simp [byteAt, List.getD_eq_getElem?_getD, List.getElem?_set_self inside]

theorem writeByte_inside (payload : List UInt8) (i : Nat) (byte : UInt8) (inside : i < payload.length) :
    writeByte payload i byte = some (payload.set i byte) := by
  rw [writeByte, if_pos inside]

def withMss (payload : List UInt8) (tcpHdr mssopt clampMss : Nat) : List UInt8 :=
  (((payload.set (mssopt + 2) (UInt8.ofNat (clampMss / 256))).set (mssopt + 3) (UInt8.ofNat clampMss)).set
    (tcpHdr + 16) 0).set
    (tcpHdr + 17) 0

def storedMss (payload : List UInt8) (ipHdr tcpHdr mssopt clampMss : Nat) : List UInt8 :=
  let cleared := withMss payload tcpHdr mssopt clampMss
  let csum := checksumOf cleared ipHdr tcpHdr (segmentCount payload ipHdr)
  (cleared.set (tcpHdr + 16) (UInt8.ofNat csum)).set (tcpHdr + 17) (UInt8.ofNat (csum / 256))

@[simp] theorem withMss_length (payload : List UInt8) (tcpHdr mssopt clampMss : Nat) :
    (withMss payload tcpHdr mssopt clampMss).length = payload.length := by
  simp [withMss]

theorem withMss_same (payload : List UInt8) (tcpHdr mssopt clampMss i : Nat) (value₀ : i ≠ mssopt + 2)
    (value₁ : i ≠ mssopt + 3)
    (check₀ : i ≠ tcpHdr + 16) (check₁ : i ≠ tcpHdr + 17) :
    byteAt (withMss payload tcpHdr mssopt clampMss) i = byteAt payload i := by
  unfold withMss
  rw [byteAt_set_ne _ _ _ _ check₁, byteAt_set_ne _ _ _ _ check₀, byteAt_set_ne _ _ _ _ value₁,
    byteAt_set_ne _ _ _ _ value₀]

theorem withMss_count (payload : List UInt8) (ipHdr tcpHdr mssopt clampMss : Nat) (order : ipHdr ≤ tcpHdr)
    (behind : tcpHdr + 20 ≤ mssopt) :
    segmentCount (withMss payload tcpHdr mssopt clampMss) ipHdr = segmentCount payload ipHdr := by
  have same (i : Nat) (early : i < ipHdr + 16) : byteAt (withMss payload tcpHdr mssopt clampMss) i = byteAt payload i :=
    withMss_same payload tcpHdr mssopt clampMss i (by omega) (by omega) (by omega) (by omega)
  unfold segmentCount wordAt
  rw [same (ipHdr + 2) (by omega), same (ipHdr + 2 + 1) (by omega), same ipHdr (by omega)]

def SegmentInside (payload : List UInt8) (ipHdr tcpHdr : Nat) : Prop :=
  segmentCount payload ipHdr = 0 ∨ tcpHdr + segmentCount payload ipHdr ≤ payload.length

theorem storeMss_eq (payload : List UInt8) (ipHdr tcpHdr mssopt clampMss : Nat) (long : ipHdr + 20 ≤ payload.length)
    (order : ipHdr ≤ tcpHdr)
    (behind : tcpHdr + 20 ≤ mssopt) (inside : mssopt + 3 < payload.length)
    (segment : SegmentInside payload ipHdr tcpHdr) :
    storeMss payload ipHdr tcpHdr mssopt clampMss = some (storedMss payload ipHdr tcpHdr mssopt clampMss) := by
  have count := withMss_count payload ipHdr tcpHdr mssopt clampMss order behind
  have checksum : computeTCPChecksum (withMss payload tcpHdr mssopt clampMss) ipHdr tcpHdr =
      some (checksumOf (withMss payload tcpHdr mssopt clampMss) ipHdr tcpHdr (segmentCount payload ipHdr)) := by
    rw [computeTCPChecksum_eq _ _ _ (by simpa using long), count, withMss_length]
    exact if_pos segment
  unfold storeMss
  rw [writeByte_inside _ (mssopt + 2) _ (by omega)]
  simp only [Option.bind_eq_bind, Option.bind_some]
  rw [writeByte_inside _ (mssopt + 3) _ (by simp; omega)]
  simp only [Option.bind_some]
  rw [writeByte_inside _ (tcpHdr + 16) _ (by simp; omega)]
  simp only [Option.bind_some]
  rw [writeByte_inside _ (tcpHdr + 17) _ (by simp; omega)]
  simp only [Option.bind_some]
  rw [← withMss, checksum]
  simp only [Option.bind_some]
  rw [writeByte_inside _ (tcpHdr + 16) _ (by simp; omega)]
  simp only [Option.bind_some]
  rw [writeByte_inside _ (tcpHdr + 17) _ (by simp; omega), storedMss]

theorem findMss_behind (payload : List UInt8) (endHdr fuel start mssopt : Nat)
    (found : findMss payload endHdr fuel start = some (some mssopt)) : start ≤ mssopt := by
  induction fuel generalizing start with
  | zero => cases found
  | succ fuel ih =>
      rw [findMss] at found
      split at found
      · cases found
      obtain ⟨kind, -, found⟩ := Option.bind_eq_some_iff.mp found
      split at found
      · cases found
      split at found
      · have := ih (start + 1) found
        omega
      obtain ⟨length, -, found⟩ := Option.bind_eq_some_iff.mp found
      split at found
      · split at found <;> cases found
        exact Nat.le_refl _
      split at found
      · cases found
      · have := ih (start + length) found
        omega

theorem clampOptions_inside_iff (payload : List UInt8) (ipHdr tcpHdr endHdr clampMss : Nat)
    (long : ipHdr + 20 ≤ payload.length)
    (order : ipHdr ≤ tcpHdr) (flags : tcpHdr + 13 < payload.length) (segment : SegmentInside payload ipHdr tcpHdr)
    (header : endHdr = tcpHdr + (byteAt payload (tcpHdr + 12) &&& 0xF0) >>> 2) :
    clampOptions payload ipHdr tcpHdr clampMss ≠ none ↔
      ∀ opt, ComesTo payload endHdr (tcpHdr + 20) opt → OptionInside payload opt := by
  rw [← findMss_inside_iff payload endHdr (endHdr - (tcpHdr + 20)) (tcpHdr + 20) (by omega)]
  unfold clampOptions
  rw [readByte_inside payload (tcpHdr + 12) (by omega)]
  simp only [Option.bind_eq_bind, Option.bind_some, ← header]
  rcases found : findMss payload endHdr (endHdr - (tcpHdr + 20)) (tcpHdr + 20) with _ | _ | mssopt
  · simp [walk_outside payload]
  · simp [walk_inside_none payload]
  · have behind := findMss_behind payload _ _ (tcpHdr + 20) mssopt found
    simp only [Option.bind_some]
    by_cases inside : mssopt + 3 < payload.length
    · have walk : WalkInside payload (some (some mssopt)) := ⟨_, rfl, by simpa using inside⟩
      rw [readNet_inside payload (mssopt + 2) inside]
      simp only [Option.bind_some, walk, iff_true]
      split
      · exact Option.some_ne_none _
      · rw [storeMss_eq payload ipHdr tcpHdr mssopt clampMss long order behind inside segment]
        exact Option.some_ne_none _
    · have outside : readNet payload (mssopt + 2) = none := by
        unfold readNet
        rw [readByte_outside payload (mssopt + 2 + 1) (by omega)]
        cases readByte payload (mssopt + 2) <;> rfl
      rw [outside]
      refine ⟨fun some => absurd rfl some, ?_⟩
      rintro ⟨found', same, value⟩
      exact absurd (value mssopt (Option.some.inj same ▸ rfl)) inside

theorem clampTcp_inside_iff (payload : List UInt8) (ipHdr tcpHdr endHdr clampMss : Nat)
    (long : ipHdr + 20 ≤ payload.length)
    (header : tcpHdr = ipHdr + (byteAt payload ipHdr &&& 0x0F) * 4)
    (ends : endHdr = tcpHdr + (byteAt payload (tcpHdr + 12) &&& 0xF0) >>> 2) :
    clampTcp payload ipHdr clampMss ≠ none ↔
      tcpHdr + 13 < payload.length ∧ (byteAt payload (tcpHdr + 13) &&& 0x02 ≠ 0 → SegmentInside payload ipHdr tcpHdr ∧
        (checksumOf payload ipHdr tcpHdr (segmentCount payload ipHdr) = 0 →
          ∀ opt, ComesTo payload endHdr (tcpHdr + 20) opt → OptionInside payload opt)) := by
  unfold clampTcp
  rw [readByte_inside payload ipHdr (by omega)]
  simp only [Option.bind_eq_bind, Option.bind_some, ← header]
  by_cases flags : tcpHdr + 13 < payload.length
  swap
  · rw [readByte_outside payload (tcpHdr + 13) (by omega)]
    simp [flags]
  rw [readByte_inside payload (tcpHdr + 13) flags]
  simp only [Option.bind_some, flags, true_and]
  by_cases syn : byteAt payload (tcpHdr + 13) &&& 0x02 = 0
  · simp [syn]
  rw [if_neg syn, computeTCPChecksum_eq payload ipHdr tcpHdr long]
  by_cases segment : SegmentInside payload ipHdr tcpHdr
  swap
  · have outside : ¬ (segmentCount payload ipHdr = 0 ∨ tcpHdr + segmentCount payload ipHdr ≤ payload.length) := segment
    rw [if_neg outside]
    simp [syn, segment]
  have all : segmentCount payload ipHdr = 0 ∨ tcpHdr + segmentCount payload ipHdr ≤ payload.length := segment
  rw [if_pos all]
  simp only [Option.bind_some]
  by_cases good : checksumOf payload ipHdr tcpHdr (segmentCount payload ipHdr) = 0
  · rw [if_neg (by simp [good]), clampOptions_inside_iff payload ipHdr tcpHdr endHdr clampMss long
      (by omega) flags segment ends]
    simp [syn, segment, good]
  · rw [if_pos good]
    simp [syn, segment, good]

-- What clampIp asks of the header before it looks at the segment.
def TcpHeader (payload : List UInt8) (ipHdr : Nat) : Prop :=
  ipHdr + 40 ≤ payload.length ∧ byteAt payload ipHdr &&& 0xF0 = 0x40 ∧
    (byteAt payload (ipHdr + 6) &&& 0x1F = 0 ∧ byteAt payload (ipHdr + 7) = 0) ∧ byteAt payload (ipHdr + 9) = 0x06

theorem clampIp_tcp (payload : List UInt8) (ipHdr clampMss : Nat) (header : TcpHeader payload ipHdr) :
    clampIp payload ipHdr (ipHdr + 40) clampMss = clampTcp payload ipHdr clampMss := by
  obtain ⟨long, version, ⟨fragment, offset⟩, protocol⟩ := header
  unfold clampIp
  rw [if_neg (by omega), readByte_inside payload ipHdr (by omega), readByte_inside payload (ipHdr + 6) (by omega),
    readByte_inside payload (ipHdr + 7) (by omega), readByte_inside payload (ipHdr + 9) (by omega)]
  simp [version, fragment, offset, protocol]

theorem clampIp_other (payload : List UInt8) (ipHdr clampMss : Nat) (other : ¬ TcpHeader payload ipHdr) :
    clampIp payload ipHdr (ipHdr + 40) clampMss = some payload := by
  unfold clampIp
  by_cases short : payload.length < ipHdr + 40
  · rw [if_pos short]
    rfl
  rw [if_neg short, readByte_inside payload ipHdr (by omega), readByte_inside payload (ipHdr + 6) (by omega),
    readByte_inside payload (ipHdr + 7) (by omega), readByte_inside payload (ipHdr + 9) (by omega)]
  simp only [Option.bind_eq_bind, Option.bind_some, Option.pure_def]
  by_cases version : byteAt payload ipHdr &&& 0xF0 = 0x40
  swap
  · rw [if_pos version]
  by_cases fragment : byteAt payload (ipHdr + 6) &&& 0x1F = 0
  swap
  · rw [if_neg (not_not_intro version), if_pos fragment]
  by_cases offset : byteAt payload (ipHdr + 7) = 0
  swap
  · rw [if_neg (not_not_intro version), if_neg (not_not_intro fragment), if_pos offset]
  rw [if_neg (not_not_intro version), if_neg (not_not_intro fragment), if_neg (not_not_intro offset),
    if_pos fun protocol => other ⟨by omega, version, ⟨fragment, offset⟩, protocol⟩]

theorem isTcp_iff (payload : List UInt8) : IsTcp payload ↔ IsIpv4 payload ∧ TcpHeader payload (ipAt payload) :=
  ⟨fun tcp => ⟨tcp.ipv4, tcp.long, tcp.version, tcp.first, tcp.protocol⟩, fun both =>
    ⟨both.1, both.2.1, both.2.2.1, both.2.2.2.1, both.2.2.2.2⟩⟩

def FieldInside (payload : List UInt8) : Prop := 0 < payload.length ∧ (byteAt payload 0 = 0 → 1 < payload.length)

instance (payload : List UInt8) : Decidable (FieldInside payload) := inferInstanceAs (Decidable (_ ∧ (_ → _)))

theorem clampMSS_ipv4 (payload : List UInt8) (clampMss : Nat) (field : FieldInside payload) (ipv4 : IsIpv4 payload) :
    clampMSS payload clampMss = clampIp payload (ipAt payload) (ipAt payload + 40) clampMss := by
  unfold clampMSS ipAt
  rw [readByte_inside payload 0 field.1]
  simp only [Option.bind_eq_bind, Option.bind_some]
  rcases ipv4 with short | ⟨zero, long⟩
  · rw [short]
    rfl
  · rw [zero, readByte_inside payload 1 (field.2 zero), Option.bind_some, long]
    rfl

theorem clampMSS_not_ipv4 (payload : List UInt8) (clampMss : Nat) (field : FieldInside payload)
    (other : ¬ IsIpv4 payload) :
    clampMSS payload clampMss = some payload := by
  unfold clampMSS
  rw [readByte_inside payload 0 field.1]
  simp only [Option.bind_eq_bind, Option.bind_some]
  by_cases odd : byteAt payload 0 &&& 0x01 ≠ 0
  · rw [if_pos odd, if_pos fun short => other (Or.inl short)]
    rfl
  rw [if_neg odd]
  by_cases zero : byteAt payload 0 = 0
  · rw [if_neg (not_not_intro zero), readByte_inside payload 1 (field.2 zero), Option.bind_some,
      if_pos fun long => other (Or.inr ⟨zero, long⟩)]
    rfl
  · rw [if_pos zero]
    rfl

theorem clampMSS_tcp (payload : List UInt8) (clampMss : Nat) (field : FieldInside payload) (tcp : IsTcp payload) :
    clampMSS payload clampMss = clampTcp payload (ipAt payload) clampMss := by
  obtain ⟨ipv4, header⟩ := (isTcp_iff payload).mp tcp
  rw [clampMSS_ipv4 payload clampMss field ipv4, clampIp_tcp payload _ clampMss header]

theorem clampMSS_other (payload : List UInt8) (clampMss : Nat) (field : FieldInside payload) (other : ¬ IsTcp payload) :
    clampMSS payload clampMss = some payload := by
  by_cases ipv4 : IsIpv4 payload
  · rw [clampMSS_ipv4 payload clampMss field ipv4,
      clampIp_other payload _ clampMss fun header => other ((isTcp_iff payload).mpr ⟨ipv4, header⟩)]
  · exact clampMSS_not_ipv4 payload clampMss field ipv4

theorem clampMSS_no_field (payload : List UInt8) (clampMss : Nat) (missing : ¬ FieldInside payload) :
    clampMSS payload clampMss = none := by
  unfold clampMSS
  by_cases empty : payload.length = 0
  · rw [readByte_outside payload 0 (by omega)]
    rfl
  · have zero : byteAt payload 0 = 0 := by
      by_contra nonzero
      exact missing ⟨by omega, fun zero => absurd zero nonzero⟩
    have one : payload.length ≤ 1 := by
      by_contra more
      exact missing ⟨by omega, fun _ => by omega⟩
    rw [readByte_inside payload 0 (by omega)]
    simp only [Option.bind_eq_bind, Option.bind_some, zero]
    rw [readByte_outside payload 1 one]
    rfl

-- The count of the checksum loop, when it comes to that.
structure StaysInside (payload : List UInt8) (clampMss : Nat) : Prop where
  bytes : clampMSS payload clampMss ≠ none
  count : IsSyn payload → headerLen payload ≤ totalLen payload

structure LengthsFit (payload : List UInt8) : Prop where
  field : FieldInside payload
  flags : IsTcp payload → tcpAt payload + 13 < payload.length
  segment : IsSyn payload → headerLen payload ≤ totalLen payload ∧ ipAt payload + totalLen payload ≤ payload.length
  options : IsSyn payload → checksumOf payload (ipAt payload) (tcpAt payload)
    (totalLen payload - headerLen payload) = 0 →
    ∀ opt, ComesTo payload (optionsEnd payload) (optionsAt payload) opt → OptionInside payload opt

theorem wordAt_lt (payload : List UInt8) (i : Nat) : wordAt payload i < 65536 := by
  have := (payload.getD i 0).toNat_lt
  have := (payload.getD (i + 1) 0).toNat_lt
  unfold wordAt byteAt
  omega

theorem segmentInside_iff (payload : List UInt8) (packet : payload.length < 65536)
    (flags : tcpAt payload + 13 < payload.length) :
    SegmentInside payload (ipAt payload) (tcpAt payload) ↔
      headerLen payload ≤ totalLen payload ∧ ipAt payload + totalLen payload ≤ payload.length := by
  have total := wordAt_lt payload (ipAt payload + 2)
  have ihl : byteAt payload (ipAt payload) &&& 0x0F ≤ 0x0F := Nat.and_le_right
  unfold SegmentInside segmentCount tcpAt headerLen totalLen at *
  omega

theorem segmentCount_eq (payload : List UInt8) (order : headerLen payload ≤ totalLen payload) :
    segmentCount payload (ipAt payload) = totalLen payload - headerLen payload := by
  have total := wordAt_lt payload (ipAt payload + 2)
  unfold segmentCount headerLen totalLen at *
  omega

-- For every payload: packet.length is a uint16_t.
theorem clampMSS_inside_iff (payload : List UInt8) (clampMss : Nat) (packet : payload.length < 65536) :
    StaysInside payload clampMss ↔ LengthsFit payload := by
  by_cases field : FieldInside payload
  swap
  · exact ⟨fun stays => absurd (clampMSS_no_field payload clampMss field) stays.bytes, fun fits =>
      absurd fits.field field⟩
  by_cases tcp : IsTcp payload
  swap
  · have syn : ¬ IsSyn payload := fun syn => tcp syn.1
    refine ⟨fun _ => ⟨field, fun other => absurd other tcp, fun other => absurd other syn, fun other =>
      absurd other syn⟩,
      fun _ => ⟨?_, fun other => absurd other syn⟩⟩
    rw [clampMSS_other payload clampMss field tcp]
    exact Option.some_ne_none payload
  have walk := clampTcp_inside_iff payload (ipAt payload) (tcpAt payload) (optionsEnd payload) clampMss
    (by have := tcp.long; omega) rfl rfl
  rw [← clampMSS_tcp payload clampMss field tcp] at walk
  constructor
  · rintro ⟨bytes, count⟩
    obtain ⟨flags, syn⟩ := walk.mp bytes
    refine ⟨field, fun _ => flags, fun is => (segmentInside_iff payload packet flags).mp (syn is.2).1, fun is good =>
      ?_⟩
    rw [← segmentCount_eq payload (count is)] at good
    exact (syn is.2).2 good
  · intro fits
    have flags := fits.flags tcp
    refine ⟨walk.mpr ⟨flags, fun syn => ?_⟩, fun is => (fits.segment is).1⟩
    have is : IsSyn payload := ⟨tcp, syn⟩
    refine ⟨(segmentInside_iff payload packet flags).mpr (fits.segment is), fun good => fits.options is ?_⟩
    rw [← segmentCount_eq payload (fits.segment is).1]
    exact good

def overlongSyn : List UInt8 :=
  [0x21, 0x45, 0, 0xff, 0xff, 0, 0, 0, 0, 64, 6, 0, 0, 10, 0, 0, 1, 10, 0, 0, 2, 4, 1, 0, 80, 0, 0, 0, 1, 0, 0, 0, 0,
    0x50, 0x02, 0x20, 0,
    0, 0, 0, 0]

theorem clampMSS_inside_overlong : StaysInside overlongSyn 1400 ↔ LengthsFit overlongSyn :=
  clampMSS_inside_iff overlongSyn 1400 (by decide)

theorem clampMSS_leaves_packet : overlongSyn.length < 65536 ∧ ¬ StaysInside overlongSyn 1400 :=
  ⟨by decide, fun stays => stays.bytes (by decide +kernel)⟩

end ZyAgf.Pppoe.Clamp
