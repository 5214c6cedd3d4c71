import ZyAgf.Xl2tpd.AvpTouches
import ZyAgf.Xl2tpd.Message

set_option autoImplicit false

namespace ZyAgf.Xl2tpd

-- The AVPs cover the buffer from one place to another, each as long as its own
-- header says and no shorter than that.
inductive Tiles (mem : List UInt8) : Nat → Nat → Prop where
  | done (place : Nat) : Tiles mem place place
  | avp (place limit : Nat) (header : avpHdrSize ≤ ALENGTH (netWord mem place))
      (rest : Tiles mem (place + ALENGTH (netWord mem place)) limit) : Tiles mem place limit

-- One round of the loop, its AVP's header swapped already.
structure Round where
  mem : List UInt8
  data : Nat
  len : Int
  first : Bool
  reading : Reading

def roundAt (mem : List UInt8) (data : Nat) (len : Int) (first : Bool) (r : Reading) : Round :=
    ⟨swaps mem data 3, data, len, first, r⟩

section Rounds

variable (env : Env) (s : Standing) (q : Round)

def Round.length : U16 := hostWord q.mem q.data

def Round.attr : Nat := (hostWord q.mem (q.data + 4)).toNat

def Round.states : Nat := ALENGTH q.length

def Round.sees : Inspected := inspect env s q.reading q.mem q.data q.len q.first

def Round.visit : Option Visit :=
  match q.sees env s with
  | .handled shown place =>
      if (avps (visitAt q.reading shown place).attr).1.isNone then none else some (visitAt q.reading shown place)
  | _ => none

-- What the loop goes on with behind the AVP, unless the message is given up.
def Round.leaves : Option (List UInt8 × Reading) :=
  match q.sees env s with
  | .refused => none
  | .skipped left => some (left, q.reading)
  | .handled shown place =>
      let v := visitAt q.reading shown place
      let mandatory := AMBIT (hostWord shown place)
      if (avps v.attr).1.isNone then if mandatory then none else some (shown, q.reading)
      else if v.fails env s ∧ mandatory then none
      else some (shown, v.leaves env s q.reading)

def Round.next : Option Round :=
  if q.states = 0 then none
  else (q.leaves env s).map fun left => roundAt left.1 (q.data + q.states) (q.len - q.states) false left.2

def avpRounds : Nat → Round → List Round
  | 0, _ => []
  | fuel + 1, q =>
      if q.len ≤ 0 then []
      else q :: match q.next env s with
        | none => []
        | some later => avpRounds fuel later

-- The AVP gets as far as decrypt_avp, and there is a vector to decrypt it under.
def Round.decrypts : Bool :=
  decide (q.attr ≤ avpMax) && decide ((q.states : Int) ≤ q.len) && !(decide (q.attr ≠ 0) && q.first) &&
    decide (avpHdrSize ≤ q.states) && !AZBITS q.length && AHBIT q.length && q.reading.vector.isSome

-- The cipher, the length in front of the value it hides, and the header that is
-- written behind the old one.
def Round.cipherTouches : List Span :=
  if q.decrypts then
    [⟨q.data + avpHdrSize, (q.length &&& 0x0FFF).toNat - avpHdrSize⟩, ⟨q.data + avpHdrSize, 2⟩] ++
      if (decryptAvp env (keyed s q.reading) q.mem q.data).1.isSome then [⟨q.data + 2, avpHdrSize⟩] else []
  else []

def Round.touches : List Span :=
  ⟨q.data, avpHdrSize⟩ :: q.cipherTouches env s ++ (q.visit env s).toList.flatMap fun v => v.touches env s

-- The header lies below the limit, two bytes more do when the AVP is decrypted,
-- and so does what the handler reads whatever the length.
def Round.clear (limit : Nat) : Bool :=
  decide (q.data + avpHdrSize ≤ limit) && (!q.decrypts || decide (q.data + avpHdrSize + 2 ≤ limit)) &&
    (q.visit env s).all fun v => decide (v.avp.data + v.reach ≤ limit)

-- The loop goes on behind the AVP, and the packet does too or ends there.
def Round.passes : Bool := (q.next env s).isSome && decide ((q.states : Int) ≤ q.len)

end Rounds

section Trace

variable (env : Env) (s : Standing)

def Round.onward (q : Round) (fuel : Nat) : List Visit × Bool :=
  match q.leaves env s with
  | none => ([], false)
  | some (left, r) =>
      if q.states = 0 then ([], false) else avpTrace env s fuel left (q.data + q.states) (q.len - q.states) false r

theorem avpTrace_step (fuel : Nat) (mem : List UInt8) (data : Nat) (len : Int) (first : Bool) (r : Reading)
    (more : ¬ len ≤ 0) :
    avpTrace env s (fuel + 1) mem data len first r =
      (((roundAt mem data len first r).visit env s).toList ++ ((roundAt mem data len first r).onward env s fuel).1,
        ((roundAt mem data len first r).onward env s fuel).2) := by
  rw [avpTrace, if_neg more]
  unfold Round.onward Round.visit Round.leaves Round.sees Round.states Round.length roundAt
  dsimp only
  cases place : inspect env s r (swaps mem data 3) data len first with
  | refused => rfl
  | skipped left => rfl
  | handled shown at' =>
      dsimp only
      by_cases absent : (avps (visitAt r shown at').attr).1.isNone = true
      · rw [if_pos absent, if_pos absent, if_pos absent]
        by_cases mandatory : AMBIT (hostWord shown at') = true
        · rw [if_pos mandatory, if_pos mandatory]
          rfl
        · rw [if_neg mandatory, if_neg mandatory]
          rfl
      rw [if_neg absent, if_neg absent, if_neg absent]
      by_cases bad : (visitAt r shown at').fails env s = true ∧ AMBIT (hostWord shown at') = true
      · rw [if_pos bad, if_pos bad]
        rfl
      · rw [if_neg bad, if_neg bad]
        rfl

theorem filterMap_head {A B : Type} (f : A → Option B) (a : A) (later : List A) :
    (a :: later).filterMap f = (f a).toList ++ later.filterMap f := by
  cases seen : f a with
  | none => rw [List.filterMap_cons_none seen]; rfl
  | some b => rw [List.filterMap_cons_some seen]; rfl

theorem avpTrace_rounds (fuel : Nat) (mem : List UInt8) (data : Nat) (len : Int) (first : Bool) (r : Reading)
    (enough : len ≤ fuel) :
    (avpTrace env s fuel mem data len first r).1 =
        (avpRounds env s fuel (roundAt mem data len first r)).filterMap (Round.visit env s) ∧
      ((avpTrace env s fuel mem data len first r).2 = true ↔
        0 ≤ len ∧ ∀ q ∈ avpRounds env s fuel (roundAt mem data len first r), q.passes env s = true) := by
  induction fuel generalizing mem data len first r with
  | zero =>
      have spent : len ≤ 0 := enough
      refine ⟨rfl, ?_⟩
      simp only [avpTrace, avpRounds, decide_eq_true_eq, List.not_mem_nil, false_imp_iff, implies_true, and_true]
      omega
  | succ fuel ih =>
      rw [avpRounds]
      by_cases ended : len ≤ 0
      · have ended' : (roundAt mem data len first r).len ≤ 0 := ended
        rw [avpTrace, if_pos ended, if_pos ended']
        refine ⟨rfl, ?_⟩
        simp only [decide_eq_true_eq, List.not_mem_nil, false_imp_iff, implies_true, and_true]
        omega
      have ended' : ¬ (roundAt mem data len first r).len ≤ 0 := ended
      have here : (roundAt mem data len first r).len = len := rfl
      rw [avpTrace_step env s fuel mem data len first r ended, if_neg ended']
      generalize roundAt mem data len first r = q at here ⊢
      have halted (stops : q.next env s = none) (nothing : q.onward env s fuel = ([], false)) :
          ((q.visit env s).toList ++ (q.onward env s fuel).1 = [q].filterMap (Round.visit env s)) ∧
            ((q.onward env s fuel).2 = true ↔ 0 ≤ len ∧ ∀ p ∈ [q], p.passes env s = true) := by
        rw [nothing, filterMap_head]
        refine ⟨rfl, iff_of_false Bool.false_ne_true fun passes => ?_⟩
        have passed := passes.2 q (List.mem_singleton_self q)
        rw [Round.passes, stops] at passed
        cases passed
      cases leaves : q.leaves env s with
      | none =>
          have stops : q.next env s = none := by simp [Round.next, leaves]
          rw [stops]
          exact halted stops (by simp [Round.onward, leaves])
      | some left =>
          by_cases zero : q.states = 0
          · have stops : q.next env s = none := by simp [Round.next, zero]
            rw [stops]
            exact halted stops (by simp [Round.onward, leaves, zero])
          · have goes : q.next env s = some (roundAt left.1 (q.data + q.states) (q.len - q.states) false left.2) := by
              simp [Round.next, leaves, zero]
            have onward : q.onward env s fuel = avpTrace env s fuel left.1 (q.data + q.states)
              (q.len - q.states) false left.2 := by
              simp [Round.onward, leaves, zero]
            have passes : q.passes env s = decide ((q.states : Int) ≤ q.len) := by simp [Round.passes, goes]
            obtain ⟨visits, taken⟩ := ih left.1 (q.data + q.states) (q.len - q.states) false left.2 (by omega)
            rw [goes, onward, filterMap_head, visits, taken]
            refine ⟨rfl, ?_⟩
            simp only [List.forall_mem_cons, passes, decide_eq_true_eq]
            constructor
            · rintro ⟨fits, rest⟩
              exact ⟨by omega, by omega, rest⟩
            · rintro ⟨_, fits, rest⟩
              exact ⟨by omega, rest⟩

end Trace

theorem decryptSegments_length (env : Env) (secret : CString) (segments : Nat) (key : Vector UInt8 16)
    (cipher : List UInt8)
    (enough : cipher.length ≤ segments * mdSigSize) :
    (decryptSegments env secret segments key cipher).length = cipher.length := by
  induction segments generalizing key cipher with
  | zero =>
      rw [Nat.zero_mul] at enough
      rw [decryptSegments]
      exact (Nat.le_zero.mp enough).symm
  | succ segments ih =>
      have rest : (cipher.drop mdSigSize).length ≤ segments * mdSigSize := by
        rw [List.length_drop]
        rw [Nat.succ_mul] at enough
        omega
      rw [decryptSegments, List.length_append, ih _ _ rest, xorBytes, List.length_zipWith, List.length_take,
        List.length_drop]
      have full : key.toList.length = mdSigSize := key.length_toList
      omega

-- A buffer that an AVP up to here has been worked on in.
structure Worked (mem : List UInt8) (place : Nat) (left : List UInt8) : Prop where
  length : left.length = mem.length
  behind : ∀ i, place ≤ i → byteAt left i = byteAt mem i

theorem worked_refl (mem : List UInt8) (place : Nat) : Worked mem place mem := ⟨rfl, fun _ _ => rfl⟩

theorem worked_store (mem left : List UInt8) (place offset : Nat) (word : U16) (before : offset + 2 ≤ place)
    (worked : Worked mem place left) : Worked mem place (storeHostWord left offset word) := by
  refine ⟨(storeHostWord_length _ _ _).trans worked.length, fun i behind => ?_⟩
  rw [byteAt_storeHostWord_other _ _ _ _ ⟨by omega, by omega⟩]
  exact worked.behind i behind

theorem ALENGTH_flagged (len : Nat) (small : len ≤ 0x3FF) (flags : U16) :
    ALENGTH (BitVec.ofNat 16 len ||| flags &&& 0xB000) = len := by
  have masked : (BitVec.ofNat 16 len ||| flags &&& 0xB000) &&& 0x3FF = BitVec.ofNat 16 len &&& 0x3FF := by
    rw [BitVec.and_or_distrib_right, BitVec.and_assoc]
    show _ ||| flags &&& 0#16 = _
    rw [BitVec.and_zero, BitVec.or_zero]
  unfold ALENGTH
  rw [masked, BitVec.toNat_and, BitVec.toNat_ofNat]
  have mask : (0x3FF : U16).toNat = 2 ^ 10 - 1 := rfl
  rw [mask, Nat.and_two_pow_sub_one_eq_mod]
  omega

theorem olen_states (length : U16) (plain : AZBITS length = false) : (length &&& 0x0FFF).toNat = ALENGTH length := by
  have zero : length &&& 0x3C00 = 0#16 := by simpa [AZBITS] using plain
  have split : (0x0FFF : U16) = 0x3FF ||| 0x3C00 &&& 0x0FFF := rfl
  unfold ALENGTH
  rw [split, BitVec.and_or_distrib_left, ← BitVec.and_assoc, zero, BitVec.zero_and, BitVec.or_zero]

-- Decrypting stays inside the AVP, and what it shows ends where the AVP did.
structure Shown (mem : List UInt8) (data olen : Nat) (shown : List UInt8) : Prop where
  worked : Worked mem (data + olen) shown
  header : avpHdrSize ≤ ALENGTH (hostWord shown (data + 2))
  fits : ALENGTH (hostWord shown (data + 2)) + 2 ≤ olen

theorem decryptAvp_inside (env : Env) (tun : Tunnel) (mem : List UInt8) (data olen : Nat)
    (length : (hostWord mem data &&& 0x0FFF).toNat = olen) (small : olen ≤ 0x3FF) (long : avpHdrSize ≤ olen)
    (inside : data + olen ≤ mem.length) :
    Worked mem (data + olen) (decryptAvp env tun mem data).2 ∧
      ∀ shown, (decryptAvp env tun mem data).1 = some shown → Shown mem data olen shown := by
  unfold decryptAvp
  cases tun.chalUs.vector with
  | none => exact ⟨worked_refl mem _, fun shown found => by cases found⟩
  | some vector =>
      dsimp only
      rw [length]
      have taken : (bytesAt mem (data + avpHdrSize) (olen - avpHdrSize)).length = olen - avpHdrSize := by
        unfold bytesAt
        rw [List.length_take, List.length_drop]
        omega
      generalize bytesAt mem (data + avpHdrSize) (olen - avpHdrSize) = cipher at taken
      have plain := decryptSegments_length env tun.chalUs.secret (cipher.length / mdSigSize + 1)
        (env.md5 (wordBytes (hostWord mem (data + 4)) ++ tun.chalUs.secret ++ vector)) cipher
          (by unfold mdSigSize; omega)
      generalize decryptSegments env tun.chalUs.secret (cipher.length / mdSigSize + 1)
        (env.md5 (wordBytes (hostWord mem (data + 4)) ++ tun.chalUs.secret ++ vector)) cipher = bytes at plain ⊢
      have stop : data + avpHdrSize + bytes.length = data + olen := by omega
      have opened : Worked mem (data + olen)
        (mem.take (data + avpHdrSize) ++ bytes ++ mem.drop (data + avpHdrSize + cipher.length)) := by
        rw [← plain]
        refine ⟨splice_length mem bytes _ (by omega), fun i behind => byteAt_splice mem bytes _ (by omega) i (by omega)⟩
      generalize mem.take (data + avpHdrSize) ++ bytes ++ mem.drop
        (data + avpHdrSize + cipher.length) = left at opened ⊢
      by_cases past : (netWord left (data + 6)).toNat + avpHdrSize + 2 > olen
      · rw [if_pos past]
        exact ⟨opened, fun shown found => by cases found⟩
      rw [if_neg past]
      refine ⟨opened, fun shown found => ?_⟩
      obtain rfl := Option.some.inj found
      have small : (netWord left (data + 6)).toNat + avpHdrSize ≤ 0x3FF := by omega
      have room : data + 2 + 2 ≤ data + olen := by
        unfold avpHdrSize at past
        omega
      have worked := worked_store mem _ _ (data + 4) (hostWord mem (data + 2)) (by unfold avpHdrSize at past; omega)
        (worked_store mem _ _ (data + 6) (hostWord mem (data + 4)) (by unfold avpHdrSize at past; omega) opened)
      have word := hostWord_storeHostWord _ (data + 2)
        (BitVec.ofNat 16 ((netWord left (data + 6)).toNat + avpHdrSize) |||
        hostWord mem data &&& 0xB000) (Nat.le_trans room (worked.length ▸ inside))
      refine ⟨worked_store mem _ _ (data + 2) _ room worked, ?_, ?_⟩
      · rw [word, ALENGTH_flagged _ small]
        exact Nat.le_add_left _ _
      · rw [word, ALENGTH_flagged _ small]
        exact Nat.le_of_not_lt past

-- The AVP is in the packet as a whole, and no reserved bit is set in it.
structure Round.Whole (q : Round) : Prop where
  header : avpHdrSize ≤ q.states
  fits : (q.states : Int) ≤ q.len
  plain : AZBITS q.length = false

-- The round's place in a buffer that goes at least up to the packet's end.
structure Round.Placed (q : Round) (limit : Nat) : Prop where
  sum : (q.data : Int) + q.len = limit
  room : limit ≤ q.mem.length

section OneRound

variable (env : Env) (s : Standing) (q : Round)

theorem decrypts_whole (decrypts : q.decrypts = true) : q.Whole := by
  simp only [Round.decrypts, Bool.and_eq_true, Bool.not_eq_true', decide_eq_true_eq] at decrypts
  obtain ⟨⟨⟨⟨⟨⟨_, fits⟩, _⟩, header⟩, plain⟩, _⟩, _⟩ := decrypts
  exact ⟨header, fits, plain⟩

theorem vector_of_shown (shown : List UInt8)
    (found : (decryptAvp env (keyed s q.reading) q.mem q.data).1 = some shown) :
    q.reading.vector.isSome = true := by
  have same : (keyed s q.reading).chalUs.vector = q.reading.vector := rfl
  unfold decryptAvp at found
  rw [same] at found
  cases vector : q.reading.vector with
  | none =>
      rw [vector] at found
      cases found
  | some _ => rfl

theorem sees_cases :
    match q.sees env s with
    | .refused => True
    | .skipped left => left = q.mem ∨ q.Whole ∧ left = (decryptAvp env (keyed s q.reading) q.mem q.data).2
    | .handled shown place => q.Whole ∧ (shown = q.mem ∧ place = q.data ∨
        q.decrypts = true ∧ place = q.data + 2 ∧ (decryptAvp env (keyed s q.reading) q.mem q.data).1 = some shown) := by
  have length : hostWord q.mem q.data = q.length := rfl
  have attr : (hostWord q.mem (q.data + 4)).toNat = q.attr := rfl
  have states : ALENGTH q.length = q.states := rfl
  unfold Round.sees inspect
  dsimp only
  rw [length, attr, states]
  by_cases unknown : q.attr > avpMax
  · rw [if_pos unknown]
    by_cases mandatory : AMBIT q.length = true
    · rw [if_pos mandatory]
      trivial
    · rw [if_neg mandatory]
      exact .inl rfl
  rw [if_neg unknown]
  by_cases long : (q.states : Int) > q.len
  · rw [if_pos long]
    trivial
  rw [if_neg long]
  by_cases untyped : q.attr ≠ 0 ∧ q.first = true
  · rw [if_pos untyped]
    trivial
  rw [if_neg untyped]
  by_cases small : q.states < avpHdrSize
  · rw [if_pos small]
    trivial
  rw [if_neg small]
  by_cases zbits : AZBITS q.length = true
  · rw [if_pos zbits]
    by_cases mandatory : AMBIT q.length = true
    · rw [if_pos mandatory]
      trivial
    · rw [if_neg mandatory]
      exact .inl rfl
  rw [if_neg zbits]
  have whole : q.Whole := ⟨Nat.le_of_not_lt small, Int.not_lt.mp long, by simpa using zbits⟩
  by_cases hidden : AHBIT q.length = true
  · rw [if_pos hidden]
    have vector := vector_of_shown env s q
    cases opens : decryptAvp env (keyed s q.reading) q.mem q.data with | mk found opened
    cases found with
    | none =>
        dsimp only
        by_cases mandatory : AMBIT q.length = true
        · rw [if_pos mandatory]
          trivial
        · rw [if_neg mandatory]
          exact .inr ⟨whole, rfl⟩
    | some shown =>
        refine ⟨whole, .inr ⟨?_, rfl, rfl⟩⟩
        unfold Round.decrypts
        rw [decide_eq_true (Nat.le_of_not_lt unknown), decide_eq_true whole.fits, decide_eq_true whole.header,
          whole.plain, hidden,
          vector shown (by rw [opens])]
        have typed : (decide (q.attr ≠ 0) && q.first) = false :=
          Bool.eq_false_iff.mpr fun both => untyped (by simpa using both)
        rw [typed]
        rfl
  · rw [if_neg hidden]
    exact ⟨whole, .inl ⟨rfl, rfl⟩⟩

variable (limit : Nat) (placed : q.Placed limit)

include placed

theorem round_decrypted (whole : q.Whole) : Worked q.mem (q.data + q.states)
    (decryptAvp env (keyed s q.reading) q.mem q.data).2 ∧
    ∀ shown, (decryptAvp env (keyed s q.reading) q.mem q.data).1 = some shown → Shown q.mem q.data q.states shown := by
  have small : q.states ≤ 0x3FF := by
    unfold Round.states ALENGTH
    rw [BitVec.toNat_and]
    exact Nat.and_le_right
  have fits := whole.fits
  have sum := placed.sum
  have room := placed.room
  exact decryptAvp_inside env _ q.mem q.data q.states (olen_states q.length whole.plain) small whole.header (by omega)

theorem round_worked (left : List UInt8 × Reading) (leaves : q.leaves env s = some left) :
    Worked q.mem (q.data + q.states) left.1 := by
  have cases := sees_cases env s q
  unfold Round.leaves at leaves
  cases sees : q.sees env s with
  | refused =>
      rw [sees] at leaves
      cases leaves
  | skipped rest =>
      rw [sees] at leaves cases
      obtain rfl := Option.some.inj leaves
      rcases cases with rfl | ⟨whole, rfl⟩
      · exact worked_refl _ _
      · exact (round_decrypted env s q limit placed whole).1
  | handled shown place =>
      rw [sees] at leaves cases
      have worked : Worked q.mem (q.data + q.states) shown := by
        obtain ⟨whole, ⟨rfl, rfl⟩ | ⟨_, rfl, found⟩⟩ := cases
        · exact worked_refl _ _
        · exact ((round_decrypted env s q limit placed whole).2 shown found).worked
      dsimp only at leaves
      split at leaves
      · split at leaves
        · cases leaves
        · obtain rfl := Option.some.inj leaves
          exact worked
      · split at leaves
        · cases leaves
        · obtain rfl := Option.some.inj leaves
          exact worked

theorem round_visit (v : Visit) (visited : q.visit env s = some v) :
    v.avp.datalen = avpHdrSize + v.avp.size ∧ v.avp.data + v.avp.datalen ≤ limit := by
  have cases := sees_cases env s q
  have sum := placed.sum
  unfold Round.visit at visited
  cases sees : q.sees env s with
  | refused =>
      rw [sees] at visited
      cases visited
  | skipped rest =>
      rw [sees] at visited
      cases visited
  | handled shown place =>
      rw [sees] at visited cases
      dsimp only at visited
      split at visited
      next => cases visited
      next =>
        obtain rfl := Option.some.inj visited
        have size : (visitAt q.reading shown place).avp.size = ALENGTH (hostWord shown place) - avpHdrSize := rfl
        have datalen : (visitAt q.reading shown place).avp.datalen = ALENGTH (hostWord shown place) := rfl
        have data : (visitAt q.reading shown place).avp.data = place := rfl
        rw [size, datalen, data]
        obtain ⟨whole, ⟨rfl, rfl⟩ | ⟨_, rfl, found⟩⟩ := cases
        · have header := whole.header
          have fits := whole.fits
          unfold Round.states Round.length at header fits
          omega
        · obtain ⟨_, header, inside⟩ := (round_decrypted env s q limit placed whole).2 shown found
          have fits := whole.fits
          omega

theorem round_touches_iff (sane : s.sanity = true) :
    (∀ span ∈ q.touches env s, span.stop ≤ limit) ↔ q.clear env s limit = true := by
  have sum := placed.sum
  have visited (v : Visit) (found : q.visit env s = some v) :
      (∀ span ∈ v.touches env s, span.stop ≤ limit) ↔ v.avp.data + v.reach ≤ limit := by
    obtain ⟨sized, inside⟩ := round_visit env s q limit placed v found
    exact touches_within_iff env s v sane sized limit inside
  have cipher : (∀ span ∈ q.cipherTouches env s, span.stop ≤ limit) ↔ q.decrypts = true →
    q.data + avpHdrSize + 2 ≤ limit := by
    unfold Round.cipherTouches
    by_cases decrypts : q.decrypts = true
    · have whole := decrypts_whole q decrypts
      have fits := whole.fits
      have header := whole.header
      have olen : (q.length &&& 0x0FFF).toNat = q.states := olen_states q.length whole.plain
      rw [if_pos decrypts, olen]
      cases found : (decryptAvp env (keyed s q.reading) q.mem q.data).1 with
      | none =>
          simp only [Option.isSome_none, Bool.false_eq_true, if_false, List.append_nil, List.forall_mem_cons,
            List.not_mem_nil,
            false_imp_iff, implies_true, and_true, Span.stop, decrypts, forall_const]
          omega
      | some shown =>
          obtain ⟨_, small, inside⟩ := (round_decrypted env s q limit placed whole).2 shown found
          simp only [Option.isSome_some, if_true, List.cons_append, List.nil_append, List.forall_mem_cons,
            List.not_mem_nil,
            false_imp_iff, implies_true, and_true, Span.stop, decrypts, forall_const]
          omega
    · rw [if_neg decrypts]
      simp [decrypts]
  have handler : (∀ span ∈ (q.visit env s).toList.flatMap fun v => v.touches env s, span.stop ≤ limit) ↔
      (q.visit env s).all (fun v => decide (v.avp.data + v.reach ≤ limit)) = true := by
    cases found : q.visit env s with
    | none => simp
    | some v => simpa using visited v found
  have decrypted : (q.decrypts = true → q.data + avpHdrSize + 2 ≤ limit) ↔
      (!q.decrypts || decide (q.data + avpHdrSize + 2 ≤ limit)) = true := by
    cases q.decrypts <;> simp
  unfold Round.touches Round.clear
  rw [Bool.and_eq_true, Bool.and_eq_true, decide_eq_true_eq, ← handler, ← decrypted, ← cipher, List.cons_append,
    List.forall_mem_cons,
    List.forall_mem_append, and_assoc]
  rfl

end OneRound

section AllRounds

variable (env : Env) (s : Standing)

theorem next_some (q later : Round) (goes : q.next env s = some later) :
    ∃ left, q.leaves env s = some left ∧ q.states ≠ 0 ∧ later = roundAt left.1 (q.data + q.states)
      (q.len - q.states) false left.2 := by
  unfold Round.next at goes
  split at goes
  next => cases goes
  next nonzero =>
    obtain ⟨left, leaves, rfl⟩ := Option.map_eq_some_iff.mp goes
    exact ⟨left, leaves, nonzero, rfl⟩

theorem next_placed (q later : Round) (limit : Nat) (placed : q.Placed limit)
    (goes : q.next env s = some later) : later.Placed limit := by
  obtain ⟨left, leaves, _, rfl⟩ := next_some env s q later goes
  have worked := round_worked env s q limit placed left leaves
  have sum := placed.sum
  refine ⟨?_, ?_⟩
  · show ((q.data + q.states : Nat) : Int) + (q.len - q.states) = limit
    omega
  · show limit ≤ (swaps left.1 (q.data + q.states) 3).length
    rw [swaps_length, worked.length]
    exact placed.room

theorem rounds_placed (fuel : Nat) (q : Round) (limit : Nat) (placed : q.Placed limit) :
    ∀ p ∈ avpRounds env s fuel q, p.Placed limit := by
  induction fuel generalizing q with
  | zero =>
      intro p member
      cases member
  | succ fuel ih =>
      intro p member
      rw [avpRounds] at member
      split at member
      next => cases member
      next =>
        rcases List.mem_cons.mp member with rfl | member
        · exact placed
        · cases goes : q.next env s with
          | none =>
              rw [goes] at member
              cases member
          | some later =>
              rw [goes] at member
              exact ih later (next_placed env s q later limit placed goes) p member

theorem rounds_tile (buf : List UInt8) (limit fuel : Nat) (mem : List UInt8) (data : Nat) (len : Int) (first : Bool)
    (r : Reading)
    (enough : len ≤ fuel) (sum : (data : Int) + len = limit) (more : 0 ≤ len) (room : limit ≤ mem.length)
    (intact : ∀ i, data ≤ i → byteAt mem i = byteAt buf i)
    (headers : ∀ q ∈ avpRounds env s fuel (roundAt mem data len first r), q.data + avpHdrSize ≤ limit)
    (passes : ∀ q ∈ avpRounds env s fuel (roundAt mem data len first r), q.passes env s = true) :
    Tiles buf data limit ↔ ∀ q ∈ avpRounds env s fuel (roundAt mem data len first r), avpHdrSize ≤ q.states := by
  induction fuel generalizing mem data len first r with
  | zero =>
      have past : len = 0 := by omega
      have here : data = limit := by omega
      rw [here]
      exact iff_of_true (.done limit) fun q member => by cases member
  | succ fuel ih =>
      rw [avpRounds] at headers passes ⊢
      by_cases ended : len ≤ 0
      · have ended' : (roundAt mem data len first r).len ≤ 0 := ended
        have here : data = limit := by omega
        rw [if_pos ended', here]
        exact iff_of_true (.done limit) fun q member => by cases member
      have ended' : ¬ (roundAt mem data len first r).len ≤ 0 := ended
      rw [if_neg ended'] at headers passes ⊢
      have inside : data + avpHdrSize ≤ limit := headers _ List.mem_cons_self
      have states : (roundAt mem data len first r).states = ALENGTH (netWord buf data) := by
        have word : hostWord (swaps mem data 3) data = netWord mem data :=
          hostWord_swaps mem data 2 (by unfold avpHdrSize at inside; omega)
        show ALENGTH (hostWord (swaps mem data 3) data) = _
        rw [word]
        unfold netWord
        rw [intact data (Nat.le_refl _), intact (data + 1) (Nat.le_succ _)]
      have passed := passes _ List.mem_cons_self
      have placed : (roundAt mem data len first r).Placed limit := ⟨sum, by
        show limit ≤ (swaps mem data 3).length
        rw [swaps_length]
        exact room⟩
      have behind (i : Nat) (later : data + avpHdrSize ≤ i) : byteAt
        (roundAt mem data len first r).mem i = byteAt buf i := by
        show byteAt (swaps mem data 3) i = _
        rw [byteAt_swaps_other _ _ _ _ (.inr later)]
        exact intact i (by omega)
      have at' : (roundAt mem data len first r).data = data := rfl
      have long : (roundAt mem data len first r).len = len := rfl
      generalize roundAt mem data len first r = q at *
      simp only [Round.passes, Bool.and_eq_true, decide_eq_true_eq] at passed
      obtain ⟨goes, fits⟩ := passed
      obtain ⟨later, goes⟩ := Option.isSome_iff_exists.mp goes
      obtain ⟨left, leaves, nonzero, rfl⟩ := next_some env s q later goes
      rw [goes] at headers passes ⊢
      rw [List.forall_mem_cons] at headers passes ⊢
      have worked := round_worked env s q limit placed left leaves
      by_cases header : avpHdrSize ≤ q.states
      · have tiles := ih left.1 (q.data + q.states) (q.len - q.states) false left.2 (by omega) (by omega) (by omega)
          (worked.length ▸ placed.room) (fun i after => (worked.behind i after).trans (behind i (by omega))) headers.2
            passes.2
        rw [← tiles]
        constructor
        · intro whole
          cases whole with
          | done => omega
          | avp _ _ _ rest =>
              rw [at', states]
              exact ⟨states ▸ header, rest⟩
        · rintro ⟨_, rest⟩
          rw [at', states] at rest
          exact .avp data limit (states ▸ header) rest
      · refine iff_of_false (fun whole => ?_) fun both => header both.1
        cases whole with
        | done => omega
        | avp _ _ stated _ => exact header (states ▸ stated)

end AllRounds

theorem avpLoop_spent (env : Env) (t : TunnelPtr) (c : CallPtr) (fuel : Nat) (mem : List UInt8) (data : Nat) (len : Int)
    (first : Bool)
    (past : len ≤ 0) : avpLoop env t c fuel mem data len first = (return if len ≠ 0 then einval else 0 : Act Int) := by
  cases fuel with
  | zero => rfl
  | succ fuel => rw [avpLoop, if_pos past]

theorem avpLoop_fuel (env : Env) (t : TunnelPtr) (c : CallPtr) (fuel more : Nat) (mem : List UInt8) (data : Nat)
    (len : Int)
    (first : Bool) (enough : len ≤ fuel) (enough' : len ≤ more) :
    avpLoop env t c fuel mem data len first = avpLoop env t c more mem data len first := by
  induction fuel generalizing more mem data len first with
  | zero => rw [avpLoop_spent env t c 0 mem data len first enough, avpLoop_spent env t c more mem data len first enough]
  | succ fuel ih =>
      by_cases past : len ≤ 0
      · rw [avpLoop_spent env t c _ mem data len first past, avpLoop_spent env t c more mem data len first past]
      cases more with
      | zero => exact absurd enough' past
      | succ more =>
          rw [avpLoop, avpLoop, if_neg past, if_neg past]
          dsimp only
          congr 1
          funext left?
          cases left? with
          | none => rfl
          | some left =>
              dsimp only
              by_cases zero : ALENGTH (hostWord (swaps mem data 3) data) = 0
              · rw [if_pos zero, if_pos zero]
              · rw [if_neg zero, if_neg zero]
                exact ih more left _ _ false (by omega) (by omega)

def losesHead (env : Env) (s : Standing) : Bool → List Visit → Bool
  | _, [] => false
  | headless, v :: later => headless && (v.stores s).isSome || losesHead env s (headless && !v.makesCall env s) later

def headless (d : Daemon) (t : TunnelPtr) : Bool := (d.tunnel t).calls.isEmpty

theorem outcome_headless (env : Env) (s : Standing) (v : Visit) (t : TunnelPtr) (c : CallPtr) (d d' : Daemon) (r : Int)
    (outcome : Outcome env s v t c d (some (r, d'))) :
    (headless d t && (v.stores s).isSome) = false ∧ headless d' t = (headless d t && !v.makesCall env s) := by
  have unmade (plain : v.attr ≠ 0) : v.makesCall env s = false := by simp [Visit.makesCall, plain]
  have listed (d₀ d₁ : Daemon) (kept : (d₁.tunnel t).kept = (d₀.tunnel t).kept) : headless d₁ t = headless d₀ t := by
    simp only [Tunnel.kept, Prod.mk.injEq] at kept
    unfold headless
    rw [kept.2.1]
  cases outcome with
  | quiet _ _ plain result keeps stores quiet _ =>
      rw [stores, unmade plain, listed d d' quiet.tunnel]
      simp
  | stored p change plain taken stores keeps head =>
      have full : headless d t = false := by
        unfold headless
        cases calls : (d.tunnel t).calls with
        | nil =>
            rw [calls] at head
            cases head
        | cons _ _ => rfl
      rw [full]
      exact ⟨rfl, full⟩
  | vector attr taken =>
      rw [stores_other s v (by rw [attr]; decide), unmade (by omega)]
      simp [headless]
  | typed _ _ attr result none quiet _ =>
      rw [stores_other s v (by rw [attr]; decide), none, listed _ d' quiet.tunnel]
      simp [headless]
  | called attr taken made =>
      rw [stores_other s v (by rw [attr]; decide), made]
      simp [headless, withLinkedCall_here]

theorem goes_loses {env : Env} {s : Standing} {t : TunnelPtr} {c : CallPtr} {taken : Bool} {d : Daemon}
    {visits : List Visit}
    {last : Option Daemon} (goes : Goes env s t c taken d visits last) : last = none ↔
    losesHead env s (headless d t) visits = true := by
  induction goes with
  | done d d' _ _ => simp [losesHead]
  | stuck d v later handler vector found reads ran =>
      have outcome := @handler_outcome env s v vector t c _ reads handler found
      rw [ran] at outcome
      cases outcome with
      | lost change stores head =>
          have empty : headless d t = true := by
            unfold headless
            rw [List.isEmpty_iff]
            exact List.head?_eq_none_iff.mp head
          simp [losesHead, empty, stores]
  | visit d d' v later last handler vector result found reads ran rest ih =>
      have outcome := @handler_outcome env s v vector t c _ reads handler found
      rw [ran] at outcome
      obtain ⟨finds, after⟩ := outcome_headless env s v t c d d' result outcome
      rw [ih, losesHead, finds, after, Bool.false_or]

section Message

variable (env : Env) (d : Daemon) (t : TunnelPtr) (c : CallPtr) (buf : RecvBuffer)

def messageRounds : List Round :=
  avpRounds env (standing d t c) (buf.len - controlHdrSize)
    (roundAt buf.mem controlHdrSize (buf.len - controlHdrSize) true (reading d t c))

-- The AVPs of a packet are taken or refused in the end, nothing is read or
-- written outside the packet, and only a packet that they tile is taken.
structure InPacket : Prop where
  ends : ∃ result after, ∀ fuel, buf.len - controlHdrSize ≤ fuel →
    avpLoop env t c fuel buf.mem controlHdrSize (buf.len - controlHdrSize) true d = some (result, after)
  inside : ∀ span ∈ (messageRounds env d t c buf).flatMap (Round.touches env (standing d t c)), span.stop ≤ buf.len
  tiled : ∀ after, handleAvps env t c buf d = some (0, after) → Tiles buf.mem controlHdrSize buf.len

-- Each AVP the loop comes to is clear of the packet's end, none is stored in the
-- first call of a tunnel that has none, and a message whose AVPs all pass has
-- none that is shorter than its header.
structure WellCut : Prop where
  clear : ∀ q ∈ messageRounds env d t c buf, q.clear env (standing d t c) buf.len = true
  headed : losesHead env (standing d t c) (headless d t)
    ((messageRounds env d t c buf).filterMap (Round.visit env (standing d t c))) = false
  long : (∀ q ∈ messageRounds env d t c buf, q.passes env (standing d t c) = true) →
    ∀ q ∈ messageRounds env d t c buf, avpHdrSize ≤ q.states

variable (entry : Entry d t c) (sane : (d.tunnel t).sanity = true) (long : controlHdrSize ≤ buf.len)
    (fits : buf.len ≤ buf.mem.length)

include entry in
theorem ends_iff (long : controlHdrSize ≤ buf.len) :
    (∃ result after, ∀ fuel, buf.len - controlHdrSize ≤ fuel →
      avpLoop env t c fuel buf.mem controlHdrSize (buf.len - controlHdrSize) true d = some (result, after)) ↔
    losesHead env (standing d t c) (headless d t) (messageTrace env d t c buf).1 = false := by
  obtain ⟨last, goes, ended⟩ := handleAvps_trace env d t c buf entry
  have loses := goes_loses goes
  constructor
  · rintro ⟨result, after, ran⟩
    have parsed : handleAvps env t c buf d = some (result, after) := ran _ (Nat.le_refl _)
    rw [ended] at parsed
    obtain ⟨_, rfl, _⟩ := Option.map_eq_some_iff.mp parsed
    exact Bool.eq_false_iff.mpr fun lost => by cases loses.mpr lost
  · intro kept
    cases last with
    | none => exact absurd (loses.mp rfl) (by simp [kept])
    | some after =>
        refine ⟨verdict (messageTrace env d t c buf).2, after, fun fuel enough => ?_⟩
        rw [avpLoop_fuel env t c fuel (buf.len - controlHdrSize) _ _ _ _ (by omega) (by omega)]
        exact ended

include entry sane long fits

theorem inPacket_iff : InPacket env d t c buf ↔ WellCut env d t c buf := by
  have placed : (roundAt buf.mem controlHdrSize (buf.len - controlHdrSize) true (reading d t c)).Placed buf.len := by
    refine ⟨?_, ?_⟩
    · show (controlHdrSize : Int) + (buf.len - controlHdrSize) = buf.len
      omega
    · show buf.len ≤ (swaps buf.mem controlHdrSize 3).length
      rw [swaps_length]
      exact fits
  have all := rounds_placed env (standing d t c) (buf.len - controlHdrSize) _ buf.len placed
  have inside : (∀ span ∈ (messageRounds env d t c buf).flatMap (Round.touches env (standing d t c)),
    span.stop ≤ buf.len) ↔
      ∀ q ∈ messageRounds env d t c buf, q.clear env (standing d t c) buf.len = true := by
    rw [List.forall_mem_flatMap]
    exact forall₂_congr fun q member => round_touches_iff env (standing d t c) q buf.len (all q member) sane
  obtain ⟨visits, taken⟩ := avpTrace_rounds env (standing d t c) (buf.len - controlHdrSize) buf.mem controlHdrSize
    (buf.len - controlHdrSize) true (reading d t c) (by omega)
  have ends := ends_iff env d t c buf entry long
  have visited : (messageTrace env d t c buf).1 = (messageRounds env d t c buf).filterMap
    (Round.visit env (standing d t c)) := visits
  rw [visited] at ends
  have whole : (messageTrace env d t c buf).2 = true ↔ ∀ q ∈ messageRounds env d t c buf,
    q.passes env (standing d t c) = true :=
    taken.trans ⟨And.right, fun passes => ⟨by omega, passes⟩⟩
  have tiles (clear : ∀ q ∈ messageRounds env d t c buf, q.clear env (standing d t c) buf.len = true)
      (passes : ∀ q ∈ messageRounds env d t c buf, q.passes env (standing d t c) = true) :
      Tiles buf.mem controlHdrSize buf.len ↔ ∀ q ∈ messageRounds env d t c buf, avpHdrSize ≤ q.states := by
    refine rounds_tile env (standing d t c) buf.mem buf.len (buf.len - controlHdrSize) buf.mem controlHdrSize _ true _
      (by omega) (by omega)
      (by omega) fits (fun _ _ => rfl) (fun q member => ?_) passes
    have clear := clear q member
    simp only [Round.clear, Bool.and_eq_true, decide_eq_true_eq] at clear
    exact clear.1.1
  constructor
  · intro holds
    refine ⟨inside.mp holds.inside, ends.mp holds.ends, fun passes => ?_⟩
    refine (tiles (inside.mp holds.inside) passes).mp ?_
    obtain ⟨result, after, ran⟩ := holds.ends
    have parsed : handleAvps env t c buf d = some (result, after) := ran _ (Nat.le_refl _)
    obtain ⟨last, _, ended⟩ := handleAvps_trace env d t c buf entry
    rw [whole.mpr passes, parsed] at ended
    obtain ⟨_, rfl, same⟩ := Option.map_eq_some_iff.mp ended.symm
    obtain ⟨rfl, rfl⟩ := Prod.mk.inj same
    exact holds.tiled _ parsed
  · intro cut
    refine ⟨ends.mpr cut.headed, inside.mpr cut.clear, fun after parsed => ?_⟩
    have passes := whole.mp (handleAvps_taken env d after t c buf entry parsed).1
    exact (tiles cut.clear passes).mpr (cut.long passes)

end Message

-- The message that check_control accepts is handed on with its type open.
def handedOn (checked : Daemon) (c : CallPtr) : Daemon :=
  { checked with call := write checked.call c { checked.call c with msgtype := -1 } }

theorem handedOn_records (before checked : Daemon) (t : TunnelPtr) (c : CallPtr) (buf : RecvBuffer)
    (accepted : checkControl buf t c before = some (0, checked)) :
    (handedOn checked c).tunnel t = checkedTunnel buf (before.tunnel t) ∧
      (handedOn checked c).call = write before.call c
        { checkedCall buf (before.tunnel t) (before.call c) with msgtype := -1 } ∧
      (handedOn checked c).fresh = before.fresh := by
  obtain ⟨_, same⟩ := checkControl_some buf t c before checked 0 accepted
  refine ⟨?_, ?_, by rw [same]; rfl⟩
  · rw [same]
    exact write_here _ _ _
  · rw [same]
    unfold handedOn
    dsimp only
    rw [write_same_address, write_here]

theorem handedOn_entry (before checked : Daemon) (t : TunnelPtr) (c : CallPtr) (buf : RecvBuffer)
    (entry : Entry before t c)
    (accepted : checkControl buf t c before = some (0, checked)) : Entry (handedOn checked c) t c := by
  obtain ⟨here, calls, fresh⟩ := handedOn_records before checked t c buf accepted
  have tunnel : ((handedOn checked c).tunnel t).live = (before.tunnel t).live ∧
      ((handedOn checked c).tunnel t).calls = (before.tunnel t).calls := by
    rw [here]
    unfold checkedTunnel
    split <;> exact ⟨rfl, rfl⟩
  have call (p : CallPtr) : ((handedOn checked c).call p).live = (before.call p).live := by
    rw [calls]
    refine write_same before.call Call.live c _ ?_ p
    unfold checkedCall
    split
    · rfl
    · split <;> rfl
  refine ⟨tunnel.1.trans entry.tunnel, (call c).trans entry.call, fun p member => ?_, fresh ▸ entry.old⟩
  obtain ⟨live, old⟩ := entry.calls p (tunnel.2 ▸ member)
  exact ⟨(call p).trans live, fresh ▸ old⟩

theorem accepted_entry (before checked : Daemon) (t : TunnelPtr) (c : CallPtr) (buf : RecvBuffer)
    (entry : Entry before t c)
    (sane : (before.tunnel t).sanity = true) (accepted : checkControl buf t c before = some (0, checked)) :
    Entry (handedOn checked c) t c ∧ ((handedOn checked c).tunnel t).sanity = true ∧ controlHdrSize ≤ buf.len := by
  have passes := (checkControl_some buf t c before checked 0 accepted).1.mp rfl
  have long : controlHdrSize ≤ buf.len := by
    simp only [inOrderOk, inOrder, wellSized, Bool.and_eq_true, decide_eq_true_eq] at passes
    exact passes.1.1.1
  refine ⟨handedOn_entry before checked t c buf entry accepted, ?_, long⟩
  rw [(handedOn_records before checked t c buf accepted).1]
  unfold checkedTunnel
  split <;> exact sane

-- Parsing stays in the packet exactly when the packet is well cut.
theorem avps_in_packet_iff (env : Env) (before checked : Daemon) (t : TunnelPtr) (c : CallPtr) (buf : RecvBuffer)
    (entry : Entry before t c) (sane : (before.tunnel t).sanity = true) (fits : buf.len ≤ buf.mem.length)
    (accepted : checkControl buf t c before = some (0, checked)) :
    InPacket env (handedOn checked c) t c buf ↔ WellCut env (handedOn checked c) t c buf := by
  obtain ⟨heard, saneStill, long⟩ := accepted_entry before checked t c buf entry sane accepted
  exact inPacket_iff env _ t c buf heard saneStill long fits

def newTunnelScene : Daemon := withTunnel plainEnv emptyDaemon ⟨1, udpListenPort⟩ 0

theorem newTunnelScene_entry : Entry newTunnelScene 0 1 where
  tunnel := rfl
  call := rfl
  calls _ member := by cases member
  old := by decide

def firstPacket (body : List UInt8) : RecvBuffer where
  mem := fixHdr (ControlHdr.wire ⟨0xC802, BitVec.ofNat 16 (controlHdrSize + body.length), 0, 0, 0, 0⟩ ++ body)
  len := controlHdrSize + body.length

theorem avps_in_packet_request :
    ∃ checked, checkControl (firstPacket (addMessageTypeAvp .SCCRQ ++ addFrameCapsAvp 3 ++ addTunnelidAvp 9)) 0 1
      newTunnelScene =
        some (0, checked) ∧
      InPacket plainEnv (handedOn checked 1) 0 1
        (firstPacket (addMessageTypeAvp .SCCRQ ++ addFrameCapsAvp 3 ++ addTunnelidAvp 9)) := by
  generalize scene : firstPacket (addMessageTypeAvp .SCCRQ ++ addFrameCapsAvp 3 ++ addTunnelidAvp 9) = buf
  have seen : (checkControl buf 0 1 newTunnelScene).any (fun done =>
      done.1 == 0 &&
        (messageRounds plainEnv (handedOn done.2 1) 0 1 buf).all (fun q =>
          q.clear plainEnv (standing (handedOn done.2 1) 0 1) buf.len && decide (avpHdrSize ≤ q.states)) &&
        !losesHead plainEnv (standing (handedOn done.2 1) 0 1) (headless (handedOn done.2 1) 0)
          ((messageRounds plainEnv (handedOn done.2 1) 0 1 buf).filterMap
            (Round.visit plainEnv (standing (handedOn done.2 1) 0 1)))) =
        true := by
    rw [← scene]
    decide +kernel
  obtain ⟨⟨result, checked⟩, accepted, facts⟩ := (Option.any_eq_true _ _).mp seen
  simp only [Bool.and_eq_true, beq_iff_eq, Bool.not_eq_true', List.all_eq_true, decide_eq_true_eq] at facts
  obtain ⟨⟨rfl, cut⟩, headed⟩ := facts
  have fits : buf.len ≤ buf.mem.length := by
    rw [← scene]
    decide
  exact ⟨checked, accepted, (avps_in_packet_iff plainEnv newTunnelScene checked 0 1 buf newTunnelScene_entry rfl fits
    accepted).mpr
    ⟨fun q member => (cut q member).1, headed, fun _ q member => (cut q member).2⟩⟩

-- One byte behind the last AVP is taken for a header.
theorem header_behind_packet :
    ¬ ∀ (env : Env) (before checked : Daemon) (t : TunnelPtr) (c : CallPtr) (buf : RecvBuffer), Entry before t c →
      (before.tunnel t).sanity = true → buf.len ≤ buf.mem.length → checkControl buf t c before = some (0, checked) →
        InPacket env (handedOn checked c) t c buf := by
  intro claimed
  have seen : (checkControl (firstPacket (addMessageTypeAvp .SCCRQ ++ [0])) 0 1 newTunnelScene).any (fun done =>
      done.1 == 0 &&
        !((messageRounds plainEnv (handedOn done.2 1) 0 1 (firstPacket (addMessageTypeAvp .SCCRQ ++ [0]))).flatMap
          (Round.touches plainEnv (standing (handedOn done.2 1) 0 1))).all
            fun span => decide (span.stop ≤ (firstPacket (addMessageTypeAvp .SCCRQ ++ [0])).len)) = true := by
              decide +kernel
  obtain ⟨⟨result, checked⟩, accepted, facts⟩ := (Option.any_eq_true _ _).mp seen
  simp only [Bool.and_eq_true, beq_iff_eq] at facts
  obtain ⟨rfl, outside⟩ := facts
  have holds := claimed plainEnv newTunnelScene checked 0 1 _ newTunnelScene_entry rfl (by decide) accepted
  rw [Bool.not_eq_true', List.all_eq_false] at outside
  obtain ⟨span, member, past⟩ := outside
  exact past (decide_eq_true (holds.inside span member))

end ZyAgf.Xl2tpd
