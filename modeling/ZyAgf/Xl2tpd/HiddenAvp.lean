import ZyAgf.Xl2tpd.AvpOutcome
import ZyAgf.Xl2tpd.Daemon
import ZyAgf.Xl2tpd.Memory

set_option autoImplicit false

namespace ZyAgf.Xl2tpd

def copyWord (mem : List UInt8) (source target : Nat) : List UInt8 :=
  (mem.set target (byteAt mem source)).set (target + 1) (byteAt mem (source + 1))

-- The length is padded to whole segments; two octets of the first are the length
-- of what is hidden.
def paddedLength (size : Nat) : Nat := ((size + 1) / 16 + 1) * 16 + avpHdrSize

def hiddenLength (len : Nat) : Nat := paddedLength (len - avpHdrSize) % 2 ^ 16

-- The new header stands two bytes in front of the old one and takes its words
-- over, in this order.
def hideHeader (mem : List UInt8) (new : Nat) (length flags sublength : U16) : List UInt8 :=
  let old := new + 2
  let sized := storeNetWord mem new (length ||| flags ||| 0x4000)
  let vendored := copyWord sized (old + 2) (new + 2)
  let numbered := copyWord vendored (old + 4) (new + 4)
  storeNetWord numbered (old + 4) sublength

def encryptSegments (env : Env) (secret : CString) : Nat → Vector UInt8 16 → List UInt8 → List UInt8
  | 0, _, _ => []
  | segments + 1, key, plain =>
      let cipher := xorBytes (plain.take mdSigSize) key.toList
      cipher ++ encryptSegments env secret segments (env.md5 (secret ++ cipher)) (plain.drop mdSigSize)

-- Hides the AVP of the given length at the end of the buffer, which was written
-- two bytes behind its place.
def encryptAvp (env : Env) (tun : Tunnel) (mem : List UInt8) (bufLen len : Nat) : Option (List UInt8 × Nat) :=
  tun.chalThem.vector.map fun vector =>
    let new := bufLen - len
    let length := hiddenLength len
    let flags := netWord mem (new + 2) &&& 0xF000
    let hidden := hideHeader mem new (BitVec.ofNat 16 length) flags (BitVec.ofNat 16 (len - avpHdrSize))
    let attr := bytesAt hidden (new + 4) 2
    let key := env.md5 (attr ++ tun.chalThem.secret ++ vector.take vectorSize)
    let plain := bytesAt hidden (new + avpHdrSize) (length - avpHdrSize)
    (hidden.take (new + avpHdrSize) ++ encryptSegments env tun.chalThem.secret
    ((length - avpHdrSize) / mdSigSize) key plain ++
      hidden.drop (new + length), bufLen - len + length)

section Segments

variable (env : Env) (secret : CString)

theorem xorBytes_length (as : List UInt8) (key : Vector UInt8 16) (full : as.length = mdSigSize) :
    (xorBytes as key.toList).length = mdSigSize := by
  simp [xorBytes, full, mdSigSize]

theorem xorBytes_twice (as key : List UInt8) (covered : as.length ≤ key.length) : xorBytes
    (xorBytes as key) key = as := by
  induction as generalizing key with
  | nil => rfl
  | cons a as ih =>
      cases key with
      | nil => simp at covered
      | cons k key =>
          have rest := ih key (by simpa using covered)
          unfold xorBytes at rest ⊢
          rw [List.zipWith_cons_cons, List.zipWith_cons_cons, rest, UInt8.xor_assoc, UInt8.xor_self, UInt8.xor_zero]

theorem encryptSegments_length (segments : Nat) (key : Vector UInt8 16) (plain : List UInt8)
    (whole : plain.length = segments * mdSigSize) :
    (encryptSegments env secret segments key plain).length = plain.length := by
  induction segments generalizing key plain with
  | zero => simp [encryptSegments, whole]
  | succ segments ih =>
      rw [Nat.succ_mul] at whole
      have first : (plain.take mdSigSize).length = mdSigSize := by
        rw [List.length_take]
        omega
      rw [encryptSegments, List.length_append, xorBytes_length _ key first, ih _ _ (by rw [List.length_drop]; omega),
        List.length_drop]
      omega

theorem decryptSegments_empty (segments : Nat) (key : Vector UInt8 16) : decryptSegments env secret segments key [] =
    [] := by
  induction segments generalizing key with
  | zero => rfl
  | succ segments ih =>
      rw [decryptSegments, List.take_nil, List.drop_nil, ih]
      rfl

theorem decrypt_encrypted (segments more : Nat) (key : Vector UInt8 16) (plain : List UInt8)
    (whole : plain.length = segments * mdSigSize) :
    decryptSegments env secret (segments + more) key (encryptSegments env secret segments key plain) = plain := by
  induction segments generalizing key plain with
  | zero =>
      have empty : plain = [] := List.eq_nil_of_length_eq_zero (by omega)
      subst empty
      exact decryptSegments_empty env secret (0 + more) key
  | succ segments ih =>
      rw [Nat.succ_mul] at whole
      have first : (plain.take mdSigSize).length = mdSigSize := by
        rw [List.length_take]
        omega
      have cipher := xorBytes_length (plain.take mdSigSize) key first
      have later : (plain.drop mdSigSize).length = segments * mdSigSize := by
        rw [List.length_drop]
        omega
      rw [encryptSegments, Nat.add_right_comm, decryptSegments, List.take_left' cipher, List.drop_left' cipher,
        ih _ _ later, xorBytes_twice _ _ (by simp [mdSigSize]), List.take_append_drop]

end Segments

theorem copyWord_append (front back : List UInt8) (source target : Nat) :
    copyWord (front ++ back) (front.length + source)
      (front.length + target) = front ++ copyWord back source target := by
  unfold copyWord
  rw [byteAt_append, set_append, Nat.add_assoc, Nat.add_assoc, byteAt_append, set_append]

theorem hideHeader_front (front : List UInt8) (s0 s1 : UInt8) (word vendor attr length flags sublength : U16)
    (tail : List UInt8) :
    hideHeader (front ++ s0 :: s1 :: (wordBytes word ++ (wordBytes vendor ++ (wordBytes attr ++ tail)))) front.length
      length flags sublength =
      front ++ (wordBytes (length ||| flags ||| 0x4000) ++
        (wordBytes vendor ++ (wordBytes attr ++ (wordBytes sublength ++ tail)))) := by
  have sized (back : List UInt8) (word : U16) : storeNetWord
    (front ++ back) front.length word = front ++ storeNetWord back 0 word :=
    storeNetWord_append front back 0 word
  unfold hideHeader
  dsimp only
  rw [sized, Nat.add_assoc, Nat.add_assoc, copyWord_append, copyWord_append, storeNetWord_append]
  rfl

theorem hiddenLength_padded (size : Nat) (fits : paddedLength size ≤ 0x3FF) : hiddenLength
    (avpHdrSize + size) = paddedLength size := by
  unfold hiddenLength
  rw [Nat.add_sub_cancel_left]
  omega

theorem encryptAvp_wire (env : Env) (sender : Tunnel) (vector : List UInt8)
    (keyed : sender.chalThem.vector = some vector)
    (front : List UInt8) (s0 s1 : UInt8) (word vendor attr : U16) (value pad rest : List UInt8)
    (fits : paddedLength value.length ≤ 0x3FF)
    (padded : value.length + pad.length + 2 + avpHdrSize = paddedLength value.length) :
    encryptAvp env sender
        (front ++ s0 :: s1 :: (wordBytes word ++ (wordBytes vendor ++ (wordBytes attr ++ (value ++ (pad ++ rest))))))
        (front.length + (avpHdrSize + value.length)) (avpHdrSize + value.length) =
      some (front ++ (wordBytes (BitVec.ofNat 16 (paddedLength value.length) ||| word &&& 0xF000 ||| 0x4000) ++
        (wordBytes vendor ++
          (wordBytes attr ++ (encryptSegments env sender.chalThem.secret
            ((paddedLength value.length - avpHdrSize) / mdSigSize)
            (env.md5 (wordBytes attr ++ sender.chalThem.secret ++ vector.take vectorSize))
            (wordBytes (BitVec.ofNat 16 value.length) ++ (value ++ pad)) ++ rest)))),
        front.length + paddedLength value.length) := by
  have flags : netWord (front ++ s0 :: s1 ::
    (wordBytes word ++ (wordBytes vendor ++ (wordBytes attr ++ (value ++ (pad ++ rest))))))
      (front.length + 2) = word := by
    rw [netWord_append]
    exact joined word
  unfold encryptAvp
  rw [keyed, Option.map_some, hiddenLength_padded value.length fits]
  dsimp only
  rw [Nat.add_sub_cancel, Nat.add_sub_cancel_left, flags, hideHeader_front]
  generalize headed : BitVec.ofNat 16 (paddedLength value.length) ||| word &&& 0xF000 ||| 0x4000 = head
  have plain : (wordBytes (BitVec.ofNat 16 value.length) ++ (value ++ pad)).length = paddedLength value.length -
    avpHdrSize := by
    simp only [List.length_append, wordBytes, List.length_cons, List.length_nil]
    omega
  have shape : wordBytes head ++ (wordBytes vendor ++
    (wordBytes attr ++ (wordBytes (BitVec.ofNat 16 value.length) ++ (value ++ (pad ++ rest))))) =
      (wordBytes head ++ (wordBytes vendor ++ wordBytes attr)) ++
        ((wordBytes (BitVec.ofNat 16 value.length) ++ (value ++ pad)) ++ rest) := by
    simp only [List.append_assoc]
  have numbered : bytesAt (front ++ (wordBytes head ++
    (wordBytes vendor ++ (wordBytes attr ++ (wordBytes (BitVec.ofNat 16 value.length) ++
      (value ++ (pad ++ rest))))))) (front.length + 4) 2 = wordBytes attr := bytesAt_append front _ 4 2
  have cut : paddedLength value.length = avpHdrSize + (paddedLength value.length - avpHdrSize) := by
    unfold paddedLength
    omega
  rw [numbered, shape]
  have opened : bytesAt (front ++ ((wordBytes head ++ (wordBytes vendor ++ wordBytes attr)) ++
      ((wordBytes (BitVec.ofNat 16 value.length) ++ (value ++ pad)) ++ rest))) (front.length + avpHdrSize)
        (paddedLength value.length - avpHdrSize) =
      wordBytes (BitVec.ofNat 16 value.length) ++ (value ++ pad) := by
    rw [bytesAt_append]
    exact List.take_left' plain
  have kept : ((wordBytes head ++ (wordBytes vendor ++ wordBytes attr)) ++
      ((wordBytes (BitVec.ofNat 16 value.length) ++ (value ++ pad)) ++ rest)).drop
        (paddedLength value.length) = rest := by
    rw [cut, ← List.append_assoc]
    exact List.drop_left' (by rw [List.length_append, plain]; rfl)
  rw [opened, List.take_length_add_append, List.drop_length_add_append, kept]
  have header : ((wordBytes head ++ (wordBytes vendor ++ wordBytes attr)) ++
      ((wordBytes (BitVec.ofNat 16 value.length) ++ (value ++ pad)) ++ rest)).take avpHdrSize =
      wordBytes head ++ (wordBytes vendor ++ wordBytes attr) := rfl
  rw [header]
  simp only [List.append_assoc]

-- The first word of an AVP, as add_header makes it.
def avpWord (mandatory : Bool) (length : Nat) : U16 := BitVec.ofNat 16 length ||| if mandatory then 0x8000 else 0

def hiddenWord (mandatory : Bool) (length : Nat) : U16 :=
    BitVec.ofNat 16 length ||| (if mandatory then 0x8000 else 0) ||| 0x4000

theorem avpWord_flags (mandatory : Bool) (length : Nat) (fits : length ≤ 0x3FF) :
    avpWord mandatory length &&& 0xF000 = if mandatory then 0x8000 else 0 := by
  have all : ∀ n : Fin 1024, ∀ m : Bool, avpWord m n.val &&& 0xF000 = if m then 0x8000 else 0 := by decide +kernel
  exact all ⟨length, Nat.lt_succ_of_le fits⟩ mandatory

theorem hiddenWord_bits (mandatory : Bool) (length : Nat) (fits : length ≤ 0x3FF) :
    (hiddenWord mandatory length &&& 0x0FFF).toNat = length ∧ ALENGTH (hiddenWord mandatory length) = length ∧
      AMBIT (hiddenWord mandatory length) = mandatory ∧ AHBIT (hiddenWord mandatory length) = true ∧
      AZBITS (hiddenWord mandatory length) = false ∧ hiddenWord mandatory length &&& 0xB000 = if mandatory then 0x8000
        else 0 := by
  have all : ∀ n : Fin 1024, ∀ m : Bool, (hiddenWord m n.val &&& 0x0FFF).toNat = n.val ∧
    ALENGTH (hiddenWord m n.val) = n.val ∧
      AMBIT (hiddenWord m n.val) = m ∧ AHBIT (hiddenWord m n.val) = true ∧ AZBITS (hiddenWord m n.val) = false ∧
      hiddenWord m n.val &&& 0xB000 = if m then 0x8000 else 0 := by decide +kernel
  exact all ⟨length, Nat.lt_succ_of_le fits⟩ mandatory

theorem swaps_header (front : List UInt8) (head vendor attr : U16) (tail : List UInt8) :
    swaps (front ++ (wordBytes head ++ (wordBytes vendor ++ (wordBytes attr ++ tail)))) front.length 3 =
      front ++ (hostBytes head ++ (hostBytes vendor ++ (hostBytes attr ++ tail))) := by
  have here := swaps_append front (wordBytes head ++ (wordBytes vendor ++ (wordBytes attr ++ tail))) 0 3
  rw [Nat.add_zero] at here
  rw [here, swaps_wordBytes, swaps_wordBytes, swaps_wordBytes]
  rfl

theorem decryptAvp_shown (env : Env) (receiver : Tunnel) (vector : List UInt8)
    (keyed : receiver.chalUs.vector = some vector)
    (front : List UInt8) (mandatory : Bool) (vendor attr : U16) (value pad rest : List UInt8)
    (fits : paddedLength value.length ≤ 0x3FF)
    (padded : value.length + pad.length + 2 + avpHdrSize = paddedLength value.length) :
    (decryptAvp env receiver
        (front ++ (hostBytes (hiddenWord mandatory (paddedLength value.length)) ++
          (hostBytes vendor ++ (hostBytes attr ++
          (encryptSegments env receiver.chalUs.secret ((paddedLength value.length - avpHdrSize) / mdSigSize)
            (env.md5 (wordBytes attr ++ receiver.chalUs.secret ++ vector))
            (wordBytes (BitVec.ofNat 16 value.length) ++ (value ++ pad)) ++ rest)))))
        front.length).1 =
      some (front ++ (hostBytes (hiddenWord mandatory (paddedLength value.length)) ++
        (hostBytes (BitVec.ofNat 16 (value.length + avpHdrSize) ||| if mandatory then 0x8000 else 0) ++
          (hostBytes vendor ++
          (hostBytes attr ++ (value ++ (pad ++ rest))))))) := by
  obtain ⟨olen, _, _, _, _, flags⟩ := hiddenWord_bits mandatory (paddedLength value.length) fits
  generalize hiddenWord mandatory (paddedLength value.length) = head at olen flags ⊢
  have plain : (wordBytes (BitVec.ofNat 16 value.length) ++ (value ++ pad)).length =
      (paddedLength value.length - avpHdrSize) / mdSigSize * mdSigSize := by
    simp only [List.length_append, wordBytes, List.length_cons, List.length_nil]
    unfold paddedLength avpHdrSize mdSigSize at *
    omega
  have decrypted := decrypt_encrypted env receiver.chalUs.secret _ 1
    (env.md5 (wordBytes attr ++ receiver.chalUs.secret ++ vector)) _ plain
  have cipher := encryptSegments_length env receiver.chalUs.secret _
    (env.md5 (wordBytes attr ++ receiver.chalUs.secret ++ vector)) _ plain
  generalize encryptSegments env receiver.chalUs.secret ((paddedLength value.length - avpHdrSize) / mdSigSize)
    (env.md5 (wordBytes attr ++ receiver.chalUs.secret ++ vector))
    (wordBytes (BitVec.ofNat 16 value.length) ++ (value ++ pad)) =
      hidden at decrypted cipher ⊢
  have size : hidden.length = paddedLength value.length - avpHdrSize := by
    rw [cipher]
    simp only [List.length_append, wordBytes, List.length_cons, List.length_nil]
    omega
  have segments : (paddedLength value.length - avpHdrSize) / mdSigSize = hidden.length / mdSigSize := by rw [size]
  rw [segments] at decrypted
  have sized : hostWord (front ++ (hostBytes head ++ (hostBytes vendor ++ (hostBytes attr ++ (hidden ++ rest)))))
    front.length = head :=
    (hostWord_append front _ 0).trans (joined head)
  have numbered : hostWord (front ++ (hostBytes head ++ (hostBytes vendor ++ (hostBytes attr ++ (hidden ++ rest)))))
    (front.length + 4) =
      attr := (hostWord_append front _ 4).trans (joined attr)
  have vendored : hostWord (front ++ (hostBytes head ++ (hostBytes vendor ++ (hostBytes attr ++ (hidden ++ rest)))))
    (front.length + 2) =
      vendor := (hostWord_append front _ 2).trans (joined vendor)
  have taken : bytesAt (front ++ (hostBytes head ++ (hostBytes vendor ++ (hostBytes attr ++ (hidden ++ rest)))))
    (front.length + avpHdrSize)
      (paddedLength value.length - avpHdrSize) = hidden := by
    rw [bytesAt_append]
    exact List.take_left' size
  have opened : (front ++ (hostBytes head ++ (hostBytes vendor ++ (hostBytes attr ++ (hidden ++ rest))))).take
    (front.length + avpHdrSize) ++
      (wordBytes (BitVec.ofNat 16 value.length) ++ (value ++ pad)) ++
      (front ++ (hostBytes head ++ (hostBytes vendor ++ (hostBytes attr ++ (hidden ++ rest))))).drop
        (front.length + avpHdrSize + hidden.length) =
      front ++ (hostBytes head ++ (hostBytes vendor ++
        (hostBytes attr ++ (wordBytes (BitVec.ofNat 16 value.length) ++ (value ++ (pad ++ rest)))))) := by
    have behind : (hostBytes head ++ (hostBytes vendor ++ (hostBytes attr ++ (hidden ++ rest)))).drop
      (avpHdrSize + hidden.length) = rest := by
      rw [← List.drop_drop]
      exact List.drop_left
    rw [Nat.add_assoc, List.take_length_add_append, List.drop_length_add_append, behind]
    have header : (hostBytes head ++ (hostBytes vendor ++ (hostBytes attr ++ (hidden ++ rest)))).take avpHdrSize =
      hostBytes head ++ (hostBytes vendor ++ hostBytes attr) := rfl
    rw [header]
    simp only [List.append_assoc]
  have inner : netWord (front ++ (hostBytes head ++
    (hostBytes vendor ++ (hostBytes attr ++ (wordBytes (BitVec.ofNat 16 value.length) ++
      (value ++ (pad ++ rest))))))) (front.length + 6) = BitVec.ofNat 16 value.length :=
        (netWord_append front _ 6).trans (joined _)
  have small : (BitVec.ofNat 16 value.length).toNat = value.length := by
    rw [BitVec.toNat_ofNat, Nat.mod_eq_of_lt]
    omega
  unfold decryptAvp
  rw [keyed]
  dsimp only
  rw [sized, numbered, vendored, olen, taken, decrypted, opened, inner, small, if_neg (by omega), flags]
  dsimp only
  rw [storeHostWord_append, storeHostWord_append, storeHostWord_append]
  rfl

theorem avpLoop_hidden (env : Env) (t : TunnelPtr) (c : CallPtr) (d : Daemon) (live : (d.tunnel t).live = true)
    (front : List UInt8)
    (mandatory : Bool) (padded : Nat) (fits : padded ≤ 0x3FF) (whole : avpHdrSize ≤ padded) (vendor attr : U16)
    (tail shown : List UInt8)
    (decrypted : (decryptAvp env (d.tunnel t)
      (front ++ (hostBytes (hiddenWord mandatory padded) ++ (hostBytes vendor ++ (hostBytes attr ++ tail))))
        front.length).1 = some shown)
    (known : attr.toNat ≤ avpMax) (fuel : Nat) (len : Int) (inside : (padded : Int) ≤ len) (first : Bool)
    (place : ¬ (attr.toNat ≠ 0 ∧ first)) :
    avpLoop env t c (fuel + 1) (front ++ (wordBytes (hiddenWord mandatory padded) ++
      (wordBytes vendor ++ (wordBytes attr ++ tail))))
        front.length len first d =
      (runHandler env t c shown (front.length + 2) >>= fun left? =>
        match left? with
        | none => return einval
        | some left => avpLoop env t c fuel left (front.length + padded) (len - padded) false : Act Int) d := by
  obtain ⟨_, length, _, hides, reserved, _⟩ := hiddenWord_bits mandatory padded fits
  have sized := (hostWord_append front (hostBytes (hiddenWord mandatory padded) ++
    (hostBytes vendor ++ (hostBytes attr ++ tail))) 0).trans
    (joined (hiddenWord mandatory padded))
  have numbered := (hostWord_append front (hostBytes (hiddenWord mandatory padded) ++
    (hostBytes vendor ++ (hostBytes attr ++ tail))) 4).trans
    (joined attr)
  rw [Nat.add_zero] at sized
  have some_left : ¬ len ≤ 0 := by
    unfold avpHdrSize at whole
    omega
  rw [avpLoop, if_neg some_left, swaps_header, sized, length]
  have handled : handleAvp env t c (front ++
    (hostBytes (hiddenWord mandatory padded) ++ (hostBytes vendor ++ (hostBytes attr ++ tail))))
      front.length len first d = runHandler env t c shown (front.length + 2) d := by
    unfold handleAvp
    rw [sized, numbered, if_neg (Nat.not_lt.mpr known), length, if_neg (Int.not_lt.mpr inside), if_neg place,
      if_neg (Nat.not_lt.mpr whole),
      reserved, if_neg Bool.false_ne_true, hides, if_pos rfl, bind_read _ _ d _ (readTunnel_live t d live)]
    rcases outcome : decryptAvp env (d.tunnel t) _ front.length with ⟨_ | other, opened⟩
    · rw [outcome] at decrypted
      cases decrypted
    · rw [outcome] at decrypted
      cases decrypted
      rfl
  show (handleAvp env t c _ front.length len first d).bind _ = (runHandler env t c shown (front.length + 2) d).bind _
  rw [handled]
  have nonzero : padded ≠ 0 := by
    unfold avpHdrSize at whole
    omega
  congr 1
  funext result
  rcases result with ⟨_ | left, later⟩
  · rfl
  · exact congrFun (if_neg nonzero) later

-- An AVP that is hidden and shown again is what it was, wherever it stands.
theorem hidden_avp_round_trip (env : Env) (sender receiver : Tunnel) (vector : List UInt8)
    (secret : receiver.chalUs.secret = sender.chalThem.secret) (sent : sender.chalThem.vector = some vector)
    (received : receiver.chalUs.vector = some vector) (vectorLength : vector.length = vectorSize)
    (front value after : List UInt8) (s0 s1 : UInt8) (mandatory : Bool) (vendor attr : U16)
    (fits : paddedLength value.length ≤ 0x3FF)
    (room : paddedLength value.length ≤ 2 + avpHdrSize + value.length + after.length) :
    ∃ wire shown,
      encryptAvp env sender (front ++ s0 :: s1 ::
        (wordBytes (avpWord mandatory (avpHdrSize + value.length)) ++ (wordBytes vendor ++
          (wordBytes attr ++ (value ++ after))))) (front.length + (avpHdrSize + value.length))
            (avpHdrSize + value.length) =
        some (wire, front.length + paddedLength value.length) ∧
      (decryptAvp env receiver (swaps wire front.length 3) front.length).1 = some shown ∧
      hostWord shown (front.length + 2) = avpWord mandatory (avpHdrSize + value.length) ∧
      hostWord shown (front.length + 4) = vendor ∧ hostWord shown (front.length + 6) = attr ∧
      bytesAt shown (front.length + 2 + avpHdrSize) value.length = value ∧
      ∀ (t : TunnelPtr) (c : CallPtr) (d : Daemon) (fuel : Nat) (len : Int) (first : Bool), d.tunnel t = receiver →
        receiver.live = true →
        attr.toNat ≤ avpMax → ¬ (attr.toNat ≠ 0 ∧ first) → (paddedLength value.length : Int) ≤ len →
        avpLoop env t c (fuel + 1) wire front.length len first d =
          (runHandler env t c shown (front.length + 2) >>= fun left? =>
            match left? with
            | none => return einval
            | some left =>
                avpLoop env t c fuel left (front.length + paddedLength value.length)
                  (len - paddedLength value.length) false : Act Int) d := by
  obtain ⟨pad, rest, rfl, padded⟩ : ∃ pad rest, after = pad ++ rest ∧
    value.length + pad.length + 2 + avpHdrSize = paddedLength value.length := by
    refine ⟨after.take (paddedLength value.length - (value.length + 2 + avpHdrSize)), after.drop _,
      (List.take_append_drop _ after).symm, ?_⟩
    have least : value.length + 2 + avpHdrSize ≤ paddedLength value.length := by
      unfold paddedLength
      omega
    rw [List.length_take]
    omega
  have short : avpHdrSize + value.length ≤ 0x3FF := by omega
  have encrypted := encryptAvp_wire env sender vector sent front s0 s1
    (avpWord mandatory (avpHdrSize + value.length)) vendor attr value pad rest
    fits padded
  rw [avpWord_flags mandatory _ short, ← vectorLength, List.take_length, ← secret] at encrypted
  have shown := decryptAvp_shown env receiver vector received front mandatory vendor attr value pad rest fits padded
  have word : BitVec.ofNat 16 (value.length + avpHdrSize) ||| (if mandatory then 0x8000 else 0) = avpWord mandatory
    (avpHdrSize + value.length) := by
    rw [avpWord, Nat.add_comm]
  rw [word] at shown
  have split_at : front.length + 2 + avpHdrSize = front.length + 8 := rfl
  refine ⟨_, _, encrypted, (congrArg (fun mem => (decryptAvp env receiver mem front.length).1)
    (swaps_header front _ vendor attr _)).trans shown,
    ?_, ?_, ?_, ?_, fun t c d fuel len first here live known place inside => ?_⟩
  · rw [hostWord_append]
    exact joined (avpWord mandatory (avpHdrSize + value.length))
  · rw [hostWord_append]
    exact joined vendor
  · rw [hostWord_append]
    exact joined attr
  · rw [split_at, bytesAt_append]
    exact bytesAt_here value (pad ++ rest)
  · subst here
    exact avpLoop_hidden env t c d live front mandatory _ fits
      (by unfold paddedLength; omega) vendor attr _ _ shown known fuel len inside
      first place

def hidingEnv : Env :=
    { plainEnv with md5 := fun bytes => Vector.ofFn fun i => bytes.foldl (· + ·) (UInt8.ofNat i.val) }

def hidingSecret : Challenge :=
    { Challenge.zero with secret := text "secret", vector := some (List.replicate vectorSize 0x5a) }

theorem hidden_avp_round_trip_callid :
    ∃ wire shown,
      encryptAvp hidingEnv { Tunnel.created 1 with chalThem := hidingSecret }
          ([1, 2, 3, 4] ++ 0 :: 0 :: (wordBytes (avpWord true 8) ++
            (wordBytes 0 ++ (wordBytes 14 ++ ([0x12, 0x34] ++ List.replicate 20 0xee)))))
          12 8 = some (wire, 26) ∧
        (decryptAvp hidingEnv { Tunnel.created 2 with chalUs := hidingSecret } (swaps wire 4 3) 4).1 = some shown ∧
        hostWord shown 6 = 0x8008 ∧ hostWord shown 10 = 14 ∧ bytesAt shown 12 2 = [0x12, 0x34] := by
  obtain ⟨wire, shown, hidden, decrypted, word, vendor, attr, value, loops⟩ :=
    hidden_avp_round_trip hidingEnv { Tunnel.created 1 with chalThem := hidingSecret }
      { Tunnel.created 2 with chalUs := hidingSecret }
      (List.replicate vectorSize 0x5a) rfl rfl rfl rfl [1, 2, 3, 4] [0x12, 0x34] (List.replicate 20 0xee) 0 0 true 0 14
        (by decide) (by decide)
  exact ⟨wire, shown, hidden, decrypted, word, attr, value⟩

end ZyAgf.Xl2tpd
