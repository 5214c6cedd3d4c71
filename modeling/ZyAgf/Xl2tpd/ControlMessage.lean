import Mathlib.Data.List.TakeWhile
import ZyAgf.Xl2tpd.HiddenAvp
import ZyAgf.Xl2tpd.Message

set_option autoImplicit false

namespace ZyAgf.Xl2tpd

-- An AVP as we send it, with what it says.
inductive Item where
  | messageType (type : Msg)
  | resultCode (result error : Int) (msg : CString)
  | protocol
  | frameCaps (caps : Int)
  | bearerCaps (caps : Int)
  | firmware
  | hostname (name : CString)
  | vendor
  | tunnelid (tid : Nat)
  | rws (size : Int)
  | challenge (bytes : List UInt8)
  | chalresp (response : Vector UInt8 16)
  | callid (id : Nat)
  | serno (number : Nat)
  | bearer (type : Int)
  | frame (type : Int)
  | txspeed (speed : Int)
  | randvect (vector : List UInt8)
  | rxspeed (speed : Int)
deriving DecidableEq, Repr

def Item.wire : Item → List UInt8
  | .messageType type => addMessageTypeAvp type
  | .resultCode result error msg => addResultCodeAvp result error msg
  | .protocol => addProtocolAvp
  | .frameCaps caps => addFrameCapsAvp caps
  | .bearerCaps caps => addBearerCapsAvp caps
  | .firmware => addFirmwareAvp
  | .hostname name => addHostnameAvp name
  | .vendor => addVendorAvp
  | .tunnelid tid => addTunnelidAvp tid
  | .rws size => addAvpRws size
  | .challenge bytes => addChallengeAvp bytes
  | .chalresp response => addChalrespAvp response
  | .callid id => addCallidAvp id
  | .serno number => addSernoAvp number
  | .bearer type => addBearerAvp type
  | .frame type => addFrameAvp type
  | .txspeed speed => addTxspeedAvp speed
  | .randvect vector => addRandvectAvp vector
  | .rxspeed speed => addRxspeedAvp speed

def wireOf (items : List Item) : List UInt8 := items.flatMap Item.wire

def Item.mandatory : Item → Bool
  | .firmware | .vendor | .rxspeed _ => false
  | _ => true

def Item.attr : Item → Nat
  | .messageType _ => 0
  | .resultCode _ _ _ => 1
  | .protocol => 2
  | .frameCaps _ => 3
  | .bearerCaps _ => 4
  | .firmware => 6
  | .hostname _ => 7
  | .vendor => 8
  | .tunnelid _ => 9
  | .rws _ => 10
  | .challenge _ => 11
  | .chalresp _ => 13
  | .callid _ => 14
  | .serno _ => 15
  | .bearer _ => 18
  | .frame _ => 19
  | .txspeed _ => 24
  | .randvect _ => 36
  | .rxspeed _ => 38

def shortBytes (value : Int) : List UInt8 := wordBytes (BitVec.ofInt 16 value)

def Item.value : Item → List UInt8
  | .messageType type => shortBytes type.code
  | .resultCode result error msg => shortBytes result ++ shortBytes error ++ msg
  | .protocol => shortBytes 0x100
  | .frameCaps caps => [0, 0] ++ shortBytes caps
  | .bearerCaps caps => [0, 0] ++ shortBytes caps
  | .firmware => shortBytes 0x0690
  | .hostname name => name.take (1023 - 6)
  | .vendor => text "xelerance.com"
  | .tunnelid tid => shortBytes tid
  | .rws size => shortBytes size
  | .challenge bytes => bytes
  | .chalresp response => response.toList
  | .callid id => shortBytes id
  | .serno number => longBytes (BitVec.ofInt 32 number).toNat
  | .bearer type => longBytes (BitVec.ofInt 32 type).toNat
  | .frame type => longBytes (BitVec.ofInt 32 type).toNat
  | .txspeed speed => longBytes (BitVec.ofInt 32 speed).toNat
  | .randvect vector => vector
  | .rxspeed speed => longBytes (BitVec.ofInt 32 speed).toNat

theorem Item.wire_eq (item : Item) : item.wire = avp item.mandatory item.attr item.value := by
  cases item <;> rfl

def Item.length (item : Item) : Nat := avpHdrSize + item.value.length

def Item.Short (item : Item) : Prop := item.length ≤ 0x3FF

theorem avpWord_bits (mandatory : Bool) (length : Nat) (short : length ≤ 0x3FF) :
    BitVec.ofNat 16 (length + if mandatory then 0x8000 else 0) = avpWord mandatory length ∧
      ALENGTH (avpWord mandatory length) = length ∧
      AMBIT (avpWord mandatory length) = mandatory ∧ AHBIT (avpWord mandatory length) = false ∧
        AZBITS (avpWord mandatory length) = false := by
  have all : ∀ n : Fin 1024, ∀ m : Bool, BitVec.ofNat 16 (n.val + if m then 0x8000 else 0) = avpWord m n.val ∧
      ALENGTH (avpWord m n.val) = n.val ∧ AMBIT (avpWord m n.val) = m ∧ AHBIT (avpWord m n.val) = false ∧
      AZBITS (avpWord m n.val) = false := by decide +kernel
  exact all ⟨length, Nat.lt_succ_of_le short⟩ mandatory

theorem Item.attr_known (item : Item) : item.attr ≤ avpMax := by
  cases item <;> simp [Item.attr, avpMax]

theorem Item.attr_small (item : Item) : (BitVec.ofNat 16 item.attr).toNat = item.attr := by
  cases item <;> rfl

def Item.head (item : Item) : U16 := avpWord item.mandatory item.length

theorem Item.wire_words (item : Item) (short : item.Short) :
    item.wire = wordBytes item.head ++ (wordBytes 0#16 ++ (wordBytes (BitVec.ofNat 16 item.attr) ++ item.value)) := by
  have word := (avpWord_bits item.mandatory item.length short).1
  rw [item.wire_eq, avp]
  show wordBytes (BitVec.ofNat 16 (item.length + _)) ++ _ ++ _ ++ _ = _
  rw [word, List.append_assoc, List.append_assoc]
  rfl

theorem Item.wire_length (item : Item) : item.wire.length = item.length := by
  rw [item.wire_eq]
  simp [avp, Item.length, avpHdrSize, wordBytes]
  omega

def Item.swapped (item : Item) : List UInt8 :=
  hostBytes item.head ++ (hostBytes 0#16 ++ (hostBytes (BitVec.ofNat 16 item.attr) ++ item.value))

theorem Item.swapped_length (item : Item) : item.swapped.length = item.length := by
  simp [Item.swapped, Item.length, avpHdrSize, hostBytes]
  omega

def Item.laid (item : Item) (front tail : List UInt8) : AvpData :=
    ⟨front ++ (item.swapped ++ tail), front.length, item.length⟩

section Laid

variable (item : Item) (front tail : List UInt8)

theorem swaps_wire (short : item.Short) : swaps (front ++ (item.wire ++ tail)) front.length 3 = front ++
    (item.swapped ++ tail) := by
  have swapped := swaps_header front item.head 0#16 (BitVec.ofNat 16 item.attr) (item.value ++ tail)
  rw [item.wire_words short, Item.swapped]
  simp only [List.append_assoc]
  exact swapped

theorem laid_word : hostWord (front ++ (item.swapped ++ tail)) front.length = item.head := by
  have word := hostWord_append front (item.swapped ++ tail) 0
  exact word.trans (joined item.head)

theorem laid_attr : hostWord (front ++ (item.swapped ++ tail)) (front.length + 4) = BitVec.ofNat 16 item.attr :=
  (hostWord_append front (item.swapped ++ tail) 4).trans (joined _)

theorem laid_bytes (offset count : Nat) :
    bytesAt (item.laid front tail).mem ((item.laid front tail).data + avpHdrSize + offset) count = bytesAt
      (item.value ++ tail) offset count := by
  have behind : item.swapped ++ tail = (hostBytes item.head ++
    (hostBytes 0#16 ++ hostBytes (BitVec.ofNat 16 item.attr))) ++ (item.value ++ tail) := by
    simp only [Item.swapped, List.append_assoc]
  have skipped := bytesAt_append (hostBytes item.head ++ (hostBytes 0#16 ++ hostBytes (BitVec.ofNat 16 item.attr)))
    (item.value ++ tail) offset count
  show bytesAt (front ++ (item.swapped ++ tail)) (front.length + avpHdrSize + offset) count = _
  rw [Nat.add_assoc, bytesAt_append, behind]
  exact skipped

theorem laid_raw (i : Nat) : (item.laid front tail).raw (3 + i) = netWord (item.value ++ tail) (2 * i) := by
  have behind : item.swapped ++ tail = (hostBytes item.head ++
    (hostBytes 0#16 ++ hostBytes (BitVec.ofNat 16 item.attr))) ++ (item.value ++ tail) := by
    simp only [Item.swapped, List.append_assoc]
  have skipped := netWord_append (hostBytes item.head ++ (hostBytes 0#16 ++ hostBytes (BitVec.ofNat 16 item.attr)))
    (item.value ++ tail) (2 * i)
  have place : (item.laid front tail).data + 2 * (3 + i) = front.length + (6 + 2 * i) := by
    show front.length + _ = _
    omega
  show netWord (front ++ (item.swapped ++ tail)) _ = _
  rw [place, netWord_append, behind]
  exact skipped

theorem laid_size (short : item.Short) : (item.laid front tail).size = item.value.length := by
  have length : ALENGTH item.head = item.length := (avpWord_bits item.mandatory item.length short).2.1
  show ALENGTH (hostWord (front ++ (item.swapped ++ tail)) front.length) - avpHdrSize = _
  rw [laid_word, length, Item.length]
  omega

theorem laid_value (short : item.Short) : (item.laid front tail).value = item.value := by
  unfold AvpData.value
  rw [laid_size item front tail short]
  exact (laid_bytes item front tail 0 _).trans (bytesAt_here _ _)

theorem cstring_clean (bytes : List UInt8) (clean : 0 ∉ bytes) : cstring bytes = bytes :=
  List.takeWhile_eq_self_iff.mpr fun byte member => by
    have nonzero : byte ≠ 0 := fun zero => clean (zero ▸ member)
    simpa using nonzero

theorem safeCopy_clean (bytes : List UInt8) (size : Nat) (clean : 0 ∉ bytes) (whole : bytes.length ≤ size) :
    safeCopy bytes size = bytes.take (maxStrLen - 1) := by
  have cut : bytes.take (min size (maxStrLen - 1)) = bytes.take (maxStrLen - 1) := by
    rw [← List.take_take, List.take_of_length_le]
    rw [List.length_take]
    omega
  rw [safeCopy, cut]
  exact cstring_clean _ fun member => clean (List.mem_of_mem_take member)

theorem laid_string (short : item.Short) (clean : 0 ∉ item.value) : (item.laid front tail).string = item.value.take
    (maxStrLen - 1) := by
  have bytes := laid_bytes item front tail 0 (min item.value.length (maxStrLen - 1))
  have cut : bytesAt (item.value ++ tail) 0 (min item.value.length (maxStrLen - 1)) = item.value.take
    (maxStrLen - 1) := by
    rw [bytesAt, List.drop_zero, List.take_append_of_le_length (Nat.min_le_left _ _)]
    rcases Nat.le_total item.value.length (maxStrLen - 1) with less | more
    · rw [Nat.min_eq_left less, List.take_length, List.take_of_length_le less]
    · rw [Nat.min_eq_right more]
  rw [Nat.add_zero, cut] at bytes
  unfold AvpData.string
  rw [laid_size item front tail short, bytes, safeCopy_clean _ _ (fun member => clean (List.mem_of_mem_take member))
    (by simp),
    List.take_take, Nat.min_self]

end Laid

-- The handlers take these AVPs one after the other, wherever they lie.
inductive Hears (env : Env) (t : TunnelPtr) (c : CallPtr) : List Item → Daemon → Daemon → Prop where
  | nil (d : Daemon) : Hears env t c [] d d
  | cons (item : Item) (rest : List Item) (d d₁ d₂ : Daemon) (handler : Handler)
    (known : (avps item.attr).1 = some handler)
      (taken : ∀ front tail, handler env t c (item.laid front tail) d = some (0, d₁))
        (later : Hears env t c rest d₁ d₂) :
      Hears env t c (item :: rest) d d₂

section Loop

variable (env : Env) (t : TunnelPtr) (c : CallPtr)

theorem handleAvp_item (item : Item) (short : item.Short) (front tail : List UInt8) (d : Daemon) (len : Int)
    (inside : (item.length : Int) ≤ len)
    (first : Bool) (place : first = true → item.attr = 0) :
    handleAvp env t c (front ++ (item.swapped ++ tail)) front.length len first d =
      runHandler env t c (front ++ (item.swapped ++ tail)) front.length d := by
  obtain ⟨_, length, _, plain, reserved⟩ := avpWord_bits item.mandatory item.length short
  have word := laid_word item front tail
  have attr := laid_attr item front tail
  have placed : ¬ (item.attr ≠ 0 ∧ first = true) := fun both => both.1 (place both.2)
  have whole : ¬ item.length < avpHdrSize := by
    unfold Item.length
    omega
  unfold handleAvp
  rw [word, attr, item.attr_small]
  unfold Item.head
  rw [length, if_neg (Nat.not_lt.mpr item.attr_known), if_neg (Int.not_lt.mpr inside), if_neg placed, if_neg whole,
    reserved,
    if_neg Bool.false_ne_true, plain, if_neg Bool.false_ne_true]

theorem runHandler_item (item : Item) (short : item.Short) (front tail : List UInt8) (d d₁ : Daemon) (handler : Handler)
    (known : (avps item.attr).1 = some handler) (taken : handler env t c (item.laid front tail) d = some (0, d₁)) :
    runHandler env t c (front ++ (item.swapped ++ tail)) front.length d = some
      (some (front ++ (item.swapped ++ tail)), d₁) := by
  have length : ALENGTH item.head = item.length := (avpWord_bits item.mandatory item.length short).2.1
  unfold runHandler
  rw [laid_word, laid_attr, item.attr_small, known, length]
  show ((handler env t c (item.laid front tail)) >>= _) d = _
  rw [bind_ran _ _ d d₁ 0 taken]
  rfl

theorem avpLoop_item (item : Item) (short : item.Short) (front tail : List UInt8) (d d₁ : Daemon) (handler : Handler)
    (known : (avps item.attr).1 = some handler) (taken : handler env t c (item.laid front tail) d = some (0, d₁))
    (fuel : Nat) (len : Int) (inside : (item.length : Int) ≤ len) (first : Bool)
    (place : first = true → item.attr = 0) :
    avpLoop env t c (fuel + 1) (front ++ (item.wire ++ tail)) front.length len first d =
      avpLoop env t c fuel ((front ++ item.swapped) ++ tail) (front ++ item.swapped).length
        (len - item.length) false d₁ := by
  have length : ALENGTH item.head = item.length := (avpWord_bits item.mandatory item.length short).2.1
  have whole : avpHdrSize ≤ item.length := Nat.le_add_right _ _
  have more : ¬ len ≤ 0 := by
    unfold avpHdrSize at whole
    omega
  have nonzero : ¬ item.length = 0 := by
    unfold avpHdrSize at whole
    omega
  have handled := (handleAvp_item env t c item short front tail d len inside first place).trans
    (runHandler_item env t c item short front tail d d₁ handler known taken)
  rw [avpLoop, if_neg more, swaps_wire item front tail short, laid_word, length, List.append_assoc, List.length_append,
    item.swapped_length]
  exact (bind_ran _ _ d d₁ _ handled).trans (congrFun (if_neg nonzero) d₁)

theorem avpLoop_hears (items : List Item) (d d' : Daemon) (heard : Hears env t c items d d')
    (short : ∀ item ∈ items, item.Short)
    (front tail : List UInt8) (fuel : Nat) (enough : (wireOf items).length ≤ fuel) (first : Bool)
    (place : first = true → ∀ item ∈ items.head?, item.attr = 0) :
    avpLoop env t c fuel (front ++ (wireOf items ++ tail)) front.length (wireOf items).length first d = some
      (0, d') := by
  induction heard generalizing front fuel first with
  | nil d => cases fuel <;> rfl
  | cons item rest d d₁ d₂ handler known taken later ih =>
      have size : (wireOf (item :: rest)).length = item.length + (wireOf rest).length := by
        rw [wireOf, List.flatMap_cons, List.length_append, item.wire_length]
        rfl
      have whole : avpHdrSize ≤ item.length := Nat.le_add_right _ _
      unfold avpHdrSize at whole
      obtain ⟨less, rfl⟩ : ∃ less, fuel = less + 1 := ⟨fuel - 1, by omega⟩
      have here : wireOf (item :: rest) ++ tail = item.wire ++ (wireOf rest ++ tail) := by
        rw [wireOf, List.flatMap_cons, List.append_assoc]
        rfl
      have behind : ((wireOf (item :: rest)).length : Int) - item.length = (wireOf rest).length := by omega
      rw [here, avpLoop_item env t c item (short item List.mem_cons_self) front _ d d₁ handler known (taken _ _) less _
        (by omega) first
        (fun leads => place leads item rfl), behind]
      exact ih (fun other member => short other (List.mem_cons_of_mem _ member)) _ less (by omega) false nofun

end Loop

-- The messages of ours that an AVP is part of, all of them ones the handler of
-- the AVP expects.
def Item.messages : Item → List Msg
  | .messageType _ => []
  | .protocol | .randvect _ => Msg.all
  | .resultCode _ _ _ => [.StopCCN, .CDN]
  | .frameCaps _ | .bearerCaps _ | .firmware | .hostname _ | .vendor | .rws _ | .challenge _ => [.SCCRQ, .SCCRP]
  | .tunnelid _ => [.SCCRQ, .SCCRP, .StopCCN]
  | .chalresp _ => [.SCCRP, .SCCCN]
  | .callid _ => [.ICRQ, .ICRP, .CDN]
  | .serno _ | .bearer _ => [.ICRQ]
  | .frame _ | .txspeed _ | .rxspeed _ => [.ICCN]

-- What the receiver of a message keeps of an AVP, in its tunnel and in the call
-- that the message is about.
def Item.intoTunnel (m : Msg) (tun : Tunnel) : Item → Tunnel
  | .frameCaps caps => { tun with fc := caps }
  | .bearerCaps caps => { tun with bc := caps }
  | .firmware => { tun with firmware := 0x0690 }
  | .hostname name => { tun with hostname := name.take (maxStrLen - 1) }
  | .vendor => { tun with vendor := text "xelerance.com" }
  | .tunnelid tid => if m = .StopCCN then { tun with qtid := tid } else { tun with tid := tid }
  | .rws size => { tun with rws := size }
  | .challenge bytes => { tun with chalUs := { tun.chalUs with challenge := bytes, challenged := true } }
  | .chalresp response => { tun with chalThem := { tun.chalThem with reply := response } }
  | .randvect vector => { tun with chalUs := { tun.chalUs with vector := some vector } }
  | _ => tun

def Item.intoCall (m : Msg) (cal : Call) : Item → Call
  | .resultCode result error msg => { cal with result := result, error := error, errormsg := msg.take (maxStrLen - 1) }
  | .callid id => if m = .CDN then { cal with qcid := id } else { cal with cid := id }
  | .serno number => { cal with serno := number }
  | .bearer type => { cal with bearer := type }
  | .frame type => { cal with frame := type }
  | .txspeed speed => { cal with txspeed := speed.toNat }
  | .rxspeed speed => { cal with rxspeed := speed.toNat }
  | _ => cal

-- A value that its AVP has room for, and that the receiver does not take for
-- something else: a result outside the message's range is ignored, and a code
-- whose low byte is zero is read in the other byte order.
def Item.Carried (m : Msg) : Item → Prop
  | .resultCode result error msg =>
      1 ≤ result ∧ result ≤ (if m = .StopCCN then 7 else 11) ∧ 0 ≤ error ∧ error < 2 ^ 16 ∧
        (error = 0 ∨ error % 256 ≠ 0) ∧
        0 ∉ msg ∧ msg.length ≤ 0x3FF - avpHdrSize - 4
  | .frameCaps caps | .bearerCaps caps => 0 ≤ caps ∧ caps < 4
  | .hostname name => 0 ∉ name
  | .rws size => 0 ≤ size ∧ size < 2 ^ 16
  | .tunnelid id | .callid id => id < 2 ^ 16
  | .serno number => number < 2 ^ 32
  | .bearer type | .frame type => 0 ≤ type ∧ type < 2 ^ 16
  | .txspeed speed | .rxspeed speed => 0 ≤ speed ∧ speed < 2 ^ 32
  | .challenge bytes | .randvect bytes => bytes.length ≤ 0x3FF - avpHdrSize
  | _ => True

-- The state an AVP of the message finds: p is the call it is about.
structure Ready (m : Msg) (d : Daemon) (t : TunnelPtr) (c p : CallPtr) : Prop where
  tunnel : (d.tunnel t).live = true
  call : (d.call c).live = true
  typed : (d.call c).msgtype = m.code
  target : (d.call p).live = true
  head : m = .ICRQ → (d.tunnel t).calls.head? = some p
  own : m ≠ .ICRQ → c = p

def Daemon.noting (d : Daemon) (t : TunnelPtr) (p : CallPtr) (tun : Tunnel) (cal : Call) : Daemon :=
  { d with tunnel := write d.tunnel t tun, call := write d.call p cal }

section Stores

variable (env : Env) (m : Msg) (d : Daemon) (t : TunnelPtr) (c p : CallPtr) (ready : Ready m d t c p)

include ready

theorem setTunnel_notes (change : Tunnel → Tunnel) :
    setTunnel t change d = some (⟨⟩, d.noting t p (change (d.tunnel t)) (d.call p)) := by
  rw [setTunnel_live t change d ready.tunnel, Daemon.noting, write_self]

theorem setCall_notes (own : c = p) (change : Call → Call) :
    setCall c change d = some (⟨⟩, d.noting t p (d.tunnel t) (change (d.call p))) := by
  subst own
  rw [setCall_live c change d ready.call, Daemon.noting, write_self]

theorem setCallHead_notes (icrq : m = .ICRQ) (change : Call → Call) :
    setCallHead t change d = some (⟨⟩, d.noting t p (d.tunnel t) (change (d.call p))) := by
  unfold setCallHead
  rw [bind_read _ _ d _ (readTunnel_live t d ready.tunnel), ready.head icrq]
  show setCall p change d = _
  rw [setCall_live p change d ready.target, Daemon.noting, write_self]

omit ready in
theorem isOneOf_code (allowed : List Msg) (member : m ∈ allowed) : isOneOf m.code allowed = true :=
  List.any_eq_true.mpr ⟨m, member, beq_self_eq_true _⟩

theorem expectsThen_takes (allowed : List Msg) (field : String) (expected : Nat) (atLeast : Bool) (body : Handler)
    (a : AvpData)
    (member : m ∈ allowed) (long : lengthFits a expected atLeast = true) :
    expectsThen allowed field expected atLeast body env t c a d = body env t c a d := by
  have fits : if atLeast then expected ≤ a.datalen else a.datalen = expected := by
    unfold lengthFits at long
    cases atLeast <;> simpa using long
  unfold expectsThen
  rw [bind_read _ _ d _ (readTunnel_live t d ready.tunnel), bind_read _ _ d _ (readCall_live c d ready.call),
    ready.typed,
    isOneOf_code m allowed member, if_neg (by simp), if_neg (fun both => both.2 fits)]

theorem expects_takes (allowed : List Msg) (field : String) (expected : Nat) (atLeast : Bool)
    (store : TunnelPtr → CallPtr → AvpData → Act PUnit) (a : AvpData) (d' : Daemon) (member : m ∈ allowed)
    (long : lengthFits a expected atLeast = true) (stores : store t c a d = some (⟨⟩, d')) :
    expects allowed field expected atLeast store env t c a d = some (0, d') := by
  unfold expects
  rw [expectsThen_takes env m d t c p ready allowed field expected atLeast _ a member long]
  exact bind_ran (store t c a) _ d d' ⟨⟩ stores

end Stores

section Values

variable (rest : List UInt8)

theorem short_toNat (value : Int) (nonneg : 0 ≤ value) (small : value < 2 ^ 16) :
    ((BitVec.ofInt 16 value).toNat : Int) = value := by
  rw [BitVec.toNat_ofInt]
  omega

theorem netWord_short (value : Int) : netWord (shortBytes value ++ rest) 0 = BitVec.ofInt 16 value :=
    netWord_wordBytes _ rest

theorem netWord_second (first : Int) (value : Int) : netWord
    (shortBytes first ++ (shortBytes value ++ rest)) 2 = BitVec.ofInt 16 value :=
  (netWord_append (shortBytes first) (shortBytes value ++ rest) 0).trans (netWord_short rest value)

theorem caps_value (caps : Int) (nonneg : 0 ≤ caps) (small : caps < 4) :
    ((BitVec.ofInt 16 caps &&& 3).toNat : Int) = caps := by
  obtain rfl | rfl | rfl | rfl : caps = 0 ∨ caps = 1 ∨ caps = 2 ∨ caps = 3 := by omega
  all_goals rfl

theorem long_words (number : Int) (nonneg : 0 ≤ number) (small : number < 2 ^ 32) :
    let bytes := longBytes (BitVec.ofInt 32 number).toNat ++ rest
    ((netWord bytes 0).toNat * 65536 + (netWord bytes 2).toNat : Int) = number := by
  have value : ((BitVec.ofInt 32 number).toNat : Int) = number := by
    rw [BitVec.toNat_ofInt]
    omega
  generalize (BitVec.ofInt 32 number).toNat = n at value
  have first : netWord (longBytes n ++ rest) 0 = BitVec.ofNat 16 (n / 65536) := by
    rw [longBytes, List.append_assoc]
    exact netWord_wordBytes _ _
  have second : netWord (longBytes n ++ rest) 2 = BitVec.ofNat 16 n := by
    rw [longBytes, List.append_assoc]
    exact (netWord_append (wordBytes _) _ 0).trans (netWord_wordBytes _ _)
  show ((netWord (longBytes n ++ rest) 0).toNat * 65536 + (netWord (longBytes n ++ rest) 2).toNat : Int) = number
  rw [first, second, BitVec.toNat_ofNat, BitVec.toNat_ofNat]
  omega

end Values

-- The words of a value, as its handler reads them.
section Words

variable (item : Item) (front tail : List UInt8) (value : Int) (nonneg : 0 ≤ value)

include nonneg

theorem laid_short (short : item.value = shortBytes value) (small : value < 2 ^ 16) :
    (((item.laid front tail).raw 3).toNat : Int) = value := by
  have raw : (item.laid front tail).raw 3 = BitVec.ofInt 16 value := by
    rw [laid_raw item front tail 0, short]
    exact netWord_short tail value
  rw [raw, short_toNat value nonneg small]

theorem laid_long (long : item.value = longBytes (BitVec.ofInt 32 value).toNat) (small : value < 2 ^ 32) :
    ((item.laid front tail).long : Int) = value := by
  have words := long_words tail value nonneg small
  unfold AvpData.long
  rw [laid_raw item front tail 0, laid_raw item front tail 1, long]
  push_cast
  exact words

theorem laid_second (long : item.value = longBytes (BitVec.ofInt 32 value).toNat) (small : value < 2 ^ 16) :
    (((item.laid front tail).raw 4).toNat : Int) = value := by
  have whole := laid_long item front tail value nonneg long (by omega)
  have low := ((item.laid front tail).raw 4).isLt
  have high := ((item.laid front tail).raw 3).isLt
  unfold AvpData.long at whole
  omega

end Words

theorem carried_short (m : Msg) (item : Item) (carried : item.Carried m) : item.Short := by
  unfold Item.Short Item.length avpHdrSize
  cases item with
  | resultCode result error msg =>
      have bound := carried.2.2.2.2.2.2
      unfold avpHdrSize at bound
      simp only [Item.value, shortBytes, wordBytes, List.length_append, List.length_cons, List.length_nil]
      omega
  | hostname name =>
      simp only [Item.value, List.length_take]
      omega
  | challenge bytes =>
      have bound : bytes.length ≤ 0x3FF - 6 := carried
      simp only [Item.value]
      omega
  | randvect bytes =>
      have bound : bytes.length ≤ 0x3FF - 6 := carried
      simp only [Item.value]
      omega
  | chalresp response => simp [Item.value]
  | vendor => decide
  | _ => simp [Item.value, shortBytes, longBytes, wordBytes]

section Families

variable (env : Env) (m : Msg) (d : Daemon) (t : TunnelPtr) (c p : CallPtr) (ready : Ready m d t c p)
    (allowed : List Msg) (field : String)
  (expected : Nat) (atLeast : Bool) (a : AvpData) (member : m ∈ allowed)
  (long : lengthFits a expected atLeast = true)

include ready member long

theorem takes_tunnel (change : AvpData → Tunnel → Tunnel) (new : Tunnel) (same : change a (d.tunnel t) = new) :
    expects allowed field expected atLeast (fun t _ a => setTunnel t (change a)) env t c a d = some
      (0, d.noting t p new (d.call p)) :=
  expects_takes env m d t c p ready allowed field expected atLeast _ a _ member long
    (same ▸ setTunnel_notes m d t c p ready (change a))

theorem takes_call (own : c = p) (change : AvpData → Call → Call) (new : Call) (same : change a (d.call p) = new) :
    expects allowed field expected atLeast (fun _ c a => setCall c (change a)) env t c a d = some
      (0, d.noting t p (d.tunnel t) new) :=
  expects_takes env m d t c p ready allowed field expected atLeast _ a _ member long
    (same ▸ setCall_notes m d t c p ready own (change a))

theorem takes_head (icrq : m = .ICRQ) (change : AvpData → Call → Call) (new : Call) (same : change a (d.call p) = new) :
    expects allowed field expected atLeast (fun t _ a => setCallHead t (change a)) env t c a d = some
      (0, d.noting t p (d.tunnel t) new) :=
  expects_takes env m d t c p ready allowed field expected atLeast _ a _ member long
    (same ▸ setCallHead_notes m d t c p ready icrq (change a))

end Families

def Item.Taken (env : Env) (m : Msg) (d : Daemon) (t : TunnelPtr) (c p : CallPtr) (item : Item) : Prop :=
  ∃ handler, (avps item.attr).1 = some handler ∧ ∀ front tail,
    handler env t c (item.laid front tail) d = some
      (0, d.noting t p (item.intoTunnel m (d.tunnel t)) (item.intoCall m (d.call p)))

section Taken

variable (env : Env) (m : Msg) (d : Daemon) (t : TunnelPtr) (c p : CallPtr) (ready : Ready m d t c p)

include ready

theorem frameCaps_taken (caps : Int) (member : m ∈ (Item.frameCaps caps).messages)
    (carried : (Item.frameCaps caps).Carried m) :
    (Item.frameCaps caps).Taken env m d t c p := by
  refine ⟨framingCapsAvp, rfl, fun front tail => takes_tunnel env m d t c p ready _ _ 10 false _ ?_ rfl _ _ ?_⟩
  · simpa [Item.messages, or_comm] using member
  · have raw : ((Item.frameCaps caps).laid front tail).raw 4 = BitVec.ofInt 16 caps :=
      (laid_raw _ front tail 1).trans (netWord_second tail 0 caps)
    rw [raw, caps_value caps carried.1 carried.2]
    rfl

theorem bearerCaps_taken (caps : Int) (member : m ∈ (Item.bearerCaps caps).messages)
    (carried : (Item.bearerCaps caps).Carried m) :
    (Item.bearerCaps caps).Taken env m d t c p := by
  refine ⟨bearerCapsAvp, rfl, fun front tail => takes_tunnel env m d t c p ready _ _ 10 false _ ?_ rfl _ _ ?_⟩
  · simpa [Item.messages, or_comm] using member
  · have raw : ((Item.bearerCaps caps).laid front tail).raw 4 = BitVec.ofInt 16 caps :=
      (laid_raw _ front tail 1).trans (netWord_second tail 0 caps)
    rw [raw, caps_value caps carried.1 carried.2]
    rfl

theorem firmware_taken (member : m ∈ Item.firmware.messages) : Item.firmware.Taken env m d t c p := by
  refine ⟨firmwareRevAvp, rfl, fun front tail => takes_tunnel env m d t c p ready _ _ 8 false _ ?_ rfl _ _ ?_⟩
  · simpa [Item.messages, or_comm] using member
  · rw [laid_short .firmware front tail 0x0690 (by decide) rfl (by decide)]
    rfl

theorem hostname_taken (name : CString) (member : m ∈ (Item.hostname name).messages)
    (carried : (Item.hostname name).Carried m) :
    (Item.hostname name).Taken env m d t c p := by
  have short := carried_short m _ carried
  have clean : 0 ∉ (Item.hostname name).value := fun inside => carried (List.mem_of_mem_take inside)
  refine ⟨hostnameAvp, rfl, fun front tail => takes_tunnel env m d t c p ready _ _ 6 true _ ?_ ?_ _ _ ?_⟩
  · simpa [Item.messages, or_comm] using member
  · exact decide_eq_true (Nat.le_add_right _ _)
  · rw [laid_string _ front tail short clean]
    show { d.tunnel t with hostname := (name.take (1023 - 6)).take (maxStrLen - 1) } = _
    rw [List.take_take]
    rfl

theorem vendor_taken (member : m ∈ Item.vendor.messages) : Item.vendor.Taken env m d t c p := by
  refine ⟨vendorAvp, rfl, fun front tail => takes_tunnel env m d t c p ready _ _ 6 true _ ?_ rfl _ _ ?_⟩
  · simpa [Item.messages, or_comm] using member
  · rw [laid_string .vendor front tail (by unfold Item.Short; decide) (by decide)]
    rfl

theorem rws_taken (size : Int) (member : m ∈ (Item.rws size).messages) (carried : (Item.rws size).Carried m) :
    (Item.rws size).Taken env m d t c p := by
  refine ⟨receiveWindowSizeAvp, rfl, fun front tail => takes_tunnel env m d t c p ready _ _ 8 false _ ?_ rfl _ _ ?_⟩
  · have two : m = .SCCRQ ∨ m = .SCCRP := by simpa [Item.messages] using member
    rcases two with rfl | rfl <;> simp
  · rw [laid_short (.rws size) front tail size carried.1 rfl carried.2]
    rfl

theorem protocol_taken : Item.protocol.Taken env m d t c p := by
  refine ⟨protocolVersionAvp, rfl, fun front tail => ?_⟩
  unfold protocolVersionAvp
  rw [bind_read _ _ d _ (readTunnel_live t d ready.tunnel), if_neg (fun both => both.2 rfl)]
  show some (0, d) = some (0, d.noting t p (d.tunnel t) (d.call p))
  rw [Daemon.noting, write_self, write_self]

theorem tunnelid_taken (tid : Nat) (member : m ∈ (Item.tunnelid tid).messages)
    (carried : (Item.tunnelid tid).Carried m) :
    (Item.tunnelid tid).Taken env m d t c p := by
  refine ⟨assignedTunnelAvp, rfl, fun front tail => expects_takes env m d t c p ready _ _ 8 false _ _ _ ?_ rfl ?_⟩
  · have three : m = .SCCRQ ∨ m = .SCCRP ∨ m = .StopCCN := by simpa [Item.messages] using member
    rcases three with rfl | rfl | rfl <;> simp
  · have value := laid_short (.tunnelid tid) front tail tid (Int.natCast_nonneg tid) rfl (by exact_mod_cast carried)
    rw [bind_read _ _ d _ (readCall_live c d ready.call), setTunnel_notes m d t c p ready, value, ready.typed]
    have stop : ((m.code : Int) = (Msg.StopCCN.code : Int)) ↔ m = .StopCCN := by
      cases m <;> simp [Msg.code]
    simp only [stop]
    rfl

theorem challenge_taken (bytes : List UInt8) (memory : env.challengeMemory = true)
    (member : m ∈ (Item.challenge bytes).messages)
    (carried : (Item.challenge bytes).Carried m) : (Item.challenge bytes).Taken env m d t c p := by
  refine ⟨challengeAvp, rfl, fun front tail => ?_⟩
  have value := laid_value (.challenge bytes) front tail (carried_short m _ carried)
  unfold challengeAvp
  rw [expectsThen_takes env m d t c p ready _ _ 6 true _ _ (by simpa [Item.messages, or_comm] using member)
    (decide_eq_true (Nat.le_add_right _ _)), if_neg (not_not_intro memory), value,
    bind_ran _ _ d _ _ (setTunnel_notes m d t c p ready _)]
  rfl

omit ready in
theorem ofBytes_toList (vector : Vector UInt8 16) : Vector.ofBytes vector.toList = vector := by
  apply Vector.ext
  intro i inside
  unfold Vector.ofBytes
  rw [Vector.getElem_ofFn, List.getD_eq_getElem?_getD, Vector.getElem?_toList, Vector.getElem?_eq_getElem inside]
  rfl

theorem chalresp_taken (response : Vector UInt8 16) (member : m ∈ (Item.chalresp response).messages) :
    (Item.chalresp response).Taken env m d t c p := by
  refine ⟨chalrespAvp, rfl, fun front tail => ?_⟩
  have short : (Item.chalresp response).Short := carried_short m _ trivial
  have size : ((Item.chalresp response).laid front tail).size = mdSigSize :=
    (laid_size _ front tail short).trans (Vector.length_toList ..)
  have value := laid_value (.chalresp response) front tail short
  unfold chalrespAvp
  rw [expectsThen_takes env m d t c p ready _ _ 6 true _ _ (by simpa [Item.messages, or_comm] using member)
    (decide_eq_true (Nat.le_add_right _ _)), if_neg (not_not_intro size), value,
    bind_ran _ _ d _ _ (setTunnel_notes m d t c p ready _)]
  show some (0, d.noting t p { d.tunnel t with
    chalThem := { (d.tunnel t).chalThem with reply := Vector.ofBytes response.toList } } (d.call p)) = _
  rw [ofBytes_toList]
  rfl

theorem randvect_taken (vector : List UInt8) (carried : (Item.randvect vector).Carried m) :
    (Item.randvect vector).Taken env m d t c p := by
  refine ⟨randVectorAvp, rfl, fun front tail => ?_⟩
  have short := carried_short m _ carried
  have value := laid_value (.randvect vector) front tail short
  have size := laid_size (.randvect vector) front tail short
  have bound : vector.length ≤ 0x3FF - 6 := carried
  have fits : ¬ ((Item.randvect vector).laid front tail).size > maxVectorSize := by
    rw [size]
    show ¬ vector.length > 1024
    omega
  unfold randVectorAvp
  rw [bind_read _ _ d _ (readTunnel_live t d ready.tunnel), if_neg (fun both => fits both.2), value,
    bind_ran _ _ d _ _ (setTunnel_notes m d t c p ready _)]
  rfl

theorem serno_taken (number : Nat) (member : m ∈ (Item.serno number).messages)
    (carried : (Item.serno number).Carried m) :
    (Item.serno number).Taken env m d t c p := by
  obtain rfl : m = .ICRQ := by simpa [Item.messages] using member
  refine ⟨callSernoAvp, rfl, fun front tail => takes_head env .ICRQ d t c p ready _ _ 0 true _ (by simp) rfl rfl _ _ ?_⟩
  have value := laid_long (.serno number) front tail number (Int.natCast_nonneg number) rfl (by exact_mod_cast carried)
  rw [Int.natCast_inj.mp value]
  rfl

theorem bearer_taken (type : Int) (member : m ∈ (Item.bearer type).messages) (carried : (Item.bearer type).Carried m) :
    (Item.bearer type).Taken env m d t c p := by
  obtain rfl : m = .ICRQ := by simpa [Item.messages] using member
  refine ⟨bearerTypeAvp, rfl, fun front tail => takes_head env .ICRQ d t c p ready _ _ 10 false _
    (by simp) rfl rfl _ _ ?_⟩
  rw [laid_second (.bearer type) front tail type carried.1 rfl carried.2]
  rfl

theorem frame_taken (type : Int) (member : m ∈ (Item.frame type).messages) (carried : (Item.frame type).Carried m) :
    (Item.frame type).Taken env m d t c p := by
  obtain rfl : m = .ICCN := by simpa [Item.messages] using member
  refine ⟨frameTypeAvp, rfl, fun front tail =>
    takes_call env .ICCN d t c p ready _ _ 10 false _ (by simp) rfl (ready.own (by simp)) _ _ ?_⟩
  rw [laid_second (.frame type) front tail type carried.1 rfl carried.2]
  rfl

theorem txspeed_taken (speed : Int) (member : m ∈ (Item.txspeed speed).messages)
    (carried : (Item.txspeed speed).Carried m) :
    (Item.txspeed speed).Taken env m d t c p := by
  obtain rfl : m = .ICCN := by simpa [Item.messages] using member
  refine ⟨txSpeedAvp, rfl, fun front tail =>
    takes_call env .ICCN d t c p ready _ _ 10 false _ (by simp) rfl (ready.own (by simp)) _ _ ?_⟩
  have value := laid_long (.txspeed speed) front tail speed carried.1 rfl carried.2
  have kept : ((Item.txspeed speed).laid front tail).long = speed.toNat := by omega
  rw [kept]
  rfl

theorem rxspeed_taken (speed : Int) (member : m ∈ (Item.rxspeed speed).messages)
    (carried : (Item.rxspeed speed).Carried m) :
    (Item.rxspeed speed).Taken env m d t c p := by
  obtain rfl : m = .ICCN := by simpa [Item.messages] using member
  refine ⟨rxSpeedAvp, rfl, fun front tail =>
    takes_call env .ICCN d t c p ready _ _ 10 false _ (by simp) rfl (ready.own (by simp)) _ _ ?_⟩
  have value := laid_long (.rxspeed speed) front tail speed carried.1 rfl carried.2
  have kept : ((Item.rxspeed speed).laid front tail).long = speed.toNat := by omega
  rw [kept]
  rfl

theorem callid_taken (id : Nat) (member : m ∈ (Item.callid id).messages) (carried : (Item.callid id).Carried m) :
    (Item.callid id).Taken env m d t c p := by
  refine ⟨assignedCallAvp, rfl, fun front tail => ?_⟩
  have value := laid_short (.callid id) front tail id (Int.natCast_nonneg id) rfl (by exact_mod_cast carried)
  have three : m = .ICRQ ∨ m = .ICRP ∨ m = .CDN := by simpa [Item.messages] using member
  refine expects_takes env m d t c p ready _ _ 8 false _ _ _ ?_ rfl ?_
  · rcases three with rfl | rfl | rfl <;> simp
  · rw [bind_read _ _ d _ (readCall_live c d ready.call), ready.typed, value]
    rcases three with rfl | rfl | rfl
    · exact setCallHead_notes .ICRQ d t c p ready rfl _
    · exact setCall_notes .ICRP d t c p ready (ready.own (by simp)) _
    · exact setCall_notes .CDN d t c p ready (ready.own (by simp)) _

omit ready in
theorem appleOrder_plain (code : Int) (nonneg : 0 ≤ code) (plain : code = 0 ∨ code % 256 ≠ 0) :
    (appleOrder code.toNat : Int) = code := by
  have same : ¬ (code.toNat % 256 = 0 ∧ code.toNat / 256 ≠ 0) := by omega
  rw [appleOrder, if_neg same]
  omega

theorem resultCode_taken (result error : Int) (msg : CString) (member : m ∈ (Item.resultCode result error msg).messages)
    (carried : (Item.resultCode result error msg).Carried m) :
    (Item.resultCode result error msg).Taken env m d t c p := by
  obtain ⟨positive, inRange, errorNonneg, errorSmall, errorPlain, clean, _⟩ := carried
  have upper : result ≤ 11 := by
    split at inRange <;> omega
  have two : m = .StopCCN ∨ m = .CDN := by simpa [Item.messages] using member
  have own : c = p := ready.own (by rcases two with rfl | rfl <;> simp)
  refine ⟨resultCodeAvp, rfl, fun front tail => ?_⟩
  have first : (((Item.resultCode result error msg).laid front tail).raw 3).toNat = result.toNat := by
    have raw : ((Item.resultCode result error msg).laid front tail).raw 3 = BitVec.ofInt 16 result := by
      rw [laid_raw _ front tail 0]
      exact netWord_short (shortBytes error ++ msg ++ tail) result
    have value := short_toNat result (by omega) (by omega)
    rw [raw]
    omega
  have second : (((Item.resultCode result error msg).laid front tail).raw 4).toNat = error.toNat := by
    have raw : ((Item.resultCode result error msg).laid front tail).raw 4 = BitVec.ofInt 16 error := by
      rw [laid_raw _ front tail 1]
      exact netWord_second (msg ++ tail) result error
    have value := short_toNat error errorNonneg errorSmall
    rw [raw]
    omega
  have size : ((Item.resultCode result error msg).laid front tail).datalen = 10 + msg.length := by
    show avpHdrSize + (shortBytes result ++ shortBytes error ++ msg).length = _
    simp [avpHdrSize, shortBytes, wordBytes]
    omega
  have resultKept := appleOrder_plain result (by omega) (.inr (by omega))
  have errorKept := appleOrder_plain error errorNonneg errorPlain
  have bytes : bytesAt ((Item.resultCode result error msg).laid front tail).mem
      (((Item.resultCode result error msg).laid front tail).data + 10) msg.length = msg := by
    refine (laid_bytes (.resultCode result error msg) front tail 4 msg.length).trans ?_
    have behind := bytesAt_append (shortBytes result ++ shortBytes error) (msg ++ tail) 0 msg.length
    rw [← List.append_assoc, bytesAt_here] at behind
    exact behind
  have expected : isOneOf (d.call c).msgtype [.CDN, .StopCCN] = true := by
    rw [ready.typed]
    exact isOneOf_code m _ (by rcases two with rfl | rfl <;> simp)
  have stops : ¬ ((d.call c).msgtype = Msg.StopCCN.code ∧
    (appleOrder result.toNat > 7 ∨ appleOrder result.toNat < 1)) := by
    rintro ⟨stop, out⟩
    rcases two with rfl | rfl
    · rw [if_pos rfl] at inRange
      omega
    · rw [ready.typed] at stop
      cases stop
  have ends : ¬ ((d.call c).msgtype = Msg.CDN.code ∧ (appleOrder result.toNat > 11 ∨ appleOrder result.toNat < 1)) :=
    fun both => by
    have out := both.2
    omega
  unfold resultCodeAvp
  rw [bind_read _ _ d _ (readTunnel_live t d ready.tunnel), bind_read _ _ d _ (readCall_live c d ready.call), first,
    second]
  rw [if_neg (by omega), if_neg (fun both => both.2 expected), if_neg stops, if_neg ends, if_pos (by omega), errorKept,
    resultKept, size]
  have said : (if 10 + msg.length > 10 then safeCopy (bytesAt ((Item.resultCode result error msg).laid front tail).mem
      (((Item.resultCode result error msg).laid front tail).data + 10) (10 + msg.length - 10))
        (10 + msg.length - 10) else []) =
      msg.take (maxStrLen - 1) := by
    rw [Nat.add_sub_cancel_left, bytes]
    by_cases given : 10 + msg.length > 10
    · rw [if_pos given, safeCopy_clean msg msg.length clean (Nat.le_refl _)]
    · rw [if_neg given, List.eq_nil_of_length_eq_zero (by omega : msg.length = 0)]
      rfl
  rw [said]
  exact bind_ran _ _ d _ _ (setCall_notes m d t c p ready own _)

theorem item_taken (item : Item) (memory : env.challengeMemory = true) (member : m ∈ item.messages)
    (carried : item.Carried m) :
    item.Taken env m d t c p := by
  cases item with
  | messageType type => cases member
  | resultCode result error msg => exact resultCode_taken env m d t c p ready result error msg member carried
  | protocol => exact protocol_taken env m d t c p ready
  | frameCaps caps => exact frameCaps_taken env m d t c p ready caps member carried
  | bearerCaps caps => exact bearerCaps_taken env m d t c p ready caps member carried
  | firmware => exact firmware_taken env m d t c p ready member
  | hostname name => exact hostname_taken env m d t c p ready name member carried
  | vendor => exact vendor_taken env m d t c p ready member
  | tunnelid tid => exact tunnelid_taken env m d t c p ready tid member carried
  | rws size => exact rws_taken env m d t c p ready size member carried
  | challenge bytes => exact challenge_taken env m d t c p ready bytes memory member carried
  | chalresp response => exact chalresp_taken env m d t c p ready response member
  | callid id => exact callid_taken env m d t c p ready id member carried
  | serno number => exact serno_taken env m d t c p ready number member carried
  | bearer type => exact bearer_taken env m d t c p ready type member carried
  | frame type => exact frame_taken env m d t c p ready type member carried
  | txspeed speed => exact txspeed_taken env m d t c p ready speed member carried
  | randvect vector => exact randvect_taken env m d t c p ready vector carried
  | rxspeed speed => exact rxspeed_taken env m d t c p ready speed member carried

end Taken

theorem intoTunnel_kept (m : Msg) (tun : Tunnel) (item : Item) :
    (item.intoTunnel m tun).live = tun.live ∧ (item.intoTunnel m tun).calls = tun.calls := by
  cases item with
  | tunnelid tid =>
      unfold Item.intoTunnel
      dsimp only
      split <;> exact ⟨rfl, rfl⟩
  | _ => exact ⟨rfl, rfl⟩

theorem intoCall_kept (m : Msg) (cal : Call) (item : Item) :
    (item.intoCall m cal).live = cal.live ∧ (item.intoCall m cal).msgtype = cal.msgtype := by
  cases item with
  | callid id =>
      unfold Item.intoCall
      dsimp only
      split <;> exact ⟨rfl, rfl⟩
  | _ => exact ⟨rfl, rfl⟩

theorem noting_noting (d : Daemon) (t : TunnelPtr) (p : CallPtr) (tun tun' : Tunnel) (cal cal' : Call) :
    (d.noting t p tun cal).noting t p tun' cal' = d.noting t p tun' cal' := by
  unfold Daemon.noting
  dsimp only
  rw [write_same_address, write_same_address]

theorem ready_noting (m : Msg) (d : Daemon) (t : TunnelPtr) (c p : CallPtr) (ready : Ready m d t c p) (item : Item) :
    Ready m (d.noting t p (item.intoTunnel m (d.tunnel t)) (item.intoCall m (d.call p))) t c p := by
  obtain ⟨alive, calls⟩ := intoTunnel_kept m (d.tunnel t) item
  obtain ⟨callAlive, type⟩ := intoCall_kept m (d.call p) item
  have tunnel : (d.noting t p (item.intoTunnel m (d.tunnel t)) (item.intoCall m (d.call p))).tunnel t = item.intoTunnel
    m (d.tunnel t) :=
    write_here _ _ _
  have call (q : CallPtr) : ((d.noting t p (item.intoTunnel m (d.tunnel t)) (item.intoCall m (d.call p))).call q).live =
    (d.call q).live :=
    write_same d.call Call.live p _ callAlive q
  have typed (q : CallPtr) :
      ((d.noting t p (item.intoTunnel m (d.tunnel t)) (item.intoCall m (d.call p))).call q).msgtype =
        (d.call q).msgtype :=
    write_same d.call Call.msgtype p _ type q
  refine ⟨?_, (call c).trans ready.call, (typed c).trans ready.typed, (call p).trans ready.target, fun icrq => ?_,
    ready.own⟩
  · rw [tunnel, alive]
    exact ready.tunnel
  · rw [tunnel, calls]
    exact ready.head icrq

theorem items_heard (env : Env) (m : Msg) (t : TunnelPtr) (c p : CallPtr) (memory : env.challengeMemory = true)
    (items : List Item)
    (members : ∀ item ∈ items, m ∈ item.messages) (carried : ∀ item ∈ items, item.Carried m) (d : Daemon)
    (ready : Ready m d t c p) :
    Hears env t c items d (d.noting t p (items.foldl (Item.intoTunnel m) (d.tunnel t))
      (items.foldl (Item.intoCall m) (d.call p))) := by
  induction items generalizing d with
  | nil =>
      rw [List.foldl_nil, List.foldl_nil, Daemon.noting, write_self, write_self]
      exact .nil d
  | cons item rest ih =>
      obtain ⟨handler, known, taken⟩ :=
        item_taken env m d t c p ready item memory (members item List.mem_cons_self) (carried item List.mem_cons_self)
      refine .cons item rest d _ _ handler known taken ?_
      have later := ih (fun other member => members other (List.mem_cons_of_mem _ member))
        (fun other member => carried other (List.mem_cons_of_mem _ member)) _ (ready_noting m d t c p ready item)
      rw [noting_noting] at later
      simp only [Daemon.noting, write_here] at later
      exact later

-- A message type that fits is noted; an ICRQ makes the call it is about.
def Daemon.typed (d : Daemon) (c : CallPtr) (m : Msg) : Daemon :=
  { d with call := write d.call c { d.call c with msgtype := m.code } }

def Daemon.opened (env : Env) (d : Daemon) (t : TunnelPtr) (c : CallPtr) (m : Msg) : Daemon :=
  if m = .ICRQ then withLinkedCall env (d.typed c m) t else d.typed c m

def subject (d : Daemon) (c : CallPtr) (m : Msg) : CallPtr := if m = .ICRQ then d.fresh else c

section Opening

variable (env : Env) (m : Msg) (d : Daemon) (t : TunnelPtr) (c : CallPtr) (entry : Entry d t c)

include entry

theorem messageType_taken (memory : env.callMemory = true)
    (fits : msgFits ((d.tunnel t).self == some c) (d.tunnel t).state (d.call c).state m = true)
    (front tail : List UInt8) : messageTypeAvp env t c ((Item.messageType m).laid front tail) d = some
    (0, d.opened env t c m) := by
  have code := laid_short (.messageType m) front tail m.code (Int.natCast_nonneg _) rfl (by cases m <;> decide)
  have here : (d.typed c m).call c = { d.call c with msgtype := m.code } := write_here _ _ _
  have live : ((d.typed c m).call c).live = true := by
    rw [here]
    exact entry.call
  have state : ((d.typed c m).call c).state = (d.call c).state := by rw [here]
  have eight : ((Item.messageType m).laid front tail).datalen = 8 := rfl
  unfold messageTypeAvp
  rw [bind_ran _ _ d _ _ (setCall_live c _ d entry.call), code]
  show (readTunnel t >>= _) (d.typed c m) = _
  rw [bind_read _ _ _ _ (readTunnel_live t (d.typed c m) entry.tunnel),
    bind_read _ _ _ _ (readCall_live c (d.typed c m) live), state,
    if_neg (not_not_intro eight), Msg.ofCode_code]
  dsimp only
  rw [if_neg (fun both => both.2 fits)]
  unfold Daemon.opened
  by_cases icrq : m = .ICRQ
  · rw [if_pos icrq, if_pos icrq, addIncomingCall_runs env t (d.typed c m) entry.tunnel, if_pos memory]
  · rw [if_neg icrq, if_neg icrq]
    rfl

theorem opened_ready : Ready m (d.opened env t c m) t c (subject d c m) := by
  unfold Daemon.opened subject
  by_cases icrq : m = .ICRQ
  · subst icrq
    have other : c ≠ d.fresh := Nat.ne_of_lt entry.old
    have here : (d.typed c .ICRQ).call c = { d.call c with msgtype := Msg.ICRQ.code } := write_here _ _ _
    have own : (withLinkedCall env (d.typed c .ICRQ) t).call c = { d.call c with msgtype := Msg.ICRQ.code } :=
      (withLinkedCall_call env (d.typed c .ICRQ) t c other).trans here
    have tunnel := withLinkedCall_here env (d.typed c .ICRQ) t
    have made : ((withLinkedCall env (d.typed c .ICRQ) t).call d.fresh).live = true :=
      congrArg Call.live (withLinkedCall_made env (d.typed c .ICRQ) t)
    rw [if_pos rfl, if_pos rfl]
    refine ⟨?_, ?_, ?_, made, fun _ => ?_, fun not => absurd rfl not⟩
    · rw [tunnel]
      exact entry.tunnel
    · rw [own]
      exact entry.call
    · rw [own]
    · rw [tunnel]
      rfl
  · rw [if_neg icrq, if_neg icrq]
    have here : (d.typed c m).call c = { d.call c with msgtype := m.code } := write_here _ _ _
    refine ⟨entry.tunnel, ?_, ?_, ?_, fun is => absurd is icrq, fun _ => rfl⟩
    · rw [here]
      exact entry.call
    · rw [here]
    · rw [here]
      exact entry.call

-- What the receiver of a message has when it has heard all of it.
def Daemon.after (env : Env) (d : Daemon) (t : TunnelPtr) (c : CallPtr) (m : Msg) (items : List Item) : Daemon :=
  (d.opened env t c m).noting t (subject d c m)
    (items.foldl (Item.intoTunnel m) ((d.opened env t c m).tunnel t))
    (items.foldl (Item.intoCall m) ((d.opened env t c m).call (subject d c m)))

theorem handleAvps_hears (fits : msgFits ((d.tunnel t).self == some c) (d.tunnel t).state (d.call c).state m = true)
    (callMemory : env.callMemory = true) (challengeMemory : env.challengeMemory = true) (items : List Item)
    (members : ∀ item ∈ items, m ∈ item.messages) (carried : ∀ item ∈ items, item.Carried m)
    (header tail : List UInt8) (headed : header.length = controlHdrSize) :
    handleAvps env t c ⟨header ++ (wireOf (.messageType m :: items) ++ tail),
      controlHdrSize + (wireOf (.messageType m :: items)).length⟩ d =
      some (0, d.after env t c m items) := by
  have type : (Item.messageType m).Short := carried_short m _ trivial
  have heard : Hears env t c (.messageType m :: items) d (d.after env t c m items) :=
    .cons _ items d _ _ messageTypeAvp rfl (messageType_taken env m d t c entry callMemory fits)
      (items_heard env m t c (subject d c m) challengeMemory items members carried _ (opened_ready env m d t c entry))
  have short (item : Item) (member : item ∈ .messageType m :: items) : item.Short := by
    rcases List.mem_cons.mp member with rfl | later
    · exact type
    · exact carried_short m item (carried item later)
  have whole : controlHdrSize + (wireOf (.messageType m :: items)).length - controlHdrSize =
    (wireOf (.messageType m :: items)).length :=
    Nat.add_sub_cancel_left _ _
  have rest : ((controlHdrSize + (wireOf (.messageType m :: items)).length : Nat) : Int) - (controlHdrSize : Nat) =
      (wireOf (.messageType m :: items)).length := by omega
  unfold handleAvps
  dsimp only
  rw [whole, rest, ← headed]
  exact avpLoop_hears env t c _ d _ heard short header tail _ (Nat.le_refl _) true fun _ item leads => by
    obtain rfl := Option.some.inj leads
    rfl

end Opening

end ZyAgf.Xl2tpd
