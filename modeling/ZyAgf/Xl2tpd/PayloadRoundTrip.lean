import ZyAgf.Xl2tpd.Avp
import ZyAgf.Xl2tpd.Memory
import ZyAgf.Xl2tpd.Payload

set_option autoImplicit false

namespace ZyAgf.Xl2tpd

def payloadBuf : Nat := 10

-- The words that expand_payload reads of the old header and writes of the new
-- one, as they come.
inductive Touch where
  | read (offset : Nat)
  | wrote (offset : Nat)
deriving DecidableEq, Repr

-- The header is filled in where it lies, up to ten bytes in front of the packet;
-- r goes through the words of the old one.
structure Expansion where
  mem : List UInt8
  r : Nat
  log : List Touch
deriving DecidableEq, Repr

def Expansion.copy (e : Expansion) (target : Nat) : Expansion :=
  { e with mem := storeHostWord e.mem target (hostWord e.mem e.r), log := e.log ++ [.read e.r, .wrote target] }

def Expansion.fill (e : Expansion) (target : Nat) (word : U16) : Expansion :=
  { e with mem := storeHostWord e.mem target word, log := e.log ++ [.wrote target] }

def Expansion.next (e : Expansion) : Expansion := { e with r := e.r + 2 }

-- The new header's bits are looked at once its first word is there.
def expandLength (e : Expansion) (new len : Nat) : Expansion :=
  if PLBIT (hostWord e.mem new) then e.next.copy (new + 2) else e.fill (new + 2) (BitVec.ofNat 16 len)

def expandNumbers (e : Expansion) (new : Nat) (c : Call) : Expansion :=
  if PFBIT (hostWord e.mem new) then (e.next.copy (new + 8)).next.copy (new + 10)
  else (e.fill (new + 10) c.dataSeqNum).fill (new + 8) c.dataRecSeqNum

def expandOffset (e : Expansion) (new : Nat) : Expansion :=
  if PSBIT (hostWord e.mem new) then e.next.copy (new + 12) else e.fill (new + 12) 0

def expandInto (mem : List UInt8) (start new len : Nat) (c : Call) : Expansion :=
  let e := expandLength ((Expansion.mk mem start []).copy new) new len
  expandOffset (expandNumbers ((e.next.copy (new + 4)).next.copy (new + 6)) new c) new

def expandMem (mem : List UInt8) (start len : Nat) (c : Call) : Option (Nat × Expansion) :=
  let ehlen := missingBytes (hostWord mem start)
  if ehlen = 0 then some (start, ⟨mem, start, []⟩)
  else if start < ehlen then none
  else some (start - ehlen, expandInto mem start (start - ehlen) (len + ehlen) c)

def PayloadHdr.words (h : PayloadHdr) : List U16 := [h.ver, h.length, h.tid, h.cid, h.Ns, h.Nr, h.oSize]

def Touch.Clash : Touch → Touch → Prop
  | .wrote w, .read r => w < r + 2 ∧ r < w + 2
  | _, _ => False

def ReadsFirst (log : List Touch) : Prop := log.Pairwise fun earlier later => ¬ earlier.Clash later

-- The words of the two headers lie in ws and r is at word j; whatever has been
-- written lies in front of the word after r.
structure Expansion.Sound (front : List UInt8) (ws : List U16) (tail : List UInt8) (j : Nat)
    (e : Expansion) : Prop where
  mem : e.mem = front ++ (wordsOf ws ++ tail)
  r : e.r = front.length + 2 * j
  clean : ReadsFirst e.log
  behind : ∀ w, .wrote w ∈ e.log → w ≤ e.r

section Steps

variable {front tail : List UInt8} {ws : List U16} {j : Nat} {e : Expansion}

theorem sound_word (sound : e.Sound front ws tail j) (i : Nat) (inside : i < ws.length) :
    hostWord e.mem (front.length + 2 * i) = ws.getD i 0 := by
  rw [sound.mem, hostWord_append, hostWord_words ws tail (2 * i) (by omega) (by omega),
    Nat.mul_div_cancel_left i (by decide)]

theorem stored_word (sound : e.Sound front ws tail j) (i : Nat) (inside : i < ws.length) (word : U16) :
    storeHostWord e.mem (front.length + 2 * i) word = front ++ (wordsOf (ws.set i word) ++ tail) := by
  rw [sound.mem, storeHostWord_append, storeHostWord_words ws tail (2 * i) word (by omega) (by omega),
    Nat.mul_div_cancel_left i (by decide)]

theorem sound_fill (sound : e.Sound front ws tail j) (i : Nat) (inside : i < ws.length) (behind : i ≤ j) (word : U16) :
    (e.fill (front.length + 2 * i) word).Sound front (ws.set i word) tail j where
  mem := stored_word sound i inside word
  r := sound.r
  clean := by
    refine List.pairwise_append.mpr ⟨sound.clean, List.pairwise_singleton _ _, fun earlier _ later here => ?_⟩
    obtain rfl := List.mem_singleton.mp here
    cases earlier <;> exact id
  behind w member := by
    rcases List.mem_append.mp member with old | new
    · exact sound.behind w old
    · cases List.mem_singleton.mp new
      show front.length + 2 * i ≤ e.r
      rw [sound.r]
      omega

theorem sound_copy (sound : e.Sound front ws tail j) (i : Nat) (inside : i < ws.length) (there : j + 1 < ws.length)
    (behind : i ≤ j + 1) :
    (e.next.copy (front.length + 2 * i)).Sound front (ws.set i (ws.getD (j + 1) 0)) tail (j + 1) where
  mem := by
    have old : hostWord e.mem (e.r + 2) = ws.getD (j + 1) 0 := by
      rw [sound.r]
      exact sound_word sound (j + 1) there
    show storeHostWord e.mem _ (hostWord e.mem (e.r + 2)) = _
    rw [old]
    exact stored_word sound i inside _
  r := by
    show e.r + 2 = _
    rw [sound.r]
    omega
  clean := by
    refine List.pairwise_append.mpr ⟨sound.clean, List.pairwise_pair.mpr id, fun earlier old later here => ?_⟩
    rcases List.mem_pair.mp here with rfl | rfl
    · cases earlier with
      | read r => exact id
      | wrote w =>
          have least := sound.behind w old
          show ¬ (w < e.r + 2 + 2 ∧ e.r + 2 < w + 2)
          omega
    · cases earlier <;> exact id
  behind w member := by
    rcases List.mem_append.mp member with old | new
    · exact (sound.behind w old).trans (Nat.le_add_right _ _)
    · rcases List.mem_pair.mp new with read | wrote
      · cases read
      · cases wrote
        show front.length + 2 * i ≤ e.r + 2
        rw [sound.r]
        omega

theorem sound_first (sound : e.Sound front ws tail j) (untouched : e.log = []) (inside : 0 < ws.length)
    (there : j < ws.length) :
    (e.copy front.length).Sound front (ws.set 0 (ws.getD j 0)) tail j where
  mem := by
    have old : hostWord e.mem e.r = ws.getD j 0 := by
      rw [sound.r]
      exact sound_word sound j there
    show storeHostWord e.mem _ (hostWord e.mem e.r) = _
    rw [old]
    exact stored_word sound 0 inside _
  r := sound.r
  clean := by
    rw [Expansion.copy, untouched]
    exact List.pairwise_pair.mpr id
  behind w member := by
    rw [Expansion.copy, untouched] at member
    rcases List.mem_pair.mp member with read | wrote
    · cases read
    · cases wrote
      show front.length ≤ e.r
      rw [sound.r]
      omega

end Steps

-- What the words become, flag by flag. The reader's word moves on with each word
-- that was there.
def lengthWords (l : Bool) (len j : Nat) (ws : List U16) : List U16 :=
  ws.set 1 (if l then ws.getD (j + 1) 0 else BitVec.ofNat 16 len)

def idWords (j : Nat) (ws : List U16) : List U16 :=
  (ws.set 2 (ws.getD (j + 1) 0)).set 3 ((ws.set 2 (ws.getD (j + 1) 0)).getD (j + 2) 0)

def numberWords (f : Bool) (c : Call) (j : Nat) (ws : List U16) : List U16 :=
  if f then (ws.set 4 (ws.getD (j + 1) 0)).set 5 ((ws.set 4 (ws.getD (j + 1) 0)).getD (j + 2) 0)
  else (ws.set 5 c.dataSeqNum).set 4 c.dataRecSeqNum

def offsetWords (s : Bool) (j : Nat) (ws : List U16) : List U16 := ws.set 6 (if s then ws.getD (j + 1) 0 else 0)

-- The new header has its first word.
structure Expansion.Opened (ver : U16) (front : List UInt8) (ws : List U16) (tail : List UInt8) (j : Nat)
    (e : Expansion) : Prop where
  sound : e.Sound front ws tail j
  seven : ws.length = 7
  version : ws.getD 0 0 = ver

section Stages

variable {ver : U16} {front tail : List UInt8} {ws : List U16} {j : Nat} {e : Expansion}

theorem opened_version (opened : e.Opened ver front ws tail j) : hostWord e.mem front.length = ver :=
  (sound_word opened.sound 0 (by rw [opened.seven]; decide)).trans opened.version

theorem opened_fill (opened : e.Opened ver front ws tail j) (i : Nat) (later : 0 < i) (inside : i < 7) (behind : i ≤ j)
    (word : U16) :
    (e.fill (front.length + 2 * i) word).Opened ver front (ws.set i word) tail j where
  sound := sound_fill opened.sound i (by rw [opened.seven]; exact inside) behind word
  seven := by rw [List.length_set, opened.seven]
  version := by
    rw [List.getD_eq_getElem?_getD, List.getElem?_set_ne (by omega), ← List.getD_eq_getElem?_getD]
    exact opened.version

theorem opened_copy (opened : e.Opened ver front ws tail j) (i : Nat) (later : 0 < i) (inside : i < 7) (there : j < 6)
    (behind : i ≤ j + 1) :
    (e.next.copy (front.length + 2 * i)).Opened ver front (ws.set i (ws.getD (j + 1) 0)) tail (j + 1) where
  sound := sound_copy opened.sound i (by rw [opened.seven]; exact inside) (by rw [opened.seven]; omega) behind
  seven := by rw [List.length_set, opened.seven]
  version := by
    rw [List.getD_eq_getElem?_getD, List.getElem?_set_ne (by omega), ← List.getD_eq_getElem?_getD]
    exact opened.version

theorem expandLength_opened (opened : e.Opened ver front ws tail j) (len : Nat) (below : j < 6)
    (room : 1 ≤ j + (PLBIT ver).toNat) :
    (expandLength e front.length len).Opened ver front (lengthWords (PLBIT ver) len j ws) tail
    (j + (PLBIT ver).toNat) := by
  unfold expandLength lengthWords
  rw [opened_version opened]
  cases flag : PLBIT ver with
  | true => exact opened_copy opened 1 (by decide) (by decide) below (by omega)
  | false =>
      rw [flag] at room
      exact opened_fill opened 1 (by decide) (by decide) room _

theorem expandIds_opened (opened : e.Opened ver front ws tail j) (below : j ≤ 4) (room : 1 ≤ j) :
    ((e.next.copy (front.length + 4)).next.copy (front.length + 6)).Opened ver front (idWords j ws) tail (j + 2) :=
  opened_copy (opened_copy opened 2 (by decide) (by decide) (by omega) (by omega)) 3 (by decide) (by decide) (by omega)
    (by omega)

theorem expandNumbers_opened (opened : e.Opened ver front ws tail j) (c : Call) (below : j + 2 * (PFBIT ver).toNat ≤ 6)
    (room : 5 ≤ j + 2 * (PFBIT ver).toNat) :
    (expandNumbers e front.length c).Opened ver front (numberWords (PFBIT ver) c j ws) tail
    (j + 2 * (PFBIT ver).toNat) := by
  unfold expandNumbers numberWords
  rw [opened_version opened]
  cases flag : PFBIT ver with
  | true =>
      rw [flag, Bool.toNat_true] at below room
      exact opened_copy (opened_copy opened 4 (by decide) (by decide) (by omega) (by omega)) 5 (by decide) (by decide)
        (by omega) (by omega)
  | false =>
      rw [flag, Bool.toNat_false] at room
      exact opened_fill (opened_fill opened 5 (by decide) (by decide) room _) 4 (by decide) (by decide) (by omega) _

theorem expandOffset_opened (opened : e.Opened ver front ws tail j) (exactly : j + (PSBIT ver).toNat = 6) :
    (expandOffset e front.length).Opened ver front (offsetWords (PSBIT ver) j ws) tail (j + (PSBIT ver).toNat) := by
  unfold expandOffset offsetWords
  rw [opened_version opened]
  cases flag : PSBIT ver with
  | true =>
      rw [flag, Bool.toNat_true] at exactly
      exact opened_copy opened 6 (by decide) (by decide) (by omega) (by omega)
  | false =>
      rw [flag, Bool.toNat_false] at exactly
      exact opened_fill opened 6 (by decide) (by decide) (by omega) _

end Stages

-- The words of a header as it was received: those its flags announce.
def PayloadHdr.sent (h : PayloadHdr) : List U16 :=
  [h.ver] ++ (if PLBIT h.ver then [h.length] else []) ++ [h.tid, h.cid] ++ (if PFBIT h.ver then [h.Ns, h.Nr] else []) ++
    if PSBIT h.ver then [h.oSize] else []

def PayloadHdr.filled (h : PayloadHdr) (len : Nat) (c : Call) : PayloadHdr :=
  { h with
    length := if PLBIT h.ver then h.length else BitVec.ofNat 16 len
    Ns := if PFBIT h.ver then h.Ns else c.dataRecSeqNum
    Nr := if PFBIT h.ver then h.Nr else c.dataSeqNum
    oSize := if PSBIT h.ver then h.oSize else 0 }

def missingWords (ver : U16) : Nat := (!PLBIT ver).toNat + 2 * (!PFBIT ver).toNat + (!PSBIT ver).toNat

theorem missingBytes_words (ver : U16) : missingBytes ver = 2 * missingWords ver := by
  unfold missingBytes missingWords words
  cases PLBIT ver <;> cases PFBIT ver <;> cases PSBIT ver <;> rfl

theorem filled_words (h : PayloadHdr) (pre : List U16) (free : pre.length = missingWords h.ver) (len : Nat) (c : Call) :
    offsetWords (PSBIT h.ver) (pre.length + (PLBIT h.ver).toNat + 2 + 2 * (PFBIT h.ver).toNat)
      (numberWords (PFBIT h.ver) c (pre.length + (PLBIT h.ver).toNat + 2)
        (idWords (pre.length + (PLBIT h.ver).toNat)
          (lengthWords (PLBIT h.ver) len pre.length ((pre ++ h.sent).set 0 ((pre ++ h.sent).getD pre.length 0))))) =
      (h.filled len c).words := by
  unfold missingWords at free
  unfold PayloadHdr.sent PayloadHdr.filled PayloadHdr.words
  revert free
  cases PLBIT h.ver <;> cases PFBIT h.ver <;> cases PSBIT h.ver <;> intro free
  · have four : pre.length = 4 := free
    match pre, four with
    | [_, _, _, _], _ => rfl
  · have three : pre.length = 3 := free
    match pre, three with
    | [_, _, _], _ => rfl
  · have two : pre.length = 2 := free
    match pre, two with
    | [_, _], _ => rfl
  · have one : pre.length = 1 := free
    match pre, one with
    | [_], _ => rfl
  · have three : pre.length = 3 := free
    match pre, three with
    | [_, _, _], _ => rfl
  · have two : pre.length = 2 := free
    match pre, two with
    | [_, _], _ => rfl
  · have one : pre.length = 1 := free
    match pre, one with
    | [_], _ => rfl
  · have none : pre.length = 0 := free
    match pre, none with
    | [], _ => rfl

theorem sent_length (h : PayloadHdr) : h.sent.length + missingWords h.ver = 7 := by
  unfold PayloadHdr.sent missingWords
  cases PLBIT h.ver <;> cases PFBIT h.ver <;> cases PSBIT h.ver <;> rfl

theorem not_toNat (b : Bool) : (!b).toNat + b.toNat = 1 := by
  cases b <;> rfl

theorem expandInto_sound (front tail : List UInt8) (pre : List U16) (h : PayloadHdr)
    (free : pre.length = missingWords h.ver) (len : Nat) (c : Call) :
    (expandInto (front ++ (wordsOf (pre ++ h.sent) ++ tail)) (front.length + 2 * pre.length) front.length len c).mem =
        front ++ (wordsOf (h.filled len c).words ++ tail) ∧
      ReadsFirst (expandInto (front ++ (wordsOf (pre ++ h.sent) ++ tail))
        (front.length + 2 * pre.length) front.length len c).log := by
  have seven : (pre ++ h.sent).length = 7 := by
    have := sent_length h
    rw [List.length_append]
    omega
  have version : (pre ++ h.sent).getD pre.length 0 = h.ver := by
    rw [List.getD_eq_getElem?_getD, List.getElem?_append_right (Nat.le_refl _), Nat.sub_self]
    rfl
  have start : (Expansion.mk (front ++ (wordsOf (pre ++ h.sent) ++ tail)) (front.length + 2 * pre.length) []).Sound
    front (pre ++ h.sent) tail
      pre.length := ⟨rfl, rfl, List.Pairwise.nil, nofun⟩
  have l_flag := not_toNat (PLBIT h.ver)
  have f_flag := not_toNat (PFBIT h.ver)
  have s_flag := not_toNat (PSBIT h.ver)
  unfold missingWords at free
  have first := sound_first start rfl (by omega) (by omega)
  have begun : ((pre ++ h.sent).set 0 ((pre ++ h.sent).getD pre.length 0)).getD 0 0 = h.ver := by
    rw [version, List.getD_eq_getElem?_getD, List.getElem?_set_self (by omega)]
    rfl
  have opened : Expansion.Opened h.ver front _ tail pre.length _ := ⟨first, by rw [List.length_set, seven], begun⟩
  have measured := expandLength_opened opened len (by omega) (by omega)
  have named := expandIds_opened measured (by omega) (by omega)
  have numbered := expandNumbers_opened named c (by omega) (by omega)
  have done := expandOffset_opened numbered (by omega)
  rw [filled_words h pre free len c] at done
  exact ⟨done.sound.mem, done.sound.clean⟩

-- add_payload_hdr in the buffer: the header is as long as its flags make it, and
-- one without a length is written through a pointer two bytes in front of it.
def addPayloadHdr (mem : List UInt8) (start len : Nat) (tid cid : Int) (c : Call) : List UInt8 × Nat × Nat :=
  let sequenced := c.fbit || c.ourfbit
  let skipped := 2 + words (!sequenced) 4 + words (!c.lbit) 2
  let new := start - payloadHdrSize + skipped
  let size := len + payloadHdrSize - skipped
  let versioned := storeNetWord mem new ((if c.lbit then 0x4000 else 0) |||
    (if sequenced then 0x0800 else 0) ||| verL2tp)
  let measured := if c.lbit then storeNetWord versioned (new + 2) (BitVec.ofNat 16 size) else versioned
  let p := if c.lbit then new else new - 2
  let named := storeNetWord (storeNetWord measured (p + 4) (BitVec.ofInt 16 tid)) (p + 6) (BitVec.ofInt 16 cid)
  let numbered :=
    if sequenced then storeNetWord (storeNetWord named (p + 8) c.dataSeqNum) (p + 10) c.dataRecSeqNum else named
  (numbered, new, size)

theorem addPayloadHdr_header (front gap frame tail : List UInt8) (space : gap.length = payloadHdrSize) (tid cid : Int)
    (c : Call) :
    let written := addPayloadHdr (front ++ (gap ++ (frame ++ tail)))
      (front.length + payloadHdrSize) frame.length tid cid c
    bytesAt written.1 written.2.1 written.2.2 = payloadHeader tid cid c frame ++ frame := by
  obtain ⟨g0, g1, g2, g3, g4, g5, g6, g7, g8, g9, g10, g11, g12, g13, rfl⟩ :
      ∃ g0 g1 g2 g3 g4 g5 g6 g7 g8 g9 g10 g11 g12 g13,
        gap = [g0, g1, g2, g3, g4, g5, g6, g7, g8, g9, g10, g11, g12, g13] := by
    match gap, space with
    | [a, b, c, d, e, f, g, h, i, j, k, l, m, n], _ => exact ⟨a, b, c, d, e, f, g, h, i, j, k, l, m, n, rfl⟩
  have cut (k j : Nat) (within : j ≤ k) : front.length + k - j = front.length + (k - j) :=
    Nat.add_sub_assoc within front.length
  have taken (header rest : List UInt8) (skipped size : Nat) (length : header.length + frame.length = size)
    (back : List UInt8)
      (behind : back.drop skipped = header ++ (frame ++ rest)) : bytesAt (front ++ back)
        (front.length + skipped) size = header ++ frame := by
    rw [bytesAt_append, bytesAt, behind, ← List.append_assoc]
    exact List.take_left' (by rw [List.length_append, length])
  unfold addPayloadHdr payloadHeader
  dsimp only
  rw [Nat.add_sub_cancel]
  cases c.lbit <;> cases c.fbit || c.ourfbit
  · simp only [words, Bool.not_false, if_true, if_false, Bool.false_eq_true, Nat.reduceAdd, cut 8 2 (by decide),
      Nat.add_assoc,
      storeNetWord_append, Nat.reduceSub]
    exact taken _ tail 8 _ (by simp [wordBytes, payloadHdrSize]; omega) _ rfl
  · simp only [words, Bool.not_false, Bool.not_true, if_true, if_false, Bool.false_eq_true, Nat.reduceAdd,
      cut 4 2 (by decide), Nat.add_assoc,
      storeNetWord_append, Nat.reduceSub]
    exact taken _ tail 4 _ (by simp [wordBytes, payloadHdrSize]; omega) _ rfl
  · simp only [words, Bool.not_false, Bool.not_true, if_true, if_false, Bool.false_eq_true, Nat.reduceAdd,
      Nat.add_assoc, storeNetWord_append,
      Nat.add_zero]
    exact taken _ tail 6 _ (by simp [wordBytes, payloadHdrSize]; omega) _ rfl
  · simp only [words, Bool.not_true, if_true, if_false, Bool.false_eq_true, Nat.reduceAdd, Nat.add_assoc,
      storeNetWord_append, Nat.add_zero]
    exact taken _ tail 2 _ (by simp [wordBytes, payloadHdrSize]; omega) _ rfl

def frameHdr (tid cid : Int) (c : Call) (frame : List UInt8) : PayloadHdr where
  ver := (if c.lbit then 0x4000 else 0) ||| (if c.fbit || c.ourfbit then 0x0800 else 0) ||| verL2tp
  length := BitVec.ofNat 16 (frame.length + minPayloadHdrLen + words c.lbit 2 + words (c.fbit || c.ourfbit) 4)
  tid := BitVec.ofInt 16 tid
  cid := BitVec.ofInt 16 cid
  Ns := c.dataSeqNum
  Nr := c.dataRecSeqNum
  oSize := 0

theorem frameHdr_flags (tid cid : Int) (c : Call) (frame : List UInt8) :
    PLBIT (frameHdr tid cid c frame).ver = c.lbit ∧ PFBIT (frameHdr tid cid c frame).ver = (c.fbit || c.ourfbit) ∧
      PSBIT (frameHdr tid cid c frame).ver = false ∧ PTBIT (frameHdr tid cid c frame).ver = false ∧
      PVER (frameHdr tid cid c frame).ver = verL2tp := by
  unfold frameHdr
  dsimp only
  cases c.lbit <;> cases c.fbit || c.ourfbit <;> decide

theorem payloadHeader_sent (tid cid : Int) (c : Call) (frame : List UInt8) :
    payloadHeader tid cid c frame = (frameHdr tid cid c frame).sent.flatMap wordBytes := by
  obtain ⟨l, f, s, _, _⟩ := frameHdr_flags tid cid c frame
  unfold PayloadHdr.sent
  rw [l, f, s]
  unfold payloadHeader frameHdr
  cases c.lbit <;> cases c.fbit || c.ourfbit <;> simp

theorem fixHdr_sent (h : PayloadHdr) (tail : List UInt8)
    (data : CTBIT (hostWord (h.sent.flatMap wordBytes ++ tail) 0) = false) :
    fixHdr (h.sent.flatMap wordBytes ++ tail) = wordsOf h.sent ++ tail := by
  have version : netWord (h.sent.flatMap wordBytes ++ tail) 0 = h.ver := by
    unfold PayloadHdr.sent
    simp only [List.append_assoc, List.flatMap_append, List.flatMap_cons, List.flatMap_nil, List.append_nil]
    exact joined h.ver
  have count : 3 + (if PSBIT h.ver then 1 else 0) + (if PLBIT h.ver then 1 else 0) +
    (if PFBIT h.ver then 2 else 0) = h.sent.length := by
    unfold PayloadHdr.sent
    cases PLBIT h.ver <;> cases PFBIT h.ver <;> cases PSBIT h.ver <;> rfl
  unfold fixHdr
  rw [data, if_neg Bool.false_ne_true, version, count, swaps_words]

theorem sent_version (h : PayloadHdr) (tail : List UInt8) : hostWord (wordsOf h.sent ++ tail) 0 = h.ver := by
  rw [hostWord_words h.sent tail 0 rfl (by simp [PayloadHdr.sent])]
  rfl

theorem expandHdr_sent (h : PayloadHdr) (tail : List UInt8) (len : Nat) (c : Call) :
    expandHdr ⟨wordsOf h.sent ++ tail, len⟩ c = h.filled (len + missingBytes h.ver) c := by
  have version := sent_version h tail
  unfold expandHdr PayloadHdr.filled
  dsimp only
  rw [version]
  cases l : PLBIT h.ver <;> cases f : PFBIT h.ver <;> cases s : PSBIT h.ver <;>
    simp (disch := simp) only [PayloadHdr.sent, words, l, f, s, hostWord_words, if_true, if_false, Bool.false_eq_true,
      Nat.reduceAdd,
      Nat.reduceDiv, Nat.add_zero, List.append_nil, List.cons_append, List.nil_append, List.getD_cons_zero,
        List.getD_cons_succ]

theorem filled_whole (h : PayloadHdr) (len : Nat) (c : Call) (whole : missingWords h.ver = 0) : h.sent =
    (h.filled len c).words := by
  unfold missingWords at whole
  unfold PayloadHdr.sent PayloadHdr.filled PayloadHdr.words
  revert whole
  cases PLBIT h.ver <;> cases PFBIT h.ver <;> cases PSBIT h.ver <;> intro whole <;> first | rfl | cases whole

theorem expandMem_sent (space tail : List UInt8) (h : PayloadHdr) (room : missingBytes h.ver ≤ space.length) (len : Nat)
    (c : Call) :
    ∃ e, expandMem (space ++ (wordsOf h.sent ++ tail)) space.length len c = some
      (space.length - missingBytes h.ver, e) ∧
      e.mem = space.take (space.length - missingBytes h.ver) ++
        (wordsOf (h.filled (len + missingBytes h.ver) c).words ++ tail) ∧
      ReadsFirst e.log := by
  have version : hostWord (space ++ (wordsOf h.sent ++ tail)) space.length = h.ver :=
    (hostWord_append space _ 0).trans (sent_version h tail)
  unfold expandMem
  rw [version]
  dsimp only
  by_cases whole : missingBytes h.ver = 0
  · rw [if_pos whole, whole, Nat.sub_zero, List.take_length, Nat.add_zero,
      ← filled_whole h len c (by rw [missingBytes_words] at whole; omega)]
    exact ⟨_, rfl, rfl, List.Pairwise.nil⟩
  · rw [if_neg whole, if_neg (Nat.not_lt.mpr room)]
    obtain ⟨pre, count, shape⟩ := exists_words (missingWords h.ver) (space.drop (space.length - missingBytes h.ver))
      (by rw [List.length_drop, ← missingBytes_words]; omega)
    have cut : space = space.take (space.length - missingBytes h.ver) ++ wordsOf pre := by
      rw [shape, List.take_append_drop]
    have front : (space.take (space.length - missingBytes h.ver)).length = space.length - missingBytes h.ver := by
      rw [List.length_take]
      omega
    have both : wordsOf (pre ++ h.sent) = wordsOf pre ++ wordsOf h.sent := List.flatMap_append
    have sound := expandInto_sound (space.take (space.length - missingBytes h.ver)) tail pre h count
      (len + missingBytes h.ver) c
    rw [front, both, List.append_assoc, ← List.append_assoc (space.take _), ← cut, count, ← missingBytes_words,
      Nat.sub_add_cancel room] at sound
    exact ⟨_, rfl, sound⟩

-- The datagram that goes out for a frame that was read into its place.
def sentDatagram (front gap frame behind : List UInt8) (tid cid : Int) (c : Call) : List UInt8 :=
  let written := addPayloadHdr (front ++ (gap ++ (frame ++ behind)))
    (front.length + payloadHdrSize) frame.length tid cid c
  bytesAt written.1 written.2.1 written.2.2

-- And the buffer it is received into, in front of what older packets left.
def receivedDatagram (datagram tail : List UInt8) : RecvBuffer := ⟨fixHdr (datagram ++ tail), datagram.length⟩

theorem sent_bytes (ws : List U16) : (ws.flatMap wordBytes).length = 2 * ws.length := by
  induction ws with
  | nil => rfl
  | cons w ws ih =>
      rw [List.flatMap_cons, List.length_append, ih, List.length_cons]
      simp only [wordBytes, List.length_cons, List.length_nil]
      omega

theorem wordsOf_length (ws : List U16) : (wordsOf ws).length = 2 * ws.length := by
  induction ws with
  | nil => rfl
  | cons w ws ih =>
      rw [wordsOf, List.flatMap_cons, List.length_append]
      unfold wordsOf at ih
      rw [ih, List.length_cons]
      simp only [hostBytes, List.length_cons, List.length_nil]
      omega

section RoundTrip

variable (tid cid : Int) (sender : Call) (frame : List UInt8)

theorem frameHdr_data (tail : List UInt8) :
    CTBIT (hostWord ((frameHdr tid cid sender frame).sent.flatMap wordBytes ++ tail) 0) = false := by
  unfold PayloadHdr.sent
  simp only [List.append_assoc, List.flatMap_append, List.flatMap_cons, List.flatMap_nil, List.append_nil]
  have first (w : U16) (rest : List UInt8) : hostWord (wordBytes w ++ rest) 0 = hostWord (wordBytes w) 0 := rfl
  rw [first]
  unfold frameHdr
  dsimp only
  cases sender.lbit <;> cases sender.fbit || sender.ourfbit <;> decide

theorem sentDatagram_sent (front gap behind : List UInt8) (space : gap.length = payloadHdrSize) :
    sentDatagram front gap frame behind tid cid sender =
      (frameHdr tid cid sender frame).sent.flatMap wordBytes ++ frame := by
  rw [← payloadHeader_sent]
  exact addPayloadHdr_header front gap frame behind space tid cid sender

theorem receivedDatagram_sent (tail : List UInt8) :
    receivedDatagram ((frameHdr tid cid sender frame).sent.flatMap wordBytes ++ frame) tail =
      ⟨wordsOf (frameHdr tid cid sender frame).sent ++ (frame ++ tail),
        2 * (frameHdr tid cid sender frame).sent.length + frame.length⟩ := by
  unfold receivedDatagram
  rw [List.append_assoc, fixHdr_sent _ _ (frameHdr_data tid cid sender frame (frame ++ tail)), List.length_append,
    sent_bytes]

theorem frameHdr_extract (tail : List UInt8) :
    extract (wordsOf (frameHdr tid cid sender frame).sent ++ tail) =
      ((BitVec.ofInt 16 tid).toNat, (BitVec.ofInt 16 cid).toNat) := by
  obtain ⟨l, f, s, _, _⟩ := frameHdr_flags tid cid sender frame
  unfold extract
  rw [sent_version, l]
  have ids : (frameHdr tid cid sender frame).tid = BitVec.ofInt 16 tid ∧
    (frameHdr tid cid sender frame).cid = BitVec.ofInt 16 cid := ⟨rfl, rfl⟩
  cases on : sender.lbit <;> rw [on] at l <;>
    simp (disch := simp) only [PayloadHdr.sent, l, hostWord_words, ids, if_true, if_false, Bool.false_eq_true,
      Nat.reduceDiv, List.append_nil,
      List.cons_append, List.nil_append, List.getD_cons_zero, List.getD_cons_succ]

theorem frameHdr_length : 2 * (frameHdr tid cid sender frame).sent.length =
    minPayloadHdrLen + words sender.lbit 2 + words (sender.fbit || sender.ourfbit) 4 := by
  obtain ⟨l, f, s, _, _⟩ := frameHdr_flags tid cid sender frame
  unfold PayloadHdr.sent
  rw [l, f, s]
  cases sender.lbit <;> cases sender.fbit || sender.ourfbit <;> rfl

theorem frameHdr_checks (sanity : Bool) (tail : List UInt8)
    (fits : 2 * (frameHdr tid cid sender frame).sent.length + frame.length < 2 ^ 16) :
    checkPayload sanity ⟨wordsOf (frameHdr tid cid sender frame).sent ++ (frame ++ tail),
      2 * (frameHdr tid cid sender frame).sent.length + frame.length⟩ = 0 := by
  obtain ⟨l, f, s, t, v⟩ := frameHdr_flags tid cid sender frame
  have length := frameHdr_length tid cid sender frame
  have least : minPayloadHdrLen ≤ 2 * (frameHdr tid cid sender frame).sent.length := by omega
  unfold checkPayload
  dsimp only
  rw [sent_version, if_neg (by omega), l, f, s, t, v, if_neg Bool.false_ne_true, if_neg (not_not_intro rfl)]
  split
  · rfl
  · cases on : sender.lbit with
    | false =>
        rw [on] at length
        have enough : ¬ 2 * (frameHdr tid cid sender frame).sent.length + frame.length <
            minPayloadHdrLen + words false 2 + words (sender.fbit || sender.ourfbit) 4 + words false 2 +
              words false (hostWord (wordsOf (frameHdr tid cid sender frame).sent ++ (frame ++ tail)) 2).toNat := by
          simp only [words, Bool.false_eq_true, if_false] at length ⊢
          omega
        rw [if_neg (fun short => enough short.1), if_neg (by simp)]
    | true =>
        have written : (hostWord (wordsOf (frameHdr tid cid sender frame).sent ++ (frame ++ tail)) 2).toNat =
            2 * (frameHdr tid cid sender frame).sent.length + frame.length := by
          rw [hostWord_words _ _ 2 rfl (by unfold minPayloadHdrLen at least; omega)]
          have second : (frameHdr tid cid sender frame).sent.getD 1 0 = (frameHdr tid cid sender frame).length := by
            rw [PayloadHdr.sent, l, on]
            rfl
          have size : frame.length + minPayloadHdrLen + words sender.lbit 2 + words (sender.fbit || sender.ourfbit) 4 =
              2 * (frameHdr tid cid sender frame).sent.length + frame.length := by omega
          have bound := Nat.mod_eq_of_lt fits
          rw [second]
          show (BitVec.ofNat 16 (frame.length + minPayloadHdrLen + words sender.lbit 2 + words
            (sender.fbit || sender.ourfbit) 4)).toNat = _
          rw [size, BitVec.toNat_ofNat, bound]
        rw [if_neg (by simp), written, if_neg (by simp)]

end RoundTrip

theorem expandPayload_frame (buf : RecvBuffer) (c after : Call) (h : PayloadHdr) (len : Nat)
    (ran : expandPayload buf c = some (after, h, len)) : h = expandHdr buf c ∧ len = buf.len + missingBytes h.ver := by
  unfold expandPayload at ran
  dsimp only at ran
  split at ran
  · split at ran
    · cases ran
    split at ran
    · cases ran
      exact ⟨rfl, rfl⟩
    · cases ran
  · cases ran
    exact ⟨rfl, rfl⟩

theorem expandPayload_plain (buf : RecvBuffer) (c : Call) (expected : (expandHdr buf c).Ns = c.dataRecSeqNum) :
    (expandPayload buf c).isSome := by
  unfold expandPayload
  dsimp only
  rw [expected]
  split
  · rw [if_neg (by omega), if_pos (by unfold payloadFudge; omega)]
    rfl
  · rfl

-- A frame that was sent comes in as it was, with its header filled in.
theorem payload_round_trip (sender receiver : Call) (tid cid : Int) (front gap frame behind tail space : List UInt8)
    (gapSize : gap.length = payloadHdrSize) (room : payloadBuf ≤ space.length)
    (fits : (sentDatagram front gap frame behind tid cid sender).length < 2 ^ 16) (sanity : Bool) :
    extract (receivedDatagram (sentDatagram front gap frame behind tid cid sender) tail).mem =
        ((BitVec.ofInt 16 tid).toNat, (BitVec.ofInt 16 cid).toNat) ∧
      checkPayload sanity (receivedDatagram (sentDatagram front gap frame behind tid cid sender) tail) = 0 ∧
      ((sender.fbit || sender.ourfbit) = false →
        (expandPayload (receivedDatagram (sentDatagram front gap frame behind tid cid sender) tail) receiver).isSome) ∧
      ∃ start e,
        expandMem (space ++ (receivedDatagram (sentDatagram front gap frame behind tid cid sender) tail).mem)
          space.length
            (receivedDatagram (sentDatagram front gap frame behind tid cid sender) tail).len receiver = some
              (start, e) ∧
          ReadsFirst e.log ∧
          ∀ after h len, expandPayload (receivedDatagram (sentDatagram front gap frame behind tid cid sender) tail)
            receiver = some (after, h, len) →
            bytesAt e.mem start payloadHdrSize = wordsOf h.words ∧ h.tid = BitVec.ofInt 16 tid ∧
              h.cid = BitVec.ofInt 16 cid ∧
              ((sender.fbit || sender.ourfbit) = true → h.Ns = sender.dataSeqNum ∧ h.Nr = sender.dataRecSeqNum) ∧
                h.oSize = 0 ∧
              len = payloadHdrSize + frame.length ∧ bytesAt e.mem (start + payloadHdrSize) frame.length = frame := by
  obtain ⟨l, f, s, _, _⟩ := frameHdr_flags tid cid sender frame
  have sent := sentDatagram_sent tid cid sender frame front gap behind gapSize
  have received := receivedDatagram_sent tid cid sender frame tail
  rw [sent, List.length_append, sent_bytes] at fits
  rw [sent, received]
  have header := expandHdr_sent (frameHdr tid cid sender frame) (frame ++ tail)
    (2 * (frameHdr tid cid sender frame).sent.length + frame.length)
    receiver
  have count := sent_length (frameHdr tid cid sender frame)
  have missing := missingBytes_words (frameHdr tid cid sender frame).ver
  have least : minPayloadHdrLen ≤ 2 * (frameHdr tid cid sender frame).sent.length := by
    rw [frameHdr_length]
    omega
  obtain ⟨e, expanded, mem, clean⟩ := expandMem_sent space (frame ++ tail) (frameHdr tid cid sender frame)
    (by unfold payloadBuf at room; unfold minPayloadHdrLen at least; omega)
    (2 * (frameHdr tid cid sender frame).sent.length + frame.length) receiver
  refine ⟨frameHdr_extract tid cid sender frame (frame ++ tail), frameHdr_checks tid cid sender frame sanity tail fits,
    fun plain => ?_,
    _, e, expanded, clean, fun after h len ran => ?_⟩
  · refine expandPayload_plain _ receiver ?_
    rw [header, PayloadHdr.filled, f, plain]
    rfl
  · obtain ⟨same, size⟩ := expandPayload_frame _ receiver after h len ran
    rw [header] at same
    subst same
    have start : (space.take (space.length - missingBytes (frameHdr tid cid sender frame).ver)).length =
        space.length - missingBytes (frameHdr tid cid sender frame).ver := by
      rw [List.length_take]
      omega
    have width (h : PayloadHdr) : (wordsOf h.words).length = payloadHdrSize := by
      rw [wordsOf_length]
      rfl
    refine ⟨?_, rfl, rfl, fun numbered => ?_, ?_, ?_, ?_⟩
    · rw [mem, ← width]
      exact bytesAt_first _ _ (frame ++ tail) _ start
    · rw [PayloadHdr.filled, f, numbered]
      exact ⟨rfl, rfl⟩
    · rw [PayloadHdr.filled, s]
      rfl
    · refine size.trans ?_
      show 2 * (frameHdr tid cid sender frame).sent.length + frame.length + missingBytes
        (frameHdr tid cid sender frame).ver = _
      rw [missing]
      unfold payloadHdrSize
      omega
    · rw [mem, ← width]
      exact bytesAt_second _ _ frame tail _ start

def lengthCall : Call := { Call.created 0 (Tunnel.created 1) 5 with lbit := true }

theorem payload_round_trip_length :
    ∃ start e, expandMem (List.replicate 10 0 ++
      (receivedDatagram (sentDatagram [] (List.replicate 14 0) [1, 2, 3] [] 7 9 lengthCall) []).mem)
        10 (receivedDatagram (sentDatagram [] (List.replicate 14 0) [1, 2, 3] [] 7 9 lengthCall) []).len lengthCall =
          some (start, e) ∧
      bytesAt e.mem (start + payloadHdrSize) 3 = [1, 2, 3] := by
  obtain ⟨ids, checked, plain, start, e, expanded, clean, whole⟩ :=
    payload_round_trip lengthCall lengthCall 7 9 [] (List.replicate 14 0) [1, 2, 3] [] []
    (List.replicate 10 0) rfl (by decide) (by decide) true
  obtain ⟨⟨after, h, len⟩, ran⟩ := Option.isSome_iff_exists.mp (plain rfl)
  exact ⟨start, e, expanded, (whole after h len ran).2.2.2.2.2.2⟩

end ZyAgf.Xl2tpd
