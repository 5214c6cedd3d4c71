import ZyAgf.Library.Framing
import ZyAgf.Pppoe.Packet

set_option autoImplicit false

namespace ZyAgf.Pppoe

def frameEsc : UInt8 := 0x7d
def frameFlag : UInt8 := 0x7e
def frameAddr : UInt8 := 0xff
def frameCtrl : UInt8 := 0x03
def frameEnc : UInt8 := 0x20

def pppInitFcs16 : UInt16 := 0xffff

def pppFCS16 (fcs : UInt16) (bytes : List UInt8) : UInt16 := fcs16 fcs bytes

def escapes (c : UInt8) : Bool := c == frameFlag || c == frameAddr || c == frameEsc || c < 0x20

def pppTail (payload : List UInt8) : List UInt8 :=
  let fcs := pppFCS16 (pppFCS16 pppInitFcs16 [frameAddr, frameCtrl]) payload ^^^ 0xffff
  [(fcs &&& 0xff).toUInt8, (fcs >>> 8 &&& 0xff).toUInt8]

def pppBuf (payload : List UInt8) : List UInt8 :=
  [frameFlag, frameAddr, frameEsc, frameCtrl ^^^ frameEnc] ++ payload.flatMap (stuff escapes) ++
    (pppTail payload).flatMap (stuff escapes) ++ [frameFlag]

inductive PPPState where
  | waitforFrameAddr
  | dropProto
  | buildingPacket
deriving DecidableEq, Repr

-- The statics of the scanner, and the array of the packet it fills.
structure Ppp where
  state : PPPState
  packetSize : Nat
  xorValue : UInt8
  payload : Vector UInt8 ethJumboLen
deriving DecidableEq

def initPPP (payload : Vector UInt8 ethJumboLen) : Ppp := ⟨.waitforFrameAddr, 0, 0, payload⟩

-- What the scanner does besides: it sends a packet, ends the process, or writes
-- behind the array.
inductive Scanned where
  | sendSessionPacket (payload : List UInt8)
  | fatal (message : String)
  | overflow (offset : Nat)
deriving DecidableEq, Repr

def tooShort : String := "Packet too short from PPP (asyncReadFromPPP)"

def Ppp.reset (p : Ppp) : Ppp := { p with packetSize := 0, xorValue := 0, state := .waitforFrameAddr }

def Ppp.build (p : Ppp) (c : UInt8) : Option Ppp × List Scanned :=
  if c = frameEsc then (some { p with xorValue := frameEnc }, [])
  else if c = frameFlag then
    if p.packetSize < 2 then (none, [.fatal tooShort])
    else (some p.reset, [.sendSessionPacket (p.payload.toList.take (p.packetSize - 2))])
  else if p.packetSize ≥ ethJumboLen - 4 then (some p.reset, [])
  else if inside : p.packetSize < ethJumboLen then
    (some { p with payload := p.payload.set p.packetSize (c ^^^ p.xorValue) inside, packetSize := p.packetSize + 1, xorValue := 0 }, [])
  else (none, [.overflow p.packetSize])

def waitAddr : List UInt8 → PPPState × List UInt8
  | [] => (.waitforFrameAddr, [])
  | c :: rest => if c = frameAddr then (.dropProto, rest) else waitAddr rest

def dropHeader : List UInt8 → PPPState × List UInt8
  | [] => (.dropProto, [])
  | c :: rest => if c = frameCtrl ^^^ frameEnc then (.buildingPacket, rest) else dropHeader rest

def buildPacket (p : Ppp) : List UInt8 → (Option Ppp × List Scanned) × List UInt8
  | [] => ((some p, []), [])
  | c :: rest =>
      if p.state ≠ .buildingPacket then ((some p, []), c :: rest)
      else
        match p.build c with
        | (none, out) => ((none, out), rest)
        | (some next, out) =>
            let onward := buildPacket next rest
            ((onward.1.1, out ++ onward.1.2), onward.2)

-- Every round of the outer loop reads an octet at least, so the length of the
-- chunk is fuel enough.
def readFrom : Nat → Ppp → List UInt8 → Option Ppp × List Scanned
  | 0, p, _ => (some p, [])
  | fuel + 1, p, buf =>
      if buf = [] then (some p, [])
      else
        let waited := if p.state = .waitforFrameAddr then waitAddr buf else (p.state, buf)
        if waited.1 = .waitforFrameAddr then (some { p with state := waited.1 }, [])
        else
          let dropped := if waited.1 = .dropProto then dropHeader waited.2 else waited
          if dropped.1 = .dropProto then (some { p with state := dropped.1 }, [])
          else
            let built := buildPacket { p with state := dropped.1 } dropped.2
            match built.1 with
            | (none, out) => (none, out)
            | (some next, out) => ((readFrom fuel next built.2).1, out ++ (readFrom fuel next built.2).2)

def asyncReadFromPPP (p : Ppp) (chunk : List UInt8) : Option Ppp × List Scanned := readFrom chunk.length p chunk

def Ppp.scan (p : Ppp) (c : UInt8) : Option Ppp × List Scanned :=
  match p.state with
  | .waitforFrameAddr => (some (if c = frameAddr then { p with state := .dropProto } else p), [])
  | .dropProto => (some (if c = frameCtrl ^^^ frameEnc then { p with state := .buildingPacket } else p), [])
  | .buildingPacket => p.build c

theorem scan_builds (p : Ppp) (c : UInt8) (builds : p.state = .buildingPacket) : p.scan c = p.build c := by
  unfold Ppp.scan
  rw [builds]

theorem waitAddr_feed (buf : List UInt8) (p : Ppp) (waits : p.state = .waitforFrameAddr) :
    feed Ppp.scan p buf = feed Ppp.scan { p with state := (waitAddr buf).1 } (waitAddr buf).2 := by
  induction buf with
  | nil =>
      have same : { p with state := .waitforFrameAddr } = p := by rw [← waits]
      exact congrArg (fun q => (some q, [])) same.symm
  | cons c rest ih =>
      have scanned : p.scan c = (some (if c = frameAddr then { p with state := .dropProto } else p), []) := by
        unfold Ppp.scan
        rw [waits]
      rw [feed, scanned, waitAddr]
      dsimp only
      rw [List.nil_append]
      split
      · rfl
      · exact ih

theorem waitAddr_left (buf : List UInt8) :
    (waitAddr buf).2.length ≤ buf.length ∧ ((waitAddr buf).1 = .waitforFrameAddr → (waitAddr buf).2 = []) := by
  induction buf with
  | nil => exact ⟨Nat.le_refl _, fun _ => rfl⟩
  | cons c rest ih =>
      rw [waitAddr]
      split
      · exact ⟨Nat.le_succ _, fun waits => nomatch waits⟩
      · exact ⟨Nat.le_succ_of_le ih.1, ih.2⟩

theorem dropHeader_feed (buf : List UInt8) (p : Ppp) (drops : p.state = .dropProto) :
    feed Ppp.scan p buf = feed Ppp.scan { p with state := (dropHeader buf).1 } (dropHeader buf).2 := by
  induction buf with
  | nil =>
      have same : { p with state := .dropProto } = p := by rw [← drops]
      exact congrArg (fun q => (some q, [])) same.symm
  | cons c rest ih =>
      have scanned : p.scan c = (some (if c = frameCtrl ^^^ frameEnc then { p with state := .buildingPacket } else p),
        []) := by
        unfold Ppp.scan
        rw [drops]
      rw [feed, scanned, dropHeader]
      dsimp only
      rw [List.nil_append]
      split
      · rfl
      · exact ih

theorem dropHeader_left (buf : List UInt8) :
    (dropHeader buf).2.length ≤ buf.length ∧ ((dropHeader buf).1 = .dropProto → (dropHeader buf).2 = []) ∧
      (dropHeader buf).1 ≠ .waitforFrameAddr := by
  induction buf with
  | nil => exact ⟨Nat.le_refl _, fun _ => rfl, by simp [dropHeader]⟩
  | cons c rest ih =>
      rw [dropHeader]
      split
      · exact ⟨Nat.le_succ _, by simp, by simp⟩
      · exact ⟨Nat.le_succ_of_le ih.1, ih.2⟩

theorem buildPacket_feed (buf : List UInt8) (p : Ppp) :
    feed Ppp.scan p buf = resume (feed Ppp.scan) (buildPacket p buf).1 (buildPacket p buf).2 := by
  induction buf generalizing p with
  | nil => rfl
  | cons c rest ih =>
      rw [buildPacket]
      by_cases builds : p.state = .buildingPacket
      · rw [if_neg (not_not_intro builds)]
        rw [feed, scan_builds p c builds]
        rcases p.build c with ⟨_ | next, out⟩
        · rfl
        · dsimp only
          rw [ih next]
          rcases (buildPacket next rest).1 with ⟨_ | later, out'⟩
          · rfl
          · simp [resume]
      · rw [if_pos builds]
        simp [resume]

theorem buildPacket_left (buf : List UInt8) (p : Ppp) :
    (buildPacket p buf).2.length ≤ buf.length ∧
      (p.state = .buildingPacket → buf ≠ [] → (buildPacket p buf).2.length < buf.length) := by
  induction buf generalizing p with
  | nil => exact ⟨Nat.le_refl _, fun _ more => absurd rfl more⟩
  | cons c rest ih =>
      rw [buildPacket]
      by_cases builds : p.state = .buildingPacket
      · rw [if_neg (not_not_intro builds)]
        have fewer : (match p.build c with
            | (none, out) => ((none, out), rest)
            | (some next, out) =>
                (((buildPacket next rest).1.1, out ++ (buildPacket next rest).1.2), (buildPacket next rest).2)
            : (Option Ppp × List Scanned) × List UInt8).2.length ≤ rest.length := by
          rcases p.build c with ⟨_ | next, out⟩
          · exact Nat.le_refl _
          · exact (ih next).1
        exact ⟨Nat.le_succ_of_le fewer, fun _ _ => Nat.lt_succ_of_le fewer⟩
      · rw [if_pos builds]
        exact ⟨Nat.le_refl _, fun here => absurd here builds⟩

theorem readFrom_feed (fuel : Nat) (p : Ppp) (buf : List UInt8) (enough : buf.length ≤ fuel) :
    readFrom fuel p buf = feed Ppp.scan p buf := by
  induction fuel generalizing p buf with
  | zero =>
      rw [List.length_eq_zero_iff.mp (Nat.le_zero.mp enough)]
      rfl
  | succ fuel ih =>
      rw [readFrom]
      by_cases ended : buf = []
      · rw [if_pos ended, ended]
        rfl
      rw [if_neg ended]
      -- what each of the first two loops leaves is read on as the whole would be
      generalize first : (if p.state = .waitforFrameAddr then waitAddr buf else (p.state, buf)) = waited
      have one : feed Ppp.scan p buf = feed Ppp.scan { p with state := waited.1 } waited.2 ∧
          waited.2.length ≤ buf.length ∧ (waited.1 = .waitforFrameAddr → waited.2 = []) := by
        rw [← first]
        split
        · next waits => exact ⟨waitAddr_feed buf p waits, waitAddr_left buf⟩
        · next waits => exact ⟨rfl, Nat.le_refl _, fun here => absurd here waits⟩
      dsimp only
      by_cases waits : waited.1 = .waitforFrameAddr
      · rw [if_pos waits, one.1, one.2.2 waits]
        rfl
      rw [if_neg waits]
      generalize second : (if waited.1 = .dropProto then dropHeader waited.2 else waited) = dropped
      have two : feed Ppp.scan { p with state := waited.1 } waited.2 = feed Ppp.scan
        { p with state := dropped.1 } dropped.2 ∧
          dropped.2.length ≤ waited.2.length ∧ (dropped.1 = .dropProto → dropped.2 = []) ∧
            dropped.1 ≠ .waitforFrameAddr := by
        rw [← second]
        split
        · next drops => exact ⟨dropHeader_feed waited.2 _ drops, dropHeader_left waited.2⟩
        · next drops => exact ⟨rfl, Nat.le_refl _, fun here => absurd here drops, waits⟩
      by_cases drops : dropped.1 = .dropProto
      · rw [if_pos drops, one.1, two.1, two.2.2.1 drops]
        rfl
      rw [if_neg drops]
      have builds : dropped.1 = .buildingPacket := by
        cases here : dropped.1 with
        | waitforFrameAddr => exact absurd here two.2.2.2
        | dropProto => exact absurd here drops
        | buildingPacket => rfl
      have left := buildPacket_left dropped.2 { p with state := dropped.1 }
      have fewer : (buildPacket { p with state := dropped.1 } dropped.2).2.length ≤ fuel := by
        have some' : 0 < buf.length := List.length_pos_of_ne_nil ended
        by_cases nothing : dropped.2 = []
        · rw [nothing]
          exact Nat.zero_le _
        · have strict := left.2 builds nothing
          omega
      rw [one.1, two.1, buildPacket_feed]
      rcases ran : (buildPacket { p with state := dropped.1 } dropped.2).1 with ⟨_ | next, out⟩
      · rfl
      · dsimp only [resume]
        rw [ih next _ fewer]

theorem asyncReadFromPPP_feed : asyncReadFromPPP = feed Ppp.scan := by
  funext p chunk
  exact readFrom_feed chunk.length p chunk (Nat.le_refl _)

theorem build_inside (p : Ppp) (c : UInt8) : ∀ offset, .overflow offset ∉ (p.build c).2 := by
  have room : ethJumboLen = 1508 := rfl
  intro offset member
  unfold Ppp.build at member
  split at member
  · cases member
  split at member
  · split at member <;> simp at member
  split at member
  · cases member
  split at member
  · cases member
  · omega

theorem scan_inside (p : Ppp) (c : UInt8) : ∀ offset, .overflow offset ∉ (p.scan c).2 := by
  intro offset member
  unfold Ppp.scan at member
  split at member
  · cases member
  · cases member
  · exact build_inside p c offset member

theorem feed_inside (p : Ppp) (bytes : List UInt8) : ∀ offset, .overflow offset ∉ (feed Ppp.scan p bytes).2 := by
  induction bytes generalizing p with
  | nil => exact fun _ member => nomatch member
  | cons c rest ih =>
      intro offset member
      have here := scan_inside p c offset
      rw [feed] at member
      rcases scanned : p.scan c with ⟨_ | next, out⟩
      · rw [scanned] at member here
        exact here member
      · rw [scanned] at member here
        rcases List.mem_append.mp member with now | later
        · exact here now
        · exact ih next offset later

-- However the stream is cut into reads, the same packets are sent and the same
-- state is left, and nothing is written behind the packet's array.
theorem reads_agree (p : Ppp) (chunks others : List (List UInt8)) (same : chunks.flatten = others.flatten) :
    feedAll asyncReadFromPPP p chunks = feedAll asyncReadFromPPP p others ∧
      ∀ offset, .overflow offset ∉ (feedAll asyncReadFromPPP p chunks).2 := by
  rw [asyncReadFromPPP_feed, feedAll_flatten, feedAll_flatten, same]
  exact ⟨rfl, feed_inside p _⟩

-- A read that ends with an escape, and the same stream in one piece.
def escapeCut : List (List UInt8) := [[0xff, 0x7d, 0x23, 0x41, 0x7d], [0x31, 0x42, 0x43, 0x7e]]

theorem reads_agree_escape : (feedAll asyncReadFromPPP (initPPP (Vector.replicate _ 0)) escapeCut).2 =
    [.sendSessionPacket [0x41, 0x11]] ∧
    feedAll asyncReadFromPPP (initPPP (Vector.replicate _ 0)) escapeCut =
      feedAll asyncReadFromPPP (initPPP (Vector.replicate _ 0)) [escapeCut.flatten] :=
  ⟨by decide +kernel, (reads_agree _ escapeCut [escapeCut.flatten] (by decide)).1⟩

section RoundTrip

-- A packet under construction that holds these octets and is in no escape.
structure Ppp.Holds (p : Ppp) (bytes : List UInt8) : Prop where
  builds : p.state = .buildingPacket
  size : p.packetSize = bytes.length
  plain : p.xorValue = 0
  prefix' : p.payload.toList.take bytes.length = bytes

theorem escapes_turned (c : UInt8) (marked : escapes c = true) : c ^^^ turnOctet ≠ frameEsc ∧
    c ^^^ turnOctet ≠ frameFlag :=
  ⟨turned_ne escapes frameEsc c (by decide) marked, turned_ne escapes frameFlag c (by decide) marked⟩

theorem take_set_succ (bytes : List UInt8) (n : Nat) (c : UInt8) (inside : n < bytes.length) :
    (bytes.set n c).take (n + 1) = bytes.take n ++ [c] := by
  rw [List.take_succ_eq_append_getElem (by simpa using inside), List.getElem_set_self,
    List.take_set_of_le (Nat.le_refl n)]

theorem build_octet (p : Ppp) (bytes : List UInt8) (c : UInt8) (state : p.state = .buildingPacket)
    (size : p.packetSize = bytes.length)
    (prefix' : p.payload.toList.take bytes.length = bytes) (room : bytes.length < ethJumboLen - 4)
    (notEsc : c ≠ frameEsc) (notFlag : c ≠ frameFlag) :
    ∃ next, p.scan c = (some next, []) ∧ next.Holds (bytes ++ [c ^^^ p.xorValue]) := by
  have most : ethJumboLen = 1508 := rfl
  have inside : p.packetSize < ethJumboLen := by omega
  refine ⟨{ p with payload := p.payload.set p.packetSize (c ^^^ p.xorValue) inside, packetSize := p.packetSize + 1, xorValue := 0 }, ?_, ?_⟩
  · rw [scan_builds p c state]
    unfold Ppp.build
    rw [if_neg notEsc, if_neg notFlag, if_neg (by omega), dif_pos inside]
  · refine ⟨state, by simp [size], rfl, ?_⟩
    have length : p.payload.toList.length = ethJumboLen := Vector.length_toList
    rw [List.length_append, List.length_singleton, Vector.toList_set, size, take_set_succ _ _ _ (by omega), prefix']

theorem scan_stuffed (p : Ppp) (bytes : List UInt8) (c : UInt8) (holds : p.Holds bytes)
    (room : bytes.length < ethJumboLen - 4) :
    ∃ next, feed Ppp.scan p (stuff escapes c) = (some next, []) ∧ next.Holds (bytes ++ [c]) := by
  unfold stuff
  split
  · next marked =>
      obtain ⟨notEsc, notFlag⟩ := escapes_turned c marked
      have escape : p.scan escapeOctet = (some { p with xorValue := frameEnc }, []) :=
        (scan_builds p _ holds.builds).trans (if_pos rfl)
      obtain ⟨next, scanned, there⟩ := build_octet { p with xorValue := frameEnc } bytes
        (c ^^^ turnOctet) holds.builds holds.size
        holds.prefix' room notEsc notFlag
      refine ⟨next, ?_, ?_⟩
      · rw [feed, escape]
        dsimp only
        rw [feed, scanned]
        rfl
      · have same : c ^^^ turnOctet ^^^ frameEnc = c := turn_turn c
        rwa [same] at there
  · next plain =>
      have notEsc : c ≠ frameEsc := fun same => plain (by rw [same]; decide)
      have notFlag : c ≠ frameFlag := fun same => plain (by rw [same]; decide)
      obtain ⟨next, scanned, there⟩ := build_octet p bytes c holds.builds holds.size holds.prefix' room notEsc notFlag
      refine ⟨next, ?_, ?_⟩
      · rw [feed, scanned]
        rfl
      · rwa [holds.plain, UInt8.xor_zero] at there

-- What asyncReadFromEth knows of its session. MSS clamping, where it is on,
-- overwrites bytes of the payload before they are framed.
structure SessionLink where
  myEth : Mac
  peerEth : Mac
  session : UInt16
  clampMss : List UInt8 → List UInt8
  clampMssLength : ∀ payload, (clampMss payload).length = payload.length

-- What is written to pppd for a packet; a packet that is not for the session
-- writes nothing.
def asyncReadFromEth (link : SessionLink) (packet : PPPoEPacket) : List UInt8 :=
  if packet.length > packet.payload.length then []
  else if packet.code ≠ codeSess then []
  else if pppoeVer packet.vertype ≠ 1 then []
  else if pppoeType packet.vertype ≠ 1 then []
  else if packet.hDest ≠ link.myEth then []
  else if packet.hSource ≠ link.peerEth then []
  else if packet.session ≠ link.session then []
  else pppBuf (link.clampMss (packet.payload.take packet.length))

def sessionPacket (link : SessionLink) (payload : List UInt8) : PPPoEPacket where
  hDest := link.myEth
  hSource := link.peerEth
  vertype := pppoeVerType
  code := codeSess
  session := link.session
  length := payload.length
  payload := payload

theorem asyncReadFromEth_session (link : SessionLink) (payload : List UInt8) :
    asyncReadFromEth link (sessionPacket link payload) = pppBuf (link.clampMss payload) := by
  have version : pppoeVer pppoeVerType = 1 := by decide
  have type : pppoeType pppoeVerType = 1 := by decide
  simp [asyncReadFromEth, sessionPacket, version, type]

-- Between two packets.
structure Ppp.Rests (p : Ppp) : Prop where
  waits : p.state = .waitforFrameAddr
  size : p.packetSize = 0
  plain : p.xorValue = 0

theorem pppTail_length (payload : List UInt8) : (pppTail payload).length = 2 := rfl

theorem scan_pppBuf (payload : List UInt8) (short : payload.length ≤ maxPppoePayload) (p : Ppp) (rests : p.Rests) :
    ∃ next, feed Ppp.scan p (pppBuf payload) = (some next, [.sendSessionPacket payload]) ∧ next.Rests := by
  have opened : feed Ppp.scan p [frameFlag, frameAddr, frameEsc, frameCtrl ^^^ frameEnc] =
    (some { p with state := .buildingPacket }, []) := by
    obtain ⟨state, size, xorValue, array⟩ := p
    obtain rfl := rests.waits
    rfl
  have start : Ppp.Holds { p with state := .buildingPacket } [] := ⟨rfl, rests.size, rests.plain, rfl⟩
  have whole : (payload ++ pppTail payload).length ≤ ethJumboLen - 4 := by
    have most : ethJumboLen = 1508 := rfl
    have room : maxPppoePayload = 1502 := rfl
    rw [List.length_append, pppTail_length]
    omega
  obtain ⟨full, fed, holds⟩ := feed_stuffed Ppp.scan escapes Ppp.Holds (ethJumboLen - 4) scan_stuffed
    (payload ++ pppTail payload) _ [] start
    (by simpa using whole)
  rw [List.nil_append] at holds
  have size : full.packetSize = payload.length + 2 := by rw [holds.size, List.length_append, pppTail_length]
  have front : full.payload.toList.take payload.length = payload := by
    have cut := congrArg (List.take payload.length) holds.prefix'
    rwa [List.take_take, List.take_left, Nat.min_eq_left (by simp)] at cut
  have closed : feed Ppp.scan full [frameFlag] = (some full.reset, [.sendSessionPacket payload]) := by
    rw [feed, scan_builds full _ holds.builds]
    unfold Ppp.build
    rw [if_neg (by decide), if_pos rfl, if_neg (by omega), size, Nat.add_sub_cancel, front]
    rfl
  refine ⟨full.reset, ?_, ⟨rfl, rfl, rfl⟩⟩
  unfold pppBuf
  rw [List.append_assoc [_, _, _, _], ← List.flatMap_append, feed_append, feed_append, opened]
  simp only [resume]
  rw [fed]
  simp only [resume]
  rw [closed]
  rfl

-- What is framed for pppd is what a reader of frames makes of it.
theorem async_round_trip (link : SessionLink) (payloads : List (List UInt8))
    (short : ∀ payload ∈ payloads, payload.length ≤ maxPppoePayload)
    (buffer : Vector UInt8 ethJumboLen) (chunks : List (List UInt8))
    (written : chunks.flatten = payloads.flatMap fun payload => asyncReadFromEth link (sessionPacket link payload)) :
    ∃ last, feedAll asyncReadFromPPP (initPPP buffer) chunks =
      (some last, payloads.map fun payload => .sendSessionPacket (link.clampMss payload)) ∧ last.Rests := by
  rw [asyncReadFromPPP_feed, feedAll_flatten, written]
  refine feed_flatMap Ppp.scan Ppp.Rests _ (fun payload => .sendSessionPacket (link.clampMss payload)) payloads ?_ _
    ⟨rfl, rfl, rfl⟩
  intro payload member p rests
  rw [asyncReadFromEth_session]
  exact scan_pppBuf _ (by rw [link.clampMssLength]; exact short payload member) p rests

-- An empty payload, and one with every kind of octet that is escaped.
def plainLink : SessionLink where
  myEth := Vector.replicate 6 2
  peerEth := Vector.replicate 6 4
  session := 0x0100
  clampMss := id
  clampMssLength := fun _ => rfl

def escapedPayloads : List (List UInt8) := [[], [0x7d, 0x7e, 0xff, 0x03, 0x41]]

theorem async_round_trip_escaped : ∃ last, feedAll asyncReadFromPPP (initPPP (Vector.replicate _ 0))
    [escapedPayloads.flatMap fun payload => asyncReadFromEth plainLink (sessionPacket plainLink payload)] =
      (some last, escapedPayloads.map fun payload => .sendSessionPacket payload) ∧ last.Rests :=
  async_round_trip plainLink escapedPayloads (by decide) _ _ (by simp)

end RoundTrip

end ZyAgf.Pppoe
