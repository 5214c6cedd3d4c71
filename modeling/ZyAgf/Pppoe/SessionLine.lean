import ZyAgf.Library.EndPoints
import ZyAgf.Pppoe.AsyncPpp

set_option autoImplicit false

namespace ZyAgf.Pppoe.Session

-- A pppoe process in its session, while it runs: what it knows of the session,
-- its scanner, and what it has written to pppd.
structure Bridge where
  link : SessionLink
  ppp : Option Ppp
  given : List UInt8

-- The length of the payload goes into its field; what is clamped keeps it.
def sendSessionPacket (link : SessionLink) (payload : List UInt8) : PPPoEPacket where
  hDest := link.peerEth
  hSource := link.myEth
  vertype := pppoeVerType
  code := codeSess
  session := link.session
  length := payload.length
  payload := link.clampMss payload

def frameFor (link : SessionLink) : Scanned → Option PPPoEPacket
  | .sendSessionPacket payload => some (sendSessionPacket link payload)
  | .fatal _ => none
  | .overflow _ => none

def Bridge.read (b : Bridge) (chunk : List UInt8) : Option (Bridge × List PPPoEPacket) :=
  b.ppp.map fun p => ({ b with ppp := (asyncReadFromPPP p chunk).1 },
    (asyncReadFromPPP p chunk).2.filterMap (frameFor b.link))

def Bridge.hear (b : Bridge) (packet : PPPoEPacket) : Option Bridge :=
  b.ppp.map fun _ => { b with given := b.given ++ asyncReadFromEth b.link packet }

-- The two processes of a session, and every frame that each has sent.
structure Line where
  ends : EndPoint → Bridge
  sent : EndPoint → List PPPoEPacket

-- The network may hand a frame on at any time, several times or never, and hands
-- on frames of others.
inductive Event where
  | read (side : EndPoint) (chunk : List UInt8)
  | hear (side : EndPoint) (number : Nat)
  | strange (side : EndPoint) (packet : PPPoEPacket)

def step (line : Line) : Event → Option Line
  | .read side chunk =>
      ((line.ends side).read chunk).map fun (b, frames) =>
        { ends := Function.update line.ends side b
          sent := Function.update line.sent side (line.sent side ++ frames) }
  | .hear side number =>
      (line.sent side.other)[number]?.bind fun packet =>
        ((line.ends side).hear packet).map fun b => { line with ends := Function.update line.ends side b }
  | .strange side packet =>
      ((line.ends side).hear packet).map fun b => { line with ends := Function.update line.ends side b }

def between (near far : Bridge) : Line :=
  { ends := EndPoint.pair near far
    sent := fun _ => [] }

def readBy (side : EndPoint) : Event → List UInt8
  | .read side' chunk => if side' = side then chunk else []
  | .hear .. => []
  | .strange .. => []

def heardBy (side : EndPoint) : Event → Option Nat
  | .read .. => none
  | .hear side' number => if side' = side then some number else none
  | .strange .. => none

def readAt (side : EndPoint) (visits : List (Line × Event)) : List UInt8 := Run.stream (readBy side) visits

def heardAt (side : EndPoint) (visits : List (Line × Event)) : List Nat := Run.observe (fun _ => heardBy side) visits

structure Bridge.Fresh (b : Bridge) : Prop where
  ppp : ∃ buffer, b.ppp = some (initPPP buffer)
  given : b.given = []

structure Joins (sender receiver : SessionLink) : Prop where
  dest : sender.peerEth = receiver.myEth
  source : sender.myEth = receiver.peerEth
  session : sender.session = receiver.session

-- No other host sends under the peer's address and the session's number.
def Genuine (line : Line) : Event → Prop
  | .read .. => True
  | .hear .. => True
  | .strange side packet =>
      ¬ (packet.hDest = (line.ends side).link.myEth ∧ packet.hSource = (line.ends side).link.peerEth ∧
        packet.session = (line.ends side).link.session)

instance (line : Line) (event : Event) : Decidable (Genuine line event) :=
  match event with
  | .read .. => .isTrue trivial
  | .hear .. => .isTrue trivial
  | .strange side packet => inferInstanceAs (Decidable (¬ (packet.hDest = (line.ends side).link.myEth ∧
      packet.hSource = (line.ends side).link.peerEth ∧ packet.session = (line.ends side).link.session)))

-- What pppd writes for a packet: anything between two packets that is no address
-- octet, the header as it is escaped, and the octets it chooses to escape.
structure Escapes (special : UInt8 → Bool) : Prop where
  esc : special frameEsc = true
  flag : special frameFlag = true
  notEsc : special (frameEsc ^^^ turnOctet) = false
  notFlag : special (frameFlag ^^^ turnOctet) = false

structure Written where
  gap : List UInt8
  payload : List UInt8

def Written.bytes (special : UInt8 → Bool) (w : Written) : List UInt8 :=
  w.gap ++ ([frameAddr, frameEsc, frameCtrl ^^^ frameEnc] ++ (w.payload ++ pppTail w.payload).flatMap
    (stuff special) ++ [frameFlag])

structure Written.Fits (w : Written) : Prop where
  gap : frameAddr ∉ w.gap
  payload : w.payload.length ≤ maxPppoePayload

section Scanning

variable (special : UInt8 → Bool) (escapes : Escapes special)

include escapes

theorem scan_octet (p : Ppp) (bytes : List UInt8) (c : UInt8) (holds : p.Holds bytes)
    (room : bytes.length < ethJumboLen - 4) :
    ∃ next, feed Ppp.scan p (stuff special c) = (some next, []) ∧ next.Holds (bytes ++ [c]) := by
  unfold stuff
  by_cases marked : special c = true
  · rw [if_pos marked]
    have notEsc : c ^^^ turnOctet ≠ frameEsc := turned_ne special frameEsc c escapes.notEsc marked
    have notFlag : c ^^^ turnOctet ≠ frameFlag := turned_ne special frameFlag c escapes.notFlag marked
    have escape : p.scan escapeOctet = (some { p with xorValue := frameEnc }, []) :=
      (scan_builds p _ holds.builds).trans (if_pos rfl)
    obtain ⟨next, scanned, there⟩ := build_octet { p with xorValue := frameEnc } bytes
      (c ^^^ turnOctet) holds.builds holds.size
      holds.prefix' room notEsc notFlag
    refine ⟨next, ?_, ?_⟩
    · rw [feed, escape]
      dsimp only
      rw [feed, scanned]
      rfl
    · have same : c ^^^ turnOctet ^^^ frameEnc = c := turn_turn c
      rwa [same] at there
  · rw [if_neg marked]
    have notEsc : c ≠ frameEsc := fun same => marked (same ▸ escapes.esc)
    have notFlag : c ≠ frameFlag := fun same => marked (same ▸ escapes.flag)
    obtain ⟨next, scanned, there⟩ := build_octet p bytes c holds.builds holds.size holds.prefix' room notEsc notFlag
    refine ⟨next, ?_, ?_⟩
    · rw [feed, scanned]
      rfl
    · rwa [holds.plain, UInt8.xor_zero] at there

omit escapes in
theorem scan_gap (gap : List UInt8) (p : Ppp) (waits : p.state = .waitforFrameAddr) (none' : frameAddr ∉ gap) :
    feed Ppp.scan p gap = (some p, []) := by
  induction gap with
  | nil => rfl
  | cons c rest ih =>
      have other : c ≠ frameAddr := fun same => none' (same ▸ List.mem_cons_self)
      have scanned : p.scan c = (some p, []) := by
        unfold Ppp.scan
        rw [waits]
        dsimp only
        rw [if_neg other]
      rw [feed, scanned]
      dsimp only
      rw [ih fun member => none' (List.mem_cons_of_mem _ member)]
      rfl

theorem scan_written (w : Written) (fits : w.Fits) (p : Ppp) (rests : p.Rests) :
    ∃ next, feed Ppp.scan p (w.bytes special) = (some next, [.sendSessionPacket w.payload]) ∧ next.Rests := by
  have opened : feed Ppp.scan p [frameAddr, frameEsc, frameCtrl ^^^ frameEnc] =
    (some { p with state := .buildingPacket }, []) := by
    obtain ⟨state, size, xorValue, array⟩ := p
    obtain rfl := rests.waits
    rfl
  have start : Ppp.Holds { p with state := .buildingPacket } [] := ⟨rfl, rests.size, rests.plain, rfl⟩
  have short := fits.payload
  have whole : (w.payload ++ pppTail w.payload).length ≤ ethJumboLen - 4 := by
    have most : ethJumboLen = 1508 := rfl
    have room : maxPppoePayload = 1502 := rfl
    rw [List.length_append, pppTail_length]
    omega
  obtain ⟨full, fed, holds⟩ := feed_stuffed Ppp.scan special Ppp.Holds (ethJumboLen - 4) (scan_octet special escapes)
    (w.payload ++ pppTail w.payload) _ [] start (by simpa using whole)
  rw [List.nil_append] at holds
  have size : full.packetSize = w.payload.length + 2 := by rw [holds.size, List.length_append, pppTail_length]
  have front : full.payload.toList.take w.payload.length = w.payload := by
    have cut := congrArg (List.take w.payload.length) holds.prefix'
    rwa [List.take_take, List.take_left, Nat.min_eq_left (by simp)] at cut
  have closed : feed Ppp.scan full [frameFlag] = (some full.reset, [.sendSessionPacket w.payload]) := by
    rw [feed, scan_builds full _ holds.builds]
    unfold Ppp.build
    rw [if_neg (by decide), if_pos rfl, if_neg (by omega), size, Nat.add_sub_cancel, front]
    rfl
  refine ⟨full.reset, ?_, ⟨rfl, rfl, rfl⟩⟩
  unfold Written.bytes
  rw [feed_append, scan_gap w.gap p rests.waits fits.gap]
  simp only [resume]
  rw [feed_append, feed_append, opened]
  dsimp only [resume]
  rw [fed]
  dsimp only [resume]
  rw [closed]
  rfl

theorem scan_prefix (ws : List Written) (fits : ∀ w ∈ ws, w.Fits) (buffer : Vector UInt8 ethJumboLen)
    (front : List UInt8)
    (part : front <+: ws.flatMap (Written.bytes special)) : ∃ next log,
    feed Ppp.scan (initPPP buffer) front = (some next, log) ∧
      log <+: ws.map (fun w => .sendSessionPacket w.payload) ∧
      (front = ws.flatMap (Written.bytes special) → log = ws.map fun w => .sendSessionPacket w.payload) := by
  obtain ⟨last, fed, _⟩ := feed_flatMap Ppp.scan Ppp.Rests (Written.bytes special)
    (fun w => .sendSessionPacket w.payload) ws
    (fun w member p rests => scan_written special escapes w (fits w member) p rests) (initPPP buffer) ⟨rfl, rfl, rfl⟩
  obtain ⟨back, joined⟩ := part
  have split := fed
  rw [← joined, feed_append] at split
  rcases first : feed Ppp.scan (initPPP buffer) front with ⟨_ | next, log⟩
  · rw [first] at split
    cases split
  · rw [first] at split
    have whole : log ++ (feed Ppp.scan next back).2 = _ := congrArg Prod.snd split
    refine ⟨next, log, rfl, ⟨_, whole⟩, fun all => ?_⟩
    rw [all, fed] at first
    exact (Prod.mk.inj first).2.symm

end Scanning

theorem hear_sent (sender receiver : SessionLink) (joins : Joins sender receiver) (payload : List UInt8) :
    asyncReadFromEth receiver (sendSessionPacket sender payload) = pppBuf
      (receiver.clampMss (sender.clampMss payload)) := by
  have same : sendSessionPacket sender payload = sessionPacket receiver (sender.clampMss payload) := by
    rw [sendSessionPacket, sessionPacket, joins.dest, joins.source, joins.session, sender.clampMssLength]
  rw [same]
  exact asyncReadFromEth_session receiver (sender.clampMss payload)

theorem hear_strange (link : SessionLink) (packet : PPPoEPacket)
    (other : ¬ (packet.hDest = link.myEth ∧ packet.hSource = link.peerEth ∧ packet.session = link.session)) :
    asyncReadFromEth link packet = [] := by
  unfold asyncReadFromEth
  split
  · rfl
  split
  · rfl
  split
  · rfl
  split
  · rfl
  split
  · rfl
  · next dest =>
      split
      · rfl
      · next source =>
          split
          · rfl
          · next session => exact absurd ⟨not_not.mp dest, not_not.mp source, not_not.mp session⟩ other

theorem readAt_snoc (side : EndPoint) (visits : List (Line × Event)) (line : Line) (event : Event) :
    readAt side (visits ++ [(line, event)]) = readAt side visits ++ readBy side event :=
  Run.stream_snoc (readBy side) visits line event

theorem heardAt_snoc (side : EndPoint) (visits : List (Line × Event)) (line : Line) (event : Event) :
    heardAt side (visits ++ [(line, event)]) = heardAt side visits ++ (heardBy side event).toList :=
  Run.observe_snoc (fun _ => heardBy side) visits line event

-- What pppd is written for a packet, and for those of some numbers.
def delivered (sender receiver : SessionLink) (payload : List UInt8) : List UInt8 :=
    pppBuf (receiver.clampMss (sender.clampMss payload))

def deliveredAll (sender receiver : SessionLink) (ws : List Written) (numbers : List Nat) : List UInt8 :=
  numbers.flatMap fun number => delivered sender receiver ((ws.map Written.payload).getD number [])

-- One direction of the session: what has been read, sent and written so far.
structure Carried (ws : List Written) (sender receiver : SessionLink) (buffer : Vector UInt8 ethJumboLen)
    (side : EndPoint)
    (visits : List (Line × Event)) (line : Line) : Prop where
  reads : ∃ next log, feed Ppp.scan (initPPP buffer) (readAt side visits) = (some next, log) ∧
    (line.ends side).ppp = some next ∧
    line.sent side = log.filterMap (frameFor sender)
  linkFrom : (line.ends side).link = sender
  linkTo : (line.ends side.other).link = receiver
  given : (line.ends side.other).given = deliveredAll sender receiver ws (heardAt side.other visits)
  bound : ∀ number ∈ heardAt side.other visits, number < ws.length

section Direction

variable (ws : List Written) (sender receiver : SessionLink) (buffer : Vector UInt8 ethJumboLen) (side : EndPoint)
  (special : UInt8 → Bool) (visits : List (Line × Event)) (line : Line) (event : Event)

theorem carried_at_receiver (b : Bridge) (sent : EndPoint → List PPPoEPacket)
    (carried : Carried ws sender receiver buffer side visits line)
    (unread : readBy side event = []) (unheard : heardBy side.other event = none) (unsent : sent side = line.sent side)
    (link : b.link = (line.ends side.other).link) (given : b.given = (line.ends side.other).given) :
    Carried ws sender receiver buffer side (visits ++ [(line, event)])
      ⟨Function.update line.ends side.other b, sent⟩ := by
  obtain ⟨⟨next, log, fed, runs, sends⟩, sender', receiver', given', bound⟩ := carried
  have away : Function.update line.ends side.other b side = line.ends side := EndPoint.update_at_other _ side _
  have there : Function.update line.ends side.other b side.other = b := EndPoint.update_here ..
  have heard : heardAt side.other (visits ++ [(line, event)]) = heardAt side.other visits := by
    rw [heardAt_snoc, unheard]
    exact List.append_nil _
  refine ⟨⟨next, log, ?_, (congrArg Bridge.ppp away).trans runs, unsent.trans sends⟩,
    (congrArg Bridge.link away).trans sender',
    (congrArg Bridge.link there).trans (link.trans receiver'), ?_, ?_⟩
  · rw [readAt_snoc, unread, List.append_nil]
    exact fed
  · rw [heard, ← given', ← given]
    exact congrArg Bridge.given there
  · rw [heard]
    exact bound

theorem carried_at_sender (b : Bridge) (carried : Carried ws sender receiver buffer side visits line)
    (unread : readBy side event = [])
    (unheard : heardBy side.other event = none) (link : b.link = (line.ends side).link)
    (ppp : b.ppp = (line.ends side).ppp) :
    Carried ws sender receiver buffer side (visits ++ [(line, event)])
      { line with ends := Function.update line.ends side b } := by
  obtain ⟨⟨next, log, fed, runs, sends⟩, sender', receiver', given, bound⟩ := carried
  have there : Function.update line.ends side b side = b := EndPoint.update_here ..
  have away : Function.update line.ends side b side.other = line.ends side.other := EndPoint.update_other _ side _
  have heard : heardAt side.other (visits ++ [(line, event)]) = heardAt side.other visits := by
    rw [heardAt_snoc, unheard]
    exact List.append_nil _
  refine ⟨⟨next, log, ?_, (congrArg Bridge.ppp there).trans (ppp.trans runs), sends⟩,
    (congrArg Bridge.link there).trans (link.trans sender'),
    (congrArg Bridge.link away).trans receiver', ?_, ?_⟩
  · rw [readAt_snoc, unread, List.append_nil]
    exact fed
  · rw [heard]
    exact (congrArg Bridge.given away).trans given
  · rw [heard]
    exact bound

theorem sent_frame (log : List Scanned) (first : log <+: ws.map fun w => .sendSessionPacket w.payload) (number : Nat)
    (packet : PPPoEPacket)
    (there : (log.filterMap (frameFor sender))[number]? = some packet) :
    ∃ payload, (ws.map Written.payload)[number]? = some payload ∧ packet = sendSessionPacket sender payload := by
  obtain ⟨more, whole⟩ := first
  have frames := congrArg (List.filterMap (frameFor sender)) whole
  rw [List.filterMap_append, List.filterMap_map] at frames
  have all : ws.filterMap (frameFor sender ∘ fun w => .sendSessionPacket w.payload) = (ws.map Written.payload).map
    (sendSessionPacket sender) := by
    rw [List.map_map, ← List.filterMap_eq_map]
    rfl
  have inside : (log.filterMap (frameFor sender) ++ more.filterMap (frameFor sender))[number]? = some packet :=
    (List.getElem?_append_left (List.getElem?_eq_some_iff.mp there).1).trans there
  rw [frames, all, List.getElem?_map] at inside
  obtain ⟨payload, found, rfl⟩ := Option.map_eq_some_iff.mp inside
  exact ⟨payload, found, rfl⟩

variable (escapes : Escapes special) (fits : ∀ w ∈ ws, w.Fits)

include escapes fits

theorem own_read_carried (chunk : List UInt8) (b : Bridge) (frames : List PPPoEPacket)
    (carried : Carried ws sender receiver buffer side visits line)
    (part : readAt side visits ++ chunk <+: ws.flatMap (Written.bytes special))
    (read : (line.ends side).read chunk = some (b, frames)) :
    Carried ws sender receiver buffer side (visits ++ [(line, .read side chunk)])
      ⟨Function.update line.ends side b, Function.update line.sent side (line.sent side ++ frames)⟩ := by
  obtain ⟨⟨next, log, fed, runs, sends⟩, sender', receiver', given, bound⟩ := carried
  have away : Function.update line.ends side b side.other = line.ends side.other := EndPoint.update_other _ side _
  have own : readBy side (.read side chunk) = chunk := if_pos rfl
  have heard : heardAt side.other (visits ++ [(line, .read side chunk)]) = heardAt side.other visits := by
    rw [heardAt_snoc]
    exact List.append_nil _
  obtain ⟨next', log', fed', _, _⟩ := scan_prefix special escapes ws fits buffer _ part
  have split := fed'
  rw [feed_append, fed] at split
  rcases more : feed Ppp.scan next chunk with ⟨found, log''⟩
  simp only [resume, more] at split
  obtain ⟨rfl, rfl⟩ := Prod.mk.inj split
  unfold Bridge.read at read
  rw [runs, Option.map_some, asyncReadFromPPP_feed, more] at read
  obtain ⟨rfl, rfl⟩ := Prod.mk.inj (Option.some.inj read)
  refine ⟨⟨next', log ++ log'', ?_, (congrArg Bridge.ppp (EndPoint.update_here line.ends side _)).trans rfl, ?_⟩,
    (congrArg Bridge.link (EndPoint.update_here line.ends side _)).trans sender',
    (congrArg Bridge.link away).trans receiver', ?_, ?_⟩
  · rw [readAt_snoc, own]
    exact fed'
  · rw [List.filterMap_append, ← sends, ← sender']
    exact EndPoint.update_here ..
  · rw [heard]
    exact (congrArg Bridge.given away).trans given
  · rw [heard]
    exact bound

variable (joins : Joins sender receiver)

include joins

theorem own_hear_carried (number : Nat) (packet : PPPoEPacket) (b : Bridge)
    (carried : Carried ws sender receiver buffer side visits line)
    (part : readAt side visits <+: ws.flatMap (Written.bytes special)) (sent : (line.sent side)[number]? = some packet)
    (hears : (line.ends side.other).hear packet = some b) :
    Carried ws sender receiver buffer side (visits ++ [(line, .hear side.other number)])
      { line with ends := Function.update line.ends side.other b } := by
  obtain ⟨⟨next, log, fed, runs, sends⟩, sender', receiver', given, bound⟩ := carried
  obtain ⟨_, log', fed', first, _⟩ := scan_prefix special escapes ws fits buffer _ part
  obtain ⟨_, rfl⟩ := Prod.mk.inj (fed'.symm.trans fed)
  obtain ⟨payload, whole, rfl⟩ := sent_frame ws sender log' first number packet (sends ▸ sent)
  obtain ⟨_, _, rfl⟩ := Option.map_eq_some_iff.mp hears
  have away : Function.update line.ends side.other _ side = line.ends side := EndPoint.update_at_other line.ends side
    { line.ends side.other with
      given := (line.ends side.other).given ++ asyncReadFromEth (line.ends side.other).link
        (sendSessionPacket sender payload) }
  have heard : heardAt side.other (visits ++ [(line, .hear side.other number)]) = heardAt side.other visits ++
    [number] := by
    rw [heardAt_snoc, heardBy, if_pos rfl]
    rfl
  refine ⟨⟨next, log', ?_, (congrArg Bridge.ppp away).trans runs, sends⟩, (congrArg Bridge.link away).trans sender',
    (congrArg Bridge.link (EndPoint.update_here line.ends side.other _)).trans receiver', ?_, ?_⟩
  · rw [readAt_snoc]
    exact (congrArg _ (List.append_nil _)).trans fed
  · refine (congrArg Bridge.given (EndPoint.update_here ..)).trans ?_
    dsimp only
    rw [heard, deliveredAll, List.flatMap_append, List.flatMap_singleton, List.getD_eq_getElem?_getD, whole,
      Option.getD_some, given,
      receiver', hear_sent sender receiver joins]
    rfl
  · rw [heard]
    intro other arrived
    rcases List.mem_append.mp arrived with old | new
    · exact bound other old
    · have inside := (List.getElem?_eq_some_iff.mp whole).1
      rw [List.length_map] at inside
      rw [List.mem_singleton.mp new]
      exact inside

theorem step_carried (after : Line) (carried : Carried ws sender receiver buffer side visits line)
    (genuine : Genuine line event)
    (part : readAt side (visits ++ [(line, event)]) <+: ws.flatMap (Written.bytes special))
    (took : step line event = some after) :
    Carried ws sender receiver buffer side (visits ++ [(line, event)]) after := by
  rw [readAt_snoc] at part
  cases event with
  | read side' chunk =>
      obtain ⟨⟨b, frames⟩, read, rfl⟩ := Option.map_eq_some_iff.mp took
      by_cases here : side' = side
      · subst here
        rw [readBy, if_pos rfl] at part
        exact own_read_carried ws sender receiver buffer side' special visits line escapes fits chunk b frames carried
          part read
      · obtain rfl := EndPoint.other_of_ne side side' here
        obtain ⟨p, _, same⟩ := Option.map_eq_some_iff.mp read
        obtain ⟨rfl, rfl⟩ := Prod.mk.inj same
        exact carried_at_receiver ws sender receiver buffer side visits line _ _ _ carried
          (if_neg (EndPoint.other_ne side)) rfl
          (EndPoint.update_at_other _ side _) rfl rfl
  | hear side' number =>
      obtain ⟨packet, sent, took⟩ := Option.bind_eq_some_iff.mp took
      obtain ⟨b, hears, rfl⟩ := Option.map_eq_some_iff.mp took
      by_cases here : side' = side
      · subst here
        obtain ⟨_, _, rfl⟩ := Option.map_eq_some_iff.mp hears
        exact carried_at_sender ws sender receiver buffer side' visits line _ _ carried rfl
          (if_neg (EndPoint.other_ne side').symm) rfl rfl
      · obtain rfl := EndPoint.other_of_ne side side' here
        rw [EndPoint.other_other] at sent
        rw [readBy, List.append_nil] at part
        exact own_hear_carried ws sender receiver buffer side special visits line escapes fits joins number packet b
          carried part sent hears
  | strange side' packet =>
      obtain ⟨b, hears, rfl⟩ := Option.map_eq_some_iff.mp took
      obtain ⟨_, _, rfl⟩ := Option.map_eq_some_iff.mp hears
      by_cases here : side' = side
      · subst here
        exact carried_at_sender ws sender receiver buffer side' visits line _ _ carried rfl rfl rfl rfl
      · obtain rfl := EndPoint.other_of_ne side side' here
        refine carried_at_receiver ws sender receiver buffer side visits line _ _ _ carried rfl rfl rfl rfl ?_
        rw [hear_strange _ packet genuine]
        exact List.append_nil _

end Direction

section Whole

variable (ws : List Written) (near far : Bridge) (side : EndPoint) (special : UInt8 → Bool)
  (fresh : ∀ side, ((between near far).ends side).Fresh) (escapes : Escapes special) (fits : ∀ w ∈ ws, w.Fits)
  (joins : Joins ((between near far).ends side).link ((between near far).ends side.other).link)

include fresh escapes fits joins

theorem run_carried (visits : List (Line × Event)) (line : Line) (run : Run step (between near far) visits line)
    (genuine : Run.Meets Genuine visits) (part : readAt side visits <+: ws.flatMap (Written.bytes special)) :
    ∃ buffer, Carried ws ((between near far).ends side).link
      ((between near far).ends side.other).link buffer side visits line := by
  obtain ⟨buffer, starts⟩ := (fresh side).ppp
  refine ⟨buffer, ?_⟩
  induction run with
  | start =>
      exact ⟨⟨_, [], rfl, starts, rfl⟩, rfl, rfl, (fresh side.other).given, fun _ member =>
        absurd member List.not_mem_nil⟩
  | snoc visits line after event _ took ih =>
      obtain ⟨earlier, last⟩ := (Run.meets_snoc Genuine visits line event).mp genuine
      have part' : readAt side visits <+: ws.flatMap (Written.bytes special) := by
        rw [readAt_snoc] at part
        exact (List.prefix_append _ _).trans part
      exact step_carried ws _ _ buffer side special visits line event escapes fits joins after
        (ih earlier part') last part took

end Whole

-- However pppd's bytes are cut into reads, and whatever else is on the segment:
-- pppd at the other end is written the packets of the frames that arrive, each
-- clamped at both ends, in the order in which they arrive.
theorem line_carries (near far : Bridge) (side : EndPoint) (special : UInt8 → Bool) (ws : List Written)
    (fresh : ∀ side, ((between near far).ends side).Fresh) (escapes : Escapes special) (fits : ∀ w ∈ ws, w.Fits)
    (joins : Joins ((between near far).ends side).link ((between near far).ends side.other).link)
    (visits : List (Line × Event)) (line : Line)
    (run : Run step (between near far) visits line) (genuine : Run.Meets Genuine visits)
    (part : readAt side visits <+: ws.flatMap (Written.bytes special)) :
    (∀ number ∈ heardAt side.other visits, number < ws.length) ∧
      (line.ends side.other).given =
        deliveredAll ((between near far).ends side).link ((between near far).ends side.other).link ws
          (heardAt side.other visits) ∧
      (InOrder (heardAt side.other visits) → (line.ends side.other).given =
        ((ws.map Written.payload).take (heardAt side.other visits).length).flatMap
          (delivered ((between near far).ends side).link ((between near far).ends side.other).link)) ∧
      (line.ends side).ppp.isSome ∧
      (readAt side visits = ws.flatMap (Written.bytes special) →
        line.sent side = (ws.map Written.payload).map (sendSessionPacket ((between near far).ends side).link)) := by
  obtain ⟨buffer, carried⟩ := run_carried ws near far side special fresh escapes fits joins visits line run genuine part
  obtain ⟨next, log, fed, runs, sends⟩ := carried.reads
  refine ⟨carried.bound, carried.given, fun ordered => ?_, by rw [runs]; rfl, fun whole => ?_⟩
  · refine carried.given.trans (inOrder_take _ [] _ _ ordered fun number member => ?_)
    rw [List.length_map]
    exact carried.bound number member
  · obtain ⟨_, log', fed', _, all⟩ := scan_prefix special escapes ws fits buffer _ part
    obtain ⟨_, rfl⟩ := Prod.mk.inj (fed'.symm.trans fed)
    rw [sends, all whole, List.filterMap_map, List.map_map, ← List.filterMap_eq_map]
    rfl

-- A packet that is read in two pieces, with a frame of another session between.
def nearBridge : Bridge := ⟨plainLink, some (initPPP (Vector.replicate _ 0)), []⟩

def farBridge : Bridge :=
  ⟨{ plainLink with myEth := plainLink.peerEth, peerEth := plainLink.myEth }, some (initPPP (Vector.replicate _ 0)), []⟩

def oneWritten : Written := ⟨[frameFlag, frameFlag], [0x21, 0x7d, 0x45]⟩

def otherFrame : PPPoEPacket := { sendSessionPacket plainLink [0x99] with session := 0x0200 }

def lineEvents : List Event :=
  [.read .near ((oneWritten.bytes Pppoe.escapes).take 7), .strange .far otherFrame,
    .read .near ((oneWritten.bytes Pppoe.escapes).drop 7),
    .hear .far 0]

theorem line_carries_one : ∃ line, Run step (between nearBridge farBridge)
    (Run.trace step (between nearBridge farBridge) lineEvents) line ∧
    (line.ends .far).given = pppBuf [0x21, 0x7d, 0x45] := by
  obtain ⟨line, played⟩ : ∃ line, Run.play step (between nearBridge farBridge) lineEvents = some line :=
    Option.isSome_iff_exists.mp (by decide +kernel)
  have run := Run.of_play _ line played
  obtain ⟨_, _, given, _⟩ := line_carries nearBridge farBridge .near Pppoe.escapes [oneWritten]
    (fun side => by cases side <;> exact ⟨⟨_, rfl⟩, rfl⟩) ⟨by decide, by decide, by decide, by decide⟩
    (fun w member => by
      obtain rfl := List.mem_singleton.mp member
      exact ⟨by decide, by decide⟩) ⟨rfl, rfl, rfl⟩ _ line run (by decide +kernel) (by decide +kernel)
  have heard : heardAt EndPoint.near.other (Run.trace step (between nearBridge farBridge) lineEvents) = [0] := by
    decide +kernel
  have shape := given (by unfold InOrder; exact heard)
  rw [heard] at shape
  exact ⟨line, run, shape⟩

end ZyAgf.Pppoe.Session
