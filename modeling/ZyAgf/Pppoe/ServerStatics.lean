import ZyAgf.Pppoe.ServerAccept

set_option autoImplicit false

namespace ZyAgf.Pppoe.Server

-- A tag of the file scope as memory holds it. Clearing it clears the type only, and
-- a tag that is copied in writes over the front of what was there.
structure TagBuffer where
  type : Nat
  length : Nat
  payload : List UInt8
  fits : length ≤ payload.length

namespace TagBuffer

def clear (buffer : TagBuffer) : TagBuffer := { buffer with type := 0 }

def fill (buffer : TagBuffer) (type : Nat) (data : List UInt8) : TagBuffer where
  type := type
  length := data.length
  payload := data ++ buffer.payload.drop data.length
  fits := by simp

def bytes (buffer : TagBuffer) : List UInt8 :=
  [UInt8.ofNat (buffer.type / 256), UInt8.ofNat buffer.type, UInt8.ofNat (buffer.length / 256),
    UInt8.ofNat buffer.length] ++
    buffer.payload.take buffer.length

def names (buffer : TagBuffer) (serviceNames : List (List UInt8)) : Bool :=
  serviceNames.any fun name => buffer.length == name.length && buffer.payload.take buffer.length == name

-- What goes into a reply, if the type says that the tag is there.
def copied (buffer : TagBuffer) : Option (List UInt8) := if buffer.type ≠ 0 then some buffer.bytes else none

def view (buffer : TagBuffer) : Option PPPoETag :=
  if buffer.type = 0 then none else some ⟨buffer.type, buffer.payload.take buffer.length⟩

end TagBuffer

structure Globals where
  relayId : TagBuffer
  hostUniq : TagBuffer
  receivedCookie : TagBuffer
  requestedService : TagBuffer
  maxPppPayload : Nat

-- The server together with its file-scope tags. The statics of the server play no
-- part here.
structure Process where
  server : ServerState
  globals : Globals

def zeroBuffer : TagBuffer := ⟨0, 0, List.replicate ethJumboLen 0, Nat.zero_le _⟩

def initProcess (cfg : Config) (order : List Nat) : Process :=
  ⟨initServer cfg order, ⟨zeroBuffer, zeroBuffer, zeroBuffer, zeroBuffer, 0⟩⟩

def Reply.putBuffer (r : Reply) (buffer : TagBuffer) : Reply :=
  match buffer.copied with
  | some bytes => r.put bytes
  | none => r

def padoReply (cfg : Config) (ethif : Interface) (source : Mac) (mru : Nat) (relayId hostUniq : Option (List UInt8)) :
    Option Reply :=
  let r := newReply source ethif.mac codePADO 0
  let put (r : Option Reply) (bytes : List UInt8) : Option Reply :=
    r.bind fun r => if r.noRoom bytes.length then none else some (r.put bytes)
  let r := put (some r) (tagBytes ⟨0x0102, cfg.acName⟩)
  let r := if mru ≠ 0 then put r (tagBytes (mruTag mru)) else r
  let names := if cfg.serviceNames = [] then [[]] else cfg.serviceNames
  let r := names.foldl (fun r name => put r (tagBytes ⟨tagServiceName, name⟩)) r
  let r := put r (tagBytes ⟨tagAcCookie, genCookie cfg source ethif.mac⟩)
  let r := match relayId with
    | some bytes => put r bytes
    | none => r
  let r := match hostUniq with
    | some bytes => put r bytes
    | none => r
  r.map Reply.send

-- The static is shrunk in place, whether or not a tag comes of it.
def shrinkPayload (ethif : Interface) (maxPppPayload : Nat) : Nat :=
  if maxPppPayload > ethPppoeMtu ∧ ethif.mtu > 0 then
    let m := if (maxPppPayload : Int) > (ethif.mtu : Int) - totalOverhead then
        (((ethif.mtu : Int) - totalOverhead) % 65536).toNat else maxPppPayload
    if m > ethJumboLen - totalOverhead then ethJumboLen - totalOverhead else m
  else maxPppPayload

namespace Globals

def parsePADITags (globals : Globals) (tag : PPPoETag) : Globals :=
  if tag.type = tagPppMaxPayload then
    if tag.payload.length = 2 then { globals with maxPppPayload := maxPayloadOf tag.payload } else globals
  else if tag.type = tagServiceName then { globals with requestedService := globals.requestedService.fill tag.type tag.payload }
  else if tag.type = tagRelaySessionId then { globals with relayId := globals.relayId.fill tag.type tag.payload }
  else if tag.type = tagHostUniq then { globals with hostUniq := globals.hostUniq.fill tag.type tag.payload }
  else globals

def parsePADRTags (globals : Globals) (tag : PPPoETag) : Globals :=
  if tag.type = tagPppMaxPayload then
    if tag.payload.length = 2 then { globals with maxPppPayload := maxPayloadOf tag.payload } else globals
  else if tag.type = tagRelaySessionId then { globals with relayId := globals.relayId.fill tag.type tag.payload }
  else if tag.type = tagHostUniq then { globals with hostUniq := globals.hostUniq.fill tag.type tag.payload }
  else if tag.type = tagAcCookie then { globals with receivedCookie := globals.receivedCookie.fill tag.type tag.payload }
  else if tag.type = tagServiceName then { globals with requestedService := globals.requestedService.fill tag.type tag.payload }
  else globals

def sendErrorPADS (globals : Globals) (source dest : Mac) (errorTag : Nat) (errorMsg : String) : Reply :=
  let r := newReply dest source codePADS (htons 0)
  let r := r.put (tagBytes ⟨errorTag, textBytes errorMsg⟩)
  let r := r.putBuffer globals.relayId
  let r := r.putBuffer globals.hostUniq
  r.send

def childPADS (cfg : Config) (globals : Globals) (ethif : Interface) (dest : Mac) (sess : UInt16) : Reply :=
  let service :=
    if globals.requestedService.length = 0 ∧ cfg.serviceNames ≠ [] then
      globals.requestedService.fill globals.requestedService.type (cfg.serviceNames.headD [])
    else globals.requestedService
  let mru := mruFor ethif globals.maxPppPayload
  let r := newReply dest ethif.mac codePADS sess
  let r := r.put service.bytes
  if mru ≠ 0 ∧ r.noRoom (tagBytes (mruTag mru)).length then r
  else
    let r := if mru ≠ 0 then r.put (tagBytes (mruTag mru)) else r
    let r := r.putBuffer globals.relayId
    let r := r.putBuffer globals.hostUniq
    r.send

def cookieKosher (cfg : Config) (globals : Globals) (ethif : Interface) (source : Mac) : Bool :=
  globals.receivedCookie.type != 0 && globals.receivedCookie.length == cookieLen &&
    globals.receivedCookie.payload.take cookieLen == genCookie cfg source ethif.mac

end Globals

namespace Process

def processPADI (cfg : Config) (d : Process) (ethif : Interface) (packet : PPPoEPacket) : Process × List Reply :=
  if d.server.draining ≠ .off then (d, [])
  else if notUnicast packet.hSource then (d, [])
  else if cfg.ignorePADIIfNoFreeSessions ∧ d.server.freeSessions = none then (d, [])
  else if cfg.maxSessionsPerMac ≠ 0 ∧ countSessionsFromMac cfg d.server packet.hSource ≥
    cfg.maxSessionsPerMac then (d, [])
  else
    let globals := { d.globals with
      relayId := d.globals.relayId.clear
      hostUniq := d.globals.hostUniq.clear
      requestedService := d.globals.requestedService.clear
      maxPppPayload := 0 }
    let globals := (readTags packet).foldl Globals.parsePADITags globals
    let requested := globals.requestedService
    if requested.type ≠ 0 ∧ requested.length ≠ 0 ∧
      requested.names cfg.serviceNames = false then ({ d with globals := globals }, [])
    else
      let noRoom := (tagBytes ⟨0x0102, cfg.acName⟩).length > maxPppoePayload
      let shrunk := if noRoom then globals.maxPppPayload else shrinkPayload ethif globals.maxPppPayload
      let r := padoReply cfg ethif packet.hSource
        (mruFor ethif globals.maxPppPayload) globals.relayId.copied globals.hostUniq.copied
      ({ d with globals := { globals with maxPppPayload := shrunk } }, r.toList)

def processPADR (cfg : Config) (d : Process) (face : Nat) (ethif : Interface) (packet : PPPoEPacket)
    (fork : Option Nat) :
    Process × List Reply :=
  let globals := { d.globals with
    relayId := d.globals.relayId.clear
    hostUniq := d.globals.hostUniq.clear
    receivedCookie := d.globals.receivedCookie.clear
    requestedService := d.globals.requestedService.clear }
  if padrAdmitted cfg d.server ethif packet = false then ({ d with globals := globals }, [])
  else
    let globals := (readTags packet).foldl Globals.parsePADRTags { globals with maxPppPayload := 0 }
    let d := { d with globals := globals }
    if globals.cookieKosher cfg ethif packet.hSource = false then (d, [])
    else
      let requested := globals.requestedService
      if requested.type = 0 then
        (d, [globals.sendErrorPADS ethif.mac packet.hSource tagServiceNameError noServiceName])
      else if requested.length ≠ 0 ∧ requested.names cfg.serviceNames = false then
        (d, [globals.sendErrorPADS ethif.mac packet.hSource tagServiceNameError invalidServiceName])
      else
        match pppoeAllocSession d.server with
        | none => (d, [globals.sendErrorPADS ethif.mac packet.hSource tagAcSystemError noClientSlots])
        | some (ses, s) =>
            let s := s.updSession ses fun x =>
              { x with eth := packet.hSource, ethif := some face, recvdPadt := false, sentPadt := false }
            match fork with
            | none =>
                ({ d with server := pppoeFreeSession cfg s ses },
                  [globals.sendErrorPADS ethif.mac packet.hSource tagAcSystemError unableToStart])
            | some child =>
                let s := s.updSession ses fun x => { x with pid := child }
                ({ d with server := { s with children := (child, ses) :: s.children } },
                  [globals.childPADS cfg ethif packet.hSource (s.sessions ses).sess])

def besides (d : Process) (result : ServerState × List Sent) : Process × List Sent :=
    ({ d with server := result.1 }, result.2)

def framesOf (face : Nat) (result : Process × List Reply) : Process × List Sent :=
  (result.1, result.2.flatMap (Reply.frames face))

def serverProcessPacket (cfg : Config) (d : Process) (face : Nat) (ethif : Interface) (packet : PPPoEPacket)
    (fork : Option Nat) : Option (Process × List Sent) :=
  if pppoeVer packet.vertype ≠ 1 ∨ pppoeType packet.vertype ≠ 1 then some (d, [])
  else if packet.length > packet.payload.length then some (d, [])
  else if packet.code = codePADI then some (framesOf face (d.processPADI cfg ethif packet))
  else if packet.code = codePADR then some (framesOf face (d.processPADR cfg face ethif packet fork))
  else if packet.code = codePADT then (processPADT cfg d.server ethif packet).map d.besides
  else some (d, [])

def handle (cfg : Config) (d : Process) : Event → Option (Process × List Sent)
  | .packet face frame fork =>
      if fork.any (fun pid => pid == 0 || (d.server.children.map (·.1)).contains pid) then none
      else cfg.interfaces[face]?.bind fun ethif => d.serverProcessPacket cfg face ethif frame fork
  | event => (Server.handle cfg d.server event).map d.besides

def step (cfg : Config) (d : Process) (event : Event) : Option (Process × List Sent) :=
  if d.server.running = false then none
  else
    (d.handle cfg event).bind fun handled =>
      if handled.1.server.draining = .quit ∧ handled.1.server.numActiveSessions = 0 ∧ handled.1.server.running then
        (killAllSessions cfg handled.1.server).map fun ended =>
          ({ handled.1 with server := ended.1 }, handled.2 ++ ended.2)
      else some handled

def next (cfg : Config) (d : Process) (event : Event) : Option Process := (d.step cfg event).map (·.1)

end Process

@[simp] theorem clear_view (buffer : TagBuffer) : buffer.clear.view = none := rfl

theorem fill_view (buffer : TagBuffer) (type : Nat) (data : List UInt8) (tagged : type ≠ 0) :
    (buffer.fill type data).view = some ⟨type, data⟩ := by
  unfold TagBuffer.view
  rw [if_neg (show (buffer.fill type data).type ≠ 0 from tagged)]
  show some (PPPoETag.mk type ((data ++ buffer.payload.drop data.length).take data.length)) = _
  rw [List.take_left]

theorem view_none (buffer : TagBuffer) (absent : buffer.view = none) : buffer.type = 0 := by
  by_contra tagged
  unfold TagBuffer.view at absent
  rw [if_neg tagged] at absent
  cases absent

theorem view_some (buffer : TagBuffer) (tag : PPPoETag) (present : buffer.view = some tag) :
    buffer.type ≠ 0 ∧ buffer.type = tag.type ∧ buffer.length = tag.payload.length ∧
      buffer.payload.take buffer.length = tag.payload ∧ buffer.bytes = tagBytes tag := by
  unfold TagBuffer.view at present
  split at present
  · cases present
  next tagged =>
    obtain rfl := Option.some.inj present
    have size : (buffer.payload.take buffer.length).length = buffer.length := by
      rw [List.length_take]
      exact Nat.min_eq_left buffer.fits
    refine ⟨tagged, rfl, size.symm, rfl, ?_⟩
    unfold TagBuffer.bytes tagBytes
    rw [size]

theorem copied_view (buffer : TagBuffer) : buffer.copied = buffer.view.map tagBytes := by
  unfold TagBuffer.copied
  cases seen : buffer.view with
  | none => rw [if_neg (not_not_intro (view_none buffer seen)), Option.map_none]
  | some tag =>
      obtain ⟨tagged, _, _, _, bytes⟩ := view_some buffer tag seen
      rw [if_pos tagged, bytes, Option.map_some]

theorem putBuffer_view (r : Reply) (buffer : TagBuffer) : r.putBuffer buffer = r.putTag buffer.view := by
  unfold Reply.putBuffer
  rw [copied_view]
  cases buffer.view <;> rfl

theorem names_view (buffer : TagBuffer) (tag : PPPoETag) (seen : buffer.view = some tag)
    (serviceNames : List (List UInt8)) :
    buffer.names serviceNames = true ↔ tag.payload ∈ serviceNames := by
  obtain ⟨_, _, length, payload, _⟩ := view_some buffer tag seen
  unfold TagBuffer.names
  rw [payload, length, List.any_eq_true]
  constructor
  · rintro ⟨name, member, same⟩
    rw [Bool.and_eq_true, beq_iff_eq, beq_iff_eq] at same
    exact same.2 ▸ member
  · exact fun member => ⟨_, member, by simp⟩

structure Views (globals : Globals) (statics : Statics) : Prop where
  relayId : globals.relayId.view = statics.relayId
  hostUniq : globals.hostUniq.view = statics.hostUniq
  receivedCookie : globals.receivedCookie.view = statics.receivedCookie
  requestedService : globals.requestedService.view = statics.requestedService

-- While a packet is handled the payload size is the same, too.
structure Mirrors (globals : Globals) (statics : Statics) : Prop where
  views : Views globals statics
  maxPppPayload : globals.maxPppPayload = statics.maxPppPayload

theorem parsePADITags_mirrors (globals : Globals) (statics : Statics) (mirrors : Mirrors globals statics)
    (tag : PPPoETag) :
    Mirrors (globals.parsePADITags tag) (parsePADITags statics tag) := by
  obtain ⟨⟨relay, host, cookie, service⟩, size⟩ := mirrors
  unfold Globals.parsePADITags parsePADITags
  split
  · split
    · exact ⟨⟨relay, host, cookie, service⟩, rfl⟩
    · exact ⟨⟨relay, host, cookie, service⟩, size⟩
  split
  next here => exact ⟨⟨relay, host, cookie, fill_view _ _ _ (by rw [here]; decide)⟩, size⟩
  split
  next here => exact ⟨⟨fill_view _ _ _ (by rw [here]; decide), host, cookie, service⟩, size⟩
  split
  next here => exact ⟨⟨relay, fill_view _ _ _ (by rw [here]; decide), cookie, service⟩, size⟩
  next => exact ⟨⟨relay, host, cookie, service⟩, size⟩

theorem parsePADRTags_mirrors (globals : Globals) (statics : Statics) (mirrors : Mirrors globals statics)
    (tag : PPPoETag) :
    Mirrors (globals.parsePADRTags tag) (parsePADRTags statics tag) := by
  obtain ⟨⟨relay, host, cookie, service⟩, size⟩ := mirrors
  unfold Globals.parsePADRTags parsePADRTags
  split
  · split
    · exact ⟨⟨relay, host, cookie, service⟩, rfl⟩
    · exact ⟨⟨relay, host, cookie, service⟩, size⟩
  split
  next here => exact ⟨⟨fill_view _ _ _ (by rw [here]; decide), host, cookie, service⟩, size⟩
  split
  next here => exact ⟨⟨relay, fill_view _ _ _ (by rw [here]; decide), cookie, service⟩, size⟩
  split
  next here => exact ⟨⟨relay, host, fill_view _ _ _ (by rw [here]; decide), service⟩, size⟩
  split
  next here => exact ⟨⟨relay, host, cookie, fill_view _ _ _ (by rw [here]; decide)⟩, size⟩
  next => exact ⟨⟨relay, host, cookie, service⟩, size⟩

theorem foldl_mirrors (read : Globals → PPPoETag → Globals) (parse : Statics → PPPoETag → Statics)
    (step : ∀ globals statics, Mirrors globals statics → ∀ tag, Mirrors (read globals tag) (parse statics tag))
    (tags : List PPPoETag) (globals : Globals) (statics : Statics) (mirrors : Mirrors globals statics) :
    Mirrors (tags.foldl read globals) (tags.foldl parse statics) := by
  induction tags generalizing globals statics with
  | nil => exact mirrors
  | cons tag tags ih => exact ih _ _ (step globals statics mirrors tag)

theorem sendErrorPADS_mirrors (globals : Globals) (statics : Statics) (mirrors : Mirrors globals statics)
    (source dest : Mac)
    (errorTag : Nat) (errorMsg : String) :
    globals.sendErrorPADS source dest errorTag errorMsg = sendErrorPADS statics source dest errorTag errorMsg := by
  unfold Globals.sendErrorPADS sendErrorPADS
  simp only [putBuffer_view, mirrors.views.relayId, mirrors.views.hostUniq]

theorem cookieKosher_mirrors (cfg : Config) (globals : Globals) (statics : Statics) (mirrors : Mirrors globals statics)
    (ethif : Interface) (source : Mac) : globals.cookieKosher cfg ethif source = cookieKosher cfg statics ethif
    source := by
  unfold Globals.cookieKosher cookieKosher
  rw [← mirrors.views.receivedCookie]
  cases seen : globals.receivedCookie.view with
  | none =>
      rw [view_none _ seen]
      rfl
  | some cookie =>
      obtain ⟨tagged, _, length, payload, _⟩ := view_some _ cookie seen
      dsimp only
      rw [bne_iff_ne.mpr tagged, Bool.true_and, length]
      by_cases sized : cookie.payload.length = cookieLen
      · rw [← payload, length, sized]
      · rw [beq_eq_false_iff_ne.mpr sized, Bool.false_and, Bool.false_and]

theorem childPADS_mirrors (cfg : Config) (globals : Globals) (statics : Statics) (mirrors : Mirrors globals statics)
    (requested : PPPoETag) (seen : globals.requestedService.view = some requested) (ethif : Interface) (dest : Mac)
    (sess : UInt16) :
    globals.childPADS cfg ethif dest sess = childPADS cfg statics ethif dest sess requested := by
  obtain ⟨tagged, type, length, _, bytes⟩ := view_some _ requested seen
  have service : (if globals.requestedService.length = 0 ∧ cfg.serviceNames ≠ [] then
        globals.requestedService.fill globals.requestedService.type (cfg.serviceNames.headD [])
      else globals.requestedService).bytes =
      tagBytes (if requested.payload = [] then ⟨requested.type, cfg.serviceNames.headD []⟩ else requested) := by
    have empty : globals.requestedService.length = 0 ↔ requested.payload = [] := by rw [length, List.length_eq_zero_iff]
    rw [type]
    by_cases blank : requested.payload = []
    · rw [if_pos blank]
      cases names : cfg.serviceNames with
      | nil =>
          rw [if_neg (by simp), bytes, List.headD_nil, ← blank]
      | cons name rest =>
          rw [if_pos ⟨empty.mpr blank, List.cons_ne_nil name rest⟩, List.headD_cons]
          exact (view_some _ _ (fill_view globals.requestedService requested.type name (type ▸ tagged))).2.2.2.2
    · rw [if_neg fun both => blank (empty.mp both.1), if_neg blank, bytes]
  unfold Globals.childPADS childPADS
  simp only [service, putBuffer_view, mirrors.maxPppPayload, mirrors.views.relayId, mirrors.views.hostUniq]

-- The server the other modules describe, which keeps a tag it has not received as
-- none.
structure Shows (d : Process) (s : ServerState) : Prop where
  rest : s = { d.server with statics := s.statics }
  views : Views d.globals s.statics

theorem shows_of_eq (d : Process) (s : ServerState) (statics : Statics)
    (same : s = { d.server with statics := statics })
    (views : Views d.globals statics) : Shows d s := by
  subst same
  exact ⟨rfl, views⟩

theorem initProcess_shows (cfg : Config) (order : List Nat) : Shows (initProcess cfg order) (initServer cfg order) :=
  ⟨rfl, rfl, rfl, rfl, rfl⟩

theorem refused_view (buffer : TagBuffer) (tag : PPPoETag) (seen : buffer.view = some tag)
    (serviceNames : List (List UInt8)) :
    buffer.length ≠ 0 ∧ buffer.names serviceNames = false ↔ tag.payload ≠ [] ∧ tag.payload ∉ serviceNames := by
  obtain ⟨_, _, length, _, _⟩ := view_some buffer tag seen
  rw [← Bool.not_eq_true, names_view buffer tag seen serviceNames, length, ne_eq, List.length_eq_zero_iff]

theorem countSessions_statics (cfg : Config) (s : ServerState) (statics : Statics) (mac : Mac) :
    countSessionsFromMac cfg { s with statics := statics } mac = countSessionsFromMac cfg s mac := rfl

def serviceOffered (cfg : Config) (requested : Option PPPoETag) : Bool :=
  match requested with
  | some tag => tag.payload.isEmpty || cfg.serviceNames.contains tag.payload
  | none => true

theorem processPADI_eq (cfg : Config) (s : ServerState) (ethif : Interface) (packet : PPPoEPacket) :
    processPADI cfg s ethif packet =
      if s.draining ≠ .off then (s, [])
      else if notUnicast packet.hSource then (s, [])
      else if cfg.ignorePADIIfNoFreeSessions ∧ s.freeSessions = none then (s, [])
      else if cfg.maxSessionsPerMac ≠ 0 ∧ countSessionsFromMac cfg s packet.hSource ≥ cfg.maxSessionsPerMac then (s, [])
      else
        let statics := parseTags parsePADITags packet
          { s.statics with relayId := none, hostUniq := none, requestedService := none, maxPppPayload := 0 }
        if serviceOffered cfg statics.requestedService = false then ({ s with statics := statics }, [])
        else
          ({ s with statics := statics },
            (padoReply cfg ethif packet.hSource (mruFor ethif statics.maxPppPayload) (statics.relayId.map tagBytes)
              (statics.hostUniq.map tagBytes)).toList) := by
  unfold processPADI padoReply
  iterate 4
    split
    · rfl
  dsimp only
  generalize parseTags parsePADITags packet _ = statics
  obtain ⟨relayId, hostUniq, cookie, requested, size⟩ := statics
  cases relayId <;> cases hostUniq <;> cases requested <;> rfl

theorem serviceOffered_view (cfg : Config) (buffer : TagBuffer) :
    (buffer.type ≠ 0 ∧ buffer.length ≠ 0 ∧ buffer.names cfg.serviceNames = false) ↔
    serviceOffered cfg buffer.view = false := by
  cases seen : buffer.view with
  | none => simp [serviceOffered, view_none buffer seen]
  | some tag =>
      have tagged := (view_some buffer tag seen).1
      rw [refused_view buffer tag seen]
      simp [serviceOffered, tagged]

theorem processPADI_shows (cfg : Config) (d : Process) (s : ServerState) (shown : Shows d s) (ethif : Interface)
    (packet : PPPoEPacket) : Shows (d.processPADI cfg ethif packet).1 (processPADI cfg s ethif packet).1 ∧
      (d.processPADI cfg ethif packet).2 = (processPADI cfg s ethif packet).2 := by
  obtain ⟨rest, views⟩ := shown
  generalize s.statics = statics at rest views
  subst rest
  have mirrors : Mirrors
      ((readTags packet).foldl Globals.parsePADITags { d.globals with
        relayId := d.globals.relayId.clear
        hostUniq := d.globals.hostUniq.clear
        requestedService := d.globals.requestedService.clear
        maxPppPayload := 0 })
      (parseTags parsePADITags packet
        { statics with relayId := none, hostUniq := none, requestedService := none, maxPppPayload := 0 }) :=
    foldl_mirrors _ _ parsePADITags_mirrors _ _ _ ⟨⟨rfl, rfl, views.receivedCookie, rfl⟩, rfl⟩
  rw [processPADI_eq]
  unfold Process.processPADI
  simp only [countSessions_statics]
  split
  · exact ⟨⟨rfl, views⟩, rfl⟩
  split
  · exact ⟨⟨rfl, views⟩, rfl⟩
  split
  · exact ⟨⟨rfl, views⟩, rfl⟩
  split
  · exact ⟨⟨rfl, views⟩, rfl⟩
  revert mirrors
  generalize (readTags packet).foldl Globals.parsePADITags _ = globals
  generalize parseTags parsePADITags packet _ = parsed
  intro mirrors
  simp only [serviceOffered_view, mirrors.views.requestedService]
  split
  · exact ⟨⟨rfl, mirrors.views⟩, rfl⟩
  · refine ⟨⟨rfl, mirrors.views.relayId, mirrors.views.hostUniq, mirrors.views.receivedCookie,
      mirrors.views.requestedService⟩, ?_⟩
    simp only [copied_view, mirrors.views.relayId, mirrors.views.hostUniq, mirrors.maxPppPayload]

theorem freeSession_statics (cfg : Config) (s : ServerState) (statics : Statics) (ses : Nat) :
    pppoeFreeSession cfg { s with statics := statics } ses =
      { pppoeFreeSession cfg s ses with statics := statics } := by
  obtain ⟨sessions, free, last, busy, active, draining, old, children, running⟩ := s
  unfold pppoeFreeSession
  dsimp only
  split
  · rfl
  next prev _ => cases prev <;> cases last <;> rfl

theorem allocSession_statics (s : ServerState) (statics : Statics) :
    pppoeAllocSession { s with statics := statics } =
      (pppoeAllocSession s).map fun taken => (taken.1, { taken.2 with statics := statics }) := by
  unfold pppoeAllocSession
  cases s.freeSessions <;> rfl

theorem processPADR_shows (cfg : Config) (d : Process) (s : ServerState) (shown : Shows d s) (face : Nat)
    (ethif : Interface)
    (packet : PPPoEPacket) (fork : Option Nat) :
    Shows (d.processPADR cfg face ethif packet fork).1 (processPADR cfg s face ethif packet fork).1 ∧
      (d.processPADR cfg face ethif packet fork).2 = (processPADR cfg s face ethif packet fork).2 := by
  obtain ⟨rest, views⟩ := shown
  generalize s.statics = statics at rest views
  subst rest
  have mirrors : Mirrors
      ((readTags packet).foldl Globals.parsePADRTags { d.globals with
        relayId := d.globals.relayId.clear
        hostUniq := d.globals.hostUniq.clear
        receivedCookie := d.globals.receivedCookie.clear
        requestedService := d.globals.requestedService.clear
        maxPppPayload := 0 })
      (padrStatics packet) := foldl_mirrors _ _ parsePADRTags_mirrors _ _ _ ⟨⟨rfl, rfl, rfl, rfl⟩, rfl⟩
  unfold Process.processPADR processPADR
  dsimp only
  rw [show padrAdmitted cfg { d.server with statics := statics } ethif packet = padrAdmitted cfg d.server ethif packet
    from rfl]
  split
  · exact ⟨⟨rfl, rfl, rfl, rfl, rfl⟩, rfl⟩
  revert mirrors
  generalize (readTags packet).foldl Globals.parsePADRTags _ = globals
  generalize padrStatics packet = parsed
  intro mirrors
  rw [cookieKosher_mirrors cfg globals parsed mirrors]
  split
  · exact ⟨⟨rfl, mirrors.views⟩, rfl⟩
  cases service : parsed.requestedService with
  | none =>
      rw [if_pos (view_none _ (mirrors.views.requestedService.trans service)),
        sendErrorPADS_mirrors globals parsed mirrors]
      exact ⟨⟨rfl, mirrors.views⟩, rfl⟩
  | some requested =>
      have seen := mirrors.views.requestedService.trans service
      rw [if_neg (view_some _ requested seen).1]
      dsimp only
      have test := refused_view _ requested seen cfg.serviceNames
      by_cases refused : requested.payload ≠ [] ∧ requested.payload ∉ cfg.serviceNames
      · rw [if_pos refused, if_pos (test.mpr refused), sendErrorPADS_mirrors globals parsed mirrors]
        exact ⟨⟨rfl, mirrors.views⟩, rfl⟩
      rw [if_neg refused, if_neg (fun named => refused (test.mp named)), allocSession_statics d.server parsed]
      cases alloc : pppoeAllocSession d.server with
      | none =>
          rw [Option.map_none, sendErrorPADS_mirrors globals parsed mirrors]
          exact ⟨⟨rfl, mirrors.views⟩, rfl⟩
      | some taken =>
          obtain ⟨ses, after⟩ := taken
          rw [Option.map_some]
          cases fork with
          | none =>
              dsimp only
              rw [sendErrorPADS_mirrors globals parsed mirrors]
              have freed := freeSession_statics cfg (claimed after ses face packet.hSource) parsed ses
              exact ⟨shows_of_eq _ _ parsed freed mirrors.views, rfl⟩
          | some child =>
              dsimp only
              rw [childPADS_mirrors cfg globals parsed mirrors requested seen]
              exact ⟨⟨rfl, mirrors.views⟩, rfl⟩

def restated (statics : Statics) (result : ServerState × List Sent) : ServerState × List Sent :=
  ({ result.1 with statics := statics }, result.2)

section Others

variable (cfg : Config) (s : ServerState) (statics : Statics)

theorem stopSession_statics (ses : Nat) (reason : String) :
    pppoeStopSession cfg { s with statics := statics } ses reason = (pppoeStopSession cfg s ses reason).map
      (restated statics) := by
  unfold pppoeStopSession
  dsimp only
  cases (s.sessions ses).ethif with
  | none => rfl
  | some ethif =>
      rw [Option.bind_some, Option.bind_some]
      cases cfg.interfaces[ethif]? <;> rfl

theorem killAllFrom_statics (fuel : Nat) (cur : Option Nat) :
    killAllFrom cfg fuel cur { s with statics := statics } = (killAllFrom cfg fuel cur s).map (restated statics) := by
  induction fuel generalizing cur s with
  | zero => rfl
  | succ fuel ih =>
      cases cur with
      | none => rfl
      | some sess =>
          unfold killAllFrom
          rw [stopSession_statics]
          cases pppoeStopSession cfg s sess "Shutting Down" with
          | none => rfl
          | some stopped =>
              rw [Option.map_some, Option.bind_some, Option.bind_some]
              show (killAllFrom cfg fuel (stopped.1.sessions sess).next { stopped.1 with statics := statics }).map _ = _
              rw [ih]
              cases killAllFrom cfg fuel (stopped.1.sessions sess).next stopped.1 <;> rfl

theorem killAllSessions_statics :
    killAllSessions cfg { s with statics := statics } = (killAllSessions cfg s).map (restated statics) := by
  unfold killAllSessions
  rw [killAllFrom_statics]
  cases killAllFrom cfg cfg.numSessionSlots s.busySessions s <;> rfl

theorem processPADT_statics (ethif : Interface) (packet : PPPoEPacket) :
    processPADT cfg { s with statics := statics } ethif packet = (processPADT cfg s ethif packet).map
      (restated statics) := by
  unfold processPADT
  rw [show padtTarget cfg { s with statics := statics } ethif packet = padtTarget cfg s ethif packet from rfl]
  cases padtTarget cfg s ethif packet with
  | none => rfl
  | some i =>
      exact stopSession_statics cfg (s.updSession i fun x => { x with recvdPadt := true }) statics i "Received PADT"

theorem childHandler_statics (session : Nat) :
    childHandler cfg { s with statics := statics } session = (childHandler cfg s session).map (restated statics) := by
  unfold childHandler
  dsimp only
  cases (s.sessions session).ethif with
  | none => rfl
  | some ethif =>
      rw [Option.bind_some, Option.bind_some]
      cases cfg.interfaces[ethif]? with
      | none => rfl
      | some i =>
          have freed := freeSession_statics cfg (s.updSession session fun x => { x with sentPadt := true }) statics
            session
          exact congrArg (fun after => some (after, _)) freed

theorem handle_statics (event : Event) (other : ∀ face frame fork, event ≠ .packet face frame fork) :
    handle cfg { s with statics := statics } event = (handle cfg s event).map (restated statics) := by
  cases event with
  | packet face frame fork => exact absurd rfl (other face frame fork)
  | childExit pid =>
      unfold handle
      dsimp only
      cases s.children.find? fun entry => entry.1 == pid with
      | none => rfl
      | some entry => exact childHandler_statics cfg { s with children := s.children.erase entry } statics entry.2
  | setDrain mode => rfl
  | terminate => exact killAllSessions_statics cfg s statics

end Others

def Matched (concrete : Option (Process × List Sent)) (abstract : Option (ServerState × List Sent)) : Prop :=
  Option.Rel (fun after result => Shows after.1 result.1 ∧ after.2 = result.2) concrete abstract

theorem matched_besides (d : Process) (statics : Statics) (views : Views d.globals statics)
    (result : Option (ServerState × List Sent)) : Matched (result.map d.besides) (result.map (restated statics)) := by
  cases result with
  | none => exact .none
  | some result => exact .some ⟨⟨rfl, views⟩, rfl⟩

theorem matched_bind {concrete : Option (Process × List Sent)} {abstract : Option (ServerState × List Sent)}
    {onward : Process × List Sent → Option (Process × List Sent)}
    {onward' : ServerState × List Sent → Option (ServerState × List Sent)}
    (matched : Matched concrete abstract)
    (later : ∀ after result, Shows after.1 result.1 → after.2 = result.2 → Matched (onward after) (onward' result)) :
    Matched (concrete.bind onward) (abstract.bind onward') := by
  cases matched with
  | none => exact .none
  | some both => exact later _ _ both.1 both.2

theorem serverProcessPacket_matched (cfg : Config) (d : Process) (s : ServerState) (shown : Shows d s) (face : Nat)
    (ethif : Interface) (packet : PPPoEPacket) (fork : Option Nat) :
    Matched (d.serverProcessPacket cfg face ethif packet fork) (serverProcessPacket cfg s face ethif packet fork) := by
  unfold Process.serverProcessPacket serverProcessPacket
  split
  · exact .some ⟨shown, rfl⟩
  split
  · exact .some ⟨shown, rfl⟩
  split
  · obtain ⟨after, same⟩ := processPADI_shows cfg d s shown ethif packet
    exact .some ⟨after, congrArg (List.flatMap (Reply.frames face)) same⟩
  split
  · obtain ⟨after, same⟩ := processPADR_shows cfg d s shown face ethif packet fork
    exact .some ⟨after, congrArg (List.flatMap (Reply.frames face)) same⟩
  split
  · rw [shown.rest, processPADT_statics cfg d.server s.statics]
    exact matched_besides d s.statics shown.views _
  · exact .some ⟨shown, rfl⟩

theorem handle_matched (cfg : Config) (d : Process) (s : ServerState) (shown : Shows d s) (event : Event) :
    Matched (d.handle cfg event) (handle cfg s event) := by
  have others (other : ∀ face frame fork, event ≠ .packet face frame fork) :
      Matched ((handle cfg d.server event).map d.besides) (handle cfg s event) := by
    rw [shown.rest, handle_statics cfg d.server s.statics event other]
    exact matched_besides d s.statics shown.views _
  cases event with
  | packet face frame fork =>
      have children : s.children = d.server.children := by rw [shown.rest]
      rw [Process.handle, handle, children]
      split
      · exact .none
      cases cfg.interfaces[face]? with
      | none => exact .none
      | some ethif => exact serverProcessPacket_matched cfg d s shown face ethif frame fork
  | childExit pid => exact others fun _ _ _ => Event.noConfusion
  | setDrain mode => exact others fun _ _ _ => Event.noConfusion
  | terminate => exact others fun _ _ _ => Event.noConfusion

theorem step_matched (cfg : Config) (d : Process) (s : ServerState) (shown : Shows d s) (event : Event) :
    Matched (d.step cfg event) (step cfg s event) := by
  have running : s.running = d.server.running := by rw [shown.rest]
  have handled := handle_matched cfg d s shown event
  unfold Process.step step
  rw [running]
  split
  · exact .none
  refine matched_bind handled fun after result shown' same => ?_
  have active : result.1.numActiveSessions = after.1.server.numActiveSessions := by rw [shown'.rest]
  have mode : result.1.draining = after.1.server.draining := by rw [shown'.rest]
  have going : result.1.running = after.1.server.running := by rw [shown'.rest]
  rw [active, mode, going]
  split
  · rw [shown'.rest, killAllSessions_statics cfg after.1.server result.1.statics, same]
    cases killAllSessions cfg after.1.server with
    | none => exact .none
    | some ended => exact .some ⟨⟨rfl, shown'.views⟩, rfl⟩
  · exact .some ⟨shown', same⟩

theorem next_shows (cfg : Config) (d d' : Process) (s : ServerState) (shown : Shows d s) (event : Event)
    (moved : d.next cfg event = some d') : ∃ s', next cfg s event = some s' ∧ Shows d' s' := by
  obtain ⟨after, ran, rfl⟩ := Option.map_eq_some_iff.mp moved
  have matched := step_matched cfg d s shown event
  rw [ran] at matched
  unfold next
  cases abstract : step cfg s event with
  | none => rw [abstract] at matched; cases matched
  | some result =>
      rw [abstract] at matched
      cases matched with
      | some both => exact ⟨result.1, rfl, both.1⟩

theorem run_shows (cfg : Config) (order : List Nat) {visits : List (Process × Event)} {d : Process}
    (run : Run (Process.next cfg) (initProcess cfg order) visits d) :
    ∃ visited s, Run (next cfg) (initServer cfg order) visited s ∧ Shows d s := by
  induction run with
  | start => exact ⟨[], _, .start, initProcess_shows cfg order⟩
  | snoc visits d d' event _ moved ih =>
      obtain ⟨visited, s, run, shown⟩ := ih
      obtain ⟨s', moved', shown'⟩ := next_shows cfg d d' s shown event moved
      exact ⟨_, s', run.snoc _ _ _ _ moved', shown'⟩

end ZyAgf.Pppoe.Server
