import ZyAgf.Pppoe.Lan

set_option autoImplicit false

namespace ZyAgf.Pppoe.Lan

open Server (Sent Serves)

def Exits (net : Net) (event : Event) (slot : Nat) : Prop :=
  ∃ e, serverEvent event = some e ∧ Server.Exits net.server e slot

-- At some point of the run a slot was this client's, and it still is unless the
-- child that served it has exited since.
def Granted (site : Site) (visits : List (Net × Event)) (finish : Net) (mac : Mac) (face : Nat)
    (session : UInt16) : Prop :=
  ∃ earlier later middle slot, visits = earlier ++ later ∧ Run (next site) (start site) earlier middle ∧
    Run (next site) middle later finish ∧ Serves site.server middle.server slot mac face session ∧
    (Run.Meets (fun net event => ¬ Exits net event slot) later → Serves site.server finish.server slot mac face session)

-- A client that gives up on its PADS starts a session all the same.
def Waits (site : Site) (i : Nat) (net : Net) (event : Event) : Prop :=
  ∀ host, event = .timeOut i → site.hosts[i]? = some host → Client.givesUpPADS host.cfg (net.clients i) .timeOut = false

-- A client that runs a session with this server has got it from the server.
def Agrees (site : Site) (i : Nat) (visits : List (Net × Event)) (net : Net) : Prop :=
  ∀ host, site.hosts[i]? = some host → host.cfg.skipDiscovery = false → (net.clients i).place = .session →
    site.server.interfaces[host.face]?.map (·.mac) = some (net.clients i).conn.peerEth →
      Granted site visits net host.cfg.myEth host.face (net.clients i).conn.session

-- Every PADS of the server on the air is an error or names a slot that was granted.
def Founded (site : Site) (visits : List (Net × Event)) (net : Net) : Prop :=
  ∀ sent ∈ net.air, carried sent = true ∧ (sent.frame.code = codePADS → foreign site sent = false →
    (∃ dest source tag rest, sent.frame = tagFrame dest source codePADS 0 (tag :: rest) ∧
    Client.errorTag tag.type = true) ∨
      Granted site visits net sent.frame.hDest sent.ethif sent.frame.session)

structure Account (site : Site) (visits : List (Net × Event)) (net : Net) : Prop where
  sound : Server.Sound site.server net.server
  phased : ∀ i, Client.Phased (net.clients i)
  founded : Founded site visits net

theorem puts_air (net : Net) (out : List Sent) (sent : Sent) (member : sent ∈ (net.puts out).air) :
    sent ∈ net.air ∨ (sent ∈ out ∧ carried sent = true) := by
  rcases List.mem_append.mp member with old | new
  · exact .inl old
  · exact .inr (List.mem_filter.mp new)

theorem moves_sound (site : Site) (net net' : Net) (event : Event) (moves : Moves site net event net')
    (sound : Server.Sound site.server net.server) : Server.Sound site.server net'.server := by
  cases moves with
  | server e moved here ran =>
      exact Server.next_sound site.server net.server moved.1 e (Option.map_eq_some_iff.mpr ⟨moved, ran, rfl⟩) sound
  | client => exact sound
  | starts => exact sound
  | stranger => exact sound

theorem moves_serves (site : Site) (net net' : Net) (event : Event) (moves : Moves site net event net')
    (sound : Server.Sound site.server net.server) (slot : Nat) (mac : Mac) (face : Nat) (session : UInt16)
    (serves : Serves site.server net.server slot mac face session) (going : ¬ Exits net event slot) :
    Serves site.server net'.server slot mac face session := by
  cases moves with
  | server e moved here ran =>
      refine Server.serves_kept site.server net.server moved.1 _
        (Server.step_keeps site.server net.server sound e moved ran) slot mac
        face session ?_ serves
      exact fun exits => going ⟨e, here, exits⟩
  | client => exact serves
  | starts => exact serves
  | stranger => exact serves

theorem granted_snoc (site : Site) (visits : List (Net × Event)) (net net' : Net) (event : Event)
    (taken : next site net event = some net')
    (sound : Server.Sound site.server net.server) (mac : Mac) (face : Nat) (session : UInt16)
    (granted : Granted site visits net mac face session) : Granted site
    (visits ++ [(net, event)]) net' mac face session := by
  obtain ⟨earlier, later, middle, slot, rfl, before, after, served, still⟩ := granted
  refine ⟨earlier, later ++ [(net, event)], middle, slot, List.append_assoc .., before, after.snoc _ _ _ _ taken,
    served, ?_⟩
  intro going
  obtain ⟨until', last⟩ := (Run.meets_snoc _ later net event).mp going
  exact moves_serves site net net' event (next_moves site net net' event taken) sound slot mac face session
    (still until') last

theorem granted_here (site : Site) (visits : List (Net × Event)) (net : Net)
    (run : Run (next site) (start site) visits net) (slot : Nat)
    (mac : Mac) (face : Nat) (session : UInt16) (serves : Serves site.server net.server slot mac face session) :
    Granted site visits net mac face session :=
  ⟨visits, [], net, slot, (List.append_nil visits).symm, run, Run.start, serves, fun _ => serves⟩

def Requests (host : Host) (out : List Client.Sending) : Prop :=
  ∀ sent ∈ out.filterMap (sentBy host), sent.frame.code ≠ codePADS

theorem requests_nil (host : Host) : Requests host [] := fun _ member => absurd member List.not_mem_nil

theorem buildFrame_code (dest source : Mac) (code : UInt8) (tags : List PPPoETag) (frame : PPPoEPacket)
    (built : Client.buildFrame dest source code tags = some frame) : frame.code = code := by
  obtain ⟨payload, _, rfl⟩ := Option.map_eq_some_iff.mp built
  rfl

theorem padiRound_requests (host : Host) (client : Client.Process) (attempts : Nat) :
    Requests host (Client.padiRound host.cfg client attempts).2 := by
  intro sent member
  obtain ⟨sending, here, made⟩ := List.mem_filterMap.mp member
  obtain rfl := List.mem_singleton.mp here
  obtain ⟨frame, built, rfl⟩ := Option.map_eq_some_iff.mp made
  rw [buildFrame_code _ _ _ _ frame built]
  decide

theorem padrRound_requests (host : Host) (client : Client.Process) (attempts : Nat) :
    Requests host (Client.padrRound host.cfg client attempts).2 := by
  intro sent member
  obtain ⟨sending, here, made⟩ := List.mem_filterMap.mp member
  obtain rfl := List.mem_singleton.mp here
  obtain ⟨frame, built, rfl⟩ := Option.map_eq_some_iff.mp made
  rw [buildFrame_code _ _ _ _ frame built]
  decide

theorem turn_requests (host : Host) (client next : Client.Process) (event : Client.Event) (out : List Client.Sending)
    (turn : Client.Turn host.cfg client event next out) : Requests host out := by
  cases turn with
  | restarts => exact padiRound_requests host _ _
  | answers => exact padrRound_requests host _ _
  | answersNothing => exact padrRound_requests host _ _
  | repeats => exact padrRound_requests host _ _
  | _ => exact requests_nil host

theorem sendPADT_requests (host : Host) (conn : Client.Connection) (msg : List UInt8) :
    Requests host (Client.sendPADT host.cfg conn msg) := by
  unfold Client.sendPADT
  split
  · exact requests_nil host
  · intro sent member
    obtain ⟨sending, here, made⟩ := List.mem_filterMap.mp member
    obtain rfl := List.mem_singleton.mp here
    obtain ⟨frame, stamped, rfl⟩ := Option.map_eq_some_iff.mp made
    obtain ⟨plain, built, rfl⟩ := Option.map_eq_some_iff.mp stamped
    show plain.code ≠ codePADS
    rw [buildFrame_code _ _ _ _ plain built]
    decide

theorem main_requests (host : Host) : Requests host (Client.main host.cfg).2 := by
  unfold Client.main
  dsimp only
  split
  · split
    · exact sendPADT_requests host _ _
    · split
      · exact requests_nil host
      · rcases Client.afterDiscovery_cases host.cfg _ with ⟨_, ends, _⟩ | ⟨_, from_, ends, _⟩ | ⟨_, ends⟩
        · rw [ends]
          exact requests_nil host
        · rw [ends]
          exact padiRound_requests host _ _
        · rw [ends]
          exact requests_nil host
  · exact padiRound_requests host _ _

theorem foreign_here (site : Site) (sent : Sent)
    (bears : site.server.interfaces[sent.ethif]?.map (·.mac) = some sent.frame.hSource) :
    foreign site sent = false := by
  unfold foreign
  rw [bears]
  exact bne_self_eq_false _

section Step

variable (site : Site) (visits : List (Net × Event)) (net net' : Net) (event : Event)
  (run : Run (next site) (start site) visits net) (taken : next site net event = some net')
    (account : Account site visits net)

include run taken account

theorem founded_step : Founded site (visits ++ [(net, event)]) net' := by
  have kept (mac : Mac) (face : Nat) (session : UInt16) :=
    granted_snoc site visits net net' event taken account.sound mac face session
  have old (sent : Sent) (member : sent ∈ net.air) : carried sent = true ∧
    (sent.frame.code = codePADS → foreign site sent = false →
      (∃ dest source tag rest, sent.frame = tagFrame dest source codePADS 0 (tag :: rest) ∧
        Client.errorTag tag.type = true) ∨
        Granted site (visits ++ [(net, event)]) net' sent.frame.hDest sent.ethif sent.frame.session) := by
    obtain ⟨fits, shown⟩ := account.founded sent member
    exact ⟨fits, fun pads ours => (shown pads ours).imp id (kept _ _ _)⟩
  have whole := run.snoc visits net net' event taken
  intro sent member
  cases next_moves site net net' event taken with
  | server e moved here ran =>
      rcases puts_air _ _ sent member with before | ⟨made, fits⟩
      · exact old sent before
      · refine ⟨fits, fun pads _ => ?_⟩
        cases Server.step_tells site.server net.server account.sound e moved ran sent made pads with
        | refusal dest source tag rest frame error => exact .inl ⟨dest, source, tag, rest, frame, error⟩
        | grant slot serves => exact .inr (granted_here site _ _ whole slot _ _ _ serves)
  | client i host e moved known elsewhere hears waits ran =>
      rcases puts_air _ _ sent member with before | ⟨made, fits⟩
      · exact old sent before
      · have turn := Client.step_turn host.cfg (net.clients i) moved.1 e moved.2 (account.phased i) ran
        exact ⟨fits, fun pads _ => absurd pads (turn_requests host _ _ _ _ turn sent made)⟩
  | starts i host known elsewhere =>
      rcases puts_air _ _ sent member with before | ⟨made, fits⟩
      · exact old sent before
      · exact ⟨fits, fun pads _ => absurd pads (main_requests host sent made)⟩
  | stranger other elsewhere outside =>
      rcases puts_air _ _ sent member with before | ⟨made, fits⟩
      · exact old sent before
      · refine ⟨fits, fun _ ours => ?_⟩
        rw [List.mem_singleton.mp made, outside] at ours
        cases ours

omit run account in
theorem phased_step (phased : ∀ i, Client.Phased (net.clients i)) : ∀ i, Client.Phased (net'.clients i) := by
  intro i
  cases next_moves site net net' event taken with
  | server => exact phased i
  | client j host e moved known elsewhere hears waits ran =>
      show Client.Phased (write net.clients j moved.1 i)
      by_cases here : i = j
      · subst here
        rw [write_here]
        have turn := Client.step_turn host.cfg (net.clients i) moved.1 e moved.2 (phased i) ran
        exact Client.turn_phased host.cfg _ _ _ _ turn (phased i)
      · rw [write_elsewhere _ _ _ _ here]
        exact phased i
  | starts j host known elsewhere =>
      show Client.Phased (write net.clients j (Client.main host.cfg).1 i)
      by_cases here : i = j
      · rw [here, write_here]
        exact Client.main_phased host.cfg
      · rw [write_elsewhere _ _ _ _ here]
        exact phased i
  | stranger => exact phased i

omit run taken in
theorem opened_granted (i : Nat) (host : Host) (packet : PPPoEPacket) (size : Option Nat)
    (hears : Hears net host (.receive packet size))
    (sent : Client.FromPeer host.cfg (net.clients i).conn packet)
    (clear : ∀ tag ∈ Client.tagsOf packet, Client.errorTag tag.type = false)
    (peer : site.server.interfaces[host.face]?.map (·.mac) = some (net.clients i).conn.peerEth) :
    Granted site visits net host.cfg.myEth host.face packet.session := by
  obtain ⟨frame, onAir, segment, behind, rfl⟩ := hears
  obtain ⟨source, forMe, pads⟩ := sent
  have addressed := ((Client.packetIsForMe_iff host.cfg _).mp forMe).1
  have ours : foreign site frame = false := by
    apply foreign_here
    rw [segment, peer]
    exact congrArg some source.symm
  obtain ⟨fits, shown⟩ := account.founded frame onAir
  rcases shown pads ours with ⟨dest, source', tag, rest, made, error⟩ | granted
  · have typed : tag.type < 2 ^ 16 ∧ tag.type ≠ tagEndOfList := by
      unfold Client.errorTag at error
      simp only [Bool.or_eq_true, beq_iff_eq] at error
      rcases error with (same | same) | same <;> rw [same] <;> decide
    have short : ((tag :: rest).flatMap tagBytes).length ≤ maxPppoePayload := by
      unfold carried at fits
      rw [made] at fits
      exact of_decide_eq_true fits
    have seen := tagsOf_first dest source' codePADS 0 tag rest behind short typed
    rw [← made] at seen
    have good := clear tag seen
    rw [error] at good
    cases good
  · rw [segment] at granted
    exact (show frame.frame.hDest = host.cfg.myEth from addressed) ▸ granted

omit run in
theorem agrees_step (i : Nat) (waiting : Waits site i net event) (agrees : Agrees site i visits net) :
    Agrees site i (visits ++ [(net, event)]) net' := by
  have kept (mac : Mac) (face : Nat) (session : UInt16) :=
    granted_snoc site visits net net' event taken account.sound mac face session
  intro host known discovers inSession peer
  cases next_moves site net net' event taken with
  | server e moved here ran => exact kept _ _ _ (agrees host known discovers inSession peer)
  | stranger other elsewhere outside => exact kept _ _ _ (agrees host known discovers inSession peer)
  | starts j host' known' elsewhere =>
      simp only [Net.puts] at inSession peer ⊢
      by_cases here : i = j
      · subst here
        obtain rfl := Option.some.inj (known.symm.trans known')
        rw [write_here] at inSession
        unfold Client.main at inSession
        rw [discovers] at inSession
        cases inSession
      · rw [write_elsewhere _ _ _ _ here] at inSession peer ⊢
        exact kept _ _ _ (agrees host known discovers inSession peer)
  | client j host' e moved known' elsewhere hears waits ran =>
      simp only [Net.puts] at inSession peer ⊢
      by_cases here : i = j
      · subst here
        obtain rfl := Option.some.inj (known.symm.trans known')
        rw [write_here] at inSession peer ⊢
        have turn := Client.step_turn host.cfg (net.clients i) moved.1 e moved.2 (account.phased i) ran
        apply kept
        generalize moved.1 = client, moved.2 = out at turn inSession peer ⊢
        cases turn with
        | searching attempts packet size conn place => rw [place] at inSession; cases inSession
        | dropped attempts packet size place => rw [place] at inSession; cases inSession
        | rejected attempts packet size place => rw [place] at inSession; cases inSession
        | leaves event next gone => rw [gone] at inSession; cases inSession
        | restarts => cases inSession
        | answers => cases inSession
        | answersNothing => cases inSession
        | repeats => cases inSession
        | opens attempts packet size conn place once sent clear peer' state session =>
            rw [session]
            rw [peer'] at peer
            exact opened_granted site visits net account i host packet size hears sent clear peer
        | opensUnanswered attempts event' place once gave =>
            cases e with
            | timeOut =>
                rw [waiting host (waits rfl) known] at gave
                cases gave
            | receive packet size =>
                unfold Client.givesUpPADS at gave
                rw [place] at gave
                cases gave
      · rw [write_elsewhere _ _ _ _ here] at inSession peer ⊢
        exact kept _ _ _ (agrees host known discovers inSession peer)

end Step

theorem run_account (site : Site) (valid : site.server.Valid site.order) {visits : List (Net × Event)} {net : Net}
    (run : Run (next site) (start site) visits net) : Account site visits net := by
  induction run with
  | start =>
      exact ⟨Server.run_sound site.server site.order valid [] _ Run.start, fun _ => trivial,
        fun _ member => absurd member List.not_mem_nil⟩
  | snoc visits state next' event before taken account =>
      exact ⟨moves_sound site state next' event (next_moves site state next' event taken) account.sound,
        phased_step site state next' event taken account.phased,
          founded_step site visits state next' event before taken account⟩

-- Whatever is lost, repeated, delayed or sent by others: a client that has waited
-- for its PADS runs a session that the server took up for it on its interface.
theorem session_agreed (site : Site) (valid : site.server.Valid site.order) {visits : List (Net × Event)} {net : Net}
    (run : Run (next site) (start site) visits net) (i : Nat) (host : Host) (waits : Run.Meets (Waits site i) visits)
    (known : site.hosts[i]? = some host) (discovers : host.cfg.skipDiscovery = false)
    (inSession : (net.clients i).place = .session)
    (peer : site.server.interfaces[host.face]?.map (·.mac) = some (net.clients i).conn.peerEth) :
    Granted site visits net host.cfg.myEth host.face (net.clients i).conn.session := by
  have agrees : Agrees site i visits net := by
    clear inSession peer
    induction run with
    | start => exact fun _ _ _ inSession => by cases inSession
    | snoc visits state next' event before taken ih =>
        obtain ⟨earlier, last⟩ := (Run.meets_snoc _ visits state event).mp waits
        exact agrees_step site visits state next' event taken (run_account site valid before) i last (ih earlier)
  exact agrees host known discovers inSession peer

def EndedBy (session : UInt16) (net : Net) (event : Event) : Prop :=
  ∃ slot, Exits net event slot ∧ (net.server.sessions slot).sess = session

theorem granted_serves (site : Site) (valid : site.server.Valid site.order) {visits : List (Net × Event)} {net : Net}
    (mac : Mac) (face : Nat) (session : UInt16) (granted : Granted site visits net mac face session)
    (lasts : Run.Meets (fun net event => ¬ EndedBy session net event) visits) :
    ∃ slot, Serves site.server net.server slot mac face session := by
  obtain ⟨earlier, later, middle, slot, rfl, before, after, served, still⟩ := granted
  refine ⟨slot, still fun visit member exits => ?_⟩
  obtain ⟨between, _, _, _, reaches, _⟩ := Run.split_at after visit member
  obtain ⟨busy, free, slots, _⟩ := (run_account site valid (before.append reaches)).sound
  obtain ⟨busy', free', slots', _⟩ := (run_account site valid before).sound
  have inside : slot < site.server.numSessionSlots :=
    Server.slot_lt site.server _ busy' free' slots' slot (Server.busyList_eq _ _ _ _ slots' ▸ served.busy)
  refine lasts visit (List.mem_append_right _ member) ⟨slot, exits, ?_⟩
  rw [slots.numbers slot inside, ← slots'.numbers slot inside]
  exact served.sess

-- Two hosts never share a session, unless the server has seen it end meanwhile.
theorem sessions_apart (site : Site) (valid : site.server.Valid site.order) {visits : List (Net × Event)} {net : Net}
    (run : Run (next site) (start site) visits net) (i j : Nat) (host other : Host)
    (waits : Run.Meets (Waits site i) visits) (waitsOther : Run.Meets (Waits site j) visits)
    (known : site.hosts[i]? = some host) (knownOther : site.hosts[j]? = some other)
    (discovers : host.cfg.skipDiscovery = false ∧ other.cfg.skipDiscovery = false)
    (inSession : (net.clients i).place = .session ∧ (net.clients j).place = .session)
    (peer : site.server.interfaces[host.face]?.map (·.mac) = some (net.clients i).conn.peerEth)
    (peerOther : site.server.interfaces[other.face]?.map (·.mac) = some (net.clients j).conn.peerEth)
    (apart : host.cfg.myEth ≠ other.cfg.myEth)
    (lasts : Run.Meets (fun net' event => ¬ EndedBy (net.clients i).conn.session net' event) visits) :
    (net.clients i).conn.session ≠ (net.clients j).conn.session := by
  intro same
  have mine := session_agreed site valid run i host waits known discovers.1 inSession.1 peer
  have theirs := session_agreed site valid run j other waitsOther knownOther discovers.2 inSession.2 peerOther
  obtain ⟨slot, serves⟩ := granted_serves site valid _ _ _ mine lasts
  obtain ⟨slot', serves'⟩ := granted_serves site valid _ _ _ theirs (same ▸ lasts)
  obtain ⟨busy, free, slots, _⟩ := (run_account site valid run).sound
  have listed := Server.busyList_eq site.server net.server busy free slots
  have inside := Server.slot_lt site.server net.server busy free slots slot (listed ▸ serves.busy)
  have inside' := Server.slot_lt site.server net.server busy free slots slot' (listed ▸ serves'.busy)
  by_cases one : slot = slot'
  · subst one
    exact apart (serves.eth.symm.trans serves'.eth)
  · refine Server.session_apart site.server net.server busy free slots valid.bounded slot slot' inside inside' one ?_
    rw [serves.sess, serves'.sess, same]

theorem unnamed_fits (name : List UInt8) (named : none = some name) : name.length + tagHdrSize < 2 ^ 16 :=
  absurd named.symm (Option.some_ne_none name)

theorem unasked_fits (uniq : List UInt8) (asked : none = some uniq) : uniq.length ≤ 64 :=
  absurd asked.symm (Option.some_ne_none uniq)

-- Two clients that take what they are offered, on the one segment of a server.
def plainClient (mac : Mac) : Client.Config where
  myEth := mac
  serviceName := none
  acName := none
  hostUniq := none
  existing := none
  noDiscoverySocket := false
  killSession := false
  printACNames := false
  persist := false
  optSkipSession := false
  optFloodDiscovery := 0
  serviceNameFits := unnamed_fits
  hostUniqFits := unasked_fits

def otherMac : Mac := macAddr 2 0 0 0 0 8

def serverMac : Mac := macAddr 2 0 0 0 0 1

def twoHosts : Site where
  server := Server.twoSlots
  order := [0, 1]
  hosts := [⟨plainClient Server.clientMac, 0⟩, ⟨plainClient otherMac, 0⟩]

def cookieTag : PPPoETag := ⟨tagAcCookie, List.replicate 20 0⟩

def anyService : PPPoETag := ⟨tagServiceName, []⟩

def padi (mac : Mac) : Sent := ⟨0, tagFrame (Vector.replicate 6 0xff) mac codePADI 0 [anyService]⟩
def pado (mac : Mac) : Sent := ⟨0, tagFrame mac serverMac codePADO 0 [⟨tagAcName, [65]⟩, anyService, cookieTag]⟩
def padr (mac : Mac) : Sent := ⟨0, tagFrame serverMac mac codePADR 0 [anyService, cookieTag]⟩
def pads (mac : Mac) (session : UInt16) : Sent := ⟨0, tagFrame mac serverMac codePADS session [anyService]⟩

-- The second client overtakes the first, whose first PADO is padded and comes
-- twice.
def crossing : List Event :=
  [.starts 0, .starts 1, .toServer (padi Server.clientMac) [] none, .toServer (padi otherMac) [0, 0] none,
    .toClient 1 (pado otherMac) [] [], .toServer (padr otherMac) [] (some 77),
      .toClient 0 (pado Server.clientMac) [0] [1, 2],
    .toClient 0 (pado Server.clientMac) [] [], .toServer (padr Server.clientMac) [] (some 78),
    .toClient 0 (pads Server.clientMac 0x0200) [] [], .toClient 1 (pads otherMac 0x0100) [] []]

-- What a script without time-outs and exits cannot do.
def eventful : Event → Bool
  | .timeOut _ => false
  | .exits _ => false
  | _ => true

theorem waits_eventful (site : Site) (i : Nat) (net : Net) (event : Event)
    (calm : eventful event = true) : Waits site i net event := by
  rintro host rfl
  cases calm

theorem lasts_eventful (session : UInt16) (net : Net) (event : Event)
    (calm : eventful event = true) : ¬ EndedBy session net event := by
  rintro ⟨slot, ⟨e, here, pid, entry, rfl, _⟩, _⟩
  cases event with
  | exits => cases calm
  | _ => cases here

theorem crossing_met (allowed : Net → Event → Prop) (calm : ∀ net event, eventful event = true → allowed net event) :
    Run.Meets allowed (Run.trace (next twoHosts) (start twoHosts) crossing) := by
  intro visit member
  have listed : ∀ event ∈ crossing, eventful event = true := by decide
  exact calm visit.1 visit.2 (listed _ (Run.trace_event _ crossing visit member))

theorem crossing_seen : (Run.play (next twoHosts) (start twoHosts) crossing).any (fun net =>
    (net.clients 0).place == .session && (net.clients 1).place == .session && (net.clients 0).conn.session == 0x0200 &&
      (net.clients 1).conn.session == 0x0100 && (net.clients 0).conn.peerEth == serverMac &&
        (net.clients 1).conn.peerEth == serverMac) = true := by
  decide +kernel

theorem session_agreed_crossing : ∃ net, Run.play (next twoHosts) (start twoHosts) crossing = some net ∧
    Granted twoHosts (Run.trace (next twoHosts) (start twoHosts) crossing) net Server.clientMac 0 0x0200 := by
  obtain ⟨net, played, facts⟩ := (Option.any_eq_true _ _).mp crossing_seen
  simp only [Bool.and_eq_true, beq_iff_eq] at facts
  obtain ⟨⟨⟨⟨⟨inSession, _⟩, session⟩, _⟩, peer⟩, _⟩ := facts
  refine ⟨net, played, ?_⟩
  rw [← session]
  exact session_agreed twoHosts Server.twoSlots_valid (Run.of_play crossing net played) 0
    ⟨plainClient Server.clientMac, 0⟩
    (crossing_met _ (waits_eventful twoHosts 0)) rfl rfl inSession (by rw [peer]; rfl)

theorem sessions_apart_crossing : ∃ net, Run.play (next twoHosts) (start twoHosts) crossing = some net ∧
    (net.clients 0).conn.session ≠ (net.clients 1).conn.session := by
  obtain ⟨net, played, facts⟩ := (Option.any_eq_true _ _).mp crossing_seen
  simp only [Bool.and_eq_true, beq_iff_eq] at facts
  obtain ⟨⟨⟨⟨⟨inSession, inSession'⟩, _⟩, _⟩, peer⟩, peer'⟩ := facts
  exact ⟨net, played, sessions_apart twoHosts Server.twoSlots_valid (Run.of_play crossing net played) 0 1
    ⟨plainClient Server.clientMac, 0⟩ ⟨plainClient otherMac, 0⟩ (crossing_met _ (waits_eventful twoHosts 0))
    (crossing_met _ (waits_eventful twoHosts 1)) rfl rfl ⟨rfl, rfl⟩ ⟨inSession, inSession'⟩ (by rw [peer]; rfl)
    (by rw [peer']; rfl)
    (by decide) (crossing_met _ (lasts_eventful _))⟩

end ZyAgf.Pppoe.Lan
