import ZyAgf.Pppoe.Handshake
import ZyAgf.Pppoe.LanAgreement

set_option autoImplicit false

namespace ZyAgf.Pppoe.Lan

open Server (Sent Serves HasRoom)

def request (host : Host) : Sent :=
  ⟨host.face, tagFrame (Vector.replicate 6 0xff) host.cfg.myEth codePADI 0 (Client.padiTags host.cfg)⟩

theorem sentBy_padi (host : Host) (room : HasRoom (Client.padiTags host.cfg)) :
    sentBy host (Client.sendPADI host.cfg) = some (request host) := by
  unfold Client.sendPADI sentBy
  rw [Client.buildFrame_room _ _ _ _ room]
  rfl

-- A client that waits stores tags of the types they are stored as.
def Tagged (client : Client.Process) : Prop :=
  match client.place with
  | .waitForPADO _ => Client.Typed client.conn
  | .waitForPADS _ => Client.Typed client.conn
  | _ => True

def Asked (host : Host) (client : Client.Process) (air : List Sent) : Prop :=
  match client.place with
  | .waitForPADO _ => HasRoom (Client.padiTags host.cfg) → request host ∈ air
  | _ => True

structure Underway (site : Site) (net : Net) : Prop where
  sound : Server.Sound site.server net.server
  phased : ∀ i, Client.Phased (net.clients i)
  tagged : ∀ i, Tagged (net.clients i)
  asked : ∀ i host, site.hosts[i]? = some host → Asked host (net.clients i) net.air

theorem tagged_place (client : Client.Process) (tagged : Tagged client)
    (waiting : (∃ attempts, client.place = .waitForPADO attempts) ∨ ∃ attempts, client.place = .waitForPADS attempts) :
    Client.Typed client.conn := by
  unfold Tagged at tagged
  rcases waiting with ⟨_, place⟩ | ⟨_, place⟩
  · rwa [place] at tagged
  · rwa [place] at tagged

theorem tagged_round (client : Client.Process) (typed : Client.Typed client.conn) : Tagged client := by
  unfold Tagged
  split
  · exact typed
  · exact typed
  · trivial

theorem turn_tagged (cfg : Client.Config) (client next : Client.Process) (event : Client.Event)
    (out : List Client.Sending)
    (turn : Client.Turn cfg client event next out) (tagged : Tagged client) : Tagged next := by
  have typed := tagged_place client tagged
  cases turn with
  | searching attempts packet size conn waiting state stored =>
      exact tagged_round _ (stored (typed (.inl ⟨_, waiting⟩)))
  | dropped => exact tagged
  | rejected attempts packet size waiting =>
      refine tagged_round _ ⟨(typed (.inr ⟨_, waiting⟩)).1, ?_⟩
      exact Client.heldTag_type tagRelaySessionId client.conn.relayId _ (typed (.inr ⟨_, waiting⟩)).2
  | leaves event next gone => simp [Tagged, gone]
  | restarts event from_ attempts source cause stored => exact tagged_round _ (stored (typed source))
  | answers attempts packet size conn waiting sized acceptable peer stored =>
      exact tagged_round _ (Client.overwritten_typed _ _ _ stored (typed (.inl ⟨_, waiting⟩)))
  | answersNothing attempts event waiting => exact tagged_round _ (typed (.inl ⟨_, waiting⟩))
  | repeats attempts waiting => exact tagged_round _ (typed (.inr ⟨_, waiting⟩))
  | opens => trivial
  | opensUnanswered => trivial

theorem asked_more (host : Host) (client : Client.Process) (air more : List Sent) (asked : Asked host client air) :
    Asked host client (air ++ more) := by
  unfold Asked at asked ⊢
  split
  next place =>
    rw [place] at asked
    exact fun room => List.mem_append_left _ (asked room)
  next => trivial

theorem asked_padi (host : Host) (client : Client.Process) (attempts : Nat) (net : Net) :
    Asked host (Client.padiRound host.cfg client attempts).1
      (net.puts ((Client.padiRound host.cfg client attempts).2.filterMap (sentBy host))).air := by
  intro room
  have made : (Client.padiRound host.cfg client attempts).2.filterMap (sentBy host) = [request host] := by
    unfold Client.padiRound
    rw [List.filterMap_cons_some (sentBy_padi host room), List.filterMap_nil]
  rw [made]
  refine List.mem_append_right _ (List.mem_filter.mpr ⟨List.mem_singleton_self _, ?_⟩)
  exact decide_eq_true room

theorem turn_asked (host : Host) (client next : Client.Process) (event : Client.Event) (out : List Client.Sending)
    (turn : Client.Turn host.cfg client event next out) (net : Net) (asked : Asked host client net.air) :
    Asked host next (net.puts (out.filterMap (sentBy host))).air := by
  cases turn with
  | searching attempts packet size conn waiting =>
      refine asked_more host _ net.air _ ?_
      unfold Asked at asked ⊢
      rwa [waiting] at asked ⊢
  | dropped => exact asked_more host _ net.air _ asked
  | rejected attempts packet size waiting =>
      refine asked_more host _ net.air _ ?_
      simp [Asked, waiting]
  | leaves event next gone => simp [Asked, gone]
  | restarts => exact asked_padi host _ _ net
  | answers => trivial
  | answersNothing => trivial
  | repeats => trivial
  | opens => trivial
  | opensUnanswered => trivial

theorem main_asked (host : Host) (net : Net) : Tagged (Client.main host.cfg).1 ∧
    Asked host (Client.main host.cfg).1 (net.puts ((Client.main host.cfg).2.filterMap (sentBy host))).air := by
  have untagged : Client.Typed (Client.clearConnection host.cfg) := by
    constructor
    · intro tag held
      cases held
    · intro tag held
      cases held
  unfold Client.main
  dsimp only
  split
  · split
    · exact ⟨trivial, trivial⟩
    · split
      · exact ⟨trivial, trivial⟩
      · rcases Client.afterDiscovery_cases host.cfg _ with ⟨next, ends, gone⟩ | ⟨_, from_, ends, stored⟩ | ⟨_, ends⟩
        · rw [ends]
          exact ⟨by simp [Tagged, gone], by simp [Asked, gone]⟩
        · rw [ends]
          exact ⟨tagged_round _ (stored untagged), asked_padi host from_ 1 net⟩
        · rw [ends]
          exact ⟨trivial, trivial⟩
  · exact ⟨tagged_round _ untagged, asked_padi host _ 1 net⟩

theorem next_underway (site : Site) (net net' : Net) (event : Event) (taken : next site net event = some net')
    (underway : Underway site net) : Underway site net' := by
  have moves := next_moves site net net' event taken
  refine ⟨moves_sound site net net' event moves underway.sound, phased_step site net net' event taken underway.phased,
    ?_, ?_⟩
  · intro i
    cases moves with
    | server => exact underway.tagged i
    | stranger => exact underway.tagged i
    | client j host e moved known elsewhere hears waits ran =>
        show Tagged (write net.clients j moved.1 i)
        by_cases here : i = j
        · subst here
          rw [write_here]
          have turn := Client.step_turn host.cfg (net.clients i) moved.1 e moved.2 (underway.phased i) ran
          exact turn_tagged host.cfg _ _ _ _ turn (underway.tagged i)
        · rw [write_elsewhere _ _ _ _ here]
          exact underway.tagged i
    | starts j host known elsewhere =>
        show Tagged (write net.clients j (Client.main host.cfg).1 i)
        by_cases here : i = j
        · rw [here, write_here]
          exact (main_asked host net).1
        · rw [write_elsewhere _ _ _ _ here]
          exact underway.tagged i
  · intro i host known
    cases moves with
    | server => exact asked_more host _ net.air _ (underway.asked i host known)
    | stranger => exact asked_more host _ net.air _ (underway.asked i host known)
    | client j host' e moved known' elsewhere hears waits ran =>
        by_cases here : i = j
        · subst here
          obtain rfl := Option.some.inj (known.symm.trans known')
          have turn := Client.step_turn host.cfg (net.clients i) moved.1 e moved.2 (underway.phased i) ran
          have asked := turn_asked host _ _ _ _ turn net (underway.asked i host known)
          show Asked host (write net.clients i moved.1 i) _
          rw [write_here]
          exact asked
        · show Asked host (write net.clients j moved.1 i) _
          rw [write_elsewhere _ _ _ _ here]
          exact asked_more host _ net.air _ (underway.asked i host known)
    | starts j host' known' elsewhere =>
        by_cases here : i = j
        · subst here
          obtain rfl := Option.some.inj (known.symm.trans known')
          show Asked host (write net.clients i (Client.main host.cfg).1 i) _
          rw [write_here]
          exact (main_asked host net).2
        · show Asked host (write net.clients j (Client.main host'.cfg).1 i) _
          rw [write_elsewhere _ _ _ _ here]
          exact asked_more host _ net.air _ (underway.asked i host known)

theorem run_underway (site : Site) (valid : site.server.Valid site.order) {visits : List (Net × Event)} {net : Net}
    (run : Run (next site) (start site) visits net) : Underway site net := by
  refine Run.invariant (fun _ _ => True) (Underway site) ?_ (fun net event net' underway _ taken =>
    next_underway site net net' event taken underway) run (Run.meets_always visits)
  exact ⟨Server.run_sound site.server site.order valid [] _ Run.start, fun _ => trivial, fun _ => trivial, fun _ _ _ =>
    trivial⟩

theorem puts_mem (net : Net) (sent : Sent) (fits : sent.frame.payload.length ≤ maxPppoePayload) : sent ∈
    (net.puts [sent]).air :=
  List.mem_append_right _ (List.mem_filter.mpr ⟨List.mem_singleton_self _, decide_eq_true fits⟩)

def offer (site : Site) (host : Host) (ethif : Server.Interface) : Sent :=
  ⟨host.face, tagFrame host.cfg.myEth ethif.mac codePADO 0 (Server.offerTags site.server host.cfg ethif)⟩

def answer (site : Site) (host : Host) (ethif : Server.Interface) (relayId : Option PPPoETag) : Sent :=
  ⟨host.face, tagFrame ethif.mac host.cfg.myEth codePADR 0 (Server.requestTags site.server host.cfg ethif relayId)⟩

def confirm (site : Site) (host : Host) (ethif : Server.Interface) (relayId : Option PPPoETag)
    (session : UInt16) : Sent :=
  ⟨host.face, tagFrame host.cfg.myEth ethif.mac codePADS session (Server.confirmTags site.server host.cfg relayId)⟩

theorem heldTag_absent (type : Nat) (held : Option PPPoETag) (tags : List PPPoETag)
    (absent : ∀ tag ∈ tags, tag.type ≠ type) :
    Client.heldTag type held tags = held := by
  induction tags generalizing held with
  | nil => rfl
  | cons tag rest ih =>
      rw [Client.heldTag_cons, if_neg (absent tag List.mem_cons_self)]
      exact ih held fun later member => absent later (List.mem_cons_of_mem tag member)

theorem heldTag_last (type : Nat) (held : Option PPPoETag) (front back : List PPPoETag) (tag : PPPoETag)
    (typed : tag.type = type)
    (absent : ∀ tag ∈ back, tag.type ≠ type) : Client.heldTag type held (front ++ tag :: back) = some tag := by
  unfold Client.heldTag
  rw [List.foldl_append]
  have last := heldTag_absent type (some tag) back absent
  rw [List.foldl_cons, if_pos typed]
  exact last

theorem offerTags_held (cfg : Server.Config) (client : Client.Config) (ethif : Server.Interface)
    (held : Option PPPoETag) :
    Client.heldTag tagAcCookie held (Server.offerTags cfg client ethif) = some
      (Server.cookieFor cfg ethif client.myEth) ∧
      Client.heldTag tagRelaySessionId held (Server.offerTags cfg client ethif) = held := by
  constructor
  · have split : Server.offerTags cfg client ethif = (⟨tagAcName, cfg.acName⟩ ::
        (if cfg.serviceNames = [] then [[]] else cfg.serviceNames).map fun name =>
          (⟨tagServiceName, name⟩ : PPPoETag)) ++
          (Server.cookieFor cfg ethif client.myEth :: (Server.uniq? client).toList) := by
      simp [Server.offerTags, Server.padoTags, Server.mruTags, Server.cookieFor]
    rw [split]
    refine heldTag_last tagAcCookie held _ _ _ rfl fun tag member => ?_
    rw [Server.uniq?_types client tag (Option.mem_toList.mp member)]
    decide
  · refine heldTag_absent _ _ _ fun tag member => ?_
    rcases Server.offerTags_types cfg client ethif tag member with same | same | same | same <;> rw [same] <;> decide

theorem lengthOk_tagFrame (hDest hSource : Mac) (code : UInt8) (session : UInt16) (tags : List PPPoETag)
    (room : HasRoom tags) :
    Client.lengthOk (arrived (tagFrame hDest hSource code session tags) [])
      (some (hdrSize + (tagFrame hDest hSource code session tags).payload.length + ([] : List UInt8).length)) =
        true := by
  have whole := tagFrame_length hDest hSource code session tags room
  refine decide_eq_true ?_
  show (tagFrame hDest hSource code session tags).length + hdrSize ≤ hdrSize + (tags.flatMap tagBytes).length + 0
  omega

section Steps

variable (site : Site) (net : Net) (i : Nat) (host : Host) (known : site.hosts[i]? = some host)

theorem toServer_step (sent : Sent) (fork : Option Nat) (onAir : sent ∈ net.air)
    (moved : Server.ServerState × List Sent)
    (ran : Server.step site.server net.server (.packet sent.ethif (arrived sent.frame []) fork) = some moved) :
    next site net (.toServer sent [] fork) = some ({ net with server := moved.1 }.puts moved.2) := by
  rw [next, if_pos onAir]
  unfold atServer
  rw [ran]
  rfl

include known in
theorem toClient_step (sent : Sent) (onAir : sent ∈ net.air) (segment : sent.ethif = host.face)
    (moved : Client.Process × List Client.Sending) (ran : Client.step host.cfg (net.clients i)
      (.receive (arrived sent.frame []) (some (hdrSize + sent.frame.payload.length + ([] : List UInt8).length))) = some
        moved) :
    next site net (.toClient i sent [] []) =
      some ({ net with clients := write net.clients i moved.1 }.puts (moved.2.filterMap (sentBy host))) := by
  rw [next]
  unfold atClient
  rw [known, Option.bind_some]
  dsimp only
  rw [if_pos ⟨onAir, segment⟩, List.append_nil, ran]
  rfl

end Steps

section Exchange

variable (site : Site) (net : Net) (i : Nat) (host : Host) (ethif : Server.Interface)
    (known : site.hosts[i]? = some host)
  (attached : site.server.interfaces[host.face]? = some ethif) (suits : Server.Suits site.server host.cfg ethif)
  (relayId : Option PPPoETag) (room : Server.Roomy site.server host.cfg ethif relayId)

include attached suits room

theorem offer_step (ready : Server.Ready site.server net.server host.cfg.myEth) (asked : request host ∈ net.air) :
    ∃ net' statics, next site net (.toServer (request host) [] none) = some net' ∧ offer site host ethif ∈ net'.air ∧
      net'.server = { net.server with statics := statics } ∧ net'.clients = net.clients := by
  obtain ⟨statics, offers⟩ := Server.step_offers site.server net.server host.face ethif host.cfg attached suits ready
    room.padi room.pado
  refine ⟨_, statics, toServer_step site net (request host) none asked _ offers, ?_, rfl, rfl⟩
  exact puts_mem _ (offer site host ethif) room.pado

include known

omit attached in
theorem answer_step (attempts : Nat) (waiting : (net.clients i).place = .waitForPADO attempts)
    (held : (net.clients i).conn.relayId = relayId)
    (offered : offer site host ethif ∈ net.air) : ∃ net',
    next site net (.toClient i (offer site host ethif) [] []) = some net' ∧
      answer site host ethif relayId ∈ net'.air ∧ net'.server = net.server ∧ (net'.clients i).place = .waitForPADS 1 ∧
      (net'.clients i).conn.discoveryState = .sentPADR ∧ (net'.clients i).conn.peerEth = ethif.mac := by
  obtain ⟨acceptable, read⟩ := Client.offer_acceptable site.server host.cfg ethif suits room.pado []
  have answers := Client.step_offered host.cfg (net.clients i) attempts _ _ waiting suits.seeks
    (lengthOk_tagFrame host.cfg.myEth ethif.mac codePADO 0 (Server.offerTags site.server host.cfg ethif) room.pado)
    acceptable
  have stepped := toClient_step site net i host known (offer site host ethif) offered rfl _ answers
  refine ⟨_, stepped, ?_, rfl, ?_, ?_, ?_⟩
  · have tags : Client.padrTags host.cfg (Client.offered (net.clients i).conn
        (arrived (tagFrame host.cfg.myEth ethif.mac codePADO 0 (Server.offerTags site.server host.cfg ethif)) [])) =
          Server.requestTags site.server host.cfg ethif relayId := by
      unfold Client.padrTags Client.offered
      rw [read, (offerTags_held site.server host.cfg ethif _).1, (offerTags_held site.server host.cfg ethif _).2, held,
        Server.uniqTag_eq]
      simp [Server.requestTags]
    have sends : sentBy host (Client.sendPADR host.cfg (Client.offered (net.clients i).conn
        (arrived (tagFrame host.cfg.myEth ethif.mac codePADO 0 (Server.offerTags site.server host.cfg ethif)) []))) =
          some (answer site host ethif relayId) := by
      unfold Client.sendPADR sentBy
      rw [tags, Client.buildFrame_room _ _ _ _ room.padr]
      rfl
    unfold Client.padrRound
    rw [List.filterMap_cons_some sends, List.filterMap_nil]
    exact puts_mem _ (answer site host ethif relayId) room.padr
  all_goals
    show _ = _
    simp [Net.puts, Client.padrRound, Client.offered, arrived, tagFrame]

omit known in
theorem confirm_step (typed : ∀ tag ∈ relayId, tag.type = tagRelaySessionId)
    (ready : Server.Ready site.server net.server host.cfg.myEth)
    (sound : Server.Sound site.server net.server) (pid : Nat) (fresh : pid ≠ 0 ∧ pid ∉ net.server.children.map (·.1))
    (answered : answer site host ethif relayId ∈ net.air) :
    ∃ net' slot session, next site net (.toServer (answer site host ethif relayId) [] (some pid)) = some net' ∧
      confirm site host ethif relayId session ∈ net'.air ∧ net'.clients = net.clients ∧
      Serves site.server net'.server slot host.cfg.myEth host.face session := by
  obtain ⟨s', slot, session, confirms, serves⟩ := Server.step_confirms site.server net.server host.face ethif host.cfg
    relayId typed attached
    suits ready sound pid fresh room.padr
  refine ⟨_, slot, session, toServer_step site net (answer site host ethif relayId) (some pid) answered _ confirms, ?_,
    rfl, serves⟩
  exact puts_mem _ (confirm site host ethif relayId session) room.pads

omit attached in
theorem open_step (typed : ∀ tag ∈ relayId, tag.type = tagRelaySessionId) (attempts : Nat)
    (waiting : (net.clients i).place = .waitForPADS attempts) (state : (net.clients i).conn.discoveryState = .sentPADR)
    (peer : (net.clients i).conn.peerEth = ethif.mac) (session : UInt16)
    (confirmed : confirm site host ethif relayId session ∈ net.air) :
    ∃ net', next site net (.toClient i (confirm site host ethif relayId session) [] []) = some net' ∧
      net'.server = net.server ∧
      (net'.clients i).place = .session ∧ (net'.clients i).conn.peerEth = ethif.mac ∧
        (net'.clients i).conn.session = session := by
  have types := Server.confirmTags_types site.server host.cfg relayId typed
  have read : Client.tagsOf (arrived (tagFrame host.cfg.myEth ethif.mac codePADS session
    (Server.confirmTags site.server host.cfg relayId)) []) =
      Server.confirmTags site.server host.cfg relayId := by
    refine tagsOf_tagFrame _ _ _ _ _ [] room.pads fun tag member => ?_
    rcases types tag member with same | same | same <;> rw [same] <;> decide
  have sent : Client.FromPeer host.cfg (net.clients i).conn
      (arrived (tagFrame host.cfg.myEth ethif.mac codePADS session (Server.confirmTags site.server host.cfg relayId))
        []) := by
    refine ⟨peer.symm, (Client.packetIsForMe_iff host.cfg _).mpr ⟨rfl, fun uniq wanted => ?_⟩, rfl⟩
    rw [read]
    simp [Server.confirmTags, Server.uniq?, wanted]
  have clear : ∀ tag ∈ Client.tagsOf (arrived (tagFrame host.cfg.myEth ethif.mac codePADS session
      (Server.confirmTags site.server host.cfg relayId)) []), Client.errorTag tag.type = false := by
    intro tag member
    rw [read] at member
    rcases types tag member with same | same | same <;> rw [same] <;> rfl
  obtain ⟨conn, opened, number, same⟩ := Client.step_confirmed host.cfg
    (net.clients i) attempts _ _ waiting state suits.once suits.stays
    (lengthOk_tagFrame host.cfg.myEth ethif.mac codePADS session
    (Server.confirmTags site.server host.cfg relayId) room.pads) sent clear
  refine ⟨_, toClient_step site net i host known (confirm site host ethif relayId session) confirmed rfl _ opened, rfl,
    ?_, ?_, ?_⟩
  · simp [Net.puts]
  · simp [Net.puts, same, peer]
  · simp [Net.puts, number, arrived, tagFrame]

end Exchange

-- From every state in which a client still looks for a server that suits it and
-- has a slot left, four deliveries make a session of its request.
theorem discovery_completes (site : Site) (valid : site.server.Valid site.order) {visits : List (Net × Event)}
    {net : Net}
    (run : Run (next site) (start site) visits net) (i : Nat) (host : Host) (ethif : Server.Interface) (attempts : Nat)
    (known : site.hosts[i]? = some host) (attached : site.server.interfaces[host.face]? = some ethif)
    (suits : Server.Suits site.server host.cfg ethif) (ready : Server.Ready site.server net.server host.cfg.myEth)
    (waiting : (net.clients i).place = .waitForPADO attempts)
    (room : Server.Roomy site.server host.cfg ethif (net.clients i).conn.relayId) (pid : Nat)
    (fresh : pid ≠ 0 ∧ pid ∉ net.server.children.map (·.1)) :
    ∃ session net', Run.play (next site) net
        [.toServer (request host) [] none, .toClient i (offer site host ethif) [] [],
          .toServer (answer site host ethif (net.clients i).conn.relayId) [] (some pid),
          .toClient i (confirm site host ethif (net.clients i).conn.relayId session) [] []] = some net' ∧
      (net'.clients i).place = .session ∧ (net'.clients i).conn.peerEth = ethif.mac ∧
        (net'.clients i).conn.session = session ∧
      ∃ slot, Serves site.server net'.server slot host.cfg.myEth host.face session := by
  have underway := run_underway site valid run
  have asked := underway.asked i host known
  unfold Asked at asked
  rw [waiting] at asked
  have typed : ∀ tag ∈ (net.clients i).conn.relayId, tag.type = tagRelaySessionId :=
    (tagged_place _ (underway.tagged i) (.inl ⟨attempts, waiting⟩)).2
  obtain ⟨net₁, statics, step₁, offered, server₁, clients₁⟩ :=
    offer_step site net host ethif attached suits _ room ready (asked room.padi)
  obtain ⟨net₂, step₂, answered, server₂, waiting₂, state₂, peer₂⟩ :=
    answer_step site net₁ i host ethif known suits _ room attempts
    (by rw [clients₁]; exact waiting) (by rw [clients₁]) offered
  have same : net₂.server = { net.server with statics := statics } := server₂.trans server₁
  have ready₂ : Server.Ready site.server net₂.server host.cfg.myEth := by
    rw [same]
    exact ⟨ready.running, ready.draining, ready.slot, ready.below⟩
  have sound₂ : Server.Sound site.server net₂.server := by
    rw [same]
    exact Server.sound_besides site.server net.server _ rfl ⟨rfl, rfl, rfl, rfl⟩ underway.sound
  obtain ⟨net₃, slot, session, step₃, confirmed, clients₃, serves⟩ :=
    confirm_step site net₂ host ethif attached suits _ room typed ready₂
    sound₂ pid (by rw [same]; exact fresh) answered
  obtain ⟨net₄, step₄, server₄, opened, peer₄, number⟩ := open_step site net₃ i host ethif known suits _ room typed 1
    (by rw [clients₃]; exact waiting₂) (by rw [clients₃]; exact state₂)
    (by rw [clients₃]; exact peer₂) session confirmed
  refine ⟨session, net₄, ?_, opened, peer₄, number, slot, server₄ ▸ serves⟩
  simp only [Run.play, step₁, step₂, step₃, step₄, Option.bind_some]

def firstHost : Host := ⟨plainClient Server.clientMac, 0⟩

def firstFace : Server.Interface := ⟨serverMac, 1500⟩

theorem firstHost_suits : Server.Suits Server.twoSlots firstHost.cfg firstFace where
  unicast := by decide
  source := by decide
  seeks := rfl
  once := rfl
  stays := rfl
  acName := fun _ wanted => by cases wanted
  service := fun _ wanted => by cases wanted

theorem firstHost_roomy : Server.Roomy Server.twoSlots firstHost.cfg firstFace none := by
  constructor <;> decide +kernel

theorem discovery_completes_first : ∃ net, Run.play (next twoHosts) (start twoHosts) [.starts 0] = some net ∧
    ∃ session net', Run.play (next twoHosts) net
        [.toServer (request firstHost) [] none, .toClient 0 (offer twoHosts firstHost firstFace) [] [],
          .toServer (answer twoHosts firstHost firstFace none) [] (some 77),
          .toClient 0 (confirm twoHosts firstHost firstFace none session) [] []] = some net' ∧
      (net'.clients 0).place = .session ∧ (net'.clients 0).conn.peerEth = serverMac ∧
        (net'.clients 0).conn.session = session ∧
      ∃ slot, Serves twoHosts.server net'.server slot Server.clientMac 0 session := by
  obtain ⟨net, played⟩ : ∃ net, Run.play (next twoHosts) (start twoHosts) [.starts 0] = some net := ⟨_, rfl⟩
  have begun : net = { start twoHosts with clients := write (start twoHosts).clients 0 (Client.main firstHost.cfg).1 }.puts
      ((Client.main firstHost.cfg).2.filterMap (sentBy firstHost)) := (Option.some.inj played).symm
  refine ⟨net, played, ?_⟩
  have ready : Server.Ready Server.twoSlots net.server Server.clientMac := by
    rw [begun]
    exact ⟨rfl, rfl, by simp [Net.puts, start, Server.initServer, twoHosts], .inl rfl⟩
  have completes := discovery_completes twoHosts Server.twoSlots_valid
    (Run.of_play [.starts 0] net played) 0 firstHost firstFace 1 rfl rfl
    firstHost_suits ready (by rw [begun]; rfl) (by rw [begun]; exact firstHost_roomy) 77
      ⟨by decide, by rw [begun]; decide⟩
  have none' : (net.clients 0).conn.relayId = none := by rw [begun]; rfl
  rw [none'] at completes
  exact completes

end ZyAgf.Pppoe.Lan
