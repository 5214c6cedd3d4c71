import ZyAgf.Library.Store
import ZyAgf.Pppoe.ClientPhases
import ZyAgf.Pppoe.ServerGrants

set_option autoImplicit false

namespace ZyAgf.Pppoe.Lan

open Server (Sent)

-- A host that runs the client, and the interface of the server whose segment it
-- is on.
structure Host where
  cfg : Client.Config
  face : Nat

structure Site where
  server : Server.Config
  order : List Nat
  hosts : List Host

-- A frame stays on the air once it was sent, so it may arrive late, again, out of
-- order or never.
structure Net where
  server : Server.ServerState
  clients : Nat → Client.Process
  air : List Sent

def carried (sent : Sent) : Bool := sent.frame.payload.length ≤ maxPppoePayload

def Net.puts (net : Net) (out : List Sent) : Net := { net with air := net.air ++ out.filter carried }

def sentBy (host : Host) : Client.Sending → Option Sent
  | .padi frame => frame.map fun frame => ⟨host.face, frame⟩
  | .padr frame => frame.map fun frame => ⟨host.face, frame⟩
  | .padt frame => frame.map fun frame => ⟨host.face, frame⟩

-- What anybody but the server can send on a segment: every frame that does not
-- bear the address of the interface there.
def foreign (site : Site) (sent : Sent) : Bool :=
  (site.server.interfaces[sent.ethif]?.map (·.mac)) != some sent.frame.hSource

-- A received frame lies in front of its padding, and in a client's buffer in front
-- of older bytes too. A recv that fails leaves an older frame in that buffer.
inductive Event where
  | toServer (sent : Sent) (padding : List UInt8) (fork : Option Nat)
  | exits (pid : Nat)
  | drains (mode : Server.Drain)
  | terminates
  | toClient (i : Nat) (sent : Sent) (padding stale : List UInt8)
  | recvFails (i : Nat) (sent : Sent) (behind : List UInt8)
  | timeOut (i : Nat)
  | starts (i : Nat)
  | stranger (sent : Sent)

def atServer (site : Site) (net : Net) (event : Server.Event) : Option Net :=
  (Server.step site.server net.server event).map fun moved => { net with server := moved.1 }.puts moved.2

def atClient (site : Site) (net : Net) (i : Nat)
    (moves : Host → Client.Process → Option (Client.Process × List Client.Sending)) :
    Option Net :=
  site.hosts[i]?.bind fun host => (moves host (net.clients i)).map fun moved =>
    { net with clients := write net.clients i moved.1 }.puts (moved.2.filterMap (sentBy host))

-- The process of a host can be started, and started again, at any time.
def next (site : Site) (net : Net) : Event → Option Net
  | .toServer sent padding fork =>
      if sent ∈ net.air then atServer site net (.packet sent.ethif (arrived sent.frame padding) fork) else none
  | .exits pid => atServer site net (.childExit pid)
  | .drains mode => atServer site net (.setDrain mode)
  | .terminates => atServer site net .terminate
  | .toClient i sent padding stale => atClient site net i fun host client =>
      if sent ∈ net.air ∧ sent.ethif = host.face then
        Client.step host.cfg client
          (.receive (arrived sent.frame (padding ++ stale))
            (some (hdrSize + sent.frame.payload.length + padding.length)))
      else none
  | .recvFails i sent behind => atClient site net i fun host client =>
      if sent ∈ net.air ∧ sent.ethif = host.face then Client.step host.cfg client
        (.receive (arrived sent.frame behind) none) else none
  | .timeOut i => atClient site net i fun host client => Client.step host.cfg client .timeOut
  | .starts i => atClient site net i fun host _ => some (Client.main host.cfg)
  | .stranger sent => if foreign site sent then some (net.puts [sent]) else none

def idle : Client.Process := ⟨⟨.terminated, Server.noMac, 0, 0, none, none, false⟩, .exited, 0⟩

def start (site : Site) : Net := ⟨Server.initServer site.server site.order, fun _ => idle, []⟩

def serverEvent : Event → Option Server.Event
  | .toServer sent padding fork => some (.packet sent.ethif (arrived sent.frame padding) fork)
  | .exits pid => some (.childExit pid)
  | .drains mode => some (.setDrain mode)
  | .terminates => some .terminate
  | _ => none

def Hears (net : Net) (host : Host) : Client.Event → Prop
  | .receive packet _ => ∃ sent ∈ net.air, sent.ethif = host.face ∧ ∃ behind, packet = arrived sent.frame behind
  | .timeOut => True

inductive Moves (site : Site) (net : Net) (event : Event) : Net → Prop where
  | server (e : Server.Event) (moved : Server.ServerState × List Sent) (here : serverEvent event = some e)
      (ran : Server.step site.server net.server e = some moved) : Moves site net event
        ({ net with server := moved.1 }.puts moved.2)
  | client (i : Nat) (host : Host) (e : Client.Event) (moved : Client.Process × List Client.Sending)
      (known : site.hosts[i]? = some host) (elsewhere : serverEvent event = none) (hears : Hears net host e)
      (waits : e = .timeOut → event = .timeOut i) (ran : Client.step host.cfg (net.clients i) e = some moved) :
      Moves site net event ({ net with clients := write net.clients i moved.1 }.puts (moved.2.filterMap (sentBy host)))
  | starts (i : Nat) (host : Host) (known : site.hosts[i]? = some host) (elsewhere : serverEvent event = none) :
      Moves site net event ({ net with clients := write net.clients i (Client.main host.cfg).1 }.puts
        ((Client.main host.cfg).2.filterMap (sentBy host)))
  | stranger (sent : Sent) (elsewhere : serverEvent event = none) (outside : foreign site sent = true) :
      Moves site net event (net.puts [sent])

theorem atServer_moves (site : Site) (net next : Net) (event : Event) (e : Server.Event)
    (here : serverEvent event = some e)
    (ran : atServer site net e = some next) : Moves site net event next := by
  obtain ⟨moved, stepped, rfl⟩ := Option.map_eq_some_iff.mp ran
  exact .server e moved here stepped

theorem atClient_moves (site : Site) (net next : Net) (event : Event) (i : Nat)
    (moves : Host → Client.Process → Option (Client.Process × List Client.Sending))
    (ran : atClient site net i moves = some next)
    (shown : ∀ host moved, site.hosts[i]? = some host → moves host (net.clients i) = some moved → Moves site net event
      ({ net with clients := write net.clients i moved.1 }.puts (moved.2.filterMap (sentBy host)))) : Moves site net
        event next := by
  obtain ⟨host, known, ran⟩ := Option.bind_eq_some_iff.mp ran
  obtain ⟨moved, stepped, rfl⟩ := Option.map_eq_some_iff.mp ran
  exact shown host moved known stepped

theorem next_moves (site : Site) (net net' : Net) (event : Event) (ran : next site net event = some net') :
    Moves site net event net' := by
  cases event with
  | toServer sent padding fork =>
      rw [next] at ran
      split at ran
      · exact atServer_moves site net net' _ _ rfl ran
      · cases ran
  | exits pid => exact atServer_moves site net net' _ _ rfl ran
  | drains mode => exact atServer_moves site net net' _ _ rfl ran
  | terminates => exact atServer_moves site net net' _ _ rfl ran
  | toClient i sent padding stale =>
      rw [next] at ran
      refine atClient_moves site net net' _ i _ ran fun host moved known ran => ?_
      split at ran
      next heard =>
        exact .client i host (.receive _ _) moved known rfl ⟨sent, heard.1, heard.2, _, rfl⟩
          (fun late => by cases late) ran
      next => cases ran
  | recvFails i sent behind =>
      rw [next] at ran
      refine atClient_moves site net net' _ i _ ran fun host moved known ran => ?_
      split at ran
      next heard =>
        exact .client i host (.receive _ _) moved known rfl ⟨sent, heard.1, heard.2, _, rfl⟩
          (fun late => by cases late) ran
      next => cases ran
  | timeOut i =>
      rw [next] at ran
      refine atClient_moves site net net' _ i _ ran fun host moved known ran => ?_
      exact .client i host .timeOut moved known rfl trivial (fun _ => rfl) ran
  | starts i =>
      rw [next] at ran
      refine atClient_moves site net net' _ i _ ran fun host moved known ran => ?_
      obtain rfl := Option.some.inj ran
      exact .starts i host known rfl
  | stranger sent =>
      rw [next] at ran
      split at ran
      next outside =>
        obtain rfl := Option.some.inj ran
        exact .stranger sent rfl outside
      next => cases ran

end ZyAgf.Pppoe.Lan
