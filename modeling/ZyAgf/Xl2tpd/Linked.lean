import ZyAgf.Xl2tpd.PerformedRun

set_option autoImplicit false

namespace ZyAgf.Xl2tpd

def Tunnel.links (tun : Tunnel) : Bool × List CallPtr × Nat × Option CallPtr :=
    (tun.live, tun.calls, tun.ourtid, tun.self)

def Call.links (cal : Call) : Bool × Nat × TunnelPtr := (cal.live, cal.ourcid, cal.container)

theorem links_of_core {tun new : Tunnel} (same : new.core = tun.core) : new.links = tun.links :=
  congrArg (fun core : TunnelCore => (core.live, core.calls, core.ourtid, core.self)) same

theorem callLinks_of_core {cal new : Call} (same : new.core = cal.core) : new.links = cal.links :=
  congrArg (fun core : CallCore => (core.live, core.ourcid, core.container)) same

-- Nothing has been made, destroyed or moved.
structure SameLinks (d d' : Daemon) : Prop where
  tunnels : d'.tunnels = d.tunnels
  fresh : d.fresh ≤ d'.fresh
  tunnel : ∀ t, (d'.tunnel t).links = (d.tunnel t).links
  blank : ∀ t, (d.tunnel t).live = false → d'.tunnel t = d.tunnel t
  call : ∀ c, (d'.call c).links = (d.call c).links

theorem sameLinks_tunnel (d : Daemon) (t : TunnelPtr) (new : Tunnel) (live : (d.tunnel t).live = true)
    (same : new.links = (d.tunnel t).links) : SameLinks d { d with tunnel := write d.tunnel t new } where
  tunnels := rfl
  fresh := Nat.le_refl _
  tunnel := write_same d.tunnel Tunnel.links t new same
  blank := by
    intro other dead
    refine write_elsewhere d.tunnel t other new ?_
    rintro rfl
    rw [live] at dead
    cases dead
  call := fun _ => rfl

theorem sameLinks_call (d : Daemon) (c : CallPtr) (new : Call) (same : new.links = (d.call c).links) :
    SameLinks d { d with call := write d.call c new } where
  tunnels := rfl
  fresh := Nat.le_refl _
  tunnel := fun _ => rfl
  blank := fun _ _ => rfl
  call := write_same d.call Call.links c new same

def Op.Relinks : Op → Prop
  | .newTunnel _ _ | .newCall _ | .destroyCall _ | .unlink _ | .bury _ => True
  | _ => False

theorem perform_sameLinks (env : Env) (d d' : Daemon) (op : Op) (still : ¬ op.Relinks)
    (done : perform env d op = some d') :
    SameLinks d d' := by
  have effect := perform_effect env d d' op done
  cases op with
  | aside rest =>
      obtain ⟨grows, rfl⟩ := effect
      exact ⟨rfl, grows, fun _ => rfl, fun _ _ => rfl, fun _ => rfl⟩
  | tunnel t new =>
      obtain ⟨live, core, rfl⟩ := effect
      exact sameLinks_tunnel d t new live (links_of_core core)
  | call c new =>
      obtain ⟨_, core, rfl⟩ := effect
      exact sameLinks_call d c new (callLinks_of_core core)
  | leaves l =>
      obtain ⟨_, rfl⟩ := effect
      exact ⟨rfl, Nat.le_refl _, fun _ => rfl, fun _ _ => rfl, fun _ => rfl⟩
  | addLns entry =>
      obtain rfl := effect
      exact ⟨rfl, Nat.le_succ _, fun _ => rfl, fun _ _ => rfl, fun _ => rfl⟩
  | editLns l options =>
      obtain ⟨_, rfl⟩ := effect
      exact ⟨rfl, Nat.le_refl _, fun _ => rfl, fun _ _ => rfl, fun _ => rfl⟩
  | dropLns l =>
      obtain ⟨_, rfl⟩ := effect
      exact ⟨rfl, Nat.le_refl _, fun _ => rfl, fun _ _ => rfl, fun _ => rfl⟩
  | raise t m new =>
      obtain ⟨live, core, rfl⟩ := effect
      exact sameLinks_tunnel d t new live
        (congrArg (fun core : TunnelCore => (core.live, core.calls, core.ourtid, core.self)) core)
  | raiseCall c m new =>
      obtain ⟨_, core, rfl⟩ := effect
      exact sameLinks_call d c new (congrArg (fun core : CallCore => (core.live, core.ourcid, core.container)) core)
  | mark c msgtype =>
      obtain ⟨_, rfl⟩ := effect
      exact sameLinks_call d c _ rfl
  | choose t l =>
      obtain ⟨live, rfl⟩ := effect
      exact sameLinks_tunnel d t _ live rfl
  | challenge t chal =>
      obtain ⟨live, rfl⟩ := effect
      exact sameLinks_tunnel d t _ live rfl
  | free c new =>
      obtain ⟨_, _, core, rfl⟩ := effect
      exact sameLinks_call d c new (congrArg (fun core : CallCore => (core.live, core.ourcid, core.container)) core)
  | assign c addr =>
      obtain ⟨_, _, rfl⟩ := effect
      have same := sameLinks_call d c { d.call c with addr := addr } rfl
      exact ⟨rfl, same.fresh, same.tunnel, same.blank, same.call⟩
  | takeLocal c addr =>
      obtain ⟨_, _, _, _, _, _, rfl⟩ := effect
      exact ⟨rfl, Nat.le_refl _, fun _ => rfl, fun _ _ => rfl, fun _ => rfl⟩
  | check buf t c =>
      rcases effect with rfl | ⟨live, rfl⟩
      · exact ⟨rfl, Nat.le_refl _, fun _ => rfl, fun _ _ => rfl, fun _ => rfl⟩
      · have tunnel := sameLinks_tunnel d t (checkedTunnel buf (d.tunnel t)) live
          (by unfold checkedTunnel; split <;> rfl)
        have call := sameLinks_call d c (checkedCall buf (d.tunnel t) (d.call c))
          (callLinks_of_core (checkedCall_core _ _ _))
        exact ⟨rfl, Nat.le_refl _, tunnel.tunnel, tunnel.blank, call.call⟩
  | zlb t c =>
      obtain ⟨live, _, rfl⟩ := effect
      have tunnel := sameLinks_tunnel d t
        { d.tunnel t with controlRecSeqNum := (d.tunnel t).controlRecSeqNum - 1 } live rfl
      exact ⟨rfl, Nat.le_refl _, tunnel.tunnel, tunnel.blank, write_same d.call Call.links c _ rfl⟩
  | newTunnel peer refhim => exact (still trivial).elim
  | newCall t => exact (still trivial).elim
  | destroyCall c => exact (still trivial).elim
  | unlink t => exact (still trivial).elim
  | bury t => exact (still trivial).elim

-- Every tunnel on the list is live and knows its own entry; its calls are live,
-- on its list once, and know it. Nothing lives at an address yet to be given out.
structure Linked (d : Daemon) : Prop where
  listed : Listed d
  blank : ∀ t, d.fresh ≤ t → d.tunnel t = noTunnel
  unborn : ∀ c, d.fresh ≤ c → (d.call c).live = false
  live : ∀ t ∈ d.tunnels, (d.tunnel t).live = true
  own : ∀ t ∈ d.tunnels, (d.tunnel t).self ≠ none
  nodup : ∀ t ∈ d.tunnels, (d.tunnel t).calls.Nodup
  calls : ∀ t ∈ d.tunnels, ∀ c ∈ (d.tunnel t).calls, (d.call c).live = true ∧ (d.call c).container = t

theorem Linked.call_old {d : Daemon} (linked : Linked d) (c : CallPtr)
    (live : (d.call c).live = true) : c < d.fresh := by
  refine Nat.lt_of_not_le fun late => ?_
  rw [linked.unborn c late] at live
  cases live

theorem Linked.tunnel_old {d : Daemon} (linked : Linked d) (t : TunnelPtr)
    (live : (d.tunnel t).live = true) : t < d.fresh := by
  refine Nat.lt_of_not_le fun late => ?_
  rw [linked.blank t late] at live
  cases live

theorem Linked.of_sameLinks {d d' : Daemon} (linked : Linked d) (same : SameLinks d d') : Linked d' := by
  have tunnelLive (t : TunnelPtr) : (d'.tunnel t).live = (d.tunnel t).live := congrArg Prod.fst (same.tunnel t)
  have tunnelCalls (t : TunnelPtr) : (d'.tunnel t).calls = (d.tunnel t).calls :=
    congrArg (fun links => links.2.1) (same.tunnel t)
  have tunnelSelf (t : TunnelPtr) : (d'.tunnel t).self = (d.tunnel t).self :=
    congrArg (fun links => links.2.2.2) (same.tunnel t)
  have callLive (c : CallPtr) : (d'.call c).live = (d.call c).live := congrArg Prod.fst (same.call c)
  have container (c : CallPtr) : (d'.call c).container = (d.call c).container :=
    congrArg (fun links => links.2.2) (same.call c)
  constructor
  · rw [Listed, same.tunnels]
    exact ⟨linked.listed.1, fun t member => Nat.lt_of_lt_of_le (linked.listed.2 t member) same.fresh⟩
  · intro t late
    have blank := linked.blank t (Nat.le_trans same.fresh late)
    rw [same.blank t (by rw [blank]; rfl), blank]
  · intro c late
    rw [callLive]
    exact linked.unborn c (Nat.le_trans same.fresh late)
  · intro t member
    rw [tunnelLive]
    exact linked.live t (same.tunnels ▸ member)
  · intro t member
    rw [tunnelSelf]
    exact linked.own t (same.tunnels ▸ member)
  · intro t member
    rw [tunnelCalls]
    exact linked.nodup t (same.tunnels ▸ member)
  · intro t member c called
    rw [callLive, container]
    rw [tunnelCalls] at called
    exact linked.calls t (same.tunnels ▸ member) c called

theorem linked_init (deflns : Option Lns) (lnslist : List Lns) (deflac : Option Lac) (laclist : List Lac) :
    Linked (initDaemon deflns lnslist deflac laclist) where
  listed := initDaemon_listed deflns lnslist deflac laclist
  blank := fun _ _ => rfl
  unborn := fun _ _ => rfl
  live := fun _ member => by cases member
  own := fun _ member => by cases member
  nodup := fun _ member => by cases member
  calls := fun _ member => by cases member

-- Where the records that are made or destroyed have changed, and where not.
section Made

variable (env : Env) (d : Daemon) (peer : SockAddr) (refhim : Nat) (t : TunnelPtr) (c : CallPtr)

theorem withTunnel_here :
    (withTunnel env d peer refhim).tunnel d.fresh = madeTunnel (drawnId env d) (d.fresh + 1) peer refhim :=
  write_here _ _ _

theorem withTunnel_elsewhere (old : t ≠ d.fresh) : (withTunnel env d peer refhim).tunnel t = d.tunnel t :=
  write_elsewhere _ _ _ _ old

theorem withTunnel_call (old : c ≠ d.fresh + 1) : (withTunnel env d peer refhim).call c = d.call c :=
  write_elsewhere _ _ _ _ old

theorem withLostTunnel_here :
    (withLostTunnel env d).tunnel d.fresh = { Tunnel.created (drawnId env d) with live := false } :=
  write_here _ _ _

theorem withLostTunnel_elsewhere (old : t ≠ d.fresh) : (withLostTunnel env d).tunnel t = d.tunnel t :=
  write_elsewhere _ _ _ _ old

theorem withLinkedCall_here :
    (withLinkedCall env d t).tunnel t = { d.tunnel t with calls := d.fresh :: (d.tunnel t).calls } :=
  write_here _ _ _

theorem withLinkedCall_elsewhere (other : TunnelPtr) (different : other ≠ t) :
    (withLinkedCall env d t).tunnel other = d.tunnel other :=
  write_elsewhere _ _ _ _ different

theorem withLinkedCall_made : (withLinkedCall env d t).call d.fresh = Call.created t (d.tunnel t) (callId env d t) :=
  write_here _ _ _

theorem withLinkedCall_call (old : c ≠ d.fresh) : (withLinkedCall env d t).call c = d.call c :=
  write_elsewhere _ _ _ _ old

def withoutCall : Daemon :=
  { d with
    tunnel := write d.tunnel (d.call c).container
      { d.tunnel (d.call c).container with calls := (d.tunnel (d.call c).container).calls.erase c }
    call := write d.call c { d.call c with live := false, fd := -1, pppd := 0 }
    uaddr := d.uaddr.filter (· ∉ releasedBy d (d.call c)) }

theorem withoutCall_here : (withoutCall d c).tunnel (d.call c).container =
    { d.tunnel (d.call c).container with calls := (d.tunnel (d.call c).container).calls.erase c } :=
  write_here _ _ _

theorem withoutCall_elsewhere (different : t ≠ (d.call c).container) : (withoutCall d c).tunnel t = d.tunnel t :=
  write_elsewhere _ _ _ _ different

theorem withoutCall_gone : (withoutCall d c).call c = { d.call c with live := false, fd := -1, pppd := 0 } :=
  write_here _ _ _

theorem withoutCall_call (other : CallPtr) (different : other ≠ c) : (withoutCall d c).call other = d.call other :=
  write_elsewhere _ _ _ _ different

end Made

theorem linked_withTunnel (env : Env) (d : Daemon) (peer : SockAddr) (refhim : Nat) (linked : Linked d) :
    Linked (withTunnel env d peer refhim) := by
  have tunnelElse := withTunnel_elsewhere env d peer refhim
  have callElse := withTunnel_call env d peer refhim
  have made := withTunnel_here env d peer refhim
  have older (t : TunnelPtr) (member : t ∈ d.tunnels) : t ≠ d.fresh := Nat.ne_of_lt (linked.listed.2 t member)
  constructor
  · refine ⟨List.nodup_cons.mpr ⟨fun member => older _ member rfl, linked.listed.1⟩, fun t member => ?_⟩
    rcases List.mem_cons.mp member with rfl | old
    · exact Nat.lt_add_of_pos_right (by decide)
    · exact Nat.lt_add_right 2 (linked.listed.2 t old)
  · intro t late
    have late : d.fresh + 2 ≤ t := late
    rw [tunnelElse t (Nat.ne_of_gt (by omega))]
    exact linked.blank t (by omega)
  · intro c late
    have late : d.fresh + 2 ≤ c := late
    rw [callElse c (Nat.ne_of_gt (by omega))]
    exact linked.unborn c (by omega)
  · intro t member
    rcases List.mem_cons.mp member with rfl | old
    · rw [made]; rfl
    · rw [tunnelElse t (older t old)]
      exact linked.live t old
  · intro t member
    rcases List.mem_cons.mp member with rfl | old
    · rw [made]; exact Option.some_ne_none _
    · rw [tunnelElse t (older t old)]
      exact linked.own t old
  · intro t member
    rcases List.mem_cons.mp member with rfl | old
    · rw [made]; exact List.nodup_nil
    · rw [tunnelElse t (older t old)]
      exact linked.nodup t old
  · intro t member c called
    rcases List.mem_cons.mp member with rfl | old
    · rw [made] at called
      cases called
    · rw [tunnelElse t (older t old)] at called
      have known := linked.calls t old c called
      have young := linked.call_old c known.1
      rw [callElse c (Nat.ne_of_lt (Nat.lt_succ_of_lt young))]
      exact known

theorem linked_withLostTunnel (env : Env) (d : Daemon) (linked : Linked d) : Linked (withLostTunnel env d) := by
  have tunnelElse := withLostTunnel_elsewhere env d
  have older (t : TunnelPtr) (member : t ∈ d.tunnels) : t ≠ d.fresh := Nat.ne_of_lt (linked.listed.2 t member)
  constructor
  · exact ⟨linked.listed.1, fun t member => Nat.lt_succ_of_lt (linked.listed.2 t member)⟩
  · intro t late
    have late : d.fresh + 1 ≤ t := late
    rw [tunnelElse t (Nat.ne_of_gt (by omega))]
    exact linked.blank t (by omega)
  · exact fun c late => linked.unborn c (Nat.le_of_succ_le late)
  · intro t member
    rw [tunnelElse t (older t member)]
    exact linked.live t member
  · intro t member
    rw [tunnelElse t (older t member)]
    exact linked.own t member
  · intro t member
    rw [tunnelElse t (older t member)]
    exact linked.nodup t member
  · intro t member c called
    rw [tunnelElse t (older t member)] at called
    exact linked.calls t member c called

theorem linked_withLinkedCall (env : Env) (d : Daemon) (t : TunnelPtr) (live : (d.tunnel t).live = true)
    (linked : Linked d) :
    Linked (withLinkedCall env d t) := by
  have callElse := withLinkedCall_call env d t
  have here := withLinkedCall_here env d t
  have tunnelElse := withLinkedCall_elsewhere env d t
  have known (other : TunnelPtr) (member : other ∈ d.tunnels) (c : CallPtr) (called : c ∈ (d.tunnel other).calls) :
      c ≠ d.fresh := Nat.ne_of_lt (linked.call_old c (linked.calls other member c called).1)
  constructor
  · exact ⟨linked.listed.1, fun other member => Nat.lt_succ_of_lt (linked.listed.2 other member)⟩
  · intro other late
    have late : d.fresh + 1 ≤ other := late
    have young := linked.tunnel_old t live
    rw [tunnelElse other (Nat.ne_of_gt (Nat.lt_of_lt_of_le young (Nat.le_of_succ_le late)))]
    exact linked.blank other (by omega)
  · intro c late
    have late : d.fresh + 1 ≤ c := late
    rw [callElse c (Nat.ne_of_gt (by omega))]
    exact linked.unborn c (by omega)
  · intro other member
    by_cases same : other = t
    · rw [same, here]
      exact live
    · rw [tunnelElse other same]
      exact linked.live other member
  · intro other member
    by_cases same : other = t
    · subst same
      rw [here]
      exact linked.own other member
    · rw [tunnelElse other same]
      exact linked.own other member
  · intro other member
    by_cases same : other = t
    · subst same
      rw [here]
      exact List.nodup_cons.mpr ⟨fun called => known other member d.fresh called rfl, linked.nodup other member⟩
    · rw [tunnelElse other same]
      exact linked.nodup other member
  · intro other member c called
    by_cases same : other = t
    · subst same
      rw [here] at called
      rcases List.mem_cons.mp called with rfl | old
      · rw [withLinkedCall_made]
        exact ⟨rfl, rfl⟩
      · rw [callElse c (known other member c old)]
        exact linked.calls other member c old
    · rw [tunnelElse other same] at called
      rw [callElse c (known other member c called)]
      exact linked.calls other member c called

theorem linked_withoutCall (d : Daemon) (c : CallPtr) (containerLive : (d.tunnel (d.call c).container).live = true)
    (linked : Linked d) : Linked (withoutCall d c) := by
  have callElse := withoutCall_call d c
  have here := withoutCall_here d c
  have tunnelElse (t : TunnelPtr) := withoutCall_elsewhere d t c
  constructor
  · exact linked.listed
  · intro t late
    have old := linked.tunnel_old _ containerLive
    rw [tunnelElse t (Nat.ne_of_gt (Nat.lt_of_lt_of_le old late))]
    exact linked.blank t late
  · intro other late
    by_cases same : other = c
    · subst same
      rw [withoutCall_gone]
    · rw [callElse other same]
      exact linked.unborn other late
  · intro t member
    by_cases same : t = (d.call c).container
    · rw [same, here]
      exact containerLive
    · rw [tunnelElse t same]
      exact linked.live t member
  · intro t member
    by_cases same : t = (d.call c).container
    · rw [same, here]
      exact linked.own _ (same ▸ member)
    · rw [tunnelElse t same]
      exact linked.own t member
  · intro t member
    by_cases same : t = (d.call c).container
    · rw [same, here]
      exact (linked.nodup _ (same ▸ member)).erase c
    · rw [tunnelElse t same]
      exact linked.nodup t member
  · intro t member other called
    have listed : other ∈ (d.tunnel t).calls ∧ other ≠ c := by
      by_cases same : t = (d.call c).container
      · rw [same, here] at called
        rw [same]
        exact ((linked.nodup _ (same ▸ member)).mem_erase_iff.mp called).symm
      · rw [tunnelElse t same] at called
        refine ⟨called, ?_⟩
        rintro rfl
        exact same (linked.calls t member other called).2.symm
    rw [callElse other listed.2]
    exact linked.calls t member other listed.1

theorem linked_aside (d : Daemon) (rest : Aside) (grows : d.fresh ≤ rest.fresh) (linked : Linked d) :
    Linked (d.aside rest) :=
  linked.of_sameLinks ⟨rfl, grows, fun _ => rfl, fun _ _ => rfl, fun _ => rfl⟩

theorem perform_linked (env : Env) (d d' : Daemon) (op : Op) (linked : Linked d) (done : perform env d op = some d') :
    Linked d' := by
  by_cases still : op.Relinks
  · have effect := perform_effect env d d' op done
    cases op with
    | newTunnel peer refhim =>
        rcases effect with rfl | rfl | rfl
        · exact linked
        · exact linked_withLostTunnel env d linked
        · exact linked_withTunnel env d peer refhim linked
    | newCall t =>
        rcases effect with rfl | ⟨live, rfl⟩
        · exact linked
        · exact linked_withLinkedCall env d t live linked
    | destroyCall c =>
        obtain ⟨_, containerLive, rest, grows, rfl⟩ := effect
        exact linked_aside (withoutCall d c) rest grows (linked_withoutCall d c containerLive linked)
    | unlink t =>
        obtain rfl := effect
        have fewer (other : TunnelPtr) (member : other ∈ d.tunnels.erase t) : other ∈ d.tunnels :=
          List.mem_of_mem_erase member
        exact ⟨listed_erase d t linked.listed, linked.blank, linked.unborn, fun other member =>
          linked.live other (fewer other member),
          fun other member => linked.own other (fewer other member), fun other member =>
            linked.nodup other (fewer other member),
          fun other member => linked.calls other (fewer other member)⟩
    | bury t =>
        obtain ⟨live, absent, rfl⟩ := effect
        have elsewhere (other : TunnelPtr) (member : other ∈ d.tunnels) :
            write d.tunnel t { d.tunnel t with live := false } other = d.tunnel other := by
          refine write_elsewhere _ _ _ _ ?_
          rintro rfl
          exact absent member
        refine ⟨linked.listed, ?_, linked.unborn, ?_, ?_, ?_, ?_⟩
        · intro other late
          have old := linked.tunnel_old t live
          have late : d.fresh ≤ other := late
          exact (write_elsewhere _ _ _ _ (Nat.ne_of_gt (Nat.lt_of_lt_of_le old late))).trans (linked.blank other late)
        · exact fun other member => (congrArg Tunnel.live (elsewhere other member)).trans (linked.live other member)
        · intro other member
          show (write d.tunnel t _ other).self ≠ none
          rw [elsewhere other member]
          exact linked.own other member
        · intro other member
          show (write d.tunnel t _ other).calls.Nodup
          rw [elsewhere other member]
          exact linked.nodup other member
        · intro other member c called
          change c ∈ (write d.tunnel t _ other).calls at called
          rw [elsewhere other member] at called
          exact linked.calls other member c called
    | _ => exact still.elim
  · exact linked.of_sameLinks (perform_sameLinks env d d' op still done)

theorem perform_dead (env : Env) (d d' : Daemon) (op : Op) (c : CallPtr) (old : c < d.fresh)
    (dead : (d.call c).live = false)
    (done : perform env d op = some d') : c < d'.fresh ∧ (d'.call c).live = false := by
  by_cases still : op.Relinks
  · have effect := perform_effect env d d' op done
    cases op with
    | newTunnel peer refhim =>
        rcases effect with rfl | rfl | rfl
        · exact ⟨old, dead⟩
        · exact ⟨Nat.lt_succ_of_lt old, dead⟩
        · refine ⟨Nat.lt_add_right 2 old, ?_⟩
          rw [withTunnel_call env d peer refhim c (Nat.ne_of_lt (Nat.lt_succ_of_lt old))]
          exact dead
    | newCall t =>
        rcases effect with rfl | ⟨_, rfl⟩
        · exact ⟨old, dead⟩
        · refine ⟨Nat.lt_succ_of_lt old, ?_⟩
          rw [withLinkedCall_call env d t c (Nat.ne_of_lt old)]
          exact dead
    | destroyCall x =>
        obtain ⟨_, _, rest, grows, rfl⟩ := effect
        refine ⟨Nat.lt_of_lt_of_le old grows, ?_⟩
        show ((withoutCall d x).call c).live = false
        by_cases same : c = x
        · rw [same, withoutCall_gone]
        · rw [withoutCall_call d x c same]
          exact dead
    | unlink t =>
        obtain rfl := effect
        exact ⟨old, dead⟩
    | bury t =>
        obtain ⟨_, _, rfl⟩ := effect
        exact ⟨old, dead⟩
    | _ => exact still.elim
  · have same := perform_sameLinks env d d' op still done
    exact ⟨Nat.lt_of_lt_of_le old same.fresh, (congrArg Prod.fst (same.call c)).trans dead⟩

end ZyAgf.Xl2tpd
