import ZyAgf.Library.Chain
import ZyAgf.Xl2tpd.Message

set_option autoImplicit false

namespace ZyAgf.Xl2tpd

-- The links and counters behind the lists of a daemon: tunnels.head and
-- tunnels.count, a tunnel's next, call_head and count, and a call's next.
structure Lists where
  head : Option TunnelPtr
  count : Int
  next : TunnelPtr → Option TunnelPtr
  callHead : TunnelPtr → Option CallPtr
  callCount : TunnelPtr → Int
  callNext : CallPtr → Option CallPtr

def noLists : Lists := ⟨none, 0, fun _ => none, fun _ => none, fun _ => 0, fun _ => none⟩

namespace Lists

-- new_tunnel and get_call.
def insertTunnel (h : Lists) (t : TunnelPtr) : Lists :=
  { h with
    callHead := write h.callHead t none
    callCount := write h.callCount t 0
    next := write h.next t h.head
    head := some t
    count := h.count + 1 }

-- lac_call, and message_type_avp for an ICRQ.
def insertCall (h : Lists) (t : TunnelPtr) (c : CallPtr) : Lists :=
  { h with
    callNext := write h.callNext c (h.callHead t)
    callHead := write h.callHead t (some c)
    callCount := write h.callCount t (h.callCount t + 1) }

-- destroy_call takes the call off its container's list, where it may not be.
def removeCall (h : Lists) (fuel : Nat) (t : TunnelPtr) (c : CallPtr) : Lists :=
  let (head, next, found) := unlinkAhead h.callNext fuel (h.callHead t) c
  { h with
    callHead := write h.callHead t head
    callNext := next
    callCount := write h.callCount t (if found then h.callCount t - 1 else h.callCount t) }

-- destroy_tunnel, once its calls are gone.
def removeTunnel (h : Lists) (fuel : Nat) (t : TunnelPtr) : Lists :=
  let (head, next, found) := unlinkAhead h.next fuel h.head t
  { h with head := head, next := next, count := if found then h.count - 1 else h.count }

-- destroy_tunnel's loop reads the next call before it destroys this one.
def removeCalls (fuel : Nat) (t : TunnelPtr) : Nat → Option CallPtr → Lists → Lists
  | 0, _, h => h
  | _ + 1, none, h => h
  | rounds + 1, some c, h => removeCalls fuel t rounds (h.callNext c) (h.removeCall fuel t c)

def destroyTunnel (h : Lists) (fuel : Nat) (t : TunnelPtr) (self : CallPtr) : Lists :=
  ((removeCalls fuel t (fuel + 1) (h.callHead t) h).removeTunnel fuel t).removeCall fuel t self

end Lists

-- What an operation does to the links. No list has more elements than there are
-- addresses in use, so that many rounds are enough for a walk.
def relink (env : Env) (d : Daemon) (h : Lists) : Op → Lists
  | .newTunnel peer refhim =>
      match addTunnel env peer refhim d with
      | some (some _, _) => h.insertTunnel d.fresh
      | _ => h
  | .newCall t =>
      match addIncomingCall env t d with
      | some (0, _) => h.insertCall t d.fresh
      | _ => h
  | .destroyCall c => h.removeCall d.fresh (d.call c).container c
  | .unlink t => h.removeTunnel d.fresh t
  | _ => h

def listsAfter (cfg : Config) (turns : List (Daemon × (World × Op))) : Lists :=
  turns.foldl (fun h turn => relink { toConfig := cfg, toWorld := turn.2.1 } turn.1 h turn.2.2) noLists

-- Every call that a tunnel, listed or not, has on its list is its own, and its
-- own entry is not among them.
structure Filed (d : Daemon) : Prop where
  nodup : ∀ t, (d.tunnel t).calls.Nodup
  container : ∀ t, ∀ c ∈ (d.tunnel t).calls, (d.call c).container = t ∧ c < d.fresh
  self : ∀ t s, (d.tunnel t).self = some s → s < d.fresh ∧ s ∉ (d.tunnel t).calls

theorem filed_init (deflns : Option Lns) (lnslist : List Lns) (deflac : Option Lac) (laclist : List Lac) :
    Filed (initDaemon deflns lnslist deflac laclist) where
  nodup := fun _ => List.nodup_nil
  container := fun _ _ member => by cases member
  self := fun _ _ own => by cases own

theorem filed_kept (d d' : Daemon) (filed : Filed d) (grows : d.fresh ≤ d'.fresh)
    (calls : ∀ t, (d'.tunnel t).calls.Sublist (d.tunnel t).calls) (self : ∀ t, (d'.tunnel t).self = (d.tunnel t).self)
    (container : ∀ c, (d'.call c).container = (d.call c).container) : Filed d' where
  nodup t := (filed.nodup t).sublist (calls t)
  container t c member := by
    obtain ⟨inside, old⟩ := filed.container t c ((calls t).subset member)
    exact ⟨(container c).trans inside, Nat.lt_of_lt_of_le old grows⟩
  self t s own := by
    rw [self t] at own
    obtain ⟨old, apart⟩ := filed.self t s own
    exact ⟨Nat.lt_of_lt_of_le old grows, fun member => apart ((calls t).subset member)⟩

theorem filed_withTunnel (env : Env) (d : Daemon) (peer : SockAddr) (refhim : Nat) (filed : Filed d) :
    Filed (withTunnel env d peer refhim) := by
  have tunnelElse := withTunnel_elsewhere env d peer refhim
  have callElse := withTunnel_call env d peer refhim
  have made := withTunnel_here env d peer refhim
  constructor
  · intro t
    by_cases new : t = d.fresh
    · rw [new, made]
      exact List.nodup_nil
    · rw [tunnelElse t new]
      exact filed.nodup t
  · intro t c member
    by_cases new : t = d.fresh
    · rw [new, made] at member
      cases member
    · rw [tunnelElse t new] at member
      obtain ⟨inside, old⟩ := filed.container t c member
      rw [callElse c (Nat.ne_of_lt (Nat.lt_succ_of_lt old))]
      exact ⟨inside, Nat.lt_add_right 2 old⟩
  · intro t s own
    by_cases new : t = d.fresh
    · rw [new, made] at own ⊢
      obtain rfl : d.fresh + 1 = s := Option.some.inj own
      exact ⟨Nat.lt_succ_self _, fun member => by cases member⟩
    · rw [tunnelElse t new] at own ⊢
      obtain ⟨old, apart⟩ := filed.self t s own
      exact ⟨Nat.lt_add_right 2 old, apart⟩

theorem filed_withLostTunnel (env : Env) (d : Daemon) (filed : Filed d) : Filed (withLostTunnel env d) := by
  have tunnelElse := withLostTunnel_elsewhere env d
  have made := withLostTunnel_here env d
  constructor
  · intro t
    by_cases new : t = d.fresh
    · rw [new, made]
      exact List.nodup_nil
    · rw [tunnelElse t new]
      exact filed.nodup t
  · intro t c member
    by_cases new : t = d.fresh
    · rw [new, made] at member
      cases member
    · rw [tunnelElse t new] at member
      obtain ⟨inside, old⟩ := filed.container t c member
      exact ⟨inside, Nat.lt_succ_of_lt old⟩
  · intro t s own
    by_cases new : t = d.fresh
    · rw [new, made] at own
      cases own
    · rw [tunnelElse t new] at own ⊢
      obtain ⟨old, apart⟩ := filed.self t s own
      exact ⟨Nat.lt_succ_of_lt old, apart⟩

theorem filed_withLinkedCall (env : Env) (d : Daemon) (t : TunnelPtr) (filed : Filed d) : Filed
    (withLinkedCall env d t) := by
  have here := withLinkedCall_here env d t
  have tunnelElse := withLinkedCall_elsewhere env d t
  have callElse (c : CallPtr) (old : c < d.fresh) := withLinkedCall_call env d t c (Nat.ne_of_lt old)
  have new : d.fresh ∉ (d.tunnel t).calls := fun member => Nat.lt_irrefl _ (filed.container t d.fresh member).2
  constructor
  · intro u
    by_cases same : u = t
    · rw [same, here]
      exact List.nodup_cons.mpr ⟨new, filed.nodup t⟩
    · rw [tunnelElse u same]
      exact filed.nodup u
  · intro u c member
    have older (inside : c ∈ (d.tunnel u).calls) : ((withLinkedCall env d t).call c).container = u ∧
      c < d.fresh + 1 := by
      obtain ⟨filedIn, old⟩ := filed.container u c inside
      rw [callElse c old]
      exact ⟨filedIn, Nat.lt_succ_of_lt old⟩
    by_cases same : u = t
    · rw [same, here] at member
      rcases List.mem_cons.mp member with rfl | inside
      · rw [withLinkedCall_made, same]
        exact ⟨rfl, Nat.lt_succ_self _⟩
      · exact older (same ▸ inside)
    · rw [tunnelElse u same] at member
      exact older member
  · intro u s own
    by_cases same : u = t
    · rw [same, here] at own ⊢
      obtain ⟨old, apart⟩ := filed.self t s own
      refine ⟨Nat.lt_succ_of_lt old, fun member => ?_⟩
      rcases List.mem_cons.mp member with rfl | inside
      · exact Nat.lt_irrefl _ old
      · exact apart inside
    · rw [tunnelElse u same] at own ⊢
      obtain ⟨old, apart⟩ := filed.self u s own
      exact ⟨Nat.lt_succ_of_lt old, apart⟩

theorem perform_filed (env : Env) (d d' : Daemon) (op : Op) (filed : Filed d)
    (done : perform env d op = some d') : Filed d' := by
  by_cases still : op.Relinks
  · have effect := perform_effect env d d' op done
    cases op with
    | newTunnel peer refhim =>
        rcases effect with rfl | rfl | rfl
        · exact filed
        · exact filed_withLostTunnel env d filed
        · exact filed_withTunnel env d peer refhim filed
    | newCall t =>
        rcases effect with rfl | ⟨_, rfl⟩
        · exact filed
        · exact filed_withLinkedCall env d t filed
    | destroyCall x =>
        obtain ⟨_, _, rest, grows, rfl⟩ := effect
        refine filed_kept d _ filed grows (fun t => ?_) (fun t => ?_) fun c => ?_
        · show ((withoutCall d x).tunnel t).calls.Sublist _
          by_cases here : t = (d.call x).container
          · rw [here, withoutCall_here]
            exact List.erase_sublist
          · rw [withoutCall_elsewhere d t x here]
        · exact write_same d.tunnel Tunnel.self (d.call x).container { d.tunnel (d.call x).container with
            calls := (d.tunnel (d.call x).container).calls.erase x } rfl t
        · exact write_same d.call Call.container x { d.call x with live := false, fd := -1, pppd := 0 } rfl c
    | unlink t =>
        obtain rfl := effect
        exact filed_kept d _ filed (Nat.le_refl _) (fun _ => List.Sublist.refl _) (fun _ => rfl) fun _ => rfl
    | bury t =>
        obtain ⟨_, _, rfl⟩ := effect
        refine filed_kept d _ filed (Nat.le_refl _) (fun u => ?_) (fun u => ?_) fun _ => rfl
        · rw [write_same d.tunnel Tunnel.calls t { d.tunnel t with live := false } rfl u]
        · exact write_same d.tunnel Tunnel.self t { d.tunnel t with live := false } rfl u
    | _ => exact still.elim
  · have same := perform_sameLinks env d d' op still done
    refine filed_kept d d' filed same.fresh (fun t => ?_) (fun t => congrArg (fun links => links.2.2.2) (same.tunnel t))
      fun c =>
      congrArg (fun links => links.2.2) (same.call c)
    have calls : (d'.tunnel t).calls = (d.tunnel t).calls := congrArg (fun links => links.2.1) (same.tunnel t)
    rw [calls]

-- The links lead through the lists of the daemon, and the counters are their
-- lengths.
structure Consistent (d : Daemon) (h : Lists) : Prop where
  tunnels : Chain h.next h.head d.tunnels
  count : h.count = d.tunnels.length
  calls : ∀ t, Chain h.callNext (h.callHead t) (d.tunnel t).calls
  callCount : ∀ t, h.callCount t = (d.tunnel t).calls.length

theorem consistent_init (deflns : Option Lns) (lnslist : List Lns) (deflac : Option Lac) (laclist : List Lac) :
    Consistent (initDaemon deflns lnslist deflac laclist) noLists :=
  ⟨rfl, rfl, fun _ => rfl, fun _ => rfl⟩

theorem consistent_kept (d d' : Daemon) (h : Lists) (consistent : Consistent d h) (tunnels : d'.tunnels = d.tunnels)
    (calls : ∀ t, (d'.tunnel t).calls = (d.tunnel t).calls) : Consistent d' h where
  tunnels := by rw [tunnels]; exact consistent.tunnels
  count := by rw [tunnels]; exact consistent.count
  calls t := by rw [calls t]; exact consistent.calls t
  callCount t := by rw [calls t]; exact consistent.callCount t

theorem length_le_bound (xs : List Nat) (bound : Nat) (nodup : xs.Nodup)
    (below : ∀ x ∈ xs, x < bound) : xs.length ≤ bound := by
  have fits := (nodup.subperm fun x member => List.mem_range.mpr (below x member)).length_le
  rwa [List.length_range] at fits

theorem insertTunnel_consistent (env : Env) (d : Daemon) (h : Lists) (peer : SockAddr) (refhim : Nat)
    (listed : Listed d)
    (consistent : Consistent d h) : Consistent (withTunnel env d peer refhim) (h.insertTunnel d.fresh) where
  tunnels := by
    have older (t : TunnelPtr) (member : t ∈ d.tunnels) : t ≠ d.fresh := Nat.ne_of_lt (listed.2 t member)
    exact chain_push h.next _ h.head d.tunnels d.fresh (write_here _ _ _)
      (fun t member => write_elsewhere _ _ _ _ (older t member)) consistent.tunnels
  count := by
    show h.count + 1 = ((d.fresh :: d.tunnels).length : Int)
    rw [consistent.count, List.length_cons]
    rfl
  calls t := by
    by_cases new : t = d.fresh
    · rw [new, withTunnel_here]
      exact write_here _ _ _
    · rw [withTunnel_elsewhere env d peer refhim t new]
      show Chain h.callNext (write h.callHead d.fresh none t) _
      rw [write_elsewhere _ _ _ _ new]
      exact consistent.calls t
  callCount t := by
    by_cases new : t = d.fresh
    · rw [new, withTunnel_here]
      exact write_here _ _ _
    · rw [withTunnel_elsewhere env d peer refhim t new]
      exact (write_elsewhere _ _ _ _ new).trans (consistent.callCount t)

theorem insertCall_consistent (env : Env) (d : Daemon) (h : Lists) (t : TunnelPtr) (filed : Filed d)
    (consistent : Consistent d h) : Consistent (withLinkedCall env d t) (h.insertCall t d.fresh) := by
  have away (u : TunnelPtr) (c : CallPtr) (member : c ∈ (d.tunnel u).calls) :
      write h.callNext d.fresh (h.callHead t) c = h.callNext c :=
    write_elsewhere _ _ _ _ (Nat.ne_of_lt (filed.container u c member).2)
  refine ⟨consistent.tunnels, consistent.count, fun u => ?_, fun u => ?_⟩
  · by_cases same : u = t
    · rw [same, withLinkedCall_here]
      show Chain _ (write h.callHead t (some d.fresh) t) _
      rw [write_here]
      exact chain_push h.callNext _ (h.callHead t) _ d.fresh (write_here _ _ _) (away t) (consistent.calls t)
    · rw [withLinkedCall_elsewhere env d t u same]
      show Chain _ (write h.callHead t (some d.fresh) u) _
      rw [write_elsewhere _ _ _ _ same]
      exact chain_congr h.callNext _ (h.callHead u) _ (away u) (consistent.calls u)
  · by_cases same : u = t
    · rw [same, withLinkedCall_here]
      show write h.callCount t (h.callCount t + 1) t = _
      rw [write_here, consistent.callCount t, List.length_cons]
      rfl
    · rw [withLinkedCall_elsewhere env d t u same]
      exact (write_elsewhere _ _ _ _ same).trans (consistent.callCount u)

theorem counter_erase (xs : List Nat) (x : Nat) (count : Int) (right : count = xs.length) :
    (if decide (x ∈ xs) then count - 1 else count) = ((xs.erase x).length : Int) := by
  by_cases member : x ∈ xs
  · have positive := List.length_pos_of_mem member
    rw [if_pos (decide_eq_true member), List.length_erase_of_mem member, right]
    omega
  · rw [if_neg (by simpa using member), List.erase_of_not_mem member, right]

theorem filed_short (d : Daemon) (filed : Filed d) (t : TunnelPtr) : (d.tunnel t).calls.length ≤ d.fresh :=
  length_le_bound _ d.fresh (filed.nodup t) fun x member => (filed.container t x member).2

theorem removeCall_consistent (d d' : Daemon) (h : Lists) (c : CallPtr) (fuel : Nat) (enough : d.fresh ≤ fuel)
    (filed : Filed d)
    (consistent : Consistent d h) (tunnels : d'.tunnels = d.tunnels)
    (calls : ∀ t, (d'.tunnel t).calls = if t =
    (d.call c).container then (d.tunnel t).calls.erase c else (d.tunnel t).calls) :
    Consistent d' (h.removeCall fuel (d.call c).container c) := by
  obtain ⟨chain, found, away⟩ := unlinkAhead_chain h.callNext fuel _ _ c (filed.nodup _)
    (Nat.le_trans (filed_short d filed _) enough) (consistent.calls (d.call c).container)
  refine ⟨tunnels ▸ consistent.tunnels, tunnels ▸ consistent.count, fun t => ?_, fun t => ?_⟩
  · rw [calls t]
    by_cases same : t = (d.call c).container
    · rw [if_pos same, same]
      show Chain _ (write h.callHead (d.call c).container _ (d.call c).container) _
      rw [write_here]
      exact chain
    · rw [if_neg same]
      show Chain _ (write h.callHead (d.call c).container _ t) _
      rw [write_elsewhere _ _ _ _ same]
      refine chain_congr h.callNext _ (h.callHead t) _ (fun x member => away x fun inside => same ?_)
        (consistent.calls t)
      exact (filed.container t x member).1.symm.trans (filed.container _ x inside).1
  · rw [calls t]
    show write h.callCount (d.call c).container
      (if (unlinkAhead h.callNext fuel (h.callHead (d.call c).container) c).2.2 then h.callCount
        (d.call c).container - 1
        else h.callCount (d.call c).container) t = _
    by_cases same : t = (d.call c).container
    · rw [if_pos same, same, write_here, found]
      exact counter_erase _ c _ (consistent.callCount _)
    · rw [if_neg same, write_elsewhere _ _ _ _ same]
      exact consistent.callCount t

theorem removeTunnel_consistent (d : Daemon) (h : Lists) (t : TunnelPtr) (fuel : Nat) (enough : d.fresh ≤ fuel)
    (listed : Listed d) (consistent : Consistent d h) :
    Consistent { d with tunnels := d.tunnels.erase t } (h.removeTunnel fuel t) := by
  have short := length_le_bound _ d.fresh listed.1 listed.2
  obtain ⟨chain, found, _⟩ := unlinkAhead_chain h.next fuel _ _ t listed.1
    (Nat.le_trans short enough) consistent.tunnels
  refine ⟨chain, ?_, consistent.calls, consistent.callCount⟩
  show (if (unlinkAhead h.next fuel h.head t).2.2 then h.count - 1 else h.count) = _
  rw [found]
  exact counter_erase _ t _ consistent.count

theorem destroyCall_calls (d : Daemon) (c : CallPtr) (rest : Aside) (t : TunnelPtr) :
    (((withoutCall d c).aside rest).tunnel t).calls =
      if t = (d.call c).container then (d.tunnel t).calls.erase c else (d.tunnel t).calls := by
  show ((withoutCall d c).tunnel t).calls = _
  by_cases here : t = (d.call c).container
  · rw [if_pos here, here, withoutCall_here]
  · rw [if_neg here, withoutCall_elsewhere d t c here]

theorem relink_newTunnel (env : Env) (d after : Daemon) (h : Lists) (peer : SockAddr) (refhim : Nat)
    (made : Option CallPtr)
    (ran : addTunnel env peer refhim d = some (made, after)) :
    relink env d h (.newTunnel peer refhim) = if made.isSome then h.insertTunnel d.fresh else h := by
  show (match addTunnel env peer refhim d with
    | some (some _, _) => h.insertTunnel d.fresh
    | _ => h) = _
  rw [ran]
  cases made <;> rfl

theorem relink_newCall (env : Env) (d after : Daemon) (h : Lists) (t : TunnelPtr) (result : Int)
    (ran : addIncomingCall env t d = some (result, after)) :
    relink env d h (.newCall t) = if env.callMemory then h.insertCall t d.fresh else h := by
  show (match addIncomingCall env t d with
    | some (0, _) => h.insertCall t d.fresh
    | _ => h) = _
  rcases addIncomingCall_some env t d after result ran with ⟨memory, rfl⟩ | ⟨memory, live, rfl⟩
  · have full : addIncomingCall env t after = some (einval, after) := by
      unfold addIncomingCall newCall
      rw [if_pos (by simp [memory])]
      rfl
    rw [full, memory]
    rfl
  · rw [addIncomingCall_runs env t d live, memory]
    rfl

theorem relink_consistent (env : Env) (d d' : Daemon) (op : Op) (h : Lists) (linked : Linked d) (filed : Filed d)
    (consistent : Consistent d h) (done : perform env d op = some d') : Consistent d' (relink env d h op) := by
  by_cases still : op.Relinks
  · cases op with
    | newTunnel peer refhim =>
        obtain ⟨⟨made, after⟩, ran, rfl⟩ := Option.map_eq_some_iff.mp done
        rw [relink_newTunnel env d after h peer refhim made ran]
        rcases addTunnel_some env peer refhim d after made ran with ⟨_, rfl, rfl | rfl⟩ | ⟨_, _, rfl, rfl⟩
        · exact consistent
        · refine consistent_kept d _ h consistent rfl fun t => ?_
          by_cases new : t = d.fresh
          · rw [new]
            show ((withLostTunnel env d).tunnel d.fresh).calls = _
            rw [withLostTunnel_here, linked.blank d.fresh (Nat.le_refl _)]
            rfl
          · exact congrArg Tunnel.calls (withLostTunnel_elsewhere env d t new)
        · exact insertTunnel_consistent env d h peer refhim linked.listed consistent
    | newCall t =>
        obtain ⟨⟨result, after⟩, ran, rfl⟩ := Option.map_eq_some_iff.mp done
        rw [relink_newCall env d after h t result ran]
        rcases addIncomingCall_some env t d after result ran with ⟨memory, rfl⟩ | ⟨memory, _, rfl⟩
        · rw [memory]
          exact consistent
        · rw [memory]
          exact insertCall_consistent env d h t filed consistent
    | destroyCall c =>
        obtain ⟨_, _, rest, _, rfl⟩ := perform_effect env d d' (.destroyCall c) done
        exact removeCall_consistent d _ h c d.fresh (Nat.le_refl _) filed consistent rfl (destroyCall_calls d c rest)
    | unlink t =>
        obtain rfl : { d with tunnels := d.tunnels.erase t } = d' := Option.some.inj done
        exact removeTunnel_consistent d h t d.fresh (Nat.le_refl _) linked.listed consistent
    | bury t =>
        obtain ⟨_, _, rfl⟩ := perform_effect env d d' (.bury t) done
        exact consistent_kept d _ h consistent rfl fun u =>
          write_same d.tunnel Tunnel.calls t { d.tunnel t with live := false } rfl u
    | _ => exact still.elim
  · have same := perform_sameLinks env d d' op still done
    have unlinked : relink env d h op = h := by
      cases op <;> first | rfl | exact absurd trivial still
    rw [unlinked]
    exact consistent_kept d d' h consistent same.tunnels fun t => congrArg (fun links => links.2.1) (same.tunnel t)

section Destroying

variable (env : Env)

theorem destroyCall_only (c : CallPtr) (d d' : Daemon) (u : PUnit) (ran : destroyCall env c d = some (u, d')) :
    d'.tunnels = d.tunnels ∧ ∀ t, (d'.tunnel t).calls =
      if t = (d.call c).container then (d.tunnel t).calls.erase c else (d.tunnel t).calls := by
  obtain ⟨_, _, rest, _, rfl⟩ := destroyCall_some env c d d' u ran
  exact ⟨rfl, destroyCall_calls d c rest⟩

theorem destroyCall_filed (c : CallPtr) (d d' : Daemon) (u : PUnit) (ran : destroyCall env c d = some (u, d'))
    (filed : Filed d) :
    Filed d' ∧ d.fresh ≤ d'.fresh := by
  have done : perform env d (.destroyCall c) = some d' := by
    show (destroyCall env c d).map Prod.snd = some d'
    rw [ran]
    rfl
  obtain ⟨_, _, rest, grows, same⟩ := perform_effect env d d' (.destroyCall c) done
  exact ⟨perform_filed env d d' (.destroyCall c) filed done, by rw [same]; exact grows⟩

-- Some calls are destroyed: they are gone from their lists, what is left of a
-- list is in the old order, and no other call and no other field of a tunnel is touched.
structure Gone (d d' : Daemon) (gone : List CallPtr) : Prop where
  tunnels : d'.tunnels = d.tunnels
  grows : d.fresh ≤ d'.fresh
  dead : ∀ c ∈ gone, (d'.call c).live = false
  call : ∀ c ∉ gone, d'.call c = d.call c
  tunnel : ∀ t, d'.tunnel t = { d.tunnel t with calls := (d.tunnel t).calls.filter (· ∉ gone) }

theorem Gone.trans {d d₁ d₂ : Daemon} {first second : List CallPtr} (before : Gone d d₁ first)
    (after : Gone d₁ d₂ second) :
    Gone d d₂ (first ++ second) where
  tunnels := after.tunnels.trans before.tunnels
  grows := Nat.le_trans before.grows after.grows
  dead c member := by
    by_cases late : c ∈ second
    · exact after.dead c late
    · rw [after.call c late]
      exact before.dead c ((List.mem_append.mp member).resolve_right late)
  call c absent := by
    rw [List.mem_append, not_or] at absent
    rw [after.call c absent.2, before.call c absent.1]
  tunnel t := by
    rw [after.tunnel t, before.tunnel t]
    dsimp only
    rw [List.filter_filter]
    congr 1
    refine List.filter_congr fun c _ => ?_
    simp [Bool.and_comm]

theorem destroyCall_gone (c : CallPtr) (d d' : Daemon) (u : PUnit) (filed : Filed d)
    (ran : destroyCall env c d = some (u, d')) :
    Gone d d' [c] := by
  obtain ⟨_, _, rest, grows, rfl⟩ := destroyCall_some env c d d' u ran
  refine ⟨rfl, grows, fun other member => ?_, fun other absent => ?_, fun t => ?_⟩
  · rw [List.mem_singleton.mp member]
    exact congrArg Call.live (withoutCall_gone d c)
  · exact withoutCall_call d c other fun same => absent (List.mem_singleton.mpr same)
  · show (withoutCall d c).tunnel t = _
    by_cases here : t = (d.call c).container
    · have left : (d.tunnel (d.call c).container).calls.erase c =
          (d.tunnel (d.call c).container).calls.filter (· ∉ [c]) := by
        rw [(filed.nodup _).erase_eq_filter]
        refine List.filter_congr fun x _ => ?_
        by_cases same : x = c <;> simp [same]
      rw [here, withoutCall_here, left]
    · rw [withoutCall_elsewhere d t c here, List.filter_eq_self.mpr]
      intro x member
      have other : x ≠ c := by
        rintro rfl
        exact here (filed.container t x member).1.symm
      simpa using other

theorem destroyCalls_gone (calls : List CallPtr) (d d' : Daemon) (u : PUnit) (filed : Filed d)
    (ran : calls.forM (destroyCall env) d = some (u, d')) : Gone d d' calls ∧ Filed d' := by
  induction calls generalizing d with
  | nil =>
      obtain ⟨_, rfl⟩ := (Prog.pure_some _ _ _ _).mp ran
      refine ⟨⟨rfl, Nat.le_refl _, fun c member => ?_, fun _ _ => rfl, fun t => ?_⟩, filed⟩
      · cases member
      · simp
  | cons c rest ih =>
      obtain ⟨_, d₁, first, ran⟩ := (Prog.bind_some _ _ _ _ _).mp ran
      obtain ⟨after, kept⟩ := ih d₁ (destroyCall_filed env c d d₁ _ first filed).1 ran
      exact ⟨(destroyCall_gone env c d d₁ _ filed first).trans after, kept⟩

theorem removeCall_head (h : Lists) (fuel : Nat) (t : TunnelPtr) (c : CallPtr) (head : h.callHead t = some c) :
    (h.removeCall fuel t c).callHead t = h.callNext c := by
  show write h.callHead t (unlinkAhead h.callNext fuel (h.callHead t) c).1 t = _
  rw [write_here, head]
  unfold unlinkAhead
  dsimp only
  rw [if_pos rfl]

theorem destroyCalls_consistent (t : TunnelPtr) (fuel : Nat) (calls : List CallPtr) (rounds : Nat) (d d' : Daemon)
    (h : Lists)
    (u : PUnit) (here : (d.tunnel t).calls = calls) (long : calls.length < rounds) (filed : Filed d)
    (consistent : Consistent d h)
    (ran : calls.forM (destroyCall env) d = some (u, d')) (enough : d'.fresh ≤ fuel) :
    Consistent d' (Lists.removeCalls fuel t rounds (h.callHead t) h) := by
  induction calls generalizing d h rounds with
  | nil =>
      obtain ⟨_, rfl⟩ := (Prog.pure_some _ _ _ _).mp ran
      obtain ⟨more, rfl⟩ := Nat.exists_eq_succ_of_ne_zero (Nat.ne_of_gt long)
      have ends : h.callHead t = none := by
        have chain := consistent.calls t
        rw [here] at chain
        exact chain
      rw [ends]
      exact consistent
  | cons c rest ih =>
      obtain ⟨more, rfl⟩ := Nat.exists_eq_succ_of_ne_zero (Nat.ne_of_gt (Nat.lt_of_le_of_lt (Nat.zero_le _) long))
      obtain ⟨_, d₁, first, ran⟩ := (Prog.bind_some _ _ _ _ _).mp ran
      obtain ⟨inside, _⟩ := filed.container t c (by rw [here]; exact List.mem_cons_self)
      obtain ⟨tunnels, only⟩ := destroyCall_only env c d d₁ _ first
      obtain ⟨filed₁, grows⟩ := destroyCall_filed env c d d₁ _ first filed
      rw [inside] at only
      have left : (d₁.tunnel t).calls = rest := by
        rw [only t, if_pos rfl, here, List.erase_cons_head]
      have head : h.callHead t = some c := by
        have chain := consistent.calls t
        rw [here] at chain
        exact chain.1
      have ahead := (destroyCalls_gone env rest d₁ d' u filed₁ ran).1.grows
      have removed := removeCall_consistent d d₁ h c fuel
        (Nat.le_trans grows (Nat.le_trans ahead enough)) filed consistent tunnels
        (by rw [inside]; exact only)
      rw [inside] at removed
      have kept := ih more d₁ (h.removeCall fuel t c) left (Nat.lt_of_succ_lt_succ long) filed₁ removed ran
      rw [removeCall_head h fuel t c head] at kept
      rw [head]
      exact kept

theorem destroyTunnel_steps (t : TunnelPtr) (d d' : Daemon) (u : PUnit) (ran : destroyTunnel env t d = some (u, d')) :
    ∃ self d₁ d₂ d₃, (d.tunnel t).self = some self ∧ (d.tunnel t).calls.forM (destroyCall env) d = some ((), d₁) ∧
      (d₂.tunnels = d₁.tunnels.erase t ∧ d₂.tunnel = d₁.tunnel ∧ d₂.call = d₁.call ∧ d₁.fresh ≤ d₂.fresh) ∧
      destroyCall env self d₂ = some ((), d₃) ∧
        d' = { d₃ with tunnel := write d₃.tunnel t { d₃.tunnel t with live := false } } := by
  unfold destroyTunnel at ran
  obtain ⟨tun, d₀, read, ran⟩ := (Prog.bind_some _ _ _ _ _).mp ran
  obtain ⟨_, rfl, rfl⟩ := (readTunnel_some _ _ _ _).mp read
  obtain ⟨_, d₁, destroyed, ran⟩ := (Prog.bind_some _ _ _ _ _).mp ran
  obtain ⟨_, e₁, unlinked, ran₁⟩ := (Prog.bind_some _ _ _ _ _).mp ran
  obtain rfl := (Prog.modify_some _ _ _ _).mp unlinked
  obtain ⟨_, e₂, forgotten, ran₂⟩ := (Prog.bind_some _ _ _ _ _).mp ran₁
  obtain ⟨rest, grows, rfl⟩ := leaveLac_beside env _ (d₀.tunnel t).lac _ _ e₂ forgotten
  obtain ⟨_, d₂, served, ran₃⟩ := (Prog.bind_some _ _ _ _ _).mp ran₂
  obtain ⟨self, _, known, ran₄⟩ := (Prog.bind_some _ _ _ _ _).mp ran₃
  obtain ⟨own, rfl⟩ := (deref_some _ _ _ _).mp known
  obtain ⟨_, d₃, last, ran₅⟩ := (Prog.bind_some _ _ _ _ _).mp ran₄
  obtain ⟨_, rfl⟩ := (setTunnel_some _ _ _ _ _).mp ran₅
  refine ⟨self, d₁, _, d₃, own, destroyed, ?_, last, rfl⟩
  cases lns : (d₀.tunnel t).lns with
  | none =>
      rw [lns] at served
      obtain ⟨_, rfl⟩ := (Prog.pure_some _ _ _ _).mp served
      exact ⟨rfl, rfl, rfl, grows⟩
  | some l =>
      rw [lns] at served
      obtain ⟨_, rfl⟩ := (setLns_some _ _ _ _ _).mp served
      exact ⟨rfl, rfl, rfl, grows⟩

-- A tunnel is destroyed with its calls and its own entry, and nothing else is
-- touched.
structure TunnelGone (d d' : Daemon) (t : TunnelPtr) : Prop where
  tunnels : d'.tunnels = d.tunnels.erase t
  dead : (d'.tunnel t).live = false
  gone : ∀ c, c ∈ (d.tunnel t).calls ∨ (d.tunnel t).self = some c → (d'.call c).live = false
  call : ∀ c, c ∉ (d.tunnel t).calls → (d.tunnel t).self ≠ some c → d'.call c = d.call c
  tunnel : ∀ other, other ≠ t → d'.tunnel other = d.tunnel other

theorem destroyTunnel_gone (t : TunnelPtr) (d d' : Daemon) (u : PUnit) (listed : t ∈ d.tunnels) (housed : Housed d)
    (filed : Filed d) (ran : destroyTunnel env t d = some (u, d')) : TunnelGone d d' t := by
  obtain ⟨self, d₁, d₂, d₃, own, destroyed, ⟨unlinked, tunnels, calls, grows⟩, last, rfl⟩ :=
    destroyTunnel_steps env t d d' u ran
  obtain ⟨first, filed₁⟩ := destroyCalls_gone env _ d d₁ _ filed destroyed
  have filed₂ : Filed d₂ := filed_kept d₁ d₂ filed₁ grows (fun _ => by rw [tunnels]) (fun _ => by rw [tunnels])
    fun _ => by rw [calls]
  have second := destroyCall_gone env self d₂ d₃ _ filed₂ last
  have apart : self ∉ (d.tunnel t).calls := (filed.self t self own).2
  have inside : (d.call self).container = t := (housed t listed self own).1
  have calls₂ (c : CallPtr) (other : c ≠ self) : d₃.call c = d₁.call c := by
    rw [second.call c (by simpa using other), calls]
  have whole (other : TunnelPtr) (different : other ≠ t) : (d.tunnel other).calls.filter (· ∉ (d.tunnel t).calls) =
      (d.tunnel other).calls ∧ (d.tunnel other).calls.filter (· ∉ [self]) = (d.tunnel other).calls := by
    have away (c : CallPtr) (member : c ∈ (d.tunnel other).calls) : (d.call c).container ≠ t := by
      rw [(filed.container other c member).1]
      exact different
    constructor
    · refine List.filter_eq_self.mpr fun c member => decide_eq_true fun mine => ?_
      exact away c member (filed.container t c mine).1
    · refine List.filter_eq_self.mpr fun c member => decide_eq_true fun mine => ?_
      rw [List.mem_singleton] at mine
      exact away c member (mine ▸ inside)
  constructor
  · show d₃.tunnels = _
    rw [second.tunnels, unlinked, first.tunnels]
  · exact congrArg Tunnel.live (write_here _ _ _)
  · rintro c (called | same)
    · show (d₃.call c).live = false
      rw [calls₂ c fun same => apart (same ▸ called)]
      exact first.dead c called
    · obtain rfl : self = c := Option.some.inj (own.symm.trans same)
      exact second.dead self (List.mem_singleton_self self)
  · intro c absent other
    show d₃.call c = _
    rw [calls₂ c fun same => other (same ▸ own), first.call c absent]
  · intro other different
    obtain ⟨mine, alone⟩ := whole other different
    refine (write_elsewhere _ _ _ _ different).trans ?_
    rw [second.tunnel other, tunnels, first.tunnel other, mine]
    dsimp only
    rw [alone]

theorem destroyTunnel_consistent (t : TunnelPtr) (fuel : Nat) (d d' : Daemon) (h : Lists) (u : PUnit) (self : CallPtr)
    (own : (d.tunnel t).self = some self) (listed : t ∈ d.tunnels) (settled : Settled d) (filed : Filed d)
    (consistent : Consistent d h) (ran : destroyTunnel env t d = some (u, d')) (enough : d'.fresh ≤ fuel) :
    Consistent d' (h.destroyTunnel fuel t self) := by
  obtain ⟨self', d₁, d₂, d₃, own', destroyed, ⟨unlinked, tunnels, calls, grows⟩, last, rfl⟩ :=
    destroyTunnel_steps env t d d' u ran
  obtain rfl : self' = self := Option.some.inj (own'.symm.trans own)
  obtain ⟨first, filed₁⟩ := destroyCalls_gone env _ d d₁ _ filed destroyed
  have filed₂ : Filed d₂ := filed_kept d₁ d₂ filed₁ grows (fun _ => by rw [tunnels]) (fun _ => by rw [tunnels])
    fun _ => by rw [calls]
  have second := destroyCall_gone env self' d₂ d₃ _ filed₂ last
  have inside : (d₂.call self').container = t := by
    rw [calls, first.call self' (filed.self t self' own).2]
    exact (settled.2 t listed self' own).1
  have late : d₂.fresh ≤ fuel := Nat.le_trans second.grows enough
  have middle : d₁.fresh ≤ fuel := Nat.le_trans grows late
  have emptied := destroyCalls_consistent env t fuel (d.tunnel t).calls (fuel + 1) d d₁ h () rfl
    (Nat.lt_succ_of_le (Nat.le_trans (filed_short d filed t) (Nat.le_trans first.grows middle))) filed consistent
    destroyed middle
  have listed₁ : Listed d₁ := by
    rw [Listed, first.tunnels]
    exact ⟨settled.1.listed.1, fun x member => Nat.lt_of_lt_of_le (settled.1.listed.2 x member) first.grows⟩
  have off := consistent_kept _ d₂ _ (removeTunnel_consistent d₁ _ t fuel middle listed₁ emptied) unlinked fun _ => by
    rw [tunnels]
  obtain ⟨same, only⟩ := destroyCall_only env self' d₂ d₃ _ last
  have out := removeCall_consistent d₂ d₃ _ self' fuel late filed₂ off same only
  rw [inside] at out
  exact consistent_kept d₃ _ _ out rfl fun other =>
    write_same d₃.tunnel Tunnel.calls t { d₃.tunnel t with live := false } rfl other

end Destroying

-- The lists of a daemon are what they should be, and the links lead through them.
structure ListsRight (d : Daemon) (h : Lists) : Prop where
  tunnels : Chain h.next h.head d.tunnels ∧ d.tunnels.Nodup ∧ h.count = d.tunnels.length
  calls : ∀ t ∈ d.tunnels, Chain h.callNext (h.callHead t) (d.tunnel t).calls ∧ (d.tunnel t).calls.Nodup ∧
    h.callCount t = (d.tunnel t).calls.length
  container : ∀ t ∈ d.tunnels, ∀ c ∈ (d.tunnel t).calls, (d.call c).container = t
  apart : ∀ t ∈ d.tunnels, ∀ other ∈ d.tunnels, ∀ c ∈ (d.tunnel t).calls, c ∈ (d.tunnel other).calls → other = t
  self : ∀ t ∈ d.tunnels, ∀ s, (d.tunnel t).self = some s → ∀ other ∈ d.tunnels, s ∉ (d.tunnel other).calls

-- What destroying a call or a tunnel takes away, from the lists and from the
-- links alike.
structure Removes (env : Env) (d : Daemon) (h : Lists) : Prop where
  call : ∀ c d', destroyCall env c d = some ((), d') →
    Gone d d' [c] ∧ ListsRight d' (h.removeCall d'.fresh (d.call c).container c)
  tunnel : ∀ t ∈ d.tunnels, ∀ d', destroyTunnel env t d = some ((), d') →
    TunnelGone d d' t ∧ ∃ self, (d.tunnel t).self = some self ∧ ListsRight d' (h.destroyTunnel d'.fresh t self)

theorem listsRight_of (d : Daemon) (h : Lists) (settled : Settled d) (filed : Filed d) (consistent : Consistent d h) :
    ListsRight d h where
  tunnels := ⟨consistent.tunnels, settled.1.listed.1, consistent.count⟩
  calls t _ := ⟨consistent.calls t, filed.nodup t, consistent.callCount t⟩
  container t _ c member := (filed.container t c member).1
  apart t _ other _ c member inside := (filed.container other c inside).1.symm.trans (filed.container t c member).1
  self t listed s own other _ member := by
    have home := (settled.2 t listed s own).1.symm.trans (filed.container other s member).1
    exact (filed.self t s own).2 (home ▸ member)

-- Everything that holds of the lists between two operations.
structure Shelved (d : Daemon) (h : Lists) : Prop where
  settled : Settled d
  filed : Filed d
  consistent : Consistent d h

theorem shelved_op (env : Env) (d d' : Daemon) (op : Op) (h : Lists) (shelved : Shelved d h)
    (done : perform env d op = some d') : Shelved d' (relink env d h op) where
  settled := ⟨perform_linked env d d' op shelved.settled.1 done,
    perform_housed env d d' op shelved.settled.1 shelved.settled.2 done⟩
  filed := perform_filed env d d' op shelved.filed done
  consistent := relink_consistent env d d' op h shelved.settled.1 shelved.filed shelved.consistent done

theorem filed_of_performed (env : Env) (allowed : Op → Prop) (d d' : Daemon) (listed : Listed d) (filed : Filed d)
    (performed : Performed env allowed d d') : Filed d' := by
  obtain ⟨visits, run, meets⟩ := performed listed
  exact Run.invariant _ Filed filed (fun s op s' there _ done => perform_filed env s s' op there done) run meets

theorem shelved_removes (env : Env) (d : Daemon) (h : Lists) (shelved : Shelved d h) : Removes env d h where
  call c d' ran := by
    have gone := destroyCall_gone env c d d' _ shelved.filed ran
    have done : perform env d (.destroyCall c) = some d' := by
      show (destroyCall env c d).map Prod.snd = some d'
      rw [ran]
      rfl
    obtain ⟨tunnels, calls⟩ := destroyCall_only env c d d' _ ran
    have after := shelved_op env d d' (.destroyCall c) h shelved done
    exact ⟨gone, listsRight_of d' _ after.settled after.filed
      (removeCall_consistent d d' h c d'.fresh gone.grows shelved.filed shelved.consistent tunnels calls)⟩
  tunnel t listed d' ran := by
    obtain ⟨self, own⟩ := Option.ne_none_iff_exists'.mp (shelved.settled.1.own t listed)
    have consistent := destroyTunnel_consistent env t d'.fresh d d' h _ self own listed shelved.settled shelved.filed
      shelved.consistent ran (Nat.le_refl _)
    refine ⟨destroyTunnel_gone env t d d' _ listed shelved.settled.2 shelved.filed ran, self, own, ?_⟩
    have performed : Performed env Op.ClosesDown d d' := destroyTunnel_does
      (fun _ closesDown => closesDown) t d _ d' ran
    exact listsRight_of d' _ (settled_of_performed env _ d d' shelved.settled performed)
      (filed_of_performed env _ d d' shelved.settled.1.listed shelved.filed performed) consistent

theorem shelved_run (cfg : Config) (deflns : Option Lns) (lnslist : List Lns) (deflac : Option Lac) (laclist : List Lac)
    {turns : List (Daemon × (World × Op))} {d : Daemon}
    (run : Run (performIn cfg) (initDaemon deflns lnslist deflac laclist) turns d) : Shelved d
    (listsAfter cfg turns) := by
  induction run with
  | start =>
      exact ⟨⟨linked_init deflns lnslist deflac laclist, housed_init deflns lnslist deflac laclist⟩,
        filed_init deflns lnslist deflac laclist, consistent_init deflns lnslist deflac laclist⟩
  | snoc turns state after turn _ done ih =>
      have more : listsAfter cfg (turns ++ [(state, turn)]) =
          relink { toConfig := cfg, toWorld := turn.1 } state (listsAfter cfg turns) turn.2 := List.foldl_append
      rw [more]
      exact shelved_op _ state after turn.2 _ ih done

-- Every run of the daemon is a run of operations, and in however far one of them
-- has got, in the middle of a step too, the lists are right, the counters count
-- them, and destroying a tunnel or a call takes off that tunnel or call alone.
theorem lists_right (cfg : Config) (deflns : Option Lns) (lnslist : List Lns) (deflac : Option Lac) (laclist : List Lac)
    (visits : List (Daemon × Event)) (d : Daemon)
    (run : Run (next cfg) (initDaemon deflns lnslist deflac laclist) visits d) :
    (∃ turns, Breakdown cfg (initDaemon deflns lnslist deflac laclist) visits turns d) ∧
      ∀ turns, Breakdown cfg (initDaemon deflns lnslist deflac laclist) visits turns d →
        ListsRight d (listsAfter cfg turns) ∧
        ∀ earlier later, turns = earlier ++ later → ∃ s, Run (performIn cfg)
          (initDaemon deflns lnslist deflac laclist) earlier s ∧
          ListsRight s (listsAfter cfg earlier) ∧ ∀ world,
            Removes { toConfig := cfg, toWorld := world } s (listsAfter cfg earlier) := by
  refine ⟨run_breakdown (initDaemon_listed deflns lnslist deflac laclist) run, fun turns broken => ?_⟩
  have whole := breakdown_run broken
  have ends := shelved_run cfg deflns lnslist deflac laclist whole
  refine ⟨listsRight_of d _ ends.settled ends.filed ends.consistent, ?_⟩
  rintro earlier later rfl
  obtain ⟨s, first, _⟩ := Run.of_append whole
  have there := shelved_run cfg deflns lnslist deflac laclist first
  exact ⟨s, first, listsRight_of s _ there.settled there.filed there.consistent, fun world =>
    shelved_removes _ s _ there⟩

theorem lists_right_strays :
    ∃ turns, Breakdown plainConfig emptyDaemon [(emptyDaemon, strayZlb plainWorld), (oneStray, strayZlb plainWorld)]
      turns twoStrays ∧
      ListsRight twoStrays (listsAfter plainConfig turns) :=
  have both := lists_right plainConfig none [] none [] _ twoStrays
    ((Run.start.snoc [] emptyDaemon oneStray (strayZlb plainWorld) oneStray_moved).snoc _ oneStray twoStrays
    (strayZlb plainWorld)
      twoStrays_moved)
  have ⟨turns, broken⟩ := both.1
  ⟨turns, broken, (both.2 turns broken).1⟩

end ZyAgf.Xl2tpd
