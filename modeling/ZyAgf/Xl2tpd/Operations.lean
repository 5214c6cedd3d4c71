import ZyAgf.Library.Run
import ZyAgf.Xl2tpd.ControlChannel

set_option autoImplicit false

namespace ZyAgf.Xl2tpd

-- What every step of the daemon comes down to: a run of operations, each named
-- after the one thing it does to tunnels, calls, LNS entries and addresses. The
-- rest of the daemon is changed freely on the side.
structure Aside where
  lac : LacPtr → Lac
  laclist : List LacPtr
  events : List ScheduleEntry
  globalSerno : Nat
  switchIo : Bool
  dialNoTmp : CString
  fresh : Nat
  drawn : Nat
  out : List Output

def Daemon.rest (d : Daemon) : Aside :=
  ⟨d.lac, d.laclist, d.events, d.globalSerno, d.switchIo, d.dialNoTmp, d.fresh, d.drawn, d.out⟩

def Daemon.aside (d : Daemon) (r : Aside) : Daemon :=
  { d with
    lac := r.lac
    laclist := r.laclist
    events := r.events
    globalSerno := r.globalSerno
    switchIo := r.switchIo
    dialNoTmp := r.dialNoTmp
    fresh := r.fresh
    drawn := r.drawn
    out := r.out }

-- The fields of a record that only their own operations change.
structure TunnelCore where
  live : Bool
  calls : List CallPtr
  ourtid : Nat
  state : Option Msg
  controlRecSeqNum : U16
  cLr : U16
  sanity : Bool
  self : Option CallPtr
  lns : Option LnsPtr
  ss : UInt8
  secret : CString
  challenge : List UInt8
  response : Vector UInt8 16
  challenged : Bool
deriving DecidableEq

def Tunnel.core (tun : Tunnel) : TunnelCore where
  live := tun.live
  calls := tun.calls
  ourtid := tun.ourtid
  state := tun.state
  controlRecSeqNum := tun.controlRecSeqNum
  cLr := tun.cLr
  sanity := tun.sanity
  self := tun.self
  lns := tun.lns
  ss := tun.chalThem.ss
  secret := tun.chalThem.secret
  challenge := tun.chalThem.challenge
  response := tun.chalThem.response
  challenged := tun.chalThem.challenged

structure CallCore where
  live : Bool
  state : Option Msg
  msgtype : Int
  ourcid : Nat
  addr : Nat
  container : TunnelPtr
  lns : Option LnsPtr
deriving DecidableEq

def Call.core (cal : Call) : CallCore :=
  ⟨cal.live, cal.state, cal.msgtype, cal.ourcid, cal.addr, cal.container, cal.lns⟩

inductive Op where
  | aside (rest : Aside)
  | tunnel (t : TunnelPtr) (new : Tunnel)
  | call (c : CallPtr) (new : Call)
  | leaves (l : LnsPtr)
  | addLns (entry : Lns)
  | editLns (l : LnsPtr) (options : Lns → Lns)
  | dropLns (l : LnsPtr)
  | raise (t : TunnelPtr) (m : Msg) (new : Tunnel)
  | raiseCall (c : CallPtr) (m : Msg) (new : Call)
  | mark (c : CallPtr) (msgtype : Int)
  | choose (t : TunnelPtr) (l : Option LnsPtr)
  | challenge (t : TunnelPtr) (chal : Challenge)
  | newTunnel (peer : SockAddr) (refhim : Nat)
  | newCall (t : TunnelPtr)
  | free (c : CallPtr) (new : Call)
  | destroyCall (c : CallPtr)
  | unlink (t : TunnelPtr)
  | bury (t : TunnelPtr)
  | assign (c : CallPtr) (addr : Nat)
  | takeLocal (c : CallPtr) (addr : Nat)
  | check (buf : RecvBuffer) (t : TunnelPtr) (c : CallPtr)
  | zlb (t : TunnelPtr) (c : CallPtr)

-- An address is taken when it was found free; none is taken for zero.
def reserved (uaddr : List Nat) (addr : Nat) : List Nat := if addr = 0 then uaddr else addr :: uaddr

def perform (env : Env) (d : Daemon) : Op → Option Daemon
  | .aside rest => if d.fresh ≤ rest.fresh then some (d.aside rest) else none
  | .tunnel t new =>
      if (d.tunnel t).live ∧ new.core = (d.tunnel t).core then some { d with tunnel := write d.tunnel t new } else none
  | .call c new =>
      if (d.call c).live ∧ new.core = (d.call c).core then some { d with call := write d.call c new } else none
  | .leaves l => if (d.lns l).live then some { d with lns := write d.lns l { d.lns l with t := none } } else none
  | .addLns entry => some
      { d with lns := write d.lns d.fresh { entry with live := true, t := none }, lnslist := d.fresh :: d.lnslist, fresh := d.fresh + 1 }
  | .editLns l options =>
      if (d.lns l).live then some { d with lns := write d.lns l (optioned options (d.lns l)) } else none
  | .dropLns l =>
      if (d.lns l).live then some
        { d with lns := write d.lns l { d.lns l with live := false }, lnslist := d.lnslist.erase l }
      else none
  | .raise t m new =>
      if (d.tunnel t).live ∧ new.core = { (d.tunnel t).core with state := some m } then
        some { d with tunnel := write d.tunnel t new }
      else none
  | .raiseCall c m new =>
      if (d.call c).live ∧ new.core = { (d.call c).core with state := some m } then
        some { d with call := write d.call c new }
      else none
  | .mark c msgtype =>
      if (d.call c).live then some { d with call := write d.call c { d.call c with msgtype := msgtype } } else none
  | .choose t l =>
      if (d.tunnel t).live then some { d with tunnel := write d.tunnel t { d.tunnel t with lns := l } } else none
  | .challenge t chal =>
      if (d.tunnel t).live then some { d with tunnel := write d.tunnel t { d.tunnel t with chalThem := chal } }
        else none
  | .newTunnel peer refhim => (addTunnel env peer refhim d).map Prod.snd
  | .newCall t => (addIncomingCall env t d).map Prod.snd
  | .free c new =>
      if (d.call c).live ∧ (d.call c).state = none ∧ new.core = { (d.call c).core with lns := none } then
        some { d with call := write d.call c new }
      else none
  | .destroyCall c => (destroyCall env c d).map Prod.snd
  | .unlink t => some { d with tunnels := d.tunnels.erase t }
  | .bury t =>
      if (d.tunnel t).live ∧ t ∉ d.tunnels then some
        { d with tunnel := write d.tunnel t { d.tunnel t with live := false } }
      else none
  | .assign c addr =>
      if (d.call c).live ∧ (addr = 0 ∨ addr ∉ d.uaddr) then
        some { d with call := write d.call c { d.call c with addr := addr }, uaddr := reserved d.uaddr addr }
      else none
  | .takeLocal c addr =>
      (d.call c).lns.bind fun l =>
        if (d.call c).live ∧ (d.call c).state ≠ none ∧ (d.lns l).live ∧ (addr = 0 ∨ addr ∉ d.uaddr) then
          some { d with lns := write d.lns l { d.lns l with localaddr := addr }, uaddr := reserved d.uaddr addr }
        else none
  | .check buf t c => (checkControl buf t c d).map Prod.snd
  | .zlb t c => (takeZlb t c d).map Prod.snd

-- The list of tunnels has no entry twice and none that is still to be made.
def Listed (d : Daemon) : Prop := d.tunnels.Nodup ∧ ∀ t ∈ d.tunnels, t < d.fresh

def Beside (d d' : Daemon) : Prop := ∃ rest : Aside, d.fresh ≤ rest.fresh ∧ d' = d.aside rest

instance : Prog.Steady Beside where
  refl d := ⟨d.rest, Nat.le_refl _, rfl⟩
  trans := by
    rintro d d' d'' ⟨first, grows, rfl⟩ ⟨second, more, rfl⟩
    exact ⟨second, Nat.le_trans grows more, rfl⟩

def Performed (env : Env) (allowed : Op → Prop) (d d' : Daemon) : Prop :=
  Listed d → ∃ visits, Run (perform env) d visits d' ∧ Run.Meets (fun _ op => allowed op) visits

theorem listed_erase (d : Daemon) (t : TunnelPtr) (listed : Listed d) : Listed
    { d with tunnels := d.tunnels.erase t } :=
  ⟨listed.1.erase t, fun other member => listed.2 other (List.mem_of_mem_erase member)⟩

section Reads

variable (rel : Daemon → Daemon → Prop) [Prog.Steady rel]

theorem readTunnel_within (t : TunnelPtr) : Prog.Within rel (readTunnel t) := by
  intro d tun d' ran
  obtain ⟨_, _, rfl⟩ := (readTunnel_some _ _ _ _).mp ran
  exact Prog.Steady.refl d'

theorem readCall_within (c : CallPtr) : Prog.Within rel (readCall c) := by
  intro d cal d' ran
  obtain ⟨_, _, rfl⟩ := (readCall_some _ _ _ _).mp ran
  exact Prog.Steady.refl d'

theorem readLns_within (l : LnsPtr) : Prog.Within rel (readLns l) := by
  intro d entry d' ran
  obtain ⟨_, _, rfl⟩ := (readLns_some _ _ _ _).mp ran
  exact Prog.Steady.refl d'

theorem readLac_within (l : LacPtr) : Prog.Within rel (readLac l) := by
  intro d entry d' ran
  obtain ⟨_, _, rfl⟩ := (readLac_some _ _ _ _).mp ran
  exact Prog.Steady.refl d'

theorem deref_within {α : Type} (p : Option α) : Prog.Within rel (deref p) := by
  intro d a d' ran
  obtain ⟨_, rfl⟩ := (deref_some _ _ _ _).mp ran
  exact Prog.Steady.refl d'

end Reads

section OnTheSide

theorem modify_beside (change : Daemon → Daemon) (side : ∀ d, change d = d.aside (change d).rest)
    (grows : ∀ d, d.fresh ≤ (change d).fresh) : Prog.Within Beside (modify change : Act PUnit) :=
  Prog.within_modify Beside change fun d => ⟨(change d).rest, grows d, side d⟩

theorem setLac_beside (l : LacPtr) (change : Lac → Lac) : Prog.Within Beside (setLac l change) := by
  unfold setLac
  exact Prog.within_bind (readLac_within Beside l) fun _ => modify_beside _ (fun _ => rfl) fun _ => Nat.le_refl _

theorem emit_beside (output : Output) : Prog.Within Beside (emit output) :=
  modify_beside _ (fun _ => rfl) fun _ => Nat.le_refl _

theorem schedule_beside (env : Env) (tv : Timeval) (func : Func) : Prog.Within Beside (schedule env tv func) :=
  modify_beside _ (fun _ => rfl) fun _ => Nat.le_refl _

theorem redialLater_beside (env : Env) (l : LacPtr) : Prog.Within Beside (redialLater env l) := by
  unfold redialLater
  exact Prog.within_bind (readLac_within Beside l) fun _ => Prog.within_onlyWhen Beside _ _ fun _ =>
    Prog.within_bind (schedule_beside env _ _) fun _ => setLac_beside l _

theorem leaveLac_beside (env : Env) (change : Lac → Lac) (lac : Option LacPtr) :
    Prog.Within Beside (leaveLac env change lac) := by
  cases lac with
  | none => exact Prog.within_pure Beside _
  | some l => exact Prog.within_bind (setLac_beside l change) fun _ => redialLater_beside env l

end OnTheSide

-- The addresses a destroyed call gives back: its own, and the one its LNS entry
-- gave out last.
def releasedBy (d : Daemon) (cal : Call) : List Nat :=
  (if cal.addr ≠ 0 then [cal.addr] else []) ++
    match cal.lns with
    | none => []
    | some l => if (d.lns l).localrange ≠ [] then [(d.lns l).localaddr] else []

theorem unreserveAddr_some (addr : Nat) (d d' : Daemon) (u : PUnit) :
    unreserveAddr addr d = some (u, d') ↔ d' = { d with uaddr := d.uaddr.filter (· ≠ addr) } := by
  unfold unreserveAddr
  rw [Prog.modify_some]
  exact eq_comm

theorem unreserveLocal_some (lns : Option LnsPtr) (d d' : Daemon) (u : PUnit)
    (ran : unreserveLocal lns d = some (u, d')) :
    d' = { d with uaddr := d.uaddr.filter (· ∉ match lns with
      | none => []
      | some l => if (d.lns l).localrange ≠ [] then [(d.lns l).localaddr] else []) } := by
  cases lns with
  | none =>
      obtain ⟨_, rfl⟩ := (Prog.pure_some _ _ _ _).mp ran
      simp
  | some l =>
      unfold unreserveLocal at ran
      obtain ⟨entry, d₁, read, ran⟩ := (Prog.bind_some _ _ _ _ _).mp ran
      obtain ⟨_, rfl, rfl⟩ := (readLns_some _ _ _ _).mp read
      unfold Prog.onlyWhen at ran
      split at ran
      next ranged =>
        obtain rfl := (unreserveAddr_some _ _ _ _).mp ran
        simp [ranged]
      next fixed =>
        obtain ⟨_, rfl⟩ := (Prog.pure_some _ _ _ _).mp ran
        simp [fixed]

theorem destroyCall_some (env : Env) (c : CallPtr) (d d' : Daemon) (u : PUnit)
    (ran : destroyCall env c d = some (u, d')) :
    (d.call c).live = true ∧ (d.tunnel (d.call c).container).live = true ∧ ∃ rest : Aside, d.fresh ≤ rest.fresh ∧
      d' = ({ d with
        tunnel := write d.tunnel (d.call c).container
          { d.tunnel (d.call c).container with calls := (d.tunnel (d.call c).container).calls.erase c }
        call := write d.call c { d.call c with live := false, fd := -1, pppd := 0 }
        uaddr := d.uaddr.filter (· ∉ releasedBy d (d.call c)) }).aside rest := by
  unfold destroyCall at ran
  obtain ⟨cal, d₁, read, ran⟩ := (Prog.bind_some _ _ _ _ _).mp ran
  obtain ⟨live, rfl, rfl⟩ := (readCall_some _ _ _ _).mp read
  obtain ⟨_, d₂, remote, ran⟩ := (Prog.bind_some _ _ _ _ _).mp ran
  have gaveRemote : d₂ =
    { d₁ with uaddr := d₁.uaddr.filter (· ∉ if (d₁.call c).addr ≠ 0 then [(d₁.call c).addr] else []) } := by
    unfold Prog.onlyWhen at remote
    split at remote
    next held =>
      obtain rfl := (unreserveAddr_some _ _ _ _).mp remote
      simp [held]
    next none' =>
      obtain ⟨_, rfl⟩ := (Prog.pure_some _ _ _ _).mp remote
      simp [none']
  obtain ⟨_, d₃, local', ran⟩ := (Prog.bind_some _ _ _ _ _).mp ran
  have gaveLocal := unreserveLocal_some _ _ _ _ local'
  obtain ⟨_, d₄, killed, ran⟩ := (Prog.bind_some _ _ _ _ _).mp ran
  obtain ⟨rest₄, grows₄, rfl⟩ :=
    Prog.within_onlyWhen Beside _ _ (fun _ => emit_beside _) d₃ _ d₄ killed
  obtain ⟨_, d₅, unlinked, ran⟩ := (Prog.bind_some _ _ _ _ _).mp ran
  obtain ⟨tunnelLive, rfl⟩ := (setTunnel_some _ _ _ _ _).mp unlinked
  obtain ⟨_, d₆, left, ran⟩ := (Prog.bind_some _ _ _ _ _).mp ran
  obtain ⟨rest₆, grows₆, rfl⟩ := leaveLac_beside env _ _ _ _ d₆ left
  obtain ⟨_, rfl⟩ := (setCall_some _ _ _ _ _).mp ran
  subst gaveRemote
  subst gaveLocal
  refine ⟨live, tunnelLive, rest₆, Nat.le_trans grows₄ grows₆, ?_⟩
  unfold releasedBy
  simp only [Daemon.aside, List.filter_filter, List.mem_append, not_or, Bool.decide_and, Bool.and_comm]

-- The number the entropy source gives out next.
def drawnId (env : Env) (d : Daemon) : Nat := (hostWord ((List.range 2).map fun i => env.entropy (d.drawn + i)) 0).toNat

theorem getEntropy16_some (env : Env) (d d' : Daemon) (id : Nat) (ran : getEntropy16 env d = some (id, d')) :
    id = drawnId env d ∧ d' = { d with drawn := d.drawn + 2 } := by
  unfold getEntropy16 getEntropy at ran
  simp only [Prog.bind_some, Prog.get_some, Prog.modify_some, Prog.pure_some] at ran
  obtain ⟨_, _, ⟨_, _, ⟨rfl, rfl⟩, _, _, rfl, rfl, rfl⟩, rfl, rfl⟩ := ran
  exact ⟨rfl, rfl⟩

-- A tunnel's own entry, which is made before the tunnel knows it, draws none.
def callId (env : Env) (d : Daemon) (t : TunnelPtr) : Nat := if (d.tunnel t).self = none then 0 else drawnId env d

def withCall (env : Env) (d : Daemon) (t : TunnelPtr) : Daemon :=
  { d with
    call := write d.call d.fresh (Call.created t (d.tunnel t) (callId env d t))
    fresh := d.fresh + 1
    drawn := if (d.tunnel t).self = none then d.drawn else d.drawn + 2 }

theorem newCall_some (env : Env) (t : TunnelPtr) (d d' : Daemon) (made : Option CallPtr)
    (ran : newCall env t d = some (made, d')) :
    env.callMemory = false ∧ made = none ∧ d' = d ∨
      env.callMemory = true ∧ made = some d.fresh ∧ (d.tunnel t).live = true ∧ d' = withCall env d t := by
  unfold newCall at ran
  split at ran
  next full =>
    obtain ⟨rfl, rfl⟩ := (Prog.pure_some _ _ _ _).mp ran
    exact .inl ⟨eq_false_of_ne_true full, rfl, rfl⟩
  next memory =>
    obtain ⟨tun, d₁, read, ran⟩ := (Prog.bind_some _ _ _ _ _).mp ran
    obtain ⟨live, rfl, rfl⟩ := (readTunnel_some _ _ _ _).mp read
    obtain ⟨id, d₂, drew, ran⟩ := (Prog.bind_some _ _ _ _ _).mp ran
    obtain ⟨_, _, got, ran⟩ := (Prog.bind_some _ _ _ _ _).mp ran
    obtain ⟨rfl, rfl⟩ := (Prog.get_some _ _ _).mp got
    obtain ⟨_, d₃, added, ran⟩ := (Prog.bind_some _ _ _ _ _).mp ran
    obtain rfl := (Prog.modify_some _ _ _ _).mp added
    obtain ⟨rfl, rfl⟩ := (Prog.pure_some _ _ _ _).mp ran
    refine .inr ⟨not_not.mp memory, ?_⟩
    unfold withCall callId
    cases own : (d₁.tunnel t).self with
    | none =>
        rw [own] at drew
        obtain ⟨rfl, rfl⟩ := (Prog.pure_some _ _ _ _).mp drew
        exact ⟨rfl, live, rfl⟩
    | some self =>
        rw [own] at drew
        obtain ⟨rfl, rfl⟩ := getEntropy16_some env d₁ d₂ id drew
        exact ⟨rfl, live, rfl⟩

def withLinkedCall (env : Env) (d : Daemon) (t : TunnelPtr) : Daemon :=
  { withCall env d t with tunnel := write d.tunnel t { d.tunnel t with calls := d.fresh :: (d.tunnel t).calls } }

theorem addIncomingCall_some (env : Env) (t : TunnelPtr) (d d' : Daemon) (result : Int)
    (ran : addIncomingCall env t d = some (result, d')) :
    env.callMemory = false ∧ d' = d ∨ env.callMemory = true ∧ (d.tunnel t).live = true ∧
      d' = withLinkedCall env d t := by
  unfold addIncomingCall at ran
  obtain ⟨made, d₁, new, later⟩ := (Prog.bind_some _ _ _ _ _).mp ran
  rcases newCall_some env t d d₁ made new with ⟨full, rfl, rfl⟩ | ⟨memory, rfl, live, rfl⟩
  · obtain ⟨_, rfl⟩ := (Prog.pure_some _ _ _ _).mp later
    exact .inl ⟨full, rfl⟩
  · obtain ⟨_, d₂, linked, done⟩ := (Prog.bind_some _ _ _ _ _).mp later
    obtain ⟨_, rfl⟩ := (setTunnel_some _ _ _ _ _).mp linked
    obtain ⟨_, rfl⟩ := (Prog.pure_some _ _ _ _).mp done
    exact .inr ⟨memory, live, rfl⟩

def madeTunnel (id : Nat) (self : CallPtr) (peer : SockAddr) (refhim : Nat) : Tunnel :=
  { Tunnel.created id with
    self := some self, ourrws := 4, rxspeed := 10000000, txspeed := 10000000, peer := peer, refhim := refhim, udpFd :=
      -1,
    pppoxFd := -1 }

def madeSelf (t : TunnelPtr) : Call := { Call.created t (Tunnel.created 0) 0 with ourfbit := true }

def withTunnel (env : Env) (d : Daemon) (peer : SockAddr) (refhim : Nat) : Daemon :=
  { d with
    tunnel := write d.tunnel d.fresh (madeTunnel (drawnId env d) (d.fresh + 1) peer refhim)
    call := write d.call (d.fresh + 1) (madeSelf d.fresh)
    tunnels := d.fresh :: d.tunnels
    fresh := d.fresh + 2
    drawn := d.drawn + 2 }

-- A tunnel that was given up for want of memory for its own entry.
def withLostTunnel (env : Env) (d : Daemon) : Daemon :=
  { d with
    tunnel := write d.tunnel d.fresh { Tunnel.created (drawnId env d) with live := false }
    fresh := d.fresh + 1
    drawn := d.drawn + 2 }

theorem addTunnel_some (env : Env) (peer : SockAddr) (refhim : Nat) (d d' : Daemon) (made : Option CallPtr)
    (ran : addTunnel env peer refhim d = some (made, d')) :
    (env.tunnelMemory = false ∨ env.callMemory = false) ∧ made = none ∧ (d' = d ∨ d' = withLostTunnel env d) ∨
      env.tunnelMemory = true ∧ env.callMemory = true ∧ made = some (d.fresh + 1) ∧
        d' = withTunnel env d peer refhim := by
  unfold addTunnel at ran
  obtain ⟨made, d₁, new, later⟩ := (Prog.bind_some _ _ _ _ _).mp ran
  unfold newTunnel at new
  split at new
  next full =>
    obtain ⟨rfl, rfl⟩ := (Prog.pure_some _ _ _ _).mp new
    obtain ⟨rfl, rfl⟩ := (Prog.pure_some _ _ _ _).mp later
    exact .inl ⟨.inl (eq_false_of_ne_true full), rfl, .inl rfl⟩
  next memory =>
    obtain ⟨id, d₂, drew, rest⟩ := (Prog.bind_some _ _ _ _ _).mp new
    obtain ⟨rfl, rfl⟩ := getEntropy16_some env d d₂ id drew
    obtain ⟨_, _, got, body⟩ := (Prog.bind_some _ _ _ _ _).mp rest
    obtain ⟨rfl, rfl⟩ := (Prog.get_some _ _ _).mp got
    obtain ⟨_, d₃, added, call⟩ := (Prog.bind_some _ _ _ _ _).mp body
    obtain rfl := (Prog.modify_some _ _ _ _).mp added
    obtain ⟨self, d₄, own, filled⟩ := (Prog.bind_some _ _ _ _ _).mp call
    rcases newCall_some env _ _ d₄ self own with ⟨full, rfl, rfl⟩ | ⟨callMemory, rfl, _, rfl⟩
    · obtain ⟨_, d₅, lost, done⟩ := (Prog.bind_some _ _ _ _ _).mp filled
      obtain ⟨_, rfl⟩ := (setTunnel_some _ _ _ _ _).mp lost
      obtain ⟨rfl, rfl⟩ := (Prog.pure_some _ _ _ _).mp done
      obtain ⟨rfl, rfl⟩ := (Prog.pure_some _ _ _ _).mp later
      refine .inl ⟨.inr full, rfl, .inr ?_⟩
      simp only [withLostTunnel, write_here, write_same_address]
    · simp only [Prog.bind_some, setTunnel_some, setCall_some, Prog.pure_some] at filled
      obtain ⟨_, _, ⟨_, rfl⟩, _, _, ⟨_, rfl⟩, rfl, rfl⟩ := filled
      simp only [Prog.bind_some, setTunnel_some, Prog.modify_some, readTunnel_some, Prog.pure_some] at later
      obtain ⟨_, _, ⟨_, rfl⟩, _, _, rfl, _, _, ⟨_, rfl, rfl⟩, rfl, rfl⟩ := later
      refine .inr ⟨not_not.mp memory, callMemory, ?_, ?_⟩
      · simp [withCall]
      · simp [withTunnel, withCall, write_same_address, madeTunnel, madeSelf, callId, Tunnel.created, Call.created]

def Effect (env : Env) (d d' : Daemon) : Op → Prop
  | .aside rest => d.fresh ≤ rest.fresh ∧ d' = d.aside rest
  | .tunnel t new =>
      (d.tunnel t).live = true ∧ new.core = (d.tunnel t).core ∧ d' = { d with tunnel := write d.tunnel t new }
  | .call c new => (d.call c).live = true ∧ new.core = (d.call c).core ∧ d' = { d with call := write d.call c new }
  | .leaves l => (d.lns l).live = true ∧ d' = { d with lns := write d.lns l { d.lns l with t := none } }
  | .addLns entry => d' =
      { d with lns := write d.lns d.fresh { entry with live := true, t := none }, lnslist := d.fresh :: d.lnslist, fresh := d.fresh + 1 }
  | .editLns l options => (d.lns l).live = true ∧ d' = { d with lns := write d.lns l (optioned options (d.lns l)) }
  | .dropLns l => (d.lns l).live = true ∧
      d' = { d with lns := write d.lns l { d.lns l with live := false }, lnslist := d.lnslist.erase l }
  | .raise t m new => (d.tunnel t).live = true ∧ new.core = { (d.tunnel t).core with state := some m } ∧
      d' = { d with tunnel := write d.tunnel t new }
  | .raiseCall c m new => (d.call c).live = true ∧ new.core = { (d.call c).core with state := some m } ∧
      d' = { d with call := write d.call c new }
  | .mark c msgtype =>
      (d.call c).live = true ∧ d' = { d with call := write d.call c { d.call c with msgtype := msgtype } }
  | .choose t l => (d.tunnel t).live = true ∧ d' = { d with tunnel := write d.tunnel t { d.tunnel t with lns := l } }
  | .challenge t chal =>
      (d.tunnel t).live = true ∧ d' = { d with tunnel := write d.tunnel t { d.tunnel t with chalThem := chal } }
  | .newTunnel peer refhim => d' = d ∨ d' = withLostTunnel env d ∨ d' = withTunnel env d peer refhim
  | .newCall t => d' = d ∨ (d.tunnel t).live = true ∧ d' = withLinkedCall env d t
  | .free c new => (d.call c).live = true ∧ (d.call c).state = none ∧ new.core = { (d.call c).core with lns := none } ∧
      d' = { d with call := write d.call c new }
  | .destroyCall c => (d.call c).live = true ∧ (d.tunnel (d.call c).container).live = true ∧ ∃ rest : Aside,
      d.fresh ≤ rest.fresh ∧ d' = ({ d with
        tunnel := write d.tunnel (d.call c).container
          { d.tunnel (d.call c).container with calls := (d.tunnel (d.call c).container).calls.erase c }
        call := write d.call c { d.call c with live := false, fd := -1, pppd := 0 }
        uaddr := d.uaddr.filter (· ∉ releasedBy d (d.call c)) }).aside rest
  | .unlink t => d' = { d with tunnels := d.tunnels.erase t }
  | .bury t => (d.tunnel t).live = true ∧ t ∉ d.tunnels ∧
      d' = { d with tunnel := write d.tunnel t { d.tunnel t with live := false } }
  | .assign c addr => (d.call c).live = true ∧ (addr = 0 ∨ addr ∉ d.uaddr) ∧
      d' = { d with call := write d.call c { d.call c with addr := addr }, uaddr := reserved d.uaddr addr }
  | .takeLocal c addr => ∃ l, (d.call c).lns = some l ∧ (d.call c).live = true ∧ (d.call c).state ≠ none ∧
      (d.lns l).live = true ∧ (addr = 0 ∨ addr ∉ d.uaddr) ∧
      d' = { d with lns := write d.lns l { d.lns l with localaddr := addr }, uaddr := reserved d.uaddr addr }
  | .check buf t c => d' = d ∨ (d.tunnel t).live = true ∧ d' = { d with
      tunnel := write d.tunnel t (checkedTunnel buf (d.tunnel t))
      call := write d.call c (checkedCall buf (d.tunnel t) (d.call c))
      out := d.out ++ if answersOld buf (d.tunnel t) then [zlb (d.tunnel t) (d.call c)] else [] }
  | .zlb t c => (d.tunnel t).live = true ∧ (d.call c).live = true ∧ d' = { d with
      tunnel := write d.tunnel t { d.tunnel t with controlRecSeqNum := (d.tunnel t).controlRecSeqNum - 1 }
      call := write d.call c { d.call c with
        cnu := false
        needclose := (d.call c).needclose &&
          !((d.call c).closing && decide ((d.call c).closeSs.toNat ≤ (d.tunnel t).cLr.toNat)) } }

theorem checkControl_live (buf : RecvBuffer) (t : TunnelPtr) (c : CallPtr) (d d' : Daemon) (bad : Int)
    (ran : checkControl buf t c d = some (bad, d')) : d' = d ∨ (d.tunnel t).live = true := by
  unfold checkControl at ran
  split at ran
  next =>
    obtain ⟨_, rfl⟩ := (Prog.pure_some _ _ _ _).mp ran
    exact .inl rfl
  next =>
    split at ran
    next =>
      obtain ⟨_, rfl⟩ := (Prog.pure_some _ _ _ _).mp ran
      exact .inl rfl
    next =>
      obtain ⟨_, _, read, _⟩ := (Prog.bind_some _ _ _ _ _).mp ran
      exact .inr ((readTunnel_some _ _ _ _).mp read).1

theorem takeZlb_some (t : TunnelPtr) (c : CallPtr) (d d' : Daemon) (u : PUnit) (ran : takeZlb t c d = some (u, d')) :
    Effect plainEnv d d' (.zlb t c) := by
  unfold takeZlb at ran
  simp only [Prog.bind_some, setTunnel_some, readTunnel_some, setCall_some] at ran
  obtain ⟨_, _, ⟨tunnelLive, rfl⟩, _, _, ⟨_, rfl, rfl⟩, callLive, rfl⟩ := ran
  refine ⟨tunnelLive, callLive, ?_⟩
  simp only [write_here]

theorem perform_effect (env : Env) (d d' : Daemon) (op : Op)
    (done : perform env d op = some d') : Effect env d d' op := by
  cases op with
  | aside rest =>
      obtain ⟨grows, same⟩ := Option.ite_none_right_eq_some.mp done
      exact ⟨grows, (Option.some.inj same).symm⟩
  | tunnel t new =>
      obtain ⟨⟨live, core⟩, same⟩ := Option.ite_none_right_eq_some.mp done
      exact ⟨live, core, (Option.some.inj same).symm⟩
  | call c new =>
      obtain ⟨⟨live, core⟩, same⟩ := Option.ite_none_right_eq_some.mp done
      exact ⟨live, core, (Option.some.inj same).symm⟩
  | leaves l =>
      obtain ⟨live, same⟩ := Option.ite_none_right_eq_some.mp done
      exact ⟨live, (Option.some.inj same).symm⟩
  | addLns entry => exact (Option.some.inj done).symm
  | editLns l options =>
      obtain ⟨live, same⟩ := Option.ite_none_right_eq_some.mp done
      exact ⟨live, (Option.some.inj same).symm⟩
  | dropLns l =>
      obtain ⟨live, same⟩ := Option.ite_none_right_eq_some.mp done
      exact ⟨live, (Option.some.inj same).symm⟩
  | raise t m new =>
      obtain ⟨⟨live, core⟩, same⟩ := Option.ite_none_right_eq_some.mp done
      exact ⟨live, core, (Option.some.inj same).symm⟩
  | raiseCall c m new =>
      obtain ⟨⟨live, core⟩, same⟩ := Option.ite_none_right_eq_some.mp done
      exact ⟨live, core, (Option.some.inj same).symm⟩
  | mark c msgtype =>
      obtain ⟨live, same⟩ := Option.ite_none_right_eq_some.mp done
      exact ⟨live, (Option.some.inj same).symm⟩
  | choose t l =>
      obtain ⟨live, same⟩ := Option.ite_none_right_eq_some.mp done
      exact ⟨live, (Option.some.inj same).symm⟩
  | challenge t chal =>
      obtain ⟨live, same⟩ := Option.ite_none_right_eq_some.mp done
      exact ⟨live, (Option.some.inj same).symm⟩
  | newTunnel peer refhim =>
      obtain ⟨⟨made, after⟩, ran, rfl⟩ := Option.map_eq_some_iff.mp done
      rcases addTunnel_some env peer refhim d after made ran with ⟨_, _, same | lost⟩ | ⟨_, _, _, added⟩
      · exact .inl same
      · exact .inr (.inl lost)
      · exact .inr (.inr added)
  | newCall t =>
      obtain ⟨⟨result, after⟩, ran, rfl⟩ := Option.map_eq_some_iff.mp done
      rcases addIncomingCall_some env t d after result ran with ⟨_, same⟩ | ⟨_, live, added⟩
      · exact .inl same
      · exact .inr ⟨live, added⟩
  | free c new =>
      obtain ⟨⟨live, idle, core⟩, same⟩ := Option.ite_none_right_eq_some.mp done
      exact ⟨live, idle, core, (Option.some.inj same).symm⟩
  | destroyCall c =>
      obtain ⟨⟨u, after⟩, ran, rfl⟩ := Option.map_eq_some_iff.mp done
      exact destroyCall_some env c d after u ran
  | unlink t => exact (Option.some.inj done).symm
  | bury t =>
      obtain ⟨⟨live, absent⟩, same⟩ := Option.ite_none_right_eq_some.mp done
      exact ⟨live, absent, (Option.some.inj same).symm⟩
  | assign c addr =>
      obtain ⟨⟨live, free⟩, same⟩ := Option.ite_none_right_eq_some.mp done
      exact ⟨live, free, (Option.some.inj same).symm⟩
  | takeLocal c addr =>
      obtain ⟨l, entry, chosen⟩ := Option.bind_eq_some_iff.mp done
      obtain ⟨⟨live, busy, entryLive, free⟩, same⟩ := Option.ite_none_right_eq_some.mp chosen
      exact ⟨l, entry, live, busy, entryLive, free, (Option.some.inj same).symm⟩
  | check buf t c =>
      obtain ⟨⟨bad, after⟩, ran, rfl⟩ := Option.map_eq_some_iff.mp done
      rcases checkControl_live buf t c d after bad ran with same | live
      · exact .inl same
      · exact .inr ⟨live, (checkControl_some buf t c d after bad ran).2⟩
  | zlb t c =>
      obtain ⟨⟨u, after⟩, ran, rfl⟩ := Option.map_eq_some_iff.mp done
      exact takeZlb_some t c d after u ran

-- The operations that change the core of a call, and of a tunnel.
def Op.Recalls : Op → Prop
  | .raiseCall _ _ _ | .mark _ _ | .newTunnel _ _ | .newCall _ | .free _ _ | .destroyCall _ | .assign _ _ => True
  | _ => False

def Op.Retunnels : Op → Prop
  | .raise _ _ _ | .choose _ _ | .challenge _ _ | .newTunnel _ _ | .newCall _ | .destroyCall _ | .bury _ | .check _ _ _
  | .zlb _ _ => True
  | _ => False

theorem checkedCall_core (buf : RecvBuffer) (tun : Tunnel) (cal : Call) :
    (checkedCall buf tun cal).core = cal.core := by
  unfold checkedCall
  split
  · rfl
  · split <;> rfl

theorem perform_callCore (env : Env) (d d' : Daemon) (op : Op) (still : ¬ op.Recalls)
    (done : perform env d op = some d')
    (c : CallPtr) : (d'.call c).core = (d.call c).core := by
  have effect := perform_effect env d d' op done
  cases op with
  | aside rest => obtain ⟨_, rfl⟩ := effect; rfl
  | tunnel t new => obtain ⟨_, _, rfl⟩ := effect; rfl
  | call x new => obtain ⟨_, core, rfl⟩ := effect; exact write_same d.call Call.core x new core c
  | leaves l => obtain ⟨_, rfl⟩ := effect; rfl
  | addLns entry => obtain rfl := effect; rfl
  | editLns l options => obtain ⟨_, rfl⟩ := effect; rfl
  | dropLns l => obtain ⟨_, rfl⟩ := effect; rfl
  | raise t m new => obtain ⟨_, _, rfl⟩ := effect; rfl
  | choose t l => obtain ⟨_, rfl⟩ := effect; rfl
  | challenge t chal => obtain ⟨_, rfl⟩ := effect; rfl
  | unlink t => obtain rfl := effect; rfl
  | bury t => obtain ⟨_, _, rfl⟩ := effect; rfl
  | takeLocal x addr => obtain ⟨_, _, _, _, _, _, rfl⟩ := effect; rfl
  | check buf t x =>
      rcases effect with rfl | ⟨_, rfl⟩
      · rfl
      · exact write_same d.call Call.core x _ (checkedCall_core buf (d.tunnel t) (d.call x)) c
  | zlb t x =>
      obtain ⟨_, _, rfl⟩ := effect
      refine write_same d.call Call.core x _ ?_ c
      rfl
  | _ => exact (still trivial).elim

theorem perform_tunnelCore (env : Env) (d d' : Daemon) (op : Op) (still : ¬ op.Retunnels)
    (done : perform env d op = some d')
    (t : TunnelPtr) : (d'.tunnel t).core = (d.tunnel t).core := by
  have effect := perform_effect env d d' op done
  cases op with
  | aside rest => obtain ⟨_, rfl⟩ := effect; rfl
  | tunnel other new => obtain ⟨_, core, rfl⟩ := effect; exact write_same d.tunnel Tunnel.core other new core t
  | call c new => obtain ⟨_, _, rfl⟩ := effect; rfl
  | leaves l => obtain ⟨_, rfl⟩ := effect; rfl
  | addLns entry => obtain rfl := effect; rfl
  | editLns l options => obtain ⟨_, rfl⟩ := effect; rfl
  | dropLns l => obtain ⟨_, rfl⟩ := effect; rfl
  | raiseCall c m new => obtain ⟨_, _, rfl⟩ := effect; rfl
  | mark c msgtype => obtain ⟨_, rfl⟩ := effect; rfl
  | free c new => obtain ⟨_, _, _, rfl⟩ := effect; rfl
  | unlink other => obtain rfl := effect; rfl
  | assign c addr => obtain ⟨_, _, rfl⟩ := effect; rfl
  | takeLocal c addr => obtain ⟨_, _, _, _, _, _, rfl⟩ := effect; rfl
  | _ => exact (still trivial).elim

theorem perform_listed (env : Env) (d d' : Daemon) (op : Op) (listed : Listed d) (done : perform env d op = some d') :
    Listed d' := by
  have effect := perform_effect env d d' op done
  cases op with
  | aside rest =>
      obtain ⟨grows, rfl⟩ := effect
      exact ⟨listed.1, fun t member => Nat.lt_of_lt_of_le (listed.2 t member) grows⟩
  | tunnel t new => obtain ⟨_, _, rfl⟩ := effect; exact listed
  | call c new => obtain ⟨_, _, rfl⟩ := effect; exact listed
  | leaves l => obtain ⟨_, rfl⟩ := effect; exact listed
  | addLns entry =>
      obtain rfl := effect
      exact ⟨listed.1, fun t member => Nat.lt_succ_of_lt (listed.2 t member)⟩
  | editLns l options => obtain ⟨_, rfl⟩ := effect; exact listed
  | dropLns l => obtain ⟨_, rfl⟩ := effect; exact listed
  | raise t m new => obtain ⟨_, _, rfl⟩ := effect; exact listed
  | raiseCall c m new => obtain ⟨_, _, rfl⟩ := effect; exact listed
  | mark c msgtype => obtain ⟨_, rfl⟩ := effect; exact listed
  | choose t l => obtain ⟨_, rfl⟩ := effect; exact listed
  | challenge t chal => obtain ⟨_, rfl⟩ := effect; exact listed
  | newTunnel peer refhim =>
      rcases effect with rfl | rfl | rfl
      · exact listed
      · exact ⟨listed.1, fun t member => Nat.lt_succ_of_lt (listed.2 t member)⟩
      · have new : d.fresh ∉ d.tunnels := fun member => Nat.lt_irrefl _ (listed.2 d.fresh member)
        refine ⟨List.nodup_cons.mpr ⟨new, listed.1⟩, fun t member => ?_⟩
        rcases List.mem_cons.mp member with rfl | old
        · exact Nat.lt_add_of_pos_right (by decide)
        · exact Nat.lt_add_right 2 (listed.2 t old)
  | newCall t =>
      rcases effect with rfl | ⟨_, rfl⟩
      · exact listed
      · exact ⟨listed.1, fun t member => Nat.lt_succ_of_lt (listed.2 t member)⟩
  | free c new => obtain ⟨_, _, _, rfl⟩ := effect; exact listed
  | destroyCall c =>
      obtain ⟨_, _, rest, grows, rfl⟩ := effect
      exact ⟨listed.1, fun t member => Nat.lt_of_lt_of_le (listed.2 t member) grows⟩
  | unlink t => obtain rfl := effect; exact listed_erase d t listed
  | bury t => obtain ⟨_, _, rfl⟩ := effect; exact listed
  | assign c addr => obtain ⟨_, _, rfl⟩ := effect; exact listed
  | takeLocal c addr => obtain ⟨_, _, _, _, _, _, rfl⟩ := effect; exact listed
  | check buf t c =>
      rcases effect with rfl | ⟨_, rfl⟩
      · exact listed
      · exact listed
  | zlb t c => obtain ⟨_, _, rfl⟩ := effect; exact listed

theorem perform_fewer (env : Env) (d d' : Daemon) (op : Op) (done : perform env d op = some d')
    (other : ∀ peer refhim, op ≠ .newTunnel peer refhim) : d'.tunnels ⊆ d.tunnels := by
  have effect := perform_effect env d d' op done
  cases op with
  | aside rest => obtain ⟨_, rfl⟩ := effect; exact List.Subset.refl _
  | leaves l => obtain ⟨_, rfl⟩ := effect; exact List.Subset.refl _
  | addLns entry => obtain rfl := effect; exact List.Subset.refl _
  | editLns l options => obtain ⟨_, rfl⟩ := effect; exact List.Subset.refl _
  | dropLns l => obtain ⟨_, rfl⟩ := effect; exact List.Subset.refl _
  | mark c msgtype => obtain ⟨_, rfl⟩ := effect; exact List.Subset.refl _
  | choose t l => obtain ⟨_, rfl⟩ := effect; exact List.Subset.refl _
  | challenge t chal => obtain ⟨_, rfl⟩ := effect; exact List.Subset.refl _
  | newTunnel peer refhim => exact absurd rfl (other peer refhim)
  | newCall t =>
      rcases effect with rfl | ⟨_, rfl⟩
      · exact List.Subset.refl _
      · exact List.Subset.refl _
  | free c new => obtain ⟨_, _, _, rfl⟩ := effect; exact List.Subset.refl _
  | destroyCall c => obtain ⟨_, _, rest, _, rfl⟩ := effect; exact List.Subset.refl _
  | unlink t => obtain rfl := effect; exact List.erase_subset
  | takeLocal c addr => obtain ⟨_, _, _, _, _, _, rfl⟩ := effect; exact List.Subset.refl _
  | check buf t c =>
      rcases effect with rfl | ⟨_, rfl⟩
      · exact List.Subset.refl _
      · exact List.Subset.refl _
  | _ => obtain ⟨_, _, rfl⟩ := effect; exact List.Subset.refl _

theorem run_listed (env : Env) {d d' : Daemon} {visits : List (Daemon × Op)} (run : Run (perform env) d visits d')
    (listed : Listed d) : Listed d' :=
  Run.invariant (fun _ _ => True) Listed listed (fun d op d' kept _ done => perform_listed env d d' op kept done) run
    (Run.meets_always visits)

instance (env : Env) (allowed : Op → Prop) : Prog.Steady (Performed env allowed) where
  refl d := fun _ => ⟨[], Run.start, Run.meets_nil _⟩
  trans := by
    intro d d' d'' first second listed
    obtain ⟨visits, run, meets⟩ := first listed
    obtain ⟨later, onward, more⟩ := second (run_listed env run listed)
    exact ⟨visits ++ later, run.append onward, (Run.meets_append _ _ _).mpr ⟨meets, more⟩⟩

-- The rules: each primitive of the source is one operation.
section Rules

variable {env : Env} {allowed : Op → Prop}

theorem performed_op (op : Op) (d d' : Daemon) (ok : allowed op) (done : perform env d op = some d') :
    Performed env allowed d d' :=
  fun _ => ⟨[(d, op)], Run.single op d' done, (Run.meets_snoc _ [] d op).mpr ⟨Run.meets_nil _, ok⟩⟩

theorem performed_weaken (more : Op → Prop) (implies : ∀ op, allowed op → more op) (d d' : Daemon)
    (performed : Performed env allowed d d') : Performed env more d d' := by
  intro listed
  obtain ⟨visits, run, meets⟩ := performed listed
  exact ⟨visits, run, Run.meets_weaken _ _ visits meets fun _ op => implies op⟩

theorem performed_beside {α : Type} (side : ∀ rest, allowed (.aside rest)) (prog : Act α)
    (beside : Prog.Within Beside prog) : Prog.Within (Performed env allowed) prog := by
  intro d a d' ran
  obtain ⟨rest, grows, rfl⟩ := beside d a d' ran
  exact performed_op (.aside rest) d _ (side rest) (if_pos grows)

theorem setTunnel_performed (t : TunnelPtr) (change : Tunnel → Tunnel) (keeps : ∀ tun, (change tun).core = tun.core)
    (ok : ∀ new, allowed (.tunnel t new)) : Prog.Within (Performed env allowed) (setTunnel t change) := by
  intro d u d' ran
  obtain ⟨live, rfl⟩ := (setTunnel_some _ _ _ _ _).mp ran
  exact performed_op (.tunnel t (change (d.tunnel t))) d _ (ok _) (if_pos ⟨live, keeps _⟩)

theorem setCall_performed (c : CallPtr) (change : Call → Call) (keeps : ∀ cal, (change cal).core = cal.core)
    (ok : ∀ new, allowed (.call c new)) : Prog.Within (Performed env allowed) (setCall c change) := by
  intro d u d' ran
  obtain ⟨live, rfl⟩ := (setCall_some _ _ _ _ _).mp ran
  exact performed_op (.call c (change (d.call c))) d _ (ok _) (if_pos ⟨live, keeps _⟩)

end Rules

end ZyAgf.Xl2tpd
