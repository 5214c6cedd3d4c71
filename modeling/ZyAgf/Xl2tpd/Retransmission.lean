import ZyAgf.Xl2tpd.ClosingHandshake

set_option autoImplicit false

namespace ZyAgf.Xl2tpd

open Serial

-- The message and the last acknowledgement are both less than half the ring
-- behind the number the tunnel uses next.
def InWindow (tun : Tunnel) (buf : Buffer) : Prop :=
  dist buf.hdr.Ns tun.controlSeqNum < 32768 ∧ dist tun.cLr tun.controlSeqNum < 32768

-- control_xmit tosses a message as delivered when it leaves everything as it is:
-- otherwise it sends the message again or closes the tunnel.
def TossesCovered (d d' : Daemon) (buf : Buffer) (t : TunnelPtr) : Prop :=
  d' = d ↔ Before buf.hdr.Ns (d.tunnel t).cLr

-- A round of the main loop that finds a control message of a tunnel due.
structure Due (d : Daemon) (event : Event) (buf : Buffer) (t : TunnelPtr) (rest : List ScheduleEntry) : Prop where
  timer : event.occurs = .timer
  owner : buf.tunnel = some t
  first : ∃ tv, d.events = ⟨tv, .controlXmit buf⟩ :: rest ∧ tv.lessEq event.world.now = true

def TossesDue (cfg : Config) (d : Daemon) (event : Event) : Prop :=
  ∀ buf t rest d', Due d event buf t rest → InWindow (d.tunnel t) buf → next cfg d event = some d' →
    TossesCovered { d with events := rest } d' buf t

def DueOnOneSide (d : Daemon) (event : Event) : Prop :=
  ∀ buf t rest, Due d event buf t rest → InWindow (d.tunnel t) buf → ¬ Straddles buf.hdr.Ns (d.tunnel t).cLr

theorem destroyCall_dead (env : Env) (c : CallPtr) (d d' : Daemon) (u : PUnit)
    (ran : destroyCall env c d = some (u, d')) :
    (d'.call c).live = false := by
  unfold destroyCall at ran
  obtain ⟨cal, d₁, _, ran⟩ := (Prog.bind_some _ _ _ _ _).mp ran
  obtain ⟨_, d₂, _, ran⟩ := (Prog.bind_some _ _ _ _ _).mp ran
  obtain ⟨_, d₃, _, ran⟩ := (Prog.bind_some _ _ _ _ _).mp ran
  obtain ⟨_, d₄, _, ran⟩ := (Prog.bind_some _ _ _ _ _).mp ran
  obtain ⟨_, d₅, _, ran⟩ := (Prog.bind_some _ _ _ _ _).mp ran
  obtain ⟨_, d₆, _, ran⟩ := (Prog.bind_some _ _ _ _ _).mp ran
  obtain ⟨_, rfl⟩ := (setCall_some _ _ _ _ _).mp ran
  simp only [write_here]

theorem destroyTunnel_dead (env : Env) (t : TunnelPtr) (d d' : Daemon) (u : PUnit)
    (ran : destroyTunnel env t d = some (u, d')) : (d'.tunnel t).live = false := by
  unfold destroyTunnel at ran
  obtain ⟨tun, d₁, _, ran⟩ := (Prog.bind_some _ _ _ _ _).mp ran
  obtain ⟨_, d₂, _, ran⟩ := (Prog.bind_some _ _ _ _ _).mp ran
  obtain ⟨_, d₃, _, ran⟩ := (Prog.bind_some _ _ _ _ _).mp ran
  obtain ⟨_, d₄, _, ran⟩ := (Prog.bind_some _ _ _ _ _).mp ran
  obtain ⟨_, d₅, _, ran⟩ := (Prog.bind_some _ _ _ _ _).mp ran
  obtain ⟨me, d₆, _, ran⟩ := (Prog.bind_some _ _ _ _ _).mp ran
  obtain ⟨_, d₇, _, ran⟩ := (Prog.bind_some _ _ _ _ _).mp ran
  obtain ⟨_, rfl⟩ := (setTunnel_some _ _ _ _ _).mp ran
  simp only [write_here]

theorem callClose_marks (env : Env) (depth : Nat) (c : CallPtr) (d d' : Daemon) (u : PUnit)
    (ran : callClose env depth c d = some (u, d')) :
    (d.call c).live = true ∧ (d.tunnel (d.call c).container).live = true ∧
      if (d.call c).closing then (d'.tunnel (d.call c).container).live = false ∨ (d'.call c).live = false
      else (d'.call c).closing = true := by
  cases depth with
  | zero =>
      rw [callClose] at ran
      exact ((Prog.wrong_some _ _ _).mp ran).elim
  | succ depth =>
      rw [callClose] at ran
      obtain ⟨cal, d₁, read, ran⟩ := (Prog.bind_some _ _ _ _ _).mp ran
      obtain ⟨callLive, rfl, rfl⟩ := (readCall_some _ _ _ _).mp read
      obtain ⟨tun, d₂, read, ran⟩ := (Prog.bind_some _ _ _ _ _).mp ran
      obtain ⟨tunnelLive, rfl, rfl⟩ := (readTunnel_some _ _ _ _).mp read
      refine ⟨callLive, tunnelLive, ?_⟩
      split at ran
      next own =>
        obtain ⟨_, d₃, _, ran⟩ := (Prog.bind_some _ _ _ _ _).mp ran
        split at ran
        next again =>
          rw [if_pos again]
          exact .inl (destroyTunnel_dead env _ d₃ d' u ran)
        next first =>
          rw [if_neg first]
          obtain ⟨_, d₄, _, ran⟩ := (Prog.bind_some _ _ _ _ _).mp ran
          obtain ⟨body, d₅, _, ran⟩ := (Prog.bind_some _ _ _ _ _).mp ran
          obtain ⟨buf, d₆, _, ran⟩ := (Prog.bind_some _ _ _ _ _).mp ran
          obtain ⟨buf, d₇, _, ran⟩ := (Prog.bind_some _ _ _ _ _).mp ran
          obtain ⟨_, d₈, _, ran⟩ := (Prog.bind_some _ _ _ _ _).mp ran
          obtain ⟨tun, d₉, _, ran⟩ := (Prog.bind_some _ _ _ _ _).mp ran
          obtain ⟨_, d₁₀, _, ran⟩ := (Prog.bind_some _ _ _ _ _).mp ran
          obtain ⟨_, rfl⟩ := (setCall_some _ _ _ _ _).mp ran
          simp only [write_here]
      next onCall =>
        split at ran
        next again =>
          rw [if_pos again]
          exact .inr (destroyCall_dead env c d₂ d' u ran)
        next first =>
          rw [if_neg first]
          obtain ⟨_, d₄, _, ran⟩ := (Prog.bind_some _ _ _ _ _).mp ran
          obtain ⟨body, d₅, _, ran⟩ := (Prog.bind_some _ _ _ _ _).mp ran
          obtain ⟨buf, d₆, _, ran⟩ := (Prog.bind_some _ _ _ _ _).mp ran
          obtain ⟨buf, d₇, _, ran⟩ := (Prog.bind_some _ _ _ _ _).mp ran
          obtain ⟨_, d₈, _, ran⟩ := (Prog.bind_some _ _ _ _ _).mp ran
          obtain ⟨_, rfl⟩ := (setCall_some _ _ _ _ _).mp ran
          simp only [write_here]

-- What control_xmit does to the tunnel's entry once a message was sent too often.
def exhausted (cal : Call) : Call :=
  if cal.needclose then { cal with needclose := false, closing := true }
  else { cal with needclose := true, errormsg := text "Timeout" }

theorem exhausted_open (cal : Call) : (exhausted cal).closing = false → cal.closing = false := by
  unfold exhausted
  split
  · intro impossible
    cases impossible
  · exact id

theorem exhausted_live (cal : Call) : (exhausted cal).container = cal.container := by
  unfold exhausted
  split <;> rfl

theorem controlXmit_tosses (env : Env) (depth : Nat) (buf : Buffer) (t : TunnelPtr) (d d' : Daemon) (u : PUnit)
    (owner : buf.tunnel = some t) (ran : controlXmit env depth buf d = some (u, d')) :
    d' = d ↔ buf.hdr.Ns.toNat < (d.tunnel t).cLr.toNat := by
  cases depth with
  | zero =>
      rw [controlXmit] at ran
      exact ((Prog.wrong_some _ _ _).mp ran).elim
  | succ depth =>
      rw [controlXmit, owner] at ran
      obtain ⟨tun, d₁, read, ran⟩ := (Prog.bind_some _ _ _ _ _).mp ran
      obtain ⟨_, rfl, rfl⟩ := (readTunnel_some _ _ _ _).mp read
      split at ran
      next covered =>
        obtain ⟨_, rfl⟩ := (Prog.pure_some _ _ _ _).mp ran
        exact iff_of_true rfl covered
      next uncovered =>
        refine iff_of_false ?_ uncovered
        rintro rfl
        split at ran
        next spent =>
          obtain ⟨self, d₂, own, ran⟩ := (Prog.bind_some _ _ _ _ _).mp ran
          obtain ⟨_, rfl⟩ := (deref_some _ _ _ _).mp own
          obtain ⟨_, d₃, noted, ran⟩ := (Prog.bind_some _ _ _ _ _).mp ran
          obtain ⟨live, noted⟩ := (setCall_some _ _ _ _ _).mp noted
          have entry : d₃.call self = exhausted (d₂.call self) := by
            rw [noted]
            exact write_here _ _ _
          have tunnels : d₃.tunnel = d₂.tunnel := by rw [noted]
          obtain ⟨_, tunnelLive, marks⟩ := callClose_marks env depth self d₃ d₂ u ran
          rw [entry, exhausted_live, tunnels] at tunnelLive
          rw [entry, exhausted_live] at marks
          split at marks
          next again =>
            rw [live, tunnelLive] at marks
            rcases marks with gone | gone <;> cases gone
          next first =>
            rw [exhausted_open _ (eq_false_of_ne_true first)] at marks
            cases marks
        next =>
          obtain ⟨_, d₂, scheduled, ran⟩ := (Prog.bind_some _ _ _ _ _).mp ran
          obtain rfl := (Prog.modify_some _ _ _ _).mp scheduled
          unfold udpXmit at ran
          obtain ⟨tun, d₃, read, ran⟩ := (Prog.bind_some _ _ _ _ _).mp ran
          obtain ⟨_, rfl, rfl⟩ := (readTunnel_some _ _ _ _).mp read
          have sent := congrArg (fun d => d.out.length) ((emit_some _ _ _ _).mp ran)
          simp at sent

theorem inWindow_apart (tun : Tunnel) (buf : Buffer) (window : InWindow tun buf) : 2 * dist buf.hdr.Ns tun.cLr ≠ 2 ^
    16 := by
  obtain ⟨message, ack⟩ := window
  have around := dist_trans buf.hdr.Ns tun.cLr tun.controlSeqNum
  have bound := dist_lt buf.hdr.Ns tun.cLr
  omega

theorem tossesCovered_iff (env : Env) (depth : Nat) (buf : Buffer) (t : TunnelPtr) (d d' : Daemon) (u : PUnit)
    (owner : buf.tunnel = some t) (window : InWindow (d.tunnel t) buf)
    (ran : controlXmit env depth buf d = some (u, d')) :
    TossesCovered d d' buf t ↔ ¬ Straddles buf.hdr.Ns (d.tunnel t).cLr := by
  unfold TossesCovered
  rw [controlXmit_tosses env depth buf t d d' u owner ran]
  exact lt_agrees_iff _ _ (inWindow_apart _ _ window)

theorem next_due (cfg : Config) (d d' : Daemon) (event : Event) (buf : Buffer) (t : TunnelPtr)
    (rest : List ScheduleEntry)
    (due : Due d event buf t rest) (moved : next cfg d event = some d') :
    controlXmit { toConfig := cfg, toWorld := event.world } event.world.fuel buf { d with events := rest } = some
      ((), d') := by
  obtain ⟨timer, _, tv, queue, now⟩ := due
  unfold next at moved
  rw [timer] at moved
  obtain ⟨⟨u, after⟩, ran, rfl⟩ := Option.map_eq_some_iff.mp moved
  change processSchedule _ d = _ at ran
  unfold processSchedule at ran
  obtain ⟨_, d₁, got, ran⟩ := (Prog.bind_some _ _ _ _ _).mp ran
  obtain ⟨rfl, rfl⟩ := (Prog.get_some _ _ _).mp got
  rw [queue] at ran
  dsimp only at ran
  rw [if_pos now] at ran
  obtain ⟨_, d₂, dropped, ran⟩ := (Prog.bind_some _ _ _ _ _).mp ran
  obtain rfl := (Prog.modify_some _ _ _ _).mp dropped
  exact ran

theorem tossesDue_iff (cfg : Config) (d d' : Daemon) (event : Event) (moved : next cfg d event = some d') :
    TossesDue cfg d event ↔ DueOnOneSide d event := by
  constructor
  · intro tosses buf t rest due window
    exact (tossesCovered_iff _ _ buf t { d with events := rest } d' () due.owner window
      (next_due cfg d d' event buf t rest due moved)).mp (tosses buf t rest d' due window moved)
  · intro side buf t rest d'' due window moved
    exact (tossesCovered_iff _ _ buf t { d with events := rest } d'' () due.owner window
      (next_due cfg d d'' event buf t rest due moved)).mpr (side buf t rest due window)

-- Every call of control_xmit, for a first transmission too, tosses exactly what
-- is covered if and only if message and acknowledgement lie on one side of the
-- wrap; and so does every round of the main loop in every run.
theorem control_messages_tossed (cfg : Config) (deflns : Option Lns) (lnslist : List Lns) (deflac : Option Lac)
    (laclist : List Lac) (visits : List (Daemon × Event)) (finish : Daemon)
    (run : Run (next cfg) (initDaemon deflns lnslist deflac laclist) visits finish) :
    (∀ (env : Env) (depth : Nat) (buf : Buffer) (t : TunnelPtr) (d d' : Daemon) (u : PUnit), buf.tunnel = some t →
      InWindow (d.tunnel t) buf → controlXmit env depth buf d = some (u, d') →
      (TossesCovered d d' buf t ↔ ¬ Straddles buf.hdr.Ns (d.tunnel t).cLr)) ∧
    (Run.Meets (TossesDue cfg) visits ↔ Run.Meets DueOnOneSide visits) := by
  refine ⟨tossesCovered_iff, ?_⟩
  constructor
  · intro tosses visit member
    obtain ⟨_, d', _, _, moved⟩ := Run.visit_split run visit member
    exact (tossesDue_iff cfg visit.1 d' visit.2 moved).mp (tosses visit member)
  · intro sides visit member
    obtain ⟨_, d', _, _, moved⟩ := Run.visit_split run visit member
    exact (tossesDue_iff cfg visit.1 d' visit.2 moved).mpr (sides visit member)

-- A tunnel we started, its SCCRQ still queued a second later, and the last
-- acknowledgement as the peer left it.
def startPeer : Event := ⟨plainWorld, .command (.tunnel (text "peer"))⟩

def timerEvent : Event := ⟨{ plainWorld with now := ⟨1, 0⟩ }, .timer⟩

def dueSeen (ack : U16) (d : Daemon) : Bool :=
  match d.events with
  | ⟨tv, .controlXmit buf⟩ :: _ =>
      tv.lessEq ⟨1, 0⟩ && buf.tunnel == some 0 && buf.hdr.Ns == 0 && (d.tunnel 0).controlSeqNum == 1 &&
        (d.tunnel 0).cLr == ack && (next plainConfig d timerEvent).isSome
  | _ => false

structure DueScene (d d' : Daemon) (buf : Buffer) (rest : List ScheduleEntry) (ack : U16) : Prop where
  due : Due d timerEvent buf 0 rest
  number : buf.hdr.Ns = 0
  unsent : (d.tunnel 0).controlSeqNum = 1
  ack : (d.tunnel 0).cLr = ack
  moved : next plainConfig d timerEvent = some d'

theorem dueScene_of_seen (d : Daemon) (ack : U16) (seen : dueSeen ack d = true) : ∃ d' buf rest,
    DueScene d d' buf rest ack := by
  unfold dueSeen at seen
  split at seen
  next tv buf rest queue =>
    simp only [Bool.and_eq_true, beq_iff_eq] at seen
    obtain ⟨⟨⟨⟨⟨now, owner⟩, number⟩, unsent⟩, acked⟩, moves⟩ := seen
    obtain ⟨d', moved⟩ := Option.isSome_iff_exists.mp moves
    exact ⟨d', buf, rest, ⟨rfl, owner, tv, queue, now⟩, number, unsent, acked, moved⟩
  next => cases seen

theorem dueScene_window (d d' : Daemon) (buf : Buffer) (rest : List ScheduleEntry) (ack : U16)
    (scene : DueScene d d' buf rest ack) (near : dist ack (1 : U16) < 32768) : InWindow (d.tunnel 0) buf := by
  unfold InWindow
  rw [scene.number, scene.unsent, scene.ack]
  exact ⟨by decide, near⟩

theorem due_unique (d : Daemon) (event : Event) (buf other : Buffer) (t u : TunnelPtr) (rest queue : List ScheduleEntry)
    (due : Due d event buf t rest) (again : Due d event other u queue) : other = buf ∧ u = t := by
  obtain ⟨_, owner, tv, queued, _⟩ := due
  obtain ⟨_, owned, tv', queued', _⟩ := again
  rw [queued] at queued'
  injection queued' with entry _
  injection entry with _ func
  injection func with same
  subst same
  exact ⟨rfl, Option.some.inj (owned.symm.trans owner)⟩

-- Without an acknowledgement the SCCRQ is sent again.
theorem control_messages_tossed_sccrq : ∃ d d' buf rest, DueScene d d' buf rest 0 ∧
    TossesCovered { d with events := rest } d' buf 0 ∧
    Run.Meets (TossesDue plainConfig) [(initDaemon none [] none [], startPeer), (d, timerEvent)] := by
  have seen : (next plainConfig (initDaemon none [] none []) startPeer).any (dueSeen 0) = true := by decide +kernel
  obtain ⟨d, started, facts⟩ := (Option.any_eq_true _ _).mp seen
  obtain ⟨d', buf, rest, scene⟩ := dueScene_of_seen d 0 facts
  have window := dueScene_window d d' buf rest 0 scene (by decide)
  have side : ¬ Straddles buf.hdr.Ns (d.tunnel 0).cLr := by
    rw [scene.number, scene.ack]
    decide
  have ran := next_due plainConfig d d' timerEvent buf 0 rest scene.due scene.moved
  have run := (Run.start.snoc [] _ d startPeer started).snoc _ _ _ _ scene.moved
  obtain ⟨each, due⟩ := control_messages_tossed plainConfig none [] none [] _ _ run
  refine ⟨d, d', buf, rest, scene, (each _ _ buf 0 { d with events := rest } d' () scene.due.owner window ran).mpr side,
    due.mpr ?_⟩
  rw [Run.meets_snoc]
  constructor
  · intro visit member other t queue due
    obtain rfl := List.mem_singleton.mp member
    cases due.timer
  · intro other t queue due _
    obtain ⟨rfl, rfl⟩ := due_unique d timerEvent buf other 0 t rest queue scene.due due
    exact side

-- A tunnel that is once round the ring: the peer has acknowledged everything up
-- to message 65534, and message 0 is new.
def lappedTunnel : Tunnel := { Tunnel.created 513 with controlSeqNum := 1, cLr := 65535 }

def lappedDaemon : Daemon := { initDaemon none [] none [] with tunnel := write (fun _ => noTunnel) 0 lappedTunnel }

def lappedBuffer : Buffer := ⟨⟨1, udpListenPort⟩, ⟨0xC802, 20, 9, 0, 0, 0⟩, addMessageTypeAvp .Hello, 0, some 0⟩

-- The new message is tossed without being sent. In a run, an acknowledgement from
-- the other side of the wrap does the same to our SCCRQ.
theorem unacknowledged_tossed :
    (¬ ∀ (env : Env) (depth : Nat) (buf : Buffer) (t : TunnelPtr) (d d' : Daemon) (u : PUnit), buf.tunnel = some t →
      InWindow (d.tunnel t) buf → controlXmit env depth buf d = some (u, d') → TossesCovered d d' buf t) ∧
    ¬ ∀ (cfg : Config) (deflns : Option Lns) (lnslist : List Lns) (deflac : Option Lac) (laclist : List Lac)
      (visits : List (Daemon × Event)) (finish : Daemon),
      Run (next cfg) (initDaemon deflns lnslist deflac laclist) visits finish → Run.Meets (TossesDue cfg) visits := by
  constructor
  · intro claimed
    have covered : Before lappedBuffer.hdr.Ns (lappedDaemon.tunnel 0).cLr :=
      (claimed plainEnv 1 lappedBuffer 0 lappedDaemon lappedDaemon () rfl ⟨by decide, by decide⟩ rfl).mp rfl
    revert covered
    decide
  · intro claimed
    have seen : (Run.play (next plainConfig) (initDaemon none [] none []) [startPeer, zlbEvent 65535]).any
      (dueSeen 65535) =
        true := by decide +kernel
    obtain ⟨d, played, facts⟩ := (Option.any_eq_true _ _).mp seen
    obtain ⟨d', buf, rest, scene⟩ := dueScene_of_seen d 65535 facts
    have window := dueScene_window d d' buf rest 65535 scene (by decide)
    have run := (Run.of_play _ d played).snoc _ _ _ _ scene.moved
    have tosses := claimed plainConfig none [] none [] _ _ run (d, timerEvent)
      (by simp) buf 0 rest d' scene.due window scene.moved
    have ran := next_due plainConfig d d' timerEvent buf 0 rest scene.due scene.moved
    have same : d' = { d with events := rest } := by
      rw [controlXmit_tosses _ _ buf 0 { d with events := rest } d' () scene.due.owner ran, scene.number]
      show (0 : U16).toNat < (d.tunnel 0).cLr.toNat
      rw [scene.ack]
      decide
    have covered : Before buf.hdr.Ns (d.tunnel 0).cLr := tosses.mp same
    rw [scene.number, scene.ack] at covered
    revert covered
    decide

end ZyAgf.Xl2tpd
