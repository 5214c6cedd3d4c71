import ZyAgf.Xl2tpd.PerformedReceive

set_option autoImplicit false

namespace ZyAgf.Xl2tpd

-- A whole run of the daemon taken apart: the operations of its steps one after
-- another, each in the world of its step.
def performIn (cfg : Config) (d : Daemon) (turn : World × Op) : Option Daemon :=
  perform { toConfig := cfg, toWorld := turn.1 } d turn.2

def inWorld (world : World) (ops : List (Daemon × Op)) : List (Daemon × (World × Op)) :=
  ops.map fun visit => (visit.1, (world, visit.2))

inductive Breakdown (cfg : Config) (start : Daemon) :
    List (Daemon × Event) → List (Daemon × (World × Op)) → Daemon → Prop where
  | start : Breakdown cfg start [] [] start
  | step (visits : List (Daemon × Event)) (turns : List (Daemon × (World × Op))) (ops : List (Daemon × Op))
      (d d' : Daemon) (event : Event) (before : Breakdown cfg start visits turns d) (moved : next cfg d event = some d')
      (run : Run (perform { toConfig := cfg, toWorld := event.world }) d ops d')
      (concerns : Run.Meets (fun _ op => op.Concerns cfg d event) ops) :
      Breakdown cfg start (visits ++ [(d, event)]) (turns ++ inWorld event.world ops) d'

theorem inWorld_run (cfg : Config) (world : World) {d d' : Daemon} {ops : List (Daemon × Op)}
    (run : Run (perform { toConfig := cfg, toWorld := world }) d ops d') :
    Run (performIn cfg) d (inWorld world ops) d' := by
  induction run with
  | start => exact Run.start
  | snoc ops middle after op _ taken ih =>
      unfold inWorld
      rw [List.map_append]
      exact ih.snoc _ middle after (world, op) taken

theorem breakdown_run {cfg : Config} {start d : Daemon} {visits : List (Daemon × Event)}
    {turns : List (Daemon × (World × Op))} (broken : Breakdown cfg start visits turns d) :
    Run (performIn cfg) start turns d := by
  induction broken with
  | start => exact Run.start
  | step visits turns ops d d' event _ _ run _ ih => exact ih.append (inWorld_run cfg event.world run)

theorem performIn_listed (cfg : Config) (d d' : Daemon) (turn : World × Op) (listed : Listed d)
    (done : performIn cfg d turn = some d') : Listed d' :=
  perform_listed _ d d' turn.2 listed done

theorem run_breakdown {cfg : Config} {start d : Daemon} {visits : List (Daemon × Event)} (listed : Listed start)
    (run : Run (next cfg) start visits d) : ∃ turns, Breakdown cfg start visits turns d := by
  induction run with
  | start => exact ⟨[], .start⟩
  | snoc visits state after event _ moved ih =>
      obtain ⟨turns, broken⟩ := ih
      have kept : Listed state :=
        Run.invariant (fun _ _ => True) Listed listed
          (fun d turn d' held _ done => performIn_listed cfg d d' turn held done)
          (breakdown_run broken) (Run.meets_always turns)
      obtain ⟨ops, taken, concerns⟩ := next_performed cfg state after event moved kept
      exact ⟨_, .step visits turns ops state after event broken moved taken concerns⟩

theorem initDaemon_listed (deflns : Option Lns) (lnslist : List Lns) (deflac : Option Lac) (laclist : List Lac) :
    Listed (initDaemon deflns lnslist deflac laclist) :=
  ⟨List.nodup_nil, fun _ member => by cases member⟩

-- A ZLB for tunnel 0 makes a tunnel of its own; these are the operations of that
-- step.
def strayZlb (world : World) : Event := ⟨world, controlFrame 0 0 0 0 []⟩

def strayBuffer : RecvBuffer := ⟨fixHdr (ControlHdr.wire ⟨0xC802, 12, 0, 0, 0, 0⟩), 12⟩

def strayOps (d : Daemon) : List Op :=
  [.newTunnel ⟨1, udpListenPort⟩ 0,
    .tunnel d.fresh (withoutVector (madeTunnel (drawnId plainEnv d) (d.fresh + 1) ⟨1, udpListenPort⟩ 0)),
    .check strayBuffer d.fresh (d.fresh + 1), .mark (d.fresh + 1) (-1), .zlb d.fresh (d.fresh + 1)]

def emptyDaemon : Daemon := initDaemon none [] none []

-- The daemon after one of them, with what was written over left out.
def oneStray : Daemon :=
  { emptyDaemon with
    tunnel := write emptyDaemon.tunnel 0 (madeTunnel 513 1 ⟨1, udpListenPort⟩ 0)
    call := write emptyDaemon.call 1 { madeSelf 0 with msgtype := -1 }
    tunnels := [0]
    fresh := 2
    drawn := 2 }

def twoStrays : Daemon := (next plainConfig oneStray (strayZlb plainWorld)).getD emptyDaemon

theorem oneStray_performed :
    Run.play (perform plainEnv) emptyDaemon (strayOps emptyDaemon) = next plainConfig emptyDaemon
      (strayZlb plainWorld) := by
  rfl

theorem oneStray_moved : next plainConfig emptyDaemon (strayZlb plainWorld) = some oneStray := by
  have tunnel : ((next plainConfig emptyDaemon (strayZlb plainWorld)).getD emptyDaemon).tunnel = oneStray.tunnel := by
    funext t
    cases t with
    | zero => rfl
    | succ t => rfl
  have call : ((next plainConfig emptyDaemon (strayZlb plainWorld)).getD emptyDaemon).call = oneStray.call := by
    funext c
    match c with
    | 0 => rfl
    | 1 => rfl
    | c + 2 => rfl
  have same : next plainConfig emptyDaemon (strayZlb plainWorld) = some { oneStray with
      tunnel := ((next plainConfig emptyDaemon (strayZlb plainWorld)).getD emptyDaemon).tunnel
      call := ((next plainConfig emptyDaemon (strayZlb plainWorld)).getD emptyDaemon).call } := rfl
  rw [same, tunnel, call]

theorem twoStrays_moved : next plainConfig oneStray (strayZlb plainWorld) = some twoStrays := by
  have moves : (next plainConfig oneStray (strayZlb plainWorld)).isSome = true := by decide +kernel
  obtain ⟨d, moved⟩ := Option.isSome_iff_exists.mp moves
  unfold twoStrays
  rw [moved]
  rfl

theorem twoStrays_performed :
    Run.play (perform plainEnv) oneStray (strayOps oneStray) = next plainConfig oneStray (strayZlb plainWorld) := by
  rfl

def strayTurns : List (Daemon × (World × Op)) :=
  ([] ++ inWorld plainWorld (Run.trace (perform plainEnv) emptyDaemon (strayOps emptyDaemon))) ++
    inWorld plainWorld (Run.trace (perform plainEnv) oneStray (strayOps oneStray))

theorem strayOps_concerns (d : Daemon) :
    Run.Meets (fun _ op => op.Concerns plainConfig d (strayZlb plainWorld))
      (Run.trace (perform plainEnv) d (strayOps d)) := by
  intro visit member
  have listed := Run.trace_event d (strayOps d) visit member
  simp only [strayOps, List.mem_cons, List.not_mem_nil, or_false] at listed
  rcases listed with is | is | is | is | is <;> (rw [is]; trivial)

theorem strays_breakdown :
    Breakdown plainConfig emptyDaemon [(emptyDaemon, strayZlb plainWorld), (oneStray, strayZlb plainWorld)] strayTurns
      twoStrays :=
  .step _ _ _ _ _ _ (.step _ _ _ _ _ _ .start oneStray_moved (Run.of_play _ _ (oneStray_performed.trans oneStray_moved))
    (strayOps_concerns _)) twoStrays_moved (Run.of_play _ _ (twoStrays_performed.trans twoStrays_moved))
    (strayOps_concerns _)

end ZyAgf.Xl2tpd
