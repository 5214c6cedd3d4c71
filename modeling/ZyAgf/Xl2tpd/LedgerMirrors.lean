import ZyAgf.Xl2tpd.PurgeRuns

set_option autoImplicit false

namespace ZyAgf.Xl2tpd.Purge

-- The daemon's queue holds the events of the ledger, each buffer with its contents.
structure Mirrors (contents : Nat → Buffer) (s : Ledger) (d : Daemon) : Prop where
  events : d.events = scheduled contents s.events
  plain : ∀ e ∈ s.events, (e.func.func? contents).isSome = true
  buffers : ∀ b t, (s.block b).owner? = some t → (contents b).tunnel = some t

theorem scheduled_cons (contents : Nat → Buffer) (e : Queued Task) (rest : List (Queued Task)) (func : Func)
    (is : e.func.func? contents = some func) :
    scheduled contents (e :: rest) = ⟨e.tv, func⟩ :: scheduled contents rest := by
  unfold scheduled
  rw [List.filterMap_cons, is]
  rfl

theorem scheduled_place (contents : Nat → Buffer) (e : Queued Task) (func : Func)
    (is : e.func.func? contents = some func) (queue : List (Queued Task))
    (plain : ∀ p ∈ queue, (p.func.func? contents).isSome = true) :
    scheduled contents (Scheduler.place e queue) = insertEntry ⟨e.tv, func⟩ (scheduled contents queue) := by
  induction queue with
  | nil => exact scheduled_cons contents e [] func is
  | cons p rest ih =>
      obtain ⟨other, known⟩ := Option.isSome_iff_exists.mp (plain p List.mem_cons_self)
      have later := ih fun q member => plain q (List.mem_cons_of_mem p member)
      rw [Scheduler.place, scheduled_cons contents p rest other known]
      by_cases early : e.tv.less p.tv = true
      · rw [if_pos early, scheduled_cons contents e _ func is, scheduled_cons contents p rest other known]
        simp [insertEntry, early]
      · rw [if_neg early, scheduled_cons contents p _ other known, later]
        simp [insertEntry, early]

section Steps

variable {contents : Nat → Buffer} {s s' : Ledger} {d d' : Daemon} {u v : PUnit} (mirrors : Mirrors contents s d)

include mirrors

theorem schedule_mirrors {env : Env} {tv : Timeval} {task : Task} {func : Func} (is : task.func? contents = some func)
    (ran : schedule env.now tv task s = some (u, s')) (does : Xl2tpd.schedule env tv func d = some (v, d')) :
    Mirrors contents s' d' := by
  obtain rfl := (Prog.modify_some _ _ _ _).mp ran
  obtain rfl := (Prog.modify_some _ _ _ _).mp does
  refine ⟨?_, fun e member => ?_, mirrors.buffers⟩
  · rw [scheduled_place contents _ func is s.events mirrors.plain, mirrors.events]
  · rcases List.mem_cons.mp ((Scheduler.place_perm _ _).mem_iff.mp member) with rfl | before
    · rw [is]
      rfl
    · exact mirrors.plain e before

-- The walk over the queue, with all it tosses, is what the daemon's model does in one step.
theorem purgeTunnel_mirrors {held : List Nat} {t : Nat} (account : Accounted held s) (live : s.IsTunnel t)
    (clear : NoStray s.block t s.events) (ran : purgeTunnel t s = some (u, s'))
    (does : descheduleTunnel t d = some (v, d')) : Mirrors contents s' d' := by
  obtain ⟨_, _, got, later⟩ := (Prog.bind_some _ _ _ _ _).mp ran
  obtain ⟨rfl, rfl⟩ := (Prog.get_some _ _ _).mp got
  obtain ⟨_, s₁, walked, tossed⟩ := (Prog.bind_some _ _ _ _ _).mp later
  obtain rfl := (Prog.modify_some _ _ _ _).mp walked
  obtain ⟨_, queue, owners⟩ := tosses_accounted _ (purged_accounted account live clear) tossed
  obtain rfl := (Prog.modify_some _ _ _ _).mp does
  have suits := suits_accounted account
  have same (b : Nat) (buf : BufferBlock) (found : (s.block b).buffer? = some buf) :
      (contents b).tunnel = some buf.tunnel := by
    refine mirrors.buffers b buf.tunnel ?_
    unfold Block.owner?
    rw [found]
    rfl
  refine ⟨?_, fun e member => ?_, fun b owner owns => mirrors.buffers b owner (owners b owner owns)⟩
  · rw [queue, purge_deschedules s.block s.events contents t live suits clear same, mirrors.events]
  · rw [queue, purge_kept_exact live suits clear] at member
    exact mirrors.plain e (List.mem_filter.mp member).1

-- What process_schedule looks at first is the same event.
theorem first_mirrors {p : Queued Task} {rest : List (Queued Task)} (first : s.events = p :: rest) :
    ∃ func, p.func.func? contents = some func ∧ d.events = ⟨p.tv, func⟩ :: scheduled contents rest := by
  obtain ⟨func, is⟩ := Option.isSome_iff_exists.mp (mirrors.plain p (by rw [first]; exact List.mem_cons_self))
  exact ⟨func, is, by rw [mirrors.events, first, scheduled_cons contents p rest func is]⟩

end Steps

end ZyAgf.Xl2tpd.Purge
