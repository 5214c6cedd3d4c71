import ZyAgf.Xl2tpd.Lists
import ZyAgf.Xl2tpd.TieSteps

set_option autoImplicit false

namespace ZyAgf.Xl2tpd

-- The own entry of a tunnel on the list is there and knows it.
structure SelfHeld (d : Daemon) : Prop where
  listed : Listed d
  filed : Filed d
  own : ∀ t ∈ d.tunnels, ∀ c, (d.tunnel t).self = some c → (d.call c).live = true ∧ (d.call c).container = t

def HoldsSelf (d d' : Daemon) : Prop := SelfHeld d → SelfHeld d'

instance : Prog.Steady HoldsSelf where
  refl _ := id
  trans _ _ _ first second := second ∘ first

theorem selfHeld_init (deflns : Option Lns) (lnslist : List Lns) (deflac : Option Lac) (laclist : List Lac) :
    SelfHeld (initDaemon deflns lnslist deflac laclist) :=
  ⟨initDaemon_listed _ _ _ _, filed_init _ _ _ _, fun _ member => by cases member⟩

theorem selfHeld_kept {d d' : Daemon} (selfHeld : SelfHeld d) (tunnels : d'.tunnels = d.tunnels)
    (grows : d.fresh ≤ d'.fresh)
    (calls : ∀ t, (d'.tunnel t).calls = (d.tunnel t).calls) (self : ∀ t, (d'.tunnel t).self = (d.tunnel t).self)
    (call : ∀ c, (d'.call c).live = (d.call c).live ∧ (d'.call c).container = (d.call c).container) : SelfHeld d' where
  listed := by
    refine ⟨tunnels ▸ selfHeld.listed.1, fun t member => ?_⟩
    exact Nat.lt_of_lt_of_le (selfHeld.listed.2 t (tunnels ▸ member)) grows
  filed := filed_kept d d' selfHeld.filed grows (fun t => by rw [calls t]) self fun c => (call c).2
  own t member c own := by
    rw [(call c).1, (call c).2]
    exact selfHeld.own t (tunnels ▸ member) c (self t ▸ own)

theorem tied_holdsSelf (d d' : Daemon) (tied : Tied d d') : HoldsSelf d d' := fun selfHeld =>
  selfHeld_kept selfHeld (congrArg Prod.fst tied.lists) (Nat.le_of_eq tied.fresh.symm)
    (fun t => congrArg (fun ties => ties.2.1) (tied.tunnel t))
    (fun t => congrArg (fun ties => ties.2.2.1) (tied.tunnel t))
    fun c => ⟨congrArg Prod.fst (tied.call c), congrArg (fun ties => ties.2.1) (tied.call c)⟩

theorem tunnel_holdsSelf (d : Daemon) (t : TunnelPtr) (new : Tunnel) (calls : new.calls = (d.tunnel t).calls)
    (self : new.self = (d.tunnel t).self) : HoldsSelf d { d with tunnel := write d.tunnel t new } := fun selfHeld =>
  selfHeld_kept selfHeld rfl (Nat.le_refl _) (write_same d.tunnel Tunnel.calls t new calls)
    (write_same d.tunnel Tunnel.self t new self)
    fun _ => ⟨rfl, rfl⟩

theorem setTunnel_holdsSelf (t : TunnelPtr) (change : Tunnel → Tunnel)
    (keeps : ∀ tun, (change tun).calls = tun.calls ∧ (change tun).self = tun.self) : Prog.Within HoldsSelf
    (setTunnel t change) := by
  intro d u d' ran
  obtain ⟨_, rfl⟩ := (setTunnel_some _ _ _ _ _).mp ran
  exact tunnel_holdsSelf d t _ (keeps _).1 (keeps _).2

theorem setCall_holdsSelf (c : CallPtr) (change : Call → Call)
    (keeps : ∀ cal, (change cal).live = cal.live ∧ (change cal).container = cal.container) : Prog.Within HoldsSelf
    (setCall c change) := by
  intro d u d' ran selfHeld
  obtain ⟨_, rfl⟩ := (setCall_some _ _ _ _ _).mp ran
  refine selfHeld_kept selfHeld rfl (Nat.le_refl _) (fun _ => rfl) (fun _ => rfl) fun other => ⟨?_, ?_⟩
  · exact write_same d.call Call.live c (change (d.call c)) (keeps _).1 other
  · exact write_same d.call Call.container c (change (d.call c)) (keeps _).2 other

theorem beside_holdsSelf (d d' : Daemon) (beside : Beside d d') : HoldsSelf d d' := by
  obtain ⟨rest, grows, rfl⟩ := beside
  exact fun selfHeld => selfHeld_kept selfHeld rfl grows (fun _ => rfl) (fun _ => rfl) fun _ => ⟨rfl, rfl⟩

section Making

variable (env : Env)

theorem addTunnel_holdsSelf (peer : SockAddr) (refhim : Nat) : Prog.Within HoldsSelf (addTunnel env peer refhim) := by
  intro d made d' ran selfHeld
  obtain ⟨listed, filed, own⟩ := selfHeld
  rcases addTunnel_some env peer refhim d d' made ran with ⟨_, _, rfl | rfl⟩ | ⟨_, _, _, rfl⟩
  · exact ⟨listed, filed, own⟩
  · refine ⟨⟨listed.1, fun t member => Nat.lt_succ_of_lt (listed.2 t member)⟩, filed_withLostTunnel env d filed,
      fun t member c self => ?_⟩
    rw [withLostTunnel_elsewhere env d t (Nat.ne_of_lt (listed.2 t member))] at self
    exact own t member c self
  · refine ⟨⟨?_, fun t member => ?_⟩, filed_withTunnel env d peer refhim filed, fun t member c self => ?_⟩
    · exact List.nodup_cons.mpr ⟨fun member => Nat.lt_irrefl _ (listed.2 d.fresh member), listed.1⟩
    · rcases List.mem_cons.mp member with rfl | old
      · exact Nat.lt_add_of_pos_right (Nat.succ_pos 1)
      · exact Nat.lt_add_right 2 (listed.2 t old)
    · rcases List.mem_cons.mp member with rfl | old
      · rw [withTunnel_here] at self
        obtain rfl : d.fresh + 1 = c := Option.some.inj self
        have made : (withTunnel env d peer refhim).call (d.fresh + 1) = madeSelf d.fresh := write_here _ _ _
        rw [made]
        exact ⟨rfl, rfl⟩
      · rw [withTunnel_elsewhere env d peer refhim t (Nat.ne_of_lt (listed.2 t old))] at self
        rw [withTunnel_call env d peer refhim c (Nat.ne_of_lt (Nat.lt_succ_of_lt (filed.self t c self).1))]
        exact own t old c self

theorem withLinkedCall_holdsSelf (d : Daemon) (t : TunnelPtr) : HoldsSelf d (withLinkedCall env d t) := by
  intro selfHeld
  obtain ⟨listed, filed, own⟩ := selfHeld
  refine ⟨⟨listed.1, fun t member => Nat.lt_succ_of_lt (listed.2 t member)⟩, filed_withLinkedCall env d t filed,
    fun u member c self => ?_⟩
  have same : ((withLinkedCall env d t).tunnel u).self = (d.tunnel u).self :=
    write_same d.tunnel Tunnel.self t { d.tunnel t with calls := d.fresh :: (d.tunnel t).calls } rfl u
  rw [same] at self
  rw [withLinkedCall_call env d t c (Nat.ne_of_lt (filed.self u c self).1)]
  exact own u member c self

theorem addIncomingCall_holdsSelf (t : TunnelPtr) : Prog.Within HoldsSelf (addIncomingCall env t) := by
  intro d result d' ran
  rcases addIncomingCall_some env t d d' result ran with ⟨_, rfl⟩ | ⟨_, _, rfl⟩
  · exact id
  · exact withLinkedCall_holdsSelf env d t

theorem openTunnel_holdsSelf (addr : Nat) (port : U16) (lac : Option LacPtr) : Prog.Within HoldsSelf
    (openTunnel env addr port lac) := by
  have binds (t : TunnelPtr) : Prog.Within HoldsSelf (bindLac t lac) := by
    cases lac with
    | none => exact Prog.within_pure _ _
    | some l => exact Prog.within_weaken _ _ _ beside_holdsSelf (setLac_beside l _)
  unfold openTunnel
  refine Prog.within_bind (addTunnel_holdsSelf env _ 0) fun made => ?_
  split
  next => exact Prog.within_pure _ _
  next self =>
    refine Prog.within_bind (readCall_within _ self) fun cal => ?_
    refine Prog.within_bind (setTunnel_holdsSelf _ _ fun _ => ⟨rfl, rfl⟩) fun _ => ?_
    refine Prog.within_bind (setCall_holdsSelf self _ fun _ => ⟨rfl, rfl⟩) fun _ => ?_
    exact Prog.within_bind (binds _) fun _ => Prog.within_pure _ _

theorem placeCall_holdsSelf (t : TunnelPtr) (lac : Option LacPtr) (dialNo : CString) : Prog.Within HoldsSelf
    (placeCall env t lac dialNo) := by
  have binds (c : CallPtr) : Prog.Within HoldsSelf (bindCall c lac) := by
    cases lac with
    | none => exact Prog.within_pure _ _
    | some l => exact Prog.within_weaken _ _ _ beside_holdsSelf (setLac_beside l _)
  intro d result d' ran
  unfold placeCall at ran
  obtain ⟨made, d₁, new, ran₁⟩ := (Prog.bind_some _ _ _ _ _).mp ran
  rcases newCall_some env t d d₁ made new with ⟨_, rfl, rfl⟩ | ⟨_, rfl, _, rfl⟩
  · obtain ⟨_, rfl⟩ := (Prog.pure_some _ _ _ _).mp ran₁
    exact id
  · obtain ⟨_, d₂, linked, ran₂⟩ := (Prog.bind_some _ _ _ _ _).mp ran₁
    obtain ⟨_, rfl⟩ := (setTunnel_some _ _ _ _ _).mp linked
    refine Prog.Steady.trans _ _ _ (withLinkedCall_holdsSelf env d t) ?_
    have free := setCall_holdsSelf d.fresh (fun cal => { cal with cid := 0, lac := lac, lns := none }) fun _ =>
      ⟨rfl, rfl⟩
    refine Prog.within_bind free (fun _ => ?_) _ result d' ran₂
    refine Prog.within_bind (binds d.fresh) fun _ => ?_
    exact Prog.within_bind (setCall_holdsSelf d.fresh _ fun _ => ⟨rfl, rfl⟩) fun _ => Prog.within_pure _ _

theorem destroyCall_holdsSelf (c : CallPtr) (d d' : Daemon) (u : PUnit)
    (other : (d.tunnel (d.call c).container).self ≠ some c)
    (ran : destroyCall env c d = some (u, d')) : HoldsSelf d d' := by
  intro selfHeld
  obtain ⟨listed, filed, own⟩ := selfHeld
  have gone := destroyCall_gone env c d d' u filed ran
  refine ⟨⟨gone.tunnels ▸ listed.1, fun t member => ?_⟩, (destroyCall_filed env c d d' u ran filed).1,
    fun t member e self => ?_⟩
  · exact Nat.lt_of_lt_of_le (listed.2 t (gone.tunnels ▸ member)) gone.grows
  · rw [gone.tunnels] at member
    rw [gone.tunnel t] at self
    have inside := own t member e self
    have apart : e ∉ [c] := by
      intro same
      obtain rfl := List.mem_singleton.mp same
      exact other (inside.2 ▸ self)
    rw [gone.call e apart]
    exact inside

theorem destroyTunnel_holdsSelf (t : TunnelPtr) (c : CallPtr) (d d' : Daemon) (u : PUnit)
    (own : (d.tunnel t).self = some c)
    (inside : (d.call c).container = t) (ran : destroyTunnel env t d = some (u, d')) : HoldsSelf d d' := by
  intro selfHeld
  have performed : Performed env (fun _ => True) d d' := destroyTunnel_does (fun _ _ => trivial) t d u d' ran
  obtain ⟨ops, run, _⟩ := performed selfHeld.listed
  have listed : Listed d' := Run.invariant (fun _ _ => True) Listed selfHeld.listed
    (fun d op d' held _ done => perform_listed env d d' op held done) run (Run.meets_always ops)
  have filed := filed_of_performed env (fun _ => True) d d' selfHeld.listed selfHeld.filed performed
  refine ⟨listed, filed, fun s member e self => ?_⟩
  obtain ⟨me, d₁, d₂, d₃, mine, destroyed, ⟨unlinked, tunnels, calls, grows⟩, last, rfl⟩ :=
    destroyTunnel_steps env t d d' u ran
  obtain rfl : c = me := Option.some.inj (own.symm.trans mine)
  obtain ⟨first, filed₁⟩ := destroyCalls_gone env _ d d₁ _ selfHeld.filed destroyed
  have filed₂ : Filed d₂ := filed_kept d₁ d₂ filed₁ grows (fun _ => by rw [tunnels]) (fun _ => by rw [tunnels])
    fun _ => by rw [calls]
  have second := destroyCall_gone env c d₂ d₃ _ filed₂ last
  have stays : s ≠ t ∧ s ∈ d.tunnels := by
    have left : s ∈ d.tunnels.erase t := by
      rw [second.tunnels, unlinked, first.tunnels] at member
      exact member
    exact (List.Nodup.mem_erase_iff selfHeld.listed.1).mp left
  have same : (d.tunnel s).self = some e := by
    have kept : (d₃.tunnel s).self = some e := (congrArg Tunnel.self (write_elsewhere _ _ _ _ stays.1)).symm.trans self
    rw [second.tunnel s, tunnels, first.tunnel s] at kept
    exact kept
  have theirs := selfHeld.own s stays.2 e same
  have notMine : e ∉ [c] := by
    intro alike
    obtain rfl := List.mem_singleton.mp alike
    exact stays.1 (theirs.2.symm.trans inside)
  have notCall : e ∉ (d.tunnel t).calls := fun called =>
    stays.1 (theirs.2.symm.trans (selfHeld.filed.container t e called).1)
  show (d₃.call e).live = true ∧ (d₃.call e).container = s
  rw [second.call e notMine, calls, first.call e notCall]
  exact theirs

theorem works_holdsSelf : TieSteps env HoldsSelf where
  tied := tied_holdsSelf
  chooses t d _ _ _ := tunnel_holdsSelf d t _ rfl rfl
  makes := addTunnel_holdsSelf env
  rings := addIncomingCall_holdsSelf env
  opens := openTunnel_holdsSelf env
  places := placeCall_holdsSelf env
  redials l := Prog.within_weaken _ _ _ beside_holdsSelf (redialLater_beside env l)
  destroyCall c d u d' := destroyCall_holdsSelf env c d d' u
  destroyTunnel t c d u d' := destroyTunnel_holdsSelf env t c d d' u

theorem manages_holdsSelf : Manages env HoldsSelf where
  works := works_holdsSelf env
  switches l change _ := Prog.within_weaken _ _ _ beside_holdsSelf (setLac_beside l change)
  addsLac _ _ _ selfHeld := selfHeld_kept selfHeld rfl (Nat.le_succ _) (fun _ => rfl) (fun _ => rfl) fun _ => ⟨rfl, rfl⟩
  addsLns _ _ selfHeld := selfHeld_kept selfHeld rfl (Nat.le_succ _) (fun _ => rfl) (fun _ => rfl) fun _ => ⟨rfl, rfl⟩

end Making

theorem strikes_holdsSelf : Strikes HoldsSelf where
  forgets t := setTunnel_holdsSelf t _ fun _ => ⟨rfl, rfl⟩
  forgetsCall c := setCall_holdsSelf c _ fun _ => ⟨rfl, rfl⟩
  dropsLac l := Prog.within_weaken _ _ _ beside_holdsSelf (setLac_beside l _)
  dropsLns l := by
    intro d u d' ran selfHeld
    obtain ⟨_, rfl⟩ := (setLns_some _ _ _ _ _).mp ran
    exact selfHeld_kept selfHeld rfl (Nat.le_refl _) (fun _ => rfl) (fun _ => rfl) fun _ => ⟨rfl, rfl⟩
  unlistsLac _ _ selfHeld := selfHeld_kept selfHeld rfl (Nat.le_refl _) (fun _ => rfl) (fun _ => rfl) fun _ =>
    ⟨rfl, rfl⟩
  unlistsLns _ _ selfHeld := selfHeld_kept selfHeld rfl (Nat.le_refl _) (fun _ => rfl) (fun _ => rfl) fun _ =>
    ⟨rfl, rfl⟩

theorem next_selfHeld (cfg : Config) (d d' : Daemon) (event : Event) (selfHeld : SelfHeld d)
    (moved : next cfg d event = some d') :
    SelfHeld d' := by
  have manages := manages_holdsSelf { toConfig := cfg, toWorld := event.world }
  refine next_manages manages (leftOpen_of_dials manages (fun l => ?_) (fun d _ rest _ selfHeld => ?_)
    (fun name u _ => ?_) fun name u _ => ?_)
    moved selfHeld
  · exact magicLacDial_dials manages.works.dials l (Prog.within_weaken _ _ _ beside_holdsSelf (setLac_beside l _))
  · exact selfHeld_kept selfHeld rfl (Nat.le_refl _) (fun _ => rfl) (fun _ => rfl) fun _ => ⟨rfl, rfl⟩
  · exact controlHandleLacRemove_strikes manages strikes_holdsSelf name d u d'
  · exact controlHandleLnsRemove_strikes manages strikes_holdsSelf name d u d'

theorem run_selfHeld (cfg : Config) (deflns : Option Lns) (lnslist : List Lns) (deflac : Option Lac)
    (laclist : List Lac)
    {visits : List (Daemon × Event)} {d : Daemon}
    (run : Run (next cfg) (initDaemon deflns lnslist deflac laclist) visits d) :
    SelfHeld d :=
  Run.invariant (fun _ _ => True) SelfHeld (selfHeld_init deflns lnslist deflac laclist)
    (fun d event d' selfHeld _ moved => next_selfHeld cfg d d' event selfHeld moved) run (Run.meets_always visits)

theorem getCall_live (env : Env) (tunnel call : Nat) (peer : SockAddr) (refhim : Nat) (d found : Daemon) (c : CallPtr)
    (settled : Settled d) (selfHeld : SelfHeld d)
    (looked : getCall env tunnel call peer refhim d = some (some c, found)) :
    (found.call c).live = true := by
  rcases getCall_some env tunnel call peer refhim d found c looked with ⟨rfl, rfl⟩ | ⟨rfl, t, listed, own | member⟩
  · exact congrArg Call.live (write_here _ _ _)
  · exact (selfHeld.own t listed c own).1
  · exact (settled.1.calls t listed c member).1

theorem findTunnel_member (tid : Nat) (tunnels : List TunnelPtr) (d d' : Daemon) (t : TunnelPtr)
    (ran : findTunnel tid tunnels d = some (some t, d')) : t ∈ tunnels := by
  induction tunnels with
  | nil => cases ((Prog.pure_some _ _ _ _).mp ran).1
  | cons first rest ih =>
      rw [findTunnel] at ran
      obtain ⟨tun, d₁, read, ran⟩ := (Prog.bind_some _ _ _ _ _).mp ran
      obtain ⟨_, rfl, rfl⟩ := (readTunnel_some _ _ _ _).mp read
      split at ran
      next =>
        obtain rfl := Option.some.inj ((Prog.pure_some _ _ _ _).mp ran).1
        exact List.mem_cons_self
      next => exact List.mem_cons_of_mem _ (ih ran)

theorem getTunnel_own (tunnel : Nat) (d d' : Daemon) (c : CallPtr) (ran : getTunnel tunnel d = some (some c, d')) :
    ∃ t ∈ d.tunnels, (d.tunnel t).self = some c := by
  unfold getTunnel at ran
  obtain ⟨_, _, got, ran₁⟩ := (Prog.bind_some _ _ _ _ _).mp ran
  obtain ⟨rfl, rfl⟩ := (Prog.get_some _ _ _).mp got
  split at ran₁
  next => cases ((Prog.pure_some _ _ _ _).mp ran₁).1
  next =>
    obtain ⟨found, d₂, looked, ran₂⟩ := (Prog.bind_some _ _ _ _ _).mp ran₁
    obtain rfl := findTunnel_same _ _ _ _ _ looked
    cases found with
    | none => cases ((Prog.pure_some _ _ _ _).mp ran₂).1
    | some t =>
        obtain ⟨tun, d₃, read, ran₃⟩ := (Prog.bind_some _ _ _ _ _).mp ran₂
        obtain ⟨_, rfl, rfl⟩ := (readTunnel_some _ _ _ _).mp read
        exact ⟨t, findTunnel_member _ _ _ _ t looked, ((Prog.pure_some _ _ _ _).mp ran₃).1⟩

end ZyAgf.Xl2tpd
