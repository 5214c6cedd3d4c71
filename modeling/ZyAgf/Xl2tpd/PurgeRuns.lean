import ZyAgf.Xl2tpd.EventLedger

set_option autoImplicit false

namespace ZyAgf.Xl2tpd.Purge

def Ledger.IsTunnel (s : Ledger) (p : Nat) : Prop := (s.block p).tunnel?.isSome = true

def Block.owner? (block : Block) : Option Nat := block.buffer?.map fun buf => buf.tunnel

def Ledger.Sound (s : Ledger) : Prop := ∀ p, s.fresh ≤ p → ∃ residue, s.block p = .free residue

-- What touches neither a buffer nor a tunnel's life: every record is still of
-- its kind, and nothing joins the queue but diallings.
structure Beside (s s' : Ledger) : Prop where
  made : s'.made = s.made
  freed : s'.freed = s.freed
  grows : s.fresh ≤ s'.fresh
  sound : s'.Sound
  tunnel : ∀ p, p < s.fresh → (s'.IsTunnel p ↔ s.IsTunnel p)
  owner : ∀ p, p < s.fresh → (s'.block p).owner? = (s.block p).owner?
  events : ∀ e ∈ s'.events, e ∈ s.events ∨ ∃ l, e.func = .magicLacDial l ∧ l < s'.fresh ∧ ¬ s'.IsTunnel l
  queued : ∀ b, s'.queued b = s.queued b

def Aside (s s' : Ledger) : Prop := s.Sound → Beside s s'

instance : Prog.Steady Aside where
  refl s sound := ⟨rfl, rfl, Nat.le_refl _, sound, fun _ _ => Iff.rfl, fun _ _ => rfl, fun _ => .inl, fun _ => rfl⟩
  trans s s' s'' first second sound := by
    have one := first sound
    have two := second one.sound
    have still {p : Nat} (old : p < s.fresh) : p < s'.fresh := Nat.lt_of_lt_of_le old one.grows
    refine ⟨two.made.trans one.made, two.freed.trans one.freed, Nat.le_trans one.grows two.grows, two.sound,
      fun p old => (two.tunnel p (still old)).trans (one.tunnel p old),
      fun p old => (two.owner p (still old)).trans (one.owner p old), fun e member => ?_,
      fun b => (two.queued b).trans (one.queued b)⟩
    rcases two.events e member with early | new
    · rcases one.events e early with before | ⟨l, dials, old, no⟩
      · exact .inl before
      · exact .inr ⟨l, dials, Nat.lt_of_lt_of_le old two.grows, (two.tunnel l old).not.mpr no⟩
    · exact .inr new

theorem load_some {α : Type} (kind : Block → Option α) (p : Nat) (s s' : Ledger) (a : α) :
    load kind p s = some (a, s') ↔ kind (s.block p) = some a ∧ s' = s := by
  unfold load
  simp only [Prog.bind_some, Prog.get_some]
  constructor
  · rintro ⟨_, _, ⟨rfl, rfl⟩, found⟩
    cases is : kind (s.block p) with
    | none =>
        rw [is] at found
        exact ((Prog.wrong_some _ _ _).mp found).elim
    | some value =>
        rw [is] at found
        obtain ⟨rfl, rfl⟩ := (Prog.pure_some _ _ _ _).mp found
        exact ⟨rfl, rfl⟩
  · rintro ⟨is, rfl⟩
    exact ⟨_, _, ⟨rfl, rfl⟩, by rw [is]; rfl⟩

theorem load_within {α : Type} {rel : Ledger → Ledger → Prop} [Prog.Steady rel] (kind : Block → Option α) (p : Nat) :
    Prog.Within rel (load kind p) := by
  intro s a s' ran
  obtain ⟨_, rfl⟩ := (load_some kind p s s' a).mp ran
  exact Prog.Steady.refl s'

theorem store_some (p : Nat) (block : Block) (s s' : Ledger) (u : PUnit) :
    store p block s = some (u, s') ↔ s' = { s with block := write s.block p block } := by
  unfold store
  rw [Prog.modify_some]
  exact eq_comm

theorem beside_write (s : Ledger) (p : Nat) (new : Block) (sound : s.Sound)
    (tunnel : new.tunnel?.isSome = (s.block p).tunnel?.isSome) (owner : new.owner? = (s.block p).owner?)
    (free : s.fresh ≤ p → ∃ residue, new = .free residue) : Beside s { s with block := write s.block p new } := by
  have look (q : Nat) : ((write s.block p new) q).tunnel?.isSome = (s.block q).tunnel?.isSome ∧
      ((write s.block p new) q).owner? = (s.block q).owner? := by
    by_cases same : q = p
    · rw [same, write_here]
      exact ⟨tunnel, owner⟩
    · rw [write_elsewhere _ _ _ _ same]
      exact ⟨rfl, rfl⟩
  refine ⟨rfl, rfl, Nat.le_refl _, fun q beyond => ?_, fun q _ => ?_, fun q _ => (look q).2, fun _ => .inl, fun _ =>
    rfl⟩
  swap
  · unfold Ledger.IsTunnel
    rw [(look q).1]
  by_cases same : q = p
  · subst same
    obtain ⟨residue, is⟩ := free beyond
    exact ⟨residue, (write_here _ _ _).trans is⟩
  · obtain ⟨residue, is⟩ := sound q beyond
    exact ⟨residue, (write_elsewhere _ _ _ _ same).trans is⟩

theorem old_of_some {α : Type} {kind : Block → Option α} {a : α} {s : Ledger} {p : Nat} (sound : s.Sound)
    (found : kind (s.block p) = some a) (freed : ∀ residue, kind (.free residue) = none) : p < s.fresh := by
  refine Nat.lt_of_not_le fun beyond => ?_
  obtain ⟨residue, is⟩ := sound p beyond
  rw [is, freed] at found
  cases found

theorem setTunnel_aside (t : Nat) (change : TunnelBlock → TunnelBlock) : Prog.Within Aside (setTunnel t change) := by
  intro s u s' ran sound
  obtain ⟨tun, s₁, loaded, stored⟩ := (Prog.bind_some _ _ _ _ _).mp ran
  obtain ⟨found, rfl⟩ := (load_some _ _ _ _ _).mp loaded
  obtain rfl := (store_some _ _ _ _ _).mp stored
  exact beside_write s₁ t _ sound (by rw [found]; rfl) (by rw [tunnel_of_some found]; rfl)
    fun beyond => absurd (old_of_some sound found fun _ => rfl) (Nat.not_lt_of_le beyond)

theorem setCall_aside (c : Nat) (change : CallBlock → CallBlock) : Prog.Within Aside (setCall c change) := by
  intro s u s' ran sound
  obtain ⟨cal, s₁, loaded, stored⟩ := (Prog.bind_some _ _ _ _ _).mp ran
  obtain ⟨found, rfl⟩ := (load_some _ _ _ _ _).mp loaded
  obtain rfl := (store_some _ _ _ _ _).mp stored
  exact beside_write s₁ c _ sound (by rw [call_of_some found]; rfl) (by rw [call_of_some found]; rfl)
    fun beyond => absurd (old_of_some sound found fun _ => rfl) (Nat.not_lt_of_le beyond)

theorem setLac_aside (l : Nat) (change : LacBlock → LacBlock) : Prog.Within Aside (setLac l change) := by
  intro s u s' ran sound
  obtain ⟨entry, s₁, loaded, stored⟩ := (Prog.bind_some _ _ _ _ _).mp ran
  obtain ⟨found, rfl⟩ := (load_some _ _ _ _ _).mp loaded
  obtain rfl := (store_some _ _ _ _ _).mp stored
  exact beside_write s₁ l _ sound (by rw [lac_of_some found]; rfl) (by rw [lac_of_some found]; rfl)
    fun beyond => absurd (old_of_some sound found fun _ => rfl) (Nat.not_lt_of_le beyond)

theorem queued_schedule (s : Ledger) (now tv : Timeval) (func : Task) (b : Nat) (s' : Ledger) (u : PUnit)
    (ran : schedule now tv func s = some (u, s')) :
    s'.queued b = s.queued b + if func = .controlXmit b then 1 else 0 := by
  obtain rfl := (Prog.modify_some _ _ _ _).mp ran
  unfold Ledger.queued
  rw [(Scheduler.place_perm _ _).countP_eq, List.countP_cons]
  simp

theorem mem_schedule (s : Ledger) (now tv : Timeval) (func : Task) (s' : Ledger) (u : PUnit)
    (ran : schedule now tv func s = some (u, s')) (e : Queued Task) (member : e ∈ s'.events) :
    e.func = func ∨ e ∈ s.events := by
  obtain rfl := (Prog.modify_some _ _ _ _).mp ran
  rcases List.mem_cons.mp ((Scheduler.place_perm _ _).mem_iff.mp member) with rfl | early
  · exact .inl rfl
  · exact .inr early

theorem schedule_dial (s s' : Ledger) (now tv : Timeval) (l : Nat) (entry : LacBlock) (u : PUnit) (sound : s.Sound)
    (found : (s.block l).lac? = some entry) (ran : schedule now tv (.magicLacDial l) s = some (u, s')) : Beside s
    s' := by
  have old : l < s.fresh := old_of_some sound found fun _ => rfl
  have counted := queued_schedule s now tv (.magicLacDial l)
  have joins := mem_schedule s now tv (.magicLacDial l) s' u ran
  have noTunnel : ¬ s.IsTunnel l := by
    unfold Ledger.IsTunnel
    rw [lac_of_some found]
    exact Bool.false_ne_true
  obtain rfl := (Prog.modify_some _ _ _ _).mp ran
  refine ⟨rfl, rfl, Nat.le_succ _, fun p beyond => sound p (Nat.le_of_succ_le beyond), fun _ _ => Iff.rfl, fun _ _ =>
    rfl,
    fun e member => ?_, fun b => (counted b _ u rfl).trans (by simp)⟩
  rcases joins e member with new | early
  · exact .inr ⟨l, new, Nat.lt_succ_of_lt old, noTunnel⟩
  · exact .inl early

theorem beside_release (s : Ledger) (p : Nat) (sound : s.Sound) (noTunnel : (s.block p).tunnel? = none)
    (noBuffer : (s.block p).buffer? = none) : Beside s (s.release p) :=
  beside_write s p _ sound (by rw [noTunnel]; rfl) (by rw [Block.owner?, Block.owner?, noBuffer]; rfl) fun _ => ⟨_, rfl⟩

theorem redialLater_aside (now : Timeval) (l : Nat) : Prog.Within Aside (redialLater now l) := by
  intro s u s' ran sound
  obtain ⟨entry, s₁, loaded, later⟩ := (Prog.bind_some _ _ _ _ _).mp ran
  obtain ⟨found, rfl⟩ := (load_some _ _ _ _ _).mp loaded
  by_cases due : entry.redial ∧ 0 < entry.rtimeout ∧ ¬ entry.rsched ∧ entry.active
  · unfold Prog.onlyWhen at later
    rw [if_pos due] at later
    obtain ⟨_, s₂, scheduled, noted⟩ := (Prog.bind_some _ _ _ _ _).mp later
    have joined := schedule_dial s₁ s₂ now _ l entry _ sound found scheduled
    exact (Prog.Steady.trans s₁ s₂ s' (fun _ => joined) (setLac_aside l _ s₂ u s' noted) : Aside s₁ s') sound
  · unfold Prog.onlyWhen at later
    rw [if_neg due] at later
    obtain ⟨_, rfl⟩ := (Prog.pure_some _ _ _ _).mp later
    exact (Prog.Steady.refl s₁ : Aside s₁ s₁) sound

theorem leaveLac_aside (now : Timeval) (lac : Option Nat) : Prog.Within Aside (leaveLac now lac) := by
  cases lac with
  | none => exact Prog.within_pure _ _
  | some l => exact redialLater_aside now l

theorem isTunnel_iff (s : Ledger) (p : Nat) : ¬ s.IsTunnel p ↔ (s.block p).tunnel? = none := by
  unfold Ledger.IsTunnel
  rw [Option.not_isSome_iff_eq_none]

theorem owner_none (block : Block) : block.owner? = none ↔ block.buffer? = none :=
  Option.map_eq_none_iff

theorem destroyCall_aside (now : Timeval) (c : Nat) : Prog.Within Aside (destroyCall now c) := by
  intro s u s' ran sound
  obtain ⟨cal, s₁, loaded, later⟩ := (Prog.bind_some _ _ _ _ _).mp ran
  obtain ⟨found, rfl⟩ := (load_some _ _ _ _ _).mp loaded
  obtain ⟨_, s₂, unlinked, later⟩ := (Prog.bind_some _ _ _ _ _).mp later
  obtain ⟨_, s₃, left, released⟩ := (Prog.bind_some _ _ _ _ _).mp later
  have reached : Aside s₁ s₃ := Prog.Steady.trans _ _ _ (setTunnel_aside _ _ _ _ _ unlinked)
    (leaveLac_aside now cal.lac _ _ _ left)
  obtain rfl := (Prog.modify_some _ _ _ _).mp released
  -- Nobody else has freed the call by then, so it is a call's record that goes.
  have old : c < s₁.fresh := old_of_some sound found fun _ => rfl
  have beside := reached sound
  have noTunnel : (s₃.block c).tunnel? = none := by
    rw [← isTunnel_iff, beside.tunnel c old, isTunnel_iff, call_of_some found]
    rfl
  have noBuffer : (s₃.block c).buffer? = none := by
    rw [← owner_none, beside.owner c old, owner_none, call_of_some found]
    rfl
  exact (Prog.Steady.trans s₁ s₃ _ reached (fun sound => beside_release s₃ c sound noTunnel noBuffer) : Aside s₁ _)
    sound

-- The ledger is balanced: but for the buffers somebody holds, every control
-- message is in the queue or freed, once.
structure Accounted (held : List Nat) (s : Ledger) : Prop where
  sound : s.Sound
  hello : ∀ e ∈ s.events, ∀ t, e.func = .hello t → s.IsTunnel t
  xmit : ∀ e ∈ s.events, ∀ b, e.func = .controlXmit b → b ∈ s.made ∧ ∃ t, (s.block b).owner? = some t ∧ s.IsTunnel t
  other : ∀ e ∈ s.events, ∀ p, e.func = .magicLacDial p ∨ e.func = .sendZlb p → p < s.fresh ∧ ¬ s.IsTunnel p
  made : ∀ b ∈ s.made, b < s.fresh ∧ ¬ s.IsTunnel b
  holds : ∀ b ∈ held, b ∈ s.made
  tossed : ∀ b ∈ s.freed, b ∈ s.made
  once : ∀ b ∈ s.made, s.queued b + s.freed.count b + held.count b = 1

theorem old_of_tunnel {s : Ledger} {t : Nat} (sound : s.Sound) (is : s.IsTunnel t) : t < s.fresh := by
  obtain ⟨tun, found⟩ := Option.isSome_iff_exists.mp is
  exact old_of_some sound found fun _ => rfl

theorem accounted_beside {held : List Nat} {s s' : Ledger} (account : Accounted held s)
    (beside : Beside s s') : Accounted held s' := by
  have still {p : Nat} (is : s.IsTunnel p) : s'.IsTunnel p := (beside.tunnel p (old_of_tunnel account.sound is)).mpr is
  refine ⟨beside.sound, fun e member t is => ?_, fun e member b is => ?_, fun e member p is => ?_, fun b made => ?_,
    fun b holds => beside.made ▸ account.holds b holds, fun b freed => ?_, fun b made => ?_⟩
  · rcases beside.events e member with early | ⟨l, dials, -, -⟩
    · exact still (account.hello e early t is)
    · rw [dials] at is
      cases is
  · rcases beside.events e member with early | ⟨l, dials, -, -⟩
    · obtain ⟨made, t, owns, live⟩ := account.xmit e early b is
      exact ⟨beside.made ▸ made, t, (beside.owner b (account.made b made).1).trans owns, still live⟩
    · rw [dials] at is
      cases is
  · rcases beside.events e member with early | ⟨l, dials, old, noTunnel⟩
    · obtain ⟨old, noTunnel⟩ := account.other e early p is
      exact ⟨Nat.lt_of_lt_of_le old beside.grows, (beside.tunnel p old).not.mpr noTunnel⟩
    · rw [dials] at is
      rcases is with same | same
      · obtain rfl := Task.magicLacDial.inj same
        exact ⟨old, noTunnel⟩
      · cases same
  · obtain ⟨old, noTunnel⟩ := account.made b (beside.made ▸ made)
    exact ⟨Nat.lt_of_lt_of_le old beside.grows, (beside.tunnel b old).not.mpr noTunnel⟩
  · rw [beside.made]
    exact account.tossed b (beside.freed ▸ freed)
  · rw [beside.queued, beside.freed]
    exact account.once b (beside.made ▸ made)

theorem queued_zero (s : Ledger) (b : Nat) : s.queued b = 0 ↔ ∀ e ∈ s.events, e.func ≠ .controlXmit b := by
  unfold Ledger.queued
  rw [List.countP_eq_zero]
  simp

theorem release_elsewhere (s : Ledger) {p q : Nat} (other : q ≠ p) : (s.release p).block q = s.block q :=
  write_elsewhere _ _ _ _ other

theorem release_accounted {held : List Nat} {s : Ledger} {p : Nat} (account : Accounted held s) (old : p < s.fresh)
    (noHello : ∀ e ∈ s.events, e.func ≠ .hello p) (noXmit : ∀ e ∈ s.events, e.func ≠ .controlXmit p)
    (noOwner : ∀ e ∈ s.events, ∀ b, e.func = .controlXmit b → (s.block b).owner? ≠ some p) : Accounted held
    (s.release p) := by
  have gone : (s.release p).block p = .free (s.block p).word := write_here _ _ _
  have still {t : Nat} (is : s.IsTunnel t) (other : t ≠ p) : (s.release p).IsTunnel t := by
    unfold Ledger.IsTunnel
    rw [release_elsewhere s other]
    exact is
  have never {q : Nat} (no : ¬ s.IsTunnel q) : ¬ (s.release p).IsTunnel q := by
    unfold Ledger.IsTunnel
    by_cases same : q = p
    · rw [same, gone]
      exact Bool.false_ne_true
    · rw [release_elsewhere s same]
      exact no
  refine ⟨fun q beyond => ?_, fun e member t is => ?_, fun e member b is => ?_, fun e member q is => ?_, fun b made =>
    ?_,
    account.holds, account.tossed, account.once⟩
  · have other : q ≠ p := by
      rintro rfl
      exact Nat.not_le_of_lt old beyond
    rw [release_elsewhere s other]
    exact account.sound q beyond
  · exact still (account.hello e member t is) fun same => noHello e member (same ▸ is)
  · obtain ⟨made, t, owns, live⟩ := account.xmit e member b is
    refine ⟨made, t, ?_, still live fun same => noOwner e member b is (same ▸ owns)⟩
    have other : b ≠ p := by
      rintro rfl
      exact noXmit e member is
    rw [release_elsewhere s other]
    exact owns
  · exact ⟨(account.other e member q is).1, never (account.other e member q is).2⟩
  · exact ⟨(account.made b made).1, never (account.made b made).2⟩

theorem toss_accounted {held : List Nat} {b : Nat} {s s' : Ledger} {u : PUnit} (account : Accounted (b :: held) s)
    (ran : toss b s = some (u, s')) : Accounted held s' := by
  obtain rfl := (Prog.modify_some _ _ _ _).mp ran
  have made : b ∈ s.made := account.holds b List.mem_cons_self
  obtain ⟨old, noTunnel⟩ := account.made b made
  have balance := account.once b made
  rw [List.count_cons_self] at balance
  have absent := (queued_zero s b).mp (by omega)
  have released := release_accounted account old (fun e member is => noTunnel (account.hello e member b is)) absent
    fun e member c is owns => by
      obtain ⟨_, t, owner, live⟩ := account.xmit e member c is
      obtain rfl := Option.some.inj (owner.symm.trans owns)
      exact noTunnel live
  refine ⟨released.sound, released.hello, released.xmit, released.other, released.made,
    fun c holds => account.holds c (List.mem_cons_of_mem _ holds), fun c freed => ?_, fun c madeToo => ?_⟩
  · rcases List.mem_append.mp freed with before | now
    · exact account.tossed c before
    · exact List.mem_singleton.mp now ▸ made
  have each := account.once c madeToo
  show s.queued c + (s.freed ++ [b]).count c + held.count c = 1
  rw [List.count_append, List.count_singleton]
  rw [List.count_cons] at each
  omega

theorem schedule_xmit {held : List Nat} {b t : Nat} {s s' : Ledger} {now tv : Timeval} {u : PUnit}
    (account : Accounted (b :: held) s) (owns : (s.block b).owner? = some t) (live : s.IsTunnel t)
    (ran : schedule now tv (.controlXmit b) s = some (u, s')) : Accounted held s' := by
  have counted := queued_schedule s now tv (.controlXmit b)
  have joins := mem_schedule s now tv (.controlXmit b) s' u ran
  obtain rfl := (Prog.modify_some _ _ _ _).mp ran
  refine ⟨fun p beyond => account.sound p (Nat.le_of_succ_le beyond), fun e member t is => ?_, fun e member c is => ?_,
    fun e member p is => ?_, fun c made => ⟨Nat.lt_succ_of_lt (account.made c made).1, (account.made c made).2⟩,
    fun c holds => account.holds c (List.mem_cons_of_mem _ holds), account.tossed, fun c made => ?_⟩
  · rcases joins e member with new | early
    · rw [new] at is
      cases is
    · exact account.hello e early t is
  · rcases joins e member with new | early
    · rw [new] at is
      obtain rfl := Task.controlXmit.inj is
      exact ⟨account.holds b List.mem_cons_self, t, owns, live⟩
    · exact account.xmit e early c is
  · rcases joins e member with new | early
    · rw [new] at is
      rcases is with same | same <;> cases same
    · exact ⟨Nat.lt_succ_of_lt (account.other e early p is).1, (account.other e early p is).2⟩
  · have each := account.once c made
    have now := counted c _ u rfl
    rw [List.count_cons] at each
    rw [now]
    by_cases same : b = c
    · subst same
      simp only [if_true, beq_self_eq_true] at each ⊢
      show _ + s.freed.count b + _ = 1
      omega
    · have different : Task.controlXmit b ≠ .controlXmit c := fun is => same (Task.controlXmit.inj is)
      simp only [if_neg different, beq_iff_eq, if_neg same] at each ⊢
      exact each

theorem schedule_hello {held : List Nat} {t : Nat} {s s' : Ledger} {now tv : Timeval} {u : PUnit}
    (account : Accounted held s) (live : s.IsTunnel t) (ran : schedule now tv (.hello t) s = some (u, s')) :
    Accounted held s' := by
  have counted := queued_schedule s now tv (.hello t)
  have joins := mem_schedule s now tv (.hello t) s' u ran
  obtain rfl := (Prog.modify_some _ _ _ _).mp ran
  refine ⟨fun p beyond => account.sound p (Nat.le_of_succ_le beyond), fun e member t is => ?_, fun e member c is => ?_,
    fun e member p is => ?_, fun c made => ⟨Nat.lt_succ_of_lt (account.made c made).1, (account.made c made).2⟩,
    account.holds, account.tossed, fun c made => ?_⟩
  · rcases joins e member with new | early
    · rw [new] at is
      obtain rfl := Task.hello.inj is
      exact live
    · exact account.hello e early t is
  · rcases joins e member with new | early
    · rw [new] at is
      cases is
    · exact account.xmit e early c is
  · rcases joins e member with new | early
    · rw [new] at is
      rcases is with same | same <;> cases same
    · exact ⟨Nat.lt_succ_of_lt (account.other e early p is).1, (account.other e early p is).2⟩
  · rw [counted c _ u rfl]
    simpa using account.once c made

theorem newOutgoing_accounted {held : List Nat} {t b : Nat} {s s' : Ledger} (account : Accounted held s)
    (ran : newOutgoing t s = some (b, s')) :
    Accounted (b :: held) s' ∧ s'.block b = .buffer ⟨0, 0, t⟩ ∧ s'.events = s.events ∧ s.IsTunnel t ∧
      ∀ p, s.IsTunnel p → s'.IsTunnel p := by
  obtain ⟨tun, s₁, loaded, later⟩ := (Prog.bind_some _ _ _ _ _).mp ran
  obtain ⟨found, rfl⟩ := (load_some _ _ _ _ _).mp loaded
  obtain ⟨_, _, got, later⟩ := (Prog.bind_some _ _ _ _ _).mp later
  obtain ⟨rfl, rfl⟩ := (Prog.get_some _ _ _).mp got
  obtain ⟨_, s₂, changed, returned⟩ := (Prog.bind_some _ _ _ _ _).mp later
  obtain ⟨rfl, rfl⟩ := (Prog.pure_some _ _ _ _).mp returned
  obtain rfl := (Prog.modify_some _ _ _ _).mp changed
  have elsewhere (p : Nat) (old : p < s₁.fresh) (new : Block) : write s₁.block s₁.fresh new p = s₁.block p :=
    write_elsewhere _ _ _ _ (Nat.ne_of_lt old)
  have still {p : Nat} (is : s₁.IsTunnel p) : (write s₁.block s₁.fresh (.buffer ⟨0, 0, t⟩) p).tunnel?.isSome =
    true := by
    rw [elsewhere p (old_of_tunnel account.sound is)]
    exact is
  have never {p : Nat} (old : p < s₁.fresh) (no : ¬ s₁.IsTunnel p) :
      ¬ (write s₁.block s₁.fresh (.buffer ⟨0, 0, t⟩) p).tunnel?.isSome = true := by
    rw [elsewhere p old]
    exact no
  have absent : s₁.fresh ∉ s₁.made := fun made => Nat.lt_irrefl _ (account.made _ made).1
  refine ⟨⟨fun p beyond => ?_, fun e member t is => still (account.hello e member t is), fun e member c is => ?_,
    fun e member p is => ?_, fun c made => ?_, fun c holds => ?_, fun c freed =>
      List.mem_cons_of_mem _ (account.tossed c freed), fun c made => ?_⟩,
    write_here _ _ _, rfl, ?_, fun p => still⟩
  · obtain ⟨residue, free⟩ := account.sound p (Nat.le_of_succ_le beyond)
    exact ⟨residue, (write_elsewhere _ _ _ _ (Nat.ne_of_gt beyond)).trans free⟩
  · obtain ⟨made, owner, owns, live⟩ := account.xmit e member c is
    refine ⟨List.mem_cons_of_mem _ made, owner, ?_, still live⟩
    exact (congrArg Block.owner? (elsewhere c (account.made c made).1 _)).trans owns
  · obtain ⟨old, no⟩ := account.other e member p is
    exact ⟨Nat.lt_succ_of_lt old, never old no⟩
  · rcases List.mem_cons.mp made with rfl | before
    · refine ⟨Nat.lt_succ_self _, ?_⟩
      show ¬ (write s₁.block s₁.fresh (.buffer ⟨0, 0, t⟩) s₁.fresh).tunnel?.isSome = true
      rw [write_here]
      exact Bool.false_ne_true
    · obtain ⟨old, no⟩ := account.made c before
      exact ⟨Nat.lt_succ_of_lt old, never old no⟩
  · rcases List.mem_cons.mp holds with rfl | before
    · exact List.mem_cons_self
    · exact List.mem_cons_of_mem _ (account.holds c before)
  · rcases List.mem_cons.mp made with rfl | before
    · have unqueued : s₁.queued s₁.fresh = 0 := (queued_zero s₁ _).mpr fun e member is =>
        absent (account.xmit e member _ is).1
      have unfreed : s₁.freed.count s₁.fresh = 0 := List.count_eq_zero.mpr fun freed => absent (account.tossed _ freed)
      have unheld : held.count s₁.fresh = 0 := List.count_eq_zero.mpr fun holds => absent (account.holds _ holds)
      rw [List.count_cons_self, unheld]
      show s₁.queued s₁.fresh + s₁.freed.count s₁.fresh + 1 = 1
      omega
    · have different : c ≠ s₁.fresh := fun same => absent (same ▸ before)
      rw [List.count_cons_of_ne (Ne.symm different)]
      exact account.once c before
  · unfold Ledger.IsTunnel
    rw [found]
    rfl

theorem setBuffer_beside (s : Ledger) (b : Nat) (buf new : BufferBlock) (sound : s.Sound)
    (found : s.block b = .buffer buf)
    (same : new.tunnel = buf.tunnel) : Beside s { s with block := write s.block b (.buffer new) } := by
  refine beside_write s b _ sound (by rw [found]; rfl) ?_ fun beyond => ?_
  · rw [found]
    exact congrArg some same
  · obtain ⟨residue, free⟩ := sound b beyond
    rw [found] at free
    cases free

theorem addControlHdr_aside (t b : Nat) : Prog.Within Aside (addControlHdr t b) := by
  unfold addControlHdr
  refine Prog.within_bind (load_within _ t) fun tun => ?_
  intro s u s' ran
  obtain ⟨buf, s₁, loaded, later⟩ := (Prog.bind_some _ _ _ _ _).mp ran
  obtain ⟨found, rfl⟩ := (load_some _ _ _ _ _).mp loaded
  obtain ⟨_, s₂, stored, later⟩ := (Prog.bind_some _ _ _ _ _).mp later
  obtain rfl := (store_some _ _ _ _ _).mp stored
  have noted : Aside s₁ { s₁ with block := write s₁.block b (.buffer { buf with ns := tun.controlSeqNum }) } :=
    fun sound => setBuffer_beside s₁ b buf _ sound (buffer_of_some found) rfl
  exact Prog.Steady.trans _ _ _ noted (setTunnel_aside t _ _ _ _ later)

def Ledger.retried (s : Ledger) (b : Nat) (buf : BufferBlock) : Ledger :=
  { s with block := write s.block b (.buffer { buf with retries := buf.retries + 1 }) }

theorem controlXmit_cases {maxRetries : Int} {now : Timeval} {depth b : Nat} {s s' : Ledger} {u : PUnit}
    (ran : controlXmit maxRetries now depth b s = some (u, s')) :
    ∃ buf, s.block b = .buffer buf ∧
      (toss b (s.retried b buf) = some (u, s') ∨
        ∃ tun, ((s.retried b buf).block buf.tunnel).tunnel? = some tun ∧ ¬ buf.ns.toNat < tun.cLr.toNat ∧
          (buf.retries + 1 ≤ maxRetries ∧
              (∃ tv, schedule now tv (.controlXmit b) (s.retried b buf) = some (u, s')) ∨
            maxRetries < buf.retries + 1 ∧ ∃ change shallower s₂ s₃ v w,
              setTunnel buf.tunnel change (s.retried b buf) = some (v, s₂) ∧
              callClose maxRetries now shallower (.self buf.tunnel) s₂ = some (w, s₃) ∧ toss b s₃ = some (u, s'))) := by
  cases depth with
  | zero =>
      rw [controlXmit] at ran
      exact ((Prog.wrong_some _ _ _).mp ran).elim
  | succ depth =>
      rw [controlXmit] at ran
      obtain ⟨buf, s₁, loaded, later⟩ := (Prog.bind_some _ _ _ _ _).mp ran
      obtain ⟨found, rfl⟩ := (load_some _ _ _ _ _).mp loaded
      obtain ⟨_, s₂, stored, later⟩ := (Prog.bind_some _ _ _ _ _).mp later
      obtain rfl := (store_some _ _ _ _ _).mp stored
      refine ⟨buf, buffer_of_some found, ?_⟩
      by_cases unowned : buf.tunnel = 0
      · rw [if_pos unowned] at later
        by_cases exceeded : maxRetries < buf.retries + 1
        · rw [if_pos exceeded] at later
          exact .inl later
        · rw [if_neg exceeded] at later
          exact ((Prog.wrong_some _ _ _).mp later).elim
      rw [if_neg unowned] at later
      obtain ⟨tun, s₃, read, later⟩ := (Prog.bind_some _ _ _ _ _).mp later
      obtain ⟨live, rfl⟩ := (load_some _ _ _ _ _).mp read
      by_cases taken : buf.ns.toNat < tun.cLr.toNat
      · rw [if_pos taken] at later
        exact .inl later
      rw [if_neg taken] at later
      refine .inr ⟨tun, live, taken, ?_⟩
      by_cases exceeded : maxRetries < buf.retries + 1
      · rw [if_pos exceeded] at later
        obtain ⟨v, s₂, marked, later⟩ := (Prog.bind_some _ _ _ _ _).mp later
        obtain ⟨w, s₃, closed, tossed⟩ := (Prog.bind_some _ _ _ _ _).mp later
        exact .inr ⟨exceeded, _, depth, s₂, s₃, v, w, marked, closed, tossed⟩
      · rw [if_neg exceeded] at later
        exact .inl ⟨Int.not_lt.mp exceeded, _, later⟩

theorem retried_beside (s : Ledger) (b : Nat) (buf : BufferBlock) (sound : s.Sound) (found : s.block b = .buffer buf) :
    Beside s (s.retried b buf) :=
  setBuffer_beside s b buf _ sound found rfl

theorem retried_owner (s : Ledger) (b : Nat) (buf : BufferBlock) :
    ((s.retried b buf).block b).owner? = some buf.tunnel :=
  congrArg Block.owner? (write_here _ _ _)

theorem toss_tunnels {b : Nat} {s s' : Ledger} {u : PUnit} (noTunnel : ¬ s.IsTunnel b) (ran : toss b s = some (u, s'))
    (p : Nat) (is : s.IsTunnel p) : s'.IsTunnel p := by
  obtain rfl := (Prog.modify_some _ _ _ _).mp ran
  have other : p ≠ b := fun same => noTunnel (same ▸ is)
  unfold Ledger.IsTunnel
  rw [show (_ : Ledger).block p = s.block p from write_elsewhere _ _ _ _ other]
  exact is

theorem controlXmit_first {maxRetries : Int} {now : Timeval} {depth b : Nat} {held : List Nat} {buf : BufferBlock}
    {s s' : Ledger}
    {u : PUnit} (account : Accounted (b :: held) s) (found : s.block b = .buffer buf)
    (few : buf.retries + 1 ≤ maxRetries)
    (ran : controlXmit maxRetries now depth b s = some (u, s')) :
    Accounted held s' ∧ ∀ p, s.IsTunnel p → s'.IsTunnel p := by
  obtain ⟨other, same, outcome⟩ := controlXmit_cases ran
  obtain rfl := Block.buffer.inj (found.symm.trans same)
  have beside := retried_beside s b buf account.sound found
  have retried := accounted_beside account beside
  have still (p : Nat) (is : s.IsTunnel p) : (s.retried b buf).IsTunnel p :=
    (beside.tunnel p (old_of_tunnel account.sound is)).mpr is
  rcases outcome with tossed | ⟨tun, live, -, ⟨-, tv, scheduled⟩ | ⟨exceeded, -⟩⟩
  · refine ⟨toss_accounted retried tossed, fun p is => toss_tunnels ?_ tossed p (still p is)⟩
    exact (retried.made b (retried.holds b List.mem_cons_self)).2
  · refine ⟨schedule_xmit retried (retried_owner s b buf) ?_ scheduled, fun p is => ?_⟩
    · unfold Ledger.IsTunnel
      rw [live]
      rfl
    · obtain rfl := (Prog.modify_some _ _ _ _).mp scheduled
      exact still p is
  · omega

theorem addControlHdr_buffer {t b : Nat} {buf : BufferBlock} {s s' : Ledger} {u : PUnit}
    (found : s.block b = .buffer buf)
    (ran : addControlHdr t b s = some (u, s')) : ∃ ns, s'.block b = .buffer { buf with ns := ns } := by
  obtain ⟨tun, s₁, read, later⟩ := (Prog.bind_some _ _ _ _ _).mp ran
  obtain ⟨live, rfl⟩ := (load_some _ _ _ _ _).mp read
  obtain ⟨same, s₂, loaded, later⟩ := (Prog.bind_some _ _ _ _ _).mp later
  obtain ⟨again, rfl⟩ := (load_some _ _ _ _ _).mp loaded
  obtain rfl := Block.buffer.inj (found.symm.trans (buffer_of_some again))
  obtain ⟨_, s₃, stored, later⟩ := (Prog.bind_some _ _ _ _ _).mp later
  obtain rfl := (store_some _ _ _ _ _).mp stored
  obtain ⟨_, s₄, reread, stored⟩ := (Prog.bind_some _ _ _ _ _).mp later
  obtain ⟨_, rfl⟩ := (load_some _ _ _ _ _).mp reread
  obtain rfl := (store_some _ _ _ _ _).mp stored
  have apart : b ≠ t := by
    rintro rfl
    rw [found] at live
    cases live
  exact ⟨tun.controlSeqNum, (write_elsewhere _ _ _ _ apart).trans (write_here _ _ _)⟩

section Purging

variable {held : List Nat} {t : Nat} {s : Ledger} (account : Accounted held s) (live : s.IsTunnel t)
  (clear : NoStray s.block t s.events)

include account

theorem suits_accounted (e : Queued Task) (member : e ∈ s.events) : e.func.Suits s.block := by
  obtain ⟨ptr, tv, func⟩ := e
  cases func with
  | hello owner => trivial
  | controlXmit b =>
      obtain ⟨_, owner, owns, _⟩ := account.xmit _ member b rfl
      obtain ⟨buf, found, _⟩ := Option.map_eq_some_iff.mp owns
      exact Option.isSome_iff_exists.mpr ⟨buf, found⟩
  | magicLacDial l => exact (isTunnel_iff s l).mp (account.other _ member l (.inl rfl)).2
  | sendZlb c => exact (isTunnel_iff s c).mp (account.other _ member c (.inr rfl)).2

omit account in
theorem carried_count (entries : List (Queued Task)) (b : Nat) :
    (entries.filterMap fun e => e.func.buffer?).count b = entries.countP fun e => e.func == .controlXmit b := by
  induction entries with
  | nil => rfl
  | cons e rest ih =>
      obtain ⟨ptr, tv, func⟩ := e
      rw [List.countP_cons, ← ih]
      cases func with
      | controlXmit c => by_cases same : c = b <;> simp [Task.buffer?, same]
      | hello owner => simp [Task.buffer?]
      | magicLacDial l => simp [Task.buffer?]
      | sendZlb c => simp [Task.buffer?]

include live clear

theorem purged_accounted :
    Accounted ((purge (fun p => (s.block p).word) t s.events).2 ++ held)
      { s with events := (purge (fun p => (s.block p).word) t s.events).1 } := by
  have kept := purge_kept_exact live (suits_accounted account) clear
  have tossed := purge_tossed_exact live (suits_accounted account) clear
  have inside (e : Queued Task) (member : e ∈ (purge (fun p => (s.block p).word) t s.events).1) : e ∈ s.events := by
    rw [kept] at member
    exact (List.mem_filter.mp member).1
  refine ⟨account.sound, fun e member => account.hello e (inside e member), fun e member =>
    account.xmit e (inside e member),
    fun e member => account.other e (inside e member), account.made, fun b holds => ?_, account.tossed, fun b made =>
      ?_⟩
  · rcases List.mem_append.mp holds with walked | before
    · rw [tossed] at walked
      obtain ⟨e, member, carries⟩ := List.mem_filterMap.mp walked
      refine (account.xmit e (List.mem_filter.mp member).1 b ?_).1
      cases shape : e.func <;> rw [shape] at carries <;> cases carries
      rfl
    · exact account.holds b before
  · have whole := account.once b made
    have parts := List.countP_eq_countP_filter_add s.events (fun e => e.func == .controlXmit b) fun e =>
      e.func.isFor s.block t
    unfold Ledger.queued at whole ⊢
    rw [List.count_append, tossed, carried_count]
    dsimp only
    rw [kept]
    omega

end Purging

theorem tosses_accounted (bufs : List Nat) {held : List Nat} {s s' : Ledger} {u : PUnit}
    (account : Accounted (bufs ++ held) s)
    (ran : (bufs.forM toss : Act PUnit) s = some (u, s')) :
    Accounted held s' ∧ s'.events = s.events ∧ ∀ b t, (s'.block b).owner? = some t → (s.block b).owner? = some t := by
  induction bufs generalizing s with
  | nil =>
      obtain ⟨_, rfl⟩ := (Prog.pure_some _ _ _ _).mp ran
      exact ⟨account, rfl, fun _ _ => id⟩
  | cons b rest ih =>
      obtain ⟨_, s₁, tossed, later⟩ := (Prog.bind_some _ _ _ _ _).mp ran
      obtain ⟨finished, queue, owners⟩ := ih (toss_accounted account tossed) later
      obtain rfl := (Prog.modify_some _ _ _ _).mp tossed
      refine ⟨finished, queue, fun c t owns => ?_⟩
      have before := owners c t owns
      by_cases same : c = b
      · subst same
        have freed := (congrArg Block.owner? (write_here s.block c (.free (s.block c).word))).symm.trans before
        cases freed
      · exact (congrArg Block.owner? (write_elsewhere _ _ _ _ same)).symm.trans before

-- Nothing in the queue is for the tunnel.
structure Rid (t : Nat) (s : Ledger) : Prop where
  hello : ∀ e ∈ s.events, e.func ≠ .hello t
  xmit : ∀ e ∈ s.events, ∀ b, e.func = .controlXmit b → (s.block b).owner? ≠ some t

theorem purgeTunnel_accounted {held : List Nat} {t : Nat} {s s' : Ledger} {u : PUnit} (account : Accounted held s)
    (live : s.IsTunnel t) (clear : NoStray s.block t s.events) (ran : purgeTunnel t s = some (u, s')) :
    Accounted held s' ∧ Rid t s' := by
  obtain ⟨_, _, got, later⟩ := (Prog.bind_some _ _ _ _ _).mp ran
  obtain ⟨rfl, rfl⟩ := (Prog.get_some _ _ _).mp got
  obtain ⟨_, s₁, walked, tossed⟩ := (Prog.bind_some _ _ _ _ _).mp later
  obtain rfl := (Prog.modify_some _ _ _ _).mp walked
  obtain ⟨finished, queue, owners⟩ := tosses_accounted _ (purged_accounted account live clear) tossed
  have kept := purge_kept_exact live (suits_accounted account) clear
  refine ⟨finished, ⟨fun e member is => ?_, fun e member b is owns => ?_⟩⟩
  · rw [queue, kept] at member
    have others := (List.mem_filter.mp member).2
    rw [is] at others
    simp [Task.isFor] at others
  · rw [queue, kept] at member
    have others := (List.mem_filter.mp member).2
    obtain ⟨buf, found, rfl⟩ := Option.map_eq_some_iff.mp (owners b t owns)
    rw [is] at others
    simp [Task.isFor, found] at others

theorem rid_beside {held : List Nat} {t : Nat} {s s' : Ledger} (account : Accounted held s) (rid : Rid t s)
    (beside : Beside s s') : Rid t s' := by
  refine ⟨fun e member is => ?_, fun e member b is owns => ?_⟩
  · rcases beside.events e member with early | ⟨l, dials, -⟩
    · exact rid.hello e early is
    · rw [dials] at is
      cases is
  · rcases beside.events e member with early | ⟨l, dials, -⟩
    · refine rid.xmit e early b is ?_
      rw [← beside.owner b (account.made b (account.xmit e early b is).1).1]
      exact owns
    · rw [dials] at is
      cases is

theorem destroyTunnel_accounted {held : List Nat} {now : Timeval} {t : Nat} {s s' : Ledger} {u : PUnit}
    (account : Accounted held s) (rid : Rid t s) (ran : destroyTunnel now t s = some (u, s')) : Accounted held s' := by
  obtain ⟨tun, s₁, loaded, later⟩ := (Prog.bind_some _ _ _ _ _).mp ran
  obtain ⟨found, rfl⟩ := (load_some _ _ _ _ _).mp loaded
  obtain ⟨_, s₂, destroyed, later⟩ := (Prog.bind_some _ _ _ _ _).mp later
  obtain ⟨_, s₃, left, later⟩ := (Prog.bind_some _ _ _ _ _).mp later
  obtain ⟨_, s₄, leftSelf, released⟩ := (Prog.bind_some _ _ _ _ _).mp later
  have calls : Prog.Within Aside (tun.calls.forM (destroyCall now)) := Prog.within_forM _ _ fun c _ =>
    destroyCall_aside now c
  have aside : Aside s₁ s₄ := Prog.Steady.trans _ _ _ (calls _ _ _ destroyed)
    (Prog.Steady.trans _ _ _ (leaveLac_aside now _ _ _ _ left) (leaveLac_aside now _ _ _ _ leftSelf))
  have beside := aside account.sound
  have old : t < s₁.fresh := old_of_some account.sound found fun _ => rfl
  have live : s₄.IsTunnel t := (beside.tunnel t old).mpr (by unfold Ledger.IsTunnel; rw [found]; rfl)
  have reached := accounted_beside account beside
  have ridden := rid_beside account rid beside
  obtain rfl := (Prog.modify_some _ _ _ _).mp released
  refine release_accounted reached (old_of_tunnel reached.sound live) ridden.hello (fun e member is => ?_) ridden.xmit
  exact (reached.made t (reached.xmit e member t is).1).2 live

section Sending

variable {maxRetries : Int} {now : Timeval} {held : List Nat} (retries : 0 < maxRetries)

include retries

theorem send_accounted {depth t b : Nat} {s s₁ s₂ s' : Ledger} {u v : PUnit} (account : Accounted held s)
    (made : newOutgoing t s = some (b, s₁)) (headed : addControlHdr t b s₁ = some (v, s₂))
    (sent : controlXmit maxRetries now depth b s₂ = some (u, s')) :
    Accounted held s' ∧ s.IsTunnel t ∧ ∀ p, s.IsTunnel p → s'.IsTunnel p := by
  obtain ⟨accountMade, found, -, live, still⟩ := newOutgoing_accounted account made
  have beside := addControlHdr_aside t b s₁ v s₂ headed accountMade.sound
  obtain ⟨ns, complete⟩ := addControlHdr_buffer found headed
  obtain ⟨finished, stillThere⟩ := controlXmit_first (accounted_beside accountMade beside) complete
    (by show (0 : Int) + 1 ≤ maxRetries; omega) sent
  refine ⟨finished, live, fun p is => stillThere p ?_⟩
  exact (beside.tunnel p (old_of_tunnel accountMade.sound (still p is))).mpr (still p is)

theorem callClose_member {depth c : Nat} {s s' : Ledger} {u : PUnit} (account : Accounted held s)
    (ran : callClose maxRetries now depth (.member c) s = some (u, s')) :
    Accounted held s' := by
  cases depth with
  | zero =>
      rw [callClose] at ran
      exact ((Prog.wrong_some _ _ _).mp ran).elim
  | succ depth =>
      rw [callClose] at ran
      obtain ⟨cal, s₁, loaded, later⟩ := (Prog.bind_some _ _ _ _ _).mp ran
      obtain ⟨_, rfl⟩ := (load_some _ _ _ _ _).mp loaded
      by_cases closing : cal.closing = true
      · rw [if_pos closing] at later
        exact accounted_beside account (destroyCall_aside now c s₁ u s' later account.sound)
      · rw [if_neg closing] at later
        obtain ⟨b, s₂, made, later⟩ := (Prog.bind_some _ _ _ _ _).mp later
        obtain ⟨_, s₃, headed, later⟩ := (Prog.bind_some _ _ _ _ _).mp later
        obtain ⟨_, s₄, sent, marked⟩ := (Prog.bind_some _ _ _ _ _).mp later
        have after := (send_accounted retries account made headed sent).1
        exact accounted_beside after (setCall_aside c _ s₄ u s' marked after.sound)

theorem members_accounted {depth : Nat} (calls : List Nat) {s s' : Ledger} {u : PUnit} (account : Accounted held s)
    (ran : (calls.forM fun tmp => do
      setCall tmp fun cal => { cal with closing := true }
      callClose maxRetries now depth (.member tmp) : Act PUnit) s = some (u, s')) : Accounted held s' := by
  induction calls generalizing s with
  | nil =>
      obtain ⟨_, rfl⟩ := (Prog.pure_some _ _ _ _).mp ran
      exact account
  | cons tmp rest ih =>
      obtain ⟨_, s₁, closed, later⟩ := (Prog.bind_some _ _ _ _ _).mp ran
      obtain ⟨_, s₂, marked, closed⟩ := (Prog.bind_some _ _ _ _ _).mp closed
      have before := accounted_beside account (setCall_aside tmp _ s _ s₂ marked account.sound)
      exact ih (callClose_member retries before closed) later

theorem callClose_self {depth t : Nat} {s s' : Ledger} {u : PUnit} (account : Accounted held s)
    (clear : NoStray s.block t s.events) (ran : callClose maxRetries now depth (.self t) s = some (u, s')) : Accounted
    held s' := by
  cases depth with
  | zero =>
      rw [callClose] at ran
      exact ((Prog.wrong_some _ _ _).mp ran).elim
  | succ depth =>
      rw [callClose] at ran
      obtain ⟨tun, s₁, loaded, later⟩ := (Prog.bind_some _ _ _ _ _).mp ran
      obtain ⟨found, rfl⟩ := (load_some _ _ _ _ _).mp loaded
      obtain ⟨_, s₂, purged, later⟩ := (Prog.bind_some _ _ _ _ _).mp later
      have live : s₁.IsTunnel t := by
        unfold Ledger.IsTunnel
        rw [found]
        rfl
      obtain ⟨accounted, rid⟩ := purgeTunnel_accounted account live clear purged
      by_cases closing : tun.closing = true
      · rw [if_pos closing] at later
        exact destroyTunnel_accounted accounted rid later
      · rw [if_neg closing] at later
        obtain ⟨b, s₃, made, later⟩ := (Prog.bind_some _ _ _ _ _).mp later
        obtain ⟨_, s₄, headed, later⟩ := (Prog.bind_some _ _ _ _ _).mp later
        obtain ⟨_, s₅, sent, later⟩ := (Prog.bind_some _ _ _ _ _).mp later
        obtain ⟨again, s₆, reread, loop⟩ := (Prog.bind_some _ _ _ _ _).mp later
        obtain ⟨_, rfl⟩ := (load_some _ _ _ _ _).mp reread
        obtain ⟨_, s₇, members, marked⟩ := (Prog.bind_some _ _ _ _ _).mp loop
        have after := (send_accounted retries accounted made headed sent).1
        have closed := members_accounted retries again.calls after members
        exact accounted_beside closed (setTunnel_aside t _ _ _ _ marked closed.sound)

theorem controlXmit_again {depth b : Nat} {s s' : Ledger} {u : PUnit} (account : Accounted (b :: held) s)
    (clear : ∀ buf tun, s.block b = .buffer buf → (s.block buf.tunnel).tunnel? = some tun →
    ¬ buf.ns.toNat < tun.cLr.toNat →
      maxRetries < buf.retries + 1 → NoStray s.block buf.tunnel s.events)
    (ran : controlXmit maxRetries now depth b s = some (u, s')) : Accounted held s' := by
  obtain ⟨buf, found, outcome⟩ := controlXmit_cases ran
  have beside := retried_beside s b buf account.sound found
  have retried := accounted_beside account beside
  rcases outcome with tossed | ⟨tun, live, late,
    ⟨-, tv, scheduled⟩ | ⟨exceeded, change, shallower, s₂, s₃, v, w, marked, closed, tossed⟩⟩
  · exact toss_accounted retried tossed
  · refine schedule_xmit retried (retried_owner s b buf) ?_ scheduled
    unfold Ledger.IsTunnel
    rw [live]
    rfl
  · have apart : buf.tunnel ≠ b := by
      intro same
      have here : (s.retried b buf).block b = .buffer _ := write_here _ _ _
      rw [same, here] at live
      cases live
    have untouched : (s.retried b buf).block buf.tunnel = s.block buf.tunnel := write_elsewhere _ _ _ _ apart
    rw [untouched] at live
    have strays := clear buf tun found live late exceeded
    have before := accounted_beside retried (setTunnel_aside _ _ _ _ _ marked retried.sound)
    refine toss_accounted (callClose_self retries before ?_ closed) tossed
    obtain ⟨same, s₁, loaded, stored⟩ := (Prog.bind_some _ _ _ _ _).mp marked
    obtain ⟨_, rfl⟩ := (load_some _ _ _ _ _).mp loaded
    obtain rfl := (store_some _ _ _ _ _).mp stored
    intro e member carries other
    have word := strays e member carries other
    have kept : (write s.block b (.buffer { buf with retries := buf.retries + 1 }) e.func.data).word =
      (s.block e.func.data).word := by
      by_cases own : e.func.data = b
      · rw [own, write_here, found]
        rfl
      · rw [write_elsewhere _ _ _ _ own]
    show ((write (write s.block b _) buf.tunnel _) e.func.data).word ≠ buf.tunnel
    rw [write_elsewhere _ _ _ _ other, kept]
    exact word

theorem hello_accounted {depth t : Nat} {s s' : Ledger} {u : PUnit} (account : Accounted held s)
    (ran : hello maxRetries now depth t s = some (u, s')) : Accounted held s' := by
  obtain ⟨b, s₁, made, later⟩ := (Prog.bind_some _ _ _ _ _).mp ran
  obtain ⟨_, s₂, headed, last⟩ := (Prog.bind_some _ _ _ _ _).mp later
  obtain ⟨_, s₃, sent, scheduled⟩ := (Prog.bind_some _ _ _ _ _).mp last
  obtain ⟨after, live, still⟩ := send_accounted retries account made headed sent
  exact schedule_hello after (still t live) scheduled

end Sending

theorem pop_accounted {s : Ledger} {p : Queued Task} {rest : List (Queued Task)} (account : Accounted [] s)
    (queued : s.events = p :: rest) : Accounted p.func.buffer?.toList { s with events := rest } := by
  have inside (e : Queued Task) (member : e ∈ rest) : e ∈ s.events := queued ▸ List.mem_cons_of_mem _ member
  refine ⟨account.sound, fun e member => account.hello e (inside e member), fun e member =>
    account.xmit e (inside e member),
    fun e member => account.other e (inside e member), account.made, fun b holds => ?_, account.tossed, fun b made =>
      ?_⟩
  · refine (account.xmit p (queued ▸ List.mem_cons_self) b ?_).1
    cases shape : p.func <;> rw [shape] at holds <;> simp [Task.buffer?] at holds
    rw [holds]
  · have whole := account.once b made
    unfold Ledger.queued at whole
    rw [queued, List.countP_cons, List.count_nil] at whole
    show (rest.countP fun e => e.func == .controlXmit b) + s.freed.count b + _ = 1
    have own : p.func.buffer?.toList.count b = if (p.func == .controlXmit b) = true then 1 else 0 := by
      cases p.func with
      | controlXmit c => by_cases same : c = b <;> simp [Task.buffer?, same]
      | hello t => simp [Task.buffer?]
      | magicLacDial l => simp [Task.buffer?]
      | sendZlb c => simp [Task.buffer?]
    omega

theorem allocate_beside (s : Ledger) (block : Block) (sound : s.Sound) :
    Beside s { s with block := write s.block s.fresh block, fresh := s.fresh + 1 } := by
  have elsewhere (p : Nat) (old : p < s.fresh) : write s.block s.fresh block p = s.block p :=
    write_elsewhere _ _ _ _ (Nat.ne_of_lt old)
  refine ⟨rfl, rfl, Nat.le_succ _, fun p beyond => ?_, fun p old => ?_, fun p old =>
    congrArg Block.owner? (elsewhere p old),
    fun _ => .inl, fun _ => rfl⟩
  · obtain ⟨residue, free⟩ := sound p (Nat.le_of_succ_le beyond)
    exact ⟨residue, (write_elsewhere _ _ _ _ (Nat.ne_of_gt beyond)).trans free⟩
  · unfold Ledger.IsTunnel
    dsimp only
    rw [elsewhere p old]

theorem adjust_beside (s : Ledger) (p : Nat) (block : Block) (sound : s.Sound)
    (becomes : (s.block p).becomes block = true) :
    Beside s { s with block := write s.block p block } := by
  refine beside_write s p block sound ?_ ?_ fun beyond => ?_
  · cases before : s.block p <;> cases block <;> rw [before] at becomes <;> first | rfl | cases becomes
  · cases before : s.block p <;> cases block <;> rw [before] at becomes <;> first | rfl | cases becomes
  · obtain ⟨residue, free⟩ := sound p beyond
    rw [free] at becomes
    cases block <;> first | exact ⟨_, rfl⟩ | cases becomes

section Steps

variable {maxRetries : Int} {depth : Nat} {s s' : Ledger}

theorem turn_runs {now : Timeval} {p : Queued Task} {rest : List (Queued Task)}
    (runs : Scheduler.turn now s.events = .runs p rest) : s.events = p :: rest := by
  cases queued : s.events with
  | nil =>
      rw [queued] at runs
      cases runs
  | cons first later =>
      rw [queued, Scheduler.turn] at runs
      split at runs
      · obtain ⟨rfl, rfl⟩ := Scheduler.Turn.runs.inj runs
        rfl
      · cases runs

theorem turn_accounted {now : Timeval} {u : PUnit} (account : Accounted [] s) (meets : Meets maxRetries s (.turn now))
    (ran : turn maxRetries now depth s = some (u, s')) : Accounted [] s' := by
  obtain ⟨_, _, got, later⟩ := (Prog.bind_some _ _ _ _ _).mp ran
  obtain ⟨rfl, rfl⟩ := (Prog.get_some _ _ _).mp got
  cases round : Scheduler.turn now s.events with
  | returns ptv =>
      rw [round] at later
      obtain ⟨_, rfl⟩ := (Prog.pure_some _ _ _ _).mp later
      exact account
  | runs p rest =>
      rw [round] at later
      obtain ⟨_, s₁, popped, handled⟩ := (Prog.bind_some _ _ _ _ _).mp later
      obtain rfl := (Prog.modify_some _ _ _ _).mp popped
      have queued := turn_runs round
      have held := pop_accounted account queued
      obtain ⟨ptr, tv, func⟩ := p
      cases func with
      | hello t => exact hello_accounted meets.1 held handled
      | controlXmit b =>
          refine controlXmit_again meets.1 held (fun buf tun found live late exceeded e member => ?_) handled
          refine meets.2 buf.tunnel ?_ e (queued ▸ List.mem_cons_of_mem _ member)
          have read : (s.block b).buffer? = some buf := congrArg Block.buffer? found
          have spent : ¬ (buf.ns.toNat < tun.cLr.toNat ∨ buf.retries + 1 ≤ maxRetries) := by
            rintro (taken | few)
            · exact late taken
            · omega
          simp only [purges, round]
          show (s.block b).buffer?.bind _ = some buf.tunnel
          rw [read]
          show (s.block buf.tunnel).tunnel?.bind _ = some buf.tunnel
          rw [live]
          exact if_neg spent
      | magicLacDial l =>
          obtain ⟨_, rfl⟩ := (Prog.pure_some _ _ _ _).mp handled
          exact held
      | sendZlb c =>
          obtain ⟨_, rfl⟩ := (Prog.pure_some _ _ _ _).mp handled
          exact held

theorem next_accounted {move : Move} (account : Accounted [] s) (meets : Meets maxRetries s move)
    (moved : next maxRetries depth s move = some s') : Accounted [] s' := by
  obtain ⟨⟨u, reached⟩, ran, rfl⟩ := Option.map_eq_some_iff.mp moved
  cases move with
  | allocate block =>
      simp only [perform] at ran
      by_cases record : block.record = true
      · rw [if_pos record] at ran
        obtain rfl := (Prog.modify_some _ _ _ _).mp ran
        exact accounted_beside account (allocate_beside s block account.sound)
      · rw [if_neg record] at ran
        exact ((Prog.wrong_some _ _ _).mp ran).elim
  | adjust p block =>
      obtain ⟨_, _, got, checked⟩ := (Prog.bind_some _ _ _ _ _).mp ran
      obtain ⟨rfl, rfl⟩ := (Prog.get_some _ _ _).mp got
      by_cases becomes : (s.block p).becomes block = true
      · rw [if_pos becomes] at checked
        obtain rfl := (store_some _ _ _ _ _).mp checked
        exact accounted_beside account (adjust_beside s p block account.sound becomes)
      · rw [if_neg becomes] at checked
        exact ((Prog.wrong_some _ _ _).mp checked).elim
  | release p =>
      obtain ⟨_, _, got, checked⟩ := (Prog.bind_some _ _ _ _ _).mp ran
      obtain ⟨rfl, rfl⟩ := (Prog.get_some _ _ _).mp got
      by_cases may : (s.block p).record = true ∧ (s.block p).tunnel? = none
      · rw [if_pos may] at checked
        obtain rfl := (Prog.modify_some _ _ _ _).mp checked
        refine accounted_beside account (beside_release s p account.sound may.2 ?_)
        cases kind : s.block p <;> first | rfl | (rw [kind] at may; cases may.1)
      · rw [if_neg may] at checked
        exact ((Prog.wrong_some _ _ _).mp checked).elim
  | dial now tv l =>
      obtain ⟨entry, s₁, loaded, scheduled⟩ := (Prog.bind_some _ _ _ _ _).mp ran
      obtain ⟨found, rfl⟩ := (load_some _ _ _ _ _).mp loaded
      exact accounted_beside account (schedule_dial s₁ _ now tv l entry _ account.sound found scheduled)
  | startHello now t =>
      obtain ⟨tun, s₁, loaded, scheduled⟩ := (Prog.bind_some _ _ _ _ _).mp ran
      obtain ⟨found, rfl⟩ := (load_some _ _ _ _ _).mp loaded
      exact schedule_hello account (Option.isSome_iff_exists.mpr ⟨tun, found⟩) scheduled
  | send now t =>
      obtain ⟨b, s₁, made, later⟩ := (Prog.bind_some _ _ _ _ _).mp ran
      obtain ⟨_, s₂, headed, sent⟩ := (Prog.bind_some _ _ _ _ _).mp later
      exact (send_accounted meets.1 account made headed sent).1
  | discard t =>
      obtain ⟨b, s₁, made, tossed⟩ := (Prog.bind_some _ _ _ _ _).mp ran
      exact toss_accounted (newOutgoing_accounted account made).1 tossed
  | close now entry =>
      cases entry with
      | self t => exact callClose_self meets.1 account (meets.2 t rfl) ran
      | member c => exact callClose_member meets.1 account ran
  | turn now => exact turn_accounted account meets ran

theorem start_accounted : Accounted [] Ledger.start := by
  refine ⟨fun p _ => ⟨0, rfl⟩, fun e member => ?_, fun e member => ?_, fun e member => ?_, fun b made => ?_,
    fun b holds => ?_,
    fun b freed => ?_, fun b made => ?_⟩ <;> contradiction

theorem settled_of_accounted (account : Accounted [] s) : Settled s := by
  refine ⟨account.hello, fun e member b is => ?_, fun b made => ?_⟩
  · obtain ⟨_, t, owns, live⟩ := account.xmit e member b is
    obtain ⟨buf, found, rfl⟩ := Option.map_eq_some_iff.mp owns
    exact ⟨buf, buffer_of_some found, live⟩
  · have balance := account.once b made
    rw [List.count_nil] at balance
    omega

theorem run_settled {moves : List (Ledger × Move)} (run : Run (next maxRetries depth) Ledger.start moves s)
    (meets : Run.Meets (Meets maxRetries) moves) : Settled s :=
  settled_of_accounted (Run.invariant (Meets maxRetries) (Accounted []) start_accounted
    (fun _ _ _ account met moved => next_accounted account met moved) run meets)

end Steps

-- The walk takes out exactly the tunnel's events from every queue without a stray.
-- Where no purge of a run meets one, every event is left with what it needs, and
-- every control message is accounted for.
theorem tunnel_events_purged_iff (block : Nat → Block) (queue : Queue block) (t : Nat)
    (live : (block t).tunnel?.isSome = true) (maxRetries : Int) (depth : Nat) (s : Ledger)
    (moves : List (Ledger × Move))
    (run : Run (next maxRetries depth) Ledger.start moves s) (meets : Run.Meets (Meets maxRetries) moves) :
    (PurgeExact block t queue.entries ↔ NoStray block t queue.entries) ∧ Settled s :=
  ⟨purge_exact_iff block queue t live, run_settled run meets⟩

def namedBlock (authname : CString) (p : Nat) : Block :=
  if p = 0x555555756a40 then .tunnel ⟨1, 0, 3, 2, false, false, none, [], none⟩
  else if p = 0x555555758000 then .lac ⟨authname, true, 30, true, true⟩
  else .free 0

def namedQueue (authname : CString) : Queue (namedBlock authname) where
  entries := [⟨0x555555759000, ⟨60, 0⟩, .hello 0x555555756a40⟩, ⟨0x555555759100, ⟨70, 0⟩, .magicLacDial 0x555555758000⟩]
  fits e member := by
    rcases List.mem_cons.mp member with rfl | rest
    · rfl
    · obtain rfl := List.mem_singleton.mp rest
      rfl
  once := List.nodup_nil

def twoTunnels : List Move :=
  [.allocate (.tunnel ⟨1, 0, 3, 2, false, false, none, [], none⟩),
    .allocate (.tunnel ⟨2, 0, 0, 0, false, false, none, [], none⟩),
    .allocate (.lac ⟨text "isp", true, 30, false, true⟩), .startHello ⟨0, 0⟩ 1, .startHello ⟨0, 0⟩ 2,
      .dial ⟨0, 0⟩ ⟨90, 0⟩ 3,
    .send ⟨1, 0⟩ 1, .send ⟨1, 0⟩ 2, .turn ⟨2, 0⟩, .close ⟨3, 0⟩ (.self 1), .turn ⟨70, 0⟩]

theorem tunnel_events_purged_isp :
    (PurgeExact (namedBlock (text "isp")) 0x555555756a40 (namedQueue (text "isp")).entries ↔
        NoStray (namedBlock (text "isp")) 0x555555756a40 (namedQueue (text "isp")).entries) ∧
      ∃ s, Run.play (next 5 8) Ledger.start twoTunnels = some s ∧ Settled s := by
  obtain ⟨s, played⟩ := Option.isSome_iff_exists.mp
    (show (Run.play (next 5 8) Ledger.start twoTunnels).isSome = true by decide +kernel)
  have both := tunnel_events_purged_iff (namedBlock (text "isp")) (namedQueue (text "isp")) 0x555555756a40 rfl 5 8 s _
    (Run.of_play twoTunnels s played) (by decide +kernel)
  exact ⟨both.1, s, played, both.2⟩

-- The dialling of the entry goes with the tunnel, and the entry is tossed.
theorem named_entry_tossed :
    ¬ PurgeExact (namedBlock (text "@juUUU")) 0x555555756a40 (namedQueue (text "@juUUU")).entries ∧
      purge (fun p => (namedBlock (text "@juUUU") p).word) 0x555555756a40 (namedQueue (text "@juUUU")).entries =
        ([], [0x555555758000]) := by
  refine ⟨fun exact => ?_, by decide +kernel⟩
  exact absurd exact.kept (by decide +kernel)

end ZyAgf.Xl2tpd.Purge
