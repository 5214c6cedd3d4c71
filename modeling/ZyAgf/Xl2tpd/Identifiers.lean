import ZyAgf.Xl2tpd.Linked

set_option autoImplicit false

namespace ZyAgf.Xl2tpd

-- Tunnels are told apart by their numbers, and so are the calls of a tunnel;
-- zero is no number.
structure Numbered (d : Daemon) : Prop where
  tunnel : ∀ t ∈ d.tunnels, (d.tunnel t).ourtid ≠ 0
  tunnels : ∀ t ∈ d.tunnels, ∀ other ∈ d.tunnels, (d.tunnel t).ourtid = (d.tunnel other).ourtid → t = other
  call : ∀ t ∈ d.tunnels, ∀ c ∈ (d.tunnel t).calls, (d.call c).ourcid ≠ 0
  calls : ∀ t ∈ d.tunnels, ∀ c ∈ (d.tunnel t).calls, ∀ other ∈ (d.tunnel t).calls,
    (d.call c).ourcid = (d.call other).ourcid → c = other

-- The number that new_tunnel or new_call draws, where it gets that far, is not
-- zero and not taken.
def DrawsNew (env : Env) (d : Daemon) : Op → Prop
  | .newTunnel _ _ => env.tunnelMemory = true → env.callMemory = true →
      drawnId env d ≠ 0 ∧ ∀ t ∈ d.tunnels, (d.tunnel t).ourtid ≠ drawnId env d
  | .newCall t => env.callMemory = true → t ∈ d.tunnels →
      drawnId env d ≠ 0 ∧ ∀ c ∈ (d.tunnel t).calls, (d.call c).ourcid ≠ drawnId env d
  | _ => True

instance (env : Env) (d : Daemon) (op : Op) : Decidable (DrawsNew env d op) :=
  match op with
  | .newTunnel _ _ => inferInstanceAs (Decidable (env.tunnelMemory = true → env.callMemory = true →
      drawnId env d ≠ 0 ∧ ∀ t ∈ d.tunnels, (d.tunnel t).ourtid ≠ drawnId env d))
  | .newCall t => inferInstanceAs (Decidable (env.callMemory = true → t ∈ d.tunnels →
      drawnId env d ≠ 0 ∧ ∀ c ∈ (d.tunnel t).calls, (d.call c).ourcid ≠ drawnId env d))
  | .aside _ | .tunnel _ _ | .call _ _ | .leaves _ | .addLns _ | .editLns _ _ | .dropLns _ | .raise _ _ _ |
    .raiseCall _ _ _ | .mark _ _
  | .choose _ _ | .challenge _ _ | .free _ _ | .destroyCall _ | .unlink _ | .bury _ | .assign _ _ | .takeLocal _ _
  | .check _ _ _ | .zlb _ _ => .isTrue trivial

theorem numbered_init (deflns : Option Lns) (lnslist : List Lns) (deflac : Option Lac) (laclist : List Lac) :
    Numbered (initDaemon deflns lnslist deflac laclist) :=
  ⟨fun _ member => (by cases member), fun _ member => (by cases member), fun _ member => (by cases member),
    fun _ member => (by cases member)⟩

theorem Numbered.fewer {d d' : Daemon} (numbered : Numbered d) (tunnels : ∀ t ∈ d'.tunnels, t ∈ d.tunnels)
    (ourtid : ∀ t ∈ d'.tunnels, (d'.tunnel t).ourtid = (d.tunnel t).ourtid)
    (calls : ∀ t ∈ d'.tunnels, ∀ c ∈ (d'.tunnel t).calls, c ∈ (d.tunnel t).calls)
    (ourcid : ∀ c, (d'.call c).ourcid = (d.call c).ourcid) : Numbered d' where
  tunnel := by
    intro t member
    rw [ourtid t member]
    exact numbered.tunnel t (tunnels t member)
  tunnels := by
    intro t member other listed same
    rw [ourtid t member, ourtid other listed] at same
    exact numbered.tunnels t (tunnels t member) other (tunnels other listed) same
  call := by
    intro t member c called
    rw [ourcid]
    exact numbered.call t (tunnels t member) c (calls t member c called)
  calls := by
    intro t member c called other listed same
    rw [ourcid, ourcid] at same
    exact numbered.calls t (tunnels t member) c (calls t member c called) other (calls t member other listed) same

theorem Numbered.of_sameLinks {d d' : Daemon} (numbered : Numbered d) (same : SameLinks d d') : Numbered d' := by
  refine numbered.fewer (fun t member => same.tunnels ▸ member) (fun t _ => ?_) (fun t _ c called => ?_) fun c => ?_
  · exact congrArg (fun links => links.2.2.1) (same.tunnel t)
  · have kept : (d'.tunnel t).calls = (d.tunnel t).calls := congrArg (fun links => links.2.1) (same.tunnel t)
    rw [← kept]
    exact called
  · exact congrArg (fun links => links.2.1) (same.call c)

theorem numbered_withTunnel (env : Env) (d : Daemon) (peer : SockAddr) (refhim : Nat) (linked : Linked d)
    (numbered : Numbered d)
    (some : drawnId env d ≠ 0) (new : ∀ t ∈ d.tunnels, (d.tunnel t).ourtid ≠ drawnId env d) :
    Numbered (withTunnel env d peer refhim) := by
  have made := withTunnel_here env d peer refhim
  have old (t : TunnelPtr) (member : t ∈ d.tunnels) :=
    withTunnel_elsewhere env d peer refhim t (Nat.ne_of_lt (linked.listed.2 t member))
  have oldCall (t : TunnelPtr) (member : t ∈ d.tunnels) (c : CallPtr) (called : c ∈ (d.tunnel t).calls) :
      (withTunnel env d peer refhim).call c = d.call c := by
    have young := linked.call_old c (linked.calls t member c called).1
    exact withTunnel_call env d peer refhim c (Nat.ne_of_lt (Nat.lt_succ_of_lt young))
  constructor
  · intro t member
    rcases List.mem_cons.mp member with rfl | listed
    · rw [made]
      exact some
    · rw [old t listed]
      exact numbered.tunnel t listed
  · intro t member other listed same
    rcases List.mem_cons.mp member with rfl | before <;> rcases List.mem_cons.mp listed with rfl | known
    · rfl
    · rw [made, old other known] at same
      exact (new other known same.symm).elim
    · rw [made, old t before] at same
      exact (new t before same).elim
    · rw [old t before, old other known] at same
      exact numbered.tunnels t before other known same
  · intro t member c called
    rcases List.mem_cons.mp member with rfl | before
    · rw [made] at called
      cases called
    · rw [old t before] at called
      rw [oldCall t before c called]
      exact numbered.call t before c called
  · intro t member c called other listed same
    rcases List.mem_cons.mp member with rfl | before
    · rw [made] at called
      cases called
    · rw [old t before] at called listed
      rw [oldCall t before c called, oldCall t before other listed] at same
      exact numbered.calls t before c called other listed same

theorem numbered_withLinkedCall (env : Env) (d : Daemon) (t : TunnelPtr) (linked : Linked d) (numbered : Numbered d)
    (new : t ∈ d.tunnels → drawnId env d ≠ 0 ∧ ∀ c ∈ (d.tunnel t).calls, (d.call c).ourcid ≠ drawnId env d) :
    Numbered (withLinkedCall env d t) := by
  have here := withLinkedCall_here env d t
  have elsewhere := withLinkedCall_elsewhere env d t
  have ourtid (other : TunnelPtr) : ((withLinkedCall env d t).tunnel other).ourtid = (d.tunnel other).ourtid := by
    by_cases same : other = t
    · rw [same, here]
    · rw [elsewhere other same]
  have oldCall (other : TunnelPtr) (member : other ∈ d.tunnels) (c : CallPtr) (called : c ∈ (d.tunnel other).calls) :
      (withLinkedCall env d t).call c = d.call c :=
    withLinkedCall_call env d t c (Nat.ne_of_lt (linked.call_old c (linked.calls other member c called).1))
  have made (member : t ∈ d.tunnels) : ((withLinkedCall env d t).call d.fresh).ourcid = drawnId env d := by
    rw [withLinkedCall_made]
    exact if_neg (linked.own t member)
  constructor
  · intro other member
    rw [ourtid]
    exact numbered.tunnel other member
  · intro other member another listed same
    rw [ourtid, ourtid] at same
    exact numbered.tunnels other member another listed same
  · intro other member c called
    by_cases same : other = t
    · subst same
      rw [here] at called
      rcases List.mem_cons.mp called with rfl | before
      · rw [made member]
        exact (new member).1
      · rw [oldCall other member c before]
        exact numbered.call other member c before
    · rw [elsewhere other same] at called
      rw [oldCall other member c called]
      exact numbered.call other member c called
  · intro other member c called another listed equal
    by_cases same : other = t
    · subst same
      rw [here] at called listed
      rcases List.mem_cons.mp called with rfl | before <;> rcases List.mem_cons.mp listed with rfl | known
      · rfl
      · rw [made member, oldCall other member another known] at equal
        exact ((new member).2 another known equal.symm).elim
      · rw [made member, oldCall other member c before] at equal
        exact ((new member).2 c before equal).elim
      · rw [oldCall other member c before, oldCall other member another known] at equal
        exact numbered.calls other member c before another known equal
    · rw [elsewhere other same] at called listed
      rw [oldCall other member c called, oldCall other member another listed] at equal
      exact numbered.calls other member c called another listed equal

theorem numbered_withoutCall (d : Daemon) (c : CallPtr) (numbered : Numbered d) : Numbered (withoutCall d c) := by
  refine numbered.fewer (fun _ member => member) (fun t _ => ?_) (fun t _ other called => ?_) fun other => ?_
  · by_cases same : t = (d.call c).container
    · rw [same, withoutCall_here]
    · rw [withoutCall_elsewhere d t c same]
  · by_cases same : t = (d.call c).container
    · rw [same, withoutCall_here] at called
      rw [same]
      exact List.mem_of_mem_erase called
    · rw [withoutCall_elsewhere d t c same] at called
      exact called
  · by_cases same : other = c
    · rw [same, withoutCall_gone]
    · rw [withoutCall_call d c other same]

theorem perform_numbered (env : Env) (d d' : Daemon) (op : Op) (linked : Linked d) (numbered : Numbered d)
    (new : DrawsNew env d op) (done : perform env d op = some d') : Numbered d' := by
  by_cases still : op.Relinks
  · cases op with
    | newTunnel peer refhim =>
        obtain ⟨⟨made, after⟩, ran, rfl⟩ := Option.map_eq_some_iff.mp done
        rcases addTunnel_some env peer refhim d after made
          ran with ⟨_, _, rfl | rfl⟩ | ⟨tunnelMemory, callMemory, _, rfl⟩
        · exact numbered
        · have old (t : TunnelPtr) (member : t ∈ d.tunnels) :=
            withLostTunnel_elsewhere env d t (Nat.ne_of_lt (linked.listed.2 t member))
          refine numbered.fewer (fun _ member => member) (fun t member => ?_) (fun t member c called => ?_) fun _ => rfl
          · rw [old t member]
          · rw [old t member] at called
            exact called
        · have fresh := new tunnelMemory callMemory
          exact numbered_withTunnel env d peer refhim linked numbered fresh.1 fresh.2
    | newCall t =>
        obtain ⟨⟨result, after⟩, ran, rfl⟩ := Option.map_eq_some_iff.mp done
        rcases addIncomingCall_some env t d after result ran with ⟨_, rfl⟩ | ⟨memory, _, rfl⟩
        · exact numbered
        · exact numbered_withLinkedCall env d t linked numbered (new memory)
    | destroyCall c =>
        obtain ⟨_, _, rest, _, rfl⟩ := perform_effect env d d' (.destroyCall c) done
        exact (numbered_withoutCall d c numbered).of_sameLinks
          ⟨rfl, by assumption, fun _ => rfl, fun _ _ => rfl, fun _ => rfl⟩
    | unlink t =>
        obtain rfl := perform_effect env d d' (.unlink t) done
        exact numbered.fewer (fun _ member => List.mem_of_mem_erase member) (fun _ _ => rfl)
          (fun _ _ _ called => called)
          fun _ => rfl
    | bury t =>
        obtain ⟨_, absent, rfl⟩ := perform_effect env d d' (.bury t) done
        have elsewhere (other : TunnelPtr) (member : other ∈ d.tunnels) :
            write d.tunnel t { d.tunnel t with live := false } other = d.tunnel other := by
          refine write_elsewhere _ _ _ _ ?_
          rintro rfl
          exact absent member
        refine numbered.fewer (fun _ member => member) (fun other member => ?_) (fun other member c called => ?_)
          fun _ => rfl
        · exact congrArg Tunnel.ourtid (elsewhere other member)
        · change c ∈ (write d.tunnel t _ other).calls at called
          rw [elsewhere other member] at called
          exact called
    | _ => exact still.elim
  · exact numbered.of_sameLinks (perform_sameLinks env d d' op still done)

theorem perform_drawsNew (env : Env) (d d' : Daemon) (op : Op) (linked : Linked d) (numbered : Numbered d')
    (done : perform env d op = some d') : DrawsNew env d op := by
  cases op with
  | newTunnel peer refhim =>
      intro tunnelMemory callMemory
      obtain ⟨⟨made, after⟩, ran, rfl⟩ := Option.map_eq_some_iff.mp done
      rcases addTunnel_some env peer refhim d after made ran with ⟨full, _⟩ | ⟨_, _, _, rfl⟩
      · rw [tunnelMemory, callMemory] at full
        rcases full with full | full <;> cases full
      · have made := withTunnel_here env d peer refhim
        have own : d.fresh ∈ (withTunnel env d peer refhim).tunnels := List.mem_cons_self
        refine ⟨?_, fun t member same => ?_⟩
        · have some := numbered.tunnel d.fresh own
          rw [made] at some
          exact some
        · have older := Nat.ne_of_lt (linked.listed.2 t member)
          refine older (numbered.tunnels t (List.mem_cons_of_mem _ member) d.fresh own ?_)
          rw [made, withTunnel_elsewhere env d peer refhim t older]
          exact same
  | newCall t =>
      intro memory member
      obtain ⟨⟨result, after⟩, ran, rfl⟩ := Option.map_eq_some_iff.mp done
      rcases addIncomingCall_some env t d after result ran with ⟨full, _⟩ | ⟨_, _, rfl⟩
      · rw [memory] at full
        cases full
      · have here := withLinkedCall_here env d t
        have made : ((withLinkedCall env d t).call d.fresh).ourcid = drawnId env d := by
          rw [withLinkedCall_made]
          exact if_neg (linked.own t member)
        have own : d.fresh ∈ ((withLinkedCall env d t).tunnel t).calls := by
          rw [here]
          exact List.mem_cons_self
        refine ⟨?_, fun c called same => ?_⟩
        · rw [← made]
          exact numbered.call t member d.fresh own
        · have older := Nat.ne_of_lt (linked.call_old c (linked.calls t member c called).1)
          refine older (numbered.calls t member c ?_ d.fresh own ?_)
          · rw [here]
            exact List.mem_cons_of_mem _ called
          · rw [made, withLinkedCall_call env d t c older]
            exact same
  | _ => trivial

theorem findSecure_numbered (env : Env) (d : Daemon) (numbered : Numbered d)
    (live : ∀ t ∈ d.tunnels, (d.tunnel t).live = true)
    (t : TunnelPtr) (member : t ∈ d.tunnels) (refhim : Nat)
    (secure : (d.tunnel t).answersTo env (d.tunnel t).ourtid refhim = true) (tunnels : List TunnelPtr)
    (inside : ∀ other ∈ tunnels, other ∈ d.tunnels) (listed : t ∈ tunnels) :
    findSecure env (d.tunnel t).ourtid refhim tunnels d = some (some t, d) := by
  induction tunnels with
  | nil => cases listed
  | cons head rest ih =>
      have known := inside head List.mem_cons_self
      have read : readTunnel head d = some (d.tunnel head, d) :=
        (readTunnel_some _ _ _ _).mpr ⟨live head known, rfl, rfl⟩
      rw [findSecure]
      refine (Prog.bind_some _ _ _ _ _).mpr ⟨_, _, read, ?_⟩
      by_cases answers : (d.tunnel head).answersTo env (d.tunnel t).ourtid refhim = true
      · have same : head = t := by
          refine numbered.tunnels head known t member ?_
          simp only [Tunnel.answersTo, Bool.and_eq_true, beq_iff_eq] at answers
          exact answers.1
        rw [if_pos answers, same]
        exact (Prog.pure_some _ _ _ _).mpr ⟨rfl, rfl⟩
      · rw [if_neg answers]
        refine ih (fun other later => inside other (List.mem_cons_of_mem _ later)) ?_
        rcases List.mem_cons.mp listed with rfl | later
        · exact (answers secure).elim
        · exact later

theorem findOurcid_numbered (d : Daemon) (calls : List CallPtr) (c : CallPtr) (called : c ∈ calls)
    (live : ∀ other ∈ calls, (d.call other).live = true)
    (apart : ∀ other ∈ calls, (d.call other).ourcid = (d.call c).ourcid → other = c) :
    findOurcid (d.call c).ourcid calls d = some (some c, d) := by
  induction calls with
  | nil => cases called
  | cons head rest ih =>
      have read : readCall head d = some (d.call head, d) :=
        (readCall_some _ _ _ _).mpr ⟨live head List.mem_cons_self, rfl, rfl⟩
      rw [findOurcid]
      refine (Prog.bind_some _ _ _ _ _).mpr ⟨_, _, read, ?_⟩
      by_cases same : (d.call head).ourcid = (d.call c).ourcid
      · rw [if_pos same, apart head List.mem_cons_self same]
        exact (Prog.pure_some _ _ _ _).mpr ⟨rfl, rfl⟩
      · rw [if_neg same]
        refine ih ?_ (fun other later => live other (List.mem_cons_of_mem _ later)) fun other later =>
          apart other (List.mem_cons_of_mem _ later)
        rcases List.mem_cons.mp called with rfl | later
        · exact (same rfl).elim
        · exact later

-- Every listed tunnel, and every call of it, is what get_call finds under its
-- numbers, whatever peer asks and whatever else there is. Under IPsec it asks
-- over the tunnel's own association.
def FoundByNumber (d : Daemon) : Prop :=
  ∀ (env : Env) (peer : SockAddr) (refhim : Nat), ∀ t ∈ d.tunnels,
    (d.tunnel t).answersTo env (d.tunnel t).ourtid refhim = true →
      getCall env (d.tunnel t).ourtid 0 peer refhim d = some ((d.tunnel t).self, d) ∧
      ∀ c ∈ (d.tunnel t).calls, getCall env (d.tunnel t).ourtid (d.call c).ourcid peer refhim d = some (some c, d)

theorem numbered_found (d : Daemon) (linked : Linked d) (numbered : Numbered d) : FoundByNumber d := by
  intro env peer refhim t member secure
  have found := findSecure_numbered env d numbered linked.live t member refhim secure d.tunnels
    (fun _ listed => listed) member
  have read : readTunnel t d = some (d.tunnel t, d) := (readTunnel_some _ _ _ _).mpr ⟨linked.live t member, rfl, rfl⟩
  have lookup (call : Nat) (answer : Option CallPtr)
      (last : (if call = 0 then return (d.tunnel t).self else findOurcid call (d.tunnel t).calls : Act (Option CallPtr))
        d =
        some (answer, d)) : getCall env (d.tunnel t).ourtid call peer refhim d = some (answer, d) := by
    unfold getCall
    rw [if_neg (numbered.tunnel t member)]
    refine (Prog.bind_some _ _ _ _ _).mpr ⟨d, d, rfl, (Prog.bind_some _ _ _ _ _).mpr ⟨some t, d, found, ?_⟩⟩
    exact (Prog.bind_some _ _ _ _ _).mpr ⟨_, _, read, last⟩
  refine ⟨lookup 0 _ rfl, fun c called => lookup _ _ ?_⟩
  rw [if_neg (numbered.call t member c called)]
  exact findOurcid_numbered d (d.tunnel t).calls c called (fun other listed => (linked.calls t member other listed).1)
    fun other listed same => numbered.calls t member other listed c called same

-- In every run whose draws are new, numbers tell everything apart. The run comes
-- apart into operations, and the condition is on each draw among them; it is
-- exact, for a draw that is not new shows at once.
theorem identifiers_unique (cfg : Config) (deflns : Option Lns) (lnslist : List Lns) (deflac : Option Lac)
    (laclist : List Lac)
    (visits : List (Daemon × Event)) (d : Daemon)
    (run : Run (next cfg) (initDaemon deflns lnslist deflac laclist) visits d) :
    (∃ turns, Breakdown cfg (initDaemon deflns lnslist deflac laclist) visits turns d) ∧
      ∀ turns, Breakdown cfg (initDaemon deflns lnslist deflac laclist) visits turns d →
        (Run.Meets (fun d turn => DrawsNew { toConfig := cfg, toWorld := turn.1 } d turn.2) turns ↔
          Run.Meets (fun d turn => ∀ d', performIn cfg d turn = some d' → Numbered d') turns) ∧
        (Run.Meets (fun d turn => DrawsNew { toConfig := cfg, toWorld := turn.1 } d turn.2) turns →
          Numbered d ∧ FoundByNumber d) := by
  refine ⟨run_breakdown (initDaemon_listed deflns lnslist deflac laclist) run, fun turns broken => ?_⟩
  have init : Linked (initDaemon deflns lnslist deflac laclist) ∧ Numbered (initDaemon deflns lnslist deflac laclist) :=
    ⟨linked_init _ _ _ _, numbered_init _ _ _ _⟩
  have step (d : Daemon) (turn : World × Op) (d' : Daemon) (kept : Linked d ∧ Numbered d)
      (new : DrawsNew { toConfig := cfg, toWorld := turn.1 } d turn.2) (done : performIn cfg d turn = some d') :
      Linked d' ∧ Numbered d' :=
    ⟨perform_linked _ d d' turn.2 kept.1 done, perform_numbered _ d d' turn.2 kept.1 kept.2 new done⟩
  refine ⟨⟨fun new => ?_, fun reached visit member => ?_⟩, fun new => ?_⟩
  · exact Run.each_step _ (fun d => Linked d ∧ Numbered d) init step _
      (fun d turn kept fresh d' done => (step d turn d' kept fresh done).2) (breakdown_run broken) new
  · obtain ⟨earlier, after, before, _, done⟩ := Run.visit_split (breakdown_run broken) visit member
    have linked : Linked visit.1 :=
      Run.invariant (fun _ _ => True) Linked init.1
        (fun d turn d' held _ done => perform_linked _ d d' turn.2 held done) before
        (Run.meets_always earlier)
    exact perform_drawsNew _ visit.1 after visit.2.2 linked (reached visit member after done) done
  · have both := Run.invariant _ (fun d => Linked d ∧ Numbered d) init step (breakdown_run broken) new
    exact ⟨both.2, numbered_found d both.1 both.2⟩

theorem identifiers_unique_strays :
    (Numbered twoStrays ∧ FoundByNumber twoStrays) ∧ twoStrays.tunnels = [2, 0] :=
  ⟨(identifiers_unique plainConfig none [] none [] _ twoStrays
    ((Run.start.snoc [] _ _ _ oneStray_moved).snoc _ _ _ _ twoStrays_moved)).2 strayTurns strays_breakdown |>.2
    (by decide +kernel),
    by rfl⟩

-- A source that says the same twice.
def dullWorld : World := { plainWorld with entropy := fun _ => 7 }

theorem identifiers_collide :
    ¬ ∀ (cfg : Config) (deflns : Option Lns) (lnslist : List Lns) (deflac : Option Lac) (laclist : List Lac)
      (visits : List (Daemon × Event)) (d : Daemon), Run (next cfg)
        (initDaemon deflns lnslist deflac laclist) visits d →
        Numbered d ∧ FoundByNumber d := by
  intro claimed
  have collided : (Run.play (next plainConfig) emptyDaemon [strayZlb dullWorld, strayZlb dullWorld]).any (fun d =>
      d.tunnels == [2, 0] && (d.tunnel 2).ourtid == (d.tunnel 0).ourtid) = true := by decide +kernel
  obtain ⟨d, played, facts⟩ := (Option.any_eq_true _ _).mp collided
  simp only [Bool.and_eq_true, beq_iff_eq] at facts
  have numbered := (claimed plainConfig none [] none [] _ d (Run.of_play _ d played)).1
  have same : 2 = 0 := numbered.tunnels 2 (by simp [facts.1]) 0 (by simp [facts.1]) facts.2
  cases same
end ZyAgf.Xl2tpd
