import ZyAgf.Xl2tpd.Addresses
import ZyAgf.Xl2tpd.IncomingCall
import ZyAgf.Xl2tpd.Lasts
import ZyAgf.Xl2tpd.SelfHeld

set_option autoImplicit false

namespace ZyAgf.Xl2tpd

def spent (d : Daemon) (ranges : List IpRange) : Bool := (getAddr d.uaddr ranges d).any fun found => found.1 == 0

-- The LNS entry of a tunnel gives an address to each of its calls, or takes a
-- local one for each, and has none left.
def lacksAddr (d : Daemon) (t : TunnelPtr) : Bool :=
  (d.tunnel t).lns.any fun l => (d.lns l).assignIp && spent d (d.lns l).range

def lacksLocal (d : Daemon) (t : TunnelPtr) : Bool :=
  (d.tunnel t).lns.any fun l => !(d.lns l).localrange.isEmpty && spent d (d.lns l).localrange

-- What an ICRQ asks for is refused to the call at the head of the list.
def refusesCall (d : Daemon) (t : TunnelPtr) (p : CallPtr) : Bool :=
  (d.call p).lns.isNone || decide ((d.call p).cid < 0) ||
    !((d.tunnel t).calls.tail.any fun z => (d.call z).cid == (d.call p).cid) && lacksAddr d t

theorem getAddr_anywhere (uaddr : List Nat) (ranges : List IpRange) (d₁ d₂ d : Daemon) (addr : Nat)
    (ran : getAddr uaddr ranges d₁ = some (addr, d₂)) : getAddr uaddr ranges d = some (addr, d) := by
  induction ranges with
  | nil => exact (Prog.pure_some _ _ _ _).mpr ⟨((Prog.pure_some _ _ _ _).mp ran).1, rfl⟩
  | cons r rest ih =>
      rw [getAddr] at ran ⊢
      split at ran
      next refused =>
        rw [if_pos refused]
        exact ih ran
      next allowed =>
        rw [if_neg allowed]
        split at ran
        next last =>
          rw [if_pos last]
          exact (deref_some _ _ _ _).mpr ⟨((deref_some _ _ _ _).mp ran).1, rfl⟩
        next inner =>
          rw [if_neg inner]
          cases found : scanAddr (fun x => !ipUsed uaddr x && lastSense rest x true) r.start (r.stop + 1 - r.start) with
          | some x =>
              rw [found] at ran
              obtain ⟨rfl, _⟩ := (Prog.pure_some _ _ _ _).mp ran
              rfl
          | none =>
              rw [found] at ran
              exact ih ran

theorem spent_of_getAddr (d d₁ d₂ : Daemon) (ranges : List IpRange) (same : d₁.uaddr = d.uaddr)
    (ran : getAddr d₁.uaddr ranges d₁ = some (0, d₂)) : spent d ranges = true := by
  unfold spent
  rw [← same, getAddr_anywhere _ _ _ _ d _ ran]
  rfl

theorem spent_same (d d' : Daemon) (ranges : List IpRange) (all : spent d' ranges = true) (uaddr : d'.uaddr = d.uaddr) :
    spent d ranges = true := by
  obtain ⟨⟨addr, after⟩, found, zero⟩ := (Option.any_eq_true _ _).mp all
  obtain rfl := beq_iff_eq.mp zero
  exact spent_of_getAddr d d' after _ uaddr found

theorem hasCid_some (cid : Int) (calls : List CallPtr) (d d' : Daemon) (twice : Bool)
    (ran : hasCid cid calls d = some (twice, d')) :
    d' = d ∧ twice = calls.any fun z => (d.call z).cid == cid := by
  induction calls with
  | nil =>
      obtain ⟨rfl, rfl⟩ := (Prog.pure_some _ _ _ _).mp ran
      exact ⟨rfl, rfl⟩
  | cons z rest ih =>
      rw [hasCid] at ran
      obtain ⟨cal, d₁, read, ran⟩ := (Prog.bind_some _ _ _ _ _).mp ran
      obtain ⟨_, rfl, rfl⟩ := (readCall_some _ _ _ _).mp read
      split at ran
      next same =>
        obtain ⟨rfl, rfl⟩ := (Prog.pure_some _ _ _ _).mp ran
        exact ⟨rfl, by simp [same]⟩
      next other =>
        obtain ⟨rfl, rfl⟩ := ih ran
        exact ⟨rfl, by simp [other]⟩

-- The ties are as they were, and the calls that were open are.
structure Prepared (d d' : Daemon) : Prop where
  tied : Tied d d'
  closing : ∀ c, (d'.call c).closing = (d.call c).closing

instance : Prog.Steady Prepared where
  refl d := ⟨Prog.Steady.refl d, fun _ => rfl⟩
  trans _ _ _ first second := ⟨Prog.Steady.trans _ _ _ first.tied second.tied, fun c =>
    (second.closing c).trans (first.closing c)⟩

theorem setCall_prepared (c : CallPtr) (change : Call → Call)
    (keeps : ∀ cal, (change cal).ties = cal.ties ∧ (change cal).closing = cal.closing) : Prog.Within Prepared
    (setCall c change) := by
  intro d u d' ran
  have tied := setCall_tied c change (fun cal => ⟨(keeps cal).1, fun closing => (keeps cal).2.trans closing⟩) d u d' ran
  obtain ⟨_, rfl⟩ := (setCall_some _ _ _ _ _).mp ran
  exact ⟨tied, write_same d.call Call.closing c (change (d.call c)) (keeps _).2⟩

theorem setError_prepared (c : CallPtr) (error : Int) (message : CString) : Prog.Within Prepared
    (setError c error message) :=
  setCall_prepared c _ fun _ => ⟨rfl, rfl⟩

theorem assignAddr_refused (t : TunnelPtr) (p : CallPtr) (d d' : Daemon) (ran : assignAddr t p d = some (false, d')) :
    Prepared d d' ∧ lacksAddr d t = true := by
  unfold assignAddr at ran
  obtain ⟨tun, d₁, read, ran₁⟩ := (Prog.bind_some _ _ _ _ _).mp ran
  obtain ⟨_, rfl, rfl⟩ := (readTunnel_some _ _ _ _).mp read
  obtain ⟨l, d₂, chosen, ran₂⟩ := (Prog.bind_some _ _ _ _ _).mp ran₁
  obtain ⟨own, rfl⟩ := (deref_some _ _ _ _).mp chosen
  obtain ⟨lns, d₃, opened, ran⟩ := (Prog.bind_some _ _ _ _ _).mp ran₂
  obtain ⟨_, rfl, rfl⟩ := (readLns_some _ _ _ _).mp opened
  split at ran
  next =>
    obtain ⟨_, _, _, ran⟩ := (Prog.bind_some _ _ _ _ _).mp ran
    cases ((Prog.pure_some _ _ _ _).mp ran).1
  next gives =>
    obtain ⟨_, _, got, ran⟩ := (Prog.bind_some _ _ _ _ _).mp ran
    obtain ⟨rfl, rfl⟩ := (Prog.get_some _ _ _).mp got
    obtain ⟨addr, d₄, found, ran₃⟩ := (Prog.bind_some _ _ _ _ _).mp ran
    obtain ⟨rfl, _⟩ := getAddr_some _ _ _ d₄ addr found
    obtain ⟨_, d₅, assigned, ran⟩ := (Prog.bind_some _ _ _ _ _).mp ran₃
    have prepared := setCall_prepared p (fun cal => { cal with addr := addr }) (fun _ => ⟨rfl, rfl⟩) d₄ _ d₅ assigned
    split at ran
    next none' =>
      obtain ⟨_, rfl⟩ := (Prog.pure_some _ _ _ _).mp ran
      subst none'
      refine ⟨prepared, ?_⟩
      unfold lacksAddr
      rw [own, Option.any_some, spent_of_getAddr d₄ d₄ d₄ _ rfl found]
      simpa using gives
    next =>
      obtain ⟨_, _, _, ran⟩ := (Prog.bind_some _ _ _ _ _).mp ran
      cases ((Prog.pure_some _ _ _ _).mp ran).1

theorem getLocalAddr_some (env : Env) (t : TunnelPtr) (c : CallPtr) (d d' : Daemon) (full : Int)
    (ran : getLocalAddr env t c d = some (full, d')) :
    Tied d d' ∨ lacksLocal d t = true ∧ ∃ d₁, Prepared d d₁ ∧ closeRefused env c d₁ = some (full, d') := by
  unfold getLocalAddr at ran
  obtain ⟨tun, d₁, read, ran₁⟩ := (Prog.bind_some _ _ _ _ _).mp ran
  obtain ⟨_, rfl, rfl⟩ := (readTunnel_some _ _ _ _).mp read
  obtain ⟨l, d₂, chosen, ran₂⟩ := (Prog.bind_some _ _ _ _ _).mp ran₁
  obtain ⟨own, rfl⟩ := (deref_some _ _ _ _).mp chosen
  obtain ⟨lns, d₃, opened, ran₃⟩ := (Prog.bind_some _ _ _ _ _).mp ran₂
  obtain ⟨_, rfl, rfl⟩ := (readLns_some _ _ _ _).mp opened
  split at ran₃
  next =>
    obtain ⟨_, rfl⟩ := (Prog.pure_some _ _ _ _).mp ran₃
    exact .inl (Prog.Steady.refl _)
  next ranged =>
    obtain ⟨_, _, got, ran₄⟩ := (Prog.bind_some _ _ _ _ _).mp ran₃
    obtain ⟨rfl, rfl⟩ := (Prog.get_some _ _ _).mp got
    obtain ⟨addr, d₄, found, ran₅⟩ := (Prog.bind_some _ _ _ _ _).mp ran₄
    obtain ⟨rfl, _⟩ := getAddr_some _ _ _ d₄ addr found
    obtain ⟨cal, d₅, looked, ran₆⟩ := (Prog.bind_some _ _ _ _ _).mp ran₅
    obtain ⟨_, rfl, rfl⟩ := (readCall_some _ _ _ _).mp looked
    obtain ⟨mine, d₆, derefed, ran₇⟩ := (Prog.bind_some _ _ _ _ _).mp ran₆
    obtain ⟨_, rfl⟩ := (deref_some _ _ _ _).mp derefed
    obtain ⟨_, d₇, noted, ran₈⟩ := (Prog.bind_some _ _ _ _ _).mp ran₇
    have tied := setLns_tied mine (fun lns => { lns with localaddr := addr }) (fun _ => rfl) d₆ _ d₇ noted
    obtain ⟨_, rfl⟩ := (setLns_some _ _ _ _ _).mp noted
    split at ran₈
    next none' =>
      subst none'
      obtain ⟨_, d₈, refused, closed⟩ := (Prog.bind_some _ _ _ _ _).mp ran₈
      refine .inr ⟨?_, d₈, Prog.Steady.trans _ _ _ ⟨tied, fun _ => rfl⟩ (setError_prepared c _ _ _ _ d₈ refused),
        closed⟩
      unfold lacksLocal
      rw [own, Option.any_some, spent_of_getAddr d₆ d₆ d₆ _ rfl found]
      simpa using ranged
    next =>
      refine .inl (Prog.Steady.trans _ _ _ tied ?_)
      exact Prog.within_bind (reserveAddr_tied addr) (fun _ => Prog.within_pure _ _) _ full d' ran₈

-- A call, or the own entry of a tunnel, and the tunnel it came with: neither has
-- been destroyed.
structure Present (d : Daemon) (t : TunnelPtr) (c : CallPtr) : Prop where
  tunnel : (d.tunnel t).live = true
  call : (d.call c).live = true

instance (d : Daemon) (t : TunnelPtr) (c : CallPtr) : Decidable (Present d t c) :=
  decidable_of_iff ((d.tunnel t).live = true ∧ (d.call c).live = true)
    ⟨fun h => ⟨h.1, h.2⟩, fun h => ⟨h.tunnel, h.call⟩⟩

structure Settling (t : TunnelPtr) (c : CallPtr) (d : Daemon) : Prop where
  present : Present d t c
  old : t < d.fresh ∧ c < d.fresh

def Remains (t : TunnelPtr) (c : CallPtr) (d d' : Daemon) : Prop := Settling t c d → Settling t c d'

instance (t : TunnelPtr) (c : CallPtr) : Prog.Steady (Remains t c) where
  refl _ := id
  trans _ _ _ first second := second ∘ first

abbrev Lives : Daemon → Daemon → Prop := Lasts Tunnel.live Call.live

theorem plain_live : Plain Tunnel.live Call.live :=
    ⟨fun _ _ same live => same.trans live, fun _ _ same _ _ live => same.trans live⟩

theorem tied_lives (d d' : Daemon) (tied : Tied d d') : Lives d d' := tied_lasts plain_live d d' tied

section Remaining

variable {t : TunnelPtr} {c : CallPtr}

theorem lives_remains (d d' : Daemon) (lives : Lives d d') : Remains t c d d' := fun settling =>
  ⟨⟨lives.tunnel t settling.old.1 settling.present.tunnel, lives.call c settling.old.2 settling.present.call⟩,
    Nat.lt_of_lt_of_le settling.old.1 lives.grows, Nat.lt_of_lt_of_le settling.old.2 lives.grows⟩

theorem tied_remains (d d' : Daemon) (tied : Tied d d') : Remains t c d d' := lives_remains d d' (tied_lives d d' tied)

theorem destroyCall_remains (env : Env) (p : CallPtr) (other : p ≠ c) (d d' : Daemon) (u : PUnit)
    (ran : destroyCall env p d = some (u, d')) : Remains t c d d' := by
  intro settling
  obtain ⟨_, _, rest, grows, rfl⟩ := destroyCall_some env p d d' u ran
  refine ⟨⟨?_, ?_⟩, Nat.lt_of_lt_of_le settling.old.1 grows, Nat.lt_of_lt_of_le settling.old.2 grows⟩
  · refine (write_same d.tunnel Tunnel.live (d.call p).container { d.tunnel (d.call p).container with
      calls := (d.tunnel (d.call p).container).calls.erase p } rfl t).trans settling.present.tunnel
  · exact (congrArg Call.live (write_elsewhere d.call p c _ (Ne.symm other))).trans settling.present.call

theorem callClose_open (env : Env) (retries : 0 < env.maxRetries) (depth : Nat) (p : CallPtr) (d d' : Daemon)
    (u : PUnit)
    (notOwn : (d.tunnel (d.call p).container).self ≠ some p) (isOpen : (d.call p).closing = false)
    (ran : callClose env depth p d = some (u, d')) : Tied d d' := by
  cases depth with
  | zero =>
      rw [callClose] at ran
      exact ((Prog.wrong_some _ _ _).mp ran).elim
  | succ depth =>
      rw [callClose] at ran
      obtain ⟨cal, d₁, read, ran₁⟩ := (Prog.bind_some _ _ _ _ _).mp ran
      obtain ⟨_, rfl, rfl⟩ := (readCall_some _ _ _ _).mp read
      obtain ⟨tun, d₂, looked, ran₂⟩ := (Prog.bind_some _ _ _ _ _).mp ran₁
      obtain ⟨_, rfl, rfl⟩ := (readTunnel_some _ _ _ _).mp looked
      rw [if_neg notOwn, if_neg (by rw [isOpen]; exact Bool.false_ne_true)] at ran₂
      unfold newOutgoing addControlHdr at ran₂
      simp only [bind_assoc, pure_bind] at ran₂
      refine Prog.within_bind (noteCloseSs_within tiesOnly_tied _ p) (fun _ => ?_) d₂ u d' ran₂
      refine Prog.within_bind (cdnBody_within tiesOnly_tied env _ p) fun body =>
        Prog.within_bind (readTunnel_within _ _) fun tun => ?_
      refine Prog.within_bind (readTunnel_within _ _) fun _ => Prog.within_bind (readCall_within _ p) fun _ => ?_
      refine Prog.within_bind (setTunnel_tied _ _ fun _ => rfl) fun _ =>
        Prog.within_bind (controlXmit_tied env _ _ ?_) fun _ => ?_
      · exact retries
      · exact setCall_tied p _ fun _ => ⟨rfl, fun _ => rfl⟩

theorem closeRefused_remains (env : Env) (p : CallPtr) (d d' : Daemon) (result : Int)
    (notOwn : (d.tunnel (d.call p).container).self ≠ some p) (spare : (d.call p).closing = false → 0 < env.maxRetries)
    (isOpen : p = c → (d.call p).closing = false) (ran : closeRefused env p d = some (result, d')) : Remains t c d
    d' := by
  unfold closeRefused at ran
  obtain ⟨_, d₁, closed, ran⟩ := (Prog.bind_some _ _ _ _ _).mp ran
  obtain ⟨_, rfl⟩ := (Prog.pure_some _ _ _ _).mp ran
  cases closing : (d.call p).closing with
  | false => exact tied_remains _ _ (callClose_open env (spare closing) env.fuel p d d₁ _ notOwn closing closed)
  | true =>
      have other : p ≠ c := fun same => absurd (isOpen same) (by simp [closing])
      cases fuel : env.fuel with
      | zero =>
          rw [fuel, callClose] at closed
          exact ((Prog.wrong_some _ _ _).mp closed).elim
      | succ depth =>
          rw [fuel, callClose] at closed
          obtain ⟨cal, e₁, read, ran₁⟩ := (Prog.bind_some _ _ _ _ _).mp closed
          obtain ⟨_, rfl, rfl⟩ := (readCall_some _ _ _ _).mp read
          obtain ⟨tun, e₂, looked, ran₂⟩ := (Prog.bind_some _ _ _ _ _).mp ran₁
          obtain ⟨_, rfl, rfl⟩ := (readTunnel_some _ _ _ _).mp looked
          rw [if_neg notOwn, if_pos closing] at ran₂
          exact destroyCall_remains env p other e₂ d₁ _ ran₂

end Remaining

-- What control_finish must find for the call it was given to outlive it: a
-- message it sends may be sent once, and a call that it refuses to set up is not
-- the one it was given or is not closing yet.
def Spares (maxRetries : Int) (d : Daemon) (t : TunnelPtr) (c : CallPtr) : Prop :=
  match Msg.ofCode (d.call c).msgtype with
  | some .SCCRQ | some .SCCRP | some .ICRP => 0 < maxRetries
  | some .ICRQ => 0 < maxRetries ∧
      ((d.tunnel t).calls.head? = some c → (d.call c).closing = true → refusesCall d t c = false)
  | some .ICCN => (d.tunnel t).self = some c ∨ lacksLocal d t = false ∨ (d.call c).closing = false ∧ 0 < maxRetries
  | _ => (d.call c).msgtype = 0 → 0 < maxRetries

instance (maxRetries : Int) (d : Daemon) (t : TunnelPtr) (c : CallPtr) : Decidable (Spares maxRetries d t c) := by
  unfold Spares
  split <;> infer_instance

section Finishing

variable {env : Env} {t : TunnelPtr} {c : CallPtr}

theorem sends_lives (retries : 0 < env.maxRetries) : Sends env Lives := sends_weaken tied_lives (sends_tied env retries)

theorem head_notOwn (d : Daemon) (filed : Filed d) (p : CallPtr) (head : (d.tunnel t).calls.head? = some p) :
    (d.tunnel (d.call p).container).self ≠ some p := by
  have member := List.mem_of_mem_head? head
  rw [(filed.container t p member).1]
  exact fun own => (filed.self t p own).2 member

theorem prepared_notOwn (d d' : Daemon) (prepared : Prepared d d') (p : CallPtr)
    (notOwn : (d.tunnel (d.call p).container).self ≠ some p) : (d'.tunnel (d'.call p).container).self ≠ some p := by
  have container : (d'.call p).container = (d.call p).container :=
    congrArg (fun ties => ties.2.1) (prepared.tied.call p)
  have self : (d'.tunnel (d.call p).container).self = (d.tunnel (d.call p).container).self :=
    congrArg (fun ties => ties.2.2.1) (prepared.tied.tunnel _)
  rw [container, self]
  exact notOwn

theorem finishICRQ_remains (retries : 0 < env.maxRetries) (d d' : Daemon) (result : Int) (filed : Filed d)
    (spares : (d.tunnel t).calls.head? = some c → (d.call c).closing = true → refusesCall d t c = false)
    (ran : finishICRQ env t d = some (result, d')) : Remains t c d d' := by
  unfold finishICRQ at ran
  obtain ⟨tun, d₁, read, ran₁⟩ := (Prog.bind_some _ _ _ _ _).mp ran
  obtain ⟨_, rfl, rfl⟩ := (readTunnel_some _ _ _ _).mp read
  obtain ⟨p, d₂, first, ran₂⟩ := (Prog.bind_some _ _ _ _ _).mp ran₁
  obtain ⟨head, rfl⟩ := (deref_some _ _ _ _).mp first
  obtain ⟨cal, d₃, looked, ran₃⟩ := (Prog.bind_some _ _ _ _ _).mp ran₂
  obtain ⟨live, rfl, rfl⟩ := (readCall_some _ _ _ _).mp looked
  have refuses (e e' : Daemon) (prepared : Prepared d₃ e) (refused : refusesCall d₃ t p = true)
      (closed : closeRefused env p e = some (result, e')) : Remains t c d₃ e' := by
    refine Prog.Steady.trans _ _ _ (tied_remains _ _ prepared.tied) ?_
    refine closeRefused_remains env p e e' result (prepared_notOwn d₃ e prepared p (head_notOwn d₃ filed p head))
      (fun _ => retries)
      (fun same => ?_) closed
    subst same
    rw [prepared.closing p]
    refine Bool.eq_false_iff.mpr fun closing => ?_
    rw [spares head closing] at refused
    cases refused
  cases served : (d₃.call p).lns with
  | none =>
      rw [served] at ran₃
      obtain ⟨_, d₄, noted, ran₄⟩ := (Prog.bind_some _ _ _ _ _).mp ran₃
      exact refuses d₄ d' (setError_prepared p _ _ d₃ _ d₄ noted) (by simp [refusesCall, served]) ran₄
  | some l =>
      rw [served] at ran₃
      obtain ⟨lns, d₄, opened, ran₄⟩ := (Prog.bind_some _ _ _ _ _).mp ran₃
      obtain ⟨_, rfl, rfl⟩ := (readLns_some _ _ _ _).mp opened
      obtain ⟨_, d₅, lengths, ran₅⟩ := (Prog.bind_some _ _ _ _ _).mp ran₄
      have prepared := setCall_prepared p (fun cal => { cal with lbit := (d₄.lns l).lbit })
        (fun _ => ⟨rfl, rfl⟩) d₄ _ d₅ lengths
      obtain ⟨_, rfl⟩ := (setCall_some _ _ _ _ _).mp lengths
      split at ran₅
      next unnumbered => exact refuses _ d' prepared (by simp [refusesCall, unnumbered]) ran₅
      next numbered =>
        obtain ⟨twice, d₆, scanned, ran₆⟩ := (Prog.bind_some _ _ _ _ _).mp ran₅
        obtain ⟨rfl, same⟩ := hasCid_some _ _ _ d₆ twice scanned
        cases twice with
        | true =>
            refine Prog.Steady.trans _ _ _ (tied_remains _ _ prepared.tied) ?_
            rw [if_pos rfl] at ran₆
            refine Prog.within_weaken _ _ _ tied_remains ?_ _ result d' ran₆
            exact Prog.within_bind (setCall_tied p _ fun _ => ⟨rfl, fun _ => rfl⟩) fun _ => Prog.within_pure _ _
        | false =>
            rw [if_neg Bool.false_ne_true] at ran₆
            obtain ⟨assigned, d₇, tried, ran₇⟩ := (Prog.bind_some _ _ _ _ _).mp ran₆
            cases assigned with
            | false =>
                obtain ⟨tried, lacks⟩ := assignAddr_refused t p _ d₇ tried
                rw [if_pos Bool.false_ne_true] at ran₇
                obtain ⟨_, d₈, noted, ran₈⟩ := (Prog.bind_some _ _ _ _ _).mp ran₇
                refine refuses d₈ d' ?_ ?_ ran₈
                · exact Prog.Steady.trans _ _ _ prepared
                    (Prog.Steady.trans _ _ _ tried (setError_prepared p _ _ d₇ _ d₈ noted))
                · have fresh : (d₄.tunnel t).calls.tail.any (fun z => (d₄.call z).cid == (d₄.call p).cid) = false := by
                    rw [same]
                    exact congrArg _ (funext
                      fun z => by rw [write_same d₄.call Call.cid p { d₄.call p with lbit := (d₄.lns l).lbit } rfl z])
                  have short : lacksAddr d₄ t = true := by
                    obtain ⟨own, served, gives⟩ := (Option.any_eq_true _ _).mp lacks
                    simp only [Bool.and_eq_true] at gives
                    exact (Option.any_eq_true _ _).mpr ⟨own, served, by simp [gives.1, spent_same d₄ _ _ gives.2 rfl]⟩
                  simp [refusesCall, fresh, short]
            | true =>
                rw [if_neg (not_not_intro rfl)] at ran₇
                refine Prog.Steady.trans _ _ _ (tied_remains _ _ prepared.tied) ?_
                refine Prog.Steady.trans _ _ _ (tied_remains _ _ (assignAddr_tied t p _ true d₇ tried)) ?_
                refine Prog.within_weaken _ _ _ tied_remains ?_ d₇ result d' ran₇
                refine Prog.within_bind (setCall_tied p _ fun _ => ⟨rfl, id⟩) fun _ => ?_
                refine Prog.within_bind (addRandvect_within tiesOnly_tied env t) fun vector => ?_
                exact Prog.within_bind (sendControl_tied env retries t p _) fun _ => Prog.within_pure _ _

theorem finishICCN_remains (d d' : Daemon) (result : Int) (inside : (d.call c).container = t)
    (spares : (d.tunnel t).self = some c ∨ lacksLocal d t = false ∨ (d.call c).closing = false ∧ 0 < env.maxRetries)
    (ran : finishICCN env t c d = some (result, d')) : Remains t c d d' := by
  have tiesOnly := tiesOnly_weaken (tied_remains (t := t) (c := c)) tiesOnly_tied
  unfold finishICCN at ran
  obtain ⟨tun, d₁, read, ran₁⟩ := (Prog.bind_some _ _ _ _ _).mp ran
  obtain ⟨_, rfl, rfl⟩ := (readTunnel_some _ _ _ _).mp read
  split at ran₁
  next =>
    obtain ⟨_, rfl⟩ := (Prog.pure_some _ _ _ _).mp ran₁
    exact Prog.Steady.refl _
  next notOwn =>
    obtain ⟨_, d₂, raised, ran₂⟩ := (Prog.bind_some _ _ _ _ _).mp ran₁
    obtain ⟨full, d₃, took, ran₃⟩ := (Prog.bind_some _ _ _ _ _).mp ran₂
    have prepared := setCall_prepared c (fun cal => { cal with state := some .ICCN })
      (fun _ => ⟨rfl, rfl⟩) d₁ _ d₂ raised
    obtain ⟨_, rfl⟩ := (setCall_some _ _ _ _ _).mp raised
    have takes : Remains t c d₁ d₃ := by
      refine Prog.Steady.trans _ _ _ (tied_remains _ _ prepared.tied) ?_
      rcases getLocalAddr_some env t c _ d₃ full took with tied | ⟨lacks, d₄, closing, closed⟩
      · exact tied_remains _ _ tied
      · refine Prog.Steady.trans _ _ _ (tied_remains _ _ closing.tied) ?_
        obtain ⟨isOpen, retries⟩ := (spares.resolve_left notOwn).resolve_left fun enough => by
          obtain ⟨own, served, ranged⟩ := (Option.any_eq_true _ _).mp lacks
          simp only [Bool.and_eq_true] at ranged
          have short : lacksLocal d₁ t = true :=
            (Option.any_eq_true _ _).mpr ⟨own, served, by simp [ranged.1, spent_same d₁ _ _ ranged.2 rfl]⟩
          rw [enough] at short
          cases short
        have whole := Prog.Steady.trans _ _ _ prepared closing
        refine closeRefused_remains env c d₄ d₃ full (prepared_notOwn d₁ d₄ whole c (inside ▸ notOwn))
          (fun _ => retries) (fun _ => ?_) closed
        rw [whole.closing c]
        exact isOpen
    refine Prog.Steady.trans _ _ _ takes ?_
    refine Prog.within_ite _ _ _ _ (fun _ => Prog.within_pure _ _) (fun _ => ?_) d₃ result d' ran₃
    refine Prog.within_bind (readCall_within _ c) fun cal => Prog.within_bind (deref_within _ cal.lns) fun l => ?_
    refine Prog.within_bind (readLns_within _ l) fun lns => ?_
    exact Prog.within_bind (startPppd_within tiesOnly env c _) fun _ => Prog.within_pure _ _

theorem controlFinish_remains (d d' : Daemon) (result : Int) (filed : Filed d) (inside : (d.call c).container = t)
    (spares : Spares env.maxRetries d t c) (ran : controlFinish env t c d = some (result, d')) : Remains t c d d' := by
  have tiesOnly := tiesOnly_weaken (tied_remains (t := t) (c := c)) tiesOnly_tied
  have raises := raises_of_tied tied_lives t
  have challenges := challenges_of_tied tied_lives t
  unfold Spares at spares
  refine controlFinish_leads (Prog.Leads.self _) tiesOnly.admits ran (fun zero ran => ?_) (fun type ran => ?_)
    (fun type ran => ?_) (fun type ran => ?_)
    (fun type ran => ?_) (fun type ran => ?_) fun type ran => ?_
  · have retries : 0 < env.maxRetries := by
      rw [zero] at spares
      exact spares rfl
    exact lives_remains _ _ ((dials_lasts plain_live env (sends_lives retries)).initiates t c d result d' ran)
  · rw [type] at spares
    exact lives_remains _ _ (finishSCCRQ_within ((sends_lives spares).on t c) (raises _) challenges
      (fun d chosen _ _ => chooses_lasts plain_live t d chosen) d result d' ran)
  · rw [type] at spares
    have dials (lac : Option LacPtr) : Prog.Within Lives (dialLac env lac) := by
      cases lac with
      | none => exact Prog.within_pure _ _
      | some l => exact magicLacDial_dials (dials_lasts plain_live env (sends_lives spares)) l (setLac_lasts l _)
    exact lives_remains _ _ (finishSCCRP_within ((sends_lives spares).on t c)
      (raises _) challenges dials d result d' ran)
  · exact finishSCCCN_within tiesOnly (raises_of_tied tied_remains t _) c d result d' ran
  · rw [type] at spares
    exact finishICRQ_remains spares.1 d d' result filed spares.2 ran
  · rw [type] at spares
    exact lives_remains _ _ (finishICRP_within ((sends_lives spares).on t c)
      (raisesCall_of_tied tied_lives c _) d result d' ran)
  · rw [type] at spares
    exact finishICCN_remains d d' result inside spares ran

end Finishing

-- What get_call or get_tunnel finds for a datagram is there, and it is there
-- still when the datagram has been handled.
def Survives (cfg : Config) (d : Daemon) (event : Event) : Prop :=
  ∀ peer refhim datagram buf found c, event.occurs = .datagram peer refhim datagram →
    (Delivered { toConfig := cfg, toWorld := event.world } d peer refhim datagram buf found c →
      Present found (found.call c).container c ∧
      ∀ result after, handlePacket { toConfig := cfg, toWorld := event.world } buf (found.call c).container c
        { found with
          tunnel := write found.tunnel (found.call c).container
            (withoutVector (found.tunnel (found.call c).container)) } =
          some (result, after) → Present after (found.call c).container c) ∧
    (DeliveredToSelf { toConfig := cfg, toWorld := event.world } d peer refhim datagram buf found c →
      Present found (found.call c).container c ∧
      ∀ result after, handleSpecial buf c (extract buf.mem).2 found = some (result, after) →
        Present after (found.call c).container c)

-- What a message has control_finish do spares the call it came on.
def SparesHandled (cfg : Config) (d : Daemon) (event : Event) : Prop :=
  ∀ p ∈ presentation cfg d event, p.hears = true →
    ∀ ended ∈ handleAvps { toConfig := cfg, toWorld := event.world } p.t p.c p.buf p.heard, ended.1 = 0 →
      Spares cfg.maxRetries ended.2 p.t p.c

instance (cfg : Config) (d : Daemon) (event : Event) : Decidable (SparesHandled cfg d event) :=
  inferInstanceAs (Decidable (∀ p ∈ _, _))

section Handled

variable (cfg : Config) (d : Daemon) (event : Event)

theorem heard_remains (p : Presentation) (result : Int) (final : Daemon) (presented : presentation cfg d event = some p)
    (hears : p.hears = true) (selfHeld : SelfHeld p.found) (old : p.c < p.found.fresh)
    (spares : SparesHandled cfg d event)
    (ran : (do
      let failed ← handleAvps { toConfig := cfg, toWorld := event.world } p.t p.c p.buf
      if failed ≠ 0 then return einval else controlFinish { toConfig := cfg, toWorld := event.world } p.t p.c : Act Int)
        p.heard =
        some (result, final)) : Remains p.t p.c p.found final := by
  have heard := heard_tied p
  obtain ⟨failed, after, parsed, finished⟩ := (Prog.bind_some _ _ _ _ _).mp ran
  refine Prog.Steady.trans _ _ _ (tied_remains _ _ heard) ?_
  refine Prog.Steady.trans _ _ _ (lives_remains _ _
    (handleAvps_lasts plain_live _ p.t p.c p.buf p.heard failed after parsed)) ?_
  by_cases bad : failed ≠ 0
  · rw [if_pos bad] at finished
    obtain ⟨_, rfl⟩ := (Prog.pure_some _ _ _ _).mp finished
    exact Prog.Steady.refl _
  · rw [if_neg bad] at finished
    obtain rfl := not_not.mp bad
    have filed : Filed after :=
      (handleAvps_works (works_holdsSelf _) p.t p.c p.buf p.heard 0 after parsed
        (tied_holdsSelf _ _ heard selfHeld)).filed
    have inside : (after.call p.c).container = p.t := by
      have plain : Plain (fun _ => false) fun cal : Call => cal.container == p.t :=
        ⟨fun _ _ _ => id, fun _ _ _ same _ inside => by rw [same]; exact inside⟩
      have kept := (handleAvps_lasts plain _ p.t p.c p.buf p.heard 0 after parsed).call p.c (heard.fresh ▸ old)
      exact beq_iff_eq.mp (kept (beq_iff_eq.mpr (congrArg (fun ties => ties.2.1) (heard.call p.c))))
    exact controlFinish_remains after final result filed inside (spares p presented hears _ parsed rfl) finished

theorem survives_step (settled : Settled d) (selfHeld : SelfHeld d)
    (spares : SparesHandled cfg d event) : Survives cfg d event := by
  intro peer refhim datagram buf found c occurs
  have finds (answer : Option CallPtr)
      (looked : getCall { toConfig := cfg, toWorld := event.world } (extract buf.mem).1
        (extract buf.mem).2 peer refhim d =
        some (answer, found)) : Linked found ∧ SelfHeld found := by
    have performed : Performed _ (fun _ => True) d found := getCall_performed _ _ peer refhim trivial d _ found looked
    exact ⟨(settled_of_performed _ _ d found settled performed).1,
      getCall_works (works_holdsSelf _) _ _ peer refhim d _ found looked selfHeld⟩
  constructor
  · intro delivered
    have looked := delivered.lookup
    obtain ⟨linked, held⟩ := finds _ looked
    have listed := getCall_listed _ _ _ peer refhim d found c settled looked
    have live := getCall_live _ _ _ peer refhim d found c settled selfHeld looked
    have settling : Settling (found.call c).container c found :=
      ⟨⟨linked.live _ listed, live⟩, held.listed.2 _ listed, linked.call_old c live⟩
    refine ⟨settling.present, fun result after handled => ?_⟩
    suffices remains : Remains (found.call c).container c found after from (remains settling).present
    have drops : Tied found { found with
        tunnel := write found.tunnel (found.call c).container
          (withoutVector (found.tunnel (found.call c).container)) } :=
      setTunnel_tied (found.call c).container withoutVector (fun _ => rfl) found PUnit.unit _
        ((setTunnel_some _ _ _ _ _).mpr ⟨linked.live _ listed, rfl⟩)
    by_cases control : CTBIT (hostWord buf.mem 0) = true
    · rw [handlePacket_control _ _ _ _ control] at handled
      have presented := delivered_presented cfg d found event peer refhim datagram buf c occurs delivered control
      cases passed : inOrderOk buf (found.tunnel (found.call c).container) && !isZlb buf with
      | false =>
          refine tied_remains _ _ (Prog.Steady.trans _ _ _ drops (handleControl_tied ?_ handled))
          simpa [write_here] using passed
      | true =>
          simp only [Bool.and_eq_true, Bool.not_eq_true'] at passed
          have hears : Presentation.hears ⟨true, buf, found, c⟩ = true := by
            simp [Presentation.hears, Presentation.tun, Presentation.t, passed]
          refine heard_remains cfg d event ⟨true, buf, found, c⟩ result after presented hears held settling.old.2 spares
            ?_
          exact handleControl_hears ⟨true, buf, found, c⟩ _ result after passed.1 passed.2 handled
    · unfold handlePacket at handled
      rw [if_neg control] at handled
      exact tied_remains _ _ (Prog.Steady.trans _ _ _ drops
        (handlePayload_within tiesOnly_tied buf _ c _ result after handled))
  · intro delivered
    obtain ⟨linked, held⟩ := finds _ delivered.lookup
    obtain ⟨t, listed, own⟩ := getTunnel_own _ found found c delivered.own
    obtain ⟨live, inside⟩ := held.own t listed c own
    have settling : Settling (found.call c).container c found := by
      rw [inside]
      exact ⟨⟨linked.live t listed, live⟩, held.listed.2 t listed, linked.call_old c live⟩
    refine ⟨settling.present, fun result after handled => ?_⟩
    exact (tied_remains _ _ (handleSpecial_within tiesOnly_tied checkControl_tied buf c _ found result after handled)
      settling).present

end Handled

-- Wherever a run has got to, a datagram whose message spares what it came on
-- leaves it there.
theorem handled_call_survives (cfg : Config) (deflns : Option Lns) (lnslist : List Lns) (deflac : Option Lac)
    (laclist : List Lac)
    {visits : List (Daemon × Event)} {d : Daemon}
    (run : Run (next cfg) (initDaemon deflns lnslist deflac laclist) visits d)
    (event : Event) (spares : SparesHandled cfg d event) : Survives cfg d event :=
  survives_step cfg d event (run_settled cfg deflns lnslist deflac laclist run)
    (run_selfHeld cfg deflns lnslist deflac laclist run) spares

-- The call a tunnel is asked for is connected.
theorem handled_call_survives_connected :
    ∃ visits d, Run (next plainConfig) (initDaemon none [poolLns] none []) visits d ∧ visits.length = 3 ∧
      (presentation plainConfig d (onTunnel 1027 3 (addMessageTypeAvp .ICCN))).any Presentation.hears = true ∧
      Survives plainConfig d (onTunnel 1027 3 (addMessageTypeAvp .ICCN)) := by
  have seen : (Run.play (next plainConfig) (initDaemon none [poolLns] none []) (connects.take 3)).any (fun d =>
      decide (SparesHandled plainConfig d (onTunnel 1027 3 (addMessageTypeAvp .ICCN))) &&
        (Run.trace (next plainConfig) (initDaemon none [poolLns] none []) (connects.take 3)).length == 3 &&
          (presentation plainConfig d (onTunnel 1027 3 (addMessageTypeAvp .ICCN))).any Presentation.hears) = true := by
    decide +kernel
  obtain ⟨d, played, facts⟩ := (Option.any_eq_true _ _).mp seen
  simp only [Bool.and_eq_true, beq_iff_eq, decide_eq_true_eq] at facts
  obtain ⟨⟨spares, three⟩, hears⟩ := facts
  have run := Run.of_play (connects.take 3) d played
  exact ⟨_, d, run, three, hears, handled_call_survives plainConfig none [poolLns] none [] run _ spares⟩

-- With one address for everything, a call that has been refused once and is
-- closing is connected again: no local address is left for it.
def oneAddress : Lns :=
  { noLns with lacs := [⟨0, 10, true⟩], range := [⟨100, 100, true⟩], localrange := [⟨100, 100, true⟩], assignIp := true }

def refusedOnce : List Event :=
  opens ++ [onTunnel 0 2 (addMessageTypeAvp .ICRQ ++ addCallidAvp 5),
    onTunnel 1027 3 (addMessageTypeAvp .ICCN ++ avp true 4711 []), ⟨plainWorld, .fdset⟩]

theorem handled_call_destroyed :
    ¬ ∀ (cfg : Config) (deflns : Option Lns) (lnslist : List Lns) (deflac : Option Lac) (laclist : List Lac)
      (visits : List (Daemon × Event)) (d : Daemon), Run (next cfg)
        (initDaemon deflns lnslist deflac laclist) visits d →
      ∀ event, Survives cfg d event := by
  intro claimed
  have seen : (Run.play (next plainConfig) (initDaemon none [oneAddress] none []) refusedOnce).any (fun d =>
      (presentation plainConfig d (onTunnel 1027 4 (addMessageTypeAvp .ICCN))).any fun p => p.onEntry &&
        (handlePacket plainEnv p.buf p.t p.c
          { p.found with tunnel := write p.found.tunnel p.t (withoutVector p.tun) }).any fun done =>
          !(done.2.call p.c).live) = true := by decide +kernel
  obtain ⟨d, played, facts⟩ := (Option.any_eq_true _ _).mp seen
  obtain ⟨p, presented, facts⟩ := (Option.any_eq_true _ _).mp facts
  rw [Bool.and_eq_true] at facts
  obtain ⟨onEntry, facts⟩ := facts
  obtain ⟨⟨result, after⟩, handled, gone⟩ := (Option.any_eq_true _ _).mp facts
  obtain ⟨peer, refhim, datagram, occurs, reaches⟩ := presentation_some plainConfig d _ p presented
  have run := Run.of_play refusedOnce d played
  have survives := claimed plainConfig none [oneAddress] none [] _ d run _ peer refhim datagram p.buf p.found p.c occurs
  have present := (survives.1 (reaches.onEntry onEntry)).2 result after handled
  rw [present.call] at gone
  cases gone

end ZyAgf.Xl2tpd
