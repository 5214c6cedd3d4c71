import ZyAgf.Xl2tpd.Daemon

set_option autoImplicit false

namespace ZyAgf.Xl2tpd

-- The call a CDN is about: on the tunnel itself it names one by the peer's id,
-- on a call it is that call.
def cdnNames (d : Daemon) (t : TunnelPtr) (c : CallPtr) : Option CallPtr :=
  if (d.tunnel t).self = some c then (d.tunnel t).calls.find? fun p => (d.call p).cid == (d.call c).qcid else some c

-- The id the message must give for the call, if the call has one yet.
def cdnExpects (d : Daemon) (t : TunnelPtr) (p : CallPtr) : Int :=
  if isMsl2tp (d.tunnel t) then (d.call p).ourcid else (d.call p).cid

-- The checks a CDN has to pass: a call id, a call of that id, and a result code.
def CdnAccepted (d : Daemon) (t : TunnelPtr) (c p : CallPtr) : Prop :=
  cdnNames d t c = some p ∧ 0 ≤ (d.call c).qcid ∧
    ((d.call c).qcid = cdnExpects d t p ∨ cdnExpects d t p ≤ 0) ∧ 0 ≤ (d.call c).result

def FlagsKept (before after : Call) : Prop := after.needclose = before.needclose ∧ after.closing = before.closing

-- No call but the one the message names, and never the tunnel's own entry, is
-- marked to be closed.
def ClosesNamedOnly (d d' : Daemon) (t : TunnelPtr) (c : CallPtr) : Prop :=
  ∀ q, cdnNames d t c ≠ some q ∨ (d.tunnel t).self = some q → FlagsKept (d.call q) (d'.call q)

theorem findCid_some (cid : Int) (calls : List CallPtr) (d d' : Daemon) (found : Option CallPtr)
    (ran : findCid cid calls d = some (found, d')) :
    d' = d ∧ found = calls.find? fun p => (d.call p).cid == cid := by
  induction calls with
  | nil =>
      obtain ⟨rfl, rfl⟩ := (Prog.pure_some _ _ _ _).mp ran
      exact ⟨rfl, rfl⟩
  | cons p rest ih =>
      rw [findCid] at ran
      obtain ⟨cal, d₁, read, ran⟩ := (Prog.bind_some _ _ _ _ _).mp ran
      obtain ⟨_, rfl, rfl⟩ := (readCall_some p d d₁ cal).mp read
      split at ran
      next same =>
        obtain ⟨rfl, rfl⟩ := (Prog.pure_some _ _ _ _).mp ran
        exact ⟨rfl, by rw [List.find?_cons_of_pos (by simpa using same)]⟩
      next other =>
        rw [List.find?_cons_of_neg (by simpa using other)]
        exact ih ran

theorem namedCall_some (d d' : Daemon) (t : TunnelPtr) (c : CallPtr) (named : Option CallPtr)
    (ran : namedCall (d.tunnel t) c (d.call c).qcid d = some (named, d')) : d' = d ∧ named = cdnNames d t c := by
  unfold namedCall at ran
  unfold cdnNames
  split at ran
  next own =>
    rw [if_pos own]
    exact findCid_some _ _ d d' named ran
  next other =>
    rw [if_neg other]
    obtain ⟨rfl, rfl⟩ := (Prog.pure_some _ _ _ _).mp ran
    exact ⟨rfl, rfl⟩

theorem finishCDN_flags (d d' : Daemon) (t : TunnelPtr) (c : CallPtr) (result : Int)
    (ran : finishCDN t c d = some (result, d')) :
    (∀ q, q ≠ c → d'.call q = d.call q) ∧
      (((∃ p, CdnAccepted d t c p) ∧ (d'.call c).needclose = false ∧ (d'.call c).closing = true) ∨
        ((¬ ∃ p, CdnAccepted d t c p) ∧ FlagsKept (d.call c) (d'.call c))) := by
  unfold finishCDN at ran
  obtain ⟨tun, d₁, read, ran⟩ := (Prog.bind_some _ _ _ _ _).mp ran
  obtain ⟨_, rfl, rfl⟩ := (readTunnel_some _ _ _ _).mp read
  obtain ⟨cal, d₂, read, ran⟩ := (Prog.bind_some _ _ _ _ _).mp ran
  obtain ⟨_, rfl, rfl⟩ := (readCall_some _ _ _ _).mp read
  split at ran
  next unnamed =>
    obtain ⟨_, rfl⟩ := (Prog.pure_some _ _ _ _).mp ran
    exact ⟨fun q _ => rfl, .inr ⟨fun ⟨p, accepted⟩ => by have given := accepted.2.1; omega, rfl, rfl⟩⟩
  next given =>
    obtain ⟨named, d₃, found, ran⟩ := (Prog.bind_some _ _ _ _ _).mp ran
    obtain ⟨rfl, names⟩ := namedCall_some d₂ d₃ t c named found
    cases named with
    | none =>
        obtain ⟨_, rfl⟩ := (Prog.pure_some _ _ _ _).mp ran
        exact ⟨fun q _ => rfl, .inr ⟨fun ⟨p, accepted⟩ => by simp [accepted.1] at names, rfl, rfl⟩⟩
    | some p =>
        have onlyNamed : ∀ q, CdnAccepted d₃ t c q → q = p := by
          intro q accepted
          exact Option.some.inj (accepted.1.symm.trans names.symm)
        dsimp only at ran
        obtain ⟨named, d₄, read, ran⟩ := (Prog.bind_some _ _ _ _ _).mp ran
        obtain ⟨_, rfl, rfl⟩ := (readCall_some _ _ _ _).mp read
        change (if _ ≠ cdnExpects d₄ t p ∧ 0 < cdnExpects d₄ t p then _ else _ : Act Int) d₄ = _ at ran
        split at ran
        next wrongId =>
          obtain ⟨_, rfl⟩ := (Prog.pure_some _ _ _ _).mp ran
          refine ⟨fun q _ => rfl, .inr ⟨?_, rfl, rfl⟩⟩
          rintro ⟨q, accepted⟩
          obtain rfl := onlyNamed q accepted
          have fits := accepted.2.2.1
          omega
        next rightId =>
          have fits : (d₄.call c).qcid = cdnExpects d₄ t p ∨ cdnExpects d₄ t p ≤ 0 := by omega
          obtain ⟨_, d₅, taken, ran⟩ := (Prog.bind_some _ _ _ _ _).mp ran
          obtain ⟨_, rfl⟩ := (setCall_some _ _ _ _ _).mp taken
          split at ran
          next unexplained =>
            obtain ⟨_, rfl⟩ := (Prog.pure_some _ _ _ _).mp ran
            refine ⟨fun q other => write_elsewhere _ _ _ _ other, .inr ⟨?_, ?_⟩⟩
            · rintro ⟨q, accepted⟩
              have performed := accepted.2.2.2
              omega
            · simp [FlagsKept]
          next performed =>
            obtain ⟨_, d₆, marked, ran⟩ := (Prog.bind_some _ _ _ _ _).mp ran
            obtain ⟨_, rfl⟩ := (setCall_some _ _ _ _ _).mp marked
            obtain ⟨_, rfl⟩ := (Prog.pure_some _ _ _ _).mp ran
            refine ⟨fun q other => ?_, .inl ⟨⟨p, names.symm, by omega, fits, by omega⟩, by simp, by simp⟩⟩
            dsimp only
            rw [write_elsewhere _ _ _ _ other, write_elsewhere _ _ _ _ other]

theorem controlFinish_cdn (env : Env) (d d' : Daemon) (t : TunnelPtr) (c : CallPtr) (result : Int)
    (cdn : (d.call c).msgtype = Msg.CDN.code) (ran : controlFinish env t c d = some (result, d')) :
    finishCDN t c d = some (result, d') := by
  unfold controlFinish at ran
  obtain ⟨cal, d₁, read, ran⟩ := (Prog.bind_some _ _ _ _ _).mp ran
  obtain ⟨_, rfl, rfl⟩ := (readCall_some _ _ _ _).mp read
  rw [cdn, if_neg (by decide), if_neg (by decide), Msg.ofCode_code] at ran
  exact ran

-- A CDN closes nothing but the call it names, unless it comes on the tunnel
-- itself and passes its checks while the tunnel is not closing yet.
theorem cdn_closes_named (env : Env) (d d' : Daemon) (t : TunnelPtr) (c : CallPtr) (result : Int)
    (cdn : (d.call c).msgtype = Msg.CDN.code) (ran : controlFinish env t c d = some (result, d')) :
    ClosesNamedOnly d d' t c ↔ ¬ ((d.tunnel t).self = some c ∧ (∃ p, CdnAccepted d t c p) ∧
      ¬ ((d.call c).needclose = false ∧ (d.call c).closing = true)) := by
  obtain ⟨elsewhere, here⟩ := finishCDN_flags d d' t c result (controlFinish_cdn env d d' t c result cdn ran)
  constructor
  · rintro closes ⟨own, accepted, open'⟩
    obtain ⟨needclose, closing⟩ := closes c (.inr own)
    rcases here with ⟨_, cleared, marked⟩ | ⟨refused, _⟩
    · exact open' ⟨needclose.symm.trans cleared, closing.symm.trans marked⟩
    · exact refused accepted
  · intro spared q aside
    by_cases other : q = c
    · subst other
      rcases here with ⟨accepted, cleared, marked⟩ | ⟨_, kept⟩
      · have own : (d.tunnel t).self = some q := by
          by_contra onCall
          rcases aside with unnamed | own
          · rw [cdnNames, if_neg onCall] at unnamed
            exact unnamed rfl
          · exact onCall own
        by_cases shut : (d.call q).needclose = false ∧ (d.call q).closing = true
        · exact ⟨cleared.trans shut.1.symm, marked.trans shut.2.symm⟩
        · exact (spared ⟨own, accepted, shut⟩).elim
      · exact kept
    · rw [elsewhere q other]
      exact ⟨rfl, rfl⟩

-- A tunnel with two calls, which the peer knows as 5 and 6, and a CDN for one of
-- them that came on the given entry.
def twoCallTunnel : Tunnel :=
  { Tunnel.created 7 with tid := 9, calls := [2, 3], self := some 1, state := some .SCCCN }

def cdnCall (ourcid : Nat) (cid : Int) (marked : Bool) (named : Int) : Call :=
  { Call.created 0 twoCallTunnel ourcid with
    cid := cid
    msgtype := if marked then Msg.CDN.code else 0
    qcid := if marked then named else -1
    result := if marked then 1 else -1 }

def cdnOn (c : CallPtr) (named : Int) : Daemon :=
  { initDaemon none [] none [] with
    tunnel := write (fun _ => noTunnel) 0 twoCallTunnel
    call := write (write (write (fun _ => noCall) 1 (cdnCall 0 0 (c == 1) named)) 2 (cdnCall 21 5 (c == 2) named)) 3
      (cdnCall 22 6 (c == 3) named)
    tunnels := [0]
    fresh := 4 }

theorem cdn_closes_named_call : ∃ d', controlFinish plainEnv 0 2 (cdnOn 2 5) = some (0, d') ∧
    ClosesNamedOnly (cdnOn 2 5) d' 0 2 := by
  have accepted : ((controlFinish plainEnv 0 2 (cdnOn 2 5)).map Prod.fst) = some 0 := by decide +kernel
  obtain ⟨⟨result, d'⟩, ran, rfl⟩ := Option.map_eq_some_iff.mp accepted
  refine ⟨d', ran, (cdn_closes_named plainEnv (cdnOn 2 5) d' 0 2 0 rfl ran).mpr ?_⟩
  rintro ⟨own, _⟩
  cases own

-- A CDN for the first call that came on the tunnel marks the tunnel's own entry,
-- and the next round of the main loop tears the tunnel down with both its calls.
theorem cdn_closes_tunnel :
    (¬ ∀ (env : Env) (d d' : Daemon) (t : TunnelPtr) (c : CallPtr) (result : Int),
      (d.call c).msgtype = Msg.CDN.code → controlFinish env t c d = some (result, d') → ClosesNamedOnly d d' t c) ∧
    ((do let _ ← controlFinish plainEnv 0 1; buildFdset plainEnv : Act PUnit) (cdnOn 1 5)).map
      (fun ran => (ran.2.tunnels, (ran.2.call 2).live, (ran.2.call 3).live)) = some ([], false, false) := by
  refine ⟨fun claimed => ?_, by decide +kernel⟩
  have marks : (controlFinish plainEnv 0 1 (cdnOn 1 5)).any (fun ran => (ran.2.call 1).closing) = true := by
    decide +kernel
  obtain ⟨⟨result, d'⟩, ran, closing⟩ := (Option.any_eq_true _ _).mp marks
  have kept := claimed plainEnv (cdnOn 1 5) d' 0 1 result rfl ran 1 (.inr rfl)
  rw [kept.2] at closing
  cases closing

end ZyAgf.Xl2tpd
