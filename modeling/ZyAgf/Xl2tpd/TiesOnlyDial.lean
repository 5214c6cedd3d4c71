import ZyAgf.Xl2tpd.TiesOnlyFinish

set_option autoImplicit false

namespace ZyAgf.Xl2tpd

-- l2tp_call and lac_call up to the message they send: a tunnel or a call is made
-- for an entry and bound to it.
def openTunnel (env : Env) (addr : Nat) (port : U16) (lac : Option LacPtr) : Act (Option (TunnelPtr × CallPtr)) := do
  match ← addTunnel env ⟨addr, port⟩ 0 with
  | none => return none
  | some self => do
      let cal ← readCall self
      setTunnel cal.container fun tun => { tun with tid := 0, lac := lac, lns := none }
      setCall self fun cal => { cal with lac := lac, lns := none }
      bindLac cal.container lac
      return some (cal.container, self)

def placeCall (env : Env) (t : TunnelPtr) (lac : Option LacPtr) (dialNo : CString) : Act (Option CallPtr) := do
  match ← newCall env t with
  | none => return none
  | some tmp => do
      setTunnel t fun tun => { tun with calls := tmp :: tun.calls }
      setCall tmp fun cal => { cal with cid := 0, lac := lac, lns := none }
      bindCall tmp lac
      setCall tmp fun cal => { cal with dialNo := dialNo }
      return some tmp

theorem l2tpCall_opens (env : Env) (host : CString) (port : U16) (lac : Option LacPtr) (addr : Nat)
    (resolved : env.resolve host = some addr) :
    l2tpCall env host port lac = (do
      match ← openTunnel env addr port lac with
      | none => return none
      | some (t, self) => do
          let _ ← initiate env t self
          return some t) := by
  unfold l2tpCall openTunnel
  rw [resolved]
  simp only [bind_assoc]
  congr 1
  funext made
  cases made with
  | none => rfl
  | some self => simp only [bind_assoc, pure_bind]

theorem lacCall_places (env : Env) (tid : Nat) (lac : Option LacPtr) :
    lacCall env tid lac = (do
      let d ← get
      match ← findTunnel tid d.tunnels with
      | none => return none
      | some t => do
          match ← placeCall env t lac d.dialNoTmp with
          | none => return none
          | some tmp => do
              let _ ← initiate env t tmp
              return some tmp) := by
  unfold lacCall placeCall
  congr 1
  funext d
  congr 1
  funext found
  cases found with
  | none => rfl
  | some t =>
      simp only [bind_assoc]
      congr 1
      funext made
      cases made with
      | none => rfl
      | some tmp => simp only [bind_assoc, pure_bind]

-- A relation that dialling keeps to, but for the note that the dialling is due.
structure Dials (env : Env) (rel : Daemon → Daemon → Prop) : Prop where
  initiates : ∀ t c, Prog.Within rel (initiate env t c)
  redials : ∀ l, Prog.Within rel (redialLater env l)
  opens : ∀ addr port lac, Prog.Within rel (openTunnel env addr port lac)
  places : ∀ t lac dialNo, Prog.Within rel (placeCall env t lac dialNo)

section Dialling

variable {env : Env} {rel : Daemon → Daemon → Prop} [Prog.Steady rel] (dials : Dials env rel)

include dials

theorem l2tpCall_dials (host : CString) (port : U16) (lac : Option LacPtr) : Prog.Within rel
    (l2tpCall env host port lac) := by
  cases resolved : env.resolve host with
  | none =>
      unfold l2tpCall
      rw [resolved]
      refine Prog.within_bind (deref_within _ lac) fun l => ?_
      exact Prog.within_bind (dials.redials l) fun _ => Prog.within_pure _ _
  | some addr =>
      rw [l2tpCall_opens env host port lac addr resolved]
      refine Prog.within_bind (dials.opens addr port lac) fun opened => ?_
      split
      next => exact Prog.within_pure _ _
      next t self => exact Prog.within_bind (dials.initiates t self) fun _ => Prog.within_pure _ _

theorem magicLacTunnel_dials (l : LacPtr) : Prog.Within rel (magicLacTunnel env l) := by
  have host (h : Host) : Prog.Within rel (do
      let _ ← l2tpCall env h.hostname h.port (some l)
      return () : Act PUnit) :=
    Prog.within_bind (l2tpCall_dials dials h.hostname h.port (some l)) fun _ => Prog.within_pure _ _
  unfold magicLacTunnel
  refine Prog.within_bind (readLac_within _ l) fun lac => Prog.within_bind (Prog.within_get _) fun d => ?_
  split
  next h _ => exact host h
  next =>
    split
    next => exact Prog.within_pure _ _
    next fallback _ =>
      refine Prog.within_bind (readLac_within _ fallback) fun _ => ?_
      split
      next => exact Prog.within_pure _ _
      next h _ => exact host h

theorem lacCall_dials (tid : Nat) (lac : Option LacPtr) : Prog.Within rel (lacCall env tid lac) := by
  rw [lacCall_places]
  refine Prog.within_bind (Prog.within_get _) fun d => Prog.within_bind (findTunnel_within _ tid _) fun found => ?_
  split
  next => exact Prog.within_pure _ _
  next t =>
    refine Prog.within_bind (dials.places t lac _) fun placed => ?_
    split
    next => exact Prog.within_pure _ _
    next tmp => exact Prog.within_bind (dials.initiates t tmp) fun _ => Prog.within_pure _ _

theorem magicLacDial_dials (l : LacPtr)
    (clears : Prog.Within rel (setLac l fun lac => { lac with rsched := false, rtries := lac.rtries + 1 })) :
    Prog.Within rel (magicLacDial env l) := by
  unfold magicLacDial
  refine Prog.within_bind (readLac_within _ l) fun lac =>
    Prog.within_ite _ _ _ _ (fun _ => Prog.within_pure _ _) fun _ => ?_
  refine Prog.within_bind clears fun _ => Prog.within_ite _ _ _ _ (fun _ => Prog.within_pure _ _) fun _ => ?_
  split
  next => exact magicLacTunnel_dials dials l
  next t _ =>
    refine Prog.within_bind (readTunnel_within _ t) fun tun => ?_
    exact Prog.within_bind (lacCall_dials dials tun.ourtid (some l)) fun _ => Prog.within_pure _ _

end Dialling

end ZyAgf.Xl2tpd
