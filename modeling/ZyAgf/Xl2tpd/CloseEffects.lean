import ZyAgf.Xl2tpd.Layout

set_option autoImplicit false

namespace ZyAgf.Xl2tpd

open Prog

theorem layout_setTunnel (d : Daemon) (t : TunnelPtr) (new : Tunnel) :
    ({ d with tunnel := write d.tunnel t new } : Daemon).layout = d.layout.setTunnel t new.layout := by
  have stored := write_comp Tunnel.layout d.tunnel t new
  simp only [Daemon.layout, Layout.setTunnel, stored]

theorem layout_setCall (d : Daemon) (c : CallPtr) (new : Call) :
    ({ d with call := write d.call c new } : Daemon).layout = d.layout.setCall c new.layout := by
  have stored := write_comp Call.layout d.call c new
  simp only [Daemon.layout, Layout.setCall, stored]

theorem layout_sameTunnel (d : Daemon) (t : TunnelPtr) (new : Tunnel) (same : new.layout = (d.tunnel t).layout) :
    ({ d with tunnel := write d.tunnel t new } : Daemon).layout = d.layout := by
  have stored := funext (write_same d.tunnel Tunnel.layout t new same)
  simp only [Daemon.layout, stored]

theorem layout_sameCall (d : Daemon) (c : CallPtr) (new : Call) (same : new.layout = (d.call c).layout) :
    ({ d with call := write d.call c new } : Daemon).layout = d.layout := by
  have stored := funext (write_same d.call Call.layout c new same)
  simp only [Daemon.layout, stored]

theorem layout_sameLns (d : Daemon) (l : LnsPtr) (new : Lns) (same : new.live = (d.lns l).live) :
    ({ d with lns := write d.lns l new } : Daemon).layout = d.layout := by
  have stored := funext (write_same d.lns Lns.live l new same)
  simp only [Daemon.layout, stored]

theorem layout_sameLac (d : Daemon) (l : LacPtr) (new : Lac) (same : new.live = (d.lac l).live) :
    ({ d with lac := write d.lac l new } : Daemon).layout = d.layout := by
  have stored := funext (write_same d.lac Lac.live l new same)
  simp only [Daemon.layout, stored]

-- What is there depends on the layout only.
section Presence

variable {d d' : Daemon} (same : d'.layout = d.layout)

include same

theorem tunnel_stays (t : TunnelPtr) : (d'.tunnel t).layout = (d.tunnel t).layout :=
    congrFun (congrArg Layout.tunnel same) t

theorem call_stays (c : CallPtr) : (d'.call c).layout = (d.call c).layout := congrFun (congrArg Layout.call same) c

theorem tunnel_stays_live (t : TunnelPtr) (live : (d.tunnel t).live = true) : (d'.tunnel t).live = true :=
  (congrArg TunnelLayout.live (tunnel_stays same t)).trans live

theorem call_stays_live (c : CallPtr) (live : (d.call c).live = true) : (d'.call c).live = true :=
  (congrArg CallLayout.live (call_stays same c)).trans live

theorem lac_stays_live (l : LacPtr) (live : (d.lac l).live = true) : (d'.lac l).live = true :=
  (congrFun (congrArg Layout.lac same) l).trans live

theorem lns_stays_live (l : LnsPtr) (live : (d.lns l).live = true) : (d'.lns l).live = true :=
  (congrFun (congrArg Layout.lns same) l).trans live

end Presence

-- Reading what is there.
section Reads

variable {β : Type} {d : Daemon} {post : β → Daemon → Prop}

theorem gives_readTunnel {t : TunnelPtr} {later : Tunnel → Act β} (live : (d.tunnel t).live = true)
    (rest : Delivers (later (d.tunnel t)) d post) : Delivers (readTunnel t >>= later) d post :=
  gives_then ((readTunnel_some _ _ _ _).mpr ⟨live, rfl, rfl⟩) rest

theorem gives_readCall {c : CallPtr} {later : Call → Act β} (live : (d.call c).live = true)
    (rest : Delivers (later (d.call c)) d post) : Delivers (readCall c >>= later) d post :=
  gives_then ((readCall_some _ _ _ _).mpr ⟨live, rfl, rfl⟩) rest

theorem gives_readLns {l : LnsPtr} {later : Lns → Act β} (live : (d.lns l).live = true)
    (rest : Delivers (later (d.lns l)) d post) : Delivers (readLns l >>= later) d post :=
  gives_then ((readLns_some _ _ _ _).mpr ⟨live, rfl, rfl⟩) rest

theorem gives_readLac {l : LacPtr} {later : Lac → Act β} (live : (d.lac l).live = true)
    (rest : Delivers (later (d.lac l)) d post) : Delivers (readLac l >>= later) d post :=
  gives_then ((readLac_some _ _ _ _).mpr ⟨live, rfl, rfl⟩) rest

theorem gives_deref {α : Type} {p : Option α} {a : α} {later : α → Act β} (is : p = some a)
    (rest : Delivers (later a) d post) : Delivers (deref p >>= later) d post :=
  gives_then ((deref_some _ _ _ _).mpr ⟨is, rfl⟩) rest

end Reads

-- What leaves the layout as it was, and never goes wrong.
def Calm {α : Type} (prog : Act α) (d : Daemon) : Prop := Delivers prog d fun _ d' => d'.layout = d.layout

theorem calm_then {α β : Type} {first : Act α} {later : α → Act β} {d : Daemon} {post : β → Daemon → Prop}
    (one : Calm first d) (rest : ∀ a d', d'.layout = d.layout → Delivers (later a) d' post) : Delivers
    (first >>= later) d post :=
  gives_bind one rest

theorem calm_modify (change : Daemon → Daemon) (d : Daemon) (same : (change d).layout = d.layout) :
    Calm (modify change : Act PUnit) d :=
  gives_modify change d same

section Calm

variable (d : Daemon)

theorem setTunnel_gives (t : TunnelPtr) (change : Tunnel → Tunnel) (live : (d.tunnel t).live = true) :
    Delivers (setTunnel t change) d fun _ d' => d' = { d with tunnel := write d.tunnel t (change (d.tunnel t)) } :=
  ⟨(), _, (setTunnel_some _ _ _ _ _).mpr ⟨live, rfl⟩, rfl⟩

theorem setCall_gives (c : CallPtr) (change : Call → Call) (live : (d.call c).live = true) :
    Delivers (setCall c change) d fun _ d' => d' = { d with call := write d.call c (change (d.call c)) } :=
  ⟨(), _, (setCall_some _ _ _ _ _).mpr ⟨live, rfl⟩, rfl⟩

theorem setTunnel_calm (t : TunnelPtr) (change : Tunnel → Tunnel) (live : (d.tunnel t).live = true)
    (keeps : ∀ tun, (change tun).layout = tun.layout) : Calm (setTunnel t change) d := by
  refine gives_weaken (setTunnel_gives d t change live) ?_
  rintro _ _ rfl
  exact layout_sameTunnel d t _ (keeps _)

theorem setCall_calm (c : CallPtr) (change : Call → Call) (live : (d.call c).live = true)
    (keeps : ∀ cal, (change cal).layout = cal.layout) : Calm (setCall c change) d := by
  refine gives_weaken (setCall_gives d c change live) ?_
  rintro _ _ rfl
  exact layout_sameCall d c _ (keeps _)

theorem setLns_calm (l : LnsPtr) (change : Lns → Lns) (live : (d.lns l).live = true)
    (keeps : ∀ lns, (change lns).live = lns.live) : Calm (setLns l change) d :=
  ⟨(), _, (setLns_some _ _ _ _ _).mpr ⟨live, rfl⟩, layout_sameLns d l _ (keeps _)⟩

theorem setLac_calm (l : LacPtr) (change : Lac → Lac) (live : (d.lac l).live = true)
    (keeps : ∀ lac, (change lac).live = lac.live) : Calm (setLac l change) d :=
  ⟨(), _, (setLac_some _ _ _ _ _).mpr ⟨live, rfl⟩, layout_sameLac d l _ (keeps _)⟩

theorem schedule_calm (env : Env) (tv : Timeval) (func : Func) : Calm (schedule env tv func) d :=
  calm_modify _ d rfl

theorem emit_calm (output : Output) : Calm (emit output) d := calm_modify _ d rfl

theorem unreserveAddr_calm (addr : Nat) : Calm (unreserveAddr addr) d := calm_modify _ d rfl

theorem descheduleTunnel_calm (t : TunnelPtr) : Calm (descheduleTunnel t) d := calm_modify _ d rfl

theorem calm_onlyWhen (c : Prop) [Decidable c] (act : Act PUnit) (calm : c → Calm act d) : Calm (onlyWhen c act) d :=
  gives_onlyWhen c act d calm fun _ => rfl

theorem unreserveLocal_calm (entry : Option LnsPtr) (live : ∀ l, entry = some l → (d.lns l).live = true) :
    Calm (unreserveLocal entry) d := by
  cases entry with
  | none => exact gives_pure () d rfl
  | some l => exact gives_readLns (live l rfl) (calm_onlyWhen d _ _ fun _ => unreserveAddr_calm d _)

theorem redialLater_calm (env : Env) (l : LacPtr) (live : (d.lac l).live = true) : Calm (redialLater env l) d := by
  refine gives_readLac live (calm_onlyWhen d _ _ fun _ => ?_)
  refine calm_then (schedule_calm d env _ _) fun _ d' same => ?_
  exact gives_weaken (setLac_calm d' l _ (lac_stays_live same l live) fun _ => rfl) fun _ d'' again => again.trans same

theorem leaveLac_calm (env : Env) (change : Lac → Lac) (entry : Option LacPtr)
    (live : ∀ l, entry = some l → (d.lac l).live = true) (keeps : ∀ lac, (change lac).live = lac.live) :
    Calm (leaveLac env change entry) d := by
  cases entry with
  | none => exact gives_pure () d rfl
  | some l =>
      refine calm_then (setLac_calm d l change (live l rfl) keeps) fun _ d' same => ?_
      exact gives_weaken (redialLater_calm d' env l (lac_stays_live same l (live l rfl))) fun _ d'' again =>
        again.trans same

theorem leaveLns_calm (entry : Option LnsPtr) (live : ∀ l, entry = some l → (d.lns l).live = true) :
    Calm (leaveLns entry) d := by
  cases entry with
  | none => exact gives_pure () d rfl
  | some l => exact setLns_calm d l _ (live l rfl) fun _ => rfl

theorem getEntropy_calm (env : Env) (count : Nat) : Calm (getEntropy env count) d :=
  gives_get (calm_then (calm_modify _ d rfl) fun _ d' same => gives_pure _ d' same)

theorem addRandvect_calm (env : Env) (t : TunnelPtr) (live : (d.tunnel t).live = true) : Calm
    (addRandvect env t) d := by
  refine gives_readTunnel live ?_
  split
  · refine calm_then (getEntropy_calm d env _) fun _ d₁ same => ?_
    refine calm_then (setTunnel_calm d₁ t _ (tunnel_stays_live same t live) fun _ => rfl) fun _ d₂ again => ?_
    exact gives_pure _ d₂ (again.trans same)
  · exact gives_pure _ d rfl

theorem closingResult_calm (c : CallPtr) (live : (d.call c).live = true) : Calm (closingResult c) d := by
  refine calm_then (setCall_calm d c _ live fun _ => rfl) fun _ d₁ same => ?_
  exact gives_readCall (call_stays_live same c live) (gives_pure _ d₁ same)

theorem stopCCNBody_calm (env : Env) (t : TunnelPtr) (c : CallPtr) (live : (d.tunnel t).live = true)
    (present : (d.call c).live = true) : Calm (stopCCNBody env t c) d := by
  refine calm_then (addRandvect_calm d env t live) fun _ d₁ same => ?_
  refine gives_readTunnel (tunnel_stays_live same t live) ?_
  refine calm_then (closingResult_calm d₁ c (call_stays_live same c present)) fun _ d₂ again => ?_
  exact gives_pure _ d₂ (again.trans same)

theorem cdnBody_calm (env : Env) (t : TunnelPtr) (c : CallPtr) (live : (d.tunnel t).live = true)
    (present : (d.call c).live = true) : Calm (cdnBody env t c) d := by
  refine calm_then (addRandvect_calm d env t live) fun _ d₁ same => ?_
  refine calm_then (closingResult_calm d₁ c (call_stays_live same c present)) fun _ d₂ again => ?_
  exact gives_readCall (call_stays_live (again.trans same) c present) (gives_pure _ d₂ (again.trans same))

theorem noteCloseSs_calm (t : TunnelPtr) (c : CallPtr) (live : (d.tunnel t).live = true)
    (present : (d.call c).live = true) :
    Calm (noteCloseSs t c) d :=
  gives_readTunnel live (setCall_calm d c _ present fun _ => rfl)

theorem controlXmit_calm (env : Env) (depth : Nat) (buf : Buffer) (t : TunnelPtr) (retries : 1 ≤ env.maxRetries)
    (unsent : buf.retries = 0) (own : buf.tunnel = some t) (live : (d.tunnel t).live = true) :
    Calm (controlXmit env (depth + 1) buf) d := by
  rw [controlXmit]
  simp only [own, unsent]
  refine gives_readTunnel live ?_
  split
  · exact gives_pure () d rfl
  · rw [if_neg (by omega)]
    refine calm_then (schedule_calm d env _ _) fun _ d₁ same => ?_
    refine gives_readTunnel (tunnel_stays_live same t live) ?_
    exact gives_weaken (emit_calm d₁ _) fun _ d₂ again => again.trans same

def Unsent (t : TunnelPtr) (buf : Buffer) : Prop := buf.retries = 0 ∧ buf.tunnel = some t

theorem newOutgoing_gives (t : TunnelPtr) (body : List UInt8) (live : (d.tunnel t).live = true) :
    Delivers (newOutgoing t body) d fun buf d' => Unsent t buf ∧ d'.layout = d.layout :=
  gives_readTunnel live (gives_pure _ d ⟨⟨rfl, rfl⟩, rfl⟩)

theorem addControlHdr_gives (t : TunnelPtr) (c : CallPtr) (buf : Buffer) (live : (d.tunnel t).live = true)
    (present : (d.call c).live = true) (unsent : Unsent t buf) :
    Delivers (addControlHdr t c buf) d fun buf d' => Unsent t buf ∧ d'.layout = d.layout := by
  refine gives_readTunnel live (gives_readCall present ?_)
  refine calm_then (setTunnel_calm d t _ live fun _ => rfl) fun _ d' same => ?_
  exact gives_pure _ d' ⟨unsent, same⟩

theorem announce_gives {β : Type} {post : β → Daemon → Prop} (env : Env) (depth : Nat) (t : TunnelPtr) (c : CallPtr)
    (body : Act (List UInt8)) (later : Act β) (retries : 1 ≤ env.maxRetries) (live : (d.tunnel t).live = true)
    (present : (d.call c).live = true) (calm : ∀ d', d'.layout = d.layout → Calm body d')
    (rest : ∀ d', d'.layout = d.layout → Delivers later d' post) :
    Delivers (do
      noteCloseSs t c
      let body ← body
      let buf ← newOutgoing t body
      let buf ← addControlHdr t c buf
      controlXmit env (depth + 1) buf
      later) d post := by
  refine calm_then (noteCloseSs_calm d t c live present) fun _ d₁ first => ?_
  refine calm_then (calm d₁ first) fun bytes d₂ next => ?_
  have second := next.trans first
  refine gives_bind (newOutgoing_gives d₂ t bytes (tunnel_stays_live second t live)) ?_
  rintro buf d₃ ⟨unsent, next⟩
  have third := next.trans second
  refine gives_bind (addControlHdr_gives d₃ t c buf (tunnel_stays_live third t live)
    (call_stays_live third c present) unsent) ?_
  rintro buf d₄ ⟨⟨fresh, own⟩, next⟩
  have fourth := next.trans third
  refine calm_then (controlXmit_calm d₄ env depth buf t retries fresh own (tunnel_stays_live fourth t live)) ?_
  intro _ d₅ next
  exact rest d₅ (next.trans fourth)

end Calm

theorem destroyCall_gives (env : Env) (d : Daemon) (t : TunnelPtr) (c : CallPtr) (live : (d.tunnel t).live = true)
    (sound : d.layout.Sound t c) : Delivers (destroyCall env c) d fun _ d' => d'.layout = d.layout.drop c := by
  have container : (d.call c).container = t := sound.container
  refine gives_readCall sound.live ?_
  refine calm_then (calm_onlyWhen d _ _ fun _ => unreserveAddr_calm d _) fun _ d₁ first => ?_
  refine calm_then (unreserveLocal_calm d₁ _ fun l is => lns_stays_live first l (sound.lns l is)) fun _ d₂ next => ?_
  have second := next.trans first
  refine calm_then (calm_onlyWhen d₂ _ _ fun _ => emit_calm d₂ _) fun _ d₃ next => ?_
  have third := next.trans second
  rw [container]
  refine gives_bind (setTunnel_gives d₃ t _ (tunnel_stays_live third t live)) ?_
  rintro _ _ rfl
  refine calm_then (leaveLac_calm _ env _ _ (fun l is => lac_stays_live third l (sound.lac l is)) fun _ => rfl) ?_
  intro _ d₄ left
  rw [layout_setTunnel, third] at left
  have kept : (d₄.call c).layout = (d.call c).layout := congrFun (congrArg Layout.call left) c
  refine gives_weaken (setCall_gives d₄ c _ ((congrArg CallLayout.live kept).trans sound.live)) ?_
  rintro _ _ rfl
  have gone : ({ d₄.call c with live := false, fd := -1, pppd := 0 } : Call).layout =
      { d.layout.call c with live := false, fd := -1 } :=
    congrArg (fun cal : CallLayout => { cal with live := false, fd := -1 }) kept
  have erased : ({ d₃.tunnel t with calls := (d₃.tunnel t).calls.erase c } : Tunnel).layout =
      { d.layout.tunnel t with calls := (d.layout.tunnel t).calls.erase c } :=
    congrArg (fun tun : TunnelLayout => { tun with calls := tun.calls.erase c }) (tunnel_stays third t)
  rw [layout_setCall, left, gone, erased, Layout.drop, sound.container]

theorem destroyCalls_gives (env : Env) (t : TunnelPtr) (L : Layout) (calls : List CallPtr) (d : Daemon)
    (shedding : L.Shedding t calls d.layout) :
    Delivers (calls.forM (destroyCall env)) d fun _ d' => L.Shedding t [] d'.layout := by
  refine gives_forM (fun rest d' => L.Shedding t rest d'.layout) _ ?_ calls d shedding
  intro c rest d' held
  refine gives_weaken (destroyCall_gives env d' t c held.whole.live held.sound) ?_
  intro _ d'' dropped
  rw [dropped]
  exact held.drop

theorem destroyTunnel_gives (env : Env) (d : Daemon) (t : TunnelPtr) (whole : d.layout.WholeAt t) :
    Delivers (destroyTunnel env t) d fun _ d' =>
      d.layout.Outside t d'.layout ∧ d'.tunnels = d.tunnels.erase t := by
  refine gives_readTunnel whole.live ?_
  refine gives_bind (destroyCalls_gives env t d.layout _ d (.start whole)) fun _ d₁ shed => ?_
  have unlinked : Delivers (modify fun d => { d with tunnels := d.tunnels.erase t } : Act PUnit) d₁
      fun _ d' => d'.layout = d₁.layout.unlink t := gives_modify _ d₁ rfl
  refine gives_bind unlinked fun _ d₂ second => ?_
  refine calm_then (leaveLac_calm d₂ env _ _ (fun l is => ?_) fun _ => rfl) fun _ d₃ next => ?_
  · exact (congrFun ((congrArg Layout.lac second).trans shed.outside.lac) l).trans (whole.lac l is)
  have third := next.trans second
  refine calm_then (leaveLns_calm d₃ _ fun l is => ?_) fun _ d₄ next => ?_
  · exact (congrFun ((congrArg Layout.lns third).trans shed.outside.lns) l).trans (whole.lns l is)
  have fourth := next.trans third
  obtain ⟨s, own, sound, _⟩ := shed.whole.own
  rw [shed.tunnel] at own
  have live : (d₄.layout.tunnel t).live = true := by
    rw [fourth]
    exact shed.whole.live
  have ready : d₄.layout.Sound t s := by
    rw [fourth]
    exact ⟨sound.live, sound.container, sound.lns, sound.lac⟩
  refine gives_deref own (gives_bind (destroyCall_gives env d₄ t s live ready) fun _ d₅ dropped => ?_)
  rw [fourth] at dropped
  have tunnel := Layout.drop_tunnel (d₁.layout.unlink t) t s sound.container
  refine gives_weaken (setTunnel_gives d₅ t _ ?_) ?_
  · refine (congrArg (fun L : Layout => (L.tunnel t).live) dropped).trans ?_
    rw [tunnel]
    exact shed.whole.live
  · rintro _ _ rfl
    have outside := (shed.outside.trans (Layout.outside_unlink d₁.layout t)).trans
      (Layout.outside_drop (d₁.layout.unlink t) t s sound.container)
    rw [← dropped] at outside
    rw [layout_setTunnel]
    refine ⟨outside.trans (Layout.outside_setTunnel _ t _), ?_⟩
    have lists : d₁.tunnels = d.tunnels := shed.tunnels
    rw [← lists]
    exact congrArg Layout.tunnels dropped

section CallClose

variable (env : Env) (retries : 1 ≤ env.maxRetries) (depth : Nat) (d : Daemon) (t : TunnelPtr) (c : CallPtr)

theorem callClose_drops (live : (d.tunnel t).live = true) (sound : d.layout.Sound t c)
    (other : (d.tunnel t).self ≠ some c)
    (closing : (d.call c).closing = true) :
    Delivers (callClose env (depth + 1) c) d fun _ d' => d'.layout = d.layout.drop c := by
  have container : (d.call c).container = t := sound.container
  rw [callClose]
  refine gives_readCall sound.live ?_
  dsimp only
  rw [container]
  refine gives_readTunnel live ?_
  rw [if_neg other, if_pos closing]
  exact destroyCall_gives env d t c live sound

theorem flush_gives (L : Layout) (calls : List CallPtr) (shedding : L.Shedding t calls d.layout) :
    Delivers (calls.forM fun tmp => do
      setCall tmp fun cal => { cal with needclose := false, closing := true }
      callClose env (depth + 1) tmp) d fun _ d' => L.Shedding t [] d'.layout := by
  refine gives_forM (fun rest d' => L.Shedding t rest d'.layout) _ ?_ calls d shedding
  intro tmp rest d₁ held
  refine gives_bind (setCall_gives d₁ tmp _ held.sound.live) ?_
  rintro _ d₂ marked
  have flagged : d₂.layout = d₁.layout.flag tmp false true := by rw [marked, layout_setCall]; rfl
  have still := held.flag false true
  rw [← flagged] at still
  refine gives_weaken (callClose_drops env depth d₂ t tmp still.whole.live still.sound ?_ ?_) ?_
  · intro own
    obtain ⟨s, is, _, apart⟩ := still.whole.own
    obtain rfl : tmp = s := Option.some.inj (own.symm.trans is)
    exact apart (by rw [still.tunnel]; exact List.mem_cons_self)
  · rw [marked]
    exact congrArg Call.closing (write_here _ _ _)
  · intro _ d₃ dropped
    rw [dropped]
    exact still.drop

include retries

theorem callClose_flags (live : (d.tunnel t).live = true) (sound : d.layout.Sound t c)
    (other : (d.tunnel t).self ≠ some c)
    (unmarked : (d.call c).closing = false) :
    Delivers (callClose env (depth + 2) c) d fun _ d' => d'.layout = d.layout.flag c (d.call c).needclose true := by
  have container : (d.call c).container = t := sound.container
  rw [callClose]
  refine gives_readCall sound.live ?_
  dsimp only
  rw [container]
  refine gives_readTunnel live ?_
  rw [if_neg other, if_neg (by rw [unmarked]; exact Bool.false_ne_true)]
  refine announce_gives d env depth t c _ _ retries live sound.live (fun d' same => ?_) fun d' same => ?_
  · exact cdnBody_calm d' env t c (tunnel_stays_live same t live) (call_stays_live same c sound.live)
  · refine gives_weaken (setCall_gives d' c _ (call_stays_live same c sound.live)) ?_
    rintro _ _ rfl
    rw [layout_setCall, same]
    exact congrArg (fun cal : CallLayout => d.layout.setCall c { cal with closing := true }) (call_stays same c)

theorem callClose_sheds (whole : d.layout.WholeAt t) (own : (d.tunnel t).self = some c)
    (unmarked : (d.call c).closing = false) :
    Delivers (callClose env (depth + 2) c) d fun _ d' =>
      ∃ L, d.layout.Shedding t [] L ∧ d'.layout = L.flag c (d.call c).needclose true := by
  obtain ⟨s, is, sound, _⟩ := whole.own
  obtain rfl : c = s := Option.some.inj (own.symm.trans is)
  have container : (d.call c).container = t := sound.container
  have live : (d.tunnel t).live = true := whole.live
  rw [callClose]
  refine gives_readCall sound.live ?_
  dsimp only
  rw [container]
  refine gives_readTunnel live ?_
  rw [if_pos own]
  refine calm_then (descheduleTunnel_calm d t) fun _ d₁ first => ?_
  rw [if_neg (by rw [unmarked]; exact Bool.false_ne_true)]
  refine announce_gives d₁ env depth t c _ _ retries (tunnel_stays_live first t live)
    (call_stays_live first c sound.live)
    (fun d' same => ?_) fun d₂ next => ?_
  · have both := same.trans first
    exact stopCCNBody_calm d' env t c (tunnel_stays_live both t live) (call_stays_live both c sound.live)
  have second := next.trans first
  refine gives_readTunnel (tunnel_stays_live second t live) ?_
  have start := Layout.Shedding.start whole
  rw [← second] at start
  refine gives_bind (flush_gives env depth d₂ t d₂.layout _ start) fun _ d₃ shed => ?_
  rw [second] at shed
  have kept : (d₃.call c).layout = (d.call c).layout := shed.own c own
  refine gives_weaken (setCall_gives d₃ c _ ((congrArg CallLayout.live kept).trans sound.live)) ?_
  rintro _ _ rfl
  refine ⟨d₃.layout, shed, ?_⟩
  rw [layout_setCall]
  have needclose : (d₃.call c).needclose = (d.call c).needclose := congrArg CallLayout.needclose kept
  rw [← needclose]
  rfl

omit retries

theorem callClose_destroys (whole : d.layout.WholeAt t) (own : (d.tunnel t).self = some c)
    (closing : (d.call c).closing = true) :
    Delivers (callClose env (depth + 1) c) d fun _ d' =>
      d.layout.Outside t d'.layout ∧ d'.tunnels = d.tunnels.erase t := by
  obtain ⟨s, is, sound, _⟩ := whole.own
  obtain rfl : c = s := Option.some.inj (own.symm.trans is)
  have container : (d.call c).container = t := sound.container
  rw [callClose]
  refine gives_readCall sound.live ?_
  dsimp only
  rw [container]
  refine gives_readTunnel whole.live ?_
  rw [if_pos own]
  refine calm_then (descheduleTunnel_calm d t) fun _ d₁ same => ?_
  rw [if_pos closing]
  rw [← same] at whole
  refine gives_weaken (destroyTunnel_gives env d₁ t whole) fun _ d' destroyed => ?_
  rw [same] at destroyed
  have lists : d₁.tunnels = d.tunnels := congrArg Layout.tunnels same
  rw [← lists]
  exact destroyed

end CallClose

end ZyAgf.Xl2tpd
