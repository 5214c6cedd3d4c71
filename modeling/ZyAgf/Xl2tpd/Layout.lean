import ZyAgf.Library.Total
import ZyAgf.Xl2tpd.Close

set_option autoImplicit false

namespace ZyAgf.Xl2tpd

-- What closing looks at: who is there, what belongs to what, and the two flags.
structure TunnelLayout where
  live : Bool
  calls : List CallPtr
  self : Option CallPtr
  lns : Option LnsPtr
  lac : Option LacPtr
deriving DecidableEq, Repr

structure CallLayout where
  live : Bool
  container : TunnelPtr
  lns : Option LnsPtr
  lac : Option LacPtr
  needclose : Bool
  closing : Bool
  fd : Int
deriving DecidableEq, Repr

structure Layout where
  tunnels : List TunnelPtr
  tunnel : TunnelPtr → TunnelLayout
  call : CallPtr → CallLayout
  lns : LnsPtr → Bool
  lac : LacPtr → Bool

def Tunnel.layout (tun : Tunnel) : TunnelLayout := ⟨tun.live, tun.calls, tun.self, tun.lns, tun.lac⟩

def Call.layout (cal : Call) : CallLayout :=
  ⟨cal.live, cal.container, cal.lns, cal.lac, cal.needclose, cal.closing, cal.fd⟩

def Daemon.layout (d : Daemon) : Layout where
  tunnels := d.tunnels
  tunnel t := (d.tunnel t).layout
  call c := (d.call c).layout
  lns l := (d.lns l).live
  lac l := (d.lac l).live

namespace Layout

def setTunnel (L : Layout) (t : TunnelPtr) (new : TunnelLayout) : Layout := { L with tunnel := write L.tunnel t new }

def setCall (L : Layout) (c : CallPtr) (new : CallLayout) : Layout := { L with call := write L.call c new }

def flag (L : Layout) (c : CallPtr) (needclose closing : Bool) : Layout :=
  L.setCall c { L.call c with needclose, closing }

def drop (L : Layout) (c : CallPtr) : Layout :=
  let t := (L.call c).container
  (L.setTunnel t { L.tunnel t with calls := (L.tunnel t).calls.erase c }).setCall c
    { L.call c with live := false, fd := -1 }

-- A call of the tunnel that may be destroyed: it is there and so is what it refers to.
structure Sound (L : Layout) (t : TunnelPtr) (c : CallPtr) : Prop where
  live : (L.call c).live = true
  container : (L.call c).container = t
  lns : ∀ l, (L.call c).lns = some l → L.lns l = true
  lac : ∀ l, (L.call c).lac = some l → L.lac l = true

structure WholeAt (L : Layout) (t : TunnelPtr) : Prop where
  live : (L.tunnel t).live = true
  nodup : (L.tunnel t).calls.Nodup
  calls : ∀ c ∈ (L.tunnel t).calls, L.Sound t c
  own : ∃ s, (L.tunnel t).self = some s ∧ L.Sound t s ∧ s ∉ (L.tunnel t).calls
  lns : ∀ l, (L.tunnel t).lns = some l → L.lns l = true
  lac : ∀ l, (L.tunnel t).lac = some l → L.lac l = true

-- Nothing but the given tunnel and its calls has changed.
structure Outside (t : TunnelPtr) (L L' : Layout) : Prop where
  tunnel : ∀ u, u ≠ t → L'.tunnel u = L.tunnel u
  container : ∀ c, (L'.call c).container = (L.call c).container
  call : ∀ c, (L.call c).container ≠ t → L'.call c = L.call c
  lns : L'.lns = L.lns
  lac : L'.lac = L.lac

namespace Outside

variable {t : TunnelPtr} {L L' L'' : Layout}

theorem refl : Outside t L L := ⟨fun _ _ => rfl, fun _ => rfl, fun _ _ => rfl, rfl, rfl⟩

theorem trans (first : Outside t L L') (second : Outside t L' L'') : Outside t L L'' where
  tunnel u other := (second.tunnel u other).trans (first.tunnel u other)
  container c := (second.container c).trans (first.container c)
  call c other := (second.call c (by rwa [first.container])).trans (first.call c other)
  lns := second.lns.trans first.lns
  lac := second.lac.trans first.lac

theorem sound (outside : Outside t L L') (u : TunnelPtr) (c : CallPtr) (sound : L.Sound u c)
    (same : L'.call c = L.call c) :
    L'.Sound u c := by
  refine ⟨?_, ?_, ?_, ?_⟩
  · rw [same]; exact sound.live
  · rw [same]; exact sound.container
  · rw [same, outside.lns]; exact sound.lns
  · rw [same, outside.lac]; exact sound.lac

theorem call_of (outside : Outside t L L') (u : TunnelPtr) (c : CallPtr) (other : u ≠ t) (sound : L.Sound u c) :
    L'.call c = L.call c := by
  refine outside.call c ?_
  rw [sound.container]
  exact other

theorem wholeAt (outside : Outside t L L') (u : TunnelPtr) (other : u ≠ t) (whole : L.WholeAt u) : L'.WholeAt u := by
  obtain ⟨s, own, sound, apart⟩ := whole.own
  refine ⟨?_, ?_, ?_, ⟨s, ?_, ?_, ?_⟩, ?_, ?_⟩
  · rw [outside.tunnel u other]; exact whole.live
  · rw [outside.tunnel u other]; exact whole.nodup
  · intro c member
    rw [outside.tunnel u other] at member
    exact outside.sound u c (whole.calls c member) (outside.call_of u c other (whole.calls c member))
  · rw [outside.tunnel u other]; exact own
  · exact outside.sound u s sound (outside.call_of u s other sound)
  · rw [outside.tunnel u other]; exact apart
  · rw [outside.tunnel u other, outside.lns]; exact whole.lns
  · rw [outside.tunnel u other, outside.lac]; exact whole.lac

end Outside

theorem outside_setCall (L : Layout) (t : TunnelPtr) (c : CallPtr) (new : CallLayout)
    (inside : (L.call c).container = t)
    (same : new.container = t) : Outside t L (L.setCall c new) := by
  refine ⟨fun _ _ => rfl, fun x => ?_, fun x other => ?_, rfl, rfl⟩
  · exact write_same L.call CallLayout.container c new (same.trans inside.symm) x
  · refine write_elsewhere L.call c x new ?_
    rintro rfl
    exact other inside

theorem outside_setTunnel (L : Layout) (t : TunnelPtr) (new : TunnelLayout) : Outside t L (L.setTunnel t new) :=
  ⟨fun u other => write_elsewhere L.tunnel t u new other, fun _ => rfl, fun _ _ => rfl, rfl, rfl⟩

theorem outside_drop (L : Layout) (t : TunnelPtr) (c : CallPtr) (inside : (L.call c).container = t) :
    Outside t L (L.drop c) := by
  subst inside
  exact (outside_setTunnel L _ _).trans (outside_setCall _ _ c _ rfl rfl)

theorem outside_flag (L : Layout) (t : TunnelPtr) (c : CallPtr) (needclose closing : Bool)
    (inside : (L.call c).container = t) :
    Outside t L (L.flag c needclose closing) :=
  outside_setCall L t c _ inside inside

theorem flag_here (L : Layout) (c : CallPtr) (needclose closing : Bool) :
    (L.flag c needclose closing).call c = { L.call c with needclose, closing } :=
  write_here _ _ _

theorem flag_call (L : Layout) (c x : CallPtr) (needclose closing : Bool) (other : x ≠ c) :
    (L.flag c needclose closing).call x = L.call x :=
  write_elsewhere _ _ _ _ other

def unlink (L : Layout) (t : TunnelPtr) : Layout := { L with tunnels := L.tunnels.erase t }

theorem outside_unlink (L : Layout) (t : TunnelPtr) : Outside t L (L.unlink t) :=
  ⟨fun _ _ => rfl, fun _ => rfl, fun _ _ => rfl, rfl, rfl⟩

theorem wholeAt_flag (L : Layout) (t : TunnelPtr) (c : CallPtr) (needclose closing : Bool) (whole : L.WholeAt t)
    (inside : (L.call c).container = t) : (L.flag c needclose closing).WholeAt t := by
  have sound (x : CallPtr) (sound : L.Sound t x) : (L.flag c needclose closing).Sound t x := by
    by_cases here : x = c
    · subst here
      constructor <;> rw [flag_here]
      · exact sound.live
      · exact sound.container
      · exact sound.lns
      · exact sound.lac
    · exact (outside_flag L t c needclose closing inside).sound t x sound (flag_call L c x needclose closing here)
  obtain ⟨s, own, ownSound, apart⟩ := whole.own
  exact ⟨whole.live, whole.nodup, fun x member => sound x (whole.calls x member), ⟨s, own, sound s ownSound, apart⟩,
    whole.lns, whole.lac⟩

theorem drop_tunnel (L : Layout) (t : TunnelPtr) (c : CallPtr) (inside : (L.call c).container = t) :
    (L.drop c).tunnel t = { L.tunnel t with calls := (L.tunnel t).calls.erase c } := by
  subst inside
  exact write_here _ _ _

theorem drop_call (L : Layout) (c x : CallPtr) (other : x ≠ c) : (L.drop c).call x = L.call x :=
  write_elsewhere _ _ _ _ other

theorem wholeAt_drop (L : Layout) (t : TunnelPtr) (c : CallPtr) (whole : L.WholeAt t)
    (member : c ∈ (L.tunnel t).calls) :
    (L.drop c).WholeAt t := by
  have inside := (whole.calls c member).container
  have outside := outside_drop L t c inside
  have tunnel := drop_tunnel L t c inside
  obtain ⟨s, own, sound, apart⟩ := whole.own
  have ownApart : s ≠ c := by
    rintro rfl
    exact apart member
  refine ⟨?_, ?_, ?_, ⟨s, ?_, ?_, ?_⟩, ?_, ?_⟩ <;> try rw [tunnel]
  · exact whole.live
  · exact whole.nodup.erase c
  · intro x left
    have remains := (whole.nodup.mem_erase_iff).mp left
    exact outside.sound t x (whole.calls x remains.2) (drop_call L c x remains.1)
  · exact own
  · exact outside.sound t s sound (drop_call L c s ownApart)
  · exact fun still => apart (List.mem_of_mem_erase still)
  · exact whole.lns
  · exact whole.lac

-- On the way to a tunnel without calls; rest are those it still has.
structure Shedding (t : TunnelPtr) (L : Layout) (rest : List CallPtr) (L' : Layout) : Prop where
  outside : Outside t L L'
  tunnels : L'.tunnels = L.tunnels
  whole : L'.WholeAt t
  tunnel : L'.tunnel t = { L.tunnel t with calls := rest }
  own : ∀ s, (L.tunnel t).self = some s → L'.call s = L.call s

namespace Shedding

variable {t : TunnelPtr} {L L' : Layout} {c : CallPtr} {rest : List CallPtr}

theorem start (whole : L.WholeAt t) : Shedding t L (L.tunnel t).calls L := ⟨.refl, rfl, whole, rfl, fun _ _ => rfl⟩

theorem sound (shedding : Shedding t L (c :: rest) L') : L'.Sound t c := by
  refine shedding.whole.calls c ?_
  rw [shedding.tunnel]
  exact List.mem_cons_self

theorem apart (shedding : Shedding t L (c :: rest) L') (s : CallPtr) (own : (L.tunnel t).self = some s) : s ≠ c := by
  obtain ⟨s', own', _, apart⟩ := shedding.whole.own
  rw [shedding.tunnel] at own' apart
  obtain rfl := Option.some.inj (own.symm.trans own')
  rintro rfl
  exact apart List.mem_cons_self

theorem flag (shedding : Shedding t L (c :: rest) L') (needclose closing : Bool) :
    Shedding t L (c :: rest) (L'.flag c needclose closing) where
  outside := shedding.outside.trans (outside_flag L' t c needclose closing shedding.sound.container)
  tunnels := shedding.tunnels
  whole := wholeAt_flag L' t c needclose closing shedding.whole shedding.sound.container
  tunnel := shedding.tunnel
  own s own := (flag_call L' c s needclose closing (shedding.apart s own)).trans (shedding.own s own)

theorem drop (shedding : Shedding t L (c :: rest) L') : Shedding t L rest (L'.drop c) where
  outside := shedding.outside.trans (outside_drop L' t c shedding.sound.container)
  tunnels := shedding.tunnels
  whole := by
    refine wholeAt_drop L' t c shedding.whole ?_
    rw [shedding.tunnel]
    exact List.mem_cons_self
  tunnel := by
    rw [drop_tunnel L' t c shedding.sound.container, shedding.tunnel, List.erase_cons_head]
  own s own := (drop_call L' c s (shedding.apart s own)).trans (shedding.own s own)

end Shedding

end Layout

end ZyAgf.Xl2tpd
