import ZyAgf.Xl2tpd.Operations

set_option autoImplicit false

namespace ZyAgf.Xl2tpd

-- What the handlers of a message read and none of them changes.
structure Standing where
  sanity : Bool
  own : Bool
  tunnel : Option Msg
  call : Option Msg
  secret : CString
deriving DecidableEq, Repr

-- And what the AVPs before it leave for the next one.
structure Reading where
  msgtype : Int
  vector : Option (List UInt8)
deriving DecidableEq, Repr

def standing (d : Daemon) (t : TunnelPtr) (c : CallPtr) : Standing where
  sanity := (d.tunnel t).sanity
  own := (d.tunnel t).self == some c
  tunnel := (d.tunnel t).state
  call := (d.call c).state
  secret := (d.tunnel t).chalUs.secret

def reading (d : Daemon) (t : TunnelPtr) (c : CallPtr) : Reading := ⟨(d.call c).msgtype, (d.tunnel t).chalUs.vector⟩

-- An AVP as its handler gets it, with the message type there is by then.
structure Visit where
  attr : Nat
  avp : AvpData
  msgtype : Int

section Verdicts

variable (env : Env) (s : Standing) (v : Visit)

def Visit.badLength (allowed : List Msg) (lengthOk : Bool) : Bool := s.sanity && isOneOf v.msgtype allowed && !lengthOk

def Visit.admitted (allowed : List Msg) (lengthOk : Bool) : Bool := !s.sanity || isOneOf v.msgtype allowed && lengthOk

def Visit.exactly (allowed : List Msg) (expected : Nat) : Bool :=
    v.badLength s allowed (decide (v.avp.datalen = expected))

def Visit.atLeast (allowed : List Msg) (expected : Nat) : Bool :=
    v.badLength s allowed (decide (expected ≤ v.avp.datalen))

def Visit.typeFails : Bool :=
  decide (v.avp.datalen ≠ 8) ||
    match Msg.ofCode (v.avp.raw 3).toNat with
    | none => true
    | some m => s.sanity && !msgFits s.own s.tunnel s.call m || m == .ICRQ && !env.callMemory

def Visit.fails : Bool :=
  match v.attr with
  | 0 => v.typeFails env s
  | 1 => s.sanity && decide (v.avp.datalen < 8)
  | 2 => s.sanity && decide (v.avp.datalen ≠ 8)
  | 3 => v.exactly s [.SCCRP, .SCCRQ] 10
  | 4 => v.exactly s [.SCCRP, .SCCRQ] 10
  | 6 => v.exactly s [.SCCRP, .SCCRQ] 8
  | 7 => v.atLeast s [.SCCRP, .SCCRQ] 6
  | 8 => v.atLeast s [.SCCRP, .SCCRQ] 6
  | 9 => v.exactly s [.SCCRP, .SCCRQ, .StopCCN] 8
  | 10 => v.exactly s [.SCCRP, .SCCRQ, .OCRP, .OCCN, .StopCCN] 8
  | 11 => v.atLeast s [.SCCRP, .SCCRQ] 6 ||
      v.admitted s [.SCCRP, .SCCRQ] (decide (6 ≤ v.avp.datalen)) && !env.challengeMemory
  | 13 => v.atLeast s [.SCCRP, .SCCCN] 6 ||
      v.admitted s [.SCCRP, .SCCCN] (decide (6 ≤ v.avp.datalen)) && decide (v.avp.size ≠ mdSigSize)
  | 14 => v.exactly s [.CDN, .ICRP, .ICRQ, .OCRP] 8
  | 18 => v.exactly s [.ICRQ, .OCRQ] 10
  | 19 => v.exactly s [.ICCN, .OCRQ, .OCCN] 10
  | 20 => v.exactly s [.ICRP, .OCRQ, .ICCN, .OCRP, .OCCN] 8
  | 21 => v.atLeast s [.OCRQ, .ICRQ] 6
  | 22 => v.atLeast s [.ICRQ] 6
  | 23 => v.atLeast s [.OCRP, .ICRQ] 6
  | 24 => v.exactly s [.ICCN, .OCCN, .OCRP] 10
  | 25 => v.exactly s [.ICRQ, .OCRQ, .OCRP, .OCCN] 10
  | 36 => s.sanity && decide (v.avp.size > maxVectorSize)
  | 38 => v.exactly s [.ICCN, .OCCN, .OCRP] 10
  | 39 => s.sanity && (decide (v.avp.datalen ≠ 6) || !isOneOf v.msgtype [.ICCN])
  | _ => false

-- What the handler stores in the call at the head of the tunnel's list.
def Visit.stores : Option (Call → Call) :=
  match v.attr with
  | 14 =>
      if v.admitted s [.CDN, .ICRP, .ICRQ, .OCRP] (decide (v.avp.datalen = 8)) ∧ v.msgtype = Msg.ICRQ.code then
        some fun cal => { cal with cid := (v.avp.raw 3).toNat }
      else none
  | 15 => if v.admitted s [.ICRQ, .OCRQ] true then some fun cal => { cal with serno := v.avp.long } else none
  | 18 =>
      if v.admitted s [.ICRQ, .OCRQ] (decide (v.avp.datalen = 10)) then
        some fun cal => { cal with bearer := (v.avp.raw 4).toNat }
      else none
  | 21 =>
      if v.admitted s [.OCRQ, .ICRQ] (decide (6 ≤ v.avp.datalen)) then some fun cal =>
        { cal with dialed := v.avp.string } else none
  | 22 =>
      if v.admitted s [.ICRQ] (decide (6 ≤ v.avp.datalen)) then some fun cal =>
        { cal with dialing := v.avp.string } else none
  | 23 =>
      if v.admitted s [.OCRP, .ICRQ] (decide (6 ≤ v.avp.datalen)) then some fun cal =>
        { cal with subaddy := v.avp.string } else none
  | 25 =>
      if v.admitted s [.ICRQ, .OCRQ, .OCRP, .OCCN] (decide (v.avp.datalen = 10)) then
        some fun cal => { cal with physchan := (BitVec.ofNat 32 v.avp.long).toInt }
      else none
  | _ => none

-- Whether the handler marks the call the message came on with an error.
def Visit.complains : Bool :=
  match v.attr with
  | 0 => decide (v.avp.datalen ≠ 8)
  | 11 => v.atLeast s [.SCCRP, .SCCRQ] 6
  | 13 => v.atLeast s [.SCCRP, .SCCCN] 6
  | 39 => s.sanity && decide (v.avp.datalen ≠ 6)
  | _ => v.fails env s

-- Whether it takes a tunnel number, a call number or a result from its AVP.
def Visit.namesTunnel : Bool := v.attr == 9 && v.admitted s [.SCCRP, .SCCRQ, .StopCCN] (decide (v.avp.datalen = 8))

def Visit.namesCall : Bool := v.attr == 14 && v.admitted s [.CDN, .ICRP, .ICRQ, .OCRP] (decide (v.avp.datalen = 8))

def Visit.givesResult : Bool :=
  let result := appleOrder (v.avp.raw 3).toNat
  v.attr == 1 && v.admitted s [.CDN, .StopCCN] (decide (8 ≤ v.avp.datalen)) &&
    !decide (v.msgtype = Msg.StopCCN.code ∧ (result > 7 ∨ result < 1)) &&
    !decide (v.msgtype = Msg.CDN.code ∧ (result > 11 ∨ result < 1))

-- What the handler stores in the call the message came on, the marks left out.
def Visit.inCall : Call → Call :=
  match v.attr with
  | 14 =>
      if v.namesCall s then
        if v.msgtype = Msg.CDN.code then fun cal => { cal with qcid := (v.avp.raw 3).toNat }
        else if v.msgtype = Msg.ICRP.code ∨ v.msgtype = Msg.OCRP.code then fun cal =>
          { cal with cid := (v.avp.raw 3).toNat }
        else id
      else id
  | 19 =>
      if v.admitted s [.ICCN, .OCRQ, .OCCN] (decide (v.avp.datalen = 10)) then
        fun cal => { cal with frame := (v.avp.raw 4).toNat }
      else id
  | 20 =>
      if v.admitted s [.ICRP, .OCRQ, .ICCN, .OCRP, .OCCN] (decide (v.avp.datalen = 8)) then
        fun cal => { cal with ppd := (v.avp.raw 3).toNat }
      else id
  | 24 =>
      if v.admitted s [.ICCN, .OCCN, .OCRP] (decide (v.avp.datalen = 10)) then fun cal =>
        { cal with txspeed := v.avp.long }
      else id
  | 38 =>
      if v.admitted s [.ICCN, .OCCN, .OCRP] (decide (v.avp.datalen = 10)) then fun cal =>
        { cal with rxspeed := v.avp.long }
      else id
  | 39 => if v.fails env s then id else fun cal => { cal with seqReqd := true }
  | _ => id

theorem inCall_other (other : v.attr ∉ [14, 19, 20, 24, 38, 39]) : v.inCall env s = id := by
  unfold Visit.inCall
  split <;> first | rfl | simp_all

theorem complains_other (other : v.attr ∉ [0, 11, 13, 39]) : v.complains env s = v.fails env s := by
  unfold Visit.complains
  split <;> first | rfl | simp_all

theorem stores_other (other : v.attr ∉ [14, 15, 18, 21, 22, 23, 25]) : v.stores s = none := by
  unfold Visit.stores
  split <;> first | rfl | simp_all

-- The handler of the message type makes a call for every ICRQ it takes.
def Visit.makesCall : Bool := v.attr == 0 && (v.avp.raw 3).toNat == Msg.ICRQ.code && !v.typeFails env s

end Verdicts

def Ends {α : Type} (prog : Act α) (d : Daemon) (post : α → Daemon → Prop) : Prop := ∃ a d', prog d = some (a, d') ∧
    post a d'

theorem ends_pure {α : Type} (a : α) (d : Daemon) (post : α → Daemon → Prop) (holds : post a d) : Ends
    (pure a : Act α) d post :=
  ⟨a, d, rfl, holds⟩

theorem ends_bind {α β : Type} (first : Act α) (later : α → Act β) (d : Daemon) (mid : α → Daemon → Prop)
    (post : β → Daemon → Prop) (one : Ends first d mid) (rest : ∀ a d', mid a d' → Ends (later a) d' post) :
    Ends (first >>= later) d post := by
  obtain ⟨a, d₁, ran, holds⟩ := one
  obtain ⟨b, d₂, ran₂, last⟩ := rest a d₁ holds
  exact ⟨b, d₂, (Prog.bind_some _ _ _ _ _).mpr ⟨a, d₁, ran, ran₂⟩, last⟩

theorem bind_ran {α β : Type} (first : Act α) (later : α → Act β) (d d' : Daemon) (a : α)
    (ran : first d = some (a, d')) :
    (first >>= later) d = later a d' := by
  show (first d).bind (fun p => later p.1 p.2) = _
  rw [ran]
  rfl

theorem bind_read {α β : Type} (read : Act α) (later : α → Act β) (d : Daemon) (a : α) (reads : read d = some (a, d)) :
    (read >>= later) d = later a d :=
  bind_ran read later d d a reads

theorem then_return (act : Act PUnit) (result : Int) (d : Daemon) : (do
    act
    return result : Act Int) d = (act d).bind fun done => some (result, done.2) := rfl

theorem readTunnel_live (t : TunnelPtr) (d : Daemon) (live : (d.tunnel t).live = true) : readTunnel t d = some
    (d.tunnel t, d) :=
  (readTunnel_some _ _ _ _).mpr ⟨live, rfl, rfl⟩

theorem readCall_live (c : CallPtr) (d : Daemon) (live : (d.call c).live = true) : readCall c d = some (d.call c, d) :=
  (readCall_some _ _ _ _).mpr ⟨live, rfl, rfl⟩

theorem setTunnel_live (t : TunnelPtr) (change : Tunnel → Tunnel) (d : Daemon) (live : (d.tunnel t).live = true) :
    setTunnel t change d = some (⟨⟩, { d with tunnel := write d.tunnel t (change (d.tunnel t)) }) :=
  (setTunnel_some _ _ _ _ _).mpr ⟨live, rfl⟩

theorem setCall_live (c : CallPtr) (change : Call → Call) (d : Daemon) (live : (d.call c).live = true) :
    setCall c change d = some (⟨⟩, { d with call := write d.call c (change (d.call c)) }) :=
  (setCall_some _ _ _ _ _).mpr ⟨live, rfl⟩

theorem newCall_runs (env : Env) (t : TunnelPtr) (d : Daemon) (memory : env.callMemory = true)
    (live : (d.tunnel t).live = true) :
    newCall env t d = some (some d.fresh, withCall env d t) := by
  unfold newCall withCall callId
  rw [if_neg (not_not_intro memory), bind_read _ _ d _ (readTunnel_live t d live)]
  cases own : (d.tunnel t).self with
  | none => rfl
  | some self => rfl

theorem addIncomingCall_runs (env : Env) (t : TunnelPtr) (d : Daemon) (live : (d.tunnel t).live = true) :
    addIncomingCall env t d = if env.callMemory then some (0, withLinkedCall env d t) else some (einval, d) := by
  cases memory : env.callMemory with
  | false =>
      unfold addIncomingCall newCall
      rw [if_pos (by simp [memory])]
      rfl
  | true =>
      rw [if_pos rfl]
      refine (Prog.bind_some _ _ _ _ _).mpr ⟨_, _, newCall_runs env t d memory live, ?_⟩
      refine (Prog.bind_some _ _ _ _ _).mpr ⟨_, _, setTunnel_live t _ (withCall env d t) live, rfl⟩

-- What the AVPs of a message have to leave alone, in the tunnel and in the call
-- the message came on.
def Tunnel.kept (tun : Tunnel) : Bool × List CallPtr × Bool × Option Msg × Option CallPtr × CString × Option
    (List UInt8) :=
  (tun.live, tun.calls, tun.sanity, tun.state, tun.self, tun.chalUs.secret, tun.chalUs.vector)

def Call.kept (cal : Call) : Bool × Option Msg × Int := (cal.live, cal.state, cal.msgtype)

-- The marks of a message on the call it came on are its type, its result and
-- what is wrong with it.
def Call.unmarked (cal : Call) : Call :=
    { cal with msgtype := 0, result := 0, error := 0, errormsg := [], needclose := false }

def Tunnel.names (tun : Tunnel) : Int × Int := (tun.tid, tun.qtid)

-- Nothing that a later AVP reads has changed, and no other call.
structure Quiet (t : TunnelPtr) (c : CallPtr) (d d' : Daemon) : Prop where
  tunnel : (d'.tunnel t).kept = (d.tunnel t).kept
  call : (d'.call c).kept = (d.call c).kept
  others : ∀ p, p ≠ c → d'.call p = d.call p
  fresh : d'.fresh = d.fresh

section Quiet

variable (t : TunnelPtr) (c : CallPtr) (d : Daemon)

theorem quiet_refl : Quiet t c d d := ⟨rfl, rfl, fun _ _ => rfl, rfl⟩

theorem quiet_tunnel (new : Tunnel) (keeps : new.kept = (d.tunnel t).kept) :
    Quiet t c d { d with tunnel := write d.tunnel t new } :=
  ⟨by simpa using keeps, rfl, fun _ _ => rfl, rfl⟩

theorem quiet_call (new : Call) (keeps : new.kept = (d.call c).kept) : Quiet t c d
    { d with call := write d.call c new } :=
  ⟨rfl, by simpa using keeps, fun p other => write_elsewhere _ _ _ _ other, rfl⟩

-- Only the call the message came on has changed, and only by its marks.
structure Marked (t : TunnelPtr) (c : CallPtr) (d d' : Daemon) : Prop where
  quiet : Quiet t c d d'
  call : (d'.call c).unmarked = (d.call c).unmarked
  tunnel : d'.tunnel = d.tunnel

theorem marked_refl : Marked t c d d := ⟨quiet_refl t c d, rfl, rfl⟩

theorem marked_call (new : Call) (keeps : new.kept = (d.call c).kept) (unmarked : new.unmarked = (d.call c).unmarked) :
    Marked t c d { d with call := write d.call c new } :=
  ⟨quiet_call t c d new keeps, by simpa using unmarked, rfl⟩

end Quiet

-- What a handler leaves in the call the message came on, and the tunnel's names.
structure OwnSide (env : Env) (s : Standing) (v : Visit) (t : TunnelPtr) (c : CallPtr) (d d' : Daemon) : Prop where
  call : (d'.call c).unmarked = v.inCall env s (d.call c).unmarked
  result : v.givesResult s = false → v.complains env s = false → (d'.call c).result = (d.call c).result
  names : v.namesTunnel s = false → (d'.tunnel t).names = (d.tunnel t).names

section OwnSide

variable {env : Env} {s : Standing} {v : Visit} {t : TunnelPtr} {c : CallPtr} {d d' : Daemon}

theorem ownSide_same (out : v.inCall env s = id) (tunnel : (d'.tunnel t).names = (d.tunnel t).names)
    (call : d'.call = d.call) :
    OwnSide env s v t c d d' :=
  ⟨by rw [out, call]; rfl, fun _ _ => by rw [call], fun _ => tunnel⟩

theorem ownSide_refl (out : v.inCall env s = id) : OwnSide env s v t c d d := ownSide_same out rfl rfl

theorem ownSide_then_marked (d₀ : Daemon) (before : OwnSide env s v t c d d₀) (complains : v.complains env s = true)
    (marked : Marked t c d₀ d') : OwnSide env s v t c d d' := by
  refine ⟨marked.call.trans before.call, fun _ fine => ?_, fun out => ?_⟩
  · rw [complains] at fine
    cases fine
  · rw [marked.tunnel]
    exact before.names out

theorem ownSide_marked (out : v.inCall env s = id) (complains : v.complains env s = true) (marked : Marked t c d d') :
    OwnSide env s v t c d d' :=
  ownSide_then_marked d (ownSide_refl out) complains marked

theorem ownSide_call (change : Call → Call) (inCall : v.inCall env s = change)
    (unmarked : (change (d.call c)).unmarked = change (d.call c).unmarked)
    (result : (change (d.call c)).result = (d.call c).result) :
    OwnSide env s v t c d { d with call := write d.call c (change (d.call c)) } :=
  ⟨by simpa [inCall] using unmarked, fun _ _ => by simpa using result, fun _ => rfl⟩

end OwnSide

-- The state a handler is called in.
structure Reads (s : Standing) (r : Reading) (t : TunnelPtr) (c : CallPtr) (d : Daemon) : Prop where
  tunnelLive : (d.tunnel t).live = true
  callLive : (d.call c).live = true
  callsLive : ∀ p ∈ (d.tunnel t).calls, (d.call p).live = true ∧ p < d.fresh
  callOld : c < d.fresh
  standing : standing d t c = s
  reading : reading d t c = r

theorem reads_kept (s : Standing) (r : Reading) (t : TunnelPtr) (c : CallPtr) (d d' : Daemon) (reads : Reads s r t c d)
    (tunnel : (d'.tunnel t).kept = (d.tunnel t).kept) (call : (d'.call c).kept = (d.call c).kept)
    (fresh : d'.fresh = d.fresh)
    (alive : ∀ p, (d.call p).live = true → (d'.call p).live = true) : Reads s r t c d' := by
  simp only [Tunnel.kept, Call.kept, Prod.mk.injEq] at tunnel call
  obtain ⟨live, calls, sanity, state, self, secret, vector⟩ := tunnel
  obtain ⟨callLive, callState, msgtype⟩ := call
  refine ⟨live.trans reads.tunnelLive, callLive.trans reads.callLive, ?_, fresh ▸ reads.callOld, ?_, ?_⟩
  · intro p member
    obtain ⟨wasLive, old⟩ := reads.callsLive p (calls ▸ member)
    exact ⟨alive p wasLive, fresh ▸ old⟩
  · rw [← reads.standing]
    unfold standing
    rw [sanity, state, self, secret, callState]
  · rw [← reads.reading]
    unfold reading
    rw [msgtype, vector]

theorem reads_quiet (s : Standing) (r : Reading) (t : TunnelPtr) (c : CallPtr) (d d' : Daemon) (reads : Reads s r t c d)
    (quiet : Quiet t c d d') : Reads s r t c d' := by
  refine reads_kept s r t c d d' reads quiet.tunnel quiet.call quiet.fresh fun p wasLive => ?_
  by_cases here : p = c
  · have same := quiet.call
    simp only [Call.kept, Prod.mk.injEq] at same
    rw [here, same.1]
    exact reads.callLive
  · rw [quiet.others p here]
    exact wasLive

section Guards

variable {env : Env} {s : Standing} {v : Visit} {vector : Option (List UInt8)} {t : TunnelPtr} {c : CallPtr}
    {d : Daemon}
  (reads : Reads s ⟨v.msgtype, vector⟩ t c d)

include reads

theorem reads_msgtype : (d.call c).msgtype = v.msgtype := congrArg Reading.msgtype reads.reading

theorem reads_sanity : (d.tunnel t).sanity = s.sanity := congrArg Standing.sanity reads.standing

theorem wrongLength_ends (field : String) (expected found : Nat) (atLeast : Bool) (result : Int) :
    Ends (do
      wrongLength c field expected found atLeast
      return result : Act Int) d fun r d' => r = result ∧ Marked t c d d' := by
  refine ends_bind _ _ d (fun _ d' => Marked t c d d') _ ?_ fun _ d' marked => ends_pure _ _ _ ⟨rfl, marked⟩
  exact ⟨_, _, setCall_live c _ d reads.callLive, marked_call t c d _ rfl rfl⟩

def lengthFits (a : AvpData) (expected : Nat) (atLeast : Bool) : Bool :=
  if atLeast then decide (expected ≤ a.datalen) else decide (a.datalen = expected)

theorem expectsThen_cases (allowed : List Msg) (field : String) (expected : Nat) (atLeast : Bool) (body : Handler)
    (post : Option (Int × Daemon) → Prop)
    (skipped : v.badLength s allowed (lengthFits v.avp expected atLeast) = false →
      v.admitted s allowed (lengthFits v.avp expected atLeast) = false → post (some (0, d)))
    (refused : v.badLength s allowed (lengthFits v.avp expected atLeast) = true →
      v.admitted s allowed (lengthFits v.avp expected atLeast) = false → ∀ r d', r ≠ 0 → Marked t c d d' →
        post (some (r, d')))
    (taken : v.badLength s allowed (lengthFits v.avp expected atLeast) = false →
      v.admitted s allowed (lengthFits v.avp expected atLeast) = true → post (body env t c v.avp d)) :
    post (expectsThen allowed field expected atLeast body env t c v.avp d) := by
  have sanity := reads_sanity reads
  have msgtype := reads_msgtype reads
  have fits : (if atLeast then expected ≤ v.avp.datalen else v.avp.datalen = expected) ↔
    lengthFits v.avp expected atLeast = true := by
    unfold lengthFits
    cases atLeast <;> simp
  unfold expectsThen
  rw [bind_read _ _ d _ (readTunnel_live t d reads.tunnelLive), bind_read _ _ d _ (readCall_live c d reads.callLive)]
  rw [sanity, msgtype]
  simp only [fits]
  unfold Visit.badLength Visit.admitted at skipped refused taken
  by_cases sane : s.sanity = true
  · by_cases one : isOneOf v.msgtype allowed = true
    · by_cases long : lengthFits v.avp expected atLeast = true
      · rw [if_neg (by simp [one]), if_neg (by simp [long])]
        exact taken (by simp [sane, one, long]) (by simp [sane, one, long])
      · rw [if_neg (by simp [one]), if_pos ⟨sane, long⟩]
        obtain ⟨r, d', ran, rfl, quiet⟩ := wrongLength_ends reads field expected v.avp.datalen atLeast einval
        rw [ran]
        exact refused (by simp [sane, one, long]) (by simp [sane, one, long]) _ d' (by decide) quiet
    · rw [if_pos ⟨sane, one⟩]
      exact skipped (by simp [sane, one]) (by simp [sane, one])
  · rw [if_neg (by simp [sane]), if_neg (by simp [sane])]
    exact taken (by simp [sane]) (by simp [sane])

-- All a handler can come to.
inductive Outcome (env : Env) (s : Standing) (v : Visit) (t : TunnelPtr) (c : CallPtr) (d : Daemon) : Option
    (Int × Daemon) → Prop where
  | quiet (r : Int) (d' : Daemon) (plain : v.attr ≠ 0) (result : r ≠ 0 ↔ v.fails env s = true)
      (vector : v.attr = 36 → v.fails env s = true) (stores : v.stores s = none) (quiet : Quiet t c d d')
      (ownSide : OwnSide env s v t c d d') : Outcome env s v t c d (some (r, d'))
  | stored (p : CallPtr) (change : Call → Call) (plain : v.attr ≠ 0 ∧ v.attr ≠ 36) (taken : v.fails env s = false)
      (stores : v.stores s = some change) (keeps : ∀ cal, (change cal).kept = cal.kept)
      (head : (d.tunnel t).calls.head? = some p) : Outcome env s v t c d
        (some (0, { d with call := write d.call p (change (d.call p)) }))
  | lost (change : Call → Call) (stores : v.stores s = some change)
    (head : (d.tunnel t).calls.head? = none) : Outcome env s v t c d none
  | vector (attr : v.attr = 36) (taken : v.fails env s = false) : Outcome env s v t c d (some (0, { d with
      tunnel := write d.tunnel t { d.tunnel t with chalUs := { (d.tunnel t).chalUs with vector := some v.avp.value } }
        }))
  | typed (r : Int) (d' : Daemon) (attr : v.attr = 0) (result : r ≠ 0 ↔ v.fails env s = true)
    (none : v.makesCall env s = false)
      (quiet : Quiet t c { d with call := write d.call c { d.call c with msgtype := (v.avp.raw 3).toNat } } d')
      (ownSide : OwnSide env s v t c d d') : Outcome env s v t c d (some (r, d'))
  | called (attr : v.attr = 0) (taken : v.fails env s = false) (made : v.makesCall env s = true) :
      Outcome env s v t c d (some (0, withLinkedCall env { d with
        call := write d.call c { d.call c with msgtype := (v.avp.raw 3).toNat } } t))

theorem expects_quiet (allowed : List Msg) (field : String) (expected : Nat) (atLeast : Bool)
    (store : TunnelPtr → CallPtr → AvpData → Act PUnit) (plain : v.attr ∉ [0, 11, 13, 36, 39])
    (stores : v.stores s = none)
    (fails : v.fails env s = v.badLength s allowed (lengthFits v.avp expected atLeast))
    (inCall : v.admitted s allowed (lengthFits v.avp expected atLeast) = false → v.inCall env s = id)
    (quietly : v.admitted s allowed (lengthFits v.avp expected atLeast) = true →
      Ends (store t c v.avp) d fun _ d' => Quiet t c d d' ∧ OwnSide env s v t c d d') :
    Outcome env s v t c d (expects allowed field expected atLeast store env t c v.avp d) := by
  have typed : v.attr ≠ 0 := by simp_all
  have vector (attr : v.attr = 36) : v.fails env s = true := by simp_all
  have complains : v.complains env s = v.fails env s := complains_other env s v (by simp_all)
  refine expectsThen_cases reads allowed field expected atLeast _ (Outcome env s v t c d) ?_ ?_ ?_
  · intro fine out
    exact .quiet 0 d typed (by simp [fails, fine]) vector stores (quiet_refl t c d) (ownSide_refl (inCall out))
  · intro bad out r d' nonzero marked
    exact .quiet r d' typed (by simp [fails, bad, nonzero]) vector stores marked.quiet
      (ownSide_marked (inCall out) (by rw [complains, fails, bad]) marked)
  · intro fine taken
    obtain ⟨_, d', ran, quiet, ownSide⟩ := quietly taken
    have whole : (store t c v.avp >>= fun _ => return 0 : Act Int) d = some (0, d') :=
      (Prog.bind_some _ _ _ _ _).mpr ⟨_, d', ran, rfl⟩
    rw [whole]
    exact .quiet 0 d' typed (by simp [fails, fine]) vector stores quiet ownSide

theorem setCallHead_outcome (change : Call → Call) (plain : v.attr ≠ 0 ∧ v.attr ≠ 36) (taken : v.fails env s = false)
    (stores : v.stores s = some change) (keeps : ∀ cal, (change cal).kept = cal.kept) :
    Outcome env s v t c d ((do
      setCallHead t change
      return 0 : Act Int) d) := by
  have read : ∀ later : Tunnel → Act PUnit, (readTunnel t >>= later) d = later (d.tunnel t) d :=
    fun later => bind_read _ _ d _ (readTunnel_live t d reads.tunnelLive)
  cases head : (d.tunnel t).calls.head? with
  | none =>
      have nothing : (do
          setCallHead t change
          return 0 : Act Int) d = none := by
        show (setCallHead t change d).bind _ = none
        unfold setCallHead
        rw [read, head]
        rfl
      rw [nothing]
      exact .lost change stores head
  | some p =>
      have live := (reads.callsLive p (List.mem_of_mem_head? head)).1
      have done : (do
          setCallHead t change
          return 0 : Act Int) d = some (0, { d with call := write d.call p (change (d.call p)) }) := by
        refine (Prog.bind_some _ _ _ _ _).mpr ⟨⟨⟩, _, ?_, rfl⟩
        unfold setCallHead
        rw [read, head]
        exact (Prog.bind_some _ _ _ _ _).mpr ⟨p, d, rfl, setCall_live p change d live⟩
      rw [done]
      exact .stored p change plain taken stores keeps head

theorem expects_head (allowed : List Msg) (field : String) (expected : Nat) (atLeast : Bool)
    (change : AvpData → Call → Call) (plain : v.attr ∈ [15, 18, 21, 22, 23, 25])
    (stores : v.stores s = if v.admitted s allowed (lengthFits v.avp expected atLeast) then some
    (change v.avp) else none)
    (fails : v.fails env s = v.badLength s allowed (lengthFits v.avp expected atLeast))
    (keeps : ∀ cal, (change v.avp cal).kept = cal.kept) :
    Outcome env s v t c d (expects allowed field expected atLeast
      (fun t _ a => setCallHead t (change a)) env t c v.avp d) := by
  simp only [List.mem_cons, List.not_mem_nil, or_false] at plain
  have typed : v.attr ≠ 0 := by omega
  have other : v.attr ≠ 36 := by omega
  have inCall : v.inCall env s = id := inCall_other env s v
    (by simp only [List.mem_cons, List.not_mem_nil, or_false]; omega)
  have complains : v.complains env s = v.fails env s :=
    complains_other env s v (by simp only [List.mem_cons, List.not_mem_nil, or_false]; omega)
  refine expectsThen_cases reads allowed field expected atLeast _ (Outcome env s v t c d) ?_ ?_ ?_
  · intro fine out
    exact .quiet 0 d typed (by simp [fails, fine]) (fun attr => absurd attr other) (by simp [stores, out])
      (quiet_refl t c d)
      (ownSide_refl inCall)
  · intro bad out r d' nonzero marked
    exact .quiet r d' typed (by simp [fails, bad, nonzero]) (fun attr => absurd attr other)
      (by simp [stores, out]) marked.quiet
      (ownSide_marked inCall (by rw [complains, fails, bad]) marked)
  · intro fine taken
    exact setCallHead_outcome reads (change v.avp) ⟨typed, other⟩ (by rw [fails, fine]) (by simp [stores, taken]) keeps

theorem expects_tunnel (allowed : List Msg) (field : String) (expected : Nat) (atLeast : Bool)
    (change : AvpData → Tunnel → Tunnel) (member : v.attr ∈ [3, 4, 6, 7, 8, 10])
    (fails : v.fails env s = v.badLength s allowed (lengthFits v.avp expected atLeast))
    (keeps : ∀ tun, (change v.avp tun).kept = tun.kept) (names : ∀ tun, (change v.avp tun).names = tun.names) :
    Outcome env s v t c d (expects allowed field expected atLeast
      (fun t _ a => setTunnel t (change a)) env t c v.avp d) := by
  simp only [List.mem_cons, List.not_mem_nil, or_false] at member
  have stores : v.stores s = none := stores_other s v (by simp only [List.mem_cons, List.not_mem_nil, or_false]; omega)
  have inCall : v.inCall env s = id := inCall_other env s v
    (by simp only [List.mem_cons, List.not_mem_nil, or_false]; omega)
  refine expects_quiet reads allowed field expected atLeast _
    (by simp only [List.mem_cons, List.not_mem_nil, or_false]; omega)
    stores fails (fun _ => inCall) fun _ => ?_
  exact ⟨_, _, setTunnel_live t _ d reads.tunnelLive, quiet_tunnel t c d _ (keeps _),
    ownSide_same inCall (by simpa using names (d.tunnel t)) rfl⟩

theorem expects_call (allowed : List Msg) (field : String) (expected : Nat) (atLeast : Bool)
    (change : AvpData → Call → Call) (member : v.attr ∈ [19, 20, 24, 38])
    (fails : v.fails env s = v.badLength s allowed (lengthFits v.avp expected atLeast))
    (inCall : v.inCall env s = if v.admitted s allowed (lengthFits v.avp expected atLeast) then change v.avp else id)
    (keeps : ∀ cal, (change v.avp cal).kept = cal.kept)
    (unmarked : ∀ cal, (change v.avp cal).unmarked = change v.avp cal.unmarked ∧
    (change v.avp cal).result = cal.result) :
    Outcome env s v t c d (expects allowed field expected atLeast
      (fun _ c a => setCall c (change a)) env t c v.avp d) := by
  simp only [List.mem_cons, List.not_mem_nil, or_false] at member
  have stores : v.stores s = none := stores_other s v (by simp only [List.mem_cons, List.not_mem_nil, or_false]; omega)
  refine expects_quiet reads allowed field expected atLeast _
    (by simp only [List.mem_cons, List.not_mem_nil, or_false]; omega)
    stores fails (fun out => by rw [inCall, out]; rfl) fun taken => ?_
  exact ⟨_, _, setCall_live c _ d reads.callLive, quiet_call t c d _ (keeps _),
    ownSide_call _ (by rw [inCall, if_pos taken]) (unmarked _).1 (unmarked _).2⟩

theorem assignedTunnelAvp_outcome (attr : v.attr = 9) : Outcome env s v t c d (assignedTunnelAvp env t c v.avp d) := by
  have inCall : v.inCall env s = id := inCall_other env s v (by rw [attr]; decide)
  refine expects_quiet reads _ _ 8 false _ (by rw [attr]; decide) (stores_other s v (by rw [attr]; decide))
    (by unfold Visit.fails; rw [attr]; rfl) (fun _ => inCall) fun taken => ?_
  have named : v.namesTunnel s = true := by
    unfold Visit.namesTunnel
    rw [attr]
    exact taken
  refine ends_bind _ _ d (fun a d' => a = d.call c ∧ d' = d) _ ⟨_, d, readCall_live c d reads.callLive, rfl, rfl⟩ ?_
  rintro _ _ ⟨rfl, rfl⟩
  exact ⟨_, _, setTunnel_live t _ _ reads.tunnelLive, quiet_tunnel t c _ _ (by split <;> rfl),
    ⟨by rw [inCall]; rfl, fun _ _ => rfl, fun out => by rw [named] at out; cases out⟩⟩

theorem assignedCallAvp_outcome (attr : v.attr = 14) : Outcome env s v t c d (assignedCallAvp env t c v.avp d) := by
  have msgtype := reads_msgtype reads
  have plain : v.attr ≠ 0 ∧ v.attr ≠ 36 := by omega
  have fails : v.fails env s = v.badLength s [.CDN, .ICRP, .ICRQ, .OCRP] (lengthFits v.avp 8 false) := by
    unfold Visit.fails
    rw [attr]
    rfl
  have stores : v.stores s = if v.admitted s [.CDN, .ICRP, .ICRQ, .OCRP] (lengthFits v.avp 8 false) ∧
    v.msgtype = Msg.ICRQ.code then
      some fun cal => { cal with cid := (v.avp.raw 3).toNat } else none := by
    unfold Visit.stores
    rw [attr]
    rfl
  have inCall : v.inCall env s = if v.admitted s [.CDN, .ICRP, .ICRQ, .OCRP] (lengthFits v.avp 8 false) then
        if v.msgtype = Msg.CDN.code then fun cal => { cal with qcid := (v.avp.raw 3).toNat }
        else if v.msgtype = Msg.ICRP.code ∨ v.msgtype = Msg.OCRP.code then fun cal =>
          { cal with cid := (v.avp.raw 3).toNat }
        else id
      else id := by
    unfold Visit.inCall Visit.namesCall
    rw [attr]
    rfl
  have complains : v.complains env s = v.fails env s := complains_other env s v (by rw [attr]; decide)
  have quietly (d' : Daemon) (out : ¬ (v.admitted s [.CDN, .ICRP, .ICRQ, .OCRP] (lengthFits v.avp 8 false) ∧
    v.msgtype = Msg.ICRQ.code))
      (r : Int) (result : r ≠ 0 ↔ v.fails env s = true) (quiet : Quiet t c d d') (ownSide : OwnSide env s v t c d d') :
      Outcome env s v t c d (some (r, d')) :=
    .quiet r d' plain.1 result (fun attr' => absurd attr' plain.2) (by rw [stores, if_neg out]) quiet ownSide
  unfold assignedCallAvp expects
  refine expectsThen_cases reads _ _ 8 false _ (Outcome env s v t c d) ?_ ?_ ?_
  · intro fine out
    exact quietly d (by simp [out]) 0 (by simp [fails, fine]) (quiet_refl t c d) (ownSide_refl (by simp [inCall, out]))
  · intro bad out r d' nonzero marked
    exact quietly d' (by simp [out]) r (by simp [fails, bad, nonzero]) marked.quiet
      (ownSide_marked (by simp [inCall, out]) (by rw [complains, fails, bad]) marked)
  · intro fine taken
    have taken' : v.fails env s = false := by rw [fails, fine]
    have ownCall (change : Call → Call) (keeps : ∀ cal, (change cal).kept = cal.kept)
      (other : v.msgtype ≠ Msg.ICRQ.code)
        (inCall : v.inCall env s = change)
        (unmarked : ∀ cal, (change cal).unmarked = change cal.unmarked ∧ (change cal).result = cal.result) :
        Outcome env s v t c d ((do
          setCall c change
          return 0 : Act Int) d) := by
      have ran : (do
          setCall c change
          return 0 : Act Int) d = some (0, { d with call := write d.call c (change (d.call c)) }) :=
        (Prog.bind_some _ _ _ _ _).mpr ⟨_, _, setCall_live c _ d reads.callLive, rfl⟩
      rw [ran]
      exact quietly _ (fun both => other both.2) 0 (by simp [taken']) (quiet_call t c d _ (keeps _))
        (ownSide_call change inCall (unmarked _).1 (unmarked _).2)
    rw [then_return]
    beta_reduce
    rw [bind_read _ _ d _ (readCall_live c d reads.callLive), msgtype]
    by_cases closing : v.msgtype = Msg.CDN.code
    · rw [if_pos closing, ← then_return]
      exact ownCall _ (fun _ => rfl) (by rw [closing]; decide) (by rw [inCall, if_pos taken, if_pos closing]) fun _ =>
        ⟨rfl, rfl⟩
    rw [if_neg closing]
    by_cases incoming : v.msgtype = Msg.ICRQ.code
    · rw [if_pos incoming, ← then_return]
      exact setCallHead_outcome reads _ plain taken' (by rw [stores, if_pos ⟨taken, incoming⟩]) fun _ => rfl
    rw [if_neg incoming]
    by_cases answered : v.msgtype = Msg.ICRP.code ∨ v.msgtype = Msg.OCRP.code
    · rw [if_pos answered, ← then_return]
      exact ownCall _ (fun _ => rfl) incoming (by rw [inCall, if_pos taken, if_neg closing, if_pos answered]) fun _ =>
        ⟨rfl, rfl⟩
    · rw [if_neg answered]
      exact quietly d (fun both => incoming both.2) 0 (by simp [taken']) (quiet_refl t c d)
        (ownSide_refl (by rw [inCall, if_pos taken, if_neg closing, if_neg answered]))

theorem setTunnel_return (change : Tunnel → Tunnel) (result : Int) : (do
    setTunnel t change
    return result : Act Int) d = some (result, { d with tunnel := write d.tunnel t (change (d.tunnel t)) }) :=
  (Prog.bind_some _ _ _ _ _).mpr ⟨_, _, setTunnel_live t change d reads.tunnelLive, rfl⟩

theorem setCall_return (change : Call → Call) (result : Int) : (do
    setCall c change
    return result : Act Int) d = some (result, { d with call := write d.call c (change (d.call c)) }) :=
  (Prog.bind_some _ _ _ _ _).mpr ⟨_, _, setCall_live c change d reads.callLive, rfl⟩

theorem challengeAvp_outcome (attr : v.attr = 11) : Outcome env s v t c d (challengeAvp env t c v.avp d) := by
  have plain : v.attr ≠ 0 := by omega
  have stores := stores_other s v (by rw [attr]; decide)
  have fails : v.fails env s = (v.badLength s [.SCCRP, .SCCRQ] (lengthFits v.avp 6 true) ||
      v.admitted s [.SCCRP, .SCCRQ] (lengthFits v.avp 6 true) && !env.challengeMemory) := by
    unfold Visit.fails
    rw [attr]
    rfl
  have vector (attr' : v.attr = 36) : v.fails env s = true := by omega
  have inCall : v.inCall env s = id := inCall_other env s v (by rw [attr]; decide)
  have complains : v.complains env s = v.badLength s [.SCCRP, .SCCRQ] (lengthFits v.avp 6 true) := by
    unfold Visit.complains
    rw [attr]
    rfl
  unfold challengeAvp
  refine expectsThen_cases reads _ _ 6 true _ (Outcome env s v t c d) ?_ ?_ ?_
  · intro fine out
    exact .quiet 0 d plain (by simp [fails, fine, out]) vector stores (quiet_refl t c d) (ownSide_refl inCall)
  · intro bad out r d' nonzero marked
    exact .quiet r d' plain (by simp [fails, bad, nonzero]) vector stores marked.quiet
      (ownSide_marked inCall (by rw [complains, bad]) marked)
  · intro fine taken
    by_cases memory : env.challengeMemory = true
    · rw [if_neg (not_not_intro memory), setTunnel_return reads]
      exact .quiet 0 _ plain (by simp [fails, fine, memory]) vector stores (quiet_tunnel t c d _ rfl)
        (ownSide_same inCall (by simp [Tunnel.names]) rfl)
    · rw [if_pos memory, setTunnel_return reads]
      exact .quiet enomem _ plain (by simp [fails, fine, taken, memory, enomem]) vector stores
        (quiet_tunnel t c d _ rfl)
        (ownSide_same inCall (by simp [Tunnel.names]) rfl)

theorem chalrespAvp_outcome (attr : v.attr = 13) : Outcome env s v t c d (chalrespAvp env t c v.avp d) := by
  have plain : v.attr ≠ 0 := by omega
  have stores := stores_other s v (by rw [attr]; decide)
  have fails : v.fails env s = (v.badLength s [.SCCRP, .SCCCN] (lengthFits v.avp 6 true) ||
      v.admitted s [.SCCRP, .SCCCN] (lengthFits v.avp 6 true) && decide (v.avp.size ≠ mdSigSize)) := by
    unfold Visit.fails
    rw [attr]
    rfl
  have vector (attr' : v.attr = 36) : v.fails env s = true := by omega
  have inCall : v.inCall env s = id := inCall_other env s v (by rw [attr]; decide)
  have complains : v.complains env s = v.badLength s [.SCCRP, .SCCCN] (lengthFits v.avp 6 true) := by
    unfold Visit.complains
    rw [attr]
    rfl
  unfold chalrespAvp
  refine expectsThen_cases reads _ _ 6 true _ (Outcome env s v t c d) ?_ ?_ ?_
  · intro fine out
    exact .quiet 0 d plain (by simp [fails, fine, out]) vector stores (quiet_refl t c d) (ownSide_refl inCall)
  · intro bad out r d' nonzero marked
    exact .quiet r d' plain (by simp [fails, bad, nonzero]) vector stores marked.quiet
      (ownSide_marked inCall (by rw [complains, bad]) marked)
  · intro fine taken
    by_cases size : v.avp.size = mdSigSize
    · rw [if_neg (not_not_intro size), setTunnel_return reads]
      exact .quiet 0 _ plain (by simp [fails, fine, size]) vector stores (quiet_tunnel t c d _ rfl)
        (ownSide_same inCall (by simp [Tunnel.names]) rfl)
    · rw [if_pos size]
      exact .quiet einval d plain (by simp [fails, fine, taken, size, einval]) vector stores (quiet_refl t c d)
        (ownSide_refl inCall)

theorem randVectorAvp_outcome (attr : v.attr = 36) : Outcome env s v t c d (randVectorAvp env t c v.avp d) := by
  have fails : v.fails env s = (s.sanity && decide (v.avp.size > maxVectorSize)) := by
    unfold Visit.fails
    rw [attr]
    rfl
  have stores := stores_other s v (by rw [attr]; decide)
  unfold randVectorAvp
  rw [bind_read _ _ d _ (readTunnel_live t d reads.tunnelLive), reads_sanity reads]
  by_cases large : s.sanity = true ∧ v.avp.size > maxVectorSize
  · rw [if_pos large]
    obtain ⟨r, d', ran, rfl, marked⟩ := wrongLength_ends reads "Random Vector" 6 v.avp.datalen true einval
    have bad : v.fails env s = true := by simp [fails, large.1, large.2]
    have complains : v.complains env s = true := (complains_other env s v (by rw [attr]; decide)).trans bad
    rw [ran]
    exact .quiet einval d' (by omega) (by simp [bad, einval]) (fun _ => bad) stores marked.quiet
      (ownSide_marked (inCall_other env s v (by rw [attr]; decide)) complains marked)
  · rw [if_neg large, setTunnel_return reads]
    exact .vector attr (by rw [fails]; simpa using large)

theorem seqReqdAvp_outcome (attr : v.attr = 39) : Outcome env s v t c d (seqReqdAvp env t c v.avp d) := by
  have plain : v.attr ≠ 0 := by omega
  have stores := stores_other s v (by rw [attr]; decide)
  have fails : v.fails env s = (s.sanity && (decide (v.avp.datalen ≠ 6) || !isOneOf v.msgtype [.ICCN])) := by
    unfold Visit.fails
    rw [attr]
    rfl
  have vector (attr' : v.attr = 36) : v.fails env s = true := by omega
  have inCall : v.inCall env s = if v.fails env s then id else fun cal => { cal with seqReqd := true } := by
    unfold Visit.inCall
    rw [attr]
    rfl
  unfold seqReqdAvp
  rw [bind_read _ _ d _ (readTunnel_live t d reads.tunnelLive), bind_read _ _ d _ (readCall_live c d reads.callLive),
    reads_sanity reads, reads_msgtype reads]
  by_cases long : s.sanity = true ∧ v.avp.datalen ≠ 6
  · rw [if_pos long]
    obtain ⟨r, d', ran, rfl, marked⟩ := wrongLength_ends reads "Sequencing Required" 6 v.avp.datalen true einval
    have bad : v.fails env s = true := by simp [fails, long.1, long.2]
    rw [ran]
    refine .quiet einval d' plain (by simp [bad, einval]) vector stores marked.quiet (ownSide_marked ?_ ?_ marked)
    · rw [inCall, if_pos bad]
    · unfold Visit.complains
      rw [attr]
      simp [long.1, long.2]
  rw [if_neg long]
  by_cases wrong : s.sanity = true ∧ ¬ isOneOf v.msgtype [.ICCN]
  · have bad : v.fails env s = true := by simp [fails, wrong.1, wrong.2]
    rw [if_pos wrong]
    exact .quiet einval d plain (by simp [bad, einval]) vector stores (quiet_refl t c d)
      (ownSide_refl (by rw [inCall, if_pos bad]))
  · have fine : ¬ v.fails env s = true := by
      simp only [fails, Bool.and_eq_true, Bool.or_eq_true, decide_eq_true_eq, Bool.not_eq_true', ne_eq]
      rintro ⟨sane, short | other⟩
      · exact long ⟨sane, short⟩
      · exact wrong ⟨sane, by simp [other]⟩
    rw [if_neg wrong, setCall_return reads]
    exact .quiet 0 _ plain (by simp [fine]) vector stores (quiet_call t c d _ rfl)
      (ownSide_call (fun cal => { cal with seqReqd := true }) (by rw [inCall, if_neg fine]) rfl rfl)

theorem protocolVersionAvp_outcome (attr : v.attr = 2) : Outcome env s v t c d
    (protocolVersionAvp env t c v.avp d) := by
  have plain : v.attr ≠ 0 := by omega
  have stores := stores_other s v (by rw [attr]; decide)
  have fails : v.fails env s = (s.sanity && decide (v.avp.datalen ≠ 8)) := by
    unfold Visit.fails
    rw [attr]
    rfl
  have vector (attr' : v.attr = 36) : v.fails env s = true := by omega
  have inCall : v.inCall env s = id := inCall_other env s v (by rw [attr]; decide)
  unfold protocolVersionAvp
  rw [bind_read _ _ d _ (readTunnel_live t d reads.tunnelLive), reads_sanity reads]
  by_cases long : s.sanity = true ∧ v.avp.datalen ≠ 8
  · rw [if_pos long]
    obtain ⟨r, d', ran, rfl, marked⟩ := wrongLength_ends reads "Protocol Version" 8 v.avp.datalen true einval
    have bad : v.fails env s = true := by simp [fails, long.1, long.2]
    rw [ran]
    exact .quiet einval d' plain (by simp [bad, einval]) vector stores marked.quiet
      (ownSide_marked inCall ((complains_other env s v (by rw [attr]; decide)).trans bad) marked)
  · rw [if_neg long]
    exact .quiet 0 d plain (by rw [fails]; simpa using long) vector stores (quiet_refl t c d) (ownSide_refl inCall)

theorem resultCodeAvp_outcome (attr : v.attr = 1) : Outcome env s v t c d (resultCodeAvp env t c v.avp d) := by
  have plain : v.attr ≠ 0 := by omega
  have stores := stores_other s v (by rw [attr]; decide)
  have fails : v.fails env s = (s.sanity && decide (v.avp.datalen < 8)) := by
    unfold Visit.fails
    rw [attr]
    rfl
  have vector (attr' : v.attr = 36) : v.fails env s = true := by omega
  have inCall : v.inCall env s = id := inCall_other env s v (by rw [attr]; decide)
  unfold resultCodeAvp
  rw [bind_read _ _ d _ (readTunnel_live t d reads.tunnelLive), bind_read _ _ d _ (readCall_live c d reads.callLive),
    reads_sanity reads, reads_msgtype reads]
  by_cases short : s.sanity = true ∧ v.avp.datalen < 8
  · rw [if_pos short]
    obtain ⟨r, d', ran, rfl, marked⟩ := wrongLength_ends reads "Result Code" 8 v.avp.datalen true einval
    have bad : v.fails env s = true := by simp [fails, short.1, short.2]
    rw [ran]
    exact .quiet einval d' plain (by simp [bad, einval]) vector stores marked.quiet
      (ownSide_marked inCall ((complains_other env s v (by rw [attr]; decide)).trans bad) marked)
  rw [if_neg short]
  have result (d' : Daemon) (quiet : Quiet t c d d') (ownSide : OwnSide env s v t c d d') : Outcome env s v t c d
    (some (0, d')) :=
    .quiet 0 d' plain (by rw [fails]; simpa using short) vector stores quiet ownSide
  have ignored : Outcome env s v t c d (some (0, d)) := result d (quiet_refl t c d) (ownSide_refl inCall)
  by_cases misplaced : s.sanity = true ∧ ¬ isOneOf v.msgtype [.CDN, .StopCCN]
  · rw [if_pos misplaced]
    exact ignored
  rw [if_neg misplaced]
  by_cases stopping : v.msgtype = Msg.StopCCN.code ∧
    (appleOrder (v.avp.raw 3).toNat > 7 ∨ appleOrder (v.avp.raw 3).toNat < 1)
  · rw [if_pos stopping]
    exact ignored
  rw [if_neg stopping]
  by_cases closing : v.msgtype = Msg.CDN.code ∧
    (appleOrder (v.avp.raw 3).toNat > 11 ∨ appleOrder (v.avp.raw 3).toNat < 1)
  · rw [if_pos closing]
    exact ignored
  · rw [if_neg closing, setCall_return reads]
    have given : v.givesResult s = true := by
      have admitted : v.admitted s [.CDN, .StopCCN] (decide (8 ≤ v.avp.datalen)) = true := by
        unfold Visit.admitted
        by_cases sane : s.sanity = true
        · have placed : isOneOf v.msgtype [.CDN, .StopCCN] = true := by simpa [sane] using misplaced
          have long : 8 ≤ v.avp.datalen := by simpa [sane] using short
          simp [placed, long]
        · simp [sane]
      simp only [Visit.givesResult, attr, admitted, stopping, closing]
      rfl
    refine result _ (quiet_call t c d _ rfl) ⟨by rw [inCall]; simp [Call.unmarked], fun out => ?_, fun _ => rfl⟩
    rw [given] at out
    cases out

theorem messageTypeAvp_outcome (attr : v.attr = 0) : Outcome env s v t c d (messageTypeAvp env t c v.avp d) := by
  have fails : v.fails env s = v.typeFails env s := by
    unfold Visit.fails
    rw [attr]
    rfl
  have makes : v.makesCall env s = ((v.avp.raw 3).toNat == Msg.ICRQ.code && !v.typeFails env s) := by
    unfold Visit.makesCall
    rw [attr]
    rfl
  unfold messageTypeAvp
  rw [bind_ran _ _ d _ _ (setCall_live c _ d reads.callLive)]
  generalize typed : ({ d with call := write d.call c { d.call c with msgtype := (v.avp.raw 3).toNat } } : Daemon) = d₀
  have sameTunnel : d₀.tunnel = d.tunnel := by rw [← typed]
  have tunnelLive : (d₀.tunnel t).live = true := by rw [sameTunnel]; exact reads.tunnelLive
  have callLive : (d₀.call c).live = true := by rw [← typed]; simpa using reads.callLive
  have state : (d₀.call c).state = s.call := by
    rw [← reads.standing, ← typed]
    simp [standing]
  have own : OwnSide env s v t c d d₀ := by
    rw [← typed]
    exact ⟨by rw [inCall_other env s v (by rw [attr]; decide)]; simp [Call.unmarked], fun _ _ => by simp, fun _ => rfl⟩
  have refused (d' : Daemon) (quiet : Quiet t c d₀ d') (ownSide : OwnSide env s v t c d d')
    (bad : v.typeFails env s = true) :
      Outcome env s v t c d (some (einval, d')) :=
    .typed einval d' attr (by rw [fails, bad]; decide) (by rw [makes, bad]; simp) (typed ▸ quiet) ownSide
  rw [bind_read _ _ d₀ _ (readTunnel_live t d₀ tunnelLive), bind_read _ _ d₀ _ (readCall_live c d₀ callLive)]
  by_cases long : v.avp.datalen ≠ 8
  · rw [if_pos long]
    have ran : (do
        wrongLength c "Message Type" 8 v.avp.datalen false
        return einval : Act Int) d₀ = _ := bind_ran _ _ d₀ _ _ (setCall_live c _ d₀ callLive)
    have complains : v.complains env s = true := by
      unfold Visit.complains
      rw [attr]
      exact decide_eq_true long
    rw [ran]
    exact refused _ (quiet_call t c d₀ _ rfl) (ownSide_then_marked d₀ own complains (marked_call t c d₀ _ rfl rfl))
      (by unfold Visit.typeFails; simp [long])
  rw [if_neg long]
  cases known : Msg.ofCode (v.avp.raw 3).toNat with
  | none => exact refused d₀ (quiet_refl t c d₀) own (by unfold Visit.typeFails; simp [known])
  | some m =>
      have code : ((v.avp.raw 3).toNat == Msg.ICRQ.code) = (m == .ICRQ) := by
        have same : m.code = (v.avp.raw 3).toNat := Int.ofNat.inj (Msg.code_ofCode _ m known)
        rw [← same]
        cases m <;> rfl
      have fits : (d₀.tunnel t).sanity = true ∧ ¬ msgFits ((d₀.tunnel t).self == some c) (d₀.tunnel t).state
        (d₀.call c).state m = true ↔
          s.sanity = true ∧ ¬ msgFits s.own s.tunnel s.call m = true := by
        rw [state, sameTunnel, ← reads.standing]
        rfl
      have verdict : v.typeFails env s = (s.sanity && !msgFits s.own s.tunnel s.call m || m == .ICRQ &&
        !env.callMemory) := by
        unfold Visit.typeFails
        rw [known]
        simp [not_not.mp long]
      rw [code] at makes
      dsimp only
      by_cases misfit : s.sanity = true ∧ ¬ msgFits s.own s.tunnel s.call m = true
      · rw [if_pos (fits.mpr misfit)]
        exact refused d₀ (quiet_refl t c d₀) own (by simp [verdict, misfit.1, misfit.2])
      rw [if_neg (fun here => misfit (fits.mp here))]
      have fitting : (s.sanity && !msgFits s.own s.tunnel s.call m) = false := by simpa using misfit
      by_cases incoming : m = .ICRQ
      · rw [if_pos incoming, addIncomingCall_runs env t d₀ tunnelLive]
        cases memory : env.callMemory with
        | false =>
            rw [if_neg (by simp)]
            exact refused d₀ (quiet_refl t c d₀) own (by simp [verdict, incoming, memory])
        | true =>
            rw [if_pos rfl, ← typed]
            refine .called attr ?_ ?_
            · rw [fails, verdict, fitting, memory]
              simp
            · rw [makes, verdict, fitting, memory]
              simp [incoming]
      · rw [if_neg incoming]
        have quiet : Quiet t c { d with call := write d.call c { d.call c with msgtype := (v.avp.raw 3).toNat } }
          d₀ := by
          rw [typed]
          exact quiet_refl t c d₀
        refine .typed 0 d₀ attr ?_ ?_ quiet own
        · rw [fails, verdict, fitting]
          simp [incoming]
        · rw [makes]
          simp [incoming]

omit reads in
theorem ignoreAvp_outcome (attr : v.attr ∈ [29, 30, 31, 32, 33, 35]) : Outcome env s v t c d
    (ignoreAvp env t c v.avp d) := by
  refine .quiet 0 d ?_ ?_ ?_ (stores_other s v ?_) (quiet_refl t c d) (ownSide_refl (inCall_other env s v ?_))
  · rintro zero
    simp [zero] at attr
  · unfold Visit.fails
    split <;> simp_all
  · rintro random
    simp [random] at attr
  · simp only [List.mem_cons, List.not_mem_nil, or_false] at attr ⊢
    omega
  · simp only [List.mem_cons, List.not_mem_nil, or_false] at attr ⊢
    omega

theorem handler_outcome (handler : Handler) (found : (avps v.attr).1 = some handler) :
    Outcome env s v t c d (handler env t c v.avp d) := by
  generalize attr : v.attr = n at found
  unfold avps at found
  split at found
  · obtain rfl := Option.some.inj found
    exact messageTypeAvp_outcome reads attr
  · obtain rfl := Option.some.inj found
    exact resultCodeAvp_outcome reads attr
  · obtain rfl := Option.some.inj found
    exact protocolVersionAvp_outcome reads attr
  · obtain rfl := Option.some.inj found
    exact expects_tunnel reads _ _ _ _ _ (by rw [attr]; decide) (by unfold Visit.fails; rw [attr]; rfl) (fun _ => rfl)
      fun _ => rfl
  · obtain rfl := Option.some.inj found
    exact expects_tunnel reads _ _ _ _ _ (by rw [attr]; decide) (by unfold Visit.fails; rw [attr]; rfl) (fun _ => rfl)
      fun _ => rfl
  · cases found
  · obtain rfl := Option.some.inj found
    exact expects_tunnel reads _ _ _ _ _ (by rw [attr]; decide) (by unfold Visit.fails; rw [attr]; rfl) (fun _ => rfl)
      fun _ => rfl
  · obtain rfl := Option.some.inj found
    exact expects_tunnel reads _ _ _ _ _ (by rw [attr]; decide) (by unfold Visit.fails; rw [attr]; rfl) (fun _ => rfl)
      fun _ => rfl
  · obtain rfl := Option.some.inj found
    exact expects_tunnel reads _ _ _ _ _ (by rw [attr]; decide) (by unfold Visit.fails; rw [attr]; rfl) (fun _ => rfl)
      fun _ => rfl
  · obtain rfl := Option.some.inj found
    exact assignedTunnelAvp_outcome reads attr
  · obtain rfl := Option.some.inj found
    exact expects_tunnel reads _ _ _ _ _ (by rw [attr]; decide) (by unfold Visit.fails; rw [attr]; rfl) (fun _ => rfl)
      fun _ => rfl
  · obtain rfl := Option.some.inj found
    exact challengeAvp_outcome reads attr
  · cases found
  · obtain rfl := Option.some.inj found
    exact chalrespAvp_outcome reads attr
  · obtain rfl := Option.some.inj found
    exact assignedCallAvp_outcome reads attr
  · obtain rfl := Option.some.inj found
    exact expects_head reads _ _ _ _ _ (by rw [attr]; decide) (by unfold Visit.stores; rw [attr]; rfl)
      (by unfold Visit.fails; rw [attr]; simp [Visit.badLength, lengthFits]) fun _ => rfl
  · cases found
  · cases found
  · obtain rfl := Option.some.inj found
    exact expects_head reads _ _ _ _ _ (by rw [attr]; decide) (by unfold Visit.stores; rw [attr]; rfl)
      (by unfold Visit.fails; rw [attr]; rfl) fun _ => rfl
  · obtain rfl := Option.some.inj found
    exact expects_call reads _ _ _ _ _ (by rw [attr]; decide) (by unfold Visit.fails; rw [attr]; rfl)
      (by unfold Visit.inCall; rw [attr]; rfl) (fun _ => rfl) fun _ => ⟨rfl, rfl⟩
  · obtain rfl := Option.some.inj found
    exact expects_call reads _ _ _ _ _ (by rw [attr]; decide) (by unfold Visit.fails; rw [attr]; rfl)
      (by unfold Visit.inCall; rw [attr]; rfl) (fun _ => rfl) fun _ => ⟨rfl, rfl⟩
  · obtain rfl := Option.some.inj found
    exact expects_head reads _ _ _ _ _ (by rw [attr]; decide) (by unfold Visit.stores; rw [attr]; rfl)
      (by unfold Visit.fails; rw [attr]; rfl) fun _ => rfl
  · obtain rfl := Option.some.inj found
    exact expects_head reads _ _ _ _ _ (by rw [attr]; decide) (by unfold Visit.stores; rw [attr]; rfl)
      (by unfold Visit.fails; rw [attr]; rfl) fun _ => rfl
  · obtain rfl := Option.some.inj found
    exact expects_head reads _ _ _ _ _ (by rw [attr]; decide) (by unfold Visit.stores; rw [attr]; rfl)
      (by unfold Visit.fails; rw [attr]; rfl) fun _ => rfl
  · obtain rfl := Option.some.inj found
    exact expects_call reads _ _ _ _ _ (by rw [attr]; decide) (by unfold Visit.fails; rw [attr]; rfl)
      (by unfold Visit.inCall; rw [attr]; rfl) (fun _ => rfl) fun _ => ⟨rfl, rfl⟩
  · obtain rfl := Option.some.inj found
    exact expects_head reads _ _ _ _ _ (by rw [attr]; decide) (by unfold Visit.stores; rw [attr]; rfl)
      (by unfold Visit.fails; rw [attr]; rfl) fun _ => rfl
  · cases found
  · cases found
  · cases found
  · obtain rfl := Option.some.inj found
    exact ignoreAvp_outcome (by rw [attr]; decide)
  · obtain rfl := Option.some.inj found
    exact ignoreAvp_outcome (by rw [attr]; decide)
  · obtain rfl := Option.some.inj found
    exact ignoreAvp_outcome (by rw [attr]; decide)
  · obtain rfl := Option.some.inj found
    exact ignoreAvp_outcome (by rw [attr]; decide)
  · obtain rfl := Option.some.inj found
    exact ignoreAvp_outcome (by rw [attr]; decide)
  · cases found
  · obtain rfl := Option.some.inj found
    exact ignoreAvp_outcome (by rw [attr]; decide)
  · obtain rfl := Option.some.inj found
    exact randVectorAvp_outcome reads attr
  · cases found
  · obtain rfl := Option.some.inj found
    exact expects_call reads _ _ _ _ _ (by rw [attr]; decide) (by unfold Visit.fails; rw [attr]; rfl)
      (by unfold Visit.inCall; rw [attr]; rfl) (fun _ => rfl) fun _ => ⟨rfl, rfl⟩
  · obtain rfl := Option.some.inj found
    exact seqReqdAvp_outcome reads attr
  · cases found

end Guards

end ZyAgf.Xl2tpd
