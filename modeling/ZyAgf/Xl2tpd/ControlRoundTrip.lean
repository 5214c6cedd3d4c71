import ZyAgf.Xl2tpd.AvpBounds
import ZyAgf.Xl2tpd.ControlBuild

set_option autoImplicit false

namespace ZyAgf.Xl2tpd

def Item.Held (m : Msg) (tun : Tunnel) (cal : Call) : Item → Prop
  | .messageType _ | .protocol => True
  | .resultCode result error msg => cal.result = result ∧ cal.error = error ∧ cal.errormsg = msg.take (maxStrLen - 1)
  | .frameCaps caps => tun.fc = caps
  | .bearerCaps caps => tun.bc = caps
  | .firmware => tun.firmware = 0x0690
  | .hostname name => tun.hostname = name.take (maxStrLen - 1)
  | .vendor => tun.vendor = text "xelerance.com"
  | .tunnelid tid => if m = .StopCCN then tun.qtid = tid else tun.tid = tid
  | .rws size => tun.rws = size
  | .challenge bytes => tun.chalUs.challenge = bytes ∧ tun.chalUs.challenged = true
  | .chalresp response => tun.chalThem.reply = response
  | .callid id => if m = .CDN then cal.qcid = id else cal.cid = id
  | .serno number => cal.serno = number
  | .bearer type => cal.bearer = type
  | .frame type => cal.frame = type
  | .txspeed speed => cal.txspeed = speed
  | .randvect vector => tun.chalUs.vector = some vector
  | .rxspeed speed => cal.rxspeed = speed

section Held

variable (m : Msg) (tun : Tunnel) (cal : Call)

theorem held_here (item : Item) (carried : item.Carried m) : item.Held m (item.intoTunnel m tun)
    (item.intoCall m cal) := by
  cases item with
  | resultCode result error msg => exact ⟨rfl, rfl, rfl⟩
  | tunnelid tid =>
      unfold Item.Held Item.intoTunnel
      dsimp only
      split <;> rfl
  | callid id =>
      unfold Item.Held Item.intoCall
      dsimp only
      split <;> rfl
  | challenge bytes => exact ⟨rfl, rfl⟩
  | txspeed speed => exact Int.toNat_of_nonneg carried.1
  | rxspeed speed => exact Int.toNat_of_nonneg carried.1
  | messageType _ => trivial
  | protocol => trivial
  | _ => rfl

theorem held_kept (item other : Item) (different : other.attr ≠ item.attr) (held : item.Held m tun cal) :
    item.Held m (other.intoTunnel m tun) (other.intoCall m cal) := by
  cases other with
  | tunnelid tid =>
      unfold Item.intoTunnel
      dsimp only
      cases item <;> first | exact absurd rfl different | (split <;> exact held)
  | callid id =>
      unfold Item.intoCall
      dsimp only
      cases item <;> first | exact absurd rfl different | (split <;> exact held)
  | _ => cases item <;> first | exact held | exact absurd rfl different

theorem held_foldl (item : Item) (rest : List Item) (others : ∀ other ∈ rest, other.attr ≠ item.attr)
    (held : item.Held m tun cal) :
    item.Held m (rest.foldl (Item.intoTunnel m) tun) (rest.foldl (Item.intoCall m) cal) := by
  induction rest generalizing tun cal with
  | nil => exact held
  | cons other rest ih =>
      rw [List.foldl_cons, List.foldl_cons]
      exact ih _ _ (fun later member => others later (List.mem_cons_of_mem _ member))
        (held_kept m tun cal item other (others other List.mem_cons_self) held)

theorem foldl_held (items : List Item) (distinct : (items.map Item.attr).Nodup)
    (carried : ∀ item ∈ items, item.Carried m) :
    ∀ item ∈ items, item.Held m (items.foldl (Item.intoTunnel m) tun) (items.foldl (Item.intoCall m) cal) := by
  induction items generalizing tun cal with
  | nil => nofun
  | cons first rest ih =>
      rw [List.map_cons, List.nodup_cons] at distinct
      intro item member
      rw [List.foldl_cons, List.foldl_cons]
      rcases List.mem_cons.mp member with rfl | later
      · refine held_foldl m _ _ item rest (fun other inside same => distinct.1 ?_)
          (held_here m tun cal item (carried item member))
        exact List.mem_map.mpr ⟨other, inside, same⟩
      · exact ih _ _ distinct.2 (fun other inside => carried other (List.mem_cons_of_mem _ inside)) item later

end Held

section Spoken

variable (env : Env) (s : Daemon) (t : TunnelPtr) (c : CallPtr) (asks : Bool) (m : Msg)

theorem vectorItems_attrs (tun : Tunnel) : (vectorItems tun).map Item.attr = [] ∨
    (vectorItems tun).map Item.attr = [36] := by
  unfold vectorItems
  split
  · cases tun.chalThem.vector with
    | none => exact .inl rfl
    | some vector => exact .inr rfl
  · exact .inl rfl

theorem askItems_attrs (tun : Tunnel) : (askItems asks tun).map Item.attr = [] ∨
    (askItems asks tun).map Item.attr = [11] := by
  cases asks with
  | false => exact .inl rfl
  | true => exact .inr rfl

theorem answerItems_attrs (tun : Tunnel) : (answerItems tun).map Item.attr = [] ∨
    (answerItems tun).map Item.attr = [13] := by
  unfold answerItems
  split
  · exact .inr rfl
  · exact .inl rfl

theorem introItems_attrs (tun : Tunnel) : ∃ first last, (first = [] ∨ first = [36]) ∧ (last = [] ∨ last = [10]) ∧
    (introItems env s tun).map Item.attr = first ++ [2, 3, 4, 6, 7, 8, 9] ++ last := by
  refine ⟨_, (if 0 ≤ tun.ourrws then [Item.rws tun.ourrws] else []).map Item.attr, vectorItems_attrs tun, ?_, ?_⟩
  · split
    · exact .inr rfl
    · exact .inl rfl
  · rw [introItems, List.map_append, List.map_append]
    rfl

theorem spoken_distinct : ((spoken env s t c asks m).map Item.attr).Nodup := by
  obtain ⟨first, last, vector, window, intro'⟩ := introItems_attrs env s (s.tunnel t)
  cases m with
  | SCCRQ =>
      rw [spoken, List.map_append, intro']
      rcases vector with rfl | rfl <;> rcases window with rfl | rfl <;> rcases askItems_attrs asks
        (s.tunnel t) with ask | ask <;>
        rw [ask] <;> decide
  | SCCRP =>
      rw [spoken, List.map_append, List.map_append, intro']
      rcases vector with rfl | rfl <;> rcases window with rfl | rfl <;> rcases askItems_attrs asks
        (s.tunnel t) with ask | ask <;>
        rcases answerItems_attrs (s.tunnel t) with answer | answer <;> rw [ask, answer] <;> decide
  | SCCCN =>
      rw [spoken, List.map_append]
      rcases vectorItems_attrs (s.tunnel t) with vector | vector <;>
        rcases answerItems_attrs (s.tunnel t) with answer | answer <;> rw [vector, answer] <;> decide
  | StopCCN | ICRQ | ICRP | ICCN | CDN =>
      rw [spoken, List.map_append]
      rcases vectorItems_attrs (s.tunnel t) with vector | vector <;> rw [vector] <;> simp [Item.attr, resultItem]
  | Hello | OCRQ | OCRP | OCCN | WEN | SLI => exact List.nodup_nil

theorem Msg.mem_all : m ∈ Msg.all := by
  cases m <;> decide

theorem vectorItems_members (tun : Tunnel) : ∀ item ∈ vectorItems tun, m ∈ item.messages := by
  unfold vectorItems
  split
  · intro item member
    obtain ⟨vector, _, rfl⟩ := List.mem_map.mp member
    exact Msg.mem_all m
  · simp

theorem introItems_members (tun : Tunnel) (introduces : m = .SCCRQ ∨ m = .SCCRP) : ∀ item ∈ introItems env s tun,
    m ∈ item.messages := by
  intro item member
  rcases List.mem_append.mp member with front | window
  · rcases List.mem_append.mp front with vector | fixed
    · exact vectorItems_members m tun item vector
    · simp only [List.mem_cons, List.not_mem_nil, or_false] at fixed
      rcases introduces with rfl | rfl <;> rcases fixed with rfl | rfl | rfl | rfl | rfl | rfl | rfl <;>
        simp [Item.messages, Msg.all]
  · split at window
    · obtain rfl := List.mem_singleton.mp window
      rcases introduces with rfl | rfl <;> simp [Item.messages]
    · cases window

theorem askItems_members (tun : Tunnel) (introduces : m = .SCCRQ ∨ m = .SCCRP) : ∀ item ∈ askItems asks tun,
    m ∈ item.messages := by
  unfold askItems
  split
  · intro item member
    obtain rfl := List.mem_singleton.mp member
    rcases introduces with rfl | rfl <;> simp [Item.messages]
  · simp

theorem answerItems_members (tun : Tunnel) (answers : m = .SCCRP ∨ m = .SCCCN) : ∀ item ∈ answerItems tun,
    m ∈ item.messages := by
  unfold answerItems
  split
  · intro item member
    obtain rfl := List.mem_singleton.mp member
    rcases answers with rfl | rfl <;> simp [Item.messages]
  · simp

theorem spoken_members : ∀ item ∈ spoken env s t c asks m, m ∈ item.messages := by
  cases m with
  | SCCRQ =>
      exact List.forall_mem_append.mpr ⟨introItems_members env s .SCCRQ _ (.inl rfl),
        askItems_members asks .SCCRQ _ (.inl rfl)⟩
  | SCCRP => exact List.forall_mem_append.mpr ⟨List.forall_mem_append.mpr
      ⟨introItems_members env s .SCCRP _ (.inr rfl), answerItems_members .SCCRP _ (.inl rfl)⟩,
        askItems_members asks .SCCRP _ (.inr rfl)⟩
  | SCCCN => exact List.forall_mem_append.mpr ⟨vectorItems_members .SCCCN _, answerItems_members .SCCCN _ (.inr rfl)⟩
  | StopCCN => exact List.forall_mem_append.mpr ⟨vectorItems_members .StopCCN _, by simp [Item.messages, resultItem]⟩
  | ICRQ => exact List.forall_mem_append.mpr ⟨vectorItems_members .ICRQ _, by simp [Item.messages]⟩
  | ICRP => exact List.forall_mem_append.mpr ⟨vectorItems_members .ICRP _, by simp [Item.messages]⟩
  | ICCN => exact List.forall_mem_append.mpr ⟨vectorItems_members .ICCN _, by simp [Item.messages]⟩
  | CDN => exact List.forall_mem_append.mpr ⟨vectorItems_members .CDN _, by simp [Item.messages, resultItem]⟩
  | Hello | OCRQ | OCRP | OCCN | WEN | SLI => simp [spoken]

end Spoken

def completed (t : TunnelPtr) (c : CallPtr) (body : List UInt8) : Act Buffer := do
  let buf ← newOutgoing t body
  addControlHdr t c buf

theorem sendControl_completes (env : Env) (t : TunnelPtr) (c : CallPtr) (body : List UInt8) : sendControl env t c body =
    (do
    let buf ← completed t c body
    setCall c fun cal => { cal with cnu := false }
    controlXmit env env.fuel buf) := by
  unfold sendControl completed
  simp only [bind_assoc]

theorem completed_some (t : TunnelPtr) (c : CallPtr) (body : List UInt8) (s s' : Daemon) (buf : Buffer)
    (complete : completed t c body s = some (buf, s')) : buf.body = body ∧ buf.hdr.ver = 0xC802 ∧
      buf.hdr.length = BitVec.ofNat 16 (controlHdrSize + body.length) ∧ buf.hdr.Ns = (s.tunnel t).controlSeqNum := by
  unfold completed newOutgoing addControlHdr at complete
  simp only [Prog.bind_some, readTunnel_some, readCall_some, setTunnel_some, Prog.pure_some] at complete
  obtain ⟨_, _, ⟨_, _, ⟨_, rfl, rfl⟩, rfl, rfl⟩, _, _, ⟨_, rfl, rfl⟩, _, _, ⟨_, rfl, rfl⟩, _, _, _, rfl, _⟩ := complete
  exact ⟨rfl, rfl, rfl, rfl⟩

-- The datagram in the receiver's buffer, behind it whatever was there.
def received (wire tail : List UInt8) : RecvBuffer := ⟨fixHdr (wire ++ tail), wire.length⟩

theorem fixHdr_control (rest : List UInt8) : fixHdr (0xC8 :: 0x02 :: rest) = swaps (0xC8 :: 0x02 :: rest) 0 6 := by
  have missed : CTBIT (hostWord (0xC8 :: 0x02 :: rest) 0) = false := by
    show CTBIT ((0x02 : UInt8).toBitVec ++ (0xC8 : UInt8).toBitVec) = false
    decide
  have version : netWord (0xC8 :: 0x02 :: rest) 0 = 0xC802 := by
    show netWord [0xC8, 0x02] 0 = 0xC802
    decide
  unfold fixHdr
  rw [missed, version, if_neg Bool.false_ne_true]
  rfl

section Received

variable (buf : Buffer) (tail : List UInt8) (version : buf.hdr.ver = 0xC802)

def ControlHdr.words (h : ControlHdr) : List U16 := [h.ver, h.length, h.tid, h.cid, h.Ns, h.Nr]

theorem wire_words (h : ControlHdr) : h.wire = h.words.flatMap wordBytes := by
  simp [ControlHdr.wire, ControlHdr.words]

include version

theorem received_mem : (received buf.wire tail).mem = wordsOf buf.hdr.words ++ (buf.body ++ tail) := by
  have swapped := swaps_words buf.hdr.words (buf.body ++ tail)
  have laid : buf.wire ++ tail = buf.hdr.words.flatMap wordBytes ++ (buf.body ++ tail) := by
    rw [Buffer.wire, wire_words, List.append_assoc]
  have leads : buf.hdr.words.flatMap wordBytes ++ (buf.body ++ tail) =
      0xC8 :: 0x02 :: ([buf.hdr.length, buf.hdr.tid, buf.hdr.cid, buf.hdr.Ns, buf.hdr.Nr].flatMap wordBytes ++
        (buf.body ++ tail)) := by
    rw [ControlHdr.words, version]
    rfl
  show fixHdr (buf.wire ++ tail) = _
  rw [laid, ← swapped, leads]
  exact fixHdr_control _

theorem received_header : controlHdr (received buf.wire tail).mem = buf.hdr := by
  rw [received_mem buf tail version]
  unfold controlHdr ControlHdr.words
  simp (disch := simp) only [hostWord_words]
  rfl

end Received

theorem checkControl_takes (buf : RecvBuffer) (t : TunnelPtr) (c : CallPtr) (d : Daemon)
    (tunnel : (d.tunnel t).live = true)
    (call : (d.call c).live = true) (passes : inOrderOk buf (d.tunnel t) = true) :
    ∃ checked, checkControl buf t c d = some (0, checked) := by
  have facts := passes
  simp only [inOrderOk, inOrder, wellSized, Bool.and_eq_true, decide_eq_true_eq, beq_iff_eq, Bool.not_eq_true'] at facts
  obtain ⟨⟨⟨long, sized⟩, expected⟩, flags⟩ := facts
  unfold checkControl
  rw [if_neg (Nat.not_lt.mpr long), if_neg (not_not_intro sized), bind_read _ _ d _ (readTunnel_live t d tunnel),
    if_neg (not_not_intro expected), bind_ran _ _ d _ _ (setTunnel_live t _ d tunnel),
    bind_ran _ _ _ _ _ (setCall_live c _ { d with tunnel := write d.tunnel t { d.tunnel t with controlRecSeqNum := _ } }
      call)]
  have counted : (write d.tunnel t { d.tunnel t with controlRecSeqNum := (d.tunnel t).controlRecSeqNum + 1 } t).live =
    true := by
    rw [write_here]
    exact tunnel
  have fine : ¬ ((d.tunnel t).sanity = true ∧ ¬ flagsOk (controlHdr buf.mem).ver = true) := by
    rintro ⟨sane, wrong⟩
    simp [sane, wrong] at flags
  rw [if_neg fine]
  exact ⟨_, (Prog.bind_some _ _ _ _ _).mpr ⟨_, _, setTunnel_live t _ _ counted, rfl⟩⟩

theorem wireOf_length (items : List Item) (short : ∀ item ∈ items, item.Short) :
    (wireOf items).length ≤ 0x3FF * items.length := by
  induction items with
  | nil => exact Nat.zero_le _
  | cons item rest ih =>
      have one : item.length ≤ 0x3FF := short item List.mem_cons_self
      have later := ih fun other member => short other (List.mem_cons_of_mem _ member)
      rw [wireOf_cons, List.length_append, item.wire_length, List.length_cons]
      omega

theorem distinct_length (items : List Item) (distinct : (items.map Item.attr).Nodup) : items.length ≤ avpMax + 1 := by
  have within : items.map Item.attr ⊆ List.range (avpMax + 1) := by
    intro attr member
    obtain ⟨item, _, rfl⟩ := List.mem_map.mp member
    exact List.mem_range.mpr (Nat.lt_succ_of_le item.attr_known)
  have bound := (List.subperm_of_subset distinct within).length_le
  rwa [List.length_map, List.length_range] at bound

theorem spoken_fits (env : Env) (s : Daemon) (t : TunnelPtr) (c : CallPtr) (asks : Bool) (m : Msg)
    (carried : ∀ item ∈ spoken env s t c asks m, item.Carried m) :
    controlHdrSize + (wireOf (.messageType m :: spoken env s t c asks m)).length < 2 ^ 16 := by
  have count := distinct_length _ (spoken_distinct env s t c asks m)
  have size := wireOf_length _ fun item member => carried_short m item (carried item member)
  have type : (Item.messageType m).wire.length = 8 := (Item.wire_length _).trans rfl
  rw [wireOf_cons, List.length_append, type]
  unfold avpMax at count
  unfold controlHdrSize
  omega

theorem handedOn_fits (before checked : Daemon) (t : TunnelPtr) (c : CallPtr) (buf : RecvBuffer) (m : Msg)
    (accepted : checkControl buf t c before = some (0, checked))
    (fits : msgFits ((before.tunnel t).self == some c) (before.tunnel t).state (before.call c).state m = true) :
    msgFits (((handedOn checked c).tunnel t).self == some c) ((handedOn checked c).tunnel t).state
      ((handedOn checked c).call c).state m =
      true := by
  obtain ⟨tunnel, call, _⟩ := handedOn_records before checked t c buf accepted
  have own : ((handedOn checked c).tunnel t).self = (before.tunnel t).self ∧
    ((handedOn checked c).tunnel t).state = (before.tunnel t).state := by
    rw [tunnel]
    unfold checkedTunnel
    split <;> exact ⟨rfl, rfl⟩
  have state : ((handedOn checked c).call c).state = (before.call c).state := by
    rw [call, write_here]
    unfold checkedCall
    split
    · rfl
    · split <;> rfl
  rw [own.1, own.2, state]
  exact fits

section After

variable (env : Env) (m : Msg) (d : Daemon) (t : TunnelPtr) (c : CallPtr) (items : List Item)

theorem after_tunnel : (d.after env t c m items).tunnel t = items.foldl (Item.intoTunnel m)
    ((d.opened env t c m).tunnel t) :=
  write_here _ _ _

theorem after_call : (d.after env t c m items).call (subject d c m) =
    items.foldl (Item.intoCall m) ((d.opened env t c m).call (subject d c m)) :=
  write_here _ _ _

theorem foldl_msgtype (cal : Call) : (items.foldl (Item.intoCall m) cal).msgtype = cal.msgtype := by
  induction items generalizing cal with
  | nil => rfl
  | cons item rest ih => exact (ih _).trans (intoCall_kept m cal item).2

theorem after_msgtype (entry : Entry d t c) : ((d.after env t c m items).call c).msgtype = m.code :=
  (write_same (d.opened env t c m).call Call.msgtype _ _ (foldl_msgtype m items _) c).trans
    (opened_ready env m d t c entry).typed

end After

-- Whatever control_finish or call_close puts together is accepted where it is
-- due, and the receiver's records then have what the sender's had.
theorem control_message_round_trip (env peerEnv : Env) (m : Msg) (asks : Bool) (t : TunnelPtr) (c : CallPtr)
    (before s s' : Daemon)
    (body : List UInt8) (buf : Buffer) (builds : Builds env t c before s body m asks)
    (complete : completed t c body s = some (buf, s'))
    (carried : ∀ item ∈ spoken env s t c asks m, item.Carried m)
    (peer : Daemon) (pt : TunnelPtr) (pc : CallPtr) (entry : Entry peer pt pc)
    (due : (peer.tunnel pt).controlRecSeqNum = (s.tunnel t).controlSeqNum)
    (fits : msgFits ((peer.tunnel pt).self == some pc) (peer.tunnel pt).state (peer.call pc).state m = true)
    (callMemory : peerEnv.callMemory = true) (challengeMemory : peerEnv.challengeMemory = true) (tail : List UInt8) :
    ∃ checked after, checkControl (received buf.wire tail) pt pc peer = some (0, checked) ∧
      handleAvps peerEnv pt pc (received buf.wire tail) (handedOn checked pc) = some (0, after) ∧
      (after.call pc).msgtype = m.code ∧
      ∀ item ∈ spoken env s t c asks m, item.Held m (after.tunnel pt) (after.call (subject peer pc m)) := by
  obtain ⟨said, version, length, number⟩ := completed_some t c body s s' buf complete
  obtain rfl := builds_said env t c before s body m asks builds
  have header := received_header buf tail version
  have room := spoken_fits env s t c asks m carried
  have whole : buf.wire.length = controlHdrSize + (wireOf (.messageType m :: spoken env s t c asks m)).length := by
    rw [Buffer.wire, List.length_append, said]
    rfl
  have sized : buf.wire.length = buf.hdr.length.toNat := by
    rw [length, BitVec.toNat_ofNat, Nat.mod_eq_of_lt room, whole]
  have passes : inOrderOk (received buf.wire tail) (peer.tunnel pt) = true := by
    have flags : flagsOk 0xC802 = true := by decide
    have long : controlHdrSize ≤ buf.wire.length := by
      rw [whole]
      exact Nat.le_add_right _ _
    simp only [inOrderOk, inOrder, wellSized, header, version, number, due, flags, beq_self_eq_true, Bool.and_eq_true,
      Bool.not_true,
      Bool.and_false, Bool.not_false, and_true, decide_eq_true_eq, beq_iff_eq]
    exact ⟨long, sized⟩
  obtain ⟨checked, accepted⟩ := checkControl_takes _ pt pc peer entry.tunnel entry.call passes
  have shape : received buf.wire tail = ⟨wordsOf buf.hdr.words ++
    (wireOf (.messageType m :: spoken env s t c asks m) ++ tail),
      controlHdrSize + (wireOf (.messageType m :: spoken env s t c asks m)).length⟩ := by
    have parts : received buf.wire tail = ⟨(received buf.wire tail).mem, buf.wire.length⟩ := rfl
    rw [parts, received_mem buf tail version, whole, said]
  have heard := handleAvps_hears peerEnv m (handedOn checked pc) pt pc
    (handedOn_entry peer checked pt pc _ entry accepted)
    (handedOn_fits peer checked pt pc _ m accepted fits) callMemory challengeMemory (spoken env s t c asks m)
    (spoken_members env s t c asks m) carried (wordsOf buf.hdr.words) tail rfl
  rw [← shape] at heard
  have about : subject (handedOn checked pc) pc m = subject peer pc m := by
    rw [subject, subject, (handedOn_records peer checked pt pc _ accepted).2.2]
  refine ⟨checked, _, accepted, heard, after_msgtype peerEnv m _ pt pc _
    (handedOn_entry peer checked pt pc _ entry accepted), ?_⟩
  rw [← about, after_tunnel, after_call]
  exact foldl_held m _ _ _ (spoken_distinct env s t c asks m) carried

-- A LAC that is configured with this receive window and starts a tunnel.
def windowScene (rws : Int) : Daemon :=
  let d := withTunnel plainEnv (initDaemon none [] none [{ noLac with tunRws := rws }]) ⟨1, udpListenPort⟩ 0
  { d with tunnel := write d.tunnel 1 { d.tunnel 1 with lac := some 0 } }

-- What the other side takes the window to be, next to what it is.
def windowHeard (buf : Buffer) (rws : Int) : Bool :=
  (checkControl (received buf.wire []) 0 1 newTunnelScene).any fun first =>
    first.1 == 0 && (handleAvps plainEnv 0 1 (received buf.wire []) (handedOn first.2 1)).any fun last =>
      last.1 == 0 && (last.2.tunnel 0).rws == rws

def windowSaid (rws : Int) (check : Daemon → Buffer → Bool) : Bool :=
  (sccrqBody plainEnv 1 (windowScene rws)).any fun built =>
    built.1.any fun said => said.2 == false && (completed 1 2 said.1 built.2).any fun done => check built.2 done.1

theorem windowSaid_builds (rws : Int) (check : Daemon → Buffer → Bool) (said : windowSaid rws check = true) :
    ∃ body s s' buf, Builds plainEnv 1 2 (windowScene rws) s body .SCCRQ false ∧ completed 1 2 body s = some (buf, s') ∧
      check s buf = true := by
  obtain ⟨⟨result, s⟩, ran, rest⟩ := (Option.any_eq_true _ _).mp said
  obtain ⟨⟨body, asks⟩, rfl, whole⟩ := (Option.any_eq_true _ _).mp rest
  simp only [Bool.and_eq_true, beq_iff_eq] at whole
  obtain ⟨rfl, last⟩ := whole
  obtain ⟨⟨buf, s'⟩, complete, checked⟩ := (Option.any_eq_true _ _).mp last
  exact ⟨body, s, s', buf, .sccrq false ran, complete, checked⟩

theorem control_message_round_trip_sccrq : ∃ (buf : Buffer) (checked after : Daemon),
    checkControl (received buf.wire []) 0 1 newTunnelScene = some (0, checked) ∧
      handleAvps plainEnv 0 1 (received buf.wire []) (handedOn checked 1) = some (0, after) ∧ (after.tunnel 0).rws = 8 ∧
      (after.tunnel 0).hostname = text "lns" := by
  have scene : windowSaid 8 (fun s _ => decide (spoken plainEnv s 1 2 false .SCCRQ =
      [.protocol, .frameCaps 3, .bearerCaps 0, .firmware, .hostname (text "lns"), .vendor, .tunnelid 513, .rws 8]) &&
        (s.tunnel 1).controlSeqNum == 0) = true := by decide +kernel
  obtain ⟨body, s, s', buf, builds, complete, facts⟩ := windowSaid_builds 8 _ scene
  simp only [Bool.and_eq_true, decide_eq_true_eq, beq_iff_eq] at facts
  obtain ⟨items, number⟩ := facts
  obtain ⟨checked, after, accepted, heard, _, held⟩ := control_message_round_trip plainEnv plainEnv .SCCRQ false 1 2
    (windowScene 8) s s' body buf
    builds complete (by rw [items]; simp [Item.Carried]; decide) newTunnelScene 0 1 newTunnelScene_entry
      (by rw [number]; rfl) (by decide)
    rfl rfl []
  rw [items] at held
  exact ⟨buf, checked, after, accepted, heard, held (.rws 8) (by simp), held (.hostname (text "lns")) (by simp)⟩

-- A window of sixteen bits and more is cut down.
theorem window_cut : ¬ ∀ (env peerEnv : Env) (m : Msg) (asks : Bool) (t : TunnelPtr) (c : CallPtr) (before s s' : Daemon)
    (body : List UInt8) (buf : Buffer), Builds env t c before s body m asks → completed t c body s = some (buf, s') →
    ∀ (peer : Daemon) (pt : TunnelPtr) (pc : CallPtr), Entry peer pt pc →
      (peer.tunnel pt).controlRecSeqNum = (s.tunnel t).controlSeqNum →
      msgFits ((peer.tunnel pt).self == some pc) (peer.tunnel pt).state (peer.call pc).state m = true →
      peerEnv.callMemory = true → peerEnv.challengeMemory = true → ∀ tail : List UInt8,
        ∃ checked after, checkControl (received buf.wire tail) pt pc peer = some (0, checked) ∧
          handleAvps peerEnv pt pc (received buf.wire tail) (handedOn checked pc) = some (0, after) ∧
          (after.call pc).msgtype = m.code ∧
          ∀ item ∈ spoken env s t c asks m, item.Held m (after.tunnel pt) (after.call (subject peer pc m)) := by
  intro claimed
  have scene : windowSaid 65536 (fun s buf => decide (Item.rws 65536 ∈ spoken plainEnv s 1 2 false .SCCRQ) &&
      (s.tunnel 1).controlSeqNum == 0 && windowHeard buf 0) = true := by decide +kernel
  obtain ⟨body, s, s', buf, builds, complete, facts⟩ := windowSaid_builds 65536 _ scene
  simp only [Bool.and_eq_true, decide_eq_true_eq, beq_iff_eq] at facts
  obtain ⟨⟨member, number⟩, cut⟩ := facts
  obtain ⟨checked, after, accepted, heard, _, held⟩ := claimed plainEnv plainEnv .SCCRQ false 1 2
    (windowScene 65536) s s' body buf
    builds complete newTunnelScene 0 1 newTunnelScene_entry (by rw [number]; rfl) (by decide) rfl rfl []
  have told : (after.tunnel 0).rws = 65536 := held (.rws 65536) member
  unfold windowHeard at cut
  rw [accepted, Option.any_some, heard, Option.any_some, told] at cut
  simp at cut

end ZyAgf.Xl2tpd
