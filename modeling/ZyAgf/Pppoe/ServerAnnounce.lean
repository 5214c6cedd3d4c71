import ZyAgf.Pppoe.ServerTurns

set_option autoImplicit false

namespace ZyAgf.Pppoe.Server

-- A frame that tells the peer of a slot that its session is over.
def announces (x : ClientSession) (sent : Sent) : Bool :=
  sent.frame.code == codePADT && sent.frame.session == x.sess && sent.frame.hDest == x.eth

theorem sendPADT_announces (i : Interface) (ethif : Nat) (x : ClientSession) (msg : String) (numbered : x.sess ≠ 0) :
    ∃ sent, sendPADT i ethif x msg = [sent] ∧ announces x sent = true := by
  unfold sendPADT
  rw [if_neg numbered]
  exact ⟨_, rfl, by simp [announces]⟩

theorem sendPADT_elsewhere (i : Interface) (ethif : Nat) (x y : ClientSession) (msg : String)
    (apart : x.sess ≠ y.sess) :
    (sendPADT i ethif x msg).any (announces y) = false := by
  unfold sendPADT
  split
  · rfl
  · simp [announces, apart]

def Reply.Offers (r : Reply) : Prop := r.code ≠ codePADT

theorem frames_offer (face : Nat) (r : Reply) (offers : r.Offers) : ∀ sent ∈ r.frames face,
    sent.frame.code ≠ codePADT := by
  intro sent member
  unfold Reply.frames at member
  split at member
  · rw [List.mem_singleton.mp member]
    exact offers
  · cases member

theorem putTag_code (r : Reply) (tag : Option PPPoETag) : (r.putTag tag).code = r.code := by
  cases tag <;> rfl

theorem sendErrorPADS_offers (statics : Statics) (source dest : Mac) (errorTag : Nat) (text : String) :
    (sendErrorPADS statics source dest errorTag text).Offers := by
  unfold sendErrorPADS Reply.Offers
  dsimp only [Reply.send]
  rw [putTag_code, putTag_code]
  exact (by decide : codePADS ≠ codePADT)

theorem childPADS_offers (cfg : Config) (statics : Statics) (ethif : Interface) (dest : Mac) (sess : UInt16)
    (requested : PPPoETag) :
    (childPADS cfg statics ethif dest sess requested).Offers := by
  unfold childPADS Reply.Offers
  dsimp only
  generalize (if requested.payload = [] then _ else requested : PPPoETag) = service
  split
  · exact (by decide : codePADS ≠ codePADT)
  · dsimp only [Reply.send]
    rw [putTag_code, putTag_code]
    split <;> exact (by decide : codePADS ≠ codePADT)

theorem processPADR_offers (cfg : Config) (s : ServerState) (face : Nat) (ethif : Interface) (packet : PPPoEPacket)
    (fork : Option Nat) : ∀ r ∈ (processPADR cfg s face ethif packet fork).2, r.Offers := by
  have error (statics : Statics) (tag : Nat) (text : String) :
      ∀ r ∈ [sendErrorPADS statics ethif.mac packet.hSource tag text], r.Offers := by
    intro r member
    rw [List.mem_singleton.mp member]
    exact sendErrorPADS_offers statics _ _ tag text
  have none' : ∀ r ∈ ([] : List Reply), r.Offers := fun _ member => absurd member List.not_mem_nil
  unfold processPADR
  dsimp only
  split
  · exact none'
  split
  · exact none'
  split
  · exact error _ _ _
  split
  · exact error _ _ _
  split
  · exact error _ _ _
  split
  · exact error _ _ _
  · intro r member
    rw [List.mem_singleton.mp member]
    exact childPADS_offers cfg _ _ _ _ _

theorem put_offers (r : Option Reply) (bytes : List UInt8) (offers : ∀ x ∈ r, x.Offers) :
    ∀ x ∈ (r.bind fun r => if r.noRoom bytes.length then none else some (r.put bytes)), x.Offers := by
  intro x member
  obtain ⟨before, there, member⟩ := Option.bind_eq_some_iff.mp member
  split at member
  · cases member
  · obtain rfl := Option.some.inj member
    exact offers before there

theorem echo_offers (tag : Option PPPoETag) (r : Option Reply) (offers : ∀ x ∈ r, x.Offers) :
    ∀ x ∈ (match tag with
      | some tag => r.bind fun r => if r.noRoom (tagBytes tag).length then none else some (r.put (tagBytes tag))
      | none => r : Option Reply), x.Offers := by
  cases tag with
  | none => exact offers
  | some tag => exact put_offers r _ offers

theorem processPADI_offers (cfg : Config) (s : ServerState) (ethif : Interface) (packet : PPPoEPacket) :
    ∀ r ∈ (processPADI cfg s ethif packet).2, r.Offers := by
  have none' : ∀ r ∈ ([] : List Reply), r.Offers := fun _ member => absurd member List.not_mem_nil
  have names (list : List (List UInt8)) (r : Option Reply) (offers : ∀ x ∈ r, x.Offers) :
      ∀ x ∈ list.foldl (fun r name => r.bind fun r =>
        if r.noRoom (tagBytes ⟨tagServiceName, name⟩).length then none else some
          (r.put (tagBytes ⟨tagServiceName, name⟩))) r,
        x.Offers := by
    induction list generalizing r with
    | nil => exact offers
    | cons name later ih => exact ih _ (put_offers r _ offers)
  have mru (asked : Nat) (r : Option Reply) (offers : ∀ x ∈ r, x.Offers) :
      ∀ x ∈ (if asked ≠ 0 then r.bind fun r =>
        if r.noRoom (tagBytes (mruTag asked)).length then none else some (r.put (tagBytes (mruTag asked))) else r),
          x.Offers := by
    split
    · exact put_offers r _ offers
    · exact offers
  have new : ∀ x ∈ (some (newReply packet.hSource ethif.mac codePADO 0) : Option Reply), x.Offers := by
    intro x member
    obtain rfl := Option.some.inj member
    exact (by decide : codePADO ≠ codePADT)
  unfold processPADI
  split
  · exact none'
  split
  · exact none'
  split
  · exact none'
  split
  · exact none'
  dsimp only
  generalize parseTags parsePADITags packet _ = statics
  have sent (offered : Bool) (replies : List Reply) (offers : ∀ r ∈ replies, r.Offers) :
      ∀ r ∈ (if offered = false then ({ s with statics := statics }, [])
        else ({ s with statics := statics }, replies)).2, r.Offers := by
    split
    · exact none'
    · exact offers
  refine sent _ _ fun r member => ?_
  obtain ⟨x, there, rfl⟩ := Option.map_eq_some_iff.mp (Option.mem_toList.mp member)
  have named := names (if cfg.serviceNames = [] then [[]] else cfg.serviceNames) _
    (mru (mruFor ethif statics.maxPppPayload) _ (put_offers _ (tagBytes ⟨0x0102, cfg.acName⟩) new))
  have cookied := put_offers _ (tagBytes ⟨tagAcCookie, genCookie cfg packet.hSource ethif.mac⟩) named
  exact echo_offers _ _ (echo_offers _ _ cookied) x there

-- No session has the number zero, and no two slots have the same one.
section Numbers

variable (cfg : Config) (s : ServerState) (busy free : List Nat) (slots : Slots cfg s busy free)
  (bounded : cfg.numSessionSlots + cfg.sessOffset ≤ 65534)

include slots bounded

theorem session_numbered (i : Nat) (inside : i < cfg.numSessionSlots) : (s.sessions i).sess ≠ 0 := by
  rw [slots.numbers i inside]
  intro zero
  have wire := slotNumber_toNat cfg bounded i inside
  rw [zero] at wire
  have nothing : (ntohs 0).toNat = 0 := rfl
  omega

theorem session_apart (i j : Nat) (inside : i < cfg.numSessionSlots) (inside' : j < cfg.numSessionSlots)
    (apart : i ≠ j) :
    (s.sessions i).sess ≠ (s.sessions j).sess := by
  rw [slots.numbers i inside, slots.numbers j inside']
  intro same
  have wire := slotNumber_toNat cfg bounded i inside
  rw [same, slotNumber_toNat cfg bounded j inside'] at wire
  omega

end Numbers

def ClientSession.ending (x : ClientSession) : UInt16 × Mac × Bool := (x.sess, x.eth, x.sentPadt)

def SameEnding (s s' : ServerState) (i : Nat) : Prop := (s'.sessions i).ending = (s.sessions i).ending

def Silent (out : List Sent) : Prop := ∀ sent ∈ out, sent.frame.code ≠ codePADT

-- What an event may do to the busy slots, their children and their flags.
inductive Moves (cfg : Config) (s : ServerState) (result : ServerState × List Sent) : Prop where
  | kept (busy : busyList cfg result.1 = busyList cfg s) (children : result.1.children = s.children)
      (same : ∀ i ∈ busyList cfg s, SameEnding s result.1 i) (silent : Silent result.2)
  | opened (ses child : Nat) (idle : ses ∉ busyList cfg s) (busy : busyList cfg result.1 = ses :: busyList cfg s)
      (children : result.1.children = (child, ses) :: s.children) (same : ∀ i ∈ busyList cfg s, SameEnding s result.1 i)
      (clear : (result.1.sessions ses).recvdPadt = false ∧ (result.1.sessions ses).sentPadt = false)
        (silent : Silent result.2)
  | told (i ethif : Nat) (face : Interface) (reason : String) (inside : i < cfg.numSessionSlots)
      (busy : busyList cfg result.1 = busyList cfg s) (children : result.1.children = s.children)
      (same : ∀ j, j ≠ i → SameEnding s result.1 j)
      (flagged : (result.1.sessions i).ending = ((s.sessions i).sess, (s.sessions i).eth, true))
      (out : result.2 = sendPADT face ethif (s.sessions i) reason)
  | ended (entry : Nat × Nat) (ethif : Nat) (face : Interface) (reason : String) (child : entry ∈ s.children)
      (busy : busyList cfg result.1 = (busyList cfg s).erase entry.2)
        (children : result.1.children = s.children.erase entry)
      (same : ∀ i, i ≠ entry.2 → SameEnding s result.1 i)
      (out : result.2 = if (s.sessions entry.2).sentPadt then [] else sendPADT face ethif (s.sessions entry.2) reason)

theorem freeSession_ending (cfg : Config) (s : ServerState) (ses p : Nat) (other : p ≠ ses) : SameEnding s
    (pppoeFreeSession cfg s ses) p :=
  freeSession_elsewhere ClientSession.ending (fun _ _ => rfl) cfg s ses p other

section Moves

variable (cfg : Config) (s : ServerState) (busy free : List Nat) (slots : Slots cfg s busy free)

include slots

omit slots in
theorem busy_flagged (i : Nat) (change : ClientSession → ClientSession) (keeps : ∀ x, (change x).next = x.next) :
    busyList cfg (s.updSession i change) = busyList cfg s := by
  unfold busyList
  congr 1
  funext p
  rw [ServerState.updSession_sessions]
  split
  · exact keeps _
  · rfl

omit slots in
theorem killAllFrom_busy (fuel : Nat) (cur : Option Nat) (result : ServerState × List Sent)
    (ran : killAllFrom cfg fuel cur s = some result) : busyList cfg result.1 = busyList cfg s := by
  induction fuel generalizing cur s result with
  | zero =>
      obtain rfl := Option.some.inj ran
      rfl
  | succ fuel ih =>
      cases cur with
      | none =>
          obtain rfl := Option.some.inj ran
          rfl
      | some sess =>
          obtain ⟨stopped, first, rest⟩ := Option.bind_eq_some_iff.mp ran
          obtain ⟨later, onward, rfl⟩ := Option.map_eq_some_iff.mp rest
          obtain ⟨_, _, first⟩ := Option.bind_eq_some_iff.mp first
          obtain ⟨_, _, rfl⟩ := Option.map_eq_some_iff.mp first
          exact (ih _ _ _ onward).trans (busy_flagged cfg s sess (fun x => { x with sentPadt := true }) fun _ => rfl)

omit slots in
theorem killAllSessions_busy (result : ServerState × List Sent) (ran : killAllSessions cfg s = some result) :
    busyList cfg result.1 = busyList cfg s := by
  obtain ⟨all, killed, rfl⟩ := Option.map_eq_some_iff.mp ran
  exact killAllFrom_busy cfg s _ _ all killed

theorem processPADR_moves (face : Nat) (ethif : Interface) (packet : PPPoEPacket) (fork : Option Nat) :
    Moves cfg s (framesOf face (processPADR cfg s face ethif packet fork)) := by
  have silent : Silent (framesOf face (processPADR cfg s face ethif packet fork)).2 := by
    intro sent member
    obtain ⟨r, there, member⟩ := List.mem_flatMap.mp member
    exact frames_offer face r (processPADR_offers cfg s face ethif packet fork r there) sent member
  by_cases opens : Opens cfg s ethif packet
  · obtain ⟨requested, ses, taken, _, alloc, same⟩ := processPADR_opened cfg s face ethif packet fork opens
    have parsed : Slots cfg { s with statics := padrStatics packet } busy free :=
      slots_congr cfg s busy free slots _ (fun _ => rfl) (fun _ => rfl) (fun _ _ => rfl) ⟨rfl, rfl, rfl, rfl⟩
    obtain ⟨free', rfl, after, children, others⟩ := allocSession_slots cfg _ busy free parsed ses taken alloc
    have distinct := slots_distinct cfg taken _ _ after
    have idle : ses ∉ busy := (List.nodup_cons.mp (List.nodup_append.mp distinct).1).1
    have notFree : ses ∉ free' := fun inside => (List.nodup_append.mp distinct).2.2 ses List.mem_cons_self ses inside
      rfl
    have mine : Slots cfg (claimed taken ses face packet.hSource) (ses :: busy) free' :=
      slots_upd cfg taken _ free' after ses _ (fun _ => rfl) (fun _ => rfl) (fun inside => absurd inside notFree)
    have before : busyList cfg s = busy := busyList_eq cfg s busy _ slots
    have kept (i : Nat) (member : i ∈ busyList cfg s) : i ≠ ses ∧
      SameEnding s (claimed taken ses face packet.hSource) i := by
      rw [before] at member
      have other : i ≠ ses := fun here => idle (here ▸ member)
      refine ⟨other, ?_⟩
      unfold SameEnding claimed
      rw [ServerState.updSession_sessions, if_neg other, others i other]
    rw [same] at silent ⊢
    cases fork with
    | none =>
        obtain ⟨freed, sameChildren, _⟩ := freeSession_slots cfg _ _ _ mine ses List.mem_cons_self
        rw [List.erase_cons_head] at freed
        refine .kept ?_ (sameChildren.trans children) (fun i member => ?_) silent
        · exact (busyList_eq cfg _ busy _ freed).trans before.symm
        · exact (freeSession_ending cfg _ ses i (kept i member).1).trans (kept i member).2
    | some child =>
        have marked := slots_upd cfg _ _ _ mine ses (fun x => { x with pid := child }) (fun _ => rfl) (fun _ => rfl)
          (fun _ _ => rfl)
        refine .opened ses child (before ▸ idle) ?_ (congrArg _ children) (fun i member => ?_) ?_ silent
        · rw [before]
          have listed := busyList_eq cfg _ (ses :: busy) free' marked
          exact listed
        · refine Eq.trans ?_ (kept i member).2
          simp [framesOf, kept i member]
        · simp [framesOf, claimed]
  · obtain ⟨_, same⟩ := processPADR_unopened cfg s face ethif packet fork opens
    refine .kept ?_ ?_ (fun i _ => ?_) silent
    · simp only [framesOf, same]
      rfl
    · simp only [framesOf, same]
    · simp only [SameEnding, framesOf, same]

theorem processPADT_moves (bounded : cfg.numSessionSlots + cfg.sessOffset ≤ 65534) (ethif : Interface)
    (packet : PPPoEPacket)
    (result : ServerState × List Sent) (ran : processPADT cfg s ethif packet = some result) : Moves cfg s result := by
  unfold processPADT at ran
  cases target : padtTarget cfg s ethif packet with
  | none =>
      rw [target] at ran
      obtain rfl := Option.some.inj ran
      exact .kept rfl rfl (fun _ _ => rfl) (fun _ member => nomatch member)
  | some i =>
      rw [target] at ran
      obtain ⟨ethif', _, ran⟩ := Option.bind_eq_some_iff.mp ran
      obtain ⟨face, _, rfl⟩ := Option.map_eq_some_iff.mp ran
      obtain ⟨_, inside, _⟩ := (padtTarget_iff cfg s busy free slots bounded ethif packet i).mp target
      refine .told i ethif' face "Received PADT" inside ?_ rfl (fun j other => ?_) ?_ ?_
      · have told := busy_flagged cfg (s.updSession i fun x => { x with recvdPadt := true }) i
          (fun x => { x with sentPadt := true }) fun _ => rfl
        exact told.trans (busy_flagged cfg s i (fun x => { x with recvdPadt := true }) fun _ => rfl)
      · simp [SameEnding, other]
      · simp [ClientSession.ending]
      · simp [sendPADT]

omit slots in
theorem quiet_moves (statics : Statics) (draining : Drain) (out : List Sent) (silent : Silent out) :
    Moves cfg s ({ s with statics := statics, draining := draining }, out) :=
  .kept rfl rfl (fun _ _ => rfl) silent

omit slots in
theorem processPADI_moves (face : Nat) (ethif : Interface) (packet : PPPoEPacket) :
    Moves cfg s (framesOf face (processPADI cfg s ethif packet)) := by
  have silent : Silent (framesOf face (processPADI cfg s ethif packet)).2 := by
    intro sent member
    obtain ⟨r, there, member⟩ := List.mem_flatMap.mp member
    exact frames_offer face r (processPADI_offers cfg s ethif packet r there) sent member
  obtain ⟨statics, same⟩ : ∃ statics, (processPADI cfg s ethif packet).1 = { s with statics := statics } := by
    unfold processPADI
    split
    · exact ⟨_, rfl⟩
    split
    · exact ⟨_, rfl⟩
    split
    · exact ⟨_, rfl⟩
    split
    · exact ⟨_, rfl⟩
    dsimp only
    split <;> split <;> exact ⟨_, rfl⟩
  have whole : framesOf face (processPADI cfg s ethif packet) =
      ({ s with statics := statics }, (framesOf face (processPADI cfg s ethif packet)).2) := Prod.ext same rfl
  rw [whole]
  exact quiet_moves cfg s statics s.draining _ silent

omit slots in
theorem unread_moves (result : ServerState × List Sent) (ran : some (s, []) = some result) : Moves cfg s result := by
  obtain rfl := Option.some.inj ran
  exact quiet_moves cfg s s.statics s.draining [] fun _ member => nomatch member

theorem serverProcessPacket_moves (bounded : cfg.numSessionSlots + cfg.sessOffset ≤ 65534) (face : Nat)
    (ethif : Interface)
    (packet : PPPoEPacket) (fork : Option Nat) (result : ServerState × List Sent)
    (ran : serverProcessPacket cfg s face ethif packet fork = some result) : Moves cfg s result := by
  unfold serverProcessPacket at ran
  split at ran
  · exact unread_moves cfg s result ran
  split at ran
  · exact unread_moves cfg s result ran
  split at ran
  · obtain rfl := Option.some.inj ran
    exact processPADI_moves cfg s face ethif packet
  split at ran
  · obtain rfl := Option.some.inj ran
    exact processPADR_moves cfg s busy free slots face ethif packet fork
  split at ran
  · exact processPADT_moves cfg s busy free slots bounded ethif packet result ran
  · exact unread_moves cfg s result ran

theorem childHandler_frees (entry : Nat × Nat) (tenant : entry.2 ∈ busy) (result : ServerState × List Sent)
    (ran : childHandler cfg { s with children := s.children.erase entry } entry.2 = some result) :
    busyList cfg result.1 = (busyList cfg s).erase entry.2 ∧ result.1.children = s.children.erase entry ∧
      (∀ i, i ≠ entry.2 → SameEnding s result.1 i) ∧ ∃ ethif face reason,
        result.2 = if (s.sessions entry.2).sentPadt then [] else sendPADT face ethif (s.sessions entry.2) reason := by
  obtain ⟨ethif, _, ran⟩ := Option.bind_eq_some_iff.mp ran
  obtain ⟨face, _, rfl⟩ := Option.map_eq_some_iff.mp ran
  have gone : Slots cfg { s with children := s.children.erase entry } busy free :=
    slots_congr cfg s busy free slots _ (fun _ => rfl) (fun _ => rfl) (fun _ _ => rfl) ⟨rfl, rfl, rfl, rfl⟩
  have marked := slots_upd cfg _ busy free gone entry.2 (fun x => { x with sentPadt := true }) (fun _ => rfl)
    (fun _ => rfl)
    fun _ _ => rfl
  obtain ⟨freed, sameChildren, _⟩ := freeSession_slots cfg _ busy free marked entry.2 tenant
  refine ⟨?_, sameChildren, fun i other => ?_, ethif, face,
    if (s.sessions entry.2).recvdPadt then "RP-PPPoE: Received PADT from peer"
      else "RP-PPPoE: Child pppd process terminated", ?_⟩
  · rw [busyList_eq cfg s busy free slots]
    exact busyList_eq cfg _ _ _ freed
  · refine (freeSession_ending cfg _ entry.2 i other).trans ?_
    simp [ClientSession.ending, other]
  · dsimp only
    split
    · rfl
    · split <;> rfl

end Moves

-- Every busy slot has a child, and no two have the same.
structure Tended (cfg : Config) (s : ServerState) : Prop where
  sound : Sound cfg s
  tenants : (s.children.map Prod.snd).Perm (busyList cfg s)

-- What was sent since the slot of a busy session was allocated.
def sentSince (cfg : Config) (record : Nat → List Sent) (s : ServerState) (event : Event) : Nat → List Sent :=
  match step cfg s event with
  | none => record
  | some (_, out) => fun i => if i ∈ busyList cfg s then record i ++ out else []

def Recorded (cfg : Config) (s : ServerState) (record : Nat → List Sent) : Prop :=
  ∀ i ∈ busyList cfg s, (s.sessions i).sentPadt = (record i).any (announces (s.sessions i))

theorem sameEnding_sess (s s' : ServerState) (i : Nat) (same : SameEnding s s' i) : (s'.sessions i).sess =
    (s.sessions i).sess :=
  congrArg Prod.fst same

theorem sameEnding_sent (s s' : ServerState) (i : Nat) (same : SameEnding s s' i) : (s'.sessions i).sentPadt =
    (s.sessions i).sentPadt :=
  congrArg (fun x => x.2.2) same

theorem announces_same (x y : ClientSession) (sess : x.sess = y.sess)
    (eth : x.eth = y.eth) : announces x = announces y := by
  unfold announces
  rw [sess, eth]

theorem sameEnding_announces (s s' : ServerState) (i : Nat) (same : SameEnding s s' i) :
    announces (s'.sessions i) = announces (s.sessions i) :=
  announces_same _ _ (sameEnding_sess s s' i same) (congrArg (fun x => x.2.1) same)

theorem silent_any (out : List Sent) (silent : Silent out) (x : ClientSession) : out.any (announces x) = false := by
  rw [List.any_eq_false]
  intro sent member
  simp [announces, silent sent member]

section Step

variable (cfg : Config) (bounded : cfg.numSessionSlots + cfg.sessOffset ≤ 65534) (s : ServerState)

include bounded

theorem handle_moves (tended : Tended cfg s) (event : Event) (result : ServerState × List Sent)
    (ran : handle cfg s event = some result) (alive : result.1.running = true) : Moves cfg s result := by
  obtain ⟨busy, free, slots, _⟩ := tended.sound
  cases event with
  | packet face frame fork =>
      rw [handle] at ran
      split at ran
      · cases ran
      obtain ⟨ethif, _, ran⟩ := Option.bind_eq_some_iff.mp ran
      exact serverProcessPacket_moves cfg s busy free slots bounded face ethif frame fork result ran
  | childExit pid =>
      obtain ⟨entry, found, ran⟩ := Option.bind_eq_some_iff.mp ran
      have child := List.mem_of_find?_eq_some found
      have tenant := tended.tenants.subset (List.mem_map_of_mem child)
      rw [busyList_eq cfg s busy free slots] at tenant
      obtain ⟨sameBusy, children, same, ethif, face, reason, out⟩ :=
        childHandler_frees cfg s busy free slots entry tenant result ran
      exact .ended entry ethif face reason child sameBusy children same out
  | setDrain mode =>
      obtain rfl := Option.some.inj ran
      exact quiet_moves cfg s s.statics mode [] fun _ member => absurd member List.not_mem_nil
  | terminate =>
      obtain ⟨all, _, rfl⟩ := Option.map_eq_some_iff.mp ran
      cases alive

variable (result : ServerState × List Sent) (moves : Moves cfg s result)

include moves

omit bounded in
theorem moves_tended (tended : Tended cfg s) (sound : Sound cfg result.1) : Tended cfg result.1 := by
  refine ⟨sound, ?_⟩
  have tenants := tended.tenants
  cases moves with
  | kept busy children => rwa [busy, children]
  | opened ses child _ busy children =>
      rw [busy, children]
      exact tenants.cons ses
  | told _ _ _ _ _ busy children => rwa [busy, children]
  | ended entry _ _ _ child busy children =>
      rw [busy, children]
      have split := (List.perm_cons_erase child).map Prod.snd
      have there := tenants.subset (List.mem_map_of_mem child)
      exact (split.symm.trans (tenants.trans (List.perm_cons_erase there))).cons_inv

theorem moves_recorded (tended : Tended cfg s) (record : Nat → List Sent) (recorded : Recorded cfg s record) :
    Recorded cfg result.1 fun i => if i ∈ busyList cfg s then record i ++ result.2 else [] := by
  obtain ⟨busy, free, slots, _⟩ := tended.sound
  have listed := busyList_eq cfg s busy free slots
  have inside (i : Nat) (member : i ∈ busyList cfg s) : i < cfg.numSessionSlots :=
    slot_lt cfg s busy free slots i (listed ▸ member)
  -- a slot that was busy before and whose peer was told nothing now
  have still (i : Nat) (member : i ∈ busyList cfg s) (same : SameEnding s result.1 i)
      (quiet : result.2.any (announces (s.sessions i)) = false) :
      (result.1.sessions i).sentPadt = (record i ++ result.2).any (announces (result.1.sessions i)) := by
    rw [sameEnding_sent _ _ i same, sameEnding_announces _ _ i same, List.any_append, quiet, Bool.or_false]
    exact recorded i member
  intro i member
  dsimp only
  cases moves with
  | kept sameBusy _ same silent =>
      rw [sameBusy] at member
      rw [if_pos member]
      exact still i member (same i member) (silent_any _ silent _)
  | opened ses child idle sameBusy _ same clear silent =>
      rw [sameBusy] at member
      rcases List.mem_cons.mp member with rfl | before
      · rw [if_neg idle, clear.2]
        rfl
      · rw [if_pos before]
        exact still i before (same i before) (silent_any _ silent _)
  | told j ethif face reason bound sameBusy _ same flagged out =>
      rw [sameBusy] at member
      rw [if_pos member]
      by_cases here : i = j
      · subst here
        have numbered := session_numbered cfg s busy free slots bounded i bound
        obtain ⟨sent, only, tells⟩ := sendPADT_announces face ethif (s.sessions i) reason numbered
        have now : (result.1.sessions i).sentPadt = true := congrArg (fun x => x.2.2) flagged
        have named : announces (result.1.sessions i) = announces (s.sessions i) :=
          announces_same _ _ (congrArg Prod.fst flagged) (congrArg (fun x => x.2.1) flagged)
        rw [now, named, List.any_append, out, only]
        simp [tells]
      · refine still i member (same i here) ?_
        rw [out]
        exact sendPADT_elsewhere face ethif _ _ reason
          (session_apart cfg s busy free slots bounded j i bound (inside i member) fun same => here same.symm)
  | ended entry ethif face reason child sameBusy _ same out =>
      have distinct : (busyList cfg s).Nodup := listed ▸ (List.nodup_append.mp (slots_distinct cfg s busy free slots)).1
      rw [sameBusy] at member
      obtain ⟨other, before⟩ := distinct.mem_erase_iff.mp member
      rw [if_pos before]
      refine still i before (same i other) ?_
      rw [out]
      split
      · rfl
      · have tenant := tended.tenants.subset (List.mem_map_of_mem child)
        exact sendPADT_elsewhere face ethif _ _ reason
          (session_apart cfg s busy free slots bounded entry.2 i (inside _ tenant) (inside i before) fun same =>
            other same.symm)

end Step

theorem step_ended (cfg : Config) (s : ServerState) (sound : Sound cfg s) (event : Event)
    (result : ServerState × List Sent)
    (ran : step cfg s event = some result) (dead : result.1.running = false) (alive : s.running = true) :
    ∀ i ∈ busyList cfg result.1, i ∈ busyList cfg s := by
  have moved : next cfg s event = some result.1 := Option.map_eq_some_iff.mpr ⟨result, ran, rfl⟩
  obtain ⟨busy, free, slots, _⟩ := next_sound cfg s result.1 event moved sound
  unfold step at ran
  rw [if_neg (by rw [alive]; decide)] at ran
  obtain ⟨handled, first, ran⟩ := Option.bind_eq_some_iff.mp ran
  split at ran
  · next quits =>
      obtain ⟨ended, killed, rfl⟩ := Option.map_eq_some_iff.mp ran
      have none' : busy.length = 0 := slots.count.symm.trans
        ((killAllSessions_same cfg handled.1 ended killed).1.active.trans quits.2.1)
      rw [busyList_eq cfg _ busy free slots, List.length_eq_zero_iff.mp none']
      exact fun i member => nomatch member
  · obtain rfl := Option.some.inj ran
    by_cases other : event = .terminate
    · subst other
      rw [killAllSessions_busy cfg s handled first]
      exact fun i member => member
    · have going := handle_running cfg s event other handled first
      rw [going, alive] at dead
      cases dead

theorem step_handled (cfg : Config) (s : ServerState) (event : Event) (result : ServerState × List Sent)
    (ran : step cfg s event = some result) (alive : result.1.running = true) : handle cfg s event = some result := by
  unfold step at ran
  split at ran
  · cases ran
  obtain ⟨handled, first, ran⟩ := Option.bind_eq_some_iff.mp ran
  split at ran
  · obtain ⟨ended, killed, rfl⟩ := Option.map_eq_some_iff.mp ran
    have dead := (killAllSessions_same cfg handled.1 ended killed).2.2
    rw [dead] at alive
    cases alive
  · obtain rfl := Option.some.inj ran
    exact first

theorem step_running (cfg : Config) (s : ServerState) (event : Event) (result : ServerState × List Sent)
    (ran : step cfg s event = some result) : s.running = true := by
  unfold step at ran
  split at ran
  · cases ran
  · next alive => exact eq_true_of_ne_false alive

-- What is so of a server that still runs, and of what was noted of it.
def Minded (cfg : Config) (state : ServerState × (Nat → List Sent)) : Prop :=
  state.1.running = true → Tended cfg state.1 ∧ Recorded cfg state.1 state.2

theorem minded_init (cfg : Config) (order : List Nat) (valid : cfg.Valid order) : Minded cfg
    (initServer cfg order, fun _ => []) := by
  intro _
  have slots := initServer_slots cfg order valid
  have listed := busyList_eq cfg _ _ _ slots
  refine ⟨⟨⟨[], order, slots, fun _ member => nomatch member⟩, ?_⟩, fun i member => ?_⟩
  · rw [listed]
    exact List.Perm.refl _
  · rw [listed] at member
    cases member

theorem minded_step (cfg : Config) (bounded : cfg.numSessionSlots + cfg.sessOffset ≤ 65534)
    (state state' : ServerState × (Nat → List Sent))
    (event : Event) (minded : Minded cfg state)
    (moved : Run.noting (sentSince cfg) (next cfg) state event = some state') :
    Minded cfg state' := by
  obtain ⟨s', taken, rfl⟩ := Option.map_eq_some_iff.mp moved
  intro alive
  obtain ⟨result, ran, rfl⟩ := Option.map_eq_some_iff.mp taken
  obtain ⟨tended, recorded⟩ := minded (step_running cfg _ event result ran)
  have moves := handle_moves cfg bounded state.1 tended event result (step_handled cfg _ event result ran alive) alive
  refine ⟨moves_tended cfg state.1 result moves tended (next_sound cfg state.1 result.1 event taken tended.sound), ?_⟩
  have noted := moves_recorded cfg bounded state.1 result moves tended state.2 recorded
  unfold sentSince
  rw [ran]
  exact noted

-- How childHandler ends a session: the slot is let go of, its peer is told by
-- then, and is told now if and only if nothing told it before. A slot that is
-- taken starts with nothing told.
structure Announced (cfg : Config) (state : ServerState × (Nat → List Sent)) (event : Event) : Prop where
  ended : ∀ pid, event = .childExit pid → ∀ entry ∈ state.1.children.find? (fun entry => entry.1 == pid), ∀ result,
    childHandler cfg { state.1 with children := state.1.children.erase entry } entry.2 = some result →
      entry.2 ∈ busyList cfg state.1 ∧ entry.2 ∉ busyList cfg result.1 ∧
        (state.2 entry.2 ++ result.2).any (announces (state.1.sessions entry.2)) = true ∧
        if (state.2 entry.2).any (announces (state.1.sessions entry.2)) then result.2 = []
        else ∃ sent, result.2 = [sent] ∧ announces (state.1.sessions entry.2) sent = true
  taken : ∀ s', next cfg state.1 event = some s' → ∀ i ∈ busyList cfg s', i ∉ busyList cfg state.1 →
    (s'.sessions i).recvdPadt = false ∧ (s'.sessions i).sentPadt = false

theorem minded_announced (cfg : Config) (bounded : cfg.numSessionSlots + cfg.sessOffset ≤ 65534)
    (state : ServerState × (Nat → List Sent))
    (event : Event) (running : state.1.running = true) (minded : Minded cfg state) : Announced cfg state event := by
  obtain ⟨tended, recorded⟩ := minded running
  obtain ⟨busy, free, slots, _⟩ := tended.sound
  have listed := busyList_eq cfg state.1 busy free slots
  constructor
  · rintro pid rfl entry found result ran
    have child := List.mem_of_find?_eq_some found
    have tenant := tended.tenants.subset (List.mem_map_of_mem child)
    have distinct : busy.Nodup := (List.nodup_append.mp (slots_distinct cfg state.1 busy free slots)).1
    have numbered := session_numbered cfg state.1 busy free slots bounded entry.2
      (slot_lt cfg _ busy free slots _ (listed ▸ tenant))
    obtain ⟨sameBusy, _, _, ethif, face, reason, out⟩ :=
      childHandler_frees cfg state.1 busy free slots entry (listed ▸ tenant) result ran
    refine ⟨tenant, ?_, ?_⟩
    · rw [sameBusy, listed]
      exact distinct.not_mem_erase
    · rw [out, recorded entry.2 tenant]
      cases told : (state.2 entry.2).any (announces (state.1.sessions entry.2)) with
      | true => simp [told]
      | false =>
          obtain ⟨sent, only, tells⟩ := sendPADT_announces face ethif (state.1.sessions entry.2) reason numbered
          simp [only, tells]
  · intro s' moved i member idle
    obtain ⟨result, ran, rfl⟩ := Option.map_eq_some_iff.mp moved
    cases alive : result.1.running with
    | false => exact absurd (step_ended cfg state.1 tended.sound event result ran alive running i member) idle
    | true =>
    cases handle_moves cfg bounded state.1 tended event result (step_handled cfg _ event result ran alive) alive with
    | kept sameBusy => exact absurd (sameBusy ▸ member) idle
    | opened ses child _ sameBusy _ _ clear =>
        rw [sameBusy] at member
        rcases List.mem_cons.mp member with rfl | before
        · exact clear
        · exact absurd before idle
    | told _ _ _ _ _ sameBusy => exact absurd (sameBusy ▸ member) idle
    | ended _ _ _ _ _ sameBusy =>
        rw [sameBusy] at member
        exact absurd (List.mem_of_mem_erase member) idle

-- In every run, a session that ends was announced to its peer since its slot was
-- allocated, once by childHandler if nothing had done so before.
theorem ended_announced (cfg : Config) (order : List Nat) (valid : cfg.Valid order)
    {visits : List (ServerState × Event)}
    {s : ServerState} (run : Run (next cfg) (initServer cfg order) visits s) :
    Run.Meets (Announced cfg) (Run.noted (sentSince cfg) (fun _ => []) visits) := by
  have noted := Run.noted_run (sentSince cfg) (fun _ => []) run
  intro visit member
  obtain ⟨earlier, after, reaches, _, moved⟩ := Run.visit_split noted visit member
  have minded : Minded cfg visit.1 := Run.invariant (fun _ _ => True) (Minded cfg) (minded_init cfg order valid)
    (fun state event state' there _ taken => minded_step cfg valid.bounded state state' event there taken) reaches
    (Run.meets_always _)
  obtain ⟨s', taken, _⟩ := Option.map_eq_some_iff.mp moved
  obtain ⟨result, ran, _⟩ := Option.map_eq_some_iff.mp taken
  exact minded_announced cfg valid.bounded visit.1 visit.2 (step_running cfg _ _ result ran) minded

-- A client that ends its session itself is told once, and not again at the exit
-- of the child.
def endedByClient : List Event := [.packet 0 padrFrame (some 77), .packet 0 (padtFrame clientMac 0x0100) none,
    .childExit 77]

theorem ended_announced_client : ∃ s, Run.play (next twoSlots) (initServer twoSlots [0, 1]) endedByClient = some s ∧
    s.numActiveSessions = 0 ∧ Run.Meets (Announced twoSlots)
      (Run.noted (sentSince twoSlots) (fun _ => [])
        (Run.trace (next twoSlots) (initServer twoSlots [0, 1]) endedByClient)) := by
  have seen : (Run.play (next twoSlots) (initServer twoSlots [0, 1]) endedByClient).any
    (fun s => s.numActiveSessions == 0) = true := by
    decide +kernel
  obtain ⟨s, played, ended⟩ := (Option.any_eq_true _ _).mp seen
  exact ⟨s, played, by simpa using ended, ended_announced twoSlots [0, 1] twoSlots_valid (Run.of_play endedByClient s played)⟩

end ZyAgf.Pppoe.Server
