import ZyAgf.Pppoe.ServerFrames

set_option autoImplicit false

namespace ZyAgf.Pppoe.Server

-- A slot of the table holds the session of this client on this interface.
structure Serves (cfg : Config) (s : ServerState) (slot : Nat) (mac : Mac) (face : Nat) (session : UInt16) : Prop where
  busy : slot ∈ busyList cfg s
  eth : (s.sessions slot).eth = mac
  ethif : (s.sessions slot).ethif = some face
  sess : (s.sessions slot).sess = session

-- The exit of the child that serves a slot is what gives the slot back.
def Exits (s : ServerState) (event : Event) (slot : Nat) : Prop :=
  ∃ pid entry, event = .childExit pid ∧ s.children.find? (fun entry => entry.1 == pid) = some entry ∧ entry.2 = slot

def ClientSession.grant (x : ClientSession) : Mac × Option Nat × UInt16 := (x.eth, x.ethif, x.sess)

def KeepsGrants (cfg : Config) (s s' : ServerState) (others : Nat → Prop) : Prop :=
  ∀ slot ∈ busyList cfg s, others slot → slot ∈ busyList cfg s' ∧ (s'.sessions slot).grant = (s.sessions slot).grant

theorem serves_kept (cfg : Config) (s s' : ServerState) (others : Nat → Prop) (keeps : KeepsGrants cfg s s' others)
    (slot : Nat)
    (mac : Mac) (face : Nat) (session : UInt16) (other : others slot) (serves : Serves cfg s slot mac face session) :
    Serves cfg s' slot mac face session := by
  obtain ⟨busy, same⟩ := keeps slot serves.busy other
  exact ⟨busy, (congrArg (·.1) same).trans serves.eth, (congrArg (·.2.1) same).trans serves.ethif,
    (congrArg (·.2.2) same).trans serves.sess⟩

theorem keepsGrants_refl (cfg : Config) (s : ServerState) (others : Nat → Prop) : KeepsGrants cfg s s others :=
  fun _ busy _ => ⟨busy, rfl⟩

theorem keepsGrants_trans (cfg : Config) (s s' s'' : ServerState) (others : Nat → Prop)
    (first : KeepsGrants cfg s s' others)
    (second : KeepsGrants cfg s' s'' others) : KeepsGrants cfg s s'' others := by
  intro slot busy other
  obtain ⟨stays, same⟩ := first slot busy other
  obtain ⟨stays', same'⟩ := second slot stays other
  exact ⟨stays', same'.trans same⟩

theorem keepsGrants_upd (cfg : Config) (s : ServerState) (others : Nat → Prop) (p : Nat)
    (f : ClientSession → ClientSession)
    (keepsNext : ∀ x, (f x).next = x.next) (keepsGrant : ∀ x, (f x).grant = x.grant) :
    KeepsGrants cfg s (s.updSession p f) others := by
  intro slot busy _
  rw [busy_flagged cfg s p f keepsNext, ServerState.updSession_sessions]
  refine ⟨busy, ?_⟩
  split
  · exact keepsGrant _
  · rfl

theorem stopSession_keeps (cfg : Config) (s : ServerState) (others : Nat → Prop) (ses : Nat) (reason : String)
    (result : ServerState × List Sent) (stopped : pppoeStopSession cfg s ses reason = some result) :
    KeepsGrants cfg s result.1 others := by
  obtain ⟨_, _, stopped⟩ := Option.bind_eq_some_iff.mp stopped
  obtain ⟨_, _, rfl⟩ := Option.map_eq_some_iff.mp stopped
  exact keepsGrants_upd cfg s others ses (fun x => { x with sentPadt := true }) (fun _ => rfl) fun _ => rfl

theorem killAllFrom_keeps (cfg : Config) (others : Nat → Prop) (fuel : Nat) (cur : Option Nat) (s : ServerState)
    (result : ServerState × List Sent) (ran : killAllFrom cfg fuel cur s = some result) : KeepsGrants cfg s result.1
    others := by
  induction fuel generalizing cur s result with
  | zero =>
      obtain rfl := Option.some.inj ran
      exact keepsGrants_refl cfg s others
  | succ fuel ih =>
      cases cur with
      | none =>
          obtain rfl := Option.some.inj ran
          exact keepsGrants_refl cfg s others
      | some sess =>
          obtain ⟨stopped, first, rest⟩ := Option.bind_eq_some_iff.mp ran
          obtain ⟨later, onward, rfl⟩ := Option.map_eq_some_iff.mp rest
          exact keepsGrants_trans cfg s stopped.1 later.1 others (stopSession_keeps cfg s others sess _ stopped first)
            (ih _ stopped.1 later onward)

theorem killAllSessions_keeps (cfg : Config) (others : Nat → Prop) (s : ServerState) (result : ServerState × List Sent)
    (ran : killAllSessions cfg s = some result) : KeepsGrants cfg s result.1 others := by
  obtain ⟨all, killed, rfl⟩ := Option.map_eq_some_iff.mp ran
  exact killAllFrom_keeps cfg others _ _ s all killed

theorem freeSession_keeps (cfg : Config) (s : ServerState) (sound : Sound cfg s) (ses : Nat) :
    KeepsGrants cfg s (pppoeFreeSession cfg s ses) (· ≠ ses) := by
  obtain ⟨busy, free, slots, _⟩ := sound
  intro slot member other
  refine ⟨?_, freeSession_elsewhere ClientSession.grant (fun _ _ => rfl) cfg s ses slot other⟩
  by_cases here : ses ∈ busy
  · rw [busyList_eq cfg s busy free slots] at member
    rw [busyList_eq cfg _ _ _ (freeSession_slots cfg s busy free slots ses here).1]
    exact (List.mem_erase_of_ne other).mpr member
  · rw [(freeSession_absent cfg s busy free slots ses here).2]
    exact member

theorem claimed_keeps (cfg : Config) (s taken : ServerState) (sound : Sound cfg s) (ses face : Nat) (source : Mac)
    (alloc : pppoeAllocSession s = some (ses, taken)) (others : Nat → Prop) :
    KeepsGrants cfg s (claimed taken ses face source) others ∧ ses ∉ busyList cfg s ∧
      ses ∈ busyList cfg (claimed taken ses face source) := by
  obtain ⟨busy, free, slots, _⟩ := sound
  obtain ⟨free', rfl, after, _, same⟩ := allocSession_slots cfg s busy free slots ses taken alloc
  have distinct := slots_distinct cfg taken _ _ after
  have idle : ses ∉ busy := (List.nodup_cons.mp (List.nodup_append.mp distinct).1).1
  have notFree : ses ∉ free' := fun inside => (List.nodup_append.mp distinct).2.2 ses List.mem_cons_self ses inside rfl
  have mine : Slots cfg (claimed taken ses face source) (ses :: busy) free' :=
    slots_upd cfg taken _ free' after ses _ (fun _ => rfl) (fun _ => rfl) fun inside => absurd inside notFree
  rw [busyList_eq cfg s busy _ slots]
  refine ⟨?_, idle, by rw [busyList_eq cfg _ _ _ mine]; exact List.mem_cons_self⟩
  intro slot member _
  rw [busyList_eq cfg s busy _ slots] at member
  rw [busyList_eq cfg _ _ _ mine]
  have other : slot ≠ ses := fun here => idle (here ▸ member)
  refine ⟨List.mem_cons_of_mem ses member, ?_⟩
  unfold claimed
  rw [ServerState.updSession_sessions, if_neg other, same slot other]

theorem processPADR_keeps (cfg : Config) (s : ServerState) (sound : Sound cfg s) (face : Nat) (ethif : Interface)
    (packet : PPPoEPacket) (fork : Option Nat) (others : Nat → Prop) (known : cfg.interfaces[face]? = some ethif) :
    KeepsGrants cfg s (processPADR cfg s face ethif packet fork).1 others := by
  by_cases opens : Opens cfg s ethif packet
  · obtain ⟨_, ses, taken, _, alloc, same⟩ := processPADR_opened cfg s face ethif packet fork opens
    have parsed : Sound cfg { s with statics := padrStatics packet } :=
      sound_besides cfg s _ rfl ⟨rfl, rfl, rfl, rfl⟩ sound
    obtain ⟨keeps, idle, _⟩ := claimed_keeps cfg _ taken parsed ses face packet.hSource alloc others
    rw [same]
    cases fork with
    | none =>
        have claim := claimSlot_sound cfg _ taken ses face ethif packet.hSource known alloc parsed
        intro slot member other
        obtain ⟨stays, grant⟩ := keeps slot member other
        have apart : slot ≠ ses := fun here => idle (here ▸ member)
        obtain ⟨stays', grant'⟩ := freeSession_keeps cfg _ claim ses slot stays apart
        exact ⟨stays', grant'.trans grant⟩
    | some child =>
        exact keepsGrants_trans cfg s _ _ others keeps
          (keepsGrants_upd cfg _ others ses (fun x => { x with pid := child }) (fun _ => rfl) fun _ => rfl)
  · obtain ⟨_, same⟩ := processPADR_unopened cfg s face ethif packet fork opens
    rw [same]
    exact keepsGrants_refl cfg s others

theorem processPADI_keeps (cfg : Config) (s : ServerState) (ethif : Interface) (packet : PPPoEPacket)
    (others : Nat → Prop) :
    KeepsGrants cfg s (processPADI cfg s ethif packet).1 others := by
  unfold processPADI
  iterate 4
    split
    · exact keepsGrants_refl cfg s others
  dsimp only
  split <;> split <;> exact keepsGrants_refl cfg s others

theorem processPADT_keeps (cfg : Config) (s : ServerState) (ethif : Interface) (packet : PPPoEPacket)
    (others : Nat → Prop)
    (result : ServerState × List Sent) (ran : processPADT cfg s ethif packet = some result) : KeepsGrants cfg s result.1
    others := by
  unfold processPADT at ran
  split at ran
  · obtain rfl := Option.some.inj ran
    exact keepsGrants_refl cfg s others
  · next i _ =>
      exact keepsGrants_trans cfg s _ _ others
        (keepsGrants_upd cfg s others i (fun x => { x with recvdPadt := true }) (fun _ => rfl) fun _ => rfl)
        (stopSession_keeps cfg _ others i _ result ran)

theorem handle_keeps (cfg : Config) (s : ServerState) (sound : Sound cfg s) (event : Event)
    (result : ServerState × List Sent)
    (ran : handle cfg s event = some result) : KeepsGrants cfg s result.1 fun slot => ¬ Exits s event slot := by
  cases event with
  | packet face frame fork =>
      rw [handle] at ran
      split at ran
      · cases ran
      obtain ⟨ethif, known, ran⟩ := Option.bind_eq_some_iff.mp ran
      unfold serverProcessPacket framesOf at ran
      split at ran
      · obtain rfl := Option.some.inj ran
        exact keepsGrants_refl cfg s _
      split at ran
      · obtain rfl := Option.some.inj ran
        exact keepsGrants_refl cfg s _
      split at ran
      · obtain rfl := Option.some.inj ran
        exact processPADI_keeps cfg s ethif frame _
      split at ran
      · obtain rfl := Option.some.inj ran
        exact processPADR_keeps cfg s sound face ethif frame fork _ known
      split at ran
      · exact processPADT_keeps cfg s ethif frame _ result ran
      · obtain rfl := Option.some.inj ran
        exact keepsGrants_refl cfg s _
  | childExit pid =>
      obtain ⟨entry, found, ran⟩ := Option.bind_eq_some_iff.mp ran
      obtain ⟨_, _, ran⟩ := Option.bind_eq_some_iff.mp ran
      obtain ⟨_, _, rfl⟩ := Option.map_eq_some_iff.mp ran
      have gone : Sound cfg { s with children := s.children.erase entry } :=
        sound_besides cfg s _ rfl ⟨rfl, rfl, rfl, rfl⟩ sound
      have marked := sound_upd cfg _ entry.2 (fun x => { x with sentPadt := true }) (fun _ => rfl) (fun _ => rfl)
        (fun _ => rfl)
        (fun _ => rfl) gone
      have flagged : KeepsGrants cfg s ({ s with children := s.children.erase entry }.updSession entry.2
          fun x => { x with sentPadt := true }) (· ≠ entry.2) :=
        keepsGrants_upd cfg { s with children := s.children.erase entry } _ entry.2
          (fun x => { x with sentPadt := true })
          (fun _ => rfl) fun _ => rfl
      intro slot member going
      have other : slot ≠ entry.2 := fun here => going ⟨pid, entry, rfl, found, here.symm⟩
      exact keepsGrants_trans cfg s _ _ _ flagged (freeSession_keeps cfg _ marked entry.2) slot member other
  | setDrain mode =>
      obtain rfl := Option.some.inj ran
      exact keepsGrants_refl cfg s _
  | terminate => exact killAllSessions_keeps cfg _ s result ran

theorem step_keeps (cfg : Config) (s : ServerState) (sound : Sound cfg s) (event : Event)
    (result : ServerState × List Sent)
    (ran : step cfg s event = some result) : KeepsGrants cfg s result.1 fun slot => ¬ Exits s event slot := by
  unfold step at ran
  split at ran
  · cases ran
  obtain ⟨handled, first, ran⟩ := Option.bind_eq_some_iff.mp ran
  have keeps := handle_keeps cfg s sound event handled first
  split at ran
  · obtain ⟨ended, all, rfl⟩ := Option.map_eq_some_iff.mp ran
    exact keepsGrants_trans cfg s handled.1 ended.1 _ keeps (killAllSessions_keeps cfg _ handled.1 ended all)
  · obtain rfl := Option.some.inj ran
    exact keeps

theorem taken_serves (cfg : Config) (s taken : ServerState) (sound : Sound cfg s) (ses face : Nat) (source : Mac)
    (child : Nat)
    (alloc : pppoeAllocSession s = some (ses, taken)) :
    Serves cfg { (claimed taken ses face source).updSession ses fun x => { x with pid := child } with
      children := (child, ses) :: taken.children } ses source face (taken.sessions ses).sess := by
  obtain ⟨_, _, mine⟩ := claimed_keeps cfg s taken sound ses face source alloc fun _ => True
  refine ⟨?_, by simp [claimed], by simp [claimed], by simp [claimed]⟩
  exact (busy_flagged cfg (claimed taken ses face source) ses (fun x => { x with pid := child }) fun _ => rfl).symm ▸
    mine

-- What a PADS of the server can be: an error ahead of everything else, or the
-- number of a slot that is its receiver's by now.
inductive Tells (cfg : Config) (s : ServerState) (sent : Sent) : Prop where
  | refusal (dest source : Mac) (tag : PPPoETag) (rest : List PPPoETag)
      (frame : sent.frame = tagFrame dest source codePADS 0 (tag :: rest)) (error : Client.errorTag tag.type = true)
  | grant (slot : Nat) (serves : Serves cfg s slot sent.frame.hDest sent.ethif sent.frame.session)

theorem errorPADS_tells (cfg : Config) (s : ServerState) (statics : Statics) (source dest : Mac) (tag : Nat)
    (text : String) (face : Nat)
    (error : Client.errorTag tag = true) : ∀ sent ∈ (sendErrorPADS statics source dest tag text).frames face,
    Tells cfg s sent := by
  intro sent member
  rw [frames_carries (sendErrorPADS_carries statics source dest tag text) face,
    if_pos (show (sendErrorPADS statics source dest tag text).sent = true from rfl)] at member
  obtain rfl := List.mem_singleton.mp member
  exact .refusal dest source _ _ rfl error

theorem processPADR_tells (cfg : Config) (s : ServerState) (sound : Sound cfg s) (face : Nat) (ethif : Interface)
    (packet : PPPoEPacket)
    (fork : Option Nat) : ∀ sent ∈ (framesOf face (processPADR cfg s face ethif packet fork)).2,
      Tells cfg (processPADR cfg s face ethif packet fork).1 sent := by
  have error (s' : ServerState) (statics : Statics) (tag : Nat) (text : String) (bad : Client.errorTag tag = true) :
      ∀ sent ∈ [sendErrorPADS statics ethif.mac packet.hSource tag text].flatMap (Reply.frames face),
        Tells cfg s' sent := by
    rw [List.flatMap_singleton]
    exact errorPADS_tells cfg s' statics ethif.mac packet.hSource tag text face bad
  have none' (s' : ServerState) : ∀ sent ∈ ([] : List Reply).flatMap (Reply.frames face), Tells cfg s' sent :=
    fun _ member => absurd member List.not_mem_nil
  unfold framesOf processPADR
  dsimp only
  split
  · exact none' _
  split
  · exact none' _
  split
  · exact error _ _ _ _ rfl
  split
  · exact error _ _ _ _ rfl
  split
  · exact error _ _ _ _ rfl
  next ses taken alloc =>
    have parsed : Sound cfg { s with statics := padrStatics packet } :=
      sound_besides cfg s _ rfl ⟨rfl, rfl, rfl, rfl⟩ sound
    obtain ⟨_, _, mine⟩ := claimed_keeps cfg _ taken parsed ses face packet.hSource alloc fun _ => True
    split
    · exact error _ _ _ _ rfl
    next child =>
      intro sent member
      dsimp only at member ⊢
      rw [List.flatMap_singleton] at member
      rcases childPADS_frames cfg (padrStatics packet) ethif packet.hSource _ _ face with ⟨_, frames⟩ | ⟨_, frames⟩
      · rw [frames] at member
        obtain rfl := List.mem_singleton.mp member
        refine .grant ses ⟨?_, ?_, ?_, ?_⟩
        · exact (busy_flagged cfg (claimed taken ses face packet.hSource) ses (fun x => { x with pid := child })
            fun _ => rfl).symm ▸ mine
        · simp [tagFrame]
        · simp
        · simp [tagFrame]
      · rw [frames] at member
        cases member

theorem processPADI_code (cfg : Config) (s : ServerState) (face : Nat) (ethif : Interface) (packet : PPPoEPacket) :
    ∀ sent ∈ (framesOf face (processPADI cfg s ethif packet)).2, sent.frame.code = codePADO := by
  have none' : ∀ sent ∈ ([] : List Reply).flatMap (Reply.frames face), sent.frame.code = codePADO :=
    fun _ member => absurd member List.not_mem_nil
  unfold framesOf
  rw [processPADI_eq]
  iterate 4
    split
    · exact none'
  dsimp only
  split
  · exact none'
  · intro sent member
    dsimp only at member
    rw [padoReply_frames] at member
    split at member
    · rw [List.mem_singleton.mp member]
      rfl
    · cases member

theorem sendPADT_code (i : Interface) (ethif : Nat) (ses : ClientSession) (msg : String) :
    ∀ sent ∈ sendPADT i ethif ses msg, sent.frame.code = codePADT := by
  intro sent member
  unfold sendPADT at member
  split at member
  · cases member
  · rw [List.mem_singleton.mp member]

theorem stopSession_code (cfg : Config) (s : ServerState) (ses : Nat) (reason : String)
    (result : ServerState × List Sent)
    (stopped : pppoeStopSession cfg s ses reason = some result) : ∀ sent ∈ result.2, sent.frame.code = codePADT := by
  obtain ⟨_, _, stopped⟩ := Option.bind_eq_some_iff.mp stopped
  obtain ⟨_, _, rfl⟩ := Option.map_eq_some_iff.mp stopped
  exact sendPADT_code _ _ _ _

theorem killAllFrom_code (cfg : Config) (fuel : Nat) (cur : Option Nat) (s : ServerState)
    (result : ServerState × List Sent)
    (ran : killAllFrom cfg fuel cur s = some result) : ∀ sent ∈ result.2, sent.frame.code = codePADT := by
  induction fuel generalizing cur s result with
  | zero =>
      obtain rfl := Option.some.inj ran
      exact fun _ member => absurd member List.not_mem_nil
  | succ fuel ih =>
      cases cur with
      | none =>
          obtain rfl := Option.some.inj ran
          exact fun _ member => absurd member List.not_mem_nil
      | some sess =>
          obtain ⟨stopped, first, rest⟩ := Option.bind_eq_some_iff.mp ran
          obtain ⟨later, onward, rfl⟩ := Option.map_eq_some_iff.mp rest
          intro sent member
          rcases List.mem_append.mp member with here | there
          · exact stopSession_code cfg s sess _ stopped first sent here
          · exact ih _ stopped.1 later onward sent there

theorem killAllSessions_code (cfg : Config) (s : ServerState) (result : ServerState × List Sent)
    (ran : killAllSessions cfg s = some result) : ∀ sent ∈ result.2, sent.frame.code = codePADT := by
  obtain ⟨all, killed, rfl⟩ := Option.map_eq_some_iff.mp ran
  exact killAllFrom_code cfg _ _ s all killed

theorem handle_tells (cfg : Config) (s : ServerState) (sound : Sound cfg s) (event : Event)
    (result : ServerState × List Sent)
    (ran : handle cfg s event = some result) : ∀ sent ∈ result.2, sent.frame.code = codePADS →
    Tells cfg result.1 sent := by
  have none' : ∀ sent ∈ ([] : List Sent), sent.frame.code = codePADS → Tells cfg result.1 sent :=
    fun _ member => absurd member List.not_mem_nil
  have torn (out : List Sent) (told : ∀ sent ∈ out, sent.frame.code = codePADT) :
      ∀ sent ∈ out, sent.frame.code = codePADS → Tells cfg result.1 sent := by
    intro sent member pads
    rw [told sent member] at pads
    exact absurd pads (by decide)
  cases event with
  | packet face frame fork =>
      rw [handle] at ran
      split at ran
      · cases ran
      obtain ⟨ethif, _, ran⟩ := Option.bind_eq_some_iff.mp ran
      unfold serverProcessPacket at ran
      split at ran
      · obtain rfl := Option.some.inj ran
        exact none'
      split at ran
      · obtain rfl := Option.some.inj ran
        exact none'
      split at ran
      · obtain rfl := Option.some.inj ran
        intro sent member pads
        rw [processPADI_code cfg s face ethif frame sent member] at pads
        exact absurd pads (by decide)
      split at ran
      · obtain rfl := Option.some.inj ran
        exact fun sent member _ => processPADR_tells cfg s sound face ethif frame fork sent member
      split at ran
      · unfold processPADT at ran
        split at ran
        · obtain rfl := Option.some.inj ran
          exact none'
        · exact torn _ (stopSession_code cfg _ _ _ result ran)
      · obtain rfl := Option.some.inj ran
        exact none'
  | childExit pid =>
      obtain ⟨entry, _, ran⟩ := Option.bind_eq_some_iff.mp ran
      obtain ⟨_, _, ran⟩ := Option.bind_eq_some_iff.mp ran
      obtain ⟨_, _, rfl⟩ := Option.map_eq_some_iff.mp ran
      refine torn _ ?_
      dsimp only
      split
      · exact fun _ member => absurd member List.not_mem_nil
      · split <;> exact sendPADT_code _ _ _ _
  | setDrain mode =>
      obtain rfl := Option.some.inj ran
      exact none'
  | terminate => exact torn _ (killAllSessions_code cfg s result ran)

theorem tells_kept (cfg : Config) (s s' : ServerState) (keeps : KeepsGrants cfg s s' fun _ => True) (sent : Sent)
    (tells : Tells cfg s sent) : Tells cfg s' sent := by
  cases tells with
  | refusal dest source tag rest frame error => exact .refusal dest source tag rest frame error
  | grant slot serves => exact .grant slot (serves_kept cfg s s' _ keeps slot _ _ _ trivial serves)

theorem step_tells (cfg : Config) (s : ServerState) (sound : Sound cfg s) (event : Event)
    (result : ServerState × List Sent)
    (ran : step cfg s event = some result) : ∀ sent ∈ result.2, sent.frame.code = codePADS →
    Tells cfg result.1 sent := by
  unfold step at ran
  split at ran
  · cases ran
  obtain ⟨handled, first, ran⟩ := Option.bind_eq_some_iff.mp ran
  have tells := handle_tells cfg s sound event handled first
  split at ran
  · obtain ⟨ended, all, rfl⟩ := Option.map_eq_some_iff.mp ran
    intro sent member pads
    rcases List.mem_append.mp member with here | there
    · exact tells_kept cfg handled.1 ended.1 (killAllSessions_keeps cfg _ handled.1 ended all) sent
        (tells sent here pads)
    · rw [killAllSessions_code cfg handled.1 ended all sent there] at pads
      exact absurd pads (by decide)
  · obtain rfl := Option.some.inj ran
    exact tells

end ZyAgf.Pppoe.Server
