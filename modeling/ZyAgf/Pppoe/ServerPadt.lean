import ZyAgf.Pppoe.ServerSlots

set_option autoImplicit false

namespace ZyAgf.Pppoe.Server

def Faced (cfg : Config) (s : ServerState) (i : Nat) : Prop :=
  ∃ e o, (s.sessions i).ethif = some e ∧ cfg.interfaces[e]? = some o

-- The slot lists are in order and every busy slot knows its interface.
def Sound (cfg : Config) (s : ServerState) : Prop :=
  ∃ busy free, Slots cfg s busy free ∧ ∀ i ∈ busy, Faced cfg s i

theorem sound_upd (cfg : Config) (s : ServerState) (p : Nat) (f : ClientSession → ClientSession)
    (keepsNext : ∀ x, (f x).next = x.next) (keepsNumber : ∀ x, (f x).sess = x.sess) (keepsEth : ∀ x, (f x).eth = x.eth)
    (keepsFace : ∀ x, (f x).ethif = x.ethif) (sound : Sound cfg s) : Sound cfg (s.updSession p f) := by
  obtain ⟨busy, free, slots, faced⟩ := sound
  refine ⟨busy, free, slots_upd cfg s busy free slots p f keepsNext keepsNumber (fun _ => keepsEth), ?_⟩
  intro i member
  obtain ⟨e, o, here, known⟩ := faced i member
  refine ⟨e, o, ?_, known⟩
  rw [ServerState.updSession_sessions]
  split
  · rw [keepsFace, here]
  · exact here

theorem sound_besides (cfg : Config) (s s' : ServerState) (sameSessions : s'.sessions = s.sessions)
    (sameHeads : s'.freeSessions = s.freeSessions ∧ s'.lastFreeSession = s.lastFreeSession ∧
      s'.busySessions = s.busySessions ∧ s'.numActiveSessions = s.numActiveSessions)
    (sound : Sound cfg s) : Sound cfg s' := by
  obtain ⟨busy, free, slots, faced⟩ := sound
  refine ⟨busy, free, slots_congr cfg s busy free slots s' ?_ ?_ ?_ sameHeads, ?_⟩
  · intro p
    unfold slotNext
    rw [sameSessions]
  · intro p
    rw [sameSessions]
  · intro p _
    rw [sameSessions]
  · intro i member
    unfold Faced
    rw [sameSessions]
    exact faced i member

theorem freeSession_sound (cfg : Config) (s : ServerState) (ses : Nat) (sound : Sound cfg s) :
    Sound cfg (pppoeFreeSession cfg s ses) := by
  obtain ⟨busy, free, slots, faced⟩ := sound
  by_cases member : ses ∈ busy
  · obtain ⟨after, _, faces⟩ := freeSession_slots cfg s busy free slots ses member
    refine ⟨busy.erase ses, free ++ [ses], after, ?_⟩
    intro i inside
    obtain ⟨e, o, here, known⟩ := faced i (List.mem_of_mem_erase inside)
    exact ⟨e, o, (faces i).trans here, known⟩
  · have absent := before_absent (slotNext s) cfg.numSessionSlots s.busySessions none busy ses member slots.busyList
    unfold pppoeFreeSession
    rw [show (fun p => (s.sessions p).next) = slotNext s from rfl, absent]
    exact ⟨busy, free, slots, faced⟩

theorem stopSession_sound (cfg : Config) (s s' : ServerState) (ses : Nat) (reason : String) (out : List Sent)
    (stopped : pppoeStopSession cfg s ses reason = some (s', out)) (sound : Sound cfg s) : Sound cfg s' := by
  obtain ⟨e, _, stopped⟩ := Option.bind_eq_some_iff.mp stopped
  obtain ⟨i, _, same⟩ := Option.map_eq_some_iff.mp stopped
  simp only [Prod.mk.injEq] at same
  rw [← same.1]
  exact sound_upd cfg s ses _ (fun _ => rfl) (fun _ => rfl) (fun _ => rfl) (fun _ => rfl) sound

theorem processPADI_sound (cfg : Config) (s : ServerState) (ethif : Interface) (packet : PPPoEPacket)
    (sound : Sound cfg s) : Sound cfg (processPADI cfg s ethif packet).1 := by
  unfold processPADI
  split
  · exact sound
  split
  · exact sound
  split
  · exact sound
  split
  · exact sound
  dsimp only
  split <;> split <;> exact sound_besides cfg s _ rfl ⟨rfl, rfl, rfl, rfl⟩ sound

theorem claimSlot_sound (cfg : Config) (s s' : ServerState) (ses face : Nat) (ethif : Interface) (eth : Mac)
    (known : cfg.interfaces[face]? = some ethif) (alloc : pppoeAllocSession s = some (ses, s')) (sound : Sound cfg s) :
    Sound cfg (s'.updSession ses fun x =>
      { x with eth := eth, ethif := some face, recvdPadt := false, sentPadt := false }) := by
  obtain ⟨busy, free, slots, faced⟩ := sound
  obtain ⟨free', rfl, after, _, others⟩ := allocSession_slots cfg s busy free slots ses s' alloc
  have notFree : ses ∉ free' := fun inside =>
    (List.nodup_append.mp (slots_distinct cfg s' (ses :: busy) free' after)).2.2 ses List.mem_cons_self ses inside rfl
  refine ⟨ses :: busy, free', slots_upd cfg s' _ free' after ses _ (fun _ => rfl) (fun _ => rfl)
    (fun inside => absurd inside notFree), ?_⟩
  intro i member
  unfold Faced
  rw [ServerState.updSession_sessions]
  by_cases same : i = ses
  · rw [if_pos same]
    exact ⟨face, ethif, rfl, known⟩
  · rw [if_neg same, others i same]
    rcases List.mem_cons.mp member with here | old
    · exact absurd here same
    · exact faced i old

theorem processPADR_sound (cfg : Config) (s : ServerState) (face : Nat) (ethif : Interface) (packet : PPPoEPacket)
    (fork : Option Nat) (known : cfg.interfaces[face]? = some ethif) (sound : Sound cfg s) :
    Sound cfg (processPADR cfg s face ethif packet fork).1 := by
  unfold processPADR
  dsimp only
  have parsed : Sound cfg { s with statics := padrStatics packet } :=
    sound_besides cfg s _ rfl ⟨rfl, rfl, rfl, rfl⟩ sound
  split
  · exact sound_besides cfg s _ rfl ⟨rfl, rfl, rfl, rfl⟩ sound
  split
  · exact parsed
  split
  · exact parsed
  split
  · exact parsed
  split
  · exact parsed
  · next ses s' alloc =>
      have claimed := claimSlot_sound cfg _ s' ses face ethif packet.hSource known alloc parsed
      split
      · exact freeSession_sound cfg _ ses claimed
      · next child =>
          have marked := sound_upd cfg _ ses (fun x => { x with pid := child }) (fun _ => rfl) (fun _ => rfl)
            (fun _ => rfl)
            (fun _ => rfl) claimed
          refine sound_besides cfg _ _ ?_ ?_ marked
          · rfl
          · exact ⟨rfl, rfl, rfl, rfl⟩

theorem processPADT_sound (cfg : Config) (s s' : ServerState) (ethif : Interface) (packet : PPPoEPacket)
    (out : List Sent)
    (ran : processPADT cfg s ethif packet = some (s', out)) (sound : Sound cfg s) : Sound cfg s' := by
  unfold processPADT at ran
  split at ran
  · cases ran
    exact sound
  · next i _ =>
      exact stopSession_sound cfg _ s' i _ out ran
        (sound_upd cfg s i _ (fun _ => rfl) (fun _ => rfl) (fun _ => rfl) (fun _ => rfl) sound)

theorem childHandler_sound (cfg : Config) (s s' : ServerState) (session : Nat) (out : List Sent)
    (ran : childHandler cfg s session = some (s', out)) (sound : Sound cfg s) : Sound cfg s' := by
  obtain ⟨e, _, ran⟩ := Option.bind_eq_some_iff.mp ran
  obtain ⟨i, _, same⟩ := Option.map_eq_some_iff.mp ran
  simp only [Prod.mk.injEq] at same
  rw [← same.1]
  exact freeSession_sound cfg _ session
    (sound_upd cfg s session _ (fun _ => rfl) (fun _ => rfl) (fun _ => rfl) (fun _ => rfl) sound)

theorem killAllFrom_sound (cfg : Config) (fuel : Nat) (cur : Option Nat) (s s' : ServerState) (out : List Sent)
    (ran : killAllFrom cfg fuel cur s = some (s', out)) (sound : Sound cfg s) : Sound cfg s' := by
  induction fuel generalizing cur s s' out with
  | zero =>
      cases ran
      exact sound
  | succ fuel ih =>
      cases cur with
      | none =>
          cases ran
          exact sound
      | some sess =>
          obtain ⟨stopped, stops, ran⟩ := Option.bind_eq_some_iff.mp ran
          obtain ⟨rest, later, same⟩ := Option.map_eq_some_iff.mp ran
          simp only [Prod.mk.injEq] at same
          rw [← same.1]
          exact ih _ stopped.1 rest.1 rest.2 later (stopSession_sound cfg s stopped.1 sess _ stopped.2 stops sound)

theorem killAllSessions_sound (cfg : Config) (s s' : ServerState) (out : List Sent)
    (ran : killAllSessions cfg s = some (s', out)) (sound : Sound cfg s) : Sound cfg s' := by
  obtain ⟨result, all, same⟩ := Option.map_eq_some_iff.mp ran
  simp only [Prod.mk.injEq] at same
  rw [← same.1]
  exact sound_besides cfg result.1 _ rfl ⟨rfl, rfl, rfl, rfl⟩ (killAllFrom_sound cfg _ _ s result.1 result.2 all sound)

theorem serverProcessPacket_sound (cfg : Config) (s s' : ServerState) (face : Nat) (ethif : Interface)
    (packet : PPPoEPacket) (fork : Option Nat) (out : List Sent) (known : cfg.interfaces[face]? = some ethif)
    (ran : serverProcessPacket cfg s face ethif packet fork = some (s', out)) (sound : Sound cfg s) : Sound cfg s' := by
  unfold serverProcessPacket framesOf at ran
  split at ran
  · cases ran
    exact sound
  split at ran
  · cases ran
    exact sound
  split at ran
  · cases ran
    exact processPADI_sound cfg s ethif packet sound
  split at ran
  · cases ran
    exact processPADR_sound cfg s face ethif packet fork known sound
  split at ran
  · exact processPADT_sound cfg s s' ethif packet out ran sound
  · cases ran
    exact sound

theorem handle_sound (cfg : Config) (s s' : ServerState) (event : Event) (out : List Sent)
    (ran : handle cfg s event = some (s', out)) (sound : Sound cfg s) : Sound cfg s' := by
  cases event with
  | packet face frame fork =>
      rw [handle] at ran
      split at ran
      · cases ran
      · obtain ⟨ethif, known, ran⟩ := Option.bind_eq_some_iff.mp ran
        exact serverProcessPacket_sound cfg s s' face ethif frame fork out known ran sound
  | childExit pid =>
      obtain ⟨entry, _, ran⟩ := Option.bind_eq_some_iff.mp ran
      exact childHandler_sound cfg _ s' entry.2 out ran (sound_besides cfg s _ rfl ⟨rfl, rfl, rfl, rfl⟩ sound)
  | setDrain mode =>
      cases ran
      exact sound_besides cfg s _ rfl ⟨rfl, rfl, rfl, rfl⟩ sound
  | terminate => exact killAllSessions_sound cfg s s' out ran sound

theorem next_sound (cfg : Config) (s s' : ServerState) (event : Event) (moved : next cfg s event = some s')
    (sound : Sound cfg s) : Sound cfg s' := by
  obtain ⟨result, ran, rfl⟩ := Option.map_eq_some_iff.mp moved
  unfold step at ran
  split at ran
  · cases ran
  · obtain ⟨handled, first, ran⟩ := Option.bind_eq_some_iff.mp ran
    have after := handle_sound cfg s handled.1 event handled.2 first sound
    split at ran
    · obtain ⟨ended, all, rfl⟩ := Option.map_eq_some_iff.mp ran
      exact killAllSessions_sound cfg handled.1 ended.1 ended.2 all after
    · cases ran
      exact after

theorem run_sound (cfg : Config) (order : List Nat) (valid : cfg.Valid order) (visits : List (ServerState × Event))
    (s : ServerState) (run : Run (next cfg) (initServer cfg order) visits s) : Sound cfg s :=
  run.invariant (fun _ _ => True) (Sound cfg)
    ⟨[], order, initServer_slots cfg order valid, fun _ member => nomatch member⟩
    (fun state event after sound _ moved => next_sound cfg state after event moved sound) (Run.meets_always visits)

theorem padtTarget_iff (cfg : Config) (s : ServerState) (busy free : List Nat) (slots : Slots cfg s busy free)
    (bounded : cfg.numSessionSlots + cfg.sessOffset ≤ 65534) (ethif : Interface) (packet : PPPoEPacket) (i : Nat) :
    padtTarget cfg s ethif packet = some i ↔ packet.hDest = ethif.mac ∧ i < cfg.numSessionSlots ∧
      (s.sessions i).sess = packet.session ∧ packet.hSource = (s.sessions i).eth := by
  unfold padtTarget
  dsimp only
  generalize index : ((ntohs packet.session).toNat + 2 ^ 64 - 1 - cfg.sessOffset) % 2 ^ 64 = j
  by_cases ours : packet.hDest = ethif.mac
  · rw [if_neg (by simpa using ours)]
    by_cases outside : j ≥ cfg.numSessionSlots
    · rw [if_pos outside]
      refine ⟨fun none' => (by cases none'), fun ⟨_, bound, number, _⟩ => ?_⟩
      exfalso
      rw [slots.numbers i bound] at number
      have wire : (ntohs packet.session).toNat = i + 1 + cfg.sessOffset := by
        rw [← number, slotNumber, ntohs, htons_htons, UInt16.toNat_ofNat']
        exact Nat.mod_eq_of_lt (by omega)
      omega
    · rw [if_neg outside]
      by_cases number : (s.sessions j).sess = packet.session
      · rw [if_neg (by simpa using number)]
        have only : ∀ k, k < cfg.numSessionSlots → (s.sessions k).sess = packet.session → k = j := by
          intro k bound same
          rw [slots.numbers k bound] at same
          have wire := slotNumber_toNat cfg bounded k bound
          rw [same] at wire
          omega
        by_cases sender : packet.hSource = (s.sessions j).eth
        · rw [if_neg (by simpa using sender)]
          constructor
          · intro same
            obtain rfl := Option.some.inj same
            exact ⟨ours, by omega, number, sender⟩
          · rintro ⟨_, bound, same, _⟩
            rw [only i bound same]
        · rw [if_pos sender]
          refine ⟨fun none' => (by cases none'), fun ⟨_, bound, same, from'⟩ => ?_⟩
          rw [only i bound same] at from'
          exact absurd from' sender
      · rw [if_pos number]
        refine ⟨fun none' => (by cases none'), fun ⟨_, bound, same, _⟩ => ?_⟩
        exfalso
        rw [slots.numbers i bound] at same
        have wire := slotNumber_toNat cfg bounded i bound
        rw [same] at wire
        have here : j = i := by omega
        exact number (here ▸ (slots.numbers i bound).trans same)
  · rw [if_pos ours]
    exact ⟨fun none' => (by cases none'), fun both => absurd both.1 ours⟩

-- A PADT is harmless when it stops nothing but a busy session of its sender and
-- otherwise leaves the server as it was.
structure StopsOwn (cfg : Config) (s : ServerState) (ethif : Interface) (packet : PPPoEPacket) : Prop where
  live : ∀ i, padtTarget cfg s ethif packet = some i →
    i ∈ busyList cfg s ∧ (s.sessions i).eth = packet.hSource ∧ (s.sessions i).ethif ≠ none
  idle : padtTarget cfg s ethif packet = none → processPADT cfg s ethif packet = some (s, [])

-- The one frame that is not: it comes from the address that idle slots hold.
def NamesIdleSlot (cfg : Config) (s : ServerState) (ethif : Interface) (packet : PPPoEPacket) : Prop :=
  packet.hSource = noMac ∧ packet.hDest = ethif.mac ∧
    ∃ i, i < cfg.numSessionSlots ∧ i ∉ busyList cfg s ∧ (s.sessions i).sess = packet.session

theorem padt_stops_own (cfg : Config) (order : List Nat) (valid : cfg.Valid order)
    (visits : List (ServerState × Event)) (s : ServerState) (run : Run (next cfg) (initServer cfg order) visits s)
    (ethif : Interface) (packet : PPPoEPacket) :
    StopsOwn cfg s ethif packet ↔ ¬ NamesIdleSlot cfg s ethif packet := by
  obtain ⟨busy, free, slots, faced⟩ := run_sound cfg order valid visits s run
  have target := padtTarget_iff cfg s busy free slots valid.bounded ethif packet
  have listed := busyList_eq cfg s busy free slots
  constructor
  · rintro stops ⟨zero, ours, i, bound, idle, number⟩
    have isFree : i ∈ free := (slot_busy_or_free cfg s busy free slots i bound).resolve_left (listed ▸ idle)
    have hit := (target i).mpr ⟨ours, bound, number, zero.trans (slots.cleared i isFree).symm⟩
    exact idle (stops.live i hit).1
  · intro harmless
    refine ⟨fun i hit => ?_, fun missed => by rw [processPADT, missed]⟩
    obtain ⟨ours, bound, number, sender⟩ := (target i).mp hit
    have isBusy : i ∈ busy := by
      by_contra idle
      have isFree := (slot_busy_or_free cfg s busy free slots i bound).resolve_left idle
      exact harmless ⟨sender.trans (slots.cleared i isFree), ours, i, bound, listed ▸ idle, number⟩
    obtain ⟨e, _, here, _⟩ := faced i isBusy
    exact ⟨listed ▸ isBusy, sender.symm, by rw [here]; simp⟩

def twoSlots : Config where
  numSessionSlots := 2
  sessOffset := 0
  interfaces := [⟨macAddr 2 0 0 0 0 1, 1500⟩]
  maxSessionsPerMac := 0
  ignorePADIIfNoFreeSessions := false
  acName := [65]
  serviceNames := []
  cookieSeed := Vector.replicate 16 0
  pid := Vector.replicate 4 0
  md5 := fun _ => Vector.replicate 16 0

theorem twoSlots_valid : twoSlots.Valid [0, 1] := ⟨by decide, by decide, List.Perm.refl _⟩

def clientMac : Mac := macAddr 2 0 0 0 0 7

def padrFrame : PPPoEPacket where
  hDest := macAddr 2 0 0 0 0 1
  hSource := clientMac
  vertype := pppoeVerType
  code := codePADR
  session := 0
  length := 28
  payload := tagBytes ⟨tagAcCookie, List.replicate 20 0⟩ ++ tagBytes ⟨tagServiceName, []⟩

def padtFrame (source : Mac) (session : UInt16) : PPPoEPacket where
  hDest := macAddr 2 0 0 0 0 1
  hSource := source
  vertype := pppoeVerType
  code := codePADT
  session := session
  length := 0
  payload := []

-- After its PADR the client's own PADT stops slot 0.
theorem padt_stops_own_client : ∃ s, next twoSlots (initServer twoSlots [0, 1])
    (.packet 0 padrFrame (some 77)) = some s ∧
    padtTarget twoSlots s ⟨#v[2, 0, 0, 0, 0, 1], 1500⟩ (padtFrame clientMac 0x0100) = some 0 ∧
    StopsOwn twoSlots s ⟨#v[2, 0, 0, 0, 0, 1], 1500⟩ (padtFrame clientMac 0x0100) := by
  have scene : (next twoSlots (initServer twoSlots [0, 1]) (.packet 0 padrFrame (some 77))).any (fun s =>
      padtTarget twoSlots s ⟨#v[2, 0, 0, 0, 0, 1], 1500⟩ (padtFrame clientMac 0x0100) == some 0) = true := by
    decide +kernel
  obtain ⟨s, moved, hit⟩ := (Option.any_eq_true _ _).mp scene
  refine ⟨s, moved, by simpa using hit, ?_⟩
  refine (padt_stops_own twoSlots [0, 1] twoSlots_valid _ s (Run.start.snoc _ _ _ _ moved) _ _).mpr ?_
  rintro ⟨zero, _⟩
  exact absurd zero (by decide)

-- From the zero address the same frame stops a slot that nobody ever used, and
-- the stop function follows its null interface pointer.
theorem padt_stops_idle_slot : ¬ ∀ (cfg : Config) (order : List Nat), cfg.Valid order →
    ∀ visits s, Run (next cfg) (initServer cfg order) visits s → ∀ ethif packet, StopsOwn cfg s ethif packet := by
  intro claimed
  have stops := claimed twoSlots [0, 1] twoSlots_valid [] _ Run.start ⟨#v[2, 0, 0, 0, 0, 1], 1500⟩
    (padtFrame noMac 0x0100)
  have hit : padtTarget twoSlots (initServer twoSlots [0, 1]) ⟨#v[2, 0, 0, 0, 0, 1], 1500⟩
    (padtFrame noMac 0x0100) = some 0 := by
    decide +kernel
  exact (stops.live 0 hit).2.2 rfl

end ZyAgf.Pppoe.Server
