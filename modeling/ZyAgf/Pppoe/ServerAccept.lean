import ZyAgf.Pppoe.ServerTable
import ZyAgf.Pppoe.ServerTurns
import ZyAgf.Pppoe.Tags

set_option autoImplicit false

namespace ZyAgf.Pppoe.Server

-- The PADR carries the cookie of its sender, and no cookie after it.
def CookieVerified (cfg : Config) (ethif : Interface) (packet : PPPoEPacket) (tags : List PPPoETag) : Prop :=
  ∃ cookie, lastTag tags tagAcCookie = some cookie ∧ cookie.payload.length = cookieLen ∧
    cookie.payload = genCookie cfg packet.hSource ethif.mac

-- What a PADR has to be to get a session.
structure Acceptable (cfg : Config) (s : ServerState) (ethif : Interface) (packet : PPPoEPacket)
    (tags : List PPPoETag) : Prop where
  ours : packet.hDest = ethif.mac
  unicast : notUnicast packet.hSource = false
  limit : cfg.maxSessionsPerMac = 0 ∨ countSessionsFromMac cfg s packet.hSource < cfg.maxSessionsPerMac
  cookie : CookieVerified cfg ethif packet tags
  service : ∃ requested, lastTag tags tagServiceName = some requested ∧
    (requested.payload = [] ∨ requested.payload ∈ cfg.serviceNames)
  slot : s.freeSessions ≠ none

theorem parsePADRTags_cookie (statics : Statics) (tag : PPPoETag) : (parsePADRTags statics tag).receivedCookie =
    if tag.type = tagAcCookie then some tag else statics.receivedCookie := by
  by_cases here : tag.type = tagAcCookie
  · rw [if_pos here]
    simp [parsePADRTags, here, tagAcCookie, tagPppMaxPayload, tagRelaySessionId, tagHostUniq]
  · rw [if_neg here]
    simp only [parsePADRTags, if_neg here]
    repeat' split
    all_goals rfl

theorem parsePADRTags_service (statics : Statics) (tag : PPPoETag) : (parsePADRTags statics tag).requestedService =
    if tag.type = tagServiceName then some tag else statics.requestedService := by
  by_cases here : tag.type = tagServiceName
  · rw [if_pos here]
    simp [parsePADRTags, here, tagServiceName, tagAcCookie, tagPppMaxPayload, tagRelaySessionId, tagHostUniq]
  · rw [if_neg here]
    simp only [parsePADRTags, if_neg here]
    repeat' split
    all_goals rfl

theorem padrStatics_last (packet : PPPoEPacket) :
    (padrStatics packet).receivedCookie = lastTag (readTags packet) tagAcCookie ∧
    (padrStatics packet).requestedService = lastTag (readTags packet) tagServiceName := by
  have cookie := foldl_lastTag parsePADRTags Statics.receivedCookie tagAcCookie parsePADRTags_cookie
    (readTags packet) noTags
  have service := foldl_lastTag parsePADRTags Statics.requestedService tagServiceName parsePADRTags_service
    (readTags packet) noTags
  exact ⟨cookie.trans Option.or_none, service.trans Option.or_none⟩

theorem cookieKosher_iff (cfg : Config) (ethif : Interface) (packet : PPPoEPacket) :
    cookieKosher cfg (padrStatics packet) ethif packet.hSource = true ↔
      CookieVerified cfg ethif packet (readTags packet) := by
  unfold cookieKosher CookieVerified
  rw [(padrStatics_last packet).1]
  cases lastTag (readTags packet) tagAcCookie with
  | none => simp
  | some cookie => simp

theorem padrAdmitted_iff (cfg : Config) (s : ServerState) (ethif : Interface) (packet : PPPoEPacket) :
    padrAdmitted cfg s ethif packet = true ↔ packet.hDest = ethif.mac ∧ notUnicast packet.hSource = false ∧
      (cfg.maxSessionsPerMac = 0 ∨ countSessionsFromMac cfg s packet.hSource < cfg.maxSessionsPerMac) := by
  unfold padrAdmitted
  simp only [Bool.and_eq_true, beq_iff_eq, Bool.not_eq_true', Bool.and_eq_false_iff, bne_eq_false_iff_eq,
    decide_eq_false_iff_not,
    ge_iff_le, Nat.not_le, and_assoc]

theorem acceptable_iff (cfg : Config) (s : ServerState) (ethif : Interface) (packet : PPPoEPacket) :
    Acceptable cfg s ethif packet (readTags packet) ↔ Opens cfg s ethif packet := by
  constructor
  · rintro ⟨ours, unicast, limit, cookie, service, slot⟩
    refine ⟨(padrAdmitted_iff cfg s ethif packet).mpr ⟨ours, unicast, limit⟩,
      (cookieKosher_iff cfg ethif packet).mpr cookie, ?_, slot⟩
    rw [(padrStatics_last packet).2]
    exact service
  · rintro ⟨admitted, cookie, service, slot⟩
    obtain ⟨ours, unicast, limit⟩ := (padrAdmitted_iff cfg s ethif packet).mp admitted
    rw [(padrStatics_last packet).2] at service
    exact ⟨ours, unicast, limit, (cookieKosher_iff cfg ethif packet).mp cookie, service, slot⟩

theorem processPADR_verified (cfg : Config) (s : ServerState) (face : Nat) (ethif : Interface) (packet : PPPoEPacket)
    (fork : Option Nat) (reply : Reply) (built : reply ∈ (processPADR cfg s face ethif packet fork).2) :
    CookieVerified cfg ethif packet (readTags packet) := by
  rw [← cookieKosher_iff]
  unfold processPADR at built
  dsimp only at built
  split at built
  · cases built
  split at built
  · cases built
  next kosher => simpa using kosher

-- What processPADR decides for a PADR, given the tags it has.
structure Decides (cfg : Config) (s : ServerState) (ethif : Interface) (packet : PPPoEPacket) (fork : Option Nat)
    (tags : List PPPoETag) (result : ServerState × List Reply) : Prop where
  accepts : (busyList cfg result.1).length = (busyList cfg s).length + 1 ↔ Acceptable cfg s ethif packet tags ∧
    fork ≠ none
  takes : Acceptable cfg s ethif packet tags ∧ fork ≠ none → ∃ ses, freeList cfg s = ses :: freeList cfg result.1 ∧
    busyList cfg result.1 = ses :: busyList cfg s
  leaves : ¬ (Acceptable cfg s ethif packet tags ∧ fork ≠ none) → busyList cfg result.1 = busyList cfg s ∧
    (freeList cfg result.1 = freeList cfg s ∨ Acceptable cfg s ethif packet tags ∧
      ∃ ses rest, freeList cfg s = ses :: rest ∧ freeList cfg result.1 = rest ++ [ses])
  verified : ∀ reply ∈ result.2, CookieVerified cfg ethif packet tags

theorem processPADR_decides (cfg : Config) (s : ServerState) (ledger : Ledger) (holds : Holds cfg s ledger) (face : Nat)
    (ethif : Interface) (packet : PPPoEPacket) (fork : Option Nat) :
    Decides cfg s ethif packet fork (readTags packet) (processPADR cfg s face ethif packet fork) := by
  have busyBefore := busyList_eq cfg s _ _ holds.slots
  have freeBefore := freeList_eq cfg s _ _ holds.slots
  have verified := processPADR_verified cfg s face ethif packet fork
  by_cases opens : Opens cfg s ethif packet
  · have acceptable := (acceptable_iff cfg s ethif packet).mpr opens
    obtain ⟨ses, rest, split, after⟩ := processPADR_taken cfg s ledger holds face ethif packet fork opens
    have busyAfter := busyList_eq cfg _ _ _ after.slots
    have freeAfter := freeList_eq cfg _ _ _ after.slots
    cases fork with
    | none =>
        refine ⟨⟨fun more => ?_, fun taken => absurd rfl taken.2⟩, fun taken => absurd rfl taken.2, fun _ =>
          ⟨?_, .inr ?_⟩, verified⟩
        · rw [busyAfter, busyBefore] at more
          exact absurd more (Nat.ne_of_lt (Nat.lt_succ_self _))
        · rw [busyAfter, busyBefore]
        · exact ⟨acceptable, ses, rest, freeBefore.trans split, freeAfter⟩
    | some child =>
        refine ⟨⟨fun _ => ⟨acceptable, Option.some_ne_none child⟩, fun _ => ?_⟩, fun _ => ⟨ses, ?_, ?_⟩, fun left => ?_,
          verified⟩
        · rw [busyAfter, busyBefore, List.map_cons, List.length_cons]
        · rw [freeAfter, freeBefore, split]
        · rw [busyAfter, busyBefore, List.map_cons]
        · exact absurd ⟨acceptable, Option.some_ne_none child⟩ left
  · have refused : ¬ Acceptable cfg s ethif packet (readTags packet) := fun accepted =>
      opens ((acceptable_iff cfg s ethif packet).mp accepted)
    have after := processPADR_kept cfg s ledger holds face ethif packet fork opens
    have busyAfter := busyList_eq cfg _ _ _ after.slots
    have freeAfter := freeList_eq cfg _ _ _ after.slots
    refine ⟨⟨fun more => ?_, fun taken => absurd taken.1 refused⟩, fun taken => absurd taken.1 refused, fun _ =>
      ⟨?_, .inl ?_⟩, verified⟩
    · rw [busyAfter, busyBefore] at more
      exact absurd more (Nat.ne_of_lt (Nat.lt_succ_self _))
    · rw [busyAfter, busyBefore]
    · rw [freeAfter, freeBefore]

theorem run_holds (cfg : Config) (order : List Nat) (valid : cfg.Valid order) {visits : List (ServerState × Event)}
    {s : ServerState} (run : Run (next cfg) (initServer cfg order) visits s) : ∃ ledger, Holds cfg s ledger := by
  refine Run.invariant (fun _ _ => True) (fun s => ∃ ledger, Holds cfg s ledger) ⟨_, holds_init cfg order valid⟩ ?_ run
    (Run.meets_always visits)
  rintro d event d' ⟨ledger, holds⟩ _ moved
  obtain ⟨ledger', holds', _⟩ := next_turn cfg d ledger holds d' event moved
  exact ⟨ledger', holds'⟩

-- In every state the server reaches, what happens to a PADR is decided by the part
-- of its tag list that is well formed.
theorem padr_acceptance (cfg : Config) (order : List Nat) (valid : cfg.Valid order)
    {visits : List (ServerState × Event)}
    {s : ServerState} (run : Run (next cfg) (initServer cfg order) visits s) (face : Nat) (ethif : Interface)
    (packet : PPPoEPacket) (fork : Option Nat) :
    ∃ tags, WellFormedPrefix packet tags ∧
      Decides cfg s ethif packet fork tags (processPADR cfg s face ethif packet fork) := by
  obtain ⟨ledger, holds⟩ := run_holds cfg order valid run
  exact ⟨readTags packet, (readTags_wellFormed packet _).mpr rfl,
    processPADR_decides cfg s ledger holds face ethif packet fork⟩

theorem padr_acceptance_opened : ∃ tags, WellFormedPrefix padrFrame tags ∧
    Acceptable twoSlots (initServer twoSlots [0, 1]) ⟨#v[2, 0, 0, 0, 0, 1], 1500⟩ padrFrame tags := by
  obtain ⟨tags, formed, decides⟩ :=
    padr_acceptance twoSlots [0, 1] twoSlots_valid .start 0 ⟨#v[2, 0, 0, 0, 0, 1], 1500⟩ padrFrame (some 77)
  exact ⟨tags, formed, (decides.accepts.mp (by decide +kernel)).1⟩

end ZyAgf.Pppoe.Server
