import Mathlib.Algebra.GroupWithZero.Nat
import ZyAgf.Pppoe.Server

set_option autoImplicit false

namespace ZyAgf.Pppoe.Server

-- A reply fits when every write stays in the payload array and what is sent
-- claims no more than a frame can carry.
structure Reply.Fits (r : Reply) : Prop where
  inside : ∀ w ∈ r.writes, w.1 + w.2.length ≤ ethJumboLen
  short : r.sent = true → r.plen ≤ maxPppoePayload

-- The writes of a reply end where its cursor stands.
structure Reply.Tight (r : Reply) : Prop where
  counted : r.plen = r.cursor % 65536
  reached : ∀ w ∈ r.writes, w.1 + w.2.length ≤ r.cursor
  ends : r.cursor = 0 ∨ ∃ w ∈ r.writes, w.1 + w.2.length = r.cursor

def tagSize : Option PPPoETag → Nat
  | some tag => tagHdrSize + tag.payload.length
  | none => 0

theorem tagBytes_length (tag : PPPoETag) : (tagBytes tag).length = tagHdrSize + tag.payload.length := by
  rw [tagBytes, List.length_append]
  rfl

theorem newReply_tight (hDest hSource : Mac) (code : UInt8) (session : UInt16) :
    (newReply hDest hSource code session).Tight :=
  ⟨rfl, fun _ member => (List.not_mem_nil member).elim, .inl rfl⟩

theorem put_tight (r : Reply) (bytes : List UInt8) (tight : r.Tight) : (r.put bytes).Tight := by
  constructor
  · change (r.plen + bytes.length) % 65536 = (r.cursor + bytes.length) % 65536
    rw [tight.counted]
    omega
  · intro w member
    change w.1 + w.2.length ≤ r.cursor + bytes.length
    rcases List.mem_append.mp member with old | new
    · have before := tight.reached w old
      omega
    · obtain rfl := List.mem_singleton.mp new
      exact Nat.le_refl _
  · exact .inr ⟨(r.cursor, bytes), List.mem_append_right _ (List.mem_singleton_self _), rfl⟩

theorem putTag_tight (r : Reply) (tag : Option PPPoETag) (tight : r.Tight) : (r.putTag tag).Tight := by
  cases tag with
  | none => exact tight
  | some tag => exact put_tight r (tagBytes tag) tight

theorem send_tight (r : Reply) (tight : r.Tight) : r.send.Tight := ⟨tight.counted, tight.reached, tight.ends⟩

theorem put_cursor (r : Reply) (bytes : List UInt8) : (r.put bytes).cursor = r.cursor + bytes.length := rfl

theorem putTag_cursor (r : Reply) (tag : Option PPPoETag) : (r.putTag tag).cursor = r.cursor + tagSize tag := by
  cases tag with
  | none => rfl
  | some tag => exact congrArg (r.cursor + ·) (tagBytes_length tag)

theorem tight_inside (r : Reply) (tight : r.Tight) :
    (∀ w ∈ r.writes, w.1 + w.2.length ≤ ethJumboLen) ↔ r.cursor ≤ ethJumboLen := by
  constructor
  · intro inside
    rcases tight.ends with zero | ⟨w, member, last⟩
    · omega
    · exact last ▸ inside w member
  · intro bound w member
    exact Nat.le_trans (tight.reached w member) bound

theorem fits_sent (r : Reply) (tight : r.Tight) : r.send.Fits ↔ r.cursor ≤ maxPppoePayload := by
  have sentTight := send_tight r tight
  have counted : r.send.plen = r.cursor % 65536 := tight.counted
  constructor
  · intro fits
    have inside : r.cursor ≤ ethJumboLen := (tight_inside r.send sentTight).mp fits.inside
    have short := fits.short rfl
    rw [counted, Nat.mod_eq_of_lt (Nat.lt_of_le_of_lt inside (by decide))] at short
    exact short
  · intro bound
    refine ⟨(tight_inside r.send sentTight).mpr (Nat.le_trans bound (by decide)), fun _ => ?_⟩
    rw [counted]
    exact Nat.le_trans (Nat.mod_le _ _) bound

theorem fits_unsent (r : Reply) (tight : r.Tight) (unsent : r.sent = false) : r.Fits ↔ r.cursor ≤ ethJumboLen := by
  rw [← tight_inside r tight]
  refine ⟨fun fits => fits.inside, fun inside => ⟨inside, fun sent => ?_⟩⟩
  rw [unsent] at sent
  cases sent

def echoed (statics : Statics) : Nat := tagSize statics.relayId + tagSize statics.hostUniq

def ErrorRoom (statics : Statics) (text : String) : Prop :=
  tagHdrSize + (textBytes text).length + echoed statics ≤ maxPppoePayload

-- The first configured name answers a request for the default service. A
-- max-payload tag that finds no room ends the reply before the echoed tags.
def DefaultRoom (cfg : Config) (statics : Statics) (ethif : Interface) : Prop :=
  let name := tagHdrSize + (cfg.serviceNames.headD []).length
  if mruFor ethif statics.maxPppPayload = 0 then name + echoed statics ≤ maxPppoePayload
  else if name + 6 > maxPppoePayload then name ≤ ethJumboLen
  else name + 6 + echoed statics ≤ maxPppoePayload

def RoomFor (cfg : Config) (s : ServerState) (ethif : Interface) (packet : PPPoEPacket) (fork : Option Nat) : Prop :=
  padrAdmitted cfg s ethif packet = true → cookieKosher cfg (padrStatics packet) ethif packet.hSource = true →
    match (padrStatics packet).requestedService with
    | none => ErrorRoom (padrStatics packet) noServiceName
    | some requested =>
        if requested.payload ≠ [] ∧ requested.payload ∉ cfg.serviceNames then
          ErrorRoom (padrStatics packet) invalidServiceName
        else if s.freeSessions = none then ErrorRoom (padrStatics packet) noClientSlots
        else if fork = none then ErrorRoom (padrStatics packet) unableToStart
        else requested.payload = [] → DefaultRoom cfg (padrStatics packet) ethif

theorem sendErrorPADS_fits (statics : Statics) (source dest : Mac) (errorTag : Nat) (text : String) :
    (sendErrorPADS statics source dest errorTag text).Fits ↔ ErrorRoom statics text := by
  unfold sendErrorPADS
  dsimp only
  rw [fits_sent _ (putTag_tight _ _ (putTag_tight _ _ (put_tight _ _ (newReply_tight _ _ _ _)))), putTag_cursor,
    putTag_cursor, put_cursor, tagBytes_length]
  unfold ErrorRoom echoed newReply
  dsimp only
  rw [Nat.zero_add, Nat.add_assoc _ (tagSize statics.relayId)]

-- What the echoed tags and the service name of one PADR can come to together.
def total (statics : Statics) : Nat :=
  echoed statics + tagSize statics.receivedCookie + tagSize statics.requestedService

theorem parsePADRTags_total (statics : Statics) (tag : PPPoETag) :
    total (parsePADRTags statics tag) ≤ total statics + (tagHdrSize + tag.payload.length) := by
  unfold parsePADRTags
  split
  · split <;> exact Nat.le_add_right _ _
  split
  · simp only [total, echoed, tagSize]
    omega
  split
  · simp only [total, echoed, tagSize]
    omega
  split
  · simp only [total, echoed, tagSize]
    omega
  split
  · simp only [total, echoed, tagSize]
    omega
  · exact Nat.le_add_right _ _

theorem parseTags_total (tags : List PPPoETag) (statics : Statics) :
    total (tags.foldl parsePADRTags statics) ≤
      total statics + (tags.map fun tag => tagHdrSize + tag.payload.length).sum := by
  induction tags generalizing statics with
  | nil => exact Nat.le_refl _
  | cons tag rest ih =>
      rw [List.foldl_cons, List.map_cons, List.sum_cons]
      have later := ih (parsePADRTags statics tag)
      have first := parsePADRTags_total statics tag
      omega

theorem tagsFrom_total (payload : List UInt8) (len fuel curTag : Nat) (inside : curTag ≤ len) :
    curTag + ((tagsFrom payload len fuel curTag).1.map fun visit => tagHdrSize + visit.2.payload.length).sum ≤ len := by
  induction fuel generalizing curTag with
  | zero => simpa [tagsFrom] using inside
  | succ fuel ih =>
      unfold tagsFrom
      split
      · dsimp only
        split
        · simpa using inside
        split
        · simpa using inside
        · have later := ih (curTag + tagHdrSize + wordAt payload (curTag + 2)) (by omega)
          have short : (bytesAt payload (curTag + tagHdrSize) (wordAt payload (curTag + 2))).length ≤
              wordAt payload (curTag + 2) := by
            unfold bytesAt
            exact List.length_take_le _ _
          rw [List.map_cons, List.sum_cons]
          dsimp only
          omega
      · simpa using inside

theorem padrStatics_total (packet : PPPoEPacket) :
    total (padrStatics packet) ≤ packet.length ∧
      ((padrStatics packet).receivedCookie ≠ none → packet.length ≤ maxPppoePayload) := by
  unfold padrStatics parseTags parsePacket
  by_cases readable : tagsReadable packet = true
  · rw [if_pos readable]
    have sum := parseTags_total ((tagsFrom packet.payload packet.length packet.length 0).1.map (·.2)) noTags
    have walked := tagsFrom_total packet.payload packet.length packet.length 0 (Nat.zero_le _)
    rw [List.map_map, show total noTags = 0 from rfl] at sum
    simp only [Function.comp_def] at sum
    refine ⟨by omega, fun _ => ?_⟩
    simp only [tagsReadable, Bool.and_eq_true, decide_eq_true_eq] at readable
    exact readable.2
  · rw [if_neg readable]
    refine ⟨Nat.zero_le _, fun cookie => absurd rfl cookie⟩

theorem mruTag_length (mru : Nat) : (tagBytes (mruTag mru)).length = 6 := rfl

theorem childPADS_fits (cfg : Config) (statics : Statics) (ethif : Interface) (dest : Mac) (sess : UInt16)
    (requested : PPPoETag) (name : Nat)
    (named : name = tagHdrSize +
      (if requested.payload = [] then cfg.serviceNames.headD [] else requested.payload).length) :
    (childPADS cfg statics ethif dest sess requested).Fits ↔
      if mruFor ethif statics.maxPppPayload = 0 then name + echoed statics ≤ maxPppoePayload
      else if name + 6 > maxPppoePayload then name ≤ ethJumboLen
      else name + 6 + echoed statics ≤ maxPppoePayload := by
  have firstLength : (tagBytes (if requested.payload = [] then ⟨requested.type, cfg.serviceNames.headD []⟩
      else requested : PPPoETag)).length = name := by
    rw [tagBytes_length, named]
    split <;> rfl
  unfold childPADS
  dsimp only
  generalize tagBytes (if requested.payload = [] then ⟨requested.type, cfg.serviceNames.headD []⟩ else requested) =
    first
    at firstLength ⊢
  have start : ((newReply dest ethif.mac codePADS sess).put first).Tight := put_tight _ _ (newReply_tight _ _ _ _)
  have cursor : ((newReply dest ethif.mac codePADS sess).put first).cursor = name := by
    rw [put_cursor, firstLength]
    exact Nat.zero_add name
  by_cases noMru : mruFor ethif statics.maxPppPayload = 0
  · rw [if_pos noMru, if_neg (fun both => both.1 noMru), if_neg (fun mru => mru noMru),
      fits_sent _ (putTag_tight _ _ (putTag_tight _ _ start)), putTag_cursor, putTag_cursor, cursor, Nat.add_assoc]
    rfl
  · rw [if_neg noMru]
    by_cases full : name + 6 > maxPppoePayload
    · have noRoom : ((newReply dest ethif.mac codePADS sess).put first).noRoom
          (tagBytes (mruTag (mruFor ethif statics.maxPppPayload))).length = true := by
        rw [Reply.noRoom, cursor, mruTag_length]
        exact decide_eq_true full
      rw [if_pos full, if_pos ⟨noMru, noRoom⟩, fits_unsent _ start rfl, cursor]
    · have room : ¬ ((newReply dest ethif.mac codePADS sess).put first).noRoom
          (tagBytes (mruTag (mruFor ethif statics.maxPppPayload))).length = true := by
        rw [Reply.noRoom, cursor, mruTag_length]
        exact fun tight => full (of_decide_eq_true tight)
      rw [if_neg full, if_neg (fun both => room both.2), if_pos noMru,
        fits_sent _ (putTag_tight _ _ (putTag_tight _ _ (put_tight _ _ start))), putTag_cursor, putTag_cursor,
          put_cursor,
        cursor, mruTag_length, Nat.add_assoc]
      rfl

theorem childPADS_named_fits (cfg : Config) (ethif : Interface) (packet : PPPoEPacket) (dest : Mac)
    (sess : UInt16) (requested : PPPoETag) (asked : (padrStatics packet).requestedService = some requested)
    (named : requested.payload ≠ []) (kosher : cookieKosher cfg (padrStatics packet) ethif packet.hSource = true) :
    (childPADS cfg (padrStatics packet) ethif dest sess requested).Fits := by
  rw [childPADS_fits cfg _ ethif dest sess requested _ rfl, if_neg named]
  obtain ⟨sum, bound⟩ := padrStatics_total packet
  cases cookie : (padrStatics packet).receivedCookie with
  | none =>
      rw [cookieKosher, cookie] at kosher
      cases kosher
  | some tag =>
      rw [cookieKosher, cookie] at kosher
      simp only [Bool.and_eq_true, beq_iff_eq, cookieLen] at kosher
      have limit := bound (by simp [cookie])
      simp only [total, asked, cookie, tagSize, kosher.1, tagHdrSize] at sum
      have room : tagHdrSize + requested.payload.length + 6 + echoed (padrStatics packet) ≤ maxPppoePayload := by
        simp only [tagHdrSize]
        omega
      split
      · omega
      · rw [if_neg (by omega)]
        exact room

-- Every PADS and error PADS a PADR leads to fits its packet exactly when the
-- text it starts with leaves room for the tags it echoes.
theorem pads_replies_fit (cfg : Config) (s : ServerState) (face : Nat) (ethif : Interface) (packet : PPPoEPacket)
    (fork : Option Nat) :
    (∀ r ∈ (processPADR cfg s face ethif packet fork).2, r.Fits) ↔ RoomFor cfg s ethif packet fork := by
  unfold processPADR RoomFor
  dsimp only
  by_cases admitted : padrAdmitted cfg s ethif packet = true
  · rw [if_neg (by simp [admitted])]
    by_cases kosher : cookieKosher cfg (padrStatics packet) ethif packet.hSource = true
    · rw [if_neg (by simp [kosher])]
      simp only [admitted, kosher, forall_const]
      cases asked : (padrStatics packet).requestedService with
      | none => simp [sendErrorPADS_fits]
      | some requested =>
          dsimp only
          by_cases unknown : requested.payload ≠ [] ∧ requested.payload ∉ cfg.serviceNames
          · rw [if_pos unknown, if_pos unknown]
            simp [sendErrorPADS_fits]
          · rw [if_neg unknown, if_neg unknown]
            cases slot : s.freeSessions with
            | none => simp [pppoeAllocSession, sendErrorPADS_fits]
            | some ses =>
                simp only [pppoeAllocSession, Option.map_some]
                cases fork with
                | none => simp [sendErrorPADS_fits]
                | some child =>
                    simp only [List.mem_singleton, forall_eq, reduceCtorEq, if_false]
                    by_cases default : requested.payload = []
                    · rw [childPADS_fits cfg _ ethif _ _ requested _ rfl, if_pos default]
                      simp only [default, forall_const]
                      rfl
                    · refine ⟨fun _ same => absurd same default, fun _ => ?_⟩
                      exact childPADS_named_fits cfg ethif packet _ _ requested asked default kosher
    · rw [if_pos (by simpa using kosher)]
      simp [kosher]
  · rw [if_pos (by simpa using admitted)]
    simp [admitted]

def plainConfig : Config where
  numSessionSlots := 2
  sessOffset := 0
  interfaces := [⟨macAddr 2 0 0 0 0 1, 1500⟩]
  maxSessionsPerMac := 0
  ignorePADIIfNoFreeSessions := false
  acName := [65]
  serviceNames := []
  cookieSeed := Vector.replicate 16 0
  pid := Vector.replicate 4 0
  md5 := fun _ => Vector.replicate 16 0

def longValue : List UInt8 := List.replicate 1474 0

def longHostUniq : PPPoEPacket where
  hDest := macAddr 2 0 0 0 0 1
  hSource := macAddr 2 0 0 0 0 7
  vertype := pppoeVerType
  code := codePADR
  session := 0
  length := 1502
  payload := tagBytes ⟨tagAcCookie, List.replicate 20 0⟩ ++ tagBytes ⟨tagHostUniq, longValue⟩

theorem longHostUniq_parsed : padrStatics longHostUniq =
    ⟨none, some ⟨tagHostUniq, longValue⟩, some ⟨tagAcCookie, List.replicate 20 0⟩, none, 0⟩ := by
  decide +kernel

theorem longValue_length : longValue.length = 1474 := List.length_replicate

theorem pads_reply_overflows : ¬ ∀ (cfg : Config) (s : ServerState) (face : Nat) (ethif : Interface)
    (packet : PPPoEPacket) (fork : Option Nat), packet.length ≤ packet.payload.length →
    ∀ r ∈ (processPADR cfg s face ethif packet fork).2, r.Fits := by
  intro claimed
  have admitted : padrAdmitted plainConfig (initServer plainConfig [0, 1])
    ⟨#v[2, 0, 0, 0, 0, 1], 1500⟩ longHostUniq = true := by
    decide +kernel
  have kosher : cookieKosher plainConfig (padrStatics longHostUniq)
    ⟨#v[2, 0, 0, 0, 0, 1], 1500⟩ longHostUniq.hSource = true := by
    rw [longHostUniq_parsed]
    decide +kernel
  have received : longHostUniq.length ≤ longHostUniq.payload.length := by
    simp only [longHostUniq, List.length_append, tagBytes_length, List.length_replicate, longValue_length]
    decide
  have text : (textBytes noServiceName).length = 37 := by decide +kernel
  have fits := claimed plainConfig (initServer plainConfig [0, 1]) 0
    ⟨#v[2, 0, 0, 0, 0, 1], 1500⟩ longHostUniq none received
  rw [pads_replies_fit, RoomFor, longHostUniq_parsed] at fits
  rw [longHostUniq_parsed] at kosher
  simp only [admitted, kosher, forall_const, ErrorRoom, echoed, tagSize, text, longValue_length] at fits
  simp only [tagHdrSize, maxPppoePayload, ethJumboLen, ethDataLen, pppoeOverhead] at fits
  omega

end ZyAgf.Pppoe.Server
