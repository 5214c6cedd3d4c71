import ZyAgf.Pppoe.ClientSession
import ZyAgf.Pppoe.Tags

set_option autoImplicit false

namespace ZyAgf.Pppoe.Client

-- What a PADR owes the PADO it answers: its last tag of the type, if it has one.
def owed (type : Nat) (pado : Option PPPoEPacket) : Option PPPoETag :=
  pado.bind fun packet => heldTag type none (tagsOf packet)

def carried (type : Nat) (frame : PPPoEPacket) : List PPPoETag := (tagsOf frame).filter fun tag => tag.type == type

def PadrEchoes (cfg : Config) (w : Watch) (event : Event) : Prop :=
  ∀ next frame, watch cfg w event = some next → .padr (some frame) ∈ sends cfg w.client event →
    carried tagAcCookie frame = (owed tagAcCookie next.pado).toList ∧
      carried tagRelaySessionId frame = (owed tagRelaySessionId next.pado).toList

-- A stored tag outlives the packet it came from: the PADO that is answered does
-- not overwrite it, an erroneous PADS put it there, or no PADO is answered.
def LeavesTrace (cfg : Config) (client : Process) (event : Event) : Prop :=
  match client.place, event with
  | .waitForPADO _, .receive packet size => lengthOk packet size = true ∧ Acceptable cfg packet ∧
      ((client.conn.cookie ≠ none ∧ heldTag tagAcCookie none (tagsOf packet) = none) ∨
        (client.conn.relayId ≠ none ∧ heldTag tagRelaySessionId none (tagsOf packet) = none))
  | .waitForPADO _, .timeOut =>
      givesUpPADO cfg client event = true ∧ (client.conn.cookie ≠ none ∨ client.conn.relayId ≠ none)
  | .waitForPADS _, .receive packet size => lengthOk packet size = true ∧ FromPeer cfg client.conn packet ∧
      (∃ tag ∈ tagsOf packet, errorTag tag.type = true) ∧
      heldTag tagRelaySessionId client.conn.relayId (tagsOf packet) ≠ client.conn.relayId
  | _, _ => False

theorem putTag_fold (tags : List PPPoETag) (payload built : List UInt8)
    (put : tags.foldlM putTag payload = some built) :
    built = payload ++ tags.flatMap tagBytes ∧ (tags ≠ [] → built.length ≤ maxPppoePayload) := by
  induction tags generalizing payload with
  | nil =>
      obtain rfl := Option.some.inj put
      simp
  | cons tag tags ih =>
      rw [List.foldlM_cons] at put
      obtain ⟨between, first, rest⟩ := Option.bind_eq_some_iff.mp put
      obtain ⟨whole, bounded⟩ := ih between rest
      unfold putTag at first
      split at first
      next => cases first
      next room =>
        obtain rfl := Option.some.inj first
        refine ⟨by simpa using whole, fun _ => ?_⟩
        by_cases last : tags = []
        · rw [whole, last]
          simp only [List.length_append, tagBytes_length, List.flatMap_nil, List.length_nil]
          omega
        · exact bounded last

theorem buildFrame_tags (dest source : Mac) (code : UInt8) (tags : List PPPoETag) (frame : PPPoEPacket)
    (built : buildFrame dest source code tags = some frame) (some_ : tags ≠ [])
    (types : ∀ tag ∈ tags, tag.type < 2 ^ 16 ∧ tag.type ≠ tagEndOfList) : tagsOf frame = tags := by
  obtain ⟨payload, put, rfl⟩ := Option.map_eq_some_iff.mp built
  obtain ⟨whole, bounded⟩ := putTag_fold tags [] payload put
  have short := bounded some_
  rw [List.nil_append] at whole
  have inside : ∀ tag ∈ tags, (tagBytes tag).length ≤ payload.length := by
    intro tag member
    rw [whole]
    exact tagBytes_member tags tag member
  have encodable : ∀ tag ∈ tags, Encodable tag ∧ tag.type ≠ tagEndOfList := by
    intro tag member
    obtain ⟨typed, notEnd⟩ := types tag member
    have bound := inside tag member
    rw [tagBytes_length] at bound
    refine ⟨⟨typed, ?_⟩, notEnd⟩
    unfold maxPppoePayload ethJumboLen ethDataLen pppoeOverhead at short
    omega
  have enough : tags.length ≤ payload.length := by
    rw [whole]
    exact tagBytes_count tags
  have walked := tagsFrom_encoded tags [] payload.length enough encodable
  rw [List.nil_append, ← whole, List.length_nil, Nat.zero_add] at walked
  have readable : tagsReadable ⟨dest, source, pppoeVerType, code, 0, payload.length, payload⟩ = true := by
    simpa [tagsReadable, pppoeVer, pppoeType, pppoeVerType] using short
  simp only [tagsOf, parsePacket, readable, if_true]
  exact walked

theorem toList_filter (type : Nat) (stored : Option PPPoETag) (own : Nat)
    (typed : ∀ tag, stored = some tag → tag.type = own) :
    stored.toList.filter (fun tag => tag.type == type) = if own = type then stored.toList else [] := by
  cases stored with
  | none => simp
  | some tag =>
      have same := typed tag rfl
      by_cases here : own = type <;> simp [same, here]

theorem padr_carried (cfg : Config) (conn : Connection) (frame : PPPoEPacket) (typed : Typed conn)
    (built : sendPADR cfg conn = .padr (some frame)) :
    carried tagAcCookie frame = conn.cookie.toList ∧ carried tagRelaySessionId frame = conn.relayId.toList := by
  have read : tagsOf frame = padrTags cfg conn := by
    refine buildFrame_tags _ _ _ _ frame (Sending.padr.inj built) (by simp [padrTags]) ?_
    intro tag member
    simp only [padrTags, uniqTag, List.mem_append, List.mem_singleton, List.mem_map, Option.mem_toList] at member
    rcases member with ((rfl | ⟨uniq, _, rfl⟩) | stored) | stored
    · exact (by decide : tagServiceName < 2 ^ 16 ∧ tagServiceName ≠ tagEndOfList)
    · exact (by decide : tagHostUniq < 2 ^ 16 ∧ tagHostUniq ≠ tagEndOfList)
    · rw [typed.1 tag stored]
      exact ⟨by decide, by decide⟩
    · rw [typed.2 tag stored]
      exact ⟨by decide, by decide⟩
  have uniq : ∀ type, type ≠ tagHostUniq → (uniqTag cfg).filter (fun tag => tag.type == type) = [] := by
    intro type other
    simp [uniqTag, Ne.symm other]
  constructor
  · rw [carried, read, padrTags, List.filter_append, List.filter_append, List.filter_append,
      uniq tagAcCookie (by decide), toList_filter _ _ _ typed.1, toList_filter _ _ _ typed.2]
    simp [tagServiceName, tagAcCookie, tagRelaySessionId]
  · rw [carried, read, padrTags, List.filter_append, List.filter_append, List.filter_append,
      uniq tagRelaySessionId (by decide), toList_filter _ _ _ typed.1, toList_filter _ _ _ typed.2]
    simp [tagServiceName, tagAcCookie, tagRelaySessionId]

-- While the client waits for a PADS it stores exactly what it owes.
def Echoing (w : Watch) : Prop :=
  match w.client.place with
  | .waitForPADO _ => Typed w.client.conn
  | .waitForPADS _ => Typed w.client.conn ∧
      w.client.conn.cookie = owed tagAcCookie w.pado ∧ w.client.conn.relayId = owed tagRelaySessionId w.pado
  | _ => True

theorem heldTag_clean (type : Nat) (stored : Option PPPoETag) (tags : List PPPoETag)
    (clean : ¬ (stored ≠ none ∧ heldTag type none tags = none)) : heldTag type stored tags = heldTag type none
    tags := by
  rw [heldTag_or]
  cases held : heldTag type none tags with
  | none =>
      have empty : stored = none := by
        by_contra full
        exact clean ⟨full, held⟩
      rw [empty]
      rfl
  | some tag => rfl

theorem padrRound_echoes (cfg : Config) (client : Process) (attempts : Nat) (pado : Option PPPoEPacket)
    (typed : Typed client.conn) (cookie : client.conn.cookie = owed tagAcCookie pado)
    (relayId : client.conn.relayId = owed tagRelaySessionId pado) (frame : PPPoEPacket)
    (sent : .padr (some frame) ∈ (padrRound cfg client attempts).2) :
    carried tagAcCookie frame = (owed tagAcCookie pado).toList ∧
      carried tagRelaySessionId frame = (owed tagRelaySessionId pado).toList := by
  rw [← cookie, ← relayId]
  exact padr_carried cfg client.conn frame typed (List.mem_singleton.mp sent).symm

theorem echoing_turn (cfg : Config) (w next : Watch) (event : Event) (out : List Sending)
    (turn : Turn cfg w.client event next.client out) (seen : next = observed w event next.client)
    (echoing : Echoing w) (clean : ¬ LeavesTrace cfg w.client event) :
    Echoing next ∧ ∀ frame, .padr (some frame) ∈ out →
      carried tagAcCookie frame = (owed tagAcCookie next.pado).toList ∧
        carried tagRelaySessionId frame = (owed tagRelaySessionId next.pado).toList := by
  obtain ⟨client, pado, pads⟩ := next
  unfold Echoing at echoing
  dsimp only at turn seen ⊢
  cases turn with
  | searching attempts packet size conn waiting state stored =>
      simp only [waiting] at echoing
      refine ⟨?_, fun frame sent => absurd sent List.not_mem_nil⟩
      simp only [Echoing, waiting]
      exact stored echoing
  | dropped attempts packet size waiting =>
      simp only [observed, waiting, Watch.mk.injEq, true_and] at seen
      obtain ⟨rfl, rfl⟩ := seen
      exact ⟨echoing, fun frame sent => absurd sent List.not_mem_nil⟩
  | rejected attempts packet size waiting sized sent bad =>
      simp only [observed, waiting, Watch.mk.injEq, true_and] at seen
      obtain ⟨rfl, rfl⟩ := seen
      simp only [waiting] at echoing
      have same : heldTag tagRelaySessionId w.client.conn.relayId (tagsOf packet) = w.client.conn.relayId := by
        by_contra other
        apply clean
        simp only [LeavesTrace, waiting]
        exact ⟨sized, sent, bad, other⟩
      refine ⟨?_, fun frame sent => absurd sent List.not_mem_nil⟩
      simp only [Echoing, waiting, same]
      exact echoing
  | leaves _ _ gone =>
      refine ⟨?_, fun frame sent => absurd sent List.not_mem_nil⟩
      simp only [Echoing, gone]
  | restarts _ from_ attempts source cause stored =>
      refine ⟨?_, fun frame sent => absurd sent (padiRound_no_padr cfg from_ attempts _)⟩
      obtain ⟨attempts, waiting⟩ | ⟨attempts, waiting⟩ := source
      · simp only [waiting] at echoing
        exact stored echoing
      · simp only [waiting] at echoing
        exact stored echoing.1
  | answers attempts packet size conn waiting sized acceptable peer stored =>
      simp only [observed, waiting, padrRound, heard, Watch.mk.injEq, true_and] at seen
      obtain ⟨rfl, rfl⟩ := seen
      simp only [LeavesTrace, waiting, not_and, not_or] at clean
      simp only [waiting] at echoing
      obtain ⟨cookieClean, relayClean⟩ := clean sized acceptable
      have typed := overwritten_typed _ _ _ stored echoing
      have cookie : conn.cookie = owed tagAcCookie (some packet) :=
        stored.1.trans (heldTag_clean _ _ _ fun trace => cookieClean trace.1 trace.2)
      have relayId : conn.relayId = owed tagRelaySessionId (some packet) :=
        stored.2.trans (heldTag_clean _ _ _ fun trace => relayClean trace.1 trace.2)
      exact ⟨⟨typed, cookie, relayId⟩,
        padrRound_echoes cfg { w.client with conn := conn } 1 (some packet) typed cookie relayId⟩
  | answersNothing attempts _ waiting gave =>
      have unheard : heard event = none ∧ w.client.conn.cookie = none ∧ w.client.conn.relayId = none := by
        cases event with
        | receive packet size => simp [givesUpPADO, waiting] at gave
        | timeOut =>
            simp only [LeavesTrace, waiting, gave, true_and, not_or, not_not] at clean
            exact ⟨rfl, clean⟩
      simp only [observed, waiting, padrRound, unheard.1, Watch.mk.injEq, true_and] at seen
      obtain ⟨rfl, rfl⟩ := seen
      simp only [waiting] at echoing
      obtain ⟨_, cookie, relayId⟩ := unheard
      exact ⟨⟨echoing, cookie, relayId⟩, padrRound_echoes cfg w.client 1 none echoing cookie relayId⟩
  | repeats attempts waiting =>
      simp only [observed, waiting, padrRound, Watch.mk.injEq, true_and] at seen
      obtain ⟨rfl, rfl⟩ := seen
      simp only [waiting] at echoing
      obtain ⟨typed, cookie, relayId⟩ := echoing
      exact ⟨⟨typed, cookie, relayId⟩,
        padrRound_echoes cfg w.client (attempts + 1) w.pado typed cookie relayId⟩
  | opens => exact ⟨trivial, fun frame sent => absurd sent List.not_mem_nil⟩
  | opensUnanswered => exact ⟨trivial, fun frame sent => absurd sent List.not_mem_nil⟩

theorem main_echoing (cfg : Config) : Echoing (watchMain cfg) := by
  by_cases discovers : cfg.skipDiscovery = false
  · have typed : Typed (watchMain cfg).client.conn := by
      unfold watchMain main
      rw [if_neg (by simp [discovers])]
      exact ⟨fun _ absent => (nomatch absent), fun _ absent => (nomatch absent)⟩
    simp only [Echoing, main_waits cfg discovers]
    exact typed
  · unfold watchMain main
    rw [if_pos (by simpa using discovers)]
    split
    · trivial
    · split
      · trivial
      next single =>
        unfold afterDiscovery
        rw [if_neg (by simpa using single)]
        split <;> trivial

-- Every PADR of a run carries the cookie and the relay id of the PADO it answers,
-- and of no other packet, as long as no stored tag outlives its packet.
theorem padr_echoes_pado (cfg : Config) {visits : List (Watch × Event)} {finish : Watch}
    (run : Run (watch cfg) (watchMain cfg) visits finish)
    (clean : Run.Meets (fun w event => ¬ LeavesTrace cfg w.client event) visits) :
    Run.Meets (PadrEchoes cfg) visits := by
  refine Run.each_step _ (fun w => Echoing w ∧ Phased w.client) ⟨main_echoing cfg, main_phased cfg⟩ ?_
    (PadrEchoes cfg) ?_
    run clean
  · rintro w event next ⟨echoing, phased⟩ tidy moved
    obtain ⟨turn, seen⟩ := watch_turn cfg w next event phased moved
    exact ⟨(echoing_turn cfg w next event _ turn seen echoing tidy).1, turn_phased cfg _ _ event _ turn phased⟩
  · rintro w event ⟨echoing, phased⟩ tidy next frame moved sent
    obtain ⟨turn, seen⟩ := watch_turn cfg w next event phased moved
    exact (echoing_turn cfg w next event _ turn seen echoing tidy).2 frame sent

def cookieTag : PPPoETag := ⟨tagAcCookie, [7, 7]⟩

theorem padr_echoes_pado_offered : Run.Meets (PadrEchoes anyService)
    [(watchMain anyService, .receive (padoFrame [cookieTag]) none)] := by
  have answers : watch anyService (watchMain anyService) (.receive (padoFrame [cookieTag]) none) =
      some ⟨⟨{ (answered (some (padoFrame [cookieTag])) acMac 1).client.conn with cookie := some cookieTag },
        .waitForPADS 1, 0⟩, some (padoFrame [cookieTag]), none⟩ := by
    decide +kernel
  refine padr_echoes_pado anyService (Run.start.snoc _ _ _ _ answers) ?_
  refine (Run.meets_snoc _ [] _ _).mpr ⟨Run.meets_nil _, ?_⟩
  rintro ⟨_, _, ⟨stored, _⟩ | ⟨stored, _⟩⟩
  · exact stored rfl
  · exact stored rfl

-- A PADO without an AC-Name tag is refused and leaves its cookie behind; the next
-- PADO has none, and the PADR that answers it carries the first one's.
theorem padr_echoes_refused : ¬ ∀ (cfg : Config) (visits : List (Watch × Event)) (finish : Watch),
    Run (watch cfg) (watchMain cfg) visits finish → Run.Meets (PadrEchoes cfg) visits := by
  intro claimed
  let refused : PPPoEPacket := fromAC codePADO 0 [⟨tagServiceName, []⟩, cookieTag]
  let held : Watch := { searching 1 with client := { (searching 1).client with conn :=
    { (searching 1).client.conn with cookie := some cookieTag } } }
  let after : Watch := { answered (some (padoFrame [])) acMac 1 with client :=
    { (answered (some (padoFrame [])) acMac 1).client with conn :=
      { (answered (some (padoFrame [])) acMac 1).client.conn with cookie := some cookieTag } } }
  have first : watch anyService (watchMain anyService) (.receive refused none) = some held := by decide +kernel
  have second : watch anyService held (.receive (padoFrame []) none) = some after := by decide +kernel
  have echoes := claimed anyService _ _ ((Run.start.snoc _ _ _ _ first).snoc _ _ _ _ second)
    (held, .receive (padoFrame []) none) (by simp)
  obtain ⟨frame, built⟩ := Option.isSome_iff_exists.mp
    (show (buildFrame acMac anyService.myEth codePADR (padrTags anyService held.client.conn)).isSome =
    true by decide +kernel)
  have sent : Sending.padr (some frame) ∈ sends anyService held.client (.receive (padoFrame []) none) := by
    rw [← built]
    decide +kernel
  have carries : (buildFrame acMac anyService.myEth codePADR (padrTags anyService held.client.conn)).map
    (carried tagAcCookie) =
      some [cookieTag] := by
    decide +kernel
  rw [built] at carries
  have nothing := (echoes after frame second sent).1
  rw [Option.some.inj carries] at nothing
  revert nothing
  decide +kernel

end ZyAgf.Pppoe.Client
