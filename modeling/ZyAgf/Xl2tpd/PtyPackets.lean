import ZyAgf.Xl2tpd.SyncToAsync

set_option autoImplicit false

namespace ZyAgf.Xl2tpd

def Decoded.packet : Decoded → Option (List UInt8)
  | .frame bytes => some bytes
  | _ => none

-- The packets for which read_packet returns more than nothing.
def packetsIn (log : List Decoded) : List (List UInt8) := log.filterMap Decoded.packet

-- The octets that pppd escapes are its own choice, within the rules.
structure Escapes (special : UInt8 → Bool) : Prop where
  flag : special pppFlag = true
  escape : special pppEscape = true
  notFlag : special (pppFlag ^^^ turnOctet) = false
  notEscape : special (pppEscape ^^^ turnOctet) = false

def pppFrame (special : UInt8 → Bool) (packet : List UInt8) : List UInt8 :=
  [pppFlag] ++ (addFcs packet).flatMap (stuff special) ++ [pppFlag]

instance (read : PtyRead) : Decidable read.Delivers :=
  match read with
  | .bytes chunk => inferInstanceAs (Decidable (chunk ≠ [] ∧ chunk.length ≤ maxRecvSize))
  | .again => .isTrue trivial
  | .failed _ => .isFalse id

section Machine

variable (maxlen : Nat)

theorem packetsIn_append (front back : List Decoded) : packetsIn (front ++ back) = packetsIn front ++ packetsIn back :=
  List.filterMap_append

theorem hdlc_go (s : UInt8 × List UInt8) (ch escape : UInt8) (buf : List UInt8) (d : Decoded)
    (taken : takeOctet maxlen s.1 s.2 ch = (.go escape buf, d)) : hdlc maxlen s ch = (some (escape, buf), [d]) := by
  rw [hdlc, taken]

theorem shortInside_go (s next : UInt8 × List UInt8) (ch : UInt8) (rest : List UInt8) (out : List Decoded)
    (stepped : hdlc maxlen s ch = (some next, out)) (longer : ch = pppFlag → s.2.length ≠ 2) :
    shortInside maxlen s (ch :: rest) = shortInside maxlen next rest := by
  have silent : (ch == pppFlag && s.1 == 0 && s.2.length == 2 && rest != []) = false := by
    by_cases flag : ch = pppFlag
    · simp [longer flag]
    · simp [flag]
  rw [shortInside, silent, stepped, Bool.false_or]

theorem shortInside_append (s next : UInt8 × List UInt8) (front back : List UInt8) (log : List Decoded)
    (fed : feed (hdlc maxlen) s front = (some next, log)) (clean : shortInside maxlen s (front ++ back) = false) :
    shortInside maxlen s front = false ∧ shortInside maxlen next back = false := by
  induction front generalizing s log with
  | nil =>
      cases fed
      exact ⟨rfl, clean⟩
  | cons ch front ih =>
      rw [List.cons_append, shortInside, Bool.or_eq_false_iff] at clean
      obtain ⟨silent, later⟩ := clean
      rw [feed] at fed
      rcases stepped : hdlc maxlen s ch with ⟨_ | middle, out⟩
      · rw [stepped] at fed
        cases fed
      · rw [stepped] at fed later
        obtain ⟨fed', _⟩ := Prod.mk.inj fed
        obtain ⟨inside, behind⟩ := ih middle (feed (hdlc maxlen) middle front).2 (Prod.ext fed' rfl) later
        refine ⟨?_, behind⟩
        rw [shortInside, stepped, Bool.or_eq_false_iff]
        refine ⟨?_, inside⟩
        by_cases nothing : front = []
        · simp [nothing]
        · have more : (front ++ back != []) = true := by simp [nothing]
          rw [more, Bool.and_true] at silent
          rw [silent, Bool.false_and]

-- The machine gets from one state to another through some bytes, with these
-- packets and no short frame on the way.
def Takes (s next : UInt8 × List UInt8) (bytes : List UInt8) (packets : List (List UInt8)) : Prop :=
  ∃ log, feed (hdlc maxlen) s bytes = (some next, log) ∧ packetsIn log = packets ∧
    ∀ rest, shortInside maxlen s (bytes ++ rest) = shortInside maxlen next rest

theorem takes_nil (s : UInt8 × List UInt8) : Takes maxlen s s [] [] := ⟨[], rfl, rfl, fun _ => rfl⟩

theorem takes_append (s middle next : UInt8 × List UInt8) (front back : List UInt8)
    (packets packets' : List (List UInt8))
    (first : Takes maxlen s middle front packets) (second : Takes maxlen middle next back packets') :
    Takes maxlen s next (front ++ back) (packets ++ packets') := by
  obtain ⟨log, fed, found, short⟩ := first
  obtain ⟨log', fed', found', short'⟩ := second
  refine ⟨log ++ log', ?_, ?_, fun rest => ?_⟩
  · rw [feed_append, fed]
    simp only [resume]
    rw [fed']
  · rw [packetsIn_append, found, found']
  · rw [List.append_assoc, short, short']

theorem takes_one (s next : UInt8 × List UInt8) (ch : UInt8) (d : Decoded)
    (stepped : hdlc maxlen s ch = (some next, [d]))
    (longer : ch = pppFlag → s.2.length ≠ 2) : Takes maxlen s next [ch] (packetsIn [d]) := by
  refine ⟨[d], ?_, rfl, fun rest => shortInside_go maxlen s next ch rest [d] stepped longer⟩
  rw [feed, stepped]
  rfl

section Frames

variable (special : UInt8 → Bool) (escapes : Escapes special)

include escapes

theorem takes_octet (buf : List UInt8) (c : UInt8) (room : buf.length < maxlen) :
    Takes maxlen (0, buf) (0, buf ++ [c]) (stuff special c) [] := by
  by_cases marked : special c = true
  · have turned : c ^^^ turnOctet ^^^ pppTrans = c := turn_turn c
    have not_flag : c ^^^ turnOctet ≠ pppFlag := turned_ne special pppFlag c escapes.notFlag marked
    have not_escape : c ^^^ turnOctet ≠ pppEscape := turned_ne special pppEscape c escapes.notEscape marked
    have second := takeOctet_plain maxlen pppTrans buf (c ^^^ turnOctet) not_flag not_escape room
    rw [turned] at second
    rw [stuff, if_pos marked]
    have first := takes_one maxlen (0, buf) (pppTrans, buf) pppEscape .escape
      (hdlc_go maxlen (0, buf) pppEscape pppTrans buf .escape (takeOctet_escape maxlen 0 buf))
        (fun flag => absurd flag (by decide))
    exact takes_append maxlen (0, buf) (pppTrans, buf) (0, buf ++ [c]) [pppEscape] [c ^^^ turnOctet] [] [] first
      (takes_one maxlen (pppTrans, buf) (0, buf ++ [c]) (c ^^^ turnOctet) (.octet c)
        (hdlc_go maxlen (pppTrans, buf) _ 0 (buf ++ [c]) (.octet c) second) (fun flag => absurd flag not_flag))
  · have not_flag : c ≠ pppFlag := fun same => marked (same ▸ escapes.flag)
    have not_escape : c ≠ pppEscape := fun same => marked (same ▸ escapes.escape)
    have plain := takeOctet_plain maxlen 0 buf c not_flag not_escape room
    rw [UInt8.xor_zero] at plain
    rw [stuff, if_neg marked]
    exact takes_one maxlen (0, buf) (0, buf ++ [c]) c (.octet c)
      (hdlc_go maxlen (0, buf) c 0 (buf ++ [c]) (.octet c) plain)
      (fun flag => absurd flag not_flag)

theorem takes_octets (data buf : List UInt8) (room : buf.length + data.length ≤ maxlen) :
    Takes maxlen (0, buf) (0, buf ++ data) (data.flatMap (stuff special)) [] := by
  induction data generalizing buf with
  | nil =>
      rw [List.append_nil]
      exact takes_nil maxlen (0, buf)
  | cons c data ih =>
      simp only [List.length_cons] at room
      have first := takes_octet maxlen special escapes buf c (by omega)
      have later := ih (buf ++ [c]) (by simp; omega)
      rw [List.append_assoc, List.singleton_append] at later
      rw [List.flatMap_cons]
      exact takes_append maxlen _ _ _ _ _ [] [] first later

theorem takes_frame (packet : List UInt8) (some' : packet ≠ []) (room : packet.length + 2 ≤ maxlen) :
    Takes maxlen (0, []) (0, []) (pppFrame special packet) [packet] := by
  have length := addFcs_length packet
  have opening := takes_one maxlen (0, []) (0, []) pppFlag .flag (hdlc_go maxlen (0, []) pppFlag 0 [] .flag rfl)
    (fun _ => by decide)
  have octets := takes_octets maxlen special escapes (addFcs packet) [] (by simp [length]; omega)
  have whole : (addFcs packet).take ((addFcs packet).length - 2) = packet := by
    rw [length]
    simp [addFcs]
  have closes : hdlc maxlen (0, addFcs packet) pppFlag = (some (0, []), [.frame packet]) := by
    have taken : takeOctet maxlen 0 (addFcs packet) pppFlag = (.back packet.length packet, .frame packet) := by
      rw [takeOctet, if_pos rfl, if_neg (by simp), if_pos (by omega)]
      simp only [whole, if_neg some']
    rw [hdlc, taken]
  have closing := takes_one maxlen (0, addFcs packet) (0, []) pppFlag (.frame packet) closes (fun _ => by
    have := List.length_pos_of_ne_nil some'
    dsimp only
    omega)
  exact takes_append maxlen _ _ _ _ _ [] [packet] (takes_append maxlen _ _ _ _ _ [] [] opening octets) closing

theorem takes_frames (packets : List (List UInt8))
    (fit : ∀ packet ∈ packets, packet ≠ [] ∧ packet.length + 2 ≤ maxlen) :
    Takes maxlen (0, []) (0, []) (packets.flatMap (pppFrame special)) packets := by
  induction packets with
  | nil => exact takes_nil maxlen (0, [])
  | cons packet later ih =>
      have first := takes_frame maxlen special escapes packet (fit packet List.mem_cons_self).1
        (fit packet List.mem_cons_self).2
      exact takes_append maxlen _ _ _ _ _ [packet] later first
        (ih fun other member => fit other (List.mem_cons_of_mem _ member))

end Frames

theorem takes_prefix (stream front : List UInt8) (packets : List (List UInt8))
    (takes : Takes maxlen (0, []) (0, []) stream packets)
    (part : front <+: stream) : ∃ next log, feed (hdlc maxlen) (0, []) front = (some next, log) ∧
    packetsIn log <+: packets ∧
      shortInside maxlen (0, []) front = false ∧ (front = stream → packetsIn log = packets) := by
  obtain ⟨log, fed, found, short⟩ := takes
  obtain ⟨back, rfl⟩ := part
  have clean : shortInside maxlen (0, []) (front ++ back) = false := by
    have none' := short []
    rw [List.append_nil] at none'
    exact none'
  have split := fed
  rw [feed_append] at split
  rcases first : feed (hdlc maxlen) (0, []) front with ⟨_ | next, log'⟩
  · rw [first] at split
    cases split
  · rw [first] at split
    have joined : log' ++ (feed (hdlc maxlen) next back).2 = log := congrArg Prod.snd split
    refine ⟨next, log', rfl, ⟨packetsIn (feed (hdlc maxlen) next back).2, ?_⟩,
      (shortInside_append maxlen (0, []) next front back log' first clean).1, fun whole => ?_⟩
    · rw [← packetsIn_append, joined, found]
    · rw [← whole, first] at fed
      rw [← found, (Prod.mk.inj fed).2]

theorem takeOctet_plain_escape (escape escape' : UInt8) (buf buf' : List UInt8) (ch : UInt8) (d : Decoded)
    (taken : takeOctet maxlen escape buf ch = (.go escape' buf', d)) (plain : ch ≠ pppEscape) : escape' = 0 := by
  unfold takeOctet at taken
  split at taken
  · split at taken
    · cases taken
    next quiet =>
    split at taken
    · cases taken
    split at taken
    · cases taken
    · cases taken
      exact Decidable.byContradiction quiet
  · split at taken
    · cases taken
      rfl
    · cases taken

theorem hdlc_plain (s next : UInt8 × List UInt8) (ch : UInt8) (out : List Decoded)
    (stepped : hdlc maxlen s ch = (some next, out))
    (plain : ch ≠ pppEscape) : next.1 = 0 := by
  rw [hdlc] at stepped
  rcases taken : takeOctet maxlen s.1 s.2 ch with ⟨⟨escape, buf⟩ | ⟨result, left⟩ | error, d⟩
  · rw [taken] at stepped
    cases stepped
    exact takeOctet_plain_escape maxlen s.1 escape s.2 buf ch d taken plain
  · rw [taken] at stepped
    cases stepped
    rfl
  · rw [taken] at stepped
    cases stepped

theorem feed_plain (s next : UInt8 × List UInt8) (bytes : List UInt8) (log : List Decoded) (start : s.1 = 0)
    (fed : feed (hdlc maxlen) s bytes = (some next, log)) (last : bytes.getLast? ≠ some pppEscape) : next.1 = 0 := by
  rcases List.eq_nil_or_concat' bytes with rfl | ⟨front, ch, rfl⟩
  · cases fed
    exact start
  · rw [feed_append] at fed
    rcases first : feed (hdlc maxlen) s front with ⟨_ | middle, log'⟩
    · rw [first] at fed
      cases fed
    · rw [first] at fed
      rcases stepped : hdlc maxlen middle ch with ⟨_ | next', out⟩
      · simp only [resume, feed, stepped] at fed
        cases fed
      · simp only [resume, feed, stepped] at fed
        obtain ⟨same, _⟩ := Prod.mk.inj fed
        obtain rfl := Option.some.inj same
        exact hdlc_plain maxlen middle next' ch out stepped (fun escape => last (by simp [escape]))

theorem flow_takes (s next : UInt8 × List UInt8) (rbuf : List UInt8) (reads : List PtyRead) (log : List Decoded)
    (delivers : ∀ read ∈ reads, read.Delivers) (fed : feed (hdlc maxlen) s (rbuf ++ streamOf reads) = (some next, log))
    (clean : shortInside maxlen s (rbuf ++ streamOf reads) = false) (all : (flow maxlen s rbuf reads).reads = []) :
    flow maxlen s rbuf reads = ⟨log, 0, ⟨[], next.2⟩, []⟩ := by
  induction reads generalizing s rbuf log with
  | nil =>
      rw [streamOf, List.append_nil] at fed clean
      have accounts := eat_accounts maxlen s rbuf
      rw [flow]
      rcases ate : eat maxlen s rbuf with ⟨log', next' | ⟨_ | ⟨c, rest⟩⟩ | ⟨error, buf⟩⟩ <;> rw [ate] at accounts
      · obtain ⟨fed', _⟩ := accounts
        cases fed.symm.trans fed'
        rfl
      · obtain ⟨fed', _⟩ := accounts
        cases fed.symm.trans fed'
        rfl
      · have short : shortInside maxlen s rbuf = true := accounts
        rw [short] at clean
        cases clean
      · obtain ⟨fed', _⟩ := accounts
        cases fed.symm.trans fed'
  | cons read reads ih =>
      have accounts := eat_accounts maxlen s rbuf
      rw [flow] at all ⊢
      rw [feed_append] at fed
      rcases ate : eat maxlen s rbuf with ⟨log', next' | rest | ⟨error, buf⟩⟩
      · rw [ate] at accounts all
        obtain ⟨fed', _⟩ := accounts
        have clean' := (shortInside_append maxlen s next' rbuf (streamOf (read :: reads)) log' fed' clean).2
        rw [fed'] at fed
        cases read with
        | bytes chunk =>
            rcases later : feed (hdlc maxlen) next' (chunk ++ streamOf reads) with ⟨found, log''⟩
            have fed'' : (found, log' ++ log'') = (some next, log) := by
              rw [← fed]
              simp only [resume, streamOf, later]
            obtain ⟨rfl, rfl⟩ := Prod.mk.inj fed''
            dsimp only at all ⊢
            rw [ih next' chunk log'' (fun other member => delivers other (List.mem_cons_of_mem _ member)) later clean'
              all]
            rfl
        | again =>
            obtain rfl : reads = [] := all
            simp only [resume, streamOf, feed, List.append_nil] at fed
            obtain ⟨same, rfl⟩ := Prod.mk.inj fed
            obtain rfl := Option.some.inj same
            rfl
        | failed errno => exact (delivers (.failed errno) List.mem_cons_self).elim
      · rw [ate] at all
        cases all
      · rw [ate] at all
        cases all

end Machine

end ZyAgf.Xl2tpd
