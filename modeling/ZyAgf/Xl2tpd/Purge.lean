import ZyAgf.Xl2tpd.Scheduler

set_option autoImplicit false

namespace ZyAgf.Xl2tpd.Purge

-- What malloc hands out, each record with the fields that count for the queue. A
-- tunnel's self entry is kept with the tunnel.
structure TunnelBlock where
  tid : BitVec 32
  refme : BitVec 32
  controlSeqNum : U16
  cLr : U16
  needclose : Bool
  closing : Bool
  selfLac : Option Nat
  calls : List Nat
  lac : Option Nat
deriving DecidableEq, Repr

structure BufferBlock where
  ns : U16
  retries : Int
  tunnel : Nat
deriving DecidableEq, Repr

structure LacBlock where
  authname : CString
  redial : Bool
  rtimeout : Int
  rsched : Bool
  active : Bool
deriving DecidableEq, Repr

structure CallBlock where
  ourcid : BitVec 32
  cid : BitVec 32
  container : Nat
  closing : Bool
  lac : Option Nat
deriving DecidableEq, Repr

inductive Block where
  | tunnel (tun : TunnelBlock)
  | buffer (buf : BufferBlock)
  | lac (lac : LacBlock)
  | call (cal : CallBlock)
  | free (residue : Nat)
deriving DecidableEq, Repr

def Block.tunnel? : Block → Option TunnelBlock
  | .tunnel tun => some tun
  | _ => none

def Block.buffer? : Block → Option BufferBlock
  | .buffer buf => some buf
  | _ => none

def Block.lac? : Block → Option LacBlock
  | .lac entry => some entry
  | _ => none

def Block.call? : Block → Option CallBlock
  | .call cal => some cal
  | _ => none

-- ((struct buffer *) data)->tunnel: the eight bytes that begin sixty-four bytes
-- into the record, whatever it is. A tunnel has its tid and its refme there, a
-- call its ourcid and its cid, and a LAC entry the start of its authname.
def Block.word : Block → Nat
  | .tunnel tun => tun.tid.toNat + 2 ^ 32 * tun.refme.toNat
  | .buffer buf => buf.tunnel
  | .lac entry => (entry.authname.take 8).foldr (fun byte later => byte.toNat + 256 * later) 0
  | .call cal => cal.ourcid.toNat + 2 ^ 32 * cal.cid.toNat
  | .free residue => residue

-- An event: the function and the record it is called on.
inductive Task where
  | hello (t : Nat)
  | controlXmit (buf : Nat)
  | magicLacDial (lac : Nat)
  | sendZlb (c : Nat)
deriving DecidableEq, Repr

def Task.data : Task → Nat
  | .hello t => t
  | .controlXmit buf => buf
  | .magicLacDial lac => lac
  | .sendZlb c => c

def Task.buffer? : Task → Option Nat
  | .controlXmit buf => some buf
  | _ => none

-- The walk of call_close over the queue: the entries it leaves, and the buffers
-- it tosses on its way.
def purge (word : Nat → Nat) (t : Nat) : List (Queued Task) → List (Queued Task) × List Nat
  | [] => ([], [])
  | se :: rest =>
      let (kept, tossed) := purge word t rest
      if word se.func.data = t ∨ se.func.data = t then
        (kept, if se.func.data ≠ t then se.func.data :: tossed else tossed)
      else (se :: kept, tossed)

-- The events of a tunnel, by what they are and not by what their data look like.
def Task.isFor (block : Nat → Block) (t : Nat) : Task → Bool
  | .hello owner => owner == t
  | .controlXmit b => (block b).buffer?.any fun buf => buf.tunnel == t
  | _ => false

def Task.Fits (block : Nat → Block) : Task → Prop
  | .hello t => (block t).tunnel?.isSome = true
  | .controlXmit b => (block b).buffer?.isSome = true
  | .magicLacDial l => (block l).lac?.isSome = true
  | .sendZlb c => (block c).call?.isSome = true

-- A queue whose events carry what their functions take, no buffer twice.
structure Queue (block : Nat → Block) where
  entries : List (Queued Task)
  fits : ∀ e ∈ entries, e.func.Fits block
  once : (entries.filterMap fun e => e.func.buffer?).Nodup

-- Exactly the events of the tunnel go, and each buffer among them is freed once.
structure PurgeExact (block : Nat → Block) (t : Nat) (entries : List (Queued Task)) : Prop where
  kept : (purge (fun p => (block p).word) t entries).1 = entries.filter fun e => !e.func.isFor block t
  tossed : (purge (fun p => (block p).word) t entries).2 =
    (entries.filter fun e => e.func.isFor block t).filterMap fun e => e.func.buffer?
  once : (purge (fun p => (block p).word) t entries).2.Nodup

-- No event but the retransmissions and the tunnel's own Hello carries a record
-- in which the tunnel's address stands where a buffer has its tunnel.
def NoStray (block : Nat → Block) (t : Nat) (entries : List (Queued Task)) : Prop :=
  ∀ e ∈ entries, e.func.buffer? = none → e.func.data ≠ t → (block e.func.data).word ≠ t

instance (block : Nat → Block) (t : Nat) (entries : List (Queued Task)) : Decidable (NoStray block t entries) :=
  inferInstanceAs (Decidable (∀ e ∈ entries, _ → _ → _))

section Walk

variable (word : Nat → Nat) (t : Nat)

def Matched (e : Queued Task) : Prop := word e.func.data = t ∨ e.func.data = t

instance (e : Queued Task) : Decidable (Matched word t e) := inferInstanceAs (Decidable (_ ∨ _))

theorem purge_kept (entries : List (Queued Task)) :
    (purge word t entries).1 = entries.filter fun e => ¬ Matched word t e := by
  induction entries with
  | nil => rfl
  | cons se rest ih =>
      rw [purge]
      by_cases matched : Matched word t se
      · rw [List.filter_cons_of_neg (by simpa using matched), ← ih]
        unfold Matched at matched
        simp only [matched, if_true]
      · rw [List.filter_cons_of_pos (by simpa using matched), ← ih]
        unfold Matched at matched
        simp only [matched, if_false]

theorem purge_tossed (entries : List (Queued Task)) :
    (purge word t entries).2 =
      (entries.filter fun e => Matched word t e ∧ e.func.data ≠ t).map fun e => e.func.data := by
  induction entries with
  | nil => rfl
  | cons se rest ih =>
      rw [purge]
      by_cases matched : Matched word t se
      · by_cases own : se.func.data = t
        · rw [List.filter_cons_of_neg (by simp [own]), ← ih]
          simp [own]
        · rw [List.filter_cons_of_pos (by simpa using ⟨matched, own⟩), List.map_cons, ← ih]
          unfold Matched at matched
          simp only [if_pos matched, if_pos own]
      · rw [List.filter_cons_of_neg (by simp [matched]), ← ih]
        unfold Matched at matched
        simp [matched]

end Walk

theorem tunnel_of_some {block : Block} {tun : TunnelBlock}
    (found : block.tunnel? = some tun) : block = .tunnel tun := by
  cases block <;> cases found
  rfl

theorem call_of_some {block : Block} {cal : CallBlock} (found : block.call? = some cal) : block = .call cal := by
  cases block <;> cases found
  rfl

theorem lac_of_some {block : Block} {entry : LacBlock} (found : block.lac? = some entry) : block = .lac entry := by
  cases block <;> cases found
  rfl

theorem buffer_of_some {block : Block} {buf : BufferBlock}
    (found : block.buffer? = some buf) : block = .buffer buf := by
  cases block <;> cases found
  rfl

section Exact

variable {block : Nat → Block} {t : Nat}

-- What the walk needs of the records: a dialling may have lost its entry.
def Task.Suits (block : Nat → Block) : Task → Prop
  | .hello _ => True
  | .controlXmit b => (block b).buffer?.isSome = true
  | .magicLacDial l => (block l).tunnel? = none
  | .sendZlb c => (block c).tunnel? = none

theorem suits_of_fits {task : Task} (fits : task.Fits block) : task.Suits block := by
  cases task with
  | hello t => trivial
  | controlXmit b => exact fits
  | magicLacDial l =>
      obtain ⟨entry, found⟩ := Option.isSome_iff_exists.mp fits
      show (block l).tunnel? = none
      rw [lac_of_some found]
      rfl
  | sendZlb c =>
      obtain ⟨cal, found⟩ := Option.isSome_iff_exists.mp fits
      show (block c).tunnel? = none
      rw [call_of_some found]
      rfl

theorem matched_iff (live : (block t).tunnel?.isSome = true) (e : Queued Task) (suits : e.func.Suits block) :
    Matched (fun p => (block p).word) t e ↔
      e.func.isFor block t = true ∨ e.func.buffer? = none ∧ e.func.data ≠ t ∧ (block e.func.data).word = t := by
  obtain ⟨ptr, tv, func⟩ := e
  have other (p : Nat) (kind : (block p).tunnel? = none) : p ≠ t := by
    rintro rfl
    rw [kind] at live
    cases live
  unfold Matched
  cases func with
  | hello owner =>
      by_cases own : owner = t
      · simp [Task.isFor, Task.data, own]
      · simp [Task.isFor, Task.data, Task.buffer?, own]
  | controlXmit b =>
      obtain ⟨buf, found⟩ := Option.isSome_iff_exists.mp suits
      have shape : block b = .buffer buf := buffer_of_some found
      have different : b ≠ t := other b (by rw [shape]; rfl)
      simp [Task.isFor, Task.data, Task.buffer?, shape, Block.word, Block.buffer?, different]
  | magicLacDial l => simp [Task.isFor, Task.data, Task.buffer?, other l suits]
  | sendZlb c => simp [Task.isFor, Task.data, Task.buffer?, other c suits]

theorem stray_isFor {e : Queued Task} (carries : e.func.buffer? = none) (other : e.func.data ≠ t) :
    e.func.isFor block t = false := by
  obtain ⟨ptr, tv, func⟩ := e
  cases func with
  | hello owner => simpa [Task.isFor, Task.data] using other
  | controlXmit b => cases carries
  | magicLacDial l => rfl
  | sendZlb c => rfl

variable {entries : List (Queued Task)} (live : (block t).tunnel?.isSome = true)
  (suits : ∀ e ∈ entries, e.func.Suits block) (clear : NoStray block t entries)

include live suits clear

theorem matched_isFor (e : Queued Task) (member : e ∈ entries) :
    Matched (fun p => (block p).word) t e ↔ e.func.isFor block t = true := by
  rw [matched_iff live e (suits e member)]
  constructor
  · rintro (own | ⟨carries, other, stray⟩)
    · exact own
    · exact absurd stray (clear e member carries other)
  · exact .inl

theorem purge_kept_exact :
    (purge (fun p => (block p).word) t entries).1 = entries.filter fun e => !e.func.isFor block t := by
  rw [purge_kept]
  refine List.filter_congr fun e member => ?_
  rw [decide_not, Bool.eq_iff_iff, Bool.not_eq_true', Bool.not_eq_true', decide_eq_false_iff_not,
    matched_isFor live suits clear e member,
    Bool.not_eq_true]

theorem purge_tossed_exact :
    (purge (fun p => (block p).word) t entries).2 =
      (entries.filter fun e => e.func.isFor block t).filterMap fun e => e.func.buffer? := by
  rw [purge_tossed, ← List.filterMap_eq_map', List.filterMap_filter, List.filterMap_filter]
  refine List.filterMap_congr fun e member => ?_
  have own := matched_isFor live suits clear e member
  simp only [own]
  have carried := suits e member
  obtain ⟨ptr, tv, func⟩ := e
  cases func with
  | hello owner => simp [Task.isFor, Task.data, Task.buffer?]
  | controlXmit b =>
      have different : b ≠ t := fun same => by
        obtain ⟨buf, found⟩ := Option.isSome_iff_exists.mp carried
        rw [← same, buffer_of_some found] at live
        cases live
      simp [Task.data, Task.buffer?, different]
  | magicLacDial l => simp [Task.isFor]
  | sendZlb c => simp [Task.isFor]

end Exact

theorem purge_exact_iff (block : Nat → Block) (queue : Queue block) (t : Nat) (live : (block t).tunnel?.isSome = true) :
    PurgeExact block t queue.entries ↔ NoStray block t queue.entries := by
  constructor
  · intro exact e member carries other stray
    have stays : e ∈ queue.entries.filter fun e => !e.func.isFor block t :=
      List.mem_filter.mpr ⟨member, by rw [stray_isFor carries other]; rfl⟩
    rw [← exact.kept, purge_kept] at stays
    exact of_decide_eq_true (List.mem_filter.mp stays).2 (.inl stray)
  · intro clear
    have tossed := purge_tossed_exact live (fun e member => suits_of_fits (queue.fits e member)) clear
    refine ⟨purge_kept_exact live (fun e member => suits_of_fits (queue.fits e member)) clear, tossed, ?_⟩
    rw [tossed]
    exact queue.once.sublist (List.filter_sublist.filterMap _)

-- Then it does to the daemon's queue, in which the events carry the buffers
-- themselves, what descheduling the tunnel does.
def Task.func? (contents : Nat → Buffer) : Task → Option Func
  | .hello t => some (.hello t)
  | .controlXmit b => some (.controlXmit (contents b))
  | .magicLacDial l => some (.magicLacDial l)
  | .sendZlb _ => none

def scheduled (contents : Nat → Buffer) (entries : List (Queued Task)) : List ScheduleEntry :=
  entries.filterMap fun e => (e.func.func? contents).map fun func => ⟨e.tv, func⟩

theorem purge_deschedules (block : Nat → Block) (entries : List (Queued Task)) (contents : Nat → Buffer) (t : Nat)
    (live : (block t).tunnel?.isSome = true) (suits : ∀ e ∈ entries, e.func.Suits block)
    (clear : NoStray block t entries)
    (same : ∀ b buf, (block b).buffer? = some buf → (contents b).tunnel = some buf.tunnel) :
    scheduled contents (purge (fun p => (block p).word) t entries).1 =
      (scheduled contents entries).filter fun entry => !entry.func.isFor t := by
  unfold scheduled
  rw [purge_kept_exact live suits clear, List.filterMap_filter, List.filter_filterMap]
  refine List.filterMap_congr fun e member => ?_
  have carried := suits e member
  obtain ⟨ptr, tv, func⟩ := e
  cases func with
  | hello owner => by_cases own : owner = t <;> simp [Task.isFor, Task.func?, Func.isFor, own, Option.filter]
  | controlXmit b =>
      obtain ⟨buf, found⟩ := Option.isSome_iff_exists.mp carried
      by_cases own : buf.tunnel = t <;> simp [Task.isFor, Task.func?, Func.isFor, found, same b buf found, own,
        Option.filter]
  | magicLacDial l => simp [Task.isFor, Task.func?, Func.isFor, Option.filter]
  | sendZlb c => simp [Task.isFor, Task.func?, Option.filter]

end ZyAgf.Xl2tpd.Purge
