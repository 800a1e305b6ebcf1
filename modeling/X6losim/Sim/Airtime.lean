import X6losim.Invariant.TxHistory
import X6losim.Lib.Clock
import X6losim.Sim.Time

/-!
# Transmissions against a clock

A medium whose steps are taken at instants of the clock its timers run on, in nanoseconds.  The
instant of every logged event is noted down, and so are the instant at which the transmit timer of a
packet expires and those at which `processTxList` looks at it.
-/

open Bytes History

namespace X6losim

/-- What is noted down of a medium against a clock. -/
structure Airtime where
  /-- The log, every event with its instant. -/
  stamped : List (Event × Int)
  /-- The instants at which the timers of packets expire. -/
  expires : PktId → Option Int
  /-- The instants at which `processTxList` has looked at the timers of packets. -/
  looks : PktId → List Int

/-- The time the transmit timer of a node has been armed with. -/
def Medium.txTimeNs (m : Medium) (p : NodePtr) : Int :=
  match m.nodes p with
  | .live n => n.txTimer.itValue.toNs
  | .unborn => 0
  | .destroyed => 0

/-- The timers when an event has happened: a data indication arms the one of its packet. -/
def armed (m : Medium) (now : Int) (expires : PktId → Option Int) : Event → PktId → Option Int
  | .dataIndication p k => Function.update expires k (some (now + m.txTimeNs p))
  | _ => expires

/-- The packet whose timer `processTxList` looks at in a step: that of the node of the entry it has
got to. -/
def Sys.looksAt (s : Sys) : Input → Option PktId
  | .run _ =>
      match s.pc with
      | .processTxList i => (s.med.txList[i]?).bind fun p =>
          match s.med.nodes p with
          | .live n => n.txPkt.map NetSimPacket.id
          | .unborn => none
          | .destroyed => none
      | _ => none
  | _ => none

/-- The looks at the timers of packets when there has been one more. -/
def looked (now : Int) (looks : PktId → List Int) : Option PktId → PktId → List Int
  | some k => Function.update looks k (looks k ++ [now])
  | none => looks

/-- What is noted down of a step. -/
def Airtime.note (s : Sys) (i : Input) (s' : Sys) (now : Int) (a : Airtime) : Airtime :=
  let es := s'.med.log.drop s.med.log.length
  ⟨a.stamped ++ es.map (fun e => (e, now)), es.foldl (armed s'.med now) a.expires,
    looked now a.looks (s.looksAt i)⟩

/-- In `processTxList` the system tells that no time is left exactly when the timer has expired by
the clock. -/
def TimerAnswers (c : Clocked Sys Airtime) : Input → Int → Prop
  | .run env, now => ∀ i p n pkt x left, c.state.pc = .processTxList i →
      c.state.med.txList[i]? = some p → c.state.med.nodes p = .live n → n.txPkt = some pkt →
      c.notes.expires pkt.id = some x → env.nodeTimerGettime p = some left →
      (left = ⟨0, 0⟩ ↔ x ≤ now)
  | _, _ => True

/-- A medium against a clock. -/
def clockedMedium (host : ByteOrder) (kind : Kind) :
    Machine (Clocked Sys Airtime) (Input × Int) (Stop × Medium) :=
  (medium host kind).clocked TimerAnswers ⟨[], fun _ => none, fun _ => []⟩ Airtime.note

namespace Airtime

/-- The data indication of a packet is handled at an instant. -/
def Begins (a : Airtime) (k : PktId) (t : Int) : Prop :=
  ∃ p, (.dataIndication p k, t) ∈ a.stamped

/-- At an instant `processTxList` finds the timer of a packet expired and sends the result. -/
def Reports (a : Airtime) (k : PktId) (r t : Int) : Prop :=
  ∃ past p, Entry a.stamped past (.sent p (.txDoneInd r), t) ∧
    (p, some k) ∈ onAir (past.map Prod.fst)

/-- An instant is the first one, from the expiry of the timer of a packet on, at which
`processTxList` looks at it: the looks before have been too early.  It is the last one as well. -/
def FirstLook (a : Airtime) (k : PktId) (t : Int) : Prop :=
  ∃ x before, a.expires k = some x ∧ x ≤ t ∧ a.looks k = before ++ [t] ∧ ∀ t' ∈ before, t' < x

end Airtime

/-! ### Steps -/

section Steps

variable {s s' : Sys} {i : Input} {es : List Event} {p : NodePtr} {j k : PktId} {r t : Int}

/-- What is noted down when a step has logged certain events. -/
theorem note_eq (hlog : s'.med.log = s.med.log ++ es) (now : Int) (a : Airtime) :
  a.note s i s' now
    = ⟨a.stamped ++ es.map (fun e => (e, now)), es.foldl (armed s'.med now) a.expires,
        looked now a.looks (s.looksAt i)⟩
  := by
  rw [Airtime.note, hlog, List.drop_left]

theorem looks_note (now : Int) (a : Airtime) :
  (a.note s i s' now).looks = looked now a.looks (s.looksAt i)
  := rfl

theorem mem_note (hlog : s'.med.log = s.med.log ++ es) (now : Int) (a : Airtime) {e : Event} :
  (e, t) ∈ (a.note s i s' now).stamped ↔ (e, t) ∈ a.stamped ∨ e ∈ es ∧ t = now
  := by
  rw [note_eq hlog, List.mem_append, List.mem_map]
  apply or_congr_right
  constructor
  · rintro ⟨e', he', heq⟩
    cases heq
    exact ⟨he', rfl⟩
  · rintro ⟨he, rfl⟩
    exact ⟨e, he, rfl⟩

/-- No packet begins when no data indication is handled. -/
theorem begins_kept (hlog : s'.med.log = s.med.log ++ es) (hno : ∀ q k, .dataIndication q k ∉ es)
    (now : Int) (a : Airtime) :
  (a.note s i s' now).Begins k t ↔ a.Begins k t
  := by
  apply exists_congr
  intro q
  rw [mem_note hlog]
  constructor
  · rintro (hmem | ⟨hmem, -⟩)
    · apply hmem
    · apply absurd hmem (hno q k)
  · apply Or.inl

/-- The packet of a transmission that starts begins. -/
theorem begins_transmit (hlog : s'.med.log = s.med.log ++ transmitEvents p j) (now : Int)
    (a : Airtime) :
  (a.note s i s' now).Begins k t ↔ a.Begins k t ∨ k = j ∧ t = now
  := by
  simp only [Airtime.Begins, mem_note hlog, transmitEvents]
  simp [exists_or]

/-- Entries of a list with instants that end with the same one. -/
theorem entry_stamped {stamped past : List (Event × Int)} {e : Event} {now : Int}
    (hno : e ∉ es) :
  Entry (stamped ++ es.map (fun e => (e, now))) past (e, t) ↔ Entry stamped past (e, t)
  := by
  rw [entry_append]
  constructor
  · rintro (h | ⟨before, -, h⟩)
    · apply h
    · obtain ⟨e', he', heq⟩ := List.mem_map.mp h.mem
      cases heq
      apply absurd he' hno
  · apply Or.inl

/-- What has been noted down of the results stays. -/
theorem reports_mono (hlog : s'.med.log = s.med.log ++ es) (now : Int) {a : Airtime}
    (h : a.Reports k r t) :
  (a.note s i s' now).Reports k r t
  := by
  obtain ⟨past, p, hentry, hp⟩ := h
  refine ⟨past, p, ?_, hp⟩
  rw [note_eq hlog]
  apply hentry.mono (List.prefix_append ..)

/-- No packet is reported when no result is sent. -/
theorem reports_kept (hlog : s'.med.log = s.med.log ++ es)
    (hno : ∀ q r, .sent q (.txDoneInd r) ∉ es) (now : Int) (a : Airtime) :
  (a.note s i s' now).Reports k r t ↔ a.Reports k r t
  := by
  constructor
  · rintro ⟨past, p, hentry, hp⟩
    rw [note_eq hlog, entry_stamped (hno p r)] at hentry
    exact ⟨past, p, hentry, hp⟩
  · apply reports_mono hlog now

/-- No timer of a packet is armed when no data indication is handled. -/
theorem expires_kept (hlog : s'.med.log = s.med.log ++ es) (hno : ∀ q k, .dataIndication q k ∉ es)
    (now : Int) (a : Airtime) :
  (a.note s i s' now).expires = a.expires
  := by
  rw [note_eq hlog]
  clear hlog
  induction es generalizing a with
  | nil => rfl
  | cons e es ih =>
      have hkept : armed s'.med now a.expires e = a.expires := by
        cases e with
        | dataIndication p k => apply absurd (List.mem_cons_self ..) (hno p k)
        | _ => rfl
      have hrest := ih (fun q k h => hno q k (List.mem_cons_of_mem _ h)) a
      rw [List.foldl_cons, hkept]
      apply hrest

/-- The timer of the packet of a transmission that starts is armed. -/
theorem expires_transmit (hlog : s'.med.log = s.med.log ++ transmitEvents p j) (now : Int)
    (a : Airtime) :
  (a.note s i s' now).expires
    = Function.update a.expires j (some (now + s'.med.txTimeNs p))
  := by
  rw [note_eq hlog]
  rfl

end Steps

end X6losim
