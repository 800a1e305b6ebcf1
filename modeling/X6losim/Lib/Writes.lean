import Mathlib.Data.List.Infix
import Mathlib.Data.Set.Basic
import Mathlib.Tactic.Common

/-!
# Messages written to a stream

A `Write` is a message together with the part of it that has got into a stream.  `Intact` says
that nothing follows a message of which only a part has; what is in the stream is then a sequence
of complete messages and at most one incomplete one, which is `Streamed`.  When the messages tell
their own length, a stream is `Streamed` exactly when it is so after its first message.
-/

namespace Writes

variable {α : Type}

/-- A message, and the beginning of it that has been written. -/
structure Write (α : Type) where
  message : List α
  written : List α
  le : written <+: message

/-- Some of the message has been written, but not all of it. -/
def Write.Broken (w : Write α) : Prop := w.written ≠ [] ∧ w.written ≠ w.message

/-- What is in the stream after some writes. -/
def contents (ws : List (Write α)) : List α := ws.flatMap Write.written

/-- Nothing is written after an incomplete message. -/
def Intact (ws : List (Write α)) : Prop :=
  ws.Pairwise (fun w w' => w.Broken → w'.written = [])

/-- A stream of complete messages, with an incomplete one at most behind them. -/
def Streamed (messages : Set (List α)) (l : List α) : Prop :=
  ∃ (whole : List (List α)) (part : List α), (∀ c ∈ whole, c ∈ messages) ∧
    (part = [] ∨ ∃ c ∈ messages, part <+: c ∧ part ≠ c) ∧ l = whole.flatten ++ part

variable {messages : Set (List α)} {w : Write α} {ws : List (Write α)} {c l : List α}

theorem Streamed.nil :
  Streamed messages []
  := ⟨[], [], by simp, Or.inl rfl, rfl⟩

/-- A complete message before a stream. -/
theorem Streamed.cons (h : Streamed messages l) (hc : c ∈ messages) :
  Streamed messages (c ++ l)
  := by
  obtain ⟨whole, part, hwhole, hpart, rfl⟩ := h
  refine ⟨c :: whole, part, ?_, hpart, by simp⟩
  intro d hd
  rcases List.mem_cons.mp hd with rfl | hd
  · apply hc
  · apply hwhole d hd

/-- What intact writes leave in a stream. -/
theorem Intact.streamed (h : Intact ws) (hmessages : ∀ w ∈ ws, w.message ∈ messages) :
  Streamed messages (contents ws)
  := by
  induction ws with
  | nil => apply Streamed.nil
  | cons w ws ih =>
      obtain ⟨hfirst, hrest⟩ := List.pairwise_cons.mp h
      have hw := hmessages w (List.mem_cons_self ..)
      have hlater := ih hrest (fun w' hw' => hmessages w' (List.mem_cons_of_mem w hw'))
      have hsplit : contents (w :: ws) = w.written ++ contents ws := List.flatMap_cons ..
      rw [hsplit]
      by_cases hbroken : w.Broken
      · have hnone : contents ws = [] := by
          rw [contents, List.flatMap_eq_nil_iff]
          intro w' hw'
          apply hfirst w' hw' hbroken
        rw [hnone, List.append_nil]
        exact ⟨[], w.written, by simp, Or.inr ⟨_, hw, w.le, hbroken.2⟩, rfl⟩
      · by_cases hwhole : w.written = w.message
        · rw [hwhole]
          apply hlater.cons hw
        · have hnone : w.written = [] := by
            by_contra hsome
            apply hbroken ⟨hsome, hwhole⟩
          rw [hnone]
          apply hlater

/-- The first `k` entries of a message say how long it is. -/
structure SelfDelimiting (k : Nat) (messages : Set (List α)) : Prop where
  size : ∀ c ∈ messages, k ≤ c.length
  length : ∀ c ∈ messages, ∀ d ∈ messages, c.take k = d.take k → c.length = d.length

/-- A message is not the beginning of a longer one. -/
theorem SelfDelimiting.length_eq {k : Nat} {d r t : List α} (h : SelfDelimiting k messages)
    (hc : c ∈ messages) (hd : d ∈ messages) (heq : c ++ r = d ++ t) :
  c.length = d.length
  := by
  apply h.length c hc d hd
  have htake := congrArg (List.take k) heq
  rwa [List.take_append_of_le_length (h.size c hc), List.take_append_of_le_length (h.size d hd)]
    at htake

/-- Whether a stream is one of messages does not depend on a complete message before it. -/
theorem SelfDelimiting.streamed_append {k : Nat} (h : SelfDelimiting k messages)
    (hc : c ∈ messages) :
  Streamed messages (c ++ l) ↔ Streamed messages l
  := by
  constructor
  · rintro ⟨whole, part, hwhole, hpart, heq⟩
    cases whole with
    | nil =>
        rw [List.flatten_nil, List.nil_append] at heq
        rcases hpart with rfl | ⟨d, hd, ⟨t, ht⟩, hne⟩
        · have hnil : l = [] := (List.append_eq_nil_iff.mp heq).2
          rw [hnil]
          apply Streamed.nil
        · have hlength : c.length = d.length := by
            apply h.length_eq hc hd (r := l ++ t) (t := [])
            rw [← List.append_assoc, heq, ht, List.append_nil]
          have hle := congrArg List.length heq
          have hd' := congrArg List.length ht
          rw [List.length_append] at hle hd'
          have hempty : t = [] := List.eq_nil_of_length_eq_zero (by omega)
          rw [hempty, List.append_nil] at ht
          apply absurd ht hne
    | cons d whole =>
        have hd := hwhole d (List.mem_cons_self ..)
        rw [List.flatten_cons, List.append_assoc] at heq
        obtain ⟨-, hl⟩ := List.append_inj heq (h.length_eq hc hd heq)
        exact ⟨whole, part, fun c hc => hwhole c (List.mem_cons_of_mem d hc), hpart, hl⟩
  · intro hl
    apply hl.cons hc

theorem SelfDelimiting.streamed_flatten {k : Nat} {whole : List (List α)}
    (h : SelfDelimiting k messages) (hwhole : ∀ c ∈ whole, c ∈ messages) :
  Streamed messages (whole.flatten ++ l) ↔ Streamed messages l
  := by
  induction whole with
  | nil => rfl
  | cons c whole ih =>
      rw [List.flatten_cons, List.append_assoc,
        h.streamed_append (hwhole c (List.mem_cons_self ..))]
      apply ih (fun d hd => hwhole d (List.mem_cons_of_mem c hd))

end Writes
