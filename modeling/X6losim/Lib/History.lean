import Mathlib.Tactic.Common
import Mathlib.Data.List.Infix
import Mathlib.Data.List.Count
import Mathlib.Data.Finset.Basic

/-!
# Histories: entries, presence, coexistence and existence

A history is the list of events of a run so far, oldest first.  `Entry l past e` says that
`e` is an event of `l` and that `past` is what came before it.  When some events are the
arrivals and departures of visitors, `present` replays a history into the visitors there
now, and `Coexisted` says that at some moment of the history a visitor was there together
with another one.  When some events create and delete objects, `existing` is the set of the
objects that exist now.
-/

namespace History

variable {ε α β : Type}

/-- `e` is an event of the history `l`, and the events before it are `past`. -/
def Entry (l past : List ε) (e : ε) : Prop := past ++ [e] <+: l

@[simp]
theorem entry_nil {past : List ε} {e : ε} :
  ¬ Entry [] past e
  := by
  simp [Entry]

/-- The events of a history with one more event: the old ones, and the new one after the
whole old history. -/
@[simp]
theorem entry_concat {l past : List ε} {e x : ε} :
  Entry (l ++ [x]) past e ↔ Entry l past e ∨ past = l ∧ e = x
  := by
  unfold Entry
  rw [List.prefix_concat_iff]
  constructor
  · rintro (h | h)
    · right
      obtain ⟨hpast, he⟩ := List.append_inj' h rfl
      exact ⟨hpast, List.cons.inj he |>.1⟩
    · left
      apply h
  · rintro (h | ⟨rfl, rfl⟩)
    · right
      apply h
    · left
      rfl

theorem Entry.mono {l l' past : List ε} {e : ε} (h : Entry l past e) (hl : l <+: l') :
  Entry l' past e
  := h.trans hl

theorem Entry.mem {l past : List ε} {e : ε} (h : Entry l past e) :
  e ∈ l
  := by
  apply h.subset
  simp

/-- The events of a history that goes on: the old ones, and the new ones after the whole old
history. -/
theorem entry_append {l es past : List ε} {e : ε} :
  Entry (l ++ es) past e ↔ Entry l past e ∨ ∃ before, past = l ++ before ∧ Entry es before e
  := by
  induction es using List.reverseRecOn with
  | nil => simp
  | append_singleton es x ih =>
      rw [← List.append_assoc, entry_concat, ih]
      constructor
      · rintro ((h | ⟨before, hpast, h⟩) | ⟨rfl, rfl⟩)
        · left
          apply h
        · right
          exact ⟨before, hpast, entry_concat.mpr (Or.inl h)⟩
        · right
          exact ⟨es, rfl, entry_concat.mpr (Or.inr ⟨rfl, rfl⟩)⟩
      · rintro (h | ⟨before, hpast, h⟩)
        · left; left
          apply h
        · rcases entry_concat.mp h with h | ⟨rfl, rfl⟩
          · left; right
            exact ⟨before, hpast, h⟩
          · right
            exact ⟨hpast, rfl⟩

/-- What comes before an event is a beginning of the history. -/
theorem Entry.beginning {l past : List ε} {e : ε} (h : Entry l past e) :
  past <+: l
  := (List.prefix_append past [e]).trans h

/-- What a visitor does: it arrives with a payload, or it departs. -/
inductive Visit (α β : Type) where
  | enter (a : α) (b : β)
  | leave (a : α)

section Presence

variable [DecidableEq α] (visit : ε → Option (Visit α β))

/-- The visitors after one more event. -/
def visitStep (there : List (α × β)) (e : ε) : List (α × β) :=
  match visit e with
  | none => there
  | some (.enter a b) => there ++ [(a, b)]
  | some (.leave a) => there.eraseP (fun v => v.1 = a)

/-- The visitors at the end of a history, in the order of their arrival. -/
def present (l : List ε) : List (α × β) := l.foldl (visitStep visit) []

@[simp]
theorem present_nil :
  present visit [] = []
  := rfl

@[simp]
theorem present_concat (l : List ε) (e : ε) :
  present visit (l ++ [e]) = visitStep visit (present visit l) e
  := by
  simp [present]

theorem visitStep_none {there : List (α × β)} {e : ε} (h : visit e = none) :
  visitStep visit there e = there
  := by
  simp [visitStep, h]

theorem visitStep_enter {there : List (α × β)} {e : ε} {a : α} {b : β}
    (h : visit e = some (.enter a b)) :
  visitStep visit there e = there ++ [(a, b)]
  := by
  simp [visitStep, h]

theorem visitStep_leave {there : List (α × β)} {e : ε} {a : α}
    (h : visit e = some (.leave a)) :
  visitStep visit there e = there.eraseP (fun v => v.1 = a)
  := by
  simp [visitStep, h]

/-- The visitors after more events. -/
theorem present_append (l es : List ε) :
  present visit (l ++ es) = es.foldl (visitStep visit) (present visit l)
  := by
  simp [present]

/-- A visitor who is there has arrived. -/
theorem mem_present {l : List ε} {v : α × β} (h : v ∈ present visit l) :
  ∃ e ∈ l, visit e = some (.enter v.1 v.2)
  := by
  induction l using List.reverseRecOn with
  | nil => cases h
  | append_singleton l x ih =>
      have hearlier : v ∈ present visit l → ∃ e ∈ l ++ [x], visit e = some (.enter v.1 v.2) := by
        intro hv
        obtain ⟨e, he, hvisit⟩ := ih hv
        exact ⟨e, List.mem_append_left _ he, hvisit⟩
      rw [present_concat] at h
      cases hvisit : visit x with
      | none =>
          rw [visitStep_none visit hvisit] at h
          apply hearlier h
      | some visit' =>
          cases visit' with
          | leave a =>
              rw [visitStep_leave visit hvisit] at h
              apply hearlier (List.mem_of_mem_eraseP h)
          | enter a b =>
              rw [visitStep_enter visit hvisit] at h
              rcases List.mem_append.mp h with h | h
              · apply hearlier h
              · rw [List.mem_singleton.mp h]
                exact ⟨x, List.mem_append_right _ (List.mem_singleton_self x), hvisit⟩

/-- Events that are no visits change nothing. -/
theorem present_append_none {l es : List ε} (h : ∀ e ∈ es, visit e = none) :
  present visit (l ++ es) = present visit l
  := by
  induction es using List.reverseRecOn with
  | nil => rw [List.append_nil]
  | append_singleton es x ih =>
      have hx := h x (List.mem_append_right _ (List.mem_singleton_self x))
      rw [← List.append_assoc, present_concat, visitStep_none visit hx]
      apply ih
      intro e he
      apply h e (List.mem_append_left _ he)

/-- Those who are there after a departure. -/
theorem map_fst_eraseP (there : List (α × β)) (a : α) :
  (there.eraseP (fun v => v.1 = a)).map Prod.fst = (there.map Prod.fst).erase a
  := by
  rw [List.erase_eq_eraseP', List.eraseP_map]
  rfl

/-- Another visitor than `a` is there. -/
def Company (there : List (α × β)) (a : α) : Prop := ∃ v ∈ there, v.1 ≠ a

/-- At some moment of the history the visitor `a` with the payload `b` was there, and
another visitor was there too. -/
def Coexisted (l : List ε) (a : α) (b : β) : Prop :=
  ∃ moment, moment <+: l ∧ (a, b) ∈ present visit moment ∧ Company (present visit moment) a

@[simp]
theorem coexisted_nil {a : α} {b : β} :
  ¬ Coexisted visit [] a b
  := by
  simp [Coexisted]

/-- One more event adds one more moment. -/
theorem coexisted_concat {l : List ε} {e : ε} {a : α} {b : β} :
  Coexisted visit (l ++ [e]) a b ↔ Coexisted visit l a b ∨
    ((a, b) ∈ visitStep visit (present visit l) e ∧
      Company (visitStep visit (present visit l) e) a)
  := by
  unfold Coexisted
  constructor
  · rintro ⟨moment, hmoment, hthere, hcompany⟩
    rcases List.prefix_concat_iff.mp hmoment with rfl | h
    · right
      rw [present_concat] at hthere hcompany
      exact ⟨hthere, hcompany⟩
    · left
      exact ⟨moment, h, hthere, hcompany⟩
  · rintro (⟨moment, hmoment, h⟩ | h)
    · exact ⟨moment, hmoment.trans (List.prefix_append _ _), h⟩
    · use l ++ [e], List.prefix_rfl
      rw [present_concat]
      apply h

/-- An event that is no visit changes neither who is there nor who has met. -/
theorem coexisted_concat_none {l : List ε} {e : ε} {a : α} {b : β} (h : visit e = none) :
  Coexisted visit (l ++ [e]) a b ↔ Coexisted visit l a b
  := by
  rw [coexisted_concat, visitStep_none visit h]
  constructor
  · rintro (h | ⟨hthere, hcompany⟩)
    · apply h
    · exact ⟨l, List.prefix_rfl, hthere, hcompany⟩
  · apply Or.inl

theorem coexisted_append_none {l es : List ε} {a : α} {b : β} (h : ∀ e ∈ es, visit e = none) :
  Coexisted visit (l ++ es) a b ↔ Coexisted visit l a b
  := by
  induction es using List.reverseRecOn with
  | nil => rw [List.append_nil]
  | append_singleton es x ih =>
      have hx := h x (List.mem_append_right _ (List.mem_singleton_self x))
      rw [← List.append_assoc, coexisted_concat_none visit hx]
      apply ih
      intro e he
      apply h e (List.mem_append_left _ he)

/-- An arrival makes those meet who are there and the one who arrives. -/
theorem coexisted_concat_enter {l : List ε} {e : ε} {a c : α} {b d : β}
    (h : visit e = some (.enter c d)) :
  Coexisted visit (l ++ [e]) a b ↔ Coexisted visit l a b ∨
    ((a, b) ∈ present visit l ++ [(c, d)] ∧ Company (present visit l ++ [(c, d)]) a)
  := by
  rw [coexisted_concat, visitStep_enter visit h]

/-- A departure makes nobody meet who had not met before. -/
theorem coexisted_concat_leave {l : List ε} {e : ε} {a c : α} {b : β}
    (h : visit e = some (.leave c)) :
  Coexisted visit (l ++ [e]) a b ↔ Coexisted visit l a b
  := by
  rw [coexisted_concat, visitStep_leave visit h]
  constructor
  · rintro (h | ⟨hthere, v, hv, hne⟩)
    · apply h
    · refine ⟨l, List.prefix_rfl, List.mem_of_mem_eraseP hthere, v, ?_, hne⟩
      apply List.mem_of_mem_eraseP hv
  · apply Or.inl

end Presence

/-- What happens to an object: it is created or deleted. -/
inductive Life (α : Type) where
  | create (a : α)
  | delete (a : α)

section Existence

variable [DecidableEq α] (life : ε → Option (Life α))

/-- The objects that exist after one more event. -/
def lifeStep (there : Finset α) (e : ε) : Finset α :=
  match life e with
  | none => there
  | some (.create a) => insert a there
  | some (.delete a) => there.erase a

/-- The objects that exist at the end of a history. -/
def existing (l : List ε) : Finset α := l.foldl (lifeStep life) ∅

@[simp]
theorem existing_nil :
  existing life [] = ∅
  := rfl

/-- The objects that exist after more events. -/
theorem existing_append (l es : List ε) :
  existing life (l ++ es) = es.foldl (lifeStep life) (existing life l)
  := by
  simp [existing]

theorem existing_concat (l : List ε) (e : ε) :
  existing life (l ++ [e]) = lifeStep life (existing life l) e
  := existing_append life l [e]

/-- Events of other objects leave it as it is whether an object exists. -/
theorem mem_existing_other {l es : List ε} {a : α}
    (hno : ∀ e ∈ es, life e ≠ some (.create a) ∧ life e ≠ some (.delete a)) :
  a ∈ existing life (l ++ es) ↔ a ∈ existing life l
  := by
  induction es using List.reverseRecOn with
  | nil => rw [List.append_nil]
  | append_singleton es x ih =>
      have hx := hno x (List.mem_append_right _ (List.mem_singleton_self x))
      have hes := ih (fun e he => hno e (List.mem_append_left _ he))
      rw [← List.append_assoc, existing_concat, ← hes, lifeStep]
      cases hlife : life x with
      | none => rfl
      | some l =>
          rw [hlife] at hx
          cases l with
          | create b =>
              have hne : a ≠ b := by
                rintro rfl
                apply hx.1 rfl
              simp [hne]
          | delete b =>
              have hne : a ≠ b := by
                rintro rfl
                apply hx.2 rfl
              simp [hne]

/-- Events that neither create nor delete anything leave the objects as they are. -/
theorem existing_append_none {l es : List ε} (h : ∀ e ∈ es, life e = none) :
  existing life (l ++ es) = existing life l
  := by
  ext a
  apply mem_existing_other
  intro e he
  simp [h e he]

/-- An object exists until it is deleted. -/
theorem mem_existing_of {l es : List ε} {a : α} (h : a ∈ existing life l)
    (hno : ∀ e ∈ es, life e ≠ some (.delete a)) :
  a ∈ existing life (l ++ es)
  := by
  induction es using List.reverseRecOn with
  | nil => simpa using h
  | append_singleton es x ih =>
      have hx := hno x (List.mem_append_right _ (List.mem_singleton_self x))
      have hes := ih (fun e he => hno e (List.mem_append_left _ he))
      rw [← List.append_assoc, existing_concat, lifeStep]
      cases hlife : life x with
      | none => apply hes
      | some l =>
          rw [hlife] at hx
          cases l with
          | create b => apply Finset.mem_insert_of_mem hes
          | delete b =>
              apply Finset.mem_erase_of_ne_of_mem _ hes
              rintro rfl
              apply hx rfl

end Existence

end History
