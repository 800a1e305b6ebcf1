import Mathlib.Logic.Function.Basic
import Mathlib.Tactic.Common

/-!
# Custody of resources

Resources are opened on one of several sides.  Each of them is to be owned by one owner, on its
side, until it is closed; before it gets its owner it is in hand, at most one on every side.
`Custody` says that every open resource is in hand or owned, and that nothing else is owned; the
lemmas are the moves that keep it.
-/

namespace Custody

variable {α β κ : Type}

/-- Every open resource is owned by one owner, on its side, and by nobody else. -/
def Owned (opened : α → Option κ) (owns : κ → β → α → Prop) : Prop :=
  ∀ a k, opened a = some k → ∃ b, owns k b a ∧ ∀ j c, owns j c a → j = k ∧ c = b

end Custody

/-- Every open resource is in hand or owned. -/
structure Custody {α β κ : Type} (opened : α → Option κ) (owns : κ → β → α → Prop)
    (hand : κ → Option α) : Prop where
  kept : ∀ {a k}, opened a = some k → hand k = some a ∨ ∃ b, owns k b a
  isOpen : ∀ {k b a}, owns k b a → opened a = some k
  unique : ∀ {k b c a}, owns k b a → owns k c a → b = c
  inHand : ∀ {k a}, hand k = some a → opened a = some k
  apart : ∀ {k b a}, hand k = some a → ¬ owns k b a

namespace Custody

variable {α β κ : Type} {opened opened' : α → Option κ} {owns owns' : κ → β → α → Prop}
  {hand : κ → Option α} {k : κ} {a : α} {b : β}

/-- Nothing is open. -/
theorem empty (owns : κ → β → α → Prop) (h : ∀ k b a, ¬ owns k b a) :
  Custody (fun _ => none) owns (fun _ => none)
  where
  kept hopen := by cases hopen
  isOpen howns := absurd howns (h _ _ _)
  unique howns := absurd howns (h _ _ _)
  inHand hhand := by cases hhand
  apart hhand := by cases hhand

/-- Every open resource is owned exactly when there is nothing in hand. -/
theorem owned_iff (h : Custody opened owns hand) :
  Owned opened owns ↔ ∀ k, hand k = none
  := by
  constructor
  · intro howned k
    cases hhand : hand k with
    | none => rfl
    | some a =>
        obtain ⟨b, hb, -⟩ := howned a k (h.inHand hhand)
        apply absurd hb (h.apart hhand)
  · intro hnone a k hopen
    rcases h.kept hopen with hhand | ⟨b, hb⟩
    · rw [hnone k] at hhand
      cases hhand
    · use b, hb
      intro j c hc
      have hside := h.isOpen hc
      rw [hopen] at hside
      cases hside
      exact ⟨rfl, h.unique hc hb⟩

variable [DecidableEq κ]

/-- A resource is opened and is in hand. -/
theorem take [DecidableEq α] (h : Custody opened owns hand) (hhand : hand k = none)
    (hclosed : opened a = none) :
  Custody (Function.update opened a (some k)) owns (Function.update hand k (some a))
  := by
  have hne : ∀ {x j}, opened x = some j → x ≠ a := by
    rintro x j hx rfl
    rw [hclosed] at hx
    cases hx
  constructor
  · intro x j hx
    by_cases hxa : x = a
    · subst hxa
      rw [Function.update_self] at hx
      cases hx
      left
      apply Function.update_self
    · rw [Function.update_of_ne hxa] at hx
      rcases h.kept hx with hj | hb
      · left
        rw [Function.update_of_ne _ _, hj]
        rintro rfl
        rw [hhand] at hj
        cases hj
      · right
        apply hb
  · intro j c x hc
    have hx := h.isOpen hc
    rw [Function.update_of_ne (hne hx), hx]
  · exact h.unique
  · intro j x hj
    by_cases hjk : j = k
    · subst hjk
      rw [Function.update_self] at hj
      cases hj
      apply Function.update_self
    · rw [Function.update_of_ne hjk] at hj
      have hx := h.inHand hj
      rw [Function.update_of_ne (hne hx), hx]
  · intro j c x hj hc
    by_cases hjk : j = k
    · subst hjk
      rw [Function.update_self] at hj
      cases hj
      apply hne (h.isOpen hc) rfl
    · rw [Function.update_of_ne hjk] at hj
      apply h.apart hj hc

/-- What is in hand gets an owner. -/
theorem give (h : Custody opened owns hand) (hhand : hand k = some a)
    (howns : ∀ j c x, owns' j c x ↔ owns j c x ∨ j = k ∧ c = b ∧ x = a) :
  Custody opened owns' (Function.update hand k none)
  := by
  have hnobody : ∀ {j c}, ¬ owns j c a := by
    intro j c hc
    have hside := h.isOpen hc
    rw [h.inHand hhand] at hside
    cases hside
    apply h.apart hhand hc
  constructor
  · intro x j hx
    rcases h.kept hx with hj | ⟨c, hc⟩
    · by_cases hjk : j = k
      · subst hjk
        rw [hhand] at hj
        cases hj
        right
        exact ⟨b, (howns _ _ _).mpr (Or.inr ⟨rfl, rfl, rfl⟩)⟩
      · left
        rw [Function.update_of_ne hjk, hj]
    · right
      exact ⟨c, (howns _ _ _).mpr (Or.inl hc)⟩
  · intro j c x hc
    rcases (howns _ _ _).mp hc with hc | ⟨rfl, -, rfl⟩
    · apply h.isOpen hc
    · apply h.inHand hhand
  · intro j c d x hc hd
    rcases (howns _ _ _).mp hc with hc | ⟨rfl, rfl, rfl⟩
    · rcases (howns _ _ _).mp hd with hd | ⟨rfl, rfl, rfl⟩
      · apply h.unique hc hd
      · apply absurd hc hnobody
    · rcases (howns _ _ _).mp hd with hd | ⟨-, rfl, -⟩
      · apply absurd hd hnobody
      · rfl
  · intro j x hj
    by_cases hjk : j = k
    · subst hjk
      rw [Function.update_self] at hj
      cases hj
    · rw [Function.update_of_ne hjk] at hj
      apply h.inHand hj
  · intro j c x hj hc
    by_cases hjk : j = k
    · subst hjk
      rw [Function.update_self] at hj
      cases hj
    · rw [Function.update_of_ne hjk] at hj
      rcases (howns _ _ _).mp hc with hc | ⟨rfl, -, -⟩
      · apply h.apart hj hc
      · apply hjk rfl

omit [DecidableEq κ] in
/-- Owners go away, and what they own is closed. -/
theorem drop (h : Custody opened owns hand) (gone : β → Prop)
    (howns : ∀ j c x, owns' j c x ↔ owns j c x ∧ ¬ (j = k ∧ gone c))
    (hopened : ∀ x j, opened' x = some j ↔ opened x = some j ∧ ∀ c, gone c → ¬ owns k c x) :
  Custody opened' owns' hand
  := by
  constructor
  · intro x j hx
    obtain ⟨hx, hleft⟩ := (hopened x j).mp hx
    rcases h.kept hx with hj | ⟨c, hc⟩
    · left
      apply hj
    · right
      refine ⟨c, (howns _ _ _).mpr ⟨hc, ?_⟩⟩
      rintro ⟨rfl, hgone⟩
      apply hleft c hgone hc
  · intro j c x hc
    obtain ⟨hc, hstays⟩ := (howns _ _ _).mp hc
    refine (hopened x j).mpr ⟨h.isOpen hc, ?_⟩
    intro d hgone hd
    have hside := h.isOpen hd
    rw [h.isOpen hc] at hside
    cases hside
    apply hstays ⟨rfl, _⟩
    rw [h.unique hc hd]
    apply hgone
  · intro j c d x hc hd
    apply h.unique ((howns _ _ _).mp hc).1 ((howns _ _ _).mp hd).1
  · intro j x hj
    refine (hopened x j).mpr ⟨h.inHand hj, ?_⟩
    intro c _ hc
    have hside := h.isOpen hc
    rw [h.inHand hj] at hside
    cases hside
    apply h.apart hj hc
  · intro j c x hj hc
    apply h.apart hj ((howns _ _ _).mp hc).1

end Custody
