import X6losim.Lib.Refinement
import Mathlib.Data.List.Forall2
import Mathlib.Order.BooleanAlgebra.Set
import Mathlib.Logic.Function.Basic

/-!
# A channel

What a medium is for: stations are invited to a channel and join it, ask whether it is clear, and
send frames.  A frame is delivered when nothing has spoilt it, and on a channel that collides it is
spoilt when another station sends at the same time.
-/

universe u v

namespace X6losim

/-- A channel with stations `ι` and frames `φ`. -/
@[ext]
structure Channel (ι : Type u) (φ : Type v) where
  /-- The stations that have been invited and have not joined. -/
  invited : Set ι
  /-- The stations that have joined. -/
  joined : Set ι
  /-- The frame a station is sending. -/
  sending : ι → Option φ
  /-- The stations whose frames are spoilt. -/
  spoilt : Set ι
  /-- The stations that wait for an assessment, in order. -/
  asking : List ι

namespace Channel

variable {ι : Type u} {φ : Type v}

/-- What is seen of a channel. -/
inductive Act (ι : Type u) (φ : Type v) where
  | invite (p : ι)
  | ask (p : ι)
  | answer (p : ι) (clear : Bool)
  | send (p : ι) (frame : φ)
  | finish (p : ι) (ok : Bool)
  | deliver (p : ι) (frame : φ)
  | release (p : ι)
  | leave (p : ι)

/-- A channel nobody has been invited to. -/
def empty : Channel ι φ where
  invited := ∅
  joined := ∅
  sending _ := none
  spoilt := ∅
  asking := []

/-- No station is sending. -/
def Clear (c : Channel ι φ) : Prop := ∀ p, c.sending p = none

variable [DecidableEq ι]

/-- The channel when a station starts to send.  If it collides, and is not clear, the frames of all
stations that send are spoilt. -/
def send (c : Channel ι φ) (collides : Prop) (p : ι) (f : φ) : Channel ι φ :=
  { c with
    sending := Function.update c.sending p (some f)
    spoilt := {q | q ∈ c.spoilt ∨
      collides ∧ ¬ c.Clear ∧ Function.update c.sending p (some f) q ≠ none} }

/-- The channel when a station has sent. -/
def finish (c : Channel ι φ) (p : ι) : Channel ι φ :=
  { c with sending := Function.update c.sending p none, spoilt := c.spoilt \ {p} }

/-- The channel without a station. -/
def leave (c : Channel ι φ) (p : ι) : Channel ι φ :=
  { c with invited := c.invited \ {p}, joined := c.joined \ {p} }

section

variable {c : Channel ι φ} {collides : Prop} {p q : ι} {f : φ}

@[simp]
theorem send_sending_self :
  (c.send collides p f).sending p = some f
  := Function.update_self ..

theorem send_sending_of_ne (hq : q ≠ p) :
  (c.send collides p f).sending q = c.sending q
  := Function.update_of_ne hq ..

theorem mem_send_spoilt :
  q ∈ (c.send collides p f).spoilt ↔
    q ∈ c.spoilt ∨ collides ∧ ¬ c.Clear ∧ (c.send collides p f).sending q ≠ none
  := Iff.rfl

@[simp]
theorem finish_sending_self :
  (c.finish p).sending p = none
  := Function.update_self ..

theorem finish_sending_of_ne (hq : q ≠ p) :
  (c.finish p).sending q = c.sending q
  := Function.update_of_ne hq ..

theorem mem_finish_spoilt :
  q ∈ (c.finish p).spoilt ↔ q ∈ c.spoilt ∧ q ≠ p
  := Iff.rfl

end

/-- The steps of a channel.  `collides` says whether frames that are sent at the same time are
spoilt, and `carries f g` that `g` may be delivered for `f`. -/
inductive Step (collides : Prop) (carries : φ → φ → Prop) :
    Channel ι φ → List (Act ι φ) → Channel ι φ → Prop where
  | invite {c : Channel ι φ} {p : ι} : p ∉ c.invited → p ∉ c.joined →
      Step collides carries c [.invite p] { c with invited := insert p c.invited }
  | join {c : Channel ι φ} {p : ι} : p ∈ c.invited →
      Step collides carries c []
        { c with invited := c.invited \ {p}, joined := insert p c.joined }
  | ask {c : Channel ι φ} {p : ι} : p ∈ c.joined →
      Step collides carries c [.ask p] { c with asking := c.asking ++ [p] }
  | answer {c : Channel ι φ} {p : ι} {rest : List ι} {clear : Bool} : c.asking = p :: rest →
      (clear ↔ c.Clear) → Step collides carries c [.answer p clear] { c with asking := rest }
  | send {c : Channel ι φ} {p : ι} {f : φ} : p ∈ c.joined → c.sending p = none →
      Step collides carries c [.send p f] (c.send collides p f)
  | deliver {c : Channel ι φ} {p : ι} {f g : φ} : c.sending p = some f → p ∉ c.spoilt →
      carries f g → Step collides carries c [.finish p true, .deliver p g] (c.finish p)
  | fail {c : Channel ι φ} {p : ι} {f : φ} : c.sending p = some f → p ∈ c.spoilt →
      Step collides carries c [.finish p false] (c.finish p)
  | leave {c : Channel ι φ} {p : ι} (told : Bool) : p ∈ c.invited ∪ c.joined →
      c.sending p = none → p ∉ c.asking →
      Step collides carries c ((if told then [.release p] else []) ++ [.leave p]) (c.leave p)

/-- What a channel may do. -/
def spec (collides : Prop) (carries : φ → φ → Prop) : Specification (Channel ι φ) (Act ι φ) where
  init c := c = empty
  step := Step collides carries

theorem Step.does {collides : Prop} {carries : φ → φ → Prop} {c c' : Channel ι φ}
    {seen : List (Act ι φ)} (h : Step collides carries c seen c') :
  (spec collides carries).Does c seen c'
  := Specification.Does.one h

/-! ### Frames sent and delivered -/

/-- The frame that a station is seen to send. -/
def Act.sent (p : ι) : Act ι φ → Option φ
  | .send q f => if q = p then some f else none
  | _ => none

/-- The frame that is seen to be delivered from a station. -/
def Act.delivered (p : ι) : Act ι φ → Option φ
  | .deliver q f => if q = p then some f else none
  | _ => none

/-- The frames that a station is seen to send, in order. -/
def sentBy (p : ι) (seen : List (Act ι φ)) : List φ := seen.filterMap (Act.sent p)

/-- The frames that are seen to be delivered from a station, in order. -/
def deliveredFrom (p : ι) (seen : List (Act ι φ)) : List φ := seen.filterMap (Act.delivered p)

variable {collides : Prop} {carries : φ → φ → Prop} {c c' : Channel ι φ} {p : ι}
  {seen more : List (Act ι φ)}

/-- Frames arrive: what has been delivered from a station is carried from frames that it has sent,
each at most once and in their order, and on a channel that does not collide from all of them but
the one that it is sending. -/
def Arrive (collides : Prop) (carries : φ → φ → Prop) (p : ι) (seen : List (Act ι φ))
    (c : Channel ι φ) : Prop :=
  ∃ arrived, List.Forall₂ carries arrived (deliveredFrom p seen) ∧
    (arrived ++ (c.sending p).toList).Sublist (sentBy p seen) ∧
    (¬ collides → arrived ++ (c.sending p).toList = sentBy p seen)

theorem Arrive.empty (collides : Prop) (carries : φ → φ → Prop) (p : ι) :
  Arrive collides carries p [] empty
  := by
  use []
  simp [deliveredFrom, sentBy, Channel.empty]

/-- Nothing is sent by the station, and nothing is delivered from it. -/
theorem Arrive.neutral (h : Arrive collides carries p seen c)
    (hsent : ∀ act ∈ more, act.sent p = none) (hdelivered : ∀ act ∈ more, act.delivered p = none)
    (hsame : c'.sending p = c.sending p) :
  Arrive collides carries p (seen ++ more) c'
  := by
  have hsent' : sentBy p (seen ++ more) = sentBy p seen := by
    rw [sentBy, List.filterMap_append, List.filterMap_eq_nil_iff.mpr hsent, List.append_nil]
    rfl
  have hdelivered' : deliveredFrom p (seen ++ more) = deliveredFrom p seen := by
    rw [deliveredFrom, List.filterMap_append, List.filterMap_eq_nil_iff.mpr hdelivered,
      List.append_nil]
    rfl
  rw [Arrive, hsent', hdelivered', hsame]
  apply h

/-- The station starts to send a frame. -/
theorem Arrive.send {f : φ} (h : Arrive collides carries p seen c) (hnone : c.sending p = none) :
  Arrive collides carries p (seen ++ [.send p f]) (c.send collides p f)
  := by
  obtain ⟨arrived, hcarried, hsub, hall⟩ := h
  rw [hnone, Option.toList_none, List.append_nil] at hsub hall
  have hsent : sentBy p (seen ++ [.send p f]) = sentBy p seen ++ [f] := by
    simp [sentBy, Act.sent]
  have hdelivered : deliveredFrom p (seen ++ [.send p f]) = deliveredFrom p seen := by
    simp [deliveredFrom, Act.delivered]
  have hsending : ((c.send collides p f).sending p).toList = [f] := by simp
  use arrived
  rw [hsent, hdelivered, hsending]
  refine ⟨hcarried, hsub.append_right [f], ?_⟩
  intro hcollides
  rw [hall hcollides]

/-- The frame of the station is delivered. -/
theorem Arrive.deliver {f g : φ} (h : Arrive collides carries p seen c)
    (hsome : c.sending p = some f) (hcarries : carries f g) :
  Arrive collides carries p (seen ++ [.finish p true, .deliver p g]) (c.finish p)
  := by
  obtain ⟨arrived, hcarried, hsub, hall⟩ := h
  rw [hsome, Option.toList_some] at hsub hall
  have hsent : sentBy p (seen ++ [.finish p true, .deliver p g]) = sentBy p seen := by
    simp [sentBy, Act.sent]
  have hdelivered : deliveredFrom p (seen ++ [.finish p true, .deliver p g])
      = deliveredFrom p seen ++ [g] := by
    simp [deliveredFrom, List.filterMap_cons, Act.delivered]
  have hsending : ((c.finish p).sending p).toList = [] := by simp
  use arrived ++ [f]
  rw [hsent, hdelivered, hsending, List.append_nil]
  exact ⟨List.rel_append hcarried (.cons hcarries .nil), hsub, hall⟩

/-- The frame of the station is lost, on a channel that collides. -/
theorem Arrive.fail {f : φ} (h : Arrive collides carries p seen c) (hsome : c.sending p = some f)
    (hcollides : collides) :
  Arrive collides carries p (seen ++ [.finish p false]) (c.finish p)
  := by
  obtain ⟨arrived, hcarried, hsub, -⟩ := h
  rw [hsome, Option.toList_some] at hsub
  have hsent : sentBy p (seen ++ [.finish p false]) = sentBy p seen := by
    simp [sentBy, Act.sent]
  have hdelivered : deliveredFrom p (seen ++ [.finish p false]) = deliveredFrom p seen := by
    simp [deliveredFrom, Act.delivered]
  have hsending : ((c.finish p).sending p).toList = [] := by simp
  use arrived
  rw [hsent, hdelivered, hsending, List.append_nil]
  exact ⟨hcarried, (List.sublist_append_left _ _).trans hsub, fun hnot => absurd hcollides hnot⟩

/-- What is done on a channel keeps that frames arrive, and that nothing is spoilt on a channel that
does not collide. -/
theorem Step.arrive (h : Step collides carries c more c')
    (harrive : Arrive collides carries p seen c) (hclean : ¬ collides → c.spoilt = ∅) :
  Arrive collides carries p (seen ++ more) c' ∧ (¬ collides → c'.spoilt = ∅)
  := by
  cases h with
  | invite => exact ⟨harrive.neutral (by simp [Act.sent]) (by simp [Act.delivered]) rfl, hclean⟩
  | join => exact ⟨harrive.neutral (by simp) (by simp) rfl, hclean⟩
  | ask => exact ⟨harrive.neutral (by simp [Act.sent]) (by simp [Act.delivered]) rfl, hclean⟩
  | answer => exact ⟨harrive.neutral (by simp [Act.sent]) (by simp [Act.delivered]) rfl, hclean⟩
  | @send q f _ hnone =>
      constructor
      · by_cases hq : q = p
        · subst hq
          apply harrive.send hnone
        · apply harrive.neutral
          · simp [Act.sent, hq]
          · simp [Act.delivered]
          · apply send_sending_of_ne (Ne.symm hq)
      · intro hcollides
        simp [Channel.send, hclean hcollides, hcollides]
  | @deliver q f g hsome _ hcarries =>
      constructor
      · by_cases hq : q = p
        · subst hq
          apply harrive.deliver hsome hcarries
        · apply harrive.neutral
          · simp [Act.sent]
          · simp [Act.delivered, hq]
          · apply finish_sending_of_ne (Ne.symm hq)
      · intro hcollides
        rw [Channel.finish, hclean hcollides]
        apply Set.empty_sdiff
  | @fail q f hsome hspoilt =>
      have hcollides : collides := by
        by_contra hnot
        rw [hclean hnot] at hspoilt
        apply hspoilt
      constructor
      · by_cases hq : q = p
        · subst hq
          apply harrive.fail hsome hcollides
        · apply harrive.neutral
          · simp [Act.sent]
          · simp [Act.delivered]
          · apply finish_sending_of_ne (Ne.symm hq)
      · intro hnot
        apply absurd hcollides hnot
  | leave told =>
      refine ⟨harrive.neutral ?_ ?_ rfl, hclean⟩
      · cases told <;> simp [Act.sent]
      · cases told <;> simp [Act.delivered]

/-- On every channel frames arrive. -/
theorem arrive_of_does (h : (spec collides carries).Does empty seen c) (p : ι) :
  Arrive collides carries p seen c
  := by
  have hkept : Arrive collides carries p seen c ∧ (¬ collides → c.spoilt = ∅) := by
    apply h.invariant (P := fun seen c => Arrive collides carries p seen c ∧
      (¬ collides → c.spoilt = ∅))
    · exact ⟨Arrive.empty .., fun _ => rfl⟩
    · rintro seen more b c ⟨harrive, hclean⟩ hstep
      apply Step.arrive hstep harrive hclean
  apply hkept.1

end Channel

end X6losim
