import X6losim.Wire.Grammar
import X6losim.Wire.WordSum

/-!
# Corrupted words

A frame of which one word has been changed after it was sent does not verify, but for the two words
that the ones'-complement sum cannot tell apart.
-/

open Bytes

namespace X6losim

variable {host : ByteOrder} {k : Nat} {msg msg' frame frame' : List UInt8}

/-- The bytes of an aligned 16-bit word of a frame: a last odd byte is a word of its own. -/
def wordAt (k : Nat) (frame : List UInt8) : List UInt8 := (frame.drop (2 * k)).take 2

/-- Two frames of the same length that are the same but for one aligned word. -/
structure AgreeBut (k : Nat) (frame frame' : List UInt8) : Prop where
  length : frame'.length = frame.length
  same : ∀ j, j / 2 ≠ k → frame'[j]? = frame[j]?

theorem split_wordAt (k : Nat) (frame : List UInt8) :
  frame = frame.take (2 * k) ++ (wordAt k frame ++ frame.drop (2 * k + 2))
  := by
  rw [wordAt, ← List.drop_drop, List.take_append_drop, List.take_append_drop]

/-- The words of a frame are those before one of its words, that word, and those after it. -/
theorem sum_words_split (host : ByteOrder) (hk : 2 * k ≤ frame.length) :
  (words host frame).sum = (words host (frame.take (2 * k))).sum +
    ((words host (wordAt k frame)).sum + (words host (frame.drop (2 * k + 2))).sum)
  := by
  have hbefore : 2 ∣ (frame.take (2 * k)).length := by
    rw [List.length_take, min_eq_left hk]
    apply Nat.dvd_mul_right
  have hrest : words host (wordAt k frame ++ frame.drop (2 * k + 2))
      = words host (wordAt k frame) ++ words host (frame.drop (2 * k + 2)) := by
    by_cases htwo : 2 * k + 2 ≤ frame.length
    · apply words_append
      rw [wordAt, List.length_take, List.length_drop, min_eq_left (by omega)]
    · rw [List.drop_eq_nil_of_le (by omega : frame.length ≤ 2 * k + 2)]
      simp [words]
  conv_lhs => rw [split_wordAt k frame]
  rw [words_append hbefore, hrest, List.sum_append, List.sum_append]

theorem load_inj {b₀ b₁ b₀' b₁' : UInt8} (h : host.load [b₀', b₁'] = host.load [b₀, b₁]) :
  [b₀', b₁'] = [b₀, b₁]
  := by
  cases host with
  | little =>
      have hbytes : ofLE [b₀', b₁'] = ofLE [b₀, b₁] := h
      have hback := toLE_ofLE [b₀', b₁']
      rw [hbytes] at hback
      apply hback.symm.trans (toLE_ofLE [b₀, b₁])
  | big => apply ofBE_inj (by simp) h

/-- Words as a host loads them are the same when they are congruent modulo 65535, or one is zero
and the other 0xFFFF. -/
theorem load_congr {b₀ b₁ b₀' b₁' : UInt8}
    (hmod : host.load [b₀, b₁] ≡ host.load [b₀', b₁'] [MOD 2 ^ 16 - 1]) :
  [b₀', b₁'] = [b₀, b₁] ∨ ([b₀, b₁] = [0, 0] ∧ [b₀', b₁'] = [0xff, 0xff]) ∨
    ([b₀, b₁] = [0xff, 0xff] ∧ [b₀', b₁'] = [0, 0])
  := by
  have hlt := load_lt host b₀ b₁
  have hlt' := load_lt host b₀' b₁'
  have hzero : host.load [0, 0] = 0 := by cases host <;> rfl
  have hones : host.load [0xff, 0xff] = 65535 := by cases host <;> rfl
  rw [Nat.ModEq] at hmod
  obtain heq | ⟨h, h'⟩ | ⟨h, h'⟩ : host.load [b₀', b₁'] = host.load [b₀, b₁] ∨
      (host.load [b₀, b₁] = 0 ∧ host.load [b₀', b₁'] = 65535) ∨
      (host.load [b₀, b₁] = 65535 ∧ host.load [b₀', b₁'] = 0) := by omega
  · left
    apply load_inj heq
  · right; left
    exact ⟨load_inj (h.trans hzero.symm), load_inj (h'.trans hones.symm)⟩
  · right; right
    exact ⟨load_inj (h.trans hones.symm), load_inj (h'.trans hzero.symm)⟩

/-- Words that are congruent modulo 65535 are the same, or one is zero and the other 0xFFFF. -/
theorem word_congr {w w' : List UInt8} (hlength : w'.length = w.length) (htwo : w.length ≤ 2)
    (hmod : (words host w).sum ≡ (words host w').sum [MOD 2 ^ 16 - 1]) :
  w' = w ∨ (w = [0, 0] ∧ w' = [0xff, 0xff]) ∨ (w = [0xff, 0xff] ∧ w' = [0, 0])
  := by
  match w, w', hlength, htwo with
  | [], [], _, _ =>
      left
      rfl
  | [b], [b'], _, _ =>
      left
      simp only [words, List.sum_singleton] at hmod
      rcases load_congr hmod with h | ⟨-, h⟩ | ⟨h, -⟩
      · simpa using h
      · simp at h
      · simp at h
  | [b₀, b₁], [b₀', b₁'], _, _ =>
      simp only [words, List.sum_singleton] at hmod
      apply load_congr hmod

/-! ### Frames that agree but for a word -/

theorem length_wordAt_le (k : Nat) (frame : List UInt8) :
  (wordAt k frame).length ≤ 2
  := by
  rw [wordAt, List.length_take]
  apply min_le_left

/-- Blanking the checksum leaves the other words as they are. -/
theorem wordAt_blankCksum (hsize : Hdr.size ≤ frame.length) (hk : k ≠ 8) :
  wordAt k (blankCksum frame) = wordAt k frame
  := by
  apply take_drop_of_write (write_blankCksum hsize)
  rw [length_toBE]
  simp only [Hdr.cksum]
  omega

namespace AgreeBut

theorem length_wordAt (h : AgreeBut k frame frame') :
  (wordAt k frame').length = (wordAt k frame).length
  := by
  rw [wordAt, wordAt, List.length_take, List.length_take, List.length_drop, List.length_drop,
    h.length]

theorem before (h : AgreeBut k frame frame') :
  frame'.take (2 * k) = frame.take (2 * k)
  := by
  apply List.ext_getElem?
  intro j
  by_cases hj : j < 2 * k
  · rw [List.getElem?_take_of_lt hj, List.getElem?_take_of_lt hj]
    apply h.same
    omega
  · rw [List.getElem?_take_eq_none (by omega), List.getElem?_take_eq_none (by omega)]

theorem after (h : AgreeBut k frame frame') :
  frame'.drop (2 * k + 2) = frame.drop (2 * k + 2)
  := by
  apply List.ext_getElem?
  intro j
  rw [List.getElem?_drop, List.getElem?_drop]
  apply h.same
  omega

theorem wordAt_ne {i : Nat} (h : AgreeBut k frame frame') (hi : i ≠ k) :
  wordAt i frame' = wordAt i frame
  := by
  apply List.ext_getElem?
  intro j
  rw [wordAt, wordAt]
  by_cases hj : j < 2
  · rw [List.getElem?_take_of_lt hj, List.getElem?_take_of_lt hj, List.getElem?_drop,
      List.getElem?_drop]
    apply h.same
    omega
  · rw [List.getElem?_take_eq_none (by omega), List.getElem?_take_eq_none (by omega)]

theorem blankCksum (h : AgreeBut k frame frame') (hsize : Hdr.size ≤ frame.length) :
  AgreeBut k (blankCksum frame) (blankCksum frame')
  := by
  have hsize' : Hdr.size ≤ frame'.length := by
    rw [h.length]
    apply hsize
  constructor
  · rw [length_blankCksum hsize, length_blankCksum hsize', h.length]
  · intro j hj
    rw [getElem?_of_write (write_blankCksum hsize), getElem?_of_write (write_blankCksum hsize'),
      h.same j hj]

/-- The sums of the words of two such frames are congruent only when the two words are. -/
theorem modEq_words (h : AgreeBut k frame frame')
    (hmod : (words host frame).sum ≡ (words host frame').sum [MOD 2 ^ 16 - 1]) :
  (words host (wordAt k frame)).sum ≡ (words host (wordAt k frame')).sum [MOD 2 ^ 16 - 1]
  := by
  by_cases hk : 2 * k ≤ frame.length
  · have hk' : 2 * k ≤ frame'.length := by
      rw [h.length]
      apply hk
    rw [sum_words_split host hk, sum_words_split host hk', h.before, h.after] at hmod
    apply Nat.ModEq.add_right_cancel' _ (Nat.ModEq.add_left_cancel' _ hmod)
  · have hnone : ∀ {f : List UInt8}, f.length ≤ 2 * k → wordAt k f = [] := by
      intro f hf
      rw [wordAt, List.drop_eq_nil_of_le hf, List.take_nil]
    rw [hnone (by omega), hnone (by rw [h.length]; omega)]

end AgreeBut

/-- A frame with a single byte changed. -/
theorem agreeBut_set (frame : List UInt8) (j : Nat) (b : UInt8) :
  AgreeBut (j / 2) frame (frame.set j b)
  := by
  constructor
  · rw [List.length_set]
  · intro i hi
    apply List.getElem?_set_ne
    rintro rfl
    apply hi rfl

/-- Every change of one word other than the length word is detected, unless it turns 0x0000 into
0xFFFF or back. -/
theorem corruption_detected (hsize : Hdr.size ≤ frame.length) (hlen : frame.length ≤ 65535)
    (hverifies : CksumVerifies host frame) (hk : 1 ≤ k) (hagree : AgreeBut k frame frame')
    (hne : wordAt k frame' ≠ wordAt k frame)
    (hset : ¬ (wordAt k frame = [0, 0] ∧ wordAt k frame' = [0xff, 0xff]))
    (hclear : ¬ (wordAt k frame = [0xff, 0xff] ∧ wordAt k frame' = [0, 0])) :
  ¬ CksumVerifies host frame'
  := by
  intro hverifies'
  have hblank := hagree.blankCksum hsize
  have hlen₁ : (blankCksum frame).length ≤ 65535 := by
    rw [length_blankCksum hsize]
    apply hlen
  have hlen₂ : (blankCksum frame').length ≤ 65535 := by
    rw [hblank.length]
    apply hlen₁
  rw [CksumVerifies, Field.value] at hverifies hverifies'
  by_cases hfield : k = 8
  · -- The checksum of the frame is as it was, and the field has changed.
    subst hfield
    have hsame : blankCksum frame' = blankCksum frame := by
      have hbefore : frame'.take Hdr.cksum.offset = frame.take Hdr.cksum.offset := hagree.before
      have hafter : frame'.drop (Hdr.cksum.offset + Hdr.cksum.size)
          = frame.drop (Hdr.cksum.offset + Hdr.cksum.size) := hagree.after
      rw [blankCksum, blankCksum, hbefore, hafter]
    rw [hsame, hverifies] at hverifies'
    apply hne (ofBE_inj hagree.length_wordAt hverifies'.symm)
  · -- The field is as it was, and the sum of the words has changed.
    have hsame : Hdr.cksum.bytes frame' = Hdr.cksum.bytes frame :=
      hagree.wordAt_ne (Ne.symm hfield)
    rw [hsame, ← hverifies, generateChecksum_eq host hlen₁, generateChecksum_eq host hlen₂]
      at hverifies'
    have hlt := OnesComplement.residue_lt (w := 16) (by decide) (words host (blankCksum frame)).sum
    have hlt' := OnesComplement.residue_lt (w := 16) (by decide)
      (words host (blankCksum frame')).sum
    have hresidue : OnesComplement.residue 16 (words host (blankCksum frame)).sum
        = OnesComplement.residue 16 (words host (blankCksum frame')).sum := by omega
    have hmod := hblank.modEq_words (OnesComplement.residue_eq_iff.mp hresidue).2
    have hsize' : Hdr.size ≤ frame'.length := by
      rw [hagree.length]
      apply hsize
    rw [wordAt_blankCksum hsize hfield, wordAt_blankCksum hsize' hfield] at hmod
    rcases word_congr hagree.length_wordAt (length_wordAt_le k frame) hmod with h | h | h
    · apply hne h
    · apply hset h
    · apply hclear h

theorem corruption_detected_nodeId :
  ¬ CksumVerifies .little
    ([0, 18, 0, 4, 0, 0, 0, 1, 0, 0, 0, 0, 0, 0, 0, 0, 0xe8, 0xff].set 15 1)
  := corruption_detected (by decide) (by decide) (by decide) (by decide) (agreeBut_set _ 15 1)
    (by decide) (by decide) (by decide)

end X6losim
