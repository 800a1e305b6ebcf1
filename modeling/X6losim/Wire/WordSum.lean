import X6losim.Lib.OnesComplement
import X6losim.Wire.Checksum

/-!
# The checksum as a ones'-complement sum

What `generateChecksum` complements is the ones'-complement sum of the words of a message, in the
byte order of the host.  No message has so many words that the accumulator, an `int`, overflows,
and two folds leave no carry.
-/

open Bytes

namespace X6losim

/-- The 16-bit words of a message in the byte order of a host.  A last odd byte is followed by a
byte of zero. -/
def words (host : ByteOrder) : List UInt8 → List Nat
  | b₀ :: b₁ :: rest => host.load [b₀, b₁] :: words host rest
  | [b] => [host.load [b, 0]]
  | [] => []

/-- The values `cksum` takes in the word loop of `generate_checksum`. -/
def addWordsValues (host : ByteOrder) (cksum : Nat) : List UInt8 → List Nat
  | b₀ :: b₁ :: rest =>
      let cksum := cksum + host.load [b₀, b₁]
      cksum :: addWordsValues host cksum rest
  | [b] => [cksum + host.hton 2 (b.toNat <<< 8)]
  | [] => []

/-- The values `cksum` takes in `generate_checksum`. -/
def cksumValues (host : ByteOrder) (msg : List UInt8) : List Nat :=
  let cksum := addWords host 0 msg
  let folded := (cksum >>> 16) + (cksum &&& 0xffff)
  0 :: addWordsValues host 0 msg ++ [folded, folded + (folded >>> 16)]

variable {host : ByteOrder} {msg : List UInt8}

/-! ### Words -/

theorem load_lt (host : ByteOrder) (b₀ b₁ : UInt8) :
  host.load [b₀, b₁] < 2 ^ 16
  := by
  have hlt : host.load [b₀, b₁] < 256 ^ [b₀, b₁].length := by
    cases host with
    | little => apply ofLE_lt
    | big => apply ofBE_lt
  simp only [List.length_cons, List.length_nil] at hlt
  omega

/-- `htons` of a byte in the high half is that byte at the lower address. -/
theorem hton_shift (host : ByteOrder) (b : UInt8) :
  host.hton 2 (b.toNat <<< 8) = host.load [b, 0]
  := by
  have hshift : b.toNat <<< 8 = b.toNat * 256 := Nat.shiftLeft_eq ..
  cases host with
  | little =>
      rw [hshift]
      simp [ByteOrder.hton, ByteOrder.load, toLE, ofBE, ofLE]
  | big =>
      rw [hshift]
      simp [ByteOrder.hton, ByteOrder.load, ofBE, ofLE, Nat.mul_comm]

theorem words_lt (host : ByteOrder) (msg : List UInt8) :
  ∀ n ∈ words host msg, n < 2 ^ 16
  := by
  induction msg using words.induct with
  | case1 b₀ b₁ rest ih =>
      intro n hn
      rcases List.mem_cons.mp hn with rfl | hn
      · apply load_lt
      · apply ih n hn
  | case2 b =>
      intro n hn
      obtain rfl := List.mem_singleton.mp hn
      apply load_lt
  | case3 => simp [words]

/-- The word loop adds the words up. -/
theorem addWords_eq (cksum : Nat) :
  addWords host cksum msg = cksum + (words host msg).sum
  := by
  induction msg using words.induct generalizing cksum with
  | case1 b₀ b₁ rest ih => rw [addWords, ih, words, List.sum_cons, Nat.add_assoc]
  | case2 b => simp [addWords, words, hton_shift]
  | case3 => simp [addWords, words]

/-- The words of a message are at most 65535 each, and there are half as many as bytes, and one more
when the last byte is alone. -/
theorem sum_words_le (host : ByteOrder) (msg : List UInt8) :
  2 * (words host msg).sum ≤ 65535 * (msg.length + 1)
  := by
  induction msg using words.induct with
  | case1 b₀ b₁ rest ih =>
      have hload := load_lt host b₀ b₁
      simp only [words, List.sum_cons, List.length_cons]
      omega
  | case2 b =>
      have hload := load_lt host b 0
      simp only [words, List.sum_cons, List.sum_nil, List.length_cons, List.length_nil]
      omega
  | case3 => simp [words]

/-- The words of a message whose first part is as long as some words. -/
theorem words_append {msg' : List UInt8} (heven : 2 ∣ msg.length) :
  words host (msg ++ msg') = words host msg ++ words host msg'
  := by
  induction msg using words.induct with
  | case1 b₀ b₁ rest ih =>
      have hrest : 2 ∣ rest.length := by
        simp only [List.length_cons] at heven
        omega
      simp only [List.cons_append, words, ih hrest]
  | case2 b => simp at heven
  | case3 => simp [words]

/-! ### The accumulator -/

/-- The accumulator only grows in the word loop. -/
theorem addWordsValues_le {cksum v : Nat} (hv : v ∈ addWordsValues host cksum msg) :
  v ≤ addWords host cksum msg
  := by
  induction msg using words.induct generalizing cksum with
  | case1 b₀ b₁ rest ih =>
      rw [addWordsValues] at hv
      rcases List.mem_cons.mp hv with rfl | hv
      · rw [addWords, addWords_eq]
        apply Nat.le_add_right
      · apply ih hv
  | case2 b =>
      obtain rfl := List.mem_singleton.mp hv
      apply le_refl
  | case3 => cases hv

theorem addWords_lt (host : ByteOrder) (hlen : msg.length ≤ 65535) :
  addWords host 0 msg < 2 ^ 31
  := by
  have hsum := sum_words_le host msg
  rw [addWords_eq]
  omega

theorem fold_eq (n : Nat) :
  (n >>> 16) + (n &&& 0xffff) = OnesComplement.fold 16 n
  := by
  have hmask : n &&& 0xffff = n % 2 ^ 16 := Nat.and_two_pow_sub_one_eq_mod n 16
  rw [OnesComplement.fold, Nat.shiftRight_eq_div_pow, hmask]

/-- Of a number the accumulator can hold, two folds leave no carry: the second one need not mask
what it adds the carry to. -/
theorem fold_fold {n : Nat} (hn : n < 2 ^ 31) :
  (OnesComplement.fold 16 n + (OnesComplement.fold 16 n >>> 16)) % 0x10000
    = OnesComplement.residue 16 n
  := by
  have hlt : OnesComplement.fold 16 (OnesComplement.fold 16 n) < 2 ^ 16 := by
    simp only [OnesComplement.fold]
    omega
  have htwice : (OnesComplement.fold 16 n + (OnesComplement.fold 16 n >>> 16)) % 0x10000
      = OnesComplement.fold 16 (OnesComplement.fold 16 n) := by
    rw [Nat.shiftRight_eq_div_pow]
    simp only [OnesComplement.fold] at hlt ⊢
    omega
  rw [htwice, ← OnesComplement.residue_of_lt hlt, OnesComplement.residue_fold,
    OnesComplement.residue_fold]

/-- The checksum of a message is the complement of what stands for the sum of its words. -/
theorem generateChecksum_eq (host : ByteOrder) (hlen : msg.length ≤ 65535) :
  generateChecksum host msg = 0xffff - OnesComplement.residue 16 (words host msg).sum
  := by
  have hsum : addWords host 0 msg = (words host msg).sum := by rw [addWords_eq, Nat.zero_add]
  simp only [generateChecksum, fold_eq]
  rw [fold_fold (addWords_lt host hlen), hsum]

/-- On a little-endian host the accumulator does not overflow, and the checksum is the complement
of the ones'-complement sum of the little-endian words. -/
theorem generateChecksum_internet (hlen : msg.length ≤ 65535) :
  (∀ v ∈ cksumValues .little msg, v ≤ 2 ^ 31 - 1) ∧
    generateChecksum .little msg
      = (~~~ BitVec.ofNat 16 (OnesComplement.sum 16 (words .little msg))).toNat
  := by
  have hlt := addWords_lt .little hlen
  constructor
  · intro v hv
    have hfold : OnesComplement.fold 16 (addWords .little 0 msg) < 2 ^ 17 := by
      simp only [OnesComplement.fold]
      omega
    simp only [cksumValues, fold_eq, List.cons_append, List.mem_cons, List.mem_append,
      List.not_mem_nil, or_false] at hv
    rcases hv with rfl | hv | rfl | rfl
    · apply Nat.zero_le
    · have hle := addWordsValues_le hv
      omega
    · omega
    · rw [Nat.shiftRight_eq_div_pow]
      omega
  · have hsum := OnesComplement.sum_eq_residue (by decide) (words_lt .little msg)
    have hres := OnesComplement.residue_lt (w := 16) (by decide) (words .little msg).sum
    rw [generateChecksum_eq .little hlen, hsum, BitVec.toNat_not, BitVec.toNat_ofNat,
      Nat.mod_eq_of_lt hres]

theorem generateChecksum_internet_odd :
  (∀ v ∈ cksumValues .little [0xff, 0xff, 0x02], v ≤ 2 ^ 31 - 1) ∧
    generateChecksum .little [0xff, 0xff, 0x02]
      = (~~~ BitVec.ofNat 16 (OnesComplement.sum 16 (words .little [0xff, 0xff, 0x02]))).toNat
  := generateChecksum_internet (by decide)

end X6losim
