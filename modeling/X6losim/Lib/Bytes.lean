import Mathlib.Tactic.Common
import Mathlib.Tactic.Ring
import Mathlib.Algebra.Order.Ring.Nat

/-!
# Byte orders and bounded buffers

Unsigned integers of `k` bytes as numbers below `256 ^ k`, their two representations in
memory, and the conversions between the order of a host and the order of a network, which
is big-endian.  A buffer is a list of bytes; reading or writing outside it is refused.
-/

namespace Bytes

/-- The number whose bytes are given, least significant first. -/
def ofLE : List UInt8 → Nat
  | [] => 0
  | b :: bs => b.toNat + 256 * ofLE bs

/-- The number whose bytes are given, most significant first. -/
def ofBE (bs : List UInt8) : Nat := ofLE bs.reverse

/-- The `k` low bytes of a number, least significant first. -/
def toLE : Nat → Nat → List UInt8
  | 0, _ => []
  | k + 1, n => UInt8.ofNat n :: toLE k (n / 256)

/-- The `k` low bytes of a number, most significant first. -/
def toBE (k n : Nat) : List UInt8 := (toLE k n).reverse

@[simp]
theorem length_toLE (k n : Nat) :
  (toLE k n).length = k
  := by
  induction k generalizing n with
  | zero => rfl
  | succ k ih => simp [toLE, ih]

@[simp]
theorem length_toBE (k n : Nat) :
  (toBE k n).length = k
  := by
  simp [toBE]

theorem ofLE_lt (bs : List UInt8) :
  ofLE bs < 256 ^ bs.length
  := by
  induction bs with
  | nil => simp [ofLE]
  | cons b bs ih =>
      have hb := b.toNat_lt
      simp only [ofLE, List.length_cons, pow_succ]
      omega

theorem ofBE_lt (bs : List UInt8) :
  ofBE bs < 256 ^ bs.length
  := by
  have h := ofLE_lt bs.reverse
  rw [List.length_reverse] at h
  apply h

/-- Writing out a number's bytes and reading them back gives the number modulo `256 ^ k`. -/
theorem ofLE_toLE (k n : Nat) :
  ofLE (toLE k n) = n % 256 ^ k
  := by
  induction k generalizing n with
  | zero => simp [toLE, ofLE, Nat.mod_one]
  | succ k ih =>
      have h := Nat.mod_mul (a := 256) (b := 256 ^ k) (x := n)
      simp only [toLE, ofLE, ih, UInt8.toNat_ofNat', pow_succ]
      rw [mul_comm (256 ^ k) 256, h]
      rfl

/-- Reading bytes as a number and writing it out again gives the bytes. -/
theorem toLE_ofLE (bs : List UInt8) :
  toLE bs.length (ofLE bs) = bs
  := by
  induction bs with
  | nil => rfl
  | cons b bs ih =>
      have hb := b.toNat_lt
      have hdiv : (b.toNat + 256 * ofLE bs) / 256 = ofLE bs := by omega
      simp only [ofLE, List.length_cons, toLE, hdiv, ih, List.cons.injEq, and_true]
      apply UInt8.toNat_inj.mp
      rw [UInt8.toNat_ofNat']
      omega

theorem ofBE_toBE (k n : Nat) :
  ofBE (toBE k n) = n % 256 ^ k
  := by
  rw [ofBE, toBE, List.reverse_reverse, ofLE_toLE]

theorem toBE_ofBE (bs : List UInt8) :
  toBE bs.length (ofBE bs) = bs
  := by
  have hreverse := toLE_ofLE bs.reverse
  rw [List.length_reverse] at hreverse
  rw [toBE, ofBE, hreverse, List.reverse_reverse]

/-- As many bytes that hold the same number are the same. -/
theorem ofBE_inj {bs bs' : List UInt8} (hlength : bs'.length = bs.length) (h : ofBE bs' = ofBE bs) :
  bs' = bs
  := by
  rw [← toBE_ofBE bs', ← toBE_ofBE bs, hlength, h]

/-- The order in which a host keeps the bytes of an integer in memory. -/
inductive ByteOrder where
  | little
  | big
deriving DecidableEq, Repr

namespace ByteOrder

/-- The integer a host reads from the given bytes of its memory. -/
def load : ByteOrder → List UInt8 → Nat
  | little, bs => ofLE bs
  | big, bs => ofBE bs

/-- The bytes a host keeps an integer of `k` bytes in. -/
def store : ByteOrder → Nat → Nat → List UInt8
  | little, k, n => toLE k n
  | big, k, n => toBE k n

/-- The host's conversion of a `k`-byte integer to network order: on a little-endian host
the bytes are reversed, on a big-endian one nothing is done. -/
def hton : ByteOrder → Nat → Nat → Nat
  | little, k, n => ofBE (toLE k n)
  | big, _, n => n

/-- The host's conversion of a `k`-byte integer from network order. -/
def ntoh (host : ByteOrder) (k n : Nat) : Nat := host.hton k n

@[simp]
theorem length_store (host : ByteOrder) (k n : Nat) :
  (host.store k n).length = k
  := by
  cases host <;> simp [store]

/-- On either host, loading bytes and converting from network order reads them most
significant first. -/
theorem ntoh_load (host : ByteOrder) (bs : List UInt8) :
  host.ntoh bs.length (host.load bs) = ofBE bs
  := by
  cases host with
  | little => simp only [ntoh, hton, load, toLE_ofLE]
  | big => rfl

/-- On either host, converting to network order and storing writes the most significant
byte first. -/
theorem store_hton (host : ByteOrder) (k n : Nat) :
  host.store k (host.hton k n) = toBE k n
  := by
  cases host with
  | little =>
      have h := toLE_ofLE (toLE k n).reverse
      rw [List.length_reverse, length_toLE] at h
      apply h
  | big => rfl

end ByteOrder

/-! ### Bounded buffers -/

section Buffer

variable {ε : Type}

/-- Reading `n` bytes from an offset on, refused with `outside` when they are not all in
the buffer. -/
def read (outside : ε) (buf : List UInt8) (offset n : Nat) : Except ε (List UInt8) :=
  if offset + n ≤ buf.length then .ok ((buf.drop offset).take n) else .error outside

/-- Writing bytes from an offset on, refused with `outside` when they do not all fit in the
buffer. -/
def write (outside : ε) (buf : List UInt8) (offset : Nat) (bs : List UInt8) :
    Except ε (List UInt8) :=
  if offset + bs.length ≤ buf.length then
    .ok (buf.take offset ++ bs ++ buf.drop (offset + bs.length))
  else .error outside

theorem read_ok (outside : ε) {buf : List UInt8} {offset n : Nat}
    (h : offset + n ≤ buf.length) :
  read outside buf offset n = .ok ((buf.drop offset).take n)
  := if_pos h

theorem write_ok (outside : ε) {buf bs : List UInt8} {offset : Nat}
    (h : offset + bs.length ≤ buf.length) :
  write outside buf offset bs = .ok (buf.take offset ++ bs ++ buf.drop (offset + bs.length))
  := if_pos h

theorem read_outside (outside : ε) {buf : List UInt8} {offset n : Nat}
    (h : buf.length < offset + n) :
  read outside buf offset n = .error outside
  := if_neg (not_le_of_gt h)

theorem write_outside (outside : ε) {buf bs : List UInt8} {offset : Nat}
    (h : buf.length < offset + bs.length) :
  write outside buf offset bs = .error outside
  := if_neg (not_le_of_gt h)

/-- Writing behind what is at the beginning of a buffer. -/
theorem write_behind (outside : ε) (start : List UInt8) {rest bs : List UInt8}
    (h : bs.length ≤ rest.length) :
  write outside (start ++ rest) start.length bs = .ok (start ++ (bs ++ rest.drop bs.length))
  := by
  rw [write_ok outside (by simp; omega), List.take_left, List.append_assoc, List.drop_append]
  simp

/-- A write keeps the size of the buffer. -/
theorem length_of_write {outside : ε} {buf bs buf' : List UInt8} {offset : Nat}
    (h : write outside buf offset bs = .ok buf') :
  buf'.length = buf.length
  := by
  unfold write at h
  split at h
  · obtain rfl := Except.ok.inj h
    simp only [List.length_append, List.length_take, List.length_drop]
    omega
  · cases h

/-- Bytes that lie apart from what is written stay as they are. -/
theorem take_drop_of_write {outside : ε} {buf bs buf' : List UInt8} {offset i k : Nat}
    (h : write outside buf offset bs = .ok buf')
    (hapart : i + k ≤ offset ∨ offset + bs.length ≤ i) :
  (buf'.drop i).take k = (buf.drop i).take k
  := by
  rw [write] at h
  split at h
  · next hfits =>
      obtain rfl := Except.ok.inj h
      apply List.ext_getElem?
      intro j
      by_cases hj : j < k
      · rw [List.getElem?_take_of_lt hj, List.getElem?_take_of_lt hj, List.getElem?_drop,
          List.getElem?_drop]
        rcases hapart with hbefore | hafter
        · rw [List.append_assoc, List.getElem?_append_left (by simp; omega),
            List.getElem?_take_of_lt (by omega)]
        · rw [List.getElem?_append_right (by simp; omega), List.getElem?_drop]
          congr 1
          simp
          omega
      · rw [List.getElem?_take_eq_none (by omega), List.getElem?_take_eq_none (by omega)]
  · cases h

/-- The bytes after a write: those written, in their place, and the others as they were. -/
theorem getElem?_of_write {outside : ε} {buf bs buf' : List UInt8} {offset : Nat}
    (h : write outside buf offset bs = .ok buf') (j : Nat) :
  buf'[j]? = if offset ≤ j ∧ j < offset + bs.length then bs[j - offset]? else buf[j]?
  := by
  rw [write] at h
  split at h
  · next hfits =>
      obtain rfl := Except.ok.inj h
      have htake : (buf.take offset).length = offset := by
        rw [List.length_take]
        omega
      rcases lt_or_ge j offset with hbefore | hafter
      · rw [if_neg (by omega), List.append_assoc, List.getElem?_append_left (by omega),
          List.getElem?_take_of_lt hbefore]
      · rcases lt_or_ge j (offset + bs.length) with hin | hout
        · rw [if_pos ⟨hafter, hin⟩, List.append_assoc, List.getElem?_append_right (by omega),
            htake, List.getElem?_append_left (by omega)]
        · rw [if_neg (by omega), List.getElem?_append_right (by simp; omega), List.getElem?_drop]
          congr 1
          simp
          omega
  · cases h

/-- Writing back what was there undoes a write. -/
theorem write_write {outside : ε} {buf bs buf' bs' : List UInt8} {offset : Nat}
    (h : write outside buf offset bs = .ok buf') (hlength : bs'.length = bs.length)
    (hbytes : (buf.drop offset).take bs'.length = bs') :
  write outside buf' offset bs' = .ok buf
  := by
  have hsame := length_of_write h
  have hfits : offset + bs.length ≤ buf.length := by
    by_contra hlt
    rw [write_outside _ (lt_of_not_ge hlt)] at h
    cases h
  have hfits' : offset + bs'.length ≤ buf'.length := by omega
  obtain ⟨buf'', hback⟩ : ∃ buf'', write outside buf' offset bs' = .ok buf'' :=
    ⟨_, write_ok outside hfits'⟩
  rw [hback]
  congr 1
  apply List.ext_getElem?
  intro j
  rw [getElem?_of_write hback, getElem?_of_write h]
  split
  · next hin =>
      rw [← hbytes, List.getElem?_take_of_lt (by omega), List.getElem?_drop]
      congr 1
      omega
  · next hout => rw [if_neg (by omega)]

end Buffer

end Bytes
