import Mathlib.Data.List.OfFn
import Mathlib.Data.Fin.Tuple.Basic
import Mathlib.Data.List.Induction
import Mathlib.Data.Nat.Bitwise
import Mathlib.Tactic.Ring

set_option relaxedAutoImplicit false
set_option autoImplicit false

/-!
# Fixed-width byte codecs

Big-endian numbers, codecs of a fixed width, and the two ways a program runs one: writing at
a running offset into a zeroed buffer, and reading at a running offset from a byte string.

A codec here is a *bijection* between a type and the byte strings of one length, so a packet
format built from the combinators round-trips in both directions by construction: decoding
undoes encoding, and every byte string of the right length is the encoding of what it decodes
to.

## Main definitions

* `ByteCodec.toBytes`, `ByteCodec.ofBytes` — big-endian digits of a number, and back.
* `ByteCodec.FixedCodec` — a bijection between a type and the byte strings of one length, with
  `FixedCodec.uint`, `FixedCodec.pair`, `FixedCodec.array` and `FixedCodec.congr`.
* `ByteCodec.Cursor` — a buffer of fixed length with a running write offset.
* `ByteCodec.slice` — `k` bytes from offset `o`.

## Main results

* `ByteCodec.ofBytes_toBytes`, `ByteCodec.toBytes_ofBytes` — big-endian digits round-trip.
* `ByteCodec.Cursor.Filled.putBytes` — writing at the offset appends to what was written.
* `ByteCodec.FixedCodec.eq_encode_iff` — a byte string is an encoding iff it has the width,
  and then of exactly one value.
-/

namespace ByteCodec

/-- A byte. -/
abbrev Byte := BitVec 8

/-! ## Big-endian digits -/

/-- The number a byte string denotes, most significant byte first. -/
def ofBytes (bs : List Byte) : ℕ := bs.foldl (fun acc b => acc * 256 + b.toNat) 0

/-- The last `k` base-256 digits of `v`, most significant first. -/
def toBytes : ℕ → ℕ → List Byte
  | 0, _ => []
  | k + 1, v => toBytes k (v / 256) ++ [BitVec.ofNat 8 v]

@[simp] lemma ofBytes_nil : ofBytes [] = 0 := rfl

/-- A last byte is the least significant digit. -/
@[simp] lemma ofBytes_concat (bs : List Byte) (b : Byte) :
    ofBytes (bs ++ [b]) = ofBytes bs * 256 + b.toNat := by
  simp [ofBytes]

@[simp] lemma length_toBytes (k v : ℕ) : (toBytes k v).length = k := by
  induction k generalizing v with
  | zero => rfl
  | succ k ih => simp [toBytes, ih]

/-- `k` digits hold a number modulo `256 ^ k`. -/
lemma ofBytes_toBytes (k v : ℕ) : ofBytes (toBytes k v) = v % 256 ^ k := by
  induction k generalizing v with
  | zero => simp [toBytes, Nat.mod_one]
  | succ k ih =>
    have hb : (BitVec.ofNat 8 v).toNat = v % 256 := by simp
    rw [toBytes, ofBytes_concat, ih, hb, pow_succ, Nat.mul_comm (256 ^ k) 256, Nat.mod_mul,
      Nat.mul_comm, Nat.add_comm]

/-- Every byte string is the digit string of the number it denotes. -/
lemma toBytes_ofBytes (bs : List Byte) : toBytes bs.length (ofBytes bs) = bs := by
  induction bs using List.reverseRecOn with
  | nil => rfl
  | append_singleton bs b ih =>
    have hb := b.isLt
    rw [List.length_append, List.length_singleton, toBytes, ofBytes_concat]
    have hdiv : (ofBytes bs * 256 + b.toNat) / 256 = ofBytes bs := by omega
    have hlow : BitVec.ofNat 8 (ofBytes bs * 256 + b.toNat) = b := by
      apply BitVec.eq_of_toNat_eq
      rw [BitVec.toNat_ofNat]
      omega
    rw [hdiv, ih, hlow]

/-- A digit of the digit string: the `i`-th of `k` digits is `v / 256 ^ (k - 1 - i)`. -/
lemma toBytes_eq_map (k v : ℕ) :
    toBytes k v = (List.range k).map fun i => BitVec.ofNat 8 (v / 256 ^ (k - 1 - i)) := by
  induction k generalizing v with
  | zero => rfl
  | succ k ih =>
    rw [toBytes, ih, List.range_succ, List.map_append, List.map_singleton]
    congr 1
    · refine List.map_congr_left fun i hi => ?_
      have hik : i < k := List.mem_range.mp hi
      rw [Nat.div_div_eq_div_mul, ← pow_succ', show k - 1 - i + 1 = k + 1 - 1 - i by omega]
    · simp

/-! ## Slices -/

/-- The `k` bytes from offset `o`. -/
def slice (o k : ℕ) (b : List Byte) : List Byte := (b.drop o).take k

lemma length_slice {o k : ℕ} {b : List Byte} (h : o + k ≤ b.length) : (slice o k b).length = k := by
  simp only [slice, List.length_take, List.length_drop]
  omega

/-- A slice of a slice. -/
lemma slice_slice {o k o' k' : ℕ} (b : List Byte) (h : o + k ≤ k') :
    slice o k (slice o' k' b) = slice (o' + o) k b := by
  simp only [slice, List.drop_take, List.take_take, List.drop_drop]
  rw [Nat.min_eq_left (by omega)]

/-- Adjacent slices join. -/
lemma slice_append_slice (o k m : ℕ) (b : List Byte) :
    slice o k b ++ slice (o + k) m b = slice o (k + m) b := by
  rw [slice, slice, slice, List.take_add, List.drop_drop]

lemma slice_zero_length {n : ℕ} (b : List Byte) (h : b.length = n) : slice 0 n b = b := by
  simp [slice, ← h]

/-- The part of a concatenation that starts where its first part ends. -/
lemma slice_append_right {x y : List Byte} {o k : ℕ} (ho : o = x.length) (hk : k = y.length) :
    slice o k (x ++ y) = y := by
  simp [slice, ho, hk]

lemma slice_append_left {x y : List Byte} {k : ℕ} (hk : k = x.length) :
    slice 0 k (x ++ y) = x := by
  simp [slice, hk]

/-! ## Codecs of a fixed width -/

/-- A bijection between `α` and the byte strings of length `size`. -/
structure FixedCodec (α : Type) where
  /-- The number of bytes of every encoding. -/
  size : ℕ
  /-- The bytes of a value. -/
  encode : α → List Byte
  /-- The value of a byte string, meaningful at length `size`. -/
  decode : List Byte → α
  /-- Every encoding has the width. -/
  length_encode : ∀ a, (encode a).length = size
  /-- Decoding undoes encoding. -/
  decode_encode : ∀ a, decode (encode a) = a
  /-- Every byte string of the width is the encoding of what it decodes to. -/
  encode_decode : ∀ b, b.length = size → encode (decode b) = b

namespace FixedCodec

attribute [simp] length_encode decode_encode

variable {α β : Type}

/-- A byte string is the encoding of `a` iff it has the width and decodes to `a`. -/
lemma eq_encode_iff (c : FixedCodec α) (a : α) (b : List Byte) :
    b = c.encode a ↔ b.length = c.size ∧ c.decode b = a := by
  constructor
  · rintro rfl
    exact ⟨c.length_encode a, c.decode_encode a⟩
  · rintro ⟨hlen, rfl⟩
    exact (c.encode_decode b hlen).symm

/-- `w / 8` digits hold a `w`-bit word. -/
lemma base_pow {w : ℕ} (hw : 8 * (w / 8) = w) : (256 : ℕ) ^ (w / 8) = 2 ^ w := by
  conv_rhs => rw [← hw, pow_mul]
  rfl

/-- A big-endian unsigned word of `w` bits, a whole number of bytes. -/
def uint (w : ℕ) (hw : 8 * (w / 8) = w) : FixedCodec (BitVec w) where
  size := w / 8
  encode v := toBytes (w / 8) v.toNat
  decode b := BitVec.ofNat w (ofBytes b)
  length_encode v := length_toBytes (w / 8) v.toNat
  decode_encode v := by
    apply BitVec.eq_of_toNat_eq
    rw [BitVec.toNat_ofNat, ofBytes_toBytes, base_pow hw, Nat.mod_mod, Nat.mod_eq_of_lt v.isLt]
  encode_decode b hb := by
    have hlt : ofBytes b < 2 ^ w := by
      have h := ofBytes_toBytes (w / 8) (ofBytes b)
      rw [← hb, toBytes_ofBytes, hb, base_pow hw] at h
      rw [h]
      exact Nat.mod_lt _ (Nat.two_pow_pos w)
    rw [BitVec.toNat_ofNat, Nat.mod_eq_of_lt hlt, ← hb, toBytes_ofBytes]

/-- One value after another. -/
def pair (c : FixedCodec α) (d : FixedCodec β) : FixedCodec (α × β) where
  size := c.size + d.size
  encode p := c.encode p.1 ++ d.encode p.2
  decode b := (c.decode (slice 0 c.size b), d.decode (slice c.size d.size b))
  length_encode p := by simp
  decode_encode p := by
    rw [slice_append_left (c.length_encode p.1).symm,
      slice_append_right (c.length_encode p.1).symm (d.length_encode p.2).symm]
    simp
  encode_decode b hb := by
    rw [c.encode_decode _ (length_slice (by omega)), d.encode_decode _ (length_slice (by omega))]
    have hjoin := slice_append_slice 0 c.size d.size b
    rw [Nat.zero_add] at hjoin
    rw [hjoin, slice_zero_length b hb]

/-- The same bytes, read as another type. -/
def congr (e : α ≃ β) (c : FixedCodec α) : FixedCodec β where
  size := c.size
  encode v := c.encode (e.symm v)
  decode b := e (c.decode b)
  length_encode v := c.length_encode _
  decode_encode v := by simp
  encode_decode b hb := by simpa using c.encode_decode b hb

/-- The empty record. -/
def empty : FixedCodec (Fin 0 → α) where
  size := 0
  encode _ := []
  decode _ := Fin.elim0
  length_encode _ := rfl
  decode_encode v := by
    funext i
    exact i.elim0
  encode_decode b hb := (List.length_eq_zero_iff.mp hb).symm

/-- `n` values one after another. -/
def array (c : FixedCodec α) : (n : ℕ) → FixedCodec (Fin n → α)
  | 0 => empty
  | n + 1 => congr (Fin.consEquiv fun _ => α) (pair c (array c n))

@[simp] lemma size_array (c : FixedCodec α) (n : ℕ) : (array c n).size = n * c.size := by
  induction n with
  | zero => simp [array, empty]
  | succ n ih =>
    simp only [array, congr, pair, ih]
    ring

/-- The bytes of an array are the bytes of its entries, in order. -/
lemma encode_array (c : FixedCodec α) (n : ℕ) (v : Fin n → α) :
    (array c n).encode v = (List.ofFn v).flatMap c.encode := by
  induction n with
  | zero => rfl
  | succ n ih =>
    simp only [array, congr, pair, List.ofFn_succ, List.flatMap_cons]
    rw [ih]
    rfl

/-- Entry `i` of a decoded array is read `i` widths from its start. -/
lemma decode_array (c : FixedCodec α) (n : ℕ) (b : List Byte) (i : Fin n) :
    (array c n).decode b i = c.decode (slice (i * c.size) c.size b) := by
  induction n generalizing b with
  | zero => exact i.elim0
  | succ n ih =>
    simp only [array, congr, pair]
    refine Fin.cases ?_ (fun j => ?_) i
    · simp
    · have hj : (j : ℕ) + 1 ≤ n := j.isLt
      have hfit : j * c.size + c.size ≤ n * c.size := by
        calc j * c.size + c.size = (j + 1) * c.size := by ring
          _ ≤ n * c.size := Nat.mul_le_mul_right _ hj
      simp only [Fin.consEquiv_apply, Fin.cons_succ, size_array, Fin.val_succ]
      rw [ih, slice_slice _ hfit]
      congr 2
      ring

end FixedCodec

/-! ## Writing at a running offset -/

/-- A buffer of `n` bytes with the offset at which the next byte is written. -/
structure Cursor (n : ℕ) where
  /-- The buffer. -/
  bytes : List Byte
  /-- The next byte to write. -/
  offset : ℕ
  /-- The buffer never grows or shrinks. -/
  length_bytes : bytes.length = n

namespace Cursor

variable {n : ℕ}

/-- A zeroed buffer with the offset at its start. -/
def zeroed (n : ℕ) : Cursor n := ⟨List.replicate n 0, 0, List.length_replicate⟩

/-- Write a byte and move the offset past it. -/
def put (c : Cursor n) (b : Byte) : Cursor n :=
  ⟨c.bytes.set c.offset b, c.offset + 1, by rw [List.length_set, c.length_bytes]⟩

/-- Write bytes one after another. -/
def putBytes (c : Cursor n) (bs : List Byte) : Cursor n := bs.foldl put c

/-- The bytes before the offset are `w`. -/
def Filled (c : Cursor n) (w : List Byte) : Prop :=
  c.offset = w.length ∧ ∃ rest, c.bytes = w ++ rest

lemma filled_zeroed (n : ℕ) : (zeroed n).Filled [] := ⟨rfl, _, rfl⟩

/-- A byte written at the offset of a buffer with room is appended. -/
lemma Filled.put {c : Cursor n} {w : List Byte} (h : c.Filled w) (hroom : w.length < n) (b : Byte) :
    (c.put b).Filled (w ++ [b]) := by
  obtain ⟨ho, rest, hb⟩ := h
  refine ⟨by simp [Cursor.put, ho], rest.tail, ?_⟩
  have hlen := c.length_bytes
  rw [hb, List.length_append] at hlen
  obtain ⟨x, rest', rfl⟩ : ∃ x rest', rest = x :: rest' :=
    List.exists_cons_of_length_pos (by omega)
  simp [Cursor.put, ho, hb]

/-- **Writing appends**: bytes written at the offset of a buffer with room for them follow
what was written before. -/
lemma Filled.putBytes {c : Cursor n} {w : List Byte} (h : c.Filled w) (bs : List Byte)
    (hroom : w.length + bs.length ≤ n) : (c.putBytes bs).Filled (w ++ bs) := by
  induction bs generalizing c w with
  | nil => simpa [Cursor.putBytes] using h
  | cons b bs ih =>
    rw [List.length_cons] at hroom
    have hb := ih (h.put (by omega) b) (by simp; omega)
    rwa [List.append_assoc] at hb

/-- A buffer written to its end holds exactly what was written. -/
lemma Filled.bytes_eq {c : Cursor n} {w : List Byte} (h : c.Filled w) (hw : w.length = n) :
    c.bytes = w := by
  obtain ⟨_, rest, hb⟩ := h
  have hlen := c.length_bytes
  rw [hb, List.length_append] at hlen
  rw [hb, List.length_eq_zero_iff.mp (show rest.length = 0 by omega), List.append_nil]

end Cursor

end ByteCodec
