/-!
# `Peripherals.Bytes` — byte sequences and little-endian words

Everything that crosses a wire is a list of bytes; numbers cross it with the least significant byte first.

* `Bytes.fit` — a byte sequence cut or padded with zeros to an exact length;
* `Bytes.ofWord16` / `Bytes.ofWord32` and `Bytes.word16` / `Bytes.word32` — little-endian words, written and read;
* `Bytes.ofText` / `Bytes.text?` — text as UTF-8.
-/

/-- A sequence of bytes, in the order in which they are sent. -/
abbrev Peripherals.Bytes := List UInt8

namespace Peripherals.Bytes

/-! ## Lengths -/

/-- `n` zero bytes. -/
def zeros (n : Nat) : Bytes := List.replicate n 0

/-- **Cut or pad.** The first `n` bytes of `bs`, filled up with zeros on the right. -/
def fit (n : Nat) (bs : Bytes) : Bytes := bs.take n ++ zeros (n - bs.length)

@[simp] theorem length_zeros (n : Nat) : (zeros n).length = n := List.length_replicate

@[simp] theorem length_fit (n : Nat) (bs : Bytes) : (fit n bs).length = n := by
  simp only [fit, List.length_append, List.length_take, length_zeros]
  omega

theorem fit_length (bs : Bytes) : fit bs.length bs = bs := by
  simp [fit, zeros]

/-! ## Words -/

/-- The two bytes of a 16-bit word. -/
def ofWord16 (w : UInt16) : Bytes :=
  [UInt8.ofNat w.toNat, UInt8.ofNat (w.toNat / 256)]

/-- The four bytes of a 32-bit word. -/
def ofWord32 (w : UInt32) : Bytes :=
  [UInt8.ofNat w.toNat, UInt8.ofNat (w.toNat / 256), UInt8.ofNat (w.toNat / 65536),
    UInt8.ofNat (w.toNat / 16777216)]

/-- The 16-bit word with these two bytes. -/
def word16 (a b : UInt8) : UInt16 := UInt16.ofNat (a.toNat + 256 * b.toNat)

/-- The 32-bit word with these four bytes. -/
def word32 (a b c d : UInt8) : UInt32 :=
  UInt32.ofNat (a.toNat + 256 * b.toNat + 65536 * c.toNat + 16777216 * d.toNat)

/-- The 32-bit word at the head of a byte sequence, and what follows it. -/
def takeWord32? : Bytes → Option (UInt32 × Bytes)
  | a :: b :: c :: d :: rest => some (word32 a b c d, rest)
  | _ => none

@[simp] theorem length_ofWord32 (w : UInt32) : (ofWord32 w).length = 4 := rfl

@[simp] theorem takeWord32?_ofWord32 (w : UInt32) (rest : Bytes) :
    takeWord32? (ofWord32 w ++ rest) = some (w, rest) := by
  simp only [ofWord32, List.cons_append, List.nil_append, takeWord32?, word32, UInt8.toNat_ofNat',
    Option.some.injEq, Prod.mk.injEq, and_true]
  apply UInt32.toNat_inj.mp
  have h := w.toNat_lt
  simp only [UInt32.toNat_ofNat']
  omega

theorem ofWord32_word32 (a b c d : UInt8) : ofWord32 (word32 a b c d) = [a, b, c, d] := by
  have ha := a.toNat_lt
  have hb := b.toNat_lt
  have hc := c.toNat_lt
  have hd := d.toNat_lt
  simp only [ofWord32, word32, UInt32.toNat_ofNat', List.cons.injEq, and_true]
  refine ⟨?_, ?_, ?_, ?_⟩ <;>
  · apply UInt8.toNat_inj.mp
    simp only [UInt8.toNat_ofNat']
    omega

/-! ## Text -/

/-- The UTF-8 bytes of a text. -/
def ofText (s : String) : Bytes := s.toUTF8.data.toList

/-- The text with these UTF-8 bytes, if they are well formed. -/
def text? (bs : Bytes) : Option String := String.fromUTF8? ⟨bs.toArray⟩

end Peripherals.Bytes
