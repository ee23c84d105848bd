import Mathlib.Data.List.Basic
import Peripherals.Coprocessor.DecodeError
import Peripherals.Mac

/-!
# `Proofs.Wire.Reader` — what each reader accepts, and what it leaves

A reader takes a field off the front of a byte sequence. For every reader there is one lemma that says what it
accepts: `r bs = .ok (a, rest)` holds **iff** `bs` is the written form of `a` followed by `rest`, where `a` can be
written at all. Both directions of every format are read off these lemmas.

* `bind_eq_ok`, `pure_eq_ok` — readers one after the other;
* `byte_eq_ok`, `word_eq_ok`, `octets_eq_ok` — fixed fields;
* `counted_eq_ok`, `text_eq_ok` — counted fields, which have to be shorter than 2³² bytes;
* `readPart_eq_ok` — a part as a whole.
-/

namespace Peripherals

/-! ## Results -/

section Results

variable {ε α β : Type} {x : Except ε α} {f : α → β}

theorem except_bind_eq_ok {next : α → Except ε β} {b : β} :
    (x >>= next) = .ok b ↔ ∃ a, x = .ok a ∧ next a = .ok b := by
  cases x with
  | error e => simp [bind, Except.bind]
  | ok a => simp [bind, Except.bind]

theorem except_map_eq_ok {b : β} : x.map f = .ok b ↔ ∃ a, x = .ok a ∧ f a = b := by
  cases x with
  | error e => simp [Except.map]
  | ok a => simp [Except.map]

theorem except_map_eq_error {e : ε} : x.map f = .error e ↔ x = .error e := by
  cases x with
  | error found => simp [Except.map]
  | ok found => simp [Except.map]

end Results

/-! ## Bytes -/

namespace Bytes

/-- A word is read where its four bytes stand, and nowhere else. -/
theorem takeWord32?_eq_some {bs rest : Bytes} {w : UInt32} :
    takeWord32? bs = some (w, rest) ↔ bs = ofWord32 w ++ rest := by
  constructor
  · intro h
    match bs, h with
    | a :: b :: c :: d :: tail, h =>
      simp only [takeWord32?, Option.some.injEq, Prod.mk.injEq] at h
      obtain ⟨rfl, rfl⟩ := h
      rw [ofWord32_word32]
      rfl
  · rintro rfl
    exact takeWord32?_ofWord32 w rest

/-- The bytes of a text are its UTF-8 form, and no other bytes are read as that text. -/
theorem text?_eq_some {bs : Bytes} {s : String} : text? bs = some s ↔ bs = ofText s := by
  unfold text? ofText String.fromUTF8? String.toUTF8
  constructor
  · intro h
    split at h
    · injection h with h
      subst h
      rfl
    · contradiction
  · rintro rfl
    -- The bytes of a string carry the proof that they are valid UTF-8.
    have hbytes : (⟨s.toByteArray.data.toList.toArray⟩ : ByteArray) = s.toByteArray := rfl
    rw [hbytes, dif_pos s.isValidUTF8]
    rfl

end Bytes

namespace Wire

variable {α β : Type}

/-! ## Readers one after the other -/

theorem bind_eq_ok {r : Reader α} {next : α → Reader β} {bs : Bytes} {x : β × Bytes} :
    (r >>= next) bs = .ok x ↔ ∃ a mid, r bs = .ok (a, mid) ∧ next a mid = .ok x := by
  show Except.bind (r bs) (fun p => next p.1 p.2) = .ok x ↔ _
  cases h : r bs with
  | error fault => simp [Except.bind]
  | ok p =>
    obtain ⟨a, mid⟩ := p
    simp [Except.bind]

theorem pure_eq_ok {a b : α} {bs rest : Bytes} : (pure a : Reader α) bs = .ok (b, rest) ↔ a = b ∧ bs = rest := by
  show Except.ok (a, bs) = .ok (b, rest) ↔ _
  rw [Except.ok.injEq, Prod.mk.injEq]

/-! ## Fixed fields -/

theorem byte_eq_ok {bs rest : Bytes} {b : UInt8} : byte bs = .ok (b, rest) ↔ bs = b :: rest := by
  cases bs with
  | nil => simp [byte]
  | cons c tail => simp [byte]

theorem word_eq_ok {bs rest : Bytes} {w : UInt32} : word bs = .ok (w, rest) ↔ bs = Bytes.ofWord32 w ++ rest := by
  rw [← Bytes.takeWord32?_eq_some]
  unfold word
  cases Bytes.takeWord32? bs with
  | none => simp
  | some field => simp

theorem octets_eq_ok {n : Nat} {bs field rest : Bytes} :
    octets n bs = .ok (field, rest) ↔ field.length = n ∧ bs = field ++ rest := by
  unfold octets
  constructor
  · intro h
    split at h
    · next hn =>
      simp only [Except.ok.injEq, Prod.mk.injEq] at h
      obtain ⟨rfl, rfl⟩ := h
      exact ⟨List.length_take_of_le hn, (List.take_append_drop n bs).symm⟩
    · contradiction
  · rintro ⟨rfl, rfl⟩
    rw [if_pos (by simp), List.take_left, List.drop_left]

/-! ## Counted fields -/

theorem counted_eq_ok {bs field rest : Bytes} :
    counted bs = .ok (field, rest) ↔ field.length < UInt32.size ∧ bs = putCounted field ++ rest := by
  unfold counted putCounted
  simp only [bind_eq_ok, word_eq_ok, octets_eq_ok]
  constructor
  · rintro ⟨length, mid, rfl, hlen, rfl⟩
    refine ⟨hlen ▸ length.toNat_lt_size, ?_⟩
    rw [hlen, UInt32.ofNat_toNat, List.append_assoc]
  · rintro ⟨hlen, rfl⟩
    exact ⟨_, _, List.append_assoc .., (UInt32.toNat_ofNat_of_lt' hlen).symm, rfl⟩

theorem text_eq_ok {bs rest : Bytes} {s : String} :
    text bs = .ok (s, rest) ↔ (Bytes.ofText s).length < UInt32.size ∧ bs = putText s ++ rest := by
  unfold text putText
  rw [bind_eq_ok]
  constructor
  · rintro ⟨field, mid, hfield, h⟩
    cases hs : Bytes.text? field with
    | none =>
      rw [hs] at h
      contradiction
    | some s' =>
      rw [hs] at h
      obtain ⟨rfl, rfl⟩ := pure_eq_ok.mp h
      rw [Bytes.text?_eq_some.mp hs] at hfield
      exact counted_eq_ok.mp hfield
  · intro h
    refine ⟨Bytes.ofText s, rest, counted_eq_ok.mpr h, ?_⟩
    rw [Bytes.text?_eq_some.mpr rfl]
    rfl

/-! ## Sizes -/

theorem length_putCounted (bs : Bytes) : (putCounted bs).length = 4 + bs.length := by
  simp [putCounted]

theorem length_putText (s : String) : (putText s).length = 4 + (Bytes.ofText s).length :=
  length_putCounted _

end Wire

/-! ## Parts -/

namespace Coprocessor

variable {α : Type}

/-- A part is read iff its fields are; only what is told of a failure differs. -/
theorem readPart_eq_ok {part : Part} {fields : Wire.Reader α} {bs : Bytes} {x : α × Bytes} :
    readPart part fields bs = .ok x ↔ fields bs = .ok x := by
  unfold readPart
  split
  · next result h => rw [h]; simp
  · next h => rw [h]; simp
  · next h => rw [h]; simp

end Coprocessor

end Peripherals
