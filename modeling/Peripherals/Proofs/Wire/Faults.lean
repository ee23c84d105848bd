import Peripherals.Proofs.Wire.Reader

/-!
# `Proofs.Wire.Faults` — why a field cannot be read

`Proofs.Wire.Reader` says what each reader accepts; this module says how it fails. Of two things that are wrong, the
order of reading decides which one is told: a text is judged as soon as its own bytes are there, whatever is missing
behind it.

* `Bytes.IsUtf8` — the bytes of some characters, one after the other. A text is read off exactly those
  (`text_eq_badText`, `text_eq_short`);
* `Fixed` — a reader that takes a fixed number of bytes, and fails only where there are fewer. A text with such fields
  behind it fails as the text does, or is short (`bind_eq_badText`, `length_lt_of_bind_eq_short`);
* `Steady` — a reader whose verdict, unless it is a shortfall, does not change when more bytes arrive. This is why a
  cut is always told as a cut: where the whole is read, a part of it can be neither accepted nor refused
  (`Steady.short_of_part`), and it does not matter into which field the cut falls.
-/

namespace Peripherals

/-! ## UTF-8 -/

namespace Bytes

/-- **UTF-8**: the encodings of some characters, one after the other. -/
def IsUtf8 (bs : Bytes) : Prop := ∃ chars : List Char, bs = chars.flatMap String.utf8EncodeChar

/-- The bytes of a text are the encodings of its characters. -/
theorem ofText_eq_flatMap (s : String) : ofText s = s.toList.flatMap String.utf8EncodeChar := by
  have hchars : ∀ chars : List Char, ofText (String.ofList chars) = chars.flatMap String.utf8EncodeChar := by
    intro chars
    exact List.toList_data_toByteArray
  have h := hchars s.toList
  rwa [String.ofList_toList] at h

/-- UTF-8 is what texts are written as. -/
theorem isUtf8_iff {bs : Bytes} : IsUtf8 bs ↔ ∃ s, bs = ofText s := by
  constructor
  · rintro ⟨chars, rfl⟩
    refine ⟨String.ofList chars, ?_⟩
    rw [ofText_eq_flatMap, String.toList_ofList]
  · rintro ⟨s, rfl⟩
    exact ⟨s.toList, ofText_eq_flatMap s⟩

/-- What is not UTF-8 is not read as a text, and nothing else is not. -/
theorem not_isUtf8_iff {bs : Bytes} : ¬ IsUtf8 bs ↔ text? bs = none := by
  simp only [isUtf8_iff, ← text?_eq_some]
  cases text? bs with
  | none => simp
  | some s => simp

theorem isUtf8_ofText (s : String) : IsUtf8 (ofText s) := isUtf8_iff.mpr ⟨s, rfl⟩

end Bytes

namespace Wire

variable {α β : Type} {r : Reader α} {next : α → Reader β} {bs : Bytes} {fault : Fault} {n m : Nat}

/-! ## Readers one after the other -/

/-- What is read in two steps fails at the first one, or at the second one behind it. -/
theorem bind_eq_error : (r >>= next) bs = .error fault ↔
    r bs = .error fault ∨ ∃ a mid, r bs = .ok (a, mid) ∧ next a mid = .error fault := by
  show Except.bind (r bs) (fun p => next p.1 p.2) = .error fault ↔ _
  cases h : r bs with
  | error other => simp [Except.bind]
  | ok p =>
    obtain ⟨a, mid⟩ := p
    simp [Except.bind]

/-! ## Fields of a fixed size -/

/-- **A field of `n` bytes**: it is read wherever there are as many, and is short where there are not. -/
structure Fixed (n : Nat) (r : Reader α) : Prop where
  short : ∀ bs : Bytes, bs.length < n → r bs = .error .short
  whole : ∀ bs : Bytes, n ≤ bs.length → ∃ a, r bs = .ok (a, bs.drop n)

namespace Fixed

/-- Two fields of a fixed size make one. -/
protected theorem bind (hr : Fixed n r) (hnext : ∀ a, Fixed m (next a)) : Fixed (n + m) (r >>= next) := by
  constructor
  · intro bs hlen
    apply bind_eq_error.mpr
    by_cases hn : bs.length < n
    · exact .inl (hr.short bs hn)
    · -- The first field is there, and what it leaves is too short for the second one.
      obtain ⟨a, ha⟩ := hr.whole bs (Nat.le_of_not_lt hn)
      have hrest : (bs.drop n).length < m := by
        rw [List.length_drop]
        omega
      exact .inr ⟨a, bs.drop n, ha, (hnext a).short _ hrest⟩
  · intro bs hlen
    obtain ⟨a, ha⟩ := hr.whole bs (by omega)
    have hrest : m ≤ (bs.drop n).length := by
      rw [List.length_drop]
      omega
    obtain ⟨b, hb⟩ := (hnext a).whole _ hrest
    refine ⟨b, bind_eq_ok.mpr ⟨a, bs.drop n, ha, ?_⟩⟩
    rw [hb, List.drop_drop]

/-- A field of a fixed size fails by being short, and in no other way. -/
theorem eq_error_iff (h : Fixed n r) : r bs = .error fault ↔ fault = .short ∧ bs.length < n := by
  constructor
  · intro herror
    by_cases hn : bs.length < n
    · have hshort := h.short bs hn
      rw [herror] at hshort
      exact ⟨Except.error.inj hshort, hn⟩
    · obtain ⟨a, ha⟩ := h.whole bs (Nat.le_of_not_lt hn)
      rw [herror] at ha
      contradiction
  · rintro ⟨rfl, hn⟩
    exact h.short bs hn

end Fixed

theorem fixed_pure (a : α) : Fixed 0 (pure a : Reader α) := by
  constructor
  · intro bs hlen
    exact absurd hlen (Nat.not_lt_zero _)
  · intro bs _
    exact ⟨a, rfl⟩

theorem fixed_byte : Fixed 1 byte := by
  constructor
  · intro bs hlen
    rw [List.length_eq_zero_iff.mp (Nat.lt_one_iff.mp hlen)]
    rfl
  · intro bs hlen
    obtain ⟨b, rest, rfl⟩ := List.exists_cons_of_length_pos hlen
    exact ⟨b, rfl⟩

theorem fixed_octets (n : Nat) : Fixed n (octets n) := by
  constructor
  · intro bs hlen
    unfold octets
    rw [if_neg (Nat.not_le_of_lt hlen)]
  · intro bs hlen
    unfold octets
    rw [if_pos hlen]
    exact ⟨bs.take n, rfl⟩

/-! ## Counted fields -/

theorem word_eq_error : word bs = .error fault ↔ fault = .short ∧ Bytes.takeWord32? bs = none := by
  unfold word
  cases Bytes.takeWord32? bs with
  | none => simp [eq_comm]
  | some field => simp

/-- A counted field is short if its length is not there, or announces more than there is. -/
theorem counted_eq_error : counted bs = .error fault ↔
    fault = .short ∧ ∀ length rest, Bytes.takeWord32? bs = some (length, rest) → rest.length < length.toNat := by
  unfold counted
  rw [bind_eq_error]
  constructor
  · rintro (hword | ⟨length, rest, hword, hoctets⟩)
    · obtain ⟨rfl, hnone⟩ := word_eq_error.mp hword
      refine ⟨rfl, fun length rest hsome => ?_⟩
      rw [hnone] at hsome
      contradiction
    · obtain ⟨rfl, hlt⟩ := (fixed_octets length.toNat).eq_error_iff.mp hoctets
      rw [word_eq_ok, ← Bytes.takeWord32?_eq_some] at hword
      refine ⟨rfl, fun length' rest' hsome => ?_⟩
      rw [hword] at hsome
      obtain ⟨rfl, rfl⟩ := Prod.mk.inj (Option.some.inj hsome)
      exact hlt
  · rintro ⟨rfl, hall⟩
    cases hword : Bytes.takeWord32? bs with
    | none => exact .inl (word_eq_error.mpr ⟨rfl, hword⟩)
    | some field =>
      obtain ⟨length, rest⟩ := field
      refine .inr ⟨length, rest, word_eq_ok.mpr (Bytes.takeWord32?_eq_some.mp hword), ?_⟩
      exact (fixed_octets length.toNat).short rest (hall length rest hword)

/-- A text is refused as such iff its bytes are all there and are not UTF-8. What follows them does not matter. -/
theorem text_eq_badText : text bs = .error .badText ↔
    ∃ name rest, name.length < UInt32.size ∧ ¬ Bytes.IsUtf8 name ∧ bs = putCounted name ++ rest := by
  unfold text
  rw [bind_eq_error]
  constructor
  · rintro (h | ⟨name, rest, hname, h⟩)
    · have hshort := (counted_eq_error.mp h).1
      contradiction
    · obtain ⟨hlen, rfl⟩ := counted_eq_ok.mp hname
      refine ⟨name, rest, hlen, ?_, rfl⟩
      rw [Bytes.not_isUtf8_iff]
      cases htext : Bytes.text? name with
      | none => rfl
      | some s =>
        rw [htext] at h
        contradiction
  · rintro ⟨name, rest, hlen, hbad, rfl⟩
    refine .inr ⟨name, rest, counted_eq_ok.mpr ⟨hlen, rfl⟩, ?_⟩
    rw [Bytes.not_isUtf8_iff.mp hbad]
    rfl

/-- A text is short iff the counted bytes are. -/
theorem text_eq_short : text bs = .error .short ↔
    ∀ length rest, Bytes.takeWord32? bs = some (length, rest) → rest.length < length.toNat := by
  unfold text
  rw [bind_eq_error, counted_eq_error]
  constructor
  · rintro (⟨-, h⟩ | ⟨name, rest, -, h⟩)
    · exact h
    · -- The bytes are all there, so the text is read or refused.
      cases htext : Bytes.text? name with
      | none =>
        rw [htext] at h
        have hfault : Fault.badText = Fault.short := Except.error.inj h
        contradiction
      | some s =>
        rw [htext] at h
        contradiction
  · intro h
    exact .inl ⟨rfl, h⟩

/-! ## A text, and fields of a fixed size behind it -/

variable {behind : String → Reader α}

/-- Whether the text is UTF-8 is judged before what follows it is looked for. -/
theorem bind_eq_badText (h : ∀ s, Fixed n (behind s)) : (text >>= behind) bs = .error .badText ↔
    ∃ name rest, name.length < UInt32.size ∧ ¬ Bytes.IsUtf8 name ∧ bs = putCounted name ++ rest := by
  rw [← text_eq_badText, bind_eq_error]
  constructor
  · rintro (htext | ⟨s, mid, -, hbehind⟩)
    · exact htext
    · have hshort := ((h s).eq_error_iff.mp hbehind).1
      contradiction
  · exact .inl

/-- Everything is read iff the text is and enough bytes follow it. -/
theorem exists_bind_eq_ok (h : ∀ s, Fixed n (behind s)) :
    (∃ x, (text >>= behind) bs = .ok x) ↔ ∃ s rest, text bs = .ok (s, rest) ∧ n ≤ rest.length := by
  constructor
  · rintro ⟨x, hx⟩
    obtain ⟨s, rest, htext, hbehind⟩ := bind_eq_ok.mp hx
    refine ⟨s, rest, htext, Nat.le_of_not_lt fun hlt => ?_⟩
    rw [(h s).short rest hlt] at hbehind
    contradiction
  · rintro ⟨s, rest, htext, hlen⟩
    obtain ⟨a, ha⟩ := (h s).whole rest hlen
    exact ⟨(a, rest.drop n), bind_eq_ok.mpr ⟨s, rest, htext, ha⟩⟩

/-- What is short does not hold the bytes of the text and the fields behind it, as far as their number is told. -/
theorem length_lt_of_bind_eq_short (h : ∀ s, Fixed n (behind s)) (hshort : (text >>= behind) bs = .error .short)
    {length : UInt32} {rest : Bytes} (hword : Bytes.takeWord32? bs = some (length, rest)) :
    rest.length < length.toNat + n := by
  rcases bind_eq_error.mp hshort with htext | ⟨s, mid, htext, hbehind⟩
  · have hlt := text_eq_short.mp htext length rest hword
    omega
  · obtain ⟨hlen, rfl⟩ := text_eq_ok.mp htext
    have hmid : mid.length < n := ((h s).eq_error_iff.mp hbehind).2
    -- The length that was read is that of the text.
    rw [putText, putCounted, List.append_assoc, Bytes.takeWord32?_ofWord32] at hword
    obtain ⟨rfl, rfl⟩ := Prod.mk.inj (Option.some.inj hword)
    rw [UInt32.toNat_ofNat_of_lt' hlen, List.length_append]
    omega

/-! ## More bytes -/

/-- **A steady reader**: what it accepts or refuses, it accepts or refuses whatever follows. Only a shortfall may turn
into something else when more bytes arrive. -/
structure Steady (r : Reader α) : Prop where
  ok : ∀ {bs rest : Bytes} {a : α} (more : Bytes), r bs = .ok (a, rest) → r (bs ++ more) = .ok (a, rest ++ more)
  bad : ∀ {bs : Bytes} (more : Bytes), r bs = .error .badText → r (bs ++ more) = .error .badText

namespace Steady

/-- Steady readers one after the other are steady. -/
protected theorem bind (hr : Steady r) (hnext : ∀ a, Steady (next a)) : Steady (r >>= next) := by
  constructor
  · intro bs rest b more h
    obtain ⟨a, mid, ha, hb⟩ := bind_eq_ok.mp h
    exact bind_eq_ok.mpr ⟨a, mid ++ more, hr.ok more ha, (hnext a).ok more hb⟩
  · intro bs more h
    apply bind_eq_error.mpr
    rcases bind_eq_error.mp h with hbad | ⟨a, mid, ha, hb⟩
    · exact .inl (hr.bad more hbad)
    · exact .inr ⟨a, mid ++ more, hr.ok more ha, (hnext a).bad more hb⟩

/-- **A part of what is read is short.** If it were accepted, the rest of the whole would be left over; if it were
refused, so would be the whole. -/
theorem short_of_part (h : Steady r) {whole part : Bytes} {a : α} (hwhole : r whole = .ok (a, []))
    (hpart : part <+: whole) (hne : part ≠ whole) : r part = .error .short := by
  obtain ⟨more, rfl⟩ := hpart
  cases hread : r part with
  | ok found =>
    obtain ⟨b, rest⟩ := found
    have hall := h.ok more hread
    rw [hwhole] at hall
    have hnil : rest ++ more = [] := (Prod.mk.inj (Except.ok.inj hall)).2.symm
    have hmore : more = [] := (List.append_eq_nil_iff.mp hnil).2
    rw [hmore, List.append_nil] at hne
    exact absurd rfl hne
  | error fault =>
    cases fault with
    | short => rfl
    | badText =>
      have hall := h.bad more hread
      rw [hwhole] at hall
      contradiction

end Steady

theorem steady_pure (a : α) : Steady (pure a : Reader α) := by
  constructor
  · intro bs rest b more h
    obtain ⟨rfl, rfl⟩ := pure_eq_ok.mp h
    rfl
  · intro bs more h
    contradiction

theorem steady_throw (fault : Fault) : Steady (throw fault : Reader α) := by
  constructor
  · intro bs rest b more h
    contradiction
  · intro bs more h
    exact h

theorem steady_byte : Steady byte := by
  constructor
  · intro bs rest b more h
    rw [byte_eq_ok] at h
    subst h
    rfl
  · intro bs more h
    have hshort := (fixed_byte.eq_error_iff.mp h).1
    contradiction

theorem steady_word : Steady word := by
  constructor
  · intro bs rest w more h
    rw [word_eq_ok] at h ⊢
    rw [h, List.append_assoc]
  · intro bs more h
    have hshort := (word_eq_error.mp h).1
    contradiction

theorem steady_octets (n : Nat) : Steady (octets n) := by
  constructor
  · intro bs rest field more h
    rw [octets_eq_ok] at h ⊢
    refine ⟨h.1, ?_⟩
    rw [h.2, List.append_assoc]
  · intro bs more h
    have hshort := ((fixed_octets n).eq_error_iff.mp h).1
    contradiction

theorem steady_counted : Steady counted := steady_word.bind fun length => steady_octets length.toNat

theorem steady_text : Steady text := by
  refine steady_counted.bind fun name => ?_
  cases Bytes.text? name with
  | some s => exact steady_pure s
  | none => exact steady_throw .badText

end Wire

end Peripherals
