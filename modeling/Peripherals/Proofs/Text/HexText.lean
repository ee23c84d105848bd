import Peripherals.Mac
import Peripherals.Proofs.Wire.Faults

/-!
# `Proofs.Text.HexText` — hexadecimal text is read exactly

A text of digits is read byte by byte of its UTF-8 form, in pairs, and the letters may be of either case. All this is
one equation: a text stands for some bytes **iff** it is, but for blanks and the case of letters, what they are written
as (`Hex.decode_eq_ok_iff`). What is not hexadecimal is refused for a reason of its own (`Hex.decodePairs_eq_error`),
which is found from the front.

The letters can be lowered before or after the text is taken apart into bytes, since no byte of a character beyond
ASCII is a letter (`Bytes.map_lower_ofText`). This is what lets the equation speak of characters.

* `Bytes.lower` — a letter in lower case, as a byte;
* `Hex.Judged`, `Mac.Judged` — what a text is read as, and why not;
* `Hex.texts_judged` — what holds of every text, with the texts that are written.
-/

namespace Peripherals

/-! ## Letters as bytes -/

namespace Bytes

/-- **The lower-case form of an ASCII letter**; other bytes are left as they are. -/
def lower (b : UInt8) : UInt8 := if 65 ≤ b ∧ b ≤ 90 then b + 32 else b

theorem lower_of_large {n : Nat} (hlow : 128 ≤ n) (hhigh : n < 256) : lower (UInt8.ofNat n) = UInt8.ofNat n := by
  have htoNat : (UInt8.ofNat n).toNat = n := UInt8.toNat_ofNat_of_lt' hhigh
  unfold lower
  rw [if_neg]
  rintro ⟨-, hle⟩
  rw [UInt8.le_iff_toNat_le, htoNat] at hle
  have hninety : (90 : UInt8).toNat = 90 := rfl
  omega

/-- **A character is lowered as its bytes are.** -/
theorem map_lower_utf8EncodeChar (c : Char) :
    (String.utf8EncodeChar c).map lower = String.utf8EncodeChar c.toLower := by
  by_cases hascii : c.toNat < 128
  · have hall : ∀ n < 128, (String.utf8EncodeChar (Char.ofNat n)).map lower =
        String.utf8EncodeChar (Char.ofNat n).toLower := by decide
    have h := hall c.toNat hascii
    rwa [Char.ofNat_toNat] at h
  · -- Beyond ASCII nothing is a letter, neither the character nor any byte of it.
    have hsame : c.toLower = c := by
      unfold Char.toLower
      rw [dif_neg]
      rintro ⟨-, hle⟩
      rw [UInt32.le_iff_toNat_le] at hle
      have hninety : 'Z'.val.toNat = 90 := rfl
      have hval : c.toNat = c.val.toNat := rfl
      omega
    rw [hsame]
    have hval : c.toNat = c.val.toNat := rfl
    unfold String.utf8EncodeChar
    dsimp only
    rw [← hval]
    split
    · omega
    · split
      · simp only [List.map_cons, List.map_nil]
        rw [lower_of_large (by omega) (by omega), lower_of_large (by omega) (by omega)]
      · split
        · simp only [List.map_cons, List.map_nil]
          rw [lower_of_large (by omega) (by omega), lower_of_large (by omega) (by omega),
            lower_of_large (by omega) (by omega)]
        · simp only [List.map_cons, List.map_nil]
          rw [lower_of_large (by omega) (by omega), lower_of_large (by omega) (by omega),
            lower_of_large (by omega) (by omega), lower_of_large (by omega) (by omega)]

theorem toList_toLower (s : String) : s.toLower.toList = s.toList.map Char.toLower := String.toList_map

/-- **A text is lowered as its bytes are.** -/
theorem map_lower_ofText (s : String) : (ofText s).map lower = ofText s.toLower := by
  rw [ofText_eq_flatMap, ofText_eq_flatMap, toList_toLower, List.map_flatMap, List.flatMap_map]
  simp only [map_lower_utf8EncodeChar]

theorem ofText_inj {s s' : String} : ofText s = ofText s' ↔ s = s' := by
  constructor
  · intro h
    have hs : text? (ofText s) = some s := text?_eq_some.mpr rfl
    rw [h, text?_eq_some.mpr rfl] at hs
    exact (Option.some.inj hs).symm
  · rintro rfl
    rfl

end Bytes

/-! ## Digits -/

namespace Hex

/-- The lower-case digit of a number below sixteen, as a byte. -/
def digitByte (n : Nat) : UInt8 := UInt8.ofNat (digit .lower n).toNat

/-- The two digits of a byte, as bytes. -/
def digitBytes (b : UInt8) : Bytes := [digitByte (b.toNat / 16), digitByte (b.toNat % 16)]

variable {b high low : UInt8} {n i position : Nat} {bs ds : Bytes} {e : Error} {text : String}

/-- **A byte is a digit** just if, but for the case of letters, it is the digit of its value. -/
theorem digitValue?_eq_some : digitValue? b = some n ↔ n < 16 ∧ Bytes.lower b = digitByte n := by
  have hsmall : ∀ m < 256, ∀ n ∈ digitValue? (UInt8.ofNat m), n < 16 := by decide +kernel
  have hall : ∀ m < 256, ∀ n < 16,
      (digitValue? (UInt8.ofNat m) = some n ↔ Bytes.lower (UInt8.ofNat m) = digitByte n) := by decide +kernel
  have hlt := hsmall b.toNat b.toNat_lt n
  have hvalue := hall b.toNat b.toNat_lt n
  rw [UInt8.ofNat_toNat] at hlt hvalue
  constructor
  · intro h
    exact ⟨hlt h, (hvalue (hlt h)).mp h⟩
  · rintro ⟨hn, h⟩
    exact (hvalue hn).mpr h

/-- **Two digits are those of a byte** just if they stand for it. -/
theorem pair_eq_digitBytes : [Bytes.lower high, Bytes.lower low] = digitBytes b ↔
    ∃ h l, digitValue? high = some h ∧ digitValue? low = some l ∧ UInt8.ofNat (16 * h + l) = b := by
  have hb := b.toNat_lt
  simp only [digitBytes, List.cons.injEq, and_true, digitValue?_eq_some]
  constructor
  · rintro ⟨hhigh, hlow⟩
    refine ⟨_, _, ⟨by omega, hhigh⟩, ⟨by omega, hlow⟩, ?_⟩
    rw [Nat.div_add_mod, UInt8.ofNat_toNat]
  · rintro ⟨h, l, ⟨hh, hhigh⟩, ⟨hl, hlow⟩, rfl⟩
    have hlt : 16 * h + l < 256 := by omega
    have htoNat : (UInt8.ofNat (16 * h + l)).toNat = 16 * h + l := UInt8.toNat_ofNat_of_lt' hlt
    rw [htoNat, hhigh, hlow]
    exact ⟨congrArg digitByte (by omega), congrArg digitByte (by omega)⟩

/-! ## Pairs -/

/-- The bytes left behind a pair are as even in number as those with it. -/
theorem even_of_pair (heven : (high :: low :: ds).length % 2 = 0) : ds.length % 2 = 0 := by
  simp only [List.length_cons] at heven
  omega

/-- Nothing is left where pairs end. -/
theorem eq_nil_of_no_pair (heven : ds.length % 2 = 0)
    (hends : ∀ high low rest, ds = high :: low :: rest → False) : ds = [] := by
  match ds with
  | [] => rfl
  | [_] => simp at heven
  | high :: low :: rest => exact (hends high low rest rfl).elim

/-- A pair and what follows it are the digits of some bytes just if they are those of the first one and of the rest. -/
theorem lower_pair_eq : (high :: low :: ds).map Bytes.lower = bs.flatMap digitBytes ↔
    ∃ b rest, bs = b :: rest ∧ [Bytes.lower high, Bytes.lower low] = digitBytes b ∧
      ds.map Bytes.lower = rest.flatMap digitBytes := by
  cases bs with
  | nil => simp
  | cons b rest => simp [digitBytes, and_assoc]

/-- **Pairs of digits are read as some bytes** just if, but for the case of letters, they are their digits. -/
theorem decodePairs_eq_ok (heven : ds.length % 2 = 0) :
    decodePairs position ds = .ok bs ↔ ds.map Bytes.lower = bs.flatMap digitBytes := by
  fun_induction decodePairs position ds generalizing bs with
  | case1 position high low rest h l hlow hhigh ih =>
      rw [except_map_eq_ok]
      constructor
      · rintro ⟨tail, htail, rfl⟩
        have hpair := pair_eq_digitBytes.mpr ⟨h, l, hhigh, hlow, rfl⟩
        exact lower_pair_eq.mpr ⟨_, tail, rfl, hpair, (ih (even_of_pair heven)).mp htail⟩
      · intro hlower
        obtain ⟨b, tail, rfl, hpair, hrest⟩ := lower_pair_eq.mp hlower
        obtain ⟨h', l', hhigh', hlow', rfl⟩ := pair_eq_digitBytes.mp hpair
        obtain rfl := Option.some.inj (hhigh.symm.trans hhigh')
        obtain rfl := Option.some.inj (hlow.symm.trans hlow')
        exact ⟨tail, (ih (even_of_pair heven)).mpr hrest, rfl⟩
  | case2 position high low rest hhigh =>
      refine ⟨nofun, fun hlower => ?_⟩
      obtain ⟨b, -, -, hpair, -⟩ := lower_pair_eq.mp hlower
      obtain ⟨h, l, hdigit, -, -⟩ := pair_eq_digitBytes.mp hpair
      rw [hhigh] at hdigit
      contradiction
  | case3 position high low rest h hlow hhigh =>
      refine ⟨nofun, fun hlower => ?_⟩
      obtain ⟨b, -, -, hpair, -⟩ := lower_pair_eq.mp hlower
      obtain ⟨h, l, -, hdigit, -⟩ := pair_eq_digitBytes.mp hpair
      rw [hlow] at hdigit
      contradiction
  | case4 ds position hends =>
      obtain rfl := eq_nil_of_no_pair heven hends
      cases bs with
      | nil => simp
      | cons b rest => simp [digitBytes]

/-- **The first byte that is no digit**, and how many digits stand before it. -/
def FirstBad (ds : Bytes) (b : UInt8) (i : Nat) : Prop :=
  ∃ before after, ds = before ++ b :: after ∧ before.length = i ∧ (∀ x ∈ before, digitValue? x ≠ none) ∧
    digitValue? b = none

theorem firstBad_of_bad (h : digitValue? high = none) : FirstBad (high :: ds) b i ↔ b = high ∧ i = 0 := by
  constructor
  · rintro ⟨before, after, heq, rfl, hbefore, hb⟩
    cases before with
    | nil => exact ⟨(List.cons.inj heq).1.symm, rfl⟩
    | cons x before =>
        obtain rfl := (List.cons.inj heq).1
        exact absurd h (hbefore _ List.mem_cons_self)
  · rintro ⟨rfl, rfl⟩
    exact ⟨[], ds, rfl, rfl, nofun, h⟩

theorem firstBad_of_digit (h : digitValue? high = some n) :
    FirstBad (high :: ds) b i ↔ ∃ j, i = j + 1 ∧ FirstBad ds b j := by
  constructor
  · rintro ⟨before, after, heq, rfl, hbefore, hb⟩
    cases before with
    | nil =>
        obtain rfl := (List.cons.inj heq).1
        rw [h] at hb
        exact absurd hb (Option.some_ne_none n)
    | cons x before =>
        exact ⟨before.length, rfl, before, after, (List.cons.inj heq).2, rfl,
          fun y hy => hbefore y (List.mem_cons_of_mem x hy), hb⟩
  · rintro ⟨_, rfl, before, after, rfl, rfl, hbefore, hb⟩
    refine ⟨high :: before, after, rfl, rfl, List.forall_mem_cons.mpr ⟨?_, hbefore⟩, hb⟩
    rw [h]
    exact nofun

/-- **Pairs are refused** just for the first byte that is no digit. -/
theorem decodePairs_eq_error (heven : ds.length % 2 = 0) :
    decodePairs position ds = .error e ↔ ∃ b i, FirstBad ds b i ∧ e = .badDigit b (position + i) := by
  fun_induction decodePairs position ds with
  | case1 position high low rest h l hlow hhigh ih =>
      have hshift (b : UInt8) (i : Nat) :
          Error.badDigit b (position + 2 + i) = .badDigit b (position + (i + 1 + 1)) :=
        congrArg (Error.badDigit b) (by omega)
      rw [except_map_eq_error, ih (even_of_pair heven)]
      simp only [firstBad_of_digit hhigh, firstBad_of_digit hlow]
      constructor
      · rintro ⟨b, i, hbad, rfl⟩
        exact ⟨b, i + 1 + 1, ⟨i + 1, rfl, i, rfl, hbad⟩, hshift b i⟩
      · rintro ⟨b, _, ⟨_, rfl, i, rfl, hbad⟩, rfl⟩
        exact ⟨b, i, hbad, (hshift b i).symm⟩
  | case2 position high low rest hhigh =>
      simp only [firstBad_of_bad hhigh]
      constructor
      · intro h
        exact ⟨high, 0, ⟨rfl, rfl⟩, (Except.error.inj h).symm⟩
      · rintro ⟨_, _, ⟨rfl, rfl⟩, rfl⟩
        rfl
  | case3 position high low rest h hlow hhigh =>
      simp only [firstBad_of_digit hhigh, firstBad_of_bad hlow]
      constructor
      · intro h
        exact ⟨low, 1, ⟨0, rfl, rfl, rfl⟩, (Except.error.inj h).symm⟩
      · rintro ⟨_, _, ⟨_, rfl, rfl, rfl⟩, rfl⟩
        rfl
  | case4 ds position hends =>
      obtain rfl := eq_nil_of_no_pair heven hends
      constructor
      · exact nofun
      · rintro ⟨b, i, ⟨before, after, heq, -⟩, -⟩
        exact absurd heq (List.append_ne_nil_of_right_ne_nil before (List.cons_ne_nil b after)).symm

/-! ## Texts -/

/-- The text of some bytes is their digits. -/
theorem ofText_encode (bs : Bytes) : Bytes.ofText (encode bs) = bs.flatMap digitBytes := by
  have hdigit : ∀ n < 16, String.utf8EncodeChar (digit .lower n) = [digitByte n] := by decide
  rw [Bytes.ofText_eq_flatMap, encode, String.toList_ofList, List.flatMap_assoc]
  refine congrArg (bs.flatMap ·) (funext fun b => ?_)
  have hb := b.toNat_lt
  simp only [ofByte, List.flatMap_cons, List.flatMap_nil, hdigit (b.toNat / 16) (by omega),
    hdigit (b.toNat % 16) (by omega)]
  rfl

theorem length_flatMap_digitBytes (bs : Bytes) : (bs.flatMap digitBytes).length = 2 * bs.length := by
  induction bs with
  | nil => rfl
  | cons b rest ih =>
      rw [List.flatMap_cons, List.length_append, ih, List.length_cons]
      show 2 + 2 * rest.length = _
      omega

/-- **A text is, but for the case of letters, what some bytes are written as** just if its bytes are their digits. -/
theorem toLower_eq_encode_iff {s : String} :
    s.toLower = encode bs ↔ (Bytes.ofText s).map Bytes.lower = bs.flatMap digitBytes := by
  rw [Bytes.map_lower_ofText, ← ofText_encode, Bytes.ofText_inj]

/-- What is written for bytes is even in length, and empty for no bytes only. -/
theorem length_of_toLower_eq_encode {s : String} (h : s.toLower = encode bs) :
    (Bytes.ofText s).length = 2 * bs.length := by
  rw [← length_flatMap_digitBytes, ← toLower_eq_encode_iff.mp h, List.length_map]

/-- **What is left of a text** once its blanks are gone, as bytes. -/
def left (text : String) : Bytes := Bytes.ofText (Text.withoutBlanks text)

theorem left_eq_nil_iff : left text = [] ↔ Text.withoutBlanks text = "" := by
  unfold left
  rw [← Bytes.ofText_inj]
  rfl

/-- **How a text is taken**, by what is left of it. -/
theorem decode_cases (text : String) :
    (left text = [] ∧ decode text = .error .empty) ∨
      ((left text).length % 2 = 1 ∧ decode text = .error (.oddLength (left text).length)) ∨
      (left text ≠ [] ∧ (left text).length % 2 = 0 ∧ decode text = decodePairs 0 (left text)) := by
  have hdecode : decode text = if left text = [] then .error .empty
      else if (left text).length % 2 = 1 then .error (.oddLength (left text).length)
      else decodePairs 0 (left text) := by
    unfold decode left
    simp only [List.isEmpty_iff]
  by_cases hnil : left text = []
  · exact .inl ⟨hnil, by rw [hdecode, if_pos hnil]⟩
  · by_cases hodd : (left text).length % 2 = 1
    · exact .inr (.inl ⟨hodd, by rw [hdecode, if_neg hnil, if_pos hodd]⟩)
    · exact .inr (.inr ⟨hnil, by omega, by rw [hdecode, if_neg hnil, if_neg hodd]⟩)

/-- **A text is read as some bytes** just if, but for blanks and the case of letters, it is what they are written as. -/
theorem decode_eq_ok_iff : decode text = .ok bs ↔ bs ≠ [] ∧ (Text.withoutBlanks text).toLower = encode bs := by
  rcases decode_cases text with ⟨hnil, hdecode⟩ | ⟨hodd, hdecode⟩ | ⟨hne, heven, hdecode⟩
  · rw [hdecode]
    refine ⟨nofun, fun ⟨hbs, hwritten⟩ => ?_⟩
    have hlength := length_of_toLower_eq_encode hwritten
    rw [← left, hnil, List.length_nil] at hlength
    exact absurd (List.length_eq_zero_iff.mp (by omega)) hbs
  · rw [hdecode]
    refine ⟨nofun, fun ⟨_, hwritten⟩ => ?_⟩
    have hlength := length_of_toLower_eq_encode hwritten
    rw [← left] at hlength
    omega
  · rw [hdecode, decodePairs_eq_ok heven, toLower_eq_encode_iff, ← left]
    refine ⟨fun hdigits => ⟨?_, hdigits⟩, And.right⟩
    rintro rfl
    exact hne (List.map_eq_nil_iff.mp hdigits)

/-- **A text is refused** for the first of these reasons that holds. -/
theorem decode_eq_error_iff : decode text = .error e ↔
    (left text = [] ∧ e = .empty) ∨
      ((left text).length % 2 = 1 ∧ e = .oddLength (left text).length) ∨
      ((left text).length % 2 = 0 ∧ ∃ b i, FirstBad (left text) b i ∧ e = .badDigit b i) := by
  have hsome {b : UInt8} {i : Nat} : ¬ FirstBad [] b i := fun ⟨before, after, heq, _⟩ =>
    List.append_ne_nil_of_right_ne_nil before (List.cons_ne_nil b after) heq.symm
  rcases decode_cases text with ⟨hnil, hdecode⟩ | ⟨hodd, hdecode⟩ | ⟨hne, heven, hdecode⟩
  · rw [hdecode, hnil]
    simp [hsome, eq_comm]
  · have hne : left text ≠ [] := by
      rintro hnil
      rw [hnil] at hodd
      contradiction
    rw [hdecode]
    simp [hne, hodd, eq_comm]
  · rw [hdecode, decodePairs_eq_error heven]
    simp [hne, heven]

/-! ## Written texts -/

/-- What is left of a text in which everything that separates digits is taken away. -/
theorem filter_separated {keep : Char → Bool} {letters : Case} {separator : String}
    (hseparator : separator.toList.filter keep = []) (hdigit : ∀ n < 16, keep (digit letters n) = true)
    (bs : Bytes) : (separated letters separator bs).toList.filter keep = bs.flatMap (ofByte letters) := by
  have hbyte (b : UInt8) : (ofByte letters b).filter keep = ofByte letters b := by
    have hb := b.toNat_lt
    simp [ofByte, hdigit (b.toNat / 16) (by omega), hdigit (b.toNat % 16) (by omega)]
  unfold separated
  rw [String.toList_intercalate, List.map_map]
  induction bs with
  | nil => rfl
  | cons b rest ih =>
      cases rest with
      | nil => simp [hbyte]
      | cons b' rest =>
          simp only [List.map_cons, List.intercalate_cons_cons, List.filter_append, hseparator] at ih ⊢
          rw [ih]
          simp [hbyte]

/-- Digits in lower case. -/
theorem map_toLower_ofByte (letters : Case) (bs : Bytes) :
    (bs.flatMap (ofByte letters)).map Char.toLower = bs.flatMap (ofByte .lower) := by
  have hdigit : ∀ n < 16, (digit letters n).toLower = digit .lower n := by
    cases letters with
    | _ => decide
  rw [List.map_flatMap]
  refine congrArg (bs.flatMap ·) (funext fun b => ?_)
  have hb := b.toNat_lt
  simp [ofByte, hdigit (b.toNat / 16) (by omega), hdigit (b.toNat % 16) (by omega)]

/-- **Digits that are set apart are the digits**, once what is between them is taken away. -/
theorem toLower_separated {keep : Char → Bool} {letters : Case} {separator : String}
    (hseparator : separator.toList.filter keep = []) (hdigit : ∀ n < 16, keep (digit letters n) = true)
    (bs : Bytes) : (String.ofList ((separated letters separator bs).toList.filter keep)).toLower = encode bs := by
  apply String.toList_inj.mp
  rw [Bytes.toList_toLower, String.toList_ofList, filter_separated hseparator hdigit, map_toLower_ofByte,
    encode, String.toList_ofList]

/-- Digits that are set apart by blanks are read as what they are written for. -/
theorem decode_spaced (bs : Bytes) : decode (spaced bs) = if bs = [] then .error .empty else .ok bs := by
  have hwritten : (Text.withoutBlanks (spaced bs)).toLower = encode bs :=
    toLower_separated (by decide) (by decide) bs
  split
  · next h =>
    subst h
    decide
  · next h => exact decode_eq_ok_iff.mpr ⟨h, hwritten⟩

/-- **What a text of digits is read as**, and why it is refused if it is. -/
structure Judged (text : String) : Prop where
  /-- It is read as some bytes if, but for blanks and the case of letters, it is what they are written as. -/
  ok : ∀ bs, decode text = .ok bs ↔ bs ≠ [] ∧ (Text.withoutBlanks text).toLower = encode bs
  empty : decode text = .error .empty ↔ Text.withoutBlanks text = ""
  oddLength : ∀ n, decode text = .error (.oddLength n) ↔
    (Bytes.ofText (Text.withoutBlanks text)).length = n ∧ n % 2 = 1
  /-- Anything else has a byte that is no digit. -/
  otherwise : (∃ b i, decode text = .error (.badDigit b i)) ↔
    Text.withoutBlanks text ≠ "" ∧ (Bytes.ofText (Text.withoutBlanks text)).length % 2 = 0 ∧
      ∀ bs, (Text.withoutBlanks text).toLower ≠ encode bs
  /-- What is told then is the first byte that is no digit, and where it stands. -/
  badDigit : ∀ b i, decode text = .error (.badDigit b i) ↔
    (Bytes.ofText (Text.withoutBlanks text)).length % 2 = 0 ∧
      FirstBad (Bytes.ofText (Text.withoutBlanks text)) b i

theorem decode_ne_macLength (text : String) (n : Nat) : decode text ≠ .error (.macLength n) := by
  simp [decode_eq_error_iff]

theorem judged (text : String) : Judged text where
  ok _ := decode_eq_ok_iff
  empty := by simp [decode_eq_error_iff, left_eq_nil_iff]
  oddLength n := by
    simp only [decode_eq_error_iff, reduceCtorEq, and_false, false_or, or_false, Error.oddLength.injEq, exists_false]
    constructor
    · rintro ⟨hodd, rfl⟩
      exact ⟨rfl, hodd⟩
    · rintro ⟨rfl, hodd⟩
      exact ⟨hodd, rfl⟩
  badDigit b i := by
    simp only [decode_eq_error_iff, reduceCtorEq, and_false, false_or, Error.badDigit.injEq]
    refine and_congr_right fun _ => ⟨?_, fun hbad => ⟨b, i, hbad, rfl, rfl⟩⟩
    rintro ⟨_, _, hbad, rfl, rfl⟩
    exact hbad
  otherwise := by
    constructor
    · rintro ⟨b, i, hdecode⟩
      have hbytes : left text ≠ [] ∧ (left text).length % 2 = 0 := by
        rcases decode_cases text with ⟨-, hother⟩ | ⟨-, hother⟩ | ⟨hne, heven, -⟩
        · exact nomatch hdecode.symm.trans hother
        · exact nomatch hdecode.symm.trans hother
        · exact ⟨hne, heven⟩
      refine ⟨fun hempty => hbytes.1 (left_eq_nil_iff.mpr hempty), hbytes.2, fun bs hwritten => ?_⟩
      by_cases hbs : bs = []
      · subst hbs
        exact hbytes.1 (List.length_eq_zero_iff.mp (length_of_toLower_eq_encode hwritten))
      · exact nomatch hdecode.symm.trans (decode_eq_ok_iff.mpr ⟨hbs, hwritten⟩)
    · rintro ⟨hne, heven, hnot⟩
      cases hdecode : decode text with
      | ok bs => exact absurd (decode_eq_ok_iff.mp hdecode).2 (hnot bs)
      | error e =>
          rcases decode_eq_error_iff.mp hdecode with ⟨hnil, -⟩ | ⟨hodd, -⟩ | ⟨-, b, i, -, rfl⟩
          · exact absurd (left_eq_nil_iff.mp hnil) hne
          · exact absurd (heven.symm.trans hodd) nofun
          · exact ⟨b, i, rfl⟩

end Hex

namespace Mac

/-- **The digits of an address**: the text without colons, hyphens and blanks. -/
def digits (text : String) : String :=
  String.ofList (text.toList.filter fun c => c ≠ ':' ∧ c ≠ '-' ∧ Text.isBlank c = false)

/-- Nothing of the digits is a blank. -/
theorem withoutBlanks_digits (text : String) : Text.withoutBlanks (digits text) = digits text := by
  unfold Text.withoutBlanks digits
  rw [String.toList_ofList, List.filter_filter]
  refine congrArg String.ofList (List.filter_congr fun c _ => ?_)
  cases hblank : Text.isBlank c with
  | _ => simp

/-- What is read is the digits: of the separators, those that are blanks are skipped twice. -/
theorem decode_digits (text : String) :
    Hex.decode (String.ofList (text.toList.filter fun c => !isSeparator c)) = Hex.decode (digits text) := by
  have hleft : Text.withoutBlanks (String.ofList (text.toList.filter fun c => !isSeparator c)) =
      Text.withoutBlanks (digits text) := by
    rw [withoutBlanks_digits]
    unfold Text.withoutBlanks digits
    rw [String.toList_ofList, List.filter_filter]
    refine congrArg String.ofList (List.filter_congr fun c _ => ?_)
    by_cases hspace : c = ' '
    · subst hspace
      decide
    · rw [Bool.eq_iff_iff]
      simp [isSeparator, hspace, and_comm, and_left_comm, and_assoc]
  unfold Hex.decode
  rw [hleft]

/-- **A text is an address** just if its digits stand for six bytes. -/
theorem parse_eq_ok_iff {text : String} {m : Mac} : parse text = .ok m ↔ Hex.decode (digits text) = .ok m.octets := by
  unfold parse
  rw [decode_digits]
  obtain ⟨octets, hsix⟩ := m
  cases Hex.decode (digits text) with
  | error e => simp
  | ok bs =>
      by_cases hlength : bs.length = 6
      · simp [hlength]
      · -- Bytes that are not six are none of the address.
        have hne : bs ≠ octets := fun h => hlength (h ▸ hsix)
        simp [hlength, hne]

/-- **A text is refused as an address** as its digits are, or for their number. -/
theorem parse_eq_error_iff {text : String} {e : Hex.Error} : parse text = .error e ↔
    Hex.decode (digits text) = .error e ∨
      ∃ bs, Hex.decode (digits text) = .ok bs ∧ bs.length ≠ 6 ∧ e = .macLength bs.length := by
  unfold parse
  rw [decode_digits]
  cases Hex.decode (digits text) with
  | error e' => simp
  | ok bs =>
      by_cases hlength : bs.length = 6
      · simp [hlength]
      · simp [hlength, eq_comm]

/-- **As what address a text is read**, and why it is refused if it is. -/
structure Judged (text : String) : Prop where
  ok : ∀ m : Mac, parse text = .ok m ↔ (digits text).toLower = Hex.encode m.octets
  macLength : ∀ n, parse text = .error (.macLength n) ↔
    n ≠ 6 ∧ ∃ bs, Hex.decode (digits text) = .ok bs ∧ bs.length = n
  /-- Anything else is refused for what is wrong with its digits. -/
  otherwise : ∀ e, (∀ n, e ≠ .macLength n) → (parse text = .error e ↔ Hex.decode (digits text) = .error e)

theorem judged (text : String) : Judged text where
  ok m := by
    have hne : m.octets ≠ [] := fun hnil => absurd (hnil ▸ m.length_octets) nofun
    rw [parse_eq_ok_iff, Hex.decode_eq_ok_iff, withoutBlanks_digits, and_iff_right hne]
  macLength n := by
    rw [parse_eq_error_iff, or_iff_right (Hex.decode_ne_macLength _ n)]
    constructor
    · rintro ⟨bs, hdecode, hlength, he⟩
      obtain rfl := Hex.Error.macLength.inj he
      exact ⟨hlength, bs, hdecode, rfl⟩
    · rintro ⟨hlength, bs, hdecode, rfl⟩
      exact ⟨bs, hdecode, hlength, rfl⟩
  otherwise e he := by
    rw [parse_eq_error_iff, or_iff_left]
    rintro ⟨bs, -, -, rfl⟩
    exact he bs.length rfl

theorem parse_render (m : Mac) : parse m.render = .ok m :=
  ((judged m.render).ok m).mpr (Hex.toLower_separated (by decide) (by decide) m.octets)

end Mac

/-- **Texts of digits and addresses are read exactly**: every text is judged as it says, digits that are set apart by
blanks are read as the bytes that they are written for, if there are any, and an address is read as it is written. -/
theorem Hex.texts_judged :
    (∀ text : String, Hex.Judged text ∧ Mac.Judged text) ∧
      (∀ bs : Bytes, Hex.decode (Hex.spaced bs) = if bs = [] then .error .empty else .ok bs) ∧
      ∀ m : Mac, Mac.parse m.render = .ok m :=
  ⟨fun text => ⟨Hex.judged text, Mac.judged text⟩, Hex.decode_spaced, Mac.parse_render⟩

/-- Wide blanks and both cases of letters; then a letter of two bytes, which is two bytes that are no digits. -/
example : Hex.decode "\u3000dE Ad\n" = .ok [0xDE, 0xAD] ∧ Hex.decode "0é0" = .error (.badDigit 0xC3 1) := by decide

end Peripherals
