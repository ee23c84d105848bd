import Peripherals.Proofs.Json.Numeral

/-!
# `Proofs.Json.Spelling` — the texts of a document

The grammar of documents is a relation between an outline and its texts: gaps may stand between any two parts, and a
string may be spelt with or without escapes. An outline that has a text shows no flaw, and the parser makes of that
text that outline. So the texts of different outlines are different, and whatever follows from an outline holds of
every way to write it down.

* `Spelt` — the grammar;
* `Parser.reads_spelt` — what the parser makes of a part of a document;
* `Outline.IsText`, `document_of_isText` — the texts of a whole one, and what it makes of them;
* `Outline.IsText.skip` — a value that is spelt in any way can be passed over.
-/

namespace Peripherals.Json

/-! ## Grammar -/

/-- Characters that may stand between the parts of a document. -/
def Gaps (cs : List Char) : Prop := ∀ c ∈ cs, Parser.isGap c = true

/-- The texts of a piece of a string. -/
inductive Piece.Spelt : Piece → List Char → Prop where
  | plain {c : Char} (hquote : c ≠ '"') (hescape : c ≠ '\\') (hcontrol : 32 ≤ c.toNat) : Spelt (.char c) [c]
  | escaped {e c : Char} (h : Parser.escape? e = some c) : Spelt (.char c) ['\\', e]
  | unit {c₁ c₂ c₃ c₄ : Char} {d₁ d₂ d₃ d₄ : Nat} (h₁ : Parser.hexDigit? c₁ = some d₁)
      (h₂ : Parser.hexDigit? c₂ = some d₂) (h₃ : Parser.hexDigit? c₃ = some d₃)
      (h₄ : Parser.hexDigit? c₄ = some d₄) :
      Spelt (.unit (((d₁ * 16 + d₂) * 16 + d₃) * 16 + d₄)) ['\\', 'u', c₁, c₂, c₃, c₄]

/-- The texts of the pieces of a string, without its quotes. -/
inductive PiecesSpelt : List Piece → List Char → Prop where
  | nil : PiecesSpelt [] []
  | cons {p : Piece} {ps : List Piece} {cs more : List Char} (hp : p.Spelt cs) (hps : PiecesSpelt ps more) :
      PiecesSpelt (p :: ps) (cs ++ more)

/-- A part of a document. -/
inductive Part where
  | value (o : Outline)
  /-- The items of an array; there is one at least. -/
  | items (items : List Outline)
  /-- The members of an object; there is one at least. -/
  | members (members : List (Quoted × Outline))

/-- **The texts of a part of a document.** -/
inductive Spelt : Part → List Char → Prop where
  | null : Spelt (.value .null) ['n', 'u', 'l', 'l']
  | yes : Spelt (.value (.bool true)) ['t', 'r', 'u', 'e']
  | no : Spelt (.value (.bool false)) ['f', 'a', 'l', 's', 'e']
  | number {n : Numeral} {cs : List Char} (h : n.Spelt cs) :
      Spelt (.value (.number n)) (signText n.negative ++ cs)
  | string {ps : List Piece} {cs : List Char} (h : PiecesSpelt ps cs) :
      Spelt (.value (.string ⟨ps, none⟩)) ('"' :: (cs ++ ['"']))
  | noItems {gaps : List Char} (hgaps : Gaps gaps) : Spelt (.value (.array [] none)) ('[' :: (gaps ++ [']']))
  | array {os : List Outline} {cs : List Char} (h : Spelt (.items os) cs) :
      Spelt (.value (.array os none)) ('[' :: (cs ++ [']']))
  | noMembers {gaps : List Char} (hgaps : Gaps gaps) : Spelt (.value (.object [] none)) ('{' :: (gaps ++ ['}']))
  | object {ms : List (Quoted × Outline)} {cs : List Char} (h : Spelt (.members ms) cs) :
      Spelt (.value (.object ms none)) ('{' :: (cs ++ ['}']))
  | item {o : Outline} {before cs after : List Char} (hbefore : Gaps before) (h : Spelt (.value o) cs)
      (hafter : Gaps after) : Spelt (.items [o]) (before ++ (cs ++ after))
  | items {o : Outline} {os : List Outline} {before cs after more : List Char} (hbefore : Gaps before)
      (h : Spelt (.value o) cs) (hafter : Gaps after) (hmore : Spelt (.items os) more) :
      Spelt (.items (o :: os)) (before ++ (cs ++ (after ++ ',' :: more)))
  | member {key : List Piece} {o : Outline} {before name behind between cs after : List Char} (hbefore : Gaps before)
      (hkey : PiecesSpelt key name) (hbehind : Gaps behind) (hbetween : Gaps between) (h : Spelt (.value o) cs)
      (hafter : Gaps after) :
      Spelt (.members [(⟨key, none⟩, o)]) (before ++ '"' :: (name ++ '"' :: (behind ++ ':' :: (between ++ (cs ++ after)))))
  | members {key : List Piece} {o : Outline} {ms : List (Quoted × Outline)}
      {before name behind between cs after more : List Char} (hbefore : Gaps before)
      (hkey : PiecesSpelt key name) (hbehind : Gaps behind) (hbetween : Gaps between) (h : Spelt (.value o) cs)
      (hafter : Gaps after) (hmore : Spelt (.members ms) more) :
      Spelt (.members ((⟨key, none⟩, o) :: ms))
        (before ++ '"' :: (name ++ '"' :: (behind ++ ':' :: (between ++ (cs ++ (after ++ ',' :: more))))))

/-- **The texts of a document**: those of its value, with gaps around them. -/
def Outline.IsText (o : Outline) (text : String) : Prop :=
  ∃ before cs after, Gaps before ∧ Spelt (.value o) cs ∧ Gaps after ∧ text.toList = before ++ (cs ++ after)

theorem gaps_nil : Gaps [] := fun _ hc => absurd hc List.not_mem_nil

theorem gaps_blank : Gaps [' '] := by
  intro c hc
  rw [List.mem_singleton.mp hc]
  rfl

theorem Spelt.isText {o : Outline} {text : String} (h : Spelt (.value o) text.toList) : o.IsText text :=
  ⟨[], _, [], gaps_nil, h, gaps_nil, (List.append_nil _).symm⟩

namespace Parser

/-! ## Gaps and strings -/

theorem skipGaps_append {gaps : List Char} (h : Gaps gaps) (rest : List Char) :
    skipGaps (gaps ++ rest) = skipGaps rest :=
  List.dropWhile_append_of_pos h

theorem skipGaps_cons {c : Char} (h : isGap c = false) (rest : List Char) : skipGaps (c :: rest) = c :: rest := by
  simp [skipGaps, h]

theorem skipGaps_idem (cs : List Char) : skipGaps (skipGaps cs) = skipGaps cs := by
  cases hskip : skipGaps cs with
  | nil => rfl
  | cons c rest =>
      have hc : isGap c = false := by
        have hfirst := List.head?_dropWhile_not isGap cs
        rw [show cs.dropWhile isGap = c :: rest from hskip] at hfirst
        simpa using hfirst
      exact skipGaps_cons hc rest

theorem string_escaped {e c : Char} (h : escape? e = some c) (rest : List Char) :
    string ('\\' :: e :: rest) = (⟨.char c :: (string rest).1.pieces, (string rest).1.flaw⟩, (string rest).2) := by
  have hunit : e ≠ 'u' := by
    rintro rfl
    contradiction
  simp [string, h, hunit]

/-- **A string is read as it is spelt**, up to its closing quote. -/
theorem string_spelt {ps : List Piece} {cs : List Char} (h : PiecesSpelt ps cs) (rest : List Char) :
    string (cs ++ '"' :: rest) = (⟨ps, none⟩, rest) := by
  induction h with
  | nil => rfl
  | @cons p ps cs more hp _ ih =>
      cases hp with
      | @plain c hquote hescape hcontrol =>
          have hplain : ¬ c.toNat < 32 := Nat.not_lt.mpr hcontrol
          simp [string, hescape, hplain, ih]
      | escaped he => simp [string_escaped he, ih]
      | unit h₁ h₂ h₃ h₄ => simp [string, h₁, h₂, h₃, h₄, ih]

/-! ## Values -/

variable {gaps rest : List Char} {fuel : Nat}

/-- Gaps in front of a value make no difference. -/
theorem value_append_gaps (h : Gaps gaps) (cs : List Char) : value (fuel + 1) (gaps ++ cs) = value (fuel + 1) cs := by
  rw [value, value, skipGaps_append h]

theorem value_skipGaps (cs : List Char) : value (fuel + 1) (skipGaps cs) = value (fuel + 1) cs := by
  rw [value, value, skipGaps_idem]

theorem items_skipGaps (cs : List Char) : items (fuel + 2) (skipGaps cs) = items (fuel + 2) cs := by
  rw [items, items, value_skipGaps]

theorem members_skipGaps (cs : List Char) : members (fuel + 1) (skipGaps cs) = members (fuel + 1) cs := by
  rw [members, members, skipGaps_idem]

theorem ne_of_digit {c x : Char} (h : (digit? c).isSome) (hx : digit? x = none) : c ≠ x := by
  rintro rfl
  rw [hx] at h
  contradiction

theorem isGap_of_digit {c : Char} (h : (digit? c).isSome) : isGap c = false ∧ c ≠ ']' := by
  have hspace : c ≠ ' ' := ne_of_digit h rfl
  have hline : c ≠ '\n' := ne_of_digit h rfl
  have htab : c ≠ '\t' := ne_of_digit h rfl
  have hreturn : c ≠ '\r' := ne_of_digit h rfl
  exact ⟨by simp [isGap, hspace, hline, htab, hreturn], ne_of_digit h rfl⟩

/-- A digit begins a number. -/
theorem value_digit {c : Char} (h : (digit? c).isSome) (cs : List Char) :
    value (fuel + 1) (c :: cs) = number false (c :: cs) := by
  rw [value, skipGaps_cons (isGap_of_digit h).1]
  split
  · contradiction
  · next heq => exact absurd (List.cons.inj heq).1 (ne_of_digit h rfl)
  · next heq => exact absurd (List.cons.inj heq).1 (ne_of_digit h rfl)
  · next heq => exact absurd (List.cons.inj heq).1 (ne_of_digit h rfl)
  · next heq => exact absurd (List.cons.inj heq).1 (ne_of_digit h rfl)
  · next heq => exact absurd (List.cons.inj heq).1 (ne_of_digit h rfl)
  · next heq => exact absurd (List.cons.inj heq).1 (ne_of_digit h rfl)
  · next heq => exact absurd (List.cons.inj heq).1 (ne_of_digit h rfl)
  · next heq =>
    obtain ⟨rfl, rfl⟩ := List.cons.inj heq
    exact if_pos h

theorem first_number {n : Numeral} {cs : List Char} (h : n.Spelt cs) :
    ∃ c more, cs = c :: more ∧ (digit? c).isSome := by
  obtain ⟨_, hsome, -, hwhole, -, -⟩ := h
  rename_i whole _ _ _
  cases whole with
  | nil => exact absurd rfl hsome
  | cons d ds =>
      have hd := digit?_digitChar (hwhole d List.mem_cons_self)
      exact ⟨d.digitChar, _, rfl, by rw [hd]; rfl⟩

theorem value_number {n : Numeral} {cs : List Char} (h : n.Spelt cs) (hrest : Ends rest) :
    value (fuel + 1) (signText n.negative ++ cs ++ rest) = (.number n, rest) := by
  have hnumber := number_spelt h hrest
  cases hnegative : n.negative with
  | true =>
      rw [hnegative] at hnumber
      exact hnumber
  | false =>
      rw [hnegative] at hnumber
      obtain ⟨c, more, rfl, hc⟩ := first_number h
      exact (value_digit hc (more ++ rest)).trans hnumber

/-! ## Parts of a document -/

/-- What the parser makes of a part of a document, whatever follows it. -/
def Reads : Part → List Char → Prop
  | .value o, cs => ∀ fuel rest, cs.length ≤ fuel → Ends rest → value fuel (cs ++ rest) = (o, rest)
  | .items os, cs => ∀ fuel rest, cs.length < fuel → items fuel (cs ++ ']' :: rest) = (.array os none, rest)
  | .members ms, cs => ∀ fuel rest, cs.length < fuel → members fuel (cs ++ '}' :: rest) = (.object ms none, rest)

variable {o : Outline} {cs : List Char}

/-- A value that has a text shows no flaw. -/
theorem not_breaksOff (h : Spelt (.value o) cs) : breaksOff o = false := by
  cases h <;> rfl

/-- A value begins with a character of its own. -/
theorem first_value (h : Spelt (.value o) cs) : ∃ c more, cs = c :: more ∧ isGap c = false ∧ c ≠ ']' := by
  cases h with
  | @number n cs h =>
      cases n.negative with
      | true => exact ⟨'-', cs, rfl, rfl, by decide⟩
      | false =>
          obtain ⟨c, more, rfl, hc⟩ := first_number h
          exact ⟨c, more, rfl, isGap_of_digit hc⟩
  | _ => exact ⟨_, _, rfl, rfl, by decide⟩

theorem ends_gaps {c : Char} (h : Gaps gaps) (hc : closes c = true) (more : List Char) : Ends (gaps ++ c :: more) := by
  intro c' hc'
  cases gaps with
  | nil => exact Option.some.inj hc' ▸ hc
  | cons gap gaps =>
      have hgap : isGap gap = true := h gap List.mem_cons_self
      rw [← Option.some.inj hc', closes, hgap]
      rfl

/-- A value between gaps, before a comma or a closing bracket. -/
theorem Reads.between {before after : List Char} {c : Char} (h : Reads (.value o) cs) (hspelt : Spelt (.value o) cs)
    (hbefore : Gaps before) (hafter : Gaps after) (hc : closes c = true) (fuel : Nat) (hfuel : cs.length ≤ fuel)
    (more : List Char) : value fuel (before ++ (cs ++ (after ++ c :: more))) = (o, after ++ c :: more) := by
  obtain ⟨_, _, rfl, -⟩ := first_value hspelt
  obtain ⟨fuel, rfl⟩ : ∃ k, fuel = k + 1 := ⟨fuel - 1, by simp at hfuel; omega⟩
  rw [value_append_gaps hbefore]
  exact h (fuel + 1) _ hfuel (ends_gaps hafter hc more)

theorem first_items {os : List Outline} (h : Spelt (.items os) cs) (rest : List Char) :
    cs ≠ [] ∧ ∃ c more, skipGaps (cs ++ rest) = c :: more ∧ c ≠ ']' := by
  cases h with
  | item hbefore h _ =>
      obtain ⟨c, more, rfl, hgap, hc⟩ := first_value h
      rw [List.append_assoc, skipGaps_append hbefore]
      exact ⟨by simp, c, _, skipGaps_cons hgap _, hc⟩
  | items hbefore h _ _ =>
      obtain ⟨c, more, rfl, hgap, hc⟩ := first_value h
      rw [List.append_assoc, skipGaps_append hbefore]
      exact ⟨by simp, c, _, skipGaps_cons hgap _, hc⟩

theorem first_members {ms : List (Quoted × Outline)} (h : Spelt (.members ms) cs) (rest : List Char) :
    ∃ more, skipGaps (cs ++ rest) = '"' :: more := by
  cases h with
  | member hbefore _ _ _ _ _ =>
      rw [List.append_assoc, skipGaps_append hbefore]
      exact ⟨_, skipGaps_cons rfl _⟩
  | members hbefore _ _ _ _ _ _ =>
      rw [List.append_assoc, skipGaps_append hbefore]
      exact ⟨_, skipGaps_cons rfl _⟩

theorem value_bracket (cs : List Char) : value (fuel + 1) ('[' :: cs) = match skipGaps cs with
    | ']' :: rest => (.array [] none, rest)
    | [] => (.array [] (some .ended), [])
    | rest => items fuel rest := rfl

theorem value_brace (cs : List Char) : value (fuel + 1) ('{' :: cs) = match skipGaps cs with
    | '}' :: rest => (.object [] none, rest)
    | rest => members fuel rest := rfl

/-- An array that does not end at once has items. -/
theorem value_array {c : Char} {more : List Char} (hfirst : skipGaps cs = c :: more) (hc : c ≠ ']') :
    value (fuel + 3) ('[' :: cs) = items (fuel + 2) cs := by
  rw [value_bracket, ← items_skipGaps cs, hfirst]
  split
  · next heq => exact absurd (List.cons.inj heq).1 hc
  · contradiction
  · rfl

/-- An object that does not end at once has members. -/
theorem value_object {more : List Char} (hfirst : skipGaps cs = '"' :: more) :
    value (fuel + 2) ('{' :: cs) = members (fuel + 1) cs := by
  rw [value_brace, ← members_skipGaps cs, hfirst]
  rfl

/-- The key of a member and its colon. -/
theorem members_key {before behind name : List Char} {key : List Piece} (hbefore : Gaps before)
    (hkey : PiecesSpelt key name) (hbehind : Gaps behind) (cs : List Char) :
    members (fuel + 1) (before ++ '"' :: (name ++ '"' :: (behind ++ ':' :: cs))) =
      match value fuel cs with
      | (item, rest) =>
        if breaksOff item then (.object [(⟨key, none⟩, item)] (some .malformed), rest)
        else match skipGaps rest with
          | '}' :: rest => (.object [(⟨key, none⟩, item)] none, rest)
          | ',' :: rest =>
            match members fuel rest with
            | (.object more flaw, rest) => (.object ((⟨key, none⟩, item) :: more) flaw, rest)
            | (_, rest) => (.object [(⟨key, none⟩, item)] (some .malformed), rest)
          | [] => (.object [(⟨key, none⟩, item)] (some .ended), [])
          | rest => (.object [(⟨key, none⟩, item)] (some .malformed), rest) := by
  have hcolon : skipGaps (behind ++ ':' :: cs) = ':' :: cs := skipGaps_append hbehind _
  rw [members, skipGaps_append hbefore, skipGaps_cons rfl]
  simp only [string_spelt hkey, hcolon]
  rfl

/-- **What the parser makes of a part of a document** is the part that the text spells. By induction on the grammar;
every bracket and every comma pays for the fuel of a nested call. -/
theorem reads_spelt {p : Part} (h : Spelt p cs) : Reads p cs := by
  have hpositive {fuel : Nat} {c : Char} {cs : List Char} (h : (c :: cs).length ≤ fuel) : ∃ k, fuel = k + 1 :=
    ⟨fuel - 1, by simp at h; omega⟩
  induction h with
  | null | yes | no =>
      intro fuel rest hfuel _
      obtain ⟨k, rfl⟩ := hpositive hfuel
      rfl
  | number h =>
      intro fuel rest hfuel hrest
      obtain ⟨c, more, hfirst, -⟩ := first_value (.number h)
      obtain ⟨k, rfl⟩ := hpositive (hfirst ▸ hfuel)
      exact value_number h hrest
  | @string ps cs h =>
      intro fuel rest hfuel _
      obtain ⟨k, rfl⟩ := hpositive hfuel
      have hvalue : value (k + 1) ('"' :: (cs ++ '"' :: rest)) =
        (.string (string (cs ++ '"' :: rest)).1, (string (cs ++ '"' :: rest)).2) := rfl
      rw [List.cons_append, List.append_assoc, List.singleton_append, hvalue, string_spelt h]
  | noItems hgaps =>
      intro fuel rest hfuel _
      obtain ⟨k, rfl⟩ := hpositive hfuel
      rw [List.cons_append, List.append_assoc, List.singleton_append, value_bracket, skipGaps_append hgaps]
      rfl
  | array h ih =>
      intro fuel rest hfuel _
      obtain ⟨hsome, c, more, hfirst, hc⟩ := first_items h (']' :: rest)
      have hlength := List.length_pos_iff.mpr hsome
      simp only [List.length_cons, List.length_append, List.length_nil] at hfuel
      obtain ⟨k, rfl⟩ : ∃ k, fuel = k + 3 := ⟨fuel - 3, by omega⟩
      rw [List.cons_append, List.append_assoc, List.singleton_append, value_array hfirst hc]
      exact ih (k + 2) rest (by omega)
  | noMembers hgaps =>
      intro fuel rest hfuel _
      obtain ⟨k, rfl⟩ := hpositive hfuel
      rw [List.cons_append, List.append_assoc, List.singleton_append, value_brace, skipGaps_append hgaps]
      rfl
  | object h ih =>
      intro fuel rest hfuel _
      obtain ⟨more, hfirst⟩ := first_members h ('}' :: rest)
      obtain ⟨k, rfl⟩ : ∃ k, fuel = k + 2 := ⟨fuel - 2, by simp at hfuel; omega⟩
      rw [List.cons_append, List.append_assoc, List.singleton_append, value_object hfirst]
      exact ih (k + 1) rest (by simp at hfuel; omega)
  | item hbefore h hafter ih =>
      intro fuel rest hfuel
      simp only [List.length_append] at hfuel
      obtain ⟨k, rfl⟩ : ∃ k, fuel = k + 1 := ⟨fuel - 1, by omega⟩
      have hvalue := ih.between h hbefore hafter (c := ']') rfl k (by omega) rest
      simp only [List.append_assoc]
      rw [items, hvalue]
      simp only [not_breaksOff h, skipGaps_append hafter, skipGaps_cons (c := ']') rfl]
      rfl
  | items hbefore h hafter hmore ih ihmore =>
      intro fuel rest hfuel
      simp only [List.length_append, List.length_cons] at hfuel
      obtain ⟨k, rfl⟩ : ∃ k, fuel = k + 1 := ⟨fuel - 1, by omega⟩
      have hvalue := ih.between h hbefore hafter (c := ',') rfl k (by omega)
      simp only [List.append_assoc, List.cons_append]
      rw [items, hvalue]
      simp only [not_breaksOff h, skipGaps_append hafter, skipGaps_cons (c := ',') rfl, ihmore k rest (by omega)]
      rfl
  | member hbefore hkey hbehind hbetween h hafter ih =>
      intro fuel rest hfuel
      simp only [List.length_append, List.length_cons] at hfuel
      obtain ⟨k, rfl⟩ : ∃ k, fuel = k + 1 := ⟨fuel - 1, by omega⟩
      have hvalue := ih.between h hbetween hafter (c := '}') rfl k (by omega) rest
      simp only [List.append_assoc, List.cons_append]
      rw [members_key hbefore hkey hbehind, hvalue]
      simp only [not_breaksOff h, skipGaps_append hafter, skipGaps_cons (c := '}') rfl]
      rfl
  | members hbefore hkey hbehind hbetween h hafter hmore ih ihmore =>
      intro fuel rest hfuel
      simp only [List.length_append, List.length_cons] at hfuel
      obtain ⟨k, rfl⟩ : ∃ k, fuel = k + 1 := ⟨fuel - 1, by omega⟩
      have hvalue := ih.between h hbetween hafter (c := ',') rfl k (by omega)
      simp only [List.append_assoc, List.cons_append]
      rw [members_key hbefore hkey hbehind, hvalue]
      simp only [not_breaksOff h, skipGaps_append hafter, skipGaps_cons (c := ',') rfl, ihmore k rest (by omega)]
      rfl

/-- **The parser finds the value of a document** in every text of it, and no flaw. -/
theorem document_of_isText {text : String} (h : o.IsText text) : document text = ⟨o, none⟩ := by
  obtain ⟨before, cs, after, hbefore, h, hafter, htext⟩ := h
  have hends : Ends after := by
    intro c hc
    have hgap : isGap c = true := hafter c (List.mem_of_mem_head? hc)
    rw [closes, hgap]
    rfl
  have hlength : cs.length ≤ 2 * text.toList.length + 2 := by
    rw [htext, List.length_append, List.length_append]
    omega
  have hvalue : value (2 * text.toList.length + 2) text.toList = (o, after) := by
    have hread := reads_spelt h _ after hlength hends
    rw [← value_append_gaps hbefore, ← htext] at hread
    exact hread
  have hrest : skipGaps after = [] := by
    rw [← List.append_nil after, skipGaps_append hafter]
    rfl
  rw [document]
  simp only [hvalue, hrest]
  rfl

end Parser

/-! ## Passing over values -/

/-- A part of a document can be passed over. -/
def Part.Skips : Part → Prop
  | .value o => o.skip = .ok ()
  | .items os => skipItems os = .ok ()
  | .members ms => skipMembers ms = .ok ()

/-- Whatever has a text can be passed over. -/
theorem Spelt.skips {p : Part} {cs : List Char} (h : Spelt p cs) : p.Skips := by
  induction h with
  | null | yes | no | number _ | string _ | noItems _ | noMembers _ => rfl
  | array _ ih => exact congrArg (· >>= fun _ => settle none) ih
  | object _ ih => exact congrArg (· >>= fun _ => settle none) ih
  | item _ _ _ ih => exact congrArg (· >>= fun _ => skipItems []) ih
  | items _ _ _ _ ih ihmore => exact (congrArg (· >>= fun _ => skipItems _) ih).trans ihmore
  | member _ _ _ _ _ _ ih => exact congrArg (· >>= fun _ => skipMembers []) ih
  | members _ _ _ _ _ _ _ ih ihmore => exact (congrArg (· >>= fun _ => skipMembers _) ih).trans ihmore

/-- **The value of a document can be passed over.** -/
theorem Outline.IsText.skip {o : Outline} {text : String} (h : o.IsText text) : o.skip = .ok () := by
  obtain ⟨_, _, _, -, hspelt, -⟩ := h
  exact hspelt.skips

end Peripherals.Json
