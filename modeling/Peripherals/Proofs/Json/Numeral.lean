import Peripherals.Json.Reader
import Peripherals.Json.Writer

/-!
# `Proofs.Json.Numeral` — numbers as they are spelt

The parser takes a number from the front of a text digit by digit, and so it has to know where the number ends: any
text may follow that begins with a gap, a comma or a closing bracket. The writer spells natural numbers by their
decimal digits and doubles in a layout; whatever it writes is a number for the parser.

* `Numeral.Spelt`, `Parser.number_spelt` — the texts of a number, and what the parser makes of them;
* `decimals`, `Numeral.read_ofNat` — the digits of a natural number, and what they are worth;
* `Layout.spelt_render` — the texts of doubles.
-/

namespace Peripherals.Json

/-! ## Digits -/

namespace Parser

/-- Whether a value may end before this character. -/
def closes (c : Char) : Bool := isGap c || c == ',' || c == ']' || c == '}'

/-- A text before which a value may end. -/
def Ends (rest : List Char) : Prop := ∀ c, rest.head? = some c → closes c = true

/-- A text that begins with no digit. -/
def NoDigit (rest : List Char) : Prop := ∀ c, rest.head? = some c → digit? c = none

theorem digit?_digitChar {d : Nat} (h : d < 10) : digit? d.digitChar = some d := by
  revert d
  decide

theorem digits_map {ds : List Nat} (hds : ∀ d ∈ ds, d < 10) {rest : List Char} (hrest : NoDigit rest) :
    digits (ds.map Nat.digitChar ++ rest) = (ds, rest) := by
  induction ds with
  | nil =>
      cases rest with
      | nil => rfl
      | cons c rest => simp [digits, hrest c rfl]
  | cons d ds ih =>
      obtain ⟨hd, hds⟩ := List.forall_mem_cons.mp hds
      simp [digits, digit?_digitChar hd, ih hds]

end Parser

/-! ## Texts of numbers -/

/-- The text of decimal places. -/
def placesText : List Nat → List Char
  | [] => []
  | d :: ds => '.' :: (d :: ds).map Nat.digitChar

theorem placesText_of_ne_nil {ds : List Nat} (h : ds ≠ []) : placesText ds = '.' :: ds.map Nat.digitChar := by
  cases ds with
  | nil => exact absurd rfl h
  | cons d ds => rfl

/-- The text of a sign. -/
def signText (negative : Bool) : List Char := if negative then ['-'] else []

/-- **The texts of an exponent**, if there is one. -/
inductive ExponentText : Option (Bool × List Nat) → List Char → Prop where
  | none : ExponentText none []
  | plain {e : Char} {d : Nat} {ds : List Nat} (he : e = 'e' ∨ e = 'E') (hds : ∀ x ∈ d :: ds, x < 10) :
      ExponentText (some (false, d :: ds)) (e :: (d :: ds).map Nat.digitChar)
  | signed {e sign : Char} {down : Bool} {d : Nat} {ds : List Nat} (he : e = 'e' ∨ e = 'E')
      (hsign : sign = if down then '-' else '+') (hds : ∀ x ∈ d :: ds, x < 10) :
      ExponentText (some (down, d :: ds)) (e :: sign :: (d :: ds).map Nat.digitChar)

/-- **The texts of a number**, its sign aside: digits without a needless zero in front, and possibly decimal places and
an exponent. -/
inductive Numeral.Spelt : Numeral → List Char → Prop where
  | intro (negative : Bool) {whole fraction : List Nat} {exponent : Option (Bool × List Nat)} {exponentText : List Char}
      (hsome : whole ≠ []) (hlead : ∀ ds, whole = 0 :: ds → ds = []) (hwhole : ∀ d ∈ whole, d < 10)
      (hfraction : ∀ d ∈ fraction, d < 10) (hexponent : ExponentText exponent exponentText) :
      Spelt ⟨negative, whole, fraction, exponent, !fraction.isEmpty || exponent.isSome⟩
        (whole.map Nat.digitChar ++ (placesText fraction ++ exponentText))

theorem Numeral.exists_spelt (negative : Bool) (whole fraction : List Nat) {exponent : Option (Bool × List Nat)}
    {exponentText text : List Char} (hsome : whole ≠ []) (hlead : ∀ ds, whole = 0 :: ds → ds = [])
    (hwhole : ∀ d ∈ whole, d < 10) (hfraction : ∀ d ∈ fraction, d < 10) (hexponent : ExponentText exponent exponentText)
    (htext : text = whole.map Nat.digitChar ++ (placesText fraction ++ exponentText)) :
    ∃ n : Numeral, n.negative = negative ∧ n.Spelt text := by
  rw [htext]
  exact ⟨_, rfl, .intro negative hsome hlead hwhole hfraction hexponent⟩

/-- A number that begins with a digit other than zero has no needless zero in front. -/
theorem Numeral.exists_spelt_lead (negative : Bool) {d : Nat} (hd : d ≠ 0) (more fraction : List Nat)
    {exponent : Option (Bool × List Nat)} {exponentText text : List Char} (hwhole : ∀ x ∈ d :: more, x < 10)
    (hfraction : ∀ x ∈ fraction, x < 10) (hexponent : ExponentText exponent exponentText)
    (htext : text = (d :: more).map Nat.digitChar ++ (placesText fraction ++ exponentText)) :
    ∃ n : Numeral, n.negative = negative ∧ n.Spelt text :=
  exists_spelt negative (d :: more) fraction (List.cons_ne_nil d more)
    (fun _ hrest => absurd (List.cons.inj hrest).1 hd) hwhole hfraction hexponent htext

namespace Parser

theorem closes_cases {c : Char} (h : closes c = true) :
    c = ' ' ∨ c = '\n' ∨ c = '\t' ∨ c = '\r' ∨ c = ',' ∨ c = ']' ∨ c = '}' := by
  simpa [closes, isGap, or_assoc] using h

theorem Ends.noDigit {rest : List Char} (h : Ends rest) : NoDigit rest := by
  intro c hc
  rcases closes_cases (h c hc) with rfl | rfl | rfl | rfl | rfl | rfl | rfl <;> rfl

theorem noDigit_cons {c : Char} (h : digit? c = none) (rest : List Char) : NoDigit (c :: rest) := by
  intro c' hc'
  rw [← Option.some.inj hc']
  exact h

variable {rest : List Char} {n : Numeral}

/-- A number ends where it cannot go on. -/
theorem tail_ends (hrest : Ends rest) : tail n rest = (.number n, rest) := by
  unfold tail
  split
  · exact absurd (closes_cases (hrest _ rfl)) (by decide)
  · exact absurd (closes_cases (hrest _ rfl)) (by decide)
  · rfl

/-- The digits of an exponent, after its sign. -/
def exponentDigits (n : Numeral) (negative : Bool) (cs : List Char) : Outline × List Char :=
  match digits cs with
  | ([], rest) => noDigit rest
  | (ds, rest) => (.number { n with exponent := some (negative, ds), fractional := true }, rest)

theorem exponent_unsigned {c : Char} (hplus : c ≠ '+') (hminus : c ≠ '-') (cs : List Char) :
    exponent n (c :: cs) = exponentDigits n false (c :: cs) := by
  unfold exponent
  split
  next negative cs' heq =>
    split at heq
    · next h => exact absurd (List.cons.inj h).1 hplus
    · next h => exact absurd (List.cons.inj h).1 hminus
    · obtain ⟨rfl, rfl⟩ := Prod.mk.inj heq
      rfl

theorem exponentDigits_map {d : Nat} {ds : List Nat} (hds : ∀ x ∈ d :: ds, x < 10) (hrest : Ends rest) (down : Bool) :
    exponentDigits n down ((d :: ds).map Nat.digitChar ++ rest) =
      (.number { n with exponent := some (down, d :: ds), fractional := true }, rest) := by
  rw [exponentDigits, digits_map hds hrest.noDigit]

theorem digitChar_ne_sign {d : Nat} (h : d < 10) : d.digitChar ≠ '+' ∧ d.digitChar ≠ '-' := by
  revert d
  decide

/-- The end of a number: the parser reads on exactly if there is an exponent. -/
theorem tail_exponent {exponent : Option (Bool × List Nat)} {text : List Char} (h : ExponentText exponent text)
    (hn : n.exponent = none) (hrest : Ends rest) :
    tail n (text ++ rest) =
      (.number { n with exponent := exponent, fractional := n.fractional || exponent.isSome }, rest) := by
  cases h with
  | none =>
      obtain ⟨negative, whole, fraction, _, fractional⟩ := n
      obtain rfl : _ = none := hn
      simp [tail_ends hrest]
  | @plain e d ds he hds =>
      obtain ⟨hplus, hminus⟩ := digitChar_ne_sign (hds d List.mem_cons_self)
      have hexponent : Parser.exponent n ((d :: ds).map Nat.digitChar ++ rest) = _ :=
        (exponent_unsigned hplus hminus _).trans (exponentDigits_map hds hrest false)
      rcases he with rfl | rfl
      · exact hexponent.trans (by simp)
      · exact hexponent.trans (by simp)
  | @signed e sign down d ds he hsign hds =>
      have hdigits := exponentDigits_map (n := n) hds hrest down
      have hexponent : Parser.exponent n (sign :: ((d :: ds).map Nat.digitChar ++ rest)) =
          exponentDigits n down ((d :: ds).map Nat.digitChar ++ rest) := by
        subst hsign
        cases down with
        | true => rfl
        | false => rfl
      rcases he with rfl | rfl
      · exact (hexponent.trans hdigits).trans (by simp)
      · exact (hexponent.trans hdigits).trans (by simp)

theorem tail_afterWhole {cs : List Char} (hdot : cs.head? ≠ some '.') : afterWhole n cs = tail n cs := by
  unfold afterWhole
  split
  · exact absurd rfl hdot
  · rfl

/-- An exponent, or the end of a number, begins with no digit and no point. -/
theorem noDigit_exponent {exponent : Option (Bool × List Nat)} {text : List Char} (h : ExponentText exponent text)
    (hrest : Ends rest) : NoDigit (text ++ rest) ∧ (text ++ rest).head? ≠ some '.' := by
  cases h with
  | none =>
      refine ⟨hrest.noDigit, fun hdot => ?_⟩
      exact absurd (closes_cases (hrest _ hdot)) (by decide)
  | plain he _ =>
      rcases he with rfl | rfl
      · exact ⟨noDigit_cons rfl _, by simp⟩
      · exact ⟨noDigit_cons rfl _, by simp⟩
  | signed he _ _ =>
      rcases he with rfl | rfl
      · exact ⟨noDigit_cons rfl _, by simp⟩
      · exact ⟨noDigit_cons rfl _, by simp⟩

/-- **A number is read as it is spelt**, up to where it ends. -/
theorem number_spelt {text : List Char} (h : n.Spelt text) (hrest : Ends rest) :
    number n.negative (text ++ rest) = (.number n, rest) := by
  obtain ⟨negative, hsome, hlead, hwhole, hfraction, hexponent⟩ := h
  rename_i whole fraction exponent exponentText
  obtain ⟨hnoDigit, hdot⟩ := noDigit_exponent hexponent hrest
  have hplaces : NoDigit (placesText fraction ++ (exponentText ++ rest)) := by
    cases fraction with
    | nil => exact hnoDigit
    | cons _ _ => exact noDigit_cons rfl _
  have hafter : afterWhole ⟨negative, whole, [], none, false⟩ (placesText fraction ++ (exponentText ++ rest)) =
      (.number ⟨negative, whole, fraction, exponent, !fraction.isEmpty || exponent.isSome⟩, rest) := by
    cases fraction with
    | nil => exact (tail_afterWhole hdot).trans (tail_exponent hexponent rfl hrest)
    | cons d ds =>
        have htail := tail_exponent (n := ⟨negative, whole, d :: ds, none, true⟩) hexponent rfl hrest
        rw [placesText, List.cons_append, afterWhole, digits_map hfraction hnoDigit]
        exact htail
  rw [List.append_assoc, List.append_assoc, number, digits_map hwhole hplaces]
  split
  · next heq => exact absurd (Prod.mk.inj heq).1 hsome
  · next heq => exact absurd (hlead _ (Prod.mk.inj heq).1) (List.cons_ne_nil _ _)
  · next heq =>
    obtain ⟨rfl, rfl⟩ := Prod.mk.inj heq
    exact hafter

end Parser

/-! ## Natural numbers -/

/-- The decimal digits of a natural number. -/
def decimals (n : Nat) : List Nat := if n < 10 then [n] else decimals (n / 10) ++ [n % 10]

theorem decimals_of_lt {n : Nat} (h : n < 10) : decimals n = [n] := by rw [decimals, if_pos h]

theorem toDigits_eq_decimals (n : Nat) : Nat.toDigits 10 n = (decimals n).map Nat.digitChar := by
  fun_induction decimals n with
  | case1 n h => exact Nat.toDigits_of_lt_base h
  | case2 n h ih => rw [Nat.toDigits_of_base_le (by decide) (Nat.not_lt.mp h), ih, List.map_append, List.map_singleton]

theorem decimals_lt (n : Nat) : ∀ d ∈ decimals n, d < 10 := by
  fun_induction decimals n with
  | case1 n h => simpa using h
  | case2 n h ih =>
      have hlast : n % 10 < 10 := Nat.mod_lt n (by decide)
      simpa [or_imp, forall_and] using ⟨ih, hlast⟩

/-- The digits of a number other than zero do not begin with a zero. -/
theorem decimals_pos {n : Nat} (h : 0 < n) : ∃ d ds, decimals n = d :: ds ∧ d ≠ 0 := by
  fun_induction decimals n with
  | case1 n _ => exact ⟨n, [], rfl, Nat.ne_of_gt h⟩
  | case2 n hn ih =>
      obtain ⟨d, ds, hdecimals, hd⟩ := ih (by omega)
      exact ⟨d, ds ++ [n % 10], by rw [hdecimals, List.cons_append], hd⟩

theorem decimals_ne_nil (n : Nat) : decimals n ≠ [] := by
  fun_cases decimals n with
  | case1 => exact List.cons_ne_nil _ _
  | case2 => exact List.append_ne_nil_of_right_ne_nil _ (List.cons_ne_nil _ _)

namespace Numeral

/-- A natural number as it is written. -/
def ofNat (n : Nat) : Numeral := ⟨false, decimals n, [], none, false⟩

theorem spelt_ofNat (n : Nat) : (ofNat n).Spelt (toString n).toList := by
  have hlead : ∀ ds, decimals n = 0 :: ds → ds = [] := by
    intro ds hds
    rcases Nat.eq_zero_or_pos n with rfl | hpos
    · exact (List.cons.inj ((decimals_of_lt (by decide)).symm.trans hds)).2.symm
    · obtain ⟨d, ds', hdecimals, hd⟩ := decimals_pos hpos
      exact absurd (List.cons.inj (hdecimals.symm.trans hds)).1 hd
  have htext : (toString n).toList = (decimals n).map Nat.digitChar ++ (placesText [] ++ []) := by
    rw [Nat.toString_eq_ofList_toDigits, String.toList_ofList, toDigits_eq_decimals, placesText, List.append_nil,
      List.append_nil]
  rw [htext]
  exact .intro false (decimals_ne_nil n) hlead (decimals_lt n) nofun .none

theorem takeWhole_concat {ds : List Nat} {d acc significand : Nat} (h : takeWhole acc ds = (significand, 0))
    (hd : significand * 10 + d ≤ maxSignificand) : takeWhole acc (ds ++ [d]) = (significand * 10 + d, 0) := by
  induction ds generalizing acc with
  | nil =>
      obtain rfl : acc = significand := (Prod.mk.inj h).1
      simp [takeWhole, Nat.not_lt.mpr hd]
  | cons d' ds ih =>
      rw [List.cons_append, takeWhole]
      rw [takeWhole] at h
      split at h
      · exact absurd (Prod.mk.inj h).2 (Nat.succ_ne_zero _)
      · next hsmall =>
        rw [if_neg hsmall]
        exact ih h

theorem takeWhole_decimals {n : Nat} (h : n ≤ maxSignificand) : takeWhole 0 (decimals n) = (n, 0) := by
  fun_induction decimals n with
  | case1 n _ => simp [takeWhole, Nat.not_lt.mpr h]
  | case2 n _ ih =>
      have hwhole := ih (by omega)
      have hconcat := takeWhole_concat (d := n % 10) hwhole (by omega)
      rwa [Nat.div_add_mod' n 10] at hconcat

/-- **A natural number of 64 bits is worth what it is.** -/
theorem read_ofNat {n : Nat} (h : n ≤ maxSignificand) : (ofNat n).read = .ok (.natural n) := by
  rw [Numeral.read, ofNat, takeWhole_decimals h]
  rfl

end Numeral

theorem readNatural_ofNat {limit n : Nat} (hlimit : limit ≤ Numeral.maxSignificand) (h : n ≤ limit) :
    readNatural limit (.number (.ofNat n)) = .ok n := by
  rw [readNatural, Numeral.read_ofNat (Nat.le_trans h hlimit)]
  exact if_pos h

end Peripherals.Json

/-! ## Doubles -/

namespace Peripherals.Decimal

open Json

namespace Interval

variable {i : Interval} {tie : Tie} {g : Int}

/-- No point of an interval above zero is zero. -/
theorem contains_pos {c : Nat} (hlow : 0 < i.low) (h : i.contains c g = true) : 0 < c := by
  have hleft : 0 < i.low * Nat.pow 10 (-g).toNat := Nat.mul_pos hlow (Nat.pow_pos (by decide))
  rcases Nat.eq_zero_or_pos c with rfl | hpos
  · unfold contains at h
    split at h
    · simp only [Nat.zero_mul, Bool.and_eq_true, decide_eq_true_eq] at h
      omega
    · simp only [Nat.zero_mul, Bool.and_eq_true, decide_eq_true_eq] at h
      omega
  · exact hpos

theorem nearer_pos {c : Nat} (hc : 0 < c) : 0 < i.nearer tie c g := by
  unfold nearer
  split
  · exact hc
  · exact Nat.succ_pos c
  · split
    · exact hc
    · exact Nat.succ_pos c
  · exact Nat.succ_pos c

theorem point?_pos {c : Nat} (hlow : 0 < i.low) (h : i.point? tie g = some c) : 0 < c := by
  dsimp only [point?] at h
  split at h
  · next hbelow _ => exact Option.some.inj h ▸ nearer_pos (contains_pos hlow hbelow)
  · next hbelow _ => exact Option.some.inj h ▸ contains_pos hlow hbelow
  · exact Option.some.inj h ▸ Nat.succ_pos _
  · contradiction

theorem search_pos {count c : Nat} {g' : Int} (hlow : 0 < i.low) (h : i.search tie count g' = some (c, g)) : 0 < c := by
  fun_induction search i tie count g' with
  | case1 => contradiction
  | case2 count g' c' hpoint =>
      obtain ⟨rfl, rfl⟩ := Prod.mk.inj (Option.some.inj h)
      exact point?_pos hlow hpoint
  | case3 count g' hnone ih => exact ih h

/-- The digits of a double other than zero are those of a number other than zero. -/
theorem digits?_pos {mantissa c : Nat} {exponent : Int} {narrow : Bool} (hmantissa : mantissa ≠ 0)
    (h : (around mantissa exponent narrow).digits? tie = some (c, g)) : 0 < c := by
  refine search_pos ?_ h
  have hstep : 0 < 4 * mantissa - (if narrow then 1 else 2) := by
    split
    · omega
    · omega
  exact Nat.mul_pos hstep (Nat.pow_pos (by decide))

end Interval

namespace Layout

/-- The exponent that a layout writes. -/
theorem exponentText_lead (lead : Int) (plus : Bool) :
    ∃ exponent, ExponentText (some exponent) (if 0 ≤ lead ∧ plus then s!"e+{lead}" else s!"e{lead}").toList := by
  have hdigits (k : Nat) : ∃ d ds, (toString k).toList = (d :: ds).map Nat.digitChar ∧ ∀ x ∈ d :: ds, x < 10 := by
    obtain ⟨d, ds, hds⟩ := List.exists_cons_of_ne_nil (decimals_ne_nil k)
    refine ⟨d, ds, ?_, hds ▸ decimals_lt k⟩
    rw [Nat.toString_eq_ofList_toDigits, String.toList_ofList, toDigits_eq_decimals, hds]
  cases lead with
  | ofNat k =>
      obtain ⟨d, ds, htext, hds⟩ := hdigits k
      cases plus with
      | true =>
          have hplus : s!"e+{Int.ofNat k}" = "e+" ++ toString k := rfl
          refine ⟨(false, d :: ds), ?_⟩
          rw [if_pos ⟨Int.natCast_nonneg k, rfl⟩, hplus, String.toList_append, htext]
          exact .signed (.inl rfl) rfl hds
      | false =>
          have hplain : s!"e{Int.ofNat k}" = "e" ++ toString k := rfl
          refine ⟨(false, d :: ds), ?_⟩
          rw [if_neg fun h => Bool.false_ne_true h.2, hplain, String.toList_append, htext]
          exact .plain (.inl rfl) hds
  | negSucc k =>
      obtain ⟨d, ds, htext, hds⟩ := hdigits (k + 1)
      have hminus : s!"e{Int.negSucc k}" = "e" ++ ("-" ++ toString (k + 1)) := rfl
      refine ⟨(true, d :: ds), ?_⟩
      rw [if_neg fun h => Int.not_le.mpr (Int.negSucc_lt_zero k) h.1, hminus, String.toList_append,
        String.toList_append, htext]
      exact .signed (.inl rfl) rfl hds

/-- **Whatever a layout writes is a number.** -/
theorem spelt_render (layout : Layout) {c : Nat} (hc : 0 < c) (g : Int) (negative : Bool) :
    ∃ n : Numeral, n.negative = negative ∧ n.Spelt (layout.render c g).toList := by
  obtain ⟨d, ds, hdecimals, hd⟩ := decimals_pos hc
  have hdigits : Nat.toDigits 10 c = (d :: ds).map Nat.digitChar := by rw [toDigits_eq_decimals, hdecimals]
  have hlt : ∀ x ∈ d :: ds, x < 10 := hdecimals ▸ decimals_lt c
  have hzeros (k : Nat) : ∀ x ∈ List.replicate k 0, x < 10 := fun x hx => (List.eq_of_mem_replicate hx) ▸ by decide
  have hzero : Nat.digitChar 0 = '0' := rfl
  unfold render
  rw [hdigits]
  dsimp only
  split
  · next hplain =>
    split
    · -- Zeros up to the point, and one after it.
      refine Numeral.exists_spelt_lead negative hd (ds ++ List.replicate g.toNat 0) [0] ?_ (by decide) .none ?_
      · rw [← List.cons_append]
        exact List.forall_mem_append.mpr ⟨hlt, hzeros g.toNat⟩
      · simp [String.toList_append, hzero, placesText]
    · next hneg =>
      split
      · next hlead =>
        -- The point stands between two of the digits.
        generalize hwhole : (g + ((d :: ds).map Nat.digitChar).length - 1).toNat = whole
        have hshort : whole < ds.length := by
          rw [List.length_map, List.length_cons] at hwhole hlead
          omega
        refine Numeral.exists_spelt_lead negative hd (ds.take whole) (ds.drop whole) ?_ ?_ .none ?_
        · exact fun x hx => hlt x (List.mem_of_mem_take (i := whole + 1) hx)
        · exact fun x hx => hlt x (List.mem_cons_of_mem d (List.mem_of_mem_drop hx))
        · have hsome : ds.drop whole ≠ [] := fun hnone => by
            rw [List.drop_eq_nil_iff] at hnone
            omega
          simp [String.toList_append, placesText_of_ne_nil hsome]
      · -- Zeros between the point and the digits.
        generalize (-(g + ((d :: ds).map Nat.digitChar).length - 1) - 1).toNat = zeros
        have hplaces : ∀ x ∈ List.replicate zeros 0 ++ d :: ds, x < 10 :=
          List.forall_mem_append.mpr ⟨hzeros zeros, hlt⟩
        have hsome : List.replicate zeros 0 ++ d :: ds ≠ [] :=
          List.append_ne_nil_of_right_ne_nil _ (List.cons_ne_nil d ds)
        refine Numeral.exists_spelt negative [0] (List.replicate zeros 0 ++ d :: ds) (List.cons_ne_nil 0 [])
          (fun _ hrest => (List.cons.inj hrest).2.symm) (by decide) hplaces .none ?_
        simp [String.toList_append, placesText_of_ne_nil hsome, hzero]
  · obtain ⟨exponent, hexponent⟩ := exponentText_lead (g + ((d :: ds).map Nat.digitChar).length - 1) layout.plus
    refine Numeral.exists_spelt_lead negative hd [] ds ?_ ?_ hexponent ?_
    · exact fun x hx => hlt x (List.mem_cons.mpr (.inl (List.mem_singleton.mp hx)))
    · exact fun x hx => hlt x (List.mem_cons_of_mem d hx)
    · cases ds with
      | nil => simp [String.toList_append, placesText]
      | cons d' ds => simp [String.toList_append, placesText]

end Layout

/-- **The text of a double is a number**, with its sign. -/
theorem spelt_shortest {layout : Layout} {x : Float} {text : String} (h : shortest? layout x = some text) :
    ∃ (n : Numeral) (body : List Char), n.Spelt body ∧ text.toList = signText n.negative ++ body := by
  have hsign (negative : Bool) : (if negative then "-" else "").toList = signText negative := by
    cases negative with
    | true => rfl
    | false => rfl
  unfold shortest? at h
  split at h
  · next negative mantissa exponent narrow _ =>
    dsimp only at h
    split at h
    · obtain ⟨n, rfl, hn⟩ := @Numeral.exists_spelt negative [0] [0] _ _ "0.0".toList
        (List.cons_ne_nil 0 []) (fun _ hrest => (List.cons.inj hrest).2.symm) (by decide) (by decide) .none rfl
      refine ⟨n, _, hn, ?_⟩
      rw [← Option.some.inj h, String.toList_append, hsign]
    · next hmantissa =>
      obtain ⟨⟨c, g⟩, hdigits, htext⟩ := Option.map_eq_some_iff.mp h
      obtain ⟨n, rfl, hn⟩ := layout.spelt_render (Interval.digits?_pos hmantissa hdigits) g negative
      refine ⟨n, _, hn, ?_⟩
      rw [← htext, String.toList_append, hsign]
  · contradiction

end Peripherals.Decimal
