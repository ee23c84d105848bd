import Mathlib.Data.List.Forall2
import Peripherals.Proofs.Json.Spelling

/-!
# `Proofs.Json.Writing` — the text of a value

The writer spells one outline of a value among several: a string can also be written with other escapes, and the
members of an object in another order. An outline is one of a value if it shows what the value holds. The text that
the writer makes of a value spells such an outline, whatever the value holds.

* `Value.Shown` — the outlines of a value;
* `exists_quoted` — a string is written so that it spells the same text;
* `Value.exists_isText` — a value is written so that the text is one of the value.
-/

namespace Peripherals.Json

/-! ## Outlines of values -/

/-- **The outlines of a value.** A string may be spelt in any way; a double is spelt as it is written. -/
inductive Value.Shown : Value → Outline → Prop where
  | null : Shown .null .null
  | bool (b : Bool) : Shown (.bool b) (.bool b)
  | natural (n : Nat) : Shown (.natural n) (.number (.ofNat n))
  | real {x : Float} {o : Outline} (h : o.IsText ((Value.real x).pretty 0)) : Shown (.real x) o
  | text {s : String} {q : Quoted} (h : q.read = .ok s) : Shown (.text s) (.string q)
  | array {items : List Value} {os : List Outline} (h : List.Forall₂ Shown items os) :
      Shown (.array items) (.array os none)
  | object {members : List (String × Value)} {ms : List (Quoted × Outline)}
      (hkeys : List.Forall₂ (fun member m => m.1.read = .ok member.1) members ms)
      (h : List.Forall₂ Shown (members.map (·.2)) (ms.map (·.2))) :
      Shown (.object members) (.object ms none)

/-! ## Strings -/

theorem hexDigits_control : ∀ n < 32, (Hex.ofNat .lower 4 n).toList.map Parser.hexDigit? =
    [some 0, some 0, some (n / 16), some (n % 16)] := by
  decide

/-- A control character is written as sixteen bits. -/
theorem spelt_control {n : Nat} (h : n < 32) : (Piece.unit n).Spelt ("\\u" ++ Hex.ofNat .lower 4 n).toList := by
  have hdigits := hexDigits_control n h
  obtain ⟨c₁, c₂, c₃, c₄, hchars⟩ : ∃ c₁ c₂ c₃ c₄, (Hex.ofNat .lower 4 n).toList = [c₁, c₂, c₃, c₄] := by
    have hlength := congrArg List.length hdigits
    rw [List.length_map] at hlength
    exact List.length_eq_four.mp hlength
  rw [hchars] at hdigits
  simp only [List.map_cons, List.map_nil, List.cons.injEq, and_true] at hdigits
  obtain ⟨h₁, h₂, h₃, h₄⟩ := hdigits
  have hspelt := Piece.Spelt.unit h₁ h₂ h₃ h₄
  rw [show ((0 * 16 + 0) * 16 + n / 16) * 16 + n % 16 = n by omega] at hspelt
  rw [String.toList_append, hchars]
  exact hspelt

/-- A character is written as a piece of a string that spells it. -/
theorem exists_piece (c : Char) : ∃ p : Piece, p.Spelt (writeChar c).toList ∧
    ∀ flaw rest, spell flaw (p :: rest) = (spell flaw rest).map (c :: ·) := by
  -- The letter that stands for a character decides; the rest are written as they are or as numbers.
  have hletter {e : Char} (he : Parser.escape? e = some c) (htext : (writeChar c).toList = ['\\', e]) :
      ∃ p : Piece, p.Spelt (writeChar c).toList ∧
        ∀ flaw rest, spell flaw (p :: rest) = (spell flaw rest).map (c :: ·) :=
    ⟨.char c, htext ▸ .escaped he, fun _ _ => rfl⟩
  by_cases hquote : c = '"'
  · subst hquote
    exact hletter (e := '"') rfl rfl
  by_cases hescape : c = '\\'
  · subst hescape
    exact hletter (e := '\\') rfl rfl
  by_cases hline : c = '\n'
  · subst hline
    exact hletter (e := 'n') rfl rfl
  by_cases hreturn : c = '\r'
  · subst hreturn
    exact hletter (e := 'r') rfl rfl
  by_cases htab : c = '\t'
  · subst htab
    exact hletter (e := 't') rfl rfl
  by_cases hback : c = Char.ofNat 8
  · subst hback
    exact hletter (e := 'b') rfl rfl
  by_cases hfeed : c = Char.ofNat 12
  · subst hfeed
    exact hletter (e := 'f') rfl rfl
  rw [writeChar, if_neg hquote, if_neg hescape, if_neg hline, if_neg hreturn, if_neg htab, if_neg hback, if_neg hfeed]
  by_cases hcontrol : c.toNat < 32
  · rw [if_pos hcontrol]
    refine ⟨.unit c.toNat, spelt_control hcontrol, fun flaw rest => ?_⟩
    have hsecond : ¬ (0xDC00 ≤ c.toNat ∧ c.toNat ≤ 0xDFFF) := by omega
    have halone : c.toNat < 0xD800 ∨ 0xDFFF < c.toNat := .inl (by omega)
    rw [spell.eq_def]
    simp only [if_neg hsecond, if_pos halone, Char.ofNat_toNat]
  · rw [if_neg hcontrol]
    refine ⟨.char c, ?_, fun _ _ => rfl⟩
    rw [String.toList_singleton]
    exact .plain hquote hescape (Nat.not_lt.mp hcontrol)

/-- **A string is written so that it spells the same text.** -/
theorem exists_quoted (s : String) : ∃ ps cs, (writeText s).toList = '"' :: (cs ++ ['"']) ∧ PiecesSpelt ps cs ∧
    Quoted.read ⟨ps, none⟩ = .ok s := by
  obtain ⟨ps, hps, hspell⟩ : ∃ ps, PiecesSpelt ps (s.toList.flatMap fun c => (writeChar c).toList) ∧
      spell none ps = .ok s.toList := by
    induction s.toList with
    | nil => exact ⟨[], .nil, rfl⟩
    | cons c cs ih =>
        obtain ⟨p, hp, hspell⟩ := exists_piece c
        obtain ⟨ps, hps, hrest⟩ := ih
        refine ⟨p :: ps, List.flatMap_cons ▸ .cons hp hps, ?_⟩
        rw [hspell, hrest]
        rfl
  refine ⟨ps, _, ?_, hps, ?_⟩
  · rw [writeText, String.toList_append, String.toList_append, String.toList_join, List.flatMap_map]
    rfl
  · rw [Quoted.read]
    simp only [hspell, Except.map, String.ofList_toList]

/-! ## Values -/

theorem gaps_newLine (level : Nat) : Gaps (newLine level).toList := by
  intro c hc
  rw [newLine, String.toList_append, List.mem_append] at hc
  rcases hc with hline | hblank
  · obtain rfl : c = '\n' := by simpa using hline
    rfl
  · rw [String.toList_ofList] at hblank
    obtain rfl : c = ' ' := List.eq_of_mem_replicate hblank
    rfl

/-- **The text of a double is a value**: a number, or `null`. -/
theorem exists_real (x : Float) : ∃ o, Spelt (.value o) ((Value.real x).pretty 0).toList := by
  rw [Value.pretty]
  cases hshortest : Decimal.shortest? realLayout x with
  | none => exact ⟨.null, .null⟩
  | some text =>
      obtain ⟨n, body, hn, htext⟩ := Decimal.spelt_shortest hshortest
      rw [Option.getD_some, htext]
      exact ⟨.number n, .number hn⟩

/-- At every level, the text of a value spells an outline of it. -/
def Value.Written (v : Value) : Prop := ∀ level, ∃ o, v.Shown o ∧ Spelt (.value o) (v.pretty level).toList

/-- The items of an array, on lines of their own. -/
theorem exists_items {item : Value} {rest : List Value} (hitem : item.Written) (hrest : ∀ v ∈ rest, v.Written)
    (level : Nat) : ∃ os, List.Forall₂ Value.Shown (item :: rest) os ∧ ∀ after, Gaps after →
      Spelt (.items os) ((newLine level).toList ++ ((item.pretty level).toList ++
        ((prettyItems level rest).toList ++ after))) := by
  obtain ⟨o, ho, hspelt⟩ := hitem level
  induction rest generalizing item o with
  | nil =>
      refine ⟨[o], .cons ho .nil, fun after hafter => ?_⟩
      rw [prettyItems]
      exact .item (gaps_newLine level) hspelt hafter
  | cons next rest ih =>
      obtain ⟨hnext, hrest⟩ := List.forall_mem_cons.mp hrest
      obtain ⟨o', ho', hspelt'⟩ := hnext level
      obtain ⟨os, hos, hmore⟩ := ih hnext hrest o' ho' hspelt'
      refine ⟨o :: os, .cons ho hos, fun after hafter => ?_⟩
      have htext := Spelt.items (gaps_newLine level) hspelt gaps_nil (hmore after hafter)
      rw [prettyItems]
      simpa [String.toList_append, List.append_assoc] using htext

/-- The members of an object, on lines of their own. -/
theorem exists_members (key : String) {item : Value} {rest : List (String × Value)} (hitem : item.Written)
    (hrest : ∀ m ∈ rest, m.2.Written) (level : Nat) :
    ∃ ms, List.Forall₂ (fun member m => m.1.read = .ok member.1) ((key, item) :: rest) ms ∧
      List.Forall₂ Value.Shown (((key, item) :: rest).map (·.2)) (ms.map (·.2)) ∧ ∀ after, Gaps after →
        Spelt (.members ms) ((newLine level).toList ++ ((writeText key).toList ++ ':' :: ' ' ::
          ((item.pretty level).toList ++ ((prettyMembers level rest).toList ++ after)))) := by
  obtain ⟨o, ho, hspelt⟩ := hitem level
  induction rest generalizing key item o with
  | nil =>
      obtain ⟨ps, cs, htext, hps, hread⟩ := exists_quoted key
      refine ⟨[(⟨ps, none⟩, o)], .cons hread .nil, .cons ho .nil, fun after hafter => ?_⟩
      have hmember := Spelt.member (gaps_newLine level) hps gaps_nil gaps_blank hspelt hafter
      rw [prettyMembers, htext]
      simpa [List.append_assoc] using hmember
  | cons next rest ih =>
      obtain ⟨name, item'⟩ := next
      obtain ⟨hnext, hrest⟩ := List.forall_mem_cons.mp hrest
      obtain ⟨o', ho', hspelt'⟩ := hnext level
      obtain ⟨ms, hkeys, hms, hmore⟩ := ih name hnext hrest o' ho' hspelt'
      obtain ⟨ps, cs, htext, hps, hread⟩ := exists_quoted key
      refine ⟨(⟨ps, none⟩, o) :: ms, .cons hread hkeys, .cons ho hms, fun after hafter => ?_⟩
      have hmembers := Spelt.members (gaps_newLine level) hps gaps_nil gaps_blank hspelt gaps_nil (hmore after hafter)
      rw [prettyMembers, htext]
      simpa [String.toList_append, List.append_assoc] using hmembers

mutual

/-- **The text of a value spells an outline of it.** -/
theorem Value.written : ∀ v : Value, v.Written
  | .null => fun _ => ⟨.null, .null, by rw [Value.pretty]; exact .null⟩
  | .bool true => fun _ => ⟨.bool true, .bool true, by rw [Value.pretty]; exact .yes⟩
  | .bool false => fun _ => ⟨.bool false, .bool false, by rw [Value.pretty]; exact .no⟩
  | .natural n => fun _ => ⟨.number (.ofNat n), .natural n, by rw [Value.pretty]; exact .number (Numeral.spelt_ofNat n)⟩
  | .real x => fun _ => by
      obtain ⟨o, ho⟩ := exists_real x
      exact ⟨o, .real ho.isText, by rwa [Value.pretty] at ho ⊢⟩
  | .text s => fun _ => by
      obtain ⟨ps, cs, htext, hps, hread⟩ := exists_quoted s
      exact ⟨.string ⟨ps, none⟩, .text hread, by rw [Value.pretty, htext]; exact .string hps⟩
  | .array [] => fun _ => ⟨.array [] none, .array .nil, by rw [Value.pretty]; exact .noItems gaps_nil⟩
  | .array (item :: rest) => fun level => by
      obtain ⟨os, hos, hspelt⟩ := exists_items item.written (written_items rest) (level + 1)
      have harray := Spelt.array (hspelt _ (gaps_newLine level))
      refine ⟨.array os none, .array hos, ?_⟩
      rw [Value.pretty]
      simpa [String.toList_append, List.append_assoc] using harray
  | .object [] => fun _ => ⟨.object [] none, .object .nil .nil, by rw [Value.pretty]; exact .noMembers gaps_nil⟩
  | .object ((key, item) :: rest) => fun level => by
      obtain ⟨ms, hkeys, hms, hspelt⟩ := exists_members key item.written (written_members rest) (level + 1)
      have hobject := Spelt.object (hspelt _ (gaps_newLine level))
      refine ⟨.object ms none, .object hkeys hms, ?_⟩
      rw [Value.pretty]
      simpa [String.toList_append, List.append_assoc] using hobject

theorem written_items : ∀ (items : List Value), ∀ v ∈ items, v.Written
  | [] => nofun
  | item :: rest => List.forall_mem_cons.mpr ⟨item.written, written_items rest⟩

theorem written_members : ∀ (members : List (String × Value)), ∀ m ∈ members, m.2.Written
  | [] => nofun
  | (_, item) :: rest => List.forall_mem_cons.mpr ⟨item.written, written_members rest⟩

end

/-- **What the writer makes of a value is a text of it.** -/
theorem Value.exists_isText (v : Value) (level : Nat) : ∃ o, v.Shown o ∧ o.IsText (v.pretty level) := by
  obtain ⟨o, ho, hspelt⟩ := v.written level
  exact ⟨o, ho, hspelt.isText⟩

end Peripherals.Json
