/-!
# `Peripherals.Table` — finite maps in order of entry

A table pairs keys with values and keeps the order in which keys were first set; no key stands twice. Tables are
small, so looking up is a search.
-/

namespace Peripherals

namespace Table

variable {κ : Type} {α : Type} [DecidableEq κ]

/-- The value of a key in a list of entries. -/
def lookup? (k : κ) : List (κ × α) → Option α
  | [] => none
  | (k', a) :: rest => if k' = k then some a else lookup? k rest

/-- The entries with the value of a key replaced, or with a new entry at the end. -/
def insertEntry (k : κ) (a : α) : List (κ × α) → List (κ × α)
  | [] => [(k, a)]
  | (k', a') :: rest => if k' = k then (k, a) :: rest else (k', a') :: insertEntry k a rest

theorem keys_insertEntry (k : κ) (a : α) (es : List (κ × α)) :
    (insertEntry k a es).map (·.1) = if k ∈ es.map (·.1) then es.map (·.1) else es.map (·.1) ++ [k] := by
  induction es with
  | nil => rfl
  | cons e rest ih =>
    by_cases he : e.1 = k
    · simp [insertEntry, he]
    · have hk : ¬ k = e.1 := fun h => he h.symm
      by_cases hrest : k ∈ rest.map (·.1)
      · rw [if_pos hrest] at ih
        rw [List.map_cons, if_pos (List.mem_cons_of_mem _ hrest), insertEntry, if_neg he, List.map_cons, ih]
      · rw [if_neg hrest] at ih
        have hmem : k ∉ (e :: rest).map (·.1) := by simpa [hk] using hrest
        rw [if_neg hmem, insertEntry, if_neg he, List.map_cons, ih]
        rfl

theorem nodup_insertEntry (k : κ) (a : α) {es : List (κ × α)} (h : (es.map (·.1)).Nodup) :
    ((insertEntry k a es).map (·.1)).Nodup := by
  rw [keys_insertEntry]
  split
  · exact h
  · next hk =>
    refine List.nodup_append.mpr ⟨h, List.pairwise_singleton _ k, ?_⟩
    intro x hx y hy hxy
    rw [hxy, List.mem_singleton.mp hy] at hx
    exact hk hx

end Table

/-- A finite map from keys to values. -/
structure Table (κ : Type) (α : Type) where
  entries : List (κ × α)
  /-- A key has one value. -/
  nodup_keys : (entries.map (·.1)).Nodup
  deriving Repr

namespace Table

variable {κ : Type} {α : Type} [DecidableEq κ]

/-- The table without entries. -/
def empty : Table κ α := ⟨[], List.nodup_nil⟩

instance : Inhabited (Table κ α) := ⟨empty⟩

/-- The value of a key. -/
def get? (t : Table κ α) (k : κ) : Option α := lookup? k t.entries

/-- The value of a key, or `default`. -/
def getD (t : Table κ α) (k : κ) (default : α) : α := (t.get? k).getD default

/-- Gives a key a value. -/
def set (t : Table κ α) (k : κ) (a : α) : Table κ α :=
  ⟨insertEntry k a t.entries, nodup_insertEntry k a t.nodup_keys⟩

/-- Takes a key out. -/
def erase (t : Table κ α) (k : κ) : Table κ α :=
  ⟨t.entries.filter fun e => e.1 ≠ k, t.nodup_keys.sublist (List.filter_sublist.map _)⟩

/-! ## Entries and look-ups -/

theorem lookup?_eq_some_iff {k : κ} {a : α} {es : List (κ × α)} (h : (es.map (·.1)).Nodup) :
    lookup? k es = some a ↔ (k, a) ∈ es := by
  induction es with
  | nil => simp [lookup?]
  | cons e rest ih =>
    obtain ⟨x, b⟩ := e
    obtain ⟨hx, hrest⟩ := List.nodup_cons.mp h
    by_cases hk : x = k
    · subst hk
      -- No later entry has the key again.
      have hnot : (x, a) ∉ rest := fun hmem => hx (List.mem_map.mpr ⟨(x, a), hmem, rfl⟩)
      simp [lookup?, hnot, eq_comm]
    · have hne : ¬ k = x := fun hkx => hk hkx.symm
      simp [lookup?, hk, hne, ih hrest]

/-- The entries of a table are its look-ups. -/
theorem get?_eq_some_iff {t : Table κ α} {k : κ} {a : α} : t.get? k = some a ↔ (k, a) ∈ t.entries :=
  lookup?_eq_some_iff t.nodup_keys

/-! ## What each operation does to look-ups -/

@[simp] theorem get?_empty (k : κ) : (empty : Table κ α).get? k = none := rfl

theorem lookup?_insertEntry (k k' : κ) (a : α) (es : List (κ × α)) :
    lookup? k' (insertEntry k a es) = if k = k' then some a else lookup? k' es := by
  induction es with
  | nil => simp [insertEntry, lookup?]
  | cons e rest ih =>
    obtain ⟨x, b⟩ := e
    by_cases hx : x = k
    · subst hx
      by_cases hk : x = k' <;> simp [insertEntry, lookup?, hk]
    · by_cases hk : k = k'
      · subst hk
        simp [insertEntry, lookup?, hx, ih]
      · by_cases hx' : x = k'
        · subst hx'
          simp [insertEntry, lookup?, hx, hk]
        · simp [insertEntry, lookup?, hx, hx', hk, ih]

theorem get?_set (t : Table κ α) (k k' : κ) (a : α) :
    (t.set k a).get? k' = if k = k' then some a else t.get? k' :=
  lookup?_insertEntry k k' a t.entries

@[simp] theorem get?_set_self (t : Table κ α) (k : κ) (a : α) : (t.set k a).get? k = some a := by
  simp [get?_set]

theorem get?_set_of_ne (t : Table κ α) {k k' : κ} (a : α) (h : k ≠ k') : (t.set k a).get? k' = t.get? k' := by
  simp [get?_set, h]

/-- Setting what a key has already changes no look-up. -/
theorem get?_set_of_get? {t : Table κ α} {k : κ} {a : α} (h : t.get? k = some a) (k' : κ) :
    (t.set k a).get? k' = t.get? k' := by
  rw [get?_set]
  split
  · next heq => rw [← heq, h]
  · rfl

theorem getD_set (t : Table κ α) (k k' : κ) (a d : α) :
    (t.set k a).getD k' d = if k = k' then a else t.getD k' d := by
  rw [getD, get?_set, getD]
  split
  · rfl
  · rfl

theorem getD_set_of_ne (t : Table κ α) {k k' : κ} (a d : α) (h : k ≠ k') : (t.set k a).getD k' d = t.getD k' d := by
  rw [getD, get?_set_of_ne t a h, getD]

theorem getD_set_self (t : Table κ α) (k : κ) (a d : α) : (t.set k a).getD k d = a := by
  rw [getD, get?_set_self, Option.getD_some]

theorem lookup?_filter_ne (k k' : κ) (es : List (κ × α)) :
    lookup? k' (es.filter fun e => e.1 ≠ k) = if k = k' then none else lookup? k' es := by
  induction es with
  | nil => simp [lookup?]
  | cons e rest ih =>
    obtain ⟨x, b⟩ := e
    by_cases hx : x = k
    · subst hx
      by_cases hk : x = k' <;> simp_all [lookup?]
    · by_cases hk : k = k'
      · subst hk
        simp_all [lookup?]
      · by_cases hx' : x = k' <;> simp_all [lookup?]

theorem get?_erase (t : Table κ α) (k k' : κ) :
    (t.erase k).get? k' = if k = k' then none else t.get? k' :=
  lookup?_filter_ne k k' t.entries

/-- Setting what a key has already changes nothing. -/
theorem set_of_get? {t : Table κ α} {k : κ} {a : α} (h : t.get? k = some a) : t.set k a = t := by
  suffices hsame : ∀ es : List (κ × α), lookup? k es = some a → insertEntry k a es = es by
    simp only [set, hsame t.entries h]
  intro es hes
  induction es with
  | nil => contradiction
  | cons e rest ih =>
    obtain ⟨x, b⟩ := e
    by_cases hx : x = k
    · simp only [lookup?, hx, if_true, Option.some.injEq] at hes
      simp [insertEntry, hx, hes]
    · simp only [lookup?, hx, if_false] at hes
      simp [insertEntry, hx, ih hes]

/-- The last of several values counts. -/
theorem set_set (t : Table κ α) (k : κ) (a b : α) : (t.set k a).set k b = t.set k b := by
  suffices h : insertEntry k b (insertEntry k a t.entries) = insertEntry k b t.entries by simp only [set, h]
  induction t.entries with
  | nil => simp [insertEntry]
  | cons e rest ih =>
    by_cases he : e.1 = k
    · simp [insertEntry, he]
    · simp [insertEntry, he, ih]

end Table

end Peripherals
