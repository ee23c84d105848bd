import Peripherals.Proofs.Json.Writing

/-!
# `Proofs.Json.Record` — what a record reads

A record is read off the members of an object one after the other. If every member that the record knows comes once at
most and can be stored, then the record holds what is in these members and nothing else. Their order makes no
difference, and neither does what stands between them under other names.

* `readDocument_of_isText` — reading a text is reading the value of which it is a text;
* `reread` — a double as it comes back from its own text, and what else is read off an outline of a plain value;
* `Mixed`, `readRecord_mixed` — members in any order between others, and the record that they make;
* `Value.Excerpt`, `readRecord_excerpt` — an object that shows some of the members of another one.
-/

namespace Peripherals.Json

variable {α β : Type}

/-! ## Texts -/

/-- **Reading a text is reading the value of which it is a text.** -/
theorem readDocument_of_isText {read : Outline → Except Fault α} {text : String} {o : Outline} (h : o.IsText text) :
    readDocument read text = read o := by
  rw [readDocument, Parser.document_of_isText h]
  dsimp only
  cases read o with
  | ok a => rfl
  | error f => rfl

/-- **A double as it comes back from its own text.** -/
def reread (x : Float) : Except Fault Float := readDocument readReal ((Value.real x).pretty 0)

/-- A double that is not finite has no digits, and the word that is written for it is no number. -/
theorem reread_of_infinite {x : Float} {negative : Bool} (h : Decimal.Binary.ofFloat x = .infinite negative) :
    reread x = .error .mismatch := by
  have htext : (Value.real x).pretty 0 = "null" := by
    rw [Value.pretty, Decimal.shortest?, h]
    rfl
  rw [reread, htext]
  rfl

/-! ## Plain values -/

section

variable {o : Outline}

theorem readBool_shown {b : Bool} (h : (Value.bool b).Shown o) : readBool o = .ok b := by
  cases h
  rfl

theorem readNatural_shown {n limit : Nat} (hlimit : limit ≤ Numeral.maxSignificand) (hn : n ≤ limit)
    (h : (Value.natural n).Shown o) : readNatural limit o = .ok n := by
  cases h
  exact readNatural_ofNat hlimit hn

theorem readReal_shown {x : Float} (h : (Value.real x).Shown o) : readReal o = reread x := by
  cases h with
  | real htext => exact (readDocument_of_isText htext).symm

theorem readText_shown {s : String} (h : (Value.text s).Shown o) : readText o = .ok s := by
  cases h with
  | text hread => exact hread

theorem mapM_shown {read : Outline → Except Fault α} {write : α → Value} {as : List α} {os : List Outline}
    (hread : ∀ a o, (write a).Shown o → read o = .ok a) (h : List.Forall₂ Value.Shown (as.map write) os) :
    os.mapM read = .ok as := by
  induction as generalizing os with
  | nil =>
      cases h
      rfl
  | cons a as ih =>
      cases h with
      | cons ho hos =>
          rw [List.mapM_cons, hread a _ ho, ih hos]
          rfl

theorem readList_shown {read : Outline → Except Fault α} {write : α → Value} {as : List α}
    (hread : ∀ a o, (write a).Shown o → read o = .ok a) (h : (Value.array (as.map write)).Shown o) :
    readList read o = .ok as := by
  cases h with
  | array h =>
      rw [readList, mapM_shown hread h]
      rfl

end

/-! ## Members in any order -/

/-- **Members of an object**: each of those that are due comes once, in any order, and the others have names that are
not known. Those that are due have a name and tell the outlines they may have. -/
inductive Mixed (known : List String) : List (String × (Outline → Prop)) → List (Quoted × Outline) → Prop where
  | done : Mixed known [] []
  | other {due : List (String × (Outline → Prop))} {rest : List (Quoted × Outline)} {key : Quoted} {name : String}
      {item : Outline} (hkey : key.read = .ok name) (hname : name ∉ known) (h : Mixed known due rest) :
      Mixed known due ((key, item) :: rest)
  | due {before after : List (String × (Outline → Prop))} {rest : List (Quoted × Outline)} {key : Quoted}
      {name : String} {item : Outline} {Fits : Outline → Prop} (hkey : key.read = .ok name) (hitem : Fits item)
      (h : Mixed known (before ++ after) rest) : Mixed known (before ++ (name, Fits) :: after) ((key, item) :: rest)

/-- **What a record makes of a member.** Of a value, `only keep` holds what is kept by name, and defaults for the rest:
a member that fits is stored, so that its name is kept as well. -/
def Stores (fields : List (Member α)) (only : (String → Bool) → α) (due : String × (Outline → Prop)) : Prop :=
  ∃ field, fields.find? (fun f => f.name == due.1) = some field ∧ ∀ item keep, due.2 item → item.skip = .ok () →
    field.store item (only keep) = .ok (only fun name => name == due.1 || keep name)

variable {fields : List (Member α)} {only : (String → Bool) → α} {due : List (String × (Outline → Prop))}
  {ms : List (Quoted × Outline)}

theorem ok_of_bind {x y : Except Fault Unit} (h : (do x; y) = .ok ()) : x = .ok () ∧ y = .ok () := by
  cases x with
  | error f => contradiction
  | ok _ => exact ⟨rfl, h⟩

theorem skipMembers_cons {key : Quoted} {item : Outline} (h : skipMembers ((key, item) :: ms) = .ok ()) :
    item.skip = .ok () ∧ skipMembers ms = .ok () := by
  rw [skipMembers] at h
  exact ok_of_bind (ok_of_bind h).2

section

variable {key : Quoted} {name : String} {item : Outline} {flaw : Option Fault} {seen : List String} {acc acc' : α}

/-- A member that is not known is passed over. -/
theorem readMembers_other (hkey : key.read = .ok name) (hname : name ∉ fields.map (·.name)) (hitem : item.skip = .ok ()) :
    readMembers fields flaw seen acc ((key, item) :: ms) = readMembers fields flaw seen acc ms := by
  have hfind : fields.find? (fun f => f.name == name) = none := by
    rw [List.find?_eq_none]
    intro f hf hsame
    exact hname (List.mem_map.mpr ⟨f, hf, eq_of_beq hsame⟩)
  rw [readMembers, hkey]
  simp only [bind, Except.bind, hfind, hitem]

/-- A member that is known and was not seen before is stored. -/
theorem readMembers_known {field : Member α} (hkey : key.read = .ok name)
    (hfind : fields.find? (fun f => f.name == name) = some field) (hnew : name ∉ seen)
    (hstore : field.store item acc = .ok acc') :
    readMembers fields flaw seen acc ((key, item) :: ms) = readMembers fields flaw (name :: seen) acc' ms := by
  rw [readMembers, hkey]
  simp only [bind, Except.bind, hfind, if_neg hnew, hstore]

/-- A member that cannot be stored is the end of it. -/
theorem readMembers_refused {field : Member α} {fault : Fault} (hkey : key.read = .ok name)
    (hfind : fields.find? (fun f => f.name == name) = some field) (hnew : name ∉ seen)
    (hstore : field.store item acc = .error fault) :
    readMembers fields flaw seen acc ((key, item) :: ms) = .error fault := by
  rw [readMembers, hkey]
  simp only [bind, Except.bind, hfind, if_neg hnew, hstore]

end

/-- **A record reads just what is due.** By induction on the members: what was read so far is what was seen so far. -/
theorem readMembers_mixed (h : Mixed (fields.map (·.name)) due ms) (hskip : skipMembers ms = .ok ())
    (hstores : ∀ d ∈ due, Stores fields only d) (hnodup : (due.map (·.1)).Nodup) (seen : List String)
    (hseen : ∀ d ∈ due, d.1 ∉ seen) :
    readMembers fields none seen (only fun name => decide (name ∈ seen)) ms =
      .ok (only fun name => decide (name ∈ seen ∨ name ∈ due.map (·.1))) := by
  induction h generalizing seen with
  | done => simp [readMembers, settle, Except.map]
  | other hkey hname _ ih =>
      obtain ⟨hitem, hskip⟩ := skipMembers_cons hskip
      rw [readMembers_other hkey hname hitem]
      exact ih hskip hstores hnodup seen hseen
  | @due before after rest key name item Fits hkey hfits _ ih =>
      obtain ⟨hitem, hskip⟩ := skipMembers_cons hskip
      have hperm : (before ++ (name, Fits) :: after).Perm ((name, Fits) :: (before ++ after)) := List.perm_middle
      have hmem : (name, Fits) ∈ before ++ (name, Fits) :: after := hperm.mem_iff.mpr List.mem_cons_self
      have hrest {d : String × (Outline → Prop)} (hd : d ∈ before ++ after) : d ∈ before ++ (name, Fits) :: after :=
        hperm.mem_iff.mpr (List.mem_cons_of_mem _ hd)
      obtain ⟨hname, hnodup⟩ := List.nodup_cons.mp ((hperm.map (·.1)).nodup_iff.mp hnodup)
      obtain ⟨field, hfind, hstore⟩ := hstores _ hmem
      have hnow : (fun n => n == name || decide (n ∈ seen)) = fun n => decide (n ∈ name :: seen) := by
        funext n
        rw [Bool.eq_iff_iff]
        simp
      have hseen' : ∀ d ∈ before ++ after, d.1 ∉ name :: seen := by
        intro d hd hold
        rcases List.mem_cons.mp hold with hsame | hold
        · exact hname (List.mem_map.mpr ⟨d, hd, hsame⟩)
        · exact hseen d (hrest hd) hold
      have hlast : (fun n => decide (n ∈ name :: seen ∨ n ∈ (before ++ after).map (·.1))) =
          fun n => decide (n ∈ seen ∨ n ∈ (before ++ (name, Fits) :: after).map (·.1)) := by
        funext n
        rw [decide_eq_decide, (hperm.map (·.1)).mem_iff, List.map_cons, List.mem_cons, List.mem_cons, or_left_comm,
          or_assoc]
      rw [readMembers_known hkey hfind (hseen _ hmem) (hstore item _ hfits hitem), hnow,
        ih hskip (fun d hd => hstores d (hrest hd)) hnodup (name :: seen) hseen', hlast]

/-- **The record of an object**: the members that are due, in whatever order they come, and defaults for the rest. -/
theorem readRecord_mixed {initial : α} (hinitial : only (fun _ => false) = initial)
    (h : Mixed (fields.map (·.name)) due ms) (hskip : Outline.skip (.object ms none) = .ok ())
    (hstores : ∀ d ∈ due, Stores fields only d) (hnodup : (due.map (·.1)).Nodup) :
    readRecord fields initial (.object ms none) = .ok (only fun name => decide (name ∈ due.map (·.1))) := by
  have hmembers : skipMembers ms = .ok () := (ok_of_bind hskip).1
  have hread := readMembers_mixed h hmembers hstores hnodup [] fun _ _ => List.not_mem_nil
  simpa [readRecord, hinitial] using hread

/-! ## Excerpts -/

/-- The members of an object. -/
def Value.members : Value → List (String × Value)
  | .object members => members
  | _ => []

/-- **An object that shows some of the members of another one**: each of those that are kept comes once, in any order
and as it fits, and the others have names that the other object has not. -/
def Value.Excerpt (v : Value) (keep : String → Bool) (Fits : String × Value → Outline → Prop) (o : Outline) : Prop :=
  ∃ ms, o = .object ms none ∧
    Mixed (v.members.map (·.1)) ((v.members.filter fun m => keep m.1).map fun m => (m.1, Fits m)) ms

/-- **The record of an excerpt** holds what is kept, and defaults for the rest. -/
theorem readRecord_excerpt {v : Value} {keep : String → Bool} {Fits : String × Value → Outline → Prop} {o : Outline}
    {initial : α} (h : v.Excerpt keep Fits o) (hskip : o.skip = .ok ())
    (hnames : fields.map (·.name) = v.members.map (·.1)) (hnodup : (v.members.map (·.1)).Nodup)
    (hinitial : only (fun _ => false) = initial)
    (hstores : ∀ m ∈ v.members, keep m.1 = true → Stores fields only (m.1, Fits m))
    (honly : ∀ keep', (∀ name ∈ v.members.map (·.1), keep' name = keep name) → only keep' = only keep) :
    readRecord fields initial o = .ok (only keep) := by
  obtain ⟨ms, rfl, hmixed⟩ := h
  have hkept : ((v.members.filter fun m => keep m.1).map fun m => (m.1, Fits m)).map (·.1) =
      (v.members.filter fun m => keep m.1).map (·.1) := by
    rw [List.map_map]
    rfl
  have hdue : ∀ d ∈ (v.members.filter fun m => keep m.1).map fun m => (m.1, Fits m), Stores fields only d := by
    intro d hd
    obtain ⟨m, hm, rfl⟩ := List.mem_map.mp hd
    obtain ⟨hm, hkeep⟩ := List.mem_filter.mp hm
    exact hstores m hm hkeep
  have hread := readRecord_mixed hinitial (hnames ▸ hmixed) hskip hdue (hkept ▸ hnodup.sublist (List.filter_sublist.map _))
  rw [hread, hkept]
  refine congrArg Except.ok (honly _ fun name hname => ?_)
  obtain ⟨m, hm, rfl⟩ := List.mem_map.mp hname
  rw [Bool.eq_iff_iff, decide_eq_true_iff, List.mem_map]
  constructor
  · rintro ⟨m', hm', hsame⟩
    exact hsame ▸ (List.mem_filter.mp hm').2
  · intro hkeep
    exact ⟨m, List.mem_filter.mpr ⟨hm, hkeep⟩, rfl⟩

/-- An outline of an object shows all of its members. -/
theorem excerpt_of_shown {members : List (String × Value)} {Fits : String × Value → Outline → Prop} {o : Outline}
    (h : (Value.object members).Shown o) (hfits : ∀ m ∈ members, ∀ item, m.2.Shown item → Fits m item) :
    (Value.object members).Excerpt (fun _ => true) Fits o := by
  cases h with
  | @object _ ms hkeys hvalues =>
      have hmixed (known : List String) : Mixed known (members.map fun m => (m.1, Fits m)) ms := by
        induction members generalizing ms with
        | nil =>
            cases hkeys
            exact .done
        | cons m members ih =>
            cases hkeys with
            | @cons _ shown _ ms hkey hkeys =>
                obtain ⟨key, item⟩ := shown
                cases hvalues with
                | cons hvalue hvalues =>
                    obtain ⟨hitem, hrest⟩ := List.forall_mem_cons.mp hfits
                    show Mixed known ([] ++ (m.1, Fits m) :: members.map fun m => (m.1, Fits m)) _
                    exact .due hkey (hitem item hvalue) (ih hrest hkeys hvalues)
      exact ⟨ms, rfl, by simpa [Value.members] using hmixed _⟩

end Peripherals.Json
