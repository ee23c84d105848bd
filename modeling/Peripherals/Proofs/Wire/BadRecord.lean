import Peripherals.Proofs.Wire.ScanResult

/-!
# `Proofs.Wire.BadRecord` — where an access point list goes bad

The number of records and the bytes that hold them are announced apart, so they need not agree. A list is read record
by record, and the first one that is not there decides: what is told is whether its name is no text or whether the
blob ends before the record does, and in that case how many bytes the records before it have left.

* `BadAfter` — a blob that begins with some whole records, fewer than announced, and goes on with none;
* `IllNamed`, `announcedSize?` — what of a record shows in the bytes that are there;
* `decodeList_eq_error` — a list is refused iff it goes bad somewhere, and with what the record there is refused with;
* `Reaches` — the offsets of the loop, which never leave the blob (`Reaches.le_length`);
* `bad_record_located` — all of it, for every payload whose header is read.
-/

namespace Peripherals.Coprocessor.AccessPoint

open Wire

variable {bs blob payload surplus rest : Bytes} {a : AccessPoint} {points : List AccessPoint} {e : DecodeError}
  {count size left offset : Nat}

/-! ## What is not a record -/

/-- **An ill-named record**: the bytes of its name are all there, and are not UTF-8. The rest of it need not be there. -/
def IllNamed (bs : Bytes) : Prop :=
  ∃ name rest, name.length < UInt32.size ∧ ¬ Bytes.IsUtf8 name ∧ bs = putCounted name ++ rest

/-- **The size of a record as it announces it itself**, as soon as the length of its name is there. -/
def announcedSize? (bs : Bytes) : Option Nat :=
  (Bytes.takeWord32? bs).map fun (length, _) => fixedSize + length.toNat

/-- A record is a name and eleven bytes: six of the address, and five fields of one byte. -/
theorem fields_eq_bind : ∃ behind : String → Reader AccessPoint, (∀ ssid, Fixed 11 (behind ssid)) ∧
    fields = text >>= behind := by
  refine ⟨_, fun ssid => ?_, rfl⟩
  exact fixed_readMac.bind fun _ => fixed_byte.bind fun _ => fixed_byte.bind fun _ => fixed_byte.bind fun _ =>
    fixed_byte.bind fun _ => fixed_byte.bind fun _ => fixed_pure _

theorem fields_eq_badText : fields bs = .error .badText ↔ IllNamed bs := by
  obtain ⟨behind, hfixed, hfields⟩ := fields_eq_bind
  rw [hfields]
  exact bind_eq_badText hfixed

/-- Where a record is short, the bytes end before the record that they announce. -/
theorem length_lt_announcedSize (hshort : fields bs = .error .short) (hsize : announcedSize? bs = some size) :
    bs.length < size := by
  obtain ⟨behind, hfixed, hfields⟩ := fields_eq_bind
  rw [hfields] at hshort
  obtain ⟨⟨length, rest⟩, hword, rfl⟩ := Option.map_eq_some_iff.mp hsize
  have hlt : rest.length < length.toNat + 11 := length_lt_of_bind_eq_short hfixed hshort hword
  rw [Bytes.takeWord32?_eq_some.mp hword, List.length_append, Bytes.length_ofWord32]
  show 4 + rest.length < 15 + length.toNat
  omega

/-- Bytes that begin with no record are refused, and no others are. -/
theorem exists_fields_eq_error : (∃ fault, fields bs = .error fault) ↔
    ∀ a : AccessPoint, a.Writable → ¬ a.encode <+: bs := by
  constructor
  · rintro ⟨fault, hfault⟩ a hwritable ⟨rest, hbs⟩
    rw [fields_eq_ok.mpr ⟨hwritable, hbs.symm⟩] at hfault
    contradiction
  · intro hnone
    cases hread : fields bs with
    | error fault => exact ⟨fault, rfl⟩
    | ok found =>
      obtain ⟨a, rest⟩ := found
      obtain ⟨hwritable, hbs⟩ := fields_eq_ok.mp hread
      exact absurd ⟨rest, hbs.symm⟩ (hnone a hwritable)

/-! ## The loop -/

theorem readPart_eq_error : readPart .accessPoint fields bs = .error e ↔
    (fields bs = .error .badText ∧ e = .invalid .accessPoint .badText) ∨
      (fields bs = .error .short ∧ e = .truncated .accessPoint bs.length) := by
  unfold readPart
  cases fields bs with
  | ok found => simp
  | error fault =>
    cases fault with
    | short => simp [eq_comm]
    | badText => simp [eq_comm]

/-- A record that is read stands before those that the loop reads behind it. -/
theorem records_of_read {point : AccessPoint}
    (read : readPart .accessPoint fields (blob.drop (min offset blob.length)) = .ok (point, rest)) :
    records blob (count + 1) offset = (records blob count (offset + point.encodedSize)).map (point :: ·) := by
  rw [records, read]

/-- Of records one after the other, the first one is read, and the others are left. -/
theorem fields_of_flatMap {tail : List AccessPoint} (ha : a.Writable) :
    fields ((a :: tail).flatMap encode ++ rest) = .ok (a, tail.flatMap encode ++ rest) := by
  apply fields_eq_ok.mpr
  refine ⟨ha, ?_⟩
  rw [List.flatMap_cons, List.append_assoc]

/-- **The loop fails** iff the blob goes on with some whole records, fewer than are still to be read, and then with
something that is refused. -/
theorem records_eq_error (ho : offset ≤ blob.length) : records blob count offset = .error e ↔
    ∃ (points : List AccessPoint) (rest : Bytes), (∀ a ∈ points, a.Writable) ∧
      blob.drop offset = points.flatMap encode ++ rest ∧ points.length < count ∧
      readPart .accessPoint fields rest = .error e := by
  -- On the number of records to be read, from every offset inside the blob.
  induction count generalizing offset with
  | zero =>
    constructor
    · intro h
      contradiction
    · rintro ⟨points, rest, -, -, hfewer, -⟩
      exact absurd hfewer (Nat.not_lt_zero _)
  | succ count ih =>
    cases hread : readPart .accessPoint fields (blob.drop offset) with
    | error found =>
      have hloop : records blob (count + 1) offset = .error found := by
        rw [records, Nat.min_eq_left ho, hread]
      rw [hloop]
      constructor
      · intro h
        obtain rfl := Except.error.inj h
        exact ⟨[], blob.drop offset, by simp, rfl, Nat.succ_pos _, hread⟩
      · rintro ⟨points, rest, hall, hblob, -, hrest⟩
        cases points with
        | nil =>
          -- Nothing was read before, so this is the record that is refused.
          have hhere : blob.drop offset = rest := hblob
          rw [hhere, hrest] at hread
          rw [Except.error.inj hread]
        | cons a tail =>
          have ha : a.Writable := (List.forall_mem_cons.mp hall).1
          rw [hblob, readPart_eq_ok.mpr (fields_of_flatMap ha)] at hread
          contradiction
    | ok found =>
      obtain ⟨point, behind⟩ := found
      obtain ⟨hpoint, hdrop⟩ := fields_eq_ok.mp (readPart_eq_ok.mp hread)
      obtain ⟨hnext, hbehind⟩ := drop_encodedSize ho hdrop
      have hclamped : readPart .accessPoint fields (blob.drop (min offset blob.length)) = .ok (point, behind) := by
        rw [Nat.min_eq_left ho, hread]
      rw [records_of_read hclamped, except_map_eq_error, ih hnext, hbehind]
      constructor
      · rintro ⟨points, rest, hall, rfl, hfewer, hrest⟩
        refine ⟨point :: points, rest, List.forall_mem_cons.mpr ⟨hpoint, hall⟩, ?_, Nat.succ_lt_succ hfewer, hrest⟩
        rw [hdrop, List.flatMap_cons, List.append_assoc]
      · rintro ⟨points, rest, hall, hblob, hfewer, hrest⟩
        cases points with
        | nil =>
          have hhere : blob.drop offset = rest := hblob
          rw [hhere, hrest] at hread
          contradiction
        | cons a tail =>
          -- The bytes begin with one record only, the one that was read.
          obtain ⟨ha, htail⟩ := List.forall_mem_cons.mp hall
          rw [hblob, readPart_eq_ok, fields_of_flatMap ha] at hread
          obtain ⟨rfl, rfl⟩ := Prod.mk.inj (Except.ok.inj hread)
          exact ⟨tail, rest, htail, rfl, Nat.lt_of_succ_lt_succ hfewer, hrest⟩

/-! ## Where the loop looks -/

/-- **The loop on its way**: with `left` records still to be read, it stands at `offset`. The next offset is computed
from the record that was read. -/
inductive Reaches (blob : Bytes) (count : Nat) : Nat → Nat → Prop
  | start : Reaches blob count count 0
  | next {left offset : Nat} {point : AccessPoint} {rest : Bytes} (before : Reaches blob count (left + 1) offset)
      (read : readPart .accessPoint fields (blob.drop (min offset blob.length)) = .ok (point, rest)) :
      Reaches blob count left (offset + point.encodedSize)

namespace Reaches

/-- No offset is outside the blob. -/
theorem le_length (h : Reaches blob count left offset) : offset ≤ blob.length := by
  induction h with
  | start => exact Nat.zero_le _
  | next _ read ih =>
    rw [Nat.min_eq_left ih] at read
    exact (drop_encodedSize ih (fields_eq_ok.mp (readPart_eq_ok.mp read)).2).1

/-- These are the offsets of the loop: what it answers is what it answers from there, behind the records before. -/
theorem records_eq (h : Reaches blob count left offset) : ∃ points, points.length + left = count ∧
    totalSize points = offset ∧ records blob count 0 = (records blob left offset).map (points ++ ·) := by
  induction h with
  | start =>
    refine ⟨[], Nat.zero_add count, rfl, ?_⟩
    cases records blob count 0 with
    | ok points => rfl
    | error e => rfl
  | @next left offset point rest _ read ih =>
    obtain ⟨points, hcount, hsize, hloop⟩ := ih
    refine ⟨points ++ [point], ?_, ?_, ?_⟩
    · rw [List.length_append, List.length_singleton]
      omega
    · rw [← length_flatMap_encode, List.flatMap_append, List.length_append, length_flatMap_encode, hsize,
        List.flatMap_singleton, length_encode]
    · rw [hloop, records_of_read read]
      cases records blob left (offset + point.encodedSize) with
      | ok tail => simp [Except.map]
      | error e => rfl

end Reaches

/-! ## Lists -/

/-- **A list that goes bad after `points`**: they are whole records at the head of the blob, fewer than are announced,
and what follows them does not begin with a record. -/
structure BadAfter (blob : Bytes) (count : Nat) (points : List AccessPoint) (rest : Bytes) : Prop where
  writable : ∀ a ∈ points, a.Writable
  blob_eq : blob = points.flatMap encode ++ rest
  fewer : points.length < count
  unread : ∀ a : AccessPoint, a.Writable → ¬ a.encode <+: rest

/-- What is left behind the records is what the blob holds beyond their size. -/
theorem BadAfter.length_rest (h : BadAfter blob count points rest) : rest.length = blob.length - totalSize points := by
  rw [h.blob_eq, List.length_append, length_flatMap_encode]
  omega

variable {announced : UInt32}

theorem decodeList_of_header (hheader : listHeader payload = .ok ((announced, blob), surplus)) :
    decodeList payload = records blob announced.toNat 0 := by
  unfold decodeList
  rw [readPart_eq_ok.mpr hheader]

/-- **A list is refused** iff it goes bad somewhere, and with what the record there is refused with. -/
theorem decodeList_eq_error (hheader : listHeader payload = .ok ((announced, blob), surplus)) :
    decodeList payload = .error e ↔
      ∃ points rest, BadAfter blob announced.toNat points rest ∧ readPart .accessPoint fields rest = .error e := by
  rw [decodeList_of_header hheader, records_eq_error (Nat.zero_le _)]
  constructor
  · rintro ⟨points, rest, hall, hblob, hfewer, hread⟩
    refine ⟨points, rest, ⟨hall, hblob, hfewer, exists_fields_eq_error.mp ?_⟩, hread⟩
    rcases readPart_eq_error.mp hread with ⟨hfault, -⟩ | ⟨hfault, -⟩
    · exact ⟨.badText, hfault⟩
    · exact ⟨.short, hfault⟩
  · rintro ⟨points, rest, hbad, hread⟩
    exact ⟨points, rest, hbad.writable, hbad.blob_eq, hbad.fewer, hread⟩

/-- Where the name is no text, that is told, also if the record is cut behind it. -/
theorem decodeList_of_illNamed (hheader : listHeader payload = .ok ((announced, blob), surplus))
    (hbad : BadAfter blob announced.toNat points rest) (hname : IllNamed rest) :
    decodeList payload = .error (.invalid .accessPoint .badText) := by
  apply (decodeList_eq_error hheader).mpr
  exact ⟨points, rest, hbad, readPart_eq_error.mpr (.inl ⟨fields_eq_badText.mpr hname, rfl⟩)⟩

/-- Otherwise the record is short, and what is told is how much of the blob there is for it. -/
theorem decodeList_of_not_illNamed (hheader : listHeader payload = .ok ((announced, blob), surplus))
    (hbad : BadAfter blob announced.toNat points rest) (hname : ¬ IllNamed rest) :
    decodeList payload = .error (.truncated .accessPoint (blob.length - totalSize points)) ∧
      ∀ size, announcedSize? rest = some size → rest.length < size := by
  have hshort : fields rest = .error .short := by
    obtain ⟨fault, hfault⟩ := exists_fields_eq_error.mpr hbad.unread
    cases fault with
    | short => exact hfault
    | badText => exact absurd (fields_eq_badText.mp hfault) hname
  constructor
  · apply (decodeList_eq_error hheader).mpr
    refine ⟨points, rest, hbad, readPart_eq_error.mpr (.inr ⟨hshort, ?_⟩)⟩
    rw [hbad.length_rest]
  · intro size hsize
    exact length_lt_announcedSize hshort hsize

/-- A list that is read holds as many records as are announced. -/
theorem length_of_decodeList (hheader : listHeader payload = .ok ((announced, blob), surplus))
    (h : decodeList payload = .ok points) : points.length = announced.toNat := by
  rw [decodeList_of_header hheader] at h
  exact ((records_eq_ok (Nat.zero_le _)).mp h).1

/-- No record has fewer than fifteen bytes. -/
theorem fixedSize_mul_length_le (points : List AccessPoint) : 15 * points.length ≤ totalSize points := by
  induction points with
  | nil => exact Nat.le_refl 0
  | cons a tail ih =>
    show 15 * (tail.length + 1) ≤ (15 + (Bytes.ofText a.ssid).length) + totalSize tail
    omega

/-- More records than could be in the blob are not found in it, whatever its bytes are. -/
theorem decodeList_of_too_many (hheader : listHeader payload = .ok ((announced, blob), surplus))
    (hmany : blob.length / 15 < announced.toNat) : ∃ e, decodeList payload = .error e := by
  cases hread : decodeList payload with
  | error e => exact ⟨e, rfl⟩
  | ok points =>
    have hcount := length_of_decodeList hheader hread
    rw [decodeList_of_header hheader] at hread
    have hin := ((records_eq_ok (Nat.zero_le _)).mp hread).2.2.length_le
    have hleast := fixedSize_mul_length_le points
    rw [length_flatMap_encode, List.drop_zero] at hin
    omega

/-- **A bad record is located exactly.** Take any payload whose header is read, whatever number of records it announces
and whatever is in its blob.
* If more records are announced than fifteen bytes each would allow, the list is refused.
* If the blob begins with whole records, fewer than announced, and goes on with none, then the list is refused: for its
  text where the name of the next record is all there and is not UTF-8, and else for its length, told as what the records
  have left of the blob; and then the blob ends before the record that is announced there does.
* A list is refused in these ways only, so that one of them applies to every list that is not read.
* The loop stands at the size of the records that it has read, which never exceeds the blob.
* A list that is read holds all the records that were announced. -/
theorem bad_record_located (hheader : listHeader payload = .ok ((announced, blob), surplus)) :
    (blob.length / 15 < announced.toNat → ∃ e, decodeList payload = .error e) ∧
    (∀ points rest, BadAfter blob announced.toNat points rest →
      (IllNamed rest → decodeList payload = .error (.invalid .accessPoint .badText)) ∧
      (¬ IllNamed rest →
        decodeList payload = .error (.truncated .accessPoint (blob.length - totalSize points)) ∧
          ∀ size, announcedSize? rest = some size → rest.length < size)) ∧
    ((∃ e, decodeList payload = .error e) ↔ ∃ points rest, BadAfter blob announced.toNat points rest) ∧
    (∀ left offset, Reaches blob announced.toNat left offset → offset ≤ blob.length ∧
      ∃ points, points.length + left = announced.toNat ∧ totalSize points = offset ∧
        decodeList payload = (records blob left offset).map (points ++ ·)) ∧
    (∀ points, decodeList payload = .ok points → points.length = announced.toNat) := by
  refine ⟨decodeList_of_too_many hheader, ?_, ?_, ?_, ?_⟩
  · intro points rest hbad
    exact ⟨decodeList_of_illNamed hheader hbad, decodeList_of_not_illNamed hheader hbad⟩
  · constructor
    · rintro ⟨e, he⟩
      obtain ⟨points, rest, hbad, -⟩ := (decodeList_eq_error hheader).mp he
      exact ⟨points, rest, hbad⟩
    · rintro ⟨points, rest, hbad⟩
      by_cases hname : IllNamed rest
      · exact ⟨_, decodeList_of_illNamed hheader hbad hname⟩
      · exact ⟨_, (decodeList_of_not_illNamed hheader hbad hname).1⟩
  · intro left offset hreach
    refine ⟨hreach.le_length, ?_⟩
    rw [decodeList_of_header hheader]
    exact hreach.records_eq
  · intro points h
    exact length_of_decodeList hheader h

/-- A whole record and five bytes, where two records are announced: a name of one byte that is no text is told as such,
though the rest of the record is missing; of a name of five bytes, with one of them there, the five bytes are told. -/
theorem bad_record_located_second :
    ∃ (first : AccessPoint) (bad cut : Bytes), bad.length = 5 ∧ cut.length = 5 ∧
      listHeader (Bytes.ofWord32 2 ++ putCounted (first.encode ++ bad)) = .ok ((2, first.encode ++ bad), []) ∧
      BadAfter (first.encode ++ bad) 2 [first] bad ∧ IllNamed bad ∧
      decodeList (Bytes.ofWord32 2 ++ putCounted (first.encode ++ bad)) = .error (.invalid .accessPoint .badText) ∧
      listHeader (Bytes.ofWord32 2 ++ putCounted (first.encode ++ cut)) = .ok ((2, first.encode ++ cut), []) ∧
      BadAfter (first.encode ++ cut) 2 [first] cut ∧ ¬ IllNamed cut ∧
      decodeList (Bytes.ofWord32 2 ++ putCounted (first.encode ++ cut)) = .error (.truncated .accessPoint 5) := by
  let first : AccessPoint := ⟨"", .zero, 1, 0, -40, .openNetwork, 7⟩
  let bad : Bytes := [1, 0, 0, 0, 0xFF]
  let cut : Bytes := [5, 0, 0, 0, 97]
  have hfirst : ∀ a ∈ [first], a.Writable := by
    intro a ha
    obtain rfl := List.mem_singleton.mp ha
    exact ⟨fun code hcode => by contradiction, by decide⟩
  have hafter : ∀ rest : Bytes, rest.length = 5 → BadAfter (first.encode ++ rest) 2 [first] rest := by
    intro rest hlen
    refine ⟨hfirst, by simp, by decide, fun a _ hprefix => ?_⟩
    -- Five bytes hold no record.
    have hle := hprefix.length_le
    rw [length_encode, hlen, encodedSize, fixedSize] at hle
    omega
  have hbad : IllNamed bad := ⟨[0xFF], [], by decide, Bytes.not_isUtf8_iff.mpr (by decide), rfl⟩
  have hcut : ¬ IllNamed cut := by
    rintro ⟨name, rest, hlen, -, heq⟩
    have hcounted : counted cut = .ok (name, rest) := counted_eq_ok.mpr ⟨hlen, heq⟩
    contradiction
  have hread : ∀ blob : Bytes, blob.length < UInt32.size →
      listHeader (Bytes.ofWord32 2 ++ putCounted blob) = .ok ((2, blob), []) := by
    intro blob hlen
    exact listHeader_eq_ok.mpr ⟨hlen, by simp⟩
  have hheader := hread (first.encode ++ bad) (by decide)
  have hheader' := hread (first.encode ++ cut) (by decide)
  refine ⟨first, bad, cut, rfl, rfl, hheader, hafter bad rfl, hbad, ?_, hheader', hafter cut rfl, hcut, ?_⟩
  · exact ((bad_record_located hheader).2.1 [first] bad (hafter bad rfl)).1 hbad
  · exact (((bad_record_located hheader').2.1 [first] cut (hafter cut rfl)).2 hcut).1

end Peripherals.Coprocessor.AccessPoint
