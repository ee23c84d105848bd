import Peripherals.Coprocessor.Payload
import Peripherals.Proofs.Wire.Faults

/-!
# `Proofs.Wire.ScanResult` — the exact language of the access point list

Records have no fixed size. The writer adds up the sizes of the records it is given; the reader takes a record off
the blob and computes from the *value* it got where the next one begins. The list is read back because three
things agree for every record: the bytes that `AccessPoint.encode` writes, the bytes that `AccessPoint.fields` takes,
and the number `AccessPoint.encodedSize` (`fields_eq_ok`, `length_encode`). `records_eq_ok` is the loop, by induction
on the count with the offset inside the blob.
-/

namespace Peripherals.Coprocessor

open Wire

theorem readMac_eq_ok {bs rest : Bytes} {m : Mac} : readMac bs = .ok (m, rest) ↔ bs = m.octets ++ rest := by
  unfold readMac Mac.ofBytes?
  constructor
  · intro h
    split at h
    · next mac hmac =>
      obtain ⟨rfl, rfl⟩ := Prod.mk.inj (Except.ok.inj h)
      split at hmac
      · obtain rfl := Option.some.inj hmac
        exact (List.take_append_drop 6 bs).symm
      · contradiction
    · contradiction
  · rintro rfl
    have htake : (m.octets ++ rest).take 6 = m.octets := List.take_left' m.length_octets
    have hdrop : (m.octets ++ rest).drop 6 = rest := List.drop_left' m.length_octets
    simp only [htake, hdrop, m.length_octets, dite_true]

theorem fixed_readMac : Fixed 6 readMac := by
  constructor
  · intro bs hlen
    have htake : (bs.take 6).length ≠ 6 := by
      rw [List.length_take]
      omega
    unfold readMac Mac.ofBytes?
    rw [dif_neg htake]
  · intro bs hlen
    have htake : (bs.take 6).length = 6 := List.length_take_of_le hlen
    refine ⟨⟨bs.take 6, htake⟩, ?_⟩
    unfold readMac Mac.ofBytes?
    rw [dif_pos htake]

theorem steady_readMac : Steady readMac := by
  constructor
  · intro bs rest m more h
    rw [readMac_eq_ok] at h ⊢
    rw [h, List.append_assoc]
  · intro bs more h
    have hshort := (fixed_readMac.eq_error_iff.mp h).1
    contradiction

namespace AccessPoint

/-! ## One record -/

/-- **A record that a list can carry**: its security is canonical, and the length of its name fits its field. -/
def Writable (a : AccessPoint) : Prop := a.authentication.IsCanonical ∧ (Bytes.ofText a.ssid).length < UInt32.size

/-- What the reader of a record accepts, and what it takes: exactly the bytes of the record. -/
theorem fields_eq_ok {bs rest : Bytes} {a : AccessPoint} :
    fields bs = .ok (a, rest) ↔ a.Writable ∧ bs = a.encode ++ rest := by
  unfold fields Writable encode
  simp only [bind_eq_ok, text_eq_ok, readMac_eq_ok, byte_eq_ok, pure_eq_ok]
  constructor
  · rintro ⟨ssid, _, ⟨hssid, rfl⟩, bssid, _, rfl, first, _, rfl, second, _, rfl, rssi, _, rfl, auth, _, rfl,
      protocols, _, rfl, rfl, rfl⟩
    refine ⟨⟨Authentication.isCanonical_ofByte auth, hssid⟩, ?_⟩
    simp [Authentication.toByte_ofByte]
  · rintro ⟨⟨hauth, hssid⟩, rfl⟩
    refine ⟨a.ssid, _, ⟨hssid, by simp⟩, a.bssid, _, rfl, a.primaryChannel, _, rfl,
      a.secondaryChannel, _, rfl, a.rssi.toUInt8, _, rfl, a.authentication.toByte, _, rfl, a.protocols, _, rfl, ?_, rfl⟩
    rw [Authentication.ofByte_toByte hauth, Int8.toInt8_toUInt8]

/-- The size computed from a record is the number of bytes written for it. -/
theorem length_encode (a : AccessPoint) : a.encode.length = a.encodedSize := by
  simp only [encode, encodedSize, fixedSize, List.length_append, length_putText, a.bssid.length_octets,
    List.length_cons, List.length_nil]
  omega

/-! ## Several records -/

/-- The size announced for a list is the number of bytes written for its records. -/
theorem length_flatMap_encode (points : List AccessPoint) : (points.flatMap encode).length = totalSize points := by
  induction points with
  | nil => rfl
  | cons a tail ih =>
      rw [List.flatMap_cons, List.length_append, length_encode, ih]
      rfl

/-- No record is empty, so there are no more records than bytes. -/
theorem length_le_totalSize (points : List AccessPoint) : points.length ≤ totalSize points := by
  induction points with
  | nil => exact Nat.le_refl 0
  | cons a tail ih =>
      show tail.length + 1 ≤ (fixedSize + (Bytes.ofText a.ssid).length) + totalSize tail
      unfold fixedSize
      omega

/-- A name is shorter than the bytes of all records. -/
theorem length_ssid_le_totalSize {points : List AccessPoint} {a : AccessPoint} (ha : a ∈ points) :
    (Bytes.ofText a.ssid).length ≤ totalSize points := by
  induction points with
  | nil => contradiction
  | cons b tail ih =>
      show _ ≤ (fixedSize + (Bytes.ofText b.ssid).length) + totalSize tail
      rcases List.mem_cons.mp ha with rfl | hmem
      · omega
      · have := ih hmem
        omega

/-- Behind a record, at the offset computed from its size, stands what its reader has left. -/
theorem drop_encodedSize {blob rest : Bytes} {offset : Nat} {a : AccessPoint} (ho : offset ≤ blob.length)
    (h : blob.drop offset = a.encode ++ rest) :
    offset + a.encodedSize ≤ blob.length ∧ blob.drop (offset + a.encodedSize) = rest := by
  constructor
  · have hlen := congrArg List.length h
    rw [List.length_drop, List.length_append, length_encode] at hlen
    omega
  · rw [← List.drop_drop, h, List.drop_left' a.length_encode]

/-- **The loop.** From an offset inside the blob, `count` records are read iff the blob goes on with their bytes.
The offset of the next record is computed from the size of the one read, and that is where its bytes end. -/
theorem records_eq_ok {blob : Bytes} {count offset : Nat} {points : List AccessPoint} (ho : offset ≤ blob.length) :
    records blob count offset = .ok points ↔
      points.length = count ∧ (∀ a ∈ points, a.Writable) ∧ points.flatMap encode <+: blob.drop offset := by
  induction count generalizing offset points with
  | zero =>
      unfold records
      constructor
      · intro h
        obtain rfl := Except.ok.inj h
        exact ⟨rfl, by simp, List.nil_prefix⟩
      · rintro ⟨hlen, -, -⟩
        rw [List.length_eq_zero_iff.mp hlen]
  | succ count ih =>
      unfold records
      rw [Nat.min_eq_left ho]
      constructor
      · intro h
        split at h
        · contradiction
        · next point rest hread =>
          obtain ⟨hpoint, hdrop⟩ := fields_eq_ok.mp (readPart_eq_ok.mp hread)
          obtain ⟨tail, htail, rfl⟩ := except_map_eq_ok.mp h
          -- The induction goes on behind the record, which is inside the blob again.
          obtain ⟨hnext, rfl⟩ := drop_encodedSize ho hdrop
          obtain ⟨hlen, hall, hpre⟩ := (ih hnext).mp htail
          refine ⟨congrArg (· + 1) hlen, List.forall_mem_cons.mpr ⟨hpoint, hall⟩, ?_⟩
          rw [List.flatMap_cons, hdrop]
          exact (List.prefix_append_right_inj _).mpr hpre
      · rintro ⟨hlen, hall, hpre⟩
        obtain ⟨point, tail, rfl⟩ := List.exists_cons_of_length_eq_add_one hlen
        obtain ⟨hpoint, htail⟩ := List.forall_mem_cons.mp hall
        obtain ⟨surplus, hblob⟩ := hpre
        rw [List.flatMap_cons, List.append_assoc] at hblob
        obtain ⟨hnext, hrest⟩ := drop_encodedSize ho hblob.symm
        have hread : readPart .accessPoint fields (blob.drop offset)
            = .ok (point, tail.flatMap encode ++ surplus) :=
          readPart_eq_ok.mpr (fields_eq_ok.mpr ⟨hpoint, hblob.symm⟩)
        have hloop : records blob count (offset + point.encodedSize) = .ok tail :=
          (ih hnext).mpr ⟨Nat.succ.inj hlen, htail, hrest ▸ List.prefix_append ..⟩
        rw [hread]
        simp only [hloop]
        rfl

/-! ## Lists -/

theorem listHeader_eq_ok {bs blob rest : Bytes} {count : UInt32} :
    listHeader bs = .ok ((count, blob), rest) ↔
      blob.length < UInt32.size ∧ bs = Bytes.ofWord32 count ++ putCounted blob ++ rest := by
  unfold listHeader
  simp only [bind_eq_ok, word_eq_ok, counted_eq_ok, pure_eq_ok, Prod.mk.injEq]
  constructor
  · rintro ⟨_, _, rfl, _, _, ⟨hlen, rfl⟩, ⟨rfl, rfl⟩, rfl⟩
    exact ⟨hlen, by simp⟩
  · rintro ⟨hlen, rfl⟩
    exact ⟨_, _, by simp, _, _, ⟨hlen, rfl⟩, ⟨rfl, rfl⟩, rfl⟩

/-- A list is read iff the payload announces that many records and a blob that begins with their bytes. -/
theorem decodeList_eq_ok {payload : Bytes} {points : List AccessPoint} :
    decodeList payload = .ok points ↔
      (∀ a ∈ points, a.authentication.IsCanonical) ∧ points.length < UInt32.size ∧
        ∃ blob rest, blob.length < UInt32.size ∧ points.flatMap encode <+: blob ∧
          payload = Bytes.ofWord32 (UInt32.ofNat points.length) ++ Bytes.ofWord32 (UInt32.ofNat blob.length) ++
            blob ++ rest := by
  unfold decodeList
  constructor
  · intro h
    split at h
    · contradiction
    · next count blob rest hheader =>
      obtain ⟨hblob, rfl⟩ := listHeader_eq_ok.mp (readPart_eq_ok.mp hheader)
      obtain ⟨hcount, hall, hpre⟩ := (records_eq_ok (Nat.zero_le _)).mp h
      refine ⟨fun a ha => (hall a ha).1, hcount ▸ count.toNat_lt_size, blob, rest, hblob, hpre, ?_⟩
      simp only [hcount, UInt32.ofNat_toNat, putCounted, List.append_assoc]
  · rintro ⟨hcan, hcount, blob, rest, hblob, hpre, rfl⟩
    have hheader : readPart .accessPointList listHeader
          (Bytes.ofWord32 (UInt32.ofNat points.length) ++ Bytes.ofWord32 (UInt32.ofNat blob.length) ++ blob ++ rest)
        = .ok ((UInt32.ofNat points.length, blob), rest) :=
      readPart_eq_ok.mpr (listHeader_eq_ok.mpr ⟨hblob, by simp only [putCounted, List.append_assoc]⟩)
    -- A name is inside the blob, so its length fits its field because that of the blob does.
    have hsize : totalSize points < UInt32.size := by
      have := hpre.length_le
      rw [length_flatMap_encode] at this
      omega
    rw [hheader]
    refine (records_eq_ok (Nat.zero_le _)).mpr ⟨(UInt32.toNat_ofNat_of_lt' hcount).symm, fun a ha => ?_, hpre⟩
    exact ⟨hcan a ha, Nat.lt_of_le_of_lt (length_ssid_le_totalSize ha) hsize⟩

/-- What was written is read, whatever follows it. -/
theorem decodeList_encodeList {points : List AccessPoint} (hcan : ∀ a ∈ points, a.authentication.IsCanonical)
    (hsize : totalSize points < UInt32.size) (rest : Bytes) : decodeList (encodeList points ++ rest) = .ok points := by
  have hcount : points.length < UInt32.size := Nat.lt_of_le_of_lt (length_le_totalSize points) hsize
  have hblob : (points.flatMap encode).length = totalSize points := length_flatMap_encode points
  refine decodeList_eq_ok.mpr ⟨hcan, hcount, points.flatMap encode, rest, hblob ▸ hsize, List.prefix_rfl, ?_⟩
  rw [hblob]
  rfl

/-- What was read is written as it stood: the same count, and the same records at the head of the blob. -/
theorem encodeList_of_decodeList {payload : Bytes} {points : List AccessPoint} (h : decodeList payload = .ok points) :
    (encodeList points).take 4 = payload.take 4 ∧ (encodeList points).drop 8 <+: payload.drop 8 := by
  obtain ⟨-, -, blob, rest, -, hpre, rfl⟩ := decodeList_eq_ok.mp h
  exact ⟨rfl, hpre.trans (List.prefix_append blob rest)⟩

/-- **Exact language of the access point list.** A payload is read as a list iff every security in it is canonical
and the payload is the number of records, the size of a blob, that blob, and anything: the blob has to begin with
the records in order, and what is left in it is ignored. So a list that fits its fields is read as it was written,
whatever follows it, and a list that was read is written byte for byte as its records stood. -/
theorem list_read_iff_written :
    (∀ (payload : Bytes) (points : List AccessPoint),
      decodeList payload = .ok points ↔
        (∀ a ∈ points, a.authentication.IsCanonical) ∧ points.length < UInt32.size ∧
          ∃ blob rest, blob.length < UInt32.size ∧ points.flatMap encode <+: blob ∧
            payload = Bytes.ofWord32 (UInt32.ofNat points.length) ++ Bytes.ofWord32 (UInt32.ofNat blob.length) ++
              blob ++ rest) ∧
    (∀ (points : List AccessPoint) (rest : Bytes), (∀ a ∈ points, a.authentication.IsCanonical) →
      (points.flatMap encode).length < UInt32.size → decodeList (encodeList points ++ rest) = .ok points) ∧
    (∀ (payload : Bytes) (points : List AccessPoint), decodeList payload = .ok points →
      (encodeList points).take 4 = payload.take 4 ∧ (encodeList points).drop 8 <+: payload.drop 8) := by
  refine ⟨fun _ _ => decodeList_eq_ok, fun points rest hcan hsize => ?_, fun _ _ => encodeList_of_decodeList⟩
  exact decodeList_encodeList hcan (length_flatMap_encode points ▸ hsize) rest

/-- Two records, one without a name and one with a name of five bytes and an unknown kind of security. -/
theorem list_read_iff_written_two :
    ∃ points : List AccessPoint, points.map (·.encodedSize) = [15, 20] ∧
      (∀ a ∈ points, a.authentication.IsCanonical) ∧ (points.flatMap encode).length < UInt32.size ∧
      decodeList (encodeList points ++ [0xFF]) = .ok points := by
  have hcan : ∀ a ∈ [(⟨"", .zero, 1, 0, -40, .openNetwork, 7⟩ : AccessPoint),
      ⟨"café", .zero, 11, 0, -71, .unknown 9, 7⟩], a.authentication.IsCanonical := by
    intro a ha code hcode
    simp only [List.mem_cons, List.not_mem_nil, or_false] at ha
    rcases ha with rfl | rfl
    · contradiction
    · cases hcode
      decide
  refine ⟨_, ?_, hcan, ?_, list_read_iff_written.2.1 _ _ hcan ?_⟩
  · decide
  · decide
  · decide

end AccessPoint

end Peripherals.Coprocessor
