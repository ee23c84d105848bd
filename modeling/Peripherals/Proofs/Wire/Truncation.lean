import Peripherals.Proofs.Wire.Frame
import Peripherals.Proofs.Wire.Joining

/-!
# `Proofs.Wire.Truncation` — what is cut short is told to be cut short

A frame may be cut anywhere: in a number, in the count of a field, in a character of several bytes, between two
records. All that its reader tells is that bytes are missing, and how many there were.

There is one argument for all of it. The fields of every format are a steady reader (`steady_fields`), and the whole
of what was written is read with nothing left over, so a part of it is short (`readPart_of_part`). Only a response is
judged in two steps, and its header, when it is all there, announces what the whole response announces.

* `readPart_of_part` — the argument;
* `Command.decode_part` … `AccessPoint.decodeList_part` — each of the six formats;
* `parts_truncated` — all of them.
-/

namespace Peripherals.Coprocessor

open Wire

variable {α : Type} {whole part : Bytes}

/-- **A part of a part is truncated**: steady fields that are read off the whole, with nothing left over, are told to
be short in anything that it begins with. -/
theorem readPart_of_part {kind : Part} {fields : Reader α} {a : α} (h : Steady fields)
    (hwhole : fields whole = .ok (a, [])) (hpart : part <+: whole) (hne : part ≠ whole) :
    readPart kind fields part = .error (.truncated kind part.length) := by
  have hshort : fields part = .error .short := h.short_of_part hwhole hpart hne
  unfold readPart
  rw [hshort]

/-! ## Frames -/

theorem Command.steady_fields : Steady Command.fields :=
  steady_byte.bind fun _ => steady_word.bind fun _ => steady_counted.bind fun _ => steady_pure _

theorem Command.decode_part {c : Command} (hlen : c.payload.length < UInt32.size) (hpart : part <+: c.encode)
    (hne : part ≠ c.encode) : Command.decode part = .error (.truncated .command part.length) := by
  have hwhole : Command.fields c.encode = .ok ((c.interface.toByte, c.function, c.payload), []) :=
    Command.fields_eq_ok.mpr ⟨hlen, (List.append_nil _).symm⟩
  unfold Command.decode
  rw [readPart_of_part Command.steady_fields hwhole hpart hne]

theorem ResponseHeader.steady_fields : Steady ResponseHeader.fields :=
  steady_word.bind fun _ => steady_word.bind fun _ => steady_pure _

/-- A response is cut in its header or behind it. Behind it, the header is read first, and announces more than there
is. -/
theorem Response.decode_part {r : Response} (hlen : r.payload.length ≤ 4000) (hpart : part <+: r.encode)
    (hne : part ≠ r.encode) : Response.decode part = .error (if part.length < 8 then
      .truncated .responseHeader part.length else .truncated .responsePayload (part.length - 8)) := by
  have hencode : r.encode =
      (Bytes.ofWord32 r.status.toWord ++ Bytes.ofWord32 (UInt32.ofNat r.payload.length)) ++ r.payload := by
    simp only [Response.encode, putCounted, List.append_assoc]
  rw [hencode] at hpart hne
  generalize hheader : Bytes.ofWord32 r.status.toWord ++ Bytes.ofWord32 (UInt32.ofNat r.payload.length) = header
    at hpart hne
  have height : header.length = 8 := by
    rw [← hheader]
    rfl
  have hwhole : ResponseHeader.fields header = .ok ((r.status.toWord, UInt32.ofNat r.payload.length), []) := by
    rw [ResponseHeader.fields_eq_ok, hheader, List.append_nil]
  rw [Response.decode_eq_bind]
  by_cases hcut : part.length < 8
  · have hin : part <+: header :=
      List.prefix_of_prefix_length_le hpart (List.prefix_append header r.payload) (by omega)
    have hneq : part ≠ header := by
      rintro rfl
      omega
    rw [if_pos hcut]
    unfold ResponseHeader.decode
    rw [readPart_of_part ResponseHeader.steady_fields hwhole hin hneq]
    rfl
  · have hfront : header <+: part :=
      List.prefix_of_prefix_length_le (List.prefix_append header r.payload) hpart (by omega)
    obtain ⟨body, rfl⟩ := hfront
    -- What is left of the payload is a part of it, and not all of it.
    have hbody : body <+: r.payload := (List.prefix_append_right_inj header).mp hpart
    have hfewer : body.length < r.payload.length := by
      apply Nat.lt_of_le_of_ne hbody.length_le
      intro heq
      exact hne (congrArg (header ++ ·) (hbody.eq_of_length heq))
    have hdrop : (header ++ body).drop 8 = body := List.drop_left' height
    have hdecode : ResponseHeader.decode (header ++ body) = .ok ⟨.ofWord r.status.toWord, r.payload.length⟩ := by
      apply ResponseHeader.decode_eq_ok.mpr
      refine ⟨Status.isCanonical_ofWord _, hlen, body, ?_⟩
      rw [Status.toWord_ofWord, hheader]
    have hlength : (header ++ body).length - 8 = body.length := by
      rw [List.length_append, height]
      omega
    rw [if_neg hcut, hdecode, hlength]
    show (if ((header ++ body).drop 8).length < r.payload.length then _ else _) = _
    rw [hdrop, if_pos hfewer]

theorem Event.steady_fields : Steady Event.fields :=
  steady_word.bind fun _ => steady_word.bind fun _ => steady_counted.bind fun _ => steady_pure _

theorem Event.decode_part {e : Event} (hlen : e.payload.length < UInt32.size) (hpart : part <+: e.encode)
    (hne : part ≠ e.encode) : Event.decode part = .error (.truncated .event part.length) := by
  have hwhole : Event.fields e.encode = .ok ((e.function.toWord, e.status.toWord, e.payload), []) :=
    Event.fields_eq_ok.mpr ⟨hlen, (List.append_nil _).symm⟩
  unfold Event.decode
  rw [readPart_of_part Event.steady_fields hwhole hpart hne]
  rfl

/-! ## Payloads -/

theorem Credentials.steady_fields : Steady Credentials.fields :=
  steady_text.bind fun _ => steady_text.bind fun _ => steady_pure _

theorem Credentials.decode_part {c : Credentials} (hssid : (Bytes.ofText c.ssid).length < UInt32.size)
    (hpassword : (Bytes.ofText c.password).length < UInt32.size) (hpart : part <+: c.encode) (hne : part ≠ c.encode) :
    Credentials.decode part = .error (.truncated .credentials part.length) := by
  have hwhole : Credentials.fields c.encode = .ok (c, []) :=
    Credentials.fields_eq_ok.mpr ⟨hssid, hpassword, (List.append_nil _).symm⟩
  unfold Credentials.decode
  rw [readPart_of_part Credentials.steady_fields hwhole hpart hne]
  rfl

theorem Details.steady_fields : Steady Details.fields :=
  steady_text.bind fun _ => steady_readMac.bind fun _ => steady_byte.bind fun _ => steady_byte.bind fun _ =>
    steady_pure _

theorem Details.decode_part {d : Details} (hssid : (Bytes.ofText d.ssid).length < UInt32.size)
    (hpart : part <+: d.encode) (hne : part ≠ d.encode) :
    Details.decode part = .error (.truncated .connectionDetails part.length) := by
  -- What is read of details need not be what was written, since their security may be spelt as a bare byte.
  have hread : d.encode = ({ d with authentication := .ofByte d.authentication.toByte } : Details).encode := by
    simp only [Details.encode, Authentication.toByte_ofByte]
  have hwhole : Details.fields d.encode = .ok ({ d with authentication := .ofByte d.authentication.toByte }, []) := by
    apply Details.fields_eq_ok.mpr
    refine ⟨Authentication.isCanonical_ofByte _, hssid, ?_⟩
    rw [List.append_nil]
    exact hread
  unfold Details.decode
  rw [readPart_of_part Details.steady_fields hwhole hpart hne]
  rfl

theorem AccessPoint.steady_listHeader : Steady AccessPoint.listHeader :=
  steady_word.bind fun _ => steady_counted.bind fun _ => steady_pure _

/-- The records of a list are not looked at before they are all there. -/
theorem AccessPoint.decodeList_part {points : List AccessPoint} (hsize : (points.flatMap encode).length < UInt32.size)
    (hpart : part <+: encodeList points) (hne : part ≠ encodeList points) :
    decodeList part = .error (.truncated .accessPointList part.length) := by
  have hwhole : listHeader (encodeList points) = .ok ((UInt32.ofNat points.length, points.flatMap encode), []) := by
    apply listHeader_eq_ok.mpr
    refine ⟨hsize, ?_⟩
    simp only [encodeList, putCounted, length_flatMap_encode, List.append_assoc, List.append_nil]
  unfold decodeList
  rw [readPart_of_part steady_listHeader hwhole hpart hne]

/-! ## All six -/

/-- **What is cut short is told to be cut short.** Take anything that can be written with its lengths in their fields
(and, for a response, a payload that is allowed), and any part of its written form from the front that is not all of
it: the reader of that form answers that bytes are missing, and how many there are, wherever the cut is. -/
theorem parts_truncated :
    (∀ (c : Command) (part : Bytes), c.payload.length < UInt32.size → part <+: c.encode → part ≠ c.encode →
      Command.decode part = .error (.truncated .command part.length)) ∧
    (∀ (r : Response) (part : Bytes), r.payload.length ≤ 4000 → part <+: r.encode → part ≠ r.encode →
      Response.decode part = .error (if part.length < 8 then
        .truncated .responseHeader part.length else .truncated .responsePayload (part.length - 8))) ∧
    (∀ (e : Event) (part : Bytes), e.payload.length < UInt32.size → part <+: e.encode → part ≠ e.encode →
      Event.decode part = .error (.truncated .event part.length)) ∧
    (∀ (c : Credentials) (part : Bytes), (Bytes.ofText c.ssid).length < UInt32.size →
      (Bytes.ofText c.password).length < UInt32.size → part <+: c.encode → part ≠ c.encode →
      Credentials.decode part = .error (.truncated .credentials part.length)) ∧
    (∀ (d : Details) (part : Bytes), (Bytes.ofText d.ssid).length < UInt32.size → part <+: d.encode →
      part ≠ d.encode → Details.decode part = .error (.truncated .connectionDetails part.length)) ∧
    (∀ (points : List AccessPoint) (part : Bytes), (points.flatMap AccessPoint.encode).length < UInt32.size →
      part <+: AccessPoint.encodeList points → part ≠ AccessPoint.encodeList points →
      AccessPoint.decodeList part = .error (.truncated .accessPointList part.length)) :=
  ⟨fun _ _ => Command.decode_part, fun _ _ => Response.decode_part, fun _ _ => Event.decode_part,
    fun _ _ => Credentials.decode_part, fun _ _ => Details.decode_part, fun _ _ => AccessPoint.decodeList_part⟩

/-- Details cut inside a character of two bytes, a response cut before the last byte of its payload, and a list cut
between its two records. -/
theorem parts_truncated_midCharacter :
    ∃ (d : Details) (r : Response) (points : List AccessPoint),
      ((Bytes.ofText d.ssid).length < UInt32.size ∧ [5, 0, 0, 0, 99, 97, 102, 0xC3] <+: d.encode ∧
        Details.decode [5, 0, 0, 0, 99, 97, 102, 0xC3] = .error (.truncated .connectionDetails 8)) ∧
      (r.payload.length ≤ 4000 ∧ [0, 0, 0, 0, 2, 0, 0, 0, 7] <+: r.encode ∧
        Response.decode [0, 0, 0, 0, 2, 0, 0, 0, 7] = .error (.truncated .responsePayload 1)) ∧
      ((points.flatMap AccessPoint.encode).length < UInt32.size ∧
        (AccessPoint.encodeList points).take 23 <+: AccessPoint.encodeList points ∧
        AccessPoint.decodeList ((AccessPoint.encodeList points).take 23) = .error (.truncated .accessPointList 23)) := by
  obtain ⟨-, hresponse, -, -, hdetails, hlist⟩ := parts_truncated
  let d : Details := ⟨"café", .zero, 6, .wpa2Psk⟩
  let r : Response := ⟨.completed, [7, 7]⟩
  let points : List AccessPoint := [⟨"", .zero, 1, 0, -40, .openNetwork, 7⟩, ⟨"", .zero, 6, 0, -71, .wpa2Psk, 7⟩]
  have hname : (Bytes.ofText d.ssid).length < UInt32.size := by decide
  have hd : [5, 0, 0, 0, 99, 97, 102, 0xC3] <+: d.encode := by decide
  have hr : [0, 0, 0, 0, 2, 0, 0, 0, 7] <+: r.encode := by decide
  have hpoints : (points.flatMap AccessPoint.encode).length < UInt32.size := by decide
  have hp : (AccessPoint.encodeList points).take 23 <+: AccessPoint.encodeList points := List.take_prefix ..
  refine ⟨d, r, points, ⟨hname, hd, ?_⟩, ⟨by decide, hr, ?_⟩, hpoints, hp, ?_⟩
  · exact hdetails d _ hname hd (by decide)
  · exact hresponse r _ (by decide) hr (by decide)
  · exact hlist points _ hpoints hp (by decide)

end Peripherals.Coprocessor
