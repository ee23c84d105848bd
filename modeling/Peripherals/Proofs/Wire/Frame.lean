import Peripherals.Coprocessor.Frame
import Peripherals.Proofs.Wire.Reader

/-!
# `Proofs.Wire.Frame` — the exact language of the three frames

Writer and reader of a frame are two definitions. Here they are tied together, in both directions: a byte sequence
is read as a value **iff** it begins with the frame of that value, and the value is one that a frame can carry.
What follows the frame never matters.

The three readers judge in different orders: a command by its interface after all fields, a response by its
announced length before the payload, an event by its length and then its function after all fields. None of that
shows in which frames are accepted.
-/

namespace Peripherals.Coprocessor

open Wire

/-- A payload is short enough iff it has at most 4000 bytes. -/
theorem checkLength_eq_ok {length : Nat} {u : Unit} : checkLength length = .ok u ↔ length ≤ 4000 := by
  unfold checkLength maxPayload
  split
  · next h => simp [Nat.not_le.mpr h]
  · next h => simp [Nat.not_lt.mp h]

/-- A length that is allowed fits its field. -/
theorem lt_size_of_allowed {length : Nat} (h : length ≤ 4000) : length < UInt32.size :=
  Nat.lt_of_le_of_lt h (by decide)

/-! ## Commands -/

theorem Command.fields_eq_ok {bs payload rest : Bytes} {code : UInt8} {function : UInt32} :
    Command.fields bs = .ok ((code, function, payload), rest) ↔
      payload.length < UInt32.size ∧ bs = code :: (Bytes.ofWord32 function ++ putCounted payload) ++ rest := by
  unfold Command.fields
  simp only [bind_eq_ok, byte_eq_ok, word_eq_ok, counted_eq_ok, pure_eq_ok, Prod.mk.injEq]
  constructor
  · rintro ⟨_, _, rfl, _, _, rfl, _, _, ⟨hlen, rfl⟩, ⟨rfl, rfl, rfl⟩, rfl⟩
    exact ⟨hlen, by simp⟩
  · rintro ⟨hlen, rfl⟩
    exact ⟨_, _, rfl, _, _, by simp, _, _, ⟨hlen, rfl⟩, ⟨rfl, rfl, rfl⟩, rfl⟩

theorem Command.decode_eq_ok {frame : Bytes} {c : Command} :
    Command.decode frame = .ok c ↔ c.payload.length < UInt32.size ∧ ∃ rest, frame = c.encode ++ rest := by
  unfold Command.decode
  constructor
  · intro h
    split at h
    · contradiction
    · next code function payload rest hfields =>
      obtain ⟨hlen, rfl⟩ := Command.fields_eq_ok.mp (readPart_eq_ok.mp hfields)
      split at h
      · next interface hcode =>
        obtain rfl := Except.ok.inj h
        obtain rfl := Interface.ofByte?_eq_some.mp hcode
        exact ⟨hlen, rest, rfl⟩
      · contradiction
  · rintro ⟨hlen, rest, rfl⟩
    have hfields : readPart .command fields (c.encode ++ rest)
        = .ok ((c.interface.toByte, c.function, c.payload), rest) :=
      readPart_eq_ok.mpr (fields_eq_ok.mpr ⟨hlen, rfl⟩)
    simp only [hfields, Interface.ofByte?_eq_some.mpr rfl]

/-! ## Responses -/

/-- What follows the two numbers of a header. -/
theorem drop_header (status length : UInt32) (rest : Bytes) :
    (Bytes.ofWord32 status ++ Bytes.ofWord32 length ++ rest).drop 8 = rest := rfl

theorem ResponseHeader.fields_eq_ok {bs rest : Bytes} {status length : UInt32} :
    ResponseHeader.fields bs = .ok ((status, length), rest) ↔
      bs = Bytes.ofWord32 status ++ Bytes.ofWord32 length ++ rest := by
  unfold ResponseHeader.fields
  simp only [bind_eq_ok, word_eq_ok, pure_eq_ok, Prod.mk.injEq]
  constructor
  · rintro ⟨_, _, rfl, _, _, rfl, ⟨rfl, rfl⟩, rfl⟩
    simp
  · rintro rfl
    exact ⟨_, _, by simp, _, _, rfl, ⟨rfl, rfl⟩, rfl⟩

/-- A header is read off the first eight bytes; one that announces more than 4000 bytes is refused. -/
theorem ResponseHeader.decode_eq_ok {bs : Bytes} {h : ResponseHeader} :
    ResponseHeader.decode bs = .ok h ↔
      h.status.IsCanonical ∧ h.length ≤ 4000 ∧
        ∃ rest, bs = Bytes.ofWord32 h.status.toWord ++ Bytes.ofWord32 (UInt32.ofNat h.length) ++ rest := by
  obtain ⟨status, length⟩ := h
  unfold ResponseHeader.decode
  simp only [except_bind_eq_ok, readPart_eq_ok, checkLength_eq_ok]
  constructor
  · rintro ⟨⟨⟨code, size⟩, rest⟩, hfields, _, hlen, h⟩
    obtain ⟨rfl, rfl⟩ := ResponseHeader.mk.inj (Except.ok.inj h)
    refine ⟨Status.isCanonical_ofWord code, hlen, rest, ?_⟩
    rw [Status.toWord_ofWord, UInt32.ofNat_toNat]
    exact fields_eq_ok.mp hfields
  · rintro ⟨hcan, hlen, rest, rfl⟩
    have hsize : (UInt32.ofNat length).toNat = length := UInt32.toNat_ofNat_of_lt' (lt_size_of_allowed hlen)
    refine ⟨((status.toWord, UInt32.ofNat length), rest), fields_eq_ok.mpr rfl, (), hsize.symm ▸ hlen, ?_⟩
    rw [hsize, Status.ofWord_toWord hcan]
    rfl

/-- The payload of a response is looked for behind the eight bytes of its header. -/
theorem Response.decode_eq_bind (frame : Bytes) :
    Response.decode frame = ResponseHeader.decode frame >>= fun h =>
      if (frame.drop 8).length < h.length then .error (.truncated .responsePayload (frame.drop 8).length)
      else .ok ⟨h.status, (frame.drop 8).take h.length⟩ := rfl

theorem Response.decode_eq_ok {frame : Bytes} {r : Response} :
    Response.decode frame = .ok r ↔
      r.status.IsCanonical ∧ r.payload.length ≤ 4000 ∧ ∃ rest, frame = r.encode ++ rest := by
  rw [decode_eq_bind, except_bind_eq_ok]
  constructor
  · rintro ⟨⟨status, length⟩, hheader, h⟩
    obtain ⟨hcan, hlen, body, rfl⟩ := ResponseHeader.decode_eq_ok.mp hheader
    rw [drop_header] at h
    split at h
    · contradiction
    · next hbody =>
      -- What is taken has the announced length, so the header written for it is the one that was read.
      obtain rfl := Except.ok.inj h
      have htake : (body.take length).length = length := List.length_take_of_le (Nat.le_of_not_lt hbody)
      refine ⟨hcan, htake.symm ▸ hlen, body.drop length, ?_⟩
      simp only [encode, putCounted, htake, List.append_assoc, List.take_append_drop]
  · rintro ⟨hcan, hlen, rest, rfl⟩
    refine ⟨⟨r.status, r.payload.length⟩, ResponseHeader.decode_eq_ok.mpr ⟨hcan, hlen, r.payload ++ rest, ?_⟩, ?_⟩
    · simp only [encode, putCounted, List.append_assoc]
    · have hdrop : (r.encode ++ rest).drop 8 = r.payload ++ rest := by
        simp only [encode, putCounted, List.append_assoc]
        exact drop_header ..
      rw [hdrop, if_neg (by simp), List.take_left]

/-! ## Events -/

theorem Event.fields_eq_ok {bs payload rest : Bytes} {code status : UInt32} :
    Event.fields bs = .ok ((code, status, payload), rest) ↔
      payload.length < UInt32.size ∧ bs = Bytes.ofWord32 code ++ Bytes.ofWord32 status ++ putCounted payload ++ rest := by
  unfold Event.fields
  simp only [bind_eq_ok, word_eq_ok, counted_eq_ok, pure_eq_ok, Prod.mk.injEq]
  constructor
  · rintro ⟨_, _, rfl, _, _, rfl, _, _, ⟨hlen, rfl⟩, ⟨rfl, rfl, rfl⟩, rfl⟩
    exact ⟨hlen, by simp⟩
  · rintro ⟨hlen, rfl⟩
    exact ⟨_, _, by simp, _, _, rfl, _, _, ⟨hlen, rfl⟩, ⟨rfl, rfl, rfl⟩, rfl⟩

/-- An event number is read iff it is the number of a function, and that function is an event. -/
theorem Event.function?_eq_some {code : UInt32} {f : Function} :
    Event.function? code = some f ↔ f.isEvent = true ∧ code = f.toWord := by
  unfold Event.function?
  rw [Option.filter_eq_some_iff, Function.ofWord?_eq_some, and_comm]

theorem Event.decode_eq_ok {frame : Bytes} {e : Event} :
    Event.decode frame = .ok e ↔
      e.function.isEvent = true ∧ e.status.IsCanonical ∧ e.payload.length ≤ 4000 ∧
        ∃ rest, frame = e.encode ++ rest := by
  obtain ⟨function, status, payload⟩ := e
  unfold Event.decode
  simp only [except_bind_eq_ok, readPart_eq_ok, checkLength_eq_ok]
  constructor
  · rintro ⟨⟨⟨code, number, bytes⟩, rest⟩, hfields, _, hlen, h⟩
    obtain ⟨-, rfl⟩ := fields_eq_ok.mp hfields
    split at h
    · next f hf =>
      -- The number was read as some outcome, and every outcome that is read is canonical.
      obtain ⟨rfl, rfl, rfl⟩ := Event.mk.inj (Except.ok.inj h)
      obtain ⟨hevent, rfl⟩ := function?_eq_some.mp hf
      refine ⟨hevent, Status.isCanonical_ofWord number, hlen, rest, ?_⟩
      unfold Event.encode
      rw [Status.toWord_ofWord]
    · contradiction
  · rintro ⟨hevent, hcan, hlen, rest, rfl⟩
    refine ⟨((function.toWord, status.toWord, payload), rest), fields_eq_ok.mpr ⟨lt_size_of_allowed hlen, rfl⟩, (), hlen,
      ?_⟩
    rw [function?_eq_some.mpr ⟨hevent, rfl⟩, Status.ofWord_toWord hcan]
    rfl

/-! ## All three -/

/-- **Exact language of the frames.** A byte sequence is read as a value iff it begins with the frame of that value
and the value can stand in a frame: a command whose length fits its field; a response with a canonical outcome and
at most 4000 bytes; an event of an event function with a canonical outcome and at most 4000 bytes. So what is read
is what was written, byte for byte, and what was written is read whatever follows it. -/
theorem frames_read_iff_written :
    (∀ (frame : Bytes) (c : Command),
      Command.decode frame = .ok c ↔ c.payload.length < UInt32.size ∧ ∃ rest, frame = c.encode ++ rest) ∧
    (∀ (frame : Bytes) (r : Response),
      Response.decode frame = .ok r ↔
        r.status.IsCanonical ∧ r.payload.length ≤ 4000 ∧ ∃ rest, frame = r.encode ++ rest) ∧
    (∀ (frame : Bytes) (e : Event),
      Event.decode frame = .ok e ↔
        e.function.isEvent = true ∧ e.status.IsCanonical ∧ e.payload.length ≤ 4000 ∧
          ∃ rest, frame = e.encode ++ rest) :=
  ⟨fun _ _ => Command.decode_eq_ok, fun _ _ => Response.decode_eq_ok, fun _ _ => Event.decode_eq_ok⟩

end Peripherals.Coprocessor
