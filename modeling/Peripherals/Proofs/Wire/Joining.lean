import Peripherals.Proofs.Wire.ScanResult

/-!
# `Proofs.Wire.Joining` — the exact language of what is said to join a network

A request to join carries two texts, one behind the other, and the answer carries one with eight bytes behind it.
Where a text ends is told by the number of its *bytes*, so the second one is found behind any content of the first,
and what is left over is never part of a text. In both directions: a byte sequence is read as a value **iff** it begins
with the written form of that value.

Which byte sequences are read at all is then a question of UTF-8 only: of two counted fields, both have to be UTF-8
(`Credentials.exists_decode_iff`), and of one with bytes behind it, that one, with enough bytes (`Details.exists_decode_iff`).
-/

namespace Peripherals.Coprocessor

open Wire

variable {bs payload rest rest' name name' password : Bytes}

/-- A counted field ends where its count says, so that it is found behind anything. -/
theorem putCounted_append_inj (hname : name.length < UInt32.size) (hname' : name'.length < UInt32.size) :
    putCounted name ++ rest = putCounted name' ++ rest' ↔ name = name' ∧ rest = rest' := by
  constructor
  · intro h
    have hread : counted (putCounted name ++ rest) = .ok (name, rest) := counted_eq_ok.mpr ⟨hname, rfl⟩
    have hread' : counted (putCounted name' ++ rest') = .ok (name', rest') := counted_eq_ok.mpr ⟨hname', rfl⟩
    rw [h, hread'] at hread
    exact Prod.mk.inj (Except.ok.inj hread.symm)
  · rintro ⟨rfl, rfl⟩
    rfl

/-- A payload is read iff its fields are, and what they leave is dropped. -/
theorem map_readPart_eq_ok {α : Type} {part : Part} {fields : Reader α} {a : α} :
    (readPart part fields bs).map (·.1) = .ok a ↔ ∃ rest, fields bs = .ok (a, rest) := by
  simp only [except_map_eq_ok, readPart_eq_ok]
  constructor
  · rintro ⟨⟨a, rest⟩, hread, rfl⟩
    exact ⟨rest, hread⟩
  · rintro ⟨rest, hread⟩
    exact ⟨(a, rest), hread, rfl⟩

/-! ## Credentials -/

namespace Credentials

theorem fields_eq_ok {c : Credentials} : fields bs = .ok (c, rest) ↔
    (Bytes.ofText c.ssid).length < UInt32.size ∧ (Bytes.ofText c.password).length < UInt32.size ∧
      bs = c.encode ++ rest := by
  unfold fields encode
  simp only [bind_eq_ok, text_eq_ok, pure_eq_ok]
  constructor
  · rintro ⟨ssid, _, ⟨hssid, rfl⟩, password, _, ⟨hpassword, rfl⟩, rfl, rfl⟩
    refine ⟨hssid, hpassword, ?_⟩
    rw [List.append_assoc]
  · rintro ⟨hssid, hpassword, rfl⟩
    refine ⟨c.ssid, putText c.password ++ rest, ⟨hssid, ?_⟩, c.password, rest, ⟨hpassword, rfl⟩, rfl, rfl⟩
    rw [List.append_assoc]

theorem decode_eq_ok {c : Credentials} : decode payload = .ok c ↔
    (Bytes.ofText c.ssid).length < UInt32.size ∧ (Bytes.ofText c.password).length < UInt32.size ∧
      ∃ rest, payload = c.encode ++ rest := by
  unfold decode
  simp only [map_readPart_eq_ok, fields_eq_ok, exists_and_left]

/-- Two counted fields are credentials iff both are UTF-8. -/
theorem exists_decode_iff (hname : name.length < UInt32.size) (hpassword : password.length < UInt32.size) :
    (∃ c, decode (putCounted name ++ putCounted password ++ rest) = .ok c) ↔
      Bytes.IsUtf8 name ∧ Bytes.IsUtf8 password := by
  constructor
  · rintro ⟨c, hc⟩
    obtain ⟨hssid, hsecret, surplus, hpayload⟩ := decode_eq_ok.mp hc
    simp only [encode, putText, List.append_assoc] at hpayload
    obtain ⟨rfl, hbehind⟩ := (putCounted_append_inj hname hssid).mp hpayload
    obtain ⟨rfl, -⟩ := (putCounted_append_inj hpassword hsecret).mp hbehind
    exact ⟨Bytes.isUtf8_ofText c.ssid, Bytes.isUtf8_ofText c.password⟩
  · rintro ⟨hutf8, hutf8'⟩
    obtain ⟨ssid, rfl⟩ := Bytes.isUtf8_iff.mp hutf8
    obtain ⟨secret, rfl⟩ := Bytes.isUtf8_iff.mp hutf8'
    exact ⟨⟨ssid, secret⟩, decode_eq_ok.mpr ⟨hname, hpassword, rest, rfl⟩⟩

end Credentials

/-! ## Connection details -/

namespace Details

theorem fields_eq_ok {d : Details} : fields bs = .ok (d, rest) ↔
    d.authentication.IsCanonical ∧ (Bytes.ofText d.ssid).length < UInt32.size ∧ bs = d.encode ++ rest := by
  unfold fields encode
  simp only [bind_eq_ok, text_eq_ok, readMac_eq_ok, byte_eq_ok, pure_eq_ok]
  constructor
  · rintro ⟨ssid, _, ⟨hssid, rfl⟩, bssid, _, rfl, channel, _, rfl, code, _, rfl, rfl, rfl⟩
    refine ⟨Authentication.isCanonical_ofByte code, hssid, ?_⟩
    simp [Authentication.toByte_ofByte]
  · rintro ⟨hcan, hssid, rfl⟩
    refine ⟨d.ssid, _, ⟨hssid, by simp⟩, d.bssid, _, rfl, d.channel, _, rfl, d.authentication.toByte, _, rfl, ?_, rfl⟩
    rw [Authentication.ofByte_toByte hcan]

theorem decode_eq_ok {d : Details} : decode payload = .ok d ↔
    d.authentication.IsCanonical ∧ (Bytes.ofText d.ssid).length < UInt32.size ∧
      ∃ rest, payload = d.encode ++ rest := by
  unfold decode
  simp only [map_readPart_eq_ok, fields_eq_ok, exists_and_left]

/-- Details are a text and eight bytes: six of the address, one each for channel and security. -/
theorem fields_eq_bind : ∃ behind : String → Reader Details, (∀ ssid, Fixed 8 (behind ssid)) ∧
    fields = text >>= behind := by
  refine ⟨_, fun ssid => ?_, rfl⟩
  exact fixed_readMac.bind fun _ => fixed_byte.bind fun _ => fixed_byte.bind fun _ => fixed_pure _

/-- A counted field and what follows it are details iff the field is UTF-8 and eight bytes follow. -/
theorem exists_decode_iff (hname : name.length < UInt32.size) :
    (∃ d, decode (putCounted name ++ rest) = .ok d) ↔ Bytes.IsUtf8 name ∧ 8 ≤ rest.length := by
  obtain ⟨behind, hfixed, hfields⟩ := fields_eq_bind
  have hdecode : (∃ d, decode (putCounted name ++ rest) = .ok d) ↔
      ∃ x, (text >>= behind) (putCounted name ++ rest) = .ok x := by
    unfold decode
    simp only [map_readPart_eq_ok, hfields, Prod.exists]
  rw [hdecode, exists_bind_eq_ok hfixed]
  constructor
  · rintro ⟨s, mid, htext, hlen⟩
    obtain ⟨hs, hpayload⟩ := text_eq_ok.mp htext
    obtain ⟨rfl, rfl⟩ := (putCounted_append_inj hname hs).mp hpayload
    exact ⟨Bytes.isUtf8_ofText s, hlen⟩
  · rintro ⟨hutf8, hlen⟩
    obtain ⟨s, rfl⟩ := Bytes.isUtf8_iff.mp hutf8
    exact ⟨s, rest, text_eq_ok.mpr ⟨hname, rfl⟩, hlen⟩

end Details

/-! ## Both -/

/-- **Exact language of what is said to join a network.** A payload is read as credentials iff it begins with their
written form, and as details iff it begins with theirs and the security is canonical; the texts may be any, also
empty, whose bytes can be counted. So counted bytes are read iff they are UTF-8, each of the two texts for itself,
whatever follows them; details also need the eight bytes behind the text. -/
theorem joining_read_iff_written :
    (∀ (payload : Bytes) (c : Credentials),
      Credentials.decode payload = .ok c ↔
        (Bytes.ofText c.ssid).length < UInt32.size ∧ (Bytes.ofText c.password).length < UInt32.size ∧
          ∃ rest, payload = c.encode ++ rest) ∧
    (∀ (payload : Bytes) (d : Details),
      Details.decode payload = .ok d ↔
        d.authentication.IsCanonical ∧ (Bytes.ofText d.ssid).length < UInt32.size ∧
          ∃ rest, payload = d.encode ++ rest) ∧
    (∀ name password rest : Bytes, name.length < UInt32.size → password.length < UInt32.size →
      ((∃ c, Credentials.decode (putCounted name ++ putCounted password ++ rest) = .ok c) ↔
        Bytes.IsUtf8 name ∧ Bytes.IsUtf8 password)) ∧
    (∀ name rest : Bytes, name.length < UInt32.size →
      ((∃ d, Details.decode (putCounted name ++ rest) = .ok d) ↔ Bytes.IsUtf8 name ∧ 8 ≤ rest.length)) := by
  refine ⟨fun _ _ => Credentials.decode_eq_ok, fun _ _ => Details.decode_eq_ok, ?_, ?_⟩
  · intro name password rest hname hpassword
    exact Credentials.exists_decode_iff hname hpassword
  · intro name rest hname
    exact Details.exists_decode_iff hname

/-- A name of one character of two bytes, and no password, are read, also with a byte behind them. The same character is
refused where the count of the password ends inside it, though its second byte follows. -/
theorem joining_read_iff_written_accented :
    (([0xC3, 0xA9] : Bytes).length < UInt32.size ∧ ([] : Bytes).length < UInt32.size ∧
      ∃ c, Credentials.decode (putCounted [0xC3, 0xA9] ++ putCounted [] ++ [7]) = .ok c) ∧
    (([0xC3] : Bytes).length < UInt32.size ∧
      ¬ ∃ c, Credentials.decode (putCounted [0xC3, 0xA9] ++ putCounted [0xC3] ++ [0xA9]) = .ok c) := by
  have htwo : ([0xC3, 0xA9] : Bytes).length < UInt32.size := by decide
  have hone : ([0xC3] : Bytes).length < UInt32.size := by decide
  have hnone : ([] : Bytes).length < UInt32.size := by decide
  obtain ⟨-, -, hcredentials, -⟩ := joining_read_iff_written
  refine ⟨⟨htwo, hnone, ?_⟩, hone, fun hread => ?_⟩
  · exact (hcredentials _ _ _ htwo hnone).mpr ⟨⟨['é'], by decide⟩, ⟨[], rfl⟩⟩
  · obtain ⟨-, hcut⟩ := (hcredentials _ _ _ htwo hone).mp hread
    exact Bytes.not_isUtf8_iff.mpr (by decide) hcut

end Peripherals.Coprocessor
