import Peripherals.Coprocessor.Link
import Peripherals.Proofs.Hardware.Conduct
import Peripherals.Proofs.Wire.Frame

/-!
# `Proofs.Link.Exchange` — one exchange on the four-wire bus

The link reads a response in two transfers. It takes the length off the header by itself, to know how much to read
next, and has the header judged only after that. A response frame that comes in one piece is read by
`Response.decode`. Both have to agree on every header, whatever length it announces.

* `Yields` — what an action gives, which calls it makes, and what it leaves to be read, on a driver that answers from a
  script; it is put together along the parts of an action (`Yields.bind`);
* `lengthField`, `body` — what one exchange reads, in terms of the two replies;
* `Link.send_eq_decode` — the answer of one exchange, and its calls.
-/

namespace Peripherals

namespace Hardware

variable {α β ε : Type}

/-! ## Actions on a scripted driver -/

/-- The driver was told to fail no transfer and no write, and has these replies left. -/
structure Scripted (h : Hardware) (replies : List Bytes) : Prop where
  writes : h.driver.faults.getD .pinWrite [] = []
  transfers : h.driver.faults.getD .fourWireTransfer [] = []
  replies : h.driver.fourWireReplies = replies

/-- **What an action does on a scripted driver**: its result, its calls, and the replies that it leaves. -/
def Yields (a : Action α) (replies : List Bytes) (x : α) (records : List Driver.Record) (left : List Bytes) : Prop :=
  ∀ h, Scripted h replies →
    ∃ h', a h = (x, h') ∧ Scripted h' left ∧ h'.calls = h.calls ++ records ∧ h'.arbiter = h.arbiter

variable {replies left last : List Bytes} {records records' : List Driver.Record}

theorem yields_pure (x : α) : Yields (pure x) replies x [] replies :=
  fun h hscripted => ⟨h, rfl, hscripted, (List.append_nil _).symm, rfl⟩

theorem yields_tell (lines : List Log.Line) : Yields (tell lines) replies () [] replies :=
  fun h hscripted => ⟨{ h with log := h.log ++ lines.toArray }, rfl, ⟨hscripted.1, hscripted.2, hscripted.3⟩,
    (List.append_nil _).symm, rfl⟩

/-- **One action after another.** -/
theorem Yields.bind {a : Action α} {f : α → Action β} {x : α} {y : β} (ha : Yields a replies x records left)
    (hf : Yields (f x) left y records' last) : Yields (a >>= f) replies y (records ++ records') last := by
  intro h hscripted
  obtain ⟨h₁, hrun, hscripted₁, hcalls, harbiter⟩ := ha h hscripted
  obtain ⟨h₂, hrun₂, hscripted₂, hcalls₂, harbiter₂⟩ := hf h₁ hscripted₁
  refine ⟨h₂, ?_, hscripted₂, ?_, harbiter₂.trans harbiter⟩
  · rw [run_bind, hrun]
    exact hrun₂
  · rw [hcalls₂, hcalls, List.append_assoc]

/-- One attempt after another that succeeds. -/
theorem Yields.attempt {a : Attempt ε α} {f : α → Attempt ε β} {x : α} {y : Except ε β}
    (ha : Yields a.run replies (.ok x) records left) (hf : Yields (f x).run left y records' last) :
    Yields (a >>= f).run replies y (records ++ records') last := by
  rw [ExceptT.run_bind]
  exact ha.bind hf

/-- **A write or a transfer** succeeds, with what the driver has for it. -/
theorem yields_issue {c : Driver.Call} {rx : Bytes}
    (hopcode : c.opcode = .pinWrite ∨ c.opcode = .fourWireTransfer)
    (hperform : ∀ h, Scripted h replies →
      (h.driver.perform c).1 = ⟨0, rx⟩ ∧ (h.driver.perform c).2.fourWireReplies = left) :
    Yields (issue c).run replies (.ok rx) [c.record 0] left := by
  intro h hscripted
  obtain ⟨hreply, hleft⟩ := hperform h hscripted
  have hfaults : h.driver.faults.getD c.opcode [] = [] := by
    rcases hopcode with hc | hc
    · rw [hc, hscripted.writes]
    · rw [hc, hscripted.transfers]
  have hrun := run_issue hfaults (by rw [hreply])
  rw [hreply] at hrun
  refine ⟨_, hrun, ⟨?_, ?_, hleft⟩, calls_answered c h, rfl⟩
  · rw [faults_answered, hscripted.writes]
  · rw [faults_answered, hscripted.transfers]

end Hardware

open Hardware

/-! ## What a selected peripheral hears and says -/

namespace Selection

/-- The record of a selection line that is put to a level. -/
def driven (s : Selection) (level : Bool) : Driver.Record :=
  ⟨.pinWrite, 0, s.port.pin.key, 0, 0, [if level then 1 else 0], 0, 0⟩

theorem yields_write (s : Selection) (level : Bool) (replies : List Bytes) :
    Yields (s.port.write level) replies (.ok (), { s.port with level }) [s.driven level] replies := by
  let c : Driver.Call := { opcode := .pinWrite, target := s.port.pin.key, tx := [if level then 1 else 0] }
  have hissue : Yields (issue c).run replies (.ok []) [s.driven level] replies :=
    yields_issue (.inl rfl) fun _ hscripted => ⟨rfl, hscripted.replies⟩
  have hdrive : Yields (Port.drive s.port.pin level).run replies (.ok ()) ([s.driven level] ++ []) replies :=
    hissue.attempt (yields_pure _)
  exact hdrive.bind (yields_pure _)

end Selection

namespace FourWireBus

variable {α : Type} {replies left : List Bytes} {records : List Driver.Record}

/-- The record of a transfer. -/
def transferred (b : FourWireBus) (tx : Bytes) (rxLength : Nat) : Driver.Record :=
  ⟨.fourWireTransfer, b.engine.number, 0, b.engine.frequency, b.modeBits, tx, rxLength, 0⟩

/-- A transfer without a receive buffer takes no reply. -/
theorem yields_send (b : FourWireBus) (tx : Bytes) (replies : List Bytes) :
    Yields (b.transfer tx []).run replies (.ok []) [b.transferred tx 0] replies :=
  yields_issue (.inr rfl) fun _ hscripted => ⟨rfl, hscripted.replies⟩

/-- A transfer with a receive buffer takes one reply, cut or padded to the buffer. -/
theorem yields_receive (b : FourWireBus) {n : Nat} (hn : 0 < n) (reply : Bytes) (replies : List Bytes) :
    Yields (b.transfer [] (Bytes.zeros n)).run (reply :: replies) (.ok (Bytes.fit n reply)) [b.transferred [] n]
      replies := by
  have hrecord : b.transferred [] n = b.transferred [] (Bytes.zeros n).length := by rw [Bytes.length_zeros]
  rw [hrecord]
  refine yields_issue (.inr rfl) fun h hscripted => ?_
  have hempty : (Bytes.zeros n).isEmpty = false := by
    rw [List.isEmpty_eq_false_iff, ← List.length_pos_iff, Bytes.length_zeros]
    exact hn
  simp only [Driver.Simulated.perform, hempty, hscripted.replies, Bytes.length_zeros]
  exact ⟨rfl, rfl⟩

/-- A program that goes on after its transfer. -/
theorem yields_andThen (b : FourWireBus) {tx rx received : Bytes} {next : Bytes → Program α} {x : Except Bus.Error α}
    {records' : List Driver.Record} {last : List Bytes}
    (htransfer : Yields (b.transfer tx rx).run replies (.ok received) records left)
    (hnext : Yields (b.run (next received)) left x records' last) :
    Yields (b.run (.andThen tx rx next)) replies x (records ++ records') last :=
  htransfer.bind hnext

/-- **Under a selection**, a program runs between the line's going active and its going inactive. -/
theorem yields_selected (b : FourWireBus) (s : Selection) {program : Program α} {x : Except Bus.Error α}
    (hprogram : Yields (b.run program) replies x records left) :
    Yields (b.selected s program) replies (x, { s.port with level := !s.mode.activeLevel })
      ([s.driven s.mode.activeLevel] ++ (records ++ [s.driven (!s.mode.activeLevel)])) left := by
  let active : Selection := { s with port := { s.port with level := s.mode.activeLevel } }
  have hdeselect : Yields (deselect active) left { s.port with level := !s.mode.activeLevel }
      ([s.driven (!s.mode.activeLevel)] ++ []) left :=
    (active.yields_write _ left).bind (yields_pure _)
  exact (s.yields_write _ replies).bind (hprogram.bind (hdeselect.bind (yields_pure _)))

end FourWireBus

namespace Coprocessor

/-! ## Two readers of one frame -/

/-- A header is taken apart before its length is judged. -/
theorem ResponseHeader.decode_words (status length : UInt32) (rest : Bytes) :
    ResponseHeader.decode (Bytes.ofWord32 status ++ Bytes.ofWord32 length ++ rest) =
      checkLength length.toNat >>= fun _ => .ok ⟨.ofWord status, length.toNat⟩ := by
  have hfields : readPart .responseHeader fields (Bytes.ofWord32 status ++ Bytes.ofWord32 length ++ rest)
      = .ok ((status, length), rest) := readPart_eq_ok.mpr (fields_eq_ok.mpr rfl)
  rw [decode, hfields]
  rfl

namespace Link

/-- The length field of a header: its last four bytes, least significant byte first. -/
def lengthField (header : Bytes) : Nat :=
  (header.getD 4 0).toNat + 256 * (header.getD 5 0).toNat + 65536 * (header.getD 6 0).toNat +
    16777216 * (header.getD 7 0).toNat

/-- A header announces a payload that the link reads. -/
def HasBody (header : Bytes) : Prop := 0 < lengthField header ∧ lengthField header ≤ 4000

instance (header : Bytes) : Decidable (HasBody header) := inferInstanceAs (Decidable (_ ∧ _))

/-- What the link reads behind a header, if the driver has this reply: the reply, cut or padded to the announced
length. -/
def body (header reply : Bytes) : Bytes := if HasBody header then Bytes.fit (lengthField header) reply else []

/-- Eight bytes are two words, and the second one is the length. -/
theorem words_of_header {header : Bytes} (hsize : header.length = 8) :
    ∃ status length, header = Bytes.ofWord32 status ++ Bytes.ofWord32 length ∧ lengthField header = length.toNat := by
  match header, hsize with
  | [s₀, s₁, s₂, s₃, l₀, l₁, l₂, l₃], _ =>
    refine ⟨Bytes.word32 s₀ s₁ s₂ s₃, Bytes.word32 l₀ l₁ l₂ l₃, ?_, ?_⟩
    · rw [Bytes.ofWord32_word32, Bytes.ofWord32_word32]
      rfl
    · have h₀ := l₀.toNat_lt
      have h₁ := l₁.toNat_lt
      have h₂ := l₂.toNat_lt
      have h₃ := l₃.toNat_lt
      have hfield : lengthField [s₀, s₁, s₂, s₃, l₀, l₁, l₂, l₃] =
          l₀.toNat + 256 * l₁.toNat + 65536 * l₂.toNat + 16777216 * l₃.toNat := rfl
      rw [hfield, Bytes.word32, UInt32.toNat_ofNat']
      exact (Nat.mod_eq_of_lt (by omega)).symm

/-- The link takes the length off a header as it is written there. -/
theorem announced_eq_lengthField {header : Bytes} (hsize : header.length = 8) :
    announced header = lengthField header := by
  obtain ⟨status, length, rfl, hlength⟩ := words_of_header hsize
  have hdrop : (Bytes.ofWord32 status ++ Bytes.ofWord32 length).drop 4 = Bytes.ofWord32 length ++ [] := rfl
  rw [hlength, announced, hdrop, Bytes.takeWord32?_ofWord32]

theorem length_body (reply : Bytes) {header : Bytes} (hlength : lengthField header ≤ 4000) :
    (body header reply).length = lengthField header := by
  unfold body
  split
  · exact Bytes.length_fit _ _
  · next hnone => exact (Nat.eq_zero_of_not_pos fun hpos => hnone ⟨hpos, hlength⟩).symm

/-- **Both readers agree** on a header and what the link reads behind it. -/
theorem response_eq_decode {header : Bytes} (hsize : header.length = 8) (reply : Bytes) :
    response header (body header reply) = (Response.decode (header ++ body header reply)).mapError .decode := by
  have hdrop : (header ++ body header reply).drop 8 = body header reply := List.drop_left' hsize
  have hlength : lengthField header ≤ 4000 → (body header reply).length = lengthField header := length_body reply
  rw [Response.decode_eq_bind, hdrop]
  generalize body header reply = payload at hlength ⊢
  obtain ⟨status, length, rfl, hfield⟩ := words_of_header hsize
  have halone := ResponseHeader.decode_words status length []
  rw [List.append_nil] at halone
  rw [response, halone, ResponseHeader.decode_words]
  cases hcheck : checkLength length.toNat with
  | error e => rfl
  | ok _ =>
      -- The announced length is read in full, so that nothing is missing and nothing is left over.
      have hfull : payload.length = length.toNat := by
        rw [hlength (hfield ▸ checkLength_eq_ok.mp hcheck), hfield]
      have htake : payload.take length.toNat = payload := hfull ▸ List.take_length
      simp only [bind, Except.bind, hfull, Nat.lt_irrefl, if_false, htake]
      rfl

/-! ## One exchange -/

/-- What the link does once it has a header. -/
def readPayload (header : Bytes) : FourWireBus.Program (Bytes × Bytes) :=
  if 0 < announced header ∧ announced header ≤ maxPayload then
    .andThen [] (Bytes.zeros (announced header)) fun payload => .stop (.ok (header, payload))
  else .stop (.ok (header, []))

theorem program_eq (frame : Bytes) :
    program frame = .andThen frame [] fun _ => .andThen [] (Bytes.zeros ResponseHeader.size) readPayload := rfl

/-- The transfer that reads a payload, if a header announces one. -/
def payloadTransfer (bus : FourWireBus) (header : Bytes) : List Driver.Record :=
  if HasBody header then [bus.transferred [] (lengthField header)] else []

/-- The replies that are left once a payload was read, if a header announces one. -/
def repliesLeft (header reply : Bytes) (rest : List Bytes) : List Bytes :=
  if HasBody header then rest else reply :: rest

theorem yields_readPayload (bus : FourWireBus) {header : Bytes} (hsize : header.length = 8) (reply : Bytes)
    (rest : List Bytes) :
    Yields (bus.run (readPayload header)) (reply :: rest) (.ok (header, body header reply)) (payloadTransfer bus header)
      (repliesLeft header reply rest) := by
  have hannounced := announced_eq_lengthField hsize
  by_cases hbody : HasBody header
  · have hread : 0 < announced header ∧ announced header ≤ maxPayload := hannounced.symm ▸ hbody
    rw [readPayload, if_pos hread, body, if_pos hbody, payloadTransfer, if_pos hbody, repliesLeft, if_pos hbody,
      hannounced]
    have hpayload : Yields (bus.run (.stop (.ok (header, Bytes.fit (lengthField header) reply)))) rest
        (.ok (header, Bytes.fit (lengthField header) reply)) [] rest := yields_pure _
    exact bus.yields_andThen (bus.yields_receive hbody.1 reply rest) hpayload
  · have hread : ¬ (0 < announced header ∧ announced header ≤ maxPayload) := hannounced.symm ▸ hbody
    rw [readPayload, if_neg hread, body, if_neg hbody, payloadTransfer, if_neg hbody, repliesLeft, if_neg hbody]
    exact yields_pure _

/-- The calls of one exchange: the line goes active, the frame is written, the header is read, and the payload if there
is one to read; then the line goes inactive. -/
def conversation (bus : FourWireBus) (s : Selection) (frame header : Bytes) : List Driver.Record :=
  [s.driven s.mode.activeLevel, bus.transferred frame 0, bus.transferred [] 8] ++ payloadTransfer bus header ++
    [s.driven (!s.mode.activeLevel)]

theorem yields_exchange (bus : FourWireBus) (s : Selection) (frame head reply : Bytes) (rest : List Bytes) :
    Yields (exchange bus s frame) (head :: reply :: rest)
      (response (Bytes.fit 8 head) (body (Bytes.fit 8 head) reply), { s.port with level := !s.mode.activeLevel })
      (conversation bus s frame (Bytes.fit 8 head)) (repliesLeft (Bytes.fit 8 head) reply rest) := by
  have hprogram : Yields (bus.run (program frame)) (head :: reply :: rest)
      (.ok (Bytes.fit 8 head, body (Bytes.fit 8 head) reply))
      ([bus.transferred frame 0] ++ ([bus.transferred [] 8] ++ payloadTransfer bus (Bytes.fit 8 head)))
      (repliesLeft (Bytes.fit 8 head) reply rest) := by
    rw [program_eq]
    refine bus.yields_andThen (bus.yields_send frame _) ?_
    refine bus.yields_andThen (bus.yields_receive (by decide) head _) ?_
    exact yields_readPayload bus (Bytes.length_fit 8 head) reply rest
  have hrecords : conversation bus s frame (Bytes.fit 8 head) =
      [s.driven s.mode.activeLevel] ++ (([bus.transferred frame 0] ++ ([bus.transferred [] 8] ++
        payloadTransfer bus (Bytes.fit 8 head))) ++ [s.driven (!s.mode.activeLevel)]) ++ [] := by
    simp [conversation]
  rw [hrecords]
  exact (bus.yields_selected s hprogram).bind (yields_pure _)

theorem yields_send (bus : FourWireBus) (s : Selection) (c : Command) (head reply : Bytes) (rest : List Bytes) :
    Yields (send bus s c) (head :: reply :: rest)
      (response (Bytes.fit 8 head) (body (Bytes.fit 8 head) reply), { s.port with level := !s.mode.activeLevel })
      (conversation bus s c.encode (Bytes.fit 8 head)) (repliesLeft (Bytes.fit 8 head) reply rest) := by
  have hexchange := yields_exchange bus s c.encode head reply rest
  have hend (lines : List Log.Line) (answer : Except Error Response × OutputPort) (left : List Bytes) :
      Yields (tell lines >>= fun _ => pure answer) left answer ([] ++ []) left :=
    (yields_tell lines).bind (yields_pure answer)
  have hrecords : conversation bus s c.encode (Bytes.fit 8 head) =
      [] ++ (conversation bus s c.encode (Bytes.fit 8 head) ++ []) := by
    rw [List.append_nil, List.nil_append]
  rw [hrecords]
  refine (yields_tell _).bind (hexchange.bind ?_)
  cases response (Bytes.fit 8 head) (body (Bytes.fit 8 head) reply) with
  | ok r => exact hend _ _ _
  | error e => exact yields_pure _

/-- **The link reads what the decoder reads.** Let the driver answer the reads of an exchange with `head` and `reply`.
Then the answer is what `Response.decode` makes of the header and the payload in one piece; the calls are those of the
conversation; and `reply` is left to be read if the header announces nothing, or too much. -/
theorem send_eq_decode (bus : FourWireBus) (s : Selection) (c : Command) (head reply : Bytes) (rest : List Bytes)
    {h : Hardware} (hscripted : Scripted h (head :: reply :: rest)) :
    ∃ h', send bus s c h =
        (((Response.decode (Bytes.fit 8 head ++ body (Bytes.fit 8 head) reply)).mapError .decode,
          { s.port with level := !s.mode.activeLevel }), h') ∧
      h'.calls = h.calls ++ conversation bus s c.encode (Bytes.fit 8 head) ∧
      h'.driver.fourWireReplies = repliesLeft (Bytes.fit 8 head) reply rest := by
  obtain ⟨h', hrun, hleft, hcalls, -⟩ := yields_send bus s c head reply rest h hscripted
  rw [response_eq_decode (Bytes.length_fit 8 head)] at hrun
  exact ⟨h', hrun, hcalls, hleft.replies⟩

/-- A bus. -/
def plainBus : FourWireBus := ⟨⟨2, 375000, []⟩, ClockMode.mode0.bits⟩

/-- A line that selects at the low level, and is high. -/
def plainSelection : Selection :=
  ⟨⟨⟨⟨"D02", 2, [.digital true true false]⟩, ⟨"D02", .digitalOutput, 0⟩⟩, true, .pushPull⟩, .activeLow⟩

/-- A driver with the header of two bytes, and three bytes after that. -/
def plainHardware : Hardware :=
  { Hardware.empty with
    driver := (Driver.Simulated.empty.queueFourWire [0, 0, 0, 0, 2, 0, 0, 0]).queueFourWire [7, 8, 9] }

/-- The third byte is cut off. -/
theorem send_eq_decode_poll :
    Scripted plainHardware [[0, 0, 0, 0, 2, 0, 0, 0], [7, 8, 9]] ∧
    ∃ h', send plainBus plainSelection .pollEvent plainHardware =
        ((.ok ⟨.completed, [7, 8]⟩, plainSelection.port), h') ∧
      h'.calls = [plainSelection.driven false, plainBus.transferred [0, 1, 0, 0, 0, 0, 0, 0, 0] 0,
        plainBus.transferred [] 8, plainBus.transferred [] 2, plainSelection.driven true] ∧
      h'.driver.fourWireReplies = [] := by
  have hscripted : Scripted plainHardware [[0, 0, 0, 0, 2, 0, 0, 0], [7, 8, 9]] := ⟨rfl, rfl, rfl⟩
  obtain ⟨h', hrun, hcalls, hleft⟩ := send_eq_decode plainBus plainSelection .pollEvent _ _ _ hscripted
  have hframe : Bytes.fit 8 [0, 0, 0, 0, 2, 0, 0, 0] ++ body (Bytes.fit 8 [0, 0, 0, 0, 2, 0, 0, 0]) [7, 8, 9] =
      [0, 0, 0, 0, 2, 0, 0, 0, 7, 8] := by decide
  have hanswer : Response.decode [0, 0, 0, 0, 2, 0, 0, 0, 7, 8] = .ok ⟨.completed, [7, 8]⟩ := by decide
  rw [hframe, hanswer] at hrun
  exact ⟨hscripted, h', hrun, hcalls.trans (by decide), hleft.trans (by decide)⟩

end Link

end Coprocessor

end Peripherals
