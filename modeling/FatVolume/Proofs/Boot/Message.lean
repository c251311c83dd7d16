import FatVolume.Boot.Codec
import FatVolume.Proofs.Boot.Codec

/-!
# Boot code with a message

Boot code that prints a message is its stub, the message without a zero in it, and zeros up to the
end (`PrintsMessage`). A message and a partition table both keep a boot sector readable, and the
byte before a partition table is zero.

The firmware prints a line feed as such, so a text for it has a carriage return before every line feed,
and none elsewhere (`Message.IsPrintable`). Encoding a message gives the one such text with the same
bytes apart from carriage returns and zeros (`Message.eq_body_iff`). It depends on no byte but those
that are left, so a message that is encoded already is not changed, and a message can be encoded in
parts, wherever it is cut (`Message.encode_normalForm`).
-/

namespace FatVolume

namespace Message

/-- A message has no zero before its end. -/
theorem ne_zero_of_mem_body {message : List UInt8} {b : UInt8} (h : b ∈ body message) : b ≠ 0 := by
  obtain ⟨c, -, hb⟩ := List.mem_flatMap.1 h
  unfold encodeByte at hb
  split at hb
  · cases hb
  · split at hb
    · rw [List.mem_cons, List.mem_singleton] at hb
      rcases hb with rfl | rfl <;> decide
    · rw [List.mem_singleton] at hb
      subst hb
      exact fun hzero => absurd (Or.inr hzero) ‹_›

theorem length_encode (message : List UInt8) :
    (encode message).length = (body message).length + 1 := by
  unfold encode
  rw [List.length_append, List.length_singleton]

end Message

namespace BootSector

@[simp] theorem length_stub (offset : Nat) : (stub offset).length = stubBytes := by
  simp [stub, stubHead, stubTail, stubBytes]

/-- Bytes at the start of boot code of some size, the rest of which is zeros. -/
def filled (size : Nat) (start : List UInt8) : List UInt8 :=
  start ++ List.replicate (size - start.length) 0

theorem length_filled {size : Nat} {start : List UInt8} (h : start.length ≤ size) :
    (filled size start).length = size := by
  unfold filled
  rw [List.length_append, List.length_replicate]
  omega

/-- After its start filled boot code is zeros. -/
theorem getElem?_filled {size i : Nat} {start : List UInt8} (hi : start.length ≤ i) (hlt : i < size) :
    (filled size start)[i]? = some 0 := by
  unfold filled
  rw [List.getElem?_append_right hi, List.getElem?_replicate, if_pos (by omega)]

/-- Zeros at the end of the start are filled in anyway. -/
theorem filled_append_zeros {size n : Nat} {start : List UInt8} (h : start.length + n ≤ size) :
    filled size (start ++ List.replicate n 0) = filled size start := by
  unfold filled
  rw [List.append_assoc, List.length_append, List.length_replicate, List.replicate_append_replicate]
  congr 2
  omega

/-- Filled boot code that is cut and filled again has the same start, cut. -/
theorem filled_take_filled {size k : Nat} (hk : k ≤ size) (start : List UInt8) :
    filled size ((filled size start).take k) = filled size (start.take k) := by
  have htake : (filled size start).take k =
      start.take k ++ List.replicate (min (k - start.length) (size - start.length)) 0 := by
    unfold filled
    rw [List.take_append, List.take_replicate]
  rw [htake]
  refine filled_append_zeros ?_
  rw [List.length_take]
  omega

/-- Boot code that prints a message: after the stub comes a text without zeros, then zeros only. -/
def PrintsMessage (code : List UInt8) : Prop :=
  ∃ stub text n, code = stub ++ text ++ List.replicate (n + 1) 0 ∧ stub.length = stubBytes ∧
    ∀ b ∈ text, b ≠ 0

/-- After its text boot code that prints a message is zeros. -/
theorem getElem?_of_printed {stub text : List UInt8} {n i : Nat}
    (hi : stub.length + text.length ≤ i)
    (hlt : i < (stub ++ text ++ List.replicate (n + 1) (0 : UInt8)).length) :
    (stub ++ text ++ List.replicate (n + 1) (0 : UInt8))[i]? = some 0 := by
  simp only [List.length_append, List.length_replicate] at hlt
  rw [List.getElem?_append_right (by rw [List.length_append]; exact hi), List.getElem?_replicate,
    if_pos (by rw [List.length_append]; omega)]

/-- Boot code that is filled from a stub and a text without zeros prints a message. -/
theorem printsMessage_filled {size : Nat} {stub text : List UInt8} (hstub : stub.length = stubBytes)
    (hzero : ∀ b ∈ text, b ≠ 0) (hroom : stubBytes + text.length < size) :
    PrintsMessage (filled size (stub ++ text)) := by
  obtain ⟨n, hn⟩ : ∃ n, size - (stub ++ text).length = n + 1 :=
    ⟨size - (stub ++ text).length - 1, by rw [List.length_append]; omega⟩
  refine ⟨stub, text, n, ?_, hstub, hzero⟩
  unfold filled
  rw [hn]

/-- Boot code that prints a message still does if it is cut after the stub and filled again. -/
theorem PrintsMessage.cut {code : List UInt8} (h : PrintsMessage code) {k size : Nat}
    (hk : stubBytes ≤ k) (hsize : k < size) : PrintsMessage (filled size (code.take k)) := by
  obtain ⟨stub, text, m, rfl, hstub, hzero⟩ := h
  have htake : (stub ++ text ++ List.replicate (m + 1) (0 : UInt8)).take k =
      stub ++ text.take (k - stub.length) ++
        List.replicate (min (k - (stub ++ text).length) (m + 1)) 0 := by
    rw [List.take_append, List.take_append, List.take_of_length_le (hstub ▸ hk),
      List.take_replicate]
  have hlength : (text.take (k - stub.length)).length = min (k - stub.length) text.length :=
    List.length_take
  rw [htake, filled_append_zeros (by simp only [List.length_append]; omega)]
  exact printsMessage_filled hstub (fun b hb => hzero b (List.mem_of_mem_take hb)) (by omega)

/-- A cut message is as much of the message as leaves room for its zero. -/
theorem cutMessage_encode {capacity : Nat} (h : 0 < capacity) (message : List UInt8) :
    cutMessage capacity (Message.encode message) =
      (Message.body message).take (capacity - 1) ++ [0] := by
  have hlength := Message.length_encode message
  unfold cutMessage
  split
  · unfold Message.encode
    rw [List.take_append_of_le_length (by omega)]
  · rw [List.take_of_length_le (by omega)]
    rfl

variable {s : BootSector}

/-- A message finds room before the end of the boot code. -/
theorem Readable.messageCapacity (h : s.Readable) :
    0 < s.messageCapacity ∧ stubBytes + s.messageCapacity ≤ s.code.length := by
  have hstart := s.codeStart_le
  have hcode := h.length_code
  simp only [codeEnd] at hcode
  unfold BootSector.messageCapacity
  simp only [diskSignatureOffset, stubBytes]
  split <;> omega

/-- What changes of the boot code rely on: it has room for the stub, for a message with its zero, and
for a partition table after at least one byte. -/
structure IsRoomy (s : BootSector) : Prop where
  /-- A message takes a byte at least, its zero. -/
  capacity : 0 < s.messageCapacity
  /-- The stub and a message fit the boot code. -/
  message : ∀ message, (stub s.codeStart ++
    cutMessage s.messageCapacity (Message.encode message)).length ≤ s.code.length
  /-- The disk signature lies in the boot code. -/
  signature : s.codeStart < diskSignatureOffset ∧
    diskSignatureOffset - s.codeStart < s.code.length

/-- The boot code of a sector that a driver accepts has room. -/
theorem Readable.isRoomy (h : s.Readable) : s.IsRoomy where
  capacity := h.messageCapacity.1
  message := fun message => by
    obtain ⟨hpos, hroom⟩ := h.messageCapacity
    have hlength := List.length_take_le (s.messageCapacity - 1) (Message.body message)
    rw [cutMessage_encode hpos, List.length_append, List.length_append, length_stub,
      List.length_singleton]
    omega
  signature := by
    have hstart := s.codeStart_le
    rw [h.length_code]
    simp only [diskSignatureOffset, codeEnd]
    omega

/-- Boot code after a message: the stub, as much of the message as leaves room for its zero, and zeros
up to the end. -/
theorem Readable.setMessage_eq (h : s.Readable) (message : List UInt8) :
    (s.setMessage message).code = filled s.code.length
      (stub s.codeStart ++ (Message.body message).take (s.messageCapacity - 1)) := by
  obtain ⟨hpos, hroom⟩ := h.messageCapacity
  have hlength := List.length_take_le (s.messageCapacity - 1) (Message.body message)
  have hset : (s.setMessage message).code = filled s.code.length
      (stub s.codeStart ++ cutMessage s.messageCapacity (Message.encode message)) := rfl
  rw [hset, cutMessage_encode hpos, ← List.append_assoc]
  refine filled_append_zeros (n := 1) ?_
  rw [List.length_append, length_stub]
  omega

/-- A message leaves boot code that prints it, of the same length. -/
theorem Readable.setMessage_code (h : s.Readable) (message : List UInt8) :
    PrintsMessage (s.setMessage message).code ∧
      (s.setMessage message).code.length = s.code.length := by
  obtain ⟨hpos, hroom⟩ := h.messageCapacity
  have hlength := List.length_take_le (s.messageCapacity - 1) (Message.body message)
  rw [h.setMessage_eq]
  refine ⟨printsMessage_filled (length_stub _)
    (fun b hb => Message.ne_zero_of_mem_body (List.mem_of_mem_take hb)) (by omega), length_filled ?_⟩
  rw [List.length_append, length_stub]
  omega

/-- A message keeps a boot sector readable. -/
theorem Readable.setMessage (h : s.Readable) (message : List UInt8) :
    (s.setMessage message).Readable where
  sectorBytes := h.sectorBytes
  clusterSectors := h.clusterSectors
  tableCount := h.tableCount
  isSome_fat32 := h.isSome_fat32
  length_code := (h.setMessage_code message).2.trans h.length_code

end BootSector

namespace Message

/-- A text as the firmware prints it. -/
structure IsPrintable (text : List UInt8) : Prop where
  /-- No zero ends the text early. -/
  ne_zero : ∀ b ∈ text, b ≠ 0
  /-- A line feed follows every carriage return. -/
  lineFeed_of_return : ∀ i : Nat, text[i]? = some 13 → text[i + 1]? = some 10
  /-- A carriage return precedes every line feed. -/
  return_of_lineFeed : ∀ i : Nat, text[i]? = some 10 → ∃ j, i = j + 1 ∧ text[j]? = some 13

/-- A byte that takes part in no line end, and ends no text. -/
def IsPlain (b : UInt8) : Prop := b ≠ 0 ∧ b ≠ 13 ∧ b ≠ 10

/-- A byte that a message keeps: not a carriage return, nor a zero. -/
def isKept (b : UInt8) : Bool := b ≠ 13 ∧ b ≠ 0

variable {b : UInt8} {text rest : List UInt8}

theorem isPrintable_nil : IsPrintable [] := ⟨nofun, nofun, nofun⟩

theorem isPrintable_cons_iff (hb : IsPlain b) : IsPrintable (b :: rest) ↔ IsPrintable rest := by
  obtain ⟨hzero, hreturn, hfeed⟩ := hb
  constructor
  · intro h
    refine ⟨fun c hc => h.ne_zero c (List.mem_cons_of_mem b hc),
      fun i => h.lineFeed_of_return (i + 1), fun i hi => ?_⟩
    obtain ⟨j, hj, hprevious⟩ := h.return_of_lineFeed (i + 1) hi
    cases j with
    | zero => exact absurd (Option.some.inj hprevious) hreturn
    | succ j => exact ⟨j, Nat.succ.inj hj, hprevious⟩
  · intro h
    refine ⟨List.forall_mem_cons.2 ⟨hzero, h.ne_zero⟩, fun i hi => ?_, fun i hi => ?_⟩
    · cases i with
      | zero => exact absurd (Option.some.inj hi) hreturn
      | succ i => exact h.lineFeed_of_return i hi
    · cases i with
      | zero => exact absurd (Option.some.inj hi) hfeed
      | succ i =>
        obtain ⟨j, rfl, hprevious⟩ := h.return_of_lineFeed i hi
        exact ⟨j + 1, rfl, hprevious⟩

theorem isPrintable_lineEnd_iff : IsPrintable (13 :: 10 :: rest) ↔ IsPrintable rest := by
  constructor
  · intro h
    refine ⟨fun c hc => h.ne_zero c (by simp [hc]), fun i => h.lineFeed_of_return (i + 2),
      fun i hi => ?_⟩
    obtain ⟨j, hj, hprevious⟩ := h.return_of_lineFeed (i + 2) hi
    match j, hj with
    | 1, _ => exact absurd (Option.some.inj hprevious) (by decide)
    | j + 2, hj => exact ⟨j, by omega, hprevious⟩
  · intro h
    refine ⟨?_, fun i hi => ?_, fun i hi => ?_⟩
    · simp only [List.forall_mem_cons]
      exact ⟨by decide, by decide, h.ne_zero⟩
    · match i with
      | 0 => rfl
      | 1 => exact absurd (Option.some.inj hi) (by decide)
      | i + 2 => exact h.lineFeed_of_return i hi
    · match i with
      | 0 => exact absurd (Option.some.inj hi) (by decide)
      | 1 => exact ⟨0, rfl, rfl⟩
      | i + 2 =>
        obtain ⟨j, rfl, hprevious⟩ := h.return_of_lineFeed i hi
        exact ⟨j + 2, rfl, hprevious⟩

/-- A printable text starts with a plain byte or with a line end, and goes on as a printable text. -/
theorem IsPrintable.cons_cases (h : IsPrintable (b :: rest)) :
    IsPlain b ∧ IsPrintable rest ∨ b = 13 ∧ ∃ tail, rest = 10 :: tail ∧ IsPrintable tail := by
  by_cases hreturn : b = 13
  · subst hreturn
    have hnext := h.lineFeed_of_return 0 rfl
    cases rest with
    | nil => cases hnext
    | cons c tail =>
      cases Option.some.inj hnext
      exact Or.inr ⟨rfl, tail, rfl, isPrintable_lineEnd_iff.1 h⟩
  · have hfeed : b ≠ 10 := by
      rintro rfl
      obtain ⟨j, hj, -⟩ := h.return_of_lineFeed 0 rfl
      exact absurd hj.symm (Nat.succ_ne_zero j)
    have hplain : IsPlain b := ⟨h.ne_zero b List.mem_cons_self, hreturn, hfeed⟩
    exact Or.inl ⟨hplain, (isPrintable_cons_iff hplain).1 h⟩

/-- A message is encoded byte by byte. -/
theorem body_cons (b : UInt8) (rest : List UInt8) : body (b :: rest) = encodeByte b ++ body rest :=
  List.flatMap_cons

/-- A message is encoded part by part. -/
theorem body_append (message rest : List UInt8) :
    body (message ++ rest) = body message ++ body rest := List.flatMap_append

/-- A byte that is not kept leaves nothing. -/
theorem encodeByte_of_not_isKept (hb : isKept b = false) : encodeByte b = [] := by
  simp only [isKept, decide_eq_false_iff_not] at hb
  exact if_pos (by tauto)

/-- A plain byte is encoded as itself. -/
theorem encodeByte_of_isPlain (hb : IsPlain b) : encodeByte b = [b] := by
  obtain ⟨hzero, hreturn, hfeed⟩ := hb
  unfold encodeByte
  rw [if_neg (by tauto), if_neg hfeed]

/-- A byte is dropped, or is a line feed, or is plain. -/
theorem byte_cases (b : UInt8) : isKept b = false ∨ b = 10 ∨ IsPlain b := by
  simp only [isKept, IsPlain, decide_eq_false_iff_not]
  tauto

/-- An encoded message is printable. -/
theorem isPrintable_body (message : List UInt8) : IsPrintable (body message) := by
  induction message with
  | nil => exact isPrintable_nil
  | cons b rest ih =>
    rw [body_cons]
    rcases byte_cases b with hb | rfl | hb
    · rwa [encodeByte_of_not_isKept hb]
    · exact isPrintable_lineEnd_iff.2 ih
    · rw [encodeByte_of_isPlain hb]
      exact (isPrintable_cons_iff hb).2 ih

/-- A printable text is encoded as itself. -/
theorem IsPrintable.body_eq : ∀ {text : List UInt8}, IsPrintable text → body text = text
  | [], _ => rfl
  | b :: rest, h => by
    rcases h.cons_cases with ⟨hb, hrest⟩ | ⟨rfl, tail, rfl, htail⟩
    · rw [body_cons, encodeByte_of_isPlain hb, hrest.body_eq, List.singleton_append]
    · exact congrArg (13 :: 10 :: ·) htail.body_eq
termination_by text => text.length

/-- Without its carriage returns an encoded message has the bytes that the message keeps. -/
theorem filter_body (message : List UInt8) :
    (body message).filter (· ≠ 13) = message.filter isKept := by
  induction message with
  | nil => rfl
  | cons b rest ih =>
    rw [body_cons, List.filter_append, ih]
    rcases byte_cases b with hb | rfl | hb
    · rw [encodeByte_of_not_isKept hb, List.filter_cons_of_neg (by rw [hb]; decide)]
      rfl
    · rfl
    · have hkept : isKept b = true := decide_eq_true ⟨hb.2.1, hb.1⟩
      have hstays : [b].filter (· ≠ 13) = [b] := List.filter_cons_of_pos (decide_eq_true hb.2.1)
      rw [encodeByte_of_isPlain hb, List.filter_cons_of_pos hkept, hstays, List.singleton_append]

/-- The bytes that a message keeps are encoded as the message is. -/
theorem body_filter (message : List UInt8) : body (message.filter isKept) = body message := by
  induction message with
  | nil => rfl
  | cons b rest ih =>
    cases hb : isKept b with
    | false =>
      rw [List.filter_cons_of_neg (by rw [hb]; decide), body_cons, encodeByte_of_not_isKept hb, ih]
      rfl
    | true => rw [List.filter_cons_of_pos hb, body_cons, body_cons, ih]

/-- The encoded message is the one printable text that has the bytes which the message keeps. -/
theorem eq_body_iff (message text : List UInt8) :
    text = body message ↔ IsPrintable text ∧ text.filter (· ≠ 13) = message.filter isKept := by
  constructor
  · rintro rfl
    exact ⟨isPrintable_body message, filter_body message⟩
  · rintro ⟨hprintable, hkept⟩
    have hfilter : text.filter isKept = message.filter isKept := by
      rw [← filter_body text, hprintable.body_eq, hkept]
    calc text = body text := hprintable.body_eq.symm
      _ = body (text.filter isKept) := (body_filter text).symm
      _ = body (message.filter isKept) := by rw [hfilter]
      _ = body message := body_filter message

/-- The zero at the end of a message is dropped if the message is encoded again. -/
theorem body_encode (message : List UInt8) : body (encode message) = body message := by
  show body (body message ++ [0]) = body message
  rw [body_append, (isPrintable_body message).body_eq]
  exact List.append_nil _

/-- **An encoded message is in normal form.** For every message:

* it is encoded as a text with a zero at its end, and the text is the only one without a zero, with
  every carriage return just before a line feed and every line feed just after a carriage return, that
  has the bytes of the message in order when carriage returns and zeros are left out;
* it is not changed by being encoded again;
* if it goes on, its text is followed by that of the rest, even if a line end is cut in two. -/
theorem encode_normalForm (message : List UInt8) :
    encode message = body message ++ [0] ∧
    (∀ text, text = body message ↔ IsPrintable text ∧
      text.filter (· ≠ 13) = message.filter fun b => b ≠ 13 ∧ b ≠ 0) ∧
    encode (encode message) = encode message ∧
    ∀ rest, body (message ++ rest) = body message ++ body rest :=
  ⟨rfl, eq_body_iff message, congrArg (· ++ [0]) (body_encode message), body_append message⟩

example : encode [97, 13, 10, 98, 0, 99, 10, 13] = [97, 13, 10, 98, 99, 13, 10, 0] := by decide

end Message

end FatVolume
