import FatVolume.Fault

/-!
# Bytes

The structures on a volume are sequences of little endian numbers and of fixed byte fields.
`leBytes` and `leValue` are the two directions of a number. A `Reader` takes fields off the front
of a byte string and fails when the bytes run out.

Transfers use packed buffers: runs of one byte, bytes given by their index, and one buffer laid
over another. `data_filled`, `data_generate` and `getElem?_overlay` say what bytes each of them has,
the lemmas on `size` how many.
-/

namespace FatVolume

/-- The low `width` bytes of a number, least significant first. -/
def leBytes : Nat → Nat → List UInt8
  | 0, _ => []
  | width + 1, value => UInt8.ofNat value :: leBytes width (value / 256)

/-- The number that a byte string holds, least significant byte first. -/
def leValue : List UInt8 → Nat
  | [] => 0
  | b :: rest => b.toNat + 256 * leValue rest

/-- A field of `width` bytes has `width` bytes. -/
@[simp] theorem length_leBytes (width value : Nat) : (leBytes width value).length = width := by
  induction width generalizing value with
  | zero => rfl
  | succ width ih => simp [leBytes, ih]

/-- A number that is written and read again keeps its low bytes. -/
@[simp] theorem leValue_leBytes (width value : Nat) :
    leValue (leBytes width value) = value % 256 ^ width := by
  induction width generalizing value with
  | zero => simp [leBytes, leValue, Nat.mod_one]
  | succ width ih =>
    rw [leBytes, leValue, ih, Nat.pow_succ, Nat.mul_comm (256 ^ width) 256, Nat.mod_mul]
    simp

/-- A field that is read and written again is the same field. -/
theorem leBytes_leValue (field : List UInt8) : leBytes field.length (leValue field) = field := by
  induction field with
  | nil => rfl
  | cons b rest ih =>
    have hb := b.toNat_lt
    have low : UInt8.ofNat (leValue (b :: rest)) = b := by
      apply UInt8.toNat_inj.1
      simp only [leValue, UInt8.toNat_ofNat']
      omega
    have high : leValue (b :: rest) / 256 = leValue rest := by
      simp only [leValue]
      omega
    rw [List.length_cons, leBytes, low, high, ih]

/-- A number of `n` bytes stays below `256 ^ n`. -/
theorem leValue_lt (field : List UInt8) : leValue field < 256 ^ field.length := by
  induction field with
  | nil => simp [leValue]
  | cons b rest ih =>
    have hb := b.toNat_lt
    rw [leValue, List.length_cons, Nat.pow_succ]
    omega

/-- A reader of fields from the front of a byte string. -/
abbrev Reader := StateT (List UInt8) Option

namespace Reader

/-- The next `n` bytes. -/
def bytes (n : Nat) : Reader (List UInt8) := fun rest =>
  if n ≤ rest.length then some (rest.take n, rest.drop n) else none

/-- The next `n` bytes as a field of that size. -/
def field (n : Nat) : Reader (Vector UInt8 n) := fun rest =>
  if h : n ≤ rest.length then some (⟨(rest.take n).toArray, by simp [h]⟩, rest.drop n) else none

/-- The next byte as a number. -/
def word8 : Reader UInt8 := (fun b => UInt8.ofNat (leValue b)) <$> bytes 1

/-- The next two bytes as a number. -/
def word16 : Reader UInt16 := (fun b => UInt16.ofNat (leValue b)) <$> bytes 2

/-- The next four bytes as a number. -/
def word32 : Reader UInt32 := (fun b => UInt32.ofNat (leValue b)) <$> bytes 4

end Reader

/-- A field of one byte. -/
def ofWord8 (x : UInt8) : List UInt8 := leBytes 1 x.toNat

/-- A field of two bytes. -/
def ofWord16 (x : UInt16) : List UInt8 := leBytes 2 x.toNat

/-- A field of four bytes. -/
def ofWord32 (x : UInt32) : List UInt8 := leBytes 4 x.toNat

/-- The bytes of `text`, one for each character, which all lie below U+0100. -/
def ofText (text : String) : List UInt8 := text.toList.map fun c => UInt8.ofNat c.toNat

namespace Buffer

/-- A buffer of `n` bytes `b`, made by doubling. -/
def filled (n : Nat) (b : UInt8) : ByteArray :=
  if _h : n = 0 then ByteArray.empty
  else
    let half := filled (n / 2) b
    if n % 2 = 0 then half ++ half else (half ++ half).push b
termination_by n
decreasing_by omega

/-- A run holds nothing but its byte. -/
@[simp] theorem data_filled (n : Nat) (b : UInt8) : (filled n b).data = Array.replicate n b := by
  fun_induction filled n b with
  | case1 => rfl
  | case2 n _ half _ ih =>
    rw [ByteArray.data_append, show half.data = _ from ih, Array.replicate_append_replicate]
    congr 1
    omega
  | case3 n _ half _ ih =>
    rw [ByteArray.data_push, ByteArray.data_append, show half.data = _ from ih,
      Array.replicate_append_replicate, ← Array.replicate_succ]
    congr 1
    omega

/-- A run is as long as it was asked to be. -/
@[simp] theorem size_filled (n : Nat) (b : UInt8) : (filled n b).size = n := by
  rw [← ByteArray.size_data, data_filled, Array.size_replicate]

/-- A buffer of `n` zeros. -/
def zeros (n : Nat) : ByteArray := filled n 0

/-- Append the bytes `f i`, `f (i + 1)`, …, `n` of them. -/
def pushFrom (f : Nat → UInt8) : Nat → Nat → ByteArray → ByteArray
  | 0, _, buffer => buffer
  | n + 1, i, buffer => pushFrom f n (i + 1) (buffer.push (f i))

/-- The buffer of `n` bytes whose byte at index `i` is `f i`. -/
def generate (n : Nat) (f : Nat → UInt8) : ByteArray := pushFrom f n 0 ByteArray.empty

/-- The bytes that are appended are those of the indices. -/
theorem data_pushFrom (f : Nat → UInt8) (n i : Nat) (buffer : ByteArray) :
    (pushFrom f n i buffer).data = buffer.data ++ (Array.range' i n).map f := by
  induction n generalizing i buffer with
  | zero => simp [pushFrom]
  | succ n ih =>
    rw [pushFrom, ih, ByteArray.data_push]
    apply Array.toList_inj.1
    simp [List.range'_succ]

/-- A generated buffer holds the byte of each index. -/
@[simp] theorem data_generate (n : Nat) (f : Nat → UInt8) :
    (generate n f).data = (Array.range n).map f := by
  rw [generate, data_pushFrom, Array.range_eq_range']
  simp

/-- A generated buffer is as long as it was asked to be. -/
@[simp] theorem size_generate (n : Nat) (f : Nat → UInt8) : (generate n f).size = n := by
  simp [← ByteArray.size_data]

/-- The byte at an index as a number, zero past the end. -/
def byteAt (buffer : ByteArray) (i : Nat) : Nat :=
  if h : i < buffer.size then buffer[i].toNat else 0

/-- A buffer cut or filled with zeros to `n` bytes. -/
def resize (buffer : ByteArray) (n : Nat) : ByteArray :=
  if n ≤ buffer.size then buffer.extract 0 n else buffer ++ zeros (n - buffer.size)

/-- A resized buffer is as long as it was asked to be. -/
@[simp] theorem size_resize (buffer : ByteArray) (n : Nat) : (resize buffer n).size = n := by
  unfold resize
  split
  · rw [ByteArray.size_extract]
    omega
  · rw [ByteArray.size_append, zeros, size_filled]
    omega

/-- Lay the common part of two stretches of one address space over a buffer: `buffer` holds the
addresses from `start`, `data` those from `position`. -/
def overlay (buffer : ByteArray) (start : Nat) (position : Nat) (data : ByteArray) : ByteArray :=
  let first := max start position
  let last := min (start + buffer.size) (position + data.size)
  if first < last then
    data.copySlice (first - position) buffer (first - start) (last - first)
  else buffer

/-- Laying one buffer over another keeps its size. -/
@[simp] theorem size_overlay (buffer : ByteArray) (start position : Nat) (data : ByteArray) :
    (overlay buffer start position data).size = buffer.size := by
  unfold overlay
  dsimp only
  split
  · simp only [← ByteArray.size_data, ByteArray.copySlice, Array.size_append, Array.size_extract]
    simp only [ByteArray.size_data]
    omega
  · rfl

/-- At the addresses that both stretches have, the bytes are those of the upper one. -/
theorem getElem?_overlay (buffer : ByteArray) (start position : Nat) (data : ByteArray) (i : Nat)
    (h : i < buffer.size) :
    (overlay buffer start position data).data[i]? =
      if position ≤ start + i ∧ start + i < position + data.size then
        data.data[start + i - position]?
      else buffer.data[i]? := by
  unfold overlay
  dsimp only
  split
  · simp only [ByteArray.copySlice, Array.getElem?_append, Array.getElem?_extract,
      Array.size_append, Array.size_extract, ByteArray.size_data]
    grind
  · grind

/-- The bytes of a list in a buffer. -/
def ofList (bytes : List UInt8) : ByteArray := bytes.toByteArray

end Buffer

end FatVolume
