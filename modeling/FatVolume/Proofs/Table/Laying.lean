import FatVolume.Proofs.Table.Packing

/-!
# Tables that are packed entry by entry

`Table.pack` says what each byte of a packed table is. Here the bytes come about one entry after the
other: `Width.layEntry` lays an entry into a buffer, where two entries of 12 bits share a byte and
each leaves the other's half alone, and `Width.fetchEntry` takes an entry from one. Both end in a
fault as soon as they touch an index that the buffer does not have. They never do (`fetchAll_eq`),
and the entries laid in order make the packed table (`layAll_eq`).
-/

namespace FatVolume

/-- The bytes of a number are its digits to the base 256. -/
theorem getElem?_leBytes {width i : Nat} (h : i < width) (value : Nat) :
    (leBytes width value)[i]? = some (UInt8.ofNat (value / 256 ^ i % 256)) := by
  induction width generalizing i value with
  | zero => cases h
  | succ width ih =>
    cases i with
    | zero =>
      rw [leBytes, List.getElem?_cons_zero, Nat.pow_zero, Nat.div_one]
      exact congrArg some UInt8.ofNat_mod_size.symm
    | succ i =>
      rw [leBytes, List.getElem?_cons_succ, ih (Nat.lt_of_succ_lt_succ h), Nat.div_div_eq_div_mul,
        Nat.pow_succ']

namespace Buffer

/-- The byte at an index that the buffer must have. -/
def fetch (buffer : ByteArray) (i : Nat) : Checked Nat :=
  if h : i < buffer.size then .ok buffer[i].toNat else .error .outOfBounds

/-- The buffer with another byte at an index that it must have. -/
def store (buffer : ByteArray) (i : Nat) (b : UInt8) : Checked ByteArray :=
  if h : i < buffer.size then .ok (buffer.set i b) else .error .outOfBounds

/-- The buffer with other bytes from an index on. -/
def storeAll (buffer : ByteArray) (i : Nat) : List UInt8 → Checked ByteArray
  | [] => pure buffer
  | b :: rest => do
    let buffer ← store buffer i b
    storeAll buffer (i + 1) rest

theorem fetch_of_lt {buffer : ByteArray} {i : Nat} (h : i < buffer.size) :
    fetch buffer i = .ok (byteAt buffer i) := by
  unfold fetch byteAt
  rw [dif_pos h, dif_pos h]

variable {f : Nat → UInt8} {n i : Nat}

/-- Generated buffers with the same bytes are the same. -/
theorem generate_congr {g : Nat → UInt8} (h : ∀ i, i < n → f i = g i) :
    generate n f = generate n g := by
  refine ByteArray.ext (Array.ext_getElem? fun i => ?_)
  rw [data_generate, data_generate, Array.getElem?_map, Array.getElem?_map, Array.getElem?_range]
  split
  · rw [Option.map_some, Option.map_some, h i ‹_›]
  · rfl

/-- Zeros are the generated buffer of the byte zero. -/
theorem zeros_eq_generate (n : Nat) : zeros n = generate n fun _ => 0 := by
  refine ByteArray.ext (Array.ext_getElem? fun i => ?_)
  rw [zeros, data_filled, data_generate, Array.getElem?_map, Array.getElem?_range,
    Array.getElem?_replicate]
  split <;> rfl

/-- A byte of a generated buffer is fetched. -/
theorem fetch_generate (h : i < n) : fetch (generate n f) i = .ok (f i).toNat := by
  rw [fetch_of_lt (by rw [size_generate]; exact h), byteAt_generate h]

/-- A byte of a generated buffer is replaced. -/
theorem store_generate (h : i < n) (b : UInt8) :
    store (generate n f) i b = .ok (generate n (Function.update f i b)) := by
  unfold store
  rw [dif_pos (by rw [size_generate]; exact h)]
  refine congrArg Except.ok (ByteArray.ext (Array.ext_getElem? fun j => ?_))
  show ((generate n f).data.set i b (by rw [ByteArray.size_data, size_generate]; exact h))[j]? = _
  rw [Array.getElem?_set, data_generate, data_generate, Array.getElem?_map, Array.getElem?_map,
    Array.getElem?_range]
  by_cases hj : i = j
  · subst hj
    rw [if_pos rfl, if_pos h, Option.map_some, Function.update_self]
  · rw [if_neg hj]
    split
    · rw [Option.map_some, Option.map_some, Function.update_of_ne (Ne.symm hj)]
    · rfl

/-- Bytes of a generated buffer are replaced from an index on. -/
theorem storeAll_generate {bytes : List UInt8} (h : i + bytes.length ≤ n) :
    storeAll (generate n f) i bytes = .ok (generate n fun j =>
      if i ≤ j then bytes[j - i]?.getD (f j) else f j) := by
  induction bytes generalizing f i with
  | nil =>
    refine congrArg Except.ok (generate_congr fun j _ => ?_)
    split <;> rfl
  | cons b rest ih =>
    rw [List.length_cons] at h
    unfold storeAll
    rw [store_generate (by omega), ok_bind, ih (by omega)]
    refine congrArg Except.ok (generate_congr fun j _ => ?_)
    by_cases hj : i = j
    · subst hj
      rw [if_neg (by omega), if_pos (Nat.le_refl i), Function.update_self, Nat.sub_self]
      rfl
    · rw [Function.update_of_ne (Ne.symm hj)]
      by_cases hle : i ≤ j
      · obtain ⟨k, rfl⟩ := Nat.exists_eq_add_of_lt (Nat.lt_of_le_of_ne hle hj)
        rw [if_pos (by omega), if_pos hle, (by omega : i + k + 1 - i = k + 1),
          (by omega : i + k + 1 - (i + 1) = k)]
        rfl
      · rw [if_neg (by omega), if_neg hle]

end Buffer

namespace Width

/-- Lay an entry into a packed table. -/
def layEntry (w : Width) (buffer : ByteArray) (n value : Nat) : Checked ByteArray :=
  match w with
  | fat12 =>
    if n % 2 = 0 then do
      let buffer ← Buffer.store buffer (n * 3 / 2) (UInt8.ofNat (value % 256))
      let shared ← Buffer.fetch buffer (n * 3 / 2 + 1)
      Buffer.store buffer (n * 3 / 2 + 1) (UInt8.ofNat (value / 256 % 16 + shared / 16 * 16))
    else do
      let shared ← Buffer.fetch buffer (n * 3 / 2)
      let buffer ← Buffer.store buffer (n * 3 / 2) (UInt8.ofNat (shared % 16 + value % 16 * 16))
      Buffer.store buffer (n * 3 / 2 + 1) (UInt8.ofNat (value / 16 % 256))
  | fat16 => Buffer.storeAll buffer (2 * n) (leBytes 2 value)
  | fat32 => Buffer.storeAll buffer (4 * n) (leBytes 4 (fat32.value value))

/-- Take an entry from a packed table. -/
def fetchEntry (w : Width) (buffer : ByteArray) (n : Nat) : Checked Nat :=
  match w with
  | fat12 => do
    let low ← Buffer.fetch buffer (n * 3 / 2)
    let high ← Buffer.fetch buffer (n * 3 / 2 + 1)
    pure (if n % 2 = 0 then low + high % 16 * 256 else low / 16 + high * 16)
  | fat16 => do
    let low ← Buffer.fetch buffer (2 * n)
    let high ← Buffer.fetch buffer (2 * n + 1)
    pure (low + 256 * high)
  | fat32 => do
    let b₀ ← Buffer.fetch buffer (4 * n)
    let b₁ ← Buffer.fetch buffer (4 * n + 1)
    let b₂ ← Buffer.fetch buffer (4 * n + 2)
    let b₃ ← Buffer.fetch buffer (4 * n + 3)
    pure (fat32.value (b₀ + 256 * b₁ + 65536 * b₂ + 16777216 * b₃))

/-- The buffer of a packed table with the given entries. -/
def packed (w : Width) (count : Nat) (entry : Nat → Nat) : ByteArray :=
  Buffer.generate (w.tableBytes count) fun i => UInt8.ofNat (w.packedByte entry i)

/-- An entry is taken from every table that has it. -/
theorem fetchEntry_eq (w : Width) {buffer : ByteArray} {count n : Nat} (hn : n < count)
    (hsize : w.tableBytes count ≤ buffer.size) :
    w.fetchEntry buffer n = .ok (w.unpackedEntry (Buffer.byteAt buffer) n) := by
  cases w <;> simp only [tableBytes] at hsize <;> dsimp only [fetchEntry]
  · rw [Buffer.fetch_of_lt (by omega), Buffer.fetch_of_lt (by omega)]
    rfl
  · rw [Buffer.fetch_of_lt (by omega), Buffer.fetch_of_lt (by omega)]
    rfl
  · rw [Buffer.fetch_of_lt (by omega), Buffer.fetch_of_lt (by omega),
      Buffer.fetch_of_lt (by omega), Buffer.fetch_of_lt (by omega)]
    rfl

variable {entry : Nat → Nat} {count n : Nat}

/-- The first of two entries of 12 bits is laid over the first byte and half of the second. -/
theorem layEntry_first {k : Nat} (hk : 2 * k < count) (value : Nat) :
    fat12.layEntry (fat12.packed count entry) (2 * k) value =
      .ok (fat12.packed count (Function.update entry (2 * k) value)) := by
  have hsize : 3 * k + 1 < fat12.tableBytes count := by
    simp only [tableBytes]
    omega
  have hindex : 2 * k * 3 / 2 = 3 * k := by omega
  unfold layEntry packed
  dsimp only
  rw [if_pos (Nat.mul_mod_right 2 k), hindex, Buffer.store_generate (by omega), ok_bind,
    Buffer.fetch_generate hsize, ok_bind, Buffer.store_generate hsize,
    Function.update_of_ne (by omega), UInt8.toNat_ofNat_of_lt' (fat12.packedByte_lt _ _),
    packedByte_second]
  refine congrArg Except.ok (Buffer.generate_congr fun i _ => ?_)
  obtain ⟨j, rfl | rfl | rfl⟩ : ∃ j, i = 3 * j ∨ i = 3 * j + 1 ∨ i = 3 * j + 2 :=
    ⟨i / 3, by omega⟩
  · rw [Function.update_of_ne (by omega), packedByte_first]
    by_cases hj : j = k
    · rw [hj, Function.update_self, Function.update_self]
    · rw [Function.update_of_ne (by omega), packedByte_first, Function.update_of_ne (by omega)]
  · rw [packedByte_second, Function.update_of_ne (a := 2 * j + 1) (by omega)]
    by_cases hj : j = k
    · rw [hj, Function.update_self, Function.update_self]
      congr 2
      omega
    · rw [Function.update_of_ne (by omega), Function.update_of_ne (by omega), packedByte_second,
        Function.update_of_ne (by omega)]
  · rw [Function.update_of_ne (by omega), Function.update_of_ne (by omega), packedByte_third,
      packedByte_third, Function.update_of_ne (by omega)]

/-- The second of two entries of 12 bits is laid over half of the second byte and the third. -/
theorem layEntry_second {k : Nat} (hk : 2 * k + 1 < count) (value : Nat) :
    fat12.layEntry (fat12.packed count entry) (2 * k + 1) value =
      .ok (fat12.packed count (Function.update entry (2 * k + 1) value)) := by
  have hsize : 3 * k + 2 < fat12.tableBytes count := by
    simp only [tableBytes]
    omega
  have hindex : (2 * k + 1) * 3 / 2 = 3 * k + 1 := by omega
  unfold layEntry packed
  dsimp only
  rw [if_neg (by omega), hindex, Buffer.fetch_generate (by omega), ok_bind,
    Buffer.store_generate (by omega), ok_bind, Buffer.store_generate hsize,
    UInt8.toNat_ofNat_of_lt' (fat12.packedByte_lt _ _), packedByte_second]
  refine congrArg Except.ok (Buffer.generate_congr fun i _ => ?_)
  obtain ⟨j, rfl | rfl | rfl⟩ : ∃ j, i = 3 * j ∨ i = 3 * j + 1 ∨ i = 3 * j + 2 :=
    ⟨i / 3, by omega⟩
  · rw [Function.update_of_ne (by omega), Function.update_of_ne (by omega), packedByte_first,
      packedByte_first, Function.update_of_ne (by omega)]
  · rw [Function.update_of_ne (by omega), packedByte_second,
      Function.update_of_ne (a := 2 * j) (by omega)]
    by_cases hj : j = k
    · rw [hj, Function.update_self, Function.update_self]
      congr 1
      omega
    · rw [Function.update_of_ne (by omega), packedByte_second, Function.update_of_ne (by omega)]
  · rw [packedByte_third]
    by_cases hj : j = k
    · rw [hj, Function.update_self, Function.update_self]
    · rw [Function.update_of_ne (by omega), Function.update_of_ne (by omega), packedByte_third,
        Function.update_of_ne (by omega)]

/-- An entry that has bytes of its own is laid over them. -/
theorem storeAll_whole (entry : Nat → Nat) {unit size : Nat} (hunit : 0 < unit)
    (hsize : unit * (n + 1) ≤ size) (value : Nat) :
    Buffer.storeAll (Buffer.generate size fun i =>
        UInt8.ofNat (entry (i / unit) / 256 ^ (i % unit) % 256)) (unit * n) (leBytes unit value) =
      .ok (Buffer.generate size fun i =>
        UInt8.ofNat (Function.update entry n value (i / unit) / 256 ^ (i % unit) % 256)) := by
  rw [Nat.mul_succ] at hsize
  rw [Buffer.storeAll_generate (by rw [length_leBytes]; exact hsize)]
  refine congrArg Except.ok (Buffer.generate_congr fun i _ => ?_)
  have hsplit := Nat.div_add_mod i unit
  by_cases hi : i / unit = n
  · rw [hi] at hsplit ⊢
    rw [if_pos (by omega), (by omega : i - unit * n = i % unit),
      getElem?_leBytes (Nat.mod_lt i hunit), Option.getD_some, Function.update_self]
  · rw [Function.update_of_ne hi]
    split
    · rename_i hle
      have hpast : unit ≤ i - unit * n := by
        have hlt : n < i / unit := Nat.lt_of_le_of_ne
          ((Nat.le_div_iff_mul_le hunit).2 (by rwa [Nat.mul_comm])) (Ne.symm hi)
        have := Nat.mul_le_mul_left unit hlt
        rw [Nat.mul_succ] at this
        omega
      rw [List.getElem?_eq_none (by rw [length_leBytes]; exact hpast), Option.getD_none]
    · rfl

/-- An entry that is laid into a packed table replaces that entry and no other. -/
theorem layEntry_eq (w : Width) (hn : n < count) (value : Nat) :
    w.layEntry (w.packed count entry) n value =
      .ok (w.packed count (Function.update entry n value)) := by
  cases w with
  | fat12 =>
    rcases Nat.even_or_odd' n with ⟨k, rfl | rfl⟩
    · exact layEntry_first hn value
    · exact layEntry_second hn value
  | fat16 => exact storeAll_whole entry (by decide) (by simp only [tableBytes]; omega) value
  | fat32 =>
    have hsize : 4 * (n + 1) ≤ fat32.tableBytes count := by
      simp only [tableBytes]
      omega
    have hwhole := storeAll_whole (fun n => fat32.value (entry n)) (by decide) hsize
      (fat32.value value)
    have hupdate : Function.update (fun n => fat32.value (entry n)) n (fat32.value value) =
        fun m => fat32.value (Function.update entry n value m) :=
      (Function.comp_update fat32.value entry n value).symm
    rw [hupdate] at hwhole
    exact hwhole

end Width

namespace Table

/-- The table as its entries make it one after the other. -/
def layAll (t : Table) : Checked ByteArray :=
  (List.range t.entryCount).foldlM
    (fun buffer n => t.width.layEntry buffer n (t.entries[n]?.getD 0))
    (Buffer.zeros (t.width.tableBytes t.entryCount))

/-- The entries of a packed table, one after the other. -/
def fetchAll (w : Width) (count : Nat) (buffer : ByteArray) : Checked (List Nat) :=
  (List.range count).mapM (w.fetchEntry buffer)

/-- The first entries are laid one after the other. -/
theorem layFirst_eq (w : Width) (entry : Nat → Nat) {count m : Nat} (hm : m ≤ count) :
    (List.range m).foldlM (fun buffer n => w.layEntry buffer n (entry n))
        (Buffer.zeros (w.tableBytes count)) =
      .ok (w.packed count fun n => if n < m then entry n else 0) := by
  induction m with
  | zero =>
    have hzero : ∀ i, w.packedByte (fun _ => 0) i = 0 := by
      intro i
      unfold Width.packedByte
      cases w with
      | fat12 =>
        dsimp only
        split <;> rfl
      | fat16 => exact (congrArg (· % 256) (Nat.zero_div _))
      | fat32 => exact (congrArg (· % 256) (Nat.zero_div _))
    simp only [Nat.not_lt_zero, if_false]
    refine congrArg Except.ok ((Buffer.zeros_eq_generate _).trans
      (Buffer.generate_congr fun i _ => ?_))
    rw [hzero]
    rfl
  | succ m ih =>
    rw [List.range_succ, List.foldlM_append, ih (by omega), ok_bind, List.foldlM_cons,
      w.layEntry_eq (by omega), ok_bind]
    refine congrArg (fun entry => Except.ok (w.packed count entry)) (funext fun n => ?_)
    by_cases hn : n = m
    · rw [hn, Function.update_self, if_pos (Nat.lt_succ_self m)]
    · rw [Function.update_of_ne hn]
      by_cases hlt : n < m
      · rw [if_pos hlt, if_pos (by omega)]
      · rw [if_neg hlt, if_neg (by omega)]

/-- Entries that are laid one after the other make the packed table, and stay in its bytes. -/
theorem layAll_eq (t : Table) : t.layAll = .ok t.pack := by
  unfold layAll
  rw [layFirst_eq t.width (fun n => t.entries[n]?.getD 0) (Nat.le_refl t.entryCount)]
  refine congrArg (fun entry => Except.ok (t.width.packed t.entryCount entry))
    (funext fun n => ?_)
  split
  · rfl
  · rw [Array.getElem?_eq_none (Nat.not_lt.1 ‹_›), Option.getD_none]

/-- Entries that are taken one after the other from bytes that have room for them are those of the
table that is read, and lie in the bytes. -/
theorem fetchAll_eq {w : Width} {count : Nat} {buffer : ByteArray}
    (hsize : w.tableBytes count ≤ buffer.size) :
    fetchAll w count buffer =
      .ok ((List.range count).map (w.unpackedEntry (Buffer.byteAt buffer))) := by
  refine mapM_eq_ok_iff.2 (List.forall₂_map_right_iff.2 (List.forall₂_same.2 fun n hn => ?_))
  exact w.fetchEntry_eq (List.mem_range.1 hn) hsize

end Table

end FatVolume
