import FatVolume.Bytes

/-!
# Reading back records

A reader takes a field back from the front of a byte string and leaves the rest. With these laws as
simplification lemmas a reader of a whole record runs over the record's fields by itself.
-/

namespace FatVolume

namespace Reader

variable {α β : Type}

/-- A reader that is followed by another hands over its value and what it leaves. -/
@[simp] theorem bind_apply (x : Reader α) (f : α → Reader β) (bytes : List UInt8) :
    (x >>= f) bytes = (x bytes).bind fun r => f r.1 r.2 := rfl

/-- A reader that gives a value hands it over with what it leaves. Rewriting takes one field at a
time, so that no step has to run the readers that follow. -/
theorem bind_of_eq {x : Reader α} {bytes rest : List UInt8} {a : α}
    (h : x bytes = some (a, rest)) (f : α → Reader β) : (x >>= f) bytes = f a rest := by
  rw [bind_apply, h, Option.bind_some]

@[simp] theorem pure_apply (a : α) (bytes : List UInt8) :
    (pure a : Reader α) bytes = some (a, bytes) := rfl

@[simp] theorem map_apply (f : α → β) (x : Reader α) (bytes : List UInt8) :
    (f <$> x) bytes = (x bytes).map fun r => (f r.1, r.2) := by
  show (x bytes).bind (fun r => some (f r.1, r.2)) = _
  cases x bytes <;> rfl

@[simp] theorem failure_apply (bytes : List UInt8) : (failure : Reader α) bytes = none := rfl

/-- Bytes at the front are taken off. -/
theorem bytes_append {n : Nat} {front : List UInt8} (h : front.length = n) (rest : List UInt8) :
    bytes n (front ++ rest) = some (front, rest) := by
  subst h
  unfold bytes
  rw [if_pos (by rw [List.length_append]; omega), List.take_left, List.drop_left]

/-- A run of bytes at the front is taken off. -/
@[simp] theorem bytes_replicate_append (n : Nat) (b : UInt8) (rest : List UInt8) :
    bytes n (List.replicate n b ++ rest) = some (List.replicate n b, rest) :=
  bytes_append List.length_replicate rest

/-- A field at the front is taken off. -/
@[simp] theorem field_append {n : Nat} (v : Vector UInt8 n) (rest : List UInt8) :
    field n (v.toList ++ rest) = some (v, rest) := by
  have hlength : v.toList.length = n := Vector.length_toList
  have hle : n ≤ (v.toList ++ rest).length := by rw [List.length_append]; omega
  have htake : (v.toList ++ rest).take n = v.toList := List.take_left' hlength
  have hdrop : (v.toList ++ rest).drop n = rest := List.drop_left' hlength
  unfold field
  rw [dif_pos hle]
  simp only [htake, hdrop]
  rfl

/-- A number of one byte is read back. -/
@[simp] theorem word8_append (x : UInt8) (rest : List UInt8) :
    word8 (ofWord8 x ++ rest) = some (x, rest) := by
  have hlt := x.toNat_lt
  unfold word8 ofWord8
  rw [map_apply, bytes_append (length_leBytes _ _), Option.map_some, leValue_leBytes,
    Nat.mod_eq_of_lt (by omega)]
  simp

@[simp] theorem word16_append (x : UInt16) (rest : List UInt8) :
    word16 (ofWord16 x ++ rest) = some (x, rest) := by
  have hlt := x.toNat_lt
  unfold word16 ofWord16
  rw [map_apply, bytes_append (length_leBytes _ _), Option.map_some, leValue_leBytes,
    Nat.mod_eq_of_lt (by omega)]
  simp

@[simp] theorem word32_append (x : UInt32) (rest : List UInt8) :
    word32 (ofWord32 x ++ rest) = some (x, rest) := by
  have hlt := x.toNat_lt
  unfold word32 ofWord32
  rw [map_apply, bytes_append (length_leBytes _ _), Option.map_some, leValue_leBytes,
    Nat.mod_eq_of_lt (by omega)]
  simp

/-- A reader goes by the front of its string: it reads the same from every longer one, and leaves
what that one has more. -/
def IsLocal (x : Reader α) : Prop :=
  ∀ bytes a rest, x bytes = some (a, rest) → ∀ more, x (bytes ++ more) = some (a, rest ++ more)

namespace IsLocal

theorem pure (a : α) : IsLocal (Pure.pure a : Reader α) := by
  intro bytes b rest h more
  cases h
  rfl

theorem failure_bind (f : α → Reader β) : IsLocal ((failure : Reader α) >>= f) :=
  fun _ _ _ h => absurd h (Option.some_ne_none _).symm

/-- Local readers one after the other are local. -/
theorem bind {x : Reader α} {f : α → Reader β} (hx : IsLocal x) (hf : ∀ a, IsLocal (f a)) :
    IsLocal (x >>= f) := by
  intro bytes b rest h more
  rw [bind_apply] at h
  obtain ⟨⟨a, middle⟩, ha, hb⟩ := Option.bind_eq_some_iff.1 h
  rw [bind_of_eq (hx bytes a middle ha more), hf a middle b rest hb more]

theorem map {x : Reader α} (f : α → β) (hx : IsLocal x) : IsLocal (f <$> x) := by
  intro bytes b rest h more
  rw [map_apply] at h
  obtain ⟨⟨a, middle⟩, ha, hb⟩ := Option.map_eq_some_iff.1 h
  cases hb
  rw [map_apply, hx bytes a middle ha more, Option.map_some]

theorem ite {p : Prop} [Decidable p] {x y : Reader α} (hx : IsLocal x) (hy : IsLocal y) :
    IsLocal (if p then x else y) := by
  by_cases h : p
  · rwa [if_pos h]
  · rwa [if_neg h]

/-- Bytes are read locally. -/
theorem bytes (n : Nat) : IsLocal (Reader.bytes n) := by
  intro string a rest h more
  unfold Reader.bytes at h
  obtain ⟨hle, hread⟩ := Option.ite_none_right_eq_some.1 h
  cases hread
  have hread := bytes_append (List.length_take_of_le hle) (string.drop n ++ more)
  rwa [← List.append_assoc, List.take_append_drop] at hread

theorem field (n : Nat) : IsLocal (Reader.field n) := by
  intro string v rest h more
  unfold Reader.field at h
  split at h
  · rename_i hle
    cases h
    have hfront : (⟨(string.take n).toArray, by simp [hle]⟩ : Vector UInt8 n).toList =
        string.take n := rfl
    have hread := field_append (⟨(string.take n).toArray, by simp [hle]⟩ : Vector UInt8 n)
      (string.drop n ++ more)
    rwa [hfront, ← List.append_assoc, List.take_append_drop] at hread
  · cases h

theorem word8 : IsLocal Reader.word8 := map _ (bytes 1)

theorem word16 : IsLocal Reader.word16 := map _ (bytes 2)

theorem word32 : IsLocal Reader.word32 := map _ (bytes 4)

end IsLocal

end Reader

/-- A number of one byte is that byte. -/
theorem ofWord8_eq (x : UInt8) : ofWord8 x = [x] := by
  rw [ofWord8, leBytes, leBytes, UInt8.ofNat_toNat]

@[simp] theorem length_ofWord8 (x : UInt8) : (ofWord8 x).length = 1 := length_leBytes _ _

@[simp] theorem length_ofWord16 (x : UInt16) : (ofWord16 x).length = 2 := length_leBytes _ _

@[simp] theorem length_ofWord32 (x : UInt32) : (ofWord32 x).length = 4 := length_leBytes _ _

@[simp] theorem leValue_ofWord8 (x : UInt8) : leValue (ofWord8 x) = x.toNat := by
  rw [ofWord8, leValue_leBytes, Nat.mod_eq_of_lt x.toNat_lt]

@[simp] theorem leValue_ofWord16 (x : UInt16) : leValue (ofWord16 x) = x.toNat := by
  rw [ofWord16, leValue_leBytes, Nat.mod_eq_of_lt x.toNat_lt]

/-! ### Fields at the front of long strings

A string that is long enough starts with a field of any kind. Taking one field after the other shows
any long string as a record. -/

section Front

variable {bytes : List UInt8} {n : Nat}

/-- A string of `n` bytes and more starts with `n` bytes. -/
theorem exists_bytes {k : Nat} (h : n + k ≤ bytes.length) :
    ∃ front rest, bytes = front ++ rest ∧ front.length = k ∧ n ≤ rest.length :=
  ⟨bytes.take k, bytes.drop k, (List.take_append_drop k bytes).symm,
    by rw [List.length_take]; omega, by rw [List.length_drop]; omega⟩

/-- A string that is long enough starts with a field. -/
theorem exists_field {k : Nat} (h : n + k ≤ bytes.length) :
    ∃ (v : Vector UInt8 k) (rest : List UInt8), bytes = v.toList ++ rest ∧ n ≤ rest.length := by
  obtain ⟨front, rest, rfl, hfront, hrest⟩ := exists_bytes h
  exact ⟨⟨front.toArray, by rw [List.size_toArray, hfront]⟩, rest, rfl, hrest⟩

/-- A string that is not empty starts with a number of one byte. -/
theorem exists_word8 (h : n + 1 ≤ bytes.length) :
    ∃ (x : UInt8) (rest : List UInt8), bytes = ofWord8 x ++ rest ∧ n ≤ rest.length := by
  obtain ⟨front, rest, rfl, hfront, hrest⟩ := exists_bytes h
  have hlt := leValue_lt front
  refine ⟨UInt8.ofNat (leValue front), rest, ?_, hrest⟩
  rw [hfront] at hlt
  rw [ofWord8, UInt8.toNat_ofNat_of_lt' hlt, ← hfront, leBytes_leValue]

theorem exists_word16 (h : n + 2 ≤ bytes.length) :
    ∃ (x : UInt16) (rest : List UInt8), bytes = ofWord16 x ++ rest ∧ n ≤ rest.length := by
  obtain ⟨front, rest, rfl, hfront, hrest⟩ := exists_bytes h
  have hlt := leValue_lt front
  refine ⟨UInt16.ofNat (leValue front), rest, ?_, hrest⟩
  rw [hfront] at hlt
  rw [ofWord16, UInt16.toNat_ofNat_of_lt' hlt, ← hfront, leBytes_leValue]

theorem exists_word32 (h : n + 4 ≤ bytes.length) :
    ∃ (x : UInt32) (rest : List UInt8), bytes = ofWord32 x ++ rest ∧ n ≤ rest.length := by
  obtain ⟨front, rest, rfl, hfront, hrest⟩ := exists_bytes h
  have hlt := leValue_lt front
  refine ⟨UInt32.ofNat (leValue front), rest, ?_, hrest⟩
  rw [hfront] at hlt
  rw [ofWord32, UInt32.toNat_ofNat_of_lt' hlt, ← hfront, leBytes_leValue]

end Front

end FatVolume
