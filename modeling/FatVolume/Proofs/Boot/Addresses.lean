import Mathlib.Data.Prod.Lex
import FatVolume.Proofs.Boot.Foreign

/-!
# Addresses of partitions

A sector of a disk has a number and an address of cylinder, head and sector. The address is the number
in a mixed radix (`Chs.IsAddressOf`), as long as the form can express it; greater numbers share the
largest address. Addresses are in the order of their numbers, and an entry of a partition table holds
nothing but its partition (`translation_exact`).
-/

namespace FatVolume

namespace Chs

/-- The number of the track that an address is on. -/
def track (a : Chs) (t : Tracks) : Nat := a.cylinder.toNat * t.heads.toNat + a.head.toNat

/-- The address of a sector: each part lies in its range, and together they count the sectors before
it. -/
structure IsAddressOf (a : Chs) (t : Tracks) (sector : Nat) : Prop where
  /-- A cylinder has ten bits. -/
  cylinder_le : a.cylinder.toNat ≤ 1023
  /-- The head is one of the disk. -/
  head_lt : a.head.toNat < t.heads.toNat
  /-- Sectors of a track are counted from 1. -/
  sector_pos : 1 ≤ a.sector.toNat
  /-- The sector is one of the track. -/
  sector_le : a.sector.toNat ≤ t.sectors.toNat
  /-- The sectors of the tracks before it and those before it on its track precede the sector. -/
  linear : a.track t * t.sectors.toNat + a.sector.toNat - 1 = sector

/-- The place of an address in the lexicographic order of cylinder, head and sector. -/
def rank (a : Chs) : ℕ ×ₗ ℕ ×ₗ ℕ := toLex (a.cylinder.toNat, toLex (a.head.toNat, a.sector.toNat))

variable {a b : Chs} {t : Tracks} {m n sector : Nat}

/-- Numbers below a product are in the first cylinders of so many sectors. -/
theorem cylinder_lt_iff (h : IsExpressible t) :
    sector / (t.sectors.toNat * t.heads.toNat) < 1024 ↔
      sector < 1024 * t.heads.toNat * t.sectors.toNat := by
  obtain ⟨hheads, -, hsectors, -⟩ := h
  rw [Nat.div_lt_iff_lt_mul (Nat.mul_pos hsectors hheads), Nat.mul_comm t.sectors.toNat,
    Nat.mul_assoc]

/-- A sector that the form can express has the address that counts the sectors before it. Nothing is
lost in its fields, as the cylinder is below 1024 and the head and the sector are within a track. -/
theorem isAddressOf_ofSector (h : IsExpressible t)
    (hsector : sector < 1024 * t.heads.toNat * t.sectors.toNat) :
    (ofSector sector t).IsAddressOf t sector := by
  have hcylinder := (cylinder_lt_iff h).2 hsector
  have haddress : ofSector sector t =
      ⟨UInt16.ofNat (sector / (t.sectors.toNat * t.heads.toNat)),
        UInt8.ofNat (sector / t.sectors.toNat % t.heads.toNat),
        UInt8.ofNat (sector % t.sectors.toNat + 1)⟩ :=
    if_neg (not_or.2 ⟨not_not.2 h, Nat.not_lt.2 (Nat.le_of_lt_succ hcylinder)⟩)
  obtain ⟨hheads, hheads255, hsectors, hsectors63⟩ := h
  have hhead := Nat.mod_lt (sector / t.sectors.toNat) hheads
  have hplace := Nat.mod_lt sector hsectors
  have hc : (UInt16.ofNat (sector / (t.sectors.toNat * t.heads.toNat))).toNat =
      sector / t.sectors.toNat / t.heads.toNat := by
    rw [UInt16.toNat_ofNat_of_lt' (by simp only [UInt16.size]; omega), Nat.div_div_eq_div_mul]
  have hh : (UInt8.ofNat (sector / t.sectors.toNat % t.heads.toNat)).toNat =
      sector / t.sectors.toNat % t.heads.toNat :=
    UInt8.toNat_ofNat_of_lt' (by simp only [UInt8.size]; omega)
  have hs : (UInt8.ofNat (sector % t.sectors.toNat + 1)).toNat = sector % t.sectors.toNat + 1 :=
    UInt8.toNat_ofNat_of_lt' (by simp only [UInt8.size]; omega)
  rw [haddress]
  refine ⟨?_, ?_, ?_, ?_, ?_⟩
  · rw [hc, Nat.div_div_eq_div_mul]
    omega
  · rw [hh]
    exact hhead
  · rw [hs]
    omega
  · rw [hs]
    omega
  · unfold track
    dsimp only
    rw [hc, hh, hs, Nat.div_add_mod', ← Nat.add_assoc, Nat.add_sub_cancel, Nat.div_add_mod']

/-- A sector that the form cannot express has the largest address. -/
theorem ofSector_of_le (h : IsExpressible t)
    (hsector : 1024 * t.heads.toNat * t.sectors.toNat ≤ sector) : ofSector sector t = largest :=
  if_pos (Or.inr (Nat.lt_of_succ_le (Nat.not_lt.1 fun hlt =>
    Nat.not_lt.2 hsector ((cylinder_lt_iff h).1 hlt))))

/-- A sector on an earlier track has a smaller number. -/
theorem IsAddressOf.lt_of_track_lt (ha : a.IsAddressOf t m) (hb : b.IsAddressOf t n)
    (h : a.track t < b.track t) : m < n := by
  have hmul := Nat.mul_le_mul_right t.sectors.toNat (Nat.succ_le_of_lt h)
  rw [Nat.succ_mul] at hmul
  have hm := ha.linear
  have hn := hb.linear
  have hle := ha.sector_le
  have ha_pos := ha.sector_pos
  have hb_pos := hb.sector_pos
  omega

/-- A track of an earlier cylinder has a smaller number. -/
theorem IsAddressOf.track_lt_of_cylinder_lt (ha : a.IsAddressOf t m)
    (h : a.cylinder.toNat < b.cylinder.toNat) : a.track t < b.track t := by
  have hmul := Nat.mul_le_mul_right t.heads.toNat (Nat.succ_le_of_lt h)
  rw [Nat.succ_mul] at hmul
  have hlt := ha.head_lt
  unfold track
  omega

/-- The order of addresses is that of the numbers of their sectors. -/
theorem IsAddressOf.rank_le (ha : a.IsAddressOf t m) (hb : b.IsAddressOf t n) (h : m ≤ n) :
    a.rank ≤ b.rank := by
  refine not_lt.1 fun hlt => Nat.not_lt.2 h ?_
  unfold rank at hlt
  obtain hcylinder | ⟨hcylinder, hlt⟩ := Prod.Lex.toLex_lt_toLex.1 hlt
  · exact hb.lt_of_track_lt ha (hb.track_lt_of_cylinder_lt hcylinder)
  · dsimp only at hcylinder hlt
    obtain hhead | ⟨hhead, hsector⟩ := Prod.Lex.toLex_lt_toLex.1 hlt
    · refine hb.lt_of_track_lt ha ?_
      unfold track
      rw [hcylinder]
      exact Nat.add_lt_add_left hhead _
    · dsimp only at hhead hsector
      have htrack : b.track t = a.track t := by
        unfold track
        rw [hcylinder, hhead]
      have hm := ha.linear
      have hn := hb.linear
      have hpos := hb.sector_pos
      rw [htrack] at hn
      omega

/-- No address that the form can express comes after the largest one. -/
theorem IsAddressOf.rank_le_largest (ha : a.IsAddressOf t m) (h : IsExpressible t) :
    a.rank ≤ largest.rank := by
  obtain ⟨-, hheads, -, hsectors⟩ := h
  have hcylinder := ha.cylinder_le
  have hhead := ha.head_lt
  have hsector := ha.sector_le
  refine Prod.Lex.toLex_le_toLex'.2 ⟨hcylinder, fun _ => ?_⟩
  refine Prod.Lex.toLex_le_toLex'.2 ⟨?_, fun _ => ?_⟩
  · show a.head.toNat ≤ 254
    omega
  · show a.sector.toNat ≤ 63
    omega

/-- Later sectors do not have earlier addresses. -/
theorem monotone_rank_ofSector (h : IsExpressible t) :
    Monotone fun sector => (ofSector sector t).rank := by
  intro m n hmn
  dsimp only
  by_cases hn : n < 1024 * t.heads.toNat * t.sectors.toNat
  · exact (isAddressOf_ofSector h (hmn.trans_lt hn)).rank_le (isAddressOf_ofSector h hn) hmn
  · rw [ofSector_of_le h (Nat.not_lt.1 hn)]
    by_cases hm : m < 1024 * t.heads.toNat * t.sectors.toNat
    · exact (isAddressOf_ofSector h hm).rank_le_largest h
    · rw [ofSector_of_le h (Nat.not_lt.1 hm)]

end Chs

namespace Partition

/-- A partition of some kind is read back from its entry. -/
theorem decode_encode {p : Partition} (hkind : p.kind ≠ 0) (hstart : p.startChs.IsEncodable)
    (hend : p.endChs.IsEncodable) : decode p.encode = some p := by
  have hread := reader_append hkind hstart hend []
  rw [List.append_nil] at hread
  unfold decode
  rw [hread]
  rfl

/-- What is read from an entry is written as that entry. -/
theorem encode_of_decode {entry : List UInt8} (hlength : entry.length = byteCount) {p : Partition}
    (h : decode entry = some p) : p.encode = entry := by
  obtain ⟨q, rest, rfl, hstart, hend, -⟩ := exists_encode (n := 0) hlength.ge
  have hrest : rest = [] := by
    rw [List.length_append, q.length_encode] at hlength
    exact List.eq_nil_of_length_eq_zero (by omega)
  rw [hrest, List.append_nil] at h ⊢
  by_cases hkind : q.kind = 0
  · have hnone := reader_of_kind hkind hstart []
    rw [List.append_nil] at hnone
    unfold decode at h
    rw [hnone] at h
    cases h
  · rw [decode_encode hkind hstart hend] at h
    rw [Option.some.inj h]

/-- **Addresses and entries are exact.** On tracks that the form can express, a sector has the address
that counts the sectors before it if there are fewer than 1024 cylinders of them, and the largest
address otherwise; later sectors do not have earlier addresses. On any tracks a partition of some kind
is read back from its entry, and any entry that is read is written as it was. -/
theorem translation_exact :
    (∀ t, Chs.IsExpressible t →
      (∀ sector, if sector < 1024 * t.heads.toNat * t.sectors.toNat then
          (Chs.ofSector sector t).IsAddressOf t sector
        else Chs.ofSector sector t = ⟨1023, 254, 63⟩) ∧
      Monotone fun sector => (Chs.ofSector sector t).rank) ∧
    (∀ kind start sectors t, kind ≠ 0 →
      decode (spanning kind start sectors t).encode = some (spanning kind start sectors t)) ∧
    ∀ entry p, entry.length = byteCount → decode entry = some p → p.encode = entry := by
  refine ⟨fun t ht => ⟨fun sector => ?_, Chs.monotone_rank_ofSector ht⟩, ?_, ?_⟩
  · split
    · exact Chs.isAddressOf_ofSector ht ‹_›
    · exact Chs.ofSector_of_le ht (Nat.not_lt.1 ‹_›)
  · intro kind start sectors t hkind
    exact decode_encode hkind (Chs.isEncodable_ofSector _ _) (Chs.isEncodable_ofSector _ _)
  · intro entry p hlength h
    exact encode_of_decode hlength h

/-- On 255 heads and 63 sectors the last address is that of sector 16450559, and later sectors share it.
A partition on a disk without heads is read back, and so is the entry of a partition that another
system made. -/
theorem translation_exact_largeDisk :
    (Chs.ofSector 16450559 ⟨255, 63⟩).IsAddressOf ⟨255, 63⟩ 16450559 ∧
    Chs.ofSector 16450560 ⟨255, 63⟩ = ⟨1023, 254, 63⟩ ∧
    (Chs.ofSector 16065 ⟨255, 63⟩).rank ≤ (Chs.ofSector 16450560 ⟨255, 63⟩).rank ∧
    decode (spanning 0x0C 4294967295 4294967295 ⟨0, 63⟩).encode =
      some (spanning 0x0C 4294967295 4294967295 ⟨0, 63⟩) ∧
    ∃ p, decode [0, 0xFF, 0xC0, 0x80, 7, 3, 0xBF, 0, 0x3F, 0, 0, 0, 1, 2, 3, 4] = some p ∧
      p.encode = [0, 0xFF, 0xC0, 0x80, 7, 3, 0xBF, 0, 0x3F, 0, 0, 0, 1, 2, 3, 4] := by
  obtain ⟨haddresses, hread, hwrite⟩ := translation_exact
  obtain ⟨hexact, hmonotone⟩ := haddresses ⟨255, 63⟩ (by decide)
  have hlast := hexact 16450559
  have hnext := hexact 16450560
  rw [if_pos (by decide)] at hlast
  rw [if_neg (by decide)] at hnext
  have hentry : decode [0, 0xFF, 0xC0, 0x80, 7, 3, 0xBF, 0, 0x3F, 0, 0, 0, 1, 2, 3, 4] =
      some ⟨0, ⟨896, 0xFF, 0⟩, 7, ⟨512, 3, 0x3F⟩, 0x3F, 0x04030201⟩ := by decide
  exact ⟨hlast, hnext, hmonotone (by decide), hread _ _ _ _ (by decide), _, hentry,
    hwrite _ _ rfl hentry⟩

end Partition

end FatVolume
