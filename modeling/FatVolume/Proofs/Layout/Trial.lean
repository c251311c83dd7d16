import FatVolume.Layout.Search
import FatVolume.Proofs.Guard

/-!
# The fit of one width for one cluster size

On every device that a layout is searched for, the numbers of a trial stay far inside their words.
`Candidate.WellFormed.fit_eq` says so: the guarded computation gives `Candidate.fit?`, which is the same
in natural numbers. For the numbers it does not matter whether the cluster size is a power of two, only
for alignment (`Candidate.Sized`, `Candidate.Alignable`). From the estimate follows how large a table can
become: hardly larger than the clusters that remain need (`Candidate.Sized.firstCount_le`).
-/

namespace FatVolume

namespace Width

theorem minClusters_pos (w : Width) : 0 < w.minClusters := by
  cases w <;> decide

/-- The clusters of every width are counted in 28 bits. -/
theorem maxClusters_lt (w : Width) : w.maxClusters < 2 ^ 28 := by
  cases w <;> decide

theorem tableBytes_pos (w : Width) {entries : Nat} (h : 0 < entries) :
    0 < w.tableBytes entries := by
  cases w <;> simp only [tableBytes] <;> omega

/-- A table takes at most four bytes for an entry. -/
theorem tableBytes_le (w : Width) (entries : Nat) : w.tableBytes entries ≤ entries * 4 := by
  cases w <;> simp only [tableBytes] <;> omega

/-- The bytes of a table are counted without a breakdown. -/
theorem wordTableBytes_eq (w : Width) {entries : Nat} (h : entries * 4 < 2 ^ 64) :
    w.wordTableBytes entries = .ok (w.tableBytes entries) := by
  cases w with
  | fat12 =>
    simp only [wordTableBytes, tableBytes]
    rw [within_of_lt (by omega)]
    rfl
  | fat16 =>
    simp only [wordTableBytes, tableBytes]
    rw [within_of_lt (by omega)]
  | fat32 =>
    simp only [wordTableBytes, tableBytes]
    rw [within_of_lt (by omega)]

/-- Twice the bytes that an entry takes. -/
def entryHalves : Width → Nat
  | fat12 => 3
  | fat16 => 4
  | fat32 => 8

/-- Twice the bytes of a table are those of its entries, rounded up to whole bytes. -/
theorem two_mul_tableBytes_le (w : Width) (entries : Nat) :
    2 * w.tableBytes entries ≤ entries * w.entryHalves + 1 := by
  cases w <;> simp only [tableBytes, entryHalves] <;> omega

/-- A table fits an area just if the bits of the area can hold the entries. -/
theorem tableBytes_le_iff (w : Width) {entries bytes : Nat} :
    w.tableBytes entries ≤ bytes ↔ entries ≤ bytes * 8 / w.bits := by
  cases w <;> simp only [tableBytes, bits] <;> omega

end Width

namespace Layout.Candidate

/-- Sizes that a trial can be carried through with: those of a volume, except that a cluster can have
any number of sectors up to the largest one. -/
structure Sized (c : Candidate) : Prop where
  /-- The sector size is one of a volume. -/
  sectorSize : IsSectorSize c.sectorSize
  /-- A cluster has a sector, and no more than the largest one. -/
  clusterSectors : 0 < c.clusterSectors ∧ c.clusterSectors ≤ maxClusterSectors
  /-- The number of table copies is one of a volume. -/
  tableCount : IsTableCount c.tableCount

/-- Areas that are to be aligned can be: clusters have a power of two of sectors. -/
def Alignable (c : Candidate) : Prop := c.align = true → IsPowerOfTwo c.clusterSectors

/-- What a cluster size on its trial comes from: checked options of a device with sectors of a
size that volumes can have. -/
structure WellFormed (c : Candidate) : Prop where
  /-- The sector size is one of a volume. -/
  sectorSize : IsSectorSize c.sectorSize
  /-- The cluster size is one of a volume. -/
  clusterSectors : IsClusterSize c.clusterSectors
  /-- The number of table copies is one of a volume. -/
  tableCount : IsTableCount c.tableCount

/-- The sectors of an area that needs so many. -/
def area (c : Candidate) (sectors : Nat) : Nat :=
  if c.align then ceilDiv sectors c.clusterSectors * c.clusterSectors else sectors

/-- The sectors of which areas are whole multiples. -/
def unit (c : Candidate) : Nat := if c.align then c.clusterSectors else 1

/-- The estimated number of clusters. -/
def firstCount (c : Candidate) (w : Width) (space : Nat) : Nat :=
  c.estimateNumerator w space / c.estimateDenominator w

/-- Sectors of one copy of the table, sized for the estimate. -/
def tableLength (c : Candidate) (w : Width) (space : Nat) : Nat :=
  c.area (ceilDiv (w.tableBytes (c.firstCount w space + reservedEntries)) c.sectorSize)

/-- The clusters in what the tables leave. -/
def count (c : Candidate) (w : Width) (space : Nat) : Nat :=
  (space - c.tableCount * c.tableLength w space) / c.clusterSectors

/-- The largest number of clusters that the table and the width allow. -/
def most (c : Candidate) (w : Width) (space : Nat) : Nat :=
  min (c.tableLength w space * c.sectorSize * 8 / w.bits - reservedEntries) w.maxClusters

/-- The tables leave a number of clusters that the width allows. -/
def Fits (c : Candidate) (w : Width) (space : Nat) : Prop :=
  c.tableCount * c.tableLength w space ≤ space ∧ w.minClusters ≤ c.count w space ∧
    c.count w space ≤ c.most w space

instance (c : Candidate) (w : Width) (space : Nat) : Decidable (c.Fits w space) :=
  inferInstanceAs (Decidable (_ ∧ _))

/-- The fit of a width in natural numbers. -/
def fit? (c : Candidate) (w : Width) (space : Nat) : Option Fit :=
  if c.Fits w space then some ⟨c.count w space, c.tableLength w space⟩ else none

variable {c : Candidate} {w : Width} {space : Nat}

/-- A width that does not fit has no fit. -/
theorem fit?_eq_none_iff : c.fit? w space = none ↔ ¬c.Fits w space := by
  unfold fit?
  split <;> simp_all

/-- A width that fits has the clusters that the tables leave, and its table. -/
theorem fit?_eq_some_iff {fit : Fit} : c.fit? w space = some fit ↔
    c.Fits w space ∧ fit = ⟨c.count w space, c.tableLength w space⟩ := by
  unfold fit?
  split <;> simp_all [eq_comm]

/-- Areas that are aligned are of whole clusters. -/
theorem unit_of_align (ha : c.align = true) : c.unit = c.clusterSectors := if_pos ha

/-- An area is of as many units as it takes for its sectors. -/
theorem area_eq (c : Candidate) (sectors : Nat) :
    c.area sectors = ceilDiv sectors c.unit * c.unit := by
  unfold area unit
  split
  · rfl
  · exact (ceilDiv_mul_of_dvd Nat.one_pos (Nat.one_dvd _)).symm

/-- An area that is aligned is of whole clusters. -/
theorem dvd_area (ha : c.align = true) (sectors : Nat) : c.clusterSectors ∣ c.area sectors := by
  rw [area_eq, unit_of_align ha]
  exact Nat.dvd_mul_left _ _

/-- The estimate of every width is one formula over the halves of bytes that its entries take. -/
theorem firstCount_eq (c : Candidate) (w : Width) (space : Nat) :
    c.firstCount w space = 2 * (space * c.sectorSize + c.tableCount * w.entryHalves) /
      (2 * (c.clusterSectors * c.sectorSize) + c.tableCount * w.entryHalves) := by
  unfold firstCount
  cases w with
  | fat12 => simp only [estimateNumerator, estimateDenominator, Width.entryHalves, Nat.mul_assoc]
  | fat16 =>
    simp only [estimateNumerator, estimateDenominator, Width.entryHalves]
    rw [show 2 * (c.clusterSectors * c.sectorSize) + c.tableCount * 4 =
      2 * (c.clusterSectors * c.sectorSize + c.tableCount * 2) by omega,
      Nat.mul_div_mul_left _ _ (by decide)]
  | fat32 =>
    simp only [estimateNumerator, estimateDenominator, Width.entryHalves]
    rw [show 2 * (c.clusterSectors * c.sectorSize) + c.tableCount * 8 =
      2 * (c.clusterSectors * c.sectorSize + c.tableCount * 4) by omega,
      Nat.mul_div_mul_left _ _ (by decide)]

/-- The estimated clusters, with their entries in all tables, take no more than the space with the
reserved entries added. -/
theorem firstCount_mul_le (w : Width) (space : Nat) :
    c.firstCount w space * (2 * (c.clusterSectors * c.sectorSize) + c.tableCount * w.entryHalves) ≤
      2 * (space * c.sectorSize + c.tableCount * w.entryHalves) := by
  rw [firstCount_eq]
  exact Nat.div_mul_le_self _ _

namespace Sized

/-- A cluster has at most 128 sectors. -/
theorem clusterSectors_le (h : c.Sized) : c.clusterSectors ≤ 128 := h.clusterSectors.2

theorem sectorSize_pos (h : c.Sized) : 0 < c.sectorSize := h.sectorSize.1.pos

/-- Areas are counted in a sector at least, and in a cluster at most. -/
theorem unit_bounds (h : c.Sized) : 0 < c.unit ∧ c.unit ≤ c.clusterSectors := by
  have hc := h.clusterSectors.1
  unfold unit
  split <;> omega

/-- More sectors need no smaller area. -/
theorem area_mono (h : c.Sized) {a b : Nat} (hab : a ≤ b) : c.area a ≤ c.area b := by
  rw [area_eq, area_eq]
  exact Nat.mul_le_mul_right _ ((gc_mul_ceilDiv h.unit_bounds.1).monotone_l hab)

/-- An area is the least number of whole units for its sectors. -/
theorem isLeast_area (h : c.Sized) {P : Nat → Prop} {sectors : Nat} (hP : ∀ n, P n ↔ sectors ≤ n) :
    IsLeast {n | c.unit ∣ n ∧ P n} (c.area sectors) := by
  rw [area_eq]
  exact isLeast_ceilDiv_mul h.unit_bounds.1 hP

/-- An area has the sectors that it needs. -/
theorem le_area (h : c.Sized) (sectors : Nat) : sectors ≤ c.area sectors := by
  rw [area_eq, Nat.mul_comm]
  exact (gc_mul_ceilDiv h.unit_bounds.1).le_u_l sectors

/-- An area has less than a cluster more than it needs. -/
theorem area_lt (h : c.Sized) (sectors : Nat) : c.area sectors < sectors + c.clusterSectors := by
  obtain ⟨hpos, hle⟩ := h.unit_bounds
  have hlt := ceilDiv_mul_lt sectors hpos
  rw [area_eq]
  omega

/-- An area is found without a breakdown. -/
theorem alignSectors_eq (h : c.Sized) (ha : c.Alignable) {sectors : Nat} (hs : sectors < 2 ^ 63) :
    c.alignSectors sectors = .ok (c.area sectors) := by
  have hc := h.clusterSectors_le
  unfold alignSectors area
  split
  · exact alignUp_of_isPowerOfTwo (ha ‹_›) (by omega)
  · rfl

/-- The bytes of all sectors of a device fit a word, with much to spare. -/
theorem space_mul_lt (h : c.Sized) (hs : space < 2 ^ 32) : space * c.sectorSize < 2 ^ 47 := by
  have hss := h.sectorSize.2.2
  calc space * c.sectorSize ≤ space * 32768 := Nat.mul_le_mul_left space hss
    _ < 2 ^ 47 := by omega

/-- A cluster has at most 4 MiB. -/
theorem clusterBytes_le (h : c.Sized) : c.clusterSectors * c.sectorSize ≤ 2 ^ 22 := by
  have hm := Nat.mul_le_mul h.clusterSectors_le h.sectorSize.2.2
  omega

/-- A cluster has the bytes of a sector. -/
theorem sectorSize_le_clusterBytes (h : c.Sized) :
    c.sectorSize ≤ c.clusterSectors * c.sectorSize :=
  Nat.le_mul_of_pos_left c.sectorSize h.clusterSectors.1

/-- The numerator of the estimate fits a word. -/
theorem estimateNumerator_lt (h : c.Sized) (w : Width) (hs : space < 2 ^ 32) :
    c.estimateNumerator w space < 2 ^ 49 := by
  have hp := h.space_mul_lt hs
  have hf := h.tableCount.2
  cases w <;> simp only [estimateNumerator] <;> omega

/-- The denominator of the estimate fits a word. -/
theorem estimateDenominator_lt (h : c.Sized) (w : Width) :
    c.estimateDenominator w < 2 ^ 24 := by
  have hp := h.clusterBytes_le
  have hf := h.tableCount.2
  cases w <;> simp only [estimateDenominator, Nat.mul_assoc] <;> omega

/-- The denominator of the estimate is positive. -/
theorem estimateDenominator_pos (h : c.Sized) (w : Width) : 0 < c.estimateDenominator w := by
  have hf := h.tableCount.1
  cases w <;> simp only [estimateDenominator] <;> omega

/-- The estimate is found without a breakdown. -/
theorem estimate_eq (h : c.Sized) (w : Width) (hs : space < 2 ^ 32) :
    c.estimate w space = .ok (c.firstCount w space) := by
  have hn := h.estimateNumerator_lt w hs
  have hd := h.estimateDenominator_lt w
  unfold estimate firstCount
  rw [within_of_lt (by omega), ok_bind, within_of_lt (by omega), ok_bind,
    quotient_of_pos (h.estimateDenominator_pos w)]

/-- The estimate fits a word. -/
theorem firstCount_lt (h : c.Sized) (w : Width) (hs : space < 2 ^ 32) :
    c.firstCount w space < 2 ^ 49 :=
  (Nat.div_le_self _ _).trans_lt (h.estimateNumerator_lt w hs)

/-- One cluster more than estimated, with its entries in all tables, does not fit the space with the
reserved entries added. -/
theorem lt_firstCount_mul (h : c.Sized) (w : Width) (space : Nat) :
    2 * (space * c.sectorSize + c.tableCount * w.entryHalves) <
      (c.firstCount w space + 1) *
        (2 * (c.clusterSectors * c.sectorSize) + c.tableCount * w.entryHalves) := by
  have hcluster := Nat.mul_pos h.clusterSectors.1 h.sectorSize_pos
  have hpos : 0 < 2 * (c.clusterSectors * c.sectorSize) + c.tableCount * w.entryHalves := by omega
  rw [firstCount_eq]
  exact (Nat.lt_mul_div_succ _ hpos).trans_eq (Nat.mul_comm _ _)

/-- A copy of the table is at most a sector and a cluster longer than its bytes. -/
theorem tableLength_mul_lt (h : c.Sized) (w : Width) (space : Nat) :
    c.tableLength w space * c.sectorSize <
      w.tableBytes (c.firstCount w space + reservedEntries) + c.sectorSize +
        c.clusterSectors * c.sectorSize := by
  have ha := h.area_lt (ceilDiv (w.tableBytes (c.firstCount w space + reservedEntries)) c.sectorSize)
  have hb := ceilDiv_mul_lt (w.tableBytes (c.firstCount w space + reservedEntries)) h.sectorSize_pos
  have hm := Nat.mul_le_mul_right c.sectorSize (Nat.le_of_lt ha)
  rw [Nat.add_mul] at hm
  unfold tableLength
  omega

theorem tableLength_pos (h : c.Sized) (w : Width) (space : Nat) :
    0 < c.tableLength w space := by
  have hbytes := w.tableBytes_pos (Nat.add_pos_right (c.firstCount w space)
    (show 0 < reservedEntries by decide))
  exact ((gc_mul_ceilDiv h.sectorSize_pos).lt_iff_lt.2 hbytes).trans_le (h.le_area _)

/-- The space is filled by tables and clusters up to less than a cluster. -/
theorem space_lt (h : c.Sized) (ht : c.tableCount * c.tableLength w space ≤ space) :
    space < c.clusterSectors * (c.count w space + 1) + c.tableCount * c.tableLength w space := by
  have hd := Nat.lt_mul_div_succ (space - c.tableCount * c.tableLength w space)
    h.clusterSectors.1
  unfold count
  omega

/-- The clusters that remain are hardly fewer than the estimate. -/
theorem firstCount_le (h : c.Sized) (ht : c.tableCount * c.tableLength w space ≤ space) :
    c.firstCount w space ≤ c.count w space + 2 * c.tableCount + 1 := by
  have hestimate := c.firstCount_mul_le w space
  have hspace := Nat.mul_lt_mul_of_pos_right (h.space_lt ht) h.sectorSize_pos
  have hlength := Nat.mul_le_mul_left c.tableCount (Nat.le_of_lt (h.tableLength_mul_lt w space))
  have hbytes := Nat.mul_le_mul_left c.tableCount
    (w.two_mul_tableBytes_le (c.firstCount w space + reservedEntries))
  have hsector := Nat.mul_le_mul_left c.tableCount h.sectorSize_le_clusterBytes
  have hcost : c.tableCount * (4 * w.entryHalves + 1) ≤ 2 * (c.clusterSectors * c.sectorSize) := by
    have hw : w.entryHalves ≤ 8 := by cases w <;> decide
    have hf := Nat.mul_le_mul h.tableCount.2 (show 4 * w.entryHalves + 1 ≤ 33 by omega)
    have := h.sectorSize.2.1
    have := h.sectorSize_le_clusterBytes
    omega
  have hlt : c.firstCount w space * (2 * (c.clusterSectors * c.sectorSize)) <
      (c.count w space + 2 * c.tableCount + 2) * (2 * (c.clusterSectors * c.sectorSize)) := by
    simp only [reservedEntries] at hbytes hlength
    linarith
  have := Nat.lt_of_mul_lt_mul_right hlt
  omega

/-- On a width of at most 16 bits a table for few clusters has a length of 16 bits. -/
theorem tableLength_le (h : c.Sized) (ht : c.tableCount * c.tableLength w space ≤ space)
    (hw : w ≠ .fat32) (hmax : c.count w space ≤ w.maxClusters) :
    c.tableLength w space ≤ maxField16 := by
  have hfirst := h.firstCount_le ht
  have hlength := h.tableLength_mul_lt w space
  have hbytes := w.two_mul_tableBytes_le (c.firstCount w space + reservedEntries)
  have hf := h.tableCount.2
  have hcost : w.maxClusters ≤ 65524 ∧ w.entryHalves ≤ 4 := by
    cases w with
    | fat12 => decide
    | fat16 => decide
    | fat32 => exact absurd rfl hw
  have hentries := Nat.mul_le_mul
    (show c.firstCount w space + reservedEntries ≤ 65535 by simp only [reservedEntries]; omega) hcost.2
  have hcluster := Nat.mul_le_mul_right c.sectorSize h.clusterSectors_le
  have hsector := h.sectorSize.2.1
  have hlt : c.tableLength w space * c.sectorSize < 386 * c.sectorSize := by omega
  have := Nat.lt_of_mul_lt_mul_right hlt
  simp only [maxField16]
  omega

/-- The number of clusters that the table and the width allow is found without a breakdown. -/
theorem capacity_eq (h : c.Sized) (w : Width) (hs : space < 2 ^ 32) :
    c.capacity w (c.tableLength w space) = .ok (c.most w space) := by
  have hfirst := h.firstCount_lt w hs
  have hlength := h.tableLength_mul_lt w space
  have hbytes := w.tableBytes_le (c.firstCount w space + reservedEntries)
  have hsector := h.sectorSize.2
  have hcluster := h.clusterBytes_le
  have hbits : reservedEntries ≤ c.tableLength w space * c.sectorSize * 8 / w.bits := by
    have hm := Nat.mul_le_mul (h.tableLength_pos w space) hsector.1
    cases w <;> simp only [Width.bits, reservedEntries] <;> omega
  unfold capacity most
  simp only [reservedEntries] at hbytes hlength
  rw [within_of_lt (by omega), ok_bind, minus_of_le hbits]
  rfl

/-- The bytes of a table for the estimate are counted without a breakdown, and their sectors make an
area. -/
theorem tableSectors_eq (h : c.Sized) (w : Width) (hs : space < 2 ^ 32) :
    c.tableSectors w (c.firstCount w space) = c.alignSectors
      (ceilDiv (w.tableBytes (c.firstCount w space + reservedEntries)) c.sectorSize) := by
  have hfirst := h.firstCount_lt w hs
  have hbytes := w.tableBytes_le (c.firstCount w space + reservedEntries)
  have hsector := h.sectorSize.2
  simp only [reservedEntries] at hbytes
  unfold Candidate.tableSectors
  simp only [reservedEntries]
  rw [w.wordTableBytes_eq (by omega), ok_bind,
    roundedQuotient_of_pos h.sectorSize_pos (by omega), ok_bind]

/-- A table for the estimate is sized without a breakdown. -/
theorem tableSectors_eq_ok (h : c.Sized) (ha : c.Alignable) (w : Width) (hs : space < 2 ^ 32) :
    c.tableSectors w (c.firstCount w space) = .ok (c.tableLength w space) := by
  have hfirst := h.firstCount_lt w hs
  have hbytes := w.tableBytes_le (c.firstCount w space + reservedEntries)
  have hquotient := ceilDiv_le_self (w.tableBytes (c.firstCount w space + reservedEntries))
    h.sectorSize_pos
  simp only [reservedEntries] at hbytes hquotient
  rw [h.tableSectors_eq w hs, h.alignSectors_eq ha (by simp only [reservedEntries]; omega)]
  rfl

/-- What all copies of the table take fits a word. -/
theorem allTables_lt (h : c.Sized) (w : Width) (hs : space < 2 ^ 32) :
    c.tableCount * c.tableLength w space < 2 ^ 64 := by
  have hfirst := h.firstCount_lt w hs
  have hlength := h.tableLength_mul_lt w space
  have hbytes := w.tableBytes_le (c.firstCount w space + reservedEntries)
  have hcluster := h.clusterBytes_le
  have hsector := h.sectorSize.2
  have hpos := Nat.le_mul_of_pos_right (c.tableLength w space) h.sectorSize_pos
  have hm := Nat.mul_le_mul_right (c.tableLength w space) h.tableCount.2
  simp only [reservedEntries] at hbytes hlength
  omega

/-- On the space of a device the fit is found without a breakdown, and nothing of it is lost in
32-bit fields. -/
theorem fit_eq (h : c.Sized) (ha : c.Alignable) (w : Width) (hs : space < 2 ^ 32) :
    c.fit w space = .ok (c.fit? w space) := by
  have hpos := Nat.le_mul_of_pos_left (c.tableLength w space) h.tableCount.1
  have hwidth := w.maxClusters_lt
  unfold fit fit?
  rw [h.estimate_eq w hs, ok_bind, h.tableSectors_eq_ok ha w hs, ok_bind,
    within_of_lt (h.allTables_lt w hs), ok_bind]
  by_cases ht : c.tableCount * c.tableLength w space ≤ space
  · have hcount : (space - c.tableCount * c.tableLength w space) / c.clusterSectors =
        c.count w space := rfl
    rw [if_neg (by omega), quotient_of_pos h.clusterSectors.1, ok_bind, h.capacity_eq w hs,
      ok_bind, hcount]
    by_cases hf : c.Fits w space
    · have hle : c.count w space ≤ w.maxClusters := hf.2.2.trans (Nat.min_le_right _ _)
      rw [if_neg (by have := hf.2; omega), if_pos hf, low32_of_lt (by omega),
        low32_of_lt (by omega)]
      rfl
    · have hor : c.count w space < w.minClusters ∨ c.most w space < c.count w space := by
        by_contra hn
        exact hf ⟨ht, by omega, by omega⟩
      rw [if_pos hor, if_neg hf]
      rfl
  · rw [if_pos (by omega), if_neg fun hf => ht hf.1]
    rfl

end Sized

namespace WellFormed

/-- The sizes of a volume are those of a trial. -/
theorem sized (h : c.WellFormed) : c.Sized :=
  ⟨h.sectorSize, ⟨h.clusterSectors.1.pos, h.clusterSectors.2⟩, h.tableCount⟩

/-- The clusters of a volume have a power of two of sectors. -/
theorem alignable (h : c.WellFormed) : c.Alignable := fun _ => h.clusterSectors.1

/-- An area of a volume is found without a breakdown. -/
theorem alignSectors_eq (h : c.WellFormed) {sectors : Nat} (hs : sectors < 2 ^ 63) :
    c.alignSectors sectors = .ok (c.area sectors) := h.sized.alignSectors_eq h.alignable hs

/-- The fit of a volume is found without a breakdown. -/
theorem fit_eq (h : c.WellFormed) (w : Width) (hs : space < 2 ^ 32) :
    c.fit w space = .ok (c.fit? w space) := h.sized.fit_eq h.alignable w hs

end WellFormed

end Layout.Candidate

end FatVolume
