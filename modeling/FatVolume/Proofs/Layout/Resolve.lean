import FatVolume.Layout.Basic
import FatVolume.Layout.Search
import FatVolume.Proofs.Guard

/-!
# Parameters of the search

`Parameters.resolve` is refused for a reason of its own or gives `Parameters.settled`, the same in
natural numbers (`Parameters.resolve_eq`). What it gives is well formed: every later step relies on
the bounds of `Parameters.WellFormed` and on nothing else.
-/

namespace FatVolume.Layout

/-- The units of a FAT32 cluster are a power of two of units, 64 at most. -/
theorem fat32ClusterUnits_eq (mebibytes : Nat) :
    ∃ k, k ≤ 6 ∧ fat32ClusterUnits mebibytes = 2 ^ k := by
  unfold fat32ClusterUnits
  split
  · exact ⟨6, by decide, rfl⟩
  · split
    · exact ⟨5, by decide, rfl⟩
    · split
      · exact ⟨4, by decide, rfl⟩
      · split
        · exact ⟨3, by decide, rfl⟩
        · exact ⟨0, by decide, rfl⟩

/-- The cluster size at which the search for a FAT32 layout starts, in natural numbers. -/
def startHint (size sectorSize : Nat) : Nat :=
  max 1 (fat32ClusterUnits (size / (1024 * 1024)) * 512 / sectorSize)

/-- On sectors of any size the cluster size at which the search for a FAT32 layout starts is found
without a breakdown. -/
theorem fat32ClusterHint_eq (size : Nat) {sectorSize : Nat} (h : 0 < sectorSize) :
    fat32ClusterHint size sectorSize = .ok (startHint size sectorSize) := by
  unfold fat32ClusterHint
  rw [quotient_of_pos h]
  rfl

/-- The search for a FAT32 layout starts at a cluster size that volumes can have. -/
theorem isClusterSize_startHint (size : Nat) {sectorSize : Nat} (h : IsSectorSize sectorSize) :
    IsClusterSize (startHint size sectorSize) := by
  obtain ⟨j, hj, hunits⟩ := fat32ClusterUnits_eq (size / (1024 * 1024))
  obtain ⟨k, rfl⟩ := isPowerOfTwo_iff.1 h.1
  have hproduct : 2 ^ j * 512 = 2 ^ (j + 9) := by rw [Nat.pow_add]
  have hone : IsClusterSize 1 := by decide
  unfold startHint
  rw [hunits, hproduct]
  by_cases hk : k ≤ j + 9
  · have hk9 : 9 ≤ k := by
      have := h.2.1
      exact (Nat.pow_le_pow_iff_right (by decide : 1 < 2)).1 (by omega : 2 ^ 9 ≤ 2 ^ k)
    have hle : 2 ^ (j + 9 - k) ≤ 2 ^ 7 := Nat.pow_le_pow_right (by decide) (by omega)
    have hpos := Nat.two_pow_pos (j + 9 - k)
    rw [Nat.pow_div hk (by decide), max_eq_right hpos]
    exact ⟨isPowerOfTwo_iff.2 ⟨_, rfl⟩, by simp only [maxClusterSectors]; omega⟩
  · have hlt : 2 ^ (j + 9) < 2 ^ k := Nat.pow_lt_pow_right (by decide) (by omega)
    rw [Nat.div_eq_of_lt hlt]
    exact hone

/-- The cluster size at which the search starts, in natural numbers. -/
def startSize (size : Nat) (g : Geometry) (o : Options) (fat32 : Bool) : Nat :=
  match o.clusterSectors <|> o.clusterHint with
  | some n => n.toNat
  | none => if fat32 then startHint size g.sectorSize.toNat else 1

/-- A cluster size that passes its check is one of a volume. -/
theorem checkClusterSize_eq_ok_iff {n : UInt32} :
    checkClusterSize (some n) = .ok () ↔ IsClusterSize n.toNat := by
  unfold checkClusterSize
  dsimp only
  split <;> simp_all

/-- The checks pass when sector size, table count, cluster sizes and sectors all do. -/
theorem checkOptions_eq_ok_iff {g : Geometry} {o : Options} :
    checkOptions g o = .ok () ↔
      IsSectorSize g.sectorSize.toNat ∧ IsTableCount o.tableCount.toNat ∧
      checkClusterSize o.clusterSectors = .ok () ∧ checkClusterSize o.clusterHint = .ok () ∧
      g.totalSectors.toNat ≤ maxField32 := by
  unfold checkOptions
  by_cases hs : IsSectorSize g.sectorSize.toNat
  · by_cases ht : IsTableCount o.tableCount.toNat
    · cases hc : checkClusterSize o.clusterSectors with
      | error e => simp [hs, ht]
      | ok _ =>
        cases hh : checkClusterSize o.clusterHint with
        | error e => simp [hs, ht]
        | ok _ =>
          by_cases hm : maxField32 < g.totalSectors.toNat
          · simp [hs, ht, hm]
          · simp [hs, ht, hm, Nat.not_lt.1 hm]
    · simp [hs, ht]
  · simp [hs]

/-- After the checks the first cluster size is found without a breakdown. -/
theorem startCluster_eq {g : Geometry} {o : Options} (h : checkOptions g o = .ok ()) (size : Nat)
    (fat32 : Bool) : startCluster size g o fat32 = .ok (startSize size g o fat32) := by
  have hs := (checkOptions_eq_ok_iff.1 h).1
  unfold startCluster startSize
  cases o.clusterSectors <|> o.clusterHint with
  | some n => rfl
  | none =>
    cases fat32 with
    | false => rfl
    | true => exact fat32ClusterHint_eq size hs.1.pos

/-- After the checks the first cluster size is one of a volume. -/
theorem isClusterSize_startSize {g : Geometry} {o : Options} (h : checkOptions g o = .ok ())
    (size : Nat) (fat32 : Bool) : IsClusterSize (startSize size g o fat32) := by
  obtain ⟨hs, -, hc, hh, -⟩ := checkOptions_eq_ok_iff.1 h
  unfold startSize
  cases hforced : o.clusterSectors with
  | some n => exact checkClusterSize_eq_ok_iff.1 (hforced ▸ hc)
  | none =>
    cases hhint : o.clusterHint with
    | some n => exact checkClusterSize_eq_ok_iff.1 (hhint ▸ hh)
    | none =>
      show IsClusterSize (if fat32 then startHint size g.sectorSize.toNat else 1)
      split
      · exact isClusterSize_startHint size hs
      · decide

namespace Parameters

/-- Bounds of the parameters of a search. -/
structure WellFormed (p : Parameters) : Prop where
  /-- The sector size is one of a volume. -/
  sectorSize : IsSectorSize p.sectorSize
  /-- The sectors are counted in 32 bits. -/
  totalSectors_le : p.totalSectors ≤ maxField32
  /-- The bytes are those of all sectors. -/
  size_eq : p.size = p.totalSectors * p.sectorSize
  /-- The number of table copies is one of a volume. -/
  tableCount : IsTableCount p.tableCount
  /-- There is a reserved sector, that of the boot sector. -/
  reserved_pos : 0 < p.reserved
  /-- The reserved sectors are counted in 16 bits. -/
  reserved_le : p.reserved ≤ maxField16
  /-- FAT32 has a second reserved sector, that of the information sector. -/
  two_le_reserved : p.width = some .fat32 → 2 ≤ p.reserved
  /-- The entries of the root directory are counted in 32 bits. -/
  rootEntries_le : p.rootEntries ≤ maxField32
  /-- The root directory has as many sectors as its entries need. -/
  rootSectors_eq : p.rootSectors = ceilDiv (p.rootEntries * directoryEntryBytes) p.sectorSize
  /-- The search starts at a cluster size of a volume. -/
  startClusterSectors : IsClusterSize p.startClusterSectors

/-- The parameters of a search, in natural numbers. -/
def settled (g : Geometry) (o : Options) : Parameters :=
  let size := g.totalSectors.toNat * g.sectorSize.toNat
  let fat32 := fixedWidth size o = some .fat32
  let asked := requestedReserved o fat32
  let rootEntries := if fat32 then 0 else o.rootEntries.toNat
  { sectorSize := g.sectorSize.toNat
    totalSectors := g.totalSectors.toNat
    size
    width := fixedWidth size o
    reserved := if fat32 then max 2 asked else asked
    reservedRaised := fat32 && asked < 2
    rootEntries
    rootSectors := ceilDiv (rootEntries * 32) g.sectorSize.toNat
    tableCount := o.tableCount.toNat
    align := o.align && alignmentThreshold < g.totalSectors.toNat
    startClusterSectors := startSize size g o fat32
    forced := o.clusterSectors.isSome }

/-- The reserved sectors that options ask for on a device. -/
def askedReserved (g : Geometry) (o : Options) : Nat :=
  requestedReserved o (fixedWidth (g.totalSectors.toNat * g.sectorSize.toNat) o = some .fat32)

/-- After the checks the parameters are refused for the reserved sectors or settled. -/
theorem resolve_eq {g : Geometry} {o : Options} (h : checkOptions g o = .ok ()) :
    resolve g o =
      if askedReserved g o = 0 ∨ maxField16 < askedReserved g o then
        refuse (.reservedSectors (askedReserved g o))
      else .ok (settled g o) := by
  obtain ⟨hs, -, -, -, ht⟩ := checkOptions_eq_ok_iff.1 h
  have hsize : g.totalSectors.toNat * g.sectorSize.toNat < 2 ^ 64 := by
    have hm := Nat.mul_le_mul ht hs.2.2
    simp only [maxField32] at hm
    omega
  have hentries := o.rootEntries.toNat_lt
  unfold resolve Geometry.sizeBytes
  rw [h, within_of_lt hsize]
  simp only [orRefuse_ok, liftM_ok, ok_bind]
  have hroot : (if fixedWidth (g.totalSectors.toNat * g.sectorSize.toNat) o = some .fat32 then 0
      else o.rootEntries.toNat) * 32 + g.sectorSize.toNat < 2 ^ 64 := by
    have := hs.2.2
    split <;> omega
  rw [roundedQuotient_of_pos hs.1.pos hroot, startCluster_eq h]
  simp only [liftM_ok, ok_bind]
  by_cases hasked : askedReserved g o = 0 ∨ maxField16 < askedReserved g o
  · rw [if_pos hasked]
    unfold askedReserved at hasked ⊢
    rw [if_pos hasked]
    rfl
  · rw [if_neg hasked]
    unfold askedReserved at hasked
    rw [if_neg hasked]
    rfl

/-- Settled parameters are well formed. -/
theorem wellFormed_settled {g : Geometry} {o : Options} (h : checkOptions g o = .ok ())
    (hasked : ¬(askedReserved g o = 0 ∨ maxField16 < askedReserved g o)) :
    (settled g o).WellFormed := by
  obtain ⟨hs, htables, -, -, ht⟩ := checkOptions_eq_ok_iff.1 h
  have hentries := o.rootEntries.toNat_lt
  have hreserved : (settled g o).reserved = max 2 (askedReserved g o) ∨
      (settled g o).reserved = askedReserved g o ∧ (settled g o).width ≠ some .fat32 := by
    by_cases hw : (settled g o).width = some .fat32
    · exact Or.inl (if_pos hw)
    · exact Or.inr ⟨if_neg hw, hw⟩
  have hroot : (settled g o).rootEntries ≤ maxField32 := by
    show (if _ then 0 else o.rootEntries.toNat) ≤ maxField32
    simp only [maxField32]
    split <;> omega
  have hmax : maxField16 = 65535 := rfl
  exact {
    sectorSize := hs
    totalSectors_le := ht
    size_eq := rfl
    tableCount := htables
    reserved_pos := by omega
    reserved_le := by omega
    two_le_reserved := fun hw => by
      rcases hreserved with hr | ⟨-, hn⟩
      · omega
      · exact absurd hw hn
    rootEntries_le := hroot
    rootSectors_eq := rfl
    startClusterSectors := isClusterSize_startSize h _ _ }

/-- Parameters are never resolved by a breakdown. -/
theorem resolve_ne_fault (g : Geometry) (o : Options) (cause : Fault) :
    resolve g o ≠ .error (.fault cause) := by
  cases h : checkOptions g o with
  | error e =>
    unfold resolve
    rw [h]
    nofun
  | ok _ =>
    rw [resolve_eq h]
    split <;> nofun

/-- Parameters that are resolved are the settled ones, and well formed. -/
theorem resolve_eq_ok {g : Geometry} {o : Options} {p : Parameters} (h : resolve g o = .ok p) :
    p = settled g o ∧ p.WellFormed := by
  cases hcheck : checkOptions g o with
  | error e =>
    unfold resolve at h
    rw [hcheck] at h
    cases h
  | ok _ =>
    rw [resolve_eq hcheck] at h
    split at h
    · cases h
    · cases h
      exact ⟨rfl, wellFormed_settled hcheck ‹_›⟩

end Parameters

end FatVolume.Layout
