import FatVolume.Format
import FatVolume.Proofs.Guard
import FatVolume.Proofs.Layout.Sound

/-!
# Valid requests

`Request.IsValid` lists what can be said of a request without a device, and `validate_eq_ok_iff` says
that validation asks for just that. What a request lets pass later on, against a device or a layout,
is told here as well.
-/

namespace FatVolume

namespace Request

/-- What makes a request valid, whatever the device. -/
structure IsValid (r : Request) : Prop where
  /-- Bad blocks are scanned for or listed, not both. -/
  scan_or_list : ¬(r.scan = true ∧ r.badBlocks.isSome = true)
  /-- The number of table copies is one of a volume. -/
  tableCount : Layout.IsTableCount r.tableCount.toNat
  /-- The sector size is one of a volume. -/
  sectorSize : ∀ n, r.sectorSize = some n → Layout.IsSectorSize n.toNat
  /-- The cluster size is one of a volume. -/
  clusterSectors : ∀ n, r.clusterSectors = some n → Layout.IsClusterSize n.toNat
  /-- The reserved sectors fit their field. -/
  reservedSectors : ∀ n, r.reservedSectors = some n → IsPositiveField16 n.toNat
  /-- The entries of the root directory fit their field. -/
  rootEntries : ∀ n, r.rootEntries = some n → IsPositiveField16 n.toNat
  /-- The tracks can be expressed. -/
  tracks : ∀ t, r.tracks = some t → Chs.IsExpressible t
  /-- The backup follows the information sector. -/
  backupPlace : ∀ sector, r.backupSector = some sector →
    BootSector.infoSectorNumber < sector.toNat
  /-- The backup is reserved. -/
  backupReserved : ∀ sector, r.backupSector = some sector →
    ∀ n, r.reservedSectors = some n → sector.toNat < n.toNat
  /-- A partition table is asked for on fixed media. -/
  partitionTable : ∀ media, r.mediaType = some media → r.partitionTable = true →
    media.isFixed = true
  /-- The label is one. -/
  label : ∃ label, Label.parse r.label = .ok label
  /-- The list of bad blocks is one. -/
  badBlocks : ∀ list, r.badBlocks = some list → ∃ blocks, BlockList.parse list = .ok blocks

/-- An optional number passes its check if it is not there or passes. -/
theorem checkSome_eq_ok_iff {α : Type} {x : Option α} {check : α → Guarded Error Unit} :
    checkSome x check = .ok () ↔ ∀ a, x = some a → check a = .ok () := by
  cases x <;> simp [checkSome]

/-- The backup passes if it is reserved. -/
theorem checkBackup_eq_ok_iff {sector : UInt32} {n : Nat} (h : 0 < n) :
    checkBackup sector ⟨0, n - 1⟩ = .ok () ↔ sector.toNat < n := by
  unfold checkBackup misconfigured
  rw [unless_refuse_eq_ok_iff, Region.contains_initial_iff h]
  exact and_iff_left rfl

/-- The medium passes if it is fixed or no partition table is asked for. -/
theorem checkPartitionTable_eq_ok_iff {r : Request} {media : MediaType} :
    r.checkPartitionTable media = .ok () ↔ (r.partitionTable = true → media.isFixed = true) := by
  unfold checkPartitionTable misconfigured
  rw [if_refuse_eq_ok_iff]
  simp

/-- The sizes pass if they are those of a volume. -/
theorem checkSizes_eq_ok_iff {r : Request} :
    r.checkSizes = .ok () ↔ Layout.IsTableCount r.tableCount.toNat ∧
      (∀ n, r.sectorSize = some n → Layout.IsSectorSize n.toNat) ∧
      (∀ n, r.clusterSectors = some n → Layout.IsClusterSize n.toNat) ∧
      (∀ n, r.reservedSectors = some n → IsPositiveField16 n.toNat) ∧
      (∀ n, r.rootEntries = some n → IsPositiveField16 n.toNat) ∧
      (∀ t, r.tracks = some t → Chs.IsExpressible t) := by
  unfold checkSizes unlayable misconfigured
  simp only [refuse_bind, unless_refuse_eq_ok_iff, check_bind_eq_ok_iff, checkSome_eq_ok_iff,
    pure_eq_ok, and_true]

/-- The place of the backup passes if the backup follows the information sector and is reserved. -/
theorem checkBackupPlace_eq_ok_iff {r : Request}
    (hreserved : ∀ n, r.reservedSectors = some n → IsPositiveField16 n.toNat) :
    r.checkBackupPlace = .ok () ↔
      (∀ sector, r.backupSector = some sector → BootSector.infoSectorNumber < sector.toNat) ∧
      (∀ sector, r.backupSector = some sector →
        ∀ n, r.reservedSectors = some n → sector.toNat < n.toNat) := by
  have hinside : ∀ (sector n : UInt32), r.reservedSectors = some n →
      ((do checkBackup sector (← Region.initial n.toNat) : Guarded Error Unit) = .ok () ↔
        sector.toNat < n.toNat) := by
    intro sector n hn
    have hpos := Nat.pos_of_ne_zero (hreserved n hn).1
    rw [Region.initial_of_pos hpos, liftM_ok, ok_bind, checkBackup_eq_ok_iff hpos]
  have hplace : ∀ sector : UInt32,
      ¬(sector.toNat = 0 ∨ sector.toNat = BootSector.infoSectorNumber) ↔
        BootSector.infoSectorNumber < sector.toNat := by
    intro sector
    simp only [BootSector.infoSectorNumber]
    omega
  unfold checkBackupPlace misconfigured
  rw [checkSome_eq_ok_iff, ← forall_and]
  refine forall_congr' fun sector => ?_
  rw [← imp_and]
  refine imp_congr_right fun _ => ?_
  dsimp only
  rw [refuse_bind, if_refuse_eq_ok_iff, hplace, checkSome_eq_ok_iff]
  exact and_congr_right fun _ => forall_congr' fun n => imp_congr_right fun hn => hinside sector n hn

/-- The label passes if it is one. -/
theorem parseLabel_eq_ok_iff {r : Request} {label : Label} :
    r.parseLabel.outcome = .ok label ↔ Label.parse r.label = .ok label := by
  unfold parseLabel
  simp only [Attempt.outcome_bind, Attempt.outcome_liftM, Attempt.outcome_warn,
    Attempt.outcome_pure]
  rw [bind_eq_ok_iff]
  simp [widen_eq_ok_iff, orRefuse_eq_ok_iff]

/-- Validation lets through just the valid requests. -/
theorem validate_eq_ok_iff {r : Request} : r.validate.outcome = .ok () ↔ r.IsValid := by
  have hblocks : checkSome r.badBlocks (fun list => do
      let _ ← (orRefuse (BlockList.parse list)).widen Error.list
      pure ()) = .ok () ↔
        ∀ list, r.badBlocks = some list → ∃ blocks, BlockList.parse list = .ok blocks := by
    rw [checkSome_eq_ok_iff]
    simp [bind_eq_ok_iff, widen_eq_ok_iff, orRefuse_eq_ok_iff]
  unfold validate misconfigured
  dsimp only
  by_cases hboth : r.scan = true ∧ r.badBlocks.isSome = true
  · rw [if_pos hboth]
    exact iff_of_false (refuse_ne_ok _ _) fun h => h.scan_or_list hboth
  · rw [if_neg hboth]
    simp only [Attempt.outcome_bind, Attempt.outcome_liftM, check_bind_eq_ok_iff,
      checkSizes_eq_ok_iff, checkSome_eq_ok_iff, checkPartitionTable_eq_ok_iff]
    rw [bind_eq_ok_iff]
    simp only [parseLabel_eq_ok_iff]
    constructor
    · rintro ⟨⟨htables, hsector, hcluster, hreserved, hroot, htracks⟩, hplace, hpartition,
        label, hlabel, hlist⟩
      obtain ⟨hafter, hinside⟩ := (checkBackupPlace_eq_ok_iff hreserved).1 hplace
      exact ⟨hboth, htables, hsector, hcluster, hreserved, hroot, htracks, hafter, hinside,
        hpartition, ⟨label, hlabel⟩, hblocks.1 hlist⟩
    · intro h
      obtain ⟨label, hlabel⟩ := h.label
      exact ⟨⟨h.tableCount, h.sectorSize, h.clusterSectors, h.reservedSectors, h.rootEntries,
        h.tracks⟩, (checkBackupPlace_eq_ok_iff h.reservedSectors).2 ⟨h.backupPlace,
        h.backupReserved⟩, h.partitionTable, label, hlabel, hblocks.2 h.badBlocks⟩

/-- The geometry is that of the device. -/
theorem geometry_eq_ok {r : Request} {sectorSize : UInt32} {sectors : UInt64}
    {floppy : Option FloppyFormat} {g : Geometry}
    (h : r.geometry sectorSize sectors floppy = .ok g) :
    g.sectorSize = sectorSize ∧ g.totalSectors = sectors := by
  obtain ⟨_, hbase, h⟩ := bind_eq_ok_iff.1 h
  obtain ⟨_, -, hbase⟩ := bind_eq_ok_iff.1 hbase
  cases hbase
  cases h
  exact ⟨rfl, rfl⟩

/-- The place that a reserved area takes the backup at follows the information sector and is
reserved. -/
theorem backupSector?_eq_some {reserved sector : Nat}
    (h : backupSector? reserved BootSector.infoSectorNumber = .ok (some sector)) :
    BootSector.infoSectorNumber < sector ∧ sector < reserved := by
  have hone : BootSector.infoSectorNumber = 1 := rfl
  unfold backupSector? at h
  split at h
  · cases h
    omega
  · obtain ⟨least, hleast, h⟩ := bind_eq_ok_iff.1 h
    obtain ⟨-, rfl⟩ := within_eq_ok_iff.1 hleast
    split at h
    · cases h
      omega
    · split at h
      · cases h
        omega
      · cases h

/-- A backup is one of a FAT32 volume, follows the information sector and is reserved. -/
theorem IsValid.backup {r : Request} (hr : r.IsValid) {l : Layout} (h : l.Sound) {sector : UInt16}
    (hsector : (r.backup l).outcome = .ok sector) (hne : sector ≠ 0) :
    l.width = .fat32 ∧ BootSector.infoSectorNumber < sector.toNat ∧
      sector.toNat < l.reservedSectors := by
  have hpos := h.reservedSectors_pos
  have hle := h.reservedSectors_le
  have hregion : l.reservedRegion = .ok ⟨0, l.reservedSectors - 1⟩ := Region.initial_of_pos hpos
  simp only [Layout.maxField16] at hle
  unfold Request.backup at hsector
  by_cases hw : l.width = .fat32
  · refine ⟨hw, ?_⟩
    rw [if_pos hw] at hsector
    cases hasked : r.backupSector with
    | some asked =>
      rw [hasked, hregion] at hsector
      simp only [Attempt.outcome_bind, Attempt.outcome_liftM_checked, Attempt.outcome_liftM,
        liftM_ok, ok_bind] at hsector
      obtain ⟨hcheck, hvalue⟩ := check_bind_eq_ok_iff.1 hsector
      have hlt := (checkBackup_eq_ok_iff hpos).1 hcheck
      cases hvalue
      rw [UInt16.toNat_ofNat_of_lt' (by simp only [UInt16.size]; omega)]
      exact ⟨hr.backupPlace asked hasked, hlt⟩
    | none =>
      rw [hasked] at hsector
      cases hfound : backupSector? l.reservedSectors BootSector.infoSectorNumber with
      | error cause =>
        rw [hfound] at hsector
        cases hsector
      | ok found =>
        rw [hfound] at hsector
        cases found with
        | none =>
          cases hsector
          exact absurd rfl hne
        | some found =>
          cases hsector
          have hplace := backupSector?_eq_some hfound
          rw [UInt16.toNat_ofNat_of_lt' (by simp only [UInt16.size]; omega)]
          exact hplace
  · rw [if_neg hw] at hsector
    split at hsector <;>
      · cases hsector
        exact absurd rfl hne

/-- A format that is found by the size of a disk is a standard one. -/
theorem FloppyFormat.mem_all {size : Nat} {f : FloppyFormat}
    (h : FloppyFormat.ofSize? size = some f) : f ∈ FloppyFormat.all := by
  unfold FloppyFormat.ofSize? at h
  split at h
  · exact List.mem_of_find?_eq_some h
  · cases h

/-- The layout of a valid request has entries of the root directory to ask for. -/
theorem IsValid.rootEntries_options {r : Request} (hr : r.IsValid) {floppy : Option FloppyFormat}
    (hfloppy : ∀ f, floppy = some f → IsPositiveField16 f.rootEntries.toNat) :
    IsPositiveField16 (r.options floppy).rootEntries.toNat := by
  unfold options
  dsimp only
  cases hasked : r.rootEntries with
  | some n => exact hr.rootEntries n hasked
  | none =>
    cases floppy with
    | some f => exact hfloppy f rfl
    | none => decide

end Request

end FatVolume
