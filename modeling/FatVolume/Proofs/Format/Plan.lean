import FatVolume.Format
import FatVolume.Proofs.Boot.Edits
import FatVolume.Proofs.Format.Request
import FatVolume.Proofs.Volume.Defects

/-!
# Plans that are made

A plan is made of what a request and a device settle: the medium, the layout, the label, the place of
the backup, and the bad sectors. `Settled` collects it, and `plan_eq_ok` says that the volume of a plan
is known from it: it is the one that the clusters of the bad sectors make of the fresh volume.
-/

namespace FatVolume

namespace Request

/-- The bad sectors of a request are those of its list, those of the scan that it asks for, or
none. -/
def FindsBad (r : Request) (d : Device) (l : Layout) (bad : SectorSet) : Prop :=
  match r.badBlocks with
  | some list => BlockList.mark list l = .ok bad
  | none => if r.scan = true then (Scan.sectors d l).outcome = .ok bad else bad = ∅

/-- The boot sector with the message and the partition table of the request. -/
def bootOf (r : Request) (l : Layout) (g : Geometry) (v : VolumeInfo) (backup : UInt16) :
    BootSector :=
  let s := BootSector.fresh l g v backup
  let s := r.message.elim s s.setMessage
  if r.partitionTable = true then s.setPartitionTable (spanningTable l g v.volumeId) else s

/-- What a request and a device settle on the way to a plan. -/
structure Settled where
  /-- The type of the medium. -/
  mediaType : MediaType
  /-- The standard format of a floppy disk. -/
  floppy : Option FloppyFormat
  /-- The geometry of the device. -/
  geometry : Geometry
  /-- The layout. -/
  layout : Layout
  /-- The sector of the backup boot sector, 0 if there is none. -/
  backup : UInt16
  /-- The label. -/
  label : Label
  /-- The bad sectors. -/
  bad : SectorSet

namespace Settled

/-- What the volume records of itself. -/
def info (s : Settled) (r : Request) (now : Clock) : VolumeInfo :=
  r.volumeInfo s.label s.mediaType s.floppy now

/-- The boot sector before the root directory is moved. -/
def boot (s : Settled) (r : Request) (now : Clock) : BootSector :=
  r.bootOf s.layout s.geometry (s.info r now) s.backup

/-- The bytes of the root directory. -/
def rootDirectory (s : Settled) (r : Request) (now : Clock) : ByteArray :=
  FreshVolume.rootDirectoryOf (s.layout.rootWriteSectors * s.layout.sectorSize) (s.info r now)

/-- The clusters that hold a bad sector. -/
def badClusters (s : Settled) : Finset Nat := s.layout.hit s.bad

/-- The volume. -/
def volume (s : Settled) (r : Request) (now : Clock) : FreshVolume :=
  FreshVolume.ofBad s.layout (s.boot r now) (s.info r now).media (s.rootDirectory r now)
    s.badClusters

end Settled

/-- A request and a device settle on something: the request is valid, the device takes it, and each
part is what the parts before it lead to. -/
structure Settles (r : Request) (d : Device) (s : Settled) : Prop where
  /-- The request is valid. -/
  valid : r.IsValid
  /-- The device takes the request. -/
  device : r.checkDevice d = .ok s.mediaType
  /-- The floppy format is that of the device. -/
  floppy : floppyFormat d s.mediaType = .ok s.floppy
  /-- The geometry is that of the device. -/
  geometry : r.geometry d.blockSize (UInt64.ofNat d.blockCount) s.floppy = .ok s.geometry
  /-- The layout is computed. -/
  layout : Layout.compute s.geometry (r.options s.floppy) = .ok s.layout
  /-- The backup has a place, or none. -/
  backup : (r.backup s.layout).outcome = .ok s.backup
  /-- The label is that of the request. -/
  label : Label.parse r.label = .ok s.label
  /-- The bad sectors are listed or scanned for. -/
  bad : r.FindsBad d s.layout s.bad
  /-- A cluster is left for the root directory. -/
  room : ¬s.layout.Exhausts s.badClusters

variable {r : Request} {d : Device} {now : Clock}

/-- The boot sector of a request is made, whatever the remarks. -/
theorem outcome_bootSector (r : Request) (l : Layout) (g : Geometry) (v : VolumeInfo)
    (backup : UInt16) : (r.bootSector l g v backup).outcome = .ok (r.bootOf l g v backup) := by
  unfold bootSector bootOf
  cases r.message <;> cases r.partitionTable <;> rfl

/-- The bad sectors are those that are listed or scanned for. -/
theorem findsBad_iff {l : Layout} {bad : SectorSet} :
    r.FindsBad d l bad ↔ ∃ listed, r.listedSectors l = .ok listed ∧
      (r.badSectors d l listed).outcome = .ok bad := by
  unfold FindsBad listedSectors
  cases r.badBlocks with
  | some list =>
    dsimp only
    constructor
    · intro hmark
      exact ⟨some bad, by rw [hmark]; rfl, rfl⟩
    · rintro ⟨listed, hlisted, hbad⟩
      obtain ⟨sectors, hmark, hsome⟩ := bind_eq_ok_iff.1 hlisted
      cases hsome
      cases hbad
      exact widen_eq_ok_iff.1 hmark
  | none =>
    unfold badSectors
    dsimp only
    by_cases hscan : r.scan = true
    · rw [if_pos hscan]
      constructor
      · intro hbad
        exact ⟨none, rfl, (by rw [hscan]; exact widen_eq_ok_iff.2 hbad)⟩
      · rintro ⟨listed, hlisted, hbad⟩
        cases hlisted
        rw [if_pos hscan] at hbad
        exact widen_eq_ok_iff.1 hbad
    · rw [if_neg hscan]
      constructor
      · rintro rfl
        exact ⟨none, rfl, (by rw [if_neg hscan]; rfl)⟩
      · rintro ⟨listed, hlisted, hbad⟩
        cases hlisted
        rw [if_neg hscan] at hbad
        cases hbad
        rfl

/-- Message and partition table leave the parameters of FAT32 as they are. -/
theorem fat32_bootOf (r : Request) (l : Layout) (g : Geometry) (v : VolumeInfo) (backup : UInt16) :
    (r.bootOf l g v backup).fat32 = (BootSector.fresh l g v backup).fat32 := by
  unfold bootOf
  cases r.message <;> cases r.partitionTable <;> rfl

/-- The partition table of a volume spans it. -/
theorem spans_spanningTable (l : Layout) (g : Geometry) (signature : UInt32) :
    (spanningTable l g signature).Spans :=
  ⟨_, _, _, Partition.kindOf_ne_zero _ _ _, rfl⟩

/-- The boot sector of a request is read back as it is. -/
theorem faithful_bootOf (r : Request) {l : Layout} (h : l.Sound) (g : Geometry) (v : VolumeInfo)
    (backup : UInt16) : (r.bootOf l g v backup).Faithful := by
  have hfresh := BootSector.composed_fresh h g v backup
  have hmessage : (r.message.elim (BootSector.fresh l g v backup)
      (BootSector.fresh l g v backup).setMessage).Composed := by
    cases r.message with
    | none => exact hfresh
    | some message => exact hfresh.setMessage message
  unfold bootOf
  dsimp only
  split
  · exact (hmessage.setPartitionTable (spans_spanningTable l g v.volumeId).isRecognised).faithful
  · exact hmessage.faithful

/-- The volume of a request is made without a bad cluster. -/
theorem make_bootOf (r : Request) {l : Layout} (h : l.Sound) (g : Geometry) (v : VolumeInfo)
    (backup : UInt16) :
    FreshVolume.make l (r.bootOf l g v backup) v =
      .ok (FreshVolume.ofBad l (r.bootOf l g v backup) v.media
        (FreshVolume.rootDirectoryOf (l.rootWriteSectors * l.sectorSize) v) ∅) :=
  FreshVolume.make_eq h (BootSector.rootCluster_of_fat32_eq (r.fat32_bootOf l g v backup)) v

/-- The bad clusters of a request are marked if they leave one for the root directory. -/
theorem markBad_bootOf (r : Request) {l : Layout} (h : l.Sound) (g : Geometry) (v : VolumeInfo)
    (backup : UInt16) (rootDirectory : ByteArray) (bad : SectorSet) :
    (FreshVolume.ofBad l (r.bootOf l g v backup) v.media rootDirectory ∅).markBad bad =
      if l.Exhausts (l.hit bad) then
        refuse (.defect (.noRootCluster ((l.rootFor ∅).getD 0)))
      else .ok (FreshVolume.ofBad l (r.bootOf l g v backup) v.media rootDirectory (l.hit bad),
        (l.hit bad \ ∅).card) := by
  have hboot : (r.bootOf l g v backup).fat32.isSome = decide (l.width = .fat32) := by
    rw [fat32_bootOf]
    exact BootSector.isSome_fat32_fresh _ _ _ _
  have hmark := FreshVolume.markBad_eq h hboot v.media rootDirectory (Finset.empty_subset _)
    (FreshVolume.not_exhausts_empty h) bad
  rwa [Finset.empty_union] at hmark

/-- The floppy format of a device is a standard one. -/
theorem mem_all_of_floppyFormat {media : MediaType} {f : FloppyFormat}
    (h : floppyFormat d media = .ok (some f)) : f ∈ FloppyFormat.all := by
  unfold floppyFormat at h
  split at h
  · obtain ⟨size, -, hfound⟩ := bind_eq_ok_iff.1 h
    exact FloppyFormat.mem_all (Except.ok.inj hfound)
  · cases h

/-- A plan that is made is known from what the request and the device settle on. -/
theorem plan_eq_ok {p : Plan} (h : (r.plan d now).outcome = .ok p) :
    ∃ s, r.Settles d s ∧ p = ⟨s.volume r now, s.info r now, s.backup⟩ := by
  unfold plan at h
  simp only [Attempt.outcome_bind, Attempt.outcome_liftM, Attempt.outcome_liftM_checked,
    Attempt.outcome_warn, ok_bind] at h
  obtain ⟨hvalid, h⟩ := check_bind_eq_ok_iff.1 h
  obtain ⟨mediaType, hdevice, h⟩ := bind_eq_ok_iff.1 h
  obtain ⟨floppy, hfloppy, h⟩ := bind_eq_ok_iff.1 h
  obtain ⟨g, hgeometry, h⟩ := bind_eq_ok_iff.1 h
  obtain ⟨l, hlayout, h⟩ := bind_eq_ok_iff.1 h
  rw [Attempt.outcome_warn_if] at h
  simp only [Attempt.outcome_bind, Attempt.outcome_liftM, Attempt.outcome_warn,
    Attempt.outcome_pure, outcome_bootSector, ok_bind] at h
  obtain ⟨backup, hbackup, h⟩ := bind_eq_ok_iff.1 h
  obtain ⟨label, hlabel, h⟩ := bind_eq_ok_iff.1 h
  obtain ⟨listed, hlisted, h⟩ := bind_eq_ok_iff.1 h
  obtain ⟨fresh, hfresh, h⟩ := bind_eq_ok_iff.1 h
  obtain ⟨bad, hbad, h⟩ := bind_eq_ok_iff.1 h
  obtain ⟨marked, hmarked, h⟩ := bind_eq_ok_iff.1 h
  cases h
  have hlayout := widen_eq_ok_iff.1 hlayout
  have hsound := Layout.sound_of_compute hlayout
  rw [make_bootOf r hsound] at hfresh
  cases hfresh
  rw [markBad_bootOf r hsound] at hmarked
  by_cases hroom : l.Exhausts (l.hit bad)
  · rw [if_pos hroom] at hmarked
    exact absurd hmarked (refuse_ne_ok _ _)
  · rw [if_neg hroom] at hmarked
    cases hmarked
    exact ⟨⟨mediaType, floppy, g, l, backup, label, bad⟩,
      ⟨validate_eq_ok_iff.1 hvalid, hdevice, liftM_eq_ok_iff.1 hfloppy,
        liftM_eq_ok_iff.1 hgeometry, hlayout, hbackup, parseLabel_eq_ok_iff.1 hlabel,
        findsBad_iff.2 ⟨listed, hlisted, hbad⟩, hroom⟩, rfl⟩

/-- What the request and the device settle on makes a plan. -/
theorem Settles.plan_eq {s : Settled} (h : r.Settles d s) (now : Clock) :
    (r.plan d now).outcome = .ok ⟨s.volume r now, s.info r now, s.backup⟩ := by
  have hsound := Layout.sound_of_compute h.layout
  obtain ⟨listed, hlisted, hbad⟩ := findsBad_iff.1 h.bad
  have hmake := make_bootOf r hsound s.geometry
    (r.volumeInfo s.label s.mediaType s.floppy now) s.backup
  have hmarked := markBad_bootOf r hsound s.geometry
    (r.volumeInfo s.label s.mediaType s.floppy now) s.backup (s.rootDirectory r now) s.bad
  have hroom : ¬s.layout.Exhausts (s.layout.hit s.bad) := h.room
  rw [if_neg hroom] at hmarked
  unfold plan
  simp only [Attempt.outcome_bind, Attempt.outcome_liftM, Attempt.outcome_liftM_checked,
    Attempt.outcome_warn, ok_bind]
  rw [validate_eq_ok_iff.2 h.valid, ok_bind, h.device, ok_bind, h.floppy, liftM_ok, ok_bind,
    h.geometry, liftM_ok, ok_bind, widen_eq_ok_iff.2 h.layout, ok_bind, Attempt.outcome_warn_if]
  simp only [Attempt.outcome_bind, Attempt.outcome_liftM, Attempt.outcome_warn,
    Attempt.outcome_pure, outcome_bootSector, ok_bind]
  rw [h.backup, ok_bind, parseLabel_eq_ok_iff.2 h.label, ok_bind, hlisted, ok_bind,
    widen_eq_ok_iff.2 hmake, ok_bind, hbad, ok_bind]
  exact congrArg (· >>= fun marked => Except.ok (Plan.mk marked.1 (s.info r now) s.backup)) hmarked

end Request

end FatVolume
