import FatVolume.Proofs.Defect.Listing
import FatVolume.Proofs.Format.Plan

/-!
# Plans that are not made

Planning a format has stages, and each may stop it. `Request.Stops` has a case for every stage, and
`plan_stops` says that there are no others. What a stage stops for is foreseen (`Error.IsForeseen`): it
lies in the request, in the size of the device or in its defects. Only a device that does not keep
its word (`Device.IsSteady`) makes planning break down.
-/

namespace FatVolume

variable {α β ε δ : Type}

/-- The reasons that a user can do something about: those that lie in the request, in the size of
the device and in its defects. -/
def Error.IsForeseen : Error → Prop
  | .configuration _ | .layout _ | .defect _ | .list _ | .label _ => True
  | .table _ | .write _ | .invalidBootSector | .invalidInfoSector => False

/-- A stop for a foreseen reason. -/
def Stop.IsForeseen : Stop Error → Prop
  | .fault _ => False
  | .refused reason => reason.IsForeseen

/-- A computation that stops for foreseen reasons only. -/
def Foreseen (x : Guarded Error α) : Prop := ∀ stop, x = .error stop → stop.IsForeseen

namespace Foreseen

theorem ok (a : α) : Foreseen (.ok a : Guarded Error α) := nofun

/-- A refusal is as foreseen as its reason. -/
theorem refuse {reason : Error} (h : reason.IsForeseen) :
    Foreseen (refuse reason : Guarded Error α) := by
  rintro _ ⟨⟩
  exact h

/-- A sequence is foreseen if both of its parts are. -/
theorem bind {x : Guarded Error α} {f : α → Guarded Error β} (hx : Foreseen x)
    (hf : ∀ a, x = .ok a → Foreseen (f a)) : Foreseen (x >>= f) := by
  intro stop hstop
  obtain hstop | ⟨a, ha, hstop⟩ := bind_eq_error_iff.1 hstop
  · exact hx stop hstop
  · exact hf a ha stop hstop

theorem ite {p : Prop} [Decidable p] {x y : Guarded Error α} (hx : p → Foreseen x)
    (hy : ¬p → Foreseen y) : Foreseen (if p then x else y) := by
  by_cases h : p
  · rw [if_pos h]
    exact hx h
  · rw [if_neg h]
    exact hy h

/-- A check is as foreseen as the reason for which it refuses. -/
theorem check {p : Prop} [Decidable p] {reason : Error} (h : reason.IsForeseen) :
    Foreseen (if p then pure () else FatVolume.refuse reason : Guarded Error Unit) :=
  ite (fun _ => ok ()) fun _ => refuse h

/-- A computation that never breaks down is foreseen if all of its reasons are. -/
theorem widen {f : ε → Error} (hf : ∀ reason, (f reason).IsForeseen) {x : Guarded ε α}
    (hx : ∀ cause, x ≠ .error (.fault cause)) : Foreseen (Guarded.widen f x) := by
  intro stop hstop
  obtain ⟨inner, hinner, rfl⟩ := widen_eq_error_iff.1 hstop
  cases inner with
  | fault cause => exact absurd hinner (hx cause)
  | refused reason => exact hf reason

end Foreseen

namespace Request

variable {r : Request} {d : Device} {now : Clock}

/-- The check of an optional number is foreseen if the check is. -/
theorem foreseen_checkSome {x : Option α} {check : α → Guarded Error Unit}
    (h : ∀ a, x = some a → Foreseen (check a)) : Foreseen (checkSome x check) := by
  cases x with
  | none => exact Foreseen.ok ()
  | some a => exact h a rfl

/-- A backup outside of the reserved area is foreseen. -/
theorem foreseen_checkBackup (sector : UInt32) (reserved : Region) :
    Foreseen (checkBackup sector reserved) := Foreseen.check trivial

/-- A partition table on a medium that has none is foreseen. -/
theorem foreseen_checkPartitionTable (r : Request) (media : MediaType) :
    Foreseen (r.checkPartitionTable media) :=
  Foreseen.ite (fun _ => Foreseen.refuse trivial) fun _ => Foreseen.ok ()

/-- Sizes that no volume has are foreseen. -/
theorem foreseen_checkSizes (r : Request) : Foreseen r.checkSizes := by
  unfold checkSizes unlayable misconfigured
  simp only [refuse_bind]
  refine Foreseen.ite (fun _ => ?_) fun _ => Foreseen.refuse trivial
  refine Foreseen.bind (foreseen_checkSome fun _ _ => Foreseen.check trivial) fun _ _ => ?_
  refine Foreseen.bind (foreseen_checkSome fun _ _ => Foreseen.check trivial) fun _ _ => ?_
  refine Foreseen.bind (foreseen_checkSome fun _ _ => Foreseen.check trivial) fun _ _ => ?_
  refine Foreseen.bind (foreseen_checkSome fun _ _ => Foreseen.check trivial) fun _ _ => ?_
  exact foreseen_checkSome fun _ _ => Foreseen.check trivial

/-- A backup on a sector that has another use is foreseen, and so is one outside of a reserved area
of the right size. -/
theorem foreseen_checkBackupPlace {r : Request}
    (hreserved : ∀ n, r.reservedSectors = some n → IsPositiveField16 n.toNat) :
    Foreseen r.checkBackupPlace := by
  unfold checkBackupPlace misconfigured
  refine foreseen_checkSome fun sector _ => ?_
  simp only [refuse_bind]
  refine Foreseen.ite (fun _ => Foreseen.refuse trivial) fun _ => ?_
  refine foreseen_checkSome fun n hn => ?_
  rw [Region.initial_of_pos (Nat.pos_of_ne_zero (hreserved n hn).1), liftM_ok, ok_bind]
  exact foreseen_checkBackup _ _

/-- A label that is none is foreseen. -/
theorem foreseen_parseLabel (r : Request) : Foreseen r.parseLabel.outcome := by
  unfold parseLabel
  simp only [Attempt.outcome_bind, Attempt.outcome_liftM, Attempt.outcome_warn,
    Attempt.outcome_pure, ok_bind]
  exact Foreseen.bind (Foreseen.widen (f := Error.label) (fun _ => trivial) (orRefuse_ne_fault _))
    fun label _ => Foreseen.ok label

/-- A request that is not valid is refused for a foreseen reason. -/
theorem foreseen_validate (r : Request) : Foreseen r.validate.outcome := by
  unfold validate misconfigured
  dsimp only
  by_cases hboth : r.scan = true ∧ r.badBlocks.isSome = true
  · rw [if_pos hboth]
    exact Foreseen.refuse trivial
  · rw [if_neg hboth]
    simp only [Attempt.outcome_bind, Attempt.outcome_liftM]
    refine Foreseen.bind (foreseen_checkSizes r) fun _ hsizes => ?_
    obtain ⟨-, -, -, hreserved, -⟩ := checkSizes_eq_ok_iff.1 hsizes
    refine Foreseen.bind (foreseen_checkBackupPlace hreserved) fun _ _ => ?_
    refine Foreseen.bind (foreseen_checkSome fun media _ =>
      foreseen_checkPartitionTable r media) fun _ _ => ?_
    refine Foreseen.bind (foreseen_parseLabel r) fun _ _ => ?_
    refine foreseen_checkSome fun list _ => ?_
    exact Foreseen.bind (Foreseen.widen (f := Error.list) (fun _ => trivial) (orRefuse_ne_fault _))
      fun _ _ => Foreseen.ok ()

/-- A device that does not take a request refuses it for a foreseen reason. -/
theorem foreseen_checkDevice (r : Request) (d : Device) : Foreseen (r.checkDevice d) := by
  unfold checkDevice misconfigured
  simp only [refuse_bind]
  refine Foreseen.ite (fun _ => Foreseen.refuse trivial) fun _ => ?_
  refine Foreseen.ite (fun _ => Foreseen.refuse trivial) fun _ => ?_
  refine Foreseen.bind (foreseen_checkSome fun n _ =>
    Foreseen.ite (fun _ => Foreseen.refuse trivial) fun _ => Foreseen.ok ()) fun _ _ => ?_
  exact Foreseen.bind (foreseen_checkPartitionTable r _) fun _ _ => Foreseen.ok _

/-- A backup that has no place in a sound layout is foreseen. -/
theorem foreseen_backup (r : Request) {l : Layout} (h : l.Sound) :
    Foreseen (r.backup l).outcome := by
  have hregion : l.reservedRegion = .ok ⟨0, l.reservedSectors - 1⟩ :=
    Region.initial_of_pos h.reservedSectors_pos
  unfold Request.backup
  by_cases hw : l.width = .fat32
  · rw [if_pos hw]
    cases r.backupSector with
    | some sector =>
      simp only [hregion, Attempt.outcome_bind, Attempt.outcome_liftM_checked,
        Attempt.outcome_liftM, liftM_ok, ok_bind]
      exact Foreseen.bind (foreseen_checkBackup sector _) fun _ _ => Foreseen.ok _
    | none =>
      have hfound : ∃ found, backupSector? l.reservedSectors BootSector.infoSectorNumber =
          .ok found := by
        unfold backupSector?
        rw [within_of_lt (by decide)]
        simp only [ok_bind]
        split
        · exact ⟨_, rfl⟩
        · split
          · exact ⟨_, rfl⟩
          · split <;> exact ⟨_, rfl⟩
      obtain ⟨found, hfound⟩ := hfound
      simp only [hfound, Attempt.outcome_bind, Attempt.outcome_liftM_checked, liftM_ok, ok_bind]
      cases found with
      | some sector => exact Foreseen.ok _
      | none => exact Foreseen.ok _
  · rw [if_neg hw]
    split <;> exact Foreseen.ok _

end Request

/-- A device that keeps its word: a word counts its bytes, and a block is read or refused. -/
structure Device.IsSteady (d : Device) : Prop where
  /-- A word counts the bytes of the device. -/
  size_lt : d.blockCount * d.blockSize.toNat < 2 ^ 64
  /-- Reading never breaks down. -/
  read_ne_fault : ∀ start length cause, d.read start length ≠ .error (.fault cause)

/-- A disk in memory keeps its word. -/
theorem RamDisk.isSteady (d : RamDisk) : (Device.ram d).IsSteady where
  size_lt := by
    have hlt := d.size_lt
    change d.sectorCount * d.sectorSize.toNat < 2 ^ 64
    rw [d.sectorCount_mul]
    omega
  read_ne_fault := fun start length cause => by
    change d.read start length ≠ _
    unfold RamDisk.read checkTransfer
    rw [if_neg (Nat.ne_of_gt d.sectorSize_pos)]
    intro hfault
    obtain hfault | ⟨count, -, hfault⟩ := bind_eq_error_iff.1 hfault
    · split at hfault
      · cases hfault
      · dsimp only at hfault
        split at hfault <;> cases hfault
    · split at hfault <;> cases hfault

namespace Scan

variable {d : Device}

/-- Scanning blocks of a device never breaks down if reading does not. -/
theorem blocks_ne_fault (hd : d.IsSteady) (l : Layout) (start last : Nat) (bad : SectorSet)
    (cause : Fault) : (blocks d l start last bad).outcome ≠ .error (.fault cause) := by
  fun_induction blocks d l start last bad with
  | case1 start bad hlt count data hread ih => exact ih
  | case2 start bad hlt count fault hread => exact absurd hread (hd.read_ne_fault _ _ _)
  | case3 start bad hlt count reason hread ih =>
    simp only [Attempt.outcome_bind, Attempt.outcome_warn, ok_bind]
    by_cases hbefore : start < l.dataStart
    · rw [if_pos hbefore]
      nofun
    · rw [if_neg hbefore]
      exact ih
  | case4 start bad hge => nofun

/-- Scanning batches of a device never breaks down if reading does not. -/
theorem batches_ne_fault (hd : d.IsSteady) (l : Layout) (start last : Nat) (bad : SectorSet)
    (cause : Fault) : (batches d l start last bad).outcome ≠ .error (.fault cause) := by
  fun_induction batches d l start last bad with
  | case1 start bad hlt count data hread ih => exact ih
  | case2 start bad hlt count fault hread => exact absurd hread (hd.read_ne_fault _ _ _)
  | case3 start bad hlt count reason hread ih =>
    rw [Attempt.outcome_bind]
    intro hfault
    obtain hfault | ⟨found, -, hfault⟩ := bind_eq_error_iff.1 hfault
    · exact blocks_ne_fault hd l _ _ _ cause hfault
    · exact ih found hfault
  | case4 start bad hge => nofun

/-- A scan up to the last cluster of a sound layout never breaks down if reading does not. -/
theorem sectors_ne_fault (hd : d.IsSteady) {l : Layout} (h : l.Sound) (cause : Fault) :
    (sectors d l).outcome ≠ .error (.fault cause) := by
  unfold sectors
  rw [h.wordDataEnd_eq, Attempt.outcome_bind, Attempt.outcome_liftM_checked, liftM_ok, ok_bind]
  exact batches_ne_fault hd l _ _ _ cause

end Scan

namespace Request

variable {r : Request} {d : Device} {now : Clock}

/-- The ways in which planning stops. Each stage has its own; a layout that is there is sound. -/
inductive Stops (r : Request) (d : Device) : Stop Error → Prop
  /-- The request is not valid. -/
  | request {stop : Stop Error} (h : r.validate.outcome = .error stop) : Stops r d stop
  /-- The device does not take the request. -/
  | device {stop : Stop Error} (valid : r.IsValid) (h : r.checkDevice d = .error stop) :
    Stops r d stop
  /-- A word does not count the bytes of the device. -/
  | size (h : 2 ^ 64 ≤ d.blockCount * d.blockSize.toNat) : Stops r d (.fault .overflow)
  /-- There is no layout. -/
  | layout {stop : Stop LayoutError} (g : Geometry) (floppy : Option FloppyFormat)
    (h : Layout.compute g (r.options floppy) = .error stop) : Stops r d (stop.map .layout)
  /-- The backup has no place in the layout. -/
  | backup {stop : Stop Error} (l : Layout) (sound : l.Sound)
    (h : (r.backup l).outcome = .error stop) : Stops r d stop
  /-- The list of bad blocks does not go with the layout. -/
  | list {stop : Stop ListError} (l : Layout) (sound : l.Sound) (text : String)
    (asked : r.badBlocks = some text) (h : BlockList.mark text l = .error stop) :
    Stops r d (stop.map .list)
  /-- The scan finds a bad block before the data area. -/
  | scan {stop : Stop DefectError} (l : Layout) (sound : l.Sound) (asked : r.scan = true)
    (h : (Scan.sectors d l).outcome = .error stop) : Stops r d (stop.map .defect)
  /-- All clusters are bad, and none is left for the root directory. -/
  | root (l : Layout) (sound : l.Sound) (bad : SectorSet) (h : l.Exhausts (l.hit bad)) :
    Stops r d (.refused (.defect (.noRootCluster ((l.rootFor ∅).getD 0))))

/-- Planning stops for a foreseen reason, or the device does not keep its word. -/
theorem Stops.isForeseen {stop : Stop Error} (h : r.Stops d stop) :
    stop.IsForeseen ∨ ¬d.IsSteady ∧ ∃ cause, stop = .fault cause := by
  cases h with
  | request h => exact Or.inl (foreseen_validate r stop h)
  | device valid h => exact Or.inl (foreseen_checkDevice r d stop h)
  | size h => exact Or.inr ⟨fun hd => Nat.not_lt.2 h hd.size_lt, _, rfl⟩
  | @layout stop g floppy h =>
    cases stop with
    | fault cause => exact absurd h (Layout.compute_ne_fault g _ cause)
    | refused reason => exact Or.inl trivial
  | backup l sound h => exact Or.inl (foreseen_backup r sound stop h)
  | @list stop l sound text asked h =>
    cases stop with
    | fault cause => exact absurd h (BlockList.mark_ne_fault sound text cause)
    | refused reason => exact Or.inl trivial
  | @scan stop l sound asked h =>
    cases stop with
    | fault cause => exact Or.inr ⟨fun hd => Scan.sectors_ne_fault hd sound cause h, _, rfl⟩
    | refused reason => exact Or.inl trivial
  | root l sound bad h => exact Or.inl trivial

/-- The floppy format of a device is found if a word counts its bytes. -/
theorem floppyFormat_eq_error {media : MediaType} {cause : Fault}
    (h : floppyFormat d media = .error cause) :
    2 ^ 64 ≤ d.blockCount * d.blockSize.toNat ∧ cause = .overflow := by
  unfold floppyFormat at h
  split at h
  · obtain h | ⟨size, -, h⟩ := bind_eq_error_iff.1 h
    · exact within_eq_error_iff.1 h
    · cases h
  · cases h

/-- The geometry of a device is found if a word counts its bytes. -/
theorem geometry_eq_error {floppy : Option FloppyFormat} {cause : Fault}
    (h : r.geometry d.blockSize (UInt64.ofNat d.blockCount) floppy = .error cause) :
    2 ^ 64 ≤ d.blockCount * d.blockSize.toNat ∧ cause = .overflow := by
  have hle : (UInt64.ofNat d.blockCount).toNat ≤ d.blockCount := by
    rw [UInt64.toNat_ofNat']
    exact Nat.mod_le _ _
  unfold Request.geometry Geometry.ofSectors at h
  obtain h | ⟨g, -, h⟩ := bind_eq_error_iff.1 h
  · obtain h | ⟨size, -, h⟩ := bind_eq_error_iff.1 h
    · obtain ⟨hover, hcause⟩ := within_eq_error_iff.1 h
      rw [Nat.mul_comm] at hover
      exact ⟨hover.trans (Nat.mul_le_mul_right _ hle), hcause⟩
    · cases h
  · cases h

/-- A list of bad blocks that is marked or missing leaves the scan to stop. -/
theorem badSectors_eq_error {l : Layout} {listed : Option SectorSet} {stop : Stop Error}
    (h : (r.badSectors d l listed).outcome = .error stop) :
    r.scan = true ∧ ∃ inner, (Scan.sectors d l).outcome = .error inner ∧
      stop = inner.map .defect := by
  unfold badSectors at h
  cases listed with
  | some sectors => cases h
  | none =>
    dsimp only at h
    split at h
    · rename_i hscan
      exact ⟨hscan, widen_eq_error_iff.1 h⟩
    · cases h

/-- A list of bad blocks stops planning if it cannot be marked. -/
theorem listedSectors_eq_error {l : Layout} {stop : Stop Error}
    (h : r.listedSectors l = .error stop) :
    ∃ text inner, r.badBlocks = some text ∧ BlockList.mark text l = .error inner ∧
      stop = inner.map .list := by
  unfold listedSectors at h
  cases hlist : r.badBlocks with
  | none =>
    rw [hlist] at h
    cases h
  | some text =>
    rw [hlist] at h
    obtain h | ⟨sectors, -, h⟩ := bind_eq_error_iff.1 h
    · obtain ⟨inner, hinner, hstop⟩ := widen_eq_error_iff.1 h
      exact ⟨text, inner, rfl, hinner, hstop⟩
    · cases h

/-- A plan that is not made stops at one of the stages. Each stage stops the plan, or establishes
what the later ones rely on. -/
theorem plan_stops {stop : Stop Error} (h : (r.plan d now).outcome = .error stop) :
    r.Stops d stop := by
  unfold plan at h
  simp only [Attempt.outcome_bind, Attempt.outcome_liftM, Attempt.outcome_liftM_checked,
    Attempt.outcome_warn, ok_bind] at h
  obtain h | ⟨_, hvalid, h⟩ := bind_eq_error_iff.1 h
  · exact .request h
  have hvalid := validate_eq_ok_iff.1 hvalid
  obtain h | ⟨media, -, h⟩ := bind_eq_error_iff.1 h
  · exact .device hvalid h
  obtain h | ⟨floppy, -, h⟩ := bind_eq_error_iff.1 h
  · obtain ⟨cause, hcause, rfl⟩ := liftM_eq_error_iff.1 h
    obtain ⟨hover, rfl⟩ := floppyFormat_eq_error hcause
    exact .size hover
  obtain h | ⟨g, -, h⟩ := bind_eq_error_iff.1 h
  · obtain ⟨cause, hcause, rfl⟩ := liftM_eq_error_iff.1 h
    obtain ⟨hover, rfl⟩ := geometry_eq_error hcause
    exact .size hover
  obtain h | ⟨l, hlayout, h⟩ := bind_eq_error_iff.1 h
  · obtain ⟨inner, hinner, rfl⟩ := widen_eq_error_iff.1 h
    exact .layout g floppy hinner
  have hsound := Layout.sound_of_compute (widen_eq_ok_iff.1 hlayout)
  rw [Attempt.outcome_warn_if] at h
  simp only [Attempt.outcome_bind, Attempt.outcome_liftM, Attempt.outcome_warn,
    Attempt.outcome_pure, outcome_bootSector, ok_bind] at h
  obtain h | ⟨backup, -, h⟩ := bind_eq_error_iff.1 h
  · exact .backup l hsound h
  obtain h | ⟨label, -, h⟩ := bind_eq_error_iff.1 h
  · obtain ⟨label, hlabel⟩ := hvalid.label
    rw [parseLabel_eq_ok_iff.2 hlabel] at h
    cases h
  obtain h | ⟨listed, -, h⟩ := bind_eq_error_iff.1 h
  · obtain ⟨text, inner, hasked, hinner, rfl⟩ := listedSectors_eq_error h
    exact .list l hsound text hasked hinner
  rw [make_bootOf r hsound, widen_ok, ok_bind] at h
  obtain h | ⟨bad, -, h⟩ := bind_eq_error_iff.1 h
  · obtain ⟨hscan, inner, hinner, rfl⟩ := badSectors_eq_error h
    exact .scan l hsound hscan hinner
  rw [markBad_bootOf r hsound] at h
  by_cases hroom : l.Exhausts (l.hit bad)
  · rw [if_pos hroom] at h
    cases h
    exact .root l hsound bad hroom
  · rw [if_neg hroom] at h
    cases h

end Request

end FatVolume
