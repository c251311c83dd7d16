import FatVolume.Proofs.Boot.Fresh
import FatVolume.Proofs.Table.Defects
import FatVolume.Volume

/-!
# Fresh volumes with defects

A fresh volume is known from its bad clusters alone (`withDefects`): the root directory of FAT32 is
on the least cluster that is not bad, because it only ever moves up past bad ones. Marking the
clusters of some sectors bad is therefore adding them to the bad clusters (`markBad_eq`), and it is
refused just if no cluster would be left for the root directory. A sequence of such requests leaves
the union of the clusters that accepted ones hit (`markBad_sequence`).
-/

namespace FatVolume

open Table (free mem_free_iff)

namespace Layout

variable {l : Layout} {bad : Finset Nat} {c : Nat}

/-- The least cluster of a volume that is not bad. -/
def leastGood (l : Layout) (bad : Finset Nat) : Option Nat :=
  (List.range' reservedEntries l.clusterCount).find? fun c => c ∉ bad

/-- The least good cluster is good, and all clusters before it are bad. -/
theorem leastGood_eq_some_iff :
    l.leastGood bad = some c ↔
      (c ∈ l.clusters ∧ c ∉ bad) ∧ ∀ d ∈ l.clusters, d < c → d ∈ bad := by
  unfold leastGood
  rw [List.find?_range'_eq_some, List.mem_range'_1, mem_clusters_iff, Nat.add_comm reservedEntries]
  constructor
  · rintro ⟨hgood, hc, hleast⟩
    refine ⟨⟨hc, of_decide_eq_true hgood⟩, fun d hd hdc => ?_⟩
    have hd' := hleast d (mem_clusters_iff.1 hd).1 hdc
    by_contra hno
    rw [decide_eq_true hno] at hd'
    cases hd'
  · rintro ⟨⟨hc, hgood⟩, hleast⟩
    refine ⟨decide_eq_true hgood, hc, fun d hd hdc => ?_⟩
    have hbad := hleast d (mem_clusters_iff.2 ⟨hd, hdc.trans hc.2⟩) hdc
    rw [decide_eq_false (not_not.2 hbad)]
    rfl

/-- There is no good cluster just if all clusters are bad. -/
theorem leastGood_eq_none_iff : l.leastGood bad = none ↔ l.clusters ⊆ bad := by
  unfold leastGood
  rw [List.find?_range'_eq_none, Nat.add_comm reservedEntries]
  constructor
  · intro hnone c hc
    obtain ⟨hle, hlt⟩ := mem_clusters_iff.1 hc
    have hno := hnone c hle hlt
    by_contra hgood
    rw [decide_eq_true hgood] at hno
    cases hno
  · intro hsub c hle hlt
    rw [decide_eq_false (not_not.2 (hsub (mem_clusters_iff.2 ⟨hle, hlt⟩)))]
    rfl

/-- The cluster of the root directory of a volume with bad clusters, on FAT32. -/
def rootFor (l : Layout) (bad : Finset Nat) : Option Nat :=
  if l.width = .fat32 then l.leastGood bad else none

/-- On FAT32 the root directory is on the least good cluster. -/
theorem rootFor_wide (hw : l.width = .fat32) : l.rootFor bad = l.leastGood bad := if_pos hw

theorem rootFor_narrow (hw : l.width ≠ .fat32) (bad : Finset Nat) : l.rootFor bad = none :=
  if_neg hw

/-- The request to mark more clusters bad leaves no cluster for the root directory. -/
def Exhausts (l : Layout) (bad : Finset Nat) : Prop := l.width = .fat32 ∧ l.clusters ⊆ bad

instance (l : Layout) (bad : Finset Nat) : Decidable (l.Exhausts bad) :=
  inferInstanceAs (Decidable (_ ∧ _))

end Layout

namespace FreshVolume

open Table (withDefects)

/-- The volume with bad clusters that a fresh volume becomes. -/
def ofBad (l : Layout) (boot : BootSector) (media : UInt8) (rootDirectory : ByteArray)
    (bad : Finset Nat) : FreshVolume :=
  let root := l.rootFor bad
  let table := Table.withDefects l media bad root
  { layout := l
    boot := root.elim boot (withRoot boot)
    info := root.map fun _ => infoOf table
    table
    rootDirectory }

variable {l : Layout} {media : UInt8} {bad : Finset Nat} {rootDirectory : ByteArray}
  {boot : BootSector}

/-- Marking clusters bad marks the first one, and counts it if the table changed. -/
theorem markAll_cons {t marked : Table} {changed : Bool} {c : Nat}
    (h : t.mark c t.width.badMarker = .ok (marked, changed)) (count : Nat) (rest : List Nat) :
    markAll t count (c :: rest) =
      markAll marked (if changed then count + 1 else count) rest := by
  rw [markAll, h]
  rfl

/-- Marking clusters bad adds them to the bad ones, and counts those that were none of them. A
cluster that is listed twice is bad when it comes again. -/
theorem markAll_eq (hcount : l.clusterCount < 2 ^ 28) (media : UInt8) (root : Option Nat)
    {clusters : List Nat} (hc : ∀ c ∈ clusters, c ∈ l.clusters) {bad : Finset Nat}
    (hbad : bad ⊆ l.clusters) (count : Nat) :
    markAll (withDefects l media bad root) count clusters =
      .ok (withDefects l media (bad ∪ clusters.toFinset) root,
        count + (clusters.toFinset \ bad).card) := by
  induction clusters generalizing bad count with
  | nil =>
    rw [List.toFinset_nil, Finset.union_empty, Finset.empty_sdiff, Finset.card_empty]
    rfl
  | cons c rest ih =>
    have hcl := hc c List.mem_cons_self
    have hrest := fun d hd => hc d (List.mem_cons_of_mem c hd)
    rw [markAll_cons (Table.mark_bad hcount hbad hcl), ih hrest (Finset.insert_subset hcl hbad),
      List.toFinset_cons, Finset.insert_union, Finset.union_insert]
    refine congrArg Except.ok (Prod.ext rfl ?_)
    dsimp only
    by_cases hb : c ∈ bad
    · rw [decide_eq_false (not_not.2 hb), Finset.insert_eq_of_mem hb,
        Finset.insert_sdiff_of_mem _ hb]
      rfl
    · have hset : insert c rest.toFinset \ bad = insert c (rest.toFinset \ insert c bad) := by
        ext d
        by_cases hd : d = c
        · simp [hd, hb]
        · simp [hd]
      have hnew : c ∉ rest.toFinset \ insert c bad := fun hn =>
        (Finset.mem_sdiff.1 hn).2 (Finset.mem_insert_self c bad)
      rw [decide_eq_true hb, hset, Finset.card_insert_of_notMem hnew]
      show count + 1 + _ = _
      omega

/-- A root directory on a bad cluster moves to the first free one after it. -/
theorem moveRoot_of_bad {t moved : Table} {changed : Bool} {root target : Nat}
    (hbad : t.isBad root = true) (hfirst : t.firstFree (root + 1) = some target)
    (hmark : t.mark target t.width.endMarker = .ok (moved, changed)) :
    moveRoot t root = .ok (moved, target) := by
  unfold moveRoot
  rw [if_pos hbad, hfirst]
  dsimp only
  rw [hmark]
  rfl

/-- A root directory on a bad cluster without a free one after it has no place. -/
theorem moveRoot_of_noFree {t : Table} {root : Nat} (hbad : t.isBad root = true)
    (hfirst : t.firstFree (root + 1) = none) :
    moveRoot t root = refuse (.defect (.noRootCluster root)) := by
  unfold moveRoot
  rw [if_pos hbad, hfirst]

/-- A root directory on a good cluster stays. -/
theorem moveRoot_of_good {t : Table} {root : Nat} (hgood : ¬t.isBad root = true) :
    moveRoot t root = .ok (t, root) := if_neg hgood

/-- If all clusters up to that of the root directory are bad, the first free one after it is the
least good one. -/
theorem firstFree_of_bad (media : UInt8) {root : Nat} (hb : root ∈ bad)
    (hbelow : ∀ c ∈ l.clusters, c < root → c ∈ bad) :
    (withDefects l media bad (some root)).firstFree (root + 1) = l.leastGood bad := by
  refine Option.ext fun c => ?_
  rw [Table.firstFree_eq_some_iff, Table.clustersWith_zero, Layout.leastGood_eq_some_iff]
  constructor
  · rintro ⟨⟨hfree, hle⟩, hleast⟩
    obtain ⟨hc, hgood, -⟩ := mem_free_iff.1 hfree
    refine ⟨⟨hc, hgood⟩, fun d hd hdc => ?_⟩
    by_contra hdgood
    have hne : root ≠ d := fun he => hdgood (he ▸ hb)
    have hlt : ¬d < root := fun hlt => hdgood (hbelow d hd hlt)
    have hcd := hleast ⟨mem_free_iff.2 ⟨hd, hdgood, fun he => hne (Option.some.inj he)⟩,
      by omega⟩
    omega
  · rintro ⟨⟨hc, hgood⟩, hleast⟩
    have hne : root ≠ c := fun he => hgood (he ▸ hb)
    have hlt : ¬c < root := fun hlt => hgood (hbelow c hc hlt)
    refine ⟨⟨mem_free_iff.2 ⟨hc, hgood, fun he => hne (Option.some.inj he)⟩, by omega⟩,
      fun d ⟨hd, _⟩ => ?_⟩
    by_contra hdc
    obtain ⟨hdl, hdgood, -⟩ := mem_free_iff.1 hd
    exact hdgood (hleast d hdl (by omega))

/-- A root directory on a bad cluster moves to the least good one, if all clusters before it are
bad; on a good cluster it stays. -/
theorem moveRoot_eq (media : UInt8) (bad : Finset Nat) {root : Nat} (hroot : root ∈ l.clusters)
    (hbelow : ∀ c ∈ l.clusters, c < root → c ∈ bad) :
    moveRoot (withDefects l media bad (some root)) root =
      match l.leastGood bad with
      | some target => .ok (withDefects l media bad (some target), target)
      | none => refuse (.defect (.noRootCluster root)) := by
  have hisBad : (withDefects l media bad (some root)).isBad root = decide (root ∈ bad) :=
    Table.isBad_withDefects hroot
  by_cases hb : root ∈ bad
  · have hfirst := firstFree_of_bad media hb hbelow
    rw [decide_eq_true hb] at hisBad
    cases htarget : l.leastGood bad with
    | none => exact moveRoot_of_noFree hisBad (hfirst.trans htarget)
    | some target =>
      obtain ⟨⟨hc, hgood⟩, -⟩ := Layout.leastGood_eq_some_iff.1 htarget
      have hbefore : ∀ r, some root = some r → r ∈ bad := fun r hr => Option.some.inj hr ▸ hb
      exact moveRoot_of_bad hisBad (hfirst.trans htarget)
        (Table.mark_root media hbefore hc hgood)
  · have hleast : l.leastGood bad = some root :=
      Layout.leastGood_eq_some_iff.2 ⟨⟨hroot, hb⟩, hbelow⟩
    rw [decide_eq_false hb] at hisBad
    rw [hleast, moveRoot_of_good (by rw [hisBad]; decide)]

/-- The free clusters of a volume are neither bad nor that of the root directory. -/
theorem card_free (root : Option Nat) (hbad : bad ⊆ l.clusters)
    (hroot : ∀ r, root = some r → r ∈ l.clusters ∧ r ∉ bad) :
    (free l bad root).card = l.clusterCount - bad.card - root.toFinset.card := by
  have hset : free l bad root = (l.clusters \ bad) \ root.toFinset := by
    ext c
    rw [mem_free_iff, Finset.mem_sdiff, Finset.mem_sdiff, Option.mem_toFinset, Option.mem_def,
      and_assoc]
  have hsub : root.toFinset ⊆ l.clusters \ bad := by
    intro r hr
    exact Finset.mem_sdiff.2 (hroot r (Option.mem_toFinset.1 hr))
  rw [hset, Finset.card_sdiff_of_subset hsub, Finset.card_sdiff_of_subset hbad,
    Layout.card_clusters]

/-- The information sector of a table counts the free clusters. -/
theorem toNat_freeClusters (hcount : l.clusterCount < 2 ^ 28) (media : UInt8) (bad : Finset Nat)
    (root : Option Nat) :
    (infoOf (withDefects l media bad root)).freeClusters.toNat = (free l bad root).card := by
  have hle : (free l bad root).card ≤ l.clusterCount := by
    rw [← l.card_clusters]
    exact Finset.card_le_card fun c hc => (mem_free_iff.1 hc).1
  show (UInt32.ofNat (withDefects l media bad root).freeClusters).toNat = _
  rw [Table.freeClusters_withDefects]
  exact UInt32.toNat_ofNat_of_lt' (by simp only [UInt32.size]; omega)

/-- The number of free clusters falls by the clusters that are newly bad. -/
theorem infoAfter_eq (hcount : l.clusterCount < 2 ^ 28) {hit : Finset Nat} {root target : Nat}
    (hbad : bad ⊆ l.clusters) (hhit : hit ⊆ l.clusters) (hroot : l.leastGood bad = some root)
    (htarget : l.leastGood (bad ∪ hit) = some target) :
    infoAfter (infoOf (withDefects l media bad (some root)))
        (withDefects l media (bad ∪ hit) (some target)) (hit \ bad).card =
      .ok (infoOf (withDefects l media (bad ∪ hit) (some target))) := by
  have hbefore := card_free (some root) hbad fun r hr =>
    Option.some.inj hr ▸ (Layout.leastGood_eq_some_iff.1 hroot).1
  have hafter := card_free (some target) (Finset.union_subset hbad hhit) fun r hr =>
    Option.some.inj hr ▸ (Layout.leastGood_eq_some_iff.1 htarget).1
  have hunion : (bad ∪ hit).card = bad.card + (hit \ bad).card := by
    rw [← Finset.union_sdiff_self_eq_union, Finset.card_union_of_disjoint Finset.disjoint_sdiff]
  have hold := toNat_freeClusters hcount media bad (some root)
  have hfree : (withDefects l media (bad ∪ hit) (some target)).freeClusters =
      (infoOf (withDefects l media bad (some root))).freeClusters.toNat - (hit \ bad).card := by
    rw [Table.freeClusters_withDefects, hold, hbefore, hafter, hunion, Option.toFinset_some,
      Finset.card_singleton, Option.toFinset_some, Finset.card_singleton]
    omega
  unfold infoAfter
  rw [invariant_of hfree]
  rfl

/-- A boot sector of FAT32 gives the cluster of the root directory that was last set. -/
theorem rootCluster_withRoot {root : Nat} (hboot : boot.fat32.isSome = true)
    (hroot : root < 2 ^ 32) : (withRoot boot root).rootCluster = some root := by
  obtain ⟨e, he⟩ := Option.isSome_iff_exists.1 hboot
  unfold BootSector.rootCluster withRoot
  rw [he]
  exact congrArg some (UInt32.toNat_ofNat_of_lt' hroot)

/-- Of two clusters of the root directory the one that is set last counts. -/
theorem withRoot_withRoot (boot : BootSector) (first second : Nat) :
    withRoot (withRoot boot first) second = withRoot boot second := by
  unfold withRoot
  dsimp only
  rw [Option.map_map]
  rfl

/-- A FAT32 volume with clusters left has a least good one. -/
theorem exists_leastGood (hw : l.width = .fat32) (hroom : ¬l.Exhausts bad) :
    ∃ root, l.leastGood bad = some root :=
  Option.ne_none_iff_exists'.1 fun hn => hroom ⟨hw, Layout.leastGood_eq_none_iff.1 hn⟩

section Branches

variable {v : FreshVolume} {sectors found : SectorSet} {t moved : Table} {newlyBad root target : Nat}

/-- A request that hits no cluster changes nothing. -/
theorem markBad_of_isEmpty (hfound : badClusters v.layout sectors = .ok found)
    (hempty : found.isEmpty = true) : v.markBad sectors = .ok (v, 0) := by
  unfold markBad
  rw [hfound, liftM_ok, ok_bind, if_pos hempty]
  rfl

/-- Without a root cluster only the table changes. -/
theorem markBad_of_noRoot (hfound : badClusters v.layout sectors = .ok found)
    (hne : ¬found.isEmpty = true) (hmark : markAll v.table 0 found.toList = .ok (t, newlyBad))
    (hroot : v.boot.rootCluster = none) (hinfo : v.info = none) :
    v.markBad sectors = .ok ({ v with table := t }, newlyBad) := by
  unfold markBad
  rw [hfound, liftM_ok, ok_bind, if_neg hne, hmark, hroot, hinfo]
  obtain ⟨layout, boot, info, table, rootDirectory⟩ := v
  cases hinfo
  rfl

/-- With a root cluster the table, the root cluster and the information sector change together. -/
theorem markBad_of_root (hfound : badClusters v.layout sectors = .ok found)
    (hne : ¬found.isEmpty = true) (hmark : markAll v.table 0 found.toList = .ok (t, newlyBad))
    (hroot : v.boot.rootCluster = some root) (hmove : moveRoot t root = .ok (moved, target))
    {old info : InfoSector} (hinfo : v.info = some old)
    (hafter : infoAfter old moved newlyBad = .ok info) :
    v.markBad sectors =
      .ok ({ v with boot := withRoot v.boot target, info := some info, table := moved },
        newlyBad) := by
  unfold markBad
  rw [hfound, liftM_ok, ok_bind, if_neg hne, hmark, hroot, hinfo]
  rw [widen_ok, ok_bind]
  dsimp only
  rw [hmove, ok_bind, pure_eq_ok, ok_bind, hafter]
  rfl

/-- A request that leaves no place for the root cluster is refused. -/
theorem markBad_of_noPlace (hfound : badClusters v.layout sectors = .ok found)
    (hne : ¬found.isEmpty = true) (hmark : markAll v.table 0 found.toList = .ok (t, newlyBad))
    (hroot : v.boot.rootCluster = some root) {e : Error} (hmove : moveRoot t root = refuse e) :
    v.markBad sectors = refuse e := by
  unfold markBad
  rw [hfound, liftM_ok, ok_bind, if_neg hne, hmark, hroot]
  rw [widen_ok, ok_bind]
  dsimp only
  rw [hmove]
  rfl

end Branches

theorem ofBad_narrow (hw : l.width ≠ .fat32) (bad : Finset Nat) :
    ofBad l boot media rootDirectory bad =
      ⟨l, boot, none, withDefects l media bad none, rootDirectory⟩ := by
  have hroot := Layout.rootFor_narrow hw bad
  unfold ofBad
  rw [hroot]
  rfl

/-- A FAT32 volume has its root directory on the least good cluster. -/
theorem ofBad_wide (hw : l.width = .fat32) {root : Nat} (hroot : l.leastGood bad = some root) :
    ofBad l boot media rootDirectory bad =
      ⟨l, withRoot boot root, some (infoOf (withDefects l media bad (some root))),
        withDefects l media bad (some root), rootDirectory⟩ := by
  have hrootFor := (Layout.rootFor_wide hw).trans hroot
  unfold ofBad
  rw [hrootFor]
  rfl

/-- Clusters of a volume are counted in 32 bits. -/
theorem lt_of_mem_clusters (hcount : l.clusterCount < 2 ^ 28) {c : Nat} (hc : c ∈ l.clusters) :
    c < 2 ^ 32 := by
  have hlt := (Layout.mem_clusters_iff.1 hc).2
  simp only [reservedEntries] at hlt
  omega

/-- Marking the clusters of sectors bad adds those that are hit to the bad ones. The request is
refused just if it would leave no cluster for the root directory. On FAT32 the root directory is on
the least good cluster and moves to the least that is left; elsewhere it has no cluster and stays.
-/
theorem markBad_eq (h : l.Sound) (hboot : boot.fat32.isSome = decide (l.width = .fat32))
    (media : UInt8) (rootDirectory : ByteArray) (hbad : bad ⊆ l.clusters) (hroom : ¬l.Exhausts bad)
    (sectors : SectorSet) :
    (ofBad l boot media rootDirectory bad).markBad sectors =
      if l.Exhausts (bad ∪ l.hit sectors) then
        refuse (.defect (.noRootCluster ((l.rootFor bad).getD 0)))
      else .ok (ofBad l boot media rootDirectory (bad ∪ l.hit sectors),
        (l.hit sectors \ bad).card) := by
  have hcount := h.clusterCount_lt
  have hhit := l.hit_subset sectors
  obtain ⟨found, hfound, hset⟩ := h.badClusters_eq sectors
  by_cases hempty : found.isEmpty = true
  · have hnone : l.hit sectors = ∅ := by
      rw [← hset, SectorSet.toList_eq_nil_iff.2 hempty, List.toFinset_nil]
    rw [hnone, Finset.union_empty, Finset.empty_sdiff, Finset.card_empty, if_neg hroom]
    exact markBad_of_isEmpty hfound hempty
  · have hmem : ∀ c ∈ found.toList, c ∈ l.clusters := fun c hc =>
      hhit (hset ▸ List.mem_toFinset.2 hc)
    have hmark := fun root => markAll_eq hcount media root hmem hbad 0
    rw [hset, Nat.zero_add] at hmark
    by_cases hw : l.width = .fat32
    · rw [decide_eq_true hw] at hboot
      obtain ⟨root, hroot⟩ := exists_leastGood hw hroom
      obtain ⟨⟨hrootl, -⟩, hbelow⟩ := Layout.leastGood_eq_some_iff.1 hroot
      have hrootFor := (Layout.rootFor_wide hw).trans hroot
      have hcluster := rootCluster_withRoot hboot (lt_of_mem_clusters hcount hrootl)
      have hmove := moveRoot_eq media (bad ∪ l.hit sectors) hrootl
        fun c hc hlt => Finset.mem_union_left _ (hbelow c hc hlt)
      rw [ofBad_wide hw hroot, hrootFor, Option.getD_some]
      cases htarget : l.leastGood (bad ∪ l.hit sectors) with
      | none =>
        rw [htarget] at hmove
        rw [if_pos ⟨hw, Layout.leastGood_eq_none_iff.1 htarget⟩]
        exact markBad_of_noPlace hfound hempty (hmark _) hcluster hmove
      | some target =>
        rw [htarget] at hmove
        have hleft : ¬l.Exhausts (bad ∪ l.hit sectors) := fun hn => by
          rw [Layout.leastGood_eq_none_iff.2 hn.2] at htarget
          cases htarget
        rw [if_neg hleft, ofBad_wide hw htarget, ← withRoot_withRoot boot root target]
        exact markBad_of_root hfound hempty (hmark _) hcluster hmove rfl
          (infoAfter_eq hcount hbad hhit hroot htarget)
    · rw [decide_eq_false hw] at hboot
      have hcluster : boot.rootCluster = none := by
        unfold BootSector.rootCluster
        rw [Option.isSome_eq_false_iff.1 hboot |> Option.isNone_iff_eq_none.1, Option.map_none]
      rw [if_neg fun hn => hw hn.1, ofBad_narrow hw, ofBad_narrow hw]
      exact markBad_of_noRoot hfound hempty (hmark _) hcluster rfl

theorem withRoot_self {root : Nat} (hroot : boot.rootCluster = some root) :
    withRoot boot root = boot := by
  obtain ⟨e, he, hvalue⟩ := Option.map_eq_some_iff.1 hroot
  have hfield : UInt32.ofNat root = e.rootCluster := by
    rw [← hvalue]
    exact UInt32.ofNat_toNat
  unfold withRoot
  rw [he, Option.map_some, hfield, ← he]

theorem leastGood_empty (h : l.Sound) : l.leastGood ∅ = some firstRootCluster := by
  have hpos := l.width.minClusters_pos.trans_le h.minClusters_le
  have hfirst : firstRootCluster ∈ l.clusters :=
    Layout.mem_clusters_iff.2 ⟨le_rfl, by simp only [firstRootCluster, reservedEntries]; omega⟩
  exact Layout.leastGood_eq_some_iff.2 ⟨⟨hfirst, Finset.notMem_empty _⟩, fun d hd hlt =>
    absurd (Layout.mem_clusters_iff.1 hd).1 (Nat.not_le.2 hlt)⟩

theorem not_exhausts_empty (h : l.Sound) : ¬l.Exhausts ∅ := fun hn =>
  nomatch (Layout.leastGood_eq_none_iff.2 hn.2).symm.trans (leastGood_empty h)

/-- A fresh volume is made without a bad cluster. -/
theorem make_eq (h : l.Sound)
    (hroot : boot.rootCluster = if l.width = .fat32 then some firstRootCluster else none)
    (v : VolumeInfo) :
    make l boot v = .ok (ofBad l boot v.media
      (rootDirectoryOf (l.rootWriteSectors * l.sectorSize) v) ∅) := by
  have hcount := h.clusterCount_lt
  have hentries : l.entryCount = .ok (l.clusterCount + reservedEntries) :=
    within_of_lt (by simp only [reservedEntries]; omega)
  unfold make
  rw [hentries, liftM_ok, ok_bind, Table.fresh_eq, ok_bind]
  by_cases hw : l.width = .fat32
  · have hleast := leastGood_empty h
    have hfirst := (Layout.leastGood_eq_some_iff.1 hleast).1.1
    rw [if_pos hw] at hroot
    rw [hroot]
    dsimp only
    rw [Table.mark_root _ (fun r hr => by cases hr) hfirst (Finset.notMem_empty _), ok_bind,
      ofBad_wide hw hleast, withRoot_self hroot]
    rfl
  · rw [if_neg hw] at hroot
    rw [hroot, ofBad_narrow hw]
    rfl

/-- What holds of a volume that `start` became when clusters turned out bad: the table marks the
bad clusters and counts them, other clusters are free, and on FAT32 the root directory is on the
least good cluster and the information sector counts the free ones. -/
structure HasDefects (start : FreshVolume) (media : UInt8) (bad : Finset Nat) (v : FreshVolume) :
    Prop where
  /-- The layout stays. -/
  layout_eq : v.layout = start.layout
  /-- The bytes of the root directory stay. -/
  rootDirectory_eq : v.rootDirectory = start.rootDirectory
  /-- Bad clusters are clusters of the volume. -/
  bad_subset : bad ⊆ start.layout.clusters
  /-- The width of the table is that of the layout. -/
  width_eq : v.table.width = start.layout.width
  /-- The table has the entries of all clusters and the reserved ones. -/
  entryCount_eq : v.table.entryCount = start.layout.clusterCount + reservedEntries
  /-- The bad clusters are counted. -/
  badClusters_eq : v.table.badClusters = bad.card
  /-- The first entry has the media descriptor. -/
  media_eq : v.table.entries[0]? = some (start.layout.width.mask - 255 + media.toNat)
  /-- The second entry is the mask. -/
  mask_eq : v.table.entries[1]? = some start.layout.width.mask
  /-- Bad clusters are marked. -/
  entry_bad : ∀ c ∈ bad, v.table.entries[c]? = some start.layout.width.badMarker
  /-- All other clusters but that of the root directory are free. -/
  entry_free : ∀ c ∈ start.layout.clusters, c ∉ bad → v.boot.rootCluster ≠ some c →
    v.table.entries[c]? = some 0
  /-- On FAT12 and FAT16 the boot sector stays, and there is no information sector. -/
  narrow : start.layout.width ≠ .fat32 →
    v.boot = start.boot ∧ v.boot.rootCluster = none ∧ v.info = none
  /-- On FAT32 the boot sector names the least good cluster, which ends a chain, and the information
  sector counts the clusters that are left and names the first of them. -/
  wide : start.layout.width = .fat32 → ∃ root info,
    IsLeast {c | c ∈ start.layout.clusters ∧ c ∉ bad} root ∧
    v.boot = withRoot start.boot root ∧ v.boot.rootCluster = some root ∧
    v.table.entries[root]? = some start.layout.width.endMarker ∧ v.info = some info ∧
    info.freeClusters.toNat = start.layout.clusterCount - bad.card - 1 ∧
    (IsLeast {c | c ∈ start.layout.clusters ∧ c ∉ bad ∧ c ≠ root} info.nextFree.toNat ∨
      (∀ c ∈ start.layout.clusters, c ∉ bad → c = root) ∧ info.nextFree = InfoSector.unknown)

/-- The information sector of a table names the first free cluster, if there is one. -/
theorem nextFree_infoOf (hcount : l.clusterCount < 2 ^ 28) (root : Nat) :
    IsLeast {c | c ∈ l.clusters ∧ c ∉ bad ∧ c ≠ root}
        (infoOf (withDefects l media bad (some root))).nextFree.toNat ∨
      (∀ c ∈ l.clusters, c ∉ bad → c = root) ∧
        (infoOf (withDefects l media bad (some root))).nextFree = InfoSector.unknown := by
  have hmem : ∀ c, c ∈ free l bad (some root) ↔ c ∈ l.clusters ∧ c ∉ bad ∧ c ≠ root := by
    intro c
    rw [mem_free_iff, ne_eq, Option.some.injEq, eq_comm (a := root)]
  unfold infoOf
  dsimp only
  cases hfirst : (withDefects l media bad (some root)).firstFree 0 with
  | none =>
    have hnone := Table.firstFree_eq_none_iff.1 hfirst
    rw [Table.clustersWith_zero] at hnone
    refine Or.inr ⟨fun c hc hgood => ?_, rfl⟩
    by_contra hne
    exact Nat.not_lt_zero c (hnone c ((hmem c).2 ⟨hc, hgood, hne⟩))
  | some cluster =>
    obtain ⟨⟨hfree, -⟩, hleast⟩ := Table.firstFree_eq_some_iff.1 hfirst
    rw [Table.clustersWith_zero] at hfree hleast
    have hlt := lt_of_mem_clusters hcount (mem_free_iff.1 hfree).1
    dsimp only
    rw [UInt32.toNat_ofNat_of_lt' hlt]
    exact Or.inl ⟨(hmem cluster).1 hfree, fun c hc => hleast ⟨(hmem c).2 hc, Nat.zero_le c⟩⟩

/-- The boot sector of a fresh volume is the one that it was made with. -/
theorem boot_ofBad_empty (h : l.Sound)
    (hroot : boot.rootCluster = if l.width = .fat32 then some firstRootCluster else none)
    (media : UInt8) (rootDirectory : ByteArray) :
    (ofBad l boot media rootDirectory ∅).boot = boot := by
  by_cases hw : l.width = .fat32
  · rw [if_pos hw] at hroot
    rw [ofBad_wide hw (leastGood_empty h)]
    exact withRoot_self hroot
  · rw [ofBad_narrow hw]

/-- The table of a volume with bad clusters. -/
theorem table_ofBad (l : Layout) (boot : BootSector) (media : UInt8) (rootDirectory : ByteArray)
    (bad : Finset Nat) :
    (ofBad l boot media rootDirectory bad).table = withDefects l media bad (l.rootFor bad) := rfl

/-- The root cluster of a volume with bad clusters. -/
theorem rootCluster_ofBad (h : l.Sound)
    (hroot : boot.rootCluster = if l.width = .fat32 then some firstRootCluster else none)
    (hroom : ¬l.Exhausts bad) (media : UInt8) (rootDirectory : ByteArray) :
    (ofBad l boot media rootDirectory bad).boot.rootCluster = l.rootFor bad := by
  by_cases hw : l.width = .fat32
  · obtain ⟨root, hleast⟩ := exists_leastGood hw hroom
    rw [if_pos hw] at hroot
    rw [ofBad_wide hw hleast, Layout.rootFor_wide hw, hleast]
    obtain ⟨e, he, -⟩ := Option.map_eq_some_iff.1 hroot
    exact rootCluster_withRoot (Option.isSome_iff_exists.2 ⟨e, he⟩)
      (lt_of_mem_clusters h.clusterCount_lt (Layout.leastGood_eq_some_iff.1 hleast).1.1)
  · rw [if_neg hw] at hroot
    rw [ofBad_narrow hw, Layout.rootFor_narrow hw]
    exact hroot

/-- The volume with bad clusters has them. -/
theorem hasDefects_ofBad (h : l.Sound)
    (hroot : boot.rootCluster = if l.width = .fat32 then some firstRootCluster else none)
    (hbad : bad ⊆ l.clusters) (hroom : ¬l.Exhausts bad) :
    HasDefects (ofBad l boot media rootDirectory ∅) media bad
      (ofBad l boot media rootDirectory bad) := by
  have hcount := h.clusterCount_lt
  have hstart := boot_ofBad_empty h hroot media rootDirectory
  have hcluster := rootCluster_ofBad h hroot hroom media rootDirectory
  exact {
    layout_eq := rfl
    rootDirectory_eq := rfl
    bad_subset := hbad
    width_eq := rfl
    entryCount_eq := Table.entryCount_withDefects
    badClusters_eq := rfl
    media_eq := (Table.getElem?_withDefects 0).trans (if_pos (Nat.succ_pos _))
    mask_eq := (Table.getElem?_withDefects 1).trans (if_pos (Nat.lt_add_left _ (by decide)))
    entry_bad := fun c hc => by
      have hle := (Layout.mem_clusters_iff.1 (hbad hc)).1
      rw [table_ofBad, Table.getElem?_cluster (hbad hc), Table.freshEntry_of_mem _ hle hc]
      rfl
    entry_free := fun c (hc : c ∈ l.clusters) hgood hother => by
      have hle := (Layout.mem_clusters_iff.1 hc).1
      rw [hcluster] at hother
      rw [table_ofBad, Table.getElem?_cluster hc, Table.freshEntry_free _ hle hgood hother]
    narrow := fun (hw : l.width ≠ .fat32) => by
      refine ⟨?_, hcluster.trans (Layout.rootFor_narrow hw bad), ?_⟩
      · rw [hstart, ofBad_narrow hw]
      · rw [ofBad_narrow hw]
    wide := fun (hw : l.width = .fat32) => by
      obtain ⟨root, hleast⟩ := exists_leastGood hw hroom
      obtain ⟨⟨hrootl, hgood⟩, hbelow⟩ := Layout.leastGood_eq_some_iff.1 hleast
      have hrootFor := (Layout.rootFor_wide hw).trans hleast
      have hfree := card_free (some root) hbad fun r hr =>
        Option.some.inj hr ▸ ⟨hrootl, hgood⟩
      refine ⟨root, infoOf (withDefects l media bad (some root)), ⟨⟨hrootl, hgood⟩, ?_⟩, ?_,
        hcluster.trans hrootFor, ?_, ?_, ?_, nextFree_infoOf hcount root⟩
      · intro c hc
        by_contra hlt
        exact hc.2 (hbelow c hc.1 (Nat.not_le.1 hlt))
      · rw [hstart, ofBad_wide hw hleast]
      · rw [table_ofBad, Table.getElem?_cluster hrootl, hrootFor,
          Table.freshEntry_root _ (Layout.mem_clusters_iff.1 hrootl).1 hgood]
        rfl
      · rw [ofBad_wide hw hleast]
      · rw [toNat_freeClusters hcount, hfree]
        rfl }

/-- The volume after a request to mark the clusters of sectors bad. A request that is refused leaves
it as it was. -/
def afterRequest (v : FreshVolume) (sectors : SectorSet) : FreshVolume :=
  match v.markBad sectors with
  | .ok (after, _) => after
  | .error _ => v

/-- The volume after a sequence of requests. -/
def afterRequests (v : FreshVolume) (requests : List SectorSet) : FreshVolume :=
  requests.foldl afterRequest v

/-- The clusters that the accepted ones of a sequence of requests hit. -/
def acceptedHits (v : FreshVolume) : List SectorSet → Finset Nat
  | [] => ∅
  | sectors :: rest =>
    match v.markBad sectors with
    | .ok (after, _) => v.layout.hit sectors ∪ after.acceptedHits rest
    | .error _ => v.acceptedHits rest

/-- A sequence of requests leaves the bad clusters of before and those that accepted requests hit,
and a cluster for the root directory. The invariant is that the volume is that of its bad clusters,
which leave one for the root directory. -/
theorem afterRequests_ofBad (h : l.Sound)
    (hboot : boot.fat32.isSome = decide (l.width = .fat32)) (media : UInt8)
    (rootDirectory : ByteArray) (requests : List SectorSet) {bad : Finset Nat}
    (hbad : bad ⊆ l.clusters) (hroom : ¬l.Exhausts bad) :
    (ofBad l boot media rootDirectory bad).afterRequests requests =
        ofBad l boot media rootDirectory
          (bad ∪ (ofBad l boot media rootDirectory bad).acceptedHits requests) ∧
      bad ∪ (ofBad l boot media rootDirectory bad).acceptedHits requests ⊆ l.clusters ∧
      ¬l.Exhausts (bad ∪ (ofBad l boot media rootDirectory bad).acceptedHits requests) := by
  induction requests generalizing bad with
  | nil =>
    rw [acceptedHits, Finset.union_empty]
    exact ⟨rfl, hbad, hroom⟩
  | cons sectors rest ih =>
    have hstep := markBad_eq h hboot media rootDirectory hbad hroom sectors
    unfold afterRequests acceptedHits
    rw [List.foldl_cons, afterRequest]
    by_cases hleft : l.Exhausts (bad ∪ l.hit sectors)
    · rw [if_pos hleft] at hstep
      rw [hstep]
      exact ih hbad hroom
    · rw [if_neg hleft] at hstep
      rw [hstep]
      dsimp only
      rw [← Finset.union_assoc]
      exact ih (Finset.union_subset hbad (l.hit_subset sectors)) hleft

end FreshVolume

/-- The boot sector of a fresh FAT32 volume has its root directory on the first cluster. -/
theorem BootSector.rootCluster_fresh (l : Layout) (g : Geometry) (v : VolumeInfo)
    (backup : UInt16) :
    (fresh l g v backup).rootCluster =
      if l.width = .fat32 then some firstRootCluster else none := by
  show (if l.width = .fat32 then some _ else none).map _ = _
  by_cases hw : l.width = .fat32
  · rw [if_pos hw, if_pos hw]
    rfl
  · rw [if_neg hw, if_neg hw]
    rfl

theorem BootSector.rootCluster_of_fat32_eq {boot : BootSector} {l : Layout} {g : Geometry}
    {v : VolumeInfo} {backup : UInt16} (h : boot.fat32 = (fresh l g v backup).fat32) :
    boot.rootCluster = if l.width = .fat32 then some firstRootCluster else none := by
  unfold rootCluster
  rw [h]
  exact rootCluster_fresh l g v backup

namespace FreshVolume

/-- For every device, all options, and whatever the volume and its boot sector record: the volume of
a computed layout is made, and after any sequence of requests to mark sectors bad

* it has the clusters that accepted requests hit as its bad ones, and it is the same volume after
  every other sequence whose accepted requests hit these clusters;
* a further request is refused just if on FAT32 no cluster would be left, and else counts the
  clusters that are newly bad; it never breaks down. -/
theorem markBad_sequence (g : Geometry) (o : Layout.Options) (l : Layout)
    (h : Layout.compute g o = .ok l) (recorded : Geometry) (bootInfo v : VolumeInfo)
    (backup : UInt16) :
    ∃ start, make l (BootSector.fresh l recorded bootInfo backup) v = .ok start ∧
      ∀ requests : List SectorSet,
        HasDefects start v.media (start.acceptedHits requests) (start.afterRequests requests) ∧
        (∀ others, start.acceptedHits others = start.acceptedHits requests →
          start.afterRequests others = start.afterRequests requests) ∧
        ∀ sectors, let bad := start.acceptedHits requests
          if l.width = .fat32 ∧ l.clusters ⊆ bad ∪ l.hit sectors then
            ∃ root, (start.afterRequests requests).boot.rootCluster = some root ∧
              (start.afterRequests requests).markBad sectors =
                refuse (.defect (.noRootCluster root)) ∧
              (start.afterRequests requests).afterRequest sectors = start.afterRequests requests
          else ∃ after, (start.afterRequests requests).markBad sectors =
            .ok (after, (l.hit sectors \ bad).card) := by
  have hsound := Layout.sound_of_compute h
  have hboot := BootSector.isSome_fat32_fresh l recorded bootInfo backup
  have hroot := BootSector.rootCluster_fresh l recorded bootInfo backup
  have hempty := not_exhausts_empty hsound
  refine ⟨_, make_eq hsound hroot v, fun requests => ?_⟩
  have hrun := fun requests => afterRequests_ofBad hsound hboot v.media
    (rootDirectoryOf (l.rootWriteSectors * l.sectorSize) v) requests (Finset.empty_subset _) hempty
  simp only [Finset.empty_union] at hrun
  obtain ⟨hafter, hbad, hroom⟩ := hrun requests
  refine ⟨hafter ▸ hasDefects_ofBad hsound hroot hbad hroom, fun others hsame => ?_,
    fun sectors => ?_⟩
  · rw [hafter, (hrun others).1, hsame]
  · have hstep := markBad_eq hsound hboot v.media
      (rootDirectoryOf (l.rootWriteSectors * l.sectorSize) v) hbad hroom sectors
    rw [← hafter] at hstep
    dsimp only
    split
    · rename_i hleft
      obtain ⟨root, hleast⟩ := exists_leastGood hleft.1 hroom
      have hrootFor := (Layout.rootFor_wide hleft.1).trans hleast
      rw [if_pos (show l.Exhausts _ from hleft), hrootFor, Option.getD_some] at hstep
      refine ⟨root, ?_, hstep, ?_⟩
      · rw [hafter, rootCluster_ofBad hsound hroot hroom, hrootFor]
      · unfold afterRequest
        rw [hstep]
        rfl
    · rename_i hleft
      rw [if_neg (show ¬l.Exhausts _ from hleft)] at hstep
      exact ⟨_, hstep⟩

/-- A FAT32 volume of 1200000 sectors is made, and has the defects that the first sector of its
data makes. -/
theorem markBad_sequence_fat32 :
    ∃ l start, Layout.compute ⟨512, 1200000, ⟨255, 63⟩, 0⟩ {} = .ok l ∧ l.width = .fat32 ∧
      make l (BootSector.fresh l ⟨512, 1200000, ⟨255, 63⟩, 0⟩
        ⟨Label.unnamed, 0, 0x80, 0xF8, Moment.epoch⟩ 6)
        ⟨Label.unnamed, 0, 0x80, 0xF8, Moment.epoch⟩ = .ok start ∧
      HasDefects start 0xF8 (start.acceptedHits [SectorSet.ofList [l.dataStart]])
        (start.afterRequests [SectorSet.ofList [l.dataStart]]) := by
  have hl := Layout.compute_hardDisk
  obtain ⟨start, hmake, hrun⟩ := markBad_sequence _ _ _ hl ⟨512, 1200000, ⟨255, 63⟩, 0⟩
    ⟨Label.unnamed, 0, 0x80, 0xF8, Moment.epoch⟩ ⟨Label.unnamed, 0, 0x80, 0xF8, Moment.epoch⟩ 6
  exact ⟨_, start, hl, rfl, hmake, (hrun [SectorSet.ofList [2384]]).1⟩

end FreshVolume

end FatVolume
