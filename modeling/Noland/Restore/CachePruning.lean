import Noland.Lib.Pruning
import Noland.Lib.Sorting
import Noland.Restore.PackCache

/-!
`prune_local_pack_cache` sorts the packs by their last use and sweeps them against the two
budgets. A pack is eligible if it is old enough, not protected and without a second link.
-/

namespace Noland.Restore

open Noland.Core Noland.Pruning Noland.Sorting

variable {options : PackCacheGcOptions}

def PackCacheGcOptions.within (options : PackCacheGcOptions) (bytes packs : Nat) : Bool :=
  bytes ≤ options.maxBytes ∧ packs ≤ options.maxPacks

theorem PackCacheGcOptions.within_iff {bytes packs : Nat} : options.within bytes packs = true ↔
    bytes ≤ options.maxBytes ∧ packs ≤ options.maxPacks := decide_eq_true_iff

def PackCacheGcOptions.eligible (options : PackCacheGcOptions) (links : Nat → Nat) (now : Nat)
    (pack : CachedPack) : Bool :=
  !(pack.packId ∈ options.protectedPackIds || 1 < links pack.file ||
    !pack.oldEnough options now)

theorem prunePacks_eq_sweep (inUse : CachedPack → Bool) (now : Nat) (packs : List CachedPack)
    (report : PackCacheGcReport) : prunePacks options inUse now packs report =
      ((sweep options.within CachedPack.bytes
          (fun pack => !(inUse pack || !pack.oldEnough options now)) packs
          report.bytesAfter report.packsAfter).2,
        (sweep options.within CachedPack.bytes
          (fun pack => !(inUse pack || !pack.oldEnough options now)) packs
          report.bytesAfter report.packsAfter).1.foldl PackCacheGcReport.drop report) := by
  induction packs generalizing report with
  | nil => rfl
  | cons pack rest ih =>
      unfold prunePacks sweep
      by_cases enough : report.bytesAfter ≤ options.maxBytes ∧ report.packsAfter ≤ options.maxPacks
      · rw [if_pos enough, if_pos (PackCacheGcOptions.within_iff.mpr enough)]
        rfl
      · rw [if_neg enough, if_neg (mt PackCacheGcOptions.within_iff.mp enough)]
        cases passed : inUse pack || !pack.oldEnough options now with
        | true =>
            rw [ih report]
            rfl
        | false => exact ih (report.drop pack)

theorem foldl_drop (removed : List CachedPack) (report : PackCacheGcReport) :
    removed.foldl PackCacheGcReport.drop report =
      { bytesBefore := report.bytesBefore
        bytesAfter := report.bytesAfter - totalOf CachedPack.bytes removed
        packsBefore := report.packsBefore
        packsAfter := report.packsAfter - removed.length
        packsPruned := report.packsPruned + removed.length
        markersPruned := report.markersPruned + removed.countP CachedPack.dropsMarker } := by
  induction removed generalizing report with
  | nil => simp [totalOf]
  | cons pack rest ih =>
      rw [List.foldl_cons, ih]
      simp only [PackCacheGcReport.drop, totalOf, List.map_cons, List.sum_cons, List.length_cons,
        List.countP_cons, PackCacheGcReport.mk.injEq]
      refine ⟨trivial, ?_, trivial, ?_, ?_, ?_⟩
      · omega
      · omega
      · omega
      · omega

theorem olderOrEqual_iff {left right : CachedPack} : left.olderOrEqual right ↔
    thenBy CachedPack.lastUsed (fun left right => left.packId ≤ right.packId) left right :=
  Iff.rfl

theorem olderOrEqual_total (left right : CachedPack) :
    left.olderOrEqual right ∨ right.olderOrEqual left := by
  rw [olderOrEqual_iff, olderOrEqual_iff]
  apply thenBy_total
  intro left right
  exact le_total _ _

theorem olderOrEqual_trans (first second third : CachedPack)
    (lower : first.olderOrEqual second) (upper : second.olderOrEqual third) :
    first.olderOrEqual third := by
  rw [olderOrEqual_iff] at *
  refine thenBy_trans ?_ lower upper
  intro first second third
  exact le_trans

structure PruneExact (options : PackCacheGcOptions) (links : Nat → Nat) (now : Nat)
    (cached removed kept : List CachedPack) (report : PackCacheGcReport) : Prop where
  parts : (removed ++ kept).Perm cached
  unused : ∀ pack ∈ removed, pack.packId ∉ options.protectedPackIds ∧ links pack.file ≤ 1 ∧
    pack.oldEnough options now = true
  /-- The least recently used eligible packs go first. -/
  oldest : removed <+: (cached.insertionSort CachedPack.olderOrEqual).filter
    (options.eligible links now)
  order : ∀ pack ∈ removed, ∀ other ∈ kept, options.eligible links now other = true →
    pack.olderOrEqual other
  needed : ∀ fewer, fewer <+: removed → fewer ≠ removed →
    options.maxBytes < totalOf CachedPack.bytes cached - totalOf CachedPack.bytes fewer ∨
      options.maxPacks < cached.length - fewer.length
  met : totalOf CachedPack.bytes kept ≤ options.maxBytes ∧ kept.length ≤ options.maxPacks ∨
    ∀ pack ∈ kept, options.eligible links now pack = false
  report : report =
    { bytesBefore := totalOf CachedPack.bytes cached
      bytesAfter := totalOf CachedPack.bytes kept
      packsBefore := cached.length
      packsAfter := kept.length
      packsPruned := removed.length
      markersPruned := removed.countP CachedPack.dropsMarker }

theorem pruneLocalPackCache_swept (options : PackCacheGcOptions) (links : Nat → Nat) (now : Nat)
    (cached : List CachedPack) : ∃ removed kept,
      Swept options.within CachedPack.bytes (options.eligible links now)
        (cached.insertionSort CachedPack.olderOrEqual) (totalOf CachedPack.bytes cached)
        cached.length removed kept ∧
      pruneLocalPackCache options links now cached = (kept,
        { bytesBefore := totalOf CachedPack.bytes cached
          bytesAfter := totalOf CachedPack.bytes cached - totalOf CachedPack.bytes removed
          packsBefore := cached.length
          packsAfter := cached.length - removed.length
          packsPruned := removed.length
          markersPruned := removed.countP CachedPack.dropsMarker }) := by
  refine ⟨_, _, swept_sweep _ _ _, ?_⟩
  unfold pruneLocalPackCache
  rw [prunePacks_eq_sweep, foldl_drop]
  simp only [Nat.zero_add]
  rfl

/-- A prune removes nothing that is protected or linked, the oldest packs first and no more
than the budgets ask for, and reports what it did. -/
theorem prune_local_pack_cache_exact (options : PackCacheGcOptions) (links : Nat → Nat)
    (now : Nat) (cached : List CachedPack) : ∃ removed,
      PruneExact options links now cached removed
        (pruneLocalPackCache options links now cached).1
        (pruneLocalPackCache options links now cached).2 := by
  have same := List.perm_insertionSort CachedPack.olderOrEqual cached
  have sorted := pairwise_sorted olderOrEqual_total olderOrEqual_trans cached
  obtain ⟨removed, kept, swept, pruned⟩ := pruneLocalPackCache_swept options links now cached
  have weights := swept.total
  have counts := swept.length
  have total : totalOf CachedPack.bytes (cached.insertionSort CachedPack.olderOrEqual) =
      totalOf CachedPack.bytes cached := (same.map CachedPack.bytes).sum_nat
  rw [total] at weights
  rw [same.length_eq] at counts
  have bytes_left : totalOf CachedPack.bytes cached - totalOf CachedPack.bytes removed =
      totalOf CachedPack.bytes kept := by omega
  have packs_left : cached.length - removed.length = kept.length := by omega
  refine ⟨removed, ?_⟩
  rw [pruned]
  constructor
  · exact swept.parts.trans same
  · intro pack member
    have removable := swept.eligible_of_removed member
    simp only [PackCacheGcOptions.eligible, Bool.not_or, Bool.and_eq_true, Bool.not_eq_true',
      decide_eq_false_iff_not, Bool.not_not, not_lt] at removable
    exact ⟨removable.1.1, removable.1.2, removable.2⟩
  · rw [swept.oldest]
    exact List.prefix_append _ _
  · intro pack member other stays removable
    exact swept.before sorted member stays removable
  · intro fewer shorter different
    have exceeded := swept.needed fewer shorter different
    rw [Bool.eq_false_iff, ne_eq, PackCacheGcOptions.within_iff, not_and_or, not_le,
      not_le] at exceeded
    exact exceeded
  · rcases swept.met with met | none_left
    · left
      rw [PackCacheGcOptions.within_iff, bytes_left, packs_left] at met
      exact met
    · right
      intro pack member
      exact Bool.eq_false_iff.mpr (List.filter_eq_nil_iff.mp none_left pack member)
  · rw [bytes_left, packs_left]

end Noland.Restore
