import Mathlib.Data.List.Destutter
import Mathlib.Data.Prod.Lex

/-!
From `services/display_profile.rs`: the modes that are advertised beside a preferred one. The
family of a display is chosen by ratios of doubles, which are left open here.
-/

namespace Noland.Desktop

structure DisplayModeSpec where
  width : Nat
  height : Nat
  refreshMillihz : Nat
  deriving DecidableEq

def standardFallbackRefreshMillihz : Nat := 60000

inductive AspectFamily where
  | widescreen16By9
  | widescreen16By10
  | ultrawide
  | superUltrawide
  | standard4By3
  deriving DecidableEq

def AspectFamily.resolutions : AspectFamily → List (Nat × Nat)
  | .widescreen16By9 =>
      [(7680, 4320), (3840, 2160), (2560, 1440), (1920, 1080), (1600, 900), (1366, 768),
        (1280, 720), (854, 480), (640, 360)]
  | .widescreen16By10 =>
      [(3840, 2400), (2560, 1600), (1920, 1200), (1680, 1050), (1440, 900), (1280, 800),
        (960, 600), (640, 400)]
  | .ultrawide =>
      [(5120, 2160), (3840, 1600), (3440, 1440), (2560, 1080), (1920, 800), (1280, 540)]
  | .superUltrawide => [(7680, 2160), (5120, 1440), (3840, 1080), (2560, 720), (1920, 540)]
  | .standard4By3 =>
      [(4096, 3072), (2048, 1536), (1600, 1200), (1280, 960), (1024, 768), (800, 600),
        (640, 480), (320, 240)]

def familiarResolutions : List (Nat × Nat) := [(1920, 1080), (1600, 900), (1280, 720), (1024, 768)]

def standardTimingRepresentable (mode : DisplayModeSpec) : Bool :=
  (256 ≤ mode.width && mode.width ≤ 2288 && mode.width % 8 = 0) &&
    mode.refreshMillihz % 1000 = 0 &&
    (60 ≤ mode.refreshMillihz / 1000 && mode.refreshMillihz / 1000 ≤ 123) &&
    (mode.width * 10 = mode.height * 16 || mode.width * 3 = mode.height * 4 ||
      mode.width * 4 = mode.height * 5 || mode.width * 9 = mode.height * 16)

def fallbackModes (preferred : DisplayModeSpec) (resolutions : List (Nat × Nat)) :
    List DisplayModeSpec :=
  (resolutions.map fun (width, height) =>
      (⟨width, height, standardFallbackRefreshMillihz⟩ : DisplayModeSpec)).filter fun mode =>
    (mode.width ≤ preferred.width && mode.height ≤ preferred.height) &&
      standardTimingRepresentable mode

def compareModes (left right preferred : DisplayModeSpec) : Ordering :=
  if left = preferred ∧ right ≠ preferred then .lt
  else if left ≠ preferred ∧ right = preferred then .gt
  else
    (compare (right.width * right.height) (left.width * left.height)).then
      ((compare right.width left.width).then
        ((compare right.height left.height).then
          (compare right.refreshMillihz left.refreshMillihz)))

def sortedModes (preferred : DisplayModeSpec) (modes : List DisplayModeSpec) :
    List DisplayModeSpec :=
  (modes.mergeSort fun left right => (compareModes left right preferred).isLE).destutter (· ≠ ·)

def commonModeCatalog (family : Nat → Nat → AspectFamily) (preferred : DisplayModeSpec) :
    List DisplayModeSpec :=
  preferred ::
    ((sortedModes preferred
        (preferred :: fallbackModes preferred
            (family preferred.width preferred.height).resolutions ++
          fallbackModes preferred familiarResolutions)).filter fun mode =>
      mode ≠ preferred).take 8

def modeRank (preferred mode : DisplayModeSpec) : Nat ×ₗ Nat ×ₗ Nat ×ₗ Nat ×ₗ Nat :=
  toLex (if mode = preferred then 1 else 0, toLex (mode.width * mode.height,
    toLex (mode.width, toLex (mode.height, mode.refreshMillihz))))

theorem then_isLE (first second : Ordering) :
    (first.then second).isLE = true ↔ first = .lt ∨ first = .eq ∧ second.isLE = true := by
  cases first <;> simp

theorem compareModes_isLE (left right preferred : DisplayModeSpec) :
    (compareModes left right preferred).isLE = true ↔
      modeRank preferred right ≤ modeRank preferred left := by
  rw [modeRank, modeRank, compareModes]
  by_cases first : left = preferred
  · by_cases second : right = preferred
    · simp [first, second]
    · simp [first, second, Prod.Lex.toLex_le_toLex]
  · by_cases second : right = preferred
    · simp [first, second, Prod.Lex.toLex_le_toLex]
    · simp [first, second, then_isLE, Prod.Lex.toLex_le_toLex, Nat.isLE_compare,
        Nat.compare_eq_lt]

theorem modeRank_injective {preferred left right : DisplayModeSpec}
    (same : modeRank preferred left = modeRank preferred right) : left = right := by
  rw [modeRank, modeRank] at same
  simp only [EmbeddingLike.apply_eq_iff_eq, Prod.mk.injEq] at same
  obtain ⟨-, -, width, height, refresh⟩ := same
  cases left
  cases right
  simp_all

theorem nodup_of_sorted {preferred : DisplayModeSpec} {modes : List DisplayModeSpec}
    (sorted : modes.Pairwise fun left right => modeRank preferred right ≤ modeRank preferred left)
    (chain : modes.IsChain (· ≠ ·)) : modes.Nodup := by
  induction modes with
  | nil => exact List.nodup_nil
  | cons first rest ih =>
      obtain ⟨below, tail⟩ := List.pairwise_cons.mp sorted
      cases rest with
      | nil => exact List.nodup_singleton first
      | cons second others =>
          obtain ⟨apart, links⟩ := List.isChain_cons_cons.mp chain
          refine List.nodup_cons.mpr ⟨?_, ih tail links⟩
          intro member
          have under : modeRank preferred first ≤ modeRank preferred second := by
            rcases List.mem_cons.mp member with same | later
            · exact absurd same apart
            · exact (List.pairwise_cons.mp tail).1 first later
          exact apart (modeRank_injective (le_antisymm under (below second List.mem_cons_self)))

theorem nodup_sortedModes (preferred : DisplayModeSpec) (modes : List DisplayModeSpec) :
    (sortedModes preferred modes).Nodup := by
  have ordered : (modes.mergeSort fun left right =>
      (compareModes left right preferred).isLE).Pairwise fun left right =>
        (compareModes left right preferred).isLE = true := List.pairwise_mergeSort
    (fun first second third below further => by
      rw [compareModes_isLE] at *
      exact further.trans below)
    (fun first second => by
      rw [Bool.or_eq_true, compareModes_isLE, compareModes_isLE]
      exact le_total _ _) modes
  have sorted := ordered.imp fun below => (compareModes_isLE _ _ _).mp below
  exact nodup_of_sorted (sorted.sublist (List.destutter_sublist _ _))
    (List.isChain_destutter _ _)

theorem mem_fallbackModes {preferred mode : DisplayModeSpec} {resolutions : List (Nat × Nat)}
    (member : mode ∈ fallbackModes preferred resolutions) :
    mode.width ≤ preferred.width ∧ mode.height ≤ preferred.height := by
  rw [fallbackModes, List.mem_filter, Bool.and_eq_true, Bool.and_eq_true] at member
  exact ⟨of_decide_eq_true member.2.1.1, of_decide_eq_true member.2.1.2⟩

theorem nodup_catalog (family : Nat → Nat → AspectFamily) (preferred : DisplayModeSpec) :
    (commonModeCatalog family preferred).Nodup := by
  rw [commonModeCatalog, List.nodup_cons]
  constructor
  · intro member
    have kept := (List.mem_filter.mp (List.mem_of_mem_take member)).2
    simp at kept
  · exact ((nodup_sortedModes preferred _).filter _).sublist (List.take_sublist _ _)

theorem catalog_fits (family : Nat → Nat → AspectFamily) {preferred mode : DisplayModeSpec}
    (member : mode ∈ commonModeCatalog family preferred) :
    mode.width ≤ preferred.width ∧ mode.height ≤ preferred.height := by
  rw [commonModeCatalog, List.mem_cons] at member
  rcases member with same | taken
  · rw [same]
    exact ⟨Nat.le_refl _, Nat.le_refl _⟩
  · have sorted := (List.mem_filter.mp (List.mem_of_mem_take taken)).1
    rw [sortedModes] at sorted
    have listed := List.mem_mergeSort.mp ((List.destutter_sublist _ _).subset sorted)
    rw [List.cons_append, List.mem_cons, List.mem_append] at listed
    rcases listed with same | ofFamily | familiar
    · rw [same]
      exact ⟨Nat.le_refl _, Nat.le_refl _⟩
    · exact mem_fallbackModes ofFamily
    · exact mem_fallbackModes familiar

end Noland.Desktop
