import PimGraphs.Library.Striping
import PimGraphs.Partition.Chunks

/-!
# Balance of a partition

The chunks are dealt to the vaults in turn, so that the counting pass finds
every vault with its share of the dimensions, give or take one chunk.
-/

namespace PimGraphs

namespace FeaturePartitionResult

/-- The counts of the vaults after some dimensions. -/
def countsOf (numVaults : UInt32) (vaults : List UInt32) : List UInt64 :=
  (List.range numVaults.toNat).map fun v =>
    UInt64.ofNat (vaults.count (UInt32.ofNat v))

variable {numVaults : UInt32} {vaults : List UInt32}

theorem countDim_countsOf
    {v : UInt32}
    (isVault : v < numVaults)
    (vaults : List UInt32) :
    countDim numVaults (countsOf numVaults vaults) v =
      .ok (countsOf numVaults (vaults ++ [v])) := by
  have inside : v.toNat < numVaults.toNat := UInt32.lt_iff_toNat_lt.mp isVault
  unfold countDim
  rw [if_neg (UInt32.not_le.mpr isVault)]
  apply congrArg Except.ok
  apply List.ext_getElem?
  intro index
  simp only [countsOf, List.getElem?_modify, List.getElem?_map,
    List.count_append]
  rcases Nat.lt_or_ge index numVaults.toNat with within | outside
  · have bound := numVaults.toNat_lt
    rw [List.getElem?_range within]
    by_cases same : v.toNat = index
    · subst same
      have own : UInt32.ofNat v.toNat = v := UInt32.ofNat_toNat
      simp [own, UInt64.ofNat_add]
    · have other : v ≠ UInt32.ofNat index := by
        rintro rfl
        apply same
        rw [UInt32.toNat_ofNat', Nat.mod_eq_of_lt (within.trans bound)]
      simp [same, List.count_singleton, other]
  · rw [List.getElem?_eq_none (by rw [List.length_range]; exact outside)]
    rfl

/-- The counting pass counts, as long as every dimension has a vault. -/
theorem foldlM_countDim
    (earlier : List UInt32)
    (inRange : ∀ v ∈ vaults, v < numVaults) :
    vaults.foldlM (countDim numVaults) (countsOf numVaults earlier) =
      .ok (countsOf numVaults (earlier ++ vaults)) := by
  induction vaults generalizing earlier with
  | nil =>
      rw [List.append_nil]
      rfl
  | cons v rest inductionHypothesis =>
      rw [List.foldlM_cons, countDim_countsOf (inRange v List.mem_cons_self)]
      have later := inductionHypothesis (earlier ++ [v]) fun other isOther =>
        inRange other (List.mem_cons_of_mem v isOther)
      rw [List.append_assoc, List.singleton_append] at later
      exact later

theorem dimsPerVault_eq
    (r : FeaturePartitionResult)
    (inRange : ∀ v ∈ r.dimToVault, v < r.numVaults) :
    r.dimsPerVault = .ok (countsOf r.numVaults r.dimToVault) := by
  have empty : List.replicate r.numVaults.toNat (0 : UInt64) =
      countsOf r.numVaults [] := by
    simp only [countsOf, List.count_nil, List.map_const', List.length_range]
    rfl
  rw [dimsPerVault, empty, foldlM_countDim [] inRange, List.nil_append]

/-- A fold that keeps one of two values ends with one of the values. -/
theorem foldl_mem
    {α : Type}
    {keep : α → α → α}
    (choice : ∀ one other, keep one other = one ∨ keep one other = other)
    (first : α)
    (rest : List α) :
    rest.foldl keep first ∈ first :: rest := by
  induction rest generalizing first with
  | nil => exact List.mem_cons_self
  | cons next rest inductionHypothesis =>
      rcases List.mem_cons.mp (inductionHypothesis (keep first next))
        with kept | later
      · rw [List.foldl_cons, kept]
        rcases choice first next with isFirst | isNext
        · rw [isFirst]
          exact List.mem_cons_self
        · rw [isNext]
          exact List.mem_cons_of_mem first List.mem_cons_self
      · exact List.mem_cons_of_mem first (List.mem_cons_of_mem next later)

section Stats

variable {F : Type} [Zero F] [Div F] [NatCast F] [LT F] [DecidableLT F]

/-- The extreme counts are counts of vaults. -/
theorem statsOf_mem
    {counts : List UInt64}
    (some : counts ≠ []) :
    (statsOf counts : PartitionStats F).minDimsPerVault ∈ counts ∧
      (statsOf counts : PartitionStats F).maxDimsPerVault ∈ counts := by
  obtain ⟨first, rest, rfl⟩ := List.exists_cons_of_ne_nil some
  constructor
  · apply foldl_mem
    intro one other
    apply ite_eq_or_eq
  · apply foldl_mem
    intro one other
    exact (ite_eq_or_eq (one ≤ other) other one).symm

end Stats

end FeaturePartitionResult

namespace FeaturePartitionConfig

open FeaturePartitionResult

variable {cfg : FeaturePartitionConfig} {result : FeaturePartitionResult}

/-- The dimensions as a list of the vaults of their stripes. -/
theorem FollowsChunks.dimToVault_eq (follows : cfg.FollowsChunks result) :
    result.dimToVault = (List.range cfg.featureDim.toNat).map fun d =>
      UInt32.ofNat
        (Striping.bin result.chunkSize.toNat cfg.numVaults.toNat d) := by
  apply List.ext_getElem?
  intro d
  rw [List.getElem?_map]
  rcases Nat.lt_or_ge d cfg.featureDim.toNat with inside | outside
  · rw [follows.2 d inside, List.getElem?_range inside]
    rfl
  · rw [List.getElem?_eq_none (by rw [follows.1]; exact outside),
      List.getElem?_eq_none (by rw [List.length_range]; exact outside)]
    rfl

section Counts

variable (accepted : cfg.Accepted) (follows : cfg.FollowsChunks result)
include accepted

theorem numVaults_pos : 0 < cfg.numVaults.toNat :=
  Nat.pos_of_ne_zero fun zero => accepted.numVaults (UInt32.toNat_inj.mp zero)

include follows

theorem lt_numVaults_of_mem : ∀ v ∈ result.dimToVault, v < cfg.numVaults := by
  intro v isVault
  rw [follows.dimToVault_eq] at isVault
  obtain ⟨d, -, rfl⟩ := List.mem_map.mp isVault
  have bound := cfg.numVaults.toNat_lt
  have below : Striping.bin result.chunkSize.toNat cfg.numVaults.toNat d <
      cfg.numVaults.toNat := Nat.mod_lt _ (numVaults_pos accepted)
  rw [UInt32.lt_iff_toNat_lt, UInt32.toNat_ofNat',
    Nat.mod_eq_of_lt (below.trans bound)]
  exact below

/-- A vault is counted as often as its stripes are long. -/
theorem count_dimToVault
    {v : Nat}
    (isVault : v < cfg.numVaults.toNat) :
    result.dimToVault.count (UInt32.ofNat v) =
      Striping.load result.chunkSize.toNat cfg.numVaults.toNat
        cfg.featureDim.toNat v := by
  have bound := cfg.numVaults.toNat_lt
  rw [follows.dimToVault_eq, List.count, List.countP_map, Striping.load,
    Nat.count]
  apply List.countP_congr
  intro d _
  have below : Striping.bin result.chunkSize.toNat cfg.numVaults.toNat d <
      cfg.numVaults.toNat := Nat.mod_lt _ (numVaults_pos accepted)
  simp only [Function.comp_apply, beq_iff_eq, decide_eq_true_eq]
  rw [← UInt32.toNat_inj, UInt32.toNat_ofNat', UInt32.toNat_ofNat',
    Nat.mod_eq_of_lt (below.trans bound),
    Nat.mod_eq_of_lt (isVault.trans bound)]

end Counts

/-! ## The partitions that are made -/

/-- A partition made of stripes of positive width over all the vaults. -/
structure Striped
    (cfg : FeaturePartitionConfig)
    (result : FeaturePartitionResult) : Prop where
  follows : cfg.FollowsChunks result
  numVaults : result.numVaults = cfg.numVaults
  chunkSize : 0 < result.chunkSize.toNat
  rowInterleaved : result.mode = .rowInterleaved → result.chunkSize = 1

/-- A chunk loop that ends makes the same partition with more fuel. -/
theorem makeFeaturePartition_of_le
    {fuel more : Nat}
    (made : cfg.makeFeaturePartition fuel = .ok (some result))
    (enough : fuel ≤ more) :
    cfg.makeFeaturePartition more = .ok (some result) := by
  rw [makeFeaturePartition_eq_ok_iff] at made ⊢
  obtain ⟨last, ends, isResult⟩ := Option.map_eq_some_iff.mp made.2
  have later : cfg.chunkLoop more = some last :=
    WhileLoop.run_of_le ends enough
  rw [later]
  exact ⟨made.1, congrArg some isResult⟩

theorem numChunks_mul_lt
    (accepted : cfg.Accepted)
    (fits : cfg.featureDim.toNat - 1 + cfg.chunkSize.toNat < 2 ^ 32) :
    cfg.numChunks * cfg.chunkSize.toNat < 2 ^ 32 := by
  have spec := numChunks_spec accepted
  omega

theorem exists_makeFeaturePartition
    (accepted : cfg.Accepted)
    (fits : cfg.featureDim.toNat - 1 + cfg.chunkSize.toNat < 2 ^ 32) :
    ∃ enough result,
      (∀ fuel ≥ enough, cfg.makeFeaturePartition fuel = .ok (some result)) ∧
        cfg.Striped result ∧ result.chunkSize = cfg.chunkSize := by
  obtain ⟨enough, last, -, made, length, vaults⟩ :=
    partitions_of_fits accepted (numChunks_mul_lt accepted fits)
  refine ⟨enough, cfg.partitionOf last, ?_, ?_, rfl⟩
  · intro fuel isEnough
    exact makeFeaturePartition_of_le made isEnough
  · constructor
    · exact ⟨length, fun d inside => (vaults d inside).1⟩
    · rfl
    · exact Nat.pos_of_ne_zero fun zero =>
        accepted.chunkSize (UInt32.toNat_inj.mp zero)
    · exact nofun

theorem exists_makeRowInterleaved
    (accepted : cfg.Accepted) :
    ∃ result, cfg.makeRowInterleavedPartition = .ok result ∧
      cfg.Striped result ∧ result.chunkSize = 1 := by
  obtain ⟨result, made, -, sameVaults, one⟩ :=
    exists_makeRowInterleavedPartition accepted
  refine ⟨result, made, ?_, one⟩
  constructor
  · exact followsChunks_of_rowInterleaved made
  · exact sameVaults
  · rw [one]
    decide
  · exact fun _ => one

/-- The hybrid entry point ends with a partition into stripes. -/
theorem exists_hybrid_striped
    (accepted : cfg.Accepted)
    (fits : cfg.featureDim.toNat - 1 + cfg.chunkSize.toNat < 2 ^ 32) :
    ∃ enough result,
      (∀ fuel ≥ enough, cfg.makeHybridPartition fuel = .ok (some result)) ∧
        cfg.Striped result := by
  by_cases small : cfg.featureDim ≤ cfg.hybridThresholdDim
  · obtain ⟨result, made, striped, -⟩ := exists_makeRowInterleaved accepted
    refine ⟨0, result, ?_, striped⟩
    intro fuel _
    rw [makeHybridPartition_of_small accepted small, made]
    rfl
  · obtain ⟨enough, result, made, striped, -⟩ :=
      exists_makeFeaturePartition accepted fits
    refine ⟨enough, result, ?_, striped⟩
    intro fuel isEnough
    rw [makeHybridPartition_of_large accepted small]
    exact made fuel isEnough

/-! ## Their counts -/

/-- All dimensions are counted, no vault is more than a chunk ahead of
another, and the vaults get the same when the chunks come out even. -/
structure Balanced
    (cfg : FeaturePartitionConfig)
    (result : FeaturePartitionResult)
    (counts : List UInt64) : Prop where
  counted : result.dimsPerVault = .ok counts
  length : counts.length = cfg.numVaults.toNat
  sum : (counts.map UInt64.toNat).sum = cfg.featureDim.toNat
  spread : ∀ one ∈ counts, ∀ other ∈ counts,
    one.toNat ≤ other.toNat + result.chunkSize.toNat
  even : cfg.numVaults.toNat * result.chunkSize.toNat ∣
      cfg.featureDim.toNat →
    ∀ one ∈ counts, ∀ other ∈ counts, one = other

/-- The count of a vault is the load of its stripes. -/
theorem Striped.toNat_count
    (accepted : cfg.Accepted)
    (striped : cfg.Striped result)
    {v : Nat}
    (isVault : v < cfg.numVaults.toNat) :
    (UInt64.ofNat (result.dimToVault.count (UInt32.ofNat v))).toNat =
      Striping.load result.chunkSize.toNat cfg.numVaults.toNat
        cfg.featureDim.toNat v := by
  have bound := cfg.featureDim.toNat_lt
  have most := List.count_le_length (a := UInt32.ofNat v)
    (l := result.dimToVault)
  rw [striped.follows.1] at most
  rw [UInt64.toNat_ofNat', Nat.mod_eq_of_lt (by omega),
    count_dimToVault accepted striped.follows isVault]

theorem Striped.balanced
    (accepted : cfg.Accepted)
    (striped : cfg.Striped result) :
    cfg.Balanced result (countsOf result.numVaults result.dimToVault) := by
  have load {count : UInt64}
      (isCount : count ∈ countsOf result.numVaults result.dimToVault) :
      ∃ v < cfg.numVaults.toNat, count.toNat =
        Striping.load result.chunkSize.toNat cfg.numVaults.toNat
          cfg.featureDim.toNat v := by
    obtain ⟨v, isVault, rfl⟩ := List.mem_map.mp isCount
    rw [striped.numVaults, List.mem_range] at isVault
    exact ⟨v, isVault, striped.toNat_count accepted isVault⟩
  constructor
  · apply dimsPerVault_eq
    rw [striped.numVaults]
    exact lt_numVaults_of_mem accepted striped.follows
  · rw [countsOf, List.length_map, List.length_range, striped.numVaults]
  · have loads : (countsOf result.numVaults result.dimToVault).map
        UInt64.toNat =
        (List.range cfg.numVaults.toNat).map
          (Striping.load result.chunkSize.toNat cfg.numVaults.toNat
            cfg.featureDim.toNat) := by
      rw [countsOf, List.map_map, striped.numVaults]
      apply List.map_congr_left
      intro v isVault
      exact striped.toNat_count accepted (List.mem_range.mp isVault)
    have all : ((List.range cfg.numVaults.toNat).map
        (Striping.load result.chunkSize.toNat cfg.numVaults.toNat
          cfg.featureDim.toNat)).sum = cfg.featureDim.toNat :=
      Striping.sum_load (numVaults_pos accepted) cfg.featureDim.toNat
    rw [loads, all]
  · intro one isOne other isOther
    obtain ⟨v, isVault, oneLoad⟩ := load isOne
    obtain ⟨w, isOtherVault, otherLoad⟩ := load isOther
    rw [oneLoad, otherLoad]
    exact Striping.load_le_load_add striped.chunkSize isVault isOtherVault
  · intro even one isOne other isOther
    obtain ⟨v, isVault, oneLoad⟩ := load isOne
    obtain ⟨w, isOtherVault, otherLoad⟩ := load isOther
    apply UInt64.toNat_inj.mp
    rw [oneLoad, otherLoad,
      Striping.load_of_dvd striped.chunkSize isVault even,
      Striping.load_of_dvd striped.chunkSize isOtherVault even]

/-- The extreme counts of a balanced partition. -/
theorem Balanced.exists_stats
    {F : Type} [Zero F] [Div F] [NatCast F] [LT F] [DecidableLT F]
    {counts : List UInt64}
    (balanced : cfg.Balanced result counts)
    (accepted : cfg.Accepted) :
    ∃ stats : PartitionStats F, result.computePartitionStats = .ok stats ∧
      stats.maxDimsPerVault.toNat ≤
        stats.minDimsPerVault.toNat + result.chunkSize.toNat := by
  have some : counts ≠ [] := by
    apply List.ne_nil_of_length_pos
    rw [balanced.length]
    exact numVaults_pos accepted
  obtain ⟨least, most⟩ := statsOf_mem (F := F) some
  refine ⟨statsOf counts, ?_, balanced.spread _ most _ least⟩
  rw [computePartitionStats, balanced.counted]
  rfl

/-- The hybrid entry point ends with a balanced partition, whose extreme
counts are at most a chunk apart, and at most one when row-interleaved. -/
def MakesBalanced
    (F : Type) [Zero F] [Div F] [NatCast F] [LT F] [DecidableLT F]
    (cfg : FeaturePartitionConfig) : Prop :=
  ∃ enough result counts, ∃ stats : PartitionStats F,
    (∀ fuel ≥ enough, cfg.makeHybridPartition fuel = .ok (some result)) ∧
      cfg.Balanced result counts ∧
        result.computePartitionStats = .ok stats ∧
          stats.maxDimsPerVault.toNat ≤
              stats.minDimsPerVault.toNat + result.chunkSize.toNat ∧
            (result.mode = .rowInterleaved →
              stats.maxDimsPerVault.toNat ≤
                stats.minDimsPerVault.toNat + 1)

/-- Feature partitioning assigns the vaults of row interleaving. -/
def MakesRows (cfg : FeaturePartitionConfig) : Prop :=
  ∃ enough made row,
    (∀ fuel ≥ enough, cfg.makeFeaturePartition fuel = .ok (some made)) ∧
      cfg.makeRowInterleavedPartition = .ok row ∧
        made.dimToVault = row.dimToVault

/-- When the end of the last chunk fits 32 bits, the hybrid entry point makes
a balanced partition, and chunks of one dimension are row interleaving. -/
theorem makesBalanced_of_fits
    {F : Type} [Zero F] [Div F] [NatCast F] [LT F] [DecidableLT F]
    (cfg : FeaturePartitionConfig)
    (accepted : cfg.Accepted)
    (fits : cfg.featureDim.toNat - 1 + cfg.chunkSize.toNat < 2 ^ 32) :
    cfg.MakesBalanced F ∧ (cfg.chunkSize = 1 → cfg.MakesRows) := by
  constructor
  · obtain ⟨enough, result, made, striped⟩ :=
      exists_hybrid_striped accepted fits
    have balanced := striped.balanced accepted
    obtain ⟨stats, reported, spread⟩ :=
      balanced.exists_stats (F := F) accepted
    refine ⟨enough, result, _, stats, made, balanced, reported, spread, ?_⟩
    intro rows
    rw [striped.rowInterleaved rows] at spread
    exact spread
  · intro one
    obtain ⟨enough, made, isMade, madeStriped, madeSize⟩ :=
      exists_makeFeaturePartition accepted fits
    obtain ⟨row, isRow, rowStriped, rowSize⟩ :=
      exists_makeRowInterleaved accepted
    refine ⟨enough, made, row, isMade, isRow, ?_⟩
    rw [madeStriped.follows.dimToVault_eq, rowStriped.follows.dimToVault_eq,
      madeSize, rowSize, one]

/-- Ten dimensions in chunks of three, the last one short, over three
vaults. -/
def shortLastChunk : FeaturePartitionConfig :=
  { numVaults := 3, featureDim := 10, chunkSize := 3, hybridThresholdDim := 0 }

theorem shortLastChunk_makesBalanced :
    shortLastChunk.MakesBalanced ℚ ∧
      (shortLastChunk.chunkSize = 1 → shortLastChunk.MakesRows) :=
  makesBalanced_of_fits shortLastChunk (by constructor <;> decide) (by decide)

end FeaturePartitionConfig

end PimGraphs
