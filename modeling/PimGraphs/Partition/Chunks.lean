import Mathlib.Data.List.Nodup
import Mathlib.Data.List.Range
import PimGraphs.Library.Sweep
import PimGraphs.Partition.FeaturePartitioner

/-!
# The chunk loop

As long as the end of every chunk fits 32 bits, a pass assigns the next chunk,
and the loop assigns every dimension once, to the vault of its chunk.  If the
end of the last chunk does not fit, the pass for it assigns nothing and starts
over inside the first chunk, which has been assigned before.
-/

namespace PimGraphs

theorem getElem?_foldl_set_range'
    {α : Type}
    (values : List α)
    (value : α)
    (start count index : Nat) :
    ((List.range' start count).foldl (fun values i => values.set i value)
        values)[index]? =
      if start ≤ index ∧ index < start + count ∧ index < values.length then
        some value
      else values[index]? := by
  induction count generalizing values start with
  | zero =>
      rw [if_neg (by omega)]
      rfl
  | succ count inductionHypothesis =>
      rw [List.range'_succ, List.foldl_cons, inductionHypothesis,
        List.length_set]
      by_cases here : start = index
      · subst here
        rw [if_neg (by omega), List.getElem?_set_self']
        split
        case isTrue inside =>
          rw [List.getElem?_eq_getElem inside.2.2]
          rfl
        case isFalse outside =>
          rw [List.getElem?_eq_none (by omega)]
          rfl
      · rw [List.getElem?_set_ne here]
        refine if_congr ?_ rfl rfl
        omega

theorem length_foldl_set
    {α : Type}
    (values : List α)
    (value : α)
    (indices : List Nat) :
    (indices.foldl (fun values i => values.set i value) values).length =
      values.length := by
  apply Sweep.observe_foldl (fun reached : List α => reached.length)
  intro reached index
  apply List.length_set

theorem range_append_range'
    {first last : Nat}
    (before : first ≤ last) :
    List.range first ++ List.range' first (last - first) =
      List.range last := by
  have parts : List.range' 0 first ++ List.range' (0 + first) (last - first) =
      List.range' 0 (first + (last - first)) := List.range'_append_1
  rw [Nat.zero_add, Nat.add_sub_cancel' before] at parts
  rw [List.range_eq_range', List.range_eq_range', parts]

namespace FeaturePartitionConfig

variable (cfg : FeaturePartitionConfig)

/-- Number of chunks, the last one possibly partial. -/
def numChunks : Nat :=
  (cfg.featureDim.toNat + cfg.chunkSize.toNat - 1) / cfg.chunkSize.toNat

/-- The vault the chunk of a dimension belongs to. -/
def chunkVault (d : Nat) : UInt32 :=
  UInt32.ofNat (d / cfg.chunkSize.toNat % cfg.numVaults.toNat)

/-- The chunk loop ends and assigns every dimension once, to the vault of its
chunk. -/
def Partitions : Prop :=
  ∃ fuel last,
    cfg.chunkLoop fuel = some last ∧
      cfg.makeFeaturePartition fuel = .ok (some (cfg.partitionOf last)) ∧
        (cfg.partitionOf last).dimToVault.length = cfg.featureDim.toNat ∧
          ∀ d < cfg.featureDim.toNat,
            (cfg.partitionOf last).dimToVault[d]? =
                some (cfg.chunkVault d) ∧
              last.assigned.count d = 1

/-- The state of the loop after some chunks. -/
structure Chunked (chunks : Nat) (state : ChunkState) : Prop where
  start : state.start.toNat = chunks * cfg.chunkSize.toNat
  chunkId : state.chunkId.toNat = chunks
  length : state.dimToVault.length = cfg.featureDim.toNat
  assigned : state.assigned =
    List.range (min cfg.featureDim.toNat (chunks * cfg.chunkSize.toNat))
  vaults : ∀ d < cfg.featureDim.toNat, d < chunks * cfg.chunkSize.toNat →
    state.dimToVault[d]? = some (cfg.chunkVault d)

/-- The loop has started over in the first chunk, or has assigned some
dimension twice. -/
def Repeats (state : ChunkState) : Prop :=
  (state.start.toNat < cfg.chunkSize.toNat ∧
      ∀ d < cfg.chunkSize.toNat, 1 ≤ state.assigned.count d) ∨
    ∃ d < cfg.featureDim.toNat, 2 ≤ state.assigned.count d

variable {cfg} {state : ChunkState} {chunks : Nat}

theorem moreChunks_iff :
    cfg.moreChunks state = true ↔
      state.start.toNat < cfg.featureDim.toNat := by
  rw [moreChunks, decide_eq_true_eq, UInt32.lt_iff_toNat_lt]

/-- The end of a chunk, when it fits. -/
theorem toNat_chunkEnd
    {start : UInt32}
    (fits : start.toNat + cfg.chunkSize.toNat < 2 ^ 32) :
    (cfg.chunkEnd start).toNat =
      min cfg.featureDim.toNat (start.toNat + cfg.chunkSize.toNat) := by
  have stop : (start + cfg.chunkSize).toNat =
      start.toNat + cfg.chunkSize.toNat := by
    rw [UInt32.toNat_add]
    omega
  unfold chunkEnd
  split
  case isTrue inside =>
    rw [UInt32.lt_iff_toNat_lt, stop] at inside
    rw [stop]
    omega
  case isFalse outside =>
    rw [UInt32.lt_iff_toNat_lt, stop] at outside
    omega

theorem chunked_zero :
    cfg.Chunked 0 { dimToVault := List.replicate cfg.featureDim.toNat 0 } := by
  refine ⟨?_, rfl, List.length_replicate, ?_, ?_⟩
  · rw [Nat.zero_mul]
    rfl
  · rw [Nat.zero_mul, Nat.min_zero]
    rfl
  · intro d _ early
    omega

/-- The vault of a chunk. -/
theorem chunkId_mod_eq_chunkVault
    {d : Nat}
    (chunked : cfg.Chunked chunks state)
    (first : chunks * cfg.chunkSize.toNat ≤ d)
    (last : d < (chunks + 1) * cfg.chunkSize.toNat) :
    state.chunkId % cfg.numVaults = cfg.chunkVault d := by
  have chunk : d / cfg.chunkSize.toNat = chunks :=
    Nat.div_eq_of_lt_le first last
  have bound := state.chunkId.toNat_lt
  have less := Nat.mod_le chunks cfg.numVaults.toNat
  rw [chunked.chunkId] at bound
  apply UInt32.toNat_inj.mp
  rw [chunkVault, chunk, UInt32.toNat_mod, chunked.chunkId,
    UInt32.toNat_ofNat', Nat.mod_eq_of_lt (less.trans_lt bound)]

/-- A pass assigns the next chunk. -/
theorem Chunked.assignChunk
    (chunked : cfg.Chunked chunks state)
    (positive : cfg.chunkSize ≠ 0)
    (more : chunks * cfg.chunkSize.toNat < cfg.featureDim.toNat)
    (fits : (chunks + 1) * cfg.chunkSize.toNat < 2 ^ 32) :
    cfg.Chunked (chunks + 1) (cfg.assignChunk state) := by
  have size : 0 < cfg.chunkSize.toNat :=
    Nat.pos_of_ne_zero fun zero => positive (UInt32.toNat_inj.mp zero)
  have next : (chunks + 1) * cfg.chunkSize.toNat =
      chunks * cfg.chunkSize.toNat + cfg.chunkSize.toNat := Nat.succ_mul _ _
  have fewer : chunks + 1 ≤ (chunks + 1) * cfg.chunkSize.toNat :=
    Nat.le_mul_of_pos_right _ size
  have start := chunked.start
  have stop : (cfg.chunkEnd state.start).toNat =
      min cfg.featureDim.toNat
        (state.start.toNat + cfg.chunkSize.toNat) :=
    toNat_chunkEnd (by omega)
  constructor
  · rw [FeaturePartitionConfig.assignChunk, UInt32.toNat_add]
    omega
  · have counted := chunked.chunkId
    rw [FeaturePartitionConfig.assignChunk, UInt32.toNat_add, counted]
    exact Nat.mod_eq_of_lt (fewer.trans_lt fits)
  · exact (length_foldl_set _ _ _).trans chunked.length
  · simp only [FeaturePartitionConfig.assignChunk]
    rw [chunked.assigned, stop, start, ← next, Nat.min_eq_right more.le,
      range_append_range']
    omega
  · intro d inside before
    simp only [FeaturePartitionConfig.assignChunk]
    rw [getElem?_foldl_set_range', stop, start, chunked.length]
    split
    case isTrue here =>
      rw [chunkId_mod_eq_chunkVault chunked here.1 before]
    case isFalse elsewhere => exact chunked.vaults d inside (by omega)

/-- The state after some passes, while no chunk is past the end. -/
theorem chunked_iterate
    (positive : cfg.chunkSize ≠ 0)
    (more : ∀ earlier < chunks,
      earlier * cfg.chunkSize.toNat < cfg.featureDim.toNat)
    (fits : chunks * cfg.chunkSize.toNat < 2 ^ 32) :
    cfg.Chunked chunks (cfg.assignChunk^[chunks]
      { dimToVault := List.replicate cfg.featureDim.toNat 0 }) := by
  induction chunks with
  | zero => exact chunked_zero
  | succ chunks inductionHypothesis =>
      have next : (chunks + 1) * cfg.chunkSize.toNat =
          chunks * cfg.chunkSize.toNat + cfg.chunkSize.toNat :=
        Nat.succ_mul _ _
      have before := inductionHypothesis
        (fun earlier isEarlier => more earlier (Nat.lt_succ_of_lt isEarlier))
        (by omega)
      rw [Function.iterate_succ_apply']
      exact before.assignChunk positive (more chunks (Nat.lt_succ_self _)) fits

/-- All chunks but the last end before the last dimension. -/
theorem numChunks_spec (accepted : cfg.Accepted) :
    cfg.featureDim.toNat ≤ cfg.numChunks * cfg.chunkSize.toNat ∧
      cfg.numChunks * cfg.chunkSize.toNat <
        cfg.featureDim.toNat + cfg.chunkSize.toNat ∧
          0 < cfg.numChunks := by
  have size : 0 < cfg.chunkSize.toNat :=
    Nat.pos_of_ne_zero fun zero =>
      accepted.chunkSize (UInt32.toNat_inj.mp zero)
  have dims : 0 < cfg.featureDim.toNat :=
    Nat.pos_of_ne_zero fun zero =>
      accepted.featureDim (UInt32.toNat_inj.mp zero)
  have below := Nat.div_mul_le_self
    (cfg.featureDim.toNat + cfg.chunkSize.toNat - 1) cfg.chunkSize.toNat
  have above := Nat.lt_div_mul_add
    (a := cfg.featureDim.toNat + cfg.chunkSize.toNat - 1) size
  refine ⟨?_, ?_, Nat.div_pos (by omega) size⟩
  · unfold numChunks
    omega
  · unfold numChunks
    omega

/-- A chunk before the last starts inside the dimensions. -/
theorem mul_lt_featureDim
    (accepted : cfg.Accepted)
    {earlier : Nat}
    (before : earlier < cfg.numChunks) :
    earlier * cfg.chunkSize.toNat < cfg.featureDim.toNat := by
  have spec := numChunks_spec accepted
  have next : (earlier + 1) * cfg.chunkSize.toNat =
      earlier * cfg.chunkSize.toNat + cfg.chunkSize.toNat := Nat.succ_mul _ _
  have bound : (earlier + 1) * cfg.chunkSize.toNat ≤
      cfg.numChunks * cfg.chunkSize.toNat := Nat.mul_le_mul_right _ before
  omega

/-- When the end of the last chunk fits, the loop assigns all chunks. -/
theorem partitions_of_fits
    (accepted : cfg.Accepted)
    (fits : cfg.numChunks * cfg.chunkSize.toNat < 2 ^ 32) :
    cfg.Partitions := by
  let passed := fun chunks => cfg.assignChunk^[chunks]
    { dimToVault := List.replicate cfg.featureDim.toNat 0 }
  have spec := numChunks_spec accepted
  have chunked : ∀ chunks ≤ cfg.numChunks,
      cfg.Chunked chunks (passed chunks) := by
    intro chunks few
    apply chunked_iterate accepted.chunkSize
    · intro earlier before
      exact mul_lt_featureDim accepted (before.trans_le few)
    · exact (Nat.mul_le_mul_right _ few).trans_lt fits
  have continues : ∀ earlier < cfg.numChunks,
      cfg.moreChunks (passed earlier) = true := by
    intro earlier before
    rw [moreChunks_iff, (chunked earlier before.le).start]
    exact mul_lt_featureDim accepted before
  have last := chunked cfg.numChunks (Nat.le_refl _)
  have stops : cfg.moreChunks (passed cfg.numChunks) = false := by
    rw [Bool.eq_false_iff, ne_eq, moreChunks_iff, last.start]
    omega
  have ends : cfg.chunkLoop (1 + cfg.numChunks) =
      some (passed cfg.numChunks) := by
    rw [chunkLoop, WhileLoop.run_add continues]
    exact WhileLoop.run_of_not_test stops 0
  refine ⟨1 + cfg.numChunks, passed cfg.numChunks, ends, ?_, last.length, ?_⟩
  · rw [makeFeaturePartition_eq_ok_iff, ends]
    exact ⟨accepted, rfl⟩
  · intro d inside
    refine ⟨last.vaults d inside (by omega), ?_⟩
    rw [last.assigned, Nat.min_eq_left spec.1]
    exact List.count_eq_one_of_mem List.nodup_range (List.mem_range.mpr inside)

/-- Assigning a chunk forgets no assignment. -/
theorem count_le_count_assignChunk (state : ChunkState) (d : Nat) :
    state.assigned.count d ≤ (cfg.assignChunk state).assigned.count d := by
  simp only [assignChunk, List.count_append]
  omega

/-- A loop that has started over keeps starting over until it assigns a
dimension again. -/
theorem Repeats.assignChunk
    (several : cfg.chunkSize.toNat < cfg.featureDim.toNat)
    (repeats : cfg.Repeats state) :
    cfg.Repeats (cfg.assignChunk state) := by
  rcases repeats with ⟨inFirst, assigned⟩ | ⟨d, inside, twice⟩
  · rcases Nat.lt_or_ge (state.start.toNat + cfg.chunkSize.toNat) (2 ^ 32)
      with fits | wraps
    · -- The pass assigns the dimension it starts at once more.
      right
      have stop := toNat_chunkEnd fits
      have again : state.start.toNat ∈
          List.range' state.start.toNat
            ((cfg.chunkEnd state.start).toNat - state.start.toNat) := by
        rw [List.mem_range'_1]
        omega
      have once := assigned state.start.toNat inFirst
      have more := List.count_pos_iff.mpr again
      refine ⟨state.start.toNat, by omega, ?_⟩
      simp only [FeaturePartitionConfig.assignChunk, List.count_append]
      omega
    · -- The end of the chunk wraps to a smaller start.
      left
      have bound := cfg.chunkSize.toNat_lt
      refine ⟨?_, ?_⟩
      · rw [FeaturePartitionConfig.assignChunk, UInt32.toNat_add]
        omega
      · intro d inChunk
        exact (assigned d inChunk).trans (count_le_count_assignChunk state d)
  · right
    exact ⟨d, inside, twice.trans (count_le_count_assignChunk state d)⟩

/-- When the end of the last chunk does not fit, the pass for it assigns
nothing and leads back into the first chunk. -/
theorem Chunked.repeats
    (chunked : cfg.Chunked chunks state)
    (inside : chunks * cfg.chunkSize.toNat < cfg.featureDim.toNat)
    (positive : 0 < chunks)
    (wraps : 2 ^ 32 ≤ (chunks + 1) * cfg.chunkSize.toNat) :
    cfg.Repeats (cfg.assignChunk state) := by
  have next : (chunks + 1) * cfg.chunkSize.toNat =
      chunks * cfg.chunkSize.toNat + cfg.chunkSize.toNat := Nat.succ_mul _ _
  have several : cfg.chunkSize.toNat ≤ chunks * cfg.chunkSize.toNat :=
    Nat.le_mul_of_pos_left _ positive
  have bound := cfg.chunkSize.toNat_lt
  have dims := cfg.featureDim.toNat_lt
  left
  constructor
  · rw [FeaturePartitionConfig.assignChunk, UInt32.toNat_add, chunked.start]
    omega
  · intro d inChunk
    have once : state.assigned.count d = 1 := by
      rw [chunked.assigned, Nat.min_eq_right inside.le]
      exact List.count_eq_one_of_mem List.nodup_range
        (List.mem_range.mpr (by omega))
    exact once.ge.trans (count_le_count_assignChunk state d)

/-- A loop that ends and assigns every dimension once has chunks that fit. -/
theorem fits_of_partitions
    (accepted : cfg.Accepted)
    (partitions : cfg.Partitions) :
    cfg.numChunks * cfg.chunkSize.toNat < 2 ^ 32 := by
  obtain ⟨fuel, last, ends, -, -, result⟩ := partitions
  by_contra wraps
  have spec := numChunks_spec accepted
  have bound := cfg.chunkSize.toNat_lt
  obtain ⟨chunks, isLast⟩ := Nat.exists_eq_add_one.mpr spec.2.2
  have next : (chunks + 1) * cfg.chunkSize.toNat =
      chunks * cfg.chunkSize.toNat + cfg.chunkSize.toNat := Nat.succ_mul _ _
  have dims := cfg.featureDim.toNat_lt
  rw [isLast] at wraps spec
  have positive : 0 < chunks := by
    rcases Nat.eq_zero_or_pos chunks with rfl | positive
    · omega
    · exact positive
  have several : cfg.chunkSize.toNat ≤ chunks * cfg.chunkSize.toNat :=
    Nat.le_mul_of_pos_left _ positive
  have inside : ∀ earlier ≤ chunks,
      earlier * cfg.chunkSize.toNat < cfg.featureDim.toNat := by
    intro earlier before
    exact mul_lt_featureDim accepted (by omega)
  have chunked : ∀ earlier ≤ chunks, cfg.Chunked earlier
      (cfg.assignChunk^[earlier]
        { dimToVault := List.replicate cfg.featureDim.toNat 0 }) := by
    intro earlier before
    apply chunked_iterate accepted.chunkSize
    · intro other isBefore
      exact inside other (by omega)
    · have small := inside earlier before
      omega
  have continues : ∀ earlier < chunks + 1, cfg.moreChunks
      (cfg.assignChunk^[earlier]
        { dimToVault := List.replicate cfg.featureDim.toNat 0 }) = true := by
    intro earlier before
    rw [moreChunks_iff, (chunked earlier (by omega)).start]
    exact inside earlier (by omega)
  obtain ⟨rest, later⟩ := WhileLoop.exists_run_of_run ends continues
  rw [Function.iterate_succ_apply'] at later
  have reached := WhileLoop.invariant_of_run
    (fun state repeats _ => Repeats.assignChunk (by omega) repeats)
    ((chunked chunks (Nat.le_refl _)).repeats (inside chunks (Nat.le_refl _))
      positive (by omega)) later
  obtain ⟨inFirst | ⟨d, isDim, twice⟩, stops⟩ := reached
  · rw [Bool.eq_false_iff, ne_eq, moreChunks_iff] at stops
    omega
  · have once := (result d isDim).2
    omega

/-- The chunk loop assigns every dimension once, to the vault of its chunk,
exactly when the end of the last whole chunk fits 32 bits. -/
theorem partitions_iff_fits
    (cfg : FeaturePartitionConfig)
    (accepted : cfg.Accepted) :
    cfg.Partitions ↔ cfg.numChunks * cfg.chunkSize.toNat < 2 ^ 32 :=
  ⟨fits_of_partitions accepted, partitions_of_fits accepted⟩

/-- The 256 dimensions of the test, in chunks of eight. -/
theorem chunksOfEight_partitions :
    FeaturePartitionConfig.Partitions { featureDim := 256, chunkSize := 8 } :=
  (partitions_iff_fits { featureDim := 256, chunkSize := 8 }
    (by constructor <;> decide)).mpr (by decide)

/-- Two chunks whose ends are 2 ^ 31 and 2 ^ 32. -/
theorem halfRange_not_partitions :
    ¬ FeaturePartitionConfig.Partitions
      { numVaults := 2
        featureDim := 0x80000001
        chunkSize := 0x80000000 } := by
  intro partitions
  have fits := fits_of_partitions (by constructor <;> decide) partitions
  revert fits
  decide

/-- A result assigns every dimension to the vault of its chunk. -/
def FollowsChunks (result : FeaturePartitionResult) : Prop :=
  result.dimToVault.length = cfg.featureDim.toNat ∧
    ∀ d < cfg.featureDim.toNat, result.dimToVault[d]? =
      some (UInt32.ofNat
        (d / result.chunkSize.toNat % cfg.numVaults.toNat))

/-- Row interleaving is a partition into chunks of one dimension. -/
theorem followsChunks_of_rowInterleaved
    {result : FeaturePartitionResult}
    (made : cfg.makeRowInterleavedPartition = .ok result) :
    cfg.FollowsChunks result := by
  unfold makeRowInterleavedPartition at made
  split at made
  case isTrue => exact absurd made nofun
  case isFalse =>
    obtain rfl := Except.ok.inj made
    refine ⟨?_, ?_⟩
    · rw [List.length_map, List.length_range]
    · intro d inside
      have bound := cfg.featureDim.toNat_lt
      have less := Nat.mod_le d cfg.numVaults.toNat
      have one : (1 : UInt32).toNat = 1 := rfl
      rw [List.getElem?_map, List.getElem?_range inside, one, Nat.div_one]
      apply congrArg some
      apply UInt32.toNat_inj.mp
      rw [UInt32.toNat_mod, UInt32.toNat_ofNat', UInt32.toNat_ofNat',
        Nat.mod_eq_of_lt (inside.trans bound),
        Nat.mod_eq_of_lt (less.trans_lt (inside.trans bound))]

/-- An accepted configuration can be row-interleaved. -/
theorem exists_makeRowInterleavedPartition (accepted : cfg.Accepted) :
    ∃ result, cfg.makeRowInterleavedPartition = .ok result ∧
      result.mode = .rowInterleaved ∧ result.numVaults = cfg.numVaults ∧
        result.chunkSize = 1 := by
  unfold makeRowInterleavedPartition
  rw [if_neg (not_or.mpr ⟨accepted.featureDim, accepted.numVaults⟩)]
  exact ⟨_, rfl, rfl, rfl, rfl⟩

theorem makeHybridPartition_of_small
    (accepted : cfg.Accepted)
    (small : cfg.featureDim ≤ cfg.hybridThresholdDim)
    (fuel : Nat) :
    cfg.makeHybridPartition fuel =
      cfg.makeRowInterleavedPartition.map some := by
  unfold makeHybridPartition choosePartitionMode
  rw [if_neg accepted.featureDim, if_neg accepted.numVaults, if_pos small]

theorem makeHybridPartition_of_large
    (accepted : cfg.Accepted)
    (large : ¬ cfg.featureDim ≤ cfg.hybridThresholdDim)
    (fuel : Nat) :
    cfg.makeHybridPartition fuel = cfg.makeFeaturePartition fuel := by
  unfold makeHybridPartition choosePartitionMode
  rw [if_neg accepted.featureDim, if_neg accepted.numVaults, if_neg large]

end FeaturePartitionConfig

end PimGraphs
