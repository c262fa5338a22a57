import Mathlib.Algebra.Group.Nat.Defs
import PimGraphs.Library.WhileLoop

/-!
# The feature partitioner

Feature dimensions are assigned to vaults: row-interleaved when there are few
of them, otherwise in chunks of consecutive dimensions, the chunks round-robin
across the vaults.  The chunk loop counts in unsigned 32-bit arithmetic, so it
takes fuel; the state of the loop also records the dimensions it has assigned,
which the program does not keep.
-/

namespace PimGraphs

/-- How the features of a graph are placed in the vaults. -/
inductive PartitionMode
  | rowInterleaved
  | featurePartitioned
  deriving DecidableEq, Repr

/-- What a partition is made from. -/
structure FeaturePartitionConfig where
  numVaults : UInt32 := 16
  featureDim : UInt32 := 0
  /-- Number of consecutive feature dimensions assigned as a unit. -/
  chunkSize : UInt32 := 1
  /-- At most this many dimensions are row-interleaved. -/
  hybridThresholdDim : UInt32 := 128
  deriving DecidableEq, Repr

/-- A partition of the feature dimensions over the vaults. -/
structure FeaturePartitionResult where
  mode : PartitionMode := .featurePartitioned
  numVaults : UInt32 := 0
  featureDim : UInt32 := 0
  chunkSize : UInt32 := 1
  /-- Assigned vault of every feature dimension. -/
  dimToVault : List UInt32
  deriving DecidableEq, Repr

/-- What is reported of a partition; the averages are doubles. -/
structure PartitionStats (F : Type) where
  minDimsPerVault : UInt64 := 0
  maxDimsPerVault : UInt64 := 0
  avgDimsPerVault : F
  /-- Maximum by average, one when perfectly balanced. -/
  imbalanceRatio : F
  deriving DecidableEq, Repr

/-- The state of the chunk loop. -/
structure ChunkState where
  start : UInt32 := 0
  chunkId : UInt32 := 0
  dimToVault : List UInt32
  /-- Dimensions assigned so far, in order. -/
  assigned : List Nat := []
  deriving DecidableEq, Repr

namespace FeaturePartitionConfig

variable (cfg : FeaturePartitionConfig)

/-- Which partition the hybrid entry point makes. -/
def choosePartitionMode : Except String PartitionMode :=
  if cfg.featureDim = 0 then .error "feature_dim must be > 0"
  else if cfg.numVaults = 0 then .error "num_vaults must be > 0"
  else if cfg.featureDim ≤ cfg.hybridThresholdDim then .ok .rowInterleaved
  else .ok .featurePartitioned

/-- Assign dimensions to the vaults in turn. -/
def makeRowInterleavedPartition : Except String FeaturePartitionResult :=
  if cfg.featureDim = 0 ∨ cfg.numVaults = 0 then
    .error "feature_dim and num_vaults must be > 0"
  else
    .ok {
      mode := .rowInterleaved
      numVaults := cfg.numVaults
      featureDim := cfg.featureDim
      chunkSize := 1
      dimToVault := (List.range cfg.featureDim.toNat).map fun d =>
        UInt32.ofNat d % cfg.numVaults }

/-- One past the last dimension of a chunk. -/
def chunkEnd (start : UInt32) : UInt32 :=
  if start + cfg.chunkSize < cfg.featureDim then start + cfg.chunkSize
  else cfg.featureDim

/-- One pass of the chunk loop. -/
def assignChunk (state : ChunkState) : ChunkState :=
  let vault := state.chunkId % cfg.numVaults
  let dims := List.range' state.start.toNat
    ((cfg.chunkEnd state.start).toNat - state.start.toNat)
  { start := state.start + cfg.chunkSize
    chunkId := state.chunkId + 1
    dimToVault := dims.foldl (fun vaults d => vaults.set d vault)
      state.dimToVault
    assigned := state.assigned ++ dims }

/-- The test of the chunk loop. -/
def moreChunks (state : ChunkState) : Bool :=
  decide (state.start < cfg.featureDim)

/-- The chunk loop. -/
def chunkLoop (fuel : Nat) : Option ChunkState :=
  WhileLoop.run cfg.moreChunks cfg.assignChunk fuel
    { dimToVault := List.replicate cfg.featureDim.toNat 0 }

/-- What is returned after the chunk loop. -/
def partitionOf (state : ChunkState) : FeaturePartitionResult where
  mode := .featurePartitioned
  numVaults := cfg.numVaults
  featureDim := cfg.featureDim
  chunkSize := cfg.chunkSize
  dimToVault := state.dimToVault

/-- Assign chunks of dimensions to the vaults in turn; no result when the fuel
runs out. -/
def makeFeaturePartition (fuel : Nat) :
    Except String (Option FeaturePartitionResult) :=
  if cfg.featureDim = 0 ∨ cfg.numVaults = 0 then
    .error "feature_dim and num_vaults must be > 0"
  else if cfg.chunkSize = 0 then .error "chunk_size must be > 0"
  else .ok ((cfg.chunkLoop fuel).map cfg.partitionOf)

/-- Row interleaving for small feature vectors, feature partitioning for large
ones. -/
def makeHybridPartition (fuel : Nat) :
    Except String (Option FeaturePartitionResult) :=
  match cfg.choosePartitionMode with
  | .error message => .error message
  | .ok .rowInterleaved => cfg.makeRowInterleavedPartition.map some
  | .ok .featurePartitioned => cfg.makeFeaturePartition fuel

/-- A configuration none of whose fields the partitioner rejects. -/
structure Accepted : Prop where
  featureDim : cfg.featureDim ≠ 0
  numVaults : cfg.numVaults ≠ 0
  chunkSize : cfg.chunkSize ≠ 0

/-- A configuration is rejected whatever the fuel, or not at all. -/
theorem makeFeaturePartition_eq_ok_iff
    (fuel : Nat)
    (result : Option FeaturePartitionResult) :
    cfg.makeFeaturePartition fuel = .ok result ↔
      cfg.Accepted ∧ (cfg.chunkLoop fuel).map cfg.partitionOf = result := by
  unfold makeFeaturePartition
  constructor
  · intro made
    split at made
    case isTrue => exact absurd made nofun
    case isFalse positive =>
      split at made
      case isTrue => exact absurd made nofun
      case isFalse chunks =>
        rw [not_or] at positive
        exact ⟨⟨positive.1, positive.2, chunks⟩, Except.ok.inj made⟩
  · rintro ⟨accepted, looped⟩
    rw [if_neg (not_or.mpr ⟨accepted.featureDim, accepted.numVaults⟩),
      if_neg accepted.chunkSize, looped]

end FeaturePartitionConfig

namespace FeaturePartitionResult

/-- Count one dimension for its vault. -/
def countDim (numVaults : UInt32) (counts : List UInt64) (v : UInt32) :
    Except String (List UInt64) :=
  if numVaults ≤ v then
    .error "dim_to_vault contains out-of-range vault id"
  else .ok (counts.modify v.toNat (· + 1))

/-- Number of dimensions of every vault. -/
def dimsPerVault (r : FeaturePartitionResult) : Except String (List UInt64) :=
  r.dimToVault.foldlM (countDim r.numVaults)
    (List.replicate r.numVaults.toNat 0)

section Stats

variable {F : Type} [Zero F] [Div F] [NatCast F] [LT F] [DecidableLT F]

/-- Statistics of the counts of the vaults. -/
def statsOf : List UInt64 → PartitionStats F
  | [] => { avgDimsPerVault := 0, imbalanceRatio := 0 }
  | first :: rest =>
      let counts := first :: rest
      let most := rest.foldl max first
      let total := counts.foldl (· + ·) 0
      let average := (total.toNat : F) / (counts.length : F)
      { minDimsPerVault := rest.foldl min first
        maxDimsPerVault := most
        avgDimsPerVault := average
        imbalanceRatio :=
          if 0 < average then (most.toNat : F) / average else 0 }

/-- Statistics of the dimensions per vault of a partition. -/
def computePartitionStats (r : FeaturePartitionResult) :
    Except String (PartitionStats F) :=
  r.dimsPerVault.map statsOf

end Stats

end FeaturePartitionResult

end PimGraphs
