import Mathlib.Order.CompletePartialOrder
import Mathlib.Order.Interval.Set.Disjoint
import PimGraphs.Library.Sweep
import PimGraphs.Memory.PseudoChannel

/-!
# Address regions of the pseudo-channels

Every pseudo-channel has an address region of its own, and a sequential
workload fills it from the start.  The number and the size of the bursts are
not checked against the size of the region: bursts that do not fit it go on
into the region of the next channel.
-/

namespace PimGraphs

/-- The bytes a burst reads, [addr, addr + size_bytes). -/
def MemoryBurst.range (burst : MemoryBurst) : Set Nat :=
  Set.Ico burst.addr.toNat (burst.addr.toNat + burst.sizeBytes.toNat)

namespace PseudoChannelMultiplexer

/-- The address region of a pseudo-channel. -/
def region (pcId : PcId) : Set Nat :=
  Set.Ico (pcId.val * kRegionSize.toNat) ((pcId.val + 1) * kRegionSize.toNat)

theorem toNat_kRegionSize : kRegionSize.toNat = 1048576 := rfl

theorem disjoint_region
    {pcId other : PcId}
    (differs : pcId ≠ other) :
    Disjoint (region pcId) (region other) := by
  have distinct := Fin.val_ne_of_ne differs
  rw [region, region, Set.Ico_disjoint_Ico, toNat_kRegionSize]
  omega

/-- The bursts a sequential workload adds to a port. -/
def enqueued
    (mux : PseudoChannelMultiplexer)
    (burstsPerPc burstBytes : UInt32)
    (pcId : PcId) : List MemoryBurst :=
  ((mux.loadSequentialWorkload burstsPerPc burstBytes).port
    pcId).pending.drop (mux.port pcId).pending.length

/-- Bursts of different pseudo-channels share no byte, and every burst lies in
the region of its own. -/
def KeepsRegions
    (mux : PseudoChannelMultiplexer)
    (burstsPerPc burstBytes : UInt32) : Prop :=
  (∀ pcId other, pcId ≠ other →
      ∀ burst ∈ mux.enqueued burstsPerPc burstBytes pcId,
        ∀ otherBurst ∈ mux.enqueued burstsPerPc burstBytes other,
          Disjoint burst.range otherBurst.range) ∧
    ∀ pcId, ∀ burst ∈ mux.enqueued burstsPerPc burstBytes pcId,
      burst.range ⊆ region pcId

/-! ## What is enqueued -/

section Enqueued

variable (mux : PseudoChannelMultiplexer) (burstsPerPc burstBytes : UInt32)

theorem pending_foldl_enqueue
    (pcId other : PcId)
    (bursts : List MemoryBurst) :
    ((bursts.foldl (fun mux burst => mux.enqueue pcId burst) mux).port
        other).pending =
      (mux.port other).pending ++ if other = pcId then bursts else [] := by
  induction bursts generalizing mux with
  | nil => rw [List.foldl_nil, ite_self, List.append_nil]
  | cons burst rest inductionHypothesis =>
      rw [List.foldl_cons, inductionHypothesis, port_enqueue]
      split
      case isTrue own =>
        rw [own, PseudoChannelPort.pending_enqueue, List.append_assoc,
          List.singleton_append]
      case isFalse _ => rfl

/-- The workload adds one burst after the other to every port. -/
theorem pending_loadSequentialWorkload (pcId : PcId) :
    ((mux.loadSequentialWorkload burstsPerPc burstBytes).port pcId).pending =
      (mux.port pcId).pending ++
        (List.range burstsPerPc.toNat).map
          (sequentialBurst burstBytes pcId) := by
  have turns : Sweep.Local
      (fun (mux : PseudoChannelMultiplexer) pcId =>
        (List.range burstsPerPc.toNat).foldl
          (fun mux index =>
            mux.enqueue pcId (sequentialBurst burstBytes pcId index)) mux)
      (fun _ => True)
      (fun mux pcId => (mux.port pcId).pending)
      (fun pcId pending => pending ++
        (List.range burstsPerPc.toNat).map
          (sequentialBurst burstBytes pcId)) := by
    have turn (mux : PseudoChannelMultiplexer) (pcId other : PcId) :
        (((List.range burstsPerPc.toNat).foldl
            (fun mux index =>
              mux.enqueue pcId (sequentialBurst burstBytes pcId index))
            mux).port other).pending =
          (mux.port other).pending ++
            if other = pcId then
              (List.range burstsPerPc.toNat).map
                (sequentialBurst burstBytes pcId)
            else [] := by
      rw [← pending_foldl_enqueue, List.foldl_map]
    constructor
    · intro _ _ _
      trivial
    · intro mux pcId _
      rw [turn, if_pos rfl]
    · intro mux pcId other _ differs
      rw [turn, if_neg differs, List.append_nil]
  apply turns.view_foldl (List.nodup_finRange 16) (List.mem_finRange pcId) mux
  trivial

theorem enqueued_eq (pcId : PcId) :
    mux.enqueued burstsPerPc burstBytes pcId =
      (List.range burstsPerPc.toNat).map
        (sequentialBurst burstBytes pcId) := by
  rw [enqueued, pending_loadSequentialWorkload, List.drop_left]

/-- The address arithmetic of a burst does not wrap. -/
theorem toNat_addr_sequentialBurst
    {index : Nat}
    (inside : index < burstsPerPc.toNat)
    (pcId : PcId) :
    (sequentialBurst burstBytes pcId index).addr.toNat =
      pcId.val * kRegionSize.toNat + index * burstBytes.toNat := by
  have channel := pcId.isLt
  have count := burstsPerPc.toNat_lt
  have bytes := burstBytes.toNat_lt
  have offset : index * burstBytes.toNat ≤ (2 ^ 32 - 1) * (2 ^ 32 - 1) :=
    Nat.mul_le_mul (by omega) (by omega)
  simp only [sequentialBurst, UInt64.toNat_add, UInt64.toNat_mul,
    UInt64.toNat_ofNat', UInt32.toNat_toUInt64, toNat_kRegionSize]
  rw [Nat.mod_eq_of_lt (a := pcId.val) (by omega),
    Nat.mod_eq_of_lt (a := index) (by omega),
    Nat.mod_eq_of_lt (a := pcId.val * 1048576) (by omega),
    Nat.mod_eq_of_lt (a := index * burstBytes.toNat) (by omega),
    Nat.mod_eq_of_lt (by omega)]

end Enqueued

/-! ## When the regions are kept -/

variable {burstsPerPc burstBytes : UInt32}

/-- Bursts that fit a region stay in it. -/
theorem range_subset_region
    (fits : burstsPerPc.toNat * burstBytes.toNat ≤ kRegionSize.toNat)
    (pcId : PcId)
    {index : Nat}
    (inside : index < burstsPerPc.toNat) :
    (sequentialBurst burstBytes pcId index).range ⊆ region pcId := by
  have last : (index + 1) * burstBytes.toNat ≤
      burstsPerPc.toNat * burstBytes.toNat := Nat.mul_le_mul_right _ inside
  rw [Nat.succ_mul] at last
  rw [MemoryBurst.range, region,
    toNat_addr_sequentialBurst burstsPerPc burstBytes inside]
  apply Set.Ico_subset_Ico
  · omega
  · rw [Nat.succ_mul]
    change _ + burstBytes.toNat ≤ _
    omega

/-- The last byte of bursts that do not fit is outside the region. -/
theorem exists_range_not_subset
    (overflows : kRegionSize.toNat < burstsPerPc.toNat * burstBytes.toNat)
    (pcId : PcId) :
    ∃ index < burstsPerPc.toNat,
      ¬ (sequentialBurst burstBytes pcId index).range ⊆ region pcId := by
  have positive : 0 < burstsPerPc.toNat * burstBytes.toNat := by omega
  have bursts := Nat.pos_of_mul_pos_right positive
  have bytes := Nat.pos_of_mul_pos_left positive
  obtain ⟨last, isLast⟩ := Nat.exists_eq_add_one.mpr bursts
  refine ⟨last, by omega, ?_⟩
  intro subset
  have inside : last < burstsPerPc.toNat := by omega
  have addr := toNat_addr_sequentialBurst burstsPerPc burstBytes inside pcId
  have size : (sequentialBurst burstBytes pcId last).sizeBytes = burstBytes :=
    rfl
  have product : burstsPerPc.toNat * burstBytes.toNat =
      last * burstBytes.toNat + burstBytes.toNat := by
    rw [isLast, Nat.succ_mul]
  have isByte : pcId.val * kRegionSize.toNat + last * burstBytes.toNat +
      (burstBytes.toNat - 1) ∈
        (sequentialBurst burstBytes pcId last).range := by
    rw [MemoryBurst.range, addr, size, Set.mem_Ico]
    omega
  have bound := (subset isByte).2
  rw [Nat.succ_mul] at bound
  omega

/-- Some burst leaves its region when the bursts do not fit it. -/
theorem fits_of_keepsRegions
    {mux : PseudoChannelMultiplexer}
    (keeps : mux.KeepsRegions burstsPerPc burstBytes) :
    burstsPerPc.toNat * burstBytes.toNat ≤ kRegionSize.toNat := by
  by_contra overflows
  obtain ⟨index, inside, outside⟩ :=
    exists_range_not_subset (Nat.lt_of_not_le overflows) 0
  apply outside
  apply keeps.2 0
  rw [enqueued_eq]
  exact List.mem_map_of_mem (List.mem_range.mpr inside)

/-- The bursts of a sequential workload keep to the regions of their channels
exactly when they fit one region. -/
theorem keepsRegions_iff_fits
    (mux : PseudoChannelMultiplexer)
    (burstsPerPc burstBytes : UInt32) :
    mux.KeepsRegions burstsPerPc burstBytes ↔
      burstsPerPc.toNat * burstBytes.toNat ≤ kRegionSize.toNat := by
  constructor
  · exact fits_of_keepsRegions
  · intro fits
    have inRegion (pcId : PcId) :
        ∀ burst ∈ mux.enqueued burstsPerPc burstBytes pcId,
          burst.range ⊆ region pcId := by
      intro burst isBurst
      rw [enqueued_eq] at isBurst
      obtain ⟨index, isIndex, rfl⟩ := List.mem_map.mp isBurst
      exact range_subset_region fits pcId (List.mem_range.mp isIndex)
    refine ⟨?_, inRegion⟩
    intro pcId other differs burst isBurst otherBurst isOther
    exact (disjoint_region differs).mono (inRegion pcId burst isBurst)
      (inRegion other otherBurst isOther)

/-- One cache line more than a region holds. -/
theorem oneLineMore_not_keepsRegions :
    ¬ KeepsRegions {} 16385 64 := by
  intro keeps
  have fits := fits_of_keepsRegions keeps
  revert fits
  decide

end PseudoChannelMultiplexer

end PimGraphs
