import PimGraphs.Memory.GatherBatch

/-!
# Progress of a gather batch

When every read completes before the next issue tick, each tick gathers one
element until the offsets or the room in the data buffer run out.  Offsets
beyond the capacity of the offset buffer are dropped when they are pushed, but
the number of elements the controller waits for is not reduced: a batch that
does not fit both buffers is never done.
-/

namespace PimGraphs

namespace PiccoloGatherController

/-- An issue tick; its read, if it issues one, completes with a value. -/
def issueAndComplete
    (this : Nat)
    (controller : PiccoloGatherController)
    (value : UInt32) : PiccoloGatherController :=
  let (issued, read) := controller.tickIssue this
  match read with
  | none => issued
  | some _ => issued.onReadComplete value

/-- One issue tick for each of some values. -/
def gatherValues
    (this : Nat)
    (controller : PiccoloGatherController)
    (values : List UInt32) : PiccoloGatherController :=
  values.foldl (issueAndComplete this) controller

/-- Elements of a batch that are gathered before the controller stalls. -/
def gatherable (controller : PiccoloGatherController) (numElems : Nat) :
    Nat :=
  if 0 < controller.maxOutstanding then
    min numElems (min controller.ob.cap controller.db.cap)
  else 0

/-- A batch of reads, each an offset and the value found there, is done after
as many issue ticks, and the data buffer holds the values. -/
def CompletesBatch
    (this : Nat)
    (controller : PiccoloGatherController)
    (reads : List (UInt32 × UInt32)) : Prop :=
  let last := gatherValues this
    (controller.startBatch reads.length (reads.map Prod.fst))
    (reads.map Prod.snd)
  last.done = true ∧ last.db.contents = reads.map Prod.snd

/-- A controller that has gathered the first of some values. -/
structure Gathered
    (first : PiccoloGatherController)
    (count : Nat)
    (values : List UInt32)
    (controller : PiccoloGatherController) : Prop where
  numElems : controller.numElems = count
  maxOutstanding : controller.maxOutstanding = first.maxOutstanding
  dbCap : controller.db.cap = first.db.cap
  outstanding : controller.outstanding = 0
  issued : controller.issued =
    min values.length (first.gatherable count)
  completed : controller.completed = controller.issued
  waiting : controller.ob.size =
    min count first.ob.cap - controller.issued
  contents : controller.db.contents = values.take controller.issued

section Batch

variable {first controller : PiccoloGatherController} {count : Nat}
  {values : List UInt32}

theorem gathered_startBatch
    (first : PiccoloGatherController)
    (offsets : List UInt32) :
    Gathered first offsets.length []
      (first.startBatch offsets.length offsets) := by
  have pushed := congrArg List.length
    (RingBuffer.contents_foldl_push first.ob.clear offsets)
  rw [RingBuffer.length_contents, RingBuffer.contents_clear, List.nil_append,
    List.length_take, RingBuffer.cap_clear] at pushed
  constructor
  · rfl
  · rfl
  · rfl
  · rfl
  · exact (Nat.zero_min _).symm
  · rfl
  · exact pushed.trans (Nat.min_comm _ _)
  · exact first.db.contents_clear

/-- A read is issued as long as the batch can be gathered. -/
theorem Gathered.canIssue_iff
    (gathered : Gathered first count values controller) :
    controller.canIssue = true ↔
      values.length < first.gatherable count := by
  have held := congrArg List.length gathered.contents
  rw [RingBuffer.length_contents, List.length_take] at held
  have issued := gathered.issued
  have waiting := gathered.waiting
  simp only [canIssue, gathered.numElems, gathered.outstanding, gathered.dbCap,
    gathered.maxOutstanding, Bool.and_eq_true, decide_eq_true_eq]
  unfold gatherable at issued ⊢
  by_cases reads : 0 < first.maxOutstanding
  · rw [if_pos reads] at issued ⊢
    omega
  · rw [if_neg reads] at issued ⊢
    omega

/-- An issue tick gathers one more value, or has nothing left to gather. -/
theorem Gathered.issueAndComplete
    (gathered : Gathered first count values controller)
    (this : Nat)
    (value : UInt32) :
    Gathered first count (values ++ [value])
      (controller.issueAndComplete this value) := by
  have held := congrArg List.length gathered.contents
  rw [RingBuffer.length_contents, List.length_take] at held
  have issued := gathered.issued
  have waiting := gathered.waiting
  have grown : (values ++ [value]).length = values.length + 1 :=
    List.length_append
  unfold PiccoloGatherController.issueAndComplete tickIssue
  by_cases issues : controller.canIssue = true
  · have early := gathered.canIssue_iff.mp issues
    have room : controller.db.size < controller.db.cap := by
      simp only [canIssue, Bool.and_eq_true, decide_eq_true_eq] at issues
      exact issues.2
    have offset : controller.ob.size ≠ 0 := by
      simp only [canIssue, Bool.and_eq_true, decide_eq_true_eq] at issues
      exact issues.1.2
    have pushed := controller.db.contents_push_of_room value room
    have allBefore : controller.issued = values.length := by omega
    rw [if_pos issues]
    simp only [onReadComplete, Nat.add_one_ne_zero, if_false,
      Nat.add_sub_cancel]
    refine ⟨gathered.numElems, gathered.maxOutstanding,
      (RingBuffer.cap_push _ _).trans gathered.dbCap, gathered.outstanding,
      ?_, congrArg (· + 1) gathered.completed, ?_, ?_⟩
    · simp only
      omega
    · have popped := congrArg List.length controller.ob.contents_pop
      rw [RingBuffer.length_contents, List.length_tail,
        RingBuffer.length_contents] at popped
      simp only
      omega
    · simp only [pushed, gathered.contents, allBefore]
      rw [List.take_length, ← grown, List.take_length]
  · have late := (not_congr gathered.canIssue_iff).mp issues
    rw [if_neg issues]
    refine ⟨gathered.numElems, gathered.maxOutstanding, gathered.dbCap,
      gathered.outstanding, ?_, gathered.completed, waiting, ?_⟩
    · simp only
      omega
    · simp only
      rw [gathered.contents, List.take_append_of_le_length]
      omega

theorem gathered_gatherValues
    (this : Nat)
    (first : PiccoloGatherController)
    (offsets values : List UInt32) :
    Gathered first offsets.length values
      (gatherValues this (first.startBatch offsets.length offsets)
        values) := by
  induction values using List.reverseRecOn with
  | nil => exact gathered_startBatch first offsets
  | append_singleton values value inductionHypothesis =>
      rw [gatherValues, List.foldl_append]
      exact inductionHypothesis.issueAndComplete this value

/-- The controller is done once it has gathered the whole batch. -/
theorem Gathered.done_iff
    (gathered : Gathered first count values controller) :
    controller.done = true ↔
      count ≤ min values.length (first.gatherable count) := by
  rw [done, decide_eq_true_eq, gathered.numElems, gathered.completed,
    gathered.issued]

end Batch

/-- A batch can be gathered when it fits both buffers. -/
theorem le_gatherable_iff
    (controller : PiccoloGatherController)
    (count : Nat) :
    count ≤ controller.gatherable count ↔
      count = 0 ∨
        count ≤ controller.ob.cap ∧ count ≤ controller.db.cap ∧
          0 < controller.maxOutstanding := by
  unfold gatherable
  split
  · omega
  · omega

/-- A batch that does not fit its buffers is not done after any number of
issue ticks. -/
theorem stalls
    (this : Nat)
    (controller : PiccoloGatherController)
    (offsets : List UInt32)
    (tooMany : controller.gatherable offsets.length < offsets.length)
    (values : List UInt32) :
    (gatherValues this (controller.startBatch offsets.length offsets)
      values).done = false := by
  rw [← Bool.not_eq_true,
    (gathered_gatherValues this controller offsets values).done_iff]
  omega

theorem not_completesBatch
    (this : Nat)
    (controller : PiccoloGatherController)
    (reads : List (UInt32 × UInt32))
    (tooMany : controller.gatherable reads.length < reads.length) :
    ¬ CompletesBatch this controller reads := by
  rintro ⟨done, -⟩
  have never := stalls this controller (reads.map Prod.fst)
    (by rw [List.length_map]; exact tooMany) (reads.map Prod.snd)
  rw [List.length_map] at never
  rw [never] at done
  exact Bool.noConfusion done

/-- A batch completes exactly when it is empty, or fits both buffers and the
controller may have reads outstanding. -/
theorem completesBatch_iff
    (this : Nat)
    (controller : PiccoloGatherController)
    (reads : List (UInt32 × UInt32)) :
    CompletesBatch this controller reads ↔
      reads.length = 0 ∨
        reads.length ≤ controller.ob.cap ∧
          reads.length ≤ controller.db.cap ∧
            0 < controller.maxOutstanding := by
  have gathered := gathered_gatherValues this controller
    (reads.map Prod.fst) (reads.map Prod.snd)
  rw [List.length_map] at gathered
  have isDone := gathered.done_iff
  rw [List.length_map] at isDone
  rw [← le_gatherable_iff]
  constructor
  · rintro ⟨done, -⟩
    exact (isDone.mp done).trans (Nat.min_le_right _ _)
  · intro fits
    have whole := gathered.issued
    rw [List.length_map, Nat.min_eq_left fits] at whole
    refine ⟨isDone.mpr (Nat.le_min.mpr ⟨Nat.le_refl _, fits⟩), ?_⟩
    rw [gathered.contents, whole, List.take_of_length_le]
    rw [List.length_map]

/-- The 257th offset is dropped when it is pushed. -/
theorem largeBatch_not_completesBatch :
    ¬ CompletesBatch 0 GatherBatch.fourByteElements
      (List.replicate 257 (0, 0)) := by
  have tooMany : GatherBatch.fourByteElements.gatherable 257 < 257 := by
    decide
  apply not_completesBatch
  rw [List.length_replicate]
  exact tooMany

end PiccoloGatherController

end PimGraphs
