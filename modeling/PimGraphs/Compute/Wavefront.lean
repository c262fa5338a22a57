import Mathlib.Algebra.Field.Basic
import Mathlib.Data.List.GetD
import Mathlib.Data.Rat.Defs
import PimGraphs.Compute.Pipeline

/-!
# Streams of vectors through a feeder and its array

A feeder skews a pushed vector by appending to every delay line the padding of
its row.  Behind leftovers of an earlier vector the padding adds to a delay
that differs from row to row, so the wavefront is aligned only when the lines
have run dry: vectors are multiplied intact exactly when any two pushes are at
least sixteen ticks apart.
-/

namespace PimGraphs

open Delay

/-- A feeder and the array it feeds. -/
structure Datapath (F : Type) where
  feeder : ArrayFeeder F
  sa : SystolicArray F

namespace Datapath

variable {F : Type} [Semiring F]

/-- Queue the vector of a tick, if there is one. -/
def push (path : Datapath F) (operand : Option (Vec16 F)) : Datapath F :=
  match operand with
  | none => path
  | some vec => { path with feeder := path.feeder.pushVector vec }

/-- One clock tick: feed the next activations into the array with zero top
psums. -/
def tick (path : Datapath F) : Vec16 F × Datapath F :=
  let (acts, feeder) := path.feeder.getNextActivations
  let (bottom, sa) := path.sa.tick acts 0
  (bottom, ⟨feeder, sa⟩)

/-- An empty feeder in front of a cleared array. -/
structure Idle (path : Datapath F) : Prop where
  empty : ∀ row, path.feeder.delayLines row = []
  cleared : path.sa.Cleared

/-- An idle datapath stays idle. -/
theorem Idle.tick {path : Datapath F} (idle : path.Idle) :
    path.tick.2.Idle := by
  have zeros : path.feeder.getNextActivations.1 = 0 := by
    funext row
    simp [ArrayFeeder.getNextActivations, idle.empty]
  refine ⟨fun row => ?_, ?_⟩
  · simp [Datapath.tick, ArrayFeeder.getNextActivations, idle.empty]
  · have ticked : path.tick.2.sa = (path.sa.tick 0 0).2 :=
      congrArg (fun acts => (path.sa.tick acts 0).2) zeros
    rw [ticked]
    exact idle.cleared.tick

section Run

variable (path : Datapath F) (schedule : Nat → Option (Vec16 F))

/-- The datapath before a tick's push, when the vectors of a schedule are
pushed in front of their ticks. -/
def after : Nat → Datapath F
  | 0 => path
  | time + 1 => ((after time).push (schedule time)).tick.2

/-- The bottom outputs of a tick. -/
def output (time : Nat) : Vec16 F :=
  ((path.after schedule time).push (schedule time)).tick.1

/-- What a delay line holds before a tick's push. -/
def line (row : Fin 16) (time : Nat) : List F :=
  (path.after schedule time).feeder.delayLines row

/-- What a push appends to a delay line. -/
def skewed (row : Fin 16) (operand : Option (Vec16 F)) : List F :=
  match operand with
  | none => []
  | some vec => List.replicate row.val 0 ++ [vec row]

/-- The activations a tick feeds into the array. -/
def activations (time : Nat) : Vec16 F :=
  fun row =>
    (path.line schedule row time ++ skewed row (schedule time)).headD 0

/-- The vector of a tick, zero when nothing is pushed. -/
def operand (time : Nat) : Vec16 F :=
  (schedule time).getD 0

end Run

section Lines

variable (path : Datapath F) (schedule : Nat → Option (Vec16 F))

theorem delayLines_push (operand : Option (Vec16 F)) (row : Fin 16) :
    (path.push operand).feeder.delayLines row =
      path.feeder.delayLines row ++ skewed row operand := by
  cases operand with
  | none => exact (List.append_nil _).symm
  | some vec => exact List.append_assoc _ _ _

theorem sa_push (operand : Option (Vec16 F)) :
    (path.push operand).sa = path.sa := by
  cases operand with
  | none => rfl
  | some vec => rfl

/-- A tick pops every line once, after the tick's push. -/
theorem line_succ (row : Fin 16) (time : Nat) :
    path.line schedule row (time + 1) =
      (path.line schedule row time ++ skewed row (schedule time)).tail := by
  rw [line, line, ← delayLines_push]
  rfl

theorem getNextActivations_push (time : Nat) :
    ((path.after schedule time).push
        (schedule time)).feeder.getNextActivations.1 =
      path.activations schedule time := by
  funext row
  rw [activations, line, ← delayLines_push]
  rfl

/-- The array is clocked with the activations of the feeder. -/
theorem sa_after (time : Nat) :
    (path.after schedule time).sa =
      path.sa.clocked (path.activations schedule) time := by
  induction time with
  | zero => rfl
  | succ time earlier =>
      rw [SystolicArray.clocked, ← earlier, ← getNextActivations_push,
        ← sa_push (path.after schedule time) (schedule time)]
      rfl

theorem output_eq (time : Nat) :
    path.output schedule time =
      path.sa.clockedOutput (path.activations schedule) time := by
  rw [SystolicArray.clockedOutput, ← sa_after, ← getNextActivations_push,
    ← sa_push (path.after schedule time) (schedule time)]
  rfl

end Lines

/-! ## Spaced pushes -/

/-- Any two pushes are at least sixteen ticks apart. -/
def Spaced (pushes : Nat → Bool) : Prop :=
  ∀ earlier later, earlier < later → pushes earlier → pushes later →
    earlier + 16 ≤ later

section Spaced

variable {path : Datapath F} {schedule : Nat → Option (Vec16 F)}

/-- The operands pushed before a tick, on one row. -/
def operandsBefore
    (schedule : Nat → Option (Vec16 F))
    (row : Fin 16)
    (time past : Nat) : F :=
  if past < time then operand schedule past row else 0

theorem operandsBefore_succ
    {time : Nat}
    (notPushed : schedule time = none)
    (row : Fin 16) :
    operandsBefore schedule row (time + 1) =
      operandsBefore schedule row time := by
  funext past
  rcases Nat.lt_trichotomy past time with before | same | beyond
  · simp [operandsBefore, before, Nat.lt_succ_of_lt before]
  · simp [operandsBefore, operand, same, notPushed]
  · simp [operandsBefore, Nat.not_lt_of_lt beyond,
      Nat.not_lt.mpr (Nat.succ_le_of_lt beyond)]

theorem length_skewed_some (row : Fin 16) (vec : Vec16 F) :
    (skewed row (some vec)).length = row.val + 1 := by
  simp [skewed]

theorem getD_skewed_some
    (row : Fin 16)
    (vec : Vec16 F)
    (ahead : Nat) :
    (skewed row (some vec)).getD ahead 0 =
      if ahead = row.val then vec row else 0 := by
  rcases Nat.lt_trichotomy ahead row.val with inside | last | beyond
  · rw [skewed, List.getD_append _ _ _ _ (by simpa using inside),
      List.getD_replicate _ inside, if_neg (Nat.ne_of_lt inside)]
  · simp [skewed, last]
  · rw [List.getD_eq_default _ _ (by rw [length_skewed_some]; exact beyond),
      if_neg (Nat.ne_of_gt beyond)]

/-- A line holds at most what the earlier pushes leave it, each of which takes
one tick more than its padding. -/
theorem length_line_le
    (empty : ∀ row, path.feeder.delayLines row = [])
    (spaced : Spaced fun time => (schedule time).isSome)
    (row : Fin 16)
    {time remaining : Nat}
    (leftover : ∀ push, push < time → (schedule push).isSome →
      push + row.val + 1 ≤ time + remaining) :
    (path.line schedule row time).length ≤ remaining := by
  induction time generalizing remaining with
  | zero =>
      rw [line, after, empty]
      exact Nat.zero_le _
  | succ time earlier =>
      rw [line_succ, List.length_tail, List.length_append]
      cases pushed : schedule time with
      | none =>
          have rest : (path.line schedule row time).length ≤ remaining + 1 := by
            refine earlier fun push before isPush => ?_
            have leaves := leftover push (Nat.lt_succ_of_lt before) isPush
            omega
          rw [skewed, List.length_nil]
          omega
      | some vec =>
          have now : (schedule time).isSome := by rw [pushed]; rfl
          have dry : (path.line schedule row time).length ≤ 0 := by
            refine earlier fun push before isPush => ?_
            have apart := spaced push time before isPush now
            omega
          have leaves := leftover time (Nat.lt_succ_self time) now
          rw [length_skewed_some]
          omega

/-- The lines have run dry when the next vector is pushed. -/
theorem line_eq_nil
    (empty : ∀ row, path.feeder.delayLines row = [])
    (spaced : Spaced fun time => (schedule time).isSome)
    (row : Fin 16)
    {time : Nat}
    (pushed : (schedule time).isSome) :
    path.line schedule row time = [] := by
  refine List.length_eq_zero_iff.mp (Nat.le_zero.mp ?_)
  refine length_line_le empty spaced row fun push before isPush => ?_
  have apart := spaced push time before isPush pushed
  omega

/-- After a tick's push, a line lists the operands of its row behind its
delay, if it did so before. -/
theorem getD_pushed
    (empty : ∀ row, path.feeder.delayLines row = [])
    (spaced : Spaced fun time => (schedule time).isSome)
    (row : Fin 16)
    (time : Nat)
    (listed : ∀ ahead, (path.line schedule row time).getD ahead 0 =
      delayed row.val (operandsBefore schedule row time) (time + ahead))
    (ahead : Nat) :
    (path.line schedule row time ++ skewed row (schedule time)).getD ahead 0 =
      delayed row.val (operandsBefore schedule row (time + 1))
        (time + ahead) := by
  cases pushed : schedule time with
  | none =>
      rw [operandsBefore_succ pushed, skewed, List.append_nil, listed]
  | some vec =>
      have dry := line_eq_nil empty spaced row (show (schedule time).isSome by
        rw [pushed]; rfl)
      have nothing := listed ahead
      rw [dry, List.getD_nil] at nothing
      rw [dry, List.nil_append, getD_skewed_some]
      rcases Nat.lt_or_ge (time + ahead) row.val with early | late
      · rw [delayed_of_lt _ early, if_neg (by omega)]
      · rw [delayed_of_le _ late, operandsBefore]
        rw [delayed_of_le _ late, operandsBefore] at nothing
        rcases Nat.lt_trichotomy ahead row.val with inside | last | beyond
        · rw [if_pos (by omega)] at nothing
          rw [if_neg (Nat.ne_of_lt inside), if_pos (by omega), ← nothing]
        · rw [if_pos last, if_pos (by omega), operand, last,
            Nat.add_sub_cancel, pushed, Option.getD_some]
        · rw [if_neg (Nat.ne_of_gt beyond), if_neg (by omega)]

theorem getD_line
    (empty : ∀ row, path.feeder.delayLines row = [])
    (spaced : Spaced fun time => (schedule time).isSome)
    (row : Fin 16)
    (time ahead : Nat) :
    (path.line schedule row time).getD ahead 0 =
      delayed row.val (operandsBefore schedule row time) (time + ahead) := by
  induction time generalizing ahead with
  | zero =>
      rw [line, after, empty, List.getD_nil]
      simp [delayed, operandsBefore]
  | succ time earlier =>
      have pushed := getD_pushed empty spaced row time earlier (ahead + 1)
      rw [line_succ, ← List.drop_one, List.getD_eq_getElem?_getD,
        List.getElem?_drop, ← List.getD_eq_getElem?_getD, Nat.add_comm 1,
        pushed]
      congr 1
      omega

/-- Row `r` sees the pushed vectors `r` ticks late. -/
theorem activations_of_spaced
    (empty : ∀ row, path.feeder.delayLines row = [])
    (spaced : Spaced fun time => (schedule time).isSome)
    (row : Fin 16) :
    (fun time => path.activations schedule time row) =
      delayed row.val fun time => operand schedule time row := by
  funext time
  have pushed := getD_pushed empty spaced row time
    (getD_line empty spaced row time) 0
  rw [activations, List.headD_eq_getD, pushed]
  simp only [delayed, operandsBefore, Nat.add_zero]
  split
  · exact if_pos (by omega)
  · rfl

/-- Spaced pushes are multiplied intact: column `c` of a vector's product is
read `16 + c` ticks after the push. -/
theorem output_of_spaced
    (empty : ∀ row, path.feeder.delayLines row = [])
    (cleared : path.sa.Cleared)
    (spaced : Spaced fun time => (schedule time).isSome)
    (time : Nat)
    (column : Fin 16) :
    path.output schedule time column =
      delayed (16 + column.val)
        (fun time => ∑ row,
          operand schedule time row * path.sa.weights row column) time := by
  rw [output_eq]
  exact SystolicArray.clockedOutput_of_skewed cleared
    (activations_of_spaced empty spaced) time column

end Spaced

/-! ## One vector -/

/-- The schedule that pushes the vectors of some ticks. -/
def timetable
    (pushes : Nat → Bool)
    (vectors : Nat → Vec16 F) : Nat → Option (Vec16 F) :=
  fun time => if pushes time then some (vectors time) else none

omit [Semiring F] in
@[simp] theorem isSome_timetable
    (pushes : Nat → Bool)
    (vectors : Nat → Vec16 F)
    (time : Nat) :
    (timetable pushes vectors time).isSome = pushes time := by
  cases isPush : pushes time with
  | false => simp [timetable, isPush]
  | true => simp [timetable, isPush]

/-- The schedule that pushes one vector in front of the first tick. -/
def oneVector (vec : Vec16 F) : Nat → Option (Vec16 F) :=
  timetable (fun time => decide (time = 0)) fun _ => vec

/-- The datapath in front of a tick, the vector having been pushed in front of
the first one. -/
def ready (path : Datapath F) (vec : Vec16 F) (time : Nat) : Datapath F :=
  (path.after (oneVector vec) time).push (oneVector vec time)

section OneVector

variable {path : Datapath F}

theorem ready_succ (vec : Vec16 F) (time : Nat) :
    path.ready vec (time + 1) = (path.ready vec time).tick.2 := rfl

omit [Semiring F] in
theorem eq_zero_of_isSome_oneVector
    {vec : Vec16 F}
    {push : Nat}
    (pushed : (oneVector vec push).isSome) :
    push = 0 := by
  simpa [oneVector] using pushed

omit [Semiring F] in
theorem spaced_oneVector (vec : Vec16 F) :
    Spaced fun time => (oneVector vec time).isSome := by
  intro earlier later order _ laterPushed
  have isFirst := eq_zero_of_isSome_oneVector laterPushed
  omega

/-- Column `c` of the product is read during tick `16 + c`, and zero at every
other tick. -/
theorem output_ready
    (empty : ∀ row, path.feeder.delayLines row = [])
    (cleared : path.sa.Cleared)
    (vec : Vec16 F)
    (time : Nat)
    (column : Fin 16) :
    (path.ready vec time).tick.1 column =
      if time = 16 + column.val then
        Matrix.vecMul vec path.sa.weights column
      else 0 := by
  refine (output_of_spaced empty cleared (spaced_oneVector vec) time
    column).trans ?_
  rcases Nat.lt_trichotomy time (16 + column.val) with early | due | late
  · rw [delayed_of_lt _ early, if_neg (Nat.ne_of_lt early)]
  · have pushed : oneVector vec 0 = some vec := rfl
    rw [delayed_of_le _ (Nat.le_of_eq due.symm), if_pos due, due, Nat.sub_self]
    simp only [operand, pushed, Option.getD_some, Matrix.vecMul, dotProduct]
  · have notPushed : oneVector vec (time - (16 + column.val)) = none := by
      refine Option.not_isSome_iff_eq_none.mp fun pushed => ?_
      have isFirst := eq_zero_of_isSome_oneVector pushed
      omega
    rw [delayed_of_le _ (Nat.le_of_lt late), if_neg (Nat.ne_of_gt late)]
    simp only [operand, notPushed, Option.getD_none, Pi.zero_apply, zero_mul,
      Finset.sum_const_zero]

/-- Sixteen ticks after the push the lines have run dry. -/
theorem delayLines_ready
    (empty : ∀ row, path.feeder.delayLines row = [])
    (vec : Vec16 F)
    {time : Nat}
    (late : 15 ≤ time)
    (row : Fin 16) :
    (path.ready vec time).tick.2.feeder.delayLines row = [] := by
  have dry : (path.line (oneVector vec) row (time + 1)).length ≤ 0 := by
    apply length_line_le empty (spaced_oneVector vec) row
    intro push _ pushed
    have isFirst := eq_zero_of_isSome_oneVector pushed
    omega
  exact List.length_eq_zero_iff.mp (Nat.le_zero.mp dry)

end OneVector

/-! ## Overlapping pushes -/

section Overlap

variable (path : Datapath F) (schedule : Nat → Option (Vec16 F))

/-- Later pushes go behind what a line already holds. -/
theorem activations_add
    (row : Fin 16)
    (time ahead : Nat)
    (held : ahead < (path.line schedule row time ++
      skewed row (schedule time)).length) :
    path.activations schedule (time + ahead) row =
      (path.line schedule row time ++
        skewed row (schedule time)).getD ahead 0 := by
  induction ahead generalizing time with
  | zero => exact List.headD_eq_getD
  | succ ahead later =>
      have inside : ahead < (path.line schedule row (time + 1)).length := by
        rw [line_succ, List.length_tail]
        omega
      have stillHeld : ahead < (path.line schedule row (time + 1) ++
          skewed row (schedule (time + 1))).length := by
        rw [List.length_append]
        omega
      rw [← Nat.add_assoc, Nat.add_right_comm, later (time + 1) stillHeld,
        List.getD_append _ _ _ _ inside, line_succ, ← List.drop_one,
        List.getD_eq_getElem?_getD, List.getElem?_drop,
        ← List.getD_eq_getElem?_getD, Nat.add_comm 1]

/-- Row 0 has no padding, so its line is always dry. -/
theorem line_zero
    (empty : ∀ row, path.feeder.delayLines row = [])
    (time : Nat) :
    path.line schedule 0 time = [] := by
  induction time with
  | zero => exact empty 0
  | succ time dry =>
      rw [line_succ, dry, List.nil_append]
      cases schedule time with
      | none => rfl
      | some vec => rfl

/-- A pushed vector occupies the line of its row for as many ticks as it has
lanes before it. -/
theorem le_length_line
    (row : Fin 16)
    {push time : Nat}
    (pushed : (schedule push).isSome)
    (before : push < time) :
    push + row.val + 1 ≤ time + (path.line schedule row time).length := by
  induction time, before using Nat.le_induction with
  | base =>
      obtain ⟨vec, isVec⟩ := Option.isSome_iff_exists.mp pushed
      rw [line_succ, isVec, List.length_tail, List.length_append,
        length_skewed_some]
      omega
  | succ time _ earlier =>
      rw [line_succ, List.length_tail, List.length_append]
      omega

/-- As long as only zeros are pushed, the lines hold zeros. -/
theorem line_eq_zero
    (empty : ∀ row, path.feeder.delayLines row = [])
    {later : Nat}
    (zeros : ∀ push vec, push < later → schedule push = some vec → vec = 0)
    (row : Fin 16)
    {time : Nat}
    (early : time ≤ later)
    (value : F)
    (held : value ∈ path.line schedule row time) :
    value = 0 := by
  induction time generalizing value with
  | zero =>
      rw [line, after, empty] at held
      exact absurd held List.not_mem_nil
  | succ time earlier =>
      rw [line_succ] at held
      rcases List.mem_append.mp (List.mem_of_mem_tail held) with old | new
      · exact earlier (Nat.le_of_succ_le early) value old
      · cases pushed : schedule time with
        | none =>
            rw [pushed] at new
            exact absurd new List.not_mem_nil
        | some vec =>
            rw [pushed, skewed, zeros time vec early pushed] at new
            rcases List.mem_append.mp new with padding | lane
            · exact List.eq_of_mem_replicate padding
            · exact List.mem_singleton.mp lane

theorem getD_eq_zero
    {values : List F}
    (zeros : ∀ value ∈ values, value = 0)
    (index : Nat) :
    values.getD index 0 = 0 := by
  rcases Nat.lt_or_ge index values.length with inside | beyond
  · rw [List.getD_eq_getElem _ _ inside]
    exact zeros _ (List.getElem_mem inside)
  · exact List.getD_eq_default _ _ beyond

/-- The first lane enters the array with its push. -/
theorem activations_zero_of_push
    (empty : ∀ row, path.feeder.delayLines row = [])
    {time : Nat}
    {vec : Vec16 F}
    (pushed : schedule time = some vec) :
    path.activations schedule time 0 = vec 0 := by
  rw [activations, line_zero path schedule empty, pushed]
  rfl

/-- The last lane of a vector pushed behind leftovers misses its tick: the
array sees the padding instead. -/
theorem activations_last_of_overlap
    (empty : ∀ row, path.feeder.delayLines row = [])
    {earlier later : Nat}
    {vec : Vec16 F}
    (order : earlier < later)
    (close : later < earlier + 16)
    (earlierPushed : (schedule earlier).isSome)
    (laterPushed : schedule later = some vec)
    (zeros : ∀ push vec, push < later → schedule push = some vec → vec = 0) :
    path.activations schedule (later + 15) (Fin.last 15) = 0 := by
  have leftover := path.le_length_line schedule (Fin.last 15) earlierPushed
    order
  rw [Fin.val_last] at leftover
  have held : 15 < (path.line schedule (Fin.last 15) later ++
      List.replicate 15 0).length := by
    rw [List.length_append, List.length_replicate]
    omega
  have split : path.line schedule (Fin.last 15) later ++
      skewed (Fin.last 15) (schedule later) =
        (path.line schedule (Fin.last 15) later ++ List.replicate 15 0) ++
          [vec (Fin.last 15)] := by
    rw [laterPushed, List.append_assoc]
    rfl
  rw [activations_add, split, List.getD_append _ _ _ _ held]
  · refine getD_eq_zero (fun value isHeld => ?_) 15
    rcases List.mem_append.mp isHeld with old | padding
    · exact path.line_eq_zero schedule empty zeros _ (Nat.le_refl later)
        value old
    · exact List.eq_of_mem_replicate padding
  · rw [split, List.length_append]
    omega

end Overlap

/-! ## Intact products -/

/-- From the given start ticks on, every pushed vector leaves the array as its
product with the weights, column `c` after `16 + c` ticks, and nothing else
does. -/
structure IntactFrom
    (path : Datapath F)
    (schedule : Nat → Option (Vec16 F))
    (start : Nat → Nat) : Prop where
  increasing : ∀ earlier later, earlier < later →
    (schedule earlier).isSome → (schedule later).isSome →
      start earlier < start later
  products : ∀ push vec, schedule push = some vec → ∀ column : Fin 16,
    path.output schedule (start push + 16 + column.val) column =
      ∑ row, path.sa.weights row column * vec row
  silent : ∀ time (column : Fin 16),
    (∀ push, (schedule push).isSome →
      time ≠ start push + 16 + column.val) →
    path.output schedule time column = 0

/-- Every pushed vector is multiplied intact. -/
def Intact
    (path : Datapath F)
    (schedule : Nat → Option (Vec16 F)) : Prop :=
  ∃ start, path.IntactFrom schedule start

/-- An empty feeder in front of an array with newly loaded weights. -/
def loaded (sa : SystolicArray F) (weightMatrix : Weights F) : Datapath F where
  feeder := ArrayFeeder.initial
  sa := sa.loadWeights weightMatrix

/-- A matrix that adds the first and the last lane into column 0. -/
def firstAndLast : Weights F :=
  fun position =>
    (if position = Weights.index 0 0 then 1 else 0) +
      if position = Weights.index (Fin.last 15) 0 then 1 else 0

/-- One in the first and the last lane. -/
def endLanes : Vec16 F :=
  Pi.single 0 1 + Pi.single (Fin.last 15) 1

/-- A vector with end lanes at one tick, zero vectors at all others. -/
def ends (later : Nat) : Nat → Vec16 F :=
  fun time => if time = later then endLanes else 0

end Datapath

namespace Datapath

variable {F : Type} [Field F]

theorem intact_of_spaced
    {path : Datapath F}
    {schedule : Nat → Option (Vec16 F)}
    (empty : ∀ row, path.feeder.delayLines row = [])
    (cleared : path.sa.Cleared)
    (spaced : Spaced fun time => (schedule time).isSome) :
    path.Intact schedule := by
  refine ⟨id, fun _ _ order _ _ => order, ?_, ?_⟩
  · intro push vec pushed column
    rw [id, Nat.add_assoc, output_of_spaced empty cleared spaced,
      delayed_add]
    simp only [operand, pushed, Option.getD_some, mul_comm]
  · intro time column unmatched
    rw [output_of_spaced empty cleared spaced]
    rcases Nat.lt_or_ge time (16 + column.val) with early | late
    · exact delayed_of_lt _ early
    · have notPushed : schedule (time - (16 + column.val)) = none := by
        refine Option.not_isSome_iff_eq_none.mp fun pushed => ?_
        apply unmatched _ pushed
        rw [id]
        omega
      rw [delayed_of_le _ late]
      simp only [operand, notPushed, Option.getD_none, Pi.zero_apply,
        zero_mul, Finset.sum_const_zero]

theorem sum_firstAndLast (terms : Fin 16 → F) :
    (∑ row, terms row * (firstAndLast : Weights F).toMatrix row 0) =
      terms 0 + terms (Fin.last 15) := by
  simp only [Weights.toMatrix_apply, firstAndLast, Weights.index_left_inj,
    mul_add, mul_ite, mul_one, mul_zero, Finset.sum_add_distrib,
    Finset.sum_ite_eq', Finset.mem_univ, if_true]

/-- What column 0 adds up when the last lane has missed its tick. -/
theorem output_of_overlap
    {path : Datapath F}
    {schedule : Nat → Option (Vec16 F)}
    (empty : ∀ row, path.feeder.delayLines row = [])
    (cleared : path.sa.Cleared)
    (sameWeights : path.sa.weights = (firstAndLast : Weights F).toMatrix)
    {earlier later : Nat}
    {vec : Vec16 F}
    (order : earlier < later)
    (close : later < earlier + 16)
    (earlierPushed : (schedule earlier).isSome)
    (laterPushed : schedule later = some vec)
    (zeros : ∀ push vec, push < later → schedule push = some vec → vec = 0) :
    path.output schedule (later + 16) 0 = vec 0 := by
  have first := path.activations_zero_of_push schedule empty laterPushed
  have last := path.activations_last_of_overlap schedule empty order close
    earlierPushed laterPushed zeros
  rw [output_eq, SystolicArray.clockedOutput_eq cleared, sameWeights,
    sum_firstAndLast, Fin.val_last, Fin.val_zero,
    show 16 - 0 + 0 = 16 from rfl, show 16 - 15 + 0 = 1 from rfl, delayed_add,
    delayed_of_le _ (by omega), first, Nat.add_sub_assoc (by decide), last,
    add_zero]

/-- A vector pushed behind another's leftovers is torn apart. -/
theorem not_intact_of_overlap
    (sa : SystolicArray F)
    {pushes : Nat → Bool}
    {earlier later : Nat}
    (order : earlier < later)
    (close : later < earlier + 16)
    (earlierPushed : pushes earlier)
    (laterPushed : pushes later) :
    ¬ (loaded sa firstAndLast).Intact (timetable pushes (ends later)) := by
  have now : timetable pushes (ends later) later =
      some (endLanes : Vec16 F) := by
    simp [timetable, laterPushed, ends]
  have zeros : ∀ push (vec : Vec16 F), push ≠ later →
      timetable pushes (ends later) push = some vec → vec = 0 := by
    intro push vec other pushed
    simp only [timetable, ends, if_neg other] at pushed
    split at pushed
    · exact (Option.some.inj pushed).symm
    · exact absurd pushed.symm (Option.some_ne_none vec)
  have sameWeights : (loaded sa firstAndLast).sa.weights =
      (firstAndLast : Weights F).toMatrix := rfl
  have torn := output_of_overlap (fun _ => rfl)
    (sa.cleared_loadWeights firstAndLast) sameWeights order close
    ((isSome_timetable pushes (ends later) earlier).trans earlierPushed) now
    fun push vec before => zeros push vec (Nat.ne_of_lt before)
  have one : (endLanes : Vec16 F) 0 = 1 := by simp [endLanes]
  rw [one] at torn
  rintro ⟨start, intact⟩
  by_cases matched : ∃ push,
      (timetable pushes (ends later : Nat → Vec16 F) push).isSome ∧
        later + 16 = start push + 16 + (0 : Fin 16).val
  · obtain ⟨push, pushed, same⟩ := matched
    obtain ⟨vec, isVec⟩ := Option.isSome_iff_exists.mp pushed
    have product := intact.products push vec isVec 0
    rw [← same, torn] at product
    simp only [mul_comm _ (vec _)] at product
    have lanes := product.trans (sum_firstAndLast vec)
    by_cases isLater : push = later
    · rw [isLater, now] at isVec
      rw [← Option.some.inj isVec] at lanes
      simp [endLanes] at lanes
    · rw [zeros push vec isLater isVec] at lanes
      simp at lanes
  · have silent := intact.silent (later + 16) 0 fun push pushed same =>
      matched ⟨push, pushed, same⟩
    exact one_ne_zero (torn.symm.trans silent)

/-- Pushes at given ticks multiply all vectors by all weights intact exactly
when any two of them are at least sixteen ticks apart. -/
theorem intact_iff_spaced
    (sa : SystolicArray F)
    (pushes : Nat → Bool) :
    (∀ (weightMatrix : Weights F) (vectors : Nat → Vec16 F),
      (loaded sa weightMatrix).Intact (timetable pushes vectors)) ↔
    Spaced pushes := by
  constructor
  · intro intact earlier later order earlierPushed laterPushed
    by_contra close
    exact not_intact_of_overlap sa order (Nat.lt_of_not_le close)
      earlierPushed laterPushed (intact firstAndLast (ends later))
  · intro spaced weightMatrix vectors
    refine intact_of_spaced (fun _ => rfl)
      (sa.cleared_loadWeights weightMatrix) ?_
    simpa only [isSome_timetable] using spaced

/-- Two vectors pushed in consecutive ticks are not multiplied intact. -/
theorem consecutive_not_intact :
    ¬ (loaded (SystolicArray.initial : SystolicArray ℚ) firstAndLast).Intact
        (timetable (fun time => decide (time ≤ 1)) (ends 1)) := by
  apply not_intact_of_overlap _ Nat.zero_lt_one
  · decide
  · rfl
  · rfl

end Datapath

end PimGraphs
