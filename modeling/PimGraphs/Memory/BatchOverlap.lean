import PimGraphs.Library.Run
import PimGraphs.Memory.GatherBatch

/-!
# Overlapping gather batches

A new batch may be started while reads of the previous one are still in the
memory system.  The completion callback knows the controller and not the
batch, so the controller tells a late read from its own only by having no read
outstanding.  Each read is tagged here with the batch that issued it; the tag
is not part of the program.
-/

namespace PimGraphs

open PiccoloGatherController

/-- A read in the memory system and the batch that issued it. -/
structure IssuedRead where
  burst : MemoryBurst
  batch : Nat
  deriving DecidableEq

/-- A controller, the reads it has in the memory system and those that have
come back. -/
structure GatherSystem where
  controller : PiccoloGatherController
  batch : Nat := 0
  inFlight : List IssuedRead := []
  completed : List IssuedRead := []

namespace GatherSystem

/-- A newly built controller with preloaded offsets. -/
def built
    (pcId : PcId)
    (baseAddr : UInt64)
    (elemBytes : UInt32)
    (numElems maxOutstanding : Nat)
    (offsets : List UInt32) : GatherSystem where
  controller := pushOffsets
    { pcId := pcId
      baseAddr := baseAddr
      elemBytes := elemBytes
      numElems := numElems
      maxOutstanding := maxOutstanding } offsets

/-- What happens to a controller and its reads. -/
inductive Event
  | issue
  | reset (baseAddr : UInt64) (numElems : Nat) (offsets : List UInt32)
  /-- The read at a position of the reads in flight comes back. -/
  | complete (position : Nat) (value : UInt32)
  | pop

/-- One event of the controller whose callbacks capture `this`. -/
def next (this : Nat) (system : GatherSystem) : Event → GatherSystem
  | .issue =>
      let issued := system.controller.tickIssue this
      { system with
        controller := issued.1
        inFlight := system.inFlight ++
          issued.2.toList.map fun burst => ⟨burst, system.batch⟩ }
  | .reset baseAddr numElems offsets =>
      { system with
        controller :=
          (system.controller.setBaseAddr baseAddr).startBatch numElems offsets
        batch := system.batch + 1 }
  | .complete position value =>
      match system.inFlight[position]? with
      | none => system
      | some read =>
          { system with
            controller := system.controller.onReadComplete value
            inFlight := system.inFlight.eraseIdx position
            completed := system.completed ++ [read] }
  | .pop => { system with controller := system.controller.popDb }

/-- Whether a read was issued for the current batch. -/
def current (system : GatherSystem) (read : IssuedRead) : Bool :=
  read.batch == system.batch

/-- A read issued before the latest reset leaves the controller unchanged
when it completes. -/
def LateIgnored (this : Nat) (system : GatherSystem) (event : Event) : Prop :=
  ∀ position value, event = .complete position value →
    ∀ read ∈ system.inFlight[position]?, system.current read = false →
      (system.next this event).controller = system.controller

/-- The batch is done only when all reads issued for it have completed. -/
def DoneWhenComplete (system : GatherSystem) : Prop :=
  system.controller.done = true →
    system.completed.countP system.current = system.controller.numElems ∧
      system.inFlight.countP system.current = 0

/-- A read issued before the latest reset completes only while no read of the
current batch is in flight. -/
def LateAlone (system : GatherSystem) (event : Event) : Prop :=
  ∀ position value, event = .complete position value →
    ∀ read ∈ system.inFlight[position]?, system.current read = false →
      ∀ other ∈ system.inFlight, system.current other = false

/-- The counters of the controller count the reads of the current batch. -/
structure Counted (system : GatherSystem) : Prop where
  outstanding : system.controller.outstanding =
    system.inFlight.countP system.current
  completed : system.controller.completed =
    system.completed.countP system.current
  issued : system.controller.issued =
    system.controller.completed + system.controller.outstanding
  issued_le : system.controller.issued ≤ system.controller.numElems
  inFlight_le : ∀ read ∈ system.inFlight, read.batch ≤ system.batch
  completed_le : ∀ read ∈ system.completed, read.batch ≤ system.batch

theorem counted_built
    (pcId : PcId)
    (baseAddr : UInt64)
    (elemBytes : UInt32)
    (numElems maxOutstanding : Nat)
    (offsets : List UInt32) :
    (built pcId baseAddr elemBytes numElems maxOutstanding offsets).Counted :=
  { outstanding := rfl
    completed := rfl
    issued := rfl
    issued_le := Nat.zero_le _
    inFlight_le := List.forall_mem_nil _
    completed_le := List.forall_mem_nil _ }

/-- A read of an earlier batch is not one of the next batch. -/
theorem countP_succ_batch
    (reads : List IssuedRead)
    (batch : Nat)
    (earlier : ∀ read ∈ reads, read.batch ≤ batch) :
    reads.countP (fun read => read.batch == batch + 1) = 0 := by
  apply List.countP_eq_zero.mpr
  intro read isRead sameBatch
  have bound := earlier read isRead
  rw [beq_iff_eq] at sameBatch
  omega

/-- Taking a read out of a list lowers the count of its kind by one. -/
theorem countP_eraseIdx
    {reads : List IssuedRead}
    {position : Nat}
    {read : IssuedRead}
    (found : reads[position]? = some read)
    (kind : IssuedRead → Bool) :
    reads.countP kind =
      (reads.eraseIdx position).countP kind + if kind read then 1 else 0 := by
  obtain ⟨inside, isRead⟩ := List.getElem?_eq_some_iff.mp found
  rw [← (List.getElem_cons_eraseIdx_perm inside).countP_eq kind, isRead,
    List.countP_cons]

theorem next_complete
    {system : GatherSystem}
    {position : Nat}
    {read : IssuedRead}
    (found : system.inFlight[position]? = some read)
    (this : Nat)
    (value : UInt32) :
    system.next this (.complete position value) =
      { system with
        controller := system.controller.onReadComplete value
        inFlight := system.inFlight.eraseIdx position
        completed := system.completed ++ [read] } := by
  simp only [next, found]

namespace Counted

variable {system : GatherSystem}

theorem issue (counted : system.Counted) (this : Nat) :
    (system.next this .issue).Counted := by
  simp only [next, tickIssue]
  split
  case isFalse _ =>
    simp only [Option.toList_none, List.map_nil, List.append_nil]
    exact counted
  case isTrue allowed =>
    simp only [canIssue, Bool.and_eq_true, decide_eq_true_eq] at allowed
    have balance := counted.issued
    constructor
    · simp only [Option.toList_some, List.map_cons, List.map_nil,
        List.countP_append, counted.outstanding, List.countP_singleton]
      simp only [current, beq_self_eq_true, if_true]
      rfl
    · exact counted.completed
    · exact congrArg (· + 1) balance
    · exact allowed.1.1.1
    · intro read isRead
      simp only [Option.toList_some, List.map_cons, List.map_nil,
        List.mem_append, List.mem_singleton] at isRead
      rcases isRead with earlier | isNew
      · exact counted.inFlight_le read earlier
      · rw [isNew]
    · exact counted.completed_le

theorem reset
    (counted : system.Counted)
    (this : Nat)
    (baseAddr : UInt64)
    (numElems : Nat)
    (offsets : List UInt32) :
    (system.next this (.reset baseAddr numElems offsets)).Counted :=
  { outstanding := (countP_succ_batch _ _ counted.inFlight_le).symm
    completed := (countP_succ_batch _ _ counted.completed_le).symm
    issued := rfl
    issued_le := Nat.zero_le _
    inFlight_le := fun read isRead =>
      (counted.inFlight_le read isRead).trans (Nat.le_succ _)
    completed_le := fun read isRead =>
      (counted.completed_le read isRead).trans (Nat.le_succ _) }

theorem pop (counted : system.Counted) (this : Nat) :
    (system.next this .pop).Counted :=
  { outstanding := counted.outstanding
    completed := counted.completed
    issued := counted.issued
    issued_le := counted.issued_le
    inFlight_le := counted.inFlight_le
    completed_le := counted.completed_le }

section Complete

variable {position : Nat} {read : IssuedRead}

/-- A read in flight has been issued in some batch so far. -/
theorem completed_append_le
    (counted : system.Counted)
    (found : system.inFlight[position]? = some read) :
    ∀ other ∈ system.completed ++ [read], other.batch ≤ system.batch := by
  intro other isOther
  rcases List.mem_append.mp isOther with earlier | isLast
  · exact counted.completed_le other earlier
  · rw [List.mem_singleton.mp isLast]
    exact counted.inFlight_le read (List.mem_of_getElem? found)

/-- A completed read of the current batch is counted. -/
theorem complete_current
    (counted : system.Counted)
    (found : system.inFlight[position]? = some read)
    (isCurrent : system.current read = true)
    (this : Nat)
    (value : UInt32) :
    (system.next this (.complete position value)).Counted := by
  have fewer := countP_eraseIdx found system.current
  rw [isCurrent, if_pos rfl, ← counted.outstanding] at fewer
  have someOutstanding : system.controller.outstanding ≠ 0 := by omega
  have balance := counted.issued
  rw [next_complete found, onReadComplete, if_neg someOutstanding]
  constructor
  · show system.controller.outstanding - 1 =
      (system.inFlight.eraseIdx position).countP system.current
    omega
  · show system.controller.completed + 1 =
      (system.completed ++ [read]).countP system.current
    rw [List.countP_append, List.countP_singleton, isCurrent, if_pos rfl,
      counted.completed]
  · show system.controller.issued = system.controller.completed + 1 +
      (system.controller.outstanding - 1)
    omega
  · exact counted.issued_le
  · intro other isOther
    exact counted.inFlight_le other (List.mem_of_mem_eraseIdx isOther)
  · exact counted.completed_append_le found

/-- A late read that leaves the controller unchanged is not counted. -/
theorem complete_late
    (counted : system.Counted)
    (found : system.inFlight[position]? = some read)
    (late : system.current read = false)
    (this : Nat)
    (value : UInt32)
    (ignored : system.controller.onReadComplete value = system.controller) :
    (system.next this (.complete position value)).Counted := by
  have same := countP_eraseIdx found system.current
  rw [late, if_neg Bool.false_ne_true, Nat.add_zero] at same
  rw [next_complete found, ignored]
  constructor
  · exact counted.outstanding.trans same
  · show system.controller.completed =
      (system.completed ++ [read]).countP system.current
    rw [List.countP_append, List.countP_singleton, late,
      if_neg Bool.false_ne_true, Nat.add_zero, counted.completed]
  · exact counted.issued
  · exact counted.issued_le
  · intro other isOther
    exact counted.inFlight_le other (List.mem_of_mem_eraseIdx isOther)
  · exact counted.completed_append_le found

end Complete

/-- Every step that ignores late reads keeps the count. -/
theorem next
    (counted : system.Counted)
    {this : Nat}
    {event : Event}
    (lateIgnored : system.LateIgnored this event) :
    (system.next this event).Counted := by
  cases event with
  | issue => exact counted.issue this
  | reset baseAddr numElems offsets =>
      exact counted.reset this baseAddr numElems offsets
  | pop => exact counted.pop this
  | complete position value =>
      cases found : system.inFlight[position]? with
      | none =>
          simp only [GatherSystem.next, found]
          exact counted
      | some read =>
          cases isCurrent : system.current read with
          | true => exact counted.complete_current found isCurrent this value
          | false =>
              have ignored := lateIgnored position value rfl read found
                isCurrent
              rw [next_complete found] at ignored
              exact counted.complete_late found isCurrent this value ignored

/-- A counted batch is done with its last read. -/
theorem doneWhenComplete (counted : system.Counted) :
    system.DoneWhenComplete := by
  intro isDone
  rw [done, decide_eq_true_eq] at isDone
  have balance := counted.issued
  have bound := counted.issued_le
  rw [← counted.completed, ← counted.outstanding]
  omega

/-- The controller ignores a late read exactly when no read of the current
batch is in flight. -/
theorem lateIgnored_iff
    (counted : system.Counted)
    (this : Nat)
    (event : Event) :
    system.LateIgnored this event ↔ system.LateAlone event := by
  refine forall_congr' fun position => forall_congr' fun value =>
    forall_congr' fun isEvent => forall_congr' fun read =>
      forall_congr' fun found => forall_congr' fun late => ?_
  rw [isEvent, next_complete found]
  have noneOutstanding : system.controller.outstanding = 0 ↔
      ∀ other ∈ system.inFlight, system.current other = false := by
    rw [counted.outstanding, List.countP_eq_zero]
    simp only [Bool.not_eq_true]
  rw [← noneOutstanding]
  show system.controller.onReadComplete value = system.controller ↔ _
  constructor
  · intro ignored
    by_contra someOutstanding
    have fewer := congrArg PiccoloGatherController.outstanding ignored
    rw [onReadComplete, if_neg someOutstanding] at fewer
    simp only at fewer
    omega
  · intro noOutstanding
    rw [onReadComplete, if_pos noOutstanding]

end Counted

/-! ## Runs -/

/-- In a run of a newly built controller no late read changes a batch, and no
batch is done early. -/
def Isolated
    (this : Nat)
    (start : GatherSystem)
    (events : List Event) : Prop :=
  Run.Along (next this) (fun system => system.LateIgnored this) start events ∧
    Run.Always (next this) DoneWhenComplete start events

/-- Batches are isolated in exactly the runs in which every late read
completes while no read of the batch then current is in flight. -/
theorem isolated_iff_lateAlone
    (this : Nat)
    (pcId : PcId)
    (baseAddr : UInt64)
    (elemBytes : UInt32)
    (numElems maxOutstanding : Nat)
    (offsets : List UInt32)
    (events : List Event) :
    Isolated this
        (built pcId baseAddr elemBytes numElems maxOutstanding offsets)
        events ↔
      Run.Along (next this) LateAlone
        (built pcId baseAddr elemBytes numElems maxOutstanding offsets)
        events := by
  have initially := counted_built pcId baseAddr elemBytes numElems
    maxOutstanding offsets
  have kept : ∀ system event, Counted system →
      system.LateIgnored this event → (system.next this event).Counted :=
    fun _ _ counted ignored => counted.next ignored
  have agree :
      Run.Along (next this) (fun system event =>
          system.LateIgnored this event)
          (built pcId baseAddr elemBytes numElems maxOutstanding offsets)
          events ↔
        Run.Along (next this) LateAlone
          (built pcId baseAddr elemBytes numElems maxOutstanding offsets)
          events := Run.along_congr
    (fun _ event counted => counted.lateIgnored_iff this event) kept initially
  constructor
  · intro isolated
    exact agree.mp isolated.1
  · intro lateAlone
    have ignored := agree.mpr lateAlone
    refine ⟨ignored, ?_⟩
    intro before isPrefix
    exact (ignored.always kept initially before isPrefix).doneWhenComplete

/-- One read is issued, a batch of one element is started and its read is
issued, and the first read comes back. -/
def lateRead : List Event :=
  [.issue, .reset 4096 1 [5], .issue, .complete 0 7]

/-- The late read of `lateRead` is taken for the one of the new batch. -/
theorem lateRead_not_isolated :
    ¬ Isolated 0 (built 3 0 4 1 8 [9]) lateRead := by
  rintro ⟨-, always⟩
  have early := always lateRead (List.prefix_refl _)
  revert early
  simp only [DoneWhenComplete, lateRead]
  decide

end GatherSystem

end PimGraphs
