import Mathlib.Data.List.Perm.Basic
import PimGraphs.Library.Sweep
import PimGraphs.Simulator.Admission

/-!
# Accounting of bursts and requests

What the counters of `run` say about the bursts that went through the ports
and the memory.  The driver changes in three ways only: bursts arrive, the
front burst of a port is admitted, and a slot completes.  The accounts are
shown to survive each of them, and so they hold at every cycle boundary.
-/

namespace PimGraphs

namespace Event

/-! ## Readings of the event list -/

/-- The burst an event queues on a given port. -/
def enqueuedOn (pcId : PcId) : Event → Option MemoryBurst
  | .enqueued _ port burst => if port = pcId then some burst else none
  | _ => none

/-- The burst an event admits from a given port. -/
def admittedOn (pcId : PcId) : Event → Option MemoryBurst
  | .admitted port _ burst => if port = pcId then some burst else none
  | _ => none

/-- The port an event admits a burst from. -/
def admittedPort : Event → Option PcId
  | .admitted port _ _ => some port
  | _ => none

/-- The slot and burst an event admits. -/
def admission : Event → Option (Nat × MemoryBurst)
  | .admitted _ slot burst => some (slot, burst)
  | _ => none

/-- The slot and burst an event completes. -/
def completion : Event → Option (Nat × MemoryBurst)
  | .completed slot burst => some (slot, burst)
  | _ => none

/-- The slot and callback an event runs. -/
def callbackRun : Event → Option (Nat × Callback)
  | .ran slot callback => some (slot, callback)
  | _ => none

/-- The burst a vertex write-back hands to its router. -/
def vertexWriteback : Event → Option MemoryBurst
  | .routed _ .vertexWriteback burst => some burst
  | _ => none

end Event

/-- The callback a completed burst is due, with its slot. -/
def dueCallback (entry : Nat × MemoryBurst) : Option (Nat × Callback) :=
  entry.2.onComplete.map fun callback => (entry.1, callback)

/-- What happens when the read of one slot completes. -/
def completionEvents (slot : Nat) (burst : MemoryBurst) : List Event :=
  .completed slot burst :: (burst.onComplete.map (Event.ran slot)).toList

section CompletionEvents

variable (slot : Nat) (burst : MemoryBurst)

@[simp] theorem filterMap_completion_completionEvents :
    (completionEvents slot burst).filterMap Event.completion =
      [(slot, burst)] := by
  cases due : burst.onComplete <;>
    simp [completionEvents, Event.completion, due]

@[simp] theorem filterMap_callbackRun_completionEvents :
    (completionEvents slot burst).filterMap Event.callbackRun =
      (dueCallback (slot, burst)).toList := by
  cases due : burst.onComplete <;>
    simp [completionEvents, List.filterMap_cons, Event.callbackRun,
      dueCallback, due]

/-- Apart from the completion and its callback there is nothing to see. -/
theorem filterMap_completionEvents_eq_nil
    {α : Type}
    (select : Event → Option α)
    (noCompletion : ∀ slot burst, select (.completed slot burst) = none)
    (noCallback : ∀ slot callback, select (.ran slot callback) = none) :
    (completionEvents slot burst).filterMap select = [] := by
  cases due : burst.onComplete <;>
    simp [completionEvents, noCompletion, noCallback, due]

@[simp] theorem filterMap_admission_completionEvents :
    (completionEvents slot burst).filterMap Event.admission = [] :=
  filterMap_completionEvents_eq_nil slot burst _ (fun _ _ => rfl)
    fun _ _ => rfl

@[simp] theorem filterMap_enqueuedOn_completionEvents (pcId : PcId) :
    (completionEvents slot burst).filterMap (Event.enqueuedOn pcId) = [] :=
  filterMap_completionEvents_eq_nil slot burst _ (fun _ _ => rfl)
    fun _ _ => rfl

@[simp] theorem filterMap_admittedOn_completionEvents (pcId : PcId) :
    (completionEvents slot burst).filterMap (Event.admittedOn pcId) = [] :=
  filterMap_completionEvents_eq_nil slot burst _ (fun _ _ => rfl)
    fun _ _ => rfl

end CompletionEvents

namespace Driver

variable {M : Type}

/-- The driver once the callbacks of a slot have run, and the burst's own
one. -/
def complete (driver : Driver M) (slot : Nat) :
    Driver M × Option Callback :=
  let (driver, callback) := driver.finish slot
  (callback.elim driver (driver.recordRun slot), callback)

theorem complete_eq (driver : Driver M) (slot : Nat) :
    driver.complete slot =
      match driver.inflight.lookup slot with
      | none => (driver, none)
      | some request =>
          let callback := request.burst.onComplete
          let driver :=
            { driver with
              inflight := driver.inflight.eraseP fun entry => entry.1 == slot
              history :=
                driver.history ++ completionEvents slot request.burst }
          if request.live then
            ({ driver with
                completed := driver.completed + 1
                bytesDone := driver.bytesDone + request.bytes
                outstandingRequests := driver.outstandingRequests - 1
                standardSparseInflight :=
                  if request.trackAsStandardSparse then
                    driver.standardSparseInflight - 1
                  else driver.standardSparseInflight },
              callback)
          else (driver, callback) := by
  unfold complete finish
  cases driver.inflight.lookup slot with
  | none => rfl
  | some request =>
      cases due : request.burst.onComplete with
      | none => cases live : request.live <;> simp [completionEvents, due, live]
      | some callback =>
          cases live : request.live <;>
            simp [completionEvents, recordRun, due, live]

/-- Slots and bursts in flight. -/
def inFlightBursts (driver : Driver M) : List (Nat × MemoryBurst) :=
  driver.inflight.map fun entry => (entry.1, entry.2.burst)

/-- Requests in flight that the running call admitted. -/
def liveRequests (driver : Driver M) : List (Nat × Request) :=
  driver.inflight.filter fun entry => entry.2.live

/-- A driver as a call of `run` finds it: no counter has moved, and the reads
in flight, if any, belong to earlier calls. -/
structure Entered (config : AdmissionConfig M) (driver : Driver M) : Prop where
  history_nil : driver.history = []
  completed_zero : driver.completed = 0
  bytesDone_zero : driver.bytesDone = 0
  outstanding_zero : driver.outstandingRequests = 0
  sparse_zero : driver.standardSparseInflight = 0
  tsvBytes_zero : driver.tsvBytesAdmitted = 0
  dead : ∀ entry ∈ driver.inflight, entry.2.live = false
  used : ∀ entry ∈ driver.inflight, entry.1 < driver.nextSlot
  distinct : (driver.inflight.map Prod.fst).Nodup
  held : config.ramulator.held driver.memory =
    ((driver.inflight.map Prod.fst : List Nat) : Multiset Nat)

/-- The accounts of a call that started from `initial`. -/
structure Accounts
    (config : AdmissionConfig M)
    (initial driver : Driver M) : Prop where
  fifo : ∀ pcId,
    (initial.mux.port pcId).pending ++
        driver.history.filterMap (Event.enqueuedOn pcId) =
      driver.history.filterMap (Event.admittedOn pcId) ++
        (driver.mux.port pcId).pending
  slots :
    (initial.inFlightBursts ++
        driver.history.filterMap Event.admission).Perm
      (driver.history.filterMap Event.completion ++ driver.inFlightBursts)
  distinct :
    ((initial.inFlightBursts ++
      driver.history.filterMap Event.admission).map Prod.fst).Nodup
  used : ∀ entry ∈ initial.inFlightBursts ++
    driver.history.filterMap Event.admission, entry.1 < driver.nextSlot
  nextSlot_eq : driver.nextSlot = initial.nextSlot +
    (driver.history.filterMap Event.admission).length
  fresh : ∀ entry ∈ driver.history.filterMap Event.admission,
    initial.nextSlot ≤ entry.1
  live : ∀ entry ∈ driver.inflight,
    entry.2.live = true ↔ initial.nextSlot ≤ entry.1
  tracked : ∀ entry ∈ driver.liveRequests,
    entry.2.trackAsStandardSparse = entry.2.burst.isStandardSparseRead
  outstanding : driver.outstandingRequests = driver.liveRequests.length
  admitted : driver.completed + driver.outstandingRequests =
    (driver.history.filterMap Event.admission).length
  bytes : driver.bytesDone +
      (driver.liveRequests.map fun entry => entry.2.bytes).sum =
    driver.tsvBytesAdmitted
  sparse : driver.standardSparseInflight =
    driver.liveRequests.countP fun entry => entry.2.trackAsStandardSparse
  serialized : config.serializeStandardSparseReads = true →
    driver.standardSparseInflight ≤ 1
  callbacks : driver.history.filterMap Event.callbackRun =
    (driver.history.filterMap Event.completion).filterMap dueCallback

/-- The memory holds exactly the slots in flight. -/
def Held (config : AdmissionConfig M) (driver : Driver M) : Prop :=
  config.ramulator.held driver.memory =
    ((driver.inflight.map Prod.fst : List Nat) : Multiset Nat)

namespace Accounts

variable {config : AdmissionConfig M} {initial driver : Driver M}

theorem nextSlot_ge (accounts : Accounts config initial driver) :
    initial.nextSlot ≤ driver.nextSlot := by
  have := accounts.nextSlot_eq
  omega

/-- The accounts of a call that has just begun. -/
theorem of_entered (entered : Entered config initial) :
    Accounts config initial initial := by
  have noLive : initial.liveRequests = [] := by
    simpa [liveRequests] using entered.dead
  constructor
  case fifo => simp [entered.history_nil]
  case slots => simp [entered.history_nil]
  case distinct =>
    simpa [entered.history_nil, inFlightBursts, Function.comp_def] using
      entered.distinct
  case used =>
    intro entry member
    simp only [entered.history_nil, List.filterMap_nil, List.append_nil,
      inFlightBursts, List.mem_map] at member
    obtain ⟨original, originalMember, rfl⟩ := member
    exact entered.used original originalMember
  case nextSlot_eq => simp [entered.history_nil]
  case fresh => simp [entered.history_nil]
  case live =>
    intro entry member
    have := entered.used entry member
    simp [entered.dead entry member]
    omega
  case tracked => simp [noLive]
  case outstanding => simp [noLive, entered.outstanding_zero]
  case admitted =>
    simp [entered.history_nil, entered.completed_zero,
      entered.outstanding_zero]
  case bytes => simp [noLive, entered.bytesDone_zero, entered.tsvBytes_zero]
  case sparse => simp [noLive, entered.sparse_zero]
  case serialized => simp [entered.sparse_zero]
  case callbacks => simp [entered.history_nil]

/-! ## Arrivals -/

/-- Events that neither admit nor complete anything leave all accounts but the
ports' alone. -/
theorem of_arrival
    (accounts : Accounts config initial driver)
    (mux : PseudoChannelMultiplexer)
    (events : List Event)
    (noAdmission : events.filterMap Event.admission = [])
    (noCompletion : events.filterMap Event.completion = [])
    (noCallback : events.filterMap Event.callbackRun = [])
    (fifo : ∀ pcId,
      (initial.mux.port pcId).pending ++
          (driver.history ++ events).filterMap (Event.enqueuedOn pcId) =
        (driver.history ++ events).filterMap (Event.admittedOn pcId) ++
          (mux.port pcId).pending) :
    Accounts config initial
      { driver with mux := mux, history := driver.history ++ events } := by
  have admissions : (driver.history ++ events).filterMap Event.admission =
      driver.history.filterMap Event.admission := by
    rw [List.filterMap_append, noAdmission, List.append_nil]
  have completions : (driver.history ++ events).filterMap Event.completion =
      driver.history.filterMap Event.completion := by
    rw [List.filterMap_append, noCompletion, List.append_nil]
  constructor
  case fifo => exact fifo
  case slots =>
    rw [admissions, completions]
    exact accounts.slots
  case distinct =>
    rw [admissions]
    exact accounts.distinct
  case used =>
    rw [admissions]
    exact accounts.used
  case nextSlot_eq =>
    rw [admissions]
    exact accounts.nextSlot_eq
  case fresh =>
    rw [admissions]
    exact accounts.fresh
  case live => exact accounts.live
  case tracked => exact accounts.tracked
  case outstanding => exact accounts.outstanding
  case admitted =>
    rw [admissions]
    exact accounts.admitted
  case bytes => exact accounts.bytes
  case sparse => exact accounts.sparse
  case serialized => exact accounts.serialized
  case callbacks =>
    rw [completions, List.filterMap_append, noCallback, List.append_nil]
    exact accounts.callbacks

/-- Queueing a burst keeps the accounts. -/
theorem enqueue
    (accounts : Accounts config initial driver)
    (via : Option Nat)
    (burst : MemoryBurst) :
    Accounts config initial (driver.enqueue via burst) := by
  apply accounts.of_arrival
  case noAdmission => rfl
  case noCompletion => rfl
  case noCallback => rfl
  case fifo =>
    intro pcId
    have balanced := accounts.fifo pcId
    by_cases same : pcId = burst.pcId
    · subst same
      simp only [List.filterMap_append, List.filterMap_cons,
        List.filterMap_nil, Event.enqueuedOn, Event.admittedOn,
        PseudoChannelMultiplexer.port_enqueue, if_true,
        PseudoChannelPort.pending_enqueue, List.append_nil]
      rw [← List.append_assoc, balanced, List.append_assoc]
    · have other : ¬ burst.pcId = pcId := fun equal => same equal.symm
      simpa [List.filterMap_cons, Event.enqueuedOn, Event.admittedOn, same,
        other] using balanced

/-- Handing bursts to a router keeps the accounts. -/
theorem recordRouted
    (accounts : Accounts config initial driver)
    (router : Nat)
    (producer : Producer)
    (bursts : List MemoryBurst) :
    Accounts config initial (driver.recordRouted router producer bursts) := by
  apply accounts.of_arrival
  case noAdmission =>
    simp [List.filterMap_map, Function.comp_def, Event.admission]
  case noCompletion =>
    simp [List.filterMap_map, Function.comp_def, Event.completion]
  case noCallback =>
    simp [List.filterMap_map, Function.comp_def, Event.callbackRun]
  case fifo =>
    intro pcId
    simpa [List.filterMap_map, Function.comp_def, Event.enqueuedOn,
      Event.admittedOn] using accounts.fifo pcId

/-! ## Admission -/

/-- Admitting the front burst of a port keeps the accounts. -/
theorem acceptRead
    (accounts : Accounts config initial driver)
    {pcId : PcId}
    {burst : MemoryBurst}
    {rest : List MemoryBurst}
    (front : (driver.mux.port pcId).pending = burst :: rest)
    (allowed : driver.serialized config burst = false)
    (memory : M) :
    Accounts config initial (driver.acceptRead pcId burst memory) := by
  constructor
  case fifo =>
    intro port
    have balanced := accounts.fifo port
    by_cases same : port = pcId
    · subst same
      simp [Driver.acceptRead, List.filterMap_cons, Event.enqueuedOn,
        Event.admittedOn, front, balanced]
    · have other : ¬ pcId = port := fun equal => same equal.symm
      simpa [Driver.acceptRead, List.filterMap_cons, Event.enqueuedOn,
        Event.admittedOn, same, other] using balanced
  case slots =>
    have slots := accounts.slots.append_right [(driver.nextSlot, burst)]
    simpa [Driver.acceptRead, List.filterMap_cons, Event.admission,
      Event.completion, inFlightBursts] using slots
  case distinct =>
    have fresh : driver.nextSlot ∉ (initial.inFlightBursts ++
        driver.history.filterMap Event.admission).map Prod.fst := by
      intro member
      obtain ⟨entry, entryMember, slotEqual⟩ := List.mem_map.mp member
      have := accounts.used entry entryMember
      omega
    have extended := accounts.distinct.concat fresh
    simpa [Driver.acceptRead, List.filterMap_cons, Event.admission] using
      extended
  case used =>
    intro entry member
    simp only [Driver.acceptRead, List.filterMap_append, List.filterMap_cons,
      List.filterMap_nil, Event.admission, ← List.append_assoc,
      List.mem_append (t := [_]), List.mem_singleton] at member
    change entry.1 < driver.nextSlot + 1
    rcases member with old | new
    · have := accounts.used entry old
      omega
    · rw [new]
      exact Nat.lt_succ_self _
  case nextSlot_eq =>
    have counted := accounts.nextSlot_eq
    simp only [Driver.acceptRead, List.filterMap_append, List.filterMap_cons,
      List.filterMap_nil, Event.admission, List.length_append,
      List.length_singleton]
    omega
  case fresh =>
    intro entry member
    simp only [Driver.acceptRead, List.filterMap_append, List.filterMap_cons,
      List.filterMap_nil, Event.admission, List.mem_append,
      List.mem_singleton] at member
    rcases member with old | new
    · exact accounts.fresh entry old
    · rw [new]
      exact accounts.nextSlot_ge
  case live =>
    intro entry member
    simp only [Driver.acceptRead, List.mem_append, List.mem_singleton] at member
    rcases member with old | rfl
    · exact accounts.live entry old
    · simpa using accounts.nextSlot_ge
  case tracked =>
    intro entry member
    simp only [liveRequests, Driver.acceptRead, List.filter_append,
      List.mem_append] at member
    rcases member with old | new
    · exact accounts.tracked entry old
    · simp only [List.filter_cons, List.filter_nil, if_true,
        List.mem_singleton] at new
      rw [new]
  case outstanding =>
    simp [Driver.acceptRead, liveRequests, accounts.outstanding]
  case admitted =>
    have total := accounts.admitted
    simp only [Driver.acceptRead, List.filterMap_append, List.filterMap_cons,
      List.filterMap_nil, Event.admission, List.length_append,
      List.length_singleton]
    omega
  case bytes =>
    have total := accounts.bytes
    simp only [liveRequests] at total
    simp only [Driver.acceptRead, liveRequests, List.filter_append,
      List.filter_cons, List.filter_nil, if_true, List.map_append,
      List.map_cons, List.map_nil, List.sum_append, List.sum_singleton,
      Request.bytes] at total ⊢
    omega
  case sparse =>
    have counted := accounts.sparse
    cases track : burst.isStandardSparseRead <;>
      simp [Driver.acceptRead, liveRequests, track, List.countP_append]
        at counted ⊢ <;>
      omega
  case serialized =>
    intro serialize
    have atMostOne := accounts.serialized serialize
    cases track : burst.isStandardSparseRead
    · simpa [Driver.acceptRead, track] using atMostOne
    · have none : driver.standardSparseInflight = 0 := by
        simpa [Driver.serialized, serialize, track] using allowed
      simp [Driver.acceptRead, track, none]
  case callbacks =>
    simpa [Driver.acceptRead, List.filterMap_cons, Event.callbackRun,
      Event.completion] using accounts.callbacks

/-! ## Completion -/

/-- The entry a slot is looked up at, and the table without it. -/
theorem lookup_split
    {entries : List (Nat × Request)}
    {slot : Nat}
    {request : Request}
    (found : entries.lookup slot = some request) :
    ∃ before after, entries = before ++ (slot, request) :: after ∧
      (entries.eraseP fun entry => entry.1 == slot) = before ++ after := by
  induction entries with
  | nil => simp at found
  | cons entry rest inductionHypothesis =>
      obtain ⟨key, value⟩ := entry
      by_cases same : key = slot
      · subst same
        have valueEqual : value = request := by
          simpa [List.lookup_cons] using found
        subst valueEqual
        exact ⟨[], rest, rfl, by simp⟩
      · have later : rest.lookup slot = some request := by
          have differ : (slot == key) = false := by
            simpa using fun equal : slot = key => same equal.symm
          simpa [List.lookup_cons, differ] using found
        obtain ⟨before, after, split, erased⟩ := inductionHypothesis later
        refine ⟨(key, value) :: before, after, by rw [split]; rfl, ?_⟩
        simp [same, erased]

/-- Every counter of the source is guarded against underflow, but the guards
never fire: completing a slot keeps the accounts. -/
theorem complete
    (accounts : Accounts config initial driver)
    (slot : Nat) :
    Accounts config initial (driver.complete slot).1 := by
  cases found : driver.inflight.lookup slot with
  | none => simpa [Driver.complete_eq, found] using accounts
  | some request =>
      obtain ⟨before, after, split, erased⟩ := lookup_split found
      have slots : (initial.inFlightBursts ++
          driver.history.filterMap Event.admission).Perm
          (driver.history.filterMap Event.completion ++
            ((slot, request.burst) :: (before ++ after).map
              fun entry => (entry.1, entry.2.burst))) := by
        refine accounts.slots.trans (List.Perm.append_left _ ?_)
        rw [inFlightBursts, split, List.map_append, List.map_cons,
          List.map_append]
        exact List.perm_middle
      have live : ∀ entry ∈ before ++ after,
          entry.2.live = true ↔ initial.nextSlot ≤ entry.1 := by
        intro entry member
        apply accounts.live entry
        rw [split]
        simp only [List.mem_append, List.mem_cons] at member ⊢
        tauto
      have tracked : ∀ entry ∈ (before ++ after).filter fun entry =>
          entry.2.live,
          entry.2.trackAsStandardSparse =
            entry.2.burst.isStandardSparseRead := by
        intro entry member
        apply accounts.tracked entry
        rw [liveRequests, split]
        simp only [List.mem_filter, List.mem_append, List.mem_cons]
          at member ⊢
        tauto
      have callbacks :
          (driver.history ++ completionEvents slot request.burst).filterMap
              Event.callbackRun =
            ((driver.history ++ completionEvents slot request.burst).filterMap
              Event.completion).filterMap dueCallback := by
        simp only [List.filterMap_append, accounts.callbacks,
          filterMap_callbackRun_completionEvents,
          filterMap_completion_completionEvents, List.filterMap_cons,
          List.filterMap_nil]
        cases dueCallback (slot, request.burst) <;> rfl
      have outstanding := accounts.outstanding
      have admitted := accounts.admitted
      have bytes := accounts.bytes
      have sparse := accounts.sparse
      have serialized := accounts.serialized
      rw [liveRequests, split] at outstanding bytes sparse
      cases isLive : request.live
      case false =>
        simp only [Driver.complete_eq, found, isLive, erased,
          Bool.false_eq_true, if_false]
        simp only [List.filter_append, List.filter_cons, isLive,
          Bool.false_eq_true, if_false] at outstanding bytes sparse
        constructor
        case fifo => simpa using accounts.fifo
        case slots => simpa [inFlightBursts] using slots
        case distinct => simpa using accounts.distinct
        case used => simpa using accounts.used
        case nextSlot_eq => simpa using accounts.nextSlot_eq
        case fresh => simpa using accounts.fresh
        case live => exact live
        case tracked => exact tracked
        case outstanding => simpa [liveRequests] using outstanding
        case admitted => simpa using admitted
        case bytes => simpa [liveRequests] using bytes
        case sparse => simpa [liveRequests] using sparse
        case serialized => exact serialized
        case callbacks => exact callbacks
      case true =>
        simp only [Driver.complete_eq, found, isLive, erased, if_true]
        simp only [List.filter_append, List.filter_cons, isLive, if_true,
          List.length_append, List.length_cons, List.map_append,
          List.map_cons, List.sum_append, List.sum_cons, List.countP_append,
          List.countP_cons] at outstanding bytes sparse
        constructor
        case fifo => simpa using accounts.fifo
        case slots => simpa [inFlightBursts] using slots
        case distinct => simpa using accounts.distinct
        case used => simpa using accounts.used
        case nextSlot_eq => simpa using accounts.nextSlot_eq
        case fresh => simpa using accounts.fresh
        case live => exact live
        case tracked => exact tracked
        case outstanding =>
          simp only [liveRequests, List.filter_append, List.length_append]
          omega
        case admitted =>
          simp only [List.filterMap_append,
            filterMap_admission_completionEvents, List.append_nil]
          omega
        case bytes =>
          simp only [liveRequests, List.filter_append, List.map_append,
            List.sum_append]
          omega
        case sparse =>
          simp only [liveRequests, List.filter_append, List.countP_append]
          cases track : request.trackAsStandardSparse <;>
            simp [track] at sparse ⊢ <;>
            omega
        case serialized =>
          intro serialize
          have := serialized serialize
          cases track : request.trackAsStandardSparse <;>
            simp <;>
            omega
        case callbacks => exact callbacks

end Accounts

section CompleteAll

variable {config : AdmissionConfig M} {initial driver : Driver M}

/-- Complete several slots, in the order they fire. -/
def completeAll (driver : Driver M) (fired : List Nat) : Driver M :=
  fired.foldl (fun driver slot => (driver.complete slot).1) driver

theorem Accounts.completeAll
    (accounts : Accounts config initial driver)
    (fired : List Nat) :
    Accounts config initial (driver.completeAll fired) := by
  unfold Driver.completeAll
  induction fired generalizing driver with
  | nil => exact accounts
  | cons slot rest inductionHypothesis =>
      exact inductionHypothesis (accounts.complete slot)

@[simp] theorem complete_memory
    (driver : Driver M)
    (slot : Nat) : (driver.complete slot).1.memory = driver.memory := by
  rw [Driver.complete_eq]
  split
  · rfl
  · simp only
    split <;> rfl

@[simp] theorem complete_mux
    (driver : Driver M)
    (slot : Nat) : (driver.complete slot).1.mux = driver.mux := by
  rw [Driver.complete_eq]
  split
  · rfl
  · simp only
    split <;> rfl

@[simp] theorem complete_nextSlot
    (driver : Driver M)
    (slot : Nat) : (driver.complete slot).1.nextSlot = driver.nextSlot := by
  rw [Driver.complete_eq]
  split
  · rfl
  · simp only
    split <;> rfl

section InFlight

variable {slot : Nat} {request : Request}
  (found : driver.inflight.lookup slot = some request)
include found

theorem complete_inflight :
    (driver.complete slot).1.inflight =
      driver.inflight.eraseP fun entry => entry.1 == slot := by
  simp only [Driver.complete_eq, found]
  cases request.live <;> rfl

theorem complete_history :
    (driver.complete slot).1.history =
      driver.history ++ completionEvents slot request.burst := by
  simp only [Driver.complete_eq, found]
  cases request.live <;> rfl

/-- The callback that has to run is the burst's own. -/
theorem complete_callback :
    (driver.complete slot).2 = request.burst.onComplete := by
  simp only [Driver.complete_eq, found]
  cases request.live <;> rfl

end InFlight

@[simp] theorem completeAll_mux
    (driver : Driver M)
    (fired : List Nat) : (driver.completeAll fired).mux = driver.mux := by
  unfold Driver.completeAll
  apply Sweep.observe_foldl (fun reached : Driver M => reached.mux)
  intro reached slot
  apply complete_mux

/-- Completing a slot in flight takes it out of the table, once. -/
theorem complete_slots
    {slot : Nat}
    (member : slot ∈ driver.inflight.map Prod.fst) :
    ((driver.inflight.map Prod.fst : List Nat) : Multiset Nat) =
      slot ::ₘ
        (((driver.complete slot).1.inflight.map Prod.fst : List Nat) :
          Multiset Nat) := by
  cases found : driver.inflight.lookup slot with
  | none =>
      obtain ⟨entry, entryMember, rfl⟩ := List.mem_map.mp member
      simpa using List.lookup_eq_none_iff.mp found entry entryMember
  | some request =>
      obtain ⟨before, after, split, erased⟩ := Accounts.lookup_split found
      rw [complete_inflight found, erased, split, Multiset.cons_coe,
        Multiset.coe_eq_coe, List.map_append, List.map_cons, List.map_append]
      exact List.perm_middle

/-- When the table covers what the memory holds and what just fired, it is
left with what the memory holds. -/
theorem held_completeAll
    (fired : List Nat)
    (held : config.ramulator.held driver.memory + (fired : Multiset Nat) =
      ((driver.inflight.map Prod.fst : List Nat) : Multiset Nat)) :
    Held config (driver.completeAll fired) := by
  unfold Driver.completeAll
  induction fired generalizing driver with
  | nil => simpa [Held] using held
  | cons slot rest inductionHypothesis =>
      have member : slot ∈ driver.inflight.map Prod.fst := by
        rw [← Multiset.mem_coe, ← held]
        simp
      apply inductionHypothesis
      rw [complete_slots member, ← Multiset.cons_coe, Multiset.add_cons]
        at held
      rw [complete_memory]
      exact (Multiset.cons_inj_right slot).mp held

end CompleteAll

/-- Queueing several bursts keeps the accounts. -/
theorem Accounts.enqueueAll
    {config : AdmissionConfig M}
    {initial driver : Driver M}
    (accounts : Accounts config initial driver)
    (via : Option Nat)
    (bursts : List MemoryBurst) :
    Accounts config initial (driver.enqueueAll via bursts) := by
  unfold Driver.enqueueAll
  induction bursts generalizing driver with
  | nil => exact accounts
  | cons burst rest inductionHypothesis =>
      exact inductionHypothesis (accounts.enqueue via burst)

/-- Queueing bursts touches neither the memory nor the requests in flight. -/
theorem Held.enqueueAll
    {config : AdmissionConfig M}
    {driver : Driver M}
    (held : Held config driver)
    (via : Option Nat)
    (bursts : List MemoryBurst) :
    Held config (driver.enqueueAll via bursts) := by
  unfold Driver.enqueueAll
  induction bursts generalizing driver with
  | nil => exact held
  | cons burst rest inductionHypothesis => exact inductionHypothesis held

end Driver

namespace WaveLoop

variable {M : Type} {config : AdmissionConfig M}

/-- What a visit can do: nothing, or admit the front burst of a port that
serialization, the byte budget and the memory all let through. -/
theorem visitPort_cases
    (config : AdmissionConfig M)
    (loop : WaveLoop M)
    (pcId : PcId) :
    visitPort config loop pcId = loop ∨
      ∃ burst rest memory,
        (loop.driver.mux.port pcId).pending = burst :: rest ∧
        loop.driver.serialized config burst = false ∧
        config.overBudget loop.tsvUsedThisTick burst.bytes = false ∧
        config.ramulator.send loop.driver.memory burst.addr
          loop.driver.nextSlot = some memory ∧
        visitPort config loop pcId =
          { loop with
            driver := loop.driver.acceptRead pcId burst memory
            tsvUsedThisTick := loop.tsvUsedThisTick + burst.bytes
            waveProgress := true } := by
  unfold visitPort PseudoChannelPort.front
  cases pending : (loop.driver.mux.port pcId).pending with
  | nil => exact Or.inl rfl
  | cons burst rest =>
      simp only [List.head?_cons]
      by_cases serialized : loop.driver.serialized config burst = true
      · exact Or.inl (if_pos serialized)
      · rw [if_neg serialized]
        by_cases exceeds :
            config.overBudget loop.tsvUsedThisTick burst.bytes = true
        · exact Or.inl (if_pos exceeds)
        · rw [if_neg exceeds]
          cases sent : config.ramulator.send loop.driver.memory burst.addr
              loop.driver.nextSlot with
          | none => exact Or.inl rfl
          | some memory =>
              exact Or.inr ⟨burst, rest, memory, rfl,
                Bool.not_eq_true _ ▸ serialized, Bool.not_eq_true _ ▸ exceeds,
                sent, rfl⟩

/-- A visit that admits nothing changes nothing. -/
theorem flagged_visitPort (config : AdmissionConfig M) :
    Sweep.Flagged (visitPort config) WaveLoop.waveProgress := by
  constructor
  · intro loop pcId
    rcases visitPort_cases config loop pcId with
      skipped | ⟨_, _, _, _, _, _, _, admitted⟩
    · exact Or.inl skipped
    · right
      rw [admitted]
  · intro loop pcId progress
    rcases visitPort_cases config loop pcId with
      skipped | ⟨_, _, _, _, _, _, _, admitted⟩
    · rw [skipped]
      exact progress
    · rw [admitted]

/-- A sweep without progress has only counted its wave, and no port would be
served in another turn. -/
theorem sweep_of_noProgress
    {config : AdmissionConfig M}
    {loop : WaveLoop M}
    (noProgress : (loop.sweep config).waveProgress = false) :
    loop.sweep config =
        { loop with waveCount := loop.waveCount + 1, waveProgress := false } ∧
      ∀ pcId, visitPort config (loop.sweep config) pcId =
        loop.sweep config := by
  obtain ⟨unchanged, same⟩ :=
    (flagged_visitPort config).foldl_of_not_raised _ noProgress
  refine ⟨unchanged, ?_⟩
  intro pcId
  rw [WaveLoop.sweep, unchanged]
  exact same pcId (RoundRobin.mem_order _ pcId)

/-- A property of drivers that every admission keeps. -/
def KeptByAdmission (config : AdmissionConfig M) (kept : Driver M → Prop) :
    Prop :=
  ∀ (driver : Driver M) (pcId : PcId) (burst : MemoryBurst)
    (rest : List MemoryBurst) (memory : M),
    kept driver →
    (driver.mux.port pcId).pending = burst :: rest →
    driver.serialized config burst = false →
    config.ramulator.send driver.memory burst.addr driver.nextSlot =
      some memory →
    kept (driver.acceptRead pcId burst memory)

variable {kept : Driver M → Prop}

theorem kept_visitPort
    (acceptRead : KeptByAdmission config kept)
    {loop : WaveLoop M}
    (holds : kept loop.driver)
    (pcId : PcId) :
    kept (visitPort config loop pcId).driver := by
  rcases visitPort_cases config loop pcId with
    same | ⟨burst, rest, memory, front, allowed, _, sent, admitted⟩
  · rw [same]
    exact holds
  · rw [admitted]
    exact acceptRead loop.driver pcId burst rest memory holds front allowed sent

theorem kept_sweep
    (acceptRead : KeptByAdmission config kept)
    {loop : WaveLoop M}
    (holds : kept loop.driver) :
    kept (loop.sweep config).driver := by
  unfold sweep
  refine List.foldlRecOn (motive := fun loop : WaveLoop M => kept loop.driver)
    _ _ ?_ ?_
  · exact holds
  · intro loop loopHolds pcId _
    exact kept_visitPort acceptRead loopHolds pcId

theorem kept_runWaves
    (acceptRead : KeptByAdmission config kept)
    (fuel : Nat)
    {loop : WaveLoop M}
    (holds : kept loop.driver) :
    kept (runWaves config fuel loop).driver := by
  induction fuel generalizing loop with
  | zero => exact holds
  | succ fuel inductionHypothesis =>
      unfold runWaves
      split
      · exact inductionHypothesis (kept_sweep acceptRead holds)
      · exact holds

/-- What every admission keeps, the wave loop of a cycle keeps. -/
theorem kept_admissionLoop
    (acceptRead : KeptByAdmission config kept)
    {driver : Driver M}
    (holds : kept driver) :
    kept (driver.admissionLoop config).driver :=
  kept_runWaves acceptRead _ holds

theorem keptByAdmission_accounts (initial : Driver M) :
    KeptByAdmission config (Driver.Accounts config initial) :=
  fun _ _ _ _ memory accounts front allowed _ =>
    accounts.acceptRead front allowed memory

theorem keptByAdmission_held :
    KeptByAdmission config (Driver.Held config) := by
  intro driver pcId burst rest memory held front allowed sent
  have next := config.ramulator.held_send sent
  rw [Driver.Held] at held ⊢
  rw [Driver.acceptRead, next, held]
  simp only [List.map_append, List.map_cons, List.map_nil]
  rw [← Multiset.coe_add, ← Multiset.singleton_add, add_comm]
  rfl

end WaveLoop

end PimGraphs
