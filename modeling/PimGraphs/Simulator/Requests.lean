import PimGraphs.Simulator.Delivery

/-!
# Requests and completions of one callback

What a history says about the bursts that are to run one callback: those
requested, of a router or directly of a port, and those completed.  As long as
none was on its way before, no more are completed than have been requested.
-/

namespace PimGraphs

namespace Event

/-- The burst an event sends on its way, to a router or directly to a port. -/
def requested : Event → Option MemoryBurst
  | .routed _ _ burst => some burst
  | .enqueued none _ burst => some burst
  | _ => none

/-- The event requests or completes a burst with a callback. -/
def Concerns (callback : Callback) (event : Event) : Prop :=
  ∃ burst,
    (event.requested = some burst ∨ event.completedBurst = some burst) ∧
      burst.onComplete = some callback

theorem requested_of_handedOver
    {attached : Option Nat}
    {event : Event}
    {burst : MemoryBurst}
    (handedOver : event.handedOver attached = some burst) :
    event.requested = some burst := by
  cases event with
  | routed router producer other =>
      simp only [Event.handedOver] at handedOver
      split at handedOver
      · exact handedOver
      · exact absurd handedOver.symm (Option.some_ne_none burst)
  | enqueued via pcId other =>
      cases via with
      | none => exact handedOver
      | some router => exact absurd handedOver.symm (Option.some_ne_none burst)
  | admitted _ _ _ => exact absurd handedOver.symm (Option.some_ne_none burst)
  | completed _ _ => exact absurd handedOver.symm (Option.some_ne_none burst)
  | ran _ _ => exact absurd handedOver.symm (Option.some_ne_none burst)

end Event

namespace MemoryBurst

/-- The burst is to run a callback. -/
def runs (callback : Callback) (burst : MemoryBurst) : Bool :=
  decide (burst.onComplete = some callback)

end MemoryBurst

/-- The bursts requested in a history that are to run a callback. -/
def requestsFor (callback : Callback) (history : List Event) :
    List MemoryBurst :=
  (history.filterMap Event.requested).filter (MemoryBurst.runs callback)

/-- The bursts completed in a history that have run a callback. -/
def completionsFor (callback : Callback) (history : List Event) :
    List MemoryBurst :=
  (history.filterMap Event.completedBurst).filter (MemoryBurst.runs callback)

section History

variable {callback : Callback}

theorem requestsFor_append (callback : Callback) (first second : List Event) :
    requestsFor callback (first ++ second) =
      requestsFor callback first ++ requestsFor callback second := by
  rw [requestsFor, List.filterMap_append, List.filter_append]
  rfl

theorem completionsFor_append
    (callback : Callback)
    (first second : List Event) :
    completionsFor callback (first ++ second) =
      completionsFor callback first ++ completionsFor callback second := by
  rw [completionsFor, List.filterMap_append, List.filter_append]
  rfl

theorem requestsFor_of_not_concerns
    {events : List Event}
    (others : ∀ event ∈ events, ¬ event.Concerns callback) :
    requestsFor callback events = [] := by
  apply List.filter_eq_nil_iff.mpr
  intro burst member
  obtain ⟨event, isEvent, isRequest⟩ := List.mem_filterMap.mp member
  intro runs
  exact others event isEvent
    ⟨burst, Or.inl isRequest, of_decide_eq_true runs⟩

theorem completionsFor_of_not_concerns
    {events : List Event}
    (others : ∀ event ∈ events, ¬ event.Concerns callback) :
    completionsFor callback events = [] := by
  apply List.filter_eq_nil_iff.mpr
  intro burst member
  obtain ⟨event, isEvent, isCompletion⟩ := List.mem_filterMap.mp member
  intro runs
  exact others event isEvent
    ⟨burst, Or.inr isCompletion, of_decide_eq_true runs⟩

/-- Events that request bursts and complete nothing. -/
theorem requestsFor_map
    (callback : Callback)
    {event : MemoryBurst → Event}
    (requests : ∀ burst, (event burst).requested = some burst)
    (bursts : List MemoryBurst) :
    requestsFor callback (bursts.map event) =
      bursts.filter (MemoryBurst.runs callback) := by
  have all : (bursts.map event).filterMap Event.requested = bursts := by
    rw [List.filterMap_map]
    exact (List.filterMap_congr fun burst _ => requests burst).trans
      List.filterMap_some
  rw [requestsFor, all]

theorem completionsFor_map
    (callback : Callback)
    {event : MemoryBurst → Event}
    (completesNothing : ∀ burst, (event burst).completedBurst = none)
    (bursts : List MemoryBurst) :
    completionsFor callback (bursts.map event) = [] := by
  have none : (bursts.map event).filterMap Event.completedBurst = [] := by
    rw [List.filterMap_map]
    exact List.filterMap_eq_nil_iff.mpr fun burst _ => completesNothing burst
  rw [completionsFor, none]
  rfl

theorem filter_runs_eq_self
    {bursts : List MemoryBurst}
    (run : ∀ burst ∈ bursts, burst.onComplete = some callback) :
    bursts.filter (MemoryBurst.runs callback) = bursts :=
  List.filter_eq_self.mpr fun burst member =>
    decide_eq_true (run burst member)

theorem filter_runs_eq_nil
    {other : Callback}
    {bursts : List MemoryBurst}
    (run : ∀ burst ∈ bursts, burst.onComplete = some other)
    (differs : other ≠ callback) :
    bursts.filter (MemoryBurst.runs callback) = [] :=
  List.filter_eq_nil_iff.mpr fun burst member runs =>
    differs (Option.some.inj
      ((run burst member).symm.trans (of_decide_eq_true runs)))

/-- A completion requests nothing and completes its burst. -/
theorem requestsFor_completionEvents
    (callback : Callback)
    (slot : Nat)
    (burst : MemoryBurst) :
    requestsFor callback (completionEvents slot burst) = [] := by
  rw [requestsFor, filterMap_completionEvents_eq_nil slot burst _
    (fun _ _ => rfl) fun _ _ => rfl]
  rfl

theorem completionsFor_completionEvents
    (callback : Callback)
    (slot : Nat)
    (burst : MemoryBurst) :
    completionsFor callback (completionEvents slot burst) =
      [burst].filter (MemoryBurst.runs callback) := by
  unfold completionsFor completionEvents
  cases burst.onComplete with
  | none => rfl
  | some own => rfl

/-- What is handed over has been requested. -/
theorem countP_handedOver_le
    (attached : Option Nat)
    (history : List Event) :
    (history.filterMap (Event.handedOver attached)).countP
        (MemoryBurst.runs callback) ≤
      (requestsFor callback history).length := by
  rw [requestsFor, ← List.countP_eq_length_filter]
  induction history with
  | nil => exact Nat.le_refl 0
  | cons event rest inductionHypothesis =>
      cases handed : event.handedOver attached with
      | none =>
          rw [List.filterMap_cons_none handed]
          refine inductionHypothesis.trans ?_
          exact ((List.sublist_cons_self event rest).filterMap _).countP_le
      | some burst =>
          rw [List.filterMap_cons_some handed, List.filterMap_cons_some
            (Event.requested_of_handedOver handed), List.countP_cons,
            List.countP_cons]
          exact Nat.add_le_add_right inductionHypothesis _

end History

/-- No burst on its way runs the callback. -/
def NoneOnTheWay {M : Type}
    (attached : Option Nat)
    (callback : Callback)
    (traffic : Traffic M) : Prop :=
  ∀ burst ∈ toDo attached traffic, burst.onComplete ≠ some callback

theorem countP_coe_runs (callback : Callback) (bursts : List MemoryBurst) :
    (bursts : Multiset MemoryBurst).countP
        (fun burst => burst.runs callback = true) =
      bursts.countP (MemoryBurst.runs callback) := by
  rw [Multiset.coe_countP]
  exact List.countP_congr fun burst _ => by rw [decide_eq_true_eq]

/-- A read in flight has been requested and has not completed. -/
theorem Conserved.completions_lt
    {M : Type}
    {attached : Option Nat}
    {callback : Callback}
    {initial : Traffic M}
    {routers : Nat → HierarchicalRouter}
    {driver : Driver M}
    (conserved : Conserved attached initial (routers, driver))
    (none : NoneOnTheWay attached callback initial)
    {slot : Nat}
    {request : Request}
    (found : driver.inflight.lookup slot = some request)
    (runs : request.burst.onComplete = some callback) :
    (completionsFor callback driver.history).length <
      (requestsFor callback driver.history).length := by
  have counts := congrArg (Multiset.countP fun burst : MemoryBurst =>
    burst.runs callback = true) conserved
  have noneInitially : (toDo attached initial).countP
      (fun burst => burst.runs callback = true) = 0 :=
    Multiset.countP_eq_zero.mpr fun burst member =>
      fun claims => none burst member (of_decide_eq_true claims)
  have underWay : 0 < (toDo attached (routers, driver)).countP
      (fun burst => burst.runs callback = true) := by
    apply Multiset.countP_pos.mpr
    refine ⟨request.burst, ?_, decide_eq_true runs⟩
    obtain ⟨before, after, split, -⟩ := Driver.Accounts.lookup_split found
    refine Multiset.mem_add.mpr (Or.inr ?_)
    simp only [Driver.inFlightBursts, split, List.map_append, List.map_cons,
      Multiset.mem_coe]
    exact List.mem_append_right _ List.mem_cons_self
  have handed : _ ≤ (requestsFor callback driver.history).length :=
    countP_handedOver_le attached driver.history
  rw [Multiset.countP_add, Multiset.countP_add, noneInitially,
    countP_coe_runs, countP_coe_runs] at counts
  dsimp only at counts
  have completed : (completionsFor callback driver.history).length =
      (driver.history.filterMap Event.completedBurst).countP
        (MemoryBurst.runs callback) :=
    List.countP_eq_length_filter.symm
  omega

/-- When nothing is on its way and all that was requested has been handed over,
all that was requested has completed. -/
theorem Conserved.completions_eq
    {M : Type}
    {attached : Option Nat}
    {callback : Callback}
    {initial last : Traffic M}
    (conserved : Conserved attached initial last)
    (none : NoneOnTheWay attached callback initial)
    (handedOver : ∀ event ∈ last.2.history, ∀ burst,
      event.requested = some burst → event.handedOver attached = some burst)
    (nothing : toDo attached last = 0) :
    (completionsFor callback last.2.history).length =
      (requestsFor callback last.2.history).length := by
  have counts := congrArg (Multiset.countP fun burst : MemoryBurst =>
    burst.runs callback = true) conserved
  have noneInitially : (toDo attached initial).countP
      (fun burst => burst.runs callback = true) = 0 :=
    Multiset.countP_eq_zero.mpr fun burst member =>
      fun claims => none burst member (of_decide_eq_true claims)
  have requested : last.2.history.filterMap (Event.handedOver attached) =
      last.2.history.filterMap Event.requested := by
    refine List.filterMap_congr fun event member => ?_
    cases isRequest : event.requested with
    | some burst => exact handedOver event member burst isRequest
    | none =>
        cases isHanded : event.handedOver attached with
        | none => rfl
        | some burst =>
            exact absurd ((Event.requested_of_handedOver isHanded).symm.trans
              isRequest) (Option.some_ne_none burst)
  rw [requested, nothing, add_zero, Multiset.countP_add, noneInitially,
    Nat.zero_add, countP_coe_runs, countP_coe_runs] at counts
  rw [completionsFor, requestsFor, ← List.countP_eq_length_filter,
    ← List.countP_eq_length_filter]
  exact counts.symm

theorem Driver.history_enqueueAll
    {M : Type}
    (driver : Driver M)
    (via : Option Nat)
    (bursts : List MemoryBurst) :
    (driver.enqueueAll via bursts).history =
      driver.history ++
        bursts.map fun burst => .enqueued via burst.pcId burst := by
  unfold enqueueAll
  induction bursts generalizing driver with
  | nil => rw [List.foldl_nil, List.map_nil, List.append_nil]
  | cons burst rest inductionHypothesis =>
      rw [List.foldl_cons, inductionHypothesis, Driver.enqueue, List.map_cons,
        List.append_assoc, List.singleton_append]

end PimGraphs
