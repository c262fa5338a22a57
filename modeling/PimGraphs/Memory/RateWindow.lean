import PimGraphs.Memory.RouterLink

/-!
# What the router delivers in a window

The credit of a class grows at every tick, also while the class has nothing to
send, and is never cut back.  What a class delivers within some consecutive
ticks therefore exceeds its rate by as much credit as it has saved before; the
rate holds over every window only as long as no class saves more than one burst
while it is idle.
-/

namespace PimGraphs

open HierarchicalRouter

namespace RouterLink

/-- Bytes of a class delivered to the ports so far. -/
def bytesDelivered (link : RouterLink) (traffic : TrafficClass) : ℚ :=
  ((ofClass traffic link.sent).map fun burst => (burst.bytes : ℚ)).sum

/-- Bytes of a class delivered within a window of events. -/
def deliveredDuring
    (clockHz : ℚ)
    (mux : PseudoChannelMultiplexer)
    (traffic : TrafficClass)
    (before window : List Event) : ℚ :=
  (run clockHz mux (before ++ window)).bytesDelivered traffic -
    (run clockHz mux before).bytesDelivered traffic

/-- Size of the largest burst of a class that is handed to the router. -/
def largestBurst (traffic : TrafficClass) (events : List Event) : Nat :=
  ((ofClass traffic (enqueued events)).map MemoryBurst.bytes).foldr max 0

/-- A class keeps its rate over every window of a run, up to one burst. -/
def KeepsRate
    (clockHz : ℚ)
    (mux : PseudoChannelMultiplexer)
    (events : List Event)
    (traffic : TrafficClass) : Prop :=
  ∀ before window, before ++ window <+: events →
    deliveredDuring clockHz mux traffic before window ≤
      ticks window * traffic.rate clockHz + largestBurst traffic events

/-- When the router ticks, the class has nothing queued or has saved no more
credit than a limit. -/
def Unsaved
    (traffic : TrafficClass)
    (limit : ℚ)
    (link : RouterLink)
    (event : Event) : Prop :=
  event = .tick → link.router.queueOf traffic = [] ∨
    link.router.creditOf traffic ≤ limit

/-- A class that does not save has a bucket that does not. -/
theorem unsaved_eventsOf
    {traffic : TrafficClass}
    {limit : ℚ}
    {link : RouterLink}
    (classified : link.router.Classified)
    {events : List Event}
    (unsaved : Run.Along next (Unsaved traffic limit) link events) :
    Run.Along
      (TokenBucket.next (fun burst : MemoryBurst => (burst.bytes : ℚ))
        (link.router.rateOf traffic))
      (TokenBucket.Unsaved limit) (link.bucketOf traffic)
      (eventsOf traffic events) := by
  induction events generalizing link with
  | nil => exact Run.along_nil
  | cons event rest inductionHypothesis =>
      obtain ⟨first, later⟩ := Run.along_cons.mp unsaved
      have bucket := bucketOf_next link classified traffic event
      cases event with
      | enqueueRequest burst =>
          obtain ⟨-, rate, -⟩ := link.router.enqueueRequest_eq burst traffic
          have others := inductionHypothesis
            (classified.enqueueRequest burst) later
          rw [show (link.next (.enqueueRequest burst)).router.rateOf traffic =
            link.router.rateOf traffic from rate, bucket] at others
          unfold eventsOf
          cases seen : ofEvent traffic (.enqueueRequest burst) with
          | none =>
              rw [seen] at others
              rw [List.filterMap_cons_none seen]
              exact others
          | some arrival =>
              rw [seen] at others
              rw [List.filterMap_cons_some seen]
              refine Run.along_cons.mpr ⟨?_, others⟩
              intro isRefill
              rw [ofEvent] at seen
              split at seen
              · rw [← Option.some.inj seen] at isRefill
                cases isRefill
              · simp at seen
      | tick =>
          have others := inductionHypothesis classified.tick later
          rw [show (link.next .tick).router.rateOf traffic =
            link.router.rateOf traffic from rateOf_tick _ traffic,
            bucket] at others
          exact Run.along_cons.mpr ⟨fun _ => first rfl, others⟩

/-- A window continues the bucket of a class. -/
theorem bucketOf_run_append
    (clockHz : ℚ)
    (mux : PseudoChannelMultiplexer)
    (before window : List Event)
    (traffic : TrafficClass) :
    (run clockHz mux (before ++ window)).bucketOf traffic =
      Run.after
        (TokenBucket.next (fun burst : MemoryBurst => (burst.bytes : ℚ))
          (traffic.rate clockHz))
        ((run clockHz mux before).bucketOf traffic)
        (eventsOf traffic window) := by
  rw [bucketOf_run, bucketOf_run, eventsOf, List.filterMap_append]
  exact Run.after_append _ _ _ _

/-- In a run in which a class never ticks with more than one burst saved it
keeps its rate over every window. -/
theorem keepsRate_of_unsaved
    (clockHz : ℚ)
    (positive : 0 < clockHz)
    (mux : PseudoChannelMultiplexer)
    (events : List Event)
    (traffic : TrafficClass)
    (unsaved : Run.Along next
      (Unsaved traffic (largestBurst traffic events))
      { router := initial clockHz, mux := mux } events) :
    KeepsRate clockHz mux events traffic := by
  rintro before window ⟨rest, rfl⟩
  obtain ⟨classified, rates⟩ := kept_run clockHz mux before
  have inWindow := unsaved_eventsOf classified
    (Run.along_append.mp (Run.along_append.mp unsaved).1).2
  rw [rates traffic] at inWindow
  have sent := TokenBucket.amountSent_after_le
    (fun burst : MemoryBurst => (burst.bytes : ℚ))
    (traffic.rate_nonneg positive) (Nat.cast_nonneg _)
    (served clockHz positive mux before traffic).nonneg inWindow
  rw [← bucketOf_run_append, refills_eventsOf, nsmul_eq_mul, add_assoc] at sent
  exact sub_le_iff_le_add'.mpr sent

/-- A global burst for each of two ticks. -/
def busy : List Event :=
  [.enqueueRequest { addr := 0x80000000 }, .tick,
    .enqueueRequest { addr := 0x80000064 }, .tick]

theorem busy_keepsRate :
    KeepsRate 1000000000 {} busy .globalTraffic := by
  refine keepsRate_of_unsaved 1000000000 (by decide) {} busy .globalTraffic ?_
  refine Run.along_cons.mpr ⟨nofun, ?_⟩
  refine Run.along_cons.mpr ⟨fun _ => Or.inr (by decide +kernel), ?_⟩
  refine Run.along_cons.mpr ⟨nofun, ?_⟩
  refine Run.along_cons.mpr ⟨fun _ => Or.inr (by decide +kernel), ?_⟩
  exact Run.along_nil

/-- Four global bursts that arrive after three idle ticks at 1 GHz. -/
def afterIdling : List Event :=
  List.replicate 3 .tick ++
    List.replicate 4 (.enqueueRequest { addr := 0x80000000 })

/-- All four bursts of `afterIdling` are delivered in one tick. -/
theorem afterIdling_not_keepsRate :
    ¬ KeepsRate 1000000000 {} (afterIdling ++ [.tick]) .globalTraffic := by
  intro keeps
  have window := keeps afterIdling [.tick] (List.prefix_refl _)
  revert window
  decide +kernel

end RouterLink

end PimGraphs
