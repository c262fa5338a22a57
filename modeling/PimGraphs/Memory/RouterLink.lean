import Mathlib.Algebra.BigOperators.Group.List.Lemmas
import Mathlib.Algebra.Order.Field.Basic
import Mathlib.Algebra.Order.Ring.Rat
import PimGraphs.Library.TokenBucket
import PimGraphs.Memory.Router

/-!
# The router and its ports over time

Bursts are handed to the router and the router ticks, in any order.  Each of
the two classes of traffic is a queue drained against its own credit, and
neither sees the other: the router is two token buckets in front of the
sixteen ports.
-/

namespace PimGraphs

/-- The two sides of the global address boundary. -/
inductive TrafficClass
  | localTraffic
  | globalTraffic
  deriving DecidableEq

namespace TrafficClass

/-- Bandwidth the router allows a class, in decimal GB/s. -/
def targetGbps : TrafficClass → ℚ
  | .localTraffic => 512
  | .globalTraffic => 64

/-- Bytes a class may move per tick at a clock frequency. -/
def rate (clockHz : ℚ) (traffic : TrafficClass) : ℚ :=
  bytesPerCycleFromTargetGbps traffic.targetGbps clockHz

theorem rate_nonneg
    {clockHz : ℚ}
    (positive : 0 < clockHz)
    (traffic : TrafficClass) :
    0 ≤ traffic.rate clockHz := by
  have target : 0 ≤ traffic.targetGbps := by
    cases traffic <;> decide
  have billion : (0 : ℚ) ≤ 1000000000 := by decide
  unfold rate bytesPerCycleFromTargetGbps
  exact div_nonneg (mul_nonneg target billion) positive.le

end TrafficClass

namespace HierarchicalRouter

/-- The class of a burst. -/
def trafficClass (burst : MemoryBurst) : TrafficClass :=
  if globalAddressBoundary ≤ burst.addr then .globalTraffic
  else .localTraffic

/-- The bursts of a class, in order. -/
def ofClass (traffic : TrafficClass) (bursts : List MemoryBurst) :
    List MemoryBurst :=
  bursts.filter fun burst => trafficClass burst == traffic

/-- Credit of a class. -/
def creditOf (router : HierarchicalRouter) : TrafficClass → ℚ
  | .localTraffic => router.localUsed
  | .globalTraffic => router.globalUsed

/-- Bursts of a class that wait. -/
def queueOf (router : HierarchicalRouter) : TrafficClass → List MemoryBurst
  | .localTraffic => router.localQueue
  | .globalTraffic => router.globalQueue

/-- What a tick adds to the credit of a class. -/
def rateOf (router : HierarchicalRouter) : TrafficClass → ℚ
  | .localTraffic => router.localBytesPerTick
  | .globalTraffic => router.globalBytesPerTick

theorem rateOf_initial (clockHz : ℚ) (traffic : TrafficClass) :
    (initial clockHz).rateOf traffic = traffic.rate clockHz := by
  cases traffic <;> rfl

/-- Each burst waits in the queue of its class. -/
def Classified (router : HierarchicalRouter) : Prop :=
  ∀ traffic, ∀ burst ∈ router.queueOf traffic, trafficClass burst = traffic

@[simp] theorem ofClass_append
    (traffic : TrafficClass)
    (earlier later : List MemoryBurst) :
    ofClass traffic (earlier ++ later) =
      ofClass traffic earlier ++ ofClass traffic later :=
  List.filter_append _ _

theorem ofClass_eq_self
    {traffic : TrafficClass}
    {bursts : List MemoryBurst}
    (same : ∀ burst ∈ bursts, trafficClass burst = traffic) :
    ofClass traffic bursts = bursts := by
  apply List.filter_eq_self.mpr
  intro burst isBurst
  exact beq_iff_eq.mpr (same burst isBurst)

theorem ofClass_eq_nil
    {traffic other : TrafficClass}
    (differ : other ≠ traffic)
    {bursts : List MemoryBurst}
    (same : ∀ burst ∈ bursts, trafficClass burst = other) :
    ofClass traffic bursts = [] := by
  apply List.filter_eq_nil_iff.mpr
  intro burst isBurst isClass
  exact differ ((same burst isBurst).symm.trans (beq_iff_eq.mp isClass))

/-- Handing a burst over touches its own class only. -/
theorem enqueueRequest_eq
    (router : HierarchicalRouter)
    (burst : MemoryBurst)
    (traffic : TrafficClass) :
    (router.enqueueRequest burst).creditOf traffic =
        router.creditOf traffic ∧
      (router.enqueueRequest burst).rateOf traffic = router.rateOf traffic ∧
      (router.enqueueRequest burst).queueOf traffic =
        router.queueOf traffic ++ ofClass traffic [burst] := by
  unfold enqueueRequest ofClass trafficClass
  by_cases isGlobal : globalAddressBoundary ≤ burst.addr
  · cases traffic <;>
      simp [isGlobal, creditOf, rateOf, queueOf]
  · cases traffic <;>
      simp [isGlobal, creditOf, rateOf, queueOf]

/-- The bursts a class sends, and those it keeps. -/
def drain (router : HierarchicalRouter) (traffic : TrafficClass) :
    ℚ × List MemoryBurst × List MemoryBurst :=
  TokenBucket.send (fun burst => (burst.bytes : ℚ))
    (router.creditOf traffic + router.rateOf traffic) (router.queueOf traffic)

theorem sent_drain_append
    (router : HierarchicalRouter)
    (traffic : TrafficClass) :
    (router.drain traffic).2.1 ++ (router.drain traffic).2.2 =
      router.queueOf traffic :=
  TokenBucket.send_append _ _ _

theorem tick_eq_drain (router : HierarchicalRouter) :
    router.tick =
      ({ router with
          localUsed := (router.drain .localTraffic).1
          globalUsed := (router.drain .globalTraffic).1
          localQueue := (router.drain .localTraffic).2.2
          globalQueue := (router.drain .globalTraffic).2.2 },
        (router.drain .localTraffic).2.1 ++
          (router.drain .globalTraffic).2.1) := by
  simp only [tick, deliver_eq_send, drain, creditOf, rateOf, queueOf]

/-- What a class sends in a tick is of that class. -/
theorem ofClass_tick
    (router : HierarchicalRouter)
    (classified : router.Classified)
    (traffic : TrafficClass) :
    ofClass traffic router.tick.2 = (router.drain traffic).2.1 := by
  have sent : ∀ other, ∀ burst ∈ (router.drain other).2.1,
      trafficClass burst = other := by
    intro other burst isSent
    apply classified other
    rw [← router.sent_drain_append other]
    exact List.mem_append_left _ isSent
  rw [tick_eq_drain, ofClass_append]
  cases traffic with
  | localTraffic =>
      rw [ofClass_eq_self (sent .localTraffic),
        ofClass_eq_nil (by decide) (sent .globalTraffic), List.append_nil]
  | globalTraffic =>
      rw [ofClass_eq_nil (by decide) (sent .localTraffic),
        ofClass_eq_self (sent .globalTraffic), List.nil_append]

theorem creditOf_tick
    (router : HierarchicalRouter)
    (traffic : TrafficClass) :
    router.tick.1.creditOf traffic = (router.drain traffic).1 := by
  rw [tick_eq_drain]
  cases traffic <;> rfl

theorem queueOf_tick
    (router : HierarchicalRouter)
    (traffic : TrafficClass) :
    router.tick.1.queueOf traffic = (router.drain traffic).2.2 := by
  rw [tick_eq_drain]
  cases traffic <;> rfl

theorem rateOf_tick
    (router : HierarchicalRouter)
    (traffic : TrafficClass) :
    router.tick.1.rateOf traffic = router.rateOf traffic := by
  rw [tick_eq_drain]
  cases traffic <;> rfl

theorem Classified.enqueueRequest
    {router : HierarchicalRouter}
    (classified : router.Classified)
    (burst : MemoryBurst) :
    (router.enqueueRequest burst).Classified := by
  intro traffic other isQueued
  obtain ⟨-, -, queue⟩ := router.enqueueRequest_eq burst traffic
  rw [queue] at isQueued
  rcases List.mem_append.mp isQueued with earlier | isNew
  · exact classified traffic other earlier
  · exact beq_iff_eq.mp (List.mem_filter.mp isNew).2

theorem Classified.tick
    {router : HierarchicalRouter}
    (classified : router.Classified) :
    router.tick.1.Classified := by
  intro traffic burst isQueued
  apply classified traffic
  rw [queueOf_tick] at isQueued
  rw [← router.sent_drain_append traffic]
  exact List.mem_append_right _ isQueued

end HierarchicalRouter

open HierarchicalRouter

/-- A router, the ports it serves and the bursts it has enqueued on them. -/
structure RouterLink where
  router : HierarchicalRouter
  mux : PseudoChannelMultiplexer
  sent : List MemoryBurst := []

namespace RouterLink

/-- A burst comes to the router, or the router ticks. -/
inductive Event
  | enqueueRequest (burst : MemoryBurst)
  | tick
  deriving DecidableEq

/-- Enqueue each burst on the port it names. -/
def enqueueOnPorts
    (mux : PseudoChannelMultiplexer)
    (bursts : List MemoryBurst) : PseudoChannelMultiplexer :=
  bursts.foldl (fun mux burst => mux.enqueue burst.pcId burst) mux

/-- One event. -/
def next (link : RouterLink) : Event → RouterLink
  | .enqueueRequest burst =>
      { link with router := link.router.enqueueRequest burst }
  | .tick =>
      { router := link.router.tick.1
        mux := enqueueOnPorts link.mux link.router.tick.2
        sent := link.sent ++ link.router.tick.2 }

/-- A newly built router after a list of events. -/
def run
    (clockHz : ℚ)
    (mux : PseudoChannelMultiplexer)
    (events : List Event) : RouterLink :=
  Run.after next { router := initial clockHz, mux := mux } events

theorem run_append_singleton
    (clockHz : ℚ)
    (mux : PseudoChannelMultiplexer)
    (events : List Event)
    (event : Event) :
    run clockHz mux (events ++ [event]) =
      (run clockHz mux events).next event := by
  rw [run, Run.after, List.foldl_append]
  rfl

/-- What a class sees of an event. -/
def ofEvent (traffic : TrafficClass) :
    Event → Option (TokenBucket.Event MemoryBurst)
  | .enqueueRequest burst =>
      if trafficClass burst = traffic then some (.arrive burst) else none
  | .tick => some .refill

/-- What a class sees of a list of events. -/
def eventsOf (traffic : TrafficClass) (events : List Event) :
    List (TokenBucket.Event MemoryBurst) :=
  events.filterMap (ofEvent traffic)

theorem eventsOf_append_singleton
    (traffic : TrafficClass)
    (events : List Event)
    (event : Event) :
    eventsOf traffic (events ++ [event]) =
      eventsOf traffic events ++ (ofEvent traffic event).toList := by
  rw [eventsOf, List.filterMap_append, ← eventsOf]
  cases seen : ofEvent traffic event with
  | none => rw [List.filterMap_cons_none seen, List.filterMap_nil,
      Option.toList_none]
  | some _ => rw [List.filterMap_cons_some seen, List.filterMap_nil,
      Option.toList_some]

/-- The bucket of a class. -/
def bucketOf (link : RouterLink) (traffic : TrafficClass) :
    TokenBucket.Bucket ℚ MemoryBurst where
  credit := link.router.creditOf traffic
  queue := link.router.queueOf traffic
  sent := ofClass traffic link.sent

/-- What an event does to the bucket of a class. -/
theorem bucketOf_next
    (link : RouterLink)
    (classified : link.router.Classified)
    (traffic : TrafficClass)
    (event : Event) :
    (link.next event).bucketOf traffic =
      match ofEvent traffic event with
      | some seen => TokenBucket.next (fun burst => (burst.bytes : ℚ))
          (link.router.rateOf traffic) (link.bucketOf traffic) seen
      | none => link.bucketOf traffic := by
  cases event with
  | enqueueRequest burst =>
      obtain ⟨credit, -, queue⟩ :=
        link.router.enqueueRequest_eq burst traffic
      simp only [bucketOf, ofEvent, next, credit, queue]
      by_cases isClass : trafficClass burst = traffic
      · have same : ofClass traffic [burst] = [burst] :=
          ofClass_eq_self (List.forall_mem_singleton.mpr isClass)
        rw [if_pos isClass, same]
        rfl
      · have none : ofClass traffic [burst] = [] :=
          ofClass_eq_nil isClass (List.forall_mem_singleton.mpr rfl)
        rw [if_neg isClass, none, List.append_nil]
  | tick =>
      simp only [bucketOf, ofEvent, next, ofClass_append,
        link.router.ofClass_tick classified, creditOf_tick, queueOf_tick]
      rfl

/-- The rates never change, and every burst waits with its class. -/
theorem kept_run
    (clockHz : ℚ)
    (mux : PseudoChannelMultiplexer)
    (events : List Event) :
    (run clockHz mux events).router.Classified ∧
      ∀ traffic, (run clockHz mux events).router.rateOf traffic =
        traffic.rate clockHz := by
  induction events using List.reverseRecOn with
  | nil =>
      refine ⟨?_, rateOf_initial clockHz⟩
      intro traffic burst isQueued
      cases traffic <;> exact absurd isQueued List.not_mem_nil
  | append_singleton events event inductionHypothesis =>
      obtain ⟨classified, rates⟩ := inductionHypothesis
      rw [run_append_singleton]
      cases event with
      | enqueueRequest burst =>
          refine ⟨classified.enqueueRequest burst, ?_⟩
          intro traffic
          exact (enqueueRequest_eq _ burst traffic).2.1.trans (rates traffic)
      | tick =>
          refine ⟨classified.tick, ?_⟩
          intro traffic
          exact (rateOf_tick _ traffic).trans (rates traffic)

/-- Each class runs its own token bucket on what it sees of the events. -/
theorem bucketOf_run
    (clockHz : ℚ)
    (mux : PseudoChannelMultiplexer)
    (events : List Event)
    (traffic : TrafficClass) :
    (run clockHz mux events).bucketOf traffic =
      TokenBucket.run (fun burst => (burst.bytes : ℚ)) (traffic.rate clockHz)
        (eventsOf traffic events) := by
  induction events using List.reverseRecOn with
  | nil => cases traffic <;> rfl
  | append_singleton events event inductionHypothesis =>
      obtain ⟨classified, rates⟩ := kept_run clockHz mux events
      rw [run_append_singleton, bucketOf_next _ classified,
        rates traffic, inductionHypothesis, eventsOf_append_singleton]
      cases ofEvent traffic event with
      | none => rw [Option.toList_none, List.append_nil]
      | some seen =>
          rw [Option.toList_some, TokenBucket.run_append_singleton]

/-- The bursts handed to the router, in order. -/
def enqueued (events : List Event) : List MemoryBurst :=
  events.filterMap fun event =>
    match event with
    | .enqueueRequest burst => some burst
    | .tick => none

/-- Number of ticks. -/
def ticks (events : List Event) : Nat := events.count .tick

theorem arrivals_eventsOf (traffic : TrafficClass) (events : List Event) :
    TokenBucket.Event.arrivals (eventsOf traffic events) =
      ofClass traffic (enqueued events) := by
  unfold TokenBucket.Event.arrivals eventsOf ofClass enqueued
  rw [List.filterMap_filterMap, List.filter_filterMap]
  apply List.filterMap_congr
  intro event _
  cases event with
  | enqueueRequest burst =>
      by_cases isClass : trafficClass burst = traffic
      · simp [ofEvent, isClass, Option.filter]
      · simp [ofEvent, isClass, Option.filter]
  | tick => rfl

theorem refills_eventsOf (traffic : TrafficClass) (events : List Event) :
    TokenBucket.Event.refills (eventsOf traffic events) = ticks events := by
  induction events using List.reverseRecOn with
  | nil => rfl
  | append_singleton events event inductionHypothesis =>
      rw [eventsOf_append_singleton, TokenBucket.Event.refills,
        List.countP_append, ← TokenBucket.Event.refills, inductionHypothesis,
        ticks, ticks, List.count_append]
      congr 1
      cases event with
      | enqueueRequest burst =>
          by_cases isClass : trafficClass burst = traffic
          · rw [ofEvent, if_pos isClass]
            rfl
          · rw [ofEvent, if_neg isClass]
            rfl
      | tick => rfl

/-- The bursts sent go to the back of the ports they name, in order. -/
theorem pending_enqueueOnPorts
    (mux : PseudoChannelMultiplexer)
    (bursts : List MemoryBurst)
    (pcId : PcId) :
    ((enqueueOnPorts mux bursts).port pcId).pending =
      (mux.port pcId).pending ++ bursts.filter (·.pcId == pcId) := by
  induction bursts generalizing mux with
  | nil => exact (List.append_nil _).symm
  | cons burst rest inductionHypothesis =>
      rw [enqueueOnPorts, List.foldl_cons, ← enqueueOnPorts,
        inductionHypothesis, PseudoChannelMultiplexer.port_enqueue]
      by_cases samePort : pcId = burst.pcId
      · subst samePort
        rw [if_pos rfl, PseudoChannelPort.pending_enqueue, List.filter_cons,
          if_pos (beq_self_eq_true _), List.append_assoc,
          List.singleton_append]
      · rw [if_neg samePort, List.filter_cons_of_neg]
        exact fun same => samePort (beq_iff_eq.mp same).symm

theorem pending_run
    (clockHz : ℚ)
    (mux : PseudoChannelMultiplexer)
    (events : List Event)
    (pcId : PcId) :
    ((run clockHz mux events).mux.port pcId).pending =
      (mux.port pcId).pending ++
        (run clockHz mux events).sent.filter (·.pcId == pcId) := by
  induction events using List.reverseRecOn with
  | nil => exact (List.append_nil _).symm
  | append_singleton events event inductionHypothesis =>
      rw [run_append_singleton]
      cases event with
      | enqueueRequest burst => exact inductionHypothesis
      | tick =>
          unfold next
          rw [pending_enqueueOnPorts, inductionHypothesis, List.filter_append,
            List.append_assoc]

/-! ## What each class is served -/

/-- What a newly built router has done for one class after some events. -/
structure Served
    (clockHz : ℚ)
    (mux : PseudoChannelMultiplexer)
    (events : List Event)
    (traffic : TrafficClass)
    (link : RouterLink) : Prop where
  /-- Delivered once each and in order, then still queued. -/
  order : ofClass traffic link.sent ++ link.router.queueOf traffic =
    ofClass traffic (enqueued events)
  /-- Delivered to the port each burst names, behind what was there. -/
  ports : ∀ pcId, (link.mux.port pcId).pending =
    (mux.port pcId).pending ++ link.sent.filter (·.pcId == pcId)
  credit : link.router.creditOf traffic =
    ticks events * traffic.rate clockHz -
      ((ofClass traffic link.sent).map fun burst => (burst.bytes : ℚ)).sum
  nonneg : 0 ≤ link.router.creditOf traffic
  workConserving : ∀ earlier, events = earlier ++ [.tick] →
    ∀ burst ∈ (link.router.queueOf traffic).head?,
      link.router.creditOf traffic < burst.bytes
  /-- Events of the other class make no difference. -/
  independent : ∀ others, eventsOf traffic others = eventsOf traffic events →
    (run clockHz mux others).bucketOf traffic = link.bucketOf traffic

/-- The router serves both classes like this in every run. -/
theorem served
    (clockHz : ℚ)
    (positive : 0 < clockHz)
    (mux : PseudoChannelMultiplexer)
    (events : List Event)
    (traffic : TrafficClass) :
    Served clockHz mux events traffic (run clockHz mux events) := by
  have bucket := bucketOf_run clockHz mux events traffic
  have creditOf := congrArg TokenBucket.Bucket.credit bucket
  have queueOf := congrArg TokenBucket.Bucket.queue bucket
  have sentOf := congrArg TokenBucket.Bucket.sent bucket
  simp only [bucketOf] at creditOf queueOf sentOf
  constructor
  · rw [sentOf, queueOf, TokenBucket.sent_append_queue, arrivals_eventsOf]
  · exact pending_run clockHz mux events
  · have whole := TokenBucket.credit_add_sent
      (fun burst : MemoryBurst => (burst.bytes : ℚ)) (traffic.rate clockHz)
      (eventsOf traffic events)
    rw [refills_eventsOf, nsmul_eq_mul] at whole
    rw [creditOf, sentOf]
    exact eq_sub_of_add_eq whole
  · rw [creditOf]
    exact TokenBucket.credit_nonneg _ (traffic.rate_nonneg positive) _
  · intro earlier isLast
    rw [creditOf, queueOf, isLast, eventsOf_append_singleton]
    exact TokenBucket.credit_lt_head_of_refill _ _ _
  · intro others same
    rw [bucketOf_run, bucket, same]

/-- A local burst of 64 bytes and two global ones in front of one tick, which
at 1 GHz saves 64 bytes of global credit. -/
def mixedTraffic : List Event :=
  [.enqueueRequest { addr := 0x80000000, pcId := 5 },
    .enqueueRequest { addr := 64, pcId := 3 },
    .enqueueRequest { addr := 0x80000040 }, .tick]

theorem mixedTraffic_served :
    Served 1000000000 {} mixedTraffic .globalTraffic
      (run 1000000000 {} mixedTraffic) :=
  served 1000000000 (by decide) {} mixedTraffic .globalTraffic

/-- The local burst is delivered, and of the global ones the first. -/
example : (run 1000000000 {} mixedTraffic).sent.map (·.addr) =
    [64, 0x80000000] := by
  decide +kernel

end RouterLink

end PimGraphs
