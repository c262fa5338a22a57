import Mathlib.Algebra.BigOperators.Group.List.Basic
import Mathlib.Algebra.Order.Group.Defs
import Mathlib.Algebra.Order.Monoid.Unbundled.Basic
import Mathlib.Tactic.Abel
import PimGraphs.Library.Run

/-!
# A first-in first-out queue drained against a credit

Items of a size arrive in a queue.  Every refill adds a fixed amount to the
credit and then sends items from the head of the queue as long as the credit
covers them.  Nothing is lost or reordered, the credit is what was added less
what was sent, and after a refill the credit does not cover the head.
-/

namespace TokenBucket

variable {K Item : Type*}

section Send

variable [Sub K] [LE K] [DecidableLE K]

/-- Send items while the credit covers them: the credit left, the items sent
and the items kept. -/
def send (size : Item → K) : K → List Item → K × List Item × List Item
  | credit, [] => (credit, [], [])
  | credit, item :: rest =>
      if size item ≤ credit then
        let (left, sent, kept) := send size (credit - size item) rest
        (left, item :: sent, kept)
      else (credit, [], item :: rest)

theorem send_append (size : Item → K) (credit : K) (queue : List Item) :
    (send size credit queue).2.1 ++ (send size credit queue).2.2 = queue := by
  induction queue generalizing credit with
  | nil => rfl
  | cons item rest inductionHypothesis =>
      unfold send
      split
      · rw [List.cons_append, inductionHypothesis]
      · rfl

end Send

/-- The credit, the queue and everything sent so far. -/
structure Bucket (K Item : Type*) where
  credit : K
  queue : List Item := []
  sent : List Item := []

/-- An item arrives, or credit is added and items are sent. -/
inductive Event (Item : Type*)
  | arrive (item : Item)
  | refill

namespace Event

/-- The items that arrive, in order. -/
def arrivals (events : List (Event Item)) : List Item :=
  events.filterMap fun event =>
    match event with
    | .arrive item => some item
    | .refill => none

/-- How often the credit is refilled. -/
def refills (events : List (Event Item)) : Nat :=
  events.countP fun event =>
    match event with
    | .arrive _ => false
    | .refill => true

theorem refills_append (earlier later : List (Event Item)) :
    refills (earlier ++ later) = refills earlier + refills later :=
  List.countP_append

end Event

variable [AddCommGroup K] [LinearOrder K]

/-- One event of a bucket with a given refill. -/
def next (size : Item → K) (rate : K) (bucket : Bucket K Item) :
    Event Item → Bucket K Item
  | .arrive item => { bucket with queue := bucket.queue ++ [item] }
  | .refill =>
      let (left, sent, kept) := send size (bucket.credit + rate) bucket.queue
      { credit := left
        queue := kept
        sent := bucket.sent ++ sent }

/-- The bucket after a list of events, from an empty one. -/
def run (size : Item → K) (rate : K) (events : List (Event Item)) :
    Bucket K Item :=
  Run.after (next size rate) { credit := 0 } events

theorem run_append_singleton
    (size : Item → K)
    (rate : K)
    (events : List (Event Item))
    (event : Event Item) :
    run size rate (events ++ [event]) =
      next size rate (run size rate events) event := by
  rw [run, Run.after, List.foldl_append]
  rfl

/-- What is sent and what is left of the credit add up to the credit. -/
theorem credit_send (size : Item → K) (credit : K) (queue : List Item) :
    (send size credit queue).1 +
        ((send size credit queue).2.1.map size).sum =
      credit := by
  induction queue generalizing credit with
  | nil => rw [send, List.map_nil, List.sum_nil, add_zero]
  | cons item rest inductionHypothesis =>
      unfold send
      split
      · have whole := inductionHypothesis (credit - size item)
        rw [List.map_cons, List.sum_cons, ← add_assoc, add_right_comm, whole,
          sub_add_cancel]
      · rw [List.map_nil, List.sum_nil, add_zero]

/-- The credit left does not cover the first item kept. -/
theorem credit_lt_head
    (size : Item → K)
    (credit : K)
    (queue : List Item) :
    ∀ item ∈ (send size credit queue).2.2.head?,
      (send size credit queue).1 < size item := by
  induction queue generalizing credit with
  | nil =>
      intro item isHead
      exact absurd isHead (Option.not_mem_none item)
  | cons first rest inductionHypothesis =>
      unfold send
      split
      case isTrue _ => exact inductionHypothesis _
      case isFalse tooBig =>
        intro item isHead
        rw [← Option.some.inj isHead]
        exact lt_of_not_ge tooBig

/-- Everything that arrived has been sent or is kept, in order. -/
theorem sent_append_queue
    (size : Item → K)
    (rate : K)
    (events : List (Event Item)) :
    (run size rate events).sent ++ (run size rate events).queue =
      Event.arrivals events := by
  induction events using List.reverseRecOn with
  | nil => rfl
  | append_singleton events event inductionHypothesis =>
      rw [run_append_singleton, Event.arrivals, List.filterMap_append]
      cases event with
      | arrive item =>
          exact (List.append_assoc _ _ _).symm.trans
            (congrArg (· ++ [item]) inductionHypothesis)
      | refill =>
          rw [List.filterMap_cons_none rfl, List.filterMap_nil,
            List.append_nil]
          refine Eq.trans ?_ inductionHypothesis
          exact (List.append_assoc _ _ _).trans
            (congrArg _ (send_append _ _ _))

/-- Sizes of everything sent, added up. -/
def Bucket.amountSent (size : Item → K) (bucket : Bucket K Item) : K :=
  (bucket.sent.map size).sum

/-- What one event adds to the credit and to what was sent. -/
theorem credit_add_sent_next
    (size : Item → K)
    (rate : K)
    (bucket : Bucket K Item)
    (event : Event Item) :
    (next size rate bucket event).credit +
        (next size rate bucket event).amountSent size =
      bucket.credit + bucket.amountSent size +
        Event.refills [event] • rate := by
  cases event with
  | arrive item =>
      have nothing : Event.refills [Event.arrive item] = 0 := rfl
      rw [nothing, zero_nsmul, add_zero]
      rfl
  | refill =>
      have whole := credit_send size (bucket.credit + rate) bucket.queue
      rw [Event.refills, List.countP_singleton, if_pos rfl, one_nsmul,
        add_right_comm, ← whole]
      unfold next Bucket.amountSent
      rw [List.map_append, List.sum_append]
      abel

/-- From any bucket on, the credit and what was sent grow by what was
added. -/
theorem credit_add_sent_after
    (size : Item → K)
    (rate : K)
    (bucket : Bucket K Item)
    (events : List (Event Item)) :
    (Run.after (next size rate) bucket events).credit +
        (Run.after (next size rate) bucket events).amountSent size =
      bucket.credit + bucket.amountSent size +
        Event.refills events • rate := by
  induction events generalizing bucket with
  | nil => rw [Run.after_nil, Event.refills, List.countP_nil, zero_nsmul,
      add_zero]
  | cons event rest inductionHypothesis =>
      have refills : Event.refills (event :: rest) =
          Event.refills [event] + Event.refills rest :=
        Event.refills_append [event] rest
      rw [Run.after_cons, inductionHypothesis, credit_add_sent_next, refills,
        add_nsmul, add_assoc]

/-- The credit and what was sent add up to what was added. -/
theorem credit_add_sent
    (size : Item → K)
    (rate : K)
    (events : List (Event Item)) :
    (run size rate events).credit +
        ((run size rate events).sent.map size).sum =
      Event.refills events • rate := by
  have whole := credit_add_sent_after size rate { credit := 0 } events
  rw [Bucket.amountSent, Bucket.amountSent, List.map_nil, List.sum_nil,
    add_zero, zero_add] at whole
  exact whole

/-- The last of some events is a refill: the credit does not cover what then
heads the queue. -/
theorem credit_lt_head_of_refill
    (size : Item → K)
    (rate : K)
    (events : List (Event Item)) :
    ∀ item ∈ (run size rate (events ++ [.refill])).queue.head?,
      (run size rate (events ++ [.refill])).credit < size item := by
  rw [run_append_singleton]
  exact credit_lt_head size _ _

section Nonneg

variable [IsOrderedAddMonoid K]

theorem send_nonneg
    (size : Item → K)
    {credit : K}
    (nonneg : 0 ≤ credit)
    (queue : List Item) :
    0 ≤ (send size credit queue).1 := by
  induction queue generalizing credit with
  | nil => exact nonneg
  | cons item rest inductionHypothesis =>
      unfold send
      split
      case isTrue covered => exact inductionHypothesis (sub_nonneg.mpr covered)
      case isFalse _ => exact nonneg

theorem credit_nonneg_next
    (size : Item → K)
    {rate : K}
    (rateNonneg : 0 ≤ rate)
    {bucket : Bucket K Item}
    (nonneg : 0 ≤ bucket.credit)
    (event : Event Item) :
    0 ≤ (next size rate bucket event).credit := by
  cases event with
  | arrive item => exact nonneg
  | refill => exact send_nonneg size (add_nonneg nonneg rateNonneg) _

theorem credit_nonneg_after
    (size : Item → K)
    {rate : K}
    (rateNonneg : 0 ≤ rate)
    {bucket : Bucket K Item}
    (nonneg : 0 ≤ bucket.credit)
    (events : List (Event Item)) :
    0 ≤ (Run.after (next size rate) bucket events).credit := by
  induction events generalizing bucket with
  | nil => exact nonneg
  | cons event rest inductionHypothesis =>
      apply inductionHypothesis
      exact credit_nonneg_next size rateNonneg nonneg event

/-- A bucket that is never drained of credit by a refill has no debt. -/
theorem credit_nonneg
    (size : Item → K)
    {rate : K}
    (rateNonneg : 0 ≤ rate)
    (events : List (Event Item)) :
    0 ≤ (run size rate events).credit :=
  credit_nonneg_after size rateNonneg (le_refl 0) events

/-- A bucket that is refilled has nothing to send or has saved no more than a
limit. -/
def Unsaved
    (limit : K)
    (bucket : Bucket K Item)
    (event : Event Item) : Prop :=
  event = .refill → bucket.queue = [] ∨ bucket.credit ≤ limit

/-- What is sent from any point on exceeds what is added by no more than the
limit on the savings. -/
theorem amountSent_after_le
    (size : Item → K)
    {rate limit : K}
    (rateNonneg : 0 ≤ rate)
    (limitNonneg : 0 ≤ limit)
    {bucket : Bucket K Item}
    (nonneg : 0 ≤ bucket.credit)
    {events : List (Event Item)}
    (unsaved : Run.Along (next size rate) (Unsaved limit) bucket events) :
    (Run.after (next size rate) bucket events).amountSent size ≤
      bucket.amountSent size + Event.refills events • rate + limit := by
  rcases le_or_gt bucket.credit limit with within | above
  · -- all that can be spent is within the limit
    have whole := credit_add_sent_after size rate bucket events
    have left := credit_nonneg_after size rateNonneg nonneg events
    calc (Run.after (next size rate) bucket events).amountSent size
        ≤ (Run.after (next size rate) bucket events).credit +
            (Run.after (next size rate) bucket events).amountSent size :=
          le_add_of_nonneg_left left
      _ = bucket.amountSent size + Event.refills events • rate +
            bucket.credit := by
          rw [whole]
          abel
      _ ≤ bucket.amountSent size + Event.refills events • rate + limit :=
          add_le_add_right within _
  · -- nothing is spent before the savings are within the limit again
    induction events generalizing bucket with
    | nil =>
        have refills : Event.refills ([] : List (Event Item)) = 0 := rfl
        rw [Run.after_nil, refills, zero_nsmul, add_zero]
        exact le_add_of_nonneg_right limitNonneg
    | cons event rest inductionHypothesis =>
        obtain ⟨first, later⟩ := Run.along_cons.mp unsaved
        rw [Run.after_cons]
        cases event with
        | arrive item => exact inductionHypothesis nonneg later above
        | refill =>
            have empty : bucket.queue = [] :=
              (first rfl).resolve_right (not_le_of_gt above)
            have idle : next size rate bucket .refill =
                { bucket with credit := bucket.credit + rate } := by
              simp [next, empty, send]
            have more : limit < bucket.credit + rate :=
              above.trans_le (le_add_of_nonneg_right rateNonneg)
            have refills : Event.refills (.refill :: rest) =
                Event.refills rest + 1 := by
              rw [Event.refills, List.countP_cons_of_pos rfl]
              rfl
            rw [idle] at later ⊢
            refine (inductionHypothesis (add_nonneg nonneg rateNonneg) later
              more).trans ?_
            rw [refills, succ_nsmul]
            exact add_le_add_left (add_le_add_right
              (le_add_of_nonneg_right rateNonneg) _) _

end Nonneg

end TokenBucket
