import Mathlib.Data.List.Nodup

/-!
# Sweeps over a family

A sweep visits the members of a family one after the other.  What no visit
changes is the same afterwards.  When every visit changes only what is seen of
its own member, the order of the visits does not matter: afterwards each
visited member has been changed once.  When every visit that changes anything
raises a flag, a sweep without the flag has changed nothing.
-/

namespace Sweep

variable {State Key View : Type*}

/-- A sweep leaves alone whatever all its visits leave alone. -/
theorem observe_foldl
    {Observed : Type*}
    {visit : State → Key → State}
    (observe : State → Observed)
    (kept : ∀ state key, observe (visit state key) = observe state)
    (keys : List Key)
    (state : State) :
    observe (keys.foldl visit state) = observe state := by
  induction keys generalizing state with
  | nil => rfl
  | cons key rest inductionHypothesis =>
      rw [List.foldl_cons, inductionHypothesis, kept]

/-- Visits that keep a condition, update the view of the visited member and
leave the views of all others alone. -/
structure Local
    (visit : State → Key → State)
    (condition : State → Prop)
    (view : State → Key → View)
    (update : Key → View → View) : Prop where
  keeps : ∀ state key, condition state → condition (visit state key)
  own : ∀ state key, condition state →
    view (visit state key) key = update key (view state key)
  others : ∀ state key other, condition state → other ≠ key →
    view (visit state key) other = view state other

namespace Local

variable {visit : State → Key → State} {condition : State → Prop}
variable {view : State → Key → View} {update : Key → View → View}

/-- All that a visit does, by cases of the visit. -/
theorem of_visit
    (turn : ∀ state key, condition state →
      condition (visit state key) ∧
        view (visit state key) key = update key (view state key) ∧
          ∀ other, other ≠ key →
            view (visit state key) other = view state other) :
    Local visit condition view update where
  keeps := fun state key holds => (turn state key holds).1
  own := fun state key holds => (turn state key holds).2.1
  others := fun state key other holds => (turn state key holds).2.2 other

theorem condition_foldl
    (isLocal : Local visit condition view update)
    (keys : List Key)
    {state : State}
    (holds : condition state) :
    condition (keys.foldl visit state) := by
  induction keys generalizing state with
  | nil => exact holds
  | cons key rest inductionHypothesis =>
      exact inductionHypothesis (isLocal.keeps state key holds)

/-- A member that is not visited is left alone. -/
theorem view_foldl_of_not_mem
    (isLocal : Local visit condition view update)
    {keys : List Key}
    {key : Key}
    (unvisited : key ∉ keys)
    {state : State}
    (holds : condition state) :
    view (keys.foldl visit state) key = view state key := by
  induction keys generalizing state with
  | nil => rfl
  | cons first rest inductionHypothesis =>
      rw [List.foldl_cons, inductionHypothesis
          (List.not_mem_of_not_mem_cons unvisited)
          (isLocal.keeps state first holds),
        isLocal.others state first key holds
          (List.ne_of_not_mem_cons unvisited)]

/-- A member visited once is updated once. -/
theorem view_foldl
    (isLocal : Local visit condition view update)
    {keys : List Key}
    (once : keys.Nodup)
    {key : Key}
    (visited : key ∈ keys)
    (state : State)
    (holds : condition state) :
    view (keys.foldl visit state) key = update key (view state key) := by
  induction keys generalizing state with
  | nil => exact absurd visited List.not_mem_nil
  | cons first rest inductionHypothesis =>
      obtain ⟨firstOnce, restOnce⟩ := List.nodup_cons.mp once
      have restHolds := isLocal.keeps state first holds
      rw [List.foldl_cons]
      rcases List.mem_cons.mp visited with isFirst | inRest
      · rw [isFirst, isLocal.view_foldl_of_not_mem firstOnce restHolds,
          isLocal.own state first holds]
      · have differs : key ≠ first := fun same => firstOnce (same ▸ inRest)
        rw [inductionHypothesis restOnce inRest _ restHolds,
          isLocal.others state first key holds differs]

/-- A flag raised by the views of the visited members. -/
theorem flag_foldl
    (isLocal : Local visit condition view update)
    (flag : State → Bool)
    (raises : Key → View → Bool)
    (raised : ∀ state key, condition state →
      flag (visit state key) = (flag state || raises key (view state key)))
    {keys : List Key}
    (once : keys.Nodup)
    (state : State)
    (holds : condition state) :
    flag (keys.foldl visit state) =
      (flag state || keys.any fun key => raises key (view state key)) := by
  induction keys generalizing state with
  | nil => simp
  | cons first rest inductionHypothesis =>
      obtain ⟨firstOnce, restOnce⟩ := List.nodup_cons.mp once
      have sameViews : (rest.any fun key =>
          raises key (view (visit state first) key)) =
            rest.any fun key => raises key (view state key) := by
        rw [Bool.eq_iff_iff, List.any_eq_true, List.any_eq_true]
        refine exists_congr fun key => and_congr_right fun inRest => ?_
        have differs : key ≠ first := fun same => firstOnce (same ▸ inRest)
        rw [isLocal.others state first key holds differs]
      rw [List.foldl_cons,
        inductionHypothesis restOnce _ (isLocal.keeps state first holds),
        raised state first holds, sameViews, List.any_cons, Bool.or_assoc]

/-- The number of visited members whose views count. -/
theorem count_foldl
    (isLocal : Local visit condition view update)
    (count : State → Nat)
    (counts : Key → View → Bool)
    (counted : ∀ state key, condition state →
      count (visit state key) =
        count state + (counts key (view state key)).toNat)
    {keys : List Key}
    (once : keys.Nodup)
    (state : State)
    (holds : condition state) :
    count (keys.foldl visit state) =
      count state + keys.countP fun key => counts key (view state key) := by
  induction keys generalizing state with
  | nil => rfl
  | cons first rest inductionHypothesis =>
      obtain ⟨firstOnce, restOnce⟩ := List.nodup_cons.mp once
      have sameViews : (rest.countP fun key =>
          counts key (view (visit state first) key)) =
            rest.countP fun key => counts key (view state key) := by
        apply List.countP_congr
        intro key inRest
        have differs : key ≠ first := fun same => firstOnce (same ▸ inRest)
        rw [isLocal.others state first key holds differs]
      rw [List.foldl_cons,
        inductionHypothesis restOnce _ (isLocal.keeps state first holds),
        counted state first holds, sameViews, List.countP_cons, Nat.add_assoc,
        Nat.add_comm (Bool.toNat _)]
      cases counts first (view state first) <;> rfl

end Local

/-- Visits that leave the state as it is or raise a flag, and never lower it. -/
structure Flagged
    (visit : State → Key → State)
    (flag : State → Bool) : Prop where
  same_or_raised : ∀ state key,
    visit state key = state ∨ flag (visit state key) = true
  stays : ∀ state key, flag state = true → flag (visit state key) = true

namespace Flagged

variable {visit : State → Key → State} {flag : State → Bool}

theorem flag_foldl
    (flagged : Flagged visit flag)
    (keys : List Key)
    {state : State}
    (raised : flag state = true) :
    flag (keys.foldl visit state) = true := by
  induction keys generalizing state with
  | nil => exact raised
  | cons key rest inductionHypothesis =>
      exact inductionHypothesis (flagged.stays state key raised)

/-- A sweep that raises no flag has changed nothing, and none of its visits
would change anything afterwards. -/
theorem foldl_of_not_raised
    (flagged : Flagged visit flag)
    (keys : List Key)
    {state : State}
    (notRaised : flag (keys.foldl visit state) = false) :
    keys.foldl visit state = state ∧
      ∀ key ∈ keys, visit state key = state := by
  induction keys with
  | nil => exact ⟨rfl, List.forall_mem_nil _⟩
  | cons key rest inductionHypothesis =>
      rw [List.foldl_cons] at notRaised ⊢
      rcases flagged.same_or_raised state key with same | raised
      · rw [same] at notRaised ⊢
        obtain ⟨unchanged, others⟩ := inductionHypothesis notRaised
        exact ⟨unchanged, List.forall_mem_cons.mpr ⟨same, others⟩⟩
      · rw [flagged.flag_foldl rest raised] at notRaised
        exact Bool.noConfusion notRaised

end Flagged

end Sweep
