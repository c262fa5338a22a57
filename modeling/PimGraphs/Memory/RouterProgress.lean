import PimGraphs.Library.TokenBucket
import PimGraphs.Memory.Router
import Mathlib.Data.Rat.Cast.Order
import Mathlib.Tactic.Linarith

/-!
# Progress of a router

A router that delivers nothing in a tick saves what the tick adds to its
credits.  So a burst waits at the head of a queue no longer than it takes to
save its size.
-/

namespace PimGraphs

namespace HierarchicalRouter

/-- Nothing is owed, and no tick adds to a debt. -/
structure Solvent (router : HierarchicalRouter) : Prop where
  localRate : 0 ≤ router.localBytesPerTick
  globalRate : 0 ≤ router.globalBytesPerTick
  localUsed : 0 ≤ router.localUsed
  globalUsed : 0 ≤ router.globalUsed

/-- The same bursts wait, with as much credit or more. -/
structure Saves (before after : HierarchicalRouter) : Prop where
  localRate : after.localBytesPerTick = before.localBytesPerTick
  globalRate : after.globalBytesPerTick = before.globalBytesPerTick
  localQueue : after.localQueue = before.localQueue
  globalQueue : after.globalQueue = before.globalQueue
  localUsed : before.localUsed ≤ after.localUsed
  globalUsed : before.globalUsed ≤ after.globalUsed

/-- The same rates. -/
structure SameRates (before after : HierarchicalRouter) : Prop where
  localRate : after.localBytesPerTick = before.localBytesPerTick
  globalRate : after.globalBytesPerTick = before.globalBytesPerTick

/-- Some ticks' worth of saving covers a burst of this size. -/
structure Affords
    (ticks : Nat)
    (router : HierarchicalRouter)
    (bytes : Nat) : Prop where
  fromLocal : (bytes : ℚ) ≤ ticks * router.localBytesPerTick
  fromGlobal : (bytes : ℚ) ≤ ticks * router.globalBytesPerTick

/-- At least some ticks' worth has been saved. -/
structure Saved (ticks : Nat) (router : HierarchicalRouter) : Prop where
  inLocal : ticks * router.localBytesPerTick ≤ router.localUsed
  inGlobal : ticks * router.globalBytesPerTick ≤ router.globalUsed

variable {router first middle last : HierarchicalRouter}

theorem Saves.refl (router : HierarchicalRouter) : router.Saves router :=
  ⟨rfl, rfl, rfl, rfl, le_rfl, le_rfl⟩

theorem Saves.trans
    (earlier : first.Saves middle)
    (later : middle.Saves last) :
    first.Saves last where
  localRate := later.localRate.trans earlier.localRate
  globalRate := later.globalRate.trans earlier.globalRate
  localQueue := later.localQueue.trans earlier.localQueue
  globalQueue := later.globalQueue.trans earlier.globalQueue
  localUsed := earlier.localUsed.trans later.localUsed
  globalUsed := earlier.globalUsed.trans later.globalUsed

theorem Saves.waiting (saves : first.Saves last) :
    last.waiting = first.waiting := by
  unfold HierarchicalRouter.waiting
  rw [saves.localQueue, saves.globalQueue]

/-- What has been saved is not spent. -/
theorem Saved.of_saves
    {ticks : Nat}
    (saved : first.Saved ticks)
    (saves : first.Saves last) :
    last.Saved ticks where
  inLocal := by
    rw [saves.localRate]
    exact saved.inLocal.trans saves.localUsed
  inGlobal := by
    rw [saves.globalRate]
    exact saved.inGlobal.trans saves.globalUsed

theorem Solvent.saved_zero (solvent : router.Solvent) : router.Saved 0 := by
  constructor
  · rw [Nat.cast_zero, zero_mul]
    exact solvent.localUsed
  · rw [Nat.cast_zero, zero_mul]
    exact solvent.globalUsed

theorem SameRates.refl (router : HierarchicalRouter) :
    router.SameRates router :=
  ⟨rfl, rfl⟩

theorem SameRates.trans
    (earlier : first.SameRates middle)
    (later : middle.SameRates last) :
    first.SameRates last :=
  ⟨later.localRate.trans earlier.localRate,
    later.globalRate.trans earlier.globalRate⟩

theorem sameRates_enqueueRequest
    (router : HierarchicalRouter)
    (burst : MemoryBurst) :
    router.SameRates (router.enqueueRequest burst) := by
  unfold enqueueRequest
  split
  · exact ⟨rfl, rfl⟩
  · exact ⟨rfl, rfl⟩

/-- What a router affords depends on its rates alone. -/
theorem Affords.of_sameRates
    {ticks bytes : Nat}
    (affords : first.Affords ticks bytes)
    (same : first.SameRates last) :
    last.Affords ticks bytes where
  fromLocal := by
    rw [same.localRate]
    exact affords.fromLocal
  fromGlobal := by
    rw [same.globalRate]
    exact affords.fromGlobal

/-- A queue that sends nothing keeps its credit. -/
theorem deliver_of_none
    {used : ℚ}
    {queue : List MemoryBurst}
    (nothing : (deliver used queue).2.1 = []) :
    deliver used queue = (used, [], queue) := by
  cases queue with
  | nil => rfl
  | cons burst rest =>
      unfold deliver at nothing ⊢
      split at nothing
      · exact absurd nothing (List.cons_ne_nil _ _)
      case isFalse tooBig => rw [if_neg tooBig]

/-- A queue whose head is covered sends something. -/
theorem deliver_ne_nil
    {used : ℚ}
    {burst : MemoryBurst}
    {rest : List MemoryBurst}
    (covered : (burst.bytes : ℚ) ≤ used) :
    (deliver used (burst :: rest)).2.1 ≠ [] := by
  unfold deliver
  rw [if_pos covered]
  exact List.cons_ne_nil _ _

theorem deliver_nonneg
    {used : ℚ}
    (nonneg : 0 ≤ used)
    (queue : List MemoryBurst) :
    0 ≤ (deliver used queue).1 := by
  rw [deliver_eq_send]
  exact TokenBucket.send_nonneg _ nonneg queue

theorem Solvent.tick (solvent : router.Solvent) : router.tick.1.Solvent where
  localRate := solvent.localRate
  globalRate := solvent.globalRate
  localUsed :=
    deliver_nonneg (add_nonneg solvent.localUsed solvent.localRate) _
  globalUsed :=
    deliver_nonneg (add_nonneg solvent.globalUsed solvent.globalRate) _

theorem Solvent.enqueueRequest
    (solvent : router.Solvent)
    (burst : MemoryBurst) :
    (router.enqueueRequest burst).Solvent := by
  unfold HierarchicalRouter.enqueueRequest
  split
  · exact ⟨solvent.localRate, solvent.globalRate, solvent.localUsed,
      solvent.globalUsed⟩
  · exact ⟨solvent.localRate, solvent.globalRate, solvent.localUsed,
      solvent.globalUsed⟩

/-- A tick that delivers nothing saves all that it adds. -/
theorem tick_of_none (nothing : router.tick.2 = []) :
    router.tick.1 =
      { router with
        localUsed := router.localUsed + router.localBytesPerTick
        globalUsed := router.globalUsed + router.globalBytesPerTick } := by
  obtain ⟨noneLocal, noneGlobal⟩ := List.append_eq_nil_iff.mp nothing
  unfold HierarchicalRouter.tick
  rw [deliver_of_none noneLocal, deliver_of_none noneGlobal]

theorem Solvent.saves_tick
    (solvent : router.Solvent)
    (nothing : router.tick.2 = []) :
    router.Saves router.tick.1 := by
  rw [tick_of_none nothing]
  exact ⟨rfl, rfl, rfl, rfl, le_add_of_nonneg_right solvent.localRate,
    le_add_of_nonneg_right solvent.globalRate⟩

/-- It saves one tick's worth. -/
theorem Saved.tick
    {ticks : Nat}
    (saved : router.Saved ticks)
    (nothing : router.tick.2 = []) :
    router.tick.1.Saved (ticks + 1) := by
  rw [tick_of_none nothing]
  constructor
  · have credit := saved.inLocal
    push_cast
    linarith
  · have credit := saved.inGlobal
    push_cast
    linarith

/-- When enough has been saved for every burst that waits, a tick delivers
one. -/
theorem Saved.delivers
    {ticks : Nat}
    (saved : router.Saved ticks)
    (affords : ∀ burst ∈ router.waiting,
      router.Affords (ticks + 1) burst.bytes)
    (waits : router.waiting ≠ []) :
    router.tick.2 ≠ [] := by
  intro nothing
  obtain ⟨noneLocal, noneGlobal⟩ := List.append_eq_nil_iff.mp nothing
  have credits := saved.inLocal
  have globalCredits := saved.inGlobal
  cases locals : router.localQueue with
  | cons burst rest =>
      rw [locals] at noneLocal
      refine deliver_ne_nil ?_ noneLocal
      have fits := (affords burst (by
        rw [waiting, locals]
        exact List.mem_append_left _ List.mem_cons_self)).fromLocal
      push_cast at fits
      linarith
  | nil =>
      cases globals : router.globalQueue with
      | nil => exact waits (by rw [waiting, locals, globals, List.append_nil])
      | cons burst rest =>
          rw [globals] at noneGlobal
          refine deliver_ne_nil ?_ noneGlobal
          have fits := (affords burst (by
            rw [waiting, globals]
            exact List.mem_append_right _ List.mem_cons_self)).fromGlobal
          push_cast at fits
          linarith

end HierarchicalRouter

end PimGraphs
