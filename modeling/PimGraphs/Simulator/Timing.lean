import PimGraphs.Library.Latency
import PimGraphs.Memory.Timing
import PimGraphs.Simulator.CutPoints

/-!
# Runs on a memory of bounded latency

The cycles of a run, with the bursts admitted and completed before each of
them, form a server in the sense of the latency library: what is admitted in a
cycle completes within the memory's upper bound and not before its lower
bound.  This holds for the bursts of any kind, whatever is attached.
-/

namespace PimGraphs

namespace Driver

variable {M : Type}

/-! ## What a driver can do -/

/-- Front bursts are admitted, one after the other. -/
inductive Admits (config : AdmissionConfig M) (first : Driver M) :
    Driver M → Prop
  | refl : Admits config first first
  | acceptRead {driver : Driver M} {pcId : PcId} {burst : MemoryBurst}
      {rest : List MemoryBurst} {used : Nat} {memory : M} :
      (driver.mux.port pcId).pending = burst :: rest →
      driver.serialized config burst = false →
      config.overBudget used burst.bytes = false →
      config.ramulator.send driver.memory burst.addr driver.nextSlot =
        some memory →
      Admits config first driver →
        Admits config first (driver.acceptRead pcId burst memory)

theorem Admits.visitPort
    {config : AdmissionConfig M}
    {first : Driver M}
    {loop : WaveLoop M}
    (admits : Admits config first loop.driver)
    (pcId : PcId) :
    Admits config first (WaveLoop.visitPort config loop pcId).driver := by
  rcases WaveLoop.visitPort_cases config loop pcId with
    skipped | ⟨burst, rest, memory, front, allowed, fits, sent, admitted⟩
  · rw [skipped]
    exact admits
  · rw [admitted]
    exact admits.acceptRead front allowed fits sent

theorem Admits.sweep
    {config : AdmissionConfig M}
    {first : Driver M}
    {loop : WaveLoop M}
    (admits : Admits config first loop.driver) :
    Admits config first (loop.sweep config).driver := by
  unfold WaveLoop.sweep
  refine List.foldlRecOn
    (motive := fun loop : WaveLoop M => Admits config first loop.driver)
    _ _ admits ?_
  intro reached here pcId _
  exact here.visitPort pcId

theorem Admits.runWaves
    {config : AdmissionConfig M}
    {first : Driver M}
    (fuel : Nat)
    (loop : WaveLoop M)
    (admits : Admits config first loop.driver) :
    Admits config first (loop.runWaves config fuel).driver := by
  induction fuel generalizing loop with
  | zero => exact admits
  | succ fuel inductionHypothesis =>
      rw [WaveLoop.runWaves]
      split
      · exact inductionHypothesis _ admits.sweep
      · exact admits

/-- The wave loop of a cycle only admits. -/
theorem admits_admissionLoop
    (config : AdmissionConfig M)
    (driver : Driver M) :
    Admits config driver (driver.admissionLoop config).driver :=
  Admits.runWaves _ { driver := driver } .refl

/-- What may happen to a driver, in any order: bursts arrive, front bursts are
admitted, and the memory ticks. -/
inductive Evolves (config : AdmissionConfig M) (first : Driver M) :
    Driver M → Prop
  | refl : Evolves config first first
  | enqueue {driver : Driver M} (via : Option Nat) (burst : MemoryBurst) :
      Evolves config first driver →
        Evolves config first (driver.enqueue via burst)
  | recordRouted {driver : Driver M} (router : Nat) (producer : Producer)
      (bursts : List MemoryBurst) :
      Evolves config first driver →
        Evolves config first (driver.recordRouted router producer bursts)
  | acceptRead {driver : Driver M} {pcId : PcId} {burst : MemoryBurst}
      {rest : List MemoryBurst} {used : Nat} {memory : M} :
      (driver.mux.port pcId).pending = burst :: rest →
      driver.serialized config burst = false →
      config.overBudget used burst.bytes = false →
      config.ramulator.send driver.memory burst.addr driver.nextSlot =
        some memory →
      Evolves config first driver →
        Evolves config first (driver.acceptRead pcId burst memory)
  | tick {driver : Driver M} :
      Evolves config first driver →
        Evolves config first
          ({ driver with
            memory := (config.ramulator.tick driver.memory).1 }.completeAll
              (config.ramulator.fires driver.memory))

namespace Evolves

variable {config : AdmissionConfig M} {first middle last : Driver M}

theorem trans
    (earlier : Evolves config first middle)
    (later : Evolves config middle last) :
    Evolves config first last := by
  induction later with
  | refl => exact earlier
  | enqueue via burst _ inductionHypothesis =>
      exact inductionHypothesis.enqueue via burst
  | recordRouted router producer bursts _ inductionHypothesis =>
      exact inductionHypothesis.recordRouted router producer bursts
  | acceptRead front allowed fits sent _ inductionHypothesis =>
      exact inductionHypothesis.acceptRead front allowed fits sent
  | tick _ inductionHypothesis => exact inductionHypothesis.tick

theorem enqueueAll
    (evolves : Evolves config first last)
    (via : Option Nat)
    (bursts : List MemoryBurst) :
    Evolves config first (last.enqueueAll via bursts) := by
  unfold Driver.enqueueAll
  induction bursts generalizing last with
  | nil => exact evolves
  | cons burst rest inductionHypothesis =>
      exact inductionHypothesis (evolves.enqueue via burst)

theorem of_moves
    {attached : Option Nat}
    {before after : Traffic M}
    (moves : Moves attached before after) :
    Evolves config before.2 after.2 := by
  induction moves with
  | refl => exact .refl
  | enqueue burst _ inductionHypothesis =>
      exact inductionHypothesis.enqueue none burst
  | route ref producer bursts _ inductionHypothesis =>
      exact inductionHypothesis.recordRouted ref producer bursts
  | deliver ref _ _ inductionHypothesis =>
      exact inductionHypothesis.enqueueAll _ _

theorem admits
    (evolves : Evolves config first middle)
    (later : Admits config middle last) :
    Evolves config first last := by
  induction later with
  | refl => exact evolves
  | acceptRead front allowed fits sent _ inductionHypothesis =>
      exact inductionHypothesis.acceptRead front allowed fits sent

end Evolves

/-! ## Admitted and completed bursts -/

/-- The bursts admitted so far, with their slots, in order. -/
def admissions (driver : Driver M) : List (Nat × MemoryBurst) :=
  driver.history.filterMap Event.admission

/-- The bursts completed so far, with their slots, in order. -/
def completions (driver : Driver M) : List (Nat × MemoryBurst) :=
  driver.history.filterMap Event.completion

/-- What was admitted later lies above the slots used before. -/
structure Continues (first driver : Driver M) : Prop where
  nextSlot_le : first.nextSlot ≤ driver.nextSlot
  admissions : ∃ later, driver.admissions = first.admissions ++ later ∧
    ∀ entry ∈ later, first.nextSlot ≤ entry.1
  known : ∀ slot ∈ driver.busySlots, slot < first.nextSlot →
    slot ∈ first.busySlots

theorem Continues.mem_admissions
    {first driver : Driver M}
    (continues : Continues first driver)
    {entry : Nat × MemoryBurst}
    (member : entry ∈ driver.admissions)
    (earlier : entry.1 < first.nextSlot) :
    entry ∈ first.admissions := by
  obtain ⟨later, grown, fresh⟩ := continues.admissions
  rw [grown] at member
  rcases List.mem_append.mp member with old | new
  · exact old
  · exact absurd earlier (Nat.not_lt.mpr (fresh entry new))

theorem Continues.complete
    {first driver : Driver M}
    (continues : Continues first driver)
    (slot : Nat) :
    Continues first (driver.complete slot).1 := by
  have below : Below first.nextSlot first.busySlots driver :=
    ⟨continues.nextSlot_le, continues.known⟩
  obtain ⟨later, grown, fresh⟩ := continues.admissions
  constructor
  case nextSlot_le => exact (below.complete slot).nextSlot_ge
  case known => exact (below.complete slot).known
  case admissions =>
    refine ⟨later, ?_, fresh⟩
    rw [← grown]
    cases found : driver.inflight.lookup slot with
    | none => simp [Driver.complete_eq, found]
    | some request =>
        rw [Driver.admissions, complete_history found, List.filterMap_append,
          filterMap_admission_completionEvents, List.append_nil]
        rfl

theorem Continues.completeAll
    {first driver : Driver M}
    (continues : Continues first driver)
    (fired : List Nat) :
    Continues first (driver.completeAll fired) := by
  unfold Driver.completeAll
  induction fired generalizing driver with
  | nil => exact continues
  | cons slot rest inductionHypothesis =>
      exact inductionHypothesis (continues.complete slot)

theorem Evolves.continues
    {config : AdmissionConfig M}
    {first last : Driver M}
    (evolves : Evolves config first last) :
    Continues first last := by
  induction evolves with
  | refl => exact ⟨le_rfl, ⟨[], by simp, by simp⟩, fun _ member _ => member⟩
  | enqueue via burst _ inductionHypothesis =>
      obtain ⟨nextSlot_le, ⟨later, grown, fresh⟩, known⟩ := inductionHypothesis
      refine ⟨nextSlot_le, ⟨later, ?_, fresh⟩, known⟩
      rw [← grown, admissions, Driver.enqueue, List.filterMap_append]
      exact List.append_nil _
  | recordRouted router producer bursts _ inductionHypothesis =>
      obtain ⟨nextSlot_le, ⟨later, grown, fresh⟩, known⟩ := inductionHypothesis
      refine ⟨nextSlot_le, ⟨later, ?_, fresh⟩, known⟩
      rw [← grown, admissions, Driver.recordRouted, List.filterMap_append,
        List.filterMap_map]
      simp [Function.comp_def, Event.admission, admissions]
  | @acceptRead driver pcId burst rest used memory _ _ _ _ _
      inductionHypothesis =>
      obtain ⟨nextSlot_le, ⟨later, grown, fresh⟩, known⟩ := inductionHypothesis
      have below := (Below.mk nextSlot_le known).acceptRead pcId burst memory
      refine ⟨below.nextSlot_ge, ⟨later ++ [(driver.nextSlot, burst)], ?_, ?_⟩,
        below.known⟩
      · rw [← List.append_assoc, ← grown, admissions, Driver.acceptRead,
          List.filterMap_append]
        rfl
      · intro entry member
        rcases List.mem_append.mp member with old | new
        · exact fresh entry old
        · rw [List.mem_singleton.mp new]
          exact nextSlot_le
  | tick _ inductionHypothesis =>
      apply Continues.completeAll
      exact ⟨inductionHypothesis.nextSlot_le, inductionHypothesis.admissions,
        inductionHypothesis.known⟩

/-- Events are only ever added. -/
theorem Evolves.history_extends
    {config : AdmissionConfig M}
    {first last : Driver M}
    (evolves : Evolves config first last) :
    first.history <+: last.history := by
  induction evolves with
  | refl => exact List.prefix_refl _
  | enqueue _ _ _ inductionHypothesis =>
      exact inductionHypothesis.trans (List.prefix_append _ _)
  | recordRouted _ _ _ _ inductionHypothesis =>
      exact inductionHypothesis.trans (List.prefix_append _ _)
  | acceptRead _ _ _ _ _ inductionHypothesis =>
      exact inductionHypothesis.trans (List.prefix_append _ _)
  | tick _ inductionHypothesis =>
      unfold Driver.completeAll
      refine List.foldlRecOn
        (motive := fun driver : Driver M => first.history <+: driver.history)
        _ _ inductionHypothesis ?_
      intro driver before slot _
      apply before.trans
      cases found : driver.inflight.lookup slot with
      | none => simp [Driver.complete_eq, found]
      | some request =>
          rw [complete_history found]
          exact List.prefix_append _ _

/-- Slots in flight lie below the next one. -/
theorem Accounts.lt_nextSlot
    {config : AdmissionConfig M}
    {initial driver : Driver M}
    (accounts : Accounts config initial driver)
    {slot : Nat}
    (busy : slot ∈ driver.busySlots) :
    slot < driver.nextSlot := by
  obtain ⟨entry, member, rfl⟩ := List.mem_map.mp busy
  refine accounts.used (entry.1, entry.2.burst)
    (accounts.slots.mem_iff.mpr (List.mem_append_right _ ?_))
  exact List.mem_map_of_mem member

/-- Only slots that fire complete. -/
theorem completions_completeAll
    (fired : List Nat)
    {driver : Driver M}
    {entry : Nat × MemoryBurst}
    (completes : entry ∈ (driver.completeAll fired).completions) :
    entry ∈ driver.completions ∨ entry.1 ∈ fired := by
  unfold Driver.completeAll at completes
  induction fired generalizing driver with
  | nil => exact Or.inl completes
  | cons slot rest inductionHypothesis =>
      rcases inductionHypothesis completes with earlier | later
      · cases found : driver.inflight.lookup slot with
        | none =>
            simp only [complete_eq, found] at earlier
            exact Or.inl earlier
        | some request =>
            rw [completions, complete_history found, List.filterMap_append,
              filterMap_completion_completionEvents] at earlier
            rcases List.mem_append.mp earlier with before | now
            · exact Or.inl before
            · rw [List.mem_singleton.mp now]
              exact Or.inr List.mem_cons_self
      · exact Or.inr (List.mem_cons_of_mem slot later)

end Driver

theorem Moves.completions
    {M : Type}
    {attached : Option Nat}
    {first last : Traffic M}
    (moves : Moves attached first last) :
    last.2.completions = first.2.completions := by
  induction moves with
  | refl => rfl
  | enqueue burst _ inductionHypothesis =>
      rw [← inductionHypothesis, Driver.completions, Driver.enqueue,
        List.filterMap_append]
      exact List.append_nil _
  | route ref producer bursts _ inductionHypothesis =>
      rw [← inductionHypothesis, Driver.completions, Driver.recordRouted,
        List.filterMap_append, List.filterMap_map]
      simp [Function.comp_def, Event.completion, Driver.completions]
  | deliver ref _ _ inductionHypothesis =>
      rw [← inductionHypothesis]
      unfold Driver.enqueueAll
      apply Sweep.observe_foldl
        (fun reached : Driver M => reached.completions)
      intro reached burst
      rw [Driver.completions, Driver.enqueue, List.filterMap_append]
      exact List.append_nil _

namespace RunState

variable {F M : Type} [Zero F] [One F] [Add F] [Sub F] [Mul F] [Div F]
variable [NatCast F] (config : RunConfig F M)

/-! ## The cycles of a run -/

/-- The state in front of each cycle, were the loop not to stop. -/
def clocked (state : RunState F M) (time : Nat) : RunState F M :=
  (cycle config)^[time] state

@[simp] theorem clocked_zero (state : RunState F M) :
    state.clocked config 0 = state := rfl

theorem clocked_succ (state : RunState F M) (time : Nat) :
    state.clocked config (time + 1) =
      (state.clocked config time).cycle config :=
  Function.iterate_succ_apply' _ _ _

theorem clocked_add (state : RunState F M) (earlier later : Nat) :
    state.clocked config (earlier + later) =
      (state.clocked config earlier).clocked config later := by
  rw [clocked, Nat.add_comm, Function.iterate_add_apply]
  rfl

theorem cycle_evolves (state : RunState F M) :
    Driver.Evolves config.admission state.driver
      (state.cycle config).driver := by
  have moved : Driver.Evolves config.admission state.driver
      (state.tickComponents config).driver :=
    .of_moves (tickComponents_moves config .refl)
  rw [driver_cycle]
  exact (moved.admits (Driver.admits_admissionLoop _ _)).tick

theorem clocked_evolves (state : RunState F M) (time : Nat) :
    Driver.Evolves config.admission state.driver
      (state.clocked config time).driver := by
  induction time with
  | zero => exact .refl
  | succ time inductionHypothesis =>
      rw [clocked_succ]
      exact inductionHypothesis.trans (cycle_evolves config _)

variable {config} {initial : Driver M} {state : RunState F M}

theorem continues_clocked
    (config : RunConfig F M)
    (state : RunState F M)
    {earlier later : Nat}
    (ordered : earlier ≤ later) :
    (state.clocked config earlier).driver.Continues
      (state.clocked config later).driver := by
  obtain ⟨rest, rfl⟩ := Nat.exists_eq_add_of_le ordered
  rw [clocked_add]
  exact (clocked_evolves config _ rest).continues

theorem Balanced.clocked
    (balanced : Balanced config initial state.driver)
    (time : Nat) :
    Balanced config initial (state.clocked config time).driver := by
  induction time with
  | zero => exact balanced
  | succ time inductionHypothesis =>
      rw [clocked_succ]
      exact inductionHypothesis.cycle

/-- The memory of a run, before and after each admission. -/
theorem clocked_memory (state : RunState F M) (start : Nat) :
    config.admission.ramulator.Clocked
      (fun time => (state.clocked config (start + time)).driver.memory)
      (fun time => ((state.clocked config (start + time)).loadedDriver
        config).memory) where
  accepts := fun time => (memory_cycle config _).1
  ticks := fun time => by
    rw [← Nat.add_assoc, clocked_succ]
    exact (memory_cycle config _).2

/-- A read in flight after a cycle was held by the memory during it. -/
theorem mem_held_loaded
    (balanced : Balanced config initial state.driver)
    {slot : Nat}
    (busy : slot ∈ (state.cycle config).driver.busySlots) :
    slot ∈ config.admission.ramulator.held
      (state.loadedDriver config).memory := by
  have after : Balanced config initial (state.cycle config).driver :=
    balanced.cycle
  rw [config.admission.ramulator.held_tick, Multiset.mem_add,
    ← (memory_cycle config state).2, show
      config.admission.ramulator.held (state.cycle config).driver.memory =
        _ from after.held]
  exact Or.inl (Multiset.mem_coe.mpr busy)

/-- The cycle in which a slot was used. -/
theorem exists_admitting_cycle
    (state : RunState F M)
    {slot last : Nat}
    (fresh : state.driver.nextSlot ≤ slot)
    (used : slot < (state.clocked config last).driver.nextSlot) :
    ∃ time < last, (state.clocked config time).driver.nextSlot ≤ slot ∧
      slot < (state.clocked config (time + 1)).driver.nextSlot := by
  induction last with
  | zero => exact absurd used (Nat.not_lt.mpr fresh)
  | succ last inductionHypothesis =>
      rcases Nat.lt_or_ge slot
        (state.clocked config last).driver.nextSlot with before | now
      · obtain ⟨time, bound, here⟩ := inductionHypothesis before
        exact ⟨time, Nat.lt_succ_of_lt bound, here⟩
      · exact ⟨last, Nat.lt_succ_self last, now, used⟩

/-- On a prompt memory the reads in flight have been admitted in the last
`latency` cycles. -/
theorem recent_of_busy
    {latency : Nat}
    (within : config.admission.ramulator.FiresWithin latency)
    (balanced : Balanced config initial state.driver)
    (idle : state.driver.busySlots = [])
    {time slot : Nat}
    (busy : slot ∈ (state.clocked config (time + latency)).driver.busySlots) :
    (state.clocked config (time + 1)).driver.nextSlot ≤ slot := by
  by_contra old
  rw [Nat.not_le] at old
  have unused : state.driver.nextSlot ≤ slot := by
    by_contra earlier
    have known := (continues_clocked config state
      (Nat.zero_le (time + latency))).known slot busy (Nat.not_le.mp earlier)
    rw [clocked_zero, idle] at known
    exact absurd known List.not_mem_nil
  obtain ⟨start, before, notYet, used⟩ :=
    exists_admitting_cycle state unused old
  have soon : start + 1 ≤ time + latency := by
    by_contra late
    obtain rfl : start = time + latency := by omega
    exact Nat.not_lt.mpr notYet
      ((balanced.clocked _).accounts.lt_nextSlot busy)
  have stillBusy {later : Nat} (after : start + 1 ≤ later)
      (bound : later ≤ time + latency) :
      slot ∈ (state.clocked config later).driver.busySlots := by
    refine (continues_clocked config state bound).known slot busy ?_
    exact used.trans_le (continues_clocked config state after).nextSlot_le
  -- it was accepted in the cycle `start`, and so it has fired by now
  have absent : slot ∉ config.admission.ramulator.held
      (state.clocked config start).driver.memory := by
    rw [show config.admission.ramulator.held _ = _ from
      (balanced.clocked start).held]
    intro member
    exact Nat.not_lt.mpr notYet ((balanced.clocked start).accounts.lt_nextSlot
      (Multiset.mem_coe.mp member))
  have isHeld := mem_held_loaded (balanced.clocked start)
    (by rw [← clocked_succ]; exact stillBusy le_rfl soon)
  obtain ⟨later, bound, fired⟩ := within _ _
    (clocked_memory state start) slot isHeld absent
  have gone := not_mem_busySlots_cycle (balanced.clocked (start + later)) fired
  rw [← clocked_succ] at gone
  exact gone (stillBusy (by omega) (by omega))

/-- Nothing completes before the memory's tick. -/
theorem completions_loadedDriver (state : RunState F M) :
    (state.loadedDriver config).completions = state.driver.completions := by
  have moves : Moves config.attached.router state.traffic
      (state.tickComponents config).traffic :=
    tickComponents_moves config .refl
  refine Eq.trans ?_ moves.completions
  have keeps : WaveLoop.KeptByAdmission config.admission
      fun driver : Driver M => driver.completions =
        (state.tickComponents config).driver.completions := by
    intro driver pcId burst _ memory same _ _ _
    rw [← same, Driver.completions, Driver.acceptRead, List.filterMap_append]
    exact List.append_nil _
  exact WaveLoop.kept_admissionLoop keeps rfl

/-- A read completes in a cycle in which it fires. -/
theorem exists_firing_cycle
    (state : RunState F M)
    {last : Nat}
    {entry : Nat × MemoryBurst}
    (notYet : entry ∉ state.driver.completions)
    (completes : entry ∈ (state.clocked config last).driver.completions) :
    ∃ time < last, entry.1 ∈ config.admission.ramulator.fires
      ((state.clocked config time).loadedDriver config).memory := by
  induction last with
  | zero => exact absurd completes notYet
  | succ last inductionHypothesis =>
      rw [clocked_succ, driver_cycle] at completes
      rcases Driver.completions_completeAll _ completes with earlier | now
      · change entry ∈ ((state.clocked config last).loadedDriver
          config).completions at earlier
        rw [completions_loadedDriver] at earlier
        obtain ⟨time, bound, fired⟩ := inductionHypothesis earlier
        exact ⟨time, Nat.lt_succ_of_lt bound, fired⟩
      · exact ⟨last, Nat.lt_succ_self last, now⟩

/-- On a slow memory a read that completes within `latency` cycles was in
flight before them. -/
theorem lt_nextSlot_of_completed
    {latency : Nat}
    (notBefore : config.admission.ramulator.FiresNotBefore latency)
    (balanced : Balanced config initial state.driver)
    {entry : Nat × MemoryBurst}
    (used : ∀ earlier ∈ state.driver.completions,
      earlier.1 < state.driver.nextSlot)
    {time : Nat}
    (early : time < latency)
    (completes : entry ∈ (state.clocked config time).driver.completions) :
    entry.1 < state.driver.nextSlot := by
  by_contra unused
  have notYet : entry ∉ state.driver.completions :=
    fun done => unused (used entry done)
  obtain ⟨cycle, bound, fired⟩ := exists_firing_cycle state notYet completes
  have absent : entry.1 ∉ config.admission.ramulator.held
      state.driver.memory := by
    rw [show config.admission.ramulator.held _ = _ from balanced.held]
    exact fun member => unused
      (balanced.accounts.lt_nextSlot (Multiset.mem_coe.mp member))
  have fired' := fired
  rw [← Nat.zero_add cycle] at fired'
  have late := notBefore _ _ (clocked_memory state 0) entry.1 absent cycle
    fired'
  omega

/-! ## Runs as servers -/

/-- Bursts of a kind admitted before a cycle. -/
def issued
    (config : RunConfig F M)
    (select : MemoryBurst → Bool)
    (state : RunState F M)
    (time : Nat) : Nat :=
  (state.clocked config time).driver.admissions.countP fun entry =>
    select entry.2

/-- Bursts of a kind completed before a cycle. -/
def completed
    (config : RunConfig F M)
    (select : MemoryBurst → Bool)
    (state : RunState F M)
    (time : Nat) : Nat :=
  (state.clocked config time).driver.completions.countP fun entry =>
    select entry.2

end RunState

namespace RamulatorHbmSimulator

open RunState

variable {F M : Type} [Zero F] [One F] [Add F] [Sub F] [Mul F] [Div F]
variable [NatCast F] {simulator : RamulatorHbmSimulator F M} {latency : Nat}

/-- The state of a simulator in front of each cycle of a call. -/
abbrev before (simulator : RamulatorHbmSimulator F M) (time : Nat) :
    RunState F M :=
  simulator.enter.clocked simulator.runConfig time

theorem Idle.balanced (idle : simulator.Idle) (time : Nat) :
    Balanced simulator.runConfig simulator.enter.driver
      (simulator.before time).driver := by
  have initially : Balanced simulator.runConfig simulator.enter.driver
      simulator.enter.driver :=
    ⟨.of_entered idle.entered, idle.entered.held⟩
  exact initially.clocked time

theorem Idle.books (idle : simulator.Idle) (time : Nat) :
    Driver.Books simulator.admission simulator.mux
      (simulator.before time).driver :=
  (idle.balanced time).accounts.books (idle.balanced time).held
    idle.inflight_nil

/-- Admitted bursts have completed or are in flight. -/
theorem Idle.mem_admissions (idle : simulator.Idle) (time : Nat)
    {entry : Nat × MemoryBurst} :
    entry ∈ (simulator.before time).driver.admissions ↔
      entry ∈ (simulator.before time).driver.completions ∨
        entry ∈ (simulator.before time).driver.inFlightBursts := by
  rw [Driver.admissions, (idle.books time).once.mem_iff, List.mem_append]
  rfl

theorem Idle.nodup_admissions (idle : simulator.Idle) (time : Nat) :
    (simulator.before time).driver.admissions.Nodup :=
  (idle.books time).distinct.of_map _

theorem Idle.nodup_completions (idle : simulator.Idle) (time : Nat) :
    (simulator.before time).driver.completions.Nodup :=
  (List.nodup_append.mp ((idle.books time).once.nodup_iff.mp
    (idle.nodup_admissions time))).1

theorem Idle.lt_nextSlot (idle : simulator.Idle) (time : Nat)
    {entry : Nat × MemoryBurst}
    (member : entry ∈ (simulator.before time).driver.admissions) :
    entry.1 < (simulator.before time).driver.nextSlot :=
  (idle.balanced time).accounts.used entry (List.mem_append_right _ member)

theorem continues_before
    (simulator : RamulatorHbmSimulator F M)
    {earlier later : Nat}
    (ordered : earlier ≤ later) :
    (simulator.before earlier).driver.Continues
      (simulator.before later).driver :=
  continues_clocked simulator.runConfig simulator.enter ordered

theorem admissions_extend
    (simulator : RamulatorHbmSimulator F M)
    {earlier later : Nat}
    (ordered : earlier ≤ later) :
    (simulator.before earlier).driver.admissions <+:
      (simulator.before later).driver.admissions := by
  obtain ⟨rest, rfl⟩ := Nat.exists_eq_add_of_le ordered
  rw [before, before, clocked_add]
  exact (clocked_evolves _ _ rest).history_extends.filterMap _

theorem completions_extend
    (simulator : RamulatorHbmSimulator F M)
    {earlier later : Nat}
    (ordered : earlier ≤ later) :
    (simulator.before earlier).driver.completions <+:
      (simulator.before later).driver.completions := by
  obtain ⟨rest, rfl⟩ := Nat.exists_eq_add_of_le ordered
  rw [before, before, clocked_add]
  exact (clocked_evolves _ _ rest).history_extends.filterMap _

/-- A prompt memory makes a run a prompt server, for bursts of any kind. -/
theorem Idle.isPrompt
    (idle : simulator.Idle)
    (positive : 0 < latency)
    (within : simulator.admission.ramulator.FiresWithin latency)
    (select : MemoryBurst → Bool) :
    Latency.Prompt latency
      (issued simulator.runConfig select simulator.enter)
      (completed simulator.runConfig select simulator.enter) where
  issued_mono := fun _ _ ordered =>
    (simulator.admissions_extend ordered).sublist.countP_le
  completed_mono := fun _ _ ordered =>
    (simulator.completions_extend ordered).sublist.countP_le
  completed_le := by
    intro time
    have once := (idle.books time).once
    apply (idle.nodup_completions time).subperm _ |>.countP_le
    intro entry completes
    exact (idle.mem_admissions time).mpr (Or.inl completes)
  served := by
    intro time
    apply ((idle.nodup_admissions (time + 1)).subperm _).countP_le
    intro entry admitted
    have used := idle.lt_nextSlot (time + 1) admitted
    have grown := simulator.admissions_extend
      (Nat.add_le_add_left positive time)
    rcases (idle.mem_admissions _).mp (grown.subset admitted) with
      done | inFlight
    · exact done
    · obtain ⟨request, member, same⟩ := List.mem_map.mp inFlight
      have busy : entry.1 ∈
          (simulator.before (time + latency)).driver.busySlots := by
        rw [← same]
        exact List.mem_map_of_mem member
      have recent := recent_of_busy within (idle.balanced 0)
        (by simp [Driver.busySlots, enter, idle.inflight_nil]) busy
      exact absurd used (Nat.not_lt.mpr recent)

/-- On a slow memory only reads admitted before complete within `latency`
cycles. -/
theorem Idle.completed_soon
    (idle : simulator.Idle)
    (notBefore : simulator.admission.ramulator.FiresNotBefore latency)
    (start : Nat)
    {time : Nat}
    (early : time < latency)
    {entry : Nat × MemoryBurst}
    (completes : entry ∈
      (simulator.before (start + time)).driver.completions) :
    entry.1 < (simulator.before start).driver.nextSlot := by
  rw [before, clocked_add] at completes
  refine lt_nextSlot_of_completed notBefore (idle.balanced start) ?_ early
    completes
  intro earlier done
  exact idle.lt_nextSlot start ((idle.mem_admissions start).mpr (Or.inl done))

/-- A slow memory makes a run a slow server, for bursts of any kind. -/
theorem Idle.isSlow
    (idle : simulator.Idle)
    (notBefore : simulator.admission.ramulator.FiresNotBefore latency)
    (select : MemoryBurst → Bool) :
    Latency.Slow latency
      (issued simulator.runConfig select simulator.enter)
      (completed simulator.runConfig select simulator.enter) where
  none_early := by
    intro time early
    unfold completed
    rw [List.countP_eq_zero]
    intro entry completes
    have admitted := (idle.mem_admissions time).mpr (Or.inl completes)
    have atStart := (simulator.continues_before
      (Nat.zero_le time)).mem_admissions admitted
      (idle.completed_soon notBefore 0 early
        (by rwa [Nat.zero_add]))
    exact absurd atStart List.not_mem_nil
  held := by
    intro time
    apply ((idle.nodup_completions (time + latency)).subperm _).countP_le
    intro entry completes
    have admitted := (idle.mem_admissions _).mpr (Or.inl completes)
    cases latency with
    | zero =>
        exact (simulator.admissions_extend (Nat.le_succ time)).subset admitted
    | succ less =>
        have shift : time + (less + 1) = time + 1 + less := by omega
        rw [shift] at completes admitted
        exact (simulator.continues_before
          (Nat.le_add_right (time + 1) less)).mem_admissions admitted
          (idle.completed_soon notBefore (time + 1)
            (Nat.lt_succ_self less) completes)

end RamulatorHbmSimulator

end PimGraphs
