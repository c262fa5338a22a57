import PimGraphs.Compute.VertexRun

/-!
# Phases and cycle counts

The phases of a vertex program and its counters do not depend on the data it
works on, except for when a phase has what it waits for.  A ledger keeps the
phase and the counters only; a tick of the program is a tick of its ledger.
-/

namespace PimGraphs

namespace VertexProgramPhase

/-- Position in the order of the phases. -/
def rank : VertexProgramPhase → Nat
  | .idle => 0
  | .genUpdateGather => 1
  | .genUpdateCompute => 2
  | .genUpdatePsauDrain => 3
  | .applyUpdateLoadH => 4
  | .applyUpdateGru => 5
  | .writeback => 6
  | .done => 7

/-- The phase that follows, where one does. -/
def successor : VertexProgramPhase → Option VertexProgramPhase
  | .idle => none
  | .genUpdateGather => some .genUpdateCompute
  | .genUpdateCompute => some .genUpdatePsauDrain
  | .genUpdatePsauDrain => some .applyUpdateLoadH
  | .applyUpdateLoadH => some .applyUpdateGru
  | .applyUpdateGru => some .writeback
  | .writeback => some .done
  | .done => none

theorem rank_of_successor
    {phase next : VertexProgramPhase}
    (follows : phase.successor = some next) :
    next.rank = phase.rank + 1 := by
  cases phase <;> cases follows <;> rfl

end VertexProgramPhase

/-- The phase and the counters of a vertex program. -/
structure PhaseLedger extends VertexProgramStats where
  phase : VertexProgramPhase := .idle
  psauFlushCount : Nat := 0
  writebackReady : Bool := false

namespace PhaseLedger

/-- A vertex is started. -/
def start (ledger : PhaseLedger) : PhaseLedger :=
  { verticesDone := ledger.verticesDone
    phase := .genUpdateGather }

/-- One tick; `leaves` tells whether the phase has what it waits for. -/
def tick (ledger : PhaseLedger) (leaves : Bool) : PhaseLedger :=
  let counted := { ledger with totalCycles := ledger.totalCycles + 1 }
  match ledger.phase with
  | .idle => ledger
  | .done => ledger
  | .genUpdateGather =>
      let counted := { counted with gatherCycles := ledger.gatherCycles + 1 }
      if leaves then
        { counted with computeCycles := 0, phase := .genUpdateCompute }
      else counted
  | .genUpdateCompute =>
      let counted := { counted with computeCycles := ledger.computeCycles + 1 }
      if 16 ≤ counted.computeCycles then
        { counted with
          psauFlushCount := 0
          psauCycles := 0
          phase := .genUpdatePsauDrain }
      else counted
  | .genUpdatePsauDrain =>
      let counted := { counted with
        psauCycles := ledger.psauCycles + 1
        psauFlushCount := ledger.psauFlushCount + 1 }
      if leaves ∨ 6 < counted.psauFlushCount then
        { counted with loadHCycles := 0, phase := .applyUpdateLoadH }
      else counted
  | .applyUpdateLoadH =>
      let counted := { counted with loadHCycles := ledger.loadHCycles + 1 }
      if leaves then { counted with gruCycles := 0, phase := .applyUpdateGru }
      else counted
  | .applyUpdateGru =>
      let counted := { counted with gruCycles := ledger.gruCycles + 1 }
      if leaves then { counted with phase := .writeback } else counted
  | .writeback =>
      { counted with
        verticesDone := ledger.verticesDone + 1
        phase := .done
        writebackReady := true }

/-- Cycles spent in the phases that are counted one by one. -/
def phaseCycles (ledger : PhaseLedger) : Nat :=
  ledger.gatherCycles + ledger.computeCycles + ledger.psauCycles +
    ledger.loadHCycles + ledger.gruCycles

/-- The counters account for every cycle. -/
structure Accounted (ledger : PhaseLedger) : Prop where
  total : ledger.totalCycles =
    ledger.phaseCycles + if ledger.phase = .done then 1 else 0
  compute : VertexProgramPhase.genUpdateCompute.rank < ledger.phase.rank →
    ledger.computeCycles = 16
  psau : VertexProgramPhase.genUpdatePsauDrain.rank < ledger.phase.rank →
    1 ≤ ledger.psauCycles ∧ ledger.psauCycles ≤ 7
  ready : ledger.writebackReady = true ↔ ledger.phase = .done

/-- The counters in each phase: those of later phases are still zero. -/
def Counts (ledger : PhaseLedger) : Prop :=
  match ledger.phase with
  | .idle => ledger.phaseCycles = 0
  | .genUpdateGather =>
      ledger.computeCycles = 0 ∧ ledger.psauCycles = 0 ∧
        ledger.loadHCycles = 0 ∧ ledger.gruCycles = 0
  | .genUpdateCompute =>
      ledger.computeCycles < 16 ∧ ledger.psauCycles = 0 ∧
        ledger.loadHCycles = 0 ∧ ledger.gruCycles = 0
  | .genUpdatePsauDrain =>
      ledger.computeCycles = 16 ∧
        ledger.psauCycles = ledger.psauFlushCount ∧
          ledger.psauFlushCount ≤ 6 ∧
            ledger.loadHCycles = 0 ∧ ledger.gruCycles = 0
  | .applyUpdateLoadH =>
      ledger.computeCycles = 16 ∧ 1 ≤ ledger.psauCycles ∧
        ledger.psauCycles ≤ 7 ∧ ledger.gruCycles = 0
  | _ =>
      ledger.computeCycles = 16 ∧ 1 ≤ ledger.psauCycles ∧
        ledger.psauCycles ≤ 7

/-- What every tick keeps. -/
structure Sound (ledger : PhaseLedger) : Prop where
  total : ledger.totalCycles =
    ledger.phaseCycles + if ledger.phase = .done then 1 else 0
  counts : ledger.Counts
  ready : ledger.writebackReady = true ↔ ledger.phase = .done

variable {ledger : PhaseLedger}

theorem sound_start (ledger : PhaseLedger) : ledger.start.Sound := by
  constructor
  · rfl
  · exact ⟨rfl, rfl, rfl, rfl⟩
  · exact ⟨nofun, nofun⟩

/-- Before the end all cycles are cycles of a phase. -/
theorem Sound.of_not_done
    (notDone : ledger.phase ≠ .done)
    (total : ledger.totalCycles = ledger.phaseCycles)
    (counts : ledger.Counts)
    (waits : ledger.writebackReady = false) :
    ledger.Sound := by
  constructor
  · rw [if_neg notDone, total]
    rfl
  · exact counts
  · rw [waits]
    exact ⟨nofun, fun done => absurd done notDone⟩

theorem Sound.not_done
    (sound : ledger.Sound)
    (notDone : ledger.phase ≠ .done) :
    ledger.totalCycles = ledger.phaseCycles ∧
      ledger.writebackReady = false := by
  constructor
  · rw [sound.total, if_neg notDone]
    rfl
  · rw [Bool.eq_false_iff, ne_eq, sound.ready]
    exact notDone

/-- Every phase counts its ticks, and is left with the counters of the next
one at zero. -/
theorem Sound.tick (sound : ledger.Sound) (leaves : Bool) :
    (ledger.tick leaves).Sound := by
  have counts := sound.counts
  have running := sound.not_done
  unfold Counts at counts
  unfold phaseCycles at running
  unfold PhaseLedger.tick
  cases phase : ledger.phase with
  | idle => exact sound
  | done => exact sound
  | genUpdateGather =>
      rw [phase] at counts running
      obtain ⟨total, waits⟩ := running nofun
      obtain ⟨noCompute, later⟩ := counts
      simp only
      split
      · refine .of_not_done nofun ?_ ⟨Nat.succ_pos _, later⟩ waits
        simp only [phaseCycles]
        omega
      · refine .of_not_done nofun ?_ ⟨noCompute, later⟩ waits
        simp only [phaseCycles]
        omega
  | genUpdateCompute =>
      rw [phase] at counts running
      obtain ⟨total, waits⟩ := running nofun
      obtain ⟨fewer, noPsau, later⟩ := counts
      simp only
      split
      case isTrue sixteen =>
        have all : ledger.computeCycles + 1 = 16 := by omega
        refine .of_not_done nofun ?_ ⟨all, rfl, Nat.zero_le _, later⟩ waits
        simp only [phaseCycles]
        omega
      case isFalse more =>
        have fewerStill : ledger.computeCycles + 1 < 16 := by omega
        refine .of_not_done nofun ?_ ⟨fewerStill, noPsau, later⟩ waits
        simp only [phaseCycles]
        omega
  | genUpdatePsauDrain =>
      rw [phase] at counts running
      obtain ⟨total, waits⟩ := running nofun
      obtain ⟨sixteen, flushed, few, noLoad, noGru⟩ := counts
      have most : ledger.psauCycles + 1 ≤ 7 := by omega
      simp only
      split
      case isTrue _ =>
        refine .of_not_done nofun ?_
          ⟨sixteen, Nat.succ_pos _, most, noGru⟩ waits
        simp only [phaseCycles]
        omega
      case isFalse stays =>
        rw [not_or] at stays
        have fewStill : ledger.psauFlushCount + 1 ≤ 6 :=
          Nat.le_of_not_lt stays.2
        refine .of_not_done nofun ?_
          ⟨sixteen, congrArg (· + 1) flushed, fewStill, noLoad, noGru⟩ waits
        simp only [phaseCycles]
        omega
  | applyUpdateLoadH =>
      rw [phase] at counts running
      obtain ⟨total, waits⟩ := running nofun
      obtain ⟨sixteen, least, most, noGru⟩ := counts
      simp only
      split
      · refine .of_not_done nofun ?_ ⟨sixteen, least, most⟩ waits
        simp only [phaseCycles]
        omega
      · refine .of_not_done nofun ?_ ⟨sixteen, least, most, noGru⟩ waits
        simp only [phaseCycles]
        omega
  | applyUpdateGru =>
      rw [phase] at counts running
      obtain ⟨total, waits⟩ := running nofun
      simp only
      split
      · refine .of_not_done nofun ?_ counts waits
        simp only [phaseCycles]
        omega
      · refine .of_not_done nofun ?_ counts waits
        simp only [phaseCycles]
        omega
  | writeback =>
      rw [phase] at counts running
      obtain ⟨total, -⟩ := running nofun
      refine ⟨congrArg (· + 1) total, counts, ?_⟩
      exact ⟨fun _ => rfl, fun _ => rfl⟩

theorem Sound.accounted (sound : ledger.Sound) : ledger.Accounted := by
  have counts := sound.counts
  unfold Counts at counts
  refine ⟨sound.total, ?_, ?_, sound.ready⟩
  · intro past
    cases phase : ledger.phase with
    | idle | genUpdateGather | genUpdateCompute =>
        rw [phase] at past
        exact absurd past (by decide)
    | genUpdatePsauDrain | applyUpdateLoadH | applyUpdateGru | writeback
    | done =>
        rw [phase] at counts
        exact counts.1
  · intro past
    cases phase : ledger.phase with
    | idle | genUpdateGather | genUpdateCompute | genUpdatePsauDrain =>
        rw [phase] at past
        exact absurd past (by decide)
    | applyUpdateLoadH =>
        rw [phase] at counts
        exact ⟨counts.2.1, counts.2.2.1⟩
    | applyUpdateGru | writeback | done =>
        rw [phase] at counts
        exact counts.2

/-- A tick stays in a phase or goes on to the next. -/
theorem phase_tick (ledger : PhaseLedger) (leaves : Bool) :
    (ledger.tick leaves).phase = ledger.phase ∨
      ledger.phase.successor = some (ledger.tick leaves).phase := by
  unfold PhaseLedger.tick
  cases phase : ledger.phase with
  | idle => exact Or.inl phase
  | done => exact Or.inl phase
  | writeback => exact Or.inr rfl
  | genUpdateGather | genUpdateCompute | genUpdatePsauDrain
  | applyUpdateLoadH | applyUpdateGru =>
      simp only
      split
      · exact Or.inr rfl
      · exact Or.inl rfl

/-- A vertex is counted when its last phase ends. -/
theorem verticesDone_tick (ledger : PhaseLedger) (leaves : Bool) :
    (ledger.tick leaves).verticesDone = ledger.verticesDone +
      (decide (ledger.phase ≠ .done) &&
        decide ((ledger.tick leaves).phase = .done)).toNat := by
  unfold PhaseLedger.tick
  cases phase : ledger.phase with
  | idle =>
      simp only [phase]
      rfl
  | done => rfl
  | writeback => rfl
  | genUpdateGather | genUpdateCompute | genUpdatePsauDrain
  | applyUpdateLoadH | applyUpdateGru =>
      simp only
      split
      · rfl
      · rfl

end PhaseLedger

/-! ## The ledger of a program -/

namespace TGNVertexProgram

variable {F : Type}

/-- The part of a program its statistics depend on. -/
def ledger (program : TGNVertexProgram F) : PhaseLedger where
  toVertexProgramStats := program.getStats
  phase := program.phase
  psauFlushCount := program.psauFlushCount
  writebackReady := program.writebackReady

theorem ledger_startVertex
    [Zero F]
    (program : TGNVertexProgram F)
    (store : Store F)
    (cfg : VertexProgramConfig) :
    (program.startVertex store cfg).1.ledger = program.ledger.start := rfl

theorem ledger_deliverHidden
    (program : TGNVertexProgram F)
    (payload : Vec16 F) :
    (program.deliverHidden payload).ledger = program.ledger := rfl

variable [Zero F] [One F] [Add F] [Sub F] [Mul F] [Div F] [NatCast F]

/-- A tick of the program is a tick of its ledger. -/
theorem exists_ledger_tick
    (ops : FloatOps F)
    (program : TGNVertexProgram F)
    (store : Store F)
    (saOutputs : Fin 16 → Vec16 F) :
    ∃ leaves, (program.tick ops store saOutputs).1.ledger =
      program.ledger.tick leaves := by
  unfold tick PhaseLedger.tick
  cases phase : program.phase with
  | idle =>
      refine ⟨false, ?_⟩
      simp only [ledger, phase]
  | done =>
      refine ⟨false, ?_⟩
      simp only [ledger, phase]
  | writeback =>
      refine ⟨false, ?_⟩
      simp only [ledger, phase]
      rfl
  | genUpdateGather =>
      simp only [ledger, phase, tickGenUpdateGather]
      split
      · exact ⟨true, rfl⟩
      · exact ⟨false, by simp [countCycle, getStats, phase]⟩
  | genUpdateCompute =>
      refine ⟨false, ?_⟩
      simp only [ledger, phase, tickGenUpdateCompute]
      split
      case isTrue sixteen =>
        rw [if_pos (by exact sixteen)]
        rfl
      case isFalse fewer =>
        rw [if_neg (by exact fewer)]
        simp [countCycle, getStats, phase]
  | genUpdatePsauDrain =>
      simp only [ledger, phase, tickPsauDrain]
      split
      case isTrue _ => exact ⟨true, rfl⟩
      case isFalse _ =>
        refine ⟨false, ?_⟩
        split
        case isTrue full =>
          have flushed : 6 < program.psauFlushCount + 1 := full
          rw [if_pos (Or.inr flushed)]
          rfl
        case isFalse few =>
          have flushing : ¬ 6 < program.psauFlushCount + 1 := few
          rw [if_neg (not_or.mpr ⟨Bool.false_ne_true, flushing⟩)]
          simp [countCycle, getStats, phase]
  | applyUpdateLoadH =>
      simp only [ledger, phase, tickLoadHiddenState]
      split
      · exact ⟨true, rfl⟩
      · exact ⟨false, by simp [countCycle, getStats, phase]⟩
  | applyUpdateGru =>
      obtain ⟨cells, -, stays | leaves⟩ := tickGru_cases ops
        program.countCycle store (fun _ => True) (fun _ _ => trivial)
        (fun _ => trivial)
      · refine ⟨false, ?_⟩
        simp only [stays]
        simp [ledger, countCycle, getStats, phase]
      · refine ⟨true, ?_⟩
        simp only [leaves]
        simp [ledger, countCycle, getStats, phase]

/-- A tick does not go back to an earlier phase. -/
theorem rank_le_rank_tick
    (ops : FloatOps F)
    (program : TGNVertexProgram F)
    (store : Store F)
    (saOutputs : Fin 16 → Vec16 F) :
    program.phase.rank ≤
      (program.tick ops store saOutputs).1.phase.rank := by
  obtain ⟨leaves, ticked⟩ := program.exists_ledger_tick ops store saOutputs
  have phase : (program.tick ops store saOutputs).1.phase =
      (program.ledger.tick leaves).phase := congrArg PhaseLedger.phase ticked
  rw [phase]
  rcases program.ledger.phase_tick leaves with stays | goesOn
  · rw [stays]
    rfl
  · rw [VertexProgramPhase.rank_of_successor goesOn]
    apply Nat.le_succ

end TGNVertexProgram

/-! ## Runs -/

namespace VertexSystem

variable {F : Type} [Zero F] [One F] [Add F] [Sub F] [Mul F] [Div F]
  [NatCast F] (ops : FloatOps F)

/-- An event that starts no vertex stays in a phase or goes on to the next;
the last phase has none. -/
def InOrder (system : VertexSystem F) (event : Event F) : Prop :=
  (∀ cfg, event ≠ .start cfg) →
    (system.next ops event).program.phase = system.program.phase ∨
      system.program.phase.successor =
        some (system.next ops event).program.phase

/-- An event that takes the program to its last phase. -/
def entersDone (system : VertexSystem F) (event : Event F) : Bool :=
  decide (system.program.phase ≠ .done) &&
    decide ((system.next ops event).program.phase = .done)

/-- What an event does to the ledger. -/
theorem ledger_next
    (system : VertexSystem F)
    (event : Event F) :
    (∃ cfg, event = .start cfg ∧
        (system.next ops event).program.ledger =
          system.program.ledger.start) ∨
      (∃ leaves, (system.next ops event).program.ledger =
          system.program.ledger.tick leaves) ∨
        (system.next ops event).program.ledger = system.program.ledger := by
  cases event with
  | start cfg =>
      exact Or.inl ⟨cfg, rfl, system.program.ledger_startVertex
        system.store cfg⟩
  | tick saOutputs =>
      exact Or.inr (Or.inl (system.program.exists_ledger_tick ops
        system.store saOutputs))
  | deliver payload =>
      exact Or.inr (Or.inr (system.program.ledger_deliverHidden payload))
  | environment store => exact Or.inr (Or.inr rfl)

theorem sound_next
    (system : VertexSystem F)
    (event : Event F)
    (sound : system.program.ledger.Sound) :
    (system.next ops event).program.ledger.Sound := by
  obtain ⟨cfg, -, started⟩ | ⟨leaves, ticked⟩ | same :=
    system.ledger_next ops event
  · rw [started]
    apply PhaseLedger.sound_start
  · rw [ticked]
    exact sound.tick leaves
  · rw [same]
    exact sound

theorem inOrder (system : VertexSystem F) (event : Event F) :
    system.InOrder ops event := by
  intro noStart
  obtain ⟨cfg, isStart, -⟩ | ⟨leaves, ticked⟩ | same :=
    system.ledger_next ops event
  · exact absurd isStart (noStart cfg)
  · have phase := congrArg PhaseLedger.phase ticked
    change (system.next ops event).program.phase = _ at phase
    rw [phase]
    exact system.program.ledger.phase_tick leaves
  · exact Or.inl (congrArg PhaseLedger.phase same)

/-- The vertices counted are the entries into the last phase. -/
theorem verticesDone_next (system : VertexSystem F) (event : Event F) :
    (system.next ops event).program.verticesDone =
      system.program.verticesDone + (system.entersDone ops event).toNat := by
  have counted {after : PhaseLedger}
      (isAfter : (system.next ops event).program.ledger = after) :
      (system.next ops event).program.verticesDone = after.verticesDone :=
    congrArg (fun ledger : PhaseLedger => ledger.verticesDone) isAfter
  unfold entersDone
  obtain ⟨cfg, -, started⟩ | ⟨leaves, ticked⟩ | same :=
    system.ledger_next ops event
  · have phase : (system.next ops event).program.phase = .genUpdateGather :=
      congrArg PhaseLedger.phase started
    have notDone : decide
        (VertexProgramPhase.genUpdateGather = .done) = false := rfl
    rw [phase, notDone, Bool.and_false]
    exact counted started
  · have phase : (system.next ops event).program.phase =
        (system.program.ledger.tick leaves).phase :=
      congrArg PhaseLedger.phase ticked
    rw [phase]
    exact (counted ticked).trans
      (system.program.ledger.verticesDone_tick leaves)
  · have phase : (system.next ops event).program.phase =
        system.program.phase :=
      congrArg PhaseLedger.phase same
    rw [phase]
    refine (counted same).trans ?_
    cases system.program.phase <;> rfl

/-- In every run of a program the phases follow each other in order, the
counters account for every cycle, and the vertices counted are the entries
into the last phase. -/
theorem accounted_of_run
    (piccolos : Fin 16 → Option Nat)
    (psau : Nat)
    (systolicArrays feeders : Fin 16 → Option Nat)
    (wR wZ wIn wHn : Weights F)
    (bR bZ bIn bHn : Vec16 F)
    (store : Store F)
    (events : List (Event F)) :
    let start := built piccolos psau systolicArrays feeders wR wZ wIn wHn
      bR bZ bIn bHn store
    Run.Along (next ops) (InOrder ops) start events ∧
      Run.Always (next ops) (fun system => system.program.ledger.Accounted)
        start events ∧
        (Run.after (next ops) start events).program.getStats.verticesDone =
          Run.tally (next ops) (entersDone ops) start events := by
  intro start
  have initially : start.program.ledger.Sound :=
    .of_not_done nofun rfl rfl rfl
  have anyEvents : Run.Along (next ops) (fun _ _ => True) start events :=
    Run.along_of_forall_mem fun _ _ _ => trivial
  refine ⟨?_, ?_, ?_⟩
  · intro before event _
    apply inOrder
  · intro before isPrefix
    have always : Run.Always (next ops)
        (fun system => system.program.ledger.Sound) start events :=
      anyEvents.always
        (fun system event sound _ => sound_next ops system event sound)
        initially
    exact (always before isPrefix).accounted
  · have counted := Run.measure_after
      (fun system : VertexSystem F => system.program.verticesDone)
      (verticesDone_next ops) start events
    refine counted.trans ?_
    apply Nat.zero_add

end VertexSystem

end PimGraphs
