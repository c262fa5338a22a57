import PimGraphs.Compute.RegisterAccess
import PimGraphs.Library.Run

/-!
# The stall of a core and late replies

One stall flag serves three kinds of waits, and the reply of a LOAD carries no
tag.  A reply of a LOAD of an earlier program may come at any moment of a
later one.  Each LOAD is numbered here, together with the program it belongs
to; the numbers are not part of the program.  A run that accesses a register
outside the file has no defined state afterwards, so the accesses of each event
are part of what is asked of a run.
-/

namespace PimGraphs

/-- The part of a core that says what it waits for. -/
structure StallState where
  isStalled : Bool
  pendingDestReg : Int
  isWaitingForPiccolo : Bool
  isWaitingForGru : Bool
  deriving DecidableEq

namespace StallState

/-- Not waiting for anything. -/
def free : StallState := ⟨false, -1, false, false⟩

/-- Stalled on a LOAD. -/
def loading (stall : StallState) : Bool :=
  stall.isStalled && !stall.isWaitingForPiccolo && !stall.isWaitingForGru

/-- A register is pending exactly in a stall, and a stall has one reason. -/
structure Consistent (stall : StallState) : Prop where
  pending_iff : stall.pendingDestReg = -1 ↔ stall.isStalled = false
  exclusive :
    ¬(stall.isWaitingForPiccolo = true ∧ stall.isWaitingForGru = true)
  piccolo_stalled :
    stall.isWaitingForPiccolo = true → stall.isStalled = true
  gru_stalled : stall.isWaitingForGru = true → stall.isStalled = true

theorem consistent_free : free.Consistent := by
  constructor <;> decide

/-- The stall begun by an instruction. -/
def begun (inst : SIMDInstruction) : StallState where
  isStalled := true
  pendingDestReg := toInt32 inst.destReg.toNat
  isWaitingForPiccolo := inst.op == .gather
  isWaitingForGru := inst.op == .gruUpdate

theorem Consistent.eq_free
    {stall : StallState}
    (consistent : stall.Consistent)
    (running : stall.isStalled = false) :
    stall = free := by
  obtain ⟨isStalled, pending, piccolo, gru⟩ := stall
  obtain ⟨pending_iff, -, piccolo_stalled, gru_stalled⟩ := consistent
  simp only at running pending_iff piccolo_stalled gru_stalled
  subst running
  have noPiccolo := Bool.eq_false_iff.mpr
    fun waits => Bool.false_ne_true (piccolo_stalled waits)
  have noGru := Bool.eq_false_iff.mpr
    fun waits => Bool.false_ne_true (gru_stalled waits)
  rw [pending_iff.mpr rfl, noPiccolo, noGru, free]

/-- The register operand that, as an `int`, is the mark of an absent one. -/
def absentReg : Nat := 0xFFFFFFFF

theorem toInt32_eq_neg_one_iff (reg : UInt32) :
    toInt32 reg.toNat = -1 ↔ reg.toNat = absentReg := by
  have bound := reg.toNat_lt
  have int := toInt32_cases reg
  unfold absentReg
  omega

@[simp] theorem pendingDestReg_begun (inst : SIMDInstruction) :
    (begun inst).pendingDestReg = toInt32 inst.destReg.toNat := by
  simp only [begun]

theorem consistent_begun_iff (inst : SIMDInstruction) :
    (begun inst).Consistent ↔ inst.destReg.toNat ≠ absentReg := by
  have isMark := toInt32_eq_neg_one_iff inst.destReg
  rw [← pendingDestReg_begun] at isMark
  constructor
  · intro consistent same
    have running := consistent.pending_iff.mp (isMark.mpr same)
    exact Bool.false_ne_true running.symm
  · intro differs
    refine ⟨?_, ?_, fun _ => rfl, fun _ => rfl⟩
    · constructor
      · intro absent
        exact absurd (isMark.mp absent) differs
      · intro running
        exact absurd running.symm Bool.false_ne_true
    · rintro ⟨gathers, updates⟩
      simp only [begun, beq_iff_eq] at gathers updates
      exact SIMDOpcode.noConfusion (gathers.symm.trans updates)

end StallState

namespace SIMDCore

variable {F : Type}

/-- What a core waits for. -/
def stall (core : SIMDCore F) : StallState where
  isStalled := core.isStalled
  pendingDestReg := core.pendingDestReg
  isWaitingForPiccolo := core.isWaitingForPiccolo
  isWaitingForGru := core.isWaitingForGru

/-- The core's next tick executes an instruction that stalls it. -/
structure Begins
    (core : SIMDCore F)
    (hardware : Option (SystolicArray F × ArrayFeeder F))
    (inst : SIMDInstruction) : Prop where
  running : core.isStalled = false
  head : core.instructionQueue.head? = some inst
  stalls : inst.op = .load ∨ inst.op = .gather ∨
    inst.op = .gruUpdate ∧ hardware.isSome

section Tick

variable [Zero F] [One F] [Add F] [Sub F] [Mul F] [Div F] [NatCast F]

/-- What a tick can do to the stall. -/
inductive TickCase
    (core : SIMDCore F)
    (hardware : Option (SystolicArray F × ArrayFeeder F))
    (result : TickResult F) : Prop
  | same :
      result.core.stall = core.stall → result.request = none →
        TickCase core hardware result
  | gathered :
      core.isStalled = true → core.isWaitingForPiccolo = true →
        result.core.stall =
          { StallState.free with isWaitingForGru := core.isWaitingForGru } →
        result.request = none → TickCase core hardware result
  | updated :
      core.isStalled = true → core.isWaitingForPiccolo = false →
        core.isWaitingForGru = true → result.core.stall = StallState.free →
        result.request = none → TickCase core hardware result
  | begun (inst : SIMDInstruction) :
      core.Begins hardware inst →
        (core.stall = StallState.free →
          result.core.stall = StallState.begun inst) →
        (result.request.isSome ↔ inst.op = .load) →
        TickCase core hardware result

variable (ops : FloatOps F) (this : Nat) (core : SIMDCore F)
variable (piccolo : PiccoloGatherController)
variable (hardware : Option (SystolicArray F × ArrayFeeder F))

omit [Zero F] [One F] [Add F] [Sub F] [Mul F] [Div F] [NatCast F] in
/-- Draining the data buffer does not touch the stall. -/
theorem stall_drainDataBuffer
    (fuel batchSize : Nat)
    (i : Int) :
    (drainDataBuffer ops fuel i batchSize core piccolo).1.stall =
      core.stall := by
  induction fuel generalizing i core piccolo with
  | zero => rfl
  | succ fuel inductionHypothesis =>
      rw [drainDataBuffer]
      split
      · exact inductionHypothesis _ _ _
      · rfl

omit [Sub F] in
/-- An instruction that stalls a core not waiting for anything begins a stall
of its own. -/
theorem stall_issue
    {inst : SIMDInstruction}
    (stalls : inst.op = .load ∨ inst.op = .gather ∨
      inst.op = .gruUpdate ∧ hardware.isSome)
    (isFree : core.stall = StallState.free) :
    (core.issue ops this inst piccolo hardware).core.stall =
      StallState.begun inst := by
  have notGathering := congrArg StallState.isWaitingForPiccolo isFree
  have notUpdating := congrArg StallState.isWaitingForGru isFree
  simp only [stall, StallState.free] at notGathering notUpdating
  rcases stalls with op | op | ⟨op, lent⟩
  · simp [issue, op, stall, StallState.begun, popInstruction, notGathering,
      notUpdating]
  · simp [issue, op, stall, StallState.begun, popInstruction, notUpdating]
  · obtain ⟨lent, isLent⟩ := Option.isSome_iff_exists.mp lent
    simp [issue, op, isLent, stall, StallState.begun, popInstruction,
      notGathering]

omit [Sub F] in
/-- Only a LOAD hands a burst to the router. -/
theorem isSome_request_issue (inst : SIMDInstruction) :
    (core.issue ops this inst piccolo hardware).request.isSome ↔
      inst.op = .load := by
  cases op : inst.op
  case gruUpdate => cases hardware <;> simp [issue, op]
  all_goals simp [issue, op]

omit [Sub F] in
/-- What issuing an instruction does to the stall. -/
theorem issue_case
    {inst : SIMDInstruction}
    (running : core.isStalled = false)
    (head : core.instructionQueue.head? = some inst) :
    TickCase core hardware (core.issue ops this inst piccolo hardware) := by
  by_cases stalls : inst.op = .load ∨ inst.op = .gather ∨
      inst.op = .gruUpdate ∧ hardware.isSome
  · exact .begun inst ⟨running, head, stalls⟩
      (stall_issue ops this core piccolo hardware stalls)
      (isSome_request_issue ops this core piccolo hardware inst)
  · obtain ⟨notLoad, notOther⟩ := not_or.mp stalls
    obtain ⟨notGather, notUpdate⟩ := not_or.mp notOther
    apply TickCase.same
    · cases op : inst.op
      case load => exact absurd op notLoad
      case gather => exact absurd op notGather
      case gruUpdate =>
        cases hardware with
        | none => simp only [issue, op]
        | some lent => exact absurd ⟨op, rfl⟩ notUpdate
      all_goals
        simp only [issue, op]
        rfl
    · apply Option.not_isSome_iff_eq_none.mp
      intro requested
      exact notLoad ((isSome_request_issue ops this core piccolo hardware
        inst).mp requested)

/-- A core that is not stalled issues the head of its queue. -/
theorem tick_of_head
    {inst : SIMDInstruction}
    (running : core.isStalled = false)
    (head : core.instructionQueue.head? = some inst) :
    core.tick ops this piccolo hardware =
      core.issue ops this inst piccolo hardware := by
  obtain ⟨rest, queue⟩ := List.head?_eq_some_iff.mp head
  simp [tick, running, queue]

/-- Every tick is one of the cases. -/
theorem tick_case :
    TickCase core hardware (core.tick ops this piccolo hardware) := by
  cases stalled : core.isStalled with
  | false =>
      cases queue : core.instructionQueue with
      | nil =>
          apply TickCase.same
          all_goals simp [tick, stalled, queue]
      | cons inst rest =>
          have head : core.instructionQueue.head? = some inst := by
            rw [queue, List.head?_cons]
          rw [tick_of_head ops this core piccolo hardware stalled head]
          exact issue_case ops this core piccolo hardware stalled head
  | true =>
      cases gathering : core.isWaitingForPiccolo with
      | true =>
          cases done : piccolo.done with
          | false =>
              apply TickCase.same
              all_goals simp [tick, stalled, gathering, tickPiccoloWait, done]
          | true =>
              have kept := stall_drainDataBuffer ops core piccolo
                piccolo.db.size piccolo.numElems 0
              have sameGru := congrArg StallState.isWaitingForGru kept
              apply TickCase.gathered stalled gathering
              all_goals
                simp only [tick, stalled, gathering, tickPiccoloWait, done,
                  Bool.and_self, if_true]
              simpa [stall, resume, StallState.free] using sameGru
      | false =>
          cases updating : core.isWaitingForGru with
          | false =>
              apply TickCase.same
              all_goals simp [tick, stalled, gathering, updating]
          | true =>
              cases hardware with
              | none =>
                  apply TickCase.same
                  all_goals
                    simp [tick, stalled, gathering, updating, tickGruWait]
              | some lent =>
                  obtain ⟨sa, feeder⟩ := lent
                  cases ready : (GRUCell.tick ops
                      ⟨core.gruCell, sa, feeder⟩).cell.isDone with
                  | false =>
                      apply TickCase.same
                      all_goals
                        simp [tick, stalled, gathering, updating, tickGruWait,
                          ready, stall]
                  | true =>
                      apply TickCase.updated stalled gathering updating
                      all_goals
                        simp [tick, stalled, gathering, updating, tickGruWait,
                          ready, stall, StallState.free]

/-- A tick keeps the pending register and the file encoded. -/
theorem Encoded.tick
    {core : SIMDCore F}
    (encoded : core.Encoded)
    (consistent : core.stall.Consistent) :
    (core.tick ops this piccolo hardware).core.Encoded where
  pending := by
    cases core.tick_case ops this piccolo hardware with
    | same sameStall noRequest =>
        obtain ⟨destReg, pending⟩ := encoded.pending
        have same := congrArg StallState.pendingDestReg sameStall
        exact ⟨destReg, same.trans pending⟩
    | gathered stalled gathering resumed noRequest =>
        have reset : (core.tick ops this piccolo
            hardware).core.pendingDestReg = -1 :=
          congrArg StallState.pendingDestReg resumed
        rw [reset]
        exact exists_toInt32_eq_neg_one
    | updated stalled notGathering updating resumed noRequest =>
        have reset : (core.tick ops this piccolo
            hardware).core.pendingDestReg = -1 :=
          congrArg StallState.pendingDestReg resumed
        rw [reset]
        exact exists_toInt32_eq_neg_one
    | begun inst begins begun request =>
        have set : (core.tick ops this piccolo
            hardware).core.stall.pendingDestReg =
              toInt32 inst.destReg.toNat := by
          rw [begun (consistent.eq_free begins.running),
            StallState.pendingDestReg_begun]
        exact ⟨inst.destReg, set⟩
  size := by
    rw [length_registers_tick]
    exact encoded.size

end Tick

/-- A reply is taken exactly in a stall with a pending register. -/
theorem stall_onMemoryReply
    (core : SIMDCore F)
    (burstData : List F)
    (consistent : core.stall.Consistent) :
    (core.isStalled = true ∧ (core.onMemoryReply burstData).stall =
        { core.stall with isStalled := false, pendingDestReg := -1 }) ∨
      (core.isStalled = false ∧ core.onMemoryReply burstData = core) := by
  cases stalled : core.isStalled with
  | false =>
      refine Or.inr ⟨rfl, ?_⟩
      simp [onMemoryReply, stalled]
  | true =>
      refine Or.inl ⟨rfl, ?_⟩
      have pending : core.pendingDestReg ≠ -1 := by
        intro absent
        have running := consistent.pending_iff.mp absent
        exact absurd (stalled.symm.trans running) Bool.noConfusion
      simp [onMemoryReply, stalled, pending, stall]

end SIMDCore

/-! ## Programs, ticks and replies in any order -/

/-- A LOAD whose burst is in the memory system: its number, and that of its
program. -/
structure IssuedLoad where
  number : Nat
  program : Nat
  deriving DecidableEq

/-- A core, its gather controller and the LOADs whose callbacks are to run. -/
structure ReplySystem (F : Type) where
  core : SIMDCore F
  piccolo : PiccoloGatherController
  /-- Programs loaded and LOADs executed so far. -/
  programs : Nat := 0
  loads : Nat := 0
  inFlight : List IssuedLoad := []
  /-- The LOAD that began the latest stall, if one did. -/
  waitsFor : Option IssuedLoad := none

namespace ReplySystem

variable {F : Type}

/-- What happens to a core between two moments. -/
inductive Event (F : Type)
  | loadProgram (program : List SIMDInstruction)
  /-- A tick of the core, with the array and feeder lent to its GRU cell. -/
  | tick (hardware : Option (SystolicArray F × ArrayFeeder F))
  /-- An issue tick of the gather controller. -/
  | tickIssue
  | readComplete (value : UInt32)
  /-- The callback of the LOAD at a position of those in flight runs. -/
  | reply (position : Nat)

/-- A newly built core. -/
def built [Zero F] [One F]
    (pcId : PcId)
    (router feeder piccoloRef : Nat)
    (numRegisters : UInt32)
    (piccolo : PiccoloGatherController) : ReplySystem F where
  core := SIMDCore.initial pcId router feeder piccoloRef numRegisters.toNat
  piccolo := piccolo

section Next

variable [Zero F] [One F] [Add F] [Sub F] [Mul F] [Div F] [NatCast F]

/-- The core's tick, with the LOAD it executes, if any. -/
def tickCore
    (ops : FloatOps F)
    (this : Nat)
    (system : ReplySystem F)
    (hardware : Option (SystolicArray F × ArrayFeeder F)) : ReplySystem F :=
  let result := system.core.tick ops this system.piccolo hardware
  let load := result.request.map fun _ =>
    { number := system.loads, program := system.programs : IssuedLoad }
  { system with
    core := result.core
    piccolo := result.piccolo
    loads := system.loads + load.toList.length
    inFlight := system.inFlight ++ load.toList
    waitsFor := if system.core.isStalled then system.waitsFor else load }

/-- One event.  A reply carries sixteen ones, and a position without a LOAD in
flight is no reply. -/
def next (ops : FloatOps F) (this : Nat) (system : ReplySystem F) :
    Event F → ReplySystem F
  | .loadProgram program =>
      { system with
        core := system.core.loadProgram program
        programs := system.programs + 1 }
  | .tick hardware => system.tickCore ops this hardware
  | .tickIssue =>
      { system with piccolo := (system.piccolo.tickIssue this).1 }
  | .readComplete value =>
      { system with piccolo := system.piccolo.onReadComplete value }
  | .reply position =>
      match system.inFlight[position]? with
      | none => system
      | some _ =>
          { system with
            core := system.core.onMemoryReply (List.replicate 16 1)
            inFlight := system.inFlight.eraseIdx position }

/-- A reply has an effect only on a core stalled on the very LOAD that issued
it. -/
def Addressed
    (ops : FloatOps F)
    (this : Nat)
    (system : ReplySystem F)
    (event : Event F) : Prop :=
  ∀ position, event = .reply position →
    ∀ load ∈ system.inFlight[position]?,
      (system.next ops this event).core ≠ system.core →
        system.core.isStalled = true ∧ system.waitsFor = some load

/-- Registers an event accesses without a comparison that keeps the access in
the file. -/
def accesses (ops : FloatOps F) (system : ReplySystem F) :
    Event F → List Int
  | .tick hardware => system.core.tickAccesses ops system.piccolo hardware
  | .reply position =>
      match system.inFlight[position]? with
      | none => []
      | some _ => system.core.replyAccesses 16
  | _ => []

/-- An event accesses no register outside the file. -/
def Contained
    (ops : FloatOps F)
    (system : ReplySystem F)
    (event : Event F) : Prop :=
  ∀ reg ∈ system.accesses ops event, system.core.HasRegister reg

end Next

/-- No reply of a LOAD of an earlier program comes in a stall, no instruction
that stalls the core has the one operand that marks an absent register, the
reply of a LOAD finds its register in the file or just past its end, and a tick
has its operands in the file and does not write back in front of it. -/
structure Timely
    (system : ReplySystem F)
    (event : Event F) : Prop where
  reply : ∀ position, event = .reply position →
    ∀ load ∈ system.inFlight[position]?,
      load.program ≠ system.programs → system.core.isStalled = false
  register : ∀ hardware, event = .tick hardware →
    ∀ inst, system.core.Begins hardware inst →
      inst.destReg.toNat ≠ StallState.absentReg
  replyFits : ∀ position, event = .reply position →
    ∀ load ∈ system.inFlight[position]?,
      system.core.isStalled = true → system.core.ReplyFits
  tickFits : ∀ hardware, event = .tick hardware →
    system.core.TickFits system.piccolo hardware

/-- Whether a LOAD belongs to the program the core runs. -/
def current (system : ReplySystem F) (load : IssuedLoad) : Bool :=
  load.program == system.programs

/-- The only LOAD of the current program in flight is the one the core is
stalled on. -/
structure Tracked (system : ReplySystem F) : Prop where
  consistent : system.core.stall.Consistent
  current : system.inFlight.filter system.current =
    if system.core.stall.loading then system.waitsFor.toList else []
  known : system.core.stall.loading = true → system.waitsFor.isSome
  bound : ∀ load ∈ system.inFlight, load.program ≤ system.programs

theorem filter_eraseIdx_of_false
    {loads : List IssuedLoad}
    {position : Nat}
    {load : IssuedLoad}
    (found : loads[position]? = some load)
    {kind : IssuedLoad → Bool}
    (isOther : kind load = false) :
    (loads.eraseIdx position).filter kind = loads.filter kind := by
  obtain ⟨inside, isLoad⟩ := List.getElem?_eq_some_iff.mp found
  rw [List.eraseIdx_eq_take_drop_succ, List.filter_append]
  conv_rhs => rw [← List.take_append_drop position loads]
  rw [List.filter_append, List.drop_eq_getElem_cons inside, isLoad,
    List.filter_cons_of_neg (Bool.eq_false_iff.mp isOther)]

/-- Removing the only load of its kind. -/
theorem filter_eraseIdx_of_true
    {loads : List IssuedLoad}
    {position : Nat}
    {load only : IssuedLoad}
    (found : loads[position]? = some load)
    {kind : IssuedLoad → Bool}
    (isKind : kind load = true)
    (single : loads.filter kind = [only]) :
    only = load ∧ (loads.eraseIdx position).filter kind = [] := by
  obtain ⟨inside, isLoad⟩ := List.getElem?_eq_some_iff.mp found
  rw [← List.take_append_drop position loads, List.filter_append,
    List.drop_eq_getElem_cons inside, isLoad, List.filter_cons_of_pos isKind]
    at single
  rw [List.eraseIdx_eq_take_drop_succ, List.filter_append]
  rcases List.append_eq_singleton_iff.mp single with
    ⟨before, after⟩ | ⟨-, after⟩
  · obtain ⟨same, after⟩ := List.cons.inj after
    rw [before, after]
    exact ⟨same.symm, rfl⟩
  · exact absurd after (List.cons_ne_nil _ _)

namespace Tracked

variable {system : ReplySystem F}

theorem loadProgram
    (tracked : system.Tracked)
    (program : List SIMDInstruction) :
    Tracked
      { system with
        core := system.core.loadProgram program
        programs := system.programs + 1 } where
  consistent := StallState.consistent_free
  current := by
    apply List.filter_eq_nil_iff.mpr
    intro load isLoad isCurrent
    have earlier := tracked.bound load isLoad
    simp only [ReplySystem.current, beq_iff_eq] at isCurrent
    omega
  known := fun loading => absurd loading.symm Bool.noConfusion
  bound := fun load isLoad => (tracked.bound load isLoad).trans (Nat.le_succ _)

/-- While the core is not stalled on a LOAD no LOAD of its program is in
flight. -/
theorem filter_eq_nil
    (tracked : system.Tracked)
    (notLoading : system.core.stall.loading = false) :
    system.inFlight.filter system.current = [] := by
  rw [tracked.current, notLoading]
  rfl

/-- A stall on a LOAD knows the one LOAD of its program in flight. -/
theorem exists_waitsFor
    (tracked : system.Tracked)
    (loading : system.core.stall.loading = true) :
    ∃ load, system.waitsFor = some load ∧
      system.inFlight.filter system.current = [load] := by
  obtain ⟨load, waits⟩ := Option.isSome_iff_exists.mp (tracked.known loading)
  refine ⟨load, waits, ?_⟩
  rw [tracked.current, loading, waits]
  rfl

section Tick

variable [Zero F] [One F] [Add F] [Sub F] [Mul F] [Div F] [NatCast F]
variable {ops : FloatOps F} {this : Nat}
variable {hardware : Option (SystolicArray F × ArrayFeeder F)}

/-- A tick without a request that leaves the core not stalled on a LOAD, and
did not find it so. -/
theorem tickCore_of_not_loading
    (tracked : system.Tracked)
    (before : system.core.stall.loading = false)
    (noRequest : (system.core.tick ops this system.piccolo
      hardware).request = none)
    (consistent : (system.core.tick ops this system.piccolo
      hardware).core.stall.Consistent)
    (after : (system.core.tick ops this system.piccolo
      hardware).core.stall.loading = false) :
    (system.tickCore ops this hardware).Tracked := by
  have nothing := tracked.filter_eq_nil before
  constructor
  · exact consistent
  · simp only [tickCore, noRequest, after, Option.map_none, Option.toList_none,
      List.append_nil]
    exact nothing
  · intro loading
    exact absurd (loading.symm.trans after) Bool.noConfusion
  · simp only [tickCore, noRequest, Option.map_none, Option.toList_none,
      List.append_nil]
    exact tracked.bound

/-- A tick that changes nothing about a stall on a LOAD. -/
theorem tickCore_of_loading
    (tracked : system.Tracked)
    (loading : system.core.stall.loading = true)
    (sameStall : (system.core.tick ops this system.piccolo
      hardware).core.stall = system.core.stall)
    (noRequest : (system.core.tick ops this system.piccolo
      hardware).request = none) :
    (system.tickCore ops this hardware).Tracked := by
  have stalled : system.core.isStalled = true := by
    simp only [StallState.loading, SIMDCore.stall, Bool.and_eq_true] at loading
    exact loading.1.1
  constructor
  · exact sameStall ▸ tracked.consistent
  · simp only [ReplySystem.tickCore, noRequest, sameStall, stalled,
      Option.map_none, Option.toList_none, List.append_nil, if_true]
    exact tracked.current
  · simp only [ReplySystem.tickCore, stalled, if_true]
    exact fun _ => tracked.known loading
  · simp only [ReplySystem.tickCore, noRequest, Option.map_none,
      Option.toList_none, List.append_nil]
    exact tracked.bound

/-- A tick that executes a LOAD. -/
theorem tickCore_of_load
    (tracked : system.Tracked)
    (running : system.core.isStalled = false)
    (notLoading : system.core.stall.loading = false)
    {inst : SIMDInstruction}
    (isLoad : inst.op = .load)
    (after : (system.core.tick ops this system.piccolo hardware).core.stall =
      StallState.begun inst)
    (consistent : (StallState.begun inst).Consistent)
    {burst : MemoryBurst}
    (requested : (system.core.tick ops this system.piccolo
      hardware).request = some burst) :
    (system.tickCore ops this hardware).Tracked := by
  have nothing := tracked.filter_eq_nil notLoading
  constructor
  · exact after ▸ consistent
  · have loading : (StallState.begun inst).loading = true := by
      simp [StallState.loading, StallState.begun, isLoad]
    have isCurrent : ReplySystem.current
        (system.tickCore ops this hardware)
        ⟨system.loads, system.programs⟩ = true := beq_self_eq_true _
    simp only [ReplySystem.tickCore, requested, after, loading, running,
      Option.map_some, Option.toList_some, if_true, Bool.false_eq_true,
      if_false] at isCurrent ⊢
    rw [List.filter_append, List.filter_cons_of_pos isCurrent]
    exact congrArg (· ++ _) nothing
  · intro _
    simp only [ReplySystem.tickCore, requested, running, Option.map_some,
      Option.isSome_some, Bool.false_eq_true, if_false]
  · intro load inFlight
    simp only [ReplySystem.tickCore, requested, Option.map_some,
      Option.toList_some, List.mem_append, List.mem_singleton] at inFlight
    rcases inFlight with earlier | isNew
    · exact tracked.bound load earlier
    · rw [isNew]
      exact le_refl system.programs

theorem tickCore
    (tracked : system.Tracked)
    (register : ∀ inst, system.core.Begins hardware inst →
      inst.destReg.toNat ≠ StallState.absentReg) :
    (system.tickCore ops this hardware).Tracked := by
  have whole := system.core.tick_case ops this system.piccolo hardware
  have consistent := tracked.consistent
  cases whole with
  | same sameStall noRequest =>
      cases loading : system.core.stall.loading with
      | false =>
          exact tracked.tickCore_of_not_loading loading noRequest
            (sameStall ▸ consistent) (sameStall ▸ loading)
      | true => exact tracked.tickCore_of_loading loading sameStall noRequest
  | gathered stalled gathering resumed noRequest =>
      have notUpdating : system.core.isWaitingForGru = false := by
        apply Bool.eq_false_iff.mpr
        intro updating
        exact consistent.exclusive ⟨gathering, updating⟩
      rw [notUpdating] at resumed
      apply tracked.tickCore_of_not_loading _ noRequest
      · rw [resumed]
        exact StallState.consistent_free
      · rw [resumed]
        rfl
      · simp [StallState.loading, SIMDCore.stall, gathering]
  | updated stalled notGathering updating resumed noRequest =>
      apply tracked.tickCore_of_not_loading _ noRequest
      · rw [resumed]
        exact StallState.consistent_free
      · rw [resumed]
        rfl
      · simp [StallState.loading, SIMDCore.stall, updating]
  | begun inst begins begun request =>
      have before : system.core.stall = StallState.free :=
        consistent.eq_free begins.running
      have notLoading : system.core.stall.loading = false := by
        rw [before]
        rfl
      have after := begun before
      have afterConsistent := (StallState.consistent_begun_iff inst).mpr
        (register inst begins)
      by_cases isLoad : inst.op = .load
      · obtain ⟨burst, requested⟩ := Option.isSome_iff_exists.mp
          (request.mpr isLoad)
        exact tracked.tickCore_of_load begins.running notLoading isLoad after
          afterConsistent requested
      · have noRequest := Option.not_isSome_iff_eq_none.mp
          fun requested => isLoad (request.mp requested)
        apply tracked.tickCore_of_not_loading notLoading noRequest
          (after ▸ afterConsistent)
        rw [after]
        rcases begins.stalls with load | gather | ⟨update, -⟩
        · exact absurd load isLoad
        · simp [StallState.loading, StallState.begun, gather]
        · simp [StallState.loading, StallState.begun, update]

omit [Zero F] [One F] [Add F] [Sub F] [Mul F] [Div F] [NatCast F] in
/-- A reply of the core's program finds the core stalled on its LOAD. -/
theorem reply_current
    (tracked : system.Tracked)
    {position : Nat}
    {load : IssuedLoad}
    (found : system.inFlight[position]? = some load)
    (isCurrent : system.current load = true) :
    system.core.stall.loading = true ∧ system.waitsFor = some load ∧
      (system.inFlight.eraseIdx position).filter system.current = [] := by
  have member := List.mem_filter.mpr ⟨List.mem_of_getElem? found, isCurrent⟩
  cases loading : system.core.stall.loading with
  | false =>
      rw [tracked.filter_eq_nil loading] at member
      exact absurd member List.not_mem_nil
  | true =>
      obtain ⟨only, waits, single⟩ := tracked.exists_waitsFor loading
      obtain ⟨same, nothing⟩ :=
        filter_eraseIdx_of_true found isCurrent single
      exact ⟨rfl, same ▸ waits, nothing⟩

omit [Zero F] [Add F] [Sub F] [Mul F] [Div F] [NatCast F] in
theorem reply
    (tracked : system.Tracked)
    {position : Nat}
    {load : IssuedLoad}
    (found : system.inFlight[position]? = some load)
    (timely : load.program ≠ system.programs →
      system.core.isStalled = false) :
    Tracked
      { system with
        core := system.core.onMemoryReply (List.replicate 16 1)
        inFlight := system.inFlight.eraseIdx position } := by
  have consistent := tracked.consistent
  have effect := system.core.stall_onMemoryReply (List.replicate 16 1)
    consistent
  have bound : ∀ other ∈ system.inFlight.eraseIdx position,
      other.program ≤ system.programs :=
    fun other isOther => tracked.bound other (List.mem_of_mem_eraseIdx isOther)
  cases isCurrent : system.current load with
  | true =>
      obtain ⟨loading, -, nothing⟩ := tracked.reply_current found isCurrent
      simp only [StallState.loading, SIMDCore.stall, Bool.and_eq_true,
        Bool.not_eq_true'] at loading
      obtain ⟨⟨stalled, notGathering⟩, notUpdating⟩ := loading
      rcases effect with ⟨-, released⟩ | ⟨running, -⟩
      · have free : (system.core.onMemoryReply
            (List.replicate 16 1)).stall = StallState.free := by
          rw [released, SIMDCore.stall, notGathering, notUpdating]
          rfl
        constructor
        · rw [free]
          exact StallState.consistent_free
        · rw [free]
          exact nothing
        · rw [free]
          exact fun loading => absurd loading.symm Bool.noConfusion
        · exact bound
      · exact absurd (stalled.symm.trans running) Bool.noConfusion
  | false =>
      have running := timely (beq_eq_false_iff_ne.mp isCurrent)
      rcases effect with ⟨stalled, -⟩ | ⟨-, ignored⟩
      · exact absurd (stalled.symm.trans running) Bool.noConfusion
      · rw [ignored]
        exact
          { consistent := consistent
            current :=
              (filter_eraseIdx_of_false found isCurrent).trans tracked.current
            known := tracked.known
            bound := bound }

theorem next_reply
    {position : Nat}
    {load : IssuedLoad}
    (found : system.inFlight[position]? = some load) :
    system.next ops this (.reply position) =
      { system with
        core := system.core.onMemoryReply (List.replicate 16 1)
        inFlight := system.inFlight.eraseIdx position } := by
  simp only [next, found]

/-- Every timely event keeps the system tracked. -/
theorem next
    (tracked : system.Tracked)
    {event : Event F}
    (timely : system.Timely event) :
    (system.next ops this event).Tracked := by
  cases event with
  | loadProgram program => exact tracked.loadProgram program
  | tick hardware => exact tracked.tickCore (timely.register hardware rfl)
  | tickIssue =>
      exact ⟨tracked.consistent, tracked.current, tracked.known,
        tracked.bound⟩
  | readComplete value =>
      exact ⟨tracked.consistent, tracked.current, tracked.known,
        tracked.bound⟩
  | reply position =>
      cases found : system.inFlight[position]? with
      | none =>
          simp only [ReplySystem.next, found]
          exact tracked
      | some load =>
          rw [next_reply found]
          exact tracked.reply found (timely.reply position rfl load found)

/-- Every event of a tracked system keeps the pending register encoded. -/
theorem encoded_next
    (tracked : system.Tracked)
    (encoded : system.core.Encoded)
    (event : Event F) :
    (system.next ops this event).core.Encoded := by
  cases event with
  | loadProgram program =>
      exact ⟨SIMDCore.exists_toInt32_eq_neg_one, encoded.size⟩
  | tick hardware =>
      exact encoded.tick ops this system.piccolo hardware tracked.consistent
  | tickIssue => exact encoded
  | readComplete value => exact encoded
  | reply position =>
      cases found : system.inFlight[position]? with
      | none =>
          simp only [ReplySystem.next, found]
          exact encoded
      | some load =>
          rw [next_reply found]
          exact encoded.onMemoryReply _

omit [Zero F] [One F] [Add F] [Sub F] [Mul F] [Div F] [NatCast F] in
/-- A core that is stalled has a pending register. -/
theorem pendingDestReg_ne
    (tracked : system.Tracked)
    (stalled : system.core.isStalled = true) :
    system.core.pendingDestReg ≠ -1 := by
  intro absent
  have running := tracked.consistent.pending_iff.mp absent
  exact absurd (stalled.symm.trans running) Bool.noConfusion

omit [Div F] [NatCast F] in
/-- A reply stays in the file exactly if it finds its register there. -/
theorem replyContained_iff
    (tracked : system.Tracked)
    (encoded : system.core.Encoded)
    {position : Nat}
    {load : IssuedLoad}
    (found : system.inFlight[position]? = some load) :
    system.Contained ops (.reply position) ↔
      (system.core.isStalled = true → system.core.ReplyFits) := by
  have accesses : system.accesses ops (.reply position) =
      system.core.replyAccesses 16 := by
    simp only [ReplySystem.accesses, found]
  rw [Contained, accesses]
  cases stalled : system.core.isStalled with
  | false =>
      have none : system.core.replyAccesses 16 = [] := by
        simp [SIMDCore.replyAccesses, SIMDCore.storedTo, SIMDCore.replyLanes,
          stalled]
      rw [none]
      exact ⟨fun _ released => absurd released Bool.false_ne_true,
        fun _ => List.forall_mem_nil _⟩
  | true =>
      rw [SIMDCore.replyAccesses_iff encoded stalled
        (tracked.pendingDestReg_ne stalled)]
      exact ⟨fun fits _ => fits, fun fits => fits rfl⟩

omit [Div F] [NatCast F] in
/-- A timely event accesses no register outside the file. -/
theorem contained
    (tracked : system.Tracked)
    (encoded : system.core.Encoded)
    {event : Event F}
    (timely : system.Timely event) :
    system.Contained ops event := by
  cases event with
  | loadProgram program => exact List.forall_mem_nil _
  | tick hardware =>
      exact (SIMDCore.tickAccesses_iff ops system.core system.piccolo hardware
        encoded).mpr (timely.tickFits hardware rfl)
  | tickIssue => exact List.forall_mem_nil _
  | readComplete value => exact List.forall_mem_nil _
  | reply position =>
      cases found : system.inFlight[position]? with
      | none =>
          simp only [Contained, ReplySystem.accesses, found]
          exact List.forall_mem_nil _
      | some load =>
          exact (tracked.replyContained_iff encoded found).mpr
            (timely.replyFits position rfl load found)

/-- A timely reply that has an effect is addressed. -/
theorem addressed
    (tracked : system.Tracked)
    {event : Event F}
    (timely : system.Timely event) :
    system.Addressed ops this event := by
  intro position isReply load found changed
  cases isCurrent : system.current load with
  | true =>
      obtain ⟨loading, waits, -⟩ := tracked.reply_current found isCurrent
      simp only [StallState.loading, SIMDCore.stall, Bool.and_eq_true]
        at loading
      exact ⟨loading.1.1, waits⟩
  | false =>
      have running := timely.reply position isReply load found
        (beq_eq_false_iff_ne.mp isCurrent)
      rw [isReply, next_reply found] at changed
      rcases system.core.stall_onMemoryReply (List.replicate 16 1)
          tracked.consistent with ⟨stalled, -⟩ | ⟨-, ignored⟩
      · exact absurd (stalled.symm.trans running) Bool.noConfusion
      · exact absurd ignored changed

/-- If a reply is addressed, an event leaves a consistent stall and its
accesses stay in the file, it is timely. -/
theorem timely
    (tracked : system.Tracked)
    (encoded : system.core.Encoded)
    {event : Event F}
    (addressed : system.Addressed ops this event)
    (consistent : (system.next ops this event).core.stall.Consistent)
    (contained : system.Contained ops event) :
    system.Timely event := by
  constructor
  · intro position isReply load found isEarlier
    by_contra isStalled
    have stalled := Bool.eq_true_of_not_eq_false isStalled
    rw [isReply, next_reply found] at consistent
    rcases system.core.stall_onMemoryReply (List.replicate 16 1)
        tracked.consistent with ⟨-, released⟩ | ⟨running, -⟩
    · simp only [released] at consistent
      have changed : (system.next ops this event).core ≠ system.core := by
        intro same
        rw [isReply, next_reply found] at same
        have still := congrArg StallState.isStalled released
        rw [congrArg SIMDCore.stall same] at still
        exact absurd (stalled.symm.trans still) Bool.noConfusion
      have loading : system.core.stall.loading = true := by
        have notGathering := Bool.eq_false_iff.mpr
          fun waits => Bool.false_ne_true (consistent.piccolo_stalled waits)
        have notUpdating := Bool.eq_false_iff.mpr
          fun waits => Bool.false_ne_true (consistent.gru_stalled waits)
        simp only [SIMDCore.stall] at notGathering notUpdating
        simp [StallState.loading, SIMDCore.stall, stalled, notGathering,
          notUpdating]
      obtain ⟨-, waits⟩ := addressed position isReply load found changed
      obtain ⟨only, alsoWaits, single⟩ := tracked.exists_waitsFor loading
      have same : only = load := Option.some.inj (alsoWaits.symm.trans waits)
      have isCurrent : system.current only = true :=
        (List.mem_filter.mp (single ▸ List.mem_singleton_self only)).2
      rw [same] at isCurrent
      exact isEarlier (beq_iff_eq.mp isCurrent)
    · exact isStalled running
  · intro hardware isTick inst begins
    have free := tracked.consistent.eq_free begins.running
    have begun := system.core.stall_issue ops this system.piccolo hardware
      begins.stalls free
    rw [← system.core.tick_of_head ops this system.piccolo hardware
      begins.running begins.head] at begun
    rw [isTick] at consistent
    simp only [ReplySystem.next, ReplySystem.tickCore, begun] at consistent
    exact (StallState.consistent_begun_iff inst).mp consistent
  · intro position isReply load found
    rw [isReply] at contained
    exact (tracked.replyContained_iff encoded found).mp contained
  · intro hardware isTick
    rw [isTick] at contained
    exact (SIMDCore.tickAccesses_iff ops system.core system.piccolo hardware
      encoded).mp contained

end Tick

end Tracked

/-! ## Runs -/

section Runs

variable [Zero F] [One F] [Add F] [Sub F] [Mul F] [Div F] [NatCast F]

omit [Add F] [Sub F] [Mul F] [Div F] [NatCast F] in
theorem tracked_built
    (pcId : PcId)
    (router feeder piccoloRef : Nat)
    (numRegisters : UInt32)
    (piccolo : PiccoloGatherController) :
    (built (F := F) pcId router feeder piccoloRef numRegisters
      piccolo).Tracked where
  consistent := StallState.consistent_free
  current := rfl
  known := fun loading => absurd loading.symm Bool.noConfusion
  bound := List.forall_mem_nil _

omit [Add F] [Sub F] [Mul F] [Div F] [NatCast F] in
theorem encoded_built
    (pcId : PcId)
    (router feeder piccoloRef : Nat)
    (numRegisters : UInt32)
    (piccolo : PiccoloGatherController) :
    (built (F := F) pcId router feeder piccoloRef numRegisters
      piccolo).core.Encoded where
  pending := SIMDCore.exists_toInt32_eq_neg_one
  size := ⟨numRegisters, List.length_replicate⟩

/-- In a run the stall is always consistent, every reply that has an effect is
addressed to the core's stall, and no register outside the file is accessed:
after such an access nothing is known about the state. -/
structure Disciplined
    (ops : FloatOps F)
    (this : Nat)
    (start : ReplySystem F)
    (events : List (Event F)) : Prop where
  consistent : Run.Always (next ops this)
    (fun system => system.core.stall.Consistent) start events
  addressed : Run.Along (next ops this) (Addressed ops this) start events
  contained : Run.Along (next ops this) (Contained ops) start events

/-- The runs that keep the discipline are those in which every event is
timely. -/
theorem disciplined_iff_timely
    (ops : FloatOps F)
    (this : Nat)
    (pcId : PcId)
    (router feeder piccoloRef : Nat)
    (numRegisters : UInt32)
    (piccolo : PiccoloGatherController)
    (events : List (Event F)) :
    Disciplined ops this
        (built pcId router feeder piccoloRef numRegisters piccolo) events ↔
      Run.Along (next ops this) Timely
        (built pcId router feeder piccoloRef numRegisters piccolo)
        events := by
  let start : ReplySystem F :=
    built pcId router feeder piccoloRef numRegisters piccolo
  have initially : start.Tracked ∧ start.core.Encoded :=
    ⟨tracked_built pcId router feeder piccoloRef numRegisters piccolo,
      encoded_built pcId router feeder piccoloRef numRegisters piccolo⟩
  have kept : ∀ (system : ReplySystem F) event,
      system.Tracked ∧ system.core.Encoded → system.Timely event →
        (system.next ops this event).Tracked ∧
          (system.next ops this event).core.Encoded :=
    fun _ event known timely => ⟨known.1.next timely,
      known.1.encoded_next known.2 event⟩
  have agree :
      Run.Along (next ops this) Timely start events ↔
        Run.Along (next ops this)
          (fun system event => system.Addressed ops this event ∧
            (system.next ops this event).core.stall.Consistent ∧
              system.Contained ops event)
          start events := Run.along_congr
    (fun _ _ known => ⟨fun timely =>
        ⟨known.1.addressed timely, (known.1.next timely).consistent,
          known.1.contained known.2 timely⟩,
      fun all => known.1.timely known.2 all.1 all.2.1 all.2.2⟩)
    kept initially
  constructor
  · rintro ⟨always, addressed, contained⟩
    apply agree.mpr
    intro before event isPrefix
    exact ⟨addressed before event isPrefix,
      always.along_next before event isPrefix,
      contained before event isPrefix⟩
  · intro timely
    refine ⟨?_, ?_, ?_⟩
    · intro before isPrefix
      exact (timely.always kept initially before isPrefix).1.consistent
    · intro before event isPrefix
      exact (agree.mp timely before event isPrefix).1
    · intro before event isPrefix
      exact (agree.mp timely before event isPrefix).2.2

end Runs

/-- A LOAD is executed, a GATHER is loaded and executed, and the LOAD's
callback runs. -/
def lateReply : List (Event ℚ) :=
  [.loadProgram [{ op := .load }], .tick none,
    .loadProgram [{ op := .gather, sizeBytes := 4 }], .tick none, .reply 0]

/-- The late reply ends the stall of the GATHER, which the core goes on
waiting for. -/
theorem lateReply_not_disciplined :
    ¬ Disciplined FloatOps.atZero 0
      (built 0 0 0 0 32
        { pcId := 0, baseAddr := 0, elemBytes := 4, numElems := 0 })
      lateReply := by
  intro disciplined
  have consistent := disciplined.consistent lateReply (List.prefix_refl _)
  have stalled := consistent.piccolo_stalled (by decide +kernel)
  revert stalled
  decide +kernel

end ReplySystem

end PimGraphs
