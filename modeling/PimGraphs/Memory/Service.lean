import PimGraphs.Memory.PseudoChannel

/-!
# Serving the ports one burst at a time

The arbiter's own interface serves ports one by one: it picks the next port
with a pending burst, that burst is taken, and the cursor moves behind the
port.  Repeating this is what a cycle's admission is measured against.
-/

namespace PimGraphs

namespace PseudoChannelMultiplexer

/-- Take the front burst of a port and move the cursor behind the port. -/
def issue
    (mux : PseudoChannelMultiplexer)
    (pcId : PcId) : PseudoChannelMultiplexer :=
  (mux.setPort pcId (mux.port pcId).pop).advanceAfterIssue pcId

/-- Pick, pop and advance, at most a given number of times: the ports served
and what is left. -/
def serve : Nat → PseudoChannelMultiplexer →
    List PcId × PseudoChannelMultiplexer
  | 0, mux => ([], mux)
  | count + 1, mux =>
      match mux.pickNextRoundRobin with
      | none => ([], mux)
      | some pcId =>
          let rest := serve count (mux.issue pcId)
          (pcId :: rest.1, rest.2)

/-- Which ports are ready at each of these picks. -/
def snapshots : Nat → PseudoChannelMultiplexer → List (PcId → Bool)
  | 0, _ => []
  | count + 1, mux =>
      match mux.pickNextRoundRobin with
      | none => []
      | some pcId => mux.ready :: snapshots count (mux.issue pcId)

theorem serve_succ_of_pick
    {mux : PseudoChannelMultiplexer}
    {pcId : PcId}
    (picked : mux.pickNextRoundRobin = some pcId)
    (count : Nat) :
    mux.serve (count + 1) =
      (pcId :: ((mux.issue pcId).serve count).1,
        ((mux.issue pcId).serve count).2) := by
  conv_lhs => unfold serve
  rw [picked]

theorem snapshots_succ_of_pick
    {mux : PseudoChannelMultiplexer}
    {pcId : PcId}
    (picked : mux.pickNextRoundRobin = some pcId)
    (count : Nat) :
    mux.snapshots (count + 1) =
      mux.ready :: (mux.issue pcId).snapshots count := by
  conv_lhs => unfold snapshots
  rw [picked]

/-- One more pick serves one more port. -/
theorem serve_then_pick
    {mux last : PseudoChannelMultiplexer}
    {ports : List PcId}
    {pcId : PcId}
    (served : mux.serve ports.length = (ports, last))
    (picked : last.pickNextRoundRobin = some pcId) :
    mux.serve (ports.length + 1) = (ports ++ [pcId], last.issue pcId) := by
  induction ports generalizing mux with
  | nil =>
      obtain rfl : mux = last := congrArg Prod.snd served
      rw [List.length_nil, serve_succ_of_pick picked]
      rfl
  | cons port rest inductionHypothesis =>
      cases first : mux.pickNextRoundRobin with
      | none =>
          rw [List.length_cons, serve, first] at served
          exact absurd (congrArg Prod.fst served) (List.cons_ne_nil _ _).symm
      | some other =>
          rw [List.length_cons, serve_succ_of_pick first] at served
          obtain ⟨samePorts, rfl⟩ := Prod.mk.inj served
          obtain ⟨rfl, rest_eq⟩ := List.cons.inj samePorts
          have later : (mux.issue other).serve (rest.length + 1) =
              (rest ++ [pcId],
                ((mux.issue other).serve rest.length).2.issue pcId) :=
            inductionHypothesis (Prod.ext rest_eq rfl)
          rw [List.length_cons, serve_succ_of_pick first, later]
          rfl

/-- The ports served are the grants of the round-robin arbiter. -/
theorem serve_eq_grants (count : Nat) (mux : PseudoChannelMultiplexer) :
    (mux.serve count).1 =
        RoundRobin.grants mux.rrCursor (mux.snapshots count) ∧
      (mux.serve count).2.rrCursor =
        RoundRobin.cursorAfter mux.rrCursor (mux.snapshots count) := by
  induction count generalizing mux with
  | zero => exact ⟨rfl, rfl⟩
  | succ count inductionHypothesis =>
      cases picked : mux.pickNextRoundRobin with
      | none =>
          unfold serve snapshots
          rw [picked]
          exact ⟨rfl, rfl⟩
      | some pcId =>
          obtain ⟨ports, cursor⟩ := inductionHypothesis (mux.issue pcId)
          have granted : RoundRobin.pick mux.ready mux.rrCursor = some pcId :=
            picked
          rw [serve_succ_of_pick picked, snapshots_succ_of_pick picked,
            RoundRobin.grants, RoundRobin.cursorAfter, granted]
          exact ⟨congrArg (pcId :: ·) ports, cursor⟩

theorem ready_of_ready_issue
    {mux : PseudoChannelMultiplexer}
    {pcId other : PcId}
    (ready : (mux.issue pcId).ready other = true) :
    mux.ready other = true := by
  rw [ready_eq_true_iff] at ready ⊢
  rw [issue, port_advanceAfterIssue, port_setPort] at ready
  split at ready
  case isTrue same =>
    subst same
    exact fun nothing => ready (by rw [PseudoChannelPort.pending_pop, nothing,
      List.tail_nil])
  case isFalse _ => exact ready

/-- A port that is ready after a service was ready at every pick. -/
theorem ready_of_mem_snapshots
    {count : Nat}
    {mux : PseudoChannelMultiplexer}
    {pcId : PcId}
    (readyAfter : (mux.serve count).2.ready pcId = true) :
    mux.ready pcId = true ∧
      ∀ snapshot ∈ mux.snapshots count, snapshot pcId = true := by
  induction count generalizing mux with
  | zero => exact ⟨readyAfter, fun _ member => absurd member List.not_mem_nil⟩
  | succ count inductionHypothesis =>
      cases picked : mux.pickNextRoundRobin with
      | none =>
          unfold serve at readyAfter
          unfold snapshots
          rw [picked] at readyAfter ⊢
          exact ⟨readyAfter, fun _ member => absurd member List.not_mem_nil⟩
      | some other =>
          rw [serve_succ_of_pick picked] at readyAfter
          obtain ⟨readyNext, later⟩ := inductionHypothesis readyAfter
          have readyNow := ready_of_ready_issue readyNext
          rw [snapshots_succ_of_pick picked]
          exact ⟨readyNow, List.forall_mem_cons.mpr ⟨readyNow, later⟩⟩

end PseudoChannelMultiplexer

end PimGraphs
