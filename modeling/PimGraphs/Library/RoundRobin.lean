import Mathlib.Algebra.Group.Fin.Basic
import Mathlib.Data.List.FinRange
import Mathlib.Tactic.Abel

/-!
# Round-robin arbitration over finitely many clients

A cursor names the client that is tried first.  `pick` grants the first ready
client at or after the cursor, in cyclic order, and the cursor then moves
behind the granted client.  Distances from the cursor linearise the cyclic
order; a grant is the ready client of least distance.  Two clients that are
ready at every grant are served equally often, up to one grant.
-/

namespace RoundRobin

variable {n : Nat} [NeZero n]

/-- All clients in cyclic order from a given start. -/
def order (start : Fin n) : List (Fin n) :=
  (List.finRange n).map fun offset => start + offset

/-- The first ready client at or after the cursor. -/
def pick (ready : Fin n → Bool) (cursor : Fin n) : Option (Fin n) :=
  (order cursor).find? ready

/-- Number of steps from the cursor to a client. -/
def distance (cursor client : Fin n) : Nat := (client - cursor).val

/-- Some clients in cyclic order from a given start. -/
def consecutive : Nat → Fin n → List (Fin n)
  | 0, _ => []
  | count + 1, start => start :: consecutive count (start + 1)

/-- No client from the cursor up to a given one is ready. -/
def Skipped (ready : Fin n → Bool) (cursor next : Fin n) : Prop :=
  ∀ other, distance cursor other < distance cursor next → ready other = false

/-- Grants made while the clients' readiness takes the given values in turn. -/
def grants : Fin n → List (Fin n → Bool) → List (Fin n)
  | _, [] => []
  | cursor, ready :: rest =>
      match pick ready cursor with
      | some client => client :: grants (client + 1) rest
      | none => grants cursor rest

/-- The cursor after these grants. -/
def cursorAfter : Fin n → List (Fin n → Bool) → Fin n
  | cursor, [] => cursor
  | cursor, ready :: rest =>
      match pick ready cursor with
      | some client => cursorAfter (client + 1) rest
      | none => cursorAfter cursor rest

theorem grants_append
    (cursor : Fin n)
    (earlier later : List (Fin n → Bool)) :
    grants cursor (earlier ++ later) =
      grants cursor earlier ++ grants (cursorAfter cursor earlier) later := by
  induction earlier generalizing cursor with
  | nil => rfl
  | cons ready rest inductionHypothesis =>
      simp only [List.cons_append, grants, cursorAfter]
      split
      · rw [inductionHypothesis, List.cons_append]
      · exact inductionHypothesis cursor

theorem cursorAfter_append
    (cursor : Fin n)
    (earlier later : List (Fin n → Bool)) :
    cursorAfter cursor (earlier ++ later) =
      cursorAfter (cursorAfter cursor earlier) later := by
  induction earlier generalizing cursor with
  | nil => rfl
  | cons ready rest inductionHypothesis =>
      simp only [List.cons_append, cursorAfter]
      split
      · exact inductionHypothesis _
      · exact inductionHypothesis cursor

omit [NeZero n] in
@[simp] theorem length_order (start : Fin n) : (order start).length = n := by
  simp [order]

omit [NeZero n] in
@[simp] theorem getElem_order
    (start : Fin n)
    (index : Nat)
    (inside : index < (order start).length) :
    (order start)[index] = start + ⟨index, by simpa using inside⟩ := by
  simp [order]

theorem mem_order (start client : Fin n) : client ∈ order start := by
  simp only [order, List.mem_map, List.mem_finRange, true_and]
  exact ⟨client - start, by abel⟩

omit [NeZero n] in
/-- Every client comes up once. -/
theorem nodup_order (start : Fin n) : (order start).Nodup :=
  (List.nodup_finRange n).map (add_right_injective start)

@[simp] theorem distance_add (cursor offset : Fin n) :
    distance cursor (cursor + offset) = offset.val := by
  simp [distance]

omit [NeZero n] in
theorem distance_lt (cursor client : Fin n) : distance cursor client < n :=
  (client - cursor).isLt

theorem distance_injective (cursor : Fin n) :
    Function.Injective (distance cursor) := by
  intro left right equal
  exact sub_left_injective (Fin.ext equal)

@[simp] theorem distance_eq_iff (cursor left right : Fin n) :
    distance cursor left = distance cursor right ↔ left = right :=
  (distance_injective cursor).eq_iff

/-- A client sits in the cyclic order at its distance from the start. -/
theorem order_getElem_distance
    (start client : Fin n)
    (inside : distance start client < (order start).length) :
    (order start)[distance start client] = client := by
  rw [getElem_order]
  change start + (client - start) = client
  abel

theorem pick_eq_none_iff (ready : Fin n → Bool) (cursor : Fin n) :
    pick ready cursor = none ↔ ∀ client, ready client = false := by
  rw [pick, List.find?_eq_none]
  constructor
  · intro allBusy client
    simpa using allBusy client (mem_order cursor client)
  · intro allBusy client _
    simp [allBusy client]

/-- The granted client is ready and no ready client is nearer. -/
theorem pick_eq_some_iff
    (ready : Fin n → Bool)
    (cursor client : Fin n) :
    pick ready cursor = some client ↔
      ready client = true ∧
        ∀ other, ready other = true →
          distance cursor client ≤ distance cursor other := by
  rw [pick, List.find?_eq_some_iff_getElem]
  constructor
  · rintro ⟨clientReady, index, inside, atIndex, earlier⟩
    refine ⟨clientReady, fun other otherReady => ?_⟩
    rw [getElem_order] at atIndex
    subst atIndex
    simp only [distance_add]
    by_contra nearer
    have skipped := earlier (distance cursor other) (by omega)
    rw [order_getElem_distance] at skipped
    simp [otherReady] at skipped
  · rintro ⟨clientReady, nearest⟩
    refine ⟨clientReady, distance cursor client, by
      simpa using distance_lt cursor client,
      order_getElem_distance cursor client _, ?_⟩
    intro index before
    rw [getElem_order]
    by_contra ready
    have := nearest _ (by simpa using ready)
    simp only [distance_add] at this
    omega

/-- Moving the cursor behind a grant shortens every longer distance. -/
theorem distance_advance
    {cursor client other : Fin n}
    (farther : distance cursor client < distance cursor other) :
    distance (client + 1) other =
      distance cursor other - distance cursor client - 1 := by
  have total := distance_lt cursor other
  have split : other - (client + 1) =
      (other - cursor) - (client - cursor) - 1 := by abel
  unfold distance at farther total ⊢
  rw [split]
  generalize other - cursor = far at *
  generalize client - cursor = near at *
  have large : 1 < n := by omega
  have oneValue : (1 : Fin n).val = 1 := by
    rw [Fin.val_one', Nat.mod_eq_of_lt large]
  have step : (far - near).val = far.val - near.val :=
    Fin.sub_val_of_le (Fin.le_def.mpr farther.le)
  rw [Fin.sub_val_of_le (Fin.le_def.mpr (by omega)), step, oneValue]

/-- The granted client becomes the farthest one. -/
theorem distance_advance_self (client : Fin n) :
    distance (client + 1) client = n - 1 := by
  have cancel : client - (client + 1) = -1 := by abel
  unfold distance
  rw [cancel]
  obtain ⟨rest, rfl⟩ := Nat.exists_eq_succ_of_ne_zero (NeZero.ne n)
  simp

/-! ## Sweeping the clients in order -/

theorem consecutive_eq_map (count : Nat) (start : Fin n) :
    consecutive count start =
      (List.range count).map fun offset => start + Fin.ofNat n offset := by
  induction count generalizing start with
  | zero => rfl
  | succ count inductionHypothesis =>
      rw [consecutive, inductionHypothesis, List.range_succ_eq_map,
        List.map_cons, List.map_map]
      congr 1
      · simp
      · refine List.map_congr_left fun offset _ => Fin.ext ?_
        simp only [Function.comp_apply, Fin.val_add, Fin.val_one',
          Fin.ofNat_eq_cast, Fin.val_natCast, Nat.add_mod_mod,
          Nat.mod_add_mod]
        congr 1
        omega

theorem order_eq_consecutive (start : Fin n) :
    order start = consecutive n start := by
  rw [consecutive_eq_map, order]
  refine List.ext_getElem (by simp) fun index inside _ => ?_
  have bound : index < n := by simpa using inside
  simp only [List.getElem_map, List.getElem_finRange, List.getElem_range]
  congr 1
  exact Fin.ext (Nat.mod_eq_of_lt bound).symm

theorem distance_succ_le (cursor client : Fin n) :
    distance cursor (client + 1) ≤ distance cursor client + 1 := by
  have shift : client + 1 - cursor = (client - cursor) + 1 := by abel
  have one : (1 : Fin n).val ≤ 1 := by
    rw [Fin.val_one']
    exact Nat.mod_le 1 n
  have step : ((client - cursor) + 1).val ≤ (client - cursor).val + 1 := by
    rw [Fin.val_add]
    exact (Nat.mod_le _ n).trans (Nat.add_le_add_left one _)
  rwa [distance, shift]

/-- At the cursor itself nothing has been skipped. -/
theorem skipped_self (ready : Fin n → Bool) (cursor : Fin n) :
    Skipped ready cursor cursor := by
  intro other nearer
  simp [distance] at nearer

/-- A client that is not ready may be skipped. -/
theorem Skipped.succ
    {ready : Fin n → Bool}
    {cursor next : Fin n}
    (skipped : Skipped ready cursor next)
    (notReady : ready next = false) :
    Skipped ready cursor (next + 1) := by
  intro other nearer
  have close := Nat.le_of_lt_succ
    (Nat.lt_of_lt_of_le nearer (distance_succ_le cursor next))
  rcases Nat.lt_or_eq_of_le close with before | same
  · exact skipped other before
  · rw [(distance_eq_iff cursor other next).mp same]
    exact notReady

/-- The first ready client that a sweep meets is the one picked. -/
theorem Skipped.pick
    {ready : Fin n → Bool}
    {cursor next : Fin n}
    (skipped : Skipped ready cursor next)
    (isReady : ready next = true) :
    RoundRobin.pick ready cursor = some next := by
  refine (pick_eq_some_iff ready cursor next).mpr ⟨isReady, ?_⟩
  intro other otherReady
  by_contra nearer
  have notReady := skipped other (Nat.lt_of_not_le nearer)
  exact Bool.false_ne_true (notReady.symm.trans otherReady)

section Fairness

variable {first second : Fin n}

/-- The first of two clients is ahead of the second by one grant exactly when
the cursor has passed it and not yet the other. -/
theorem count_grants_of_nearer
    (cursor : Fin n)
    (snapshots : List (Fin n → Bool))
    (distinct : first ≠ second)
    (bothReady : ∀ ready ∈ snapshots,
      ready first = true ∧ ready second = true) :
    (distance cursor first < distance cursor second →
      (grants cursor snapshots).count first =
          (grants cursor snapshots).count second ∨
        (grants cursor snapshots).count first =
          (grants cursor snapshots).count second + 1) ∧
      (distance cursor second < distance cursor first →
        (grants cursor snapshots).count second =
            (grants cursor snapshots).count first ∨
          (grants cursor snapshots).count second =
            (grants cursor snapshots).count first + 1) := by
  induction snapshots generalizing cursor with
  | nil => simp [grants]
  | cons ready rest inductionHypothesis =>
      have readyNow := bothReady ready (by simp)
      have readyLater : ∀ later ∈ rest,
          later first = true ∧ later second = true :=
        fun later member => bothReady later (by simp [member])
      cases granted : pick ready cursor with
      | none =>
          rw [pick_eq_none_iff] at granted
          simp [granted first] at readyNow
      | some client =>
          have after := inductionHypothesis (client + 1) readyLater
          rw [pick_eq_some_iff] at granted
          have toFirst := granted.2 first readyNow.1
          have toSecond := granted.2 second readyNow.2
          have picked : grants cursor (ready :: rest) =
              client :: grants (client + 1) rest := by
            rw [grants, (pick_eq_some_iff ready cursor client).mpr granted]
          rw [picked]
          by_cases isFirst : client = first
          · subst isFirst
            have behind := distance_advance_self (n := n) client
            have bound := distance_lt (client + 1) second
            have different : distance (client + 1) second ≠
                distance (client + 1) client := by
              simpa using distinct.symm
            have passed := after.2 (by omega)
            have apart : distance cursor client ≠ distance cursor second := by
              simpa using distinct
            simp only [List.count_cons_self,
              List.count_cons_of_ne distinct]
            exact ⟨fun _ => by omega, fun nearer => by omega⟩
          · by_cases isSecond : client = second
            · subst isSecond
              have behind := distance_advance_self (n := n) client
              have bound := distance_lt (client + 1) first
              have different : distance (client + 1) first ≠
                  distance (client + 1) client := by
                simpa using distinct
              have passed := after.1 (by omega)
              have apart : distance cursor client ≠ distance cursor first := by
                simpa using distinct.symm
              simp only [List.count_cons_self,
                List.count_cons_of_ne distinct.symm]
              exact ⟨fun nearer => by omega, fun _ => by omega⟩
            · have beforeFirst :
                  distance cursor client < distance cursor first := by
                have : distance cursor client ≠ distance cursor first := by
                  simpa using isFirst
                omega
              have beforeSecond :
                  distance cursor client < distance cursor second := by
                have : distance cursor client ≠ distance cursor second := by
                  simpa using isSecond
                omega
              rw [distance_advance beforeFirst,
                distance_advance beforeSecond] at after
              simp only [List.count_cons_of_ne isFirst,
                List.count_cons_of_ne isSecond]
              exact ⟨fun nearer => after.1 (by omega),
                fun nearer => after.2 (by omega)⟩

/-- Clients ready at every grant are served equally often, up to one grant. -/
theorem count_grants_le_succ
    (cursor : Fin n)
    (snapshots : List (Fin n → Bool))
    (bothReady : ∀ ready ∈ snapshots,
      ready first = true ∧ ready second = true) :
    (grants cursor snapshots).count first ≤
      (grants cursor snapshots).count second + 1 := by
  by_cases distinct : first = second
  · subst distinct
    omega
  · have close :=
      count_grants_of_nearer cursor snapshots distinct bothReady
    have apart : distance cursor first ≠ distance cursor second := by
      simpa using distinct
    rcases Nat.lt_or_gt_of_ne apart with nearer | nearer
    · have := close.1 nearer
      omega
    · have := close.2 nearer
      omega

end Fairness

end RoundRobin
