import Mathlib.Algebra.Order.BigOperators.Group.List
import Mathlib.Algebra.Order.Ring.Nat
import Mathlib.Data.Int.Basic
import Mathlib.Data.Nat.Find
import TrueFamily.Lib.Trace

/-!
# The serial queue of the probe

`BoundedSerialQueue`. An accepted operation has three promises: `result`, which is the reaction of
the operation to the tail before it, `settled`, which is returned, and the new tail. Their
reactions are microtasks; here any reaction whose promise has settled may be the next step, and
the code of other tasks (`enqueue`, `close` and `drain`, also from a running operation or from
`onOverflow`) may come between any two of them. So the order of the microtasks is not assumed.
-/

namespace TrueFamily.Probe

open Trace

/-- How a promise settled. -/
inductive Outcome
  | fulfilled
  | rejected
  deriving DecidableEq, Repr

/-- How far an accepted operation has come. -/
inductive Phase
  /-- `result` waits for the tail. -/
  | queued
  /-- The operation was called, and `result` has not settled. -/
  | running
  /-- `result` has settled. -/
  | ended (outcome : Outcome)
  /-- The handler of `finally` has run. -/
  | released (outcome : Outcome)
  /-- `settled` has settled. -/
  | returned (outcome : Outcome)
  /-- The tail that the operation left is fulfilled, however it settled. -/
  | done (outcome : Outcome)
  deriving DecidableEq, Repr

namespace Phase

/-- The operation was called. -/
def isStarted : Phase → Bool
  | queued => false
  | _ => true

/-- How `result` settled. -/
def result : Phase → Option Outcome
  | queued | running => none
  | ended outcome | released outcome | returned outcome | done outcome => some outcome

/-- The queue has not seen the operation settle: the handler of `finally` has not run. -/
def isUnsettled : Phase → Bool
  | queued | running | ended _ => true
  | released _ | returned _ | done _ => false

/-- How the promise that `enqueue` returned settled. -/
def settled : Phase → Option Outcome
  | queued | running | ended _ | released _ => none
  | returned outcome | done outcome => some outcome

/-- The tail is fulfilled. -/
def isDone : Phase → Bool
  | done _ => true
  | _ => false

/-- The steps that the operation has made. -/
def rank : Phase → ℕ
  | queued => 0
  | running => 1
  | ended _ => 2
  | released _ => 3
  | returned _ => 4
  | done _ => 5

end Phase

/-- The queue, with its accepted operations in the order of `enqueue`: `this.tail` is the tail of
the last of them. A call of `drain` awaits the tail behind the first `n` operations, or has
resolved. -/
structure BoundedSerialQueue where
  limit : ℕ
  pending : ℤ
  closed : Bool
  operations : List Phase
  drains : List (Option ℕ)
  deriving DecidableEq, Repr

/-- What a call of `enqueue` does. -/
inductive Response
  /-- The queue is closed. -/
  | refused
  /-- `onOverflow` is called. -/
  | overflow
  | accepted
  deriving DecidableEq, Repr

/-- What happens. Operations and calls of `drain` are numbered from 0 in their order. -/
inductive QueueEvent
  | enqueue (force : Bool) (response : Response)
  | close
  /-- The reaction to the tail calls the operation. -/
  | start (operation : ℕ)
  /-- The operation settles. -/
  | settle (operation : ℕ) (outcome : Outcome)
  /-- The handler of `finally`. -/
  | release (operation : ℕ)
  /-- The promise of `finally` settles. -/
  | deliver (operation : ℕ)
  /-- The reaction of `catch`, or past it. -/
  | swallow (operation : ℕ)
  | drain
  /-- A call of `drain` continues after its `await`. -/
  | wake (call : ℕ) (resolves : Bool)
  deriving DecidableEq, Repr

namespace BoundedSerialQueue

/-- The constructor. -/
def new (limit : ℕ) : BoundedSerialQueue where
  limit := limit
  pending := 0
  closed := false
  operations := []
  drains := []

/-- `enqueue`. -/
def enqueue (queue : BoundedSerialQueue) (force : Bool) : BoundedSerialQueue × Response :=
  if queue.closed && !force then (queue, .refused)
  else if !force && decide ((queue.limit : ℤ) ≤ queue.pending) then (queue, .overflow)
  else ({ queue with
    pending := queue.pending + 1
    operations := queue.operations ++ [.queued] }, .accepted)

/-- The tail behind the first `n` operations is fulfilled. -/
def tailFulfilled (operations : List Phase) : ℕ → Bool
  | 0 => true
  | i + 1 => (operations[i]?).any Phase.isDone

/-- What a call of `drain` awaits when it does not resolve: the new tail. -/
def awaited (queue : BoundedSerialQueue) (resolves : Bool) : Option ℕ :=
  if resolves then none else some queue.operations.length

/-- One step. -/
def next (queue : BoundedSerialQueue) : QueueEvent → Option BoundedSerialQueue
  | .enqueue force response =>
    if (queue.enqueue force).2 = response then some (queue.enqueue force).1 else none
  | .close => some { queue with closed := true }
  | .start i =>
    if queue.operations[i]? = some .queued ∧ tailFulfilled queue.operations i = true then
      some { queue with operations := queue.operations.set i .running }
    else none
  | .settle i outcome =>
    if queue.operations[i]? = some .running then
      some { queue with operations := queue.operations.set i (.ended outcome) }
    else none
  | .release i =>
    match queue.operations[i]? with
    | some (.ended outcome) => some { queue with
        pending := queue.pending - 1
        operations := queue.operations.set i (.released outcome) }
    | _ => none
  | .deliver i =>
    match queue.operations[i]? with
    | some (.released outcome) =>
      some { queue with operations := queue.operations.set i (.returned outcome) }
    | _ => none
  | .swallow i =>
    match queue.operations[i]? with
    | some (.returned outcome) =>
      some { queue with operations := queue.operations.set i (.done outcome) }
    | _ => none
  | .drain => some { queue with drains := queue.drains ++ [some queue.operations.length] }
  | .wake call resolves =>
    match queue.drains[call]? with
    | some (some tail) =>
      if tailFulfilled queue.operations tail = true ∧
          resolves = decide (tail = queue.operations.length) then
        some { queue with drains := queue.drains.set call (queue.awaited resolves) }
      else none
    | _ => none

/-- The step relation. -/
def Step (queue : BoundedSerialQueue) (event : QueueEvent) (queue' : BoundedSerialQueue) : Prop :=
  queue.next event = some queue'

/-! ## One step -/

variable {limit i : ℕ} {queue queue' : BoundedSerialQueue} {event : QueueEvent}
  {events : List QueueEvent} {operations : List Phase} {old : Phase}

/-- An operation after another: it has started only if the one before it is done. -/
def Serial (operations : List Phase) : Prop :=
  ∀ i phase, operations[i + 1]? = some phase → phase ≠ .queued →
    tailFulfilled operations (i + 1) = true

theorem tailFulfilled_succ_iff :
    tailFulfilled operations (i + 1) = true ↔ ∃ outcome, operations[i]? = some (.done outcome) := by
  rw [tailFulfilled, Option.any_eq_true]
  constructor
  · rintro ⟨phase, hphase, hdone⟩
    cases phase with
    | done outcome => exact ⟨outcome, hphase⟩
    | _ => cases hdone
  · rintro ⟨outcome, hphase⟩
    exact ⟨_, hphase, rfl⟩

theorem Serial.done_of_lt (h : Serial operations) {phase : Phase} :
    ∀ {i j : ℕ}, operations[i]? = some phase → phase ≠ .queued → j < i →
      ∃ outcome, operations[j]? = some (.done outcome) := by
  intro i
  induction i generalizing phase with
  | zero => exact fun _ _ hlt => absurd hlt (Nat.not_lt_zero _)
  | succ i ih =>
    intro j hphase hne hlt
    obtain ⟨outcome, hdone⟩ := tailFulfilled_succ_iff.1 (h i phase hphase hne)
    rcases Nat.lt_or_eq_of_le (Nat.le_of_lt_succ hlt) with hlt | rfl
    · exact ih hdone (by simp) hlt
    · exact ⟨outcome, hdone⟩

theorem Serial.append (h : Serial operations) : Serial (operations ++ [.queued]) := by
  intro i phase hphase hne
  rcases Nat.lt_or_ge (i + 1) operations.length with hlt | hge
  · rw [List.getElem?_append_left hlt] at hphase
    obtain ⟨outcome, hdone⟩ := tailFulfilled_succ_iff.1 (h i phase hphase hne)
    refine tailFulfilled_succ_iff.2 ⟨outcome, ?_⟩
    rw [List.getElem?_append_left (by omega), hdone]
  · rw [List.getElem?_append_right hge] at hphase
    have hmem := List.mem_singleton.1 (List.mem_of_getElem? hphase)
    exact absurd hmem hne

/-- An operation that is not done makes a step. -/
theorem Serial.set (h : Serial operations) {new : Phase} (hold : operations[i]? = some old)
    (hopen : old.isDone = false) (hfree : old = .queued → tailFulfilled operations i = true) :
    Serial (operations.set i new) := by
  have hlt : i < operations.length := (List.getElem?_eq_some_iff.1 hold).1
  have hprevious : ∀ j, j + 1 = i → ∃ outcome, operations[j]? = some (.done outcome) := by
    rintro j rfl
    by_cases hqueued : old = .queued
    · exact tailFulfilled_succ_iff.1 (hfree hqueued)
    · exact tailFulfilled_succ_iff.1 (h j old hold hqueued)
  intro j phase hphase hne
  rw [tailFulfilled_succ_iff]
  by_cases hij : i = j + 1
  · obtain ⟨outcome, hdone⟩ := hprevious j hij.symm
    exact ⟨outcome, by rw [List.getElem?_set_ne (by omega), hdone]⟩
  · rw [List.getElem?_set_ne hij] at hphase
    obtain ⟨outcome, hdone⟩ := tailFulfilled_succ_iff.1 (h j phase hphase hne)
    refine ⟨outcome, ?_⟩
    rw [List.getElem?_set_ne, hdone]
    rintro rfl
    rw [hold] at hdone
    obtain rfl := Option.some.inj hdone
    cases hopen

/-- Before an operation that may start all are done, and from it on none has started. -/
theorem Serial.countP_started (h : Serial operations) (hqueued : operations[i]? = some .queued)
    (hfree : tailFulfilled operations i = true) : operations.countP Phase.isStarted = i := by
  have hlt : i < operations.length := (List.getElem?_eq_some_iff.1 hqueued).1
  have hbefore : (operations.take i).countP Phase.isStarted = i := by
    rw [List.countP_eq_length.2, List.length_take, Nat.min_eq_left (Nat.le_of_lt hlt)]
    intro phase hmem
    obtain ⟨j, hj⟩ := List.mem_iff_getElem?.1 hmem
    rw [List.getElem?_take] at hj
    split at hj
    · rename_i hji
      cases i with
      | zero => exact absurd hji (Nat.not_lt_zero _)
      | succ i =>
        obtain ⟨outcome, hdone⟩ := tailFulfilled_succ_iff.1 hfree
        have hjdone : ∃ outcome, operations[j]? = some (.done outcome) := by
          rcases Nat.lt_or_eq_of_le (Nat.le_of_lt_succ hji) with hlt | rfl
          · exact h.done_of_lt hdone (by simp) hlt
          · exact ⟨outcome, hdone⟩
        obtain ⟨outcome, hjdone⟩ := hjdone
        obtain rfl := Option.some.inj (hj.symm.trans hjdone)
        rfl
    · cases hj
  have hafter : (operations.drop i).countP Phase.isStarted = 0 := by
    rw [List.countP_eq_zero]
    intro phase hmem hstarted
    obtain ⟨j, hj⟩ := List.mem_iff_getElem?.1 hmem
    rw [List.getElem?_drop] at hj
    have hne : phase ≠ .queued := by
      rintro rfl
      cases hstarted
    cases j with
    | zero =>
      obtain rfl := Option.some.inj (hqueued.symm.trans hj)
      exact hne rfl
    | succ j =>
      obtain ⟨outcome, hdone⟩ := h.done_of_lt hj hne (show i < i + (j + 1) by omega)
      rw [hqueued] at hdone
      cases hdone
  calc operations.countP Phase.isStarted
      = (operations.take i ++ operations.drop i).countP Phase.isStarted := by
        rw [List.take_append_drop]
    _ = i := by rw [List.countP_append, hbefore, hafter, Nat.add_zero]

/-- A step of one operation, by a reaction or by its own settlement. -/
inductive Moves : QueueEvent → ℕ → Phase → Phase → Prop
  | start (i : ℕ) : Moves (.start i) i .queued .running
  | settle (i : ℕ) (outcome : Outcome) : Moves (.settle i outcome) i .running (.ended outcome)
  | release (i : ℕ) (outcome : Outcome) : Moves (.release i) i (.ended outcome) (.released outcome)
  | deliver (i : ℕ) (outcome : Outcome) :
      Moves (.deliver i) i (.released outcome) (.returned outcome)
  | swallow (i : ℕ) (outcome : Outcome) : Moves (.swallow i) i (.returned outcome) (.done outcome)

/-- How many of one operation are unsettled. -/
def unsettledCount (phase : Phase) : ℤ := if phase.isUnsettled then 1 else 0

/-- What a step can do. -/
theorem step_cases (h : Step queue event queue') :
    (∃ force response, event = .enqueue force response ∧
      queue.enqueue force = (queue', response)) ∨
    (event = .close ∧ queue' = { queue with closed := true }) ∨
    (∃ i old new, Moves event i old new ∧ queue.operations[i]? = some old ∧
      (old = .queued → tailFulfilled queue.operations i = true) ∧
      queue' = { queue with
        pending := queue.pending + unsettledCount new - unsettledCount old
        operations := queue.operations.set i new }) ∨
    (event = .drain ∧
      queue' = { queue with drains := queue.drains ++ [some queue.operations.length] }) ∨
    ∃ call resolves tail, event = .wake call resolves ∧ queue.drains[call]? = some (some tail) ∧
      tailFulfilled queue.operations tail = true ∧
      resolves = decide (tail = queue.operations.length) ∧
      queue' = { queue with drains := queue.drains.set call (queue.awaited resolves) } := by
  cases event with
  | enqueue force response =>
    simp only [Step, next, Option.ite_none_right_eq_some, Option.some.injEq] at h
    exact Or.inl ⟨force, response, rfl, Prod.ext h.2 h.1⟩
  | close => exact Or.inr (Or.inl ⟨rfl, (Option.some.inj h).symm⟩)
  -- the five moves of an operation, each with its change of the pending count
  | start i =>
    simp only [Step, next, Option.ite_none_right_eq_some, Option.some.injEq] at h
    obtain ⟨⟨hqueued, hfree⟩, rfl⟩ := h
    refine Or.inr (Or.inr (Or.inl ⟨i, _, _, .start i, hqueued, fun _ => hfree, ?_⟩))
    simp [unsettledCount, Phase.isUnsettled]
  | settle i outcome =>
    simp only [Step, next, Option.ite_none_right_eq_some, Option.some.injEq] at h
    obtain ⟨hrunning, rfl⟩ := h
    refine Or.inr (Or.inr (Or.inl ⟨i, _, _, .settle i outcome, hrunning, by simp, ?_⟩))
    simp [unsettledCount, Phase.isUnsettled]
  | release i =>
    simp only [Step, next] at h
    split at h
    · rename_i outcome hended
      obtain rfl := Option.some.inj h
      refine Or.inr (Or.inr (Or.inl ⟨i, _, _, .release i outcome, hended, by simp, ?_⟩))
      simp [unsettledCount, Phase.isUnsettled]
    · cases h
  | deliver i =>
    simp only [Step, next] at h
    split at h
    · rename_i outcome hreleased
      obtain rfl := Option.some.inj h
      refine Or.inr (Or.inr (Or.inl ⟨i, _, _, .deliver i outcome, hreleased, by simp, ?_⟩))
      simp [unsettledCount, Phase.isUnsettled]
    · cases h
  | swallow i =>
    simp only [Step, next] at h
    split at h
    · rename_i outcome hreturned
      obtain rfl := Option.some.inj h
      refine Or.inr (Or.inr (Or.inl ⟨i, _, _, .swallow i outcome, hreturned, by simp, ?_⟩))
      simp [unsettledCount, Phase.isUnsettled]
    · cases h
  | drain => exact Or.inr (Or.inr (Or.inr (Or.inl ⟨rfl, (Option.some.inj h).symm⟩)))
  | wake call resolves =>
    simp only [Step, next] at h
    split at h
    · rename_i tail htail
      simp only [Option.ite_none_right_eq_some, Option.some.injEq] at h
      obtain ⟨⟨hfulfilled, hresolves⟩, rfl⟩ := h
      exact Or.inr (Or.inr (Or.inr (Or.inr
        ⟨call, resolves, tail, rfl, htail, hfulfilled, hresolves, rfl⟩)))
    · cases h

/-- A call of `enqueue` accepts, or changes nothing. -/
theorem enqueue_cases {force : Bool} {response : Response}
    (h : queue.enqueue force = (queue', response)) :
    (response = .accepted ∧ (force = false → queue.closed = false ∧
        queue.pending < (queue.limit : ℤ)) ∧
      queue' = { queue with
        pending := queue.pending + 1
        operations := queue.operations ++ [.queued] }) ∨
    (response = .overflow ∧ (force = false ∧ queue.closed = false ∧
      (queue.limit : ℤ) ≤ queue.pending) ∧ queue' = queue) ∨
    (response = .refused ∧ (force = false ∧ queue.closed = true) ∧ queue' = queue) := by
  rw [enqueue] at h
  split at h
  · rename_i hclosed
    obtain ⟨rfl, rfl⟩ := Prod.mk.inj h
    exact Or.inr (Or.inr ⟨rfl, by simpa [and_comm] using hclosed, rfl⟩)
  · rename_i hopen
    split at h
    · rename_i hfull
      obtain ⟨rfl, rfl⟩ := Prod.mk.inj h
      simp only [Bool.and_eq_true, Bool.not_eq_true', decide_eq_true_iff] at hfull
      refine Or.inr (Or.inl ⟨rfl, ⟨hfull.1, ?_, hfull.2⟩, rfl⟩)
      simpa [hfull.1] using hopen
    · rename_i hroom
      obtain ⟨rfl, rfl⟩ := Prod.mk.inj h
      refine Or.inl ⟨rfl, fun hforce => ?_, rfl⟩
      subst hforce
      exact ⟨by simpa using hopen, by simpa using hroom⟩

/-! ## The invariant of a run -/

/-- The operation that is called. -/
def started : QueueEvent → Option ℕ
  | .start i => some i
  | _ => none

/-- A step of one operation. -/
def isMove : QueueEvent → Bool
  | .start _ | .settle .. | .release _ | .deliver _ | .swallow _ => true
  | _ => false

/-- What holds along a run. -/
structure Inv (limit : ℕ) (events : List QueueEvent) (queue : BoundedSerialQueue) : Prop where
  limit_eq : queue.limit = limit
  serial : Serial queue.operations
  pending_eq : queue.pending = queue.operations.countP Phase.isUnsettled
  started_eq : events.filterMap started = List.range (queue.operations.countP Phase.isStarted)
  settle_mem : ∀ i phase outcome, queue.operations[i]? = some phase →
    phase.result = some outcome → .settle i outcome ∈ events
  moves_eq : events.countP isMove = (queue.operations.map Phase.rank).sum
  drains_le : ∀ tail, some tail ∈ queue.drains → tail ≤ queue.operations.length

theorem Inv.initial (limit : ℕ) : Inv limit [] (new limit) where
  limit_eq := rfl
  serial := fun _ _ h => by cases h
  pending_eq := rfl
  started_eq := rfl
  settle_mem := fun _ _ _ h => by cases h
  moves_eq := rfl
  drains_le := fun _ h => by cases h

/-- An event that no operation notices. -/
theorem Inv.same (h : Inv limit events queue) (hmove : isMove event = false)
    (hoperations : queue'.operations = queue.operations) (hpending : queue'.pending = queue.pending)
    (hlimit : queue'.limit = queue.limit)
    (hdrains : ∀ tail, some tail ∈ queue'.drains → tail ≤ queue.operations.length) :
    Inv limit (events ++ [event]) queue' where
  limit_eq := hlimit.trans h.limit_eq
  serial := hoperations ▸ h.serial
  pending_eq := by rw [hpending, hoperations, h.pending_eq]
  started_eq := by
    have hnone : started event = none := by cases event <;> first | rfl | cases hmove
    rw [List.filterMap_append, hoperations, ← h.started_eq, List.filterMap_cons_none hnone,
      List.filterMap_nil, List.append_nil]
  settle_mem := fun i phase outcome hphase hresult => List.mem_append_left _
    (h.settle_mem i phase outcome (hoperations ▸ hphase) hresult)
  moves_eq := by
    rw [List.countP_append, hoperations, h.moves_eq, List.countP_singleton,
      if_neg (by simp [hmove]), Nat.add_zero]
  drains_le := fun tail hmem => hoperations ▸ hdrains tail hmem

theorem Inv.accept (h : Inv limit events queue) {force : Bool} {response : Response} :
    Inv limit (events ++ [.enqueue force response]) { queue with
      pending := queue.pending + 1
      operations := queue.operations ++ [.queued] } where
  limit_eq := h.limit_eq
  serial := h.serial.append
  pending_eq := by
    rw [List.countP_append, Int.natCast_add, ← h.pending_eq]
    rfl
  started_eq := by
    rw [List.filterMap_append, List.countP_append, h.started_eq]
    simp [started, Phase.isStarted]
  settle_mem := by
    intro i phase outcome hphase hresult
    refine List.mem_append_left _ (h.settle_mem i phase outcome ?_ hresult)
    rcases Nat.lt_or_ge i queue.operations.length with hlt | hge
    · rwa [List.getElem?_append_left hlt] at hphase
    · rw [List.getElem?_append_right hge] at hphase
      obtain rfl := List.mem_singleton.1 (List.mem_of_getElem? hphase)
      cases hresult
  moves_eq := by
    rw [List.countP_append, List.map_append, List.sum_append, h.moves_eq]
    rfl
  drains_le := by
    intro tail hmem
    have := h.drains_le tail hmem
    rw [List.length_append]
    omega

/-- An operation makes a step. -/
theorem Inv.move (h : Inv limit events queue) {new : Phase} (hmoves : Moves event i old new)
    (hold : queue.operations[i]? = some old)
    (hfree : old = .queued → tailFulfilled queue.operations i = true) :
    Inv limit (events ++ [event]) { queue with
      pending := queue.pending + unsettledCount new - unsettledCount old
      operations := queue.operations.set i new } := by
  have hopen : old.isDone = false := by cases hmoves <;> rfl
  obtain ⟨hlt, hget⟩ := List.getElem?_eq_some_iff.1 hold
  have hset : queue.operations.set i new =
      queue.operations.take i ++ new :: queue.operations.drop (i + 1) :=
    List.set_eq_take_append_cons_drop.trans (if_pos hlt)
  have hsplit : queue.operations =
      queue.operations.take i ++ old :: queue.operations.drop (i + 1) := by
    rw [← hget, List.cons_getElem_drop_succ, List.take_append_drop]
  -- a count changes by the one operation that moves
  have hcount (p : Phase → Bool) :
      (queue.operations.set i new).countP p + (if p old then 1 else 0) =
      queue.operations.countP p + (if p new then 1 else 0) := by
    conv_rhs => rw [hsplit]
    rw [hset, List.countP_append, List.countP_append, List.countP_cons, List.countP_cons]
    omega
  refine ⟨h.limit_eq, h.serial.set hold hopen hfree, ?_, ?_, ?_, ?_, ?_⟩
  · have hcount := hcount Phase.isUnsettled
    have hpending := h.pending_eq
    simp only [unsettledCount]
    cases hold' : old.isUnsettled <;> cases hnew : new.isUnsettled <;>
      simp only [hold', hnew, Bool.false_eq_true, if_true, if_false] at hcount ⊢ <;> omega
  · rw [List.filterMap_append, h.started_eq]
    have hcount := hcount Phase.isStarted
    cases hmoves with
    -- an operation starts when all before it are done, so the starts are in order
    | start =>
      rw [h.serial.countP_started hold (hfree rfl)] at hcount ⊢
      have hone : (queue.operations.set i .running).countP Phase.isStarted = i + 1 := by
        simpa [Phase.isStarted] using hcount
      rw [hone, List.range_succ]
      rfl
    | _ =>
      have hsame : (queue.operations.set i _).countP Phase.isStarted =
          queue.operations.countP Phase.isStarted := Nat.add_right_cancel hcount
      rw [hsame]
      exact List.append_nil _
  · intro j phase outcome hphase hresult
    rw [List.getElem?_set] at hphase
    split at hphase
    · rename_i hij
      subst hij
      obtain rfl := Option.some.inj hphase
      cases hmoves with
      | start => cases hresult
      | settle _ ended =>
        obtain rfl := Option.some.inj hresult
        exact List.mem_append_right _ List.mem_cons_self
      | _ => exact List.mem_append_left _ (h.settle_mem i _ outcome hold hresult)
    · exact List.mem_append_left _ (h.settle_mem j phase outcome hphase hresult)
  -- every move is one rank up
  · have hrank : new.rank = old.rank + 1 := by cases hmoves <;> rfl
    have hmove : isMove event = true := by cases hmoves <;> rfl
    rw [List.countP_append, h.moves_eq, List.countP_singleton, if_pos hmove, hset]
    conv_lhs => rw [hsplit]
    simp only [List.map_append, List.map_cons, List.sum_append, List.sum_cons, hrank]
    omega
  · intro tail hmem
    rw [List.length_set]
    exact h.drains_le tail hmem

/-- One step keeps the invariant. -/
theorem Inv.step (h : Inv limit events queue) (hstep : Step queue event queue') :
    Inv limit (events ++ [event]) queue' := by
  rcases step_cases hstep with ⟨force, response, rfl, henqueue⟩ | ⟨rfl, rfl⟩ |
    ⟨i, old, new, hmoves, hold, hfree, rfl⟩ | ⟨rfl, rfl⟩ |
    ⟨call, resolves, tail, rfl, htail, hfulfilled, hresolves, rfl⟩
  · rcases enqueue_cases henqueue with ⟨rfl, -, rfl⟩ | ⟨rfl, -, rfl⟩ | ⟨rfl, -, rfl⟩
    · exact h.accept
    · exact h.same rfl rfl rfl rfl h.drains_le
    · exact h.same rfl rfl rfl rfl h.drains_le
  · exact h.same rfl rfl rfl rfl h.drains_le
  · exact h.move hmoves hold hfree
  · refine h.same rfl rfl rfl rfl fun tail hmem => ?_
    rcases List.mem_append.1 hmem with hmem | hmem
    · exact h.drains_le tail hmem
    · obtain rfl := Option.some.inj (List.mem_singleton.1 hmem)
      exact Nat.le_refl _
  · refine h.same rfl rfl rfl rfl fun other hmem => ?_
    rcases List.mem_or_eq_of_mem_set hmem with hmem | heq
    · exact h.drains_le other hmem
    · rw [awaited] at heq
      split at heq
      · cases heq
      · obtain rfl := Option.some.inj heq
        exact Nat.le_refl _

theorem Inv.of_run (h : Run Step (new limit) events queue) : Inv limit events queue := by
  induction h with
  | start => exact .initial limit
  | snoc _ hlast ih => exact ih.step hlast

/-! ## Orderly service -/

/-- A microtask: no step of other code and no settlement of an operation. -/
def isReaction : QueueEvent → Bool
  | .start _ | .release _ | .deliver _ | .swallow _ | .wake .. => true
  | _ => false

/-- No microtask is left. -/
def Quiet (queue : BoundedSerialQueue) : Prop :=
  ∀ event, isReaction event = true → queue.next event = none

/-- What a run promises. -/
structure Orderly (events : List QueueEvent) (queue : BoundedSerialQueue) : Prop where
  /-- The accepted operations are called in their order, each at most once. -/
  in_order : events.filterMap started = List.range (queue.operations.countP Phase.isStarted)
  /-- None is called before the one before it has settled. -/
  one_at_a_time : ∀ i queue', Step queue (.start (i + 1)) queue' →
    ∃ outcome, .settle i outcome ∈ events
  /-- `pending` counts the operations that the queue has not seen settle. -/
  pending_eq : queue.pending = queue.operations.countP Phase.isUnsettled
  /-- These are at least the operations whose `result` has not settled, and at most those whose
  returned promise has not settled. -/
  pending_between : queue.operations.countP (fun phase => phase.result.isNone) ≤ queue.pending ∧
    queue.pending ≤ queue.operations.countP fun phase => phase.settled.isNone
  /-- Between two tasks all three are equal. -/
  pending_quiet : Quiet queue →
    queue.pending = queue.operations.countP (fun phase => phase.result.isNone) ∧
    queue.pending = queue.operations.countP fun phase => phase.settled.isNone
  /-- A normal call that is accepted stays within the limit. -/
  within_limit : ∀ queue', Step queue (.enqueue false .accepted) queue' →
    queue'.pending ≤ queue'.limit
  /-- `onOverflow` is called exactly for a normal call while the queue is open and full. -/
  overflow_iff : ∀ force response queue', Step queue (.enqueue force response) queue' →
    (response = .overflow ↔ force = false ∧ queue.closed = false ∧
      queue.limit ≤ queue.operations.countP Phase.isUnsettled)
  /-- When a call of `drain` resolves, every accepted operation has settled. -/
  drained : ∀ call queue', Step queue (.wake call true) queue' →
    ∀ phase ∈ queue.operations, phase.result.isSome = true ∧ phase.settled.isSome = true
  /-- No operation is lost: when no microtask is left, one operation runs, with every earlier one
  done and every later one waiting, or all are done and every call of `drain` has resolved. -/
  no_loss : Quiet queue → (∃ i : ℕ, queue.operations[i]? = some .running ∧
      (∀ j < i, ∃ outcome, queue.operations[j]? = some (.done outcome)) ∧
      ∀ j phase, i < j → queue.operations[j]? = some phase → phase = .queued) ∨
    (∀ phase ∈ queue.operations, phase.isDone = true) ∧
      ∀ tail ∈ queue.drains, tail = none
  /-- The operations make at most five steps each. -/
  finite : events.countP isMove ≤ 5 * queue.operations.length

/-- When no microtask is left, the first operation that is not done is running. -/
theorem running_of_quiet (hquiet : Quiet queue)
    (hfirst : ∀ j < i, ∃ outcome, queue.operations[j]? = some (.done outcome)) {phase : Phase}
    (hphase : queue.operations[i]? = some phase) (hopen : phase.isDone = false) :
    phase = .running := by
  have hfree : tailFulfilled queue.operations i = true := by
    cases i with
    | zero => rfl
    | succ i => exact tailFulfilled_succ_iff.2 (hfirst i (Nat.lt_succ_self i))
  cases phase with
  | queued =>
    have hnone := hquiet (.start i) rfl
    simp only [next, hphase, hfree, and_self, if_true] at hnone
    cases hnone
  | running => rfl
  | ended outcome =>
    have hnone := hquiet (.release i) rfl
    simp only [next, hphase] at hnone
    cases hnone
  | released outcome =>
    have hnone := hquiet (.deliver i) rfl
    simp only [next, hphase] at hnone
    cases hnone
  | returned outcome =>
    have hnone := hquiet (.swallow i) rfl
    simp only [next, hphase] at hnone
    cases hnone
  | done outcome => cases hopen

theorem Inv.no_loss (h : Inv limit events queue) (hquiet : Quiet queue) :
    (∃ i : ℕ, queue.operations[i]? = some .running ∧
      (∀ j < i, ∃ outcome, queue.operations[j]? = some (.done outcome)) ∧
      ∀ j phase, i < j → queue.operations[j]? = some phase → phase = .queued) ∨
    (∀ phase ∈ queue.operations, phase.isDone = true) ∧ ∀ tail ∈ queue.drains, tail = none := by
  by_cases hall : ∃ (i : ℕ) (phase : Phase),
      queue.operations[i]? = some phase ∧ phase.isDone = false
  · obtain ⟨phase, hphase, hopen⟩ := Nat.find_spec hall
    have hfirst : ∀ j < Nat.find hall, ∃ outcome, queue.operations[j]? = some (.done outcome) := by
      intro j hj
      have hlt := (List.getElem?_eq_some_iff.1 hphase).1
      have hget := List.getElem?_eq_getElem (show j < queue.operations.length by omega)
      have hnot := Nat.find_min hall hj
      cases hcase : queue.operations[j] with
      | done outcome => exact ⟨outcome, by rw [hget, hcase]⟩
      | _ => exact absurd ⟨_, hget.trans (congrArg some hcase), rfl⟩ hnot
    obtain rfl := running_of_quiet hquiet hfirst hphase hopen
    refine Or.inl ⟨Nat.find hall, hphase, hfirst, fun j later hj hlater => ?_⟩
    by_contra hne
    obtain ⟨outcome, hdone⟩ := h.serial.done_of_lt hlater hne hj
    rw [hphase] at hdone
    cases hdone
  · have hdone : ∀ phase ∈ queue.operations, phase.isDone = true := by
      intro phase hmem
      obtain ⟨i, hi⟩ := List.mem_iff_getElem?.1 hmem
      by_contra hopen
      exact hall ⟨i, phase, hi, Bool.not_eq_true _ ▸ hopen⟩
    refine Or.inr ⟨hdone, fun tail hmem => ?_⟩
    cases tail with
    | none => rfl
    | some tail =>
      obtain ⟨call, hcall⟩ := List.mem_iff_getElem?.1 hmem
      have hle := h.drains_le tail hmem
      have hfulfilled : tailFulfilled queue.operations tail = true := by
        cases tail with
        | zero => rfl
        | succ i =>
          rw [tailFulfilled, List.getElem?_eq_getElem hle]
          exact hdone _ (List.getElem_mem hle)
      have hnone := hquiet (.wake call (decide (tail = queue.operations.length))) rfl
      simp only [next, hcall, hfulfilled, and_self, if_true] at hnone
      cases hnone

/-- A run of the queue is orderly. -/
theorem orderly_of_run (h : Run Step (new limit) events queue) : Orderly events queue := by
  have hinv := Inv.of_run h
  -- the pending count lies between what has no result and what has no settled future
  have hbetween : queue.operations.countP (fun phase => phase.result.isNone) ≤
      queue.operations.countP Phase.isUnsettled ∧ queue.operations.countP Phase.isUnsettled ≤
        queue.operations.countP fun phase => phase.settled.isNone := by
    constructor <;> refine List.countP_mono_left fun phase _ hphase => ?_
    · cases phase <;> first | rfl | cases hphase
    · cases phase <;> first | rfl | cases hphase
  refine ⟨hinv.started_eq, ?_, hinv.pending_eq, ?_, ?_, ?_, ?_, ?_, hinv.no_loss, ?_⟩
  · intro i queue' hstep
    simp only [Step, next, Option.ite_none_right_eq_some] at hstep
    obtain ⟨outcome, hdone⟩ := tailFulfilled_succ_iff.1 hstep.1.2
    exact ⟨outcome, hinv.settle_mem i _ outcome hdone rfl⟩
  · rw [hinv.pending_eq]
    exact ⟨by exact_mod_cast hbetween.1, by exact_mod_cast hbetween.2⟩
  · intro hquiet
    -- at rest the three counts are of the same operations
    have hkinds : ∀ phase ∈ queue.operations,
        phase.result.isNone = phase.isUnsettled ∧ phase.settled.isNone = phase.isUnsettled := by
      intro phase hmem
      obtain ⟨i, hi⟩ := List.mem_iff_getElem?.1 hmem
      rcases hinv.no_loss hquiet with ⟨k, hk, hbefore, hafter⟩ | ⟨hdone, -⟩
      · rcases Nat.lt_trichotomy i k with hlt | rfl | hgt
        · obtain ⟨outcome, hdone⟩ := hbefore i hlt
          obtain rfl := Option.some.inj (hi.symm.trans hdone)
          exact ⟨rfl, rfl⟩
        · obtain rfl := Option.some.inj (hi.symm.trans hk)
          exact ⟨rfl, rfl⟩
        · obtain rfl := hafter i phase hgt hi
          exact ⟨rfl, rfl⟩
      · have hdone := hdone phase hmem
        cases phase <;> first | exact ⟨rfl, rfl⟩ | cases hdone
    rw [hinv.pending_eq]
    constructor <;> refine congrArg _ (List.countP_congr fun phase hmem => ?_)
    · rw [(hkinds phase hmem).1]
    · rw [(hkinds phase hmem).2]
  · intro queue' hstep
    simp only [Step, next, Option.ite_none_right_eq_some, Option.some.injEq] at hstep
    -- without force an operation is let in only where the limit leaves room
    rcases enqueue_cases (Prod.ext hstep.2 hstep.1) with ⟨-, hopen, rfl⟩ | ⟨h, -⟩ | ⟨h, -⟩
    · have := (hopen rfl).2
      exact Int.add_one_le_of_lt this
    · cases h
    · cases h
  · intro force response queue' hstep
    have hpending := hinv.pending_eq
    simp only [Step, next, Option.ite_none_right_eq_some, Option.some.injEq] at hstep
    rcases enqueue_cases (Prod.ext hstep.2 hstep.1) with ⟨rfl, hopen, -⟩ |
      ⟨rfl, ⟨hforce, hopen, hfull⟩, -⟩ | ⟨rfl, ⟨hforce, hclosed⟩, -⟩
    · refine ⟨fun h => (by cases h), fun ⟨hforce, _, hfull⟩ => ?_⟩
      have := (hopen hforce).2
      omega
    · exact ⟨fun _ => ⟨hforce, hopen, by omega⟩, fun _ => rfl⟩
    · refine ⟨fun h => (by cases h), fun ⟨_, hopen, _⟩ => ?_⟩
      rw [hclosed] at hopen
      cases hopen
  · intro call queue' hstep phase hmem
    simp only [Step, next] at hstep
    split at hstep
    · rename_i tail htail
      simp only [Option.ite_none_right_eq_some, true_eq_decide_iff] at hstep
      obtain ⟨⟨hfulfilled, rfl⟩, -⟩ := hstep
      obtain ⟨i, hi⟩ := List.mem_iff_getElem?.1 hmem
      have hlt := (List.getElem?_eq_some_iff.1 hi).1
      obtain ⟨n, hn⟩ : ∃ n, queue.operations.length = n + 1 :=
        ⟨queue.operations.length - 1, by omega⟩
      rw [hn] at hfulfilled
      -- the last one is done, and the operations are done in their order
      obtain ⟨outcome, hlast⟩ := tailFulfilled_succ_iff.1 hfulfilled
      have hdone : ∃ outcome, queue.operations[i]? = some (.done outcome) := by
        rcases Nat.lt_or_eq_of_le (show i ≤ n by omega) with hlt | rfl
        · exact hinv.serial.done_of_lt hlast (by simp) hlt
        · exact ⟨outcome, hlast⟩
      obtain ⟨outcome, hdone⟩ := hdone
      obtain rfl := Option.some.inj (hi.symm.trans hdone)
      exact ⟨rfl, rfl⟩
    · cases hstep
  · rw [hinv.moves_eq]
    refine (List.sum_le_card_nsmul _ 5 fun rank hmem => ?_).trans (Nat.le_of_eq ?_)
    · obtain ⟨phase, _, rfl⟩ := List.mem_map.1 hmem
      cases phase <;> simp [Phase.rank]
    · rw [List.length_map, nsmul_eq_mul, Nat.cast_id, Nat.mul_comm]

/-- A queue of one: the second call overflows, a forced one runs after the first has rejected, and
a call of `drain` awaits both. -/
theorem orderly_after_rejection : ∃ queue, Orderly
    [.enqueue false .accepted, .start 0, .enqueue false .overflow, .enqueue true .accepted, .drain,
      .settle 0 .rejected, .release 0, .deliver 0, .swallow 0, .start 1, .settle 1 .fulfilled,
      .release 1, .deliver 1, .swallow 1, .wake 0 true] queue :=
  ⟨_, orderly_of_run (@Run.of_foldlM _ _ next (new 1) _ _ rfl)⟩

end BoundedSerialQueue

end TrueFamily.Probe
