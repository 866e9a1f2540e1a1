import Mathlib.Data.List.Basic
import Mathlib.Data.List.Count
import Mathlib.Data.List.Induction

/-!
# Runs with a trace of events

`Run step start events last` is a run of a labelled transition relation with the events that
happened, oldest first. `Run.countP_le_one` is the rule for events that happen at most once: the
event needs a state in which something is not done yet and leaves one in which it is done, and
what is done stays done.
-/

namespace Trace

variable {σ ε : Type}

/-- A run from `start` to `last`, with its events. -/
inductive Run (step : σ → ε → σ → Prop) (start : σ) : List ε → σ → Prop
  | start : Run step start [] start
  | snoc {events : List ε} {s s' : σ} {event : ε} : Run step start events s → step s event s' →
      Run step start (events ++ [event]) s'

variable {step : σ → ε → σ → Prop} {start last : σ} {events : List ε}

/-- An invariant of the steps holds along a run. -/
theorem Run.invariant {I : σ → Prop} (h : Run step start events last) (hstart : I start)
    (hstep : ∀ s event s', I s → step s event s' → I s') : I last := by
  induction h with
  | start => exact hstart
  | snoc _ hlast ih => exact hstep _ _ _ ih hlast

/-- The steps of a partial function are runs. -/
theorem Run.of_foldlM {next : σ → ε → Option σ} {start last : σ} {events : List ε}
    (h : events.foldlM next start = some last) :
    Run (fun s event s' => next s event = some s') start events last := by
  induction events using List.reverseRecOn generalizing last with
  | nil =>
    cases h
    exact .start
  | append_singleton events event ih =>
    rw [List.foldlM_append] at h
    obtain ⟨s, hs, hlast⟩ := Option.bind_eq_some_iff.1 h
    refine .snoc (ih hs) ?_
    simpa using hlast

/-- An event that needs something undone, and does it for good, happens at most once. -/
theorem Run.countP_le_one (I done : σ → Prop) {fires : ε → Bool} (h : Run step start events last)
    (hstart : I start) (hstep : ∀ s event s', I s → step s event s' → I s')
    (hfires : ∀ s event s', I s → step s event s' → fires event = true → ¬ done s ∧ done s')
    (hdone : ∀ s event s', I s → step s event s' → done s → done s') :
    events.countP fires ≤ 1 := by
  have key : events.countP fires ≤ 1 ∧ (¬ done last → events.countP fires = 0) := by
    induction h with
    | start => exact ⟨Nat.zero_le 1, fun _ => rfl⟩
    | @snoc events s s' event hrun hlast ih =>
      have hinv := hrun.invariant hstart hstep
      obtain ⟨hone, hzero⟩ := ih
      rw [List.countP_append, List.countP_singleton]
      by_cases hfire : fires event = true
      · obtain ⟨hundone, hdid⟩ := hfires s event s' hinv hlast hfire
        rw [hzero hundone, if_pos hfire]
        exact ⟨Nat.le_refl 1, fun hnot => absurd hdid hnot⟩
      · rw [if_neg hfire]
        exact ⟨hone, fun hnot => hzero fun hold => hnot (hdone s event s' hinv hlast hold)⟩
  exact key.1

end Trace
