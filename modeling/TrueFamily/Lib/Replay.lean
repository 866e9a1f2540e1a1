import Mathlib.Data.List.Basic
import Mathlib.Logic.Function.Basic

/-!
# Replaying conditional effects

A log of effects, each of which found one value under a key and left another there. `replay`
applies a log to a store and fails where an effect does not find its preimage. Effects of
different keys do not meet, so a log replays exactly when the effects of each key are `Chained`
from the value that the store has there (`replay_eq_some_iff`).
-/

namespace Replay

variable {κ ν : Type}

/-- An effect on the value under a key. -/
structure Effect (κ ν : Type) where
  key : κ
  before : ν
  after : ν

/-- What a store has under each key. -/
abbrev Store (κ ν : Type) := κ → Option ν

/-- The effects follow one another from the value `v` to the value `w`. -/
def Chained : Option ν → List (Effect κ ν) → Option ν → Prop
  | v, [], w => v = w
  | v, effect :: effects, w => v = some effect.before ∧ Chained (some effect.after) effects w

@[simp] theorem chained_nil {v w : Option ν} :
    Chained v ([] : List (Effect κ ν)) w ↔ v = w := Iff.rfl

@[simp] theorem chained_cons {v w : Option ν} {effect : Effect κ ν}
    {effects : List (Effect κ ν)} : Chained v (effect :: effects) w ↔
      v = some effect.before ∧ Chained (some effect.after) effects w := Iff.rfl

variable [DecidableEq κ] [DecidableEq ν]

/-- Apply the effects in order; each has to find its preimage. -/
def replay (store : Store κ ν) : List (Effect κ ν) → Option (Store κ ν)
  | [] => some store
  | effect :: effects =>
    if store effect.key = some effect.before then
      replay (Function.update store effect.key (some effect.after)) effects
    else none

theorem replay_append (store : Store κ ν) (first second : List (Effect κ ν)) :
    replay store (first ++ second) = (replay store first).bind fun next => replay next second := by
  induction first generalizing store with
  | nil => rfl
  | cons effect effects ih =>
    rw [List.cons_append, replay, replay]
    split
    · exact ih _
    · rfl

/-- A log replays exactly when the effects of each key follow one another. -/
theorem replay_eq_some_iff {store final : Store κ ν} {effects : List (Effect κ ν)} :
    replay store effects = some final ↔ ∀ key,
      Chained (store key) (effects.filter fun effect => decide (effect.key = key)) (final key) := by
  induction effects generalizing store with
  | nil =>
    rw [replay, Option.some.injEq]
    exact ⟨fun h key => by rw [h]; rfl, fun h => funext h⟩
  | cons effect effects ih =>
    rw [replay]
    constructor
    · intro h key
      split at h
      · rename_i hbefore
        have hkey := ih.1 h key
        by_cases heq : effect.key = key
        · subst heq
          rw [Function.update_self] at hkey
          rw [List.filter_cons_of_pos (by simp)]
          exact ⟨hbefore, hkey⟩
        · rw [Function.update_of_ne (Ne.symm heq)] at hkey
          rw [List.filter_cons_of_neg (by simpa using heq)]
          exact hkey
      · cases h
    · intro h
      have hself := h effect.key
      rw [List.filter_cons_of_pos (by simp)] at hself
      rw [if_pos hself.1, ih]
      intro key
      by_cases heq : effect.key = key
      · subst heq
        rw [Function.update_self]
        exact hself.2
      · have hkey := h key
        rw [List.filter_cons_of_neg (by simpa using heq)] at hkey
        rw [Function.update_of_ne (Ne.symm heq)]
        exact hkey

/-- A log replays when the effects of each key follow one another to some value. -/
theorem exists_replay {store : Store κ ν} {effects : List (Effect κ ν)}
    (h : ∀ key, ∃ w, Chained (store key)
      (effects.filter fun effect => decide (effect.key = key)) w) :
    ∃ final, replay store effects = some final := by
  choose final hfinal using h
  exact ⟨final, replay_eq_some_iff.2 hfinal⟩

end Replay
