import TrueFamily.Runtime.Sessions

/-!
# Replacement sessions end once

An ended session keeps its phase, and the active session is the one that has not ended, as long as
two things do not happen (`Calm`). An unsafe bridge state is reported while a task waits for the
close barrier of an announced device, of an interviewed device or of a cancellation: the task then
overwrites the phase. An open state that is attributed to nobody is reported while the active
session no longer owns joining: the callback takes it as attributed.
-/

namespace TrueFamily.Runtime

open JsonValue
open TrueFamily.Mqtt (BridgePermitState)

/-- What a purpose needs of its session while the barrier runs. -/
def Purpose.Allows (session : Session) : Purpose → Prop
  | .announced | .interviewed =>
    (session.phase = .awaitingPairing ∨ session.phase = .interviewing) ∧ session.hasCandidate = true
  | .cancel => session.phase.isTerminal = false ∧ session.phase ≠ .testing
  | .openFailed | .openUnsafe | .fail => session.phase.isTerminal = false ∨ session.phase = .failed

/-- The phases that follow a closed join. -/
def ReplacementPhase.isClosed : ReplacementPhase → Bool
  | .verifying | .readyToCommit | .testing => true
  | _ => false

namespace Lifecycle

variable {runtime next : Lifecycle} {sessionId : Text} {session : Session}

/-! ## The invariant -/

/-- The active session is the one that has not ended, and a binding is tested for a session that is
in its test or has failed. -/
structure Core (runtime : Lifecycle) : Prop where
  active : ∀ sessionId session, runtime.sessions.get? sessionId = some session →
    (session.phase.isTerminal = false ↔ runtime.activeSessionId = some sessionId)
  known : ∀ sessionId, runtime.activeSessionId = some sessionId →
    ∃ session, runtime.sessions.get? sessionId = some session
  tested : ∀ sessionId ∈ runtime.operations, ∃ session,
    runtime.sessions.get? sessionId = some session
      ∧ (session.phase = .testing ∨ session.phase = .failed)
  nodup : runtime.operations.Nodup
  candidate : ∀ sessionId session, runtime.sessions.get? sessionId = some session →
    session.phase.isClosed = true → session.hasCandidate = true

/-- A session stays, and an ended one keeps its phase. -/
def Persists (runtime next : Lifecycle) : Prop :=
  ∀ sessionId session, runtime.sessions.get? sessionId = some session →
    ∃ later, next.sessions.get? sessionId = some later
      ∧ (session.phase.isTerminal = true → later.phase = session.phase)

/-- What the holder of the mutation lock relies on. -/
def Waits (runtime : Lifecycle) : Await → Prop
  | .remedy (.start sessionId) => runtime.sessions.get? sessionId = none
  | .remedy _ => True
  | .opening sessionId => ∃ session, runtime.sessions.get? sessionId = some session
      ∧ (session.phase.isTerminal = false ∨ session.phase = .failed)
  | .closing sessionId purpose => ∃ session, runtime.sessions.get? sessionId = some session
      ∧ purpose.Allows session

structure Good (runtime : Lifecycle) : Prop extends Core runtime where
  waits : ∀ await, runtime.holder = some await → runtime.Waits await

theorem Persists.refl (runtime : Lifecycle) : Persists runtime runtime :=
  fun _ session hget => ⟨session, hget, fun _ => rfl⟩

theorem Persists.trans {middle : Lifecycle} (h : Persists runtime middle)
    (h' : Persists middle next) : Persists runtime next := by
  intro sessionId session hget
  obtain ⟨later, hlater, hphase⟩ := h sessionId session hget
  obtain ⟨last, hlast, hphase'⟩ := h' sessionId later hlater
  refine ⟨last, hlast, fun hterminal => ?_⟩
  have hsame := hphase hterminal
  rw [hphase' (by rw [hsame]; exact hterminal), hsame]

/-! ## Updates of one session -/

/-- A session that moves on without ending, or keeps its phase. -/
theorem Core.put (h : Core runtime) (hget : runtime.sessions.get? sessionId = some session)
    {later : Session} (hphase : later.phase = session.phase
      ∨ (session.phase.isTerminal = false ∧ later.phase.isTerminal = false))
    (htested : sessionId ∈ runtime.operations → later.phase = .testing ∨ later.phase = .failed)
    (hcandidate : later.phase.isClosed = true → later.hasCandidate = true) :
    Core (runtime.putSession sessionId later)
      ∧ Persists runtime (runtime.putSession sessionId later) := by
  -- whether the session has ended does not change
  have hends : later.phase.isTerminal = session.phase.isTerminal := by
    rcases hphase with hsame | ⟨hold, hnew⟩
    · rw [hsame]
    · rw [hold, hnew]
  have hset : ∀ other, (runtime.putSession sessionId later).sessions.get? other
      = if other = sessionId then some later else runtime.sessions.get? other := fun other =>
    Dict.get?_set _ _ _ _
  refine ⟨⟨fun other found hfound => ?_, fun other hactive => ?_, fun other hmem => ?_, h.nodup,
    fun other found hfound hclosed => ?_⟩, fun other found hfound => ?_⟩
  · rw [hset] at hfound
    split at hfound
    · rename_i heq
      cases hfound
      rw [heq, hends]
      exact h.active sessionId session hget
    · exact h.active other found hfound
  · rw [hset]
    split
    · exact ⟨later, rfl⟩
    · exact h.known other hactive
  · rw [hset]
    split
    · rename_i heq
      exact ⟨later, rfl, htested (heq ▸ hmem)⟩
    · exact h.tested other hmem
  · rw [hset] at hfound
    split at hfound
    · cases hfound
      exact hcandidate hclosed
    · exact h.candidate other found hfound hclosed
  · rw [hset]
    split
    · rename_i heq
      rw [heq, hget, Option.some.injEq] at hfound
      subst hfound
      refine ⟨later, rfl, fun hterminal => ?_⟩
      rcases hphase with hsame | ⟨hold, -⟩
      · exact hsame
      · rw [hterminal] at hold
        cases hold
    · exact ⟨found, hfound, fun _ => rfl⟩

/-- A session that ends, or has ended in the same phase. -/
theorem Core.setTerminal (h : Core runtime)
    (hget : runtime.sessions.get? sessionId = some session) {phase : ReplacementPhase}
    (hphase : session.phase.isTerminal = false ∨ session.phase = phase)
    (hterminal : phase.isTerminal = true)
    (htested : sessionId ∈ runtime.operations → phase = .failed) :
    Core (runtime.setTerminal sessionId session phase)
      ∧ Persists runtime (runtime.setTerminal sessionId session phase) := by
  have hset : ∀ other, (runtime.setTerminal sessionId session phase).sessions.get? other
      = if other = sessionId then some { session with phase := phase }
        else runtime.sessions.get? other := fun other => Dict.get?_set _ _ _ _
  -- a session that ends is not the active one any more
  have hactive : ∀ other, (runtime.setTerminal sessionId session phase).activeSessionId = some other
      ↔ runtime.activeSessionId = some other ∧ other ≠ sessionId := by
    intro other
    show (if runtime.activeSessionId = some sessionId then none else runtime.activeSessionId)
      = some other ↔ _
    split
    · rename_i heq
      rw [heq, Option.some.injEq]
      constructor
      · intro hbad
        cases hbad
      · rintro ⟨heq', hne⟩
        exact absurd heq'.symm hne
    · rename_i hne
      refine ⟨fun hother => ⟨hother, fun heq => hne (heq ▸ hother)⟩, fun hother => hother.1⟩
  refine ⟨⟨fun other found hfound => ?_, fun other hother => ?_, fun other hmem => ?_, h.nodup,
    fun other found hfound hclosed => ?_⟩, fun other found hfound => ?_⟩
  · rw [hactive]
    rw [hset] at hfound
    split at hfound
    · rename_i heq
      cases hfound
      rw [heq]
      show phase.isTerminal = false ↔ _
      rw [hterminal]
      exact ⟨fun hbad => (by cases hbad), fun hbad => absurd rfl hbad.2⟩
    · rename_i hne
      rw [h.active other found hfound]
      exact ⟨fun hother => ⟨hother, hne⟩, fun hother => hother.1⟩
  · obtain ⟨hother, hne⟩ := (hactive other).1 hother
    rw [hset, if_neg hne]
    exact h.known other hother
  · rw [hset]
    split
    · rename_i heq
      exact ⟨_, rfl, Or.inr (htested (heq ▸ hmem))⟩
    · exact h.tested other hmem
  · rw [hset] at hfound
    split at hfound
    · cases hfound
      exact absurd hclosed (by
        show ¬ phase.isClosed = true
        cases phase <;> simp_all [ReplacementPhase.isClosed, ReplacementPhase.isTerminal])
    · exact h.candidate other found hfound hclosed
  · rw [hset]
    split
    · rename_i heq
      rw [heq, hget, Option.some.injEq] at hfound
      subst hfound
      refine ⟨_, rfl, fun hended => ?_⟩
      rcases hphase with hlive | hsame
      · rw [hended] at hlive
        cases hlive
      · exact hsame.symm
    · exact ⟨found, hfound, fun _ => rfl⟩

theorem get?_closeSessions (sessions : Dict Text Session) (sessionId : Text) :
    (closeSessions sessions).get? sessionId
      = (sessions.get? sessionId).map fun session => { session with joinClosed := true } := by
  refine Option.ext fun found => ?_
  rw [Dict.get?_eq_some_iff, Option.map_eq_some_iff, closeSessions]
  simp only [List.mem_map, Prod.mk.injEq, Dict.get?_eq_some_iff]
  constructor
  · rintro ⟨⟨other, session⟩, hmem, rfl, rfl⟩
    exact ⟨session, hmem, rfl⟩
  · rintro ⟨session, hmem, rfl⟩
    exact ⟨(sessionId, session), hmem, rfl, rfl⟩

/-- A proof of closed joining changes no phase. -/
theorem Core.markGlobalJoinClosed (h : Core runtime) :
    Core runtime.markGlobalJoinClosed ∧ Persists runtime runtime.markGlobalJoinClosed := by
  have hget : ∀ sessionId, runtime.markGlobalJoinClosed.sessions.get? sessionId
      = (runtime.sessions.get? sessionId).map fun session => { session with joinClosed := true } :=
    get?_closeSessions runtime.sessions
  refine ⟨⟨fun sessionId session hsome => ?_, fun sessionId hactive => ?_, fun sessionId hmem => ?_,
    h.nodup, fun sessionId session hsome hclosed => ?_⟩, fun sessionId session hsome => ?_⟩
  · rw [hget, Option.map_eq_some_iff] at hsome
    obtain ⟨old, hold, rfl⟩ := hsome
    exact h.active sessionId old hold
  · obtain ⟨session, hsome⟩ := h.known sessionId hactive
    rw [hget, hsome]
    exact ⟨_, rfl⟩
  · obtain ⟨session, hsome, hphase⟩ := h.tested sessionId hmem
    rw [hget, hsome]
    exact ⟨_, rfl, hphase⟩
  · rw [hget, Option.map_eq_some_iff] at hsome
    obtain ⟨old, hold, rfl⟩ := hsome
    exact h.candidate sessionId old hold hclosed
  · rw [hget, hsome]
    exact ⟨_, rfl, fun _ => rfl⟩

/-! ## Waiting for the client -/

/-- From a state in which nobody holds the mutation lock to a good one. -/
structure Sound (runtime next : Lifecycle) : Prop where
  good : Good next
  persists : Persists runtime next

theorem Sound.of_core (hfree : runtime.holder = none) (hholder : next.holder = runtime.holder)
    (h : Core next ∧ Persists runtime next) : Sound runtime next :=
  ⟨⟨h.1, fun await hawait => by rw [hholder, hfree] at hawait; cases hawait⟩, h.2⟩

theorem Core.sound_refl (h : Core runtime) (hfree : runtime.holder = none) :
    Sound runtime runtime := .of_core hfree rfl ⟨h, .refl runtime⟩

/-- Waiting for what the next step relies on. -/
theorem Core.wait (h : Core runtime) {await : Await} (hwaits : runtime.Waits await) :
    Sound runtime (runtime.wait await) := by
  refine ⟨⟨⟨h.active, h.known, h.tested, h.nodup, h.candidate⟩, fun other hother => ?_⟩,
    fun _ session hget => ⟨session, hget, fun _ => rfl⟩⟩
  cases hother
  cases await with
  | remedy operation => cases operation <;> exact hwaits
  | opening sessionId => exact hwaits
  | closing sessionId purpose => exact hwaits

/-- A session in test or failed is the only kind that is tested. -/
theorem Core.not_tested (h : Core runtime) (hget : runtime.sessions.get? sessionId = some session)
    (htesting : session.phase ≠ .testing) (hfailed : session.phase ≠ .failed) :
    sessionId ∉ runtime.operations := by
  intro hmem
  obtain ⟨found, hfound, hphase⟩ := h.tested sessionId hmem
  rw [hget, Option.some.injEq] at hfound
  subst hfound
  rcases hphase with hphase | hphase
  · exact htesting hphase
  · exact hfailed hphase

theorem Core.finishClose (h : Core runtime) (hfree : runtime.holder = none)
    (hget : runtime.sessions.get? sessionId = some session) {purpose : Purpose} {closed : Bool}
    (hallows : purpose.Allows session) :
    Sound runtime (runtime.finishClose sessionId session closed purpose) := by
  have hpairing : session.phase = .awaitingPairing ∨ session.phase = .interviewing →
      session.phase.isTerminal = false ∧ sessionId ∉ runtime.operations := by
    rintro (hphase | hphase)
    · exact ⟨by rw [hphase]; rfl, h.not_tested hget (by rw [hphase]; simp) (by rw [hphase]; simp)⟩
    · exact ⟨by rw [hphase]; rfl, h.not_tested hget (by rw [hphase]; simp) (by rw [hphase]; simp)⟩
  cases purpose with
  | openFailed => exact .of_core hfree rfl (h.setTerminal hget hallows rfl fun _ => rfl)
  | openUnsafe =>
    simp only [Lifecycle.finishClose]
    split
    · exact h.sound_refl hfree
    · exact .of_core hfree rfl (h.setTerminal hget hallows rfl fun _ => rfl)
  | fail => exact .of_core hfree rfl (h.setTerminal hget hallows rfl fun _ => rfl)
  | cancel =>
    obtain ⟨hlive, htesting⟩ := hallows
    have hnot := h.not_tested hget htesting fun hbad => by rw [hbad] at hlive; cases hlive
    simp only [Lifecycle.finishClose]
    split
    · exact .of_core hfree rfl (h.setTerminal hget (Or.inl hlive) rfl fun _ => rfl)
    · exact .of_core hfree rfl (h.setTerminal hget (Or.inl hlive) rfl fun hmem => absurd hmem hnot)
  | announced =>
    obtain ⟨hphase, hcandidate⟩ := hallows
    obtain ⟨hlive, hnot⟩ := hpairing hphase
    exact .of_core hfree rfl (h.put hget (Or.inr ⟨hlive, rfl⟩) (fun hmem => absurd hmem hnot)
      fun _ => hcandidate)
  | interviewed =>
    obtain ⟨hphase, hcandidate⟩ := hallows
    obtain ⟨hlive, hnot⟩ := hpairing hphase
    exact .of_core hfree rfl (h.put hget (Or.inr ⟨hlive, rfl⟩) (fun hmem => absurd hmem hnot)
      fun _ => hcandidate)

theorem Core.attemptClose (h : Core runtime) (hfree : runtime.holder = none)
    (hget : runtime.sessions.get? sessionId = some session) {purpose : Purpose} {baseline : Bool}
    (hallows : purpose.Allows session) :
    Sound runtime (runtime.attemptClose sessionId session baseline purpose) := by
  unfold Lifecycle.attemptClose
  split
  · exact h.finishClose hfree hget hallows
  · split
    · exact h.finishClose hfree hget hallows
    · exact h.wait ⟨session, hget, hallows⟩

theorem Core.closeConfirmed (h : Core runtime) (hfree : runtime.holder = none)
    (hget : runtime.sessions.get? sessionId = some session) {purpose : Purpose} {baseline : Bool}
    (hallows : purpose.Allows session) :
    Sound runtime (runtime.closeConfirmed sessionId session baseline purpose) := by
  unfold Lifecycle.closeConfirmed
  split
  · exact h.finishClose hfree hget hallows
  · exact h.wait ⟨session, hget, hallows⟩

/-! ## Operations -/

theorem activeSession_eq_some :
    runtime.activeSession = some (sessionId, session) ↔
      runtime.activeSessionId = some sessionId
        ∧ runtime.sessions.get? sessionId = some session := by
  unfold activeSession
  constructor
  · intro hfound
    obtain ⟨found, hactive, hfound⟩ := Option.bind_eq_some_iff.1 hfound
    obtain ⟨other, hget, heq⟩ := Option.map_eq_some_iff.1 hfound
    cases heq
    exact ⟨hactive, hget⟩
  · rintro ⟨hactive, hget⟩
    rw [hactive, Option.bind_some, hget, Option.map_some]

theorem activeSessionId_eq_none (h : Core runtime) (hnone : runtime.activeSession = none) :
    runtime.activeSessionId = none := by
  cases hactive : runtime.activeSessionId with
  | none => rfl
  | some sessionId =>
    obtain ⟨session, hget⟩ := h.known sessionId hactive
    rw [activeSession_eq_some.2 ⟨hactive, hget⟩] at hnone
    cases hnone

/-- A new session, when no other one is active. -/
theorem Core.start (h : Core runtime) {baseline : Bool}
    (hfresh : runtime.sessions.get? sessionId = none)
    (hstart : runtime.start sessionId baseline = some next) : Sound runtime next := by
  unfold Lifecycle.start at hstart
  split at hstart
  · cases hstart
  rename_i hidle
  rw [not_or, not_not, not_not] at hidle
  obtain ⟨hnone, hoperations⟩ := hidle
  -- no session is active and no test runs, so the new session is the only live one
  have hactive := activeSessionId_eq_none h hnone
  split at hstart
  · cases hstart
  split at hstart
  · cases hstart
    exact h.wait hfresh
  · cases hstart
    have hset : ∀ other, (runtime.sessions.set sessionId
        (⟨.awaitingPairing, false, false, false⟩ : Session)).get? other
        = if other = sessionId then some ⟨.awaitingPairing, false, false, false⟩
          else runtime.sessions.get? other := fun other => Dict.get?_set _ _ _ _
    refine ⟨⟨⟨fun other found hfound => ?_, fun other hother => ?_, fun other hmem => ?_, h.nodup,
      fun other found hfound hclosed => ?_⟩, fun await hawait => ?_⟩, fun other found hfound => ?_⟩
    · have hfound : (runtime.sessions.set sessionId
          (⟨.awaitingPairing, false, false, false⟩ : Session)).get? other = some found := hfound
      show _ ↔ some sessionId = some other
      rw [hset] at hfound
      split at hfound
      · rename_i heq
        cases hfound
        rw [heq]
        exact ⟨fun _ => rfl, fun _ => rfl⟩
      · rename_i hne
        rw [h.active other found hfound, hactive, Option.some.injEq]
        exact ⟨fun hbad => (by cases hbad), fun heq => absurd heq.symm hne⟩
    · cases hother
      exact ⟨_, Dict.get?_set_self _ _ _⟩
    · have hmem : other ∈ runtime.operations := hmem
      rw [hoperations] at hmem
      cases hmem
    · have hfound : (runtime.sessions.set sessionId
          (⟨.awaitingPairing, false, false, false⟩ : Session)).get? other = some found := hfound
      rw [hset] at hfound
      split at hfound
      · cases hfound
        cases hclosed
      · exact h.candidate other found hfound hclosed
    · cases hawait
      exact ⟨_, Dict.get?_set_self _ _ _, Or.inl rfl⟩
    · have hne : other ≠ sessionId := fun heq => by
        rw [heq, hfresh] at hfound
        cases hfound
      refine ⟨found, ?_, fun _ => rfl⟩
      exact (hset other).trans (by rw [if_neg hne, hfound])

theorem Core.handleEvent (h : Core runtime) (hfree : runtime.holder = none) (verdict : Verdict)
    (baseline : Bool) : Sound runtime (runtime.handleEvent verdict baseline) := by
  unfold Lifecycle.handleEvent
  split
  · exact h.sound_refl hfree
  rename_i sessionId session hfound
  obtain ⟨hactive, hget⟩ := activeSession_eq_some.1 hfound
  have hlive : session.phase.isTerminal = false := (h.active sessionId session hget).2 hactive
  split
  · exact h.sound_refl hfree
  cases verdict with
  | ignore => exact h.sound_refl hfree
  | fail => exact h.attemptClose hfree hget (Or.inl hlive)
  | joined =>
    dsimp only
    split
    · exact h.sound_refl hfree
    · rename_i hcandidate
      refine .of_core hfree rfl (h.put hget (Or.inr ⟨hlive, rfl⟩) (fun hmem => ?_) fun _ => rfl)
      -- a session in test has a candidate
      refine absurd hmem (h.not_tested hget (fun htesting => hcandidate ?_) fun hfailed => ?_)
      · exact h.candidate sessionId session hget (by rw [htesting]; rfl)
      · rw [hfailed] at hlive
        cases hlive
  | announced =>
    dsimp only
    split
    · exact h.sound_refl hfree
    · rename_i hphase
      have hphase : session.phase = .awaitingPairing ∨ session.phase = .interviewing := by
        by_contra hneither
        exact hphase (not_or.1 hneither)
      have hnot : sessionId ∉ runtime.operations := by
        rcases hphase with hphase | hphase
        · exact h.not_tested hget (by rw [hphase]; simp) (by rw [hphase]; simp)
        · exact h.not_tested hget (by rw [hphase]; simp) (by rw [hphase]; simp)
      have hput : Core (runtime.putSession sessionId { session with hasCandidate := true })
          ∧ Persists runtime (runtime.putSession sessionId { session with hasCandidate := true }) :=
        h.put hget (Or.inl rfl) (fun hmem => absurd hmem hnot) fun _ => rfl
      have hallows : Purpose.announced.Allows { session with hasCandidate := true } := ⟨hphase, rfl⟩
      obtain ⟨hgood, hpersists⟩ :=
        hput.1.closeConfirmed hfree (Dict.get?_set_self _ _ _) hallows
      exact ⟨hgood, hput.2.trans hpersists⟩
  | interviewed =>
    dsimp only
    split
    · exact h.sound_refl hfree
    · rename_i hready
      rw [not_or, Bool.not_eq_false] at hready
      refine h.closeConfirmed hfree hget ⟨?_, hready.2⟩
      by_contra hneither
      exact hready.1 (not_or.1 hneither)

theorem Core.commit (h : Core runtime) (hfree : runtime.holder = none)
    (hcommit : runtime.commit sessionId = some next) : Sound runtime next := by
  unfold Lifecycle.commit at hcommit
  split at hcommit
  · cases hcommit
  rename_i session hget
  split at hcommit
  · cases hcommit
  rename_i hready
  rw [not_not] at hready
  cases hcommit
  have hnot : sessionId ∉ runtime.operations :=
    h.not_tested hget (by rw [hready]; simp) (by rw [hready]; simp)
  have hcandidate := h.candidate sessionId session hget (by rw [hready]; rfl)
  have hput : Core (runtime.putSession sessionId { session with phase := .testing })
      ∧ Persists runtime (runtime.putSession sessionId { session with phase := .testing }) :=
    h.put hget (Or.inr ⟨by rw [hready]; rfl, rfl⟩) (fun hmem => absurd hmem hnot)
      fun _ => hcandidate
  obtain ⟨hcore, hpersists⟩ := hput
  refine .of_core hfree rfl ⟨⟨hcore.active, hcore.known, fun other hmem => ?_, ?_, hcore.candidate⟩,
    hpersists⟩
  · rcases List.mem_append.1 hmem with hmem | hmem
    · exact hcore.tested other hmem
    · rw [List.mem_singleton.1 hmem]
      exact ⟨_, Dict.get?_set_self _ _ _, Or.inl rfl⟩
  · refine List.Nodup.append h.nodup (List.nodup_singleton _) fun other hmem hsingle => ?_
    rw [List.mem_singleton.1 hsingle] at hmem
    exact hnot hmem

theorem Core.cancel (h : Core runtime) (hfree : runtime.holder = none) {baseline : Bool}
    (hcancel : runtime.cancel sessionId baseline = some next) : Sound runtime next := by
  unfold Lifecycle.cancel at hcancel
  split at hcancel
  · cases hcancel
  rename_i session hget
  split at hcancel
  · cases hcancel
  rename_i hphase
  rw [not_or, Bool.not_eq_true] at hphase
  cases hcancel
  exact h.attemptClose hfree hget ⟨hphase.2, hphase.1⟩

/-- An operation that starts a session has a fresh ID. -/
def Fresh (runtime : Lifecycle) (operation : Operation) : Prop :=
  ∀ sessionId, operation = .start sessionId → runtime.sessions.get? sessionId = none

theorem Core.perform (h : Core runtime) (hfree : runtime.holder = none) {operation : Operation}
    {baseline : Bool} (hfresh : runtime.Fresh operation)
    (hperform : runtime.perform baseline operation = some next) : Sound runtime next := by
  cases operation with
  | start sessionId => exact h.start (hfresh sessionId rfl) hperform
  | event verdict =>
    cases hperform
    exact h.handleEvent hfree verdict baseline
  | commit sessionId => exact h.commit hfree hperform
  | cancel sessionId => exact h.cancel hfree hperform
  | reconcile =>
    cases hperform
    exact h.sound_refl hfree

/-! ## The callback -/

/-- The callback fails the active session; without one it changes no session. -/
theorem Core.handleUnsafe_cases (h : Core runtime) :
    (runtime.activeSessionId = none
        ∧ runtime.handleUnsafe = { runtime with bridgeRequiresClosure := true })
      ∨ ∃ sessionId session, runtime.activeSessionId = some sessionId
        ∧ runtime.sessions.get? sessionId = some session
        ∧ runtime.handleUnsafe
          = { runtime with
              bridgeRequiresClosure := true }.setTerminal sessionId session .failed := by
  unfold handleUnsafe
  have hsame : { runtime with bridgeRequiresClosure := true }.activeSession
      = runtime.activeSession := rfl
  dsimp only
  rw [hsame]
  cases hfound : runtime.activeSession with
  | none =>
    have hactive := activeSessionId_eq_none h hfound
    refine Or.inl ⟨hactive, ?_⟩
    rw [Option.orElse_none]
    split
    · rfl
    · rename_i sessionId session howner
      obtain ⟨owner, -, howner⟩ := Option.bind_eq_some_iff.1 howner
      obtain ⟨found, hget, heq⟩ := Option.map_eq_some_iff.1 howner
      cases heq
      -- a session that has not ended would be the active one
      have hended : session.phase.isTerminal = true := by
        by_contra hlive
        rw [Bool.not_eq_true, h.active sessionId session hget, hactive] at hlive
        cases hlive
      rw [if_pos hended]
  | some found =>
    obtain ⟨sessionId, session⟩ := found
    obtain ⟨hactive, hget⟩ := activeSession_eq_some.1 hfound
    have hlive := (h.active sessionId session hget).2 hactive
    refine Or.inr ⟨sessionId, session, hactive, hget, ?_⟩
    rw [Option.orElse_some]
    dsimp only
    rw [if_neg (by rw [hlive]; simp)]

theorem Core.handleUnsafe (h : Core runtime) :
    Core runtime.handleUnsafe ∧ Persists runtime runtime.handleUnsafe := by
  have hbase : Core { runtime with bridgeRequiresClosure := true } :=
    ⟨h.active, h.known, h.tested, h.nodup, h.candidate⟩
  rcases h.handleUnsafe_cases with ⟨-, heq⟩ | ⟨sessionId, session, hactive, hget, heq⟩
  · rw [heq]
    exact ⟨hbase, fun _ session hget => ⟨session, hget, fun _ => rfl⟩⟩
  · rw [heq]
    exact hbase.setTerminal hget (Or.inl ((h.active sessionId session hget).2 hactive)) rfl
      fun _ => rfl

/-- No state, an offline bridge, or an open state that is not attributed to the session that owns
joining. -/
def Unsafe (runtime : Lifecycle) : Option BridgePermitState → Option Text → Prop
  | none, _ => True
  | some state, attributedTransaction => state.online = false
      ∨ (state.permitJoin = true ∧ ∀ sessionId, runtime.joinOwnerSessionId = some sessionId →
        attributedTransaction ≠ some sessionId)

/-- No task waits to announce, to interview or to cancel. -/
def Undecided (runtime : Lifecycle) : Prop :=
  ∀ sessionId purpose, runtime.holder = some (.closing sessionId purpose) →
    purpose ≠ .announced ∧ purpose ≠ .interviewed ∧ purpose ≠ .cancel

/-- What is asked of the bridge states that are reported: an unsafe one is not reported while a task
waits to announce, to interview or to cancel, and an open one that is attributed to nobody is not
reported while the active session no longer owns joining. -/
def Calm (runtime : Lifecycle) : Event → Prop
  | .notified state attributedTransaction =>
    (runtime.Unsafe state attributedTransaction → runtime.Undecided)
      ∧ (∀ found, state = some found → found.online = true → found.permitJoin = true →
        attributedTransaction = none → runtime.joinOwnerSessionId = none →
        runtime.activeSessionId = none)
  | .committed _ => True
  | .task => True

/-- The callback ignores what is safe, and the open states without an owner that are attributed to
nobody. -/
theorem handleBridgePermitState_cases (state : Option BridgePermitState)
    (attributedTransaction : Option Text) :
    (runtime.handleBridgePermitState state attributedTransaction = runtime.handleUnsafe
        ∧ runtime.Unsafe state attributedTransaction)
      ∨ (runtime.handleBridgePermitState state attributedTransaction = runtime
        ∧ (runtime.Unsafe state attributedTransaction → attributedTransaction = none
          ∧ runtime.joinOwnerSessionId = none ∧ ∃ found, state = some found
            ∧ found.online = true ∧ found.permitJoin = true)) := by
  cases state with
  | none => exact Or.inl ⟨rfl, trivial⟩
  | some state =>
    rw [handleBridgePermitState]
    split
    · rename_i hattributed
      obtain ⟨honline, hopen, howner⟩ := hattributed
      refine Or.inr ⟨rfl, fun hreported => ?_⟩
      rcases hreported with hoffline | ⟨-, hothers⟩
      · rw [honline] at hoffline
        cases hoffline
      · -- attributed to the owner, and yet to no session that owns joining: both are `None`
        have hnone : runtime.joinOwnerSessionId = none := by
          cases hjoin : runtime.joinOwnerSessionId with
          | none => rfl
          | some sessionId => exact absurd (howner.trans hjoin) (hothers sessionId hjoin)
        exact ⟨howner.trans hnone, hnone, state, rfl, honline, hopen⟩
    · rename_i hother
      split
      · rename_i hclosed
        obtain ⟨honline, hclosed⟩ := hclosed
        refine Or.inr ⟨rfl, fun hreported => ?_⟩
        rcases hreported with hoffline | ⟨hopen, -⟩
        · rw [honline] at hoffline
          cases hoffline
        · rw [hclosed] at hopen
          cases hopen
      · rename_i hclosed
        refine Or.inl ⟨rfl, ?_⟩
        cases honline : state.online with
        | false => exact Or.inl honline
        | true =>
          have hopen : state.permitJoin = true := by
            by_contra hbad
            exact hclosed ⟨honline, (Bool.not_eq_true _).mp hbad⟩
          refine Or.inr ⟨hopen, fun sessionId hjoin heq => ?_⟩
          exact hother ⟨honline, hopen, heq.trans hjoin.symm⟩

theorem Good.handleUnsafe (h : Good runtime) (hcalm : runtime.Undecided) :
    Good runtime.handleUnsafe := by
  refine ⟨h.toCore.handleUnsafe.1, fun await hawait => ?_⟩
  rcases h.toCore.handleUnsafe_cases with ⟨-, heq⟩ | ⟨sessionId, session, -, hget, heq⟩
  · rw [heq] at hawait ⊢
    have hwaits := h.waits await hawait
    cases await with
    | remedy operation => cases operation <;> exact hwaits
    | opening sessionId => exact hwaits
    | closing sessionId purpose => exact hwaits
  · rw [heq] at hawait ⊢
    have hwaits := h.waits await hawait
    have hset : ∀ other, ({ runtime with bridgeRequiresClosure := true }.setTerminal sessionId
        session .failed).sessions.get? other = if other = sessionId then
          some { session with phase := .failed } else runtime.sessions.get? other :=
      fun other => Dict.get?_set _ _ _ _
    cases await with
    | remedy operation =>
      cases operation with
      | start other =>
        have hfresh : runtime.sessions.get? other = none := hwaits
        have hne : other ≠ sessionId := fun heq => by
          rw [heq, hget] at hfresh
          cases hfresh
        exact (hset other).trans (by rw [if_neg hne, hfresh])
      | event verdict => exact trivial
      | commit other => exact trivial
      | cancel other => exact trivial
      | reconcile => exact trivial
    | opening other =>
      -- `_async_start_pairing` looks at the phase again after its await
      obtain ⟨found, hfound, hphase⟩ := hwaits
      by_cases hsame : other = sessionId
      · exact ⟨_, (hset other).trans (if_pos hsame), Or.inr rfl⟩
      · exact ⟨found, (hset other).trans (by rw [if_neg hsame, hfound]), hphase⟩
    | closing other purpose =>
      obtain ⟨found, hfound, hallows⟩ := hwaits
      by_cases hsame : other = sessionId
      · refine ⟨_, (hset other).trans (if_pos hsame), ?_⟩
        -- the last three would overwrite the phase, and do not wait
        obtain ⟨hannounced, hinterviewed, hcancel⟩ := hcalm other purpose hawait
        cases purpose with
        | openFailed => exact Or.inr rfl
        | openUnsafe => exact Or.inr rfl
        | fail => exact Or.inr rfl
        | announced => exact absurd rfl hannounced
        | interviewed => exact absurd rfl hinterviewed
        | cancel => exact absurd rfl hcancel
      · exact ⟨found, (hset other).trans (by rw [if_neg hsame, hfound]), hallows⟩

/-- A calm report keeps the invariant. -/
theorem Good.handleBridgePermitState (h : Good runtime) {state : Option BridgePermitState}
    {attributedTransaction : Option Text}
    (hcalm : runtime.Calm (.notified state attributedTransaction)) :
    Good (runtime.handleBridgePermitState state attributedTransaction)
      ∧ Persists runtime (runtime.handleBridgePermitState state attributedTransaction) := by
  rcases handleBridgePermitState_cases state attributedTransaction with
    ⟨heq, hreported⟩ | ⟨heq, -⟩
  · rw [heq]
    exact ⟨h.handleUnsafe (hcalm.1 hreported), h.toCore.handleUnsafe.2⟩
  · rw [heq]
    exact ⟨h, .refl runtime⟩

/-- A calm report of an unsafe state fails the active session. -/
theorem Good.fails (h : Good runtime) {state : Option BridgePermitState}
    {attributedTransaction : Option Text}
    (hcalm : runtime.Calm (.notified state attributedTransaction))
    (hreported : runtime.Unsafe state attributedTransaction)
    (hactive : runtime.activeSessionId = some sessionId) :
    ∃ session, (runtime.handleBridgePermitState state attributedTransaction).sessions.get? sessionId
      = some session ∧ session.phase = .failed := by
  rcases handleBridgePermitState_cases state attributedTransaction with
    ⟨heq, -⟩ | ⟨-, hoverlooked⟩
  · rw [heq]
    rcases h.toCore.handleUnsafe_cases with ⟨hnone, -⟩ | ⟨other, session, hother, hget, heq⟩
    · rw [hactive] at hnone
      cases hnone
    · rw [hactive, Option.some.injEq] at hother
      subst hother
      rw [heq]
      exact ⟨_, Dict.get?_set_self _ _ _, rfl⟩
  · -- an open state is only overlooked where there is no active session
    obtain ⟨hnobody, howner, found, rfl, honline, hopen⟩ := hoverlooked hreported
    rw [hcalm.2 found rfl honline hopen hnobody howner] at hactive
    cases hactive

/-! ## The end of a wait -/

theorem Core.endRemedy (h : Core runtime) (hfree : runtime.holder = none) {operation : Operation}
    (hfresh : runtime.Fresh operation) (closed baseline : Bool) :
    Sound runtime (runtime.endRemedy closed baseline operation) := by
  unfold Lifecycle.endRemedy
  split
  · obtain ⟨hcore, hpersists⟩ := h.markGlobalJoinClosed
    cases hperform : runtime.markGlobalJoinClosed.perform baseline operation with
    | none => exact .of_core hfree rfl ⟨hcore, hpersists⟩
    | some next =>
      have hfresh : runtime.markGlobalJoinClosed.Fresh operation := by
        intro sessionId heq
        have hget : runtime.markGlobalJoinClosed.sessions.get? sessionId = _ :=
          get?_closeSessions runtime.sessions sessionId
        rw [hget, hfresh sessionId heq]
        rfl
      obtain ⟨hgood, hpersists'⟩ := hcore.perform hfree hfresh hperform
      exact ⟨hgood, hpersists.trans hpersists'⟩
  · exact .of_core hfree rfl ⟨⟨h.active, h.known, h.tested, h.nodup, h.candidate⟩,
      fun _ session hget => ⟨session, hget, fun _ => rfl⟩⟩

theorem Core.endOpening (h : Core runtime) (hfree : runtime.holder = none)
    (hget : runtime.sessions.get? sessionId = some session)
    (hphase : session.phase.isTerminal = false ∨ session.phase = .failed) (opened baseline : Bool) :
    Sound runtime (runtime.endOpening sessionId session opened baseline) := by
  unfold Lifecycle.endOpening
  split
  · exact h.attemptClose hfree hget hphase
  split
  · exact h.attemptClose hfree hget hphase
  split
  · exact h.attemptClose hfree hget hphase
  · refine .of_core hfree rfl (h.put hget (Or.inl rfl) (fun hmem => ?_)
      (h.candidate sessionId session hget))
    obtain ⟨found, hfound, htested⟩ := h.tested sessionId hmem
    rw [hget, Option.some.injEq] at hfound
    rw [hfound]
    exact htested

theorem allows_closed {purpose : Purpose} (h : purpose.Allows session) :
    purpose.Allows { session with joinClosed := true } := by
  cases purpose <;> exact h

theorem Core.endClosing (h : Core runtime) (hfree : runtime.holder = none) {purpose : Purpose}
    (hget : runtime.sessions.get? sessionId = some session) (hallows : purpose.Allows session)
    (closed baseline : Bool) :
    Sound runtime (runtime.endClosing sessionId closed baseline purpose) := by
  unfold Lifecycle.endClosing
  split
  · obtain ⟨hcore, hpersists⟩ := h.markGlobalJoinClosed
    have hclosed : runtime.markGlobalJoinClosed.sessions.get? sessionId
        = some { session with joinClosed := true } :=
      (get?_closeSessions runtime.sessions sessionId).trans (by rw [hget]; rfl)
    dsimp only
    rw [hclosed]
    obtain ⟨hgood, hpersists'⟩ := hcore.finishClose hfree hclosed (allows_closed hallows)
    exact ⟨hgood, hpersists.trans hpersists'⟩
  · rw [hget]
    dsimp only
    split
    · rename_i hpurpose
      refine h.attemptClose hfree hget (Or.inl ?_)
      rcases hpurpose with rfl | rfl
      · rcases hallows.1 with hphase | hphase <;> rw [hphase] <;> rfl
      · rcases hallows.1 with hphase | hphase <;> rw [hphase] <;> rfl
    · have hbase : Core { runtime with bridgeRequiresClosure := true } :=
        ⟨h.active, h.known, h.tested, h.nodup, h.candidate⟩
      obtain ⟨hgood, hpersists⟩ := hbase.finishClose hfree hget hallows
      exact ⟨hgood, hpersists⟩

/-- A proof of closed joining keeps what the holder of the lock relies on. -/
theorem Good.markGlobalJoinClosed (h : Good runtime) : Good runtime.markGlobalJoinClosed := by
  refine ⟨h.toCore.markGlobalJoinClosed.1, fun await hawait => ?_⟩
  have hwaits := h.waits await hawait
  have hget : ∀ sessionId, runtime.markGlobalJoinClosed.sessions.get? sessionId
      = (runtime.sessions.get? sessionId).map fun session => { session with joinClosed := true } :=
    get?_closeSessions runtime.sessions
  cases await with
  | remedy operation =>
    cases operation with
    | start sessionId =>
      have hfresh : runtime.sessions.get? sessionId = none := hwaits
      exact (hget sessionId).trans (by rw [hfresh]; rfl)
    | event verdict => exact trivial
    | commit sessionId => exact trivial
    | cancel sessionId => exact trivial
    | reconcile => exact trivial
  | opening sessionId =>
    obtain ⟨session, hfound, hphase⟩ := hwaits
    exact ⟨{ session with joinClosed := true }, (hget sessionId).trans (by rw [hfound]; rfl),
      hphase⟩
  | closing sessionId purpose =>
    obtain ⟨session, hfound, hallows⟩ := hwaits
    exact ⟨{ session with joinClosed := true }, (hget sessionId).trans (by rw [hfound]; rfl),
      allows_closed hallows⟩

/-! ## The other tasks -/

theorem Core.pairingTimeout (h : Core runtime) (hfree : runtime.holder = none) (baseline : Bool) :
    Sound runtime (runtime.pairingTimeout sessionId baseline) := by
  unfold Lifecycle.pairingTimeout
  split
  · exact h.sound_refl hfree
  · rename_i session hget
    split
    · rename_i hphase
      refine h.attemptClose hfree hget (Or.inl ?_)
      rcases hphase with hphase | hphase
      · rw [hphase]; rfl
      · rw [hphase]; rfl
    · exact h.sound_refl hfree

theorem Core.candidateTurn (h : Core runtime) (hfree : runtime.holder = none)
    (found baseline : Bool) :
    Sound runtime (runtime.candidateTurn sessionId found baseline) := by
  unfold Lifecycle.candidateTurn
  split
  · exact h.sound_refl hfree
  rename_i session hget
  split
  · exact h.sound_refl hfree
  rename_i hverifying
  rw [not_not] at hverifying
  have hlive : session.phase.isTerminal = false := by rw [hverifying]; rfl
  split
  · have hnot := h.not_tested hget (by rw [hverifying]; simp) (by rw [hverifying]; simp)
    exact .of_core hfree rfl (h.put hget (Or.inr ⟨hlive, rfl⟩) (fun hmem => absurd hmem hnot)
      fun _ => h.candidate sessionId session hget (by rw [hverifying]; rfl))
  · exact h.attemptClose hfree hget (Or.inl hlive)

/-- A test that is over is not tested any more. -/
theorem Core.erase (h : Core runtime) (sessionId : Text) :
    Core { runtime with operations := runtime.operations.erase sessionId } :=
  ⟨h.active, h.known, fun other hmem => h.tested other (List.mem_of_mem_erase hmem),
    h.nodup.erase sessionId, h.candidate⟩

theorem Core.endTest (h : Core runtime) (hfree : runtime.holder = none)
    (hmem : sessionId ∈ runtime.operations) {passed committed result : Bool}
    (hend : runtime.endTest sessionId passed committed = (result, next)) :
    Sound runtime next
      ∧ (result = true → ∃ session, runtime.sessions.get? sessionId = some session
        ∧ session.phase = .testing) := by
  obtain ⟨session, hget, hphase⟩ := h.tested sessionId hmem
  have hbase := h.erase sessionId
  have hnot : sessionId ∉ runtime.operations.erase sessionId := h.nodup.not_mem_erase
  unfold Lifecycle.endTest at hend
  dsimp only at hend
  rw [hget] at hend
  dsimp only at hend
  split at hend
  · obtain ⟨rfl, rfl⟩ := Prod.mk.inj hend
    refine ⟨.of_core hfree rfl (hbase.setTerminal hget ?_ rfl fun _ => rfl),
      fun hbad => by cases hbad⟩
    rcases hphase with hphase | hphase
    · exact Or.inl (by rw [hphase]; rfl)
    · exact Or.inr hphase
  split at hend
  · obtain ⟨rfl, rfl⟩ := Prod.mk.inj hend
    exact ⟨.of_core hfree rfl ⟨hbase, .refl _⟩, fun hbad => by cases hbad⟩
  rename_i htesting
  rw [not_not] at htesting
  have hlive : session.phase.isTerminal = false := by rw [htesting]; rfl
  split at hend
  · obtain ⟨rfl, rfl⟩ := Prod.mk.inj hend
    exact ⟨.of_core hfree rfl (hbase.setTerminal hget (Or.inl hlive) rfl fun hbad =>
      absurd hbad hnot), fun _ => ⟨session, hget, htesting⟩⟩
  · obtain ⟨rfl, rfl⟩ := Prod.mk.inj hend
    exact ⟨.of_core hfree rfl (hbase.setTerminal hget (Or.inl hlive) rfl fun _ => rfl),
      fun hbad => by cases hbad⟩

/-! ## Runs -/

theorem Core.release (h : Core runtime) : Core { runtime with holder := none } :=
  ⟨h.active, h.known, h.tested, h.nodup, h.candidate⟩

/-- The start of an operation: it waits for a barrier, or is performed. -/
theorem Core.reconcileAndPerform (h : Core runtime) (hfree : runtime.holder = none)
    {operation : Operation} {baseline : Bool} (hfresh : runtime.Fresh operation)
    (hperform : runtime.reconcileAndPerform baseline operation = some next) :
    Sound runtime next := by
  unfold Lifecycle.reconcileAndPerform at hperform
  split at hperform
  · exact h.start (hfresh _ rfl) hperform
  · rename_i hother
    split at hperform
    · cases hperform
      refine h.wait ?_
      cases operation with
      | start sessionId => exact absurd rfl (hother sessionId)
      | event verdict => exact trivial
      | commit sessionId => exact trivial
      | cancel sessionId => exact trivial
      | reconcile => exact trivial
    · exact h.perform hfree hfresh hperform

theorem Waits.fresh {operation : Operation} (h : runtime.Waits (.remedy operation)) :
    runtime.Fresh operation := by
  intro sessionId heq
  subst heq
  exact h

/-- One calm step keeps the invariant and the phases of the ended sessions, and commits only a
session in test. -/
theorem Good.step {event : Event} (h : Good runtime) (hcalm : runtime.Calm event)
    (hstep : Step runtime event next) :
    Good next ∧ Persists runtime next
      ∧ ∀ sessionId, event = .committed sessionId →
        ∃ session, runtime.sessions.get? sessionId = some session ∧ session.phase = .testing := by
  have hquiet : ∀ sessionId, Event.task = .committed sessionId →
      ∃ session, runtime.sessions.get? sessionId = some session ∧ session.phase = .testing :=
    fun _ hbad => by cases hbad
  cases hstep with
  | notified =>
    obtain ⟨hgood, hpersists⟩ := h.handleBridgePermitState hcalm
    exact ⟨hgood, hpersists, fun _ hbad => by cases hbad⟩
  | begins operation baseline hfree _ hfresh hperform =>
    obtain ⟨hgood, hpersists⟩ := h.toCore.reconcileAndPerform hfree hfresh hperform
    exact ⟨hgood, hpersists, hquiet⟩
  -- a task that waited goes on, on what the state allows it at that time
  | endRemedy closed baseline hholder =>
    obtain ⟨hgood, hpersists⟩ :=
      h.toCore.release.endRemedy rfl (Waits.fresh (h.waits _ hholder)) closed baseline
    exact ⟨hgood, hpersists, hquiet⟩
  | endOpening opened baseline hholder hget =>
    obtain ⟨found, hfound, hphase⟩ := h.waits _ hholder
    rw [hget, Option.some.injEq] at hfound
    subst hfound
    obtain ⟨hgood, hpersists⟩ := h.toCore.release.endOpening rfl hget hphase opened baseline
    exact ⟨hgood, hpersists, hquiet⟩
  | endClosing closed baseline hholder =>
    obtain ⟨session, hget, hallows⟩ := h.waits _ hholder
    obtain ⟨hgood, hpersists⟩ := h.toCore.release.endClosing rfl hget hallows closed baseline
    exact ⟨hgood, hpersists, hquiet⟩
  | interrupted hholder =>
    obtain ⟨hgood, hpersists⟩ := h.toCore.release.sound_refl rfl
    exact ⟨hgood, hpersists, hquiet⟩
  | pairingTimeout sessionId baseline hfree =>
    obtain ⟨hgood, hpersists⟩ := h.toCore.pairingTimeout hfree baseline
    exact ⟨hgood, hpersists, hquiet⟩
  | candidateTurn sessionId found baseline hfree =>
    obtain ⟨hgood, hpersists⟩ := h.toCore.candidateTurn hfree found baseline
    exact ⟨hgood, hpersists, hquiet⟩
  | committed hfree hmem hend =>
    obtain ⟨⟨hgood, hpersists⟩, htesting⟩ := h.toCore.endTest hfree hmem hend
    refine ⟨hgood, hpersists, fun _ heq => ?_⟩
    cases heq
    exact htesting rfl
  | tested passed committed hfree hmem hend =>
    obtain ⟨⟨hgood, hpersists⟩, -⟩ := h.toCore.endTest hfree hmem hend
    exact ⟨hgood, hpersists, hquiet⟩
  -- an abandoned task is forgotten; the session that it belongs to is not touched
  | abandoned sessionId =>
    refine ⟨⟨h.toCore.erase sessionId, fun await hawait => ?_⟩, .refl _, hquiet⟩
    have hwaits := h.waits await hawait
    cases await with
    | remedy operation => cases operation <;> exact hwaits
    | opening other => exact hwaits
    | closing other purpose => exact hwaits
  | shutdown =>
    refine ⟨⟨⟨h.active, h.known, h.tested, h.nodup, h.candidate⟩, fun await hawait => ?_⟩, .refl _,
      hquiet⟩
    have hwaits := h.waits await hawait
    cases await with
    | remedy operation => cases operation <;> exact hwaits
    | opening other => exact hwaits
    | closing other purpose => exact hwaits
  | closed => exact ⟨h.markGlobalJoinClosed, h.toCore.markGlobalJoinClosed.2, hquiet⟩

/-- A calm step. -/
def CalmStep (runtime : Lifecycle) (event : Event) (next : Lifecycle) : Prop :=
  runtime.Calm event ∧ Step runtime event next

theorem good_init : Good init where
  active _ _ hget := by cases hget
  known _ hactive := by cases hactive
  tested _ hmem := by cases hmem
  nodup := List.nodup_nil
  candidate _ _ hget := by cases hget
  waits _ hholder := by cases hholder

theorem run_good {events : List Event} (h : Good runtime)
    (hrun : Trace.Run CalmStep runtime events next) : Good next :=
  hrun.invariant h fun _ _ _ hgood hstep => (hgood.step hstep.1 hstep.2).1

/-- Along a calm run the ended sessions keep their phases, and none of them is committed. -/
theorem run_persists {events : List Event} (h : Good runtime)
    (hrun : Trace.Run CalmStep runtime events next) :
    Persists runtime next
      ∧ ∀ sessionId session, runtime.sessions.get? sessionId = some session →
        session.phase.isTerminal = true → .committed sessionId ∉ events := by
  induction hrun with
  | start => exact ⟨.refl _, fun _ _ _ _ hmem => by cases hmem⟩
  | @snoc events middle last event hrun hlast ih =>
    obtain ⟨hpersists, hnever⟩ := ih
    obtain ⟨-, hpersists', hcommits⟩ := (run_good h hrun).step hlast.1 hlast.2
    refine ⟨hpersists.trans hpersists', fun sessionId session hget hended hmem => ?_⟩
    rcases List.mem_append.1 hmem with hmem | hmem
    · exact hnever sessionId session hget hended hmem
    · obtain ⟨found, hfound, htesting⟩ := hcommits sessionId (List.mem_singleton.1 hmem).symm
      obtain ⟨later, hlater, hphase⟩ := hpersists sessionId session hget
      rw [hfound, Option.some.injEq] at hlater
      rw [← hlater, htesting] at hphase
      rw [← hphase hended] at hended
      cases hended

/-- In calm runs: the active session is the one that has not ended, an ended session keeps its
phase, and a session that an unsafe state was reported for has failed for good. -/
theorem sessions_end_once {events : List Event} (hrun : Trace.Run CalmStep init events runtime) :
    (∀ sessionId session, runtime.sessions.get? sessionId = some session →
        (session.phase.isTerminal = false ↔ runtime.activeSessionId = some sessionId))
      ∧ (∀ sessionId, runtime.activeSessionId = some sessionId →
        ∃ session, runtime.sessions.get? sessionId = some session)
      ∧ (∀ later last, Trace.Run CalmStep runtime later last →
        ∀ sessionId session, runtime.sessions.get? sessionId = some session →
        session.phase.isTerminal = true →
        ∃ found, last.sessions.get? sessionId = some found ∧ found.phase = session.phase)
      ∧ ∀ sessionId state attributedTransaction, runtime.activeSessionId = some sessionId →
        runtime.Unsafe state attributedTransaction →
        runtime.Calm (.notified state attributedTransaction) →
        ∀ later last, Trace.Run CalmStep
          (runtime.handleBridgePermitState state attributedTransaction) later last →
        (∃ session, last.sessions.get? sessionId = some session ∧ session.phase = .failed)
          ∧ .committed sessionId ∉ later := by
  have hgood := run_good good_init hrun
  refine ⟨hgood.active, hgood.known, fun later last hlater sessionId session hget hended => ?_,
    fun sessionId state attributedTransaction hactive hreported hcalm later last hlater => ?_⟩
  · obtain ⟨found, hfound, hphase⟩ := (run_persists hgood hlater).1 sessionId session hget
    exact ⟨found, hfound, hphase hended⟩
  · obtain ⟨session, hget, hfailed⟩ := hgood.fails hcalm hreported hactive
    have hended : session.phase.isTerminal = true := by rw [hfailed]; rfl
    obtain ⟨hpersists, hnever⟩ := run_persists (hgood.handleBridgePermitState hcalm).1 hlater
    obtain ⟨found, hfound, hphase⟩ := hpersists sessionId session hget
    exact ⟨⟨found, hfound, (hphase hended).trans hfailed⟩, hnever sessionId session hget hended⟩

/-! ## Runs on a concrete session -/

/-- Joining is open for the session. -/
def samplePairing : Lifecycle :=
  { ({ init.wait (.remedy (.start (chars "first"))) with holder := none }.endRemedy true true
        (.start (chars "first"))) with holder := none }.endOpening (chars "first")
    ⟨.awaitingPairing, false, false, false⟩ true true

/-- Its device is announced, and the task waits for the close barrier. -/
def sampleAnnounced : Lifecycle := samplePairing.handleEvent .announced false

/-- Its barrier completes. -/
def sampleReady (runtime : Lifecycle) : Lifecycle :=
  { runtime with holder := none }.endClosing (chars "first") true true .announced

/-- Joining is open, and no session asked for it. -/
def sampleOpen : BridgePermitState where
  online := true
  onlineGeneration := 1
  generation := 9
  observedAt := 0
  permitJoin := true
  permitJoinEnd := none
  retained := false
  initialRetained := false

theorem sample_pairing_run :
    Trace.Run CalmStep init ([] ++ [.task] ++ [.task] ++ [.task]) samplePairing := by
  have hstart : init.reconcileAndPerform true (.start (chars "first"))
      = some (init.wait (.remedy (.start (chars "first")))) := rfl
  have hfirst : Step init .task (init.wait (.remedy (.start (chars "first")))) :=
    .begins _ true rfl (Or.inl rfl) (fun _ _ => rfl) hstart
  have hremedy : Step (init.wait (.remedy (.start (chars "first")))) .task
      ({ init.wait (.remedy (.start (chars "first"))) with holder := none }.endRemedy true true
        (.start (chars "first"))) := .endRemedy true true rfl
  have hopening : Step ({ init.wait (.remedy (.start (chars "first"))) with
      holder := none }.endRemedy true true (.start (chars "first"))) .task samplePairing :=
    .endOpening true true rfl rfl
  exact ((Trace.Run.start.snoc ⟨trivial, hfirst⟩).snoc ⟨trivial, hremedy⟩).snoc
    ⟨trivial, hopening⟩

/-- The session of the run fails when an open state is reported that another request opened. -/
theorem sample_session_fails :
    ∃ session, (samplePairing.handleBridgePermitState (some sampleOpen)
        (some (chars "second"))).sessions.get? (chars "first") = some session
      ∧ session.phase = .failed := by
  have howner : samplePairing.joinOwnerSessionId = some (chars "first") := rfl
  have hreported : samplePairing.Unsafe (some sampleOpen) (some (chars "second")) := by
    refine Or.inr ⟨rfl, fun sessionId hjoin heq => ?_⟩
    rw [howner, ← heq] at hjoin
    exact absurd hjoin (by decide)
  have hcalm : samplePairing.Calm (.notified (some sampleOpen) (some (chars "second"))) :=
    ⟨fun _ _ _ hholder => (by cases hholder), fun _ _ _ _ hnobody => (by cases hnobody)⟩
  exact ((sessions_end_once sample_pairing_run).2.2.2 (chars "first") _ _ rfl hreported hcalm [] _
    .start).1

/-- A run of calm steps is a run. -/
theorem run_of_calm {events : List Event} (hrun : Trace.Run CalmStep init events runtime) :
    Trace.Run Step init events runtime := by
  induction hrun with
  | start => exact .start
  | snoc _ hlast ih => exact ih.snoc hlast.2

/-- A ready session can be committed. -/
theorem exists_committed {start : Lifecycle} {events : List Event}
    (hrun : Trace.Run Step start events runtime) (hfree : runtime.holder = none)
    (hopen : runtime.closing = false) (hclosed : runtime.bridgeRequiresClosure = false)
    (hget : runtime.sessions.get? sessionId = some session)
    (hready : session.phase = .readyToCommit) :
    ∃ last, Trace.Run Step start (events ++ [.task] ++ [.committed sessionId]) last := by
  let testing : Lifecycle :=
    { runtime.putSession sessionId { session with phase := .testing } with
      operations := runtime.operations ++ [sessionId] }
  have hcommit : runtime.reconcileAndPerform true (.commit sessionId) = some testing := by
    unfold reconcileAndPerform perform Lifecycle.commit
    simp only [hclosed, hget, hready]
    rfl
  have hbegins : Step runtime .task testing :=
    .begins (.commit sessionId) true hfree (Or.inl hopen) (fun _ hbad => by cases hbad) hcommit
  have hfound : testing.sessions.get? sessionId = some { session with phase := .testing } :=
    Dict.get?_set_self _ _ _
  have hends : testing.endTest sessionId true true = (true,
      { testing with operations := testing.operations.erase sessionId }.setTerminal sessionId
        { session with phase := .testing } .complete) := by
    unfold Lifecycle.endTest
    dsimp only
    rw [hfound]
    rfl
  have hcommitted : Step testing (.committed sessionId) _ :=
    .committed hfree (List.mem_append_right _ List.mem_cons_self) hends
  exact ⟨_, (hrun.snoc hbegins).snoc hcommitted⟩

/-- A failed session becomes ready, is tested and is committed, after its barrier was disturbed; and
so is a ready session, after joining was opened for nobody. -/
theorem failed_session_committed :
    (¬ ∀ events middle later last, Trace.Run Step init events middle →
      Trace.Run Step middle later last → ∀ sessionId session,
      middle.sessions.get? sessionId = some session → session.phase = .failed →
        .committed sessionId ∉ later)
    ∧ ∃ events middle later last, Trace.Run Step init events middle ∧ middle.holder = none
      ∧ middle.activeSessionId = some (chars "first") ∧ middle.Unsafe (some sampleOpen) none
      ∧ Trace.Run Step (middle.handleBridgePermitState (some sampleOpen) none) later last
      ∧ .committed (chars "first") ∈ later := by
  have hannounced : Step samplePairing .task sampleAnnounced :=
    .begins (.event .announced) false rfl (Or.inl rfl) (fun _ hbad => by cases hbad) rfl
  have hbefore := (run_of_calm sample_pairing_run).snoc hannounced
  constructor
  · intro hall
    have hready : Step sampleAnnounced.handleUnsafe .task
        (sampleReady sampleAnnounced.handleUnsafe) := .endClosing true true rfl
    have hget : (sampleReady sampleAnnounced.handleUnsafe).sessions.get? (chars "first")
        = some ⟨.readyToCommit, true, true, true⟩ := rfl
    obtain ⟨last, hlater⟩ :=
      exists_committed (Trace.Run.start.snoc hready) rfl rfl rfl hget rfl
    exact hall _ _ _ last (hbefore.snoc (.notified _ none none)) hlater (chars "first") _ rfl rfl
      (by simp)
  · have hready : Step sampleAnnounced .task (sampleReady sampleAnnounced) :=
      .endClosing true true rfl
    have hget : (sampleReady sampleAnnounced).sessions.get? (chars "first")
        = some ⟨.readyToCommit, true, true, true⟩ := rfl
    have hstart : Trace.Run Step (sampleReady sampleAnnounced) [] (sampleReady sampleAnnounced) :=
      .start
    obtain ⟨last, hlater⟩ := exists_committed hstart rfl rfl rfl hget rfl
    exact ⟨_, _, _, last, hbefore.snoc hready, rfl, rfl,
      Or.inr ⟨rfl, fun _ hbad => by cases hbad⟩, hlater, by simp⟩

end Lifecycle

end TrueFamily.Runtime
