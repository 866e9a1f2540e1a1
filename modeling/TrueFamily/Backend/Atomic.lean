import TrueFamily.Backend.Allocation

/-!
# A swap is completed or undone

The binding of a room is the one that its sessions leave, oldest first (`Left`), in the runs that
do not disturb a session while it is being tested and roll back the newest session of a room only
(`swapped_or_undone`). The engine itself does not check it (`sample_disturbed`).
-/

namespace TrueFamily.Backend

namespace Engine

variable {origin engine next : Engine} {commits commits' : Commits}

/-! ## The sessions of a room -/

/-- The sessions of a room, newest first. -/
def newestFirst (engine : Engine) (roomId : String) : List ReplacementSession :=
  (engine.sessions.values.filter fun session => decide (session.roomId = roomId)).reverse

/-- The binding that a session leaves: the committed one, or the one of before the session. -/
def Leaves (commits : Commits) (session : ReplacementSession) (binding : DeviceBinding) : Prop :=
  if session.phase ∈ [ReplacementPhase.testing, .complete] then
    commits session.sessionId = some binding
  else binding = session.oldBinding

/-- The binding that sessions leave, newest first: each started with what the older ones left. -/
def Left (commits : Commits) (initial : DeviceBinding) :
    List ReplacementSession → DeviceBinding → Prop
  | [], binding => binding = initial
  | session :: older, binding =>
    Leaves commits session binding ∧ Left commits initial older session.oldBinding

theorem Left.congr {initial binding : DeviceBinding} {sessions : List ReplacementSession}
    (hcommits : ∀ session ∈ sessions, commits' session.sessionId = commits session.sessionId)
    (h : Left commits initial sessions binding) : Left commits' initial sessions binding := by
  induction sessions generalizing binding with
  | nil => exact h
  | cons session older ih =>
    obtain ⟨hleaves, hleft⟩ := h
    refine ⟨?_, ih (fun other hother => hcommits other (List.mem_cons_of_mem _ hother)) hleft⟩
    unfold Leaves at hleaves ⊢
    rw [hcommits session List.mem_cons_self]
    exact hleaves

/-- A session that ended without its candidate, and no newer one that committed. -/
theorem Left.undone {initial binding : DeviceBinding} {newer older : List ReplacementSession}
    {session : ReplacementSession} (h : Left commits initial (newer ++ session :: older) binding)
    (hnewer : ∀ other ∈ newer, other.phase ∉ [ReplacementPhase.testing, .complete])
    (hphase : session.phase ∉ [ReplacementPhase.testing, .complete]) :
    binding = session.oldBinding := by
  induction newer generalizing binding with
  | nil =>
    obtain ⟨hleaves, -⟩ := h
    rwa [Leaves, if_neg hphase] at hleaves
  | cons other newer ih =>
    obtain ⟨hleaves, hleft⟩ := h
    rw [Leaves, if_neg (hnewer other List.mem_cons_self)] at hleaves
    exact hleaves.trans (ih hleft fun other hother => hnewer other (List.mem_cons_of_mem _ hother))

/-- The binding of the newest completed session, or the initial one. -/
theorem Left.completed {initial binding : DeviceBinding} {sessions : List ReplacementSession}
    (h : Left commits initial sessions binding)
    (htesting : ∀ session ∈ sessions, session.phase ≠ .testing) :
    match sessions.find? fun session => decide (session.phase = .complete) with
    | some session => commits session.sessionId = some binding
    | none => binding = initial := by
  induction sessions generalizing binding with
  | nil => exact h
  | cons session older ih =>
    obtain ⟨hleaves, hleft⟩ := h
    have htested := htesting session List.mem_cons_self
    unfold Leaves at hleaves
    by_cases hcomplete : session.phase = .complete
    · rw [if_pos (by rw [hcomplete]; decide)] at hleaves
      rw [List.find?_cons_of_pos (by simpa using hcomplete)]
      exact hleaves
    · have hnot : session.phase ∉ [ReplacementPhase.testing, .complete] := by
        rw [List.mem_cons, List.mem_singleton, not_or]
        exact ⟨htested, hcomplete⟩
      rw [if_neg hnot] at hleaves
      rw [List.find?_cons_of_neg (by simpa using hcomplete), hleaves]
      exact ih hleft fun other hother => htesting other (List.mem_cons_of_mem _ hother)

/-! ## The invariant -/

/-- An event does not disturb a session that is being tested, and a completed session is rolled
back while it is the newest of its room. -/
def Undisturbed (engine : Engine) : Call → Prop
  | .handleBridgeEvent event (.aware _) =>
    ∀ session, engine.sessions.get? session.sessionId = some session → session.phase = .testing →
      ¬ event.Disturbs session
  | .rollback sessionId _ =>
    ∀ before session after, engine.sessions.values = before ++ session :: after →
      session.sessionId = sessionId → session.phase = .complete →
      ∀ later ∈ after, later.roomId ≠ session.roomId
  | _ => True

/-- What holds in every run whose calls meet the condition. -/
structure Traced (origin : Engine) (commits : Commits) (engine : Engine) : Prop where
  last : ∀ session ∈ engine.sessions.values.dropLast, ¬ session.IsActive
  entity : ∀ session ∈ engine.sessions.values,
    session.phase ∈ [ReplacementPhase.testing, .complete, .rolledBack] →
    session.candidateEntityId ≠ none
  rooms : ∀ roomId room, engine.rooms.get? roomId = some room →
    ∃ first, origin.rooms.get? roomId = some first
  left : ∀ roomId room first, engine.rooms.get? roomId = some room →
    origin.rooms.get? roomId = some first →
    Left commits first.binding (newestFirst engine roomId) room.binding

/-- The newest session of a room, and the older ones. -/
theorem newestFirst_split {before after : List ReplacementSession} {session : ReplacementSession}
    (hvalues : engine.sessions.values = before ++ session :: after)
    (hlast : ∀ later ∈ after, later.roomId ≠ session.roomId) :
    newestFirst engine session.roomId = session :: (before.filter fun other =>
      decide (other.roomId = session.roomId)).reverse := by
  have hafter : (after.filter fun other => decide (other.roomId = session.roomId)) = [] := by
    rw [List.filter_eq_nil_iff]
    intro later hlater
    rw [decide_eq_true_eq]
    exact hlast later hlater
  rw [newestFirst, hvalues, List.filter_append, List.filter_cons_of_pos (by simp), hafter,
    List.reverse_append]
  rfl

/-- The sessions of another room do not see the change. -/
theorem newestFirst_other {before after : List ReplacementSession}
    {session changed : ReplacementSession} {roomId : String}
    (hvalues : engine.sessions.values = before ++ session :: after)
    (hchanged : next.sessions.values = before ++ changed :: after)
    (hne : session.roomId ≠ roomId) (hroom : changed.roomId = session.roomId) :
    newestFirst next roomId = newestFirst engine roomId := by
  rw [newestFirst, newestFirst, hvalues, hchanged, List.filter_append, List.filter_append,
    List.filter_cons_of_neg (by simpa [hroom] using hne),
    List.filter_cons_of_neg (by simpa using hne)]

/-- The newest session of a room changes, with what it leaves there. -/
theorem Traced.update (h : Traced origin commits engine) (hkeyed : Keyed engine)
    {session changed : ReplacementSession}
    (hget : engine.sessions.get? session.sessionId = some session)
    (hid : changed.sessionId = session.sessionId) (hroomId : changed.roomId = session.roomId)
    (hold : changed.oldBinding = session.oldBinding)
    (hsessions : next.sessions = (engine.putSession changed).sessions)
    (hnewest : ∀ before after, engine.sessions.values = before ++ session :: after →
      ∀ later ∈ after, later.roomId ≠ session.roomId)
    (hactive : changed.IsActive → session.IsActive)
    (hentity : changed.phase ∈ [ReplacementPhase.testing, .complete, .rolledBack] →
      changed.candidateEntityId ≠ none)
    (hcommits : ∀ sessionId, sessionId ≠ session.sessionId → commits' sessionId = commits sessionId)
    (hrooms : ∀ roomId room, next.rooms.get? roomId = some room →
      ∃ old, engine.rooms.get? roomId = some old
        ∧ (roomId ≠ session.roomId → room.binding = old.binding)
        ∧ (roomId = session.roomId → Leaves commits session old.binding →
          Leaves commits' changed room.binding)) :
    Traced origin commits' next := by
  obtain ⟨before, after, hvalues, hothers, hset⟩ := hkeyed.split hget
  have hchanged : next.sessions.values = before ++ changed :: after := by
    rw [hsessions]
    exact hset changed hid
  refine ⟨fun other hmem hphase => ?_, fun other hmem hphase => ?_, fun roomId room hroom => ?_,
    fun roomId room initial hroom hinitial => ?_⟩
  · have hlast := h.last
    rw [hvalues, List.dropLast_append_of_ne_nil (List.cons_ne_nil _ _)] at hlast
    rw [hchanged, List.dropLast_append_of_ne_nil (List.cons_ne_nil _ _), List.mem_append] at hmem
    rcases hmem with hmem | hmem
    · exact hlast other (List.mem_append_left _ hmem) hphase
    -- the changed session is among the ones before the last only if another one follows
    · cases hafter : after with
      | nil =>
        rw [hafter] at hmem
        cases hmem
      | cons second rest =>
        rw [hafter, List.dropLast_cons_of_ne_nil (List.cons_ne_nil _ _)] at hlast hmem
        rcases List.mem_cons.1 hmem with rfl | hmem
        · exact hlast session (List.mem_append_right _ List.mem_cons_self) (hactive hphase)
        · exact hlast other (List.mem_append_right _ (List.mem_cons_of_mem _ hmem)) hphase
  · rw [hchanged, List.mem_append, List.mem_cons] at hmem
    rcases hmem with hmem | rfl | hmem
    · exact h.entity other (by rw [hvalues]; exact List.mem_append_left _ hmem) hphase
    · exact hentity hphase
    · exact h.entity other
        (by rw [hvalues]; exact List.mem_append_right _ (List.mem_cons_of_mem _ hmem)) hphase
  · obtain ⟨old, hslot, -⟩ := hrooms roomId room hroom
    exact h.rooms roomId old hslot
  · obtain ⟨old, hslot, hsame, hleaves⟩ := hrooms roomId room hroom
    have hleft := h.left roomId old initial hslot hinitial
    -- in its own room it is the newest one, elsewhere nothing changes
    by_cases hne : session.roomId = roomId
    · subst hne
      rw [newestFirst_split hvalues (hnewest before after hvalues)] at hleft
      obtain ⟨hhead, htail⟩ := hleft
      rw [← hroomId, newestFirst_split hchanged
        (fun later hlater => by rw [hroomId]; exact hnewest before after hvalues later hlater)]
      refine ⟨hleaves rfl hhead, ?_⟩
      rw [hold, hroomId]
      refine htail.congr fun other hother => hcommits other.sessionId ?_
      rw [List.mem_reverse, List.mem_filter] at hother
      exact hothers other (List.mem_append_left _ hother.1)
    · rw [newestFirst_other hvalues hchanged hne hroomId, hsame (Ne.symm hne)]
      refine hleft.congr fun other hother => hcommits other.sessionId fun hbad => ?_
      rw [newestFirst, List.mem_reverse, List.mem_filter, decide_eq_true_eq] at hother
      obtain ⟨hmem, hotherRoom⟩ := hother
      rw [hvalues, List.mem_append, List.mem_cons] at hmem
      rcases hmem with hmem | rfl | hmem
      · exact hothers other (List.mem_append_left _ hmem) hbad
      · exact hne hotherRoom
      · exact hothers other (List.mem_append_right _ hmem) hbad

/-- A session starts. -/
theorem Traced.start (h : Traced origin commits engine) {session : ReplacementSession}
    {room : RoomSlot} (hfresh : engine.sessions.get? session.sessionId = none)
    (hnone : engine.activeSession = none) (hslot : engine.rooms.get? session.roomId = some room)
    (hold : session.oldBinding = room.binding) (hphase : session.phase = .awaitingPairing) :
    Traced origin commits (engine.putSession session) := by
  have hvalues : (engine.putSession session).sessions.values
      = engine.sessions.values ++ [session] := Dict.values_set_of_get?_eq_none hfresh session
  have hinactive : ∀ other ∈ engine.sessions.values, ¬ other.IsActive := by
    intro other hmem hactive
    have := List.find?_eq_none.1 hnone other hmem
    exact this (decide_eq_true hactive)
  refine ⟨fun other hmem => ?_, fun other hmem hended => ?_, h.rooms,
    fun roomId slot initial hroom hinitial => ?_⟩
  · rw [hvalues, List.dropLast_concat] at hmem
    exact hinactive other hmem
  · rw [hvalues, List.mem_append, List.mem_singleton] at hmem
    rcases hmem with hmem | rfl
    · exact h.entity other hmem hended
    · rw [hphase] at hended
      exact absurd hended (by decide)
  · have hleft := h.left roomId slot initial hroom hinitial
    by_cases hne : session.roomId = roomId
    · subst hne
      have hroom : engine.rooms.get? session.roomId = some slot := hroom
      rw [hslot, Option.some.injEq] at hroom
      subst hroom
      have hnewest : newestFirst (engine.putSession session) session.roomId
          = session :: newestFirst engine session.roomId := by
        rw [newestFirst, hvalues, List.filter_append, List.filter_cons_of_pos (by simp),
          List.filter_nil, List.reverse_append]
        rfl
      rw [hnewest]
      refine ⟨?_, by rw [hold]; exact hleft⟩
      rw [Leaves, if_neg (by rw [hphase]; decide), hold]
    · have hnewest : newestFirst (engine.putSession session) roomId
          = newestFirst engine roomId := by
        rw [newestFirst, hvalues, List.filter_append, List.filter_cons_of_neg (by simpa using hne),
          List.filter_nil, List.append_nil]
        rfl
      rw [hnewest]
      exact hleft

/-- An active session is the newest of all. -/
theorem Traced.newest (h : Traced origin commits engine) {session : ReplacementSession}
    (hactive : session.IsActive) (before after : List ReplacementSession)
    (hvalues : engine.sessions.values = before ++ session :: after) :
    ∀ later ∈ after, later.roomId ≠ session.roomId := by
  intro later hlater
  exfalso
  refine h.last session ?_ hactive
  rw [hvalues, List.dropLast_append_of_ne_nil (List.cons_ne_nil _ _),
    List.dropLast_cons_of_ne_nil (List.ne_nil_of_mem hlater)]
  exact List.mem_append_right _ List.mem_cons_self

theorem leaves_iff_of_ended {session : ReplacementSession} {binding : DeviceBinding}
    (h : session.phase ∉ [ReplacementPhase.testing, .complete]) :
    Leaves commits session binding ↔ binding = session.oldBinding := by
  rw [Leaves, if_neg h]

theorem leaves_iff_of_committed {session : ReplacementSession} {binding : DeviceBinding}
    (h : session.phase ∈ [ReplacementPhase.testing, .complete]) :
    Leaves commits session binding ↔ commits session.sessionId = some binding := by
  rw [Leaves, if_pos h]

/-- A session that is rolled back is the newest of its room. -/
theorem Traced.newest_of_rollsBack (h : Traced origin commits engine)
    {session : ReplacementSession} {call : Call} (hmeets : Undisturbed engine call)
    (hrolls : session.RollsBack call) (before after : List ReplacementSession)
    (hvalues : engine.sessions.values = before ++ session :: after) :
    ∀ later ∈ after, later.roomId ≠ session.roomId := by
  by_cases htesting : session.phase = .testing
  · refine h.newest ?_ before after hvalues
    unfold ReplacementSession.IsActive
    rw [htesting]
    decide
  · have hphase := hrolls.phase
    rw [List.mem_cons, List.mem_singleton] at hphase
    have hcomplete := hphase.resolve_left htesting
    cases call with
    | rollback sessionId reason =>
      exact hmeets before session after hvalues hrolls.1.symm hcomplete
    | confirmReadback sessionId entityId differs => exact absurd hrolls.2.1 htesting
    | start => exact hrolls.elim
    | handleBridgeEvent => exact hrolls.elim
    | tick => exact hrolls.elim
    | commit => exact hrolls.elim

/-- The rooms once one of them has another binding. -/
theorem putRoom_get? (hkeyed : Keyed engine) {roomId otherId : String} {room other : RoomSlot}
    {binding : DeviceBinding} {revision : ℤ} (hroom : engine.rooms.get? roomId = some room)
    (h : (engine.putRoom { room with binding := binding, revision := revision }).rooms.get?
      otherId = some other) :
    ∃ old, engine.rooms.get? otherId = some old ∧ (otherId ≠ roomId → other.binding = old.binding)
      ∧ (otherId = roomId → other.binding = binding) := by
  rw [putRoom, Dict.get?_set, hkeyed.room roomId room hroom] at h
  split at h
  · rename_i hsame
    cases h
    rw [hsame]
    exact ⟨room, hroom, fun hne => absurd rfl hne, fun _ => rfl⟩
  · rename_i hne
    exact ⟨other, h, fun _ => rfl, fun hsame => absurd hsame hne⟩

/-- Every change of a call that meets the condition keeps the invariant. -/
theorem Traced.change (h : Traced origin commits engine) (hkeyed : Keyed engine) {call : Call}
    (hdraws : Draws engine call) (hmeets : Undisturbed engine call)
    (hchange : Change call commits engine commits' next) : Traced origin commits' next := by
  cases hchange with
  | nothing => exact h
  | start room roomId sessionId now pairingSeconds time deadline hcall hactive hslot =>
    rw [hcall] at hdraws
    have hroom : engine.rooms.get? (started room time deadline sessionId).roomId = some room := by
      show engine.rooms.get? room.roomId = some room
      rw [hkeyed.room roomId room hslot, hslot]
    exact h.start hdraws hactive hroom rfl rfl
  | advance session changed hget hactive htesting hid hroom hold hrevision hentity hphase =>
    -- an event that moves a session out of its test is the disturbance that the condition excludes
    have hnot : session.phase ≠ .testing := by
      intro hbad
      obtain ⟨event, time, hcall, hdisturbs⟩ := htesting hbad
      rw [hcall] at hmeets
      exact hmeets session hget hbad hdisturbs
    have hopen : session.phase ∉ [ReplacementPhase.testing, .complete] := by
      rw [List.mem_cons, List.mem_singleton, not_or]
      refine ⟨hnot, fun hcomplete => ?_⟩
      unfold ReplacementSession.IsActive at hactive
      rw [hcomplete] at hactive
      exact absurd hactive (by decide)
    have hmoved : ∀ phase ∈ [ReplacementPhase.interviewing, .readyToCommit, .failed],
        phase ∉ [ReplacementPhase.testing, .complete]
          ∧ phase ∉ [ReplacementPhase.testing, .complete, .rolledBack] := by decide
    obtain ⟨hleaves, hended⟩ := hmoved changed.phase hphase
    refine h.update hkeyed hget hid hroom hold rfl (h.newest hactive) (fun _ => hactive)
      (fun hbad => absurd hbad hended) (fun _ _ => rfl) fun roomId slot hslot => ?_
    refine ⟨slot, hslot, fun _ => rfl, fun _ hleft => ?_⟩
    rw [leaves_iff_of_ended hopen] at hleft
    rw [leaves_iff_of_ended hleaves, hold, hleft]
  | commit session room binding registryEntryId hcall hget hready hslot hrevision hallocated =>
    have hactive : session.IsActive := by
      unfold ReplacementSession.IsActive
      rw [hready]
      decide
    have hentity : (committing session binding.climateEntityId).candidateEntityId ≠ none :=
      Option.some_ne_none _
    have htesting : ReplacementPhase.testing ∈ [ReplacementPhase.testing, .complete] := by decide
    have hid : (committing session binding.climateEntityId).sessionId = session.sessionId := rfl
    refine h.update hkeyed hget hid rfl rfl rfl (h.newest hactive) (fun _ => hactive)
      (fun _ => hentity) (fun _ hne => Function.update_of_ne hne _ _) fun roomId slot hroom => ?_
    -- a commit changes the binding of its own room only
    obtain ⟨old, hold, hsame, hput⟩ := putRoom_get? hkeyed hslot hroom
    refine ⟨old, hold, hsame, fun hroomId _ => ?_⟩
    rw [leaves_iff_of_committed htesting, hid, Function.update_self, hput hroomId]
  | complete session hget htesting =>
    have hactive : session.IsActive := by
      unfold ReplacementSession.IsActive
      rw [htesting]
      decide
    have hcommitted : session.phase ∈ [ReplacementPhase.testing, .complete] := by
      rw [htesting]
      exact List.mem_cons_self
    have hended : ReplacementPhase.complete ∈ [ReplacementPhase.testing, .complete] := by decide
    have hid : (completed session).sessionId = session.sessionId := rfl
    refine h.update hkeyed hget hid rfl rfl rfl (h.newest hactive) (fun _ => hactive)
      (fun _ => ?_) (fun _ _ => rfl) fun roomId slot hslot => ?_
    · refine h.entity session (Dict.mem_values_iff.2 ⟨_, hget⟩) ?_
      rw [htesting]
      exact List.mem_cons_self
    · refine ⟨slot, hslot, fun _ => rfl, fun _ hleft => ?_⟩
      rw [leaves_iff_of_committed hcommitted] at hleft
      rw [leaves_iff_of_committed hended, hid, hleft]
  | restore session room reason hget hrolls hslot =>
    have hended : ReplacementPhase.rolledBack ∉ [ReplacementPhase.testing, .complete] := by decide
    have hinactive : ¬ (rolledBack session reason).IsActive := by
      unfold ReplacementSession.IsActive
      show ReplacementPhase.rolledBack ∉ _
      decide
    have hid : (rolledBack session reason).sessionId = session.sessionId := rfl
    have hold : (rolledBack session reason).oldBinding = session.oldBinding := rfl
    refine h.update hkeyed hget hid rfl rfl rfl (h.newest_of_rollsBack hmeets hrolls)
      (fun hbad => absurd hbad hinactive) (fun _ => ?_) (fun _ _ => rfl)
      fun roomId slot hroom => ?_
    · have hphase := hrolls.phase
      simp only [List.mem_cons, List.not_mem_nil, or_false] at hphase
      refine h.entity session (Dict.mem_values_iff.2 ⟨_, hget⟩) ?_
      rcases hphase with hphase | hphase
      · rw [hphase]
        decide
      · rw [hphase]
        decide
    · obtain ⟨old, hslot, hsame, hput⟩ := putRoom_get? hkeyed hslot hroom
      refine ⟨old, hslot, hsame, fun hroomId _ => ?_⟩
      rw [leaves_iff_of_ended hended, hold, hput hroomId]

/-! ## Runs -/

theorem Reached.traced {rooms : List RoomSlot} (horigin : Engine.init rooms = .ok origin)
    (h : Reached Undisturbed rooms commits engine) : Traced origin commits engine := by
  induction h with
  | @init other hinit =>
    rw [horigin, Except.ok.injEq] at hinit
    subst hinit
    have hempty : origin.sessions = Dict.empty := by
      unfold Engine.init at horigin
      split at horigin
      · cases horigin
        rfl
      · cases horigin
    have hvalues : origin.sessions.values = [] := by
      rw [hempty]
      rfl
    refine ⟨fun _ hmem => ?_, fun _ hmem => ?_, fun _ room hroom => ⟨room, hroom⟩,
      fun roomId room first hroom hfirst => ?_⟩
    · rw [hvalues] at hmem
      cases hmem
    · rw [hvalues] at hmem
      cases hmem
    · rw [hroom, Option.some.injEq] at hfirst
      rw [newestFirst, hvalues, hfirst]
      rfl
  | call call hreached hdraws hmeets ih =>
    exact ih.change hreached.keyed hdraws hmeets (change_after hreached.keyed call)

/-- A session after a change: what it started with stays, and it leaves the test only for the end
of the replacement. -/
theorem Change.session {call : Call} (hmeets : Undisturbed engine call) (hdraws : Draws engine call)
    (hchange : Change call commits engine commits' next) {sessionId : String}
    {session : ReplacementSession} (hget : engine.sessions.get? sessionId = some session) :
    ∃ changed, next.sessions.get? sessionId = some changed
      ∧ changed.roomId = session.roomId ∧ changed.oldBinding = session.oldBinding
      ∧ (session.phase = .testing →
        changed.phase ∈ [ReplacementPhase.testing, .complete, .rolledBack]) := by
  have hsame : session.phase = .testing →
      session.phase ∈ [ReplacementPhase.testing, .complete, .rolledBack] := fun h => by
    rw [h]
    exact List.mem_cons_self
  -- the session is the one that changes, or it is another one
  have key : ∀ old changed : ReplacementSession,
      engine.sessions.get? old.sessionId = some old → changed.sessionId = old.sessionId →
      changed.roomId = old.roomId → changed.oldBinding = old.oldBinding →
      (old.phase = .testing → changed.phase ∈ [ReplacementPhase.testing, .complete, .rolledBack]) →
      ∃ after, (engine.sessions.set changed.sessionId changed).get? sessionId = some after
        ∧ after.roomId = session.roomId ∧ after.oldBinding = session.oldBinding
        ∧ (session.phase = .testing →
          after.phase ∈ [ReplacementPhase.testing, .complete, .rolledBack]) := by
    intro old changed hold hid hroom hbinding hphase
    rw [Dict.get?_set]
    by_cases heq : sessionId = changed.sessionId
    · rw [heq, hid, hold, Option.some.injEq] at hget
      subst hget
      rw [if_pos heq]
      exact ⟨changed, rfl, hroom, hbinding, hphase⟩
    · rw [if_neg heq]
      exact ⟨session, hget, rfl, rfl, hsame⟩
  cases hchange with
  | nothing => exact ⟨session, hget, rfl, rfl, hsame⟩
  | start room roomId newId now pairingSeconds time deadline hcall hactive hslot =>
    rw [hcall] at hdraws
    refine ⟨session, ?_, rfl, rfl, hsame⟩
    have hne : sessionId ≠ newId := by
      rintro rfl
      have hfresh : engine.sessions.get? sessionId = none := hdraws
      rw [hfresh] at hget
      cases hget
    exact (Dict.get?_set_of_ne _ _ hne).trans hget
  | advance old changed hold hactive htesting hid hroom hbinding hrevision hentity hphase =>
    refine key old changed hold hid hroom hbinding fun hbad => ?_
    obtain ⟨event, time, hcall, hdisturbs⟩ := htesting hbad
    rw [hcall] at hmeets
    exact absurd hdisturbs (hmeets old hold hbad)
  | commit old room binding registryEntryId hcall hold hready hslot hrevision hallocated =>
    exact key old (committing old binding.climateEntityId) hold rfl rfl rfl fun _ =>
      List.mem_cons_self
  | complete old hold htesting =>
    exact key old (completed old) hold rfl rfl rfl fun _ =>
      List.mem_cons_of_mem _ List.mem_cons_self
  | restore old room reason hold hrolls hslot =>
    exact key old (rolledBack old reason) hold rfl rfl rfl fun _ =>
      List.mem_cons_of_mem _ (List.mem_cons_of_mem _ List.mem_cons_self)

/-- In a run whose calls meet the condition: a session that failed or was rolled back leaves the
binding that its room had when it started, unless a later session of the room committed one; a room
without a session that is being tested has the binding of its last completed session, or the
initial one; and a session leaves the test for the end of the replacement only. -/
theorem swapped_or_undone {rooms : List RoomSlot} (horigin : Engine.init rooms = .ok origin)
    (h : Reached Undisturbed rooms commits engine) :
    (∀ before session after, engine.sessions.values = before ++ session :: after →
        session.phase ∈ [ReplacementPhase.failed, .rolledBack] →
        (∀ later ∈ after, later.roomId = session.roomId → later.candidateEntityId = none) →
        ∀ room, engine.rooms.get? session.roomId = some room → room.binding = session.oldBinding)
      ∧ (∀ roomId room, engine.rooms.get? roomId = some room →
        (∀ session ∈ engine.sessions.values, session.roomId = roomId →
          session.phase ≠ .testing) →
        ∃ first, origin.rooms.get? roomId = some first
          ∧ match (newestFirst engine roomId).find? fun session =>
              decide (session.phase = .complete) with
            | some session => commits session.sessionId = some room.binding
            | none => room.binding = first.binding)
      ∧ (∀ call, Draws engine call → Undisturbed engine call → ∀ sessionId session,
        engine.sessions.get? sessionId = some session →
        ∃ changed, (engine.after call).sessions.get? sessionId = some changed
          ∧ changed.roomId = session.roomId ∧ changed.oldBinding = session.oldBinding
          ∧ (session.phase = .testing →
            changed.phase ∈ [ReplacementPhase.testing, .complete, .rolledBack]))
      ∧ ∀ roomId now pairingSeconds sessionId, engine.sessions.get? sessionId = none →
        ∀ session, (engine.start roomId now pairingSeconds sessionId).2.sessions.get? sessionId
            = some session →
          ∃ room, engine.rooms.get? roomId = some room ∧ session.oldBinding = room.binding := by
  have hkeyed := h.keyed
  have htraced := h.traced horigin
  refine ⟨fun before session after hvalues hphase hlater room hroom => ?_,
    fun roomId room hroom htesting => ?_,
    fun call hdraws hmeets sessionId session hget => ?_,
    fun roomId now pairingSeconds sessionId hfresh session hget => ?_⟩
  · obtain ⟨first, hfirst⟩ := htraced.rooms _ room hroom
    have hleft := htraced.left _ room first hroom hfirst
    -- the sessions after it committed nothing, so what it left is still there
    have hended : session.phase ∉ [ReplacementPhase.testing, .complete] := by
      have : ∀ phase ∈ [ReplacementPhase.failed, .rolledBack],
          phase ∉ [ReplacementPhase.testing, .complete] := by decide
      exact this session.phase hphase
    rw [newestFirst, hvalues, List.filter_append, List.filter_cons_of_pos (by simp),
      List.reverse_append, List.reverse_cons, List.append_assoc] at hleft
    refine hleft.undone (fun other hother htested => ?_) hended
    rw [List.mem_reverse, List.mem_filter, decide_eq_true_eq] at hother
    obtain ⟨hmem, hsameRoom⟩ := hother
    have hvalue : other ∈ engine.sessions.values := by
      rw [hvalues]
      exact List.mem_append_right _ (List.mem_cons_of_mem _ hmem)
    have hmore : ∀ phase ∈ [ReplacementPhase.testing, .complete],
        phase ∈ [ReplacementPhase.testing, .complete, .rolledBack] := by decide
    exact htraced.entity other hvalue (hmore other.phase htested) (hlater other hmem hsameRoom)
  · obtain ⟨first, hfirst⟩ := htraced.rooms _ room hroom
    refine ⟨first, hfirst, (htraced.left roomId room first hroom hfirst).completed
      fun session hmem => ?_⟩
    rw [newestFirst, List.mem_reverse, List.mem_filter, decide_eq_true_eq] at hmem
    exact htesting session hmem.1 hmem.2
  · have hchange : Change call commits engine _ _ := change_after hkeyed call
    exact hchange.session hmeets hdraws hget
  · unfold Engine.start at hget
    -- a refused start adds no session
    have hnone : ∀ {result : Except ReplacementError (ReplacementSession × List CommandIntent)},
        (result, engine).2.sessions.get? sessionId ≠ some session := by
      intro result hbad
      have hbad : engine.sessions.get? sessionId = some session := hbad
      rw [hfresh] at hbad
      cases hbad
    split at hget
    · exact absurd hget hnone
    · rename_i time
      split at hget
      · exact absurd hget hnone
      · split at hget
        · exact absurd hget hnone
        · split at hget
          · exact absurd hget hnone
          · rename_i room hroom
            split at hget
            · exact absurd hget hnone
            · rename_i deadline hdeadline
              have hput : (engine.sessions.set sessionId
                  (started room time deadline sessionId)).get? sessionId = some session := hget
              rw [Dict.get?_set_self, Option.some.injEq] at hput
              rw [← hput]
              exact ⟨room, hroom, rfl⟩

/-! ## Two runs -/

/-- A second valve joins while the first one is being tested. -/
def sampleJoined : BridgeEvent :=
  { eventType := "device_joined", ieeeAddress := "0x04", friendlyName := "Valve" }

def disturbedEngine : Engine := crossedCommit.after (.handleBridgeEvent sampleJoined sampleTime)

/-- A session that fails while it is being tested leaves the untested valve in its room. -/
theorem sample_disturbed :
    ∃ commits engine, Reached (fun _ _ => True) crossedRooms commits engine
      ∧ ∃ session room, engine.sessions.values = [session] ∧ session.phase = .failed
        ∧ engine.rooms.get? session.roomId = some room
        ∧ session.oldBinding = sampleBinding "0x01" ∧ room.binding = sampleBinding "0x03" := by
  have hinit : init crossedRooms = .ok crossedStart := if_pos (by decide)
  have horigin : Reached (fun _ _ => True) crossedRooms (fun _ => none) crossedStart := .init hinit
  obtain ⟨_, hcommit⟩ := horigin.committed "first" "guest" "0x03" (fun _ _ _ => trivial) rfl
  have hlast := hcommit.call (.handleBridgeEvent sampleJoined sampleTime) trivial trivial
  have hsession : disturbedEngine.sessions.values.map (fun session =>
      (session.phase, session.roomId, session.oldBinding))
        = [(.failed, "guest", sampleBinding "0x01")] := by decide
  have hroom : (disturbedEngine.rooms.get? "guest").map RoomSlot.binding
      = some (sampleBinding "0x03") := by decide
  obtain ⟨room, hget, hbinding⟩ := Option.map_eq_some_iff.1 hroom
  obtain ⟨session, hvalues, hfields⟩ := List.map_eq_singleton_iff.1 hsession
  rw [Prod.mk.injEq, Prod.mk.injEq] at hfields
  obtain ⟨hphase, hroomId, hold⟩ := hfields
  exact ⟨_, disturbedEngine, hlast, session, room, hvalues, hphase, by rw [hroomId, hget], hold,
    hbinding⟩

theorem phase_of_values {phase : ReplacementPhase} {session : ReplacementSession}
    (h : engine.sessions.values.map ReplacementSession.phase = [phase])
    (hmem : session ∈ engine.sessions.values) : session.phase = phase := by
  have hphase : session.phase ∈ engine.sessions.values.map ReplacementSession.phase :=
    List.mem_map_of_mem hmem
  rw [h] at hphase
  exact List.mem_singleton.1 hphase

/-- A replacement that has started in the first room. -/
def crossedPairing : Engine := crossedStart.after (.start "guest" sampleTime 60 "first")

def restoredEngine : Engine :=
  crossedCommit.after (.rollback "first" "Customer requested rollback.")

/-- A committed replacement is rolled back, and its room has the first valve again. -/
theorem sample_undone :
    ∃ commits engine, Reached Undisturbed crossedRooms commits engine
      ∧ ∃ session room, engine.sessions.values = [session] ∧ session.phase = .rolledBack
        ∧ engine.rooms.get? session.roomId = some room ∧ room.binding = session.oldBinding := by
  have hinit : init crossedRooms = .ok crossedStart := if_pos (by decide)
  have horigin : Reached Undisturbed crossedRooms (fun _ => none) crossedStart := .init hinit
  have hpairing := horigin.call (.start "guest" sampleTime 60 "first") rfl trivial
  have hpairingPhase : crossedPairing.sessions.values.map ReplacementSession.phase
      = [.awaitingPairing] := by decide
  have hverified := hpairing.call (.handleBridgeEvent (sampleInterview "0x03") sampleTime) trivial
    fun session hget htesting => by
      rw [phase_of_values hpairingPhase (Dict.mem_values_iff.2 ⟨_, hget⟩)] at htesting
      cases htesting
  have hcommitted := hverified.call (.commit "first" "0x03" "climate.valve") trivial trivial
  have hcommittedPhase : crossedCommit.sessions.values.map ReplacementSession.phase =
      [.testing] := by
    decide
  have hlast := hcommitted.call (.rollback "first" "Customer requested rollback.") trivial
    fun before session after hvalues _ hcomplete => by
      have hmem : session ∈ crossedCommit.sessions.values := by
        have hvalues : crossedCommit.sessions.values = before ++ session :: after := hvalues
        rw [hvalues]
        exact List.mem_append_right _ List.mem_cons_self
      rw [phase_of_values hcommittedPhase hmem] at hcomplete
      cases hcomplete
  have hsession : restoredEngine.sessions.values.map (fun session =>
      (session.phase, session.roomId)) = [(.rolledBack, "guest")] := by decide
  have hroom : (restoredEngine.rooms.get? "guest").isSome = true := by decide
  obtain ⟨room, hget⟩ := Option.isSome_iff_exists.1 hroom
  obtain ⟨session, hvalues, hfields⟩ := List.map_eq_singleton_iff.1 hsession
  rw [Prod.mk.injEq] at hfields
  obtain ⟨hphase, hroomId⟩ := hfields
  have hslot : restoredEngine.rooms.get? session.roomId = some room := by rw [hroomId, hget]
  have hended : session.phase ∈ [ReplacementPhase.failed, .rolledBack] := by
    rw [hphase]
    decide
  exact ⟨_, restoredEngine, hlast, session, room, hvalues, hphase, hslot,
    (swapped_or_undone hinit hlast).1 [] session [] hvalues hended (fun _ hmem => by cases hmem)
      room hslot⟩

end Engine

end TrueFamily.Backend
