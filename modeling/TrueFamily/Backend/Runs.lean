import TrueFamily.Backend.Engine
import Mathlib.Data.List.Infix
import Mathlib.Data.List.Flatten

/-!
# Runs of the replacement engine

What one call can do to the engine (`Change`), and the engines that a sequence of calls reaches.
A run remembers the binding that each session committed.
-/

namespace TrueFamily.Backend

/-! ## Dictionaries -/

/-- Overwriting a value keeps its place. -/
theorem values_set_of_split {d : Dict String ReplacementSession} {k : String}
    {v w : ReplacementSession} {before after : List (String × ReplacementSession)}
    (h : d.entries = before ++ (k, v) :: after) :
    (d.set k w).values = before.map Prod.snd ++ w :: after.map Prod.snd := by
  have hkeys := d.nodup_keys
  rw [h, List.map_append, List.map_cons, List.nodup_append] at hkeys
  obtain ⟨-, hcons, hdisjoint⟩ := hkeys
  rw [List.nodup_cons] at hcons
  have hmem : k ∈ d.entries.map Prod.fst := by
    rw [h, List.map_append, List.map_cons]
    exact List.mem_append_right _ List.mem_cons_self
  have hother : ∀ entries : List (String × ReplacementSession), k ∉ entries.map Prod.fst →
      (entries.map fun e => if e.1 = k then (k, w) else e) = entries := by
    intro entries hnot
    refine (List.map_congr_left fun e he => ?_).trans (List.map_id entries)
    rw [if_neg fun heq : e.1 = k => hnot (heq ▸ List.mem_map_of_mem he)]
    rfl
  have hbefore : k ∉ before.map Prod.fst := fun hk =>
    hdisjoint k hk k List.mem_cons_self rfl
  rw [Dict.set, dif_pos hmem, Dict.values]
  simp only [h, List.map_append, List.map_cons, if_pos]
  rw [hother before hbefore, hother after hcons.1]

/-- A call of the engine; `start` comes with the ID that it draws. -/
inductive Call
  | start (roomId : String) (now : DateTime) (pairingSeconds : ℤ) (sessionId : String)
  | handleBridgeEvent (event : BridgeEvent) (now : DateTime)
  | tick (now : DateTime)
  | commit (sessionId registryEntryId climateEntityId : String)
  | confirmReadback (sessionId entityId : String) (differs : Bool)
  | rollback (sessionId reason : String)

/-- The event changes a session that is being tested. -/
def BridgeEvent.Disturbs (event : BridgeEvent) (session : ReplacementSession) : Prop :=
  event.eventType ≠ "device_announce"
    ∧ (session.candidate.any (fun candidate =>
        decide (candidate.ieeeAddress ≠ event.ieeeAddress)) = true
      ∨ event.eventType = "device_joined" ∨ event.eventType = "device_interview")

/-- The call rolls the session back. -/
def ReplacementSession.RollsBack (session : ReplacementSession) : Call → Prop
  | .rollback sessionId _ =>
    sessionId = session.sessionId ∧ session.phase ∈ [ReplacementPhase.testing, .complete]
  | .confirmReadback sessionId entityId differs =>
    sessionId = session.sessionId ∧ session.phase = .testing
      ∧ (session.candidateEntityId ≠ some entityId ∨ differs = true)
  | _ => False

theorem ReplacementSession.RollsBack.phase {session : ReplacementSession} {call : Call}
    (h : session.RollsBack call) : session.phase ∈ [ReplacementPhase.testing, .complete] := by
  cases call with
  | rollback sessionId reason => exact h.2
  | confirmReadback sessionId entityId differs =>
    rw [h.2.1]
    exact List.mem_cons_self
  | start => exact h.elim
  | handleBridgeEvent => exact h.elim
  | tick => exact h.elim
  | commit => exact h.elim

/-- The bindings that sessions committed, by session ID. -/
abbrev Commits : Type := String → Option DeviceBinding

namespace Engine

variable {engine next : Engine} {commits commits' : Commits}

/-- The engine after a call. -/
def after (engine : Engine) : Call → Engine
  | .start roomId now pairingSeconds sessionId =>
    (engine.start roomId now pairingSeconds sessionId).2
  | .handleBridgeEvent event now => (engine.handleBridgeEvent event now).2
  | .tick now => (engine.tick now).2
  | .commit sessionId registryEntryId climateEntityId =>
    (engine.commit sessionId registryEntryId climateEntityId).2
  | .confirmReadback sessionId entityId differs =>
    (engine.confirmReadback sessionId entityId differs).2
  | .rollback sessionId reason => (engine.rollback sessionId reason).2

/-- Sessions and rooms are stored under their IDs. -/
structure Keyed (engine : Engine) : Prop where
  session : ∀ sessionId session, engine.sessions.get? sessionId = some session →
    session.sessionId = sessionId
  room : ∀ roomId room, engine.rooms.get? roomId = some room → room.roomId = roomId

theorem Keyed.active (h : Keyed engine) {session : ReplacementSession}
    (hactive : engine.activeSession = some session) :
    engine.sessions.get? session.sessionId = some session ∧ session.IsActive := by
  obtain ⟨sessionId, hget⟩ := Dict.mem_values_iff.1 (List.mem_of_find?_eq_some hactive)
  have hkey := h.session sessionId session hget
  have hfound : engine.sessions.values.find? (fun session => decide session.IsActive)
      = some session := hactive
  have hphase := List.find?_some hfound
  exact ⟨by rw [hkey, hget], of_decide_eq_true hphase⟩

/-- The place of a session among the others. -/
theorem Keyed.split (h : Keyed engine) {session : ReplacementSession}
    (hget : engine.sessions.get? session.sessionId = some session) :
    ∃ before after, engine.sessions.values = before ++ session :: after
      ∧ (∀ other ∈ before ++ after, other.sessionId ≠ session.sessionId)
      ∧ ∀ changed : ReplacementSession, changed.sessionId = session.sessionId →
        (engine.putSession changed).sessions.values = before ++ changed :: after := by
  obtain ⟨before, after, hentries⟩ := List.append_of_mem (Dict.get?_eq_some_iff.1 hget)
  have hvalues : engine.sessions.values
      = before.map Prod.snd ++ session :: after.map Prod.snd := by
    rw [Dict.values, hentries, List.map_append, List.map_cons]
  refine ⟨_, _, hvalues, fun other hother hsame => ?_, fun changed hid => ?_⟩
  · -- another session of this ID would be stored under the same key
    rw [← List.map_append, List.mem_map] at hother
    obtain ⟨⟨key, value⟩, hmem, rfl⟩ := hother
    have hstored : engine.sessions.get? key = some value := by
      rw [Dict.get?_eq_some_iff, hentries]
      rcases List.mem_append.1 hmem with hmem | hmem
      · exact List.mem_append_left _ hmem
      · exact List.mem_append_right _ (List.mem_cons_of_mem _ hmem)
    have hkey : key = session.sessionId := (h.session key value hstored).symm.trans hsame
    have hkeys := engine.sessions.nodup_keys
    rw [hentries, List.map_append, List.map_cons, List.nodup_middle, List.nodup_cons,
      ← List.map_append] at hkeys
    have hin : key ∈ (before ++ after).map Prod.fst := List.mem_map_of_mem hmem
    rw [hkey] at hin
    exact hkeys.1 hin
  · rw [Engine.putSession, hid]
    exact values_set_of_split hentries

/-! ## The changes of a call -/

/-- What a call does, to the engine and to the bindings that the sessions committed. -/
inductive Change (call : Call) (commits : Commits) : Engine → Commits → Engine → Prop
  | nothing (engine : Engine) : Change call commits engine commits engine
  | start (engine : Engine) (room : RoomSlot) (roomId sessionId : String) (now : DateTime)
      (pairingSeconds : ℤ) (time deadline : AwareTime) :
      call = .start roomId now pairingSeconds sessionId →
      engine.activeSession = none → engine.rooms.get? roomId = some room →
      Change call commits engine commits (engine.putSession (started room time deadline sessionId))
  /-- An active session changes: by an event, by the time or by a failed commit. -/
  | advance (engine : Engine) (session changed : ReplacementSession) :
      engine.sessions.get? session.sessionId = some session → session.IsActive →
      (session.phase = .testing →
        ∃ event time, call = .handleBridgeEvent event (.aware time) ∧ event.Disturbs session) →
      changed.sessionId = session.sessionId → changed.roomId = session.roomId →
      changed.oldBinding = session.oldBinding →
      changed.expectedRevision = session.expectedRevision →
      changed.candidateEntityId = session.candidateEntityId →
      changed.phase ∈ [ReplacementPhase.interviewing, .readyToCommit, .failed] →
      Change call commits engine commits (engine.putSession changed)
  | commit (engine : Engine) (session : ReplacementSession) (room : RoomSlot)
      (binding : DeviceBinding) (registryEntryId : String) :
      call = .commit session.sessionId registryEntryId binding.climateEntityId →
      engine.sessions.get? session.sessionId = some session → session.phase = .readyToCommit →
      engine.rooms.get? session.roomId = some room →
      room.revision = session.expectedRevision →
      ¬ engine.IsAllocated room binding.registryEntryId binding.ieeeAddress →
      Change call commits engine
        (Function.update commits session.sessionId (some binding))
        (engine.swap session room binding)
  | complete (engine : Engine) (session : ReplacementSession) :
      engine.sessions.get? session.sessionId = some session → session.phase = .testing →
      Change call commits engine commits (engine.putSession (completed session))
  | restore (engine : Engine) (session : ReplacementSession) (room : RoomSlot) (reason : String) :
      engine.sessions.get? session.sessionId = some session → session.RollsBack call →
      engine.rooms.get? session.roomId = some room →
      Change call commits engine commits (engine.restore session room reason)

theorem change_start (engine : Engine) (roomId : String) (now : DateTime) (pairingSeconds : ℤ)
    (sessionId : String) :
    Change (.start roomId now pairingSeconds sessionId) commits engine commits
      (engine.start roomId now pairingSeconds sessionId).2 := by
  unfold Engine.start
  split
  · exact .nothing engine
  · split
    · exact .nothing engine
    · split
      · exact .nothing engine
      · rename_i hactive
        split
        · exact .nothing engine
        · rename_i room hroom
          split
          · exact .nothing engine
          · rename_i deadline hdeadline
            rw [Option.not_isSome_iff_eq_none] at hactive
            exact .start engine room roomId sessionId _ pairingSeconds _ deadline rfl hactive hroom

/-- Failing an active session. -/
theorem change_fail {call : Call} {session changed : ReplacementSession} (reason : String)
    (hget : engine.sessions.get? session.sessionId = some session) (hactive : session.IsActive)
    (htesting : session.phase = .testing →
      ∃ event time, call = .handleBridgeEvent event (.aware time) ∧ event.Disturbs session)
    (hid : changed.sessionId = session.sessionId) (hroom : changed.roomId = session.roomId)
    (hold : changed.oldBinding = session.oldBinding)
    (hrevision : changed.expectedRevision = session.expectedRevision)
    (hentity : changed.candidateEntityId = session.candidateEntityId) :
    Change call commits engine commits (engine.fail changed reason).2 := by
  have hfailed : ReplacementPhase.failed
      ∈ [ReplacementPhase.interviewing, .readyToCommit, .failed] := by decide
  exact .advance engine session (failed changed reason) hget hactive htesting hid hroom hold
    hrevision
    hentity hfailed

theorem change_handleInterview (hkeyed : Keyed engine) {session : ReplacementSession}
    {event : BridgeEvent} {time : AwareTime}
    (hactive : engine.activeSession = some session) (hdisturbs : event.Disturbs session) :
    Change (.handleBridgeEvent event (.aware time)) commits engine commits
      (engine.handleInterview session event).2 := by
  obtain ⟨hget, hphase⟩ := hkeyed.active hactive
  have htesting : session.phase = .testing → ∃ event' time',
      Call.handleBridgeEvent event (.aware time) = .handleBridgeEvent event' (.aware time')
        ∧ event'.Disturbs session :=
    fun _ => ⟨event, time, rfl, hdisturbs⟩
  have hinterviewing : ReplacementPhase.interviewing
      ∈ [ReplacementPhase.interviewing, .readyToCommit, .failed] := by decide
  have hready : ReplacementPhase.readyToCommit
      ∈ [ReplacementPhase.interviewing, .readyToCommit, .failed] := by decide
  unfold handleInterview
  split
  · exact .advance engine session _ hget hphase htesting rfl rfl rfl rfl rfl hinterviewing
  · split
    · exact change_fail _ hget hphase htesting rfl rfl rfl rfl rfl
    · split
      · exact .advance engine session _ hget hphase htesting rfl rfl rfl rfl rfl hinterviewing
      · split
        · exact change_fail _ hget hphase htesting rfl rfl rfl rfl rfl
        · split
          · exact change_fail _ hget hphase htesting rfl rfl rfl rfl rfl
          · exact .advance engine session _ hget hphase htesting rfl rfl rfl rfl rfl hready

theorem not_testing_of_expired {session : ReplacementSession} {now : AwareTime}
    (h : session.Expired now) : session.phase ≠ .testing := by
  intro htesting
  have hmem := h.1
  rw [htesting] at hmem
  exact absurd hmem (by decide)

theorem change_handleBridgeEvent (hkeyed : Keyed engine) (event : BridgeEvent) (now : DateTime) :
    Change (.handleBridgeEvent event now) commits engine commits
      (engine.handleBridgeEvent event now).2 := by
  unfold handleBridgeEvent
  split
  · exact .nothing engine
  · rename_i time
    split
    · exact .nothing engine
    · rename_i session hactive
      obtain ⟨hget, hphase⟩ := hkeyed.active hactive
      split
      · rename_i hexpired
        exact change_fail _ hget hphase
          (fun htesting => absurd htesting (not_testing_of_expired hexpired)) rfl rfl rfl rfl rfl
      · split
        · exact .nothing engine
        · rename_i hannounce
          split
          · rename_i hother
            exact change_fail _ hget hphase
              (fun _ => ⟨event, _, rfl, hannounce, Or.inl hother⟩) rfl rfl rfl rfl rfl
          · split
            · rename_i hjoined
              exact .advance engine session (joined session event) hget hphase
                (fun _ => ⟨event, _, rfl, hannounce, Or.inr (Or.inl hjoined)⟩) rfl rfl rfl rfl rfl
                List.mem_cons_self
            · split
              · exact .nothing engine
              · rename_i hinterview
                rw [not_not] at hinterview
                exact change_handleInterview hkeyed hactive
                  ⟨hannounce, Or.inr (Or.inr hinterview)⟩

theorem change_tick (hkeyed : Keyed engine) (now : DateTime) :
    Change (.tick now) commits engine commits (engine.tick now).2 := by
  unfold tick
  split
  · exact .nothing engine
  · split
    · exact .nothing engine
    · rename_i session hactive
      obtain ⟨hget, hphase⟩ := hkeyed.active hactive
      split
      · rename_i hexpired
        exact change_fail _ hget hphase
          (fun htesting => absurd htesting (not_testing_of_expired hexpired)) rfl rfl rfl rfl rfl
      · exact .nothing engine

/-- The bindings that sessions committed, once `commit` returns or raises. -/
def noteCommit (commits : Commits) (sessionId : String) : Outcome ReplacementSession → Commits
  | (.ok session, next) =>
    Function.update commits sessionId ((next.rooms.get? session.roomId).map RoomSlot.binding)
  | (.error _, _) => commits

theorem change_commit (hkeyed : Keyed engine) (sessionId registryEntryId climateEntityId : String) :
    Change (.commit sessionId registryEntryId climateEntityId) commits engine
      (noteCommit commits sessionId (engine.commit sessionId registryEntryId climateEntityId))
      (engine.commit sessionId registryEntryId climateEntityId).2 := by
  unfold Engine.commit
  split
  · exact .nothing engine
  · rename_i session hget
    obtain rfl := hkeyed.session sessionId session hget
    split
    · exact .nothing engine
    · rename_i hready
      rw [not_not] at hready
      have hphase : session.IsActive := by
        unfold ReplacementSession.IsActive
        rw [hready]
        decide
      -- a commit that is refused after this point fails the session
      have hfail : ∀ {call : Call} reason, Change call commits engine commits
          (engine.fail session reason).2 :=
        fun reason => change_fail reason hget hphase
          (fun htesting => by rw [hready] at htesting; cases htesting) rfl rfl rfl rfl rfl
      split
      · exact .nothing engine
      · rename_i room hroom
        split
        · exact hfail _
        · rename_i hrevision
          rw [not_not] at hrevision
          split
          · rename_i candidate model hcandidate hmodel
            split
            · exact hfail _
            · split
              · exact hfail _
              · rename_i hallocated
                -- the room that is stored has the new binding
                have hbound : ((engine.swap session room (bindingOf registryEntryId
                    climateEntityId candidate model)).rooms.get? session.roomId).map
                      RoomSlot.binding
                    = some (bindingOf registryEntryId climateEntityId candidate model) := by
                  rw [← hkeyed.room _ _ hroom]
                  simp [swap, putSession, putRoom]
                have hchange : Change _ commits engine _ _ := .commit engine session room
                  (bindingOf registryEntryId climateEntityId candidate model) registryEntryId rfl
                  hget hready hroom hrevision hallocated
                rw [← hbound] at hchange
                exact hchange
          · exact hfail _

theorem change_rollback (hkeyed : Keyed engine) {call : Call} (sessionId reason : String)
    (hcall : ∀ session, engine.sessions.get? sessionId = some session →
      session.phase ∈ [ReplacementPhase.testing, .complete] → session.RollsBack call) :
    Change call commits engine commits (engine.rollback sessionId reason).2 := by
  unfold rollback
  split
  · exact .nothing engine
  · rename_i session hget
    obtain rfl := hkeyed.session sessionId session hget
    split
    · exact .nothing engine
    · rename_i hphase
      rw [not_not] at hphase
      split
      · exact .nothing engine
      · rename_i room hroom
        exact .restore engine session room reason hget (hcall session hget hphase) hroom

theorem change_confirmReadback (hkeyed : Keyed engine) (sessionId entityId : String)
    (differs : Bool) :
    Change (.confirmReadback sessionId entityId differs) commits engine commits
      (engine.confirmReadback sessionId entityId differs).2 := by
  unfold confirmReadback
  split
  · exact .nothing engine
  · rename_i session hget
    obtain rfl := hkeyed.session sessionId session hget
    split
    · exact .nothing engine
    · rename_i htesting
      rw [not_not] at htesting
      have hrollback : ∀ reason, (session.candidateEntityId ≠ some entityId ∨ differs = true) →
          Change (.confirmReadback session.sessionId entityId differs) commits engine commits
            (engine.rollback session.sessionId reason).2 := fun reason hfails =>
        change_rollback hkeyed session.sessionId reason fun other hother _ => by
          rw [hget, Option.some.injEq] at hother
          rw [← hother]
          exact ⟨rfl, htesting, hfails⟩
      split
      · rename_i hentity
        exact hrollback _ (Or.inl hentity)
      · split
        · rename_i hdiffers
          exact hrollback _ (Or.inr hdiffers)
        · exact .complete engine session hget htesting

/-- The bindings that sessions committed, after a call. -/
def commitsAfter (commits : Commits) (engine : Engine) : Call → Commits
  | .commit sessionId registryEntryId climateEntityId =>
    noteCommit commits sessionId (engine.commit sessionId registryEntryId climateEntityId)
  | _ => commits

/-- Every call makes one of these changes. -/
theorem change_after (hkeyed : Keyed engine) (call : Call) :
    Change call commits engine (commitsAfter commits engine call) (engine.after call) := by
  cases call with
  | start roomId now pairingSeconds sessionId =>
    exact change_start engine roomId now pairingSeconds sessionId
  | handleBridgeEvent event now => exact change_handleBridgeEvent hkeyed event now
  | tick now => exact change_tick hkeyed now
  | commit sessionId registryEntryId climateEntityId =>
    exact change_commit hkeyed sessionId registryEntryId climateEntityId
  | confirmReadback sessionId entityId differs =>
    exact change_confirmReadback hkeyed sessionId entityId differs
  | rollback sessionId reason =>
    refine change_rollback hkeyed sessionId reason fun session hget hphase => ?_
    exact ⟨(hkeyed.session sessionId session hget).symm, hphase⟩

/-! ## Runs -/

theorem keyed_init {rooms : List RoomSlot} (h : init rooms = .ok engine) : Keyed engine := by
  unfold init at h
  split at h
  · rename_i hnodup
    cases h
    refine ⟨fun _ _ hget => (by cases hget), fun roomId room hget => ?_⟩
    obtain ⟨other, -, hkey, rfl⟩ := (Dict.get?_comprehension_eq_some_iff hnodup).1 hget
    exact hkey
  · cases h

theorem Keyed.putSession (h : Keyed engine) (session : ReplacementSession) :
    Keyed (engine.putSession session) := by
  refine ⟨fun sessionId other hget => ?_, h.room⟩
  rw [Engine.putSession, Dict.get?_set] at hget
  split at hget
  · rename_i hkey
    cases hget
    exact hkey.symm
  · exact h.session sessionId other hget

theorem Keyed.putRoom (h : Keyed engine) (room : RoomSlot) : Keyed (engine.putRoom room) := by
  refine ⟨h.session, fun roomId other hget => ?_⟩
  rw [Engine.putRoom, Dict.get?_set] at hget
  split at hget
  · rename_i hkey
    cases hget
    exact hkey.symm
  · exact h.room roomId other hget

theorem Change.keyed {call : Call} (h : Change call commits engine commits' next)
    (hkeyed : Keyed engine) :
    Keyed next := by
  cases h with
  | nothing => exact hkeyed
  | start => exact hkeyed.putSession _
  | advance => exact hkeyed.putSession _
  | commit => exact (hkeyed.putRoom _).putSession _
  | complete => exact hkeyed.putSession _
  | restore => exact (hkeyed.putRoom _).putSession _

/-- `start` draws an ID that no session has. -/
def Draws (engine : Engine) : Call → Prop
  | .start _ _ _ sessionId => engine.sessions.get? sessionId = none
  | _ => True

/-- The engines that calls reach from one without sessions, with the bindings that the sessions
committed. Every call meets a condition. -/
inductive Reached (Meets : Engine → Call → Prop) (rooms : List RoomSlot) :
    Commits → Engine → Prop
  | init {engine : Engine} : init rooms = .ok engine → Reached Meets rooms (fun _ => none) engine
  | call {commits : Commits} {engine : Engine} (call : Call) :
      Reached Meets rooms commits engine → Draws engine call → Meets engine call →
      Reached Meets rooms (commitsAfter commits engine call) (engine.after call)

theorem Reached.keyed {Meets : Engine → Call → Prop} {rooms : List RoomSlot}
    (h : Reached Meets rooms commits engine) : Keyed engine := by
  induction h with
  | init h => exact keyed_init h
  | @call commits engine call _ _ _ ih =>
    have hchange : Change call commits engine _ _ := change_after ih call
    exact hchange.keyed ih

end Engine

end TrueFamily.Backend
