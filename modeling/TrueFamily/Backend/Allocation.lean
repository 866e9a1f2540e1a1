import TrueFamily.Backend.Runs
import Mathlib.Data.List.Pairwise

/-!
# One room for each valve

The bindings of the rooms stay distinct, and a rollback restores a binding only over the one that
its session committed, in the runs whose rollbacks meet `MayRollBack` (`bindings_exclusive`). The
engine itself does not check it (`stale_rollback`).
-/

namespace TrueFamily.Backend

namespace Engine

variable {engine next : Engine} {commits commits' : Commits}

/-- The bindings of two rooms share neither the registry entry nor the address. -/
def Distinct (first second : DeviceBinding) : Prop :=
  first.registryEntryId ≠ second.registryEntryId ∧ first.ieeeAddress ≠ second.ieeeAddress

instance (first second : DeviceBinding) : Decidable (Distinct first second) := instDecidableAnd

/-- The room of a session has the revision of the session's commit, and no other room has the
valve that the session replaced. -/
def MayRollBack (engine : Engine) (session : ReplacementSession) : Prop :=
  ∀ room, engine.rooms.get? session.roomId = some room →
    room.revision = session.expectedRevision + 1
      ∧ ¬ engine.IsAllocated room session.oldBinding.registryEntryId session.oldBinding.ieeeAddress

/-- A call that rolls a session back may do so. -/
def RollsBackOwn (engine : Engine) (call : Call) : Prop :=
  ∀ session, engine.sessions.get? session.sessionId = some session → session.RollsBack call →
    MayRollBack engine session

/-! ## The invariant -/

/-- What holds in every run whose rollbacks meet the condition. -/
structure Exclusive (commits : Commits) (engine : Engine) : Prop where
  distinct : ∀ roomId room otherId other, engine.rooms.get? roomId = some room →
    engine.rooms.get? otherId = some other → roomId ≠ otherId → Distinct room.binding other.binding
  room : ∀ sessionId session, engine.sessions.get? sessionId = some session →
    ∃ room, engine.rooms.get? session.roomId = some room
      ∧ session.expectedRevision ≤ room.revision
  known : ∀ sessionId binding, commits sessionId = some binding →
    engine.sessions.get? sessionId ≠ none
  committed : ∀ sessionId session, engine.sessions.get? sessionId = some session →
    session.phase ∈ [ReplacementPhase.testing, .complete] → commits sessionId ≠ none
  holds : ∀ sessionId session binding room, engine.sessions.get? sessionId = some session →
    commits sessionId = some binding → engine.rooms.get? session.roomId = some room →
    session.expectedRevision + 1 ≤ room.revision
      ∧ (room.revision = session.expectedRevision + 1 → room.binding = binding)

theorem distinct_of_not_allocated {room other : RoomSlot}
    {binding : DeviceBinding} (hother : engine.rooms.get? other.roomId = some other)
    (hne : other.roomId ≠ room.roomId)
    (h : ¬ engine.IsAllocated room binding.registryEntryId binding.ieeeAddress) :
    Distinct other.binding binding := by
  have hmem : other ∈ engine.rooms.values := Dict.mem_values_iff.2 ⟨_, hother⟩
  exact ⟨fun heq => h ⟨other, hmem, hne, Or.inl heq⟩, fun heq => h ⟨other, hmem, hne, Or.inr heq⟩⟩

/-- A room gets a binding that no other room shares: the rooms stay distinct. -/
theorem Exclusive.distinct_putRoom (h : Exclusive commits engine) (hkeyed : Keyed engine)
    {room : RoomSlot} {binding : DeviceBinding} {revision : ℤ}
    (hallocated : ¬ engine.IsAllocated room binding.registryEntryId binding.ieeeAddress)
    (roomId : String) (first : RoomSlot) (otherId : String) (second : RoomSlot)
    (hfirst : (engine.putRoom { room with binding := binding, revision := revision }).rooms.get?
      roomId = some first)
    (hsecond : (engine.putRoom { room with binding := binding, revision := revision }).rooms.get?
      otherId = some second)
    (hne : roomId ≠ otherId) : Distinct first.binding second.binding := by
  simp only [putRoom, Dict.get?_set] at hfirst hsecond
  split at hfirst
  · rename_i hroomId
    rw [if_neg (by rw [← hroomId]; exact hne.symm)] at hsecond
    cases hfirst
    have hkey := hkeyed.room otherId second hsecond
    obtain ⟨hregistry, hieee⟩ := distinct_of_not_allocated (by rw [hkey, hsecond])
      (by rw [hkey, ← hroomId]; exact hne.symm) hallocated
    exact ⟨hregistry.symm, hieee.symm⟩
  · rename_i hroomId
    split at hsecond
    · rename_i hotherId
      cases hsecond
      have hkey := hkeyed.room roomId first hfirst
      exact distinct_of_not_allocated (by rw [hkey, hfirst])
        (by rw [hkey]; exact hroomId) hallocated
    · exact h.distinct roomId first otherId second hfirst hsecond hne

/-- A session changes and the rooms do not. -/
theorem Exclusive.putSession (h : Exclusive commits engine) {session changed : ReplacementSession}
    (hget : engine.sessions.get? session.sessionId = some session)
    (hid : changed.sessionId = session.sessionId) (hroom : changed.roomId = session.roomId)
    (hrevision : changed.expectedRevision = session.expectedRevision)
    (hphase : changed.phase ∈ [ReplacementPhase.testing, .complete] →
      session.phase ∈ [ReplacementPhase.testing, .complete]) :
    Exclusive commits (engine.putSession changed) := by
  refine ⟨h.distinct, fun sessionId other hother => ?_, fun sessionId binding hcommit => ?_,
    fun sessionId other hother hactive => ?_,
    fun sessionId other binding room hother hcommit hslot => ?_⟩
  · rw [Engine.putSession, Dict.get?_set] at hother
    split at hother
    · cases hother
      rw [hroom, hrevision]
      exact h.room _ _ hget
    · exact h.room sessionId other hother
  · rw [Engine.putSession, Dict.get?_set]
    split
    · simp
    · exact h.known sessionId binding hcommit
  · rw [Engine.putSession, Dict.get?_set] at hother
    split at hother
    · rename_i hsessionId
      cases hother
      rw [hsessionId, hid]
      exact h.committed _ _ hget (hphase hactive)
    · exact h.committed sessionId other hother hactive
  · rw [Engine.putSession, Dict.get?_set] at hother
    split at hother
    · rename_i hsessionId
      cases hother
      rw [hsessionId, hid] at hcommit
      rw [hroom] at hslot
      rw [hrevision]
      exact h.holds _ _ _ _ hget hcommit hslot
    · exact h.holds sessionId other binding room hother hcommit hslot

/-- A room gets a binding that no other room shares, and the next revision. -/
theorem Exclusive.putRoom (h : Exclusive commits engine) (hkeyed : Keyed engine) {room : RoomSlot}
    {binding : DeviceBinding} (hslot : engine.rooms.get? room.roomId = some room)
    (hallocated : ¬ engine.IsAllocated room binding.registryEntryId binding.ieeeAddress) :
    Exclusive commits
      (engine.putRoom { room with binding := binding, revision := room.revision + 1 }) := by
  refine ⟨h.distinct_putRoom hkeyed hallocated, fun sessionId session hget => ?_, h.known,
    h.committed, fun sessionId session value other hget hcommit hother => ?_⟩
  · obtain ⟨old, hold, hrevision⟩ := h.room sessionId session hget
    rw [Engine.putRoom, Dict.get?_set]
    split
    · rename_i hroomId
      rw [hroomId, hslot] at hold
      cases hold
      refine ⟨_, rfl, ?_⟩
      show session.expectedRevision ≤ room.revision + 1
      omega
    · exact ⟨old, hold, hrevision⟩
  · rw [Engine.putRoom, Dict.get?_set] at hother
    split at hother
    · rename_i hroomId
      cases hother
      obtain ⟨hrevision, -⟩ := h.holds sessionId session value room hget hcommit
        (by rw [hroomId, hslot])
      -- the revision of an earlier commit does not come back
      refine ⟨?_, fun hsame => ?_⟩
      · show session.expectedRevision + 1 ≤ room.revision + 1
        omega
      · have hsame : room.revision + 1 = session.expectedRevision + 1 := hsame
        omega
    · exact h.holds sessionId session value other hget hcommit hother

/-- A session starts in a room. -/
theorem Exclusive.start (h : Exclusive commits engine) {session : ReplacementSession}
    {room : RoomSlot} (hfresh : engine.sessions.get? session.sessionId = none)
    (hslot : engine.rooms.get? session.roomId = some room)
    (hrevision : session.expectedRevision = room.revision)
    (hphase : session.phase = .awaitingPairing) :
    Exclusive commits (engine.putSession session) := by
  have hunknown : commits session.sessionId = none := by
    cases hcommit : commits session.sessionId with
    | none => rfl
    | some binding => exact absurd hfresh (h.known _ binding hcommit)
  refine ⟨h.distinct, fun sessionId other hother => ?_, fun sessionId binding hcommit => ?_,
    fun sessionId other hother hactive => ?_,
    fun sessionId other binding slot hother hcommit hroom => ?_⟩
  · rw [Engine.putSession, Dict.get?_set] at hother
    split at hother
    · cases hother
      exact ⟨room, hslot, Int.le_of_eq hrevision⟩
    · exact h.room sessionId other hother
  · rw [Engine.putSession, Dict.get?_set]
    split
    · simp
    · exact h.known sessionId binding hcommit
  · rw [Engine.putSession, Dict.get?_set] at hother
    split at hother
    · cases hother
      rw [hphase] at hactive
      exact absurd hactive (by decide)
    · exact h.committed sessionId other hother hactive
  · rw [Engine.putSession, Dict.get?_set] at hother
    split at hother
    · rename_i hsessionId
      rw [hsessionId, hunknown] at hcommit
      cases hcommit
    · exact h.holds sessionId other binding slot hother hcommit hroom

/-- A session has committed the binding that its room got. -/
theorem Exclusive.note (h : Exclusive commits engine) {session changed : ReplacementSession}
    {room : RoomSlot} {binding : DeviceBinding}
    (hget : engine.sessions.get? session.sessionId = some session)
    (hid : changed.sessionId = session.sessionId) (hroomId : changed.roomId = session.roomId)
    (hexpected : changed.expectedRevision = session.expectedRevision)
    (hslot : engine.rooms.get? session.roomId = some room)
    (hrevision : room.revision = session.expectedRevision + 1) (hbinding : room.binding = binding) :
    Exclusive (Function.update commits session.sessionId (some binding))
      (engine.putSession changed) := by
  refine ⟨h.distinct, fun sessionId other hother => ?_, fun sessionId value hcommit => ?_,
    fun sessionId other hother hactive => ?_,
    fun sessionId other value slot hother hcommit hroom => ?_⟩
  · rw [Engine.putSession, Dict.get?_set] at hother
    split at hother
    · cases hother
      rw [hroomId, hexpected]
      exact h.room _ _ hget
    · exact h.room sessionId other hother
  · rw [Engine.putSession, Dict.get?_set]
    split
    · simp
    · rename_i hne
      rw [hid] at hne
      rw [Function.update_of_ne hne] at hcommit
      exact h.known sessionId value hcommit
  · by_cases hsame : sessionId = session.sessionId
    · rw [hsame, Function.update_self]
      simp
    · rw [Engine.putSession, Dict.get?_set, hid, if_neg hsame] at hother
      rw [Function.update_of_ne hsame]
      exact h.committed sessionId other hother hactive
  · by_cases hsame : sessionId = session.sessionId
    · rw [Engine.putSession, Dict.get?_set, hid, if_pos hsame] at hother
      cases hother
      rw [hsame, Function.update_self] at hcommit
      cases hcommit
      have hroom : engine.rooms.get? changed.roomId = some slot := hroom
      rw [hroomId, hslot] at hroom
      cases hroom
      rw [hexpected]
      exact ⟨Int.le_of_eq hrevision.symm, fun _ => hbinding⟩
    · rw [Engine.putSession, Dict.get?_set, hid, if_neg hsame] at hother
      rw [Function.update_of_ne hsame] at hcommit
      exact h.holds sessionId other value slot hother hcommit hroom

/-- Every change of a call that meets the condition keeps the invariant. -/
theorem Exclusive.change (h : Exclusive commits engine) (hkeyed : Keyed engine) {call : Call}
    (hdraws : Draws engine call) (hmeets : RollsBackOwn engine call)
    (hchange : Change call commits engine commits' next) : Exclusive commits' next := by
  cases hchange with
  | nothing => exact h
  | start room roomId sessionId now pairingSeconds time deadline hcall hactive hslot =>
    rw [hcall] at hdraws
    refine h.start hdraws ?_ rfl rfl
    show engine.rooms.get? room.roomId = some room
    rw [hkeyed.room roomId room hslot, hslot]
  | advance session changed hget hactive htesting hid hroom hold hrevision hentity hphase =>
    refine h.putSession hget hid hroom hrevision fun hbad => ?_
    simp only [List.mem_cons, List.not_mem_nil, or_false] at hphase hbad
    rcases hphase with hphase | hphase | hphase
    · rw [hphase] at hbad
      simp at hbad
    · rw [hphase] at hbad
      simp at hbad
    · rw [hphase] at hbad
      simp at hbad
  | commit session room binding registryEntryId hcall hget hready hslot hrevision hallocated =>
    have hroomId := hkeyed.room _ _ hslot
    have hput : Exclusive commits
        (engine.putRoom { room with binding := binding, revision := room.revision + 1 }) :=
      h.putRoom hkeyed (by rw [hroomId, hslot]) hallocated
    have hget' : (engine.putRoom { room with binding := binding, revision := room.revision + 1 }
        ).rooms.get? session.roomId
          = some { room with binding := binding, revision := room.revision + 1 } := by
      rw [Engine.putRoom, hroomId, Dict.get?_set_self]
    refine hput.note hget rfl rfl rfl hget' ?_ rfl
    rw [← hrevision]
  | complete session hget htesting =>
    refine h.putSession hget rfl rfl rfl fun _ => ?_
    rw [htesting]
    exact List.mem_cons_self
  | restore session room reason hget hrolls hslot =>
    obtain ⟨-, hallocated⟩ := hmeets session hget hrolls room hslot
    have hroomId := hkeyed.room _ _ hslot
    have hput : Exclusive commits (engine.putRoom
        { room with binding := session.oldBinding, revision := room.revision + 1 }) :=
      h.putRoom hkeyed (by rw [hroomId, hslot]) hallocated
    have hended : ReplacementPhase.rolledBack ∉ [ReplacementPhase.testing, .complete] := by decide
    exact hput.putSession hget rfl rfl rfl fun hbad => absurd hbad hended

/-! ## Runs -/

theorem Exclusive.init {rooms : List RoomSlot}
    (hdistinct : rooms.Pairwise fun first second => Distinct first.binding second.binding)
    (h : init rooms = .ok engine) : Exclusive (fun _ => none) engine := by
  unfold Engine.init at h
  split at h
  · rename_i hnodup
    cases h
    refine ⟨fun roomId room otherId other hroom hother hne => ?_, fun _ _ hget => (by cases hget),
      fun _ _ hcommit => (by cases hcommit), fun _ _ hget => (by cases hget),
      fun _ _ _ _ hget => (by cases hget)⟩
    obtain ⟨first, hfirst, hfirstId, rfl⟩ :=
      (Dict.get?_comprehension_eq_some_iff hnodup).1 hroom
    obtain ⟨second, hsecond, hsecondId, rfl⟩ :=
      (Dict.get?_comprehension_eq_some_iff hnodup).1 hother
    have hsymm : Std.Symm fun first second : RoomSlot =>
        Distinct first.binding second.binding := ⟨fun _ _ h => ⟨h.1.symm, h.2.symm⟩⟩
    refine hdistinct.forall hfirst hsecond fun hsame => hne ?_
    rw [← hfirstId, ← hsecondId, hsame]
    rfl
  · cases h

theorem Reached.exclusive {rooms : List RoomSlot}
    (hdistinct : rooms.Pairwise fun first second => Distinct first.binding second.binding)
    (h : Reached RollsBackOwn rooms commits engine) : Exclusive commits engine := by
  induction h with
  | init h => exact .init hdistinct h
  | call call hreached hdraws hmeets ih =>
    exact ih.change hreached.keyed hdraws hmeets (change_after hreached.keyed call)

theorem rollback_raises {sessionId reason : String}
    (h : ∀ session, engine.sessions.get? sessionId = some session →
      session.phase ∉ [ReplacementPhase.testing, .complete]) :
    ∃ error, engine.rollback sessionId reason = (.error error, engine) := by
  unfold rollback
  split
  · exact ⟨_, rfl⟩
  · rename_i session hget
    rw [if_pos (h session hget)]
    exact ⟨_, rfl⟩

/-- In a run whose rollbacks meet the condition, the bindings of the rooms are distinct, a rollback
restores a binding over the one that its session committed, and one of any other session raises and
changes nothing. -/
theorem bindings_exclusive {rooms : List RoomSlot}
    (hdistinct : rooms.Pairwise fun first second => Distinct first.binding second.binding)
    (h : Reached RollsBackOwn rooms commits engine) :
    (∀ room ∈ engine.rooms.values, ∀ other ∈ engine.rooms.values, room.roomId ≠ other.roomId →
        Distinct room.binding other.binding)
      ∧ (∀ call session, RollsBackOwn engine call →
        engine.sessions.get? session.sessionId = some session → session.RollsBack call →
        ∃ room, engine.rooms.get? session.roomId = some room
          ∧ commits session.sessionId = some room.binding
          ∧ room.revision = session.expectedRevision + 1)
      ∧ ∀ sessionId reason, (∀ session, engine.sessions.get? sessionId = some session →
          session.phase ∉ [ReplacementPhase.testing, .complete]) →
        ∃ error, engine.rollback sessionId reason = (.error error, engine) := by
  have hkeyed := h.keyed
  have hexclusive := h.exclusive hdistinct
  refine ⟨fun room hroom other hother hne => ?_, fun call session hmeets hget hrolls => ?_,
    fun sessionId reason hphase => rollback_raises hphase⟩
  · obtain ⟨roomId, hroom⟩ := Dict.mem_values_iff.1 hroom
    obtain ⟨otherId, hother⟩ := Dict.mem_values_iff.1 hother
    refine hexclusive.distinct roomId room otherId other hroom hother ?_
    rw [← hkeyed.room roomId room hroom, ← hkeyed.room otherId other hother]
    exact hne
  · obtain ⟨room, hroom, -⟩ := hexclusive.room _ session hget
    obtain ⟨hrevision, -⟩ := hmeets session hget hrolls room hroom
    have hcommitted := hexclusive.committed _ session hget hrolls.phase
    obtain ⟨binding, hbinding⟩ := Option.ne_none_iff_exists'.1 hcommitted
    obtain ⟨-, hholds⟩ := hexclusive.holds _ session binding room hget hbinding hroom
    exact ⟨room, hroom, by rw [hbinding, hholds hrevision], hrevision⟩

/-! ## Two runs -/

/-- The valve with an address. -/
def sampleBinding (ieeeAddress : String) : DeviceBinding :=
  ⟨ieeeAddress, "climate.valve", ieeeAddress, "BRT-100-TRV", "Moes", "Valve"⟩

def sampleRoom (roomId ieeeAddress : String) : RoomSlot :=
  { roomId := roomId
    displayName := roomId
    allowedModels := ["BRT-100-TRV"]
    binding := sampleBinding ieeeAddress }

def sampleTime : DateTime := .aware ⟨0, 0⟩

/-- The successful interview of a valve. -/
def sampleInterview (ieeeAddress : String) : BridgeEvent :=
  { eventType := "device_interview"
    ieeeAddress := ieeeAddress
    friendlyName := "Valve"
    interviewStatus := some "successful"
    supported := some true
    model := some "BRT-100-TRV"
    manufacturer := some "Moes" }

/-- A replacement in a room, up to its commit. -/
def sampleCommit (sessionId roomId ieeeAddress : String) : List Call :=
  [.start roomId sampleTime 60 sessionId,
    .handleBridgeEvent (sampleInterview ieeeAddress) sampleTime,
    .commit sessionId ieeeAddress "climate.valve"]

/-- A replacement in a room, up to its confirmed read-back. -/
def sampleReplacement (sessionId roomId ieeeAddress : String) : List Call :=
  sampleCommit sessionId roomId ieeeAddress ++ [.confirmReadback sessionId "climate.valve" false]

/-- A replacement in a room, up to its commit. -/
theorem Reached.committed {Meets : Engine → Call → Prop} {rooms : List RoomSlot}
    (sessionId roomId ieeeAddress : String) (h : Reached Meets rooms commits engine)
    (hmeets : ∀ engine call, (∀ session : ReplacementSession, ¬ session.RollsBack call) →
      Meets engine call)
    (hfresh : engine.sessions.get? sessionId = none) :
    ∃ commits', Reached Meets rooms commits'
      ((sampleCommit sessionId roomId ieeeAddress).foldl after engine) := by
  have hstarted := Reached.call (.start roomId sampleTime 60 sessionId) h hfresh
    (hmeets _ _ fun _ hrolls => hrolls)
  have hverified := hstarted.call (.handleBridgeEvent (sampleInterview ieeeAddress) sampleTime)
    trivial (hmeets _ _ fun _ hrolls => hrolls)
  exact ⟨_, hverified.call (.commit sessionId ieeeAddress "climate.valve") trivial
    (hmeets _ _ fun _ hrolls => hrolls)⟩

theorem Reached.replacement {rooms : List RoomSlot} (sessionId roomId ieeeAddress : String)
    (h : Reached (fun _ _ => True) rooms commits engine)
    (hfresh : engine.sessions.get? sessionId = none) :
    ∃ commits', Reached (fun _ _ => True) rooms commits'
      ((sampleReplacement sessionId roomId ieeeAddress).foldl after engine) := by
  obtain ⟨_, hcommitted⟩ := h.committed sessionId roomId ieeeAddress (fun _ _ _ => trivial) hfresh
  exact ⟨_, hcommitted.call (.confirmReadback sessionId "climate.valve" false) trivial trivial⟩

def crossedRooms : List RoomSlot := [sampleRoom "guest" "0x01", sampleRoom "study" "0x02"]

def crossedStart : Engine := ⟨Dict.comprehension RoomSlot.roomId id crossedRooms, Dict.empty⟩

/-- The first room gets a new valve. -/
def crossedFirst : Engine := (sampleReplacement "first" "guest" "0x03").foldl after crossedStart

/-- The second room gets the valve that the first room had. -/
def crossedSecond : Engine := (sampleReplacement "second" "study" "0x01").foldl after crossedFirst

def crossedLast : Engine :=
  crossedSecond.after (.rollback "first" "Customer requested rollback.")

/-- A rollback of the first replacement binds the same valve to both rooms. -/
theorem stale_rollback :
    (crossedRooms.Pairwise fun first second => Distinct first.binding second.binding)
      ∧ ∃ commits engine, Reached (fun _ _ => True) crossedRooms commits engine
        ∧ ∃ room other, engine.rooms.get? "guest" = some room
          ∧ engine.rooms.get? "study" = some other ∧ room.binding = other.binding := by
  have hinit : init crossedRooms = .ok crossedStart := if_pos (by decide)
  obtain ⟨_, hfirst⟩ := (Reached.init hinit).replacement "first" "guest" "0x03" rfl
  obtain ⟨_, hsecond⟩ := hfirst.replacement "second" "study" "0x01"
    (Option.isNone_iff_eq_none.1 (by decide))
  have hlast := hsecond.call (.rollback "first" "Customer requested rollback.") trivial trivial
  have hguest : (crossedLast.rooms.get? "guest").map RoomSlot.binding
      = some (sampleBinding "0x01") := by decide
  have hstudy : (crossedLast.rooms.get? "study").map RoomSlot.binding
      = some (sampleBinding "0x01") := by decide
  obtain ⟨room, hroom, hbinding⟩ := Option.map_eq_some_iff.1 hguest
  obtain ⟨other, hother, hbinding'⟩ := Option.map_eq_some_iff.1 hstudy
  exact ⟨by decide, _, crossedLast, hlast, room, other, hroom, hother,
    hbinding.trans hbinding'.symm⟩

/-- A replacement that is committed in the first room. -/
def crossedCommit : Engine := (sampleCommit "first" "guest" "0x03").foldl after crossedStart

/-- A committed replacement is rolled back, and the rooms stay distinct. -/
theorem sample_bindings_exclusive :
    ∃ commits engine, Reached RollsBackOwn crossedRooms commits engine
      ∧ (engine.sessions.get? "first").map ReplacementSession.phase = some .rolledBack
      ∧ ∀ room ∈ engine.rooms.values, ∀ other ∈ engine.rooms.values, room.roomId ≠ other.roomId →
        Distinct room.binding other.binding := by
  have hinit : init crossedRooms = .ok crossedStart := if_pos (by decide)
  have hstart : Reached RollsBackOwn crossedRooms (fun _ => none) crossedStart := .init hinit
  obtain ⟨_, hcommit⟩ := hstart.committed "first" "guest" "0x03"
    (fun _ _ hrolls session _ hbad => absurd hbad (hrolls session)) rfl
  have hown : (crossedCommit.sessions.get? "first").all (fun session =>
      (crossedCommit.rooms.get? session.roomId).all fun room =>
        decide (room.revision = session.expectedRevision + 1
          ∧ ¬ crossedCommit.IsAllocated room session.oldBinding.registryEntryId
            session.oldBinding.ieeeAddress)) = true := by decide
  have hlast := hcommit.call (.rollback "first" "Customer requested rollback.") trivial
    fun session hget hrolls room hroom => by
      have hget : crossedCommit.sessions.get? session.sessionId = some session := hget
      have hroom : crossedCommit.rooms.get? session.roomId = some room := hroom
      rw [← hrolls.1] at hget
      rw [hget, Option.all_some, hroom, Option.all_some] at hown
      exact of_decide_eq_true hown
  have hphase :
      ((crossedCommit.after (.rollback "first" "Customer requested rollback.")).sessions.get?
        "first").map ReplacementSession.phase = some .rolledBack := by decide
  exact ⟨_, _, hlast, hphase, (bindings_exclusive (by decide) hlast).1⟩

end Engine

end TrueFamily.Backend
