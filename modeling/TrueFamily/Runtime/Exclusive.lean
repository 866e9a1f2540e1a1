import Mathlib.Data.List.ReduceOption
import TrueFamily.Runtime.Bindings

/-!
# The bindings of the rooms over runs

A commit and a rollback move a room in one way: the binding becomes the previous one, and a binding
that no other room reserves takes its place. Everything about runs is derived from that.
-/

namespace TrueFamily.Runtime

open Checked JsonValue

namespace TrueFamilyRuntime

variable {runtime next : TrueFamilyRuntime}

/-! ## What the end of a commit or of a rollback does -/

/-- The rooms and their data stay as they were. -/
def Unchanged (runtime next : TrueFamilyRuntime) : Prop :=
  next.rooms = runtime.rooms ∧ next.stored = runtime.stored

/-- A room gets another binding, and all rooms are stored. -/
structure Moved (runtime next : TrueFamilyRuntime) (room : RoomSlot) (binding : RoomBinding) :
    Prop where
  found : runtime.rooms.get? room.roomId = some room
  available : runtime.Available binding room.roomId
  rooms : next.rooms = runtime.rooms.set room.roomId (committed room binding)
  stored : next.stored = roomsAsDict next.rooms

theorem failCommit_unchanged {base : TrueFamilyRuntime} {room changed : RoomSlot}
    {result : Except String Unit} {sessionId : Text} {session : ReplacementSession}
    (hrooms : base.rooms.set room.roomId room = runtime.rooms)
    (hstored : base.stored = runtime.stored)
    (hchanged : { changed with
      binding := room.binding
      previousBinding := room.previousBinding
      revision := room.revision } = room)
    (h : base.failCommit sessionId session room changed = (result, next)) :
    Unchanged runtime next ∧ result ≠ .ok () := by
  rw [failCommit, hchanged, Prod.mk.injEq] at h
  obtain ⟨rfl, rfl⟩ := h
  exact ⟨⟨hrooms, hstored⟩, fun hok => by cases hok⟩

theorem finishCommit_cases {sessionId : Text} {tested : RoomBinding}
    {resolved : Except String (Option RoomBinding)} {stores : Bool} {result : Except String Unit}
    (hkeyed : ∀ roomId room, runtime.rooms.get? roomId = some room → room.roomId = roomId)
    (h : runtime.finishCommit sessionId tested resolved stores = (result, next)) :
    Unchanged runtime next
      ∨ (result = .ok () ∧ ∃ session room binding, runtime.sessions.get? sessionId = some session
        ∧ session.roomId = room.roomId ∧ Moved runtime next room binding) := by
  unfold finishCommit at h
  split at h
  · obtain ⟨-, rfl⟩ := Prod.mk.inj h
    exact Or.inl ⟨rfl, rfl⟩
  rename_i session hsession
  split at h
  · obtain ⟨-, rfl⟩ := Prod.mk.inj h
    exact Or.inl ⟨rfl, rfl⟩
  rename_i room hroom
  have hid := hkeyed _ _ hroom
  have hfound : runtime.rooms.get? room.roomId = some room := by rw [hid, hroom]
  have hsame := Dict.set_of_get?_eq hfound
  split at h
  · obtain ⟨-, rfl⟩ := Prod.mk.inj h
    exact Or.inl ⟨rfl, rfl⟩
  split at h
  · exact Or.inl (failCommit_unchanged hsame rfl rfl h).1
  split at h
  · exact Or.inl (failCommit_unchanged hsame rfl rfl h).1
  rename_i binding _
  simp only at h
  split at h
  · exact Or.inl (failCommit_unchanged hsame rfl rfl h).1
  rename_i havailable
  rw [not_not] at havailable
  split at h
  · obtain ⟨-, rfl⟩ := Prod.mk.inj h
    exact Or.inl ⟨rfl, rfl⟩
  split at h
  · -- the store raises: the room is put back over the committed one
    refine Or.inl (failCommit_unchanged ?_ ?_ rfl h).1
    · exact Dict.set_set_of_get?_eq hfound _
    · rfl
  · rename_i stored hpersist
    unfold persistRooms at hpersist
    split at hpersist
    · cases hpersist
      obtain ⟨rfl, rfl⟩ := Prod.mk.inj h
      exact Or.inr ⟨rfl, session, room, binding, hsession, hid.symm, hfound, havailable, rfl, rfl⟩
    · cases hpersist

theorem finishRollback_cases {roomId : Text} {expectedRevision : ℤ} {current previous : RoomBinding}
    {resolves stores : Bool} {result : Except String Unit}
    (hkeyed : ∀ roomId room, runtime.rooms.get? roomId = some room → room.roomId = roomId)
    (h : runtime.finishRollback roomId expectedRevision current previous resolves stores
      = (result, next)) :
    (result ≠ .ok () ∧ Unchanged runtime next)
      ∨ (result = .ok () ∧ ∃ room, room.roomId = roomId ∧ room.previousBinding = some previous
        ∧ Moved runtime next room previous) := by
  unfold finishRollback at h
  have raised : ∀ {message : String}, (Except.error message : Except String Unit) ≠ .ok () :=
    fun hbad => by cases hbad
  split at h
  · obtain ⟨rfl, rfl⟩ := Prod.mk.inj h
    exact Or.inl ⟨raised, rfl, rfl⟩
  rename_i room hroom
  obtain rfl := hkeyed _ _ hroom
  split at h
  · obtain ⟨rfl, rfl⟩ := Prod.mk.inj h
    exact Or.inl ⟨raised, rfl, rfl⟩
  rename_i hplan
  rw [not_not] at hplan
  obtain ⟨-, hcurrent, hprevious⟩ := hplan
  have hswapped : swapped room current previous = committed room previous := by
    rw [swapped, committed, hcurrent]
  split at h
  · obtain ⟨rfl, rfl⟩ := Prod.mk.inj h
    exact Or.inl ⟨raised, rfl, rfl⟩
  split at h
  · obtain ⟨rfl, rfl⟩ := Prod.mk.inj h
    exact Or.inl ⟨raised, rfl, rfl⟩
  rename_i havailable
  rw [not_not] at havailable
  split at h
  · obtain ⟨rfl, rfl⟩ := Prod.mk.inj h
    refine Or.inl ⟨raised, ?_, rfl⟩
    -- the store raised, and the swap is undone field by field
    have hback : { swapped room current previous with
        binding := some current
        previousBinding := some previous
        revision := room.revision } = room := by
      rw [swapped, ← hcurrent, ← hprevious]
    rw [hback]
    exact Dict.set_set_of_get?_eq hroom _
  · rename_i stored hpersist
    unfold persistRooms at hpersist
    split at hpersist
    · cases hpersist
      obtain ⟨rfl, rfl⟩ := Prod.mk.inj h
      exact Or.inr ⟨rfl, room, rfl, hprevious, hroom, havailable, by rw [hswapped]; rfl, rfl⟩
    · cases hpersist

/-! ## What a move keeps -/

theorem mem_bindings {room : RoomSlot} {binding : RoomBinding} :
    binding ∈ room.bindings ↔ room.binding = some binding ∨ room.previousBinding = some binding
      ∨ room.bootstrapBinding = some binding := by
  simp [RoomSlot.bindings, List.reduceOption_mem_iff, eq_comm]

theorem mem_bindings_committed {room : RoomSlot} {binding value : RoomBinding}
    (h : value ∈ (committed room binding).bindings) : value = binding ∨ value ∈ room.bindings := by
  rw [mem_bindings] at h
  rcases h with h | h | h
  · exact Or.inl (Option.some.inj h).symm
  · exact Or.inr (mem_bindings.2 (Or.inl h))
  · exact Or.inr (mem_bindings.2 (Or.inr (Or.inr h)))

/-- The check of a room does not look at its bindings. -/
theorem postInit_committed {room : RoomSlot} (binding : RoomBinding)
    (h : room.postInit = .ok ()) : (committed room binding).postInit = .ok () := by
  simp only [RoomSlot.postInit, bind_unit_eq_ok, check_eq_ok] at h ⊢
  obtain ⟨htexts, hmodels, hmanufacturers, hrevision⟩ := h
  refine ⟨htexts, hmodels, hmanufacturers, ?_⟩
  show 0 ≤ room.revision + 1
  omega

/-- The rooms after a move: the one that moved, and the others as they were. -/
theorem Moved.get? {room : RoomSlot} {binding : RoomBinding} (h : Moved runtime next room binding)
    (roomId : Text) :
    next.rooms.get? roomId
      = if roomId = room.roomId then some (committed room binding)
        else runtime.rooms.get? roomId := by
  rw [h.rooms, Dict.get?_set]

/-- Another room shares nothing with the binding that moves in, nor with the old ones. -/
theorem Moved.sameOwner {room : RoomSlot} {binding : RoomBinding}
    (h : Moved runtime next room binding) (hload : Loadable runtime.rooms) {other : RoomSlot}
    (hother : runtime.rooms.get? other.roomId = some other) (hne : other.roomId ≠ room.roomId)
    {value second : RoomBinding} (hvalue : value ∈ (committed room binding).bindings)
    (hsecond : second ∈ other.bindings) :
    SameOwner (other.roomId, second) (room.roomId, value) := by
  have hmem : other ∈ runtime.rooms.values := Dict.mem_values_iff.2 ⟨_, hother⟩
  rcases mem_bindings_committed hvalue with rfl | hold
  · obtain ⟨hregistry, hieee⟩ := h.available other hmem hne second hsecond
    rintro (hshared | hshared)
    · exact absurd hshared hregistry
    · exact absurd hshared hieee
  · exact hload.exclusive other hmem room (Dict.mem_values_iff.2 ⟨_, h.found⟩) second hsecond value
      hold

/-- A move keeps the rooms loadable. -/
theorem Moved.loadable {room : RoomSlot} {binding : RoomBinding}
    (h : Moved runtime next room binding) (hload : Loadable runtime.rooms) :
    Loadable next.rooms := by
  have hkeys : ∀ roomId, roomId ∈ next.rooms.keys ↔ roomId ∈ runtime.rooms.keys := by
    intro roomId
    rw [Dict.mem_keys_iff, Dict.mem_keys_iff, h.get?]
    split
    · rename_i heq
      rw [heq, h.found]
      simp
    · rfl
  have hkeyed : ∀ roomId slot, next.rooms.get? roomId = some slot → slot.roomId = roomId := by
    intro roomId slot hget
    rw [h.get?] at hget
    split at hget
    · rename_i heq
      cases hget
      exact heq.symm
    · exact hload.keyed roomId slot hget
  refine ⟨?_, hkeyed, ?_, ?_⟩
  · obtain ⟨hknown, hall⟩ := hload.known
    exact ⟨fun roomId hmem => hknown roomId ((hkeys roomId).1 hmem), fun name hname =>
      (hkeys _).2 (hall name hname)⟩
  · intro roomId slot hget
    rw [h.get?] at hget
    split at hget
    · cases hget
      exact postInit_committed binding (hload.valid _ _ h.found)
    · exact hload.valid roomId slot hget
  · intro slot hslot other hother value hvalue second hsecond
    obtain ⟨roomId, hget⟩ := Dict.mem_values_iff.1 hslot
    obtain ⟨otherId, hget'⟩ := Dict.mem_values_iff.1 hother
    have hid := hkeyed _ _ hget
    have hid' := hkeyed _ _ hget'
    rw [h.get?] at hget hget'
    -- the moved room and another one, either way round
    split at hget <;> split at hget'
    · rename_i heq heq'
      rw [hid, hid', heq, heq']
      exact fun _ => rfl
    · rename_i hne
      cases hget
      subst hid'
      exact (h.sameOwner hload hget' hne hvalue hsecond).symm
    · rename_i hne _
      cases hget'
      subst hid
      exact h.sameOwner hload hget hne hsecond hvalue
    · exact hload.exclusive slot (Dict.mem_values_iff.2 ⟨_, hget⟩) other
        (Dict.mem_values_iff.2 ⟨_, hget'⟩) value hvalue second hsecond

/-! ## Runs -/

/-- What holds in every state: the rooms are loadable, and the stored data is theirs. -/
structure Invariant (runtime : TrueFamilyRuntime) : Prop where
  loadable : Loadable runtime.rooms
  same : Same runtime.stored (roomsAsDict runtime.rooms)
  read : roomsFromDict runtime.stored = .ok runtime.rooms

/-- A step leaves the rooms and their data, or moves one room in a commit or a rollback of it. -/
theorem Step.cases {event : Event} (h : Step runtime event next)
    (hkeyed : ∀ roomId room, runtime.rooms.get? roomId = some room → room.roomId = roomId) :
    (Unchanged runtime next ∧ ∀ roomId, event ≠ .rollback roomId)
      ∨ ∃ room binding, Moved runtime next room binding
        ∧ ((∃ sessionId, event = .commit sessionId room.roomId)
          ∨ (event = .rollback room.roomId ∧ room.previousBinding = some binding)) := by
  cases h with
  | session => exact Or.inl ⟨⟨rfl, rfl⟩, fun _ hbad => by cases hbad⟩
  | commit sessionId tested resolved stores hsession h =>
    rcases finishCommit_cases hkeyed h with
      hunchanged | ⟨-, session, room, binding, hget, hid, hmoved⟩
    · exact Or.inl ⟨hunchanged, fun _ hbad => by cases hbad⟩
    · rw [hsession, Option.some.injEq] at hget
      exact Or.inr ⟨room, binding, hmoved, Or.inl ⟨sessionId, by rw [hget, hid]⟩⟩
  | commitRaised sessionId tested resolved stores h =>
    rcases finishCommit_cases hkeyed h with hunchanged | ⟨hok, -⟩
    · exact Or.inl ⟨hunchanged, fun _ hbad => by cases hbad⟩
    · cases hok
  | rollback roomId expectedRevision current previous resolves stores h =>
    rcases finishRollback_cases hkeyed h with ⟨hraised, -⟩ | ⟨-, room, rfl, hprevious, hmoved⟩
    · exact absurd rfl hraised
    · exact Or.inr ⟨room, previous, hmoved, Or.inr ⟨rfl, hprevious⟩⟩
  | rollbackRaised roomId expectedRevision current previous resolves stores h =>
    rcases finishRollback_cases hkeyed h with ⟨-, hunchanged⟩ | ⟨hok, -⟩
    · exact Or.inl ⟨hunchanged, fun _ hbad => by cases hbad⟩
    · cases hok

theorem Invariant.step {event : Event} (hinv : Invariant runtime) (h : Step runtime event next) :
    Invariant next := by
  rcases h.cases hinv.loadable.keyed with ⟨⟨hrooms, hstored⟩, -⟩ | ⟨room, binding, hmoved, -⟩
  · refine ⟨?_, ?_, ?_⟩
    · rw [hrooms]
      exact hinv.loadable
    · rw [hrooms, hstored]
      exact hinv.same
    · rw [hrooms, hstored]
      exact hinv.read
  · have hload := hmoved.loadable hinv.loadable
    refine ⟨hload, ?_, ?_⟩
    · rw [hmoved.stored]
      exact .refl _
    · rw [hmoved.stored]
      exact roomsFromDict_roomsAsDict hload

/-- No event is a commit or a rollback of the room. -/
def Quiet (roomId : Text) (events : List Event) : Prop :=
  ∀ event ∈ events, event ≠ .rollback roomId ∧ ∀ sessionId, event ≠ .commit sessionId roomId

/-- A room that is neither committed nor rolled back stays as it is. -/
theorem run_get? {events : List Event} {roomId : Text}
    (h : Trace.Run Step runtime events next) (hinv : Invariant runtime)
    (hquiet : Quiet roomId events) :
    next.rooms.get? roomId = runtime.rooms.get? roomId := by
  induction h with
  | start => rfl
  | @snoc events middle last event hrun hlast ih =>
    have hmiddle := hrun.invariant hinv fun _ _ _ hinv hstep => hinv.step hstep
    rw [← ih fun event hmem => hquiet event (List.mem_append_left _ hmem)]
    obtain ⟨hrollback, hcommit⟩ := hquiet event (List.mem_append_right _ List.mem_cons_self)
    rcases hlast.cases hmiddle.loadable.keyed with
      ⟨⟨hrooms, -⟩, -⟩ | ⟨room, binding, hmoved, hevent⟩
    · rw [hrooms]
    · rw [hmoved.get?]
      split
      · rename_i heq
        subst heq
        rcases hevent with ⟨sessionId, rfl⟩ | ⟨rfl, -⟩
        · exact absurd rfl (hcommit sessionId)
        · exact absurd rfl hrollback
      · rfl

/-- A rollback swaps the two bindings of its room. -/
theorem rollback_swaps {roomId : Text} {room : RoomSlot} (h : Step runtime (.rollback roomId) next)
    (hinv : Invariant runtime) (hroom : runtime.rooms.get? roomId = some room) :
    ∃ changed, next.rooms.get? roomId = some changed ∧ changed.binding = room.previousBinding
      ∧ changed.previousBinding = room.binding := by
  rcases h.cases hinv.loadable.keyed with ⟨-, hno⟩ | ⟨moved, binding, hmoved, hevent⟩
  · exact absurd rfl (hno roomId)
  · rcases hevent with ⟨sessionId, hbad⟩ | ⟨hid, hprevious⟩
    · cases hbad
    · cases hid
      rw [hmoved.found, Option.some.injEq] at hroom
      subst hroom
      refine ⟨committed moved binding, ?_, hprevious.symm, rfl⟩
      rw [hmoved.get?, if_pos rfl]

/-- Along every run from accepted data: the bindings of different rooms share nothing, the data is
that of the rooms and is read back, a binding changes with the revision and into the previous
binding, a call that raises leaves the rooms and data, and a second rollback undoes the first. -/
theorem bindings_stay_exclusive {data : Data} {rooms : Dict Text RoomSlot}
    {sessions : Dict Text ReplacementSession} {events : List Event}
    (hload : roomsFromDict data = .ok rooms)
    (hrun : Trace.Run Step ⟨rooms, data, sessions⟩ events runtime) :
    (∀ roomId otherId room other, runtime.rooms.get? roomId = some room →
        runtime.rooms.get? otherId = some other → roomId ≠ otherId →
        ∀ binding ∈ room.bindings, ∀ second ∈ other.bindings,
          binding.fields.registryEntryId ≠ second.fields.registryEntryId
            ∧ binding.fields.ieeeAddress ≠ second.fields.ieeeAddress)
      ∧ Same runtime.stored (roomsAsDict runtime.rooms)
      ∧ roomsFromDict runtime.stored = .ok runtime.rooms
      ∧ (∀ event next, Step runtime event next →
        (∀ roomId room changed, runtime.rooms.get? roomId = some room →
          next.rooms.get? roomId = some changed → changed.binding ≠ room.binding →
          changed.revision = room.revision + 1 ∧ changed.previousBinding = room.binding)
        ∧ ∀ message, event = .raised message →
          next.rooms = runtime.rooms ∧ next.stored = runtime.stored)
      ∧ ∀ roomId first between second last room, Step runtime (.rollback roomId) first →
        Trace.Run Step first between second → Quiet roomId between →
        Step second (.rollback roomId) last → runtime.rooms.get? roomId = some room →
        ∃ restored, last.rooms.get? roomId = some restored ∧ restored.binding = room.binding
          ∧ restored.previousBinding = room.previousBinding := by
  obtain ⟨hloadable, hsame⟩ := loadable_of_roomsFromDict hload
  have hinv : Invariant runtime :=
    hrun.invariant ⟨hloadable, hsame, hload⟩ fun _ _ _ hinv hstep => hinv.step hstep
  refine ⟨?_, hinv.same, hinv.read, ?_, ?_⟩
  · intro roomId otherId room other hroom hother hne binding hbinding second hsecond
    have howner := hinv.loadable.exclusive room (Dict.mem_values_iff.2 ⟨_, hroom⟩) other
      (Dict.mem_values_iff.2 ⟨_, hother⟩) binding hbinding second hsecond
    have hids : room.roomId ≠ other.roomId := by
      rw [hinv.loadable.keyed _ _ hroom, hinv.loadable.keyed _ _ hother]
      exact hne
    exact ⟨fun hregistry => hids (howner (Or.inl hregistry)), fun hieee =>
      hids (howner (Or.inr hieee))⟩
  · intro event next hstep
    -- a step leaves the rooms, or moves one of them to another binding
    rcases hstep.cases hinv.loadable.keyed with ⟨hunchanged, -⟩ | ⟨moved, binding, hmoved, hevent⟩
    · refine ⟨fun roomId room changed hroom hchanged hne => ?_, fun _ _ => hunchanged⟩
      rw [hunchanged.1, hroom, Option.some.injEq] at hchanged
      exact absurd (congrArg RoomSlot.binding hchanged.symm) hne
    · refine ⟨fun roomId room changed hroom hchanged hne => ?_, fun message hraised => ?_⟩
      · rw [hmoved.get?] at hchanged
        split at hchanged
        · rename_i heq
          cases hchanged
          rw [heq, hmoved.found, Option.some.injEq] at hroom
          subst hroom
          exact ⟨rfl, rfl⟩
        · rw [hroom, Option.some.injEq] at hchanged
          exact absurd (congrArg RoomSlot.binding hchanged.symm) hne
      · rcases hevent with ⟨sessionId, hevent⟩ | ⟨hevent, -⟩
        · rw [hraised] at hevent
          cases hevent
        · rw [hraised] at hevent
          cases hevent
  · intro roomId first between second last room hfirst hbetween hquiet hsecond hroom
    have hfirstInv := hinv.step hfirst
    have hsecondInv := hbetween.invariant hfirstInv fun _ _ _ hinv hstep => hinv.step hstep
    obtain ⟨swapped, hget, hbinding, hprevious⟩ := rollback_swaps hfirst hinv hroom
    -- nothing between the two rollbacks touches the room
    have hkept := run_get? hbetween hfirstInv hquiet
    obtain ⟨restored, hrestored, hback, hback'⟩ :=
      rollback_swaps hsecond hsecondInv (hkept.trans hget)
    exact ⟨restored, hrestored, hback.trans hprevious, hback'.trans hbinding⟩

/-! ## A run on concrete rooms -/

/-- The valve with the registry entry and the address. -/
def sampleFields (registryEntryId ieeeAddress : String) : BindingFields where
  registryEntryId := chars registryEntryId
  climateEntityId := chars "climate.kitchen_valve"
  mqttUniqueId := chars ieeeAddress ++ chars "_climate_zigbee2mqtt"
  deviceIdentifier := chars "zigbee2mqtt_" ++ chars ieeeAddress
  ieeeAddress := chars ieeeAddress
  model := chars "TRVZB"
  manufacturer := chars "SONOFF"
  z2mFriendlyName := chars "Kitchen valve"

def oldValve : RoomBinding := ⟨sampleFields "old" "0x00124b0000000001", by decide⟩

def newValve : RoomBinding := ⟨sampleFields "new" "0x00124b0000000002", by decide⟩

def sampleSlot (name : String) : RoomSlot where
  roomId := chars name
  displayName := chars name
  allowedModels := [chars "TRVZB"]
  allowedManufacturers := [chars "SONOFF"]
  binding := if name = "kitchen" then some oldValve else none
  previousBinding := none
  bootstrapBinding := none
  revision := 0

def sampleRooms : Dict Text RoomSlot :=
  Dict.comprehension chars sampleSlot defaultRoomIds

def sampleSession : ReplacementSession where
  roomId := chars "kitchen"
  expectedRevision := 0
  oldBinding := some oldValve
  phase := .testing
  candidateBinding := some newValve
  failureReason := none
  committedRevision := none
  audit := []

def sampleRuntime : TrueFamilyRuntime where
  rooms := sampleRooms
  stored := roomsAsDict sampleRooms
  sessions := Dict.empty.set (chars "first") sampleSession

def sampleCommit : TrueFamilyRuntime :=
  (sampleRuntime.finishCommit (chars "first") newValve (.ok (some newValve)) true).2

def sampleRollback : TrueFamilyRuntime :=
  (sampleCommit.finishRollback (chars "kitchen") 1 newValve oldValve true true).2

/-- A commit and a rollback: the kitchen has its old valve, and its data is read back. -/
theorem sample_commit_undone :
    Trace.Run Step sampleRuntime
        ([] ++ [.commit (chars "first") sampleSession.roomId] ++ [.rollback (chars "kitchen")])
        sampleRollback
      ∧ (sampleRollback.rooms.get? (chars "kitchen")).map (fun room =>
          (room.binding, room.previousBinding, room.revision)) =
        some (some oldValve, some newValve, 2)
      ∧ roomsFromDict sampleRollback.stored = .ok sampleRollback.rooms := by
  have hload : roomsFromDict (roomsAsDict sampleRooms) = .ok sampleRooms := by decide
  have hcommit : (sampleRuntime.finishCommit (chars "first") newValve (.ok (some newValve)) true).1
      = .ok () := by decide
  have hrollback : (sampleCommit.finishRollback (chars "kitchen") 1 newValve oldValve true true).1
      = .ok () := by decide
  have hrun : Trace.Run Step sampleRuntime
      ([] ++ [.commit (chars "first") sampleSession.roomId] ++ [.rollback (chars "kitchen")])
      sampleRollback :=
    (Trace.Run.start.snoc (.commit _ _ _ _ (Dict.get?_set_self _ _ _) (Prod.ext hcommit rfl))).snoc
      (.rollback _ _ _ _ _ _ (Prod.ext hrollback rfl))
  exact ⟨hrun, by decide, (bindings_stay_exclusive hload hrun).2.2.1⟩

end TrueFamilyRuntime

end TrueFamily.Runtime
