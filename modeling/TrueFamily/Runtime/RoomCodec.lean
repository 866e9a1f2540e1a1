import TrueFamily.Runtime.Rooms
import TrueFamily.Probe.Bounds

/-!
# The codec of the rooms

What `rooms_as_dict` writes, `rooms_from_dict` reads back, and data that `rooms_from_dict` accepts
are the same dictionary as what `rooms_as_dict` writes for the rooms.
-/

namespace TrueFamily.Runtime

open Checked JsonValue

/-! ## Fields -/

theorem hasFields_of_keys {data : List (Text × Data)} {names : List String}
    (h : data.map Prod.fst = names.map chars) : HasFields data names := by
  constructor
  · intro entry hmem
    have hkey : entry.1 ∈ names.map chars := h ▸ List.mem_map_of_mem hmem
    obtain ⟨name, hname, heq⟩ := List.mem_map.1 hkey
    exact ⟨name, hname, heq.symm⟩
  · intro name hname
    have hkey : chars name ∈ data.map Prod.fst := h ▸ List.mem_map_of_mem hname
    obtain ⟨entry, hmem, heq⟩ := List.mem_map.1 hkey
    exact ⟨entry, hmem, heq⟩

theorem field_of_mem {data : List (Text × Data)} (hnodup : (data.map Prod.fst).Nodup)
    {name : String} {value : Data} (hmem : (chars name, value) ∈ data) :
    field data name = value := by
  rw [field, Probe.lookup_of_mem hnodup hmem]
  rfl

theorem binding_keys_nodup : (RoomBinding.fieldNames.map chars).Nodup := by decide

theorem room_keys_nodup : (RoomSlot.fieldNames.map chars).Nodup := by decide

/-! ## Round trips -/

namespace RoomBinding

theorem build_fields (binding : RoomBinding) : build binding.fields = .ok binding := by
  unfold build
  split
  · rfl
  · rename_i message h
    rw [binding.valid] at h
    cases h

theorem build_eq_ok {fields : BindingFields} {binding : RoomBinding}
    (h : build fields = .ok binding) : binding.fields = fields := by
  unfold build at h
  split at h
  · cases h
    rfl
  · cases h

theorem readText_eq_ok {data : List (Text × Data)} {name : String} {text : Text} :
    readText data name = .ok text ↔ field data name = .str text ∧ isCanonical text = true := by
  unfold readText
  split
  · rename_i value hvalue
    simp only [bind_unit_eq_ok, check_eq_ok, pure_eq_ok]
    constructor
    · rintro ⟨hcanonical, rfl⟩
      exact ⟨hvalue, hcanonical⟩
    · rintro ⟨hfield, hcanonical⟩
      rw [hvalue, JsonValue.str.injEq] at hfield
      subst hfield
      exact ⟨hcanonical, rfl⟩
  · rename_i hother
    constructor
    · intro h
      cases h
    · rintro ⟨hfield, -⟩
      exact absurd hfield (hother text)

theorem canonical (binding : RoomBinding) :
    ∀ entry ∈ binding.fields.entries, isCanonical entry.2 = true := by
  have hvalid := binding.valid
  simp only [BindingFields.postInit, bind_unit_eq_ok, check_eq_ok, forAll_eq_ok] at hvalid
  exact hvalid.1

theorem fromDict_asDict (binding : RoomBinding) : fromDict binding.asDict = .ok binding := by
  have hkeys : (binding.fields.entries.map fun entry =>
      ((chars entry.1, .str entry.2) : Text × Data)).map Prod.fst = fieldNames.map chars := rfl
  have hnodup : ((binding.fields.entries.map fun entry =>
      ((chars entry.1, .str entry.2) : Text × Data)).map Prod.fst).Nodup := by
    rw [hkeys]
    exact binding_keys_nodup
  have hread : ∀ entry ∈ binding.fields.entries, readText (binding.fields.entries.map fun entry =>
      ((chars entry.1, .str entry.2) : Text × Data)) entry.1 = .ok entry.2 := fun entry hmem =>
    readText_eq_ok.2 ⟨field_of_mem hnodup (List.mem_map_of_mem hmem), binding.canonical entry hmem⟩
  simp only [BindingFields.entries, List.forall_mem_cons] at hread
  obtain ⟨hregistry, hclimate, hmqtt, hdevice, hieee, hmodel, hmanufacturer, hname, -⟩ := hread
  simp only [asDict, fromDict, bind_eq_ok, exists_unit, check_eq_ok]
  exact ⟨hasFields_of_keys hkeys, _, hregistry, _, hclimate, _, hmqtt, _, hdevice, _, hieee, _,
    hmodel, _, hmanufacturer, _, hname, binding.build_fields⟩

end RoomBinding

namespace RoomSlot

variable {room : RoomSlot} {data : List (Text × Data)} {name : String}

theorem readText_eq_ok {text : Text} :
    readText data name = .ok text ↔ field data name = .str text ∧ text ≠ [] := by
  unfold readText
  split
  · rename_i value hvalue
    simp only [bind_unit_eq_ok, check_eq_ok, pure_eq_ok]
    constructor
    · rintro ⟨hne, rfl⟩
      exact ⟨hvalue, hne⟩
    · rintro ⟨hfield, hne⟩
      rw [hvalue, JsonValue.str.injEq] at hfield
      subst hfield
      exact ⟨hne, rfl⟩
  · rename_i hother
    constructor
    · intro h
      cases h
    · rintro ⟨hfield, -⟩
      exact absurd hfield (hother text)

theorem readItem_eq_ok {item : Data} {text : Text} :
    readItem name item = .ok text ↔ item = .str text ∧ text ≠ [] := by
  unfold readItem
  split
  · rename_i value
    simp only [bind_unit_eq_ok, check_eq_ok, pure_eq_ok, JsonValue.str.injEq]
    constructor
    · rintro ⟨hne, rfl⟩
      exact ⟨rfl, hne⟩
    · rintro ⟨rfl, hne⟩
      exact ⟨hne, rfl⟩
  · rename_i hother
    constructor
    · intro h
      cases h
    · rintro ⟨hitem, -⟩
      exact absurd hitem (hother text)

theorem collect_readItem {items : List Data} {texts : List Text} :
    collect (readItem name) items = .ok texts ↔
      items = texts.map .str ∧ ∀ text ∈ texts, text ≠ [] := by
  induction items generalizing texts with
  | nil =>
    rw [collect, Except.ok.injEq]
    constructor
    · rintro rfl
      exact ⟨rfl, fun _ hmem => absurd hmem List.not_mem_nil⟩
    · rintro ⟨hnil, -⟩
      exact (List.map_eq_nil_iff.1 hnil.symm).symm
  | cons item items ih =>
    simp only [collect, bind_eq_ok, pure_eq_ok, readItem_eq_ok, ih]
    constructor
    · rintro ⟨text, ⟨rfl, hne⟩, rest, ⟨rfl, hrest⟩, rfl⟩
      exact ⟨rfl, List.forall_mem_cons.2 ⟨hne, hrest⟩⟩
    · rintro ⟨hitems, hne⟩
      cases texts with
      | nil => cases hitems
      | cons text rest =>
        rw [List.map_cons, List.cons.injEq] at hitems
        obtain ⟨hfirst, hrest⟩ := List.forall_mem_cons.1 hne
        exact ⟨text, ⟨hitems.1, hfirst⟩, rest, ⟨hitems.2, hrest⟩, rfl⟩

theorem readTexts_eq_ok {texts : List Text} :
    readTexts data name = .ok texts ↔
      field data name = .arr (texts.map .str) ∧ ∀ text ∈ texts, text ≠ [] := by
  unfold readTexts
  split
  · rename_i items hitems
    rw [collect_readItem, hitems, JsonValue.arr.injEq]
  · rename_i hother
    constructor
    · intro h
      cases h
    · rintro ⟨hfield, -⟩
      exact absurd hfield (hother _)

theorem readBinding_eq_ok {binding : Option RoomBinding} :
    readBinding data name = .ok binding ↔
      (field data name = .null ∧ binding = none)
        ∨ (field data name ≠ .null ∧ ∃ value, RoomBinding.fromDict (field data name) = .ok value
          ∧ binding = some value) := by
  unfold readBinding
  split
  · rename_i hnull
    rw [hnull]
    simp [eq_comm]
  · rename_i hvalue
    simp only [bind_eq_ok, pure_eq_ok]
    constructor
    · rintro ⟨value, h, rfl⟩
      exact Or.inr ⟨hvalue, value, h, rfl⟩
    · rintro (⟨hnull, -⟩ | ⟨-, value, h, rfl⟩)
      · exact absurd hnull hvalue
      · exact ⟨value, h, rfl⟩

theorem readBinding_optional {binding : Option RoomBinding}
    (h : field data name = optional RoomBinding.asDict binding) :
    readBinding data name = .ok binding := by
  rw [readBinding_eq_ok, h]
  cases binding with
  | none => exact Or.inl ⟨rfl, rfl⟩
  | some value =>
    refine Or.inr ⟨?_, value, value.fromDict_asDict, rfl⟩
    show value.asDict ≠ .null
    unfold RoomBinding.asDict
    exact fun hbad => by cases hbad

theorem fromDict_asDict (hvalid : room.postInit = .ok ()) : fromDict room.asDict = .ok room := by
  have hchecks := hvalid
  simp only [postInit, bind_unit_eq_ok, check_eq_ok] at hchecks
  obtain ⟨⟨hid, hname⟩, ⟨-, hmodels⟩, ⟨-, hmanufacturers⟩, -⟩ := hchecks
  obtain ⟨entries, hentries⟩ : ∃ entries, room.asDict = .obj entries := ⟨_, rfl⟩
  have hkeys : entries.map Prod.fst = fieldNames.map chars := by
    cases hentries
    rfl
  have hnodup : (entries.map Prod.fst).Nodup := by
    rw [hkeys]
    exact room_keys_nodup
  have hfield : ∀ {name : String} {value : Data}, (chars name, value) ∈ entries →
      field entries name = value := fun hmem => field_of_mem hnodup hmem
  have hmem : ∀ entry ∈ entries, entry ∈ entries := fun _ h => h
  cases hentries
  simp only [List.forall_mem_cons] at hmem
  obtain ⟨hid', hname', hmodels', hmanufacturers', hbinding, hprevious, hbootstrap, hrevision, -⟩ :=
    hmem
  simp only [asDict, fromDict, bind_eq_ok, exists_unit, check_eq_ok, hfield hrevision, pure_eq_ok]
  exact ⟨hasFields_of_keys hkeys, _, readText_eq_ok.2 ⟨hfield hid', hid⟩, _,
    readText_eq_ok.2 ⟨hfield hname', hname⟩, _, readTexts_eq_ok.2 ⟨hfield hmodels', hmodels⟩, _,
    readTexts_eq_ok.2 ⟨hfield hmanufacturers', hmanufacturers⟩, _,
    readBinding_optional (hfield hbinding), _, readBinding_optional (hfield hprevious), _,
    readBinding_optional (hfield hbootstrap), hvalid, rfl⟩

end RoomSlot

/-! ## Owners -/

/-- Two bindings that share a registry entry or an address are of one room. -/
def SameOwner (first second : Text × RoomBinding) : Prop :=
  first.2.fields.registryEntryId = second.2.fields.registryEntryId
      ∨ first.2.fields.ieeeAddress = second.2.fields.ieeeAddress →
    first.1 = second.1

theorem SameOwner.symm {first second : Text × RoomBinding} (h : SameOwner first second) :
    SameOwner second first := fun hshared => (h (hshared.imp Eq.symm Eq.symm)).symm

theorem setDefault_get? {owners : Dict Text Text} {key other roomId owner : Text} :
    (setDefault owners key roomId).get? other = some owner ↔
      owners.get? other = some owner ∨ (owners.get? key = none ∧ other = key ∧ owner = roomId) := by
  unfold setDefault
  split
  · rename_i hnone
    rw [Dict.get?_set]
    split
    · rename_i hkey
      rw [hkey, hnone]
      simp [eq_comm]
    · rename_i hkey
      simp [hkey]
  · rename_i hsome
    simp [hsome]

/-- The keys of a loop over owners: every owner so far agrees with the later bindings. -/
theorem checkOwners_eq_ok {registryOwners ieeeOwners : Dict Text Text}
    {bindings : List (Text × RoomBinding)} :
    checkOwners registryOwners ieeeOwners bindings = .ok () ↔
      (∀ binding ∈ bindings,
        (∀ owner ∈ registryOwners.get? binding.2.fields.registryEntryId, owner = binding.1)
          ∧ ∀ owner ∈ ieeeOwners.get? binding.2.fields.ieeeAddress, owner = binding.1)
        ∧ bindings.Pairwise SameOwner := by
  induction bindings generalizing registryOwners ieeeOwners with
  | nil => simp [checkOwners]
  | cons first bindings ih =>
    obtain ⟨roomId, binding⟩ := first
    simp only [checkOwners, bind_unit_eq_ok, check_eq_ok, ih, List.forall_mem_cons,
      List.pairwise_cons, Option.mem_def, setDefault_get?]
    constructor
    · rintro ⟨⟨hregistry, hieee⟩, hrest, hpairs⟩
      refine ⟨⟨⟨hregistry, hieee⟩, fun other hmem => ?_⟩, fun other hmem hshared => ?_, hpairs⟩
      · obtain ⟨hother, hother'⟩ := hrest other hmem
        exact ⟨fun owner h => hother owner (Or.inl h), fun owner h => hother' owner (Or.inl h)⟩
      · obtain ⟨hother, hother'⟩ := hrest other hmem
        rcases hshared with hshared | hshared
        · cases hfound : registryOwners.get? binding.fields.registryEntryId with
          | none => exact hother roomId (Or.inr ⟨hfound, hshared.symm, rfl⟩)
          | some owner =>
            rw [← hregistry owner hfound]
            exact hother owner (Or.inl (by rw [← hshared, hfound]))
        · cases hfound : ieeeOwners.get? binding.fields.ieeeAddress with
          | none => exact hother' roomId (Or.inr ⟨hfound, hshared.symm, rfl⟩)
          | some owner =>
            rw [← hieee owner hfound]
            exact hother' owner (Or.inl (by rw [← hshared, hfound]))
    · rintro ⟨⟨⟨hregistry, hieee⟩, hrest⟩, hsame, hpairs⟩
      refine ⟨⟨hregistry, hieee⟩, fun other hmem => ⟨?_, ?_⟩, hpairs⟩
      · rintro owner (h | ⟨-, hkey, rfl⟩)
        · exact (hrest other hmem).1 owner h
        · exact hsame other hmem (Or.inl hkey.symm)
      · rintro owner (h | ⟨-, hkey, rfl⟩)
        · exact (hrest other hmem).2 owner h
        · exact hsame other hmem (Or.inr hkey.symm)

/-! ## All rooms -/

/-- No two rooms reserve the same registry entry or the same address. -/
def Exclusive (rooms : List RoomSlot) : Prop :=
  ∀ room ∈ rooms, ∀ other ∈ rooms, ∀ binding ∈ room.bindings, ∀ second ∈ other.bindings,
    SameOwner (room.roomId, binding) (other.roomId, second)

theorem mem_allBindings {rooms : List RoomSlot} {entry : Text × RoomBinding} :
    entry ∈ allBindings rooms ↔ ∃ room ∈ rooms, ∃ binding ∈ room.bindings,
      entry = (room.roomId, binding) := by
  simp [allBindings, eq_comm]

theorem pairwise_sameOwner_iff {rooms : List RoomSlot} :
    (allBindings rooms).Pairwise SameOwner ↔ Exclusive rooms := by
  have hsymm : Std.Symm SameOwner := ⟨fun _ _ h => h.symm⟩
  constructor
  · intro h room hroom other hother binding hbinding second hsecond
    refine h.forall_of_forall (fun entry _ _ => rfl)
      (mem_allBindings.2 ⟨room, hroom, binding, hbinding, rfl⟩)
      (mem_allBindings.2 ⟨other, hother, second, hsecond, rfl⟩)
  · intro h
    refine List.pairwise_of_forall_mem_list fun first hfirst second hsecond => ?_
    obtain ⟨room, hroom, binding, hbinding, rfl⟩ := mem_allBindings.1 hfirst
    obtain ⟨other, hother, value, hvalue, rfl⟩ := mem_allBindings.1 hsecond
    exact h room hroom other hother binding hbinding value hvalue

/-- Rooms as `rooms_from_dict` returns them. -/
structure Loadable (rooms : Dict Text RoomSlot) : Prop where
  known : (∀ roomId ∈ rooms.keys, ∃ name ∈ defaultRoomIds, roomId = chars name)
    ∧ ∀ name ∈ defaultRoomIds, chars name ∈ rooms.keys
  keyed : ∀ roomId room, rooms.get? roomId = some room → room.roomId = roomId
  valid : ∀ roomId room, rooms.get? roomId = some room → room.postInit = .ok ()
  exclusive : Exclusive rooms.values

/-- What the loop over the stored rooms returns: the rooms before it, and the ones that it reads. -/
theorem readRooms_eq_ok {rooms loaded : Dict Text RoomSlot} {data : List (Text × Data)} :
    readRooms rooms data = .ok loaded ↔
      ∃ slots : List RoomSlot, List.Forall₂ (fun entry room => RoomSlot.fromDict entry.2 = .ok room
          ∧ room.roomId = entry.1) data slots
        ∧ loaded.entries = rooms.entries ++ slots.map fun room => (room.roomId, room) := by
  induction data generalizing rooms with
  | nil =>
    simp only [readRooms, Except.ok.injEq, List.forall₂_nil_left_iff, exists_eq_left, List.map_nil,
      List.append_nil]
    constructor
    · rintro rfl
      rfl
    · intro h
      cases rooms
      cases loaded
      cases h
      rfl
  | cons entry data ih =>
    obtain ⟨storedRoomId, roomData⟩ := entry
    simp only [readRooms, bind_eq_ok, exists_unit, check_eq_ok, ih, List.forall₂_cons_left_iff]
    constructor
    · rintro ⟨room, hread, hid, hfresh, slots, hslots, hentries⟩
      refine ⟨room :: slots, ⟨room, slots, ⟨hread, hid⟩, hslots, rfl⟩, ?_⟩
      rw [hentries, Dict.set, dif_neg (Dict.get?_eq_none_iff.1 hfresh), List.append_assoc]
      rfl
    · rintro ⟨_, ⟨room, slots, ⟨hread, hid⟩, hslots, rfl⟩, hentries⟩
      have hfresh : rooms.get? room.roomId = none := by
        have hnodup := loaded.nodup_keys
        rw [hentries, List.map_append, List.nodup_append] at hnodup
        rw [Dict.get?_eq_none_iff]
        exact fun hmem => hnodup.2.2 _ hmem room.roomId (by simp) rfl
      refine ⟨room, hread, hid, hfresh, slots, hslots, ?_⟩
      rw [hentries, Dict.set, dif_neg (Dict.get?_eq_none_iff.1 hfresh), List.append_assoc]
      rfl

/-- What `rooms_as_dict` writes is read back. -/
theorem roomsFromDict_roomsAsDict {rooms : Dict Text RoomSlot} (h : Loadable rooms) :
    roomsFromDict (roomsAsDict rooms) = .ok rooms := by
  have hkeys : (rooms.entries.map fun entry => (entry.1, entry.2.asDict)).map Prod.fst
      = rooms.keys := by
    rw [List.map_map]
    rfl
  have hfields : HasFields (rooms.entries.map fun entry => (entry.1, entry.2.asDict))
      defaultRoomIds := by
    obtain ⟨hknown, hall⟩ := h.known
    refine ⟨fun entry hmem => hknown entry.1 ?_, fun name hname => ?_⟩
    · rw [← hkeys]
      exact List.mem_map_of_mem hmem
    · have hkey := hall name hname
      rw [← hkeys] at hkey
      obtain ⟨entry, hmem, heq⟩ := List.mem_map.1 hkey
      exact ⟨entry, hmem, heq⟩
  have hread : readRooms .empty (rooms.entries.map fun entry => (entry.1, entry.2.asDict))
      = .ok rooms := by
    rw [readRooms_eq_ok]
    refine ⟨rooms.values, ?_, ?_⟩
    · rw [Dict.values, List.forall₂_map_left_iff, List.forall₂_map_right_iff, List.forall₂_same]
      intro entry hmem
      have hget := Dict.mem_entries_iff.1 hmem
      exact ⟨RoomSlot.fromDict_asDict (h.valid _ _ hget), h.keyed _ _ hget⟩
    · show rooms.entries = (rooms.entries.map Prod.snd).map fun room => (room.roomId, room)
      rw [List.map_map]
      refine (List.map_id rooms.entries).symm.trans (List.map_congr_left fun entry hmem => ?_)
      have hid := h.keyed _ _ (Dict.mem_entries_iff.1 hmem)
      exact Prod.ext hid.symm rfl
  have howners : checkOwners .empty .empty (allBindings rooms.values) = .ok () := by
    rw [checkOwners_eq_ok]
    exact ⟨fun _ _ => ⟨fun _ hmem => (by cases hmem), fun _ hmem => (by cases hmem)⟩,
      pairwise_sameOwner_iff.2 h.exclusive⟩
  simp only [roomsFromDict, roomsAsDict, bind_eq_ok, exists_unit, check_eq_ok, pure_eq_ok]
  exact ⟨hfields, rooms, hread, howners, rfl⟩

/-! ## Equal data -/

/-- Equality of stored data: the order of the keys of a dictionary does not count. -/
inductive Same : Data → Data → Prop
  | refl (value : Data) : Same value value
  | obj {first second : List (Text × Data)} :
      (∀ key, first.lookup key = none ↔ second.lookup key = none) →
      (∀ key value other, first.lookup key = some value → second.lookup key = some other →
        Same value other) →
      Same (.obj first) (.obj second)

theorem lookup_eq_none_iff {data : List (Text × Data)} {key : Text} :
    data.lookup key = none ↔ ∀ entry ∈ data, entry.1 ≠ key := by
  induction data with
  | nil => simp
  | cons first data ih =>
    rw [List.lookup_cons, List.forall_mem_cons]
    by_cases hkey : key = first.1
    · simp [hkey]
    · rw [beq_false_of_ne hkey]
      simp only [ih]
      exact ⟨fun h => ⟨Ne.symm hkey, h⟩, fun h => h.2⟩

theorem HasFields.lookup_eq_none_iff {data : List (Text × Data)} {names : List String}
    (h : HasFields data names) {key : Text} :
    data.lookup key = none ↔ ∀ name ∈ names, chars name ≠ key := by
  rw [Runtime.lookup_eq_none_iff]
  constructor
  · intro hnone name hname heq
    obtain ⟨entry, hmem, hentry⟩ := h.2 name hname
    exact hnone entry hmem (hentry.trans heq)
  · intro hnone entry hmem heq
    obtain ⟨name, hname, hentry⟩ := h.1 entry hmem
    exact hnone name hname (hentry.symm.trans heq)

theorem Same.of_fields {first second : List (Text × Data)} {names : List String}
    (hfirst : HasFields first names) (hsecond : HasFields second names)
    (h : ∀ name ∈ names, Same (field first name) (field second name)) :
    Same (.obj first) (.obj second) := by
  refine .obj (fun key => ?_) fun key value other hvalue hother => ?_
  · rw [hfirst.lookup_eq_none_iff, hsecond.lookup_eq_none_iff]
  · have hsome : ¬ ∀ name ∈ names, chars name ≠ key := by
      rw [← hfirst.lookup_eq_none_iff, hvalue]
      exact Option.some_ne_none value
    rw [not_forall] at hsome
    obtain ⟨name, hname⟩ := hsome
    rw [Classical.not_imp, not_not] at hname
    obtain ⟨hname, rfl⟩ := hname
    have hsame := h name hname
    rwa [field, field, hvalue, hother] at hsame

theorem RoomBinding.same {data : Data} {binding : RoomBinding} (h : fromDict data = .ok binding) :
    Same data binding.asDict := by
  cases data with
  | obj data =>
    simp only [fromDict, bind_eq_ok, exists_unit, check_eq_ok, readText_eq_ok] at h
    obtain ⟨hfields, _, ⟨hregistry, -⟩, _, ⟨hclimate, -⟩, _, ⟨hmqtt, -⟩, _, ⟨hdevice, -⟩, _,
      ⟨hieee, -⟩, _, ⟨hmodel, -⟩, _, ⟨hmanufacturer, -⟩, _, ⟨hname, -⟩, hbuild⟩ := h
    have hbinding := build_eq_ok hbuild
    have hkeys : (binding.fields.entries.map fun entry =>
        ((chars entry.1, .str entry.2) : Text × Data)).map Prod.fst = fieldNames.map chars := rfl
    have hread : ∀ entry ∈ binding.fields.entries, field (binding.fields.entries.map fun entry =>
        ((chars entry.1, .str entry.2) : Text × Data)) entry.1 = .str entry.2 := fun entry hmem =>
      field_of_mem (by rw [hkeys]; exact binding_keys_nodup) (List.mem_map_of_mem hmem)
    refine .of_fields hfields (hasFields_of_keys hkeys) ?_
    rw [hbinding] at hread ⊢
    simp only [BindingFields.entries, List.forall_mem_cons] at hread
    obtain ⟨h1, h2, h3, h4, h5, h6, h7, h8, -⟩ := hread
    simp only [fieldNames, List.forall_mem_cons]
    refine ⟨?_, ?_, ?_, ?_, ?_, ?_, ?_, ?_, fun _ hmem => by cases hmem⟩
    · rw [hregistry]; exact h1 ▸ .refl _
    · rw [hclimate]; exact h2 ▸ .refl _
    · rw [hmqtt]; exact h3 ▸ .refl _
    · rw [hdevice]; exact h4 ▸ .refl _
    · rw [hieee]; exact h5 ▸ .refl _
    · rw [hmodel]; exact h6 ▸ .refl _
    · rw [hmanufacturer]; exact h7 ▸ .refl _
    · rw [hname]; exact h8 ▸ .refl _
  | null => cases h
  | bool value => cases h
  | int value => cases h
  | float value => cases h
  | str value => cases h
  | arr items => cases h

theorem same_optional {data : List (Text × Data)} {name : String} {binding : Option RoomBinding}
    (h : RoomSlot.readBinding data name = .ok binding) :
    Same (field data name) (optional RoomBinding.asDict binding) := by
  rcases RoomSlot.readBinding_eq_ok.1 h with ⟨hnull, rfl⟩ | ⟨-, value, hread, rfl⟩
  · rw [hnull]
    exact .refl _
  · exact RoomBinding.same hread

theorem RoomSlot.same {data : Data} {room : RoomSlot} (h : fromDict data = .ok room) :
    Same data room.asDict ∧ room.postInit = .ok () := by
  cases data with
  | obj data =>
    simp only [fromDict, bind_eq_ok, exists_unit, check_eq_ok] at h
    obtain ⟨hfields, h⟩ := h
    split at h
    · rename_i revision hrevision
      simp only [bind_eq_ok, exists_unit, pure_eq_ok, readText_eq_ok, readTexts_eq_ok] at h
      obtain ⟨roomId, ⟨hid, -⟩, displayName, ⟨hname, -⟩, models, ⟨hmodels, -⟩, manufacturers,
        ⟨hmanufacturers, -⟩, binding, hbinding, previous, hprevious, bootstrap, hbootstrap, hvalid,
        rfl⟩ := h
      refine ⟨?_, hvalid⟩
      obtain ⟨entries, hentries⟩ : ∃ entries, asDict ⟨roomId, displayName, models, manufacturers,
        binding, previous, bootstrap, revision⟩ = .obj entries := ⟨_, rfl⟩
      have hkeys : entries.map Prod.fst = fieldNames.map chars := by
        cases hentries
        rfl
      have hread : ∀ entry ∈ entries, ∀ name, entry.1 = chars name →
          field entries name = entry.2 := fun entry hmem name heq => by
        refine field_of_mem (by rw [hkeys]; exact room_keys_nodup) ?_
        rw [← heq]
        exact hmem
      rw [hentries]
      refine .of_fields hfields (hasFields_of_keys hkeys) ?_
      cases hentries
      simp only [List.forall_mem_cons] at hread
      obtain ⟨h1, h2, h3, h4, h5, h6, h7, h8, -⟩ := hread
      simp only [fieldNames, List.forall_mem_cons]
      refine ⟨?_, ?_, ?_, ?_, ?_, ?_, ?_, ?_, fun _ hmem => by cases hmem⟩
      · rw [h1 _ rfl, hid]; exact .refl _
      · rw [h2 _ rfl, hname]; exact .refl _
      · rw [h3 _ rfl, hmodels]; exact .refl _
      · rw [h4 _ rfl, hmanufacturers]; exact .refl _
      · rw [h5 _ rfl]; exact same_optional hbinding
      · rw [h6 _ rfl]; exact same_optional hprevious
      · rw [h7 _ rfl]; exact same_optional hbootstrap
      · rw [h8 _ rfl, hrevision]; exact .refl _
    · cases h
  | null => cases h
  | bool value => cases h
  | int value => cases h
  | float value => cases h
  | str value => cases h
  | arr items => cases h

theorem slots_of_forall₂ {data : List (Text × Data)} {slots : List RoomSlot}
    (h : List.Forall₂ (fun entry room => RoomSlot.fromDict entry.2 = .ok room
      ∧ room.roomId = entry.1) data slots) :
    slots.map RoomSlot.roomId = data.map Prod.fst ∧ ∀ slot ∈ slots, slot.postInit = .ok () := by
  induction h with
  | nil => exact ⟨rfl, fun _ hmem => absurd hmem List.not_mem_nil⟩
  | cons hfirst _ ih =>
    obtain ⟨hkeys, hvalid⟩ := ih
    refine ⟨?_, List.forall_mem_cons.2 ⟨(RoomSlot.same hfirst.1).2, hvalid⟩⟩
    rw [List.map_cons, List.map_cons, hkeys, hfirst.2]

/-- Stored rooms and the data of the rooms that are read from them, key by key. -/
theorem same_of_forall₂ {data : List (Text × Data)} {slots : List RoomSlot}
    (h : List.Forall₂ (fun entry room => RoomSlot.fromDict entry.2 = .ok room
      ∧ room.roomId = entry.1) data slots) :
    Same (.obj data) (.obj (slots.map fun room => (room.roomId, room.asDict))) := by
  have hlookup : ∀ key, (data.lookup key = none
        ↔ (slots.map fun room => (room.roomId, room.asDict)).lookup key = none)
      ∧ ∀ value other, data.lookup key = some value →
        (slots.map fun room => (room.roomId, room.asDict)).lookup key = some other →
        Same value other := by
    intro key
    induction h with
    | nil => simp
    | @cons entry room data slots hread _ ih =>
      obtain ⟨hroom, hid⟩ := hread
      rw [List.map_cons, List.lookup_cons, List.lookup_cons, hid]
      by_cases hkey : key = entry.1
      · rw [hkey, beq_self_eq_true]
        refine ⟨by simp, fun value other hvalue hother => ?_⟩
        cases hvalue
        cases hother
        exact (RoomSlot.same hroom).1
      · rw [beq_false_of_ne hkey]
        exact ih
  exact .obj (fun key => (hlookup key).1) fun key => (hlookup key).2

/-- Data that `rooms_from_dict` accepts: the rooms are loadable, and the data is theirs. -/
theorem loadable_of_roomsFromDict {data : Data} {rooms : Dict Text RoomSlot}
    (h : roomsFromDict data = .ok rooms) : Loadable rooms ∧ Same data (roomsAsDict rooms) := by
  cases data with
  | obj data =>
    simp only [roomsFromDict, bind_eq_ok, exists_unit, check_eq_ok, pure_eq_ok] at h
    obtain ⟨hfields, loaded, hread, howners, rfl⟩ := h
    obtain ⟨slots, hslots, hentries⟩ := readRooms_eq_ok.1 hread
    have hentries : rooms.entries = slots.map fun room => (room.roomId, room) := hentries
    have hvalues : rooms.values = slots := by
      rw [Dict.values, hentries, List.map_map]
      exact List.map_id slots
    obtain ⟨hids, hvalid⟩ := slots_of_forall₂ hslots
    have hkeys : rooms.keys = data.map Prod.fst := by
      rw [Dict.keys, hentries, List.map_map]
      exact hids
    have hroom : ∀ roomId room, rooms.get? roomId = some room →
        room.roomId = roomId ∧ room.postInit = .ok () := by
      intro roomId room hget
      have hmem := Dict.get?_eq_some_iff.1 hget
      rw [hentries, List.mem_map] at hmem
      obtain ⟨slot, hslot, heq⟩ := hmem
      rw [Prod.mk.injEq] at heq
      obtain ⟨hid, rfl⟩ := heq
      exact ⟨hid, hvalid slot hslot⟩
    refine ⟨⟨⟨fun roomId hmem => ?_, fun name hname => ?_⟩, fun _ _ hget => (hroom _ _ hget).1,
      fun _ _ hget => (hroom _ _ hget).2, ?_⟩, ?_⟩
    · rw [hkeys, List.mem_map] at hmem
      obtain ⟨entry, hentry, rfl⟩ := hmem
      exact hfields.1 entry hentry
    · obtain ⟨entry, hentry, heq⟩ := hfields.2 name hname
      rw [hkeys, ← heq]
      exact List.mem_map_of_mem hentry
    · exact pairwise_sameOwner_iff.1 (checkOwners_eq_ok.1 howners).2
    · rw [roomsAsDict, hentries, List.map_map]
      exact same_of_forall₂ hslots
  | null => cases h
  | bool value => cases h
  | int value => cases h
  | float value => cases h
  | str value => cases h
  | arr items => cases h

end TrueFamily.Runtime
