import TrueFamily.Lib.Dict

/-!
# Secondary indexes

A store holds one record in each slot and keeps dictionaries that find something about its
records by key. `Tracks` says that a dictionary holds exactly the rows of the held records, and
`Tracks.write` that it keeps doing so when a record is written to its slot, provided that the new
rows are assigned and that no other record claims their keys.
-/

namespace Index

variable {ρ σ κ ν : Type} {slot : ρ → σ} {held held' : ρ → Prop} {record : ρ}

/-- The store after `record` was written to its slot. -/
def Writes (slot : ρ → σ) (held : ρ → Prop) (record : ρ) (held' : ρ → Prop) : Prop :=
  ∀ x, held' x ↔ x = record ∨ (held x ∧ slot x ≠ slot record)

variable [DecidableEq κ]

/-- The dictionary holds exactly the rows of the held records. -/
def Tracks (index : Dict κ ν) (rows : ρ → κ → ν → Prop) (held : ρ → Prop) : Prop :=
  ∀ k v, index.get? k = some v ↔ ∃ x, held x ∧ rows x k v

/-- `index'` assigns the rows of `record` and keeps every other key of `index`. -/
structure Assigns (rows : ρ → κ → ν → Prop) (record : ρ) (index index' : Dict κ ν) : Prop where
  assigned : ∀ k v, rows record k v → index'.get? k = some v
  kept : ∀ k, (∀ v, ¬ rows record k v) → index'.get? k = index.get? k

/-- The keys of `record` are claimed by no record of another slot, and contain those of the
record that it replaces. -/
structure Admits (slot : ρ → σ) (rows : ρ → κ → ν → Prop) (held : ρ → Prop) (record : ρ) :
    Prop where
  unclaimed : ∀ x k v v', held x → rows x k v → rows record k v' → slot x = slot record
  keeps : ∀ x k v, held x → slot x = slot record → rows x k v → ∃ v', rows record k v'

variable {rows : ρ → κ → ν → Prop} {index index' : Dict κ ν}

/-- Two held records with rows of one key agree on its value. -/
theorem Tracks.unique (h : Tracks index rows held) {x y : ρ} {k : κ} {v w : ν} (hx : held x)
    (hy : held y) (hv : rows x k v) (hw : rows y k w) : v = w := by
  have h1 : index.get? k = some v := (h k v).2 ⟨x, hx, hv⟩
  have h2 : index.get? k = some w := (h k w).2 ⟨y, hy, hw⟩
  rw [h1] at h2
  exact Option.some.inj h2

theorem Tracks.get?_eq_none_iff (h : Tracks index rows held) {k : κ} :
    index.get? k = none ↔ ∀ x v, held x → ¬ rows x k v := by
  rw [Option.eq_none_iff_forall_ne_some]
  constructor
  · intro hnone x v hx hv
    exact hnone v ((h k v).2 ⟨x, hx, hv⟩)
  · intro hno v hv
    obtain ⟨x, hx, hrow⟩ := (h k v).1 hv
    exact hno x v hx hrow

/-- Two indexes of the same rows look up the same. -/
theorem Tracks.get?_eq {other : Dict κ ν} (h : Tracks index rows held)
    (h' : Tracks other rows held) (k : κ) : index.get? k = other.get? k := by
  ext v
  rw [h k v, h' k v]

/-- The index still tracks the store after a write. -/
theorem Tracks.write (h : Tracks index rows held) (hwrite : Writes slot held record held')
    (hadmits : Admits slot rows held record) (hassigns : Assigns rows record index index') :
    Tracks index' rows held' := by
  intro k v
  constructor
  · intro hget
    by_cases hrow : ∃ v', rows record k v'
    · obtain ⟨v', hv'⟩ := hrow
      have heq : v' = v := by
        have hassigned := hassigns.assigned k v' hv'
        rw [hget] at hassigned
        exact (Option.some.inj hassigned).symm
      exact ⟨record, (hwrite record).2 (Or.inl rfl), heq ▸ hv'⟩
    · -- A key without a new row keeps its old one, and so its holder is in another slot.
      rw [hassigns.kept k fun v' hv' => hrow ⟨v', hv'⟩] at hget
      obtain ⟨x, hx, hv⟩ := (h k v).1 hget
      have hslot : slot x ≠ slot record := fun heq => hrow (hadmits.keeps x k v hx heq hv)
      exact ⟨x, (hwrite x).2 (Or.inr ⟨hx, hslot⟩), hv⟩
  · intro ⟨x, hx, hv⟩
    rcases (hwrite x).1 hx with rfl | ⟨hheld, hslot⟩
    · exact hassigns.assigned k v hv
    · have hno : ∀ v', ¬ rows record k v' := fun v' hv' =>
        hslot (hadmits.unclaimed x k v v' hheld hv hv')
      rw [hassigns.kept k hno]
      exact (h k v).2 ⟨x, hheld, hv⟩

/-- A record with the rows of the one it replaces needs no assignment. -/
theorem Tracks.assigns_self (h : Tracks index rows held) {old : ρ} (hold : held old)
    (hrows : ∀ k v, rows record k v → rows old k v) : Assigns rows record index index where
  assigned k v hv := (h k v).2 ⟨old, hold, hrows k v hv⟩
  kept _ _ := rfl

/-- Assigning the rows of a record, one for each key. -/
theorem Assigns.assign {entries : List (κ × ν)} (hnodup : (entries.map Prod.fst).Nodup)
    (hrows : ∀ k v, rows record k v ↔ (k, v) ∈ entries) (index : Dict κ ν) :
    Assigns rows record index (index.assign entries) where
  assigned k v hv := (Dict.get?_assign_eq_some_iff hnodup).2 (Or.inl ((hrows k v).1 hv))
  kept k hno := by
    refine Dict.get?_assign_of_notMem fun hmem => ?_
    obtain ⟨⟨k', v⟩, hentry, rfl⟩ := List.mem_map.1 hmem
    exact hno v ((hrows k' v).2 hentry)

/-- A key of the record may be assigned before its rows are. -/
theorem Assigns.of_set {k : κ} {v v' : ν} (hrow : rows record k v')
    (h : Assigns rows record (index.set k v) index') : Assigns rows record index index' where
  assigned := h.assigned
  kept k' hno := by
    have hne : k' ≠ k := by
      rintro rfl
      exact hno v' hrow
    rw [h.kept k' hno, Dict.get?_set_of_ne _ _ hne]

end Index
