import TrueFamily.Lib.Checked

/-!
# Methods of a mutable object

A method reads and changes the object's fields and returns or raises. A raise keeps the
changes made before it, so whether a failed call left the object alone is a fact to prove,
not a consequence of the type. `Method σ ε α` is such a body over an object of type `σ`.

The rules `run_*_ok` and `run_*_error` peel a run apart step by step. `forEach` is a loop of
method calls; a loop whose body always returns is a fold (`run_forEach`).
-/

/-- A method body over an object of type `σ`, raising errors of type `ε`. -/
def Method (σ ε α : Type) : Type := σ → Except ε α × σ

namespace Method

variable {σ ε α β : Type}

/-- Call the method on an object. -/
def run (x : Method σ ε α) (s : σ) : Except ε α × σ := x s

instance : Monad (Method σ ε) where
  pure a := fun s => (.ok a, s)
  bind x f := fun s =>
    match x.run s with
    | (.ok a, s') => (f a).run s'
    | (.error e, s') => (.error e, s')

/-- The object itself. -/
def get : Method σ ε σ := fun s => (.ok s, s)

/-- Assign to the fields of the object. -/
def modify (f : σ → σ) : Method σ ε Unit := fun s => (.ok (), f s)

/-- `raise e`. -/
def raise (e : ε) : Method σ ε α := fun s => (.error e, s)

/-- A check that does not touch the object. -/
def lift (x : Except ε α) : Method σ ε α := fun s => (x, s)

instance : MonadLift (Except ε) (Method σ ε) where
  monadLift := lift

/-- `if not c: raise e` in a method. -/
def require (c : Prop) [Decidable c] (e : ε) : Method σ ε Unit := lift (Checked.check c e)

/-! ## Runs that return -/

@[simp] theorem run_pure_ok {a b : α} {s s' : σ} :
    (pure a : Method σ ε α).run s = (.ok b, s') ↔ b = a ∧ s' = s := by
  simp [pure, run, eq_comm]

@[simp] theorem run_bind_ok {x : Method σ ε α} {f : α → Method σ ε β} {s s'' : σ} {b : β} :
    (x >>= f).run s = (.ok b, s'') ↔
      ∃ a s', x.run s = (.ok a, s') ∧ (f a).run s' = (.ok b, s'') := by
  simp only [run, bind]
  rcases h : x s with ⟨_ | a, s'⟩ <;> simp

@[simp] theorem run_get_ok {s s' t : σ} :
    (get : Method σ ε σ).run s = (.ok t, s') ↔ t = s ∧ s' = s := by
  simp only [get, run, Prod.mk.injEq, Except.ok.injEq]
  exact ⟨fun h => ⟨h.1.symm, h.2.symm⟩, fun h => ⟨h.1.symm, h.2.symm⟩⟩

@[simp] theorem run_modify_ok {f : σ → σ} {s s' : σ} {u : Unit} :
    (modify f : Method σ ε Unit).run s = (.ok u, s') ↔ s' = f s := by
  simp only [modify, run, Prod.mk.injEq, true_and]
  exact eq_comm

@[simp] theorem run_raise_ok {e : ε} {a : α} {s s' : σ} :
    (raise e : Method σ ε α).run s = (.ok a, s') ↔ False := by
  simp [raise, run]

@[simp] theorem run_lift_ok {x : Except ε α} {a : α} {s s' : σ} :
    (liftM x : Method σ ε α).run s = (.ok a, s') ↔ x = .ok a ∧ s' = s := by
  show ((x, s) : Except ε α × σ) = _ ↔ _
  rw [Prod.mk.injEq, eq_comm (a := s)]

@[simp] theorem run_require_ok {c : Prop} [Decidable c] {e : ε} {u : Unit} {s s' : σ} :
    (require c e : Method σ ε Unit).run s = (.ok u, s') ↔ c ∧ s' = s := by
  show ((Checked.check c e, s) : Except ε Unit × σ) = _ ↔ _
  rw [Prod.mk.injEq, eq_comm (a := s), Checked.check_eq_ok]

@[simp] theorem run_map_ok {f : α → β} {x : Method σ ε α} {b : β} {s s' : σ} :
    (f <$> x).run s = (.ok b, s') ↔ ∃ a, x.run s = (.ok a, s') ∧ b = f a := by
  show (x >>= fun a => pure (f a)).run s = (.ok b, s') ↔ _
  simp only [run_bind_ok, run_pure_ok]
  constructor
  · intro ⟨a, t, hx, hb, ht⟩
    exact ⟨a, ht ▸ hx, hb⟩
  · intro ⟨a, hx, hb⟩
    exact ⟨a, s', hx, hb, rfl⟩

/-! ### After a step that does not assign -/

theorem run_bind_of_ok {x : Method σ ε α} {f : α → Method σ ε β} {s s' : σ} {a : α}
    (h : x.run s = (.ok a, s')) : (x >>= f).run s = (f a).run s' := by
  show (match x.run s with
    | (.ok a, s') => (f a).run s'
    | (.error e, s') => (.error e, s')) = _
  rw [h]

/-- After a step that is known to return in one state. -/
theorem run_bind_ok_iff {x : Method σ ε Unit} {f : Unit → Method σ ε β} {s t s'' : σ} {b : β}
    {P : Prop} (h : ∀ u s', x.run s = (.ok u, s') ↔ P ∧ s' = t) :
    (x >>= f).run s = (.ok b, s'') ↔ P ∧ (f ()).run t = (.ok b, s'') := by
  simp only [run_bind_ok, h]
  constructor
  · rintro ⟨_, _, ⟨hP, rfl⟩, hrun⟩
    exact ⟨hP, hrun⟩
  · intro ⟨hP, hrun⟩
    exact ⟨(), t, ⟨hP, rfl⟩, hrun⟩

theorem run_get_bind {f : σ → Method σ ε β} {s : σ} : (get >>= f).run s = (f s).run s := rfl

theorem run_modify_bind {g : σ → σ} {f : Unit → Method σ ε β} {s : σ} :
    (modify g >>= f).run s = (f ()).run (g s) := rfl

theorem run_lift_bind_ok {x : Except ε α} {f : α → Method σ ε β} {s s' : σ} {b : β} :
    ((liftM x : Method σ ε α) >>= f).run s = (.ok b, s') ↔
      ∃ a, x = .ok a ∧ (f a).run s = (.ok b, s') := by
  simp only [run_bind_ok, run_lift_ok]
  constructor
  · rintro ⟨a, t, ⟨hx, rfl⟩, hrun⟩
    exact ⟨a, hx, hrun⟩
  · intro ⟨a, hx, hrun⟩
    exact ⟨a, s, ⟨hx, rfl⟩, hrun⟩

theorem run_require_bind_ok {c : Prop} [Decidable c] {e : ε} {f : Unit → Method σ ε β}
    {s s' : σ} {b : β} : (require c e >>= f).run s = (.ok b, s') ↔
      c ∧ (f ()).run s = (.ok b, s') := by
  rw [require, show (lift (Checked.check c e) : Method σ ε Unit) = liftM (Checked.check c e)
    from rfl, run_lift_bind_ok, Checked.exists_unit, Checked.check_eq_ok]

/-! ## Runs that raise -/

@[simp] theorem run_pure_error {a : α} {e : ε} {s s' : σ} :
    (pure a : Method σ ε α).run s = (.error e, s') ↔ False := by
  simp [pure, run]

@[simp] theorem run_bind_error {x : Method σ ε α} {f : α → Method σ ε β} {s s'' : σ} {e : ε} :
    (x >>= f).run s = (.error e, s'') ↔
      x.run s = (.error e, s'') ∨
        ∃ a s', x.run s = (.ok a, s') ∧ (f a).run s' = (.error e, s'') := by
  simp only [run, bind]
  rcases h : x s with ⟨_ | a, s'⟩ <;> simp

@[simp] theorem run_get_error {s s' : σ} {e : ε} :
    (get : Method σ ε σ).run s = (.error e, s') ↔ False := by
  simp [get, run]

@[simp] theorem run_modify_error {f : σ → σ} {s s' : σ} {e : ε} :
    (modify f : Method σ ε Unit).run s = (.error e, s') ↔ False := by
  simp [modify, run]

@[simp] theorem run_raise_error {e e' : ε} {s s' : σ} :
    (raise e : Method σ ε α).run s = (.error e', s') ↔ e = e' ∧ s' = s := by
  simp only [raise, run, Prod.mk.injEq, Except.error.injEq]
  rw [eq_comm (a := s)]

@[simp] theorem run_lift_error {x : Except ε α} {e : ε} {s s' : σ} :
    (liftM x : Method σ ε α).run s = (.error e, s') ↔ x = .error e ∧ s' = s := by
  show ((x, s) : Except ε α × σ) = _ ↔ _
  rw [Prod.mk.injEq, eq_comm (a := s)]

@[simp] theorem run_require_error {c : Prop} [Decidable c] {e e' : ε} {s s' : σ} :
    (require c e : Method σ ε Unit).run s = (.error e', s') ↔ (¬ c ∧ e = e') ∧ s' = s := by
  show ((Checked.check c e, s) : Except ε Unit × σ) = _ ↔ _
  rw [Prod.mk.injEq, eq_comm (a := s), Checked.check_eq_error]

@[simp] theorem run_map_error {f : α → β} {x : Method σ ε α} {e : ε} {s s' : σ} :
    (f <$> x).run s = (.error e, s') ↔ x.run s = (.error e, s') := by
  show (x >>= fun a => pure (f a)).run s = (.error e, s') ↔ _
  simp only [run_bind_error, run_pure_error, and_false, exists_false, or_false]

/-! ## Either outcome -/

/-- A sequence raises in its first step, or its second step decides. -/
theorem run_bind_cases {x : Method σ ε α} {f : α → Method σ ε β} {s s'' : σ} {result : Except ε β}
    (h : (x >>= f).run s = (result, s'')) :
    (∃ e, x.run s = (.error e, s'') ∧ result = .error e)
      ∨ ∃ a s', x.run s = (.ok a, s') ∧ (f a).run s' = (result, s'') := by
  cases result with
  | error e =>
    rcases run_bind_error.1 h with hx | hf
    · exact Or.inl ⟨e, hx, rfl⟩
    · exact Or.inr hf
  | ok b => exact Or.inr (run_bind_ok.1 h)

/-- A check raises and changes nothing, or the rest of the body decides. -/
theorem run_lift_bind_cases {x : Except ε α} {f : α → Method σ ε β} {s s' : σ}
    {result : Except ε β} (h : ((liftM x : Method σ ε α) >>= f).run s = (result, s')) :
    (∃ e, result = .error e ∧ s' = s) ∨ ∃ a, x = .ok a ∧ (f a).run s = (result, s') := by
  rcases run_bind_cases h with ⟨e, hraise, he⟩ | ⟨a, t, hreturn, hf⟩
  · exact Or.inl ⟨e, he, (run_lift_error.1 hraise).2⟩
  · obtain ⟨hx, rfl⟩ := run_lift_ok.1 hreturn
    exact Or.inr ⟨a, hx, hf⟩

theorem run_require_bind_cases {c : Prop} [Decidable c] {e : ε} {f : Unit → Method σ ε β}
    {s s' : σ} {result : Except ε β} (h : (require c e >>= f).run s = (result, s')) :
    (∃ e, result = .error e ∧ s' = s) ∨ c ∧ (f ()).run s = (result, s') := by
  rcases run_lift_bind_cases (x := Checked.check c e) h with herror | ⟨_, hc, hf⟩
  · exact Or.inl herror
  · exact Or.inr ⟨Checked.check_eq_ok.1 hc, hf⟩

theorem run_map_cases {f : α → β} {x : Method σ ε α} {s s' : σ} {result : Except ε β}
    (h : (f <$> x).run s = (result, s')) :
    ∃ inner, x.run s = (inner, s') ∧ ∀ b, result = .ok b ↔ ∃ a, inner = .ok a ∧ f a = b := by
  cases result with
  | error e => exact ⟨.error e, run_map_error.1 h, fun b => by simp⟩
  | ok b =>
    obtain ⟨a, hx, rfl⟩ := run_map_ok.1 h
    exact ⟨.ok a, hx, fun b => by simp⟩

/-! ## Raises that change nothing -/

/-- The method returns. -/
def Returns (x : Method σ ε α) (s : σ) : Prop :=
  ∀ e s', x.run s ≠ (.error e, s')

/-- If the method raises, it leaves the object as it was. -/
def Keeps (x : Method σ ε α) (s : σ) : Prop :=
  ∀ e s', x.run s = (.error e, s') → s' = s

@[simp] theorem returns_pure (a : α) (s : σ) : (pure a : Method σ ε α).Returns s := by
  intro e s' h
  exact run_pure_error.1 h

@[simp] theorem returns_modify (f : σ → σ) (s : σ) : (modify f : Method σ ε Unit).Returns s := by
  intro e s' h
  exact run_modify_error.1 h

theorem Returns.bind {x : Method σ ε α} {f : α → Method σ ε β} {s : σ} (hx : x.Returns s)
    (hf : ∀ a s', x.run s = (.ok a, s') → (f a).Returns s') : (x >>= f).Returns s := by
  intro e s'' h
  rcases run_bind_error.1 h with h | ⟨a, s', hrun, h⟩
  · exact hx e s'' h
  · exact hf a s' hrun e s'' h

theorem Returns.keeps {x : Method σ ε α} {s : σ} (h : x.Returns s) : x.Keeps s :=
  fun e s' hrun => absurd hrun (h e s')

/-- A method that checks first and assigns last keeps the object when it raises. -/
theorem Keeps.bind {x : Method σ ε α} {f : α → Method σ ε β} {s : σ} (hx : x.Keeps s)
    (hf : ∀ a s', x.run s = (.ok a, s') → (f a).Returns s') : (x >>= f).Keeps s := by
  intro e s'' h
  rcases run_bind_error.1 h with h | ⟨a, s', hrun, h⟩
  · exact hx e s'' h
  · exact absurd h (hf a s' hrun e s'')

@[simp] theorem keeps_pure (a : α) (s : σ) : (pure a : Method σ ε α).Keeps s :=
  (returns_pure a s).keeps

@[simp] theorem keeps_lift (x : Except ε α) (s : σ) : (liftM x : Method σ ε α).Keeps s :=
  fun _ _ h => (run_lift_error.1 h).2

@[simp] theorem keeps_raise (e : ε) (s : σ) : (raise e : Method σ ε α).Keeps s :=
  fun _ _ h => (run_raise_error.1 h).2

@[simp] theorem keeps_get_bind {f : σ → Method σ ε β} {s : σ} :
    (get >>= f).Keeps s ↔ (f s).Keeps s := Iff.rfl

@[simp] theorem keeps_lift_bind {x : Except ε α} {f : α → Method σ ε β} {s : σ} :
    ((liftM x : Method σ ε α) >>= f).Keeps s ↔ ∀ a, x = .ok a → (f a).Keeps s := by
  constructor
  · intro h a hx e s' hrun
    exact h e s' (run_bind_error.2 (Or.inr ⟨a, s, run_lift_ok.2 ⟨hx, rfl⟩, hrun⟩))
  · intro h e s' hrun
    rcases run_bind_error.1 hrun with hrun | ⟨a, t, hok, hrun⟩
    · exact (run_lift_error.1 hrun).2
    · obtain ⟨hx, ht⟩ := run_lift_ok.1 hok
      rw [ht] at hrun
      exact h a hx e s' hrun

@[simp] theorem keeps_require_bind {c : Prop} [Decidable c] {e : ε} {f : Unit → Method σ ε β}
    {s : σ} : (require c e >>= f).Keeps s ↔ (c → (f ()).Keeps s) := by
  rw [require, show (lift (Checked.check c e) : Method σ ε Unit) = liftM (Checked.check c e)
    from rfl, keeps_lift_bind]
  simp only [Checked.check_eq_ok]
  exact ⟨fun h hc => h () hc, fun h _ hc => h hc⟩

@[simp] theorem keeps_map {f : α → β} {x : Method σ ε α} {s : σ} :
    (f <$> x).Keeps s ↔ x.Keeps s := by
  unfold Keeps
  simp only [run_map_error]

/-! ## Loops -/

/-- `for item in items: body(item)`. -/
def forEach (body : α → Method σ ε Unit) : List α → Method σ ε Unit
  | [] => pure ()
  | item :: items => do
    body item
    forEach body items

/-- A loop whose body returns whenever the invariant holds, and keeps it, is a fold. -/
theorem run_forEach {body : α → Method σ ε Unit} {f : σ → α → σ} {I : σ → Prop}
    (hbody : ∀ s item, I s → (body item).run s = (.ok (), f s item))
    (hkeep : ∀ s item, I s → I (f s item)) (items : List α) {s : σ} (hs : I s) :
    (forEach body items).run s = (.ok (), items.foldl f s) := by
  induction items generalizing s with
  | nil => rfl
  | cons item items ih =>
    rw [forEach, run_bind_ok]
    exact ⟨(), f s item, hbody s item hs, ih (hkeep s item hs)⟩

end Method
