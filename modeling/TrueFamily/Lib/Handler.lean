import TrueFamily.Lib.Method

/-!
# Handlers, and what holds however a method ends

`except` clauses for methods. The changes made before the raise are still there when the handler
runs. `Ends x s Q` says that `Q` holds of the outcome and the object after `x`, whether it
returned or raised, and its rules follow the structure of the body.
-/

namespace Method

variable {σ ε α β : Type}

/-- `try: x except: handler`. -/
def handle (x : Method σ ε α) (handler : ε → Method σ ε α) : Method σ ε α := fun s =>
  match x.run s with
  | (.ok a, s') => (.ok a, s')
  | (.error e, s') => (handler e).run s'

/-- However the method ends, its outcome and the object after it satisfy `Q`. -/
def Ends (x : Method σ ε α) (s : σ) (Q : Except ε α → σ → Prop) : Prop :=
  Q (x.run s).1 (x.run s).2

variable {x : Method σ ε α} {s : σ} {P Q : Except ε α → σ → Prop}

theorem Ends.imp (h : Ends x s P) (himp : ∀ r t, P r t → Q r t) : Ends x s Q := himp _ _ h

@[simp] theorem ends_pure {a : α} : Ends (pure a : Method σ ε α) s Q ↔ Q (.ok a) s := Iff.rfl

@[simp] theorem ends_raise {e : ε} : Ends (raise e : Method σ ε α) s Q ↔ Q (.error e) s := Iff.rfl

@[simp] theorem ends_get {Q : Except ε σ → σ → Prop} :
    Ends (get : Method σ ε σ) s Q ↔ Q (.ok s) s := Iff.rfl

@[simp] theorem ends_modify {f : σ → σ} {Q : Except ε Unit → σ → Prop} :
    Ends (modify f : Method σ ε Unit) s Q ↔ Q (.ok ()) (f s) := Iff.rfl

@[simp] theorem ends_lift {y : Except ε α} : Ends (liftM y : Method σ ε α) s Q ↔ Q y s := Iff.rfl

/-- A sequence ends with its first step if that raises, and with its second otherwise. -/
theorem ends_bind {f : α → Method σ ε β} {Q : Except ε β → σ → Prop} :
    Ends (x >>= f) s Q ↔ Ends x s fun r t => match r with
      | .ok a => Ends (f a) t Q
      | .error e => Q (.error e) t := by
  have hrun : (x >>= f).run s = match x.run s with
    | (.ok a, s') => (f a).run s'
    | (.error e, s') => (.error e, s') := rfl
  unfold Ends
  rw [hrun]
  rcases x.run s with ⟨_ | _, _⟩ <;> exact Iff.rfl

/-- A step that is followed by another one. -/
theorem Ends.bind {f : α → Method σ ε β} {R : Except ε β → σ → Prop} (h : Ends x s P)
    (hok : ∀ a t, P (.ok a) t → Ends (f a) t R) (herror : ∀ e t, P (.error e) t → R (.error e) t) :
    Ends (x >>= f) s R := by
  refine ends_bind.2 (h.imp fun r t hP => ?_)
  cases r with
  | ok a => exact hok a t hP
  | error e => exact herror e t hP

/-- A step whose errors are handled. -/
theorem Ends.handle {handler : ε → Method σ ε α} {R : Except ε α → σ → Prop} (h : Ends x s P)
    (hok : ∀ a t, P (.ok a) t → R (.ok a) t)
    (herror : ∀ e t, P (.error e) t → Ends (handler e) t R) : Ends (x.handle handler) s R := by
  have hrun : (x.handle handler).run s = match x.run s with
    | (.ok a, s') => (.ok a, s')
    | (.error e, s') => (handler e).run s' := rfl
  unfold Ends at h ⊢
  rw [hrun]
  generalize x.run s = outcome at h
  rcases outcome with ⟨e | a, t⟩
  · exact herror e t h
  · exact hok a t h

end Method
