import TrueFamily.Lib.Handler

/-!
# Triples for methods that raise

`Triple pre x post exc`: from an object that satisfies `pre`, if `x` returns, `post` holds of the
result and the object, and if it raises, `exc` holds of the error and the object. The object that a
raise leaves behind is part of the specification, so that what a handler starts from is known.
-/

namespace Method

variable {σ ε α β : Type}

/-- A specification of how a method returns and of how it raises. -/
def Triple (pre : σ → Prop) (x : Method σ ε α) (post : α → σ → Prop) (exc : ε → σ → Prop) : Prop :=
  ∀ s, pre s → Ends x s fun r t => match r with
    | .ok a => post a t
    | .error e => exc e t

namespace Triple

variable {pre pre' : σ → Prop} {x : Method σ ε α} {post post' : α → σ → Prop}
  {exc exc' : ε → σ → Prop}

/-- The rule of consequence. -/
theorem imp (h : Triple pre x post exc) (hpre : ∀ s, pre' s → pre s)
    (hpost : ∀ a s, post a s → post' a s) (hexc : ∀ e s, exc e s → exc' e s) :
    Triple pre' x post' exc' := by
  intro s hs
  refine (h s (hpre s hs)).imp fun r t hr => ?_
  cases r with
  | ok a => exact hpost a t hr
  | error e => exact hexc e t hr

theorem pure {a : α} (h : ∀ s, pre s → post a s) :
    Triple pre (Pure.pure a : Method σ ε α) post exc :=
  fun s hs => ends_pure.2 (h s hs)

theorem raise {e : ε} (h : ∀ s, pre s → exc e s) :
    Triple pre (Method.raise e : Method σ ε α) post exc :=
  fun s hs => ends_raise.2 (h s hs)

theorem modify {f : σ → σ} {post : Unit → σ → Prop} (h : ∀ s, pre s → post () (f s)) :
    Triple pre (Method.modify f : Method σ ε Unit) post exc :=
  fun s hs => ends_modify.2 (h s hs)

/-- One step after another. -/
theorem bind {f : α → Method σ ε β} {m : α → σ → Prop} {post : β → σ → Prop}
    (hx : Triple pre x m exc) (hf : ∀ a, Triple (m a) (f a) post exc) :
    Triple pre (x >>= f) post exc := by
  intro s hs
  exact Ends.bind (hx s hs) (fun a t ha => hf a t ha) fun e t he => he

end Triple

end Method
