import TrueFamily.Lib.Triple
import TrueFamily.Migration.Apply

/-!
# Triples for calls that may fail

The rules of `Method.Triple` for the coordinator: assertions are about the service, and a call may
raise before or after its effect or die at any time (`Triple.call`). `Reads x s P` is the triple of
a method that leaves the service alone.
-/

namespace TrueFamily.Migration.Run

variable {α β : Type}

/-- A triple whose assertions are about the service. -/
def Triple (pre : Service → Prop) (x : Run α) (post : α → Service → Prop)
    (exc : Stop → Service → Prop) : Prop :=
  Method.Triple (fun w => pre w.service) x (fun a w => post a w.service) fun e w => exc e w.service

section

variable {x : Run α} {w w' : World}

theorem run_attempt_ok {a : α} (h : x.run w = (.ok a, w')) :
    (Run.attempt x).run w = (.ok (.ok a), w') := by
  change Run.attempt x w = _
  rw [Run.attempt, h]

theorem run_attempt_raised {error : ApplyError} (h : x.run w = (.error (.raised error), w')) :
    (Run.attempt x).run w = (.ok (.error error), w') := by
  change Run.attempt x w = _
  rw [Run.attempt, h]

theorem run_attempt_died (h : x.run w = (.error .died, w')) :
    (Run.attempt x).run w = (.error .died, w') := by
  change Run.attempt x w = _
  rw [Run.attempt, h]

theorem run_call_ok {service : Service} {faults : List Fault} {a : α}
    (h : x.run ⟨service, faults⟩ = (.ok a, w')) :
    (Run.call x).run ⟨service, .raisesAfter :: faults⟩ = (.error (.raised .failed), w') := by
  change Run.call x _ = _
  simp only [Run.call, h]

theorem run_call_error {service : Service} {faults : List Fault} {stop : Stop}
    (h : x.run ⟨service, faults⟩ = (.error stop, w')) :
    (Run.call x).run ⟨service, .raisesAfter :: faults⟩ = (.error stop, w') := by
  change Run.call x _ = _
  simp only [Run.call, h]

end

/-- What an exception leaves to its handler, and what the death of the process leaves. -/
def Caught (raised : ApplyError → Service → Prop) (died : Service → Prop) :
    Stop → Service → Prop
  | .raised error => raised error
  | .died => died

/-- The two ways in which an attempt goes on. -/
def Outcomes (returned : α → Service → Prop) (raised : ApplyError → Service → Prop) :
    Except ApplyError α → Service → Prop
  | .ok a => returned a
  | .error error => raised error

namespace Triple

variable {pre pre' : Service → Prop} {x : Run α} {post post' : α → Service → Prop}
  {exc exc' : Stop → Service → Prop}

theorem imp (h : Triple pre x post exc) (hpre : ∀ s, pre' s → pre s)
    (hpost : ∀ a s, post a s → post' a s) (hexc : ∀ e s, exc e s → exc' e s) :
    Triple pre' x post' exc' :=
  Method.Triple.imp h (fun w => hpre w.service) (fun a w => hpost a w.service)
    fun e w => hexc e w.service

theorem post_imp (h : Triple pre x post exc) (hpost : ∀ a s, post a s → post' a s) :
    Triple pre x post' exc :=
  h.imp (fun _ => id) hpost fun _ _ => id

theorem of_forall (h : ∀ s, pre s → Triple (· = s) x post exc) : Triple pre x post exc :=
  fun w hw => h w.service hw w rfl

theorem pure {a : α} (h : ∀ s, pre s → post a s) : Triple pre (Pure.pure a : Run α) post exc :=
  Method.Triple.pure fun w => h w.service

theorem raise {error : ApplyError} (h : ∀ s, pre s → exc (.raised error) s) :
    Triple pre (Run.raise error : Run α) post exc :=
  Method.Triple.raise fun w => h w.service

theorem modify {f : Service → Service} {post : Unit → Service → Prop}
    (h : ∀ s, pre s → post () (f s)) : Triple pre (Run.modify f) post exc :=
  Method.Triple.modify fun w => h w.service

theorem bind {f : α → Run β} {m : α → Service → Prop} {post : β → Service → Prop}
    (hx : Triple pre x m exc) (hf : ∀ a, Triple (m a) (f a) post exc) :
    Triple pre (x >>= f) post exc :=
  Method.Triple.bind hx hf

/-- The rest of a method that starts with a look at the service. -/
theorem service {f : Service → Run α} (h : ∀ s, pre s → Triple (· = s) (f s) post exc) :
    Triple pre (Run.service >>= f) post exc :=
  fun w hw => h w.service hw w rfl

/-- A check, and the rest of the method. -/
theorem require {condition : Prop} [Decidable condition] {error : ApplyError} {f : Unit → Run α}
    (herror : ¬ condition → ∀ s, pre s → exc (.raised error) s)
    (h : condition → Triple pre (f ()) post exc) :
    Triple pre (Run.require condition error >>= f) post exc := by
  intro w hw
  by_cases hcondition : condition
  · have hrun : (Run.require condition error >>= f).run w = (f ()).run w :=
      Method.run_bind_of_ok (Method.run_require_ok.2 ⟨hcondition, rfl⟩)
    unfold Method.Ends
    rw [hrun]
    exact h hcondition w hw
  · have hrun : (Run.require condition error >>= f).run w = (.error (.raised error), w) :=
      Method.run_bind_error.2 (Or.inl (Method.run_require_error.2 ⟨⟨hcondition, rfl⟩, rfl⟩))
    unfold Method.Ends
    rw [hrun]
    exact herror hcondition w.service hw

theorem checked_ok {a : α} {f : α → Run β} {post : β → Service → Prop}
    (h : Triple pre (f a) post exc) : Triple pre (Run.checked (.ok a) >>= f) post exc :=
  fun w hw => h w hw

/-- The exception as a value: nothing is raised, the process may die. -/
theorem attempt {post : Except ApplyError α → Service → Prop}
    (h : Triple pre x (fun a => post (.ok a))
      (Caught (fun error => post (.error error)) (exc .died))) :
    Triple pre (Run.attempt x) post exc := by
  intro w hw
  have hx := h w hw
  unfold Method.Ends at hx ⊢
  rcases hrun : x.run w with ⟨(_ | error) | a, w'⟩
  · rw [hrun] at hx
    rw [run_attempt_died hrun]
    exact hx
  · rw [hrun] at hx
    rw [run_attempt_raised hrun]
    exact hx
  · rw [hrun] at hx
    rw [run_attempt_ok hrun]
    exact hx

theorem catching {handler : ApplyError → Run α} {c : ApplyError → Service → Prop}
    (h : Triple pre x post (Caught c (exc .died)))
    (hhandler : ∀ error, Triple (c error) (handler error) post exc) :
    Triple pre (Run.catching x handler) post exc := by
  refine bind (m := Outcomes post c) (attempt h) fun outcome => ?_
  cases outcome with
  | ok a => exact pure fun s hs => hs
  | error error => exact hhandler error

/-- A call raises or dies before its effect, or raises after it. -/
theorem call (h : Triple pre x post exc)
    (hbefore : ∀ s, pre s → exc .died s ∧ exc (.raised .failed) s)
    (hafter : ∀ a s, post a s → exc (.raised .failed) s) :
    Triple pre (Run.call x) post exc := by
  intro w hw
  unfold Method.Ends
  obtain ⟨service, faults⟩ := w
  cases faults with
  | nil => exact h _ hw
  | cons fault faults =>
    have hx := h ⟨service, faults⟩ hw
    unfold Method.Ends at hx
    cases fault with
    | none => exact hx
    | raisesBefore => exact (hbefore service hw).2
    | dies => exact (hbefore service hw).1
    | raisesAfter =>
      rcases hrun : x.run ⟨service, faults⟩ with ⟨stop | a, w'⟩
      · rw [hrun] at hx
        rw [run_call_error hrun]
        exact hx
      · rw [hrun] at hx
        rw [run_call_ok hrun]
        exact hafter a w'.service hx

end Triple

/-- The method leaves the service alone, and if it returns, the result satisfies `P`. -/
def Reads (x : Run α) (s : Service) (P : α → Prop) : Prop :=
  Triple (· = s) x (fun a t => t = s ∧ P a) fun _ t => t = s

namespace Reads

variable {x : Run α} {s : Service} {P P' : α → Prop}

theorem imp (h : Reads x s P) (hP : ∀ a, P a → P' a) : Reads x s P' :=
  h.post_imp fun a _ ha => ⟨ha.1, hP a ha.2⟩

theorem pure {a : α} (h : P a) : Reads (Pure.pure a : Run α) s P :=
  Triple.pure fun _ hs => ⟨hs, h⟩

theorem raise {error : ApplyError} : Reads (Run.raise error : Run α) s P :=
  Triple.raise fun _ hs => hs

theorem bind {f : α → Run β} {Q : β → Prop} (hx : Reads x s P) (hf : ∀ a, P a → Reads (f a) s Q) :
    Reads (x >>= f) s Q := by
  refine Triple.bind hx fun a w hw => ?_
  exact hf a hw.2 w hw.1

theorem service : Reads Run.service s (· = s) := fun _ hw => ⟨hw, hw⟩

theorem checked {y : Except ApplyError α} : Reads (Run.checked y) s (y = .ok ·) := by
  intro w hw
  unfold Method.Ends
  have hrun : (Run.checked y).run w = (y.mapError .raised, w) := rfl
  rw [hrun]
  cases y with
  | ok a => exact ⟨hw, rfl⟩
  | error error => exact hw

theorem require {condition : Prop} [Decidable condition] {error : ApplyError} :
    Reads (Run.require condition error) s fun _ => condition := by
  intro w hw
  unfold Method.Ends
  have hrun : (Run.require condition error).run w =
      (Checked.check condition (Stop.raised error), w) := rfl
  rw [hrun, Checked.check]
  split
  · exact ⟨hw, ‹_›⟩
  · exact hw

/-- An attempt to read in the middle of a run: nothing is raised. -/
theorem attempted {pre : Service → Prop} {P : Service → α → Prop}
    (h : ∀ s, pre s → Reads x s (P s)) :
    Triple pre (Run.attempt x) (fun outcome t => pre t ∧ ∀ a, outcome = .ok a → P t a)
      fun stop t => stop = .died ∧ pre t := by
  refine Triple.of_forall fun s hs => Triple.attempt (Triple.imp (h s hs) (fun _ => id) ?_ ?_)
  · rintro a t ⟨rfl, ha⟩
    exact ⟨hs, fun b hb => Except.ok.inj hb ▸ ha⟩
  · rintro (_ | error) t rfl
    · exact ⟨rfl, hs⟩
    · exact ⟨hs, fun b hb => nomatch hb⟩

theorem call (h : Reads x s P) : Reads (Run.call x) s P :=
  Triple.call h (fun _ hs => ⟨hs, hs⟩) fun _ _ hs => hs.1

/-- The rest of a method that starts with reading. -/
theorem triple_bind {f : α → Run β} {post : β → Service → Prop} {exc : Stop → Service → Prop}
    (h : Reads x s P) (hexc : ∀ stop, exc stop s) (hf : ∀ a, P a → Triple (· = s) (f a) post exc) :
    Triple (· = s) (x >>= f) post exc := by
  refine Triple.bind (Triple.imp h (fun _ => id) (fun _ _ => id) fun stop t ht => ht ▸ hexc stop)
    fun a w hw => ?_
  exact hf a hw.2 w hw.1

/-- Reading in the middle of a run. -/
theorem triple {pre : Service → Prop} {P : Service → α → Prop} {exc : Stop → Service → Prop}
    (h : ∀ s, pre s → Reads x s (P s)) (hexc : ∀ stop s, pre s → exc stop s) :
    Triple pre x (fun a t => pre t ∧ P t a) exc := by
  refine Triple.of_forall fun s hs => Triple.imp (h s hs) (fun _ => id) ?_ ?_
  · rintro a t ⟨rfl, ha⟩
    exact ⟨hs, ha⟩
  · rintro stop t rfl
    exact hexc stop t hs

end Reads

end TrueFamily.Migration.Run
