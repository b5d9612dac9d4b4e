import Logbook.Fault

/-!
# Actions

An action reads and changes a state and ends with a result or a fault; what it changed before a
fault stays changed. An action on a part of a state is an action on the whole.
-/

namespace Logbook

/-- An action on a state `σ`. -/
abbrev Act (σ : Type) := ExceptT Fault (StateM σ)

/-- Which calls of a service fail, and how: by the number of calls before and by what is asked. -/
abbrev Outage (κ : Type) := Nat → κ → Option Fault

namespace Act

variable {σ τ α : Type}

/-- A result or a fault that does not depend on the state. -/
def ofExcept : Except Fault α → Act σ α
  | .ok a => pure a
  | .error f => throw f

/-- The action with its fault as a result. -/
def attempt (a : Act σ α) : Act σ (Except Fault α) :=
  fun s => match a s with
    | (r, s') => (.ok r, s')

/-- An action on a part of the state. -/
def onPart (get : σ → τ) (set : τ → σ → σ) (a : Act τ α) : Act σ α :=
  fun s => match a (get s) with
    | (r, t) => (r, set t s)

@[simp] theorem ofExcept_ok (a : α) (s : σ) : (ofExcept (.ok a) : Act σ α) s = (.ok a, s) := rfl

@[simp] theorem ofExcept_error (f : Fault) (s : σ) :
    (ofExcept (.error f) : Act σ α) s = (.error f, s) := rfl

@[simp] theorem attempt_apply (a : Act σ α) (s : σ) : attempt a s = (.ok (a s).1, (a s).2) := rfl

@[simp] theorem onPart_apply (get : σ → τ) (set : τ → σ → σ) (a : Act τ α) (s : σ) :
    onPart get set a s = ((a (get s)).1, set (a (get s)).2 s) := rfl

section Bind

variable {β : Type} {a : Act σ α} {s s' : σ}

@[simp] theorem pure_apply (x : α) (s : σ) : (pure x : Act σ α) s = (.ok x, s) := rfl

@[simp] theorem throw_apply (f : Fault) (s : σ) : (throw f : Act σ α) s = (.error f, s) := rfl

@[simp] theorem get_apply (s : σ) : (get : Act σ σ) s = (.ok s, s) := rfl

@[simp] theorem set_apply (t s : σ) : (set t : Act σ PUnit) s = (.ok ⟨⟩, t) := rfl

@[simp] theorem modify_apply (f : σ → σ) (s : σ) : (modify f : Act σ PUnit) s = (.ok ⟨⟩, f s) := rfl

@[simp] theorem map_apply (f : α → β) (a : Act σ α) (s : σ) :
    (f <$> a) s = ((a s).1.map f, (a s).2) := by
  simp only [Functor.map, ExceptT.map, ExceptT.mk, bind, StateT.bind]
  rcases a s with ⟨_ | _, _⟩ <;> rfl

/-- What follows an action depends on how it ended. -/
theorem bind_apply (a : Act σ α) (next : α → Act σ β) (s : σ) :
    (a >>= next) s = match a s with
      | (.ok x, s') => next x s'
      | (.error f, s') => (.error f, s') := by
  simp only [bind, ExceptT.bind, ExceptT.mk, StateT.bind]
  rcases a s with ⟨_ | _, _⟩ <;> rfl

/-- After a result the next action goes on from the state left behind. -/
theorem bind_of_ok {x : α} (h : a s = (.ok x, s')) (next : α → Act σ β) :
    (a >>= next) s = next x s' := by
  rw [bind_apply, h]

/-- After a fault no action goes on. -/
theorem bind_of_error {f : Fault} (h : a s = (.error f, s')) (next : α → Act σ β) :
    (a >>= next) s = (.error f, s') := by
  rw [bind_apply, h]

/-- A result is not handled. -/
theorem tryCatch_of_ok {x : α} (h : a s = (.ok x, s')) (handler : Fault → Act σ α) :
    (tryCatch a handler) s = (.ok x, s') := by
  simp only [tryCatch, tryCatchThe, MonadExceptOf.tryCatch, ExceptT.tryCatch, ExceptT.mk, bind,
    StateT.bind, h]
  rfl

/-- A fault is handled in the state that it leaves behind. -/
theorem tryCatch_of_error {f : Fault} (h : a s = (.error f, s')) (handler : Fault → Act σ α) :
    (tryCatch a handler) s = handler f s' := by
  simp only [tryCatch, tryCatchThe, MonadExceptOf.tryCatch, ExceptT.tryCatch, ExceptT.mk, bind,
    StateT.bind, h]

end Bind

end Act

end Logbook
