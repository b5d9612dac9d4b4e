import Logbook.Act

/-!
# What actions keep

An action keeps a property of states if it leaves it behind, also after a fault. Two actions match
for a relation between states if from related states they end in the same way and leave related
states, and an action that matches itself respects the relation. What is composed of such actions is
such an action.
-/

namespace Logbook.Act

variable {σ α β : Type}

section Keeps

variable {P : σ → Prop}

/-- From a state of which `P` holds an action leaves one of which it holds. -/
def Keeps (P : σ → Prop) (a : Act σ α) : Prop :=
  ∀ s, P s → P (a s).2

theorem keeps_pure (x : α) : (pure x : Act σ α).Keeps P :=
  fun _ kept => kept

theorem keeps_ofExcept (r : Except Fault α) : (ofExcept r : Act σ α).Keeps P := by
  cases r <;> exact fun _ kept => kept

theorem Keeps.bind {a : Act σ α} {next : α → Act σ β} (first : a.Keeps P)
    (rest : ∀ x, (next x).Keeps P) : (a >>= next).Keeps P := by
  intro s kept
  have left := first s kept
  rw [bind_apply]
  rcases ran : a s with ⟨f | x, s'⟩
  · rw [ran] at left
    exact left
  · rw [ran] at left
    exact rest x s' left

end Keeps

section Matches

variable {R : σ → σ → Prop}

/-- From related states two actions end in the same way, and they leave related states. -/
def Matches (R : σ → σ → Prop) (a b : Act σ α) : Prop :=
  ∀ s t, R s t → (a s).1 = (b t).1 ∧ R (a s).2 (b t).2

theorem matches_pure (x : α) : (pure x : Act σ α).Matches R (pure x) :=
  fun _ _ related => ⟨rfl, related⟩

theorem matches_throw (f : Fault) : (throw f : Act σ α).Matches R (throw f) :=
  fun _ _ related => ⟨rfl, related⟩

theorem matches_ofExcept (r : Except Fault α) :
    (ofExcept r : Act σ α).Matches R (ofExcept r) := by
  cases r with
  | error f => exact matches_throw f
  | ok x => exact matches_pure x

theorem Matches.bind {a b : Act σ α} {next next' : α → Act σ β} (first : a.Matches R b)
    (rest : ∀ x, (next x).Matches R (next' x)) : (a >>= next).Matches R (b >>= next') := by
  intro s t related
  obtain ⟨same, left⟩ := first s t related
  rw [bind_apply, bind_apply]
  rcases ran : a s with ⟨r, s'⟩
  rcases ran' : b t with ⟨r', t'⟩
  rw [ran, ran'] at same left
  cases same
  cases r with
  | error f => exact ⟨rfl, left⟩
  | ok x => exact rest x s' t' left

/-- From related states an action ends in the same way, and it leaves related states. -/
def Respects (R : σ → σ → Prop) (a : Act σ α) : Prop :=
  ∀ s t, R s t → (a s).1 = (a t).1 ∧ R (a s).2 (a t).2

theorem respects_pure (x : α) : (pure x : Act σ α).Respects R :=
  matches_pure x

theorem respects_throw (f : Fault) : (throw f : Act σ α).Respects R :=
  matches_throw f

theorem respects_ofExcept (r : Except Fault α) : (ofExcept r : Act σ α).Respects R :=
  matches_ofExcept r

theorem Respects.bind {a : Act σ α} {next : α → Act σ β} (first : a.Respects R)
    (rest : ∀ x, (next x).Respects R) : (a >>= next).Respects R :=
  Matches.bind first rest

end Matches

end Logbook.Act
