namespace StepFlow

variable {ε δ α β : Type} {outcome : Except ε α}

theorem bind_eq_ok_iff {next : α → Except ε β} {b : β} :
    (outcome >>= next) = .ok b ↔ ∃ a, outcome = .ok a ∧ next a = .ok b := by
  cases outcome <;> simp [bind, Except.bind]

theorem bind_eq_error_iff {next : α → Except ε β} {e : ε} :
    (outcome >>= next) = .error e ↔
      outcome = .error e ∨ ∃ a, outcome = .ok a ∧ next a = .error e := by
  cases outcome <;> simp [bind, Except.bind]

theorem map_eq_ok_iff {f : α → β} {b : β} :
    outcome.map f = .ok b ↔ ∃ a, outcome = .ok a ∧ f a = b := by
  cases outcome <;> simp [Except.map]

theorem map_eq_error_iff {f : α → β} {e : ε} : outcome.map f = .error e ↔ outcome = .error e := by
  cases outcome <;> simp [Except.map]

theorem mapError_eq_ok_iff {f : ε → δ} {a : α} : outcome.mapError f = .ok a ↔ outcome = .ok a := by
  cases outcome with
  | ok b =>
      constructor <;> intro h
      · cases h
        rfl
      · cases h
        rfl
  | error e => constructor <;> intro h <;> cases h

theorem mapError_eq_error_iff {f : ε → δ} {e : δ} :
    outcome.mapError f = .error e ↔ ∃ cause, outcome = .error cause ∧ f cause = e := by
  cases outcome with
  | ok a =>
      constructor
      · intro h
        cases h
      · rintro ⟨_, h, -⟩
        cases h
  | error cause =>
      constructor
      · intro h
        cases h
        exact ⟨cause, rfl, rfl⟩
      · rintro ⟨_, h, rfl⟩
        cases h
        rfl

instance decidableExistsOk (p : α → Prop) [DecidablePred p] (outcome : Except ε α) :
    Decidable (∃ a, outcome = .ok a ∧ p a) :=
  match outcome with
  | .ok a => decidable_of_iff (p a) ⟨fun h => ⟨a, rfl, h⟩, by rintro ⟨_, ⟨⟩, h⟩; exact h⟩
  | .error _ => .isFalse nofun

instance decidableExistsError (p : ε → Prop) [DecidablePred p] (outcome : Except ε α) :
    Decidable (∃ e, outcome = .error e ∧ p e) :=
  match outcome with
  | .ok _ => .isFalse nofun
  | .error e => decidable_of_iff (p e) ⟨fun h => ⟨e, rfl, h⟩, by rintro ⟨_, ⟨⟩, h⟩; exact h⟩

instance decidableForallNeError (outcome : Except ε α) : Decidable (∀ e, outcome ≠ .error e) :=
  match outcome with
  | .ok _ => .isTrue nofun
  | .error e => .isFalse fun h => h e rfl

end StepFlow
