import StepFlow.Run

namespace StepFlow

variable {α β γ δ : Type}

-- Two outcomes with one fault or with related values.
def Related (rel : α → β → Prop) : Except Fault α → Except Fault β → Prop
  | .ok a, .ok b => rel a b
  | .error fault, .error other => fault = other
  | _, _ => False

theorem Related.error_iff {rel : α → β → Prop} {outcome : Except Fault α} {other : Except Fault β}
    (h : Related rel outcome other) (fault : Fault) :
    outcome = .error fault ↔ other = .error fault := by
  cases outcome <;> cases other <;> simp_all [Related]

namespace Run

def Paired (rel : α → β → Prop) (run : Run α) (other : Run β) : Prop :=
  ∀ store, (run store).events = (other store).events ∧ (run store).store = (other store).store ∧
    Related rel (run store).outcome (other store).outcome

variable {rel : α → β → Prop} {run : Run α} {other : Run β}

theorem Paired.pure {a : α} {b : β} (h : rel a b) : Paired rel (pure a) (pure b) :=
  fun _ => ⟨rfl, rfl, h⟩

theorem Paired.refl (run : Run α) : Paired Eq run run := by
  intro store
  refine ⟨rfl, rfl, ?_⟩
  cases (run store).outcome <;> rfl

-- Runs that are paired by equality are one run.
theorem Paired.eq {run other : Run α} (h : Paired Eq run other) : run = other := by
  ext store
  obtain ⟨hevents, hstore, houtcome⟩ := h store
  have heq : (run store).outcome = (other store).outcome := by
    cases hr : (run store).outcome <;> cases ho : (other store).outcome <;>
      simp_all [Related]
  calc
    run store = ⟨(run store).outcome, (run store).events, (run store).store⟩ := rfl
    _ = ⟨(other store).outcome, (other store).events, (other store).store⟩ := by
      rw [hevents, hstore, heq]
    _ = other store := rfl

theorem Paired.bind {rel' : γ → δ → Prop} {next : α → Run γ} {next' : β → Run δ}
    (h : Paired rel run other) (hnext : ∀ a b, rel a b → Paired rel' (next a) (next' b)) :
    Paired rel' (run >>= next) (other >>= next') := by
  intro store
  obtain ⟨hevents, hstore, houtcome⟩ := h store
  cases hr : (run store).outcome with
  | error fault =>
      have ho := (houtcome.error_iff fault).mp hr
      rw [bind_of_error hr, bind_of_error ho]
      exact ⟨hevents, hstore, rfl⟩
  | ok a =>
      cases ho : (other store).outcome with
      | error fault =>
          rw [hr, ho] at houtcome
          exact houtcome.elim
      | ok b =>
          rw [hr, ho] at houtcome
          obtain ⟨hevents', hstore', houtcome'⟩ := hnext a b houtcome (run store).store
          rw [bind_of_ok hr, bind_of_ok ho, ← hstore, hevents, hevents']
          exact ⟨rfl, hstore', houtcome'⟩

end Run

end StepFlow
