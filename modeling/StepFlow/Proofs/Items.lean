import StepFlow.Proofs.Outcome
import StepFlow.Run.Items
import Mathlib.Data.List.Forall2

namespace StepFlow

-- The first of some items that has a property, and where it stands.
inductive IsFirst {α : Type} (p : α → Prop) : List α → Nat → α → Prop
  | here {a : α} {as : List α} : p a → IsFirst p (a :: as) 0 a
  | later {a b : α} {as : List α} {index : Nat} : ¬ p b → IsFirst p as index a →
      IsFirst p (b :: as) (index + 1) a

-- Either no item has a property, or one is the first that has it.
theorem forall_not_or_isFirst {α : Type} (p : α → Prop) (as : List α) :
    (∀ a ∈ as, ¬ p a) ∨ ∃ index a, IsFirst p as index a := by
  induction as with
  | nil => exact .inl (List.forall_mem_nil _)
  | cons a as ih =>
      by_cases ha : p a
      · exact .inr ⟨0, a, .here ha⟩
      · rcases ih with hnone | ⟨index, b, hfirst⟩
        · exact .inl (List.forall_mem_cons.mpr ⟨ha, hnone⟩)
        · exact .inr ⟨index + 1, b, .later ha hfirst⟩

-- What a function makes of some items, one by one.
theorem mapM_eq_ok_iff {ε α β : Type} {f : α → Except ε β} {as : List α} {bs : List β} :
    as.mapM f = .ok bs ↔ List.Forall₂ (fun a b => f a = .ok b) as bs := by
  induction as generalizing bs with
  | nil => simp [pure, Except.pure, eq_comm]
  | cons a as ih =>
      simp only [List.mapM_cons, bind_eq_ok_iff, ih, List.forall₂_cons_left_iff]
      constructor
      · rintro ⟨b, hb, bs, hbs, ⟨⟩⟩
        exact ⟨b, bs, hb, hbs, rfl⟩
      · rintro ⟨b, bs, hb, hbs, rfl⟩
        exact ⟨b, hb, bs, hbs, rfl⟩

-- It ends at the first item that it makes nothing of.
theorem isFirst_of_mapM {ε α β : Type} {f : α → Except ε β} {as : List α} {e : ε}
    (h : as.mapM f = .error e) :
    ∃ index a, IsFirst (fun a => ∀ b, f a ≠ .ok b) as index a ∧ f a = .error e := by
  induction as with
  | nil => cases h
  | cons a as ih =>
      rw [List.mapM_cons, bind_eq_error_iff] at h
      rcases h with ha | ⟨b, hb, h⟩
      · exact ⟨0, a, .here (fun b hb => nomatch ha.symm.trans hb), ha⟩
      · rcases bind_eq_error_iff.mp h with has | ⟨_, _, h⟩
        · obtain ⟨index, c, hfirst, hc⟩ := ih has
          exact ⟨index + 1, c, .later (fun hne => hne b hb) hfirst, hc⟩
        · cases h

theorem Store.left_leave (store : Store) (serial : Nat) (items : List Value) :
    (store.leave serial items).left serial = items := by
  simp [Store.left, Store.leave]

namespace Run

variable {σ : Type} {v : Value}

-- What going through the items of a value yields.
def yielded (v : Value) (store : Store) : List Value :=
  match v with
  | .generator serial => store.left serial
  | v => v.iterate?.getD []

-- The store when all items have been yielded.
def exhausted (v : Value) (store : Store) : Store :=
  match v with
  | .generator serial => store.finish serial
  | _ => store

theorem isIterable_iff (v : Value) :
    isIterable v = true ↔
      (∃ serial, v = .generator serial) ∨ ∃ items, v.iterate? = some items := by
  cases v <;> simp [isIterable, Option.isSome_iff_exists]

theorem yielded_of_iterate? {items : List Value} (h : v.iterate? = some items) (store : Store) :
    yielded v store = items := by
  cases v with
  | generator serial => cases h
  | _ => simp only [yielded, h, Option.getD_some]

theorem exhausted_of_iterate? {items : List Value} (h : v.iterate? = some items) (store : Store) :
    exhausted v store = store := by
  cases v with
  | generator serial => cases h
  | _ => rfl

theorem itemsOf_of_iterate? {items : List Value} (h : v.iterate? = some items) :
    itemsOf v = pure items := by
  cases v with
  | generator serial => cases h
  | _ => simp only [itemsOf, h]

-- All items are what is yielded, which leaves a generator with nothing.
theorem itemsOf_apply (h : isIterable v = true) (store : Store) :
    itemsOf v store = ⟨.ok (yielded v store), [], exhausted v store⟩ := by
  rcases (isIterable_iff v).mp h with ⟨serial, rfl⟩ | ⟨items, hitems⟩
  · rfl
  · rw [itemsOf_of_iterate? hitems, yielded_of_iterate? hitems, exhausted_of_iterate? hitems]
    rfl

theorem itemsOf_eq_fail (h : isIterable v = false) :
    itemsOf v = fail (.type (.notIterable v.operandType)) := by
  have hnot := mt (isIterable_iff v).mpr (Bool.eq_false_iff.mp h)
  rw [not_or, not_exists, not_exists, ← Option.eq_none_iff_forall_ne_some] at hnot
  obtain ⟨hne, hnone⟩ := hnot
  cases v with
  | generator serial => exact absurd rfl (hne serial)
  | _ => simp only [itemsOf, hnone]

theorem lift_bind {α β : Type} (outcome : Except Fault α) (next : α → Except Fault β) :
    lift (outcome >>= next) = lift outcome >>= fun a => lift (next a) := by
  cases outcome <;> rfl

theorem foldlM_lift (step : σ → Value → Except Fault σ) (items : List Value) (state : σ) :
    items.foldlM (fun state item => lift (step state item)) state =
      lift (items.foldlM step state) := by
  induction items generalizing state with
  | nil => rfl
  | cons item items ih => simp only [List.foldlM_cons, lift_bind, ih]

theorem mapM_lift {α : Type} (f : Value → Except Fault α) (items : List Value) :
    items.mapM (fun item => lift (f item)) = lift (items.mapM f) := by
  induction items with
  | nil => rfl
  | cons item items ih =>
      simp only [List.mapM_cons, lift_bind, ih]
      rfl

theorem foldItems_of_iterate? {items : List Value} (h : v.iterate? = some items)
    (step : σ → Value → Run σ) (start : σ) :
    foldItems v step start = items.foldlM step start := by
  cases v with
  | generator serial => cases h
  | _ => simp only [foldItems, h]

-- Folding over what a generator has left.
theorem foldGenerator_lift (step : σ → Value → Except Fault σ) (serial : Nat) {count : Nat}
    {store : Store} (hcount : (store.left serial).length = count) (state : σ) :
    let reached := foldGenerator serial (fun state item => lift (step state item)) count state store
    reached.outcome = (store.left serial).foldlM step state ∧ reached.events = [] := by
  -- What is reached is gone before a step runs, so the rest of the fold starts from a store in
  -- which the generator has what comes after it.
  induction count generalizing store state with
  | zero =>
      rw [List.length_eq_zero_iff.mp hcount]
      exact ⟨rfl, rfl⟩
  | succ count ih =>
      obtain ⟨item, items, hleft⟩ := List.exists_cons_of_length_eq_add_one hcount
      have hnext : next? serial store = ⟨.ok (some item), [], store.leave serial items⟩ := by
        rw [next?, bind_apply, bind]
        simp only [left, hleft]
        rfl
      have hrest := store.left_leave serial items
      have hfold : foldGenerator serial (fun state item => lift (step state item)) (count + 1) state
          store =
          (lift (step state item) >>= fun state =>
            foldGenerator serial (fun state item => lift (step state item)) count state)
            (store.leave serial items) := by
        rw [foldGenerator, bind_apply, bind, hnext]
        rfl
      rw [hleft, List.length_cons, Nat.add_right_cancel_iff, ← hrest] at hcount
      dsimp only
      rw [hfold, hleft, List.foldlM_cons]
      cases hstep : step state item with
      | error fault => exact ⟨rfl, rfl⟩
      | ok state' =>
          have hfurther := ih hcount state'
          rw [hrest] at hfurther
          exact hfurther

-- Folding over the items of any value. Only a generator is used up by it.
theorem foldItems_lift (step : σ → Value → Except Fault σ) (h : isIterable v = true) (start : σ)
    (store : Store) :
    let reached := foldItems v (fun state item => lift (step state item)) start store
    reached.outcome = (yielded v store).foldlM step start ∧ reached.events = [] ∧
      (v.iterate?.isSome = true → reached.store = store) := by
  rcases (isIterable_iff v).mp h with ⟨serial, rfl⟩ | ⟨items, hitems⟩
  · obtain ⟨houtcome, hevents⟩ := foldGenerator_lift step serial rfl start
    exact ⟨houtcome, hevents, fun h => nomatch h⟩
  · rw [foldItems_of_iterate? hitems, foldlM_lift, yielded_of_iterate? hitems]
    exact ⟨rfl, rfl, fun _ => rfl⟩

end Run

end StepFlow
