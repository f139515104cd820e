import StepFlow.Deck
import StepFlow.Proofs.Outcome
import Mathlib.Data.List.Forall2

namespace StepFlow

-- Values are related to something one by one exactly if they are as a list.
theorem exists_forall₂_iff {α β : Type} {R : α → β → Prop} {as : List α} :
    (∃ bs, List.Forall₂ R as bs) ↔ ∀ a ∈ as, ∃ b, R a b := by
  induction as with
  | nil => simp
  | cons a as ih =>
      simp only [List.forall₂_cons_left_iff, List.forall_mem_cons, ← ih]
      constructor
      · rintro ⟨_, b, bs, hb, hbs, rfl⟩
        exact ⟨⟨b, hb⟩, bs, hbs⟩
      · rintro ⟨⟨b, hb⟩, bs, hbs⟩
        exact ⟨_, b, bs, hb, hbs, rfl⟩

theorem Require.list_eq_ok_iff (v : Value) (context : String) (allowEmpty : Bool)
    (items : List Value) :
    Require.list v context allowEmpty = .ok items ↔
      v.items? = some items ∧ (allowEmpty = true ∨ items ≠ []) := by
  rw [Require.list]
  cases v.items? with
  | none => simp
  | some found =>
      cases allowEmpty with
      | true => simp
      | false =>
          cases found with
          | nil => simp [eq_comm]
          | cons item others =>
              simp only [Bool.not_false, List.isEmpty_cons, Bool.and_false, Bool.false_eq_true,
                if_false, Except.ok.injEq, Option.some.injEq, false_or, iff_self_and]
              rintro rfl
              exact List.cons_ne_nil _ _

theorem Require.mapping_eq_ok_iff (v : Value) (context : String) (entries : Entries) :
    Require.mapping v context = .ok entries ↔ v.entries? = some entries := by
  rw [Require.mapping]
  cases v.entries? <;> simp

namespace Deck

-- A text with something beside blanks in it, and the reference that it is.
def IsReference (v : Value) (ref : String) : Prop :=
  ∃ s, v.text? = some s ∧ Text.strip s = ref ∧ ref ≠ ""

def HasSteps (entries : Entries) (refs : List String) : Prop :=
  ∃ steps items, entries.get? "steps" = some steps ∧ steps.items? = some items ∧ items ≠ [] ∧
    List.Forall₂ IsReference items refs

-- Absent arguments are none, and so is nothing in their place.
inductive HasArgs (entries : Entries) : List Value → Prop
  | absent : entries.get? "args" = none → HasArgs entries []
  | nothing : entries.get? "args" = some .none → HasArgs entries []
  | given {v : Value} {items : List Value} : entries.get? "args" = some v →
      v.items? = some items → HasArgs entries items

theorem isReference_iff (v : Value) (ref : String) :
    IsReference v ref ↔
      (v.text?.map Text.strip).filter (fun stripped => !stripped.isEmpty) = some ref := by
  simp only [IsReference, Option.filter_eq_some_iff, Option.map_eq_some_iff, Bool.not_eq_true',
    Bool.eq_false_iff, ne_eq, String.isEmpty_iff]
  exact ⟨fun ⟨s, hs, hstrip, hne⟩ => ⟨⟨s, hs, hstrip⟩, hne⟩,
    fun ⟨⟨s, hs, hstrip⟩, hne⟩ => ⟨s, hs, hstrip, hne⟩⟩

theorem reference_eq_ok_iff (index : Nat) (v : Value) (ref : String) :
    reference index v = .ok ref ↔ IsReference v ref := by
  rw [isReference_iff, reference]
  cases (v.text?.map Text.strip).filter fun stripped => !stripped.isEmpty with
  | some stripped => simp
  | none => cases v.quotedForm <;> simp [bind, Except.bind]

theorem references_eq_ok_iff (index : Nat) (vs : List Value) (refs : List String) :
    references index vs = .ok refs ↔ List.Forall₂ IsReference vs refs := by
  induction vs generalizing index refs with
  | nil => simp [references, eq_comm]
  | cons v vs ih =>
      simp only [references, bind_eq_ok_iff, reference_eq_ok_iff, ih, List.forall₂_cons_left_iff]
      simp [pure, Except.pure, eq_comm]

theorem parseSteps_eq_ok_iff (entries : Entries) (refs : List String) :
    parseSteps entries = .ok refs ↔ HasSteps entries refs := by
  rw [parseSteps]
  cases hsteps : entries.get? "steps" with
  | none =>
      simp only [reduceCtorEq, false_iff]
      rintro ⟨_, _, hsome, _⟩
      rw [hsteps] at hsome
      cases hsome
  | some steps =>
      simp only [bind_eq_ok_iff, Require.list_eq_ok_iff, references_eq_ok_iff]
      constructor
      · rintro ⟨items, ⟨hitems, hne⟩, hrefs⟩
        exact ⟨steps, items, hsteps, hitems, by simpa using hne, hrefs⟩
      · rintro ⟨steps', items, hsome, hitems, hne, hrefs⟩
        rw [hsteps] at hsome
        cases hsome
        exact ⟨items, ⟨hitems, .inr hne⟩, hrefs⟩

theorem parseArgs_eq_ok_iff (entries : Entries) (args : List Value) :
    parseArgs entries = .ok args ↔ HasArgs entries args := by
  rw [parseArgs]
  split
  next habsent =>
    rw [Except.ok.injEq]
    exact ⟨fun h => h ▸ .absent habsent, fun
      | .absent _ => rfl
      | .nothing h => rfl
      | .given h _ => nomatch habsent.symm.trans h⟩
  next hnothing =>
    rw [Except.ok.injEq]
    exact ⟨fun h => h ▸ .nothing hnothing, fun
      | .absent _ => rfl
      | .nothing h => rfl
      | .given h hitems => by
        rw [hnothing] at h
        cases h
        cases hitems⟩
  next v hne hsome =>
    rw [Require.list_eq_ok_iff, and_iff_left (.inl rfl)]
    exact ⟨fun h => .given hsome h, fun
      | .absent h => nomatch hsome.symm.trans h
      | .nothing h => absurd (Option.some.inj (hsome.symm.trans h)) hne
      | .given h hitems => by
        rw [hsome] at h
        cases h
        exact hitems⟩

-- A payload can be parsed exactly if it has the form of a deck.
theorem parse_eq_ok_iff (payload : Value) (deck : Deck) :
    parse payload = .ok deck ↔ ∃ entries, payload.entries? = some entries ∧
      HasSteps entries deck.steps ∧ HasArgs entries deck.args := by
  obtain ⟨refs, args⟩ := deck
  simp only [parse, bind_eq_ok_iff, Require.mapping_eq_ok_iff, parseSteps_eq_ok_iff,
    parseArgs_eq_ok_iff]
  constructor
  · rintro ⟨entries, hentries, refs, hrefs, args, hargs, heq⟩
    cases heq
    exact ⟨entries, hentries, hrefs, hargs⟩
  · rintro ⟨entries, hentries, hrefs, hargs⟩
    exact ⟨entries, hentries, refs, hrefs, args, hargs, rfl⟩

end Deck

end StepFlow
