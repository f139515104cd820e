import StepFlow.Catalogue.Own

namespace StepFlow

namespace Run

variable {α β : Type} {run : Run α}

-- A run that does not fail and leaves no note.
def Harmless (run : Run α) : Prop :=
  ∀ store, (∃ a, (run store).outcome = .ok a) ∧ (run store).notes = []

theorem notes_bind_eq_nil {next : α → Run β} {store : Store} (h : (run store).notes = [])
    (hnext : ∀ a, (run store).outcome = .ok a → (next a (run store).store).notes = []) :
    ((run >>= next) store).notes = [] := by
  cases ha : (run store).outcome with
  | error fault =>
      rw [bind_of_error ha]
      exact h
  | ok a =>
      have hmore := hnext a ha
      simp only [Reached.notes] at h hmore
      simp only [bind_of_ok ha, Reached.notes, List.filterMap_append, h, hmore, List.append_nil]

theorem Harmless.pure (a : α) : (Pure.pure a : Run α).Harmless :=
  fun _ => ⟨⟨a, rfl⟩, rfl⟩

theorem Harmless.bind {next : α → Run β} (h : run.Harmless)
    (hnext : ∀ store a, (run store).outcome = .ok a → (next a).Harmless) :
    (run >>= next).Harmless := by
  intro store
  obtain ⟨⟨a, ha⟩, hnotes⟩ := h store
  refine ⟨?_, notes_bind_eq_nil hnotes fun b hb => (hnext store b hb _).2⟩
  obtain ⟨b, hb⟩ := (hnext store a ha (run store).store).1
  exact ⟨b, outcome_bind_eq_ok_iff.mpr ⟨a, ha, hb⟩⟩

-- A property that results have and that joining runs keeps.
structure Joins (P : (α : Type) → Run α → Prop) : Prop where
  pure : ∀ {α : Type} (a : α), P α (Pure.pure a)
  bind : ∀ {α β : Type} {run : Run α} {next : α → Run β}, P α run →
    (∀ store a, (run store).outcome = .ok a → P β (next a)) → P β (run >>= next)

theorem Joins.harmless : Joins fun _ run => run.Harmless :=
  ⟨.pure, .bind⟩

end Run

-- A module without a `__getattr__` has its own attributes and nothing else.
theorem Module.find_of_lookup_eq_none {m : Module}
    (h : m.attributes.lookup "__getattr__" = none) (host : Host) (name : String) :
    m.find host name = pure (m.attribute? name) := by
  rw [find, h]
  cases m.attribute? name <;> rfl

-- A module that can be asked for the places where the modules in it are looked for.
structure Module.ListsPlaces (host : Host) (m : Module) : Prop where
  find : (m.find host "__path__").Harmless
  search : ∀ store places, (m.find host "__path__" store).outcome = .ok (some places) →
    (Catalogue.searchPlaces places).Harmless

-- A module that cannot be asked for more than it has, and has no places or lists them.
def Module.isClosed (m : Module) : Bool :=
  (m.attributes.lookup "__getattr__").isNone &&
    (m.attribute? "__path__" matches none | some (.value (.list _)))

theorem Module.listsPlaces_of_isClosed {m : Module} (h : m.isClosed = true) (host : Host) :
    m.ListsPlaces host := by
  rw [isClosed, Bool.and_eq_true, Option.isNone_iff_eq_none] at h
  obtain ⟨hmore, hplaces⟩ := h
  constructor
  · rw [find_of_lookup_eq_none hmore]
    exact .pure _
  · rw [find_of_lookup_eq_none hmore]
    intro store places hfound
    rw [Except.ok.inj hfound] at hplaces
    cases places with
    | module name => cases hplaces
    | value v =>
        cases v with
        | list items => exact fun _ => ⟨⟨(), rfl⟩, rfl⟩
        | _ => cases hplaces

namespace Catalogue

variable {catalogue : Catalogue} {host : Host}

theorem dotted_split (name : String) : dotted (Text.split '.' name) = name := by
  rw [← String.toList_inj, dotted, String.toList_intercalate, Text.split, List.map_map]
  calc
    _ = ['.'].intercalate (Text.splitChars '.' name.toList) := by
      congr 1
      simp
    _ = name.toList := Text.intercalate_splitChars '.' name.toList

-- A module that is found by its full name is imported without a look at its parents.
theorem importModule_of_find? {name : String} {m : Module} (h : catalogue.find? name = some m)
    (host : Host) : catalogue.importModule host name = pure (.ok m) := by
  rw [← dotted_split name, ← List.reverse_reverse (Text.split '.' name)] at h
  rw [importModule]
  cases hparts : (Text.split '.' name).reverse with
  | nil =>
      rw [List.reverse_eq_nil_iff, Text.split, List.map_eq_nil_iff] at hparts
      exact absurd hparts (Text.splitChars_ne_nil '.' name.toList)
  | cons last parents =>
      rw [hparts] at h
      rw [importParts.eq_def]
      simp only [h]

-- Nothing else is imported.
theorem find?_of_importParts {parts : List String} {store : Store} {m : Module}
    (h : (catalogue.importParts host parts store).outcome = .ok (.ok m)) :
    catalogue.find? (dotted parts.reverse) = some m := by
  cases parts with
  | nil => cases h
  | cons last parents =>
      rw [importParts.eq_def] at h
      cases hfound : catalogue.find? (dotted (last :: parents).reverse) with
      | some found =>
          simp only [hfound] at h
          cases h
          rfl
      | none =>
          cases parents with
          | nil =>
              simp only [hfound] at h
              cases h
          | cons _ _ =>
              simp only [hfound] at h
              obtain ⟨imported, -, h⟩ := Run.outcome_bind_eq_ok_iff.mp h
              cases imported with
              | error cause => cases h
              | ok parent =>
                  obtain ⟨places?, -, h⟩ := Run.outcome_bind_eq_ok_iff.mp h
                  cases places? with
                  | none => cases h
                  | some places =>
                      obtain ⟨_, -, h⟩ := Run.outcome_bind_eq_ok_iff.mp h
                      cases h

-- The modules of the library are closed.
theorem isClosed_own : ∀ m ∈ Own.modules, m.isClosed = true := by
  decide +kernel

-- Importing has every property that joining runs keeps, if asking the modules on the way for their
-- places has it.
theorem importModule_of_joins {P : (α : Type) → Run α → Prop} (hP : Run.Joins P)
    (hfind : ∀ name m, catalogue.find? name = some m → P _ (m.find host "__path__"))
    (hsearch : ∀ name m store places, catalogue.find? name = some m →
      (m.find host "__path__" store).outcome = .ok (some places) → P _ (searchPlaces places))
    (name : String) : P _ (catalogue.importModule host name) := by
  rw [importModule]
  induction (Text.split '.' name).reverse with
  | nil => exact hP.pure _
  | cons last parents ih =>
      rw [importParts.eq_def]
      cases hfound : catalogue.find? (dotted (last :: parents).reverse) with
      | some found =>
          simp only [hfound]
          exact hP.pure _
      | none =>
          cases parents with
          | nil =>
              simp only [hfound]
              exact hP.pure _
          | cons _ _ =>
              simp only [hfound]
              refine hP.bind ih fun store imported himported => ?_
              cases imported with
              | error cause => exact hP.pure _
              | ok parent =>
                  have hparent := find?_of_importParts himported
                  refine hP.bind (hfind _ _ hparent) fun store places? hplaces => ?_
                  cases places? with
                  | none => exact hP.pure _
                  | some places =>
                      exact hP.bind (hsearch _ _ store places hparent hplaces)
                        fun _ _ _ => hP.pure _

-- Importing is harmless if every module that can be found can be asked for its places.
theorem harmless_importModule
    (h : ∀ name m, catalogue.find? name = some m → m.ListsPlaces host)
    (name : String) : (catalogue.importModule host name).Harmless :=
  importModule_of_joins .harmless (fun name m hm => (h name m hm).find)
    (fun name m store places hm => (h name m hm).search store places) name

end Catalogue

end StepFlow
