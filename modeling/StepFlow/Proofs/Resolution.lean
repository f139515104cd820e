import StepFlow.Reference
import StepFlow.Proofs.Importing
import Mathlib.Data.List.Forall2
import Mathlib.Data.List.Induction

namespace StepFlow

namespace Run

variable {α β : Type} {run : Run α}

-- A run that leaves no note and fails with deck errors only.
structure Tame (run : Run α) : Prop where
  notes : ∀ store, (run store).notes = []
  category : ∀ store fault, (run store).outcome = .error fault → fault.category = .deck

theorem Harmless.tame (h : run.Harmless) : run.Tame where
  notes := fun store => (h store).2
  category := by
    intro store fault hfault
    obtain ⟨a, ha⟩ := (h store).1
    cases hfault.symm.trans ha

theorem tame_fail {fault : Fault} (h : fault.category = .deck) : (fail fault : Run α).Tame where
  notes := fun _ => rfl
  category := by
    rintro store other ⟨⟩
    exact h

theorem tame_log (logger : Logger) (message : String) : (log logger message).Tame where
  notes := fun _ => rfl
  category := nofun

theorem Tame.bind {next : α → Run β} (h : run.Tame)
    (hnext : ∀ store a, (run store).outcome = .ok a → (next a).Tame) : (run >>= next).Tame where
  notes := fun store => notes_bind_eq_nil (h.notes store) fun a ha => (hnext store a ha).notes _
  category := by
    intro store fault hfault
    cases ha : (run store).outcome with
    | error other =>
        rw [bind_of_error ha] at hfault
        cases hfault
        exact h.category store fault ha
    | ok a =>
        rw [bind_of_ok ha] at hfault
        exact (hnext store a ha).category _ fault hfault

end Run

namespace Reference

variable {host : Host} {catalogue : Catalogue} {r : Registry} {ref : String} {refs : List String}
  {step : Callable} {store : Store}

-- A registered name goes before everything else that a reference can be.
theorem resolveText_of_some (h : r.find? (Registry.normalForm ref) = some step) :
    resolveText host catalogue r ref = pure step := by
  ext store
  rw [resolveText, Registry.resolve_str, h]
  rfl

theorem resolveText_of_none (h : r.find? (Registry.normalForm ref) = none) :
    resolveText host catalogue r ref =
      match splitColon? ref.toList with
      | none => Run.fail (unregistered r ref)
      | some (module, path) =>
        importStep host catalogue ref (String.ofList module) (String.ofList path) := by
  ext store
  rw [resolveText, Registry.resolve_str, h]
  rfl

-- A reference into a module that is found comes to what its attributes lead to.
theorem resolve_of_find? (module path : String) {m : Module}
    (hnone : r.find? (Registry.normalForm ref) = none)
    (hsplit : splitColon? ref.toList = some (module.toList, path.toList))
    (hmodule : isModulePath module = true) (hfind : catalogue.find? module = some m) :
    resolve host catalogue r (.str ref) = (do
      Run.log .registry s!"importing step {path} from {module}"
      match ← catalogue.followFrom? host m (Text.split '.' path) with
      | none => Run.fail (.deck (.noAttribute ref module path))
      | some target =>
        match target.callable? with
        | some c => return c
        | none => Run.fail (.deck (.notCallable ref target.typeName))) := by
  rw [resolve, resolveText_of_none hnone, hsplit]
  simp only [String.ofList_toList]
  rw [importStep, hmodule, Catalogue.importModule_of_find? hfind]
  rfl

-- References that are registered names come to their steps, whatever can be imported.
theorem resolveAll_of_registered {steps : List Callable}
    (h : List.Forall₂ (fun ref step => r.find? (Registry.normalForm ref) = some step) refs steps) :
    resolveAll host catalogue r refs = pure steps := by
  induction h with
  | nil => rfl
  | cons hstep _ ih => simp only [resolveAll, resolveText_of_some hstep, ih, Run.pure_bind]

theorem resolveAll_append (more : List String) :
    resolveAll host catalogue r (refs ++ more) = do
      let steps ← resolveAll host catalogue r refs
      let others ← resolveAll host catalogue r more
      return steps ++ others := by
  induction refs with
  | nil => simp [resolveAll]
  | cons ref refs ih => simp [resolveAll, ih]

-- The first of references that cannot be resolved. Those before it are, and it fails from the store
-- that they leave.
structure FirstUnresolved (host : Host) (catalogue : Catalogue) (r : Registry)
    (refs : List String) (store : Store) (before : List String) (ref : String) (fault : Fault) :
    Prop where
  inOrder : before ++ [ref] <+: refs
  resolved : ∃ steps, (resolveAll host catalogue r before store).outcome = .ok steps
  unresolved : (resolve host catalogue r (.str ref)
    (resolveAll host catalogue r before store).store).outcome = .error fault

-- It is the last one that is looked at.
theorem FirstUnresolved.resolveAll_eq {before : List String} {fault : Fault}
    (h : FirstUnresolved host catalogue r refs store before ref fault) :
    let resolved := resolveAll host catalogue r before store
    let refused := resolve host catalogue r (.str ref) resolved.store
    resolveAll host catalogue r refs store =
      ⟨.error fault, resolved.events ++ refused.events, refused.store⟩ := by
  intro resolved refused
  obtain ⟨after, rfl⟩ := h.inOrder
  obtain ⟨steps, hsteps⟩ := h.resolved
  have hrefused : (resolveAll host catalogue r (ref :: after) resolved.store) =
      ⟨.error fault, refused.events, refused.store⟩ := by
    rw [resolveAll]
    exact Run.bind_of_error h.unresolved _
  rw [List.append_assoc, List.singleton_append, resolveAll_append, Run.bind_of_ok hsteps,
    Run.bind_of_error (congrArg Reached.outcome hrefused), hrefused]

-- Resolving fails only for a first reference that cannot be resolved.
theorem exists_firstUnresolved {fault : Fault}
    (h : (resolveAll host catalogue r refs store).outcome = .error fault) :
    ∃ before ref, FirstUnresolved host catalogue r refs store before ref fault := by
  induction refs using List.reverseRecOn with
  | nil => cases h
  | append_singleton refs ref ih =>
      cases hrefs : (resolveAll host catalogue r refs store).outcome with
      | error other =>
          rw [resolveAll_append, Run.bind_of_error hrefs] at h
          cases h
          obtain ⟨before, ref', hfirst⟩ := ih hrefs
          exact ⟨before, ref', hfirst.inOrder.trans (List.prefix_append refs [ref]),
            hfirst.resolved, hfirst.unresolved⟩
      | ok steps =>
          refine ⟨refs, ref, List.prefix_rfl, ⟨steps, hrefs⟩, ?_⟩
          rw [resolveAll_append, Run.bind_of_ok hrefs, resolveAll] at h
          generalize (resolveAll host catalogue r refs store).store = left at h ⊢
          cases href : (resolveText host catalogue r ref left).outcome with
          | error other =>
              rw [Run.bind_assoc, Run.bind_of_error href] at h
              cases h
              exact href
          | ok step =>
              rw [Run.bind_assoc, Run.bind_of_ok href] at h
              cases h

-- Importing the module of a reference and following the attributes in it does not fail and leaves
-- no note.
def Searchable (host : Host) (catalogue : Catalogue) (ref : String) : Prop :=
  ∀ module path, splitColon? ref.toList = some (module, path) →
    isModulePath (String.ofList module) = true →
      (catalogue.importModule host (String.ofList module)).Harmless ∧
        ∀ store m,
          (catalogue.importModule host (String.ofList module) store).outcome = .ok (.ok m) →
            (catalogue.followFrom? host m (Text.split '.' (String.ofList path))).Harmless

theorem searchable_of_find? {module path : List Char} {m : Module}
    (hsplit : splitColon? ref.toList = some (module, path))
    (hfind : catalogue.find? (String.ofList module) = some m)
    (hfollow : (catalogue.followFrom? host m (Text.split '.' (String.ofList path))).Harmless) :
    Searchable host catalogue ref := by
  intro module' path' hsplit' _
  cases hsplit.symm.trans hsplit'
  rw [Catalogue.importModule_of_find? hfind]
  refine ⟨.pure _, fun store imported h => ?_⟩
  cases h
  exact hfollow

theorem tame_importStep {module path : List Char}
    (hsplit : splitColon? ref.toList = some (module, path)) (h : Searchable host catalogue ref) :
    (importStep host catalogue ref (String.ofList module) (String.ofList path)).Tame := by
  rw [importStep]
  by_cases hmodule : isModulePath (String.ofList module) = true
  · obtain ⟨himport, hfollow⟩ := h module path hsplit hmodule
    rw [hmodule]
    refine (Run.tame_log _ _).bind fun _ _ _ => himport.tame.bind fun store imported hm => ?_
    cases imported with
    | error cause => exact Run.tame_fail rfl
    | ok m =>
        refine (hfollow store m hm).tame.bind fun _ found? _ => ?_
        cases found? with
        | none => exact Run.tame_fail rfl
        | some target =>
            cases hcallable : target.callable? with
            | none => simpa only [hcallable] using Run.tame_fail rfl
            | some c => simpa only [hcallable] using (Run.Harmless.pure c).tame
  · rw [Bool.not_eq_true] at hmodule
    rw [hmodule]
    exact Run.tame_fail rfl

theorem tame_resolveText
    (h : r.find? (Registry.normalForm ref) = none → Searchable host catalogue ref) :
    (resolveText host catalogue r ref).Tame := by
  cases hfound : r.find? (Registry.normalForm ref) with
  | some step =>
      rw [resolveText_of_some hfound]
      exact (Run.Harmless.pure step).tame
  | none =>
      rw [resolveText_of_none hfound]
      cases hsplit : splitColon? ref.toList with
      | none => exact Run.tame_fail rfl
      | some parts => exact tame_importStep hsplit (h hfound)

theorem tame_resolveAll
    (h : ∀ ref ∈ refs, r.find? (Registry.normalForm ref) = none → Searchable host catalogue ref) :
    (resolveAll host catalogue r refs).Tame := by
  induction refs with
  | nil => exact (Run.Harmless.pure []).tame
  | cons ref refs ih =>
      rw [List.forall_mem_cons] at h
      exact (tame_resolveText h.1).bind fun _ step _ => (ih h.2).bind fun _ steps _ =>
        (Run.Harmless.pure (step :: steps)).tame

end Reference

end StepFlow
