import StepFlow.Proofs.Discreet
import StepFlow.Proofs.Outcome
import StepFlow.Proofs.RegistryHistory
import StepFlow.Proofs.Resolution

namespace StepFlow

namespace Text

theorem splitChars_eq_splitOn (separator : Char) (cs : List Char) :
    splitChars separator cs = cs.splitOn separator := by
  induction cs with
  | nil => rfl
  | cons c cs ih =>
      rw [splitChars, ih, List.splitOn_cons_eq_if_modifyHead]
      cases h : cs.splitOn separator with
      | nil => exact absurd h (List.splitOn_ne_nil separator cs)
      | cons part parts => by_cases hc : c = separator <;> simp [hc]

end Text

-- Two runs together fail exactly when the first one does, or the second on its result.
theorem Run.outcome_bind_eq_error_iff {α β : Type} {run : Run α} {next : α → Run β} {store : Store}
    {fault : Fault} :
    ((run >>= next) store).outcome = .error fault ↔
      (run store).outcome = .error fault ∨
        ∃ a, (run store).outcome = .ok a ∧ (next a (run store).store).outcome = .error fault := by
  cases h : (run store).outcome with
  | error other => simp [Run.bind_of_error h]
  | ok a => simp [Run.bind_of_ok h]

-- What a target has under a name.
def Target.find (host : Host) (catalogue : Catalogue) (target : Target) (name : String) :
    Run (Option Target) :=
  match target with
  | .value v => Module.whereFound (v.getAttribute name)
  | .module other =>
    match catalogue.referred? other with
    | none => pure none
    | some m => m.find host name

namespace Reference

variable {host : Host} {catalogue : Catalogue} {r : Registry} {ref module path : String}
  {parts : List String} {store left : Store} {target : Target} {fault : Fault}

-- A text of one or more parts with dots between them and none in them.
structure Dotted (parts : List String) (text : String) : Prop where
  ne_nil : parts ≠ []
  noDot : ∀ part ∈ parts, '.' ∉ part.toList
  joined : Catalogue.dotted parts = text

theorem dotted_iff {text : String} : Dotted parts text ↔ Text.split '.' text = parts := by
  constructor
  · rintro ⟨hne, hnoDot, rfl⟩
    have hdot : ".".toList = ['.'] := rfl
    rw [Text.split, Catalogue.dotted, String.toList_intercalate, Text.splitChars_eq_splitOn, hdot,
      List.splitOn_intercalate '.' (by simpa using hnoDot) (by simpa using hne), List.map_map]
    simp
  · rintro rfl
    refine ⟨?_, ?_, Catalogue.dotted_split text⟩
    · rw [Text.split]
      exact fun h => Text.splitChars_ne_nil '.' text.toList (List.map_eq_nil_iff.mp h)
    · rw [Text.split]
      simpa using Text.separator_not_mem '.' text.toList

-- A module is named by identifiers with dots between them.
def IsModuleName (module : String) : Prop :=
  ∃ parts, Dotted parts module ∧ ∀ part ∈ parts, Text.isIdentifier part = true

theorem isModulePath_iff : isModulePath module = true ↔ IsModuleName module := by
  rw [isModulePath, List.all_eq_true]
  constructor
  · intro h
    exact ⟨_, dotted_iff.mpr rfl, h⟩
  · rintro ⟨parts, hdotted, hparts⟩
    rw [dotted_iff.mp hdotted]
    exact hparts

-- A reference under which nothing is registered, and which names a module before its first colon.
structure Imports (r : Registry) (ref module path : String) : Prop where
  unregistered : r.find? (Registry.normalForm ref) = none
  parts : ref = module ++ ":" ++ path
  first : ':' ∉ module.toList
  isModuleName : IsModuleName module

theorem imports_iff : Imports r ref module path ↔
    r.find? (Registry.normalForm ref) = none ∧
      splitColon? ref.toList = some (module.toList, path.toList) ∧
      isModulePath module = true := by
  have hjoined : ref = module ++ ":" ++ path ↔
      ref.toList = module.toList ++ ':' :: path.toList := by
    rw [← String.toList_inj, String.toList_append, String.toList_append, List.append_assoc]
    rfl
  rw [splitColon?_eq_some_iff, isModulePath_iff, ← hjoined]
  constructor
  · rintro ⟨hnone, hparts, hfirst, hmodule⟩
    exact ⟨hnone, ⟨hparts, hfirst⟩, hmodule⟩
  · rintro ⟨hnone, ⟨hparts, hfirst⟩, hmodule⟩
    exact ⟨hnone, hparts, hfirst, hmodule⟩

-- A reference is read in one way.
theorem Imports.unique {other otherPath : String} (h : Imports r ref module path)
    (hother : Imports r ref other otherPath) : module = other ∧ path = otherPath := by
  have hsplit := (imports_iff.mp h).2.1.symm.trans (imports_iff.mp hother).2.1
  rw [Option.some.injEq, Prod.mk.injEq, String.toList_inj, String.toList_inj] at hsplit
  exact hsplit

-- A path of attributes that leads to a target, each found where the one before it has led, from the
-- store that finding that one has left.
inductive Leads (host : Host) (catalogue : Catalogue) :
    (String → Run (Option Target)) → List String → Store → Target → Store → Prop
  | last {find : String → Run (Option Target)} {name : String} {store : Store} {target : Target}
      (hfound : (find name store).outcome = .ok (some target)) :
      Leads host catalogue find [name] store target (find name store).store
  | next {find : String → Run (Option Target)} {name : String} {names : List String}
      {store left : Store} {found target : Target}
      (hfound : (find name store).outcome = .ok (some found))
      (hnames : Leads host catalogue (found.find host catalogue) names (find name store).store
        target left) :
      Leads host catalogue find (name :: names) store target left

-- A path of attributes that is broken off by a fault in finding one of them, other than that it is
-- missing.
inductive BreaksOff (host : Host) (catalogue : Catalogue) :
    (String → Run (Option Target)) → List String → Store → Fault → Prop
  | here {find : String → Run (Option Target)} {name : String} {names : List String}
      {store : Store} {fault : Fault} (hfault : (find name store).outcome = .error fault)
      (hother : fault.category.isOf .attribute = false) :
      BreaksOff host catalogue find (name :: names) store fault
  | next {find : String → Run (Option Target)} {name : String} {names : List String}
      {store : Store} {found : Target} {fault : Fault}
      (hfound : (find name store).outcome = .ok (some found))
      (hnames : BreaksOff host catalogue (found.find host catalogue) names (find name store).store
        fault) :
      BreaksOff host catalogue find (name :: names) store fault

-- The first of the attributes, and then the others from where it leads.
def walk (host : Host) (catalogue : Catalogue) (find : String → Run (Option Target))
    (name : String) (names : List String) : Run (Option Target) := do
  match ← find name with
  | none => return none
  | some found => catalogue.follow? host found names

theorem follow?_cons (found : Target) (name : String) (names : List String) :
    catalogue.follow? host found (name :: names) =
      walk host catalogue (found.find host catalogue) name names := by
  rw [Catalogue.follow?.eq_def]
  cases found with
  | value v => rfl
  | module other =>
      rw [walk]
      simp only [Target.find]
      cases catalogue.referred? other <;> rfl

theorem followFrom?_cons (m : Module) (name : String) (names : List String) :
    catalogue.followFrom? host m (name :: names) =
      walk host catalogue (m.find host) name names := rfl

theorem walk_of_some {find : String → Run (Option Target)} {name : String} {found : Target}
    (h : (find name store).outcome = .ok (some found)) (names : List String) :
    walk host catalogue find name names store =
      let rest := catalogue.follow? host found names (find name store).store
      ⟨rest.outcome, (find name store).events ++ rest.events, rest.store⟩ := by
  rw [walk, Run.bind_of_ok h]

-- Following attributes leads where they lead one by one.
theorem leads_iff {find : String → Run (Option Target)} {name : String} {names : List String} :
    Leads host catalogue find (name :: names) store target left ↔
      (walk host catalogue find name names store).outcome = .ok (some target) ∧
        (walk host catalogue find name names store).store = left := by
  induction names generalizing find name store with
  | nil =>
      constructor
      · rintro (hfound | ⟨hfound, hnames⟩)
        · rw [walk_of_some hfound]
          exact ⟨rfl, rfl⟩
        · cases hnames
      · rintro ⟨hreached, rfl⟩
        obtain ⟨found?, hfound, hrest⟩ := Run.outcome_bind_eq_ok_iff.mp hreached
        cases found? with
        | none => cases hrest
        | some found =>
            rw [walk_of_some hfound]
            cases hrest
            exact .last hfound
  | cons next names ih =>
      constructor
      · rintro (_ | ⟨hfound, hnames⟩)
        rw [walk_of_some hfound, follow?_cons]
        exact ih.mp hnames
      · rintro ⟨hreached, hleft⟩
        obtain ⟨found?, hfound, hrest⟩ := Run.outcome_bind_eq_ok_iff.mp hreached
        cases found? with
        | none => cases hrest
        | some found =>
            rw [walk_of_some hfound, follow?_cons] at hreached hleft
            exact .next hfound (ih.mpr ⟨hreached, hleft⟩)

-- That an attribute is missing is no fault of finding it.
theorem isOf_of_whereFound {search : Run Value}
    (h : (Module.whereFound search store).outcome = .error fault) :
    fault.category.isOf .attribute = false := by
  have hattempt : (Run.attempt search store).outcome = .ok (search store).outcome := rfl
  rw [Module.whereFound, Run.bind_of_ok hattempt] at h
  cases hsearch : (search store).outcome with
  | ok v =>
      rw [hsearch] at h
      cases h
  | error other =>
      simp only [hsearch] at h
      split at h
      · cases h
      · next hother =>
          cases h
          exact Bool.eq_false_iff.mpr hother

theorem isOf_of_moduleFind {m : Module} {name : String}
    (h : (m.find host name store).outcome = .error fault) :
    fault.category.isOf .attribute = false := by
  rw [Module.find] at h
  cases hown : m.attribute? name with
  | some found =>
      rw [hown] at h
      cases h
  | none =>
      rw [hown] at h
      cases hmore : m.attributes.lookup "__getattr__" with
      | none =>
          rw [hmore] at h
          cases h
      | some more =>
          rw [hmore] at h
          cases more with
          | value v => exact isOf_of_whereFound h
          | module other => cases h

theorem isOf_of_targetFind {found : Target} {name : String}
    (h : (found.find host catalogue name store).outcome = .error fault) :
    fault.category.isOf .attribute = false := by
  cases found with
  | value v => exact isOf_of_whereFound h
  | module other =>
      rw [Target.find] at h
      cases hother : catalogue.referred? other with
      | none =>
          rw [hother] at h
          cases h
      | some m =>
          rw [hother] at h
          exact isOf_of_moduleFind h

theorem breaksOff_of_walk {find : String → Run (Option Target)} {name : String}
    {names : List String}
    (hfind : ∀ name store fault, (find name store).outcome = .error fault →
      fault.category.isOf .attribute = false)
    (h : (walk host catalogue find name names store).outcome = .error fault) :
    BreaksOff host catalogue find (name :: names) store fault := by
  induction names generalizing find name store with
  | nil =>
      obtain hfault | ⟨found?, -, hrest⟩ := Run.outcome_bind_eq_error_iff.mp h
      · exact .here hfault (hfind _ _ _ hfault)
      · cases found? <;> cases hrest
  | cons next names ih =>
      obtain hfault | ⟨found?, hfound, hrest⟩ := Run.outcome_bind_eq_error_iff.mp h
      · exact .here hfault (hfind _ _ _ hfault)
      · cases found? with
        | none => cases hrest
        | some found =>
            simp only [follow?_cons] at hrest
            exact .next hfound (ih (fun _ _ _ => isOf_of_targetFind) hrest)

-- The search for what a module has under a path: one import, and then what its attributes lead to.
def search (host : Host) (catalogue : Catalogue) (module path : String) :
    Run (Except ImportFault (Option Target)) := do
  match ← catalogue.importModule host module with
  | .error cause => return .error cause
  | .ok m => do return .ok (← catalogue.followFrom? host m (Text.split '.' path))

-- What a reference comes to by what the search has found.
def answer (ref module path : String) : Except ImportFault (Option Target) → Except Fault Callable
  | .error cause => .error (.deck (.notImported ref module cause))
  | .ok none => .error (.deck (.noAttribute ref module path))
  | .ok (some target) =>
    match target.callable? with
    | some c => .ok c
    | none => .error (.deck (.notCallable ref target.typeName))

theorem category_of_answer {found : Except ImportFault (Option Target)}
    (h : answer ref module path found = .error fault) : fault.category = .deck := by
  rw [answer.eq_def] at h
  split at h
  · cases h
    rfl
  · cases h
    rfl
  · split at h
    · cases h
    · cases h
      rfl

theorem answer_eq_ok_iff {found : Except ImportFault (Option Target)} {step : Callable} :
    answer ref module path found = .ok step ↔
      ∃ target, found = .ok (some target) ∧ target.callable? = some step := by
  rw [answer.eq_def]
  split
  · simp
  · simp
  · next target =>
      cases h : target.callable? <;> simp [h]

theorem importStep_eq (h : isModulePath module = true) :
    importStep host catalogue ref module path = (do
      Run.log .registry s!"importing step {path} from {module}"
      let found ← search host catalogue module path
      answer ref module path found) := by
  rw [importStep, h, search, Run.bind_assoc]
  refine congrArg (Run.log .registry _ >>= ·) (funext fun _ => ?_)
  refine congrArg (catalogue.importModule host module >>= ·) (funext fun imported => ?_)
  cases imported with
  | error cause => rfl
  | ok m =>
      rw [Run.bind_assoc]
      refine congrArg (catalogue.followFrom? host m (Text.split '.' path) >>= ·)
        (funext fun found? => ?_)
      cases found? with
      | none => rfl
      | some target =>
          simp only [Run.pure_bind, answer]
          cases target.callable? <;> rfl

-- A reference into a module leaves the record of the import and what the search leaves, and comes
-- to what the search has found.
theorem resolveText_of_imports (h : Imports r ref module path) (store : Store) :
    resolveText host catalogue r ref store =
      let searched := search host catalogue module path store
      ⟨searched.outcome >>= answer ref module path,
        .log .registry s!"importing step {path} from {module}" :: searched.events,
        searched.store⟩ := by
  obtain ⟨hnone, hsplit, hmodule⟩ := imports_iff.mp h
  have hlog : (Run.log .registry s!"importing step {path} from {module}" store).outcome = .ok () :=
    rfl
  rw [resolveText_of_none hnone, hsplit]
  simp only [String.ofList_toList]
  rw [importStep_eq hmodule, Run.bind_of_ok hlog]
  have hstore : (Run.log .registry s!"importing step {path} from {module}" store).store = store :=
    rfl
  rw [hstore]
  cases hfound : (search host catalogue module path store).outcome with
  | error fault =>
      rw [Run.bind_of_error hfound]
      rfl
  | ok found =>
      rw [Run.bind_of_ok hfound]
      have hlifted : ∀ outcome : Except Fault Callable,
          (liftM outcome : Run Callable) = Run.lift outcome := fun _ => rfl
      rw [hlifted]
      simp only [Run.lift, List.append_nil]
      rfl

-- Nothing happens for any other reference.
theorem resolveText_of_not_imports (host : Host) (catalogue : Catalogue)
    (h : ∀ module path, ¬ Imports r ref module path) :
    ∃ outcome, resolveText host catalogue r ref = Run.lift outcome ∧
      (∀ step, outcome = .ok step ↔ r.find? (Registry.normalForm ref) = some step) ∧
      ∀ fault, outcome = .error fault → fault.category = .deck := by
  cases hfound : r.find? (Registry.normalForm ref) with
  | some step =>
      refine ⟨.ok step, resolveText_of_some hfound, fun other => ?_, nofun⟩
      rw [Except.ok.injEq, Option.some.injEq]
  | none =>
      rw [resolveText_of_none hfound]
      cases hsplit : splitColon? ref.toList with
      | none =>
          refine ⟨.error (unregistered r ref), rfl, fun _ => ⟨nofun, nofun⟩, ?_⟩
          rintro fault ⟨⟩
          rfl
      | some parts =>
          obtain ⟨module, path⟩ := parts
          have hmodule : isModulePath (String.ofList module) = false := by
            by_contra hmodule
            refine h (String.ofList module) (String.ofList path) (imports_iff.mpr ⟨hfound, ?_, ?_⟩)
            · rw [hsplit, String.toList_ofList, String.toList_ofList]
            · exact Bool.not_eq_false _ ▸ hmodule
          refine ⟨.error (.deck (.moduleName ref (String.ofList module))), ?_,
            fun _ => ⟨nofun, nofun⟩, ?_⟩
          · simp only [importStep, hmodule]
            rfl
          · rintro fault ⟨⟩
            rfl

-- What a reference refers to: a registered step, or what a path of attributes leads to.
inductive Denotes (host : Host) (catalogue : Catalogue) (r : Registry) (ref : String)
    (store : Store) : Callable → Prop
  | registered {step : Callable} (h : r.find? (Registry.normalForm ref) = some step) :
      Denotes host catalogue r ref store step
  | imported {module path : String} {parts : List String} {m : Module} {target : Target}
      {left : Store} {step : Callable} (himports : Imports r ref module path)
      (hpath : Dotted parts path)
      (hmodule : (catalogue.importModule host module store).outcome = .ok (.ok m))
      (hleads : Leads host catalogue (m.find host) parts
        (catalogue.importModule host module store).store target left)
      (hstep : target.callable? = some step) : Denotes host catalogue r ref store step

-- A fault that is not of the reference: importing its module fails by itself, or finding one of the
-- attributes does.
inductive Interrupts (host : Host) (catalogue : Catalogue) (r : Registry) (ref : String)
    (store : Store) : Fault → Prop
  | importing {module path : String} {fault : Fault} (himports : Imports r ref module path)
      (hfault : (catalogue.importModule host module store).outcome = .error fault) :
      Interrupts host catalogue r ref store fault
  | finding {module path : String} {parts : List String} {m : Module} {fault : Fault}
      (himports : Imports r ref module path) (hpath : Dotted parts path)
      (hmodule : (catalogue.importModule host module store).outcome = .ok (.ok m))
      (hbreaks : BreaksOff host catalogue (m.find host) parts
        (catalogue.importModule host module store).store fault) :
      Interrupts host catalogue r ref store fault

-- There is always a first attribute.
theorem exists_split_eq_cons (path : String) :
    ∃ name names, Text.split '.' path = name :: names :=
  List.exists_cons_of_ne_nil (dotted_iff.mpr rfl).ne_nil

theorem search_ok_iff :
    (search host catalogue module path store).outcome = .ok (.ok (some target)) ↔
      ∃ m, (catalogue.importModule host module store).outcome = .ok (.ok m) ∧
        ∃ left, Leads host catalogue (m.find host) (Text.split '.' path)
          (catalogue.importModule host module store).store target left := by
  obtain ⟨name, names, hpath⟩ := exists_split_eq_cons path
  rw [search, Run.outcome_bind_eq_ok_iff, hpath]
  constructor
  · rintro ⟨imported, himported, hfound⟩
    cases imported with
    | error cause => cases hfound
    | ok m =>
        obtain ⟨found?, hfollowed, hfound⟩ := Run.outcome_bind_eq_ok_iff.mp hfound
        cases hfound
        exact ⟨m, himported, _, leads_iff.mpr ⟨hfollowed, rfl⟩⟩
  · rintro ⟨m, himported, left, hleads⟩
    refine ⟨.ok m, himported, Run.outcome_bind_eq_ok_iff.mpr ⟨some target, ?_, rfl⟩⟩
    exact (leads_iff.mp hleads).1

theorem fault_of_search (h : (search host catalogue module path store).outcome = .error fault) :
    (catalogue.importModule host module store).outcome = .error fault ∨
      ∃ m, (catalogue.importModule host module store).outcome = .ok (.ok m) ∧
        BreaksOff host catalogue (m.find host) (Text.split '.' path)
          (catalogue.importModule host module store).store fault := by
  obtain ⟨name, names, hpath⟩ := exists_split_eq_cons path
  obtain hfault | ⟨imported, himported, hrest⟩ := Run.outcome_bind_eq_error_iff.mp h
  · exact .inl hfault
  · cases imported with
    | error cause => cases hrest
    | ok m =>
        simp only [hpath, followFrom?_cons] at hrest ⊢
        obtain hwalk | ⟨found?, -, hnone⟩ := Run.outcome_bind_eq_error_iff.mp hrest
        · exact .inr ⟨m, himported, breaksOff_of_walk (fun _ _ _ => isOf_of_moduleFind) hwalk⟩
        · cases hnone

theorem discreet_targetFind
    (h : ∀ m ∈ catalogue.modules, ∀ name, (m.find host name).Discreet) (found : Target)
    (name : String) : (found.find host catalogue name).Discreet := by
  cases found with
  | value v =>
      refine (Value.discreet_getAttribute v name).attempt.bind fun _ outcome _ => ?_
      cases outcome with
      | ok v => exact .pure _
      | error fault =>
          simp only
          split
          · exact .pure _
          · exact .fail _
  | module other =>
      rw [Target.find]
      cases hm : catalogue.referred? other with
      | none => exact .pure _
      | some m => exact h m (Catalogue.mem_modules_of_referred? hm) name

theorem discreet_follow?
    (h : ∀ m ∈ catalogue.modules, ∀ name, (m.find host name).Discreet) (found : Target)
    (names : List String) : (catalogue.follow? host found names).Discreet := by
  induction names generalizing found with
  | nil => exact .pure _
  | cons name names ih =>
      rw [follow?_cons]
      refine (discreet_targetFind h found name).bind fun _ next? _ => ?_
      cases next? with
      | none => exact .pure _
      | some next => exact ih next

theorem discreet_search
    (h : ∀ m ∈ catalogue.modules, ∀ name, (m.find host name).Discreet) (module path : String) :
    (search host catalogue module path).Discreet := by
  refine (Catalogue.discreet_importModule h module).bind fun store imported himported => ?_
  cases imported with
  | error cause => exact .pure _
  | ok m =>
      refine Run.Discreet.bind ?_ fun _ _ _ => .pure _
      obtain ⟨name, names, hpath⟩ := exists_split_eq_cons path
      rw [hpath, followFrom?_cons]
      have hm := Catalogue.mem_modules_of_find? (Catalogue.find?_of_importParts himported)
      refine (h m hm name).bind fun _ found? _ => ?_
      cases found? with
      | none => exact .pure _
      | some found => exact discreet_follow? h found names

theorem call_resolveRef (world : World) (host : Host) (self ref : Value) :
    Native.call world host .resolveRef [self, ref] = Native.resolveIn world host self ref := rfl

-- Asking a registry for a reference is resolving it with what the registry holds.
theorem resolveRef_of_holds (world : World) (host : Host) {serial : Nat}
    (h : r.Holds (.registry serial) store) (ref : String) :
    Native.call world host .resolveRef [.registry serial, .str ref] store =
      let reached := resolveText host world.catalogue r ref store
      ⟨reached.outcome.map .callable, reached.events, reached.store⟩ := by
  have hcontents := Registry.contents_of_holds h
  rw [call_resolveRef, Native.resolveIn, Run.bind_of_ok (congrArg Reached.outcome hcontents),
    hcontents, resolve]
  cases hreached : (resolveText host world.catalogue r ref store).outcome with
  | error fault =>
      rw [Run.bind_of_error hreached]
      simp only [hreached, List.nil_append]
      rfl
  | ok step =>
      rw [Run.bind_of_ok hreached]
      simp only [hreached, List.nil_append, Run.pure_apply, List.append_nil]
      rfl

theorem outcome_resolveText_eq_ok_iff {step : Callable} :
    (resolveText host catalogue r ref store).outcome = .ok step ↔
      Denotes host catalogue r ref store step := by
  by_cases himports : ∃ module path, Imports r ref module path
  · obtain ⟨module, path, himports⟩ := himports
    rw [resolveText_of_imports himports]
    simp only [bind_eq_ok_iff, answer_eq_ok_iff]
    constructor
    · rintro ⟨_, hsearched, target, rfl, hstep⟩
      obtain ⟨m, hmodule, left, hleads⟩ := search_ok_iff.mp hsearched
      exact .imported himports (dotted_iff.mpr rfl) hmodule hleads hstep
    · rintro (hregistered | ⟨hother, hpath, hmodule, hleads, hstep⟩)
      · cases himports.unregistered.symm.trans hregistered
      · obtain ⟨rfl, rfl⟩ := himports.unique hother
        obtain rfl := dotted_iff.mp hpath
        exact ⟨_, search_ok_iff.mpr ⟨_, hmodule, _, hleads⟩, _, rfl, hstep⟩
  · obtain ⟨outcome, hreached, hok, -⟩ :=
      resolveText_of_not_imports host catalogue fun module path h => himports ⟨module, path, h⟩
    rw [hreached]
    constructor
    · intro h
      exact .registered ((hok step).mp h)
    · rintro (hregistered | ⟨hother, -, -, -, -⟩)
      · exact (hok step).mpr hregistered
      · exact absurd ⟨_, _, hother⟩ himports

theorem fault_of_resolveText (h : (resolveText host catalogue r ref store).outcome = .error fault) :
    fault.category = .deck ∨ Interrupts host catalogue r ref store fault := by
  by_cases himports : ∃ module path, Imports r ref module path
  · obtain ⟨module, path, himports⟩ := himports
    rw [resolveText_of_imports himports] at h
    obtain hsearched | ⟨found, -, hanswer⟩ := bind_eq_error_iff.mp h
    · obtain hfault | ⟨m, hmodule, hbreaks⟩ := fault_of_search hsearched
      · exact .inr (.importing himports hfault)
      · exact .inr (.finding himports (dotted_iff.mpr rfl) hmodule hbreaks)
    · exact .inl (category_of_answer hanswer)
  · obtain ⟨outcome, hreached, -, herror⟩ :=
      resolveText_of_not_imports host catalogue fun module path h => himports ⟨module, path, h⟩
    rw [hreached] at h
    exact .inl (herror fault h)

-- A registry resolves exactly what refers to a step. Everything else is a deck error, unless the
-- search for it is broken off. Only a reference into a module is searched for: it leaves one record
-- and what the search in this module leaves. The search changes no registry unless what a module is
-- asked for does.
theorem resolveRef_iff_denotes (world : World) (host : Host) {serial : Nat}
    (h : r.Holds (.registry serial) store) (ref : String) :
    let reached := Native.call world host .resolveRef [.registry serial, .str ref] store
    (∀ v, reached.outcome = .ok v ↔
      ∃ step, v = .callable step ∧ Denotes host world.catalogue r ref store step) ∧
    (∀ fault, reached.outcome = .error fault →
      fault.category = .deck ∨ Interrupts host world.catalogue r ref store fault) ∧
    ((∀ module path, ¬ Imports r ref module path) → reached.events = [] ∧ reached.store = store) ∧
    (∀ module path, Imports r ref module path →
      let searched := search host world.catalogue module path store
      reached.events =
        .log .registry s!"importing step {path} from {module}" :: searched.events ∧
      reached.store = searched.store) ∧
    ((∀ m ∈ world.catalogue.modules, ∀ name, (m.find host name).Discreet) →
      (∀ module path, Imports r ref module path →
        reached.events = [.log .registry s!"importing step {path} from {module}"]) ∧
      reached.store.registries = store.registries) := by
  intro reached
  have hreached : reached =
      let resolved := resolveText host world.catalogue r ref store
      ⟨resolved.outcome.map .callable, resolved.events, resolved.store⟩ :=
    resolveRef_of_holds world host h ref
  have hquiet : (∀ module path, ¬ Imports r ref module path) →
      reached.events = [] ∧ reached.store = store := by
    intro hnone
    obtain ⟨outcome, hlift, -⟩ := resolveText_of_not_imports host world.catalogue hnone
    rw [hreached, hlift]
    exact ⟨rfl, rfl⟩
  have hsearched : ∀ module path, Imports r ref module path →
      let searched := search host world.catalogue module path store
      reached.events =
        .log .registry s!"importing step {path} from {module}" :: searched.events ∧
      reached.store = searched.store := by
    intro module path himports
    rw [hreached, resolveText_of_imports himports]
    exact ⟨rfl, rfl⟩
  refine ⟨fun v => ?_, fun fault hfault => ?_, hquiet, hsearched, fun hdiscreet => ⟨?_, ?_⟩⟩
  · rw [hreached, map_eq_ok_iff]
    simp only [outcome_resolveText_eq_ok_iff]
    exact ⟨fun ⟨step, hstep, hv⟩ => ⟨step, hv.symm, hstep⟩,
      fun ⟨step, hv, hstep⟩ => ⟨step, hstep, hv.symm⟩⟩
  · rw [hreached, map_eq_error_iff] at hfault
    exact fault_of_resolveText hfault
  · intro module path himports
    rw [(hsearched module path himports).1, (discreet_search hdiscreet module path).events]
  · by_cases himports : ∃ module path, Imports r ref module path
    · obtain ⟨module, path, himports⟩ := himports
      rw [(hsearched module path himports).2]
      exact (discreet_search hdiscreet module path).registries store
    · rw [(hquiet fun module path himports' => himports ⟨module, path, himports'⟩).2]

-- A world with a further module, and a store with an empty registry.
def worldWith (m : Module) : World :=
  ⟨fun _ => .missing, .withModules [m]⟩

def storeWithEmpty : Store :=
  Store.start.keep (.registry 100) .empty

theorem holds_storeWithEmpty : Registry.empty.Holds (.registry 100) storeWithEmpty :=
  Registry.holds_keep ..

-- A module with one step.
def tools : Module :=
  ⟨"tools", false, .memory, [("load", .value (.callable BuiltIn.loadValue))]⟩

-- The body of the step is an attribute of it.
theorem resolveRef_iff_denotes_tools :
    let world := worldWith tools
    let store := storeWithEmpty
    let reached :=
      Native.call world world.host .resolveRef [.registry 100, .str "tools:load.body"] store
    Registry.empty.Holds (.registry 100) store ∧
    (∃ step, reached.outcome = .ok (.callable step)) ∧
    reached.events = [.log .registry "importing step load.body from tools"] ∧
    reached.store.registries = store.registries := by
  intro world store reached
  have hheld : Registry.empty.Holds (.registry 100) store := holds_storeWithEmpty
  have himports : Imports .empty "tools:load.body" "tools" "load.body" :=
    ⟨rfl, rfl, by decide, ["tools"], dotted_iff.mpr rfl, by decide⟩
  have himport : world.catalogue.importModule world.host "tools" = pure (.ok tools) :=
    Catalogue.importModule_of_find? rfl world.host
  have hload : (tools.find world.host "load" store).outcome =
      .ok (some (.value (.callable BuiltIn.loadValue))) := rfl
  have hleads : ∃ step left, Leads world.host world.catalogue (tools.find world.host)
      ["load", "body"] (world.catalogue.importModule world.host "tools" store).store
      (.value (.callable step)) left := by
    rw [himport]
    exact ⟨_, _, .next hload (.last rfl)⟩
  have hmissing : ∀ m ∈ world.catalogue.modules,
      (m.attributes.lookup "__getattr__").isNone = true := by
    decide +kernel
  obtain ⟨hresolves, -, -, -, hdiscreet⟩ :=
    resolveRef_iff_denotes world world.host hheld "tools:load.body"
  obtain ⟨hrecord, hkept⟩ := hdiscreet fun m hm =>
    Catalogue.discreet_find_of_lookup_eq_none (Option.isNone_iff_eq_none.mp (hmissing m hm)) _
  obtain ⟨step, left, hleads⟩ := hleads
  refine ⟨hheld, ⟨step, (hresolves _).mpr ⟨step, rfl, ?_⟩⟩, hrecord _ _ himports, hkept⟩
  have hcallable : (Target.value (.callable step)).callable? = some step := rfl
  exact .imported himports (dotted_iff.mpr rfl) (by rw [himport, Run.pure_apply]) hleads hcallable

-- A module that is asked for what it does not have. It knows where there are modules in it, changes
-- a registry when it is asked for one name, and fails for every other one.
def asking : Callable :=
  let answer (name : String) (body : Expr) : Expr × Expr :=
    (.lit (.str name), .lit (.callable (.function 200 ⟨name, [], body, none⟩)))
  let registers : Expr := .call (.lit (.callable (.bound (.registry 100) .register)))
    [.lit (.str "kept"), .lit (.callable BuiltIn.nop)]
  .function 201 ⟨"__getattr__", [BuiltIn.param "name"],
    .call (.item (.dict [answer "__path__" (.dict []), answer "keep" registers]) (.var "name")) [],
    none⟩

def asked : Module :=
  ⟨"tools", false, .memory, [("__getattr__", .value (.callable asking))]⟩

-- Every import succeeds or is answered. But looking up an attribute can fail otherwise than by not
-- finding it, and it can change the registry before the reference turns out to be none.
theorem resolveRef_distinguished :
    let world := worldWith asked
    let store := storeWithEmpty
    let reached (ref : String) :=
      Native.call world world.host .resolveRef [.registry 100, .str ref] store
    (∀ name, (world.catalogue.importModule world.host name).Harmless) ∧
    Registry.empty.Holds (.registry 100) store ∧
    (reached "tools:load").outcome = .error (.keyAbsent "'load'") ∧
    ((reached "tools:keep").store.registry? (.registry 100)).map Registry.supportedNames =
      some ["kept"] := by
  intro world store reached
  have hasked : asked.find world.host "__path__" = pure (some (.value (.dict []))) := rfl
  have himport : ∀ name, (world.catalogue.importModule world.host name).Harmless := by
    apply Catalogue.harmless_importModule
    intro name m hm
    obtain rfl | hown := List.mem_cons.mp (List.mem_of_find?_eq_some hm)
    · refine ⟨hasked ▸ .pure _, fun store places hplaces => ?_⟩
      rw [hasked] at hplaces
      cases hplaces
      exact fun _ => ⟨⟨(), rfl⟩, rfl⟩
    · exact Module.listsPlaces_of_isClosed (Catalogue.isClosed_own m hown) _
  have htools : world.catalogue.importModule world.host "tools" = pure (.ok asked) :=
    Catalogue.importModule_of_find? rfl world.host
  have hnamed : IsModuleName "tools" := ⟨["tools"], dotted_iff.mpr rfl, by decide⟩
  have hload : Imports .empty "tools:load" "tools" "load" := ⟨rfl, rfl, by decide, hnamed⟩
  have hfailed : (reached "tools:load").outcome = .error (.keyAbsent "'load'") := by
    rw [show reached "tools:load" = _ from
        resolveRef_of_holds world world.host holds_storeWithEmpty _,
      resolveText_of_imports hload, search, htools]
    rfl
  exact ⟨himport, holds_storeWithEmpty, hfailed, by decide +kernel⟩

end Reference

end StepFlow
