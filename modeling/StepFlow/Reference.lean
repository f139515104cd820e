import StepFlow.Catalogue
import StepFlow.Run.Items
import StepFlow.Text.Identifier
import StepFlow.Text.Split

namespace StepFlow.Reference

-- The text before the first colon and the text after it; none without a colon.
def splitColon? (ref : List Char) : Option (List Char × List Char) :=
  match ref with
  | [] => none
  | c :: cs =>
    if c = ':' then some ([], cs)
    else (splitColon? cs).map fun (before, after) => (c :: before, after)

-- A reference is split at its first colon.
theorem splitColon?_eq_some_iff {ref before after : List Char} :
    splitColon? ref = some (before, after) ↔ ref = before ++ ':' :: after ∧ ':' ∉ before := by
  induction ref generalizing before with
  | nil => simp [splitColon?]
  | cons c cs ih =>
    by_cases hc : c = ':'
    · cases before with
      | nil => simp [splitColon?, hc]
      | cons b bs =>
        simp only [splitColon?, hc, if_true, List.cons_append, List.cons.injEq, List.mem_cons,
          not_or]
        constructor
        · intro h
          simp at h
        · intro h
          exact absurd h.1.1 h.2.1
    · cases before with
      | nil => simp [splitColon?, hc]
      | cons b bs =>
        simp only [splitColon?, hc, if_false, Option.map_eq_some_iff, Prod.mk.injEq,
          List.cons.injEq, List.cons_append, List.mem_cons, not_or]
        constructor
        · rintro ⟨⟨bs', after'⟩, hsplit, ⟨hb, hbs⟩, hafter⟩
          subst hb hbs hafter
          have h := ih.mp hsplit
          exact ⟨⟨rfl, h.1⟩, Ne.symm hc, h.2⟩
        · rintro ⟨⟨hb, hcs⟩, _, hmem⟩
          exact ⟨(bs, after), ih.mpr ⟨hcs, hmem⟩, ⟨hb, rfl⟩, rfl⟩

-- A module is named by identifiers with dots between them.
def isModulePath (module : String) : Bool :=
  (Text.split '.' module).all Text.isIdentifier

-- Imports a module and follows a path of attributes to a callable.
def importStep (host : Host) (catalogue : Catalogue) (ref module path : String) :
    Run Callable := do
  if !isModulePath module then
    Run.fail (.deck (.moduleName ref module))
  else do
    Run.log .registry s!"importing step {path} from {module}"
    match ← catalogue.importModule host module with
    | .error cause => Run.fail (.deck (.notImported ref module cause))
    | .ok m => do
      match ← catalogue.followFrom? host m (Text.split '.' path) with
      | none => Run.fail (.deck (.noAttribute ref module path))
      | some target =>
        match target.callable? with
        | some c => return c
        | none => Run.fail (.deck (.notCallable ref target.typeName))

def unregistered (r : Registry) (ref : String) : Fault :=
  .deck (.unregistered ref r.supportedNames)

-- Resolves a text.
def resolveText (host : Host) (catalogue : Catalogue) (r : Registry) (ref : String) :
    Run Callable := do
  match ← r.resolve (.str ref) with
  | some step => return step
  | none =>
    match splitColon? ref.toList with
    | none => Run.fail (unregistered r ref)
    | some (module, path) =>
      importStep host catalogue ref (String.ofList module) (String.ofList path)

-- Resolves any value. One that is not a text can only be a registered name, though it is first
-- searched for a colon like a text.
def resolve (host : Host) (catalogue : Catalogue) (r : Registry) (ref : Value) : Run Callable :=
  match ref with
  | .str s => resolveText host catalogue r s
  | ref => do
    match ← r.resolve ref with
    | some step => return step
    | none => do
      if ← Run.isIn (.str ":") ref then Run.fail (ref.lacks "partition")
      else Run.fail (unregistered r ref.plain)

-- Resolves references in order; the first that fails ends it.
def resolveAll (host : Host) (catalogue : Catalogue) (r : Registry) :
    List String → Run (List Callable)
  | [] => return []
  | ref :: refs => do
    let step ← resolveText host catalogue r ref
    return step :: (← resolveAll host catalogue r refs)

end StepFlow.Reference
