import StepFlow.Deck
import StepFlow.Native.Host
import StepFlow.Proofs.Quiet
import StepFlow.Proofs.Resolution

namespace StepFlow.Deck

open Pipeline (stepList)
open Reference (resolve resolveAll FirstUnresolved Searchable)

-- What arguments can be given: none, or an explicit list.
def Given (given : Value) : Prop :=
  given = .none ∨ given.items?.isSome = true

-- The items that a deck is run with: those given, else its own.
def itemsFor (deck : Deck) (given : Value) : List Value :=
  match given with
  | .none => deck.args
  | given => given.items?.getD []

variable {host : Host} {catalogue : Catalogue} {registry : Registry}
  {references : List String → Run (List Callable)} {payload given : Value} {deck : Deck}

theorem runArgs_of_given (hgiven : Given given) (deck : Deck) :
    deck.runArgs given = pure (deck.itemsFor given) := by
  obtain rfl | hitems := hgiven
  · rfl
  · cases given with
    | list items => rfl
    | tuple items => rfl
    | _ => cases hitems

theorem runWith_of_parse_eq_error {cause : Unmet} (h : parse payload = .error cause) :
    runWith host references payload given = Run.fail (.deck (.shape cause)) := by
  rw [runWith, h]
  rfl

theorem runWith_of_parse_eq_ok (h : parse payload = .ok deck) (hgiven : Given given) :
    runWith host references payload given = (do
      let steps ← references deck.steps
      Run.log .deck s!"running deck with {steps.length} step(s)"
      Pipeline.run host (.list (deck.itemsFor given)) (stepList steps)) := by
  rw [runWith, h]
  simp only [runArgs_of_given hgiven, Run.pure_bind]
  rfl

theorem quiet_runWith (host : Host) (references : List String → Run (List Callable))
    (h : parse payload = .ok deck) (hgiven : Given given) :
    (runWith host references payload given).quiet = (do
      let steps ← (references deck.steps).quiet
      (Pipeline.run host (.list (deck.itemsFor given)) (stepList steps)).quiet) := by
  rw [runWith_of_parse_eq_ok h hgiven, Run.quiet_bind]
  simp only [Run.quiet_bind, Run.quiet_log, Run.pure_bind]

-- The first reference that cannot be resolved is the last thing that is looked at.
theorem runData_of_firstUnresolved (h : parse payload = .ok deck) (hgiven : Given given)
    {store : Store} {before : List String} {ref : String} {fault : Fault}
    (hfirst : FirstUnresolved host catalogue registry deck.steps store before ref fault) :
    let resolved := resolveAll host catalogue registry before store
    let refused := resolve host catalogue registry (.str ref) resolved.store
    runData host catalogue registry payload given store =
      ⟨.error fault, resolved.events ++ refused.events, refused.store⟩ := by
  have hresolution := hfirst.resolveAll_eq
  rw [runData, runWith_of_parse_eq_ok h hgiven,
    Run.bind_of_error (congrArg Reached.outcome hresolution), hresolution]

-- So it is for the only reference of a deck.
theorem runData_of_unresolved {ref : String} {args : List Value}
    (h : parse payload = .ok ⟨[ref], args⟩) (hgiven : Given given) {store : Store} {fault : Fault}
    (hfault : (resolve host catalogue registry (.str ref) store).outcome = .error fault) :
    let refused := resolve host catalogue registry (.str ref) store
    runData host catalogue registry payload given store =
      ⟨.error fault, refused.events, refused.store⟩ := by
  have hfirst : FirstUnresolved host catalogue registry [ref] store [] ref fault :=
    ⟨List.prefix_rfl, ⟨[], rfl⟩, hfault⟩
  exact runData_of_firstUnresolved h hgiven hfirst

-- The phases of running a deck. A payload that cannot be parsed is a deck error with the message
-- of parsing, and nothing has happened. If a reference cannot be resolved, the run is that of
-- resolving the references up to the first such one, and has its fault. If all are resolved, the
-- run comes to what running the steps comes to, whatever fault that may be. As long as searching
-- for what the references name does not fail by itself and leaves no note, a reference that cannot
-- be resolved is a deck error, and all notes are those of the steps that run in the end.
theorem runData_phases (host : Host) (catalogue : Catalogue) (registry : Registry)
    (payload : Value) {given : Value} (hgiven : Given given) (store : Store) :
    let reached := runData host catalogue registry payload given store
    (∀ cause, parse payload = .error cause →
      reached = ⟨.error (.deck (.shape cause)), [], store⟩ ∧
      (Fault.deck (.shape cause)).message = (Fault.unmet cause).message) ∧
    ∀ deck, parse payload = .ok deck →
      let resolution := resolveAll host catalogue registry deck.steps store
      let first := FirstUnresolved host catalogue registry deck.steps store
      let searchable := ∀ ref ∈ deck.steps, registry.find? (Registry.normalForm ref) = none →
        Searchable host catalogue ref
      (∀ before ref fault, first before ref fault →
        let resolved := resolveAll host catalogue registry before store
        let refused := resolve host catalogue registry (.str ref) resolved.store
        reached = ⟨.error fault, resolved.events ++ refused.events, refused.store⟩ ∧
        (searchable → fault.category = .deck ∧ reached.notes = [])) ∧
      ((¬ ∃ before ref fault, first before ref fault) → ∃ steps,
        resolution.outcome = .ok steps ∧
        reached.EndsAs resolution.notes (Pipeline.run host (.list (deck.itemsFor given))
          (stepList steps) resolution.store) ∧
        (searchable → resolution.notes = [])) := by
  intro reached
  constructor
  · intro cause hcause
    have hreached : reached = ⟨.error (.deck (.shape cause)), [], store⟩ :=
      congrFun (runWith_of_parse_eq_error hcause) store
    exact ⟨hreached, rfl⟩
  intro deck hdeck resolution first searchable
  have htame : searchable → (resolveAll host catalogue registry deck.steps).Tame :=
    Reference.tame_resolveAll
  constructor
  · intro before ref fault hfirst resolved refused
    have hreached : reached = ⟨.error fault, resolved.events ++ refused.events, refused.store⟩ :=
      runData_of_firstUnresolved hdeck hgiven hfirst
    refine ⟨hreached, fun hsearchable => ?_⟩
    have hresolution : resolution = _ := hfirst.resolveAll_eq
    have hnotes : resolution.notes = [] := (htame hsearchable).notes store
    rw [hresolution] at hnotes
    rw [hreached]
    exact ⟨(htame hsearchable).category store fault (congrArg Reached.outcome hresolution), hnotes⟩
  · intro hnone
    have hsteps : ∃ steps, resolution.outcome = .ok steps := by
      cases h : resolution.outcome with
      | ok steps => exact ⟨steps, rfl⟩
      | error fault =>
          obtain ⟨before, ref, hfirst⟩ := Reference.exists_firstUnresolved h
          exact absurd ⟨before, ref, fault, hfirst⟩ hnone
    obtain ⟨steps, hsteps⟩ := hsteps
    refine ⟨steps, hsteps, ?_, fun hsearchable => (htame hsearchable).notes store⟩
    have hquiet := congrFun
      (quiet_runWith host (resolveAll host catalogue registry) hdeck hgiven) store
    rw [Run.bind_of_ok ((Run.outcome_quiet ..).trans hsteps)] at hquiet
    exact Reached.endsAs_of_quiet_eq hquiet

-- A deck of references.
def payloadOf (refs : List String) : Value :=
  .dict [(.str "steps", .list (refs.map .str))]

-- A registry of two steps, and a module with one of them.
def toolRegistry : Registry :=
  ⟨[("load", BuiltIn.loadValue), ("add", BuiltIn.addOne)]⟩

def tools : Module :=
  ⟨"tools", false, .memory, [("load", .value (.callable BuiltIn.loadValue))]⟩

-- A payload without steps, a reference to what a module does not have, and a step that fails.
theorem runData_phases_tools :
    let catalogue := Catalogue.withModules [tools]
    let reached (payload given : Value) :=
      runData World.bare.host catalogue toolRegistry payload given .start
    let refused := reached (payloadOf ["load", "tools:save", "unknown"]) .none
    reached (.dict []) .none = ⟨.error (.deck (.shape (.key "steps" "deck"))), [], .start⟩ ∧
    refused.outcome = .error (.deck (.noAttribute "tools:save" "tools" "save")) ∧
    refused.notes = [] ∧
    (reached (payloadOf ["load", "add"]) (.list [.str "x"])).outcome =
      .error (.type (.concatenation "str" "int")) := by
  intro catalogue reached refused
  have htools : catalogue.find? "tools" = some tools := rfl
  have hshape : reached (.dict []) .none =
      ⟨.error (.deck (.shape (.key "steps" "deck"))), [], .start⟩ := by
    obtain ⟨hshape, -⟩ := runData_phases World.bare.host catalogue toolRegistry (.dict [])
      (.inl rfl) .start
    exact (hshape _ rfl).1
  have hrefused : refused.outcome = .error (.deck (.noAttribute "tools:save" "tools" "save")) ∧
      refused.notes = [] := by
    obtain ⟨-, hdeck⟩ := runData_phases World.bare.host catalogue toolRegistry
      (payloadOf ["load", "tools:save", "unknown"]) (.inl rfl) .start
    obtain ⟨hfirst, -⟩ := hdeck ⟨["load", "tools:save", "unknown"], []⟩ rfl
    have hsave : (resolve World.bare.host catalogue toolRegistry (.str "tools:save")
        .start).outcome = .error (.deck (.noAttribute "tools:save" "tools" "save")) := by
      rw [Reference.resolve_of_find? "tools" "save" (by rfl) rfl rfl htools]
      rfl
    have hsearchable : ∀ ref ∈ ["load", "tools:save", "unknown"],
        toolRegistry.find? (Registry.normalForm ref) = none →
          Searchable World.bare.host catalogue ref := by
      simp only [List.forall_mem_cons]
      refine ⟨nofun, fun _ => ?_, fun _ _ _ h => ?_, nofun⟩
      · exact Reference.searchable_of_find? rfl htools fun _ => ⟨⟨none, rfl⟩, rfl⟩
      · cases h
    obtain ⟨hreached, hnotes⟩ := hfirst ["load"] "tools:save" _
      ⟨⟨["unknown"], rfl⟩, ⟨[BuiltIn.loadValue], rfl⟩, hsave⟩
    exact ⟨congrArg Reached.outcome hreached, (hnotes hsearchable).2⟩
  have hfailed : (reached (payloadOf ["load", "add"]) (.list [.str "x"])).outcome =
      .error (.type (.concatenation "str" "int")) := by
    have hresolve : resolveAll World.bare.host catalogue toolRegistry ["load", "add"] =
        pure [BuiltIn.loadValue, BuiltIn.addOne] :=
      Reference.resolveAll_of_registered (.cons rfl (.cons rfl .nil))
    have hnone : ¬ ∃ before ref fault, FirstUnresolved World.bare.host catalogue toolRegistry
        ["load", "add"] .start before ref fault := by
      rintro ⟨before, ref, fault, hfirst⟩
      cases (congrFun hresolve .start).symm.trans hfirst.resolveAll_eq
    have hgiven : Given (.list [.str "x"]) := .inr rfl
    obtain ⟨-, hdeck⟩ := runData_phases World.bare.host catalogue toolRegistry
      (payloadOf ["load", "add"]) hgiven .start
    obtain ⟨-, hrun⟩ := hdeck ⟨["load", "add"], []⟩ rfl
    obtain ⟨steps, hsteps, hends, -⟩ := hrun hnone
    rw [hresolve] at hsteps hends
    cases hsteps
    exact hends.outcome
  exact ⟨hshape, hrefused.1, hrefused.2, hfailed⟩

-- A module whose `__getattr__` is a step. It knows two names and fails for every other one.
def asking : Callable :=
  let answer (name label : String) (body : Expr) : Expr × Expr :=
    (.lit (.str name), .lit (.callable (.function 200 ⟨label, [], body, none⟩)))
  BuiltIn.step 201 .input "ask" ["name"]
    (.call (.item (.dict [answer "__path__" "places" (.dict []),
      answer "save" "saving" (.note "asked" (.dict []))]) (.var "name")) []) none

def asked : Module :=
  ⟨"tools", false, .memory, [("__getattr__", .value (.callable asking))]⟩

-- Every import succeeds or is answered, but looking up an attribute can fail otherwise, and it can
-- run the body of a step before the reference turns out to be none.
theorem phases_distinguished :
    let catalogue := Catalogue.withModules [asked]
    let reached (ref : String) :=
      runData World.bare.host catalogue .default (payloadOf [ref]) .none .start
    (∀ name, (catalogue.importModule World.bare.host name).Harmless) ∧
    (reached "tools:load").outcome = .error (.keyAbsent "'load'") ∧
    (reached "tools:save").outcome = .error (.deck (.notCallable "tools:save" "dict")) ∧
    (reached "tools:save").notes = ["asked"] := by
  intro catalogue reached
  have htools : catalogue.find? "tools" = some asked := rfl
  have himport : ∀ name, (catalogue.importModule World.bare.host name).Harmless := by
    apply Catalogue.harmless_importModule
    intro name m hm
    obtain rfl | hown := List.mem_cons.mp (List.mem_of_find?_eq_some hm)
    · refine ⟨fun _ => ⟨⟨_, rfl⟩, rfl⟩, ?_⟩
      rintro store places ⟨⟩
      exact fun _ => ⟨⟨(), rfl⟩, rfl⟩
    · exact Module.listsPlaces_of_isClosed (Catalogue.isClosed_own m hown) _
  have hload : (reached "tools:load").outcome = .error (.keyAbsent "'load'") := by
    have hparse : parse (payloadOf ["tools:load"]) = .ok ⟨["tools:load"], []⟩ := rfl
    have hfault : (resolve World.bare.host catalogue .default (.str "tools:load")
        .start).outcome = .error (.keyAbsent "'load'") := by
      rw [Reference.resolve_of_find? "tools" "load" (by rfl) rfl rfl htools]
      rfl
    simp only [reached, runData_of_unresolved hparse (.inl rfl) hfault]
  have hsave : reached "tools:save" = ⟨.error (.deck (.notCallable "tools:save" "dict")),
      [.log .registry "importing step save from tools", .note "asked"], .start⟩ := by
    have hparse : parse (payloadOf ["tools:save"]) = .ok ⟨["tools:save"], []⟩ := rfl
    have hreached : resolve World.bare.host catalogue .default (.str "tools:save") .start =
        ⟨.error (.deck (.notCallable "tools:save" "dict")),
          [.log .registry "importing step save from tools", .note "asked"], .start⟩ := by
      rw [Reference.resolve_of_find? "tools" "save" (by rfl) rfl rfl htools]
      rfl
    simp only [reached,
      runData_of_unresolved hparse (.inl rfl) (congrArg Reached.outcome hreached), hreached]
  exact ⟨himport, hload, by rw [hsave], by rw [hsave]; rfl⟩

end StepFlow.Deck
