import StepFlow.Proofs.DeckGrammar
import StepFlow.Proofs.DeckPhases
import StepFlow.Proofs.Registration

namespace StepFlow

-- Only the items of the arguments of a run matter.
theorem Pipeline.run_eq_of_items? (host : Host) {args : Value} {items : List Value}
    (hargs : args.items? = some items) (steps : Value) :
    run host args steps = run host (.list items) steps := by
  have hlist : (Value.list items).items? = some items := rfl
  simp only [run, runArguments, hargs, hlist]

namespace Deck

-- What a value refers to as a registered name.
def RefersTo (calls : List (Value × Value)) (v : Value) (step : Callable) : Prop :=
  ∃ s, v.text? = some s ∧ Registry.latest? calls (Registry.normalForm s) = some step

-- A text with something beside blanks in it whose normal form is that of a name that a call has
-- registered a step under.
def IsRegistered (calls : List (Value × Value)) (v : Value) : Prop :=
  ∃ s, v.text? = some s ∧ Text.strip s ≠ "" ∧
    ∃ call ∈ calls, ∃ c, Registry.registers? call = some (Registry.normalForm s, c)

-- The arguments of a deck, which are none if there are none.
def ownArgs (entries : Entries) : Value :=
  match entries.get? "args" with
  | none | some .none => .list []
  | some own => own

-- The arguments that a deck is run with: those given, else its own.
def argsFor (entries : Entries) (given : Value) : Value :=
  match given with
  | .none => ownArgs entries
  | given => given

variable {calls : List (Value × Value)} {entries : Entries} {given : Value}

-- A value refers to one step at most.
theorem RefersTo.rightUnique : Relator.RightUnique (RefersTo calls) := by
  rintro v step other ⟨s, hs, hstep⟩ ⟨s', hs', hother⟩
  cases hs.symm.trans hs'
  exact Option.some.inj (hstep.symm.trans hother)

theorem RefersTo.isRegistered {s : String} {step : Callable} (h : RefersTo calls (.str s) step)
    (hne : Text.strip s ≠ "") : IsRegistered calls (.str s) := by
  obtain ⟨_, ⟨⟩, hstep⟩ := h
  exact ⟨s, rfl, hne,
    (Registry.latest?_isSome_iff calls _).mp (Option.isSome_iff_exists.mpr ⟨step, hstep⟩)⟩

theorem exists_refersTo {refs : List Value} (h : ∀ v ∈ refs, IsRegistered calls v) :
    ∃ texts targets, List.Forall₂ IsReference refs texts ∧
      List.Forall₂ (RefersTo calls) refs targets ∧
      List.Forall₂ (fun text target =>
        (Registry.ofCalls calls).find? (Registry.normalForm text) = some target) texts targets := by
  induction refs with
  | nil => exact ⟨[], [], .nil, .nil, .nil⟩
  | cons v refs ih =>
      obtain ⟨⟨s, hs, hne, hcall⟩, hrest⟩ := List.forall_mem_cons.mp h
      obtain ⟨texts, targets, htexts, htargets, hfound⟩ := ih hrest
      obtain ⟨target, htarget⟩ := Option.isSome_iff_exists.mp
        ((Registry.latest?_isSome_iff calls (Registry.normalForm s)).mpr hcall)
      refine ⟨Text.strip s :: texts, target :: targets, .cons ⟨s, hs, rfl, hne⟩ htexts,
        .cons ⟨s, hs, htarget⟩ htargets, .cons ?_ hfound⟩
      rw [Registry.normalForm_strip, Registry.find?_ofCalls, htarget]

theorem exists_hasArgs (hargs : ∀ own, entries.get? "args" = some own → Given own) :
    ∃ args, HasArgs entries args := by
  cases hown : entries.get? "args" with
  | none => exact ⟨[], .absent hown⟩
  | some own =>
      obtain rfl | hitems := hargs own hown
      · exact ⟨[], .nothing hown⟩
      · obtain ⟨items, hitems⟩ := Option.isSome_iff_exists.mp hitems
        exact ⟨items, .given hown hitems⟩

theorem items?_ownArgs {args : List Value} (h : HasArgs entries args) :
    (ownArgs entries).items? = some args := by
  rw [ownArgs]
  cases h with
  | absent habsent => rw [habsent]; rfl
  | nothing hnothing => rw [hnothing]; rfl
  | @given own _ hown hitems =>
      rw [hown]
      cases own with
      | none => cases hitems
      | _ => exact hitems

theorem items?_argsFor (deck : Deck) (hargs : HasArgs entries deck.args) (hgiven : Given given) :
    (argsFor entries given).items? = some (deck.itemsFor given) := by
  obtain rfl | hitems := hgiven
  · exact items?_ownArgs hargs
  · obtain ⟨items, hitems⟩ := Option.isSome_iff_exists.mp hitems
    cases given with
    | list found => rfl
    | tuple found => rfl
    | _ => cases hitems

-- A deck of registered names comes to what the steps that were registered last under them come to
-- as a pipeline, with the same arguments.
theorem runData_registered (host : Host) (catalogue : Catalogue) (calls : List (Value × Value))
    {payload steps given : Value} {refs : List Value} {entries : Entries}
    (hpayload : payload.entries? = some entries) (hsteps : entries.get? "steps" = some steps)
    (hrefs : steps.items? = some refs) (hne : refs ≠ [])
    (hregistered : ∀ v ∈ refs, IsRegistered calls v)
    (hargs : ∀ own, entries.get? "args" = some own → Given own) (hgiven : Given given) :
    ∃ targets, List.Forall₂ (RefersTo calls) refs targets ∧
      (runData host catalogue (Registry.ofCalls calls) payload given).SameButRecords
        (Pipeline.run host (argsFor entries given) (Pipeline.stepList targets)) := by
  obtain ⟨texts, targets, htexts, htargets, hfound⟩ := exists_refersTo hregistered
  obtain ⟨args, hown⟩ := exists_hasArgs hargs
  have hparse : parse payload = .ok ⟨texts, args⟩ :=
    (parse_eq_ok_iff payload ⟨texts, args⟩).mpr
      ⟨entries, hpayload, ⟨steps, refs, hsteps, hrefs, hne, htexts⟩, hown⟩
  refine ⟨targets, htargets, Run.sameButRecords_iff.mpr ?_⟩
  calc
    (runData host catalogue (Registry.ofCalls calls) payload given).quiet
      = (Pipeline.run host (.list (itemsFor ⟨texts, args⟩ given))
          (Pipeline.stepList targets)).quiet := by
      rw [runData, quiet_runWith host _ hparse hgiven,
        Reference.resolveAll_of_registered hfound, Run.quiet_pure, Run.pure_bind]
    _ = (Pipeline.run host (argsFor entries given) (Pipeline.stepList targets)).quiet := by
      rw [Pipeline.run_eq_of_items? host (items?_argsFor ⟨texts, args⟩ hown hgiven)]

-- Names under which steps are registered, one of them twice and one of them without success.
def shopCalls : List (Value × Value) :=
  [(.str " Load", .callable BuiltIn.loadValue), (.str "math:ADD", .callable BuiltIn.nop),
    (.str "Math:Add\t", .callable BuiltIn.addOne), (.str "load", .int 3),
    (.str "mul", .callable BuiltIn.product)]

-- A deck that writes them in other ways, whose own arguments are not used.
theorem runData_registered_shop :
    let refs : List Value := [.str "LOAD ", .str "math:add", .str " Mul"]
    let entries : Entries := [(.str "steps", .tuple refs), (.str "args", .list [.int 3])]
    (runData World.bare.host World.bare.catalogue (Registry.ofCalls shopCalls) (.dict entries)
      (.tuple [.int 25]) .start).outcome = .ok (.int 650) := by
  intro refs entries
  have hlatest : ∀ normal, Registry.latest? shopCalls normal =
      [("mul", BuiltIn.product), ("math:add", BuiltIn.addOne), ("math:add", BuiltIn.nop),
        ("load", BuiltIn.loadValue)].lookup normal := fun _ => rfl
  have hload : RefersTo shopCalls (.str "LOAD ") BuiltIn.loadValue := ⟨"LOAD ", rfl, hlatest _⟩
  have hadd : RefersTo shopCalls (.str "math:add") BuiltIn.addOne :=
    ⟨"math:add", rfl, hlatest _⟩
  have hmul : RefersTo shopCalls (.str " Mul") BuiltIn.product := ⟨" Mul", rfl, hlatest _⟩
  have hregistered : ∀ v ∈ refs, IsRegistered shopCalls v := by
    simp only [refs, List.forall_mem_cons]
    exact ⟨hload.isRegistered (by decide), hadd.isRegistered (by decide),
      hmul.isRegistered (by decide), fun _ h => absurd h List.not_mem_nil⟩
  have hpayload : (Value.dict entries).entries? = some entries := rfl
  have hsteps : entries.get? "steps" = some (.tuple refs) := rfl
  have hargs : ∀ own, entries.get? "args" = some own → Given own := by
    rintro own ⟨⟩
    exact .inr rfl
  have hgiven : Given (.tuple [.int 25]) := .inr rfl
  obtain ⟨targets, htargets, hsame⟩ := runData_registered World.bare.host World.bare.catalogue
    shopCalls hpayload hsteps rfl (List.cons_ne_nil _ _) hregistered hargs hgiven
  obtain rfl : targets = [BuiltIn.loadValue, BuiltIn.addOne, BuiltIn.product] :=
    List.right_unique_forall₂' RefersTo.rightUnique htargets
      (.cons hload (.cons hadd (.cons hmul .nil)))
  exact (hsame .start).1

end Deck

end StepFlow
