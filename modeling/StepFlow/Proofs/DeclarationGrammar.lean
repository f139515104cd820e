import StepFlow.Native.Host
import StepFlow.Proofs.DeckGrammar
import StepFlow.Proofs.Outcome

namespace StepFlow

open StepFlow.Text

theorem Value.name?_eq_some_iff (v : Value) (name : Name) :
    v.name? = some name ↔ v = .ofName name := by
  cases name <;> cases v <;> simp [Value.name?, Value.ofName]

theorem Value.callable?_eq_some_iff (v : Value) (c : Callable) :
    v.callable? = some c ↔ v = .callable c := by
  cases v <;> simp [Value.callable?]

theorem Require.distinct_eq_ok_iff (names : List Name) (context : String) :
    Require.distinct names context = .ok () ↔ (names.map Name.word).Nodup := by
  have h := Require.firstRepeated?_eq_none_iff [] names
  rw [Require.distinct]
  cases hfirst : Require.firstRepeated? [] names with
  | none => simpa [hfirst] using h
  | some name => simpa [hfirst] using h

theorem isBindable_star (cs : List Char) : isBindable (String.ofList ('*' :: cs)) = false := by
  have hstart : isIdentifierStart '*' = false := by decide
  simp [isBindable, isIdentifier, hstart]

theorem star_append (rest : String) : "*" ++ rest = String.ofList ('*' :: rest.toList) := by
  apply String.toList_injective
  simp

theorem star_eq_append_iff (cs : List Char) (rest : String) :
    String.ofList ('*' :: cs) = "*" ++ rest ↔ String.ofList cs = rest := by
  rw [star_append, ← String.toList_inj, ← String.toList_inj]
  simp only [String.toList_ofList, List.cons_inj_right]

namespace Declaration

variable {kind : StepKind} {context : String} {index : Nat} {last : Bool} {v : Value}

-- The values of fixed parameters and of a variadic one, which has a star in front.
def parameters (fixed : List Name) (rest? : Option String) : List Value :=
  fixed.map .ofName ++ rest?.toList.map fun rest => .str ("*" ++ rest)

-- Parameters that can be declared for a kind of step.
structure Declares (kind : StepKind) (params : Value) (fixed : List Name)
    (rest? : Option String) : Prop where
  items : params.items? = some (parameters fixed rest?)
  bindable : ∀ name ∈ fixed, isBindable name.word = true
  variadic : ∀ rest ∈ rest?, kind = .input ∧ isBindable rest = true
  distinct : (fixed.map Name.word ++ rest?.toList).Nodup

-- The parts of a declaration, and the declaration that they make.
structure WellFormed (kind : StepKind) (name params body : Value)
    (d : Declaration Value Callable) : Prop where
  ofKind : d.kind = kind
  named : name = .ofName d.name
  nonempty : d.name.word ≠ ""
  declares : Declares kind params d.fixed d.rest?
  calls : body = .callable d.body
  accepts : ∀ sig, d.body.signature? = some sig → sig.Accepts d.fixed.length

-- A parameter with a star in front is variadic.
theorem slot_star (cs : List Char) :
    slot kind context index last (.str (String.ofList ('*' :: cs))) =
      if kind ≠ .input then .error (.variadicKind context (String.ofList ('*' :: cs)))
      else if !last then .error (.variadicLast context (String.ofList ('*' :: cs)))
      else (Require.identifier (.str (String.ofList cs)) s!"{context}[{index}]").map
        fun name => .rest name.word := by
  simp only [slot, String.toList_ofList]

-- Any other one is fixed.
theorem slot_of_ne_star (h : ∀ cs, v ≠ .str (String.ofList ('*' :: cs))) :
    slot kind context index last v =
      (Require.identifier v s!"{context}[{index}]").map .fixed := by
  cases v with
  | str s =>
      simp only [slot]
      split
      next cs hs => exact absurd (by rw [← hs, String.ofList_toList]) (h cs)
      next => rfl
  | _ => rfl

theorem slot_eq_fixed_iff (name : Name) :
    slot kind context index last v = .ok (.fixed name) ↔
      v = .ofName name ∧ isBindable name.word = true := by
  by_cases hstar : ∃ cs, v = .str (String.ofList ('*' :: cs))
  · obtain ⟨cs, rfl⟩ := hstar
    have hleft : slot kind context index last (.str (String.ofList ('*' :: cs))) ≠
        .ok (.fixed name) := by
      rw [slot_star]
      split_ifs <;> simp [map_eq_ok_iff]
    have hright : ¬ (.str (String.ofList ('*' :: cs)) = Value.ofName name ∧
        isBindable name.word = true) := by
      rintro ⟨hname, hbindable⟩
      cases name <;> cases hname
      exact Bool.false_ne_true ((isBindable_star cs).symm.trans hbindable)
    exact iff_of_false hleft hright
  · rw [slot_of_ne_star (not_exists.mp hstar), map_eq_ok_iff]
    simp only [Slot.fixed.injEq, exists_eq_right, Require.identifier_eq_ok_iff,
      Value.name?_eq_some_iff]

theorem slot_eq_rest_iff (rest : String) :
    slot kind context index last v = .ok (.rest rest) ↔
      v = .str ("*" ++ rest) ∧ kind = .input ∧ last = true ∧ isBindable rest = true := by
  by_cases hstar : ∃ cs, v = .str (String.ofList ('*' :: cs))
  · obtain ⟨cs, rfl⟩ := hstar
    rw [slot_star, Value.str.injEq, star_eq_append_iff]
    by_cases hkind : kind = .input
    · rw [if_neg (not_not.mpr hkind)]
      cases last with
      | false => simp
      | true =>
          simp only [Bool.not_true, Bool.false_eq_true, if_false, map_eq_ok_iff,
            Require.identifier_eq_ok_iff, Value.name?, Option.some.injEq, Slot.rest.injEq]
          constructor
          · rintro ⟨_, ⟨rfl, hbindable⟩, rfl⟩
            exact ⟨rfl, hkind, trivial, hbindable⟩
          · rintro ⟨rfl, -, -, hbindable⟩
            exact ⟨_, ⟨rfl, hbindable⟩, rfl⟩
    · rw [if_pos hkind]
      simp [hkind]
  · have hne : v ≠ .str ("*" ++ rest) := fun h => hstar ⟨rest.toList, star_append rest ▸ h⟩
    rw [slot_of_ne_star (not_exists.mp hstar), map_eq_ok_iff]
    simp [hne]

theorem slots_eq_ok_iff (items : List Value) (fixed : List Name) (rest? : Option String) :
    slots kind context index items = .ok (fixed, rest?) ↔
      items = parameters fixed rest? ∧ (∀ name ∈ fixed, isBindable name.word = true) ∧
        ∀ rest ∈ rest?, kind = .input ∧ isBindable rest = true := by
  induction items generalizing index fixed rest? with
  | nil =>
      rw [slots]
      constructor
      · rintro ⟨⟩
        exact ⟨rfl, List.forall_mem_nil _, fun _ h => (nomatch h)⟩
      · rintro ⟨hitems, -, -⟩
        cases fixed with
        | nil =>
            cases rest? with
            | none => rfl
            | some rest => cases hitems
        | cons name fixed => cases hitems
  | cons v items ih =>
      rw [slots, bind_eq_ok_iff]
      constructor
      · rintro ⟨s, hslot, hrest⟩
        cases s with
        | rest rest =>
            obtain ⟨rfl, hkind, hlast, hbindable⟩ := (slot_eq_rest_iff rest).mp hslot
            cases List.isEmpty_iff.mp hlast
            cases hrest
            refine ⟨rfl, List.forall_mem_nil _, ?_⟩
            rintro _ ⟨⟩
            exact ⟨hkind, hbindable⟩
        | fixed name =>
            obtain ⟨rfl, hbindable⟩ := (slot_eq_fixed_iff name).mp hslot
            obtain ⟨⟨names, rest?⟩, hslots, hmade⟩ := bind_eq_ok_iff.mp hrest
            cases hmade
            obtain ⟨rfl, hnames, hvariadic⟩ := (ih names rest?).mp hslots
            exact ⟨rfl, List.forall_mem_cons.mpr ⟨hbindable, hnames⟩, hvariadic⟩
      · rintro ⟨hitems, hnames, hvariadic⟩
        cases fixed with
        | nil =>
            cases rest? with
            | none => cases hitems
            | some rest =>
                cases hitems
                obtain ⟨hkind, hbindable⟩ := hvariadic rest rfl
                exact ⟨.rest rest, (slot_eq_rest_iff rest).mpr ⟨rfl, hkind, rfl, hbindable⟩, rfl⟩
        | cons name fixed =>
            cases hitems
            obtain ⟨hbindable, hnames⟩ := List.forall_mem_cons.mp hnames
            refine ⟨.fixed name, (slot_eq_fixed_iff name).mpr ⟨rfl, hbindable⟩, ?_⟩
            have hslots : slots kind context (index + 1) (parameters fixed rest?) =
                .ok (fixed, rest?) := (ih fixed rest?).mpr ⟨rfl, hnames, hvariadic⟩
            exact bind_eq_ok_iff.mpr ⟨_, hslots, rfl⟩

-- Parameters are parsed exactly if they can be declared.
theorem parseParams_eq_ok_iff (name : String) (params : Value) (fixed : List Name)
    (rest? : Option String) :
    parseParams kind name params = .ok (fixed, rest?) ↔ Declares kind params fixed rest? := by
  have hwords : (fixed ++ rest?.toList.map Name.text).map Name.word =
      fixed.map Name.word ++ rest?.toList := by
    rw [List.map_append, List.map_map]
    exact congrArg _ (List.map_id _)
  rw [parseParams]
  simp only [bind_eq_ok_iff, Require.list_eq_ok_iff, Prod.exists, slots_eq_ok_iff]
  constructor
  · rintro ⟨items, ⟨hitems, -⟩, names, more?, ⟨rfl, hnames, hvariadic⟩, ⟨⟩, hdistinct, ⟨⟩⟩
    rw [Require.distinct_eq_ok_iff, hwords] at hdistinct
    exact ⟨hitems, hnames, hvariadic, hdistinct⟩
  · rintro ⟨hitems, hnames, hvariadic, hdistinct⟩
    refine ⟨_, ⟨hitems, .inl trivial⟩, fixed, rest?, ⟨rfl, hnames, hvariadic⟩, (), ?_, rfl⟩
    rwa [Require.distinct_eq_ok_iff, hwords]

-- The name of a step is a text with something in it.
theorem checkName_eq_ok_iff (name : Name) :
    checkName v = .ok name ↔ v = .ofName name ∧ name.word ≠ "" := by
  rw [← Value.name?_eq_some_iff, checkName]
  cases v.name? with
  | none => cases Fault.met v.quotedForm <;> simp [bind, Except.bind]
  | some found =>
      by_cases hempty : found.word.isEmpty
      · simp only [hempty, if_true, reduceCtorEq, Option.some.injEq, false_iff, not_and, not_not]
        rintro rfl
        exact String.isEmpty_iff.mp hempty
      · simp only [hempty, Bool.false_eq_true, if_false, Except.ok.injEq, Option.some.injEq,
          iff_self_and]
        rintro rfl
        exact fun h => hempty (String.isEmpty_iff.mpr h)

-- The body of a step is a callable that takes its fixed parameters.
theorem checkBody_eq_ok_iff (name : Name) (count : Nat) (c : Callable) :
    checkBody name v count = .ok c ↔
      v = .callable c ∧ ∀ sig, c.signature? = some sig → sig.Accepts count := by
  rw [← Value.callable?_eq_some_iff, checkBody]
  cases v.callable? with
  | none => cases Fault.met v.quotedForm <;> simp [bind, Except.bind]
  | some found =>
      rw [Option.some_inj]
      cases hsig : found.signature? with
      | none =>
          simp only [hsig, Except.ok.injEq, iff_self_and]
          rintro rfl sig hsome
          cases hsig.symm.trans hsome
      | some sig =>
          have haccepts := sig.check_eq_ok_iff count
          cases hcheck : sig.check count with
          | ok _ =>
              simp only [hsig, hcheck, Except.ok.injEq, iff_self_and]
              rintro rfl other hsome
              cases hsig.symm.trans hsome
              exact haccepts.mp hcheck
          | error cause =>
              simp only [hsig, hcheck, reduceCtorEq, false_iff, not_and]
              rintro rfl hall
              exact nomatch hcheck.symm.trans (haccepts.mpr (hall sig hsig))

-- Declaring succeeds exactly for what has the form of a declaration.
theorem declare_eq_ok_iff (name params body doc : Value) (d : Declaration Value Callable) :
    declare kind name params body doc = .ok d ↔
      WellFormed kind name params body d ∧
        d.doc = match doc with
          | .none => d.body.doc
          | doc => doc := by
  simp only [declare, bind_eq_ok_iff, checkName_eq_ok_iff, mapError_eq_ok_iff, Prod.exists,
    parseParams_eq_ok_iff, checkBody_eq_ok_iff]
  constructor
  · rintro ⟨n, ⟨hname, hne⟩, fixed, rest?, hparams, c, ⟨hbody, haccepts⟩, hmade⟩
    cases hmade
    exact ⟨⟨rfl, hname, hne, hparams, hbody, haccepts⟩, rfl⟩
  · obtain ⟨_, n, fixed, rest?, c, _⟩ := d
    rintro ⟨⟨rfl, hname, hne, hparams, hbody, haccepts⟩, hdoc⟩
    dsimp only at hdoc
    subst hdoc
    exact ⟨n, ⟨hname, hne⟩, fixed, rest?, hparams, c, ⟨hbody, haccepts⟩, rfl⟩

-- What can be the name of a step.
def IsName (v : Value) : Prop :=
  ∃ name : Name, v = .ofName name ∧ name.word ≠ ""

-- What is wrong with a declaration is a value that the complaint shows and that holds a number too
-- long to be shown: its name, or else its body.
def Unshowable (kind : StepKind) (name params body : Value) : Prop :=
  (¬ IsName name ∧ name.hasLongNumber = true) ∨
    (IsName name ∧ (∃ fixed rest?, Declares kind params fixed rest?) ∧ body.hasLongNumber = true)

-- What a declaration is refused with: an error of its own class that holds the name of the step, if
-- it has one, unless there is something that cannot be shown.
def Refusal (kind : StepKind) (name params body : Value) (fault : Fault) : Prop :=
  (Unshowable kind name params body ∧ fault = .unmet .longNumber) ∨
    (¬ Unshowable kind name params body ∧ fault.category = .declaration ∧
      (IsName name → fault.stepName = name) ∧ (¬ IsName name → fault.stepName = .none))

theorem met_quotedForm (v : Value) :
    Fault.met v.quotedForm =
      if v.hasLongNumber then .error (.unmet .longNumber) else .ok v.shown := by
  rw [Value.quotedForm]
  split_ifs <;> rfl

theorem hasLongNumber_ofName (name : Name) : (Value.ofName name).hasLongNumber = false := by
  cases name <;> rfl

theorem checkName_of_hasLongNumber (hname : v.name? = none) (hlong : v.hasLongNumber = true) :
    checkName v = .error (.unmet .longNumber) := by
  rw [checkName, hname, met_quotedForm, hlong]
  rfl

theorem eq_declaration_of_checkName {fault : Fault} (h : checkName v = .error fault)
    (hshort : v.hasLongNumber = false) : ∃ cause, fault = .declaration cause .none := by
  rw [checkName] at h
  split at h
  · split at h <;> cases h
    exact ⟨_, rfl⟩
  · rw [met_quotedForm, hshort] at h
    cases h
    exact ⟨_, rfl⟩

theorem refusal_of_checkName {name : Value} {fault : Fault} (h : checkName name = .error fault)
    (params body : Value) : Refusal kind name params body fault := by
  have hname : ¬ IsName name := by
    rintro ⟨n, hn⟩
    exact nomatch h.symm.trans ((checkName_eq_ok_iff n).mpr hn)
  cases hlong : name.hasLongNumber with
  | true =>
      -- A text holds no number, so the complaint is about a value that is no text.
      have hnone : name.name? = none := Option.eq_none_iff_forall_ne_some.mpr fun n hn => by
        rw [(Value.name?_eq_some_iff name n).mp hn, hasLongNumber_ofName] at hlong
        cases hlong
      cases h.symm.trans (checkName_of_hasLongNumber hnone hlong)
      exact .inl ⟨.inl ⟨hname, hlong⟩, rfl⟩
  | false =>
      obtain ⟨cause, rfl⟩ := eq_declaration_of_checkName h hlong
      exact .inr ⟨by simp [Unshowable, hname, hlong], rfl, fun h => absurd h hname, fun _ => rfl⟩

-- An error that holds the name of the step is what a named declaration is refused with, if its
-- body can be shown or is not reached.
theorem refusal_of_named {n : Name} {params body : Value} {cause : DeclarationFault}
    (hne : n.word ≠ "")
    (hshown : (∃ fixed rest?, Declares kind params fixed rest?) → body.hasLongNumber = false) :
    Refusal kind (.ofName n) params body (.declaration cause (.ofName n)) := by
  have hname : IsName (.ofName n) := ⟨n, rfl, hne⟩
  refine .inr ⟨?_, rfl, fun _ => rfl, fun h => absurd hname h⟩
  rintro (⟨hnot, -⟩ | ⟨-, hparams, hlong⟩)
  · exact hnot hname
  · exact Bool.false_ne_true ((hshown hparams).symm.trans hlong)

theorem refusal_of_checkBody {n : Name} {params body : Value} {fixed : List Name}
    {rest? : Option String} {fault : Fault} (hne : n.word ≠ "")
    (hparams : Declares kind params fixed rest?)
    (h : checkBody n body fixed.length = .error fault) :
    Refusal kind (.ofName n) params body fault := by
  rw [checkBody] at h
  split at h
  next =>
    rw [met_quotedForm] at h
    cases hlong : body.hasLongNumber with
    | true =>
        rw [hlong] at h
        cases h
        exact .inl ⟨.inr ⟨⟨n, rfl, hne⟩, ⟨fixed, rest?, hparams⟩, hlong⟩, rfl⟩
    | false =>
        rw [hlong] at h
        cases h
        exact refusal_of_named hne fun _ => hlong
  next c hc =>
    have hshort : body.hasLongNumber = false := by
      rw [(Value.callable?_eq_some_iff body c).mp hc]
      rfl
    split at h
    · cases h
    · split at h
      · cases h
      · cases h
        exact refusal_of_named hne fun _ => hshort

theorem refusal_of_declare {name params body doc : Value} {fault : Fault}
    (h : declare kind name params body doc = .error fault) :
    Refusal kind name params body fault := by
  simp only [declare, bind_eq_error_iff, mapError_eq_error_iff, mapError_eq_ok_iff, Prod.exists]
    at h
  rcases h with hname | ⟨n, hname, ⟨cause, hparams, rfl⟩ | ⟨fixed, rest?, hparams, hbody⟩⟩
  · exact refusal_of_checkName hname params body
  · obtain ⟨rfl, hne⟩ := (checkName_eq_ok_iff n).mp hname
    refine refusal_of_named hne ?_
    rintro ⟨fixed, rest?, hdeclares⟩
    exact nomatch hparams.symm.trans ((parseParams_eq_ok_iff ..).mpr hdeclares)
  · obtain ⟨rfl, hne⟩ := (checkName_eq_ok_iff n).mp hname
    have hdeclares := (parseParams_eq_ok_iff ..).mp hparams
    rcases hbody with hbody | ⟨c, -, hmade⟩
    · exact refusal_of_checkBody hne hdeclares hbody
    · cases hmade

theorem map_ofName_params (d : Declaration Value Callable) :
    d.params.map .ofName = parameters d.fixed d.rest? := by
  rw [Declaration.params, parameters, List.map_append, List.map_map]
  rfl

-- The parameters of a declaration can be declared again.
theorem WellFormed.again {kind : StepKind} {name params body : Value}
    {d : Declaration Value Callable} (h : WellFormed kind name params body d) :
    WellFormed kind name (.tuple (d.params.map .ofName)) body d := by
  obtain ⟨hkind, hname, hne, ⟨-, hbindable, hvariadic, hdistinct⟩, hbody, haccepts⟩ := h
  refine ⟨hkind, hname, hne, ⟨?_, hbindable, hvariadic, hdistinct⟩, hbody, haccepts⟩
  rw [map_ofName_params]
  rfl

end Declaration

namespace Native

open Declaration

theorem outcome_declared (outcome : Except Fault (Declaration Value Callable)) (store : Store) :
    (declared outcome store).outcome =
      outcome.map fun d => .callable (.step store.next d) := by
  cases outcome <;> rfl

theorem call_define (world : World) (host : Host) (kind : StepKind) (name params body : Value) :
    Native.call world host (.define kind) [name, params, body] =
      declared (declare kind name params body .none) := rfl

-- A step is declared exactly if its declaration is well-formed. It shows the parameters as they
-- were declared, and can be declared again with them. Any other declaration is refused.
theorem define_iff_wellFormed (world : World) (host : Host) (kind : StepKind)
    (name params body : Value) (store : Store) :
    let reached := Native.call world host (.define kind) [name, params, body] store
    ((∃ step, reached.outcome = .ok step) ↔ ∃ d, WellFormed kind name params body d) ∧
    (∀ step, reached.outcome = .ok step → ∃ d items,
      step = .callable (.step store.next d) ∧ WellFormed kind name params body d ∧
      params.items? = some items ∧ step.attribute? "step_params" = some (.tuple items) ∧
      ∀ later, ∃ again, (Native.call world host (.define kind)
        [name, .tuple items, body] later).outcome = .ok again) ∧
    ∀ fault, reached.outcome = .error fault → Refusal kind name params body fault := by
  have hcall : ∀ params store,
      (Native.call world host (.define kind) [name, params, body] store).outcome =
        (declare kind name params body .none).map fun d => .callable (.step store.next d) := by
    intro params store
    rw [call_define, outcome_declared]
  have hdeclare : ∀ {params d}, WellFormed kind name params body d →
      ∃ made, declare kind name params body .none = .ok made := fun {params d} h =>
    ⟨{ d with doc := d.body.doc }, (declare_eq_ok_iff ..).mpr
      ⟨⟨h.ofKind, h.named, h.nonempty, h.declares, h.calls, h.accepts⟩, rfl⟩⟩
  intro reached
  refine ⟨⟨?_, ?_⟩, ?_, ?_⟩
  · rintro ⟨step, hstep⟩
    obtain ⟨d, hd, -⟩ := map_eq_ok_iff.mp ((hcall params store).symm.trans hstep)
    exact ⟨d, ((declare_eq_ok_iff ..).mp hd).1⟩
  · rintro ⟨d, hd⟩
    obtain ⟨made, hmade⟩ := hdeclare hd
    exact ⟨_, (hcall params store).trans (map_eq_ok_iff.mpr ⟨made, hmade, rfl⟩)⟩
  · intro step hstep
    obtain ⟨d, hd, rfl⟩ := map_eq_ok_iff.mp ((hcall params store).symm.trans hstep)
    have hformed := ((declare_eq_ok_iff ..).mp hd).1
    refine ⟨d, d.params.map .ofName, rfl, hformed, ?_, rfl, ?_⟩
    · rw [map_ofName_params]
      exact hformed.declares.items
    · intro later
      obtain ⟨made, hmade⟩ := hdeclare hformed.again
      exact ⟨_, (hcall _ later).trans (map_eq_ok_iff.mpr ⟨made, hmade, rfl⟩)⟩
  · intro fault hfault
    rw [hcall params store] at hfault
    cases hd : declare kind name params body .none with
    | ok d => rw [hd] at hfault; cases hfault
    | error cause =>
        rw [hd] at hfault
        cases hfault
        exact refusal_of_declare hd

-- A number in the place of a name that is too long to be shown is refused with another error.
theorem define_unshowable :
    let name : Value := .int longNumber
    ∃ fault, (Native.call World.bare World.bare.host (.define .input)
        [name, .list [], .callable BuiltIn.nop] .start).outcome = .error fault ∧
      fault.category = .value ∧ fault.category ≠ .declaration := by
  have hname : Declaration.checkName (.int longNumber) = .error (.unmet .longNumber) :=
    checkName_of_hasLongNumber rfl Value.hasLongNumber_longNumber
  refine ⟨.unmet .longNumber, ?_, rfl, fun h => nomatch h⟩
  rw [call_define, outcome_declared, declare, hname]
  rfl

end Native

end StepFlow
