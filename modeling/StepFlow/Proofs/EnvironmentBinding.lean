import StepFlow.Proofs.Admission
import StepFlow.Proofs.BodyCalls

namespace StepFlow

-- The values for names: that of the environment, else the default at the place, else nothing.
def Signature.valuesFor (sig : Signature) (env : Entries) (names : List Name) : List Value :=
  names.mapIdx fun place name => ((env.get? name.word).or (sig.defaultAt? place)).getD .none

-- The value for a parameter: that of the environment under its name, else its default, else
-- nothing.
def Param.valueIn (env : Entries) (p : Param Value) : Value :=
  ((env.get? p.name.word).or p.default?).getD .none

namespace Signature

variable {sig : Signature} {env : Entries}

theorem length_valuesFor (sig : Signature) (env : Entries) (names : List Name) :
    (sig.valuesFor env names).length = names.length :=
  List.length_mapIdx

-- Parameters that are all taken by position get the values for their own names.
theorem valuesFor_names (h : ∀ p ∈ sig, p.mode.isPositional = true) :
    sig.valuesFor env (sig.map (·.name)) = sig.map (Param.valueIn env) := by
  apply List.ext_getElem?
  intro place
  rw [valuesFor, List.getElem?_mapIdx, List.getElem?_map, List.getElem?_map, defaultAt?,
    positional_eq_self h]
  cases sig[place]? <;> rfl

-- Arguments for parameters that are all taken by position make up the scope in order.
theorem scope_map (h : ∀ p ∈ sig, p.mode.isPositional = true) (value : Param Value → Value) :
    sig.scope (sig.map value) = sig.map fun p => (p.name.word, value p) := by
  have hothers : sig.filter (fun p => !p.mode.isPositional) = [] :=
    List.filter_eq_nil_iff.mpr fun p hp => by simp [h p hp]
  rw [scope, positional_eq_self h, hothers, List.map_nil, List.append_nil]
  apply List.ext_getElem?
  intro place
  rw [List.getElem?_map, List.getElem?_map, List.getElem?_zipIdx]
  cases hp : sig[place]? <;> simp [hp]

end Signature

namespace DeclaredStep

variable {step : DeclaredStep} {sig : Signature}

theorem operands_eq_valuesFor (hsig : step.body.signature? = some sig) (env : Entries) :
    step.operands env = sig.valuesFor env step.names := by
  apply List.ext_getElem?
  intro place
  rw [getElem?_operands, Signature.valuesFor, List.getElem?_mapIdx]
  cases hname : step.names[place]? with
  | none => rfl
  | some name =>
      obtain ⟨hplace, -⟩ := List.getElem?_eq_some_iff.mp hname
      rw [Option.map_some, Option.map_some, defaults,
        Declaration.join_getElem?_bodyDefaults hsig hplace]

end DeclaredStep

namespace Declaration

variable {kind : StepKind} {d : Declaration Value Callable} {sig : Signature} {env : Entries}

-- A step that reads the environment calls its body with the values for its names.
theorem call_step_environment (hkind : d.kind ≠ .input) (hsig : d.body.signature? = some sig)
    (host : Host) (serial : Nat) {v : Value} (hv : v.entries? = some env) :
    (Callable.step serial d).call host [v] =
      d.body.call host (sig.valuesFor env d.fixed) >>= fun returned =>
        Run.lift (DeclaredStep.judge ⟨serial, d⟩ [v] returned) := by
  let step : DeclaredStep := ⟨serial, d⟩
  have hoperands : step.operands env = sig.valuesFor env d.fixed :=
    @DeclaredStep.operands_eq_valuesFor step sig hsig env
  have hargs : step.bodyArgs? [v] = some (sig.valuesFor env d.fixed) := by
    rw [@DeclaredStep.bodyArgs?_singleton step hkind, hv, Option.map_some, hoperands]
  exact DeclaredStep.call_of_bodyArgs?_eq_some hargs

-- A function that declares a step which reads the environment has only parameters that are taken by
-- position, and these are the names of the step.
theorem positional_of_ofFunction (hkind : kind ≠ .input) {c : Callable}
    (hd : ofFunction kind (.callable c) = .ok d) (hsig : c.signature? = some sig) :
    (∀ p ∈ sig, p.mode.isPositional = true) ∧ sig.map (·.name) = d.fixed := by
  have hrest : d.rest? = none := Declared.rest?_eq_none hkind (.function hd)
  have hstar : ∀ p ∈ sig, ∀ rest ∈ d.rest?, p.name ≠ .text ("*" ++ rest) := by
    intro p _ rest hmem
    rw [hrest] at hmem
    cases hmem
  obtain ⟨hparams, hnames, hvariadic, -⟩ := fixed_of_ofFunction hd hsig hstar
  have hpositional : ∀ p ∈ sig, p.mode.isPositional = true := by
    intro p hp
    refine (hparams p hp).resolve_right fun hmode => ?_
    rw [hrest, Signature.isVariadic, Option.isSome_none, List.any_eq_false] at hvariadic
    exact hvariadic p hp (by simp [hmode])
  rw [Signature.positional_eq_self hpositional] at hnames
  exact ⟨hpositional, hnames⟩

-- The code of such a function is evaluated with each parameter bound by name.
theorem scope_of_ofFunction (hkind : kind ≠ .input) {c : Callable}
    (hd : ofFunction kind (.callable c) = .ok d) (hsig : c.signature? = some sig)
    {code : Routine Value Expr} (hcode : c.code? = some code) :
    Signature.scope code.params (sig.valuesFor env d.fixed) =
      sig.map fun p => (p.name.word, p.valueIn env) := by
  obtain ⟨hpositional, hnames⟩ := positional_of_ofFunction hkind hd hsig
  have hseen := signature?_of_code? hcode hsig
  subst hseen
  have hown : ∀ p ∈ code.params, p.mode.isPositional = true := by
    rw [Signature.seen, List.forall_mem_map] at hpositional
    exact hpositional
  rw [← hnames, Signature.valuesFor_names hpositional, Signature.seen, List.map_map,
    Signature.scope_map hown, List.map_map]
  rfl

-- A step that reads the environment calls its body once, with a value for each of its names. Their
-- number fits the body, which does not refuse it unless it leaves its arguments to another
-- callable. If the step is declared by a function then each parameter gets the value for its own
-- name.
theorem call_binds_environment (hkind : kind ≠ .input) (hd : Declared kind d)
    (hsig : d.body.signature? = some sig) (host : Host) (serial : Nat) {v : Value}
    (hv : v.entries? = some env) :
    ∃ operands,
      operands = d.fixed.mapIdx (fun place name =>
        ((env.get? name.word).or (sig.defaultAt? place)).getD .none) ∧
      ((Callable.step serial d).call host [v] =
        d.body.call host operands >>= fun returned =>
          Run.lift (DeclaredStep.judge ⟨serial, d⟩ [v] returned)) ∧
      sig.Accepts operands.length ∧
      (d.body.bindsShown = true → d.body.Admits operands.length) ∧
      (∀ code, d.body.code? = some code →
        d.body.call host operands = code.body.eval host (Signature.scope code.params operands)) ∧
      (∀ operation, d.body = .native operation → operation.binds = true → ∀ world deeper,
        operation.call world deeper operands =
          operation.perform world deeper (Signature.scope sig operands)) ∧
      ∀ c, ofFunction kind (.callable c) = .ok d →
        c = d.body ∧ operands = sig.map (Param.valueIn env) ∧
        ∀ code, d.body.code? = some code →
          d.body.call host operands =
            code.body.eval host (sig.map fun p => (p.name.word, p.valueIn env)) := by
  have haccepts : sig.Accepts (sig.valuesFor env d.fixed).length := by
    rw [Signature.length_valuesFor]
    exact hd.accepts hsig
  have hreads : d.kind ≠ .input := hd.kind_eq ▸ hkind
  refine ⟨sig.valuesFor env d.fixed, rfl, call_step_environment hreads hsig host serial hv,
    haccepts, fun hshown => Callable.admits_of_accepts hshown hsig haccepts,
    fun code hcode => Callable.call_of_accepts hcode hsig host haccepts,
    fun operation hoperation hbinds world deeper => ?_, fun c hfunction => ?_⟩
  · rw [hoperation] at hsig
    exact Native.call_of_accepts world deeper hbinds hsig haccepts
  · have hbody : d.body = c := body_of_ofFunction hfunction
    subst hbody
    obtain ⟨hpositional, hnames⟩ := positional_of_ofFunction hkind hfunction hsig
    have hoperands : sig.valuesFor env d.fixed = sig.map (Param.valueIn env) := by
      rw [← hnames, Signature.valuesFor_names hpositional]
    refine ⟨rfl, hoperands, fun code hcode => ?_⟩
    rw [Callable.call_of_accepts hcode hsig host haccepts,
      scope_of_ofFunction hkind hfunction hsig hcode]

-- An output step of three parameters. The environment has nothing for the first, which has no
-- default, none as the value of the second, and nothing for the third.
def triple : Callable :=
  .function 100 ⟨"triple",
    [BuiltIn.param "x", ⟨"y", .positionalOrKeyword, some (.int 10)⟩,
      ⟨"z", .positionalOrKeyword, some (.int 20)⟩],
    .list [.var "x", .var "y", .var "z"], none⟩

theorem call_binds_environment_triple :
    ∃ d, Declared .output d ∧ d.body = triple ∧
      (Value.dict [(.str "y", .none)]).entries? = some [(.str "y", .none)] ∧
      d.body.Admits 3 ∧
      ((Callable.step 101 d).call World.bare.host [.dict [(.str "y", .none)]] .start).outcome =
        .ok (.list [.none, .none, .int 20]) := by
  let d : Declaration Value Callable := ⟨.output, "triple", ["x", "y", "z"], none, triple, .none⟩
  have hd : ofFunction .output (.callable triple) = .ok d := by
    refine @ofFunction_of_positional _ _ _ triple rfl ?_ rfl ?_ ?_ ?_ <;> decide
  have hkind : StepKind.output ≠ .input := by decide
  obtain ⟨operands, hoperands, hcall, -, hadmits, -⟩ :=
    @call_binds_environment _ d _ [(.str "y", .none)] hkind (.function hd) rfl World.bare.host 101
      (.dict [(.str "y", .none)]) rfl
  subst hoperands
  refine ⟨d, .function hd, rfl, rfl, hadmits rfl, ?_⟩
  rw [hcall]
  rfl

-- A function that has the mark of a missing default as its only default.
def markedParam : Callable :=
  .function 100
    ⟨"f", [⟨"x", .positionalOrKeyword, some Native.missing⟩], .typeName (.var "x"), none⟩

-- A default that stands for none is not passed on, though a call without arguments fills it in.
-- And a body that leaves its arguments to another callable can be called with more than that one
-- takes.
theorem call_binds_environment_unfit :
    (∃ d, ofFunction .output (.callable markedParam) = .ok d ∧
      (markedParam.call World.bare.host [] .start).outcome = .ok (.str "type") ∧
      ((Callable.step 101 d).call World.bare.host [.dict []] .start).outcome =
        .ok (.str "NoneType")) ∧
    ∃ d sig,
      declare .output (.str "s") (.list [.str "a", .str "b"])
        (.callable (.composed 101 "take_one" takeOne [])) .none = .ok d ∧
      d.body.signature? = some sig ∧ sig.Accepts 2 ∧
      ((Callable.step 102 d).call World.bare.host [.dict []] .start).outcome =
        .error (.arity (.tooMany "f" (.exactly 1) 2)) := by
  constructor
  · let d : Declaration Value Callable := ⟨.output, "f", ["x"], none, markedParam, .none⟩
    have hd : ofFunction .output (.callable markedParam) = .ok d := by
      refine @ofFunction_of_positional _ _ _ markedParam rfl ?_ rfl ?_ ?_ ?_ <;> decide
    exact ⟨d, hd, rfl, rfl⟩
  · let body : Callable := .composed 101 "take_one" takeOne []
    let d : Declaration Value Callable := ⟨.output, "s", ["a", "b"], none, body, .none⟩
    have haccepts : ∀ sig, d.body.signature? = some sig → sig.Accepts 2 := by
      rintro _ ⟨⟩
      decide
    have hd : declare .output (.str "s") (.list [.str "a", .str "b"]) (.callable body) .none =
        .ok d :=
      (declare_eq_ok_iff ..).mpr ⟨⟨rfl, rfl, by decide,
        ⟨rfl, by decide, (fun _ h => nomatch h), by decide⟩, rfl, haccepts⟩, rfl⟩
    exact ⟨d, _, hd, rfl, haccepts _ rfl, rfl⟩

end Declaration

end StepFlow
