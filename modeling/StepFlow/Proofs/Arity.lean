import StepFlow.Proofs.DeclarationGrammar
import StepFlow.Proofs.HandOver

namespace StepFlow

namespace Signature

variable {sig : Signature} {count place : Nat}

-- No positional parameter with a default stands before one without.
def Trails (sig : Signature) : Prop :=
  sig.positional.Pairwise fun p q => p.default?.isSome = true → q.default?.isSome = true

instance (sig : Signature) : Decidable sig.Trails :=
  inferInstanceAs (Decidable (List.Pairwise _ _))

instance (sig : Signature) (count : Nat) : Decidable (sig.Accepts count) :=
  inferInstanceAs (Decidable (_ ∧ (∀ p ∈ _, _) ∧ ∀ p ∈ _, _))

-- The default of the parameter that is filled by the positional argument at a place.
def defaultAt? (sig : Signature) (place : Nat) : Option Value :=
  sig.positional[place]?.bind (·.default?)

theorem positional_eq_self (h : ∀ p ∈ sig, p.mode.isPositional = true) : sig.positional = sig :=
  List.filter_eq_self.mpr h

theorem trails_iff :
    sig.Trails ↔ ∀ i j, i < j → j < sig.positional.length →
      (sig.defaultAt? i).isSome = true → (sig.defaultAt? j).isSome = true := by
  rw [Trails, List.pairwise_iff_getElem]
  constructor
  · intro h i j hij hj
    have hi : i < sig.positional.length := hij.trans hj
    simpa [defaultAt?, hi, hj] using h i j hi hj hij
  · intro h i j hi hj hij
    simpa [defaultAt?, hi, hj] using h i j hij hj

-- A number of positional arguments fits if there is room for it and every other parameter has a
-- default.
theorem accepts_iff :
    sig.Accepts count ↔
      (sig.isVariadic = true ∨ count ≤ sig.positional.length) ∧
        (∀ i, count ≤ i → i < sig.positional.length → (sig.defaultAt? i).isSome = true) ∧
        ∀ p ∈ sig.keywordOnly, p.default?.isSome = true := by
  have hdrop : (∀ p ∈ sig.positional.drop count, p.default?.isSome = true) ↔
      ∀ i, count ≤ i → i < sig.positional.length → (sig.defaultAt? i).isSome = true := by
    simp only [List.mem_drop_iff_getElem]
    constructor
    · intro h i hcount hi
      obtain ⟨k, rfl⟩ := Nat.exists_eq_add_of_le hcount
      simpa [defaultAt?, hi] using h _ ⟨k, by omega, rfl⟩
    · rintro h _ ⟨k, hk, rfl⟩
      have hi : count + k < sig.positional.length := by omega
      simpa [defaultAt?, hi] using h (count + k) (Nat.le_add_right ..) hi
  rw [Accepts, hdrop]

-- Parameters that are all taken by position take just as many arguments as there are of them.
theorem accepts_length (h : ∀ p ∈ sig, p.mode.isPositional = true) : sig.Accepts sig.length := by
  have hpositional : sig.positional = sig := positional_eq_self h
  refine accepts_iff.mpr ⟨.inr ?_, fun i hlength hi => ?_, fun p hp => ?_⟩
  · rw [hpositional]
  · rw [hpositional] at hi
    omega
  · obtain ⟨hmem, hmode⟩ := List.mem_filter.mp hp
    have hp := h p hmem
    rw [eq_of_beq hmode] at hp
    cases hp

theorem namesWithoutDefault_eq_nil_iff (params : Signature) :
    namesWithoutDefault params = [] ↔ ∀ p ∈ params, p.default?.isSome = true := by
  simp only [namesWithoutDefault, List.map_eq_nil_iff, List.filter_eq_nil_iff,
    Option.isNone_iff_eq_none, ← ne_eq, Option.isSome_iff_ne_none]

-- A call binds its arguments exactly if their number fits.
theorem bind_eq_ok_iff (function : String) (sig : Signature) (args : List Value) (scope : Scope) :
    sig.bind function args = .ok scope ↔ sig.Accepts args.length ∧ sig.scope args = scope := by
  have hdefaults := namesWithoutDefault_eq_nil_iff (sig.positional.drop args.length)
  have hkeywords := namesWithoutDefault_eq_nil_iff sig.keywordOnly
  rw [bind, Accepts, ← hdefaults, ← hkeywords]
  by_cases hroom : sig.isVariadic = true ∨ args.length ≤ sig.positional.length
  · have hnot : (!sig.isVariadic && decide (sig.positional.length < args.length)) = false := by
      cases hroom with
      | inl h => simp [h]
      | inr h => simp [Nat.not_lt.mpr h]
    rw [hnot]
    cases namesWithoutDefault (sig.positional.drop args.length) with
    | nil =>
        cases namesWithoutDefault sig.keywordOnly with
        | nil => simp [hroom]
        | cons name names => simp
    | cons name names => simp
  · have hfull : (!sig.isVariadic && decide (sig.positional.length < args.length)) = true := by
      simp only [not_or, Nat.not_le, Bool.not_eq_true] at hroom
      simp [hroom.1, hroom.2]
    rw [hfull]
    simp [hroom]

-- Reading parameters off a callable changes no mode.
theorem filter_mode_seen (sig : Signature) (test : ParamMode → Bool) :
    (seen sig).filter (fun p => test p.mode) = seen (sig.filter fun p => test p.mode) := by
  simp only [seen, List.filter_map]
  rfl

theorem positional_seen (sig : Signature) : (seen sig).positional = seen sig.positional :=
  filter_mode_seen sig ParamMode.isPositional

theorem keywordOnly_seen (sig : Signature) : (seen sig).keywordOnly = seen sig.keywordOnly :=
  filter_mode_seen sig (· == .keywordOnly)

theorem isVariadic_seen (sig : Signature) : (seen sig).isVariadic = sig.isVariadic := by
  simp only [isVariadic, seen, List.any_map]
  rfl

theorem defaultAt?_seen (sig : Signature) (place : Nat) :
    (seen sig).defaultAt? place = (sig.defaultAt? place).filter fun v => !v.isMissing := by
  rw [defaultAt?, defaultAt?, positional_seen, seen, List.getElem?_map]
  cases sig.positional[place]? <;> rfl

theorem isSome_of_isSome_filter {α : Type} {o : Option α} {test : α → Bool}
    (h : (o.filter test).isSome = true) : o.isSome = true := by
  cases o with
  | none => cases h
  | some a => rfl

-- What fits the parameters as they are seen fits them as they are, since a call fills in even those
-- defaults that stand for none.
theorem Accepts.of_seen (h : (seen sig).Accepts count) : sig.Accepts count := by
  rw [accepts_iff, isVariadic_seen, positional_seen, keywordOnly_seen] at h
  obtain ⟨hroom, hdefaults, hkeywords⟩ := h
  rw [seen, List.length_map] at hroom hdefaults
  refine accepts_iff.mpr ⟨hroom, fun i hcount hi => ?_, fun p hp => ?_⟩
  · have hseen := hdefaults i hcount hi
    rw [defaultAt?_seen] at hseen
    exact isSome_of_isSome_filter hseen
  · have hseen := hkeywords _ (List.mem_map_of_mem hp)
    exact isSome_of_isSome_filter hseen

end Signature

namespace Declaration

variable {d : Declaration Value Callable} {sig : Signature} {count place : Nat}

theorem takes_eq_true_iff (d : Declaration Value Callable) (count : Nat) :
    d.takes count = true ↔
      d.minimum ≤ count ∧ (d.rest?.isSome = true ∨ count ≤ d.fixed.length) := by
  simp [takes]

theorem getElem?_bodyDefaults {body : Callable} (hsig : body.signature? = some sig)
    (count place : Nat) :
    (bodyDefaults body count)[place]? =
      if place < count then sig.positional[place]?.map (·.default?) else none := by
  simp only [bodyDefaults, hsig, List.getElem?_map, List.getElem?_take]
  split <;> rfl

theorem join_getElem?_bodyDefaults {body : Callable} (hsig : body.signature? = some sig)
    (h : place < count) : (bodyDefaults body count)[place]?.join = sig.defaultAt? place := by
  rw [getElem?_bodyDefaults hsig, if_pos h, Signature.defaultAt?]
  cases sig.positional[place]? <;> rfl

theorem length_bodyDefaults_le (body : Callable) (count : Nat) :
    (bodyDefaults body count).length ≤ count := by
  rw [bodyDefaults]
  cases body.signature? with
  | none => exact Nat.zero_le _
  | some sig => exact (List.length_map _).trans_le (List.length_take_le ..)

theorem minimum_le (d : Declaration Value Callable) : d.minimum ≤ d.fixed.length := by
  rw [minimum]
  cases h : (bodyDefaults d.body d.fixed.length).findIdx? Option.isSome with
  | none => exact Nat.le_refl _
  | some i =>
      obtain ⟨hi, -⟩ := List.findIdx?_eq_some_iff_getElem.mp h
      exact Nat.le_of_lt (hi.trans_le (length_bodyDefaults_le ..))

-- The body has a default at the fewest arguments that a step takes, if these are fewer than there
-- are fixed parameters, and none before.
theorem isSome_defaultAt?_minimum (hsig : d.body.signature? = some sig)
    (h : d.minimum < d.fixed.length) : (sig.defaultAt? d.minimum).isSome = true := by
  rw [← join_getElem?_bodyDefaults hsig h]
  rw [minimum] at h ⊢
  cases hfind : (bodyDefaults d.body d.fixed.length).findIdx? Option.isSome with
  | none =>
      rw [hfind, Option.getD_none] at h
      exact absurd h (Nat.lt_irrefl _)
  | some i =>
      obtain ⟨hi, hsome, -⟩ := List.findIdx?_eq_some_iff_getElem.mp hfind
      rwa [Option.getD_some, List.getElem?_eq_getElem hi, Option.join_some]

theorem defaultAt?_of_lt_minimum (hsig : d.body.signature? = some sig) (h : place < d.minimum) :
    sig.defaultAt? place = none := by
  have hplace : place < d.fixed.length := h.trans_le d.minimum_le
  rw [← join_getElem?_bodyDefaults hsig hplace]
  rw [minimum] at h
  cases hget : (bodyDefaults d.body d.fixed.length)[place]? with
  | none => rfl
  | some default? =>
      obtain ⟨hlength, hdefault⟩ := List.getElem?_eq_some_iff.mp hget
      have hnot : ¬ default?.isSome = true := by
        cases hfind : (bodyDefaults d.body d.fixed.length).findIdx? Option.isSome with
        | none =>
            rw [List.findIdx?_eq_none_iff.mp hfind default? (List.mem_of_getElem? hget)]
            exact Bool.false_ne_true
        | some i =>
            rw [hfind, Option.getD_some] at h
            obtain ⟨_, _, hbefore⟩ := List.findIdx?_eq_some_iff_getElem.mp hfind
            exact hdefault ▸ hbefore place h
      rw [Option.join_some]
      exact Option.not_isSome_iff_eq_none.mp hnot

-- A number of arguments that a step takes fits parameters that take the fixed ones, if their
-- defaults trail from the fewest arguments on and there is room for so many.
theorem accepts_of_takes (haccepts : sig.Accepts d.fixed.length) (htrails : sig.Trails)
    (hfirst : d.minimum < d.fixed.length → (sig.defaultAt? d.minimum).isSome = true)
    (htakes : d.takes count = true)
    (hroom : sig.isVariadic = true ∨ count ≤ sig.positional.length) : sig.Accepts count := by
  obtain ⟨hminimum, -⟩ := (takes_eq_true_iff d count).mp htakes
  obtain ⟨-, hdefaults, hkeywords⟩ := Signature.accepts_iff.mp haccepts
  refine Signature.accepts_iff.mpr ⟨hroom, fun i hcount hi => ?_, hkeywords⟩
  by_cases hfixed : d.fixed.length ≤ i
  · exact hdefaults i hfixed hi
  have hlt : d.minimum < d.fixed.length := by omega
  by_cases heq : d.minimum = i
  · exact heq ▸ hfirst hlt
  · exact Signature.trails_iff.mp htrails d.minimum i (by omega) hi (hfirst hlt)

-- All numbers of arguments that a step takes fit its body exactly if the defaults of the body trail
-- and it is variadic if the step is.
theorem takes_imp_accepts_iff (hsig : d.body.signature? = some sig)
    (haccepts : sig.Accepts d.fixed.length) :
    (∀ count, d.takes count = true → sig.Accepts count) ↔
      sig.Trails ∧ (d.rest?.isSome = true → sig.isVariadic = true) := by
  obtain ⟨hroom, hdefaults, -⟩ := Signature.accepts_iff.mp haccepts
  constructor
  · intro hall
    refine ⟨Signature.trails_iff.mpr fun i j hij hj hi => ?_, fun hrest => ?_⟩
    · by_cases hfixed : d.fixed.length ≤ j
      · exact hdefaults j hfixed hj
      -- The step takes `j` arguments, as its body has a default before, so the parameter at `j` is
      -- left to its default.
      have hminimum : d.minimum ≤ i := by
        by_contra hlt
        rw [defaultAt?_of_lt_minimum hsig (Nat.lt_of_not_le hlt)] at hi
        cases hi
      have htakes : d.takes j = true :=
        (takes_eq_true_iff d j).mpr ⟨by omega, .inr (by omega)⟩
      exact (Signature.accepts_iff.mp (hall j htakes)).2.1 j (Nat.le_refl j) hj
    · have hminimum := d.minimum_le
      have htakes : d.takes (d.fixed.length + sig.positional.length + 1) = true :=
        (takes_eq_true_iff d _).mpr ⟨by omega, .inl hrest⟩
      exact (Signature.accepts_iff.mp (hall _ htakes)).1.resolve_right (by omega)
  · rintro ⟨htrails, hvariadic⟩ count htakes
    refine accepts_of_takes haccepts htrails (isSome_defaultAt?_minimum hsig) htakes ?_
    obtain hrest | hle := ((takes_eq_true_iff d count).mp htakes).2
    · exact .inl (hvariadic hrest)
    · exact hroom.imp_right hle.trans

-- What a declared input step does with the arguments it is called with.
theorem call_step_input (hkind : d.kind = .input) (host : Host) (serial : Nat)
    (args : List Value) :
    (Callable.step serial d).call host args =
      if d.takes args.length then
        d.body.call host args >>= fun returned =>
          if returned.entries?.isSome then pure returned
          else Run.fail (.contract .returnsNoEnvironment .input (.ofName d.name) returned.typeName)
      else Run.fail (.arity (.inputStep d.name.plain d.expected args.length)) := by
  let step : DeclaredStep := ⟨serial, d⟩
  have hstep : step.kind = .input := hkind
  have hcall := @DeclaredStep.call_input host step hstep args
  simp only [DeclaredStep.returnsNoEnvironment, hstep] at hcall
  exact hcall

theorem signature?_of_code? {c : Callable} {code : Routine Value Expr} (hcode : c.code? = some code)
    (hsig : c.signature? = some sig) : sig = Signature.seen code.params := by
  cases c with
  | function serial routine =>
      cases hcode
      exact (Option.some_inj.mp hsig).symm
  | shell serial text name? stepName? introspectable routine =>
      cases hcode
      cases introspectable with
      | false => cases hsig
      | true => exact (Option.some_inj.mp hsig).symm
  | _ => cases hcode

-- A function refuses a call that its step has let through only if it has no place for so many
-- arguments.
theorem exists_bind_iff {code : Routine Value Expr} (hcode : d.body.code? = some code)
    (hsig : d.body.signature? = some sig) (haccepts : sig.Accepts d.fixed.length)
    (htrails : Signature.Trails code.params) {args : List Value}
    (htakes : d.takes args.length = true) :
    (∃ scope, Signature.bind code.name code.params args = .ok scope) ↔
      Signature.isVariadic code.params = true ∨
        args.length ≤ (Signature.positional code.params).length := by
  have hseen := signature?_of_code? hcode hsig
  have hown : Signature.Accepts code.params d.fixed.length :=
    Signature.Accepts.of_seen (hseen ▸ haccepts)
  have hfirst : d.minimum < d.fixed.length →
      (Signature.defaultAt? code.params d.minimum).isSome = true := by
    intro hlt
    have hdefault := isSome_defaultAt?_minimum hsig hlt
    rw [hseen, Signature.defaultAt?_seen] at hdefault
    exact Signature.isSome_of_isSome_filter hdefault
  simp only [Signature.bind_eq_ok_iff, exists_and_left, exists_eq', and_true]
  constructor
  · intro h
    exact (Signature.accepts_iff.mp h).1
  · intro hroom
    exact accepts_of_takes hown htrails hfirst htakes hroom

-- The numbers of arguments that an input step takes all fit its body exactly if the defaults of the
-- body trail and it is variadic if the step is. Any other number is refused by the step itself. A
-- function refuses a call that its step has let through exactly if it has no place for so many
-- arguments.
theorem takes_fits_body_iff {name params body doc : Value}
    (hd : declare .input name params body doc = .ok d) (hsig : d.body.signature? = some sig)
    (host : Host) (serial : Nat) :
    ((∀ count, d.takes count = true → sig.Accepts count) ↔
      sig.Trails ∧ (d.rest?.isSome = true → sig.isVariadic = true)) ∧
    (∀ args : List Value, d.takes args.length = false →
      (Callable.step serial d).call host args =
        Run.fail (.arity (.inputStep d.name.plain d.expected args.length))) ∧
    ∀ code, d.body.code? = some code → Signature.Trails code.params → ∀ args : List Value,
      d.takes args.length = true →
      ((∃ scope, Signature.bind code.name code.params args = .ok scope) ↔
        Signature.isVariadic code.params = true ∨
          args.length ≤ (Signature.positional code.params).length) := by
  obtain ⟨hformed, -⟩ := (declare_eq_ok_iff ..).mp hd
  have haccepts := hformed.accepts sig hsig
  refine ⟨takes_imp_accepts_iff hsig haccepts, fun args htakes => ?_, ?_⟩
  · rw [call_step_input hformed.ofKind, htakes]
    rfl
  · exact fun code hcode htrails args htakes => exists_bind_iff hcode hsig haccepts htrails htakes

-- A function with a default and a variadic parameter, and the step that has its parameters.
def collect : Callable :=
  .function 100 ⟨"collect",
    [BuiltIn.param "first", ⟨"second", .positionalOrKeyword, some (.int 10)⟩,
      Signature.variadicParam "rest"],
    .dict [(.lit (.str "first"), .var "first"), (.lit (.str "rest"), .var "rest")], none⟩

def collecting : Declaration Value Callable :=
  ⟨.input, "collect", ["first", "second"], some "rest", collect, .none⟩

theorem wellFormed_collecting {params : Value}
    (hitems : params.items? = some (parameters collecting.fixed collecting.rest?)) :
    WellFormed .input (.str "collect") params (.callable collect) collecting := by
  have hvariadic : ∀ rest ∈ collecting.rest?,
      StepKind.input = .input ∧ Text.isBindable rest = true := by
    rintro _ ⟨⟩
    exact ⟨rfl, by decide⟩
  refine ⟨rfl, rfl, by decide, ⟨hitems, by decide, hvariadic, by decide⟩, rfl, ?_⟩
  rintro _ ⟨⟩
  decide

theorem takes_fits_body_collect :
    ∃ sig, declare .input (.str "collect") (.list [.str "first", .str "second", .str "*rest"])
        (.callable collect) .none = .ok collecting ∧
      collecting.body.signature? = some sig ∧ collecting.takes 0 = false ∧
      collecting.takes 7 = true ∧ ∀ count, collecting.takes count = true → sig.Accepts count := by
  have hd : declare .input (.str "collect") (.list [.str "first", .str "second", .str "*rest"])
      (.callable collect) .none = .ok collecting :=
    (declare_eq_ok_iff ..).mpr ⟨wellFormed_collecting rfl, rfl⟩
  obtain ⟨hfits, -, -⟩ := takes_fits_body_iff hd rfl World.bare.host 101
  exact ⟨_, hd, rfl, rfl, rfl, hfits.mpr ⟨by decide, fun _ => rfl⟩⟩

-- A function with one parameter, as the body of a step that takes any number of arguments from one
-- on: it refuses two.
def takeOne : Callable :=
  .function 100 ⟨"f", [BuiltIn.param "a"], .dict [(.lit (.str "a"), .var "a")], none⟩

theorem takes_beyond_body :
    ∃ d sig, declare .input (.str "s") (.list [.str "a", .str "*rest"]) (.callable takeOne) .none =
        .ok d ∧
      d.body.signature? = some sig ∧ d.takes 2 = true ∧ ¬ sig.Accepts 2 ∧
      ((Callable.step 101 d).call World.bare.host [.int 1, .int 2] .start).outcome =
        .error (.arity (.tooMany "f" (.exactly 1) 2)) := by
  let d : Declaration Value Callable := ⟨.input, "s", ["a"], some "rest", takeOne, .none⟩
  have hvariadic : ∀ rest ∈ d.rest?, d.kind = .input ∧ Text.isBindable rest = true := by
    rintro _ ⟨⟩
    exact ⟨rfl, by decide⟩
  have haccepts : ∀ sig, d.body.signature? = some sig → sig.Accepts 1 := by
    rintro _ ⟨⟩
    decide
  have hd : declare .input (.str "s") (.list [.str "a", .str "*rest"]) (.callable takeOne) .none =
      .ok d :=
    (declare_eq_ok_iff ..).mpr ⟨⟨rfl, rfl, by decide, ⟨rfl, by decide, hvariadic, by decide⟩, rfl,
      haccepts⟩, rfl⟩
  exact ⟨d, _, hd, rfl, rfl, by decide, rfl⟩

end Declaration

end StepFlow
