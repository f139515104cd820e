import StepFlow.Proofs.Arity

namespace StepFlow

theorem Value.ofName_injective : Function.Injective Value.ofName := by
  intro n m h
  exact Option.some_inj.mp
    (((name?_eq_some_iff _ n).mpr rfl).symm.trans ((name?_eq_some_iff _ m).mpr h))

namespace Declaration

variable {kind : StepKind} {name : Name} {sig : Signature} {d : Declaration Value Callable}

-- A parameter of a function as it is declared. The variadic one has a star in front.
def declaredParam (p : Param Value) : Value :=
  if p.mode = .variadic then .str ("*" ++ p.name.plain) else .ofName p.name

-- The parameters that can be declared.
def IsDeclarable (p : Param Value) : Prop :=
  p.mode.isPositional = true ∨ p.mode = .variadic

instance (p : Param Value) : Decidable (IsDeclarable p) :=
  inferInstanceAs (Decidable (_ ∨ _))

theorem readParams_cons {p : Param Value} (h : IsDeclarable p) (ps : Signature) :
    readParams kind name (p :: ps) = (readParams kind name ps).map (declaredParam p :: ·) := by
  obtain ⟨pname, mode, default?⟩ := p
  cases mode with
  | keywordOnly => simp [IsDeclarable, ParamMode.isPositional] at h
  | keywords => simp [IsDeclarable, ParamMode.isPositional] at h
  | positionalOnly => simp only [readParams]; cases readParams kind name ps <;> rfl
  | positionalOrKeyword => simp only [readParams]; cases readParams kind name ps <;> rfl
  | variadic => simp only [readParams]; cases readParams kind name ps <;> rfl

theorem readParams_cons_of_not {p : Param Value} (h : ¬ IsDeclarable p) (ps : Signature) :
    ∃ fault, readParams kind name (p :: ps) = .error fault := by
  obtain ⟨pname, mode, default?⟩ := p
  cases mode with
  | keywordOnly => exact ⟨_, rfl⟩
  | keywords => exact ⟨_, rfl⟩
  | positionalOnly => exact absurd (.inl rfl) h
  | positionalOrKeyword => exact absurd (.inl rfl) h
  | variadic => exact absurd (.inr rfl) h

-- Parameters are read if each of them can be declared.
theorem readParams_eq_ok_iff (sig : Signature) (items : List Value) :
    readParams kind name sig = .ok items ↔
      (∀ p ∈ sig, IsDeclarable p) ∧ sig.map declaredParam = items := by
  induction sig generalizing items with
  | nil => simp [readParams]
  | cons p ps ih =>
      rw [List.forall_mem_cons, List.map_cons]
      by_cases hp : IsDeclarable p
      · rw [readParams_cons hp, map_eq_ok_iff]
        simp only [ih, hp, true_and, and_assoc, exists_and_left, exists_eq_left']
      · obtain ⟨fault, hfault⟩ := @readParams_cons_of_not kind name p hp ps
        simp [hfault, hp]

theorem checkName_getD_eq_ok_iff (v? : Option Value) :
    checkName (v?.getD .none) = .ok name ↔ v? = some (.ofName name) ∧ name.word ≠ "" := by
  rw [checkName_eq_ok_iff]
  cases v? with
  | none =>
      have hname : Value.none ≠ .ofName name := by cases name <;> exact Value.noConfusion
      simp [hname]
  | some v => simp

-- A declaration is read off a callable that has a name and shows parameters that can be declared.
theorem read_eq_ok_iff (c : Callable) (items : List Value) :
    read kind (.callable c) = .ok (name, items) ↔
      (c.name? = some (.ofName name) ∧ name.word ≠ "") ∧
        ∃ sig, c.signature? = some sig ∧ (∀ p ∈ sig, IsDeclarable p) ∧
          sig.map declaredParam = items := by
  simp only [read, Value.callable?, bind_eq_ok_iff, checkName_getD_eq_ok_iff]
  cases c.signature? with
  | none => simp
  | some sig =>
      simp only [bind_eq_ok_iff, readParams_eq_ok_iff]
      constructor
      · rintro ⟨n, hname, _, hparams, ⟨⟩⟩
        exact ⟨hname, sig, rfl, hparams⟩
      · rintro ⟨hname, _, ⟨⟩, hparams⟩
        exact ⟨name, hname, items, hparams, rfl⟩

theorem exists_callable_of_ofFunction {fn : Value} (h : ofFunction kind fn = .ok d) :
    ∃ c, fn = .callable c := by
  cases hfn : fn.callable? with
  | none =>
      simp only [ofFunction, read, hfn, bind_eq_ok_iff] at h
      obtain ⟨_, ⟨shown, -, hread⟩, -⟩ := h
      cases hread
  | some c => exact ⟨c, (Value.callable?_eq_some_iff fn c).mp hfn⟩

-- A function declares a step if it has a name and shows parameters that can be declared, and if all
-- of this makes a well-formed declaration with the function as the body.
theorem ofFunction_eq_ok_iff (c : Callable) :
    ofFunction kind (.callable c) = .ok d ↔
      c.name? = some (.ofName d.name) ∧
        (∃ sig, c.signature? = some sig ∧ (∀ p ∈ sig, IsDeclarable p) ∧
          WellFormed kind (.ofName d.name) (.list (sig.map declaredParam)) (.callable c) d) ∧
        d.doc = d.body.doc := by
  simp only [ofFunction, bind_eq_ok_iff, Prod.exists, read_eq_ok_iff, declare_eq_ok_iff]
  constructor
  · rintro ⟨n, _, ⟨⟨hname, -⟩, sig, hsig, hparams, rfl⟩, hformed, hdoc⟩
    cases Value.ofName_injective hformed.named
    exact ⟨hname, ⟨sig, hsig, hparams, hformed⟩, hdoc⟩
  · rintro ⟨hname, ⟨sig, hsig, hparams, hformed⟩, hdoc⟩
    exact ⟨d.name, _, ⟨⟨hname, hformed.nonempty⟩, sig, hsig, hparams, rfl⟩, hformed, hdoc⟩

-- Parameters that are declared as fixed ones, and perhaps a variadic one, are just these: a star at
-- the front of a name is only that of the variadic one.
theorem fixed_of_map_declaredParam {fixed : List Name} {rest? : Option String}
    (h : sig.map declaredParam = parameters fixed rest?) (hparams : ∀ p ∈ sig, IsDeclarable p)
    (hfixed : ∀ name ∈ fixed, Text.isBindable name.word = true)
    (hstar : ∀ p ∈ sig, ∀ rest ∈ rest?, p.name ≠ .text ("*" ++ rest)) :
    sig.positional.map (·.name) = fixed ∧ sig.isVariadic = rest?.isSome := by
  induction sig generalizing fixed with
  | nil =>
      cases fixed with
      | nil =>
          cases rest? with
          | none => exact ⟨rfl, rfl⟩
          | some rest => cases h
      | cons name fixed => cases h
  | cons p ps ih =>
      obtain ⟨hp, hps⟩ := List.forall_mem_cons.mp hparams
      obtain ⟨hpstar, hpsstar⟩ := List.forall_mem_cons.mp hstar
      rw [List.map_cons] at h
      by_cases hmode : p.mode = .variadic
      · have hdeclared : declaredParam p = .str ("*" ++ p.name.plain) := if_pos hmode
        have hpositional : Signature.positional (p :: ps) = Signature.positional ps := by
          simp [Signature.positional, hmode, ParamMode.isPositional]
        cases fixed with
        | nil =>
            cases rest? with
            | none => cases h
            | some rest =>
                -- What stands after a variadic parameter would be declared as well.
                have hnil : ps = [] := List.map_eq_nil_iff.mp (List.cons.inj h).2
                subst hnil
                refine ⟨by rw [hpositional]; rfl, ?_⟩
                simp [Signature.isVariadic, hmode]
        | cons name fixed =>
            have hname : name = .text ("*" ++ p.name.plain) :=
              Value.ofName_injective ((List.cons.inj h).1.symm.trans hdeclared)
            have hbindable := hfixed name List.mem_cons_self
            rw [hname, Name.word, star_append, isBindable_star] at hbindable
            cases hbindable
      · have hdeclared : declaredParam p = .ofName p.name := if_neg hmode
        have hpositional : Signature.positional (p :: ps) = p :: Signature.positional ps :=
          List.filter_cons_of_pos (hp.resolve_right hmode)
        have hvariadic : Signature.isVariadic (p :: ps) = Signature.isVariadic ps := by
          simp [Signature.isVariadic, hmode]
        cases fixed with
        | nil =>
            cases rest? with
            | none => cases h
            | some rest =>
                have hname : p.name = .text ("*" ++ rest) :=
                  Value.ofName_injective (hdeclared.symm.trans (List.cons.inj h).1)
                exact absurd hname (hpstar rest rfl)
        | cons name fixed =>
            have hname : p.name = name :=
              Value.ofName_injective (hdeclared.symm.trans (List.cons.inj h).1)
            obtain ⟨hnames, hrest⟩ := ih (List.cons.inj h).2 hps
              (fun n hn => hfixed n (List.mem_cons_of_mem _ hn)) hpsstar
            rw [hpositional, hvariadic, List.map_cons, hname, hnames]
            exact ⟨rfl, hrest⟩

-- A function with a name and parameters that are all taken by position declares a step of any kind.
theorem ofFunction_of_positional {c : Callable} (hname : c.name? = some (.ofName name))
    (hnonempty : name.word ≠ "") (hsig : c.signature? = some sig)
    (hpositional : ∀ p ∈ sig, p.mode.isPositional = true)
    (hbindable : ∀ p ∈ sig, Text.isBindable p.name.word = true)
    (hdistinct : (sig.map (·.name.word)).Nodup) :
    ofFunction kind (.callable c) = .ok ⟨kind, name, sig.map (·.name), none, c, c.doc⟩ := by
  have hdeclared : sig.map declaredParam = (sig.map (·.name)).map .ofName := by
    rw [List.map_map]
    refine List.map_congr_left fun p hp => if_neg fun hmode => ?_
    have hp := hpositional p hp
    rw [hmode] at hp
    cases hp
  have hdeclares : Declares kind (.list (sig.map declaredParam)) (sig.map (·.name)) none := by
    refine ⟨?_, List.forall_mem_map.mpr hbindable, (fun _ h => nomatch h), ?_⟩
    · rw [hdeclared, parameters, Option.toList_none, List.map_nil, List.append_nil]
      rfl
    · rw [List.map_map, Option.toList_none, List.append_nil]
      exact hdistinct
  refine (ofFunction_eq_ok_iff c).mpr ⟨hname, ⟨sig, hsig, fun p hp => .inl (hpositional p hp), rfl,
    rfl, hnonempty, hdeclares, rfl, fun other hother => ?_⟩, rfl⟩
  cases hsig.symm.trans hother
  rw [List.length_map]
  exact Signature.accepts_length hpositional

theorem body_of_ofFunction {c : Callable} (hd : ofFunction kind (.callable c) = .ok d) :
    d.body = c := by
  obtain ⟨-, ⟨_, -, -, hformed⟩, -⟩ := (ofFunction_eq_ok_iff c).mp hd
  exact (Value.callable.inj hformed.calls).symm

-- The parameters of a step are those of the function that declares it.
theorem fixed_of_ofFunction {c : Callable} (hd : ofFunction kind (.callable c) = .ok d)
    (hsig : c.signature? = some sig)
    (hstar : ∀ p ∈ sig, ∀ rest ∈ d.rest?, p.name ≠ .text ("*" ++ rest)) :
    (∀ p ∈ sig, IsDeclarable p) ∧ sig.positional.map (·.name) = d.fixed ∧
      sig.isVariadic = d.rest?.isSome ∧ sig.Accepts d.fixed.length := by
  obtain ⟨-, ⟨other, hother, hparams, hformed⟩, -⟩ := (ofFunction_eq_ok_iff c).mp hd
  cases hsig.symm.trans hother
  have hbody : d.body = c := body_of_ofFunction hd
  obtain ⟨hpositional, hvariadic⟩ := fixed_of_map_declaredParam
    (Option.some_inj.mp hformed.declares.items) hparams hformed.declares.bindable hstar
  exact ⟨hparams, hpositional, hvariadic, hformed.accepts sig (hbody ▸ hsig)⟩

-- What fits the body of a step is taken by the step, if the step has all the parameters of its
-- body.
theorem takes_of_accepts (hsig : d.body.signature? = some sig)
    (hlength : sig.positional.length = d.fixed.length) (hvariadic : sig.isVariadic = d.rest?.isSome)
    {count : Nat} (h : sig.Accepts count) : d.takes count = true := by
  obtain ⟨hroom, hdefaults, -⟩ := Signature.accepts_iff.mp h
  refine (takes_eq_true_iff d count).mpr ⟨?_, ?_⟩
  · by_contra hlt
    have hminimum := d.minimum_le
    have hdefault := hdefaults count (Nat.le_refl count) (by omega)
    rw [defaultAt?_of_lt_minimum hsig (Nat.lt_of_not_le hlt)] at hdefault
    cases hdefault
  · exact hroom.imp (fun hv => hvariadic ▸ hv) (fun hle => hlength ▸ hle)

-- An input step that is declared by a function calls it with just the arguments it is called with
-- itself, and refuses no number of them that fits the function. All others are refused exactly if
-- the defaults that the function shows trail. Even if they do not, a function whose own defaults
-- trail has a place and a value for all that the step lets through.
theorem decorated_takes_iff {fn : Value} (hd : ofFunction .input fn = .ok d)
    (hnames : ∀ sig, d.body.signature? = some sig →
      ∀ p ∈ sig, Text.isBindable p.name.word = true)
    (host : Host) (serial : Nat) :
    ∃ sig, fn = .callable d.body ∧ d.body.signature? = some sig ∧
      (∀ args : List Value, (Callable.step serial d).call host args =
        if d.takes args.length then
          d.body.call host args >>= fun returned =>
            if returned.entries?.isSome then pure returned
            else Run.fail
              (.contract .returnsNoEnvironment .input (.ofName d.name) returned.typeName)
        else Run.fail (.arity (.inputStep d.name.plain d.expected args.length))) ∧
      (∀ count, sig.Accepts count → d.takes count = true) ∧
      ((∀ count, d.takes count = true ↔ sig.Accepts count) ↔ sig.Trails) ∧
      ∀ code, d.body.code? = some code → Signature.Trails code.params → ∀ args : List Value,
        d.takes args.length = true →
        ∃ scope, Signature.bind code.name code.params args = .ok scope := by
  obtain ⟨c, rfl⟩ := exists_callable_of_ofFunction hd
  obtain ⟨-, ⟨sig, hsig, -, hformed⟩, -⟩ := (ofFunction_eq_ok_iff c).mp hd
  have hbody : c = d.body := Value.callable.inj hformed.calls
  subst hbody
  have hstar : ∀ p ∈ sig, ∀ rest ∈ d.rest?, p.name ≠ .text ("*" ++ rest) := by
    intro p hp rest _ hname
    have hbindable := hnames sig hsig p hp
    rw [hname, Name.word, star_append, isBindable_star] at hbindable
    cases hbindable
  obtain ⟨-, hpositional, hvariadic, haccepts⟩ := fixed_of_ofFunction hd hsig hstar
  have hlength : sig.positional.length = d.fixed.length := by
    rw [← hpositional, List.length_map]
  have htakes : ∀ count, sig.Accepts count → d.takes count = true :=
    fun count => takes_of_accepts hsig hlength hvariadic
  have hcovers := takes_imp_accepts_iff hsig haccepts
  have hrest : d.rest?.isSome = true → sig.isVariadic = true := fun h => hvariadic ▸ h
  refine ⟨sig, rfl, hsig, call_step_input hformed.ofKind host serial, htakes, ?_, ?_⟩
  · constructor
    · intro h
      exact (hcovers.mp fun count => (h count).mp).1
    · intro htrails count
      exact ⟨hcovers.mpr ⟨htrails, hrest⟩ count, htakes count⟩
  · intro code hcode htrails args hcount
    refine (exists_bind_iff hcode hsig haccepts htrails hcount).mpr ?_
    have hseen := signature?_of_code? hcode hsig
    rw [hseen, Signature.isVariadic_seen] at hvariadic
    rw [hseen, Signature.positional_seen, Signature.seen, List.length_map] at hlength
    rw [hvariadic, hlength]
    exact ((takes_eq_true_iff d args.length).mp hcount).2

theorem ofFunction_collect : ofFunction .input (.callable collect) = .ok collecting := by
  refine (ofFunction_eq_ok_iff collect).mpr ⟨rfl, ⟨_, rfl, ?_, wellFormed_collecting rfl⟩, rfl⟩
  decide

theorem decorated_takes_collect :
    ∃ sig, ofFunction .input (.callable collect) = .ok collecting ∧
      collect.signature? = some sig ∧
      (∀ count, collecting.takes count = true ↔ sig.Accepts count) ∧
      (Callable.step 101 collecting).call World.bare.host [] =
        Run.fail (.arity (.inputStep "collect" (.atLeast 1) 0)) := by
  have hnames : ∀ sig, collecting.body.signature? = some sig →
      ∀ p ∈ sig, Text.isBindable p.name.word = true := by
    rintro _ ⟨⟩
    decide
  obtain ⟨sig, -, hsig, hcall, -, htrails, -⟩ :=
    decorated_takes_iff ofFunction_collect hnames World.bare.host 101
  refine ⟨sig, ofFunction_collect, hsig, htrails.mpr ?_, hcall []⟩
  cases hsig
  decide

-- A function that has the mark of a missing default as a default of its own, after another
-- default. It shows a parameter without a default there, and so no place for fewer than two
-- arguments, though it can be called without any.
def markedDefault : Callable :=
  .function 100 ⟨"f",
    [⟨"a", .positionalOrKeyword, some (.int 1)⟩, ⟨"b", .positionalOrKeyword, some Native.missing⟩],
    .dict [(.lit (.str "a"), .var "a")], none⟩

theorem decorated_takes_unfit :
    ∃ d sig, ofFunction .input (.callable markedDefault) = .ok d ∧
      markedDefault.signature? = some sig ∧ ¬ sig.Accepts 0 ∧ d.takes 0 = true ∧
      ((Callable.step 101 d).call World.bare.host [] .start).outcome =
        .ok (.dict [(.str "a", .int 1)]) := by
  let d : Declaration Value Callable := ⟨.input, "f", ["a", "b"], none, markedDefault, .none⟩
  have hd : ofFunction .input (.callable markedDefault) = .ok d := by
    refine @ofFunction_of_positional _ _ _ markedDefault rfl ?_ rfl ?_ ?_ ?_ <;> decide
  exact ⟨d, _, hd, rfl, by decide, rfl, rfl⟩

end Declaration

end StepFlow
