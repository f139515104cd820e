import StepFlow.Proofs.Decorated

namespace StepFlow

namespace Declaration

variable {kind : StepKind} {d : Declaration Value Callable} {count : Nat}

-- A declaration that is accepted, by its parts or as that of a function.
inductive Declared (kind : StepKind) (d : Declaration Value Callable) : Prop
  | parts {name params body doc : Value} : declare kind name params body doc = .ok d →
      Declared kind d
  | function {fn : Value} : ofFunction kind fn = .ok d → Declared kind d

theorem Declared.wellFormed (h : Declared kind d) :
    ∃ name params body, WellFormed kind name params body d := by
  cases h with
  | parts hd => exact ⟨_, _, _, ((declare_eq_ok_iff ..).mp hd).1⟩
  | function hd =>
      obtain ⟨c, rfl⟩ := exists_callable_of_ofFunction hd
      obtain ⟨-, ⟨sig, -, -, hformed⟩, -⟩ := (ofFunction_eq_ok_iff c).mp hd
      exact ⟨_, _, _, hformed⟩

theorem Declared.kind_eq (hd : Declared kind d) : d.kind = kind := by
  obtain ⟨name, params, body, hformed⟩ := hd.wellFormed
  exact hformed.ofKind

theorem Declared.accepts {sig : Signature} (hd : Declared kind d)
    (hsig : d.body.signature? = some sig) : sig.Accepts d.fixed.length := by
  obtain ⟨name, params, body, hformed⟩ := hd.wellFormed
  exact hformed.accepts sig hsig

theorem Declared.rest?_eq_none (hkind : kind ≠ .input) (hd : Declared kind d) :
    d.rest? = none := by
  obtain ⟨name, params, body, hformed⟩ := hd.wellFormed
  cases hrest : d.rest? with
  | none => rfl
  | some rest => exact absurd (hformed.declares.variadic rest hrest).1 hkind

theorem signature_of_ne_input (hkind : d.kind ≠ .input) :
    d.signature = [Signature.plainParam "env"] := by
  cases h : d.kind with
  | input => exact absurd h hkind
  | intermediate | output => rw [signature, h]

theorem positional_signature (hkind : d.kind = .input) :
    d.signature.positional = d.fixed.map Signature.plainParam := by
  have hfixed : (d.fixed.map Signature.plainParam).filter (fun p => p.mode.isPositional) =
      d.fixed.map Signature.plainParam := by
    rw [List.filter_map]
    exact congrArg _ (List.filter_eq_self.mpr fun _ _ => rfl)
  rw [signature, hkind, Signature.positional, List.filter_append, hfixed]
  cases d.rest? <;> simp [Signature.variadicParam, ParamMode.isPositional]

theorem isVariadic_signature (hkind : d.kind = .input) :
    d.signature.isVariadic = d.rest?.isSome := by
  rw [signature, hkind, Signature.isVariadic, List.any_append]
  cases d.rest? <;> simp [Signature.plainParam, Signature.variadicParam]

theorem isDeclarable_signature (hkind : d.kind = .input) : ∀ p ∈ d.signature, IsDeclarable p := by
  rw [signature, hkind]
  intro p hp
  rcases List.mem_append.mp hp with hfixed | hrest
  · obtain ⟨name, -, rfl⟩ := List.mem_map.mp hfixed
    exact .inl rfl
  · obtain ⟨rest, -, rfl⟩ := List.mem_map.mp hrest
    exact .inr rfl

theorem keywordOnly_signature (hkind : d.kind = .input) : d.signature.keywordOnly = [] := by
  refine List.filter_eq_nil_iff.mpr fun p hp => ?_
  rcases isDeclarable_signature hkind p hp with hpositional | hvariadic
  · cases hmode : p.mode <;> simp [hmode, ParamMode.isPositional] at hpositional ⊢
  · simp [hvariadic]

theorem map_declaredParam_signature (hkind : d.kind = .input) :
    d.signature.map declaredParam = parameters d.fixed d.rest? := by
  rw [signature, hkind, parameters, List.map_append, List.map_map, List.map_map]
  rfl

-- An input step shows no default.
theorem defaultAt?_signature (hkind : d.kind = .input) (place : Nat) :
    d.signature.defaultAt? place = none := by
  rw [Signature.defaultAt?, positional_signature hkind, List.getElem?_map]
  cases d.fixed[place]? <;> rfl

theorem accepts_signature_iff (hkind : d.kind = .input) :
    d.signature.Accepts count ↔
      d.fixed.length ≤ count ∧ (d.rest?.isSome = true ∨ count ≤ d.fixed.length) := by
  rw [Signature.accepts_iff, isVariadic_signature hkind, positional_signature hkind,
    keywordOnly_signature hkind, List.length_map]
  simp only [defaultAt?_signature hkind]
  constructor
  · rintro ⟨hroom, hdefaults, -⟩
    refine ⟨?_, hroom⟩
    by_contra hlt
    have hdefault := hdefaults count (Nat.le_refl count) (by omega)
    cases hdefault
  · rintro ⟨hle, hroom⟩
    exact ⟨hroom, fun i hcount hi => by omega, fun p hp => nomatch hp⟩

theorem takes_of_accepts_signature (hkind : d.kind = .input) (h : d.signature.Accepts count) :
    d.takes count = true := by
  obtain ⟨hle, hroom⟩ := (accepts_signature_iff hkind).mp h
  exact (takes_eq_true_iff d count).mpr ⟨d.minimum_le.trans hle, hroom⟩

-- A step takes the fixed parameters at least exactly if its body has a default for none of them.
theorem minimum_eq_iff (d : Declaration Value Callable) :
    d.minimum = d.fixed.length ↔
      ∀ default? ∈ bodyDefaults d.body d.fixed.length, default? = none := by
  have hnone : (∀ default? ∈ bodyDefaults d.body d.fixed.length, default? = none) ↔
      (bodyDefaults d.body d.fixed.length).findIdx? Option.isSome = none := by
    simp [List.findIdx?_eq_none_iff]
  rw [hnone, minimum]
  cases h : (bodyDefaults d.body d.fixed.length).findIdx? Option.isSome with
  | none => simp
  | some i =>
      obtain ⟨hi, -⟩ := List.findIdx?_eq_some_iff_getElem.mp h
      have hlt := hi.trans_le (length_bodyDefaults_le d.body d.fixed.length)
      simp [hlt.ne]

-- What the shown signature fits is what the step takes exactly if the body has a default for no
-- fixed parameter.
theorem accepts_signature_iff_takes_iff (hkind : d.kind = .input) :
    (∀ count, d.signature.Accepts count ↔ d.takes count = true) ↔
      ∀ default? ∈ bodyDefaults d.body d.fixed.length, default? = none := by
  rw [← minimum_eq_iff]
  simp only [accepts_signature_iff hkind, takes_eq_true_iff]
  constructor
  · intro h
    have hminimum := d.minimum_le
    have hle := ((h d.minimum).mpr ⟨Nat.le_refl _, .inr hminimum⟩).1
    omega
  · rintro hminimum count
    rw [hminimum]

-- A step can be declared by a step, and takes what the signature of that one fits.
theorem exists_ofFunction_step {name params body : Value}
    (hformed : WellFormed .input name params body d) (serial : Nat) :
    ∃ again, ofFunction .input (.callable (.step serial d)) = .ok again ∧
      again.body = .step serial d ∧
      ∀ count, again.takes count = true ↔ d.signature.Accepts count := by
  let again : Declaration Value Callable := { d with body := .step serial d }
  have hkind := hformed.ofKind
  have haccepts : d.signature.Accepts d.fixed.length :=
    (accepts_signature_iff hkind).mpr ⟨Nat.le_refl _, .inr (Nat.le_refl _)⟩
  have hitems : (Value.list (d.signature.map declaredParam)).items? =
      some (parameters again.fixed again.rest?) :=
    congrArg some (map_declaredParam_signature hkind)
  have hd : ofFunction .input (.callable (.step serial d)) = .ok again := by
    refine (ofFunction_eq_ok_iff _).mpr ⟨rfl, ⟨d.signature, rfl, isDeclarable_signature hkind,
      hkind, rfl, hformed.nonempty, ⟨hitems, hformed.declares.bindable, hformed.declares.variadic,
        hformed.declares.distinct⟩, rfl, ?_⟩, rfl⟩
    rintro _ ⟨⟩
    exact haccepts
  have hminimum : again.minimum = again.fixed.length := by
    by_contra hne
    have hlt : again.minimum < again.fixed.length := Nat.lt_of_le_of_ne again.minimum_le hne
    have hdefault : (d.signature.defaultAt? again.minimum).isSome = true :=
      isSome_defaultAt?_minimum rfl hlt
    rw [defaultAt?_signature hkind] at hdefault
    cases hdefault
  refine ⟨again, hd, rfl, fun count => ?_⟩
  rw [takes_eq_true_iff, hminimum, accepts_signature_iff hkind]

theorem exists_declare_iff (kind : StepKind) (name params body doc : Value) :
    (∃ d, declare kind name params body doc = .ok d) ↔
      ∃ d, WellFormed kind name params body d := by
  simp only [declare_eq_ok_iff]
  constructor
  · rintro ⟨d, hformed, -⟩
    exact ⟨d, hformed⟩
  · rintro ⟨d, hkind, hname, hnonempty, hdeclares, hbody, haccepts⟩
    have hformed (shown : Value) : WellFormed kind name params body { d with doc := shown } :=
      ⟨hkind, hname, hnonempty, hdeclares, hbody, haccepts⟩
    cases doc with
    | none => exact ⟨_, hformed d.body.doc, rfl⟩
    | _ => exact ⟨_, hformed _, rfl⟩

-- A step can be declared with a step as the body exactly if its signature fits the fixed
-- parameters.
theorem exists_declare_step_iff (serial : Nat) (kind : StepKind) (name params doc : Value) :
    (∃ other, declare kind name params (.callable (.step serial d)) doc = .ok other) ↔
      IsName name ∧ ∃ fixed rest?, Declares kind params fixed rest? ∧
        d.signature.Accepts fixed.length := by
  rw [exists_declare_iff]
  constructor
  · rintro ⟨other, -, hname, hnonempty, hdeclares, hbody, haccepts⟩
    have hsig : other.body.signature? = some d.signature := by
      rw [← Value.callable.inj hbody]
      rfl
    exact ⟨⟨other.name, hname, hnonempty⟩, _, _, hdeclares, haccepts _ hsig⟩
  · rintro ⟨⟨n, hname, hnonempty⟩, fixed, rest?, hdeclares, haccepts⟩
    refine ⟨⟨kind, n, fixed, rest?, .step serial d, .none⟩,
      rfl, hname, hnonempty, hdeclares, rfl, ?_⟩
    rintro _ ⟨⟩
    exact haccepts

-- The signature that an input step shows fits nothing that the step refuses, and all that it takes
-- exactly if the body has no default for a fixed parameter. A step that is declared by the step
-- takes what the signature fits, and one with the step as its body can only be declared with a
-- number of fixed parameters that the signature fits.
theorem published_fits_taken_iff (hd : Declared .input d) (serial : Nat) :
    ∃ sig, (Callable.step serial d).signature? = some sig ∧
      (∀ count, sig.Accepts count → d.takes count = true) ∧
      ((∀ count, sig.Accepts count ↔ d.takes count = true) ↔
        ∀ default? ∈ bodyDefaults d.body d.fixed.length, default? = none) ∧
      (∃ again, ofFunction .input (.callable (.step serial d)) = .ok again ∧
        again.body = .step serial d ∧
        ∀ count, again.takes count = true ↔ sig.Accepts count) ∧
      ∀ kind name params doc,
        (∃ other, declare kind name params (.callable (.step serial d)) doc = .ok other) ↔
          IsName name ∧ ∃ fixed rest?, Declares kind params fixed rest? ∧
            sig.Accepts fixed.length := by
  obtain ⟨name, params, body, hformed⟩ := hd.wellFormed
  have hkind := hformed.ofKind
  exact ⟨d.signature, rfl, fun count => takes_of_accepts_signature hkind,
    accepts_signature_iff_takes_iff hkind, exists_ofFunction_step hformed serial,
    exists_declare_step_iff serial⟩

theorem published_fits_taken_collect :
    Declared .input collecting ∧
      ∃ sig again, (Callable.step 101 collecting).signature? = some sig ∧
        ofFunction .input (.callable (.step 101 collecting)) = .ok again ∧
        collecting.takes 1 = true ∧ again.takes 1 = false ∧ again.takes 2 = true ∧
        ∀ count, sig.Accepts count → collecting.takes count = true := by
  have hd : Declared .input collecting := .function ofFunction_collect
  obtain ⟨sig, hsig, htaken, -, ⟨again, hagain, -, htakes⟩, -⟩ := published_fits_taken_iff hd 101
  refine ⟨hd, sig, again, hsig, hagain, rfl, ?_, ?_, htaken⟩
  · cases hsig
    exact Bool.eq_false_iff.mpr fun h => absurd ((htakes 1).mp h) (by decide)
  · cases hsig
    exact (htakes 2).mpr (by decide)

-- A step with a default that it does not show: it takes one argument, and the step that it declares
-- does not.
def scale : Callable :=
  .function 100 ⟨"load", [BuiltIn.param "val", ⟨"scale", .positionalOrKeyword, some (.int 10)⟩],
    .dict [(.lit (.str "val"), .binary .mul (.var "val") (.var "scale"))], none⟩

theorem published_hides_default :
    ∃ d again sig, ofFunction .input (.callable scale) = .ok d ∧
      (Callable.step 101 d).signature? = some sig ∧ d.takes 1 = true ∧ ¬ sig.Accepts 1 ∧
      ofFunction .input (.callable (.step 101 d)) = .ok again ∧
      ((Callable.step 101 d).call World.bare.host [.int 2] .start).outcome =
        .ok (.dict [(.str "val", .int 20)]) ∧
      ((Callable.step 102 again).call World.bare.host [.int 2] .start).outcome =
        .error (.arity (.inputStep "load" (.exactly 2) 1)) := by
  let d : Declaration Value Callable := ⟨.input, "load", ["val", "scale"], none, scale, .none⟩
  let again : Declaration Value Callable := { d with body := .step 101 d }
  have hd : ofFunction .input (.callable scale) = .ok d := by
    refine @ofFunction_of_positional _ _ _ scale rfl ?_ rfl ?_ ?_ ?_ <;> decide
  have hagain : ofFunction .input (.callable (.step 101 d)) = .ok again := by
    refine @ofFunction_of_positional _ _ _ (.step 101 d) rfl ?_ rfl ?_ ?_ ?_ <;> decide
  exact ⟨d, again, _, hd, rfl, rfl, by decide, hagain, rfl, rfl⟩

end Declaration

end StepFlow
