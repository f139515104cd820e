import StepFlow.Proofs.PublishedSignature

namespace StepFlow

theorem Signature.accepts_cons_iff {p : Param Value} (h : p.mode.isPositional = true)
    (sig : Signature) (count : Nat) :
    Signature.Accepts (p :: sig) (count + 1) ↔ sig.Accepts count := by
  have hpositional : Signature.positional (p :: sig) = p :: sig.positional :=
    List.filter_cons_of_pos h
  have hkeywordOnly : Signature.keywordOnly (p :: sig) = sig.keywordOnly := by
    refine List.filter_cons_of_neg ?_
    cases hmode : p.mode <;> simp [hmode, ParamMode.isPositional] at h ⊢
  have hvariadic : Signature.isVariadic (p :: sig) = sig.isVariadic := by
    cases hmode : p.mode <;> simp [hmode, ParamMode.isPositional, Signature.isVariadic] at h ⊢
  simp only [Signature.Accepts, hpositional, hkeywordOnly, hvariadic, List.length_cons,
    List.drop_succ_cons, Nat.add_le_add_iff_right]

theorem Signature.accepts_nil_iff (count : Nat) : Signature.Accepts [] count ↔ count = 0 := by
  simp [Signature.Accepts, Signature.isVariadic, Signature.positional, Signature.keywordOnly]

theorem Signature.accepts_singleton_iff {p : Param Value} (h : p.mode.isPositional = true)
    (hdefault : p.default? = none) (count : Nat) : Signature.Accepts [p] count ↔ count = 1 := by
  cases count with
  | zero =>
      have hmissing : ¬ Signature.Accepts [p] 0 := by
        rintro ⟨-, hdefaults, -⟩
        have hp : p ∈ Signature.positional [p] := List.mem_filter.mpr ⟨List.mem_singleton_self p, h⟩
        have hsome := hdefaults p hp
        rw [hdefault] at hsome
        cases hsome
      simp [hmissing]
  | succ count => simp [Signature.accepts_cons_iff h, Signature.accepts_nil_iff]

theorem Signature.exists_bind_eq_error {sig : Signature} {args : List Value}
    (h : ¬ sig.Accepts args.length) (function : String) :
    ∃ fault, sig.bind function args = .error fault := by
  cases hbind : sig.bind function args with
  | error fault => exact ⟨fault, rfl⟩
  | ok scope => exact absurd ((Signature.bind_eq_ok_iff ..).mp hbind).1 h

namespace NativeType

-- A type can be made an instance of with a number of arguments, as far as it checks the number.
def Admits (t : NativeType) (count : Nat) : Prop :=
  match t.constructor? with
  | some (_, sig) => sig.Accepts (count + 1)
  | none =>
    match t with
    | .error _ | .path | .anything => True
    | .readOnlyView => count = 1
    | _ => count = 0

theorem construct_of_not_admits {t : NativeType} {args : List Value} (h : ¬ t.Admits args.length) :
    ∃ fault, t.construct args = Run.fail fault := by
  cases hconstructor : t.constructor? with
  | some constructor =>
      obtain ⟨function, sig⟩ := constructor
      simp only [Admits, hconstructor] at h
      obtain ⟨fault, hfault⟩ :=
        @Signature.exists_bind_eq_error sig (.callable (.native (.type t)) :: args) h function
      refine ⟨fault, ?_⟩
      simp only [construct, hconstructor, hfault]
      rfl
  | none =>
      simp only [Admits, hconstructor] at h
      simp only [construct, hconstructor]
      match args with
      | [] => cases t <;> first | exact absurd trivial h | exact absurd rfl h | exact ⟨_, rfl⟩
      | [_] => cases t <;> first | exact absurd trivial h | exact absurd rfl h | exact ⟨_, rfl⟩
      | _ :: _ :: _ => cases t <;> first | exact absurd trivial h | exact ⟨_, rfl⟩

-- A type shows the parameters of its constructor but the first, which is taken by position.
theorem signature?_of_constructor? {t : NativeType} {function : String} {sig : Signature}
    (h : t.constructor? = some (function, sig)) :
    ∃ p ps, sig = p :: ps ∧ p.mode.isPositional = true ∧ t.signature? = some ps := by
  cases t with
  | error category => cases category <;> cases h <;> exact ⟨_, _, rfl, rfl, rfl⟩
  | _ => cases h <;> exact ⟨_, _, rfl, rfl, rfl⟩

theorem admits_of_accepts {t : NativeType} {sig : Signature} {count : Nat}
    (hsig : t.signature? = some sig) (h : sig.Accepts count) : t.Admits count := by
  cases hconstructor : t.constructor? with
  | some constructor =>
      obtain ⟨p, ps, hcons, hp, hps⟩ := signature?_of_constructor? hconstructor
      cases hsig.symm.trans hps
      simp only [Admits, hconstructor, hcons]
      exact (Signature.accepts_cons_iff hp _ count).mpr h
  | none =>
      simp only [Admits, hconstructor]
      cases t with
      | path | anything | error _ => trivial
      | mapping | mutableMapping | sequence | iterable | callable | missing =>
          cases hsig
          exact (Signature.accepts_nil_iff count).mp h
      | readOnlyView => cases hsig
      | _ => cases hconstructor

end NativeType

namespace Native

-- An operation takes a number of arguments, as far as it checks the number.
def Admits (operation : Native) (count : Nat) : Prop :=
  match operation with
  | .type t => t.Admits count
  | .synonym s => s.origin.Admits count
  | .isKeyword _ | .ofGenerator _ => count = 1
  | .reduce => count = 2 ∨ count = 3
  | .invoke | .other .. => True
  | operation => Signature.Accepts (operation.signature?.getD []) count

theorem call_of_not_admits {operation : Native} {args : List Value} (world : World) (host : Host)
    (h : ¬ operation.Admits args.length) :
    ∃ fault, operation.call world host args = Run.fail fault := by
  cases operation with
  | type t => exact NativeType.construct_of_not_admits h
  | synonym s => exact NativeType.construct_of_not_admits h
  | invoke | other _ _ => exact absurd trivial h
  | isKeyword soft =>
      match args with
      | [] => exact ⟨_, rfl⟩
      | [_] => exact absurd rfl h
      | v :: _ :: _ => cases v <;> exact ⟨_, rfl⟩
  | reduce =>
      match args with
      | [] | [_] => exact ⟨_, rfl⟩
      | [_, _] => exact absurd (.inl rfl) h
      | [_, _, _] => exact absurd (.inr rfl) h
      | _ :: _ :: _ :: _ :: _ => exact ⟨_, rfl⟩
  | ofGenerator request =>
      match args with
      | [] => exact ⟨_, rfl⟩
      | [_] => exact absurd rfl h
      | v :: _ :: _ => cases v <;> exact ⟨_, rfl⟩
  | _ =>
      obtain ⟨fault, hfault⟩ := Signature.exists_bind_eq_error h _
      refine ⟨fault, ?_⟩
      simp only [call]
      rw [hfault]
      rfl

-- Whether an operation binds its arguments to its parameters before anything else.
def binds : Native → Bool
  | .type _ | .synonym _ | .isKeyword _ | .ofGenerator _ | .reduce | .invoke | .other .. => false
  | _ => true

-- An operation that binds its arguments is performed on them if their number fits what it shows.
theorem call_of_accepts {operation : Native} {sig : Signature} {args : List Value} (world : World)
    (host : Host) (hbinds : operation.binds = true) (hsig : operation.signature? = some sig)
    (h : sig.Accepts args.length) :
    operation.call world host args = operation.perform world host (sig.scope args) := by
  have hbind (function : String) : sig.bind function args = .ok (sig.scope args) :=
    (Signature.bind_eq_ok_iff ..).mpr ⟨h, rfl⟩
  cases operation with
  | type _ | synonym _ | isKeyword _ | ofGenerator _ | reduce | invoke | other _ _ => cases hbinds
  | _ =>
      simp only [call, hsig, Option.getD_some, hbind]
      rfl

-- An operation that binds arguments to its parameters shows these. A type with its parameters
-- filled in shows none of those that its type has.
theorem admits_of_accepts {operation : Native} {sig : Signature} {count : Nat}
    (hsynonym : ∀ s, operation ≠ .synonym s) (hsig : operation.signature? = some sig)
    (h : sig.Accepts count) : operation.Admits count := by
  have hdefault : Signature.Accepts (operation.signature?.getD []) count := by
    rw [hsig]
    exact h
  cases operation with
  | type t => exact NativeType.admits_of_accepts hsig h
  | synonym s => exact absurd rfl (hsynonym s)
  | invoke | other _ _ => trivial
  | isKeyword _ | reduce => cases hsig
  | ofGenerator request =>
      cases request with
      | close => cases hsig
      | itself | next =>
          cases hsig
          exact (Signature.accepts_singleton_iff rfl rfl count).mp h
  | _ => exact hdefault

end Native

namespace Callable

-- A callable takes a number of arguments, as far as it or the first step in it checks the number.
def Admits : Callable → Nat → Prop
  | .function _ code, count | .shell _ _ _ _ _ code, count => Signature.Accepts code.params count
  | .step _ d, count => if d.kind = .input then d.takes count = true else count = 1
  | .composed _ _ first _, count => first.Admits count
  | .native operation, count => operation.Admits count
  | .bound _ operation, count => operation.Admits (count + 1)

-- Whether a callable binds arguments to the parameters that it shows. One that is bound to a value
-- has to take this by position.
def bindsShown : Callable → Bool
  | .composed .. | .native (.synonym _) => false
  | .bound _ operation =>
    ((operation.signature?.bind List.head?).map fun p => p.mode.isPositional).getD false
  | _ => true

-- A call with a number of arguments that a callable does not take fails.
theorem call_of_not_admits (world : World) (depth : Nat) {args : List Value} (c : Callable)
    (h : ¬ c.Admits args.length) (store : Store) :
    ∃ fault, (c.call (Host.ofDepth world (depth + 1)) args store).outcome = .error fault := by
  match c with
  | .function serial code =>
      obtain ⟨fault, hfault⟩ := Signature.exists_bind_eq_error h code.name
      rw [call_of_code? rfl, hfault]
      exact ⟨fault, rfl⟩
  | .shell serial text name? stepName? introspectable code =>
      obtain ⟨fault, hfault⟩ := Signature.exists_bind_eq_error h code.name
      rw [call_of_code? rfl, hfault]
      exact ⟨fault, rfl⟩
  | .step serial d =>
      by_cases hkind : d.kind = .input
      · rw [Admits, if_pos hkind] at h
        rw [Declaration.call_step_input hkind, if_neg h]
        exact ⟨_, rfl⟩
      · rw [Admits, if_neg hkind] at h
        obtain ⟨fault, hfault⟩ := @DeclaredStep.call_of_length_ne_one _ ⟨serial, d⟩ hkind args h
        exact ⟨fault, congrArg Reached.outcome (congrFun hfault store)⟩
  | .composed serial name first rest =>
      rw [Pipeline.call_composed]
      by_cases hnamed : first.IsNamed
      · obtain ⟨fault, hfault⟩ := call_of_not_admits world depth first h store
        rw [Pipeline.runSteps, Pipeline.announceInput_of_isNamed hnamed]
        exact ⟨fault, Run.outcome_bind_of_ok_of_error rfl (Run.outcome_bind_of_error hfault)⟩
      · rw [Pipeline.runSteps_of_not_isNamed hnamed]
        exact ⟨_, rfl⟩
  | .native operation =>
      obtain ⟨fault, hfault⟩ := Native.call_of_not_admits world (Host.ofDepth world depth) h
      exact ⟨fault, congrArg Reached.outcome (congrFun hfault store)⟩
  | .bound self operation =>
      obtain ⟨fault, hfault⟩ :=
        @Native.call_of_not_admits operation (self :: args) world (Host.ofDepth world depth) h
      exact ⟨fault, congrArg Reached.outcome (congrFun hfault store)⟩

-- A call of hand-written code with a number of arguments that fits what it shows evaluates the
-- code.
theorem call_of_accepts {c : Callable} {code : Routine Value Expr} {sig : Signature}
    (hcode : c.code? = some code) (hsig : c.signature? = some sig) (host : Host)
    {args : List Value} (h : sig.Accepts args.length) :
    c.call host args = code.body.eval host (Signature.scope code.params args) := by
  have hseen : sig = Signature.seen code.params := Declaration.signature?_of_code? hcode hsig
  have hown : Signature.Accepts code.params args.length := Signature.Accepts.of_seen (hseen ▸ h)
  have hbind : Signature.bind code.name code.params args =
      .ok (Signature.scope code.params args) :=
    (Signature.bind_eq_ok_iff ..).mpr ⟨hown, rfl⟩
  rw [call_of_code? hcode, hbind]
  exact Run.pure_bind ..

-- A callable that binds arguments to the parameters that it shows takes what fits them.
theorem admits_of_accepts {c : Callable} {sig : Signature} {count : Nat}
    (hshown : c.bindsShown = true) (hsig : c.signature? = some sig) (h : sig.Accepts count) :
    c.Admits count := by
  cases c with
  | function serial code =>
      cases hsig
      exact Signature.Accepts.of_seen h
  | shell serial text name? stepName? introspectable code =>
      cases introspectable with
      | false => cases hsig
      | true =>
          cases hsig
          exact Signature.Accepts.of_seen h
  | step serial d =>
      cases hsig
      by_cases hkind : d.kind = .input
      · rw [Admits, if_pos hkind]
        exact Declaration.takes_of_accepts_signature hkind h
      · rw [Declaration.signature_of_ne_input hkind] at h
        rw [Admits, if_neg hkind]
        exact (Signature.accepts_singleton_iff rfl rfl count).mp h
  | composed serial name first rest => cases hshown
  | native operation =>
      refine Native.admits_of_accepts ?_ hsig h
      rintro s rfl
      cases hshown
  | bound self operation =>
      obtain ⟨full, hfull, hdrop⟩ := Option.map_eq_some_iff.mp hsig
      cases full with
      | nil => simp [bindsShown, hfull] at hshown
      | cons p ps =>
          have hp : p.mode.isPositional = true := by simpa [bindsShown, hfull] using hshown
          cases hdrop
          refine Native.admits_of_accepts ?_ hfull ((Signature.accepts_cons_iff hp ps count).mpr h)
          rintro s rfl
          cases hfull
          cases hp

end Callable

end StepFlow
