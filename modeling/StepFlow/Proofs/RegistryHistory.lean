import StepFlow.Native.Host
import StepFlow.Proofs.Lowercase
import StepFlow.Proofs.Registration
import Mathlib.Data.List.Nodup

namespace StepFlow

namespace Registry

-- Normal forms are compared as they are.
theorem normalForm_normalForm (name : String) : normalForm (normalForm name) = normalForm name := by
  rw [normalForm, normalForm, Text.strip_lowercase_strip, Text.lowercase_lowercase]

-- The names that calls register steps under, in the order of their first registrations.
def firstNames (calls : List (Value × Value)) : List String :=
  ((calls.filterMap registers?).map Prod.fst).eraseDups

theorem nameOf_of_plainForm {name : Value} {text : String} (h : name.plainForm = .ok text) :
    nameOf name = .ok (normalForm text) := by
  rw [nameOf, h]
  rfl

theorem nameOf_of_plainForm_error {name : Value} {unmet : Unmet}
    (h : name.plainForm = .error unmet) : nameOf name = .error (.unmet unmet) := by
  rw [nameOf, h]
  rfl

-- Names that were registered are normal forms.
theorem normalForm_of_registers? {call : Value × Value} {name : String} {step : Callable}
    (h : registers? call = some (name, step)) : normalForm name = name := by
  obtain ⟨given, v⟩ := call
  rw [registers?] at h
  split at h
  · next normal _ hnormal =>
      obtain ⟨rfl, -⟩ := Prod.mk.inj (Option.some.inj h)
      cases hplain : given.plainForm with
      | error unmet => simp [nameOf_of_plainForm_error hplain] at hnormal
      | ok text =>
          rw [nameOf_of_plainForm hplain] at hnormal
          rw [← Except.ok.inj hnormal, normalForm_normalForm]
  · cases h

theorem normalForm_of_mem_firstNames {calls : List (Value × Value)} {name : String}
    (h : name ∈ firstNames calls) : normalForm name = name := by
  obtain ⟨⟨_, step⟩, hentry, rfl⟩ := List.mem_map.mp (List.mem_eraseDups.mp h)
  obtain ⟨call, -, hcall⟩ := List.mem_filterMap.mp hentry
  exact normalForm_of_registers? hcall

theorem eraseDups_concat (names : List String) (name : String) :
    (names ++ [name]).eraseDups =
      if name ∈ names then names.eraseDups else names.eraseDups ++ [name] := by
  rw [List.eraseDups_append, List.removeAll]
  by_cases h : name ∈ names
  · simp [h]
  · rw [if_neg h, List.filter_singleton, List.elem_eq_mem, decide_eq_false h]
    rfl

-- One more call adds its name if it registers a step under a new one.
theorem firstNames_concat (calls : List (Value × Value)) (call : Value × Value) :
    firstNames (calls ++ [call]) =
      match registers? call with
      | some (name, _) =>
        if name ∈ firstNames calls then firstNames calls else firstNames calls ++ [name]
      | none => firstNames calls := by
  rw [firstNames, List.filterMap_append, List.map_append, firstNames]
  cases h : registers? call with
  | none => simp [h]
  | some entry =>
      have hentry : [call].filterMap registers? = [entry] := by simp [h]
      simp only [hentry, List.map_cons, List.map_nil, eraseDups_concat, List.mem_eraseDups]

-- A registry lists the names of the calls that filled it.
theorem supportedNames_ofCalls (calls : List (Value × Value)) :
    (ofCalls calls).supportedNames = firstNames calls := by
  induction calls using List.reverseRecOn with
  | nil => rfl
  | append_singleton calls call ih =>
      rw [supportedNames, ofCalls, List.foldl_append, List.foldl_cons, List.foldl_nil, steps_enter,
        firstNames_concat, ← ih, supportedNames, ofCalls]
      cases registers? call with
      | none => rfl
      | some entry => exact map_fst_store ..

theorem nodup_firstNames (calls : List (Value × Value)) : (firstNames calls).Nodup := by
  induction calls using List.reverseRecOn with
  | nil => exact List.nodup_nil
  | append_singleton calls call ih =>
      rw [firstNames_concat]
      split
      · split
        · exact ih
        · next hmem =>
            simpa using List.Nodup.concat hmem ih
      · exact ih

-- A name that is listed is found.
theorem exists_latest?_of_mem_firstNames {calls : List (Value × Value)} {name : String}
    (h : name ∈ firstNames calls) : ∃ step, latest? calls name = some step := by
  obtain ⟨⟨_, step⟩, hentry, rfl⟩ := List.mem_map.mp (List.mem_eraseDups.mp h)
  obtain ⟨call, hcall, hregisters⟩ := List.mem_filterMap.mp hentry
  exact Option.isSome_iff_exists.mp
    ((latest?_isSome_iff calls _).mpr ⟨call, hcall, step, hregisters⟩)

-- What a registry holds is what a store keeps for it.
def Holds (r : Registry) (self : Value) (store : Store) : Prop :=
  store.registry? self = some r

theorem holds_keep (r : Registry) (self : Value) (store : Store) :
    r.Holds self (store.keep self r) := by
  rw [Holds, Store.registry?, Store.keep, List.lookup_cons, beq_self_eq_true]

-- What cannot be called is refused by every registry alike.
theorem exists_register_eq_error {step : Value} (h : step.callable? = none) (name : Value) :
    ∃ fault, ∀ r : Registry, r.register name step = .error fault := by
  cases hplain : name.plainForm with
  | error unmet =>
      refine ⟨.unmet unmet, fun r => ?_⟩
      rw [register, h, hplain]
      rfl
  | ok text =>
      refine ⟨.type (.stepNotCallable text), fun r => ?_⟩
      rw [register, h, hplain]
      rfl

-- A call registers a step and makes it part of the registry, or fails and is no part of it.
theorem register_cases (r : Registry) (name step : Value) :
    (r.register name step = .ok (r.enter (name, step)) ∧
        (registers? (name, step)).isSome = true) ∨
      ∃ fault, r.register name step = .error fault ∧ r.enter (name, step) = r ∧
        registers? (name, step) = none := by
  cases hstep : step.callable? with
  | none =>
      obtain ⟨fault, hfault⟩ := exists_register_eq_error hstep name
      exact .inr ⟨fault, hfault r, by rw [enter, hfault], by rw [registers?, hstep]⟩
  | some c =>
      cases hname : nameOf name with
      | error fault =>
          have hfault : r.register name step = .error fault := by
            rw [register, hstep, hname]
            rfl
          exact .inr ⟨fault, hfault, by rw [enter, hfault], by rw [registers?, hstep, hname]⟩
      | ok normal =>
          have hentered : r.register name step = .ok ⟨store normal c r.steps⟩ := by
            rw [register, hstep, hname]
            rfl
          exact .inl ⟨by rw [enter, hentered], by rw [registers?, hstep, hname]; rfl⟩

-- Filling a registry from entries is calling it with each of them, and stops at the first call
-- that fails.
theorem registerEntries_ok_iff (self : Value) (r : Registry) (entries : Entries) (store : Store) :
    (registerEntries self r entries store).outcome = .ok () ↔
      ∀ entry ∈ entries, (registers? entry).isSome = true := by
  induction entries generalizing r store with
  | nil => simp [registerEntries]
  | cons entry entries ih =>
      obtain ⟨name, step⟩ := entry
      rw [registerEntries, List.forall_mem_cons]
      obtain ⟨hentered, hsome⟩ | ⟨fault, hfault, -, hnone⟩ := register_cases r name step
      · rw [hentered]
        exact (ih (r.enter (name, step)) (store.keep self _)).trans (by simp [hsome])
      · rw [hfault, hnone]
        constructor
        · rintro h
          cases h
        · rintro ⟨h, -⟩
          cases h

theorem holds_registerEntries {self : Value} {r : Registry} {entries : Entries} {store : Store}
    (hr : r.Holds self store)
    (h : (registerEntries self r entries store).outcome = .ok ()) :
    (entries.foldl enter r).Holds self (registerEntries self r entries store).store := by
  induction entries generalizing r store with
  | nil => exact hr
  | cons entry entries ih =>
      obtain ⟨name, step⟩ := entry
      rw [registerEntries] at h ⊢
      obtain ⟨hentered, -⟩ | ⟨fault, hfault, -, -⟩ := register_cases r name step
      · rw [hentered] at h ⊢
        exact ih (holds_keep _ self store) h
      · rw [hfault] at h
        cases h

variable {r : Registry} {serial : Nat} {store : Store}

-- A registry knows how names are compared, be it by an attribute that it was given.
theorem exists_getAttribute_normalize (serial : Nat) (store : Store) :
    ∃ v, (Value.registry serial).getAttribute "_normalize" store = ⟨.ok v, [], store⟩ := by
  have hown : (Value.registry serial).attribute? "_normalize" =
      some (.callable (.native .normalForm)) := rfl
  have hgiven : (Run.given? (.registry serial) "_normalize" store).outcome =
      .ok (store.given? (.registry serial) "_normalize") := rfl
  have hget : (Value.registry serial).getAttribute "_normalize" =
      (Value.registry serial).givenOrOwn "_normalize" := rfl
  rw [hget, Value.givenOrOwn, hown, Run.bind_of_ok hgiven]
  cases store.given? (.registry serial) "_normalize" with
  | none => exact ⟨_, rfl⟩
  | some found => exact ⟨found, rfl⟩

theorem contents_of_holds (h : r.Holds (.registry serial) store) :
    Native.contents (.registry serial) store = ⟨.ok r, [], store⟩ := by
  have hheld : (Run.registry? (.registry serial) store).outcome = .ok (some r) :=
    congrArg Except.ok h
  rw [Native.contents, Run.bind_of_ok hheld]
  rfl

theorem named_of_holds (h : r.Holds (.registry serial) store) :
    Native.named (.registry serial) store = ⟨.ok r, [], store⟩ := by
  obtain ⟨v, hv⟩ := exists_getAttribute_normalize serial store
  have hcontents := contents_of_holds h
  rw [Native.named, Run.bind_of_ok (congrArg Reached.outcome hcontents), hcontents,
    Run.bind_of_ok (congrArg Reached.outcome hv), hv]
  rfl

theorem call_register (world : World) (host : Host) (self name step : Value) :
    Native.call world host .register [self, name, step] = Native.registerIn self name step := rfl

-- Registering a step keeps what the registry then holds, or fails and keeps the store.
theorem registerIn_of_holds (h : r.Holds (.registry serial) store) (name step : Value) :
    Native.registerIn (.registry serial) name step store =
      match r.register name step with
      | .ok entered => ⟨.ok .none, [], store.keep (.registry serial) entered⟩
      | .error fault => ⟨.error fault, [], store⟩ := by
  rw [Native.registerIn]
  cases hstep : step.callable? with
  | none =>
      obtain ⟨fault, hfault⟩ := exists_register_eq_error hstep name
      simp only [hfault]
      rfl
  | some c =>
      have hnamed := named_of_holds h
      simp only
      rw [Run.bind_of_ok (congrArg Reached.outcome hnamed), hnamed]
      cases r.register name step <;> rfl

theorem call_resolve (world : World) (host : Host) (self name : Value) :
    Native.call world host .resolve [self, name] = (do
      return ((← (← Native.named self).resolve name).map Value.callable).getD .none) := rfl

theorem call_supportedNames (world : World) (host : Host) (self : Value) :
    Native.call world host .supportedNames [self] = (do
      return .tuple ((← Native.contents self).supportedNames.map .str)) := rfl

theorem resolve_of_holds (world : World) (host : Host) (h : r.Holds (.registry serial) store)
    (name : Value) :
    Native.call world host .resolve [.registry serial, name] store =
      ⟨(r.resolve name).map fun found? => (found?.map Value.callable).getD .none, [], store⟩ := by
  have hnamed := named_of_holds h
  rw [call_resolve, Run.bind_of_ok (congrArg Reached.outcome hnamed), hnamed]
  cases r.resolve name <;> rfl

theorem supportedNames_of_holds (world : World) (host : Host)
    (h : r.Holds (.registry serial) store) :
    Native.call world host .supportedNames [.registry serial] store =
      ⟨.ok (.tuple (r.supportedNames.map .str)), [], store⟩ := by
  have hcontents := contents_of_holds h
  rw [call_supportedNames, Run.bind_of_ok (congrArg Reached.outcome hcontents), hcontents]
  rfl

theorem holds_registerIn (h : r.Holds (.registry serial) store) (name step : Value) :
    (r.enter (name, step)).Holds (.registry serial)
      (Native.registerIn (.registry serial) name step store).store := by
  rw [registerIn_of_holds h]
  obtain ⟨hentered, -⟩ | ⟨fault, hfault, hsame, -⟩ := register_cases r name step
  · rw [hentered]
    exact holds_keep _ _ store
  · rw [hfault, hsame]
    exact h

-- Calls that register steps, one after the other. One that fails is passed over.
def registerEach (world : World) (host : Host) (self : Value) : List (Value × Value) → Run Unit
  | [] => return ()
  | (name, step) :: calls => do
    let _ ← Run.attempt (Native.call world host .register [self, name, step])
    registerEach world host self calls

theorem holds_registerEach (world : World) (host : Host) (h : r.Holds (.registry serial) store)
    (calls : List (Value × Value)) :
    (calls.foldl enter r).Holds (.registry serial)
      (registerEach world host (.registry serial) calls store).store := by
  induction calls generalizing r store with
  | nil => exact h
  | cons call calls ih =>
      obtain ⟨name, step⟩ := call
      have hattempt : (Run.attempt (Native.call world host .register [.registry serial, name, step])
          store).outcome = .ok (Native.registerIn (.registry serial) name step store).outcome := rfl
      rw [registerEach, Run.bind_of_ok hattempt]
      exact ih (holds_registerIn h name step)

-- What a registry is made from: nothing, or a mapping of steps by their names.
inductive MadeFrom : List Value → Entries → Prop
  | nothing : MadeFrom [] []
  | none : MadeFrom [.none] []
  | mapping {steps : Value} {entries : Entries} (h : steps.entries? = some entries) :
    MadeFrom [steps] entries

theorem truthy_of_entries? {steps : Value} {entries : Entries} (h : steps.entries? = some entries) :
    steps.truthy = !entries.isEmpty := by
  cases steps with
  | dict _ => rw [← Option.some.inj h, Value.truthy]
  | view _ _ => rw [← Option.some.inj h, Value.truthy]
  | _ => cases h

theorem make_of_madeFrom (world : World) (host : Host) {args : List Value} {entries : Entries}
    (h : MadeFrom args entries) (store : Store) :
    Native.call world host (.type .registry) args store =
      (do
        registerEntries (.registry store.next) .empty entries
        return .registry store.next : Run Value)
        ({ store with next := store.next + 1 }.keep (.registry store.next) .empty) := by
  cases h with
  | nothing => rfl
  | none => rfl
  | @mapping steps entries h =>
      have hcall : Native.call world host (.type .registry) [steps] = make steps := rfl
      have hfresh : (Run.identified Value.registry store).outcome =
          .ok (.registry store.next) := rfl
      have hfill : fill (.registry store.next) steps = (do
          Run.keep (.registry store.next) .empty
          registerEntries (.registry store.next) .empty entries) := by
        rw [fill, truthy_of_entries? h, h]
        cases entries <;> rfl
      rw [hcall, make, Run.bind_of_ok hfresh, hfill, Run.bind_assoc]
      rfl

theorem made_ok_iff (world : World) (host : Host) {args : List Value} {entries : Entries}
    (hargs : MadeFrom args entries) (store : Store) (self : Value) :
    (Native.call world host (.type .registry) args store).outcome = .ok self ↔
      self = .registry store.next ∧ ∀ entry ∈ entries, (registers? entry).isSome = true := by
  rw [make_of_madeFrom world host hargs, ← registerEntries_ok_iff (.registry store.next) .empty,
    Run.outcome_bind_eq_ok_iff]
  constructor
  · rintro ⟨_, hfilled, hself⟩
    exact ⟨(Except.ok.inj hself).symm, hfilled⟩
  · rintro ⟨rfl, hfilled⟩
    exact ⟨_, hfilled, rfl⟩

theorem holds_made (world : World) (host : Host) {args : List Value} {entries : Entries}
    (hargs : MadeFrom args entries) {store : Store} {self : Value}
    (h : (Native.call world host (.type .registry) args store).outcome = .ok self) :
    (ofCalls entries).Holds self (Native.call world host (.type .registry) args store).store := by
  rw [make_of_madeFrom world host hargs] at h ⊢
  obtain ⟨_, hfilled, hself⟩ := Run.outcome_bind_eq_ok_iff.mp h
  obtain rfl := Except.ok.inj hself
  rw [Run.bind_of_ok hfilled]
  exact holds_registerEntries (holds_keep .empty _ _) hfilled

-- How a registry answers to whoever has made certain calls on it.
structure Recalls (world : World) (host : Host) (v : Value) (calls : List (Value × Value))
    (store : Store) : Prop where
  refuses : ∀ name text step, name.plainForm = .ok text → step.callable? = none →
    Native.call world host .register [v, name, step] store =
      ⟨.error (.type (.stepNotCallable text)), [], store⟩
  accepts : ∀ name text step, name.plainForm = .ok text → step.callable?.isSome = true →
    (Native.call world host .register [v, name, step] store).outcome = .ok .none
  nameless : ∀ name unmet, name.plainForm = .error unmet →
    (∀ step, Native.call world host .register [v, name, step] store =
      ⟨.error (.unmet unmet), [], store⟩) ∧
    Native.call world host .resolve [v, name] store = ⟨.error (.unmet unmet), [], store⟩
  resolves : ∀ name text, name.plainForm = .ok text →
    Native.call world host .resolve [v, name] store =
      ⟨.ok (((latest? calls (normalForm text)).map Value.callable).getD .none), [], store⟩
  lists : Native.call world host .supportedNames [v] store =
    ⟨.ok (.tuple ((firstNames calls).map .str)), [], store⟩
  once : (firstNames calls).Nodup
  listed : ∀ name ∈ firstNames calls, normalForm name = name ∧
    ∃ (r : Registry) (step : Callable), r.Holds v store ∧ r.find? name = some step ∧
      Native.call world host .resolve [v, .str name] store = ⟨.ok (.callable step), [], store⟩

theorem recalls_of_holds (world : World) (host : Host) {calls : List (Value × Value)}
    (h : (ofCalls calls).Holds (.registry serial) store) :
    Recalls world host (.registry serial) calls store where
  refuses name text step hname hstep := by
    rw [call_register, registerIn_of_holds h, register, hstep, hname]
    rfl
  accepts name text step hname hstep := by
    obtain ⟨c, hc⟩ := Option.isSome_iff_exists.mp hstep
    rw [call_register, registerIn_of_holds h, register, hc, nameOf_of_plainForm hname]
    rfl
  nameless name unmet hname := by
    constructor
    · intro step
      rw [call_register, registerIn_of_holds h, register, hname]
      cases step.callable? with
      | none => rfl
      | some c =>
          rw [nameOf_of_plainForm_error hname]
          rfl
    · rw [resolve_of_holds world host h, resolve, nameOf_of_plainForm_error hname]
      rfl
  resolves name text hname := by
    rw [resolve_of_holds world host h, resolve, nameOf_of_plainForm hname, ← find?_ofCalls]
    rfl
  lists := by
    rw [supportedNames_of_holds world host h, supportedNames_ofCalls]
  once := nodup_firstNames calls
  listed name hname := by
    obtain ⟨step, hstep⟩ := exists_latest?_of_mem_firstNames hname
    have hnormal := normalForm_of_mem_firstNames hname
    refine ⟨hnormal, ofCalls calls, step, h, by rw [find?_ofCalls, hstep], ?_⟩
    rw [resolve_of_holds world host h, resolve_str, hnormal, find?_ofCalls, hstep]
    rfl

-- A registry can be made from any steps under names with a text, and has no other steps then. It
-- answers by all calls that are made on it.
theorem made_recalls (world : World) (host : Host) {args : List Value} {entries : Entries}
    (hargs : MadeFrom args entries) (calls : List (Value × Value)) (store : Store) :
    let made := Native.call world host (.type .registry) args store
    ((∃ self, made.outcome = .ok self) ↔
      ∀ entry ∈ entries, (registers? entry).isSome = true) ∧
    ∀ self, made.outcome = .ok self →
      Recalls world host self (entries ++ calls)
        (registerEach world host self calls made.store).store := by
  intro made
  constructor
  · constructor
    · rintro ⟨self, hself⟩
      exact ((made_ok_iff world host hargs store self).mp hself).2
    · intro hentries
      exact ⟨_, (made_ok_iff world host hargs store _).mpr ⟨rfl, hentries⟩⟩
  · intro self hself
    obtain ⟨rfl, -⟩ := (made_ok_iff world host hargs store self).mp hself
    refine recalls_of_holds world host ?_
    rw [ofCalls, List.foldl_append]
    exact holds_registerEach world host (holds_made world host hargs hself) calls

-- Three names of one form, of which the second is refused, and a truth value for a name.
theorem made_recalls_colliding :
    let steps : Value := .dict [(.str " Beta", .callable BuiltIn.nop)]
    let calls : List (Value × Value) :=
      [(.str "beta", .int 5), (.bool true, .callable BuiltIn.nop),
        (.str "BETA ", .callable BuiltIn.addOne)]
    let made := Native.call World.bare World.bare.host (.type .registry) [steps] .start
    MadeFrom [steps] [(.str " Beta", .callable BuiltIn.nop)] ∧
    ∃ self, made.outcome = .ok self ∧
      let store := (registerEach World.bare World.bare.host self calls made.store).store
      Native.call World.bare World.bare.host .resolve [self, .str "bEtA"] store =
        ⟨.ok (.callable BuiltIn.addOne), [], store⟩ ∧
      Native.call World.bare World.bare.host .supportedNames [self] store =
        ⟨.ok (.tuple [.str "beta", .str "true"]), [], store⟩ := by
  intro steps calls made
  have hargs : MadeFrom [steps] [(.str " Beta", .callable BuiltIn.nop)] := .mapping rfl
  obtain ⟨hiff, hrecalls⟩ := made_recalls World.bare World.bare.host hargs calls .start
  obtain ⟨self, hself⟩ := hiff.mpr (by decide +kernel)
  refine ⟨hargs, self, hself, ?_, ?_⟩
  · rw [(hrecalls self hself).resolves (.str "bEtA") "bEtA" rfl]
    rfl
  · rw [(hrecalls self hself).lists]
    rfl

theorem plainForm_int_of_le {n : Int} (h : longNumber ≤ n.natAbs) :
    (Value.int n).plainForm = .error .longNumber := by
  rw [Value.plainForm, Value.hasLongNumber, decide_eq_true h]
  rfl

-- A name that is too long to be shown is refused before it is found that the step cannot be called.
theorem register_distinguished :
    let made := Native.call World.bare World.bare.host (.type .registry) [] .start
    ∃ self, made.outcome = .ok self ∧
      ∃ fault, (Native.call World.bare World.bare.host .register [self, .int longNumber, .int 5]
        made.store).outcome = .error fault ∧ fault.category = .value ∧ fault.category ≠ .type := by
  intro made
  have hlong : (Value.int longNumber).plainForm = .error .longNumber :=
    plainForm_int_of_le (Int.natAbs_natCast longNumber).ge
  have hself := (made_ok_iff World.bare World.bare.host .nothing .start (.registry 100)).mpr
    ⟨rfl, List.forall_mem_nil _⟩
  have hheld := holds_made World.bare World.bare.host .nothing hself
  refine ⟨_, hself, .unmet .longNumber, ?_, rfl, fun h => nomatch h⟩
  rw [((recalls_of_holds World.bare World.bare.host hheld).nameless _ _ hlong).1]

end Registry

end StepFlow
