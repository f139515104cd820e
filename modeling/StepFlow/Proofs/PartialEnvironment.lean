import StepFlow.Bindings
import StepFlow.Proofs.DeclarationGrammar
import StepFlow.Proofs.Items
import StepFlow.Proofs.Mapping

namespace StepFlow.Bindings

open StepFlow.Text

variable {entries : Entries} {items names : List Value} {pairs : List (Name × Value)} {v : Value}
  {index : Nat} {fault : Fault} {store : Store}

-- A binding: a list or a tuple of a name that can be bound and a value.
def IsBinding (v : Value) (binding : Name × Value) : Prop :=
  v.items? = some [.ofName binding.1, binding.2] ∧ isBindable binding.1.word = true

-- An item among bindings that is none.
def IsStray (v : Value) : Prop :=
  ∀ binding, ¬ IsBinding v binding

-- What is taken for bindings: the pairs of a mapping, or all that another value yields.
def bindingsOf (v : Value) (store : Store) : List Value :=
  match v.entries? with
  | some entries => entries.map fun (key, value) => .tuple [key, value]
  | none => Run.yielded v store

-- Why an item is refused: it is no pair, or its first half is no name. Both are said with the index
-- of the item and with how it is shown. Where it cannot be shown that is said instead, which only
-- counts as an error of the declaration if it is about a name.
inductive Refusal (index : Nat) (v : Value) : Fault → Prop
  | atIndex {cause : DeclarationFault} {rest : String} :
      cause.message = s!"bindings[{index}]" ++ rest →
      Refusal index v (.declaration cause .none)
  | unshowableName {key value : Value} : v.items? = some [key, value] → key.hasLongNumber = true →
      Refusal index v (.declaration (.bindingName .longNumber) .none)
  | unshowableItem : (∀ key value, v.items? ≠ some [key, value]) → v.hasLongNumber = true →
      Refusal index v (.unmet .longNumber)

-- A value that is the name of something in a scope.
def InScope (entries : Entries) (v : Value) : Prop :=
  (∃ name, v = .ofName name ∧ isBindable name.word = true) ∧ entries.contains v = true

-- The binding that a name has in a scope.
def bindingIn (entries : Entries) (v : Value) : Value :=
  .tuple [v, (entries.find? v).getD .none]

-- Why a name cannot be picked out of a scope: it cannot be bound, or it is not there.
inductive Unpicked (entries : Entries) (v : Value) : Fault → Prop
  | notBindable {cause : Unmet} : (∀ name, v = .ofName name → isBindable name.word = false) →
      Unpicked entries v (.declaration (.bindingName cause) .none)
  | absent {name : Name} : v = .ofName name → isBindable name.word = true →
      entries.contains v = false → Unpicked entries v (.nameAbsent name.plain)

theorem name_eq_ok_iff (context : String) (n : Name) :
    name v context = .ok n ↔ v = .ofName n ∧ isBindable n.word = true := by
  rw [name, mapError_eq_ok_iff, Require.identifier_eq_ok_iff, Value.name?_eq_some_iff]

theorem pair_eq_ok_iff (binding : Name × Value) :
    pair index v = .ok binding ↔ IsBinding v binding := by
  obtain ⟨n, value⟩ := binding
  rw [pair]
  split
  next key value' hitems =>
    simp only [bind_eq_ok_iff, name_eq_ok_iff, IsBinding, hitems]
    constructor
    · rintro ⟨_, ⟨rfl, hbindable⟩, ⟨⟩⟩
      exact ⟨rfl, hbindable⟩
    · rintro ⟨⟨⟩, hbindable⟩
      exact ⟨n, ⟨rfl, hbindable⟩, rfl⟩
  next hnot =>
    simp only [bind_eq_ok_iff, reduceCtorEq, and_false, exists_false, false_iff]
    exact fun h => hnot _ _ h.1

theorem message_identifier (context shown : String) :
    (Unmet.identifier context shown).message =
      context ++ (" must be a valid identifier, got " ++ shown ++ ".") := by
  change context ++ " must be a valid identifier, got " ++ shown ++ "." = _
  simp only [String.append_assoc]

theorem message_text (context shown : String) :
    (Unmet.text context shown).message =
      context ++ (" must be a string name, got " ++ shown ++ ".") := by
  change context ++ " must be a string name, got " ++ shown ++ "." = _
  simp only [String.append_assoc]

theorem message_binding (index : Nat) (shown : String) :
    (DeclarationFault.binding index shown).message =
      s!"bindings[{index}]" ++ (" must be a (name, value) pair, got " ++ shown ++ ".") := by
  change "bindings[" ++ toString index ++ ("]" ++ " must be a (name, value) pair, got ") ++ shown ++
    "." = _
  simp only [toString, String.append_assoc]

-- What is no name is refused with the context it stands in, unless it cannot be shown.
theorem identifier_eq_error {context : String} {cause : Unmet}
    (h : Require.identifier v context = .error cause) :
    (∃ rest, cause.message = context ++ rest) ∨ cause = .longNumber ∧ v.hasLongNumber = true := by
  rw [Require.identifier] at h
  split at h
  next n _ =>
    split at h
    · cases h
    · cases h
      exact .inl ⟨_, message_identifier context n.quoted⟩
  next _ =>
    rw [Value.quotedForm] at h
    split at h
    next hlong =>
      cases h
      exact .inr ⟨rfl, hlong⟩
    next _ =>
      cases h
      exact .inl ⟨_, message_text context v.shown⟩

theorem refusal_of_pair (h : pair index v = .error fault) : Refusal index v fault := by
  rw [pair] at h
  split at h
  next key value hitems =>
    obtain hname | ⟨_, -, hok⟩ := bind_eq_error_iff.mp h
    · obtain ⟨cause, hcause, rfl⟩ := mapError_eq_error_iff.mp hname
      rcases identifier_eq_error hcause with ⟨rest, hmessage⟩ | ⟨rfl, hlong⟩
      · exact .atIndex hmessage
      · exact .unshowableName hitems hlong
    · cases hok
  next hnot =>
    rw [Declaration.met_quotedForm] at h
    split at h
    next hlong =>
      cases h
      exact .unshowableItem hnot hlong
    next _ =>
      cases h
      exact .atIndex (message_binding index v.shown)

-- Adding bindings stores them one after the other.
theorem foldlM_add_of_forall₂ (h : List.Forall₂ IsBinding items pairs) (made : Partial) :
    items.foldlM Partial.add made =
      .ok ⟨made.count + items.length,
        made.entries.merge (pairs.map fun (key, value) => (.ofName key, value))⟩ := by
  induction h generalizing made with
  | nil => rfl
  | @cons v binding items pairs hbinding _ ih =>
      have hadd : made.add v =
          .ok ⟨made.count + 1, made.entries.insert (.ofName binding.1) binding.2⟩ := by
        rw [Partial.add, (pair_eq_ok_iff binding).mpr hbinding]
        rfl
      rw [List.foldlM_cons, hadd]
      refine (ih _).trans ?_
      rw [List.length_cons, Nat.add_assoc, Nat.add_comm 1]
      rfl

-- It ends at the first item that is no binding.
theorem foldlM_add_of_isFirst (h : IsFirst IsStray items index v) (made : Partial) :
    ∃ fault, items.foldlM Partial.add made = .error fault ∧
      Refusal (made.count + index) v fault := by
  -- What is added only depends on the items before, which all are bindings.
  induction h generalizing made with
  | @here v items hnot =>
      cases hpair : pair made.count v with
      | ok binding => exact absurd ((pair_eq_ok_iff binding).mp hpair) (hnot binding)
      | error fault =>
          refine ⟨fault, ?_, refusal_of_pair hpair⟩
          rw [List.foldlM_cons, Partial.add, hpair]
          rfl
  | @later v w items index hbinding _ ih =>
      obtain ⟨binding, hbinding⟩ := not_forall_not.mp hbinding
      obtain ⟨fault, hfold, hrefusal⟩ :=
        ih ⟨made.count + 1, made.entries.insert (.ofName binding.1) binding.2⟩
      refine ⟨fault, ?_, ?_⟩
      · rw [List.foldlM_cons, Partial.add, (pair_eq_ok_iff binding).mpr hbinding]
        exact hfold
      · rw [Nat.add_comm index, ← Nat.add_assoc]
        exact hrefusal

theorem isSource_of_isIterable (hiterable : Run.isIterable v = true) (htext : v.text? = none)
    (hbytes : ∀ bs, v ≠ .bytes bs) : isSource v = true := by
  cases v with
  | bytes bs => exact absurd rfl (hbytes bs)
  | _ => simp [isSource, htext, hiterable]

theorem outcome_foldItems_add {source : Value} (h : Run.isIterable source = true) (store : Store) :
    let built := (Run.foldItems source (fun made v => Run.lift (Partial.add made v)) ⟨0, []⟩ >>=
      fun made => pure (.dict made.entries) : Run Value) store
    built.outcome = ((Run.yielded source store).foldlM Partial.add ⟨0, []⟩).map (.dict ·.entries) ∧
      built.events = [] ∧ (source.iterate?.isSome = true → built.store = store) := by
  obtain ⟨houtcome, hevents, hstore⟩ := Run.foldItems_lift Partial.add h ⟨0, []⟩ store
  cases hmade : (Run.yielded source store).foldlM Partial.add ⟨0, []⟩ with
  | error fault =>
      rw [hmade] at houtcome
      rw [Run.bind_of_error houtcome]
      exact ⟨rfl, hevents, hstore⟩
  | ok made =>
      rw [hmade] at houtcome
      rw [Run.bind_of_ok houtcome, hevents]
      exact ⟨rfl, rfl, hstore⟩

-- Building is folding over what is taken for bindings. Only a generator is used up by it.
theorem outcome_partialEnv (hsource : isSource v = true) (hiterable : Run.isIterable v = true)
    (store : Store) :
    let built := partialEnv v store
    built.outcome = ((bindingsOf v store).foldlM Partial.add ⟨0, []⟩).map (.dict ·.entries) ∧
      built.events = [] ∧ (v.iterate?.isSome = true → built.store = store) := by
  simp only [partialEnv, hsource, Bool.not_true, Bool.false_eq_true, if_false, bindingsOf]
  cases v.entries? with
  | none => exact outcome_foldItems_add hiterable store
  | some entries =>
      obtain ⟨houtcome, hevents, hstore⟩ := @outcome_foldItems_add (.list _) rfl store
      exact ⟨houtcome, hevents, fun _ => hstore rfl⟩

-- Bindings are built, and the first item that is none is refused.
theorem partialEnv_of_forall₂ (hsource : isSource v = true) (hiterable : Run.isIterable v = true)
    (h : List.Forall₂ IsBinding (bindingsOf v store) pairs) :
    (partialEnv v store).outcome = .ok (keywordEnv pairs) := by
  rw [(outcome_partialEnv hsource hiterable store).1, foldlM_add_of_forall₂ h]
  rfl

-- Nothing but a generator is changed by it.
theorem partialEnv_eq_of_forall₂ (hsource : isSource v = true) (hiterable : Run.isIterable v = true)
    (hkept : v.iterate?.isSome = true)
    (h : List.Forall₂ IsBinding (bindingsOf v store) pairs) :
    partialEnv v store = ⟨.ok (keywordEnv pairs), [], store⟩ := by
  have houtcome := partialEnv_of_forall₂ hsource hiterable h
  obtain ⟨-, hevents, hstore⟩ := outcome_partialEnv hsource hiterable store
  rw [← houtcome, ← hevents]
  exact congrArg (Reached.mk _ _) (hstore hkept)

theorem partialEnv_of_isFirst (hsource : isSource v = true) (hiterable : Run.isIterable v = true)
    {item : Value} (h : IsFirst IsStray (bindingsOf v store) index item) :
    ∃ fault, (partialEnv v store).outcome = .error fault ∧ Refusal index item fault := by
  obtain ⟨fault, hfold, hrefusal⟩ := foldlM_add_of_isFirst h ⟨0, []⟩
  rw [Nat.zero_add] at hrefusal
  refine ⟨fault, ?_, hrefusal⟩
  rw [(outcome_partialEnv hsource hiterable store).1, hfold]
  rfl

theorem exists_partialEnv_iff (hsource : isSource v = true) (hiterable : Run.isIterable v = true)
    (store : Store) :
    (∃ made, (partialEnv v store).outcome = .ok made) ↔
      ∀ item ∈ bindingsOf v store, ∃ binding, IsBinding item binding := by
  constructor
  · rintro ⟨made, hmade⟩
    rcases forall_not_or_isFirst IsStray (bindingsOf v store) with hall | ⟨index, item, hfirst⟩
    · simpa only [IsStray, not_forall, not_not] using hall
    · obtain ⟨fault, hfault, -⟩ := partialEnv_of_isFirst hsource hiterable hfirst
      exact nomatch hmade.symm.trans hfault
  · intro hall
    obtain ⟨pairs, hpairs⟩ := exists_forall₂_iff.mpr hall
    exact ⟨_, partialEnv_of_forall₂ hsource hiterable hpairs⟩

theorem refusal_of_partialEnv (hsource : isSource v = true) (hiterable : Run.isIterable v = true)
    (h : (partialEnv v store).outcome = .error fault) :
    ∃ index item, IsFirst IsStray (bindingsOf v store) index item ∧ Refusal index item fault := by
  rcases forall_not_or_isFirst IsStray (bindingsOf v store) with hall | ⟨index, item, hfirst⟩
  · simp only [IsStray, not_forall, not_not] at hall
    obtain ⟨made, hmade⟩ := (exists_partialEnv_iff hsource hiterable store).mpr hall
    exact nomatch hmade.symm.trans h
  · obtain ⟨other, hother, hrefusal⟩ := partialEnv_of_isFirst hsource hiterable hfirst
    cases h.symm.trans hother
    exact ⟨index, item, hfirst, hrefusal⟩

-- An environment is made up of one binding after the other.
theorem environment_eq_union (pairs : List (Name × Value)) :
    environment pairs = Entries.union (pairs.map fun (key, value) => [(.ofName key, value)]) := by
  rw [environment, Entries.ofPairs, Entries.merge, Entries.union, List.foldl_map, List.foldl_map]
  rfl

theorem isUnion_environment (pairs : List (Name × Value)) :
    (environment pairs).IsUnion (pairs.map fun (key, value) => [(.ofName key, value)]) := by
  rw [environment_eq_union]
  refine Entries.isUnion_union ?_
  rw [List.forall_mem_map]
  exact fun _ _ => List.pairwise_singleton ..

theorem hashed_ofName (n : Name) : (Value.ofName n).hashed = .ok () := by
  cases n <;> rfl

theorem isIn_ofName {scope : Value} (h : scope.entries? = some entries) (n : Name) :
    Run.isIn (.ofName n) scope = pure (entries.contains (.ofName n)) := by
  cases scope with
  | dict found | view _ found =>
      cases h
      simp only [Run.isIn, Value.isIn, hashed_ofName]
      rfl
  | _ => cases h

theorem item_ofName {scope value : Value} {n : Name} (h : scope.entries? = some entries)
    (hvalue : entries.find? (.ofName n) = some value) : scope.item (.ofName n) = .ok value := by
  cases scope with
  | dict found | view _ found =>
      cases h
      simp only [Value.item, hashed_ofName, hvalue]
      rfl
  | _ => cases h

-- What is picked out of the entries of a mapping.
def picked (entries : Entries) (v : Value) : Except Fault (Name × Value) := do
  let key ← name v "env name"
  match entries.find? (.ofName key) with
  | some value => return (key, value)
  | none => .error (.nameAbsent key.plain)

theorem pick_eq_lift {scope : Value} (h : scope.entries? = some entries) (v : Value) :
    pick scope v = Run.lift (picked entries v) := by
  rw [pick, picked]
  cases name v "env name" with
  | error fault => rfl
  | ok key =>
      change (Run.isIn (.ofName key) scope >>= fun found => if found = true
        then Run.lift (scope.item (.ofName key)) >>= fun value => pure (key, value)
        else Run.fail (.nameAbsent key.plain)) =
          Run.lift (match entries.find? (.ofName key) with
            | some value => .ok (key, value)
            | none => .error (.nameAbsent key.plain))
      rw [isIn_ofName h, Run.pure_bind, Entries.contains]
      cases hfound : entries.find? (.ofName key) with
      | none => rfl
      | some value =>
          rw [item_ofName h hfound]
          rfl

theorem picked_eq_ok_iff (binding : Name × Value) :
    picked entries v = .ok binding ↔
      v = .ofName binding.1 ∧ isBindable binding.1.word = true ∧
        entries.find? v = some binding.2 := by
  obtain ⟨n, value⟩ := binding
  rw [picked, bind_eq_ok_iff]
  simp only [name_eq_ok_iff]
  constructor
  · rintro ⟨key, ⟨rfl, hbindable⟩, hfound⟩
    split at hfound
    next value hvalue =>
      cases hfound
      exact ⟨rfl, hbindable, hvalue⟩
    next => cases hfound
  · rintro ⟨rfl, hbindable, hvalue⟩
    refine ⟨n, ⟨rfl, hbindable⟩, ?_⟩
    rw [hvalue]
    rfl

theorem exists_picked_iff (entries : Entries) (v : Value) :
    (∃ binding, picked entries v = .ok binding) ↔ InScope entries v := by
  simp only [picked_eq_ok_iff, InScope, Entries.contains, Option.isSome_iff_exists, Prod.exists]
  constructor
  · rintro ⟨n, value, rfl, hbindable, hvalue⟩
    exact ⟨⟨n, rfl, hbindable⟩, value, hvalue⟩
  · rintro ⟨⟨n, rfl, hbindable⟩, value, hvalue⟩
    exact ⟨n, value, rfl, hbindable, hvalue⟩

theorem unpicked_of_picked (h : picked entries v = .error fault) : Unpicked entries v fault := by
  rcases bind_eq_error_iff.mp h with hname | ⟨key, hkey, hfound⟩
  · have hnot : ∀ n, v = .ofName n → isBindable n.word = false := fun n hn =>
      Bool.eq_false_iff.mpr fun hbindable =>
        nomatch hname.symm.trans ((name_eq_ok_iff "env name" n).mpr ⟨hn, hbindable⟩)
    obtain ⟨cause, -, rfl⟩ := mapError_eq_error_iff.mp hname
    exact .notBindable hnot
  · obtain ⟨rfl, hbindable⟩ := (name_eq_ok_iff "env name" key).mp hkey
    split at hfound
    next => cases hfound
    next hnone =>
      cases hfound
      exact .absent rfl hbindable ((Entries.find?_eq_none_iff entries _).mp hnone)

-- Picking names out of a mapping only reads it.
theorem scopeEnv_eq_lift {scope : Value} (h : scope.entries? = some entries) (names : List Value) :
    scopeEnv scope names = Run.lift ((names.mapM (picked entries)).map keywordEnv) := by
  have hpick : pick scope = fun v => Run.lift (picked entries v) := funext (pick_eq_lift h)
  rw [scopeEnv, hpick, Run.mapM_lift]
  cases names.mapM (picked entries) <;> rfl

-- The name that is picked out of a scope and its value are the binding that it has there.
theorem isBinding_bindingIn {binding : Name × Value} (h : picked entries v = .ok binding) :
    IsBinding (bindingIn entries v) binding := by
  obtain ⟨rfl, hbindable, hvalue⟩ := (picked_eq_ok_iff binding).mp h
  refine ⟨?_, hbindable⟩
  rw [bindingIn, hvalue]
  rfl

-- Picking names that a scope has is building from the bindings that they have there.
theorem scopeEnv_eq_partialEnv {scope : Value} (h : scope.entries? = some entries)
    (hnames : ∀ v ∈ names, InScope entries v) :
    scopeEnv scope names store = partialEnv (.list (names.map (bindingIn entries))) store := by
  simp only [← exists_picked_iff] at hnames
  obtain ⟨pairs, hpairs⟩ := exists_forall₂_iff.mpr hnames
  have hbindings : List.Forall₂ IsBinding (names.map (bindingIn entries)) pairs :=
    List.forall₂_map_left_iff.mpr (hpairs.imp fun _ _ => isBinding_bindingIn)
  have hbuilt : partialEnv (.list (names.map (bindingIn entries))) store =
      ⟨.ok (keywordEnv pairs), [], store⟩ := partialEnv_eq_of_forall₂ rfl rfl rfl hbindings
  rw [scopeEnv_eq_lift h, mapM_eq_ok_iff.mpr hpairs, hbuilt]
  rfl

theorem exists_scopeEnv_iff {scope : Value} (h : scope.entries? = some entries)
    (names : List Value) (store : Store) :
    (∃ made, (scopeEnv scope names store).outcome = .ok made) ↔ ∀ v ∈ names, InScope entries v := by
  simp only [scopeEnv_eq_lift h, Run.lift, map_eq_ok_iff, mapM_eq_ok_iff, ← exists_picked_iff]
  rw [← exists_forall₂_iff]
  constructor
  · rintro ⟨_, pairs, hpairs, -⟩
    exact ⟨pairs, hpairs⟩
  · rintro ⟨pairs, hpairs⟩
    exact ⟨_, pairs, hpairs, rfl⟩

theorem unpicked_of_scopeEnv {scope : Value} (h : scope.entries? = some entries)
    (hfault : (scopeEnv scope names store).outcome = .error fault) :
    ∃ index v, IsFirst (fun v => ¬ InScope entries v) names index v ∧ Unpicked entries v fault := by
  rw [scopeEnv_eq_lift h] at hfault
  obtain ⟨index, v, hfirst, hv⟩ := isFirst_of_mapM (map_eq_error_iff.mp hfault)
  simp only [← not_exists, exists_picked_iff] at hfirst
  exact ⟨index, v, hfirst, unpicked_of_picked hv⟩

-- Names that are given as keywords are built from as the mapping that they make up.
theorem partialEnv_of_keywords (hentries : v.entries? = some entries)
    (hkeys : entries = pairs.map fun (key, value) => (.ofName key, value))
    (hbindable : ∀ binding ∈ pairs, isBindable binding.1.word = true) :
    partialEnv v store = ⟨.ok (keywordEnv pairs), [], store⟩ := by
  have hbindings : List.Forall₂ IsBinding (bindingsOf v store) pairs := by
    rw [bindingsOf, hentries, hkeys]
    dsimp only
    rw [List.map_map, List.forall₂_map_left_iff, List.forall₂_same]
    exact fun binding hbinding => ⟨rfl, hbindable binding hbinding⟩
  cases v with
  | dict found | view _ found => exact partialEnv_eq_of_forall₂ rfl rfl rfl hbindings
  | _ => cases hentries

-- All builders of partial environments agree. Building succeeds exactly on bindings, whatever holds
-- them, and gives each name the value that came last, in the order in which the names came first;
-- what is refused is refused for the first item that is no binding. Picking names out of a mapping
-- succeeds exactly on names that it has, and then is building from their bindings; what is refused
-- is refused for the first other name. Keywords come to what is built from the mapping of them.
theorem builders_agree (store : Store) :
    (∀ bindings, Run.isIterable bindings = true → bindings.text? = none →
      (∀ bs, bindings ≠ .bytes bs) →
      let built := partialEnv bindings store
      let items := bindingsOf bindings store
      built.events = [] ∧
      ((∃ made, built.outcome = .ok made) ↔ ∀ v ∈ items, ∃ binding, IsBinding v binding) ∧
      (∀ pairs, List.Forall₂ IsBinding items pairs →
        built.outcome = .ok (.dict (environment pairs)) ∧
        (environment pairs).IsUnion (pairs.map fun (key, value) => [(.ofName key, value)])) ∧
      ∀ fault, built.outcome = .error fault → ∃ index v,
        IsFirst IsStray items index v ∧ Refusal index v fault) ∧
    (∀ scope entries names, scope.entries? = some entries →
      let made := scopeEnv scope names store
      made.events = [] ∧ made.store = store ∧
      ((∃ env, made.outcome = .ok env) ↔ ∀ v ∈ names, InScope entries v) ∧
      ((∀ v ∈ names, InScope entries v) →
        made = partialEnv (.list (names.map (bindingIn entries))) store) ∧
      ∀ fault, made.outcome = .error fault → ∃ index v,
        IsFirst (fun v => ¬ InScope entries v) names index v ∧ Unpicked entries v fault) ∧
    ∀ given entries pairs, given.entries? = some entries →
      entries = pairs.map (fun (key, value) => (.ofName key, value)) →
      (∀ binding ∈ pairs, isBindable binding.1.word = true) →
      partialEnv given store = ⟨.ok (keywordEnv pairs), [], store⟩ ∧
      (Entries.Distinct entries → keywordEnv pairs = .dict entries) := by
  refine ⟨?_, ?_, ?_⟩
  · intro bindings hiterable htext hbytes built items
    have hsource := isSource_of_isIterable hiterable htext hbytes
    refine ⟨(outcome_partialEnv hsource hiterable store).2.1,
      exists_partialEnv_iff hsource hiterable store, fun pairs hpairs => ?_,
      fun _ => refusal_of_partialEnv hsource hiterable⟩
    exact ⟨partialEnv_of_forall₂ hsource hiterable hpairs, isUnion_environment pairs⟩
  · intro scope entries names hscope made
    refine ⟨?_, ?_, exists_scopeEnv_iff hscope names store, scopeEnv_eq_partialEnv hscope,
      fun _ => unpicked_of_scopeEnv hscope⟩ <;>
    · simp only [made, scopeEnv_eq_lift hscope]
      rfl
  · intro given entries pairs hgiven hkeys hbindable
    refine ⟨partialEnv_of_keywords hgiven hkeys hbindable, fun hdistinct => ?_⟩
    rw [keywordEnv, environment, ← hkeys]
    exact congrArg Value.dict (Entries.union_singleton hdistinct)

theorem partialEnv_of_pair (h : pair 0 v = .error fault) (store : Store) :
    partialEnv (.list [v]) store = ⟨.error fault, [], store⟩ := by
  obtain ⟨houtcome, hevents, hstore⟩ := @outcome_partialEnv (.list [v]) rfl rfl store
  have hfold : ([v] : List Value).foldlM Partial.add ⟨0, []⟩ = .error fault := by
    rw [List.foldlM_cons, Partial.add, h]
    rfl
  have hfault : (partialEnv (.list [v]) store).outcome = .error fault := by
    rw [houtcome]
    exact congrArg (Except.map _) hfold
  rw [← hfault, ← hevents]
  exact congrArg (Reached.mk _ _) (hstore rfl)

-- An item that cannot be shown is refused with an error of another class, and a name that cannot
-- be shown without the index of its binding.
theorem partialEnv_unshowable :
    (∃ fault, partialEnv (.list [.int longNumber]) .start = ⟨.error fault, [], .start⟩ ∧
      fault.category = .value ∧ fault.category ≠ .declaration) ∧
    ∃ fault, partialEnv (.list [.tuple [.int longNumber, .int 1]]) .start =
        ⟨.error fault, [], .start⟩ ∧
      fault.category = .declaration ∧ ¬ ∃ rest, fault.message = "bindings[0]" ++ rest := by
  have hlong := Value.hasLongNumber_longNumber
  constructor
  · have hpair : pair 0 (.int longNumber) = .error (.unmet .longNumber) := by
      simp only [pair, Value.items?, Declaration.met_quotedForm, hlong]
      rfl
    exact ⟨_, partialEnv_of_pair hpair .start, rfl, by decide⟩
  · have hpair : pair 0 (.tuple [.int longNumber, .int 1]) =
        .error (.declaration (.bindingName .longNumber) .none) := by
      simp only [pair, Value.items?, name, Require.identifier, Value.name?, Value.quotedForm, hlong]
      rfl
    refine ⟨_, partialEnv_of_pair hpair .start, rfl, ?_⟩
    rintro ⟨rest, hmessage⟩
    change "Exceeds the limit (" ++ toString digitLimit ++
      " digits) for integer string conversion; " ++ _ = _ at hmessage
    have hhead := congrArg (·.toList.head?) hmessage
    simp [String.toList_append] at hhead

end StepFlow.Bindings
