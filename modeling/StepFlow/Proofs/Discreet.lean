import StepFlow.Proofs.Importing

namespace StepFlow

namespace Run

variable {α β : Type} {run : Run α}

-- A run without events that keeps what registries hold.
structure Discreet (run : Run α) : Prop where
  events : ∀ store, (run store).events = []
  registries : ∀ store, (run store).store.registries = store.registries

theorem Discreet.lift (outcome : Except Fault α) : (Run.lift outcome).Discreet :=
  ⟨fun _ => rfl, fun _ => rfl⟩

theorem Discreet.pure (a : α) : (Pure.pure a : Run α).Discreet :=
  .lift (.ok a)

theorem Discreet.fail (fault : Fault) : (Run.fail fault : Run α).Discreet :=
  .lift (.error fault)

theorem Discreet.attempt (h : run.Discreet) : (Run.attempt run).Discreet :=
  ⟨h.events, h.registries⟩

theorem Discreet.bind {next : α → Run β} (h : run.Discreet)
    (hnext : ∀ store a, (run store).outcome = .ok a → (next a).Discreet) :
    (run >>= next).Discreet := by
  constructor
  · intro store
    cases ha : (run store).outcome with
    | error fault =>
        rw [bind_of_error ha]
        exact h.events store
    | ok a =>
        rw [bind_of_ok ha, h.events store, (hnext store a ha).events, List.append_nil]
  · intro store
    cases ha : (run store).outcome with
    | error fault =>
        rw [bind_of_error ha]
        exact h.registries store
    | ok a =>
        rw [bind_of_ok ha]
        exact ((hnext store a ha).registries _).trans (h.registries store)

theorem Joins.discreet : Joins fun _ run => run.Discreet :=
  ⟨.pure, .bind⟩

-- Whatever is done with generators.
theorem discreet_left (serial : Nat) : (left serial).Discreet :=
  ⟨fun _ => rfl, fun _ => rfl⟩

theorem discreet_finish (serial : Nat) : (finish serial).Discreet :=
  ⟨fun _ => rfl, fun _ => rfl⟩

theorem discreet_next? (serial : Nat) : (next? serial).Discreet := by
  refine (discreet_left serial).bind fun _ items _ => ?_
  cases items with
  | nil => exact (discreet_finish serial).bind fun _ _ _ => .pure _
  | cons v vs =>
      have hleave : (leave serial vs).Discreet := ⟨fun _ => rfl, fun _ => rfl⟩
      exact hleave.bind fun _ _ _ => .pure _

theorem discreet_anyGenerator {test : Value → Run Bool} (htest : ∀ v, (test v).Discreet)
    (serial count : Nat) : (anyGenerator serial test count).Discreet := by
  induction count with
  | zero => exact (discreet_finish serial).bind fun _ _ _ => .pure _
  | succ count ih =>
      refine (discreet_next? serial).bind fun _ v? _ => ?_
      cases v? with
      | none => exact .pure _
      | some v =>
          refine (htest v).bind fun _ passed _ => ?_
          cases passed with
          | true => exact .pure _
          | false => exact ih

theorem discreet_anyM {test : Value → Run Bool} (htest : ∀ v, (test v).Discreet)
    (items : List Value) : (items.anyM test).Discreet := by
  induction items with
  | nil => exact .pure _
  | cons v vs ih =>
      refine (htest v).bind fun _ passed _ => ?_
      cases passed with
      | true => exact .pure _
      | false => exact ih

theorem discreet_anyItem {test : Value → Run Bool} (htest : ∀ v, (test v).Discreet)
    (v : Value) : (anyItem v test).Discreet := by
  rw [anyItem.eq_def]
  split
  · next serial =>
      exact (discreet_left serial).bind fun _ items _ =>
        discreet_anyGenerator htest serial items.length
  · split
    · next items _ => exact discreet_anyM htest items
    · exact .fail _

theorem discreet_itemsOf (v : Value) : (itemsOf v).Discreet := by
  rw [itemsOf.eq_def]
  split
  · next serial =>
      exact (discreet_left serial).bind fun _ _ _ => (discreet_finish serial).bind fun _ _ _ =>
        .pure _
  · split
    · exact .pure _
    · exact .fail _

end Run

namespace Value

theorem discreet_givenOrOwn (v : Value) (name : String) : (v.givenOrOwn name).Discreet := by
  have hgiven : (Run.given? v name).Discreet := ⟨fun _ => rfl, fun _ => rfl⟩
  refine hgiven.bind fun _ found? _ => ?_
  cases found? with
  | some found => exact .pure _
  | none =>
      cases v.attribute? name with
      | some found => exact .pure _
      | none => exact .fail _

-- Even a report, which goes through its rows to find whether it holds.
theorem discreet_getAttribute (v : Value) (name : String) : (v.getAttribute name).Discreet := by
  rw [getAttribute.eq_def]
  split
  · split
    · refine (discreet_givenOrOwn _ _).bind fun _ rows _ => ?_
      refine (Run.discreet_anyItem (fun row => ?_) rows).bind fun _ _ _ => .pure _
      exact (discreet_givenOrOwn row _).bind fun _ _ _ => .pure _
    · exact discreet_givenOrOwn _ _
  · next serial =>
      have hended : (Run.hasFinished serial).Discreet := ⟨fun _ => rfl, fun _ => rfl⟩
      refine hended.bind fun _ ended _ => ?_
      split
      · exact .pure _
      · exact discreet_givenOrOwn _ _
  · exact discreet_givenOrOwn _ _

end Value

namespace Catalogue

variable {catalogue : Catalogue} {host : Host}

-- All modules that a search can come to.
def modules (catalogue : Catalogue) : List Module :=
  catalogue.further ++ catalogue.own ++ catalogue.hidden

-- A module that cannot be asked for more than it has is discreet.
theorem discreet_find_of_lookup_eq_none {m : Module}
    (h : m.attributes.lookup "__getattr__" = none) (host : Host) (name : String) :
    (m.find host name).Discreet := by
  rw [Module.find_of_lookup_eq_none h]
  exact .pure _

theorem mem_modules_of_find? {name : String} {m : Module} (h : catalogue.find? name = some m) :
    m ∈ catalogue.modules :=
  List.mem_append_left _ (List.mem_of_find?_eq_some h)

theorem mem_modules_of_referred? {name : String} {m : Module}
    (h : catalogue.referred? name = some m) : m ∈ catalogue.modules := by
  rw [modules, List.append_assoc]
  exact List.mem_append_right _ (List.mem_of_find?_eq_some h)

theorem discreet_searchPlaces (places : Target) : (searchPlaces places).Discreet := by
  rw [searchPlaces.eq_def]
  split
  · exact .pure _
  · exact .pure _
  · exact (Run.discreet_itemsOf _).bind fun _ _ _ => .pure _

theorem discreet_importModule
    (h : ∀ m ∈ catalogue.modules, ∀ name, (m.find host name).Discreet) (name : String) :
    (catalogue.importModule host name).Discreet :=
  importModule_of_joins .discreet (fun _ m hm => h m (mem_modules_of_find? hm) "__path__")
    (fun _ _ _ places _ _ => discreet_searchPlaces places) name

end Catalogue

end StepFlow
