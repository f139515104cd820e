import StepFlow.Native.Host
import StepFlow.Proofs.Mapping
import StepFlow.Proofs.RegisteredDeck

namespace StepFlow

namespace Deck

variable {entries other : Entries} {payload : Value} {deck : Deck}

-- The form of a deck: a mapping whose steps are one or more texts with something beside blanks in
-- them, in a list or a tuple, and whose arguments are absent, nothing, or a list or a tuple.
structure IsForm (entries : Entries) : Prop where
  steps : ∃ steps items, entries.get? "steps" = some steps ∧ steps.items? = some items ∧
    items ≠ [] ∧ ∀ v ∈ items, ∃ s, v.text? = some s ∧ Text.strip s ≠ ""
  args : ∀ own, entries.get? "args" = some own → Given own

-- A deck as it can be written down again.
def written (deck : Deck) : Value :=
  .dict [(.str "steps", .list (deck.steps.map .str)), (.str "args", .list deck.args)]

theorem exists_isReference_iff (v : Value) :
    (∃ ref, IsReference v ref) ↔ ∃ s, v.text? = some s ∧ Text.strip s ≠ "" := by
  constructor
  · rintro ⟨_, s, hs, rfl, hne⟩
    exact ⟨s, hs, hne⟩
  · rintro ⟨s, hs, hne⟩
    exact ⟨Text.strip s, s, hs, rfl, hne⟩

theorem HasArgs.isGiven {args : List Value} (h : HasArgs entries args) {own : Value}
    (hown : entries.get? "args" = some own) : Given own := by
  cases h with
  | absent habsent => exact nomatch habsent.symm.trans hown
  | nothing hnothing => exact .inl (Option.some.inj (hown.symm.trans hnothing))
  | given hgiven hitems =>
      cases hown.symm.trans hgiven
      exact .inr (Option.isSome_iff_exists.mpr ⟨_, hitems⟩)

-- A payload can be parsed exactly if it is a mapping in the form of a deck.
theorem exists_parse_iff (payload : Value) :
    (∃ deck, parse payload = .ok deck) ↔
      ∃ entries, payload.entries? = some entries ∧ IsForm entries := by
  simp only [parse_eq_ok_iff]
  constructor
  · rintro ⟨deck, entries, hentries, ⟨steps, items, hsteps, hitems, hne, hrefs⟩, hargs⟩
    have htexts : ∀ v ∈ items, ∃ ref, IsReference v ref := exists_forall₂_iff.mp ⟨_, hrefs⟩
    simp only [exists_isReference_iff] at htexts
    exact ⟨entries, hentries, ⟨steps, items, hsteps, hitems, hne, htexts⟩, fun _ => hargs.isGiven⟩
  · rintro ⟨entries, hentries, ⟨steps, items, hsteps, hitems, hne, htexts⟩, hargs⟩
    simp only [← exists_isReference_iff] at htexts
    obtain ⟨refs, hrefs⟩ := exists_forall₂_iff.mpr htexts
    obtain ⟨args, hargs⟩ := exists_hasArgs hargs
    exact ⟨⟨refs, args⟩, entries, hentries, ⟨steps, items, hsteps, hitems, hne, hrefs⟩, hargs⟩

theorem parse_of_entries? (h : payload.entries? = some entries) :
    parse payload = do
      let steps ← parseSteps entries
      let args ← parseArgs entries
      return ⟨steps, args⟩ := by
  rw [parse, Require.mapping, h]
  rfl

-- Mappings that have the same under both keys are parsed alike.
theorem parse_congr {others : Value} (hpayload : payload.entries? = some entries)
    (hothers : others.entries? = some other) (hsteps : other.get? "steps" = entries.get? "steps")
    (hargs : other.get? "args" = entries.get? "args") : parse others = parse payload := by
  rw [parse_of_entries? hpayload, parse_of_entries? hothers, parseSteps, parseSteps, hsteps,
    parseArgs, parseArgs, hargs]

-- A reference is a reference to the same.
theorem isReference_str {v : Value} {ref : String} (h : IsReference v ref) :
    IsReference (.str ref) ref := by
  obtain ⟨s, -, rfl, hne⟩ := h
  exact ⟨Text.strip s, rfl, Text.strip_strip s, hne⟩

theorem forall₂_isReference_str {items : List Value} {refs : List String}
    (h : List.Forall₂ IsReference items refs) :
    List.Forall₂ IsReference (refs.map .str) refs := by
  induction h with
  | nil => exact .nil
  | cons href _ ih => exact .cons (isReference_str href) ih

theorem HasSteps.written {refs : List String} (h : HasSteps entries refs)
    (args : List Value) :
    HasSteps [(.str "steps", .list (refs.map .str)), (.str "args", .list args)] refs := by
  obtain ⟨_, items, -, -, hne, hrefs⟩ := h
  refine ⟨.list (refs.map .str), refs.map .str, rfl, rfl, ?_, forall₂_isReference_str hrefs⟩
  rintro hempty
  rw [List.map_eq_nil_iff] at hempty
  subst hempty
  cases hrefs
  exact hne rfl

-- A deck that was parsed is parsed as itself when it is written down.
theorem parse_written (h : parse payload = .ok deck) : parse deck.written = .ok deck := by
  obtain ⟨entries, -, hsteps, -⟩ := (parse_eq_ok_iff payload deck).mp h
  exact (parse_eq_ok_iff deck.written deck).mpr
    ⟨_, rfl, hsteps.written deck.args, .given rfl rfl⟩

end Deck

namespace Native

open Deck

theorem call_parseDeck (world : World) (host : Host) (payload : Value) :
    Native.call world host .parseDeck [payload] =
      Run.lift ((Fault.met (Deck.parse payload)).map Deck.value) := by
  have hcall : Native.call world host .parseDeck [payload] =
      Run.lift (Fault.met (Deck.parse payload)) >>= fun deck => pure deck.value := rfl
  rw [hcall]
  cases Deck.parse payload <;> rfl

-- Parsing succeeds exactly on mappings in the form of a deck, and refuses all else as a value. It
-- gives the references without the blanks around them and the arguments, both in order, which are
-- parsed as the same deck again. Of a mapping only what it has under two keys matters, and so
-- neither any other key nor the order of the keys.
theorem parseDeck_iff_isForm (world : World) (host : Host) (payload : Value) (store : Store) :
    let parsed (payload : Value) := Native.call world host .parseDeck [payload] store
    ((∃ v, (parsed payload).outcome = .ok v) ↔
      ∃ entries, payload.entries? = some entries ∧ IsForm entries) ∧
    (∀ fault, (parsed payload).outcome = .error fault → fault.category = .value) ∧
    (parsed payload).events = [] ∧ (parsed payload).store = store ∧
    (∀ v, (parsed payload).outcome = .ok v → ∃ (deck : Deck) (entries : Entries),
      v.attribute? "steps" = some (.tuple (deck.steps.map .str)) ∧
      v.attribute? "args" = some (.tuple deck.args) ∧
      payload.entries? = some entries ∧ HasSteps entries deck.steps ∧ HasArgs entries deck.args ∧
      (parsed deck.written).outcome = .ok v) ∧
    ∀ entries, payload.entries? = some entries →
      (∀ others other, others.entries? = some other → other.get? "steps" = entries.get? "steps" →
        other.get? "args" = entries.get? "args" → parsed others = parsed payload) ∧
      (entries.Distinct → ∀ other, entries.Perm other → parsed (.dict other) = parsed payload) := by
  intro parsed
  have hparsed : ∀ payload, parsed payload =
      ⟨(Fault.met (Deck.parse payload)).map Deck.value, [], store⟩ := fun payload =>
    congrFun (call_parseDeck world host payload) store
  have hok : ∀ payload v, (parsed payload).outcome = .ok v ↔
      ∃ deck, Deck.parse payload = .ok deck ∧ deck.value = v := by
    intro payload v
    simp only [hparsed, map_eq_ok_iff, Fault.met, mapError_eq_ok_iff]
  have hsame : ∀ {others other entries}, payload.entries? = some entries →
      others.entries? = some other → other.get? "steps" = entries.get? "steps" →
      other.get? "args" = entries.get? "args" → parsed others = parsed payload := by
    intro others other entries hentries hother hsteps hargs
    rw [hparsed, hparsed, parse_congr hentries hother hsteps hargs]
  refine ⟨?_, ?_, by rw [hparsed], by rw [hparsed], ?_, ?_⟩
  · rw [← exists_parse_iff]
    constructor
    · rintro ⟨v, hv⟩
      obtain ⟨deck, hdeck, -⟩ := (hok payload v).mp hv
      exact ⟨deck, hdeck⟩
    · rintro ⟨deck, hdeck⟩
      exact ⟨deck.value, (hok payload _).mpr ⟨deck, hdeck, rfl⟩⟩
  · intro fault hfault
    simp only [hparsed, map_eq_error_iff, Fault.met, mapError_eq_error_iff] at hfault
    obtain ⟨cause, -, rfl⟩ := hfault
    rfl
  · intro v hv
    obtain ⟨deck, hdeck, rfl⟩ := (hok payload v).mp hv
    obtain ⟨entries, hentries, hsteps, hargs⟩ := (parse_eq_ok_iff payload deck).mp hdeck
    have hagain := (hok deck.written deck.value).mpr ⟨deck, parse_written hdeck, rfl⟩
    exact ⟨deck, entries, rfl, rfl, hentries, hsteps, hargs, hagain⟩
  · intro entries hentries
    refine ⟨fun others other => hsame hentries, fun hdistinct other hperm => ?_⟩
    exact hsame hentries rfl (Entries.find?_perm hdistinct hperm (.str "steps")).symm
      (Entries.find?_perm hdistinct hperm (.str "args")).symm

-- A deck in another order, with another key, blanks of several kinds and no list of arguments.
example :
    let deck : Value := .dict [(.str "args", .none), (.str "title", .int 3),
      (.str "steps", .tuple [.str "\u2003load\n", .kind .input])]
    Deck.parse deck = .ok ⟨["load", "input"], []⟩ := by
  rfl

end Native

end StepFlow
