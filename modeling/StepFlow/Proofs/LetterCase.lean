import StepFlow.Proofs.Lowercase
import StepFlow.Registry
import Mathlib.Data.List.Forall2
import Mathlib.Data.Nat.Init

namespace StepFlow

namespace Text

-- Characters that are one once each is lower-cased on its own.
def SameLetter (c d : Char) : Prop :=
  lowercase (String.singleton c) = lowercase (String.singleton d)

instance : DecidableRel SameLetter :=
  fun _ _ => inferInstanceAs (Decidable (_ = _))

-- Texts of one length with the same letters at the same places, up to case.
def SameLetters (text other : String) : Prop :=
  List.Forall₂ SameLetter text.toList other.toList

instance (text other : String) : Decidable (SameLetters text other) :=
  inferInstanceAs (Decidable (List.Forall₂ _ _ _))

-- A capital sigma that ends a word: before it comes a letter with case, after it none, characters
-- that are skipped apart.
def FinalSigmaAt (text : String) (i : Nat) : Prop :=
  text.toList[i]? = some capitalSigma ∧ startsCased (text.toList.take i).reverse = true ∧
    startsCased (text.toList.drop (i + 1)) = false

theorem toList_lowercase_singleton (c : Char) :
    (lowercase (String.singleton c)).toList = lowerChar c := by
  rw [lowercase, String.toList_singleton, lowerAfter_cons, smallAt, String.toList_ofList]
  split
  · next hc =>
      subst hc
      rfl
  · exact List.append_nil _

theorem sameLetter_iff {c d : Char} : SameLetter c d ↔ lowerChar c = lowerChar d := by
  rw [SameLetter, ← String.toList_inj, toList_lowercase_singleton, toList_lowercase_singleton]

theorem SameLetter.alike {c d : Char} (h : SameLetter c d) : Alike c d :=
  alike_of_lowerChar_eq (sameLetter_iff.mp h)

variable {cs ds : List Char}

theorem startsCased_cons (c : Char) (cs : List Char) :
    startsCased (c :: cs) = casedThrough (startsCased cs) c := by
  by_cases h : isCaseIgnorable c = true
  · rw [startsCased, List.dropWhile_cons_of_pos h, casedThrough, if_pos h, startsCased]
  · rw [startsCased, List.dropWhile_cons_of_neg h, casedThrough, if_neg h]

theorem foldl_casedThrough (cs : List Char) :
    cs.foldl casedThrough false = startsCased cs.reverse := by
  induction cs using List.reverseRecOn with
  | nil => rfl
  | append_singleton cs c ih =>
      rw [List.foldl_append, List.foldl_cons, List.foldl_nil, ih, List.reverse_append,
        List.reverse_singleton, List.singleton_append, startsCased_cons]

theorem casedThrough_congr {c d : Char} (h : SameLetter c d) (casedBefore : Bool) :
    casedThrough casedBefore c = casedThrough casedBefore d := by
  rw [casedThrough, casedThrough, h.alike.ignorable, h.alike.cased]

theorem startsCased_congr (h : List.Forall₂ SameLetter cs ds) :
    startsCased cs = startsCased ds := by
  induction h with
  | nil => rfl
  | cons hletter _ ih => rw [startsCased_cons, startsCased_cons, ih, casedThrough_congr hletter]

-- The same for characters with something before them.
def FinalAt (casedBefore : Bool) (cs : List Char) (i : Nat) : Prop :=
  cs[i]? = some capitalSigma ∧ (cs.take i).foldl casedThrough casedBefore = true ∧
    startsCased (cs.drop (i + 1)) = false

theorem finalSigmaAt_iff (text : String) (i : Nat) :
    FinalSigmaAt text i ↔ FinalAt false text.toList i := by
  rw [FinalSigmaAt, FinalAt, foldl_casedThrough]

theorem finalAt_zero_iff {casedBefore : Bool} {c : Char} :
    FinalAt casedBefore (c :: cs) 0 ↔
      c = capitalSigma ∧ casedBefore = true ∧ startsCased cs = false := by
  simp [FinalAt]

theorem finalAt_succ_iff {casedBefore : Bool} {c : Char} {i : Nat} :
    FinalAt casedBefore (c :: cs) (i + 1) ↔ FinalAt (casedThrough casedBefore c) cs i := by
  simp [FinalAt]

theorem length_smallAt (casedBefore : Bool) (c : Char) (after : List Char) :
    (smallAt casedBefore c after).length = (lowerChar c).length := by
  rw [smallAt]
  split
  · next hc =>
      rw [hc]
      rfl
  · rfl

-- Of the same letters only sigma is ever lower-cased differently.
theorem smallAt_eq_iff {c d : Char} (hletter : SameLetter c d) (casedBefore : Bool)
    (hrest : List.Forall₂ SameLetter cs ds) :
    smallAt casedBefore c cs = smallAt casedBefore d ds ↔
      (FinalAt casedBefore (c :: cs) 0 ↔ FinalAt casedBefore (d :: ds) 0) := by
  have hlower := sameLetter_iff.mp hletter
  have hsigma : finalSigma ≠ smallSigma := by decide
  rw [finalAt_zero_iff, finalAt_zero_iff, startsCased_congr hrest, smallAt, smallAt,
    startsCased_congr hrest]
  by_cases hc : c = capitalSigma <;> by_cases hd : d = capitalSigma
  · simp [hc, hd]
  · rw [hc, lowerChar_capitalSigma] at hlower
    cases casedBefore <;> cases startsCased ds <;> simp [hc, hd, ← hlower, hsigma]
  · rw [hd, lowerChar_capitalSigma] at hlower
    cases casedBefore <;> cases startsCased ds <;> simp [hc, hd, hlower, hsigma.symm]
  · simp [hc, hd, hlower]

theorem lowerAfter_eq_iff (h : List.Forall₂ SameLetter cs ds) (casedBefore : Bool) :
    lowerAfter casedBefore cs = lowerAfter casedBefore ds ↔
      ∀ i, FinalAt casedBefore cs i ↔ FinalAt casedBefore ds i := by
  induction h generalizing casedBefore with
  | nil => simp
  | @cons c d cs ds hletter hrest ih =>
      have hlength : (smallAt casedBefore c cs).length = (smallAt casedBefore d ds).length := by
        rw [length_smallAt, length_smallAt, sameLetter_iff.mp hletter]
      rw [lowerAfter_cons, lowerAfter_cons, ← Nat.and_forall_add_one]
      simp only [finalAt_succ_iff, casedThrough_congr hletter]
      rw [← ih, ← smallAt_eq_iff hletter casedBefore hrest]
      exact ⟨fun heq => List.append_inj heq hlength, fun heq => congrArg₂ _ heq.1 heq.2⟩

theorem forall₂_dropWhile_isBlank (h : List.Forall₂ SameLetter cs ds) :
    List.Forall₂ SameLetter (cs.dropWhile isBlank) (ds.dropWhile isBlank) := by
  induction h with
  | nil => exact .nil
  | @cons c d cs ds hletter hrest ih =>
      rw [List.dropWhile_cons, List.dropWhile_cons, hletter.alike.blank]
      split
      · exact ih
      · exact .cons hletter hrest

theorem SameLetters.strip {text other : String} (h : SameLetters text other) :
    SameLetters (Text.strip text) (Text.strip other) := by
  rw [SameLetters, Text.strip, Text.strip, String.toList_ofList, String.toList_ofList, trimBoth,
    trimBoth]
  exact List.rel_reverse (forall₂_dropWhile_isBlank
    (List.rel_reverse (forall₂_dropWhile_isBlank h)))

theorem not_finalSigmaAt_strip {text : String} (h : capitalSigma ∉ text.toList) (i : Nat) :
    ¬ FinalSigmaAt (Text.strip text) i := by
  intro hfinal
  have hmem := List.mem_of_getElem? hfinal.1
  rw [Text.strip, String.toList_ofList, trimBoth, List.mem_reverse] at hmem
  exact h ((List.dropWhile_sublist _).subset
    (List.mem_reverse.mp ((List.dropWhile_sublist _).subset hmem)))

theorem lowercase_eq_iff {text other : String} (h : SameLetters text other) :
    lowercase text = lowercase other ↔ ∀ i, FinalSigmaAt text i ↔ FinalSigmaAt other i := by
  rw [lowercase, lowercase, String.ofList_inj, lowerAfter_eq_iff h]
  simp only [finalSigmaAt_iff]

end Text

namespace Registry

open Text (SameLetters FinalSigmaAt strip)

variable {name other : String}

theorem normalForm_eq_iff (h : SameLetters name other) :
    normalForm name = normalForm other ↔
      ∀ i, FinalSigmaAt (strip name) i ↔ FinalSigmaAt (strip other) i :=
  Text.lowercase_eq_iff h.strip

-- Names are told apart by their normal forms: some registry has a step under the one only.
theorem resolve_eq_iff :
    (∀ r : Registry, r.resolve (.str name) = r.resolve (.str other)) ↔
      normalForm name = normalForm other := by
  constructor
  · intro h
    have hfound := h ⟨[(normalForm name, BuiltIn.nop)]⟩
    rw [resolve_str, resolve_str, find?, find?, List.lookup_cons_self, Except.ok.injEq] at hfound
    by_contra hne
    rw [List.lookup_cons, beq_eq_false_iff_ne.mpr (Ne.symm hne)] at hfound
    cases hfound
  · intro h r
    rw [resolve_str, resolve_str, h]

-- What is registered under a name is found under every name with its normal form.
theorem resolve_of_register {step : Value} {c : Callable} (hstep : step.callable? = some c)
    (h : normalForm name = normalForm other) (r : Registry) :
    ∃ entered, r.register (.str name) step = .ok entered ∧
      entered.resolve (.str other) = .ok (some c) := by
  refine ⟨⟨store (normalForm name) c r.steps⟩, ?_, ?_⟩
  · rw [register, hstep]
    rfl
  · rw [resolve_str, find?, lookup_store, if_pos h.symm]

-- Names that are the same letter by letter up to case are found alike in every registry, and each
-- finds what is registered under the other, exactly if without the blanks around them their capital
-- sigmas that end words stand at the same places. Where there is no capital sigma they do.
theorem resolve_eq_iff_of_sameLetters (h : SameLetters name other) :
    let sigmasAgree := ∀ i, FinalSigmaAt (strip name) i ↔ FinalSigmaAt (strip other) i
    ((∀ r : Registry, r.resolve (.str name) = r.resolve (.str other)) ↔ sigmasAgree) ∧
    (sigmasAgree → ∀ (r : Registry) (step : Value) (c : Callable), step.callable? = some c →
      ∃ entered, r.register (.str name) step = .ok entered ∧
        entered.resolve (.str other) = .ok (some c)) ∧
    (Text.capitalSigma ∉ name.toList → Text.capitalSigma ∉ other.toList → sigmasAgree) := by
  intro sigmasAgree
  refine ⟨?_, ?_, ?_⟩
  · rw [resolve_eq_iff, normalForm_eq_iff h]
  · intro hagree r step c hstep
    exact resolve_of_register hstep ((normalForm_eq_iff h).mpr hagree) r
  · intro hname hother i
    exact iff_of_false (Text.not_finalSigmaAt_strip hname i) (Text.not_finalSigmaAt_strip hother i)

-- A capital sigma that does not end a word, as the colon after it is skipped and a letter follows,
-- and another capital that shares its small letter with one of ASCII.
theorem resolve_eq_iff_of_sameLetters_inside :
    SameLetters "ΛΌΓΟΣ:K" "λόγοσ:k" ∧
      ∃ entered, empty.register (.str "ΛΌΓΟΣ:K") (.callable BuiltIn.nop) = .ok entered ∧
        entered.resolve (.str "λόγοσ:k") = .ok (some BuiltIn.nop) := by
  have hletters : SameLetters "ΛΌΓΟΣ:K" "λόγοσ:k" := by decide +kernel
  have hnormal : normalForm "ΛΌΓΟΣ:K" = normalForm "λόγοσ:k" := by decide +kernel
  obtain ⟨-, hfound, -⟩ := resolve_eq_iff_of_sameLetters hletters
  exact ⟨hletters, hfound ((normalForm_eq_iff hletters).mp hnormal) _ _ _ rfl⟩

-- At the end of a word it is another letter, and the step is not found.
theorem letterCase_distinguished :
    SameLetters "ΛΌΓΟΣ" "λόγοσ" ∧
      ∃ entered, empty.register (.str "ΛΌΓΟΣ") (.callable BuiltIn.nop) = .ok entered ∧
        entered.resolve (.str "ΛΌΓΟΣ") = .ok (some BuiltIn.nop) ∧
        entered.resolve (.str "λόγοσ") = .ok none := by
  have hnormal : normalForm "λόγοσ" ≠ normalForm "ΛΌΓΟΣ" := by decide +kernel
  refine ⟨by decide +kernel, ⟨[(normalForm "ΛΌΓΟΣ", BuiltIn.nop)]⟩, rfl, ?_, ?_⟩
  · rw [resolve_str, find?, List.lookup_cons_self]
  · rw [resolve_str, find?, List.lookup_cons, beq_eq_false_iff_ne.mpr hnormal, List.lookup_nil]

end Registry

end StepFlow
