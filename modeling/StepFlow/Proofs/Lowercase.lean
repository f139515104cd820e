import StepFlow.Proofs.Utf8
import StepFlow.Text.Blank
import StepFlow.Text.Lowercase
import Mathlib.Data.List.Basic
import Mathlib.Data.List.Induction
import Mathlib.Data.Nat.Bitwise

namespace StepFlow.Text

-- A set of code points as the bits of a number.
def bitsOf (codes : List Nat) : Nat :=
  codes.foldr (fun code bits => 2 ^ code ||| bits) 0

def CodeRanges.bits (ranges : CodeRanges) : Nat :=
  ranges.foldr (fun (lo, hi) bits => (2 ^ (hi + 1 - lo) - 1) <<< lo ||| bits) 0

theorem testBit_bitsOf (codes : List Nat) (n : Nat) :
    (bitsOf codes).testBit n = decide (n ∈ codes) := by
  induction codes with
  | nil => simp [bitsOf]
  | cons code codes ih =>
      rw [bitsOf] at ih ⊢
      rw [List.foldr_cons, Nat.testBit_or, ih, Nat.testBit_two_pow]
      simp [eq_comm]

theorem CodeRanges.testBit_bits (ranges : CodeRanges) (n : Nat) :
    ranges.bits.testBit n = ranges.any fun (lo, hi) => lo ≤ n && n ≤ hi := by
  induction ranges with
  | nil => simp [bits]
  | cons range ranges ih =>
      obtain ⟨lo, hi⟩ := range
      rw [bits] at ih ⊢
      rw [List.foldr_cons, Nat.testBit_or, ih, List.any_cons, Nat.testBit_shiftLeft,
        Nat.testBit_two_pow_sub_one]
      congr 1
      rw [Bool.eq_iff_iff]
      simp only [ge_iff_le, Bool.and_eq_true, decide_eq_true_eq]
      omega

-- What has a bit in one of two disjoint sets has none in the other.
theorem testBit_eq_false_of_and_eq_zero {bits others n : Nat} (h : bits &&& others = 0)
    (hn : bits.testBit n = true) : others.testBit n = false := by
  have hbit := congrArg (Nat.testBit · n) h
  simpa [Nat.testBit_and, hn] using hbit

theorem testBit_of_and_eq_left {bits others n : Nat} (h : bits &&& others = bits)
    (hn : bits.testBit n = true) : others.testBit n = true := by
  have hbit := congrArg (Nat.testBit · n) h
  simpa [Nat.testBit_and, hn] using hbit

-- Capitals with their small letters, from ASCII and from the table.
def capitals : List (Nat × Nat) :=
  (List.range 26).map (fun k => (65 + k, 97 + k)) ++
    lowercaseRuns.flatMap fun (lo, hi, step, shift) =>
      (List.range ((hi - lo) / step + 1)).map fun k =>
        (lo + k * step, ((lo + k * step : Nat) + shift).toNat)

-- The capital whose small form is two characters: a small letter and a mark.
def dottedCapital : Char := Char.ofNat 0x130

def dotAbove : Char := Char.ofNat 0x307

def allCapitals : List Nat :=
  0x130 :: capitals.map Prod.fst

def allSmall : List Nat :=
  0x69 :: capitals.map Prod.snd

-- The code points that are characters.
def validCodes : CodeRanges :=
  [(0, 0xD7FF), (0xE000, 0x10FFFF)]

-- No small letter is a capital, nor is the final sigma or the mark.
theorem small_and_capitals :
    bitsOf (0x307 :: 0x3C2 :: allSmall) &&& bitsOf allCapitals = 0 := by
  decide +kernel

theorem small_and_valid : bitsOf allSmall &&& validCodes.bits = bitsOf allSmall := by
  decide +kernel

theorem letters_and_cased :
    bitsOf (allCapitals ++ allSmall) &&& casedRanges.bits = bitsOf (allCapitals ++ allSmall) := by
  decide +kernel

-- What has case is neither skipped nor blank.
theorem cased_and_skipped :
    casedRanges.bits &&& (caseIgnorableRanges.bits ||| bitsOf blanks) = 0 := by
  decide +kernel

theorem lowerChar_dottedCapital : lowerChar dottedCapital = ['i', dotAbove] := rfl

private theorem toLower_ascii : ∀ n < 128, (Char.ofNat n).toLower =
    if 65 ≤ n ∧ n ≤ 90 then Char.ofNat (n + 32) else Char.ofNat n := by
  decide

-- A capital has one small letter, apart from the one that has two; all else is its own.
theorem lowerChar_cases (c : Char) :
    c = dottedCapital ∨ (∃ small, (c.toNat, small) ∈ capitals ∧ lowerChar c = [Char.ofNat small]) ∨
      lowerChar c = [c] := by
  by_cases hascii : c.toNat < 128
  · have hlower := toLower_ascii c.toNat hascii
    rw [Char.ofNat_toNat] at hlower
    rw [lowerChar, if_pos hascii, hlower]
    by_cases hcapital : 65 ≤ c.toNat ∧ c.toNat ≤ 90
    · refine .inr (.inl ⟨c.toNat + 32, List.mem_append_left _ ?_, by rw [if_pos hcapital]⟩)
      refine List.mem_map.mpr ⟨c.toNat - 65, List.mem_range.mpr (by omega), ?_⟩
      exact Prod.ext (by simp; omega) (by simp; omega)
    · exact .inr (.inr (by rw [if_neg hcapital]))
  by_cases hdotted : c.toNat = 0x130
  · refine .inl ?_
    rw [← Char.ofNat_toNat c, hdotted]
    rfl
  rw [lowerChar, if_neg hascii, if_neg hdotted]
  split
  · next lo hi step shift hfound =>
      refine .inr (.inl ⟨_, List.mem_append_right _ ?_, rfl⟩)
      have hrun := List.mem_of_find?_eq_some hfound
      have hmember := List.find?_some hfound
      simp only [Bool.and_eq_true, decide_eq_true_eq] at hmember
      obtain ⟨⟨hlo, hhi⟩, hstep⟩ := hmember
      have hcode : lo + (c.toNat - lo) / step * step = c.toNat := by
        rw [Nat.div_mul_cancel (Nat.dvd_of_mod_eq_zero hstep)]
        omega
      refine List.mem_flatMap.mpr ⟨_, hrun, List.mem_map.mpr ⟨(c.toNat - lo) / step, ?_, ?_⟩⟩
      · exact List.mem_range.mpr (Nat.lt_succ_of_le (Nat.div_le_div_right (by omega)))
      · simp only [hcode]
  · exact .inr (.inr rfl)

theorem lowerChar_of_not_mem {c : Char} (h : c.toNat ∉ allCapitals) : lowerChar c = [c] := by
  obtain rfl | ⟨small, hmem, -⟩ | hself := lowerChar_cases c
  · exact absurd (List.mem_cons_self ..) h
  · exact absurd (List.mem_cons_of_mem _ (List.mem_map_of_mem hmem)) h
  · exact hself

theorem not_mem_allCapitals {n : Nat} (h : n ∈ 0x307 :: 0x3C2 :: allSmall) : n ∉ allCapitals := by
  have hbit := testBit_eq_false_of_and_eq_zero small_and_capitals (n := n)
  simp only [testBit_bitsOf, decide_eq_true_eq, decide_eq_false_iff_not] at hbit
  exact hbit h

theorem toNat_ofNat_of_mem_allSmall {n : Nat} (h : n ∈ allSmall) : (Char.ofNat n).toNat = n := by
  have hbit := testBit_of_and_eq_left small_and_valid (n := n)
  simp only [testBit_bitsOf, CodeRanges.testBit_bits, decide_eq_true_eq, validCodes, List.any_cons,
    List.any_nil, Bool.or_false, Bool.or_eq_true, Bool.and_eq_true] at hbit
  apply toNat_ofNat_of_isValidChar
  unfold Nat.isValidChar
  have hvalid := hbit h
  omega

-- A small letter of a character is its own small letter.
theorem lowerChar_of_mem_lowerChar {c small : Char} (h : small ∈ lowerChar c) :
    lowerChar small = [small] := by
  obtain rfl | ⟨n, hmem, hlower⟩ | hself := lowerChar_cases c
  · rw [lowerChar_dottedCapital, List.mem_cons, List.mem_singleton] at h
    obtain rfl | rfl := h <;> rfl
  · rw [hlower, List.mem_singleton] at h
    have hn : n ∈ allSmall := List.mem_cons_of_mem _ (List.mem_map_of_mem hmem)
    apply lowerChar_of_not_mem
    rw [h, toNat_ofNat_of_mem_allSmall hn]
    exact not_mem_allCapitals (List.mem_cons_of_mem _ (List.mem_cons_of_mem _ hn))
  · rw [hself, List.mem_singleton] at h
    rw [h, hself]

theorem isCased_of_mem {c : Char} (h : c.toNat ∈ allCapitals ++ allSmall) : isCased c = true := by
  have hbit := testBit_of_and_eq_left letters_and_cased (n := c.toNat)
  rw [testBit_bitsOf, CodeRanges.testBit_bits, decide_eq_true_eq] at hbit
  exact hbit h

theorem isBlank_eq_testBit (c : Char) : isBlank c = (bitsOf blanks).testBit c.toNat := by
  rw [testBit_bitsOf, isBlank, List.contains_eq_mem]

theorem isCaseIgnorable_eq_testBit (c : Char) :
    isCaseIgnorable c = caseIgnorableRanges.bits.testBit c.toNat :=
  (CodeRanges.testBit_bits ..).symm

theorem isCased_eq_testBit (c : Char) : isCased c = casedRanges.bits.testBit c.toNat :=
  (CodeRanges.testBit_bits ..).symm

theorem of_isCased {c : Char} (h : isCased c = true) :
    isCaseIgnorable c = false ∧ isBlank c = false := by
  rw [isCased_eq_testBit] at h
  have hbit := testBit_eq_false_of_and_eq_zero cased_and_skipped h
  rwa [Nat.testBit_or, Bool.or_eq_false_iff, ← isCaseIgnorable_eq_testBit, ← isBlank_eq_testBit]
    at hbit

-- Characters that are alike where a text is lower-cased and trimmed.
structure Alike (c d : Char) : Prop where
  cased : isCased c = isCased d
  ignorable : isCaseIgnorable c = isCaseIgnorable d
  blank : isBlank c = isBlank d

theorem Alike.of_isCased {c d : Char} (hc : isCased c = true) (hd : isCased d = true) :
    Alike c d where
  cased := hc.trans hd.symm
  ignorable := (Text.of_isCased hc).1.trans (Text.of_isCased hd).1.symm
  blank := (Text.of_isCased hc).2.trans (Text.of_isCased hd).2.symm

-- The first small letter of a character is like it, and there is a second one at most, a mark.
theorem exists_lowerChar_eq_cons (c : Char) :
    ∃ small tail, lowerChar c = small :: tail ∧ Alike small c ∧
      (tail = [] ∨ c = dottedCapital ∧ tail = [dotAbove]) := by
  obtain rfl | ⟨n, hmem, hlower⟩ | hself := lowerChar_cases c
  · exact ⟨'i', [dotAbove], rfl,
      .of_isCased (isCased_of_mem (by simp [allCapitals, allSmall]))
        (isCased_of_mem (List.mem_cons_self ..)), .inr ⟨rfl, rfl⟩⟩
  · have hsmall : n ∈ allSmall := List.mem_cons_of_mem _ (List.mem_map_of_mem hmem)
    have hcapital : c.toNat ∈ allCapitals := List.mem_cons_of_mem _ (List.mem_map_of_mem hmem)
    refine ⟨Char.ofNat n, [], hlower, .of_isCased (isCased_of_mem ?_) (isCased_of_mem ?_), .inl rfl⟩
    · rw [toNat_ofNat_of_mem_allSmall hsmall]
      exact List.mem_append_right _ hsmall
    · exact List.mem_append_left _ hcapital
  · exact ⟨c, [], hself, ⟨rfl, rfl, rfl⟩, .inl rfl⟩

-- Characters with the same small letters are alike.
theorem alike_of_lowerChar_eq {c d : Char} (h : lowerChar c = lowerChar d) : Alike c d := by
  obtain ⟨small, tail, hc, hlike, -⟩ := exists_lowerChar_eq_cons c
  obtain ⟨small', tail', hd, hlike', -⟩ := exists_lowerChar_eq_cons d
  obtain ⟨rfl, -⟩ := List.cons.inj (hc.symm.trans (h.trans hd))
  exact ⟨hlike.cased.symm.trans hlike'.cased, hlike.ignorable.symm.trans hlike'.ignorable,
    hlike.blank.symm.trans hlike'.blank⟩

theorem isBlank_of_mem_lowerChar {c small : Char} (h : small ∈ lowerChar c) :
    isBlank small = isBlank c := by
  obtain ⟨first, tail, hlower, hlike, hnone | ⟨rfl, -⟩⟩ := exists_lowerChar_eq_cons c
  · rw [hlower, hnone, List.mem_singleton] at h
    rw [h, hlike.blank]
  · rw [lowerChar_dottedCapital, List.mem_cons, List.mem_singleton] at h
    obtain rfl | rfl := h <;> rfl

def capitalSigma : Char := Char.ofNat 0x3A3

def smallSigma : Char := Char.ofNat 0x3C3

def finalSigma : Char := Char.ofNat 0x3C2

theorem lowerChar_capitalSigma : lowerChar capitalSigma = [smallSigma] := rfl

theorem toNat_eq_sigma_iff (c : Char) : c.toNat = 0x3A3 ↔ c = capitalSigma := by
  rw [← Char.toNat_inj]
  rfl

-- What lower-casing puts in the place of a character before others.
def smallAt (casedBefore : Bool) (c : Char) (after : List Char) : List Char :=
  if c = capitalSigma then
    [if casedBefore && !startsCased after then finalSigma else smallSigma]
  else lowerChar c

-- Whether the last character that is not skipped has case, after one more.
def casedThrough (casedBefore : Bool) (c : Char) : Bool :=
  if isCaseIgnorable c then casedBefore else isCased c

theorem lowerAfter_cons (casedBefore : Bool) (c : Char) (cs : List Char) :
    lowerAfter casedBefore (c :: cs) =
      smallAt casedBefore c cs ++ lowerAfter (casedThrough casedBefore c) cs := by
  rw [lowerAfter, smallAt, casedThrough]
  simp only [toNat_eq_sigma_iff]
  congr 2
  split <;> rfl

theorem lowerChar_of_mem_smallAt {casedBefore : Bool} {c small : Char} {after : List Char}
    (h : small ∈ smallAt casedBefore c after) : lowerChar small = [small] := by
  rw [smallAt] at h
  split at h
  · rw [List.mem_singleton] at h
    split at h <;> (rw [h]; rfl)
  · exact lowerChar_of_mem_lowerChar h

theorem isBlank_of_mem_smallAt {casedBefore : Bool} {c small : Char} {after : List Char}
    (h : small ∈ smallAt casedBefore c after) : isBlank small = isBlank c := by
  rw [smallAt] at h
  split at h
  · next hc =>
      rw [List.mem_singleton] at h
      subst hc
      split at h <;> (rw [h]; rfl)
  · exact isBlank_of_mem_lowerChar h

theorem smallAt_ne_nil (casedBefore : Bool) (c : Char) (after : List Char) :
    smallAt casedBefore c after ≠ [] := by
  rw [smallAt]
  split
  · exact List.cons_ne_nil _ _
  · obtain ⟨small, tail, hlower, -⟩ := exists_lowerChar_eq_cons c
    rw [hlower]
    exact List.cons_ne_nil _ _

theorem lowerChar_of_mem_lowerAfter {casedBefore : Bool} {cs : List Char} {small : Char}
    (h : small ∈ lowerAfter casedBefore cs) : lowerChar small = [small] := by
  induction cs generalizing casedBefore with
  | nil => cases h
  | cons c cs ih =>
      rw [lowerAfter_cons, List.mem_append] at h
      obtain hfirst | hrest := h
      · exact lowerChar_of_mem_smallAt hfirst
      · exact ih hrest

-- A text of small letters stays as it is, whatever is before it.
theorem lowerAfter_eq_self {cs : List Char} (h : ∀ c ∈ cs, lowerChar c = [c])
    (casedBefore : Bool) : lowerAfter casedBefore cs = cs := by
  induction cs generalizing casedBefore with
  | nil => rfl
  | cons c cs ih =>
      obtain ⟨hc, hcs⟩ := List.forall_mem_cons.mp h
      have hsigma : c ≠ capitalSigma := by
        rintro rfl
        cases hc
      rw [lowerAfter_cons, smallAt, if_neg hsigma, hc, ih hcs, List.singleton_append]

theorem lowercase_lowercase (text : String) : lowercase (lowercase text) = lowercase text := by
  rw [lowercase, lowercase, String.toList_ofList,
    lowerAfter_eq_self fun _ => lowerChar_of_mem_lowerAfter]

-- The last character is lower-cased at the end, whatever those before it come to.
theorem exists_lowerAfter_concat (casedBefore : Bool) (cs : List Char) (last : Char) :
    ∃ front cased, lowerAfter casedBefore (cs ++ [last]) = front ++ smallAt cased last [] := by
  induction cs generalizing casedBefore with
  | nil => exact ⟨[], casedBefore, by rw [List.nil_append, lowerAfter_cons, lowerAfter]; simp⟩
  | cons c cs ih =>
      obtain ⟨front, cased, hrest⟩ := ih (casedThrough casedBefore c)
      exact ⟨smallAt casedBefore c (cs ++ [last]) ++ front, cased, by
        rw [List.cons_append, lowerAfter_cons, hrest, List.append_assoc]⟩

theorem head?_lowerAfter {casedBefore : Bool} {cs : List Char}
    (h : ∀ c ∈ cs.head?, isBlank c = false) :
    ∀ c ∈ (lowerAfter casedBefore cs).head?, isBlank c = false := by
  cases cs with
  | nil => exact h
  | cons c cs =>
      obtain ⟨first, tail, hfirst⟩ := List.exists_cons_of_ne_nil (smallAt_ne_nil casedBefore c cs)
      have hblank : isBlank first = isBlank c :=
        isBlank_of_mem_smallAt (hfirst ▸ List.mem_cons_self ..)
      rw [lowerAfter_cons, hfirst]
      rintro _ ⟨⟩
      rw [hblank, h c rfl]

theorem getLast?_lowerAfter {casedBefore : Bool} {cs : List Char}
    (h : ∀ c ∈ cs.getLast?, isBlank c = false) :
    ∀ c ∈ (lowerAfter casedBefore cs).getLast?, isBlank c = false := by
  induction cs using List.reverseRecOn with
  | nil => exact h
  | append_singleton cs last _ =>
      intro small hsmall
      obtain ⟨front, cased, hlower⟩ := exists_lowerAfter_concat casedBefore cs last
      rw [hlower, List.getLast?_append_of_ne_nil _ (smallAt_ne_nil cased last [])] at hsmall
      rw [isBlank_of_mem_smallAt (List.mem_of_mem_getLast? hsmall), h last (by simp)]

-- Trimming drops nothing from a text exactly if it neither starts nor ends with what is dropped.
theorem trimBoth_eq_self_iff {p : Char → Bool} {cs : List Char} :
    trimBoth p cs = cs ↔
      (∀ c ∈ cs.head?, p c = false) ∧ ∀ c ∈ cs.getLast?, p c = false := by
  constructor
  · intro h
    have hlength : (cs.dropWhile p).length = cs.length := by
      have hkept := congrArg List.length h
      rw [trimBoth, List.length_reverse] at hkept
      have hend := (List.dropWhile_suffix (l := (cs.dropWhile p).reverse) p).length_le
      have hstart := (List.dropWhile_suffix (l := cs) p).length_le
      rw [List.length_reverse] at hend
      omega
    have hstart : cs.dropWhile p = cs := (List.dropWhile_suffix p).eq_of_length hlength
    rw [trimBoth, hstart, List.reverse_eq_iff] at h
    rw [← List.head?_reverse]
    exact ⟨hstart ▸ head?_dropWhile, h ▸ head?_dropWhile⟩
  · rintro ⟨hhead, hlast⟩
    rw [← List.head?_reverse] at hlast
    rw [trimBoth, dropWhile_of_head? hhead, dropWhile_of_head? hlast, List.reverse_reverse]

-- A text without blanks around it has none after it is lower-cased.
theorem strip_lowercase_strip (text : String) :
    strip (lowercase (strip text)) = lowercase (strip text) := by
  have hstripped : trimBoth isBlank (strip text).toList = (strip text).toList := by
    rw [strip, String.toList_ofList, trimBoth_trimBoth]
  obtain ⟨hhead, hlast⟩ := trimBoth_eq_self_iff.mp hstripped
  have hlower : trimBoth isBlank (lowercase (strip text)).toList =
      (lowercase (strip text)).toList := by
    rw [lowercase, String.toList_ofList]
    exact trimBoth_eq_self_iff.mpr ⟨head?_lowerAfter hhead, getLast?_lowerAfter hlast⟩
  rw [strip, hlower, String.ofList_toList]

end StepFlow.Text
