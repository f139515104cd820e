namespace StepFlow.Text

-- The parts between the separators; there is always at least one.
def splitChars (separator : Char) : List Char → List (List Char)
  | [] => [[]]
  | c :: cs =>
    match splitChars separator cs with
    | [] => [[c]]
    | part :: parts => if c = separator then [] :: part :: parts else (c :: part) :: parts

def split (separator : Char) (text : String) : List String :=
  (splitChars separator text.toList).map String.ofList

theorem splitChars_ne_nil (separator : Char) (cs : List Char) :
    splitChars separator cs ≠ [] := by
  cases cs with
  | nil => simp [splitChars]
  | cons c cs =>
    simp only [splitChars]
    split
    · simp
    · split <;> simp

-- No part holds the separator.
theorem separator_not_mem (separator : Char) (cs part : List Char)
    (hpart : part ∈ splitChars separator cs) : separator ∉ part := by
  induction cs generalizing part with
  | nil => simp_all [splitChars]
  | cons c cs ih =>
    simp only [splitChars] at hpart
    cases h : splitChars separator cs with
    | nil => exact absurd h (splitChars_ne_nil separator cs)
    | cons first parts =>
      rw [h] at ih hpart
      by_cases hc : c = separator
      · simp only [hc, if_true, List.mem_cons] at hpart
        cases hpart with
        | inl hempty => simp [hempty]
        | inr hin => exact ih part (by simpa using hin)
      · simp only [hc, if_false, List.mem_cons] at hpart
        cases hpart with
        | inl hfirst =>
          subst hfirst
          simp only [List.mem_cons, not_or]
          exact ⟨Ne.symm hc, ih first (by simp)⟩
        | inr hin => exact ih part (by simp [hin])

-- Putting the separator between the parts gives the text back.
theorem intercalate_splitChars (separator : Char) (cs : List Char) :
    [separator].intercalate (splitChars separator cs) = cs := by
  induction cs with
  | nil => simp [splitChars, List.intercalate]
  | cons c cs ih =>
    simp only [splitChars]
    cases h : splitChars separator cs with
    | nil => exact absurd h (splitChars_ne_nil separator cs)
    | cons part parts =>
      rw [h] at ih
      by_cases hc : c = separator
      · subst hc
        simpa [List.intercalate] using ih
      · cases parts with
        | nil => simpa [hc, List.intercalate] using ih
        | cons next more => simpa [hc, List.intercalate] using ih

end StepFlow.Text
