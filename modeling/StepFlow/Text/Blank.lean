namespace StepFlow.Text

-- The characters that count as white space: those of bidirectional class WS, B or S, and the
-- space separators.
def blanks : List Nat :=
  [9, 10, 11, 12, 13, 28, 29, 30, 31, 32, 133, 160, 5760, 8192, 8193, 8194, 8195, 8196, 8197,
    8198, 8199, 8200, 8201, 8202, 8232, 8233, 8239, 8287, 12288]

def isBlank (c : Char) : Bool :=
  blanks.contains c.toNat

-- Drops what satisfies `p` at both ends.
def trimBoth (p : Char → Bool) (cs : List Char) : List Char :=
  ((cs.dropWhile p).reverse.dropWhile p).reverse

-- A text without the blanks around it.
def strip (text : String) : String :=
  String.ofList (trimBoth isBlank text.toList)

theorem head?_dropWhile {p : Char → Bool} {cs : List Char} :
    ∀ c ∈ (cs.dropWhile p).head?, p c = false := by
  intro c hc
  have h := List.head?_dropWhile_not p cs
  rw [Option.mem_def.mp hc] at h
  exact h

theorem dropWhile_of_head? {p : Char → Bool} {cs : List Char} (h : ∀ c ∈ cs.head?, p c = false) :
    cs.dropWhile p = cs := by
  cases cs with
  | nil => rfl
  | cons c cs => rw [List.dropWhile_cons_of_neg (by simp [h c rfl])]

-- What is kept of a text neither starts nor ends with what is dropped.
theorem trimBoth_trimBoth (p : Char → Bool) (cs : List Char) :
    trimBoth p (trimBoth p cs) = trimBoth p cs := by
  obtain ⟨dropped, hdropped⟩ : trimBoth p cs <+: cs.dropWhile p := by
    rw [trimBoth, ← List.reverse_suffix, List.reverse_reverse]
    exact List.dropWhile_suffix p
  have hstart : (trimBoth p cs).dropWhile p = trimBoth p cs := by
    apply dropWhile_of_head?
    intro c hc
    have hhead : c ∈ (cs.dropWhile p).head? := by
      rw [← hdropped, List.head?_append, Option.mem_def.mp hc]
      rfl
    exact head?_dropWhile c hhead
  calc
    trimBoth p (trimBoth p cs) = ((trimBoth p cs).reverse.dropWhile p).reverse := by
      rw [trimBoth, hstart]
    _ = trimBoth p cs := by
      rw [trimBoth, List.reverse_reverse, dropWhile_of_head? head?_dropWhile]

theorem strip_strip (text : String) : strip (strip text) = strip text := by
  rw [strip, strip, String.toList_ofList, trimBoth_trimBoth]

end StepFlow.Text
