namespace StepFlow.Text

def isHalf (code : Nat) : Bool :=
  0xD800 ≤ code && code < 0xE000

-- A text can hold a code point from D800 to DFFF, which is half of a character and none by itself.
-- It is spelled with a pair of characters from the end of the last private plane, and so are the
-- characters of that place; every other one spells itself. What opens a pair is never the second
-- of one: there are openers of halves, of second characters and of openers, and the second
-- characters start at `firstSecond` and are as many as the halves.
def halfOpener : Nat := 0x10F7FD

def secondOpener : Nat := 0x10F7FE

def openerOpener : Nat := 0x10F7FF

def firstSecond : Nat := 0x10F800

def pair (opener offset : Nat) : List Char :=
  [Char.ofNat opener, Char.ofNat (firstSecond + offset)]

-- The characters that spell a code point.
def spell (code : Nat) : List Char :=
  if isHalf code then pair halfOpener (code - 0xD800)
  else if code < halfOpener then [Char.ofNat code]
  else if code < firstSecond then pair openerOpener (code - halfOpener)
  else pair secondOpener (code - firstSecond)

-- The first of the code points whose pairs a character opens.
def opens? (c : Char) : Option Nat :=
  if c.toNat = halfOpener then some 0xD800
  else if c.toNat = secondOpener then some firstSecond
  else if c.toNat = openerOpener then some halfOpener
  else none

-- Puts the code point in front that a character spells, alone or with the one behind it.
def readChar (c : Char) (codes : List Nat) : List Nat :=
  match opens? c, codes with
  | some first, second :: codes => (first + (second - firstSecond)) :: codes
  | _, codes => c.toNat :: codes

-- The code points that characters spell.
def codesOf (cs : List Char) : List Nat :=
  cs.foldr readChar []

def codes (text : String) : List Nat :=
  codesOf text.toList

def ofCodes (codes : List Nat) : String :=
  String.ofList (codes.flatMap spell)

-- The text of characters, each of which stands for itself.
def ofChars (cs : List Char) : String :=
  ofCodes (cs.map Char.toNat)

-- The characters of a text, which has some unless there is half of one in it.
def chars? (text : String) : Option (List Char) :=
  (codes text).mapM fun code => if isHalf code then none else some (Char.ofNat code)

def letter (code : Nat) : String :=
  String.ofList (spell code)

-- The texts of one code point each that a text is made of.
def letters (text : String) : List String :=
  (codes text).map letter

-- How many code points a text is made of. What opens a pair does not count.
def size (text : String) : Nat :=
  text.foldl (fun count c => if (opens? c).isSome then count else count + 1) 0

-- A text as often as a number says.
def times (text : String) (count : Nat) : String :=
  if count = 0 then ""
  else
    let half := times text (count / 2)
    if count % 2 = 0 then half ++ half else half ++ half ++ text

theorem toNat_ofNat {n : Nat} (h : n.isValidChar) : (Char.ofNat n).toNat = n := by
  rw [Char.ofNat, dif_pos h]
  rfl

-- Only the openers open pairs.
theorem opens?_eq_none {c : Char} (h : c.toNat < halfOpener ∨ firstSecond ≤ c.toNat) :
    opens? c = none := by
  have hfirst : c.toNat ≠ halfOpener := by
    simp only [halfOpener, firstSecond] at *
    omega
  have hsecond : c.toNat ≠ secondOpener := by
    simp only [halfOpener, secondOpener, firstSecond] at *
    omega
  have hthird : c.toNat ≠ openerOpener := by
    simp only [halfOpener, openerOpener, firstSecond] at *
    omega
  simp only [opens?, hfirst, hsecond, hthird, if_false]

theorem codesOf_pair {opener first offset : Nat} (hoffset : offset < 0x800)
    (hopens : opens? (Char.ofNat opener) = some first) (cs : List Char) :
    codesOf ([Char.ofNat opener, Char.ofNat (firstSecond + offset)] ++ cs) =
      (first + offset) :: codesOf cs := by
  have hsecond : (Char.ofNat (firstSecond + offset)).toNat = firstSecond + offset :=
    toNat_ofNat (by simp only [firstSecond, Nat.isValidChar]; omega)
  have hnone : opens? (Char.ofNat (firstSecond + offset)) = none :=
    opens?_eq_none (.inr (by rw [hsecond]; exact Nat.le_add_right _ _))
  simp only [codesOf, List.cons_append, List.nil_append, List.foldr_cons, readChar, hopens, hnone,
    hsecond, Nat.add_sub_cancel_left]

-- What spells a code point is read as that code point, whatever comes after it.
theorem codesOf_spell_append {code : Nat} (hcode : code < 0x110000) (cs : List Char) :
    codesOf (spell code ++ cs) = code :: codesOf cs := by
  unfold spell pair
  by_cases hhalf : isHalf code = true
  · have hbounds : 0xD800 ≤ code ∧ code < 0xE000 := by simpa [isHalf] using hhalf
    rw [if_pos hhalf, codesOf_pair (by omega) (show opens? (Char.ofNat halfOpener) = some 0xD800 by
      decide), Nat.add_sub_cancel' hbounds.1]
  · have hbounds : ¬(0xD800 ≤ code ∧ code < 0xE000) := by simpa [isHalf] using hhalf
    rw [if_neg hhalf]
    by_cases hplain : code < halfOpener
    · have hc : (Char.ofNat code).toNat = code :=
        toNat_ofNat (by simp only [Nat.isValidChar]; omega)
      have hnone : opens? (Char.ofNat code) = none :=
        opens?_eq_none (.inl (by rw [hc]; exact hplain))
      rw [if_pos hplain]
      simp only [codesOf, List.cons_append, List.nil_append, List.foldr_cons, readChar, hnone, hc]
    · rw [if_neg hplain]
      by_cases hopener : code < firstSecond
      · rw [if_pos hopener, codesOf_pair (by simp only [halfOpener, firstSecond] at *; omega)
          (show opens? (Char.ofNat openerOpener) = some halfOpener by decide),
          Nat.add_sub_cancel' (Nat.le_of_not_lt hplain)]
      · rw [if_neg hopener, codesOf_pair (by simp only [firstSecond] at *; omega)
          (show opens? (Char.ofNat secondOpener) = some firstSecond by decide),
          Nat.add_sub_cancel' (Nat.le_of_not_lt hopener)]

-- A text made of code points is read as them.
theorem codes_ofCodes {list : List Nat} (hcodes : ∀ code ∈ list, code < 0x110000) :
    codes (ofCodes list) = list := by
  simp only [codes, ofCodes, String.toList_ofList]
  induction list with
  | nil => rfl
  | cons code rest ih =>
    rw [List.flatMap_cons, codesOf_spell_append (hcodes code (by simp)),
      ih fun other hother => hcodes other (by simp [hother])]

end StepFlow.Text
