import Mathlib.Tactic.SplitIfs
import StepFlow.Proofs.Outcome
import StepFlow.Text.Utf8

namespace StepFlow.Text

-- The byte sequences of one character, and the code point that each stands for. What is excluded
-- after the leads 0xE0 and 0xF0 has a shorter sequence, after 0xED it is a surrogate, and after
-- 0xF4 it is past the last code point.
inductive Sequence : List UInt8 → Nat → Prop
  | one {a : UInt8} {n : Nat} : a.toNat < 128 → n = a.toNat → Sequence [a] n
  | two {a b : UInt8} {n : Nat} : 194 ≤ a.toNat → a.toNat < 224 → isSecond a b = true →
      n = a.toNat % 32 * 64 + b.toNat % 64 → Sequence [a, b] n
  | three {a b c : UInt8} {n : Nat} : 224 ≤ a.toNat → a.toNat < 240 → isSecond a b = true →
      isContinuation c = true →
      n = (a.toNat % 16 * 64 + b.toNat % 64) * 64 + c.toNat % 64 → Sequence [a, b, c] n
  | four {a b c d : UInt8} {n : Nat} : 240 ≤ a.toNat → a.toNat < 245 → isSecond a b = true →
      isContinuation c = true → isContinuation d = true →
      n = ((a.toNat % 8 * 64 + b.toNat % 64) * 64 + c.toNat % 64) * 64 + d.toNat % 64 →
      Sequence [a, b, c, d] n

theorem isContinuation_iff (b : UInt8) :
    isContinuation b = true ↔ 128 ≤ b.toNat ∧ b.toNat < 192 := by
  simp [isContinuation, UInt8.le_iff_toNat_le, UInt8.lt_iff_toNat_lt]

theorem isSecond_iff (a b : UInt8) :
    isSecond a b = true ↔ 128 ≤ b.toNat ∧ b.toNat < 192 ∧ (a.toNat = 224 → 160 ≤ b.toNat) ∧
      (a.toNat = 237 → b.toNat < 160) ∧ (a.toNat = 240 → 144 ≤ b.toNat) ∧
      (a.toNat = 244 → b.toNat < 144) := by
  simp only [isSecond, ← UInt8.toNat_inj, UInt8.reduceToNat]
  split_ifs <;>
    simp only [isContinuation_iff, Bool.and_eq_true, decide_eq_true_eq, UInt8.le_iff_toNat_le,
      UInt8.lt_iff_toNat_lt, UInt8.reduceToNat] <;> omega

theorem toNat_ofNat_of_isValidChar {n : Nat} (h : n.isValidChar) :
    (Char.ofNat n).val.toNat = n := by
  rw [Char.ofNat, dif_pos h]
  rfl

namespace Sequence

variable {seq : List UInt8} {n : Nat}

theorem isValidChar (h : Sequence seq n) : n.isValidChar := by
  unfold Nat.isValidChar
  cases h with
  | one ha hn => omega
  | two ha ha' hb hn => omega
  | three ha ha' hb hc hn =>
      rw [isSecond_iff] at hb
      omega
  | four ha ha' hb hc hd hn =>
      rw [isSecond_iff] at hb
      omega

-- A sequence is the encoding of the character that it stands for.
theorem utf8EncodeChar_ofNat (h : Sequence seq n) : String.utf8EncodeChar (Char.ofNat n) = seq := by
  have hval := toNat_ofNat_of_isValidChar h.isValidChar
  simp only [String.utf8EncodeChar, hval]
  cases h with
  | one ha hn =>
      rw [if_pos (by omega)]
      simp only [hn, UInt8.ofNat_toNat]
  | two ha ha' hb hn =>
      rw [isSecond_iff] at hb
      rw [if_neg (by omega), if_pos (by omega)]
      simp only [List.cons.injEq, ← UInt8.toNat_inj, UInt8.toNat_ofNat', and_true, Nat.reducePow]
      omega
  | three ha ha' hb hc hn =>
      rw [isSecond_iff] at hb
      rw [isContinuation_iff] at hc
      rw [if_neg (by omega), if_neg (by omega), if_pos (by omega)]
      simp only [List.cons.injEq, ← UInt8.toNat_inj, UInt8.toNat_ofNat', and_true, Nat.reducePow]
      omega
  | four ha ha' hb hc hd hn =>
      rw [isSecond_iff] at hb
      rw [isContinuation_iff] at hc hd
      rw [if_neg (by omega), if_neg (by omega), if_neg (by omega)]
      simp only [List.cons.injEq, ← UInt8.toNat_inj, UInt8.toNat_ofNat', and_true, Nat.reducePow]
      omega

-- The encoding of a character is a sequence that stands for it.
theorem of_utf8EncodeChar (c : Char) : Sequence (String.utf8EncodeChar c) c.toNat := by
  have hvalid : c.toNat.isValidChar := c.valid
  unfold Nat.isValidChar at hvalid
  change Sequence (String.utf8EncodeChar c) c.val.toNat
  change c.val.toNat < 0xd800 ∨ (0xdfff < c.val.toNat ∧ c.val.toNat < 0x110000) at hvalid
  simp only [String.utf8EncodeChar]
  generalize c.val.toNat = v at hvalid ⊢
  split_ifs with h₁ h₂ h₃
  · apply Sequence.one <;> simp only [UInt8.toNat_ofNat', Nat.reducePow] <;> omega
  · apply Sequence.two <;>
      simp only [isSecond_iff, UInt8.toNat_ofNat', Nat.reducePow] <;> omega
  · apply Sequence.three <;>
      simp only [isSecond_iff, isContinuation_iff, UInt8.toNat_ofNat', Nat.reducePow] <;> omega
  · apply Sequence.four <;>
      simp only [isSecond_iff, isContinuation_iff, UInt8.toNat_ofNat', Nat.reducePow] <;> omega

end Sequence

section

variable (position : Nat) (bytes : List UInt8) {a : UInt8}

-- Decoding by the number of bytes that a lead byte asks for.
theorem decodeFrom_one (ha : a.toNat < 128) :
    decodeFrom position (a :: bytes) =
      (decodeFrom (position + 1) bytes).map (Char.ofNat a.toNat :: ·) := by
  rw [decodeFrom.eq_def]
  simp only [UInt8.lt_iff_toNat_lt, UInt8.reduceToNat]
  rw [if_pos ha]

theorem decodeFrom_none (ha : 128 ≤ a.toNat) (hnone : a.toNat < 194 ∨ 245 ≤ a.toNat) :
    decodeFrom position (a :: bytes) = .error ⟨.invalidStart, position, 1, a⟩ := by
  rw [decodeFrom.eq_def]
  simp only [UInt8.lt_iff_toNat_lt, UInt8.le_iff_toNat_le, UInt8.reduceToNat, Bool.or_eq_true,
    decide_eq_true_eq]
  rw [if_neg (by omega), if_pos hnone]

theorem decodeFrom_two (ha : 194 ≤ a.toNat) (ha' : a.toNat < 224) :
    decodeFrom position (a :: bytes) =
      match bytes with
      | [] => .error ⟨.unexpectedEnd, position, 1, a⟩
      | b :: rest =>
        if !isSecond a b then .error ⟨.invalidContinuation, position, 1, a⟩
        else (decodeFrom (position + 2) rest).map (codePoint (a.toNat % 32) [b] :: ·) := by
  rw [decodeFrom.eq_def]
  simp only [UInt8.lt_iff_toNat_lt, UInt8.le_iff_toNat_le, UInt8.reduceToNat, Bool.or_eq_true,
    decide_eq_true_eq]
  rw [if_neg (by omega), if_neg (by omega)]
  rcases bytes with _ | ⟨b, rest⟩ <;> simp only [ha', if_true]

theorem decodeFrom_three (ha : 224 ≤ a.toNat) (ha' : a.toNat < 240) :
    decodeFrom position (a :: bytes) =
      match bytes with
      | [] => .error ⟨.unexpectedEnd, position, 1, a⟩
      | b :: rest =>
        if !isSecond a b then .error ⟨.invalidContinuation, position, 1, a⟩
        else
          match rest with
          | [] => .error ⟨.unexpectedEnd, position, 2, a⟩
          | c :: rest =>
            if !isContinuation c then .error ⟨.invalidContinuation, position, 2, a⟩
            else (decodeFrom (position + 3) rest).map (codePoint (a.toNat % 16) [b, c] :: ·) := by
  rw [decodeFrom.eq_def]
  simp only [UInt8.lt_iff_toNat_lt, UInt8.le_iff_toNat_le, UInt8.reduceToNat, Bool.or_eq_true,
    decide_eq_true_eq]
  rw [if_neg (by omega), if_neg (by omega)]
  rcases bytes with _ | ⟨b, _ | ⟨c, rest⟩⟩ <;>
    simp only [Nat.not_lt.mpr ha, if_false, ha', if_true]

theorem decodeFrom_four (ha : 240 ≤ a.toNat) (ha' : a.toNat < 245) :
    decodeFrom position (a :: bytes) =
      match bytes with
      | [] => .error ⟨.unexpectedEnd, position, 1, a⟩
      | b :: rest =>
        if !isSecond a b then .error ⟨.invalidContinuation, position, 1, a⟩
        else
          match rest with
          | [] => .error ⟨.unexpectedEnd, position, 2, a⟩
          | c :: rest =>
            if !isContinuation c then .error ⟨.invalidContinuation, position, 2, a⟩
            else
              match rest with
              | [] => .error ⟨.unexpectedEnd, position, 3, a⟩
              | d :: rest =>
                if !isContinuation d then .error ⟨.invalidContinuation, position, 3, a⟩
                else
                  (decodeFrom (position + 4) rest).map
                    (codePoint (a.toNat % 8) [b, c, d] :: ·) := by
  rw [decodeFrom.eq_def]
  simp only [UInt8.lt_iff_toNat_lt, UInt8.le_iff_toNat_le, UInt8.reduceToNat, Bool.or_eq_true,
    decide_eq_true_eq]
  rw [if_neg (by omega), if_neg (by omega)]
  rcases bytes with _ | ⟨b, _ | ⟨c, _ | ⟨d, rest⟩⟩⟩ <;>
    simp only [Nat.not_lt.mpr ha, show ¬ a.toNat < 224 by omega, if_false]

end

theorem decodeFrom_nil (position : Nat) : decodeFrom position [] = .ok [] := by
  rw [decodeFrom.eq_def]

variable {position : Nat} {bytes rest : List UInt8} {cs : List Char}

-- Decoding goes on after a sequence with the character that it stands for.
theorem decodeFrom_append {seq : List UInt8} {n : Nat} (h : Sequence seq n) (position : Nat)
    (rest : List UInt8) :
    decodeFrom position (seq ++ rest) =
      (decodeFrom (position + seq.length) rest).map (Char.ofNat n :: ·) := by
  cases h with
  | one ha hn =>
      rw [List.singleton_append, decodeFrom_one _ _ ha, hn]
      rfl
  | two ha ha' hb hn =>
      simp only [List.cons_append, List.nil_append, decodeFrom_two _ _ ha ha', hb, hn]
      rfl
  | three ha ha' hb hc hn =>
      simp only [List.cons_append, List.nil_append, decodeFrom_three _ _ ha ha', hb, hc, hn]
      rfl
  | four ha ha' hb hc hd hn =>
      simp only [List.cons_append, List.nil_append, decodeFrom_four _ _ ha ha', hb, hc, hd, hn]
      rfl

-- Bytes start with a sequence, or decoding fails where they start, if there are any.
theorem decodeFrom_cases (position : Nat) (bytes : List UInt8) :
    bytes = [] ∨ (∃ bad, decodeFrom position bytes = .error bad ∧ bad.position = position) ∨
      ∃ seq n rest, Sequence seq n ∧ bytes = seq ++ rest := by
  rcases bytes with _ | ⟨a, bytes⟩
  · exact .inl rfl
  right
  by_cases hone : a.toNat < 128
  · exact .inr ⟨[a], _, bytes, .one hone rfl, rfl⟩
  by_cases hnone : a.toNat < 194 ∨ 245 ≤ a.toNat
  · exact .inl ⟨_, decodeFrom_none _ _ (by omega) hnone, rfl⟩
  have hlead : 194 ≤ a.toNat := by omega
  have hlast : a.toNat < 245 := by omega
  by_cases htwo : a.toNat < 224
  · rw [decodeFrom_two _ _ hlead htwo]
    rcases bytes with _ | ⟨b, rest⟩
    · exact .inl ⟨_, rfl, rfl⟩
    cases hb : isSecond a b with
    | false => exact .inl ⟨_, by simp only [hb]; rfl, rfl⟩
    | true => exact .inr ⟨[a, b], _, rest, .two hlead htwo hb rfl, rfl⟩
  by_cases hthree : a.toNat < 240
  · rw [decodeFrom_three _ _ (by omega) hthree]
    rcases bytes with _ | ⟨b, rest⟩
    · exact .inl ⟨_, rfl, rfl⟩
    cases hb : isSecond a b with
    | false => exact .inl ⟨_, by simp only [hb]; rfl, rfl⟩
    | true =>
      rcases rest with _ | ⟨c, rest⟩
      · exact .inl ⟨_, by simp only [hb]; rfl, rfl⟩
      cases hc : isContinuation c with
      | false => exact .inl ⟨_, by simp only [hb, hc]; rfl, rfl⟩
      | true => exact .inr ⟨[a, b, c], _, rest, .three (by omega) hthree hb hc rfl, rfl⟩
  · rw [decodeFrom_four _ _ (by omega) hlast]
    rcases bytes with _ | ⟨b, rest⟩
    · exact .inl ⟨_, rfl, rfl⟩
    cases hb : isSecond a b with
    | false => exact .inl ⟨_, by simp only [hb]; rfl, rfl⟩
    | true =>
      rcases rest with _ | ⟨c, rest⟩
      · exact .inl ⟨_, by simp only [hb]; rfl, rfl⟩
      cases hc : isContinuation c with
      | false => exact .inl ⟨_, by simp only [hb, hc]; rfl, rfl⟩
      | true =>
        rcases rest with _ | ⟨d, rest⟩
        · exact .inl ⟨_, by simp only [hb, hc]; rfl, rfl⟩
        cases hd : isContinuation d with
        | false => exact .inl ⟨_, by simp only [hb, hc, hd]; rfl, rfl⟩
        | true => exact .inr ⟨[a, b, c, d], _, rest, .four (by omega) hlast hb hc hd rfl, rfl⟩

-- Decoding goes on after the encodings of characters with these.
theorem decodeFrom_encoded_append (position : Nat) (cs : List Char) (rest : List UInt8) :
    decodeFrom position (cs.flatMap String.utf8EncodeChar ++ rest) =
      (decodeFrom (position + (cs.flatMap String.utf8EncodeChar).length) rest).map (cs ++ ·) := by
  induction cs generalizing position with
  | nil => cases h : decodeFrom position rest <;> simp [h, Except.map]
  | cons c cs ih =>
      have hseq := Sequence.of_utf8EncodeChar c
      rw [List.flatMap_cons, List.append_assoc, decodeFrom_append hseq, ih, Char.ofNat_toNat,
        List.length_append, ← Nat.add_assoc]
      cases decodeFrom _ rest <;> rfl

-- What decodes is the encodings of its characters.
theorem eq_encoded_of_decodeFrom (h : decodeFrom position bytes = .ok cs) :
    bytes = cs.flatMap String.utf8EncodeChar := by
  induction cs generalizing position bytes with
  | nil =>
      obtain rfl | ⟨bad, hbad, -⟩ | ⟨seq, n, rest, hseq, rfl⟩ := decodeFrom_cases position bytes
      · rfl
      · cases h.symm.trans hbad
      · rw [decodeFrom_append hseq, map_eq_ok_iff] at h
        obtain ⟨_, -, hcs⟩ := h
        cases hcs
  | cons c cs ih =>
      obtain rfl | ⟨bad, hbad, -⟩ | ⟨seq, n, rest, hseq, rfl⟩ := decodeFrom_cases position bytes
      · rw [decodeFrom_nil] at h
        cases h
      · cases h.symm.trans hbad
      · rw [decodeFrom_append hseq, map_eq_ok_iff] at h
        obtain ⟨more, hmore, hcs⟩ := h
        cases hcs
        rw [List.flatMap_cons, hseq.utf8EncodeChar_ofNat, ← ih hmore]

-- Bytes decode to characters exactly if they are the encodings of these.
theorem decodeFrom_eq_ok_iff (position : Nat) (bytes : List UInt8) (cs : List Char) :
    decodeFrom position bytes = .ok cs ↔ bytes = cs.flatMap String.utf8EncodeChar := by
  refine ⟨eq_encoded_of_decodeFrom, ?_⟩
  rintro rfl
  have h := decodeFrom_encoded_append position cs []
  rw [List.append_nil, decodeFrom_nil] at h
  rw [h, Except.map, List.append_nil]

-- The encodings of some characters start with those of others only if these come first.
theorem exists_eq_append_of_encoded {text : List Char}
    (h : cs.flatMap String.utf8EncodeChar ++ rest = text.flatMap String.utf8EncodeChar) :
    ∃ more, text = cs ++ more ∧ rest = more.flatMap String.utf8EncodeChar := by
  have htext := (decodeFrom_eq_ok_iff 0 _ text).mpr h
  rw [decodeFrom_encoded_append, map_eq_ok_iff] at htext
  obtain ⟨more, hmore, rfl⟩ := htext
  exact ⟨more, rfl, eq_encoded_of_decodeFrom hmore⟩

-- Where decoding fails, the bytes before are the encodings of some characters.
theorem exists_encoded_of_decodeFrom_error {bad : Undecodable}
    (h : decodeFrom position bytes = .error bad) :
    ∃ (cs : List Char) (rest : List UInt8),
      bytes = cs.flatMap String.utf8EncodeChar ++ rest ∧
      bad.position = position + (cs.flatMap String.utf8EncodeChar).length := by
  induction hlength : bytes.length using Nat.strongRecOn generalizing position bytes with
  | ind length ih =>
    obtain rfl | ⟨_, hbad, hposition⟩ | ⟨seq, n, rest, hseq, rfl⟩ := decodeFrom_cases position bytes
    · rw [decodeFrom_nil] at h
      cases h
    · cases h.symm.trans hbad
      exact ⟨[], bytes, rfl, hposition⟩
    · rw [decodeFrom_append hseq, map_eq_error_iff] at h
      have hpos : 0 < seq.length := by cases hseq <;> exact Nat.zero_lt_succ _
      obtain ⟨cs, left, rfl, hposition⟩ :=
        ih rest.length (by rw [← hlength, List.length_append]; omega) h rfl
      refine ⟨Char.ofNat n :: cs, left, ?_, ?_⟩
      · rw [List.flatMap_cons, hseq.utf8EncodeChar_ofNat, List.append_assoc]
      · rw [hposition, List.flatMap_cons, hseq.utf8EncodeChar_ofNat, List.length_append]
        omega

-- A sequence that is cut off ends too early.
theorem cause_of_decodeFrom_cutOff {seq more : List UInt8} {n : Nat} {bad : Undecodable}
    (hseq : Sequence seq n) (hmore : bytes ++ more = seq) (hne : more ≠ [])
    (h : decodeFrom position bytes = .error bad) : bad.cause = .unexpectedEnd := by
  have hstop (tail : List UInt8) : [] ≠ tail ++ more := fun hnil =>
    hne (List.append_eq_nil_iff.mp hnil.symm).2
  rcases bytes with _ | ⟨a, bytes⟩
  · rw [decodeFrom_nil] at h
    cases h
  cases hseq with
  | one ha hn =>
      obtain ⟨rfl, htail⟩ := List.cons.inj hmore
      exact absurd htail.symm (hstop _)
  | two ha ha' hb hn =>
      obtain ⟨rfl, htail⟩ := List.cons.inj hmore
      rw [decodeFrom_two _ _ ha ha'] at h
      obtain ⟨rfl, -⟩ | ⟨tail, rfl, hrest⟩ := List.append_eq_cons_iff.mp htail
      · cases h
        rfl
      · exact absurd hrest (hstop _)
  | three ha ha' hb hc hn =>
      obtain ⟨rfl, htail⟩ := List.cons.inj hmore
      rw [decodeFrom_three _ _ ha ha'] at h
      obtain ⟨rfl, -⟩ | ⟨tail, rfl, hrest⟩ := List.append_eq_cons_iff.mp htail
      · cases h
        rfl
      simp only [hb] at h
      obtain ⟨rfl, -⟩ | ⟨tail, rfl, hlast⟩ := List.append_eq_cons_iff.mp hrest.symm
      · cases h
        rfl
      · exact absurd hlast (hstop _)
  | four ha ha' hb hc hd hn =>
      obtain ⟨rfl, htail⟩ := List.cons.inj hmore
      rw [decodeFrom_four _ _ ha ha'] at h
      obtain ⟨rfl, -⟩ | ⟨tail, rfl, hrest⟩ := List.append_eq_cons_iff.mp htail
      · cases h
        rfl
      simp only [hb] at h
      obtain ⟨rfl, -⟩ | ⟨tail, rfl, hmiddle⟩ := List.append_eq_cons_iff.mp hrest.symm
      · cases h
        rfl
      simp only [hc] at h
      obtain ⟨rfl, -⟩ | ⟨tail, rfl, hlast⟩ := List.append_eq_cons_iff.mp hmiddle.symm
      · cases h
        rfl
      · exact absurd hlast (hstop _)

-- Bytes that can be continued to the encodings of characters fail to decode only because they end
-- too early.
theorem cause_of_decodeFrom_error {more : List UInt8} {bad : Undecodable}
    (hmore : bytes ++ more = cs.flatMap String.utf8EncodeChar)
    (h : decodeFrom position bytes = .error bad) : bad.cause = .unexpectedEnd := by
  induction cs generalizing position bytes with
  | nil =>
      obtain ⟨rfl, -⟩ := List.append_eq_nil_iff.mp hmore
      rw [decodeFrom_nil] at h
      cases h
  | cons c cs ih =>
      have hseq := Sequence.of_utf8EncodeChar c
      rw [List.flatMap_cons, List.append_eq_append_iff] at hmore
      obtain ⟨cut, hcut, hmore⟩ | ⟨rest, rfl, hmore⟩ := hmore
      · cases cut with
        | nil =>
            rw [List.append_nil] at hcut
            rw [← hcut, ← List.append_nil (String.utf8EncodeChar c), decodeFrom_append hseq,
              decodeFrom_nil] at h
            cases h
        | cons b cut => exact cause_of_decodeFrom_cutOff hseq hcut.symm (List.cons_ne_nil b cut) h
      · rw [decodeFrom_append hseq, map_eq_error_iff] at h
        exact ih hmore.symm h

end StepFlow.Text
