import StepFlow.Proofs.Utf8
import StepFlow.Text.Stream

namespace StepFlow.Text

variable {bytes more left unread : List UInt8} {cs text : List Char} {bad : Undecodable}

-- What a chunk gives and leaves over is the chunk.
theorem eq_append_of_decodeChunk (h : decodeChunk bytes = .ok (cs, left)) :
    bytes = cs.flatMap String.utf8EncodeChar ++ left := by
  rw [decodeChunk] at h
  split at h
  next hdecode =>
    cases h
    rw [List.append_nil]
    exact eq_encoded_of_decodeFrom hdecode
  next bad hdecode =>
    split at h
    next =>
      obtain ⟨cs, htake, hcs⟩ := map_eq_ok_iff.mp h
      cases hcs
      rw [← eq_encoded_of_decodeFrom htake, List.take_append_drop]
    next => cases h

-- A chunk that fails to decode cannot be continued to the encodings of characters.
theorem ne_encoded_of_decodeChunk (h : decodeChunk bytes = .error bad) (more : List UInt8)
    (text : List Char) : bytes ++ more ≠ text.flatMap String.utf8EncodeChar := by
  intro hmore
  rw [decodeChunk] at h
  split at h
  next => cases h
  next cause hdecode =>
    have hend := cause_of_decodeFrom_error hmore hdecode
    obtain ⟨cs, rest, rfl, hposition⟩ := exists_encoded_of_decodeFrom_error hdecode
    rw [Nat.zero_add] at hposition
    have htake := (decodeFrom_eq_ok_iff 0 (cs.flatMap String.utf8EncodeChar) cs).mpr rfl
    rw [Undecodable.isOpen, hend, hposition, List.take_left, htake] at h
    cases h

namespace Stream

theorem chunkSize_pos (bytes characters wanted : Nat) : 0 < chunkSize bytes characters wanted :=
  Nat.lt_of_lt_of_le (by decide) (Nat.le_max_left 8192 _)

-- A chunk moves characters from what is left over and not read yet to the text, or breaks the file
-- off, if what there is are not the encodings of any.
theorem readChunks_step (hne : unread ≠ []) (count : Nat) (text : List Char) (left : List UInt8)
    (measure : Nat × Nat) :
    (∃ (cs : List Char) (left' rest : List UInt8) (measure' : Nat × Nat),
      left ++ unread = cs.flatMap String.utf8EncodeChar ++ (left' ++ rest) ∧
      rest.length < unread.length ∧
      readChunks (count + 1) text left measure unread =
        readChunks count (text ++ cs) left' measure' rest) ∨
    ((∀ cs : List Char, left ++ unread ≠ cs.flatMap String.utf8EncodeChar) ∧
      ∃ bad, (readChunks (count + 1) text left measure unread).broken? = some bad) := by
  rw [readChunks]
  · have hpos := chunkSize_pos measure.1 measure.2 (request - (settled text).length % request)
    generalize chunkSize _ _ _ = size at hpos
    have hunread : left ++ unread = left ++ unread.take size ++ unread.drop size := by
      rw [List.append_assoc, List.take_append_drop]
    rw [hunread]
    cases hdecode : decodeChunk (left ++ unread.take size) with
    | ok decoded =>
        refine .inl ⟨decoded.1, decoded.2, unread.drop size, _, ?_, ?_, rfl⟩
        · rw [eq_append_of_decodeChunk hdecode, List.append_assoc]
        · have hlength := List.length_pos_iff.mpr hne
          rw [List.length_drop]
          omega
    | error bad => exact .inr ⟨ne_encoded_of_decodeChunk hdecode _, bad, rfl⟩
  · exact hne

-- All characters are read if what is left over and not read yet are the encodings of some. Else the
-- file breaks off.
theorem readChunks_cases {count : Nat} (hcount : unread.length < count) (text : List Char)
    (left : List UInt8) (measure : Nat × Nat) :
    (∃ cs : List Char, left ++ unread = cs.flatMap String.utf8EncodeChar ∧
      readChunks count text left measure unread = ⟨unifyLineEnds (text ++ cs), none⟩) ∨
    ((∀ cs : List Char, left ++ unread ≠ cs.flatMap String.utf8EncodeChar) ∧
      ∃ bad, (readChunks count text left measure unread).broken? = some bad) := by
  induction count generalizing text left measure unread with
  | zero => exact absurd hcount (Nat.not_lt_zero _)
  | succ count ih =>
    by_cases hne : unread = []
    · subst hne
      rw [List.append_nil, readChunks]
      cases hdecode : decodeFrom 0 left with
      | ok cs => exact .inl ⟨cs, eq_encoded_of_decodeFrom hdecode, rfl⟩
      | error bad =>
          refine .inr ⟨fun cs hcs => ?_, bad, rfl⟩
          cases hdecode.symm.trans ((decodeFrom_eq_ok_iff 0 left cs).mpr hcs)
    obtain ⟨cs, left', rest, measure', hsplit, hrest, hread⟩ | hbroken :=
      readChunks_step hne count text left measure
    · have hlength : rest.length < count := by omega
      rw [hread, hsplit]
      obtain ⟨more, hmore, hread⟩ | ⟨hnone, hbroken⟩ := ih hlength (text ++ cs) left' measure'
      · refine .inl ⟨cs ++ more, ?_, ?_⟩
        · rw [hmore, List.flatMap_append]
        · rw [hread, List.append_assoc]
      · refine .inr ⟨fun all hall => ?_, hbroken⟩
        obtain ⟨more, -, hmore⟩ := exists_eq_append_of_encoded hall
        exact hnone more hmore
    · exact .inr hbroken

-- A file that holds the encodings of characters gives them, and then its end.
theorem ofBytes_encoded (text : List Char) :
    ofBytes (text.flatMap String.utf8EncodeChar) = ⟨unifyLineEnds text, none⟩ := by
  obtain ⟨cs, hcs, hread⟩ | ⟨hnone, -⟩ :=
    readChunks_cases (Nat.lt_succ_self (text.flatMap String.utf8EncodeChar).length) [] [] (0, 0)
  · have htext := (decodeFrom_eq_ok_iff 0 _ text).mpr rfl
    cases htext.symm.trans ((decodeFrom_eq_ok_iff 0 _ cs).mpr hcs)
    exact hread
  · exact absurd rfl (hnone text)

-- A file breaks off exactly if it does not hold the encodings of any characters.
theorem broken?_ofBytes_eq_none_iff (bytes : List UInt8) :
    (ofBytes bytes).broken? = none ↔
      ∃ text : List Char, bytes = text.flatMap String.utf8EncodeChar := by
  constructor
  · intro h
    obtain ⟨cs, hcs, -⟩ | ⟨-, bad, hbad⟩ :=
      readChunks_cases (Nat.lt_succ_self bytes.length) [] [] (0, 0)
    · exact ⟨cs, hcs⟩
    · cases h.symm.trans hbad
  · rintro ⟨text, rfl⟩
    rw [ofBytes_encoded]

end Stream

end StepFlow.Text
