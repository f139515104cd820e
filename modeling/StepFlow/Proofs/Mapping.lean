import StepFlow.Value.Mapping
import Mathlib.Data.List.Induction

namespace StepFlow

namespace Value

theorem sameKey_comm (a b : Value) : a.sameKey b = b.sameKey a := by
  rw [Bool.eq_iff_iff, sameKey_iff, sameKey_iff]
  exact eq_comm

-- Values with one key are the same key as the same values.
theorem sameKey_congr {a b : Value} (h : a.sameKey b = true) (c : Value) :
    a.sameKey c = b.sameKey c := by
  simp only [sameKey, sameKey_iff.mp h]

end Value

namespace Entries

theorem find?_append (entries more : Entries) (key : Value) :
    find? (entries ++ more) key = (find? entries key).or (find? more key) := by
  induction entries with
  | nil => rfl
  | cons entry entries ih =>
      obtain ⟨k, v⟩ := entry
      rw [List.cons_append, find?_cons, find?_cons, ih]
      split <;> rfl

theorem contains_eq_any (entries : Entries) (key : Value) :
    contains entries key = (keys entries).any fun k => k.sameKey key := by
  induction entries with
  | nil => rfl
  | cons entry entries ih =>
      obtain ⟨k, v⟩ := entry
      simp only [contains, keys, find?_cons, List.map_cons, List.any_cons] at ih ⊢
      cases h : k.sameKey key with
      | true => rfl
      | false => simpa using ih

-- What is found in a merged mapping is what was stored last.
theorem find?_merge (earlier later : Entries) (key : Value) :
    find? (merge earlier later) key = (find? later.reverse key).or (find? earlier key) := by
  induction later generalizing earlier with
  | nil => rfl
  | cons entry later ih =>
      obtain ⟨k, v⟩ := entry
      rw [merge_cons, ih, find?_insert, List.reverse_cons, find?_append, Option.or_assoc]
      congr 1
      rw [find?_cons, find?_nil]
      split <;> rfl

theorem contains_congr (entries : Entries) {key other : Value} (h : key.sameKey other = true) :
    contains entries key = contains entries other := by
  simp only [contains_eq_any, Value.sameKey_comm _ key, Value.sameKey_comm _ other,
    Value.sameKey_congr h]

theorem find?_eq_none_iff (entries : Entries) (key : Value) :
    find? entries key = none ↔ contains entries key = false := by
  rw [contains, Option.isSome_eq_false_iff, Option.isNone_iff_eq_none]

theorem distinct_iff (entries : Entries) :
    Distinct entries ↔ (keys entries).Pairwise fun a b => a.sameKey b = false := by
  rw [Distinct, keys, List.pairwise_map]

theorem distinct_cons {entry : Value × Value} {entries : Entries} :
    Distinct (entry :: entries) ↔ contains entries entry.1 = false ∧ Distinct entries := by
  simp only [distinct_iff, contains_eq_any, keys, List.map_cons, List.pairwise_cons,
    List.any_eq_false, Bool.not_eq_true, Value.sameKey_comm entry.1]

-- Without two entries of one key the order of a search does not matter.
theorem find?_reverse {entries : Entries} (h : Distinct entries) (key : Value) :
    find? entries.reverse key = find? entries key := by
  induction entries with
  | nil => rfl
  | cons entry entries ih =>
      obtain ⟨hnew, hrest⟩ := distinct_cons.mp h
      obtain ⟨k, v⟩ := entry
      rw [List.reverse_cons, find?_append, ih hrest, find?_cons, find?_cons, find?_nil]
      by_cases hk : k.sameKey key = true
      · rw [contains_congr entries hk, ← find?_eq_none_iff] at hnew
        simp only [hnew, hk, if_true, Option.none_or]
      · simp only [hk, if_false, Bool.false_eq_true, Option.or_none]

theorem find?_merge_of_distinct (earlier : Entries) {later : Entries} (h : Distinct later)
    (key : Value) : find? (merge earlier later) key = (find? later key).or (find? earlier key) := by
  rw [find?_merge, find?_reverse h]

theorem Distinct.perm {entries other : Entries} (h : Distinct entries)
    (hperm : entries.Perm other) : Distinct other :=
  List.Pairwise.perm h hperm fun hne => by rwa [Value.sameKey_comm]

-- Nor does the order of the entries.
theorem find?_perm {entries other : Entries} (h : Distinct entries) (hperm : entries.Perm other)
    (key : Value) : find? entries key = find? other key := by
  induction hperm with
  | nil => rfl
  | cons entry _ ih =>
      obtain ⟨k, v⟩ := entry
      rw [find?_cons, find?_cons, ih (distinct_cons.mp h).2]
  | swap entry next entries =>
      obtain ⟨k, v⟩ := entry
      obtain ⟨k', v'⟩ := next
      have hother : k'.sameKey k = false :=
        (List.pairwise_cons.mp h).1 (k, v) List.mem_cons_self
      simp only [find?_cons]
      by_cases hk : k.sameKey key = true
      · have hk' : k'.sameKey key = false := by
          rw [Value.sameKey_comm k', ← Value.sameKey_congr hk, Value.sameKey_comm, hother]
        simp [hk, hk']
      · simp [hk]
  | trans hfirst _ ih ih' => exact (ih h).trans (ih' (h.perm hfirst))

-- A new key goes to the end, and a key that is present stays where it is.
theorem keys_insert (entries : Entries) (key value : Value) :
    keys (insert entries key value) =
      if contains entries key then keys entries else keys entries ++ [key] := by
  induction entries with
  | nil => rfl
  | cons entry entries ih =>
      obtain ⟨k, v⟩ := entry
      simp only [keys] at ih ⊢
      by_cases hk : k.sameKey key = true
      · simp [insert, hk, contains, find?_cons]
      · have hrest : contains ((k, v) :: entries) key = contains entries key := by
          simp [contains, find?_cons, hk]
        rw [insert, if_neg hk, List.map_cons, ih, hrest, List.map_cons]
        split <;> rfl

theorem insert_of_contains_eq_false {entries : Entries} {key : Value}
    (h : contains entries key = false) (value : Value) :
    insert entries key value = entries ++ [(key, value)] := by
  induction entries with
  | nil => rfl
  | cons entry entries ih =>
      obtain ⟨k, v⟩ := entry
      rw [contains_eq_any, keys, List.map_cons, List.any_cons, Bool.or_eq_false_iff] at h
      rw [insert, if_neg (by simp [h.1]), ih (by simpa [contains_eq_any, keys] using h.2)]
      rfl

theorem distinct_insert {entries : Entries} (h : Distinct entries) (key value : Value) :
    Distinct (insert entries key value) := by
  rw [distinct_iff] at h ⊢
  rw [keys_insert]
  by_cases hkey : contains entries key = true
  · rw [if_pos hkey]
    exact h
  · rw [if_neg hkey, List.pairwise_append]
    refine ⟨h, List.pairwise_singleton .., ?_⟩
    simpa [contains_eq_any] using hkey

theorem distinct_merge {earlier : Entries} (h : Distinct earlier) (later : Entries) :
    Distinct (merge earlier later) := by
  induction later generalizing earlier with
  | nil => exact h
  | cons entry later ih => exact ih (distinct_insert h entry.1 entry.2)

-- The keys among some that are the same as none before them.
def firstOfEach (ks : List Value) : List Value :=
  ks.eraseDupsBy Value.sameKey

private theorem any_filter_other {k key : Value} (h : key.sameKey k = false) (ks : List Value) :
    ((ks.filter fun b => b.sameKey k = false).any fun b => b.sameKey key) =
      ks.any fun b => b.sameKey key := by
  rw [List.any_filter]
  congr 1
  funext b
  by_cases hb : b.sameKey key = true
  · simp [Value.sameKey_congr hb, h]
  · simp [hb]

theorem any_firstOfEach (ks : List Value) (key : Value) :
    ((firstOfEach ks).any fun b => b.sameKey key) = ks.any fun b => b.sameKey key := by
  match ks with
  | [] => rfl
  | k :: ks =>
      have ih := any_firstOfEach (ks.filter fun b => b.sameKey k = false) key
      rw [firstOfEach] at ih ⊢
      rw [List.eraseDupsBy_cons, List.any_cons, List.any_cons, ih]
      by_cases hk : k.sameKey key = true
      · simp [hk]
      · rw [any_filter_other (by simpa [Value.sameKey_comm key] using hk)]
termination_by ks.length
decreasing_by exact Nat.lt_succ_of_le (List.length_filter_le ..)

-- A key at the end is new, or it is left out.
theorem firstOfEach_concat (ks : List Value) (key : Value) :
    firstOfEach (ks ++ [key]) =
      if ks.any fun b => b.sameKey key then firstOfEach ks else firstOfEach ks ++ [key] := by
  match ks with
  | [] => rfl
  | k :: ks =>
      have ih := firstOfEach_concat (ks.filter fun b => b.sameKey k = false) key
      rw [firstOfEach, firstOfEach] at ih ⊢
      rw [List.cons_append, List.eraseDupsBy_cons, List.eraseDupsBy_cons, List.filter_append,
        List.any_cons]
      by_cases hk : k.sameKey key = true
      · simp [hk, Value.sameKey_comm key]
      · have hkey : key.sameKey k = false := by simpa [Value.sameKey_comm key] using hk
        rw [any_filter_other hkey] at ih
        simp only [List.filter_cons, hkey, decide_true, if_true, List.filter_nil, hk,
          Bool.false_or, ih]
        split <;> rfl
termination_by ks.length
decreasing_by exact Nat.lt_succ_of_le (List.length_filter_le ..)

-- Merging adds the keys of the later mapping to those that led to the earlier one.
theorem keys_merge {earlier : Entries} {ks : List Value} (h : keys earlier = firstOfEach ks)
    (later : Entries) : keys (merge earlier later) = firstOfEach (ks ++ keys later) := by
  induction later generalizing earlier ks with
  | nil => simpa [keys] using h
  | cons entry later ih =>
      obtain ⟨k, v⟩ := entry
      have hinsert : keys (insert earlier k v) = firstOfEach (ks ++ [k]) := by
        rw [keys_insert, firstOfEach_concat, contains_eq_any, h, any_firstOfEach]
      rw [merge_cons, ih hinsert, List.append_assoc]
      rfl

-- The mapping that contributions make up, one merged over the other.
def union (contributions : List Entries) : Entries :=
  contributions.foldl merge []

-- The value of a key in the last contribution that has it.
def latest? (contributions : List Entries) (key : Value) : Option Value :=
  contributions.reverse.findSome? fun entries => find? entries key

theorem union_concat (contributions : List Entries) (last : Entries) :
    union (contributions ++ [last]) = merge (union contributions) last := by
  simp [union]

theorem latest?_concat (contributions : List Entries) (last : Entries) (key : Value) :
    latest? (contributions ++ [last]) key =
      (find? last key).or (latest? contributions key) := by
  rw [latest?, List.reverse_append, List.findSome?_append]
  cases h : find? last key <;> simp [h, latest?]

theorem distinct_union (contributions : List Entries) : Distinct (union contributions) := by
  induction contributions using List.reverseRecOn with
  | nil => exact List.Pairwise.nil
  | append_singleton contributions last ih =>
      rw [union_concat]
      exact distinct_merge ih last

theorem find?_union {contributions : List Entries} (h : ∀ c ∈ contributions, Distinct c)
    (key : Value) : find? (union contributions) key = latest? contributions key := by
  induction contributions using List.reverseRecOn with
  | nil => rfl
  | append_singleton contributions last ih =>
      have hlast := h last (by simp)
      have hbefore := ih fun c hc => h c (by simp [hc])
      rw [union_concat, find?_merge_of_distinct _ hlast, hbefore, latest?_concat]

theorem keys_union (contributions : List Entries) :
    keys (union contributions) = firstOfEach (contributions.flatMap keys) := by
  induction contributions using List.reverseRecOn with
  | nil => rfl
  | append_singleton contributions last ih =>
      rw [union_concat, keys_merge ih, List.flatMap_append, List.flatMap_singleton]

-- No key is lost, and none is there that nobody contributed.
theorem contains_union (contributions : List Entries) (key : Value) :
    contains (union contributions) key = contributions.any fun c => contains c key := by
  rw [contains_eq_any, keys_union, any_firstOfEach, List.any_flatMap]
  simp only [contains_eq_any]

-- A mapping that is made up of contributions: each key that one of them has, once, where it was
-- contributed first, with the value of the last one that has it.
structure IsUnion (entries : Entries) (contributions : List Entries) : Prop where
  distinct : Distinct entries
  contains : ∀ key, entries.contains key = contributions.any fun c => c.contains key
  latest : ∀ key, entries.find? key = latest? contributions key
  order : entries.keys = firstOfEach (contributions.flatMap keys)

theorem isUnion_union {contributions : List Entries} (h : ∀ c ∈ contributions, Distinct c) :
    (union contributions).IsUnion contributions where
  distinct := distinct_union contributions
  contains := contains_union contributions
  latest := find?_union h
  order := keys_union contributions

-- One mapping makes up itself.
theorem union_singleton {entries : Entries} (h : Distinct entries) : union [entries] = entries := by
  suffices hall : ∀ earlier later : Entries, Distinct (earlier ++ later) →
      merge earlier later = earlier ++ later from hall [] entries h
  intro earlier later hdistinct
  induction later generalizing earlier with
  | nil => simp
  | cons entry later ih =>
      obtain ⟨k, v⟩ := entry
      have hnew : contains earlier k = false := by
        have hbefore := (List.pairwise_append.mp hdistinct).2.2
        simpa [contains_eq_any, keys] using fun a b hab => hbefore (a, b) hab (k, v) (by simp)
      rw [merge_cons, insert_of_contains_eq_false hnew, ih _ (by simpa using hdistinct)]
      simp

end Entries

end StepFlow
