import StepFlow.Value.Key

namespace StepFlow.Entries

def find? (entries : Entries) (key : Value) : Option Value :=
  match entries with
  | [] => none
  | (k, v) :: rest => if k.sameKey key then some v else find? rest key

def contains (entries : Entries) (key : Value) : Bool :=
  (find? entries key).isSome

-- A key that is present keeps its first form and its place; a new key goes to the end.
def insert (entries : Entries) (key value : Value) : Entries :=
  match entries with
  | [] => [(key, value)]
  | (k, v) :: rest => if k.sameKey key then (k, value) :: rest else (k, v) :: insert rest key value

-- Stores the entries of `later` over those of `earlier`.
def merge (earlier later : Entries) : Entries :=
  later.foldl (fun entries (k, v) => insert entries k v) earlier

-- The mapping that a sequence of pairs describes.
def ofPairs (pairs : List (Value × Value)) : Entries :=
  merge [] pairs

def keys (entries : Entries) : List Value :=
  entries.map Prod.fst

-- Looking up a text.
def get? (entries : Entries) (name : String) : Option Value :=
  find? entries (.str name)

-- No two entries have one key.
def Distinct (entries : Entries) : Prop :=
  entries.Pairwise fun a b => a.1.sameKey b.1 = false

@[simp]
theorem find?_nil (key : Value) : find? [] key = none := rfl

theorem find?_cons (k v : Value) (rest : Entries) (key : Value) :
    find? ((k, v) :: rest) key = if k.sameKey key then some v else find? rest key := rfl

-- What is stored under a key is found under every key that is the same.
theorem find?_insert (entries : Entries) (key value other : Value) :
    find? (insert entries key value) other =
      if key.sameKey other then some value else find? entries other := by
  induction entries with
  | nil => rfl
  | cons entry rest ih =>
    obtain ⟨k, v⟩ := entry
    by_cases hk : k.sameKey key = true
    · have hsame : k.sameKey other = key.sameKey other := by
        simp only [Value.sameKey, Value.sameKey_iff.mp hk]
      simp only [insert, hk, if_true, find?_cons, hsame]
      split <;> rfl
    · simp only [insert, hk, find?_cons, ih, Bool.false_eq_true, if_false]
      by_cases ho : k.sameKey other = true
      · have hne : key.sameKey other = false := by
          rw [Bool.eq_false_iff]
          intro h
          exact hk (Value.sameKey_iff.mpr
            ((Value.sameKey_iff.mp ho).trans (Value.sameKey_iff.mp h).symm))
        simp [ho, hne]
      · simp [ho]

@[simp]
theorem merge_nil (entries : Entries) : merge entries [] = entries := rfl

theorem merge_cons (entries : Entries) (key value : Value) (later : Entries) :
    merge entries ((key, value) :: later) = merge (insert entries key value) later := rfl

end StepFlow.Entries
