import StepFlow.Run.Items
import StepFlow.Text.Identifier

namespace StepFlow.Require

open StepFlow.Text

def mapping (v : Value) (context : String) : Except Unmet Entries :=
  match v.entries? with
  | some entries => .ok entries
  | none => .error (.mapping context)

-- Only lists and tuples count; texts and other sequences do not.
def list (v : Value) (context : String) (allowEmpty : Bool) : Except Unmet (List Value) :=
  match v.items? with
  | none => .error (.list context v.typeName)
  | some items =>
    if !allowEmpty && items.isEmpty then .error (.nonEmptyList context) else .ok items

def identifier (v : Value) (context : String) : Except Unmet Name :=
  match v.name? with
  | some name =>
    if isBindable name.word then .ok name else .error (.identifier context name.quoted)
  | none => do .error (.text context (← v.quotedForm))

-- The item that a mapping has to have.
def item (v key : Value) (context : String) : Except Fault Value :=
  match v.entries? with
  | none => .error (.unmet (.mapping context))
  | some entries => do
    key.hashed
    match Entries.find? entries key with
    | some found => return found
    | none => .error (.unmet (.key (← Fault.met key.plainForm) context))

-- The first name whose word stands in the list before.
def firstRepeated? : List String → List Name → Option Name
  | _, [] => none
  | seen, name :: names =>
    if seen.contains name.word then some name else firstRepeated? (name.word :: seen) names

def distinct (names : List Name) (context : String) : Except Unmet Unit :=
  match firstRepeated? [] names with
  | some name => .error (.distinct context name.plain)
  | none => .ok ()

-- One more value beside those seen before, with which it is compared as a key.
def addDistinct (context : String) (seen : List Value) (v : Value) :
    Except Fault (List Value) := do
  v.hashed
  if seen.any v.sameKey then
    .error (.unmet (.distinct context (← Fault.met v.plainForm)))
  else return v :: seen

-- The same as `distinct` for the items of any value.
def distinctItems (names : Value) (context : String) : Run Unit := do
  let _ ← Run.foldItems names (fun seen v => addDistinct context seen v) []

theorem identifier_eq_ok_iff (v : Value) (context : String) (name : Name) :
    identifier v context = .ok name ↔ v.name? = some name ∧ isBindable name.word = true := by
  unfold identifier
  cases hn : v.name? with
  | none => cases hq : v.quotedForm <;> simp [bind, Except.bind]
  | some found =>
    by_cases h : isBindable found.word = true
    · simp only [h, if_true, Except.ok.injEq, Option.some.injEq]
      exact ⟨fun e => ⟨e, e ▸ h⟩, fun e => e.1⟩
    · simp only [h, Bool.false_eq_true, if_false, reduceCtorEq, Option.some.injEq, false_iff,
        not_and]
      intro e
      exact e ▸ h

theorem firstRepeated?_eq_none_iff (seen : List String) (names : List Name) :
    firstRepeated? seen names = none ↔
      (names.map Name.word).Nodup ∧ ∀ name ∈ names, name.word ∉ seen := by
  induction names generalizing seen with
  | nil => simp [firstRepeated?]
  | cons name names ih =>
    by_cases h : name.word ∈ seen
    · simp [firstRepeated?, h]
    · simp only [firstRepeated?, List.contains_iff_mem, h, if_false, ih, List.map_cons,
        List.nodup_cons, List.mem_map, List.mem_cons, not_or]
      constructor
      · rintro ⟨hnodup, hseen⟩
        exact ⟨⟨fun ⟨x, hx, hw⟩ => (hseen x hx).1 hw, hnodup⟩,
          fun x hx => hx.elim (fun e => e ▸ h) fun hm => (hseen x hm).2⟩
      · rintro ⟨⟨hfresh, hnodup⟩, hseen⟩
        exact ⟨hnodup, fun x hx => ⟨fun e => hfresh ⟨x, hx, e⟩, hseen x (.inr hx)⟩⟩

end StepFlow.Require
