import StepFlow.Registry
import StepFlow.Value.Sequence

namespace StepFlow

-- The parts of the library that keep a log.
inductive Logger where
  | engine
  | registry
  | deck
deriving DecidableEq, Repr

def Logger.name : Logger → String
  | .engine => "envpipe.pipeline.engine"
  | .registry => "envpipe.pipeline.registry"
  | .deck => "envpipe.deck"

-- A note is left by a step body, a log record by the library. A program also writes to its two
-- outputs; once it is `verbose`, log records are written to its error output.
inductive Event where
  | note (label : String)
  | log (logger : Logger) (message : String)
  | output (text : String)
  | complaint (text : String)
  | verbose
deriving DecidableEq, Repr

def Event.note? : Event → Option String
  | .note label => some label
  | _ => none

def Event.record? : Event → Option String
  | .log logger message => some s!"{logger.name}: {message}"
  | _ => none

-- What can change while values are used: what generators have left, what registries and what was
-- filled like one hold, the attributes that values were given, what names stand for, and the next
-- identity.
structure Store where
  next : Nat
  generators : List (Nat × List Value)
  registries : List (List KeyAtom × Registry)
  given : List ((List KeyAtom × String) × Value)
  names : List (String × Value)

namespace Store

-- The store that a program starts with. The first identities belong to the built-in steps, which
-- have names from the start.
def start : Store :=
  ⟨100, [], [], [], BuiltIn.all.map fun (name, step) => (name, .callable step)⟩

-- What a generator has left.
def left (store : Store) (serial : Nat) : List Value :=
  (store.generators.lookup serial).getD []

def leave (store : Store) (serial : Nat) (items : List Value) : Store :=
  { store with
    generators := (serial, items) :: store.generators.filter fun entry => entry.1 != serial }

-- Ends a generator. It may have nothing left before.
def finish (store : Store) (serial : Nat) : Store :=
  { store with generators := store.generators.filter fun entry => entry.1 != serial }

def hasFinished (store : Store) (serial : Nat) : Bool :=
  (store.generators.lookup serial).isNone

-- What a registry holds, or a value that was filled like one.
def registry? (store : Store) (v : Value) : Option Registry :=
  store.registries.lookup v.key

def keep (store : Store) (v : Value) (registry : Registry) : Store :=
  { store with
    registries := (v.key, registry) :: store.registries.filter fun entry => entry.1 != v.key }

-- An attribute that a value was given.
def given? (store : Store) (v : Value) (name : String) : Option Value :=
  if store.given.isEmpty then none else store.given.lookup (v.key, name)

def give (store : Store) (v : Value) (name : String) (found : Value) : Store :=
  { store with given := ((v.key, name), found) :: store.given }

-- What a name stands for.
def named? (store : Store) (name : String) : Option Value :=
  store.names.lookup name

-- Lets a name stand for a value.
def bind (store : Store) (name : String) (v : Value) : Store :=
  { store with names := (name, v) :: store.names }

end Store

-- What a run comes to.
structure Reached (α : Type) where
  outcome : Except Fault α
  events : List Event
  store : Store

namespace Reached

variable {α : Type}

-- The labels left by step bodies.
def notes (reached : Reached α) : List String :=
  reached.events.filterMap Event.note?

-- The log records, as they are shown.
def records (reached : Reached α) : List String :=
  reached.events.filterMap Event.record?

end Reached

def Run (α : Type) : Type :=
  Store → Reached α

namespace Run

variable {α β γ : Type}

-- Goes on with the result of a run that succeeds; a run that fails ends there.
def bind (run : Run α) (next : α → Run β) : Run β := fun store =>
  let reached := run store
  match reached.outcome with
  | .ok a =>
    let further := next a reached.store
    ⟨further.outcome, reached.events ++ further.events, further.store⟩
  | .error fault => ⟨.error fault, reached.events, reached.store⟩

instance : Monad Run where
  pure a := fun store => ⟨.ok a, [], store⟩
  bind := bind

-- Changes the result of a run that succeeds, and no event.
def map (f : α → β) (run : Run α) : Run β :=
  f <$> run

def fail (fault : Fault) : Run α :=
  fun store => ⟨.error fault, [], store⟩

def emit (event : Event) : Run Unit :=
  fun store => ⟨.ok (), [event], store⟩

def log (logger : Logger) (message : String) : Run Unit :=
  emit (.log logger message)

-- A computation without events that does not look at the store.
def lift (outcome : Except Fault α) : Run α :=
  fun store => ⟨outcome, [], store⟩

instance : MonadLift (Except Fault) Run where
  monadLift := lift

-- A run that always succeeds, with the outcome of the given one.
def attempt (run : Run α) : Run (Except Fault α) := fun store =>
  let reached := run store
  ⟨.ok reached.outcome, reached.events, reached.store⟩

-- An identity that nothing has had before.
def fresh : Run Nat :=
  fun store => ⟨.ok store.next, [], { store with next := store.next + 1 }⟩

-- A new value whose identity is fresh.
def identified (make : Nat → α) : Run α :=
  make <$> fresh

-- What a generator has left.
def left (serial : Nat) : Run (List Value) :=
  fun store => ⟨.ok (store.left serial), [], store⟩

def leave (serial : Nat) (items : List Value) : Run Unit :=
  fun store => ⟨.ok (), [], store.leave serial items⟩

def finish (serial : Nat) : Run Unit :=
  fun store => ⟨.ok (), [], store.finish serial⟩

def hasFinished (serial : Nat) : Run Bool :=
  fun store => ⟨.ok (store.hasFinished serial), [], store⟩

-- What a name stands for.
def named (name : String) : Run Value := fun store =>
  ⟨(store.named? name).elim (.error (.keyAbsent (Text.quoted name))) .ok, [], store⟩

-- Lets a name stand for a value.
def bindName (name : String) (v : Value) : Run Unit :=
  fun store => ⟨.ok (), [], store.bind name v⟩

-- What a registry holds, or a value that was filled like one.
def registry? (v : Value) : Run (Option Registry) :=
  fun store => ⟨.ok (store.registry? v), [], store⟩

def keep (v : Value) (registry : Registry) : Run Unit :=
  fun store => ⟨.ok (), [], store.keep v registry⟩

-- An attribute that a value was given.
def given? (v : Value) (name : String) : Run (Option Value) :=
  fun store => ⟨.ok (store.given? v name), [], store⟩

def give (v : Value) (name : String) (found : Value) : Run Unit :=
  fun store => ⟨.ok (), [], store.give v name found⟩

@[ext]
theorem ext {r s : Run α} (h : ∀ store, r store = s store) : r = s :=
  funext h

@[simp]
theorem pure_apply (a : α) (store : Store) : (pure a : Run α) store = ⟨.ok a, [], store⟩ := rfl

@[simp]
theorem fail_apply (fault : Fault) (store : Store) :
    (fail fault : Run α) store = ⟨.error fault, [], store⟩ := rfl

theorem bind_apply (run : Run α) (next : α → Run β) (store : Store) :
    (run >>= next) store = bind run next store := rfl

-- A run that succeeds goes on from the store it leaves, with its events in front.
theorem bind_of_ok {run : Run α} {store : Store} {a : α} (h : (run store).outcome = .ok a)
    (next : α → Run β) :
    (run >>= next) store =
      ⟨(next a (run store).store).outcome,
        (run store).events ++ (next a (run store).store).events,
        (next a (run store).store).store⟩ := by
  simp [bind_apply, bind, h]

-- A run that fails keeps its fault, its events and its store.
theorem bind_of_error {run : Run α} {store : Store} {fault : Fault}
    (h : (run store).outcome = .error fault) (next : α → Run β) :
    (run >>= next) store = ⟨.error fault, (run store).events, (run store).store⟩ := by
  simp [bind_apply, bind, h]

@[simp]
theorem pure_bind (a : α) (next : α → Run β) : (pure a >>= next) = next a := by
  ext store
  have h : ((pure a : Run α) store).outcome = .ok a := rfl
  simp [bind_of_ok h]

@[simp]
theorem bind_pure (run : Run α) : (run >>= pure) = run := by
  ext store
  cases h : (run store).outcome with
  | ok a => simp [bind_of_ok h, ← h]
  | error fault => simp [bind_of_error h, ← h]

@[simp]
theorem fail_bind (fault : Fault) (next : α → Run β) : (fail fault >>= next) = fail fault := rfl

theorem bind_assoc (run : Run α) (f : α → Run β) (g : β → Run γ) :
    (run >>= f >>= g) = (run >>= fun a => f a >>= g) := by
  ext store
  cases h : (run store).outcome with
  | error fault => simp [bind_apply, bind, h]
  | ok a => cases hf : (f a (run store).store).outcome <;> simp [bind_apply, bind, h, hf]

instance : LawfulMonad Run :=
  LawfulMonad.mk' Run (fun run => bind_pure run) pure_bind bind_assoc

-- Two runs together succeed exactly when the first one does and the second does on its result,
-- from the store that the first one leaves.
theorem outcome_bind_eq_ok_iff {run : Run α} {next : α → Run β} {store : Store} {b : β} :
    ((run >>= next) store).outcome = .ok b ↔
      ∃ a, (run store).outcome = .ok a ∧ (next a (run store).store).outcome = .ok b := by
  cases h : (run store).outcome with
  | error fault => simp [bind_of_error h]
  | ok a => simp [bind_of_ok h]

end Run

end StepFlow
