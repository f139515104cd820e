import Mathlib.Logic.Relation
import StepFlow.Pipeline

namespace StepFlow

open Signature (Scope)

namespace Run

variable {α β : Type} {run : Run α} {next : α → Run β} {store : Store} {fault : Fault}

-- Two runs together fail if the first one does.
theorem outcome_bind_of_error (h : (run store).outcome = .error fault) :
    ((run >>= next) store).outcome = .error fault := by
  rw [bind_of_error h]

-- Two runs together fail if the second one does on what the first one comes to.
theorem outcome_bind_of_ok_of_error {a : α} (h : (run store).outcome = .ok a)
    (hnext : (next a (run store).store).outcome = .error fault) :
    ((run >>= next) store).outcome = .error fault := by
  rw [bind_of_ok h]
  exact hnext

end Run

namespace Expr

-- What an expression evaluates before it does anything else, in order. What it evaluates after
-- something else is left to `Enters`.
def operands : Expr → List Expr
  | .var _ | .named _ | .lit _ | .anew _ | .raise .. | .note .. | .generator _ | .dict _ => []
  | .function ⟨_, params, _, _⟩ => params.filterMap (·.default?)
  | .shell _ name? stepName? _ ⟨_, params, _, _⟩ =>
    name?.toList ++ (stepName?.toList ++ params.filterMap (·.default?))
  | .list items | .tuple items | .set items | .scopeEnv items | .keywordEnv _ items => items
  | .view e | .typeName e | .spread e _ => [e]
  | .binary _ left right | .ratio left right => [left, right]
  | .item container key => [container, key]
  | .setItem container key value => [container, value, key]
  | .partialEnv pairs => pairs.flatMap fun (first, second) => [first, second]
  | .call callee args => callee :: args
  | .run args steps => args :: steps

end Expr

section

variable (host : Host) (scope : Scope)

-- Evaluation of an expression from a store comes to an expression inside it, from the store that
-- all that is evaluated before it has left.
inductive Enters : Expr × Store → Expr × Store → Prop
  | operand {e e' : Expr} {store : Store} {before after : List Expr} {vs : List Value} :
      e.operands = before ++ e' :: after → (evalAll host before scope store).outcome = .ok vs →
      Enters (e, store) (e', (evalAll host before scope store).store)
  | noted {label : String} {e : Expr} {store : Store} : Enters (.note label e, store) (e, store)
  | yielded {e : Expr} {store started : Store} {before after : List Expr} {vs : List Value} :
      (Run.fresh store).store = started → (evalAll host before scope started).outcome = .ok vs →
      Enters (.generator (before ++ e :: after), store)
        (e, (evalAll host before scope started).store)
  | spread {left right : Expr} {store : Store} {v : Value} {entries : Entries} :
      (left.eval host scope store).outcome = .ok v → v.entries? = some entries →
      Enters (.spread left right, store) (right, (left.eval host scope store).store)
  | key {key value : Expr} {store : Store} {before after : List (Expr × Expr)}
      {entries : Entries} : (evalEntries host before scope [] store).outcome = .ok entries →
      Enters (.dict (before ++ (key, value) :: after), store)
        (key, (evalEntries host before scope [] store).store)
  | value {key value : Expr} {store later : Store} {before after : List (Expr × Expr)}
      {entries : Entries} {k : Value} :
      (evalEntries host before scope [] store).outcome = .ok entries →
      (evalEntries host before scope [] store).store = later →
      (key.eval host scope later).outcome = .ok k →
      Enters (.dict (before ++ (key, value) :: after), store)
        (value, (key.eval host scope later).store)

-- Evaluation of an expression comes to an expression any number of levels inside it.
def Reaches : Expr × Store → Expr × Store → Prop :=
  Relation.ReflTransGen (Enters host scope)

-- A run that starts with the evaluation of some expressions, one after the other.
def Demands {α : Type} : List Expr → Run α → Prop
  | [], _ => True
  | e :: es, run => ∃ next, run = e.eval host scope >>= next ∧ ∀ v, Demands es (next v)

end

variable {host : Host} {scope : Scope} {α : Type}

theorem evalAll_cons_bind (e : Expr) (es : List Expr) (next : List Value → Run α) :
    evalAll host (e :: es) scope >>= next =
      e.eval host scope >>= fun v => evalAll host es scope >>= fun vs => next (v :: vs) := by
  simp only [evalAll, Run.bind_assoc, Run.pure_bind]

-- The values of some expressions, and the store they leave, one expression at a time.
theorem evalAll_cons_eq_ok {e : Expr} {es : List Expr} {vs : List Value} {store : Store}
    (h : (evalAll host (e :: es) scope store).outcome = .ok vs) :
    ∃ v rest, vs = v :: rest ∧ (e.eval host scope store).outcome = .ok v ∧
      (evalAll host es scope (e.eval host scope store).store).outcome = .ok rest ∧
      (evalAll host (e :: es) scope store).store =
        (evalAll host es scope (e.eval host scope store).store).store := by
  have hbind : evalAll host (e :: es) scope =
      e.eval host scope >>= fun v => evalAll host es scope >>= fun vs => pure (v :: vs) := by
    simp only [evalAll]
  rw [hbind] at h ⊢
  obtain ⟨v, hv, hrest⟩ := Run.outcome_bind_eq_ok_iff.mp h
  obtain ⟨rest, hes, hvs⟩ := Run.outcome_bind_eq_ok_iff.mp hrest
  cases hvs
  refine ⟨v, rest, rfl, hv, hes, ?_⟩
  rw [Run.bind_of_ok hv, Run.bind_of_ok hes]
  rfl

namespace Demands

theorem of_evalAll (es : List Expr) (next : List Value → Run α) :
    Demands host scope es (evalAll host es scope >>= next) := by
  induction es generalizing next with
  | nil => trivial
  | cons e es ih => exact ⟨_, evalAll_cons_bind e es next, fun v => ih fun vs => next (v :: vs)⟩

theorem of_evalOption (e? : Option Expr) {more : List Expr} {next : Option Value → Run α}
    (h : ∀ v?, Demands host scope more (next v?)) :
    Demands host scope (e?.toList ++ more) (evalOption host e? scope >>= next) := by
  cases e? with
  | none =>
      simp only [evalOption, Run.pure_bind]
      exact h none
  | some e =>
      refine ⟨fun v => next (some v), ?_, fun v => h (some v)⟩
      simp only [evalOption, Run.bind_assoc, Run.pure_bind]

theorem of_evalParams (params : List (Param Expr)) (next : Signature → Run α) :
    Demands host scope (params.filterMap (·.default?))
      (evalParams host params scope >>= next) := by
  induction params generalizing next with
  | nil => trivial
  | cons param params ih =>
      obtain ⟨name, mode, default?⟩ := param
      have hcons : evalParams host (⟨name, mode, default?⟩ :: params) scope >>= next =
          evalOption host default? scope >>= fun default? =>
            evalParams host params scope >>= fun rest => next (⟨name, mode, default?⟩ :: rest) := by
        simp only [evalParams, Run.bind_assoc, Run.pure_bind]
      have hlist : (⟨name, mode, default?⟩ :: params : List (Param Expr)).filterMap (·.default?) =
          default?.toList ++ params.filterMap (·.default?) := by
        cases default? <;> rfl
      rw [hcons, hlist]
      exact of_evalOption default? fun _ => ih _

theorem of_evalPairs (pairs : List (Expr × Expr)) (next : List Value → Run α) :
    Demands host scope (pairs.flatMap fun (first, second) => [first, second])
      (evalPairs host pairs scope >>= next) := by
  induction pairs generalizing next with
  | nil => trivial
  | cons pair pairs ih =>
      obtain ⟨first, second⟩ := pair
      refine ⟨_, ?_, fun a => ⟨_, rfl, fun b => ih fun vs => next (.tuple [a, b] :: vs)⟩⟩
      simp only [evalPairs, Run.bind_assoc, Run.pure_bind]

-- Every expression evaluates its operands first.
theorem of_eval (e : Expr) : Demands host scope e.operands (e.eval host scope) := by
  cases e with
  | var _ | named _ | lit _ | anew _ | raise _ _ | generator _ | dict _ | note _ _ =>
      trivial
  | function code => simp only [Expr.eval]; exact of_evalParams ..
  | shell text name? stepName? introspectable code =>
      simp only [Expr.eval]
      exact of_evalOption name? fun _ => of_evalOption stepName? fun _ => of_evalParams ..
  | list items | tuple items | set items | scopeEnv names | keywordEnv names values =>
      simp only [Expr.eval]
      exact of_evalAll ..
  | partialEnv pairs => simp only [Expr.eval]; exact of_evalPairs ..
  | view e | typeName e | spread e right =>
      simp only [Expr.eval]
      exact ⟨_, rfl, fun _ => trivial⟩
  | binary op left right | ratio left right | item left right =>
      simp only [Expr.eval]
      exact ⟨_, rfl, fun _ => ⟨_, rfl, fun _ => trivial⟩⟩
  | setItem container key value =>
      simp only [Expr.eval]
      exact ⟨_, rfl, fun _ => ⟨_, rfl, fun _ => ⟨_, rfl, fun _ => trivial⟩⟩⟩
  | call callee args | run callee args =>
      simp only [Expr.eval]
      exact ⟨_, rfl, fun _ => of_evalAll ..⟩

-- What fails before anything else does fails the whole.
theorem fails {before after : List Expr} {e : Expr} {run : Run α} {store : Store}
    {vs : List Value} {fault : Fault} (h : Demands host scope (before ++ e :: after) run)
    (hbefore : (evalAll host before scope store).outcome = .ok vs)
    (hfault : (e.eval host scope (evalAll host before scope store).store).outcome =
      .error fault) :
    (run store).outcome = .error fault := by
  induction before generalizing run store vs with
  | nil =>
      obtain ⟨next, rfl, -⟩ := h
      exact Run.outcome_bind_of_error hfault
  | cons first before ih =>
      obtain ⟨next, rfl, hnext⟩ := h
      obtain ⟨v, rest, -, hv, hrest, hstore⟩ := evalAll_cons_eq_ok hbefore
      rw [hstore] at hfault
      exact Run.outcome_bind_of_ok_of_error hv (ih (hnext v) hrest hfault)

end Demands

theorem evalEntries_append (before more : List (Expr × Expr)) (entries : Entries) :
    evalEntries host (before ++ more) scope entries =
      evalEntries host before scope entries >>= evalEntries host more scope := by
  induction before generalizing entries with
  | nil => simp only [List.nil_append, evalEntries, Run.pure_bind]
  | cons entry before ih =>
      obtain ⟨key, value⟩ := entry
      simp only [List.cons_append, evalEntries, Run.bind_assoc, ih]

-- The entry of a dict that comes after others.
theorem eval_dict_append (before after : List (Expr × Expr)) (key value : Expr) :
    (Expr.dict (before ++ (key, value) :: after)).eval host scope =
      evalEntries host before scope [] >>= fun entries => key.eval host scope >>= fun k =>
        value.eval host scope >>= fun v => Run.lift k.hashed >>= fun _ =>
          evalEntries host after scope (entries.insert k v) >>= fun made =>
            pure (.dict made) := by
  simp only [Expr.eval, evalEntries_append, evalEntries, Run.bind_assoc]
  rfl

-- What fails in an expression fails the expression, with the same fault.
theorem Enters.fails {p q : Expr × Store} {fault : Fault} (h : Enters host scope p q)
    (hfault : (q.1.eval host scope q.2).outcome = .error fault) :
    (p.1.eval host scope p.2).outcome = .error fault := by
  cases h with
  | @operand e _ _ _ _ _ hoperands hbefore =>
      have hdemands : Demands host scope e.operands (e.eval host scope) := .of_eval e
      rw [hoperands] at hdemands
      exact hdemands.fails hbefore hfault
  | noted =>
      simp only [Expr.eval]
      exact Run.outcome_bind_of_ok_of_error rfl hfault
  | yielded hstarted hbefore =>
      subst hstarted
      simp only [Expr.eval]
      exact Run.outcome_bind_of_ok_of_error rfl ((Demands.of_evalAll _ _).fails hbefore hfault)
  | @spread left right _ v entries hleft hentries =>
      have hspread : spreadEntries v = .ok entries := by rw [spreadEntries, hentries]
      simp only [Expr.eval]
      exact Run.outcome_bind_of_ok_of_error hleft
        (Run.outcome_bind_of_ok_of_error hspread (Run.outcome_bind_of_error hfault))
  | key hbefore =>
      rw [eval_dict_append]
      exact Run.outcome_bind_of_ok_of_error hbefore (Run.outcome_bind_of_error hfault)
  | value hbefore hstore hkey =>
      subst hstore
      rw [eval_dict_append]
      exact Run.outcome_bind_of_ok_of_error hbefore
        (Run.outcome_bind_of_ok_of_error hkey (Run.outcome_bind_of_error hfault))

theorem Reaches.fails {p q : Expr × Store} {fault : Fault} (h : Reaches host scope p q)
    (hfault : (q.1.eval host scope q.2).outcome = .error fault) :
    (p.1.eval host scope p.2).outcome = .error fault := by
  induction h with
  | refl => exact hfault
  | tail _ henters ih => exact ih (henters.fails hfault)

end StepFlow
