import StepFlow.Native.Host
import StepFlow.Proofs.Contract
import StepFlow.Proofs.Quiet

namespace StepFlow

open Pipeline (advance run stepList)

namespace DeclaredStep

variable {host : Host} {step : DeclaredStep} {v : Value} {env : Entries} {store : Store}

end DeclaredStep

-- Callables that read nothing of the value they are called with but its entries: declared steps
-- after the first, and compositions that start with one.
inductive Callable.ReadsEntries : Callable → Prop
  | step (s : DeclaredStep) : s.kind ≠ .input → ReadsEntries s.callable
  | composed (serial : Nat) (name : String) {first : Callable} (rest : List Callable) :
      ReadsEntries first → ReadsEntries (.composed serial name first rest)

theorem Callable.ReadsEntries.call_congr {c : Callable} (h : c.ReadsEntries) (host : Host)
    {v w : Value} {env : Entries} (hv : v.entries? = some env) (hw : w.entries? = some env) :
    c.call host [v] = c.call host [w] := by
  induction h with
  | step s hkind => exact s.call_congr hkind hv hw
  | composed serial name rest _ ih =>
      rw [Pipeline.call_composed, Pipeline.call_composed, Pipeline.runSteps, Pipeline.runSteps, ih]
      rfl

section

variable (host : Host) {args : Value} {items : List Value} (hargs : args.items? = some items)
  {steps : List Callable} (hne : steps ≠ []) (after : List Callable) {step : DeclaredStep}
  (hkind : step.kind = .intermediate) {store : Store} {v : Value} {env : Entries}
  (hreached : (run host args (stepList steps) store).outcome = .ok v)

include hargs hne hkind hreached

end

end StepFlow
