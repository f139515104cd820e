import Mathlib.Data.List.Chain
import StepFlow.Native.Host
import StepFlow.Proofs.Contract
import StepFlow.Proofs.Evaluation
import StepFlow.Proofs.Trace

namespace StepFlow

-- The code of a callable that is written by hand.
def Callable.code? : Callable → Option (Routine Value Expr)
  | .function _ code | .shell _ _ _ _ _ code => some code
  | _ => none

def Callable.isComposed : Callable → Bool
  | .composed .. => true
  | _ => false

-- A step of a run and the first steps in it, which are called as it is called. A step without a
-- display name is not called.
def Callable.front : Callable → List Callable
  | .composed serial name first rest => .composed serial name first rest :: first.front
  | c => if c.IsNamed then [c] else []

-- A call in a run, and the value that was reached in the run before it, if it is not the first.
structure Handover where
  before? : Option Value
  call : StepCall

namespace Handover

-- A call after a value, with a snapshot of the value as its only argument.
def Handed (handover : Handover) : Prop :=
  ∃ v, handover.before? = some v ∧ handover.call.args = [v.snapshot]

-- What a call itself adds to the events of a run. A composition only calls its steps.
def effects (host : Host) (handover : Handover) : List Event :=
  if handover.call.step.isComposed then [] else (handover.call.reached host).quiet.events

-- The store that a call itself leaves.
def left (host : Host) (handover : Handover) : Store :=
  if handover.call.step.isComposed then handover.call.store
  else (handover.call.reached host).store

end Handover

namespace Pipeline

mutual

-- The calls of a step of a run and of the steps in it, when it comes after a value or first.
def handovers (host : Host) : Callable → Option Value → List Value → Store → List Handover
  | .composed serial name first rest, before?, args, store =>
    ⟨before?, ⟨.composed serial name first rest, args, store⟩⟩ ::
      (handovers host first before? args store ++
        handoversAfter host rest (called host first args store).outcome
          (called host first args store).store)
  | c, before?, args, store => if c.IsNamed then [⟨before?, ⟨c, args, store⟩⟩] else []

-- The calls of steps that go on from an outcome.
def handoversAfter (host : Host) : List Callable → Except Fault Value → Store → List Handover
  | [], _, _ => []
  | _ :: _, .error _, _ => []
  | step :: steps, .ok v, store =>
    handovers host step (some v) [v.snapshot] store ++
      handoversAfter host steps (called host step [v.snapshot] store).outcome
        (called host step [v.snapshot] store).store

end

-- The call that comes next after a call. A composition goes on with its first step, which is
-- called as the composition is; after any other call that returns, a step is called with a
-- snapshot of what it returns, from the store that it leaves.
inductive Follows (host : Host) : Handover → Handover → Prop
  | inside {before? : Option Value} {serial : Nat} {name : String} {first : Callable}
      {rest : List Callable} {args : List Value} {store : Store} :
      Follows host ⟨before?, ⟨.composed serial name first rest, args, store⟩⟩
        ⟨before?, ⟨first, args, store⟩⟩
  | after {handover : Handover} {v : Value} {step : Callable} :
      handover.call.step.isComposed = false → (handover.call.reached host).outcome = .ok v →
      Follows host handover ⟨some v, ⟨step, [v.snapshot], (handover.call.reached host).store⟩⟩

-- How a run that starts from a store ends with its calls: as the last of them, or after it, before
-- a step that has no display name.
inductive Closes (host : Host) (store : Store) (made : List Handover) (whole : Reached Value) : Prop
  | asCall {last : Handover} : made.getLast? = some last → last.call.step.isComposed = false →
      whole.outcome = (last.call.reached host).outcome →
      whole.store = (last.call.reached host).store → Closes host store made whole
  | unnamed : (∀ last, made.getLast? = some last → last.call.step.isComposed = false →
        ∃ v, (last.call.reached host).outcome = .ok v) →
      whole.outcome = .error (.unmet .longNumber) →
      whole.store = (made.getLast?.map fun last => last.left host).getD store →
      Closes host store made whole

-- Calls that account for a run without its log records: the first is a given one, each follows
-- from the one before it, the run ends with the last one, and has no effects but theirs.
structure Accounts (host : Host) (start : Handover) (whole : Reached Value)
    (made : List Handover) : Prop where
  starts : ∀ first, made.head? = some first → first = start
  follow : made.IsChain (Follows host)
  closes : Closes host start.call.store made whole
  events : whole.events = made.flatMap fun handover => handover.effects host

variable {host : Host}

namespace Accounts

variable {start : Handover} {whole : Reached Value} {made : List Handover}

-- A call of anything but a composition accounts for itself.
theorem single {step : Callable} (hleaf : step.isComposed = false) (before? : Option Value)
    (args : List Value) (store : Store) :
    Accounts host ⟨before?, ⟨step, args, store⟩⟩ (called host step args store)
      (if step.IsNamed then [⟨before?, ⟨step, args, store⟩⟩] else []) := by
  by_cases hnamed : step.IsNamed
  · rw [if_pos hnamed, called_of_isNamed hnamed]
    refine ⟨fun _ h => (Option.some.inj h).symm, .singleton _, .asCall rfl hleaf rfl rfl, ?_⟩
    rw [List.flatMap_singleton, Handover.effects, if_neg (by simp [hleaf])]
    rfl
  · rw [if_neg hnamed, called_of_not_isNamed hnamed]
    exact ⟨nofun, .nil, .unnamed nofun rfl rfl, rfl⟩

-- A composition accounts for nothing beside the calls of its steps.
theorem inside {before? : Option Value} {first : Callable} {args : List Value} {store : Store}
    (h : Accounts host ⟨before?, ⟨first, args, store⟩⟩ whole made) (serial : Nat) (name : String)
    (rest : List Callable) :
    Accounts host ⟨before?, ⟨.composed serial name first rest, args, store⟩⟩ whole
      (⟨before?, ⟨.composed serial name first rest, args, store⟩⟩ :: made) where
  starts _ hstart := (Option.some.inj hstart).symm
  follow := by
    refine List.isChain_cons.mpr ⟨fun next hnext => ?_, h.follow⟩
    rw [h.starts next hnext]
    exact .inside
  closes := by
    cases h.closes with
    | asCall hlast hleaf houtcome hstore =>
        exact .asCall (by rw [List.getLast?_cons, hlast]; rfl) hleaf houtcome hstore
    | unnamed hreturned houtcome hstore =>
        refine .unnamed (fun last hlast hleaf => ?_) houtcome ?_
        · cases hmade : made.getLast? with
          | none =>
              rw [List.getLast?_cons, hmade] at hlast
              cases hlast
              cases hleaf
          | some other =>
              rw [List.getLast?_cons, hmade] at hlast
              cases hlast
              exact hreturned _ hmade hleaf
        · rw [hstore, List.getLast?_cons]
          cases made.getLast? <;> rfl
  events := h.events

-- A step that is called after a value adds its calls.
theorem join {v : Value} {step : Callable} {further : Reached Value} {more : List Handover}
    (h : Accounts host start whole made) (hv : whole.outcome = .ok v)
    (hmore : Accounts host ⟨some v, ⟨step, [v.snapshot], whole.store⟩⟩ further more) :
    Accounts host start ⟨further.outcome, whole.events ++ further.events, further.store⟩
      (made ++ more) := by
  -- A run that returns a value ends as its last call does.
  obtain ⟨last, hlast, hleaf, houtcome, hstore⟩ : ∃ last, made.getLast? = some last ∧
      last.call.step.isComposed = false ∧ whole.outcome = (last.call.reached host).outcome ∧
      whole.store = (last.call.reached host).store := by
    cases h.closes with
    | asCall hlast hleaf houtcome hstore => exact ⟨_, hlast, hleaf, houtcome, hstore⟩
    | unnamed _ hfault _ => exact nomatch hv.symm.trans hfault
  have hreturns := houtcome.symm.trans hv
  refine ⟨?_, ?_, ?_, by rw [List.flatMap_append, h.events, hmore.events]⟩
  · cases made with
    | nil => cases hlast
    | cons first made => exact h.starts
  · refine h.follow.append hmore.follow fun x hx y hy => ?_
    rw [hlast, Option.mem_some_iff] at hx
    rw [hmore.starts y hy, ← hx, hstore]
    exact .after hleaf hreturns
  · cases hmore.closes with
    | asCall hfinal hfinalLeaf hfurther hleft =>
        exact .asCall (by rw [List.getLast?_append, hfinal]; rfl) hfinalLeaf hfurther hleft
    | unnamed hreturned hfurther hleft =>
        refine .unnamed (fun final hfinal hfinalLeaf => ?_) hfurther ?_
        · rw [List.getLast?_append] at hfinal
          cases hend : more.getLast? with
          | none =>
              rw [hend, hlast] at hfinal
              cases hfinal
              exact ⟨v, hreturns⟩
          | some other =>
              rw [hend] at hfinal
              cases hfinal
              exact hreturned _ hend hfinalLeaf
        · rw [hleft, List.getLast?_append, hlast, hstore]
          cases more.getLast? with
          | none => simp [Handover.left, hleaf]
          | some other => rfl

end Accounts

mutual

-- The calls of a step account for what it does, by recursion on the steps in it.
theorem accounts_handovers (c : Callable) (before? : Option Value) (args : List Value)
    (store : Store) :
    Accounts host ⟨before?, ⟨c, args, store⟩⟩ (called host c args store)
      (handovers host c before? args store) := by
  match c with
  | .composed serial name first rest =>
      have h := accounts_handoversAfter rest (accounts_handovers first before? args store)
      rw [handovers, called_of_isNamed (Callable.isNamed_composed ..), call_composed,
        quiet_runSteps]
      exact h.inside serial name rest
  | .function .. | .shell .. | .step .. | .native _ | .bound .. =>
      simp only [handovers]
      exact .single rfl before? args store

theorem accounts_handoversAfter (steps : List Callable) {start : Handover} {run : Run Value}
    {store : Store} {made : List Handover} (h : Accounts host start (run store) made) :
    Accounts host start ((run >>= steps.foldlM (advance host)) store)
      (made ++ handoversAfter host steps (run store).outcome (run store).store) := by
  match steps with
  | [] =>
      have hpure : run >>= [].foldlM (advance host) = run := Run.bind_pure run
      rw [hpure, handoversAfter, List.append_nil]
      exact h
  | step :: steps =>
      cases hrun : (run store).outcome with
      | error fault =>
          rw [Run.bind_of_error hrun, handoversAfter, List.append_nil, ← hrun]
          exact h
      | ok v =>
          have hfold : run >>= (step :: steps).foldlM (advance host) =
              (run >>= fun v => advance host v step) >>= steps.foldlM (advance host) := by
            simp only [List.foldlM_cons, Run.bind_assoc]
          have hstep := h.join hrun
            (accounts_handovers step (some v) [v.snapshot] (run store).store)
          have hadvance : (run >>= fun v => advance host v step) store =
              ⟨(called host step [v.snapshot] (run store).store).outcome,
                (run store).events ++ (called host step [v.snapshot] (run store).store).events,
                (called host step [v.snapshot] (run store).store).store⟩ :=
            Run.bind_of_ok hrun _
          rw [← hadvance] at hstep
          have hrest := accounts_handoversAfter steps hstep
          rw [hadvance] at hrest
          rw [hfold, handoversAfter, ← List.append_assoc]
          exact hrest

end

mutual

-- A step and the first steps in it are called alike, and whatever is called after them is handed a
-- value.
theorem handovers_eq_front (host : Host) (c : Callable) (before? : Option Value) (args : List Value)
    (store : Store) :
    ∃ later, handovers host c before? args store =
        c.front.map (fun step => ⟨before?, ⟨step, args, store⟩⟩) ++ later ∧
      ∀ handover ∈ later, handover.Handed := by
  match c with
  | .composed serial name first rest =>
      obtain ⟨later, hfirst, hhanded⟩ := handovers_eq_front host first before? args store
      refine ⟨later ++ handoversAfter host rest (called host first args store).outcome
        (called host first args store).store, ?_,
        List.forall_mem_append.mpr ⟨hhanded, handed_handoversAfter host rest _ _⟩⟩
      rw [handovers, hfirst, List.append_assoc]
      rfl
  | .function .. | .shell .. | .step .. | .native _ | .bound .. =>
      refine ⟨[], ?_, List.forall_mem_nil _⟩
      simp only [handovers, Callable.front, List.append_nil]
      split <;> rfl

theorem handed_handoversAfter (host : Host) (steps : List Callable)
    (outcome : Except Fault Value) (store : Store) :
    ∀ handover ∈ handoversAfter host steps outcome store, handover.Handed := by
  match steps, outcome with
  | [], _ => simp only [handoversAfter]; exact List.forall_mem_nil _
  | _ :: _, .error _ => simp only [handoversAfter]; exact List.forall_mem_nil _
  | step :: steps, .ok v =>
      obtain ⟨later, hstep, hhanded⟩ := handovers_eq_front host step (some v) [v.snapshot] store
      rw [handoversAfter, hstep]
      refine List.forall_mem_append.mpr
        ⟨List.forall_mem_append.mpr ⟨?_, hhanded⟩, handed_handoversAfter host steps _ _⟩
      intro handover hmem
      obtain ⟨_, -, rfl⟩ := List.mem_map.mp hmem
      exact ⟨v, rfl, rfl⟩

end

-- A call that fails is the last one.
theorem Accounts.last_of_error {start : Handover} {whole : Reached Value} {made : List Handover}
    (h : Accounts host start whole made) {handover : Handover} (hmem : handover ∈ made)
    (hleaf : handover.call.step.isComposed = false) {fault : Fault}
    (hfault : (handover.call.reached host).outcome = .error fault) :
    made.getLast? = some handover ∧ whole.outcome = .error fault := by
  obtain ⟨before, after, rfl⟩ := List.append_of_mem hmem
  cases after with
  | cons next after =>
      obtain ⟨-, hafter, -⟩ := List.isChain_append.mp h.follow
      cases (List.isChain_cons_cons.mp hafter).1 with
      | inside => cases hleaf
      | after _ hreturns => exact nomatch hfault.symm.trans hreturns
  | nil =>
      have hgetLast : (before ++ [handover]).getLast? = some handover := List.getLast?_concat
      refine ⟨hgetLast, ?_⟩
      cases h.closes with
      | asCall hlast _ houtcome _ =>
          cases hgetLast.symm.trans hlast
          exact houtcome.trans hfault
      | unnamed hreturned _ _ =>
          obtain ⟨v, hv⟩ := hreturned handover hgetLast hleaf
          exact nomatch hfault.symm.trans hv

end Pipeline

-- A call of a hand-written step whose body comes to assign an item on its only argument, with a
-- value and a key that can be evaluated.
def StepCall.AssignsItem (host : Host) (call : StepCall) : Prop :=
  ∃ code scope container key value later received v k,
    call.step.code? = some code ∧ call.args = [received] ∧
    Signature.bind code.name code.params call.args = .ok scope ∧
    Reaches host scope (code.body, call.store) (.setItem container key value, later) ∧
    (evalAll host [container, value, key] scope later).outcome = .ok [received, v, k]

theorem Value.snapshot_of_not_dict {v : Value} (h : ∀ entries, v ≠ .dict entries) :
    v.snapshot = v := by
  cases v <;> first | rfl | exact absurd rfl (h _)

theorem Value.snapshot_ne_dict (v : Value) (entries : Entries) : v.snapshot ≠ .dict entries := by
  cases v <;> exact Value.noConfusion

-- A view takes no item.
theorem Value.setItem_snapshot {v : Value} {entries : Entries} (h : v.entries? = some entries)
    (key value : Value) :
    v.snapshot.setItem key value = .error (.type (.noItemAssignment "mappingproxy")) := by
  cases v <;> cases h <;> rfl

theorem Callable.call_of_code? {c : Callable} {code : Routine Value Expr}
    (h : c.code? = some code) (host : Host) (args : List Value) :
    c.call host args =
      Run.lift (Signature.bind code.name code.params args) >>= fun scope =>
        code.body.eval host scope := by
  cases c <;> cases h <;> simp only [Callable.call] <;> rfl

theorem Callable.isComposed_of_code? {c : Callable} {code : Routine Value Expr}
    (h : c.code? = some code) : c.isComposed = false := by
  cases c <;> first | rfl | cases h

namespace StepCall

variable {host : Host} {call : StepCall}

-- A hand-written step that assigns an item on a snapshot of a mapping fails.
theorem AssignsItem.fails (h : call.AssignsItem host) {v : Value} {entries : Entries}
    (hv : v.entries? = some entries) (hargs : call.args = [v.snapshot]) :
    call.step.isComposed = false ∧
      (call.reached host).outcome = .error (.type (.noItemAssignment "mappingproxy")) := by
  obtain ⟨code, scope, container, key, value, later, received, item, k, hcode, hreceived, hbind,
    hreaches, hoperands⟩ := h
  cases List.singleton_injective (hargs.symm.trans hreceived)
  refine ⟨Callable.isComposed_of_code? hcode, ?_⟩
  rw [reached, Callable.call_of_code? hcode]
  refine Run.outcome_bind_of_ok_of_error hbind (hreaches.fails ?_)
  obtain ⟨_, _, ⟨⟩, hcontainer, hrest, -⟩ := evalAll_cons_eq_ok hoperands
  obtain ⟨_, _, ⟨⟩, hvalue, hkeys, -⟩ := evalAll_cons_eq_ok hrest
  obtain ⟨_, _, ⟨⟩, hkey, -⟩ := evalAll_cons_eq_ok hkeys
  simp only [Expr.eval]
  exact Run.outcome_bind_of_ok_of_error hcontainer (Run.outcome_bind_of_ok_of_error hvalue
    (Run.outcome_bind_of_ok_of_error hkey (Value.setItem_snapshot hv k item)))

end StepCall

namespace Pipeline

-- Every call in a run but those of the first step and the first steps in it is handed the value
-- before it, a dict as a read-only view of the same entries and anything else as it is, and a step
-- that assigns an item on what it is handed ends the run.
theorem run_hands_over (host : Host) {args steps : Value} {items : List Value}
    {first : Callable} {rest : List Callable} (hargs : args.items? = some items)
    (hsteps : steps.items? = some ((first :: rest).map .callable)) (store : Store) :
    let reached := run host args steps store
    let made := handovers host first none items store ++
      handoversAfter host rest (called host first items store).outcome
        (called host first items store).store
    Accounts host ⟨none, ⟨first, items, store⟩⟩ reached.quiet made ∧
    ∃ later, made = first.front.map (fun step => ⟨none, ⟨step, items, store⟩⟩) ++ later ∧
      ∀ handover ∈ later, ∃ v, handover.before? = some v ∧
        (∀ entries, v = .dict entries → handover.call.args = [.view 0 entries]) ∧
        ((∀ entries, v ≠ .dict entries) → handover.call.args = [v]) ∧
        (∀ entries, handover.call.args ≠ [.dict entries]) ∧
        (v.entries?.isSome → handover.call.AssignsItem host →
          made.getLast? = some handover ∧
          reached.outcome = .error (.type (.noItemAssignment "mappingproxy"))) := by
  intro reached made
  have haccounts : Accounts host ⟨none, ⟨first, items, store⟩⟩ reached.quiet made := by
    have hquiet : reached.quiet =
        (called host first items >>= rest.foldlM (advance host)) store := by
      simp only [reached, run_eq_runSteps host hargs hsteps, ← quiet_runSteps]
      rfl
    rw [hquiet]
    exact accounts_handoversAfter rest (accounts_handovers first none items store)
  obtain ⟨later, hfirst, hhanded⟩ := handovers_eq_front host first none items store
  have hmade : made = first.front.map (fun step => ⟨none, ⟨step, items, store⟩⟩) ++ (later ++
      handoversAfter host rest (called host first items store).outcome
        (called host first items store).store) := by
    simp only [made, hfirst, List.append_assoc]
  refine ⟨haccounts, _, hmade, fun handover hmem => ?_⟩
  obtain ⟨v, hbefore, hcall⟩ :=
    List.forall_mem_append.mpr ⟨hhanded, handed_handoversAfter host rest _ _⟩ handover hmem
  refine ⟨v, hbefore, ?_, ?_, ?_, ?_⟩
  · rintro entries rfl
    exact hcall
  · intro hdict
    rw [hcall, Value.snapshot_of_not_dict hdict]
  · intro entries hdict
    exact v.snapshot_ne_dict entries (List.singleton_injective (hcall.symm.trans hdict))
  · intro hentries hassigns
    obtain ⟨entries, hv⟩ := Option.isSome_iff_exists.mp hentries
    obtain ⟨hleaf, hfault⟩ := hassigns.fails hv hcall
    exact haccounts.last_of_error (hmade ▸ List.mem_append_right _ hmem) hleaf hfault

-- A step that hands on what it receives, and one that assigns an item on it.
def handOn : Callable :=
  .function 100 ⟨"hand_on", [BuiltIn.param "env"], .var "env", none⟩

def assign : Callable :=
  .function 101 ⟨"assign", [BuiltIn.param "env"],
    .note "assigning" (.setItem (.var "env") (.lit (.str "var1")) (.lit (.int 1))), none⟩

def handOnAndAssign : Callable :=
  .composed 102 "hand_on+assign" handOn [assign]

-- Both of them in a composition that comes after a dict.
theorem run_hands_over_assigning :
    (run World.bare.host (.list [.int 25])
      (stepList [BuiltIn.loadValue, handOnAndAssign, BuiltIn.nop]) .start).outcome =
        .error (.type (.noItemAssignment "mappingproxy")) := by
  let handed : Value := .view 0 [(.str "var1", .int 25)]
  have hargs : (Value.list [.int 25]).items? = some [.int 25] := rfl
  obtain ⟨-, later, hmade, hall⟩ := run_hands_over World.bare.host hargs
    (rfl : (stepList [BuiltIn.loadValue, handOnAndAssign, BuiltIn.nop]).items? = _) .start
  have hlater : later =
      [⟨some (.dict [(.str "var1", .int 25)]), ⟨handOnAndAssign, [handed], .start⟩⟩,
        ⟨some (.dict [(.str "var1", .int 25)]), ⟨handOn, [handed], .start⟩⟩,
        ⟨some handed, ⟨assign, [handed], .start⟩⟩] := (List.cons.inj hmade).2.symm
  have hmem : ⟨some handed, ⟨assign, [handed], .start⟩⟩ ∈ later := by simp [hlater]
  obtain ⟨v, hv, -, -, -, hassigns⟩ := hall _ hmem
  cases hv
  have hreaches : Reaches World.bare.host [("env", handed)]
      (.note "assigning" (.setItem (.var "env") (.lit (.str "var1")) (.lit (.int 1))), .start)
      (.setItem (.var "env") (.lit (.str "var1")) (.lit (.int 1)), .start) := .single .noted
  exact (hassigns rfl ⟨_, _, _, _, _, _, handed, .int 1, .str "var1", rfl, rfl, rfl, hreaches,
    rfl⟩).2

end Pipeline

end StepFlow
