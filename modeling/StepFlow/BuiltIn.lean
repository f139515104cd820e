import StepFlow.Value.Basic

namespace StepFlow.BuiltIn

def param (name : String) : Param Value :=
  ⟨name, .positionalOrKeyword, none⟩

-- A step whose declaration is that of its body.
def step (serial : Nat) (kind : StepKind) (name : String) (params : List String) (body : Expr)
    (doc? : Option String) : Callable :=
  .step serial
    ⟨kind, name, params.map .text, none,
      .function serial ⟨name, params.map param, body, doc?⟩, (doc?.map Value.str).getD .none⟩

def nop : Callable :=
  step 0 .intermediate "nop_step" [] (.dict [])
    (some "Leave the environment unchanged; handy for conditional pipelines.")

def loadValue : Callable :=
  step 1 .input "load_value" ["val"] (.dict [(.lit (.str "var1"), .var "val")]) none

def addOne : Callable :=
  step 2 .intermediate "add_one" ["var1"]
    (.dict [(.lit (.str "var2"), .binary .add (.var "var1") (.lit (.int 1)))]) none

def product : Callable :=
  step 3 .output "product" ["var1", "var2"] (.binary .mul (.var "var1") (.var "var2")) none

def quotient : Callable :=
  step 4 .output "quotient" ["var1", "var2"] (.ratio (.var "var1") (.var "var2")) none

-- All of them under the names they can be imported by.
def all : List (String × Callable) :=
  [("nop_step", nop), ("load_value", loadValue), ("add_one", addOne), ("product", product),
    ("quotient", quotient)]

end StepFlow.BuiltIn
