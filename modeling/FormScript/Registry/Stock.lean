/-
Stock custom forms: small expansions that serve as building blocks and as
examples. All of them accept any number of arguments.
-/
import FormScript.Registry

namespace FormScript.CustomForm

/-- A form that does not look at its arguments: each call makes its node
anew. -/
def constant (make : (stamp : Nat) → Except Error Node) : CustomForm where
  expand stamp _ := make stamp

/-- A form that calls something else with its arguments. The head is made anew
for each call. -/
def forward (makeHead : (stamp : Nat) → Except Error Node) : CustomForm where
  expand stamp args := (makeHead stamp).map (.formOf · args)

/-- A form that stands for one of its arguments, counted from the front, or
from the end if the index is negative; without such an argument for `nil`. -/
def argument : (index : Int) → CustomForm
  | .ofNat index => { expand := fun _ args => .ok (args[index]?.getD .nil) }
  | .negSucc index => { expand := fun _ args => .ok (args.reverse[index]?.getD .nil) }

/-- A form that collects its arguments in a sequence. -/
def collect (kind : SeqKind) : CustomForm where
  expand _ args := .ok (.seq kind args)

/-- A form that counts its arguments. -/
def count : CustomForm where
  expand _ args := .ok (.int args.length)

/-- A form called `name` that calls itself with one less until it reaches
zero. -/
def countdown (name : String) : CustomForm where
  expand _ args :=
    match args with
    | .int n :: _ => .ok (if n = 0 then .int 0 else .call name [.int (n - 1)])
    | _ => .ok (.int 0)

/-- A form called `name` that adds its arguments two at a time. -/
def sum (name : String) : CustomForm where
  expand _ args :=
    match args with
    | first :: rest@(_ :: _ :: _) => .ok (.call "+" [first, .call name rest])
    | args => .ok (.call "+" args)

/-- A form that refuses every call with a message. -/
def refuse (message : String) : CustomForm where
  expand _ _ := .error (.host (.raised message))

end FormScript.CustomForm
