import Cel.Eval
import Cel.Value.Json

/-! # Contexts

A context binds variables to values and declares names unknown. A declaration counts more than a
binding of the same name.
-/

namespace Cel

/-- Variable bindings in ascending order of the names, and the names declared unknown. -/
structure Context where
  bindings : List (String × Value)
  unknowns : Names

namespace Context

open EvalError (Cause)

def empty : Context := ⟨[], .empty⟩

/-- The word for a kind of JSON value. -/
def kindOf : Json → String
  | .null => "null"
  | .bool _ => "a boolean"
  | .int _ | .double _ => "a number"
  | .string _ => "a string"
  | .array _ => "an array"
  | .object _ => "an object"

/-- The context with one variable for each member of a JSON object. -/
def ofJson : Json → Except Cause Context
  | .object members =>
    .ok ⟨Entries.ofList (members.map fun (name, json) => (name, .ofJson json)), .empty⟩
  | other => .error (.contextKind (kindOf other))

/-- Bind a variable, replacing an earlier value. -/
def insert (name : String) (value : Value) (context : Context) : Context :=
  { context with bindings := Entries.insert name value context.bindings }

/-- Withhold the value of a variable. -/
def declareUnknown (name : String) (context : Context) : Context :=
  { context with unknowns := context.unknowns.insert name }

/-- Drop the binding of a variable. A declaration as unknown stays. -/
def remove (name : String) (context : Context) : Context :=
  { context with bindings := Entries.erase name context.bindings }

def get? (name : String) (context : Context) : Option Value := Entries.find? name context.bindings

/-- The number of bindings. -/
def size (context : Context) : Nat := context.bindings.length

/-- The variables of a context, for an evaluation. -/
def activation (context : Context) : Activation :=
  ⟨context.get?, fun name => decide (name ∈ context.unknowns)⟩

end Context

end Cel
