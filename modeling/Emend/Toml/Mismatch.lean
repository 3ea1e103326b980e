import Emend.Text.Quoted
import Emend.Toml.Table

/-! # Mismatches

A document can be well formed and still not have the shape that its reader expects. A
mismatch says where it departs from that shape and how.
-/

namespace Emend.Toml

/-- What a value is, as far as its readers tell values apart. -/
inductive Shape where
  | string (text : String)
  | integer (value : Int)
  | real (value : Real)
  | boolean (value : Bool)
  | sequence
  | map
  deriving Repr, DecidableEq

def Shape.describe : Shape → String
  | .string text => "string " ++ Text.quote text
  | .integer value => "integer `" ++ toString value ++ "`"
  | .real value => "floating point `" ++ value.text ++ "`"
  | .boolean value => "boolean `" ++ toString value ++ "`"
  | .sequence => "sequence"
  | .map => "map"

/-- The shape of a scalar. A date counts as a map with one key. -/
def Scalar.shape : Scalar → Shape
  | .string text => .string text
  | .integer value => .integer value
  | .real value => .real value
  | .boolean value => .boolean value
  | .datetime => .map

/-- The key of the map that a date counts as. -/
def datetimeKey : String := "$__toml_private_datetime"

def Node.shape : Node → Shape
  | .scalar _ value => value.shape
  | .array .. => .sequence
  | .table _ => .map
  | .tables .. => .sequence

/-- How a value departs from what its reader expects. -/
inductive MismatchKind where
  /-- It has another shape than the one described. -/
  | wrongShape (found : Shape) (expected : String)
  | missingField (name : String)
  /-- It names none of the known choices. -/
  | unknownChoice (found : String) (known : List String)
  /-- It is a choice with a value, but has not exactly one key. -/
  | manyKeys
  deriving Repr, DecidableEq

def describeChoices (known : List String) : String :=
  let quoted := known.map fun name => "`" ++ name ++ "`"
  match quoted with
  | [first, second] => first ++ " or " ++ second
  | _ => "one of " ++ String.intercalate ", " quoted

def MismatchKind.message : MismatchKind → String
  | .wrongShape found expected => "invalid type: " ++ found.describe ++ ", expected " ++ expected
  | .missingField name => "missing field `" ++ name ++ "`"
  | .unknownChoice found known =>
      "unknown variant `" ++ found ++ "`, expected " ++ describeChoices known
  | .manyKeys => "invalid value: map, expected map with a single key"

structure Mismatch where
  span : Span
  kind : MismatchKind
  deriving Repr, DecidableEq

def Mismatch.report (document : String) (mismatch : Mismatch) : String :=
  mismatch.span.report document mismatch.kind.message

end Emend.Toml
