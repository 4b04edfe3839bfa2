import Telemux.Json.Value
import Telemux.Text.Literal

namespace Telemux

/-- Why a JSON value does not have the shape that is asked for. -/
inductive Misfit where
  | kind (found : Value) (expected : String)
  | range (found : Int) (expected : String)
  | missing (key : String)
  | length (found : Nat) (expected : String)
  deriving DecidableEq

def Value.describe : Value → String
  | .null => "null"
  | .bool true => "boolean `true`"
  | .bool false => "boolean `false`"
  | .number (.int n) => "integer `" ++ String.ofList (signedDecimal n) ++ "`"
  | .number (.double x) => "floating point `" ++ String.ofList x.text ++ "`"
  | .string s => "string " ++ literal s
  | .array _ => "sequence"
  | .object _ => "map"

def Misfit.message : Misfit → String
  | .kind found expected => "invalid type: " ++ found.describe ++ ", expected " ++ expected
  | .range found expected =>
    "invalid value: integer `" ++ String.ofList (signedDecimal found) ++ "`, expected " ++ expected
  | .missing key => "missing field `" ++ key ++ "`"
  | .length found expected =>
    "invalid length " ++ String.ofList (decimal found) ++ ", expected " ++ expected

end Telemux
