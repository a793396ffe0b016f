import PeekRelay.Text.Quoted
/-!
# Mismatches

Why a value that was read does not fit the record that was wanted.
-/
namespace PeekRelay

inductive Found where
  | integer (n : Int)
  | wideInteger (n : Int) (width : String)
  | float
  | boolean (b : Bool)
  | text (s : String)
  | sequence
  | map
  | null
  deriving DecidableEq, Repr

/-- The digits of a floating point number are not shown. -/
def Found.describe : Found → String
  | integer n => "integer `" ++ toString n ++ "`"
  | wideInteger n width => "integer `" ++ toString n ++ "` as " ++ width
  | float => "floating point `_`"
  | boolean b => "boolean `" ++ toString b ++ "`"
  | text s => "string " ++ Quoted.text s
  | sequence => "sequence"
  | map => "map"
  | null => "null"

inductive Mismatch where
  | wrongType (found : Found) (wanted : String)
  | wrongValue (n : Int) (wanted : String)
  | missing (field : String)
  | duplicate (field : String)
  | unknownVariant (name : String) (known : List String)
  deriving DecidableEq, Repr

namespace Mismatch

private def quoted (name : String) : String := "`" ++ name ++ "`"

private def oneOf : List String → String
  | [] => "nothing"
  | [a] => quoted a
  | [a, b] => quoted a ++ " or " ++ quoted b
  | names => "one of " ++ String.intercalate ", " (names.map quoted)

def message : Mismatch → String
  | wrongType found wanted => "invalid type: " ++ found.describe ++ ", expected " ++ wanted
  | wrongValue n wanted =>
    "invalid value: " ++ (Found.integer n).describe ++ ", expected " ++ wanted
  | missing field => "missing field " ++ quoted field
  | duplicate field => "duplicate field " ++ quoted field
  | unknownVariant name known =>
    "unknown variant " ++ quoted name ++ ", expected " ++ oneOf known

end Mismatch

end PeekRelay
