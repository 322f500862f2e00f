import PlotJugglerSdk.Wire.Numbers

/-!
# JSON documents

The value model of a JSON library that keeps integers exact: a number is a
signed or an unsigned 64-bit integer or a double, a text is a byte string, an
object is the list of its members. Reading and printing documents is the
library's own; what a program does with a document is a function of this type.
-/

namespace Json

open Wire

/-- The bytes of a text literal. -/
def text (s : String) : Bytes := s.toUTF8.data.toList

inductive Value where
  | null
  | boolean (value : Bool)
  | integer (value : Int64)
  | unsigned (value : UInt64)
  | float (bits : UInt64)
  | string (value : Bytes)
  | array (values : List Value)
  | object (members : List (Bytes × Value))

namespace Value

/-- The member of an object under a key. -/
def find (key : String) : Value → Option Value
  | object members => members.lookup (text key)
  | _ => none

def contains (key : String) (value : Value) : Bool := (value.find key).isSome

end Value

end Json
