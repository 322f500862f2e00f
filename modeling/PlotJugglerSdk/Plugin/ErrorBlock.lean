import Mathlib.Data.List.TakeWhile

/-!
# The error block of a call

A call across the boundary that fails says why in a block of its caller's: a code, and texts
in arrays of fixed size. A text that does not fit is cut, and the reader stops at the first
null, so what a caller is told may be less than what was said.

* `fillError`, `setExtended` — the two writers of a block
* `errorToString`            — what a caller makes of it
-/

namespace PlotJugglerSdk

/-- What a function comes to that returns a value or an error, or throws; of what is thrown only a
text may be known. -/
inductive Outcome (α : Type) where
  | ok (value : α)
  | error (message : String)
  | exception (what : Option String)

def PJ_ERROR_DOMAIN_MAX : Nat := 32

def PJ_ERROR_MESSAGE_MAX : Nat := 224

def PJ_ERROR_KIND_MAX : Nat := 32

/-- The texts are what their arrays read as; the payload pointer is null wherever a block is
written here. -/
structure PJError where
  code : Int32 := 0
  domain : String := ""
  message : String := ""
  extendedKind : String := ""
  deriving DecidableEq

/-- One character of the text is one of the array. -/
def setErrorField (destSize : Nat) (src : String) : String :=
  -- the last place is for the null, and a null of the text ends it as well
  String.ofList ((src.toList.take (destSize - 1)).takeWhile (· ≠ Char.ofNat 0))

def fillError (code : Int32) (domain message : String) : PJError where
  code
  domain := setErrorField PJ_ERROR_DOMAIN_MAX domain
  message := setErrorField PJ_ERROR_MESSAGE_MAX message
  -- a block that is used again must not keep the kind of the error before
  extendedKind := ""

def setExtended (err : PJError) (kind : String) : PJError :=
  { err with extendedKind := setErrorField PJ_ERROR_KIND_MAX kind }

def errorToString (err : PJError) : String :=
  let out := (if err.domain ≠ "" then err.domain ++ ": " else "") ++ err.message
  if out = "" then "unspecified error" else out

/-! ## What is read back -/

/-- A text that fits and has no null in it arrives. -/
theorem setErrorField_eq_self {destSize : Nat} {src : String}
    (hlength : src.toList.length < destSize) (hnull : Char.ofNat 0 ∉ src.toList) :
    setErrorField destSize src = src := by
  have hfits : src.toList.take (destSize - 1) = src.toList := List.take_of_length_le (by omega)
  have hall : src.toList.takeWhile (· ≠ Char.ofNat 0) = src.toList := by
    rw [List.takeWhile_eq_self_iff]
    intro c hc
    have hne : c ≠ Char.ofNat 0 := fun heq => hnull (heq ▸ hc)
    simpa using hne
  rw [setErrorField, hfits, hall, String.ofList_toList]

/-- The kind is for programs: the text a caller shows does not have it. -/
@[simp] theorem errorToString_setExtended (err : PJError) (kind : String) :
    errorToString (setExtended err kind) = errorToString err := rfl

end PlotJugglerSdk
