import PlotJugglerSdk.Json.Value

/-!
# Documents and their text

A program that writes a document and reads it back sees what its library's text
keeps. Texts, booleans and finite doubles come back as they were; an integer
that is not negative comes back unsigned. Which documents have a text at all is
`Printable`: strings are to be UTF-8, doubles finite.

* `find_fields`, `find_reread` — a member is read by its key, also after the text
* `reread_strings`             — arrays of texts are kept
-/

namespace Json

open Wire

/-! ## Texts -/

def ValidUtf8 (bytes : Bytes) : Prop := (ByteArray.mk bytes.toArray).IsValidUTF8

theorem text_inj {a b : String} (h : text a = text b) : a = b :=
  String.toByteArray_inj.mp (ByteArray.ext (Array.toList_inj.mp h))

theorem validUtf8_text (s : String) : ValidUtf8 (text s) := s.isValidUTF8

/-- The exponent of the double is not that of infinities and NaNs. -/
def Finite (bits : UInt64) : Prop := bits.toNat / 2 ^ 52 % 2 ^ 11 ≠ 2047

/-! ## Documents -/

namespace Value

/-- An object with its keys spelled out. -/
def fields (members : List (String × Value)) : Value :=
  object (members.map fun (key, value) => (text key, value))

theorem find_fields (key : String) (members : List (String × Value)) :
    (fields members).find key = members.lookup key := by
  show (members.map fun (key, value) => (text key, value)).lookup (text key) = _
  induction members with
  | nil => rfl
  | cons member members ih =>
    obtain ⟨name, value⟩ := member
    rw [List.map_cons, List.lookup_cons, List.lookup_cons, ih]
    by_cases hname : key = name
    · rw [hname, beq_self_eq_true, beq_self_eq_true]
    · have htext : text key ≠ text name := fun h => hname (text_inj h)
      rw [beq_false_of_ne hname, beq_false_of_ne htext]

theorem contains_fields (key : String) (members : List (String × Value)) :
    (fields members).contains key = (members.map Prod.fst).contains key := by
  unfold contains
  rw [find_fields]
  induction members with
  | nil => rfl
  | cons member members ih =>
    obtain ⟨name, value⟩ := member
    rw [List.lookup_cons, List.map_cons, List.contains_cons, ← ih]
    cases key == name <;> rfl

def strings (values : List Bytes) : Value := array (values.map string)

mutual

/-- What is read of a document's text. -/
def reread : Value → Value
  | integer value => if 0 ≤ value then unsigned value.toUInt64 else integer value
  | array values => array (rereadAll values)
  | object members => object (rereadMembers members)
  | value => value

def rereadAll : List Value → List Value
  | [] => []
  | value :: values => value.reread :: rereadAll values

def rereadMembers : List (Bytes × Value) → List (Bytes × Value)
  | [] => []
  | (key, value) :: members => (key, value.reread) :: rereadMembers members

end

mutual

/-- The document has a text that says it. -/
def Printable : Value → Prop
  | float bits => Finite bits
  | string value => ValidUtf8 value
  | array values => PrintableAll values
  | object members => PrintableMembers members
  | _ => True

def PrintableAll : List Value → Prop
  | [] => True
  | value :: values => value.Printable ∧ PrintableAll values

def PrintableMembers : List (Bytes × Value) → Prop
  | [] => True
  | (key, value) :: members => ValidUtf8 key ∧ value.Printable ∧ PrintableMembers members

end

theorem rereadAll_eq (values : List Value) : rereadAll values = values.map reread := by
  induction values with
  | nil => rfl
  | cons value values ih => rw [rereadAll, ih, List.map_cons]

theorem reread_strings (values : List Bytes) : (strings values).reread = strings values := by
  show array (rereadAll (values.map string)) = array (values.map string)
  rw [rereadAll_eq, List.map_map]
  rfl

theorem reread_fields (members : List (String × Value)) :
    (fields members).reread = fields (members.map fun (key, value) => (key, value.reread)) := by
  show object (rereadMembers _) = object _
  congr 1
  induction members with
  | nil => rfl
  | cons member members ih =>
    rw [List.map_cons, rereadMembers, ih]
    rfl

theorem printable_nil : (fields []).Printable := trivial

theorem printable_cons {key : String} {value : Value} {members : List (String × Value)}
    (hvalue : value.Printable) (hmembers : (fields members).Printable) :
    (fields ((key, value) :: members)).Printable :=
  ⟨validUtf8_text key, hvalue, hmembers⟩

theorem printable_array {values : List Value} (h : ∀ value ∈ values, value.Printable) :
    (array values).Printable := by
  show PrintableAll values
  induction values with
  | nil => trivial
  | cons value values ih =>
    exact ⟨h value (by simp), ih fun other hother => h other (List.mem_cons_of_mem _ hother)⟩

theorem printable_strings {values : List Bytes} (h : ∀ value ∈ values, ValidUtf8 value) :
    (strings values).Printable := by
  refine printable_array fun value hvalue => ?_
  obtain ⟨bytes, hbytes, rfl⟩ := List.mem_map.mp hvalue
  exact h bytes hbytes

end Value

end Json
