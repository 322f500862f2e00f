import Mathlib.Data.List.Induction
import PlotJugglerSdk.Json.Documents
import PlotJugglerSdk.Order.SortedMap

/-!
# Documents that are built and travel

A program builds a document member by member and prints it. What is read at the other end is
`arrived`: integers that are not negative come back unsigned, and a double that is not finite
is printed as null. A document has a text as soon as its strings are UTF-8 (`Dumps`).

* `Members.get_set`, `get_edited` — members are told apart by their keys
* `find_arrived_fields`           — a member is read under the key it was set under
* `dumps_…`                       — which documents have a text
-/

namespace Json

open Wire

/-! ## Members of an object -/

/-- The members of an object, in the order of their keys. -/
abbrev Members := List (Bytes × Value)

namespace Members

def get (key : String) (members : Members) : Option Value := members.lookup (text key)

def setAt (key : Bytes) (value : Value) (members : Members) : Members :=
  SortedMap.insert (fun a b => decide (a < b)) key value members

def set (key : String) (value : Value) (members : Members) : Members :=
  members.setAt (text key) value

def remove (key : String) (members : Members) : Members := SortedMap.erase (text key) members

/-- Set a key, or remove it. -/
def edit (members : Members) : String × Option Value → Members
  | (key, some value) => members.set key value
  | (key, none) => members.remove key

def edited (edits : List (String × Option Value)) (members : Members) : Members :=
  edits.foldl edit members

theorem text_eq_iff (a b : String) : text a = text b ↔ a = b :=
  ⟨text_inj, congrArg text⟩

theorem get_set (wanted key : String) (value : Value) (members : Members) :
    (members.set key value).get wanted = if wanted = key then some value else
      members.get wanted := by
  unfold get set setAt
  rw [SortedMap.lookup_insert]
  simp only [text_eq_iff]

theorem get_remove (wanted key : String) (members : Members) :
    (members.remove key).get wanted = if wanted = key then none else members.get wanted := by
  unfold get remove
  rw [SortedMap.lookup_erase]
  simp only [text_eq_iff]

/-- The last edit of a key decides. -/
theorem get_edited (key : String) (edits : List (String × Option Value)) (members : Members) :
    (members.edited edits).get key = (edits.reverse.lookup key).getD (members.get key) := by
  unfold edited
  induction edits using List.reverseRecOn with
  | nil => rfl
  | append_singleton edits last ih =>
    rw [List.foldl_append, List.reverse_append, List.reverse_singleton, List.singleton_append]
    obtain ⟨other, change⟩ := last
    show (edit (edits.foldl edit members) (other, change)).get key = _
    rw [SortedMap.lookup_cons]
    cases change with
    | some value =>
      rw [edit, get_set, ih]
      split
      · rfl
      · rfl
    | none =>
      rw [edit, get_remove, ih]
      split
      · rfl
      · rfl

/-- Over a list of edits that each set or remove a key or leave it, the last that does not leave
it decides. -/
theorem get_foldl_edited {α β : Type} {key : String} {edits : α → List (String × Option Value)}
    {set : α → Option β} {encode : β → Option Value}
    (h : ∀ item, (edits item).reverse.lookup key = (set item).map encode) (items : List α)
    (members : Members) :
    (items.foldl (fun members item => members.edited (edits item)) members).get key =
      ((items.filterMap set).getLast?).elim (members.get key) encode := by
  induction items using List.reverseRecOn with
  | nil => rfl
  | append_singleton items item ih =>
    rw [List.foldl_append, List.foldl_cons, List.foldl_nil, get_edited, h, ih,
      List.filterMap_append,
      List.getLast?_append]
    cases hset : set item with
    | none => rw [List.filterMap_cons_none hset]; rfl
    | some value => rw [List.filterMap_cons_some hset]; rfl

end Members

namespace Value

/-! ## What is printed and what is read of it -/

instance (bits : UInt64) : Decidable (Finite bits) := inferInstanceAs (Decidable (_ ≠ _))

mutual

/-- What the text of a document says. -/
def dumped : Value → Value
  | float bits => if Finite bits then float bits else null
  | array values => array (dumpedAll values)
  | object members => object (dumpedMembers members)
  | value => value

def dumpedAll : List Value → List Value
  | [] => []
  | value :: values => value.dumped :: dumpedAll values

def dumpedMembers : List (Bytes × Value) → List (Bytes × Value)
  | [] => []
  | (key, value) :: members => (key, value.dumped) :: dumpedMembers members

end

/-- What is read of the text of a document. -/
def arrived (value : Value) : Value := value.dumped.reread

theorem arrived_array (values : List Value) :
    (array values).arrived = array (values.map arrived) := by
  show array (rereadAll (dumpedAll values)) = _
  congr 1
  induction values with
  | nil => rfl
  | cons value values ih => rw [dumpedAll, rereadAll, ih, List.map_cons, arrived]

theorem arrived_object (members : Members) :
    (object members).arrived = object (members.map fun member => (member.1, member.2.arrived)) := by
  show object (rereadMembers (dumpedMembers members)) = _
  congr 1
  induction members with
  | nil => rfl
  | cons member members ih => rw [dumpedMembers, rereadMembers, ih, List.map_cons, arrived]

theorem arrived_float {bits : UInt64} (h : Finite bits) : (float bits).arrived = float bits := by
  show (if Finite bits then float bits else null).reread = float bits
  rw [if_pos h]
  rfl

theorem arrived_strings (values : List Bytes) : (strings values).arrived = strings values := by
  unfold strings
  rw [arrived_array, List.map_map]
  rfl

theorem lookup_arrived (key : Bytes) (members : Members) :
    (members.map fun member => (member.1, member.2.arrived)).lookup key =
      (members.lookup key).map arrived := by
  induction members with
  | nil => rfl
  | cons member members ih =>
    obtain ⟨other, value⟩ := member
    rw [List.map_cons, SortedMap.lookup_cons, SortedMap.lookup_cons, ih]
    split
    · rfl
    · rfl

theorem find_arrived_object (key : String) (members : Members) :
    (object members).arrived.find key = (members.get key).map arrived := by
  rw [arrived_object]
  exact lookup_arrived (text key) members

theorem find_arrived_fields (key : String) (members : List (String × Value)) :
    (fields members).arrived.find key = (members.lookup key).map arrived := by
  rw [← find_fields]
  exact find_arrived_object key _

/-! ## Documents that have a text -/

/-- The document is printed without an error. -/
def Dumps (value : Value) : Prop := value.dumped.Printable

theorem dumps_string {value : Bytes} (h : ValidUtf8 value) : (string value).Dumps := h

theorem dumps_float (bits : UInt64) : (float bits).Dumps := by
  show (if Finite bits then float bits else null).Printable
  split
  · assumption
  · trivial

theorem dumps_array {values : List Value} (h : ∀ value ∈ values, value.Dumps) :
    (array values).Dumps := by
  show PrintableAll (dumpedAll values)
  induction values with
  | nil => trivial
  | cons value values ih =>
    exact ⟨h value List.mem_cons_self,
      ih fun other hother => h other (List.mem_cons_of_mem _ hother)⟩

theorem dumps_strings {values : List Bytes} (h : ∀ value ∈ values, ValidUtf8 value) :
    (strings values).Dumps := by
  refine dumps_array fun value hvalue => ?_
  obtain ⟨bytes, hbytes, rfl⟩ := List.mem_map.mp hvalue
  exact dumps_string (h bytes hbytes)

theorem dumps_object {members : Members} :
    (object members).Dumps ↔ ∀ member ∈ members, ValidUtf8 member.1 ∧ member.2.Dumps := by
  show PrintableMembers (dumpedMembers members) ↔ _
  induction members with
  | nil =>
    constructor
    · exact fun _ member hmember => nomatch hmember
    · exact fun _ => trivial
  | cons member members ih =>
    obtain ⟨key, value⟩ := member
    show ValidUtf8 key ∧ value.Dumps ∧ PrintableMembers (dumpedMembers members) ↔ _
    rw [ih, List.forall_mem_cons]
    exact and_assoc.symm

theorem dumps_fields {members : List (String × Value)} (h : ∀ member ∈ members, member.2.Dumps) :
    (fields members).Dumps := by
  refine dumps_object.mpr fun member hmember => ?_
  obtain ⟨⟨key, value⟩, hfield, rfl⟩ := List.mem_map.mp hmember
  exact ⟨validUtf8_text key, h _ hfield⟩

end Value

end Json
