import PlotJugglerSdk.Wire.Fields

/-!
# Declared fields

What a message type says about its fields, as data: a **table** of
declarations, each a field number, a wire type and what the payload does to the
object under construction. The meaning of a field list under a table is a fold
(`foldFields`): a declared field with the declared wire type is applied and may
be refused, every other field is passed over.

* `Decoder` — a decoder filling an out-parameter; whether it succeeds does not
  depend on what the parameter held;
* `FieldDecl` and its constructors for the usual shapes of fields;
* `foldFields_append` — the meaning of concatenated lists;
* `foldFields_isSome_iff` — a message has a meaning exactly if none of its
  fields is refused.
-/

namespace Wire

variable {α β : Type}

/-- Fills `out` from the bytes of a message and reports success. What a failed
decoder leaves in `out` is part of its behaviour. -/
structure Decoder (α : Type) where
  run : Bytes → α → Bool × α
  steady : ∀ bytes out out', (run bytes out).1 = (run bytes out').1

instance : CoeFun (Decoder α) (fun _ => Bytes → α → Bool × α) := ⟨Decoder.run⟩

structure FieldDecl (α : Type) where
  number : Nat
  type : WireType
  apply : Payload → α → Bool × α
  steady : ∀ payload out out', (apply payload out).1 = (apply payload out').1

namespace FieldDecl

/-! ## The usual shapes -/

def varint (number : Nat) (set : UInt64 → α → α) : FieldDecl α where
  number := number
  type := .varint
  apply
    | .varint value, out => (true, set value out)
    | _, out => (false, out)
  steady payload _ _ := by cases payload <;> rfl

def fixed64 (number : Nat) (set : UInt64 → α → α) : FieldDecl α where
  number := number
  type := .fixed64
  apply
    | .fixed64 bits, out => (true, set bits out)
    | _, out => (false, out)
  steady payload _ _ := by cases payload <;> rfl

def fixed32 (number : Nat) (set : UInt32 → α → α) : FieldDecl α where
  number := number
  type := .fixed32
  apply
    | .fixed32 bits, out => (true, set bits out)
    | _, out => (false, out)
  steady payload _ _ := by cases payload <;> rfl

def bytes (number : Nat) (set : Bytes → α → α) : FieldDecl α where
  number := number
  type := .lengthDelimited
  apply
    | .bytes content, out => (true, set content out)
    | _, out => (false, out)
  steady payload _ _ := by cases payload <;> rfl

/-- A length-delimited field whose content has a shape of its own. -/
def packed (number : Nat) (parse : Bytes → Option β) (set : β → α → α) : FieldDecl α where
  number := number
  type := .lengthDelimited
  apply
    | .bytes content, out =>
      match parse content with
      | some value => (true, set value out)
      | none => (false, out)
    | _, out => (false, out)
  steady payload _ _ := by
    cases payload with
    | bytes content => cases h : parse content <;> simp [h]
    | _ => rfl

/-- A nested message, decoded into the part of the object it stands for: what
a failing decoder has already written stays. -/
def message (number : Nat) (decode : Decoder β) (get : α → β) (set : β → α → α) :
    FieldDecl α where
  number := number
  type := .lengthDelimited
  apply
    | .bytes content, out =>
      let (ok, value) := decode content (get out)
      (ok, set value out)
    | _, out => (false, out)
  steady payload out out' := by
    cases payload with
    | bytes content => exact decode.steady content (get out) (get out')
    | _ => rfl

/-- A nested message, decoded from `init` and appended to a list once complete. -/
def repeated (number : Nat) (decode : Decoder β) (init : β)
    (modify : (List β → List β) → α → α) : FieldDecl α where
  number := number
  type := .lengthDelimited
  apply
    | .bytes content, out =>
      match decode content init with
      | (true, value) => (true, modify (· ++ [value]) out)
      | (false, _) => (false, out)
    | _, out => (false, out)
  steady payload _ _ := by
    cases payload with
    | bytes content => cases h : decode content init with | mk ok value => cases ok <;> simp [h]
    | _ => rfl

end FieldDecl

/-! ## Tables -/

def lookup (table : List (FieldDecl α)) (number : Nat) : Option (FieldDecl α) :=
  table.find? (·.number == number)

theorem lookup_mem {table : List (FieldDecl α)} {number : Nat} {decl : FieldDecl α}
    (h : lookup table number = some decl) : decl ∈ table ∧ decl.number = number := by
  refine ⟨List.mem_of_find?_eq_some h, ?_⟩
  simpa using List.find?_some h

theorem lookup_eq_none {table : List (FieldDecl α)} {number : Nat} :
    lookup table number = none ↔ ∀ decl ∈ table, decl.number ≠ number := by
  simp [lookup, List.find?_eq_none]

/-- The declaration of a tag's number, if it has the tag's wire type. -/
def declared (table : List (FieldDecl α)) (tag : Tag) : Option (FieldDecl α) :=
  (lookup table tag.number).filter fun decl => tag.type = decl.type

theorem declared_eq_some {table : List (FieldDecl α)} {tag : Tag} {decl : FieldDecl α} :
    declared table tag = some decl ↔ lookup table tag.number = some decl ∧
      tag.type = decl.type := by
  simp [declared, Option.filter_eq_some_iff]

theorem declared_eq_none {table : List (FieldDecl α)} {tag : Tag}
    (h : ∀ decl ∈ table, decl.number = tag.number → tag.type ≠ decl.type) :
    declared table tag = none := by
  by_contra hne
  obtain ⟨decl, hdecl⟩ := Option.ne_none_iff_exists'.mp hne
  obtain ⟨hlookup, htype⟩ := declared_eq_some.mp hdecl
  obtain ⟨hmem, hnumber⟩ := lookup_mem hlookup
  exact h decl hmem hnumber htype

theorem declared_eq_none_of_lookup {table : List (FieldDecl α)} {tag : Tag}
    (h : lookup table tag.number = none) : declared table tag = none := by
  rw [declared, h]
  rfl

/-- One field: applied when declared with its wire type, else passed over. -/
def foldField (table : List (FieldDecl α)) (out : α) (field : Field) : Option α :=
  match declared table field.tag with
  | some decl =>
    match decl.apply field.payload out with
    | (true, out) => some out
    | (false, _) => none
  | none => some out

/-- The meaning of a field list; `none` when a declared field is refused. -/
def foldFields (table : List (FieldDecl α)) (fields : List Field) (out : α) : Option α :=
  fields.foldlM (foldField table) out

@[simp] theorem foldFields_nil (table : List (FieldDecl α)) (out : α) :
    foldFields table [] out = some out := rfl

@[simp] theorem foldFields_cons (table : List (FieldDecl α)) (field : Field) (fields : List Field)
    (out : α) : foldFields table (field :: fields) out =
      (foldField table out field).bind (foldFields table fields) := rfl

theorem foldFields_append (table : List (FieldDecl α)) (fields fields' : List Field) (out : α) :
    foldFields table (fields ++ fields') out =
      (foldFields table fields out).bind (foldFields table fields') := by
  simp [foldFields, List.foldlM_append]
  rfl

theorem foldField_applied {table : List (FieldDecl α)} {field : Field} {decl : FieldDecl α}
    {out out' : α} (hdecl : declared table field.tag = some decl)
    (happly : decl.apply field.payload out = (true, out')) :
    foldField table out field = some out' := by
  rw [foldField, hdecl]
  simp [happly]

/-- A field no declaration of its number and wire type is for. -/
theorem foldField_passed {table : List (FieldDecl α)} {field : Field} (out : α)
    (h : declared table field.tag = none) : foldField table out field = some out := by
  rw [foldField, h]

/-- Whether a field is refused does not depend on the object so far. -/
theorem foldField_isSome (table : List (FieldDecl α)) (field : Field) (out out' : α) :
    (foldField table out field).isSome = (foldField table out' field).isSome := by
  rw [foldField, foldField]
  cases declared table field.tag with
  | none => rfl
  | some decl =>
    have hsteady := decl.steady field.payload out out'
    simp only
    rcases hout : decl.apply field.payload out with ⟨ok, value⟩
    rcases hout' : decl.apply field.payload out' with ⟨ok', value'⟩
    rw [hout, hout'] at hsteady
    obtain rfl : ok = ok' := hsteady
    cases ok <;> rfl

/-- The meaning of a message is some object exactly if no field of it is refused. -/
theorem foldFields_isSome_iff {table : List (FieldDecl α)} {fields : List Field} {out : α} :
    (foldFields table fields out).isSome ↔
      ∀ field ∈ fields, (foldField table out field).isSome := by
  induction fields generalizing out with
  | nil => simp
  | cons field fields ih =>
    rw [foldFields_cons, List.forall_mem_cons]
    cases hout : foldField table out field with
    | none => simp
    | some value =>
      simp only [Option.bind_some, Option.isSome_some, true_and]
      rw [ih]
      exact forall₂_congr fun field' _ => by rw [foldField_isSome table field' value out]

end Wire
