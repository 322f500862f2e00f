import Mathlib.Algebra.Group.Nat.Defs
import Mathlib.Data.List.DropRight

/-!
# CdrFieldLocator

The compiler of ROS message bundles: the text of a schema becomes a table of structs, whose
fields name each other by index, and a dotted path becomes the steps to a field.

A `char` is compared with ASCII characters and otherwise only copied, so a text is a list
of characters of any kind.

* `parseCdrType`         — the spelling of a type
* `readLine`, `addLine`  — a line, and what it does to the table
* `validateSchemaGraph`  — the search for cycles and for depth
* `parse`, `locate`      — the two entry points
-/

namespace PlotJugglerSdk.ParserModule

abbrev Text : Type := List Char

/-- `std::numeric_limits<size_t>::max()`, also the index that is none. -/
def sizeMax : Nat := 2 ^ 64 - 1

inductive CdrValueKind where
  | bool | i8 | u8 | i16 | u16 | i32 | u32 | i64 | u64 | f32 | f64 | string | struct
  deriving DecidableEq

inductive CdrContainerKind where
  | scalar
  | fixedArray
  | sequence
  deriving DecidableEq

structure CdrSchemaType where
  kind : CdrValueKind := .u8
  container : CdrContainerKind := .scalar
  fixedCount : Nat := 0
  maximumContainerCount : Nat := 0
  maximumStringLength : Nat := 0
  nestedName : Text := []
  nestedIndex : Nat := sizeMax
  deriving DecidableEq

structure CdrSchemaField where
  name : Text
  type : CdrSchemaType
  deriving DecidableEq

structure CdrSchemaStruct where
  name : Text
  fields : List CdrSchemaField
  deriving DecidableEq

/-- `CdrReader::CachedKind` -/
inductive CachedKind where
  | unknown | bool | i8 | u8 | i16 | u16 | i32 | u32 | i64 | u64 | f32 | f64 | string | bytes
  deriving DecidableEq

structure CdrRequestedField where
  path : Text
  steps : List Nat
  cachedKind : CachedKind
  deriving DecidableEq

/-- `CdrReader::kMaxTraversalDepth` -/
def kMaxTraversalDepth : Nat := 64

/-! ## Spellings -/

/-- `std::isspace` in the C locale. -/
def isSpace (c : Char) : Bool :=
  c == ' ' || c == '\t' || c == '\n' || c == '\x0b' || c == '\x0c' || c == '\r'

/-- What `find_first_of(" \t")` stops at. -/
def isBlank (c : Char) : Bool := c == ' ' || c == '\t'

def trim (text : Text) : Text := (text.dropWhile isSpace).rdropWhile isSpace

/-- The first place a pattern stands at. -/
def find (pattern : Text) : Text → Option Nat
  | [] => if pattern.isEmpty then some 0 else none
  | c :: text => if pattern.isPrefixOf (c :: text) then some 0 else (find pattern text).map (· + 1)

def normalizeRosType (name : Text) : Text :=
  match find "/msg/".toList name with
  | none => name
  | some msg => name.take msg ++ '/' :: name.drop (msg + 5)

/-- The loop of `parseDecimal`, with the value so far. -/
def parseDigits : (value : Nat) → Text → Except String Nat
  | value, [] => .ok value
  | value, character :: text =>
    if character < '0' ∨ '9' < character then .error "array extent is not a decimal integer"
    else
      let digit := character.toNat - '0'.toNat
      if value > (sizeMax - digit) / 10 then .error "array extent overflows the host size type"
      else parseDigits (value * 10 + digit) text

def parseDecimal (text : Text) : Except String Nat :=
  if text = [] then .error "array extent is empty" else parseDigits 0 text

/-- An extent that has to be a number, and not zero. -/
def parsePositive (text : Text) (message : String) : Except String Nat :=
  match parseDecimal text with
  | .error _ => .error message
  | .ok count => if count = 0 then .error message else .ok count

/-- What stands between the brackets, if there are any. -/
def parseExtent (spelling : Text) (type : CdrSchemaType) : Except String (Text × CdrSchemaType) :=
  match spelling.idxOf? '[' with
  | none => .ok (spelling, type)
  | some bracket =>
    -- one pair of brackets, at the end
    if spelling.getLast? ≠ some ']' ∨ '[' ∈ spelling.drop (bracket + 1) then
      .error "unsupported ROS 2 array spelling"
    else
      let extent := (spelling.drop (bracket + 1)).dropLast
      -- `[]`, `[<=n]` and `[n]`
      if extent = [] then .ok (spelling.take bracket, { type with container := .sequence })
      else if extent.take 2 = "<=".toList then do
        let count ← parsePositive (extent.drop 2)
          "ROS 2 bounded sequences require a positive maximum"
        return (spelling.take bracket,
          { type with container := .sequence, maximumContainerCount := count })
      else do
        let count ← parsePositive extent "ROS 2 fixed arrays require a positive extent"
        return (spelling.take bracket, { type with container := .fixedArray, fixedCount := count })

/-- The names that stand for a kind of their own. -/
def kindOfBase (base : Text) : Option CdrValueKind :=
  if base = "bool".toList then some .bool
  else if base = "int8".toList then some .i8
  else if base = "uint8".toList ∨ base = "byte".toList ∨ base = "char".toList then some .u8
  else if base = "int16".toList then some .i16
  else if base = "uint16".toList then some .u16
  else if base = "int32".toList then some .i32
  else if base = "uint32".toList then some .u32
  else if base = "int64".toList then some .i64
  else if base = "uint64".toList then some .u64
  else if base = "float32".toList then some .f32
  else if base = "float64".toList then some .f64
  else if base = "string".toList then some .string
  else none

def parseCdrType (spelling : Text) : Except String CdrSchemaType := do
  let (base, type) ← parseExtent spelling {}
  if base = "wstring".toList ∨ base.take 9 = "wstring<=".toList then
    .error "wide ROS 2 strings are not supported by CdrFieldLocator"
  else if base.take 8 = "string<=".toList then do
    let maximum ← parsePositive (base.drop 8) "bounded ROS 2 strings require a positive maximum"
    return { type with kind := .string, maximumStringLength := maximum }
  else
    match kindOfBase base with
    | some kind => return { type with kind }
    -- whatever is no base type names a struct; whether there is one is asked later
    | none => return { type with kind := .struct, nestedName := normalizeRosType base }

def cachedKind (type : CdrSchemaType) : CachedKind :=
  -- of the containers only those of octets are kept
  if type.container ≠ .scalar then if type.kind = .u8 then .bytes else .unknown
  else
    match type.kind with
    | .bool => .bool
    | .i8 => .i8
    | .u8 => .u8
    | .i16 => .i16
    | .u16 => .u16
    | .i32 => .i32
    | .u32 => .u32
    | .i64 => .i64
    | .u64 => .u64
    | .f32 => .f32
    | .f64 => .f64
    | .string => .string
    | .struct => .unknown

namespace CdrFieldLocator

/-! ## Lines -/

/-- What a line is taken for. -/
inductive SchemaLine where
  | skipped
  | service
  | message (name : Text)
  | malformed
  | nameless
  | constant
  | field (typeSpelling name : Text)
  deriving DecidableEq

/-- A line without what ends it and what is commented out. -/
def strip (line : Text) : Text :=
  let line := if line.getLast? = some '\r' then line.dropLast else line
  trim (line.takeWhile (· ≠ '#'))

/-- The declaration that a line is when it is nothing else. -/
def readDeclaration (line : Text) : SchemaLine :=
  match line.findIdx? isBlank with
  | none => .malformed
  | some split =>
    let remainder := trim (line.drop (split + 1))
    let fieldName := remainder.takeWhile fun c => !isBlank c && c != '='
    if fieldName = [] then .nameless
    else if '=' ∈ remainder then .constant
    else .field (line.take split) fieldName

def readLine (line : Text) : SchemaLine :=
  let line := strip line
  if line = [] ∨ "===".toList.isPrefixOf line then .skipped
  else if "---".toList.isPrefixOf line then .service
  else if "MSG:".toList.isPrefixOf line then .message (normalizeRosType (trim (line.drop 4)))
  else readDeclaration line

/-- The structs so far, and the one that fields are added to. -/
structure SchemaTable where
  structs : List CdrSchemaStruct := [⟨[], []⟩]
  current : Nat := 0
  deriving DecidableEq

def addField (table : SchemaTable) (typeSpelling name : Text) : Except String SchemaTable := do
  let type ← parseCdrType typeSpelling
  let structure_ := table.structs.getD table.current ⟨[], []⟩
  if structure_.fields.any fun field => field.name = name then
    .error "ROS 2 schema type contains a duplicate field name"
  else
    return { table with
      structs := table.structs.set table.current
        { structure_ with fields := structure_.fields ++ [⟨name, type⟩] } }

def addMessage (table : SchemaTable) (name : Text) : Except String SchemaTable :=
  if name = [] then .error "ROS 2 schema bundle contains an empty MSG name"
  else if table.structs = [⟨[], []⟩] then .ok { structs := [⟨name, []⟩], current := 0 }
  else if table.structs.any fun structure_ => normalizeRosType structure_.name = name then
    .error "ROS 2 schema bundle contains a duplicate MSG name"
  else
    .ok { structs := table.structs ++ [⟨name, []⟩], current := table.structs.length }

def addLine (table : SchemaTable) : SchemaLine → Except String SchemaTable
  | .skipped => .ok table
  | .service => .error "ROS 2 service/action schemas are not supported by CdrFieldLocator"
  | .message name => addMessage table name
  | .malformed => .error "malformed ROS 2 field declaration"
  | .nameless => .error "ROS 2 field declaration has no name"
  | .constant => .ok table
  | .field typeSpelling name => addField table typeSpelling name

/-! ## References -/

/-- A struct goes by its full name, or by the part behind the last slash. -/
def goesBy (structure_ : CdrSchemaStruct) (name : Text) : Bool :=
  let normalized := normalizeRosType structure_.name
  normalized = name || normalized.rtakeWhile (· ≠ '/') = name

def findStruct (structs : List CdrSchemaStruct) (name : Text) : Except String Nat :=
  match structs.zipIdx.filter fun indexed => goesBy indexed.1 name with
  | [] => .error "ROS 2 nested type is missing from the concatenated schema bundle"
  | [(_, index)] => .ok index
  | _ => .error "ROS 2 nested type name is ambiguous in the schema bundle"

def linkField (structs : List CdrSchemaStruct) (field : CdrSchemaField) :
    Except String CdrSchemaField :=
  if field.type.kind ≠ .struct then .ok field
  else do
    let nested ← findStruct structs field.type.nestedName
    return { field with type := { field.type with nestedIndex := nested } }

def linkStruct (structs : List CdrSchemaStruct) (structure_ : CdrSchemaStruct) :
    Except String CdrSchemaStruct := do
  let fields ← structure_.fields.mapM (linkField structs)
  return { structure_ with fields }

/-! ## Cycles and depth -/

inductive VisitState where
  | fresh
  | active
  | done
  deriving DecidableEq

/-- `structs_[index]`; no index of a linked table is out of range. -/
def structAt (structs : List CdrSchemaStruct) (index : Nat) : CdrSchemaStruct :=
  structs.getD index ⟨[], []⟩

/-- The structs that a struct's fields are of, in their order. -/
def nestedIndices (structure_ : CdrSchemaStruct) : List Nat :=
  (structure_.fields.filter fun field => field.type.kind = .struct).map fun field =>
    field.type.nestedIndex

/-- The search below one struct, with `levels` left of the depth that is allowed. -/
def validateSchemaGraph (structs : List CdrSchemaStruct) :
    (levels structIndex : Nat) → List VisitState → Except String (List VisitState)
  | 0, _, _ => .error "ROS 2 schema nesting depth exceeds 64"
  | levels + 1, structIndex, visitState =>
    match visitState.getD structIndex .fresh with
    | .active => .error "ROS 2 schema contains a cyclic nested type"
    | .done => .ok visitState
    | .fresh => do
      let visitState ← (nestedIndices (structAt structs structIndex)).foldlM
        (fun visitState nestedIndex => validateSchemaGraph structs levels nestedIndex visitState)
        (visitState.set structIndex .active)
      return visitState.set structIndex .done

/-- The search from every struct. -/
def validateStructs (structs : List CdrSchemaStruct) : Except String (List VisitState) :=
  (List.range structs.length).foldlM
    (fun visitState index => validateSchemaGraph structs kMaxTraversalDepth index visitState)
    (List.replicate structs.length .fresh)

/-! ## The entry points -/

/-- The structs of the lines of a schema, before their fields are linked. -/
def readStructs (schema : Text) : Except String (List CdrSchemaStruct) := do
  let table ← (schema.splitOn '\n').foldlM (fun table line => addLine table (readLine line)) {}
  return table.structs

def parse (schema : Text) : Except String (List CdrSchemaStruct) := do
  if schema = [] then .error "ROS 2 .msg schema bundle is empty"
  else
    let structs ← readStructs schema
    if (structAt structs 0).fields = [] then .error "ROS 2 .msg root type has no fields"
    else
      let linked ← structs.mapM (linkStruct structs)
      let _ ← validateStructs linked
      return linked

/-- The components of a path behind the steps taken. -/
def compileSteps (structs : List CdrSchemaStruct) :
    List Text → (structIndex : Nat) → (steps : List Nat) → Except String (List Nat × CachedKind)
  | [], _, _ => .error "CDR field path is malformed"
  | component :: more, structIndex, steps =>
    -- the source's loop ends before a component behind the last dot
    if component = [] then
      .error (if more = [] then "CDR field path is malformed"
        else "CDR field path contains an empty component")
    else
      let fields := (structAt structs structIndex).fields
      match fields.findIdx? fun field => field.name = component with
      | none => .error "CDR field path is absent from the ROS 2 schema"
      | some fieldIndex =>
        let steps := steps ++ [fieldIndex]
        let type := (fields.getD fieldIndex ⟨[], {}⟩).type
        if more = [] then
          if cachedKind type = .unknown then
            .error "requested CDR terminal field has an unsupported type"
          else .ok (steps, cachedKind type)
        else if type.kind ≠ .struct ∨ type.container ≠ .scalar then
          .error "CDR field path may descend only through scalar nested structs"
        else if steps.length ≥ kMaxTraversalDepth then .error "CDR field path depth exceeds 64"
        else compileSteps structs more type.nestedIndex steps

def compilePath (structs : List CdrSchemaStruct) (path : Text) : Except String CdrRequestedField :=
  if path = [] then .error "CDR field path is empty"
  else do
    let (steps, cachedKind) ← compileSteps structs (path.splitOn '.') 0 []
    return { path, steps, cachedKind }

end CdrFieldLocator

/-- `CdrTraversalPlan` -/
structure CdrTraversalPlan where
  structs : List CdrSchemaStruct
  requested : List CdrRequestedField
  deriving DecidableEq

namespace CdrFieldLocator

def addPath (plan : CdrTraversalPlan) (path : Text) : Except String CdrTraversalPlan := do
  let request ← compilePath plan.structs path
  if plan.requested.any fun existing => existing.path = request.path then
    .error "duplicate CDR field path requested"
  else return { plan with requested := plan.requested ++ [request] }

def locate (structs : List CdrSchemaStruct) (paths : List Text) :
    Except String CdrTraversalPlan := do
  let plan ← paths.foldlM addPath { structs, requested := [] }
  if plan.requested = [] then .error "at least one CDR field path is required" else return plan

end CdrFieldLocator

end PlotJugglerSdk.ParserModule
