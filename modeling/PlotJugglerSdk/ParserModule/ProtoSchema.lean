import PlotJugglerSdk.Order.Ranking
import PlotJugglerSdk.ParserModule.ProtoReader

/-!
# ProtoFieldLocator

The compiler of descriptor sets: the bytes of a `FileDescriptorSet` become a table of
messages, with their fields sorted by number, and a dotted path becomes field numbers. A plan
looks the numbers up in a payload, one inside the other.

A name is the bytes that it is in the descriptor.

* `parseField`, `parseMessage`, `parseFile`, `parse` — the table
* `compilePath`, `locate`                            — the plan
* `ProtoTraversalPlan.locate`                        — a field of a payload
-/

namespace PlotJugglerSdk.ParserModule

open Ranking Scan Wire

structure ProtoSchemaField where
  name : Bytes
  number : UInt32 := 0
  type : UInt32 := 0
  typeName : Bytes := []
  repeated : Bool := false
  deriving DecidableEq

structure ProtoSchemaMessage where
  fullName : Bytes
  fields : List ProtoSchemaField := []
  topLevel : Bool := false
  deriving DecidableEq

structure ProtoRequestedField where
  path : Bytes
  numbers : List UInt32
  deriving DecidableEq

/-- The bytes of `.`. -/
def dot : UInt8 := 0x2E

def normalizeProtoTypeName (name : Bytes) : Bytes :=
  if name.head? = some dot then name.tail else name

/-! ## Looking up -/

/-- A field of a part of a message, with its bytes as a part of the whole. -/
def ProtoReader.Field.behind (field : ProtoReader.Field) (base : Nat) : ProtoReader.Field :=
  if field.wireType = .lengthDelimited then
    { field with bytes := { field.bytes with offset := base + field.bytes.offset } }
  else field

structure ProtoTraversalPlan where
  requested : List ProtoRequestedField := []
  deriving DecidableEq

namespace ProtoTraversalPlan

/-- The loop of `locate`, in the part of the message that begins at `base`. -/
def locateFrom : List UInt32 → (base : Nat) → ProtoReader → Except ScanError ProtoReader.Field
  | [], _, _ => fail "protobuf field path is empty"
  | number :: numbers, base, current => do
    let field ← current.last number
    if numbers = [] then .ok (field.behind base)
    else if field.wireType ≠ .lengthDelimited then
      fail "protobuf field-path intermediate is not a message"
    else
      locateFrom numbers (base + field.bytes.offset) { message := field.bytes.of current.message }

def locate (plan : ProtoTraversalPlan) (reader : ProtoReader) (fieldId : Nat) :
    Except ScanError ProtoReader.Field :=
  match plan.requested[fieldId]? with
  | none => fail "protobuf field id is outside the traversal plan"
  | some request =>
    if request.numbers.length > ProtoReader.kMaxRecursionDepth then
      fail "protobuf field path depth exceeds 64"
    else locateFrom request.numbers 0 reader

end ProtoTraversalPlan

namespace ProtoFieldLocator

/-! ## Descriptors -/

def parseField (bytes : Bytes) : Except ScanError ProtoSchemaField :=
  let field : ProtoReader := { message := bytes }
  match field.last 1, field.varint 3, field.varint 4, field.varint 5 with
  | .ok name, .ok number, .ok label, .ok type =>
    if name.wireType ≠ .lengthDelimited ∨ name.bytes.size = 0 then
      fail "FieldDescriptorProto is missing a required field"
    else if number = 0 ∨ number > 0x1FFFFFFF ∨ label = 0 ∨ label > 3 ∨ type = 0 ∨ type > 18 ∨
        -- 18 is sint64, the last type there is, and 10 is the deprecated group
        type = 10 then
      fail "FieldDescriptorProto uses an unsupported field number, label, or type"
    else
      let result : ProtoSchemaField :=
        { name := name.bytes.of bytes, number := number.toUInt32, type := type.toUInt32
          repeated := label = 3 }
      if result.type = 11 then
        match field.last 6 with
        | .ok typeName =>
          if typeName.wireType ≠ .lengthDelimited then
            fail "message FieldDescriptorProto is missing type_name"
          else
            .ok { result with typeName := normalizeProtoTypeName (typeName.bytes.of bytes) }
        | .error _ => fail "message FieldDescriptorProto is missing type_name"
      else .ok result
  | _, _, _, _ => fail "FieldDescriptorProto is missing a required field"

/-- An entry of a list of messages. -/
def entryBytes (message : Bytes) (entry : ProtoReader.Field) (error : String) :
    Except ScanError Bytes :=
  if entry.wireType ≠ .lengthDelimited then fail error else .ok (entry.bytes.of message)

/-- The fields of a message, sorted by number; neither a name nor a number stands twice. -/
def sortFields (fields : List ProtoSchemaField) : Except ScanError (List ProtoSchemaField) :=
  let fields := sortBy (fun lhs rhs => lhs.name < rhs.name) fields
  if equalNeighbours (·.name) fields then
    fail "DescriptorProto contains a duplicate field name or number"
  else
    let fields := sortBy (fun lhs rhs => lhs.number < rhs.number) fields
    if equalNeighbours (·.number) fields then
      fail "DescriptorProto contains a duplicate field name or number"
    else .ok fields

/-- The name of a message, and what it is called inside its parent. -/
def parseName (bytes parent : Bytes) (messages : List ProtoSchemaMessage) :
    Except ScanError Bytes :=
  match ({ message := bytes } : ProtoReader).last 1 with
  | .error _ => fail "DescriptorProto is missing its name"
  | .ok nameField =>
    if nameField.wireType ≠ .lengthDelimited ∨ nameField.bytes.size = 0 then
      fail "DescriptorProto is missing its name"
    else
      let name := nameField.bytes.of bytes
      let fullName := if parent = [] then name else parent ++ dot :: name
      if messages.any fun existing => existing.fullName = fullName then
        fail "FileDescriptorSet contains a duplicate message name"
      else .ok fullName

def parseFields (bytes : Bytes) : Except ScanError (List ProtoSchemaField) := do
  let entries ← ({ message := bytes } : ProtoReader).matching 2
  let fields ← entries.fields.mapM fun entry => do
    parseField (← entryBytes bytes entry "DescriptorProto field entry is not a message")
  sortFields fields

/-- A message and those inside it, with `levels` of nesting left. -/
def parseMessage : (levels : Nat) → (bytes parent : Bytes) → (topLevel : Bool) →
    List ProtoSchemaMessage → Except ScanError (List ProtoSchemaMessage)
  | 0, _, _, _, _ => fail "protobuf descriptor nesting depth exceeds 64"
  | levels + 1, bytes, parent, topLevel, messages => do
    let fullName ← parseName bytes parent messages
    let fields ← parseFields bytes
    let nested ← ({ message := bytes } : ProtoReader).matching 3
    nested.fields.foldlM
      (fun messages declaration => do
        let declared ← entryBytes bytes declaration "DescriptorProto nested_type is not a message"
        parseMessage levels declared fullName false messages)
      (messages ++ [{ fullName, fields, topLevel }])

def parsePackage (bytes : Bytes) : Except ScanError Bytes := do
  let packages ← ({ message := bytes } : ProtoReader).matching 2
  match packages.fields.getLast? with
  | none => .ok []
  | some field => entryBytes bytes field "FileDescriptorProto package is not a string"

def parseFile (messages : List ProtoSchemaMessage) (bytes : Bytes) :
    Except ScanError (List ProtoSchemaMessage) := do
  let package ← parsePackage bytes
  let declarations ← ({ message := bytes } : ProtoReader).matching 4
  declarations.fields.foldlM
    (fun messages declaration => do
      let declared ← entryBytes bytes declaration
        "FileDescriptorProto message_type is not a message"
      parseMessage ProtoReader.kMaxRecursionDepth declared package true messages)
    messages

def findMessage (messages : List ProtoSchemaMessage) (fullName : Bytes) : Except ScanError Nat :=
  match messages.findIdx? fun message => message.fullName = fullName with
  | none => fail "protobuf message type is absent from FileDescriptorSet"
  | some index => .ok index

/-- The message that paths begin in. -/
def findRoot (messages : List ProtoSchemaMessage) (rootType : Bytes) : Except ScanError Nat :=
  if rootType = [] then
    match messages.zipIdx.filter fun indexed => indexed.1.topLevel with
    | [(_, index)] => .ok index
    | _ =>
      fail "protobuf root type is required when FileDescriptorSet has multiple top-level messages"
  else findMessage messages (normalizeProtoTypeName rootType)

/-- A descriptor set that was accepted. -/
structure Schema where
  messages : List ProtoSchemaMessage
  rootIndex : Nat
  deriving DecidableEq

def parse (descriptorSet rootType : Bytes) : Except ScanError Schema := do
  if descriptorSet = [] then fail "FileDescriptorSet is empty"
  else
    let files ← ({ message := descriptorSet } : ProtoReader).matching 1
    if files.fields = [] then fail "FileDescriptorSet contains no files"
    else
      let messages ← files.fields.foldlM
        (fun messages file => do
          let bytes ← entryBytes descriptorSet file "FileDescriptorSet file entry is not a message"
          parseFile messages bytes) []
      let rootIndex ← findRoot messages rootType
      .ok { messages, rootIndex }

/-! ## Paths -/

/-- `messages_[index]`; an index is one that was found. -/
def messageAt (messages : List ProtoSchemaMessage) (index : Nat) : ProtoSchemaMessage :=
  messages.getD index { fullName := [] }

/-- The numbers of the components of a path behind those so far. -/
def compileNumbers (messages : List ProtoSchemaMessage) :
    List Bytes → (messageIndex : Nat) → (numbers : List UInt32) → Except ScanError (List UInt32)
  | [], _, _ => fail "protobuf field path is malformed"
  | component :: more, messageIndex, numbers =>
    -- the source's loop ends before a component behind the last dot
    if component = [] then
      fail (if more = [] then "protobuf field path is malformed"
        else "protobuf field path contains an empty component")
    else
      match (messageAt messages messageIndex).fields.find? fun field => field.name = component with
      | none => fail "protobuf field path is absent from FileDescriptorSet"
      | some selected =>
        let numbers := numbers ++ [selected.number]
        if more = [] then .ok numbers
        else if selected.type ≠ 11 ∨ selected.repeated then
          fail "protobuf field path may descend only through singular message fields"
        else do
          let nested ← findMessage messages selected.typeName
          if numbers.length ≥ ProtoReader.kMaxRecursionDepth then
            fail "protobuf field path depth exceeds 64"
          else compileNumbers messages more nested numbers

def compilePath (schema : Schema) (path : Bytes) : Except ScanError ProtoRequestedField :=
  if path = [] then fail "protobuf field path is empty"
  else do
    let numbers ← compileNumbers schema.messages (path.splitOn dot) schema.rootIndex []
    .ok { path, numbers }

def addPath (schema : Schema) (plan : ProtoTraversalPlan) (path : Bytes) :
    Except ScanError ProtoTraversalPlan := do
  let request ← compilePath schema path
  if plan.requested.any fun existing => existing.path = request.path then
    fail "duplicate protobuf field path requested"
  else .ok { requested := plan.requested ++ [request] }

def locate (schema : Schema) (paths : List Bytes) : Except ScanError ProtoTraversalPlan := do
  let plan ← paths.foldlM (addPath schema) {}
  if plan.requested = [] then fail "at least one protobuf field path is required" else .ok plan

end ProtoFieldLocator

end PlotJugglerSdk.ParserModule
