import PlotJugglerSdk.Host.ClaimRules
import PlotJugglerSdk.Json.Reading
import PlotJugglerSdk.Order.SortedMap

/-!
# Metadata of object topics

The builder collects the type of a topic and its custom texts in a sorted map, and writes them
as a JSON object with an escaping of its own. A call against a setter's contract leaves an error
that no later call takes away.

* `escaped_spells`        — what is escaped spells the text
* `run_lookup`            — the members are what the last calls set
* `metadata_round_trips`  — a built text is read as the members, one text for each set of them
-/

namespace PlotJugglerSdk

open Wire Json Lexing

/-! ## Escaping -/

namespace JsonEscaping

def kHex : Bytes := text "0123456789abcdef"

/-- What is appended for a byte of a string. -/
def escapedByte (c : UInt8) : Bytes :=
  if c = 0x22 then text "\\\""
  else if c = 0x5C then text "\\\\"
  else if c = 0x08 then text "\\b"
  else if c = 0x0C then text "\\f"
  else if c = 0x0A then text "\\n"
  else if c = 0x0D then text "\\r"
  else if c = 0x09 then text "\\t"
  else if c < 0x20 then
    text "\\u00" ++ [kHex.getD ((c >>> 4) &&& 0xF).toNat 0, kHex.getD (c &&& 0xF).toNat 0]
  else [c]

def appendJsonEscaped (out value : Bytes) : Bytes :=
  value.foldl (fun out c => out ++ escapedByte c) out

def appendJsonString (out value : Bytes) : Bytes :=
  appendJsonEscaped (out ++ text "\"") value ++ text "\""

/-! ### What escaping spells -/

def hexDigit (digit : Nat) : Char := Char.ofNat (kHex.getD digit 0).toNat

/-- What is appended for a character, as characters. -/
def escapedChar (c : Char) : List Char :=
  if c = '"' then ['\\', '"']
  else if c = '\\' then ['\\', '\\']
  else if c = '\x08' then ['\\', 'b']
  else if c = '\x0c' then ['\\', 'f']
  else if c = '\n' then ['\\', 'n']
  else if c = '\r' then ['\\', 'r']
  else if c = '\t' then ['\\', 't']
  else if c.toNat < 0x20 then
    ['\\', 'u', '0', '0', hexDigit (c.toNat / 16), hexDigit (c.toNat % 16)]
  else [c]

def escapedChars (chars : List Char) : List Char := chars.flatMap escapedChar

theorem escapedByte_self {c : UInt8} (hquote : c ≠ 0x22) (hbackslash : c ≠ 0x5C)
    (hcontrol : 0x20 ≤ c.toNat) :
    escapedByte c = [c] := by
  have hne (control : UInt8) (h : control.toNat < 0x20) : c ≠ control := by
    rintro rfl
    omega
  have hnot : ¬ c < 0x20 := fun hlt => Nat.not_lt.mpr hcontrol (UInt8.lt_iff_toNat_lt.mp hlt)
  rw [escapedByte, if_neg hquote, if_neg hbackslash, if_neg (hne 0x08 (by decide)),
    if_neg (hne 0x0C (by decide)), if_neg (hne 0x0A (by decide)), if_neg (hne 0x0D (by decide)),
    if_neg (hne 0x09 (by decide)), if_neg hnot]

theorem escapedChar_self {c : Char}
    (hquote : c ≠ '"') (hbackslash : c ≠ '\\') (hcontrol : 0x20 ≤ c.toNat) :
    escapedChar c = [c] := by
  have hne (control : Char) (h : control.toNat < 0x20) : c ≠ control := by
    rintro rfl
    omega
  rw [escapedChar, if_neg hquote, if_neg hbackslash, if_neg (hne _ (by decide)),
    if_neg (hne _ (by decide)),
    if_neg (hne _ (by decide)), if_neg (hne _ (by decide)), if_neg (hne _ (by decide)),
    if_neg (Nat.not_lt.mpr hcontrol)]

theorem escaped_controls : ∀ n < 0x20,
    (String.utf8EncodeChar (Char.ofNat n)).flatMap escapedByte =
      encode (escapedChar (Char.ofNat n)) := by
  decide

theorem flatMap_self {f : UInt8 → Bytes} {bytes : Bytes} (h : ∀ byte ∈ bytes, f byte = [byte]) :
    bytes.flatMap f = bytes := by
  induction bytes with
  | nil => rfl
  | cons byte bytes ih =>
    rw [List.flatMap_cons, h byte List.mem_cons_self,
      ih fun later hlater => h later (List.mem_cons_of_mem _ hlater)]
    rfl

theorem escaped_char (c : Char) :
    (String.utf8EncodeChar c).flatMap escapedByte = encode (escapedChar c) := by
  by_cases hcontrol : c.toNat < 0x20
  · rw [← Char.ofNat_toNat c]
    exact escaped_controls c.toNat hcontrol
  by_cases hquote : c = '"'
  · rw [hquote]
    decide
  by_cases hbackslash : c = '\\'
  · rw [hbackslash]
    decide
  have hnot (other : Char) (hne : c ≠ other) : c.toNat ≠ other.toNat :=
    fun heq => hne (Char.toNat_inj.mp heq)
  have hquote' := hnot '"' hquote
  have hbackslash' := hnot '\\' hbackslash
  have hself : ∀ byte ∈ String.utf8EncodeChar c, escapedByte byte = [byte] := by
    intro byte hmem
    -- a quote or a backslash is a character of one byte
    have hcases := mem_utf8EncodeChar hmem
    refine escapedByte_self ?_ ?_ (by omega)
    · rintro rfl
      rcases hcases with heq | hlarge
      · exact hquote' heq.symm
      · exact absurd hlarge (by decide)
    · rintro rfl
      rcases hcases with heq | hlarge
      · exact hbackslash' heq.symm
      · exact absurd hlarge (by decide)
  rw [flatMap_self hself, escapedChar_self hquote hbackslash (Nat.not_lt.mp hcontrol), encode,
    List.flatMap_singleton]

theorem escaped_encode (chars : List Char) :
    (encode chars).flatMap escapedByte = encode (escapedChars chars) := by
  induction chars with
  | nil => rfl
  | cons c chars ih =>
    rw [encode_cons, List.flatMap_append, escaped_char, ih]
    exact (encode_append _ _).symm

theorem hexValue_hexDigit :
    ∀ digit < 16, Reading.hexValue (hexDigit digit) = some digit := by decide

theorem codePoint_control {c : Char} (h : c.toNat < 0x20) (rest : List Char) :
    Reading.codePoint (['0', '0', hexDigit (c.toNat / 16), hexDigit (c.toNat % 16)] ++ rest) =
      some (c, [] ++ rest) := by
  have hzero : Reading.hexValue '0' = some 0 := rfl
  have hfour := Reading.hexFour_cons hzero hzero
    (hexValue_hexDigit (c.toNat / 16) (by omega)) (hexValue_hexDigit (c.toNat % 16) (by omega)) rest
  have hcode : ((0 * 16 + 0) * 16 + c.toNat / 16) * 16 + c.toNat % 16 = c.toNat := by omega
  rw [hcode] at hfour
  refine (Reading.codePoint_single hfour (by omega)).trans ?_
  rw [Char.ofNat_toNat]
  rfl

theorem escapedChar_spells (c : Char) : Reading.Spells (escapedChar c) [c] := by
  rw [escapedChar]
  -- the seven characters with a letter of their own, then the controls, then the rest
  split
  · next h =>
    rw [h]
    exact .letter rfl .nil
  split
  · next h =>
    rw [h]
    exact .letter rfl .nil
  split
  · next h =>
    rw [h]
    exact .letter rfl .nil
  split
  · next h =>
    rw [h]
    exact .letter rfl .nil
  split
  · next h =>
    rw [h]
    exact .letter rfl .nil
  split
  · next h =>
    rw [h]
    exact .letter rfl .nil
  split
  · next h =>
    rw [h]
    exact .letter rfl .nil
  split
  · next h => exact .code (codePoint_control h) .nil
  · next hquote hbackslash _ _ _ _ _ h => exact .plain hquote hbackslash (Nat.not_lt.mp h) .nil

/-- What is escaped spells the text. -/
theorem escaped_spells (chars : List Char) : Reading.Spells (escapedChars chars) chars := by
  induction chars with
  | nil => exact .nil
  | cons c chars ih => exact (escapedChar_spells c).append ih

end JsonEscaping

/-! ## The builder -/

open JsonEscaping

def kBuiltinObjectTypeMetadataKey : Bytes := text "builtin_object_type"

def kSnapshotMetadataKey : Bytes := text "pj_snapshot"

/-- Types are numbers: an enumeration of the language holds any. -/
structure ObjectTopicMetadataBuilder where
  builtinObjectType : Option UInt16 := none
  strings : List (Bytes × Bytes) := []
  error : Option Bytes := none

namespace ObjectTopicMetadataBuilder

/-- The name of a type; that of no type for a number that is none. -/
def typeName (type : UInt16) : Bytes := text ((BuiltinObjectType.ofCode type).getD .none).name

def setError (error : Bytes) (builder : ObjectTopicMetadataBuilder) : ObjectTopicMetadataBuilder :=
  if builder.error.isNone then { builder with error := some error } else builder

def setBuiltinObjectType (type : UInt16) (builder : ObjectTopicMetadataBuilder) :
    ObjectTopicMetadataBuilder :=
  if isKnownObjectType type then { builder with builtinObjectType := some type }
  else
    { builder with builtinObjectType := none }.setError
      (text "builtin object topic type must be a known, non-reserved value other than kNone")

/-- The order of `std::map` over strings. -/
def keyLess (a b : Bytes) : Bool := decide (a < b)

def string (key value : Bytes) (builder : ObjectTopicMetadataBuilder) :
    ObjectTopicMetadataBuilder :=
  if key = kBuiltinObjectTypeMetadataKey then
    { builder with builtinObjectType := none }.setError
      (text "metadata key \"builtin_object_type\" is reserved; use builtinObjectType()")
  else { builder with strings := SortedMap.insert keyLess key value builder.strings }

def snapshot (value : Bool) (builder : ObjectTopicMetadataBuilder) : ObjectTopicMetadataBuilder :=
  if value then
    { builder with
      strings := SortedMap.insert keyLess kSnapshotMetadataKey (text "true") builder.strings }
  else { builder with strings := SortedMap.erase kSnapshotMetadataKey builder.strings }

/-- One member, behind a comma if it is not the first. -/
def appendString (out : Bytes × Bool) (member : Bytes × Bytes) : Bytes × Bool :=
  let (out, first) := out
  let out := if !first then out ++ text "," else out
  (appendJsonString (appendJsonString out member.1 ++ text ":") member.2, false)

def build (builder : ObjectTopicMetadataBuilder) : Except Bytes Bytes :=
  match builder.error with
  | some error => .error error
  | none =>
    let out := (text "\x7b", true)
    let out :=
      match builder.builtinObjectType with
      | some type => appendString out (kBuiltinObjectTypeMetadataKey, typeName type)
      | none => out
    let out := builder.strings.foldl appendString out
    .ok (out.1 ++ text "\x7d")

/-! ## Calls -/

inductive Call where
  | builtinObjectType (type : UInt16)
  | string (key value : Bytes)
  | snapshot (value : Bool)

namespace Call

def apply (builder : ObjectTopicMetadataBuilder) : Call → ObjectTopicMetadataBuilder
  | builtinObjectType type => builder.setBuiltinObjectType type
  | string key value => builder.string key value
  | snapshot value => builder.snapshot value

/-- The call is against its setter's contract. -/
def Violates : Call → Prop
  | builtinObjectType type => isKnownObjectType type = false
  | string key _ => key = kBuiltinObjectTypeMetadataKey
  | snapshot _ => False

def Utf8 : Call → Prop
  | string key value => ValidUtf8 key ∧ ValidUtf8 value
  | _ => True

/-- What the call leaves under a key, if it is about the key. -/
def sets (wanted : Bytes) : Call → Option (Option Bytes)
  | builtinObjectType type =>
    if wanted = kBuiltinObjectTypeMetadataKey then some (some (typeName type)) else none
  | string key value => if wanted = key then some (some value) else none
  | snapshot value =>
    if wanted = kSnapshotMetadataKey then
      some (if value then some (text "true") else none) else none

end Call

def run (calls : List Call) : ObjectTopicMetadataBuilder := calls.foldl Call.apply {}

/-- What the last call about a key has left under it. -/
def lastSet (wanted : Bytes) (calls : List Call) : Option Bytes :=
  calls.foldl (fun value call => (call.sets wanted).getD value) none

/-- The members that a text is built of. -/
def members (builder : ObjectTopicMetadataBuilder) : List (Bytes × Bytes) :=
  (builder.builtinObjectType.map fun type =>
    (kBuiltinObjectTypeMetadataKey, typeName type)).toList ++
    builder.strings

/-! ### Errors -/

@[simp] theorem setError_error (error : Bytes) (builder : ObjectTopicMetadataBuilder) :
    (builder.setError error).error = some (builder.error.getD error) := by
  unfold setError
  cases herror : builder.error with
  | none => rfl
  | some first => exact herror

theorem Call.apply_error (call : Call) {builder : ObjectTopicMetadataBuilder} {error : Bytes}
    (h : builder.error = some error) : (call.apply builder).error = some error := by
  cases call with
  | builtinObjectType type =>
    show (builder.setBuiltinObjectType type).error = _
    unfold setBuiltinObjectType
    split
    · exact h
    · rw [setError_error, h]
      rfl
  | string key value =>
    show (builder.string key value).error = _
    unfold ObjectTopicMetadataBuilder.string
    split
    · rw [setError_error, h]
      rfl
    · exact h
  | snapshot value =>
    show (builder.snapshot value).error = _
    unfold ObjectTopicMetadataBuilder.snapshot
    split
    · exact h
    · exact h

theorem Call.Violates.error {call : Call} (h : call.Violates)
    (builder : ObjectTopicMetadataBuilder) :
    ∃ error, (call.apply builder).error = some error := by
  cases call with
  | builtinObjectType type =>
    have hunknown : isKnownObjectType type = false := h
    show ∃ error, (builder.setBuiltinObjectType type).error = some error
    rw [setBuiltinObjectType, hunknown, if_neg Bool.false_ne_true, setError_error]
    exact ⟨_, rfl⟩
  | string key value =>
    have hkey : key = kBuiltinObjectTypeMetadataKey := h
    show ∃ error, (builder.string key value).error = some error
    rw [ObjectTopicMetadataBuilder.string, if_pos hkey, setError_error]
    exact ⟨_, rfl⟩
  | snapshot value => exact h.elim

/-- An error stays, whatever is called. -/
theorem error_for_good {call : Call} (h : call.Violates) (before after : List Call) :
    ∃ error, (run (before ++ call :: after)).build = .error error := by
  obtain ⟨error, herror⟩ := h.error (run before)
  have hafter (builder : ObjectTopicMetadataBuilder) (hbuilder : builder.error = some error) :
      (after.foldl Call.apply builder).error = some error := by
    induction after generalizing builder with
    | nil => exact hbuilder
    | cons next after ih => exact ih _ (next.apply_error hbuilder)
  have hrun : (run (before ++ call :: after)).error = some error := by
    rw [run, List.foldl_append]
    exact hafter _ herror
  refine ⟨error, ?_⟩
  rw [build, hrun]

/-! ### Members -/

/-- What the calls so far amount to. -/
structure Holds (calls : List Call) (builder : ObjectTopicMetadataBuilder) : Prop where
  error : builder.error = none
  ascending : SortedMap.Ascending keyLess builder.strings
  type : builder.builtinObjectType.map typeName = lastSet kBuiltinObjectTypeMetadataKey calls
  strings : ∀ key, builder.strings.lookup key =
    if key = kBuiltinObjectTypeMetadataKey then none else lastSet key calls

theorem lastSet_append (wanted : Bytes) (calls : List Call) (call : Call) :
    lastSet wanted (calls ++ [call]) = (call.sets wanted).getD (lastSet wanted calls) := by
  rw [lastSet, List.foldl_append]
  rfl

theorem lastSet_other {wanted : Bytes} {calls : List Call} {call : Call}
    (h : call.sets wanted = none) :
    lastSet wanted (calls ++ [call]) = lastSet wanted calls := by
  rw [lastSet_append, h]
  rfl

theorem lastSet_this {wanted : Bytes} {calls : List Call} {call : Call} {value : Option Bytes}
    (h : call.sets wanted = some value) : lastSet wanted (calls ++ [call]) = value := by
  rw [lastSet_append, h]
  rfl

/-- A call on the custom texts leaves the type. -/
theorem Holds.strings_step {calls : List Call} {builder : ObjectTopicMetadataBuilder}
    (h : Holds calls builder) {call : Call} {key : Bytes} {value : Option Bytes}
    (hkey : key ≠ kBuiltinObjectTypeMetadataKey)
    (hsets : ∀ wanted, call.sets wanted = if wanted = key then some value else none)
    {strings : List (Bytes × Bytes)} (hascending : SortedMap.Ascending keyLess strings)
    (hstrings : ∀ wanted, strings.lookup wanted =
      if wanted = key then value else builder.strings.lookup wanted) :
    Holds (calls ++ [call]) { builder with strings } := by
  refine ⟨h.error, hascending, ?_, fun wanted => ?_⟩
  · rw [lastSet_other ((hsets _).trans (if_neg hkey.symm))]
    exact h.type
  · show strings.lookup wanted = _
    rw [hstrings, h.strings]
    by_cases hwanted : wanted = key
    · have hreserved : wanted ≠ kBuiltinObjectTypeMetadataKey := hwanted ▸ hkey
      rw [if_pos hwanted, if_neg hreserved, lastSet_this ((hsets _).trans (if_pos hwanted))]
    · rw [if_neg hwanted, lastSet_other ((hsets _).trans (if_neg hwanted))]

theorem Holds.step {calls : List Call} {builder : ObjectTopicMetadataBuilder}
    (h : Holds calls builder)
    {call : Call} (hcall : ¬ call.Violates) : Holds (calls ++ [call]) (call.apply builder) := by
  cases call with
  | builtinObjectType type =>
    have hknown : isKnownObjectType type = true := Bool.not_eq_false _ ▸ hcall
    have hsets (wanted : Bytes) : (Call.builtinObjectType type).sets wanted =
        if wanted = kBuiltinObjectTypeMetadataKey then some (some (typeName type)) else none := rfl
    show Holds _ (builder.setBuiltinObjectType type)
    rw [setBuiltinObjectType, if_pos hknown]
    refine ⟨h.error, h.ascending, ?_, fun wanted => ?_⟩
    · rw [lastSet_this ((hsets _).trans (if_pos rfl))]
      rfl
    · rw [h.strings]
      split
      · rfl
      · next hwanted => rw [lastSet_other ((hsets _).trans (if_neg hwanted))]
  | string key value =>
    have hkey : key ≠ kBuiltinObjectTypeMetadataKey := hcall
    show Holds _ (builder.string key value)
    rw [ObjectTopicMetadataBuilder.string, if_neg hkey]
    exact h.strings_step hkey (fun _ => rfl)
      (SortedMap.ascending_insert Ranking.decisive_bytes h.ascending) fun _ =>
        SortedMap.lookup_insert _
  | snapshot value =>
    have hkey : kSnapshotMetadataKey ≠ kBuiltinObjectTypeMetadataKey := by decide
    show Holds _ (builder.snapshot value)
    rw [snapshot]
    cases value with
    -- a snapshot is written or erased, but never in the place of the type
    | true =>
      exact h.strings_step hkey (fun _ => rfl)
        (SortedMap.ascending_insert Ranking.decisive_bytes h.ascending) fun _ =>
          SortedMap.lookup_insert _
    | false =>
      exact h.strings_step hkey (fun _ => rfl) (h.ascending.filter _) fun _ =>
        SortedMap.lookup_erase _

theorem run_holds (calls : List Call) (h : ∀ call ∈ calls, ¬ call.Violates) :
    Holds calls (run calls) := by
  induction calls using List.reverseRecOn with
  | nil =>
    refine ⟨rfl, .nil, rfl, fun key => ?_⟩
    split
    · rfl
    · rfl
  | append_singleton calls call ih =>
    have hrun : run (calls ++ [call]) = call.apply (run calls) := by
      rw [run, List.foldl_append]
      rfl
    rw [hrun]
    exact (ih fun earlier hearlier => h earlier (List.mem_append_left _ hearlier)).step
      (h call (List.mem_append_right _ (List.mem_singleton_self call)))

/-- The members are what the last calls set. -/
theorem run_lookup {calls : List Call} {builder : ObjectTopicMetadataBuilder}
    (h : Holds calls builder)
    (key : Bytes) : builder.members.lookup key = lastSet key calls := by
  have hstrings := h.strings key
  unfold members
  by_cases hkey : key = kBuiltinObjectTypeMetadataKey
  · rw [if_pos hkey] at hstrings
    rw [hkey, ← h.type]
    cases builder.builtinObjectType with
    | none => exact hkey ▸ hstrings
    | some type => exact List.lookup_cons_self
  · rw [if_neg hkey] at hstrings
    rw [← hstrings]
    cases builder.builtinObjectType with
    | none => rfl
    | some type =>
      show List.lookup key ((kBuiltinObjectTypeMetadataKey, typeName type) :: builder.strings) = _
      rw [SortedMap.lookup_cons, if_neg hkey]

theorem mem_members_iff {calls : List Call} {builder : ObjectTopicMetadataBuilder}
    (h : Holds calls builder)
    {key value : Bytes} : (key, value) ∈ builder.members ↔ lastSet key calls = some value := by
  rw [← run_lookup h]
  refine ⟨fun hmem => ?_, SortedMap.mem_of_lookup⟩
  rw [run_lookup h]
  rcases List.mem_append.mp hmem with hfirst | hstring
  · obtain ⟨type, htype, heq⟩ := Option.map_eq_some_iff.mp (Option.mem_toList.mp hfirst)
    obtain ⟨rfl, rfl⟩ := Prod.mk.inj heq
    rw [← h.type, htype]
    rfl
  · have hlookup := (h.ascending.lookup_iff Ranking.decisive_bytes).mpr hstring
    rw [h.strings] at hlookup
    split at hlookup
    · cases hlookup
    · exact hlookup

theorem members_nodup {calls : List Call} {builder : ObjectTopicMetadataBuilder}
    (h : Holds calls builder) :
    (builder.members.map Prod.fst).Nodup := by
  have hstrings : (builder.strings.map Prod.fst).Nodup := by
    refine List.pairwise_map.mpr (h.ascending.imp fun {a b} hbefore heq => ?_)
    rw [heq] at hbefore
    exact List.lt_irrefl _ (of_decide_eq_true hbefore)
  -- the reserved key is none of them
  have hreserved : kBuiltinObjectTypeMetadataKey ∉ builder.strings.map Prod.fst := by
    intro hmem
    obtain ⟨⟨key, value⟩, hentry, rfl⟩ := List.mem_map.mp hmem
    have hlookup := (h.ascending.lookup_iff Ranking.decisive_bytes).mpr hentry
    rw [h.strings, if_pos rfl] at hlookup
    cases hlookup
  unfold members
  cases builder.builtinObjectType with
  | none => exact hstrings
  | some type => exact List.nodup_cons.mpr ⟨hreserved, hstrings⟩

theorem members_ext {calls calls' : List Call} {builder builder' : ObjectTopicMetadataBuilder}
    (h : Holds calls builder) (h' : Holds calls' builder')
    (hsame : ∀ key, lastSet key calls = lastSet key calls') :
    builder.members = builder'.members := by
  have hstrings : builder.strings = builder'.strings := by
    refine h.ascending.ext Ranking.decisive_bytes h'.ascending fun entry => ?_
    rw [← h.ascending.lookup_iff Ranking.decisive_bytes,
      ← h'.ascending.lookup_iff Ranking.decisive_bytes,
      h.strings, h'.strings, hsame]
  have htype : builder.builtinObjectType.map typeName =
      builder'.builtinObjectType.map typeName := by
    rw [h.type, h'.type, hsame]
  have hmap (type : Option UInt16) :
      (type.map fun type => (kBuiltinObjectTypeMetadataKey, typeName type)) =
        (type.map typeName).map fun name => (kBuiltinObjectTypeMetadataKey, name) := by
    rw [Option.map_map]
    rfl
  unfold members
  rw [hstrings, hmap, hmap, htype]

/-! ### The text -/

theorem appendJsonString_eq (out value : Bytes) :
    appendJsonString out value = out ++ (text "\"" ++ value.flatMap escapedByte ++ text "\"") := by
  have hescaped (out : Bytes) : appendJsonEscaped out value = out ++ value.flatMap escapedByte := by
    induction value generalizing out with
    | nil => exact (List.append_nil out).symm
    | cons c value ih =>
      show appendJsonEscaped (out ++ escapedByte c) value = _
      rw [ih, List.append_assoc]
      rfl
  rw [appendJsonString, hescaped]
  simp only [List.append_assoc]

/-- The texts of a member as characters, escaped. -/
def spelledMember (member : Bytes × Bytes) : List Char × List Char :=
  (escapedChars (decode member.1), escapedChars (decode member.2))

def Utf8Member (member : Bytes × Bytes) : Prop := ValidUtf8 member.1 ∧ ValidUtf8 member.2

theorem encode_quote : encode ['"'] = text "\"" := by decide

theorem encode_colon : encode [':'] = text ":" := by decide

theorem encode_comma : encode [','] = text "," := by decide

theorem encode_open : encode ['\x7b'] = text "\x7b" := by decide

theorem encode_close : encode ['\x7d'] = text "\x7d" := by decide

theorem encode_memberText (member : List Char × List Char) :
    encode (Reading.memberText member) =
      (text "\"" ++ encode member.1 ++ text "\"") ++ text ":" ++
        (text "\"" ++ encode member.2 ++ text "\"") := by
  have hpieces : Reading.memberText member =
      (['"'] ++ member.1 ++ ['"']) ++ [':'] ++ (['"'] ++ member.2 ++ ['"']) := by
    simp [Reading.memberText]
  rw [hpieces]
  simp only [encode_append, encode_quote, encode_colon]

theorem appendString_eq {member : Bytes × Bytes} (h : Utf8Member member) (out : Bytes)
    (first : Bool) :
    appendString (out, first) member =
      ((if !first then out ++ text "," else out) ++ encode (Reading.memberText (spelledMember member)),
        false) := by
  obtain ⟨hkey, hvalue⟩ := h
  have hescaped {bytes : Bytes} (h : ValidUtf8 bytes) :
      bytes.flatMap escapedByte = encode (escapedChars (decode bytes)) := by
    rw [← escaped_encode, encode_decode h]
  unfold appendString
  dsimp only
  rw [appendJsonString_eq, appendJsonString_eq, encode_memberText, hescaped hkey, hescaped hvalue]
  simp only [List.append_assoc]
  rfl

theorem foldl_appendString {members : List (Bytes × Bytes)}
    (h : ∀ member ∈ members, Utf8Member member)
    (out : Bytes) :
    (members.foldl appendString (out, false)).1 ++ text "\x7d" =
      out ++ encode (Reading.restText (members.map spelledMember)) := by
  induction members generalizing out with
  | nil => exact congrArg (out ++ ·) encode_close.symm
  | cons member members ih =>
    rw [List.foldl_cons, appendString_eq (h member List.mem_cons_self),
      ih (fun later hlater => h later (List.mem_cons_of_mem _ hlater)), List.map_cons, if_pos
        (by decide)]
    have htext : Reading.restText (spelledMember member :: members.map spelledMember) =
        [','] ++ (Reading.memberText (spelledMember member) ++
          Reading.restText (members.map spelledMember)) := rfl
    rw [htext, encode_append, encode_append, encode_comma]
    simp only [List.append_assoc]

theorem build_eq {builder : ObjectTopicMetadataBuilder} (h : builder.error = none) :
    builder.build =
      .ok ((builder.members.foldl appendString (text "\x7b", true)).1 ++ text "\x7d") := by
  unfold build members
  rw [h]
  cases builder.builtinObjectType with
  | none => rfl
  | some type => rfl

theorem build_objectText {builder : ObjectTopicMetadataBuilder} (h : builder.error = none)
    (hutf8 : ∀ member ∈ builder.members, Utf8Member member) :
    builder.build = .ok (encode (Reading.objectText (builder.members.map spelledMember))) := by
  rw [build_eq h]
  congr 1
  cases hmembers : builder.members with
  | nil => decide
  | cons member members =>
    rw [hmembers] at hutf8
    have htext : Reading.objectText ((member :: members).map spelledMember) =
        ['\x7b'] ++ (Reading.memberText (spelledMember member) ++
          Reading.restText (members.map spelledMember)) := rfl
    rw [List.foldl_cons, appendString_eq (hutf8 member List.mem_cons_self),
      foldl_appendString fun later hlater => hutf8 later (List.mem_cons_of_mem _ hlater), htext,
      encode_append, encode_append, encode_open, List.append_assoc, if_neg (by decide)]

/-! ### The round trip -/

theorem validUtf8_typeName (type : UInt16) : ValidUtf8 (typeName type) := validUtf8_text _

theorem Call.Utf8.sets {call : Call} (h : call.Utf8) {key value : Bytes}
    (hsets : call.sets key = some (some value)) : Utf8Member (key, value) := by
  cases call with
  | builtinObjectType type =>
    rw [Call.sets, Option.ite_none_right_eq_some] at hsets
    obtain ⟨rfl, hvalue⟩ := hsets
    obtain rfl := Option.some.inj (Option.some.inj hvalue)
    exact ⟨validUtf8_text _, validUtf8_typeName type⟩
  | string other text =>
    rw [Call.sets, Option.ite_none_right_eq_some] at hsets
    obtain ⟨rfl, hvalue⟩ := hsets
    obtain rfl := Option.some.inj (Option.some.inj hvalue)
    exact h
  | snapshot flag =>
    rw [Call.sets, Option.ite_none_right_eq_some] at hsets
    obtain ⟨rfl, hvalue⟩ := hsets
    obtain ⟨-, hvalue⟩ := Option.ite_none_right_eq_some.mp (Option.some.inj hvalue)
    obtain rfl := Option.some.inj hvalue
    exact ⟨validUtf8_text _, validUtf8_text _⟩

theorem lastSet_utf8 {calls : List Call} (h : ∀ call ∈ calls, call.Utf8) {key value : Bytes}
    (hset : lastSet key calls = some value) : Utf8Member (key, value) := by
  induction calls using List.reverseRecOn with
  | nil => cases hset
  | append_singleton calls call ih =>
    have hcall := h call (List.mem_append_right _ (List.mem_singleton_self call))
    rw [lastSet_append] at hset
    cases hsets : call.sets key with
    | none =>
      rw [hsets] at hset
      exact ih (fun earlier hearlier => h earlier (List.mem_append_left _ hearlier)) hset
    | some left =>
      rw [hsets] at hset
      obtain rfl : left = some value := hset
      exact hcall.sets hsets

/-- A text that is built without a violation is read as the members that the last calls set; the
same members build the same text; and after a violation there is no text. -/
theorem metadata_round_trips (number : List Char → Option (Value × List Char)) :
    (∀ calls, (∀ call ∈ calls, Call.Utf8 call) → (∀ call ∈ calls, ¬ Call.Violates call) →
      ∃ built members, (run calls).build = .ok built ∧
        Reading.parse number built = some (.object members) ∧ (members.map Prod.fst).Nodup ∧
          ∀ key value, (key, value) ∈ members ↔
            ∃ bytes, value = .string bytes ∧ lastSet key calls = some bytes) ∧
    (∀ calls calls', (∀ call ∈ calls, ¬ Call.Violates call) → (∀ call ∈ calls', ¬ Call.Violates call) →
      (∀ key, lastSet key calls = lastSet key calls') → (run calls).build = (run calls').build) ∧
    ∀ before call after, Call.Violates call →
      ∃ error, (run (before ++ call :: after)).build = .error error := by
  refine ⟨?_, ?_, fun before call after h => error_for_good h before after⟩
  · intro calls hutf8 hcalls
    have hholds := run_holds calls hcalls
    have hmembers : ∀ member ∈ (run calls).members, Utf8Member member :=
      fun member hmem => lastSet_utf8 hutf8 ((mem_members_iff hholds).mp hmem)
    have hspells : List.Forall₂ Reading.SpellsMember ((run calls).members.map spelledMember)
        ((run calls).members.map fun member => (decode member.1, decode member.2)) := by
      rw [List.forall₂_map_left_iff, List.forall₂_map_right_iff, List.forall₂_same]
      exact fun member _ => ⟨escaped_spells _, escaped_spells _⟩
    -- what was decoded for the printer is what its encoding gives back
    have hread : Reading.textMembers ((run calls).members.map fun member =>
        (decode member.1, decode member.2)) =
          (run calls).members.map fun member => (member.1, Value.string member.2) := by
      rw [Reading.textMembers, List.map_map]
      refine List.map_congr_left fun member hmem => ?_
      obtain ⟨hkey, hvalue⟩ := hmembers member hmem
      show (encode (decode member.1), Value.string (encode (decode member.2))) = _
      rw [encode_decode hkey, encode_decode hvalue]
    refine ⟨_, _, build_objectText hholds.error hmembers,
      (Reading.parse_objectText hspells).trans
        (congrArg (fun members => some (Value.object members)) hread), ?_, ?_⟩
    · rw [List.map_map]
      exact members_nodup hholds
    · intro key value
      rw [List.mem_map]
      constructor
      · rintro ⟨member, hmem, heq⟩
        obtain ⟨rfl, rfl⟩ := Prod.mk.inj heq
        exact ⟨member.2, rfl, (mem_members_iff hholds).mp hmem⟩
      · rintro ⟨bytes, rfl, hset⟩
        exact ⟨(key, bytes), (mem_members_iff hholds).mpr hset, rfl⟩
  · intro calls calls' hcalls hcalls' hsame
    have hholds := run_holds calls hcalls
    have hholds' := run_holds calls' hcalls'
    rw [build_eq hholds.error, build_eq hholds'.error, members_ext hholds hholds' hsame]

/-! A topic whose type is set behind its texts, and one after a reserved type. -/

def imageTopic : List Call :=
  [.string (text "z\"") (text "a\n\\"), .snapshot true, .builtinObjectType 1, .snapshot false]

theorem metadata_round_trips_image :
    (∃ built members, (run imageTopic).build = .ok built ∧
      Reading.parse (fun _ => none) built = some (.object members) ∧
        (kBuiltinObjectTypeMetadataKey, .string (text "kImage")) ∈ members ∧
          (text "z\"", .string (text "a\n\\")) ∈ members ∧
            ∀ value, (kSnapshotMetadataKey, value) ∉ members) ∧
    ∃ error, (run ([.builtinObjectType 12] ++ imageTopic)).build = .error error := by
  obtain ⟨hreads, -, herrors⟩ := metadata_round_trips fun _ => none
  have hutf8 : ∀ call ∈ imageTopic, Call.Utf8 call := by
    intro call hmem
    simp only [imageTopic, List.mem_cons, List.not_mem_nil, or_false] at hmem
    rcases hmem with rfl | rfl | rfl | rfl
    · exact ⟨validUtf8_text _, validUtf8_text _⟩
    all_goals trivial
  have hcalls : ∀ call ∈ imageTopic, ¬ Call.Violates call := by
    intro call hmem
    simp only [imageTopic, List.mem_cons, List.not_mem_nil, or_false] at hmem
    rcases hmem with rfl | rfl | rfl | rfl
    · show ¬ text "z\"" = kBuiltinObjectTypeMetadataKey
      decide
    · exact not_false
    · show ¬ isKnownObjectType 1 = false
      decide
    · exact not_false
  obtain ⟨built, members, hbuilt, hparse, -, hmembers⟩ := hreads imageTopic hutf8 hcalls
  refine ⟨⟨built, members, hbuilt, hparse, ?_, ?_, ?_⟩, ?_⟩
  · exact (hmembers _ _).mpr ⟨_, rfl, by decide⟩
  · exact (hmembers _ _).mpr ⟨_, rfl, by decide⟩
  · intro value hmem
    obtain ⟨bytes, -, hset⟩ := (hmembers _ _).mp hmem
    cases hset
  · exact herrors [] (.builtinObjectType 12) imageTopic
      (by show isKnownObjectType 12 = false; decide)

end ObjectTopicMetadataBuilder

end PlotJugglerSdk
