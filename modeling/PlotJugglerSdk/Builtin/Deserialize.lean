import PlotJugglerSdk.Builtin.FieldLoops

/-!
# Deserializing a whole buffer

The two frames around a top-level message: `deserializeWith` runs a field loop
and has one error for all that can go wrong in it; `deserializeBatch` is the
hand-written loop of the batch types, with an error for each thing that can.
`deserializeWith_ok` and `deserializeBatch_ok` say that either accepts a buffer
exactly if the message's field loop does, with the same object.
-/

namespace PlotJugglerSdk

open Wire

variable {α : Type}

/-! ## One error -/

def deserializeWith (name : String) (loop : FieldLoop α) (start : α) (data : Bytes) :
    Except String α :=
  if data = [] then .error (name ++ " wire: empty buffer")
  else
    match loop.decode data start with
    | (true, value) => .ok value
    | (false, _) => .error (name ++ " wire: decode failed")

theorem deserializeWith_ok {name : String} {loop : FieldLoop α} {start value : α} {data : Bytes} :
    deserializeWith name loop start data = .ok value ↔
      data ≠ [] ∧ loop.decode data start = (true, value) := by
  rw [deserializeWith]
  by_cases hempty : data = []
  · simp [hempty]
  · rcases hdecode : loop.decode data start with ⟨ok, out⟩
    cases ok <;> simp [hempty]

/-! ## Batches -/

/-- The loop of a batch type. Every length-delimited field is split off the
buffer, declared or not; `badLength` and `refused` say which error a field
number gets when its length runs past the end or its content is refused. -/
def batchFieldsWithin (name : String) (badLength refused : Nat → String)
    (table : List (FieldDecl α)) : Nat → Bytes → α → Except String α
  | _, [], out => .ok out
  | 0, _ :: _, _ => .error (name ++ " wire: bad tag")
  | fuel + 1, b :: tail, out =>
    match Reader.readTag (b :: tail) with
    | none => .error (name ++ " wire: bad tag")
    | some (tag, reader) =>
      if tag.type ≠ .lengthDelimited then
        match Reader.skip tag.type reader with
        | none => .error (name ++ " wire: skip failed")
        | some reader => batchFieldsWithin name badLength refused table fuel reader out
      else
        match Reader.readBytes reader with
        | (none, _) => .error (name ++ " wire: " ++ badLength tag.number)
        | (some content, reader) =>
          match lookup table tag.number with
          -- a length-delimited field of another number
          | none => batchFieldsWithin name badLength refused table fuel reader out
          | some decl =>
            match decl.apply (.bytes content) out with
            | (true, out) => batchFieldsWithin name badLength refused table fuel reader out
            | (false, _) => .error (name ++ " wire: " ++ refused tag.number)

def batchFields (name : String) (badLength refused : Nat → String) (table : List (FieldDecl α))
    (start : α) (data : Bytes) : Except String α :=
  batchFieldsWithin name badLength refused table data.length data start

def deserializeBatch (name : String) (badLength refused : Nat → String)
    (table : List (FieldDecl α)) (start : α) (data : Bytes) : Except String α :=
  if data = [] then .error (name ++ " wire: empty buffer")
  else batchFields name badLength refused table start data

theorem readBytes_eq (reader : Bytes) :
    (∃ content rest, Reader.readBytes reader = (some content, rest) ∧
      takePayload .lengthDelimited reader = some (.bytes content, rest)) ∨
    ∃ rest, Reader.readBytes reader = (none, rest) ∧
      takePayload .lengthDelimited reader = none := by
  cases htake : takePayload .lengthDelimited reader with
  | none =>
    have hnone := Reader.readPayload_none htake
    simp only [Reader.readPayload] at hnone
    rcases hread : Reader.readBytes reader with ⟨content, rest⟩
    rw [hread] at hnone
    cases content with
    | none => exact .inr ⟨rest, rfl, rfl⟩
    | some content => simp at hnone
  | some taken =>
    obtain ⟨payload, rest⟩ := taken
    have hsome := Reader.readPayload_some htake
    simp only [Reader.readPayload] at hsome
    rcases hread : Reader.readBytes reader with ⟨content, rest'⟩
    rw [hread] at hsome
    cases content with
    | none => simp at hsome
    | some content =>
      simp only [Prod.mk.injEq, Option.some.injEq] at hsome
      obtain ⟨rfl, rfl⟩ := hsome
      exact .inl ⟨content, rest', rfl, rfl⟩

/-- Where a batch type declares length-delimited fields only, its loop accepts
what the strict loop accepts. -/
theorem batchFieldsWithin_ok {name : String} {badLength refused : Nat → String}
    {table : List (FieldDecl α)} (htypes : ∀ decl ∈ table, decl.type = .lengthDelimited)
    {fuel : Nat} {bytes : Bytes} {out final : α} :
    batchFieldsWithin name badLength refused table fuel bytes out = .ok final ↔
      strictFieldsWithin table fuel bytes out = (true, final) := by
  induction fuel generalizing bytes out with
  | zero => cases bytes <;> simp [batchFieldsWithin, strictFieldsWithin]
  | succ fuel ih =>
    cases bytes with
    | nil => simp [batchFieldsWithin, strictFieldsWithin]
    | cons b tail =>
      rw [batchFieldsWithin, strictFieldsWithin]
      cases htag : Reader.readTag (b :: tail) with
      | none => simp
      | some read =>
        obtain ⟨tag, reader⟩ := read
        simp only
        -- every declared field is length delimited, so any other type is undeclared
        by_cases htype : tag.type = .lengthDelimited
        · rw [if_neg (by simpa using htype), htype, Reader.skip_eq]
          obtain ⟨content, rest, hread, htake⟩ | ⟨rest, hread, htake⟩ := readBytes_eq reader
          · simp only [hread, htake, Option.map_some]
            cases hlookup : lookup table tag.number with
            | none =>
              rw [declared_eq_none_of_lookup hlookup]
              exact ih
            | some decl =>
              have hdecl : decl.type = .lengthDelimited := htypes decl (lookup_mem hlookup).1
              have hdeclared : declared table tag = some decl :=
                declared_eq_some.mpr ⟨hlookup, htype.trans hdecl.symm⟩
              simp only [hdeclared, readDeclared_some out (hdecl ▸ htake)]
              rcases decl.apply (.bytes content) out with ⟨ok, out'⟩
              cases ok with
              | true => exact ih
              | false => simp
          · simp only [hread, htake, Option.map_none, reduceCtorEq, false_iff]
            cases hdeclared : declared table tag with
            | none => simp
            | some decl =>
              have hdecl := (declared_eq_some.mp hdeclared).2
              have hfalse : (readDeclared decl reader out).1 = false :=
                readDeclared_none out (hdecl ▸ htype.symm ▸ htake)
              rcases hrun : readDeclared decl reader out with ⟨ok, out', rest'⟩
              rw [hrun] at hfalse
              obtain rfl : ok = false := hfalse
              simp [hrun]
        · have hdeclared : declared table tag = none :=
            declared_eq_none fun decl hmem _ => by rw [htypes decl hmem]; exact htype
          rw [if_pos (by simpa using htype), hdeclared]
          cases hskip : Reader.skip tag.type reader with
          | none => simp
          | some rest => exact ih

theorem deserializeBatch_ok {name : String} {badLength refused : Nat → String}
    {table : List (FieldDecl α)} (htypes : ∀ decl ∈ table, decl.type = .lengthDelimited)
    {start value : α} {data : Bytes} :
    deserializeBatch name badLength refused table start data = .ok value ↔
      data ≠ [] ∧ (FieldLoop.strict table).decode data start = (true, value) := by
  rw [deserializeBatch]
  by_cases hempty : data = []
  · simp [hempty]
  · simp only [hempty, if_false, ne_eq, not_false_eq_true, true_and]
    exact batchFieldsWithin_ok htypes

end PlotJugglerSdk
