import PlotJugglerSdk.Builtin.ProtobufWire

/-!
# The field loops

Every builtin decoder is one of two loops around a per-message handler.

* `parseFields`: the handler answers `true` when it took the field. On `false`
  the loop skips a payload of the tag's wire type **from wherever the handler
  left the reader** — the handler gives the same answer for "not mine" and for
  "mine, but the payload is bad".
* `strictFields`: the hand-written loops, which fail at once on a bad payload.

`Run` is one accepting run of `parseFields`; its flag says whether some
field was *read again* in the sense above. `FieldLoop` puts the two loops and
the two handlers that read an undeclared varint before turning it down under
one interface: apart from runs with a field read again, a loop accepts exactly
the byte strings that split into fields whose declared ones are all accepted,
and then computes the meaning of the field list (`FieldLoop.decode_iff`).
-/

namespace PlotJugglerSdk

open Wire

variable {α β : Type}

/-! ## Handlers -/

/-- A handler of `parseFields`: the tag, the reader behind it and the object so
far give the answer, the object and the reader. -/
structure Handler (α : Type) where
  run : Tag → Bytes → α → Bool × α × Bytes
  steady : ∀ tag reader out out', (run tag reader out).1 = (run tag reader out').1 ∧
    (run tag reader out).2.2 = (run tag reader out').2.2
  shrinks : ∀ tag reader out, (run tag reader out).2.2.length ≤ reader.length

/-- Reads the payload of a declared field and applies it. -/
def readDeclared (decl : FieldDecl α) (reader : Bytes) (out : α) : Bool × α × Bytes :=
  match Reader.readPayload decl.type reader with
  | (none, reader) => (false, out, reader)
  | (some payload, reader) =>
    let (ok, out) := decl.apply payload out
    (ok, out, reader)

theorem readDeclared_steady (decl : FieldDecl α) (reader : Bytes) (out out' : α) :
    (readDeclared decl reader out).1 = (readDeclared decl reader out').1 ∧
      (readDeclared decl reader out).2.2 = (readDeclared decl reader out').2.2 := by
  rw [readDeclared, readDeclared]
  rcases Reader.readPayload decl.type reader with ⟨payload, rest⟩
  cases payload with
  | none => exact ⟨rfl, rfl⟩
  | some payload => exact ⟨decl.steady payload out out', rfl⟩

theorem readDeclared_shrinks (decl : FieldDecl α) (reader : Bytes) (out : α) :
    (readDeclared decl reader out).2.2.length ≤ reader.length := by
  have hlen := Reader.readPayload_length decl.type reader
  rw [readDeclared]
  rcases hread : Reader.readPayload decl.type reader with ⟨payload, rest⟩
  rw [hread] at hlen
  cases payload <;> exact hlen

theorem readDeclared_some {decl : FieldDecl α} {reader rest : Bytes} {payload : Payload} (out : α)
    (h : takePayload decl.type reader = some (payload, rest)) :
    readDeclared decl reader out =
      ((decl.apply payload out).1, (decl.apply payload out).2, rest) := by
  rw [readDeclared, Reader.readPayload_some h]

theorem readDeclared_none {decl : FieldDecl α} {reader : Bytes} (out : α)
    (h : takePayload decl.type reader = none) : (readDeclared decl reader out).1 = false := by
  have hnone := Reader.readPayload_none h
  rw [readDeclared]
  rcases hread : Reader.readPayload decl.type reader with ⟨payload, rest⟩
  rw [hread] at hnone
  obtain rfl : payload = none := hnone
  rfl

/-- A `switch` over the field number that checks the wire type before it reads. -/
def tableHandler (table : List (FieldDecl α)) : Handler α where
  run tag reader out :=
    match declared table tag with
    | some decl => readDeclared decl reader out
    | none => (false, out, reader)
  steady tag reader out out' := by
    cases declared table tag with
    | none => exact ⟨rfl, rfl⟩
    | some decl => exact readDeclared_steady decl reader out out'
  shrinks tag reader out := by
    cases declared table tag with
    | none => exact le_rfl
    | some decl => exact readDeclared_shrinks decl reader out

/-! ## `parseFields` -/

/-- A round takes a byte at least, so as many rounds as there are bytes are
enough (`parseFieldsWithin_eq`). -/
def parseFieldsWithin (handler : Handler α) : Nat → Bytes → α → Bool × α
  | _, [], out => (true, out)
  | 0, _ :: _, out => (false, out)
  | fuel + 1, b :: tail, out =>
    match Reader.readTag (b :: tail) with
    | none => (false, out)
    | some (tag, reader) =>
      match handler.run tag reader out with
      | (true, out, reader) => parseFieldsWithin handler fuel reader out
      | (false, out, reader) =>
        match Reader.skip tag.type reader with
        | some reader => parseFieldsWithin handler fuel reader out
        | none => (false, out)

theorem parseFieldsWithin_steady (handler : Handler α) (fuel : Nat) (bytes : Bytes) (out out' : α) :
    (parseFieldsWithin handler fuel bytes out).1 =
    (parseFieldsWithin handler fuel bytes out').1 := by
  induction fuel generalizing bytes out out' with
  | zero => cases bytes <;> rfl
  | succ fuel ih =>
    cases bytes with
    | nil => rfl
    | cons b tail =>
      rw [parseFieldsWithin, parseFieldsWithin]
      cases Reader.readTag (b :: tail) with
      | none => rfl
      | some read =>
        obtain ⟨tag, reader⟩ := read
        have hsteady := handler.steady tag reader out out'
        simp only
        rcases hout : handler.run tag reader out with ⟨ok, value, rest⟩
        rcases hout' : handler.run tag reader out' with ⟨ok', value', rest'⟩
        rw [hout, hout'] at hsteady
        obtain ⟨rfl, rfl⟩ := hsteady
        cases ok with
        | true => exact ih rest value value'
        | false =>
          cases hskip : Reader.skip tag.type rest with
          | none => simp [hskip]
          | some rest'' => simpa [hskip] using ih rest'' value value'

def parseFields (handler : Handler α) : Decoder α where
  run bytes out := parseFieldsWithin handler bytes.length bytes out
  steady bytes := parseFieldsWithin_steady handler bytes.length bytes

theorem skip_length {type : WireType} {bytes rest : Bytes}
    (h : Reader.skip type bytes = some rest) : rest.length < bytes.length := by
  rw [Reader.skip_eq, Option.map_eq_some_iff] at h
  obtain ⟨⟨payload, rest'⟩, htake, rfl⟩ := h
  exact takePayload_length htake

theorem readTag_length {bytes rest : Bytes} {tag : Tag}
    (h : Reader.readTag bytes = some (tag, rest)) : rest.length < bytes.length := by
  rw [Reader.readTag_eq, Option.bind_eq_some_iff] at h
  obtain ⟨⟨raw, middle⟩, htake, htag⟩ := h
  simp only [Option.map_eq_some_iff, Prod.mk.injEq] at htag
  obtain ⟨_, _, rfl, rfl⟩ := htag
  obtain ⟨front, rfl, hne, -⟩ := takeVarint_local htake
  have hpos : 0 < front.length := List.length_pos_of_ne_nil hne
  rw [List.length_append]
  omega

theorem parseFieldsWithin_eq (handler : Handler α) {fuel : Nat} {bytes : Bytes} (out : α)
    (h : bytes.length ≤ fuel) :
    parseFieldsWithin handler fuel bytes out = parseFields handler bytes out := by
  -- on the number of bytes: a handler may move the reader by more than one
  induction hlen : bytes.length using Nat.strongRecOn generalizing bytes fuel out with
  | _ length ih =>
    subst hlen
    cases bytes with
    | nil => cases fuel <;> rfl
    | cons b tail =>
      obtain ⟨fuel, rfl⟩ : ∃ f, fuel = f + 1 := ⟨fuel - 1, by rw [List.length_cons] at h; omega⟩
      show parseFieldsWithin handler (fuel + 1) (b :: tail) out =
        parseFieldsWithin handler (tail.length + 1) (b :: tail) out
      rw [List.length_cons] at h
      -- whatever is left is short enough for either fuel
      have hsame : ∀ (rest : Bytes) (value : α), rest.length < tail.length + 1 →
          parseFieldsWithin handler fuel rest value =
            parseFieldsWithin handler tail.length rest value := by
        intro rest value hlt
        rw [ih rest.length (by rw [List.length_cons]; exact hlt) value (by omega) rfl,
          ih rest.length (by rw [List.length_cons]; exact hlt) value (by omega) rfl]
      rw [parseFieldsWithin, parseFieldsWithin]
      cases htag : Reader.readTag (b :: tail) with
      | none => rfl
      | some read =>
        obtain ⟨tag, reader⟩ := read
        have hread := readTag_length htag
        have hshrinks := handler.shrinks tag reader out
        rw [List.length_cons] at hread
        simp only
        rcases hout : handler.run tag reader out with ⟨ok, value, rest⟩
        rw [hout] at hshrinks
        cases ok with
        | true => exact hsame rest value (by simp only at hshrinks; omega)
        | false =>
          cases hskip : Reader.skip tag.type rest with
          | none => simp [hskip]
          | some rest' =>
            have := skip_length hskip
            simpa [hskip] using hsame rest' value (by simp only at hshrinks; omega)

/-- One round of the loop. -/
theorem parseFields_step (handler : Handler α) {bytes : Bytes} (hne : bytes ≠ []) (out : α) :
    parseFields handler bytes out =
      match Reader.readTag bytes with
      | none => (false, out)
      | some (tag, reader) =>
        match handler.run tag reader out with
        | (true, out, reader) => parseFields handler reader out
        | (false, out, reader) =>
          match Reader.skip tag.type reader with
          | some reader => parseFields handler reader out
          | none => (false, out) := by
  cases bytes with
  | nil => exact absurd rfl hne
  | cons b tail =>
    show parseFieldsWithin handler (tail.length + 1) (b :: tail) out = _
    rw [parseFieldsWithin]
    cases htag : Reader.readTag (b :: tail) with
    | none => rfl
    | some read =>
      obtain ⟨tag, reader⟩ := read
      have hread := readTag_length htag
      have hshrinks := handler.shrinks tag reader out
      rw [List.length_cons] at hread
      simp only
      rcases hout : handler.run tag reader out with ⟨ok, value, rest⟩
      rw [hout] at hshrinks
      cases ok with
      -- the fuel of the whole input is enough for the rest of it
      | true => exact parseFieldsWithin_eq handler value (by simp only at hshrinks; omega)
      | false =>
        cases hskip : Reader.skip tag.type rest with
        | none => simp only [hskip]
        | some rest' =>
          have := skip_length hskip
          simp only [hskip]
          exact parseFieldsWithin_eq handler value (by simp only at hshrinks; omega)

/-- An accepting run of `parseFields`. The flag is set once a field was read
again: its handler moved the reader, answered `false`, and the loop skipped one
more payload of the tag's wire type from there. -/
inductive Run (handler : Handler α) : Bool → Bytes → α → α → Prop where
  | done (out : α) : Run handler false [] out out
  | taken {again bytes tag reader rest out middle final} (hne : bytes ≠ [])
      (htag : Reader.readTag bytes = some (tag, reader))
      (hrun : handler.run tag reader out = (true, middle, rest))
      (hrest : Run handler again rest middle final) : Run handler again bytes out final
  | skipped {again bytes tag reader rest out middle final} (hne : bytes ≠ [])
      (htag : Reader.readTag bytes = some (tag, reader))
      (hrun : handler.run tag reader out = (false, middle, reader))
      (hskip : Reader.skip tag.type reader = some rest)
      (hrest : Run handler again rest middle final) : Run handler again bytes out final
  | readAgain {again bytes tag reader moved rest out middle final} (hne : bytes ≠ [])
      (htag : Reader.readTag bytes = some (tag, reader))
      (hrun : handler.run tag reader out = (false, middle, moved)) (hmoved : moved ≠ reader)
      (hskip : Reader.skip tag.type moved = some rest)
      (hrest : Run handler again rest middle final) : Run handler true bytes out final

theorem parseFields_iff (handler : Handler α) {bytes : Bytes} {out final : α} :
    parseFields handler bytes out = (true, final) ↔ ∃ again, Run handler again bytes out final := by
  constructor
  · intro h
    induction hlen : bytes.length using Nat.strongRecOn generalizing bytes out with
    | _ length ih =>
      subst hlen
      by_cases hne : bytes = []
      · subst hne
        obtain rfl : out = final := congrArg Prod.snd h
        exact ⟨false, .done out⟩
      · rw [parseFields_step handler hne] at h
        cases htag : Reader.readTag bytes with
        | none => simp [htag] at h
        | some read =>
          obtain ⟨tag, reader⟩ := read
          have hread := readTag_length htag
          have hshrinks := handler.shrinks tag reader out
          simp only [htag] at h
          rcases hout : handler.run tag reader out with ⟨ok, middle, rest⟩
          rw [hout] at h hshrinks
          cases ok with
          | true =>
            obtain ⟨again, hrest⟩ := ih rest.length (by simp only at hshrinks; omega) h rfl
            exact ⟨again, .taken hne htag hout hrest⟩
          | false =>
            cases hskip : Reader.skip tag.type rest with
            | none => simp [hskip] at h
            | some rest' =>
              have hlt := skip_length hskip
              simp only [hskip] at h
              obtain ⟨again, hrest⟩ := ih rest'.length (by simp only at hshrinks; omega) h rfl
              -- a handler that answers `false` may have moved the reader already
              by_cases hmoved : rest = reader
              · subst hmoved
                exact ⟨again, .skipped hne htag hout hskip hrest⟩
              · exact ⟨true, .readAgain hne htag hout hmoved hskip hrest⟩
  · rintro ⟨again, hrun⟩
    induction hrun with
    | done out => rfl
    | taken hne htag hrun hrest ih =>
      rw [parseFields_step handler hne, htag]
      simp only [hrun]
      exact ih
    | skipped hne htag hrun hskip hrest ih =>
      rw [parseFields_step handler hne, htag]
      simp only [hrun, hskip]
      exact ih
    | readAgain hne htag hrun hmoved hskip hrest ih =>
      rw [parseFields_step handler hne, htag]
      simp only [hrun, hskip]
      exact ih

/-- A run is determined by its bytes. -/
theorem Run.unique {handler : Handler α} {again again' : Bool} {bytes : Bytes}
    {out final final' : α}
    (h : Run handler again bytes out final) (h' : Run handler again' bytes out final') :
    again = again' := by
  induction h generalizing again' final' with
  | done out =>
    cases h' with
    | done => rfl
    | taken hne => exact absurd rfl hne
    | skipped hne => exact absurd rfl hne
    | readAgain hne => exact absurd rfl hne
  | taken hne htag hrun hrest ih =>
    cases h' with
    | done => exact absurd rfl hne
    | taken _ htag' hrun' hrest' =>
      obtain ⟨rfl, rfl⟩ := Prod.mk.inj (Option.some.inj (htag.symm.trans htag'))
      obtain ⟨-, rfl, rfl⟩ : True ∧ _ ∧ _ := by simpa [hrun] using hrun'
      exact ih hrest'
    | skipped _ htag' hrun' =>
      obtain ⟨rfl, rfl⟩ := Prod.mk.inj (Option.some.inj (htag.symm.trans htag'))
      simp [hrun] at hrun'
    | readAgain _ htag' hrun' =>
      obtain ⟨rfl, rfl⟩ := Prod.mk.inj (Option.some.inj (htag.symm.trans htag'))
      simp [hrun] at hrun'
  | skipped hne htag hrun hskip hrest ih =>
    cases h' with
    | done => exact absurd rfl hne
    | taken _ htag' hrun' =>
      obtain ⟨rfl, rfl⟩ := Prod.mk.inj (Option.some.inj (htag.symm.trans htag'))
      simp [hrun] at hrun'
    | skipped _ htag' hrun' hskip' hrest' =>
      obtain ⟨rfl, rfl⟩ := Prod.mk.inj (Option.some.inj (htag.symm.trans htag'))
      obtain rfl : _ = _ := by simpa [hrun] using hrun'
      obtain rfl := Option.some.inj (hskip.symm.trans hskip')
      exact ih hrest'
    | readAgain _ htag' hrun' hmoved =>
      obtain ⟨rfl, rfl⟩ := Prod.mk.inj (Option.some.inj (htag.symm.trans htag'))
      simp only [hrun, Prod.mk.injEq, true_and] at hrun'
      exact absurd hrun'.2.symm hmoved
  | readAgain hne htag hrun hmoved hskip hrest ih =>
    cases h' with
    | done => exact absurd rfl hne
    | taken _ htag' hrun' =>
      obtain ⟨rfl, rfl⟩ := Prod.mk.inj (Option.some.inj (htag.symm.trans htag'))
      simp [hrun] at hrun'
    | skipped _ htag' hrun' =>
      obtain ⟨rfl, rfl⟩ := Prod.mk.inj (Option.some.inj (htag.symm.trans htag'))
      simp only [hrun, Prod.mk.injEq, true_and] at hrun'
      exact absurd hrun'.2 hmoved
    | readAgain => rfl

/-! ## Runs that read nothing again -/

/-- A handler that does what a table says, except that it reads the varint of
the tags in `reads` (none of them declared) before it turns them down. -/
structure Follows (handler : Handler α) (table : List (FieldDecl α)) (reads : Tag → Bool) :
    Prop where
  same : ∀ tag reader out, reads tag = false →
    handler.run tag reader out = (tableHandler table).run tag reader out
  refused : ∀ tag reader out, reads tag = true →
    (handler.run tag reader out).1 = false ∧
      (handler.run tag reader out).2.2 = (Reader.readVarint reader).2
  varint : ∀ tag, reads tag = true → tag.type = .varint
  undeclared : ∀ tag, reads tag = true → lookup table tag.number = none

theorem follows_tableHandler (table : List (FieldDecl α)) :
    Follows (tableHandler table) table fun _ => false where
  same _ _ _ _ := rfl
  refused _ _ _ h := absurd h (by simp)
  varint _ h := absurd h (by simp)
  undeclared _ h := absurd h (by simp)

section Clean

variable {handler : Handler α} {table : List (FieldDecl α)} {reads : Tag → Bool}

theorem Follows.taken (h : Follows handler table reads) {bytes reader rest : Bytes} {tag : Tag}
    {out middle : α} (htag : Reader.readTag bytes = some (tag, reader))
    (hrun : handler.run tag reader out = (true, middle, rest)) :
    ∃ field, takeField Reader.tagOf bytes = some (field, rest) ∧ reads field.tag = false ∧
      foldField table out field = some middle := by
  have hreads : reads tag = false := by
    by_contra hreads
    have hfalse := (h.refused tag reader out (by simpa using hreads)).1
    rw [hrun] at hfalse
    exact absurd hfalse (by simp)
  rw [h.same tag reader out hreads] at hrun
  simp only [tableHandler] at hrun
  cases hdecl : declared table tag with
  | none => simp [hdecl] at hrun
  | some decl =>
    simp only [hdecl] at hrun
    have htype := (declared_eq_some.mp hdecl).2
    cases htake : takePayload decl.type reader with
    | none =>
      have hfalse := readDeclared_none out htake
      rw [hrun] at hfalse
      exact absurd hfalse (by simp)
    | some taken =>
      obtain ⟨payload, rest'⟩ := taken
      rw [readDeclared_some out htake] at hrun
      simp only [Prod.mk.injEq] at hrun
      obtain ⟨hok, hmiddle, rfl⟩ := hrun
      have hfieldTag : (⟨tag.number, payload⟩ : Field).tag = tag := by
        rw [Field.tag, takePayload_type htake, ← htype]
      refine ⟨⟨tag.number, payload⟩, Reader.takeField_some htag (htype ▸ htake),
        by rw [hfieldTag, hreads], foldField_applied (by rw [hfieldTag, hdecl]) ?_⟩
      exact Prod.ext hok hmiddle

theorem Follows.skipped (h : Follows handler table reads) {bytes reader rest : Bytes} {tag : Tag}
    {out middle : α} (htag : Reader.readTag bytes = some (tag, reader))
    (hrun : handler.run tag reader out = (false, middle, reader))
    (hskip : Reader.skip tag.type reader = some rest) :
    ∃ field, takeField Reader.tagOf bytes = some (field, rest) ∧ reads field.tag = false ∧
      foldField table out field = some middle := by
  rw [Reader.skip_eq, Option.map_eq_some_iff] at hskip
  obtain ⟨⟨payload, rest'⟩, htake, rfl⟩ := hskip
  have hpos := takePayload_length htake
  have hfieldTag : (⟨tag.number, payload⟩ : Field).tag = tag := by
    rw [Field.tag, takePayload_type htake]
  have hreads : reads tag = false := by
    by_contra hreads
    have hsame := (h.refused tag reader out (by simpa using hreads)).2
    have hne : reader ≠ [] := by
      rintro rfl
      simp at hpos
    have hmoves := Reader.readVarint_moves hne
    rw [hrun] at hsame
    simp only at hsame
    rw [← hsame] at hmoves
    exact absurd hmoves (lt_irrefl _)
  refine ⟨⟨tag.number, payload⟩, Reader.takeField_some htag htake, by rw [hfieldTag, hreads], ?_⟩
  rw [h.same tag reader out hreads] at hrun
  simp only [tableHandler] at hrun
  cases hdecl : declared table tag with
  | none =>
    simp only [hdecl, Prod.mk.injEq, true_and, and_true] at hrun
    rw [← hrun]
    exact foldField_passed out (by rw [hfieldTag, hdecl])
  | some decl =>
    -- a declared payload that can be skipped is read, and the reader moves
    rw [(declared_eq_some.mp hdecl).2] at htake
    simp only [hdecl, readDeclared_some out htake, Prod.mk.injEq] at hrun
    rw [hrun.2.2] at hpos
    exact absurd hpos (lt_irrefl _)

/-- What the loop does with a field that is declared and accepted, or passed over. -/
theorem Follows.step (h : Follows handler table reads) {bytes rest : Bytes} {field : Field}
    {out middle : α} (htake : takeField Reader.tagOf bytes = some (field, rest))
    (hreads : reads field.tag = false) (hfold : foldField table out field = some middle) :
    ∃ reader, Reader.readTag bytes = some (field.tag, reader) ∧
      (handler.run field.tag reader out = (true, middle, rest) ∨
        handler.run field.tag reader out = (false, middle, reader) ∧
          Reader.skip field.tag.type reader = some rest) := by
  obtain ⟨reader, htag, hpayload⟩ := Reader.readTag_of_takeField htake
  refine ⟨reader, htag, ?_⟩
  rw [h.same field.tag reader out hreads]
  simp only [tableHandler]
  rw [foldField] at hfold
  cases hdecl : declared table field.tag with
  | none =>
    rw [hdecl] at hfold
    simp only [Option.some.injEq] at hfold
    exact .inr ⟨by rw [hfold], by rw [Reader.skip_eq, Field.tag, hpayload]; rfl⟩
  | some decl =>
    rw [hdecl] at hfold
    have htype : field.payload.type = decl.type := (declared_eq_some.mp hdecl).2
    rw [htype] at hpayload
    left
    simp only [readDeclared_some out hpayload]
    rcases happly : decl.apply field.payload out with ⟨ok, value⟩
    simp only [happly] at hfold
    cases ok with
    | false => simp at hfold
    | true => simpa using hfold

theorem Follows.fields_of_run (h : Follows handler table reads) {again : Bool} {bytes : Bytes}
    {out final : α} (hrun : Run handler again bytes out final) (hagain : again = false) :
    ∃ fields, splitFields Reader.tagOf bytes = some fields ∧
      (∀ field ∈ fields, reads field.tag = false) ∧ foldFields table fields out = some final := by
  induction hrun with
  | done out => exact ⟨[], rfl, by simp, rfl⟩
  | taken hne htag hrun hrest ih =>
    obtain ⟨field, htake, hreads, hfold⟩ := h.taken htag hrun
    obtain ⟨fields, hsplit, hall, hfolds⟩ := ih hagain
    refine ⟨field :: fields, splitFields_eq_cons.mpr ⟨_, htake, hsplit⟩,
      List.forall_mem_cons.mpr ⟨hreads, hall⟩, ?_⟩
    rw [foldFields_cons, hfold, Option.bind_some, hfolds]
  | skipped hne htag hrun hskip hrest ih =>
    obtain ⟨field, htake, hreads, hfold⟩ := h.skipped htag hrun hskip
    obtain ⟨fields, hsplit, hall, hfolds⟩ := ih hagain
    refine ⟨field :: fields, splitFields_eq_cons.mpr ⟨_, htake, hsplit⟩,
      List.forall_mem_cons.mpr ⟨hreads, hall⟩, ?_⟩
    rw [foldFields_cons, hfold, Option.bind_some, hfolds]
  | readAgain => exact absurd hagain (by simp)

/-- A run that reads nothing again is the fold over the fields of the bytes. -/
theorem Follows.run_iff (h : Follows handler table reads) {bytes : Bytes} {out final : α} :
    Run handler false bytes out final ↔
      ∃ fields, splitFields Reader.tagOf bytes = some fields ∧
        (∀ field ∈ fields, reads field.tag = false) ∧ foldFields table fields out = some final := by
  refine ⟨fun hrun => h.fields_of_run hrun rfl, ?_⟩
  rintro ⟨fields, hsplit, hall, hfolds⟩
  induction fields generalizing bytes out with
  | nil =>
    rw [splitFields_eq_nil.mp hsplit]
    obtain rfl : out = final := by simpa using hfolds
    exact .done out
  | cons field fields ih =>
    obtain ⟨rest, htake, hrest⟩ := splitFields_eq_cons.mp hsplit
    obtain ⟨hreads, hall⟩ := List.forall_mem_cons.mp hall
    rw [foldFields_cons, Option.bind_eq_some_iff] at hfolds
    obtain ⟨middle, hfold, hfolds⟩ := hfolds
    have hne : bytes ≠ [] := by
      rintro rfl
      simp [takeField_nil] at htake
    obtain ⟨reader, htag, hrun | ⟨hrun, hskip⟩⟩ := h.step htake hreads hfold
    · exact .taken hne htag hrun (ih hrest hall hfolds)
    · exact .skipped hne htag hrun hskip (ih hrest hall hfolds)

end Clean

/-! ## `strictFields` -/

/-- The hand-written loops: a declared field with its wire type is read or the
decoder fails, any other field is skipped. -/
def strictFieldsWithin (table : List (FieldDecl α)) : Nat → Bytes → α → Bool × α
  | _, [], out => (true, out)
  | 0, _ :: _, out => (false, out)
  | fuel + 1, b :: tail, out =>
    match Reader.readTag (b :: tail) with
    | none => (false, out)
    | some (tag, reader) =>
      match declared table tag with
      -- a declared number with another wire type is not declared here: it is skipped
      | some decl =>
        match readDeclared decl reader out with
        | (true, out, reader) => strictFieldsWithin table fuel reader out
        | (false, out, _) => (false, out)
      | none =>
        match Reader.skip tag.type reader with
        | some reader => strictFieldsWithin table fuel reader out
        | none => (false, out)

theorem strictFieldsWithin_steady (table : List (FieldDecl α)) (fuel : Nat) (bytes : Bytes)
    (out out' : α) :
    (strictFieldsWithin table fuel bytes out).1 = (strictFieldsWithin table fuel bytes out').1 := by
  induction fuel generalizing bytes out out' with
  | zero => cases bytes <;> rfl
  | succ fuel ih =>
    cases bytes with
    | nil => rfl
    | cons b tail =>
      rw [strictFieldsWithin, strictFieldsWithin]
      cases Reader.readTag (b :: tail) with
      | none => rfl
      | some read =>
        obtain ⟨tag, reader⟩ := read
        simp only
        cases declared table tag with
        | none =>
          cases hskip : Reader.skip tag.type reader with
          | none => simp
          | some rest => simpa using ih rest out out'
        | some decl =>
          have hsteady := readDeclared_steady decl reader out out'
          simp only
          rcases hout : readDeclared decl reader out with ⟨ok, value, rest⟩
          rcases hout' : readDeclared decl reader out' with ⟨ok', value', rest'⟩
          rw [hout, hout'] at hsteady
          obtain ⟨rfl, rfl⟩ := hsteady
          cases ok with
          | true => exact ih rest value value'
          | false => rfl

def strictFields (table : List (FieldDecl α)) : Decoder α where
  run bytes out := strictFieldsWithin table bytes.length bytes out
  steady bytes := strictFieldsWithin_steady table bytes.length bytes

theorem strictFieldsWithin_iff (table : List (FieldDecl α)) {fuel : Nat} {bytes : Bytes}
    {out final : α} (h : bytes.length ≤ fuel) :
    strictFieldsWithin table fuel bytes out = (true, final) ↔
      ∃ fields, splitFields Reader.tagOf bytes = some fields ∧
        foldFields table fields out = some final := by
  induction fuel generalizing bytes out with
  | zero =>
    obtain rfl : bytes = [] := List.length_eq_zero_iff.mp (by omega)
    simp [strictFieldsWithin]
  | succ fuel ih =>
    cases bytes with
    | nil => simp [strictFieldsWithin]
    | cons b tail =>
      rw [List.length_cons] at h
      rw [strictFieldsWithin]
      cases htag : Reader.readTag (b :: tail) with
      -- no tag can be read: the grammar does not split the bytes either
      | none =>
        have htake : takeField Reader.tagOf (b :: tail) = none := by
          rw [Reader.takeField_eq, htag]
          rfl
        simp [splitFields_stuck (by simp) htake]
      | some read =>
        obtain ⟨tag, reader⟩ := read
        have hread := readTag_length htag
        rw [List.length_cons] at hread
        cases htake : takePayload tag.type reader with
        -- a tag without its payload is refused with or without a declaration
        | none =>
          rw [splitFields_stuck (by simp) (Reader.takeField_none htag htake)]
          cases hdecl : declared table tag with
          | none => simp [hdecl, Reader.skip_eq, htake]
          -- a declared field with a broken payload is turned down by its reader
          | some decl =>
            rw [(declared_eq_some.mp hdecl).2] at htake
            have hfalse := readDeclared_none out htake
            simp only [hdecl]
            rcases hread' : readDeclared decl reader out with ⟨ok, value, rest⟩
            rw [hread'] at hfalse
            obtain rfl : ok = false := hfalse
            simp
        | some taken =>
          obtain ⟨payload, rest⟩ := taken
          have hlt := takePayload_length htake
          have hfieldTag : (⟨tag.number, payload⟩ : Field).tag = tag := by
            rw [Field.tag, takePayload_type htake]
          rw [splitFields_cons (Reader.takeField_some htag htake)]
          cases hdecl : declared table tag with
          | none =>
            -- an undeclared field is skipped
            have hpass : foldField table out ⟨tag.number, payload⟩ = some out :=
              foldField_passed out (by rw [hfieldTag, hdecl])
            simp only [hdecl, Reader.skip_eq, htake, Option.map_some]
            rw [ih (by omega)]
            simp [hpass]
          | some decl =>
            rw [(declared_eq_some.mp hdecl).2] at htake
            simp only [hdecl, readDeclared_some out htake]
            -- a declared field either changes the value or refuses the message
            rcases happly : decl.apply payload out with ⟨ok, middle⟩
            cases ok with
            | true =>
              have hfold : foldField table out ⟨tag.number, payload⟩ = some middle :=
                foldField_applied (by rw [hfieldTag, hdecl]) happly
              simp only
              rw [ih (by omega)]
              simp [hfold]
            | false =>
              have hfold : foldField table out ⟨tag.number, payload⟩ = none := by
                rw [foldField, hfieldTag, hdecl]
                simp [happly]
              simp [hfold]

theorem strictFields_iff (table : List (FieldDecl α)) {bytes : Bytes} {out final : α} :
    strictFields table bytes out = (true, final) ↔
      ∃ fields, splitFields Reader.tagOf bytes = some fields ∧
        foldFields table fields out = some final :=
  strictFieldsWithin_iff table le_rfl

/-! ## Both loops as one interface -/

/-- The decoding loop of one message level. `ReadsAgain bytes out final` is an
accepting run in which some field of this level was read again. -/
structure FieldLoop (α : Type) where
  decode : Decoder α
  table : List (FieldDecl α)
  /-- The undeclared tags whose value the handler reads before turning it down. -/
  reads : Tag → Bool
  ReadsAgain : Bytes → α → α → Prop
  reads_varint : ∀ tag, reads tag = true → tag.type = .varint ∧ lookup table tag.number = none
  decode_iff : ∀ {bytes out final}, decode bytes out = (true, final) ↔
    ReadsAgain bytes out final ∨
      ∃ fields, splitFields Reader.tagOf bytes = some fields ∧
        (∀ field ∈ fields, reads field.tag = false) ∧ foldFields table fields out = some final
  /-- Bytes are decoded in one of the two ways only. -/
  exclusive : ∀ {bytes fields out final final'}, ReadsAgain bytes out final' →
    splitFields Reader.tagOf bytes = some fields →
    (∀ field ∈ fields, reads field.tag = false) → foldFields table fields out ≠ some final

namespace FieldLoop

/-- `parseFields` around a handler that may read an undeclared varint. -/
def ofHandler {handler : Handler α} {table : List (FieldDecl α)} {reads : Tag → Bool}
    (h : Follows handler table reads) : FieldLoop α where
  decode := parseFields handler
  table := table
  reads := reads
  ReadsAgain := Run handler true
  reads_varint tag hreads := ⟨h.varint tag hreads, h.undeclared tag hreads⟩
  decode_iff {bytes out final} := by
    rw [parseFields_iff, ← h.run_iff]
    constructor
    · rintro ⟨again, hrun⟩
      cases again with
      | true => exact .inl hrun
      | false => exact .inr hrun
    · rintro (hrun | hrun)
      · exact ⟨true, hrun⟩
      · exact ⟨false, hrun⟩
  exclusive hagain hsplit hreads hfold :=
    absurd (hagain.unique (h.run_iff.mpr ⟨_, hsplit, hreads, hfold⟩)) (by simp)

/-- `parseFields` around a handler that checks before it reads. -/
def lenient (table : List (FieldDecl α)) : FieldLoop α := ofHandler (follows_tableHandler table)

/-- A hand-written loop. -/
def strict (table : List (FieldDecl α)) : FieldLoop α where
  decode := strictFields table
  table := table
  reads _ := false
  ReadsAgain _ _ _ := False
  reads_varint _ h := absurd h (by simp)
  decode_iff := by
    intro bytes out final
    rw [strictFields_iff]
    simp
  exclusive h := h.elim

/-- Bytes that split into fields the loop's table accepts are decoded to their meaning. -/
theorem decode_of_fold (loop : FieldLoop α) {bytes : Bytes} {fields : List Field} {out final : α}
    (hsplit : splitFields Reader.tagOf bytes = some fields)
    (hreads : ∀ field ∈ fields, loop.reads field.tag = false)
    (hfold : foldFields loop.table fields out = some final) :
    loop.decode bytes out = (true, final) :=
  loop.decode_iff.mpr (.inr ⟨fields, hsplit, hreads, hfold⟩)

@[simp] theorem decode_nil (loop : FieldLoop α) (out : α) : loop.decode [] out = (true, out) :=
  loop.decode_of_fold splitFields_nil (by simp) rfl

end FieldLoop

/-! ## Decoding what a writer wrote -/

/-- The bytes are fields the table declares, and take `out` to `out'`. Lengths
are 64-bit on the wire; a buffer is no longer than that. -/
def Rebuilds (table : List (FieldDecl α)) (bytes : Bytes) (out out' : α) : Prop :=
  bytes.length < 2 ^ 64 → ∃ fields, splitFields Reader.tagOf bytes = some fields ∧
    (∀ field ∈ fields, lookup table field.number ≠ none) ∧ foldFields table fields out = some out'

namespace Rebuilds

variable {table : List (FieldDecl α)}

theorem nil (out : α) : Rebuilds table [] out out :=
  fun _ => ⟨[], rfl, by simp, rfl⟩

theorem append {bytes bytes' : Bytes} {out middle final : α} (h : Rebuilds table bytes out middle)
    (h' : Rebuilds table bytes' middle final) : Rebuilds table (bytes ++ bytes') out final := by
  intro hlen
  rw [List.length_append] at hlen
  obtain ⟨fields, hsplit, hdeclared, hfold⟩ := h (by omega)
  obtain ⟨fields', hsplit', hdeclared', hfold'⟩ := h' (by omega)
  refine ⟨fields ++ fields', by rw [splitFields_append hsplit, hsplit']; rfl,
    List.forall_mem_append.mpr ⟨hdeclared, hdeclared'⟩, ?_⟩
  rw [foldFields_append, hfold, Option.bind_some, hfold']

theorem field {field : Field} {decl : FieldDecl α} {out final : α}
    (hnumber : 0 < field.number ∧ field.number < 2 ^ 29)
    (hdecl : declared table field.tag = some decl)
    (happly : field.payload.Sized → decl.apply field.payload out = (true, final)) :
    Rebuilds table (encodeField field) out final := by
  intro hlen
  have hsized : field.payload.Sized := by
    cases hpayload : field.payload with
    | bytes content =>
      simp only [encodeField, hpayload, encodePayload, List.length_append] at hlen
      simp only [Payload.Sized]
      omega
    | _ => trivial
  have hread : field.Readable Reader.tagOf := Reader.readable hnumber.1 hnumber.2 hsized
  refine ⟨[field], ?_, ?_, ?_⟩
  · have hall : ∀ field' ∈ [field], field'.Readable Reader.tagOf := by simpa using hread
    simpa using splitFields_encodeFields hall
  · have hlookup := (declared_eq_some.mp hdecl).1
    simp only [Field.tag] at hlookup
    simp [hlookup]
  · rw [foldFields_cons, foldField_applied hdecl (happly hsized)]
    rfl

/-! One lemma for each writer function. -/

theorem varint {number : Nat} {set : UInt64 → α → α} {value : UInt64} {out final : α}
    (hnumber : 0 < number ∧ number < 2 ^ 29)
    (hdecl : declared table ⟨number, .varint⟩ = some (.varint number set))
    (hset : set value out = final) : Rebuilds table (Writer.varint number value) out final := by
  rw [Writer.varint_eq, ← hset]
  exact field hnumber hdecl fun _ => rfl

theorem fixed64 {number : Nat} {set : UInt64 → α → α} {value : UInt64} {out final : α}
    (hnumber : 0 < number ∧ number < 2 ^ 29)
    (hdecl : declared table ⟨number, .fixed64⟩ = some (.fixed64 number set))
    (hset : set value out = final) : Rebuilds table (Writer.fixed64 number value) out final := by
  rw [Writer.fixed64_eq, ← hset]
  exact field hnumber hdecl fun _ => rfl

theorem fixed32 {number : Nat} {set : UInt32 → α → α} {value : UInt32} {out final : α}
    (hnumber : 0 < number ∧ number < 2 ^ 29)
    (hdecl : declared table ⟨number, .fixed32⟩ = some (.fixed32 number set))
    (hset : set value out = final) : Rebuilds table (Writer.fixed32 number value) out final := by
  rw [Writer.fixed32_eq, ← hset]
  exact field hnumber hdecl fun _ => rfl

theorem bytes {number : Nat} {set : Bytes → α → α} {data : Bytes} {out final : α}
    (hnumber : 0 < number ∧ number < 2 ^ 29)
    (hdecl : declared table ⟨number, .lengthDelimited⟩ = some (.bytes number set))
    (hset : set data out = final) : Rebuilds table (Writer.bytes number data) out final := by
  rw [Writer.bytes_eq, ← hset]
  exact field hnumber hdecl fun _ => rfl

theorem message {number : Nat} {decode : Decoder β} {get : α → β} {set : β → α → α} {body : Bytes}
    {value : β} {out final : α} (hnumber : 0 < number ∧ number < 2 ^ 29)
    (hdecl : declared table ⟨number, .lengthDelimited⟩ = some (.message number decode get set))
    (hbody : body.length < 2 ^ 64 → decode body (get out) = (true, value))
    (hset : set value out = final) : Rebuilds table (Writer.message number body) out final := by
  rw [Writer.message, Writer.bytes_eq, ← hset]
  refine field hnumber hdecl fun hsized => ?_
  simp [FieldDecl.message, hbody hsized]

theorem packed {number : Nat} {parse : Bytes → Option β} {set : β → α → α} {content : Bytes}
    {value : β} {out final : α} (hnumber : 0 < number ∧ number < 2 ^ 29)
    (hdecl : declared table ⟨number, .lengthDelimited⟩ = some (.packed number parse set))
    (hparse : parse content = some value) (hset : set value out = final) :
    Rebuilds table (encodeField ⟨number, .bytes content⟩) out final := by
  refine field hnumber hdecl fun _ => ?_
  simp [FieldDecl.packed, hparse, hset]

theorem packedDouble {number : Nat} {set : List F64 → α → α} {values : List F64} {out final : α}
    (hnumber : 0 < number ∧ number < 2 ^ 29)
    (hdecl : declared table ⟨number, .lengthDelimited⟩ =
      some (.packed number Reader.readPackedDouble set)) (hempty : set [] out = out)
    (hset : set values out = final) :
    Rebuilds table (Writer.packedDouble number values) out final := by
  by_cases hne : values = []
  · rw [← hset, hne, hempty]
    exact nil out
  · rw [Writer.packedDouble_eq number hne]
    exact packed hnumber hdecl (Reader.readPackedDouble_flatMap values) hset

theorem packedDoubleArray {number N : Nat} {set : List.Vector F64 N → α → α}
    {values : List.Vector F64 N} {out final : α} (hN : 0 < N)
    (hnumber : 0 < number ∧ number < 2 ^ 29)
    (hdecl : declared table ⟨number, .lengthDelimited⟩ =
      some (.packed number (Reader.readPackedDoubleArray N) set))
    (hset : set values out = final) :
    Rebuilds table (Writer.packedDouble number values.toList) out final := by
  have hne : values.toList ≠ [] := by
    rw [← List.length_pos_iff_ne_nil, values.toList_length]
    exact hN
  rw [Writer.packedDouble_eq number hne]
  exact packed hnumber hdecl (Reader.readPackedDoubleArray_flatMap values) hset

theorem packedFixed32 {number : Nat} {set : List UInt32 → α → α} {values : List UInt32}
    {out final : α} (hnumber : 0 < number ∧ number < 2 ^ 29)
    (hdecl : declared table ⟨number, .lengthDelimited⟩ =
      some (.packed number Reader.readPackedFixed32 set)) (hempty : set [] out = out)
    (hset : set values out = final) :
    Rebuilds table (Writer.packedFixed32 number values) out final := by
  by_cases hne : values = []
  · rw [← hset, hne, hempty]
    exact nil out
  · rw [Writer.packedFixed32_eq number hne]
    exact packed hnumber hdecl (Reader.readPackedFixed32_flatMap values) hset

/-- `for (const auto& value : values) writer.message(number, …)` -/
theorem repeated {number : Nat} {decode : Decoder β} {init : β}
    {modify : (List β → List β) → α → α} {encode : β → Bytes} {values : List β} {out final : α}
    (hnumber : 0 < number ∧ number < 2 ^ 29)
    (hdecl : declared table ⟨number, .lengthDelimited⟩ =
      some (.repeated number decode init modify))
    (hid : ∀ out, modify id out = out)
    (hcomp : ∀ f g out, modify f (modify g out) = modify (f ∘ g) out)
    (hvalue : ∀ value ∈ values, (encode value).length < 2 ^ 64 →
      decode (encode value) init = (true, value))
    (hset : modify (· ++ values) out = final) :
    Rebuilds table (values.flatMap fun value => Writer.message number (encode value)) out
      final := by
  induction values generalizing out with
  | nil =>
    have hnil : (fun list : List β => list ++ []) = id := by
      funext list
      simp
    rw [← hset, hnil, hid]
    exact nil out
  | cons value values ih =>
    have hassoc : ((· ++ values) ∘ (· ++ [value]) : List β → List β) = (· ++ value :: values) := by
      funext list
      simp
    have hhead : Rebuilds table (Writer.message number (encode value)) out
        (modify (· ++ [value]) out) := by
      rw [Writer.message, Writer.bytes_eq]
      refine field hnumber hdecl fun hsized => ?_
      simp [FieldDecl.repeated, hvalue value List.mem_cons_self hsized]
    rw [List.flatMap_cons]
    refine hhead.append (ih (fun value' hmem => hvalue value' (List.mem_cons_of_mem value hmem)) ?_)
    rw [hcomp, hassoc, hset]

/-- A loop decodes what it is rebuilt from. -/
theorem decode {loop : FieldLoop α} {bytes : Bytes} {out final : α}
    (h : Rebuilds loop.table bytes out final) (hlen : bytes.length < 2 ^ 64) :
    loop.decode bytes out = (true, final) := by
  obtain ⟨fields, hsplit, hdeclared, hfold⟩ := h hlen
  refine loop.decode_of_fold hsplit (fun field hmem => ?_) hfold
  by_contra hreads
  exact hdeclared field hmem (loop.reads_varint field.tag (by simpa using hreads)).2

end Rebuilds

/-! ## Decoders of one message -/

/-- Runs a loop on an accumulator of its own and fills `out` once the message is
complete. -/
def FieldLoop.finish (loop : FieldLoop α) (start : α) (complete : α → Option β) : Decoder β where
  run bytes out :=
    match loop.decode bytes start with
    | (true, parts) =>
      match complete parts with
      | some value => (true, value)
      | none => (false, out)
    | (false, _) => (false, out)
  steady bytes out out' := by
    rcases loop.decode bytes start with ⟨ok, parts⟩
    cases ok with
    | false => rfl
    | true => cases h : complete parts <;> simp [h]

theorem FieldLoop.finish_of_decode {loop : FieldLoop α} {start parts : α}
    {complete : α → Option β} {bytes : Bytes} {value : β} (out : β)
    (hdecode : loop.decode bytes start = (true, parts)) (hcomplete : complete parts = some value) :
    loop.finish start complete bytes out = (true, value) := by
  simp [FieldLoop.finish, hdecode, hcomplete]

end PlotJugglerSdk
