import PlotJugglerSdk.ParserModule.ProtoDeclarations

/-!
# A path is a chain of lookups by name

What a path means is stated apart from the plan: descend field by field, at each level to the
last occurrence of the number the descriptor gives for the name, and from a message field to
the message its type names. A plan compiled from an accepted descriptor set finds in every
message what that descent comes to: the same bytes, nothing, or an error.

## Results

* `compileNumbers_resolves` — a compiled path's numbers are those of its names
* `descends_iff`            — looking the numbers up is descending by the names
* `names_resolve`           — both, for every accepted descriptor set and every path
-/

namespace PlotJugglerSdk.ParserModule.ProtoFieldLocator

open ProtoReader ProtoTraversalPlan Scan Wire

/-! ## The descent -/

/-- What a lookup in a part of a message comes to in the message. -/
def locatedBehind (base : Nat) : Located → Located
  | .present field => .present (field.behind base)
  | outcome => outcome

/-- The names descend from a message type to this outcome, in the part of the payload that
begins at `base`. -/
inductive Descends (messages : List ProtoSchemaMessage) :
    ProtoSchemaMessage → List Bytes → (base : Nat) → ProtoReader → Located → Prop
  | last {message : ProtoSchemaMessage} {field : ProtoSchemaField} {base : Nat}
    {reader : ProtoReader} {outcome : Located} :
    field ∈ message.fields → LastIn reader field.number outcome →
    Descends messages message [field.name] base reader (locatedBehind base outcome)
  | absent {message : ProtoSchemaMessage} {field : ProtoSchemaField} {names : List Bytes}
    {base : Nat} {reader : ProtoReader} :
    field ∈ message.fields → names ≠ [] → LastIn reader field.number .absent →
    Descends messages message (field.name :: names) base reader .absent
  | error {message : ProtoSchemaMessage} {field : ProtoSchemaField} {names : List Bytes}
    {base : Nat} {reader : ProtoReader} :
    field ∈ message.fields → names ≠ [] → LastIn reader field.number .error →
    Descends messages message (field.name :: names) base reader .error
  | blocked {message : ProtoSchemaMessage} {field : ProtoSchemaField} {names : List Bytes}
    {base : Nat} {reader : ProtoReader} {found : ProtoReader.Field} :
    field ∈ message.fields → names ≠ [] → LastIn reader field.number (.present found) →
    found.wireType ≠ .lengthDelimited →
    Descends messages message (field.name :: names) base reader .error
  | through {message next : ProtoSchemaMessage} {field : ProtoSchemaField} {names : List Bytes}
    {base : Nat} {reader : ProtoReader} {found : ProtoReader.Field} {outcome : Located} :
    field ∈ message.fields → names ≠ [] → LastIn reader field.number (.present found) →
    found.wireType = .lengthDelimited → next ∈ messages → next.fullName = field.typeName →
    Descends messages next names (base + found.bytes.offset)
      { message := found.bytes.of reader.message } outcome →
    Descends messages message (field.name :: names) base reader outcome

/-! ## The numbers of a path -/

/-- The numbers are those that the names have, from message type to message type. -/
inductive Resolves (messages : List ProtoSchemaMessage) :
    ProtoSchemaMessage → List Bytes → List UInt32 → Prop
  | last {message : ProtoSchemaMessage} {field : ProtoSchemaField} :
    field ∈ message.fields → Resolves messages message [field.name] [field.number]
  | through {message next : ProtoSchemaMessage} {field : ProtoSchemaField} {names : List Bytes}
    {numbers : List UInt32} :
    field ∈ message.fields → next ∈ messages → next.fullName = field.typeName →
    Resolves messages next names numbers →
    Resolves messages message (field.name :: names) (field.number :: numbers)

theorem Resolves.ne_nil {messages : List ProtoSchemaMessage} {message : ProtoSchemaMessage}
    {names : List Bytes} {numbers : List UInt32} (h : Resolves messages message names numbers) :
    names ≠ [] ∧ numbers ≠ [] := by
  cases h with
  | last => exact ⟨List.cons_ne_nil _ _, List.cons_ne_nil _ _⟩
  | through => exact ⟨List.cons_ne_nil _ _, List.cons_ne_nil _ _⟩

theorem findMessage_ok {messages : List ProtoSchemaMessage} {fullName : Bytes} {index : Nat}
    (h : findMessage messages fullName = .ok index) :
    messageAt messages index ∈ messages ∧ (messageAt messages index).fullName = fullName := by
  unfold findMessage at h
  split at h
  · cases h
  · rename_i found hfound
    obtain rfl := Except.ok.inj h
    obtain ⟨hlt, hname, -⟩ := List.findIdx?_eq_some_iff_getElem.mp hfound
    have hat : messageAt messages found = messages[found] := by
      rw [messageAt, List.getD_eq_getElem?_getD, List.getElem?_eq_getElem hlt, Option.getD_some]
    rw [hat]
    exact ⟨List.getElem_mem hlt, of_decide_eq_true hname⟩

theorem compileNumbers_resolves {messages : List ProtoSchemaMessage} {names : List Bytes}
    {index : Nat} {before numbers : List UInt32}
    (h : compileNumbers messages names index before = .ok numbers) :
    ∃ more, numbers = before ++ more ∧ Resolves messages (messageAt messages index) names more := by
  induction names generalizing index before with
  | nil => exact nomatch h
  | cons component names ih =>
    rw [compileNumbers] at h
    split at h
    · exact nomatch h
    · split at h
      · exact nomatch h
      · rename_i selected hselected
        have hname := List.find?_some hselected
        obtain rfl : selected.name = component := of_decide_eq_true hname
        have hmem := List.mem_of_find?_eq_some hselected
        dsimp only at h
        split at h
        · rename_i hnames
          obtain rfl := hnames
          exact ⟨[selected.number], (Except.ok.inj h).symm, .last hmem⟩
        · split at h
          · exact nomatch h
          · obtain ⟨nested, hnested, h⟩ := bind_ok h
            split at h
            · exact nomatch h
            · -- only a field of a message type is descended into
              obtain ⟨hnext, hname⟩ := findMessage_ok hnested
              obtain ⟨more, rfl, hresolves⟩ := ih h
              refine ⟨selected.number :: more, ?_, .through hmem hnext hname hresolves⟩
              rw [List.append_assoc, List.singleton_append]

/-- A compiled path is no longer than a plan goes deep. -/
theorem compileNumbers_length {messages : List ProtoSchemaMessage} {names : List Bytes}
    {index : Nat} {before numbers : List UInt32} (hbefore : before.length < kMaxRecursionDepth)
    (h : compileNumbers messages names index before = .ok numbers) :
    numbers.length ≤ kMaxRecursionDepth := by
  induction names generalizing index before with
  | nil => exact nomatch h
  | cons component names ih =>
    rw [compileNumbers] at h
    split at h
    · exact nomatch h
    · split at h
      · exact nomatch h
      · dsimp only at h
        split at h
        · rw [← Except.ok.inj h, List.length_append]
          exact hbefore
        · split at h
          · exact nomatch h
          · obtain ⟨nested, -, h⟩ := bind_ok h
            split at h
            · exact nomatch h
            · rename_i hshort
              -- the guard before the descent leaves room for one number more
              exact ih (Nat.lt_of_not_ge hshort) h

/-! ## Looking up is descending -/

section Descent

variable {messages : List ProtoSchemaMessage} {message : ProtoSchemaMessage} {names : List Bytes}
  {numbers : List UInt32} {base : Nat} {reader : ProtoReader}

theorem classify_error (e : ScanError) :
    classify (.error e) = .absent ∨ classify (.error e) = .error := by
  rw [classify]
  split
  · exact .inl rfl
  · exact .inr rfl

theorem classify_locateFrom_last (number : UInt32) :
    classify (locateFrom [number] base reader) =
      locatedBehind base (classify (reader.last number)) := by
  rw [locateFrom]
  cases reader.last number with
  | ok found => rfl
  | error e =>
    show classify (.error e) = locatedBehind base (classify (.error e))
    obtain h | h := classify_error e
    · rw [h]
      rfl
    · rw [h]
      rfl

/-- From an intermediate field into the message it is. -/
def continueIn (next : ProtoReader.Field → Located) : Located → Located
  | .present found => if found.wireType = .lengthDelimited then next found else .error
  | outcome => outcome

theorem classify_locateFrom_cons {number : UInt32} (hnumbers : numbers ≠ []) :
    classify (locateFrom (number :: numbers) base reader) =
      continueIn (fun found => classify (locateFrom numbers (base + found.bytes.offset)
        { message := found.bytes.of reader.message })) (classify (reader.last number)) := by
  rw [locateFrom]
  cases reader.last number with
  | ok found =>
    show classify (if numbers = [] then _ else if found.wireType ≠ .lengthDelimited then _ else _) =
      if found.wireType = .lengthDelimited then _ else _
    rw [if_neg hnumbers]
    by_cases htype : found.wireType = .lengthDelimited
    · rw [if_pos htype, if_neg (not_not.mpr htype)]
    · rw [if_neg htype, if_pos htype]
      rfl
  | error e =>
    show classify (.error e) = continueIn _ (classify (.error e))
    obtain h | h := classify_error e
    · rw [h]
      rfl
    · rw [h]
      rfl

theorem field_unique (hdistinct : Distinct messages) (hmessage : message ∈ messages)
    {field field' : ProtoSchemaField} (h : field ∈ message.fields) (h' : field' ∈ message.fields)
    (hname : field.name = field'.name) : field = field' :=
  List.inj_on_of_nodup_map (hdistinct.names message hmessage) h h' hname

theorem message_unique (hdistinct : Distinct messages) {message' : ProtoSchemaMessage}
    (h : message ∈ messages) (h' : message' ∈ messages)
    (hname : message.fullName = message'.fullName) : message = message' :=
  List.inj_on_of_nodup_map hdistinct.fullNames h h' hname

/-- The names descend to what the numbers find. -/
theorem descends_locateFrom (hdistinct : Distinct messages) (hmessage : message ∈ messages)
    (h : Resolves messages message names numbers) :
    Descends messages message names base reader (classify (locateFrom numbers base reader)) := by
  induction h generalizing base reader with
  | @last message field hfield =>
    rw [classify_locateFrom_last]
    exact .last hfield (lastIn_classify (hdistinct.valid message hmessage field hfield))
  | @through message next field names numbers hfield hnext hname hrest ih =>
    obtain ⟨hnames, hnumbers⟩ := hrest.ne_nil
    have hlast : LastIn reader field.number (classify (reader.last field.number)) :=
      lastIn_classify (hdistinct.valid message hmessage field hfield)
    rw [classify_locateFrom_cons hnumbers]
    generalize classify (reader.last field.number) = outcome at hlast ⊢
    cases outcome with
    | absent => exact .absent hfield hnames hlast
    | error => exact .error hfield hnames hlast
    | present found =>
      rw [continueIn]
      by_cases htype : found.wireType = .lengthDelimited
      · rw [if_pos htype]
        exact .through hfield hnames hlast htype hnext hname (ih hnext)
      · rw [if_neg htype]
        exact .blocked hfield hnames hlast htype

/-- They descend to nothing else, since a name has one field and a full name one message. -/
theorem locateFrom_descends (hdistinct : Distinct messages) (hmessage : message ∈ messages)
    (h : Resolves messages message names numbers) {outcome : Located}
    (hdescends : Descends messages message names base reader outcome) :
    classify (locateFrom numbers base reader) = outcome := by
  induction h generalizing base reader outcome with
  | @last message field hfield =>
    generalize hpath : [field.name] = path at hdescends
    obtain ⟨hfield', hlast⟩ | ⟨-, hnames, -⟩ | ⟨-, hnames, -⟩ | ⟨-, hnames, -, -⟩ |
      ⟨-, hnames, -⟩ := hdescends
    · obtain rfl := field_unique hdistinct hmessage hfield hfield' (List.cons.inj hpath).1
      rw [classify_locateFrom_last,
        (last_iff (hdistinct.valid message hmessage field hfield)).mp hlast]
    -- the other ways go on behind the name
    all_goals exact absurd (List.cons.inj hpath).2.symm hnames
  | @through message next field names numbers hfield hnext hname hrest ih =>
    obtain ⟨hnames, hnumbers⟩ := hrest.ne_nil
    rw [classify_locateFrom_cons hnumbers]
    generalize hpath : field.name :: names = path at hdescends
    have hvalid := hdistinct.valid message hmessage field hfield
    cases hdescends with
    | last => exact absurd (List.cons.inj hpath).2 hnames
    | absent hfield' _ hlast =>
      obtain rfl := field_unique hdistinct hmessage hfield hfield' (List.cons.inj hpath).1
      rw [(last_iff hvalid).mp hlast]
      rfl
    | error hfield' _ hlast =>
      obtain rfl := field_unique hdistinct hmessage hfield hfield' (List.cons.inj hpath).1
      rw [(last_iff hvalid).mp hlast]
      rfl
    | blocked hfield' _ hlast htype =>
      obtain rfl := field_unique hdistinct hmessage hfield hfield' (List.cons.inj hpath).1
      rw [(last_iff hvalid).mp hlast, continueIn, if_neg htype]
    | through hfield' _ hlast htype hnext' hname' hmore =>
      obtain rfl := field_unique hdistinct hmessage hfield hfield' (List.cons.inj hpath).1
      obtain rfl := message_unique hdistinct hnext hnext' (hname.trans hname'.symm)
      obtain rfl := (List.cons.inj hpath).2
      rw [(last_iff hvalid).mp hlast, continueIn, if_pos htype]
      exact ih hnext hmore

theorem descends_iff (hdistinct : Distinct messages) (hmessage : message ∈ messages)
    (h : Resolves messages message names numbers) {outcome : Located} :
    Descends messages message names base reader outcome ↔
      classify (locateFrom numbers base reader) = outcome := by
  constructor
  · intro hdescends
    exact locateFrom_descends hdistinct hmessage h hdescends
  · rintro rfl
    exact descends_locateFrom hdistinct hmessage h

end Descent

/-! ## Accepted descriptor sets -/

theorem findRoot_ok {messages : List ProtoSchemaMessage} {rootType : Bytes} {index : Nat}
    (h : findRoot messages rootType = .ok index) :
    messageAt messages index ∈ messages ∧ IsRoot messages rootType (messageAt messages index) := by
  unfold findRoot at h
  unfold IsRoot
  by_cases hroot : rootType = []
  · rw [if_pos hroot] at h ⊢
    split at h
    · rename_i root found hfilter
      obtain rfl := Except.ok.inj h
      have hmem : (root, found) ∈ messages.zipIdx :=
        List.mem_of_mem_filter (p := fun indexed => indexed.1.topLevel)
          (by rw [hfilter]; exact List.mem_singleton_self _)
      have hat : messages[found]? = some root := List.mem_zipIdx_iff_getElem?.mp hmem
      have heq : messageAt messages found = root := by
        rw [messageAt, List.getD_eq_getElem?_getD, hat, Option.getD_some]
      rw [heq]
      refine ⟨List.mem_of_getElem? hat, ?_⟩
      calc
        messages.filter (·.topLevel) = (messages.zipIdx.map (·.1)).filter (·.topLevel) := by
          rw [List.zipIdx_map_fst]
        _ = (messages.zipIdx.filter fun indexed => indexed.1.topLevel).map (·.1) := List.filter_map
        _ = [root] := by rw [hfilter, List.map_singleton]
    · exact nomatch h
  · rw [if_neg hroot] at h ⊢
    obtain ⟨hmem, hname⟩ := findMessage_ok h
    exact ⟨hmem, hmem, hname⟩

/-- Paths begin in one message. -/
theorem isRoot_unique {messages : List ProtoSchemaMessage} (hdistinct : Distinct messages)
    {rootType : Bytes} {root root' : ProtoSchemaMessage} (h : IsRoot messages rootType root)
    (h' : IsRoot messages rootType root') : root = root' := by
  unfold IsRoot at h h'
  by_cases hroot : rootType = []
  · rw [if_pos hroot] at h h'
    rw [h] at h'
    exact (List.cons.inj h').1
  · rw [if_neg hroot] at h h'
    exact message_unique hdistinct h.1 h'.1 (h.2.trans h'.2.symm)

/-- A plan holds what its paths compile to, one behind the other. -/
theorem locate_requests {schema : Schema} {paths : List Bytes} {plan plan' : ProtoTraversalPlan}
    (h : paths.foldlM (addPath schema) plan = .ok plan') :
    ∃ requests, plan'.requested = plan.requested ++ requests ∧
      List.Forall₂ (fun path request => compilePath schema path = .ok request) paths requests := by
  induction paths generalizing plan with
  | nil =>
    rw [List.foldlM_nil] at h
    rw [← Except.ok.inj h]
    exact ⟨[], (List.append_nil _).symm, .nil⟩
  | cons path paths ih =>
    rw [List.foldlM_cons] at h
    obtain ⟨next, hnext, hrest⟩ := bind_ok h
    obtain ⟨request, hrequest, hadd⟩ := bind_ok hnext
    split at hadd
    · exact nomatch hadd
    · rw [← Except.ok.inj hadd] at hrest
      obtain ⟨requests, heq, hrequests⟩ := ih hrest
      refine ⟨request :: requests, ?_, .cons hrequest hrequests⟩
      rw [heq, List.append_assoc, List.singleton_append]

theorem compilePath_ok {schema : Schema} {path : Bytes} {request : ProtoRequestedField}
    (h : compilePath schema path = .ok request) :
    compileNumbers schema.messages (path.splitOn dot) schema.rootIndex [] =
      .ok request.numbers := by
  unfold compilePath at h
  split at h
  · exact nomatch h
  · obtain ⟨numbers, hnumbers, h⟩ := bind_ok h
    rw [← Except.ok.inj h]
    exact hnumbers

/-- A path that was compiled, looked up in a message. -/
theorem locate_descends {descriptorSet rootType : Bytes} {schema : Schema}
    (hparse : parse descriptorSet rootType = .ok schema) {root : ProtoSchemaMessage}
    (hroot : IsRoot schema.messages rootType root) {paths : List Bytes} {plan : ProtoTraversalPlan}
    (hplan : locate schema paths = .ok plan) {index : Nat} {path : Bytes}
    (hpath : paths[index]? = some path) (reader : ProtoReader) (outcome : Located) :
    Descends schema.messages root (path.splitOn dot) 0 reader outcome ↔
      classify (plan.locate reader index) = outcome := by
  have hdistinct := parse_distinct hparse
  obtain ⟨-, -, -, hfound⟩ := parse_ok hparse
  obtain ⟨hmem, hindex⟩ := findRoot_ok hfound
  obtain rfl := isRoot_unique hdistinct hindex hroot
  obtain ⟨plan', hplan', hdone⟩ := bind_ok hplan
  split at hdone
  · exact nomatch hdone
  · obtain rfl := Except.ok.inj hdone
    obtain ⟨requests, hrequested, heach⟩ := locate_requests hplan'
    -- the id is the place of the path
    obtain ⟨hlt, rfl⟩ := List.getElem?_eq_some_iff.mp hpath
    have hlength := heach.length_eq
    have hrequest := (List.forall₂_iff_get.mp heach).2 index hlt (hlength ▸ hlt)
    have hcompiled := compilePath_ok hrequest
    obtain ⟨numbers, hnumbers, hresolves⟩ := compileNumbers_resolves hcompiled
    rw [List.nil_append] at hnumbers
    rw [← hnumbers] at hresolves
    have hshort := compileNumbers_length (by decide) hcompiled
    have hat : plan'.requested[index]? = some (requests.get ⟨index, hlength ▸ hlt⟩) := by
      rw [hrequested]
      exact List.getElem?_eq_getElem (hlength ▸ hlt)
    unfold ProtoTraversalPlan.locate
    rw [hat]
    show _ ↔ classify (if _ then _ else _) = outcome
    rw [if_neg (Nat.not_lt.mpr hshort)]
    exact descends_iff hdistinct hmem hresolves

/-- The table of an accepted descriptor set is what the set declares, its names and numbers
stand once, and a path looked up in any message comes to what descending by its names does. -/
theorem names_resolve {descriptorSet rootType : Bytes} {schema : Schema}
    (hparse : parse descriptorSet rootType = .ok schema) :
    SetDeclares descriptorSet schema.messages ∧
      (schema.messages.map (·.fullName)).Nodup ∧
      (∀ message ∈ schema.messages, (message.fields.map (·.name)).Nodup ∧
        (message.fields.map (·.number)).Nodup) ∧
      ∃ root, IsRoot schema.messages rootType root ∧
        (∀ root', IsRoot schema.messages rootType root' → root' = root) ∧
        ∀ paths plan, locate schema paths = .ok plan →
          ∀ index path, paths[index]? = some path → ∀ reader outcome,
            Descends schema.messages root (path.splitOn dot) 0 reader outcome ↔
              classify (plan.locate reader index) = outcome := by
  have hdistinct := parse_distinct hparse
  obtain ⟨-, -, -, hfound⟩ := parse_ok hparse
  obtain ⟨-, hroot⟩ := findRoot_ok hfound
  refine ⟨parse_declares hparse, hdistinct.fullNames,
    fun message hmem => ⟨hdistinct.names message hmem, hdistinct.numbers message hmem⟩,
    _, hroot, fun root' hroot' => isRoot_unique hdistinct hroot' hroot, ?_⟩
  intro paths plan hplan index path hpath reader outcome
  exact locate_descends hparse hroot hplan hpath reader outcome

/-- A set of one file with one message `M`, which has one field `a`; a payload with two
occurrences of it. -/
theorem names_resolve_last :
    parse [0x0A, 0x10, 0x22, 0x0E, 0x0A, 0x01, 0x4D, 0x12, 0x09, 0x0A, 0x01, 0x61, 0x18, 0x01,
      0x20, 0x01, 0x28, 0x05] [] =
        .ok { messages := [⟨[0x4D], [⟨[0x61], 1, 5, [], false⟩], true⟩], rootIndex := 0 } ∧
      Descends [⟨[0x4D], [⟨[0x61], 1, 5, [], false⟩], true⟩]
        ⟨[0x4D], [⟨[0x61], 1, 5, [], false⟩], true⟩ [[0x61]] 0
        { message := [0x08, 0x07, 0x08, 0x09] } (.present { number := 1, integer := 9 }) := by
  have hparse : parse [0x0A, 0x10, 0x22, 0x0E, 0x0A, 0x01, 0x4D, 0x12, 0x09, 0x0A, 0x01, 0x61,
      0x18, 0x01, 0x20, 0x01, 0x28, 0x05] [] =
        .ok { messages := [⟨[0x4D], [⟨[0x61], 1, 5, [], false⟩], true⟩], rootIndex := 0 } := by
    decide +kernel
  obtain ⟨-, -, -, root, -, hunique, hresolves⟩ := names_resolve hparse
  have hroot := hunique ⟨[0x4D], [⟨[0x61], 1, 5, [], false⟩], true⟩ (by
    unfold IsRoot
    decide)
  rw [← hroot] at hresolves
  exact ⟨hparse, (hresolves [[0x61]] ⟨[⟨[0x61], [1]⟩]⟩ (by decide) 0 [0x61] rfl _ _).mpr
    (by decide)⟩

end PlotJugglerSdk.ParserModule.ProtoFieldLocator
