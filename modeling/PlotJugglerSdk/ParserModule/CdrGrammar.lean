import Mathlib.Algebra.Ring.Nat
import Mathlib.Data.List.GetD
import Mathlib.Logic.Relation
import PlotJugglerSdk.Lexing.Trim
import PlotJugglerSdk.ParserModule.CdrSchema
import PlotJugglerSdk.Scan.Folds

/-!
# What a line of a schema stands for

By the grammar of the message files a line declares a constant when the first thing behind
the name is an `=`, and otherwise a field, with or without a default value. The compiler
takes it for a constant when there is an `=` anywhere behind the name.

* `meaning`          — a line by the grammar
* `HidesEquals`      — the lines on which the two differ
* `Respelled`        — a schema with other defaults, comments and blanks
* `schema_text_iff`  — the compiler sees through these unless a default hides an `=`
-/

namespace PlotJugglerSdk.ParserModule.CdrFieldLocator

open Lexing Scan

/-! ## The grammar -/

/-- A declaration in its parts: the type, the name, and what comes behind the name. -/
def declared (line : Text) : Option (Text × Text × Text) :=
  let line := strip line
  if line = [] ∨ "===".toList.isPrefixOf line ∨ "---".toList.isPrefixOf line ∨
      "MSG:".toList.isPrefixOf line then none
  else
    match line.findIdx? isBlank with
    | none => none
    | some split =>
      let remainder := trim (line.drop (split + 1))
      let fieldName := remainder.takeWhile fun c => !isBlank c && c != '='
      if fieldName = [] then none
      else some (line.take split, fieldName, (remainder.drop fieldName.length).dropWhile isBlank)

/-- The first thing behind the name is an `=`. -/
def IsConstant (line : Text) : Prop :=
  ∃ type name behind, declared line = some (type, name, behind) ∧ behind.head? = some '='

/-- A field whose default value has an `=` in it. -/
def HidesEquals (line : Text) : Prop :=
  ∃ type name behind, declared line = some (type, name, behind) ∧ behind.head? ≠ some '=' ∧
    '=' ∈ behind

/-- A line by the grammar: as the compiler takes it, but for the declarations. -/
def meaning (line : Text) : SchemaLine :=
  match declared line with
  | none => readLine line
  | some (type, name, behind) => if behind.head? = some '=' then .constant else .field type name

/-! ## Respelling -/

/-- A word of a line. -/
def IsToken (text : Text) : Prop := text ≠ [] ∧ ∀ c ∈ text, isSpace c = false ∧ c ≠ '#'

def AllBlank (text : Text) : Prop := ∀ c ∈ text, isBlank c = true

def AllSpace (text : Text) : Prop := ∀ c ∈ text, isSpace c = true

instance (text : Text) : Decidable (IsToken text) :=
  @instDecidableAnd _ _ _ (List.decidableBAll (fun c => isSpace c = false ∧ c ≠ '#') text)

instance (text : Text) : Decidable (AllBlank text) :=
  List.decidableBAll (fun c => isBlank c = true) text

instance (text : Text) : Decidable (AllSpace text) :=
  List.decidableBAll (fun c => isSpace c = true) text

/-- The two words a declaration begins with. -/
structure IsDeclaration (type name : Text) : Prop where
  typeToken : IsToken type
  nameToken : IsToken name
  plain : '=' ∉ name
  ordinary : ¬ "===".toList <+: type ∧ ¬ "---".toList <+: type ∧ ¬ "MSG:".toList <+: type

/-- What may stand behind the name of a field: nothing, or a default value. -/
def IsDefault (tail : Text) : Prop :=
  AllBlank tail ∨ ∃ blanks value, tail = blanks ++ value ∧ blanks ≠ [] ∧ AllBlank blanks ∧
    ∀ c, value.head? = some c → isBlank c = false ∧ c ≠ '='

/-- One edit of a line. A default value is given, changed or taken away; the spaces between
the words become others; a comment is appended. -/
inductive LineEdit : Text → Text → Prop where
  | field {lead type gap gap' name tail tail' : Text} (hlead : AllSpace lead)
      (h : IsDeclaration type name) (hgap : AllBlank gap ∧ gap ≠ [])
        (hgap' : AllBlank gap' ∧ gap' ≠ [])
      (htail : IsDefault tail) (htail' : IsDefault tail') :
      LineEdit (lead ++ type ++ gap ++ name ++ tail) (lead ++ type ++ gap' ++ name ++ tail')
  | constant {lead type gap gap' name blanks blanks' value value' : Text} (hlead : AllSpace lead)
      (h : IsDeclaration type name) (hgap : AllBlank gap ∧ gap ≠ [])
        (hgap' : AllBlank gap' ∧ gap' ≠ [])
      (hblanks : AllBlank blanks) (hblanks' : AllBlank blanks') :
      LineEdit (lead ++ type ++ gap ++ name ++ (blanks ++ '=' :: value))
        (lead ++ type ++ gap' ++ name ++ (blanks' ++ '=' :: value'))
  | message {lead blanks blanks' name : Text} (hlead : AllSpace lead) (hblanks : AllBlank blanks)
      (hblanks' : AllBlank blanks') :
      LineEdit (lead ++ "MSG:".toList ++ (blanks ++ name))
        (lead ++ "MSG:".toList ++ (blanks' ++ name))
  | comment (line comment : Text) : LineEdit line (line ++ '#' :: comment)

/-- The lines of a schema after any edits of each, and with blank lines added. -/
inductive Respelled : List Text → List Text → Prop where
  | nil : Respelled [] []
  | line {line line' : Text} {lines lines' : List Text}
    (h : Relation.ReflTransGen LineEdit line line')
      (hlines : Respelled lines lines') : Respelled (line :: lines) (line' :: lines')
  | blank {blank : Text} {lines lines' : List Text} (h : AllSpace blank)
      (hlines : Respelled lines lines') : Respelled lines (blank :: lines')

/-! ## Lines in their parts -/

theorem trim_eq (text : Text) : trim text = trimmed isSpace text := rfl

theorem isSpace_of_isBlank {c : Char} (h : isBlank c = true) : isSpace c = true := by
  unfold isBlank at h
  unfold isSpace
  simp only [Bool.or_eq_true] at h ⊢
  obtain hspace | htab := h
  · simp [hspace]
  · simp [htab]

theorem AllBlank.allSpace {text : Text} (h : AllBlank text) : AllSpace text :=
  fun c hc => isSpace_of_isBlank (h c hc)

/-- The carriage return at the end of a line is a space like others. -/
theorem strip_eq (line : Text) : strip line = trimmed isSpace (line.takeWhile (· ≠ '#')) := by
  unfold strip
  dsimp only
  split
  · next hlast =>
    obtain ⟨front, rfl⟩ := List.getLast?_eq_some_iff.mp hlast
    rw [List.dropLast_concat, trim_eq]
    by_cases hhash : '#' ∈ front
    · rw [List.takeWhile_append, if_neg]
      intro hlength
      have hall := List.takeWhile_eq_self_iff.mp
        (List.takeWhile_prefix _ |>.eq_of_length hlength) '#' hhash
      exact absurd hall (by decide)
    · have hfront : ∀ c ∈ front, (decide (c ≠ '#')) = true := by
        intro c hc
        exact decide_eq_true fun h => hhash (h ▸ hc)
      rw [List.takeWhile_append_of_pos hfront, List.takeWhile_eq_self_iff.mpr hfront]
      have hreturn : ['\r'].takeWhile (· ≠ '#') = ['\r'] := rfl
      rw [hreturn, trimmed_append_all_right]
      exact fun c hc => by rw [List.mem_singleton.mp hc]; rfl
  · rfl

theorem strip_comment (line comment : Text) : strip (line ++ '#' :: comment) = strip line := by
  rw [strip_eq, strip_eq, List.takeWhile_append]
  split
  · next hlength =>
    rw [List.takeWhile_cons_of_neg (by decide), List.append_nil,
      List.takeWhile_prefix _ |>.eq_of_length hlength]
  · rfl

theorem strip_blank {line : Text} (h : AllSpace line) : strip line = [] := by
  rw [strip_eq, trimmed_eq_nil_iff]
  exact fun c hc => h c ((List.takeWhile_prefix _).subset hc)

/-- What is kept of the part behind the name. -/
def kept (tail : Text) : Text := (tail.takeWhile (· ≠ '#')).rdropWhile isSpace

theorem IsToken.head {text : Text} (h : IsToken text) {c : Char} (hc : text.head? = some c) :
    isSpace c = false := (h.2 c (List.mem_of_head? hc)).1

theorem strip_declaration {lead type gap name : Text} (tail : Text) (hlead : AllSpace lead)
    (h : IsDeclaration type name) (hgap : AllBlank gap) :
    strip (lead ++ type ++ gap ++ name ++ tail) = type ++ gap ++ name ++ kept tail := by
  -- neither part of a declaration has a comment sign
  have hplain : ∀ c ∈ lead ++ type ++ gap ++ name, (decide (c ≠ '#')) = true := by
    intro c hc
    refine decide_eq_true ?_
    rintro rfl
    simp only [List.mem_append] at hc
    obtain ((hc | hc) | hc) | hc := hc
    · exact absurd (hlead _ hc) (by decide)
    · exact (h.typeToken.2 _ hc).2 rfl
    · exact absurd (hgap _ hc) (by decide)
    · exact (h.nameToken.2 _ hc).2 rfl
  obtain ⟨last, hlast⟩ : ∃ last, name.getLast? = some last :=
    ⟨_, List.getLast?_eq_some_getLast h.nameToken.1⟩
  rw [strip_eq, List.takeWhile_append_of_pos hplain]
  -- the trailing blanks belong to what follows the name
  have hmiddle : (type ++ gap ++ name).getLast? = some last := by
    rw [List.getLast?_append, hlast]
    rfl
  have hhead : ∀ c, (type ++ gap ++ name).head? = some c → ¬ isSpace c = true := by
    intro c hc
    obtain ⟨first, rest, rfl⟩ := List.exists_cons_of_ne_nil h.typeToken.1
    have hfirst := h.typeToken.head rfl
    rw [← Option.some.inj hc, Bool.not_eq_true]
    exact hfirst
  have hshape := trimmed_around hlead hhead hmiddle
    (by rw [Bool.not_eq_true]; exact (h.nameToken.2 last (List.mem_of_getLast? hlast)).1)
    (tail.takeWhile (· ≠ '#'))
  unfold kept
  simpa only [List.append_assoc] using hshape

/-- A word with blanks behind it begins with a pattern when the word does. -/
theorem noBlank_of_all {text : Text} (h : (text.all fun c => !isBlank c) = true) :
    ∀ c ∈ text, isBlank c = false := by
  intro c hc
  have hnot := List.all_eq_true.mp h c hc
  rw [Bool.not_eq_true'] at hnot
  exact hnot

theorem prefix_of_prefix_token {pattern token more : Text}
    (hpattern : ∀ c ∈ pattern, isBlank c = false)
    (hmore : ∀ c, more.head? = some c → isBlank c = true) (hne : more ≠ [])
    (h : pattern <+: token ++ more) : pattern <+: token := by
  obtain hlt | hle := Nat.lt_or_ge token.length pattern.length
  · -- the pattern would reach the blank behind the word
    obtain ⟨c, more, rfl⟩ := List.exists_cons_of_ne_nil hne
    have hc : c ∈ pattern := by
      obtain ⟨rest, hrest⟩ := h
      have hget : (pattern ++ rest)[token.length]? = some c := by
        rw [hrest, List.getElem?_append_right (Nat.le_refl _), Nat.sub_self]
        rfl
      rw [List.getElem?_append_left hlt] at hget
      exact List.mem_of_getElem? hget
    exact absurd (hmore c rfl) (by rw [hpattern c hc]; decide)
  · exact List.prefix_of_prefix_length_le h (List.prefix_append token more) hle

/-- The parts of a line that is written as a declaration. -/
theorem declared_declaration {lead type gap name tail : Text} (hlead : AllSpace lead)
    (h : IsDeclaration type name) (hgap : AllBlank gap ∧ gap ≠ [])
    (htail : ∀ c, (kept tail).head? = some c → isBlank c = true ∨ c = '=') :
    declared (lead ++ type ++ gap ++ name ++ tail) =
      some (type, name, (kept tail).dropWhile isBlank) := by
  obtain ⟨blank, gap, rfl⟩ := List.exists_cons_of_ne_nil hgap.2
  have hblank : isBlank blank = true := hgap.1 blank List.mem_cons_self
  have hline : type ++ blank :: gap ++ name ++ kept tail = type ++
      (blank :: gap ++ name ++ kept tail) := by
    simp only [List.append_assoc, List.cons_append]
  have hstart : ∀ pattern : Text, (∀ c ∈ pattern, isBlank c = false) → ¬ pattern <+: type →
      pattern.isPrefixOf (type ++ (blank :: gap ++ name ++ kept tail)) = false := by
    intro pattern hpattern hnot
    rw [Bool.eq_false_iff]
    intro hbegins
    refine hnot (prefix_of_prefix_token hpattern ?_ (List.cons_ne_nil _ _)
      (List.isPrefixOf_iff_prefix.mp hbegins))
    intro c hc
    rw [← Option.some.inj hc]
    exact hblank
  obtain ⟨hseparator, hservice, hmessage⟩ := h.ordinary
  have htype : type.findIdx? isBlank = none := by
    rw [List.findIdx?_eq_none_iff]
    intro c hc
    rw [← Bool.not_eq_true]
    intro hblankc
    exact absurd (isSpace_of_isBlank hblankc) (by rw [(h.typeToken.2 c hc).1]; decide)
  have hsplit : (type ++ (blank :: gap ++ name ++ kept tail)).findIdx? isBlank =
      some type.length := by
    rw [List.findIdx?_append, htype, List.cons_append, List.cons_append, List.findIdx?_cons,
      if_pos hblank]
    simp
  -- what is left behind the first blank begins with the name
  have hremainder : trim ((type ++ (blank :: gap ++ name ++ kept tail)).drop (type.length + 1)) =
      name ++ kept tail := by
    obtain ⟨last, hlast⟩ : ∃ last, name.getLast? = some last :=
      ⟨_, List.getLast?_eq_some_getLast h.nameToken.1⟩
    rw [List.drop_append, List.drop_eq_nil_of_le (by omega), Nat.add_sub_cancel_left, trim_eq]
    have haround := @trimmed_around _ isSpace gap name
      (fun c hc => isSpace_of_isBlank (hgap.1 c (List.mem_cons_of_mem _ hc)))
      (fun c hc => by rw [h.nameToken.head hc]; decide) last hlast
      (by rw [(h.nameToken.2 last (List.mem_of_getLast? hlast)).1]; decide) (kept tail)
    rw [show (kept tail).rdropWhile isSpace =
      kept tail from List.rdropWhile_idempotent _ _] at haround
    exact haround
  have hname : (name ++ kept tail).takeWhile (fun c => !isBlank c && c != '=') = name := by
    have hplain : ∀ c ∈ name, (!isBlank c && c != '=') = true := by
      intro c hc
      have hspace := (h.nameToken.2 c hc).1
      have hblankc : isBlank c = false := by
        rw [← Bool.not_eq_true]
        intro hblankc
        exact absurd (isSpace_of_isBlank hblankc) (by rw [hspace]; decide)
      have hequals : c ≠ '=' := fun heq => h.plain (heq ▸ hc)
      simp [hblankc, hequals]
    rw [List.takeWhile_append_of_pos hplain]
    cases hkept : kept tail with
    | nil => exact List.append_nil name
    | cons c rest =>
      rw [List.takeWhile_cons_of_neg, List.append_nil]
      obtain hc | rfl := htail c (by rw [hkept]; rfl)
      · simp [hc]
      · simp
  unfold declared
  dsimp only
  rw [strip_declaration tail hlead h hgap.1, hline, if_neg]
  · rw [hsplit]
    dsimp only
    rw [hremainder, hname, if_neg h.nameToken.1, List.take_left, List.drop_left]
  · rintro (hnil | hbegins | hbegins | hbegins)
    · exact h.typeToken.1 (List.append_eq_nil_iff.mp hnil).1
    · rw [hstart _ (noBlank_of_all rfl) hseparator] at hbegins
      exact absurd hbegins (by decide)
    · rw [hstart _ (noBlank_of_all rfl) hservice] at hbegins
      exact absurd hbegins (by decide)
    · rw [hstart _ (noBlank_of_all rfl) hmessage] at hbegins
      exact absurd hbegins (by decide)

/-! ## What an edit keeps -/

theorem kept_blank {tail : Text} (h : AllBlank tail) : kept tail = [] := by
  unfold kept
  rw [List.rdropWhile_eq_nil_iff]
  exact fun c hc => isSpace_of_isBlank (h c ((List.takeWhile_prefix _).subset hc))

theorem kept_append {blanks : Text} (h : AllBlank blanks) (value : Text) :
    kept (blanks ++ value) = if kept value = [] then [] else blanks ++ kept value := by
  have hplain : ∀ c ∈ blanks, (decide (c ≠ '#')) = true := by
    intro c hc
    refine decide_eq_true ?_
    rintro rfl
    exact absurd (h _ hc) (by decide)
  unfold kept
  rw [List.takeWhile_append_of_pos hplain]
  split
  · next hnil =>
    rw [rdropWhile_append_all _ (List.rdropWhile_eq_nil_iff.mp hnil), List.rdropWhile_eq_nil_iff]
    exact h.allSpace
  · next hne => exact rdropWhile_append_of_ne_nil _ hne

theorem kept_constant (value : Text) : ∃ rest, kept ('=' :: value) = '=' :: rest := by
  unfold kept
  rw [List.takeWhile_cons_of_pos (by decide)]
  have h := @rdropWhile_append_of_last _ isSpace [] '=' (by decide) (value.takeWhile (· ≠ '#'))
  exact ⟨_, h⟩

theorem AllBlank.head {blanks : Text} (h : AllBlank blanks) {c : Char}
    (hc : blanks.head? = some c) :
    isBlank c = true := h c (List.mem_of_head? hc)

/-- What is kept of a default value begins with a blank, and behind the blanks not with an
equals sign. -/
theorem IsDefault.kept {tail : Text} (h : IsDefault tail) :
    (∀ c, (kept tail).head? = some c → isBlank c = true ∨ c = '=') ∧
      ((CdrFieldLocator.kept tail).dropWhile isBlank).head? ≠ some '=' := by
  obtain hblank | ⟨blanks, value, rfl, hne, hblanks, hvalue⟩ := h
  · rw [kept_blank hblank]
    exact ⟨fun c hc => (nomatch hc), by decide⟩
  · rw [kept_append hblanks]
    split
    · exact ⟨fun c hc => (nomatch hc), by decide⟩
    · next hkept =>
      have hhead : ∀ c, (CdrFieldLocator.kept value).head? = some c → isBlank c = false ∧
          c ≠ '=' := by
        intro c hc
        refine hvalue c ?_
        rw [← hc]
        refine (head_eq_of_begins ?_ hkept).symm
        exact (List.rdropWhile_prefix _ _).trans (List.takeWhile_prefix _)
      constructor
      · intro c hc
        rw [List.head?_append_of_ne_nil _ hne] at hc
        exact .inl (hblanks.head hc)
      · rw [dropWhile_append_all hblanks, dropWhile_of_head]
        · exact fun hequals => (hhead _ hequals).2 rfl
        · intro c hc
          rw [(hhead c hc).1]
          decide

theorem meaning_field {lead type gap name tail : Text} (hlead : AllSpace lead)
    (h : IsDeclaration type name) (hgap : AllBlank gap ∧ gap ≠ []) (htail : IsDefault tail) :
    meaning (lead ++ type ++ gap ++ name ++ tail) = .field type name := by
  unfold meaning
  rw [declared_declaration hlead h hgap htail.kept.1]
  exact if_neg htail.kept.2

theorem meaning_constant {lead type gap name blanks value : Text} (hlead : AllSpace lead)
    (h : IsDeclaration type name) (hgap : AllBlank gap ∧ gap ≠ []) (hblanks : AllBlank blanks) :
    meaning (lead ++ type ++ gap ++ name ++ (blanks ++ '=' :: value)) = .constant := by
  obtain ⟨rest, hrest⟩ := kept_constant value
  have hkept : kept (blanks ++ '=' :: value) = blanks ++ '=' :: rest := by
    rw [kept_append hblanks, hrest, if_neg (List.cons_ne_nil _ _)]
  unfold meaning
  rw [declared_declaration hlead h hgap, hkept]
  · dsimp only
    rw [dropWhile_append_all hblanks, List.dropWhile_cons_of_neg (by decide)]
    rfl
  · intro c hc
    rw [hkept] at hc
    cases blanks with
    | nil => exact .inr (Option.some.inj hc).symm
    | cons blank blanks => exact .inl (hblanks.head hc)

/-- A line with a type's header reads as that, whatever the blanks in front of the name. -/
theorem meaning_message {lead blanks name : Text} (hlead : AllSpace lead)
    (hblanks : AllBlank blanks) :
    meaning (lead ++ "MSG:".toList ++ (blanks ++ name)) =
      .message (normalizeRosType (trim (name.takeWhile (· ≠ '#')))) := by
  -- the comment starts behind the keyword, if there is one
  have hplain : ∀ c ∈ lead ++ "MSG:".toList, (decide (c ≠ '#')) = true := by
    intro c hc
    refine decide_eq_true ?_
    rintro rfl
    obtain hc | hc := List.mem_append.mp hc
    · exact absurd (hlead _ hc) (by decide)
    · exact absurd hc (by decide)
  have hstrip : strip (lead ++ "MSG:".toList ++ (blanks ++ name)) =
      "MSG:".toList ++ kept (blanks ++ name) := by
    rw [strip_eq, List.takeWhile_append_of_pos hplain]
    exact @trimmed_around _ isSpace lead "MSG:".toList hlead (fun x hx => by
      obtain rfl : 'M' = x := Option.some.inj hx
      decide) ':' rfl (by decide) _
  -- the blanks behind the keyword are trimmed with the name
  have hname : trim (kept (blanks ++ name)) = trim (name.takeWhile (· ≠ '#')) := by
    have hblank : ∀ c ∈ blanks, (decide (c ≠ '#')) = true := by
      intro c hc
      refine decide_eq_true ?_
      rintro rfl
      exact absurd (hblanks _ hc) (by decide)
    rw [trim_eq, trim_eq, kept, trimmed_rdropWhile, List.takeWhile_append_of_pos hblank,
      trimmed_append_all_left hblanks.allSpace]
  have hmessage : "MSG:".toList.isPrefixOf ("MSG:".toList ++ kept (blanks ++ name)) = true :=
    List.isPrefixOf_iff_prefix.mpr (List.prefix_append _ _)
  unfold meaning declared
  dsimp only
  rw [hstrip, if_pos (.inr (.inr (.inr hmessage)))]
  show readLine _ = _
  unfold readLine
  dsimp only
  rw [hstrip, if_neg, if_neg, if_pos hmessage]
  · rw [show ("MSG:".toList ++ kept (blanks ++ name)).drop 4 = kept (blanks ++ name) from rfl,
      hname]
  · exact fun h => Bool.false_ne_true h
  · rintro (h | h)
    · exact absurd (List.append_eq_nil_iff.mp h).1 (by decide)
    · exact Bool.false_ne_true h

theorem meaning_of_strip {line line' : Text} (h : strip line = strip line') :
    meaning line = meaning line' := by
  unfold meaning declared readLine
  rw [h]

theorem LineEdit.meaning {line line' : Text} (h : LineEdit line line') :
    meaning line = CdrFieldLocator.meaning line' := by
  cases h with
  | field hlead h hgap hgap' htail htail' =>
    rw [meaning_field hlead h hgap htail, meaning_field hlead h hgap' htail']
  | constant hlead h hgap hgap' hblanks hblanks' =>
    rw [meaning_constant hlead h hgap hblanks, meaning_constant hlead h hgap' hblanks']
  | message hlead hblanks hblanks' =>
    rw [meaning_message hlead hblanks, meaning_message hlead hblanks']
  | comment text => exact meaning_of_strip (strip_comment line _).symm

theorem meaning_of_edits {line line' : Text} (h : Relation.ReflTransGen LineEdit line line') :
    meaning line = meaning line' := by
  induction h with
  | refl => rfl
  | tail _ hedit ih => exact ih.trans hedit.meaning

theorem meaning_blank {line : Text} (h : AllSpace line) : meaning line = .skipped := by
  unfold meaning declared readLine
  dsimp only
  rw [strip_blank h, if_pos (.inl rfl), if_pos (.inl rfl)]

/-! ## Where the compiler differs -/

/-- The compiler looks for an equals sign in all that comes behind the name. -/
theorem readLine_of_declared {line type name behind : Text}
    (h : declared line = some (type, name, behind)) :
    readLine line = if '=' ∈ behind then .constant else .field type name := by
  unfold declared at h
  dsimp only at h
  split at h
  · exact absurd h (by simp)
  · next hordinary =>
    simp only [not_or] at hordinary
    obtain ⟨hnil, hseparator, hservice, hmessage⟩ := hordinary
    split at h
    · exact absurd h (by simp)
    · next split hsplit =>
      split at h
      · exact absurd h (by simp)
      · next hname =>
        simp only [Option.some.injEq, Prod.mk.injEq] at h
        obtain ⟨rfl, rfl, rfl⟩ := h
        unfold readLine readDeclaration
        dsimp only
        rw [if_neg (not_or.mpr ⟨hnil, hseparator⟩), if_neg hservice, if_neg hmessage, hsplit]
        dsimp only
        rw [if_neg hname]
        -- the name has no equals sign, and the blanks behind it are none
        generalize hremainder : trim ((strip line).drop (split + 1)) = remainder
        have hparts := List.takeWhile_append_dropWhile (p := fun c => !isBlank c && c != '=')
          (l := remainder)
        have hmem : '=' ∈ remainder ↔ '=' ∈ (remainder.drop
            (remainder.takeWhile fun c => !isBlank c && c != '=').length).dropWhile isBlank := by
          rw [mem_dropWhile_iff (by decide), drop_length_takeWhile]
          nth_rewrite 1 [← hparts]
          rw [List.mem_append]
          constructor
          · intro hmem
            refine hmem.resolve_left fun htaken => ?_
            have := List.mem_takeWhile_imp htaken
            simp at this
          · exact .inr
        simp only [hmem]

/-- The lines that are declarations. -/
def SchemaLine.declares : SchemaLine → Bool
  | .constant => true
  | .field .. => true
  | _ => false

theorem declares_readLine (line : Text) : (readLine line).declares = (declared line).isSome := by
  unfold readLine readDeclaration declared
  dsimp only
  by_cases hskipped : strip line = [] ∨ "===".toList.isPrefixOf (strip line)
  · rw [if_pos hskipped, if_pos (hskipped.imp_right .inl)]
    rfl
  · by_cases hservice : "---".toList.isPrefixOf (strip line)
    · rw [if_neg hskipped, if_pos hservice, if_pos (.inr (.inr (.inl hservice)))]
      rfl
    · by_cases hmessage : "MSG:".toList.isPrefixOf (strip line)
      · rw [if_neg hskipped, if_neg hservice, if_pos hmessage, if_pos (.inr (.inr (.inr hmessage)))]
        rfl
      · obtain ⟨hnil, hseparator⟩ := not_or.mp hskipped
        rw [if_neg hskipped, if_neg hservice, if_neg hmessage,
          if_neg (by simp only [not_or]; exact ⟨hnil, hseparator, hservice, hmessage⟩)]
        cases (strip line).findIdx? isBlank with
        | none => rfl
        | some split =>
          dsimp only
          split
          · rfl
          · split <;> rfl

theorem declared_of_declares {line : Text} (h : (readLine line).declares = true) :
    ∃ type name behind, declared line = some (type, name, behind) := by
  rw [declares_readLine] at h
  obtain ⟨⟨type, name, behind⟩, hparts⟩ := Option.isSome_iff_exists.mp h
  exact ⟨type, name, behind, hparts⟩

theorem readLine_eq_meaning_iff (line : Text) :
    readLine line = meaning line ↔ ¬ HidesEquals line := by
  unfold meaning HidesEquals
  cases h : declared line with
  | none => simp
  | some parts =>
    obtain ⟨type, name, behind⟩ := parts
    rw [readLine_of_declared h]
    simp only [Option.some.injEq, Prod.mk.injEq]
    constructor
    · rintro heq ⟨_, _, _, ⟨rfl, rfl, rfl⟩, hfirst, hmem⟩
      rw [if_pos hmem, if_neg hfirst] at heq
      exact SchemaLine.noConfusion heq
    · intro hhides
      by_cases hfirst : behind.head? = some '='
      · rw [if_pos (List.mem_of_head? hfirst), if_pos hfirst]
      · rw [if_neg fun hmem => hhides ⟨type, name, behind, ⟨rfl, rfl, rfl⟩, hfirst, hmem⟩,
          if_neg hfirst]

/-- A line is taken for a constant exactly as the grammar says, unless its default value hides
an equals sign. -/
theorem constant_iff (line : Text) :
    (readLine line = .constant ↔ IsConstant line) ↔ ¬ HidesEquals line := by
  unfold IsConstant HidesEquals
  cases h : declared line with
  -- a line that declares nothing is no constant on either side
  | none =>
    have hnot : readLine line ≠ .constant := by
      intro hconstant
      obtain ⟨type, name, behind, hsome⟩ := declared_of_declares (by rw [hconstant]; rfl)
      rw [h] at hsome
      exact absurd hsome (by simp)
    simp [hnot]
  | some parts =>
    obtain ⟨type, name, behind⟩ := parts
    -- the parser takes any equals sign for a constant, the grammar one right behind the name
    rw [readLine_of_declared h]
    simp only [Option.some.injEq, Prod.mk.injEq]
    constructor
    · rintro hiff ⟨_, _, _, ⟨rfl, rfl, rfl⟩, hfirst, hmem⟩
      rw [if_pos hmem] at hiff
      obtain ⟨_, _, _, ⟨-, -, rfl⟩, hequals⟩ := hiff.mp rfl
      exact hfirst hequals
    · intro hhides
      constructor
      · intro hconstant
        have hmem : '=' ∈ behind := by
          by_contra hnot
          rw [if_neg hnot] at hconstant
          exact SchemaLine.noConfusion hconstant
        refine ⟨type, name, behind, ⟨rfl, rfl, rfl⟩, ?_⟩
        by_contra hfirst
        exact hhides ⟨type, name, behind, ⟨rfl, rfl, rfl⟩, hfirst, hmem⟩
      · rintro ⟨_, _, _, ⟨rfl, rfl, rfl⟩, hequals⟩
        rw [if_pos (List.mem_of_head? hequals)]

/-- A line that is taken for a field is no constant. -/
theorem not_isConstant_of_field {line type name : Text} (h : readLine line = .field type name) :
    ¬ IsConstant line := by
  rintro ⟨type', name', behind, hparts, hequals⟩
  rw [readLine_of_declared hparts, if_pos (List.mem_of_head? hequals)] at h
  exact SchemaLine.noConfusion h

/-! ## Whole schemas -/

/-- The lines that add a field. -/
def SchemaLine.isField : SchemaLine → Bool
  | .field .. => true
  | _ => false

def fieldCount (structs : List CdrSchemaStruct) : Nat :=
  (structs.map fun structure_ => structure_.fields.length).sum

theorem fieldCount_set {structs : List CdrSchemaStruct} {index : Nat} (h : index < structs.length)
    (structure_ : CdrSchemaStruct) :
    fieldCount (structs.set index structure_) + structs[index].fields.length =
      fieldCount structs + structure_.fields.length := by
  have hparts : ∀ other, fieldCount (structs.set index other) =
      fieldCount (structs.take index) + other.fields.length + fieldCount
        (structs.drop (index + 1)) := by
    intro other
    rw [List.set_eq_take_append_cons_drop, if_pos h]
    unfold fieldCount
    rw [List.map_append, List.map_cons, List.sum_append, List.sum_cons, Nat.add_assoc]
  have hsame := hparts structs[index]
  rw [List.set_getElem_self h] at hsame
  rw [hparts structure_, hsame]
  omega

/-- Fields are added to a struct that is there. -/
def SchemaTable.Fits (table : SchemaTable) : Prop := table.current < table.structs.length

theorem addLine_count {table table' : SchemaTable} {line : SchemaLine} (hfits : table.Fits)
    (h : addLine table line = .ok table') :
    table'.Fits ∧ fieldCount table'.structs =
      fieldCount table.structs + if line.isField then 1 else 0 := by
  cases line with
  | skipped =>
    obtain rfl := Except.ok.inj h
    exact ⟨hfits, rfl⟩
  | constant =>
    obtain rfl := Except.ok.inj h
    exact ⟨hfits, rfl⟩
  | service => exact nomatch h
  | malformed => exact nomatch h
  | nameless => exact nomatch h
  | message name =>
    unfold addLine addMessage at h
    dsimp only at h
    split at h
    · exact nomatch h
    · split at h
      · -- a message before any field names the first struct
        next hfirst =>
        obtain rfl := Except.ok.inj h
        rw [hfirst]
        exact ⟨Nat.zero_lt_one, rfl⟩
      · split at h
        · exact nomatch h
        · obtain rfl := Except.ok.inj h
          refine ⟨?_, ?_⟩
          · unfold SchemaTable.Fits
            simp
          · simp [fieldCount, SchemaLine.isField]
  | field typeSpelling name =>
    unfold addLine addField at h
    obtain ⟨type, -, h⟩ := bind_eq_ok.mp h
    dsimp only at h
    split at h
    · exact nomatch h
    · obtain rfl := Except.ok.inj h
      refine ⟨?_, ?_⟩
      · unfold SchemaTable.Fits
        rw [List.length_set]
        exact hfits
      · unfold SchemaTable.Fits at hfits
        dsimp only
        rw [List.getD_eq_getElem _ _ hfits]
        -- the current struct has one field more, the others are as they were
        have hset := fieldCount_set hfits
          ⟨table.structs[table.current].name, table.structs[table.current].fields ++ [⟨name, type⟩]⟩
        dsimp only at hset
        rw [List.length_append, List.length_singleton] at hset
        show fieldCount _ = fieldCount table.structs + 1
        omega

/-- The lines of a schema, added one by one. -/
def addLines (table : SchemaTable) (lines : List Text) : Except String SchemaTable :=
  lines.foldlM (fun table line => addLine table (readLine line)) table

theorem addLines_count {table table' : SchemaTable} {lines : List Text} (hfits : table.Fits)
    (h : addLines table lines = .ok table') :
    fieldCount table'.structs =
      fieldCount table.structs + lines.countP fun line => (readLine line).isField := by
  induction lines generalizing table with
  | nil =>
    obtain rfl := Except.ok.inj h
    rfl
  | cons line lines ih =>
    unfold addLines at h
    rw [List.foldlM_cons] at h
    obtain ⟨next, hnext, hrest⟩ := bind_eq_ok.mp h
    obtain ⟨hfits', hcount⟩ := addLine_count hfits hnext
    rw [ih hfits' hrest, hcount, List.countP_cons]
    omega

/-- A link changes an index and nothing else. -/
theorem linkField_name {structs : List CdrSchemaStruct} {field linked : CdrSchemaField}
    (h : linkField structs field = .ok linked) : linked.name = field.name := by
  unfold linkField at h
  split at h
  · rw [← Except.ok.inj h]
  · obtain ⟨index, -, h⟩ := bind_eq_ok.mp h
    rw [← Except.ok.inj h]

theorem linkStruct_fields {structs : List CdrSchemaStruct} {structure_ linked : CdrSchemaStruct}
    (h : linkStruct structs structure_ = .ok linked) :
    List.Forall₂ (fun field field' => linkField structs field = .ok field') structure_.fields
      linked.fields := by
  unfold linkStruct at h
  obtain ⟨fields, hfields, h⟩ := bind_eq_ok.mp h
  rw [← Except.ok.inj h]
  exact mapM_ok_iff.mp hfields

theorem linkStructs_count {structs unlinked linked : List CdrSchemaStruct}
    (h : List.Forall₂ (fun structure_ structure' => linkStruct structs structure_ = .ok structure')
      unlinked linked) : fieldCount linked = fieldCount unlinked := by
  induction h with
  | nil => rfl
  | cons hone _ ih =>
    have hlength := (linkStruct_fields hone).length_eq
    unfold fieldCount at ih ⊢
    rw [List.map_cons, List.map_cons, List.sum_cons, List.sum_cons, ih, hlength]

/-- What a table that is accepted was made in: the lines were added, and the references
linked. -/
theorem parse_ok {schema : Text} {structs : List CdrSchemaStruct} (h : parse schema = .ok structs) :
    ∃ table, addLines {} (schema.splitOn '\n') = .ok table ∧
      List.Forall₂
        (fun structure_ structure' => linkStruct table.structs structure_ = .ok structure')
        table.structs structs ∧
      ∃ visitState, validateStructs structs = .ok visitState := by
  unfold parse at h
  split at h
  · exact nomatch h
  · obtain ⟨read, hread, h⟩ := bind_eq_ok.mp h
    obtain ⟨table, htable, hread⟩ := bind_eq_ok.mp hread
    obtain rfl := Except.ok.inj hread
    split at h
    · exact nomatch h
    · obtain ⟨linked, hlinked, h⟩ := bind_eq_ok.mp h
      obtain ⟨visitState, hvisit, h⟩ := bind_eq_ok.mp h
      obtain rfl := Except.ok.inj h
      exact ⟨table, htable, mapM_ok_iff.mp hlinked, visitState, hvisit⟩

/-- The struct table has as many fields as the schema has lines that are taken for one. -/
theorem parse_count {schema : Text} {structs : List CdrSchemaStruct}
    (h : parse schema = .ok structs) :
    fieldCount structs = (schema.splitOn '\n').countP fun line => (readLine line).isField := by
  obtain ⟨table, htable, hlinked, -⟩ := parse_ok h
  have hfits : ({} : SchemaTable).Fits := Nat.zero_lt_one
  have hnone : fieldCount ({} : SchemaTable).structs = 0 := rfl
  rw [linkStructs_count hlinked, addLines_count hfits htable, hnone, Nat.zero_add]

/-- Every field of the table is one that a line declares. -/
def FromLines (lines : List Text) (structs : List CdrSchemaStruct) : Prop :=
  ∀ structure_ ∈ structs, ∀ field ∈ structure_.fields,
    ∃ line ∈ lines, ∃ typeSpelling, readLine line = .field typeSpelling field.name

theorem addLine_fromLines {lines : List Text} {table table' : SchemaTable} {line : Text}
    (hline : line ∈ lines) (hfrom : FromLines lines table.structs)
    (h : addLine table (readLine line) = .ok table') : FromLines lines table'.structs := by
  cases hread : readLine line with
  | skipped =>
    rw [hread] at h
    exact Except.ok.inj h ▸ hfrom
  | constant =>
    rw [hread] at h
    exact Except.ok.inj h ▸ hfrom
  | service => rw [hread] at h; exact nomatch h
  | malformed => rw [hread] at h; exact nomatch h
  | nameless => rw [hread] at h; exact nomatch h
  | message name =>
    rw [hread] at h
    unfold addLine addMessage at h
    dsimp only at h
    split at h
    · exact nomatch h
    · split at h
      · obtain rfl := Except.ok.inj h
        intro structure_ hmem field hfield
        rw [List.mem_singleton.mp hmem] at hfield
        exact nomatch hfield
      · split at h
        · exact nomatch h
        · obtain rfl := Except.ok.inj h
          intro structure_ hmem field hfield
          obtain hmem | hmem := List.mem_append.mp hmem
          · exact hfrom structure_ hmem field hfield
          · rw [List.mem_singleton.mp hmem] at hfield
            exact nomatch hfield
  | field typeSpelling name =>
    rw [hread] at h
    unfold addLine addField at h
    obtain ⟨type, -, h⟩ := bind_eq_ok.mp h
    dsimp only at h
    split at h
    · exact nomatch h
    · obtain rfl := Except.ok.inj h
      intro structure_ hmem field hfield
      obtain hmem | rfl := List.mem_or_eq_of_mem_set hmem
      · exact hfrom structure_ hmem field hfield
      · obtain hfield | hfield := List.mem_append.mp hfield
        · -- a field that the struct had before
          obtain hlt | hge := Nat.lt_or_ge table.current table.structs.length
          · rw [List.getD_eq_getElem _ _ hlt] at hfield
            exact hfrom _ (List.getElem_mem hlt) field hfield
          · rw [List.getD_eq_default _ _ hge] at hfield
            exact nomatch hfield
        · rw [List.mem_singleton.mp hfield]
          exact ⟨line, hline, typeSpelling, hread⟩

theorem addLines_fromLines {lines : List Text} {table : SchemaTable}
    (h : addLines {} lines = .ok table) : FromLines lines table.structs := by
  refine foldlM_invariant (fun table : SchemaTable => FromLines lines table.structs) ?_ ?_ h
  · intro line hline table table' hfrom hadd
    exact addLine_fromLines hline hfrom hadd
  · intro structure_ hmem field hfield
    rw [List.mem_singleton.mp hmem] at hfield
    exact nomatch hfield

/-- No field of the table comes from a constant. -/
theorem parse_fields {schema : Text} {structs : List CdrSchemaStruct}
    (h : parse schema = .ok structs) :
    ∀ structure_ ∈ structs, ∀ field ∈ structure_.fields, ∃ line ∈ schema.splitOn '\n',
      ∃ typeSpelling, readLine line = .field typeSpelling field.name ∧ ¬ IsConstant line := by
  obtain ⟨table, htable, hlinked, -⟩ := parse_ok h
  have hfrom := addLines_fromLines htable
  intro structure' hmem field' hfield'
  obtain ⟨structure_, hstructure, hlink⟩ := exists_of_forall₂_right hlinked hmem
  obtain ⟨field, hfield, hname⟩ := exists_of_forall₂_right (linkStruct_fields hlink) hfield'
  obtain ⟨line, hline, typeSpelling, hread⟩ := hfrom structure_ hstructure field hfield
  rw [← linkField_name hname] at hread
  exact ⟨line, hline, typeSpelling, hread, not_isConstant_of_field hread⟩

/-! ## Respelled schemas -/

theorem Respelled.count {lines lines' : List Text} (h : Respelled lines lines') :
    (lines.countP fun line => (meaning line).isField) =
      lines'.countP fun line => (meaning line).isField := by
  induction h with
  | nil => rfl
  | line hedits _ ih =>
    rw [List.countP_cons, List.countP_cons, ih, meaning_of_edits hedits]
  | blank hblank _ ih =>
    have hskipped := meaning_blank hblank
    rw [List.countP_cons, ih, hskipped]
    rfl

/-- Without hidden signs, the lines of a respelled schema do what those of the schema do. -/
theorem Respelled.addLines {lines lines' : List Text} (h : Respelled lines lines')
    (hplain : ∀ line ∈ lines, ¬ HidesEquals line) (hplain' : ∀ line ∈ lines', ¬ HidesEquals line)
    (table : SchemaTable) : addLines table lines' = CdrFieldLocator.addLines table lines := by
  induction h generalizing table with
  | nil => rfl
  | @line line line' lines lines' hedits _ ih =>
    have hread : readLine line' = readLine line := by
      rw [(readLine_eq_meaning_iff line').mpr (hplain' line' List.mem_cons_self),
        (readLine_eq_meaning_iff line).mpr (hplain line List.mem_cons_self)]
      exact (meaning_of_edits hedits).symm
    unfold CdrFieldLocator.addLines at ih ⊢
    rw [List.foldlM_cons, List.foldlM_cons, hread]
    cases addLine table (readLine line) with
    | error e => rfl
    | ok next =>
      exact ih (fun other hother => hplain other (List.mem_cons_of_mem _ hother))
        (fun other hother => hplain' other (List.mem_cons_of_mem _ hother)) next
  | @blank blank lines lines' hblank _ ih =>
    have hread : readLine blank = .skipped := by
      rw [(readLine_eq_meaning_iff blank).mpr (hplain' blank List.mem_cons_self)]
      exact meaning_blank hblank
    unfold CdrFieldLocator.addLines at ih ⊢
    rw [List.foldlM_cons, hread]
    exact ih hplain (fun other hother => hplain' other (List.mem_cons_of_mem _ hother)) table

theorem parse_congr {schema schema' : Text} (hne : schema ≠ []) (hne' : schema' ≠ [])
    (h : addLines {} (schema'.splitOn '\n') = addLines {} (schema.splitOn '\n')) :
    parse schema' = parse schema := by
  have hread : readStructs schema' = readStructs schema := by
    show (addLines {} (schema'.splitOn '\n') >>= fun table => pure table.structs) =
      addLines {} (schema.splitOn '\n') >>= fun table => pure table.structs
    rw [h]
  unfold parse
  rw [if_neg hne, if_neg hne', hread]

/-- A line that hides a sign is a field by the grammar, and is left out by the compiler. -/
theorem isField_of_hides {line : Text} (h : HidesEquals line) :
    (meaning line).isField = true ∧ (readLine line).isField = false := by
  obtain ⟨type, name, behind, hparts, hfirst, hmem⟩ := h
  have hmeaning : meaning line = .field type name := by
    unfold meaning
    rw [hparts]
    exact if_neg hfirst
  rw [hmeaning, readLine_of_declared hparts, if_pos hmem]
  exact ⟨rfl, rfl⟩

theorem isField_readLine_imp {line : Text} (h : (readLine line).isField = true) :
    (meaning line).isField = true := by
  have hplain : ¬ HidesEquals line := by
    intro hhides
    rw [(isField_of_hides hhides).2] at h
    exact Bool.false_ne_true h
  rw [← (readLine_eq_meaning_iff line).mpr hplain]
  exact h

theorem count_of_plain {lines : List Text} (h : ∀ line ∈ lines, ¬ HidesEquals line) :
    (lines.countP fun line => (readLine line).isField) =
      lines.countP fun line => (meaning line).isField := by
  apply List.countP_congr
  intro line hline
  rw [(readLine_eq_meaning_iff line).mpr (h line hline)]

/-- A table that is accepted has a field, so a schema of it has a line for one. -/
theorem fieldCount_pos {schema : Text} {structs : List CdrSchemaStruct}
    (h : parse schema = .ok structs) :
    0 < fieldCount structs := by
  have hcount := parse_count h
  obtain ⟨table, htable, hlinked, -⟩ := parse_ok h
  rw [linkStructs_count hlinked]
  unfold parse at h
  split at h
  · exact nomatch h
  · obtain ⟨read, hread, h⟩ := bind_eq_ok.mp h
    obtain ⟨table', htable', hread⟩ := bind_eq_ok.mp hread
    obtain rfl := Except.ok.inj (htable.symm.trans htable')
    obtain rfl := Except.ok.inj hread
    split at h
    · exact nomatch h
    · next hfields =>
      unfold structAt at hfields
      cases hstructs : table.structs with
      | nil =>
        rw [hstructs] at hfields
        exact absurd rfl hfields
      | cons root more =>
        rw [hstructs] at hfields
        have hroot : root.fields ≠ [] := hfields
        have hpos := List.length_pos_iff.mpr hroot
        unfold fieldCount
        rw [List.map_cons, List.sum_cons]
        omega

/-- The three parts of what the compiler makes of a message text: which lines are constants to
it, where the fields come from, and which respellings it sees through. -/
theorem schema_text_iff (line schema schema' : Text) (structs : List CdrSchemaStruct) :
    ((readLine line = .constant ↔ IsConstant line) ↔ ¬ HidesEquals line) ∧
    (parse schema = .ok structs →
      ∀ structure_ ∈ structs, ∀ field ∈ structure_.fields, ∃ line ∈ schema.splitOn '\n',
        ∃ typeSpelling, readLine line = .field typeSpelling field.name ∧ ¬ IsConstant line) ∧
    (parse schema = .ok structs → Respelled (schema.splitOn '\n') (schema'.splitOn '\n') →
      (∀ line ∈ schema.splitOn '\n', ¬ HidesEquals line) →
      (parse schema' = .ok structs ↔ ∀ line ∈ schema'.splitOn '\n', ¬ HidesEquals line)) := by
  refine ⟨constant_iff line, fun hparse => parse_fields hparse, ?_⟩
  intro hparse hrespelled hplain
  have hcount := parse_count hparse
  rw [count_of_plain hplain, hrespelled.count] at hcount
  constructor
  · intro hparse' line hline hhides
    -- the line is left out, and no other one makes up for it
    have hcount' := parse_count hparse'
    have hfield := all_of_countP_eq (fun other _ => isField_readLine_imp)
      (hcount'.symm.trans hcount) line hline (isField_of_hides hhides).1
    rw [(isField_of_hides hhides).2] at hfield
    exact Bool.false_ne_true hfield
  · intro hplain'
    have hne : schema ≠ [] := by
      rintro rfl
      exact nomatch hparse
    have hne' : schema' ≠ [] := by
      rintro rfl
      have hpos := fieldCount_pos hparse
      have hnone : ((([] : Text).splitOn '\n').countP fun line => (meaning line).isField) = 0 := by
        decide
      omega
    rw [parse_congr hne hne' (hrespelled.addLines hplain hplain' {}), hparse]

/-- A string that is given a default value with an equals sign in it. -/
theorem default_hides_field :
    Respelled ["int8 x".toList, "string s".toList] ["int8 x".toList, "string s a=b".toList] ∧
      parse "int8 x\nstring s".toList ≠ parse "int8 x\nstring s a=b".toList := by
  refine ⟨.line .refl (.line (.single ?_) .nil), by decide +kernel⟩
  have hdeclaration : IsDeclaration "string".toList "s".toList :=
    ⟨by decide, by decide, by decide, by decide⟩
  refine @LineEdit.field [] "string".toList [' '] [' '] "s".toList [] " a=b".toList (by decide)
    hdeclaration (by decide) (by decide) (.inl (by decide))
    (.inr ⟨[' '], "a=b".toList, rfl, by decide, by decide, ?_⟩)
  intro c hc
  obtain rfl : 'a' = c := Option.some.inj hc
  decide

end PlotJugglerSdk.ParserModule.CdrFieldLocator
