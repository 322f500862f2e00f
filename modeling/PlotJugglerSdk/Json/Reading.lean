import PlotJugglerSdk.Lexing.Utf8

/-!
# Reading JSON

A reader of JSON texts by their grammar: blanks between tokens, strings with their escapes and
surrogate pairs, arrays and objects with all their members in order. What the digits of a number
mean is left to a parameter.

* `stringBody_spelled` — a string is read as the characters that its text spells
* `parse_objectText`   — an object of texts is read as its members
-/

namespace Json

open Wire Lexing

namespace Reading

def isBlank (c : Char) : Bool := c = ' ' || c = '\t' || c = '\n' || c = '\r'

def skipBlanks (chars : List Char) : List Char := chars.dropWhile isBlank

/-! ## Strings -/

def hexValue (c : Char) : Option Nat :=
  if '0' ≤ c ∧ c ≤ '9' then some (c.toNat - 0x30)
  else if 'a' ≤ c ∧ c ≤ 'f' then some (c.toNat - 0x57)
  else if 'A' ≤ c ∧ c ≤ 'F' then some (c.toNat - 0x37)
  else none

def hexFour : List Char → Option (Nat × List Char)
  | a :: b :: c :: d :: rest => do
    let a ← hexValue a
    let b ← hexValue b
    let c ← hexValue c
    let d ← hexValue d
    some (((a * 16 + b) * 16 + c) * 16 + d, rest)
  | _ => none

/-- The character of `\u` and its digits; one outside the first plane takes a pair of them. -/
def codePoint (chars : List Char) : Option (Char × List Char) := do
  let (code, rest) ← hexFour chars
  if 0xD800 ≤ code ∧ code < 0xDC00 then
    match rest with
    | '\\' :: 'u' :: rest =>
      let (low, rest) ← hexFour rest
      if 0xDC00 ≤ low ∧ low < 0xE000 then
        some (Char.ofNat (0x10000 + (code - 0xD800) * 0x400 + (low - 0xDC00)), rest)
      else none
    | _ => none
  else if 0xDC00 ≤ code ∧ code < 0xE000 then none
  else some (Char.ofNat code, rest)

/-- The character behind a backslash that has a letter. -/
def letterEscape : Char → Option Char
  | '"' => some '"'
  | '\\' => some '\\'
  | '/' => some '/'
  | 'b' => some '\x08'
  | 'f' => some '\x0c'
  | 'n' => some '\n'
  | 'r' => some '\r'
  | 't' => some '\t'
  | _ => none

def escapeSequence : List Char → Option (Char × List Char)
  | [] => none
  | c :: rest => if c = 'u' then codePoint rest else (letterEscape c).map fun c => (c, rest)

theorem hexFour_length {chars rest : List Char} {code : Nat}
    (h : hexFour chars = some (code, rest)) :
    rest.length < chars.length := by
  unfold hexFour at h
  split at h
  · obtain ⟨_, -, h⟩ := Option.bind_eq_some_iff.mp h
    obtain ⟨_, -, h⟩ := Option.bind_eq_some_iff.mp h
    obtain ⟨_, -, h⟩ := Option.bind_eq_some_iff.mp h
    obtain ⟨_, -, h⟩ := Option.bind_eq_some_iff.mp h
    cases h
    simp only [List.length_cons]
    omega
  · cases h

theorem codePoint_length {chars rest : List Char} {c : Char}
    (h : codePoint chars = some (c, rest)) :
    rest.length < chars.length := by
  obtain ⟨⟨code, behind⟩, hcode, h⟩ := Option.bind_eq_some_iff.mp h
  have hbehind := hexFour_length hcode
  dsimp only at h
  split at h
  · split at h
    · obtain ⟨⟨low, last⟩, hlow, h⟩ := Option.bind_eq_some_iff.mp h
      have hlast := hexFour_length hlow
      dsimp only at h
      split at h
      · obtain ⟨-, rfl⟩ := Prod.mk.inj (Option.some.inj h)
        simp only [List.length_cons] at hbehind
        omega
      · cases h
    · cases h
  · split at h
    · cases h
    · obtain ⟨-, rfl⟩ := Prod.mk.inj (Option.some.inj h)
      exact hbehind

theorem escapeSequence_length {chars rest : List Char} {c : Char}
    (h : escapeSequence chars = some (c, rest)) : rest.length < chars.length := by
  cases chars with
  | nil => cases h
  | cons first chars =>
    rw [escapeSequence] at h
    split at h
    · exact Nat.lt_succ_of_lt (codePoint_length h)
    · obtain ⟨_, -, h⟩ := Option.map_eq_some_iff.mp h
      obtain ⟨-, rfl⟩ := Prod.mk.inj h
      exact Nat.lt_succ_self _

/-- The characters of a string up to its closing quote, and what follows it. -/
def stringBody : List Char → Option (List Char × List Char)
  | [] => none
  | c :: rest =>
    if c = '"' then some ([], rest)
    else if c = '\\' then
      match _h : escapeSequence rest with
      | none => none
      | some (c, rest') => (stringBody rest').map fun (body, last) => (c :: body, last)
    else if c.toNat < 0x20 then none
    else (stringBody rest).map fun (body, last) => (c :: body, last)
termination_by chars => chars.length
decreasing_by
  · exact Nat.lt_succ_of_lt (escapeSequence_length _h)
  · exact Nat.lt_succ_self _

/-! ## Documents -/

section Documents

-- the number that characters begin with, and what follows it
variable (number : List Char → Option (Value × List Char))

mutual

/-- The value that characters begin with, and what follows it. Every call has taken a character,
so the number of characters is fuel enough. -/
def value : Nat → List Char → Option (Value × List Char)
  | 0, _ => none
  | fuel + 1, chars =>
    match skipBlanks chars with
    | '{' :: rest =>
      match skipBlanks rest with
      | '}' :: rest => some (.object [], rest)
      | rest => (members fuel rest).map fun (members, rest) => (.object members, rest)
    | '[' :: rest =>
      match skipBlanks rest with
      | ']' :: rest => some (.array [], rest)
      | rest => (elements fuel rest).map fun (values, rest) => (.array values, rest)
    | '"' :: rest => (stringBody rest).map fun (body, rest) => (.string (encode body), rest)
    | 't' :: 'r' :: 'u' :: 'e' :: rest => some (.boolean true, rest)
    | 'f' :: 'a' :: 'l' :: 's' :: 'e' :: rest => some (.boolean false, rest)
    | 'n' :: 'u' :: 'l' :: 'l' :: rest => some (.null, rest)
    -- what begins no other value has to be a number
    | rest => number rest

def members : Nat → List Char → Option (List (Bytes × Value) × List Char)
  | 0, _ => none
  | fuel + 1, chars =>
    match skipBlanks chars with
    | '"' :: rest => do
      let (key, rest) ← stringBody rest
      match skipBlanks rest with
      | ':' :: rest =>
        let (member, rest) ← value fuel rest
        match skipBlanks rest with
        -- a comma asks for another member: none may be left open
        | ',' :: rest =>
          let (others, rest) ← members fuel rest
          some ((encode key, member) :: others, rest)
        | '}' :: rest => some ([(encode key, member)], rest)
        | _ => none
      | _ => none
    | _ => none

def elements : Nat → List Char → Option (List Value × List Char)
  | 0, _ => none
  | fuel + 1, chars => do
    let (element, rest) ← value fuel chars
    match skipBlanks rest with
    | ',' :: rest =>
      let (others, rest) ← elements fuel rest
      some (element :: others, rest)
    | ']' :: rest => some ([element], rest)
    | _ => none

end

/-- The document of a text: UTF-8, with nothing but blanks behind it. -/
def parse (bytes : Bytes) : Option Value :=
  let chars := decode bytes
  if encode chars = bytes then
    match value number (bytes.length + 1) chars with
    | some (document, rest) => if skipBlanks rest = [] then some document else none
    | none => none
  else none

end Documents

/-! ## Spelled texts -/

/-- The characters that the body of a string stands for. -/
inductive Spells : List Char → List Char → Prop
  | nil : Spells [] []
  | plain {c : Char} {spelled chars : List Char} (hquote : c ≠ '"') (hbackslash : c ≠ '\\')
    (hcontrol : 0x20 ≤ c.toNat) (h : Spells spelled chars) : Spells (c :: spelled) (c :: chars)
  | letter {letter c : Char} {spelled chars : List Char} (hletter : letterEscape letter = some c)
    (h : Spells spelled chars) : Spells ('\\' :: letter :: spelled) (c :: chars)
  | code {spelled behind chars : List Char} {c : Char}
    (hcode : ∀ rest, codePoint (spelled ++ rest) = some (c, behind ++ rest))
    (h : Spells behind chars) : Spells ('\\' :: 'u' :: spelled) (c :: chars)

theorem hexFour_cons {a b c d : Char} {a' b' c' d' : Nat} (ha : hexValue a = some a')
    (hb : hexValue b = some b') (hc : hexValue c = some c') (hd : hexValue d = some d')
    (rest : List Char) :
    hexFour (a :: b :: c :: d :: rest) = some (((a' * 16 + b') * 16 + c') * 16 + d', rest) := by
  rw [hexFour, ha, hb, hc, hd]
  rfl

theorem codePoint_single {chars rest : List Char} {code : Nat}
    (h : hexFour chars = some (code, rest))
    (hlow : code < 0xD800) : codePoint chars = some (Char.ofNat code, rest) := by
  have hhigh : ¬ (0xD800 ≤ code ∧ code < 0xDC00) := by omega
  have hnot : ¬ (0xDC00 ≤ code ∧ code < 0xE000) := by omega
  unfold codePoint
  rw [h]
  show (if _ then _ else _) = _
  rw [if_neg hhigh, if_neg hnot]

theorem Spells.append {spelled spelled' chars chars' : List Char} (h : Spells spelled chars)
    (h' : Spells spelled' chars') : Spells (spelled ++ spelled') (chars ++ chars') := by
  induction h with
  | nil => exact h'
  | plain hquote hbackslash hcontrol _ ih => exact .plain hquote hbackslash hcontrol ih
  | letter hletter _ ih => exact .letter hletter ih
  | code hcode _ ih =>
    refine .code (fun rest => ?_) ih
    show codePoint (_ ++ _ ++ rest) = _
    rw [List.append_assoc, List.append_assoc]
    exact hcode _

theorem letterEscape_u : letterEscape 'u' = none := rfl

theorem stringBody_escape {spelled behind : List Char} {c : Char}
    (h : escapeSequence spelled = some (c, behind)) :
    stringBody ('\\' :: spelled) = (stringBody behind).map fun (body, last) =>
      (c :: body, last) := by
  rw [stringBody, if_neg (by decide), if_pos rfl]
  split
  · next hnone => cases hnone.symm.trans h
  · next hsome =>
    obtain ⟨rfl, rfl⟩ := Prod.mk.inj (Option.some.inj (hsome.symm.trans h))
    rfl

/-- A string is read as the characters that its text spells. -/
theorem stringBody_spelled {spelled chars : List Char} (h : Spells spelled chars)
    (rest : List Char) :
    stringBody (spelled ++ '"' :: rest) = some (chars, rest) := by
  induction h with
  | nil => rw [List.nil_append, stringBody, if_pos rfl]
  | plain hquote hbackslash hcontrol _ ih =>
    rw [List.cons_append, stringBody, if_neg hquote, if_neg hbackslash,
      if_neg (Nat.not_lt.mpr hcontrol),
      ih]
    rfl
  | @letter letter c spelled chars hletter _ ih =>
    have hnot : letter ≠ 'u' := by
      rintro rfl
      cases letterEscape_u.symm.trans hletter
    have hsequence : escapeSequence (letter :: (spelled ++ '"' :: rest)) =
        some (c, spelled ++ '"' :: rest) := by
      rw [escapeSequence, if_neg hnot, hletter]
      rfl
    rw [List.cons_append, List.cons_append, stringBody_escape hsequence, ih]
    rfl
  | @code spelled behind chars c hcode _ ih =>
    have hsequence : escapeSequence ('u' :: (spelled ++ '"' :: rest)) =
        some (c, behind ++ '"' :: rest) := by
      rw [escapeSequence, if_pos rfl]
      exact hcode _
    rw [List.cons_append, List.cons_append, stringBody_escape hsequence, ih]
    rfl

/-! ## Objects of texts -/

/-- A member of an object, its key and its text as they are spelled. -/
def memberText (member : List Char × List Char) : List Char :=
  '"' :: (member.1 ++ '"' :: ':' :: '"' :: (member.2 ++ ['"']))

/-- The members behind the first, and the end of the object. -/
def restText : List (List Char × List Char) → List Char
  | [] => ['}']
  | member :: members => ',' :: (memberText member ++ restText members)

/-- An object of texts, without blanks. -/
def objectText : List (List Char × List Char) → List Char
  | [] => ['{', '}']
  | member :: members => '{' :: (memberText member ++ restText members)

/-- The members that an object of texts is read as. -/
def textMembers (members : List (List Char × List Char)) : List (Bytes × Value) :=
  members.map fun member => (encode member.1, .string (encode member.2))

def SpellsMember (spelled member : List Char × List Char) : Prop :=
  Spells spelled.1 member.1 ∧ Spells spelled.2 member.2

section Objects

variable {number : List Char → Option (Value × List Char)}

theorem value_text {spelled chars : List Char} (h : Spells spelled chars) (fuel : Nat)
    (rest : List Char) :
    value number (fuel + 1) ('"' :: (spelled ++ '"' :: rest)) =
      some (.string (encode chars), rest) := by
  rw [value]
  show (stringBody (spelled ++ '"' :: rest)).map _ = _
  rw [stringBody_spelled h]
  rfl

theorem memberText_append (member : List Char × List Char) (rest : List Char) :
    memberText member ++ rest =
      '"' :: (member.1 ++ '"' :: ':' :: '"' :: (member.2 ++ '"' :: rest)) := by
  unfold memberText
  simp only [List.cons_append, List.append_assoc, List.nil_append]

theorem members_last {spelled member : List Char × List Char} (h : SpellsMember spelled member)
    (fuel : Nat) (rest : List Char) :
    members number (fuel + 2) (memberText spelled ++ '}' :: rest) =
      some ([(encode member.1, .string (encode member.2))], rest) := by
  obtain ⟨hkey, htext⟩ := h
  rw [memberText_append, members]
  show (stringBody (spelled.1 ++ _)).bind _ = _
  rw [stringBody_spelled hkey]
  show (value number (fuel + 1) ('"' :: (spelled.2 ++ '"' :: '}' :: rest))).bind _ = _
  rw [value_text htext]
  rfl

theorem members_more {spelled member : List Char × List Char} (h : SpellsMember spelled member)
    {fuel : Nat} {rest last : List Char} {others : List (Bytes × Value)}
    (hothers : members number (fuel + 1) rest = some (others, last)) :
    members number (fuel + 2) (memberText spelled ++ ',' :: rest) =
      some ((encode member.1, .string (encode member.2)) :: others, last) := by
  obtain ⟨hkey, htext⟩ := h
  rw [memberText_append, members]
  show (stringBody (spelled.1 ++ _)).bind _ = _
  rw [stringBody_spelled hkey]
  show (value number (fuel + 1) ('"' :: (spelled.2 ++ '"' :: ',' :: rest))).bind _ = _
  rw [value_text htext]
  show (members number (fuel + 1) rest).bind _ = _
  rw [hothers]
  rfl

theorem members_text {spelled member : List Char × List Char} (h : SpellsMember spelled member)
    {others members' : List (List Char × List Char)}
    (hothers : List.Forall₂ SpellsMember others members')
    {fuel : Nat} (hfuel : others.length ≤ fuel) :
    members number (fuel + 2) (memberText spelled ++ restText others) =
      some (textMembers (member :: members'), []) := by
  induction hothers generalizing spelled member fuel with
  | nil => exact members_last h fuel []
  | cons hnext _ ih =>
    obtain ⟨fuel, rfl⟩ : ∃ fewer, fuel = fewer + 1 :=
      Nat.exists_eq_add_of_lt (Nat.lt_of_lt_of_le (Nat.succ_pos _) hfuel) |>.imp fun _ h => by omega
    exact members_more h (ih hnext (Nat.le_of_succ_le_succ hfuel))

theorem length_restText (members : List (List Char × List Char)) :
    members.length < (restText members).length := by
  induction members with
  | nil => exact Nat.one_pos
  | cons member members ih =>
    rw [restText, List.length_cons, List.length_cons, List.length_append]
    omega

theorem length_encode (chars : List Char) : chars.length ≤ (encode chars).length := by
  induction chars with
  | nil => exact Nat.zero_le _
  | cons c chars ih =>
    have hsize := c.utf8Size_pos
    rw [encode_cons, List.length_append, String.length_utf8EncodeChar, List.length_cons]
    omega

theorem length_objectText (member : List Char × List Char)
    (members : List (List Char × List Char)) :
    members.length + 2 ≤ (objectText (member :: members)).length := by
  have hrest := length_restText members
  rw [objectText, List.length_cons, List.length_append, memberText, List.length_cons]
  omega

/-- An object of texts is read as its members. -/
theorem parse_objectText {spelled members' : List (List Char × List Char)}
    (h : List.Forall₂ SpellsMember spelled members') :
    parse number (encode (objectText spelled)) = some (.object (textMembers members')) := by
  have hvalue : value number ((encode (objectText spelled)).length + 1) (objectText spelled) =
      some (.object (textMembers members'), []) := by
    cases h with
    | nil => rfl
    | @cons first member others members' hfirst hothers =>
      have hlength := Nat.le_trans (length_objectText first others) (length_encode _)
      obtain ⟨fuel, hfuel⟩ := Nat.exists_eq_add_of_le' hlength
      rw [hfuel, objectText, value]
      show (members number (fuel + others.length + 2)
        (memberText first ++ restText others)).map _ = _
      rw [members_text hfirst hothers (Nat.le_add_left _ _)]
      rfl
  unfold parse
  dsimp only
  rw [decode_encode, if_pos rfl, hvalue]
  rfl

end Objects

end Reading

end Json
