import PlotJugglerSdk.Json.Value

/-!
# Accessors that throw

A JSON library asks a value for its type without fail, and throws when it is asked for content
of another type. A reader that is not to throw checks first. Exceptions are told by their
number, `thrown`; a type is a conversion (`stringOf`, `int64Of`, …) that has no result for a value
the library would not convert.

* `get`, `getRef`, `valueOr` — the accessors, each with the exception it throws
* `guarded`                  — an accessor behind the check of its type
-/

namespace Json

open Wire

namespace Value

/-! ## Types -/

def isNull : Value → Bool
  | null => true
  | _ => false

def isBoolean : Value → Bool
  | boolean _ => true
  | _ => false

def isNumberUnsigned : Value → Bool
  | unsigned _ => true
  | _ => false

/-- Signed or unsigned. -/
def isNumberInteger : Value → Bool
  | integer _ | unsigned _ => true
  | _ => false

def isNumber : Value → Bool
  | integer _ | unsigned _ | float _ => true
  | _ => false

def isNumberFloat : Value → Bool
  | float _ => true
  | _ => false

def isString : Value → Bool
  | string _ => true
  | _ => false

def isArray : Value → Bool
  | array _ => true
  | _ => false

def isObject : Value → Bool
  | object _ => true
  | _ => false

/-! ## Conversions -/

/-- A double without what is behind its point, for a conversion to an integer type. -/
def wholePart (bits : UInt64) : Int :=
  let exponent := bits.toNat / 2 ^ 52 % 2 ^ 11
  let significand := 2 ^ 52 + bits.toNat % 2 ^ 52
  let magnitude : Nat :=
    if exponent < 1023 then 0
    else if exponent < 1075 then significand / 2 ^ (1075 - exponent)
    else significand * 2 ^ (exponent - 1075)
  if 2 ^ 63 ≤ bits.toNat then -(magnitude : Int) else magnitude

def stringOf : Value → Option Bytes
  | string value => some value
  | _ => none

def booleanOf : Value → Option Bool
  | boolean value => some value
  | _ => none

/-- `number_unsigned_t`, which every number converts to. -/
def uint64Of : Value → Option UInt64
  | unsigned value => some value
  | integer value => some value.toUInt64
  | float bits => some (.ofInt (wholePart bits))
  | _ => none

/-- `number_integer_t` -/
def int64Of : Value → Option Int64
  | unsigned value => some value.toInt64
  | integer value => some value
  | float bits => some (.ofInt (wholePart bits))
  | _ => none

/-- The other integer types take a boolean as well. -/
def int32Of : Value → Option Int32
  | unsigned value => some value.toUInt32.toInt32
  | integer value => some value.toInt32
  | float bits => some (.ofInt (wholePart bits))
  | boolean value => some (if value then 1 else 0)
  | _ => none

def uint32Of : Value → Option UInt32
  | unsigned value => some value.toUInt32
  | integer value => some value.toUInt64.toUInt32
  | float bits => some (.ofInt (wholePart bits))
  | boolean value => some (if value then 1 else 0)
  | _ => none

/-! ## Accessors -/

section Accessors

variable {ε α : Type} (thrown : Nat → ε)

/-- `get<T>()` -/
def get (convert : Value → Option α) (value : Value) : Except ε α :=
  (convert value).elim (.error (thrown 302)) .ok

/-- `get_ref<T&>()` -/
def getRef (convert : Value → Option α) (value : Value) : Except ε α :=
  (convert value).elim (.error (thrown 303)) .ok

/-- `value(key, default)` -/
def valueOr (convert : Value → Option α) (key : String) (default : α) : Value → Except ε α
  | object members =>
    match (object members).find key with
    | none => .ok default
    | some value => value.get thrown convert
  | _ => .error (thrown 306)

/-- An accessor behind a check: what is missing or fails it is skipped. -/
def guarded (is : Value → Bool) (read : Value → Except ε α) : Option Value → Except ε (Option α)
  | none => .ok none
  | some value => if is value then (read value).map some else .ok none

/-- What passes the check of a type and converts to it. -/
def typed (is : Value → Bool) (convert : Value → Option α) (value : Value) : Option α :=
  if is value then convert value else none

variable {thrown} {is : Value → Bool} {convert : Value → Option α}

/-- An accessor that reads what passes the check, where no other value is read. -/
theorem guarded_eq {read : Value → Except ε α} {decode : Value → Option α}
    (h : ∀ value, is value = true → ∃ content, read value = .ok content ∧ decode value = some content)
    (hnot : ∀ value, is value = false → decode value = none) (member : Option Value) :
    guarded is read member = .ok (member.bind decode) := by
  cases member with
  | none => rfl
  | some value =>
    rw [guarded, Option.bind_some]
    cases his : is value with
    | false => rw [hnot value his, if_neg Bool.false_ne_true]
    | true =>
      obtain ⟨content, hread, hdecode⟩ := h value his
      rw [hread, hdecode, if_pos rfl]
      rfl

end Accessors

/-! ## Readers that give up

A reader that returns early gives up, with nothing (`OptionT`) or with a reason (`ExceptT`), over
the exceptions of the library. -/

section Readers

variable {ε ρ α β σ : Type}

def present (member : Option α) : OptionT (Except ε) α := OptionT.mk (.ok member)

def check (holds : Bool) : OptionT (Except ε) Unit := present (if holds then some () else none)

def demanded (reason : ρ) (read : OptionT (Except ε) α) : ExceptT ρ (Except ε) α :=
  ExceptT.mk (read.run.map fun content => content.elim (.error reason) .ok)

def refused (bad : Bool) (reason : ρ) : ExceptT ρ (Except ε) Unit :=
  ExceptT.mk (.ok (if bad then .error reason else .ok ()))

/-- The reader throws nothing, and this is what it returns. -/
def Returns (read : OptionT (Except ε) α) (result : Option α) : Prop := read.run = .ok result

def Yields (read : ExceptT ρ (Except ε) α) (result : Except ρ α) : Prop := read.run = .ok result

namespace Returns

variable {read : OptionT (Except ε) α} {result : Option α}

theorem pure (content : α) :
    Returns (Pure.pure content : OptionT (Except ε) α) (some content) := rfl

theorem present (member : Option α) :
    Returns (Value.present member : OptionT (Except ε) α) member := rfl

theorem bind {next : α → OptionT (Except ε) β} {after : α → Option β} (h : Returns read result)
    (hnext : ∀ content, Returns (next content) (after content)) :
    Returns (read >>= next) (result.bind after) := by
  unfold Returns at h ⊢
  rw [OptionT.run_bind, h]
  cases result with
  | none => rfl
  | some content => exact hnext content

theorem check (holds : Bool) {next : OptionT (Except ε) β} {after : Option β}
    (hnext : holds = true → Returns next after) :
    Returns (Value.check holds >>= fun _ => next) (if holds then after else none) := by
  cases holds with
  | false => rfl
  | true => exact hnext rfl

theorem check_decide (holds : Prop) [Decidable holds] {next : OptionT (Except ε) β}
    {after : Option β}
    (hnext : holds → Returns next after) :
    Returns (Value.check (decide holds) >>= fun _ => next) (if holds then after else none) := by
  by_cases h : holds
  · rw [if_pos h, decide_eq_true h]
    exact hnext h
  · rw [if_neg h, decide_eq_false h]
    rfl

/-- A value that has been checked is converted. -/
theorem get {thrown : Nat → ε} {convert : Value → Option α} {value : Value} {content : α}
    (h : convert value = some content) :
    Returns (OptionT.lift (value.get thrown convert)) (some content) := by
  unfold Returns
  rw [OptionT.run_lift, Value.get, h]
  rfl

theorem mapM {f : β → OptionT (Except ε) α} {g : β → Option α} (h : ∀ b, Returns (f b) (g b))
    (list : List β) :
    Returns (list.mapM f) (list.mapM g) := by
  induction list with
  | nil => exact Returns.pure []
  | cons b list ih =>
    rw [List.mapM_cons, List.mapM_cons]
    exact (h b).bind fun a => ih.bind fun rest => Returns.pure (a :: rest)

theorem foldlM {f : σ → β → OptionT (Except ε) σ} {g : σ → β → Option σ}
    (h : ∀ s b, Returns (f s b) (g s b))
    (list : List β) (s : σ) : Returns (list.foldlM f s) (list.foldlM g s) := by
  induction list generalizing s with
  | nil => exact Returns.pure s
  | cons b list ih =>
    rw [List.foldlM_cons, List.foldlM_cons]
    exact (h s b).bind ih

end Returns

namespace Yields

variable {read : ExceptT ρ (Except ε) α} {result : Except ρ α}

theorem pure (content : α) :
    Yields (Pure.pure content : ExceptT ρ (Except ε) α) (.ok content) := rfl

theorem bind {next : α → ExceptT ρ (Except ε) β} {after : α → Except ρ β} (h : Yields read result)
    (hnext : ∀ content, Yields (next content) (after content)) :
    Yields (read >>= next) (result.bind after) := by
  unfold Yields at h ⊢
  rw [ExceptT.run_bind, h]
  cases result with
  | error reason => rfl
  | ok content => exact hnext content

theorem demanded {reader : OptionT (Except ε) α} {content : Option α} (h : Returns reader content)
    (reason : ρ) :
    Yields (Value.demanded reason reader) (content.elim (.error reason) .ok) := by
  show Except.map _ reader.run = _
  rw [h]
  rfl

theorem refused (bad : Bool) (reason : ρ) :
    Yields (Value.refused bad reason : ExceptT ρ (Except ε) Unit)
      (if bad then .error reason else .ok ()) := rfl

theorem mapM {f : β → ExceptT ρ (Except ε) α} {g : β → Except ρ α} (h : ∀ b, Yields (f b) (g b))
    (list : List β) :
    Yields (list.mapM f) (list.mapM g) := by
  induction list with
  | nil => exact Yields.pure []
  | cons b list ih =>
    rw [List.mapM_cons, List.mapM_cons]
    exact (h b).bind fun a => ih.bind fun rest => Yields.pure (a :: rest)

end Yields

theorem mapM_ok {f : β → α} (items : List β) :
    (items.mapM fun item => (.ok (f item) : Except ε α)) = .ok (items.map f) := List.mapM_pure

theorem foldlM_ok {f : σ → β → Except ε σ} {g : σ → β → σ} (h : ∀ s b, f s b = .ok (g s b))
    (items : List β)
    (s : σ) : items.foldlM f s = .ok (items.foldl g s) := by
  rw [funext₂ h]
  exact List.foldlM_pure

/-- A loop that takes what it can read and skips the rest. -/
def skimmed (read : β → Except ε (Option α)) : List β → Except ε (List α)
  | [] => .ok []
  | item :: items => do
    let content ← read item
    let contents ← skimmed read items
    .ok (content.toList ++ contents)

theorem skimmed_eq {read : β → Except ε (Option α)} {decode : β → Option α} {items : List β}
    (h : ∀ item ∈ items, read item = .ok (decode item)) :
    skimmed read items = .ok (items.filterMap decode) := by
  induction items with
  | nil => rfl
  | cons item items ih =>
    rw [skimmed, h item List.mem_cons_self,
      ih fun later hlater => h later (List.mem_cons_of_mem _ hlater),
      List.filterMap_cons]
    cases decode item <;> rfl

end Readers

end Value

end Json
