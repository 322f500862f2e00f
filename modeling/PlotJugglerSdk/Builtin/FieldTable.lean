import PlotJugglerSdk.Builtin.BufferLayouts
import PlotJugglerSdk.Builtin.DoubleArithmetic
import PlotJugglerSdk.Numeric.Conversions

/-!
# Field tables

How a script reads and writes the members of an object without knowing its type
(`field_table.hpp`): a table has a descriptor for each member, with accessors that pass numbers
as doubles, and the tables of structs are inside those of the structs that have them. What the
accessors of an address are in the source are those of a `Member` here, which has its laws.

* `saturatingCast_eq`  — a number that is written is clamped to its type
* `copyScalar_*`       — a scalar that is read and written again is the same
* `copyList_eq`, `copyArray_eq` — and so are the elements of a list
-/

namespace PlotJugglerSdk

open Wire

/-! ## Accessors -/

/-- Where a value is in its owner. -/
structure Member (σ ν : Type) where
  get : σ → ν
  set : ν → σ → σ
  get_set : ∀ value owner, get (set value owner) = value := by intros; rfl
  set_set : ∀ value other owner, set value (set other owner) = set value owner := by intros; rfl
  set_get : ∀ owner, set (get owner) owner = owner := by intros; rfl

/-- `static_cast<Target>(value)` for an integer type with these limits: the limits for what is
beyond them, and 0 for not-a-number. -/
def saturatingCast (lo hi : Int) (value : F64) : Int :=
  if Binary.isNaN value then 0
  else if Binary.lessEqual value (F64.ofInt lo) then lo
  else if Binary.lessEqual (F64.ofInt hi) value then hi
  -- only a number between them is left
  else (Binary.double value).elim 0 Binary.truncated

/-- The accessors of a scalar: numbers, `bool` and enumerations are read and written as doubles,
64-bit integers as such. Writing is given the old value. -/
inductive ScalarAccess (ν : Type) where
  | number (getNumber : ν → F64) (setNumber : F64 → ν → ν)
  | int64 (getInt64 : ν → Int64) (setInt64 : Int64 → ν → ν)
  | string (getString : ν → Bytes) (setString : Bytes → ν → ν)

namespace ScalarAccess

/-! `setScalarAccessors`, by the type of the scalar. -/

/-- `bool`: everything but a zero is true. -/
def ofBool : ScalarAccess Bool :=
  .number (fun value => if value then .one else .zero)
    fun number _ => decide (Binary.double number ≠ some 0)

def ofInt64 : ScalarAccess Int64 := .int64 id fun value _ => value

def ofDouble : ScalarAccess F64 := .number id fun number _ => number

/-- The integer types that doubles have all values of. -/
def ofInteger {ν : Type} (lo hi : Int) (toInt : ν → Int) (ofInt : Int → ν) : ScalarAccess ν :=
  .number (fun value => F64.ofInt (toInt value)) fun number _ => ofInt (saturatingCast lo hi number)

def ofUInt8 : ScalarAccess UInt8 := ofInteger 0 255 (fun value => value.toNat) UInt8.ofInt

def ofUInt32 : ScalarAccess UInt32 := ofInteger 0 4294967295 (fun value => value.toNat) UInt32.ofInt

/-- An enumeration over `uint8_t`; a number that is none of its own leaves it as it was. -/
def ofEnum {ν : Type} (toCode : ν → UInt8) (ofCode : UInt8 → Option ν) : ScalarAccess ν :=
  .number (fun value => F64.ofInt (toCode value).toNat)
    fun number old => (ofCode (UInt8.ofInt (saturatingCast 0 255 number))).getD old

def ofString : ScalarAccess Bytes := .string id fun value _ => value

end ScalarAccess

/-- `static_cast<double>` of a `float`, which quiets what signals. -/
def F32.toDouble (value : F32) : F64 := Binary.widen (Binary.quieted value)

/-- `saturatingCast<float>`: the plain conversion. -/
def F32.ofDouble (value : F64) : F32 := Binary.narrow value

/-! ## Descriptors and tables -/

mutual

/-- One field of a table: its name and its accessors, which depend on its kind. -/
inductive FieldDescriptor : Type → Type 1 where
  /-- a number, a `bool`, an enumeration, a 64-bit integer or a text -/
  | scalar {σ ν : Type} (name : String) (member : Member σ ν) (access : ScalarAccess ν) :
    FieldDescriptor σ
  | optionalNumber {σ ν : Type} (name : String) (member : Member σ (Option ν))
    (toNumber : ν → F64) (ofNumber : F64 → ν) : FieldDescriptor σ
  | struct {σ ν : Type} (name : String) (member : Member σ ν) (nested : FieldTable ν) :
    FieldDescriptor σ
  /-- a `std::vector`, with the element that `emplace_back` makes -/
  | structList {σ ε : Type} (name : String) (member : Member σ (List ε)) (fresh : ε)
    (nested : FieldTable ε) : FieldDescriptor σ
  | scalarList {σ ε : Type} (name : String) (member : Member σ (List ε)) (fresh : ε)
    (access : ScalarAccess ε) : FieldDescriptor σ
  /-- a `std::array` -/
  | scalarArray {σ ε : Type} {n : Nat} (name : String) (member : Member σ (List.Vector ε n))
    (access : ScalarAccess ε) : FieldDescriptor σ
  | buffer {σ : Type} (name : String) (buffer : σ → BufferLayout UInt64)
    (bufferAssign : Bytes → σ → σ) : FieldDescriptor σ

inductive FieldTable : Type → Type 1 where
  | nil {σ : Type} : FieldTable σ
  | cons {σ : Type} (field : FieldDescriptor σ) (rest : FieldTable σ) : FieldTable σ

end

def FieldTable.ofList {σ : Type} : List (FieldDescriptor σ) → FieldTable σ
  | [] => .nil
  | field :: fields => .cons field (ofList fields)

/-- A described struct: its fields and its name. -/
structure FieldTableView where
  owner : Type
  typeName : String
  fields : FieldTable owner

/-! ## The generic copy

The access pattern of a binder: everything that a table describes, read from one object and
written to another. -/

def copyScalar {ν : Type} : ScalarAccess ν → ν → ν → ν
  | .number getNumber setNumber, src, dst => setNumber (getNumber src) dst
  | .int64 getInt64 setInt64, src, dst => setInt64 (getInt64 src) dst
  | .string getString setString, src, dst => setString (getString src) dst

/-- `list_clear`, then `list_emplace` for each element, which is written where it is. -/
def copyList {σ ε : Type} (member : Member σ (List ε)) (fresh : ε) (copyElement : ε → ε → ε)
    (src dst : σ) : σ :=
  (member.get src).foldl
    (fun dst element => member.set (member.get dst ++ [copyElement element fresh]) dst)
    (member.set [] dst)

/-- `list_replace` for each element. -/
def copyArray {σ ε : Type} {n : Nat} (member : Member σ (List.Vector ε n))
    (copyElement : ε → ε → ε) (src dst : σ) : σ :=
  (List.finRange n).foldl
    (fun dst i => member.set ((member.get dst).set i
      (copyElement ((member.get src).get i) ((member.get dst).get i))) dst) dst

mutual

def copyField {σ : Type} : FieldDescriptor σ → σ → σ → σ
  | .scalar _ member access, src, dst =>
    member.set (copyScalar access (member.get src) (member.get dst)) dst
  | .optionalNumber _ member toNumber ofNumber, src, dst =>
    match member.get src with
    -- a value that is absent is not written
    | none => dst
    | some value => member.set (some (ofNumber (toNumber value))) dst
  | .struct _ member nested, src, dst =>
    member.set (copyThroughTable nested (member.get src) (member.get dst)) dst
  | .structList _ member fresh nested, src, dst =>
    copyList member fresh (copyThroughTable nested) src dst
  | .scalarList _ member fresh access, src, dst =>
    copyList member fresh (copyScalar access) src dst
  | .scalarArray _ member access, src, dst => copyArray member (copyScalar access) src dst
  | .buffer _ buffer bufferAssign, src, dst => bufferAssign (buffer src).bytes dst

def copyThroughTable {σ : Type} : FieldTable σ → σ → σ → σ
  | .nil, _, dst => dst
  | .cons field rest, src, dst => copyThroughTable rest src (copyField field src dst)

end

/-! ## Numbers -/

namespace F64

theorem roundSignificand_of_lt {n : Nat} (h : n < 2 ^ 53) : roundSignificand n = n := by
  have hlog : n.log2 - 52 = 0 := by
    by_cases hzero : n = 0
    · rw [hzero]
      rfl
    · have hscaled := (Binary.scaled_significand hzero h).2.2
      omega
  unfold roundSignificand
  dsimp only
  rw [hlog, Nat.pow_zero, Nat.mod_one, Nat.div_one, if_neg (by omega), Nat.mul_one]

theorem ofParts_pattern (sign exponent fraction : Nat) :
    ofParts (sign * 2 ^ 11 + exponent) fraction = Binary.pattern sign exponent fraction := by
  have hbits : (sign * 2 ^ 11 + exponent) * 2 ^ 52 + fraction =
      sign * 2 ^ 63 + exponent * 2 ^ 52 + fraction := by ring
  rw [ofParts, hbits]
  rfl

/-- A whole number of up to 53 bits, as the pattern of a normal double. -/
theorem double_whole {sign magnitude : Nat} (hsign : sign < 2) (hzero : magnitude ≠ 0)
    (hlt : magnitude < 2 ^ 53) :
    Binary.double (ofParts (sign * 2 ^ 11 + (1023 + magnitude.log2))
      (magnitude * 2 ^ 52 / 2 ^ magnitude.log2 - 2 ^ 52)) =
      some (Binary.signed sign magnitude) := by
  obtain ⟨hlow, hhigh, hlog⟩ := Binary.scaled_significand hzero hlt
  have hshift : magnitude * 2 ^ 52 / 2 ^ magnitude.log2 =
      magnitude * 2 ^ (52 - magnitude.log2) := by
    have hsplit : 2 ^ 52 = 2 ^ (52 - magnitude.log2) * 2 ^ magnitude.log2 := by
      rw [← Nat.pow_add, Nat.sub_add_cancel hlog]
    rw [hsplit, ← Nat.mul_assoc, Nat.mul_div_cancel _ (Nat.two_pow_pos _)]
  have hscale : ((magnitude * 2 ^ (52 - magnitude.log2) : ℕ) : ℚ) *
      2 ^ (((1023 + magnitude.log2 : ℕ) : ℤ) - 1075) = magnitude := by
    have hexp : ((1023 + magnitude.log2 : ℕ) : ℤ) - 1075 =
        -((52 - magnitude.log2 : ℕ) : ℤ) := by omega
    rw [hexp, zpow_neg, zpow_natCast]
    push_cast
    rw [mul_assoc, mul_inv_cancel₀ (pow_ne_zero _ two_ne_zero), mul_one]
  rw [hshift, ofParts_pattern, Binary.double_pattern hsign (by omega) (by omega),
    if_neg (by omega), if_neg (by omega), Nat.add_sub_cancel' hlow, hscale]

/-- An integer of up to 53 bits is a double. -/
theorem double_ofInt {n : Int} (h : n.natAbs < 2 ^ 53) :
    Binary.double (ofInt n) = some (n : ℚ) := by
  unfold ofInt
  dsimp only
  rw [roundSignificand_of_lt h]
  by_cases hzero : n.natAbs = 0
  · have hpattern : ofParts 0 0 = Binary.pattern 0 0 0 := ofParts_pattern 0 0 0
    rw [if_pos hzero, Int.natAbs_eq_zero.mp hzero, hpattern,
      Binary.double_pattern (by decide) (by decide) (by decide), if_neg (by decide), if_pos rfl,
      Binary.signed, Nat.cast_zero, zero_mul, mul_zero, Int.cast_zero]
  · rw [if_neg hzero]
    have hsign : (if n < 0 then 2 ^ 11 else 0) + 1023 + n.natAbs.log2 =
        (if n < 0 then 1 else 0) * 2 ^ 11 + (1023 + n.natAbs.log2) := by
      split <;> omega
    rw [hsign, double_whole (by split <;> decide) hzero h]
    congr 1
    unfold Binary.signed
    by_cases hneg : n < 0
    · rw [if_pos hneg, if_pos rfl, Nat.cast_natAbs, abs_of_neg hneg]
      push_cast
      ring
    · rw [if_neg hneg, if_neg (by decide), Nat.cast_natAbs, abs_of_nonneg (not_lt.mp hneg), one_mul]

end F64

/-- What a double becomes as an integer of a type with these limits: it loses its fraction and is
clamped, an infinity is the limit on its side, and not-a-number is 0. -/
theorem saturatingCast_eq {lo hi : Int} (h : lo ≤ hi) (hlo : lo.natAbs < 2 ^ 53)
    (hhi : hi.natAbs < 2 ^ 53) (value : F64) :
    saturatingCast lo hi value =
      match Binary.double value with
      | some q => max lo (min hi (Binary.truncated q))
      | none =>
        if Binary.isNaN value then 0 else if Binary.isNegative value then lo else hi := by
  unfold saturatingCast
  cases hvalue : Binary.double value with
  | some q =>
    rw [Binary.isNaN_of_double hvalue, Binary.lessEqual_finite hvalue (F64.double_ofInt hlo),
      Binary.lessEqual_finite (F64.double_ofInt hhi) hvalue, if_neg Bool.false_ne_true]
    simp only [decide_eq_true_eq]
    exact Binary.clamped_truncated h q
  | none =>
    dsimp only
    split
    · rfl
    · next hnan =>
      rw [Bool.not_eq_true] at hnan
      rw [Binary.lessEqual_infinite_left hvalue hnan (F64.double_ofInt hlo),
        Binary.lessEqual_infinite_right hvalue hnan (F64.double_ofInt hhi)]
      cases Binary.isNegative value with
      | true => rfl
      | false => rfl

/-- A number of the type is what its double is cast to. -/
theorem saturatingCast_ofInt {lo hi n : Int} (hlow : lo ≤ n) (hhigh : n ≤ hi)
    (hlo : lo.natAbs < 2 ^ 53) (hhi : hi.natAbs < 2 ^ 53) :
    saturatingCast lo hi (F64.ofInt n) = n := by
  rw [saturatingCast_eq (hlow.trans hhigh) hlo hhi,
    F64.double_ofInt (show n.natAbs < 2 ^ 53 by omega)]
  dsimp only
  rw [Binary.truncated_intCast, min_eq_right hhigh, max_eq_right hlow]

/-! ## What is copied -/

/-! A scalar that is read and written again is the same, whatever was there. -/

@[simp] theorem copyScalar_ofInt64 (src dst : Int64) :
    copyScalar ScalarAccess.ofInt64 src dst = src := rfl

@[simp] theorem copyScalar_ofDouble (src dst : F64) :
    copyScalar ScalarAccess.ofDouble src dst = src := rfl

@[simp] theorem copyScalar_ofString (src dst : Bytes) :
    copyScalar ScalarAccess.ofString src dst = src := rfl

@[simp] theorem copyScalar_ofBool (src dst : Bool) :
    copyScalar ScalarAccess.ofBool src dst = src := by
  have hone : F64.ofInt 1 = F64.one := by decide +kernel
  have hzero : F64.ofInt 0 = F64.zero := by decide +kernel
  cases src with
  | true =>
    show decide (Binary.double F64.one ≠ some 0) = true
    rw [← hone, F64.double_ofInt (by decide)]
    decide
  | false =>
    show decide (Binary.double F64.zero ≠ some 0) = false
    rw [← hzero, F64.double_ofInt (by decide)]
    decide

@[simp] theorem copyScalar_ofUInt8 (src dst : UInt8) :
    copyScalar ScalarAccess.ofUInt8 src dst = src := by
  have hlt := src.toNat_lt
  have hwhole : ((src.toNat : Int) % 2 ^ 8).toNat = src.toNat := by omega
  show UInt8.ofInt (saturatingCast 0 255 (F64.ofInt src.toNat)) = src
  rw [saturatingCast_ofInt (by omega) (by omega) (by decide) (by decide), UInt8.ofInt, hwhole,
    UInt8.ofNat_toNat]

@[simp] theorem copyScalar_ofUInt32 (src dst : UInt32) :
    copyScalar ScalarAccess.ofUInt32 src dst = src := by
  have hlt := src.toNat_lt
  have hwhole : ((src.toNat : Int) % 2 ^ 32).toNat = src.toNat := by omega
  show UInt32.ofInt (saturatingCast 0 4294967295 (F64.ofInt src.toNat)) = src
  rw [saturatingCast_ofInt (by omega) (by omega) (by decide) (by decide), UInt32.ofInt, hwhole,
    UInt32.ofNat_toNat]

theorem copyScalar_ofEnum {ν : Type} {toCode : ν → UInt8} {ofCode : UInt8 → Option ν}
    (h : ∀ value, ofCode (toCode value) = some value) (src dst : ν) :
    copyScalar (ScalarAccess.ofEnum toCode ofCode) src dst = src := by
  have hcode : UInt8.ofInt (saturatingCast 0 255 (F64.ofInt (toCode src).toNat)) = toCode src :=
    copyScalar_ofUInt8 (toCode src) (toCode src)
  show (ofCode (UInt8.ofInt (saturatingCast 0 255 (F64.ofInt (toCode src).toNat)))).getD dst = src
  rw [hcode, h]
  rfl

/-- A single comes back quiet. -/
theorem F32.ofDouble_toDouble (value : F32) : ofDouble (toDouble value) = Binary.quieted value :=
  Binary.narrow_widen_quieted value

section Lists

variable {σ ε : Type}

/-- The elements are appended one by one to what the clear has left. -/
@[simp] theorem copyList_eq (member : Member σ (List ε)) (fresh : ε) (copyElement : ε → ε → ε)
    (src dst : σ) :
    copyList member fresh copyElement src dst =
      member.set ((member.get src).map fun element => copyElement element fresh) dst := by
  have hloop (elements front : List ε) :
      elements.foldl
        (fun dst element => member.set (member.get dst ++ [copyElement element fresh]) dst)
        (member.set front dst) =
        member.set (front ++ elements.map fun element => copyElement element fresh) dst := by
    induction elements generalizing front with
    | nil => rw [List.foldl_nil, List.map_nil, List.append_nil]
    | cons element elements ih =>
      rw [List.foldl_cons, member.get_set, member.set_set, ih, List.append_assoc]
      rfl
  exact hloop (member.get src) []

/-- Every place is written once, and from then on has what it is to have. -/
theorem copyArray_eq {n : Nat} (member : Member σ (List.Vector ε n)) {copyElement : ε → ε → ε}
    (h : ∀ src dst, copyElement src dst = src) (src dst : σ) :
    copyArray member copyElement src dst = member.set (member.get src) dst := by
  have hloop (places : List (Fin n)) (values : List.Vector ε n) :
      ∃ values', places.foldl (fun dst i => member.set ((member.get dst).set i
          (copyElement ((member.get src).get i) ((member.get dst).get i))) dst)
          (member.set values dst) = member.set values' dst ∧
        ∀ j, values'.get j = if j ∈ places then (member.get src).get j else values.get j := by
    induction places generalizing values with
    | nil => exact ⟨values, rfl, fun j => by rw [if_neg List.not_mem_nil]⟩
    | cons i places ih =>
      rw [List.foldl_cons, member.get_set, member.set_set, h]
      obtain ⟨values', hvalues', hget⟩ := ih (values.set i ((member.get src).get i))
      refine ⟨values', hvalues', fun j => ?_⟩
      rw [hget, List.Vector.get_set_eq_if]
      simp only [List.mem_cons]
      by_cases hj : j ∈ places
      · rw [if_pos hj, if_pos (.inr hj)]
      · rw [if_neg hj]
        by_cases hi : i = j
        · rw [if_pos hi, if_pos (.inl hi.symm), hi]
        · rw [if_neg hi, if_neg]
          rintro (rfl | hmem)
          · exact hi rfl
          · exact hj hmem
  obtain ⟨values, hvalues, hget⟩ := hloop (List.finRange n) (member.get dst)
  rw [member.set_get] at hvalues
  have hall : values = member.get src :=
    List.Vector.ext fun j => by rw [hget, if_pos (List.mem_finRange j)]
  rw [copyArray, hvalues, hall]

end Lists

section Tables

variable {σ : Type}

@[simp] theorem copyThroughTable_nil (src dst : σ) :
    copyThroughTable (.ofList []) src dst = dst := rfl

@[simp] theorem copyThroughTable_cons (field : FieldDescriptor σ)
    (fields : List (FieldDescriptor σ)) (src dst : σ) :
    copyThroughTable (.ofList (field :: fields)) src dst =
      copyThroughTable (.ofList fields) src (copyField field src dst) := rfl

attribute [simp] copyField

end Tables

/-- Copying through the table copies the whole object, whatever was there. -/
abbrev FieldTable.Copies {σ : Type} (table : FieldTable σ) : Prop :=
  ∀ src dst, copyThroughTable table src dst = src

end PlotJugglerSdk
