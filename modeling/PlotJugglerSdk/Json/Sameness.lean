import PlotJugglerSdk.Json.Value
import Mathlib.Data.List.Sort

/-!
# The same document

Two values are the same document when they differ in the order of members only, at any depth,
and in how an integer is kept. A library that keeps the members of an object in the order of
their keys has, up to that, one value for each document.

* `Same.normal_eq`      — documents in key order that are the same have one normal form
* `same_of_normal_eq`   — values with one normal form are the same document
* `Occurs`              — the values inside a value, with their depth
-/

namespace Json

open Wire

namespace Value

mutual

/-- Every object has its members in the order of their keys, each key once. -/
def KeySorted : Value → Prop
  | array values => KeySortedAll values
  | object members => (members.map Prod.fst).Pairwise (· < ·) ∧ KeySortedMembers members
  | _ => True

def KeySortedAll : List Value → Prop
  | [] => True
  | value :: values => value.KeySorted ∧ KeySortedAll values

def KeySortedMembers : List (Bytes × Value) → Prop
  | [] => True
  | (_, value) :: members => value.KeySorted ∧ KeySortedMembers members

end

/-- The number that an integer is, signed or not. -/
def integral : Value → Option Int
  | integer value => some value.toInt
  | unsigned value => some value.toNat
  | _ => none

mutual

/-- The same document, with the members of its objects in any order. -/
inductive Same : Value → Value → Prop
  | refl (value : Value) : Same value value
  | number {value value' : Value} {n : Int} (h : value.integral = some n)
    (h' : value'.integral = some n) : Same value value'
  | array {values values' : List Value} (h : SameAll values values') :
    Same (.array values) (.array values')
  | object {members permuted members' : List (Bytes × Value)} (h : SameMembers members permuted)
    (hperm : permuted.Perm members') : Same (.object members) (.object members')

inductive SameAll : List Value → List Value → Prop
  | nil : SameAll [] []
  | cons {value value' : Value} {values values' : List Value} (h : Same value value')
    (hrest : SameAll values values') : SameAll (value :: values) (value' :: values')

inductive SameMembers : List (Bytes × Value) → List (Bytes × Value) → Prop
  | nil : SameMembers [] []
  | cons {key : Bytes} {value value' : Value} {members members' : List (Bytes × Value)}
    (h : Same value value') (hrest : SameMembers members members') :
    SameMembers ((key, value) :: members) ((key, value') :: members')

end

mutual

/-- The value with every integer that is no negative number kept as an unsigned one. -/
def normal : Value → Value
  | integer value =>
    if 0 ≤ value.toInt then .unsigned (UInt64.ofNat value.toInt.toNat) else .integer value
  | array values => .array (normalAll values)
  | object members => .object (normalMembers members)
  | null => .null
  | boolean value => .boolean value
  | unsigned value => .unsigned value
  | float bits => .float bits
  | string value => .string value

def normalAll : List Value → List Value
  | [] => []
  | value :: values => value.normal :: normalAll values

def normalMembers : List (Bytes × Value) → List (Bytes × Value)
  | [] => []
  | (key, value) :: members => (key, value.normal) :: normalMembers members

end

/-! ## Integers -/

theorem integral_normal (value : Value) : value.normal.integral = value.integral := by
  cases value with
  | integer value =>
    unfold normal
    split
    · next hnonneg =>
      have hbound : value.toInt < 2 ^ 63 := value.toInt_lt
      have hsize : value.toInt.toNat < UInt64.size := by
        rw [UInt64.size]
        omega
      show some ((UInt64.ofNat value.toInt.toNat).toNat : Int) = some value.toInt
      rw [UInt64.toNat_ofNat_of_lt' hsize, Int.toNat_of_nonneg hnonneg]
    · rfl
  | _ => rfl

/-- An integer is told by its number, but for how it is kept. -/
theorem normal_of_integral {value : Value} {n : Int} (h : value.integral = some n) :
    value.normal = if 0 ≤ n then .unsigned (UInt64.ofNat n.toNat) else
      .integer (Int64.ofInt n) := by
  cases value with
  | integer value =>
    obtain rfl := Option.some.inj h
    rw [normal, Int64.ofInt_toInt]
  | unsigned value =>
    obtain rfl := Option.some.inj h
    rw [if_pos (Int.natCast_nonneg _), Int.toNat_natCast, UInt64.ofNat_toNat, normal]
  | _ => cases h

/-! ## Normal forms -/

theorem lookup_normalMembers (key : Bytes) (members : List (Bytes × Value)) :
    (normalMembers members).lookup key = (members.lookup key).map normal := by
  induction members with
  | nil => rfl
  | cons first members ih =>
    obtain ⟨other, value⟩ := first
    rw [normalMembers, List.lookup_cons, List.lookup_cons]
    split
    · rfl
    · exact ih

theorem SameMembers.keys {members members' : List (Bytes × Value)}
    (h : SameMembers members members') :
    members.map Prod.fst = members'.map Prod.fst := by
  match h with
  | .nil => rfl
  | .cons _ hrest => rw [List.map_cons, List.map_cons, hrest.keys]

/-- Members in key order are told by what they are, not by where they stand. -/
theorem eq_of_perm {members members' : List (Bytes × Value)} (hperm : members.Perm members')
    (h : (members.map Prod.fst).Pairwise (· < ·)) (h' : (members'.map Prod.fst).Pairwise (· < ·)) :
    members = members' := by
  rw [List.pairwise_map] at h h'
  refine hperm.eq_of_pairwise ?_ h h'
  intro a b _ _ hab hba
  exact absurd hba (List.lt_asymm hab)

mutual

theorem Same.normal_eq {value value' : Value} (h : Same value value') (hsorted : value.KeySorted)
    (hsorted' : value'.KeySorted) : value.normal = value'.normal := by
  match h with
  | .refl _ => rfl
  | .number hn hn' => rw [normal_of_integral hn, normal_of_integral hn']
  | .array hall => rw [normal, normal, hall.normal_eq hsorted hsorted']
  | .object hmembers hperm =>
    obtain ⟨hkeys, hvalues⟩ := hsorted
    obtain ⟨hkeys', hvalues'⟩ := hsorted'
    rw [hmembers.keys] at hkeys
    -- both lists are in key order, so that the permutation moves nothing
    obtain rfl := eq_of_perm hperm hkeys hkeys'
    rw [normal, normal, hmembers.normal_eq hvalues hvalues']

theorem SameAll.normal_eq {values values' : List Value} (h : SameAll values values')
    (hsorted : KeySortedAll values) (hsorted' : KeySortedAll values') :
    normalAll values = normalAll values' := by
  match h with
  | .nil => rfl
  | .cons hvalue hrest =>
    rw [normalAll, normalAll, hvalue.normal_eq hsorted.1 hsorted'.1,
      hrest.normal_eq hsorted.2 hsorted'.2]

theorem SameMembers.normal_eq {members members' : List (Bytes × Value)}
    (h : SameMembers members members') (hsorted : KeySortedMembers members)
    (hsorted' : KeySortedMembers members') : normalMembers members = normalMembers members' := by
  match h with
  | .nil => rfl
  | .cons hvalue hrest =>
    rw [normalMembers, normalMembers, hvalue.normal_eq hsorted.1 hsorted'.1,
      hrest.normal_eq hsorted.2 hsorted'.2]

end

mutual

theorem same_of_normal_eq {value value' : Value} (h : value.normal = value'.normal) :
    Same value value' := by
  have hintegral : value.integral = value'.integral := by
    rw [← integral_normal value, h, integral_normal]
  match value with
  | .integer n => exact .number rfl hintegral.symm
  | .unsigned n => exact .number rfl hintegral.symm
  | .array values =>
    match value' with
    | .array values' => exact .array (sameAll_of_normal_eq (Value.array.inj h))
    | .integer _ | .unsigned _ => cases hintegral
    | .null | .boolean _ | .float _ | .string _ | .object _ => cases h
  | .object members =>
    match value' with
    | .object members' =>
      exact .object (sameMembers_of_normal_eq (Value.object.inj h)) (.refl members')
    | .integer _ | .unsigned _ => cases hintegral
    | .null | .boolean _ | .float _ | .string _ | .array _ => cases h
  | .null | .boolean _ | .float _ | .string _ =>
    match value' with
    | .integer _ | .unsigned _ => cases hintegral
    | .null | .boolean _ | .float _ | .string _ | .array _ | .object _ =>
      cases h <;> exact .refl _

theorem sameAll_of_normal_eq {values values' : List Value}
    (h : normalAll values = normalAll values') :
    SameAll values values' := by
  match values, values' with
  | [], [] => exact .nil
  | [], _ :: _ | _ :: _, [] => cases h
  | _ :: _, _ :: _ =>
    obtain ⟨hvalue, hrest⟩ := List.cons.inj h
    exact .cons (same_of_normal_eq hvalue) (sameAll_of_normal_eq hrest)

theorem sameMembers_of_normal_eq {members members' : List (Bytes × Value)}
    (h : normalMembers members = normalMembers members') : SameMembers members members' := by
  match members, members' with
  | [], [] => exact .nil
  | [], _ :: _ | _ :: _, [] => cases h
  | (_, _) :: _, (_, _) :: _ =>
    obtain ⟨hmember, hrest⟩ := List.cons.inj h
    obtain ⟨rfl, hvalue⟩ := Prod.mk.inj hmember
    exact .cons (same_of_normal_eq hvalue) (sameMembers_of_normal_eq hrest)

end

/-! ## Members -/

/-- The member of an object under a key that is given in bytes. -/
def member (key : Bytes) : Value → Option Value
  | object members => members.lookup key
  | _ => none

theorem keySorted_of_member {key : Bytes} {value inner : Value} (h : value.member key = some inner)
    (hsorted : value.KeySorted) : inner.KeySorted := by
  cases value with
  | object members =>
    replace h : members.lookup key = some inner := h
    obtain ⟨-, hmembers⟩ := hsorted
    induction members with
    | nil => cases h
    | cons first members ih =>
      obtain ⟨other, value⟩ := first
      rw [List.lookup_cons] at h
      split at h
      · obtain rfl := Option.some.inj h
        exact hmembers.1
      · exact ih h hmembers.2
  | _ => cases h

theorem keySorted_of_find {key : String} {value inner : Value} (h : value.find key = some inner)
    (hsorted : value.KeySorted) : inner.KeySorted := by
  have hmember : value.member (text key) = some inner := by
    cases value <;> exact h
  exact keySorted_of_member hmember hsorted

theorem keySorted_of_mem {values : List Value} {inner : Value} (h : inner ∈ values)
    (hsorted : KeySortedAll values) : inner.KeySorted := by
  induction values with
  | nil => cases h
  | cons value values ih =>
    rcases List.mem_cons.mp h with rfl | hlater
    · exact hsorted.1
    · exact ih hlater hsorted.2

/-- The same member, or none on both sides. -/
theorem normal_member_eq {key : Bytes} {value value' : Value} (hsorted : value.KeySorted)
    (hsorted' : value'.KeySorted) (h : Option.Rel Same (value.member key) (value'.member key)) :
    (value.member key).map normal = (value'.member key).map normal := by
  generalize hmember : value.member key = inner at h ⊢
  generalize hmember' : value'.member key = inner' at h ⊢
  cases h with
  | none => rfl
  | some hsame =>
    rw [Option.map_some, Option.map_some, hsame.normal_eq (keySorted_of_member hmember hsorted)
      (keySorted_of_member hmember' hsorted')]

theorem same_member_of_normal_eq {inner inner' : Option Value}
    (h : inner.map normal = inner'.map normal) : Option.Rel Same inner inner' := by
  cases inner with
  | none =>
    cases inner' with
    | none => exact .none
    | some value' => cases h
  | some value =>
    cases inner' with
    | none => cases h
    | some value' => exact .some (same_of_normal_eq (Option.some.inj h))

/-! ## Values inside a value -/

/-- A value inside another, and the number of containers around it. -/
inductive Occurs : Value → Nat → Value → Prop
  | here (value : Value) : Occurs value 0 value
  | element {values : List Value} {value inner : Value} {depth : Nat} (hmem : value ∈ values)
    (h : Occurs value depth inner) : Occurs (.array values) (depth + 1) inner
  | member {members : List (Bytes × Value)} {key : Bytes} {value inner : Value} {depth : Nat}
    (hmem : (key, value) ∈ members) (h : Occurs value depth inner) :
    Occurs (.object members) (depth + 1) inner

end Value

end Json
