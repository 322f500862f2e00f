import Mathlib.Tactic.Ring
import Mathlib.Data.List.Basic

/-!
# Numbers on the wire

Byte strings and the two number formats every block of a binary protocol is
built from:

* **fixed width**, least significant byte first (`leBytes` / `leNat`) or most
  significant byte first (`beNat`);
* **base-128 varints** of at most ten bytes (`varintBytes` / `takeVarint`), the
  spelling of a 64-bit value: seven payload bits a byte, continuation bit on
  every byte but the last, and nothing above bit 63.

`take…` functions split a value off the front of a byte string. The results
are the two laws a codec needs of such a function: it undoes the matching
writer whatever follows (`takeVarint_varintBytes`, `leNat_leBytes`), and it is
*local* — what it consumed means the same in front of any other bytes
(`takeVarint_local`, `takeBytes_local`).
-/

namespace Wire

abbrev Bytes := List UInt8

/-! ## Fixed width -/

/-- `width` bytes of `value`, least significant first. -/
def leBytes : Nat → Nat → Bytes
  | 0, _ => []
  | width + 1, value => UInt8.ofNat value :: leBytes width (value / 256)

def leNat : Bytes → Nat
  | [] => 0
  | b :: rest => b.toNat + 256 * leNat rest

/-- The number whose bytes are given most significant first. -/
def beNat (bytes : Bytes) : Nat :=
  bytes.foldl (fun value b => value * 256 + b.toNat) 0

@[simp] theorem leBytes_length (width value : Nat) :
    (leBytes width value).length = width := by
  induction width generalizing value with
  | zero => rfl
  | succ width ih => simp [leBytes, ih]

theorem leNat_leBytes {width value : Nat} (h : value < 256 ^ width) :
    leNat (leBytes width value) = value := by
  induction width generalizing value with
  | zero =>
    have : value = 0 := by simpa using h
    simp [leBytes, leNat, this]
  | succ width ih =>
    have hdiv : value / 256 < 256 ^ width := by
      rw [pow_succ] at h
      omega
    rw [leBytes, leNat, ih hdiv, UInt8.toNat_ofNat']
    omega

theorem leNat_lt (bytes : Bytes) : leNat bytes < 256 ^ bytes.length := by
  induction bytes with
  | nil => simp [leNat]
  | cons b rest ih =>
    have hb := b.toNat_lt
    rw [leNat, List.length_cons, pow_succ]
    omega

/-! ## Splitting bytes off the front -/

/-- The first `count` bytes and what follows them. -/
def takeBytes (count : Nat) (bytes : Bytes) : Option (Bytes × Bytes) :=
  if count ≤ bytes.length then some (bytes.take count, bytes.drop count) else none

theorem takeBytes_append {count : Nat} {front : Bytes} (h : front.length = count)
    (rest : Bytes) : takeBytes count (front ++ rest) = some (front, rest) := by
  subst h
  simp [takeBytes]

theorem takeBytes_eq_some {count : Nat} {bytes front rest : Bytes}
    (h : takeBytes count bytes = some (front, rest)) :
    bytes = front ++ rest ∧ front.length = count := by
  unfold takeBytes at h
  split at h
  · next hle =>
    simp only [Option.some.injEq, Prod.mk.injEq] at h
    obtain ⟨rfl, rfl⟩ := h
    exact ⟨(List.take_append_drop count bytes).symm, by simpa using hle⟩
  · exact absurd h (by simp)

theorem takeBytes_local {count : Nat} {bytes front rest : Bytes}
    (h : takeBytes count bytes = some (front, rest)) :
    bytes = front ++ rest ∧ ∀ later, takeBytes count (front ++ later) = some (front, later) := by
  obtain ⟨hsplit, hlen⟩ := takeBytes_eq_some h
  exact ⟨hsplit, takeBytes_append hlen⟩

/-! ## Groups of seven bits -/

theorem byte_payload (b : UInt8) : (b &&& 0x7F).toNat = b.toNat % 128 := by
  have h : ∀ b : BitVec 8, (b &&& 0x7F).toNat = b.toNat % 128 := by decide
  exact h b.toBitVec

theorem byte_last (b : UInt8) : b &&& 0x80 = 0 ↔ b.toNat < 128 := by
  have h : ∀ b : BitVec 8, b &&& 0x80 = 0 ↔ b.toNat < 128 := by decide
  rw [← UInt8.toBitVec_inj]
  exact h b.toBitVec

theorem two_pow_group (groups bits : Nat) :
    2 ^ (7 * (groups + 1) + bits) = 128 * 2 ^ (7 * groups + bits) := by
  rw [show 7 * (groups + 1) + bits = 7 + (7 * groups + bits) by omega, pow_add]
  rfl

/-- A group is put above what the groups before it hold. -/
theorem lor_group {value index : Nat} (group : Nat) (h : value < 2 ^ (7 * index)) :
    value ||| group <<< (7 * index) = value + group * 2 ^ (7 * index) := by
  rw [Nat.or_comm, ← Nat.shiftLeft_add_eq_or_of_lt h, Nat.shiftLeft_eq, Nat.add_comm]

theorem add_group_lt {value index : Nat} (byte : Nat) (h : value < 2 ^ (7 * index)) :
    value + byte % 128 * 2 ^ (7 * index) < 2 ^ (7 * (index + 1)) := by
  have hpow : 2 ^ (7 * (index + 1)) = 128 * 2 ^ (7 * index) := two_pow_group index 0
  have hgroup : byte % 128 * 2 ^ (7 * index) ≤ 127 * 2 ^ (7 * index) :=
    Nat.mul_le_mul_right _ (by omega)
  omega

theorem drop_of_getElem? {bytes : Bytes} {position : Nat} {byte : UInt8}
    (h : bytes[position]? = some byte) :
    bytes.drop position = byte :: bytes.drop (position + 1) := by
  rw [List.drop_eq_getElem?_toList_append, h]
  rfl

/-! ## Base-128 varints -/

/-- `groups` bytes with the continuation bit at most, then a final byte. -/
def varintGroups : Nat → Nat → Bytes
  | 0, value => [UInt8.ofNat value]
  | groups + 1, value =>
    if value < 128 then [UInt8.ofNat value]
    else UInt8.ofNat (value % 128 + 128) :: varintGroups groups (value / 128)

/-- The shortest varint of a 64-bit value. -/
def varintBytes (value : Nat) : Bytes := varintGroups 9 value

/-- A varint at the head of the bytes whose first byte is its `index`-th one:
the value of the remaining groups and the bytes after them. Ten bytes at most,
and the tenth may only carry bit 63. -/
def takeVarint (index : Nat) : Bytes → Option (Nat × Bytes)
  | [] => none
  | b :: rest =>
    if 9 < index then none
    else if index = 9 ∧ 1 < b.toNat % 128 then none
    else if b.toNat < 128 then some (b.toNat, rest)
    else match takeVarint (index + 1) rest with
      | none => none
      | some (value, rest) => some (b.toNat % 128 + 128 * value, rest)

theorem varintGroups_ne_nil (groups value : Nat) : varintGroups groups value ≠ [] := by
  cases groups with
  | zero => simp [varintGroups]
  | succ groups =>
    rw [varintGroups]
    split <;> simp

theorem varintBytes_ne_nil (value : Nat) : varintBytes value ≠ [] :=
  varintGroups_ne_nil 9 value

theorem takeVarint_varintGroups {groups index value : Nat} (hindex : index + groups = 9)
    (hvalue : value < 2 ^ (7 * groups + 1)) (rest : Bytes) :
    takeVarint index (varintGroups groups value ++ rest) = some (value, rest) := by
  induction groups generalizing index value with
  | zero =>
    have h2 : value < 2 := by simpa using hvalue
    simp only [varintGroups, List.singleton_append, takeVarint, UInt8.toNat_ofNat']
    rw [if_neg (by omega), if_neg (by omega), if_pos (by omega), Nat.mod_eq_of_lt (by omega)]
  | succ groups ih =>
    have hpow := two_pow_group groups 1
    rw [varintGroups]
    split
    · next hsmall =>
      rw [List.singleton_append, takeVarint, UInt8.toNat_ofNat',
        if_neg (by omega), if_neg (by omega), if_pos (by omega), Nat.mod_eq_of_lt (by omega)]
    · next hlarge =>
      have hrec : takeVarint (index + 1) (varintGroups groups (value / 128) ++ rest) =
          some (value / 128, rest) := ih (by omega) (by omega)
      rw [List.cons_append, takeVarint, UInt8.toNat_ofNat',
        if_neg (by omega), if_neg (by omega), if_neg (by omega), hrec]
      have hsum : (value % 128 + 128) % 2 ^ 8 % 128 + 128 * (value / 128) = value := by omega
      simp only [hsum]

/-- Reading undoes writing, whatever follows. -/
theorem takeVarint_varintBytes {value : Nat} (h : value < 2 ^ 64) (rest : Bytes) :
    takeVarint 0 (varintBytes value ++ rest) = some (value, rest) :=
  takeVarint_varintGroups rfl h rest

/-- A varint that starts at group `index` fits the bits left for it. -/
theorem takeVarint_lt {index value : Nat} {bytes rest : Bytes}
    (h : takeVarint index bytes = some (value, rest)) :
    index ≤ 9 ∧ value < 2 ^ (7 * (9 - index) + 1) := by
  induction bytes generalizing index value rest with
  | nil => exact absurd h (by simp [takeVarint])
  | cons b tail ih =>
    rw [takeVarint] at h
    split at h
    · exact absurd h (by simp)
    · next hindex =>
      have hle : index ≤ 9 := by omega
      have hone : 2 ^ 1 ≤ 2 ^ (7 * (9 - index) + 1) := Nat.pow_le_pow_right (by omega) (by omega)
      split at h
      · exact absurd h (by simp)
      · next hlast =>
        split at h
        · next hb =>
          simp only [Option.some.injEq, Prod.mk.injEq] at h
          obtain ⟨rfl, rfl⟩ := h
          refine ⟨hle, ?_⟩
          -- the tenth byte carries one bit, any byte before it seven
          rcases Nat.lt_or_ge index 9 with hlt | hge
          · have : 2 ^ 8 ≤ 2 ^ (7 * (9 - index) + 1) := Nat.pow_le_pow_right (by omega) (by omega)
            omega
          · omega
        · split at h
          · exact absurd h (by simp)
          · next value' rest' hrec =>
            obtain ⟨hnext, hlt⟩ := ih hrec
            simp only [Option.some.injEq, Prod.mk.injEq] at h
            obtain ⟨rfl, rfl⟩ := h
            refine ⟨hle, ?_⟩
            have hleft : 9 - index = 9 - (index + 1) + 1 := by omega
            have hpow := two_pow_group (9 - (index + 1)) 1
            rw [← hleft] at hpow
            omega

theorem takeVarint_lt_two_pow {value : Nat} {bytes rest : Bytes}
    (h : takeVarint 0 bytes = some (value, rest)) : value < 2 ^ 64 :=
  (takeVarint_lt h).2

theorem takeVarint_local {index value : Nat} {bytes rest : Bytes}
    (h : takeVarint index bytes = some (value, rest)) :
    ∃ front, bytes = front ++ rest ∧ front ≠ [] ∧
      ∀ later, takeVarint index (front ++ later) = some (value, later) := by
  induction bytes generalizing index value rest with
  | nil => exact absurd h (by simp [takeVarint])
  | cons b tail ih =>
    rw [takeVarint] at h
    split at h
    · exact absurd h (by simp)
    · next hindex =>
      split at h
      · exact absurd h (by simp)
      · next hlast =>
        split at h
        · next hb =>
          simp only [Option.some.injEq, Prod.mk.injEq] at h
          obtain ⟨rfl, rfl⟩ := h
          refine ⟨[b], rfl, by simp, fun later => ?_⟩
          rw [List.singleton_append, takeVarint, if_neg hindex, if_neg hlast, if_pos hb]
        · next hb =>
          split at h
          · exact absurd h (by simp)
          · next value' rest' hrec =>
            simp only [Option.some.injEq, Prod.mk.injEq] at h
            obtain ⟨rfl, rfl⟩ := h
            obtain ⟨front, hsplit, -, hlocal⟩ := ih hrec
            refine ⟨b :: front, by rw [hsplit]; rfl, by simp, fun later => ?_⟩
            rw [List.cons_append, takeVarint, if_neg hindex, if_neg hlast, if_neg hb, hlocal]

end Wire
