import PlotJugglerSdk.Wire.Numbers

/-!
# Base-128 numbers of a bounded width

`takeVarint` for other widths: `groups` bytes may go on, and the one after them carries
`bits` bits and ends the number. A 32-bit number has four groups and four bits.

* `takeLeb_varintGroups` — reading undoes writing
* `takeLeb_local`        — what was read means the same in front of any other bytes
* `LebAt`                — a number at a place in a message
-/

namespace Wire

section Leb

variable (bits : Nat)

def takeLeb : (groups : Nat) → Bytes → Option (Nat × Bytes)
  | _, [] => none
  | 0, b :: rest => if b.toNat < 2 ^ bits then some (b.toNat, rest) else none
  | groups + 1, b :: rest =>
    if b.toNat < 128 then some (b.toNat, rest)
    else (takeLeb groups rest).map fun (value, rest) => (b.toNat % 128 + 128 * value, rest)

variable {bits}

theorem takeLeb_lt {groups value : Nat} {bytes rest : Bytes}
    (h : takeLeb bits groups bytes = some (value, rest)) : value < 2 ^ (7 * groups + bits) := by
  induction groups generalizing bytes value rest with
  | zero =>
    cases bytes with
    | nil => cases h
    | cons b tail =>
      rw [takeLeb] at h
      split at h
      · rename_i hb
        obtain ⟨rfl, -⟩ := Prod.mk.inj (Option.some.inj h)
        rw [Nat.mul_zero, Nat.zero_add]
        exact hb
      · cases h
  | succ groups ih =>
    have hpow := two_pow_group groups bits
    have hpos : 0 < 2 ^ (7 * groups + bits) := Nat.two_pow_pos _
    cases bytes with
    | nil => cases h
    | cons b tail =>
      rw [takeLeb] at h
      split at h
      · rename_i hb
        obtain ⟨rfl, -⟩ := Prod.mk.inj (Option.some.inj h)
        omega
      · obtain ⟨⟨value', rest'⟩, hrec, heq⟩ := Option.map_eq_some_iff.mp h
        have hlt := ih hrec
        obtain ⟨rfl, -⟩ := Prod.mk.inj heq
        omega

theorem takeLeb_local {groups value : Nat} {bytes rest : Bytes}
    (h : takeLeb bits groups bytes = some (value, rest)) :
    ∃ front, bytes = front ++ rest ∧ front ≠ [] ∧
      ∀ later, takeLeb bits groups (front ++ later) = some (value, later) := by
  induction groups generalizing bytes value rest with
  | zero =>
    cases bytes with
    | nil => cases h
    | cons b tail =>
      rw [takeLeb] at h
      split at h
      · rename_i hb
        obtain ⟨rfl, rfl⟩ := Prod.mk.inj (Option.some.inj h)
        refine ⟨[b], rfl, List.cons_ne_nil _ _, fun later => ?_⟩
        rw [List.singleton_append, takeLeb, if_pos hb]
      · cases h
  | succ groups ih =>
    cases bytes with
    | nil => cases h
    | cons b tail =>
      rw [takeLeb] at h
      split at h
      · rename_i hb
        obtain ⟨rfl, rfl⟩ := Prod.mk.inj (Option.some.inj h)
        refine ⟨[b], rfl, List.cons_ne_nil _ _, fun later => ?_⟩
        rw [List.singleton_append, takeLeb, if_pos hb]
      · rename_i hb
        obtain ⟨⟨value', rest'⟩, hrec, heq⟩ := Option.map_eq_some_iff.mp h
        obtain ⟨rfl, rfl⟩ := Prod.mk.inj heq
        -- a byte that goes on is part of what was consumed
        obtain ⟨front, hsplit, -, hlocal⟩ := ih hrec
        refine ⟨b :: front, by rw [hsplit]; rfl, List.cons_ne_nil _ _, fun later => ?_⟩
        rw [List.cons_append, takeLeb, if_neg hb, hlocal]
        rfl

theorem toNat_ofNat_byte {value : Nat} (h : value < 256) : (UInt8.ofNat value).toNat = value := by
  rw [UInt8.toNat_ofNat', Nat.mod_eq_of_lt h]

/-- The shortest spelling is read back, whatever follows. -/
theorem takeLeb_varintGroups (hbits : bits ≤ 7) {groups value : Nat}
    (h : value < 2 ^ (7 * groups + bits)) (rest : Bytes) :
    takeLeb bits groups (varintGroups groups value ++ rest) = some (value, rest) := by
  induction groups generalizing value with
  | zero =>
    rw [Nat.mul_zero, Nat.zero_add] at h
    have hsmall : value < 2 ^ 7 := lt_of_lt_of_le h (Nat.pow_le_pow_right (by decide) hbits)
    rw [varintGroups, List.singleton_append, takeLeb, toNat_ofNat_byte (by omega), if_pos h]
  | succ groups ih =>
    have hpow := two_pow_group groups bits
    rw [varintGroups]
    split
    · rename_i hsmall
      rw [List.singleton_append, takeLeb, toNat_ofNat_byte (by omega), if_pos hsmall]
    · have hsum : (value % 128 + 128) % 128 + 128 * (value / 128) = value := by omega
      rw [List.cons_append, takeLeb, toNat_ofNat_byte (by omega), if_neg (by omega),
        ih (by omega)]
      show some ((value % 128 + 128) % 128 + 128 * (value / 128), rest) = _
      rw [hsum]

end Leb

/-! ## Places -/

/-- A number of `groups` groups and `bits` bits stands from `start` up to `stop`. -/
structure LebAt (bits groups : Nat) (message : Bytes) (start value stop : Nat) : Prop where
  lt : start < stop
  inside : stop ≤ message.length
  read : takeLeb bits groups (message.drop start) = some (value, message.drop stop)

section Place

variable {bits groups start value stop : Nat} {message : Bytes}

theorem lebAt_of_take {rest : Bytes}
    (h : takeLeb bits groups (message.drop start) = some (value, rest)) :
    LebAt bits groups message start value (message.length - rest.length) := by
  obtain ⟨front, hsplit, hne, -⟩ := takeLeb_local h
  have hpos : 0 < front.length := List.length_pos_of_ne_nil hne
  have hlength : (message.drop start).length = front.length + rest.length := by
    rw [hsplit, List.length_append]
  rw [List.length_drop] at hlength
  have hstop : message.length - rest.length = start + front.length := by omega
  refine ⟨by omega, by omega, ?_⟩
  rw [hstop, ← List.drop_drop, hsplit, List.drop_left, ← hsplit]
  exact h

theorem LebAt.length_eq (h : LebAt bits groups message start value stop) :
    message.length - (message.drop stop).length = stop := by
  have hinside := h.inside
  rw [List.length_drop]
  omega

/-- The bytes of the number itself. -/
theorem LebAt.front (h : LebAt bits groups message start value stop) :
    ∀ later, takeLeb bits groups ((message.drop start).take (stop - start) ++ later) =
      some (value, later) := by
  obtain ⟨front, hsplit, -, hlocal⟩ := takeLeb_local h.read
  have hlt := h.lt
  have hinside := h.inside
  have hlength : front.length = stop - start := by
    have hlen : (message.drop start).length = front.length + (message.drop stop).length := by
      rw [hsplit, List.length_append]
    rw [List.length_drop, List.length_drop] at hlen
    omega
  rw [hsplit, List.take_left' hlength]
  exact hlocal

/-- A number stands in a message when it stands in what has the same bytes there. -/
theorem LebAt.transport {other : Bytes} (h : LebAt bits groups message start value stop)
    (hinside : stop ≤ other.length)
    (hsame : (other.drop start).take (stop - start) = (message.drop start).take (stop - start)) :
    LebAt bits groups other start value stop := by
  have hlt := h.lt
  refine ⟨hlt, hinside, ?_⟩
  have hsplit : other.drop start =
      (message.drop start).take (stop - start) ++ other.drop stop := by
    rw [← hsame]
    conv_lhs => rw [← List.take_append_drop (stop - start) (other.drop start)]
    rw [List.drop_drop, show start + (stop - start) = stop by omega]
  rw [hsplit, h.front]

theorem LebAt.append (h : LebAt bits groups message start value stop) (more : Bytes) :
    LebAt bits groups (message ++ more) start value stop := by
  have hlt := h.lt
  have hinside := h.inside
  refine h.transport ?_ ?_
  · rw [List.length_append]
    omega
  · rw [List.drop_append_of_le_length (by omega), List.take_append_of_le_length]
    rw [List.length_drop]
    omega

/-- Inside the first `count` bytes, and only there, a number can be read of them. -/
theorem lebAt_take {count : Nat} (hcount : count ≤ message.length) :
    LebAt bits groups (message.take count) start value stop ↔
      LebAt bits groups message start value stop ∧ stop ≤ count := by
  constructor
  · intro h
    have hlt := h.lt
    have hinside := h.inside
    rw [List.length_take] at hinside
    refine ⟨?_, by omega⟩
    refine h.transport (by omega) ?_
    rw [List.drop_take, List.take_take, Nat.min_eq_left (by omega)]
  · rintro ⟨h, hstop⟩
    have hlt := h.lt
    refine h.transport ?_ ?_
    · rw [List.length_take]
      omega
    · rw [List.drop_take, List.take_take, Nat.min_eq_left (by omega)]

end Place

end Wire
