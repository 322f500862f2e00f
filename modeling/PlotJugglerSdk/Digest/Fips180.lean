import Mathlib.Data.Nat.NthRoot.Defs
import Mathlib.Data.Nat.Prime.Nth
import Mathlib.Tactic.Common

/-!
# The secure hash standard

SHA-256 as FIPS 180-4 defines it: a function of bit strings. The message is padded to whole
blocks of 512 bits, and the blocks are compressed one after the other, from constants that are
fractions of roots of primes.

* `binary`, `number`, `word` — bit strings, the most significant bit first
* `padded`                   — the message with a one, zeros and its length
* `compress`                 — one block
* `sha256`                   — the digest, 256 bits
-/

namespace Fips180

abbrev Word := BitVec 32

/-- Eight words: the working variables, or the hash value between two blocks. -/
structure Registers (α : Type) where
  a : α
  b : α
  c : α
  d : α
  e : α
  f : α
  g : α
  h : α
  deriving DecidableEq

namespace Registers

variable {α β : Type}

def toList (r : Registers α) : List α := [r.a, r.b, r.c, r.d, r.e, r.f, r.g, r.h]

def map (f : α → β) (r : Registers α) : Registers β :=
  ⟨f r.a, f r.b, f r.c, f r.d, f r.e, f r.f, f r.g, f r.h⟩

def add [Add α] (r s : Registers α) : Registers α :=
  ⟨r.a + s.a, r.b + s.b, r.c + s.c, r.d + s.d, r.e + s.e, r.f + s.f, r.g + s.g, r.h + s.h⟩

end Registers

/-! ## Bit strings -/

/-- The lowest bits of a number. -/
def binary : Nat → Nat → List Bool
  | 0, _ => []
  | width + 1, n => binary width (n / 2) ++ [n % 2 == 1]

/-- The number of a bit string. -/
def number (bits : List Bool) : Nat := bits.foldl (fun value bit => 2 * value + bit.toNat) 0

def word (bits : List Bool) : Word := BitVec.ofNat 32 (number bits)

/-! ## Functions and constants -/

def ch (x y z : Word) : Word := (x &&& y) ^^^ (~~~x &&& z)

def maj (x y z : Word) : Word := (x &&& y) ^^^ (x &&& z) ^^^ (y &&& z)

def bigSigma0 (x : Word) : Word := x.rotateRight 2 ^^^ x.rotateRight 13 ^^^ x.rotateRight 22

def bigSigma1 (x : Word) : Word := x.rotateRight 6 ^^^ x.rotateRight 11 ^^^ x.rotateRight 25

def smallSigma0 (x : Word) : Word := x.rotateRight 7 ^^^ x.rotateRight 18 ^^^ (x >>> 3)

def smallSigma1 (x : Word) : Word := x.rotateRight 17 ^^^ x.rotateRight 19 ^^^ (x >>> 10)

/-- The first 32 bits of the fractional part of a root. -/
def rootFraction (degree n : Nat) : Word :=
  BitVec.ofNat 32 (Nat.nthRoot degree (n * 2 ^ (32 * degree)))

noncomputable def prime (t : Nat) : Nat := Nat.nth Nat.Prime t

/-- The constants of the rounds, from the cube roots of the first 64 primes. -/
noncomputable def roundConstant (t : Nat) : Word := rootFraction 3 (prime t)

/-- The initial hash value, from the square roots of the first eight primes. -/
noncomputable def initial : Registers Word where
  a := rootFraction 2 (prime 0)
  b := rootFraction 2 (prime 1)
  c := rootFraction 2 (prime 2)
  d := rootFraction 2 (prime 3)
  e := rootFraction 2 (prime 4)
  f := rootFraction 2 (prime 5)
  g := rootFraction 2 (prime 6)
  h := rootFraction 2 (prime 7)

/-! ## One block -/

/-- The message schedule of a block of sixteen words. -/
def schedule (block : Nat → Word) (t : Nat) : Word :=
  if t < 16 then block t
  else
    smallSigma1 (schedule block (t - 2)) + schedule block (t - 7) +
      smallSigma0 (schedule block (t - 15)) + schedule block (t - 16)

def step (k w : Word) (r : Registers Word) : Registers Word :=
  let t1 := r.h + bigSigma1 r.e + ch r.e r.f r.g + k + w
  let t2 := bigSigma0 r.a + maj r.a r.b r.c
  ⟨t1 + t2, r.a, r.b, r.c, r.d + t1, r.e, r.f, r.g⟩

noncomputable def compress (h : Registers Word) (block : Nat → Word) : Registers Word :=
  let r := (List.range 64).foldl (fun r t => step (roundConstant t) (schedule block t) r) h
  r.add h

/-! ## The message -/

/-- The zeros between the one and the length, as few as fill the last block. -/
def zeros (length : Nat) : Nat := (512 + 447 - length % 512) % 512

def padded (message : List Bool) : List Bool :=
  message ++ true :: (List.replicate (zeros message.length) false ++ binary 64 message.length)

/-- The words of a block of a padded message. -/
def blockWords (bits : List Bool) (i j : Nat) : Word :=
  word ((bits.drop (512 * i + 32 * j)).take 32)

noncomputable def hash (message : List Bool) : Registers Word :=
  (List.range ((padded message).length / 512)).foldl
    (fun h i => compress h (blockWords (padded message) i)) initial

noncomputable def sha256 (message : List Bool) : List Bool :=
  (hash message).toList.flatMap fun w => binary 32 w.toNat

/-! ## The first numbers of a kind -/

section Nth

variable {p : Nat → Prop} [DecidablePred p]

theorem count_eq_length_filter (n : Nat) :
    Nat.count p n = ((List.range n).filter fun k => decide (p k)).length := by
  induction n with
  | zero => exact Nat.count_zero p
  | succ n ih =>
    rw [Nat.count_succ, ih, List.range_succ, List.filter_append, List.length_append,
      List.filter_singleton]
    by_cases h : p n
    · rw [if_pos h, decide_eq_true h]
      rfl
    · rw [if_neg h, decide_eq_false h]
      rfl

/-- The numbers of a kind below a bound are the first of this kind, in order. -/
theorem nth_eq_of_filter_range {bound t : Nat} {list : List Nat}
    (hlist : (List.range bound).filter (fun k => decide (p k)) = list) (h : t < list.length) :
    Nat.nth p t = list[t] := by
  have hmem : list[t] ∈ (List.range bound).filter fun k => decide (p k) := by
    rw [hlist]
    exact List.getElem_mem h
  rw [List.mem_filter, List.mem_range, decide_eq_true_iff] at hmem
  obtain ⟨hbound, hp⟩ := hmem
  generalize hn : list[t] = n at hbound hp
  -- the numbers before this one are as many as stand before it in the list
  have hsplit : list = ((List.range n).filter fun k => decide (p k)) ++
      (n :: (List.range' (n + 1) (bound - n - 1)).filter fun k => decide (p k)) := by
    have hrange : List.range bound = List.range n ++
        (n :: List.range' (n + 1) (bound - n - 1)) := by
      have hcons : n :: List.range' (n + 1) (bound - n - 1) = List.range' n (bound - n) := by
        rw [show bound - n = bound - n - 1 + 1 by omega, List.range'_succ]
        rfl
      have hjoin : List.range' 0 n ++ List.range' (0 + n) (bound - n) =
          List.range' 0 (n + (bound - n)) :=
        List.range'_append_1
      rw [Nat.zero_add, Nat.add_sub_cancel' (Nat.le_of_lt hbound)] at hjoin
      rw [hcons, List.range_eq_range', List.range_eq_range', hjoin]
    rw [← hlist, hrange, List.filter_append, List.filter_cons, if_pos (decide_eq_true hp)]
  have hnodup : list.Nodup := hlist ▸ List.nodup_range.filter _
  have hcount : Nat.count p n = t := by
    rw [count_eq_length_filter]
    have hlt : ((List.range n).filter fun k => decide (p k)).length < list.length := by
      rw [hsplit, List.length_append, List.length_cons]
      omega
    have hat : list[((List.range n).filter fun k => decide (p k)).length] = n := by
      rw [List.getElem_of_eq hsplit, List.getElem_append_right (Nat.le_refl _)]
      simp
    exact (hnodup.getElem_inj_iff).mp (hat.trans hn.symm)
  rw [← hcount, Nat.nth_count hp]

end Nth

/-! ## Lemmas on bit strings -/

theorem length_binary (width n : Nat) : (binary width n).length = width := by
  induction width generalizing n with
  | zero => rfl
  | succ width ih => rw [binary, List.length_append, ih, List.length_singleton]

theorem binary_add (first second n : Nat) :
    binary (first + second) n = binary first (n / 2 ^ second) ++ binary second n := by
  induction second generalizing n with
  | zero => rw [Nat.add_zero, Nat.pow_zero, Nat.div_one, binary, List.append_nil]
  | succ second ih =>
    rw [← Nat.add_assoc, binary, ih, binary, List.append_assoc, Nat.div_div_eq_div_mul,
      Nat.pow_succ']

theorem binary_mod (width n : Nat) : binary width (n % 2 ^ width) = binary width n := by
  induction width generalizing n with
  | zero => rfl
  | succ width ih =>
    have hhalf : n % 2 ^ (width + 1) / 2 = n / 2 % 2 ^ width := by
      rw [Nat.pow_succ']
      exact Nat.mod_mul_right_div_self n 2 (2 ^ width)
    have hlast : n % 2 ^ (width + 1) % 2 = n % 2 := by
      rw [Nat.pow_succ']
      exact Nat.mod_mul_right_mod n 2 (2 ^ width)
    rw [binary, binary, hhalf, hlast, ih]

theorem binary_zero (width : Nat) : binary width 0 = List.replicate width false := by
  induction width with
  | zero => rfl
  | succ width ih =>
    rw [binary, Nat.zero_div, ih, List.replicate_succ']
    rfl

/-- Reading on from a value. -/
theorem foldl_binary (value width n : Nat) :
    (binary width n).foldl (fun value bit => 2 * value + bit.toNat) value =
      value * 2 ^ width + n % 2 ^ width := by
  induction width generalizing n with
  | zero => rw [binary, List.foldl_nil, Nat.pow_zero, Nat.mul_one, Nat.mod_one, Nat.add_zero]
  | succ width ih =>
    have hbit : (n % 2 == 1).toNat = n % 2 := by
      rcases Nat.mod_two_eq_zero_or_one n with h | h <;> rw [h] <;> rfl
    have hsplit : n % 2 ^ (width + 1) = 2 * (n / 2 % 2 ^ width) + n % 2 := by
      rw [Nat.pow_succ', Nat.mod_mul]
      omega
    have hdouble : value * 2 ^ (width + 1) = 2 * (value * 2 ^ width) := by
      rw [Nat.pow_succ, ← Nat.mul_assoc, Nat.mul_comm]
    rw [binary, List.foldl_append, ih, List.foldl_cons, List.foldl_nil, hbit, hsplit, hdouble]
    omega

end Fips180
