import PlotJugglerSdk.Wire.Numbers

/-!
# Blocks

A block is a byte string read from the front in fixed-width little-endian
numbers, whose variable parts are named by ranges relative to its first byte.

* `takeLe` reads a number; `takeLe_leBytes` undoes its writer;
* `Range.Inside` and `slice` say that a range lies in a block and what it names;
  `slice_middle` is the slice of a block written as three parts.
* `BlockFormat` is a writer with its reader, and `BlockFormat.Lawful` what is
  asked of the pair.
-/

namespace Wire

/-! ## Numbers -/

def takeLe (width : Nat) (bytes : Bytes) : Option (Nat × Bytes) :=
  (takeBytes width bytes).map fun (front, rest) => (leNat front, rest)

theorem takeLe_leBytes {width value : Nat} (h : value < 256 ^ width) (rest : Bytes) :
    takeLe width (leBytes width value ++ rest) = some (value, rest) := by
  rw [takeLe, takeBytes_append (leBytes_length width value)]
  simp [leNat_leBytes h]

theorem takeLe_length {width value : Nat} {bytes rest : Bytes}
    (h : takeLe width bytes = some (value, rest)) : bytes.length = width + rest.length := by
  rw [takeLe, Option.map_eq_some_iff] at h
  obtain ⟨⟨front, rest'⟩, htake, heq⟩ := h
  obtain ⟨rfl, rfl⟩ := Prod.mk.inj heq
  obtain ⟨rfl, rfl⟩ := takeBytes_eq_some htake
  rw [List.length_append]

/-! ## Ranges -/

structure Range where
  offset : Nat := 0
  length : Nat := 0
  deriving DecidableEq, Repr

def Range.Inside (range : Range) (block : Bytes) : Prop :=
  range.offset + range.length ≤ block.length

instance (range : Range) (block : Bytes) : Decidable (range.Inside block) :=
  inferInstanceAs (Decidable (_ ≤ _))

/-- The bytes a range names in a block. -/
def slice (block : Bytes) (range : Range) : Bytes :=
  (block.drop range.offset).take range.length

theorem slice_middle (front content rest : Bytes) :
    slice (front ++ content ++ rest) ⟨front.length, content.length⟩ = content := by
  simp [slice]

/-- Ranges laid out one after another from `start`, one for each part. -/
def layout (start : Nat) : List Bytes → List Range
  | [] => []
  | part :: parts => ⟨start, part.length⟩ :: layout (start + part.length) parts

/-- Parts written one after another are what their ranges name. -/
theorem slice_layout (front : Bytes) (parts : List Bytes) (rest : Bytes) :
    (layout front.length parts).map (slice (front ++ parts.flatten ++ rest)) = parts := by
  induction parts generalizing front with
  | nil => rfl
  | cons part parts ih =>
    have htail := ih (front ++ part)
    rw [List.length_append] at htail
    rw [layout, List.map_cons, List.flatten_cons]
    congr 1
    · have hassoc : front ++ (part ++ parts.flatten) ++ rest =
          front ++ part ++ (parts.flatten ++ rest) := by simp
      rw [hassoc, slice_middle]
    · rw [← List.append_assoc]
      exact htail

theorem inside_layout (start : Nat) (parts : List Bytes) :
    ∀ range ∈ layout start parts, range.offset + range.length ≤ start + parts.flatten.length := by
  induction parts generalizing start with
  | nil => simp [layout]
  | cons part parts ih =>
    intro range hmem
    rw [List.flatten_cons, List.length_append]
    rcases List.mem_cons.mp hmem with rfl | htail
    · simp only
      omega
    · have := ih (start + part.length) range htail
      omega

@[simp] theorem layout_length (start : Nat) (parts : List Bytes) :
    (layout start parts).length = parts.length := by
  induction parts generalizing start with
  | nil => rfl
  | cons part parts ih => simp [layout, ih]

/-! ## Formats -/

/-- A kind of record with its encoding: `record ρ` has a `ρ` wherever its size is
variable, which is a byte string when it is written and a range when it is read. -/
structure BlockFormat (record : Type → Type) where
  write : record Bytes → Except String Bytes
  read : Bytes → Except String (record Range)
  map : (Range → Bytes) → record Range → record Bytes
  /-- Every range of a record. -/
  parts : record Range → List Range

/-- The reader takes what the writer writes for the record it was, and refers to
nothing outside the bytes it was given. -/
structure BlockFormat.Lawful {record : Type → Type} (format : BlockFormat record) : Prop where
  read_write : ∀ {value : record Bytes} {block : Bytes}, format.write value = .ok block →
    ∃ view, format.read block = .ok view ∧ format.map (slice block) view = value
  inside : ∀ {block : Bytes} {view : record Range}, format.read block = .ok view →
    ∀ range ∈ format.parts view, range.Inside block

end Wire
