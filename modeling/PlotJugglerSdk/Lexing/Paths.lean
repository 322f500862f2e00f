import PlotJugglerSdk.Lexing.Split
import PlotJugglerSdk.Lexing.Trim
import PlotJugglerSdk.Wire.Numbers

/-!
# Path names

Paths as a POSIX file system takes them: texts with separators, of which several in a row count
as one (`Same`).

* `filename_join`        — a name is what its path in a directory ends with
* `extension_eq_iff`     — the names with an extension
* `same_join_parentPath` — a sibling of a file is a file of the same directory
-/

namespace Paths

open Lexing Wire

def pathSeparator : UInt8 := 0x2F

/-- A name in a directory, `operator/`; an absolute one stands for itself. -/
def join (directory name : Bytes) : Bytes :=
  if name.head? = some pathSeparator then name
  else if directory = [] ∨ directory.getLast? = some pathSeparator then directory ++ name
  else directory ++ pathSeparator :: name

/-- What is behind the last separator. -/
def filename (path : Bytes) : Bytes := (cutLast pathSeparator path).elim path Prod.snd

def isSeparator (c : UInt8) : Bool := c = pathSeparator

/-- What is before the separators in front of the name; a root keeps one of them. -/
def parentPath (path : Bytes) : Bytes :=
  match cutLast pathSeparator path with
  | none => []
  | some (front, _) => if front.rdropWhile isSeparator = [] then [pathSeparator] else
    front.rdropWhile isSeparator

def extensionDot : UInt8 := 0x2E

/-- The name from its last dot on; a name that only begins with one has no extension. -/
def extension (path : Bytes) : Bytes :=
  match cutLast extensionDot (filename path) with
  | none => []
  | some (stem, rest) =>
    if stem = [] ∨ filename path = [extensionDot, extensionDot] then [] else extensionDot :: rest

/-- A path without separators that follow another. -/
def collapsed : Bytes → Bytes
  | [] => []
  | c :: rest => if c = pathSeparator ∧ rest.head? = some pathSeparator then collapsed rest else
    c :: collapsed rest

/-- Two texts of one path. -/
def Same (path path' : Bytes) : Prop := collapsed path = collapsed path'

/-! ## Names in a directory -/

theorem join_of_notMem {name : Bytes} (h : pathSeparator ∉ name) (directory : Bytes) :
    join directory name =
      if directory = [] ∨ directory.getLast? = some pathSeparator then directory ++ name
      else directory ++ pathSeparator :: name :=
  if_neg fun hhead => h (List.mem_of_head? hhead)

theorem join_nil {name : Bytes} (h : pathSeparator ∉ name) : join [] name = name := by
  rw [join_of_notMem h, if_pos (Or.inl rfl)]
  rfl

/-- A path with more behind its name is that of a longer name. -/
theorem join_append {name tail : Bytes} (hname : pathSeparator ∉ name)
    (htail : pathSeparator ∉ tail)
    (directory : Bytes) : join directory name ++ tail = join directory (name ++ tail) := by
  have happend : pathSeparator ∉ name ++ tail :=
    fun hmem => (List.mem_append.mp hmem).elim hname htail
  rw [join_of_notMem hname, join_of_notMem happend]
  split
  · exact List.append_assoc _ _ _
  · exact List.append_assoc _ _ _

/-- In a directory every name is behind one separator. -/
theorem join_cases (directory : Bytes) :
    directory = [] ∨
      ∃ front, ∀ name, pathSeparator ∉ name → join directory name = front ++ pathSeparator ::
        name := by
  by_cases hnil : directory = []
  · exact Or.inl hnil
  · right
    by_cases hlast : directory.getLast? = some pathSeparator
    · obtain ⟨front, rfl⟩ := List.getLast?_eq_some_iff.mp hlast
      refine ⟨front, fun name h => ?_⟩
      rw [join_of_notMem h, if_pos (Or.inr hlast), List.append_assoc]
      rfl
    · refine ⟨directory, fun name h => ?_⟩
      rw [join_of_notMem h, if_neg]
      rintro (hnil' | hlast')
      · exact hnil hnil'
      · exact hlast hlast'

theorem filename_join {name : Bytes} (h : pathSeparator ∉ name) (directory : Bytes) :
    filename (join directory name) = name := by
  rcases join_cases directory with rfl | ⟨front, hjoin⟩
  · rw [join_nil h, filename, cutLast_eq_none_iff.mpr h]
    rfl
  · rw [hjoin name h, filename, cutLast_append front h]
    rfl

/-- An extension is what a name has behind its last dot, where there is a name before it. -/
theorem extension_eq_iff {path rest : Bytes} (hne : rest ≠ []) (hdot : extensionDot ∉ rest) :
    extension path = extensionDot :: rest ↔
      ∃ stem, stem ≠ [] ∧ filename path = stem ++ extensionDot :: rest := by
  unfold extension
  constructor
  · intro h
    cases hcut : cutLast extensionDot (filename path) with
    | none =>
      rw [hcut] at h
      cases h
    | some parts =>
      obtain ⟨stem, tail⟩ := parts
      rw [hcut] at h
      dsimp only at h
      split at h
      · cases h
      · next hname =>
        obtain rfl := List.cons.inj h |>.2
        exact ⟨stem, fun hstem => hname (.inl hstem), (cutLast_eq_some hcut).1⟩
  · rintro ⟨stem, hstem, hname⟩
    rw [hname, cutLast_append stem hdot]
    dsimp only
    rw [if_neg]
    rintro (hnil | hdots)
    · exact hstem hnil
    · -- two dots leave nothing behind the last one
      have hlast := congrArg List.getLast? hdots
      rw [List.getLast?_append_of_ne_nil _ (List.cons_ne_nil _ _), List.getLast?_cons,
        List.getLast?_eq_some_getLast hne] at hlast
      have heq : rest.getLast hne = extensionDot := by simpa using hlast
      exact hdot (heq ▸ List.getLast_mem hne)

/-! ## Separators in a row -/

theorem collapsed_append {path path' : Bytes} (h : collapsed path = collapsed path')
    (hhead : path.head? = path'.head?) (front : Bytes) :
    collapsed (front ++ path) = collapsed (front ++ path') := by
  induction front with
  | nil => exact h
  | cons c front ih =>
    have hnext : (front ++ path).head? = (front ++ path').head? := by
      rw [List.head?_append, List.head?_append, hhead]
    rw [List.cons_append, List.cons_append, collapsed, collapsed, ih, hnext]

theorem collapsed_separators {separators : Bytes} (h : ∀ c ∈ separators, isSeparator c)
    (front rest : Bytes) :
    collapsed (front ++ separators ++ pathSeparator :: rest) =
      collapsed (front ++ pathSeparator :: rest) := by
  rw [List.append_assoc]
  have hhead : (separators ++ pathSeparator :: rest).head? = some pathSeparator := by
    cases separators with
    | nil => rfl
    | cons c separators => exact congrArg some (of_decide_eq_true (h c List.mem_cons_self))
  refine collapsed_append ?_ hhead front
  induction separators with
  | nil => rfl
  | cons c separators ih =>
    obtain rfl : c = pathSeparator := of_decide_eq_true (h c List.mem_cons_self)
    have hnext : (separators ++ pathSeparator :: rest).head? = some pathSeparator := by
      cases separators with
      | nil => rfl
      | cons c separators =>
        exact congrArg some (of_decide_eq_true (h c (List.mem_cons_of_mem _ List.mem_cons_self)))
    rw [List.cons_append, collapsed, if_pos ⟨rfl, hnext⟩]
    exact ih (fun c hc => h c (List.mem_cons_of_mem _ hc)) hnext

/-- A file beside one of a directory is a file of the directory. -/
theorem same_join_parentPath {name sibling : Bytes} (h : pathSeparator ∉ name)
    (hsibling : pathSeparator ∉ sibling)
    (directory : Bytes) :
    Same (join (parentPath (join directory name)) sibling) (join directory sibling) := by
  rcases join_cases directory with rfl | ⟨front, hjoin⟩
  · rw [join_nil h, parentPath, cutLast_eq_none_iff.mpr h]
    rfl
  · have hparent : join (parentPath (join directory name)) sibling =
        front.rdropWhile isSeparator ++ pathSeparator :: sibling := by
      rw [hjoin name h, parentPath, cutLast_append front h]
      dsimp only
      split
      · next hroot =>
        rw [hroot, join_of_notMem hsibling]
        exact if_pos (Or.inr rfl)
      · next hsome =>
        rw [join_of_notMem hsibling, if_neg]
        rintro (hnil | hlast)
        · exact hsome hnil
        · rw [List.getLast?_eq_some_getLast hsome] at hlast
          exact List.rdropWhile_last_not isSeparator front hsome
            (decide_eq_true (Option.some.inj hlast))
    have hseparators : ∀ c ∈ front.rtakeWhile isSeparator, isSeparator c :=
      fun c hc => List.mem_rtakeWhile_imp hc
    -- the separators that `parentPath` leaves out stand before the one of the name
    have hfront := collapsed_separators hseparators (front.rdropWhile isSeparator) sibling
    rw [List.rdropWhile_append_rtakeWhile] at hfront
    unfold Same
    rw [hparent, hjoin sibling hsibling, hfront]

end Paths
