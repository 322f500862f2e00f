import PlotJugglerSdk.Lexing.Padded
import PlotJugglerSdk.Lexing.Paths
import PlotJugglerSdk.Source.SourceDescriptor

/-!
# The names of a cache

The files of a request cache are named by a digest and a suffix that is free to choose; beside
each artifact stand its lock, its stamp and the partials of the processes that write it. Cleanup
tells them from foreign files by their names alone.

* `CacheLayout.classify`  — what a file is to cleanup
* `classify_artifact_iff` — the names of artifacts
* `names_never_clash`     — no name is that of two files, and each is what it was made for
-/

namespace PlotJugglerSdk

open Wire Json Lexing Paths

/-- What the names of a cache depend on. -/
structure CacheSpec where
  root : Bytes
  artifactSuffix : Bytes
  identity : IdentityScheme

namespace CacheLayout

def isLowerHex (c : UInt8) : Bool := 0x30 ≤ c && c ≤ 0x39 || 0x61 ≤ c && c ≤ 0x66

def isDigit (c : UInt8) : Bool := 0x30 ≤ c && c ≤ 0x39

def lockOf (artifact : Bytes) : Bytes := artifact ++ text ".lock"

def touchOf (artifact : Bytes) : Bytes := artifact ++ text ".touch"

def partialOf (artifact : Bytes) (currentPid : Nat) : Bytes :=
  artifact ++ (text ".partial." ++ decimalText currentPid)

inductive Kind where
  | kArtifact
  | kPartial
  | kOther
  deriving DecidableEq

structure Classified where
  kind : Kind := .kOther
  /-- The artifact that the file belongs to. -/
  artifact : Bytes := []
  deriving DecidableEq

variable (spec : CacheSpec)

def artifact (digest : Bytes) : Bytes := join spec.root (digest ++ spec.artifactSuffix)

def classify (file : Bytes) : Classified :=
  let name := filename file
  let hex := spec.identity.hexChars
  -- every managed name begins with a digest of the scheme
  if hex ≤ name.length ∧ (name.take hex).all isLowerHex then
    let rest := name.drop hex
    if rest = spec.artifactSuffix then { kind := .kArtifact, artifact := file }
    else
      let marker := spec.artifactSuffix ++ text ".partial."
      if marker.length < rest.length ∧ rest.take marker.length = marker then
        let pid := rest.drop marker.length
        -- only the process that wrote a partial is named behind it
        if pid.all isDigit then
          { kind := .kPartial, artifact := join (parentPath file) (name.take hex ++ spec.artifactSuffix) }
        else {}
      else {}
  else {}

/-- A digest as the scheme spells them. -/
def ValidDigest (digest : Bytes) : Prop :=
  digest.length = spec.identity.hexChars ∧ digest.all isLowerHex = true

/-! ## What is behind a digest -/

variable {spec}

/-- What a name with a digest is depends on what is behind the digest. -/
theorem classify_of_digest {file digest rest : Bytes} (h : ValidDigest spec digest)
    (hname : filename file = digest ++ rest) :
    classify spec file =
      if rest = spec.artifactSuffix then { kind := .kArtifact, artifact := file }
      else if (spec.artifactSuffix ++ text ".partial.").length < rest.length ∧
          rest.take (spec.artifactSuffix ++ text ".partial.").length = spec.artifactSuffix ++
            text ".partial." then
        if (rest.drop (spec.artifactSuffix ++ text ".partial.").length).all isDigit then
          { kind := .kPartial, artifact := join (parentPath file) (digest ++ spec.artifactSuffix) }
        else {}
      else {} := by
  have htake : (digest ++ rest).take spec.identity.hexChars = digest := List.take_left' h.1
  have hdrop : (digest ++ rest).drop spec.identity.hexChars = rest := List.drop_left' h.1
  have hlength : spec.identity.hexChars ≤ (digest ++ rest).length := by
    rw [List.length_append, h.1]
    omega
  unfold classify
  dsimp only
  rw [hname, htake, hdrop, if_pos ⟨hlength, h.2⟩]

theorem classify_of_none {file : Bytes}
    (h : ∀ digest rest, ValidDigest spec digest → filename file ≠ digest ++ rest) :
    classify spec file = {} := by
  refine if_neg ?_
  rintro ⟨hlength, hlower⟩
  refine h _ _ ⟨?_, hlower⟩ (List.take_append_drop spec.identity.hexChars (filename file)).symm
  rw [List.length_take]
  omega

/-- A process id as a name may have it. -/
def PidText (pid : Bytes) : Prop := pid ≠ [] ∧ pid.all isDigit = true

theorem pidText_decimalText (pid : Nat) : PidText (decimalText pid) := by
  rw [decimalText_natCast]
  constructor
  · obtain ⟨digit, rest, heq, -⟩ := head_printed pid
    rw [heq]
    exact List.cons_ne_nil _ _
  · rw [List.all_eq_true]
    intro c hc
    obtain ⟨hlow, hhigh⟩ := digit_of_digitsFrom (digitsFrom_printed pid) c hc
    exact Bool.and_eq_true_iff.mpr ⟨decide_eq_true hlow, decide_eq_true hhigh⟩

section Behind

variable {file digest : Bytes} (h : ValidDigest spec digest)
include h

theorem classify_of_artifact (hname : filename file = digest ++ spec.artifactSuffix) :
    classify spec file = { kind := .kArtifact, artifact := file } := by
  rw [classify_of_digest h hname, if_pos rfl]

/-- Behind the suffix a text is looked at by its own length and beginning. -/
theorem classify_of_tail {tail : Bytes} (htail : tail ≠ [])
    (hname : filename file = digest ++ (spec.artifactSuffix ++ tail)) :
    classify spec file =
      if (text ".partial.").length < tail.length ∧ tail.take (text ".partial.").length = text ".partial." then
        if (tail.drop (text ".partial.").length).all isDigit then
          { kind := .kPartial, artifact := join (parentPath file) (digest ++ spec.artifactSuffix) }
        else {}
      else {} := by
  have hne : spec.artifactSuffix ++ tail ≠ spec.artifactSuffix := fun heq =>
    htail (List.append_right_eq_self.mp heq)
  have hdrop : (spec.artifactSuffix ++ tail).drop (spec.artifactSuffix ++ text ".partial.").length =
      tail.drop (text ".partial.").length := by
    rw [List.length_append, List.drop_append, List.drop_of_length_le (Nat.le_add_right _ _),
      List.nil_append,
      Nat.add_sub_cancel_left]
  have htake : (spec.artifactSuffix ++ tail).take (spec.artifactSuffix ++ text ".partial.").length =
      spec.artifactSuffix ++ tail.take (text ".partial.").length := by
    rw [List.length_append, List.take_append, List.take_of_length_le (Nat.le_add_right _ _),
      Nat.add_sub_cancel_left]
  rw [classify_of_digest h hname, if_neg hne, hdrop]
  refine if_congr ?_ rfl rfl
  rw [htake, List.append_cancel_left_eq, List.length_append, List.length_append,
    Nat.add_lt_add_iff_left]

theorem classify_of_marked {pid : Bytes} (hpid : PidText pid)
    (hname : filename file = digest ++ (spec.artifactSuffix ++ (text ".partial." ++ pid))) :
    classify spec file =
      { kind := .kPartial, artifact := join (parentPath file) (digest ++ spec.artifactSuffix) } := by
  have hlength : (text ".partial.").length < (text ".partial." ++ pid).length := by
    rw [List.length_append]
    have hpos := List.length_pos_iff.mpr hpid.1
    omega
  have htail : text ".partial." ++ pid ≠ [] := List.append_ne_nil_of_right_ne_nil _ hpid.1
  rw [classify_of_tail h htail hname, if_pos ⟨hlength, List.take_left⟩, List.drop_left,
    if_pos hpid.2]

/-- A text that is too short for a mark and a process id is none. -/
theorem classify_of_short {tail : Bytes} (htail : tail ≠ [])
    (hshort : tail.length ≤ (text ".partial.").length)
    (hname : filename file = digest ++ (spec.artifactSuffix ++ tail)) :
    classify spec file = {} := by
  rw [classify_of_tail h htail hname, if_neg]
  exact fun hlong => Nat.not_lt.mpr hshort hlong.1

end Behind

/-! ## The names of either kind -/

/-- Whatever is not a digest and the suffix, with a mark and a process id behind them or without, is foreign. -/
theorem classify_other {file : Bytes}
    (hartifact : ∀ digest, ValidDigest spec digest → filename file ≠ digest ++ spec.artifactSuffix)
    (hmarked : ∀ digest pid, ValidDigest spec digest → PidText pid →
      filename file ≠ digest ++ (spec.artifactSuffix ++ (text ".partial." ++ pid))) :
    classify spec file = {} := by
  by_cases hdigest : ∃ digest rest, ValidDigest spec digest ∧ filename file = digest ++ rest
  · obtain ⟨digest, rest, h, hname⟩ := hdigest
    rw [classify_of_digest h hname]
    split
    · next heq => exact absurd (heq ▸ hname) (hartifact digest h)
    · split
      · next hmarker =>
        split
        · next hdigits =>
          -- the pieces that the branches looked at make up a partial's name
          have hrest : rest = spec.artifactSuffix ++ text ".partial." ++
              rest.drop (spec.artifactSuffix ++ text ".partial.").length := by
            conv_lhs => rw [← List.take_append_drop (spec.artifactSuffix ++ text ".partial.").length
              rest, hmarker.2]
          have hpid : PidText (rest.drop (spec.artifactSuffix ++ text ".partial.").length) := by
            refine ⟨fun hnil => ?_, hdigits⟩
            have hle := List.drop_eq_nil_iff.mp hnil
            exact Nat.not_lt.mpr hle hmarker.1
          rw [List.append_assoc] at hrest
          exact absurd (hname.trans (congrArg (digest ++ ·) hrest)) (hmarked digest _ h hpid)
        · rfl
      · rfl
  · exact classify_of_none fun digest rest h hname => hdigest ⟨digest, rest, h, hname⟩

theorem classify_artifact_iff {file : Bytes} :
    (classify spec file).kind = .kArtifact ↔
      ∃ digest, ValidDigest spec digest ∧ filename file = digest ++ spec.artifactSuffix := by
  constructor
  · intro hkind
    by_contra hnone
    by_cases hmarked : ∃ digest pid, ValidDigest spec digest ∧ PidText pid ∧
        filename file = digest ++ (spec.artifactSuffix ++ (text ".partial." ++ pid))
    · obtain ⟨digest, pid, h, hpid, hname⟩ := hmarked
      rw [classify_of_marked h hpid hname] at hkind
      cases hkind
    · have hother := classify_other (fun digest h hname => hnone ⟨digest, h, hname⟩)
        fun digest pid h hpid hname => hmarked ⟨digest, pid, h, hpid, hname⟩
      rw [hother] at hkind
      cases hkind
  · rintro ⟨digest, h, hname⟩
    rw [classify_of_artifact h hname]

/-! ## The files of a cache -/

inductive Managed where
  | artifactFile (digest : Bytes)
  | partialFile (digest : Bytes) (pid : Nat)
  | lockFile (digest : Bytes)
  | touchFile (digest : Bytes)
  deriving DecidableEq

namespace Managed

def digest : Managed → Bytes
  | artifactFile digest | partialFile digest _ | lockFile digest | touchFile digest => digest

variable (spec) in
/-- Where a file stands. -/
def path : Managed → Bytes
  | artifactFile digest => artifact spec digest
  | partialFile digest pid => partialOf (artifact spec digest) pid
  | lockFile digest => lockOf (artifact spec digest)
  | touchFile digest => touchOf (artifact spec digest)

/-- What the name of a file has behind the suffix. -/
def tail : Managed → Bytes
  | artifactFile _ => []
  | partialFile _ pid => text ".partial." ++ decimalText pid
  | lockFile _ => text ".lock"
  | touchFile _ => text ".touch"

end Managed

theorem notMem_of_valid {digest : Bytes} (h : ValidDigest spec digest) :
    pathSeparator ∉ digest := by
  intro hmem
  exact absurd (List.all_eq_true.mp h.2 pathSeparator hmem) (by decide)

theorem notMem_pid {pid : Bytes} (h : PidText pid) : pathSeparator ∉ pid := by
  intro hmem
  exact absurd (List.all_eq_true.mp h.2 pathSeparator hmem) (by decide)

section Behind

variable (hsuffix : pathSeparator ∉ spec.artifactSuffix) {digest tail : Bytes}
    (h : ValidDigest spec digest)
  (htail : pathSeparator ∉ tail)
include hsuffix h htail

theorem artifact_append :
    artifact spec digest ++ tail = join spec.root (digest ++ spec.artifactSuffix ++ tail) := by
  refine join_append (fun hmem => ?_) htail spec.root
  exact (List.mem_append.mp hmem).elim (notMem_of_valid h) hsuffix

theorem filename_behind :
    filename (artifact spec digest ++ tail) = digest ++ (spec.artifactSuffix ++ tail) := by
  rw [artifact_append hsuffix h htail, filename_join, List.append_assoc]
  intro hmem
  rcases List.mem_append.mp hmem with hfront | hmem
  · exact (List.mem_append.mp hfront).elim (notMem_of_valid h) hsuffix
  · exact htail hmem

end Behind

theorem filename_artifact (hsuffix : pathSeparator ∉ spec.artifactSuffix) {digest : Bytes}
    (h : ValidDigest spec digest) : filename (artifact spec digest) = digest ++
      spec.artifactSuffix := by
  have hname := filename_behind hsuffix h List.not_mem_nil
  rwa [List.append_nil, List.append_nil] at hname

/-- The artifact of a partial is the one it is to become. -/
theorem same_artifact (hsuffix : pathSeparator ∉ spec.artifactSuffix) {digest tail : Bytes}
    (h : ValidDigest spec digest) (htail : pathSeparator ∉ tail) :
    Same (join (parentPath (artifact spec digest ++ tail)) (digest ++ spec.artifactSuffix))
      (artifact spec digest) := by
  have hname : pathSeparator ∉ digest ++ spec.artifactSuffix := fun hmem =>
    (List.mem_append.mp hmem).elim (notMem_of_valid h) hsuffix
  rw [artifact_append hsuffix h htail]
  exact same_join_parentPath (fun hmem => (List.mem_append.mp hmem).elim hname htail) hname
    spec.root

namespace Managed

theorem notMem_tail (key : Managed) : pathSeparator ∉ key.tail := by
  cases key with
  | artifactFile digest => exact List.not_mem_nil
  | partialFile digest pid =>
    intro hmem
    rcases List.mem_append.mp hmem with hmark | hpid
    · exact absurd hmark (by decide)
    · exact notMem_pid (pidText_decimalText pid) hpid
  | lockFile digest =>
    show pathSeparator ∉ text ".lock"
    decide
  | touchFile digest =>
    show pathSeparator ∉ text ".touch"
    decide

/-- The first letters behind the suffix. -/
def mark : Managed → Bytes
  | artifactFile _ => []
  | partialFile _ _ => text ".p"
  | lockFile _ => text ".l"
  | touchFile _ => text ".t"

theorem take_tail (key : Managed) : key.tail.take 2 = key.mark := by
  cases key with
  | artifactFile digest => rfl
  | partialFile digest pid =>
    show (text ".partial." ++ decimalText pid).take 2 = text ".p"
    rw [List.take_append_of_le_length (by decide)]
    decide
  | lockFile digest =>
    show (text ".lock").take 2 = text ".l"
    decide
  | touchFile digest =>
    show (text ".touch").take 2 = text ".t"
    decide

/-- Names are told apart by their marks, those of partials by their process ids. -/
theorem tail_inj {key key' : Managed} (hdigest : key.digest = key'.digest)
    (htail : key.tail = key'.tail) :
    key = key' := by
  have hmark : key.mark = key'.mark := by rw [← take_tail, ← take_tail, htail]
  cases key <;> cases key' <;> simp only [mark] at hmark <;> try exact absurd hmark (by decide)
  case artifactFile.artifactFile digest digest' => exact congrArg artifactFile hdigest
  case partialFile.partialFile digest pid digest' pid' =>
    have hpid := decimalText_inj (List.append_cancel_left htail)
    exact congrArg₂ partialFile hdigest (Int.ofNat.inj hpid)
  case lockFile.lockFile digest digest' => exact congrArg lockFile hdigest
  case touchFile.touchFile digest digest' => exact congrArg touchFile hdigest

variable (spec) in
theorem path_eq (key : Managed) : key.path spec = artifact spec key.digest ++ key.tail := by
  cases key with
  | artifactFile digest => exact (List.append_nil _).symm
  | _ => rfl

theorem filename_inj (hsuffix : pathSeparator ∉ spec.artifactSuffix) {key key' : Managed}
    (h : ValidDigest spec key.digest) (h' : ValidDigest spec key'.digest)
    (hname : filename (key.path spec) = filename (key'.path spec)) : key = key' := by
  rw [path_eq, path_eq, filename_behind hsuffix h key.notMem_tail,
    filename_behind hsuffix h' key'.notMem_tail] at hname
  obtain ⟨hdigest, hrest⟩ := List.append_inj hname (h.1.trans h'.1.symm)
  exact tail_inj hdigest (List.append_cancel_left hrest)

end Managed

/-! ## No two names clash -/

variable (spec) in
/-- What cleanup relies on. -/
structure NamesApart : Prop where
  artifacts : ∀ digest, ValidDigest spec digest →
    classify spec (artifact spec digest) = { kind := .kArtifact, artifact := artifact spec digest }
  partials : ∀ digest pid, ValidDigest spec digest →
    (classify spec (partialOf (artifact spec digest) pid)).kind = .kPartial ∧
      Same (classify spec (partialOf (artifact spec digest) pid)).artifact (artifact spec digest)
  locks : ∀ digest, ValidDigest spec digest → (classify spec (lockOf (artifact spec digest))).kind =
    .kOther
  touches : ∀ digest, ValidDigest spec digest →
    (classify spec (touchOf (artifact spec digest))).kind = .kOther
  others : ∀ file,
    (∀ digest, ValidDigest spec digest → filename file ≠ filename (artifact spec digest)) →
    (∀ digest pid, ValidDigest spec digest → PidText pid →
      filename file ≠ filename (artifact spec digest ++ (text ".partial." ++ pid))) →
    (classify spec file).kind = .kOther
  managed : ∀ file, (classify spec file).kind = .kArtifact →
    ∃ digest, ValidDigest spec digest ∧ filename file = filename (artifact spec digest)
  apart : ∀ key key' : Managed, ValidDigest spec key.digest → ValidDigest spec key'.digest →
    filename (key.path spec) = filename (key'.path spec) → key = key'

/-- The suffix is free as long as it names no directory: the names of a cache are those that cleanup takes
them for, and no two files have one name. -/
theorem names_never_clash (spec : CacheSpec) (hsuffix : pathSeparator ∉ spec.artifactSuffix) :
    NamesApart spec where
  artifacts digest h := classify_of_artifact h (filename_artifact hsuffix h)
  partials digest pid h := by
    have htail := (Managed.partialFile digest pid).notMem_tail
    have hclass : classify spec (partialOf (artifact spec digest) pid) = _ :=
      classify_of_marked h (pidText_decimalText pid) (filename_behind hsuffix h htail)
    rw [hclass]
    exact ⟨rfl, same_artifact hsuffix h htail⟩
  locks digest h := by
    have hname : filename (lockOf (artifact spec digest)) = digest ++
        (spec.artifactSuffix ++ text ".lock") :=
      filename_behind hsuffix h (Managed.lockFile digest).notMem_tail
    exact congrArg Classified.kind (classify_of_short h (by decide) (by decide) hname)
  touches digest h := by
    have hname : filename (touchOf (artifact spec digest)) = digest ++
        (spec.artifactSuffix ++ text ".touch") :=
      filename_behind hsuffix h (Managed.touchFile digest).notMem_tail
    exact congrArg Classified.kind (classify_of_short h (by decide) (by decide) hname)
  others file hartifact hmarked := by
    refine congrArg Classified.kind
      (classify_other (fun digest h => ?_) fun digest pid h hpid => ?_)
    · rw [← filename_artifact hsuffix h]
      exact hartifact digest h
    · have htail : pathSeparator ∉ text ".partial." ++ pid := fun hmem =>
        (List.mem_append.mp hmem).elim (by decide) (notMem_pid hpid)
      rw [← filename_behind hsuffix h htail]
      exact hmarked digest pid h hpid
  managed file hkind := by
    obtain ⟨digest, h, hname⟩ := classify_artifact_iff.mp hkind
    exact ⟨digest, h, hname.trans (filename_artifact hsuffix h).symm⟩
  apart _ _ h h' hname := Managed.filename_inj hsuffix h h' hname

/-- Also of a suffix that looks like a partial's. -/
theorem names_never_clash_mimic :
    NamesApart
      { root := text "/cache"
        artifactSuffix := text ".pj.partial.7"
        identity := { schemePrefix := text "id:" } } :=
  names_never_clash _ (by decide)

end CacheLayout

end PlotJugglerSdk
