import BucketLifecycle.Proofs.Path.Components
import BucketLifecycle.Proofs.Text.Utf8Spelling
import BucketLifecycle.Transfer.Naming

/-!
# Where a download goes

What remains of an object's name behind a stripped part may begin with a slash or with a piece of a
segment, so the segments are looked at again after the cut.  Those that are left are file names in
UTF-8 as they are in the object's name (`isFileName_utf8Encode_iff`), and a download goes below its
directory by exactly these (`localPathFor_staysBelow`).
-/

set_option autoImplicit false

namespace BucketLifecycle

open BucketLifecycle.Path (IsFileName)

/-- The segments of a text that are not empty. -/
def namesIn (cs : List Char) : List (List Char) :=
  (Text.segments '/' cs).filter fun s => !s.isEmpty

/-- A component with the name that a text spells. -/
def Component.ofName (name : List Char) : Component :=
  .normal (Text.utf8Encode name)

/-- The segments that are no dots. -/
theorem isRelativeSegment_eq_false_iff {segment : List Char} :
    isRelativeSegment segment = false ↔ segment ≠ ['.'] ∧ segment ≠ ['.', '.'] := by
  simp [isRelativeSegment]

/-- No name is relative when no segment is. -/
theorem forall_mem_namesIn_iff {cs : List Char} :
    (∀ name ∈ namesIn cs, isRelativeSegment name = false) ↔
      ∀ segment ∈ Text.segments '/' cs, segment ≠ ['.'] ∧ segment ≠ ['.', '.'] := by
  constructor
  · intro h segment hsegment
    cases segment with
    | nil => simp
    | cons c rest =>
      exact isRelativeSegment_eq_false_iff.1 (h _ (List.mem_filter.2 ⟨hsegment, rfl⟩))
  · intro h name hname
    exact isRelativeSegment_eq_false_iff.2 (h name (List.mem_filter.1 hname).1)

/-- A text spells the name of a file exactly where the text itself is one: no other text is spelt
like a dot, and no other character holds the byte of a slash. -/
theorem isFileName_utf8Encode_iff {name : List Char} :
    IsFileName (Text.utf8Encode name) ↔
      name ≠ [] ∧ '/' ∉ name ∧ isRelativeSegment name = false := by
  rw [isRelativeSegment_eq_false_iff]
  constructor
  · rintro ⟨hne, hdot, hdotDot, hslash⟩
    refine ⟨?_, fun h => hslash (List.mem_flatMap.2 ⟨'/', h, by decide⟩), ?_, ?_⟩
    · rintro rfl
      exact hne rfl
    · rintro rfl
      exact hdot rfl
    · rintro rfl
      exact hdotDot rfl
  · rintro ⟨hne, hslash, hdot, hdotDot⟩
    refine ⟨fun h => hne (Text.utf8Encode_injective h),
      fun h : _ = Text.utf8Encode ['.'] => hdot (Text.utf8Encode_injective h),
      fun h : _ = Text.utf8Encode ['.', '.'] => hdotDot (Text.utf8Encode_injective h), fun h => ?_⟩
    obtain ⟨c, hc, hbyte⟩ := List.mem_flatMap.1 h
    have hchar : c.toNat = '/'.toNat := Text.toNat_eq_of_mem_utf8EncodeChar hbyte (by decide)
    rw [Char.toNat_inj.1 hchar] at hc
    exact hslash hc

/-- A name between slashes that is not relative names a file. -/
theorem isFileName_of_mem_namesIn {cs name : List Char} (h : name ∈ namesIn cs)
    (hrelative : isRelativeSegment name = false) : IsFileName (Text.utf8Encode name) := by
  obtain ⟨hsegment, hne⟩ := List.mem_filter.1 h
  exact isFileName_utf8Encode_iff.2
    ⟨by simpa using hne, Text.not_mem_of_mem_segments hsegment, hrelative⟩

/-- What the segments behind a cut are worth. -/
def checkedNames (rest : List Char) : Except NamingReason (List (List Char)) :=
  if (namesIn rest).any isRelativeSegment then .error .relativeSegment
  else if (namesIn rest).isEmpty then .error .nothingLeft
  else .ok (namesIn rest)

/-- Names pass the check when there are some and none is relative. -/
theorem checkedNames_eq_ok_iff {rest : List Char} {names : List (List Char)} :
    checkedNames rest = .ok names ↔
      namesIn rest = names ∧ names ≠ [] ∧ ∀ name ∈ names, isRelativeSegment name = false := by
  unfold checkedNames
  split
  · next hany =>
    simp only [reduceCtorEq, false_iff]
    rintro ⟨rfl, -, hall⟩
    obtain ⟨name, hname, hrelative⟩ := List.any_eq_true.1 hany
    rw [hall name hname] at hrelative
    cases hrelative
  next hnone =>
  have hall : ∀ name ∈ namesIn rest, isRelativeSegment name = false := by
    simpa using hnone
  split
  · next hempty =>
    simp only [reduceCtorEq, false_iff]
    rintro ⟨rfl, hne, -⟩
    exact hne (List.isEmpty_iff.1 hempty)
  · next hempty =>
    constructor
    · intro h
      cases h
      exact ⟨rfl, by simpa using hempty, hall⟩
    · rintro ⟨rfl, -, -⟩
      rfl

/-- A text without a stripped part in front is cut behind nothing. -/
theorem relativeSegments_eq (name : List Char) (strip : Option String) :
    relativeSegments name strip = match Text.dropStart? (strip.getD "").toList name with
      | some rest => checkedNames rest
      | none => .error (.namePrefix (strip.getD "")) := by
  cases strip with
  | none => rfl
  | some p =>
    unfold relativeSegments
    dsimp only [Option.getD_some]
    cases Text.dropStart? p.toList name <;> rfl

/-- The names of an object are those behind the prefix, if they pass the check. -/
theorem relativeSegments_eq_ok_iff {name : List Char} {strip : Option String}
    {names : List (List Char)} :
    relativeSegments name strip = .ok names ↔
      ∃ rest, name = (strip.getD "").toList ++ rest ∧ namesIn rest = names ∧ names ≠ [] ∧
        ∀ n ∈ names, isRelativeSegment n = false := by
  rw [relativeSegments_eq]
  simp only [← Text.dropStart?_eq_some_iff, ← checkedNames_eq_ok_iff]
  cases Text.dropStart? (strip.getD "").toList name with
  | none => simp
  | some rest => simp

section

variable {source : ObjectUri} {strip : Option String} {dir file : Path}

/-- The path of a download is the directory with the names pushed one by one. -/
theorem localPathFor_eq_ok_iff :
    localPathFor source strip dir = .ok file ↔
      ∃ names, relativeSegments source.path.toList strip = .ok names ∧
        (names.map Text.utf8Encode).foldl Path.push dir = file := by
  unfold localPathFor
  cases relativeSegments source.path.toList strip with
  | error reason => simp
  | ok names => simp [List.foldl_map]

/-- Names from a text lead below a directory by one component each. -/
theorem components_foldl_namesIn {rest : List Char}
    (h : ∀ name ∈ namesIn rest, isRelativeSegment name = false) :
    Path.components (((namesIn rest).map Text.utf8Encode).foldl Path.push dir) =
      dir.components ++ (namesIn rest).map Component.ofName := by
  have hfiles : ∀ bytes ∈ (namesIn rest).map Text.utf8Encode, IsFileName bytes := by
    intro bytes hbytes
    obtain ⟨name, hname, rfl⟩ := List.mem_map.1 hbytes
    exact isFileName_of_mem_namesIn hname (h name hname)
  rw [Path.components_foldl_push hfiles, List.map_map]
  rfl

variable (dir) in
/-- Names that pass the check give a path, with their components behind the directory. -/
theorem exists_localPathFor {rest : List Char}
    (hpath : source.path.toList = (strip.getD "").toList ++ rest) (hne : namesIn rest ≠ [])
    (hrelative : ∀ name ∈ namesIn rest, isRelativeSegment name = false) :
    ∃ file, localPathFor source strip dir = .ok file ∧
      file.components = dir.components ++ (namesIn rest).map Component.ofName := by
  have hnames : relativeSegments source.path.toList strip = .ok (namesIn rest) :=
    relativeSegments_eq_ok_iff.2 ⟨rest, hpath, rfl, hne, hrelative⟩
  exact ⟨_, localPathFor_eq_ok_iff.2 ⟨_, hnames, rfl⟩, components_foldl_namesIn hrelative⟩

/-- A path that is given has the names behind the prefix behind the directory. -/
theorem exists_rest_of_localPathFor (h : localPathFor source strip dir = .ok file) :
    ∃ rest, source.path.toList = (strip.getD "").toList ++ rest ∧ namesIn rest ≠ [] ∧
      (∀ name ∈ namesIn rest, isRelativeSegment name = false) ∧
      file.components = dir.components ++ (namesIn rest).map Component.ofName := by
  obtain ⟨names, hnames, rfl⟩ := localPathFor_eq_ok_iff.1 h
  obtain ⟨rest, hpath, rfl, hne, hrelative⟩ := relativeSegments_eq_ok_iff.1 hnames
  exact ⟨rest, hpath, hne, hrelative, components_foldl_namesIn hrelative⟩

end

/-- An object has a place below a directory exactly where its name begins with the stripped part
and goes on with some name and no relative segment, wherever the cut falls.  The place lies strictly
below the directory: its components are those of the directory and then the names that are left,
each of which is the name of a file. -/
theorem localPathFor_staysBelow (source : ObjectUri) (strip : Option String) (dir : Path) :
    ((∃ file, localPathFor source strip dir = .ok file) ↔
      ∃ rest, source.path.toList = (strip.getD "").toList ++ rest ∧ namesIn rest ≠ [] ∧
        ∀ segment ∈ Text.segments '/' rest, segment ≠ ['.'] ∧ segment ≠ ['.', '.']) ∧
    ∀ file, localPathFor source strip dir = .ok file →
      ∃ rest, source.path.toList = (strip.getD "").toList ++ rest ∧ namesIn rest ≠ [] ∧
        file.components = dir.components ++ (namesIn rest).map Component.ofName ∧
        ∀ name ∈ namesIn rest, IsFileName (Text.utf8Encode name) := by
  refine ⟨⟨?_, ?_⟩, ?_⟩
  · rintro ⟨file, hfile⟩
    obtain ⟨rest, hpath, hne, hrelative, -⟩ := exists_rest_of_localPathFor hfile
    exact ⟨rest, hpath, hne, forall_mem_namesIn_iff.1 hrelative⟩
  · rintro ⟨rest, hpath, hne, hsegments⟩
    obtain ⟨file, hfile, -⟩ :=
      exists_localPathFor dir hpath hne (forall_mem_namesIn_iff.2 hsegments)
    exact ⟨file, hfile⟩
  · intro file hfile
    obtain ⟨rest, hpath, hne, hrelative, hcomponents⟩ := exists_rest_of_localPathFor hfile
    exact ⟨rest, hpath, hne, hcomponents, fun name hname =>
      isFileName_of_mem_namesIn hname (hrelative name hname)⟩

example :
    localPathFor ⟨⟨"gs", "ci-artifacts"⟩, "logs/a..//b/"⟩ (some "logs/a") [0x6F] =
      .error (.transfer (Text.utf8Bytes "logs/a..//b/")
        "object name cannot contain relative segments") := by
  rfl

end BucketLifecycle
