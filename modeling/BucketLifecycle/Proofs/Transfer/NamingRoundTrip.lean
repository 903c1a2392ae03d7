import BucketLifecycle.Proofs.Transfer.LocalPath

/-!
# Downloads put back what uploads named

An upload makes an object's name of a file's components, a download makes a path of an object's
name.  The names in between are the same on both sides: each name among the components is spelt by
one text (`filter_isNormal_of_segmentNames`), these texts are the segments that the object's name
has behind its destination (`namesIn_joinSegments`), and a destination puts at most one slash in
front of them (`joinPath_eq`).  So a download that strips the destination gives back the components
that the upload was named after (`localPathFor_objectNameFor`).
-/

set_option autoImplicit false

namespace BucketLifecycle

open BucketLifecycle.Path (IsFileName)

/-- Whether a component is a name, and no step to elsewhere. -/
def Component.isNormal : Component → Bool
  | .normal _ => true
  | _ => false

/-- How the names of the objects below a destination begin. -/
def belowPath (path : List Char) : List Char :=
  if path.isEmpty || path.getLast? == some '/' then path else path ++ ['/']

/-- A name is put behind that, without the slashes in front of it. -/
theorem joinPath_eq_append (path name : List Char) :
    joinPath path name = belowPath path ++ name.dropWhile (· == '/') := by
  unfold joinPath belowPath
  dsimp only
  split
  · rfl
  · rw [List.append_assoc, List.singleton_append]

/-- A name without a slash in front is joined behind the path. -/
theorem joinPath_eq (path : List Char) {name : List Char} (h : name.head? ≠ some '/') :
    joinPath path name = belowPath path ++ name := by
  rw [joinPath_eq_append, List.dropWhile_beq_eq_self_of_head?_ne h]

/-- Names that no slash cuts are the segments of the text that slashes join them to. -/
theorem namesIn_joinSegments {names : List (List Char)} (hne : names ≠ [])
    (h : ∀ name ∈ names, name ≠ [] ∧ '/' ∉ name) :
    namesIn (Text.joinSegments '/' names) = names := by
  unfold namesIn
  rw [Text.segments_joinSegments hne fun name hname => (h name hname).2]
  exact List.filter_eq_self.2 fun name hname => by simpa using (h name hname).1

/-- Joined names do not start with a slash. -/
theorem head?_joinSegments_ne {names : List (List Char)}
    (h : ∀ name ∈ names, name ≠ [] ∧ '/' ∉ name) :
    (Text.joinSegments '/' names).head? ≠ some '/' := by
  cases names with
  | nil => simp [Text.joinSegments]
  | cons name rest =>
    obtain ⟨hne, hslash⟩ := h name List.mem_cons_self
    have hhead : (Text.joinSegments '/' (name :: rest)).head? = name.head? := by
      cases rest with
      | nil => rfl
      | cons next rest =>
        rw [Text.joinSegments, List.head?_append]
        cases name with
        | nil => exact absurd rfl hne
        | cons c name => rfl
    rw [hhead]
    exact fun hc => hslash (List.mem_of_head? hc)

/-- The texts that are made of components spell the names among them. -/
theorem filter_isNormal_of_segmentNames {components : List Component} {names : List (List Char)}
    (h : segmentNames components = .ok names) :
    components.filter Component.isNormal = names.map Component.ofName := by
  induction components generalizing names with
  | nil =>
    cases h
    rfl
  | cons component rest ih =>
    cases component with
    | root => exact ih h
    | current => exact ih h
    | parent => cases h
    | normal bytes =>
      rw [segmentNames] at h
      cases htext : Text.utf8Text? bytes with
      | none =>
        rw [htext] at h
        cases h
      | some s =>
        rw [htext] at h
        cases hrest : segmentNames rest with
        | error reason =>
          rw [hrest] at h
          cases h
        | ok more =>
          rw [hrest] at h
          cases h
          rw [List.filter_cons_of_pos rfl, ih hrest, List.map_cons, Component.ofName,
            ← Text.utf8Bytes_of_utf8Text? htext]
          rfl

/-- The name that components give. -/
def namedBy (rest : List Component) : Except NamingReason (List Char) := do
  let names ← segmentNames rest
  if names.isEmpty then .error .nothingLeft
  return Text.joinSegments '/' names

/-- The name of a file is made of the names behind the prefix. -/
theorem relativeName_eq_ok {file : Path} {strip : Option Path} {name : List Char}
    (h : relativeName file strip = .ok name) :
    ∃ rest names, file.components = strip.elim [] Path.components ++ rest ∧
      segmentNames rest = .ok names ∧ names ≠ [] ∧ name = Text.joinSegments '/' names := by
  have hnamed {rest : List Component} (h : namedBy rest = .ok name) :
      ∃ names, segmentNames rest = .ok names ∧ names ≠ [] ∧
        name = Text.joinSegments '/' names := by
    obtain ⟨names, hnames, h⟩ := exists_of_bind_eq_ok h
    cases names with
    | nil => cases h
    | cons first more =>
      cases h
      exact ⟨_, hnames, List.cons_ne_nil _ _, rfl⟩
  cases strip with
  | none =>
    obtain ⟨names, hnames⟩ := hnamed h
    exact ⟨file.components, names, rfl, hnames⟩
  | some p =>
    unfold relativeName at h
    dsimp only at h
    cases hstrip : Path.stripPrefix? p file with
    | none =>
      rw [hstrip] at h
      cases h
    | some rest =>
      rw [hstrip] at h
      obtain ⟨names, hnames⟩ := hnamed h
      exact ⟨rest, names, Text.dropStart?_eq_some_iff.1 hstrip, hnames⟩

/-- File names are neither empty nor hold a slash. -/
theorem plain_of_isFileName {names : List (List Char)}
    (h : ∀ name ∈ names, IsFileName (Text.utf8Encode name)) :
    ∀ name ∈ names, name ≠ [] ∧ '/' ∉ name := fun name hname => by
  obtain ⟨hne, hslash, -⟩ := isFileName_utf8Encode_iff.1 (h name hname)
  exact ⟨hne, hslash⟩

/-- A download that strips what the names below a destination begin with gives back the names among
the components that an upload was named after. -/
theorem exists_localPathFor_of_join (dest : ObjectUri) (dir : Path) {names : List (List Char)}
    (hne : names ≠ []) (hnames : ∀ name ∈ names, IsFileName (Text.utf8Encode name)) :
    ∃ back,
      localPathFor (dest.join (String.ofList (Text.joinSegments '/' names)))
          (some (String.ofList (belowPath dest.path.toList))) dir = .ok back ∧
        back.components = dir.components ++ names.map Component.ofName := by
  have hplain := plain_of_isFileName hnames
  have hsegments := namesIn_joinSegments hne hplain
  have hpath : (dest.join (String.ofList (Text.joinSegments '/' names))).path.toList =
      ((some (String.ofList (belowPath dest.path.toList))).getD "").toList ++
        Text.joinSegments '/' names := by
    rw [ObjectUri.join, Option.getD_some, String.toList_ofList, String.toList_ofList,
      String.toList_ofList, joinPath_eq _ (head?_joinSegments_ne hplain)]
  have hrelative : ∀ name ∈ names, isRelativeSegment name = false := fun name hname =>
    (isFileName_utf8Encode_iff.1 (hnames name hname)).2.2
  have hback := exists_localPathFor dir hpath
  rw [hsegments] at hback
  exact hback hne hrelative

/-- An upload joins to its destination the names among the components that are left for it, of which
there is one at least. -/
theorem exists_names_of_objectNameFor {file : Path} {strip : Option Path} {dest u : ObjectUri}
    (h : objectNameFor file strip dest = .ok u) :
    ∃ rest names, file.components = strip.elim [] Path.components ++ rest ∧
      rest.filter Component.isNormal = names.map Component.ofName ∧ names ≠ [] ∧
      (∀ name ∈ names, IsFileName (Text.utf8Encode name)) ∧
      u = dest.join (String.ofList (Text.joinSegments '/' names)) := by
  unfold objectNameFor at h
  cases hname : relativeName file strip with
  | error reason =>
    rw [hname] at h
    cases h
  | ok name =>
    rw [hname] at h
    cases h
    obtain ⟨rest, names, hfile, hnames, hne, rfl⟩ := relativeName_eq_ok hname
    have hnormal := filter_isNormal_of_segmentNames hnames
    refine ⟨rest, names, hfile, hnormal, hne, fun name hname => ?_, rfl⟩
    have hmem : Component.ofName name ∈ rest.filter Component.isNormal := by
      rw [hnormal]
      exact List.mem_map_of_mem hname
    refine Path.isFileName_of_mem_components (p := file) ?_
    rw [hfile]
    exact List.mem_append_right _ (List.mem_filter.1 hmem).1

/-- Downloading what was uploaded, with the destination stripped, gives the names among those
components of the file that were left for the upload, below whatever directory is chosen.  Below the
directory that the upload stripped, that is the file itself, if all of these components were names.
Paths with the same components are the same path. -/
theorem localPathFor_objectNameFor {file : Path} {strip : Option Path} {dest u : ObjectUri}
    (h : objectNameFor file strip dest = .ok u) :
    ∃ rest, file.components = strip.elim [] Path.components ++ rest ∧
      (∀ dir, ∃ back,
        localPathFor u (some (String.ofList (belowPath dest.path.toList))) dir = .ok back ∧
          back.components = dir.components ++ rest.filter Component.isNormal) ∧
      ∀ p, strip = some p → (∀ c ∈ rest, c.isNormal = true) → ∃ back,
        localPathFor u (some (String.ofList (belowPath dest.path.toList))) p = .ok back ∧
          back.components = file.components := by
  obtain ⟨rest, names, hfile, hnormal, hne, hfileNames, rfl⟩ := exists_names_of_objectNameFor h
  refine ⟨rest, hfile, fun dir => ?_, ?_⟩
  · rw [hnormal]
    exact exists_localPathFor_of_join dest dir hne hfileNames
  · rintro p rfl hall
    obtain ⟨back, hback, hcomponents⟩ :=
      exists_localPathFor_of_join dest p hne hfileNames
    refine ⟨back, hback, ?_⟩
    rw [hcomponents, ← hnormal, List.filter_eq_self.2 hall, hfile]
    rfl

/-- A file whose path repeats a slash and goes by way of its own directory comes back. -/
theorem namingRoundTrip_of_winding_path :
    ∃ u back, objectNameFor (Text.utf8Bytes "work//logs/./a é.txt") (some (Text.utf8Bytes "work/"))
        ⟨⟨"gs", "ci-artifacts"⟩, "runs"⟩ = .ok u ∧ u.path = "runs/logs/a é.txt" ∧
      localPathFor u (some "runs/") (Text.utf8Bytes "work/") = .ok back ∧
      back.components = Path.components (Text.utf8Bytes "work//logs/./a é.txt") := by
  have hnamed : objectNameFor (Text.utf8Bytes "work//logs/./a é.txt")
      (some (Text.utf8Bytes "work/")) ⟨⟨"gs", "ci-artifacts"⟩, "runs"⟩ =
        .ok ⟨⟨"gs", "ci-artifacts"⟩, "runs/logs/a é.txt"⟩ := by
    rfl
  obtain ⟨rest, hrest, -, hsame⟩ := localPathFor_objectNameFor hnamed
  have hparts : Path.components (Text.utf8Bytes "work//logs/./a é.txt") =
      Path.components (Text.utf8Bytes "work/") ++
        [.normal (Text.utf8Bytes "logs"), .normal (Text.utf8Bytes "a é.txt")] := by
    rfl
  have hleft := List.append_cancel_left (hrest.symm.trans hparts)
  obtain ⟨back, hback, hcomponents⟩ := hsame _ rfl (by rw [hleft]; decide)
  exact ⟨_, back, hnamed, rfl, hback, hcomponents⟩

end BucketLifecycle
