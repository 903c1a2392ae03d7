import BucketLifecycle.Proofs.Bucket.Joining
import BucketLifecycle.Proofs.Client.HttpRetries

/-!
# What a file is uploaded as

A file gives a name to an object exactly where its components begin with those of the stripped part
and the rest of them can be named (`Nameable`): there is a name among them, every name is spelt in
UTF-8, and no step leads up.  What does not move, such as a lone period in front, is passed over.

The object then lies below its destination by these names (`path_of_objectNameFor`).  So it is an
object and no prefix, no part of its path is relative, and it is read back from its text:
`objectNameFor_names` puts this together.
-/

set_option autoImplicit false

namespace BucketLifecycle

open BucketLifecycle.Path (IsFileName)

/-- Components that the names of an object can be made of. -/
structure Nameable (rest : List Component) : Prop where
  parent_not_mem : .parent ∉ rest
  exists_name : ∃ name, .normal name ∈ rest
  spelt : ∀ name, .normal name ∈ rest → ∃ cs, name = Text.utf8Encode cs

/-- A name is a text exactly where a text is spelt like it. -/
theorem exists_utf8Text?_iff {name : Bytes} :
    (∃ s, Text.utf8Text? name = some s) ↔ ∃ cs, name = Text.utf8Encode cs := by
  constructor
  · rintro ⟨s, hs⟩
    exact ⟨s.toList, (Text.utf8Bytes_of_utf8Text? hs).symm⟩
  · rintro ⟨cs, rfl⟩
    refine ⟨String.ofList cs, ?_⟩
    rw [← Text.utf8Text?_utf8Bytes, Text.utf8Bytes, String.toList_ofList]

/-- Components have texts for names exactly where none leads up and each name is a text. -/
theorem exists_segmentNames_iff {components : List Component} :
    (∃ names, segmentNames components = .ok names) ↔ .parent ∉ components ∧
      ∀ name, .normal name ∈ components → ∃ cs, name = Text.utf8Encode cs := by
  induction components with
  | nil => simp [segmentNames]
  | cons component rest ih =>
    cases component with
    | root => simpa [segmentNames] using ih
    | current => simpa [segmentNames] using ih
    | parent => simp [segmentNames]
    | normal bytes =>
      have hstep : (∃ names, segmentNames (.normal bytes :: rest) = .ok names) ↔
          (∃ s, Text.utf8Text? bytes = some s) ∧ ∃ names, segmentNames rest = .ok names := by
        rw [segmentNames]
        cases Text.utf8Text? bytes with
        | none => simp
        | some s => cases segmentNames rest <;> simp [Except.map]
      rw [hstep, ih, exists_utf8Text?_iff]
      simp only [List.mem_cons, reduceCtorEq, false_or, Component.normal.injEq, forall_eq_or_imp]
      tauto

/-- There are names exactly when there are components that are no dots. -/
theorem exists_normal_iff {components : List Component} {names : List (List Char)}
    (h : segmentNames components = .ok names) :
    (∃ name, .normal name ∈ components) ↔ names ≠ [] := by
  have hnormal := filter_isNormal_of_segmentNames h
  constructor
  · rintro ⟨name, hname⟩ rfl
    have hmem : .normal name ∈ components.filter Component.isNormal :=
      List.mem_filter.2 ⟨hname, rfl⟩
    rw [hnormal] at hmem
    exact absurd hmem List.not_mem_nil
  · intro hne
    obtain ⟨name, hname⟩ := List.exists_mem_of_ne_nil names hne
    have hmem : Component.ofName name ∈ components.filter Component.isNormal := by
      rw [hnormal]
      exact List.mem_map_of_mem hname
    exact ⟨_, (List.mem_filter.1 hmem).1⟩

/-- Components give a name exactly where they can be named. -/
theorem exists_namedBy_iff {rest : List Component} :
    (∃ name, namedBy rest = .ok name) ↔ Nameable rest := by
  constructor
  · rintro ⟨name, h⟩
    obtain ⟨names, hnames, h⟩ := exists_of_bind_eq_ok h
    have hne : names ≠ [] := by
      rintro rfl
      cases h
    obtain ⟨hparent, hspelt⟩ := exists_segmentNames_iff.1 ⟨names, hnames⟩
    exact ⟨hparent, (exists_normal_iff hnames).2 hne, hspelt⟩
  · rintro ⟨hparent, hname, hspelt⟩
    obtain ⟨names, hnames⟩ := exists_segmentNames_iff.2 ⟨hparent, hspelt⟩
    have hne := (exists_normal_iff hnames).1 hname
    refine ⟨Text.joinSegments '/' names, ?_⟩
    unfold namedBy
    rw [hnames]
    simp [bind, Except.bind, pure, Except.pure, hne]

/-- A file is named by the components behind those of the stripped part. -/
theorem relativeName_eq (file : Path) (strip : Option Path) :
    relativeName file strip =
      match Text.dropStart? (strip.elim [] Path.components) file.components with
      | some rest => namedBy rest
      | none => .error (.pathPrefix (strip.getD [])) := by
  cases strip with
  | none => rfl
  | some p =>
    show relativeName file (some p) = match Path.stripPrefix? p file with
      | some rest => namedBy rest
      | none => .error (.pathPrefix p)
    unfold relativeName
    dsimp only
    cases Path.stripPrefix? p file <;> rfl

section

variable {file : Path} {strip : Option Path} {dest u : ObjectUri}

/-- A file has a name below the prefix when what is behind the prefix can be named. -/
theorem exists_relativeName_iff :
    (∃ name, relativeName file strip = .ok name) ↔
      ∃ rest, file.components = strip.elim [] Path.components ++ rest ∧ Nameable rest := by
  simp only [relativeName_eq, ← Text.dropStart?_eq_some_iff, ← exists_namedBy_iff]
  cases Text.dropStart? (strip.elim [] Path.components) file.components with
  | none => simp
  | some rest => simp

variable (dest) in
/-- A file has an object name exactly when it has a name below the prefix. -/
theorem exists_objectNameFor_iff :
    (∃ u, objectNameFor file strip dest = .ok u) ↔
      ∃ name, relativeName file strip = .ok name := by
  unfold objectNameFor
  cases relativeName file strip <;> simp

/-- An object that a file is uploaded as lies below its destination by the names among the
components that are left of the file. -/
theorem path_of_objectNameFor (h : objectNameFor file strip dest = .ok u) :
    ∃ rest names, file.components = strip.elim [] Path.components ++ rest ∧
      rest.filter Component.isNormal = names.map Component.ofName ∧ u.bucket = dest.bucket ∧
      u.path.toList = belowPath dest.path.toList ++ Text.joinSegments '/' names ∧
      (PlainPath dest.path → PlainPath u.path) := by
  obtain ⟨rest, names, hfile, hnormal, hne, hnames, rfl⟩ := exists_names_of_objectNameFor h
  have hplain := plain_of_isFileName hnames
  refine ⟨rest, names, hfile, hnormal, rfl, ?_, fun hdest => ?_⟩
  · rw [ObjectUri.toList_path_join, String.toList_ofList,
      joinPath_eq _ (head?_joinSegments_ne hplain)]
  · rw [plainPath_iff] at hdest ⊢
    rw [ObjectUri.toList_path_join, String.toList_ofList, namesIn_joinPath,
      namesIn_joinSegments hne hplain]
    intro name hname
    rcases List.mem_append.1 hname with hname | hname
    · exact hdest name hname
    · exact (isFileName_utf8Encode_iff.1 (hnames name hname)).2.2

end

/-- The object that a file is uploaded as below a destination that was read.  There is one exactly
where the file begins with the stripped part and what is left of its components can be named.  It
lies in the bucket of the destination, below its path by the names that are left; it is an object,
so that no upload to it is turned down without a request, and it is read back from its text.  Where
there is none, the failure names the file. -/
theorem objectNameFor_names {s : String} {dest : ObjectUri} (hdest : ObjectUri.parse s = .ok dest)
    (file : Path) (strip : Option Path) :
    ((∃ u, objectNameFor file strip dest = .ok u) ↔
      ∃ rest, file.components = strip.elim [] Path.components ++ rest ∧ Nameable rest) ∧
    (∀ u, objectNameFor file strip dest = .ok u →
      (∃ rest names, file.components = strip.elim [] Path.components ++ rest ∧
        rest.filter Component.isNormal = names.map Component.ofName ∧
        u.path.toList = belowPath dest.path.toList ++ Text.joinSegments '/' names) ∧
      u.bucket = dest.bucket ∧ PlainPath u.path ∧ u.NamesObject ∧
      (∀ (c : Client) (payload : Payload), c.upload u payload = c.perform (.upload u payload)) ∧
      ObjectUri.parse u.toText = .ok u) ∧
    ∀ e, objectNameFor file strip dest = .error e → ∃ reason : NamingReason,
      relativeName file strip = .error reason ∧ e = .transfer file reason.message := by
  obtain ⟨hscheme, hname, hpath, -⟩ := ObjectUri.parse_eq_ok_iff.1 hdest
  refine ⟨?_, fun u h => ?_, fun e h => ?_⟩
  · rw [exists_objectNameFor_iff, exists_relativeName_iff]
  · obtain ⟨rest, names, hfile, hnormal, hbucket, hchars, hplain⟩ := path_of_objectNameFor h
    have hobject := namesObject_of_objectNameFor h
    rw [← hbucket] at hscheme hname
    exact ⟨⟨rest, names, hfile, hnormal, hchars⟩, hbucket, hplain hpath, hobject,
      fun c => Client.upload_eq hobject,
      (ObjectUri.parse_toText_iff hscheme hname).2 (hplain hpath)⟩
  · unfold objectNameFor at h
    cases hrelative : relativeName file strip with
    | ok name =>
      rw [hrelative] at h
      cases h
    | error reason =>
      rw [hrelative] at h
      cases h
      exact ⟨reason, rfl, rfl⟩

/-- A stripped directory need not be spelt in UTF-8, and a destination may end in more than one
slash. -/
theorem names_below_unspelt_directory :
    let dest : ObjectUri := ⟨⟨"gs", "ci-artifacts"⟩, "runs//"⟩
    let u : ObjectUri := ⟨⟨"gs", "ci-artifacts"⟩, "runs//b/é"⟩
    ObjectUri.parse "gs://ci-artifacts/runs//" = .ok dest ∧
      objectNameFor (0xFF :: Text.utf8Bytes "/.//b//é/.") (some [0xFF]) dest = .ok u ∧
      u.NamesObject ∧ ObjectUri.parse u.toText = .ok u := by
  intro dest u
  have hdest : ObjectUri.parse "gs://ci-artifacts/runs//" = .ok dest := by
    decide +kernel
  have hnamed : objectNameFor (0xFF :: Text.utf8Bytes "/.//b//é/.") (some [0xFF]) dest = .ok u := by
    decide +kernel
  obtain ⟨-, hobject, -⟩ := objectNameFor_names hdest (0xFF :: Text.utf8Bytes "/.//b//é/.")
    (some [0xFF])
  obtain ⟨-, -, -, hnames, -, hback⟩ := hobject u hnamed
  exact ⟨hdest, hnamed, hnames, hback⟩

end BucketLifecycle
