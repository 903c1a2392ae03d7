import BucketLifecycle.Proofs.Bucket.UriGrammar
import BucketLifecycle.Proofs.Transfer.NamingRoundTrip

/-!
# Objects below a prefix

A name that is put under a prefix adds its segments behind those that are there
(`namesIn_joinPath`), and what the path begins with stays (`head?_joinPath`).  Both hold of any
number of names, one after another.

Nothing looks at what the names are.  So a path is free of relative segments, and is read back from
its text, exactly where all the names are free of them (`parse_toText_iff`), and it begins with a
slash exactly where the text that was read has two behind the bucket: `joins_of_parse` says what
prefixes and names come to, and `slashed_or_relative` that not all of them come to a clean path.

Two names that are put under a prefix one after another lead where one name leads, the two with a
slash in between, unless the first ends in a slash behind something else: then that slash would be
doubled (`joinPath_joinPath_iff`).  The segments are the same either way, and
`joins_append_segments` has both laws.
-/

set_option autoImplicit false

namespace BucketLifecycle

/-! ### Paths and names as characters -/

/-- The names of a path with a slash in it are those in front of the slash and those behind it. -/
theorem namesIn_append_slash (path rest : List Char) :
    namesIn (path ++ '/' :: rest) = namesIn path ++ namesIn rest := by
  unfold namesIn
  rw [Text.segments_append_cons, List.filter_append]

/-- A slash at the front adds no name. -/
theorem namesIn_slash (rest : List Char) : namesIn ('/' :: rest) = namesIn rest :=
  namesIn_append_slash [] rest

/-- Slashes at the front make no difference to the names. -/
theorem namesIn_dropSlashes (name : List Char) :
    namesIn (name.dropWhile (· == '/')) = namesIn name := by
  induction name with
  | nil => rfl
  | cons c rest ih =>
    by_cases hc : c = '/'
    · subst hc
      rw [List.dropWhile_cons_of_pos (by simp), ih, namesIn_slash]
    · rw [List.dropWhile_cons_of_neg (by simpa using hc)]

/-- The segments of a name follow those of the path that it is put under. -/
theorem namesIn_joinPath (path name : List Char) :
    namesIn (joinPath path name) = namesIn path ++ namesIn name := by
  rw [← namesIn_dropSlashes name]
  unfold joinPath
  dsimp only
  split
  · next hopen =>
    cases hpath : path.isEmpty with
    | true =>
      rw [List.isEmpty_iff.1 hpath]
      rfl
    | false =>
      have hlast : path.getLast? = some '/' := by simpa [hpath] using hopen
      obtain ⟨front, rfl⟩ := List.getLast?_eq_some_iff.1 hlast
      rw [List.append_assoc, List.singleton_append, namesIn_append_slash, namesIn_append_slash]
      exact congrArg (· ++ _) (List.append_nil _).symm
  · rw [namesIn_append_slash]

/-- Without its leading slashes a name begins with no slash. -/
theorem head?_dropSlashes_ne (name : List Char) :
    (name.dropWhile (· == '/')).head? ≠ some '/' := by
  intro h
  have hhead := List.head?_dropWhile_not (· == '/') name
  rw [h] at hhead
  cases hhead

/-- A path begins with a slash exactly where it did so before a name was put under it. -/
theorem head?_joinPath (path name : List Char) :
    (joinPath path name).head? = some '/' ↔ path.head? = some '/' := by
  cases path with
  | nil => simpa [joinPath] using head?_dropSlashes_ne name
  | cons c rest =>
    unfold joinPath
    dsimp only
    split <;> rfl

/-! ### Prefixes -/

/-- A path is plain where none of the names in it is relative. -/
theorem plainPath_iff {path : String} :
    PlainPath path ↔ ∀ name ∈ namesIn path.toList, isRelativeSegment name = false := by
  rw [forall_mem_namesIn_iff, segments_eq_splitOn]
  rfl

namespace ObjectUri

/-- The object below a prefix that names lead to, one after another. -/
def joinAll (u : ObjectUri) (names : List String) : ObjectUri :=
  names.foldl join u

/-- Joining names keeps to the bucket. -/
theorem bucket_joinAll (u : ObjectUri) (names : List String) :
    (u.joinAll names).bucket = u.bucket := by
  induction names generalizing u with
  | nil => rfl
  | cons name rest ih => exact ih (u.join name)

/-- The path of a join is the path put together with the name. -/
theorem toList_path_join (u : ObjectUri) (name : String) :
    (u.join name).path.toList = joinPath u.path.toList name.toList :=
  String.toList_ofList

/-- Joining adds the names in what is joined, in order. -/
theorem namesIn_joinAll (u : ObjectUri) (names : List String) :
    namesIn (u.joinAll names).path.toList =
      namesIn u.path.toList ++ names.flatMap fun name => namesIn name.toList := by
  induction names generalizing u with
  | nil => exact (List.append_nil _).symm
  | cons name rest ih =>
    rw [List.flatMap_cons, ← List.append_assoc, ← namesIn_joinPath, ← toList_path_join]
    exact ih (u.join name)

/-- A join begins with a slash where the path did. -/
theorem head?_joinAll (u : ObjectUri) (names : List String) :
    (u.joinAll names).path.toList.head? = some '/' ↔ u.path.toList.head? = some '/' := by
  induction names generalizing u with
  | nil => exact Iff.rfl
  | cons name rest ih =>
    rw [← head?_joinPath u.path.toList name.toList, ← toList_path_join]
    exact ih (u.join name)

/-- Names below a plain path make another one exactly where all of them are plain. -/
theorem plainPath_joinAll {u : ObjectUri} (hpath : PlainPath u.path) (names : List String) :
    PlainPath (u.joinAll names).path ↔ ∀ name ∈ names, PlainPath name := by
  rw [plainPath_iff] at hpath
  simp only [plainPath_iff, namesIn_joinAll, List.mem_append, List.mem_flatMap]
  constructor
  · intro h name hname segment hsegment
    exact h segment (.inr ⟨name, hname, hsegment⟩)
  · rintro h segment (hsegment | ⟨name, hname, hsegment⟩)
    · exact hpath segment hsegment
    · exact h name hname segment hsegment

variable {u : ObjectUri} (hscheme : SchemeText u.bucket.scheme.toList)
  (hname : NameText u.bucket.name.toList)

include hscheme hname

/-- An object of a bucket is read back from its text exactly where its path is plain. -/
theorem parse_toText_iff : parse u.toText = .ok u ↔ PlainPath u.path := by
  constructor
  · intro h
    obtain ⟨-, -, hpath, -⟩ := parse_eq_ok_iff.1 h
    exact hpath
  · intro hpath
    exact parse_eq_ok_iff.2 ⟨hscheme, hname, hpath, .inr u.toText_eq⟩

/-- Where it is not plain, the text is turned down for that. -/
theorem parse_toText_of_not_plain (hpath : ¬PlainPath u.path) :
    parse u.toText = .error ⟨u.toText, .relativeSegment⟩ := by
  have hchars : u.toText.toList = u.bucket.scheme.toList ++
      (schemeMark ++ (u.bucket.name.toList ++ '/' :: u.path.toList)) := by
    rw [toText, String.toList_ofList, BucketUri.chars]
    simp only [List.append_assoc]
  have hrelative : (Text.segments '/' u.path.toList).any isRelativeSegment = true := by
    rw [← Bool.not_eq_false, any_isRelativeSegment_eq_false_iff]
    exact hpath
  have hread : ofChars u.toText.toList = .error .relativeSegment := by
    unfold ofChars
    rw [splitScheme_eq_ok_iff.2 ⟨hscheme, hchars⟩]
    simp [bind, Except.bind, Text.cutAt_append_cons hname.slash_not_mem, hrelative]
  rw [parse, hread]
  rfl

end ObjectUri

/-- A text that was read has a second slash behind its bucket exactly where the path begins with
it. -/
theorem head?_path_of_parse {s : String} {u : ObjectUri} (h : ObjectUri.parse s = .ok u) :
    u.path.toList.head? = some '/' ↔ ∃ rest, s = u.bucket.toText ++ "//" ++ rest := by
  obtain ⟨-, -, -, htext⟩ := ObjectUri.parse_eq_ok_iff.1 h
  constructor
  · intro hhead
    obtain ⟨rest, hrest⟩ := List.head?_eq_some_iff.1 hhead
    rcases htext with ⟨-, hempty⟩ | rfl
    · rw [hempty] at hrest
      cases hrest
    · refine ⟨String.ofList rest, ?_⟩
      rw [← String.toList_inj]
      simp [hrest]
  · rintro ⟨rest, hrest⟩
    have hchars := congrArg String.toList hrest
    rcases htext with ⟨rfl, -⟩ | rfl
    · simp at hchars
    · simp only [String.toList_append, List.append_assoc] at hchars
      have hpath := List.append_cancel_left hchars
      simp only [toList_slash, List.singleton_append] at hpath
      have hslashes : "//".toList = ['/', '/'] := by simp
      rw [hslashes] at hpath
      rw [(List.cons.inj hpath).2]
      rfl

/-- What becomes of an object that was read when names are put under it one after another, whatever
these are.  It stays in its bucket.  Its path begins with a slash exactly where the text has two
behind the bucket.  It is free of relative segments exactly where all the names are, and then it is
what its own text is read as; otherwise that text is turned down. -/
theorem joins_of_parse {s : String} {u : ObjectUri} (h : ObjectUri.parse s = .ok u)
    (names : List String) :
    (u.joinAll names).bucket = u.bucket ∧
    ((u.joinAll names).path.toList.head? = some '/' ↔
      ∃ rest, s = u.bucket.toText ++ "//" ++ rest) ∧
    (PlainPath (u.joinAll names).path ↔ ∀ name ∈ names, PlainPath name) ∧
    (ObjectUri.parse (u.joinAll names).toText = .ok (u.joinAll names) ↔
      ∀ name ∈ names, PlainPath name) ∧
    ((∃ name ∈ names, ¬PlainPath name) → ObjectUri.parse (u.joinAll names).toText =
      .error ⟨(u.joinAll names).toText, .relativeSegment⟩) := by
  obtain ⟨hscheme, hname, hpath, -⟩ := ObjectUri.parse_eq_ok_iff.1 h
  have hbucket := u.bucket_joinAll names
  have hplain := ObjectUri.plainPath_joinAll hpath names
  rw [← hbucket] at hscheme hname
  refine ⟨hbucket, ?_, hplain, ?_, ?_⟩
  · rw [ObjectUri.head?_joinAll, head?_path_of_parse h]
  · rw [ObjectUri.parse_toText_iff hscheme hname, hplain]
  · rintro ⟨name, hmem, hrelative⟩
    refine ObjectUri.parse_toText_of_not_plain hscheme hname fun hall => ?_
    exact hrelative (hplain.1 hall name hmem)

/-- Names that begin or end with slashes, or hold periods, below a prefix that begins with a slash:
the slash stays, and the object is read back. -/
theorem joins_of_slashed_prefix :
    let u : ObjectUri := ⟨⟨"gs", "ci-artifacts"⟩, "/logs"⟩
    let names := ["//a/", "b..", "c"]
    ObjectUri.parse "gs://ci-artifacts//logs" = .ok u ∧
      (u.joinAll names).path = "/logs/a/b../c" ∧
      (u.joinAll names).path.toList.head? = some '/' ∧
      ObjectUri.parse (u.joinAll names).toText = .ok (u.joinAll names) := by
  intro u names
  have hread : ObjectUri.parse "gs://ci-artifacts//logs" = .ok u := by
    decide +kernel
  have hpath : (u.joinAll names).path = "/logs/a/b../c" := by
    decide +kernel
  have htext : "gs://ci-artifacts//logs" = u.bucket.toText ++ "//" ++ "logs" := by
    decide +kernel
  obtain ⟨-, hslash, -, hback, -⟩ := joins_of_parse hread names
  have hplain : ∀ name ∈ names, PlainPath name := by
    unfold PlainPath
    decide +kernel
  exact ⟨hread, hpath, hslash.2 ⟨_, htext⟩, hback.2 hplain⟩

/-- A path that was read can begin with a slash; and below a prefix that was read, a name can make
an object whose path holds a relative segment and whose own text is turned down. -/
theorem slashed_or_relative :
    (∃ u, ObjectUri.parse "gs://ci-artifacts//etc" = .ok u ∧ u.path = "/etc" ∧
      u.path.toList.head? = some '/') ∧
    ∃ u, ObjectUri.parse "gs://ci-artifacts/builds" = .ok u ∧
      (u.join "../etc").path = "builds/../etc" ∧ ¬PlainPath (u.join "../etc").path ∧
      ObjectUri.parse (u.join "../etc").toText =
        .error ⟨"gs://ci-artifacts/builds/../etc", .relativeSegment⟩ := by
  refine ⟨⟨⟨⟨"gs", "ci-artifacts"⟩, "/etc"⟩, ?_⟩, ⟨⟨"gs", "ci-artifacts"⟩, "builds"⟩, ?_⟩
  · decide +kernel
  · unfold PlainPath
    decide +kernel

/-! ### Names that are put together first -/

/-- Behind a name that is not empty, only how that name ends counts. -/
theorem belowPath_append (path : List Char) {name : List Char} (h : name ≠ []) :
    belowPath (path ++ name) = path ++ belowPath name := by
  have hempty : (path ++ name).isEmpty = name.isEmpty := by
    rw [List.isEmpty_eq_false_iff.2 h, List.isEmpty_eq_false_iff]
    exact List.append_ne_nil_of_right_ne_nil path h
  unfold belowPath
  rw [hempty, List.getLast?_append_of_ne_nil path h]
  split
  · rfl
  · rw [List.append_assoc]

/-- A path that ends in a slash gets no other one. -/
theorem belowPath_belowPath (path : List Char) : belowPath (belowPath path) = belowPath path := by
  by_cases hopen : path.isEmpty || path.getLast? == some '/'
  · have hkept : belowPath path = path := if_pos hopen
    rw [hkept, hkept]
  · have hslash : belowPath path = path ++ ['/'] := if_neg hopen
    rw [hslash, belowPath_append path (List.cons_ne_nil _ _)]
    rfl

/-- A slash is put behind a name that does not end in one. -/
theorem belowPath_eq_append_slash_iff {name : List Char} (h : name ≠ []) :
    belowPath name = name ++ ['/'] ↔ name.getLast? ≠ some '/' := by
  unfold belowPath
  simp [h]

/-- What goes below a join goes below the name, below the path. -/
theorem belowPath_joinPath (path name : List Char) :
    belowPath (joinPath path name) =
      belowPath path ++ belowPath (name.dropWhile (· == '/')) := by
  rw [joinPath_eq_append]
  by_cases hname : name.dropWhile (· == '/') = []
  · rw [hname, List.append_nil, belowPath_belowPath]
    exact (List.append_nil _).symm
  · exact belowPath_append _ hname

/-- Two names one after another make the path that one name makes, which is the two with a slash in
between, exactly where the first ends in no slash or is made of slashes only. -/
theorem joinPath_joinPath_iff (path first second : List Char) :
    joinPath (joinPath path first) second =
        joinPath path (first ++ '/' :: second.dropWhile (· == '/')) ↔
      first.getLast? ≠ some '/' ∨ ∀ c ∈ first, c = '/' := by
  rw [joinPath_eq_append (joinPath path first), belowPath_joinPath, joinPath_eq_append,
    List.append_assoc, List.append_right_inj, List.dropWhile_append]
  by_cases hfirst : first.dropWhile (· == '/') = []
  · -- Nothing is left of the first name, and the slash in between goes with it.
    have hslashes : ∀ c ∈ first, c = '/' := by simpa using hfirst
    rw [hfirst, List.isEmpty_nil, if_pos rfl, List.dropWhile_cons_of_pos (by simp),
      List.dropWhile_idempotent]
    exact iff_of_true rfl (.inr hslashes)
  · have hslashes : ¬∀ c ∈ first, c = '/' := by simpa using hfirst
    have hlast : first.getLast? = (first.dropWhile (· == '/')).getLast? := by
      rw [← List.getLast?_append_of_ne_nil (first.takeWhile (· == '/')) hfirst,
        List.takeWhile_append_dropWhile]
    rw [or_iff_left hslashes, hlast, ← belowPath_eq_append_slash_iff hfirst,
      if_neg (by simpa using hfirst), List.append_cons, List.append_left_inj]

/-- A name without the slashes in front of it. -/
def withoutLeadingSlashes (name : String) : String :=
  String.ofList (name.toList.dropWhile (· == '/'))

/-- Two joins are one with a slash between the names, where the first name does not end in a slash
or has nothing but slashes. -/
theorem ObjectUri.join_join_iff (u : ObjectUri) (first second : String) :
    (u.join first).join second = u.join (first ++ "/" ++ withoutLeadingSlashes second) ↔
      first.toList.getLast? ≠ some '/' ∨ ∀ c ∈ first.toList, c = '/' := by
  have hchars : (first ++ "/" ++ withoutLeadingSlashes second).toList =
      first.toList ++ '/' :: second.toList.dropWhile (· == '/') := by
    simp [withoutLeadingSlashes]
  rw [← joinPath_joinPath_iff u.path.toList, ← hchars, ← toList_path_join, ← toList_path_join,
    ← toList_path_join, String.toList_inj]
  constructor
  · exact congrArg ObjectUri.path
  · intro hpath
    exact congrArg (ObjectUri.mk u.bucket) hpath

/-- Putting names under an object is putting their segments behind those of its path, in order and
in the same bucket, however many the names are and wherever they have slashes.  Two names come to
the same object as the two put together, with one slash between them, exactly where the first ends
in no slash or is made of slashes only. -/
theorem joins_append_segments (u : ObjectUri) :
    (∀ names : List String, (u.joinAll names).bucket = u.bucket ∧
      namesIn (u.joinAll names).path.toList =
        namesIn u.path.toList ++ names.flatMap fun name => namesIn name.toList) ∧
    ∀ first second : String,
      (u.join first).join second = u.join (first ++ "/" ++ withoutLeadingSlashes second) ↔
        first.toList.getLast? ≠ some '/' ∨ ∀ c ∈ first.toList, c = '/' := by
  constructor
  · intro names
    exact ⟨u.bucket_joinAll names, u.namesIn_joinAll names⟩
  · exact u.join_join_iff

/-- Behind a name that ends in a slash, one more is an empty segment. -/
example :
    let u : ObjectUri := ⟨⟨"gs", "ci-artifacts"⟩, "builds"⟩
    ((u.join "a/").join "/b").path = "builds/a/b" ∧ (u.join "a//b").path = "builds/a//b" := by
  decide +kernel

end BucketLifecycle
