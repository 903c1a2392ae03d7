import BucketLifecycle.Proofs.Bucket.UriGrammar

/-!
# Bare bucket names

A bare name is read by putting the usual scheme in front of it and reading the whole as a URI.  No
scheme or mark inside the name is mistaken for those in front of it, so the name is judged as what
follows a scheme (`BucketUri.ofName_eq`).

A text without a slash is therefore judged as the check of names judges it, for the same reason.
The slash that may stand behind a URI may stand behind a bare name too; nothing else that is no name
is taken for one (`ofName_judges`).
-/

set_option autoImplicit false

namespace BucketLifecycle

/-- The usual scheme is one that a URI may have. -/
theorem schemeText_defaultScheme : SchemeText defaultScheme.toList :=
  isScheme_eq_true_iff.1 (by decide +kernel)

/-- A bare name is what follows the usual scheme. -/
theorem BucketUri.ofName_eq (name : String) :
    BucketUri.ofName name = (BucketUri.ofParts defaultScheme.toList name.toList).mapError
      (UriError.mk (defaultScheme ++ "://" ++ name)) := by
  have hsplit : splitScheme (defaultScheme ++ "://" ++ name).toList =
      .ok (defaultScheme.toList, name.toList) :=
    splitScheme_eq_ok_iff.2 ⟨schemeText_defaultScheme, eq_uri_iff.1 rfl⟩
  unfold BucketUri.ofName BucketUri.parse BucketUri.ofChars
  rw [hsplit]
  rfl

/-- A text is accepted as a bare name where it is a valid one, alone or with one slash behind it,
and the bucket has the usual scheme. -/
theorem BucketUri.ofName_eq_ok_iff {name : String} {b : BucketUri} :
    BucketUri.ofName name = .ok b ↔ b.scheme = defaultScheme ∧ checkBucketName b.name = .ok () ∧
      (name = b.name ∨ name = b.name ++ "/") := by
  have hread : BucketUri.ofName name = .ok b ↔
      BucketUri.ofParts defaultScheme.toList name.toList = .ok b := by
    rw [BucketUri.ofName_eq]
    refine ⟨eq_ok_of_mapError, fun h => ?_⟩
    rw [h]
    rfl
  rw [hread, BucketUri.ofParts_eq_ok_iff, String.toList_inj, checkBucketName, checkName_eq_ok_iff,
    ← toList_slash, ← String.toList_append, String.toList_inj, String.toList_inj]

/-- A text without a slash is a bare name where the check of names says so, and is rejected for the
reason that this check gives. -/
theorem BucketUri.ofName_of_noSlash {name : String} (hne : name ≠ "") (h : '/' ∉ name.toList) :
    BucketUri.ofName name = match checkBucketName name with
      | .ok () => .ok ⟨defaultScheme, name⟩
      | .error e => .error ⟨defaultScheme ++ "://" ++ name, .name e⟩ := by
  have hlast : name.toList.getLast? ≠ some '/' := fun hlast => h (List.mem_of_getLast? hlast)
  have hchars : name.toList ≠ [] := fun hnil => hne (String.toList_eq_nil_iff.1 hnil)
  rw [BucketUri.ofName_eq, BucketUri.ofParts, if_neg hlast, if_neg (by simpa using hchars),
    if_neg (by simpa using h), checkBucketName]
  cases checkName name.toList <;> simp [Except.mapError]

/-- What bare names come to.  Exactly the names are read, with one slash behind or none, and the
bucket has that name without the slash, under the usual scheme.  Whatever holds no slash is judged
as the check of names judges it, and for its reason. -/
theorem ofName_judges (name : String) :
    (∀ b, BucketUri.ofName name = .ok b ↔
      b.scheme = defaultScheme ∧ checkBucketName b.name = .ok () ∧
        (name = b.name ∨ name = b.name ++ "/")) ∧
    (name ≠ "" → '/' ∉ name.toList → BucketUri.ofName name = match checkBucketName name with
      | .ok () => .ok ⟨defaultScheme, name⟩
      | .error e => .error ⟨defaultScheme ++ "://" ++ name, .name e⟩) :=
  ⟨fun _ => BucketUri.ofName_eq_ok_iff, BucketUri.ofName_of_noSlash⟩

/-- A text that the check of names rejects is read as a bare name, for the slash behind it. -/
theorem slashed_bareName :
    checkBucketName "ci-artifacts/" = .error .character ∧
      BucketUri.ofName "ci-artifacts/" = .ok ⟨"gs", "ci-artifacts"⟩ ∧
      ¬∀ name, (∃ b, BucketUri.ofName name = .ok b) ↔ checkBucketName name = .ok () := by
  have hcheck : checkBucketName "ci-artifacts/" = .error .character := by decide +kernel
  have hread : BucketUri.ofName "ci-artifacts/" = .ok ⟨"gs", "ci-artifacts"⟩ :=
    BucketUri.ofName_eq_ok_iff.2 ⟨rfl, by decide +kernel, .inr (by decide +kernel)⟩
  refine ⟨hcheck, hread, fun hjudges => ?_⟩
  have hok := (hjudges "ci-artifacts/").1 ⟨_, hread⟩
  rw [hcheck] at hok
  cases hok

end BucketLifecycle
