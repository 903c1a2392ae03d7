import BucketLifecycle.Path

/-!
# Components of longer paths

A name put behind a path is its last component, whatever the path ends in and however many slashes
it has (`components_push`).  A path names something besides its pieces only where it begins, so what
follows a slash adds the components of its pieces and changes none (`components_append_slash`).
-/

set_option autoImplicit false

namespace BucketLifecycle

namespace Path

/-- The name of an entry of a directory: in one piece, and no step to elsewhere. -/
structure IsFileName (name : Bytes) : Prop where
  ne_nil : name ≠ []
  ne_dot : name ≠ dot
  ne_dotDot : name ≠ dotDot
  slash_not_mem : slash ∉ name

/-- What the pieces of a path name. -/
def pieceComponents (p : Bytes) : List Component :=
  (Text.segments slash p).filterMap component?

/-- An empty path has no components of its pieces. -/
@[simp] theorem pieceComponents_nil : pieceComponents [] = [] := rfl

/-- The components of a path are its front and those of its pieces. -/
theorem components_eq (p : Path) : p.components = front p ++ pieceComponents p := rfl

/-- The pieces on both sides of a slash give their components one after another. -/
theorem pieceComponents_append_slash (p rest : Bytes) :
    pieceComponents (p ++ slash :: rest) = pieceComponents p ++ pieceComponents rest := by
  unfold pieceComponents
  rw [Text.segments_append_cons, List.filterMap_append]

/-- A path that begins with a slash begins at the root. -/
theorem components_slash (rest : Bytes) :
    components (slash :: rest) = .root :: pieceComponents rest := by
  rw [components_eq, ← List.nil_append (slash :: rest), pieceComponents_append_slash]
  rfl

/-- What follows a slash within a path does not change what it begins with. -/
theorem components_append_slash {p : Bytes} (hp : p ≠ []) (rest : Bytes) :
    components (p ++ slash :: rest) = components p ++ pieceComponents rest := by
  have hfront : front (p ++ slash :: rest) = front p := by
    have hpieces : Text.segments slash (p ++ slash :: rest) =
        Text.segments slash p ++ Text.segments slash rest := Text.segments_append_cons slash p rest
    cases hfirst : Text.segments slash p with
    | nil => exact absurd hfirst (Text.segments_ne_nil slash p)
    | cons piece more =>
      rw [hfirst] at hpieces
      cases p with
      | nil => exact absurd rfl hp
      | cons b p =>
        rw [List.cons_append] at hpieces ⊢
        unfold front
        dsimp only
        rw [hpieces, hfirst]
        rfl
  rw [components_eq, components_eq, hfront, pieceComponents_append_slash, List.append_assoc]

/-- The piece of a file name is that name. -/
theorem IsFileName.pieceComponents_eq {name : Bytes} (h : IsFileName name) :
    pieceComponents name = [.normal name] := by
  have hname : component? name = some (.normal name) := by
    unfold component?
    rw [if_neg (by simp [h.ne_nil, h.ne_dot]), if_neg h.ne_dotDot]
  unfold pieceComponents
  rw [Text.segments_of_not_mem h.slash_not_mem]
  simp [hname]

/-- The path of a file name is that name alone. -/
theorem IsFileName.components_eq {name : Bytes} (h : IsFileName name) :
    components name = [.normal name] := by
  have hfront : front name = [] := by
    unfold front
    rw [Text.segments_of_not_mem h.slash_not_mem]
    cases name with
    | nil => rfl
    | cons b rest =>
      dsimp only
      rw [if_neg fun hb => h.slash_not_mem (by simp [hb]), if_neg (by simpa using h.ne_dot)]
  rw [Path.components_eq, hfront, h.pieceComponents_eq]
  rfl

/-- A piece that names something is that name, and it is neither empty nor one of the dots. -/
theorem component?_eq_normal {piece name : Bytes} (h : component? piece = some (.normal name)) :
    piece = name ∧ name ≠ [] ∧ name ≠ dot ∧ name ≠ dotDot := by
  unfold component? at h
  split at h
  · cases h
  next hempty =>
  rw [not_or] at hempty
  split at h
  · cases h
  next hparent =>
  cases h
  exact ⟨rfl, hempty.1, hempty.2, hparent⟩

/-- A path begins with no name besides its pieces. -/
theorem normal_not_mem_front (p : Path) (name : Bytes) : .normal name ∉ front p := by
  unfold front
  split
  · exact List.not_mem_nil
  split
  · simp
  split
  · simp
  · exact List.not_mem_nil

/-- A component that names something is a file name. -/
theorem isFileName_of_mem_components {p : Path} {name : Bytes} (h : .normal name ∈ p.components) :
    IsFileName name := by
  rw [Path.components_eq] at h
  rcases List.mem_append.1 h with hfront | hpieces
  · exact absurd hfront (normal_not_mem_front p name)
  obtain ⟨piece, hpiece, hcomponent⟩ := List.mem_filterMap.1 hpieces
  obtain ⟨rfl, hne, hdot, hdotDot⟩ := component?_eq_normal hcomponent
  exact ⟨hne, hdot, hdotDot, Text.not_mem_of_mem_segments hpiece⟩

/-- A name that is put behind a path becomes its last component. -/
theorem components_push (p : Path) {name : Bytes} (h : IsFileName name) :
    components (p.push name) = components p ++ [.normal name] := by
  by_cases hempty : p = []
  · subst hempty
    exact h.components_eq
  unfold push
  split
  · next hend =>
    have hlast : p.getLast? = some slash := by simpa [hempty] using hend
    obtain ⟨q, rfl⟩ := List.getLast?_eq_some_iff.1 hlast
    rw [List.append_assoc, List.singleton_append]
    by_cases hroot : q = []
    · subst hroot
      rw [List.nil_append, List.nil_append, components_slash, components_slash,
        h.pieceComponents_eq]
      rfl
    · rw [components_append_slash hroot, components_append_slash hroot, h.pieceComponents_eq,
        pieceComponents_nil, List.append_nil]
  · rw [components_append_slash hempty, h.pieceComponents_eq]

/-- Names that are put behind a path one after another become its last components. -/
theorem components_foldl_push {names : List Bytes} (h : ∀ name ∈ names, IsFileName name)
    (p : Path) : components (names.foldl push p) = components p ++ names.map .normal := by
  induction names generalizing p with
  | nil => simp
  | cons name names ih =>
    obtain ⟨hname, hnames⟩ := List.forall_mem_cons.1 h
    rw [List.foldl_cons, ih hnames, components_push p hname, List.append_assoc]
    rfl

end Path
end BucketLifecycle
