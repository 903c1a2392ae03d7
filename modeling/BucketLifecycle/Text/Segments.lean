/-!
# Cutting a sequence at a separator

`segments sep xs` cuts `xs` at every occurrence of `sep`; it has one segment more than there
are separators, so the empty sequence has one empty segment.  `joinSegments` puts the
separators back, and `segments_joinSegments` says that pieces without a separator are found again.
-/

set_option autoImplicit false

namespace BucketLifecycle.Text

variable {α : Type} [DecidableEq α]

/-- The pieces between the separators, in order. -/
def segments (sep : α) : List α → List (List α)
  | [] => [[]]
  | x :: xs =>
    if x = sep then [] :: segments sep xs
    else match segments sep xs with
      | [] => [[x]]
      | piece :: rest => (x :: piece) :: rest

/-- Puts a separator between neighbouring pieces. -/
def joinSegments (sep : α) : List (List α) → List α
  | [] => []
  | [piece] => piece
  | piece :: next :: rest => piece ++ sep :: joinSegments sep (next :: rest)

/-- The part before the first separator and the part after it, if there is a separator. -/
def cutAt (sep : α) : List α → Option (List α × List α)
  | [] => none
  | x :: xs =>
    if x = sep then some ([], xs)
    else (cutAt sep xs).map fun (before, after) => (x :: before, after)

/-- What remains of `xs` after a leading `start`, if it starts so. -/
def dropStart? : (start xs : List α) → Option (List α)
  | [], xs => some xs
  | _ :: _, [] => none
  | p :: ps, x :: xs => if p = x then dropStart? ps xs else none

/-- The part before the first occurrence of the sequence `mark` and the part after it. -/
def cutAtSequence (mark : List α) : List α → Option (List α × List α)
  | [] => (dropStart? mark []).map fun after => ([], after)
  | x :: xs => match dropStart? mark (x :: xs) with
    | some after => some ([], after)
    | none => (cutAtSequence mark xs).map fun (before, after) => (x :: before, after)

/-- Cutting gives at least one piece. -/
theorem segments_ne_nil (sep : α) (xs : List α) : segments sep xs ≠ [] := by
  cases xs with
  | nil => simp [segments]
  | cons x xs =>
    simp only [segments]
    split
    · simp
    · split <;> simp

/-- What has no separator in it is one piece. -/
theorem segments_of_not_mem {sep : α} {xs : List α} (h : sep ∉ xs) : segments sep xs = [xs] := by
  induction xs with
  | nil => rfl
  | cons x xs ih =>
    rw [List.mem_cons, not_or] at h
    rw [segments, if_neg (Ne.symm h.1), ih h.2]

/-- The pieces in front of a separator are followed by those behind it. -/
theorem segments_append_cons (sep : α) (xs ys : List α) :
    segments sep (xs ++ sep :: ys) = segments sep xs ++ segments sep ys := by
  induction xs with
  | nil => simp [segments]
  | cons x xs ih =>
    rw [List.cons_append, segments, segments, ih]
    split
    · rfl
    · cases hs : segments sep xs with
      | nil => exact absurd hs (segments_ne_nil sep xs)
      | cons piece rest => rfl

/-- Pieces without a separator are found again between the separators. -/
theorem segments_joinSegments {sep : α} {pieces : List (List α)} (hne : pieces ≠ [])
    (h : ∀ piece ∈ pieces, sep ∉ piece) : segments sep (joinSegments sep pieces) = pieces := by
  induction pieces with
  | nil => exact absurd rfl hne
  | cons piece rest ih =>
    have hpiece := segments_of_not_mem (h piece List.mem_cons_self)
    cases rest with
    | nil => exact hpiece
    | cons next rest =>
      rw [joinSegments, segments_append_cons, hpiece,
        ih (List.cons_ne_nil _ _) fun p hp => h p (List.mem_cons_of_mem _ hp)]
      rfl

/-- No piece holds a separator. -/
theorem not_mem_of_mem_segments {sep : α} {xs piece : List α} (h : piece ∈ segments sep xs) :
    sep ∉ piece := by
  induction xs generalizing piece with
  | nil =>
    rw [List.mem_singleton.1 h]
    exact List.not_mem_nil
  | cons x xs ih =>
    rw [segments] at h
    split at h
    · rcases List.mem_cons.1 h with rfl | h
      · exact List.not_mem_nil
      · exact ih h
    next hx =>
    cases hs : segments sep xs with
    | nil => exact absurd hs (segments_ne_nil sep xs)
    | cons first rest =>
      rw [hs] at h ih
      rcases List.mem_cons.1 h with rfl | h
      · rw [List.mem_cons, not_or]
        exact ⟨Ne.symm hx, ih List.mem_cons_self⟩
      · exact ih (List.mem_cons_of_mem _ h)

/-- What joined pieces hold is the separator or comes from a piece. -/
theorem mem_joinSegments {β : Type} {sep x : β} {pieces : List (List β)}
    (h : x ∈ joinSegments sep pieces) : x = sep ∨ ∃ piece ∈ pieces, x ∈ piece := by
  induction pieces with
  | nil => exact absurd h List.not_mem_nil
  | cons piece rest ih =>
    cases rest with
    | nil => exact .inr ⟨piece, List.mem_cons_self, h⟩
    | cons next rest =>
      rcases List.mem_append.1 h with hpiece | htail
      · exact .inr ⟨piece, List.mem_cons_self, hpiece⟩
      rcases List.mem_cons.1 htail with hsep | hrest
      · exact .inl hsep
      rcases ih hrest with hsep | ⟨p, hp, hx⟩
      · exact .inl hsep
      · exact .inr ⟨p, List.mem_cons_of_mem _ hp, hx⟩

/-- A sequence without the separator is not cut. -/
theorem cutAt_of_not_mem {sep : α} {xs : List α} (h : sep ∉ xs) : cutAt sep xs = none := by
  induction xs with
  | nil => rfl
  | cons x xs ih =>
    rw [List.mem_cons, not_or] at h
    rw [cutAt, if_neg (Ne.symm h.1), ih h.2]
    rfl

/-- A sequence is cut at its first separator. -/
theorem cutAt_append_cons {sep : α} {xs : List α} (h : sep ∉ xs) (ys : List α) :
    cutAt sep (xs ++ sep :: ys) = some (xs, ys) := by
  induction xs with
  | nil => simp [cutAt]
  | cons x xs ih =>
    rw [List.mem_cons, not_or] at h
    rw [List.cons_append, cutAt, if_neg (Ne.symm h.1), ih h.2]
    rfl

/-- A sequence is cut into what stands in front of its first separator and what stands behind it. -/
theorem cutAt_eq_some_iff {sep : α} {xs before after : List α} :
    cutAt sep xs = some (before, after) ↔ sep ∉ before ∧ xs = before ++ sep :: after := by
  refine ⟨fun h => ?_, fun ⟨hbefore, heq⟩ => heq ▸ cutAt_append_cons hbefore after⟩
  induction xs generalizing before with
  | nil => cases h
  | cons x xs ih =>
    rw [cutAt] at h
    split at h
    next hx =>
      cases h
      exact ⟨List.not_mem_nil, by rw [hx, List.nil_append]⟩
    next hx =>
      obtain ⟨⟨start, rest⟩, hcut, heq⟩ := Option.map_eq_some_iff.1 h
      cases heq
      obtain ⟨hstart, rfl⟩ := ih hcut
      exact ⟨by simp [Ne.symm hx, hstart], rfl⟩

/-- Only a sequence without the separator is not cut. -/
theorem cutAt_eq_none_iff {sep : α} {xs : List α} : cutAt sep xs = none ↔ sep ∉ xs := by
  refine ⟨fun h hmem => ?_, cutAt_of_not_mem⟩
  obtain ⟨before, after, rfl, hbefore⟩ := List.eq_append_cons_of_mem hmem
  rw [cutAt_append_cons hbefore] at h
  cases h

/-- What is left behind a start is what follows it in the sequence. -/
theorem dropStart?_eq_some_iff {start xs rest : List α} :
    dropStart? start xs = some rest ↔ xs = start ++ rest := by
  induction start generalizing xs with
  | nil => simp [dropStart?]
  | cons p ps ih =>
    cases xs with
    | nil => simp [dropStart?]
    | cons x xs =>
      by_cases h : p = x
      · simp [dropStart?, h, ih]
      · simp [dropStart?, h, Ne.symm h]

/-- The parts and the mark between them are the whole sequence. -/
theorem eq_append_of_cutAtSequence {mark xs before after : List α}
    (h : cutAtSequence mark xs = some (before, after)) : xs = before ++ (mark ++ after) := by
  induction xs generalizing before with
  | nil =>
    obtain ⟨rest, hdrop, heq⟩ := Option.map_eq_some_iff.1 h
    cases heq
    rw [List.nil_append]
    exact dropStart?_eq_some_iff.1 hdrop
  | cons x xs ih =>
    rw [cutAtSequence] at h
    split at h
    next rest hdrop =>
      cases h
      rw [List.nil_append]
      exact dropStart?_eq_some_iff.1 hdrop
    next hdrop =>
      obtain ⟨⟨start, rest⟩, hcut, heq⟩ := Option.map_eq_some_iff.1 h
      cases heq
      rw [ih hcut, List.cons_append]

/-- A mark whose first item does not stand in front of it is found where it stands. -/
theorem cutAtSequence_append {m : α} {ms before : List α} (h : m ∉ before) (after : List α) :
    cutAtSequence (m :: ms) (before ++ (m :: ms ++ after)) = some (before, after) := by
  induction before with
  | nil =>
    have hdrop : dropStart? (m :: ms) (m :: ms ++ after) = some after :=
      dropStart?_eq_some_iff.2 rfl
    rw [List.nil_append, List.cons_append, cutAtSequence, ← List.cons_append, hdrop]
  | cons x before ih =>
    rw [List.mem_cons, not_or] at h
    have hdrop : dropStart? (m :: ms) (x :: (before ++ (m :: ms ++ after))) = none := if_neg h.1
    rw [List.cons_append, cutAtSequence, hdrop, ih h.2]
    rfl

end BucketLifecycle.Text
