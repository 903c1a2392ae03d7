import BucketLifecycle.Failure
import BucketLifecycle.FileTree

/-!
# Files that are put into a tree

Where directories stay directories, a path that led somewhere still leads there
(`FileTree.resolve_of_keeps`), be it from the root or from the working directory.  Making the
directories for a path adds directories at places where nothing was, each of them where a part of
the path leads (`FileTree.MadeFor`), also where it stops on the way; and writing a file changes the
entry at its own place and no other.

Put together, a file that was placed holds its content, and all else is as it was but for the
directories on the way to it (`FileTree.Placed`).
-/

set_option autoImplicit false

namespace BucketLifecycle

namespace FileTree

variable {t t' : FileTree}

/-- Entries found by their place after those at one place were exchanged. -/
theorem find?_exchanged (es : List (Place × Entry)) (place : Place) (entry : Entry) (q : Place) :
    ((es.map fun e => if e.1 == place then (place, entry) else e).find? fun e => e.1 == q) =
      (es.find? fun e => e.1 == q).map fun e => if e.1 == place then (place, entry) else e := by
  have hsame : ((fun e : Place × Entry => e.1 == q) ∘
      fun e => if e.1 == place then (place, entry) else e) = fun e => e.1 == q := by
    funext e
    by_cases he : e.1 = place <;> simp [he]
  rw [List.find?_map, hsame]

/-- Below the root an entry is looked up in the list. -/
theorem entry_of_ne_nil {q : Place} (hq : q ≠ []) (es : List (Place × Entry)) (home : Place) :
    FileTree.entry? ⟨es, home⟩ q = (es.find? fun e => e.1 == q).map Prod.snd :=
  if_neg hq

/-- Putting an entry at a place changes what stands there, and nothing else. -/
theorem entry_put (t : FileTree) {place : Place} (hplace : place ≠ []) (entry : Entry)
    (q : Place) :
    FileTree.entry? (t.put place entry) q = if q = place then some entry else t.entry? q := by
  by_cases hroot : q = []
  · rw [hroot, if_neg hplace.symm]
    rfl
  have hbefore : t.entry? q = (t.entries.find? fun e => e.1 == q).map Prod.snd :=
    entry_of_ne_nil hroot t.entries t.home
  rw [hbefore]
  unfold put
  split
  · next hany =>
    rw [entry_of_ne_nil hroot, find?_exchanged]
    cases hfound : t.entries.find? fun e => e.1 == q with
    | none =>
      have hne : q ≠ place := by
        rintro rfl
        obtain ⟨e, he, heq⟩ := List.any_eq_true.1 hany
        exact List.find?_eq_none.1 hfound e he heq
      rw [if_neg hne]
      rfl
    | some e =>
      have he : e.1 = q := by simpa using List.find?_some hfound
      by_cases hq : q = place <;> simp [he, hq]
  · next hnone =>
    rw [entry_of_ne_nil hroot, List.find?_append]
    by_cases hq : q = place
    · subst hq
      have hfound : t.entries.find? (fun e => e.1 == q) = none :=
        List.find?_eq_none.2 fun e he heq => hnone (List.any_eq_true.2 ⟨e, he, heq⟩)
      rw [hfound]
      simp
    · simp [hq, Ne.symm hq]

/-- Putting an entry into a tree leaves its home. -/
@[simp] theorem home_put (t : FileTree) (place : Place) (entry : Entry) :
    (t.put place entry).home = t.home := by
  unfold put
  split <;> rfl

/-- Every directory of a tree is a directory of another one too, and so is the working directory. -/
structure Keeps (t t' : FileTree) : Prop where
  home_eq : t'.home = t.home
  entry_eq : ∀ place, t.entry? place = some .directory → t'.entry? place = some .directory

/-- A way through directories that stay leads to the same place. -/
theorem walk_of_keeps (h : t.Keeps t') {start place : Place} {cs : List Component}
    (hwalk : t.walk start cs = .ok place) : t'.walk start cs = .ok place := by
  induction cs generalizing start with
  | nil => exact hwalk
  | cons c rest ih =>
    unfold walk at hwalk ⊢
    cases hentry : t.entry? start with
    | none =>
      rw [hentry] at hwalk
      cases hwalk
    | some entry =>
      rw [hentry] at hwalk
      cases entry with
      | file content => cases hwalk
      | directory =>
        rw [h.entry_eq start hentry]
        dsimp only at hwalk ⊢
        cases c with
        | root | current | parent => exact ih hwalk
        | normal name =>
          dsimp only at hwalk ⊢
          split at hwalk
          · cases hwalk
          · next hshort =>
            rw [if_neg hshort]
            exact ih hwalk

/-- What leads somewhere still leads there where directories are kept. -/
theorem resolve_of_keeps (h : t.Keeps t') {place : Place} {cs : List Component}
    (hresolve : t.resolve cs = .ok place) : t'.resolve cs = .ok place := by
  have hstart : t'.start cs = t.start cs := by
    unfold start
    split
    · rfl
    · exact h.home_eq
  unfold resolve at hresolve ⊢
  rw [hstart]
  exact walk_of_keeps h hresolve

/-- What is new at a place is a directory, and a part of the components leads to it. -/
structure NewDirectory (t t' : FileTree) (cs : List Component) (place : Place) : Prop where
  missing : t.entry? place = none
  entry_eq : t'.entry? place = some .directory
  leads : ∃ lead, lead ≠ [] ∧ lead <+: cs ∧ t'.resolve lead = .ok place

/-- A tree in which directories may have been made on the way of components, and nothing else. -/
structure MadeFor (t t' : FileTree) (cs : List Component) : Prop where
  home_eq : t'.home = t.home
  entries : ∀ place, t'.entry? place = t.entry? place ∨ NewDirectory t t' cs place

namespace MadeFor

variable {cs : List Component}

/-- Nothing has to have been made. -/
theorem refl (t : FileTree) (cs : List Component) : MadeFor t t cs :=
  ⟨rfl, fun _ => .inl rfl⟩

/-- Making directories keeps those that there were. -/
theorem keeps (h : MadeFor t t' cs) : t.Keeps t' := by
  refine ⟨h.home_eq, fun place hentry => ?_⟩
  rcases h.entries place with hsame | hnew
  · exact hsame.trans hentry
  · exact hnew.entry_eq

/-- Directories that were made on a part of the way, and then on the whole of it. -/
theorem trans {t'' : FileTree} {front : List Component} (hfront : front <+: cs)
    (h : MadeFor t t' front) (h' : MadeFor t' t'' cs) : MadeFor t t'' cs := by
  refine ⟨h'.home_eq.trans h.home_eq, fun place => ?_⟩
  rcases h.entries place with hsame | ⟨hmissing, hentry, lead, hne, hlead, hleads⟩
  · rcases h'.entries place with hsame' | ⟨hmissing, hentry, hleads⟩
    · exact .inl (hsame'.trans hsame)
    · exact .inr ⟨hsame.symm.trans hmissing, hentry, hleads⟩
  · refine .inr ⟨hmissing, h'.keeps.entry_eq place hentry, lead, hne, hlead.trans hfront, ?_⟩
    exact resolve_of_keeps h'.keeps hleads

end MadeFor

/-- The root stands. -/
@[simp] theorem entry_nil (t : FileTree) : t.entry? [] = some .directory := if_pos rfl

/-- A place that is no directory is not the root. -/
theorem ne_nil_of_entry {place : Place} (h : t.entry? place ≠ some .directory) : place ≠ [] := by
  rintro rfl
  exact h t.entry_nil

/-- An entry at a place where no directory was leaves all directories. -/
theorem keeps_put {place : Place} (h : t.entry? place ≠ some .directory) (entry : Entry) :
    t.Keeps (t.put place entry) := by
  refine ⟨t.home_put place entry, fun q hq => ?_⟩
  rw [entry_put t (ne_nil_of_entry h), if_neg]
  · exact hq
  · rintro rfl
    exact h hq

/-- A directory that was made is a new entry where its components lead. -/
theorem makeDirectory_eq_ok {cs : List Component} (h : t.makeDirectory cs = .ok t') :
    ∃ place, t.resolve cs = .ok place ∧ t.entry? place = none ∧ t' = t.put place .directory := by
  unfold makeDirectory at h
  dsimp only at h
  split at h
  · cases h
  obtain ⟨place, hresolve, h⟩ := exists_of_bind_eq_ok h
  cases hentry : t.entry? place with
  | some entry =>
    rw [hentry] at h
    cases h
  | none =>
    rw [hentry] at h
    cases h
    exact ⟨place, hresolve, hentry, rfl⟩

/-- Making one directory makes what stands on its way and nothing else. -/
theorem madeFor_of_makeDirectory {cs : List Component} (hcs : cs ≠ [])
    (h : t.makeDirectory cs = .ok t') : MadeFor t t' cs := by
  obtain ⟨place, hresolve, hmissing, rfl⟩ := makeDirectory_eq_ok h
  have hstays : t.entry? place ≠ some .directory := by
    rw [hmissing]
    exact nofun
  have hplace := ne_nil_of_entry hstays
  refine ⟨t.home_put place .directory, fun q => ?_⟩
  by_cases hq : q = place
  · refine .inr ⟨hq ▸ hmissing, ?_, cs, hcs, List.prefix_rfl, ?_⟩
    · rw [entry_put t hplace, if_pos hq]
    · rw [hq]
      exact resolve_of_keeps (keeps_put hstays .directory) hresolve
  · left
    rw [entry_put t hplace, if_neg hq]

/-- Making a directory, and those above it where they are missing, as far as this succeeds. -/
theorem madeFor_makeDirectories (t : FileTree) (reversed : List Component) :
    MadeFor t (t.makeDirectories reversed).2 reversed.reverse := by
  induction reversed with
  | nil => exact .refl t []
  | cons c above ih =>
    have hfront : above.reverse <+: (c :: above).reverse := by
      rw [List.reverse_cons]
      exact List.prefix_append _ _
    have hcs : (c :: above).reverse ≠ [] := by simp
    unfold makeDirectories
    dsimp only
    cases hfirst : t.makeDirectory (c :: above).reverse with
    | ok made => exact madeFor_of_makeDirectory hcs hfirst
    | error e =>
      cases e with
      | missing =>
        dsimp only
        revert ih
        obtain ⟨result, made⟩ := t.makeDirectories above
        intro hmade
        cases result with
        | error e => exact hmade.trans hfront (.refl made _)
        | ok =>
          dsimp only
          cases hlast : made.makeDirectory (c :: above).reverse with
          | ok last => exact hmade.trans hfront (madeFor_of_makeDirectory hcs hlast)
          | error e => exact hmade.trans hfront (.refl made _)
      | _ => exact .refl t _

/-- Making the parents of a path makes what stands on the way to it, however far that gets. -/
theorem madeFor_makeParent (t : FileTree) (p : Path) :
    MadeFor t (t.makeParent p).2 p.components.dropLast := by
  unfold makeParent
  split
  · exact .refl t _
  have hparent : ∀ cs, p.parent? = some cs → cs = p.components.dropLast := by
    intro cs hcs
    unfold Path.parent? at hcs
    split at hcs
    · cases hcs
    · cases hcs
    · exact (Option.some.inj hcs).symm
  cases hcs : p.parent? with
  | none => exact .refl t _
  | some cs =>
    obtain rfl := hparent cs hcs
    have hmade := t.madeFor_makeDirectories p.components.dropLast.reverse
    rwa [List.reverse_reverse] at hmade

/-- A file that was written is an entry where its path leads, and there was no directory. -/
theorem write_eq_ok {p : Path} {content : Bytes} (h : t.write p content = .ok t') :
    ∃ place, t.locate p = .ok place ∧ t.entry? place ≠ some .directory ∧
      namesDirectory p = false ∧ t' = t.put place (.file content) := by
  obtain ⟨place, hplace, h⟩ := exists_of_bind_eq_ok h
  refine ⟨place, hplace, ?_⟩
  cases hentry : t.entry? place with
  | none =>
    rw [hentry] at h
    dsimp only at h
    split at h
    · cases h
    · next hname =>
      cases h
      exact ⟨nofun, by simpa using hname, rfl⟩
  | some entry =>
    rw [hentry] at h
    cases entry with
    | directory => cases h
    | file old =>
      dsimp only at h
      split at h
      · cases h
      · next hname =>
        cases h
        exact ⟨nofun, by simpa using hname, rfl⟩

/-- A path that leads somewhere still leads there where all directories stay. -/
theorem locate_of_keeps (h : t.Keeps t') {p : Path} {place : Place}
    (hlocate : t.locate p = .ok place) : t'.locate p = .ok place := by
  unfold locate at hlocate ⊢
  split at hlocate
  · cases hlocate
  split at hlocate
  · cases hlocate
  split at hlocate
  · cases hlocate
  next hzero hempty hshort =>
  rw [if_neg hzero, if_neg hempty, if_neg hshort]
  exact resolve_of_keeps h hlocate

/-- A tree with a file put into it, and nothing else but directories that lead to the file. -/
structure Placed (before after : FileTree) (file : Path) (content : Bytes) : Prop where
  read_eq : after.read file = .ok content
  others : ∀ place, after.locate file ≠ .ok place → after.entry? place = before.entry? place ∨
    NewDirectory before after file.components.dropLast place

/-- A file that is written after the directories for it were made. -/
theorem placed_of_write {file : Path} {content : Bytes}
    (hwrite : (t.makeParent file).2.write file content = .ok t') : Placed t t' file content := by
  have hparents := t.madeFor_makeParent file
  generalize (t.makeParent file).2 = made at hwrite hparents
  obtain ⟨place, hlocate, hentry, hname, rfl⟩ := write_eq_ok hwrite
  have hplace := ne_nil_of_entry hentry
  have hkeeps := keeps_put hentry (.file content)
  have hthere := locate_of_keeps hkeeps hlocate
  refine ⟨?_, fun q hq => ?_⟩
  · unfold read
    rw [hthere]
    simp [bind, Except.bind, entry_put made hplace, hname, pure, Except.pure]
  · have hne : q ≠ place := by
      rintro rfl
      exact hq hthere
    rw [entry_put made hplace, if_neg hne]
    rcases hparents.entries q with hsame | ⟨hmissing, hnew, lead, hlead, hfront, hleads⟩
    · exact .inl hsame
    · refine .inr ⟨hmissing, ?_, lead, hlead, hfront, resolve_of_keeps hkeeps hleads⟩
      rw [entry_put made hplace, if_neg hne]
      exact hnew

end FileTree
end BucketLifecycle
