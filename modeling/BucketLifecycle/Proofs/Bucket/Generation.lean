import BucketLifecycle.Proofs.Bucket.Fields
import BucketLifecycle.Proofs.Bucket.SnapshotRoundTrip

/-!
# The generation of the metadata

The generation has 64 bits and may be written as a number or as a text.  What a value says about it
is told by `SaysGeneration`: whatever it says is read without loss, and a value that says nothing of
the kind makes the whole object unreadable (`metageneration_decoded`).
-/

set_option autoImplicit false

namespace BucketLifecycle

open Json

/-- What the value of the member says: `null` that the generation is not known, and a whole number
of 64 bits, or a text of one, that it is this number. -/
inductive SaysGeneration : Node → Option Int64 → Prop
  | unknown : SaysGeneration .null none
  | number {v : Node} {k : Int64} (h : v.IsInt64 k) : SaysGeneration v (some k)

/-- The generation is read where the value says it, or says that it is not known. -/
theorem option_int64Text_eq_ok_iff {depth : Nat} {v : Node} {m : Option Int64} :
    Decoder.option (.int64Text depth) v = .ok m ↔ SaysGeneration v m := by
  constructor
  · intro h
    rcases option_eq_ok h with ⟨rfl, rfl⟩ | ⟨k, hk, rfl⟩
    · exact .unknown
    · exact .number (int64Text_eq_ok_iff.1 hk)
  · intro h
    cases h with
    | unknown => rfl
    | number h =>
      have hnull : v ≠ .null := by
        rintro rfl
        cases h
      rw [option_of_ne_null hnull, int64Text_eq_ok_iff.2 h]
      rfl

/-- A number says the same as its text. -/
theorem isInt64_number (k : Int64) :
    (Node.ofInt k.toInt).IsInt64 k ∧ (encodeInt64 k).IsInt64 k := by
  constructor
  · have hdigits := Text.digitsValue_writeNat k.toInt.natAbs
    unfold Text.writeNat at hdigits
    unfold Node.ofInt
    by_cases hnegative : k.toInt < 0
    · rw [decide_eq_true hnegative]
      refine .negative (by omega) ?_
      rintro rfl
      exact absurd hnegative (by decide)
    · rw [decide_eq_false hnegative]
      exact .natural (by omega)
  · exact int64Text_eq_ok_iff.1 ((faithful_int64 1).decode_encode k)

namespace Snapshot

section

variable {before after : List (StringLit × Node)} {key : StringLit} {v : Node}

/-- An object can be accepted with the member if it can be without it and the member's value is
read. -/
theorem admissible_insert_iff (hkey : key.text = .ok "metageneration")
    (habsent : ∀ m ∈ before ++ after, m.1.text ≠ .ok "metageneration") :
    Admissible checks (before ++ (key, v) :: after) ↔
      (∃ m, SaysGeneration v m) ∧ Admissible checks (before ++ after) := by
  have hperm : (before ++ (key, v) :: after).Perm ((key, v) :: (before ++ after)) :=
    List.perm_middle
  have hcheck : metagenerationField.toCheck.check v = .ok () ↔ ∃ m, SaysGeneration v m := by
    rw [Json.check_eq_ok_iff]
    exact exists_congr fun m => option_int64Text_eq_ok_iff
  rw [← hcheck]
  constructor
  · intro h
    obtain ⟨hvalue, hrest, -⟩ := (admissible_cons_field hkey rfl).1 (h.perm hperm)
    exact ⟨hvalue, hrest⟩
  · rintro ⟨hvalue, hrest⟩
    exact ((admissible_cons_field hkey rfl).2 ⟨hvalue, hrest, habsent⟩).perm hperm.symm

/-- The member is read by its own field and by no other one. -/
theorem readFrom_insert_iff (hkey : key.text = .ok "metageneration")
    (habsent : ∀ m ∈ before ++ after, m.1.text ≠ .ok "metageneration") {s s' : Snapshot}
    (hread : s.ReadFrom (.byName (before ++ after))) :
    s'.ReadFrom (.byName (before ++ (key, v) :: after)) ↔
      SaysGeneration v s'.metageneration ∧
        s' = { s with metageneration := s'.metageneration } := by
  have hother {α : Type} (f : RecordField α) (hf : "metageneration" ≠ f.name) :
      Fields.get f (.byName (before ++ (key, v) :: after)) =
        Fields.get f (.byName (before ++ after)) := by
    refine get_byName_congr ?_
    rw [findMember_append, findMember_append, findMember_cons_of_text hkey, if_neg hf]
  have hown : Fields.get metagenerationField (.byName (before ++ (key, v) :: after)) =
      Decoder.option (.int64Text 1) v := by
    have hbefore : findMember "metageneration" before = none :=
      findMember_eq_none_iff.2 fun m hm => habsent m (List.mem_append_left _ hm)
    have hfind : findMember metagenerationField.name (before ++ (key, v) :: after) = some v := by
      rw [findMember_append, findMember_cons_of_text hkey]
      simp [metagenerationField, hbefore]
    simp [Fields.get, hfind]
    rfl
  constructor
  · intro h
    have hsame {α : Type} (f : RecordField α) (hf : "metageneration" ≠ f.name) {a a' : α}
        (hread : Fields.get f (.byName (before ++ after)) = .ok a)
        (h : Fields.get f (.byName (before ++ (key, v) :: after)) = .ok a') : a = a' :=
      Except.ok.inj (hread.symm.trans ((hother f hf).symm.trans h))
    refine ⟨option_int64Text_eq_ok_iff.1 (hown.symm.trans h.metageneration), ?_⟩
    rw [hsame nameField (by decide) hread.name h.name,
      hsame locationField (by decide) hread.location h.location,
      hsame storageClassField (by decide) hread.storageClass h.storageClass,
      hsame labelsField (by decide) hread.labels h.labels,
      hsame lifecycleField (by decide) hread.lifecycle h.lifecycle,
      hsame timeCreatedField (by decide) hread.timeCreated h.timeCreated,
      hsame updatedField (by decide) hread.updated h.updated]
  · rintro ⟨hsaid, hs⟩
    generalize s'.metageneration = m at hsaid hs
    subst hs
    exact
      { name := (hother nameField (by decide)).trans hread.name
        location := (hother locationField (by decide)).trans hread.location
        storageClass := (hother storageClassField (by decide)).trans hread.storageClass
        labels := (hother labelsField (by decide)).trans hread.labels
        lifecycle := (hother lifecycleField (by decide)).trans hread.lifecycle
        metageneration := hown.trans (option_int64Text_eq_ok_iff.2 hsaid)
        timeCreated := (hother timeCreatedField (by decide)).trans hread.timeCreated
        updated := (hother updatedField (by decide)).trans hread.updated }

end

end Snapshot

/-- A bucket object that is read without the member `metageneration` has no generation, and with
the member it has the one that the member's value says, everything else being as before; where the
value says none, the object is not read.  A number and its text do not differ in this. -/
theorem metageneration_decoded {bare full : String} {before after : List (StringLit × Node)}
    {key : StringLit} {v : Node} {s : Snapshot}
    (hbare : (Node.object (before ++ after) .closed).SpelledBy bare)
    (hfull : (Node.object (before ++ (key, v) :: after) .closed).SpelledBy full)
    (hkey : key.text = .ok "metageneration")
    (habsent : ∀ m ∈ before ++ after, m.1.text ≠ .ok "metageneration")
    (hread : Snapshot.ofText bare = .ok s) :
    s.metageneration = none ∧
      (∀ s', Snapshot.ofText full = .ok s' ↔
        ∃ m, SaysGeneration v m ∧ s' = { s with metageneration := m }) ∧
      ∀ k : Int64, v = .ofInt k.toInt ∨ v = encodeInt64 k →
        Snapshot.ofText full = .ok { s with metageneration := some k } := by
  unfold Snapshot.ofText at hread ⊢
  rw [Decoder.run_of_spelledBy _ hbare, Snapshot.decode_object_eq_ok_iff] at hread
  obtain ⟨-, hadmissible, hfields⟩ := hread
  have hiff (s' : Snapshot) : Decoder.run Snapshot.decode full = .ok s' ↔
      ∃ m, SaysGeneration v m ∧ s' = { s with metageneration := m } := by
    rw [Decoder.run_of_spelledBy _ hfull, Snapshot.decode_object_eq_ok_iff,
      Snapshot.admissible_insert_iff hkey habsent,
      Snapshot.readFrom_insert_iff hkey habsent hfields]
    constructor
    · rintro ⟨-, -, hsaid, hs⟩
      exact ⟨_, hsaid, hs⟩
    · rintro ⟨m, hsaid, rfl⟩
      exact ⟨rfl, ⟨⟨m, hsaid⟩, hadmissible⟩, hsaid, rfl⟩
  refine ⟨?_, hiff, fun k hv => (hiff _).2 ⟨some k, .number ?_, rfl⟩⟩
  · have hfind : findMember Snapshot.metagenerationField.name (before ++ after) = none :=
      findMember_eq_none_iff.2 habsent
    have hnone :
        Fields.get Snapshot.metagenerationField (.byName (before ++ after)) = .ok none := by
      rw [Fields.get, hfind]
      rfl
    exact Except.ok.inj (hfields.metageneration.symm.trans hnone)
  · rcases hv with rfl | rfl
    · exact (isInt64_number k).1
    · exact (isInt64_number k).2

/-- A bucket with a generation that is written as a text, with a sign and zeros in front. -/
def paddedGeneration : List (String × Node) :=
  [("metageneration", .ofString "+007"), ("name", .ofString "ci-artifacts")]

/-- The text of a bucket without a generation is read back, and a generation in a text with zeros in
front is the number. -/
theorem metageneration_of_padded_text :
    Snapshot.ofText (Snapshot.named "ci-artifacts").toText = .ok (.named "ci-artifacts") ∧
      Snapshot.ofText (Node.ofMembers paddedGeneration).text =
        .ok { Snapshot.named "ci-artifacts" with metageneration := some 7 } := by
  have hread :
      Snapshot.ofText (Snapshot.named "ci-artifacts").toText = .ok (.named "ci-artifacts") :=
    Snapshot.ofText_toText _
  refine ⟨hread, ?_⟩
  have hbare := (Snapshot.plain_encode (.named "ci-artifacts")).spelledBy
  have hfull : (Node.ofMembers paddedGeneration).Plain := by
    refine .object ?_
    simp only [paddedGeneration, List.forall_mem_cons]
    exact ⟨.string _, .string _, List.forall_mem_nil _⟩
  have habsent : ∀ m ∈ [] ++ [(StringLit.ofString "name", encodeText "ci-artifacts")],
      m.1.text ≠ .ok "metageneration" := by
    simp
  have hdecoded := @metageneration_decoded _ _ [] _ _ _ _ hbare hfull.spelledBy
    (StringLit.text_ofString _) habsent hread
  refine (hdecoded.2.1 _).2 ⟨some 7, .number (.text (StringLit.chars_ofChars _) ?_), rfl⟩
  exact .plus (by decide)

end BucketLifecycle
