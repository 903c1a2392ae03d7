import Mathlib
import BucketLifecycle.Proofs.Url.Percent
import BucketLifecycle.Url.Parser

/-!
# Paths below a URL

A web URL that ends in a path may be continued by further segments.  The segments must be ones that
no reading changes (`IsKept`); then the server is the one of the shorter URL, and the segments stand
behind those that it has (`exists_below`).

The server alone decides whether there is such a URL (`ofAuthority_eq_ok`), so it makes no
difference whether the shorter one ends in a slash (`exists_root`).

Reading passes over tabs and line breaks, folds the slashes behind the scheme, cuts the text at the
end of the server and resolves relative segments.  None of this looks at what follows a slash, so
each step is a lemma on a text with a slash and a rest behind it.
-/

set_option autoImplicit false

namespace BucketLifecycle.Url

/-- The scheme of plain web URLs. -/
def httpScheme : List Char := "http".toList

/-- The characters that are passed over on both sides of a text. -/
def isOuter (c : Char) : Bool :=
  c.toNat ≤ 0x20

/-- The characters that are not passed over everywhere. -/
def isRead (c : Char) : Bool :=
  c != '\t' && c != '\n' && c != '\r'

/-- The characters that a path may hold wherever it ends. -/
def isPathChar (c : Char) : Bool :=
  !isOuter c && isRead c && c != '?' && c != '#'

/-- The characters that a segment may hold as they are. -/
def isInner (c : Char) : Bool :=
  isPathChar c && !isSlash true c &&
    plainExcept [' ', '"', '<', '>', '\x60', '#', '?', '\x7b', '\x7d'] c

/-- A segment that stays as it is wherever it stands in a path. -/
structure IsKept (name : List Char) : Prop where
  inner : ∀ c ∈ name, isInner c = true
  notSingle : isSingleDot name = false
  notDouble : isDoubleDot name = false

/-- Letters and digits are plain ASCII. -/
theorem toNat_lt_of_isAlphanum {c : Char} (h : c.isAlphanum = true) : c.toNat < 0x80 := by
  simp only [Char.isAlphanum, Char.isAlpha, Char.isUpper, Char.isLower, Char.isDigit,
    Bool.or_eq_true, Bool.and_eq_true, decide_eq_true_eq] at h
  rcases h with (⟨-, h⟩ | ⟨-, h⟩) | ⟨-, h⟩
  · exact Nat.lt_of_le_of_lt h (by decide)
  · exact Nat.lt_of_le_of_lt h (by decide)
  · exact Nat.lt_of_le_of_lt h (by decide)

/-- Unreserved characters are plain ASCII. -/
theorem toNat_lt_of_isUnreserved {c : Char} (h : Percent.isUnreserved c = true) :
    c.toNat < 0x80 := by
  simp only [Percent.isUnreserved, Bool.or_eq_true, beq_iff_eq] at h
  rcases h with (((h | rfl) | rfl) | rfl) | rfl
  · exact toNat_lt_of_isAlphanum h
  all_goals decide

/-- Unreserved characters may stand in a segment. -/
theorem isInner_of_isUnreserved {c : Char} (h : Percent.isUnreserved c = true) :
    isInner c = true := by
  -- All of them are ASCII, so the few that there are can be looked at.
  have hall : ∀ n < 0x80, Percent.isUnreserved (Char.ofNat n) = true →
      isInner (Char.ofNat n) = true := by
    decide
  have hchar := hall c.toNat (toNat_lt_of_isUnreserved h)
  rw [Char.ofNat_toNat] at hchar
  exact hchar h

/-- An unreserved character that is no dot does not spell one. -/
theorem toLower_ne_of_isUnreserved {c : Char} (h : Percent.isUnreserved c = true) (hdot : c ≠ '.') :
    c.toLower ≠ '.' ∧ c.toLower ≠ '%' := by
  have hall : ∀ n < 0x80, Percent.isUnreserved (Char.ofNat n) = true → Char.ofNat n ≠ '.' →
      (Char.ofNat n).toLower ≠ '.' ∧ (Char.ofNat n).toLower ≠ '%' := by
    decide
  have hchar := hall c.toNat (toNat_lt_of_isUnreserved h)
  rw [Char.ofNat_toNat] at hchar
  exact hchar h hdot

/-- Unreserved characters that start with no dot are a segment that stays. -/
theorem isKept_of_isUnreserved {c : Char} {name : List Char}
    (h : ∀ d ∈ c :: name, Percent.isUnreserved d = true) (hdot : c ≠ '.') : IsKept (c :: name) := by
  obtain ⟨hperiod, hpercent⟩ := toLower_ne_of_isUnreserved (h c List.mem_cons_self) hdot
  refine ⟨fun d hd => isInner_of_isUnreserved (h d hd), ?_, ?_⟩
  · simp [isSingleDot, hperiod, hpercent]
  · simp [isDoubleDot, hperiod, hpercent]

/-- Trimming on the right goes no further than what is kept. -/
theorem reverse_dropWhile_append {α : Type} {p : α → Bool} {x : α} (hx : p x = false)
    (xs ys : List α) :
    ((xs ++ x :: ys).reverse.dropWhile p).reverse =
      xs ++ x :: (ys.reverse.dropWhile p).reverse := by
  have hreverse : (xs ++ x :: ys).reverse = ys.reverse ++ x :: xs.reverse := by
    simp
  rw [hreverse, List.dropWhile_append]
  split
  · next hempty =>
    rw [List.isEmpty_iff.1 hempty, List.dropWhile_cons_of_neg (by simp [hx])]
    simp
  · simp

/-- A text that begins with the scheme is trimmed at its end alone, and only where it ends in a
blank. -/
theorem exists_cleaned_eq (cs : List Char) :
    ∃ inner, cleaned (httpScheme ++ ':' :: cs) = httpScheme ++ ':' :: inner.filter isRead ∧
      inner <+: cs ∧ ((∀ c ∈ cs.getLast?, isOuter c = false) → inner = cs) := by
  have hfront : (httpScheme ++ ':' :: cs).dropWhile isOuter = httpScheme ++ ':' :: cs := rfl
  have hback := reverse_dropWhile_append (p := isOuter) (x := ':') rfl httpScheme cs
  refine ⟨(cs.reverse.dropWhile isOuter).reverse, ?_, ?_, ?_⟩
  · show ((((httpScheme ++ ':' :: cs).dropWhile isOuter).reverse.dropWhile isOuter).reverse).filter
      isRead = _
    rw [hfront, hback, List.filter_append]
    rfl
  · have hsuffix := List.dropWhile_suffix (l := cs.reverse) isOuter
    simpa using List.reverse_prefix.2 hsuffix
  · intro hlast
    cases hcs : cs.reverse with
    | nil => simpa using hcs.symm
    | cons c back =>
      have hc : isOuter c = false := by
        refine hlast c ?_
        rw [← List.head?_reverse, hcs]
        rfl
      rw [List.dropWhile_cons_of_neg (by simp [hc]), ← hcs, List.reverse_reverse]

/-- A web URL is read from its first character that is no slash. -/
theorem ofChars_http {cs inner : List Char}
    (h : cleaned (httpScheme ++ ':' :: cs) = httpScheme ++ ':' :: inner) :
    ofChars none (httpScheme ++ ':' :: cs) =
      ofAuthority httpScheme (inner.dropWhile (isSlash true)) := by
  have hscheme : takeScheme? (httpScheme ++ ':' :: inner) = some (httpScheme, inner) := rfl
  unfold ofChars
  dsimp only
  rw [h, hscheme]
  rfl

/-- Behind the pieces in front, the others are put as behind one path. -/
theorem exists_resolvePieces_append (scheme : List Char) (names front : List (List Char)) :
    ∃ above, ∀ tail, tail ≠ [] →
      resolvePieces scheme names (front ++ tail) = resolvePieces scheme above tail := by
  induction front generalizing names with
  | nil => exact ⟨names, fun _ _ => rfl⟩
  | cons piece rest ih =>
    have hmore {tail : List (List Char)} (htail : tail ≠ []) :
        (!(rest ++ tail).isEmpty) = true := by
      simp [htail]
    -- A dot leaves an empty segment behind only at the end, and no piece in front stands there.
    by_cases hdouble : isDoubleDot piece = true
    · obtain ⟨base, hbase⟩ := ih (above scheme names)
      refine ⟨base, fun tail htail => ?_⟩
      rw [List.cons_append, resolvePieces, ← hbase tail htail]
      simp only [hmore htail, hdouble, if_true]
    · by_cases hsingle : isSingleDot piece = true
      · obtain ⟨base, hbase⟩ := ih names
        refine ⟨base, fun tail htail => ?_⟩
        rw [List.cons_append, resolvePieces, ← hbase tail htail]
        simp only [hmore htail, hdouble, hsingle, if_true, if_false, Bool.false_eq_true]
      · obtain ⟨base, hbase⟩ := ih (names ++ [encodePathSegment piece])
        refine ⟨base, fun tail htail => ?_⟩
        rw [List.cons_append, resolvePieces, ← hbase tail htail]
        simp only [hdouble, hsingle, if_false, Bool.false_eq_true]

/-- Segments that stay are only added. -/
theorem resolvePieces_of_isKept (scheme : List Char) {names tail : List (List Char)}
    (h : ∀ name ∈ tail, IsKept name) : resolvePieces scheme names tail = names ++ tail := by
  induction tail generalizing names with
  | nil => simp [resolvePieces]
  | cons name tail ih =>
    have hname := h name List.mem_cons_self
    have hencoded : encodePathSegment name = name := by
      refine Percent.encodeOutside_eq_self fun c hc => ?_
      have hinner := hname.inner c hc
      simp only [isInner, Bool.and_eq_true] at hinner
      exact hinner.2
    rw [resolvePieces]
    simp only [hname.notDouble, hname.notSingle, if_false, Bool.false_eq_true]
    rw [ih fun n hn => h n (List.mem_cons_of_mem _ hn), hencoded, List.append_assoc]
    rfl

/-- Without a question mark and a hash all is path. -/
theorem tail_ofChars {cs : List Char} (hquery : '?' ∉ cs) (hfragment : '#' ∉ cs) (special : Bool) :
    Tail.ofChars special cs = ⟨cs, none, none⟩ := by
  unfold Tail.ofChars splitMark
  rw [Text.cutAt_of_not_mem hfragment]
  dsimp only
  rw [Text.cutAt_of_not_mem hquery]
  rfl

/-- A slash parts the pieces. -/
theorem pieces_append (special : Bool) (cs rest : List Char) :
    pieces special (cs ++ '/' :: rest) = pieces special cs ++ pieces special rest := by
  unfold pieces
  rw [List.map_append, List.map_cons, if_pos (by rfl), Text.segments_append_cons]

/-- What may stand in a segment is no slash. -/
theorem isSlash_eq_false {special : Bool} {c : Char} (h : isInner c = true) :
    isSlash special c = false := by
  simp only [isInner, Bool.and_eq_true, Bool.not_eq_true'] at h
  have hslash := h.1.2
  simp only [isSlash, Bool.or_eq_false_iff] at hslash ⊢
  refine ⟨hslash.1, ?_⟩
  simpa using fun _ => by simpa using hslash.2

/-- The pieces of joined segments are these segments. -/
theorem pieces_joinSegments (special : Bool) {names : List (List Char)} (hne : names ≠ [])
    (h : ∀ name ∈ names, IsKept name) : pieces special (Text.joinSegments '/' names) = names := by
  have hslash {name : List Char} (hname : name ∈ names) {c : Char} (hc : c ∈ name) :
      isSlash special c = false :=
    isSlash_eq_false ((h name hname).inner c hc)
  have hmap : (Text.joinSegments '/' names).map (fun c => if isSlash special c then '/' else c) =
      Text.joinSegments '/' names := by
    refine (List.map_congr_left fun c hc => ?_).trans (List.map_id _)
    rcases Text.mem_joinSegments hc with rfl | ⟨name, hname, hmem⟩
    · exact if_pos rfl
    · simp [hslash hname hmem]
  unfold pieces
  rw [hmap]
  refine Text.segments_joinSegments hne fun name hname hmem => ?_
  exact absurd (hslash hname hmem) (by simp [isSlash])

/-- Whether a character belongs to the server of a web URL. -/
def isServerChar (c : Char) : Bool :=
  !(isSlash true c || c == '?' || c == '#')

/-- A slash ends the server. -/
theorem takeWhile_isServerChar (cs rest : List Char) :
    (cs ++ '/' :: rest).takeWhile isServerChar = cs.takeWhile isServerChar := by
  rw [List.takeWhile_append]
  split
  · next h =>
    rw [List.takeWhile_cons_of_neg (by decide), List.append_nil]
    exact ((List.takeWhile_prefix _).eq_of_length h).symm
  · rfl

/-- What is dropped from the start leaves the end alone. -/
theorem drop_takeWhile_length {α : Type} (p : α → Bool) (xs rest : List α) :
    (xs ++ rest).drop (xs.takeWhile p).length = xs.dropWhile p ++ rest := by
  have hsplit : xs ++ rest = xs.takeWhile p ++ (xs.dropWhile p ++ rest) := by
    rw [← List.append_assoc, List.takeWhile_append_dropWhile]
  rw [hsplit, List.drop_left]

section

variable (scheme : List Char) {cs : List Char} (hquery : '?' ∉ cs) (hfragment : '#' ∉ cs)

include hquery hfragment

/-- The path behind a server that is followed by a slash: some segments, and then what the pieces
behind that slash make of them. -/
theorem exists_rootedPath :
    ∃ base, ∀ rest, rootedPath scheme true (cs.dropWhile isServerChar ++ '/' :: rest) =
      .segments (resolvePieces scheme base (pieces true rest)) := by
  cases hpath : cs.dropWhile isServerChar with
  | nil =>
    refine ⟨[], fun rest => ?_⟩
    rw [List.nil_append, rootedPath, if_pos (by decide)]
  | cons c path =>
    have hmem : c ∈ cs := by
      refine (List.dropWhile_suffix isServerChar).subset ?_
      rw [hpath]
      exact List.mem_cons_self
    have hslash : isSlash true c = true := by
      have hend := List.head?_dropWhile_not isServerChar cs
      rw [hpath] at hend
      have hend : isServerChar c = false := hend
      simp only [isServerChar, Bool.not_eq_false', Bool.or_eq_true, beq_iff_eq] at hend
      rcases hend with (hslash | rfl) | rfl
      · exact hslash
      · exact absurd hmem hquery
      · exact absurd hmem hfragment
    obtain ⟨base, hbase⟩ := exists_resolvePieces_append scheme [] (pieces true path)
    refine ⟨base, fun rest => ?_⟩
    rw [List.cons_append, rootedPath, if_pos hslash, pieces_append,
      hbase (pieces true rest) (Text.segments_ne_nil _ _)]

/-- Behind the server all is path. -/
theorem tail_behind_server {rest : List Char} (hrestQuery : '?' ∉ rest)
    (hrestFragment : '#' ∉ rest) :
    Tail.ofChars true (cs.dropWhile isServerChar ++ '/' :: rest) =
      ⟨cs.dropWhile isServerChar ++ '/' :: rest, none, none⟩ := by
  have hsub := (List.dropWhile_suffix (l := cs) isServerChar).subset
  refine tail_ofChars ?_ ?_ true
  · simpa [hrestQuery] using fun h => hquery (hsub h)
  · simpa [hrestFragment] using fun h => hfragment (hsub h)

/-- What follows a slash behind the server changes the path and nothing else. -/
theorem exists_ofAuthority_eq (hspecial : isSpecialScheme scheme = true) :
    ∃ base, ∀ rest, '?' ∉ rest → '#' ∉ rest →
      ofAuthority scheme (cs ++ '/' :: rest) =
        (ofAuthority scheme (cs ++ ['/'])).map fun root =>
          { root with
            path := .segments (resolvePieces scheme base (pieces true rest)), query := none } := by
  obtain ⟨base, hbase⟩ := exists_rootedPath scheme hquery hfragment
  refine ⟨base, fun rest hrestQuery hrestFragment => ?_⟩
  have hserver (rest : List Char) := takeWhile_isServerChar cs rest
  have hdrop (rest : List Char) := drop_takeWhile_length isServerChar cs ('/' :: rest)
  have htail := tail_behind_server hquery hfragment hrestQuery hrestFragment
  have hnone := tail_behind_server hquery hfragment List.not_mem_nil List.not_mem_nil
  unfold ofAuthority
  simp only [hspecial, ← isServerChar.eq_1, hserver, hdrop, htail, hnone, hbase, if_true]
  -- What is left reads the server in the same way on both sides, and puts the path in at the end.
  generalize cs.takeWhile isServerChar = authority
  cases splitLast '@' authority <;> dsimp only <;> split
  · rfl
  · cases Host.ofWeb _ with
    | error e => rfl
    | ok written => cases port? _ <;> rfl
  · rfl
  · cases Host.ofWeb _ with
    | error e => rfl
    | ok written => cases port? _ <;> rfl

end

/-- A web URL names a server: some character that is read and is no slash. -/
theorem exists_server_char {cs : List Char} {url : Url}
    (h : ofChars none (httpScheme ++ ':' :: cs) = .ok url) :
    ∃ c ∈ cs, isRead c = true ∧ isSlash true c = false := by
  obtain ⟨inner, hcleaned, hprefix, -⟩ := exists_cleaned_eq cs
  rw [ofChars_http hcleaned] at h
  by_cases hslashes : (inner.filter isRead).dropWhile (isSlash true) = []
  · rw [hslashes] at h
    cases h
  · rw [List.dropWhile_eq_nil_iff] at hslashes
    simp only [List.mem_filter, not_forall, Bool.not_eq_true] at hslashes
    obtain ⟨c, ⟨hmem, hread⟩, hslash⟩ := hslashes
    exact ⟨c, hprefix.subset hmem, hread, hslash⟩

/-- Slashes at the end of a web URL name no server, so what is left without them has one. -/
theorem exists_server_char_append {cs slashes : List Char} (hslashes : ∀ c ∈ slashes, c = '/')
    {url : Url} (h : ofChars none (httpScheme ++ ':' :: (cs ++ slashes)) = .ok url) :
    ∃ c ∈ cs, isRead c = true ∧ isSlash true c = false := by
  obtain ⟨c, hc, hread, hslash⟩ := exists_server_char h
  rcases List.mem_append.1 hc with hc | hc
  · exact ⟨c, hc, hread, hslash⟩
  · rw [hslashes c hc] at hslash
    cases hslash

/-- A path behind a server is passed over nowhere: only the text in front of it is cleaned. -/
theorem ofChars_append_path {cs rest : List Char}
    (hserver : ∃ c ∈ cs, isRead c = true ∧ isSlash true c = false)
    (hrest : ∀ c ∈ rest, isPathChar c = true) :
    ofChars none (httpScheme ++ ':' :: (cs ++ '/' :: rest)) = ofAuthority httpScheme
      ((cs.filter isRead).dropWhile (isSlash true) ++ '/' :: rest) := by
  obtain ⟨inner, hcleaned, -, hinner⟩ := exists_cleaned_eq (cs ++ '/' :: rest)
  have hpath : ∀ c ∈ '/' :: rest, isPathChar c = true :=
    List.forall_mem_cons.2 ⟨by decide, hrest⟩
  have hwhole : inner = cs ++ '/' :: rest := by
    refine hinner fun c hc => ?_
    rw [List.getLast?_append, List.getLast?_cons, Option.some_or, ← List.getLast?_cons] at hc
    have hlast := hpath c (List.mem_of_getLast? hc)
    simp only [isPathChar, Bool.and_eq_true, Bool.not_eq_true'] at hlast
    exact hlast.1.1.1
  have hread : (cs ++ '/' :: rest).filter isRead = cs.filter isRead ++ '/' :: rest := by
    rw [List.filter_append]
    refine congrArg (cs.filter isRead ++ ·) (List.filter_eq_self.2 fun c hc => ?_)
    have hc := hpath c hc
    simp only [isPathChar, Bool.and_eq_true] at hc
    exact hc.1.1.2
  have hstart : ((cs.filter isRead).dropWhile (isSlash true)).isEmpty = false := by
    obtain ⟨c, hmem, hread, hslash⟩ := hserver
    rw [List.isEmpty_eq_false_iff, Ne, List.dropWhile_eq_nil_iff]
    intro hall
    have hc := hall c (List.mem_filter.2 ⟨hmem, hread⟩)
    rw [hslash] at hc
    cases hc
  rw [hwhole, hread] at hcleaned
  rw [ofChars_http hcleaned, List.dropWhile_append, hstart]
  rfl

/-- A URL that is longer by a path has the server of the shorter one and its path resolved further.
-/
theorem exists_ofChars_eq {cs : List Char} (hquery : '?' ∉ cs) (hfragment : '#' ∉ cs)
    (hserver : ∃ c ∈ cs, isRead c = true ∧ isSlash true c = false) :
    ∃ base, ∀ rest, (∀ c ∈ rest, isPathChar c = true) →
      ofChars none (httpScheme ++ ':' :: (cs ++ '/' :: rest)) =
        (ofChars none (httpScheme ++ ':' :: (cs ++ ['/']))).map fun root =>
          { root with
            path := .segments (resolvePieces httpScheme base (pieces true rest)),
            query := none } := by
  have hsub {c : Char} (hc : c ∈ (cs.filter isRead).dropWhile (isSlash true)) : c ∈ cs :=
    (List.mem_filter.1 ((List.dropWhile_suffix _).subset hc)).1
  obtain ⟨base, hbase⟩ := exists_ofAuthority_eq httpScheme (fun h => hquery (hsub h))
    (fun h => hfragment (hsub h)) rfl
  refine ⟨base, fun rest hrest => ?_⟩
  have hnone : ∀ c ∈ ([] : List Char), isPathChar c = true := nofun
  rw [ofChars_append_path hserver hrest, ofChars_append_path hserver hnone]
  refine hbase rest (fun h => ?_) fun h => ?_
  · exact absurd (hrest _ h) (by decide)
  · exact absurd (hrest _ h) (by decide)

/-- Segments that stay as they are come behind those of the shorter URL. -/
theorem exists_below {cs : List Char} (hquery : '?' ∉ cs) (hfragment : '#' ∉ cs)
    (hserver : ∃ c ∈ cs, isRead c = true ∧ isSlash true c = false) :
    ∃ base,
      (∀ root, ofChars none (httpScheme ++ ':' :: (cs ++ ['/'])) = .ok root →
        root.path = .segments (base ++ [[]])) ∧
      ∀ names, names ≠ [] → (∀ name ∈ names, IsKept name) →
        ofChars none (httpScheme ++ ':' :: (cs ++ '/' :: Text.joinSegments '/' names)) =
          (ofChars none (httpScheme ++ ':' :: (cs ++ ['/']))).map fun root =>
            { root with path := .segments (base ++ names), query := none } := by
  obtain ⟨base, hbase⟩ := exists_ofChars_eq hquery hfragment hserver
  refine ⟨base, fun root hroot => ?_, fun names hne hkept => ?_⟩
  · have hself := hbase [] (by simp)
    rw [hroot] at hself
    have hpath : resolvePieces httpScheme base (pieces true []) = base ++ [[]] := rfl
    rw [← hpath]
    exact congrArg Url.path (Except.ok.inj hself)
  · have hchars : ∀ c ∈ Text.joinSegments '/' names, isPathChar c = true := by
      intro c hc
      rcases Text.mem_joinSegments hc with rfl | ⟨name, hname, hmem⟩
      · decide
      · have hinner := (hkept name hname).inner c hmem
        simp only [isInner, Bool.and_eq_true] at hinner
        exact hinner.1.1
    rw [hbase _ hchars, pieces_joinSegments true hne hkept,
      resolvePieces_of_isKept httpScheme hkept]

/-- The host of the web is never written as nothing. -/
theorem ofWeb_ne_nil {cs written : List Char} (h : Host.ofWeb cs = .ok written) :
    written ≠ [] := by
  unfold Host.ofWeb at h
  cases hbracket : Host.bracketed? cs with
  | error e =>
    rw [hbracket] at h
    cases h
  | ok address? =>
    rw [hbracket] at h
    cases address? with
    | some address =>
      dsimp only [bind, Except.bind] at h
      cases hpieces : Host.ipv6? address with
      | error e =>
        rw [hpieces] at h
        cases h
      | ok pieces =>
        rw [hpieces] at h
        cases h
        exact List.cons_ne_nil _ _
    | none =>
      dsimp only [bind, Except.bind] at h
      split at h
      · next text _ =>
        split at h
        · next name _ =>
          split at h
          · cases h
          next hempty =>
          split at h
          · cases haddress : Host.ipv4? name with
            | error e =>
              rw [haddress] at h
              cases h
            | ok n =>
              rw [haddress] at h
              cases h
              exact List.append_ne_nil_of_left_ne_nil (Text.writeNat_ne_nil _) _
          · cases h
            exact fun h => hempty (List.isEmpty_iff.2 h)
        · cases h
      · cases h

/-- Whether there is a web URL is decided by its server alone; then it names a host, and its
fragment is that of what follows the server. -/
theorem ofAuthority_eq_ok {scheme cs : List Char} (hspecial : isSpecialScheme scheme = true)
    {url : Url} (h : ofAuthority scheme cs = .ok url) :
    url.hasHost = true ∧ url.fragment = (Tail.ofChars true (cs.dropWhile isServerChar)).fragment ∧
      ∀ ds : List Char, ds.takeWhile isServerChar = cs.takeWhile isServerChar →
        ∃ other, ofAuthority scheme ds = .ok other := by
  have hwritten {host written : List Char} (h : Host.ofWeb host = .ok written) :
      (if written.isEmpty then none else some written).isSome = true := by
    simp [ofWeb_ne_nil h]
  have hdrop := drop_takeWhile_length isServerChar cs []
  rw [List.append_nil, List.append_nil] at hdrop
  suffices hall : ∀ ds : List Char, ds.takeWhile isServerChar = cs.takeWhile isServerChar →
      (url.hasHost = true ∧
        url.fragment = (Tail.ofChars true (cs.dropWhile isServerChar)).fragment) ∧
        ∃ other, ofAuthority scheme ds = .ok other by
    obtain ⟨⟨hhost, hfragment⟩, -⟩ := hall cs rfl
    exact ⟨hhost, hfragment, fun ds hds => (hall ds hds).2⟩
  intro ds hds
  revert h
  unfold ofAuthority
  simp only [hspecial, ← isServerChar.eq_1, hds, hdrop, if_true]
  generalize cs.takeWhile isServerChar = authority
  cases splitLast '@' authority <;> dsimp only <;> split
  · nofun
  · cases hhost : Host.ofWeb _ with
    | error e => nofun
    | ok written =>
      cases port? _ with
      | error e => nofun
      | ok port =>
        rintro ⟨⟩
        exact ⟨⟨hwritten hhost, rfl⟩, _, rfl⟩
  · nofun
  · cases hhost : Host.ofWeb _ with
    | error e => nofun
    | ok written =>
      cases port? _ with
      | error e => nofun
      | ok port =>
        rintro ⟨⟩
        exact ⟨⟨hwritten hhost, rfl⟩, _, rfl⟩

/-- A web URL may end in one slash instead of some or none.  It names a host and has no fragment. -/
theorem exists_root {cs slashes : List Char} (hquery : '?' ∉ cs) (hfragment : '#' ∉ cs)
    (hslashes : ∀ c ∈ slashes, c = '/') (hend : ∀ c ∈ (cs ++ slashes).getLast?, isOuter c = false)
    {url : Url} (h : ofChars none (httpScheme ++ ':' :: (cs ++ slashes)) = .ok url) :
    ∃ root, ofChars none (httpScheme ++ ':' :: (cs ++ ['/'])) = .ok root ∧
      root.hasHost = true ∧ root.fragment = none := by
  have hserver := exists_server_char_append hslashes h
  have hnone : ∀ c ∈ ([] : List Char), isPathChar c = true := nofun
  have hread := ofChars_append_path hserver hnone
  have hsub {c : Char} (hc : c ∈ (cs.filter isRead).dropWhile (isSlash true)) : c ∈ cs :=
    (List.mem_filter.1 ((List.dropWhile_suffix _).subset hc)).1
  suffices hroot : ∃ root, ofChars none (httpScheme ++ ':' :: (cs ++ ['/'])) = .ok root by
    obtain ⟨root, hroot⟩ := hroot
    obtain ⟨hhost, htail, -⟩ := ofAuthority_eq_ok rfl (hread.symm.trans hroot)
    refine ⟨root, hroot, hhost, ?_⟩
    have hchars {c : Char} (hc : c ∈ ((cs.filter isRead).dropWhile (isSlash true) ++
        ['/']).dropWhile isServerChar) : c ∈ cs ∨ c = '/' := by
      rcases List.mem_append.1 ((List.dropWhile_suffix _).subset hc) with hc | hc
      · exact .inl (hsub hc)
      · exact .inr (List.mem_singleton.1 hc)
    rw [htail, tail_ofChars (fun h => by simpa [hquery] using hchars h)
      (fun h => by simpa [hfragment] using hchars h)]
  cases slashes with
  | nil =>
    rw [List.append_nil] at h hend
    obtain ⟨inner, hcleaned, -, hinner⟩ := exists_cleaned_eq cs
    rw [hinner hend] at hcleaned
    rw [ofChars_http hcleaned] at h
    rw [hread]
    exact (ofAuthority_eq_ok rfl h).2.2 _ (takeWhile_isServerChar _ [])
  | cons c rest =>
    obtain ⟨rfl, hrest⟩ := List.forall_mem_cons.1 hslashes
    obtain ⟨base, hbase⟩ := exists_ofChars_eq hquery hfragment hserver
    have hpath : ∀ c ∈ rest, isPathChar c = true := by
      intro c hc
      rw [hrest c hc]
      rfl
    rw [hbase rest hpath] at h
    cases hroot : ofChars none (httpScheme ++ ':' :: (cs ++ ['/'])) with
    | error e =>
      rw [hroot] at h
      cases h
    | ok root => exact ⟨root, rfl⟩

end BucketLifecycle.Url
