import Mathlib
import DocQuery.Proofs.Path.Row

/-!
# Writing Segments and Reading Them Back

A row of segments can be written as a path.  Reading the path gives the segments back, up to
merging adjacent steps along names: how many of them one fragment covers depends on whether a
star is ahead.

Behind a search without names no names and no other search may stand, nor names behind a search
with names.  Under this condition the segments come back exactly if no glob that starts with a
word stands where names are scanned in one go, which is behind a search and behind a quoted name:
the names take that word along.

## Main definitions

- `Segment.Writable`: the segments that can be written
- `pathText`: how a row of segments is written
- `MayPrecede`, `GlobsApart`: the two conditions
- `merge`: a row of segments with adjacent steps along names merged

## Main statements

- `merge_parse_pathText_iff`: reading what is written gives the same segments, up to merging,
  exactly if no word of a glob is taken along
-/

namespace DocQuery.Path

open DocQuery.Text

/-! ## Writing -/

/-- A name is written without quotes where it can be. -/
def writeName (name : String) : WrittenName :=
  if name.toList.all isBareChar then .bare name.toList else .quoted name.toList

/-- Names with dots between them. -/
def namesText (names : List String) : List Char :=
  join ['.'] (names.map fun name => (writeName name).text)

/-- How a segment is written. -/
def Segment.text : Segment → List Char
  | plain names => namesText names
  | glob pattern => pattern.toList
  | filter expression => bracket ('?' :: expression.toList)
  | descendant none => ['.', '.']
  | descendant (some names) => '.' :: '.' :: namesText names
  | array .all => bracket ['*']
  | array (.slices pieces) => bracket (join [','] (pieces.map SlicePiece.text))
  | array (.key name) => bracket (keyText name.toList)
  | unrecognized fragment => fragment.toList

/-- How a segment is written behind another one: names and globs behind a dot. -/
def Segment.dottedText (s : Segment) : List Char :=
  match s with
  | plain _ | glob _ => '.' :: s.text
  | _ => s.text

/-- How a row of segments is written. -/
def pathText : List Segment → List Char
  | [] => []
  | s :: segments => s.text ++ segments.flatMap Segment.dottedText

/-- A name that can be written is not empty, and holds no quote. -/
def IsName (name : String) : Prop := name.toList ≠ [] ∧ '"' ∉ name.toList

instance (name : String) : Decidable (IsName name) := inferInstanceAs (Decidable (_ ∧ _))

instance (pattern : List Char) : Decidable (IsPattern pattern) :=
  decidable_of_iff ((pattern.all fun c => isBareChar c || c == '*') ∧ pattern.contains '*' ∧
    pattern.any isBareChar) (by simp [IsPattern])

/-- The segments that can be written. -/
def Segment.Writable : Segment → Prop
  | plain names => names ≠ [] ∧ ∀ name ∈ names, IsName name
  | glob pattern => IsPattern pattern.toList
  | filter expression =>
    expression.toList.head? = some '(' ∧ expression.toList.getLast? = some ')' ∧
      ']' ∉ expression.toList ∧ '\n' ∉ expression.toList
  | descendant none => True
  | descendant (some names) => names ≠ [] ∧ ∀ name ∈ names, IsName name
  | array .all => True
  | array (.slices pieces) => pieces ≠ []
  | array (.key name) => name.toList ≠ [] ∧ ']' ∉ name.toList ∧ '\n' ∉ name.toList
  | unrecognized _ => False

instance : (s : Segment) → Decidable s.Writable
  | .plain _ => inferInstanceAs (Decidable (_ ∧ _))
  | .glob _ => inferInstanceAs (Decidable (IsPattern _))
  | .filter _ => inferInstanceAs (Decidable (_ ∧ _ ∧ _ ∧ _))
  | .descendant none => inferInstanceAs (Decidable True)
  | .descendant (some _) => inferInstanceAs (Decidable (_ ∧ _))
  | .array .all => inferInstanceAs (Decidable True)
  | .array (.slices _) => inferInstanceAs (Decidable (_ ≠ _))
  | .array (.key _) => inferInstanceAs (Decidable (_ ∧ _ ∧ _))
  | .unrecognized _ => inferInstanceAs (Decidable False)

/-- Whether `next` may stand directly behind `s`.  Names behind a search would be its names, and
the dots of a search without names would run together with those of the next. -/
def MayPrecede (s next : Segment) : Prop :=
  (next.kind = .plain → s.kind ≠ .descendant) ∧ (next.kind = .descendant → s ≠ .descendant none)

instance : DecidableRel MayPrecede := fun _ _ => inferInstanceAs (Decidable (_ ∧ _))

/-- No glob that starts with a word stands directly behind a search, or behind names of which
one is written in quotes.  `scanned` says whether the row itself stands there. -/
def GlobsApart (scanned : Bool) : List Segment → Prop
  | [] => True
  | .plain names :: segments =>
    GlobsApart (scanned || names.any fun name => (writeName name).isQuoted) segments
  | .glob pattern :: segments =>
    (scanned = true → pattern.toList.head? = some '*') ∧ GlobsApart false segments
  | .descendant _ :: segments => GlobsApart true segments
  | .filter _ :: segments | .array _ :: segments | .unrecognized _ :: segments =>
    GlobsApart false segments

instance instDecidableGlobsApart : (scanned : Bool) → (segments : List Segment) →
    Decidable (GlobsApart scanned segments)
  | _, [] => inferInstanceAs (Decidable True)
  | scanned, .plain names :: segments =>
    instDecidableGlobsApart (scanned || names.any fun name => (writeName name).isQuoted) segments
  | _, .glob _ :: segments =>
    have := instDecidableGlobsApart false segments
    inferInstanceAs (Decidable ((_ → _) ∧ _))
  | _, .descendant _ :: segments => instDecidableGlobsApart true segments
  | _, .filter _ :: segments | _, .array _ :: segments | _, .unrecognized _ :: segments =>
    instDecidableGlobsApart false segments

/-! ## Merging -/

/-- A segment in front of a row.  A step along names is merged with one that comes first. -/
def Segment.merge : Segment → List Segment → List Segment
  | plain names, plain more :: segments => plain (names ++ more) :: segments
  | s, segments => s :: segments

/-- A row of segments with adjacent steps along names merged. -/
def merge (segments : List Segment) : List Segment := segments.foldr Segment.merge []

theorem merge_cons (s : Segment) (segments : List Segment) :
    merge (s :: segments) = s.merge (merge segments) := rfl

/-- Steps with one name each merge into one step. -/
theorem merge_names (name : String) (names : List String) (segments : List Segment) :
    merge (((name :: names).map fun n => Segment.plain [n]) ++ segments) =
      merge (.plain (name :: names) :: segments) := by
  induction names generalizing name with
  | nil => rfl
  | cons next names ih =>
    rw [List.map_cons, List.cons_append, merge_cons, ih, merge_cons, merge_cons]
    -- what follows is merged alike in both, be it names or not
    cases merge segments with
    | nil => rfl
    | cons s rest => cases s <;> rfl

/-- Taking names one by one does not change what a row merges to. -/
theorem merge_flatMap_singles {segments : List Segment} (h : .plain [] ∉ segments) :
    merge (segments.flatMap Segment.singles) = merge segments := by
  -- a step without names would be merged, but has no names to be taken one by one
  induction segments with
  | nil => rfl
  | cons s segments ih =>
    have hrest := ih fun hmem => h (List.mem_cons_of_mem s hmem)
    rw [List.flatMap_cons]
    cases s with
    | plain names =>
      cases names with
      | nil => exact absurd List.mem_cons_self h
      | cons name names =>
        rw [Segment.singles, merge_names, merge_cons, hrest, merge_cons]
    | _ =>
      rw [Segment.singles, List.singleton_append, merge_cons, merge_cons, hrest]
      · intro names heq
        cases heq

theorem merge_parse (cs : List Char) :
    merge (parse (String.ofList cs)) = merge (reading (stripRoot cs)) := by
  rw [← merge_flatMap_singles (plain_nil_notMem_parse cs), flatMap_singles_parse]

/-! ## The pieces of a segment -/

/-- The pieces that a segment is written in. -/
def Segment.pieces : Segment → List Piece
  | plain names => names.map fun name => .name (writeName name)
  | glob pattern => [.glob pattern.toList]
  | filter expression => [.bracket ('?' :: expression.toList)]
  | descendant none => [.search []]
  | descendant (some names) => [.search (names.map writeName)]
  | array .all => [.bracket ['*']]
  | array (.slices pieces) => [.bracket (join [','] (pieces.map SlicePiece.text))]
  | array (.key name) => [.bracket (keyText name.toList)]
  | unrecognized _ => []

theorem name_writeName (name : String) : (writeName name).name = name.toList := by
  unfold writeName
  split <;> rfl

theorem valid_writeName {name : String} (h : IsName name) : (writeName name).Valid := by
  unfold writeName
  split
  · next hall => exact ⟨h.1, List.all_eq_true.mp hall⟩
  · exact h

theorem namesText_cons (name : String) (names : List String) :
    namesText (name :: names) = (writeName name).text ++ dotted (names.map writeName) := by
  have hjoin := join_text (writeName name) (names.map writeName)
  rwa [List.map_cons, List.map_map] at hjoin

theorem pieces_plain (names : List String) :
    (Segment.plain names).pieces = (names.map writeName).map Piece.name :=
  (List.map_map).symm

theorem restText_map_name (names : List WrittenName) :
    restText (names.map .name) = dotted names := by
  have h := restText_names names []
  have hnil : restText [] = [] := rfl
  rwa [hnil, List.append_nil, List.append_nil] at h

namespace Segment

variable {s : Segment}

theorem Writable.pieces_ne_nil (h : s.Writable) : s.pieces ≠ [] := by
  cases s with
  | plain names => simpa [pieces] using h.1
  | glob pattern => exact List.cons_ne_nil _ _
  | filter expression => exact List.cons_ne_nil _ _
  | descendant names => cases names <;> exact List.cons_ne_nil _ _
  | array selector => cases selector <;> exact List.cons_ne_nil _ _
  | unrecognized fragment => exact absurd h id

theorem Writable.valid_of_mem_pieces (h : s.Writable) : ∀ p ∈ s.pieces, p.Valid := by
  -- all segments but names are written in a single piece
  have hsingle : ∀ {p : Piece}, p.Valid → ∀ q ∈ [p], q.Valid := fun hp q hq => by
    rwa [List.mem_singleton.mp hq]
  have hnames : ∀ {names : List String}, (∀ name ∈ names, IsName name) →
      ∀ n ∈ names.map writeName, n.Valid := fun hall n hn => by
    obtain ⟨name, hname, rfl⟩ := List.mem_map.mp hn
    exact valid_writeName (hall name hname)
  cases s with
  | plain names =>
    intro p hp
    obtain ⟨name, hname, rfl⟩ := List.mem_map.mp hp
    exact valid_writeName (h.2 name hname)
  | glob pattern => exact hsingle h
  | filter expression =>
    refine hsingle ⟨List.cons_ne_nil _ _, fun hmem => ?_⟩
    rcases List.mem_cons.mp hmem with heq | hmem
    · exact absurd heq (by decide)
    · exact h.2.2.1 hmem
  | descendant names =>
    cases names with
    | none => exact hsingle fun n hn => absurd hn List.not_mem_nil
    | some names => exact hsingle (hnames h.2)
  | array selector =>
    cases selector with
    | all => exact hsingle ⟨by decide, by decide⟩
    | slices pieces =>
      refine hsingle ⟨join_pieces_ne_nil h, fun hmem => ?_⟩
      exact ne_of_sliceChar (mem_pieces hmem) (by decide) (by decide) (by decide) (by decide) rfl
    | key name => exact hsingle ⟨List.cons_ne_nil _ _, closeBracket_notMem_keyText h.2.1⟩
  | unrecognized fragment => exact absurd h id

/-- The pieces of a segment are written like the segment. -/
theorem Writable.restText_pieces (h : s.Writable) : restText s.pieces = s.dottedText := by
  have hsingle : ∀ p : Piece, restText [p] = p.dottedText := fun p => List.append_nil _
  cases s with
  | plain names =>
    obtain ⟨name, names, rfl⟩ := List.exists_cons_of_ne_nil h.1
    rw [pieces_plain, restText_map_name, List.map_cons, dotted_cons, dottedText, text,
      namesText_cons]
  | glob pattern => exact hsingle _
  | filter expression => exact hsingle _
  | descendant names =>
    cases names with
    | none => exact hsingle _
    | some names =>
      rw [pieces, hsingle, Piece.dottedText, Piece.text, List.map_map]
      rfl
  | array selector => cases selector <;> exact hsingle _
  | unrecognized fragment => exact absurd h id

theorem Writable.startText_pieces (h : s.Writable) (ps : List Piece) :
    startText (s.pieces ++ ps) = s.text ++ restText ps := by
  cases s with
  | plain names =>
    obtain ⟨name, names, rfl⟩ := List.exists_cons_of_ne_nil h.1
    rw [pieces_plain, List.map_cons, List.map_cons, List.cons_append, startText, restText_names,
      text, namesText_cons, List.append_assoc, Piece.text]
  | glob pattern => rfl
  | filter expression => rfl
  | descendant names =>
    cases names with
    | none => rfl
    | some names =>
      rw [pieces, List.singleton_append, startText, Piece.text, List.map_map]
      rfl
  | array selector => cases selector <;> rfl
  | unrecognized fragment => exact absurd h id

/-- What starts and ends with a parenthesis has something in between. -/
theorem exists_middle {cs : List Char} (hopen : cs.head? = some '(')
    (hclose : cs.getLast? = some ')') : ∃ middle, cs = '(' :: (middle ++ [')']) := by
  obtain ⟨tail, rfl⟩ := List.head?_eq_some_iff.mp hopen
  obtain ⟨front, hfront⟩ := List.getLast?_eq_some_iff.mp hclose
  cases front with
  | nil => exact absurd (List.cons.inj hfront).1 (by decide)
  | cons c middle =>
    obtain ⟨-, rfl⟩ := List.cons.inj hfront
    exact ⟨middle, rfl⟩

/-- The pieces of a segment stand for its names one by one, or for the segment itself. -/
theorem Writable.map_segment_pieces (h : s.Writable) :
    s.pieces.map Piece.segment = s.singles := by
  cases s with
  | plain names =>
    simp [pieces, singles, Piece.segment, name_writeName]
  | glob pattern => simp [pieces, singles, Piece.segment]
  | filter expression =>
    -- the rule for filters asks for something between the parentheses
    obtain ⟨middle, hmiddle⟩ := exists_middle h.1 h.2.1
    have hline : '\n' ∉ middle := fun hmem => h.2.2.2 (by simp [hmiddle, hmem])
    have hfilter := segmentOf_filter hline
    rw [← hmiddle, String.ofList_toList] at hfilter
    exact congrArg (fun s => [s]) hfilter
  | descendant names =>
    cases names with
    | none => rfl
    | some names =>
      obtain ⟨name, names, rfl⟩ := List.exists_cons_of_ne_nil h.1
      simp [pieces, singles, Piece.segment, name_writeName, Function.comp_def]
  | array selector =>
    cases selector with
    | all => exact congrArg (fun s => [s]) segmentOf_all
    | slices pieces => exact congrArg (fun s => [s]) (segmentOf_slices h)
    | key name =>
      have hkey := segmentOf_key h.1 h.2.2
      rw [String.ofList_toList] at hkey
      exact congrArg (fun s => [s]) hkey
  | unrecognized fragment => exact absurd h id

end Segment

/-! ## The pieces of a row -/

section Rows

variable {segments : List Segment}

theorem valid_of_mem_flatMap_pieces (h : ∀ s ∈ segments, s.Writable) :
    ∀ p ∈ segments.flatMap Segment.pieces, p.Valid := by
  intro p hp
  obtain ⟨s, hs, hp⟩ := List.mem_flatMap.mp hp
  exact (h s hs).valid_of_mem_pieces p hp

theorem restText_flatMap_pieces (h : ∀ s ∈ segments, s.Writable) :
    restText (segments.flatMap Segment.pieces) = segments.flatMap Segment.dottedText := by
  rw [restText, List.flatMap_assoc]
  exact List.flatMap_congr fun s hs => (h s hs).restText_pieces

/-- A row of segments is written like its pieces. -/
theorem pathText_eq_startText (h : ∀ s ∈ segments, s.Writable) :
    pathText segments = startText (segments.flatMap Segment.pieces) := by
  cases segments with
  | nil => rfl
  | cons s segments =>
    rw [List.flatMap_cons, (h s List.mem_cons_self).startText_pieces,
      restText_flatMap_pieces fun t ht => h t (List.mem_cons_of_mem s ht), pathText]

theorem map_segment_flatMap_pieces (h : ∀ s ∈ segments, s.Writable) :
    (segments.flatMap Segment.pieces).map Piece.segment = segments.flatMap Segment.singles := by
  rw [List.map_flatMap]
  exact List.flatMap_congr fun s hs => (h s hs).map_segment_pieces

/-- Behind a search stand neither names nor, if it has no names itself, another search. -/
theorem head?_flatMap_pieces {names : Option (List String)}
    (h : ∀ s ∈ segments, s.Writable)
    (hchain : (Segment.descendant names :: segments).IsChain MayPrecede) :
    (∀ n, (segments.flatMap Segment.pieces).head? ≠ some (.name n)) ∧
      (names = none → ∀ more, (segments.flatMap Segment.pieces).head? ≠ some (.search more)) := by
  cases segments with
  | nil => simp
  | cons s segments =>
    have hs := h s List.mem_cons_self
    have hnext : MayPrecede (.descendant names) s := hchain.rel
    -- the segment that comes next has a piece, and this is what stands behind the search
    rw [List.flatMap_cons, List.head?_append_of_ne_nil _ hs.pieces_ne_nil]
    cases s with
    | plain more => exact absurd rfl (hnext.1 rfl)
    | descendant more =>
      refine ⟨fun n hhead => ?_, fun hnone => absurd (congrArg Segment.descendant hnone)
        (hnext.2 rfl)⟩
      cases more <;> cases hhead
    | array selector =>
      cases selector <;> simp [Segment.pieces]
    | _ => simp [Segment.pieces]

theorem separated_names {names : List WrittenName} {ps : List Piece} :
    Separated (names.map .name ++ ps) ↔ Separated ps := by
  induction names with
  | nil => rfl
  | cons n names ih => exact ih

theorem separated_flatMap_pieces (h : ∀ s ∈ segments, s.Writable)
    (hchain : segments.IsChain MayPrecede) : Separated (segments.flatMap Segment.pieces) := by
  induction segments with
  | nil => trivial
  | cons s segments ih =>
    have hsegments : ∀ t ∈ segments, t.Writable := fun t ht => h t (List.mem_cons_of_mem s ht)
    have hrest := ih hsegments hchain.tail
    rw [List.flatMap_cons]
    cases s with
    | plain names =>
      rw [pieces_plain, separated_names]
      exact hrest
    | glob pattern => exact hrest
    | filter expression => exact hrest
    | descendant names =>
      obtain ⟨hname, hsearch⟩ := head?_flatMap_pieces hsegments hchain
      cases names with
      | none => exact ⟨hname, fun _ => hsearch rfl, hrest⟩
      | some names =>
        -- a search that has names may be followed by another one
        have hne : names.map writeName ≠ [] := by
          have hs : names ≠ [] := (h _ List.mem_cons_self).1
          simpa using hs
        exact ⟨hname, fun hnil => absurd hnil hne, hrest⟩
    | array selector => cases selector <;> exact hrest
    | unrecognized fragment => exact absurd (h _ List.mem_cons_self) id

/-- The globs of a row stay apart from its names where its pieces stay apart. -/
theorem apart_flatMap_pieces {scanned : Bool} (h : ∀ s ∈ segments, s.Writable) :
    Apart scanned (segments.flatMap Segment.pieces) ↔ GlobsApart scanned segments := by
  -- on the segments; whether names are being scanned changes from one to the next
  induction segments generalizing scanned with
  | nil => rfl
  | cons s segments ih =>
    have hrest : ∀ {b}, Apart b (segments.flatMap Segment.pieces) ↔ GlobsApart b segments :=
      ih fun t ht => h t (List.mem_cons_of_mem s ht)
    rw [List.flatMap_cons]
    cases s with
    | plain names =>
      have hquoted : (names.map writeName).any (·.isQuoted) =
          names.any fun name => (writeName name).isQuoted := List.any_map
      rw [pieces_plain, apart_names, hquoted]
      exact hrest
    | glob pattern => exact and_congr_right fun _ => hrest
    | filter expression => exact hrest
    | descendant names => cases names <;> exact hrest
    | array selector => cases selector <;> exact hrest
    | unrecognized fragment => exact absurd (h _ List.mem_cons_self) id

/-! ## How many names there are -/

theorem totalNames_flatMap_singles (segments : List Segment) :
    totalNames (segments.flatMap Segment.singles) = totalNames segments := by
  induction segments with
  | nil => rfl
  | cons s segments ih =>
    rw [List.flatMap_cons, totalNames_append, ih, totalNames_cons]
    cases s with
    | plain names => rw [Segment.singles, totalNames_map_plain]; rfl
    | _ => rfl

theorem totalNames_merge (segments : List Segment) :
    totalNames (merge segments) = totalNames segments := by
  induction segments with
  | nil => rfl
  | cons s segments ih =>
    rw [merge_cons, totalNames_cons, ← ih]
    cases s with
    | plain names =>
      cases merge segments with
      | nil => rfl
      | cons next rest =>
        cases next with
        | plain more =>
          -- the merged step has the names of both
          rw [Segment.merge, totalNames_cons, totalNames_cons, ← Nat.add_assoc]
          exact congrArg (· + totalNames rest) List.length_append
        | _ => exact totalNames_cons _ _
    | _ => exact totalNames_cons _ _

/-! ## The round trip -/

/-- Reading what is written gives the names and the other segments back, one by one. -/
theorem reading_pathText (h : ∀ s ∈ segments, s.Writable) (hchain : segments.IsChain MayPrecede)
    (hglobs : GlobsApart false segments) :
    reading (pathText segments) = segments.flatMap Segment.singles := by
  rw [pathText_eq_startText h, reading_startText (valid_of_mem_flatMap_pieces h)
    (separated_flatMap_pieces h hchain) ((apart_flatMap_pieces h).mpr hglobs),
    map_segment_flatMap_pieces h]

/-- If it gives no more names than were written, the globs stay apart. -/
theorem globsApart_of_totalNames_le (h : ∀ s ∈ segments, s.Writable)
    (hchain : segments.IsChain MayPrecede)
    (hle : totalNames (reading (pathText segments)) ≤ totalNames segments) :
    GlobsApart false segments := by
  have htotal : totalNames ((segments.flatMap Segment.pieces).map Piece.segment) =
      totalNames segments := by
    rw [map_segment_flatMap_pieces h, totalNames_flatMap_singles]
  rw [pathText_eq_startText h, ← htotal] at hle
  have hpieces := valid_of_mem_flatMap_pieces h
  rcases apart_or_gains hpieces (separated_flatMap_pieces h hchain) with happart | hgains
  · exact (apart_flatMap_pieces h).mp happart
  · exact absurd hgains (Nat.not_lt_of_le hle)

/-- Reading what is written gives the same segments, up to merging, exactly where no glob starts
with a word that the names in front of it take along. -/
theorem merge_parse_pathText_iff (h : ∀ s ∈ segments, s.Writable)
    (hchain : segments.IsChain MayPrecede) (k : Nat) :
    merge (parse (String.ofList (List.replicate k '$' ++ pathText segments))) = merge segments ↔
      GlobsApart false segments := by
  have hroot : stripRoot (List.replicate k '$' ++ pathText segments) = pathText segments := by
    rw [pathText_eq_startText h]
    exact stripRoot_startText (valid_of_mem_flatMap_pieces h) k
  rw [merge_parse, hroot]
  constructor
  · -- merging keeps the number of names
    intro hmerge
    have htotal := congrArg totalNames hmerge
    rw [totalNames_merge, totalNames_merge] at htotal
    exact globsApart_of_totalNames_le h hchain htotal.le
  · -- both rows merge to what their names merge to, taken one by one
    intro hglobs
    have hplain : .plain [] ∉ segments := fun hmem => (h _ hmem).1 rfl
    rw [reading_pathText h hchain hglobs, merge_flatMap_singles hplain]

/-- Names bare and quoted, stars in keys, globs behind names and searches, and all brackets. -/
theorem merge_parse_pathText_iff_mixed :
    let segments : List Segment :=
      [.plain ["a", "b c"], .plain ["d"], .array (.key "x.*[y"), .glob "w*", .plain ["e"],
        .glob "q*r", .descendant none, .glob "*z", .descendant (some ["n", "m*o"]),
        .array (.slices [.range none (some 3), .index (-1)]), .filter "(@.v > '*')", .array .all]
    (∀ s ∈ segments, s.Writable) ∧ segments.IsChain MayPrecede ∧ GlobsApart false segments ∧
      merge (parse (String.ofList ('$' :: pathText segments))) = merge segments := by
  intro segments
  have h : ∀ s ∈ segments, s.Writable := by decide +kernel
  have hchain : segments.IsChain MayPrecede := by decide +kernel
  have hglobs : GlobsApart false segments := by decide +kernel
  exact ⟨h, hchain, hglobs, (merge_parse_pathText_iff h hchain 1).mpr hglobs⟩

end Rows

/-- The second condition is needed: behind a search and behind a quoted name, the names take the
first word of a glob along. -/
theorem merge_parse_pathText_word_glob :
    let searched : List Segment := [.descendant none, .glob "a*"]
    let quoted : List Segment := [.plain ["x y"], .glob "a*"]
    (∀ s ∈ searched ++ quoted, s.Writable) ∧ searched.IsChain MayPrecede ∧
      quoted.IsChain MayPrecede ∧
      merge (parse (String.ofList (pathText searched))) ≠ merge searched ∧
      merge (parse (String.ofList (pathText quoted))) ≠ merge quoted := by
  decide +kernel

end DocQuery.Path
