import Decouple.Proofs.Removal.Attributes
import Decouple.Proofs.Sorting
import Decouple.Proofs.StaticImports

/-!
# Lines of findings

A finding says on which line of a text it is.  The text of a finding stands in the searched text, at
an offset that each kind of finding takes from another place: a specifier from its quotes, an address
from the start of its match, an attribute from the name of the attribute, a marker from the first
code point behind white space.  The line is the line of that offset (`StandsAt`).

So the line is one of the lines between line feeds, and it holds the beginning of the finding
(`StandsAt.pointsInto`).  Within one kind of finding the offsets follow each other as the matches do,
and the lines follow the offsets (`pointInOrder_findings`).
-/

namespace Decouple

open CodePoint (isIn isBlank)
open Pattern

namespace Text

variable {sep : CodePoint} {a b t : Text} {n n' : Nat}

/-! ## Parts and lines by number -/

/-- There is one part more than there are separators. -/
theorem length_splitOn (sep : CodePoint) (t : Text) :
    (splitOn sep t).length = t.count sep + 1 := by
  unfold splitOn
  induction t with
  | nil => rfl
  | cons c t ih =>
    rw [splitWhere]
    by_cases hc : c = sep
    · rw [if_pos (decide_eq_true hc), List.length_cons, ih, hc, List.count_cons_self]
    · rw [if_neg (by simpa using hc), List.count_cons_of_ne hc, ← ih]
      cases hs : splitWhere (· = sep) t with
      | nil => exact absurd hs (splitWhere_ne_nil _ _)
      | cons part parts => rfl

/-- The first part. -/
theorem getElem?_splitOn_zero (sep : CodePoint) (t : Text) :
    (splitOn sep t)[0]? = some (beforeFirst sep t) := by
  by_cases h : sep ∈ t
  · obtain ⟨a, b, rfl, ha⟩ := List.eq_append_cons_of_mem h
    rw [splitOn_append ha, beforeFirst_append ha]
    rfl
  · rw [splitOn_of_not_mem h, beforeFirst_of_not_mem h]
    rfl

/-- The part that a place is in: what stands there since the separator before it, and up to the next
one. -/
theorem getElem?_splitOn (sep : CodePoint) (a b : Text) :
    (splitOn sep (a ++ b))[a.count sep]? = some (afterLast sep a ++ beforeFirst sep b) := by
  by_cases h : sep ∈ a
  · obtain ⟨x, y, rfl, hy⟩ := exists_append_of_mem_last h
    have hcount : (x ++ sep :: y).count sep = (splitOn sep x).length := by
      rw [length_splitOn, List.count_append, List.count_cons_self, List.count_eq_zero.2 hy]
    rw [hcount, List.append_assoc, List.cons_append, splitOn_append_cons,
      List.getElem?_append_right (Nat.le_refl _), Nat.sub_self, getElem?_splitOn_zero,
      afterLast_append hy, beforeFirst, beforeFirst,
      List.takeWhile_append_of_pos (ne_of_not_mem hy)]
  · rw [List.count_eq_zero.2 h, getElem?_splitOn_zero, afterLast_of_not_mem h, beforeFirst,
      beforeFirst, List.takeWhile_append_of_pos (ne_of_not_mem h)]

/-- The beginning of a text, up to a separator, is a beginning of what starts with the text. -/
theorem beforeFirst_prefix (sep : CodePoint) (a b : Text) :
    beforeFirst sep a <+: beforeFirst sep (a ++ b) := by
  by_cases h : sep ∈ a
  · obtain ⟨x, y, rfl, hx⟩ := List.eq_append_cons_of_mem h
    rw [List.append_assoc, List.cons_append, beforeFirst_append hx, beforeFirst_append hx]
  · rw [beforeFirst_of_not_mem h, beforeFirst, List.takeWhile_append_of_pos (ne_of_not_mem h)]
    exact List.prefix_append _ _

theorem lineAt_append (a b : Text) :
    lineAt (a ++ b) a.length = a.count (CodePoint.ofChar '\n') + 1 := by
  rw [lineAt, List.take_left, countOf]

theorem lineAt_pos (t : Text) (n : Nat) : 1 ≤ lineAt t n := Nat.le_add_left 1 _

theorem lineAt_le_length (t : Text) (n : Nat) : lineAt t n ≤ (splitOn '\n' t).length := by
  rw [length_splitOn, lineAt, countOf]
  exact Nat.succ_le_succ ((List.take_sublist n t).count_le _)

theorem lineAt_mono (h : n ≤ n') : lineAt t n ≤ lineAt t n' :=
  Nat.succ_le_succ ((List.take_sublist_take_left h).count_le _)

/-! ## Trimmed texts -/

theorem trimEndOf_prefix (p : CodePoint → Bool) (t : Text) : trimEndOf p t <+: t := by
  rw [trimEndOf, ← List.reverse_suffix, List.reverse_reverse]
  exact List.dropWhile_suffix _

/-- A text is white space, what is left when it is trimmed, and more. -/
theorem exists_append_trim (t : Text) :
    ∃ rest, t = t.takeWhile CodePoint.isBlank ++ (trim t ++ rest) := by
  obtain ⟨rest, hrest⟩ := trimEndOf_prefix CodePoint.isBlank (t.dropWhile CodePoint.isBlank)
  refine ⟨rest, ?_⟩
  have htrim : trim t ++ rest = t.dropWhile CodePoint.isBlank := hrest
  rw [htrim, List.takeWhile_append_dropWhile]

end Text

namespace Signature

variable {s : Settings} {t : Text} {pattern : Pattern} {m : Match} {f : Finding} {fs : List Finding}

/-! ## Findings at an offset -/

/-- The line of a finding is one of a text's lines, and holds the first line of the finding. -/
structure PointsInto (t : Text) (f : Finding) : Prop where
  pos : 1 ≤ f.line
  le_length : f.line ≤ (Text.splitOn '\n' t).length
  holds : ∃ line, (Text.splitOn '\n' t)[f.line - 1]? = some line ∧
    Text.beforeFirst '\n' f.text <:+: line

/-- Findings that point into a text, line after line. -/
structure PointInOrder (t : Text) (fs : List Finding) : Prop where
  pointsInto : ∀ f ∈ fs, PointsInto t f
  inOrder : fs.Pairwise fun f f' => f.line ≤ f'.line

/-- A finding stands at an offset of a text, and its line is the line there. -/
def StandsAt (t : Text) (f : Finding) (offset : Nat) : Prop :=
  ∃ a b, t = a ++ (f.text ++ b) ∧ offset = a.length ∧ f.line = Text.lineAt t offset

theorem StandsAt.pointsInto {offset : Nat} (h : StandsAt t f offset) : PointsInto t f := by
  obtain ⟨a, b, rfl, rfl, hline⟩ := h
  have hindex : f.line - 1 = a.count (CodePoint.ofChar '\n') := by
    rw [hline, Text.lineAt_append, Nat.add_sub_cancel]
  refine ⟨hline ▸ Text.lineAt_pos _ _, hline ▸ Text.lineAt_le_length _ _, ?_⟩
  exact ⟨_, hindex ▸ Text.getElem?_splitOn '\n' a (f.text ++ b),
    (Text.beforeFirst_prefix '\n' f.text b).isInfix.trans (List.suffix_append _ _).isInfix⟩

/-- Findings at offsets that follow each other point into the text in order. -/
theorem pointInOrder_of_offsets {found : List (Nat × Finding)}
    (hstands : ∀ g ∈ found, StandsAt t g.2 g.1) (hsorted : found.Pairwise fun g g' => g.1 ≤ g'.1) :
    PointInOrder t (found.map Prod.snd) := by
  refine ⟨fun f hf => ?_, List.pairwise_map.2 (hsorted.imp_of_mem fun hg hg' hle => ?_)⟩
  · obtain ⟨g, hg, rfl⟩ := List.mem_map.1 hf
    exact (hstands g hg).pointsInto
  · obtain ⟨_, _, -, -, hline⟩ := hstands _ hg
    obtain ⟨_, _, -, -, hline'⟩ := hstands _ hg'
    rw [hline, hline']
    exact Text.lineAt_mono hle

/-! ## Matches and their offsets -/

/-- A match stands at its offset. -/
theorem exists_append_offset (hm : m ∈ pattern.findAll t) :
    ∃ a b, t = a ++ (m.text ++ b) ∧ m.offset = a.length ∧
      m.stop.offset = m.offset + m.text.length := by
  obtain ⟨p, ⟨a, ha⟩, hmatch, -⟩ := exists_place_of_mem_findAll hm
  obtain ⟨rfl, hreaches⟩ := reaches_of_matchAt? hmatch
  refine ⟨a, m.stop.rest, ?_, ?_, hreaches.length_textTo⟩
  · rw [Match.text, hreaches.textTo_append_rest]
    exact ha.1
  · rw [Match.offset, ha.2.1]
    exact Nat.zero_add _

/-- What is found in each match, with an offset inside of the match. -/
structure Locates (t : Text) (pattern : Pattern) (find? : Match → Option Finding)
    (offset : Match → Nat) : Prop where
  ge_offset : ∀ m ∈ pattern.findAll t, m.offset ≤ offset m
  le_stop : ∀ m ∈ pattern.findAll t, offset m ≤ m.stop.offset
  standsAt : ∀ m ∈ pattern.findAll t, ∀ f, find? m = some f → StandsAt t f (offset m)

/-- What is found in the matches of a pattern points into the text in order. -/
theorem Locates.pointInOrder {find? : Match → Option Finding} {offset : Match → Nat}
    (h : Locates t pattern find? offset) : PointInOrder t ((pattern.findAll t).filterMap find?) := by
  have hpairs : (pattern.findAll t).filterMap find? = ((pattern.findAll t).filterMap fun m =>
      (find? m).map fun f => (offset m, f)).map Prod.snd := by
    rw [List.map_filterMap]
    congr 1
    funext m
    rw [Option.map_map]
    exact (Option.map_id' (x := find? m)).symm
  rw [hpairs]
  refine pointInOrder_of_offsets (fun g hg => ?_) ?_
  · obtain ⟨m, hm, hg⟩ := List.mem_filterMap.1 hg
    obtain ⟨f, hf, rfl⟩ := Option.map_eq_some_iff.1 hg
    exact h.standsAt m hm f hf
  · rw [List.pairwise_filterMap]
    refine (pairwise_findAll pattern t).imp_of_mem fun hm hm' hbefore g hg g' hg' => ?_
    obtain ⟨f, -, rfl⟩ := Option.map_eq_some_iff.1 hg
    obtain ⟨f', -, rfl⟩ := Option.map_eq_some_iff.1 hg'
    exact (h.le_stop _ hm).trans (hbefore.trans (h.ge_offset _ hm'))

/-! ## Findings without the white space before them -/

theorem inkOffset_le_stop (hm : m ∈ pattern.findAll t) : inkOffset m ≤ m.stop.offset := by
  obtain ⟨a, b, -, -, hstop⟩ := exists_append_offset hm
  rw [hstop, inkOffset]
  exact Nat.add_le_add_left (List.takeWhile_prefix _).length_le _

/-- A trimmed match stands behind the white space that the match starts with. -/
theorem standsAt_inkOffset (hm : m ∈ pattern.findAll t) (p : Platform) :
    StandsAt t ⟨Text.trim m.text, Text.lineAt t (inkOffset m), p⟩ (inkOffset m) := by
  obtain ⟨a, b, htext, hoffset, -⟩ := exists_append_offset hm
  obtain ⟨rest, hrest⟩ := Text.exists_append_trim m.text
  refine ⟨a ++ m.text.takeWhile isBlank, rest ++ b, ?_, ?_, rfl⟩
  · rw [htext]
    conv_lhs => rw [hrest]
    simp only [List.append_assoc]
  · rw [inkOffset, hoffset, List.length_append]

/-- No white space spells a d. -/
theorem isBlank_of_sameLetter {c : CodePoint} (h : CodePoint.sameLetter 'd' c = true) :
    isBlank c = false := by
  refine Bool.eq_false_iff.2 fun hblank => ?_
  have hall : ∀ n ∈ CodePoint.blankValues, CodePoint.sameLetter 'd' (CodePoint.ofNat n) = false := by
    decide +kernel
  have hspells := hall c.val (CodePoint.mem_blankValues hblank)
  rw [CodePoint.ofNat_val, h] at hspells
  cases hspells

/-- The name of a data attribute is where the white space before it ends. -/
theorem offsetOf_attribute (hm : m ∈ dataAttribute.findAll t) :
    m.offsetOf .attribute = inkOffset m := by
  obtain ⟨p, -, hmatch, -⟩ := exists_place_of_mem_findAll hm
  obtain ⟨rfl, hway⟩ := way_of_matchAt? hmatch
  obtain ⟨m₁, ms₁, hnot, hway⟩ := way_sequence_cons.1 hway
  obtain ⟨m₂, ms₂, hgap, hway⟩ := way_sequence_cons.1 hway
  obtain ⟨m₃, ms₃, hname, hbehind⟩ := way_sequence_cons.1 hway
  obtain ⟨qs, rfl, hinside⟩ := way_part hname
  obtain ⟨m₄, ms₄, hdata, hmore⟩ := way_sequence_cons.1 hinside
  cases hnot
  obtain ⟨-, w, hw, hblank, -⟩ := way_many hgap
  obtain ⟨-, d, hd, hspells⟩ := way_literalAnyCase hdata
  obtain ⟨e, he⟩ := hmore.reaches.trans hbehind.reaches
  have hpart : m.part? .attribute = some ⟨m₂, m₃⟩ := by
    rw [Match.part?, hbehind.lookup_of_named (by rfl)]
    rfl
  have htext : m.text = w ++ (d ++ e) := (hw.append (hd.append he)).textTo_eq
  obtain ⟨c, d, hc, -, rfl⟩ := List.forall₂_cons_left_iff.1 hspells
  rw [Match.offsetOf, hpart, inkOffset, htext, List.takeWhile_append_of_pos hblank, List.cons_append,
    List.takeWhile_cons_of_neg (by simp [isBlank_of_sameLetter hc]), List.append_nil]
  exact hw.2.1

/-! ## The four kinds of findings -/

theorem locates_addresses (s : Settings) (t : Text) :
    Locates t webAddress (fun m => (addressOwner? s (addressOf m)).map fun p =>
      ⟨addressOf m, Text.lineAt t m.offset, p⟩) Match.offset where
  ge_offset m _ := Nat.le_refl _
  le_stop m hm := (offset_lt_of_mem_findAll hm).le
  standsAt m hm f hf := by
    obtain ⟨p, -, rfl⟩ := Option.map_eq_some_iff.1 hf
    obtain ⟨a, b, htext, hoffset, -⟩ := exists_append_offset hm
    obtain ⟨rest, hrest⟩ := Text.trimEndOf_prefix (isIn ".,;") m.text
    refine ⟨a, rest ++ b, ?_, hoffset, rfl⟩
    rw [htext, ← hrest, List.append_assoc]
    rfl

theorem locates_attributes (s : Settings) (t : Text) :
    Locates t dataAttribute (fun m => (attributeMatchOwner? s m).map fun p =>
      ⟨Text.trim m.text, Text.lineAt t (m.offsetOf .attribute), p⟩) inkOffset where
  ge_offset m _ := Nat.le_add_right _ _
  le_stop m hm := inkOffset_le_stop hm
  standsAt m hm f hf := by
    obtain ⟨p, -, rfl⟩ := Option.map_eq_some_iff.1 hf
    rw [offsetOf_attribute hm]
    exact standsAt_inkOffset hm p

theorem locates_markers (s : Settings) (t : Text) :
    Locates t (commentMarker (keywords s.platforms)) (fun m =>
      ((keywordOwner s.platforms (m.textOf .keyword)).map fun p =>
        (⟨Text.trim m.text, Text.lineAt t (inkOffset m), p⟩ : Finding)).toOption) inkOffset where
  ge_offset m _ := Nat.le_add_right _ _
  le_stop m hm := inkOffset_le_stop hm
  standsAt m hm f hf := by
    obtain ⟨p, -, rfl⟩ := Step.map_eq_ok.1 (Step.toOption_eq_some.1 hf)
    exact standsAt_inkOffset hm p

/-- The specifier of an import stands behind its quote. -/
theorem QuotedAt.standsAt {spec : Text} {offset : Nat} (h : QuotedAt t spec offset) (p : Platform) :
    StandsAt t ⟨spec, Text.lineAt t offset, p⟩ offset := by
  obtain ⟨a, quote, rest, -, -, htext, hoffset⟩ := h
  refine ⟨a ++ [quote], quote :: rest, ?_, ?_, rfl⟩
  · rw [htext, List.append_assoc, List.singleton_append]
  · rw [hoffset, List.length_append, List.length_singleton]

/-- The three searches for imports are put together by the offsets of the specifiers. -/
theorem pointInOrder_findImports (s : Settings) (t : Text) : PointInOrder t (findImports s t) := by
  refine pointInOrder_of_offsets (fun g hg => ?_) ?_
  · have hfound := mem_of_firstPerOffset ((Sorting.sort_perm _).mem_iff.1 hg)
    obtain ⟨pattern, hp, hg⟩ := List.mem_flatMap.1 hfound
    obtain ⟨m, hm, hg⟩ := List.mem_filterMap.1 hg
    obtain ⟨offset, spec, owner, hquoted, -, rfl⟩ := importFinding?_of_mem hp hm hg
    exact hquoted.standsAt owner
  · refine (Sorting.pairwise_sort ?_ ?_ _).imp of_decide_eq_true
    · intro g g'
      rw [Bool.or_eq_true, decide_eq_true_eq, decide_eq_true_eq]
      exact Nat.le_total _ _
    · intro g g' g'' h h'
      rw [decide_eq_true_eq] at h h' ⊢
      exact h.trans h'

/-- What is found in a text points into it, in order, for each kind of finding. -/
theorem pointInOrder_findings (s : Settings) (t : Text) :
    PointInOrder t (findImports s t) ∧ PointInOrder t (findAddresses s t) ∧
    PointInOrder t (findAttributes s t) ∧
    ∀ fs, findMarkers s t = .ok fs → PointInOrder t fs := by
  refine ⟨pointInOrder_findImports s t, (locates_addresses s t).pointInOrder,
    (locates_attributes s t).pointInOrder, fun fs hfs => ?_⟩
  rw [Step.eq_filterMap_of_mapM hfs]
  exact (locates_markers s t).pointInOrder

/-- A marker behind spaces, and one with its comment over three lines. -/
def spreadMarkers : Text := "let a;\n  // @lovable\n/*\n  @cursor b\n*/\n"

theorem spreadMarkers_pointInOrder : ∃ fs, findMarkers {} spreadMarkers = .ok fs ∧
    fs.map Finding.line = [2, 3] ∧ PointInOrder spreadMarkers fs := by
  obtain ⟨fs, hfs⟩ : ∃ fs, findMarkers {} spreadMarkers = .ok fs :=
    Step.exists_of_isOk (by decide +kernel)
  have hlines : (findMarkers {} spreadMarkers).toOption.map (·.map Finding.line) = some [2, 3] := by
    decide +kernel
  rw [hfs] at hlines
  exact ⟨fs, hfs, Option.some.inj hlines, (pointInOrder_findings {} spreadMarkers).2.2.2 fs hfs⟩

end Signature

end Decouple
