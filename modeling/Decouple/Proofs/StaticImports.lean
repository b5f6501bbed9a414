import Decouple.Proofs.Agreement.Code
import Decouple.Proofs.Parts
import Decouple.Proofs.Removal.Statements

/-!
# Static imports are found

A static import of a platform's module that starts a line is found, whatever its clause and its white
space are and whatever comes before and behind it (`staticImport_found`).  An earlier statement that
is still open may go on into it.  But that statement goes on to the first code point that is no part
of a clause, which is the quote before the same specifier.

Three patterns look for imports, and of what they find at one offset the first is kept.  That does
not matter, since the offset of a specifier tells what the specifier is (`spec_of_offset`).
-/

namespace Decouple

open CodePoint (isIn isBlank)
open Pattern

namespace Signature

variable {s : Settings} {t A B head spec : Text} {quote : CodePoint} {pattern : Pattern}
  {before behind : List Pattern} {p q : Place} {qs : Parts} {m : Match} {f : Nat × Finding}

/-! ## The specifier of a finding -/

/-- A specifier stands in its quotes at an offset of a text. -/
def QuotedAt (t spec : Text) (offset : Nat) : Prop :=
  ∃ a quote rest, isIn "'\"" quote = true ∧ IsSpec spec ∧ t = a ++ quote :: (spec ++ quote :: rest) ∧
    offset = a.length + 1

/-- At one offset there is one specifier. -/
theorem spec_of_offset {spec' : Text} {offset : Nat} (h : QuotedAt t spec offset)
    (h' : QuotedAt t spec' offset) : spec' = spec := by
  obtain ⟨a, quote, rest, hquote, hspec, rfl, hoffset⟩ := h
  obtain ⟨a', quote', rest', hquote', hspec', htext, hoffset'⟩ := h'
  obtain ⟨-, hmore⟩ := List.append_inj htext (by omega)
  exact (Text.append_cons_inj hspec.2 hspec'.2 (not_isNotIn_of_isQuote hquote)
    (not_isNotIn_of_isQuote hquote') (List.cons.inj hmore).2).1.symm

/-- Where no other part of a pattern is a specifier, the specifier of a match is the quoted one. -/
theorem quotedAt_of_way (hnone : (sequence behind).named .spec = []) (hp : (Place.start t).Reaches p)
    (h : Way (sequence (before ++ quotedSpec :: behind)) p [] q qs) :
    ∃ found, qs.lookup .spec = some found ∧ QuotedAt t found.text found.offset := by
  obtain ⟨m, ms, hbefore, hrest⟩ := way_sequence_append.1 h
  obtain ⟨r, rs, hquoted, hbehind⟩ := way_sequence_cons.1 hrest
  obtain ⟨quote, spec, hquote, hspec, htaken, found, hfound, rfl, hoffset⟩ := way_quotedSpec hquoted
  obtain ⟨a, ha⟩ := hp.trans hbefore.reaches
  refine ⟨found, (hbehind.lookup_of_named hnone).trans hfound, a, quote, r.rest, hquote, hspec, ?_, ?_⟩
  · have htext : t = a ++ m.rest := ha.1
    rw [htext, htaken.1]
    simp
  · rw [hoffset, ha.2.1]
    exact congrArg (· + 1) (Nat.zero_add _)

theorem exists_append_quotedSpec
    (hp : pattern ∈ [importStatement, requireStatement, dynamicImport]) :
    ∃ before behind, pattern = sequence (before ++ quotedSpec :: behind) ∧
      (sequence behind).named .spec = [] := by
  simp only [List.mem_cons, List.not_mem_nil, or_false] at hp
  rcases hp with rfl | rfl | rfl
  · exact ⟨[_, _, _, _, _, _], [_], rfl, rfl⟩
  · exact ⟨[_, _, _, _, _], [_, _, _], rfl, rfl⟩
  · exact ⟨[_, _, _], [_, _], rfl, rfl⟩

/-- What is found as an import has its specifier in quotes. -/
theorem quotedAt_of_mem_findAll (hp : pattern ∈ [importStatement, requireStatement, dynamicImport])
    (hm : m ∈ pattern.findAll t) : QuotedAt t (m.textOf .spec) (m.offsetOf .spec) := by
  obtain ⟨before, behind, rfl, hnone⟩ := exists_append_quotedSpec hp
  obtain ⟨p, hreaches, hmatch, -⟩ := exists_place_of_mem_findAll hm
  obtain ⟨-, hway⟩ := way_of_matchAt? hmatch
  obtain ⟨found, hfound, hquoted⟩ := quotedAt_of_way hnone hreaches hway
  rwa [Match.textOf, Match.offsetOf, Match.part?, hfound]

/-- A finding of an import is told by its offset. -/
theorem importFinding?_of_mem (hp : pattern ∈ [importStatement, requireStatement, dynamicImport])
    (hm : m ∈ pattern.findAll t) (hf : importFinding? s t m = some f) :
    ∃ offset spec owner, QuotedAt t spec offset ∧ s.specifierOwner? spec = some owner ∧
      f = (offset, ⟨spec, Text.lineAt t offset, owner⟩) := by
  obtain ⟨owner, howner, rfl⟩ := Option.map_eq_some_iff.1 hf
  exact ⟨_, _, owner, quotedAt_of_mem_findAll hp hm, howner, rfl⟩

/-- What any of the patterns finds is found. -/
theorem mem_findImports (hp : pattern ∈ [importStatement, requireStatement, dynamicImport])
    (hm : m ∈ pattern.findAll t) (hf : importFinding? s t m = some f) : f.2 ∈ findImports s t := by
  have hfound : f ∈ [importStatement, requireStatement, dynamicImport].flatMap fun pattern =>
      (pattern.findAll t).filterMap (importFinding? s t) :=
    List.mem_flatMap.2 ⟨pattern, hp, List.mem_filterMap.2 ⟨m, hm, hf⟩⟩
  obtain ⟨g, hg, hsame⟩ := exists_of_firstPerOffset hfound
  -- The finding that is kept for the offset may be one of another pattern, but it says the same.
  obtain ⟨pattern', hp', hg'⟩ := List.mem_flatMap.1 (mem_of_firstPerOffset hg)
  obtain ⟨m', hm', hg'⟩ := List.mem_filterMap.1 hg'
  obtain ⟨offset, spec, owner, hquoted, howner, rfl⟩ := importFinding?_of_mem hp hm hf
  obtain ⟨offset', spec', owner', hquoted', howner', rfl⟩ := importFinding?_of_mem hp' hm' hg'
  obtain rfl : offset' = offset := hsame
  obtain rfl := spec_of_offset hquoted hquoted'
  obtain rfl := Option.some.inj (howner'.symm.trans howner)
  exact List.mem_map.2 ⟨_, (Sorting.sort_perm _).mem_iff.2 hg, rfl⟩

/-! ## Static imports -/

/-- A text with a statement that takes in a module. -/
def importing (A head : Text) (quote : CodePoint) (spec B : Text) : Text :=
  A ++ (head ++ quote :: (spec ++ quote :: B))

/-- A static import of a platform's module that starts a line is found on the line where its specifier
stands. -/
theorem staticImport_found {owner : Platform} (hA : A.isWholeLines = true)
    (hhead : IsImportHead head) (hquote : isIn "'\"" quote = true) (hspec : IsSpec spec)
    (howner : s.specifierOwner? spec = some owner) (B : Text) :
    ⟨spec, Text.lineAt (importing A head quote spec B) ((A ++ head).length + 1), owner⟩ ∈
      findImports s (importing A head quote spec B) := by
  obtain ⟨p, hp, hrest⟩ := Place.exists_takes (p := Place.start (importing A head quote spec B))
    (t := A) rfl
  obtain ⟨m, hm, rfl⟩ := exists_match_of_importHead (i := []) (Place.lineStart_of_takes hA hp)
    (List.forall_mem_nil _) hhead hquote hspec hrest
  obtain ⟨m', hm', w, u, quote', tail, htakes, hw, hsame, hoffset⟩ := exists_import_around ⟨A, hp⟩ hm
  have hahead : u ++ quote' :: (m.textOf .spec ++ quote' :: (tail ++ m'.stop.rest)) =
      head ++ quote :: (m.textOf .spec ++ quote :: B) := by
    have hrest' := hw.1
    rw [htakes.rest_eq, hrest, List.append_assoc] at hrest'
    exact List.append_cancel_left hrest'
  obtain ⟨rfl, -⟩ := Text.append_cons_inj
    (fun c hc => htakes.opens.isClause c (List.mem_append_right _ hc)) hhead.isClause
    (not_isClause_of_isQuote htakes.quoted) (not_isClause_of_isQuote hquote) hahead
  have hplace : m'.offsetOf .spec = (A ++ u).length + 1 := by
    have hlength := hp.2.1
    rw [hoffset, hlength, List.length_append]
    exact congrArg (· + u.length + 1) (Nat.zero_add _)
  have hfinding : importFinding? s (importing A u quote (m.textOf .spec) B) m' = some
      ((A ++ u).length + 1, ⟨m.textOf .spec,
        Text.lineAt (importing A u quote (m.textOf .spec) B) ((A ++ u).length + 1), owner⟩) := by
    rw [importFinding?, hsame, howner, hplace]
    rfl
  exact mem_findImports (List.mem_cons_self ..) hm' hfinding

/-- An import over two lines, behind a statement that is still open. -/
def openBefore : Text := "export *\nimport \x7b a \x7d\n  from \"@lovable/a\";\n"

theorem openBefore_found : ∃ owner, ⟨"@lovable/a", 3, owner⟩ ∈ findImports {} openBefore := by
  obtain ⟨owner, howner⟩ : ∃ owner, Settings.specifierOwner? {} "@lovable/a" = some owner :=
    Option.isSome_iff_exists.1 (by decide +kernel)
  have hhead : IsImportHead ("import" ++ (" " ++ ("\x7b a \x7d" ++ ("\n  " ++ ("from" ++ " "))))) := by
    refine .clause (by decide) isGap_space (by decide) (by decide) ?_ isGap_space
    unfold IsGap
    decide
  have hspec : IsSpec "@lovable/a" := by
    unfold IsSpec
    decide
  have hquote : isIn "'\"" '"' = true := by decide
  have hfound := staticImport_found (A := "export *\n") (by decide) hhead hquote hspec howner ";\n"
  have htext : importing "export *\n" ("import" ++ (" " ++ ("\x7b a \x7d" ++ ("\n  " ++ ("from" ++
      " "))))) '"' "@lovable/a" ";\n" = openBefore := by decide
  rw [htext] at hfound
  exact ⟨owner, hfound⟩

end Signature

end Decouple
