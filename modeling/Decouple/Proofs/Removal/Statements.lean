import Decouple.Proofs.Removal.WholeLines
import Decouple.Signature.Import
import Mathlib.Data.List.Induction

/-!
# What import statements take

Between its first word and its specifier an import statement takes words, white space and a few
signs, line feeds among them.  All of these go on until the first code point of another kind, which
is the quote before the specifier.  So the specifier can be told from any place within that stretch
(`specAhead`), and a search finds one statement for the whole of it: the first that starts there
(`exists_import_around`).

A statement that starts in whole lines ends in them unless they end within one (`import_within`), and
a line of its own is taken as it stands (`text_importLine`).
-/

namespace Decouple

open CodePoint (is isIn isNotIn isBlank isWord isIndent)
open Pattern

namespace Signature

variable {p q r : Place} {ps qs : Parts} {t u v head spec tail rest : Text} {quote c : CodePoint}

/-! ## What an import statement takes -/

/-- The words that an import or a re-export starts with. -/
def importWords : List Text := ["import", "export"]

/-- An import statement that is still open: spaces, a first word with white space behind it, and
nothing that ends the clause. -/
def OpensImport (t : Text) : Prop :=
  ∃ i word u, t = i ++ word ++ u ∧ (∀ c ∈ i, isIndent c = true) ∧ word ∈ importWords ∧
    u.head?.any isBlank = true ∧ ∀ c ∈ u, isClause c = true

theorem isClause_of_isBlank (h : isBlank c = true) : isClause c = true := by
  rw [isClause, h, Bool.or_true, Bool.true_or]

theorem isClause_of_mem_importWords (ht : t ∈ importWords) (hc : c ∈ t) : isClause c = true := by
  have hall : ∀ t ∈ importWords, ∀ c ∈ t, isClause c = true := by decide
  exact hall t ht c hc

theorem OpensImport.isClause (h : OpensImport t) : ∀ c ∈ t, isClause c = true := by
  obtain ⟨i, word, u, rfl, hi, hword, -, hu⟩ := h
  intro c hc
  rcases List.mem_append.1 hc with hc | hc
  · rcases List.mem_append.1 hc with hc | hc
    · exact isClause_of_isBlank (CodePoint.isBlank_of_isIndent (hi c hc))
    · exact isClause_of_mem_importWords hword hc
  · exact hu c hc

/-- A specifier: something without quotes and line feeds. -/
def IsSpec (spec : Text) : Prop := spec ≠ [] ∧ ∀ c ∈ spec, isNotIn "'\"\n" c = true

/-- What an import statement takes from a place: an open statement, the specifier in its quotes, and
the end of the statement, which goes to the end of the line at most. -/
structure TakesImport (p : Place) (head : Text) (quote : CodePoint) (spec tail : Text) (q : Place) :
    Prop where
  lineStart : p.before.all (is '\n') = true
  opens : OpensImport head
  quoted : isIn "'\"" quote = true
  isSpec : IsSpec spec
  ends : ∀ u v, tail = u ++ v → v ≠ [] → CodePoint.ofChar '\n' ∉ u
  taken : p.Takes (head ++ quote :: (spec ++ quote :: tail)) q

theorem eq_of_isQuote (h : isIn "'\"" quote = true) : quote = '\'' ∨ quote = '"' := by
  have hliteral : ("'\"" : Text) = [CodePoint.ofChar '\'', CodePoint.ofChar '"'] := by decide
  rw [isIn, hliteral] at h
  simpa using h

theorem not_isClause_of_isQuote (h : isIn "'\"" quote = true) : isClause quote = false := by
  rcases eq_of_isQuote h with rfl | rfl <;> decide

theorem ne_lineFeed_of_isQuote (h : isIn "'\"" quote = true) : quote ≠ '\n' := by
  rcases eq_of_isQuote h with rfl | rfl <;> decide

theorem not_isNotIn_of_isQuote (h : isIn "'\"" quote = true) : isNotIn "'\"\n" quote = false := by
  rcases eq_of_isQuote h with rfl | rfl <;> decide

theorem IsSpec.not_mem (h : IsSpec spec) : CodePoint.ofChar '\n' ∉ spec :=
  fun hmem => absurd (h.2 _ hmem) (by decide)

/-- The patterns of an import statement up to its specifier. -/
def importHead : List Pattern := [
  lineStart, indent, choice [literal "import", literal "export"], wordGap,
  optional (sequence [literal "type", wordGap]),
  optional (sequence [many isClause 1 .lazy, gap, literal "from", gap]),
  quotedSpec]

theorem importStatement_eq : importStatement = sequence (importHead ++ [statementEnd]) := rfl

/-- A quoted specifier takes a quote, a specifier and the same quote. -/
theorem way_quotedSpec (h : Way quotedSpec p ps q qs) : ∃ quote spec, isIn "'\"" quote = true ∧
    IsSpec spec ∧ p.Takes (quote :: (spec ++ [quote])) q ∧
    ∃ found, qs.lookup .spec = some found ∧ found.text = spec ∧ found.offset = p.offset + 1 := by
  obtain ⟨p₁, ps₁, hopen, h⟩ := way_seq.1 h
  obtain ⟨p₂, ps₂, hspec, hclose⟩ := way_seq.1 h
  obtain ⟨ps₁, rfl, hone⟩ := way_part hopen
  obtain ⟨ps₂, rfl, hmany⟩ := way_part hspec
  obtain ⟨rfl, quote, hquote, hopened⟩ := way_one hone
  obtain ⟨rfl, spec, htaken, hplain, hlong⟩ := way_many hmany
  cases hclose with
  | same hfound hhead =>
    obtain rfl := Option.some.inj hfound
    have htext : Part.text ⟨p, p₁⟩ = [quote] := hopened.textTo_eq
    rw [htext] at hhead ⊢
    obtain ⟨rest, hrest⟩ := List.isPrefixOf_iff_prefix.1 hhead
    have hclose := Place.takes_advance hrest.symm
    exact ⟨quote, spec, hquote, ⟨List.length_pos_iff.1 hlong, hplain⟩,
      hopened.append (htaken.append hclose), ⟨p₁, p₂⟩, List.lookup_cons_self, htaken.textTo_eq,
      hopened.2.1⟩

/-- What may stand between the first word and the specifier is made of clause code points. -/
theorem way_clause (h : Way (optional (sequence [many isClause 1 .lazy, gap, literal "from", gap])) p ps
    q qs) : ∃ u, p.Takes u q ∧ ∀ c ∈ u, isClause c = true := by
  rcases way_alt.1 h with h | h
  · obtain ⟨p₁, ps₁, hnames, h⟩ := way_seq.1 h
    obtain ⟨p₂, ps₂, hgap, h⟩ := way_seq.1 h
    obtain ⟨p₃, ps₃, hfrom, hgap'⟩ := way_seq.1 h
    obtain ⟨-, u, hu, hall, -⟩ := way_many hnames
    obtain ⟨-, g, hg, hallGap, -⟩ := way_many hgap
    obtain ⟨-, hfrom⟩ := way_literal hfrom
    obtain ⟨-, g', hg', hallGap', -⟩ := way_many hgap'
    refine ⟨_, hu.append (hg.append (hfrom.append hg')), ?_⟩
    simp only [List.mem_append]
    rintro c (hc | hc | hc | hc)
    · exact hall c hc
    · exact isClause_of_isBlank (hallGap c hc)
    · have hword : ∀ c ∈ ("from" : Text), isClause c = true := by decide
      exact hword c hc
    · exact isClause_of_isBlank (hallGap' c hc)
  · obtain ⟨rfl, -⟩ := way_empty.1 h
    exact ⟨[], .nil _, List.forall_mem_nil _⟩

theorem way_typeWord (h : Way (optional (sequence [literal "type", wordGap])) p ps q qs) :
    ∃ u, p.Takes u q ∧ ∀ c ∈ u, isClause c = true := by
  rcases way_alt.1 h with h | h
  · obtain ⟨p₁, ps₁, hword, hgap⟩ := way_seq.1 h
    obtain ⟨-, hword⟩ := way_literal hword
    obtain ⟨-, g, hg, hall, -⟩ := way_many hgap
    refine ⟨_, hword.append hg, fun c hc => ?_⟩
    rcases List.mem_append.1 hc with hc | hc
    · have hclause : ∀ c ∈ ("type" : Text), isClause c = true := by decide
      exact hclause c hc
    · exact isClause_of_isBlank (hall c hc)
  · obtain ⟨rfl, -⟩ := way_empty.1 h
    exact ⟨[], .nil _, List.forall_mem_nil _⟩

/-- Up to its specifier an import statement takes an open statement and a quoted specifier. -/
theorem way_importHead (h : Way (sequence importHead) p ps q qs) :
    p.before.all (is '\n') = true ∧ ∃ head quote spec, OpensImport head ∧ isIn "'\"" quote = true ∧
      IsSpec spec ∧ p.Takes (head ++ quote :: (spec ++ [quote])) q ∧
      ∃ found, qs.lookup .spec = some found ∧ found.text = spec ∧
        found.offset = p.offset + head.length + 1 := by
  obtain ⟨p₁, ps₁, hstart, h⟩ := way_seq.1 h
  obtain ⟨p₂, ps₂, hindent, h⟩ := way_seq.1 h
  obtain ⟨p₃, ps₃, hword, h⟩ := way_seq.1 h
  obtain ⟨p₄, ps₄, hgap, h⟩ := way_seq.1 h
  obtain ⟨p₅, ps₅, htype, h⟩ := way_seq.1 h
  obtain ⟨p₆, ps₆, hclause, hquoted⟩ := way_seq.1 h
  cases hstart with
  | lineStart hstart =>
    obtain ⟨-, i, hi, hallIndent, -⟩ := way_many hindent
    obtain ⟨word, hmem, hword⟩ : ∃ word ∈ importWords, p₂.Takes word p₃ := by
      rcases way_alt.1 hword with hword | hword
      · exact ⟨_, List.mem_cons_self .., (way_literal hword).2⟩
      · exact ⟨_, List.mem_cons_of_mem _ (List.mem_singleton_self _), (way_literal hword).2⟩
    obtain ⟨-, g, hg, hallGap, hlong⟩ := way_many hgap
    obtain ⟨u, hu, hallType⟩ := way_typeWord htype
    obtain ⟨v, hv, hallClause⟩ := way_clause hclause
    obtain ⟨quote, spec, hquote, hspec, hquoted, found, hfound, htext, hoffset⟩ :=
      way_quotedSpec hquoted
    have hopening := hi.append (hword.append (hg.append (hu.append hv)))
    refine ⟨hstart, i ++ word ++ (g ++ u ++ v), quote, spec, ⟨i, word, g ++ u ++ v, rfl, hallIndent,
      hmem, ?_, ?_⟩, hquote, hspec, ?_, found, hfound, htext, ?_⟩
    · obtain ⟨b, g, rfl⟩ := List.exists_cons_of_length_pos hlong
      exact hallGap b (List.mem_cons_self ..)
    · simp only [List.mem_append]
      rintro c ((hc | hc) | hc)
      · exact isClause_of_isBlank (hallGap c hc)
      · exact hallType c hc
      · exact hallClause c hc
    · simpa only [List.append_assoc] using hopening.append hquoted
    · rw [hoffset, hopening.2.1]
      simp only [List.append_assoc]

/-- The end of a statement holds no line feed but as its last code point. -/
theorem way_statementEnd (h : Way statementEnd p ps q qs) : qs = ps ∧ ∃ tail, p.Takes tail q ∧
    ∀ u v, tail = u ++ v → v ≠ [] → CodePoint.ofChar '\n' ∉ u := by
  obtain ⟨p₁, ps₁, hindent, h⟩ := way_seq.1 h
  obtain ⟨p₂, ps₂, hsemicolon, h⟩ := way_seq.1 h
  obtain ⟨p₃, ps₃, hindent', hbreak⟩ := way_seq.1 h
  obtain ⟨hps₁, i, hi, hallBefore, -⟩ := way_many hindent
  obtain ⟨hps₃, i', hi', hallBehind, -⟩ := way_many hindent'
  have hflat {i : Text} (h : ∀ c ∈ i, isIndent c = true) : CodePoint.ofChar '\n' ∉ i :=
    fun hmem => absurd (h _ hmem) (by decide)
  obtain ⟨hps₂, s, hs, hflatSemicolon⟩ : ps₂ = ps₁ ∧ ∃ s, p₁.Takes s p₂ ∧ CodePoint.ofChar '\n' ∉ s := by
    rcases way_alt.1 hsemicolon with h | h
    · obtain ⟨hps, htaken⟩ := way_is h
      exact ⟨hps, _, htaken, by decide⟩
    · obtain ⟨rfl, hps⟩ := way_empty.1 h
      exact ⟨hps, [], .nil _, List.not_mem_nil⟩
  -- Only the line break has a line feed, and at its end.
  obtain ⟨hqs, w, e, he, hflatBreak, hend⟩ : qs = ps₃ ∧ ∃ w e, p₃.Takes (w ++ e) q ∧
      CodePoint.ofChar '\n' ∉ w ∧ e.length ≤ 1 := by
    rcases way_alt.1 hbreak with h | h
    · obtain ⟨m, ms, hreturn, hfeed⟩ := way_seq.1 h
      obtain ⟨hqs, c, hc, hfeed⟩ := way_one hfeed
      rcases way_alt.1 hreturn with hreturn | hreturn
      · obtain ⟨hms, hreturn⟩ := way_is hreturn
        exact ⟨hqs.trans hms, _, _, hreturn.append hfeed, by decide, Nat.le_refl 1⟩
      · obtain ⟨rfl, hms⟩ := way_empty.1 hreturn
        exact ⟨hqs.trans hms, [], _, hfeed, List.not_mem_nil, Nat.le_refl 1⟩
    · obtain ⟨rfl, hqs⟩ := way_empty.1 h
      exact ⟨hqs, [], [], .nil _, List.not_mem_nil, Nat.zero_le 1⟩
  refine ⟨by rw [hqs, hps₃, hps₂, hps₁], _, hi.append (hs.append (hi'.append he)),
    fun u v huv hv hmem => ?_⟩
  have hprefix : u <+: i ++ (s ++ (i' ++ w)) := by
    have hall : i ++ (s ++ (i' ++ w)) <+: i ++ (s ++ (i' ++ (w ++ e))) := ⟨e, by simp⟩
    refine List.prefix_of_prefix_length_le ⟨v, huv.symm⟩ hall ?_
    have hlength := congrArg List.length huv
    have hpos := List.length_pos_iff.2 hv
    simp only [List.length_append] at hlength ⊢
    omega
  have hfeed := hprefix.subset hmem
  simp only [List.mem_append] at hfeed
  rcases hfeed with h | h | h | h
  · exact hflat hallBefore h
  · exact hflatSemicolon h
  · exact hflat hallBehind h
  · exact hflatBreak h

/-- A match of an import statement, with what it takes. -/
theorem takes_of_matchAt? {m : Match} (h : importStatement.matchAt? p = some m) :
    m.start = p ∧ ∃ head quote tail, TakesImport p head quote (m.textOf .spec) tail m.stop ∧
      m.offsetOf .spec = p.offset + head.length + 1 ∧
      ∃ q qs, Path (sequence importHead) p [] q qs ∧
        p.Takes (head ++ quote :: (m.textOf .spec ++ [quote])) q := by
  obtain ⟨hstart, hpath⟩ := path_of_matchAt? rfl h
  rw [importStatement_eq, path_sequence_append] at hpath
  obtain ⟨q, qs, hhead, hend⟩ := hpath
  obtain ⟨hline, head, quote, spec, hopens, hquote, hspec, htaken, found, hfound, htext, hoffset⟩ :=
    way_importHead hhead.way
  obtain ⟨hparts, tail, htail, hends⟩ := way_statementEnd hend.way
  obtain rfl : m.textOf .spec = spec := by
    rw [Match.textOf, Match.part?, hparts, hfound, Option.map_some, Option.getD_some, htext]
  refine ⟨hstart, head, quote, tail, ⟨hline, hopens, hquote, hspec, hends, ?_⟩, ?_, q, qs, hhead,
    htaken⟩
  · simpa using htaken.append htail
  · rw [Match.offsetOf, Match.part?, hparts, hfound, Option.map_some, Option.getD_some, hoffset]

/-! ## The specifier ahead -/

/-- The specifier of an import statement that is open where a text starts. -/
def specAhead (t : Text) : Text := ((t.dropWhile isClause).drop 1).takeWhile (isNotIn "'\"\n")

theorem specAhead_append (h : ∀ c ∈ u, isClause c = true) (t : Text) :
    specAhead (u ++ t) = specAhead t := by
  rw [specAhead, List.dropWhile_append_of_pos h, specAhead]

theorem specAhead_quoted (hquote : isIn "'\"" quote = true) (hspec : IsSpec spec) (rest : Text) :
    specAhead (quote :: (spec ++ quote :: rest)) = spec := by
  rw [specAhead, List.dropWhile_cons_of_neg (by rw [not_isClause_of_isQuote hquote]; decide),
    List.drop_succ_cons, List.drop_zero, List.takeWhile_append_of_pos hspec.2,
    List.takeWhile_cons_of_neg (by rw [not_isNotIn_of_isQuote hquote]; decide), List.append_nil]

namespace TakesImport

variable (h : TakesImport p head quote spec tail q)

include h

theorem rest_eq : p.rest = head ++ quote :: (spec ++ quote :: (tail ++ q.rest)) := by
  have hrest := h.taken.1
  simpa using hrest

theorem specAhead_rest : specAhead p.rest = spec := by
  rw [h.rest_eq, specAhead_append h.opens.isClause, specAhead_quoted h.quoted h.isSpec]

theorem not_mem_quoted : CodePoint.ofChar '\n' ∉ quote :: (spec ++ [quote]) := by
  have hquote := (ne_lineFeed_of_isQuote h.quoted).symm
  simp [hquote, h.isSpec.not_mem]

/-- From the quote on there is a line feed at the very end at most. -/
theorem not_mem_of_quoted (htext : quote :: (spec ++ quote :: tail) = u ++ v) (hv : v ≠ []) :
    CodePoint.ofChar '\n' ∉ u := by
  have hquote := (ne_lineFeed_of_isQuote h.quoted).symm
  cases u with
  | nil => exact List.not_mem_nil
  | cons c u =>
    obtain ⟨rfl, hmore⟩ := List.cons.inj htext
    rw [List.mem_cons, not_or]
    refine ⟨hquote, ?_⟩
    rcases List.append_eq_append_iff.1 hmore with ⟨a, rfl, ha⟩ | ⟨b, hb, -⟩
    · rw [List.mem_append, not_or]
      refine ⟨h.isSpec.not_mem, ?_⟩
      cases a with
      | nil => exact List.not_mem_nil
      | cons d a =>
        obtain ⟨rfl, htail⟩ := List.cons.inj ha
        rw [List.mem_cons, not_or]
        exact ⟨hquote, h.ends a v htail hv⟩
    · intro hmem
      exact h.isSpec.not_mem (hb ▸ List.mem_append_left _ hmem)

/-- A line that starts within an import statement starts before the specifier. -/
theorem exists_append_of_lineStart (hr : p.Reaches r) (hline : r.before.all (is '\n') = true)
    (hlt : r.offset < q.offset) : ∃ w u, head = w ++ u ∧ p.Takes w r := by
  obtain ⟨w, hw⟩ := hr
  have hsame : head ++ (quote :: (spec ++ quote :: tail) ++ q.rest) = w ++ r.rest := by
    rw [← hw.1, h.rest_eq]
    simp
  rcases List.append_eq_append_iff.1 hsame with ⟨a, rfl, ha⟩ | ⟨u, hu, -⟩
  · have hlong := h.taken.2.1
    have hshort := hw.2.1
    rcases List.append_eq_append_iff.1 ha with ⟨v, rfl, -⟩ | ⟨v, hv, -⟩
    · simp only [List.length_append] at hlong hshort
      omega
    · have hfree : CodePoint.ofChar '\n' ∉ a := by
        refine h.not_mem_of_quoted hv ?_
        rintro rfl
        rw [List.append_nil] at hv
        rw [← hv] at hshort
        omega
      cases a using List.reverseRecOn with
      | nil => exact ⟨head ++ [], [], by simp, hw⟩
      | append_singleton a d =>
        have hbefore := hw.2.2
        rw [← List.append_assoc, List.getLast?_concat, Option.some_or] at hbefore
        rw [hbefore, Option.all_some, is, decide_eq_true_eq] at hline
        exact absurd (hline ▸ List.mem_append_right a (List.mem_singleton_self d)) hfree
  · exact ⟨w, u, hu, hw⟩

end TakesImport

/-! ## Where there is an import statement -/

theorem exists_path_statementEnd (p : Place) (ps : Parts) : ∃ q, Path statementEnd p ps q ps := by
  obtain ⟨q, hq⟩ := exists_path_whole isIndent p ps
  obtain ⟨r, hr⟩ := exists_path_whole isIndent q ps
  exact ⟨r, .seq hq (.seq (.second .empty) (.seq hr (.second .empty)))⟩

/-- What is taken up to the specifier makes a match. -/
theorem exists_matchAt?_import (h : Path (sequence importHead) p [] q qs) :
    ∃ m, importStatement.matchAt? p = some m := by
  obtain ⟨r, hr⟩ := exists_path_statementEnd q qs
  have hpath : Path importStatement p [] r qs := path_sequence_append.2 ⟨q, qs, h, hr⟩
  exact exists_matchAt? hpath

/-- White space, at least one code point of it. -/
def IsGap (w : Text) : Prop := w ≠ [] ∧ ∀ c ∈ w, isBlank c = true

/-- What an import statement has before its quoted specifier: a first word, and what it binds with
`from` behind it, if it binds something. -/
inductive IsImportHead : Text → Prop where
  | clause {word w₁ v w₂ w₃ : Text} (hword : word ∈ importWords) (hw₁ : IsGap w₁) (hv : v ≠ [])
      (hclause : ∀ c ∈ v, isClause c = true) (hw₂ : IsGap w₂) (hw₃ : IsGap w₃) :
      IsImportHead (word ++ (w₁ ++ (v ++ (w₂ ++ ("from" ++ w₃)))))
  | bare {word w₁ : Text} (hword : word ∈ importWords) (hw₁ : IsGap w₁) : IsImportHead (word ++ w₁)

theorem path_gap (hw : IsGap u) (h : p.Takes u q) (hend : q.isBefore isBlank = false) (ps : Parts) :
    Path gap p ps q ps :=
  .many h hw.2 (List.length_pos_iff.2 hw.1) fun _ => hend

theorem path_wordGap (hw : IsGap u) (h : p.Takes u q) (ps : Parts) : Path wordGap p ps q ps :=
  .many h hw.2 (List.length_pos_iff.2 hw.1) nofun

theorem path_importWord (hword : u ∈ importWords) (h : p.Takes u q) (ps : Parts) :
    Path (choice [literal "import", literal "export"]) p ps q ps := by
  rcases List.mem_pair.1 hword with rfl | rfl
  · exact .first (path_literal h)
  · exact .second (path_literal h)

/-- A specifier in quotes can be taken. -/
theorem exists_path_quotedSpec (hquote : isIn "'\"" quote = true) (hspec : IsSpec spec)
    (hrest : p.rest = quote :: (spec ++ quote :: rest)) (ps : Parts) :
    ∃ q qs, Path quotedSpec p ps q qs := by
  obtain ⟨p₁, h₁, hr₁⟩ := Place.exists_takes (t := [quote]) hrest
  obtain ⟨p₂, h₂, hr₂⟩ := Place.exists_takes hr₁
  obtain ⟨p₃, h₃, -⟩ := Place.exists_takes (t := [quote]) hr₂
  have hopen : Path (.part .quote (.one (isIn "'\""))) p ps p₁ ((.quote, ⟨p, p₁⟩) :: ps) :=
    .part (path_one_of_takes h₁ hquote)
  have hplain (ps : Parts) : Path (.many (isNotIn "'\"\n") 1 .greedy) p₁ ps p₂ ps :=
    .many h₂ hspec.2 (List.length_pos_iff.2 hspec.1) nofun
  have htext : Part.text ⟨p, p₁⟩ = [quote] := h₁.textTo_eq
  exact ⟨p₃, _, .seq hopen (.seq (.part (hplain _)) (.same rfl (htext ▸ h₃)))⟩

/-- Where an import statement stands at the start of a line, it can be taken up to its specifier. -/
theorem exists_path_importHead {i : Text} (hline : p.before.all (is '\n') = true)
    (hi : ∀ c ∈ i, isIndent c = true) (hhead : IsImportHead head) (hquote : isIn "'\"" quote = true)
    (hspec : IsSpec spec) (hrest : p.rest = i ++ (head ++ quote :: (spec ++ quote :: rest))) :
    ∃ q qs, Path (sequence importHead) p [] q qs := by
  obtain ⟨p₁, h₁, hr₁⟩ := Place.exists_takes hrest
  have hindent (hword : p₁.isBefore isIndent = false) : Path indent p [] p₁ [] :=
    .many h₁ hi (Nat.zero_le _) fun _ => hword
  have hends {word rest : Text} (hword : word ∈ importWords) (hr : p₁.rest = word ++ rest) :
      p₁.isBefore isIndent = false := by
    rw [Place.isBefore, hr]
    rcases List.mem_pair.1 hword with rfl | rfl <;> rfl
  have hunblank : isBlank quote = false := by
    rcases eq_of_isQuote hquote with rfl | rfl <;> decide
  cases hhead with
  | clause hword hw₁ hv hclause hw₂ hw₃ =>
    simp only [List.append_assoc] at hr₁
    obtain ⟨p₂, h₂, hr₂⟩ := Place.exists_takes hr₁
    obtain ⟨p₃, h₃, hr₃⟩ := Place.exists_takes hr₂
    obtain ⟨p₄, h₄, hr₄⟩ := Place.exists_takes hr₃
    obtain ⟨p₅, h₅, hr₅⟩ := Place.exists_takes hr₄
    obtain ⟨p₆, h₆, hr₆⟩ := Place.exists_takes hr₅
    obtain ⟨p₇, h₇, hr₇⟩ := Place.exists_takes hr₆
    obtain ⟨q, qs, hquoted⟩ := exists_path_quotedSpec hquote hspec hr₇ []
    have hbefore : Path gap p₄ [] p₅ [] := path_gap hw₂ h₅ (by rw [Place.isBefore, hr₅]; rfl) []
    have hbehind : Path gap p₆ [] p₇ [] := path_gap hw₃ h₇ (by rw [Place.isBefore, hr₇]; exact hunblank) []
    have hwords : Path (many isClause 1 .lazy) p₃ [] p₄ [] :=
      .many h₄ hclause (List.length_pos_iff.2 hv) fun hgreed => by cases hgreed
    have hnames : Path (optional (sequence [many isClause 1 .lazy, gap, literal "from", gap])) p₃ []
        p₇ [] :=
      .first (.seq hwords (.seq hbefore (.seq (path_literal h₆) hbehind)))
    exact ⟨q, qs, .seq (.lineStart hline) (.seq (hindent (hends hword hr₁))
      (.seq (path_importWord hword h₂ []) (.seq (path_wordGap hw₁ h₃ [])
        (.seq (.second .empty) (.seq hnames hquoted)))))⟩
  | bare hword hw₁ =>
    rw [List.append_assoc] at hr₁
    obtain ⟨p₂, h₂, hr₂⟩ := Place.exists_takes hr₁
    obtain ⟨p₃, h₃, hr₃⟩ := Place.exists_takes hr₂
    obtain ⟨q, qs, hquoted⟩ := exists_path_quotedSpec hquote hspec hr₃ []
    exact ⟨q, qs, .seq (.lineStart hline) (.seq (hindent (hends hword hr₁))
      (.seq (path_importWord hword h₂ []) (.seq (path_wordGap hw₁ h₃ [])
        (.seq (.second .empty) (.seq (.second .empty) hquoted)))))⟩

/-- Before its specifier an import statement is made of clause code points. -/
theorem IsImportHead.isClause (h : IsImportHead head) : ∀ c ∈ head, isClause c = true := by
  have hgap {w : Text} (hw : IsGap w) {c : CodePoint} (hc : c ∈ w) : Signature.isClause c = true :=
    isClause_of_isBlank (hw.2 c hc)
  have hfrom : ∀ c ∈ ("from" : Text), Signature.isClause c = true := by decide
  intro c hc
  cases h with
  | clause hword hw₁ hv hclause hw₂ hw₃ =>
    simp only [List.mem_append] at hc
    rcases hc with hc | hc | hc | hc | hc | hc
    · exact isClause_of_mem_importWords hword hc
    · exact hgap hw₁ hc
    · exact hclause c hc
    · exact hgap hw₂ hc
    · exact hfrom c hc
    · exact hgap hw₃ hc
  | bare hword hw₁ =>
    rcases List.mem_append.1 hc with hc | hc
    · exact isClause_of_mem_importWords hword hc
    · exact hgap hw₁ hc

/-- Where an import statement stands at the start of a line, it matches. -/
theorem exists_match_of_importHead {i : Text} (hline : p.before.all (is '\n') = true)
    (hi : ∀ c ∈ i, isIndent c = true) (hhead : IsImportHead head) (hquote : isIn "'\"" quote = true)
    (hspec : IsSpec spec) (hrest : p.rest = i ++ (head ++ quote :: (spec ++ quote :: rest))) :
    ∃ m, importStatement.matchAt? p = some m ∧ m.textOf .spec = spec := by
  obtain ⟨q, qs, hpath⟩ := exists_path_importHead hline hi hhead hquote hspec hrest
  obtain ⟨m, hm⟩ := exists_matchAt?_import hpath
  obtain ⟨-, head', quote', tail, htakes, -⟩ := takes_of_matchAt? hm
  refine ⟨m, hm, ?_⟩
  rw [← htakes.specAhead_rest, hrest, specAhead_append fun c hc => isClause_of_isBlank
    (CodePoint.isBlank_of_isIndent (hi c hc)), specAhead_append hhead.isClause,
    specAhead_quoted hquote hspec]

/-! ## Statements in whole lines -/

/-- The first word of a statement holds no line feed, so what goes on to a line feed is open. -/
theorem OpensImport.of_append (h : OpensImport (u ++ v))
    (hlast : u.getLast? = some (CodePoint.ofChar '\n')) : OpensImport u := by
  obtain ⟨i, word, w, htext, hi, hword, hblank, hw⟩ := h
  have hflat : CodePoint.ofChar '\n' ∉ i ++ word := by
    rw [List.mem_append, not_or]
    refine ⟨fun hmem => absurd (hi _ hmem) (by decide), ?_⟩
    have hall : ∀ word ∈ importWords, CodePoint.ofChar '\n' ∉ word := by decide
    exact hall word hword
  have hmem := List.mem_of_getLast? hlast
  rcases List.append_eq_append_iff.1 htext with ⟨b, hb, -⟩ | ⟨a, rfl, ha⟩
  · exact absurd (hb ▸ List.mem_append_left _ hmem) hflat
  · cases a with
    | nil => exact absurd (by simpa using hmem) hflat
    | cons c a =>
      refine ⟨i, word, c :: a, rfl, hi, hword, ?_, fun d hd => hw d ?_⟩
      · rw [ha] at hblank
        exact hblank
      · rw [ha]
        exact List.mem_append_left _ hd

/-- Whether a text ends within an import statement. -/
def EndsInImport (t : Text) : Prop :=
  ∃ a u, t = a ++ u ∧ a.isWholeLines = true ∧ OpensImport u

variable {A B R : Text} {m : Match}

/-- A statement that starts in whole lines, which do not end within one, has its quoted specifier and
a line feed behind it in them: the clause would leave them open, and a specifier holds no line feed. -/
theorem TakesImport.exists_append_of_wholeLines {a : Text}
    (h : TakesImport p head quote spec tail q) (hlines : (a ++ u).isWholeLines = true)
    (hopen : ¬EndsInImport (a ++ u)) (hline : a.isWholeLines = true) (hne : u ≠ [])
    (hrest : p.rest = u ++ R) :
    ∃ v, u = head ++ (quote :: (spec ++ [quote]) ++ v) ∧ CodePoint.ofChar '\n' ∈ v := by
  have hsame : u ++ R = head ++ (quote :: (spec ++ [quote]) ++ (tail ++ q.rest)) := by
    rw [← hrest, h.rest_eq]
    simp
  obtain ⟨e, rfl, he⟩ : ∃ e, u = head ++ e ∧
      quote :: (spec ++ [quote]) ++ (tail ++ q.rest) = e ++ R := by
    rcases List.append_eq_append_iff.1 hsame with ⟨v, hv, -⟩ | ⟨e, he, hmore⟩
    · have hopens : OpensImport (u ++ v) := hv ▸ h.opens
      exact absurd ⟨a, u, rfl, hline, hopens.of_append (Text.getLast?_of_isWholeLines hlines hne)⟩
        hopen
    · exact ⟨e, he, hmore⟩
  have hmem : CodePoint.ofChar '\n' ∈ e := by
    rw [← List.append_assoc] at hlines
    refine Text.mem_of_isWholeLines hlines ?_
    rintro rfl
    exact hopen ⟨a, head ++ [], rfl, hline, by rw [List.append_nil]; exact h.opens⟩
  rcases List.append_eq_append_iff.1 he with ⟨v, rfl, -⟩ | ⟨b, hb, -⟩
  · exact ⟨v, rfl, (List.mem_append.1 hmem).resolve_left h.not_mem_quoted⟩
  · exact absurd (hb ▸ List.mem_append_left _ hmem) h.not_mem_quoted

/-- A statement ends on the line of its specifier. -/
theorem TakesImport.length_le (h : TakesImport p head quote spec tail q)
    (hrest : p.rest = head ++ (quote :: (spec ++ [quote]) ++ v) ++ R)
    (hfeed : CodePoint.ofChar '\n' ∈ v) :
    q.offset ≤ p.offset + (head ++ (quote :: (spec ++ [quote]) ++ v)).length := by
  have hsame : tail ++ q.rest = v ++ R := by
    have hrest' := h.rest_eq
    rw [hrest] at hrest'
    simpa using hrest'.symm
  have hstop := h.taken.2.1
  have hshort : tail.length ≤ v.length := by
    rcases List.append_eq_append_iff.1 hsame with ⟨c, rfl, -⟩ | ⟨c, hc, -⟩
    · rw [List.length_append]
      exact Nat.le_add_right _ _
    · cases c with
      | nil => exact Nat.le_of_eq (by rw [hc, List.append_nil])
      | cons d c => exact absurd hfeed (h.ends v (d :: c) hc (List.cons_ne_nil _ _))
  simp only [List.length_append, List.length_cons, List.length_nil] at hstop ⊢
  omega

/-- Unless lines end within an import statement, a statement that starts in them ends in them, and is
there whatever follows. -/
theorem import_within (hA : A.isWholeLines = true) (hopen : ¬EndsInImport A)
    (hm : m ∈ importStatement.findAll (A ++ R)) (hlt : m.offset < A.length) :
    m.stop.offset ≤ A.length ∧ ∀ B, ∃ p m', (Place.start (A ++ B)).Reaches p ∧
      importStatement.matchAt? p = some m' ∧ m'.textOf .spec = m.textOf .spec := by
  obtain ⟨p, ⟨a, ha⟩, hmatch, -⟩ := exists_place_of_mem_findAll hm
  obtain ⟨hstart, head, quote, tail, htakes, -, q, qs, hpath, htaken⟩ := takes_of_matchAt? hmatch
  have hoffset : p.offset = a.length := by
    rw [ha.2.1]
    exact Nat.zero_add _
  rw [Match.offset, hstart, hoffset] at hlt
  obtain ⟨u, rfl, hrest⟩ : ∃ u, A = a ++ u ∧ p.rest = u ++ R := by
    have hsame : A ++ R = a ++ p.rest := ha.1
    rcases List.append_eq_append_iff.1 hsame with ⟨u, rfl, -⟩ | ⟨u, hu, hmore⟩
    · rw [List.length_append] at hlt
      omega
    · exact ⟨u, hu, hmore⟩
  have hne : u ≠ [] := by
    rintro rfl
    simp at hlt
  obtain ⟨v, rfl, hfeed⟩ := htakes.exists_append_of_wholeLines hA hopen
    (Place.isWholeLines_of_takes ha htakes.lineStart) hne hrest
  constructor
  · have hle := htakes.length_le hrest hfeed
    rw [hoffset] at hle
    rwa [List.length_append]
  · intro B
    have hrests : q.rest = v ++ R := by
      have hsame := htaken.1
      rw [hrest] at hsame
      simpa using hsame.symm
    have hsees : q.SeesAlike R B := by
      obtain ⟨c, v, rfl⟩ := List.exists_cons_of_ne_nil (List.ne_nil_of_mem hfeed)
      exact ⟨_, hrests, rfl⟩
    obtain ⟨p', hp', hrest'⟩ := Place.exists_takes (p := Place.start _) (List.append_assoc a _ B)
    rw [List.append_assoc] at ha hp'
    have halike : Place.Alike (fun _ => True) R B 0 p p' := Place.alike_of_takes ha hp'
    obtain ⟨q', qs', hpath', -, -⟩ := hpath.alike (fun _ _ => trivial) halike .nil hsees
    obtain ⟨m', hm'⟩ := exists_matchAt?_import hpath'
    obtain ⟨-, head', quote', tail', htakes', -⟩ := takes_of_matchAt? hm'
    refine ⟨p', m', ⟨a, by rwa [List.append_assoc]⟩, hm', ?_⟩
    rw [← htakes'.specAhead_rest, hrest']
    simp only [List.append_assoc, List.cons_append]
    rw [specAhead_append htakes.opens.isClause]
    exact specAhead_quoted htakes.quoted htakes.isSpec _

/-- A statement behind whole lines is there behind any others. -/
theorem import_behind (hA : A.isWholeLines = true) (hR : R.isWholeLines = true)
    (hm : m ∈ importStatement.findAll (R ++ B)) (hle : R.length ≤ m.offset) :
    ∃ p m', (Place.start (A ++ B)).Reaches p ∧ importStatement.matchAt? p = some m' ∧
      m'.textOf .spec = m.textOf .spec := by
  obtain ⟨p, ⟨a, ha⟩, hmatch, -⟩ := exists_place_of_mem_findAll hm
  obtain ⟨hstart, head, quote, tail, htakes, -, q, qs, hpath, -⟩ := takes_of_matchAt? hmatch
  have hoffset : p.offset = a.length := by
    rw [ha.2.1]
    exact Nat.zero_add _
  rw [Match.offset, hstart, hoffset] at hle
  obtain ⟨b, rfl, hrest⟩ := Place.exists_behind ha hle
  obtain ⟨t, ht⟩ : ∃ t, p.rest = t := ⟨_, rfl⟩
  rw [ht] at hrest
  subst hrest
  obtain ⟨p', hp', hrest'⟩ := Place.exists_takes (p := Place.start _) (List.append_assoc A b t).symm
  have halike : Place.Alike (fun f => f '\n' = false) [] [] (A.length - R.length) p p' :=
    Place.alike_behind (fun _ => Text.any_getLast?_of_isWholeLines hR)
      (fun _ => Text.any_getLast?_of_isWholeLines hA) ha hp'
  obtain ⟨q', qs', hpath', -, -⟩ := hpath.alike (by decide) halike .nil (Place.seesAlike_nil q)
  obtain ⟨m', hm'⟩ := exists_matchAt?_import hpath'
  obtain ⟨-, head', quote', tail', htakes', -⟩ := takes_of_matchAt? hm'
  refine ⟨p', m', ⟨_, hp'⟩, hm', ?_⟩
  rw [← htakes'.specAhead_rest, ← htakes.specAhead_rest, hrest', ht]

/-! ## One statement for a stretch -/

/-- Where an import statement matches a search has found one that goes over that place, with the same
specifier. -/
theorem exists_import_around (hp : (Place.start t).Reaches p)
    (hm : importStatement.matchAt? p = some m) : ∃ m' ∈ importStatement.findAll t, ∃ w u quote tail,
      TakesImport m'.start (w ++ u) quote (m.textOf .spec) tail m'.stop ∧ m'.start.Takes w p ∧
        m'.textOf .spec = m.textOf .spec ∧ m'.offsetOf .spec = p.offset + u.length + 1 := by
  obtain ⟨hstart, head, quote, tail, htakes, -⟩ := takes_of_matchAt? hm
  have hadvanced : p.offset < m.stop.offset := by
    have hstop := htakes.taken.2.1
    rw [List.length_append, List.length_cons] at hstop
    omega
  obtain ⟨m', hm', hle, hlt⟩ := exists_around_of_matchAt? hp hm hadvanced
  obtain ⟨p', hp', hmatch', -⟩ := exists_place_of_mem_findAll hm'
  obtain ⟨hstart', head', quote', tail', htakes', hoffset, -⟩ := takes_of_matchAt? hmatch'
  rw [Match.offset, hstart'] at hle
  obtain ⟨w, u, rfl, hw⟩ :=
    htakes'.exists_append_of_lineStart (hp'.of_le hp hle) htakes.lineStart hlt
  have hspec : m'.textOf .spec = m.textOf .spec := by
    rw [← htakes'.specAhead_rest, ← htakes.specAhead_rest, hw.1, specAhead_append]
    exact fun c hc => htakes'.opens.isClause c (List.mem_append_left _ hc)
  have hspecOffset : m'.offsetOf .spec = p.offset + u.length + 1 := by
    have hlength := hw.2.1
    rw [hoffset, List.length_append]
    omega
  rw [hspec, ← hstart'] at htakes'
  exact ⟨m', hm', w, u, quote', tail', htakes', hstart' ▸ hw, hspec, hspecOffset⟩

/-- A line that imports something from a module. -/
def importLine (names spec : Text) : Text := "import " ++ names ++ " from \"" ++ spec ++ "\";\n"

variable {names : Text}

/-- Up to its specifier an import line is made of clause code points. -/
theorem importLine_append (names spec rest : Text) : importLine names spec ++ rest =
    "import " ++ names ++ " from " ++
      CodePoint.ofChar '"' :: (spec ++ CodePoint.ofChar '"' :: (";\n" ++ rest)) := by
  have hopen : (" from \"" : Text) = " from " ++ [CodePoint.ofChar '"'] := by decide
  have hclose : ("\";\n" : Text) = CodePoint.ofChar '"' :: ";\n" := by decide
  rw [importLine, hopen, hclose]
  simp

theorem isClause_importLine (hnames : ∀ c ∈ names, isClause c = true) :
    ∀ c ∈ ("import " ++ names ++ " from " : Text), isClause c = true := by
  have hword : ∀ c ∈ ("import " : Text), isClause c = true := by decide
  have hfrom : ∀ c ∈ (" from " : Text), isClause c = true := by decide
  simp only [List.mem_append]
  rintro c ((hc | hc) | hc)
  · exact hword c hc
  · exact hnames c hc
  · exact hfrom c hc

theorem isGap_space : IsGap " " := by
  unfold IsGap
  decide

/-- Where a statement is open, an import line goes on with it. -/
theorem exists_match_of_opensImport (hline : p.before.all (is '\n') = true) (hopens : OpensImport u)
    (hnames : ∀ c ∈ names, isClause c = true) (hspec : IsSpec spec)
    (hrest : p.rest = u ++ (importLine names spec ++ rest)) :
    ∃ m, importStatement.matchAt? p = some m ∧ m.textOf .spec = spec := by
  obtain ⟨i, word, w, rfl, hi, hword, hblank, hw⟩ := hopens
  obtain ⟨b, w, rfl⟩ : ∃ b v, w = b :: v := by
    cases w with
    | nil => cases hblank
    | cons b v => exact ⟨b, v, rfl⟩
  have hgoes : ∀ c ∈ w ++ (("import " : Text) ++ names), isClause c = true := by
    have hstart := isClause_importLine hnames
    intro c hc
    rcases List.mem_append.1 hc with hc | hc
    · exact hw c (List.mem_cons_of_mem _ hc)
    · exact hstart c (List.mem_append_left _ hc)
  have hlong : w ++ (("import " : Text) ++ names) ≠ [] := by simp [Text.ofString]
  have hgap : IsGap [b] := ⟨List.cons_ne_nil _ _, fun c hc => List.mem_singleton.1 hc ▸ hblank⟩
  have hrest' : p.rest = i ++ (word ++ ([b] ++ (w ++ (("import " : Text) ++ names) ++ (" " ++ ("from" ++
      " ")))) ++ CodePoint.ofChar '"' :: (spec ++ CodePoint.ofChar '"' :: (";\n" ++ rest))) := by
    rw [hrest, importLine]
    simp [Text.ofString]
  exact exists_match_of_importHead hline hi (.clause hword hgap hlong hgoes isGap_space isGap_space)
    (by decide) hspec hrest'

/-- An import line is an import statement. -/
theorem exists_match_of_importLine (hline : p.before.all (is '\n') = true) (hne : names ≠ [])
    (hnames : ∀ c ∈ names, isClause c = true) (hspec : IsSpec spec)
    (hrest : p.rest = importLine names spec ++ rest) :
    ∃ m, importStatement.matchAt? p = some m ∧ m.textOf .spec = spec := by
  have hrest' : p.rest = ([] : Text) ++ ("import" ++ (" " ++ (names ++ (" " ++ ("from" ++ " ")))) ++
      CodePoint.ofChar '"' :: (spec ++ CodePoint.ofChar '"' :: (";\n" ++ rest))) := by
    rw [hrest, importLine]
    simp [Text.ofString]
  exact exists_match_of_importHead hline (List.forall_mem_nil _)
    (.clause (List.mem_cons_self ..) isGap_space hne hnames isGap_space isGap_space) (by decide)
    hspec hrest'

/-- The end of a statement is the semicolon and the line feed that stand there. -/
theorem run_statementEnd {α : Type} {next : Place → Parts → Option α} {x : α}
    (h : p.Takes [CodePoint.ofChar ';', CodePoint.ofChar '\n'] q) (hn : next q ps = some x) :
    statementEnd.run p ps next = some x := by
  obtain ⟨rest, hrest, hmore⟩ := h.of_cons
  obtain ⟨rest', hrest', hend⟩ := hmore.of_cons
  obtain rfl := hend.eq_of_nil
  have hnone {p : Place} {c : CodePoint} {rest : Text} (hrest : p.rest = c :: rest)
      (hc : isIndent c = false) (next : Place → Parts → Option α) :
      indent.run p ps next = next p ps := by
    refine runWhole_eq (t := []) (.nil p) (List.forall_mem_nil _) (Nat.le_refl 0) ?_
    rw [Place.isBefore, hrest]
    exact hc
  have hfeed : CodePoint.ofChar '\n' ≠ CodePoint.ofChar '\r' := by decide
  have hbreak : (Pattern.optional lineBreak).run (p.after (CodePoint.ofChar ';') rest) ps next =
      some x := by
    simp [Pattern.optional, lineBreak, run, hrest', is, hn, hfeed]
  have hbehind : (sequence [indent, Pattern.optional lineBreak]).run
      (p.after (CodePoint.ofChar ';') rest) ps next = some x := by
    rw [run_sequence_cons, hnone hrest' (by decide)]
    exact hbreak
  rw [statementEnd, run_sequence_cons, hnone hrest (by decide), run_sequence_cons, Pattern.optional]
  simp only [run, hrest, is, decide_true, if_true, hbehind]

/-- From its start an import line is taken as it stands. -/
theorem text_importLine (hm : importStatement.matchAt? p = some m)
    (hnames : ∀ c ∈ names, isClause c = true) (hspec : IsSpec spec)
    (hrest : p.rest = importLine names spec ++ rest) : m.text = importLine names spec := by
  have hrun : (sequence importHead).run p [] (fun q qs => statementEnd.run q qs
      fun stop parts => some ⟨p, stop, parts⟩) = some m := by
    rw [← hm, matchAt?, importStatement_eq, run_sequence_append]
    rfl
  obtain ⟨q, qs, hpath, hend⟩ := run_path rfl hrun
  obtain ⟨-, head, quote, spec', hopens, hquote, hspec', htaken, -⟩ := way_importHead hpath.way
  have hsame : head ++ quote :: (spec' ++ quote :: q.rest) = "import " ++ names ++ " from " ++
      CodePoint.ofChar '"' :: (spec ++ CodePoint.ofChar '"' :: (";\n" ++ rest)) := by
    have htext := htaken.1
    rw [hrest, importLine_append] at htext
    simpa using htext.symm
  obtain ⟨rfl, rfl, hquoted⟩ := Text.append_cons_inj hopens.isClause (isClause_importLine hnames)
    (not_isClause_of_isQuote hquote) (by decide) hsame
  obtain ⟨rfl, -, hbehind⟩ :=
    Text.append_cons_inj hspec'.2 hspec.2 (by decide) (by decide) hquoted
  have hstatement : q.rest = [CodePoint.ofChar ';', CodePoint.ofChar '\n'] ++ rest := hbehind
  obtain ⟨r, hr, -⟩ := Place.exists_takes hstatement
  have hstop := hend.symm.trans (run_statementEnd hr rfl)
  rw [Option.some.inj hstop]
  have htext := (htaken.append hr).textTo_eq
  rw [Match.text, htext, importLine]
  simp [Text.ofString]

end Signature

end Decouple
