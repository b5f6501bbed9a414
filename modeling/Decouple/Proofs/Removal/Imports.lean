import Decouple.Proofs.Removal.Deletion
import Decouple.Proofs.Removal.Statements
import Decouple.Proofs.Rewriting.SecondPass

/-!
# The removal of an import

An import on a line of its own is removed together with what stands open before it.  Where no import
or export stands open, it is removed alone, and the text around it is left as it was
(`importLine_removed_iff`).  Where one does, such as an export list without a semicolon, that is
removed too (`not_forall_importLine_removed`).
-/

namespace Decouple

open CodePoint (is isNotIn)
open Pattern Signature
open Text (ink)

namespace Rewrite

variable {s : Settings} {path t u A B names spec : Text} {m : Match}

/-! ## Rewriting settled text with something in it -/

/-- What the import rule makes of a source file stays, if no rule finds anything in that. -/
theorem source_of_importEdit {notes : List Note}
    (h : importStatement.edit (fixImport s) t = (u, notes)) (hne : notes ≠ [])
    (hu : SourceSettled s u) : source s t = ⟨collapseBlankRuns u, notes⟩ := by
  have hrequires : requireStatement.edit (fixImport s) u = (u, []) := by
    refine (edit_announced _ _).eq_of_notes (edit_notes_eq_nil.2 fun m hm => ?_)
    exact (fixImport_picks s m).2 (hu.imports.requires m hm)
  have htraces : dropTraces s u = (u, []) :=
    (dropTraces_announced s).eq_of_notes (dropTraces_notes.2 hu.traces)
  simp [source, andThen, h, hrequires, htraces, finish, hne]

/-- If the only note on a source file is the import rule's, the file is what that rule leaves. -/
theorem source_eq_of_note {note : Note} {content : Text} (h : source s t = ⟨content, [note]⟩)
    (hne : (importStatement.edit (fixImport s) t).2 ≠ []) :
    importStatement.edit (fixImport s) t = ((importStatement.edit (fixImport s) t).1, [note]) ∧
      content = collapseBlankRuns (importStatement.edit (fixImport s) t).1 := by
  obtain ⟨⟨t₁, notes₁⟩, h₁⟩ : ∃ e, importStatement.edit (fixImport s) t = e := ⟨_, rfl⟩
  obtain ⟨⟨t₂, notes₂⟩, h₂⟩ : ∃ e, requireStatement.edit (fixImport s) t₁ = e := ⟨_, rfl⟩
  obtain ⟨⟨t₃, notes₃⟩, h₃⟩ : ∃ e, dropTraces s t₂ = e := ⟨_, rfl⟩
  have hnotes : notes₁ ++ notes₂ ++ notes₃ = [note] := by
    have hall := congrArg Rewrite.notes h
    rw [source, finish_notes] at hall
    simpa [andThen, h₁, h₂, h₃] using hall
  rw [h₁] at hne ⊢
  have hlength := congrArg List.length hnotes
  have hpos : 0 < notes₁.length := List.length_pos_iff.2 hne
  simp only [List.length_append, List.length_singleton] at hlength
  obtain rfl : notes₂ = [] := List.length_eq_zero_iff.1 (by omega)
  obtain rfl : notes₃ = [] := List.length_eq_zero_iff.1 (by omega)
  -- The later steps have made no note, so they have left the text alone.
  obtain rfl : t₂ = t₁ := by
    have hsame := edit_announced requireStatement (fixImport s) t₁ (by rw [h₂])
    rwa [h₂] at hsame
  obtain rfl : t₃ = t₂ := by
    have hsame := dropTraces_announced s t₂ (by rw [h₃])
    rwa [h₃] at hsame
  simp only [List.append_nil] at hnotes
  refine ⟨by rw [hnotes], ?_⟩
  have hcontent := congrArg Rewrite.content h
  simpa [source, andThen, h₁, h₂, h₃, finish, hnotes] using hcontent.symm

/-! ## Statements around a line -/

/-- Where the search finds no import of a platform, none matches anywhere. -/
theorem unowned_of_matchAt? {owned : Text → Bool}
    (hfree : ∀ m ∈ importStatement.findAll t, owned (m.textOf .spec) = false) {p : Place}
    (hp : (Place.start t).Reaches p) (hm : importStatement.matchAt? p = some m) :
    owned (m.textOf .spec) = false := by
  obtain ⟨m', hm', w, u, quote, tail, -, -, hspec, -⟩ := exists_import_around hp hm
  rw [← hspec]
  exact hfree m' hm'

/-- An import of a platform's module without a replacement is left out. -/
theorem fixImport_of_owned (howned : isPlatformSpecifier s (m.textOf .spec) = true)
    (hunmapped : s.rewriteOf? (m.textOf .spec) = none) :
    fixImport s m = some ([], .importRemoved (m.textOf .spec)) := by
  have hsome : ¬(s.specifierOwner? (m.textOf .spec)).isNone = true := by
    rw [isPlatformSpecifier] at howned
    cases h : s.specifierOwner? (m.textOf .spec) with
    | none => simp [h] at howned
    | some p => simp
  rw [fixImport, if_neg hsome, hunmapped]

/-- The first word of a statement is ink. -/
theorem two_le_length_ink (h : OpensImport u) :
    2 ≤ (ink u).length := by
  obtain ⟨i, word, w, rfl, -, hword, -⟩ := h
  have hall : ∀ word ∈ importWords, 2 ≤ (ink word).length := by decide
  have hlong := hall word hword
  simp only [Text.ink_append, List.length_append]
  omega

/-- A module of a platform, which has no replacement. -/
structure IsUnmapped (s : Settings) (spec : Text) : Prop where
  isSpec : IsSpec spec
  owned : isPlatformSpecifier s spec = true
  unmapped : s.rewriteOf? spec = none

/-- What may stand between `import` and `from`. -/
structure IsClause (names : Text) : Prop where
  ne_nil : names ≠ []
  isClause : ∀ c ∈ names, isClause c = true

section Line

variable (hA : A.isWholeLines = true) (hnames : IsClause names) (hspec : IsUnmapped s spec)

include hA hnames hspec

/-- A line that no statement before it goes over is taken by itself. -/
theorem importEdit_of_not_endsInImport (hopen : ¬EndsInImport A)
    (hfree : ∀ m ∈ importStatement.findAll (A ++ B), isPlatformSpecifier s (m.textOf .spec) = false) :
    importStatement.edit (fixImport s) (A ++ importLine names spec ++ B) =
      (A ++ B, [.importRemoved spec]) := by
  have hlines : (A ++ importLine names spec).isWholeLines = true :=
    Text.isWholeLines_append A (by rw [importLine, List.getLast?_append]; rfl)
  obtain ⟨p, hp, hrest⟩ :=
    Place.exists_takes (p := Place.start _) (List.append_assoc A (importLine names spec) B)
  obtain ⟨m, hm, hmspec⟩ := exists_match_of_importLine (Place.lineStart_of_takes hA hp) hnames.ne_nil
    hnames.isClause hspec.isSpec hrest
  have htext := text_importLine hm hnames.isClause hspec.isSpec hrest
  obtain ⟨hstart, hreaches⟩ := reaches_of_matchAt? hm
  have hoffset : m.offset = A.length := by
    rw [Match.offset, hstart, hp.2.1]
    exact Nat.zero_add _
  have hstop : m.stop.offset = (A ++ importLine names spec).length := by
    rw [List.length_append, ← htext, Match.text, ← hoffset, Match.offset, hstart,
      hreaches.length_textTo]
  have hpOffset : p.offset = A.length := by rw [← hoffset, Match.offset, hstart]
  have hadvanced : p.offset < m.stop.offset := by
    rw [hstop, hpOffset, List.length_append]
    simp [importLine, Text.ofString]
  have hwithin {m' : Match} (hm' : m' ∈ importStatement.findAll (A ++ importLine names spec ++ B))
      (hlt : m'.offset < A.length) := import_within hA hopen (by rwa [← List.append_assoc]) hlt
  have hfound : m ∈ importStatement.findAll (A ++ importLine names spec ++ B) := by
    refine mem_findAll_of_matchAt? ⟨A, hp⟩ hm hadvanced fun m' hm' hlt => ?_
    rw [hpOffset] at hlt ⊢
    exact (hwithin hm' hlt).1
  -- Each other statement is one of the settled text, before the line or behind it.
  have hothers : ∀ m' ∈ importStatement.findAll (A ++ importLine names spec ++ B), m' ≠ m →
      fixImport s m' = none := by
    intro m' hm' hne
    rw [fixImport_picks s m']
    rcases Nat.lt_or_ge m'.offset A.length with hlt | hge
    · obtain ⟨p', m'', hp', hmatch, hsame⟩ := (hwithin hm' hlt).2 B
      rw [← hsame]
      exact unowned_of_matchAt? hfree hp' hmatch
    · have hbehind : (A ++ importLine names spec).length ≤ m'.offset := by
        by_contra hover
        refine hne (eq_of_mem_findAll hm' hfound ?_ ?_).symm
        · rwa [hoffset]
        · rw [hstop]
          omega
      obtain ⟨p', m'', hp', hmatch, hsame⟩ := import_behind hA hlines hm' hbehind
      rw [← hsame]
      exact unowned_of_matchAt? hfree hp' hmatch
  have hpick : fixImport s m = some ([], .importRemoved spec) := by
    rw [← hmspec]
    exact fixImport_of_owned (hmspec ▸ hspec.owned) (hmspec ▸ hspec.unmapped)
  obtain ⟨a, b, hcut, hlength, hedit⟩ := edit_of_only hfound hpick hothers
  rw [htext, List.append_assoc, List.append_assoc] at hcut
  obtain ⟨rfl, hmore⟩ := List.append_inj hcut (by rw [hlength, hoffset])
  obtain rfl := List.append_cancel_left hmore
  rw [hedit, List.append_nil]

/-- Where a statement stands open before a line, the search finds one that holds more than the
line. -/
theorem exists_of_endsInImport (hopen : EndsInImport A) :
    ∃ m ∈ importStatement.findAll (A ++ importLine names spec ++ B), m.textOf .spec = spec ∧
      (ink (importLine names spec)).length < (ink m.text).length := by
  obtain ⟨a, u, rfl, ha, hopens⟩ := hopen
  have hassoc : a ++ u ++ importLine names spec ++ B = a ++ (u ++ (importLine names spec ++ B)) := by
    simp
  rw [hassoc]
  obtain ⟨p, hp, hrest⟩ := Place.exists_takes (p := Place.start _) (t := a) rfl
  obtain ⟨m, hm, hmspec⟩ := exists_match_of_opensImport (Place.lineStart_of_takes ha hp) hopens
    hnames.isClause hspec.isSpec hrest
  obtain ⟨m', hm', w, v, quote, tail, htakes, hw, hsame, -⟩ := exists_import_around ⟨a, hp⟩ hm
  refine ⟨m', hm', hsame.trans hmspec, ?_⟩
  rw [hmspec] at htakes
  have htext : m'.text = w ++ v ++ quote :: (spec ++ quote :: tail) := htakes.taken.textTo_eq
  -- The statement goes on from where it is open to the quote of the line.
  have hahead : v ++ quote :: (spec ++ quote :: (tail ++ m'.stop.rest)) =
      u ++ ("import " ++ names ++ " from ") ++
        CodePoint.ofChar '"' :: (spec ++ CodePoint.ofChar '"' :: (";\n" ++ B)) := by
    have hrest' := hw.1
    rw [htakes.rest_eq, hrest, importLine_append, List.append_assoc] at hrest'
    rw [List.append_cancel_left hrest']
    simp only [List.append_assoc]
  have hclause : ∀ c ∈ u ++ ("import " ++ names ++ " from "), isClause c = true := fun c hc =>
    (List.mem_append.1 hc).elim (hopens.isClause c) (isClause_importLine hnames.isClause c)
  obtain ⟨rfl, rfl, -⟩ := Text.append_cons_inj
    (fun c hc => htakes.opens.isClause c (List.mem_append_right _ hc)) hclause
    (not_isClause_of_isQuote htakes.quoted) (by decide) hahead
  have hword := two_le_length_ink hopens
  have hend : (ink (";\n" : Text)).length = 1 := by decide
  have hline := importLine_append names spec []
  rw [List.append_nil, List.append_nil] at hline
  rw [htext, hline]
  have hquote (t : Text) : ink (CodePoint.ofChar '"' :: t) = CodePoint.ofChar '"' :: ink t :=
    Text.ink_cons (by decide) t
  simp only [Text.ink_append, hquote, List.length_append, List.length_cons]
  omega

/-- An import line is removed by itself, and the text around it is left as it was, exactly if the lines
before it do not end within another import or export. -/
theorem importLine_removed_iff (hrole : FileRole.ofPath path = .source)
    (hclean : file s path (A ++ B) = .ok ⟨A ++ B, []⟩) :
    file s path (A ++ importLine names spec ++ B) =
        .ok ⟨collapseBlankRuns (A ++ B), [.importRemoved spec]⟩ ↔ ¬EndsInImport A := by
  have hsettled : SourceSettled s (A ++ B) := by
    have h := (file_eq_self_iff (by rw [hrole]; decide) (A ++ B)).1 hclean
    rwa [Settled, hrole] at h
  rw [file_of_source hrole, Except.ok.injEq]
  constructor
  · intro hsource hopen
    obtain ⟨m, hm, hmspec, hlong⟩ := exists_of_endsInImport (B := B) hA hnames hspec hopen
    have hpick : fixImport s m = some ([], .importRemoved spec) := by
      rw [← hmspec]
      exact fixImport_of_owned (hmspec ▸ hspec.owned) (hmspec ▸ hspec.unmapped)
    have hpicked : fixImport s m ≠ none := by simp [hpick]
    have hne : (importStatement.edit (fixImport s) (A ++ importLine names spec ++ B)).2 ≠ [] := by
      rw [ne_eq, edit_notes_eq_nil]
      exact fun hnone => hpicked (hnone m hm)
    obtain ⟨hedit, hcontent⟩ := source_eq_of_note hsource hne
    have hnotes := congrArg Prod.snd hedit
    obtain ⟨a, b, hcut, -, hedit'⟩ :=
      edit_of_only hm hpick (choose_eq_none_of_notes hnotes hm hpicked)
    -- The text that is left has lost more ink than the line has.
    have hink := congrArg ink hcontent
    rw [hedit', ink_collapseBlankRuns, ink_collapseBlankRuns] at hink
    have hbefore := congrArg (List.length ∘ ink) hcut
    have hbehind := congrArg List.length hink
    simp only [Function.comp_apply, Text.ink_append, List.length_append, Text.ink_nil,
      List.length_nil] at hbefore hbehind
    omega
  · intro hopen
    exact source_of_importEdit (importEdit_of_not_endsInImport hA hnames hspec hopen
      hsettled.imports.imports) (List.cons_ne_nil _ _) hsettled

end Line

/-! ## An export list before an import -/

/-- A module of a platform. -/
def someModule : Text := "@lovable/x"

theorem someModule_unmapped : IsUnmapped {} someModule where
  isSpec := ⟨by decide, by decide⟩
  owned := by decide +kernel
  unmapped := by decide +kernel

theorem someName_isClause : IsClause "b" := ⟨by decide, by decide⟩

/-- Lines whose last code point before the line feed is a semicolon. -/
theorem not_endsInImport_semicolon (t : Text) : ¬EndsInImport (t ++ ";\n") := by
  rintro ⟨a, u, htext, -, hopens⟩
  rcases List.append_eq_append_iff.1 htext with ⟨c, -, hc⟩ | ⟨c, -, hc⟩
  · have hshort : u.length ≤ 2 := by
      have hlength := congrArg List.length hc
      simp only [List.length_append] at hlength
      have htwo : (";\n" : Text).length = 2 := by decide
      omega
    obtain ⟨i, word, w, rfl, -, hword, -⟩ := hopens
    have hall : ∀ word ∈ importWords, 2 < word.length := by decide
    have hlong := hall word hword
    simp only [List.length_append] at hshort
    omega
  · have hmem : CodePoint.ofChar ';' ∈ u := by
      rw [hc]
      exact List.mem_append_right _ (by decide)
    exact absurd (hopens.isClause _ hmem) (by decide)

/-- Behind an export list with a semicolon an import is removed by itself. -/
theorem importLine_removed_behind_list :
    file {} somePath ("export \x7b a \x7d;\n" ++ importLine "b" someModule ++ "c();\n") =
      .ok ⟨"export \x7b a \x7d;\nc();\n", [.importRemoved someModule]⟩ := by
  have hclean : file {} somePath ("export \x7b a \x7d;\n" ++ "c();\n" : Text) =
      .ok ⟨"export \x7b a \x7d;\n" ++ "c();\n", []⟩ := somePath_clean (by decide +kernel)
  have hopen : ¬EndsInImport "export \x7b a \x7d;\n" :=
    not_endsInImport_semicolon "export \x7b a \x7d"
  have hsame : collapseBlankRuns ("export \x7b a \x7d;\n" ++ "c();\n") =
      "export \x7b a \x7d;\nc();\n" := by decide +kernel
  rw [← hsame]
  exact (importLine_removed_iff (by decide) someName_isClause someModule_unmapped somePath_source
    hclean).2 hopen

/-- Behind an export list without a semicolon an import is removed together with the list. -/
theorem not_forall_importLine_removed : ¬∀ (path A B names spec : Text) (r : Rewrite),
    FileRole.ofPath path = .source → A.isWholeLines = true →
    file {} path (A ++ B) = .ok ⟨A ++ B, []⟩ → IsClause names → IsUnmapped {} spec →
    file {} path (A ++ importLine names spec ++ B) = .ok r → r.content = collapseBlankRuns (A ++ B) := by
  intro hall
  have hcontent := hall somePath "export \x7b a \x7d\n" "c();\n" "b" someModule _ somePath_source
    (by decide) (somePath_clean (by decide +kernel)) someName_isClause someModule_unmapped
    (file_of_source somePath_source)
  revert hcontent
  decide +kernel

end Rewrite

end Decouple
