import Decouple.Assistant.Answer
import Decouple.Proofs.Removal.Stretches

/-!
# Fences around a text

A fence opens with three backticks and a language tag on a line of their own, and closes with three
backticks that nothing but white space follows.  What stands between is searched from the shortest
text on, so a fence holds the shortest text that a closing follows to the end (`Holds`), and that is
what is left without it (`strip_eq_of_holds`).

A closing takes one line break with it, and a carriage return before that.  The backticks that close
are the last ones of the text, whatever stands inside.  So a text that is put into a fence comes back
as it is, fences and blank lines included, unless its own last code point is a carriage return; and a
text in which no fence opens stays (`strip_around`).
-/

namespace Decouple

open CodePoint (is isBlank isIndent isWord)
open Pattern

namespace Pattern

variable {c : CodePoint} {p q : Place} {ps qs : Parts} {t : Text}

/-- One code point, or nothing. -/
def IsAtMost (c : CodePoint) (t : Text) : Prop := t = [] ∨ t = [c]

theorem path_optional_is (h : Path (optional (one (is c))) p ps q qs) :
    qs = ps ∧ ∃ t, IsAtMost c t ∧ p.Takes t q := by
  rcases path_alt.1 h with h | h
  · obtain ⟨rfl, htaken⟩ := path_is h
    exact ⟨rfl, [c], .inr rfl, htaken⟩
  · obtain ⟨rfl, rfl⟩ := path_empty.1 h
    exact ⟨rfl, [], .inl rfl, .nil q⟩

theorem path_optional_of_takes (ht : IsAtMost c t) (h : p.Takes t q) :
    Path (optional (one (is c))) p ps q ps := by
  rcases ht with rfl | rfl
  · obtain rfl := h.eq_of_nil
    exact .second .empty
  · exact .first (path_one_of_takes h (decide_eq_true rfl))

end Pattern

namespace Fence

variable {p q : Place} {ps qs : Parts} {t u v o b b' c : Text} {m : Match}

/-! ## What opens and what closes -/

/-- Whether a text opens a fence: white space, three backticks, a language tag, spaces and tabs, and a
line break. -/
def IsOpening (o : Text) : Prop :=
  ∃ w tag ind cr, o = w ++ ("```" ++ (tag ++ (ind ++ (cr ++ "\n")))) ∧
    (∀ c ∈ w, isBlank c = true) ∧ (∀ c ∈ tag, isTag c = true) ∧ (∀ c ∈ ind, isIndent c = true) ∧
    IsAtMost '\r' cr

/-- Whether a text closes a fence: a line break, of which any part may be missing, three backticks, and
white space. -/
def IsClosing (c : Text) : Prop :=
  ∃ cr lf w, c = cr ++ (lf ++ ("```" ++ w)) ∧ IsAtMost '\r' cr ∧ IsAtMost '\n' lf ∧
    ∀ c ∈ w, isBlank c = true

/-- Whether a text is a fence that holds another: the shortest one that a closing follows. -/
def Holds (t b : Text) : Prop :=
  ∃ o c, t = o ++ (b ++ c) ∧ IsOpening o ∧ IsClosing c ∧
    ∀ b' c', b ++ c = b' ++ c' → IsClosing c' → b.length ≤ b'.length

/-- Behind the language tag of an opening no code point of a tag follows. -/
theorem head?_lineEnd {ind cr : Text} (hind : ∀ c ∈ ind, isIndent c = true)
    (hcr : IsAtMost '\r' cr) (u : Text) : (ind ++ (cr ++ "\n") ++ u).head?.any isTag = false := by
  cases ind with
  | nil => rcases hcr with rfl | rfl <;> rfl
  | cons c ind =>
    have hc := hind c (List.mem_cons_self ..)
    simp only [isIndent, Bool.or_eq_true, beq_iff_eq] at hc
    have hspace : c = ' ' ∨ c = '\t' := hc.imp CodePoint.ext CodePoint.ext
    rcases hspace with rfl | rfl <;> rfl

/-- A text opens in one way. -/
theorem IsOpening.unique {o' u' : Text} (h : IsOpening o) (h' : IsOpening o')
    (heq : o ++ u = o' ++ u') : o = o' := by
  obtain ⟨w, tag, ind, cr, rfl, hw, htag, hind, hcr⟩ := h
  obtain ⟨w', tag', ind', cr', rfl, hw', htag', hind', hcr'⟩ := h'
  simp only [List.append_assoc] at heq
  obtain ⟨rfl, hticks⟩ := Text.append_inj_of_head? hw hw' rfl rfl heq
  have htags := List.append_cancel_left hticks
  have hhead := head?_lineEnd hind hcr u
  have hhead' := head?_lineEnd hind' hcr' u'
  simp only [List.append_assoc] at hhead hhead'
  obtain ⟨rfl, hends⟩ := Text.append_inj_of_head? htag htag' hhead hhead' htags
  -- Spaces, tabs and the carriage return go up to the line feed.
  have hbefore {ind cr : Text} (hind : ∀ c ∈ ind, isIndent c = true) (hcr : IsAtMost '\r' cr) :
      ∀ c ∈ ind ++ cr, (isIndent c || is '\r' c) = true := by
    rcases hcr with rfl | rfl <;> simp +contextual [or_imp, is, hind]
  rw [← List.append_assoc ind, ← List.append_assoc ind'] at hends
  obtain ⟨hsame, -⟩ := Text.append_inj_of_head? (f := fun c => isIndent c || is '\r' c)
    (hbefore hind hcr) (hbefore hind' hcr') rfl rfl hends
  rw [← List.append_assoc ind, ← List.append_assoc ind', hsame]

/-- A fence holds one text. -/
theorem Holds.unique (h : Holds t b) (h' : Holds t b') : b = b' := by
  obtain ⟨o, c, rfl, ho, hc, hshort⟩ := h
  obtain ⟨o', c', heq, ho', hc', hshort'⟩ := h'
  obtain rfl := ho.unique ho' heq
  have hrest := List.append_cancel_left heq
  have hlength : b.length = b'.length :=
    Nat.le_antisymm (hshort b' c' hrest hc') (hshort' b c hrest.symm hc)
  exact List.append_inj_left hrest hlength

/-! ## The pattern of a fence -/

/-- What the pattern of a fence goes through before the content. -/
def openingPatterns : List Pattern := [blanks, literal "```", any isTag, indent, lineBreak]

/-- What the pattern of a fence goes through after the content. -/
def closingPatterns : List Pattern :=
  [optional (one (is '\r')), optional (one (is '\n')), literal "```", blanks, textEnd]

theorem fenced_eq : fenced = sequence
    (openingPatterns ++ part .body (many (fun _ => true) 0 .lazy) :: closingPatterns) := rfl

theorem isOpening_of_path (h : Path (sequence openingPatterns) p ps q qs) :
    ∃ o, IsOpening o ∧ p.Takes o q := by
  obtain ⟨m₁, _, hblanks, h⟩ := path_sequence_cons.1 h
  obtain ⟨m₂, _, hticks, h⟩ := path_sequence_cons.1 h
  obtain ⟨m₃, _, htag, h⟩ := path_sequence_cons.1 h
  obtain ⟨m₄, _, hindent, h⟩ := path_sequence_cons.1 h
  obtain ⟨m₅, _, hreturn, hfeed⟩ := path_seq.1 h
  obtain ⟨-, w, hw, hblank, -⟩ := path_many hblanks
  obtain ⟨-, hticks⟩ := way_literal hticks.way
  obtain ⟨-, tag, htag, htagged, -⟩ := path_many htag
  obtain ⟨-, ind, hind, hindented, -⟩ := path_many hindent
  obtain ⟨-, cr, hcr, hreturn⟩ := path_optional_is hreturn
  obtain ⟨-, hfeed⟩ := path_is hfeed
  exact ⟨_, ⟨w, tag, ind, cr, rfl, hblank, htagged, hindented, hcr⟩,
    hw.append (hticks.append (htag.append (hind.append (hreturn.append hfeed))))⟩

theorem path_of_isOpening (ho : IsOpening o) (h : p.Takes o q) :
    Path (sequence openingPatterns) p ps q ps := by
  obtain ⟨w, tag, ind, cr, rfl, hw, htag, hind, hcr⟩ := ho
  obtain ⟨m₁, hblanks, h⟩ := h.split
  obtain ⟨m₂, hticks, h⟩ := h.split
  obtain ⟨m₃, htagged, h⟩ := h.split
  obtain ⟨m₄, hindent, h⟩ := h.split
  obtain ⟨m₅, hreturn, hfeed⟩ := h.split
  have hink : m₁.isBefore isBlank = false := by
    rw [Place.isBefore, hticks.1]
    rfl
  have hend : m₄.isBefore isIndent = false := by
    rw [Place.isBefore, hreturn.1, hfeed.1]
    rcases hcr with rfl | rfl <;> rfl
  have hsigns : Path (any isTag) m₂ ps m₃ ps := .many htagged htag (Nat.zero_le _) (by simp)
  exact path_sequence_cons.2 ⟨m₁, ps, .many hblanks hw (Nat.zero_le _) fun _ => hink,
    path_sequence_cons.2 ⟨m₂, ps, path_literal hticks,
      path_sequence_cons.2 ⟨m₃, ps, hsigns,
        path_sequence_cons.2 ⟨m₄, ps, .many hindent hind (Nat.zero_le _) fun _ => hend,
          .seq (path_optional_of_takes hcr hreturn)
            (path_one_of_takes hfeed (decide_eq_true rfl))⟩⟩⟩⟩

theorem isClosing_of_path (h : Path (sequence closingPatterns) p ps q qs) :
    qs = ps ∧ IsClosing p.rest := by
  obtain ⟨m₁, _, hreturn, h⟩ := path_sequence_cons.1 h
  obtain ⟨m₂, _, hfeed, h⟩ := path_sequence_cons.1 h
  obtain ⟨m₃, _, hticks, h⟩ := path_sequence_cons.1 h
  obtain ⟨m₄, _, hblanks, hend⟩ := path_sequence_cons.1 h
  obtain ⟨rfl, cr, hcr, htakenReturn⟩ := path_optional_is hreturn
  obtain ⟨rfl, lf, hlf, htakenFeed⟩ := path_optional_is hfeed
  obtain ⟨rfl, htakenTicks⟩ := way_literal hticks.way
  obtain ⟨rfl, w, htakenBlanks, hblank, -⟩ := path_many hblanks
  cases hend with
  | textEnd hnil =>
    refine ⟨rfl, cr, lf, w, ?_, hcr, hlf, hblank⟩
    rw [htakenReturn.1, htakenFeed.1, htakenTicks.1, htakenBlanks.1, hnil, List.append_nil]

theorem exists_path_of_isClosing (hc : IsClosing p.rest) (ps : Parts) :
    ∃ q, Path (sequence closingPatterns) p ps q ps := by
  obtain ⟨cr, lf, w, hrest, hcr, hlf, hw⟩ := hc
  obtain ⟨q, h, hnil⟩ := Place.exists_takes (hrest.trans (List.append_nil _).symm)
  obtain ⟨m₁, hreturn, h⟩ := h.split
  obtain ⟨m₂, hfeed, h⟩ := h.split
  obtain ⟨m₃, hticks, hblanks⟩ := h.split
  have hend : q.isBefore isBlank = false := by
    rw [Place.isBefore, hnil]
    rfl
  exact ⟨q, path_sequence_cons.2 ⟨m₁, ps, path_optional_of_takes hcr hreturn,
    path_sequence_cons.2 ⟨m₂, ps, path_optional_of_takes hlf hfeed,
      path_sequence_cons.2 ⟨m₃, ps, path_literal hticks,
        path_sequence_cons.2 ⟨q, ps, .many hblanks hw (Nat.zero_le _) fun _ => hend,
          .textEnd hnil⟩⟩⟩⟩⟩

theorem isPlain_opening : (sequence openingPatterns).isPlain = true := rfl

theorem isPlain_closing : (sequence closingPatterns).isPlain = true := rfl

/-- What a match finds between opening and closing is what the fence holds. -/
theorem holds_of_match (h : fenced.matchStart? t = some m) : Holds t (m.textOf .body) := by
  rw [matchStart?, matchAt?, fenced_eq, run_sequence_append] at h
  obtain ⟨p, ps, hopen, h⟩ := run_path isPlain_opening h
  obtain ⟨o, ho, htaken⟩ := isOpening_of_path hopen
  rw [run_sequence_cons, run, run] at h
  obtain ⟨b, q, hb, hn, hnearest⟩ := runLazy_nearest h
  obtain ⟨r, rs, hclose, hm⟩ := run_path isPlain_closing hn
  obtain ⟨rfl, hc⟩ := isClosing_of_path hclose
  have hbody : m.textOf .body = b := by
    rw [← Option.some.inj hm]
    exact hb.textTo_eq
  have hrest : p.rest = b ++ q.rest := hb.1
  rw [hbody]
  refine ⟨o, q.rest, by rw [← hrest]; exact htaken.1, ho, hc, fun b' c' hsame hc' => ?_⟩
  -- A shorter text would have been tried before.
  by_contra hlt
  obtain ⟨q', hq', hrest'⟩ := Place.exists_takes (hrest.trans hsame)
  have hnone := hnearest b' q' hq' (Nat.lt_of_not_le hlt)
  obtain ⟨r', hclose'⟩ := exists_path_of_isClosing (p := q') (hrest'.symm ▸ hc')
    ((Label.body, ⟨p, q'⟩) :: ps)
  have hsome : ((sequence closingPatterns).run q' ((Label.body, ⟨p, q'⟩) :: ps) fun stop parts =>
      some (⟨Place.start t, stop, parts⟩ : Match)).isSome = true := isSome_run hclose' rfl
  rw [hnone] at hsome
  cases hsome

theorem exists_match_of_append (ho : IsOpening o) (hc : IsClosing c) :
    ∃ m, fenced.matchStart? (o ++ (b ++ c)) = some m := by
  obtain ⟨p, hp, hrest⟩ := Place.exists_takes (p := Place.start (o ++ (b ++ c))) rfl
  obtain ⟨q, hq, hrest'⟩ := Place.exists_takes hrest
  obtain ⟨r, hr⟩ := exists_path_of_isClosing (p := q) (hrest'.symm ▸ hc) [(Label.body, ⟨p, q⟩)]
  have hpath : Path fenced (Place.start (o ++ (b ++ c))) [] r [(Label.body, ⟨p, q⟩)] := by
    rw [fenced_eq]
    exact path_sequence_append.2 ⟨p, [], path_of_isOpening ho hp,
      path_sequence_cons.2 ⟨q, _, .part (.many hq (fun _ _ => rfl) (Nat.zero_le _) (by simp)), hr⟩⟩
  exact exists_matchAt? hpath

/-- What is between an opening and a closing is stripped to what the fence holds. -/
theorem holds_strip (ho : IsOpening o) (hc : IsClosing c) :
    Holds (o ++ (b ++ c)) (strip (o ++ (b ++ c))) := by
  obtain ⟨m, hm⟩ := exists_match_of_append (b := b) ho hc
  rw [strip, hm]
  exact holds_of_match hm

theorem strip_eq_of_holds (h : Holds t b) : strip t = b := by
  obtain ⟨o, c, rfl, ho, hc, -⟩ := id h
  exact (holds_strip ho hc).unique h

/-- A text in which no fence opens stays. -/
theorem strip_eq_self (h : ¬("```" : Text) <+: t.dropWhile isBlank) : strip t = t := by
  cases hm : fenced.matchStart? t with
  | none => rw [strip, hm]
  | some m =>
    obtain ⟨o, c, heq, ⟨w, tag, ind, cr, rfl, hw, -⟩, -⟩ := holds_of_match hm
    refine absurd ?_ h
    rw [heq, List.append_assoc, Text.dropWhile_append_of_head hw rfl, List.append_assoc]
    exact List.prefix_append _ _

/-! ## A text in a fence -/

/-- The choices of a fence: what stands before it, its language tag, and what stands after it. -/
structure Wrapping where
  before : Text
  before_blank : ∀ c ∈ before, isBlank c = true
  tag : Text
  tag_sign : ∀ c ∈ tag, isWord c = true ∨ c = '.' ∨ c = '+' ∨ c = '-'
  after : Text
  after_blank : ∀ c ∈ after, isBlank c = true

/-- A text in a fence. -/
def Wrapping.around (w : Wrapping) (body : Text) : Text :=
  w.before ++ "```" ++ w.tag ++ "\n" ++ body ++ "\n```" ++ w.after

/-- What stands before a text in a fence. -/
def Wrapping.opening (w : Wrapping) : Text := w.before ++ ("```" ++ (w.tag ++ "\n"))

/-- What stands behind a text in a fence. -/
def Wrapping.closing (w : Wrapping) : Text := "\n```" ++ w.after

theorem Wrapping.around_eq (w : Wrapping) (body : Text) :
    w.around body = w.opening ++ (body ++ w.closing) := by
  simp only [around, opening, closing, List.append_assoc]

theorem Wrapping.isOpening (w : Wrapping) : IsOpening w.opening := by
  have htag : ∀ c ∈ w.tag, isTag c = true := by
    intro c hc
    rw [isTag, Bool.or_eq_true]
    refine (w.tag_sign c hc).imp_right ?_
    rintro (rfl | rfl | rfl) <;> rfl
  exact ⟨w.before, w.tag, [], [], rfl, w.before_blank, htag, List.forall_mem_nil _, .inl rfl⟩

theorem Wrapping.isClosing (w : Wrapping) : IsClosing w.closing :=
  ⟨[], "\n", w.after, rfl, .inl rfl, .inr rfl, w.after_blank⟩

/-- Where else the closing of a fence may start: behind its line feed, or at a carriage return before
it. -/
theorem Wrapping.cases_of_isClosing (w : Wrapping) (h : b ++ w.closing = b' ++ c)
    (hc : IsClosing c) : b' = b ∨ b' = b ++ "\n" ∨ b = b' ++ "\r" := by
  obtain ⟨cr, lf, after, rfl, hcr, hlf, hafter⟩ := hc
  have hticks {a : Text} : (a ++ "```").getLast?.any isBlank = false := by
    rw [List.getLast?_append]
    rfl
  have hwhole : (b ++ "\n") ++ "```" ++ w.after = (b' ++ (cr ++ lf)) ++ "```" ++ after := by
    have hline : ("\n```" : Text) = "\n" ++ "```" := rfl
    simpa only [closing, hline, List.append_assoc] using h
  obtain ⟨hsame, -⟩ :=
    Text.append_inj_of_getLast? w.after_blank hafter hticks hticks hwhole
  have hbreak : b ++ "\n" = b' ++ (cr ++ lf) := List.append_cancel_right hsame
  rcases hlf with rfl | rfl
  · rcases hcr with rfl | rfl
    · exact .inr (.inl ((List.append_nil b').symm.trans hbreak.symm))
    · have hlast := congrArg List.getLast? hbreak
      simp [Text.ofString] at hlast
      cases hlast
  · rw [← List.append_assoc] at hbreak
    have hbody : b = b' ++ cr := List.append_cancel_right hbreak
    rcases hcr with rfl | rfl
    · exact .inl ((List.append_nil b').symm.trans hbody.symm)
    · exact .inr (.inr hbody)

/-- A fence holds the text that was put into it unless the text ends in a carriage return. -/
theorem holds_around_iff (w : Wrapping) (body : Text) :
    Holds (w.around body) body ↔ body.getLast? ≠ some ('\r' : CodePoint) := by
  constructor
  · rintro ⟨o, c, heq, ho, hc, hshort⟩ hlast
    obtain ⟨b, rfl⟩ := List.getLast?_eq_some_iff.1 hlast
    -- Without the carriage return a shorter text is followed by a closing.
    rw [w.around_eq] at heq
    obtain rfl := w.isOpening.unique ho heq
    obtain rfl : w.closing = c := List.append_cancel_left (List.append_cancel_left heq)
    have hle := hshort b ("\r" ++ w.closing) (List.append_assoc ..)
      ⟨"\r", "\n", w.after, rfl, .inr rfl, .inr rfl, w.after_blank⟩
    rw [List.length_append, List.length_singleton] at hle
    omega
  · intro hlast
    refine ⟨w.opening, w.closing, w.around_eq body, w.isOpening, w.isClosing, fun b' c' heq hc' => ?_⟩
    rcases w.cases_of_isClosing heq hc' with rfl | rfl | rfl
    · exact Nat.le_refl _
    · rw [List.length_append]
      exact Nat.le_add_right _ _
    · exact absurd List.getLast?_concat hlast

/-- A text that is put into a fence comes back exactly if it does not end in a carriage return, and a
text in which no fence opens stays as it is. -/
theorem strip_around :
    (∀ (w : Wrapping) (body : Text),
      strip (w.around body) = body ↔ body.getLast? ≠ some ('\r' : CodePoint)) ∧
    ∀ t : Text, ¬("```" : Text) <+: t.dropWhile isBlank → strip t = t := by
  refine ⟨fun w body => ?_, fun t => strip_eq_self⟩
  rw [← holds_around_iff w body]
  constructor
  · intro h
    have hholds := holds_strip (b := body) w.isOpening w.isClosing
    rwa [← w.around_eq, h] at hholds
  · exact strip_eq_of_holds

/-! A text with a fence and an empty line inside, and one with backticks behind other text. -/

/-- A fence with a language tag and with white space around it. -/
def spacedFence : Wrapping where
  before := " \n"
  before_blank := by decide
  tag := "c++"
  tag_sign := by decide
  after := "\n\n"
  after_blank := by decide

/-- A text that ends in a fence of its own. -/
def fencedInside : Text := "a\n\n```\nb\n```\n"

theorem fencedInside_stripped : strip (spacedFence.around fencedInside) = fencedInside ∧
    strip "run ```js\n```" = "run ```js\n```" :=
  ⟨(strip_around.1 spacedFence fencedInside).2 (by decide),
    strip_around.2 "run ```js\n```" (by decide)⟩

end Fence

end Decouple
