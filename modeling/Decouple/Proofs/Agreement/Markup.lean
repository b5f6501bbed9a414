import Decouple.Proofs.Agreement.Code
import Decouple.Proofs.Hosts
import Decouple.Proofs.Letters
import Decouple.Proofs.Separators

/-!
# Markup, as it is analysed and as it is rewritten

Where the analysis of an HTML file reports nothing, the rewrite finds nothing (`markup_settled`).  The
two go about it differently.  The analysis looks for the addresses of the whole text, each without the
punctuation at its end, and for the names and contents of tags; the rewrite looks for the addresses
of each tag and of what a script holds, as they stand.

An angle bracket ends an address.  So a tag, and what stands between two tags, has the addresses that
the text has there (`webAddresses_subset_of_isSetApart`), and none of them is a platform's if none is
without punctuation.
-/

namespace Decouple

open CodePoint (is isIn isNotIn isBlank isIndent)
open Pattern Signature

namespace Signature

variable {s : Settings} {t u a b : Text} {c d : CodePoint} {pat tag : Pattern} {p q : Place}
  {ps qs : Parts}

/-! ## Addresses beside what ends them -/

theorem reads_webAddress : Reads isAddress webAddress := by
  refine reads_sequence ?_
  rw [List.forall_mem_cons, List.forall_mem_cons, List.forall_mem_cons, List.forall_mem_singleton]
  refine ⟨reads_literal (by decide), .alt (.one fun c hc => ?_) .empty, reads_literal (by decide),
    .many fun _ hc => hc⟩
  obtain rfl : c = 's' := by simpa [is] using hc
  decide

/-- The addresses of a text are those before and those behind a code point that ends an address. -/
theorem webAddresses_append (hd : isAddress d = false) (a b : Text) :
    webAddresses (a ++ d :: b) = webAddresses a ++ webAddresses b :=
  texts_append reads_webAddress hd a b

/-- What stands between code points that end an address has the addresses that the text has there. -/
theorem webAddresses_subset (hc : isAddress c = false) (hd : isAddress d = false) (a u b : Text) :
    webAddresses u ⊆ webAddresses (a ++ c :: (u ++ d :: b)) := by
  intro address haddress
  rw [webAddresses_append hc, webAddresses_append hd]
  exact List.mem_append_right _ (List.mem_append_left _ haddress)

/-- A text that starts and ends with code points that end an address. -/
def IsSetApart (u : Text) : Prop :=
  ∃ c inner d, u = c :: (inner ++ [d]) ∧ isAddress c = false ∧ isAddress d = false

theorem IsSetApart.append_left (h : IsSetApart u) (ha : ∀ c ∈ a, isAddress c = false) :
    IsSetApart (a ++ u) := by
  cases a with
  | nil => exact h
  | cons e a =>
    obtain ⟨c, inner, d, rfl, -, hd⟩ := h
    refine ⟨e, a ++ c :: inner, d, ?_, ha e (List.mem_cons_self ..), hd⟩
    simp

theorem IsSetApart.append_right (h : IsSetApart u) (hb : ∀ c ∈ b, isAddress c = false) :
    IsSetApart (u ++ b) := by
  cases b using List.reverseRecOn with
  | nil => rwa [List.append_nil]
  | append_singleton b e =>
    obtain ⟨c, inner, d, rfl, hc, -⟩ := h
    refine ⟨c, inner ++ d :: b, e, ?_, hc, hb e (by simp)⟩
    simp

/-- A part of a text that is set apart has addresses of the text. -/
theorem webAddresses_subset_of_isSetApart (h : IsSetApart u) (a b : Text) :
    webAddresses u ⊆ webAddresses (a ++ u ++ b) := by
  obtain ⟨c, inner, d, rfl, hc, hd⟩ := h
  have halone : webAddresses (c :: (inner ++ [d])) = webAddresses inner := by
    have hsplit := webAddresses_append hc [] (inner ++ [d])
    rw [webAddresses_append hd inner []] at hsplit
    simpa [webAddresses, findAll, segments, segmentsFrom] using hsplit
  have htext : a ++ (c :: (inner ++ [d])) ++ b = a ++ c :: (inner ++ d :: b) := by simp
  rw [halone, htext]
  exact webAddresses_subset hc hd a inner b

/-! ## Addresses without an owner -/

theorem findAddresses_eq_nil : findAddresses s t = [] ↔
    ∀ u ∈ webAddresses t, addressOwner? s (Text.trimEndOf CodePoint.endsSentence u) = none := by
  rw [findAddresses, List.filterMap_eq_nil_iff, webAddresses, List.forall_mem_map]
  simp only [Option.map_eq_none_iff]
  rfl

/-- No platform owns an address of the text, with or without the punctuation at its end. -/
theorem unowned_of_findAddresses (hs : PlainHosts s) (h : findAddresses s t = []) :
    ∀ u ∈ webAddresses t, addressOwner? s u = none := by
  intro u hu
  by_contra howned
  have htrimmed := addressOwner?_trimmed hs hu (Option.isSome_iff_ne_none.2 howned)
  rw [findAddresses_eq_nil.1 h u hu] at htrimmed
  cases htrimmed

/-! ## Tags are set apart -/

theorem isAddress_of_isBlank (h : c.isBlank = true) : isAddress c = false := by
  rw [isAddress, h]
  rfl

theorem isAddress_of_isIndent (h : c.isIndent = true) : isAddress c = false :=
  isAddress_of_isBlank (CodePoint.isBlank_of_isIndent h)

theorem takes_lineEnd (h : Way (choice [lineBreak, textEnd]) p ps q qs) :
    ∃ taken, p.Takes taken q ∧ ∀ c ∈ taken, isAddress c = false := by
  rcases way_alt.1 h with h | h
  · obtain ⟨m, ms, hreturn, hfeed⟩ := way_seq.1 h
    obtain ⟨-, hfeed⟩ := way_is hfeed
    rcases way_alt.1 hreturn with hreturn | hreturn
    · obtain ⟨-, hreturn⟩ := way_is hreturn
      exact ⟨_, hreturn.append hfeed, by decide⟩
    · obtain ⟨rfl, -⟩ := way_empty.1 hreturn
      exact ⟨_, hfeed, by decide⟩
  · cases h
    exact ⟨[], .nil p, List.forall_mem_nil _⟩

/-- A tag stays set apart when it takes its line with it. -/
theorem takes_wholeLineOrInline (htag : ∀ {p ps q qs}, Way tag p ps q qs →
      ∃ u, p.Takes u q ∧ IsSetApart u)
    (h : Way (wholeLineOrInline tag) p ps q qs) : ∃ u, p.Takes u q ∧ IsSetApart u := by
  rcases way_alt.1 h with h | h
  · obtain ⟨p₁, ps₁, hstart, h⟩ := way_seq.1 h
    obtain ⟨p₂, ps₂, hindent, h⟩ := way_seq.1 h
    obtain ⟨p₃, ps₃, hinner, h⟩ := way_seq.1 h
    obtain ⟨p₄, ps₄, hindent', hend⟩ := way_seq.1 h
    cases hstart
    obtain ⟨-, a, ha, hallBefore, -⟩ := way_many hindent
    obtain ⟨u, hu, hapart⟩ := htag hinner
    obtain ⟨-, b, hb, hallBehind, -⟩ := way_many hindent'
    obtain ⟨e, he, hallEnd⟩ := takes_lineEnd hend
    refine ⟨a ++ (u ++ b ++ e), ha.append ((hu.append hb).append he), ?_⟩
    have hwithin := hapart.append_right fun c hc => isAddress_of_isIndent (hallBehind c hc)
    exact (hwithin.append_right hallEnd).append_left fun c hc =>
      isAddress_of_isIndent (hallBefore c hc)
  · exact htag h

/-- What starts with an opening angle bracket, in either case, and takes something more. -/
theorem takes_opening (opening : Text) (hopening : opening.head? = some (CodePoint.ofChar '<'))
    (h : Way (literalAnyCase opening) p ps q qs) :
    qs = ps ∧ ∃ u, p.Takes (CodePoint.ofChar '<' :: u) q := by
  obtain ⟨hparts, taken, htaken, hall⟩ := way_literalAnyCase h
  refine ⟨hparts, ?_⟩
  cases hall with
  | nil => cases hopening
  | cons hfirst _ =>
    obtain rfl := Option.some.inj hopening
    obtain rfl := CodePoint.eq_of_sameLetter hfirst (.inl (by decide))
    exact ⟨_, htaken⟩

/-- A tag is set apart by its angle brackets. -/
theorem takes_tag (opening : Text) (hopening : opening.head? = some (CodePoint.ofChar '<'))
    (middle : List Pattern)
    (h : Way (sequence (literalAnyCase opening :: (middle ++ [one (is '>')]))) p ps q qs) :
    ∃ u, p.Takes u q ∧ IsSetApart u := by
  obtain ⟨m, ms, hopen, hrest⟩ := way_sequence_cons.1 h
  obtain ⟨-, u, hu⟩ := takes_opening _ hopening hopen
  obtain ⟨m', ms', ⟨v, hv⟩, hclose⟩ := way_sequence_concat hrest
  obtain ⟨-, hclosed⟩ := way_is hclose
  refine ⟨_, hu.append (hv.append hclosed), CodePoint.ofChar '<', u ++ v, CodePoint.ofChar '>',
    ?_, by decide, by decide⟩
  simp

theorem isSetApart_of_mem_findAll (htag : ∀ {p ps q qs}, Way tag p ps q qs →
      ∃ u, p.Takes u q ∧ IsSetApart u) {m : Match}
    (hm : m ∈ (wholeLineOrInline tag).findAll t) : IsSetApart m.text := by
  obtain ⟨a, b, -, htaken, hway⟩ := exists_append_of_mem_findAll hm
  obtain ⟨u, hu, hapart⟩ := takes_wholeLineOrInline htag hway
  rwa [← htaken.textTo_eq, hu.textTo_eq]

theorem isSetApart_of_scriptTag {m : Match} (hm : m ∈ scriptTag.findAll t) : IsSetApart m.text :=
  isSetApart_of_mem_findAll (fun h => takes_tag "<script" rfl [wordEdge,
    any (isNotIn ">"), one (is '>'), many anything 0 .lazy, literalAnyCase "</script", blanks] h) hm

theorem isSetApart_of_emptyTag {name : Text} {m : Match} (hm : m ∈ (emptyTag name).findAll t) :
    IsSetApart m.text :=
  isSetApart_of_mem_findAll (fun h => takes_tag ("<" ++ name) rfl [wordEdge,
    any (isNotIn ">")] h) hm

/-- What a script holds stands between angle brackets. -/
theorem exists_append_bodyOf (script : Text) : bodyOf script = [] ∨
    ∃ a b, script = a ++ CodePoint.ofChar '>' :: (bodyOf script ++ CodePoint.ofChar '<' :: b) := by
  unfold bodyOf
  split
  · next m hfind =>
    obtain ⟨a, b, htext, htaken, hway⟩ :=
      exists_append_of_mem_findAll (List.mem_of_head? hfind)
    obtain ⟨p₁, ps₁, hopen, hway⟩ := way_seq.1 hway
    obtain ⟨p₂, ps₂, hedge, hway⟩ := way_seq.1 hway
    obtain ⟨p₃, ps₃, hopening, hway⟩ := way_seq.1 hway
    obtain ⟨p₄, ps₄, hclose, hway⟩ := way_seq.1 hway
    obtain ⟨p₅, ps₅, hbody, hway⟩ := way_seq.1 hway
    obtain ⟨p₆, ps₆, hopen', hway⟩ := way_seq.1 hway
    obtain ⟨p₇, ps₇, hblanks, hclose'⟩ := way_seq.1 hway
    obtain ⟨u, hu⟩ := (hopen.reaches.trans hedge.reaches).trans hopening.reaches
    obtain ⟨-, hclose⟩ := way_is hclose
    obtain ⟨qs, rfl, hbody⟩ := way_part hbody
    obtain ⟨body, hbody⟩ := hbody.reaches
    obtain ⟨rfl, v, hv⟩ := takes_opening "</script" rfl hopen'
    obtain ⟨w, hw⟩ := hblanks.reaches.trans hclose'.reaches
    obtain ⟨rfl, -⟩ := way_many hblanks
    obtain ⟨hparts, -⟩ := way_one hclose'
    have hof : m.textOf .body = body := by
      rw [Match.textOf, Match.part?, hparts, List.lookup_cons_self, Option.map_some,
        Option.getD_some]
      exact hbody.textTo_eq
    have hall := hu.append (hclose.append (hbody.append (hv.append hw)))
    right
    refine ⟨a ++ u, v ++ w ++ b, ?_⟩
    rw [hof, htext, ← htaken.textTo_eq, hall.textTo_eq]
    simp
  · exact .inl rfl

end Signature

namespace Rewrite

variable {s : Settings} {path t : Text}

/-- Tags of which the analysis reports none have no owner. -/
theorem tagOwner?_of_tagSignalsOf {pattern : Pattern} {inspected : Text → Text}
    (h : FileAnalysis.tagSignalsOf s path t pattern inspected = []) {m : Match}
    (hm : m ∈ pattern.findAll t) (hfree : ∀ u ∈ webAddresses m.text, addressOwner? s u = none) :
    tagOwner? s (inspected m.text) = none := by
  have hnone := List.filterMap_eq_nil_iff.1 h m hm
  have hany : ¬((webAddresses m.text).any fun a => (addressOwner? s a).isSome) = true := by
    rw [List.any_eq_true]
    rintro ⟨u, hu, howned⟩
    rw [hfree u hu] at howned
    cases howned
  rw [if_neg hany] at hnone
  exact Option.map_eq_none_iff.1 hnone

/-- An HTML file that shows nothing is settled. -/
theorem ShowsNothing.markup_settled (hs : PlainHosts s) (h : ShowsNothing s path t .entryHtml) :
    MarkupSettled s t := by
  obtain ⟨hscriptsAndLinks, hmetas⟩ := List.append_eq_nil_iff.1 (h.tags rfl)
  obtain ⟨hscripts, hlinks⟩ := List.append_eq_nil_iff.1 hscriptsAndLinks
  have hsubset {pattern : Pattern} {m : Match} (hm : m ∈ pattern.findAll t)
      (hapart : IsSetApart m.text) : webAddresses m.text ⊆ webAddresses t := by
    obtain ⟨a, b, htext, -⟩ := exists_append_of_mem_findAll hm
    have hwithin := webAddresses_subset_of_isSetApart hapart a b
    rwa [← htext] at hwithin
  have hfree {pattern : Pattern} {m : Match} (hm : m ∈ pattern.findAll t)
      (hapart : IsSetApart m.text) : ∀ u ∈ webAddresses m.text, addressOwner? s u = none :=
    fun u hu => unowned_of_findAddresses hs h.addresses u (hsubset hm hapart hu)
  refine
    { scripts := fun m hm => ?_
      links := fun m hm => ?_
      metas := fun m hm => ?_
      traces := h.traceFree }
  · have hapart := isSetApart_of_scriptTag hm
    have hopening := tagOwner?_of_tagSignalsOf hscripts hm (hfree hm hapart)
    have hbody : findAddresses s (bodyOf m.text) = [] := by
      rw [findAddresses_eq_nil]
      rcases exists_append_bodyOf m.text with hnil | ⟨a, b, htext⟩
      · rw [hnil]
        intro u hu
        cases hu
      · intro u hu
        refine findAddresses_eq_nil.1 h.addresses u (hsubset hm hapart ?_)
        rw [htext]
        exact webAddresses_subset (by decide) (by decide) a _ b hu
    rw [scriptOwner?, hopening, hbody]
    rfl
  · exact tagOwner?_of_tagSignalsOf hlinks hm (hfree hm (isSetApart_of_emptyTag hm))
  · exact tagOwner?_of_tagSignalsOf hmetas hm (hfree hm (isSetApart_of_emptyTag hm))

end Rewrite

end Decouple
