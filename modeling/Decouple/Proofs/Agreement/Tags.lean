import Decouple.Proofs.Agreement.Markup
import Decouple.Proofs.Removal.Stretches

/-!
# Tags, as they are analysed and as they are rewritten

Both the analysis and the rewrite go by the hosts of the addresses in a link or a piece of metadata.
But the analysis reads an address without the punctuation at its end, as in any text, and the rewrite
reads it as it stands.  So a tag whose address stands at the end of a sentence, or of a part of one,
is reported and stays (`not_forall_reported_removed`).

That is the only difference.  A reported tag is removed unless each address that is reported has a
host that ends in punctuation, and nothing else in the tag names a platform (`reported_removed_iff`).
-/

namespace Decouple

open CodePoint (is isNotIn isIndent)
open Pattern Signature

namespace Signature

variable {s : Settings} {name t : Text} {tag : Pattern} {p q : Place} {ps qs : Parts}

/-! ## A tag and its line are one match -/

/-- A tag without content, without the line it stands on. -/
def bareTag (name : Text) : Pattern :=
  sequence [literalAnyCase ("<" ++ name), wordEdge, any (isNotIn ">"), one (is '>')]

theorem emptyTag_eq (name : Text) : emptyTag name = alt (withLine (bareTag name)) (bareTag name) :=
  rfl

theorem isPlain_bareTag (name : Text) : (bareTag name).isPlain = true := by
  refine isPlain_sequence ?_
  rw [List.forall_mem_cons]
  exact ⟨isPlain_literalAnyCase _, by decide⟩

theorem isPlain_withLine (h : tag.isPlain = true) : (withLine tag).isPlain = true := by
  refine isPlain_sequence ?_
  simp only [List.forall_mem_cons]
  exact ⟨rfl, rfl, h, rfl, rfl, nofun⟩

theorem single_bareTag (name : Text) : IsSingle (bareTag name) := by
  have hclosed : IsSingle (.seq (any (isNotIn ">")) (one (is '>'))) := by
    refine single_until fun c hc => ?_
    obtain rfl : c = '>' := by simpa [is] using hc
    decide
  exact single_seq (single_literalAnyCase _) (single_seq single_wordEdge hclosed)

theorem single_lineEnd : IsSingle lineEnd := by
  intro p ps q qs ps' r rs h h'
  have hrest : some r.rest = some q.rest := (path_lineEnd h').1.symm.trans (path_lineEnd h).1
  exact Place.Reaches.eq_of_rest h.way.reaches h'.way.reaches (Option.some.inj hrest)

theorem single_withLine (h : IsSingle tag) : IsSingle (withLine tag) :=
  single_seq single_lineStart (single_seq (single_whole _ _) (single_seq h single_lineEnd))

/-- A tag takes its opening bracket, no closing bracket for a while, and a closing bracket. -/
theorem takes_bareTag (hname : CodePoint.ofChar '>' ∉ name) (h : Path (bareTag name) p ps q qs) :
    ∃ u, p.Takes (CodePoint.ofChar '<' :: (u ++ [CodePoint.ofChar '>'])) q ∧
      CodePoint.ofChar '>' ∉ u := by
  obtain ⟨m, ms, hopen, h⟩ := path_sequence_cons.1 h
  obtain ⟨m', ms', hedge, h⟩ := path_sequence_cons.1 h
  obtain ⟨m'', ms'', hbody, hclose⟩ := path_sequence_cons.1 h
  obtain ⟨-, opening, htaken, hletters⟩ := way_literalAnyCase hopen.way
  cases hedge
  obtain ⟨-, body, hbody, hinner, -⟩ := path_many hbody
  obtain ⟨-, hclosed⟩ := path_is hclose
  have hopening : ("<" : Text) ++ name = CodePoint.ofChar '<' :: name := rfl
  rw [hopening] at hletters
  cases hletters with
  | @cons _ first _ letters hfirst hletters =>
    obtain rfl := CodePoint.eq_of_sameLetter hfirst (.inl (by decide))
    refine ⟨letters ++ body, by simpa using (htaken.append hbody).append hclosed, fun hmem => ?_⟩
    rcases List.mem_append.1 hmem with hmem | hmem
    · obtain ⟨l, hl, hsame⟩ := Related.exists_left hletters hmem
      obtain rfl := CodePoint.eq_of_sameLetter hsame (.inr (by decide))
      exact hname hl
    · exact absurd (hinner _ hmem) (by decide)

/-- A text that is a tag is one together with its line. -/
theorem exists_path_withLine (hname : CodePoint.ofChar '>' ∉ name)
    (h : (emptyTag name).matchesWhole t = true) :
    ∃ q qs, Path (withLine (bareTag name)) (Place.start t) [] q qs ∧ q.rest = [] := by
  obtain ⟨m, hm⟩ := Option.isSome_iff_exists.1 h
  have hplain : (seq (emptyTag name) textEnd).isPlain = true := by
    rw [emptyTag_eq, isPlain, isPlain, isPlain_bareTag, isPlain_withLine (isPlain_bareTag name)]
    rfl
  obtain ⟨-, hpath⟩ := path_of_matchAt? hplain hm
  obtain ⟨q, qs, htag, hend⟩ := path_seq.1 hpath
  obtain ⟨rfl, hnil⟩ : m.stop = q ∧ q.rest = [] := by
    cases hend with
    | textEnd hnil => exact ⟨rfl, hnil⟩
  rw [emptyTag_eq] at htag
  rcases path_alt.1 htag with hline | hbare
  · exact ⟨_, _, hline, hnil⟩
  · -- A tag alone stands between an indentation of nothing and the end of the text.
    obtain ⟨u, hu, -⟩ := takes_bareTag hname hbare
    have hbefore : (Place.start t).isBefore isIndent = false := by
      rw [Place.isBefore, hu.1]
      rfl
    have hbehind : m.stop.isBefore isIndent = false := by
      rw [Place.isBefore, hnil]
      rfl
    refine ⟨m.stop, qs, .seq (.lineStart rfl) (.seq ?_ (.seq hbare (.seq ?_ (.second
      (.textEnd hnil))))), hnil⟩
    · exact .many (.nil _) (List.forall_mem_nil _) (Nat.zero_le _) fun _ => hbefore
    · exact .many (.nil _) (List.forall_mem_nil _) (Nat.zero_le _) fun _ => hbehind

/-- A tag has one closing bracket. -/
theorem count_of_matchesWhole (hname : CodePoint.ofChar '>' ∉ name)
    (h : (emptyTag name).matchesWhole t = true) : t.count (CodePoint.ofChar '>') = 1 := by
  obtain ⟨q, qs, hpath, hnil⟩ := exists_path_withLine hname h
  obtain ⟨p₁, ps₁, hstart, hpath⟩ := path_seq.1 hpath
  obtain ⟨p₂, ps₂, hindent, hpath⟩ := path_seq.1 hpath
  obtain ⟨p₃, ps₃, hbare, hend⟩ := path_seq.1 hpath
  cases hstart
  obtain ⟨-, i, hi, hall, -⟩ := path_many hindent
  obtain ⟨u, hu, hfree⟩ := takes_bareTag hname hbare
  obtain ⟨-, e, he, hblank⟩ := path_lineEnd hend
  have hbefore : CodePoint.ofChar '>' ∉ i := fun hmem => absurd (hall _ hmem) (by decide)
  have hbehind : CodePoint.ofChar '>' ∉ e := fun hmem => absurd (hblank _ hmem) (by decide)
  have hne : CodePoint.ofChar '<' ≠ CodePoint.ofChar '>' := by decide
  have htext : t = i ++ (CodePoint.ofChar '<' :: (u ++ [CodePoint.ofChar '>']) ++ e) := by
    have hall := ((hi.append hu).append he).1
    rw [hnil, List.append_nil, List.append_assoc] at hall
    exact hall
  rw [htext]
  simp [List.count_append, List.count_eq_zero_of_not_mem, hbefore, hbehind, hfree, hne]

/-- A text that is a tag is found as one, all of it. -/
theorem findAll_of_matchesWhole (hname : CodePoint.ofChar '>' ∉ name)
    (h : (emptyTag name).matchesWhole t = true) :
    ∃ m, (emptyTag name).findAll t = [m] ∧ m.text = t := by
  obtain ⟨q, qs, hpath, hnil⟩ := exists_path_withLine hname h
  obtain ⟨m, hm⟩ := exists_matchAt? hpath
  have hplain := isPlain_withLine (isPlain_bareTag name)
  obtain rfl := single_withLine (single_bareTag name) hpath (path_of_matchAt? hplain hm).2
  have hfound : (emptyTag name).matchAt? (Place.start t) = some m := run_alt_of_eq_some hm
  refine ⟨m, findAll_of_whole hfound ?_ hnil⟩
  rintro rfl
  cases count_of_matchesWhole hname h

/-! ## Scripts hold more than a tag -/

theorem count_le_of_reaches (h : p.Reaches q) (c : CodePoint) : q.rest.count c ≤ p.rest.count c := by
  obtain ⟨taken, hrest, -⟩ := h
  rw [hrest, List.count_append]
  exact Nat.le_add_left _ _

theorem count_of_takes {c : CodePoint} (h : p.Takes [c] q) :
    p.rest.count c = q.rest.count c + 1 := by
  rw [h.1, List.singleton_append, List.count_cons_self]

/-- A text with one closing bracket holds no script. -/
theorem scriptTag_findAll_of_count (h : t.count (CodePoint.ofChar '>') ≤ 1) :
    scriptTag.findAll t = [] := by
  rw [List.eq_nil_iff_forall_not_mem]
  intro m hm
  obtain ⟨p, hp, hmatch, -⟩ := exists_place_of_mem_findAll hm
  obtain ⟨-, hway⟩ := way_of_matchAt? hmatch
  obtain ⟨p₀, ps₀, q, qs, hp₀, hscript⟩ : ∃ p₀ ps₀ q qs, p.Reaches p₀ ∧
      Way (sequence [literalAnyCase "<script", wordEdge, any (isNotIn ">"), one (is '>'),
        many anything 0 .lazy, literalAnyCase "</script", blanks, one (is '>')]) p₀ ps₀ q qs := by
    rcases way_alt.1 hway with hline | hbare
    · obtain ⟨p₁, ps₁, hstart, hline⟩ := way_seq.1 hline
      obtain ⟨p₂, ps₂, hindent, hline⟩ := way_seq.1 hline
      obtain ⟨p₃, ps₃, hbare, -⟩ := way_seq.1 hline
      exact ⟨p₂, ps₂, p₃, ps₃, hstart.reaches.trans hindent.reaches, hbare⟩
    · exact ⟨p, [], _, _, .refl p, hbare⟩
  obtain ⟨p₁, ps₁, hopen, hscript⟩ := way_seq.1 hscript
  obtain ⟨p₂, ps₂, hedge, hscript⟩ := way_seq.1 hscript
  obtain ⟨p₃, ps₃, hopening, hscript⟩ := way_seq.1 hscript
  obtain ⟨p₄, ps₄, hclose, hscript⟩ := way_seq.1 hscript
  obtain ⟨p₅, ps₅, hbody, hscript⟩ := way_seq.1 hscript
  obtain ⟨p₆, ps₆, hopen', hscript⟩ := way_seq.1 hscript
  obtain ⟨p₇, ps₇, hblanks, hclose'⟩ := way_seq.1 hscript
  have hbefore := ((hp.trans hp₀).trans (hopen.reaches.trans hedge.reaches)).trans hopening.reaches
  have hbetween := (hbody.reaches.trans hopen'.reaches).trans hblanks.reaches
  obtain ⟨-, hclosed⟩ := way_is hclose
  obtain ⟨-, hclosed'⟩ := way_is hclose'
  have hmost := count_le_of_reaches hbefore (CodePoint.ofChar '>')
  have hfirst := count_of_takes hclosed
  have hmore := count_le_of_reaches hbetween (CodePoint.ofChar '>')
  have hsecond := count_of_takes hclosed'
  have hall : (Place.start t).rest.count (CodePoint.ofChar '>') ≤ 1 := h
  omega

end Signature

namespace Rewrite

variable {s : Settings} {name t : Text} {note : Text → Note} {p : Platform}

/-! ## Tags that are removed -/

/-- The tags that a rewrite removes, apart from scripts: their names, and what it notes. -/
def removableTags : List (Text × (Text → Note)) :=
  [("link", .linkTagRemoved), ("meta", .metaTagRemoved)]

/-- A rewrite removes a tag of a platform: the rule for tags with its name does, and of a page with
nothing else nothing is left, unless a link within the tag goes first. -/
structure Removes (s : Settings) (name : Text) (note : Text → Note) (tag : Text) (p : Platform) :
    Prop where
  owner : tagOwner? s tag = some p
  rule : (emptyTag name).edit (dropOwned (tagOwner? s) note) tag = ([], [note p.name])
  page : (name = "meta" → ∀ m ∈ linkTag.findAll tag, tagOwner? s m.text = none) →
    markup s tag = ⟨[], [note p.name]⟩

/-- An edit that drops all of a text. -/
theorem edit_of_matchesWhole (hname : CodePoint.ofChar '>' ∉ name)
    (h : (emptyTag name).matchesWhole t = true) (howner : tagOwner? s t = some p) :
    (emptyTag name).edit (dropOwned (tagOwner? s) note) t = ([], [note p.name]) := by
  obtain ⟨m, hall, htext⟩ := findAll_of_matchesWhole hname h
  have hm : m ∈ (emptyTag name).findAll t := by
    rw [hall]
    exact List.mem_singleton_self m
  have hpick : dropOwned (tagOwner? s) note m = some ([], note p.name) := by
    rw [dropOwned, htext, howner]
    rfl
  obtain ⟨a, b, hcut, -, hedit⟩ := edit_of_only hm hpick fun m' hm' hne => by
    rw [hall] at hm'
    exact absurd (List.mem_singleton.1 hm') hne
  rw [htext, List.append_assoc] at hcut
  obtain ⟨rfl, rfl⟩ : a = [] ∧ b = [] := by
    have hlength := congrArg List.length hcut
    simp only [List.length_append] at hlength
    exact ⟨List.length_eq_zero_iff.1 (by omega), List.length_eq_zero_iff.1 (by omega)⟩
  exact hedit

/-- A tag that names a platform is removed. -/
theorem removes_of_owner (hkind : (name, note) ∈ removableTags)
    (h : (emptyTag name).matchesWhole t = true) (howner : tagOwner? s t = some p) :
    Removes s name note t p := by
  have hname : CodePoint.ofChar '>' ∉ name := by
    rcases List.mem_pair.1 hkind with heq | heq <;> obtain ⟨rfl, -⟩ := Prod.mk.inj heq <;> decide
  have hrule : (emptyTag name).edit (dropOwned (tagOwner? s) note) t = ([], [note p.name]) :=
    edit_of_matchesWhole hname h howner
  refine ⟨howner, hrule, fun hlinks => ?_⟩
  have hscripts : scriptTag.edit (dropOwned (scriptOwner? s) .scriptTagRemoved) t = (t, []) := by
    refine edit_of_not_chosen fun m hm => ?_
    rw [scriptTag_findAll_of_count (Nat.le_of_eq (count_of_matchesWhole hname h))] at hm
    cases hm
  rw [markup, hscripts, andThen_of_silent]
  rcases List.mem_pair.1 hkind with heq | heq
  · obtain ⟨rfl, rfl⟩ := Prod.mk.inj heq
    rw [linkTag, hrule, andThen_of_nil (edit_nil _ _), andThen_of_nil (dropTraces_nil s)]
    rfl
  · obtain ⟨rfl, rfl⟩ := Prod.mk.inj heq
    have hkept : linkTag.edit (dropOwned (tagOwner? s) .linkTagRemoved) t = (t, []) :=
      edit_of_not_chosen fun m hm => dropOwned_eq_none.2 (hlinks rfl m hm)
    rw [hkept, andThen_of_silent, metaTag, hrule, andThen_of_nil (dropTraces_nil s)]
    rfl

/-! ## Tags that are overlooked -/

/-- A tag is reported, but stays: each address that is reported has a host that ends in punctuation,
and none of these is owned as it stands; and neither a name nor a content in the tag names a
platform. -/
structure IsOverlooked (s : Settings) (tag : Text) : Prop where
  reported : findAddresses s tag ≠ []
  punctuated : ∀ u ∈ webAddresses tag,
    (addressOwner? s (Text.trimEndOf CodePoint.endsSentence u)).isSome = true →
      Url.EndsInPunctuation u
  unowned : ∀ u ∈ webAddresses tag, Url.EndsInPunctuation u → addressOwner? s u = none
  unnamed : ∀ value ∈ namesAndContents tag,
    (valueOwners s.platforms).lookup (Text.lowerCase (Text.trim value)) = none

instance (s : Settings) (tag : Text) : Decidable (IsOverlooked s tag) :=
  decidable_of_iff ((findAddresses s tag).isEmpty = false ∧
      (∀ u ∈ webAddresses tag,
        (addressOwner? s (Text.trimEndOf CodePoint.endsSentence u)).isSome = true →
          Url.EndsInPunctuation u) ∧
      (∀ u ∈ webAddresses tag, Url.EndsInPunctuation u → (addressOwner? s u).isNone = true) ∧
      ∀ value ∈ namesAndContents tag, ((valueOwners s.platforms).lookup
        (Text.lowerCase (Text.trim value))).isNone = true) <| by
    simp only [List.isEmpty_eq_false_iff, Option.isNone_iff_eq_none]
    exact ⟨fun ⟨h₁, h₂, h₃, h₄⟩ => ⟨h₁, h₂, h₃, h₄⟩, fun ⟨h₁, h₂, h₃, h₄⟩ => ⟨h₁, h₂, h₃, h₄⟩⟩

theorem tagOwner?_eq_none : tagOwner? s t = none ↔
    (∀ u ∈ webAddresses t, addressOwner? s u = none) ∧ ∀ value ∈ namesAndContents t,
      (valueOwners s.platforms).lookup (Text.lowerCase (Text.trim value)) = none := by
  rw [tagOwner?, Option.or_eq_none_iff, List.findSome?_eq_none_iff, List.findSome?_eq_none_iff]

/-- A reported tag names no platform exactly if it is overlooked. -/
theorem tagOwner?_of_reported (h : findAddresses s t ≠ []) :
    tagOwner? s t = none ↔ IsOverlooked s t := by
  rw [tagOwner?_eq_none]
  constructor
  · rintro ⟨haddresses, hvalues⟩
    refine ⟨h, fun u hu htrimmed => ?_, fun u hu _ => haddresses u hu, hvalues⟩
    by_contra hends
    have howned := haddresses u hu
    rw [addressOwner?, ← host_trimmed hu hends] at howned
    rw [addressOwner?, howned] at htrimmed
    cases htrimmed
  · rintro ⟨-, hpunctuated, hunowned, hvalues⟩
    refine ⟨fun u hu => ?_, hvalues⟩
    by_cases hends : Url.EndsInPunctuation u
    · exact hunowned u hu hends
    · rw [← Option.not_isSome_iff_eq_none]
      intro howned
      rw [addressOwner?, ← host_trimmed hu hends] at howned
      exact hends (hpunctuated u hu howned)

/-- A link or a piece of metadata of which an address is reported is removed, unless it is
overlooked. -/
theorem reported_removed_iff (hkind : (name, note) ∈ removableTags)
    (htag : (emptyTag name).matchesWhole t = true) :
    (findAddresses s t ≠ [] → ∃ p, Removes s name note t p) ↔ ¬IsOverlooked s t := by
  constructor
  · intro hremoved hoverlooked
    obtain ⟨p, hp⟩ := hremoved hoverlooked.reported
    have hnone := (tagOwner?_of_reported hoverlooked.reported).2 hoverlooked
    rw [hp.owner] at hnone
    cases hnone
  · intro hseen hreported
    cases howner : tagOwner? s t with
    | none => exact absurd ((tagOwner?_of_reported hreported).1 howner) hseen
    | some p => exact ⟨p, removes_of_owner hkind htag howner⟩

/-- A style sheet from a platform. -/
def platformStyle : Text := "<link rel=\"stylesheet\" href=\"https://cdn.gpteng.co/a.css\">"

theorem platformStyle_removed : ∃ p, Removes {} "link" .linkTagRemoved platformStyle p := by
  have htag : (emptyTag "link").matchesWhole platformStyle = true := by decide +kernel
  have hreported : (findAddresses {} platformStyle).isEmpty = false := by decide +kernel
  have hseen : ¬IsOverlooked {} platformStyle := by decide +kernel
  exact (reported_removed_iff (List.mem_cons_self ..) htag).2 hseen
    (List.isEmpty_eq_false_iff.1 hreported)

/-- A description that ends in the address of a platform. -/
def madeWith : Text := "<meta name=\"description\" content=\"Made with https://lovable.dev.\">"

/-- Not every tag of which an address is reported is removed: the address may end a sentence. -/
theorem not_forall_reported_removed : ¬∀ (s : Settings) (name t : Text) (note : Text → Note),
    (name, note) ∈ removableTags → (emptyTag name).matchesWhole t = true →
      findAddresses s t ≠ [] → ∃ p, Removes s name note t p := by
  intro hall
  have htag : (emptyTag "meta").matchesWhole madeWith = true := by decide +kernel
  have hreported : (findAddresses {} madeWith).isEmpty = false := by decide +kernel
  have hnone : (tagOwner? {} madeWith).isNone = true := by decide +kernel
  obtain ⟨p, hp⟩ := hall {} "meta" madeWith .metaTagRemoved
    (List.mem_cons_of_mem _ (List.mem_singleton_self _)) htag (List.isEmpty_eq_false_iff.1 hreported)
  rw [hp.owner] at hnone
  cases hnone

end Rewrite

end Decouple
