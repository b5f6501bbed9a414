import Decouple.Proofs.Removal.Comments
import Decouple.Proofs.Removal.Plugins

/-!
# Data attributes in a tag

A tag is its name and then attributes, each with one space before it.  The rewrite of a source file
takes the data attributes of platforms out of a tag and leaves the others as they are, in their order
(`source_tag`).

The search for data attributes meets the attributes one after the other (`exists_cut_attribute`).  It
starts at the space before one, since a match starts with white space, and it is at the space before
the next one when it is done with it, since a match takes all of an attribute or nothing.
-/

namespace Decouple

open CodePoint (is isIn isNotIn isBlank isWord sameLetter)
open Pattern

namespace Signature

variable {t u name : Text} {p q : Place} {ps : Parts} {m : Match}

/-! ## Tags -/

/-- Code points of the name of an attribute. -/
def isAttributeName (c : CodePoint) : Bool := isWord c || c = '-'

/-- What gives an attribute its value. -/
def assigned : Option Text → Text
  | none => []
  | some v => "=\"" ++ (v ++ "\"")

/-- An attribute: its name, and perhaps a value in double quotes.  Only before a value may there be
no name. -/
structure Attribute where
  name : Text
  value? : Option Text := none
  all_name : ∀ c ∈ name, isAttributeName c = true
  all_value : ∀ v ∈ value?, ∀ c ∈ v, isBlank c = false ∧ c ≠ '"' ∧ c ≠ '@'
  written : name ≠ [] ∨ value? ≠ none

namespace Attribute

/-- An attribute as it stands in a tag. -/
def text (a : Attribute) : Text := a.name ++ assigned a.value?

/-- An attribute and the space before it. -/
def spaced (a : Attribute) : Text := " " ++ a.text

end Attribute

/-- A tag: its name, its attributes, and whether a slash at its end closes it. -/
structure Tag where
  name : Text
  attributes : List Attribute
  closesItself : Bool
  all_name : ∀ c ∈ name, isWord c = true

namespace Tag

/-- How a tag starts. -/
def opening (tag : Tag) : Text := "<" ++ tag.name

/-- How a tag ends. -/
def close (tag : Tag) : Text := if tag.closesItself then " />" else ">"

/-- A tag as it stands in a file. -/
def text (tag : Tag) : Text :=
  tag.opening ++ (tag.attributes.flatMap Attribute.spaced ++ tag.close)

end Tag

/-- Whether a name is `data-`, in either case, and more. -/
def isDataName (name : Text) : Bool := (name.take 5).map CodePoint.lower = "data-" && 5 < name.length

theorem isDataName_iff : isDataName name = true ↔ ∃ d e, name = d ++ e ∧
    List.Forall₂ (fun l c => sameLetter l c = true) "data-" d ∧ e ≠ [] := by
  have hlower : ("data-" : Text).map CodePoint.lower = "data-" := by decide
  rw [isDataName, Bool.and_eq_true, decide_eq_true_eq, decide_eq_true_eq]
  constructor
  · rintro ⟨hdata, hlong⟩
    refine ⟨name.take 5, name.drop 5, (List.take_append_drop 5 name).symm,
      Text.spells_of_map_lower (hdata.trans hlower.symm), ?_⟩
    rw [← List.length_pos_iff, List.length_drop]
    omega
  · rintro ⟨d, e, rfl, hspells, hne⟩
    have hlength : d.length = 5 := hspells.length_eq.symm
    have hpos := List.length_pos_iff.2 hne
    refine ⟨?_, by rw [List.length_append]; omega⟩
    -- Nothing but a hyphen and the letters themselves spells `data-`.
    have hstrays : ∀ l ∈ ("data-" : Text), ∀ c ∈ CodePoint.strays, sameLetter l c = false := by
      decide +kernel
    rw [List.take_left' hlength, Text.map_lower_of_spells hspells (by decide), hlower]
    intro c hc hstray
    obtain ⟨l, hl, hsame⟩ := Related.exists_left hspells hc
    rw [hstrays l hl c hstray] at hsame
    cases hsame

theorem isBlank_of_isAttributeName {c : CodePoint} (h : isAttributeName c = true) :
    isBlank c = false := by
  rw [isAttributeName, Bool.or_eq_true, decide_eq_true_eq] at h
  rcases h with h | rfl
  · exact CodePoint.isBlank_of_isWord h
  · decide

namespace Attribute

variable (a : Attribute)

theorem text_ne_nil : a.text ≠ [] := by
  rcases a.written with hname | hvalue
  · simp [text, hname]
  · obtain ⟨v, hv⟩ := Option.ne_none_iff_exists'.1 hvalue
    rw [text, hv]
    exact List.append_ne_nil_of_right_ne_nil _ (List.cons_ne_nil _ _)

/-- An attribute holds neither white space nor an at-sign. -/
theorem of_mem_text {c : CodePoint} (h : c ∈ a.text) : isBlank c = false ∧ c ≠ '@' := by
  rcases List.mem_append.1 h with hname | hvalue
  · refine ⟨isBlank_of_isAttributeName (a.all_name c hname), ?_⟩
    rintro rfl
    exact absurd (a.all_name _ hname) (by decide)
  · cases hv : a.value? with
    | none =>
      rw [hv] at hvalue
      cases hvalue
    | some v =>
      rw [hv] at hvalue
      have hsigns : ∀ c ∈ ("=\"" : Text), isBlank c = false ∧ c ≠ '@' := by decide
      rcases List.mem_append.1 hvalue with hopen | hvalue
      · exact hsigns c hopen
      · rcases List.mem_append.1 hvalue with hmem | hclose
        · exact ⟨(a.all_value v hv c hmem).1, (a.all_value v hv c hmem).2.2⟩
        · exact hsigns c (List.mem_cons_of_mem _ hclose)

end Attribute

namespace Tag

variable {tag : Tag} {c : CodePoint}

/-- The opening of a tag holds neither white space nor an at-sign. -/
theorem of_mem_opening (h : c ∈ tag.opening) : isBlank c = false ∧ c ≠ '@' := by
  rcases List.mem_cons.1 h with rfl | h
  · decide
  · have hword := tag.all_name c h
    refine ⟨CodePoint.isBlank_of_isWord hword, ?_⟩
    rintro rfl
    exact absurd hword (by decide)

/-- The white space of a tag is spaces, and there is no at-sign. -/
theorem of_mem_text (h : c ∈ tag.text) : (isBlank c = true → c = ' ') ∧ c ≠ '@' := by
  have hinked (h : isBlank c = false ∧ c ≠ '@') : (isBlank c = true → c = ' ') ∧ c ≠ '@' :=
    ⟨fun hblank => absurd hblank (by simp [h.1]), h.2⟩
  have hclose : ∀ c ∈ tag.close, (isBlank c = true → c = ' ') ∧ c ≠ '@' := by
    rw [close]
    cases tag.closesItself <;> decide
  rcases List.mem_append.1 h with hopening | h
  · exact hinked (of_mem_opening hopening)
  rcases List.mem_append.1 h with hspaced | hclosing
  · obtain ⟨a, -, hc⟩ := List.mem_flatMap.1 hspaced
    rcases List.mem_cons.1 hc with rfl | hc
    · decide
    · exact hinked (a.of_mem_text hc)
  · exact hclose c hclosing

end Tag

/-! ## The pattern in parts -/

/-- What may come behind an attribute. -/
def endsAttribute (c : CodePoint) : Bool := isBlank c || isIn "/>" c

/-- The name of a data attribute. -/
def dataName : Pattern := sequence [literalAnyCase "data-", many isAttributeName 1 .greedy]

/-- The value of an attribute, in quotes of either kind or in braces. -/
def attributeValue : Pattern :=
  sequence [
    one (is '='),
    choice [
      sequence [one (is '"'), any (isNotIn "\""), one (is '"')],
      sequence [one (is '\''), any (isNotIn "'"), one (is '\'')],
      sequence [one (is '\x7b'), any (isNotIn "\x7d"), one (is '\x7d')]]]

theorem dataAttribute_eq : dataAttribute = sequence [
    notAfter isBlank, gap, part .attribute dataName, optional attributeValue,
    followedBy (one endsAttribute)] := rfl

/-! ## Where there is no data attribute -/

/-- A data attribute is white space and then `data-`, in either case, with more of a name behind it. -/
theorem takes_of_dataAttribute (h : dataAttribute.matchAt? p = some m) :
    ∃ w d e rest, p.rest = w ++ (d ++ (e ++ rest)) ∧ w ≠ [] ∧ (∀ c ∈ w, isBlank c = true) ∧
      List.Forall₂ (fun l c => sameLetter l c = true) "data-" d ∧ e ≠ [] ∧
      ∀ c ∈ e, isAttributeName c = true := by
  obtain ⟨-, hway⟩ := way_of_matchAt? h
  obtain ⟨m₁, ms₁, hnot, hway⟩ := way_sequence_cons.1 hway
  obtain ⟨m₂, ms₂, hgap, hway⟩ := way_sequence_cons.1 hway
  obtain ⟨m₃, ms₃, hname, -⟩ := way_sequence_cons.1 hway
  obtain ⟨qs', -, hname⟩ := way_part hname
  obtain ⟨m₄, ms₄, hdata, hmore⟩ := way_sequence_cons.1 hname
  cases hnot
  obtain ⟨-, w, hw, hblank, hlong⟩ := way_many hgap
  obtain ⟨-, d, hd, hspells⟩ := way_literalAnyCase hdata
  obtain ⟨-, e, he, hall, hmost⟩ := way_many hmore
  refine ⟨w, d, e, m₃.rest, ?_, List.length_pos_iff.1 hlong, hblank, hspells,
    List.length_pos_iff.1 hmost, hall⟩
  rw [hw.1, hd.1, he.1]

/-- At what is no white space there is none. -/
theorem matchAt?_of_ink {c : CodePoint} (hrest : p.rest.head? = some c) (hc : isBlank c = false) :
    dataAttribute.matchAt? p = none := by
  rw [Option.eq_none_iff_forall_ne_some]
  intro m hm
  obtain ⟨w, d, e, rest, hw, hne, hblank, -⟩ := takes_of_dataAttribute hm
  obtain ⟨b, w, rfl⟩ := List.exists_cons_of_ne_nil hne
  rw [hw, List.cons_append, List.head?_cons] at hrest
  rw [← Option.some.inj hrest, hblank b (List.mem_cons_self ..)] at hc
  cases hc

/-- At a single space there is one only if its name comes right behind the space. -/
theorem exists_of_space (hrest : p.rest = CodePoint.ofChar ' ' :: u)
    (hu : ∀ c ∈ u.head?, isBlank c = false) (h : dataAttribute.matchAt? p = some m) :
    ∃ d e rest, u = d ++ (e ++ rest) ∧
      List.Forall₂ (fun l c => sameLetter l c = true) "data-" d ∧ e ≠ [] ∧
      ∀ c ∈ e, isAttributeName c = true := by
  obtain ⟨w, d, e, rest, hw, hne, hblank, hspells, hmore, hall⟩ := takes_of_dataAttribute h
  obtain ⟨b, w, rfl⟩ := List.exists_cons_of_ne_nil hne
  obtain ⟨rfl, hu'⟩ := List.cons.inj (hrest.symm.trans hw)
  cases w with
  | nil => exact ⟨d, e, rest, hu', hspells, hmore, hall⟩
  | cons b' w =>
    have hink := hu b' (by rw [hu']; rfl)
    rw [hblank b' (by simp)] at hink
    cases hink

/-- A name is that of a data attribute if one stands where it starts, and what is behind the name is
part of no name. -/
theorem isDataName_of_append {c : CodePoint} {d e rest : Text}
    (h : name ++ c :: t = d ++ (e ++ rest))
    (hspells : List.Forall₂ (fun l c => sameLetter l c = true) "data-" d) (hne : e ≠ [])
    (hall : ∀ c ∈ e, isAttributeName c = true) (hlow : c.val ≤ 64)
    (hc : isAttributeName c = false) : isDataName name = true := by
  have hbehind : c ∉ d ++ e := by
    intro hmem
    rcases List.mem_append.1 hmem with hmem | hmem
    · obtain ⟨l, hl, hsame⟩ := Related.exists_left hspells hmem
      obtain rfl := CodePoint.eq_of_sameLetter hsame (.inr hlow)
      have hletters : ∀ l ∈ ("data-" : Text), isAttributeName l = true := by decide
      rw [hletters _ hl] at hc
      cases hc
    · rw [hall _ hmem] at hc
      cases hc
  rw [← List.append_assoc, List.append_eq_append_iff] at h
  obtain ⟨k, rfl⟩ : ∃ k, name = d ++ e ++ k := by
    rcases h with ⟨k, hk, hkept⟩ | ⟨k, hk, -⟩
    · cases k with
      | nil => exact ⟨[], by simpa using hk.symm⟩
      | cons c' k =>
        obtain ⟨rfl, -⟩ := List.cons.inj hkept
        exact absurd (by simp [hk]) hbehind
    · exact ⟨k, hk⟩
  exact isDataName_iff.2 ⟨d, e ++ k, List.append_assoc .., hspells, by simp [hne]⟩

/-! ## Behind a name -/

/-- What comes behind an attribute of a tag: the next one, or the end of the tag. -/
def IsBehind (t : Text) : Prop := ∃ c rest, t = c :: rest ∧ (c = ' ' ∨ c = '>')

/-- Behind the name of an attribute a code point comes that is part of no name and is no letter. -/
theorem exists_behind_name (value? : Option Text) (h : IsBehind t) :
    ∃ c rest, assigned value? ++ t = c :: rest ∧ c.val ≤ 64 ∧ isAttributeName c = false := by
  cases value? with
  | none =>
    obtain ⟨c, rest, rfl, hc⟩ := h
    exact ⟨c, rest, rfl, by rcases hc with rfl | rfl <;> decide⟩
  | some v => exact ⟨'=', _, rfl, by decide⟩

/-! ## Where there is one -/

/-- What gives an attribute its value is taken, if there is anything. -/
theorem run_attributeValue {α : Type} {next : Place → Parts → Option α} {found : α}
    (a : Attribute) (htaken : p.Takes (assigned a.value?) q) (hbehind : IsBehind q.rest)
    (hn : next q ps = some found) : (optional attributeValue).run p ps next = some found := by
  cases hvalue? : a.value? with
  | none =>
    rw [hvalue?] at htaken
    obtain rfl := htaken.eq_of_nil
    have hnone : attributeValue.run q ps next = none := by
      obtain ⟨c, rest, hrest, hc⟩ := hbehind
      have hequals : is '=' c = false := by rcases hc with rfl | rfl <;> decide
      rw [attributeValue, run_sequence_cons, run, hrest]
      simp only [hequals, Bool.false_eq_true, if_false]
    exact (run_alt_of_eq_none hnone).trans hn
  | some v =>
    have htext : assigned (some v) = [CodePoint.ofChar '='] ++ ([CodePoint.ofChar '"'] ++
      (v ++ [CodePoint.ofChar '"'])) := rfl
    rw [hvalue?, htext] at htaken
    obtain ⟨p₁, hequals, htaken⟩ := htaken.split
    obtain ⟨p₂, hopen, htaken⟩ := htaken.split
    obtain ⟨p₃, hvalue, hclose⟩ := htaken.split
    have hinner : ∀ c ∈ v, isNotIn "\"" c = true := by
      intro c hc
      have hquote : c ∉ ("\"" : Text) := fun hmem =>
        (a.all_value v hvalue? c hc).2.1 (List.mem_singleton.1 hmem)
      simpa [isNotIn] using hquote
    have hquoted : (sequence [one (is '"'), any (isNotIn "\""), one (is '"')]).run p₁ ps next =
        some found := by
      rw [run_sequence_cons, run_one hopen (by decide), run_sequence_cons]
      refine run_greedy hvalue hinner (Nat.zero_le _) ?_ ?_
      · rw [Place.isBefore, hclose.1]
        rfl
      · exact (run_one hclose (by decide)).trans hn
    refine run_alt_of_eq_some ?_
    rw [attributeValue, run_sequence_cons, run_one hequals (by decide)]
    exact run_alt_of_eq_some hquoted

/-- A data attribute of a tag is a match, with the space before it. -/
theorem exists_match_of_isDataName (a : Attribute) (hdata : isDataName a.name = true)
    (hp : p.isAfter isBlank = false) (htaken : p.Takes a.spaced q) (hbehind : IsBehind q.rest) :
    ∃ m, dataAttribute.matchAt? p = some m ∧ m.stop = q ∧ m.textOf .attribute = a.name := by
  obtain ⟨d, e, hname, hspells, hne⟩ := isDataName_iff.1 hdata
  obtain ⟨p₁, hspace, htaken⟩ := Place.Takes.split (t := [CodePoint.ofChar ' ']) htaken
  obtain ⟨p₃, hnamed, hassigned⟩ := htaken.split
  have hall := a.all_name
  rw [hname] at hnamed hall
  obtain ⟨p₂, hd, he⟩ := hnamed.split
  have hlong : 1 ≤ [CodePoint.ofChar ' '].length := Nat.le_refl 1
  have hink : p₁.isBefore isBlank = false := by
    obtain ⟨c, d, rfl⟩ := List.exists_cons_of_ne_nil fun hnil : d = [] => by
      rw [hnil] at hspells
      cases hspells
    rw [Place.isBefore, hd.1]
    exact isBlank_of_isAttributeName (hall c (by simp))
  have hend : p₃.isBefore isAttributeName = false := by
    obtain ⟨c, rest, hrest, -, hc⟩ := exists_behind_name a.value? hbehind
    rw [Place.isBefore, hassigned.1, hrest]
    exact hc
  have hahead : (one endsAttribute).run q [(.attribute, ⟨p₁, p₃⟩)] (fun _ parts => some parts) =
      some [(.attribute, ⟨p₁, p₃⟩)] := by
    obtain ⟨c, rest, hrest, hc⟩ := hbehind
    exact run_one (.after hrest) (by rcases hc with rfl | rfl <;> decide)
  refine ⟨⟨p, q, [(.attribute, ⟨p₁, p₃⟩)]⟩, ?_, rfl, ?_⟩
  · rw [matchAt?, dataAttribute_eq, run_sequence_cons, run_notAfter hp, run_sequence_cons, gap,
      run_whole hspace (by decide) hlong hink, run_sequence_cons, run, dataName,
      run_sequence_cons, run_literalAnyCase hspells hd]
    refine run_greedy he (fun c hc => hall c (List.mem_append_right _ hc))
      (List.length_pos_iff.2 hne) hend ?_
    rw [run_sequence_cons]
    exact run_attributeValue a hassigned hbehind (run_followedBy hahead)
  · rw [hname]
    exact hnamed.textTo_eq

/-! ## The search, attribute by attribute -/

/-- Without white space nothing is found. -/
theorem cut_of_ink (htaken : p.Takes t q) (hink : ∀ c ∈ t, isBlank c = false) :
    dataAttribute.cut p = t.map .kept ++ dataAttribute.cut q := by
  refine cut_of_takes htaken fun r c hc hrest m hm => ?_
  rw [matchAt?_of_ink hrest (hink c hc)] at hm
  cases hm

/-- At a space nothing is found if what is behind it is not named as a data attribute. -/
theorem cut_of_space {c : CodePoint} (htaken : p.Takes (CodePoint.ofChar ' ' :: t) q)
    (hink : ∀ c ∈ t, isBlank c = false) (hne : t ≠ []) (hname : t ++ q.rest = name ++ c :: u)
    (hlow : c.val ≤ 64) (hc : isAttributeName c = false) (hdata : isDataName name = false) :
    dataAttribute.cut p = (CodePoint.ofChar ' ' :: t).map .kept ++ dataAttribute.cut q := by
  obtain ⟨rest, hrest, htaken⟩ := htaken.of_cons
  have hu : rest = t ++ q.rest := htaken.1
  have hnone : ∀ m, dataAttribute.matchAt? p ≠ some m := by
    intro m hm
    have hhead : ∀ c ∈ rest.head?, isBlank c = false := by
      obtain ⟨b, t, rfl⟩ := List.exists_cons_of_ne_nil hne
      rw [hu]
      rintro c ⟨⟩
      exact hink b (List.mem_cons_self ..)
    obtain ⟨d, e, more, hfound, hspells, hlong, hall⟩ := exists_of_space hrest hhead hm
    rw [hu, hname] at hfound
    rw [isDataName_of_append hfound hspells hlong hall hlow hc] at hdata
    cases hdata
  rw [cut_of_none hrest fun m hm => absurd hm (hnone m), cut_of_ink htaken hink]
  rfl

end Signature

namespace Rewrite

variable {s : Settings} {p q : Place}

open Signature

/-- Whether an attribute is taken out of its tag. -/
def isStripped (s : Settings) (a : Attribute) : Bool :=
  isDataName a.name && (s.attributeOwner? a.name).isSome

/-- A data attribute that is taken out, with the name that is noted. -/
def stripped? (s : Settings) (m : Match) : Option (Text × Text) :=
  (attributeMatchOwner? s m).map fun _ => ([], m.textOf .attribute)

/-- The search goes over an attribute, and the edit takes it out or leaves it. -/
theorem exists_cut_attribute (a : Attribute) (hp : p.isAfter isBlank = false)
    (htaken : p.Takes a.spaced q) (hbehind : IsBehind q.rest) :
    ∃ segments, dataAttribute.cut p = segments ++ dataAttribute.cut q ∧
      edited (stripped? s) segments = if isStripped s a then ([], [a.name]) else (a.spaced, []) := by
  cases hdata : isDataName a.name with
  | true =>
    obtain ⟨m, hm, rfl, hname⟩ := exists_match_of_isDataName a hdata hp htaken hbehind
    have hadvanced : p.offset < m.stop.offset := by
      rw [htaken.2.1, Attribute.spaced, List.length_append]
      exact Nat.lt_add_of_pos_right (Nat.add_pos_left Nat.one_pos _)
    refine ⟨[.found m], cut_of_match hm hadvanced, ?_⟩
    rw [isStripped, hdata, Bool.true_and]
    cases howner : s.attributeOwner? a.name with
    | none =>
      have htext : m.text = a.spaced := by
        rw [Match.text, (reaches_of_matchAt? hm).1, htaken.textTo_eq]
      have hkept : stripped? s m = none := by
        rw [stripped?, attributeMatchOwner?, hname, howner]
        rfl
      rw [edited_found_of_none hkept, htext]
      rfl
    | some owner =>
      have hgone : stripped? s m = some ([], a.name) := by
        rw [stripped?, attributeMatchOwner?, hname, howner]
        rfl
      rw [edited_found_of_some hgone]
      rfl
  | false =>
    obtain ⟨c, rest, hend, hlow, hc⟩ := exists_behind_name a.value? hbehind
    have hname : a.text ++ q.rest = a.name ++ c :: rest := by
      rw [Attribute.text, List.append_assoc, hend]
    refine ⟨a.spaced.map .kept, ?_, ?_⟩
    · exact cut_of_space htaken (fun c hc => (a.of_mem_text hc).1) a.text_ne_nil hname hlow hc hdata
    · rw [edited_kept, isStripped, hdata]
      rfl

/-- The search goes over the end of a tag. -/
theorem edited_cut_close (tag : Tag) (hrest : p.rest = tag.close) :
    edited (stripped? s) (dataAttribute.cut p) = (tag.close, []) := by
  obtain ⟨q, htaken, hnil⟩ := Place.exists_takes (u := []) (hrest.trans (List.append_nil _).symm)
  have hcut : dataAttribute.cut p = tag.close.map .kept ++ dataAttribute.cut q := by
    unfold Tag.close at htaken ⊢
    cases htag : tag.closesItself with
    | false =>
      rw [htag] at htaken
      exact cut_of_ink htaken (by decide)
    | true =>
      have hslash : ("/>" : Text) ++ q.rest = [] ++ CodePoint.ofChar '/' :: ">" := by
        rw [hnil]
        rfl
      rw [htag] at htaken
      exact cut_of_space htaken (by decide) (by decide) hslash (by decide) (by decide) (by decide)
  rw [hcut, cut_of_nil hnil, List.append_nil, edited_kept]

/-- The search goes over the attributes of a tag, one after the other. -/
theorem edited_cut_attributes (tag : Tag) {as : List Attribute} (hp : p.isAfter isBlank = false)
    (hrest : p.rest = as.flatMap Attribute.spaced ++ tag.close) :
    edited (stripped? s) (dataAttribute.cut p) =
      ((as.filter fun a => !isStripped s a).flatMap Attribute.spaced ++ tag.close,
        (as.filter (isStripped s)).map Attribute.name) := by
  induction as generalizing p with
  | nil => exact edited_cut_close tag hrest
  | cons a as ih =>
    rw [List.flatMap_cons, List.append_assoc] at hrest
    obtain ⟨q, htaken, hq⟩ := Place.exists_takes hrest
    have hbehind : IsBehind q.rest := by
      rw [hq]
      cases as with
      | nil =>
        rw [List.flatMap_nil, List.nil_append, Tag.close]
        cases tag.closesItself
        · exact ⟨'>', [], rfl, .inr rfl⟩
        · exact ⟨' ', "/>", rfl, .inl rfl⟩
      | cons b as => exact ⟨' ', _, rfl, .inl rfl⟩
    have hafter : q.isAfter isBlank = false := by
      obtain ⟨m, -, htext⟩ := Place.Takes.split (t := [CodePoint.ofChar ' ']) htaken
      exact htext.isAfter_eq a.text_ne_nil fun c hc => (a.of_mem_text hc).1
    obtain ⟨segments, hcut, hedited⟩ := exists_cut_attribute (s := s) a hp htaken hbehind
    rw [hcut, edited_append, hedited, ih hafter hq]
    cases hs : isStripped s a <;> simp [hs]

/-! ## The rewrite of a tag -/

/-- A tag without the attributes that are taken out. -/
def stripped (s : Settings) (tag : Tag) : Tag :=
  { tag with attributes := tag.attributes.filter fun a => !isStripped s a }

/-- What is noted of a tag: each name that is taken out, once. -/
def strippedNotes (s : Settings) (tag : Tag) : List Note :=
  (Text.distinct ((tag.attributes.filter (isStripped s)).map Attribute.name)).map .attributeRemoved

theorem dropAttributes_tag (s : Settings) (tag : Tag) :
    dropAttributes s tag.text = ((stripped s tag).text, strippedNotes s tag) := by
  have hopening : ∀ c ∈ tag.opening, isBlank c = false := fun c hc => (Tag.of_mem_opening hc).1
  obtain ⟨p, htaken, hrest⟩ := Place.exists_takes (p := Place.start tag.text) (t := tag.opening) rfl
  have hafter := htaken.isAfter_eq (List.cons_ne_nil _ _) hopening
  have hcut : dataAttribute.segments tag.text = dataAttribute.cut (Place.start tag.text) := rfl
  have hsearch : dataAttribute.edit (stripped? s) tag.text =
      ((stripped s tag).text, (tag.attributes.filter (isStripped s)).map Attribute.name) := by
    rw [edit_eq_edited, hcut, cut_of_ink htaken hopening, edited_append, edited_kept,
      edited_cut_attributes tag hafter hrest]
    rfl
  change ((dataAttribute.edit (stripped? s) tag.text).1,
    (Text.distinct (dataAttribute.edit (stripped? s) tag.text).2).map Note.attributeRemoved) = _
  rw [hsearch]
  rfl

/-- A tag has no import of a module. -/
theorem fixImports_tag (s : Settings) (tag : Tag) :
    andThen (importStatement.edit (fixImport s) tag.text) (requireStatement.edit (fixImport s)) =
      (tag.text, []) := by
  have hfeed : CodePoint.ofChar '\n' ∉ tag.text := fun hmem =>
    absurd ((Tag.of_mem_text hmem).1 (by decide)) (by decide)
  have himports : importStatement.findAll tag.text = [] := findAll_of_lineStart hfeed rfl
  have hrequires : requireStatement.findAll tag.text = [] := findAll_of_lineStart hfeed rfl
  rw [edit_of_not_chosen (by simp [himports]), andThen_of_silent,
    edit_of_not_chosen (by simp [hrequires])]

/-- A tag has no comment with a marker. -/
theorem dropMarkers_tag (s : Settings) (tag : Tag) : dropMarkers s tag.text = (tag.text, []) := by
  refine (dropMarkers_announced s).eq_of_notes (dropMarkers_notes.2 ?_)
  rw [List.eq_nil_iff_forall_not_mem]
  intro m hm
  obtain ⟨p, ⟨before, hp⟩, hmatch, -⟩ := exists_place_of_mem_findAll hm
  obtain ⟨u, hu, hat⟩ := at_of_commentMarker hmatch
  have hwhole : tag.text = before ++ (u ++ m.stop.rest) := by rw [← hu.1]; exact hp.1
  have hmem : CodePoint.ofChar '@' ∈ tag.text := by simp [hwhole, hat]
  exact (Tag.of_mem_text hmem).2 rfl

/-- The rewrite of a source file takes out of a tag exactly the data attributes of platforms. -/
theorem source_tag (s : Settings) (tag : Tag) :
    source s tag.text = ⟨(stripped s tag).text, strippedNotes s tag⟩ := by
  have hfeed : CodePoint.ofChar '\n' ∉ (stripped s tag).text := fun hmem =>
    absurd ((Tag.of_mem_text hmem).1 (by decide)) (by decide)
  have htraces : dropTraces s tag.text = ((stripped s tag).text, strippedNotes s tag) := by
    rw [dropTraces, dropMarkers_tag, andThen_of_silent, dropAttributes_tag]
  have hedited : source s tag.text = finish tag.text (dropTraces s tag.text) := by
    rw [source, fixImports_tag]
    rfl
  have hsame := dropTraces_announced s tag.text
  rw [htraces] at hedited hsame
  rw [hedited, finish, collapseBlankRuns_of_not_mem hfeed]
  split
  · next hnone =>
    have hnotes : strippedNotes s tag = [] := List.isEmpty_iff.1 hnone
    have htext : (stripped s tag).text = tag.text := hsame hnotes
    rw [hnotes, htext]
  · rfl

example : (source {} "<p data-lov-name=\"A\" class=\"x\" data-lov-name data-lov- />").content =
    "<p class=\"x\" />" := by
  decide +kernel

end Rewrite

end Decouple
