import Decouple.Proofs.Letters
import Decouple.Proofs.Removal.Stretches
import Decouple.Proofs.Rewriting.SecondPass
import Mathlib.Data.List.DropRight

/-!
# The removal of a block comment

A block comment with a marker that is found alone in a settled text is removed alone, and it is found
alone unless something else follows on its line and a later block comment ends one
(`blockComment_removed_iff`).  In that case the code in between is removed too
(`not_forall_blockComment_removed`).

Any other comment with a marker beside it would be one of the settled text: such a comment is there
whatever text stands behind it (`findAll_ne_nil_of_before`) or before it
(`findAll_ne_nil_of_behind`).
-/

namespace Decouple

open CodePoint (is isNotIn isBlank isWord isIndent sameLetter)
open Pattern Signature
open Text (ink)

namespace Signature

variable {words : List Text} {keyword note t u A B C : Text} {p q : Place} {ps qs : Parts}
  {opening closing : Pattern} {m : Match}

/-! ## Marked comments -/

/-- Keywords that are words. -/
def AreWords (words : List Text) : Prop :=
  ∀ word ∈ words, word ≠ [] ∧ ∀ c ∈ word, c.isWord = true

instance (words : List Text) : Decidable (AreWords words) :=
  inferInstanceAs (Decidable (∀ word ∈ words, word ≠ [] ∧ ∀ c ∈ word, c.isWord = true))

/-- A word that spells a keyword. -/
structure IsKeyword (words : List Text) (keyword : Text) : Prop where
  spells : ∃ word ∈ words, List.Forall₂ (fun l c => sameLetter l c = true) word keyword
  isWord : ∀ c ∈ keyword, c.isWord = true

theorem IsKeyword.of_mem (hwords : AreWords words) (h : keyword ∈ words) :
    IsKeyword words keyword where
  spells := ⟨keyword, h, List.forall₂_same.2 fun c _ => by simp [sameLetter]⟩
  isWord := (hwords keyword h).2

/-- What a comment with a marker takes: its opening, the at-sign, a spelled keyword and the rest. -/
theorem takes_markerComment (h : Path (markerComment words opening closing) p ps q qs) :
    ∃ m ms m' m'' k, Path opening p ps m ms ∧ m.Takes [CodePoint.ofChar '@'] m' ∧ m'.Takes k m'' ∧
      (∃ word ∈ words, List.Forall₂ (fun l c => sameLetter l c = true) word k) ∧
      (m''.isAfter isWord != m''.isBefore isWord) = true ∧
      Path closing m'' ((.keyword, ⟨m', m''⟩) :: ms) q qs := by
  obtain ⟨m, ms, hopen, h⟩ := path_sequence_cons.1 h
  obtain ⟨m', ms', hat, h⟩ := path_sequence_cons.1 h
  obtain ⟨m'', ms'', hkeyword, h⟩ := path_sequence_cons.1 h
  obtain ⟨r, rs, hedge, hclose⟩ := path_sequence_cons.1 h
  obtain ⟨rfl, htaken⟩ := path_is hat
  obtain ⟨qs', rfl, hchosen⟩ := way_part hkeyword.way
  obtain ⟨a, ha, hspelled⟩ := way_choice hchosen
  obtain ⟨word, hword, rfl⟩ := List.mem_map.1 ha
  obtain ⟨rfl, k, hk, hspells⟩ := way_literalAnyCase hspelled
  cases hedge with
  | wordEdge hedge =>
    exact ⟨m, _, m', m'', k, hopen, htaken, hk, ⟨word, hword, hspells⟩, hedge, hclose⟩

/-- What spells a keyword that is a word holds no code point below the letters but word ones. -/
theorem not_mem_of_spells (hwords : AreWords words) {word : Text} (hword : word ∈ words)
    (h : List.Forall₂ (fun l c => sameLetter l c = true) word t) {c : CodePoint} (hlow : c.val ≤ 64)
    (hc : c.isWord = false) : c ∉ t := by
  intro hmem
  obtain ⟨l, hl, hsame⟩ := Related.exists_left h hmem
  obtain rfl := CodePoint.eq_of_sameLetter hsame (.inr hlow)
  rw [(hwords word hword).2 l hl] at hc
  cases hc

theorem isPlain_markerComment (words : List Text) (hopening : opening.isPlain = true)
    (hclosing : closing.isPlain = true) : (markerComment words opening closing).isPlain = true := by
  have hwords : (choice (words.map literalAnyCase)).isPlain = true := by
    refine isPlain_choice fun a ha => ?_
    obtain ⟨word, -, rfl⟩ := List.mem_map.1 ha
    exact isPlain_literalAnyCase word
  simp [markerComment, isPlain, Pattern.sequence, hwords, hopening, hclosing]

theorem isPlain_marked (words : List Text) : (marked words).isPlain = true := by
  refine isPlain_choice fun a ha => ?_
  simp only [List.mem_cons, List.not_mem_nil, or_false] at ha
  rcases ha with rfl | rfl | rfl
  all_goals exact isPlain_markerComment words (by decide) (by decide)

theorem isPlain_commentMarker (words : List Text) : (commentMarker words).isPlain = true := by
  simp [commentMarker, isPlain, Pattern.sequence, choice, indent, lineBreak, Pattern.optional,
    isPlain_marked]

/-- A comment with a marker holds the at-sign. -/
theorem at_of_marked (h : Path (marked words) p ps q qs) :
    ∃ t, p.Takes t q ∧ CodePoint.ofChar '@' ∈ t := by
  have hholds {opening closing : Pattern} (h : Path (markerComment words opening closing) p ps q qs) :
      ∃ t, p.Takes t q ∧ CodePoint.ofChar '@' ∈ t := by
    obtain ⟨m, ms, m', m'', k, hopen, hat, hk, -, -, hclose⟩ := takes_markerComment h
    obtain ⟨u, hu⟩ := hopen.way.reaches
    obtain ⟨v, hv⟩ := hclose.way.reaches
    exact ⟨_, (hu.append hat).append (hk.append hv), by simp⟩
  obtain ⟨a, ha, h⟩ := path_choice.1 h
  simp only [List.mem_cons, List.not_mem_nil, or_false] at ha
  rcases ha with rfl | rfl | rfl
  · exact hholds h
  · exact hholds h
  · exact hholds h

/-- A comment with a marker starts and ends like what opens and closes it. -/
theorem ends_of_markerComment (hwords : AreWords words)
    (h : Path (markerComment words opening closing) p ps q qs)
    (hopening : ∀ {p ps q qs}, Path opening p ps q qs →
      ∃ c u, p.Takes (c :: u) q ∧ c.isIndent = false)
    (hclosing : ∀ {p ps q qs}, Path closing p ps q qs →
      ∃ u, p.Takes u q ∧ u.getLast?.any (is '\n') = false) :
    ∃ t, p.Takes t q ∧ t ≠ [] ∧ p.isBefore isIndent = false ∧
      t.getLast?.any (is '\n') = false := by
  obtain ⟨m, ms, m', m'', k, hopen, hat, hk, ⟨word, hword, hspells⟩, -, hclose⟩ :=
    takes_markerComment h
  obtain ⟨c, u, hu, hc⟩ := hopening hopen
  obtain ⟨v, hv, hlast⟩ := hclosing hclose
  refine ⟨_, (hu.append (hat.append hk)).append hv, by simp, ?_, ?_⟩
  · rw [Place.isBefore, hu.1]
    exact hc
  · have hkeyword : (CodePoint.ofChar '@' :: k).getLast?.any (is '\n') = false := by
      rw [List.getLast?_eq_some_getLast (List.cons_ne_nil _ _), Option.any_some]
      rcases List.mem_cons.1 (List.getLast_mem (List.cons_ne_nil (CodePoint.ofChar '@') k))
        with hat | hmem
      · rw [hat]
        decide
      · simp only [is, decide_eq_false_iff_not]
        intro hfeed
        rw [hfeed] at hmem
        exact not_mem_of_spells hwords hword hspells (by decide) (by decide) hmem
    rw [List.singleton_append, List.getLast?_append, List.getLast?_append]
    cases hlast' : v.getLast? with
    | some d => rwa [hlast'] at hlast
    | none =>
      rw [List.getLast?_eq_some_getLast (List.cons_ne_nil _ _)] at hkeyword ⊢
      exact hkeyword

/-- What opens a comment with a marker is not indented. -/
theorem opens_of_literal {c : CodePoint} {u : Text} {a : Pattern} (hc : c.isIndent = false)
    (h : Path (sequence [literal (c :: u), a]) p ps q qs) :
    ∃ d v, p.Takes (d :: v) q ∧ d.isIndent = false := by
  obtain ⟨m, ms, hliteral, ha⟩ := path_sequence_cons.1 h
  obtain ⟨-, htaken⟩ := way_literal hliteral.way
  obtain ⟨v, hv⟩ := ha.way.reaches
  exact ⟨c, u ++ v, htaken.append hv, hc⟩

/-- What closes a comment after anything is the end of that. -/
theorem closes_of_literal {u : Text} {f : CodePoint → Bool} (hu : u.getLast?.any (is '\n') = false)
    (hne : u ≠ []) (h : Path (sequence [many f 0 .lazy, literal u]) p ps q qs) :
    ∃ v, p.Takes v q ∧ v.getLast?.any (is '\n') = false := by
  obtain ⟨m, ms, hlazy, hliteral⟩ := path_sequence_cons.1 h
  obtain ⟨-, v, hv, -⟩ := path_many hlazy
  obtain ⟨-, htaken⟩ := way_literal hliteral.way
  refine ⟨v ++ u, hv.append htaken, ?_⟩
  rwa [List.getLast?_append, List.getLast?_eq_some_getLast hne, Option.some_or,
    ← List.getLast?_eq_some_getLast hne]

/-- A comment with a marker starts with no space and ends with no line feed. -/
theorem takes_marked (hwords : AreWords words) (h : Path (marked words) p ps q qs) :
    ∃ t, p.Takes t q ∧ t ≠ [] ∧ p.isBefore isIndent = false ∧
      t.getLast?.any (is '\n') = false := by
  obtain ⟨a, ha, h⟩ := path_choice.1 h
  simp only [List.mem_cons, List.not_mem_nil, or_false] at ha
  rcases ha with rfl | rfl | rfl
  · refine ends_of_markerComment hwords h (opens_of_literal (by decide)) fun hline => ?_
    obtain ⟨-, u, hu, hall, -⟩ := path_many hline
    refine ⟨u, hu, ?_⟩
    cases hlast : u.getLast? with
    | none => rfl
    | some c => simpa [isNotIn, is, Text.ofString] using hall c (List.mem_of_getLast? hlast)
  · exact ends_of_markerComment hwords h (opens_of_literal (by decide))
      (closes_of_literal (by decide) (by decide))
  · exact ends_of_markerComment hwords h (opens_of_literal (by decide))
      (closes_of_literal (by decide) (by decide))

/-- A comment with a marker has indentation before it at most, and white space behind it. -/
theorem path_commentMarker (h : Path (commentMarker words) p [] q qs) :
    ∃ i m m' ms e, p.Takes i m ∧ Path (marked words) m [] m' ms ∧ m'.Takes e q := by
  rcases path_alt.1 h with h | h
  · obtain ⟨m₁, ms₁, hline, h⟩ := path_sequence_cons.1 h
    obtain ⟨m₂, ms₂, hindent, h⟩ := path_sequence_cons.1 h
    obtain ⟨m₃, ms₃, hmarked, h⟩ := path_sequence_cons.1 h
    obtain ⟨e, he⟩ := h.way.reaches
    cases hline with
    | lineStart _ =>
      obtain ⟨rfl, i, hi, -⟩ := path_many hindent
      exact ⟨i, m₂, m₃, ms₃, e, hi, hmarked, he⟩
  · obtain ⟨m₁, ms₁, hnot, h⟩ := path_sequence_cons.1 h
    obtain ⟨m₂, ms₂, hindent, h⟩ := path_sequence_cons.1 h
    cases hnot with
    | notAfter _ =>
      obtain ⟨rfl, i, hi, -⟩ := path_many hindent
      exact ⟨i, m₂, q, qs, [], hi, h, .nil q⟩

/-- A match of a comment with a marker holds the at-sign. -/
theorem at_of_commentMarker (h : (commentMarker words).matchAt? p = some m) :
    ∃ t, p.Takes t m.stop ∧ CodePoint.ofChar '@' ∈ t := by
  obtain ⟨-, hpath⟩ := path_of_matchAt? (isPlain_commentMarker words) h
  obtain ⟨i, m₁, m₂, ms, e, hi, hmarked, he⟩ := path_commentMarker hpath
  obtain ⟨t, ht, hat⟩ := at_of_marked hmarked
  exact ⟨_, (hi.append ht).append he, by simp [hat]⟩

/-- Where a comment with a marker stands, a search finds one. -/
theorem findAll_ne_nil_of_marked (hwords : AreWords words) (hp : (Place.start t).Reaches p)
    (h : Path (marked words) p [] q qs) : (commentMarker words).findAll t ≠ [] := by
  obtain ⟨a, ha⟩ := hp
  obtain ⟨-, -, -, hindent, -⟩ := takes_marked hwords h
  -- The search starts before the spaces and tabs in front of the comment.
  obtain ⟨a, i, rfl, hall, hlast⟩ : ∃ b i, a = b ++ i ∧ (∀ c ∈ i, isIndent c = true) ∧
      b.getLast?.any isIndent = false := by
    refine ⟨a.rdropWhile isIndent, a.rtakeWhile isIndent, List.rdropWhile_append_rtakeWhile.symm,
      fun c hc => List.mem_rtakeWhile_imp hc, ?_⟩
    by_cases hne : a.rdropWhile isIndent = []
    · rw [hne]
      rfl
    · rw [List.getLast?_eq_some_getLast hne, Option.any_some]
      simpa using List.rdropWhile_last_not isIndent a hne
  obtain ⟨p₀, hp₀, hi⟩ := ha.split
  have hnot : p₀.isAfter isIndent = false := by
    rw [Place.isAfter, hp₀.2.2]
    simpa [Place.start] using hlast
  have hpath : Path (commentMarker words) p₀ [] q qs :=
    .second (.seq (.notAfter hnot) (.seq (.many hi hall (Nat.zero_le _) fun _ => hindent) h))
  obtain ⟨m, hm⟩ := exists_matchAt? hpath
  obtain ⟨u, hu, hat⟩ := at_of_commentMarker hm
  intro hnil
  have hle := le_of_findAll_eq_nil hnil ⟨_, hp₀⟩ hm
  have hlength := hu.2.1
  have hpos := List.length_pos_of_mem hat
  omega

/-! ## Comments around a text -/

/-- A comment with a marker asks for word code points only. -/
theorem eq_isWord_of_mem_looks {f : CodePoint → Bool} (h : f ∈ (marked words).looks) :
    f = isWord := by
  have hwords : (choice (words.map literalAnyCase)).looks = [] := by
    rw [List.eq_nil_iff_forall_not_mem]
    intro f hf
    obtain ⟨a, ha, hlook⟩ := exists_of_mem_looks_choice hf
    obtain ⟨word, -, rfl⟩ := List.mem_map.1 ha
    rw [looks_literalAnyCase] at hlook
    cases hlook
  simpa [marked, markerComment, looks, Pattern.sequence, choice, any, blanks, indent, literal,
    Text.ofString, hwords] using h

/-- A comment with a marker that ends before another text is there whatever that text is. -/
theorem findAll_ne_nil_of_before (hwords : AreWords words) (hA : A.isWholeLines = true)
    (hm : m ∈ (commentMarker words).findAll (A ++ u)) (hle : m.stop.offset ≤ A.length) (v : Text) :
    (commentMarker words).findAll (A ++ v) ≠ [] := by
  obtain ⟨p, ⟨a, ha⟩, hmatch, -⟩ := exists_place_of_mem_findAll hm
  obtain ⟨-, hpath⟩ := path_of_matchAt? (isPlain_commentMarker words) hmatch
  obtain ⟨i, m₁, m₂, ms, e, hi, hmarked, he⟩ := path_commentMarker hpath
  obtain ⟨t, ht, hne, -, hlast⟩ := takes_marked hwords hmarked
  have htaken := (ha.append hi).append ht
  -- A line feed at least follows before the other text.
  have hwithin : (a ++ i ++ t).length ≤ A.length := by
    have hstop := (htaken.append he).2.1
    rw [List.length_append, Place.start] at hstop
    omega
  obtain ⟨z, rfl, hrest⟩ := Place.exists_within htaken hwithin
  have hz : z ≠ [] := by
    rintro rfl
    rw [List.append_nil] at hA
    have hfeed := Text.getLast?_of_isWholeLines hA hne
    rw [hfeed] at hlast
    cases hlast
  have hassoc (y : Text) : a ++ i ++ t ++ z ++ y = a ++ i ++ (t ++ z ++ y) := by simp
  have hp := ha.append hi
  rw [hassoc] at hp
  obtain ⟨p', hp', -⟩ :=
    Place.exists_takes (p := Place.start (a ++ i ++ (t ++ z ++ v))) (t := a ++ i) rfl
  have hsees : m₂.SeesAlike u v := by
    refine ⟨z, hrest, ?_⟩
    rw [List.head?_append_of_ne_nil _ hz, List.head?_append_of_ne_nil _ hz]
  have halike : Place.Alike (fun _ => True) u v 0 m₁ p' := Place.alike_of_takes hp hp'
  obtain ⟨q', qs', hmarked', -⟩ := hmarked.alike (fun _ _ => trivial) halike .nil hsees
  rw [hassoc]
  exact findAll_ne_nil_of_marked hwords ⟨_, hp'⟩ hmarked'

/-- A comment with a marker behind a text is there behind another one, if no word ends either. -/
theorem findAll_ne_nil_of_behind (hwords : AreWords words) (ht : t.getLast?.any isWord = false)
    (hu : u.getLast?.any isWord = false) (hm : m ∈ (commentMarker words).findAll (t ++ B))
    (hle : t.length ≤ m.offset) : (commentMarker words).findAll (u ++ B) ≠ [] := by
  obtain ⟨p, ⟨a, ha⟩, hmatch, -⟩ := exists_place_of_mem_findAll hm
  obtain ⟨hstart, hpath⟩ := path_of_matchAt? (isPlain_commentMarker words) hmatch
  obtain ⟨i, m₁, m₂, ms, e, hi, hmarked, he⟩ := path_commentMarker hpath
  have hoffset : p.offset = a.length := by
    rw [ha.2.1]
    exact Nat.zero_add _
  rw [Match.offset, hstart, hoffset] at hle
  obtain ⟨b, hb, hrest⟩ := Place.exists_behind (ha.append hi) (by rw [List.length_append]; omega)
  obtain ⟨w, hw⟩ : ∃ w, m₁.rest = w := ⟨_, rfl⟩
  rw [hw] at hrest
  subst hrest
  have hp := ha.append hi
  rw [hb] at hp
  obtain ⟨p', hp', -⟩ := Place.exists_takes (p := Place.start _) (List.append_assoc u b w).symm
  have halike : Place.Alike (· = isWord) [] [] (u.length - t.length) m₁ p' :=
    Place.alike_behind (fun f hf => hf ▸ ht) (fun f hf => hf ▸ hu) hp hp'
  obtain ⟨q', qs', hmarked', -⟩ := hmarked.alike (fun f hf => eq_isWord_of_mem_looks hf) halike .nil
    (Place.seesAlike_nil m₂)
  exact findAll_ne_nil_of_marked hwords ⟨_, hp'⟩ hmarked'

/-! ## Block comments -/

/-- A block comment that starts with a marker, and goes on with a note. -/
def blockComment (keyword note : Text) : Text := "/* @" ++ keyword ++ " " ++ note ++ " */"

/-- What closes a block comment. -/
def ClosesBlock (t : Text) : Prop := t = "*/"

theorem closings_block : Closings '*' ClosesBlock where
  starts := by
    rintro c rfl
    exact ⟨"/", rfl, by decide⟩
  unique := by
    rintro c d u v rfl rfl -
    rfl

/-- A note without an end of a block comment does not close one. -/
theorem closesFirst_block (hnote : ¬("*/" : Text) <:+: note) (t : Text) :
    ClosesFirst ClosesBlock (" " ++ note ++ " ") "*/" t where
  closed := rfl
  first := by
    rintro v c u rfl hsame
    by_contra hlt
    rw [List.length_append, List.length_append] at hlt
    -- The end would start at the space before the note, within the note or right behind it.
    cases v with
    | nil => cases hsame
    | cons d v =>
      have hsame : note ++ (" " ++ ("*/" ++ t)) = v ++ ("*/" ++ u) := by
        have htail := (List.cons.inj hsame).2
        simpa using htail
      rcases List.append_eq_append_iff.1 hsame with ⟨w, rfl, hw⟩ | ⟨w, rfl, hw⟩
      · cases w with
        | nil => cases hw
        | cons e w =>
          simp [Text.ofString] at hlt
          omega
      · rcases w with _ | ⟨e, _ | ⟨e', w⟩⟩
        · cases hw
        · cases hw
        · have hend : "*/" ++ w = e :: e' :: w := by
            have hstar := (List.cons.inj hw).1
            have hslash := (List.cons.inj (List.cons.inj hw).2).1
            exact congrArg₂ (fun a b => a :: b :: w) hstar hslash
          exact hnote ⟨v, w, by rw [List.append_assoc, hend]⟩

/-- What opens a marked comment stands where that does. -/
theorem prefix_of_markerComment {a : Pattern}
    (h : Path (markerComment words (sequence [literal u, a]) closing) p ps q qs) : u <+: p.rest := by
  obtain ⟨m, ms, m', m'', k, hopen, -⟩ := takes_markerComment h
  obtain ⟨m₁, ms₁, hliteral, -⟩ := path_sequence_cons.1 hopen
  obtain ⟨-, htaken⟩ := way_literal hliteral.way
  exact ⟨_, htaken.1.symm⟩

/-! ### The opening -/

/-- What a block comment with a marker starts with, up to the end of the keyword. -/
def blockOpening (words : List Text) : List Pattern := [
  sequence [literal "/*", blanks], one (is '@'), part .keyword (choice (words.map literalAnyCase)),
  wordEdge]

/-- Before a space, what spells a keyword up to the end of a word is the word that stands there. -/
theorem eq_of_spells (hwords : AreWords words) (hkeyword : ∀ c ∈ keyword, c.isWord = true)
    (hrest : p.rest = keyword ++ (" " ++ u)) (ht : p.Takes t q) {word : Text} (hword : word ∈ words)
    (hspells : List.Forall₂ (fun l c => sameLetter l c = true) word t)
    (hedge : (q.isAfter isWord != q.isBefore isWord) = true) : t = keyword := by
  have hsame : t ++ q.rest = keyword ++ (" " ++ u) := ht.1.symm.trans hrest
  rcases List.append_eq_append_iff.1 hsame with ⟨w, rfl, hw⟩ | ⟨w, rfl, hw⟩
  · cases w with
    | nil => rw [List.append_nil]
    | cons c w =>
      -- The word goes on with `c`, so its end would not be here.
      exfalso
      have hne : t ≠ [] := by
        rintro rfl
        exact (hwords word hword).1 (List.forall₂_nil_right_iff.1 hspells)
      have hc := hkeyword c (by simp)
      rw [ht.isAfter_eq hne fun c hc => hkeyword c (List.mem_append_left _ hc),
        Place.isBefore, hw] at hedge
      simp [hc] at hedge
  · cases w with
    | nil => rw [List.append_nil]
    | cons c w =>
      exfalso
      obtain rfl : CodePoint.ofChar ' ' = c := (List.cons.inj hw).1
      exact not_mem_of_spells (c := ' ') hwords hword hspells (by decide) (by decide) (by simp)

/-- The opening of a block comment with a keyword can be taken. -/
theorem exists_path_blockOpening (hwords : AreWords words) (hkeyword : IsKeyword words keyword)
    (hrest : p.rest = "/* @" ++ keyword ++ (" " ++ u)) :
    ∃ m q, p.Takes "/* @" m ∧ m.Takes keyword q ∧
      Path (sequence (blockOpening words)) p [] q [(.keyword, ⟨m, q⟩)] := by
  obtain ⟨word, hword, hspells⟩ := hkeyword.spells
  obtain ⟨p₁, h₁, hrest₁⟩ := Place.exists_takes (p := p) (t := "/*")
    (u := " " ++ ("@" ++ (keyword ++ (" " ++ u)))) (by simpa [Text.ofString] using hrest)
  obtain ⟨p₂, h₂, hrest₂⟩ := Place.exists_takes hrest₁
  obtain ⟨m, h₃, hrest₃⟩ := Place.exists_takes hrest₂
  obtain ⟨q, hq, hrest₄⟩ := Place.exists_takes hrest₃
  have hne : keyword ≠ [] := by
    rintro rfl
    exact (hwords word hword).1 (List.forall₂_nil_right_iff.1 hspells)
  have hedge : (q.isAfter isWord != q.isBefore isWord) = true := by
    rw [hq.isAfter_eq hne hkeyword.isWord, Place.isBefore, hrest₄]
    rfl
  have hat : p₂.isBefore isBlank = false := by
    rw [Place.isBefore, hrest₂]
    rfl
  have hstart : Path (sequence [literal "/*", blanks]) p [] p₂ [] :=
    path_sequence_cons.2 ⟨p₁, [], path_literal h₁,
      .many h₂ (by decide) (Nat.zero_le _) fun _ => hat⟩
  have hspelled : Path (choice (words.map literalAnyCase)) m [] q [] :=
    path_choice.2 ⟨_, List.mem_map_of_mem hword, path_literalAnyCase hspells hq⟩
  refine ⟨m, q, by simpa [Text.ofString] using (h₁.append h₂).append h₃, hq, ?_⟩
  exact path_sequence_cons.2 ⟨p₂, [], hstart, path_sequence_cons.2 ⟨m, [],
    path_one_of_takes h₃ (by decide), path_sequence_cons.2 ⟨q, _, .part hspelled, .wordEdge hedge⟩⟩⟩

/-- The opening of a block comment with a keyword can be taken in one way only. -/
theorem blockOpening_unique (hwords : AreWords words) (hkeyword : IsKeyword words keyword)
    (hrest : p.rest = "/* @" ++ keyword ++ (" " ++ u)) {m : Place} (hm : p.Takes "/* @" m)
    (hq : m.Takes keyword q) {r : Place} {rs : Parts}
    (h : Path (sequence (blockOpening words)) p [] r rs) : r = q ∧ rs = [(.keyword, ⟨m, q⟩)] := by
  have hended : Path (sequence (blockOpening words ++ [.empty])) p [] r rs :=
    path_sequence_append.2 ⟨r, rs, h, .empty⟩
  have hcomment : Path (markerComment words (sequence [literal "/*", blanks]) .empty) p [] r rs :=
    hended
  obtain ⟨q₂, qs₂, q₃, q₄, k, hopening, hat, hk, ⟨word, hword, hspells⟩, hedge, hnothing⟩ :=
    takes_markerComment hcomment
  obtain ⟨rfl, rfl⟩ := path_empty.1 hnothing
  obtain ⟨q₁, qs₁, hliteral, hblanks⟩ := path_sequence_cons.1 hopening
  obtain ⟨rfl, hq₁⟩ := way_literal hliteral.way
  obtain ⟨rfl, i, hi, hall, -⟩ := path_many hblanks
  have hall₃ := (hq₁.append hi).append hat
  have hsame := hall₃.1
  rw [hrest] at hsame
  -- The white space before the at-sign is the one space.
  have hblank : i ++ CodePoint.ofChar '@' :: q₃.rest = " " ++ CodePoint.ofChar '@' ::
      (keyword ++ (" " ++ u)) := by
    simpa [Text.ofString] using hsame.symm
  obtain ⟨rfl, -, -⟩ := Text.append_cons_inj hall (by decide) (by decide) (by decide) hblank
  obtain rfl := hall₃.unique hm
  have hkeywordRest : m.rest = keyword ++ (" " ++ u) := by
    have hmore := hm.1
    rw [hrest, List.append_assoc] at hmore
    exact (List.append_cancel_left hmore).symm
  obtain rfl := eq_of_spells hwords hkeyword.isWord hkeywordRest hk hword hspells hedge
  obtain rfl := hk.unique hq
  exact ⟨rfl, rfl⟩

/-- A block comment with a marker opens with a keyword and goes on to the end of a block comment. -/
theorem takesStretches_block (hwords : AreWords words) (hkeyword : IsKeyword words keyword)
    (hrest : p.rest = "/* @" ++ keyword ++ (" " ++ u)) :
    ∃ ms, TakesStretches (marked words) ClosesBlock p ("/* @" ++ keyword) ms := by
  obtain ⟨m, q, hm, hq, hpath⟩ := exists_path_blockOpening hwords hkeyword hrest
  have hplain : (sequence (blockOpening words)).isPlain = true := by
    have hmarked : (markerComment words (sequence [literal "/*", blanks]) .empty).isPlain = true :=
      isPlain_markerComment words (by decide) rfl
    simpa [blockOpening, markerComment, isPlain, Pattern.sequence] using hmarked
  have hcloses {q : Place} {ps : Parts} {r : Place} {rs : Parts} :
      Path (sequence [literal "*/"]) q ps r rs ↔ rs = ps ∧ ∃ c, ClosesBlock c ∧ q.Takes c r := by
    constructor
    · intro h
      obtain ⟨rfl, htaken⟩ := way_literal h.way
      exact ⟨rfl, _, rfl, htaken⟩
    · rintro ⟨rfl, c, rfl, htaken⟩
      exact path_literal htaken
  have hblock := takesStretches hplain (by decide) hpath
    (fun r rs => blockOpening_unique hwords hkeyword hrest hm hq) (hm.append hq) hcloses
  -- Neither of the other comments starts like a block comment.
  have hnone {u' : Text} {a closing : Pattern} (hu' : ¬u' <+: "/* @" ++ keyword ++ (" " ++ u))
      (q : Place) (qs : Parts) :
      ¬Path (markerComment words (sequence [literal u', a]) closing) p [] q qs := fun h =>
    hu' (hrest ▸ prefix_of_markerComment h)
  refine ⟨_, .of_second (isPlain_markerComment words (by decide) (by decide)) (hnone ?_)
    (.of_first (isPlain_markerComment words (by decide) (by decide)) (hnone ?_) hblock)⟩
  · rintro ⟨v, hv⟩
    cases (List.cons.inj (List.cons.inj hv).2).1
  · rintro ⟨v, hv⟩
    cases (List.cons.inj hv).1

/-! ### The comment -/

/-- A comment that starts where a line starts, but is not on that alone, is taken by itself. -/
theorem run_inline {α : Type} (hline : p.before.all (is '\n') = true)
    (hindent : p.isBefore isIndent = false) (next : Place → Parts → Option α) :
    (sequence [notAfter isIndent, indent, marked words]).run p [] next =
      (marked words).run p [] next := by
  have hafter : p.isAfter isIndent = false := by
    cases hbefore : p.before with
    | none => rw [Place.isAfter, hbefore, Option.any_none]
    | some c =>
      rw [hbefore, Option.all_some, is, decide_eq_true_eq] at hline
      rw [Place.isAfter, hbefore, hline]
      decide
  rw [run_sequence_cons, run, hafter]
  exact run_indent hindent fun q qs => (marked words).run q qs next

theorem blockComment_eq (keyword note : Text) :
    blockComment keyword note = "/* @" ++ keyword ++ (" " ++ note ++ " ") ++ "*/" := by
  have hend : (" */" : Text) = " " ++ "*/" := rfl
  rw [blockComment, hend]
  simp only [List.append_assoc]

/-- A block comment with a marker at the start of a line is a stretch that may be taken. -/
theorem standsAt_block (hwords : AreWords words) (hkeyword : IsKeyword words keyword)
    (hnote : ¬("*/" : Text) <:+: note) (hline : p.before.all (is '\n') = true)
    (hrest : p.rest = blockComment keyword note ++ u) :
    StandsAt (marked words) ClosesBlock p (blockComment keyword note) u where
  line := hline
  indent := by
    rw [Place.isBefore, hrest]
    rfl
  rest := hrest
  taken := by
    rw [blockComment_eq, List.append_assoc] at hrest
    have hopens : p.rest = "/* @" ++ keyword ++ (" " ++ (note ++ " " ++ ("*/" ++ u))) := by
      rw [hrest]
      simp only [List.append_assoc]
    obtain ⟨ms, hstretch⟩ := takesStretches_block hwords hkeyword hopens
    exact ⟨'*', _, _, _, ms, blockComment_eq keyword note, by decide, closings_block, hstretch,
      closesFirst_block hnote u⟩

end Signature

namespace Rewrite

variable {s : Settings} {path t u A B keyword note : Text} {m : Match}

/-! ## Traces cost ink -/

theorem ink_commentMarker {words : List Text} (h : m ∈ (commentMarker words).findAll t) :
    ink m.text ≠ [] := by
  obtain ⟨p, -, hm, -⟩ := exists_place_of_mem_findAll h
  obtain ⟨u, hu, hat⟩ := at_of_commentMarker hm
  rw [Match.text, (reaches_of_matchAt? hm).1, hu.textTo_eq]
  exact Text.ink_ne_nil hat (by decide)

/-- A data attribute holds the hyphen of its name. -/
theorem ink_dataAttribute (h : m ∈ dataAttribute.findAll t) : ink m.text ≠ [] := by
  obtain ⟨-, -, -, htext, hway⟩ := exists_append_of_mem_findAll h
  obtain ⟨m₁, ms₁, hnot, hway⟩ := way_sequence_cons.1 hway
  obtain ⟨m₂, ms₂, hgap, hway⟩ := way_sequence_cons.1 hway
  obtain ⟨m₃, ms₃, hpart, hway⟩ := way_sequence_cons.1 hway
  obtain ⟨qs', -, hname⟩ := way_part hpart
  obtain ⟨m₄, ms₄, hdata, hmore⟩ := way_sequence_cons.1 hname
  obtain ⟨-, taken, htaken, hspells⟩ := way_literalAnyCase hdata
  obtain ⟨c, hc, hsame⟩ := Related.exists_right hspells (a := '-') (by decide)
  obtain rfl := CodePoint.eq_of_sameLetter hsame (.inl (by decide))
  obtain ⟨u, hu⟩ := hnot.reaches.trans hgap.reaches
  obtain ⟨v, hv⟩ := hmore.reaches.trans hway.reaches
  have hwhole := (hu.append htaken).append hv
  rw [← htext.textTo_eq, hwhole.textTo_eq]
  exact Text.ink_ne_nil (c := '-') (by simp [hc]) (by decide)

theorem dropMarkers_erodes (s : Settings) : Erodes (dropMarkers s) := by
  have hedit : Erodes ((commentMarker (keywords s.platforms)).edit fun _ => some (([] : Text), ())) :=
    edit_erodes (fun m r h => by rw [← Option.some.inj h]) fun t m hm => ink_commentMarker hm
  intro t hn
  refine hedit t fun hnil => hn ?_
  rw [dropMarkers_notes]
  exact (edit_all_notes_eq_nil _).1 hnil

theorem dropAttributes_erodes (s : Settings) : Erodes (dropAttributes s) := by
  intro t hn
  refine edit_erodes (fun m r h => ?_) (fun t m hm => ink_dataAttribute hm) t fun hnil => hn ?_
  · obtain ⟨p, -, rfl⟩ := Option.map_eq_some_iff.1 h
    rfl
  · rw [edit_notes_eq_nil] at hnil
    rw [dropAttributes_notes]
    exact fun m hm => Option.map_eq_none_iff.1 (hnil m hm)

/-! ## A comment in a settled text -/

/-- A stretch of a file is found alone, and the rewrite leaves the text around it up to white
space. -/
structure RemovedAlone (s : Settings) (path : Text) (pat : Pattern) (A stretch B : Text) : Prop where
  found : FoundAlone pat A stretch B
  left : ∃ r, file s path (A ++ (stretch ++ B)) = .ok r ∧ ink r.content = ink (A ++ B)

/-- What a block comment with a marker must be like to be removed alone. -/
structure StandsAlone (s : Settings) (A comment B : Text) : Prop where
  /-- No comment with a marker that starts before it goes on into it. -/
  before : KeepsTo (commentMarker (keywords s.platforms)) A (comment ++ B)
  /-- Nothing follows on its line, or no block comment ends at the end of a later line. -/
  behind : StopsThere ClosesBlock B
  /-- No data attribute of a platform comes about where its line is taken out. -/
  attributes : ∀ rest, B.pastLineEnd? = some rest →
    ∀ m ∈ dataAttribute.findAll (A ++ rest), attributeMatchOwner? s m = none

section Comment

variable (hwords : AreWords (keywords s.platforms))
  (hkeyword : IsKeyword (keywords s.platforms) keyword) (hnote : ¬("*/" : Text) <:+: note)
  (hA : A.isWholeLines = true)

include hwords hkeyword hnote hA

/-- A block comment with a marker is found alone exactly if nothing before it goes on into it and it
stops where it ends. -/
theorem block_foundAlone_iff :
    FoundAlone (commentMarker (keywords s.platforms)) A (blockComment keyword note) B ↔
      KeepsTo (commentMarker (keywords s.platforms)) A (blockComment keyword note ++ B) ∧
        StopsThere ClosesBlock B := by
  obtain ⟨p, hp, hrest⟩ := Place.exists_takes
    (p := Place.start (A ++ (blockComment keyword note ++ B))) (t := A) rfl
  have hline := Place.lineStart_of_takes hA hp
  have hstands := standsAt_block hwords hkeyword hnote hline hrest
  exact hstands.foundAlone_iff (run_inline hline hstands.indent) hp (List.cons_ne_nil _ _)

omit hkeyword hnote in
/-- Any other comment with a marker would be one of the text around the comment. -/
theorem eq_of_mem_findAll_of_clean {e : Text}
    (hkeeps : KeepsTo (commentMarker (keywords s.platforms)) A (blockComment keyword note ++ B))
    (hclean : (commentMarker (keywords s.platforms)).findAll (A ++ B) = [])
    (hm : m ∈ (commentMarker (keywords s.platforms)).findAll (A ++ (blockComment keyword note ++ B)))
    (hoffset : m.offset = A.length) (htext : m.text = blockComment keyword note ++ e) :
    ∀ m' ∈ (commentMarker (keywords s.platforms)).findAll (A ++ (blockComment keyword note ++ B)),
      m' = m := by
  have hslash : (A ++ blockComment keyword note).getLast?.any isWord = false := by
    rw [blockComment, List.getLast?_append, List.getLast?_append]
    rfl
  have hstop : m.stop.offset = A.length + (blockComment keyword note ++ e).length := by
    obtain ⟨-, -, -, htaken, -⟩ := exists_append_of_mem_findAll hm
    rw [htaken.2.1, ← htext, ← hoffset]
    rfl
  rw [List.length_append] at hstop
  intro m' hm'
  rcases Nat.lt_or_ge m'.offset A.length with hlt | hge
  · exact absurd hclean (findAll_ne_nil_of_before hwords hA hm' (hkeeps m' hm' hlt) B)
  · rcases Nat.lt_or_ge m'.offset m.stop.offset with hlt | hbehind
    · exact (eq_of_mem_findAll hm' hm (by omega) hlt).symm
    · rw [← List.append_assoc] at hm'
      refine absurd hclean (findAll_ne_nil_of_behind hwords hslash
        (Text.any_getLast?_of_isWholeLines hA (by decide)) hm' ?_)
      rw [List.length_append]
      omega

/-- To drop the markers of a settled text takes out a comment that is found alone in it. -/
theorem dropMarkers_of_foundAlone
    (hfound : FoundAlone (commentMarker (keywords s.platforms)) A (blockComment keyword note) B)
    (hclean : (commentMarker (keywords s.platforms)).findAll (A ++ B) = []) :
    dropMarkers s (A ++ (blockComment keyword note ++ B)) =
      (A ++ B.pastLine, [.markersRemoved 1]) ∧ ink B.pastLine = ink B := by
  obtain ⟨p, hp, hrest⟩ := Place.exists_takes
    (p := Place.start (A ++ (blockComment keyword note ++ B))) (t := A) rfl
  have hline := Place.lineStart_of_takes hA hp
  have hstands := standsAt_block hwords hkeyword hnote hline hrest
  obtain ⟨hkeeps, -⟩ := (block_foundAlone_iff hwords hkeyword hnote hA).1 hfound
  obtain ⟨m, hm, hoffset, e, htext, hB, he⟩ :=
    hstands.exists_of_foundAlone (run_inline hline hstands.indent) hp hfound
  have honly := eq_of_mem_findAll_of_clean hwords hA hkeeps hclean hm hoffset htext
  have hedit : (commentMarker (keywords s.platforms)).edit (fun _ => some (([] : Text), ()))
      (A ++ (blockComment keyword note ++ B)) = (A ++ B.pastLine, [()]) :=
    edit_of_stretch hm hoffset htext hB rfl fun m' hm' hne => absurd (honly m' hm') hne
  refine ⟨by simp [dropMarkers, hedit], ?_⟩
  conv_rhs => rw [hB, Text.ink_append, he, List.nil_append]

/-- A block comment with a marker is removed alone from a settled text exactly if nothing before it
goes on into it, it stops where it ends, and no data attribute comes about. -/
theorem blockComment_removed_iff (hrole : FileRole.ofPath path = .source)
    (hclean : file s path (A ++ B) = .ok ⟨A ++ B, []⟩)
    (himports : ImportFree (isPlatformSpecifier s) (A ++ (blockComment keyword note ++ B))) :
    RemovedAlone s path (commentMarker (keywords s.platforms)) A (blockComment keyword note) B ↔
      StandsAlone s A (blockComment keyword note) B := by
  have hsettled : SourceSettled s (A ++ B) := by
    have h := (file_eq_self_iff (by rw [hrole]; decide) (A ++ B)).1 hclean
    rwa [Settled, hrole] at h
  have hedits := (importEdits_announced (fixImport s)).eq_of_notes
    ((importEdits_notes (fixImport_picks s)).2 himports)
  -- A comment that is found alone is dropped, and then the data attributes are looked for.
  have hleft (hfound : FoundAlone (commentMarker (keywords s.platforms)) A
      (blockComment keyword note) B) :
      ink (source s (A ++ (blockComment keyword note ++ B))).content =
          ink (dropAttributes s (A ++ B.pastLine)).1 ∧ ink (A ++ B.pastLine) = ink (A ++ B) := by
    obtain ⟨hdrop, hink⟩ :=
      dropMarkers_of_foundAlone hwords hkeyword hnote hA hfound hsettled.traces.markers
    refine ⟨?_, by rw [Text.ink_append, Text.ink_append, hink]⟩
    simp only [source, hedits]
    simp [dropTraces, andThen, hdrop, finish]
  constructor
  · rintro ⟨hfound, r, hr, hink⟩
    rw [file_of_source hrole, Except.ok.injEq] at hr
    subst hr
    obtain ⟨hcontent, hsame⟩ := hleft hfound
    obtain ⟨hbefore, hbehind⟩ := (block_foundAlone_iff hwords hkeyword hnote hA).1 hfound
    refine ⟨hbefore, hbehind, fun rest hend => ?_⟩
    rw [← Text.pastLine_of_eq_some hend]
    refine dropAttributes_notes.1 ?_
    by_contra hnotes
    -- To drop a data attribute would cost ink of the settled text.
    have hlt := dropAttributes_erodes s (A ++ B.pastLine) hnotes
    rw [← hcontent, hink, hsame] at hlt
    exact absurd hlt (Nat.lt_irrefl _)
  · rintro ⟨hbefore, hbehind, hattributes⟩
    have hfound := (block_foundAlone_iff hwords hkeyword hnote hA).2 ⟨hbefore, hbehind⟩
    obtain ⟨hcontent, hsame⟩ := hleft hfound
    have hnone : ∀ m ∈ dataAttribute.findAll (A ++ B.pastLine), attributeMatchOwner? s m = none := by
      cases hend : B.pastLineEnd? with
      | none =>
        rw [Text.pastLine_of_eq_none hend]
        exact hsettled.traces.attributes
      | some rest =>
        rw [Text.pastLine_of_eq_some hend]
        exact hattributes rest hend
    refine ⟨hfound, _, file_of_source hrole, ?_⟩
    rw [hcontent, (dropAttributes_announced s).eq_of_notes (dropAttributes_notes.2 hnone), hsame]

end Comment

/-! ## Code behind a comment -/

theorem areWords_default : AreWords (keywords ({} : Settings).platforms) := by decide +kernel

theorem someKeyword : IsKeyword (keywords ({} : Settings).platforms) "lovable" :=
  .of_mem areWords_default (by decide +kernel)

/-- A comment before code is removed alone if no other comment follows. -/
theorem blockComment_removed_before_code : RemovedAlone {} somePath
    (commentMarker (keywords ({} : Settings).platforms)) "a();\n" (blockComment "lovable" "x")
    " b();\n" := by
  have hclean : file {} somePath ("a();\n" ++ " b();\n") = .ok ⟨"a();\n" ++ " b();\n", []⟩ :=
    somePath_clean (by decide +kernel)
  have hbehind : StopsThere ClosesBlock " b();\n" := by
    rintro - ⟨b, c, u, rfl, htext, -⟩
    have hmem : CodePoint.ofChar '*' ∈ (" b();\n" : Text) := by
      rw [htext]
      exact List.mem_append_left _ (List.mem_append_right _ (by decide))
    exact absurd hmem (by decide)
  exact (blockComment_removed_iff areWords_default someKeyword (by decide) (by decide) somePath_source
    hclean ⟨by decide +kernel, by decide +kernel⟩).2 ⟨by decide +kernel, hbehind, nofun⟩

/-- Code between a comment with a marker and another comment is removed with the first. -/
theorem not_forall_blockComment_removed : ¬∀ (path A B keyword note : Text) (r : Rewrite),
    FileRole.ofPath path = .source → A.isWholeLines = true →
    file {} path (A ++ B) = .ok ⟨A ++ B, []⟩ →
    IsKeyword (keywords ({} : Settings).platforms) keyword → ¬("*/" : Text) <:+: note →
    file {} path (A ++ (blockComment keyword note ++ B)) = .ok r →
      ink r.content = ink (A ++ B) := by
  intro hall
  have hink := hall somePath [] " run(); /* note */\n" "lovable" "x" _ somePath_source rfl
    (somePath_clean (by decide +kernel)) someKeyword (by decide) (file_of_source somePath_source)
  revert hink
  decide +kernel

end Rewrite

end Decouple
