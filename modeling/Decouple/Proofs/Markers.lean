import Decouple.Proofs.FileByFile
import Decouple.Proofs.Letters
import Decouple.Proofs.Parts

/-!
# Owners of comment markers

A comment marker is found by a pattern that disregards case, and its platform is looked up by the
lower case of its keyword.  What the pattern finds spells a keyword letter by letter
(`exists_word_of_marker`), but its lower case may be another one, and then the marker has no owner
and the analysis of its file fails.  Where all keywords are ASCII texts, a marker has no owner just
if its keyword holds a long s, an i without a dot or a capital I with one (`hasOwner_iff`).

Beside that only a `package.json` that nests too deep stops an analysis, so
`analyzed_iff_markers_owned` says of which snapshots there is one.
-/

namespace Decouple

open CodePoint (sameLetter strays)

namespace Signature

variable {platforms : List Platform} {t keyword word : Text} {m : Match}

/-! ## Keywords and their owners -/

/-- Whether a platform has a keyword, letter case aside. -/
def HasOwner (platforms : List Platform) (keyword : Text) : Prop :=
  ∃ p ∈ platforms, ∃ word ∈ p.keywords, Text.lowerCase word = Text.lowerCase keyword

theorem mem_keywords : word ∈ keywords platforms ↔
    ∃ p ∈ platforms, ∃ w ∈ p.keywords, Text.lowerCase w = word := by
  rw [keywords, (Sorting.sort_perm _).mem_iff, Text.mem_distinct]
  simp [keywordOwners]

/-- A keyword that is not empty finds a platform exactly if one has it. -/
theorem isOk_keywordOwner (hne : keyword ≠ []) :
    (keywordOwner platforms keyword).isOk = true ↔ HasOwner platforms keyword := by
  have hlookup : (keywordOwners platforms).lookup (Text.lowerCase keyword) = none ↔
      ¬HasOwner platforms keyword := by
    rw [List.lookup_eq_none_iff]
    simp only [keywordOwners, HasOwner, List.mem_flatMap, List.mem_map, forall_exists_index,
      and_imp, bne_iff_ne, ne_eq, not_exists, not_and]
    constructor
    · rintro h p hp w hw hsame
      exact h _ p hp w hw rfl hsame.symm
    · rintro h entry p hp w hw rfl hsame
      exact h p hp w hw hsame.symm
  rw [keywordOwner, if_neg (by simpa using hne)]
  cases hfound : (keywordOwners platforms).lookup (Text.lowerCase keyword) with
  | none =>
    have hnone := hlookup.1 hfound
    simpa [Except.isOk, Except.toBool] using hnone
  | some p =>
    have hsome : HasOwner platforms keyword := by
      by_contra hnot
      rw [hlookup.2 hnot] at hfound
      cases hfound
    simpa [Except.isOk, Except.toBool] using hsome

/-! ## What markers spell -/

/-- The markers of a text, whether they have owners or not. -/
def markersIn (platforms : List Platform) (t : Text) : List Match :=
  (commentMarker (keywords platforms)).findAll t

/-- The only pattern of a keyword in a marker is that of the keywords. -/
theorem eq_of_mem_named_commentMarker {words : List Text} {a : Pattern}
    (h : a ∈ (commentMarker words).named .keyword) :
    a = Pattern.choice (words.map Pattern.literalAnyCase) := by
  have hwords : (Pattern.choice (words.map Pattern.literalAnyCase)).named .keyword = [] := by
    simp [List.flatMap_eq_nil_iff]
  simpa [commentMarker, marked, markerComment, Pattern.named, Pattern.any, Pattern.blanks,
    Pattern.indent, Pattern.lineBreak, Pattern.optional, hwords] using h

/-- The keyword of a marker spells a keyword of a platform, letter by letter. -/
theorem exists_word_of_marker (h : m ∈ markersIn platforms t) :
    ∃ word ∈ keywords platforms,
      List.Forall₂ (fun l c => sameLetter l c = true) word (m.textOf .keyword) := by
  have hnames : (commentMarker (keywords platforms)).names .keyword = true := by
    simp [commentMarker, marked, markerComment, Pattern.names]
  obtain ⟨found, hfound⟩ := Pattern.exists_part?_of_names h hnames
  obtain ⟨htext, a, ha, p, q, ps, qs, -, htakes, hway⟩ := Pattern.exists_named_of_part? h hfound
  rw [eq_of_mem_named_commentMarker ha] at hway
  obtain ⟨b, hb, hway⟩ := Pattern.way_choice hway
  obtain ⟨word, hword, rfl⟩ := List.mem_map.1 hb
  obtain ⟨-, taken, htaken, hspells⟩ := Pattern.way_literalAnyCase hway
  have hsame : taken = m.textOf .keyword := by
    rw [htext, ← htaken.textTo_eq, htakes.textTo_eq]
  exact ⟨word, hword, hsame ▸ hspells⟩

/-- Keywords of which none is empty. -/
def KeywordsNonEmpty (platforms : List Platform) : Prop :=
  ∀ p ∈ platforms, ∀ word ∈ p.keywords, word ≠ []

/-- Keywords that are ASCII texts. -/
def KeywordsAscii (platforms : List Platform) : Prop :=
  ∀ p ∈ platforms, ∀ word ∈ p.keywords, ∀ c ∈ word, c.isAscii = true

instance (platforms : List Platform) : Decidable (KeywordsNonEmpty platforms) :=
  inferInstanceAs (Decidable (∀ p ∈ platforms, ∀ word ∈ p.keywords, word ≠ []))

instance (platforms : List Platform) : Decidable (KeywordsAscii platforms) :=
  inferInstanceAs (Decidable (∀ p ∈ platforms, ∀ word ∈ p.keywords, ∀ c ∈ word,
    c.isAscii = true))

theorem lowerCase_ne_nil (h : word ≠ []) : Text.lowerCase word ≠ [] := by
  obtain ⟨c, rest, rfl⟩ := List.exists_cons_of_ne_nil h
  rw [Text.lowerCase, Text.lowerAfter]
  split_ifs <;> simp

/-- The keyword of a marker is never empty. -/
theorem textOf_keyword_ne_nil (hink : KeywordsNonEmpty platforms) (h : m ∈ markersIn platforms t) :
    m.textOf .keyword ≠ [] := by
  obtain ⟨word, hword, hspells⟩ := exists_word_of_marker h
  obtain ⟨p, hp, w, hw, rfl⟩ := mem_keywords.1 hword
  intro hnil
  rw [hnil, List.forall₂_nil_right_iff] at hspells
  exact lowerCase_ne_nil (hink p hp w hw) hspells

/-- Where keywords are ASCII texts, a marker has an owner unless it is spelled with a stray. -/
theorem hasOwner_iff (hascii : KeywordsAscii platforms) (h : m ∈ markersIn platforms t) :
    HasOwner platforms (m.textOf .keyword) ↔ ∀ c ∈ m.textOf .keyword, c ∉ strays := by
  constructor
  · rintro ⟨p, hp, word, hword, hsame⟩ c hc
    exact Text.not_mem_strays_of_lowerCase_eq (hascii p hp word hword) hsame.symm hc
  · intro hplain
    obtain ⟨word, hword, hspells⟩ := exists_word_of_marker h
    obtain ⟨p, hp, w, hw, rfl⟩ := mem_keywords.1 hword
    exact ⟨p, hp, w, hw, (Text.lowerCase_eq_of_spells (hascii p hp w hw) hspells hplain).symm⟩

end Signature

/-! ## Files and snapshots -/

namespace FileAnalysis

open Signature

variable {s : Settings} {path t : Text} {f : File}

/-- Whether a text can be looked at under a path: the markers of code have owners, and a
`package.json` does not nest too deep. -/
structure CanBeRead (s : Settings) (path t : Text) : Prop where
  markers : FileRole.ofPath path ≠ .manifest → FileRole.ofPath path ≠ .other →
    ∀ m ∈ markersIn s.platforms t, HasOwner s.platforms (m.textOf .keyword)
  depth : FileRole.ofPath path = .manifest →
    Text.lowerCase (fileName path) = ("package.json" : Text) →
      ∀ e, PackageJson.entries t = .error e → e.tooDeep? = none

/-- The markers of a text are found if each of them has an owner. -/
theorem isOk_findMarkers (hink : KeywordsNonEmpty s.platforms) : (findMarkers s t).isOk = true ↔
    ∀ m ∈ markersIn s.platforms t, HasOwner s.platforms (m.textOf .keyword) := by
  rw [findMarkers, Step.isOk_mapM]
  refine forall₂_congr fun m hm => ?_
  rw [← isOk_keywordOwner (textOf_keyword_ne_nil hink hm)]
  cases keywordOwner s.platforms (m.textOf .keyword) <;> rfl

theorem isOk_ofManifest : (ofManifest s path t).isOk = true ↔
    (Text.lowerCase (fileName path) = ("package.json" : Text) →
      ∀ e, PackageJson.entries t = .error e → e.tooDeep? = none) := by
  unfold ofManifest
  split
  · next hname =>
    cases hentries : PackageJson.entries t with
    | ok es => simp [Except.isOk, Except.toBool]
    | error e => cases hdeep : e.tooDeep? <;> simp [hname, hdeep, Except.isOk, Except.toBool]
  · next hname =>
    refine iff_of_true ?_ fun hsame => absurd hsame hname
    split <;> rfl

/-- A text can be looked at exactly if its markers have owners and it does not nest too deep. -/
theorem isOk_ofText (hink : KeywordsNonEmpty s.platforms) :
    (ofText s path t).isOk = true ↔ CanBeRead s path t := by
  have hcode (role : FileRole) : ((ofCode s path t role).mapError FileFault.marker).isOk = true ↔
      ∀ m ∈ markersIn s.platforms t, HasOwner s.platforms (m.textOf .keyword) := by
    rw [← isOk_findMarkers hink, ofCode]
    cases findMarkers s t <;> rfl
  unfold ofText
  split
  · next hrole =>
    rw [isOk_ofManifest]
    exact ⟨fun h => ⟨fun hnot => absurd hrole hnot, fun _ => h⟩, fun h => h.depth hrole⟩
  · next hrole =>
    refine iff_of_true rfl ⟨fun _ hnot => absurd hrole hnot, fun hmanifest => ?_⟩
    rw [hrole] at hmanifest
    cases hmanifest
  · next role hmanifest hother =>
    rw [hcode]
    exact ⟨fun h => ⟨fun _ _ => h, fun hrole => absurd hrole hmanifest⟩,
      fun h => h.markers hmanifest hother⟩

/-- Only a text that no platform owns may fail to be looked at. -/
theorem isOk_ofFile (hink : KeywordsNonEmpty s.platforms) : (ofFile s f).isOk = true ↔
    (s.pathOwner? f.path = none → ∀ t, f.content = .text t → CanBeRead s f.path t) := by
  unfold ofFile
  split
  · next p hp => exact iff_of_true rfl fun hnone => by rw [hp] at hnone; cases hnone
  · next hnone =>
    cases hcontent : f.content with
    | bytes b => exact iff_of_true rfl fun _ t ht => by cases ht
    | text t =>
      rw [isOk_ofText hink]
      refine ⟨fun h _ t' ht' => ?_, fun h => h hnone t rfl⟩
      cases ht'
      exact h

end FileAnalysis

namespace Analysis

open Signature

variable {s : Settings} {snapshot : Snapshot}

/-- Under keywords that are not empty, a snapshot of files under valid paths has an analysis exactly
if, in the texts that no platform owns, all markers of code have owners and no `package.json` nests
too deep.  Where keywords are ASCII texts, a marker has an owner just if none of three letters is in
its keyword. -/
theorem analyzed_iff_markers_owned (hink : KeywordsNonEmpty s.platforms)
    (hpaths : ∀ p ∈ snapshot.paths, validPath p = true) :
    ((∃ a, ofSnapshot s snapshot = .ok a) ↔ ∀ f ∈ snapshot.files, s.pathOwner? f.path = none →
      ∀ t, f.content = .text t → FileAnalysis.CanBeRead s f.path t) ∧
    (KeywordsAscii s.platforms → ∀ t, ∀ m ∈ markersIn s.platforms t,
      (HasOwner s.platforms (m.textOf .keyword) ↔ ∀ c ∈ m.textOf .keyword, c ∉ strays)) := by
  refine ⟨?_, fun hascii t m hm => hasOwner_iff hascii hm⟩
  have hreadable : (∃ a, ofSnapshot s snapshot = .ok a) ↔ ∀ f ∈ snapshot.files, Readable s f :=
    ⟨fun ⟨a, ha⟩ => (ofSnapshot_eq_ok.1 ha).1, fun h => ⟨_, ofSnapshot_eq_ok.2 ⟨h, rfl⟩⟩⟩
  rw [hreadable]
  refine forall₂_congr fun f hf => ?_
  rw [← FileAnalysis.isOk_ofFile hink]
  exact and_iff_right (hpaths f.path (List.mem_map_of_mem hf))

/-- Markers in letters of either case, and a `package.json` that is no object. -/
def shoutedMarkers : Snapshot := Snapshot.ofFiles [
  ⟨"src/a.ts", .text "// @LOVABLE\nexport const a = 1; /* @Cursor */\n"⟩,
  ⟨"package.json", .text "[]"⟩, ⟨"logo.png", .bytes [0x89]⟩]

theorem shoutedMarkers_analyzed :
    ∃ a, ofSnapshot {} shoutedMarkers = .ok a ∧ a.issues.length = 2 := by
  have hink : KeywordsNonEmpty ({} : Settings).platforms := by decide +kernel
  have hascii : KeywordsAscii ({} : Settings).platforms := by decide +kernel
  have hpaths : ∀ p ∈ shoutedMarkers.paths, validPath p = true := by decide +kernel
  have hplain : ∀ f ∈ shoutedMarkers.files, ∀ c ∈ f.content.asText, c ∉ strays := by
    decide +kernel
  have hdepth : ∀ f ∈ shoutedMarkers.files, ∀ e,
      PackageJson.entries f.content.asText = .error e → e.tooDeep? = none := by
    intro f hf e he
    have hall : ∀ f ∈ shoutedMarkers.files, (match PackageJson.entries f.content.asText with
        | .error e => e.tooDeep?.isNone
        | .ok _ => true) = true := by decide +kernel
    have hshallow := hall f hf
    rw [he] at hshallow
    exact Option.isNone_iff_eq_none.1 hshallow
  obtain ⟨hanalyzed, howner⟩ := analyzed_iff_markers_owned hink hpaths
  obtain ⟨a, ha⟩ := hanalyzed.2 fun f hf _ t ht => by
    have htext : t = f.content.asText := by rw [ht]; rfl
    refine ⟨fun _ _ m hm => (howner hascii t m hm).2 fun c hc => ?_, fun _ _ e he => ?_⟩
    · exact hplain f hf c (htext ▸ Pattern.mem_of_mem_textOf hm hc)
    · exact hdepth f hf e (htext ▸ he)
  have hcount : (ofSnapshot {} shoutedMarkers).toOption.map (·.issues.length) = some 2 := by
    decide +kernel
  rw [ha] at hcount
  exact ⟨a, ha, Option.some.inj hcount⟩

/-- A source file with a marker that is spelled with a long s. -/
def longMarker : Snapshot := Snapshot.ofFiles [
  ⟨"a.ts", .text ("// @cur" ++ [CodePoint.ofNat 0x17F] ++ "or\n")⟩]

/-- Not every snapshot of files under valid paths has an analysis: a marker may lack an owner. -/
theorem not_forall_analyzed : ¬∀ (s : Settings) (snapshot : Snapshot),
    KeywordsNonEmpty s.platforms → (∀ p ∈ snapshot.paths, validPath p = true) →
      ∃ a, ofSnapshot s snapshot = .ok a := by
  intro h
  have hink : KeywordsNonEmpty ({} : Settings).platforms := by decide +kernel
  have hpaths : ∀ p ∈ longMarker.paths, validPath p = true := by decide +kernel
  obtain ⟨a, ha⟩ := h {} longMarker hink hpaths
  have hfails : (ofSnapshot {} longMarker).isOk = false := by decide +kernel
  rw [ha] at hfails
  cases hfails

end Analysis

end Decouple
