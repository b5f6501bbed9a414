import Decouple.Proofs.FileByFile
import Decouple.Proofs.Json.Keys
import Decouple.Proofs.Locations
import Decouple.Proofs.Rewriting.Manifests

/-!
# Lines of declarations

A dependency that a `package.json` declares is the name of a member in one of its sections.  The
name is written there, perhaps with escapes (`exists_declaredAt`).  An issue about the dependency
should say the line of that place.

It says another: the first line of the whole text on which the name is written in double quotes
(`quotedNameLine?_eq_some`).  So it points at a declaration exactly if that is the line of one
(`dependencies_pointed_iff`).  A keyword or a script above the section takes the place of the
declaration, and a name that is only written with escapes has no line.
-/

namespace Decouple

namespace Text

variable {needle t : Text} {n : Nat}

/-- A text stands in another at an offset. -/
def OccursAt (needle t : Text) (n : Nat) : Prop := needle <+: t.drop n

theorem find?_eq_none (h : find? needle t = none) (n : Nat) : ¬OccursAt needle t n := by
  unfold OccursAt
  induction t generalizing n with
  | nil =>
    rw [find?] at h
    split at h
    · cases h
    · next hne =>
      rw [List.drop_nil, List.prefix_nil]
      exact fun hnil => hne (List.isEmpty_iff.2 hnil)
  | cons c t ih =>
    rw [find?] at h
    split at h
    · cases h
    · next hhere =>
      cases n with
      | zero => exact fun hocc => hhere (List.isPrefixOf_iff_prefix.2 hocc)
      | succ n => exact ih (Option.map_eq_none_iff.1 h) n

/-- The offset that is found is that of the first occurrence. -/
theorem find?_eq_some (h : find? needle t = some n) :
    OccursAt needle t n ∧ ∀ k < n, ¬OccursAt needle t k := by
  unfold OccursAt
  induction t generalizing n with
  | nil =>
    rw [find?] at h
    split at h
    · next hempty =>
      cases h
      exact ⟨List.isEmpty_iff.1 hempty ▸ List.nil_prefix, fun k hk => absurd hk (Nat.not_lt_zero k)⟩
    · cases h
  | cons c t ih =>
    rw [find?] at h
    split at h
    · next hhere =>
      cases h
      exact ⟨List.isPrefixOf_iff_prefix.1 hhere, fun k hk => absurd hk (Nat.not_lt_zero k)⟩
    · next hhere =>
      obtain ⟨m, hm, rfl⟩ := Option.map_eq_some_iff.1 h
      refine ⟨(ih hm).1, fun k hk => ?_⟩
      cases k with
      | zero => exact fun hocc => hhere (List.isPrefixOf_iff_prefix.2 hocc)
      | succ k => exact (ih hm).2 k (Nat.lt_of_succ_lt_succ hk)

end Text

namespace PackageJson

variable {t name : Text} {c : CodePoint} {members : List (Text × Json)} {e : ManifestEntry}
  {offset line : Nat}

/-! ## Declarations -/

/-- A dependency is declared at an offset: there the quotes open around the name of a member of a
section, which spells the name of the dependency. -/
structure DeclaredAt (t name : Text) (offset : Nat) : Prop where
  place : ∃ area ∈ dependencySections, Json.NameAt t [area] (t.drop offset)
  spelled : ∃ body rest, t.drop offset = CodePoint.ofChar '"' :: body ∧ Json.Spells body name rest

/-- Each dependency of a `package.json` is declared at an offset of its text. -/
theorem exists_declaredAt (h : read t = .ok members) (he : e ∈ entriesOf members) :
    ∃ offset, DeclaredAt t e.name offset := by
  obtain ⟨area, harea, he⟩ := List.mem_flatMap.1 he
  split at he
  · next deps hdeps =>
    obtain ⟨⟨name, value⟩, hm, rfl⟩ := List.mem_map.1 he
    obtain ⟨body, rest, hat, hspells⟩ :=
      Json.exists_nameAt (Rewrite.read_object h) (Rewrite.mem_of_lookup hdeps) hm
    obtain ⟨before, c, ht, -⟩ := hat.exists_before
    rw [List.append_cons] at ht
    have hdrop : t.drop (before ++ [c]).length = CodePoint.ofChar '"' :: body := by
      rw [ht, List.drop_left]
    exact ⟨_, ⟨area, harea, hdrop ▸ hat⟩, body, rest, hdrop, hspells⟩
  · cases he

/-- Whether a name with some first code point may be declared at an offset, as far as the code
points beside the offset tell. -/
def mayDeclare (t : Text) (first : CodePoint) (offset : Nat) : Bool :=
  (t.take offset).getLast?.any Json.precedesName && (t.drop offset).head? = some '"' &&
    (t.drop (offset + 1)).head?.any fun c => c = first || c = '\\'

theorem DeclaredAt.mayDeclare (h : DeclaredAt t name offset) (hname : name.head? = some c) :
    offset < t.length ∧ mayDeclare t c offset = true := by
  obtain ⟨⟨area, -, hat⟩, body, rest, hdrop, hspells⟩ := h
  obtain ⟨before, d, ht, hd⟩ := hat.exists_before
  obtain ⟨more, hname⟩ := List.head?_eq_some_iff.1 hname
  obtain ⟨first, more, rfl, hfirst⟩ := hspells.head hname
  have hlength : offset < t.length := by
    by_contra hlong
    rw [List.drop_eq_nil_of_le (Nat.not_lt.1 hlong)] at hdrop
    cases hdrop
  have htake : t.take offset = before ++ [d] := by
    have hsplit := List.take_append_drop offset t
    rw [List.append_cons] at ht
    exact List.append_cancel_right (hsplit.trans ht)
  have hbehind : t.drop (offset + 1) = first :: more := by
    rw [← List.drop_drop, hdrop]
    rfl
  refine ⟨hlength, ?_⟩
  rw [PackageJson.mayDeclare, htake, hdrop, hbehind]
  simpa [hd] using hfirst

/-! ## The line of a quoted name -/

/-- A name is written in double quotes on a line, and on none above it. -/
structure FirstWrittenOn (t name : Text) (line : Nat) : Prop where
  written : ∃ n, Text.OccursAt ("\"" ++ name ++ "\"") t n ∧ Text.lineAt t n = line
  first : ∀ n, Text.OccursAt ("\"" ++ name ++ "\"") t n → line ≤ Text.lineAt t n

theorem quotedNameLine?_eq_some :
    FileAnalysis.quotedNameLine? t name = some line ↔ FirstWrittenOn t name line := by
  rw [FileAnalysis.quotedNameLine?]
  constructor
  · intro h
    obtain ⟨n, hn, rfl⟩ := Option.map_eq_some_iff.1 h
    obtain ⟨hocc, hbefore⟩ := Text.find?_eq_some hn
    refine ⟨⟨n, hocc, rfl⟩, fun k hk => Text.lineAt_mono (Nat.not_lt.1 fun hlt => ?_)⟩
    exact hbefore k hlt hk
  · rintro ⟨⟨n, hocc, hline⟩, hfirst⟩
    cases hfound : Text.find? ("\"" ++ name ++ "\"") t with
    | none => exact absurd hocc (Text.find?_eq_none hfound n)
    | some m =>
      obtain ⟨hm, hbefore⟩ := Text.find?_eq_some hfound
      have hle : m ≤ n := Nat.not_lt.1 fun hlt => hbefore n hlt hocc
      have habove : Text.lineAt t m ≤ line := hline ▸ Text.lineAt_mono hle
      exact congrArg some (Nat.le_antisymm habove (hfirst m hm))

/-- A line, if there is one, is that of a declaration. -/
def PointsAtDeclaration (t name : Text) (line : Option Nat) : Prop :=
  ∃ offset, DeclaredAt t name offset ∧ line = some (Text.lineAt t offset)

theorem pointsAtDeclaration_iff :
    PointsAtDeclaration t name (FileAnalysis.quotedNameLine? t name) ↔
      ∃ offset, DeclaredAt t name offset ∧ FirstWrittenOn t name (Text.lineAt t offset) :=
  exists_congr fun _ => and_congr_right fun _ => quotedNameLine?_eq_some

end PackageJson

/-! ## Issues of a `package.json` -/

theorem Issue.exists_of_mem_numberFrom {used : List Text} {signals : List Signal} {i : Issue}
    (h : i ∈ numberFrom used signals) : ∃ id, ∃ g ∈ signals, i = ofSignal id g := by
  induction signals generalizing used with
  | nil => cases h
  | cons g signals ih =>
    rcases List.mem_cons.1 h with rfl | h
    · exact ⟨_, g, List.mem_cons_self .., rfl⟩
    · obtain ⟨id, g', hg', rfl⟩ := ih h
      exact ⟨id, g', List.mem_cons_of_mem _ hg', rfl⟩

open PackageJson (DeclaredAt FirstWrittenOn PointsAtDeclaration)

/-- An issue reports a dependency of a `package.json` that a platform owns and that is declared in
its text. -/
structure Issue.Reports (s : Settings) (t : Text) (e : ManifestEntry) (i : Issue) : Prop where
  entry : ∃ members, PackageJson.read t = .ok members ∧ e ∈ PackageJson.entriesOf members
  owned : ∃ p, s.packageOwner? e.name = some p ∧ i.platform = some p.name
  rule : i.rule = Rule.dependency.name
  suggestion : i.suggestion = some ("Remove " ++ e.name ++ " from " ++ fileName i.path)
  declared : ∃ offset, DeclaredAt t e.name offset

/-- The suggestion says which dependency it is. -/
theorem Issue.Reports.name_eq {s : Settings} {t name : Text} {e : ManifestEntry} {i : Issue}
    (h : i.Reports s t e)
    (hname : i.suggestion = some ("Remove " ++ name ++ " from " ++ fileName i.path)) :
    e.name = name := by
  have hsame := Option.some.inj (h.suggestion.symm.trans hname)
  simpa only [List.append_cancel_right_eq, List.append_cancel_left_eq] using hsame

namespace FileAnalysis

variable {s : Settings} {f : File} {fa : FileAnalysis} {path t : Text} {g : Signal}

theorem line_of_mem_entriesOf {members : List (Text × Json)} {e : ManifestEntry}
    (h : e ∈ PackageJson.entriesOf members) : e.line = none := by
  obtain ⟨area, -, h⟩ := List.mem_flatMap.1 h
  split at h
  · obtain ⟨m, -, rfl⟩ := List.mem_map.1 h
    rfl
  · cases h

/-- What a `package.json` shows are dependencies that a platform owns. -/
theorem exists_entry_of_ofManifest
    (hname : Text.lowerCase (fileName path) = ("package.json" : Text))
    (h : ofManifest s path t = .ok fa) (hg : g ∈ fa.signals) :
    ∃ members e p, PackageJson.read t = .ok members ∧ e ∈ PackageJson.entriesOf members ∧
      s.packageOwner? e.name = some p ∧ g = dependencySignal path t e p := by
  rw [ofManifest, if_pos hname] at h
  cases hread : PackageJson.read t with
  | error error =>
    rw [PackageJson.entries, hread] at h
    dsimp only [Except.map] at h
    cases hdeep : error.tooDeep? with
    | none =>
      rw [hdeep] at h
      cases h
      cases hg
    | some holder =>
      rw [hdeep] at h
      cases h
  | ok members =>
    rw [PackageJson.entries, hread] at h
    cases h
    obtain ⟨e, he, hsignal⟩ := List.mem_filterMap.1 hg
    obtain ⟨p, hp, rfl⟩ := Option.map_eq_some_iff.1 hsignal
    exact ⟨members, e, p, rfl, he, hp, rfl⟩

theorem ofPath_packageJson (h : Text.lowerCase (fileName path) = ("package.json" : Text)) :
    FileRole.ofPath path = .manifest := by
  rw [FileRole.ofPath, if_pos (by simp [h])]

/-- A file that shows something is a text, and what a manifest shows is what its text does. -/
theorem exists_text_of_ofFile (hname : Text.lowerCase (fileName f.path) = ("package.json" : Text))
    (h : ofFile s f = .ok fa) (hg : g ∈ fa.signals) :
    ∃ t, f.content = .text t ∧ ofManifest s f.path t = .ok fa := by
  rw [ofFile] at h
  split at h
  · cases h
    cases hg
  · split at h
    · cases h
      cases hg
    · next t ht =>
      rw [ofText, ofPath_packageJson hname] at h
      exact ⟨t, ht, h⟩

end FileAnalysis

namespace Analysis

variable {s : Settings} {snapshot : Snapshot} {a : Analysis} {i : Issue}

/-- Each issue of a `package.json` reports a dependency that is declared there.  It points at a
declaration exactly if one stands on the first line on which the name is written in quotes. -/
theorem dependencies_pointed_iff (h : ofSnapshot s snapshot = .ok a) (hi : i ∈ a.issues)
    (hname : Text.lowerCase (fileName i.path) = ("package.json" : Text)) :
    ∃ t e, ⟨i.path, .text t⟩ ∈ snapshot.files ∧ i.Reports s t e ∧
      (PointsAtDeclaration t e.name i.line ↔
        ∃ offset, DeclaredAt t e.name offset ∧ FirstWrittenOn t e.name (Text.lineAt t offset)) := by
  obtain ⟨hreadable, rfl⟩ := ofSnapshot_eq_ok.1 h
  obtain ⟨id, g, hg, rfl⟩ := Issue.exists_of_mem_numberFrom hi
  obtain ⟨⟨path, fa⟩, hshown, hg⟩ := List.mem_flatMap.1 hg
  obtain ⟨f, hf, hfa⟩ := List.mem_map.1 hshown
  obtain ⟨rfl, rfl⟩ := Prod.ext_iff.1 hfa
  have hf : f ∈ snapshot.files := Snapshot.mem_sorted.1 hf
  have hfile := ofFile_of_readable (hreadable f hf)
  have hpath : g.path = f.path := FileAnalysis.path_of_ofFile hfile hg
  have hname : Text.lowerCase (fileName f.path) = ("package.json" : Text) := hpath ▸ hname
  obtain ⟨t, ht, hmanifest⟩ := FileAnalysis.exists_text_of_ofFile hname hfile hg
  obtain ⟨members, e, p, hread, he, hp, rfl⟩ :=
    FileAnalysis.exists_entry_of_ofManifest hname hmanifest hg
  have hline : (FileAnalysis.dependencySignal f.path t e p).line =
      FileAnalysis.quotedNameLine? t e.name := by
    rw [FileAnalysis.dependencySignal, FileAnalysis.line_of_mem_entriesOf he, Option.none_or]
  refine ⟨t, e, ?_, ?_, ?_⟩
  · exact ht ▸ hf
  · exact ⟨⟨members, hread, he⟩, ⟨p, hp, rfl⟩, rfl, rfl, PackageJson.exists_declaredAt hread he⟩
  · have hissue : (Issue.ofSignal id (FileAnalysis.dependencySignal f.path t e p)).line =
        FileAnalysis.quotedNameLine? t e.name := hline
    rw [hissue]
    exact PackageJson.pointsAtDeclaration_iff

/-- A project that is one `package.json`. -/
def onlyPackage (t : Text) : Snapshot := Snapshot.ofFiles [⟨"package.json", .text t⟩]

/-- An issue is about the dependency `lovable-tagger` of `package.json`, on a line. -/
structure IsAboutTagger (line : Nat) (i : Issue) : Prop where
  path : i.path = "package.json"
  rule : i.rule = Rule.dependency.name
  line : i.line = some line
  suggestion : i.suggestion = some "Remove lovable-tagger from package.json"

instance (line : Nat) (i : Issue) : Decidable (IsAboutTagger line i) :=
  decidable_of_iff (i.path = "package.json" ∧ i.rule = Rule.dependency.name ∧ i.line = some line ∧
      i.suggestion = some ("Remove lovable-tagger from package.json" : Text))
    ⟨fun h => ⟨h.1, h.2.1, h.2.2.1, h.2.2.2⟩, fun h => ⟨h.path, h.rule, h.line, h.suggestion⟩⟩

variable {t : Text} {line : Nat}

theorem exists_issue (h : (ofSnapshot {} (onlyPackage t)).toOption.any
      (·.issues.any fun i => IsAboutTagger line i) = true) :
    ∃ a i, ofSnapshot {} (onlyPackage t) = .ok a ∧ i ∈ a.issues ∧ IsAboutTagger line i := by
  cases ha : ofSnapshot {} (onlyPackage t) with
  | error e =>
    rw [ha] at h
    cases h
  | ok a =>
    rw [ha] at h
    obtain ⟨i, hi, habout⟩ := List.any_eq_true.1 h
    exact ⟨a, i, rfl, hi, of_decide_eq_true habout⟩

theorem IsAboutTagger.name_eq {t' : Text} {e : ManifestEntry} (h : IsAboutTagger line i)
    (hreports : i.Reports {} t' e) : e.name = "lovable-tagger" := by
  refine hreports.name_eq (h.suggestion.trans ?_)
  rw [h.path]
  decide +kernel

theorem IsAboutTagger.lowerCase_eq (h : IsAboutTagger line i) :
    Text.lowerCase (fileName i.path) = ("package.json" : Text) := by
  rw [h.path]
  decide +kernel

theorem text_of_mem_onlyPackage {path t' : Text} (h : ⟨path, .text t'⟩ ∈ (onlyPackage t).files) :
    t' = t := by
  cases List.mem_singleton.1 h
  rfl

/-- A dependency on the third line of a `package.json`. -/
def taggerPackage : Text :=
  "\x7b\n  \"dependencies\": \x7b\n    \"lovable-tagger\": \"1\"\n  \x7d\n\x7d\n"

theorem taggerPackage_pointed : ∃ a i, ofSnapshot {} (onlyPackage taggerPackage) = .ok a ∧
    i ∈ a.issues ∧ i.line = some 3 ∧
    PointsAtDeclaration taggerPackage "lovable-tagger" i.line := by
  obtain ⟨a, i, ha, hi, habout⟩ := @exists_issue taggerPackage 3 (by decide +kernel)
  obtain ⟨t, e, ht, hreports, hpointed⟩ := dependencies_pointed_iff ha hi habout.lowerCase_eq
  obtain ⟨offset, hdeclared⟩ := hreports.declared
  rw [text_of_mem_onlyPackage ht, habout.name_eq hreports] at hpointed hdeclared
  refine ⟨a, i, ha, hi, habout.line, hpointed.2 ⟨offset, hdeclared, ?_⟩⟩
  -- A name of the section can only stand on the third line.
  have hthird : ∀ n < taggerPackage.length, PackageJson.mayDeclare taggerPackage 'l' n = true →
      Text.lineAt taggerPackage n = 3 := by decide +kernel
  obtain ⟨hlength, hmay⟩ := hdeclared.mayDeclare (c := 'l') rfl
  rw [hthird offset hlength hmay]
  exact PackageJson.quotedNameLine?_eq_some.1 (by decide +kernel)

/-- A keyword above the dependency of the same name. -/
def keywordPackage : Text :=
  "\x7b\n  \"keywords\": [\"lovable-tagger\"],\n  \"dependencies\": \x7b\n" ++
    "    \"lovable-tagger\": \"1\"\n  \x7d\n\x7d\n"

/-- Not every issue about a dependency of a `package.json` points at a declaration: the name may
stand in quotes above it. -/
theorem not_forall_pointed : ¬∀ (s : Settings) (snapshot : Snapshot) (a : Analysis) (i : Issue),
    ofSnapshot s snapshot = .ok a → i ∈ a.issues → i.rule = Rule.dependency.name →
      Text.lowerCase (fileName i.path) = ("package.json" : Text) →
        ∃ t e, ⟨i.path, .text t⟩ ∈ snapshot.files ∧ i.Reports s t e ∧
          PointsAtDeclaration t e.name i.line := by
  intro h
  obtain ⟨a, i, ha, hi, habout⟩ := @exists_issue keywordPackage 2 (by decide +kernel)
  obtain ⟨t, e, ht, hreports, offset, hdeclared, hline⟩ :=
    h {} _ a i ha hi habout.rule habout.lowerCase_eq
  rw [text_of_mem_onlyPackage ht, habout.name_eq hreports] at hdeclared
  rw [text_of_mem_onlyPackage ht, habout.line] at hline
  -- The issue names the second line, but a name of the section can only stand on the fourth.
  have hfourth : ∀ n < keywordPackage.length, PackageJson.mayDeclare keywordPackage 'l' n = true →
      Text.lineAt keywordPackage n = 4 := by decide +kernel
  obtain ⟨hlength, hmay⟩ := hdeclared.mayDeclare (c := 'l') rfl
  rw [hfourth offset hlength hmay] at hline
  cases hline

end Analysis

end Decouple
