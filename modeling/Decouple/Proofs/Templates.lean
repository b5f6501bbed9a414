import Decouple.Proofs.Arrival
import Decouple.Proofs.References
import Decouple.Proofs.RoundTrip

/-!
# The template of the environment

The template of a project has one line for each variable that a file reads or an environment file
declares, in order.  It is an environment file itself: when a project is packed again its template
is read back, with all that it lists, and comes out the same (`environmentTemplate_lists`).

White space before a name may go over line feeds, so one declaration can start at several lines.
The search finds the first of these and goes over the others.  Nothing is lost by that, since they
all stop at one equals sign and the name before it is one (`IsDeclaration.unique`).
-/

namespace Decouple

open CodePoint (is isBlank)

namespace Text

/-- Behind a line whole lines are whole lines. -/
theorem isWholeLines_line (u t : Text) :
    (u ++ CodePoint.ofChar '\n' :: t).isWholeLines = t.isWholeLines := by
  cases ht : t.getLast? with
  | none =>
    rw [List.getLast?_eq_none_iff] at ht
    rw [ht, isWholeLines_append u rfl]
    rfl
  | some c => rw [isWholeLines, isWholeLines, List.getLast?_append, List.getLast?_cons, ht]; rfl

end Text

namespace Snapshot

variable {s : Snapshot} {f file : File}

theorem mem_files_put :
    f ∈ (s.put file).files ↔ f = file ∨ f ∈ s.files ∧ f.path ≠ file.path := by
  have hmem (s : Snapshot) : f ∈ s.files ↔ s.get? f.path = some f := by
    rw [get?_eq_some, and_iff_left rfl]
  rw [hmem, get?_put, hmem]
  by_cases hpath : file.path = f.path
  · rw [if_pos hpath, Option.some.injEq, eq_comm, or_iff_left fun h => h.2 hpath.symm]
  · rw [if_neg hpath]
    constructor
    · exact fun h => .inr ⟨h, Ne.symm hpath⟩
    · rintro (rfl | ⟨h, -⟩)
      · exact absurd rfl hpath
      · exact h

end Snapshot

namespace Signature

open Pattern

variable {name name' t u w w' x x' line : Text} {p q : Place}

/-! ## Declarations -/

/-- What may stand before a declared name: nothing, or the word that exports it and white space. -/
def IsExport (e : Text) : Prop :=
  e = [] ∨ ∃ b, b ≠ [] ∧ (∀ c ∈ b, isBlank c = true) ∧ e = "export" ++ b

/-- What declares a variable: its name before an equals sign, with white space around it. -/
def IsDeclaration (w name : Text) : Prop :=
  ∃ b e b', (∀ c ∈ b, isBlank c = true) ∧ IsExport e ∧ IsVariableName name ∧
    (∀ c ∈ b', isBlank c = true) ∧ w = b ++ (e ++ (name ++ (b' ++ [CodePoint.ofChar '='])))

/-- A text declares a variable: some line of it starts with a declaration. -/
def Declares (t name : Text) : Prop :=
  ∃ u w rest, t = u ++ (w ++ rest) ∧ u.isWholeLines = true ∧ IsDeclaration w name

theorem IsDeclaration.isVariableName (h : IsDeclaration w name) : IsVariableName name := by
  obtain ⟨-, -, -, -, -, hname, -⟩ := h
  exact hname

theorem not_isBlank_of_isVariableRest {c : CodePoint} (h : isVariableRest c = true) :
    isBlank c = false := by
  simp only [isVariableRest, CodePoint.isUpper, CodePoint.isDigit, isBlank, Bool.or_eq_true,
    Bool.and_eq_true, decide_eq_true_eq] at h ⊢
  rcases h with (h | h) | rfl
  · simp
    omega
  · simp
    omega
  · rfl

theorem not_is_equals {c : CodePoint} (h : isBlank c = true ∨ isVariableRest c = true) :
    (!is '=' c) = true := by
  cases hequals : is '=' c with
  | false => rfl
  | true =>
    rw [is, decide_eq_true_eq] at hequals
    subst hequals
    rcases h with h | h <;> cases h

/-- What stands before a declared name does not run into it, and the equals sign that ends the
declaration is the first in it. -/
theorem IsDeclaration.exists_before (h : IsDeclaration w name) : ∃ a b,
    w = a ++ name ++ b ++ [CodePoint.ofChar '='] ∧ IsVariableName name ∧
      a.getLast?.any isVariableRest = false ∧ (∀ c ∈ b, isBlank c = true) ∧
        ∀ c ∈ a ++ name ++ b, (!is '=' c) = true := by
  obtain ⟨b, e, b', hb, he, hname, hb', rfl⟩ := h
  have hexport : (∀ c, (b ++ e).getLast? = some c → isBlank c = true) ∧
      ∀ c ∈ e, (!is '=' c) = true := by
    rcases he with rfl | ⟨b₁, hne, hb₁, rfl⟩
    · refine ⟨fun c hc => ?_, List.forall_mem_nil _⟩
      rw [List.append_nil] at hc
      exact hb c (List.mem_of_getLast? hc)
    · have hword : ∀ c ∈ ("export" : Text), (!is '=' c) = true := by decide
      refine ⟨fun c hc => ?_, List.forall_mem_append.2
        ⟨hword, fun c hc => not_is_equals (.inl (hb₁ c hc))⟩⟩
      rw [← List.append_assoc, List.getLast?_append_of_ne_nil _ hne] at hc
      exact hb₁ c (List.mem_of_getLast? hc)
  obtain ⟨hlast, hfree⟩ := hexport
  refine ⟨b ++ e, b', by simp only [List.append_assoc], hname, ?_, hb', ?_⟩
  · cases hc : (b ++ e).getLast? with
    | none => rfl
    | some c =>
      cases hrest : isVariableRest c with
      | false => rw [Option.any_some, hrest]
      | true => exact absurd (hlast c hc) (by simp [not_isBlank_of_isVariableRest hrest])
  · simp only [List.forall_mem_append]
    exact ⟨⟨⟨fun c hc => not_is_equals (.inl (hb c hc)), hfree⟩,
      fun c hc => not_is_equals (.inr (hname.isVariableRest c hc))⟩,
      fun c hc => not_is_equals (.inl (hb' c hc))⟩

/-- Declarations that overlap declare the same variable. -/
theorem IsDeclaration.unique (h : IsDeclaration w name) (h' : IsDeclaration w' name')
    (hu : u.getLast?.any isVariableRest = false) (hlt : u.length < w.length)
    (hsame : w ++ x = u ++ (w' ++ x')) : name' = name := by
  obtain ⟨a, b, rfl, hname, ha, hb, hfree⟩ := h.exists_before
  obtain ⟨a', b', rfl, hname', ha', hb', hfree'⟩ := h'.exists_before
  have hsame : a ++ name ++ b ++ CodePoint.ofChar '=' :: x =
      u ++ (a' ++ name' ++ b' ++ CodePoint.ofChar '=' :: x') := by
    simpa only [List.append_assoc, List.singleton_append] using hsame
  -- Both stop at the first equals sign.
  obtain ⟨z, hz⟩ : u <+: a ++ name ++ b := by
    refine List.prefix_of_prefix_length_le ⟨_, hsame.symm⟩ ⟨_, rfl⟩ ?_
    rw [List.length_append, List.length_singleton] at hlt
    omega
  have hrest : z = a' ++ name' ++ b' := by
    rw [← hz, List.append_assoc] at hsame
    have hz' : ∀ c ∈ z, (!is '=' c) = true :=
      fun c hc => hfree c (hz ▸ List.mem_append_right u hc)
    exact (Text.append_cons_inj hz' hfree' rfl rfl (List.append_cancel_left hsame)).1
  have hends (name : Text) (hname : IsVariableName name) (a : Text) :
      (a ++ name).getLast?.any isBlank = false := by
    rw [List.getLast?_append_of_ne_nil _ hname.ne_nil, List.getLast?_eq_some_getLast hname.ne_nil,
      Option.any_some]
    exact not_isBlank_of_isVariableRest (hname.isVariableRest _ (List.getLast_mem hname.ne_nil))
  have hsplit : u ++ a' ++ name' ++ b' = a ++ name ++ b := by
    rw [← hz, hrest]
    simp only [List.append_assoc]
  have hnames := (Text.append_inj_of_getLast? hb' hb (hends name' hname' _) (hends name hname _)
    hsplit).1
  refine (Text.append_inj_of_getLast? hname'.isVariableRest hname.isVariableRest ?_ ha hnames).2
  rw [List.getLast?_append]
  cases hlast : a'.getLast? with
  | none => exact hu
  | some c =>
    rw [hlast] at ha'
    exact ha'

/-- What the pattern of declarations matches. -/
theorem isDeclaration_of_matchAt? {m : Match} (h : declaration.matchAt? p = some m) :
    p.before.all (is '\n') = true ∧
      ∃ w, IsDeclaration w (m.textOf .variable) ∧ p.Takes w m.stop := by
  obtain ⟨p₁, ps₁, hline, hrest⟩ := way_sequence_cons.1 (way_of_matchAt? h).2
  obtain ⟨p₂, ps₂, hblanks, hrest⟩ := way_sequence_cons.1 hrest
  obtain ⟨p₃, ps₃, hoptional, hrest⟩ := way_sequence_cons.1 hrest
  obtain ⟨p₄, ps₄, hpart, hrest⟩ := way_sequence_cons.1 hrest
  obtain ⟨p₅, ps₅, hblanks', hequals⟩ := way_sequence_cons.1 hrest
  obtain ⟨-, b, hb, hallBlank, -⟩ := way_many hblanks
  obtain ⟨e, he, hexport⟩ : ∃ e, IsExport e ∧ p₂.Takes e p₃ := by
    rcases way_alt.1 hoptional with hexport | hnone
    · obtain ⟨p', ps', hword, hgap⟩ := way_sequence_cons.1 hexport
      obtain ⟨-, hword⟩ := way_literal hword
      obtain ⟨-, b, hb, hallBlank, hlong⟩ := way_many hgap
      exact ⟨_, .inr ⟨b, List.ne_nil_of_length_pos hlong, hallBlank, rfl⟩, hword.append hb⟩
    · obtain ⟨rfl, -⟩ := way_empty.1 hnone
      exact ⟨[], .inl rfl, .nil _⟩
  obtain ⟨ps', rfl, hnamed⟩ := way_part hpart
  obtain ⟨-, name, hname, htaken⟩ := isVariableName_of_way hnamed
  obtain ⟨rfl, b', hb', hallBlank', -⟩ := way_many hblanks'
  obtain ⟨hparts, hequals⟩ := way_is hequals
  have htext : m.textOf .variable = name := by
    rw [Match.textOf, Match.part?, hparts]
    exact htaken.textTo_eq
  cases hline with
  | lineStart hline =>
    refine ⟨hline, _, ⟨b, e, b', hallBlank, he, htext ▸ hname, hallBlank', rfl⟩, ?_⟩
    rw [htext]
    exact hb.append (hexport.append (htaken.append (hb'.append hequals)))

theorem IsVariableName.isBefore (hname : IsVariableName name) (h : p.Takes (name ++ x) q) :
    p.isBefore isBlank = false := by
  obtain ⟨c, rest, rfl, hc, -⟩ := hname
  obtain ⟨tail, htail, -⟩ := h.of_cons
  rw [Place.isBefore, htail, List.head?_cons, Option.any_some]
  exact not_isBlank_of_isVariableRest (isVariableRest_of_isVariableStart hc)

/-- Where a line starts with a declaration the pattern matches. -/
theorem exists_matchAt?_declaration (hline : p.before.all (is '\n') = true)
    (h : IsDeclaration w name) (hw : p.Takes w q) : ∃ m, declaration.matchAt? p = some m := by
  obtain ⟨b, e, b', hb, he, hname, hb', rfl⟩ := h
  obtain ⟨p₁, hblanks, hrest⟩ := hw.split
  obtain ⟨p₂, hexport, hnamed⟩ := hrest.split
  obtain ⟨p₃, hname', hrest⟩ := hnamed.split
  obtain ⟨p₄, hblanks', hequals⟩ := hrest.split
  have hbefore : p₁.isBefore isBlank = false := by
    rcases he with rfl | ⟨b₁, -, -, rfl⟩
    · obtain rfl := hexport.eq_of_nil
      exact hname.isBefore hnamed
    · rw [Place.isBefore, hexport.1]
      rfl
  have hpathExport : Path (optional (sequence [literal "export", gap])) p₁ [] p₂ [] := by
    rcases he with rfl | ⟨b₁, hne, hb₁, rfl⟩
    · obtain rfl := hexport.eq_of_nil
      exact .second .empty
    · obtain ⟨p', hword, hgap⟩ := hexport.split
      exact .first (path_sequence_cons.2 ⟨p', [], path_literal hword,
        .many hgap hb₁ (List.length_pos_iff.2 hne) fun _ => hname.isBefore hnamed⟩)
  have hbefore' : p₄.isBefore isBlank = false := by
    rw [Place.isBefore, hequals.1]
    rfl
  exact exists_matchAt? (path_sequence_cons.2 ⟨p, [], .lineStart hline,
    path_sequence_cons.2 ⟨p₁, [], .many hblanks hb (Nat.zero_le _) fun _ => hbefore,
    path_sequence_cons.2 ⟨p₂, [], hpathExport,
    path_sequence_cons.2 ⟨p₃, _, .part (path_variableName hname hname' []),
    path_sequence_cons.2 ⟨p₄, _, .many hblanks' hb' (Nat.zero_le _) fun _ => hbefore',
    path_one_of_takes hequals (by simp [is])⟩⟩⟩⟩⟩)

/-- A match that goes over the start of a declaration declares the same variable. -/
theorem textOf_of_goesOver {m : Match} (hmatch : declaration.matchAt? p = some m) (hu : p.Takes u q)
    (hlt : q.offset < m.stop.offset) (hline : q.before.all (is '\n') = true)
    (hw : IsDeclaration w name) (hq : q.rest = w ++ x) : m.textOf .variable = name := by
  obtain ⟨-, w', hw', htakes⟩ := isDeclaration_of_matchAt? hmatch
  have hlast : u.getLast?.any isVariableRest = false := by
    rw [hu.2.2] at hline
    cases hc : u.getLast? with
    | none => rfl
    | some c =>
      rw [hc, Option.some_or, Option.all_some, is, decide_eq_true_eq] at hline
      subst hline
      rfl
  have hshort : u.length < w'.length := by
    have hoffset := hu.2.1
    have hlength := htakes.2.1
    omega
  have hsame : w' ++ m.stop.rest = u ++ (w ++ x) := by rw [← hq, ← hu.1, htakes.1]
  exact (hw'.unique hw hlast hshort hsame).symm

/-- A text declares the variables that are found in it. -/
theorem mem_declaredVariables : name ∈ declaredVariables t ↔ Declares t name := by
  rw [declaredVariables, List.mem_map]
  constructor
  · rintro ⟨m, hm, rfl⟩
    obtain ⟨p, ⟨u, hu⟩, hmatch, -⟩ := exists_place_of_mem_findAll hm
    obtain ⟨hline, w, hw, htakes⟩ := isDeclaration_of_matchAt? hmatch
    refine ⟨u, w, m.stop.rest, ?_, Place.isWholeLines_of_takes hu hline, hw⟩
    rw [← htakes.1]
    exact hu.1
  · rintro ⟨u, w, rest, rfl, hu, hw⟩
    have hstart : (Place.start (u ++ (w ++ rest))).rest = u ++ (w ++ rest) := rfl
    obtain ⟨q, hq, hqrest⟩ := Place.exists_takes hstart
    obtain ⟨stop, hstop, -⟩ := Place.exists_takes hqrest
    have hline := Place.lineStart_of_takes hu hq
    obtain ⟨m, hm⟩ := exists_matchAt?_declaration hline hw hstop
    have hadvanced : q.offset < m.stop.offset := by
      obtain ⟨-, w', ⟨b, e, b', -, -, -, -, rfl⟩, htakes⟩ := isDeclaration_of_matchAt? hm
      have hlength := htakes.2.1
      simp only [List.length_append, List.length_singleton] at hlength
      omega
    obtain ⟨m', hm', hle, hlt⟩ := exists_around_of_matchAt? ⟨u, hq⟩ hm hadvanced
    obtain ⟨p, hp, hmatch, -⟩ := exists_place_of_mem_findAll hm'
    rw [Match.offset, (reaches_of_matchAt? hmatch).1] at hle
    obtain ⟨z, hz⟩ := hp.of_le ⟨u, hq⟩ hle
    exact ⟨m', hm', textOf_of_goesOver hmatch hz hlt hline hw hqrest⟩

example : declaredVariables "\n\nexport URL=x\nKEY\n= y\nother=OTHER=z" = ["URL", "KEY"] := by
  decide +kernel

/-! ## Lines -/

/-- What a text declares, its first line starts a declaration of or the lines behind declare. -/
theorem declares_line (hline : CodePoint.ofChar '\n' ∉ line) :
    Declares (line ++ CodePoint.ofChar '\n' :: t) name ↔
      (∃ w rest, line ++ CodePoint.ofChar '\n' :: t = w ++ rest ∧ IsDeclaration w name) ∨
        Declares t name := by
  constructor
  · rintro ⟨u, w, rest, hsplit, hu, hw⟩
    by_cases hne : u = []
    · exact .inl ⟨w, rest, by rw [hsplit, hne, List.nil_append], hw⟩
    · have hfeed : CodePoint.ofChar '\n' ∈ u := Text.mem_of_isWholeLines (t := []) hu hne
      rcases List.append_eq_append_iff.1 hsplit with ⟨z, rfl, hrest⟩ | ⟨z, rfl, -⟩
      · cases z with
        | nil => exact absurd (List.append_nil line ▸ hfeed) hline
        | cons c z =>
          obtain ⟨rfl, rfl⟩ := List.cons.inj hrest
          rw [Text.isWholeLines_line] at hu
          exact .inr ⟨z, w, rest, rfl, hu, hw⟩
      · exact absurd (List.mem_append_left z hfeed) hline
  · rintro (⟨w, rest, hsplit, hw⟩ | ⟨u, w, rest, rfl, hu, hw⟩)
    · exact ⟨[], w, rest, hsplit, rfl, hw⟩
    · refine ⟨line ++ CodePoint.ofChar '\n' :: u, w, rest, ?_, ?_, hw⟩
      · simp only [List.append_assoc, List.cons_append]
      · rw [Text.isWholeLines_line, hu]

/-- A declaration starts with white space, the word that exports it or its name. -/
theorem IsDeclaration.starts (h : IsDeclaration w name) :
    (w.head?.any fun c => isBlank c || is 'e' c || isVariableStart c) = true := by
  obtain ⟨b, e, b', hb, he, ⟨c, rest, rfl, hc, -⟩, -, rfl⟩ := h
  cases b with
  | cons d b =>
    have hd := hb d (List.mem_cons_self ..)
    simp [hd]
  | nil =>
    rcases he with rfl | ⟨b₁, -, -, rfl⟩
    · simp [hc]
    · rfl

end Signature

namespace Artifact

open Signature

variable {project : Snapshot} {name name' t : Text} {names : List Text} {f : File}

/-- A file reads a variable, or declares it if it is an environment file. -/
def Mentions (f : File) (name : Text) : Prop :=
  ∃ t, f.content = .text t ∧
    if isEnvironmentFile f.path then Declares t name else name ∈ variablesIn t

theorem mem_variablesOf : name ∈ variablesOf f ↔ Mentions f name := by
  rw [variablesOf, Mentions]
  split
  · next hcontent => simp [hcontent]
  · next t hcontent =>
    simp only [hcontent, Content.text.injEq, exists_eq_left', ← mem_declaredVariables,
      mem_variablesIn]
    split <;> rfl

theorem mem_namesIn : name ∈ namesIn project ↔ ∃ f ∈ project.files, Mentions f name := by
  simp only [namesIn, Text.sort, (Sorting.sort_perm _).mem_iff, Text.mem_distinct, List.mem_flatMap,
    mem_variablesOf]

theorem Mentions.isVariableName (h : Mentions f name) : IsVariableName name := by
  obtain ⟨t, -, h⟩ := h
  split at h
  · obtain ⟨u, w, rest, -, -, hw⟩ := h
    exact hw.isVariableName
  · exact isVariableName_of_mem_variableReads (mem_variablesIn.1 h)

theorem nodup_namesIn (project : Snapshot) : (namesIn project).Nodup :=
  (Sorting.sort_perm _).nodup_iff.2 (Text.nodup_distinct _)

theorem pairwise_namesIn (project : Snapshot) : (namesIn project).Pairwise (· < ·) := by
  have hsorted : (namesIn project).Pairwise fun a b => Text.le a b = true :=
    Sorting.pairwise_sort Text.le_total (fun _ _ _ => Text.le_trans) _
  refine hsorted.imp₂ (fun a b hle hne => ?_) (nodup_namesIn project)
  exact Text.lt_iff_not_le.2 fun hge => hne (Text.le_antisymm hle hge)

/-- A line of the template declares its variable. -/
theorem declares_variableLine (hname : IsVariableName name') :
    Declares (variableLine name' ++ t) name ↔ name = name' ∨ Declares t name := by
  have hline : CodePoint.ofChar '\n' ∉ name' ++ [CodePoint.ofChar '='] := by
    intro hmem
    rcases List.mem_append.1 hmem with hmem | hmem
    · cases hname.isVariableRest _ hmem
    · cases List.mem_singleton.1 hmem
  have hdeclares : IsDeclaration (name' ++ [CodePoint.ofChar '=']) name' :=
    ⟨[], [], [], List.forall_mem_nil _, .inl rfl, hname, List.forall_mem_nil _, rfl⟩
  have hsplit : variableLine name' ++ t =
      name' ++ [CodePoint.ofChar '='] ++ CodePoint.ofChar '\n' :: t := by
    have hend : ("=\n" : Text) = [CodePoint.ofChar '=', CodePoint.ofChar '\n'] := rfl
    rw [variableLine, hend]
    simp only [List.append_assoc, List.cons_append, List.nil_append]
  rw [hsplit, declares_line hline]
  refine or_congr_left ⟨?_, ?_⟩
  · rintro ⟨w, rest, hsame, hw⟩
    exact hdeclares.unique hw (u := []) rfl (by simp) hsame
  · rintro rfl
    exact ⟨_, _, rfl, hdeclares⟩

theorem declares_flatMap (h : ∀ n ∈ names, IsVariableName n) :
    Declares (names.flatMap variableLine) name ↔ name ∈ names := by
  induction names with
  | nil =>
    refine iff_of_false ?_ List.not_mem_nil
    rintro ⟨u, w, rest, hnil, -, hw⟩
    have hstarts := hw.starts
    rw [List.flatMap_nil, eq_comm, List.append_eq_nil_iff, List.append_eq_nil_iff] at hnil
    rw [hnil.2.1] at hstarts
    cases hstarts
  | cons n names ih =>
    obtain ⟨hn, hnames⟩ := List.forall_mem_cons.1 h
    rw [List.flatMap_cons, declares_variableLine hn, ih hnames, List.mem_cons]

/-- The template of a project declares the variables of the project. -/
theorem declares_environmentTemplate :
    Declares (environmentTemplate project) name ↔ name ∈ namesIn project := by
  have hline : CodePoint.ofChar '\n' ∉
      Text.ofString "# Environment variables referenced by this project" := by decide
  have hsplit : environmentTemplate project =
      Text.ofString "# Environment variables referenced by this project" ++
        CodePoint.ofChar '\n' :: (namesIn project).flatMap variableLine := by
    rfl
  have hnames : ∀ n ∈ namesIn project, IsVariableName n := by
    intro n hn
    obtain ⟨f, -, hf⟩ := mem_namesIn.1 hn
    exact hf.isVariableName
  rw [hsplit, declares_line hline, declares_flatMap hnames, or_iff_right]
  rintro ⟨w, rest, hsame, hw⟩
  have hstarts := hw.starts
  cases w with
  | nil => cases hstarts
  | cons c w =>
    obtain ⟨rfl, -⟩ := List.cons.inj hsame
    cases hstarts

/-- Projects that mention the same variables have the same template. -/
theorem environmentTemplate_eq {other : Snapshot}
    (h : ∀ name, name ∈ namesIn other ↔ name ∈ namesIn project) :
    environmentTemplate other = environmentTemplate project := by
  have hperm : (namesIn other).Perm (namesIn project) :=
    (List.perm_ext_iff_of_nodup (nodup_namesIn other) (nodup_namesIn project)).2 h
  have hasymm : ∀ a b : Text, a ∈ namesIn other → b ∈ namesIn project → a < b → b < a → a = b :=
    fun a b _ _ hab hba => absurd (List.le_of_lt hab) (List.not_le.2 hba)
  have hnames : namesIn other = namesIn project :=
    hperm.eq_of_pairwise hasymm (pairwise_namesIn other) (pairwise_namesIn project)
  rw [environmentTemplate, environmentTemplate, hnames]

/-- Where the template of a project stands, its variables are mentioned. -/
theorem mentions_environmentTemplate :
    Mentions ⟨".env.example", .text (environmentTemplate project)⟩ name ↔
      name ∈ namesIn project := by
  have hpath : isEnvironmentFile ".env.example" = true := by decide
  rw [← declares_environmentTemplate, Mentions]
  simp only [hpath, if_true, Content.text.injEq, exists_eq_left']

/-- A template that lists variables: behind a header one line for each, in order and each once. -/
structure IsTemplate (t : Text) (names : List Text) : Prop where
  lines : t = "# Environment variables referenced by this project\n" ++ names.flatMap variableLine
  ordered : names.Pairwise (· < ·)

theorem isTemplate_environmentTemplate (project : Snapshot) :
    IsTemplate (environmentTemplate project) (namesIn project) :=
  ⟨rfl, pairwise_namesIn project⟩

/-- The template of a project lists the variables that its files read and those that its environment
files declare.  With the template in it, in place of a file of that path, the project has the same
template; and when the project is packed, the template of what is packed lists all of them again. -/
theorem environmentTemplate_lists (project : Snapshot) : ∃ names,
    IsTemplate (environmentTemplate project) names ∧
      (∀ name, name ∈ names ↔ ∃ f ∈ project.files, Mentions f name) ∧
      environmentTemplate (project.put ⟨".env.example", .text (environmentTemplate project)⟩) =
        environmentTemplate project ∧
      ∀ s report, ∃ more,
        IsTemplate (environmentTemplate (Packaging.files s project report)) more ∧
          names ⊆ more := by
  refine ⟨namesIn project, isTemplate_environmentTemplate project, fun name => mem_namesIn, ?_,
    fun s report => ⟨_, isTemplate_environmentTemplate _, fun name hname => ?_⟩⟩
  · refine environmentTemplate_eq fun name => ?_
    rw [mem_namesIn]
    constructor
    · rintro ⟨f, hf, hmentions⟩
      rcases Snapshot.mem_files_put.1 hf with rfl | ⟨hf, -⟩
      · exact mentions_environmentTemplate.1 hmentions
      · exact mem_namesIn.2 ⟨f, hf, hmentions⟩
    · -- What a file that is replaced declares is in the template that replaces it.
      exact fun hname =>
        ⟨_, Snapshot.mem_files_put.2 (.inl rfl), mentions_environmentTemplate.2 hname⟩
  · have hartifact : (Text.ofString ".env.example", environmentTemplate project) ∈
        Artifact.all s project report := by simp [all]
    have hfile := (Snapshot.get?_eq_some.1 (Packaging.get?_files_artifact hartifact)).1
    exact mem_namesIn.2 ⟨_, hfile, mentions_environmentTemplate.2 hname⟩

end Artifact

end Decouple
