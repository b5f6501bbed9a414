import Decouple.Proofs.Paths
import Decouple.Proofs.Removal.WholeLines
import Decouple.Proofs.Sorting
import Decouple.Proofs.Texts
import Decouple.Signature.Variable
import Mathlib.Data.List.Chain
import Mathlib.Data.List.Infix

/-!
# Where environment variables are read

A text reads a variable where a reference to it starts that no word runs into: a member of an
environment object, a quoted name behind an opening bracket (`Refers`), or an environment object that
is taken apart (`TakesApart`).  The patterns search for these from left to right and pass over what
stands inside of a match, but no match can start inside of another (`StandsApart`).  So the variables
that a text reads are those that are read at any of its places (`mem_variableReads`).
-/

namespace Decouple

open CodePoint (is isIn isNotIn isWord isBlank isLower)

theorem Text.any_head?_dropWhile (f : CodePoint → Bool) (t : Text) :
    (t.dropWhile f).head?.any f = false := by
  have hend := List.head?_dropWhile_not f t
  split at hend
  · next c hc => rw [hc, Option.any_some, hend]
  · next hnone => rw [hnone, Option.any_none]

namespace Pattern

variable {pat : Pattern} {p q r : Place} {t u v w : Text} {m : Match}

/-! ## Matches that stand apart -/

/-- No match of a pattern starts inside of another. -/
def StandsApart (pat : Pattern) : Prop :=
  ∀ ⦃p r m⦄, pat.matchAt? p = some m → p.Reaches r → p.offset < r.offset →
    r.offset < m.stop.offset → pat.matchAt? r = none

/-- Where matches stand apart every match is found. -/
theorem StandsApart.exists_mem_findAll_iff (hapart : pat.StandsApart) {P : Match → Prop} :
    (∃ m ∈ pat.findAll t, P m) ↔
      ∃ q m, (Place.start t).Reaches q ∧ pat.matchAt? q = some m ∧ q.offset < m.stop.offset ∧
        P m := by
  constructor
  · rintro ⟨m, hm, hP⟩
    obtain ⟨q, hq, hmatch, hadvanced⟩ := exists_place_of_mem_findAll hm
    exact ⟨q, m, hq, hmatch, hadvanced, hP⟩
  · rintro ⟨q, m, hq, hmatch, hadvanced, hP⟩
    refine ⟨m, mem_findAll_of_matchAt? hq hmatch hadvanced fun m' hm' hlt => ?_, hP⟩
    by_contra hover
    obtain ⟨p, hp, hmatch', -⟩ := exists_place_of_mem_findAll hm'
    have hoffset : m'.offset = p.offset := by rw [Match.offset, (reaches_of_matchAt? hmatch').1]
    have hnone := hapart hmatch' (hp.of_le hq (by omega)) (by omega) (by omega)
    rw [hnone] at hmatch
    cases hmatch

/-- No ending of a text is a beginning of it. -/
def IsUnbordered (t : Text) : Prop := ∀ y ∈ t.tails, y ≠ [] → y ≠ t → y.isPrefixOf t = false

instance (t : Text) : Decidable (IsUnbordered t) := inferInstanceAs (Decidable (∀ y ∈ _, _))

/-- Matches stand apart if each begins with a text of which no ending is a beginning, and goes on with
what the text cannot begin in. -/
theorem standsApart_of_takes {start : Text} (hborder : IsUnbordered start)
    (htakes : ∀ ⦃p q qs⦄, Way pat p [] q qs → ∃ w, p.Takes (start ++ w) q ∧
      ∀ x y rest, w = x ++ y → y ≠ [] → ¬start <+: y ++ rest) : pat.StandsApart := by
  intro p r m hm hr hlt hlt'
  rw [Option.eq_none_iff_forall_ne_some]
  intro m' hm'
  obtain ⟨w, hw, hfree⟩ := htakes (way_of_matchAt? hm).2
  obtain ⟨w', hw', -⟩ := htakes (way_of_matchAt? hm').2
  obtain ⟨z, hz⟩ := hr
  obtain ⟨y, hy⟩ := Place.Reaches.of_le ⟨z, hz⟩ ⟨_, hw⟩ (Nat.le_of_lt hlt')
  have hzne : z ≠ [] := by
    rintro rfl
    exact absurd hz.2.1 (Nat.ne_of_gt hlt)
  have hyne : y ≠ [] := by
    rintro rfl
    exact absurd hy.2.1 (Nat.ne_of_gt hlt')
  have hstarts : start <+: y ++ m.stop.rest :=
    ⟨w' ++ m'.stop.rest, by rw [← hy.1, hw'.1, List.append_assoc]⟩
  -- The second match starts behind `z`, and the first goes on with `y` from there.
  have hsame : start ++ w = z ++ y := by
    have hrest := hw.1
    rw [hz.1, hy.1, ← List.append_assoc] at hrest
    exact (List.append_cancel_right hrest).symm
  rcases List.append_eq_append_iff.1 hsame with ⟨x, -, hw''⟩ | ⟨x, hstart, hy'⟩
  · exact hfree x y _ hw'' hyne hstarts
  · by_cases hx : x = []
    · rw [hx, List.nil_append] at hy'
      exact hfree [] y _ hy'.symm hyne hstarts
    · have hbegins : x <+: start := by
        rw [hy', List.append_assoc] at hstarts
        refine List.prefix_of_prefix_length_le (List.prefix_append x _) hstarts ?_
        rw [hstart, List.length_append]
        exact Nat.le_add_left ..
      have hother : x ≠ start := by
        intro heq
        rw [heq] at hstart
        exact hzne (by simpa using hstart)
      have hnot := hborder x ((List.mem_tails _ _).2 ⟨z, hstart.symm⟩) hx hother
      rw [List.isPrefixOf_iff_prefix.2 hbegins] at hnot
      cases hnot

end Pattern

namespace Signature

open Pattern

variable {object opening name names t u v w b rest : Text} {closing : Char} {p q : Place}
  {ps qs : Parts}

/-! ## References to one variable -/

/-- The names of variables. -/
def IsVariableName (name : Text) : Prop :=
  ∃ c rest, name = c :: rest ∧ isVariableStart c = true ∧ ∀ d ∈ rest, isVariableRest d = true

/-- A name in quotes, with white space before it. -/
def IsQuoted (w name : Text) : Prop :=
  ∃ b c c', (∀ d ∈ b, isBlank d = true) ∧ isIn "'\"" c = true ∧ isIn "'\"" c' = true ∧
    IsVariableName name ∧ w = b ++ c :: (name ++ [c'])

/-- The objects whose members are the variables. -/
def environmentObjects : List Text := ["import.meta.env", "process.env"]

/-- What opens a reference that its closing quote ends. -/
def quoteOpenings : List Text := ["os.environ.get(", "os.getenv("]

/-- What opens a reference that a bracket ends, and the bracket. -/
def bracketOpenings : List (Text × Char) := [
  ("import.meta.env[", ']'), ("process.env[", ']'), ("Deno.env.get(", ')'), ("os.environ[", ']')]

/-- What starts with a reference to a variable. -/
inductive Refers : Text → Text → Prop where
  | member {object name rest : Text} (hobject : object ∈ environmentObjects)
      (hname : IsVariableName name) (hend : rest.head?.any isVariableRest = false) :
      Refers (object ++ "." ++ (name ++ rest)) name
  | quoted {opening w name : Text} (hopening : opening ∈ quoteOpenings) (hw : IsQuoted w name)
      (rest : Text) : Refers (opening ++ (w ++ rest)) name
  | bracketed {opening w b name : Text} {closing : Char}
      (hopening : (opening, closing) ∈ bracketOpenings) (hw : IsQuoted w name)
      (hb : ∀ d ∈ b, isBlank d = true) (rest : Text) :
      Refers (opening ++ (w ++ (b ++ CodePoint.ofChar closing :: rest))) name

theorem isVariableRest_of_isVariableStart {c : CodePoint} (h : isVariableStart c = true) :
    isVariableRest c = true := by
  simp only [isVariableStart, isVariableRest, Bool.or_eq_true, decide_eq_true_eq] at h ⊢
  exact h.elim (fun h => .inl (.inl h)) .inr

theorem IsVariableName.ne_nil (h : IsVariableName name) : name ≠ [] := by
  obtain ⟨c, rest, rfl, -⟩ := h
  exact List.cons_ne_nil c rest

theorem IsVariableName.isVariableRest (h : IsVariableName name) :
    ∀ c ∈ name, isVariableRest c = true := by
  obtain ⟨c, rest, rfl, hc, hrest⟩ := h
  exact List.forall_mem_cons.2 ⟨isVariableRest_of_isVariableStart hc, hrest⟩

/-- What the pattern of names takes is a name. -/
theorem isVariableName_of_way (h : Way variableName p ps q qs) :
    qs = ps ∧ ∃ name, IsVariableName name ∧ p.Takes name q := by
  obtain ⟨m, ms, hstart, hrest⟩ := way_seq.1 h
  obtain ⟨rfl, c, hc, htaken⟩ := way_one hstart
  obtain ⟨rfl, rest, hmore, hall, -⟩ := way_many hrest
  exact ⟨rfl, c :: rest, ⟨c, rest, rfl, hc, hall⟩, htaken.append hmore⟩

theorem path_variableName (hname : IsVariableName name) (h : p.Takes name q) (ps : Parts) :
    Path variableName p ps q ps := by
  obtain ⟨c, rest, rfl, hc, hrest⟩ := hname
  obtain ⟨tail, htail, h⟩ := h.of_cons
  refine path_seq.2 ⟨_, ps, .one htail hc, .many h hrest (Nat.zero_le _) fun hgreed => ?_⟩
  cases hgreed

/-- White space and a quoted name are taken as they stand. -/
def quotedName : List Pattern :=
  [blanks, one (isIn "'\""), part .variable variableName, one (isIn "'\"")]

theorem isIn_quotes {c : CodePoint} (h : isIn "'\"" c = true) : c = '\'' ∨ c = '"' := by
  have hliteral : ("'\"" : Text) = [CodePoint.ofChar '\'', CodePoint.ofChar '"'] := rfl
  rw [isIn, hliteral] at h
  simpa using h

theorem isBlank_of_isIn_quotes {c : CodePoint} (h : isIn "'\"" c = true) : isBlank c = false := by
  rcases isIn_quotes h with rfl | rfl <;> rfl

theorem isVariableRest_of_isIn_quotes {c : CodePoint} (h : isIn "'\"" c = true) :
    isVariableRest c = false := by
  rcases isIn_quotes h with rfl | rfl <;> rfl

theorem isQuoted_of_way (h : Way (sequence quotedName) p ps q qs) :
    ∃ w name found, IsQuoted w name ∧ p.Takes w q ∧ qs = (.variable, found) :: ps ∧
      found.text = name := by
  obtain ⟨p₁, ps₁, hblanks, hquoted⟩ := way_sequence_cons.1 h
  obtain ⟨p₂, ps₂, hquote, hnamed⟩ := way_sequence_cons.1 hquoted
  obtain ⟨p₃, ps₃, hpart, hclose⟩ := way_sequence_cons.1 hnamed
  obtain ⟨rfl, b, hb, hall, -⟩ := way_many hblanks
  obtain ⟨rfl, c, hc, htaken⟩ := way_one hquote
  obtain ⟨ps', rfl, hname⟩ := way_part hpart
  obtain ⟨rfl, name, hname, hmore⟩ := isVariableName_of_way hname
  obtain ⟨rfl, c', hc', hend⟩ := way_one hclose
  refine ⟨_, name, ⟨p₂, p₃⟩, ⟨b, c, c', hall, hc, hc', hname, rfl⟩, ?_, rfl, hmore.textTo_eq⟩
  exact hb.append (htaken.append (hmore.append hend))

theorem exists_path_quotedName (hw : IsQuoted w name) (h : p.Takes w q) (ps : Parts) :
    ∃ qs, Path (sequence quotedName) p ps q qs := by
  obtain ⟨b, c, c', hb, hc, hc', hname, rfl⟩ := hw
  obtain ⟨p₁, hblanks, hquoted⟩ := h.split
  obtain ⟨tail, htail, hquoted⟩ := hquoted.of_cons
  obtain ⟨p₂, hpart, hclose⟩ := hquoted.split
  have hquote : p₁.isBefore isBlank = false := by
    rw [Place.isBefore, htail, List.head?_cons, Option.any_some, isBlank_of_isIn_quotes hc]
  have hpathBlanks : Path blanks p ps p₁ ps := .many hblanks hb (Nat.zero_le _) fun _ => hquote
  have hpathQuote : Path (one (isIn "'\"")) p₁ ps (p₁.after c tail) ps := .one htail hc
  have hpathName : Path (part .variable variableName) _ ps p₂ _ :=
    .part (path_variableName hname hpart ps)
  exact ⟨_, path_sequence_cons.2 ⟨_, _, hpathBlanks, path_sequence_cons.2 ⟨_, _, hpathQuote,
    path_sequence_cons.2 ⟨_, _, hpathName, path_one_of_takes hclose hc'⟩⟩⟩⟩

/-- What is quoted is known by how a text starts. -/
theorem IsQuoted.eq_of_append {w' name' x x' : Text} (h : IsQuoted w name) (h' : IsQuoted w' name')
    (hsame : w ++ x = w' ++ x') : name = name' := by
  obtain ⟨b, c, d, hb, hc, hd, hname, rfl⟩ := h
  obtain ⟨b', c', d', hb', hc', hd', hname', rfl⟩ := h'
  simp only [List.append_assoc, List.cons_append] at hsame
  obtain ⟨-, -, hsame⟩ := Text.append_cons_inj hb hb' (isBlank_of_isIn_quotes hc)
    (isBlank_of_isIn_quotes hc') hsame
  exact (Text.append_cons_inj hname.isVariableRest hname'.isVariableRest
    (isVariableRest_of_isIn_quotes hd) (isVariableRest_of_isIn_quotes hd') hsame).1

/-- Whether a text starts with a word. -/
def startsWord (t : Text) : Bool := t.head?.any isWord

/-- In front of a word a word edge is where no other word runs into it. -/
theorem isWordEdge_iff {start : Text} (hstart : startsWord start = true) (h : start <+: p.rest) :
    (p.isAfter isWord != p.isBefore isWord) = true ↔ p.isAfter isWord = false := by
  obtain ⟨rest, hrest⟩ := h
  have hbefore : p.isBefore isWord = true := by
    rw [Place.isBefore, ← hrest]
    cases start with
    | nil => cases hstart
    | cons c start => exact hstart
  rw [hbefore]
  cases p.isAfter isWord <;> simp

theorem isQuoted_of_way_quotedAfter (h : Way (quotedAfter opening) p ps q qs) :
    (p.isAfter isWord != p.isBefore isWord) = true ∧ ∃ w name found, IsQuoted w name ∧
      p.Takes (opening ++ w) q ∧ qs = (.variable, found) :: ps ∧ found.text = name := by
  obtain ⟨p₁, ps₁, hedge, hopened⟩ := way_sequence_cons.1 h
  obtain ⟨p₂, ps₂, hliteral, hquoted⟩ := way_sequence_cons.1 hopened
  obtain ⟨rfl, hopening⟩ := way_literal hliteral
  obtain ⟨w, name, found, hw, htakes, hqs, htext⟩ := isQuoted_of_way hquoted
  cases hedge with
  | wordEdge hedge => exact ⟨hedge, w, name, found, hw, hopening.append htakes, hqs, htext⟩

theorem exists_path_quotedAfter (hedge : (p.isAfter isWord != p.isBefore isWord) = true)
    (hw : IsQuoted w name) (h : p.Takes (opening ++ w) q) (ps : Parts) :
    ∃ qs, Path (quotedAfter opening) p ps q qs := by
  obtain ⟨p₁, hopening, hquoted⟩ := h.split
  obtain ⟨qs, hpath⟩ := exists_path_quotedName hw hquoted ps
  exact ⟨qs, path_sequence_cons.2 ⟨p, ps, .wordEdge hedge,
    path_sequence_cons.2 ⟨p₁, ps, path_literal hopening, hpath⟩⟩⟩

/-! ## What the patterns find -/

/-- The parts that a pattern finds in a text are those of which something starts in it, where no word
runs into that. -/
def Finds (pat : Pattern) (label : Label) (Starts : Text → Text → Prop) : Prop :=
  ∀ t part, (∃ m ∈ pat.findAll t, m.textOf label = part) ↔
    ∃ u v, t = u ++ v ∧ u.getLast?.any isWord = false ∧ Starts v part

theorem finds_of_standsApart {pat : Pattern} {label : Label} {Starts : Text → Text → Prop}
    (hapart : pat.StandsApart)
    (hmatch : ∀ p part, (∃ m, pat.matchAt? p = some m ∧ p.offset < m.stop.offset ∧
      m.textOf label = part) ↔ p.isAfter isWord = false ∧ Starts p.rest part) :
    Finds pat label Starts := by
  intro t part
  rw [hapart.exists_mem_findAll_iff]
  constructor
  · rintro ⟨q, m, ⟨u, hu⟩, hm⟩
    obtain ⟨hafter, hstarts⟩ := (hmatch q part).1 ⟨m, hm⟩
    rw [Place.isAfter, hu.2.2, Place.start, Option.or_none] at hafter
    exact ⟨u, q.rest, hu.1, hafter, hstarts⟩
  · rintro ⟨u, v, rfl, hafter, hstarts⟩
    obtain ⟨q, hq, rfl⟩ := Place.exists_takes (rfl : (Place.start (u ++ v)).rest = u ++ v)
    have hafter' : q.isAfter isWord = false := by
      rw [Place.isAfter, hq.2.2, Place.start, Option.or_none, hafter]
    obtain ⟨m, hm⟩ := (hmatch q part).2 ⟨hafter', hstarts⟩
    exact ⟨q, m, ⟨u, hq⟩, hm⟩

/-- Where there are no small letters, what holds one starts at the end at most. -/
theorem not_prefix_of_isLower {start w : Text} (hstart : start.any isLower = true)
    (hw : ∀ c ∈ w, isLower c = false)
    (hlast : ∀ c ∈ start.takeWhile (!isLower ·), w.getLast? ≠ some c) (x y rest : Text)
    (hsplit : w = x ++ y) (hy : y ≠ []) : ¬start <+: y ++ rest := by
  intro hbegins
  have hfree : ∀ c ∈ y, (!isLower c) = true := fun c hc => by
    rw [hw c (hsplit ▸ List.mem_append_right _ hc)]
    rfl
  have hheld : y <+: start.takeWhile (!isLower ·) := by
    rcases List.prefix_or_prefix_of_prefix hbegins (List.prefix_append y rest) with h | h
    · -- All of the start would be free of small letters.
      obtain ⟨c, hc, hlower⟩ := List.any_eq_true.1 hstart
      have hnot := hfree c (h.subset hc)
      rw [hlower] at hnot
      cases hnot
    · obtain ⟨z, rfl⟩ := h
      rw [List.takeWhile_append_of_pos hfree]
      exact List.prefix_append y _
  refine hlast (y.getLast hy) (hheld.subset (List.getLast_mem hy)) ?_
  rw [hsplit, List.getLast?_append_of_ne_nil _ hy, List.getLast?_eq_some_getLast hy]

theorem not_isLower_of_isBlank {c : CodePoint} (h : isBlank c = true) : isLower c = false := by
  simp only [isBlank, isLower, Bool.or_eq_true, Bool.and_eq_true, decide_eq_true_eq,
    beq_iff_eq] at h ⊢
  simp
  omega

theorem not_isLower_of_isVariableRest {c : CodePoint} (h : isVariableRest c = true) :
    isLower c = false := by
  rw [isVariableRest, Bool.or_eq_true, Bool.or_eq_true, decide_eq_true_eq] at h
  rcases h with (h | h) | rfl
  · simp only [CodePoint.isUpper, isLower, Bool.and_eq_true, decide_eq_true_eq] at h ⊢
    simp
    omega
  · simp only [CodePoint.isDigit, isLower, Bool.and_eq_true, decide_eq_true_eq] at h ⊢
    simp
    omega
  · rfl

/-- A name with all that belongs to it is found behind an environment object. -/
theorem exists_matchAt?_memberOf (hedge : (p.isAfter isWord != p.isBefore isWord) = true)
    (hname : IsVariableName name) (hend : rest.head?.any isVariableRest = false)
    (hrest : p.rest = object ++ "." ++ (name ++ rest)) :
    ∃ m, (memberOf object).matchAt? p = some m ∧ p.offset < m.stop.offset ∧
      m.textOf .variable = name := by
  obtain ⟨p₁, hobject, hrest₁⟩ := Place.exists_takes hrest
  obtain ⟨q, hq, rfl⟩ := Place.exists_takes hrest₁
  have hname' := hname
  obtain ⟨c, more, rfl, hc, hmore⟩ := hname
  obtain ⟨tail, htail, hq'⟩ := hq.of_cons
  refine ⟨⟨p, q, [(.variable, ⟨p₁, q⟩)]⟩, ?_, ?_, hq.textTo_eq⟩
  · rw [matchAt?, memberOf, run_sequence_cons, run, if_pos hedge, run_sequence_cons,
      run_literal hobject]
    have hrun : variableName.run p₁ [] (fun stop parts =>
        some (⟨p, stop, (.variable, ⟨p₁, stop⟩) :: parts⟩ : Match)) =
        some ⟨p, q, [(.variable, ⟨p₁, q⟩)]⟩ := by
      rw [variableName, run_sequence_cons, run_one (.after htail) hc]
      exact run_greedy hq' hmore (Nat.zero_le _) hend rfl
    exact hrun
  · have hlength := (hobject.append hq).2.1
    rw [List.length_append, List.length_cons] at hlength
    exact hlength ▸ by omega

theorem finds_memberOf (hobject : object ∈ environmentObjects) :
    Finds (memberOf object) .variable fun v name => ∃ rest, v = object ++ "." ++ (name ++ rest) ∧
      IsVariableName name ∧ rest.head?.any isVariableRest = false := by
  have hborder : ∀ object ∈ environmentObjects, IsUnbordered (object ++ ".") := by decide
  have hword : ∀ object ∈ environmentObjects, startsWord (object ++ ".") = true := by decide
  have hlower : ∀ object ∈ environmentObjects, (object ++ ".").any isLower = true ∧
      (object ++ ".").takeWhile (!isLower ·) = [] := by decide
  have hway {p q qs} (h : Way (memberOf object) p [] q qs) :
      (p.isAfter isWord != p.isBefore isWord) = true ∧
        ∃ name, IsVariableName name ∧ p.Takes (object ++ "." ++ name) q := by
    obtain ⟨p₁, ps₁, hedge, hrest⟩ := way_sequence_cons.1 h
    obtain ⟨p₂, ps₂, hliteral, hpart⟩ := way_sequence_cons.1 hrest
    obtain ⟨rfl, htaken⟩ := way_literal hliteral
    obtain ⟨ps₃, -, hnamed⟩ := way_part hpart
    obtain ⟨-, name, hname, hmore⟩ := isVariableName_of_way hnamed
    cases hedge with
    | wordEdge hedge => exact ⟨hedge, name, hname, htaken.append hmore⟩
  refine finds_of_standsApart (standsApart_of_takes (hborder object hobject) fun p q qs h => ?_)
    fun p name => ⟨?_, ?_⟩
  · obtain ⟨-, name, hname, htakes⟩ := hway h
    obtain ⟨hany, hnone⟩ := hlower object hobject
    refine ⟨name, htakes, not_prefix_of_isLower hany (fun c hc => ?_) (by simp [hnone])⟩
    exact not_isLower_of_isVariableRest (hname.isVariableRest c hc)
  · rintro ⟨m, hm, -, rfl⟩
    obtain ⟨hedge, name, ⟨c, more, rfl, hc, hmore⟩, htakes⟩ := hway (way_of_matchAt? hm).2
    -- The name may go on behind the way: what is found has all of it.
    have hall : IsVariableName (c :: (more ++ m.stop.rest).takeWhile isVariableRest) :=
      ⟨c, _, rfl, hc, fun d hd => List.all_eq_true.1 List.all_takeWhile d hd⟩
    have hend := Text.any_head?_dropWhile isVariableRest (more ++ m.stop.rest)
    have hrest : p.rest = object ++ "." ++ (c :: (more ++ m.stop.rest).takeWhile isVariableRest ++
        (more ++ m.stop.rest).dropWhile isVariableRest) := by
      rw [htakes.1, List.cons_append, List.takeWhile_append_dropWhile, List.append_assoc,
        List.append_assoc, List.append_assoc]
      rfl
    obtain ⟨m', hm', -, htext⟩ := exists_matchAt?_memberOf hedge hall hend hrest
    obtain rfl : m' = m := Option.some.inj (hm'.symm.trans hm)
    rw [htext]
    refine ⟨(isWordEdge_iff (hword object hobject) ⟨_, hrest.symm⟩).1 hedge, _, hrest, hall, hend⟩
  · rintro ⟨hafter, rest, hrest, hname, hend⟩
    refine exists_matchAt?_memberOf ?_ hname hend hrest
    exact (isWordEdge_iff (hword object hobject) ⟨_, hrest.symm⟩).2 hafter

theorem IsQuoted.isLower (hw : IsQuoted w name) : ∀ c ∈ w, isLower c = false := by
  obtain ⟨b, c, c', hb, hc, hc', hname, rfl⟩ := hw
  have hquote {c : CodePoint} (h : isIn "'\"" c = true) : CodePoint.isLower c = false := by
    rcases isIn_quotes h with rfl | rfl <;> rfl
  have hname := fun d hd => not_isLower_of_isVariableRest (hname.isVariableRest d hd)
  have hb := fun d hd => not_isLower_of_isBlank (hb d hd)
  simp only [List.forall_mem_append, List.forall_mem_cons]
  exact ⟨hb, hquote hc, hname, hquote hc', List.forall_mem_nil _⟩

/-- What a pattern finds that takes an opening, a quoted name and an ending. -/
theorem finds_of_quoted {pat : Pattern} {IsEnding : Text → Prop} (hborder : IsUnbordered opening)
    (hword : startsWord opening = true) (hlower : opening.any isLower = true)
    (hfree : ∀ e, IsEnding e → ∀ c ∈ e, isLower c = false)
    (hlast : ∀ w name e, IsQuoted w name → IsEnding e →
      ∀ c ∈ opening.takeWhile (!isLower ·), (w ++ e).getLast? ≠ some c)
    (hway : ∀ ⦃p q qs⦄, Way pat p [] q qs → (p.isAfter isWord != p.isBefore isWord) = true ∧
      ∃ w name e found, IsQuoted w name ∧ IsEnding e ∧ p.Takes (opening ++ (w ++ e)) q ∧
        qs = [(.variable, found)] ∧ found.text = name)
    (hpath : ∀ ⦃p q w name e⦄, (p.isAfter isWord != p.isBefore isWord) = true →
      IsQuoted w name → IsEnding e → p.Takes (opening ++ (w ++ e)) q → ∃ qs, Path pat p [] q qs) :
    Finds pat .variable fun v name => ∃ w e rest, v = opening ++ (w ++ (e ++ rest)) ∧
      IsQuoted w name ∧ IsEnding e := by
  have hfound {p : Place} {m : Match} (hm : pat.matchAt? p = some m) :
      p.isAfter isWord = false ∧ ∃ w e, p.rest = opening ++ (w ++ (e ++ m.stop.rest)) ∧
        IsQuoted w (m.textOf .variable) ∧ IsEnding e := by
    obtain ⟨hedge, w, name, e, found, hw, he, htakes, hparts, htext⟩ := hway (way_of_matchAt? hm).2
    have hname : m.textOf .variable = name := by
      rw [Match.textOf, Match.part?, hparts]
      exact htext
    have hrest : p.rest = opening ++ (w ++ (e ++ m.stop.rest)) := by
      rw [htakes.1, List.append_assoc, List.append_assoc]
    exact ⟨(isWordEdge_iff hword ⟨_, hrest.symm⟩).1 hedge, w, e, hrest, hname ▸ hw, he⟩
  refine finds_of_standsApart (standsApart_of_takes hborder fun p q qs h => ?_)
    fun p name => ⟨?_, ?_⟩
  · obtain ⟨-, w, name, e, -, hw, he, htakes, -⟩ := hway h
    have hall : ∀ c ∈ w ++ e, isLower c = false :=
      List.forall_mem_append.2 ⟨hw.isLower, hfree e he⟩
    exact ⟨w ++ e, htakes, not_prefix_of_isLower hlower hall (hlast w name e hw he)⟩
  · rintro ⟨m, hm, -, rfl⟩
    obtain ⟨hafter, w, e, hrest, hw, he⟩ := hfound hm
    exact ⟨hafter, w, e, _, hrest, hw, he⟩
  · rintro ⟨hafter, w, e, rest, hrest, hw, he⟩
    have hedge := (isWordEdge_iff hword ⟨_, hrest.symm⟩).2 hafter
    have hrest' : p.rest = opening ++ (w ++ e) ++ rest := by
      rw [hrest, List.append_assoc, List.append_assoc]
    obtain ⟨q, hq, -⟩ := Place.exists_takes hrest'
    obtain ⟨qs, hpathHere⟩ := hpath hedge hw he hq
    obtain ⟨m, hm⟩ := exists_matchAt? hpathHere
    obtain ⟨-, w', e', hrest'', hw', -⟩ := hfound hm
    have hsame := List.append_cancel_left (hrest''.symm.trans hrest)
    refine ⟨m, hm, ?_, hw'.eq_of_append hw hsame⟩
    obtain ⟨-, _, _, _, _, -, -, htakes, -⟩ := hway (way_of_matchAt? hm).2
    have hne : opening ≠ [] := by
      rintro rfl
      cases hword
    have hlength := htakes.2.1
    have hpos := List.length_pos_iff.2 hne
    rw [List.length_append] at hlength
    omega

theorem finds_quotedAfter (hopening : opening ∈ quoteOpenings) :
    Finds (quotedAfter opening) .variable fun v name =>
      ∃ w e rest, v = opening ++ (w ++ (e ++ rest)) ∧ IsQuoted w name ∧ e = [] := by
  have hstart : ∀ opening ∈ quoteOpenings, IsUnbordered opening ∧ startsWord opening = true ∧
      opening.any isLower = true ∧ opening.takeWhile (!isLower ·) = [] := by decide
  obtain ⟨hborder, hword, hlower, hnone⟩ := hstart opening hopening
  refine finds_of_quoted hborder hword hlower ?_ ?_ ?_ ?_
  · rintro e rfl c hc
    cases hc
  · intro w name e _ _ c hc
    rw [hnone] at hc
    cases hc
  · intro p q qs h
    obtain ⟨hedge, w, name, found, hw, htakes, hqs, htext⟩ := isQuoted_of_way_quotedAfter h
    exact ⟨hedge, w, name, [], found, hw, rfl, by rwa [List.append_nil], hqs, htext⟩
  · rintro p q w name e hedge hw rfl htakes
    rw [List.append_nil] at htakes
    exact exists_path_quotedAfter hedge hw htakes []

theorem finds_quotedInside (hopening : (opening, closing) ∈ bracketOpenings) :
    Finds (quotedInside opening closing) .variable fun v name =>
      ∃ w e rest, v = opening ++ (w ++ (e ++ rest)) ∧ IsQuoted w name ∧
        ∃ b, (∀ c ∈ b, isBlank c = true) ∧ e = b ++ [CodePoint.ofChar closing] := by
  have hstart : ∀ o ∈ bracketOpenings, (IsUnbordered o.1 ∧ startsWord o.1 = true ∧
      o.1.any isLower = true ∧ isLower o.2 = false ∧ isBlank o.2 = false) ∧
        ∀ c ∈ o.1.takeWhile (!isLower ·), CodePoint.ofChar o.2 ≠ c := by decide
  obtain ⟨⟨hborder, hword, hlower, hclosing, hink⟩, hlast⟩ := hstart _ hopening
  refine finds_of_quoted hborder hword hlower ?_ ?_ ?_ ?_
  · rintro e ⟨b, hb, rfl⟩
    refine List.forall_mem_append.2 ⟨fun c hc => not_isLower_of_isBlank (hb c hc), ?_⟩
    simpa using hclosing
  · rintro w name e - ⟨b, -, rfl⟩ c hc hends
    rw [← List.append_assoc, List.getLast?_concat] at hends
    exact hlast c hc (Option.some.inj hends)
  · intro p q qs h
    obtain ⟨p₁, ps₁, hquoted, hrest⟩ := way_sequence_cons.1 h
    obtain ⟨p₂, ps₂, hblanks, hclose⟩ := way_sequence_cons.1 hrest
    obtain ⟨hedge, w, name, found, hw, htakes, hqs, htext⟩ := isQuoted_of_way_quotedAfter hquoted
    obtain ⟨rfl, b, hb, hall, -⟩ := way_many hblanks
    obtain ⟨rfl, hend⟩ := way_is hclose
    refine ⟨hedge, w, name, _, found, hw, ⟨b, hall, rfl⟩, ?_, hqs, htext⟩
    rw [← List.append_assoc]
    exact htakes.append (hb.append hend)
  · rintro p q w name e hedge hw ⟨b, hb, rfl⟩ htakes
    rw [← List.append_assoc] at htakes
    obtain ⟨p₁, hquoted, hrest⟩ := htakes.split
    obtain ⟨p₂, hblanks, hclose⟩ := hrest.split
    obtain ⟨qs, hpath⟩ := exists_path_quotedAfter hedge hw hquoted []
    have hend : p₂.isBefore isBlank = false := by
      rw [Place.isBefore, hclose.1]
      exact hink
    exact ⟨qs, path_sequence_cons.2 ⟨p₁, qs, hpath, path_sequence_cons.2 ⟨p₂, qs,
      .many hblanks hb (Nat.zero_le _) fun _ => hend, path_one_of_takes hclose (by simp [is])⟩⟩⟩

/-! ## Environment objects that are taken apart -/

/-- What a declaration starts with. -/
def declarationWords : List Text := ["const", "let", "var"]

/-- What stands before the names that an object is taken apart into. -/
def IsOpening (t : Text) : Prop :=
  ∃ keyword ∈ declarationWords, ∃ b, (∀ c ∈ b, isBlank c = true) ∧
    t = keyword ++ b ++ [CodePoint.ofChar '\x7b']

/-- What stands between the names and the object. -/
def IsAssignment (t : Text) : Prop :=
  ∃ b b', (∀ c ∈ b, isBlank c = true) ∧ (∀ c ∈ b', isBlank c = true) ∧
    t = CodePoint.ofChar '\x7d' :: (b ++ CodePoint.ofChar '=' :: b')

/-- An environment object as a whole, with what follows it. -/
inductive IsEnvironment : Text → Text → Prop where
  | object {object rest : Text} (hobject : object ∈ environmentObjects)
      (hend : (rest.head?.any fun c => isWord c || isIn ".[" c) = false) :
      IsEnvironment object rest
  | all {b : Text} (hb : ∀ c ∈ b, isBlank c = true) (rest : Text) :
      IsEnvironment ("Deno.env.toObject(" ++ (b ++ [CodePoint.ofChar ')'])) rest

/-- Code points other than braces. -/
abbrev isNoBrace : CodePoint → Bool := isNotIn "\x7b\x7d"

/-- What starts with an environment object that is taken apart, and the text of the names. -/
def TakesApart (v names : Text) : Prop :=
  ∃ opening a object rest, IsOpening opening ∧ (∀ c ∈ names, isNoBrace c = true) ∧ IsAssignment a ∧
    IsEnvironment object rest ∧ v = opening ++ (names ++ (a ++ (object ++ rest)))

/-! ### What the pattern takes piece by piece -/

/-- The pattern up to the names. -/
def openingPatterns : List Pattern :=
  [choice [literal "const", literal "let", literal "var"], blanks, one (is '\x7b')]

/-- The pattern between the names and the object. -/
def assignmentPatterns : List Pattern := [one (is '\x7d'), blanks, one (is '='), blanks]

/-- The pattern of an environment object as a whole. -/
def environmentPatterns : List Pattern := [choice [literal "import.meta.env", literal "process.env"],
  notFollowedBy (one fun c => isWord c || isIn ".[" c)]

/-- The pattern of a copy of the environment. -/
def copyPatterns : List Pattern := [literal "Deno.env.toObject(", blanks, one (is ')')]

/-- The pattern up to the object. -/
def headPatterns : List Pattern :=
  wordEdge :: (openingPatterns ++ part .names (any isNoBrace) :: assignmentPatterns)

theorem destructuring_eq : destructuring = sequence (headPatterns ++
    [choice [sequence environmentPatterns, sequence copyPatterns]]) := rfl

/-- A choice of texts is one of them. -/
theorem path_choice_literal {ts : List Text} :
    Path (choice (ts.map literal)) p ps q qs ↔ qs = ps ∧ ∃ t ∈ ts, p.Takes t q := by
  rw [path_choice]
  constructor
  · rintro ⟨a, ha, h⟩
    obtain ⟨t, ht, rfl⟩ := List.mem_map.1 ha
    obtain ⟨hparts, htakes⟩ := way_literal h.way
    exact ⟨hparts, t, ht, htakes⟩
  · rintro ⟨rfl, t, ht, htakes⟩
    exact ⟨_, List.mem_map_of_mem ht, path_literal htakes⟩

theorem isOpening_of_path (h : Path (sequence openingPatterns) p ps q qs) :
    qs = ps ∧ ∃ t, IsOpening t ∧ p.Takes t q := by
  obtain ⟨p₁, ps₁, hchoice, hrest⟩ := path_sequence_cons.1 h
  obtain ⟨p₂, ps₂, hblanks, hbrace⟩ := path_sequence_cons.1 hrest
  have hkeywords : Path (choice (declarationWords.map literal)) p ps p₁ ps₁ := hchoice
  obtain ⟨rfl, keyword, hkeyword, hword⟩ := path_choice_literal.1 hkeywords
  obtain ⟨rfl, b, hb, hall, -⟩ := path_many hblanks
  obtain ⟨rfl, htaken⟩ := path_is hbrace
  exact ⟨rfl, _, ⟨keyword, hkeyword, b, hall, rfl⟩, (hword.append hb).append htaken⟩

theorem path_opening (hopening : IsOpening t) (h : p.Takes t q) (ps : Parts) :
    Path (sequence openingPatterns) p ps q ps := by
  obtain ⟨keyword, hkeyword, b, hb, rfl⟩ := hopening
  obtain ⟨p₂, hworded, hbrace⟩ := h.split
  obtain ⟨p₁, hword, hblanks⟩ := hworded.split
  have hend : p₂.isBefore isBlank = false := by
    rw [Place.isBefore, hbrace.1]
    rfl
  have hpathWord : Path (choice (declarationWords.map literal)) p ps p₁ ps :=
    path_choice_literal.2 ⟨rfl, keyword, hkeyword, hword⟩
  have hpathBlanks : Path blanks p₁ ps p₂ ps := .many hblanks hb (Nat.zero_le _) fun _ => hend
  exact path_sequence_cons.2 ⟨_, _, hpathWord, path_sequence_cons.2 ⟨_, _, hpathBlanks,
    path_one_of_takes hbrace (by simp [is])⟩⟩

theorem isAssignment_of_path (h : Path (sequence assignmentPatterns) p ps q qs) :
    qs = ps ∧ ∃ t, IsAssignment t ∧ p.Takes t q := by
  obtain ⟨p₁, ps₁, hbrace, h₁⟩ := path_sequence_cons.1 h
  obtain ⟨p₂, ps₂, hblanks, h₂⟩ := path_sequence_cons.1 h₁
  obtain ⟨p₃, ps₃, hequal, hblanks'⟩ := path_sequence_cons.1 h₂
  obtain ⟨rfl, htaken⟩ := path_is hbrace
  obtain ⟨rfl, b, hb, hall, -⟩ := path_many hblanks
  obtain ⟨rfl, htaken'⟩ := path_is hequal
  obtain ⟨rfl, b', hb', hall', -⟩ := path_many hblanks'
  exact ⟨rfl, _, ⟨b, b', hall, hall', rfl⟩, htaken.append (hb.append (htaken'.append hb'))⟩

theorem path_assignment (ha : IsAssignment t) (h : p.Takes t q) (hend : q.isBefore isBlank = false)
    (ps : Parts) : Path (sequence assignmentPatterns) p ps q ps := by
  obtain ⟨b, b', hb, hb', rfl⟩ := ha
  obtain ⟨tail, htail, hrest⟩ := h.of_cons
  obtain ⟨p₁, hblanks, hequal⟩ := hrest.split
  obtain ⟨tail', htail', hblanks'⟩ := hequal.of_cons
  have hsign : p₁.isBefore isBlank = false := by
    rw [Place.isBefore, htail']
    rfl
  have hpathBlanks : Path blanks _ ps p₁ ps := .many hblanks hb (Nat.zero_le _) fun _ => hsign
  have hpathBlanks' : Path blanks _ ps q ps := .many hblanks' hb' (Nat.zero_le _) fun _ => hend
  exact path_sequence_cons.2 ⟨_, _, .one htail (by simp [is]), path_sequence_cons.2 ⟨_, _, hpathBlanks,
    path_sequence_cons.2 ⟨_, _, .one htail' (by simp [is]), hpathBlanks'⟩⟩⟩

/-- A look ahead for a code point takes nothing. -/
theorem run_notFollowedBy_one {α : Type} {f : CodePoint → Bool} {next : Place → Parts → Option α} :
    (notFollowedBy (one f)).run p ps next = if p.isBefore f then none else next p ps := by
  rw [run, run, Place.isBefore]
  cases p.rest with
  | nil => rfl
  | cons c rest =>
    rw [List.head?_cons, Option.any_some]
    dsimp only
    cases f c <;> rfl

/-- The object is taken where it stands as a whole. -/
theorem isEnvironment_of_run {α : Type} {next : Place → Parts → Option α} {r : α}
    (h : (choice [sequence environmentPatterns, sequence copyPatterns]).run p ps next = some r) :
    ∃ q object, IsEnvironment object q.rest ∧ p.Takes object q ∧ next q ps = some r := by
  change (alt (sequence environmentPatterns) (sequence copyPatterns)).run p ps next = some r at h
  rw [run] at h
  split at h
  · next r' hobject =>
    obtain rfl := Option.some.inj h
    rw [environmentPatterns, run_sequence_cons] at hobject
    obtain ⟨q, qs, hpath, hnext⟩ := run_path (by rfl) hobject
    have hobjects : Path (choice (environmentObjects.map literal)) p ps q qs := hpath
    obtain ⟨rfl, object, hmem, htakes⟩ := path_choice_literal.1 hobjects
    change (notFollowedBy _).run q qs next = some r' at hnext
    rw [run_notFollowedBy_one] at hnext
    split at hnext
    · cases hnext
    · next hend => exact ⟨q, object, .object hmem (Bool.eq_false_iff.2 hend), htakes, hnext⟩
  · obtain ⟨q, qs, hpath, hnext⟩ := run_path (by rfl) h
    obtain ⟨p₁, ps₁, hliteral, hrest⟩ := path_sequence_cons.1 hpath
    obtain ⟨p₂, ps₂, hblanks, hclose⟩ := path_sequence_cons.1 hrest
    obtain ⟨rfl, htaken⟩ := way_literal hliteral.way
    obtain ⟨rfl, b, hb, hall, -⟩ := path_many hblanks
    obtain ⟨rfl, htaken'⟩ := path_is hclose
    exact ⟨q, _, .all hall q.rest, htaken.append (hb.append htaken'), hnext⟩

theorem isSome_run_environment {α : Type} {next : Place → Parts → Option α}
    (hobject : IsEnvironment object q.rest) (h : p.Takes object q)
    (hnext : (next q ps).isSome = true) :
    ((choice [sequence environmentPatterns, sequence copyPatterns]).run p ps next).isSome = true := by
  change ((alt (sequence environmentPatterns) (sequence copyPatterns)).run p ps next).isSome = true
  generalize hrest : q.rest = rest at hobject
  cases hobject with
  | object hmem hend =>
    have hpath : Path (choice (environmentObjects.map literal)) p ps q ps :=
      path_choice_literal.2 ⟨rfl, object, hmem, h⟩
    have hsome : ((sequence environmentPatterns).run p ps next).isSome = true := by
      rw [environmentPatterns, run_sequence_cons]
      refine isSome_run hpath ?_
      change ((notFollowedBy _).run q ps next).isSome = true
      rw [run_notFollowedBy_one, Place.isBefore, hrest, hend]
      exact hnext
    obtain ⟨r, hr⟩ := Option.isSome_iff_exists.1 hsome
    rw [run_alt_of_eq_some hr]
    rfl
  | all hb =>
    obtain ⟨p₁, hliteral, hmore⟩ := h.split
    obtain ⟨p₂, hblanks, hclose⟩ := hmore.split
    have hend : p₂.isBefore isBlank = false := by
      rw [Place.isBefore, hclose.1]
      rfl
    have hpath : Path (sequence copyPatterns) p ps q ps := path_sequence_cons.2 ⟨_, _,
      path_literal hliteral, path_sequence_cons.2 ⟨_, _,
        .many hblanks hb (Nat.zero_le _) fun _ => hend, path_one_of_takes hclose (by simp [is])⟩⟩
    rw [run]
    split
    · rfl
    · exact isSome_run hpath hnext

/-! ### What starts with a taken-apart object -/

theorem isNoBrace_of_isBlank {c : CodePoint} (h : isBlank c = true) : isNoBrace c = true := by
  have hliteral : ("\x7b\x7d" : Text) = [CodePoint.ofChar '\x7b', CodePoint.ofChar '\x7d'] := rfl
  have hopen : c ≠ CodePoint.ofChar '\x7b' := by rintro rfl; cases h
  have hclose : c ≠ CodePoint.ofChar '\x7d' := by rintro rfl; cases h
  rw [isNoBrace, isNotIn, hliteral]
  simp [hopen, hclose]

/-- An opening is a word, white space and the first brace. -/
theorem IsOpening.exists_append (h : IsOpening opening) : ∃ t, opening = t ++ [CodePoint.ofChar '\x7b'] ∧
    (∀ c ∈ t, isNoBrace c = true) ∧ startsWord t = true := by
  have hkeywords : ∀ keyword ∈ declarationWords, (∀ c ∈ keyword, isNoBrace c = true) ∧
      startsWord keyword = true := by decide
  obtain ⟨keyword, hkeyword, b, hb, rfl⟩ := h
  obtain ⟨hfree, hstarts⟩ := hkeywords keyword hkeyword
  refine ⟨keyword ++ b, rfl, List.forall_mem_append.2 ⟨hfree, fun c hc =>
    isNoBrace_of_isBlank (hb c hc)⟩, ?_⟩
  cases keyword with
  | nil => cases hstarts
  | cons c keyword => exact hstarts

/-- The names stand between the first two braces. -/
theorem TakesApart.exists_append (h : TakesApart v names) : ∃ t tail,
    v = t ++ CodePoint.ofChar '\x7b' :: (names ++ CodePoint.ofChar '\x7d' :: tail) ∧
      (∀ c ∈ t, isNoBrace c = true) ∧ startsWord t = true ∧ ∀ c ∈ names, isNoBrace c = true := by
  obtain ⟨opening, a, object, rest, hopening, hnames, ⟨b, b', -, -, rfl⟩, -, rfl⟩ := h
  obtain ⟨t, rfl, hfree, hstarts⟩ := hopening.exists_append
  refine ⟨t, b ++ CodePoint.ofChar '=' :: b' ++ (object ++ rest), ?_, hfree, hstarts, hnames⟩
  simp only [List.append_assoc, List.cons_append, List.nil_append]

/-- The names are known by how a text starts. -/
theorem TakesApart.unique {names' : Text} (h : TakesApart v names) (h' : TakesApart v names') :
    names = names' := by
  obtain ⟨t, tail, rfl, hfree, -, hnames⟩ := h.exists_append
  obtain ⟨t', tail', hsame, hfree', -, hnames'⟩ := h'.exists_append
  obtain ⟨-, -, hsame⟩ := Text.append_cons_inj hfree hfree' (by decide) (by decide) hsame
  exact (Text.append_cons_inj hnames hnames' (by decide) (by decide) hsame).1

/-- What the pattern takes up to the object. -/
theorem takesApart_of_path (h : Path (sequence headPatterns) p [] q qs) :
    (p.isAfter isWord != p.isBefore isWord) = true ∧ ∃ opening names a found, IsOpening opening ∧
      (∀ c ∈ names, isNoBrace c = true) ∧ IsAssignment a ∧ p.Takes (opening ++ (names ++ a)) q ∧
      qs = [(.names, found)] ∧ found.text = names := by
  obtain ⟨p₁, ps₁, hedge, h₁⟩ := path_sequence_cons.1 h
  obtain ⟨p₂, ps₂, hopened, h₂⟩ := path_sequence_append.1 h₁
  obtain ⟨p₃, ps₃, hnames, hassign⟩ := path_sequence_cons.1 h₂
  obtain ⟨rfl, opening, hopening, htaken⟩ := isOpening_of_path hopened
  obtain ⟨ps, rfl, hway⟩ := way_part hnames.way
  obtain ⟨rfl, names, hmore, hfree, -⟩ := way_many hway
  obtain ⟨rfl, a, ha, htaken'⟩ := isAssignment_of_path hassign
  cases hedge with
  | wordEdge hedge =>
    exact ⟨hedge, opening, names, a, ⟨p₂, p₃⟩, hopening, hfree, ha,
      htaken.append (hmore.append htaken'), rfl, hmore.textTo_eq⟩

theorem exists_path_head (hedge : (p.isAfter isWord != p.isBefore isWord) = true) {a : Text}
    (hopening : IsOpening opening) (hnames : ∀ c ∈ names, isNoBrace c = true) (ha : IsAssignment a)
    (h : p.Takes (opening ++ (names ++ a)) q) (hend : q.isBefore isBlank = false) :
    ∃ qs, Path (sequence headPatterns) p [] q qs := by
  obtain ⟨p₁, hopened, hrest⟩ := h.split
  obtain ⟨p₂, hmore, hassigned⟩ := hrest.split
  have hpathNames : Path (part .names (any isNoBrace)) p₁ [] p₂ _ :=
    .part (.many hmore hnames (Nat.zero_le _) fun hgreed => by cases hgreed)
  exact ⟨_, path_sequence_cons.2 ⟨_, _, .wordEdge hedge, path_sequence_append.2 ⟨_, _,
    path_opening hopening hopened [], path_sequence_cons.2 ⟨_, _, hpathNames,
      path_assignment ha hassigned hend _⟩⟩⟩⟩

/-! ### No taken-apart object starts inside of another -/

theorem not_letter_of_isBlank {c : CodePoint} (h : isBlank c = true) : isIn "clv" c = false := by
  rw [isIn, List.contains_eq_mem, decide_eq_false_iff_not]
  intro hmem
  have hink : ∀ c ∈ ("clv" : Text), isBlank c = false := by decide
  rw [hink c hmem] at h
  cases h

/-- A letter that a declaration may start with stands inside of a word. -/
def KeepsWords (c d : CodePoint) : Prop := isIn "clv" d = true → isWord c = true

instance (c d : CodePoint) : Decidable (KeepsWords c d) := inferInstanceAs (Decidable (_ → _))

/-- Whether a text starts with such a letter. -/
def startsDeclaration (t : Text) : Bool := t.head?.any (isIn "clv")

theorem keepsWords_of_all (ht : ∀ c ∈ t, isIn "clv" c = false) : t.IsChain KeepsWords := by
  refine (List.pairwise_of_forall_mem_list fun c _ d hd hletter => ?_).isChain
  rw [ht d hd] at hletter
  cases hletter

theorem keepsWords_append (ht : t.IsChain KeepsWords) (hu : u.IsChain KeepsWords)
    (hstart : startsDeclaration u = false) : (t ++ u).IsChain KeepsWords := by
  refine List.isChain_append.2 ⟨ht, hu, fun c _ d hd hletter => ?_⟩
  rw [startsDeclaration, Option.mem_def.1 hd, Option.any_some, hletter] at hstart
  cases hstart

/-- What such a letter starts inside of a text stands behind a part of its word. -/
theorem isWord_of_keepsWords (h : (t ++ u).IsChain KeepsWords) (ht : t ≠ [])
    (hu : startsDeclaration u = true) : t.getLast?.any isWord = true := by
  obtain ⟨-, -, hjoint⟩ := List.isChain_append.1 h
  obtain ⟨d, hd, hletter⟩ := (Option.any_eq_true _ _).1 hu
  have hlast := List.getLast?_eq_some_getLast ht
  rw [hlast]
  exact hjoint _ hlast d hd hletter

theorem IsOpening.keepsWords (h : IsOpening opening) : opening.IsChain KeepsWords := by
  have hkeywords : ∀ keyword ∈ declarationWords, keyword.IsChain KeepsWords := by decide
  obtain ⟨keyword, hkeyword, b, hb, rfl⟩ := h
  have hblank := fun c hc => not_letter_of_isBlank (hb c hc)
  rw [List.append_assoc]
  refine keepsWords_append (hkeywords keyword hkeyword) (keepsWords_of_all ?_) ?_
  · exact List.forall_mem_append.2 ⟨hblank, by decide⟩
  · cases b with
    | nil => rfl
    | cons c b => exact hblank c (List.mem_cons_self ..)

theorem IsOpening.startsDeclaration (h : IsOpening opening) : startsDeclaration opening = true := by
  have hkeywords : ∀ keyword ∈ declarationWords, Signature.startsDeclaration keyword = true := by
    decide
  obtain ⟨keyword, hkeyword, b, -, rfl⟩ := h
  have hstarts := hkeywords keyword hkeyword
  cases keyword with
  | nil => cases hstarts
  | cons c keyword => exact hstarts

theorem IsAssignment.keepsWords_append {a : Text} (ha : IsAssignment a)
    (hobject : IsEnvironment object rest) : (a ++ object).IsChain KeepsWords := by
  obtain ⟨b, b', hb, hb', rfl⟩ := ha
  have hblank := fun c hc => not_letter_of_isBlank (hb c hc)
  have hblank' := fun c hc => not_letter_of_isBlank (hb' c hc)
  have hfree : ∀ c ∈ CodePoint.ofChar '\x7d' :: (b ++ CodePoint.ofChar '=' :: b'),
      isIn "clv" c = false :=
    List.forall_mem_cons.2 ⟨rfl, List.forall_mem_append.2 ⟨hblank,
      List.forall_mem_cons.2 ⟨rfl, hblank'⟩⟩⟩
  refine Signature.keepsWords_append (keepsWords_of_all hfree) ?_ ?_
  · cases hobject with
    | object hmem _ =>
      have hobjects : ∀ object ∈ environmentObjects, object.IsChain KeepsWords := by decide
      exact hobjects object hmem
    | @all b hb _ =>
      have hcopy : ("Deno.env.toObject(" : Text).IsChain KeepsWords := by decide
      refine Signature.keepsWords_append hcopy (keepsWords_of_all ?_) ?_
      · exact List.forall_mem_append.2 ⟨fun c hc => not_letter_of_isBlank (hb c hc), by decide⟩
      · cases b with
        | nil => rfl
        | cons c b => exact not_letter_of_isBlank (hb c (List.mem_cons_self ..))
  · cases hobject with
    | object hmem _ =>
      have hobjects : ∀ object ∈ environmentObjects, startsDeclaration object = false := by decide
      exact hobjects object hmem
    | all _ _ => rfl

/-- What the pattern of taken-apart objects matches. -/
theorem takesApart_of_matchAt? {m : Match} (h : destructuring.matchAt? p = some m) :
    (p.isAfter isWord != p.isBefore isWord) = true ∧ ∃ opening a object,
      IsOpening opening ∧ (∀ c ∈ m.textOf .names, isNoBrace c = true) ∧ IsAssignment a ∧
        IsEnvironment object m.stop.rest ∧
        p.Takes (opening ++ (m.textOf .names ++ (a ++ object))) m.stop := by
  rw [matchAt?, destructuring_eq, run_sequence_append] at h
  obtain ⟨q, qs, hpath, hrun⟩ := run_path (by rfl) h
  obtain ⟨hedge, opening, names, a, found, hopening, hnames, ha, htakes, rfl, htext⟩ :=
    takesApart_of_path hpath
  obtain ⟨stop, object, hobject, htaken, hm⟩ := isEnvironment_of_run hrun
  obtain rfl := Option.some.inj hm
  obtain rfl : Match.textOf .names ⟨p, stop, [(.names, found)]⟩ = names := htext
  refine ⟨hedge, opening, a, object, hopening, hnames, ha, hobject, ?_⟩
  have hall := htakes.append htaken
  rwa [List.append_assoc, List.append_assoc] at hall

/-- Where the first brace ahead closes, no object is taken apart. -/
theorem TakesApart.ne_of_noBrace (h : TakesApart v names) {x y : Text}
    (hx : ∀ c ∈ x, isNoBrace c = true) : v ≠ x ++ CodePoint.ofChar '\x7d' :: y := by
  intro heq
  obtain ⟨t, tail, hv, ht, -⟩ := h.exists_append
  obtain ⟨-, hbrace, -⟩ := Text.append_cons_inj hx ht (by decide) (by decide) (heq.symm.trans hv)
  cases hbrace

/-- Inside of an object that is taken apart none is. -/
theorem not_takesApart_inside {a x y : Text} (hopening : IsOpening opening)
    (hnames : ∀ c ∈ names, isNoBrace c = true) (ha : IsAssignment a)
    (hobject : IsEnvironment object rest) (hsame : opening ++ (names ++ (a ++ object)) = x ++ y)
    (hx : x ≠ []) (hy : y ≠ []) (hafter : x.getLast?.any isWord = false) (names' : Text) :
    ¬TakesApart (y ++ rest) names' := by
  intro h
  have hstarts : startsDeclaration (y ++ rest) = true := by
    obtain ⟨opening', _, _, _, hopening', -, -, -, hv⟩ := h
    have hstart := hopening'.startsDeclaration
    rw [hv]
    cases opening' with
    | nil => cases hstart
    | cons c opening' => exact hstart
  have hbrace : ∃ tail, a = CodePoint.ofChar '\x7d' :: tail := by
    obtain ⟨b, b', -, -, rfl⟩ := ha
    exact ⟨_, rfl⟩
  obtain ⟨tail, hatail⟩ := hbrace
  -- The names go on up to a closing brace, and an object opens with the other one.
  have hwithin (n : Text) (hn : ∀ c ∈ n, isNoBrace c = true) : y ≠ n ++ (a ++ object) := by
    rintro rfl
    refine h.ne_of_noBrace (y := tail ++ object ++ rest) hn ?_
    rw [hatail]
    simp only [List.append_assoc, List.cons_append]
  have hkept {x' y' : Text} (hchain : (x' ++ y').IsChain KeepsWords) (hx' : x' ≠ []) (hy' : y' ≠ [])
      (hlast : x'.getLast? = x.getLast?) : ¬∃ z, y = y' ++ z := by
    rintro ⟨z, rfl⟩
    have hletter : startsDeclaration y' = true := by
      cases y' with
      | nil => exact absurd rfl hy'
      | cons c y' => exact hstarts
    have hword := isWord_of_keepsWords hchain hx' hletter
    rw [hlast, hafter] at hword
    cases hword
  rcases List.append_eq_append_iff.1 hsame with ⟨x', rfl, hrest⟩ | ⟨y', rfl, rfl⟩
  · rcases List.append_eq_append_iff.1 hrest with ⟨x'', rfl, hrest'⟩ | ⟨y', rfl, rfl⟩
    · by_cases hx'' : x'' = []
      · subst hx''
        exact hwithin [] (List.forall_mem_nil _) hrest'.symm
      · refine hkept (hrest' ▸ ha.keepsWords_append hobject) hx'' hy ?_ ⟨[], by simp⟩
        rw [List.getLast?_append_of_ne_nil _ (by simp [hx'']),
          List.getLast?_append_of_ne_nil _ hx'']
    · exact hwithin y' (fun c hc => hnames c (List.mem_append_right _ hc)) rfl
  · by_cases hy' : y' = []
    · subst hy'
      exact hwithin names hnames (List.nil_append _)
    · exact hkept hopening.keepsWords hx hy' rfl ⟨_, rfl⟩

theorem startsWord_of_isOpening (h : IsOpening opening) : startsWord opening = true := by
  obtain ⟨t, rfl, -, hstarts⟩ := h.exists_append
  cases t with
  | nil => cases hstarts
  | cons c t => exact hstarts

theorem isBefore_of_isEnvironment (h : IsEnvironment object rest) (hp : p.rest = object ++ rest) :
    p.isBefore isBlank = false := by
  rw [Place.isBefore, hp]
  cases h with
  | object hmem _ =>
    have hink : ∀ object ∈ environmentObjects, object.head?.any isBlank = false ∧ object ≠ [] := by
      decide
    obtain ⟨hhead, hne⟩ := hink object hmem
    rwa [List.head?_append_of_ne_nil _ hne]
  | all _ _ => rfl

theorem finds_destructuring : Finds destructuring .names TakesApart := by
  have hfound {p : Place} {m : Match} (hm : destructuring.matchAt? p = some m) :
      p.isAfter isWord = false ∧ TakesApart p.rest (m.textOf .names) := by
    obtain ⟨hedge, opening, a, object, hopening, hnames, ha, hobject, htakes⟩ :=
      takesApart_of_matchAt? hm
    have hrest : p.rest = opening ++ (m.textOf .names ++ (a ++ (object ++ m.stop.rest))) := by
      rw [htakes.1]
      simp only [List.append_assoc]
    exact ⟨(isWordEdge_iff (startsWord_of_isOpening hopening) ⟨_, hrest.symm⟩).1 hedge, opening, a,
      object, m.stop.rest, hopening, hnames, ha, hobject, hrest⟩
  have hapart : destructuring.StandsApart := by
    intro p r m hm hr hlt hlt'
    rw [Option.eq_none_iff_forall_ne_some]
    intro m' hm'
    obtain ⟨-, opening, a, object, hopening, hnames, ha, hobject, htakes⟩ :=
      takesApart_of_matchAt? hm
    obtain ⟨x, hx⟩ := hr
    obtain ⟨y, hy⟩ := Place.Reaches.of_le ⟨x, hx⟩ ⟨_, htakes⟩ (Nat.le_of_lt hlt')
    obtain ⟨hafter, hother⟩ := hfound hm'
    have hxne : x ≠ [] := by
      rintro rfl
      exact absurd hx.2.1 (Nat.ne_of_gt hlt)
    have hyne : y ≠ [] := by
      rintro rfl
      exact absurd hy.2.1 (Nat.ne_of_gt hlt')
    have hsame : opening ++ (m.textOf .names ++ (a ++ object)) = x ++ y := by
      have hrest := htakes.1
      rw [hx.1, hy.1, ← List.append_assoc] at hrest
      exact (List.append_cancel_right hrest).symm
    rw [hy.1] at hother
    refine not_takesApart_inside hopening hnames ha hobject hsame hxne hyne ?_ _ hother
    rw [Place.isAfter, hx.2.2, List.getLast?_eq_some_getLast hxne, Option.some_or] at hafter
    rwa [List.getLast?_eq_some_getLast hxne]
  refine finds_of_standsApart hapart fun p names => ⟨?_, ?_⟩
  · rintro ⟨m, hm, -, rfl⟩
    exact hfound hm
  · rintro ⟨hafter, hnames⟩
    have hnames' := hnames
    obtain ⟨opening, a, object, rest, hopening, hfree, ha, hobject, hrest⟩ := hnames
    have hedge := (isWordEdge_iff (startsWord_of_isOpening hopening) ⟨_, hrest.symm⟩).2 hafter
    have hsplit : p.rest = opening ++ (names ++ a) ++ (object ++ rest) := by
      rw [hrest]
      simp only [List.append_assoc]
    obtain ⟨q, hq, hqrest⟩ := Place.exists_takes hsplit
    obtain ⟨stop, hstop, rfl⟩ := Place.exists_takes hqrest
    obtain ⟨qs, hpath⟩ := exists_path_head hedge hopening hfree ha hq
      (isBefore_of_isEnvironment hobject hqrest)
    have hsome : (destructuring.matchAt? p).isSome = true := by
      rw [matchAt?, destructuring_eq, run_sequence_append]
      exact isSome_run hpath (isSome_run_environment hobject hstop rfl)
    obtain ⟨m, hm⟩ := Option.isSome_iff_exists.1 hsome
    refine ⟨m, hm, ?_, ((hfound hm).2).unique hnames'⟩
    obtain ⟨-, opening', a', object', hopening', -, -, -, htakes⟩ := takesApart_of_matchAt? hm
    have hlength := htakes.2.1
    have hpos : 0 < opening'.length := by
      obtain ⟨t, rfl, -⟩ := hopening'.exists_append
      simp
    rw [List.length_append] at hlength
    omega

/-! ## The variables that a text reads -/

/-- What starts with the reading of a variable. -/
def StartsReading (v name : Text) : Prop :=
  Refers v name ∨ ∃ names, TakesApart v names ∧ ∃ part ∈ Text.splitOn ',' names,
    takenName? part = some name

theorem mem_variableReferences {pat : Pattern} : pat ∈ variableReferences ↔
    (∃ object ∈ environmentObjects, pat = memberOf object) ∨
      (∃ opening ∈ quoteOpenings, pat = quotedAfter opening) ∨
        ∃ o ∈ bracketOpenings, pat = quotedInside o.1 o.2 := by
  simp only [variableReferences, environmentObjects, quoteOpenings, bracketOpenings, List.mem_cons,
    List.not_mem_nil, or_false, exists_eq_or_imp, exists_eq_left]
  exact Iff.of_eq (by ac_rfl)

/-- The patterns of references find what any of them starts. -/
theorem exists_mem_findAll_iff_refers :
    (∃ pat ∈ variableReferences, ∃ m ∈ pat.findAll t, m.textOf .variable = name) ↔
      ∃ u v, t = u ++ v ∧ u.getLast?.any isWord = false ∧ Refers v name := by
  constructor
  · rintro ⟨pat, hpat, hm⟩
    rcases mem_variableReferences.1 hpat with
      ⟨object, hobject, rfl⟩ | ⟨opening, hopening, rfl⟩ | ⟨o, hopening, rfl⟩
    · obtain ⟨u, v, ht, hu, rest, rfl, hname, hend⟩ := (finds_memberOf hobject t name).1 hm
      exact ⟨u, _, ht, hu, .member hobject hname hend⟩
    · obtain ⟨u, v, ht, hu, w, e, rest, rfl, hw, rfl⟩ := (finds_quotedAfter hopening t name).1 hm
      exact ⟨u, _, ht, hu, .quoted hopening hw rest⟩
    · obtain ⟨u, v, ht, hu, w, e, rest, rfl, hw, b, hb, rfl⟩ :=
        (finds_quotedInside hopening t name).1 hm
      rw [List.append_assoc] at ht
      exact ⟨u, _, ht, hu, .bracketed hopening hw hb rest⟩
  · rintro ⟨u, v, ht, hu, hrefers⟩
    cases hrefers with
    | @member object name rest hobject hname hend =>
      exact ⟨_, mem_variableReferences.2 (.inl ⟨object, hobject, rfl⟩),
        (finds_memberOf hobject t name).2 ⟨u, _, ht, hu, rest, rfl, hname, hend⟩⟩
    | @quoted opening w name hopening hw rest =>
      exact ⟨_, mem_variableReferences.2 (.inr (.inl ⟨opening, hopening, rfl⟩)),
        (finds_quotedAfter hopening t name).2 ⟨u, _, ht, hu, w, [], rest, rfl, hw, rfl⟩⟩
    | @bracketed opening w b name closing hopening hw hb rest =>
      refine ⟨_, mem_variableReferences.2 (.inr (.inr ⟨_, hopening, rfl⟩)),
        (finds_quotedInside hopening t name).2 ⟨u, _, ht, hu, w, _, rest, ?_, hw, b, hb, rfl⟩⟩
      rw [List.append_assoc]
      rfl

/-- A text reads the variables that are read at any of its places that no word runs into. -/
theorem mem_variableReads : name ∈ variableReads t ↔
    ∃ u v, t = u ++ v ∧ u.getLast?.any isWord = false ∧ StartsReading v name := by
  have hreferences : name ∈ variableReferences.flatMap (fun p =>
      (p.findAll t).map (·.textOf .variable)) ↔
        ∃ pat ∈ variableReferences, ∃ m ∈ pat.findAll t, m.textOf .variable = name := by
    simp only [List.mem_flatMap, List.mem_map]
  have htaken : name ∈ (destructuring.findAll t).flatMap (fun m =>
      (Text.splitOn ',' (m.textOf .names)).filterMap takenName?) ↔
        ∃ u v, t = u ++ v ∧ u.getLast?.any isWord = false ∧ ∃ names, TakesApart v names ∧
          ∃ part ∈ Text.splitOn ',' names, takenName? part = some name := by
    simp only [List.mem_flatMap, List.mem_filterMap]
    constructor
    · rintro ⟨m, hm, hpart⟩
      obtain ⟨u, v, ht, hu, happart⟩ := (finds_destructuring t _).1 ⟨m, hm, rfl⟩
      exact ⟨u, v, ht, hu, _, happart, hpart⟩
    · rintro ⟨u, v, ht, hu, names, happart, hpart⟩
      obtain ⟨m, hm, rfl⟩ := (finds_destructuring t names).2 ⟨u, v, ht, hu, happart⟩
      exact ⟨m, hm, hpart⟩
  rw [variableReads, List.mem_append, hreferences, htaken, exists_mem_findAll_iff_refers]
  unfold StartsReading
  constructor
  · rintro (⟨u, v, ht, hu, h⟩ | ⟨u, v, ht, hu, h⟩)
    · exact ⟨u, v, ht, hu, .inl h⟩
    · exact ⟨u, v, ht, hu, .inr h⟩
  · rintro ⟨u, v, ht, hu, h | h⟩
    · exact .inl ⟨u, v, ht, hu, h⟩
    · exact .inr ⟨u, v, ht, hu, h⟩

theorem mem_variablesIn : name ∈ variablesIn t ↔ name ∈ variableReads t := by
  rw [variablesIn, Text.sort, (Sorting.sort_perm _).mem_iff, Text.mem_distinct]

theorem isVariableName_of_matchesWhole (h : variableName.matchesWhole t = true) :
    IsVariableName t := by
  obtain ⟨m, hm⟩ := Option.isSome_iff_exists.1 h
  obtain ⟨q, qs, hway, hend⟩ := way_seq.1 (way_of_matchAt? hm).2
  obtain ⟨-, name, hname, htakes⟩ := isVariableName_of_way hway
  cases hend with
  | textEnd hend =>
    have hwhole : t = name ++ m.stop.rest := htakes.1
    rw [List.isEmpty_iff.1 hend, List.append_nil] at hwhole
    exact hwhole ▸ hname

/-- What is read of an object that is taken apart is the name of a variable. -/
theorem isVariableName_of_takenName? {part : Text} (h : takenName? part = some name) :
    IsVariableName name := by
  unfold takenName? at h
  dsimp only at h
  split at h
  · next hmatches => exact Option.some.inj h ▸ isVariableName_of_matchesWhole hmatches
  · cases h

theorem StartsReading.isVariableName (h : StartsReading v name) : IsVariableName name := by
  rcases h with h | ⟨names, -, part, -, hname⟩
  · cases h with
    | member _ hname _ => exact hname
    | quoted _ hw _ =>
      obtain ⟨-, -, -, -, -, -, hname, -⟩ := hw
      exact hname
    | bracketed _ hw _ _ =>
      obtain ⟨-, -, -, -, -, -, hname, -⟩ := hw
      exact hname
  · exact isVariableName_of_takenName? hname

theorem isVariableName_of_mem_variableReads (h : name ∈ variableReads t) : IsVariableName name := by
  obtain ⟨u, v, -, -, hread⟩ := mem_variableReads.1 h
  exact hread.isVariableName

end Signature

end Decouple
