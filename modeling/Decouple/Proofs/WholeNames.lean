import Decouple.Proofs.References
import Decouple.Proofs.Removal.Plugins

/-!
# Whether names of variables are read whole

A reference `process.env.d` stands between texts that read nothing.  It reads the part of `d` that a
variable's name can begin with, and that is not always all of `d`: of `Foo` it reads `F`.

Nothing else is read in the whole text unless a reference starts in the identifier `d` itself, or
the reference stands among the names of an environment object that is taken apart around it
(`mem_variableReads_around`).  So no other name than `d` is read exactly if `d` is a variable's name
or does not begin as one, and neither of these reads another (`whole_name_read_iff`).
-/

namespace Decouple

open CodePoint (isIn isNotIn isWord isBlank isLower)

namespace Signature

open Pattern

variable {object d name names opening t u v w A B ref rest : Text}

/-- An identifier: ASCII letters, digits and underscores, with no digit first. -/
structure IsIdentifier (d : Text) : Prop where
  starts : (d.head?.any fun c : CodePoint => c.isLetter || c = '_') = true
  all : ∀ c ∈ d, (c.isLetterOrDigit || decide (c = '_')) = true

/-- A reference stands among the names of an environment object that is taken apart around it, and a
name among these is read. -/
def TakenAround (A ref B name : Text) : Prop :=
  ∃ u opening n n' a object rest, A = u ++ (opening ++ n) ∧ B = n' ++ (a ++ (object ++ rest)) ∧
    u.getLast?.any isWord = false ∧ IsOpening opening ∧ (∀ c ∈ n ++ n', isNoBrace c = true) ∧
    IsAssignment a ∧ IsEnvironment object rest ∧
    ∃ part ∈ Text.splitOn ',' (n ++ (ref ++ n')), takenName? part = some name

theorem IsIdentifier.ne_nil (h : IsIdentifier d) : d ≠ [] := by
  rintro rfl
  cases h.starts

theorem IsIdentifier.isWord (h : IsIdentifier d) : ∀ c ∈ d, isWord c = true := by
  intro c hc
  have hplain := h.all c hc
  rw [Bool.or_eq_true, decide_eq_true_eq] at hplain
  rcases hplain with hplain | rfl
  · have hascii : c.val < 128 := by
      simp [CodePoint.isLetterOrDigit, CodePoint.isLetter, CodePoint.isUpper, CodePoint.isLower,
        CodePoint.isDigit] at hplain
      omega
    rw [CodePoint.isWord, if_pos hascii, hplain]
    rfl
  · rfl

theorem isWord_of_isVariableRest {c : CodePoint} (h : isVariableRest c = true) :
    isWord c = true := by
  rw [isVariableRest, Bool.or_eq_true, Bool.or_eq_true, decide_eq_true_eq] at h
  rcases h with (h | h) | rfl
  · have hascii : c.val < 128 := by
      simp [CodePoint.isUpper] at h
      omega
    simp [CodePoint.isWord, hascii, CodePoint.isLetterOrDigit, CodePoint.isLetter, h]
  · have hascii : c.val < 128 := by
      simp [CodePoint.isDigit] at h
      omega
    simp [CodePoint.isWord, hascii, CodePoint.isLetterOrDigit, h]
  · rfl

theorem isWord_of_isLower {c : CodePoint} (h : isLower c = true) : isWord c = true := by
  have hascii : c.val < 128 := by
    simp [CodePoint.isLower] at h
    omega
  simp [CodePoint.isWord, hascii, CodePoint.isLetterOrDigit, CodePoint.isLetter, h]

/-! ## What readings start with -/

/-- What a reading can start with. -/
def readingStarts : List Text :=
  environmentObjects.map (fun object => object ++ ("." : Text)) ++
    (quoteOpenings ++ (bracketOpenings.map Prod.fst ++ declarationWords))

theorem IsOpening.exists_keyword (h : IsOpening opening) :
    ∃ keyword ∈ declarationWords, keyword <+: opening := by
  obtain ⟨keyword, hkeyword, b, -, rfl⟩ := h
  rw [List.append_assoc]
  exact ⟨keyword, hkeyword, List.prefix_append _ _⟩

theorem TakesApart.exists_keyword (h : TakesApart v names) :
    ∃ keyword ∈ declarationWords, keyword <+: v := by
  obtain ⟨opening, a, object, rest, hopening, -, -, -, rfl⟩ := h
  obtain ⟨keyword, hkeyword, hstart⟩ := hopening.exists_keyword
  exact ⟨keyword, hkeyword, hstart.trans (List.prefix_append _ _)⟩

theorem StartsReading.exists_start (h : StartsReading v name) :
    ∃ start ∈ readingStarts, start <+: v := by
  unfold readingStarts
  rcases h with h | ⟨names, h, -⟩
  · cases h with
    | member hobject _ _ =>
      exact ⟨_, List.mem_append_left _ (List.mem_map_of_mem hobject), List.prefix_append _ _⟩
    | quoted hopening _ rest =>
      exact ⟨_, List.mem_append_right _ (List.mem_append_left _ hopening), List.prefix_append _ _⟩
    | bracketed hopening _ _ rest =>
      exact ⟨_, List.mem_append_right _ (List.mem_append_right _ (List.mem_append_left _
        (List.mem_map_of_mem hopening))), List.prefix_append _ _⟩
  · obtain ⟨keyword, hkeyword, hstart⟩ := h.exists_keyword
    exact ⟨keyword, List.mem_append_right _ (List.mem_append_right _ (List.mem_append_right _
      hkeyword)), hstart⟩

/-- Of two beginnings of a text one begins the other. -/
theorem isPrefixOf_or_isPrefixOf (ht : t <+: v) (hu : u <+: v) :
    (t.isPrefixOf u || u.isPrefixOf t) = true := by
  rw [Bool.or_eq_true, List.isPrefixOf_iff_prefix, List.isPrefixOf_iff_prefix]
  exact List.prefix_or_prefix_of_prefix ht hu

/-- Where a text goes on with an ending of an environment object, nothing starts but a reference to
a member of that object. -/
theorem eq_of_begins (hobject : object ∈ environmentObjects) {x start : Text}
    (hx : x <:+ object ++ ".") (hne : x ≠ []) (hstart : start ∈ readingStarts)
    (hbegins : start <+: x ++ u) : x = object ++ "." ∧ start = object ++ "." := by
  have htable : ∀ object ∈ environmentObjects, ∀ x ∈ (object ++ ".").tails, x ≠ [] →
      ∀ start ∈ readingStarts, (start.isPrefixOf x || x.isPrefixOf start) = true →
        x = object ++ "." ∧ start = object ++ "." := by decide +kernel
  exact htable object hobject x ((List.mem_tails _ _).2 hx) hne start hstart
    (isPrefixOf_or_isPrefixOf hbegins (List.prefix_append x u))

/-! ## Readings that start in front of a word -/

/-- No word starts behind white space. -/
def IsTight (t : Text) : Prop := t.IsChain fun c d => isBlank c = true → isWord d = false

theorem isTight_of_not_isBlank (h : ∀ c ∈ t, isBlank c = false) : IsTight t := by
  refine (List.pairwise_of_forall_mem_list fun c hc _ _ hblank => ?_).isChain
  rw [h c hc] at hblank
  cases hblank

theorem isTight_of_not_isWord (h : ∀ c ∈ t, isWord c = false) : IsTight t := by
  refine (List.pairwise_of_forall_mem_list fun _ _ d hd _ => ?_).isChain
  exact h d hd

theorem isTight_append (ht : IsTight t) (hu : IsTight u)
    (hjoint : t.getLast?.any isBlank = false ∨ startsWord u = false) : IsTight (t ++ u) := by
  refine List.isChain_append.2 ⟨ht, hu, fun c hc d hd hblank => ?_⟩
  rcases hjoint with h | h
  · rw [Option.mem_def.1 hc, Option.any_some, hblank] at h
    cases h
  · rwa [startsWord, Option.mem_def.1 hd, Option.any_some] at h

/-- White space is not followed by a word inside of a tight text. -/
theorem not_isTight (ht : t.getLast?.any isBlank = true) (hu : startsWord u = true) :
    ¬IsTight (t ++ u) := by
  intro h
  obtain ⟨-, -, hjoint⟩ := List.isChain_append.1 h
  obtain ⟨c, hc, hblank⟩ := (Option.any_eq_true _ _).1 ht
  obtain ⟨d, hd, hword⟩ := (Option.any_eq_true _ _).1 hu
  have hnot := hjoint c hc d hd hblank
  rw [hword] at hnot
  cases hnot

/-- A tight text that starts in front of white space and a word ends there. -/
theorem IsTight.exists_append (ht : IsTight t) (hw : w.getLast?.any isBlank = true)
    (hu : startsWord u = true) (hsplit : w ++ u = t ++ rest) : ∃ x, w = t ++ x ∧ rest = x ++ u := by
  rcases List.append_eq_append_iff.1 hsplit with ⟨x, rfl, hx⟩ | ⟨x, rfl, hx⟩
  · cases x with
    | nil => exact ⟨[], by simp, hx.symm⟩
    | cons c x =>
      rw [hx] at hu
      exact absurd ht (not_isTight (u := c :: x) hw hu)
  · exact ⟨x, rfl, hx⟩

theorem isWord_of_isBlank {c : CodePoint} (h : isBlank c = true) : isWord c = false := by
  refine Bool.eq_false_iff.2 fun hword => ?_
  rw [CodePoint.isBlank_of_isWord hword] at h
  cases h

theorem isTight_quoted (hw : IsQuoted w name) : IsTight w := by
  obtain ⟨b, c, c', hb, hc, hc', hname, rfl⟩ := hw
  have hword : isWord c = false := by
    rcases isIn_quotes hc with rfl | rfl <;> rfl
  have hink : ∀ d ∈ c :: (name ++ [c']), isBlank d = false := by
    refine List.forall_mem_cons.2 ⟨isBlank_of_isIn_quotes hc, List.forall_mem_append.2
      ⟨fun d hd => ?_, by simpa using isBlank_of_isIn_quotes hc'⟩⟩
    exact CodePoint.isBlank_of_isWord (isWord_of_isVariableRest (hname.isVariableRest d hd))
  refine isTight_append (isTight_of_not_isWord fun d hd => isWord_of_isBlank (hb d hd))
    (isTight_of_not_isBlank hink) (.inr hword)

theorem startsWord_quoted (hw : IsQuoted w name) (u : Text) : startsWord (w ++ u) = false := by
  obtain ⟨b, c, c', hb, hc, -, -, rfl⟩ := hw
  cases b with
  | nil => rcases isIn_quotes hc with rfl | rfl <;> rfl
  | cons d b => exact isWord_of_isBlank (hb d (List.mem_cons_self ..))

/-- A reference is a tight text, whatever follows, unless the name goes on. -/
theorem Refers.exists_tight (h : Refers v name) : ∃ s rest, v = s ++ rest ∧ IsTight s ∧
    ∀ rest' : Text, (rest' = [] ∨ rest'.head? = rest.head?) → Refers (s ++ rest') name := by
  cases h with
  | @member object name rest hobject hname hend =>
    have hink : ∀ object ∈ environmentObjects, ∀ c ∈ object ++ ".", isBlank c = false := by decide
    refine ⟨object ++ "." ++ name, rest, (List.append_assoc ..).symm, ?_, fun rest' h => ?_⟩
    · refine isTight_of_not_isBlank (List.forall_mem_append.2 ⟨hink object hobject, fun c hc => ?_⟩)
      exact CodePoint.isBlank_of_isWord (isWord_of_isVariableRest (hname.isVariableRest c hc))
    · rw [List.append_assoc]
      refine .member hobject hname ?_
      rcases h with rfl | h
      · rfl
      · rwa [h]
  | @quoted opening w name hopening hw rest =>
    have hink : ∀ opening ∈ quoteOpenings, ∀ c ∈ opening, isBlank c = false := by decide
    refine ⟨opening ++ w, rest, (List.append_assoc ..).symm, ?_, fun rest' _ => ?_⟩
    · refine isTight_append (isTight_of_not_isBlank (hink opening hopening)) (isTight_quoted hw)
        (.inr ?_)
      simpa using startsWord_quoted hw []
    · rw [List.append_assoc]
      exact .quoted hopening hw rest'
  | @bracketed opening w b name closing hopening hw hb rest =>
    have hink : ∀ o ∈ bracketOpenings, (∀ c ∈ o.1, isBlank c = false) ∧ isWord o.2 = false := by
      decide
    obtain ⟨hopen, hclose⟩ := hink _ hopening
    refine ⟨opening ++ (w ++ (b ++ [CodePoint.ofChar closing])), rest, by simp, ?_,
      fun rest' _ => ?_⟩
    · have hend : ∀ c ∈ b ++ [CodePoint.ofChar closing], isWord c = false :=
        List.forall_mem_append.2 ⟨fun c hc => isWord_of_isBlank (hb c hc), by simpa using hclose⟩
      have hhead : startsWord (b ++ [CodePoint.ofChar closing]) = false := by
        cases b with
        | nil => exact hclose
        | cons c b => exact isWord_of_isBlank (hb c (List.mem_cons_self ..))
      exact isTight_append (isTight_of_not_isBlank hopen) (isTight_append (isTight_quoted hw)
        (isTight_of_not_isWord hend) (.inr hhead)) (.inr (startsWord_quoted hw _))
    · have hrefers := Refers.bracketed hopening hw hb rest'
      simpa using hrefers

/-- A reference that starts in front of white space and a word ends there. -/
theorem Refers.of_append (h : Refers (w ++ u) name) (hw : w.getLast?.any isBlank = true)
    (hu : startsWord u = true) : Refers w name := by
  obtain ⟨s, rest, hsplit, htight, hrefers⟩ := h.exists_tight
  obtain ⟨x, rfl, rfl⟩ := htight.exists_append hw hu hsplit
  refine hrefers x ?_
  cases x with
  | nil => exact .inl rfl
  | cons c x => exact .inr rfl

theorem IsOpening.isTight (h : IsOpening opening) : IsTight opening := by
  have hink : ∀ keyword ∈ declarationWords, ∀ c ∈ keyword, isBlank c = false := by decide
  obtain ⟨keyword, hkeyword, b, hb, rfl⟩ := h
  rw [List.append_assoc]
  have hend : ∀ c ∈ b ++ [CodePoint.ofChar '\x7b'], isWord c = false :=
    List.forall_mem_append.2 ⟨fun c hc => isWord_of_isBlank (hb c hc), by decide⟩
  refine isTight_append (isTight_of_not_isBlank (hink keyword hkeyword))
    (isTight_of_not_isWord hend) (.inr ?_)
  cases b with
  | nil => rfl
  | cons c b => exact isWord_of_isBlank (hb c (List.mem_cons_self ..))

theorem IsAssignment.not_isWord {a : Text} (h : IsAssignment a) : ∀ c ∈ a, isWord c = false := by
  obtain ⟨b, b', hb, hb', rfl⟩ := h
  have hblank := fun c hc => isWord_of_isBlank (hb c hc)
  have hblank' := fun c hc => isWord_of_isBlank (hb' c hc)
  exact List.forall_mem_cons.2 ⟨rfl, List.forall_mem_append.2 ⟨hblank,
    List.forall_mem_cons.2 ⟨rfl, hblank'⟩⟩⟩

theorem IsEnvironment.isTight (h : IsEnvironment object rest) : IsTight object := by
  cases h with
  | object hobject _ =>
    have hink : ∀ object ∈ environmentObjects, ∀ c ∈ object, isBlank c = false := by decide
    exact isTight_of_not_isBlank (hink object hobject)
  | @all b hb _ =>
    have hink : ∀ c ∈ ("Deno.env.toObject(" : Text), isBlank c = false := by decide
    have hend : ∀ c ∈ b ++ [CodePoint.ofChar ')'], isWord c = false :=
      List.forall_mem_append.2 ⟨fun c hc => isWord_of_isBlank (hb c hc), by decide⟩
    refine isTight_append (isTight_of_not_isBlank hink) (isTight_of_not_isWord hend) (.inr ?_)
    cases b with
    | nil => rfl
    | cons c b => exact isWord_of_isBlank (hb c (List.mem_cons_self ..))

/-- An environment object is one as a whole whatever follows, unless that is a word or an access to
a member. -/
theorem IsEnvironment.of_rest {rest' : Text} (h : IsEnvironment object rest)
    (hrest : rest' = [] ∨ rest'.head? = rest.head?) : IsEnvironment object rest' := by
  cases h with
  | object hobject hend =>
    refine .object hobject ?_
    rcases hrest with rfl | hrest
    · rfl
    · rwa [hrest]
  | all hb _ => exact .all hb rest'

/-- A member of an environment object is not that object as a whole. -/
theorem ne_of_isEnvironment {object' : Text} (hobject : object ∈ environmentObjects)
    (h : IsEnvironment object' rest) : object' ++ rest ≠ object ++ "." ++ u := by
  intro hsame
  have hmember : (object ++ "." : Text) <+: object' ++ rest := ⟨u, hsame.symm⟩
  cases h with
  | @object _ rest hobject' hend =>
    -- Of two environment objects neither begins the other.
    have htable : ∀ object ∈ environmentObjects, ∀ object' ∈ environmentObjects,
        (List.isPrefixOf object' (object ++ ".") ||
          List.isPrefixOf (object ++ "." : Text) object') = true → object' = object := by
      decide +kernel
    obtain rfl := htable object hobject object' hobject'
      (isPrefixOf_or_isPrefixOf (List.prefix_append object' rest) hmember)
    rw [List.append_assoc] at hsame
    rw [List.append_cancel_left hsame] at hend
    cases hend
  | @all b hb _ =>
    have htable : ∀ object ∈ environmentObjects,
        (List.isPrefixOf ("Deno.env.toObject(" : Text) (object ++ ".") ||
          List.isPrefixOf (object ++ "." : Text) ("Deno.env.toObject(" : Text)) = false := by
      decide +kernel
    have hcopy : ("Deno.env.toObject(" : Text) <+:
        ("Deno.env.toObject(" : Text) ++ (b ++ [CodePoint.ofChar ')']) ++ rest := by
      rw [List.append_assoc]
      exact List.prefix_append _ _
    have hnot := htable object hobject
    rw [isPrefixOf_or_isPrefixOf hcopy hmember] at hnot
    cases hnot

theorem startsWord_append (h : startsWord t = true) (u : Text) : startsWord (t ++ u) = true := by
  cases t with
  | nil => cases h
  | cons c t => exact h

theorem startsWord_member (hobject : object ∈ environmentObjects) (u : Text) :
    startsWord (object ++ "." ++ u) = true := by
  have hwords : ∀ object ∈ environmentObjects, startsWord (object ++ ".") = true := by decide
  exact startsWord_append (hwords object hobject) u

/-- An object that is assigned in front of white space and a member of an environment object ends
there, for what stands before the object is no word and the object is not that of the member. -/
theorem IsAssignment.exists_append {a object' : Text} (ha : IsAssignment a)
    (hobject' : IsEnvironment object' rest) (hobject : object ∈ environmentObjects)
    (hw : w ≠ [] → w.getLast?.any isBlank = true)
    (hsplit : w ++ (object ++ "." ++ u) = a ++ (object' ++ rest)) :
    ∃ rest', w = a ++ (object' ++ rest') ∧ IsEnvironment object' rest' := by
  have hstarts := startsWord_member hobject u
  obtain ⟨v, rfl, hv⟩ : ∃ v, w = a ++ v ∧ object' ++ rest = v ++ (object ++ "." ++ u) := by
    rcases List.append_eq_append_iff.1 hsplit with ⟨x, rfl, hx⟩ | ⟨v, rfl, hv⟩
    · cases x with
      | nil => exact ⟨[], by simp, hx.symm⟩
      | cons c x =>
        rw [hx, List.cons_append, startsWord, List.head?_cons, Option.any_some,
          ha.not_isWord c (by simp)] at hstarts
        cases hstarts
    · exact ⟨v, rfl, hv⟩
  have hne : v ≠ [] := by
    rintro rfl
    exact ne_of_isEnvironment hobject hobject' hv
  have hlast : v.getLast?.any isBlank = true := by
    have hlast := hw (by simp [hne])
    rwa [List.getLast?_append_of_ne_nil _ hne] at hlast
  obtain ⟨rest', rfl, rfl⟩ := hobject'.isTight.exists_append hlast hstarts hv.symm
  refine ⟨rest', rfl, hobject'.of_rest ?_⟩
  cases rest' with
  | nil => exact .inl rfl
  | cons c rest' => exact .inr rfl

/-- An object that is taken apart in front of white space and a member of an environment object ends
there, or has the member among its names. -/
theorem TakesApart.of_append (h : TakesApart (w ++ (ref ++ B)) names)
    (hw : w.getLast?.any isBlank = true) (hobject : object ∈ environmentObjects)
    (href : ref = object ++ "." ++ d) (hfree : ∀ c ∈ ref, isNoBrace c = true) :
    TakesApart w names ∨ ∃ opening n n' a object rest, w = opening ++ n ∧
      B = n' ++ (a ++ (object ++ rest)) ∧ names = n ++ (ref ++ n') ∧ IsOpening opening ∧
      IsAssignment a ∧ IsEnvironment object rest := by
  obtain ⟨opening, a, object', rest, hopening, hnames, ha, hobject', hsplit⟩ := h
  have hmember : ref ++ B = object ++ "." ++ (d ++ B) := by rw [href, List.append_assoc]
  have hstarts : startsWord (ref ++ B) = true := hmember ▸ startsWord_member hobject _
  obtain ⟨n, rfl, hnames'⟩ := hopening.isTight.exists_append hw hstarts hsplit
  rcases List.append_eq_append_iff.1 hnames'.symm with ⟨n', rfl, hn'⟩ | ⟨w₂, rfl, hw₂⟩
  · -- The reference starts among the names.  It holds no brace, so it ends there.
    right
    have hbrace : ∃ tail, a = CodePoint.ofChar '\x7d' :: tail := by
      obtain ⟨b, b', -, -, rfl⟩ := ha
      exact ⟨_, rfl⟩
    obtain ⟨tail, hatail⟩ := hbrace
    rcases List.append_eq_append_iff.1 hn' with ⟨n₂, rfl, hn₂⟩ | ⟨x, rfl, hx⟩
    · exact ⟨opening, n, n₂, a, object', rest, rfl, hn₂, rfl, hopening, ha, hobject'⟩
    · cases x with
      | nil =>
        rw [List.append_nil]
        exact ⟨opening, n, [], a, object', rest, rfl, hx.symm, by simp, hopening, ha, hobject'⟩
      | cons c x =>
        rw [hatail] at hx
        obtain rfl := (List.cons.inj hx).1
        cases hfree (CodePoint.ofChar '\x7d') (by simp)
  · left
    have hlast (hne : w₂ ≠ []) : w₂.getLast?.any isBlank = true := by
      rwa [List.getLast?_append_of_ne_nil _ (by simp [hne]),
        List.getLast?_append_of_ne_nil _ hne] at hw
    obtain ⟨rest', rfl, hrest'⟩ := ha.exists_append hobject' hobject hlast (hmember ▸ hw₂.symm)
    exact ⟨opening, a, object', rest', hopening, hnames, ha, hrest', rfl⟩

/-! ## What is read around a member -/

/-- A text between two others of which neither reads a variable: a member of an environment object,
named by an identifier, set off by white space before it and by no word behind it. -/
structure StandsAlone (A object d B : Text) : Prop where
  object : object ∈ environmentObjects
  identifier : IsIdentifier d
  before : A.getLast?.all isBlank = true
  after : startsWord B = false
  noneBefore : variablesIn A = []
  noneAfter : variablesIn B = []

theorem getLast?_member (object : Text) :
    (object ++ "." : Text).getLast? = some (CodePoint.ofChar '.') := List.getLast?_concat

theorem member_ne_nil (object : Text) : (object ++ "." : Text) ≠ [] := List.concat_ne_nil _ _

/-- The member reads a name: all that a name can have of the identifier. -/
theorem refers_member_iff (hobject : object ∈ environmentObjects) (hB : startsWord B = false) :
    Refers (object ++ "." ++ (d ++ B)) name ↔
      IsVariableName name ∧ ∃ d', d = name ++ d' ∧ d'.head?.any isVariableRest = false := by
  have hnotRest : B.head?.any isVariableRest = false := by
    rw [Bool.eq_false_iff]
    intro hrest
    obtain ⟨c, hc, hcrest⟩ := (Option.any_eq_true _ _).1 hrest
    rw [startsWord, Option.mem_def.1 hc, Option.any_some, isWord_of_isVariableRest hcrest] at hB
    cases hB
  constructor
  · intro h
    generalize hv : object ++ "." ++ (d ++ B) = v at h
    have hsame {start : Text} (hstart : start ∈ readingStarts) (hbegins : start <+: v) :
        start = object ++ "." := by
      rw [← hv] at hbegins
      exact (eq_of_begins hobject List.suffix_rfl (member_ne_nil object) hstart hbegins).2
    cases h with
    | @member object' name rest hobject' hname hend =>
      have hmem : object' ++ "." ∈ readingStarts :=
        List.mem_append_left _ (List.mem_map.2 ⟨object', hobject', rfl⟩)
      rw [hsame hmem (List.prefix_append _ _)] at hv
      refine ⟨hname, ?_⟩
      rcases List.append_eq_append_iff.1 (List.append_cancel_left hv) with
        ⟨x, rfl, rfl⟩ | ⟨d', rfl, rfl⟩
      · cases x with
        | nil => exact ⟨[], by simp, rfl⟩
        | cons c x =>
          have hword := isWord_of_isVariableRest (hname.isVariableRest c (by simp))
          rw [List.cons_append, startsWord, List.head?_cons, Option.any_some, hword] at hB
          cases hB
      · refine ⟨d', rfl, ?_⟩
        cases d' with
        | nil => rfl
        | cons c d' => exact hend
    | @quoted opening w name hopening hw rest =>
      have htable : ∀ opening ∈ quoteOpenings, opening ∈ readingStarts ∧
          opening.getLast? ≠ some (CodePoint.ofChar '.') := by decide
      obtain ⟨hmem, hlast⟩ := htable opening hopening
      rw [hsame hmem (List.prefix_append _ _)] at hlast
      exact absurd (getLast?_member object) hlast
    | @bracketed opening w b name closing hopening hw hb rest =>
      have htable : ∀ o ∈ bracketOpenings, o.1 ∈ readingStarts ∧
          o.1.getLast? ≠ some (CodePoint.ofChar '.') := by decide
      obtain ⟨hmem, hlast⟩ := htable _ hopening
      rw [hsame hmem (List.prefix_append _ _)] at hlast
      exact absurd (getLast?_member object) hlast
  · rintro ⟨hname, d', rfl, hend⟩
    rw [List.append_assoc name]
    refine .member hobject hname ?_
    cases d' with
    | nil => exact hnotRest
    | cons c d' => exact hend

theorem isNoBrace_of_isWord {c : CodePoint} (h : isWord c = true) : isNoBrace c = true := by
  have hliteral : ("\x7b\x7d" : Text) = [CodePoint.ofChar '\x7b', CodePoint.ofChar '\x7d'] := rfl
  have hopen : c ≠ CodePoint.ofChar '\x7b' := by rintro rfl; cases h
  have hclose : c ≠ CodePoint.ofChar '\x7d' := by rintro rfl; cases h
  rw [isNoBrace, isNotIn, hliteral]
  simp [hopen, hclose]

/-- What starts with a member is no object that is taken apart. -/
theorem refers_of_startsReading (hobject : object ∈ environmentObjects)
    (h : StartsReading (object ++ "." ++ u) name) : Refers (object ++ "." ++ u) name := by
  refine h.resolve_right ?_
  rintro ⟨names, htaken, -⟩
  have htable : ∀ keyword ∈ declarationWords, keyword ∈ readingStarts ∧
      keyword.getLast? ≠ some (CodePoint.ofChar '.') := by decide
  obtain ⟨keyword, hkeyword, hbegins⟩ := htaken.exists_keyword
  obtain ⟨hmem, hlast⟩ := htable keyword hkeyword
  rw [(eq_of_begins hobject List.suffix_rfl (member_ne_nil object) hmem hbegins).2] at hlast
  exact hlast (getLast?_member object)

variable (h : StandsAlone A object d B)

include h

/-- A reading that starts behind the text before the member starts with the member, or in the
identifier, which no word runs into. -/
theorem StandsAlone.startsReading_behind (hsplit : object ++ "." ++ (d ++ B) = u ++ v)
    (hu : (A ++ u).getLast?.any isWord = false) (hread : StartsReading v name) :
    Refers (object ++ "." ++ (d ++ B)) name ∨ StartsReading (d ++ B) name := by
  obtain ⟨hobject, hd, -, -, -, hnoneB⟩ := h
  -- Where a part of the identifier ends, a word ends.
  have hword (x y : Text) (hx : x ≠ []) (hxd : ∀ c ∈ x, isWord c = true) (hux : u = y ++ x) :
      False := by
    rw [hux, ← List.append_assoc, List.getLast?_append_of_ne_nil _ hx,
      List.getLast?_eq_some_getLast hx, Option.any_some, hxd _ (List.getLast_mem hx)] at hu
    cases hu
  rcases List.append_eq_append_iff.1 hsplit with ⟨x, hux, hx⟩ | ⟨x, hmember, rfl⟩
  · rcases List.append_eq_append_iff.1 hx with ⟨y, rfl, rfl⟩ | ⟨y, rfl, rfl⟩
    · by_cases hy : y = []
      · rw [hy, List.append_nil] at hux
        exact (hword d _ hd.ne_nil hd.isWord hux).elim
      · -- It is a reading in the text behind the member, which reads nothing.
        rw [hux, List.getLast?_append_of_ne_nil _ (by simp [hy]),
          List.getLast?_append_of_ne_nil _ (by simp [hy]),
          List.getLast?_append_of_ne_nil _ hy] at hu
        have hmem := mem_variablesIn.2 (mem_variableReads.2 ⟨y, v, rfl, hu, hread⟩)
        rw [hnoneB] at hmem
        cases hmem
    · by_cases hx : x = []
      · subst hx
        exact .inr hread
      · exact (hword x _ hx (fun c hc => hd.isWord c (List.mem_append_left _ hc)) hux).elim
  · by_cases hx : x = []
    · subst hx
      exact .inr hread
    · obtain ⟨start, hstart, hbegins⟩ := hread.exists_start
      obtain ⟨rfl, -⟩ := eq_of_begins hobject ⟨u, hmember.symm⟩ hx hstart hbegins
      exact .inl (refers_of_startsReading hobject hread)

/-- A reading that starts in the text before the member is one of an object that is taken apart around
the member. -/
theorem StandsAlone.takenAround (hA : A = u ++ w) (hw : w ≠ [])
    (hu : u.getLast?.any isWord = false)
    (hread : StartsReading (w ++ (object ++ "." ++ d ++ B)) name) :
    TakenAround A (object ++ "." ++ d) B name := by
  obtain ⟨hobject, hd, hblank, -, hnoneA, -⟩ := h
  subst hA
  have hends : w.getLast?.any isBlank = true := by
    rw [List.getLast?_append_of_ne_nil _ hw, List.getLast?_eq_some_getLast hw,
      Option.all_some] at hblank
    rw [List.getLast?_eq_some_getLast hw, Option.any_some, hblank]
  have hwords : ∀ object ∈ environmentObjects, startsWord (object ++ ".") = true ∧
      ∀ c ∈ object ++ ".", isNoBrace c = true := by decide
  obtain ⟨hstarts, hfree⟩ := hwords object hobject
  have hnone (hread : StartsReading w name) : False := by
    have hmem := mem_variablesIn.2 (mem_variableReads.2 ⟨u, w, rfl, hu, hread⟩)
    rw [hnoneA] at hmem
    cases hmem
  rcases hread with hrefers | ⟨names, htaken, part, hpart, hname⟩
  · have hmember : startsWord (object ++ "." ++ d ++ B) = true := by
      rw [List.append_assoc]
      exact startsWord_append hstarts _
    exact (hnone (.inl (hrefers.of_append hends hmember))).elim
  · have hnames := htaken
    rcases htaken.of_append hends hobject rfl (List.forall_mem_append.2
        ⟨hfree, fun c hc => isNoBrace_of_isWord (hd.isWord c hc)⟩) with
      hwithin | ⟨opening, n, n', a, object', rest, rfl, rfl, rfl, hopening, ha, hobject'⟩
    · exact (hnone (.inr ⟨names, hwithin, part, hpart, hname⟩)).elim
    · refine ⟨u, opening, n, n', a, object', rest, rfl, rfl, hu, hopening, ?_, ha, hobject', part,
        hpart, hname⟩
      obtain ⟨t, tail, -, -, -, hall⟩ := hnames.exists_append
      rw [List.forall_mem_append, List.forall_mem_append] at hall
      exact List.forall_mem_append.2 ⟨hall.1, hall.2.2⟩

/-- A reading in the whole text is one of the member, one that starts in the identifier or one of an
object that is taken apart around the member. -/
theorem mem_variableReads_around : name ∈ variableReads (A ++ (object ++ "." ++ d ++ B)) ↔
    Refers (object ++ "." ++ (d ++ B)) name ∨ StartsReading (d ++ B) name ∨
      TakenAround A (object ++ "." ++ d) B name := by
  have hedge : A.getLast?.any isWord = false := by
    rw [Option.any_eq_false]
    exact fun c hc => isWord_of_isBlank ((Option.all_eq_true _ _).1 h.before c hc)
  rw [mem_variableReads]
  constructor
  · rintro ⟨u, v, hsplit, hu, hread⟩
    rcases List.append_eq_append_iff.1 hsplit with ⟨u', rfl, hrest⟩ | ⟨w, hA, rfl⟩
    · rw [List.append_assoc] at hrest
      exact (h.startsReading_behind hrest hu hread).imp_right .inl
    · by_cases hw : w = []
      · rw [hw, List.nil_append, List.append_assoc] at hread
        exact .inl (refers_of_startsReading h.object hread)
      · exact .inr (.inr (h.takenAround hA hw hu hread))
  · rintro (hrefers | hread | htaken)
    · exact ⟨A, _, by simp only [List.append_assoc], hedge, .inl hrefers⟩
    · refine ⟨A ++ (object ++ "."), d ++ B, by simp only [List.append_assoc], ?_, hread⟩
      rw [List.getLast?_append_of_ne_nil _ (member_ne_nil object), getLast?_member]
      rfl
    · obtain ⟨u, opening, n, n', a, object', rest, hA, hB, hu, hopening, hfree, ha, hobject', part,
        hpart, hname⟩ := htaken
      have hmember : ∀ object ∈ environmentObjects, ∀ c ∈ object ++ ".", isNoBrace c = true := by
        decide
      rw [List.forall_mem_append] at hfree
      have hnames : ∀ c ∈ n ++ (object ++ "." ++ d ++ n'), isNoBrace c = true :=
        List.forall_mem_append.2 ⟨hfree.1, List.forall_mem_append.2 ⟨List.forall_mem_append.2
          ⟨hmember object h.object, fun c hc => isNoBrace_of_isWord (h.identifier.isWord c hc)⟩, hfree.2⟩⟩
      refine ⟨u, opening ++ (n ++ (object ++ "." ++ d ++ n') ++ (a ++ (object' ++ rest))), ?_, hu, .inr
        ⟨_, ⟨opening, a, object', rest, hopening, hnames, ha, hobject', rfl⟩, part, hpart, hname⟩⟩
      rw [hA, hB]
      simp only [List.append_assoc]

/-- A reading that starts in the identifier reads another name. -/
theorem StandsAlone.ne_of_startsReading (hread : StartsReading (d ++ B) name) : name ≠ d := by
  have htable : ∀ start ∈ readingStarts, start[1]?.any isLower = true := by decide
  rintro rfl
  obtain ⟨start, hstart, rest, hrest⟩ := hread.exists_start
  obtain ⟨c, hc, hlower⟩ := (Option.any_eq_true _ _).1 (htable start hstart)
  have hthere : (name ++ B)[1]? = some c := by
    rw [← hrest, List.getElem?_append_left (List.getElem?_eq_some_iff.1 hc).1, hc]
  -- What a reading starts with goes on with a small letter, and a name does not.
  rcases Nat.lt_or_ge 1 name.length with hlong | hshort
  · rw [List.getElem?_append_left hlong] at hthere
    have hnot := not_isLower_of_isVariableRest
      (hread.isVariableName.isVariableRest c (List.mem_of_getElem? hthere))
    rw [hlower] at hnot
    cases hnot
  · have hone : name.length = 1 :=
      Nat.le_antisymm hshort (List.length_pos_iff.2 h.identifier.ne_nil)
    have hafter := h.after
    rw [List.getElem?_append_right hshort, hone, Nat.sub_self, ← List.head?_eq_getElem?] at hthere
    rw [startsWord, hthere, Option.any_some, isWord_of_isLower hlower] at hafter
    cases hafter

/-- Of the whole text no other name than the identifier is read exactly if the identifier is a
variable's name or does not begin as one, no reading starts in it, and no other name is read of an
object that is taken apart around the member. -/
theorem whole_name_read_iff : (∀ name ∈ variablesIn (A ++ (object ++ "." ++ d ++ B)), name = d) ↔
    (d.head?.any isVariableStart = true → ∀ c ∈ d, isVariableRest c = true) ∧
      (∀ name, ¬StartsReading (d ++ B) name) ∧
        ∀ name, TakenAround A (object ++ "." ++ d) B name → name = d := by
  simp only [mem_variablesIn, mem_variableReads_around h, refers_member_iff h.object h.after]
  constructor
  · intro hall
    refine ⟨fun hstart => ?_, fun name hread => ?_,
      fun name htaken => hall name (.inr (.inr htaken))⟩
    · obtain ⟨c, hc, hcstart⟩ := (Option.any_eq_true _ _).1 hstart
      obtain ⟨more, rfl⟩ := List.head?_eq_some_iff.1 hc
      have hname : IsVariableName (c :: more.takeWhile isVariableRest) :=
        ⟨c, _, rfl, hcstart, fun d hd => List.all_eq_true.1 List.all_takeWhile d hd⟩
      have hwhole := hall _ (.inl ⟨hname, more.dropWhile isVariableRest, ?_, ?_⟩)
      · exact hwhole ▸ hname.isVariableRest
      · rw [List.cons_append, List.takeWhile_append_dropWhile]
      · exact Text.any_head?_dropWhile isVariableRest more
    · exact h.ne_of_startsReading hread (hall name (.inr (.inl hread)))
  · rintro ⟨hwhole, hnone, htaken⟩ name (⟨hname, d', rfl, hend⟩ | hread | htakenHere)
    · obtain ⟨c, more, rfl, hc, -⟩ := hname
      have hrest := hwhole hc
      cases d' with
      | nil => simp
      | cons e d' =>
        rw [List.head?_cons, Option.any_some, hrest e (by simp)] at hend
        cases hend
    · exact absurd hread (hnone name)
    · exact htaken name htakenHere

omit h

theorem portReference_read_whole : StandsAlone "const port = " "process.env" "PORT" ";\n" ∧
    ∀ name ∈ variablesIn ("const port = process.env.PORT;\n" : Text), name = "PORT" := by
  have halone : StandsAlone "const port = " "process.env" "PORT" ";\n" :=
    ⟨by decide, ⟨by decide, by decide⟩, by decide, by decide, by decide +kernel, by decide +kernel⟩
  refine ⟨halone, (whole_name_read_iff halone).2 ⟨by decide, fun name hread => ?_, ?_⟩⟩
  · have hnone : ∀ start ∈ readingStarts, ¬start.isPrefixOf ("PORT;\n" : Text) = true := by
      decide +kernel
    obtain ⟨start, hstart, hbegins⟩ := hread.exists_start
    exact hnone start hstart (List.isPrefixOf_iff_prefix.2 hbegins)
  · rintro name ⟨u, opening, n, n', a, object, rest, -, hB, -, -, -, ⟨b, b', -, -, rfl⟩, -⟩
    have hnone : CodePoint.ofChar '\x7d' ∉ (";\n" : Text) := by decide
    exact absurd (hB ▸ by simp) hnone

/-- Only the part of the identifier is read that a name can have. -/
theorem not_forall_read_whole : ¬∀ A object d B : Text, StandsAlone A object d B →
    ∀ name ∈ variablesIn (A ++ (object ++ "." ++ d ++ B)), name = d := by
  intro hall
  have halone : StandsAlone [] "process.env" "Foo" [] :=
    ⟨by decide, ⟨by decide, by decide⟩, rfl, rfl, by decide +kernel, by decide +kernel⟩
  have hread : ("F" : Text) ∈ variablesIn ("process.env.Foo" : Text) := by decide +kernel
  have hname := hall [] "process.env" "Foo" [] halone "F" hread
  revert hname
  decide

end Signature

end Decouple
