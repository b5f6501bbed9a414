import Decouple.Proofs.Removal.Plugins

/-!
# Calls that are left

A call of a name is the name with the parenthesis behind it that opens its arguments (`callJoint`).
An entry of a plugin reaches into a call only if it is an entry of the name that is called, and then
the call is *closed*: its parenthesis stands right behind the name, and another closes it before any
opens (`closed_of_isEntry`).  A search finds each call of a text (`mem_findAll_call`), so whether
all calls of a name are closed can be computed (`callsClosed_iff`).

When a plugin goes, its closed calls go (`stands_of_stands_left`) and all other calls stay
(`stands_left_of_stands`), but for what happens at seams: a call may come to stand across one, or a
letter before the name of a call, which then is no call of that name.  So the rewrite of a bundler's
configuration leaves no call of a name if there is none besides the statements that go or some removal
of the name finds all of them closed, and only then (`bundlerConfig_calls`).
-/

namespace Decouple

open CodePoint (is isIn isNotIn isBlank isIndent)
open Pattern Signature
open Piece (textOf)

namespace Rewrite

variable {s : Settings} {name n t u lead args tail a b x y between : Text} {p q : Place}
  {names : List Text}

/-- A name with the parenthesis behind it that opens its arguments. -/
def callJoint (name : Text) (hname : IsName name) : Joint where
  notAfter := joinsName
  word := name
  ends := is '('
  word_ne_nil := hname.ne_nil
  word_ink c hc := CodePoint.isBlank_of_isIdentifier (hname.all c hc)
  ends_ink c hc := by
    rw [show c = '(' by simpa [is] using hc]
    decide
  notAfter_ink _ hc := isBlank_of_joinsName hc

theorem pattern_callJoint (hname : IsName name) : (callJoint name hname).pattern = call name := rfl

theorem any_getLast?_of_isName (hn : ∀ c ∈ n, isIdentifier c = true) (hne : n ≠ []) (a : Text) :
    (a ++ n).getLast?.any joinsName = true := by
  rw [List.getLast?_append, List.getLast?_eq_some_getLast hne, Option.some_or, Option.any_some,
    joinsName, hn _ (List.getLast_mem hne), Bool.true_or]

/-- The name that a text ends with is told by what stands before it. -/
theorem eq_of_names (hn : IsName n) (hname : IsName name) (ha : a.getLast?.any joinsName = false)
    (hx : x.getLast?.any joinsName = false) (h : a ++ n = x ++ name) : n = name := by
  rcases List.append_eq_append_iff.1 h with ⟨w, rfl, rfl⟩ | ⟨w, rfl, rfl⟩
  · by_cases hw : w = []
    · rw [hw]
      rfl
    · rw [any_getLast?_of_isName (fun c hc => hn.all c (List.mem_append_left _ hc)) hw] at hx
      cases hx
  · by_cases hw : w = []
    · rw [hw]
      rfl
    · rw [any_getLast?_of_isName (fun c hc => hname.all c (List.mem_append_left _ hc)) hw] at ha
      cases ha

/-- An entry that reaches into a call opens where the call does. -/
theorem opens_of_isEntry (hn : IsName n) (hname : IsName name)
    (hentry : IsEntry x.getLast? lead args tail) (hblank : ∀ c ∈ between, isBlank c = true)
    (h : x ++ (entryText name lead args tail ++ y) =
      a ++ ((n ++ (between ++ [CodePoint.ofChar '('])) ++ b))
    (hbefore : x.length < a.length + (n ++ (between ++ [CodePoint.ofChar '('])).length)
    (hbehind : a.length < x.length + (entryText name lead args tail).length) :
    a.length + n.length + between.length = x.length + lead.length + name.length := by
  obtain ⟨d, n', hfirst⟩ := List.exists_cons_of_ne_nil hn.ne_nil
  have hd : isIdentifier d = true := hn.all d (by simp [hfirst])
  have hstart : a ++ d :: (n' ++ (between ++ CodePoint.ofChar '(' :: b)) =
      (x ++ lead ++ name ++ CodePoint.ofChar '(' :: args) ++ (CodePoint.ofChar ')' :: tail ++ y) := by
    simpa [hfirst, entryText] using h.symm
  have hclose : (x ++ lead ++ name ++ CodePoint.ofChar '(' :: args) ++
      CodePoint.ofChar ')' :: (tail ++ y) = a ++ ((n ++ (between ++ [CodePoint.ofChar '('])) ++ b) := by
    simpa [entryText] using h
  have hopen : (a ++ n ++ between) ++ CodePoint.ofChar '(' :: b = x ++ ((lead ++ name) ++
      (CodePoint.ofChar '(' :: (args ++ CodePoint.ofChar ')' :: (tail ++ y)))) := by
    simpa [entryText] using h.symm
  have hopen' : (a ++ n ++ between) ++ CodePoint.ofChar '(' :: b =
      (x ++ lead ++ name ++ [CodePoint.ofChar '(']) ++ (args ++ (CodePoint.ofChar ')' :: (tail ++ y))) := by
    simpa [entryText] using h.symm
  -- What ends an entry starts no name.
  have hnoName : d ∉ CodePoint.ofChar ')' :: tail := by
    intro hmem
    rcases List.mem_cons.1 hmem with rfl | hmem
    · exact absurd hd (by decide)
    · have hends := hentry.ends d hmem
      rw [isTrailing, CodePoint.isBlank_of_isIdentifier hd, Bool.false_or] at hends
      rw [show d = ',' by simpa [isIn, Text.ofString] using hends] at hd
      exact absurd hd (by decide)
  -- No parenthesis closes within a call, and none opens before the name of an entry or in its arguments.
  have hnoClose : CodePoint.ofChar ')' ∉ n ++ (between ++ [CodePoint.ofChar '(']) := by
    simp only [List.mem_append, List.mem_singleton, not_or]
    exact ⟨fun hmem => absurd (hn.all _ hmem) (by decide),
      fun hmem => absurd (hblank _ hmem) (by decide), by decide⟩
  have hnoOpen : CodePoint.ofChar '(' ∉ lead ++ name := by
    simp only [List.mem_append, not_or]
    exact ⟨fun hmem => absurd (hentry.leads.all _ hmem) (by decide),
      fun hmem => absurd (hname.all _ hmem) (by decide)⟩
  have hnoOpen' : CodePoint.ofChar '(' ∉ args := fun hmem =>
    absurd (hentry.plain _ hmem) (by decide)
  have hstart := Text.lt_or_le_of_not_mem hstart hnoName
  have hclose := Text.lt_or_le_of_not_mem hclose hnoClose
  have hopen := Text.lt_or_le_of_not_mem hopen hnoOpen
  have hopen' := Text.lt_or_le_of_not_mem hopen' hnoOpen'
  simp only [entryText, List.length_append, List.length_cons, List.length_nil]
    at hstart hclose hopen hopen' hbefore hbehind
  omega

/-- An entry reaches into a call only if it is an entry of what is called, and closes the call. -/
theorem closed_of_isEntry (hn : IsName n) (hname : IsName name)
    (hentry : IsEntry x.getLast? lead args tail) (hblank : ∀ c ∈ between, isBlank c = true)
    (ha : a.getLast?.any joinsName = false)
    (h : x ++ (entryText name lead args tail ++ y) =
      a ++ ((n ++ (between ++ [CodePoint.ofChar '('])) ++ b))
    (hbefore : x.length < a.length + (n ++ (between ++ [CodePoint.ofChar '('])).length)
    (hbehind : a.length < x.length + (entryText name lead args tail).length) :
    n = name ∧ between = [] ∧ b = args ++ CodePoint.ofChar ')' :: (tail ++ y) := by
  have hopens := opens_of_isEntry hn hname hentry hblank h hbefore hbehind
  have hsame : (a ++ n ++ between) ++ CodePoint.ofChar '(' :: b =
      (x ++ lead ++ name) ++ CodePoint.ofChar '(' :: (args ++ CodePoint.ofChar ')' :: (tail ++ y)) := by
    simpa [entryText] using h.symm
  obtain ⟨hnames, hrest⟩ := List.append_inj hsame (by simpa only [List.length_append] using hopens)
  -- A name ends where the entry opens, and no white space does.
  have hnone : between = [] := by
    by_contra hne
    have hlast := congrArg List.getLast? hnames
    rw [List.getLast?_append, List.getLast?_eq_some_getLast hne, Option.some_or, List.getLast?_append,
      List.getLast?_eq_some_getLast hname.ne_nil, Option.some_or, Option.some.injEq] at hlast
    have hink := CodePoint.isBlank_of_isIdentifier (hname.all _ (List.getLast_mem hname.ne_nil))
    rw [← hlast, hblank _ (List.getLast_mem hne)] at hink
    cases hink
  subst hnone
  rw [List.append_nil] at hnames
  refine ⟨eq_of_names hn hname ha ?_ hnames, rfl, (List.cons.inj hrest).2⟩
  rw [List.getLast?_append]
  exact hentry.apart

/-- Whether the arguments that a text starts with are closed before others open. -/
def closesFirst (t : Text) : Bool := (t.dropWhile (isNotIn "()")).head?.any (is ')')

theorem closesFirst_iff : closesFirst t = true ↔
    ∃ args rest, t = args ++ CodePoint.ofChar ')' :: rest ∧ ∀ c ∈ args, isNotIn "()" c = true := by
  constructor
  · intro h
    rw [closesFirst, Option.any_eq_true] at h
    obtain ⟨c, hc, hclose⟩ := h
    obtain rfl : c = ')' := by simpa [is] using hclose
    obtain ⟨rest, hrest⟩ := List.head?_eq_some_iff.1 hc
    refine ⟨t.takeWhile (isNotIn "()"), rest, ?_, fun d hd => ?_⟩
    · rw [← hrest, List.takeWhile_append_dropWhile]
    · exact List.all_eq_true.1 List.all_takeWhile d hd
  · rintro ⟨args, rest, rfl, hargs⟩
    rw [closesFirst, List.dropWhile_append_of_pos hargs, List.dropWhile_cons_of_neg (by decide),
      List.head?_cons, Option.any_some]
    decide

/-- A call whose arguments hold no parentheses is registered, so far as the pattern goes. -/
theorem exists_matchAt?_registration (hafter : p.isAfter joinsName = false)
    (hrest : p.rest = name ++ CodePoint.ofChar '(' :: t) (hcloses : closesFirst t = true) :
    ∃ m, (registration name).matchAt? p = some m ∧ p.offset < m.stop.offset := by
  obtain ⟨args, rest, rfl, hargs⟩ := closesFirst_iff.1 hcloses
  obtain ⟨p₁, hword, hrest₁⟩ := Place.exists_takes hrest
  obtain ⟨p₂, hopen, hrest₂⟩ := Place.exists_takes (t := [CodePoint.ofChar '(']) hrest₁
  -- All white space is taken, and then the other arguments.
  obtain ⟨p₃, hblank⟩ := exists_path_whole isBlank p₂ []
  obtain ⟨-, x, hx, hallBlank, -⟩ := way_many hblank.way
  obtain ⟨more, rfl⟩ : x <+: args := by
    have hwhole : x ++ p₃.rest = args ++ CodePoint.ofChar ')' :: rest := hx.1.symm.trans hrest₂
    rcases List.append_eq_append_iff.1 hwhole with ⟨w, hw, -⟩ | ⟨w, hw, hclose⟩
    · exact ⟨w, hw.symm⟩
    · cases w with
      | nil => exact ⟨[], by rw [hw, List.append_nil, List.append_nil]⟩
      | cons c w =>
        obtain ⟨rfl, -⟩ := List.cons.inj hclose
        exact absurd (hallBlank (CodePoint.ofChar ')') (by simp [hw])) (by decide)
  have hrest₃ : p₃.rest = more ++ CodePoint.ofChar ')' :: rest :=
    List.append_cancel_left ((hx.1.symm.trans hrest₂).trans (List.append_assoc ..))
  obtain ⟨p₄, hmore, hrest₄⟩ := Place.exists_takes hrest₃
  obtain ⟨p₅, hclose, -⟩ := Place.exists_takes (t := [CodePoint.ofChar ')']) hrest₄
  obtain ⟨p₆, hindent⟩ := exists_path_whole isIndent p₅ []
  have hpath : Path (registration name) p [] p₆ [] :=
    .second (.seq (.second .empty) (.seq (.second .empty) (.seq (.notAfter hafter)
      (.seq (path_literal hword) (.seq (path_one_of_takes hopen (by decide)) (.seq hblank
        (.seq (.many hmore (fun c hc => hargs c (List.mem_append_right _ hc)) (Nat.zero_le _) nofun)
          (.seq (path_one_of_takes hclose (by decide)) (.seq hindent (.second .empty))))))))))
  obtain ⟨m, hm⟩ := exists_matchAt? hpath
  obtain ⟨lead, args', tail, -, htaken⟩ := isEntry_of_registration (way_of_matchAt? hm).2
  refine ⟨m, hm, ?_⟩
  have hlong := htaken.2.1
  simp only [entryText, List.length_append, List.length_cons] at hlong
  omega

/-! ## Closed calls -/

/-- Whether the call that a match found is closed: its arguments stand right behind the name and hold
no parentheses. -/
def isClosedCall (name : Text) (m : Match) : Bool :=
  m.text = name ++ "(" && closesFirst m.stop.rest

/-- Whether all calls of a name in a text are closed. -/
def callsClosed (name t : Text) : Bool := ((call name).findAll t).all (isClosedCall name)

/-- What is found of a call is a name, white space and a parenthesis. -/
theorem spells_call {m : Match} (hname : IsName name) (hm : m ∈ (call name).findAll t) :
    m.start.isAfter joinsName = false ∧ ∃ between, m.text = name ++ (between ++ [CodePoint.ofChar '(']) ∧
      ∀ c ∈ between, isBlank c = true := by
  obtain ⟨⟨between, c, htext, hblank, hc⟩, hafter⟩ :=
    Joint.spells_of_mem_findAll (j := callJoint name hname) hm
  refine ⟨hafter, between, ?_, hblank⟩
  rw [htext, show c = '(' by simpa [callJoint, is] using hc]
  rfl

/-- No call reaches into another. -/
theorem le_of_mem_findAll_call {m : Match} (hname : IsName name)
    (hm : m ∈ (call name).findAll (a ++ (name ++ b))) (ha : a.getLast?.any joinsName = false)
    (hlt : m.offset < a.length) : m.stop.offset ≤ a.length := by
  by_contra hover
  obtain ⟨a', ha'⟩ := Removal.exists_takes_of_mem_findAll hm
  obtain ⟨-, between, htext, hblank⟩ := spells_call hname hm
  obtain ⟨-, -, -, htaken, -⟩ := exists_append_of_mem_findAll hm
  have hplace : m.offset = a'.length := by simpa [Match.offset, Place.start] using ha'.2.1
  rw [Removal.length_text_of_mem hm, htext, List.length_append] at hover
  have hwhole : a ++ (name ++ b) = a' ++ name ++ ((between ++ [CodePoint.ofChar '(']) ++ m.stop.rest) := by
    have hsplit : a ++ (name ++ b) = a' ++ m.start.rest := ha'.1
    rw [hsplit, htaken.1, htext]
    simp
  obtain ⟨d, name', hfirst⟩ := List.exists_cons_of_ne_nil hname.ne_nil
  by_cases hle : a.length ≤ a'.length + name.length
  · -- The name of the call before ends what stands before this call, or goes on into it.
    obtain ⟨w, hw⟩ : a' <+: a :=
      List.prefix_of_prefix_length_le ⟨_, (hwhole.trans (List.append_assoc ..)).symm⟩ ⟨_, rfl⟩
        (by omega)
    obtain ⟨v, hv⟩ : a <+: a' ++ name :=
      List.prefix_of_prefix_length_le ⟨_, rfl⟩ ⟨_, hwhole.symm⟩ (by rw [List.length_append]; omega)
    have hsub : w ++ v = name := by
      rw [← hw, List.append_assoc] at hv
      exact List.append_cancel_left hv
    have hne : w ≠ [] := by
      rintro rfl
      rw [List.append_nil] at hw
      rw [hplace, hw] at hlt
      exact Nat.lt_irrefl _ hlt
    have hlast := any_getLast?_of_isName (n := w)
      (fun c hc => hname.all c (hsub ▸ List.mem_append_left _ hc)) hne a'
    rw [hw, ha] at hlast
    cases hlast
  · -- This call starts with a letter, and behind the name of a call there is none.
    have hd := hname.all d (by simp [hfirst])
    have hno : d ∉ between ++ [CodePoint.ofChar '('] := by
      rw [List.mem_append, List.mem_singleton, not_or]
      refine ⟨fun hmem => ?_, ?_⟩
      · have hink := CodePoint.isBlank_of_isIdentifier hd
        rw [hblank d hmem] at hink
        cases hink
      · rintro rfl
        exact absurd hd (by decide)
    have hstart : a ++ d :: (name' ++ b) =
        (a' ++ name) ++ ((between ++ [CodePoint.ofChar '(']) ++ m.stop.rest) := by
      rw [← hwhole, hfirst]
      rfl
    have hplaces := Text.lt_or_le_of_not_mem hstart hno
    simp only [List.length_append] at hplaces hover
    omega

/-- A search finds each call, wherever it stands. -/
theorem mem_findAll_call (hname : IsName name) (hblank : ∀ c ∈ between, isBlank c = true)
    (ha : a.getLast?.any joinsName = false) :
    ∃ m ∈ (call name).findAll (a ++ (name ++ (between ++ CodePoint.ofChar '(' :: b))),
      m.text = name ++ (between ++ [CodePoint.ofChar '(']) ∧ m.stop.rest = b := by
  obtain ⟨p, hp, hrest⟩ := Place.exists_takes (t := a)
    (p := Place.start (a ++ (name ++ (between ++ CodePoint.ofChar '(' :: b)))) rfl
  obtain ⟨q, hq, -⟩ := Place.exists_takes (t := name ++ (between ++ [CodePoint.ofChar '(']))
    (u := b) (by simpa using hrest)
  have hafter : p.isAfter joinsName = false := by
    rw [Place.isAfter, hp.2.2]
    simpa [Place.start] using ha
  have hplace : p.offset = a.length := by simpa [Place.start] using hp.2.1
  have hspells : (callJoint name hname).Spells (name ++ (between ++ [CodePoint.ofChar '('])) :=
    ⟨between, '(', rfl, hblank, by simp [callJoint, is]⟩
  obtain ⟨m, hm, hlt⟩ := Joint.exists_matchAt? hspells hafter hq
  have hmem : m ∈ (call name).findAll (a ++ (name ++ (between ++ CodePoint.ofChar '(' :: b))) := by
    refine mem_findAll_of_matchAt? ⟨a, hp⟩ hm hlt fun m' hm' hbefore => ?_
    rw [hplace] at hbefore ⊢
    exact le_of_mem_findAll_call hname hm' ha hbefore
  obtain ⟨-, between', htext, hblank'⟩ := spells_call hname hmem
  obtain ⟨-, -, -, htaken, -⟩ := exists_append_of_mem_findAll hmem
  rw [(reaches_of_matchAt? hm).1] at htaken
  have hsame : between' ++ CodePoint.ofChar '(' :: m.stop.rest =
      between ++ CodePoint.ofChar '(' :: b := by
    have hwhole := htaken.1.symm.trans hrest
    rw [htext] at hwhole
    simpa using hwhole
  obtain ⟨rfl, -, hstop⟩ := Text.append_cons_inj hblank' hblank (by decide) (by decide) hsame
  exact ⟨m, hmem, htext, hstop⟩

/-- All calls are closed exactly if each is, wherever it stands. -/
theorem callsClosed_iff (hname : IsName name) : callsClosed name t = true ↔
    ∀ a between b, t = a ++ (name ++ (between ++ CodePoint.ofChar '(' :: b)) →
      (∀ c ∈ between, isBlank c = true) → a.getLast?.any joinsName = false →
      between = [] ∧ closesFirst b = true := by
  rw [callsClosed, List.all_eq_true]
  constructor
  · rintro h a between b rfl hblank ha
    obtain ⟨m, hm, htext, hstop⟩ := mem_findAll_call (b := b) hname hblank ha
    have hclosed := h m hm
    rw [isClosedCall, Bool.and_eq_true, decide_eq_true_eq, htext, hstop] at hclosed
    refine ⟨?_, hclosed.2⟩
    have hlength := congrArg List.length hclosed.1
    simp only [List.length_append, List.length_singleton] at hlength
    refine List.length_eq_zero_iff.1 ?_
    have hone : List.length ("(" : Text) = 1 := rfl
    omega
  · intro h m hm
    obtain ⟨a, ha⟩ := Removal.exists_takes_of_mem_findAll hm
    obtain ⟨hafter, between, htext, hblank⟩ := spells_call hname hm
    obtain ⟨-, -, -, htaken, -⟩ := exists_append_of_mem_findAll hm
    have hsplit : t = a ++ (name ++ (between ++ CodePoint.ofChar '(' :: m.stop.rest)) := by
      have hwhole : t = a ++ m.start.rest := ha.1
      rw [hwhole, htaken.1, htext]
      simp
    have hbefore : a.getLast?.any joinsName = false := by
      rw [Place.isAfter, ha.2.2] at hafter
      simpa [Place.start] using hafter
    obtain ⟨rfl, hcloses⟩ := h a between m.stop.rest hsplit hblank hbefore
    rw [isClosedCall, htext, hcloses]
    simp [Text.ofString]

/-! ## Calls that are left -/

theorem IsCut.any_getLast? (h : IsCut u) : u ≠ [] ∧ u.getLast?.any joinsName = false := by
  obtain ⟨v, e, y, rfl, hy, he⟩ := h.last
  have hall : ∀ c ∈ e :: y, joinsName c = false := by
    intro c hc
    rcases List.mem_cons.1 hc with rfl | hc
    · have hsigns : ∀ c ∈ (",;)'\"" : Text), joinsName c = false := by decide
      exact hsigns c (by simpa [isIn] using he)
    · refine Bool.eq_false_iff.2 fun hjoins => ?_
      have hink := isBlank_of_joinsName hjoins
      rw [hy c hc] at hink
      cases hink
  refine ⟨by simp, ?_⟩
  rw [List.getLast?_append, List.getLast?_eq_some_getLast (List.cons_ne_nil e y), Option.some_or,
    Option.any_some]
  exact hall _ (List.getLast_mem _)

/-- A call that stays when a plugin goes was a call before, and is not closed if it is one of the plugin. -/
theorem stands_of_stands_left (hn : IsName n) (hname : IsName name)
    (hclear : (callJoint n hn).isClear ((pluginRemoval name).pieces t) = true)
    (hleft : (callJoint n hn).Stands ((pluginRemoval name).left t)) :
    (callJoint n hn).Stands t ∧ (name = n → callsClosed n t = false) := by
  obtain ⟨qs, z, rs, hps, hz, hbefore⟩ := Joint.exists_kept_of_left hclear hleft
  have hgone : ∀ u, Piece.gone u ∈ qs → u ≠ [] ∧ u.getLast?.any joinsName = false := fun u hu =>
    (isCut_of_pluginRemoval hname (hps ▸ List.mem_append_left _ hu)).any_getLast?
  have ha := Piece.any_getLast?_text hgone hbefore
  have ht : t = textOf qs ++ (z ++ textOf rs) := by
    rw [← Removal.textOf_pieces (pluginRemoval name) t, hps]
    simp
  refine ⟨⟨textOf qs, z, textOf rs, ht, hz, ha⟩, ?_⟩
  rintro rfl
  refine Bool.eq_false_iff.2 fun hclosed => ?_
  -- A closed call would have gone.
  obtain ⟨between, c, rfl, hblank, hc⟩ := hz
  obtain rfl : c = '(' := by simpa [callJoint, is] using hc
  obtain ⟨rfl, hcloses⟩ := (callsClosed_iff hname).1 hclosed (textOf qs) between (textOf rs)
    (by simpa [callJoint] using ht) hblank ha
  obtain ⟨d, name', hfirst⟩ := List.exists_cons_of_ne_nil hname.ne_nil
  obtain ⟨p, hp, hrest⟩ := Place.exists_takes (p := Place.start t) ht
  have hafter : p.isAfter joinsName = false := by
    rw [Place.isAfter, hp.2.2]
    simpa [Place.start] using ha
  have hcalled : p.rest = name ++ CodePoint.ofChar '(' :: textOf rs := by
    simpa [callJoint] using hrest
  obtain ⟨m, hm, hlt⟩ := exists_matchAt?_registration hafter hcalled hcloses
  have hkept : (pluginRemoval name).pieces t = qs ++ .kept d ::
      ((name' ++ [CodePoint.ofChar '(']).map .kept ++ rs) := by
    rw [hps]
    simp [callJoint, hfirst]
  have hle := Removal.le_of_kept (fun _ => rfl) hkept hp hm
  omega

/-- A call stays when a plugin goes, unless it is a closed one of the plugin or a seam hides it. -/
theorem stands_left_of_open (hn : IsName n) (hname : IsName name)
    (hapart : (callJoint n hn).isApart ((pluginRemoval name).pieces t) = true)
    (ht : t = a ++ (n ++ (between ++ CodePoint.ofChar '(' :: b)))
    (hblank : ∀ c ∈ between, isBlank c = true) (ha : a.getLast?.any joinsName = false)
    (hopen : ¬(n = name ∧ between = [] ∧ closesFirst b = true)) :
    (callJoint n hn).Stands ((pluginRemoval name).left t) := by
  have hz : (callJoint n hn).Spells (n ++ (between ++ [CodePoint.ofChar '('])) :=
    ⟨between, '(', rfl, hblank, by simp [callJoint, is]⟩
  have hsplit : textOf ((pluginRemoval name).pieces t) =
      a ++ ((n ++ (between ++ [CodePoint.ofChar '('])) ++ b) := by
    rw [Removal.textOf_pieces, ht]
    simp
  rcases Piece.exists_of_text (fun u hu => Removal.ne_nil_of_gone_mem hu) hsplit with
    ⟨qs, rs, hps, rfl, -⟩ | ⟨qs, u, rs, hps, hbefore, hbehind⟩
  · rw [Removal.left, hps]
    exact Joint.stands_left_of_kept (hps ▸ hapart) hz ha
  · obtain ⟨lead, args, tail, hentry, rfl⟩ := isEntry_of_gone hps
    rw [hps, Piece.textOf_append, Piece.textOf_gone] at hsplit
    obtain ⟨hsame, hnone, hb⟩ := closed_of_isEntry hn hname hentry hblank ha hsplit hbefore hbehind
    exact absurd ⟨hsame, hnone, closesFirst_iff.2 ⟨args, _, hb, hentry.plain⟩⟩ hopen

/-- The removal of a plugin leaves the calls of other names, and its own if one is not closed. -/
theorem stands_left_of_stands (hn : IsName n) (hname : IsName name)
    (hapart : (callJoint n hn).isApart ((pluginRemoval name).pieces t) = true)
    (h : (callJoint n hn).Stands t) (hopen : name = n → callsClosed n t = false) :
    (callJoint n hn).Stands ((pluginRemoval name).left t) := by
  obtain ⟨a, z, b, ht, ⟨between, c, rfl, hblank, hc⟩, ha⟩ := h
  by_cases hsame : name = n
  · subst hsame
    have hnot := mt (callsClosed_iff hname).2 (Bool.eq_false_iff.1 (hopen rfl))
    push Not at hnot
    obtain ⟨a, between, b, ht, hblank, ha, hcall⟩ := hnot
    exact stands_left_of_open hn hname hapart ht hblank ha fun h => hcall h.2.1 h.2.2
  · obtain rfl : c = '(' := by simpa [callJoint, is] using hc
    exact stands_left_of_open hn hname hapart (by simpa [callJoint] using ht) hblank ha
      fun h => hsame h.1.symm

/-- The text of a bundler's configuration without the statements that take in a platform's module. -/
def withoutModules (s : Settings) (t : Text) : Text := Removal.leftBy (moduleRemovals s) t

/-- A text without plugins, one after the other. -/
def withoutPlugins (names : List Text) (t : Text) : Text := Removal.leftBy (names.map pluginRemoval) t

/-- Whether a removal of a name, among plugins that go one after the other, finds all calls of the name
closed. -/
def findsClosed (n : Text) : List Text → Text → Bool
  | [], _ => false
  | name :: names, t =>
    (name = n && callsClosed n t) || findsClosed n names ((pluginRemoval name).left t)

theorem findsClosed_cons_eq_false : findsClosed n (name :: names) t = false ↔
    (name = n → callsClosed n t = false) ∧
      findsClosed n names ((pluginRemoval name).left t) = false := by
  rw [findsClosed, Bool.or_eq_false_iff, Bool.and_eq_false_imp, decide_eq_true_eq]

/-- Where no call stands across a seam, what is left of the calls of a name when plugins go was there
before, and no removal of the name finds all of them closed. -/
theorem stands_of_withoutPlugins (hn : IsName n) (hnames : ∀ name ∈ names, IsName name)
    (hclear : Removal.along (callJoint n hn).isClear (names.map pluginRemoval) t = true)
    (hleft : (callJoint n hn).Stands (withoutPlugins names t)) :
    (callJoint n hn).Stands t ∧ findsClosed n names t = false := by
  induction names generalizing t with
  | nil => exact ⟨hleft, rfl⟩
  | cons name names ih =>
    rw [List.map_cons, Removal.along, Bool.and_eq_true] at hclear
    obtain ⟨hstep, hmore⟩ := ih (fun name h => hnames name (List.mem_cons_of_mem _ h)) hclear.2 hleft
    obtain ⟨hstands, hopen⟩ :=
      stands_of_stands_left hn (hnames name (List.mem_cons_self ..)) hclear.1 hstep
    exact ⟨hstands, findsClosed_cons_eq_false.2 ⟨hopen, hmore⟩⟩

/-- Where no seam hides a call, calls of a name are left when plugins go, unless a removal of the name
finds all of them closed. -/
theorem stands_withoutPlugins (hn : IsName n) (hnames : ∀ name ∈ names, IsName name)
    (hapart : Removal.along (callJoint n hn).isApart (names.map pluginRemoval) t = true)
    (h : (callJoint n hn).Stands t) (hopen : findsClosed n names t = false) :
    (callJoint n hn).Stands (withoutPlugins names t) := by
  induction names generalizing t with
  | nil => exact h
  | cons name names ih =>
    rw [List.map_cons, Removal.along, Bool.and_eq_true] at hapart
    obtain ⟨hfirst, hmore⟩ := findsClosed_cons_eq_false.1 hopen
    have hstep := stands_left_of_stands hn (hnames name (List.mem_cons_self ..)) hapart.1 h hfirst
    exact ih (fun name h => hnames name (List.mem_cons_of_mem _ h)) hapart.2 hstep hmore

/-- What is left of a bundler's configuration holds the calls of its rewrite. -/
theorem findAll_bundlerConfig (hn : IsName n) : (call n).findAll (bundlerConfig s t).content = [] ↔
    ¬(callJoint n hn).Stands (withoutPlugins (pluginNames s t) (withoutModules s t)) := by
  rw [← pattern_callJoint hn, Joint.findAll_eq_nil_iff, stands_bundlerConfig, bundlerRemovals,
    leftBy_append]
  rfl

/-- A rewritten bundler's configuration has no call of a name if there was none besides the statements
that take in a platform's module or a removal of the name finds all of them closed, where none stands
across a seam; and only then, where no seam hides one. -/
theorem bundlerConfig_calls (hn : IsName n) :
    (Removal.along (callJoint n hn).isClear
        ((pluginNames s t).map pluginRemoval) (withoutModules s t) = true →
      (call n).findAll (withoutModules s t) = [] ∨
        findsClosed n (pluginNames s t) (withoutModules s t) = true →
      (call n).findAll (bundlerConfig s t).content = []) ∧
    (Removal.along (callJoint n hn).isApart
        ((pluginNames s t).map pluginRemoval) (withoutModules s t) = true →
      (call n).findAll (bundlerConfig s t).content = [] →
      (call n).findAll (withoutModules s t) = [] ∨
        findsClosed n (pluginNames s t) (withoutModules s t) = true) := by
  have hnames : ∀ name ∈ pluginNames s t, IsName name := fun _ h => isName_of_mem_pluginNames h
  rw [findAll_bundlerConfig hn, ← pattern_callJoint hn, Joint.findAll_eq_nil_iff]
  constructor
  · intro hclear hfirst hleft
    obtain ⟨hstands, hopen⟩ := stands_of_withoutPlugins hn hnames hclear hleft
    rcases hfirst with hnone | hcloses
    · exact hnone hstands
    · rw [hopen] at hcloses
      cases hcloses
  · intro hapart hleft
    by_contra hboth
    rw [not_or, not_not, Bool.not_eq_true] at hboth
    exact hleft (stands_withoutPlugins hn hnames hapart hboth.1 hboth.2)

/-- What an import of a platform's plugin binds. -/
def taggerName : Text := "componentTagger"

theorem isName_taggerName : IsName taggerName := ⟨by decide, by decide⟩

theorem guardedPlugin_calls : (call taggerName).findAll (withoutModules {} guardedPlugin) ≠ [] ∧
    (call taggerName).findAll (bundlerConfig {} guardedPlugin).content = [] := by
  have hclear : Removal.along (callJoint taggerName isName_taggerName).isClear
      ((pluginNames {} guardedPlugin).map pluginRemoval) (withoutModules {} guardedPlugin) = true := by
    decide +kernel
  have hcalled : ((call taggerName).findAll (withoutModules {} guardedPlugin)).isEmpty = false := by
    decide +kernel
  refine ⟨List.isEmpty_eq_false_iff.1 hcalled, ?_⟩
  exact (bundlerConfig_calls isName_taggerName).1 hclear (.inr (by decide +kernel))

/-- A plugin that is handed what another call gives. -/
def nestedCall : Text :=
  "import \x7b componentTagger \x7d from \"lovable-tagger\";\n" ++
    "export default \x7b plugins: [componentTagger(opts())] \x7d;\n"

/-- A plugin whose arguments hold parentheses stays when its import goes. -/
theorem not_forall_calls : ¬∀ t n, n ∈ pluginNames {} t →
    (∃ specifier, Note.importRemoved specifier ∈ (bundlerConfig {} t).notes) →
    (call n).findAll (bundlerConfig {} t).content = [] := by
  intro hall
  have hbound : taggerName ∈ pluginNames {} nestedCall := by decide +kernel
  have hremoved : Note.importRemoved "lovable-tagger" ∈ (bundlerConfig {} nestedCall).notes := by
    decide +kernel
  have hnone := hall nestedCall taggerName hbound ⟨_, hremoved⟩
  rw [← List.isEmpty_iff] at hnone
  revert hnone
  decide +kernel

end Rewrite

end Decouple
