import Decouple.Proofs.Removal.Pieces
import Decouple.Proofs.Removal.Statements
import Decouple.Proofs.Rewriting.Settled

/-!
# What goes with a plugin

A rewrite of a bundler's configuration is a chain of removals (`bundlerRemovals`): the statements
that take in a platform's module, and then one plugin after the other.  The rewrite has a joint
exactly if what these leave has it (`stands_bundlerConfig`).

What is found of a plugin is an *entry* (`isEntry_of_registration`): perhaps a condition, the name
of the plugin, its arguments in parentheses and what separates the entry from the next.  An entry
and a statement alike start, but for white space, with a name and end with a sign (`isCut_of_gone`).
-/

namespace Decouple

open CodePoint (is isIn isNotIn isBlank isWord isIndent)
open Pattern Signature
open Piece (textOf)

namespace CodePoint

/-- The white space code points. -/
def blankValues : List Nat :=
  List.range' 9 5 ++ List.range' 28 5 ++ [0x85, 0xA0, 0x1680] ++ List.range' 0x2000 11 ++
    [0x2028, 0x2029, 0x202F, 0x205F, 0x3000]

theorem mem_blankValues {c : CodePoint} (h : isBlank c = true) : c.val ∈ blankValues := by
  simp only [isBlank, Bool.or_eq_true, Bool.and_eq_true, decide_eq_true_eq, beq_iff_eq] at h
  simp only [blankValues, List.mem_append, List.mem_range'_1, List.mem_cons, List.not_mem_nil]
  omega

/-- A word holds no white space. -/
theorem isBlank_of_isWord {c : CodePoint} (h : isWord c = true) : isBlank c = false := by
  refine Bool.eq_false_iff.2 fun hblank => ?_
  have hall : ∀ n ∈ blankValues, isWord (ofNat n) = false := by decide +kernel
  have hword := hall c.val (mem_blankValues hblank)
  rw [ofNat_val, h] at hword
  cases hword

theorem isBlank_of_isIdentifier {c : CodePoint} (h : isIdentifier c = true) : isBlank c = false := by
  rw [isIdentifier, Bool.or_eq_true, decide_eq_true_eq] at h
  rcases h with h | rfl
  · exact isBlank_of_isWord h
  · decide

end CodePoint

namespace Rewrite

variable {s : Settings} {name t u lead args tail : Text} {p q : Place} {ps qs : Parts}

/-! ## Entries -/

/-- What would belong to a longer name if it stood before a name. -/
def joinsName (c : CodePoint) : Bool := isIdentifier c || c = '.'

theorem isBlank_of_joinsName {c : CodePoint} (h : joinsName c = true) : isBlank c = false := by
  rw [joinsName, Bool.or_eq_true, decide_eq_true_eq] at h
  rcases h with h | rfl
  · exact CodePoint.isBlank_of_isIdentifier h
  · decide

/-- What may stand in a condition before a plugin. -/
def isLeading (c : CodePoint) : Bool := isBlank c || isWord c || isIn ".='\"&" c

/-- White space, or one of the signs that may end a stretch. -/
def isTrailing (signs : Text) (c : CodePoint) : Bool := isBlank c || isIn signs c

/-- What stands before a plugin: white space, and perhaps a condition that starts with a name. -/
structure IsLead (lead : Text) : Prop where
  all : ∀ c ∈ lead, isLeading c = true
  first : (∀ c ∈ lead, isBlank c = true) ∨
    ∃ x d v, lead = x ++ d :: v ∧ (∀ c ∈ x, isBlank c = true) ∧ joinsName d = true

/-- What goes with a plugin behind a code point: a lead, the name, its arguments in parentheses, and
what ends the entry. -/
structure IsEntry (before : Option CodePoint) (lead args tail : Text) : Prop where
  leads : IsLead lead
  apart : (lead.getLast?.or before).any joinsName = false
  plain : ∀ c ∈ args, isNotIn "()" c = true
  ends : ∀ c ∈ tail, isTrailing "," c = true

/-- The text of an entry. -/
def entryText (name lead args tail : Text) : Text :=
  lead ++ (name ++ CodePoint.ofChar '(' :: (args ++ CodePoint.ofChar ')' :: tail))

theorem isTrailing_of_isIndent {signs : Text} {c : CodePoint} (h : isIndent c = true) :
    isTrailing signs c = true := by
  rw [isTrailing, CodePoint.isBlank_of_isIndent h, Bool.true_or]

theorem takesOnly_indent {signs : Text} : TakesOnly (isTrailing signs) indent :=
  takesOnly_many fun _ hc => isTrailing_of_isIndent hc

theorem isLeading_of_isBlank {c : CodePoint} (h : isBlank c = true) : isLeading c = true := by
  rw [isLeading, h, Bool.true_or, Bool.true_or]

theorem isLeading_of_isWord {c : CodePoint} (h : isWord c = true) : isLeading c = true := by
  rw [isLeading, h, Bool.or_true, Bool.true_or]

theorem isLead_indent {i : Text} (hi : ∀ c ∈ i, isIndent c = true) (h : IsLead lead) :
    IsLead (i ++ lead) where
  all := List.forall_mem_append.2 ⟨fun c hc =>
    isLeading_of_isBlank (CodePoint.isBlank_of_isIndent (hi c hc)), h.all⟩
  first := by
    have hblank : ∀ c ∈ i, isBlank c = true := fun c hc => CodePoint.isBlank_of_isIndent (hi c hc)
    rcases h.first with h | ⟨x, d, v, rfl, hx, hd⟩
    · exact .inl (List.forall_mem_append.2 ⟨hblank, h⟩)
    · exact .inr ⟨i ++ x, d, v, by simp, List.forall_mem_append.2 ⟨hblank, hx⟩, hd⟩

/-- What stands behind the first name of a condition. -/
def guardBehind : List Pattern := [
  blanks, literal "==", optional (one (is '=')), blanks, one (isIn "'\""), many isWord 1 .greedy,
  one (isIn "'\""), blanks, literal "&&", blanks]

theorem takesOnly_guardBehind : TakesOnly isLeading (sequence guardBehind) := by
  have hblanks : TakesOnly isLeading blanks := takesOnly_many fun c hc => isLeading_of_isBlank hc
  have hquote : TakesOnly isLeading (one (isIn "'\"")) := takesOnly_one fun c hc => by
    rcases eq_of_isQuote hc with rfl | rfl <;> decide
  refine takesOnly_sequence ?_
  simp only [guardBehind, List.forall_mem_cons, List.not_mem_nil, IsEmpty.forall_iff, implies_true,
    and_true]
  exact ⟨hblanks, takesOnly_literal (by decide), takesOnly_optional (takesOnly_is (by decide)), hblanks,
    hquote, takesOnly_many fun c hc => isLeading_of_isWord hc, hquote, hblanks,
    takesOnly_literal (by decide), hblanks⟩

theorem isLead_of_modeGuard (h : Way modeGuard p ps q qs) : ∃ lead, p.Takes lead q ∧ IsLead lead := by
  rcases way_alt.1 h with h | h
  · obtain ⟨p₁, ps₁, hname, hrest⟩ := way_seq.1 h
    obtain ⟨-, w, hw, hall, hlong⟩ := way_many hname
    obtain ⟨more, hmore, hleads⟩ := takesOnly_guardBehind _ _ _ _ hrest
    obtain ⟨d, w, rfl⟩ := List.exists_cons_of_length_pos hlong
    refine ⟨_, hw.append hmore, List.forall_mem_append.2 ⟨fun c hc => ?_, hleads⟩, ?_⟩
    · have hc := hall c hc
      rw [Bool.or_eq_true, decide_eq_true_eq] at hc
      rcases hc with hc | rfl
      · exact isLeading_of_isWord hc
      · decide
    · refine .inr ⟨[], d, w ++ more, rfl, List.forall_mem_nil _, ?_⟩
      have hd := hall d (List.mem_cons_self ..)
      rw [Bool.or_eq_true] at hd
      rw [joinsName, isIdentifier]
      rcases hd with hd | hd <;> simp [hd]
  · obtain ⟨rfl, -⟩ := way_empty.1 h
    exact ⟨[], .nil _, List.forall_mem_nil _, .inl (List.forall_mem_nil _)⟩

theorem isEntry_of_registrationCall (h : Way (registrationCall name) p ps q qs) :
    ∃ lead args tail, IsEntry p.before lead args tail ∧ p.Takes (entryText name lead args tail) q := by
  obtain ⟨p₁, ps₁, hguard, h₁⟩ := way_seq.1 h
  obtain ⟨p₂, ps₂, hafter, h₂⟩ := way_seq.1 h₁
  obtain ⟨p₃, ps₃, hname, h₃⟩ := way_seq.1 h₂
  obtain ⟨p₄, ps₄, hopen, h₄⟩ := way_seq.1 h₃
  obtain ⟨p₅, ps₅, hblank, h₅⟩ := way_seq.1 h₄
  obtain ⟨p₆, ps₆, hargs, h₆⟩ := way_seq.1 h₅
  obtain ⟨p₇, ps₇, hclose, htail⟩ := way_seq.1 h₆
  obtain ⟨lead, hlead, hleads⟩ := isLead_of_modeGuard hguard
  cases hafter with
  | notAfter hafter =>
    obtain ⟨-, hname⟩ := way_literal hname
    obtain ⟨-, hopen⟩ := way_is hopen
    obtain ⟨-, x, hx, hblank, -⟩ := way_many hblank
    obtain ⟨-, y, hy, hplain, -⟩ := way_many hargs
    obtain ⟨-, hclose⟩ := way_is hclose
    have honly : TakesOnly (isTrailing ",") (.seq indent (optional (one (is ',')))) :=
      takesOnly_seq takesOnly_indent (takesOnly_optional (takesOnly_is (by decide)))
    obtain ⟨tail, ht, hends⟩ := honly _ _ _ _ htail
    refine ⟨lead, x ++ y, tail, ⟨hleads, ?_, ?_, hends⟩, ?_⟩
    · rw [← hlead.2.2]
      exact hafter
    · refine List.forall_mem_append.2 ⟨fun c hc => ?_, hplain⟩
      by_contra hparen
      have hcase : c = '(' ∨ c = ')' := by
        rw [or_iff_not_imp_left]
        simpa [isNotIn, Text.ofString] using hparen
      have hblank := hblank c hc
      rcases hcase with rfl | rfl <;> revert hblank <;> decide
    · have hall := hlead.append (hname.append (hopen.append (hx.append (hy.append (hclose.append ht)))))
      simpa [entryText] using hall

/-- White space before an entry joins its lead, and what may end it joins its end. -/
theorem IsEntry.widened {m : Place} {i more : Text} (h : IsEntry m.before lead args tail)
    (hi : ∀ c ∈ i, isIndent c = true) (hm : p.Takes i m)
    (htaken : m.Takes (entryText name lead args tail ++ more) q)
    (hmore : ∀ c ∈ more, isTrailing "," c = true) :
    IsEntry p.before (i ++ lead) args (tail ++ more) ∧
      p.Takes (entryText name (i ++ lead) args (tail ++ more)) q := by
  refine ⟨⟨isLead_indent hi h.leads, ?_, h.plain, List.forall_mem_append.2 ⟨h.ends, hmore⟩⟩, ?_⟩
  · rw [List.getLast?_append, Option.or_assoc, ← hm.2.2]
    exact h.apart
  · simpa [entryText] using hm.append htaken

/-- What is found of a plugin is an entry. -/
theorem isEntry_of_registration (h : Way (registration name) p ps q qs) :
    ∃ lead args tail, IsEntry p.before lead args tail ∧ p.Takes (entryText name lead args tail) q := by
  rcases way_alt.1 h with h | h
  · obtain ⟨p₁, ps₁, hstart, h₁⟩ := way_seq.1 h
    obtain ⟨p₂, ps₂, hindent, h₂⟩ := way_seq.1 h₁
    obtain ⟨p₃, ps₃, hcall, hend⟩ := way_seq.1 h₂
    cases hstart with
    | lineStart _ =>
      obtain ⟨-, i, hi, hall, -⟩ := way_many hindent
      obtain ⟨lead, args, tail, hentry, htaken⟩ := isEntry_of_registrationCall hcall
      have honly : TakesOnly (isTrailing ",") (.seq indent (choice [lineBreak, .textEnd])) :=
        takesOnly_seq takesOnly_indent
          (takesOnly_alt (takesOnly_lineBreak (by decide) (by decide)) takesOnly_textEnd)
      obtain ⟨more, hmore, hends⟩ := honly _ _ _ _ hend
      exact ⟨_, _, _, hentry.widened hall hi (htaken.append hmore) hends⟩
  · obtain ⟨p₁, ps₁, hindent, hcall⟩ := way_seq.1 h
    obtain ⟨lead, args, tail, hentry, htaken⟩ := isEntry_of_registrationCall hcall
    rcases way_alt.1 hindent with hindent | hnone
    · obtain ⟨p₂, ps₂, hafter, hindent⟩ := way_seq.1 hindent
      cases hafter with
      | notAfter _ =>
        obtain ⟨-, i, hi, hall, -⟩ := way_many hindent
        exact ⟨_, _, _, hentry.widened hall hi (htaken.append (.nil q)) (List.forall_mem_nil _)⟩
    · obtain ⟨rfl, -⟩ := way_empty.1 hnone
      exact ⟨lead, args, tail, hentry, htaken⟩

/-! ## What goes starts with a name and ends with a sign -/

/-- A stretch that, but for white space, starts with a name and ends with a sign that closes. -/
structure IsCut (u : Text) : Prop where
  first : ∃ x d v, u = x ++ d :: v ∧ (∀ c ∈ x, isBlank c = true) ∧ joinsName d = true
  last : ∃ v e y, u = v ++ e :: y ∧ (∀ c ∈ y, isBlank c = true) ∧ isIn ",;)'\"" e = true

/-- A name of a plugin. -/
structure IsName (name : Text) : Prop where
  ne_nil : name ≠ []
  all : ∀ c ∈ name, isIdentifier c = true

/-- Of what ends a stretch there is a last sign, with nothing but white space behind it. -/
theorem exists_last {signs : Text} {d : CodePoint} (hd : isIn signs d = true)
    (h : ∀ c ∈ tail, isTrailing signs c = true) :
    ∃ v e y, d :: tail = v ++ e :: y ∧ (∀ c ∈ y, isBlank c = true) ∧ isIn signs e = true := by
  induction tail using List.reverseRecOn with
  | nil => exact ⟨[], d, [], rfl, List.forall_mem_nil _, hd⟩
  | append_singleton tail c ih =>
    rw [List.forall_mem_append] at h
    obtain ⟨v, e, y, hsplit, hy, he⟩ := ih h.1
    have hc := h.2 c (List.mem_singleton_self c)
    rw [isTrailing, Bool.or_eq_true] at hc
    rcases hc with hc | hc
    · refine ⟨v, e, y ++ [c], ?_, List.forall_mem_append.2 ⟨hy, by simpa using hc⟩, he⟩
      rw [← List.cons_append, hsplit]
      simp
    · exact ⟨d :: tail, c, [], by simp, List.forall_mem_nil _, hc⟩

theorem IsEntry.isCut {before : Option CodePoint} (hname : IsName name)
    (h : IsEntry before lead args tail) : IsCut (entryText name lead args tail) where
  first := by
    rcases h.leads.first with hblank | ⟨x, d, v, rfl, hx, hd⟩
    · obtain ⟨d, w, rfl⟩ := List.exists_cons_of_ne_nil hname.ne_nil
      refine ⟨lead, d, _, rfl, hblank, ?_⟩
      rw [joinsName, hname.all d (List.mem_cons_self ..), Bool.true_or]
    · exact ⟨x, d, _, List.append_assoc .., hx, hd⟩
  last := by
    have hends : ∀ c ∈ tail, isTrailing ",;)'\"" c = true := by
      intro c hc
      have hend := h.ends c hc
      rw [isTrailing, Bool.or_eq_true] at hend ⊢
      refine hend.imp_right fun hcomma => ?_
      rw [show c = ',' by simpa [isIn, Text.ofString] using hcomma]
      decide
    obtain ⟨v, e, y, hsplit, hy, he⟩ := exists_last (d := ')') (by decide) hends
    refine ⟨lead ++ (name ++ CodePoint.ofChar '(' :: (args ++ v)), e, y, ?_, hy, he⟩
    rw [entryText, hsplit]
    simp

/-- A stretch that starts with a letter and ends with a sign, but for what may follow it. -/
theorem isCut_of_ends {i v : Text} {d e : CodePoint} (hi : ∀ c ∈ i, isIndent c = true)
    (hd : joinsName d = true) (he : isIn ",;)'\"" e = true)
    (h : ∀ c ∈ tail, isTrailing ",;)'\"" c = true) : IsCut (i ++ d :: (v ++ e :: tail)) where
  first := ⟨i, d, _, rfl, fun c hc => CodePoint.isBlank_of_isIndent (hi c hc), hd⟩
  last := by
    obtain ⟨w, e', y, hsplit, hy, he'⟩ := exists_last he h
    exact ⟨i ++ d :: (v ++ w), e', y, by rw [hsplit]; simp, hy, he'⟩

theorem takesOnly_statementEnd : TakesOnly (isTrailing ",;)'\"") statementEnd :=
  takesOnly_seq takesOnly_indent (takesOnly_seq (takesOnly_optional (takesOnly_is (by decide)))
    (takesOnly_seq takesOnly_indent
      (takesOnly_optional (takesOnly_lineBreak (by decide) (by decide)))))

theorem isCut_of_importStatement {m : Match} (hm : m ∈ importStatement.findAll t) : IsCut m.text := by
  obtain ⟨-, -, -, htaken, hway⟩ := exists_append_of_mem_findAll hm
  rw [importStatement_eq] at hway
  obtain ⟨p₁, ps₁, hhead, hend⟩ := way_sequence_append.1 hway
  obtain ⟨-, head, quote, spec, ⟨i, word, v, rfl, hi, hword, -, -⟩, hquote, -, hhead, -⟩ :=
    way_importHead hhead
  obtain ⟨tail, ht, hends⟩ := takesOnly_statementEnd _ _ _ _ hend
  have hsign : isIn ",;)'\"" quote = true := by
    rcases eq_of_isQuote hquote with rfl | rfl <;> decide
  obtain ⟨d, w, rfl, hd⟩ : ∃ d w, word = d :: w ∧ joinsName d = true := by
    simp only [importWords, List.mem_cons, List.not_mem_nil, or_false] at hword
    rcases hword with rfl | rfl
    · exact ⟨'i', "mport", by decide, by decide⟩
    · exact ⟨'e', "xport", by decide, by decide⟩
  have htext : m.text = i ++ d :: (w ++ v ++ quote :: spec ++ quote :: tail) := by
    rw [← htaken.textTo_eq, (hhead.append ht).textTo_eq]
    simp
  rw [htext]
  exact isCut_of_ends hi hd hsign hends

theorem isCut_of_requireStatement {m : Match} (hm : m ∈ requireStatement.findAll t) :
    IsCut m.text := by
  obtain ⟨-, -, -, htaken, hway⟩ := exists_append_of_mem_findAll hm
  obtain ⟨p₁, ps₁, hstart, h₁⟩ := way_seq.1 hway
  obtain ⟨p₂, ps₂, hindent, h₂⟩ := way_seq.1 h₁
  obtain ⟨p₃, ps₃, hbinding, h₃⟩ := way_seq.1 h₂
  obtain ⟨p₄, ps₄, hword, h₄⟩ := way_seq.1 h₃
  have hparts : sequence [blanks, quotedSpec, blanks, one (is ')'), statementEnd] =
    sequence ([blanks, quotedSpec, blanks] ++ [one (is ')'), statementEnd]) := rfl
  rw [hparts] at h₄
  obtain ⟨p₅, ps₅, hspec, h₅⟩ := way_sequence_append.1 h₄
  obtain ⟨p₆, ps₆, hclose, hend⟩ := way_seq.1 h₅
  cases hstart with
  | lineStart _ =>
    obtain ⟨-, i, hi, hall, -⟩ := way_many hindent
    obtain ⟨-, hword⟩ := way_literal hword
    obtain ⟨v, hv⟩ := hspec.reaches
    obtain ⟨-, hclose⟩ := way_is hclose
    obtain ⟨tail, ht, hends⟩ := takesOnly_statementEnd _ _ _ _ hend
    obtain ⟨d, w, hd, hword⟩ : ∃ d w, joinsName d = true ∧ p₂.Takes (d :: w) p₄ := by
      rcases way_alt.1 hbinding with hbinding | hbinding
      · obtain ⟨r₁, rs₁, hkind, hrest⟩ := way_seq.1 hbinding
        obtain ⟨x, hx⟩ := hrest.reaches
        obtain ⟨kind, hmem, hkind⟩ := way_choice hkind
        simp only [List.mem_cons, List.not_mem_nil, or_false] at hmem
        rcases hmem with rfl | rfl | rfl
        · exact ⟨'c', _, by decide, (way_literal hkind).2.append (hx.append hword)⟩
        · exact ⟨'l', _, by decide, (way_literal hkind).2.append (hx.append hword)⟩
        · exact ⟨'v', _, by decide, (way_literal hkind).2.append (hx.append hword)⟩
      · obtain ⟨rfl, -⟩ := way_empty.1 hbinding
        exact ⟨'r', "equire(", by decide, hword⟩
    have hall' := hi.append (hword.append (hv.append (hclose.append ht)))
    have htext : m.text = i ++ d :: (w ++ v ++ CodePoint.ofChar ')' :: tail) := by
      rw [← htaken.textTo_eq, hall'.textTo_eq]
      simp
    rw [htext]
    exact isCut_of_ends hall hd (by decide) hends

/-! ## What a rewrite removes -/

/-- The removals of statements that take in a platform's module. -/
def moduleRemovals (s : Settings) : List Removal :=
  [importStatement, requireStatement].map fun pattern => ⟨pattern, fun m => (dropModule s m).isSome⟩

/-- The removal of a plugin. -/
def pluginRemoval (name : Text) : Removal := ⟨registration name, fun _ => true⟩

/-- All that is removed from a bundler's configuration: statements, then one plugin after the other. -/
def bundlerRemovals (s : Settings) (t : Text) : List Removal :=
  moduleRemovals s ++ (pluginNames s t).map pluginRemoval

theorem deletes_dropModule (s : Settings) : Deletes (dropModule s) := by
  intro m r h
  simp only [dropModule] at h
  split at h
  · rw [← Option.some.inj h]
  · cases h

theorem left_pluginRemoval (name t : Text) : (pluginRemoval name).left t = (dropPlugin name t).1 := by
  have hdel : Deletes fun _ => some (([] : Text), ()) := fun _ r h => by rw [← Option.some.inj h]
  exact Removal.left_eq_edit hdel t

/-- A step for each of some names does what their removals do. -/
theorem foldl_dropPlugin (names : List Text) (edited : Text × List Note) :
    (names.foldl (fun edited name => andThen edited (dropPlugin name)) edited).1 =
      Removal.leftBy (names.map pluginRemoval) edited.1 := by
  induction names generalizing edited with
  | nil => rfl
  | cons name names ih =>
    rw [List.foldl_cons, ih, List.map_cons, Removal.leftBy, Removal.leftBy, List.foldl_cons,
      left_pluginRemoval]
    rfl

theorem leftBy_append (rs rs' : List Removal) (t : Text) :
    Removal.leftBy (rs ++ rs') t = Removal.leftBy rs' (Removal.leftBy rs t) := List.foldl_append ..

/-- What is left of a bundler's configuration holds the joints of its rewrite. -/
theorem stands_bundlerConfig {j : Joint} : j.Stands (bundlerConfig s t).content ↔
    j.Stands (Removal.leftBy (bundlerRemovals s t) t) := by
  set imports := andThen (importStatement.edit (dropModule s) t) (requireStatement.edit (dropModule s))
    with himports
  set edited := (pluginNames s t).foldl (fun edited name => andThen edited (dropPlugin name)) imports
    with hedited
  have hleft : Removal.leftBy (bundlerRemovals s t) t = edited.1 := by
    have hmodules : Removal.leftBy (moduleRemovals s) t = imports.1 := by
      rw [himports, moduleRemovals, List.map_cons, List.map_singleton, Removal.leftBy, List.foldl_cons,
        List.foldl_cons, List.foldl_nil, Removal.left_eq_edit (deletes_dropModule s),
        Removal.left_eq_edit (deletes_dropModule s)]
      rfl
    rw [bundlerRemovals, leftBy_append, hmodules, hedited, foldl_dropPlugin]
  have hcontent : (bundlerConfig s t).content = (finish t edited).content := rfl
  rw [hleft, hcontent]
  by_cases hn : edited.2 = []
  · rw [finish_content_of_notes hn, (Announced.foldl_andThen dropPlugin_announced (pluginNames s t)
      (importEdits_announced (dropModule s) t)).2 hn]
  · rw [finish, if_neg (by simpa using hn)]
    exact stands_collapseBlankRuns

theorem isName_of_mem_pluginNames (h : name ∈ pluginNames s t) : IsName name := by
  obtain ⟨⟨specifier, names⟩, hbound, hmem⟩ := List.mem_flatMap.1 h
  obtain ⟨m, -, hm⟩ := List.mem_map.1 hbound
  obtain ⟨-, rfl⟩ := Prod.ext_iff.1 hm
  dsimp only at hmem
  split at hmem
  · obtain ⟨part, -, hpart⟩ := List.mem_filterMap.1 hmem
    unfold localName? at hpart
    dsimp only at hpart
    split at hpart
    · next hname =>
      simp only [Bool.and_eq_true, Bool.not_eq_true', List.isEmpty_eq_false_iff, List.all_eq_true] at hname
      rw [← Option.some.inj hpart]
      exact ⟨hname.1.1, hname.1.2⟩
    · cases hpart
  · cases hmem

/-- What the removal of a plugin cuts out of a text is an entry there. -/
theorem isEntry_of_gone {qs rs : List Piece}
    (h : (pluginRemoval name).pieces t = qs ++ .gone u :: rs) : ∃ lead args tail,
      IsEntry (textOf qs).getLast? lead args tail ∧ u = entryText name lead args tail := by
  obtain ⟨m, hm, -, rfl, hstart⟩ := Removal.exists_of_pieces h
  obtain ⟨-, -, -, htaken, hway⟩ := exists_append_of_mem_findAll hm
  obtain ⟨lead, args, tail, hentry, hwhole⟩ := isEntry_of_registration hway
  refine ⟨lead, args, tail, ?_, by rw [← htaken.textTo_eq, hwhole.textTo_eq]⟩
  have hbefore : m.start.before = (textOf qs).getLast? := by
    rw [hstart.2.2]
    exact Option.or_none
  rwa [← hbefore]

theorem isCut_of_pluginRemoval (hname : IsName name) (hu : Piece.gone u ∈ (pluginRemoval name).pieces t) :
    IsCut u := by
  obtain ⟨qs, rs, hps⟩ := List.append_of_mem hu
  obtain ⟨lead, args, tail, hentry, rfl⟩ := isEntry_of_gone hps
  exact hentry.isCut hname

/-- What is removed starts with a name and ends with a sign. -/
theorem isCut_of_gone {r : Removal} {t' : Text} (hr : r ∈ bundlerRemovals s t)
    (hu : Piece.gone u ∈ r.pieces t') : IsCut u := by
  rcases List.mem_append.1 hr with hr | hr
  · obtain ⟨ps, qs, hpieces⟩ := List.append_of_mem hu
    obtain ⟨m, hm, -, rfl, -⟩ := Removal.exists_of_pieces hpieces
    simp only [moduleRemovals, List.map_cons, List.map_nil, List.mem_cons, List.not_mem_nil,
      or_false] at hr
    rcases hr with rfl | rfl
    · exact isCut_of_importStatement hm
    · exact isCut_of_requireStatement hm
  · obtain ⟨name, hname, rfl⟩ := List.mem_map.1 hr
    exact isCut_of_pluginRemoval (isName_of_mem_pluginNames hname) hu

/-- A plugin with a condition on a mode before it. -/
def guardedPlugin : Text :=
  "import \x7b componentTagger \x7d from \"lovable-tagger\";\n" ++
    "export default \x7b plugins: [mode === \"development\" && componentTagger()] \x7d;\n"

end Rewrite

end Decouple
