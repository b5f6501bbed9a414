import Decouple.Proofs.Locations
import Decouple.Proofs.Mentions

/-!
# Spellings of a repository

A repository is spelled by an address or in short.  An address may have a scheme, a `www.`, the
ending of a clone address, a branch behind `/tree/`, a slash and something behind `#` or `?`
(`AddressForm`); the short form may have the ending of a clone address.  White space may stand
around either.

A spelling says its parts, with what may end them (`Spelling.says`), so they are read back.  The white
space goes, and with it at most the end of what stands behind `#` or `?` (`trim_text`).  So, whatever
the spelling, it is the same repository (`spelled_alike`).
-/

namespace Decouple

open CodePoint (isIn isBlank isWord)

namespace Text

variable {p : CodePoint → Bool} {head t u before after : Text}

theorem dropEnd?_append (tail t : Text) : dropEnd? tail (t ++ tail) = some t := by
  rw [dropEnd?, if_pos (List.isSuffixOf_iff_suffix.2 (List.suffix_append t tail)),
    List.length_append, Nat.add_sub_cancel, List.take_left]

theorem dropEnd?_eq_none {tail : Text} (h : endsWith t tail = false) : dropEnd? tail t = none :=
  if_neg fun hends => Bool.false_ne_true (h.symm.trans hends)

theorem trimEndOf_of_last (h : t.getLast?.any p = false) : trimEndOf p t = t := by
  induction t using List.reverseRecOn with
  | nil => rfl
  | append_singleton t c =>
    rw [List.getLast?_concat, Option.any_some] at h
    exact trimEndOf_concat_of_neg (by rw [h]; exact Bool.false_ne_true) t

/-- What stands behind a code point that stays is trimmed on its own. -/
theorem trimEndOf_append (ht : t.getLast?.any p = false) (u : Text) :
    trimEndOf p (t ++ u) = t ++ trimEndOf p u := by
  induction u using List.reverseRecOn with
  | nil => rw [List.append_nil, trimEndOf_of_last ht]; exact (List.append_nil t).symm
  | append_singleton u c ih =>
    rw [← List.append_assoc]
    by_cases hc : p c = true
    · rw [trimEndOf_concat_of_pos hc, trimEndOf_concat_of_pos hc, ih]
    · rw [trimEndOf_concat_of_neg hc, trimEndOf_concat_of_neg hc, List.append_assoc]

theorem trimEndOf_append_of_all (hu : ∀ c ∈ u, p c = true) :
    trimEndOf p (t ++ u) = trimEndOf p t := by
  induction u using List.reverseRecOn with
  | nil => rw [List.append_nil]
  | append_singleton u c ih =>
    rw [← List.append_assoc, trimEndOf_concat_of_pos (hu c (by simp)),
      ih fun d hd => hu d (List.mem_append_left _ hd)]

/-- What stands behind a text without white space is trimmed at its end only. -/
theorem trim_around (hne : t ≠ []) (ht : ∀ c ∈ t, CodePoint.isBlank c = false)
    (hbefore : ∀ c ∈ before, CodePoint.isBlank c = true) (u : Text) :
    trim (before ++ (t ++ u)) = t ++ trimEndOf CodePoint.isBlank u := by
  have hlast : t.getLast?.any CodePoint.isBlank = false := by
    rw [List.getLast?_eq_some_getLast hne]
    exact ht _ (List.getLast_mem hne)
  have hhead : (t ++ u).head?.any CodePoint.isBlank = false := by
    rw [List.head?_append_of_ne_nil _ hne, List.head?_eq_some_head hne]
    exact ht _ (List.head_mem hne)
  rw [trim, trimOf, trimStartOf, dropWhile_append_of_head hbefore hhead, trimEndOf_append hlast]

end Text

namespace CodePoint

variable {c : CodePoint}

/-- What names of owners and repositories are made of: ASCII letters and digits, the underscore, the
hyphen and the full stop. -/
def isNameSign (c : CodePoint) : Bool := c.isLetterOrDigit || isIn "_-." c

theorem isNameSign_of_lt (n : Fin 128) : let c := ofNat n
    c.isNameSign = true →
      isBlank c = false ∧ isIn "#?/" c = false ∧ Repository.isShort c = true := by
  revert n
  decide +kernel

theorem val_lt_of_isNameSign (h : c.isNameSign = true) : c.val < 128 := by
  rw [isNameSign, isIn, Bool.or_eq_true] at h
  rcases h with h | h
  · simp [isLetterOrDigit, isLetter, isUpper, isLower, isDigit] at h
    omega
  · have hmem : c ∈ ("_-." : Text) := List.contains_iff_mem.1 h
    have hascii : ∀ d ∈ ("_-." : Text), d.val < 128 := by decide
    exact hascii c hmem

theorem spec_of_isNameSign (h : c.isNameSign = true) :
    isBlank c = false ∧ isIn "#?/" c = false ∧ Repository.isShort c = true := by
  have hlt := val_lt_of_isNameSign h
  have hspec := isNameSign_of_lt ⟨c.val, hlt⟩
  rw [ofNat_val] at hspec
  exact hspec h

end CodePoint

namespace Repository

/-- A name of an owner. -/
structure PlainName where
  text : Text
  ne_nil : text ≠ []
  plain : ∀ c ∈ text, c.isNameSign = true

/-- A name of a repository, which is not the end of a clone address. -/
structure RepositoryName extends PlainName where
  not_clone : Text.endsWith text ".git" = false

/-- A branch, tag or commit as an address can name it. -/
structure Branch where
  text : Text
  ne_nil : text ≠ []
  not_blank : ∀ c ∈ text, isBlank c = false
  not_sign : ∀ c ∈ text, c ≠ '#' ∧ c ≠ '?'
  not_slash : text.getLast? ≠ some (CodePoint.ofChar '/')

/-- What an address may end with, on its line: `#` or `?` and anything. -/
structure Ending where
  sign : CodePoint
  is_sign : sign = '#' ∨ sign = '?'
  tail : Text
  single_line : ('\n' : CodePoint) ∉ tail

/-- A choice of the parts that an address need not have. -/
structure AddressForm where
  scheme : Scheme
  www : Bool
  clone : Bool
  branch : Option Branch
  slash : Bool
  ending : Option Ending

/-- A way to spell a repository. -/
inductive Spelling where
  | address (form : AddressForm)
  | short (clone : Bool)

/-! ## The texts of spellings -/

def Branch.path (b : Branch) : Text := "/tree/" ++ b.text

def Ending.text (e : Ending) : Text := e.sign :: e.tail

def cloneEnding (clone : Bool) : Text := if clone then ".git" else []

namespace AddressForm

/-- An address up to what stands behind `#` or `?`. -/
def body (a : AddressForm) (owner name : Text) : Text :=
  a.scheme.start a.www ++ (owner ++ ("/" ++ (name ++ cloneEnding a.clone ++
    ((a.branch.map Branch.path).getD [] ++ slashEnding a.slash))))

def endingText (a : AddressForm) : Text := (a.ending.map Ending.text).getD []

def text (a : AddressForm) (owner name : Text) : Text := a.body owner name ++ a.endingText

end AddressForm

namespace Spelling

def text (owner name : Text) : Spelling → Text
  | address form => form.text owner name
  | short clone => owner ++ ("/" ++ (name ++ cloneEnding clone))

/-- The reference that a spelling names. -/
def reference : Spelling → Option Text
  | address form => form.branch.map Branch.text
  | short _ => none

end Spelling

/-! ## Reading a spelling back -/

/-- A name, whatever of it is the ending of a clone address. -/
def IsPlain (t : Text) : Prop := t ≠ [] ∧ ∀ c ∈ t, c.isNameSign = true

variable {scheme : Scheme} {www : Bool} {owner name t before after : Text}

theorem PlainName.isPlain (n : PlainName) : IsPlain n.text := ⟨n.ne_nil, n.plain⟩

theorem IsPlain.append_cloneEnding (h : IsPlain t) (clone : Bool) :
    IsPlain (t ++ cloneEnding clone) := by
  have hending : ∀ c ∈ cloneEnding clone, c.isNameSign = true := by
    cases clone <;> decide
  refine ⟨List.append_ne_nil_of_left_ne_nil h.1 _, fun c hc => ?_⟩
  exact (List.mem_append.1 hc).elim (h.2 c) (hending c)

theorem IsPlain.isEmpty (h : IsPlain t) : t.isEmpty = false := by
  rw [List.isEmpty_eq_false_iff]
  exact h.1

theorem isOwner_of_isNameSign {c : CodePoint} (h : c.isNameSign = true) : isOwner c = true := by
  obtain ⟨hblank, hsign, -⟩ := CodePoint.spec_of_isNameSign h
  have hslash : c ≠ '/' := by
    rintro rfl
    cases hsign
  rw [isOwner, hblank, decide_eq_true hslash]
  rfl

theorem isName_of_isNameSign {c : CodePoint} (h : c.isNameSign = true) : isName c = true := by
  obtain ⟨hblank, hsign, -⟩ := CodePoint.spec_of_isNameSign h
  have hliteral : ("#?/" : Text) = "#?" ++ "/" := rfl
  rw [hliteral, isIn, List.contains_append, Bool.or_eq_false_iff] at hsign
  have hslash : c ≠ '/' := by
    rintro rfl
    cases hsign.2
  rw [isName, isReference, isIn, hsign.1, hblank, decide_eq_true hslash]
  rfl

theorem isShort_of_isNameSign {c : CodePoint} (h : c.isNameSign = true) : isShort c = true :=
  (CodePoint.spec_of_isNameSign h).2.2

theorem isEnding_endingText (a : AddressForm) : isEnding a.endingText = true := by
  unfold AddressForm.endingText
  cases a.ending with
  | none => rfl
  | some e =>
    have htail : e.tail.all (· ≠ '\n') = true :=
      List.all_eq_true.2 fun c hc => decide_eq_true fun h => e.single_line (h ▸ hc)
    rw [Option.map_some, Option.getD_some, Ending.text, isEnding, htail, Bool.and_true]
    rcases e.is_sign with h | h <;> rw [h] <;> rfl

/-- The part of an address behind the name. -/
def AddressForm.rest (a : AddressForm) : Text :=
  (a.branch.map Branch.path).getD [] ++ (slashEnding a.slash ++ a.endingText)

theorem isReference_of_mem_slashEnding :
    ∀ slash, ∀ c ∈ slashEnding slash, isReference c = true := by
  decide

theorem Branch.isReference_of_mem (b : Branch) {c : CodePoint} (h : c ∈ b.text) :
    isReference c = true := by
  have hliteral : ("#?" : Text) = [CodePoint.ofChar '#', CodePoint.ofChar '?'] := rfl
  obtain ⟨hhash, hquery⟩ := b.not_sign c h
  rw [isReference, isIn, hliteral, b.not_blank c h]
  simp [hhash, hquery]

/-! ## White space around a spelling -/

theorem IsPlain.isBlank_of_mem (h : IsPlain t) : ∀ c ∈ t, isBlank c = false :=
  fun c hc => (CodePoint.spec_of_isNameSign (h.2 c hc)).1

theorem isBlank_of_mem_start : ∀ c ∈ scheme.start www, isBlank c = false := by
  cases scheme <;> cases www <;> decide

theorem isBlank_of_mem_slashEnding : ∀ slash, ∀ c ∈ slashEnding slash, isBlank c = false := by
  decide

/-- Nothing in an address up to its ending is white space. -/
theorem AddressForm.isBlank_of_mem_body (a : AddressForm) (howner : IsPlain owner)
    (hname : IsPlain name) : ∀ c ∈ a.body owner name, isBlank c = false := by
  have hbranch : ∀ c ∈ (a.branch.map Branch.path).getD [], isBlank c = false := by
    cases a.branch with
    | none => decide
    | some b =>
      have hpath : ∀ c ∈ ("/tree/" : Text), isBlank c = false := by decide
      exact List.forall_mem_append.2 ⟨hpath, b.not_blank⟩
  have hslash : ∀ c ∈ ("/" : Text), isBlank c = false := by decide
  unfold AddressForm.body
  simp only [List.forall_mem_append]
  exact ⟨isBlank_of_mem_start, howner.isBlank_of_mem, hslash,
    List.forall_mem_append.1 (hname.append_cloneEnding a.clone).isBlank_of_mem, hbranch,
    isBlank_of_mem_slashEnding _⟩

theorem AddressForm.body_ne_nil (a : AddressForm) (howner : IsPlain owner) :
    a.body owner name ≠ [] :=
  List.append_ne_nil_of_right_ne_nil _ (List.append_ne_nil_of_left_ne_nil howner.1 _)

/-- The ending of an address without the white space at its end. -/
def Ending.trimmed (e : Ending) : Ending where
  sign := e.sign
  is_sign := e.is_sign
  tail := Text.trimEndOf isBlank e.tail
  single_line h := e.single_line ((Text.trimEndOf_prefix isBlank e.tail).subset h)

theorem Ending.sign_not_blank (e : Ending) : isBlank e.sign = false := by
  rcases e.is_sign with h | h <;> rw [h] <;> rfl

def AddressForm.trimmed (a : AddressForm) : AddressForm :=
  { a with ending := a.ending.map Ending.trimmed }

def Spelling.trimmed : Spelling → Spelling
  | address form => address form.trimmed
  | short clone => short clone

theorem AddressForm.trimEndOf_endingText (a : AddressForm)
    (hafter : ∀ c ∈ after, isBlank c = true) :
    Text.trimEndOf isBlank (a.endingText ++ after) = a.trimmed.endingText := by
  unfold AddressForm.endingText AddressForm.trimmed
  rw [Text.trimEndOf_append_of_all hafter]
  cases a.ending with
  | none => rfl
  | some e =>
    have hsign : [e.sign].getLast?.any isBlank = false := e.sign_not_blank
    exact Text.trimEndOf_append hsign e.tail

/-- Without the white space around it a spelling is a spelling. -/
theorem trim_text (s : Spelling) (howner : IsPlain owner) (hname : IsPlain name)
    (hbefore : ∀ c ∈ before, isBlank c = true) (hafter : ∀ c ∈ after, isBlank c = true) :
    Text.trim (before ++ s.text owner name ++ after) = s.trimmed.text owner name := by
  rw [List.append_assoc]
  cases s with
  | address a =>
    change Text.trim (before ++ (a.body owner name ++ a.endingText ++ after)) = _
    rw [List.append_assoc, Text.trim_around (a.body_ne_nil howner) (a.isBlank_of_mem_body howner hname)
      hbefore, a.trimEndOf_endingText hafter]
    rfl
  | short clone =>
    have hslash : ∀ c ∈ ("/" : Text), isBlank c = false := by decide
    have hne := List.append_ne_nil_of_left_ne_nil howner.1 ("/" ++ (name ++ cloneEnding clone))
    have hblank : ∀ c ∈ owner ++ ("/" ++ (name ++ cloneEnding clone)), isBlank c = false := by
      simp only [List.forall_mem_append]
      exact ⟨howner.isBlank_of_mem, hslash,
        List.forall_mem_append.1 (hname.append_cloneEnding clone).isBlank_of_mem⟩
    have hend : Text.trimEndOf isBlank after = [] := Text.trimEndOf_append_of_all (t := []) hafter
    change Text.trim (before ++ (owner ++ ("/" ++ (name ++ cloneEnding clone)) ++ after)) = _
    rw [Text.trim_around hne hblank hbefore, hend, List.append_nil]
    rfl

/-! ## The repository of a spelling -/

theorem cloneName_append (hname : Text.endsWith name ".git" = false) (clone : Bool) :
    cloneName (name ++ cloneEnding clone) = name := by
  unfold cloneName
  cases clone with
  | true => exact congrArg (Option.getD · _) (Text.dropEnd?_append ".git" name)
  | false =>
    have hsame : name ++ cloneEnding false = name := List.append_nil name
    rw [hsame, Text.dropEnd?_eq_none hname, Option.getD_none]

/-- The slash behind a branch is not part of it. -/
theorem Branch.trimEndOf_append (b : Branch) (slash : Bool) :
    Text.trimEndOf (· = '/') (b.text ++ slashEnding slash) = b.text := by
  have hall : ∀ slash, ∀ c ∈ slashEnding slash, decide (c = '/') = true := by decide
  have hlast : (b.text.getLast?.any fun c : CodePoint => c = '/') = false := by
    rw [Option.any_eq_false]
    intro c hc
    exact decide_eq_false fun h => b.not_slash (h ▸ hc)
  rw [Text.trimEndOf_append_of_all (hall slash), Text.trimEndOf_of_last hlast]

/-- The branch of an address is said with the slash behind it. -/
theorem AddressForm.follows (a : AddressForm) :
    Follows a.rest (a.branch.map fun b => b.text ++ slashEnding a.slash) := by
  unfold AddressForm.rest
  cases a.branch with
  | none => exact .plain a.slash (isEnding_endingText a)
  | some b =>
    have hreference : ∀ c ∈ b.text ++ slashEnding a.slash, isReference c = true := fun c hc =>
      (List.mem_append.1 hc).elim b.isReference_of_mem (isReference_of_mem_slashEnding _ c)
    have htree := Follows.tree (List.append_ne_nil_of_left_ne_nil b.ne_nil _) hreference
      (isEnding_endingText a)
    rw [Option.map_some, Option.getD_some, Branch.path, List.append_assoc]
    rwa [List.append_assoc] at htree

/-- A spelling says its parts, with what may end them. -/
theorem Spelling.says (s : Spelling) (howner : IsPlain owner) (hname : IsPlain name) :
    ∃ clone reference,
      Says (s.text owner name) { owner, name := name ++ cloneEnding clone, reference } ∧
        reference.map (Text.trimEndOf (· = '/')) = s.reference := by
  cases s with
  | address a =>
    have hclone := hname.append_cloneEnding a.clone
    have htext : a.text owner name =
        a.scheme.start a.www ++ (owner ++ ("/" ++ (name ++ cloneEnding a.clone ++ a.rest))) := by
      simp only [AddressForm.text, AddressForm.body, AddressForm.rest, List.append_assoc]
    refine ⟨a.clone, a.branch.map fun b => b.text ++ slashEnding a.slash, ?_, ?_⟩
    · rw [Spelling.text, htext]
      exact .address a.scheme a.www
        ⟨howner.1, fun c hc => isOwner_of_isNameSign (howner.2 c hc)⟩
        ⟨hclone.1, fun c hc => isName_of_isNameSign (hclone.2 c hc)⟩ a.follows
    · change _ = a.branch.map Branch.text
      rw [Option.map_map]
      congr 1
      funext b
      exact b.trimEndOf_append a.slash
  | short clone =>
    have hclone := hname.append_cloneEnding clone
    exact ⟨clone, none, .short ⟨howner.1, fun c hc => isShort_of_isNameSign (howner.2 c hc)⟩
      ⟨hclone.1, fun c hc => isShort_of_isNameSign (hclone.2 c hc)⟩, rfl⟩

/-- A spelling is read with what may end its parts. -/
theorem exists_mention?_text (s : Spelling) (howner : IsPlain owner) (hname : IsPlain name)
    (hbefore : ∀ c ∈ before, isBlank c = true) (hafter : ∀ c ∈ after, isBlank c = true) :
    ∃ clone reference, mention? (before ++ s.text owner name ++ after) =
        some { owner, name := name ++ cloneEnding clone, reference } ∧
      reference.map (Text.trimEndOf (· = '/')) = s.reference := by
  obtain ⟨clone, reference, hsays, hreference⟩ := s.trimmed.says howner hname
  refine ⟨clone, reference, mention?_eq_some_iff.2 ?_, hreference.trans ?_⟩
  · rwa [trim_text s howner hname hbefore hafter]
  · cases s <;> rfl

/-- However a repository is spelled, and whatever white space stands around it, it is the same one,
at the branch that the spelling names or at `main`; a reference that is given apart wins. -/
theorem spelled_alike (owner : PlainName) (name : RepositoryName) (s : Spelling)
    (hbefore : ∀ c ∈ before, isBlank c = true) (hafter : ∀ c ∈ after, isBlank c = true) :
    let source := before ++ s.text owner.text name.text ++ after
    isNamedBy source = true ∧
      (∀ given : Option Text, given.getD [] = [] → ofSource source given =
        .ok { owner := owner.text, name := name.text, reference := s.reference.getD "main" }) ∧
      ∀ given, given ≠ [] → ofSource source (some given) =
        .ok { owner := owner.text, name := name.text, reference := given } := by
  obtain ⟨clone, reference, hmention, hreference⟩ :=
    exists_mention?_text s owner.isPlain name.isPlain hbefore hafter
  refine ⟨by rw [isNamedBy, hmention]; rfl, fun given hgiven => ?_, fun given hgiven => ?_⟩
  · have hnone : given.filter (!·.isEmpty) = none := by
      cases given with
      | none => rfl
      | some t =>
        obtain rfl : t = [] := hgiven
        rfl
    rw [ofSource, hmention]
    simp only [ofMention, cloneName_append name.not_clone, hnone, hreference, Option.getD_none]
  · have hsome : (some given).filter (!·.isEmpty) = some given := by
      rw [Option.filter_some, if_pos]
      simpa using hgiven
    rw [ofSource, hmention]
    simp only [ofMention, cloneName_append name.not_clone, hsome, Option.getD_some]

/-- An address with all its parts. -/
def fullForm : AddressForm where
  scheme := .https
  www := true
  clone := true
  branch := some ⟨"feature/x", by decide, by decide, by decide, by decide⟩
  slash := true
  ending := some ⟨'?', .inr rfl, "tab=readme ", by decide⟩

/-- The spelling in full with white space around it. -/
def fullFormSource : Text := " https://www.github.com/acme/site.git/tree/feature/x/?tab=readme \n"

theorem fullForm_spelled_alike : isNamedBy fullFormSource = true ∧
    ofSource fullFormSource none =
      .ok { owner := "acme", name := "site", reference := "feature/x" } ∧
    ofSource fullFormSource (some "v1") =
      .ok { owner := "acme", name := "site", reference := "v1" } := by
  let owner : PlainName := ⟨"acme", by decide, by decide⟩
  let name : RepositoryName := ⟨⟨"site", by decide, by decide⟩, by decide⟩
  have hbefore : ∀ c ∈ (" " : Text), isBlank c = true := by decide
  have hafter : ∀ c ∈ ("\n" : Text), isBlank c = true := by decide
  obtain ⟨hnamed, hwithout, hgiven⟩ := spelled_alike owner name (.address fullForm) hbefore hafter
  exact ⟨hnamed, hwithout none rfl, hgiven "v1" (by decide)⟩

end Repository

end Decouple
