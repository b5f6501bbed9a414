import Decouple.Proofs.Matches
import Decouple.Proofs.Texts
import Decouple.Signature.Finding
import Mathlib.Data.List.Induction

/-!
# Hosts with punctuation behind them

An address in a text may have the punctuation of a sentence behind it.  The analysis reads an address
without that punctuation, the rewrite of a tag reads it as it stands.  What the punctuation can do to
an address is little: it belongs to the path, to a port or to the zone of a bracketed address, or else
the host ends in it.  So an address whose host does not end in punctuation has the same host without
the punctuation (`host_trimmed`); and where no host of a platform ends in punctuation, an address that
a platform owns as it stands is owned without the punctuation too (`addressOwner?_trimmed`).
-/

namespace Decouple

open CodePoint (isIn isNotIn)

namespace CodePoint

variable {c d : CodePoint}

/-- Punctuation that ends a sentence or a part of it. -/
def endsSentence (c : CodePoint) : Bool := isIn ".,;" c

theorem endsSentence_iff : c.endsSentence = true ↔ c = '.' ∨ c = ',' ∨ c = ';' := by
  have hliteral : (".,;" : Text) = [ofChar '.', ofChar ',', ofChar ';'] := by decide
  rw [endsSentence, isIn, hliteral]
  simp

theorem ne_of_endsSentence (hc : c.endsSentence = true) (hd : d.endsSentence = false) : c ≠ d := by
  rintro rfl
  rw [hd] at hc
  cases hc

end CodePoint

namespace Text

variable {c : CodePoint}

/-- Punctuation has no case. -/
theorem exists_lowerAfter_concat (hc : c.endsSentence = true) (before t : Text) :
    ∃ u, lowerAfter before (t ++ [c]) = u ++ [c] := by
  induction t generalizing before with
  | nil =>
    refine ⟨[], ?_⟩
    rcases CodePoint.endsSentence_iff.1 hc with rfl | rfl | rfl <;> rfl
  | cons d t ih =>
    obtain ⟨u, hu⟩ := ih (d :: before)
    rw [List.cons_append, lowerAfter, hu, ← List.append_assoc]
    exact ⟨_, rfl⟩

theorem exists_lowerCase_concat (hc : c.endsSentence = true) (t : Text) :
    ∃ u, lowerCase (t ++ [c]) = u ++ [c] := exists_lowerAfter_concat hc [] t

end Text

/-! ## Hosts of platforms -/

/-- No host of a platform is empty or ends in punctuation. -/
def PlainHosts (s : Settings) : Prop :=
  ∀ p ∈ s.platforms, ∀ cdn ∈ p.cdnHosts, cdn.getLast?.any (!·.endsSentence) = true

instance (s : Settings) : Decidable (PlainHosts s) := by
  unfold PlainHosts
  infer_instance

/-- The known platforms have such hosts. -/
theorem plainHosts_default : PlainHosts {} := by decide

namespace Platform

/-- A host that a platform owns ends in one of its hosts. -/
theorem exists_of_ownsHost {p : Platform} {host : Text} (h : p.ownsHost host = true) :
    ∃ cdn ∈ p.cdnHosts, ∃ before, Text.lowerCase host = before ++ cdn := by
  obtain ⟨cdn, hcdn, h⟩ := List.any_eq_true.1 h
  refine ⟨cdn, hcdn, ?_⟩
  rcases Bool.or_eq_true_iff.1 h with h | h
  · exact ⟨[], by simpa using h⟩
  · obtain ⟨before, hbefore⟩ := List.isSuffixOf_iff_suffix.1 h
    exact ⟨before ++ ".", by rw [List.append_assoc]; exact hbefore.symm⟩

end Platform

namespace Settings

variable {s : Settings} {c : CodePoint}

theorem exists_getLast?_of_hostOwner? (hs : PlainHosts s) {host : Text}
    (h : (s.hostOwner? host).isSome = true) :
    ∃ d, (Text.lowerCase host).getLast? = some d ∧ d.endsSentence = false := by
  obtain ⟨p, hp⟩ := Option.isSome_iff_exists.1 h
  have howns : p.ownsHost host = true := by simpa using List.find?_some hp
  obtain ⟨cdn, hcdn, before, hhost⟩ := Platform.exists_of_ownsHost howns
  have hplain := hs p (List.mem_of_find?_eq_some hp) cdn hcdn
  cases hlast : cdn.getLast? with
  | none =>
    rw [hlast] at hplain
    cases hplain
  | some d =>
    rw [hlast] at hplain
    refine ⟨d, ?_, by simpa using hplain⟩
    rw [hhost, List.getLast?_append, hlast, Option.some_or]

theorem hostOwner?_nil (hs : PlainHosts s) : s.hostOwner? [] = none := by
  by_contra h
  obtain ⟨d, hd, -⟩ := exists_getLast?_of_hostOwner? hs (Option.isSome_iff_ne_none.2 h)
  cases hd

/-- No platform owns a host with punctuation behind it. -/
theorem hostOwner?_concat (hs : PlainHosts s) (hc : c.endsSentence = true) (t : Text) :
    s.hostOwner? (Text.lowerCase (t ++ [c])) = none := by
  by_contra h
  obtain ⟨d, hd, hplain⟩ := exists_getLast?_of_hostOwner? hs (Option.isSome_iff_ne_none.2 h)
  obtain ⟨u, hu⟩ := Text.exists_lowerCase_concat hc t
  obtain ⟨v, hv⟩ := Text.exists_lowerCase_concat hc u
  rw [hu, hv, List.getLast?_concat] at hd
  obtain rfl := Option.some.inj hd
  rw [hplain] at hc
  cases hc

end Settings

namespace Url

variable {t : Text} {c : CodePoint}

/-! ## Bracketed addresses hold no at-sign -/

theorem not_mem_of_isHextet (h : isHextet t = true) : ('@' : CodePoint) ∉ t := by
  intro hat
  have hhex := List.all_eq_true.1 (Bool.and_eq_true_iff.1 h).2 _ hat
  exact absurd hhex (by decide)

theorem not_mem_of_isOctet (h : isOctet t = true) : ('@' : CodePoint) ∉ t := by
  intro hat
  simp only [isOctet, Bool.and_eq_true] at h
  have hdigit := List.all_eq_true.1 h.1.1.2 _ hat
  exact absurd hdigit (by decide)

/-- Groups that make an address are empty or hexadecimal. -/
theorem isHextet_of_areGroups {groups : List Text} (h : areGroups groups = true) {g : Text}
    (hg : g ∈ groups) : g = [] ∨ isHextet g = true := by
  unfold areGroups at h
  dsimp only at h
  split at h
  · simp only [Bool.and_eq_true] at h
    exact .inr (List.all_eq_true.1 h.2 g hg)
  · next hone =>
    -- The one empty group inside parts the groups into those before it and those after it.
    obtain ⟨e, he, hempty⟩ := List.countP_pos_iff.1 (by rw [hone]; exact Nat.one_pos)
    obtain rfl : e = [] := List.isEmpty_iff.1 hempty
    obtain ⟨before, after, hinner, hbefore⟩ := List.eq_append_cons_of_mem he
    obtain ⟨first, rest, rfl⟩ : ∃ first rest, groups = first :: rest := by
      cases groups with
      | nil => cases he
      | cons first rest => exact ⟨first, rest, rfl⟩
    rw [List.drop_succ_cons, List.drop_zero] at hinner h
    obtain ⟨last, hrest⟩ : ∃ last, rest = before ++ [] :: (after ++ [last]) := by
      have hne : rest ≠ [] := by
        rintro rfl
        simp at hinner
      refine ⟨rest.getLast hne, (List.dropLast_append_getLast hne).symm.trans ?_⟩
      rw [hinner, List.append_assoc, List.cons_append]
    have hfull : ∀ g ∈ before, (!g.isEmpty) = true := by
      intro g hg
      rw [Bool.not_eq_true', List.isEmpty_eq_false_iff]
      rintro rfl
      exact hbefore hg
    have hstop : (rest.dropLast.takeWhile (!·.isEmpty)) = before := by
      rw [hinner, List.takeWhile_append_of_pos hfull, List.takeWhile_cons_of_neg (by simp),
        List.append_nil]
    have hhigh : (first :: rest).take (1 + before.length) = first :: before := by
      rw [Nat.add_comm, List.take_succ_cons, hrest, List.take_left]
    have hlow : (first :: rest).drop ((first :: before).length + 1) = after ++ [last] := by
      rw [List.drop_succ_cons, hrest, List.length_cons, List.drop_append]
      simp
    rw [hstop, hhigh, hlow] at h
    simp only [Bool.and_eq_true] at h
    have hpart {part : List Text} (hall : (if part = [[]] then [] else part).all isHextet = true)
        (hg : g ∈ part) : g = [] ∨ isHextet g = true := by
      split at hall
      · next hsingle =>
        rw [hsingle] at hg
        exact .inl (List.mem_singleton.1 hg)
      · exact .inr (List.all_eq_true.1 hall g hg)
    have hcases : g ∈ first :: before ∨ g = [] ∨ g ∈ after ++ [last] := by
      rw [hrest] at hg
      simp only [List.mem_cons, List.mem_append] at hg ⊢
      tauto
    rcases hcases with hg | rfl | hg
    · exact hpart h.1.1 hg
    · exact .inl rfl
    · exact hpart h.1.2 hg
  · cases h

/-- The groups of an address hold no at-sign, whatever its zone holds. -/
theorem not_mem_of_isGroupedAddress (h : isGroupedAddress t = true) :
    ('@' : CodePoint) ∉ (Text.cut '%' t).1 := by
  intro hat
  unfold isGroupedAddress at h
  generalize Text.cut '%' t = parts at h hat
  obtain ⟨address, zone⟩ := parts
  simp only [Bool.and_eq_true] at h
  obtain ⟨group, hgroup, hmem⟩ : ∃ group ∈ Text.splitOn ':' address, ('@' : CodePoint) ∈ group :=
    Text.exists_mem_splitOn hat (by decide)
  have hgroups {groups : List Text} (hare : areGroups groups = true) (hg : group ∈ groups) :
      False := by
    rcases isHextet_of_areGroups hare hg with rfl | hhex
    · cases hmem
    · exact not_mem_of_isHextet hhex hmem
  have hfits := h.2
  split at hfits
  · obtain ⟨hquad, hare⟩ := Bool.and_eq_true_iff.1 hfits
    have hne : Text.splitOn ':' address ≠ [] := Text.splitWhere_ne_nil _ _
    rw [← List.dropLast_append_getLast hne, List.mem_append, List.mem_singleton] at hgroup
    rcases hgroup with hgroup | rfl
    · exact hgroups hare (List.mem_append_left _ hgroup)
    · rw [List.getLastD_eq_getLast?, List.getLast?_eq_some_getLast hne, Option.getD_some,
        isDottedQuad, Bool.and_eq_true] at hquad
      obtain ⟨octet, hoctet, hmem⟩ : ∃ octet ∈ Text.splitOn '.' ((Text.splitOn ':' address).getLast hne),
          ('@' : CodePoint) ∈ octet := Text.exists_mem_splitOn hmem (by decide)
      exact not_mem_of_isOctet (List.all_eq_true.1 hquad.2 octet hoctet) hmem
  · exact hgroups hfits hgroup

/-! ## Punctuation behind a bracketed address -/

/-- Whether code points that are no punctuation occur does not depend on punctuation behind a text. -/
theorem contains_concat {d : CodePoint} (hc : c.endsSentence = true) (hd : d.endsSentence = false)
    (t : Text) : (t ++ [c]).contains d = t.contains d := by
  have hlast : d ≠ c := (CodePoint.ne_of_endsSentence hc hd).symm
  simp [hlast]

/-- Punctuation behind an address of a future version is the end of what follows the version. -/
theorem isFutureAddress_concat (hc : c.endsSentence = true) (hat : ('@' : CodePoint) ∈ t.drop 1) :
    isFutureAddress (t ++ [c]) = isFutureAddress t := by
  have hversion {version : Text} (hmem : ('@' : CodePoint) ∈ version) :
      (version.all fun d => d.hexValue?.isSome) = false :=
    List.all_eq_false.2 ⟨_, hmem, by decide⟩
  have hdrop : (t ++ [c]).drop 1 = t.drop 1 ++ [c] := by
    cases t with
    | nil => cases hat
    | cons first rest => rfl
  unfold isFutureAddress
  rw [hdrop]
  generalize t.drop 1 = body at hat ⊢
  by_cases hpoint : ('.' : CodePoint) ∈ body
  · obtain ⟨version, more, rfl, hfree⟩ := List.eq_append_cons_of_mem hpoint
    rw [List.append_assoc, List.cons_append, Text.cut_append hfree, Text.cut_append hfree]
    dsimp only
    rw [contains_concat hc (by decide)]
    rcases List.mem_append.1 hat with hmem | hmem
    · simp only [hversion hmem, Bool.and_false, Bool.false_and]
    · have hmore : more ≠ [] :=
        List.ne_nil_of_mem ((List.mem_cons.1 hmem).resolve_left (by decide))
      have hmore' : more ++ [c] ≠ [] := List.append_ne_nil_of_left_ne_nil hmore _
      rw [List.isEmpty_eq_false_iff.2 hmore, List.isEmpty_eq_false_iff.2 hmore']
  · rw [Text.cut_of_not_mem hpoint]
    by_cases hc' : c = '.'
    · rw [hc', Text.cut_append hpoint]
      simp only [hversion hat, Bool.and_false, Bool.false_and]
    · have hfree : ('.' : CodePoint) ∉ body ++ [c] := by
        rw [List.mem_append, List.mem_singleton, not_or]
        exact ⟨hpoint, fun heq => hc' heq.symm⟩
      rw [Text.cut_of_not_mem hfree]

/-- Punctuation behind an address of groups is the end of its zone. -/
theorem isGroupedAddress_concat (hc : c.endsSentence = true) (hat : ('@' : CodePoint) ∈ t) :
    isGroupedAddress (t ++ [c]) = isGroupedAddress t := by
  have hgroups {u address : Text} {zone : Option Text} (hcut : Text.cut '%' u = (address, zone))
      (hmem : ('@' : CodePoint) ∈ address) : isGroupedAddress u = false := by
    by_contra h
    refine not_mem_of_isGroupedAddress (by simpa using h) ?_
    rwa [hcut]
  have hpercent : c ≠ '%' := CodePoint.ne_of_endsSentence hc (by decide)
  by_cases hzone : ('%' : CodePoint) ∈ t
  · obtain ⟨address, zone, rfl, hfree⟩ := List.eq_append_cons_of_mem hzone
    have hcut : Text.cut '%' (address ++ CodePoint.ofChar '%' :: zone ++ [c]) =
        (address, some (zone ++ [c])) := by
      rw [List.append_assoc, List.cons_append, Text.cut_append hfree]
    rcases List.mem_append.1 hat with hmem | hmem
    · rw [hgroups hcut hmem, hgroups (Text.cut_append hfree) hmem]
    · have hsome : zone ≠ [] :=
        List.ne_nil_of_mem ((List.mem_cons.1 hmem).resolve_left (by decide))
      unfold isGroupedAddress
      rw [hcut, Text.cut_append hfree]
      dsimp only
      rw [contains_concat hc (by decide), contains_concat hc (by decide),
        List.isEmpty_eq_false_iff.2 hsome,
        List.isEmpty_eq_false_iff.2 (List.append_ne_nil_of_left_ne_nil hsome _)]
  · have hfree : ('%' : CodePoint) ∉ t ++ [c] := by
      rw [List.mem_append, List.mem_singleton, not_or]
      exact ⟨hzone, fun heq => hpercent heq.symm⟩
    rw [hgroups (Text.cut_of_not_mem hfree) (List.mem_append_left _ hat),
      hgroups (Text.cut_of_not_mem hzone) hat]

/-- Whether something with an at-sign may stand in brackets does not depend on punctuation behind
it. -/
theorem mayBeBracketed_concat (hc : c.endsSentence = true) (hat : ('@' : CodePoint) ∈ t) :
    mayBeBracketed (t ++ [c]) = mayBeBracketed t := by
  obtain ⟨first, rest, rfl⟩ := List.exists_cons_of_ne_nil (List.ne_nil_of_mem hat)
  unfold mayBeBracketed
  rw [List.cons_append, List.head?_cons, List.head?_cons, ← List.cons_append]
  split
  · next hfirst =>
    refine isFutureAddress_concat hc ((List.mem_cons.1 hat).resolve_left ?_)
    rintro rfl
    exact absurd hfirst (by decide)
  · exact isGroupedAddress_concat hc hat

/-! ## Punctuation behind an authority -/

/-- What stands after the last at-sign with punctuation behind it. -/
theorem afterLast_concat {sep : CodePoint} (hne : c ≠ sep) (t : Text) :
    Text.afterLast sep (t ++ [c]) = Text.afterLast sep t ++ [c] := by
  unfold Text.afterLast
  rw [List.reverse_concat, List.takeWhile_cons_of_pos (by simpa using hne), List.reverse_cons]

/-- What stands before a code point does not change with what stands behind it; without one all of
the text does, and ends in what stands behind. -/
theorem beforeFirst_concat {sep : CodePoint} (hne : c ≠ sep) (t : Text) :
    sep ∈ t ∧ Text.beforeFirst sep (t ++ [c]) = Text.beforeFirst sep t ∨
      sep ∉ t ∧ Text.beforeFirst sep (t ++ [c]) = t ++ [c] := by
  by_cases hsep : sep ∈ t
  · obtain ⟨a, b, rfl, ha⟩ := List.eq_append_cons_of_mem hsep
    refine .inl ⟨hsep, ?_⟩
    rw [List.append_assoc, List.cons_append, Text.beforeFirst_append ha,
      Text.beforeFirst_append ha]
  · refine .inr ⟨hsep, Text.beforeFirst_of_not_mem ?_⟩
    rw [List.mem_append, List.mem_singleton, not_or]
    exact ⟨hsep, fun heq => hne heq.symm⟩

theorem afterFirst_concat {sep : CodePoint} (hsep : sep ∈ t) :
    Text.afterFirst sep (t ++ [c]) = Text.afterFirst sep t ++ [c] := by
  obtain ⟨a, b, rfl, ha⟩ := List.eq_append_cons_of_mem hsep
  rw [List.append_assoc, List.cons_append, Text.afterFirst_append ha, Text.afterFirst_append ha]

/-- The first opening bracket has its closing bracket or an at-sign after it. -/
def IsClosedOrPassed (t : Text) : Prop :=
  ('[' : CodePoint) ∈ t →
    (']' : CodePoint) ∈ Text.afterFirst '[' t ∨ ('@' : CodePoint) ∈ Text.afterFirst '[' t

/-- An authority is what stands after its last at-sign, and what stands before that. -/
theorem exists_append_afterLast (t : Text) :
    Text.afterLast '@' t = t ∨ ∃ user, t = user ++ CodePoint.ofChar '@' :: Text.afterLast '@' t := by
  by_cases hat : ('@' : CodePoint) ∈ t
  · obtain ⟨user, place, rfl, hplace⟩ := Text.exists_append_of_mem_last hat
    rw [Text.afterLast_append hplace]
    exact .inr ⟨user, rfl⟩
  · exact .inl (Text.afterLast_of_not_mem hat)

/-- Behind an authority punctuation leaves the host as it is, or is the end of the host. -/
theorem hostOf_concat (hc : c.endsSentence = true) (t : Text) :
    hostOf (t ++ [c]) = hostOf t ∧ IsClosedOrPassed t ∨ ∃ u, hostOf (t ++ [c]) = u ++ [c] := by
  have hne {d : CodePoint} (hd : d.endsSentence = false) : c ≠ d :=
    CodePoint.ne_of_endsSentence hc hd
  unfold hostOf
  rw [afterLast_concat (hne (by decide))]
  obtain ⟨place, hplace⟩ : ∃ place, Text.afterLast '@' t = place := ⟨_, rfl⟩
  have hcontains : (place ++ [c]).contains ('[' : CodePoint) = place.contains ('[' : CodePoint) := by
    have hlast : ('[' : CodePoint) ≠ c := (hne (by decide)).symm
    simp [hlast]
  dsimp only
  rw [hplace, hcontains]
  by_cases hopen : ('[' : CodePoint) ∈ place
  · obtain ⟨a, b, rfl, ha⟩ := List.eq_append_cons_of_mem hopen
    rw [if_pos (by simp), if_pos (by simp), afterFirst_concat hopen, Text.afterFirst_append ha]
    rcases beforeFirst_concat (hne (d := ']') (by decide)) b with ⟨hclosed, hsame⟩ | ⟨-, hend⟩
    · refine .inl ⟨hsame, fun _ => .inl ?_⟩
      rcases exists_append_afterLast t with hwhole | ⟨user, huser⟩
      · rw [← hwhole, hplace]
        exact Text.mem_afterFirst_append hclosed
      · rw [huser, hplace, ← List.cons_append, ← List.append_assoc]
        exact Text.mem_afterFirst_append hclosed
    · exact .inr ⟨b, hend⟩
  · rw [if_neg (by simpa using hopen), if_neg (by simpa using hopen)]
    rcases beforeFirst_concat (hne (d := ':') (by decide)) place with ⟨-, hsame⟩ | ⟨-, hend⟩
    · refine .inl ⟨hsame, fun hbracket => .inr ?_⟩
      rcases exists_append_afterLast t with hwhole | ⟨user, huser⟩
      · rw [← hwhole, hplace] at hbracket
        exact absurd hbracket hopen
      · rw [hplace] at huser
        have hmem : ('[' : CodePoint) ∈ user := by
          rw [huser, List.mem_append, List.mem_cons] at hbracket
          rcases hbracket with hmem | heq | hmem
          · exact hmem
          · exact absurd heq (by decide)
          · exact absurd hmem hopen
        obtain ⟨a, b, rfl, ha⟩ := List.eq_append_cons_of_mem hmem
        rw [huser, List.append_assoc, List.cons_append, Text.afterFirst_append ha]
        simp
    · exact .inr ⟨place, hend⟩

/-- Whether the brackets of an authority are used as they may be does not depend on punctuation
behind it. -/
theorem bracketsFit_concat (hc : c.endsSentence = true) (hclosed : IsClosedOrPassed t) :
    bracketsFit (t ++ [c]) = bracketsFit t := by
  unfold bracketsFit
  rw [contains_concat hc (by decide), contains_concat hc (by decide)]
  split
  · next hboth =>
    have hopen : ('[' : CodePoint) ∈ t := by
      rw [Bool.and_eq_true] at hboth
      exact List.contains_iff_mem.1 hboth.1
    rw [afterFirst_concat hopen]
    rcases beforeFirst_concat (CodePoint.ne_of_endsSentence hc (d := ']') (by decide))
      (Text.afterFirst '[' t) with ⟨-, hsame⟩ | ⟨hnot, hend⟩
    · rw [hsame]
    · rw [hend, Text.beforeFirst_of_not_mem hnot]
      exact mayBeBracketed_concat hc ((hclosed hopen).resolve_left hnot)
  · rfl

/-- The host of an authority; empty if it has none. -/
def hostIn (authority : Text) : Text :=
  if bracketsFit authority && !hidesPunctuation authority then Text.lowerCase (hostOf authority)
  else []

theorem host_eq (url : Text) : host url = hostIn (authority url) := rfl

/-- An authority keeps its host with punctuation behind it that is not the end of the host. -/
theorem hostIn_concat (hc : c.endsSentence = true) (hsame : hostOf (t ++ [c]) = hostOf t)
    (hclosed : IsClosedOrPassed t) : hostIn (t ++ [c]) = hostIn t := by
  have hplain : hidesPunctuation (t ++ [c]) = hidesPunctuation t := by
    have hlast : disguisedPunctuation.contains c.val = false := by
      rcases CodePoint.endsSentence_iff.1 hc with rfl | rfl | rfl <;> decide
    rw [hidesPunctuation, List.any_append, hidesPunctuation, List.any_cons, hlast]
    simp
  rw [hostIn, hostIn, bracketsFit_concat hc hclosed, hplain, hsame]

/-- The host of an address ends in punctuation. -/
def EndsInPunctuation (url : Text) : Prop :=
  (hostOf (authority url)).getLast?.any CodePoint.endsSentence = true

instance (url : Text) : Decidable (EndsInPunctuation url) := inferInstanceAs (Decidable (_ = true))

variable {s : Settings}

/-- No platform owns a host that ends in punctuation. -/
theorem hostOwner?_of_endsInPunctuation (hs : PlainHosts s) {url : Text}
    (h : EndsInPunctuation url) : s.hostOwner? (host url) = none := by
  obtain ⟨c, hlast, hc⟩ := (Option.any_eq_true _ _).1 h
  obtain ⟨u, hu⟩ := List.getLast?_eq_some_iff.1 hlast
  rw [host_eq, hostIn, hu]
  split
  · exact Settings.hostOwner?_concat hs hc u
  · exact Settings.hostOwner?_nil hs

end Url

namespace Text

variable {p : CodePoint → Bool} {c : CodePoint}

theorem trimEndOf_concat_of_pos (h : p c = true) (t : Text) :
    trimEndOf p (t ++ [c]) = trimEndOf p t := by
  rw [trimEndOf, List.reverse_concat, List.dropWhile_cons_of_pos h, trimEndOf]

theorem trimEndOf_concat_of_neg (h : ¬p c = true) (t : Text) :
    trimEndOf p (t ++ [c]) = t ++ [c] := by
  rw [trimEndOf, List.reverse_concat, List.dropWhile_cons_of_neg h, List.reverse_cons,
    List.reverse_reverse]

end Text

namespace Signature

open Pattern

variable {s : Settings} {t u w scheme : Text}

/-- What a web address goes on with: no white space, and nothing that encloses an address. -/
def isAddress (c : CodePoint) : Bool := !c.isBlank && isNotIn "'\"`<>()\\" c

/-- The starts of web addresses. -/
def addressStarts : List Text := ["http://", "https://"]

/-- A match of a web address is a start with something behind it. -/
theorem exists_of_mem_webAddresses (h : u ∈ webAddresses t) :
    ∃ scheme ∈ addressStarts, ∃ w, u = scheme ++ w ∧ ∀ c ∈ w, isAddress c = true := by
  obtain ⟨m, hm, rfl⟩ := List.mem_map.1 h
  obtain ⟨-, -, -, -, hway⟩ := exists_append_of_mem_findAll hm
  obtain ⟨p₁, ps₁, hhttp, hway⟩ := way_seq.1 hway
  obtain ⟨p₂, ps₂, hs, hway⟩ := way_seq.1 hway
  obtain ⟨p₃, ps₃, hslashes, hway⟩ := way_seq.1 hway
  obtain ⟨-, hhttp⟩ := way_literal hhttp
  obtain ⟨-, hslashes⟩ := way_literal hslashes
  obtain ⟨-, w, htaken, hall, -⟩ := way_many hway
  have hrest := hslashes.append htaken
  rw [Match.text]
  rcases way_alt.1 hs with hs | hs
  · obtain ⟨-, hs⟩ := way_is hs
    rw [((hhttp.append hs).append hrest).textTo_eq]
    exact ⟨"https://", by decide, w, rfl, hall⟩
  · obtain ⟨rfl, -⟩ := way_empty.1 hs
    rw [(hhttp.append hrest).textTo_eq]
    exact ⟨"http://", by decide, w, rfl, hall⟩

/-- The authority of a web address is what stands behind its start, up to the path. -/
theorem authority_webAddress (hscheme : scheme ∈ addressStarts)
    (hw : ∀ c ∈ w, isAddress c = true) :
    Url.authority (scheme ++ w) = w.takeWhile (isNotIn "/?#") := by
  obtain ⟨name, hname, rfl⟩ : ∃ name ∈ ([("http" : Text), "https"] : List Text),
      scheme = name ++ CodePoint.ofChar ':' :: ("//" : Text) := by
    rcases List.mem_pair.1 hscheme with rfl | rfl
    · exact ⟨"http", by decide, by decide⟩
    · exact ⟨"https", by decide, by decide⟩
  have hcleaned : Url.cleaned (name ++ CodePoint.ofChar ':' :: ("//" : Text) ++ w) =
      name ++ CodePoint.ofChar ':' :: ("//" ++ w) := by
    have hinkedStart : ∀ c ∈ name ++ CodePoint.ofChar ':' :: ("//" : Text), c.isBlank = false := by
      rcases List.mem_pair.1 hname with rfl | rfl <;> decide
    have hinked : ∀ c ∈ name ++ CodePoint.ofChar ':' :: ("//" : Text) ++ w, c.isBlank = false := by
      intro c hc
      rcases List.mem_append.1 hc with hc | hc
      · exact hinkedStart c hc
      · have hblank := (Bool.and_eq_true_iff.1 (hw c hc)).1
        rwa [Bool.not_eq_true'] at hblank
    have hstart : (name ++ CodePoint.ofChar ':' :: ("//" : Text) ++ w).dropWhile
        (fun c => c.val ≤ 32) = name ++ CodePoint.ofChar ':' :: ("//" ++ w) := by
      rcases List.mem_pair.1 hname with rfl | rfl <;> rfl
    rw [Url.cleaned, hstart, List.filter_eq_self]
    intro c hc
    rw [← List.cons_append, ← List.append_assoc] at hc
    have hne {d : CodePoint} (hd : d.isBlank = true) : c ≠ d := by
      rintro rfl
      rw [hinked c hc] at hd
      cases hd
    simp [hne (d := '\t') (by decide), hne (d := '\r') (by decide), hne (d := '\n') (by decide)]
  have hwithout : Url.withoutScheme (name ++ CodePoint.ofChar ':' :: ("//" ++ w)) = "//" ++ w := by
    have hcolon : CodePoint.ofChar ':' ∉ name := by
      rcases List.mem_pair.1 hname with rfl | rfl <;> decide
    unfold Url.withoutScheme
    rw [Text.cut_append hcolon]
    refine if_pos ?_
    rcases List.mem_pair.1 hname with rfl | rfl <;> decide
  rw [Url.authority, hcleaned, hwithout]
  rfl

/-- Punctuation behind a web address that is not the end of its host leaves its host as it is. -/
theorem host_concat (hscheme : scheme ∈ addressStarts) {c : CodePoint}
    (hw : ∀ d ∈ w ++ [c], isAddress d = true) (hc : c.endsSentence = true)
    (hends : ¬Url.EndsInPunctuation (scheme ++ (w ++ [c]))) :
    Url.host (scheme ++ (w ++ [c])) = Url.host (scheme ++ w) ∧
      ¬Url.EndsInPunctuation (scheme ++ w) := by
  have hshort : ∀ d ∈ w, isAddress d = true := fun d hd => hw d (List.mem_append_left _ hd)
  unfold Url.EndsInPunctuation at hends ⊢
  rw [Url.host_eq, Url.host_eq]
  rw [authority_webAddress hscheme hw, List.takeWhile_append] at hends ⊢
  rw [authority_webAddress hscheme hshort]
  split at hends
  · next hwhole =>
    -- Without a path the punctuation is the end of the authority.
    have hnone : isNotIn "/?#" c = true := by
      rcases CodePoint.endsSentence_iff.1 hc with rfl | rfl | rfl <;> decide
    have hall : w.takeWhile (isNotIn "/?#") = w := (List.takeWhile_prefix _).eq_of_length hwhole
    rw [if_pos hwhole, List.takeWhile_cons_of_pos hnone, List.takeWhile_nil]
    rw [List.takeWhile_cons_of_pos hnone, List.takeWhile_nil] at hends
    rw [hall]
    rcases Url.hostOf_concat hc w with ⟨hsame, hclosed⟩ | ⟨u, hend⟩
    · rw [hsame] at hends
      exact ⟨Url.hostIn_concat hc hsame hclosed, hends⟩
    · rw [hend, List.getLast?_concat] at hends
      exact absurd hc hends
  · next hpath =>
    rw [if_neg hpath]
    exact ⟨rfl, hends⟩

/-- A web address whose host does not end in punctuation keeps its host without the punctuation at its
end. -/
theorem host_trimmed (hu : u ∈ webAddresses t) (hends : ¬Url.EndsInPunctuation u) :
    Url.host (Text.trimEndOf CodePoint.endsSentence u) = Url.host u := by
  obtain ⟨scheme, hscheme, w, rfl, hw⟩ := exists_of_mem_webAddresses hu
  clear hu
  induction w using List.reverseRecOn with
  | nil =>
    have hstart : Text.trimEndOf CodePoint.endsSentence (scheme ++ []) = scheme ++ [] := by
      rcases List.mem_pair.1 hscheme with rfl | rfl <;> decide
    rw [hstart]
  | append_singleton w c ih =>
    by_cases hc : c.endsSentence = true
    · obtain ⟨hsame, hshort⟩ := host_concat hscheme hw hc hends
      rw [← List.append_assoc, Text.trimEndOf_concat_of_pos hc, List.append_assoc, hsame]
      exact ih (fun d hd => hw d (List.mem_append_left _ hd)) hshort
    · rw [← List.append_assoc, Text.trimEndOf_concat_of_neg hc]

/-- A platform that owns a web address as it stands owns it without the punctuation at its end. -/
theorem addressOwner?_trimmed (hs : PlainHosts s) (hu : u ∈ webAddresses t)
    (h : (addressOwner? s u).isSome = true) :
    (addressOwner? s (Text.trimEndOf CodePoint.endsSentence u)).isSome = true := by
  have hends : ¬Url.EndsInPunctuation u := by
    intro hends
    rw [addressOwner?, Url.hostOwner?_of_endsInPunctuation hs hends] at h
    cases h
  rwa [addressOwner?, host_trimmed hu hends]

end Signature

end Decouple
