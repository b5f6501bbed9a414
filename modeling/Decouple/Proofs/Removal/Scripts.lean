import Decouple.Proofs.Agreement.Markup
import Decouple.Proofs.Removal.Comments

/-!
# The removal of a script tag

A script from a platform's host is removed alone from a settled page if it is found alone and no other
script is found to be a platform's (`script_removed_iff`).  When text follows on its line and a later
script ends one, all up to there is removed with it (`not_forall_script_removed`).

The owner of a script is told by its opening tag, which is the same however far the match goes on
(`openingOf_scriptFrom`).
-/

namespace Decouple

open CodePoint (is isNotIn isBlank isWord isIndent sameLetter)
open Pattern Signature
open Text (ink)

namespace Signature

variable {host t u v A B : Text} {p q : Place} {ps qs : Parts} {m : Match} {s : Settings}

/-! ## A script from a platform -/

/-- The address of a script. -/
def scriptAddress (host : Text) : Text := "https://" ++ (host ++ "/x.js")

/-- What the opening tag of a script holds after its name. -/
def sourceAttribute (host : Text) : Text := " src=\"" ++ scriptAddress host ++ "\""

/-- A script from a host, without a body. -/
def scriptFrom (host : Text) : Text := "<script" ++ sourceAttribute host ++ ">" ++ "</script>"

/-- Code points of a host name. -/
def isHostName (c : CodePoint) : Bool := c.isLetterOrDigit || c = '-' || c = '.'

/-- The name of a host that belongs to a platform. -/
structure IsPlatformHost (s : Settings) (host : Text) : Prop where
  plain : ∀ c ∈ host, isHostName c = true
  owned : (s.hostOwner? host).isSome = true

/-- What holds of the ASCII code points of host names holds of all. -/
theorem of_isHostName {f : CodePoint → Bool}
    (hall : ∀ n : Fin 128, isHostName (CodePoint.ofNat n) = true → f (CodePoint.ofNat n) = true)
    {c : CodePoint} (h : isHostName c = true) : f c = true := by
  have hascii : c.val < 128 := by
    simp only [isHostName, CodePoint.isLetterOrDigit, CodePoint.isLetter, CodePoint.isUpper,
      CodePoint.isLower, CodePoint.isDigit, Bool.or_eq_true, Bool.and_eq_true, decide_eq_true_eq] at h
    rcases h with (((h | h) | h) | rfl) | rfl
    · omega
    · omega
    · omega
    · decide
    · decide
  have hc := hall ⟨c.val, hascii⟩
  rw [CodePoint.ofNat_val] at hc
  exact hc h

theorem IsPlatformHost.address (h : IsPlatformHost s host) :
    ∀ c ∈ host ++ "/x.js", isAddress c = true := by
  intro c hc
  rcases List.mem_append.1 hc with hc | hc
  · exact of_isHostName (by decide +kernel) (h.plain c hc)
  · exact (show ∀ c ∈ ("/x.js" : Text), isAddress c = true by decide) c hc

/-- A script from a platform's host has a platform's address. -/
theorem IsPlatformHost.addressOwner? (h : IsPlatformHost s host) :
    (addressOwner? s (scriptAddress host)).isSome = true := by
  have hnot {d : CodePoint} (hd : isHostName d = false) : d ∉ host := by
    intro hmem
    rw [h.plain d hmem] at hd
    cases hd
  have hauthority : Url.authority (scriptAddress host) = host := by
    rw [scriptAddress, authority_webAddress (by decide) h.address,
      List.takeWhile_append_of_pos fun c hc =>
        of_isHostName (by decide +kernel) (h.plain c hc)]
    exact List.append_nil host
  have hplain : (Url.bracketsFit host && !Url.hidesPunctuation host) = true := by
    have hdisguised : Url.hidesPunctuation host = false := by
      rw [Url.hidesPunctuation, List.any_eq_false]
      intro c hc
      have hshown := of_isHostName (f := fun c => !Url.disguisedPunctuation.contains c.val)
        (by decide +kernel) (h.plain c hc)
      simpa using hshown
    have hopen := hnot (d := '[') (by decide)
    have hclose := hnot (d := ']') (by decide)
    simp [Url.bracketsFit, hdisguised, hopen, hclose]
  have hhost : Url.hostOf host = host := by
    have hbracket := hnot (d := '[') (by decide)
    rw [Url.hostOf, Text.afterLast_of_not_mem (hnot (by decide))]
    simp [hbracket, Text.beforeFirst_of_not_mem (hnot (d := ':') (by decide))]
  have hascii : ∀ c ∈ host, c.isAscii = true := fun c hc =>
    of_isHostName (by decide +kernel) (h.plain c hc)
  have hlower : Text.lowerCase (Text.lowerCase host) = Text.lowerCase host := by
    have hlowered : ∀ c ∈ host.map CodePoint.lower, c.isAscii = true := by
      intro c hc
      obtain ⟨d, hd, rfl⟩ := List.mem_map.1 hc
      exact (CodePoint.lower_of_isAscii (hascii d hd)).1
    rw [Text.lowerCase_of_isAscii hascii, Text.lowerCase_of_isAscii hlowered, List.map_map]
    exact List.map_congr_left fun c hc => (CodePoint.lower_of_isAscii (hascii c hc)).2
  have howns (p : Platform) : p.ownsHost (Text.lowerCase host) = p.ownsHost host := by
    rw [Platform.ownsHost, Platform.ownsHost, hlower]
  rw [Signature.addressOwner?, Url.host_eq, hauthority, Url.hostIn, if_pos hplain, hhost]
  have howned := h.owned
  rw [Settings.hostOwner?, Platforms.hostOwner?] at howned ⊢
  simpa only [howns] using howned

/-- What closes a script. -/
def ClosesScript (t : Text) : Prop :=
  ∃ name w, List.Forall₂ (fun l c => sameLetter l c = true) "</script" name ∧
    (∀ c ∈ w, c.isBlank = true) ∧ t = name ++ w ++ ">"

theorem closings_script : Closings '<' ClosesScript where
  starts := by
    rintro c ⟨name, w, hname, hw, rfl⟩
    cases hname with
    | @cons l d name' rest hfirst hrest =>
      obtain rfl := CodePoint.eq_of_sameLetter hfirst (.inl (by decide))
      refine ⟨rest ++ w ++ ">", by simp; rfl, fun hmem => ?_⟩
      rcases List.mem_append.1 hmem with hmem | hmem
      · rcases List.mem_append.1 hmem with hmem | hmem
        · obtain ⟨l', hl', hsame⟩ := Related.exists_left hrest hmem
          obtain rfl := CodePoint.eq_of_sameLetter hsame (.inr (by decide))
          exact absurd hl' (by decide)
        · exact absurd (hw _ hmem) (by decide)
      · exact absurd hmem (by decide)
  unique := by
    rintro c d u v ⟨name, w, hname, hw, rfl⟩ ⟨name', w', hname', hw', rfl⟩ hsame
    simp only [List.append_assoc] at hsame
    obtain ⟨rfl, hmore⟩ :=
      List.append_inj hsame (hname.length_eq.symm.trans hname'.length_eq)
    obtain ⟨rfl, -, -⟩ := Text.append_cons_inj hw hw' (by decide) (by decide) hmore
    rfl

/-! ## The opening tag -/

/-- Where a text stands, in letters of either case just that can be taken. -/
theorem takes_of_literalAnyCase (h : Way (literalAnyCase t) p ps q qs) (hrest : p.rest = u ++ v)
    (hlength : u.length = t.length) : qs = ps ∧ p.Takes u q := by
  obtain ⟨hparts, taken, htaken, hspells⟩ := way_literalAnyCase h
  have hsame : u ++ v = taken ++ q.rest := hrest.symm.trans htaken.1
  obtain ⟨rfl, -⟩ := List.append_inj hsame (hlength.trans hspells.length_eq)
  exact ⟨hparts, htaken⟩

/-- The source of a script does not end its opening tag. -/
theorem isNotIn_sourceAttribute (hhost : ∀ c ∈ host, isHostName c = true) :
    ∀ c ∈ sourceAttribute host, isNotIn ">" c = true := by
  have hbefore : ∀ c ∈ (" src=\"" : Text) ++ "https://", isNotIn ">" c = true := by decide
  have hbehind : ∀ c ∈ ("/x.js" : Text) ++ "\"", isNotIn ">" c = true := by decide
  intro c hc
  simp only [sourceAttribute, scriptAddress, List.mem_append] at hc hbefore hbehind
  rcases hc with (hc | hc | hc | hc) | hc
  · exact hbefore c (.inl hc)
  · exact hbefore c (.inr hc)
  · exact of_isHostName (by decide +kernel) (hhost c hc)
  · exact hbehind c (.inl hc)
  · exact hbehind c (.inr hc)

/-- The opening tag of a script ends at its first closing angle bracket. -/
theorem opening_eq {w : Text} {p₁ p₂ : Place} (hw : ∀ c ∈ w, isNotIn ">" c = true)
    (hrest : p.rest = "<script" ++ w ++ ">" ++ u) (hname : Way (literalAnyCase "<script") p ps p₁ qs)
    (hv : p₁.Takes v p₂) (hall : ∀ c ∈ v, isNotIn ">" c = true)
    (hclose : p₂.Takes [CodePoint.ofChar '>'] q) : v = w := by
  rw [List.append_assoc, List.append_assoc] at hrest
  obtain ⟨-, htaken⟩ := takes_of_literalAnyCase hname hrest rfl
  have hcut := htaken.1
  rw [hrest, (hv.append hclose).1, List.append_assoc] at hcut
  have hsame : v ++ CodePoint.ofChar '>' :: q.rest = w ++ CodePoint.ofChar '>' :: u :=
    (List.append_cancel_left hcut).symm
  exact (Text.append_cons_inj hall hw (by decide) (by decide) hsame).1

/-- A text is spelled by itself. -/
theorem spells_self (t : Text) : List.Forall₂ (fun l c => sameLetter l c = true) t t :=
  List.forall₂_same.2 fun c _ => by simp [sameLetter]

/-- The opening tag of a script can be taken. -/
theorem exists_path_opening (hhost : ∀ c ∈ host, isHostName c = true)
    (hrest : p.rest = "<script" ++ sourceAttribute host ++ ">" ++ u) :
    ∃ q, p.Takes ("<script" ++ sourceAttribute host ++ ">") q ∧ q.rest = u ∧
      Path (sequence [literalAnyCase "<script", wordEdge, any (isNotIn ">"), one (is '>')])
        p [] q [] := by
  obtain ⟨q, hq, hbehind⟩ := Place.exists_takes hrest
  obtain ⟨p₂, h₂, hclose⟩ := hq.split
  obtain ⟨p₁, hname, hany⟩ := h₂.split
  have hedge : (p₁.isAfter isWord != p₁.isBefore isWord) = true := by
    rw [Place.isAfter, Place.isBefore, hname.2.2, hany.1]
    rfl
  refine ⟨q, hq, hbehind, ?_⟩
  refine path_sequence_cons.2 ⟨p₁, [], path_literalAnyCase (spells_self _) hname, ?_⟩
  refine path_sequence_cons.2 ⟨p₁, [], .wordEdge hedge, path_sequence_cons.2 ⟨p₂, [], ?_, ?_⟩⟩
  · exact .many hany (isNotIn_sourceAttribute hhost) (Nat.zero_le _) fun hwhole => by cases hwhole
  · exact path_one_of_takes hclose (by decide)

/-- What closes a script is taken just where it stands. -/
theorem path_closing :
    Path (sequence [literalAnyCase "</script", blanks, one (is '>')]) p ps q qs ↔
      qs = ps ∧ ∃ c, ClosesScript c ∧ p.Takes c q := by
  constructor
  · intro h
    obtain ⟨p₁, ps₁, hname, h⟩ := path_sequence_cons.1 h
    obtain ⟨p₂, ps₂, hblanks, hclose⟩ := path_sequence_cons.1 h
    obtain ⟨rfl, name, htaken, hspells⟩ := way_literalAnyCase hname.way
    obtain ⟨rfl, w, hw, hall, -⟩ := path_many hblanks
    obtain ⟨rfl, hclosed⟩ := path_is hclose
    exact ⟨rfl, _, ⟨name, w, hspells, hall, rfl⟩, (htaken.append hw).append hclosed⟩
  · rintro ⟨rfl, c, ⟨name, w, hspells, hall, rfl⟩, htaken⟩
    obtain ⟨p₂, h₂, hclose⟩ := htaken.split
    obtain ⟨p₁, hname, hw⟩ := h₂.split
    have hend : p₂.isBefore isBlank = false := by
      rw [Place.isBefore, hclose.1]
      rfl
    exact path_sequence_cons.2 ⟨p₁, _, path_literalAnyCase hspells hname,
      path_sequence_cons.2 ⟨p₂, _, .many hw hall (Nat.zero_le _) fun _ => hend,
        path_one_of_takes hclose (by decide)⟩⟩

/-- The pattern of a script element. -/
def scriptElement : Pattern :=
  sequence [
    literalAnyCase "<script", wordEdge, any (isNotIn ">"), one (is '>'), many anything 0 .lazy,
    literalAnyCase "</script", blanks, one (is '>')]

/-- A script at the start of a line is a stretch that may be taken. -/
theorem standsAt_script (hhost : ∀ c ∈ host, isHostName c = true)
    (hline : p.before.all (is '\n') = true) (hrest : p.rest = scriptFrom host ++ u) :
    StandsAt scriptElement ClosesScript p (scriptFrom host) u where
  line := hline
  indent := by
    rw [Place.isBefore, hrest]
    rfl
  rest := hrest
  taken := by
    have hopens : p.rest = "<script" ++ sourceAttribute host ++ ">" ++ ("</script>" ++ u) := by
      rw [hrest, scriptFrom, List.append_assoc]
    obtain ⟨q, hq, -, hpath⟩ := exists_path_opening hhost hopens
    have hone : ∀ r rs, Path (sequence [literalAnyCase "<script", wordEdge, any (isNotIn ">"),
        one (is '>')]) p [] r rs → r = q ∧ rs = [] := by
      intro r rs h
      obtain ⟨p₁, ps₁, hname, h⟩ := path_sequence_cons.1 h
      obtain ⟨p₂, ps₂, hedge, h⟩ := path_sequence_cons.1 h
      obtain ⟨p₃, ps₃, hany, hclose⟩ := path_sequence_cons.1 h
      obtain ⟨rfl, hclosed⟩ := path_is hclose
      obtain ⟨rfl, v, hv, hall, -⟩ := path_many hany
      cases hedge with
      | wordEdge _ =>
        obtain rfl := opening_eq (isNotIn_sourceAttribute hhost) hopens hname.way hv hall hclosed
        rw [List.append_assoc, List.append_assoc] at hopens
        obtain ⟨rfl, htaken⟩ := takes_of_literalAnyCase hname.way hopens rfl
        exact ⟨hq.unique ((htaken.append hv).append hclosed), rfl⟩
    have hstretch := takesStretches (by decide) (by decide) hpath hone hq path_closing
    refine ⟨'<', _, [], "</script>", [], ?_, by decide, closings_script, hstretch, ?_⟩
    · rw [List.append_nil]
      rfl
    · exact ⟨⟨"</script", [], spells_self _, by simp, by decide⟩, fun _ _ _ _ _ => Nat.zero_le _⟩

/-! ## The owner of a script -/

/-- A script and its parts can be taken. -/
theorem exists_path_scriptParts (hhost : ∀ c ∈ host, isHostName c = true)
    (hrest : p.rest = scriptFrom host ++ u) : ∃ q qs, Path scriptParts p [] q qs := by
  rw [scriptFrom, List.append_assoc] at hrest
  obtain ⟨q, -, hbehind, hpath⟩ := exists_path_opening hhost hrest
  obtain ⟨r, hr, -⟩ := Place.exists_takes hbehind
  obtain ⟨p₁, ps₁, hname, hpath⟩ := path_sequence_cons.1 hpath
  obtain ⟨p₂, ps₂, hedge, hpath⟩ := path_sequence_cons.1 hpath
  obtain ⟨p₃, ps₃, hany, hclose⟩ := path_sequence_cons.1 hpath
  obtain ⟨-, c, hc, hclosed⟩ := path_one hclose
  have hclosing : ClosesScript "</script>" := ⟨"</script", [], spells_self _, by simp, by decide⟩
  refine ⟨r, (.body, ⟨q, q⟩) :: (.opening, ⟨p₂, p₃⟩) :: ps₃, ?_⟩
  refine path_sequence_cons.2 ⟨p₁, ps₁, hname, path_sequence_cons.2 ⟨p₂, ps₂, hedge, ?_⟩⟩
  refine path_sequence_cons.2 ⟨p₃, _, .part hany, ?_⟩
  refine path_sequence_cons.2 ⟨q, _, path_one_of_takes hclosed hc, ?_⟩
  refine path_sequence_cons.2 ⟨q, _, .part (.many (.nil q) (by simp) (Nat.zero_le _) nofun), ?_⟩
  exact path_closing.2 ⟨rfl, _, hclosing, hr⟩

/-- Whichever closing a script is taken to, its opening tag is the one that stands there. -/
theorem opening_of_path (hhost : ∀ c ∈ host, isHostName c = true)
    (hrest : p.rest = scriptFrom host ++ u) (h : Path scriptParts p [] q qs) :
    p.offset < q.offset ∧
      ∃ body opening, qs = [(.body, body), (.opening, opening)] ∧
        opening.text = sourceAttribute host := by
  rw [scriptFrom, List.append_assoc] at hrest
  obtain ⟨p₁, ps₁, hname, h⟩ := path_sequence_cons.1 h
  obtain ⟨p₂, ps₂, hedge, h⟩ := path_sequence_cons.1 h
  obtain ⟨p₃, ps₃, hopening, h⟩ := path_sequence_cons.1 h
  obtain ⟨p₄, ps₄, hclose, h⟩ := path_sequence_cons.1 h
  obtain ⟨p₅, ps₅, hbody, hclosing⟩ := path_sequence_cons.1 h
  obtain ⟨ps₆, rfl, hany⟩ := way_part hopening.way
  obtain ⟨rfl, v, hv, hall, -⟩ := way_many hany
  obtain ⟨rfl, hclosed⟩ := path_is hclose
  obtain ⟨ps₇, rfl, hlazy⟩ := way_part hbody.way
  obtain ⟨rfl, w, hw, -⟩ := way_many hlazy
  obtain ⟨rfl, closing, -, hlast⟩ := path_closing.1 hclosing
  cases hedge with
  | wordEdge _ =>
    obtain rfl := opening_eq (isNotIn_sourceAttribute hhost) hrest hname.way hv hall hclosed
    rw [List.append_assoc, List.append_assoc] at hrest
    obtain ⟨rfl, htaken⟩ := takes_of_literalAnyCase hname.way hrest rfl
    refine ⟨?_, _, _, rfl, hv.textTo_eq⟩
    have hwhole := (((htaken.append hv).append hclosed).append hw).append hlast
    rw [hwhole.2.1]
    simp only [List.length_append, List.length_singleton]
    omega

/-- The opening tag of a script from a host holds its source. -/
theorem openingOf_scriptFrom (hhost : ∀ c ∈ host, isHostName c = true) (e : Text) :
    openingOf (scriptFrom host ++ e) = sourceAttribute host := by
  have hrest : (Place.start (scriptFrom host ++ e)).rest = scriptFrom host ++ e := rfl
  obtain ⟨r, rs, hpath⟩ := exists_path_scriptParts hhost hrest
  obtain ⟨m, hm⟩ := exists_matchAt? hpath
  obtain ⟨-, hfound⟩ := path_of_matchAt? (by decide) hm
  obtain ⟨hadvanced, body, opening, hparts, htext⟩ := opening_of_path hhost hrest hfound
  rw [openingOf, find?_of_matchAt?_start hm hadvanced]
  dsimp only
  rw [Match.textOf, Match.part?, hparts]
  exact htext

/-- An address is found where it stands between code points that end one. -/
theorem mem_webAddresses (hne : u ≠ []) (hu : ∀ c ∈ u, isAddress c = true) {c d : CodePoint}
    (hc : isAddress c = false) (hd : isAddress d = false) (a b : Text) :
    "https://" ++ u ∈ webAddresses (a ++ c :: ("https://" ++ u ++ d :: b)) := by
  refine webAddresses_subset hc hd a _ b ?_
  obtain ⟨p₄, h₄, hnil⟩ := Place.exists_takes (p := Place.start ("https://" ++ u))
    (List.append_nil _).symm
  obtain ⟨p₃, h₃, haddress⟩ := h₄.split
  obtain ⟨p₁, h₁, hmore⟩ := (show (Place.start ("https://" ++ u)).Takes ("http" ++ ("s" ++ "://")) p₃
    from h₃).split
  obtain ⟨p₂, h₂, hslashes⟩ := hmore.split
  let m : Match := ⟨Place.start ("https://" ++ u), p₄, []⟩
  let next (stop : Place) (parts : Parts) : Option Match :=
    some ⟨Place.start ("https://" ++ u), stop, parts⟩
  have hgreedy : (sequence [literal "://", many isAddress 1 .greedy]).run p₂ [] next = some m := by
    rw [run_sequence_cons, run_literal hslashes]
    refine runGreedy_eq haddress hu (List.length_pos_iff.2 hne) ?_ rfl
    rw [Place.isBefore, hnil]
    rfl
  have hm : webAddress.matchAt? (Place.start ("https://" ++ u)) = some m := by
    have hletter : (one (is 's')).run p₁ [] (fun q qs =>
        (sequence [literal "://", many isAddress 1 .greedy]).run q qs next) = some m :=
      (run_literal h₂).trans hgreedy
    rw [matchAt?, webAddress, run_sequence_cons, run_literal h₁, run_sequence_cons]
    exact run_alt_of_eq_some hletter
  have hadvanced : 0 < p₄.offset := by
    rw [h₄.2.1]
    exact Nat.succ_pos _
  have hfound : m ∈ webAddress.findAll ("https://" ++ u) :=
    mem_findAll_of_matchAt? (.refl _) hm hadvanced fun _ _ hlt => absurd hlt (Nat.not_lt_zero _)
  exact List.mem_map.2 ⟨m, hfound, h₄.textTo_eq⟩

/-- A script from a platform's host is a platform's, with white space behind it too. -/
theorem IsPlatformHost.scriptOwner? (h : IsPlatformHost s host) (e : Text) :
    (Rewrite.scriptOwner? s (scriptFrom host ++ e)).isSome = true := by
  have hquote : isAddress '"' = false := by decide
  have hmem : scriptAddress host ∈ webAddresses (sourceAttribute host) := by
    have hwithin := mem_webAddresses (by simp [Text.ofString]) h.address hquote hquote " src=" []
    have htext : sourceAttribute host = " src=" ++ CodePoint.ofChar '"' ::
        ("https://" ++ (host ++ "/x.js") ++ [CodePoint.ofChar '"']) := rfl
    rwa [htext]
  have htag : (tagOwner? s (sourceAttribute host)).isSome = true := by
    have hfound : ((webAddresses (sourceAttribute host)).findSome?
        (Signature.addressOwner? s)).isSome = true := by
      rw [Option.isSome_iff_ne_none]
      intro hnone
      have howned := h.addressOwner?
      rw [List.findSome?_eq_none_iff.1 hnone _ hmem] at howned
      cases howned
    rw [tagOwner?, Option.isSome_or, hfound, Bool.true_or]
  rw [Rewrite.scriptOwner?, openingOf_scriptFrom h.plain, Option.isSome_or, htag, Bool.true_or]

end Signature

namespace Rewrite

variable {s : Settings} {path host t A B : Text} {m : Match}

/-! ## Tags beside scripts -/

/-- An HTML file in which, scripts aside, no rule finds anything. -/
structure SettledBesideScripts (s : Settings) (t : Text) : Prop where
  links : ∀ m ∈ linkTag.findAll t, tagOwner? s m.text = none
  metas : ∀ m ∈ metaTag.findAll t, tagOwner? s m.text = none
  traces : TraceFree s t

/-- The text without the links, the metadata and the traces of platforms. -/
def dropBesideScripts (s : Settings) (t : Text) : Text × List Note :=
  andThen (andThen (linkTag.edit (dropOwned (tagOwner? s) .linkTagRemoved) t)
    (metaTag.edit (dropOwned (tagOwner? s) .metaTagRemoved))) (dropTraces s)

/-- The rewrite of an HTML file drops scripts first. -/
theorem markup_eq (s : Settings) (t : Text) : markup s t =
    finish t (andThen (scriptTag.edit (dropOwned (scriptOwner? s) .scriptTagRemoved) t)
      (dropBesideScripts s)) := by
  simp [markup, dropBesideScripts, andThen]

theorem dropTags_announced (s : Settings) : Announced fun t =>
    andThen (linkTag.edit (dropOwned (tagOwner? s) .linkTagRemoved) t)
      (metaTag.edit (dropOwned (tagOwner? s) .metaTagRemoved)) := fun t hn =>
  (edit_announced _ _).andThen_text (edit_announced _ _ t) hn

theorem dropBesideScripts_announced (s : Settings) : Announced (dropBesideScripts s) := fun t hn =>
  (dropTraces_announced s).andThen_text (dropTags_announced s t) hn

theorem dropBesideScripts_notes :
    (dropBesideScripts s t).2 = [] ↔ SettledBesideScripts s t := by
  rw [dropBesideScripts, Announced.andThen_notes_eq_nil (dropTags_announced s t),
    Announced.andThen_notes_eq_nil (edit_announced _ _ t), dropTraces_notes]
  simp only [edit_notes_eq_nil, dropOwned_eq_none]
  exact ⟨fun ⟨⟨h₁, h₂⟩, h₃⟩ => ⟨h₁, h₂, h₃⟩, fun h => ⟨⟨h.links, h.metas⟩, h.traces⟩⟩

theorem deletes_dropOwned (owner? : Text → Option Platform) (note : Text → Note) :
    Deletes (dropOwned owner? note) := by
  intro m r h
  obtain ⟨p, -, rfl⟩ := Option.map_eq_some_iff.1 h
  rfl

/-- A tag holds its angle bracket. -/
theorem ink_of_tag (opening : Text) (hopening : opening.head? = some (CodePoint.ofChar '<'))
    (middle : List Pattern)
    (hm : m ∈ (wholeLineOrInline (sequence (literalAnyCase opening :: middle))).findAll t) :
    ink m.text ≠ [] := by
  have htag {p ps q qs} (h : Way (sequence (literalAnyCase opening :: middle)) p ps q qs) :
      ∃ u, p.Takes (CodePoint.ofChar '<' :: u) q := by
    obtain ⟨p₁, ps₁, hname, h⟩ := way_sequence_cons.1 h
    obtain ⟨-, u, hu⟩ := takes_opening opening hopening hname
    obtain ⟨v, hv⟩ := h.reaches
    exact ⟨u ++ v, hu.append hv⟩
  obtain ⟨-, -, -, htext, hway⟩ := exists_append_of_mem_findAll hm
  obtain ⟨u, hu, hmem⟩ : ∃ u, m.start.Takes u m.stop ∧ CodePoint.ofChar '<' ∈ u := by
    rcases way_alt.1 hway with hway | hway
    · obtain ⟨p₁, ps₁, hstart, hway⟩ := way_seq.1 hway
      obtain ⟨p₂, ps₂, hindent, hway⟩ := way_seq.1 hway
      obtain ⟨p₃, ps₃, hinner, hway⟩ := way_seq.1 hway
      obtain ⟨a, ha⟩ := hstart.reaches.trans hindent.reaches
      obtain ⟨u, hu⟩ := htag hinner
      obtain ⟨b, hb⟩ := hway.reaches
      exact ⟨_, (ha.append hu).append hb, by simp⟩
    · obtain ⟨u, hu⟩ := htag hway
      exact ⟨_, hu, List.mem_cons_self ..⟩
  rw [← htext.textTo_eq, hu.textTo_eq]
  exact Text.ink_ne_nil hmem (by decide)

theorem ink_emptyTag {name : Text} (hm : m ∈ (emptyTag name).findAll t) : ink m.text ≠ [] :=
  ink_of_tag ("<" ++ name) rfl _ hm

theorem ink_scriptTag (hm : m ∈ scriptTag.findAll t) : ink m.text ≠ [] :=
  ink_of_tag "<script" rfl _ hm

theorem dropBesideScripts_erodes (s : Settings) : Erodes (dropBesideScripts s) := by
  have hlinks : Erodes (linkTag.edit (dropOwned (tagOwner? s) .linkTagRemoved)) :=
    edit_erodes (deletes_dropOwned _ _) fun _ _ => ink_emptyTag
  have hmetas : Erodes (metaTag.edit (dropOwned (tagOwner? s) .metaTagRemoved)) :=
    edit_erodes (deletes_dropOwned _ _) fun _ _ => ink_emptyTag
  have htags := hlinks.andThen (edit_announced _ _) hmetas (edit_announced _ _)
  have htraces : Erodes (dropTraces s) := (dropMarkers_erodes s).andThen (dropMarkers_announced s)
    (dropAttributes_erodes s) (dropAttributes_announced s)
  exact htags.andThen (dropTags_announced s) htraces (dropTraces_announced s)

/-! ## A script in a settled text -/

/-- What a script must be like to be removed alone. -/
structure ScriptStandsAlone (s : Settings) (A script B : Text) : Prop where
  /-- No script that starts before it goes on into it. -/
  before : KeepsTo scriptTag A (script ++ B)
  /-- Nothing follows on its line, or no script ends at the end of a later line. -/
  behind : StopsThere ClosesScript B
  /-- No other script is found to be a platform's. -/
  others : ∀ m ∈ scriptTag.findAll (A ++ (script ++ B)), m.offset ≠ A.length →
    scriptOwner? s m.text = none
  /-- Nothing comes about where its line is taken out. -/
  joined : ∀ rest, B.pastLineEnd? = some rest → SettledBesideScripts s (A ++ rest)

/-- Where a script is dropped, the other rules work on what is left. -/
theorem ink_markup
    (h : (scriptTag.edit (dropOwned (scriptOwner? s) .scriptTagRemoved) t).2 ≠ []) :
    ink (markup s t).content = ink (dropBesideScripts s
      (scriptTag.edit (dropOwned (scriptOwner? s) .scriptTagRemoved) t).1).1 := by
  simp [markup_eq, finish, andThen, h]

section Script

variable (hhost : IsPlatformHost s host) (hA : A.isWholeLines = true)

include hhost hA

/-- A script is found alone exactly if nothing before it goes on into it and it stops where it
ends. -/
theorem script_foundAlone_iff : FoundAlone scriptTag A (scriptFrom host) B ↔
    KeepsTo scriptTag A (scriptFrom host ++ B) ∧ StopsThere ClosesScript B := by
  obtain ⟨p, hp, hrest⟩ := Place.exists_takes
    (p := Place.start (A ++ (scriptFrom host ++ B))) (t := A) rfl
  have hstands := standsAt_script hhost.plain (Place.lineStart_of_takes hA hp) hrest
  exact hstands.foundAlone_iff (fun _ => rfl) hp (List.cons_ne_nil _ _)

/-- A script that is found alone is a platform's, and it is found with the white space up to the next
line. -/
theorem exists_script_of_foundAlone (hfound : FoundAlone scriptTag A (scriptFrom host) B) :
    ∃ m ∈ scriptTag.findAll (A ++ (scriptFrom host ++ B)), m.offset = A.length ∧
      (∃ e, m.text = scriptFrom host ++ e ∧ B = e ++ B.pastLine ∧ ink e = []) ∧
        (dropOwned (scriptOwner? s) .scriptTagRemoved m).isSome = true := by
  obtain ⟨p, hp, hrest⟩ := Place.exists_takes
    (p := Place.start (A ++ (scriptFrom host ++ B))) (t := A) rfl
  have hstands := standsAt_script hhost.plain (Place.lineStart_of_takes hA hp) hrest
  obtain ⟨m, hm, hoffset, e, htext, hB, he⟩ :=
    hstands.exists_of_foundAlone (fun _ => rfl) hp hfound
  refine ⟨m, hm, hoffset, ⟨e, htext, hB, he⟩, ?_⟩
  rw [dropOwned, Option.isSome_map, htext]
  exact hhost.scriptOwner? e

/-- Where no more ink than that of a script is gone, no other script is found to be a platform's: it
would have cost ink of its own. -/
theorem others_unowned (hfound : FoundAlone scriptTag A (scriptFrom host) B)
    (hink : ink (markup s (A ++ (scriptFrom host ++ B))).content = ink (A ++ B)) :
    ∀ m ∈ scriptTag.findAll (A ++ (scriptFrom host ++ B)), m.offset ≠ A.length →
      scriptOwner? s m.text = none := by
  intro m' hm' hne
  obtain ⟨m, hm, hoffset, ⟨e, htext, -, he⟩, hpick⟩ := exists_script_of_foundAlone hhost hA hfound
  by_contra howned
  have hpick' : (dropOwned (scriptOwner? s) .scriptTagRemoved m').isSome = true := by
    rwa [Option.isSome_iff_ne_none, ne_eq, dropOwned_eq_none]
  have htwo := length_ink_edit_two (deletes_dropOwned (scriptOwner? s) .scriptTagRemoved) hm hm'
    (fun hsame => hne (hsame ▸ hoffset)) hpick hpick'
  have hle := (dropBesideScripts_erodes s).length_le (dropBesideScripts_announced s)
    (scriptTag.edit (dropOwned (scriptOwner? s) .scriptTagRemoved) (A ++ (scriptFrom host ++ B))).1
  have hpos := List.length_pos_iff.2 (ink_scriptTag hm')
  have hnotes : (scriptTag.edit (dropOwned (scriptOwner? s) .scriptTagRemoved)
      (A ++ (scriptFrom host ++ B))).2 ≠ [] := by
    intro hnil
    rw [edit_notes_eq_nil.1 hnil m hm] at hpick
    cases hpick
  rw [← ink_markup hnotes, hink] at hle
  simp only [htext, he, Text.ink_append, List.length_append, List.length_nil] at htwo hle
  omega

/-- The other rules work on what is left where a script alone is dropped. -/
theorem ink_markup_of_foundAlone (hfound : FoundAlone scriptTag A (scriptFrom host) B)
    (hothers : ∀ m ∈ scriptTag.findAll (A ++ (scriptFrom host ++ B)), m.offset ≠ A.length →
      scriptOwner? s m.text = none) :
    ink (markup s (A ++ (scriptFrom host ++ B))).content =
        ink (dropBesideScripts s (A ++ B.pastLine)).1 ∧ ink (A ++ B.pastLine) = ink (A ++ B) := by
  obtain ⟨m, hm, hoffset, ⟨e, htext, hB, he⟩, hpick⟩ := exists_script_of_foundAlone hhost hA hfound
  obtain ⟨⟨r, note⟩, hnote⟩ := Option.isSome_iff_exists.1 hpick
  obtain rfl : r = [] := deletes_dropOwned _ _ m _ hnote
  have hedit := edit_of_stretch hm hoffset htext hB hnote fun m' hm' hne => by
    refine dropOwned_eq_none.2 (hothers m' hm' fun hsame => hne ?_)
    have hlong := offset_lt_of_mem_findAll hm
    exact (eq_of_mem_findAll hm' hm (by omega) (by omega)).symm
  constructor
  · rw [ink_markup (by simp [hedit]), hedit]
  · conv_rhs => rw [hB]
    simp only [Text.ink_append, he, List.nil_append]

/-- A script from a platform's host is removed alone from a settled text exactly if nothing before it
goes on into it, it stops where it ends, it is the only script of a platform that is found, and
nothing comes about. -/
theorem script_removed_iff (hrole : FileRole.ofPath path = .entryHtml)
    (hclean : file s path (A ++ B) = .ok ⟨A ++ B, []⟩) :
    RemovedAlone s path scriptTag A (scriptFrom host) B ↔
      ScriptStandsAlone s A (scriptFrom host) B := by
  have hsettled : MarkupSettled s (A ++ B) := by
    have h := (file_eq_self_iff (by rw [hrole]; decide) (A ++ B)).1 hclean
    rwa [Settled, hrole] at h
  have hfile (t : Text) : file s path t = .ok (markup s t) := by rw [file, hrole]
  constructor
  · rintro ⟨hfound, r, hr, hink⟩
    rw [hfile, Except.ok.injEq] at hr
    subst hr
    obtain ⟨hbefore, hbehind⟩ := (script_foundAlone_iff hhost hA).1 hfound
    have hothers := others_unowned hhost hA hfound hink
    obtain ⟨hcontent, hsame⟩ := ink_markup_of_foundAlone hhost hA hfound hothers
    refine ⟨hbefore, hbehind, hothers, fun rest hend => ?_⟩
    rw [← Text.pastLine_of_eq_some hend]
    refine dropBesideScripts_notes.1 ?_
    by_contra hnotes
    have hlt := dropBesideScripts_erodes s (A ++ B.pastLine) hnotes
    rw [← hcontent, hink, hsame] at hlt
    exact absurd hlt (Nat.lt_irrefl _)
  · rintro ⟨hbefore, hbehind, hothers, hjoined⟩
    have hfound := (script_foundAlone_iff hhost hA).2 ⟨hbefore, hbehind⟩
    obtain ⟨hcontent, hsame⟩ := ink_markup_of_foundAlone hhost hA hfound hothers
    have hrest : SettledBesideScripts s (A ++ B.pastLine) := by
      cases hend : B.pastLineEnd? with
      | none =>
        rw [Text.pastLine_of_eq_none hend]
        exact ⟨hsettled.links, hsettled.metas, hsettled.traces⟩
      | some rest =>
        rw [Text.pastLine_of_eq_some hend]
        exact hjoined rest hend
    refine ⟨hfound, _, hfile _, ?_⟩
    have hkept := (dropBesideScripts_announced s).eq_of_notes (dropBesideScripts_notes.2 hrest)
    rw [hcontent, hkept, hsame]

end Script

/-! ## Text behind a script -/

/-- The path of an HTML file. -/
def somePage : Text := "index.html"

theorem somePage_html : FileRole.ofPath somePage = .entryHtml := by decide +kernel

/-- A page that the rewrite of HTML files leaves alone. -/
theorem somePage_clean {t : Text} (h : (markup {} t).notes = []) :
    file {} somePage t = .ok ⟨t, []⟩ := by
  rw [file, somePage_html, markup, finish_eq_self.2 h]

/-- A host of a platform. -/
def someHost : Text := "cdn.gpteng.co"

theorem someHost_owned : IsPlatformHost {} someHost := ⟨by decide +kernel, by decide +kernel⟩

/-- A script before text is removed alone. -/
theorem script_removed_before_text :
    RemovedAlone {} somePage scriptTag "<body>\n" (scriptFrom someHost) " text\n" := by
  have hclean : file {} somePage ("<body>\n" ++ " text\n") = .ok ⟨"<body>\n" ++ " text\n", []⟩ :=
    somePage_clean (by decide +kernel)
  have hbehind : StopsThere ClosesScript " text\n" := by
    rintro - ⟨b, c, u, hc, htext, -⟩
    obtain ⟨rest, rfl, -⟩ := closings_script.starts hc
    have hmem : CodePoint.ofChar '<' ∈ (" text\n" : Text) := by
      rw [htext]
      simp
    exact absurd hmem (by decide)
  exact (script_removed_iff someHost_owned (by decide) somePage_html hclean).2
    ⟨by decide +kernel, hbehind, by decide +kernel, nofun⟩

/-- Text between a script from a platform's host and another script is removed with the first. -/
theorem not_forall_script_removed : ¬∀ (path A B host : Text) (r : Rewrite),
    FileRole.ofPath path = .entryHtml → A.isWholeLines = true →
    file {} path (A ++ B) = .ok ⟨A ++ B, []⟩ → IsPlatformHost {} host →
    file {} path (A ++ (scriptFrom host ++ B)) = .ok r → ink r.content = ink (A ++ B) := by
  intro hall
  have hfile : file {} somePage (scriptFrom someHost ++ "x<script>y</script>\n") =
      .ok (markup {} (scriptFrom someHost ++ "x<script>y</script>\n")) := by
    rw [file, somePage_html]
  have hink := hall somePage [] "x<script>y</script>\n" someHost _ somePage_html rfl
    (somePage_clean (by decide +kernel)) someHost_owned hfile
  revert hink
  decide +kernel

end Rewrite

end Decouple
