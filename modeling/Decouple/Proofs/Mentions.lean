import Decouple.Proofs.Hosts
import Decouple.Proofs.Removal.Stretches
import Decouple.Repository

/-!
# What a source says about a repository

A source is read as a mention exactly if it is written as one: an address with an owner, a name and
what may stand behind the name, or the short form `owner/name` (`mention?_eq_some_iff`).  Every part is
read where the part before it ends, because none can begin with what the one before it goes on with.
So neither the owner nor the name of a mention is empty, and no slash is in them.

The repository that is meant has less in it.  The ending of a clone address is taken off the name,
and slashes are taken off the end of the reference; nothing may be left of either.  A repository is
complete exactly if the name is not that ending alone and the reference, unless another one is given,
is not made of slashes alone (`named_complete_iff`).
-/

namespace Decouple

namespace Text

variable {p : CodePoint → Bool} {t u tail : Text}

theorem dropStart?_append (head t : Text) : dropStart? head (head ++ t) = some t := by
  rw [dropStart?, if_pos (List.isPrefixOf_iff_prefix.2 (List.prefix_append head t)), List.drop_left]

theorem append_of_dropEnd? (h : dropEnd? tail t = some u) : u ++ tail = t := by
  unfold dropEnd? at h
  split at h
  · next hends =>
    obtain ⟨v, rfl⟩ := List.isSuffixOf_iff_suffix.1 hends
    rw [← Option.some.inj h, List.length_append, Nat.add_sub_cancel, List.take_left]
  · cases h

theorem trimEndOf_eq_nil_iff : trimEndOf p t = [] ↔ ∀ c ∈ t, p c = true := by
  simp [trimEndOf, List.dropWhile_eq_nil_iff]

end Text

namespace Repository

open CodePoint (isBlank)

variable {t path owner name tail e source : Text} {reference given : Option Text} {m : Mention}
  {r : Repository}

/-! ## How a mention is written -/

/-- The scheme of an address. -/
inductive Scheme where
  | absent
  | http
  | https

/-- What stands before the owner in an address. -/
def Scheme.start (scheme : Scheme) (www : Bool) : Text :=
  (match scheme with
    | absent => []
    | http => "http://"
    | https => "https://") ++ ((if www then ("www." : Text) else []) ++ "github.com/")

def slashEnding (slash : Bool) : Text := if slash then "/" else []

/-- What may stand behind the name in an address, and the reference that it gives. -/
inductive Follows : Text → Option Text → Prop
  | plain (slash : Bool) {e : Text} (he : isEnding e = true) : Follows (slashEnding slash ++ e) none
  | tree {ref e : Text} (hne : ref ≠ []) (href : ∀ c ∈ ref, isReference c = true)
      (he : isEnding e = true) : Follows ("/tree/" ++ (ref ++ e)) (some ref)

/-- Whether a text is written as a mention. -/
inductive Says : Text → Mention → Prop
  | address (scheme : Scheme) (www : Bool) {owner name tail : Text} {reference : Option Text}
      (howner : owner ≠ [] ∧ ∀ c ∈ owner, isOwner c = true)
      (hname : name ≠ [] ∧ ∀ c ∈ name, isName c = true) (htail : Follows tail reference) :
      Says (scheme.start www ++ (owner ++ ("/" ++ (name ++ tail)))) { owner, name, reference }
  | short {owner name : Text} (howner : owner ≠ [] ∧ ∀ c ∈ owner, isShort c = true)
      (hname : name ≠ [] ∧ ∀ c ∈ name, isShort c = true) :
      Says (owner ++ ("/" ++ name)) { owner, name, reference := none }

theorem isEnding_cases (h : isEnding e = true) :
    e = [] ∨ ∃ c rest, (c = ('#' : CodePoint) ∨ c = ('?' : CodePoint)) ∧ e = c :: rest := by
  cases e with
  | nil => exact .inl rfl
  | cons c rest =>
    rw [isEnding, Bool.and_eq_true] at h
    have hsign : c ∈ ("#?" : Text) := List.contains_iff_mem.1 h.1
    exact .inr ⟨c, rest, by simpa [Text.ofString] using hsign, rfl⟩

/-- No reference goes on with an ending. -/
theorem head?_of_isEnding (h : isEnding e = true) : e.head?.any isReference = false := by
  obtain rfl | ⟨c, rest, rfl | rfl, rfl⟩ := isEnding_cases h <;> rfl

/-- Neither a slash nor an ending begins a path to a reference. -/
theorem dropStart?_tree (slash : Bool) (h : isEnding e = true) :
    Text.dropStart? "/tree/" (slashEnding slash ++ e) = none := by
  cases slash <;> obtain rfl | ⟨c, rest, rfl | rfl, rfl⟩ := isEnding_cases h <;> rfl

theorem withoutStart_slash (slash : Bool) (h : isEnding e = true) :
    withoutStart "/" (slashEnding slash ++ e) = e := by
  cases slash <;> obtain rfl | ⟨c, rest, rfl | rfl, rfl⟩ := isEnding_cases h <;> rfl

theorem Follows.referenceAt?_eq (h : Follows tail reference) :
    referenceAt? tail = some reference := by
  cases h with
  | plain slash he =>
    simp only [referenceAt?, dropStart?_tree slash he, withoutStart_slash slash he]
    rw [if_pos he]
  | tree hne href he =>
    have hhead := head?_of_isEnding he
    rw [referenceAt?, Text.dropStart?_append]
    simp only [Text.takeWhile_append_of_head href hhead, Text.dropWhile_append_of_head href hhead,
      he, List.isEmpty_eq_false_iff.2 hne]
    rfl

theorem follows_of_referenceAt? (h : referenceAt? tail = some reference) :
    Follows tail reference := by
  unfold referenceAt? at h
  split at h
  · next rest hrest =>
    split at h
    · next hread =>
      cases h
      simp only [Bool.and_eq_true, Bool.not_eq_true', List.isEmpty_eq_false_iff] at hread
      have hwhole := Text.append_of_dropStart? hrest
      rw [← List.takeWhile_append_dropWhile (p := isReference) (l := rest)] at hwhole
      rw [← hwhole]
      exact .tree hread.1 (fun _ => List.mem_takeWhile_imp) hread.2
    · cases h
  · split at h
    · next hending =>
      cases h
      unfold withoutStart at hending
      cases hslash : Text.dropStart? "/" tail with
      | none =>
        rw [hslash] at hending
        exact .plain false hending
      | some e =>
        rw [hslash] at hending
        rw [← Text.append_of_dropStart? hslash]
        exact .plain true hending
    · cases h

/-- No name goes on with what follows it. -/
theorem Follows.head? (h : Follows tail reference) : tail.head?.any isName = false := by
  cases h with
  | tree => rfl
  | plain slash he =>
    cases slash <;> obtain rfl | ⟨c, rest, rfl | rfl, rfl⟩ := isEnding_cases he <;> rfl

/-! ## Reading a mention -/

theorem withoutScheme_start (scheme : Scheme) (www : Bool) (t : Text) :
    Text.dropStart? "github.com/" (withoutScheme (scheme.start www ++ t)) = some t := by
  cases scheme <;> cases www <;> rfl

theorem exists_of_withoutStart (head t : Text) :
    ∃ b : Bool, (if b then head else []) ++ withoutStart head t = t := by
  unfold withoutStart
  cases h : Text.dropStart? head t with
  | none => exact ⟨false, rfl⟩
  | some u => exact ⟨true, Text.append_of_dropStart? h⟩

theorem exists_start_of_withoutScheme
    (h : Text.dropStart? "github.com/" (withoutScheme t) = some path) :
    ∃ (scheme : Scheme) (www : Bool), scheme.start www ++ path = t := by
  have hhost := Text.append_of_dropStart? h
  have hwww (u : Text) (hu : withoutStart "www." u = withoutScheme t) : ∃ www : Bool,
      (if www then ("www." : Text) else []) ++ "github.com/" ++ path = u := by
    obtain ⟨www, hwhole⟩ := exists_of_withoutStart "www." u
    rw [hu, ← hhost, ← List.append_assoc] at hwhole
    exact ⟨www, hwhole⟩
  cases hhttps : Text.dropStart? "https://" t with
  | some u =>
    obtain ⟨www, rfl⟩ := hwww u (by rw [withoutScheme, hhttps]; rfl)
    exact ⟨.https, www, (List.append_assoc ..).trans (Text.append_of_dropStart? hhttps)⟩
  | none =>
    cases hhttp : Text.dropStart? "http://" t with
    | some u =>
      obtain ⟨www, rfl⟩ := hwww u (by rw [withoutScheme, hhttps, hhttp]; rfl)
      exact ⟨.http, www, (List.append_assoc ..).trans (Text.append_of_dropStart? hhttp)⟩
    | none =>
      obtain ⟨www, hwhole⟩ := hwww t (by rw [withoutScheme, hhttps, hhttp]; rfl)
      exact ⟨.absent, www, hwhole⟩

theorem says_of_ofAddress? (h : ofAddress? t = some m) : Says t m := by
  simp only [ofAddress?, Option.bind_eq_bind, Option.bind_eq_some_iff] at h
  obtain ⟨path, hpath, rest, hrest, reference, hreference, h⟩ := h
  split at h
  · cases h
  · next hne =>
    cases h
    simp only [Bool.or_eq_true, not_or, Bool.not_eq_true, List.isEmpty_eq_false_iff] at hne
    obtain ⟨scheme, www, rfl⟩ := exists_start_of_withoutScheme hpath
    have hwhole : path.takeWhile isOwner ++ ("/" ++ (rest.takeWhile isName ++
        rest.dropWhile isName)) = path := by
      rw [List.takeWhile_append_dropWhile, Text.append_of_dropStart? hrest,
        List.takeWhile_append_dropWhile]
    have hsays := Says.address scheme www ⟨hne.1, fun _ => List.mem_takeWhile_imp⟩
      ⟨hne.2, fun _ => List.mem_takeWhile_imp⟩ (follows_of_referenceAt? hreference)
    rwa [hwhole] at hsays

theorem says_of_ofShort? (h : ofShort? t = some m) : Says t m := by
  simp only [ofShort?, Option.bind_eq_bind, Option.bind_eq_some_iff] at h
  obtain ⟨name, hname, h⟩ := h
  split at h
  · cases h
  · next hne =>
    cases h
    simp only [Bool.or_eq_true, not_or, Bool.not_eq_true, List.isEmpty_eq_false_iff,
      Bool.not_eq_false', List.all_eq_true] at hne
    have hwhole : t.takeWhile isShort ++ ("/" ++ name) = t := by
      rw [Text.append_of_dropStart? hname, List.takeWhile_append_dropWhile]
    have hsays := Says.short ⟨hne.1.1, fun _ => List.mem_takeWhile_imp⟩ ⟨hne.1.2, hne.2⟩
    rwa [hwhole] at hsays

/-- What is read as an address has two slashes. -/
theorem two_le_count_of_ofAddress? (h : ofAddress? t = some m) : 2 ≤ Text.countOf '/' t := by
  simp only [ofAddress?, Option.bind_eq_bind, Option.bind_eq_some_iff] at h
  obtain ⟨path, hpath, rest, hrest, -⟩ := h
  obtain ⟨scheme, www, rfl⟩ := exists_start_of_withoutScheme hpath
  have hstart : 1 ≤ Text.countOf '/' (scheme.start www) := by
    cases scheme <;> cases www <;> decide
  have hbehind : ('/' : CodePoint) ∈ path.dropWhile isOwner := by
    rw [← Text.append_of_dropStart? hrest]
    exact List.mem_append_left _ (List.mem_cons_self ..)
  have hpath : 1 ≤ Text.countOf '/' path :=
    List.count_pos_iff.2 ((List.dropWhile_suffix isOwner).subset hbehind)
  unfold Text.countOf at *
  rw [List.count_append]
  omega

theorem slash_not_mem (h : ∀ c ∈ t, isShort c = true) : ('/' : CodePoint) ∉ t :=
  fun hslash => nomatch h _ hslash

theorem ofAddress?_written (scheme : Scheme) (www : Bool)
    (howner : owner ≠ [] ∧ ∀ c ∈ owner, isOwner c = true)
    (hname : name ≠ [] ∧ ∀ c ∈ name, isName c = true) (htail : Follows tail reference) :
    ofAddress? (scheme.start www ++ (owner ++ ("/" ++ (name ++ tail)))) =
      some { owner, name, reference } := by
  have hslash : ("/" ++ (name ++ tail) : Text).head?.any isOwner = false := rfl
  rw [ofAddress?, withoutScheme_start, Option.bind_eq_bind, Option.bind_some,
    Text.takeWhile_append_of_head howner.2 hslash, Text.dropWhile_append_of_head howner.2 hslash,
    Text.dropStart?_append, Option.bind_eq_bind, Option.bind_some,
    Text.takeWhile_append_of_head hname.2 htail.head?,
    Text.dropWhile_append_of_head hname.2 htail.head?, htail.referenceAt?_eq]
  simp only [Option.bind_some, List.isEmpty_eq_false_iff.2 howner.1,
    List.isEmpty_eq_false_iff.2 hname.1]
  rfl

/-- A short form is no address, as it has one slash. -/
theorem ofAddress?_short (howner : ∀ c ∈ owner, isShort c = true)
    (hname : ∀ c ∈ name, isShort c = true) : ofAddress? (owner ++ ("/" ++ name)) = none := by
  rw [Option.eq_none_iff_forall_not_mem]
  intro m hm
  have htwo := two_le_count_of_ofAddress? hm
  have hone : Text.countOf '/' (owner ++ ("/" ++ name)) = 1 := by
    rw [Text.countOf, List.count_append, List.count_append,
      List.count_eq_zero.2 (slash_not_mem howner), List.count_eq_zero.2 (slash_not_mem hname)]
    rfl
  omega

theorem ofShort?_written (howner : owner ≠ [] ∧ ∀ c ∈ owner, isShort c = true)
    (hname : name ≠ [] ∧ ∀ c ∈ name, isShort c = true) :
    ofShort? (owner ++ ("/" ++ name)) = some { owner, name, reference := none } := by
  have hslash : ("/" ++ name : Text).head?.any isShort = false := rfl
  rw [ofShort?, Text.takeWhile_append_of_head howner.2 hslash,
    Text.dropWhile_append_of_head howner.2 hslash, Text.dropStart?_append, Option.bind_eq_bind,
    Option.bind_some, List.isEmpty_eq_false_iff.2 howner.1, List.isEmpty_eq_false_iff.2 hname.1,
    List.all_eq_true.2 hname.2]
  rfl

/-- A source is read as what it says. -/
theorem mention?_eq_some_iff : mention? source = some m ↔ Says (Text.trim source) m := by
  unfold mention?
  generalize Text.trim source = t
  constructor
  · intro h
    cases haddress : ofAddress? t with
    | some m' =>
      rw [haddress] at h
      cases h
      exact says_of_ofAddress? haddress
    | none =>
      rw [haddress] at h
      exact says_of_ofShort? h
  · intro h
    cases h with
    | address scheme www howner hname htail =>
      rw [ofAddress?_written scheme www howner hname htail]
      rfl
    | short howner hname =>
      rw [ofAddress?_short howner.2 hname.2]
      exact ofShort?_written howner hname

/-! ## Complete repositories -/

/-- Whether a repository has all its parts, and no part can be taken for two. -/
structure IsComplete (r : Repository) : Prop where
  owner_ne_nil : r.owner ≠ []
  name_ne_nil : r.name ≠ []
  reference_ne_nil : r.reference ≠ []
  slash_not_mem_owner : ('/' : CodePoint) ∉ r.owner
  slash_not_mem_name : ('/' : CodePoint) ∉ r.name

theorem Says.ne_nil (h : Says t m) : m.owner ≠ [] ∧ m.name ≠ [] := by
  cases h with
  | address _ _ howner hname _ => exact ⟨howner.1, hname.1⟩
  | short howner hname => exact ⟨howner.1, hname.1⟩

theorem Says.slash_not_mem (h : Says t m) :
    ('/' : CodePoint) ∉ m.owner ∧ ('/' : CodePoint) ∉ m.name := by
  cases h with
  | address _ _ howner hname _ =>
    exact ⟨fun hslash => (nomatch howner.2 _ hslash), fun hslash => (nomatch hname.2 _ hslash)⟩
  | short howner hname =>
    exact ⟨Repository.slash_not_mem howner.2, Repository.slash_not_mem hname.2⟩

theorem mem_of_mem_cloneName {c : CodePoint} (h : c ∈ cloneName name) : c ∈ name := by
  unfold cloneName at h
  cases hdrop : Text.dropEnd? ".git" name with
  | none =>
    rw [hdrop] at h
    exact h
  | some u =>
    rw [hdrop] at h
    rw [← Text.append_of_dropEnd? hdrop]
    exact List.mem_append_left _ h

/-- Nothing is left of the ending of a clone address alone. -/
theorem cloneName_eq_nil_iff (hne : name ≠ []) : cloneName name = [] ↔ name = ".git" := by
  constructor
  · intro h
    unfold cloneName at h
    cases hdrop : Text.dropEnd? ".git" name with
    | none =>
      rw [hdrop] at h
      exact absurd h hne
    | some u =>
      rw [hdrop] at h
      obtain rfl : u = [] := h
      exact (Text.append_of_dropEnd? hdrop).symm
  · rintro rfl
    rfl

theorem reference_ofMention (m : Mention) (given : Option Text) : (ofMention m given).reference =
    if given.getD [] = [] then (m.reference.map (Text.trimEndOf (· = '/'))).getD "main"
      else given.getD [] := by
  unfold ofMention
  cases given with
  | none => rfl
  | some ref =>
    by_cases href : ref = []
    · subst href
      rfl
    · simp [href, Option.filter]

/-- Nothing is left of a reference that is made of slashes alone. -/
theorem reference_ofMention_eq_nil_iff : (ofMention m given).reference = [] ↔
    given.getD [] = [] ∧ ∃ ref ∈ m.reference, ∀ c ∈ ref, c = ('/' : CodePoint) := by
  rw [reference_ofMention]
  split
  · next hgiven =>
    cases href : m.reference with
    | none => simp [Text.ofString]
    | some ref => simp [hgiven, Text.trimEndOf_eq_nil_iff]
  · next hgiven => simp [hgiven]

theorem Says.ofMention_spec (h : Says t m) (given : Option Text) :
    (ofMention m given).owner ≠ [] ∧ ('/' : CodePoint) ∉ (ofMention m given).owner ∧
      ('/' : CodePoint) ∉ (ofMention m given).name :=
  ⟨h.ne_nil.1, h.slash_not_mem.1,
    fun hslash => h.slash_not_mem.2 (mem_of_mem_cloneName hslash)⟩

/-- The repository that a mention means is complete if nothing that is taken off was a whole part. -/
theorem Says.isComplete_iff (h : Says t m) : IsComplete (ofMention m given) ↔
    m.name ≠ ".git" ∧
      (given.getD [] = [] → ∀ ref ∈ m.reference, ∃ c ∈ ref, c ≠ ('/' : CodePoint)) := by
  have hname : (ofMention m given).name ≠ [] ↔ m.name ≠ ".git" :=
    (cloneName_eq_nil_iff h.ne_nil.2).not
  have hreference : (ofMention m given).reference ≠ [] ↔
      (given.getD [] = [] → ∀ ref ∈ m.reference, ∃ c ∈ ref, c ≠ ('/' : CodePoint)) := by
    rw [Ne, reference_ofMention_eq_nil_iff]
    push Not
    rfl
  obtain ⟨howner, hslashOwner, hslashName⟩ := h.ofMention_spec given
  rw [← hname, ← hreference]
  exact ⟨fun hcomplete => ⟨hcomplete.name_ne_nil, hcomplete.reference_ne_nil⟩,
    fun hleft => ⟨howner, hleft.1, hleft.2, hslashOwner, hslashName⟩⟩

/-- A source names the repositories that what it says means. -/
theorem ofSource_eq_ok_iff : ofSource source given = .ok r ↔
    ∃ m, Says (Text.trim source) m ∧ ofMention m given = r := by
  simp only [← mention?_eq_some_iff, ofSource]
  cases mention? source with
  | none => simp
  | some m => simp

/-- The repository that a source names has an owner and no slash in its owner or name.  It is complete
exactly if the name that the source says is not the ending of a clone address alone and the reference
that it says, if none is given apart, is not made of slashes alone. -/
theorem named_complete_iff (source : Text) (given : Option Text) :
    (∀ r, ofSource source given = .ok r →
      r.owner ≠ [] ∧ ('/' : CodePoint) ∉ r.owner ∧ ('/' : CodePoint) ∉ r.name) ∧
    ((∀ r, ofSource source given = .ok r → IsComplete r) ↔
      ∀ m, Says (Text.trim source) m → m.name ≠ ".git" ∧
        (given.getD [] = [] → ∀ ref ∈ m.reference, ∃ c ∈ ref, c ≠ ('/' : CodePoint))) := by
  constructor
  · intro r hr
    obtain ⟨m, hsays, rfl⟩ := ofSource_eq_ok_iff.1 hr
    exact hsays.ofMention_spec given
  · constructor
    · intro hall m hsays
      exact hsays.isComplete_iff.1 (hall _ (ofSource_eq_ok_iff.2 ⟨m, hsays, rfl⟩))
    · intro hall r hr
      obtain ⟨m, hsays, rfl⟩ := ofSource_eq_ok_iff.1 hr
      exact hsays.isComplete_iff.2 (hall m hsays)

/-- A repository may have no name: what is named may be the ending of a clone address alone. -/
theorem not_forall_isComplete : ¬∀ (source : Text) (given : Option Text) (r : Repository),
    ofSource source given = .ok r → IsComplete r := by
  intro h
  have hread : ofSource "acme/.git" none = .ok { owner := "acme", name := "" } := rfl
  exact (h _ _ _ hread).name_ne_nil rfl

end Repository

end Decouple
