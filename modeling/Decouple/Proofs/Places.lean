import Decouple.Proofs.Texts
import Decouple.Retrieval.Archive

/-!
# The paths of extracted projects

An extraction gives each file that it keeps a path of components: none is empty, holds a backslash,
or is `.` or `..`.  `IsPath` adds that the path is not excluded (`isPath_of_mem_placed`).

Conversely a file whose name is such a path inside a folder is extracted to that path, whatever
has made the path (`placed_inside`): the folder is all that is taken off.
-/

namespace Decouple

namespace Extraction

variable {s : Settings} {name path root : Text} {p : List Text} {α β : Type}

/-- What a component of a path is like. -/
structure IsComponent (c : Text) : Prop where
  ne_nil : c ≠ []
  backslash : ('\\' : CodePoint) ∉ c
  ne_dot : c ≠ "."
  ne_dots : c ≠ ".."

/-- A path that an extraction may give a file. -/
structure IsPath (s : Settings) (path : Text) : Prop where
  components : ∀ c ∈ Text.splitOn '/' path, IsComponent c
  kept : excludes s (Text.splitOn '/' path) = false

instance (c : Text) : Decidable (IsComponent c) :=
  decidable_of_iff (c ≠ [] ∧ ('\\' : CodePoint) ∉ c ∧ c ≠ "." ∧ c ≠ "..")
    ⟨fun ⟨a, b, c, d⟩ => ⟨a, b, c, d⟩, fun ⟨a, b, c, d⟩ => ⟨a, b, c, d⟩⟩

instance (s : Settings) (path : Text) : Decidable (IsPath s path) :=
  decidable_of_iff ((∀ c ∈ Text.splitOn '/' path, IsComponent c) ∧
    excludes s (Text.splitOn '/' path) = false) ⟨fun ⟨a, b⟩ => ⟨a, b⟩, fun ⟨a, b⟩ => ⟨a, b⟩⟩

/-! ## From names to places -/

/-- A part of a name holds no slash, nothing that the name does not hold, and is a component
unless it leads upwards. -/
theorem of_mem_parts {c : Text} (h : c ∈ parts name) :
    ('/' : CodePoint) ∉ c ∧ (∀ x ∈ c, x ∈ name) ∧ (c ≠ ".." → IsComponent c) := by
  obtain ⟨hsplit, hc⟩ := List.mem_filter.1 h
  simp only [decide_eq_true_eq, Bool.and_eq_true] at hc
  have hslash : ('/' : CodePoint) ∉ c := Text.not_mem_of_mem_splitOn hsplit
  have hmem : ∀ x ∈ c, x ∈ name ∧ x ≠ ('\\' : CodePoint) := by
    intro x hx
    rcases Text.mem_replaceCodePoint (Text.mem_of_mem_splitOn hsplit hx) with rfl | hx'
    · exact absurd hx hslash
    · exact hx'
  exact ⟨hslash, fun x hx => (hmem x hx).1, fun hup =>
    ⟨hc.1, fun hb => (hmem _ hb).2 rfl, hc.2, hup⟩⟩

theorem place?_eq_some (h : place? name = some p) :
    isFolder name = false ∧ isAbsolute name = false ∧ areInside (parts name) = true ∧
      parts name = p := by
  unfold place? at h
  split at h
  · cases h
  · next hn =>
    simp only [Bool.or_eq_true, Bool.not_eq_true', not_or, Bool.not_eq_true, Bool.not_eq_false]
      at hn
    exact ⟨hn.1.1, hn.1.2, hn.2, Option.some.inj h⟩

/-- The place of a name has components, without slashes and made of the name's code points. -/
theorem of_place? (h : place? name = some p) :
    p ≠ [] ∧ ∀ c ∈ p, IsComponent c ∧ ('/' : CodePoint) ∉ c ∧ ∀ x ∈ c, x ∈ name := by
  obtain ⟨-, -, hinside, rfl⟩ := place?_eq_some h
  simp only [areInside, Bool.and_eq_true, Bool.not_eq_true', List.isEmpty_eq_false_iff] at hinside
  refine ⟨hinside.1.1, fun c hc => ?_⟩
  obtain ⟨hslash, hmem, hcomponent⟩ := of_mem_parts hc
  refine ⟨hcomponent fun hup => ?_, hslash, hmem⟩
  rw [hup] at hc
  have := hinside.1.2
  rw [List.contains_iff_mem.2 hc] at this
  cases this

/-! ## From places to paths -/

theorem of_mem_withoutShared {members : List (List Text × α)} {a : α}
    (h : (p, a) ∈ withoutShared members) :
    ∃ q, (q, a) ∈ members ∧ (p = q ∨ 1 < q.length ∧ p = q.tail) := by
  unfold withoutShared at h
  split at h
  · next hshare =>
    obtain ⟨⟨q, b⟩, hq, he⟩ := List.mem_map.1 h
    cases he
    refine ⟨q, hq, Or.inr ⟨?_, rfl⟩⟩
    cases members with
    | nil => cases hq
    | cons first rest =>
      have hall : ((first :: rest).map (·.1)).all
          (fun p => p.headD [] = first.1.headD [] && 1 < p.length) = true := hshare
      have := List.all_eq_true.1 hall q (List.mem_map_of_mem hq)
      simp only [Bool.and_eq_true, decide_eq_true_eq] at this
      exact this.2
  · exact ⟨p, h, Or.inl rfl⟩

/-- What is placed has a place that is kept, made of the place of its name. -/
theorem of_mem_placed {members : List (Text × α)} {a : α} (h : (path, a) ∈ placed s members) :
    ∃ name q p, (name, a) ∈ members ∧ place? name = some q ∧ (p = q ∨ 1 < q.length ∧ p = q.tail) ∧
      excludes s p = false ∧ path = Text.join "/" p := by
  unfold placed at h
  obtain ⟨⟨p, b⟩, hp, he⟩ := List.mem_map.1 h
  cases he
  obtain ⟨hp, hkept⟩ := List.mem_filter.1 hp
  obtain ⟨q, hq, hpq⟩ := of_mem_withoutShared hp
  obtain ⟨⟨name, b⟩, hname, hplace⟩ := List.mem_filterMap.1 hq
  obtain ⟨q', hq', he⟩ := Option.map_eq_some_iff.1 hplace
  cases he
  exact ⟨name, q, p, hname, hq', hpq, by simpa using hkept, rfl⟩

/-- Splitting the path of a place gives the place. -/
theorem splitOn_join_place (hne : p ≠ []) (hslash : ∀ c ∈ p, ('/' : CodePoint) ∉ c) :
    Text.splitOn '/' (Text.join "/" p) = p := Text.splitOn_join hne hslash

/-- What is placed has a path, made of the code points of its name and slashes. -/
theorem isPath_of_mem_placed {members : List (Text × α)} {a : α}
    (h : (path, a) ∈ placed s members) :
    IsPath s path ∧ ∃ name, (name, a) ∈ members ∧
      ∀ c ∈ Text.splitOn '/' path, ∀ x ∈ c, x ∈ name := by
  obtain ⟨name, q, p, hname, hq, hpq, hkept, rfl⟩ := of_mem_placed h
  obtain ⟨hne, hcomponents⟩ := of_place? hq
  have hp : p ≠ [] ∧ ∀ c ∈ p, c ∈ q := by
    rcases hpq with rfl | ⟨hlong, rfl⟩
    · exact ⟨hne, fun c hc => hc⟩
    · refine ⟨fun he => ?_, fun c hc => List.mem_of_mem_tail hc⟩
      have := congrArg List.length he
      rw [List.length_tail, List.length_nil] at this
      omega
  have hsplit : Text.splitOn '/' (Text.join "/" p) = p :=
    splitOn_join_place hp.1 fun c hc => (hcomponents c (hp.2 c hc)).2.1
  refine ⟨⟨?_, ?_⟩, name, hname, ?_⟩ <;> rw [hsplit]
  · exact fun c hc => (hcomponents c (hp.2 c hc)).1
  · exact hkept
  · exact fun c hc => (hcomponents c (hp.2 c hc)).2.2

/-! ## Paths inside a folder -/

/-- A component that may be the folder of an archive: no slash, and no mark of a drive. -/
structure IsFolderName (root : Text) : Prop extends IsComponent root where
  slash : ('/' : CodePoint) ∉ root
  colon : (':' : CodePoint) ∉ root

theorem splitOn_inside (hroot : IsFolderName root) (path : Text) :
    Text.splitOn '/' (root ++ "/" ++ path) = root :: Text.splitOn '/' path := by
  rw [List.append_assoc]
  exact Text.splitOn_append hroot.slash

theorem isComponent_inside (hroot : IsFolderName root) (hpath : IsPath s path) {c : Text}
    (hc : c ∈ root :: Text.splitOn '/' path) : IsComponent c := by
  rcases List.mem_cons.1 hc with rfl | hc
  · exact hroot.toIsComponent
  · exact hpath.components c hc

theorem slash_ne_backslash : ('\\' : CodePoint) ≠ '/' := by decide

/-- A path inside a folder has no backslashes. -/
theorem replaceCodePoint_inside (hroot : IsFolderName root) (hpath : IsPath s path) :
    Text.replaceCodePoint '\\' '/' (root ++ "/" ++ path) = root ++ "/" ++ path := by
  refine Text.replaceCodePoint_of_not_mem fun hmem => ?_
  obtain ⟨c, hc, hin⟩ := Text.exists_mem_splitOn hmem slash_ne_backslash
  rw [splitOn_inside hroot] at hc
  exact (isComponent_inside hroot hpath hc).backslash hin

theorem parts_inside (hroot : IsFolderName root) (hpath : IsPath s path) :
    parts (root ++ "/" ++ path) = root :: Text.splitOn '/' path := by
  rw [parts, replaceCodePoint_inside hroot hpath, splitOn_inside hroot, List.filter_eq_self]
  intro c hc
  have hcomponent := isComponent_inside hroot hpath hc
  simp [hcomponent.ne_nil, hcomponent.ne_dot]

/-- The place of a path inside a folder. -/
theorem place?_inside (hroot : IsFolderName root) (hpath : IsPath s path) :
    place? (root ++ "/" ++ path) = some (root :: Text.splitOn '/' path) := by
  have hparts := parts_inside hroot hpath
  have hnil : [] ∉ Text.splitOn '/' (root ++ "/" ++ path) := by
    rw [splitOn_inside hroot]
    exact fun hc => (isComponent_inside hroot hpath hc).ne_nil rfl
  have hfolder : isFolder (root ++ "/" ++ path) = false :=
    Bool.eq_false_iff.2 fun h => hnil (Text.nil_mem_splitOn_of_endsWith h)
  have habsolute : isAbsolute (root ++ "/" ++ path) = false := by
    rw [isAbsolute, replaceCodePoint_inside hroot hpath]
    exact Bool.eq_false_iff.2 fun h => hnil (Text.nil_mem_splitOn_of_startsWith h)
  have hinside : areInside (parts (root ++ "/" ++ path)) = true := by
    have hup : (".." : Text) ∉ root :: Text.splitOn '/' path := fun hc =>
      (isComponent_inside hroot hpath hc).ne_dots rfl
    rw [hparts, areInside]
    simp [hup, hroot.colon]
  rw [place?, hfolder, habsolute, hinside, hparts]
  rfl

theorem filterMap_place?_inside {xs : List α} {pathOf : α → Text} (f : α → β)
    (hroot : IsFolderName root) (hpaths : ∀ x ∈ xs, IsPath s (pathOf x)) :
    (xs.map fun x => (root ++ "/" ++ pathOf x, f x)).filterMap
        (fun (name, a) => (place? name).map fun p => (p, a)) =
      xs.map fun x => (root :: Text.splitOn '/' (pathOf x), f x) := by
  rw [List.filterMap_map, ← List.filterMap_eq_map]
  refine List.filterMap_congr fun x hx => ?_
  simp only [Function.comp_apply, place?_inside hroot (hpaths x hx), Option.map_some]

/-- Files inside one folder are placed under the paths that they have in it. -/
theorem placed_inside {xs : List α} {pathOf : α → Text} (f : α → β) (hroot : IsFolderName root)
    (hne : xs ≠ []) (hpaths : ∀ x ∈ xs, IsPath s (pathOf x)) :
    placed s (xs.map fun x => (root ++ "/" ++ pathOf x, f x)) =
      xs.map fun x => (pathOf x, f x) := by
  have hshared : shareFolder
      ((xs.map fun x => (root :: Text.splitOn '/' (pathOf x), f x)).map (·.1)) = true := by
    obtain ⟨x, rest, rfl⟩ := List.exists_cons_of_ne_nil hne
    simp [shareFolder, List.length_pos_iff, Text.splitOn, Text.splitWhere_ne_nil]
  have hkept : ∀ x ∈ xs, (!excludes s (Text.splitOn '/' (pathOf x))) = true := by
    intro x hx
    rw [(hpaths x hx).kept]
    rfl
  unfold placed
  rw [filterMap_place?_inside f hroot hpaths]
  dsimp only
  rw [withoutShared.eq_def, if_pos hshared, List.map_map, List.filter_map, List.map_map]
  rw [List.filter_eq_self.2]
  · refine List.map_congr_left fun x _ => ?_
    have hjoin : Text.join "/" (Text.splitOn '/' (pathOf x)) = pathOf x := Text.join_splitOn '/' _
    change (Text.join "/" (Text.splitOn '/' (pathOf x)), f x) = _
    rw [hjoin]
  · exact hkept

end Extraction

end Decouple
