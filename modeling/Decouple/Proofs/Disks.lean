import Decouple.Disk
import Decouple.Proofs.Texts
import Decouple.Proofs.Traversal

/-!
# Places on a disk

The normal form of a path, its folder and a path inside of it have the components that they should
have (`components_rooted`), so they lead where the path leads.

Folders are only ever added: a path that leads to a place goes on leading there (`locate_mono`).
What was made once is not made again (`makeFolders_again`), and making folders leaves the files
as they are (`grows_of_makeFolders`).
-/

namespace Decouple

namespace FilePath

/-! ## Components -/

/-- What a component of a path is like. -/
structure IsName (c : Text) : Prop where
  ne_nil : c ≠ []
  ne_dot : c ≠ "."
  slash : ('/' : CodePoint) ∉ c

instance (c : Text) : Decidable (IsName c) :=
  decidable_of_iff (c ≠ [] ∧ c ≠ "." ∧ ('/' : CodePoint) ∉ c)
    ⟨fun ⟨a, b, c⟩ => ⟨a, b, c⟩, fun ⟨a, b, c⟩ => ⟨a, b, c⟩⟩

variable {path child c : Text} {cs : List Text}

theorem isName_of_mem_components (h : c ∈ components path) : IsName c := by
  obtain ⟨hsplit, hc⟩ := List.mem_filter.1 h
  simp only [Bool.and_eq_true, decide_eq_true_eq] at hc
  exact ⟨hc.1, hc.2, Text.not_mem_of_mem_splitOn hsplit⟩

/-- The components on both sides of a slash. -/
theorem components_append_slash (a b : Text) :
    components (a ++ CodePoint.ofChar '/' :: b) = components a ++ components b := by
  rw [components, Text.splitOn_append_cons, List.filter_append]
  rfl

theorem components_slash (t : Text) : components (CodePoint.ofChar '/' :: t) = components t :=
  components_append_slash [] t

theorem components_join (h : ∀ c ∈ cs, IsName c) : components (Text.join "/" cs) = cs := by
  cases cs with
  | nil => rfl
  | cons c cs =>
    have hsplit : Text.splitOn '/' (Text.join "/" (c :: cs)) = c :: cs :=
      Text.splitOn_join (List.cons_ne_nil c cs) fun d hd => (h d hd).slash
    rw [components, hsplit]
    refine List.filter_eq_self.2 fun d hd => ?_
    simp [(h d hd).ne_nil, (h d hd).ne_dot]

theorem components_of_isName (h : IsName c) : components c = [c] :=
  @components_join [c] (List.forall_mem_singleton.2 h)

/-- What a longer text is added to is a name. -/
theorem isName_append {a b : Text} (ha : ('/' : CodePoint) ∉ a) (hb : ('/' : CodePoint) ∉ b)
    (hlength : 2 ≤ b.length) : IsName (a ++ b) where
  ne_nil := by
    refine List.append_ne_nil_of_right_ne_nil _ fun hnil => ?_
    rw [hnil, List.length_nil] at hlength
    omega
  ne_dot hdot := by
    have hone : (a ++ b).length = 1 := congrArg List.length hdot
    rw [List.length_append] at hone
    omega
  slash hslash := (List.mem_append.1 hslash).elim ha hb

theorem append_ne_dots {a b : Text} (hlength : 2 < b.length) : a ++ b ≠ ".." := by
  intro hdots
  have htwo : (a ++ b).length = 2 := congrArg List.length hdots
  rw [List.length_append] at htwo
  omega

/-- The path of components that starts as another path does. -/
def rooted (path : Text) (cs : List Text) : Text := root path ++ Text.join "/" cs

theorem components_rooted (path : Text) (h : ∀ c ∈ cs, IsName c) :
    components (rooted path cs) = cs := by
  rw [rooted, root]
  split
  · exact components_join h
  · exact (components_slash _).trans ((components_slash _).trans (components_join h))
  · exact (components_slash _).trans (components_join h)

theorem startsWith_slash_join (h : ∀ c ∈ cs, IsName c) :
    Text.startsWith (Text.join "/" cs) "/" = false := by
  match cs with
  | [] => rfl
  | [] :: _ => exact absurd rfl (h [] (List.mem_cons_self ..)).ne_nil
  | (d :: c) :: cs =>
    have hd : ('/' : CodePoint) ≠ d := by
      intro e
      exact (h (d :: c) (List.mem_cons_self ..)).slash (e ▸ List.mem_cons_self ..)
    have hfirst : ∃ t, Text.join "/" ((d :: c) :: cs) = d :: t := by
      cases cs with
      | nil => exact ⟨c, rfl⟩
      | cons next cs => exact ⟨_, rfl⟩
    obtain ⟨t, ht⟩ := hfirst
    rw [ht]
    exact Bool.and_eq_false_imp.2 fun e => absurd (eq_of_beq e) hd

theorem startsWith_slash_rooted (path : Text) (h : ∀ c ∈ cs, IsName c) :
    Text.startsWith (rooted path cs) "/" = Text.startsWith path "/" := by
  rw [rooted, root]
  match path with
  | [] => exact startsWith_slash_join h
  | d :: path =>
    by_cases hd : ('/' : CodePoint) = d
    · subst hd
      have hcount :
          ((CodePoint.ofChar '/' :: path).takeWhile (CodePoint.is '/')).length ≠ 0 := by
        rw [List.takeWhile_cons_of_pos rfl]
        exact Nat.succ_ne_zero _
      split
      · next hnone => exact absurd hnone hcount
      · rfl
      · rfl
    · have hnone : (d :: path).takeWhile (CodePoint.is '/') = [] :=
        List.takeWhile_cons_of_neg fun e => hd (of_decide_eq_true e).symm
      have hstart : Text.startsWith (d :: path) "/" = false :=
        Bool.and_eq_false_imp.2 fun e => absurd (eq_of_beq e) hd
      rw [hnone, hstart]
      exact startsWith_slash_join h

theorem rooted_eq_nil (h : rooted path cs = []) (hcs : ∀ c ∈ cs, IsName c) :
    cs = [] ∧ Text.startsWith path "/" = false := by
  constructor
  · rw [← components_rooted path hcs, h]
    rfl
  · rw [← startsWith_slash_rooted path hcs, h]
    rfl

/-- The normal form of a path. -/
theorem normal_cases (path : Text) :
    normal path = rooted path (components path) ∨
      normal path = "." ∧ components path = [] ∧ Text.startsWith path "/" = false := by
  have hnames : ∀ c ∈ components path, IsName c := fun c hc => isName_of_mem_components hc
  have hnormal : normal path = if (rooted path (components path)).isEmpty then ("." : Text)
    else rooted path (components path) := rfl
  rw [hnormal]
  split
  · next hnone => exact Or.inr ⟨rfl, rooted_eq_nil (List.isEmpty_iff.1 hnone) hnames⟩
  · exact Or.inl rfl

@[simp] theorem components_normal (path : Text) : components (normal path) = components path := by
  rcases normal_cases path with h | ⟨h, hnone, -⟩
  · rw [h, components_rooted path fun c hc => isName_of_mem_components hc]
  · rw [h, hnone]
    rfl

@[simp] theorem startsWith_slash_normal (path : Text) :
    Text.startsWith (normal path) "/" = Text.startsWith path "/" := by
  rcases normal_cases path with h | ⟨h, -, hstart⟩
  · rw [h, startsWith_slash_rooted path fun c hc => isName_of_mem_components hc]
  · rw [h, hstart]
    rfl

/-! ## A name inside a folder -/

theorem startsWith_slash_of_isName (h : IsName c) : Text.startsWith c "/" = false :=
  @startsWith_slash_join [c] (List.forall_mem_singleton.2 h)

theorem startsWith_slash_append {t : Text} (ht : t ≠ []) (u : Text) :
    Text.startsWith (t ++ u) "/" = Text.startsWith t "/" := by
  cases t with
  | nil => exact absurd rfl ht
  | cons d t => rfl

theorem normal_ne_nil (path : Text) : normal path ≠ [] := by
  intro h
  rw [normal] at h
  split at h
  · cases h
  · next hsome => exact hsome (List.isEmpty_iff.2 h)

/-- What a name inside a folder is the normal form of. -/
theorem inside_eq (parent : Text) (hchild : IsName child) :
    ∃ t, inside parent child = normal t ∧ components t = components parent ++ [child] ∧
      Text.startsWith t "/" = Text.startsWith parent "/" := by
  have hplain := startsWith_slash_of_isName hchild
  have hcomponents := components_normal parent
  have hstart := startsWith_slash_normal parent
  rw [inside, hplain, if_neg Bool.false_ne_true]
  dsimp only
  split_ifs with hdot hroot
  · rw [hdot] at hcomponents hstart
    refine ⟨child, rfl, ?_, ?_⟩
    · rw [components_of_isName hchild, ← hcomponents]
      rfl
    · rw [hplain, ← hstart]
      rfl
  · have hslashes : normal parent = "/" ∨ normal parent = "//" := by simpa using hroot
    refine ⟨_, rfl, ?_, ?_⟩
    · rw [← hcomponents, ← components_of_isName hchild]
      rcases hslashes with e | e
      · rw [e]
        exact components_slash _
      · rw [e]
        exact (components_slash _).trans (components_slash _)
    · rw [← hstart]
      rcases hslashes with e | e
      · rw [e]
        rfl
      · rw [e]
        rfl
  · refine ⟨_, rfl, ?_, ?_⟩
    · rw [← hcomponents, ← components_of_isName hchild, ← components_append_slash,
        List.append_assoc]
      rfl
    · rw [← hstart, List.append_assoc, startsWith_slash_append (normal_ne_nil parent)]

theorem components_inside (parent : Text) (hchild : IsName child) :
    components (inside parent child) = components parent ++ [child] := by
  obtain ⟨t, ht, hcomponents, -⟩ := inside_eq parent hchild
  rw [ht, components_normal, hcomponents]

theorem startsWith_slash_inside (parent : Text) (hchild : IsName child) :
    Text.startsWith (inside parent child) "/" = Text.startsWith parent "/" := by
  obtain ⟨t, ht, -, hstart⟩ := inside_eq parent hchild
  rw [ht, startsWith_slash_normal, hstart]

end FilePath

namespace Disk

open FilePath (components)

variable {d e : Disk} {place other : List Text} {names rest : List Text} {path : Text}
  {bytes : Bytes}

/-! ## Where names lead -/

/-- The folders on a disk are folders on another one. -/
def KeepsFolders (d e : Disk) : Prop := ∀ p, d.isFolder p = true → e.isFolder p = true

theorem KeepsFolders.refl (d : Disk) : KeepsFolders d d := fun _ h => h

theorem KeepsFolders.trans {f : Disk} (h : KeepsFolders d e) (k : KeepsFolders e f) :
    KeepsFolders d f := fun p hp => k p (h p hp)

/-- Names that lead to a place go on leading there. -/
theorem follow_mono (hkeep : KeepsFolders d e) (h : d.follow place names = .ok other) :
    e.follow place names = .ok other := by
  fun_induction d.follow place names with
  | case1 place => exact h
  | case2 place rest ih => rw [follow, if_pos rfl, ih h]
  | case3 => cases h
  | case4 place name rest hup hlong hfolder ih =>
    have hfolder' : (rest.isEmpty || e.isFolder (place ++ [name])) = true := by
      rw [Bool.or_eq_true] at hfolder ⊢
      exact hfolder.imp id (hkeep _)
    rw [follow, if_neg hup, if_neg hlong, if_pos hfolder', ih h]
  | case5 => cases h
  | case6 => cases h

/-- Behind a folder, names lead on from there. -/
theorem follow_append (h : d.follow place names = .ok other) (hfolder : d.isFolder other = true)
    (rest : List Text) : d.follow place (names ++ rest) = d.follow other rest := by
  fun_induction d.follow place names with
  | case1 place =>
    cases h
    rfl
  | case2 place names ih => rw [List.cons_append, follow, if_pos rfl, ih h]
  | case3 => cases h
  | case4 place name names hup hlong hway ih =>
    have hon : ((names ++ rest).isEmpty || d.isFolder (place ++ [name])) = true := by
      rw [Bool.or_eq_true] at hway ⊢
      rcases hway with hnone | hway
      · rw [List.isEmpty_iff.1 hnone, follow] at h
        cases h
        exact Or.inr hfolder
      · exact Or.inr hway
    rw [List.cons_append, follow, if_neg hup, if_neg hlong, if_pos hon, ih h]
  | case5 => cases h
  | case6 => cases h

/-- A name at the end is the last of the place. -/
theorem follow_concat {name : Text} (h : d.follow place (names ++ [name]) = .ok other)
    (hup : name ≠ "..") : ∃ folder, other = folder ++ [name] := by
  induction names generalizing place with
  | nil =>
    rw [List.nil_append, follow, if_neg hup] at h
    split at h
    · cases h
    · rw [List.isEmpty_nil, Bool.true_or, if_pos rfl, follow] at h
      cases h
      exact ⟨place, rfl⟩
  | cons first names ih =>
    rw [List.cons_append, follow] at h
    split at h
    · exact ih h
    · split_ifs at h with hlong hway hfile
      exact ih h

/-- Names that do not lead upwards lead to what they name. -/
theorem follow_eq_append (h : d.follow place names = .ok other) (hup : (".." : Text) ∉ names) :
    other = place ++ names := by
  fun_induction d.follow place names with
  | case1 place =>
    cases h
    exact (List.append_nil _).symm
  | case2 => exact absurd (List.mem_cons_self ..) hup
  | case3 => cases h
  | case4 place name rest _ _ _ ih =>
    rw [ih h fun hmem => hup (List.mem_cons_of_mem _ hmem), List.append_assoc,
      List.singleton_append]
  | case5 => cases h
  | case6 => cases h

theorem locate_eq_ok : d.locate path = .ok place ↔
    FilePath.isTooLong path = false ∧ d.follow (d.start path) (components path) = .ok place := by
  rw [locate]
  split
  · next hlong => simp [hlong]
  · next hlong => simp [hlong]

theorem start_congr {path' : Text} (hhome : e.home = d.home)
    (h : Text.startsWith path' "/" = Text.startsWith path "/") : e.start path' = d.start path := by
  rw [start, start, hhome, h]

/-- A path that leads to a place goes on leading there. -/
theorem locate_mono (hkeep : KeepsFolders d e) (hhome : e.home = d.home)
    (h : d.locate path = .ok place) : e.locate path = .ok place := by
  rw [locate_eq_ok] at h ⊢
  rw [start_congr hhome rfl]
  exact ⟨h.1, follow_mono hkeep h.2⟩

/-! ## Making folders -/

/-- A disk with more folders and the same files, none of which has become a folder. -/
structure Grows (d e : Disk) : Prop where
  home : e.home = d.home
  files : e.files = d.files
  folders : KeepsFolders d e
  isFolder_file : ∀ p, (d.file? p).isSome = true → e.isFolder p = d.isFolder p

theorem Grows.refl (d : Disk) : Grows d d := ⟨rfl, rfl, KeepsFolders.refl d, fun _ _ => rfl⟩

theorem Grows.file? (h : Grows d e) (p : List Text) : e.file? p = d.file? p := by
  rw [Disk.file?, Disk.file?, h.files]

theorem Grows.trans {f : Disk} (h : Grows d e) (k : Grows e f) : Grows d f where
  home := k.home.trans h.home
  files := k.files.trans h.files
  folders := h.folders.trans k.folders
  isFolder_file p hp := (k.isFolder_file p ((h.file? p).symm ▸ hp)).trans (h.isFolder_file p hp)

/-- One more folder. -/
theorem isFolder_addFolder (d : Disk) (place p : List Text) :
    ({ d with folders := d.folders ++ [place] } : Disk).isFolder p =
      (d.isFolder p || decide (p = place)) := by
  simp [isFolder, Bool.or_assoc]

theorem grows_addFolder (hnone : (d.file? place).isSome = false) :
    Grows d { d with folders := d.folders ++ [place] } where
  home := rfl
  files := rfl
  folders p hp := by rw [isFolder_addFolder, hp, Bool.true_or]
  isFolder_file p hp := by
    have hne : p ≠ place := fun h => by rw [h, hnone] at hp; cases hp
    rw [isFolder_addFolder, decide_eq_false hne, Bool.or_false]

theorem grows_of_makeFrom (h : d.makeFrom place names = .ok e) : Grows d e := by
  fun_induction d.makeFrom place names with
  | case1 => cases h; exact Grows.refl _
  | case2 d place rest ih => exact ih h
  | case3 => cases h
  | case4 d place name rest hup hlong hfolder ih => exact ih h
  | case5 => cases h
  | case6 d place name rest hup hlong hfolder hfile ih =>
    exact (grows_addFolder ((Bool.not_eq_true _).mp hfile)).trans (ih h)

/-- What was made once is there for good. -/
theorem makeFrom_again {f : Disk} (h : d.makeFrom place names = .ok e) (hkeep : KeepsFolders e f) :
    f.makeFrom place names = .ok f := by
  fun_induction d.makeFrom place names with
  | case1 => rfl
  | case2 d place rest ih => rw [makeFrom, if_pos rfl, ih h]
  | case3 => cases h
  | case4 d place name rest hup hlong hfolder ih =>
    have hthere : f.isFolder (place ++ [name]) = true :=
      hkeep _ ((grows_of_makeFrom h).folders _ hfolder)
    rw [makeFrom, if_neg hup, if_neg hlong, if_pos hthere, ih h]
  | case5 => cases h
  | case6 d place name rest hup hlong hfolder hfile ih =>
    have hthere : f.isFolder (place ++ [name]) = true := by
      refine hkeep _ ((grows_of_makeFrom h).folders _ ?_)
      rw [isFolder_addFolder, decide_eq_true rfl, Bool.or_true]
    rw [makeFrom, if_neg hup, if_neg hlong, if_pos hthere, ih h]

/-- More names are made from where the first ones lead. -/
theorem makeFrom_append (h : d.makeFrom place names = .ok e)
    (hfollow : e.follow place names = .ok other) (rest : List Text) :
    d.makeFrom place (names ++ rest) = e.makeFrom other rest := by
  fun_induction d.makeFrom place names with
  | case1 =>
    cases h
    cases hfollow
    rfl
  | case2 d place names ih =>
    rw [follow, if_pos rfl] at hfollow
    rw [List.cons_append, makeFrom, if_pos rfl, ih h hfollow]
  | case3 => cases h
  | case4 d place name names hup hlong hfolder ih =>
    have hway : (names.isEmpty || e.isFolder (place ++ [name])) = true := by
      rw [(grows_of_makeFrom h).folders _ hfolder, Bool.or_true]
    rw [follow, if_neg hup, if_neg hlong, if_pos hway] at hfollow
    rw [List.cons_append, makeFrom, if_neg hup, if_neg hlong, if_pos hfolder, ih h hfollow]
  | case5 => cases h
  | case6 d place name names hup hlong hfolder hfile ih =>
    have hmade : e.isFolder (place ++ [name]) = true := by
      refine (grows_of_makeFrom h).folders _ ?_
      rw [isFolder_addFolder, decide_eq_true rfl, Bool.or_true]
    have hway : (names.isEmpty || e.isFolder (place ++ [name])) = true := by
      rw [hmade, Bool.or_true]
    rw [follow, if_neg hup, if_neg hlong, if_pos hway] at hfollow
    rw [List.cons_append, makeFrom, if_neg hup, if_neg hlong, if_neg hfolder, if_neg hfile,
      ih h hfollow]

/-- Making one folder makes that one only. -/
theorem isFolder_of_makeFrom_singleton {name : Text} (h : d.makeFrom place [name] = .ok e)
    (hup : name ≠ "..") (p : List Text) :
    e.isFolder p = (d.isFolder p || decide (p = place ++ [name])) := by
  rw [makeFrom, if_neg hup] at h
  split at h
  · cases h
  split at h
  · next hfolder =>
    cases h
    by_cases hp : p = place ++ [name]
    · rw [hp, hfolder, Bool.true_or]
    · rw [decide_eq_false hp, Bool.or_false]
  split at h
  · cases h
  · cases h
    exact isFolder_addFolder d (place ++ [name]) p

theorem makeFolders_eq_ok : d.makeFolders path = .ok e ↔
    FilePath.isTooLong path = false ∧ d.makeFrom (d.start path) (components path) = .ok e := by
  rw [makeFolders]
  split
  · next hlong => simp [hlong, fail]
  · next hlong => cases hmake : d.makeFrom (d.start path) (components path) <;> simp [hlong, fail]

theorem grows_of_makeFolders (h : d.makeFolders path = .ok e) : Grows d e :=
  grows_of_makeFrom (makeFolders_eq_ok.1 h).2

theorem makeFolders_again {f : Disk} (h : d.makeFolders path = .ok e) (hkeep : KeepsFolders e f)
    (hhome : f.home = e.home) : f.makeFolders path = .ok f := by
  rw [makeFolders_eq_ok] at h ⊢
  rw [start_congr (hhome.trans (grows_of_makeFrom h.2).home) rfl]
  exact ⟨h.1, makeFrom_again h.2 hkeep⟩

/-! ## Reading and writing -/

theorem read_eq_ok : d.read path = .ok bytes ↔
    ∃ place, d.locate path = .ok place ∧ d.isFolder place = false ∧
      d.file? place = some bytes := by
  rw [read]
  cases hplace : d.locate path with
  | error fault => simp [fail]
  | ok place =>
    cases hfolder : d.isFolder place with
    | true => simp [fail, hfolder]
    | false => cases hfile : d.file? place <;> simp [fail, hfolder, hfile]

/-- The disk with other bytes at a place. -/
def putAt (d : Disk) (place : List Text) (bytes : Bytes) : Disk :=
  { d with files := putFile place bytes d.files }

theorem keepsFolders_putAt (d : Disk) (place : List Text) (bytes : Bytes) :
    KeepsFolders d (d.putAt place bytes) := fun _ h => h

@[simp] theorem file?_putAt (d : Disk) (place p : List Text) (bytes : Bytes) :
    (d.putAt place bytes).file? p = if p = place then some bytes else d.file? p :=
  lookup_putFile place p bytes d.files

theorem write_eq_ok : d.write path bytes = .ok e ↔
    ∃ place, d.locate path = .ok place ∧ d.isFolder place = false ∧ e = d.putAt place bytes := by
  rw [write]
  cases hplace : d.locate path with
  | error fault => simp [fail]
  | ok place =>
    cases hfolder : d.isFolder place with
    | true => simp [fail, hfolder]
    | false => simp [putAt, hfolder, @eq_comm _ e]

theorem append_eq_ok : d.append path bytes = .ok e ↔
    ∃ place, d.locate path = .ok place ∧ d.isFolder place = false ∧
      e = d.putAt place ((d.file? place).getD [] ++ bytes) := by
  rw [append]
  cases hplace : d.locate path with
  | error fault => simp [fail]
  | ok place =>
    cases hfolder : d.isFolder place with
    | true => simp [fail, hfolder]
    | false => simp [putAt, hfolder, @eq_comm _ e]

theorem exists?_eq_false : d.exists? path = false ↔
    ∀ place, d.locate path = .ok place →
      d.isFolder place = false ∧ d.file? place = none := by
  rw [exists?]
  cases hplace : d.locate path with
  | error fault => simp
  | ok place => simp

/-- The disk without the file at a place. -/
def removeAt (d : Disk) (place : List Text) : Disk :=
  { d with files := d.files.filter fun f => f.1 ≠ place }

@[simp] theorem file?_removeAt (d : Disk) (place p : List Text) :
    (d.removeAt place).file? p = if p = place then none else d.file? p := by
  have hlookup (files : List (List Text × Bytes)) :
      (files.filter fun f => f.1 ≠ place).lookup p =
        if p = place then none else files.lookup p := by
    induction files with
    | nil => simp
    | cons f files ih =>
      obtain ⟨q, bytes⟩ := f
      rw [List.filter_cons, lookup_cons_file]
      by_cases hq : q = place
      · subst hq
        simp only [ne_eq, not_true_eq_false, decide_false, Bool.false_eq_true, if_false, ih]
        split <;> rfl
      · simp only [ne_eq, hq, not_false_eq_true, decide_true, if_true, lookup_cons_file, ih]
        split
        · next hp => rw [if_neg fun e => hq (hp.symm.trans e)]
        · rfl
  exact hlookup d.files

/-- Only folders and the working folder count for where paths lead. -/
theorem locate_congr (hfolders : ∀ p, e.isFolder p = d.isFolder p) (hhome : e.home = d.home) :
    e.locate path = .ok place ↔ d.locate path = .ok place := by
  constructor
  · exact locate_mono (fun p hp => (hfolders p).symm.trans hp) hhome.symm
  · exact locate_mono (fun p hp => (hfolders p).trans hp) hhome

@[simp] theorem locate_putAt (d : Disk) (q : List Text) (bytes : Bytes) :
    (d.putAt q bytes).locate path = .ok place ↔ d.locate path = .ok place :=
  locate_congr (fun _ => rfl) rfl

@[simp] theorem locate_removeAt (d : Disk) (q : List Text) :
    (d.removeAt q).locate path = .ok place ↔ d.locate path = .ok place :=
  locate_congr (fun _ => rfl) rfl

theorem rename_eq_ok {target : Text} : d.rename path target = .ok e ↔
    ∃ place other bytes, d.locate path = .ok place ∧ d.isFolder place = false ∧
      d.file? place = some bytes ∧ d.locate target = .ok other ∧ d.isFolder other = false ∧
      e = (d.putAt other bytes).removeAt place := by
  rw [rename]
  constructor
  · intro h
    obtain ⟨bytes, hread, h⟩ := Step.bind_eq_ok.1 h
    obtain ⟨f, hwrite, h⟩ := Step.bind_eq_ok.1 h
    obtain ⟨place, hplace, hfolder, hfile⟩ := read_eq_ok.1 hread
    obtain ⟨other, hother, hfolder', rfl⟩ := write_eq_ok.1 hwrite
    rw [(locate_putAt d other bytes).2 hplace] at h
    cases h
    exact ⟨place, other, bytes, hplace, hfolder, hfile, hother, hfolder', rfl⟩
  · rintro ⟨place, other, bytes, hplace, hfolder, hfile, hother, hfolder', rfl⟩
    have hread : d.read path = .ok bytes := read_eq_ok.2 ⟨place, hplace, hfolder, hfile⟩
    have hwrite : d.write target bytes = .ok (d.putAt other bytes) :=
      write_eq_ok.2 ⟨other, hother, hfolder', rfl⟩
    refine Step.bind_eq_ok.2 ⟨bytes, hread, Step.bind_eq_ok.2 ⟨_, hwrite, ?_⟩⟩
    rw [(locate_putAt d other bytes).2 hplace]
    rfl

end Disk

end Decouple
