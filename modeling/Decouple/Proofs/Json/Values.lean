import Decouple.Proofs.Json.Numbers
import Decouple.Proofs.Json.Strings

/-!
# Reading a written value

A value that `Fits` has the shape of what reading gives: each name once in an object, integers of
few enough digits, rounded reals, and no more levels than are read.  Such a value is read again
after it has been written (`valueFrom_writeAt`), with the real numbers as they are read from their
shortest decimals (`reread`).  The converse, that reading gives values that fit, is
`fits_of_valueFrom`.
-/

namespace Decouple

/-- The number that the written form of a number is read as. -/
def Binary64.reread (x : Binary64) : Binary64 :=
  match Json.number? (DecimalLayout.json.render x) with
  | some (.ok (.real y, _)) => y
  | _ => x

namespace Json

variable {style : JsonStyle} {S : Text → Prop} {levels most : Nat} {j : Json}

/-- A value as reading gives it, with texts of which `S` holds. -/
inductive Fits (S : Text → Prop) : Nat → Json → Prop
  | null {levels : Nat} : Fits S levels null
  | bool {levels : Nat} (b : Bool) : Fits S levels (bool b)
  | int {levels : Nat} {k : Int} (small : k.natAbs < 10 ^ Reading.maxDigits) : Fits S levels (int k)
  | real {levels : Nat} {x : Binary64} (rounded : x.IsRounded) : Fits S levels (real x)
  | string {levels : Nat} {t : Text} (text : S t) : Fits S levels (string t)
  | array {levels : Nat} {items : List Json} (fits : ∀ j ∈ items, Fits S levels j) :
      Fits S (levels + 1) (array items)
  | object {levels : Nat} {members : List (Text × Json)} (names : (members.map Prod.fst).Nodup)
      (texts : ∀ m ∈ members, S m.1) (fits : ∀ m ∈ members, Fits S levels m.2) :
      Fits S (levels + 1) (object members)

mutual

/-- The value that the written form of a value is read as. -/
def reread : Json → Json
  | null => null
  | bool b => bool b
  | int k => int k
  | real x => real x.reread
  | string t => string t
  | array items => array (rereadItems items)
  | object members => object (rereadMembers members)

/-- The items of an array as they are read again. -/
def rereadItems : List Json → List Json
  | [] => []
  | j :: rest => reread j :: rereadItems rest

/-- The members of an object as they are read again. -/
def rereadMembers : List (Text × Json) → List (Text × Json)
  | [] => []
  | (n, j) :: rest => (n, reread j) :: rereadMembers rest

end

theorem rereadItems_eq_map (items : List Json) : rereadItems items = items.map reread := by
  induction items with
  | nil => rfl
  | cons j items ih => rw [rereadItems, ih, List.map_cons]

theorem rereadMembers_eq_map (members : List (Text × Json)) :
    rereadMembers members = members.map fun m => (m.1, reread m.2) := by
  induction members with
  | nil => rfl
  | cons m members ih => rw [rereadMembers, ih, List.map_cons]

/-! ## Values that hold no others -/

/-- A style in which texts of which `S` holds are read as they were. -/
def ReadsTexts (style : JsonStyle) (S : Text → Prop) : Prop :=
  ∀ t, S t → ∀ opened offset tail, ∃ offset', stringFrom opened 0
    (t.flatMap (writeCodePoint style) ++ CodePoint.ofChar '"' :: tail) offset [] =
      .ok (t, ⟨tail, offset'⟩)

/-- A text that starts with a number. -/
def StartsNumber (t : Text) : Prop :=
  ∃ d rest, d.isDigit = true ∧ (t = d :: rest ∨ t = CodePoint.ofChar '-' :: d :: rest)

theorem StartsNumber.append {t : Text} (h : StartsNumber t) (tail : Text) :
    StartsNumber (t ++ tail) := by
  obtain ⟨d, rest, hd, rfl | rfl⟩ := h
  · exact ⟨d, rest ++ tail, hd, .inl rfl⟩
  · exact ⟨d, rest ++ tail, hd, .inr rfl⟩

theorem startsNumber_run {run : Text} (negative : Bool) (h : Numeral.IsRun run) :
    StartsNumber (signText negative ++ run) := by
  obtain ⟨d, rest, rfl⟩ := List.exists_cons_of_ne_nil h.ne_nil
  refine ⟨d, rest, h.digits d (List.mem_cons_self ..), ?_⟩
  cases negative with
  | false => exact .inl rfl
  | true => exact .inr rfl

/-- A digit is none of some code points that are no digits. -/
theorem ne_of_isDigit {d c : CodePoint} (hd : d.isDigit = true) (hc : c.isDigit = false) : c ≠ d := by
  rintro rfl
  rw [hd] at hc
  cases hc

theorem StartsNumber.startsToken {t : Text} (h : StartsNumber t) : StartsToken t := by
  obtain ⟨d, rest, hd, rfl | rfl⟩ := h
  · have hne : ∀ c : CodePoint, c.isDigit = false → d ≠ c := fun c hc => (ne_of_isDigit hd hc).symm
    have hascii : d.isAscii = true := by
      simp only [CodePoint.isDigit, CodePoint.isAscii, Bool.and_eq_true, decide_eq_true_eq] at *
      omega
    refine ⟨d, rest, rfl, ?_⟩
    simp [opens, isSpace, hascii, hne _ (show (CodePoint.ofChar ' ').isDigit = false by decide),
      hne _ (show (CodePoint.ofChar '\t').isDigit = false by decide),
      hne _ (show (CodePoint.ofChar '\n').isDigit = false by decide),
      hne _ (show (CodePoint.ofChar '\r').isDigit = false by decide),
      hne _ (show (CodePoint.ofChar ']').isDigit = false by decide),
      hne _ (show (CodePoint.ofChar '\x7d').isDigit = false by decide)]
  · exact ⟨_, _, rfl, by decide⟩

theorem valueFrom_of_holderAt? {cur : Cursor} (h : holderAt? cur = none) :
    valueFrom most levels cur = plainFrom cur := by
  cases levels <;> simp only [valueFrom, h]

/-- What a text that is not empty may be when a number starts with it. -/
def mayStartNumber : Text → Bool
  | [] => true
  | c :: rest => c.isDigit || (c = '-' && rest.head?.all CodePoint.isDigit)

theorem StartsNumber.mayStartNumber_of_prefix {t head : Text} (h : StartsNumber t)
    (hhead : head <+: t) : mayStartNumber head = true := by
  obtain ⟨d, rest, hd, hcases⟩ := h
  obtain ⟨tail, ht⟩ := hhead
  rw [← ht] at hcases
  match head with
  | [] => rfl
  | [c] =>
    rcases hcases with hcases | hcases <;> obtain ⟨rfl, -⟩ := List.cons.inj hcases
    · simp [mayStartNumber, hd]
    · rfl
  | c :: c' :: head =>
    rcases hcases with hcases | hcases <;> obtain ⟨rfl, hnext⟩ := List.cons.inj hcases
    · simp [mayStartNumber, hd]
    · obtain ⟨rfl, -⟩ := List.cons.inj hnext
      simp [mayStartNumber, hd]

/-- No named value stands where a number starts. -/
theorem StartsNumber.find?_namedValues {t : Text} (h : StartsNumber t) :
    (namedValues.find? fun (name, _) => name.isPrefixOf t) = none := by
  have hall : ∀ p ∈ namedValues, mayStartNumber p.1 = false := by decide
  rw [List.find?_eq_none]
  intro p hp hstart
  have := h.mayStartNumber_of_prefix (List.isPrefixOf_iff_prefix.1 hstart)
  rw [hall p hp] at this
  cases this

theorem StartsNumber.holderAt? {t : Text} (h : StartsNumber t) (offset : Nat) :
    holderAt? ⟨t, offset⟩ = none := by
  obtain ⟨d, rest, hd, rfl | rfl⟩ := h
  · simp [Json.holderAt?, (ne_of_isDigit (c := '[') hd (by decide)).symm,
      (ne_of_isDigit (c := '\x7b') hd (by decide)).symm]
  · rfl

theorem StartsNumber.head_ne_quote {t : Text} (h : StartsNumber t) :
    ∃ c rest, t = c :: rest ∧ c ≠ '"' := by
  obtain ⟨d, rest, hd, rfl | rfl⟩ := h
  · exact ⟨d, rest, rfl, (ne_of_isDigit hd (by decide)).symm⟩
  · exact ⟨_, _, rfl, by decide⟩

/-- A number is the value where it starts. -/
theorem StartsNumber.valueFrom_eq {t tail : Text} {value : Json} (h : StartsNumber t)
    (hnumber : number? (t ++ tail) = some (.ok (value, t.length))) (offset : Nat) :
    valueFrom most levels ⟨t ++ tail, offset⟩ = .ok (value, ⟨tail, offset + t.length⟩) := by
  have htail := h.append tail
  obtain ⟨c, rest, ht, hc⟩ := htail.head_ne_quote
  have hnames := htail.find?_namedValues
  rw [valueFrom_of_holderAt? (htail.holderAt? offset), plainFrom]
  dsimp only
  rw [ht] at hnames hnumber ⊢
  simp only [if_neg hc, hnames, hnumber]
  rw [← ht, Cursor.skip, List.drop_left]

theorem number_takes {t : Text} {value : Json} (h : StartsNumber t)
    (hnumber : ∀ tail, Stops tail → number? (t ++ tail) = some (.ok (value, t.length))) :
    Takes (valueFrom most levels) t value := fun tail htail offset =>
  ⟨_, h.valueFrom_eq (hnumber tail htail) offset⟩

theorem startsNumber_ofInt (k : Int) : StartsNumber (Text.ofInt k) := by
  rw [ofInt_eq]
  exact startsNumber_run _ (isWhole_ofNat _).isRun

theorem ofInt_takes {k : Int} (hk : k.natAbs < 10 ^ Reading.maxDigits) :
    Takes (valueFrom most levels) (Text.ofInt k) (int k) :=
  number_takes (startsNumber_ofInt k) fun _ htail => number?_ofInt hk htail

theorem startsNumber_numeral {n : Numeral} (h : n.IsProper) (negative : Bool) :
    StartsNumber (signText negative ++ n.text) := by
  rw [Numeral.text, List.append_assoc, ← List.append_assoc]
  exact (startsNumber_run negative h.whole.isRun).append _

/-- A rounded number is taken off as the number that its written form is read as. -/
theorem render_takes {x : Binary64} (h : x.IsRounded) :
    Takes (valueFrom most levels) (DecimalLayout.json.render x) (real x.reread) := by
  cases x with
  | nan => exact fun tail _ offset => ⟨_, (valueFrom_of_holderAt? rfl).trans rfl⟩
  | infinite negative =>
    cases negative <;> exact fun tail _ offset => ⟨_, (valueFrom_of_holderAt? rfl).trans rfl⟩
  | finite negative m e =>
    obtain ⟨n, y, hproper, htext, hnumber⟩ := exists_number?_render h
    have hreread : (Binary64.finite negative m e).reread = y := by
      have hwhole := hnumber [] stops_nil
      rw [List.append_nil] at hwhole
      rw [Binary64.reread, hwhole]
    rw [hreread]
    refine number_takes ?_ hnumber
    rw [htext]
    exact startsNumber_numeral hproper negative

/-- A string is taken off as the text that it is read as. -/
theorem writeString_takes {t u : Text} (h : ∀ opened offset tail, ∃ offset', stringFrom opened 0
    (t.flatMap (writeCodePoint style) ++ CodePoint.ofChar '"' :: tail) offset [] =
      .ok (u, ⟨tail, offset'⟩)) :
    Takes (valueFrom most levels) (writeString style t) (string u) := by
  intro tail _ offset
  obtain ⟨offset', hread⟩ := h offset (offset + 1) tail
  refine ⟨offset', ?_⟩
  have hholder : holderAt? ⟨writeString style t ++ tail, offset⟩ = none := by
    rw [writeString_append]
    rfl
  rw [valueFrom_of_holderAt? hholder, writeString_append]
  simp only [plainFrom, if_true, hread]
  rfl

/-! ## How values start -/

theorem startsToken_writeAt (h : Fits S levels j) (depth : Nat) :
    StartsToken (writeAt style depth j) := by
  cases h with
  | null => exact ⟨_, _, rfl, by decide⟩
  | bool b => cases b <;> exact ⟨_, _, rfl, by decide⟩
  | int small =>
    rw [writeAt]
    exact (startsNumber_ofInt _).startsToken
  | @real _ x rounded =>
    rw [writeAt]
    cases x with
    | nan => exact ⟨_, _, rfl, by decide⟩
    | infinite negative => cases negative <;> exact ⟨_, _, rfl, by decide⟩
    | finite negative m e =>
      obtain ⟨n, -, hproper, htext, -⟩ := exists_number?_render rounded
      rw [htext]
      exact (startsNumber_numeral hproper negative).startsToken
  | string text => exact ⟨_, _, rfl, by decide⟩
  | @array _ items fits =>
    cases items with
    | nil => exact ⟨_, _, rfl, by decide⟩
    | cons j items => exact ⟨_, _, rfl, by decide⟩
  | @object _ members names texts fits =>
    cases members with
    | nil => exact ⟨_, _, rfl, by decide⟩
    | cons m members => exact ⟨_, _, rfl, by decide⟩

/-! ## Arrays and objects -/

theorem areSpaces_newLine (style : JsonStyle) (depth : Nat) : AreSpaces (newLine style depth) := by
  rw [newLine]
  split
  · decide
  · intro c hc
    rcases List.mem_append.1 hc with hc | hc
    · rw [List.mem_singleton.1 hc]
      rfl
    · rw [List.eq_of_mem_replicate hc]
      rfl

theorem exists_itemSeparator (style : JsonStyle) (depth : Nat) :
    ∃ gap, AreSpaces gap ∧ itemSeparator style depth = CodePoint.ofChar ',' :: gap := by
  rw [itemSeparator]
  split
  · split
    · exact ⟨Text.ofString " ", by decide, rfl⟩
    · exact ⟨[], by decide, rfl⟩
  · exact ⟨newLine style depth, areSpaces_newLine style depth, rfl⟩

theorem writeItems_eq_join (style : JsonStyle) (depth : Nat) (items : List Json) :
    writeItems style depth items =
      Text.join (itemSeparator style depth) (items.map (writeAt style depth)) := by
  induction items with
  | nil => rfl
  | cons j items ih =>
    cases items with
    | nil => rfl
    | cons k items =>
      have hrest : (k :: items).map (writeAt style depth) ≠ [] := List.cons_ne_nil _ _
      have hjoin := Text.join_cons (itemSeparator style depth) (writeAt style depth j) hrest
      rw [writeItems, ih, ← hjoin]
      · rfl
      · exact List.cons_ne_nil _ _

theorem writeMembers_map_snd (style : JsonStyle) (depth : Nat) (members : List (Text × Json)) :
    (writeMembers style depth members).map Prod.snd =
      members.map fun m => writeString style m.1 ++ nameSeparator style ++ writeAt style depth m.2 := by
  induction members with
  | nil => rfl
  | cons m members ih => rw [writeMembers, List.map_cons, List.map_cons, ih]

/-- What is joined is as long as it has parts, if none is empty. -/
theorem length_le_length_join (sep : Text) {parts : List Text} (h : ∀ p ∈ parts, p ≠ []) :
    parts.length ≤ (Text.join sep parts).length := by
  induction parts with
  | nil => exact Nat.le_refl _
  | cons p parts ih =>
    rw [List.forall_mem_cons] at h
    have hp := List.length_pos_iff.2 h.1
    have hparts := ih h.2
    cases parts with
    | nil => exact hp
    | cons q parts =>
      rw [Text.join_cons _ _ (List.cons_ne_nil _ _)]
      simp only [List.length_cons, List.length_append] at *
      omega

/-- What is joined is as long as each of its parts. -/
theorem length_le_of_mem_join (sep : Text) {parts : List Text} {p : Text} (h : p ∈ parts) :
    p.length ≤ (Text.join sep parts).length := by
  induction parts with
  | nil => cases h
  | cons q parts ih =>
    cases parts with
    | nil => rw [List.mem_singleton.1 h]; exact Nat.le_refl _
    | cons r parts =>
      rw [Text.join_cons _ _ (List.cons_ne_nil _ _)]
      simp only [List.length_append]
      rcases List.mem_cons.1 h with rfl | h
      · omega
      · have := ih h
        omega

/-! ## Values -/

/-- The items of an array with what they are read as. -/
def itemsOf (style : JsonStyle) (depth : Nat) (items : List Json) : List Item :=
  items.map fun j => ⟨writeAt style depth j, j.reread⟩

/-- The members of an object with what their values are read as. -/
def memberItemsOf (style : JsonStyle) (depth : Nat) (members : List (Text × Json)) :
    List MemberItem :=
  members.map fun m => ⟨m.1, writeAt style depth m.2, m.2.reread⟩

theorem writeAt_array (style : JsonStyle) (depth : Nat) {items : List Json} (hne : items ≠ [])
    (tail : Text) :
    writeAt style depth (array items) ++ tail = CodePoint.ofChar '[' ::
      (newLine style (depth + 1) ++ (Text.join (itemSeparator style (depth + 1))
        ((itemsOf style (depth + 1) items).map Item.text) ++
          (newLine style depth ++ CodePoint.ofChar ']' :: tail))) := by
  have htexts : (itemsOf style (depth + 1) items).map Item.text =
      items.map (writeAt style (depth + 1)) := List.map_map
  cases items with
  | nil => exact absurd rfl hne
  | cons j items =>
    rw [writeAt, writeItems_eq_join, htexts]
    simp only [List.append_assoc]
    rfl

theorem writeAt_object (hsort : style.sortMembers = false) (depth : Nat)
    {members : List (Text × Json)} (hne : members ≠ []) (tail : Text) :
    writeAt style depth (object members) ++ tail = CodePoint.ofChar '\x7b' ::
      (newLine style (depth + 1) ++ (Text.join (itemSeparator style (depth + 1))
        ((memberItemsOf style (depth + 1) members).map (MemberItem.text style)) ++
          (newLine style depth ++ CodePoint.ofChar '\x7d' :: tail))) := by
  have htexts : (memberItemsOf style (depth + 1) members).map (MemberItem.text style) =
      (writeMembers style (depth + 1) members).map Prod.snd := by
    rw [writeMembers_map_snd, memberItemsOf, List.map_map]
    rfl
  cases members with
  | nil => exact absurd rfl hne
  | cons m members =>
    rw [writeAt, hsort, if_neg Bool.false_ne_true, htexts]
    simp only [List.append_assoc]
    rfl

/-- After an opening bracket the items are read. -/
theorem valueFrom_array {blank t : Text} (hblank : AreSpaces blank) (h : StartsToken t)
    (offset : Nat) :
    valueFrom most (levels + 1) ⟨CodePoint.ofChar '[' :: (blank ++ t), offset⟩ =
      itemsFrom (valueFrom most levels) most [] ⟨t, offset + 1 + blank.length⟩ := by
  have hholder : holderAt? ⟨CodePoint.ofChar '[' :: (blank ++ t), offset⟩ = some .array := rfl
  rw [valueFrom, hholder, skip_cons, skipSpace_token hblank h]
  dsimp only
  rw [(h.not_sees _).1, if_neg Bool.false_ne_true]

/-- After an opening brace the members are read. -/
theorem valueFrom_object {blank t : Text} (hblank : AreSpaces blank) (h : StartsToken t)
    (offset : Nat) :
    valueFrom most (levels + 1) ⟨CodePoint.ofChar '\x7b' :: (blank ++ t), offset⟩ =
      membersFrom (valueFrom most levels) most [] ⟨t, offset + 1 + blank.length⟩ := by
  have hholder : holderAt? ⟨CodePoint.ofChar '\x7b' :: (blank ++ t), offset⟩ = some .object := rfl
  rw [valueFrom, hholder, skip_cons, skipSpace_token hblank h]
  dsimp only
  rw [(h.not_sees _).2, if_neg Bool.false_ne_true]

/-- An array is taken off when its items are. -/
theorem array_takes {items : List Json} {depth : Nat}
    (hitems : ∀ j ∈ items, Item.IsTaken (valueFrom most levels)
      ⟨writeAt style (depth + 1) j, j.reread⟩)
    (hmost : items.length ≤ most) :
    Takes (valueFrom most (levels + 1)) (writeAt style depth (array items))
      (array items).reread := by
  by_cases hne : items = []
  · subst hne
    exact fun tail _ offset => ⟨_, rfl⟩
  intro tail _ offset
  obtain ⟨gap, hgap, hseparator⟩ := exists_itemSeparator style (depth + 1)
  have hwritten := writeAt_array style depth hne tail
  have hvalues : (itemsOf style (depth + 1) items).map Item.value = rereadItems items := by
    rw [rereadItems_eq_map, itemsOf, List.map_map]
    rfl
  have htaken : ∀ i ∈ itemsOf style (depth + 1) items, i.IsTaken (valueFrom most levels) := by
    intro i hi
    obtain ⟨j, hj, rfl⟩ := List.mem_map.1 hi
    exact hitems j hj
  have hpartsne : itemsOf style (depth + 1) items ≠ [] := by simpa [itemsOf] using hne
  have hlength : (itemsOf style (depth + 1) items).length ≤ most := by simpa [itemsOf] using hmost
  generalize itemsOf style (depth + 1) items = parts at *
  have hstart : StartsToken (Text.join (CodePoint.ofChar ',' :: gap) (parts.map Item.text)) := by
    obtain ⟨i, rest, rfl⟩ := List.exists_cons_of_ne_nil hpartsne
    exact startsToken_join (htaken i (List.mem_cons_self ..)).token _
  obtain ⟨offset', hread⟩ := itemsFrom_join hgap (areSpaces_newLine style depth) hpartsne htaken
    hlength [] tail (offset + 1 + (newLine style (depth + 1)).length)
  refine ⟨offset', ?_⟩
  rw [hwritten, hseparator, valueFrom_array (areSpaces_newLine style _) (hstart.append _), hread,
    hvalues]
  rfl

/-- An object is taken off when the values of its members are and its names are read as they
were. -/
theorem object_takes (hsort : style.sortMembers = false) (hS : ReadsTexts style S)
    {members : List (Text × Json)} {depth : Nat} (hnames : (members.map Prod.fst).Nodup)
    (htexts : ∀ m ∈ members, S m.1)
    (hvalues : ∀ m ∈ members, Item.IsTaken (valueFrom most levels)
      ⟨writeAt style (depth + 1) m.2, m.2.reread⟩)
    (hmost : members.length ≤ most) :
    Takes (valueFrom most (levels + 1)) (writeAt style depth (object members))
      (object members).reread := by
  by_cases hne : members = []
  · subst hne
    exact fun tail _ offset => ⟨_, rfl⟩
  intro tail _ offset
  obtain ⟨gap, hgap, hseparator⟩ := exists_itemSeparator style (depth + 1)
  have hwritten := writeAt_object hsort depth hne tail
  have hmembers : (memberItemsOf style (depth + 1) members).map MemberItem.member =
      rereadMembers members := by
    rw [rereadMembers_eq_map, memberItemsOf, List.map_map]
    rfl
  have hnodup : ((memberItemsOf style (depth + 1) members).map MemberItem.name).Nodup := by
    rw [memberItemsOf, List.map_map]
    exact hnames
  have htaken : ∀ m ∈ memberItemsOf style (depth + 1) members,
      m.IsTaken style (valueFrom most levels) := by
    intro i hi
    obtain ⟨m, hm, rfl⟩ := List.mem_map.1 hi
    exact ⟨hvalues m hm, hS m.1 (htexts m hm)⟩
  have hpartsne : memberItemsOf style (depth + 1) members ≠ [] := by
    simpa [memberItemsOf] using hne
  have hlength : (memberItemsOf style (depth + 1) members).length ≤ most := by
    simpa [memberItemsOf] using hmost
  generalize memberItemsOf style (depth + 1) members = parts at *
  have hstart : StartsToken (Text.join (CodePoint.ofChar ',' :: gap)
      (parts.map (MemberItem.text style))) := by
    obtain ⟨m, rest, rfl⟩ := List.exists_cons_of_ne_nil hpartsne
    exact startsToken_join (startsToken_memberText m) _
  obtain ⟨offset', hread⟩ := membersFrom_join hgap (areSpaces_newLine style depth) hpartsne htaken
    hlength [] hnodup tail (offset + 1 + (newLine style (depth + 1)).length)
  refine ⟨offset', ?_⟩
  rw [hwritten, hseparator, valueFrom_object (areSpaces_newLine style _) (hstart.append _), hread,
    List.nil_append, hmembers]
  rfl

/-! ## Values -/

theorem ne_nil_of_startsToken {t : Text} (h : StartsToken t) : t ≠ [] := by
  obtain ⟨c, rest, rfl, -⟩ := h
  exact List.cons_ne_nil c rest

/-- The text of an array is as long as it has items, and as the text of each of them. -/
theorem length_writeAt_array (style : JsonStyle) (depth : Nat) {items : List Json}
    (h : ∀ j ∈ items, StartsToken (writeAt style (depth + 1) j)) :
    items.length ≤ (writeAt style depth (array items)).length ∧ ∀ j ∈ items,
      (writeAt style (depth + 1) j).length ≤ (writeAt style depth (array items)).length := by
  by_cases hne : items = []
  · subst hne
    exact ⟨Nat.zero_le _, fun j hj => by cases hj⟩
  have hwritten := congrArg List.length (writeAt_array style depth hne [])
  have htexts : (itemsOf style (depth + 1) items).map Item.text =
      items.map (writeAt style (depth + 1)) := List.map_map
  rw [htexts] at hwritten
  simp only [List.append_nil, List.length_cons, List.length_append] at hwritten
  have hne' : ∀ p ∈ items.map (writeAt style (depth + 1)), p ≠ [] := by
    intro p hp
    obtain ⟨j, hj, rfl⟩ := List.mem_map.1 hp
    exact ne_nil_of_startsToken (h j hj)
  have hparts := length_le_length_join (itemSeparator style (depth + 1)) hne'
  rw [List.length_map] at hparts
  refine ⟨by omega, fun j hj => ?_⟩
  have := length_le_of_mem_join (itemSeparator style (depth + 1))
    (List.mem_map_of_mem (f := writeAt style (depth + 1)) hj)
  omega

/-- The text of an object is as long as it has members, and as the text of each of their values. -/
theorem length_writeAt_object (hsort : style.sortMembers = false) (depth : Nat)
    (members : List (Text × Json)) :
    members.length ≤ (writeAt style depth (object members)).length ∧ ∀ m ∈ members,
      (writeAt style (depth + 1) m.2).length ≤ (writeAt style depth (object members)).length := by
  by_cases hne : members = []
  · subst hne
    exact ⟨Nat.zero_le _, fun j hj => by cases hj⟩
  have hwritten := congrArg List.length (writeAt_object hsort depth hne [])
  simp only [List.append_nil, List.length_cons, List.length_append] at hwritten
  have hne' : ∀ p ∈ (memberItemsOf style (depth + 1) members).map (MemberItem.text style),
      p ≠ [] := by
    intro p hp
    obtain ⟨m, -, rfl⟩ := List.mem_map.1 hp
    exact ne_nil_of_startsToken (startsToken_memberText m)
  have hparts := length_le_length_join (itemSeparator style (depth + 1)) hne'
  rw [List.length_map, memberItemsOf, List.length_map, ← memberItemsOf] at hparts
  refine ⟨by omega, fun m hm => ?_⟩
  have hmem : (⟨m.1, writeAt style (depth + 1) m.2, m.2.reread⟩ : MemberItem) ∈
      memberItemsOf style (depth + 1) members := List.mem_map_of_mem hm
  have htext := length_le_of_mem_join (itemSeparator style (depth + 1))
    (List.mem_map_of_mem (f := MemberItem.text style) hmem)
  simp only [MemberItem.text, List.length_append] at htext
  omega

/-- A written value that fits is taken off as it is read again. -/
theorem valueFrom_writeAt (hsort : style.sortMembers = false) (hS : ReadsTexts style S)
    (h : Fits S levels j) (depth : Nat) (hmost : (writeAt style depth j).length ≤ most) :
    Takes (valueFrom most levels) (writeAt style depth j) j.reread := by
  induction h generalizing depth with
  | null => exact fun tail _ offset => ⟨_, (valueFrom_of_holderAt? rfl).trans rfl⟩
  | bool b =>
    cases b <;> exact fun tail _ offset => ⟨_, (valueFrom_of_holderAt? rfl).trans rfl⟩
  | int small => exact ofInt_takes small
  | real rounded => exact render_takes rounded
  | string text => exact writeString_takes (hS _ text)
  | @array levels items fits ih =>
    have hstarts : ∀ j ∈ items, StartsToken (writeAt style (depth + 1) j) := fun j hj =>
      startsToken_writeAt (fits j hj) (depth + 1)
    obtain ⟨hlength, htexts⟩ := length_writeAt_array style depth hstarts
    refine array_takes (fun j hj => ⟨hstarts j hj, ?_⟩) (hlength.trans hmost)
    exact ih j hj (depth + 1) ((htexts j hj).trans hmost)
  | @object levels members names texts fits ih =>
    obtain ⟨hlength, hvalues⟩ := length_writeAt_object hsort depth members
    refine object_takes hsort hS names texts (fun m hm => ⟨?_, ?_⟩) (hlength.trans hmost)
    · exact startsToken_writeAt (fits m hm) (depth + 1)
    · exact ih m hm (depth + 1) ((hvalues m hm).trans hmost)

end Json

end Decouple
