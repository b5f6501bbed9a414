import Decouple.Json.Reader
import Decouple.Json.Writer
import Decouple.Proofs.Texts
import Mathlib.Data.List.TakeWhile

/-!
# Reading items and members one after the other

The reader and the writer agree on what stands around values: brackets, separators and blanks.
`Takes` says that a reading step takes a text off as a value, whatever follows the text.  If each
item is taken off so, the items of an array are (`itemsFrom_join`), and the members of an object
are when their names differ (`membersFrom_join`).
-/

namespace Decouple

namespace Json

open CodePoint (isDigit)

variable {α : Type} {t tail gap blank : Text} {c : CodePoint} {offset : Nat}

/-! ## Blanks -/

/-- A text of blanks. -/
def AreSpaces (t : Text) : Prop := ∀ c ∈ t, isSpace c = true

instance (t : Text) : Decidable (AreSpaces t) :=
  inferInstanceAs (Decidable (∀ c ∈ t, isSpace c = true))

/-- What a value may start with: ASCII, no blank, and nothing that closes an array or an object. -/
def opens (c : CodePoint) : Bool := c.isAscii && !isSpace c && c ≠ ']' && c ≠ '\x7d'

/-- A text that starts like a value. -/
def StartsToken (t : Text) : Prop := ∃ c rest, t = c :: rest ∧ opens c = true

theorem isSpace_of_opens (h : opens c = true) : isSpace c = false := by
  simp only [opens, Bool.and_eq_true, Bool.not_eq_true'] at h
  exact h.1.1.2

theorem StartsToken.append (h : StartsToken t) (u : Text) : StartsToken (t ++ u) := by
  obtain ⟨c, rest, rfl, hc⟩ := h
  exact ⟨c, rest ++ u, rfl, hc⟩

/-- Blanks are passed over up to what is none. -/
theorem skipSpace_append (hblank : AreSpaces blank) (hc : isSpace c = false) (t : Text)
    (offset : Nat) :
    Cursor.skipSpace ⟨blank ++ c :: t, offset⟩ = ⟨c :: t, offset + blank.length⟩ := by
  have htake : (blank ++ c :: t).takeWhile isSpace = blank := by
    rw [List.takeWhile_append_of_pos hblank, List.takeWhile_cons, hc]
    simp
  rw [Cursor.skipSpace, htake, Cursor.skip, List.drop_left]

theorem skipSpace_token (hblank : AreSpaces blank) (h : StartsToken t) (offset : Nat) :
    Cursor.skipSpace ⟨blank ++ t, offset⟩ = ⟨t, offset + blank.length⟩ := by
  obtain ⟨c, rest, rfl, hc⟩ := h
  exact skipSpace_append hblank (isSpace_of_opens hc) rest offset

theorem skipSpace_cons (hc : isSpace c = false) (t : Text) (offset : Nat) :
    Cursor.skipSpace ⟨c :: t, offset⟩ = ⟨c :: t, offset⟩ := by
  have hnone : AreSpaces [] := by decide
  exact skipSpace_append hnone hc t offset

theorem skipSpace_all (h : AreSpaces t) (offset : Nat) :
    Cursor.skipSpace ⟨t, offset⟩ = ⟨[], offset + t.length⟩ := by
  have htake : t.takeWhile isSpace = t := List.takeWhile_eq_self_iff.2 h
  rw [Cursor.skipSpace, htake, Cursor.skip, List.drop_length]

theorem skip_cons (c : CodePoint) (t : Text) (offset : Nat) :
    Cursor.skip 1 ⟨c :: t, offset⟩ = ⟨t, offset + 1⟩ := rfl

@[simp] theorem sees_cons (c d : CodePoint) (t : Text) (offset : Nat) :
    Cursor.sees ⟨c :: t, offset⟩ d = decide (c = d) := by
  simp [Cursor.sees]

theorem StartsToken.not_sees (h : StartsToken t) (offset : Nat) :
    Cursor.sees ⟨t, offset⟩ ']' = false ∧ Cursor.sees ⟨t, offset⟩ '\x7d' = false := by
  obtain ⟨c, rest, rfl, hc⟩ := h
  simp only [opens, Bool.and_eq_true, decide_eq_true_eq] at hc
  simp [hc.1.2, hc.2]

/-! ## What may follow a value -/

/-- What can stand inside a number after a digit. -/
def continuesNumber (c : CodePoint) : Bool := c.isDigit || c = '.' || c = 'e' || c = 'E'

/-- A text that does not go on with a number. -/
def Stops (t : Text) : Prop := ∀ c ∈ t.head?, continuesNumber c = false

theorem stops_nil : Stops [] := fun c hc => by cases hc

theorem stops_cons (h : continuesNumber c = false) (t : Text) : Stops (c :: t) := by
  intro d hd
  obtain rfl := Option.some.inj hd
  exact h

theorem continuesNumber_of_isSpace (h : isSpace c = true) : continuesNumber c = false := by
  simp only [isSpace, Bool.or_eq_true, decide_eq_true_eq] at h
  rcases h with ((rfl | rfl) | rfl) | rfl <;> rfl

/-- The end of an array or an object, perhaps after blanks. -/
theorem stops_closing (hblank : AreSpaces blank) (hc : continuesNumber c = false) (t : Text) :
    Stops (blank ++ c :: t) := by
  cases blank with
  | nil => exact stops_cons hc t
  | cons b blank => exact stops_cons (continuesNumber_of_isSpace (hblank b (by simp))) _

/-- The reading step takes the text off as the value, whatever follows that does not go on with a
number. -/
def Takes (read : Cursor → Read α) (t : Text) (a : α) : Prop :=
  ∀ tail, Stops tail → ∀ offset, ∃ offset', read ⟨t ++ tail, offset⟩ = .ok (a, ⟨tail, offset'⟩)

/-! ## Items -/

/-- The text of an item with the value that it is read as. -/
structure Item where
  text : Text
  value : Json

/-- An item that a step reads. -/
structure Item.IsTaken (read : Cursor → Read Json) (i : Item) : Prop where
  token : StartsToken i.text
  taken : Takes read i.text i.value

variable {read : Cursor → Read Json}

theorem startsToken_join {sep part : Text} (h : StartsToken part) (parts : List Text) :
    StartsToken (Text.join sep (part :: parts)) := by
  cases parts with
  | nil => exact h
  | cons next parts =>
    rw [Text.join_cons _ _ (List.cons_ne_nil next parts), List.append_assoc]
    exact h.append _

/-- Items with commas between them are read one after the other. -/
theorem itemsFrom_join (hgap : AreSpaces gap) (hblank : AreSpaces blank) {items : List Item}
    (hne : items ≠ []) (hitems : ∀ i ∈ items, i.IsTaken read) {fuel : Nat}
    (hfuel : items.length ≤ fuel) (sofar : List Json) (tail : Text) (offset : Nat) :
    ∃ offset', itemsFrom read fuel sofar
        ⟨Text.join (CodePoint.ofChar ',' :: gap) (items.map Item.text) ++
          (blank ++ CodePoint.ofChar ']' :: tail), offset⟩ =
      .ok (array (sofar.reverse ++ items.map Item.value), ⟨tail, offset'⟩) := by
  induction items generalizing fuel sofar offset with
  | nil => exact absurd rfl hne
  | cons i items ih =>
    rw [List.forall_mem_cons] at hitems
    obtain ⟨fuel, rfl⟩ : ∃ k, fuel = k + 1 := ⟨fuel - 1, by simp at hfuel; omega⟩
    cases items with
    | nil =>
      obtain ⟨offset', hread⟩ := hitems.1.taken _
        (stops_closing hblank (c := ']') (by decide) tail) offset
      refine ⟨offset' + blank.length + 1, ?_⟩
      simp only [List.map_cons, List.map_nil, Text.join, itemsFrom, hread,
        skipSpace_append hblank (c := ']') (by decide)]
      simp [Cursor.skip]
    | cons k items =>
      obtain ⟨offset', hread⟩ := hitems.1.taken _ (stops_cons (c := ',') (by decide) (gap ++
        (Text.join (CodePoint.ofChar ',' :: gap) ((k :: items).map Item.text) ++
          (blank ++ CodePoint.ofChar ']' :: tail)))) offset
      have hnext : StartsToken
          (Text.join (CodePoint.ofChar ',' :: gap) ((k :: items).map Item.text) ++
            (blank ++ CodePoint.ofChar ']' :: tail)) :=
        (startsToken_join (List.forall_mem_cons.1 hitems.2).1.token _).append _
      obtain ⟨offset'', hrest⟩ := ih (List.cons_ne_nil _ _) hitems.2 (by simpa using hfuel)
        (i.value :: sofar) (offset' + 1 + gap.length)
      refine ⟨offset'', ?_⟩
      have hsplit : Text.join (CodePoint.ofChar ',' :: gap) ((i :: k :: items).map Item.text) ++
            (blank ++ CodePoint.ofChar ']' :: tail) =
          i.text ++ CodePoint.ofChar ',' :: (gap ++
            (Text.join (CodePoint.ofChar ',' :: gap) ((k :: items).map Item.text) ++
              (blank ++ CodePoint.ofChar ']' :: tail))) := by
        simp [Text.join]
      rw [hsplit, itemsFrom, hread]
      dsimp only
      rw [skipSpace_cons (by decide), sees_cons, sees_cons, if_neg (by decide), if_pos (by decide),
        skip_cons, skipSpace_token hgap hnext, hrest]
      simp

/-! ## Members -/

/-- The name of a member, and the text of its value with the value that it is read as. -/
structure MemberItem where
  name : Text
  item : Item

namespace MemberItem

/-- The text of a member. -/
def text (style : JsonStyle) (m : MemberItem) : Text :=
  writeString style m.name ++ nameSeparator style ++ m.item.text

/-- A member as it is read. -/
def member (m : MemberItem) : Text × Json := (m.name, m.item.value)

/-- A member whose value a step reads and whose name is read as it was. -/
structure IsTaken (style : JsonStyle) (read : Cursor → Read Json) (m : MemberItem) : Prop where
  value : m.item.IsTaken read
  name : ∀ opened offset tail, ∃ offset', stringFrom opened 0
    (m.name.flatMap (writeCodePoint style) ++ CodePoint.ofChar '"' :: tail) offset [] =
      .ok (m.name, ⟨tail, offset'⟩)

end MemberItem

theorem writeString_append (style : JsonStyle) (t tail : Text) :
    writeString style t ++ tail = CodePoint.ofChar '"' ::
      (t.flatMap (writeCodePoint style) ++ CodePoint.ofChar '"' :: tail) := by
  simp only [writeString, List.append_assoc]
  rfl

theorem exists_nameSeparator (style : JsonStyle) :
    ∃ gap, AreSpaces gap ∧ nameSeparator style = CodePoint.ofChar ':' :: gap := by
  rw [nameSeparator]
  split
  · exact ⟨Text.ofString " ", by decide, rfl⟩
  · exact ⟨[], by decide, rfl⟩

/-- A new name goes to the end. -/
theorem putMember_of_not_mem {name : Text} {value : Json} {members : List (Text × Json)}
    (h : name ∉ members.map Prod.fst) : putMember name value members = members ++ [(name, value)] := by
  induction members with
  | nil => rfl
  | cons m members ih =>
    rw [List.map_cons, List.mem_cons, not_or] at h
    rw [putMember, if_neg fun heq => h.1 heq.symm, ih h.2]
    rfl

variable {style : JsonStyle}

/-- The text of a member up to its value. -/
theorem memberText_eq (m : MemberItem) (gap : Text)
    (hgap : nameSeparator style = CodePoint.ofChar ':' :: gap) (rest : Text) :
    m.text style ++ rest = CodePoint.ofChar '"' :: (m.name.flatMap (writeCodePoint style) ++
      CodePoint.ofChar '"' :: (CodePoint.ofChar ':' :: (gap ++ (m.item.text ++ rest)))) := by
  rw [MemberItem.text, hgap, List.append_assoc, List.append_assoc, writeString_append]
  rfl

/-- Reading a member ends where its value ends, before the separator or the closing brace. -/
theorem membersFrom_member {m : MemberItem} (hm : m.IsTaken style read) {rest : Text}
    (hrest : Stops rest) (fuel : Nat) (sofar : List (Text × Json)) (offset : Nat) :
    ∃ offset', membersFrom read (fuel + 1) sofar ⟨m.text style ++ rest, offset⟩ =
      if (Cursor.skipSpace ⟨rest, offset'⟩).sees '\x7d' then
        .ok (object (putMember m.name m.item.value sofar),
          (Cursor.skipSpace ⟨rest, offset'⟩).skip 1)
      else if (Cursor.skipSpace ⟨rest, offset'⟩).sees ',' then
        membersFrom read fuel (putMember m.name m.item.value sofar)
          ((Cursor.skipSpace ⟨rest, offset'⟩).skip 1).skipSpace
      else .error (.fault .expectingComma (Cursor.skipSpace ⟨rest, offset'⟩).offset) := by
  obtain ⟨gap, hgap, hseparator⟩ := exists_nameSeparator style
  obtain ⟨named, hname⟩ := hm.name offset (offset + 1)
    (CodePoint.ofChar ':' :: (gap ++ (m.item.text ++ rest)))
  obtain ⟨offset', hvalue⟩ := hm.value.taken rest hrest (named + 1 + gap.length)
  have hsee : (!Cursor.sees ⟨CodePoint.ofChar '"' :: (m.name.flatMap (writeCodePoint style) ++
      CodePoint.ofChar '"' :: (CodePoint.ofChar ':' :: (gap ++ (m.item.text ++ rest)))), offset⟩
        '"') = false := by simp
  refine ⟨offset', ?_⟩
  rw [memberText_eq m gap hseparator, membersFrom, hsee, if_neg Bool.false_ne_true]
  rw [List.drop_one, List.tail_cons, hname]
  dsimp only
  rw [skipSpace_cons (by decide), sees_cons, skip_cons,
    skipSpace_token hgap (hm.value.token.append rest), hvalue]
  rfl

theorem startsToken_memberText (m : MemberItem) : StartsToken (m.text style) := by
  rw [MemberItem.text, List.append_assoc, writeString_append]
  exact ⟨_, _, rfl, by decide⟩

/-- Members with commas between them are read one after the other, if their names differ. -/
theorem membersFrom_join (hgap : AreSpaces gap) (hblank : AreSpaces blank)
    {members : List MemberItem} (hne : members ≠ [])
    (hmembers : ∀ m ∈ members, m.IsTaken style read) {fuel : Nat}
    (hfuel : members.length ≤ fuel) (sofar : List (Text × Json))
    (hnames : (sofar.map Prod.fst ++ members.map MemberItem.name).Nodup) (tail : Text)
    (offset : Nat) :
    ∃ offset', membersFrom read fuel sofar
        ⟨Text.join (CodePoint.ofChar ',' :: gap) (members.map (MemberItem.text style)) ++
          (blank ++ CodePoint.ofChar '\x7d' :: tail), offset⟩ =
      .ok (object (sofar ++ members.map MemberItem.member), ⟨tail, offset'⟩) := by
  induction members generalizing fuel sofar offset with
  | nil => exact absurd rfl hne
  | cons m members ih =>
    rw [List.forall_mem_cons] at hmembers
    obtain ⟨fuel, rfl⟩ : ∃ k, fuel = k + 1 := ⟨fuel - 1, by simp at hfuel; omega⟩
    have hput : putMember m.name m.item.value sofar = sofar ++ [m.member] := by
      refine putMember_of_not_mem fun hmem => ?_
      exact (List.nodup_append.1 hnames).2.2 _ hmem _ (List.mem_cons_self ..) rfl
    cases members with
    | nil =>
      obtain ⟨offset', hread⟩ := membersFrom_member hmembers.1
        (stops_closing hblank (c := '\x7d') (by decide) tail) fuel sofar offset
      refine ⟨offset' + blank.length + 1, ?_⟩
      rw [List.map_cons, List.map_nil, Text.join, hread,
        skipSpace_append hblank (by decide), sees_cons, if_pos (by decide), hput, skip_cons]
      rfl
    | cons k members =>
      set more := Text.join (CodePoint.ofChar ',' :: gap)
        ((k :: members).map (MemberItem.text style)) ++ (blank ++ CodePoint.ofChar '\x7d' :: tail)
        with hmore
      have hnext : StartsToken more := (startsToken_join (startsToken_memberText k) _).append _
      obtain ⟨offset', hread⟩ := membersFrom_member hmembers.1
        (stops_cons (c := ',') (by decide) (gap ++ more)) fuel sofar offset
      obtain ⟨offset'', hrest⟩ := ih (List.cons_ne_nil _ _) hmembers.2 (by simpa using hfuel)
        (sofar ++ [m.member]) (by simpa [MemberItem.member] using hnames)
        (offset' + 1 + gap.length)
      refine ⟨offset'', ?_⟩
      have hsplit : Text.join (CodePoint.ofChar ',' :: gap)
            ((m :: k :: members).map (MemberItem.text style)) ++
            (blank ++ CodePoint.ofChar '\x7d' :: tail) =
          m.text style ++ CodePoint.ofChar ',' :: (gap ++ more) := by
        simp [Text.join, hmore]
      rw [hsplit, hread, skipSpace_cons (by decide), sees_cons, sees_cons, if_neg (by decide),
        if_pos (by decide), skip_cons, skipSpace_token hgap hnext, hput, hrest]
      simp

end Json

end Decouple
