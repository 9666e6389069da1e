import LakeCatalog.Proofs.JsonNumbers
import LakeCatalog.Proofs.JsonReadings
import LakeCatalog.Proofs.JsonTexts

/-!
# Values are read back

The text of a value is read back as this value, if its numbers are whole and its containers are not
nested too deep for the reader.

* `Whole` — values whose numbers are whole;
* `Separate`, `lex_separate` — lexemes that are read back when they are written without spaces;
* `value?_spelled` — a spelling stands for the value that it spells;
* `depth` — how deep the containers of a value are nested;
* `parseBytes?_of_whole` — a text.
-/

namespace LakeCatalog.Json

/-! ### Whole values -/

mutual

/-- A value whose numbers are whole numbers of 64 bits. -/
def Whole : Json → Prop
  | .int i => IsWord i
  | .decimal _ => False
  | .arr js => WholeItems js
  | .obj ms => WholeMembers ms
  | _ => True

/-- Items whose numbers are whole. -/
def WholeItems : List Json → Prop
  | [] => True
  | j :: js => Whole j ∧ WholeItems js

/-- Members whose numbers are whole. -/
def WholeMembers : List (String × Json) → Prop
  | [] => True
  | (_, j) :: ms => Whole j ∧ WholeMembers ms

end

theorem wholeItems_iff {js : List Json} : WholeItems js ↔ ∀ j ∈ js, j.Whole := by
  induction js with
  | nil => simp [WholeItems]
  | cons j js ih => rw [WholeItems, ih, List.forall_mem_cons]

theorem wholeMembers_iff {ms : List (String × Json)} :
    WholeMembers ms ↔ ∀ m ∈ ms, m.2.Whole := by
  induction ms with
  | nil => simp [WholeMembers]
  | cons m ms ih =>
      obtain ⟨k, j⟩ := m
      rw [WholeMembers, ih, List.forall_mem_cons]

mutual

/-- Whether the numbers of a value are whole. -/
def decidableWhole : (j : Json) → Decidable j.Whole
  | .null | .bool _ | .str _ => .isTrue trivial
  | .int i => inferInstanceAs (Decidable (IsWord i))
  | .decimal _ => .isFalse id
  | .arr js => decidableWholeItems js
  | .obj ms => decidableWholeMembers ms

/-- Whether the numbers of all items are whole. -/
def decidableWholeItems : (js : List Json) → Decidable (WholeItems js)
  | [] => .isTrue trivial
  | j :: js => @instDecidableAnd _ _ (decidableWhole j) (decidableWholeItems js)

/-- Whether the numbers of all members are whole. -/
def decidableWholeMembers : (ms : List (String × Json)) → Decidable (WholeMembers ms)
  | [] => .isTrue trivial
  | (_, j) :: ms => @instDecidableAnd _ _ (decidableWhole j) (decidableWholeMembers ms)

end

instance : DecidablePred Whole := decidableWhole

/-! ### Lexemes in a row -/

/-- Lexemes that are read back when they stand in a row without spaces. -/
def Separate : List Lexeme → Prop
  | [] => True
  | t :: ts => t.Readable ∧ t.MayPrecede (ts.flatMap Lexeme.spell) ∧ Separate ts

/-- What may stand behind a value: the end of a text, or a mark. -/
def MarkHead : List Lexeme → Prop
  | [] => True
  | t :: _ => t = .comma ∨ t = .closeArr ∨ t = .closeObj

theorem lex_separate {ts : List Lexeme} (h : Separate ts) :
    lex (ts.flatMap Lexeme.spell) = some ts := by
  induction ts with
  | nil => rw [List.flatMap_nil, lex]
  | cons t ts ih =>
      obtain ⟨hread, hprecede, hts⟩ := h
      rw [List.flatMap_cons, lex_spell hread hprecede, ih hts]
      rfl

/-- A number does not run into what may stand behind a value. -/
theorem noNumberHead_of_markHead {ts : List Lexeme} (h : MarkHead ts) :
    NoNumberHead (ts.flatMap Lexeme.spell) := by
  cases ts with
  | nil =>
      intro c hc
      cases hc
  | cons t ts =>
      rcases h with rfl | rfl | rfl
      · exact noNumberHead_cons rfl _
      · exact noNumberHead_cons rfl _
      · exact noNumberHead_cons rfl _

theorem readable_text (s : String) : (Lexeme.text (escape s)).Readable :=
  fun rest => readQuoted_escape s.toList rest

-- The three go together, as items and members hold values.  What follows a value inside of a
-- container is a comma or the closing bracket, so a number never runs into it.
mutual

/-- The lexemes of a value are read back, whatever may stand behind it. -/
theorem separate_value (j : Json) (h : j.Whole) {ts : List Lexeme} (hts : Separate ts)
    (hmark : MarkHead ts) : Separate ((spelled j).lexemes ++ ts) := by
  match j with
  | .null => exact ⟨trivial, trivial, hts⟩
  | .bool b => exact ⟨trivial, trivial, hts⟩
  | .int i => exact ⟨isNumberText_intText i, noNumberHead_of_markHead hmark, hts⟩
  | .str s => exact ⟨readable_text s, trivial, hts⟩
  | .arr js =>
      refine ⟨trivial, trivial, ?_⟩
      rw [List.append_eq, List.append_assoc]
      exact separate_items js h hts
  | .obj ms =>
      refine ⟨trivial, trivial, ?_⟩
      rw [List.append_eq, List.append_assoc]
      exact separate_members ms h hts

theorem separate_items (js : List Json) (h : WholeItems js) {ts : List Lexeme}
    (hts : Separate ts) :
    Separate (Spelled.lexemesOfItems (spelledItems js) ++ (.closeArr :: ts)) := by
  have hclose : Separate (.closeArr :: ts) := ⟨trivial, trivial, hts⟩
  match js with
  | [] => exact hclose
  | [j] =>
      show Separate (((spelled j).lexemes ++ []) ++ _)
      rw [List.append_nil]
      exact separate_value j h.1 hclose (Or.inr (Or.inl rfl))
  | j :: k :: js =>
      have hrest := separate_items (k :: js) h.2 hts
      show Separate (((spelled j).lexemes
        ++ (.comma :: Spelled.lexemesOfItems (spelledItems (k :: js)))) ++ _)
      rw [List.append_assoc]
      exact separate_value j h.1 ⟨trivial, trivial, hrest⟩ (Or.inl rfl)

theorem separate_members (ms : List (String × Json)) (h : WholeMembers ms) {ts : List Lexeme}
    (hts : Separate ts) :
    Separate (Spelled.lexemesOfMembers (spelledMembers ms) ++ (.closeObj :: ts)) := by
  have hclose : Separate (.closeObj :: ts) := ⟨trivial, trivial, hts⟩
  match ms with
  | [] => exact hclose
  | [(k, j)] =>
      refine ⟨readable_text k, trivial, trivial, trivial, ?_⟩
      show Separate (((spelled j).lexemes ++ []) ++ _)
      rw [List.append_nil]
      exact separate_value j h.1 hclose (Or.inr (Or.inr rfl))
  | (k, j) :: m :: ms =>
      have hrest := separate_members (m :: ms) h.2 hts
      refine ⟨readable_text k, trivial, trivial, trivial, ?_⟩
      show Separate (((spelled j).lexemes
        ++ (.comma :: Spelled.lexemesOfMembers (spelledMembers (m :: ms)))) ++ _)
      rw [List.append_assoc]
      exact separate_value j h.1 ⟨trivial, trivial, hrest⟩ (Or.inl rfl)

end

/-- The characters of a value are read back as its lexemes. -/
theorem lex_chars {j : Json} (h : j.Whole) : lex j.chars = some (spelled j).lexemes := by
  have hseparate : Separate ((spelled j).lexemes ++ []) := separate_value j h trivial trivial
  rw [List.append_nil] at hseparate
  exact lex_separate hseparate

/-! ### Values -/

theorem textValue?_escape (s : String) : textValue? (escape s) = some s := by
  unfold textValue? escape
  rw [unescape?_escape, Option.map_some, String.ofList_toList]

mutual

/-- A spelling stands for the value that it spells. -/
theorem value?_spelled (j : Json) (h : j.Whole) : (spelled j).value? = some j := by
  match j with
  | .null => rfl
  | .bool b => rfl
  | .int i => exact numberValue?_intText h
  | .str s =>
      show (textValue? (escape s)).map Json.str = _
      rw [textValue?_escape]
      rfl
  | .arr js =>
      show (Spelled.valuesOfItems? (spelledItems js)).map Json.arr = _
      rw [valuesOfItems?_spelled js h]
      rfl
  | .obj ms =>
      show (Spelled.valuesOfMembers? (spelledMembers ms)).map Json.obj = _
      rw [valuesOfMembers?_spelled ms h]
      rfl

theorem valuesOfItems?_spelled (js : List Json) (h : WholeItems js) :
    Spelled.valuesOfItems? (spelledItems js) = some js := by
  match js with
  | [] => rfl
  | j :: js =>
      rw [spelledItems, Spelled.valuesOfItems?, value?_spelled j h.1, valuesOfItems?_spelled js h.2]

theorem valuesOfMembers?_spelled (ms : List (String × Json)) (h : WholeMembers ms) :
    Spelled.valuesOfMembers? (spelledMembers ms) = some ms := by
  match ms with
  | [] => rfl
  | (k, j) :: ms =>
      rw [spelledMembers, Spelled.valuesOfMembers?, textValue?_escape, value?_spelled j h.1,
        valuesOfMembers?_spelled ms h.2]

end

/-! ### Depth -/

/-- How many containers stand around the innermost value, at most. -/
def depth (j : Json) : Nat := (spelled j).depth

theorem depth_arr_le {js : List Json} {n : Nat} (h : ∀ j ∈ js, j.depth ≤ n) :
    depth (.arr js) ≤ n + 1 := by
  have hitems : Spelled.depthOfItems (spelledItems js) ≤ n := by
    induction js with
    | nil => exact Nat.zero_le n
    | cons j js ih =>
        rw [List.forall_mem_cons] at h
        exact Nat.max_le.2 ⟨h.1, ih h.2⟩
  exact Nat.succ_le_succ hitems

theorem depth_obj_le {ms : List (String × Json)} {n : Nat} (h : ∀ m ∈ ms, m.2.depth ≤ n) :
    depth (.obj ms) ≤ n + 1 := by
  have hmembers : Spelled.depthOfMembers (spelledMembers ms) ≤ n := by
    induction ms with
    | nil => exact Nat.zero_le n
    | cons m ms ih =>
        rw [List.forall_mem_cons] at h
        exact Nat.max_le.2 ⟨h.1, ih h.2⟩
  exact Nat.succ_le_succ hmembers

theorem depth_lt_arr {j : Json} {js : List Json} (h : j ∈ js) : j.depth < depth (.arr js) := by
  have hitems : j.depth ≤ Spelled.depthOfItems (spelledItems js) := by
    induction js with
    | nil => cases h
    | cons k js ih =>
        rcases List.mem_cons.1 h with rfl | h
        · exact Nat.le_max_left _ _
        · exact Nat.le_trans (ih h) (Nat.le_max_right _ _)
  exact Nat.lt_succ_of_le hitems

theorem depth_lt_obj {m : String × Json} {ms : List (String × Json)} (h : m ∈ ms) :
    m.2.depth < depth (.obj ms) := by
  have hmembers : m.2.depth ≤ Spelled.depthOfMembers (spelledMembers ms) := by
    induction ms with
    | nil => cases h
    | cons l ms ih =>
        rcases List.mem_cons.1 h with rfl | h
        · exact Nat.le_max_left _ _
        · exact Nat.le_trans (ih h) (Nat.le_max_right _ _)
  exact Nat.lt_succ_of_le hmembers

/-- **A text** is read back, unless its containers are nested too deep. -/
theorem parseBytes?_of_whole {j : Json} (h : j.Whole) :
    parseBytes? j.render.toUTF8 = if j.depth ≤ maxDepth then some j else none := by
  rw [parseBytes?_render]
  unfold ofChars?
  rw [lex_chars h, Option.bind_some, ofLexemes?_lexemes, Option.bind_some, value?_spelled j h]
  rfl

end LakeCatalog.Json
