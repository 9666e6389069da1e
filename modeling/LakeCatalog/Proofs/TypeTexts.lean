import LakeCatalog.Table.Layout
import Mathlib.Data.List.TakeWhile

/-!
# Types and transforms are read back

The text of a primitive type and that of a transform stand for this type and this transform, also
where they have parameters.

* `parameterText_bracketed` — what stands between the brackets of a text;
* `PrimitiveType.ofText?_text`, `Transform.ofText?_text` — the texts.
-/

namespace LakeCatalog

open Text (dropRightWhile isDigit)
open Text.Numeral (write)

/-! ### Parameters -/

/-- Nothing is taken off a text that does not end in what is to be taken off. -/
theorem dropRightWhile_of_forall {p : Char → Bool} {cs : List Char} (h : ∀ c ∈ cs, p c = false) :
    dropRightWhile p cs = cs := by
  have hkeep : cs.reverse.dropWhile p = cs.reverse := by
    rw [List.dropWhile_eq_self_iff]
    intro hl hp
    have hmem : cs.reverse[0] ∈ cs := List.mem_reverse.1 (List.getElem_mem hl)
    rw [h _ hmem] at hp
    cases hp
  unfold dropRightWhile
  rw [hkeep, List.reverse_reverse]

/-- A text does not begin with a word that begins otherwise. -/
theorem take_ne_of_head {w : Char} {ws cs : List Char} (h : cs.head? ≠ some w) :
    cs.take (w :: ws).length ≠ w :: ws := by
  intro htake
  cases cs with
  | nil => cases htake
  | cons c cs =>
      rw [List.length_cons, List.take_succ_cons] at htake
      rw [List.head?_cons] at h
      exact h (congrArg some (List.cons.inj htake).1)

/-- No word is taken off a text that begins otherwise. -/
theorem dropRepeated_of_head {w : Char} {ws cs : List Char} (h : cs.head? ≠ some w) :
    dropRepeated (w :: ws) cs = cs := by
  have hstop : ¬((w :: ws) ≠ [] ∧ cs.take (w :: ws).length = w :: ws) :=
    fun hgo => take_ne_of_head h hgo.2
  rw [dropRepeated, dif_neg hstop]

/-- A word at the head of a text is taken off. -/
theorem dropRepeated_append {w : Char} {ws cs : List Char} :
    dropRepeated (w :: ws) (w :: ws ++ cs) = dropRepeated (w :: ws) cs := by
  have hgo : (w :: ws) ≠ [] ∧ (w :: ws ++ cs).take (w :: ws).length = w :: ws :=
    ⟨List.cons_ne_nil w ws, List.take_left⟩
  rw [dropRepeated, dif_pos hgo]
  show dropRepeated (w :: ws) ((w :: ws ++ cs).drop (w :: ws).length) = _
  rw [List.drop_left]

/-- **What stands between brackets**, if it has nothing in common with them. -/
theorem parameterText_bracketed {word : String} {w closing : Char} {ws cs : List Char}
    (hword : word.toList = w :: ws) (hclosing : closing ≠ w)
    (hcs : ∀ c ∈ cs, c ≠ w ∧ c ≠ closing) :
    parameterText word closing (word.toList ++ cs ++ [closing]) = cs := by
  have hhead : (cs ++ [closing]).head? ≠ some w := by
    cases cs with
    | nil =>
        show some closing ≠ some w
        intro h
        exact hclosing (Option.some.inj h)
    | cons c cs =>
        show some c ≠ some w
        intro h
        exact (hcs c List.mem_cons_self).1 (Option.some.inj h)
  have hclose : ∀ c ∈ [closing], decide (c = closing) = true := by
    intro c hc
    rw [List.mem_singleton.1 hc]
    exact decide_eq_true rfl
  unfold parameterText
  rw [hword, List.append_assoc, dropRepeated_append, dropRepeated_of_head hhead,
    Text.dropRightWhile_append_of_forall hclose]
  refine dropRightWhile_of_forall ?_
  intro c hc
  exact decide_eq_false (hcs c hc).2

/-- A text begins with a word that stands at its head. -/
theorem startsWith_append (word : String) (cs : List Char) :
    startsWith word (word.toList ++ cs) = true := by
  unfold startsWith
  rw [← String.length_toList, List.take_left]
  exact decide_eq_true rfl

theorem startsWith_of_head {word : String} {w : Char} {ws cs : List Char}
    (hword : word.toList = w :: ws) (h : cs.head? ≠ some w) : startsWith word cs = false := by
  have hne : cs.take word.length ≠ word.toList := by
    rw [← String.length_toList, hword]
    exact take_ne_of_head h
  exact decide_eq_false hne

/-! ### Digits -/

/-- A digit is none of the characters that are not digits. -/
theorem ne_of_mem_write {n : Nat} {c d : Char} (hc : c ∈ write n) (hd : isDigit d = false) :
    c ≠ d := by
  rintro rfl
  rw [Text.Numeral.isDigit_of_mem_write hc] at hd
  cases hd

theorem toList_text (n : Nat) : (Text.Numeral.text n).toList = write n := String.toList_ofList

theorem readUInt32?_write (n : UInt32) : readUInt32? (write n.toNat) = some n := by
  unfold readUInt32?
  rw [Text.Numeral.readBelow?_write n.toNat_lt, Option.map_some, UInt32.ofNat_toNat]

theorem readUInt64?_write (n : UInt64) : readUInt64? (write n.toNat) = some n := by
  unfold readUInt64?
  rw [Text.Numeral.readBelow?_write n.toNat_lt, Option.map_some, UInt64.ofNat_toNat]

/-- There are no blanks around digits. -/
theorem trim_write (n : Nat) : Text.trim (write n) = write n := by
  have hblank : ∀ c ∈ write n, Text.isBlank c = false := by
    intro c hc
    have hdigit := Text.Numeral.isDigit_of_mem_write hc
    unfold isDigit at hdigit
    rw [Bool.and_eq_true, decide_eq_true_eq, decide_eq_true_eq, Char.le_def, Char.le_def,
      UInt32.le_iff_toNat_le, UInt32.le_iff_toNat_le] at hdigit
    have hlow : 48 ≤ c.toNat := hdigit.1
    have hhigh : c.toNat ≤ 57 := hdigit.2
    unfold Text.isBlank
    simp
    omega
  have hkeep : (write n).dropWhile Text.isBlank = write n := by
    rw [List.dropWhile_eq_self_iff]
    intro hl hp
    rw [hblank _ (List.getElem_mem hl)] at hp
    cases hp
  unfold Text.trim
  rw [hkeep]
  exact dropRightWhile_of_forall hblank

/-! ### Types -/

/-- A text of a word and a number in square brackets. -/
theorem numbered_text (word opening : String) {w : Char} {ws : List Char}
    (hopening : opening.toList = word.toList ++ ['[']) (hword : word.toList = w :: ws)
    (hw : isDigit w = false) (hbracket : ']' ≠ w) (n : Nat) :
    startsWith word (opening ++ Text.Numeral.text n ++ "]").toList = true ∧
      parameterText opening ']' (opening ++ Text.Numeral.text n ++ "]").toList = write n := by
  have htext : (opening ++ Text.Numeral.text n ++ "]").toList
      = opening.toList ++ write n ++ [']'] := by
    rw [String.toList_append, String.toList_append, toList_text]
    rfl
  have hhead : opening.toList = w :: (ws ++ ['[']) := by
    rw [hopening, hword]
    rfl
  rw [htext]
  constructor
  · rw [hopening, List.append_assoc, List.append_assoc]
    exact startsWith_append word _
  · exact parameterText_bracketed hhead hbracket fun _ hc =>
      ⟨ne_of_mem_write hc hw, ne_of_mem_write hc rfl⟩

/-- Such a text does not begin with another word. -/
theorem not_startsWith_text (word opening parameter closing : String) {v w : Char}
    {vs ws : List Char} (hword : word.toList = v :: vs) (hopening : opening.toList = w :: ws)
    (hne : w ≠ v) : startsWith word (opening ++ parameter ++ closing).toList = false := by
  have hhead : (opening ++ parameter ++ closing).toList.head? ≠ some v := by
    rw [String.toList_append, String.toList_append, hopening]
    intro h
    exact hne (Option.some.inj h)
  exact startsWith_of_head hword hhead

namespace PrimitiveType

theorem readDecimal?_text (p s : UInt32) :
    readDecimal? ("decimal(".toList ++ (write p.toNat ++ ',' :: write s.toNat) ++ [')'])
      = some (decimal p s) := by
  have hcs : ∀ c ∈ write p.toNat ++ ',' :: write s.toNat, c ≠ 'd' ∧ c ≠ ')' := by
    intro c hc
    rw [List.mem_append, List.mem_cons] at hc
    rcases hc with hc | rfl | hc
    · exact ⟨ne_of_mem_write hc rfl, ne_of_mem_write hc rfl⟩
    · decide
    · exact ⟨ne_of_mem_write hc rfl, ne_of_mem_write hc rfl⟩
  have hcomma : ∀ c ∈ write p.toNat, decide (c ≠ ',') = true := by
    intro c hc
    exact decide_eq_true (ne_of_mem_write hc rfl)
  have hdrop : (write p.toNat ++ ',' :: write s.toNat).dropWhile (· ≠ ',')
      = ',' :: write s.toNat := by
    rw [List.dropWhile_append_of_pos hcomma]
    rfl
  have htake : (write p.toNat ++ ',' :: write s.toNat).takeWhile (· ≠ ',') = write p.toNat := by
    rw [List.takeWhile_append_of_pos hcomma]
    show write p.toNat ++ [] = _
    rw [List.append_nil]
  unfold readDecimal?
  rw [parameterText_bracketed rfl (by decide) hcs]
  simp only [hdrop]
  show ((readUInt32? (List.takeWhile _ _)).bind fun p' =>
    (readUInt32? (Text.trim (write s.toNat))).bind fun s' => some (decimal p' s')) = _
  rw [htake, readUInt32?_write, trim_write, readUInt32?_write]
  rfl

/-- **The text of a type** is read back. -/
theorem ofText?_text (p : PrimitiveType) : ofText? p.text = some p := by
  cases p with
  | fixed n =>
      have hother := not_startsWith_text "decimal" "fixed[" (Text.Numeral.text n.toNat) "]" rfl rfl
        (by decide)
      obtain ⟨hstarts, hparameter⟩ := numbered_text "fixed" "fixed[" rfl rfl rfl (by decide) n.toNat
      unfold ofText? text
      simp only
      rw [hother, if_neg Bool.false_ne_true, hstarts, if_pos rfl, hparameter, readUInt64?_write]
      rfl
  | decimal p s =>
      have htext : (decimal p s).text.toList
          = "decimal(".toList ++ (write p.toNat ++ ',' :: write s.toNat) ++ [')'] := by
        show ("decimal(" ++ Text.Numeral.text p.toNat ++ "," ++ Text.Numeral.text s.toNat
          ++ ")").toList = _
        simp only [String.toList_append, toList_text, List.append_assoc]
        rfl
      have hopening : "decimal(".toList = "decimal".toList ++ ['('] := rfl
      have hstarts : startsWith "decimal"
          ("decimal(".toList ++ (write p.toNat ++ ',' :: write s.toNat) ++ [')']) = true := by
        rw [hopening, List.append_assoc, List.append_assoc]
        exact startsWith_append "decimal" _
      unfold ofText?
      simp only [htext]
      rw [if_pos hstarts]
      exact readDecimal?_text p s
  | _ => decide

end PrimitiveType

/-! ### Transforms -/

namespace Transform

/-- **The text of a transform** is read back. -/
theorem ofText?_text (t : Transform) : ofText? t.text = some t := by
  cases t with
  | bucket n =>
      obtain ⟨hstarts, hparameter⟩ :=
        numbered_text "bucket" "bucket[" rfl rfl rfl (by decide) n.toNat
      unfold ofText? text
      simp only
      rw [hstarts, if_pos rfl, hparameter, readUInt32?_write]
      rfl
  | truncate n =>
      have hother := not_startsWith_text "bucket" "truncate[" (Text.Numeral.text n.toNat) "]" rfl
        rfl (by decide)
      obtain ⟨hstarts, hparameter⟩ :=
        numbered_text "truncate" "truncate[" rfl rfl rfl (by decide) n.toNat
      unfold ofText? text
      simp only
      rw [hother, if_neg Bool.false_ne_true, hstarts, if_pos rfl, hparameter, readUInt32?_write]
      rfl
  | _ => decide

theorem ofJson?_text (t : Transform) : ofJson? (.str t.text) = some t := ofText?_text t

end Transform

end LakeCatalog
