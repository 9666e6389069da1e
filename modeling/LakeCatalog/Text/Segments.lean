/-!
# Segments: text cut at a separator

Dotted identifiers, object paths and URL paths are all texts of segments with a separator
between them.  This file holds the two directions, over lists of characters:

* `splitOn` — the segments of a text; there is always at least one, and no segment holds the
  separator (`splitOn_ne_nil`, `not_mem_of_mem_splitOn`);
* `joinWith` — the text of a list of segments.

The two are tied together by `joinWith_splitOn` (cutting loses nothing) and
`splitOn_joinWith` (a non-empty list of segments that are free of the separator is cut back
into exactly these segments).
-/

namespace LakeCatalog.Text

/-- The segments of a text, in order: what stands before, between and after the occurrences
of the separator. -/
def splitOn (sep : Char) : List Char → List (List Char)
  | [] => [[]]
  | c :: cs =>
    if c = sep then [] :: splitOn sep cs
    else match splitOn sep cs with
      | [] => [[c]]
      | s :: ss => (c :: s) :: ss

/-- The text of a list of segments, with one separator between neighbours. -/
def joinWith (sep : Char) : List (List Char) → List Char
  | [] => []
  | [s] => s
  | s :: t :: ss => s ++ sep :: joinWith sep (t :: ss)

theorem splitOn_ne_nil (sep : Char) (cs : List Char) : splitOn sep cs ≠ [] := by
  cases cs with
  | nil => simp [splitOn]
  | cons c cs =>
    by_cases h : c = sep
    · simp [splitOn, h]
    · cases hs : splitOn sep cs <;> simp [splitOn, h, hs]

/-- A character that is not the separator joins the first segment. -/
theorem splitOn_cons_of_ne {sep c : Char} (h : c ≠ sep) {cs s : List Char}
    {ss : List (List Char)} (hs : splitOn sep cs = s :: ss) :
    splitOn sep (c :: cs) = (c :: s) :: ss := by
  simp [splitOn, h, hs]

theorem splitOn_sep (sep : Char) (cs : List Char) :
    splitOn sep (sep :: cs) = [] :: splitOn sep cs := by
  simp [splitOn]

theorem joinWith_cons_of_ne_nil {sep : Char} {s : List Char} {ss : List (List Char)}
    (h : ss ≠ []) : joinWith sep (s :: ss) = s ++ sep :: joinWith sep ss := by
  cases ss with
  | nil => exact absurd rfl h
  | cons t ts => rfl

/-- Cutting a text loses nothing. -/
theorem joinWith_splitOn (sep : Char) (cs : List Char) :
    joinWith sep (splitOn sep cs) = cs := by
  induction cs with
  | nil => rfl
  | cons c cs ih =>
    by_cases h : c = sep
    · subst h
      rw [splitOn_sep, joinWith_cons_of_ne_nil (splitOn_ne_nil _ _), ih]
      rfl
    · cases hs : splitOn sep cs with
      | nil => exact absurd hs (splitOn_ne_nil _ _)
      | cons s ss =>
        rw [splitOn_cons_of_ne h hs]
        rw [hs] at ih
        cases ss with
        | nil => simpa [joinWith] using congrArg (c :: ·) ih
        | cons t ts => simpa [joinWith] using congrArg (c :: ·) ih

/-- No segment holds the separator. -/
theorem not_mem_of_mem_splitOn {sep : Char} {cs s : List Char} (h : s ∈ splitOn sep cs) :
    sep ∉ s := by
  induction cs generalizing s with
  | nil =>
    simp [splitOn] at h
    simp [h]
  | cons c cs ih =>
    by_cases hc : c = sep
    · subst hc
      rw [splitOn_sep] at h
      rcases List.mem_cons.1 h with rfl | h
      · simp
      · exact ih h
    · cases hs : splitOn sep cs with
      | nil => exact absurd hs (splitOn_ne_nil _ _)
      | cons t ts =>
        rw [splitOn_cons_of_ne hc hs] at h
        rcases List.mem_cons.1 h with rfl | h
        · have := ih (s := t) (by simp [hs])
          simp [this, Ne.symm hc]
        · exact ih (by simp [hs, h])

/-- A text without the separator is its own only segment. -/
theorem splitOn_of_not_mem {sep : Char} {cs : List Char} (h : sep ∉ cs) :
    splitOn sep cs = [cs] := by
  induction cs with
  | nil => rfl
  | cons c cs ih =>
    have hc : c ≠ sep := fun e => h (by simp [e])
    exact splitOn_cons_of_ne hc (ih fun m => h (by simp [m]))

theorem splitOn_append_sep {sep : Char} {s : List Char} (h : sep ∉ s) (cs : List Char) :
    splitOn sep (s ++ sep :: cs) = s :: splitOn sep cs := by
  induction s with
  | nil => exact splitOn_sep sep cs
  | cons c s ih =>
    have hc : c ≠ sep := fun e => h (by simp [e])
    exact splitOn_cons_of_ne hc (ih fun m => h (by simp [m]))

/-- Segments that are free of the separator come back from the text that joins them. -/
theorem splitOn_joinWith {sep : Char} {ss : List (List Char)} (hne : ss ≠ [])
    (h : ∀ s ∈ ss, sep ∉ s) : splitOn sep (joinWith sep ss) = ss := by
  induction ss with
  | nil => exact absurd rfl hne
  | cons s ss ih =>
    cases ss with
    | nil => exact splitOn_of_not_mem (h s (by simp))
    | cons t ts =>
      rw [joinWith_cons_of_ne_nil (by simp), splitOn_append_sep (h s (by simp)),
        ih (by simp) fun x hx => h x (by simp [hx])]

end LakeCatalog.Text
