import LakeCatalog.Json.Spelled

/-!
# The lexemes of a value are read back

A reader that awaits a value and is given the lexemes of one is in the state in which this value is
complete, whatever containers are still open and whatever follows.

* `run_lexemes` — the lexemes of a value;
* `run_items`, `run_members` — those between the brackets of a container;
* `ofLexemes?_lexemes` — a whole text.
-/

namespace LakeCatalog.Json

namespace Reading

/-- Lexemes that begin a value are taken by an array as its first item. -/
theorem run_firstItem (v : Spelled) (fs : List Frame) (ts : List Lexeme) :
    (Reading.firstItem fs).run (v.lexemes ++ ts)
      = (Reading.value (.items [] :: fs)).run (v.lexemes ++ ts) := by
  cases v with
  | null => rfl
  | bool b => rfl
  | number cs => rfl
  | text cs => rfl
  | arr vs => rfl
  | obj ms => rfl

/-- The name of a first member is a name like that of any other. -/
theorem run_firstKey (m : List Char × Spelled) (ms : List (List Char × Spelled))
    (fs : List Frame) (ts : List Lexeme) :
    (Reading.firstKey fs).run (Spelled.lexemesOfMembers (m :: ms) ++ ts)
      = (Reading.key [] fs).run (Spelled.lexemesOfMembers (m :: ms) ++ ts) := rfl

mutual

/-- **The lexemes of a value** complete this value. -/
theorem run_lexemes (v : Spelled) (fs : List Frame) (ts : List Lexeme) :
    (Reading.value fs).run (v.lexemes ++ ts) = (complete v fs).run ts := by
  cases v with
  | null => rfl
  | bool b => rfl
  | number cs => rfl
  | text cs => rfl
  | arr vs =>
      cases vs with
      | nil => rfl
      | cons v vs =>
          have hitems := run_items (v :: vs) (List.cons_ne_nil v vs) [] fs ts
          show (Reading.firstItem fs).run
            ((Spelled.lexemesOfItems (v :: vs) ++ [.closeArr]) ++ ts) = _
          rw [List.append_assoc]
          unfold Spelled.lexemesOfItems at hitems ⊢
          rw [List.append_assoc] at hitems ⊢
          rw [run_firstItem]
          exact hitems
  | obj ms =>
      cases ms with
      | nil => rfl
      | cons m ms =>
          have hmembers := run_members (m :: ms) (List.cons_ne_nil m ms) [] fs ts
          show (Reading.firstKey fs).run
            ((Spelled.lexemesOfMembers (m :: ms) ++ [.closeObj]) ++ ts) = _
          rw [List.append_assoc, run_firstKey]
          exact hmembers

/-- The lexemes of some items complete an array, together with the items that are done. -/
theorem run_items (vs : List Spelled) (hne : vs ≠ []) (done : List Spelled) (fs : List Frame)
    (ts : List Lexeme) :
    (Reading.value (.items done :: fs)).run (Spelled.lexemesOfItems vs ++ (.closeArr :: ts))
      = (complete (.arr (done.reverse ++ vs)) fs).run ts := by
  match vs with
  | [] => exact absurd rfl hne
  | [v] =>
      show (Reading.value _).run ((v.lexemes ++ []) ++ (.closeArr :: ts)) = _
      rw [List.append_nil, run_lexemes v]
      show (complete (.arr (v :: done).reverse) fs).run ts = _
      rw [List.reverse_cons]
  | v :: w :: vs =>
      have hrest := run_items (w :: vs) (List.cons_ne_nil w vs) (v :: done) fs ts
      rw [List.reverse_cons, List.append_assoc] at hrest
      show (Reading.value _).run
        ((v.lexemes ++ (.comma :: Spelled.lexemesOfItems (w :: vs))) ++ (.closeArr :: ts)) = _
      rw [List.append_assoc, run_lexemes v]
      exact hrest

/-- The lexemes of some members complete an object, together with the members that are done. -/
theorem run_members (ms : List (List Char × Spelled)) (hne : ms ≠ [])
    (done : List (List Char × Spelled)) (fs : List Frame) (ts : List Lexeme) :
    (Reading.key done fs).run (Spelled.lexemesOfMembers ms ++ (.closeObj :: ts))
      = (complete (.obj (done.reverse ++ ms)) fs).run ts := by
  match ms with
  | [] => exact absurd rfl hne
  | [(k, v)] =>
      show (Reading.value (.members done k :: fs)).run
        ((v.lexemes ++ []) ++ (.closeObj :: ts)) = _
      rw [List.append_nil, run_lexemes v]
      show (complete (.obj ((k, v) :: done).reverse) fs).run ts = _
      rw [List.reverse_cons]
  | (k, v) :: m :: ms =>
      have hrest := run_members (m :: ms) (List.cons_ne_nil m ms) ((k, v) :: done) fs ts
      rw [List.reverse_cons, List.append_assoc] at hrest
      show (Reading.value (.members done k :: fs)).run
        ((v.lexemes ++ (.comma :: Spelled.lexemesOfMembers (m :: ms))) ++ (.closeObj :: ts)) = _
      rw [List.append_assoc, run_lexemes v]
      exact hrest

end

end Reading

/-- **The lexemes of a value** are those of this value alone. -/
theorem ofLexemes?_lexemes (v : Spelled) : Spelled.ofLexemes? v.lexemes = some v := by
  have hrun := Reading.run_lexemes v [] []
  rw [List.append_nil] at hrun
  unfold Spelled.ofLexemes?
  rw [hrun]
  rfl

end LakeCatalog.Json
