import LakeCatalog.Catalog.Tables
import Mathlib.Data.List.DropRight

/-!
# Slashes at the end of a text

Slashes at the end of a location do not count.

* `EndsInSlash` — texts that end in a slash, and what trimming makes of them;
* `Stripped` — a text without the slashes at its end;
* `Catalog.usableLocation_some` — a location that has nothing but slashes is none.
-/

namespace LakeCatalog

/-- The text ends in a slash. -/
def EndsInSlash (s : String) : Prop := s.toList.getLast? = some '/'

instance : DecidablePred EndsInSlash := fun s =>
  inferInstanceAs (Decidable (s.toList.getLast? = some '/'))

theorem not_endsInSlash_trimRight (s : String) : ¬EndsInSlash (Text.trimRight '/' s) := by
  intro h
  unfold EndsInSlash Text.trimRight at h
  rw [String.toList_ofList] at h
  exact absurd (Text.getLast?_dropRightWhile h) (by decide)

/-- Nothing is trimmed of a text that does not end in a slash. -/
theorem trimRight_of_not_endsInSlash {s : String} (h : ¬EndsInSlash s) :
    Text.trimRight '/' s = s := by
  have hsame : s.toList.rdropWhile (· = '/') = s.toList := by
    refine List.rdropWhile_eq_self_iff.2 fun hne hslash => h ?_
    unfold EndsInSlash
    rw [List.getLast?_eq_some_getLast hne, of_decide_eq_true hslash]
  apply String.toList_injective
  unfold Text.trimRight
  rw [String.toList_ofList]
  exact hsame

/-- What is put behind a text decides whether the whole ends in a slash. -/
theorem endsInSlash_append {a b : String} (hb : b ≠ "") :
    EndsInSlash (a ++ b) ↔ EndsInSlash b := by
  have hne : b.toList ≠ [] := fun h => hb (String.toList_injective h)
  unfold EndsInSlash
  rw [String.toList_append, List.getLast?_append_of_ne_nil _ hne]

/-! ### Texts without the slashes at their end -/

/-- The one text is the other without the slashes at its end. -/
def Stripped (text base : String) : Prop :=
  ¬EndsInSlash base ∧ ∃ k, text = base ++ String.ofList (List.replicate k '/')

/-- Trimming takes off just these slashes. -/
theorem stripped_iff {text base : String} :
    Stripped text base ↔ base = Text.trimRight '/' text := by
  constructor
  · rintro ⟨hbase, k, rfl⟩
    have hslashes : ∀ c ∈ List.replicate k '/', decide (c = '/') = true :=
      fun c hc => decide_eq_true (List.eq_of_mem_replicate hc)
    have htrim : Text.trimRight '/' (base ++ String.ofList (List.replicate k '/'))
        = Text.trimRight '/' base := by
      unfold Text.trimRight
      rw [String.toList_append, String.toList_ofList, Text.dropRightWhile_append_of_forall hslashes]
    rw [htrim, trimRight_of_not_endsInSlash hbase]
  · rintro rfl
    have htaken : text.toList.rtakeWhile (· = '/')
        = List.replicate (text.toList.rtakeWhile (· = '/')).length '/' := by
      refine List.eq_replicate_of_mem fun c hc => ?_
      simpa using List.mem_rtakeWhile_imp hc
    refine ⟨not_endsInSlash_trimRight text, (text.toList.rtakeWhile (· = '/')).length, ?_⟩
    apply String.toList_injective
    rw [← htaken, String.toList_append, String.toList_ofList]
    unfold Text.trimRight
    rw [String.toList_ofList]
    exact List.rdropWhile_append_rtakeWhile.symm

theorem stripped_trimRight (text : String) : Stripped text (Text.trimRight '/' text) :=
  stripped_iff.2 rfl

theorem Stripped.unique {text base base' : String} (h : Stripped text base)
    (h' : Stripped text base') : base = base' :=
  (stripped_iff.1 h).trans (stripped_iff.1 h').symm

/-! ### Locations that can be used -/

namespace Catalog

theorem usableLocation_some (location : String) :
    usableLocation (some location)
      = if Text.trimRight '/' location = "" then none else some (Text.trimRight '/' location) := by
  unfold usableLocation
  by_cases hnone : Text.trimRight '/' location = "" <;> simp [hnone]

theorem usableLocation_eq_none_iff {base : String} :
    usableLocation (some base) = none ↔ Text.trimRight '/' base = "" := by
  rw [usableLocation_some, ite_eq_left_iff]
  simp

end Catalog

end LakeCatalog
