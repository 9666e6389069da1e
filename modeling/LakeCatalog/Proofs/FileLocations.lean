import LakeCatalog.Proofs.UrlNames
import LakeCatalog.Table.Metadata
import LakeCatalog.Backend
import Mathlib.Data.List.Basic

/-!
# Where metadata files lie

The metadata file of a new table is named after a fresh id.  Whether the name counts is a matter of
the location of the table.

* `Plain` — the locations without question marks and number signs; at these, the name of a file is
  the last part of its path (`lastPart_of_plain`);
* `pathOf_of_marked` — at all other locations the name counts for nothing, and all metadata files
  of the table are one object.
-/

namespace LakeCatalog

namespace Metadata

/-! ### Names of metadata files -/

/-- The folder of the metadata files of a table. -/
def folder : List Char := "metadata".toList

/-- The name of a new metadata file. -/
def fileName (fileId : Uuid) : List Char :=
  "00000-".toList ++ fileId.text.toList ++ ".metadata.json".toList

theorem fileLocation_eq (fileId : Uuid) (location : String) :
    fileLocation fileId location = String.ofList ((Text.trimRight '/' location).toList
      ++ '/' :: (folder ++ '/' :: fileName fileId)) := by
  apply String.ext
  unfold fileLocation folder fileName
  simp only [String.toList_append, String.toList_ofList, List.append_assoc]
  rfl

theorem isNameChar_of_mem_grouped {cs : List Char} (h : ∀ c ∈ cs, Url.isNameChar c = true) :
    ∀ c ∈ Uuid.grouped cs, Url.isNameChar c = true := by
  intro c hc
  have hhyphen : Url.isNameChar '-' = true := by decide
  unfold Uuid.grouped at hc
  simp only [List.mem_append, List.mem_cons] at hc
  rcases hc with hc | rfl | hc | rfl | hc | rfl | hc | rfl | hc
  · exact h c (List.mem_of_mem_take hc)
  · exact hhyphen
  · exact h c (List.mem_of_mem_drop (List.mem_of_mem_take hc))
  · exact hhyphen
  · exact h c (List.mem_of_mem_drop (List.mem_of_mem_take hc))
  · exact hhyphen
  · exact h c (List.mem_of_mem_drop (List.mem_of_mem_take hc))
  · exact hhyphen
  · exact h c (List.mem_of_mem_drop hc)

theorem isNameChar_of_mem_text (u : Uuid) : ∀ c ∈ u.text.toList, Url.isNameChar c = true := by
  unfold Uuid.text
  rw [String.toList_ofList]
  apply isNameChar_of_mem_grouped
  intro c hc
  have hdigits : ∀ d : Fin 16, Url.isNameChar (Text.lowerDigit d.val) = true := by decide
  obtain ⟨d, -, rfl⟩ := List.mem_map.1 hc
  exact hdigits d

theorem isFileName_fileName (fileId : Uuid) : Url.IsFileName (fileName fileId) where
  chars := by
    intro c hc
    unfold fileName at hc
    rcases List.mem_append.1 hc with hc | hc
    · rcases List.mem_append.1 hc with hc | hc
      · have hzeros : "00000-".toList.all Url.isNameChar = true := by decide
        exact List.all_eq_true.1 hzeros c hc
      · exact isNameChar_of_mem_text fileId c hc
    · have hending : ".metadata.json".toList.all Url.isNameChar = true := by decide
      exact List.all_eq_true.1 hending c hc
  zero := ⟨_, rfl⟩

/-- A text that ends in the name of a metadata file does not end in a blank. -/
theorem solid_of_getLast? {fileId : Uuid} {a : List Char} {c : Char}
    (hc : (a ++ fileName fileId).getLast? = some c) : Url.IsSolid c := by
  have hname := isFileName_fileName fileId
  obtain ⟨cs, hcs⟩ := hname.zero
  rw [List.getLast?_append_of_ne_nil _ (by simp [hcs])] at hc
  exact (Url.standsForItself (hname.chars c (List.mem_of_getLast? hc))).solid

theorem isNameChar_of_mem_folder : ∀ c ∈ folder, Url.isNameChar c = true := by
  have hall : folder.all Url.isNameChar = true := by decide
  exact List.all_eq_true.1 hall

/-! ### Locations with and without marks -/

/-- A location without question marks and number signs. -/
def Plain (location : String) : Prop := Url.Unmarked location.toList

instance (location : String) : Decidable (Plain location) :=
  inferInstanceAs (Decidable (∀ c ∈ location.toList, Url.isMark c = false))

variable {location path : String} {fileId : Uuid}

/-- Slashes at the end make no difference. -/
theorem unmarked_trimRight :
    Url.Unmarked (Text.trimRight '/' location).toList ↔ Plain location := by
  have htrimmed : (Text.trimRight '/' location).toList
      = (location.toList.reverse.dropWhile (· = '/')).reverse := String.toList_ofList
  rw [htrimmed]
  constructor
  · intro h c hc
    rw [← List.mem_reverse,
      ← List.takeWhile_append_dropWhile (p := (· = '/')) (l := location.toList.reverse)] at hc
    rcases List.mem_append.1 hc with hc | hc
    · have hslash := List.mem_takeWhile_imp hc
      rw [decide_eq_true_iff] at hslash
      rw [hslash]
      rfl
    · exact h c (List.mem_reverse.2 hc)
  · intro h
    refine h.of_subset ?_
    intro c hc
    exact List.mem_reverse.1 (Url.mem_of_mem_dropWhile (List.mem_reverse.1 hc))

/-- At a plain location, the name of a metadata file is the last part of its path. -/
theorem lastPart_of_plain (h : Plain location)
    (hpath : Objects.pathOf (fileLocation fileId location) = .ok path) :
    ObjectPath.lastPart path = some (fileName fileId) := by
  rw [fileLocation_eq] at hpath
  unfold Objects.pathOf at hpath
  cases hof : ObjectPath.ofLocation (String.ofList ((Text.trimRight '/' location).toList
      ++ '/' :: (folder ++ '/' :: fileName fileId))) with
  | error e =>
      rw [hof] at hpath
      cases hpath
  | ok found =>
      rw [hof] at hpath
      cases hpath
      exact ObjectPath.lastPart_of_ofLocation (isFileName_fileName fileId)
        isNameChar_of_mem_folder (by decide) (unmarked_trimRight.2 h) hof

/-- The first mark of a location splits it. -/
theorem exists_mark {cs : List Char} (h : ¬Url.Unmarked cs) :
    ∃ a m rest, cs = a ++ m :: rest ∧ Url.Unmarked a ∧ Url.isMark m = true := by
  induction cs with
  | nil => exact absurd (fun c hc => nomatch hc) h
  | cons c cs ih =>
      by_cases hc : Url.isMark c = true
      · exact ⟨[], c, cs, rfl, (fun d hd => nomatch hd), hc⟩
      · have hrest : ¬Url.Unmarked cs := by
          intro hcs
          apply h
          intro d hd
          rcases List.mem_cons.1 hd with rfl | hd
          · exact Bool.eq_false_iff.2 hc
          · exact hcs d hd
        obtain ⟨a, m, rest, rfl, ha, hm⟩ := ih hrest
        refine ⟨c :: a, m, rest, rfl, ?_, hm⟩
        intro d hd
        rcases List.mem_cons.1 hd with rfl | hd
        · exact Bool.eq_false_iff.2 hc
        · exact ha d hd

/-- At a location with a mark, all metadata files are the same object. -/
theorem ofLocation_of_marked (h : ¬Plain location) (fileId fileId' : Uuid) :
    ObjectPath.ofLocation (fileLocation fileId location)
      = ObjectPath.ofLocation (fileLocation fileId' location) := by
  obtain ⟨a, m, rest, hsplit, ha, hm⟩ := exists_mark (mt unmarked_trimRight.1 h)
  obtain ⟨result, hresult⟩ := Url.parse_mark hm ha
  have hparse : ∀ fileId, Url.parse (fileLocation fileId location) = result := by
    intro fileId
    rw [fileLocation_eq, hsplit, List.append_assoc, List.cons_append]
    apply hresult
    intro c hc
    have hend : m :: (rest ++ '/' :: (folder ++ '/' :: fileName fileId))
        = (m :: (rest ++ '/' :: (folder ++ ['/']))) ++ fileName fileId := by simp
    rw [hend] at hc
    exact solid_of_getLast? hc
  unfold ObjectPath.ofLocation ObjectPath.segments
  rw [hparse, hparse]

theorem pathOf_of_marked (h : ¬Plain location)
    (hpath : Objects.pathOf (fileLocation fileId location) = .ok path) (fileId' : Uuid) :
    Objects.pathOf (fileLocation fileId' location) = .ok path := by
  unfold Objects.pathOf at hpath ⊢
  rw [ofLocation_of_marked h fileId' fileId]
  cases hof : ObjectPath.ofLocation (fileLocation fileId location) with
  | error e =>
      rw [hof] at hpath
      cases hpath
  | ok found =>
      rw [hof] at hpath
      cases hpath
      rfl

end Metadata

end LakeCatalog
