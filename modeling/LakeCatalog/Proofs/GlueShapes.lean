import LakeCatalog.Glue.Shape
import LakeCatalog.Proofs.JsonRoundTrip

/-!
# Values of a shape are accepted

A remote metastore checks an answer against its shape while it is read.  A value that has a shape is
accepted under it as it is, in whichever way it is spelled.

* `HasShape` — a value has a shape, with room for so many containers inside each other;
* `numberOf?_of_value` — a number that files spell is a number in an answer too;
* `decode_of_hasShape` — any spelling of a value that has a shape is accepted and stands for it;
* `Carries`, `decodeMembers_of_carries` — a record with other members besides the given ones, of
  which some may be none that the reader knows.
-/

namespace LakeCatalog.Glue

open Json (Spelled)
open Decimal (Spelling)

/-- A value has a shape, with room for so many containers inside each other.  It holds no null, and
only members that its records know. -/
inductive HasShape : Nat → Shape → Json → Prop
  | string {room : Nat} (s : String) : HasShape room .string (.str s)
  | boolean {room : Nat} (b : Bool) : HasShape room .boolean (.bool b)
  | int32 {room : Nat} {i : Int} (h : isInt32 i = true) : HasShape room .int32 (.int i)
  | list {room : Nat} {item : Shape} {js : List Json} (h : ∀ j ∈ js, HasShape room item j) :
      HasShape (room + 1) (.list item) (.arr js)
  | map {room : Nat} {value : Shape} {ms : List (String × Json)}
      (h : ∀ m ∈ ms, HasShape room value m.2) : HasShape (room + 1) (.map value) (.obj ms)
  | record {room : Nat} {members : List (String × Shape)} {ms : List (String × Json)}
      (hknown : ∀ m ∈ ms, (Entries.lookup m.1 members).isSome = true)
      (h : ∀ m ∈ ms, ∀ shape, Entries.lookup m.1 members = some shape → HasShape room shape m.2) :
      HasShape (room + 1) (.structure members) (.obj ms)

variable {room : Nat} {shape : Shape} {j : Json}

theorem HasShape.ne_null (h : HasShape room shape j) : j ≠ .null := by
  cases h <;> exact Json.noConfusion

/-! ### Numbers -/

/-- A whole number of a file is spelled without a point and an exponent. -/
theorem spelling_of_numberValue? {cs : List Char} {i : Int}
    (h : Json.numberValue? cs = some (.int i)) :
    ∃ s : Spelling, Spelling.ofText? cs = some s ∧ s.isNumber = true ∧ s.isPlain = true ∧
      Json.IsWord i ∧ s.integer = i := by
  unfold Json.numberValue? at h
  cases hs : Spelling.ofText? cs with
  | none =>
      rw [hs] at h
      cases h
  | some s =>
      rw [hs] at h
      simp only [bind, Option.bind] at h
      split at h
      · rename_i hstandard
        split at h
        · rename_i hplain
          obtain ⟨hplain, hword, -⟩ := hplain
          simp only [Option.some.injEq, Json.int.injEq] at h
          unfold Json.isStandard at hstandard
          simp only [Bool.and_eq_true] at hstandard
          exact ⟨s, rfl, hstandard.1.1, hplain, h ▸ hword, h⟩
        · split at h <;> cases h
      · cases h

theorem numberOf?_of_value {cs : List Char} {i : Int} (h : Json.numberValue? cs = some (.int i))
    (hi : isInt32 i = true) : numberOf? .int32 cs = some (.int i) := by
  obtain ⟨s, hs, hnumber, hplain, hword, hinteger⟩ := spelling_of_numberValue? h
  have hread : number? cs = some s := by
    have hfits : s.integer.natAbs < 0x10000000000000000 := by
      obtain ⟨hlow, hhigh⟩ := hword
      omega
    unfold number?
    rw [hs]
    exact if_pos ⟨hnumber, fun _ => hfits⟩
  have hwhole : whole? s = some i := by
    unfold whole?
    rw [hinteger]
    exact if_pos ⟨hplain, hword⟩
  unfold numberOf?
  rw [hread]
  show ((whole? s).filter isInt32).map Json.int = _
  rw [hwhole, Option.filter_some, if_pos hi]
  rfl

/-! ### Spellings of a value -/

/-- A number stands for a whole number or for a decimal. -/
theorem numberValue?_cases {cs : List Char} {j : Json} (h : Json.numberValue? cs = some j) :
    (∃ i, j = .int i) ∨ ∃ d, j = .decimal d := by
  unfold Json.numberValue? at h
  cases hs : Spelling.ofText? cs with
  | none =>
      rw [hs] at h
      cases h
  | some s =>
      rw [hs] at h
      simp only [bind, Option.bind] at h
      split at h
      · split at h
        · exact .inl ⟨_, (Option.some.inj h).symm⟩
        · split at h
          · exact .inr ⟨_, (Option.some.inj h).symm⟩
          · cases h
      · cases h

/-- How a value is spelled that holds no decimal. -/
theorem spelling_of_value? {v : Spelled} (h : v.value? = some j) :
    match j with
    | .null => v = .null
    | .bool b => v = .bool b
    | .int i => ∃ cs, v = .number cs ∧ Json.numberValue? cs = some (.int i)
    | .decimal d => ∃ cs, v = .number cs ∧ Json.numberValue? cs = some (.decimal d)
    | .str s => ∃ cs, v = .text cs ∧ Json.textValue? cs = some s
    | .arr js => ∃ vs, v = .arr vs ∧ Spelled.valuesOfItems? vs = some js
    | .obj ms => ∃ vs, v = .obj vs ∧ Spelled.valuesOfMembers? vs = some ms := by
  cases v with
  | null =>
      cases h
      rfl
  | bool b =>
      cases h
      rfl
  | number cs =>
      rcases numberValue?_cases h with ⟨i, rfl⟩ | ⟨d, rfl⟩
      · exact ⟨cs, rfl, h⟩
      · exact ⟨cs, rfl, h⟩
  | text cs =>
      obtain ⟨s, hs, rfl⟩ := Option.map_eq_some_iff.1 h
      exact ⟨cs, rfl, hs⟩
  | arr vs =>
      obtain ⟨js, hjs, rfl⟩ := Option.map_eq_some_iff.1 h
      exact ⟨vs, rfl, hjs⟩
  | obj vs =>
      obtain ⟨ms, hms, rfl⟩ := Option.map_eq_some_iff.1 h
      exact ⟨vs, rfl, hms⟩

theorem valuesOfItems?_cons {v : Spelled} {vs : List Spelled} {js : List Json}
    (h : Spelled.valuesOfItems? (v :: vs) = some js) :
    ∃ j js', v.value? = some j ∧ Spelled.valuesOfItems? vs = some js' ∧ js = j :: js' := by
  unfold Spelled.valuesOfItems? at h
  split at h
  · rename_i j js' hj hjs
    exact ⟨j, js', hj, hjs, (Option.some.inj h).symm⟩
  · cases h

theorem valuesOfMembers?_cons {k : List Char} {v : Spelled} {vs : List (List Char × Spelled)}
    {ms : List (String × Json)} (h : Spelled.valuesOfMembers? ((k, v) :: vs) = some ms) :
    ∃ name j ms', Json.textValue? k = some name ∧ v.value? = some j ∧
      Spelled.valuesOfMembers? vs = some ms' ∧ ms = (name, j) :: ms' := by
  unfold Spelled.valuesOfMembers? at h
  split at h
  · rename_i name j ms' hname hj hms
    exact ⟨name, j, ms', hname, hj, hms, (Option.some.inj h).symm⟩
  · cases h

/-- The item is decoded and stands before the others. -/
theorem decodeItems_cons {v : Spelled} {vs : List Spelled} {js : List Json}
    (hv : decode room shape v = some j) (hnull : j ≠ .null)
    (hvs : decodeItems room shape vs = some js) :
    decodeItems room shape (v :: vs) = some (j :: js) := by
  unfold decodeItems
  rw [hv, hvs]
  cases j with
  | null => exact absurd rfl hnull
  | _ => rfl

theorem decodeItems_of_values {js : List Json} (hnull : ∀ j ∈ js, j ≠ .null)
    (hdecode : ∀ j ∈ js, ∀ v : Spelled, v.value? = some j → decode room shape v = some j)
    {vs : List Spelled} (h : Spelled.valuesOfItems? vs = some js) :
    decodeItems room shape vs = some js := by
  induction vs generalizing js with
  | nil =>
      cases h
      rfl
  | cons v vs ih =>
      obtain ⟨j, js', hj, hjs, rfl⟩ := valuesOfItems?_cons h
      rw [List.forall_mem_cons] at hnull hdecode
      exact decodeItems_cons (hdecode.1 v hj) hnull.1 (ih hnull.2 hdecode.2 hjs)

theorem decodeMembers_values_cons {k : List Char} {name : String} {v : Spelled}
    {vs : List (List Char × Spelled)} {ms : List (String × Json)}
    (hk : Json.textValue? k = some name) (hv : decode room shape v = some j) (hnull : j ≠ .null)
    (hvs : decodeMembers room (.values shape) vs = some ms) :
    decodeMembers room (.values shape) ((k, v) :: vs) = some ((name, j) :: ms) := by
  unfold decodeMembers
  rw [hk, hvs]
  simp only [hv]

theorem decodeMembers_of_values {ms : List (String × Json)} (hnull : ∀ m ∈ ms, m.2 ≠ .null)
    (hdecode : ∀ m ∈ ms, ∀ v : Spelled, v.value? = some m.2 → decode room shape v = some m.2)
    {vs : List (List Char × Spelled)} (h : Spelled.valuesOfMembers? vs = some ms) :
    decodeMembers room (.values shape) vs = some ms := by
  induction vs generalizing ms with
  | nil =>
      cases h
      rfl
  | cons w vs ih =>
      obtain ⟨k, v⟩ := w
      obtain ⟨name, j, ms', hname, hj, hms, rfl⟩ := valuesOfMembers?_cons h
      rw [List.forall_mem_cons] at hnull hdecode
      exact decodeMembers_values_cons hname (hdecode.1 v hj) hnull.1 (ih hnull.2 hdecode.2 hms)

theorem decodeMembers_known_cons {k : List Char} {name : String} {v : Spelled}
    {vs : List (List Char × Spelled)} {ms : List (String × Json)}
    {members : List (String × Shape)} (hk : Json.textValue? k = some name)
    (hshape : Entries.lookup name members = some shape) (hv : decode room shape v = some j)
    (hvs : decodeMembers room (.known members) vs = some ms) :
    decodeMembers room (.known members) ((k, v) :: vs) = some ((name, j) :: ms) := by
  unfold decodeMembers
  rw [hk, hvs]
  simp only [hshape, hv]
  rfl

theorem decodeMembers_of_known {members : List (String × Shape)} {ms : List (String × Json)}
    (hknown : ∀ m ∈ ms, (Entries.lookup m.1 members).isSome = true)
    (hdecode : ∀ m ∈ ms, ∀ shape, Entries.lookup m.1 members = some shape →
      ∀ v : Spelled, v.value? = some m.2 → decode room shape v = some m.2)
    {vs : List (List Char × Spelled)} (h : Spelled.valuesOfMembers? vs = some ms) :
    decodeMembers room (.known members) vs = some ms := by
  induction vs generalizing ms with
  | nil =>
      cases h
      rfl
  | cons w vs ih =>
      obtain ⟨k, v⟩ := w
      obtain ⟨name, j, ms', hname, hj, hms, rfl⟩ := valuesOfMembers?_cons h
      rw [List.forall_mem_cons] at hknown hdecode
      obtain ⟨shape, hshape⟩ := Option.isSome_iff_exists.1 hknown.1
      exact decodeMembers_known_cons hname hshape (hdecode.1 shape hshape v hj)
        (ih hknown.2 hdecode.2 hms)

/-- **A value that has a shape** is accepted under it, in whichever way it is spelled. -/
theorem decode_of_hasShape (h : HasShape room shape j) {v : Spelled} (hv : v.value? = some j) :
    decode room shape v = some j := by
  induction h generalizing v with
  | string s =>
      obtain ⟨cs, rfl, hs⟩ := spelling_of_value? hv
      show (Json.textValue? cs).map Json.str = _
      rw [hs]
      rfl
  | boolean b =>
      have hbool : v = .bool b := spelling_of_value? hv
      subst hbool
      rfl
  | int32 hi =>
      obtain ⟨cs, rfl, hnumber⟩ := spelling_of_value? hv
      exact numberOf?_of_value hnumber hi
  | list hitems ih =>
      obtain ⟨vs, rfl, hvs⟩ := spelling_of_value? hv
      have hdecode := decodeItems_of_values (fun j hj => (hitems j hj).ne_null)
        (fun j hj v hv => ih j hj hv) hvs
      show (decodeItems _ _ vs).map Json.arr = _
      rw [hdecode]
      rfl
  | map hvalues ih =>
      obtain ⟨vs, rfl, hvs⟩ := spelling_of_value? hv
      have hdecode := decodeMembers_of_values (fun m hm => (hvalues m hm).ne_null)
        (fun m hm v hv => ih m hm hv) hvs
      show (decodeMembers _ _ vs).map Json.obj = _
      rw [hdecode]
      rfl
  | record hknown hmembers ih =>
      obtain ⟨vs, rfl, hvs⟩ := spelling_of_value? hv
      have hdecode := decodeMembers_of_known hknown
        (fun m hm shape hshape v hv => ih m hm shape hshape hv) hvs
      show (decodeMembers _ _ vs).map Json.obj = _
      rw [hdecode]
      rfl

/-! ### A record with members of other names -/

/-- A spelled member has a name and a value. -/
def Stands (w : List Char × Spelled) (m : String × Json) : Prop :=
  Json.textValue? w.1 = some m.1 ∧ w.2.value? = some m.2

/-- A spelled member is none of some names, and is accepted in a record. -/
def StandsApart (room : Nat) (members : List (String × Shape)) (names : List String)
    (w : List Char × Spelled) : Prop :=
  ∃ name, Json.textValue? w.1 = some name ∧ name ∉ names ∧
    match Entries.lookup name members with
    | some shape => (decode room shape w.2).isSome = true
    | none => isSkippable maxSkippedDepth w.2 = true

/-- The spelled members of a record are some given ones and others, which have none of some
names. -/
structure Carries (room : Nat) (members : List (String × Shape)) (names : List String)
    (ms : List (String × Json)) (ws : List (List Char × Spelled)) : Prop where
  kept : ∀ m ∈ ms, ∃ w ∈ ws, Stands w m
  others : ∀ w ∈ ws, (∃ m ∈ ms, Stands w m) ∨ StandsApart room members names w

theorem Stands.unique {w : List Char × Spelled} {m m' : String × Json} (h : Stands w m)
    (h' : Stands w m') : m = m' :=
  Prod.ext (Option.some.inj (h.1.symm.trans h'.1)) (Option.some.inj (h.2.symm.trans h'.2))

section Carries

variable {members : List (String × Shape)} {names : List String} {ms : List (String × Json)}
  {w : List Char × Spelled} {ws : List (List Char × Spelled)} {js : List (String × Json)}

/-- A given member is decoded as it is. -/
theorem decodeMembers_stands (hms : HasShape (room + 1) (.structure members) (.obj ms))
    {m : String × Json} (hm : m ∈ ms) (hw : Stands w m)
    (hws : decodeMembers room (.known members) ws = some js) :
    decodeMembers room (.known members) (w :: ws) = some (m :: js) := by
  cases hms with
  | record hknown hshapes =>
      obtain ⟨shape, hshape⟩ := Option.isSome_iff_exists.1 (hknown m hm)
      exact decodeMembers_known_cons hw.1 hshape
        (decode_of_hasShape (hshapes m hm shape hshape) hw.2) hws

/-- Any other member is decoded under its own name, or passed over. -/
theorem decodeMembers_apart (hw : StandsApart room members names w)
    (hws : decodeMembers room (.known members) ws = some js) :
    ∃ js', decodeMembers room (.known members) (w :: ws) = some js' ∧
      ∀ m, m.1 ∈ names → (m ∈ js' ↔ m ∈ js) := by
  obtain ⟨k, v⟩ := w
  obtain ⟨name, hname, hapart, haccepted⟩ := hw
  cases hlookup : Entries.lookup name members with
  | some shape =>
      rw [hlookup] at haccepted
      obtain ⟨j, hj⟩ := Option.isSome_iff_exists.1 haccepted
      refine ⟨(name, j) :: js, decodeMembers_known_cons hname hlookup hj hws, ?_⟩
      intro m hm
      have hne : m ≠ (name, j) := by
        rintro rfl
        exact hapart hm
      rw [List.mem_cons, or_iff_right hne]
  | none =>
      rw [hlookup] at haccepted
      refine ⟨js, ?_, fun _ _ => Iff.rfl⟩
      unfold decodeMembers
      rw [hname, hws]
      simp only [hlookup]
      exact if_pos haccepted

/-- **A record with other members** is accepted, and among those of the names it has exactly the
given members. -/
theorem decodeMembers_of_carries (hms : HasShape (room + 1) (.structure members) (.obj ms))
    (hws : Carries room members names ms ws) :
    ∃ js, decodeMembers room (.known members) ws = some js ∧
      ∀ m, m.1 ∈ names → (m ∈ js ↔ m ∈ ms) := by
  -- Of a first part of the members, those that it holds of the given ones are decoded.
  have hpart : ∀ ws : List (List Char × Spelled),
      (∀ w ∈ ws, (∃ m ∈ ms, Stands w m) ∨ StandsApart room members names w) →
      ∃ js, decodeMembers room (.known members) ws = some js ∧
        ∀ m, m.1 ∈ names → (m ∈ js ↔ m ∈ ms ∧ ∃ w ∈ ws, Stands w m) := by
    intro ws
    induction ws with
    | nil =>
        intro _
        exact ⟨[], rfl, fun m _ => iff_of_false List.not_mem_nil (by simp)⟩
    | cons w ws ih =>
        intro hothers
        rw [List.forall_mem_cons] at hothers
        obtain ⟨js, hjs, hmem⟩ := ih hothers.2
        rcases hothers.1 with ⟨m, hm, hw⟩ | hw
        · refine ⟨m :: js, decodeMembers_stands hms hm hw hjs, ?_⟩
          intro m' hm'
          simp only [List.mem_cons, hmem m' hm', exists_eq_or_imp]
          constructor
          · rintro (rfl | ⟨hgiven, hstands⟩)
            · exact ⟨hm, .inl hw⟩
            · exact ⟨hgiven, .inr hstands⟩
          · rintro ⟨hgiven, hw' | hstands⟩
            · exact .inl (hw'.unique hw)
            · exact .inr ⟨hgiven, hstands⟩
        · obtain ⟨js', hjs', hsame⟩ := decodeMembers_apart hw hjs
          refine ⟨js', hjs', ?_⟩
          intro m' hm'
          have hnot : ¬Stands w m' := by
            intro hstands
            obtain ⟨name, hname, hapart, -⟩ := hw
            exact hapart (Option.some.inj (hname.symm.trans hstands.1) ▸ hm')
          simp only [hsame m' hm', hmem m' hm', List.mem_cons, exists_eq_or_imp]
          rw [or_iff_right hnot]
  obtain ⟨js, hjs, hmem⟩ := hpart ws hws.others
  refine ⟨js, hjs, ?_⟩
  intro m hm
  rw [hmem m hm, and_iff_left_of_imp fun hgiven => hws.kept m hgiven]

end Carries

end LakeCatalog.Glue
