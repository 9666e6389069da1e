import LakeCatalog.ObjectStore.Path
import LakeCatalog.Proofs.UrlTexts

/-!
# What a location says about the path of its object

Two facts about all locations, which together decide whether a file name at the end of a location
is part of the path of the object:

* `parse_mark` — behind a question mark or number sign, nothing counts;
* `parse_name` — without them, a plain name behind the last slash is the last part of the path.

Both follow the kinds of schemes, with one lemma for each of `parseOther`, `parseSpecial` and
`parseFile`.
-/

namespace LakeCatalog.Url

open Text (splitOn joinWith isLetter isDigit lower)

/-! ### Texts after the colon of an unknown scheme -/

theorem parseOther_rooted {cs : List Char} (h : ∀ b, cs ≠ '/' :: b) :
    parseOther ('/' :: cs)
      = .ok (.rooted (Path.resolve false [] (rawSegments .other (beforeQuery ('/' :: cs))))) := by
  unfold parseOther
  split
  · rename_i heq
    exact absurd (List.cons.inj heq).2 (h _)
  · rfl
  · rename_i hne
    exact absurd rfl (hne _)

theorem parseOther_unrooted {cs : List Char} (h : ∀ b, cs ≠ '/' :: b) :
    parseOther cs = .ok (.opaque_ (Text.Percent.encode isOpaqueChar (beforeQuery cs))) := by
  unfold parseOther
  split
  · exact absurd rfl (h _)
  · exact absurd rfl (h _)
  · rfl

/-- A text that does not begin with a character does not begin with it when more follows. -/
theorem ne_cons_append {x m : Char} {a : List Char} (hm : m ≠ x) (h : ∀ b, a ≠ x :: b)
    (rest : List Char) : ∀ b, a ++ m :: rest ≠ x :: b := by
  intro b hb
  cases a with
  | nil => exact hm (List.cons.inj hb).1
  | cons c a => exact h a (by rw [(List.cons.inj hb).1])

/-! ### Schemes -/

/-- The path of a text after its colon, for each kind of scheme: files are read with the breaks. -/
def parsePath (kind : Kind) (breaks text : List Char) : Except Fault Path :=
  match kind with
  | .file => parseFile breaks
  | .special => parseSpecial text
  | .other => parseOther text

/-- What follows the first colon of a text. -/
theorem afterColon {a : List Char} (h : ':' ∈ a) : ∃ b, (∀ c ∈ b, c ∈ a) ∧
    ∀ rest, ((a ++ rest).dropWhile (· ≠ ':')).drop 1 = b ++ rest := by
  induction a with
  | nil => cases h
  | cons c a ih =>
      by_cases hc : c = ':'
      · subst hc
        exact ⟨a, fun c hc => List.mem_cons_of_mem _ hc, fun rest => by simp⟩
      · have hmem : ':' ∈ a := by
          rcases List.mem_cons.1 h with h | h
          · exact absurd h.symm hc
          · exact h
        obtain ⟨b, hb, heq⟩ := ih hmem
        refine ⟨b, fun d hd => List.mem_cons_of_mem _ (hb d hd), ?_⟩
        intro rest
        rw [← heq rest]
        simp [hc]

/-- The scheme of a URL does not depend on what stands behind a character that ends schemes. -/
theorem parse_stop {x : Char} (hsolid : IsSolid x) (hscheme : isSchemeChar x = false)
    (hcolon : x ≠ ':') (a : List Char) :
    (∀ rest, (∀ c, (x :: rest).getLast? = some c → IsSolid c) →
      parse (String.ofList (a ++ x :: rest)) = .error .relative) ∨
    ∃ scheme d r, (∀ c ∈ d, c ∈ a) ∧ (∀ c ∈ r, c ∈ a) ∧
      ∀ rest, (∀ c, (x :: rest).getLast? = some c → IsSolid c) →
        parse (String.ofList (a ++ x :: rest))
          = (parsePath (kindOf scheme) (d ++ x :: rest) (r ++ x :: dropBreaks rest)).map
              (⟨scheme, ·⟩) := by
  obtain ⟨b, hb, htrim⟩ : ∃ b, (∀ c ∈ b, c ∈ a) ∧
      ∀ rest, (∀ c, (x :: rest).getLast? = some c → IsSolid c) →
        trim (a ++ x :: rest) = b ++ x :: rest :=
    ⟨_, fun c hc => mem_of_mem_dropWhile hc, fun rest hlast => trim_stop hsolid a hlast⟩
  have hparse : ∀ rest, (∀ c, (x :: rest).getLast? = some c → IsSolid c) →
      parse (String.ofList (a ++ x :: rest))
        = ((splitScheme? (dropBreaks b)).map fun r => (r.1, r.2 ++ x :: dropBreaks rest)).elim
          (.error .relative) fun sr =>
            (parsePath (kindOf sr.1) (((b ++ x :: rest).dropWhile (· ≠ ':')).drop 1) sr.2).map
              (⟨sr.1, ·⟩) := by
    intro rest hlast
    rw [← splitScheme?_stop hscheme hcolon, ← dropBreaks_cons (not_break_of_solid hsolid),
      ← dropBreaks_append, ← htrim rest hlast]
    unfold parse
    rw [String.toList_ofList]
    dsimp only
    cases splitScheme? (dropBreaks (trim (a ++ x :: rest))) with
    | none => rfl
    | some sr => rfl
  cases hsplit : splitScheme? (dropBreaks b) with
  | none =>
      left
      intro rest hlast
      rw [hparse rest hlast, hsplit]
      rfl
  | some sr =>
      obtain ⟨scheme, r⟩ := sr
      obtain ⟨pre, hpre⟩ := splitScheme?_suffix hsplit
      have hmem : ∀ c, c ∈ ':' :: r → c ∈ b := by
        intro c hc
        apply mem_of_mem_dropBreaks
        rw [hpre]
        exact List.mem_append_right _ hc
      obtain ⟨d, hd, hafter⟩ := afterColon (hmem ':' (List.mem_cons_self))
      right
      refine ⟨scheme, d, r, fun c hc => hb c (hd c hc),
        fun c hc => hb c (hmem c (List.mem_cons_of_mem _ hc)), ?_⟩
      intro rest hlast
      rw [hparse rest hlast, hsplit, hafter]
      rfl

/-! ### Behind a mark -/

section Marks

variable {m : Char} {a : List Char}

theorem pathAfterAddress_mark (hm : isMark m = true) (ha : Unmarked a) (kind : Kind)
    (rest : List Char) : pathAfterAddress kind (a ++ m :: rest) = pathAfterAddress kind a := by
  unfold pathAfterAddress
  rw [beforeQuery_mark ha hm, beforeQuery_unmarked ha]

theorem filePath_mark (hm : isMark m = true) (ha : Unmarked a) (done : List (List Char))
    (rest : List Char) : filePath done (a ++ m :: rest) = filePath done a := by
  unfold filePath
  rw [beforeQuery_mark ha hm, beforeQuery_unmarked ha]

/-- A path that follows an address does not depend on what stands behind a mark. -/
theorem addressPath_mark (hm : isMark m = true) (ha : Unmarked a) (kind : Kind) :
    ∃ result, ∀ rest, (checkAddress kind (a ++ m :: rest)).map (pathAfterAddress kind)
      = result := by
  rcases checkAddress_stop kind (Or.inr hm) a with ⟨e, h⟩ | ⟨b, hb, h⟩
  · exact ⟨.error e, fun rest => by rw [h]; rfl⟩
  · refine ⟨.ok (pathAfterAddress kind b), ?_⟩
    intro rest
    rw [h]
    show Except.ok (pathAfterAddress kind (b ++ m :: rest)) = _
    rw [pathAfterAddress_mark hm (ha.of_subset hb)]

theorem ne_slash_of_mark (hm : isMark m = true) : m ≠ '/' := by
  rintro rfl
  exact absurd hm (by decide)

theorem parseOther_mark (hm : isMark m = true) (ha : Unmarked a) :
    ∃ result, ∀ rest, parseOther (a ++ m :: rest) = result := by
  have hslash := ne_slash_of_mark hm
  have hopaque : (∀ b, a ≠ '/' :: b) → ∃ result, ∀ rest, parseOther (a ++ m :: rest) = result := by
    intro hne
    refine ⟨.ok (.opaque_ (Text.Percent.encode isOpaqueChar a)), ?_⟩
    intro rest
    rw [parseOther_unrooted (ne_cons_append hslash hne rest), beforeQuery_mark ha hm]
  cases a with
  | nil => exact hopaque fun b h => nomatch h
  | cons c a =>
      by_cases hc : c = '/'
      · subst hc
        by_cases haddress : ∃ b, a = '/' :: b
        · obtain ⟨b, rfl⟩ := haddress
          have hb : Unmarked b :=
            ha.of_subset fun e he => List.mem_cons_of_mem _ (List.mem_cons_of_mem _ he)
          exact addressPath_mark hm hb .other
        · have hne : ∀ b, a ≠ '/' :: b := fun b h => haddress ⟨b, h⟩
          refine ⟨.ok (.rooted (Path.resolve false [] (rawSegments .other ('/' :: a)))), ?_⟩
          intro rest
          rw [List.cons_append, parseOther_rooted (ne_cons_append hslash hne rest),
            ← List.cons_append, beforeQuery_mark ha hm]
      · exact hopaque fun b h => hc (List.cons.inj h).1

theorem parseSpecial_mark (hm : isMark m = true) (ha : Unmarked a) :
    ∃ result, ∀ rest, parseSpecial (a ++ m :: rest) = result := by
  have hslash : isSlash .special m = false := by
    rcases eq_of_stop (Or.inr hm) with rfl | rfl | rfl
    · exact absurd hm (by decide)
    · rfl
    · rfl
  have hrest : Unmarked (a.dropWhile (isSlash .special)) :=
    ha.of_subset fun c hc => mem_of_mem_dropWhile hc
  obtain ⟨result, h⟩ := addressPath_mark hm hrest .special
  refine ⟨result, ?_⟩
  intro rest
  unfold parseSpecial
  rw [dropWhile_stop hslash, h]

/-- Two slashes at the head of a text stand before a character that is neither a slash nor a
break, or not at all. -/
theorem afterSlashes?_stop (hbreak : isBreak m = false) {kind : Kind}
    (hslash : isSlash kind m = false) (a rest : List Char) :
    afterSlashes? kind (a ++ m :: rest) = (afterSlashes? kind a).map (· ++ m :: rest) := by
  unfold afterSlashes?
  rw [dropWhile_stop hbreak]
  cases a.dropWhile isBreak with
  | nil =>
      simp only [List.nil_append, Option.map_none]
      cases rest.dropWhile isBreak with
      | nil => rfl
      | cons b r => simp [hslash]
  | cons c a =>
      simp only [List.cons_append]
      rw [dropWhile_stop hbreak]
      cases a.dropWhile isBreak with
      | nil => simp [hslash]
      | cons b r =>
          by_cases hboth : isSlash kind c = true ∧ isSlash kind b = true
          · simp [hboth]
          · simp [hboth]

theorem mem_of_afterSlashes? {kind : Kind} {b : List Char} {c : Char}
    (h : afterSlashes? kind a = some b) (hc : c ∈ b) : c ∈ a := by
  unfold afterSlashes? at h
  cases hd : a.dropWhile isBreak with
  | nil =>
      rw [hd] at h
      cases h
  | cons d a' =>
      rw [hd] at h
      simp only at h
      cases hd' : a'.dropWhile isBreak with
      | nil =>
          rw [hd'] at h
          cases h
      | cons e r =>
          rw [hd'] at h
          simp only at h
          split at h
          · cases h
            have hr : c ∈ a' := mem_of_mem_dropWhile (p := isBreak) (by rw [hd']; simp [hc])
            exact mem_of_mem_dropWhile (p := isBreak) (by rw [hd]; simp [hr])
          · cases h

theorem parseFile_mark (hm : isMark m = true) (ha : Unmarked a) :
    ∃ result, ∀ rest, parseFile (a ++ m :: rest) = result := by
  have hbreak : isBreak m = false := by
    rcases eq_of_stop (Or.inr hm) with rfl | rfl | rfl <;> rfl
  have hslash : isSlash .file m = false := by
    rcases eq_of_stop (Or.inr hm) with rfl | rfl | rfl
    · exact absurd hm (by decide)
    · rfl
    · rfl
  have hend : (fun c => !endsAddress .file c) m = false := by
    simp only [endsAddress_stop .file (Or.inr hm), Bool.not_true]
  unfold parseFile
  simp only [afterSlashes?_stop hbreak hslash]
  cases hslashes : afterSlashes? .file a with
  | none =>
      refine ⟨.ok (filePath [] a), ?_⟩
      intro rest
      show Except.ok (filePath [] (a ++ m :: rest)) = _
      rw [filePath_mark hm ha]
  | some b =>
      have hb : Unmarked b := ha.of_subset fun c hc => mem_of_afterSlashes? hslashes hc
      have hafter : Unmarked (b.dropWhile fun c => !endsAddress .file c) :=
        hb.of_subset fun c hc => mem_of_mem_dropWhile hc
      simp only [Option.map_some, takeWhile_stop (p := fun c => !endsAddress .file c) hend,
        dropWhile_stop (p := fun c => !endsAddress .file c) hend, filePath_mark hm hb,
        filePath_mark hm hafter]
      exact ⟨_, fun _ => rfl⟩

/-- **Behind a question mark or number sign, nothing counts**: all texts that go on behind it, and
do not end in a blank, are the same URL, or no URL for the same reason. -/
theorem parse_mark (hm : isMark m = true) (ha : Unmarked a) :
    ∃ result, ∀ rest, (∀ c, (m :: rest).getLast? = some c → IsSolid c) →
      parse (String.ofList (a ++ m :: rest)) = result := by
  have hsolid : IsSolid m := by
    rcases eq_of_stop (Or.inr hm) with rfl | rfl | rfl <;> unfold IsSolid <;> decide
  have hscheme : isSchemeChar m = false := by
    rcases eq_of_stop (Or.inr hm) with rfl | rfl | rfl <;> rfl
  have hcolon : m ≠ ':' := by
    rcases eq_of_stop (Or.inr hm) with rfl | rfl | rfl <;> decide
  rcases parse_stop hsolid hscheme hcolon a with h | ⟨scheme, d, r, hd, hr, h⟩
  · exact ⟨_, h⟩
  · obtain ⟨result, hpath⟩ : ∃ result, ∀ rest,
        parsePath (kindOf scheme) (d ++ m :: rest) (r ++ m :: dropBreaks rest) = result := by
      cases kindOf scheme with
      | file => exact parseFile_mark hm (ha.of_subset hd)
      | special =>
          obtain ⟨result, hspecial⟩ := parseSpecial_mark hm (ha.of_subset hr)
          exact ⟨result, fun rest => hspecial (dropBreaks rest)⟩
      | other =>
          obtain ⟨result, hother⟩ := parseOther_mark hm (ha.of_subset hr)
          exact ⟨result, fun rest => hother (dropBreaks rest)⟩
    exact ⟨_, fun rest hlast => by rw [h rest hlast, hpath]⟩

end Marks

end LakeCatalog.Url
