import LakeCatalog.ObjectStore.Path
import LakeCatalog.Proofs.UrlPaths

/-!
# Names of files at the end of a location

In a location without question marks and number signs, a plain name behind the last slash is the
last part of the path of the object, whatever stands before it.

* `IsFileName` — the names that stand for themselves in a path;
* `EndsIn` — the paths whose text ends in a slash and a name, with one lemma for each of
  `parseOther`, `parseSpecial` and `parseFile`;
* `parse_name`, `ofLocation_name` — the URL of a location and the path of its object.
-/

namespace LakeCatalog

namespace Text

theorem splitOn_append (sep : Char) (a b : List Char) :
    splitOn sep (a ++ sep :: b) = splitOn sep a ++ splitOn sep b := by
  induction a with
  | nil => exact splitOn_sep sep b
  | cons c a ih =>
      by_cases hc : c = sep
      · subst hc
        rw [List.cons_append, splitOn_sep, splitOn_sep, ih]
        rfl
      · cases ha : splitOn sep a with
        | nil => exact absurd ha (splitOn_ne_nil sep a)
        | cons s ss =>
            rw [ha] at ih
            rw [List.cons_append, splitOn_cons_of_ne hc ih, splitOn_cons_of_ne hc ha]
            rfl

theorem joinWith_append_singleton (sep : Char) (ss : List (List Char)) (s : List Char) :
    ∃ t, sep :: joinWith sep (ss ++ [s]) = t ++ sep :: s := by
  induction ss with
  | nil => exact ⟨[], rfl⟩
  | cons r ss ih =>
      obtain ⟨t, ht⟩ := ih
      refine ⟨sep :: r ++ t, ?_⟩
      rw [List.cons_append, joinWith_cons_of_ne_nil (by simp), ht]
      simp

end Text

namespace Url

open Text (splitOn joinWith isLetter isDigit lower)

/-! ### Names -/

/-- Letters, digits, hyphens and dots. -/
def isNameChar (c : Char) : Bool := isLetter c || isDigit c || c = '-' || c = '.'

theorem toNat_of_isNameChar {c : Char} (hc : isNameChar c = true) : c.toNat < 128 := by
  have hle : ∀ d : Char, d.toNat < 128 → c ≤ d → c.toNat < 128 := by
    intro d hd h
    have hval : c.toNat ≤ d.toNat := h
    omega
  unfold isNameChar isLetter isDigit at hc
  simp only [Bool.or_eq_true, Bool.and_eq_true, decide_eq_true_eq] at hc
  rcases hc with (((⟨-, h⟩ | ⟨-, h⟩) | ⟨-, h⟩) | rfl) | rfl
  · exact hle 'z' (by decide) h
  · exact hle 'Z' (by decide) h
  · exact hle '9' (by decide) h
  · decide
  · decide

/-- What a name character is not, and that it stands for itself in paths. -/
structure StandsForItself (c : Char) : Prop where
  solid : IsSolid c
  slash : ∀ kind, isSlash kind c = false
  mark : isMark c = false
  pathChar : isPathChar c = true
  opaqueChar : isOpaqueChar c = true
  plain : ObjectPath.isPlain c = true

theorem standsForItself {c : Char} (hc : isNameChar c = true) : StandsForItself c := by
  -- All name characters are small, so that it is enough to try them.
  have hall : ∀ n < 128, isNameChar (Char.ofNat n) = true → 0x20 < (Char.ofNat n).toNat ∧
      Char.ofNat n ≠ '/' ∧ Char.ofNat n ≠ '\\' ∧ isMark (Char.ofNat n) = false ∧
      isPathChar (Char.ofNat n) = true ∧ isOpaqueChar (Char.ofNat n) = true ∧
      ObjectPath.isPlain (Char.ofNat n) = true := by
    decide
  have hself := hall c.toNat (toNat_of_isNameChar hc)
  rw [Char.ofNat_toNat] at hself
  obtain ⟨hsolid, hslash, hback, hmark, hpath, hopaque, hplain⟩ := hself hc
  refine ⟨hsolid, ?_, hmark, hpath, hopaque, hplain⟩
  intro kind
  unfold isSlash
  simp [hslash, hback]

/-- The names of files: of name characters, and the first is a zero. -/
structure IsFileName (name : List Char) : Prop where
  chars : ∀ c ∈ name, isNameChar c = true
  zero : ∃ cs, name = '0' :: cs

section Names

variable {name : List Char}

theorem dropBreaks_of_names (h : ∀ c ∈ name, isNameChar c = true) : dropBreaks name = name := by
  unfold dropBreaks
  rw [List.filter_eq_self]
  intro c hc
  rw [not_break_of_solid (standsForItself (h c hc)).solid]
  rfl

theorem unmarked_of_names (h : ∀ c ∈ name, isNameChar c = true) : Unmarked name :=
  fun c hc => (standsForItself (h c hc)).mark

theorem not_mem_slash_of_names (h : ∀ c ∈ name, isNameChar c = true) : '/' ∉ name :=
  fun hc => absurd (h _ hc) (by decide)

theorem unmarked_snoc {a : List Char} (ha : Unmarked a) (hname : IsFileName name) :
    Unmarked (a ++ '/' :: name) := by
  refine ha.append ?_
  intro c hc
  rcases List.mem_cons.1 hc with rfl | hc
  · rfl
  · exact unmarked_of_names hname.chars c hc

/-! ### Segments -/

theorem rawSegments_name (kind : Kind) (hname : IsFileName name) (a : List Char) :
    ∃ ss, rawSegments kind (a ++ '/' :: name) = ss ++ [name] := by
  have hlast : splitOn '/' name = [name] :=
    Text.splitOn_of_not_mem (not_mem_slash_of_names hname.chars)
  have hmap : name.map (fun c => if isSlash kind c then '/' else c) = name := by
    rw [List.map_congr_left (g := id), List.map_id]
    intro c hc
    rw [(standsForItself (hname.chars c hc)).slash kind]
    rfl
  have hslash : isSlash kind '/' = true := by
    unfold isSlash
    rfl
  unfold rawSegments
  rw [dropWhile_stop (p := isBreak) (x := '/') rfl, List.map_append, List.map_cons, hmap, hslash]
  generalize (a.dropWhile isBreak).map (fun c => if isSlash kind c then '/' else c) = b
  simp only [if_true]
  cases b with
  | nil => exact ⟨[], hlast⟩
  | cons c b =>
      by_cases hc : c = '/'
      · subst hc
        refine ⟨splitOn '/' b, ?_⟩
        show splitOn '/' (b ++ '/' :: name) = _
        rw [Text.splitOn_append, hlast]
      · refine ⟨splitOn '/' (c :: b), ?_⟩
        rw [List.cons_append]
        split
        · rename_i heq
          exact absurd (List.cons.inj heq).1 hc
        · rw [← List.cons_append, Text.splitOn_append, hlast]

theorem push_name (hname : IsFileName name) (done : List (List Char)) :
    Path.push done name = name :: done := by
  unfold Path.push
  rw [dropBreaks_of_names hname.chars, Text.Percent.encode_of_forall_keep]
  exact fun c hc => (standsForItself (hname.chars c hc)).pathChar

theorem first_name (hname : IsFileName name) : Path.first name = [name] := by
  have hpush := push_name hname []
  obtain ⟨cs, rfl⟩ := hname.zero
  have hcut : cutDrive? ('0' :: cs) = none := by
    have hword : ('0' :: cs).dropWhile isBreak = '0' :: cs := rfl
    unfold cutDrive?
    rw [hword]
    dsimp only
    split
    · rfl
    · rfl
  have hdrive : isDrive (dropBreaks ('0' :: cs)) = false := by
    rw [dropBreaks_cons rfl]
    generalize dropBreaks cs = bs
    cases bs with
    | nil => rfl
    | cons b bs =>
        cases bs with
        | nil => rfl
        | cons d bs => rfl
  unfold Path.first
  rw [hcut, hdrive]
  exact hpush

theorem resolve_name (file : Bool) (hname : IsFileName name) (done ss : List (List Char)) :
    ∃ ps, Path.resolve file done (ss ++ [name]) = ps ++ [name] := by
  induction ss generalizing done with
  | nil =>
      have hbreaks := dropBreaks_of_names hname.chars
      have hdots : afterDot? (dropBreaks name) = none := by
        rw [hbreaks]
        obtain ⟨cs, rfl⟩ := hname.zero
        rfl
      show ∃ ps, Path.resolve file done [name] = ps ++ [name]
      unfold Path.resolve isDoubleDot isSingleDot
      rw [hdots]
      simp only [Option.bind_none]
      rw [if_neg (by decide), if_neg (by decide)]
      unfold Path.resolve
      by_cases hfirst : file = true ∧ done = []
      · rw [if_pos hfirst, first_name hname]
        exact ⟨[], rfl⟩
      · rw [if_neg hfirst, push_name hname, List.reverse_cons]
        exact ⟨done.reverse, rfl⟩
  | cons s ss ih =>
      rw [List.cons_append]
      unfold Path.resolve
      by_cases hdouble : isDoubleDot (dropBreaks s) = true
      · rw [if_pos hdouble]
        exact ih _
      · rw [if_neg hdouble]
        by_cases hsingle : isSingleDot (dropBreaks s) = true
        · rw [if_pos hsingle]
          exact ih _
        · rw [if_neg hsingle]
          exact ih _

/-! ### Paths -/

/-- The text of a path ends in a slash and a name. -/
def EndsIn (name : List Char) (path : Path) : Prop := ∃ t, path.serialize = t ++ '/' :: name

theorem endsIn_rooted (name : List Char) (ps : List (List Char)) :
    EndsIn name (.rooted (ps ++ [name])) := by
  obtain ⟨t, ht⟩ := Text.joinWith_append_singleton '/' ps name
  refine ⟨t, ?_⟩
  rw [← ht]
  cases ps with
  | nil => rfl
  | cons s ps => rfl

theorem EndsIn.parts {path : Path} (h : EndsIn name path) (hname : IsFileName name) :
    ∃ ps, path.parts = ps ++ [name] := by
  obtain ⟨t, ht⟩ := h
  refine ⟨(splitOn '/' t).filter (· ≠ []), ?_⟩
  have hne : name ≠ [] := by
    obtain ⟨cs, rfl⟩ := hname.zero
    exact List.cons_ne_nil _ _
  unfold Path.parts
  rw [ht, Text.splitOn_append, List.filter_append,
    Text.splitOn_of_not_mem (not_mem_slash_of_names hname.chars)]
  simp [hne]

variable {a : List Char} {path : Path}

theorem endsIn_pathAfterAddress (kind : Kind) (hname : IsFileName name) (ha : Unmarked a) :
    EndsIn name (pathAfterAddress kind (a ++ '/' :: name)) := by
  obtain ⟨ss, hss⟩ := rawSegments_name kind hname a
  obtain ⟨ps, hps⟩ := resolve_name false hname [] ss
  unfold pathAfterAddress
  rw [beforeQuery_unmarked (unmarked_snoc ha hname)]
  simp only
  rw [if_neg (by simp), hss, hps]
  exact endsIn_rooted name ps

theorem endsIn_filePath (done : List (List Char)) (hname : IsFileName name) (ha : Unmarked a) :
    EndsIn name (filePath done (a ++ '/' :: name)) := by
  obtain ⟨ss, hss⟩ := rawSegments_name .file hname a
  obtain ⟨ps, hps⟩ := resolve_name true hname done ss
  have hne : decide (name = []) = false := by
    obtain ⟨cs, rfl⟩ := hname.zero
    rfl
  unfold filePath
  rw [beforeQuery_unmarked (unmarked_snoc ha hname), hss, hps,
    dropWhile_stop (p := fun s : List Char => decide (s = [])) hne]
  split
  · rename_i hnil
    exact absurd hnil (by simp)
  · exact endsIn_rooted name _

theorem endsIn_addressPath (kind : Kind) (hname : IsFileName name) (ha : Unmarked a)
    (h : (checkAddress kind (a ++ '/' :: name)).map (pathAfterAddress kind) = .ok path) :
    EndsIn name path := by
  rcases checkAddress_stop kind (Or.inl rfl) a with ⟨e, herror⟩ | ⟨b, hb, hok⟩
  · rw [herror] at h
    cases h
  · rw [hok] at h
    cases h
    exact endsIn_pathAfterAddress kind hname (ha.of_subset hb)

/-- A text with a character of a name.  The slashes that some schemes skip all stand before it. -/
def HasWord (cs : List Char) : Prop := ∃ c ∈ cs, isNameChar c = true

theorem parseOther_name (hname : IsFileName name) (ha : Unmarked a) (hword : HasWord a)
    (h : parseOther (a ++ '/' :: name) = .ok path) : EndsIn name path := by
  obtain ⟨w, hw, hwchar⟩ := hword
  have hunmarked := unmarked_snoc ha hname
  cases a with
  | nil => cases hw
  | cons c a =>
      by_cases hc : c = '/'
      · subst hc
        cases a with
        | nil =>
            rw [List.mem_singleton.1 hw] at hwchar
            exact absurd hwchar (by decide)
        | cons d a =>
            by_cases hd : d = '/'
            · subst hd
              refine endsIn_addressPath .other hname ?_ h
              exact ha.of_subset fun e he => List.mem_cons_of_mem _ (List.mem_cons_of_mem _ he)
            · have hne : ∀ b, d :: a ++ '/' :: name ≠ '/' :: b :=
                fun b hb => hd (List.cons.inj hb).1
              rw [List.cons_append, parseOther_rooted hne, ← List.cons_append,
                beforeQuery_unmarked hunmarked] at h
              obtain ⟨ss, hss⟩ := rawSegments_name .other hname ('/' :: d :: a)
              obtain ⟨ps, hps⟩ := resolve_name false hname [] ss
              rw [hss, hps] at h
              cases h
              exact endsIn_rooted name ps
      · have hne : ∀ b, c :: a ++ '/' :: name ≠ '/' :: b :=
          fun b hb => hc (List.cons.inj hb).1
        rw [parseOther_unrooted hne, beforeQuery_unmarked hunmarked, Text.Percent.encode_append] at h
        have hkeep : Text.Percent.encode isOpaqueChar ('/' :: name) = '/' :: name := by
          apply Text.Percent.encode_of_forall_keep
          intro e he
          rcases List.mem_cons.1 he with rfl | he
          · rfl
          · exact (standsForItself (hname.chars e he)).opaqueChar
        rw [hkeep] at h
        cases h
        exact ⟨_, rfl⟩

theorem parseSpecial_name (hname : IsFileName name) (ha : Unmarked a) (hword : HasWord a)
    (h : parseSpecial (a ++ '/' :: name) = .ok path) : EndsIn name path := by
  obtain ⟨w, hw, hwchar⟩ := hword
  unfold parseSpecial at h
  rw [dropWhile_append_of_mem ((standsForItself hwchar).slash .special) hw] at h
  exact endsIn_addressPath .special hname (ha.of_subset fun c hc => mem_of_mem_dropWhile hc) h

theorem afterSlashes?_word (kind : Kind) (hword : HasWord a) (rest : List Char) :
    afterSlashes? kind (a ++ rest) = (afterSlashes? kind a).map (· ++ rest) := by
  obtain ⟨w, hw, hwchar⟩ := hword
  have hbreak := not_break_of_solid (standsForItself hwchar).solid
  have hslash := (standsForItself hwchar).slash kind
  have hmem := mem_dropWhile_of_mem hbreak hw
  unfold afterSlashes?
  rw [dropWhile_append_of_mem hbreak hw]
  cases hd : a.dropWhile isBreak with
  | nil =>
      rw [hd] at hmem
      cases hmem
  | cons c b =>
      rw [hd] at hmem
      simp only [List.cons_append]
      rcases List.mem_cons.1 hmem with rfl | hb
      · cases (b ++ rest).dropWhile isBreak <;> cases b.dropWhile isBreak <;> simp [hslash]
      · rw [dropWhile_append_of_mem hbreak hb]
        have hmem' := mem_dropWhile_of_mem hbreak hb
        cases hd' : b.dropWhile isBreak with
        | nil =>
            rw [hd'] at hmem'
            cases hmem'
        | cons e r =>
            by_cases hboth : isSlash kind c = true ∧ isSlash kind e = true
            · simp [hboth]
            · simp [hboth]

theorem parseFile_name (hname : IsFileName name) (ha : Unmarked a) (hword : HasWord a)
    (h : parseFile (a ++ '/' :: name) = .ok path) : EndsIn name path := by
  unfold parseFile at h
  rw [afterSlashes?_word .file hword] at h
  cases hslashes : afterSlashes? .file a with
  | none =>
      rw [hslashes] at h
      cases h
      exact endsIn_filePath [] hname ha
  | some b =>
      have hb : Unmarked b := ha.of_subset fun c hc => mem_of_afterSlashes? hslashes hc
      have hafter : Unmarked (b.dropWhile fun c => !endsAddress .file c) :=
        hb.of_subset fun c hc => mem_of_mem_dropWhile hc
      have hend : (fun c => !endsAddress .file c) '/' = false := rfl
      rw [hslashes] at h
      simp only [Option.map_some, takeWhile_stop (p := fun c => !endsAddress .file c) hend,
        dropWhile_stop (p := fun c => !endsAddress .file c) hend] at h
      split at h
      · cases h
        exact endsIn_filePath [] hname hb
      · split at h
        · cases h
          exact endsIn_filePath [[]] hname hafter
        · rename_i hdrive hhost
          cases hname' : checkDomain (dropBreaks (b.takeWhile fun c => !endsAddress .file c)) with
          | error e =>
              rw [hname'] at h
              cases h
          | ok domain =>
              rw [hname'] at h
              cases h
              exact endsIn_filePath _ hname hafter

/-- **A plain name behind the last slash** of a URL without marks is the last part of its path, if
another plain name stands before it. -/
theorem parse_name {folder : List Char} {u : Url} (hname : IsFileName name)
    (hfolder : ∀ c ∈ folder, isNameChar c = true) (hne : folder ≠ []) (ha : Unmarked a)
    (h : parse (String.ofList (a ++ '/' :: (folder ++ '/' :: name))) = .ok u) :
    ∃ ps, u.path.parts = ps ++ [name] := by
  have hslash : IsSolid '/' := by
    unfold IsSolid
    decide
  have hsolid : ∀ c ∈ '/' :: (folder ++ '/' :: name), IsSolid c := by
    intro c hc
    rcases List.mem_cons.1 hc with rfl | hc
    · exact hslash
    · rcases List.mem_append.1 hc with hc | hc
      · exact (standsForItself (hfolder c hc)).solid
      · rcases List.mem_cons.1 hc with rfl | hc
        · exact hslash
        · exact (standsForItself (hname.chars c hc)).solid
  have hlast : ∀ c, ('/' :: (folder ++ '/' :: name)).getLast? = some c → IsSolid c :=
    fun c hc => hsolid c (List.mem_of_getLast? hc)
  have hbreaks : dropBreaks (folder ++ '/' :: name) = folder ++ '/' :: name := by
    rw [dropBreaks_append, dropBreaks_cons rfl, dropBreaks_of_names hfolder,
      dropBreaks_of_names hname.chars]
  -- The text before the last slash ends in the folder, wherever the scheme ends.
  have hbefore : ∀ b : List Char, (∀ c ∈ b, c ∈ a) → Unmarked (b ++ '/' :: folder) ∧
      HasWord (b ++ '/' :: folder) ∧
      b ++ '/' :: (folder ++ '/' :: name) = (b ++ '/' :: folder) ++ '/' :: name := by
    intro b hb
    refine ⟨(ha.of_subset hb).append ?_, ?_, by simp⟩
    · intro c hc
      rcases List.mem_cons.1 hc with rfl | hc
      · rfl
      · exact unmarked_of_names hfolder c hc
    · obtain ⟨w, cs, rfl⟩ := List.exists_cons_of_ne_nil hne
      exact ⟨w, by simp, hfolder w List.mem_cons_self⟩
  rcases parse_stop hslash rfl (by decide) a with herror | ⟨scheme, d, r, hd, hr, hparse⟩
  · rw [herror _ hlast] at h
    cases h
  · rw [hparse _ hlast, hbreaks] at h
    obtain ⟨hdmark, hdword, hdeq⟩ := hbefore d hd
    obtain ⟨hrmark, hrword, hreq⟩ := hbefore r hr
    rw [hdeq, hreq] at h
    cases hpath : parsePath (kindOf scheme) ((d ++ '/' :: folder) ++ '/' :: name)
        ((r ++ '/' :: folder) ++ '/' :: name) with
    | error e =>
        rw [hpath] at h
        cases h
    | ok path =>
        rw [hpath] at h
        cases h
        have hends : EndsIn name path := by
          cases hkind : kindOf scheme with
          | file =>
              rw [hkind] at hpath
              exact parseFile_name hname hdmark hdword hpath
          | special =>
              rw [hkind] at hpath
              exact parseSpecial_name hname hrmark hrword hpath
          | other =>
              rw [hkind] at hpath
              exact parseOther_name hname hrmark hrword hpath
        exact hends.parts hname

end Names

end Url

namespace ObjectPath

/-- The last part of the path of an object. -/
def lastPart (path : String) : Option (List Char) := (Text.splitOn '/' path.toList).getLast?

theorem encodeSegment_name {name : List Char} (hname : Url.IsFileName name) :
    encodeSegment name = name := by
  have hdots : ¬(name = ['.'] ∨ name = ['.', '.']) := by
    obtain ⟨cs, rfl⟩ := hname.zero
    rintro (h | h) <;> cases h
  unfold encodeSegment
  rw [if_neg hdots, Text.Percent.encode_of_forall_keep]
  exact fun c hc => (Url.standsForItself (hname.chars c hc)).plain

theorem lastPart_ofSegments {name : List Char} (hname : Url.IsFileName name)
    (ss : List (List Char)) : lastPart (ofSegments (ss ++ [name])) = some name := by
  have hcut : Text.splitOn '/' name = [name] :=
    Text.splitOn_of_not_mem (Url.not_mem_slash_of_names hname.chars)
  obtain ⟨t, ht⟩ := Text.joinWith_append_singleton '/' (ss.map encodeSegment) name
  -- With a slash in front the text ends in a slash and the name, and has one part more.
  have hparts : [] :: Text.splitOn '/' (Text.joinWith '/' (ss.map encodeSegment ++ [name]))
      = Text.splitOn '/' t ++ [name] := by
    rw [← Text.splitOn_sep, ht, Text.splitOn_append, hcut]
  have hlast := congrArg List.getLast? hparts
  unfold lastPart ofSegments
  rw [String.toList_ofList, List.map_append, List.map_singleton, encodeSegment_name hname]
  rw [List.getLast?_concat] at hlast
  cases hsplit : Text.splitOn '/' (Text.joinWith '/' (ss.map encodeSegment ++ [name])) with
  | nil => exact absurd hsplit (Text.splitOn_ne_nil _ _)
  | cons p ps =>
      rw [hsplit, List.getLast?_cons_cons] at hlast
      exact hlast

/-- **The path of the object** at a location without marks ends in the name behind the last slash,
if another plain name stands before it. -/
theorem lastPart_of_ofLocation {a folder name : List Char} {path : String}
    (hname : Url.IsFileName name) (hfolder : ∀ c ∈ folder, Url.isNameChar c = true)
    (hne : folder ≠ []) (ha : Url.Unmarked a)
    (h : ofLocation (String.ofList (a ++ '/' :: (folder ++ '/' :: name))) = .ok path) :
    lastPart path = some name := by
  unfold ofLocation segments at h
  cases hurl : Url.parse (String.ofList (a ++ '/' :: (folder ++ '/' :: name))) with
  | error e =>
      rw [hurl] at h
      cases h
  | ok u =>
      obtain ⟨ps, hps⟩ := Url.parse_name hname hfolder hne ha hurl
      rw [hurl] at h
      simp only [Except.map, hps] at h
      cases hcut : ps ++ [name] with
      | nil => simp at hcut
      | cons p ss =>
          rw [hcut] at h
          cases h
          rw [← hcut]
          exact lastPart_ofSegments hname ps

end ObjectPath

end LakeCatalog
