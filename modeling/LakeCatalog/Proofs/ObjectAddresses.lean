import Mathlib.Data.List.Basic
import Mathlib.Data.List.Induction
import LakeCatalog.Proofs.OrderedMapLaws
import LakeCatalog.Proofs.Sites

/-!
# Which locations address the same object

A location leads to an object by the segments of its path that are not empty, and by nothing else.
On the way to the path of the object each segment is percent encoded, which it may have been before,
and the encoded segments are joined by slashes.  Nothing is lost on this way: what was encoded is
decoded again, and no slash comes from within a segment.

* `Text.Percent.decode_encode`, `Text.Percent.encode_inj` — percent encoding loses nothing;
* `ObjectPath.ofSegments_inj` — different segments are different objects;
* `Objects.Refuses` — a location at which nothing is read or written;
* `Objects.lastWritten` — the content of the last write to an object;
* `Objects.addressed_by_segments` — what is read at a location, after any writes at any locations.
-/

namespace LakeCatalog

/-! ### Percent encoding loses nothing -/

namespace Text.Percent

/-- Characters that an encoding may leave as they are: of one byte, and not the sign that encoded
bytes begin with. -/
def KeepsPlain (keep : Char → Bool) : Prop := ∀ c, keep c = true → c.toNat < 128 ∧ c ≠ '%'

theorem utf8_append (cs ds : List Char) : utf8 (cs ++ ds) = utf8 cs ++ utf8 ds :=
  List.flatMap_append

theorem utf8_inj {cs ds : List Char} (h : utf8 cs = utf8 ds) : cs = ds := by
  apply String.ofList_injective
  apply String.toByteArray_inj.1
  rw [String.toByteArray_ofList, String.toByteArray_ofList]
  exact congrArg List.toByteArray h

theorem utf8EncodeChar_of_lt {c : Char} (h : c.toNat < 128) :
    String.utf8EncodeChar c = [UInt8.ofNat c.toNat] := by
  have hsmall : ¬127 < c.toNat := Nat.not_lt.2 (Nat.le_of_lt_succ h)
  simp [String.utf8EncodeChar, hsmall]

/-- A byte that no percent sign stands for is its own. -/
theorem decode_cons {b : UInt8} (h : b ≠ 37) (rest : List UInt8) :
    decode (b :: rest) = b :: decode rest := by
  rw [decode]
  rintro a b' rest' rfl
  exact absurd rfl h

/-- A digit is one byte, and from this byte its value is read. -/
theorem utf8_upperDigit {d : Nat} (h : d < 16) :
    utf8 [upperDigit d] = [UInt8.ofNat (upperDigit d).toNat] ∧
      digitValue? (Char.ofNat (UInt8.ofNat (upperDigit d).toNat).toNat) = some d := by
  have hsmall : (upperDigit d).toNat < 128 := by
    have hdigits : ∀ e ∈ List.range 16, (upperDigit e).toNat < 128 := by decide
    exact hdigits d (List.mem_range.2 h)
  have hbyte : Char.ofNat (UInt8.ofNat (upperDigit d).toNat).toNat = upperDigit d := by
    rw [UInt8.toNat_ofNat_of_lt' (by show (upperDigit d).toNat < 256; omega), Char.ofNat_toNat]
  refine ⟨?_, ?_⟩
  · simp [utf8, utf8EncodeChar_of_lt hsmall]
  · rw [hbyte, digitValue?_upperDigit h]

theorem decode_encodeByte (b : UInt8) (rest : List UInt8) :
    decode (utf8 (encodeByte b) ++ rest) = b :: decode rest := by
  have hb : b.toNat < 256 := UInt8.toNat_lt_size b
  obtain ⟨hhigh, hhigh'⟩ := utf8_upperDigit (d := b.toNat / 16) (by omega)
  obtain ⟨hlow, hlow'⟩ := utf8_upperDigit (d := b.toNat % 16) (by omega)
  have hbytes : utf8 (encodeByte b) = [37, UInt8.ofNat (upperDigit (b.toNat / 16)).toNat,
      UInt8.ofNat (upperDigit (b.toNat % 16)).toNat] := by
    show utf8 (['%'] ++ ([upperDigit (b.toNat / 16)] ++ [upperDigit (b.toNat % 16)])) = _
    rw [utf8_append, utf8_append, hhigh, hlow]
    rfl
  rw [hbytes]
  simp only [List.cons_append, List.nil_append, decode, hhigh', hlow']
  congr 1
  rw [show 16 * (b.toNat / 16) + b.toNat % 16 = b.toNat by omega, UInt8.ofNat_toNat]

theorem decode_encodeBytes (bs rest : List UInt8) :
    decode (utf8 (bs.flatMap encodeByte) ++ rest) = bs ++ decode rest := by
  induction bs with
  | nil => rfl
  | cons b bs ih =>
      rw [List.flatMap_cons, utf8_append, List.append_assoc, decode_encodeByte, ih]
      rfl

/-- **What was encoded is decoded again.** -/
theorem decode_encode {keep : Char → Bool} (hkeep : KeepsPlain keep) (cs : List Char) :
    decode (utf8 (encode keep cs)) = utf8 cs := by
  induction cs with
  | nil => rfl
  | cons c cs ih =>
      show decode (utf8 ((if keep c then [c] else encodeChar c) ++ encode keep cs)) = utf8 ([c] ++ cs)
      rw [utf8_append, utf8_append]
      by_cases hc : keep c = true
      · obtain ⟨hsmall, hsign⟩ := hkeep c hc
        have hbyte : utf8 [c] = [UInt8.ofNat c.toNat] := by
          simp [utf8, utf8EncodeChar_of_lt hsmall]
        have hne : UInt8.ofNat c.toNat ≠ 37 := by
          intro h
          have hcode : c.toNat = '%'.toNat := by
            have hvalue := congrArg UInt8.toNat h
            rwa [UInt8.toNat_ofNat_of_lt' (by show c.toNat < 256; omega)] at hvalue
          exact hsign (by rw [← Char.ofNat_toNat c, hcode, Char.ofNat_toNat])
        rw [if_pos hc, hbyte, List.singleton_append, decode_cons hne, ih]
        rfl
      · rw [if_neg hc]
        show decode (utf8 ((String.utf8EncodeChar c).flatMap encodeByte) ++ _) = _
        rw [decode_encodeBytes, ih]
        simp [utf8]

/-- Texts that are encoded alike are the same, whatever either encoding keeps. -/
theorem encode_inj {keep keep' : Char → Bool} (hkeep : KeepsPlain keep)
    (hkeep' : KeepsPlain keep') {cs ds : List Char} (h : encode keep cs = encode keep' ds) :
    cs = ds := by
  apply utf8_inj
  rw [← decode_encode hkeep cs, h, decode_encode hkeep' ds]

/-- Only slashes that are kept are slashes of the encoded text. -/
theorem not_mem_slash_encode {keep : Char → Bool} {cs : List Char} (h : '/' ∉ cs) :
    '/' ∉ encode keep cs := by
  have hdigit : ∀ {d : Nat}, d < 16 → upperDigit d ≠ '/' := by
    intro d hd hslash
    have hvalue := digitValue?_upperDigit hd
    rw [hslash] at hvalue
    cases hvalue
  have hbyte : ∀ b : UInt8, '/' ∉ encodeByte b := by
    intro b hb
    have hlt : b.toNat < 256 := UInt8.toNat_lt_size b
    simp only [encodeByte, List.mem_cons, List.not_mem_nil, or_false] at hb
    rcases hb with hb | hb | hb
    · exact absurd hb (by decide)
    · exact hdigit (by omega) hb.symm
    · exact hdigit (by omega) hb.symm
  intro hslash
  obtain ⟨c, hc, hslash⟩ := List.mem_flatMap.1 hslash
  split at hslash
  · exact h (List.mem_singleton.1 hslash ▸ hc)
  · obtain ⟨b, -, hb⟩ := List.mem_flatMap.1 hslash
    exact hbyte b hb

end Text.Percent

/-! ### Different segments are different objects -/

namespace ObjectPath

open Text.Percent (KeepsPlain encode encode_inj not_mem_slash_encode)

theorem keepsPlain_isPlain : KeepsPlain isPlain := by
  intro c hc
  constructor
  · simp only [isPlain, Bool.and_eq_true, decide_eq_true_eq] at hc
    omega
  · rintro rfl
    exact absurd hc (by decide)

/-- Every segment is percent encoded, the dot segments with nothing kept. -/
theorem exists_encodeSegment (s : List Char) :
    ∃ keep, KeepsPlain keep ∧ encodeSegment s = encode keep s := by
  by_cases hdots : s = ['.'] ∨ s = ['.', '.']
  · refine ⟨fun _ => false, ?_, ?_⟩
    · intro c hc
      cases hc
    · simp [encodeSegment, hdots, encode]
  · exact ⟨isPlain, keepsPlain_isPlain, by simp only [encodeSegment, hdots, if_false]⟩

theorem encodeSegment_injective : Function.Injective encodeSegment := by
  intro s t h
  -- Only one of the two may be a dot segment, so that the kept characters may differ.
  obtain ⟨keep, hkeep, hs⟩ := exists_encodeSegment s
  obtain ⟨keep', hkeep', ht⟩ := exists_encodeSegment t
  exact encode_inj hkeep hkeep' (hs.symm.trans (h.trans ht))

theorem not_mem_slash_encodeSegment {s : List Char} (h : '/' ∉ s) : '/' ∉ encodeSegment s := by
  obtain ⟨keep, -, hs⟩ := exists_encodeSegment s
  rw [hs]
  exact not_mem_slash_encode h

/-- **Different segments are different objects.** -/
theorem ofSegments_inj {ss ts : List (List Char)} (hss : ss ≠ []) (hts : ts ≠ [])
    (hs : ∀ s ∈ ss, '/' ∉ s) (ht : ∀ t ∈ ts, '/' ∉ t) (h : ofSegments ss = ofSegments ts) :
    ss = ts := by
  have hcut : ∀ {rs : List (List Char)}, rs ≠ [] → (∀ r ∈ rs, '/' ∉ r) →
      Text.splitOn '/' (ofSegments rs).toList = rs.map encodeSegment := by
    -- No encoded segment holds a slash, so the path is cut where it was joined.
    intro rs hne hr
    rw [ofSegments, String.toList_ofList]
    apply Text.splitOn_joinWith (by simpa using hne)
    intro e he
    obtain ⟨r, hmem, rfl⟩ := List.mem_map.1 he
    exact not_mem_slash_encodeSegment (hr r hmem)
  apply List.map_injective_iff.2 encodeSegment_injective
  rw [← hcut hss hs, ← hcut hts ht, h]

theorem not_mem_slash_of_segments {location : String} {ss : List (List Char)}
    (h : segments location = .ok ss) : ∀ s ∈ ss, '/' ∉ s := by
  intro s hs
  cases hparse : Url.parse location with
  | error fault =>
      rw [segments, hparse] at h
      cases h
  | ok url =>
      rw [segments, hparse] at h
      cases h
      exact Text.not_mem_of_mem_splitOn (List.mem_filter.1 hs).1

end ObjectPath

/-! ### Reading and writing at a location -/

namespace Objects

open ObjectPath (ofSegments)

/-- Whatever is read or written at a location ends with an error before the store is asked. -/
def Refuses (location : String) (e : CatalogError) : Prop :=
  read location = Action.ofExcept (.error e) ∧
    ∀ data, write location data = Action.ofExcept (.error e)

/-- What a location leads to: the object of the segments of its path that count. -/
def LeadsTo (location : String) (ss : List (List Char)) : Prop :=
  ObjectPath.segments location = .ok ss

instance (location : String) (ss : List (List Char)) : Decidable (LeadsTo location ss) :=
  match h : ObjectPath.segments location with
  | .error _ => isFalse (by simp [LeadsTo, h])
  | .ok ts => decidable_of_iff (ts = ss) (by simp [LeadsTo, h])

/-- The content of the last of some writes that went to the object of some segments. -/
def lastWritten (writes : List (String × ByteArray)) (ss : List (List Char)) : Option ByteArray :=
  ((writes.filter fun w => LeadsTo w.1 ss).getLast?).map (·.2)

variable {location : String} {ss : List (List Char)}

theorem refuses_of_pathOf {e : CatalogError} (h : pathOf location = .error e) :
    Refuses location e := by
  constructor
  · rw [read, h]
    rfl
  · intro data
    rw [write, h]
    rfl

theorem pathOf_of_leadsTo (h : LeadsTo location ss) (hne : ss ≠ []) :
    pathOf location = .ok (ofSegments ss) := by
  have hpath : ObjectPath.ofLocation location = .ok (ofSegments ss) := by
    rw [ObjectPath.ofLocation, h]
    cases ss with
    | nil => exact absurd rfl hne
    | cons s ss => rfl
  rw [pathOf, hpath]
  rfl

theorem perform_read_of_leadsTo (h : LeadsTo location ss) (hne : ss ≠ []) (s : Site) :
    (read location).perform Site.answer s
      = (some ((s.fetch (ofSegments ss)).mapError (CatalogError.objectStore location)), s) := by
  rw [read, pathOf_of_leadsTo h hne]
  rfl

theorem perform_write_of_leadsTo (h : LeadsTo location ss) (hne : ss ≠ []) (data : ByteArray)
    (s : Site) :
    (write location data).perform Site.answer s
      = (some (.ok ()), { s with objects := s.objects.insert (ofSegments ss) data }) := by
  rw [write, pathOf_of_leadsTo h hne]
  rfl

/-- Where a write is refused, it changes nothing. -/
theorem perform_write_refused (h : ∀ ss, LeadsTo location ss → ss = []) (data : ByteArray)
    (s : Site) : ((write location data).perform Site.answer s).2 = s := by
  obtain ⟨e, hpath⟩ : ∃ e, pathOf location = .error e := by
    rw [pathOf, ObjectPath.ofLocation]
    cases hsegments : ObjectPath.segments location with
    | error fault => exact ⟨_, rfl⟩
    | ok ss =>
        cases h ss hsegments
        exact ⟨_, rfl⟩
  rw [(refuses_of_pathOf hpath).2 data]
  rfl

/-- **One write** gives the object of some segments its content if it went there, and else leaves
it as it was. -/
theorem get?_write (hne : ss ≠ []) (hslash : ∀ s ∈ ss, '/' ∉ s) (location : String)
    (data : ByteArray) (s : Site) :
    ((write location data).perform Site.answer s).2.objects.get? (ofSegments ss)
      = if LeadsTo location ss then some data else s.objects.get? (ofSegments ss) := by
  by_cases hthere : ∃ ts, LeadsTo location ts ∧ ts ≠ []
  · obtain ⟨ts, hts, htne⟩ := hthere
    rw [perform_write_of_leadsTo hts htne]
    show (s.objects.insert (ofSegments ts) data).get? (ofSegments ss) = _
    by_cases hsame : ts = ss
    · rw [hsame] at hts ⊢
      rw [if_pos hts, OrderedMap.get?_insert, if_pos rfl]
    · have hother : ¬LeadsTo location ss := fun h => hsame (Except.ok.inj (hts.symm.trans h))
      have hpath : ofSegments ts ≠ ofSegments ss := fun h =>
        hsame (ObjectPath.ofSegments_inj htne hne
          (ObjectPath.not_mem_slash_of_segments hts) hslash h)
      rw [if_neg hother, OrderedMap.get?_insert, if_neg hpath]
  · have hrefused : ∀ ts, LeadsTo location ts → ts = [] := fun ts hts =>
      Classical.not_not.1 fun htne => hthere ⟨ts, hts, htne⟩
    rw [perform_write_refused hrefused, if_neg fun h => hne (hrefused ss h)]

/-- The site after some writes, each at a location of its own. -/
def writeAll (writes : List (String × ByteArray)) (s : Site) : Site :=
  writes.foldl (fun s w => ((write w.1 w.2).perform Site.answer s).2) s

/-- **After any writes** an object has the content of the last one that went there. -/
theorem get?_writeAll (hne : ss ≠ []) (hslash : ∀ s ∈ ss, '/' ∉ s)
    (writes : List (String × ByteArray)) (s : Site) :
    (writeAll writes s).objects.get? (ofSegments ss)
      = (lastWritten writes ss).or (s.objects.get? (ofSegments ss)) := by
  -- From the last write backwards, as it is the last one that counts.
  induction writes using List.reverseRecOn with
  | nil => rfl
  | append_singleton writes w ih =>
      have hwritten : writeAll (writes ++ [w]) s
          = ((write w.1 w.2).perform Site.answer (writeAll writes s)).2 := by
        simp [writeAll]
      rw [hwritten, get?_write hne hslash, ih]
      by_cases hw : LeadsTo w.1 ss
      · simp [lastWritten, List.filter_append, hw]
      · simp [lastWritten, List.filter_append, hw]

/-- **A location addresses an object by the segments of its path that are not empty.**  What is no
URL, or has no such segment, is refused, by reading and writing alike and before the store is asked.
At all other locations writing succeeds; reading gives the content of the last write that went to
the same segments, however these are spelled, or does not find an object if there was none; and a
write that leads elsewhere makes no difference to it. -/
theorem addressed_by_segments (location : String) :
    match ObjectPath.segments location with
    | .error fault => Refuses location (.notUrl location fault)
    | .ok [] => Refuses location (.noObject location)
    | .ok ss =>
      (∀ data s, ((write location data).perform Site.answer s).1 = some (.ok ())) ∧
      (∀ metastore writes,
        (read location).perform Site.answer (writeAll writes ⟨metastore, .empty⟩)
          = (some (match lastWritten writes ss with
              | some data => .ok data
              | none => .error (.objectStore location (.notFound (ofSegments ss)))),
            writeAll writes ⟨metastore, .empty⟩)) ∧
      ∀ other data s, ¬LeadsTo other ss →
        ((read location).perform Site.answer ((write other data).perform Site.answer s).2).1
          = ((read location).perform Site.answer s).1 := by
  cases h : ObjectPath.segments location with
  | error fault =>
      apply refuses_of_pathOf
      rw [pathOf, ObjectPath.ofLocation, h]
      rfl
  | ok ss =>
      cases ss with
      | nil =>
          apply refuses_of_pathOf
          rw [pathOf, ObjectPath.ofLocation, h]
          rfl
      | cons first ss =>
          have hne : first :: ss ≠ [] := List.cons_ne_nil first ss
          have hslash := ObjectPath.not_mem_slash_of_segments h
          refine ⟨?_, ?_, ?_⟩
          · intro data s
            rw [perform_write_of_leadsTo h hne]
          · intro metastore writes
            have hfound := get?_writeAll hne hslash writes ⟨metastore, .empty⟩
            rw [OrderedMap.get?_empty, Option.or_none] at hfound
            rw [perform_read_of_leadsTo h hne, Site.fetch, hfound]
            cases lastWritten writes (first :: ss) <;> rfl
          · intro other data s hother
            have hfound := get?_write hne hslash other data s
            rw [if_neg hother] at hfound
            rw [perform_read_of_leadsTo h hne, perform_read_of_leadsTo h hne, Site.fetch, hfound]
            rfl

/-- Another scheme, another host, empty segments and a query make no difference, and a blank may be
written or encoded.  An encoded percent sign is a sign of its own, so that the last of the writes
leads elsewhere. -/
theorem addressed_by_segments_spellings :
    ¬LeadsTo "s3://a/db/t%2520x" ["db".toList, "t%20x".toList] ∧
      ((read "s3://a/db//t x?v").perform Site.answer
        (writeAll [("https://b/db/t%20x", ⟨#[1]⟩), ("s3://a/db/t%2520x", ⟨#[2]⟩)]
          (Site.start 1))).1 = some (.ok ⟨#[1]⟩) := by
  have hread : LeadsTo "s3://a/db//t x?v" ["db".toList, "t%20x".toList] := by decide +kernel
  have hlast : lastWritten [("https://b/db/t%20x", ⟨#[1]⟩), ("s3://a/db/t%2520x", ⟨#[2]⟩)]
      ["db".toList, "t%20x".toList] = some ⟨#[1]⟩ := by decide +kernel
  have haddressed := addressed_by_segments "s3://a/db//t x?v"
  rw [hread] at haddressed
  refine ⟨by decide +kernel, ?_⟩
  rw [Site.start, haddressed.2.1, hlast]

end Objects

end LakeCatalog
