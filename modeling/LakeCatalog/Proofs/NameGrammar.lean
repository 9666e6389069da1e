import LakeCatalog.Catalog.Basic

/-!
# The grammar of names

The name of a namespace is one segment and the name of a table is two, with a dot between them.  A
list of segments is read as it is: a dot inside a segment is never taken for the end of one.  A
catalog reads names too, and takes its own name in front of them for nothing, as long as its own
name is a segment.

* `Reads` — a reader of lists of segments that are the parts of names, and what follows for texts;
* `NamespaceName.reads`, `TableName.reads` — the two kinds of names;
* `names_grammar` — which texts and which segments are names, and of what;
* `Reads.qualified_iff` — a reader behind the own name of a catalog;
* `Catalog.qualified_names` — which texts are names in a catalog.
-/

namespace LakeCatalog

/-! ### Dotted texts -/

theorem dotted_cons {s : String} {ss : List String} (h : ss ≠ []) :
    dotted (s :: ss) = s ++ "." ++ dotted ss := by
  apply String.toList_injective
  have hne : ss.map String.toList ≠ [] := by simpa using h
  simp [dotted, Text.joinWith_cons_of_ne_nil hne, String.toList_append]

theorem dotted_singleton (s : String) : dotted [s] = s := by
  simp [dotted, Text.joinWith]

/-- The segments of a text hold no dots. -/
theorem dot_not_mem_of_mem_segments {s t : String} (h : t ∈ segments s) : '.' ∉ t.toList := by
  obtain ⟨cs, hcs, rfl⟩ := List.mem_map.1 h
  rw [String.toList_ofList]
  exact Text.not_mem_of_mem_splitOn hcs

/-- A text has certain segments exactly when these hold no dots and it is their dotted text. -/
theorem segments_eq_iff {s : String} {ss : List String} (hne : ss ≠ []) :
    segments s = ss ↔ s = dotted ss ∧ ∀ t ∈ ss, '.' ∉ t.toList := by
  constructor
  · rintro rfl
    exact ⟨(dotted_segments s).symm, fun t ht => dot_not_mem_of_mem_segments ht⟩
  · rintro ⟨rfl, hss⟩
    exact segments_dotted hne hss

/-! ### Readers of segments -/

/-- A reader of names of one kind, each of which has the same number of segments. -/
structure Reads {ν : Type} (arity : Nat) (parts : ν → List String)
    (read : List String → Except NameError ν) : Prop where
  pos : 0 < arity
  length : ∀ n, (parts n).length = arity
  /-- The segments of a name are good ones. -/
  isSegment : ∀ n, ∀ s ∈ parts n, IsSegment s
  /-- The segments of a name are read as this name. -/
  read_parts : ∀ n, read (parts n) = .ok n
  /-- Nothing else is read; what is not read is told as a dotted text. -/
  parts_or_told : ∀ ss, (∃ n, ss = parts n) ∨ ∃ fault, read ss = .error ⟨dotted ss, fault⟩

namespace Reads

variable {ν : Type} {arity : Nat} {parts : ν → List String}
  {read : List String → Except NameError ν} {s : String} {n : ν}

theorem parts_ne_nil (h : Reads arity parts read) (n : ν) : parts n ≠ [] := by
  intro hnil
  have hlength := h.length n
  rw [hnil] at hlength
  exact absurd hlength.symm (Nat.ne_of_gt h.pos)

/-- What is read as a name are its segments. -/
theorem ok_iff (h : Reads arity parts read) (ss : List String) (n : ν) :
    read ss = .ok n ↔ ss = parts n := by
  constructor
  · intro hread
    rcases h.parts_or_told ss with ⟨n', rfl⟩ | ⟨fault, htold⟩
    · rw [h.read_parts, Except.ok.injEq] at hread
      rw [hread]
    · rw [htold] at hread
      cases hread
  · rintro rfl
    exact h.read_parts n

/-- What is not read is told as a dotted text. -/
theorem told (h : Reads arity parts read) {ss : List String} {e : NameError}
    (he : read ss = .error e) : e.identifier = dotted ss := by
  rcases h.parts_or_told ss with ⟨n, rfl⟩ | ⟨fault, htold⟩
  · rw [h.read_parts] at he
    cases he
  · rw [htold] at he
    cases he
    rfl

/-- The segments of a text are read as a name exactly when it is the dotted text of the name. -/
theorem segments_ok_iff (h : Reads arity parts read) :
    read (segments s) = .ok n ↔ s = dotted (parts n) := by
  rw [h.ok_iff, segments_eq_iff (h.parts_ne_nil n)]
  exact and_iff_left fun t ht => (h.isSegment n t ht).2

/-- A text that is not read is told as it was given. -/
theorem told_segments (h : Reads arity parts read) {e : NameError}
    (he : read (segments s) = .error e) : e.identifier = s := by
  rw [h.told he, dotted_segments]

/-- Segments that are read as a name are also read from their dotted text. -/
theorem segments_dotted (h : Reads arity parts read) {ss : List String} (hss : read ss = .ok n) :
    read (segments (dotted ss)) = .ok n := by
  rw [h.segments_ok_iff, (h.ok_iff ss n).1 hss]

/-- **A name and its dotted text** determine each other. -/
theorem dotted_injective (h : Reads arity parts read) :
    Function.Injective fun n => dotted (parts n) := by
  intro a b hab
  have ha : read (segments (dotted (parts a))) = .ok a := h.segments_ok_iff.2 rfl
  have hb : read (segments (dotted (parts a))) = .ok b := h.segments_ok_iff.2 hab
  rw [ha, Except.ok.injEq] at hb
  exact hb

end Reads

/-! ### The two kinds of names -/

theorem NamespaceName.reads : Reads 1 (fun n : NamespaceName => [n.text]) ofSegments where
  pos := Nat.one_pos
  length := fun _ => rfl
  isSegment := by
    intro n s hs
    rw [List.mem_singleton.1 hs]
    exact n.isSegment
  read_parts := ofSegments_singleton
  parts_or_told := by
    intro ss
    unfold ofSegments
    split
    · split
      · rename_i good
        exact Or.inl ⟨⟨_, good⟩, rfl⟩
      · split <;> exact Or.inr ⟨_, rfl⟩
    · exact Or.inr ⟨_, rfl⟩
    · exact Or.inr ⟨_, rfl⟩

theorem TableName.reads : Reads 2 (fun n : TableName => [n.space.text, n.table]) ofSegments where
  pos := Nat.two_pos
  length := fun _ => rfl
  isSegment := by
    intro n s hs
    rcases List.mem_cons.1 hs with rfl | hs
    · exact n.space.isSegment
    · rw [List.mem_singleton.1 hs]
      exact n.isSegment
  read_parts := ofSegments_pair
  parts_or_told := by
    intro ss
    unfold ofSegments
    split
    · split
      · rename_i good
        exact Or.inl ⟨⟨⟨_, good.1⟩, _, good.2⟩, rfl⟩
      · split <;> exact Or.inr ⟨_, rfl⟩
    · exact Or.inr ⟨_, rfl⟩
    · exact Or.inr ⟨_, rfl⟩
    · exact Or.inr ⟨_, rfl⟩

/-- A text is read as the name of a namespace exactly when it is its text. -/
theorem NamespaceName.parse_ok_iff {s : String} {n : NamespaceName} :
    NamespaceName.parse s = .ok n ↔ s = n.text := by
  rw [← dotted_singleton n.text]
  exact NamespaceName.reads.segments_ok_iff

/-- A text is read as the name of a table exactly when it is its text. -/
theorem TableName.parse_ok_iff {s : String} {n : TableName} :
    TableName.parse s = .ok n ↔ s = n.toText := by
  rw [← n.dotted_pair]
  exact TableName.reads.segments_ok_iff

/-- **Which texts and which segments are names.**  A text is read as the name of a table exactly
when it is two segments with a dot between them, and as the name of a namespace exactly when it is
a segment; any other text is told back as it was given.  A list is read exactly when it is two
segments, or one, and then its dotted text is read as the same name.  The text of a name is read as
this name, and different names have different texts. -/
theorem names_grammar :
    ((∀ s space table, (∃ n, TableName.parse s = .ok n ∧ n.space.text = space ∧ n.table = table) ↔
        s = space ++ "." ++ table ∧ IsSegment space ∧ IsSegment table) ∧
      (∀ s e, TableName.parse s = .error e → e.identifier = s) ∧
      (∀ ss, (∃ n, TableName.ofSegments ss = .ok n) ↔
        ∃ space table, ss = [space, table] ∧ IsSegment space ∧ IsSegment table) ∧
      (∀ ss n, TableName.ofSegments ss = .ok n → TableName.parse (dotted ss) = .ok n) ∧
      (∀ n : TableName, TableName.parse n.toText = .ok n) ∧
      Function.Injective TableName.toText) ∧
    (∀ s name, (∃ n, NamespaceName.parse s = .ok n ∧ n.text = name) ↔ s = name ∧ IsSegment name) ∧
      (∀ s e, NamespaceName.parse s = .error e → e.identifier = s) ∧
      (∀ ss, (∃ n, NamespaceName.ofSegments ss = .ok n) ↔ ∃ name, ss = [name] ∧ IsSegment name) ∧
      (∀ ss n, NamespaceName.ofSegments ss = .ok n → NamespaceName.parse (dotted ss) = .ok n) ∧
      (∀ n : NamespaceName, NamespaceName.parse n.text = .ok n) ∧
      Function.Injective NamespaceName.text := by
  refine ⟨⟨?_, ?_, ?_, ?_, ?_, ?_⟩, ?_, ?_, ?_, ?_, ?_, ?_⟩
  · intro s space table
    constructor
    · rintro ⟨n, hn, rfl, rfl⟩
      exact ⟨TableName.parse_ok_iff.1 hn, n.space.isSegment, n.isSegment⟩
    · rintro ⟨rfl, hspace, htable⟩
      exact ⟨⟨⟨space, hspace⟩, table, htable⟩, TableName.parse_ok_iff.2 rfl, rfl, rfl⟩
  · exact fun s e => TableName.reads.told_segments
  · intro ss
    constructor
    · rintro ⟨n, hn⟩
      exact ⟨_, _, (TableName.reads.ok_iff ss n).1 hn, n.space.isSegment, n.isSegment⟩
    · rintro ⟨space, table, rfl, hspace, htable⟩
      exact ⟨_, TableName.ofSegments_pair ⟨⟨space, hspace⟩, table, htable⟩⟩
  · exact fun ss n => TableName.reads.segments_dotted
  · exact TableName.parse_toText
  · intro a b hab
    refine TableName.reads.dotted_injective ?_
    show dotted [a.space.text, a.table] = dotted [b.space.text, b.table]
    rw [a.dotted_pair, b.dotted_pair, hab]
  · intro s name
    constructor
    · rintro ⟨n, hn, rfl⟩
      exact ⟨NamespaceName.parse_ok_iff.1 hn, n.isSegment⟩
    · rintro ⟨rfl, hname⟩
      exact ⟨⟨s, hname⟩, NamespaceName.parse_ok_iff.2 rfl, rfl⟩
  · exact fun s e => NamespaceName.reads.told_segments
  · intro ss
    constructor
    · rintro ⟨n, hn⟩
      exact ⟨_, (NamespaceName.reads.ok_iff ss n).1 hn, n.isSegment⟩
    · rintro ⟨name, rfl, hname⟩
      exact ⟨_, NamespaceName.ofSegments_singleton ⟨name, hname⟩⟩
  · exact fun ss n => NamespaceName.reads.segments_dotted
  · exact NamespaceName.parse_text
  · intro a b hab
    refine NamespaceName.reads.dotted_injective ?_
    show dotted [a.text] = dotted [b.text]
    rw [hab]

/-! ### Names behind the own name of a catalog -/

namespace Catalog

variable (c : Catalog)

/-- The own name of a catalog is taken off a list of segments, and no other list is changed. -/
theorem withoutOwnName_cases (least : Nat) (ss : List String) :
    (∃ rest, ss = c.name :: rest ∧ least ≤ ss.length ∧ c.withoutOwnName least ss = rest) ∨
      (ss.length < least ∨ ss.head? ≠ some c.name) ∧ c.withoutOwnName least ss = ss := by
  cases ss with
  | nil => exact Or.inr ⟨Or.inr nofun, rfl⟩
  | cons s rest =>
      by_cases hown : least ≤ (s :: rest).length ∧ s = c.name
      · exact Or.inl ⟨rest, by rw [hown.2], hown.1, if_pos hown⟩
      · refine Or.inr ⟨?_, if_neg hown⟩
        rcases Decidable.not_and_iff_or_not.1 hown with hshort | hother
        · exact Or.inl (Nat.lt_of_not_le hshort)
        · exact Or.inr fun hhead => hother (Option.some.inj hhead)

end Catalog

/-- **A name behind the own name of a catalog.**  With the own name taken off texts that have a
segment too many, a text is read as a name exactly when it is the dotted text of the name, or the
own name stands in front of this, which must then be a single segment. -/
theorem Reads.qualified_iff {ν : Type} {arity : Nat} {parts : ν → List String}
    {read : List String → Except NameError ν} (h : Reads arity parts read) (c : Catalog)
    {s : String} {n : ν} :
    read (c.withoutOwnName (arity + 1) (segments s)) = .ok n ↔
      s = dotted (parts n) ∨
        '.' ∉ c.name.toList ∧ s = c.name ++ "." ++ dotted (parts n) := by
  have hne := h.parts_ne_nil n
  have hfree : ∀ t ∈ parts n, '.' ∉ t.toList := fun t ht => (h.isSegment n t ht).2
  rw [h.ok_iff, ← dotted_cons hne]
  constructor
  · intro hread
    rcases c.withoutOwnName_cases (arity + 1) (segments s) with ⟨rest, hown, -, hrest⟩ | ⟨-, hsame⟩
    · rw [← hread, hrest]
      obtain ⟨htext, hdots⟩ := (segments_eq_iff (List.cons_ne_nil _ _)).1 hown
      exact Or.inr ⟨hdots c.name List.mem_cons_self, htext⟩
    · rw [hsame] at hread
      exact Or.inl ((segments_eq_iff hne).1 hread).1
  · rintro (rfl | ⟨hname, rfl⟩)
    · -- A name without anything in front of it has no segment too many.
      rw [LakeCatalog.segments_dotted hne hfree]
      rcases c.withoutOwnName_cases (arity + 1) (parts n) with ⟨rest, -, hlong, -⟩ | ⟨-, hsame⟩
      · rw [h.length] at hlong
        exact absurd hlong (Nat.not_succ_le_self arity)
      · exact hsame
    · rw [LakeCatalog.segments_dotted (List.cons_ne_nil _ _)
        (List.forall_mem_cons.2 ⟨hname, hfree⟩)]
      rcases c.withoutOwnName_cases (arity + 1) (c.name :: parts n)
        with ⟨rest, hown, -, hrest⟩ | ⟨hshort | hhead, -⟩
      · rw [hrest, (List.cons.inj hown).2]
      · rw [List.length_cons, h.length] at hshort
        exact absurd hshort (Nat.lt_irrefl _)
      · exact absurd rfl hhead

namespace Catalog

/-- **Which texts are names in a catalog**: those that are names anyway and, if the name of the
catalog has no dot, those that have it in front of a name.  So every name can then be written with
the name of the catalog in front, also one whose namespace has the same name. -/
theorem qualified_names (c : Catalog) :
    (∀ s space table,
      (∃ n, c.tableName s = .ok n ∧ n.space.text = space ∧ n.table = table) ↔
        IsSegment space ∧ IsSegment table ∧
          (s = space ++ "." ++ table ∨
            '.' ∉ c.name.toList ∧ s = c.name ++ "." ++ (space ++ "." ++ table))) ∧
    (∀ s name, (∃ n, c.namespaceName s = .ok n ∧ n.text = name) ↔
      IsSegment name ∧ (s = name ∨ '.' ∉ c.name.toList ∧ s = c.name ++ "." ++ name)) ∧
    ('.' ∉ c.name.toList →
      (∀ n : TableName, c.tableName (c.name ++ "." ++ n.toText) = .ok n) ∧
        ∀ n : NamespaceName, c.namespaceName (c.name ++ "." ++ n.text) = .ok n) := by
  have htable : ∀ s (n : TableName), c.tableName s = .ok n ↔
      s = n.toText ∨ '.' ∉ c.name.toList ∧ s = c.name ++ "." ++ n.toText := by
    intro s n
    rw [← n.dotted_pair]
    exact TableName.reads.qualified_iff c
  have hspace : ∀ s (n : NamespaceName), c.namespaceName s = .ok n ↔
      s = n.text ∨ '.' ∉ c.name.toList ∧ s = c.name ++ "." ++ n.text := by
    intro s n
    have h := NamespaceName.reads.qualified_iff c (s := s) (n := n)
    rw [dotted_singleton] at h
    exact h
  refine ⟨?_, ?_, ?_⟩
  · intro s space table
    constructor
    · rintro ⟨n, hn, rfl, rfl⟩
      exact ⟨n.space.isSegment, n.isSegment, (htable s n).1 hn⟩
    · rintro ⟨hs, ht, htext⟩
      exact ⟨⟨⟨space, hs⟩, table, ht⟩, (htable s _).2 htext, rfl, rfl⟩
  · intro s name
    constructor
    · rintro ⟨n, hn, rfl⟩
      exact ⟨n.isSegment, (hspace s n).1 hn⟩
    · rintro ⟨hname, htext⟩
      exact ⟨⟨name, hname⟩, (hspace s _).2 htext, rfl⟩
  · intro hname
    exact ⟨fun n => (htable _ n).2 (Or.inr ⟨hname, rfl⟩),
      fun n => (hspace _ n).2 (Or.inr ⟨hname, rfl⟩)⟩

/-- **A catalog whose name has a dot** does not take it off: what stands behind it is a good name,
and the whole is none. -/
theorem dotted_catalog_kept :
    (Catalog.mk "eu.glue" none 1).tableName "eu.glue.db.t"
        = .error ⟨"eu.glue.db.t", .hierarchical⟩ ∧
      (Catalog.mk "eu.glue" none 1).namespaceName "eu.glue.db"
        = .error ⟨"eu.glue.db", .hierarchical⟩ ∧
      (∃ n, (Catalog.mk "eu.glue" none 1).tableName "db.t" = .ok n) ∧
      ∃ n, (Catalog.mk "eu.glue" none 1).namespaceName "db" = .ok n := by
  exact ⟨rfl, rfl, ⟨⟨⟨"db", isSegment_db⟩, "t", by decide⟩, rfl⟩, ⟨⟨"db", isSegment_db⟩, rfl⟩⟩

end Catalog

end LakeCatalog
