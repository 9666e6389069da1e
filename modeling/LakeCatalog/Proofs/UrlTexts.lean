import LakeCatalog.Url.Basic
import Mathlib.Data.List.TakeWhile

/-!
# What of the text of a URL counts for its path

Reading a URL goes through its text from the front, and each step stops at certain characters.
A step on a text of the form `a ++ x :: rest`, where it stops at `x`, does not depend on `rest`:

* `trim_stop`, `splitScheme?_stop`, `checkPort_stop`, `checkAddress_stop` — one lemma for each
  step before the path;
* `checkAddress_eq` — the check of an address as two steps, one before its port and one from
  there;
* `Unmarked`, `beforeQuery_mark` — texts without question marks and number signs, which is what
  is left of a text when its path is read.
-/

namespace LakeCatalog.Url

open Text (splitOn joinWith isLetter isDigit lower)

/-! ### Walks that stop -/

section Stops

variable {α : Type} {p : α → Bool} {x : α}

theorem takeWhile_stop (hx : p x = false) (a rest : List α) :
    (a ++ x :: rest).takeWhile p = a.takeWhile p := by
  induction a with
  | nil => simp [hx]
  | cons c a ih =>
      cases hc : p c with
      | true => simp only [List.cons_append, List.takeWhile_cons, hc, if_true, ih]
      | false => simp only [List.cons_append, List.takeWhile_cons, hc]; rfl

theorem dropWhile_stop (hx : p x = false) (a rest : List α) :
    (a ++ x :: rest).dropWhile p = a.dropWhile p ++ x :: rest := by
  induction a with
  | nil => simp [hx]
  | cons c a ih =>
      cases hc : p c with
      | true => simp only [List.cons_append, List.dropWhile_cons, hc, if_true, ih]
      | false => simp only [List.cons_append, List.dropWhile_cons, hc]; rfl

theorem mem_of_mem_dropWhile {c : α} {a : List α} (h : c ∈ a.dropWhile p) : c ∈ a :=
  (List.dropWhile_sublist p).subset h

/-- What is not walked over stays. -/
theorem mem_dropWhile_of_mem {c : α} {a : List α} (hc : p c = false) (h : c ∈ a) :
    c ∈ a.dropWhile p := by
  induction a with
  | nil => cases h
  | cons b a ih =>
      cases hb : p b with
      | false =>
          rw [List.dropWhile_cons, hb]
          exact h
      | true =>
          simp only [List.dropWhile_cons, hb, if_true]
          rcases List.mem_cons.1 h with rfl | h
          · rw [hc] at hb
            cases hb
          · exact ih h

/-- A walk does not get past what it does not walk over. -/
theorem dropWhile_append_of_mem {c : α} {a : List α} (hc : p c = false) (h : c ∈ a)
    (rest : List α) : (a ++ rest).dropWhile p = a.dropWhile p ++ rest := by
  have hne : (a.dropWhile p).isEmpty = false :=
    List.isEmpty_eq_false_iff.2 (List.ne_nil_of_mem (mem_dropWhile_of_mem hc h))
  rw [List.dropWhile_append, hne]
  rfl

end Stops

/-- Question marks and number signs. -/
def isMark (c : Char) : Bool := c = '?' || c = '#'

/-- A text without question marks and number signs. -/
def Unmarked (cs : List Char) : Prop := ∀ c ∈ cs, isMark c = false

theorem Unmarked.of_subset {a b : List Char} (h : Unmarked b) (hsub : ∀ c ∈ a, c ∈ b) :
    Unmarked a := fun c hc => h c (hsub c hc)

theorem Unmarked.append {a b : List Char} (ha : Unmarked a) (hb : Unmarked b) :
    Unmarked (a ++ b) := by
  intro c hc
  rcases List.mem_append.1 hc with hc | hc
  · exact ha c hc
  · exact hb c hc

theorem beforeQuery_mark {a : List Char} (ha : Unmarked a) {x : Char} (hx : isMark x = true)
    (rest : List Char) : beforeQuery (a ++ x :: rest) = a := by
  unfold beforeQuery
  have hstop : (fun c : Char => !(c = '?' || c = '#')) x = false := by
    unfold isMark at hx
    simp only [hx, Bool.not_true]
  rw [takeWhile_stop (p := fun c => !(c = '?' || c = '#')) hstop, List.takeWhile_eq_self_iff.2]
  intro c hc
  have hfree := ha c hc
  unfold isMark at hfree
  rw [hfree]
  rfl

theorem beforeQuery_unmarked {a : List Char} (ha : Unmarked a) : beforeQuery a = a := by
  unfold beforeQuery
  rw [List.takeWhile_eq_self_iff.2]
  intro c hc
  have hfree := ha c hc
  unfold isMark at hfree
  rw [hfree]
  rfl

/-! ### Ends and breaks -/

/-- A character that neither counts as a blank at an end nor as a break. -/
def IsSolid (c : Char) : Prop := 0x20 < c.toNat

theorem not_break_of_solid {c : Char} (h : IsSolid c) : isBreak c = false := by
  unfold isBreak
  unfold IsSolid at h
  have h₁ : c ≠ '\t' := by
    rintro rfl
    exact absurd h (by decide)
  have h₂ : c ≠ '\n' := by
    rintro rfl
    exact absurd h (by decide)
  have h₃ : c ≠ '\r' := by
    rintro rfl
    exact absurd h (by decide)
  simp [h₁, h₂, h₃]

/-- Trimming a text takes nothing off behind a solid character, if the text ends in one. -/
theorem trim_stop {x : Char} (hx : IsSolid x) (a : List Char) {rest : List Char}
    (hlast : ∀ c, (x :: rest).getLast? = some c → IsSolid c) :
    trim (a ++ x :: rest) = a.dropWhile (fun c => c.toNat ≤ 0x20) ++ x :: rest := by
  unfold trim
  have houter : (fun c : Char => decide (c.toNat ≤ 0x20)) x = false := by
    unfold IsSolid at hx
    exact decide_eq_false (by omega)
  simp only
  rw [dropWhile_stop (p := fun c : Char => decide (c.toNat ≤ 0x20)) houter, List.reverse_append]
  obtain ⟨c, hc⟩ : ∃ c, (x :: rest).getLast? = some c := ⟨_, List.getLast?_eq_some_getLast (by simp)⟩
  have hback : ∃ l, (x :: rest).reverse = c :: l := by
    rw [← List.head?_reverse] at hc
    cases hr : (x :: rest).reverse with
    | nil =>
        rw [hr] at hc
        cases hc
    | cons b l =>
        rw [hr] at hc
        cases hc
        exact ⟨l, rfl⟩
  obtain ⟨l, hl⟩ := hback
  have hsolid : (decide (c.toNat ≤ 0x20)) = false := by
    have hc' := hlast c hc
    unfold IsSolid at hc'
    exact decide_eq_false (by omega)
  rw [hl, List.cons_append, List.dropWhile_cons, hsolid]
  show (c :: (l ++ _)).reverse = _
  rw [← List.cons_append, ← hl, ← List.reverse_append, List.reverse_reverse]

theorem dropBreaks_append (a b : List Char) : dropBreaks (a ++ b) = dropBreaks a ++ dropBreaks b :=
  List.filter_append a b

theorem dropBreaks_cons {x : Char} (hx : isBreak x = false) (rest : List Char) :
    dropBreaks (x :: rest) = x :: dropBreaks rest := by
  unfold dropBreaks
  rw [List.filter_cons, hx]
  rfl

theorem mem_of_mem_dropBreaks {c : Char} {a : List Char} (h : c ∈ dropBreaks a) : c ∈ a :=
  (List.mem_filter.1 h).1

/-! ### Schemes -/

/-- A scheme is never read past a character that is none of a scheme. -/
theorem splitScheme?_stop {x : Char} (hx : isSchemeChar x = false) (hcolon : x ≠ ':')
    (a rest : List Char) :
    splitScheme? (a ++ x :: rest) = (splitScheme? a).map fun r => (r.1, r.2 ++ x :: rest) := by
  cases a with
  | nil =>
      unfold splitScheme?
      rw [List.nil_append, List.dropWhile_cons, hx]
      simp [hcolon]
  | cons c a =>
      unfold splitScheme?
      rw [dropWhile_stop hx, takeWhile_stop hx]
      cases hd : (c :: a).dropWhile isSchemeChar with
      | nil => simp [hcolon]
      | cons b r =>
          by_cases hb : b = ':'
          · subst hb
            simp only [List.cons_append]
            by_cases hletter : isLetter c = true
            · rw [if_pos hletter, if_pos hletter]
              rfl
            · rw [if_neg hletter, if_neg hletter]
              rfl
          · simp [hb]

theorem splitScheme?_suffix {a scheme rest : List Char}
    (h : splitScheme? a = some (scheme, rest)) : ∃ pre, a = pre ++ ':' :: rest := by
  unfold splitScheme? at h
  cases a with
  | nil => simp at h
  | cons c a =>
      cases hd : (c :: a).dropWhile isSchemeChar with
      | nil =>
          rw [hd] at h
          simp at h
      | cons b r =>
          rw [hd] at h
          by_cases hb : b = ':'
          · subst hb
            simp only at h
            by_cases hletter : isLetter c = true
            · rw [if_pos hletter] at h
              cases h
              refine ⟨(c :: a).takeWhile isSchemeChar, ?_⟩
              rw [← hd, List.takeWhile_append_dropWhile]
            · rw [if_neg hletter] at h
              cases h
          · simp [hb] at h

/-! ### Addresses -/

/-- What may follow the port of an address. -/
def endsPort (c : Char) : Bool := c = '/' || c = '\\' || c = '?' || c = '#'

/-- The digits behind the host of an address, if there is a colon. -/
def portOf : List Char → Option (List Char)
  | ':' :: p => some p
  | _ => none

/-- The checks of an address that come before its port: what is read of the port, and whether the
address names a user but no host. -/
def checkHost (kind : Kind) (address : List Char) (followed : Bool) :
    Except Fault (Option (List Char) × Bool) := do
  let (credentials, hostAndPort) := (splitCredentials address).getD ([], address)
  if (splitCredentials address).isSome ∧ credentials = [] ∧ hostAndPort = [] ∧ followed then
    throw .emptyHost
  let (host, digits) := splitHost false hostAndPort
  if kind = .other then
    checkOpaque host
    if host = [] ∧ digits ≠ [] then throw .emptyHost
  else
    if host = [] then throw .emptyHost
    let _ ← checkDomain host
  pure (portOf digits, host = [] ∧ hasCredentials credentials)

/-- The check of the port of an address, and what is left behind it. -/
def checkRest (after : List Char) (head : Option (List Char) × Bool) : Except Fault (List Char) :=
  match (head.1.elim (.ok after) fun p => checkPort endsPort (p ++ after)) with
  | .error e => .error e
  | .ok rest => if head.2 then .error .emptyHost else .ok rest

theorem checkRest_portOf (digits after : List Char) (bare : Prop) [Decidable bare] :
    checkRest after (portOf digits, decide bare)
      = match digits with
        | ':' :: p => (do
          let rest ← checkPort endsPort (p ++ after)
          if bare then throw .emptyHost
          pure rest)
        | _ => (do
          let rest ← pure after
          if bare then throw .emptyHost
          pure rest) := by
  cases digits with
  | nil => by_cases hbare : bare <;> simp only [hbare, if_true, if_false] <;> rfl
  | cons c p =>
      by_cases hc : c = ':'
      · subst hc
        unfold checkRest
        simp only [portOf, Option.elim]
        cases checkPort endsPort (p ++ after) with
        | error e => rfl
        | ok rest => by_cases hbare : bare <;> simp only [hbare, if_true, if_false] <;> rfl
      · have hnone : portOf (c :: p) = none := by
          unfold portOf
          split
          · rename_i h
            cases h
            exact absurd rfl hc
          · rfl
        rw [hnone]
        by_cases hbare : bare <;> simp only [hbare, if_true, if_false] <;> split
        · rename_i h
          cases h
          exact absurd rfl hc
        · rfl
        · rename_i h
          cases h
          exact absurd rfl hc
        · rfl

theorem checkAddress_eq (kind : Kind) (cs : List Char) :
    checkAddress kind cs
      = (checkHost kind (cs.takeWhile fun c => !endsAddress kind c)
          (cs.dropWhile (fun c => !endsAddress kind c) ≠ [])).bind
        (checkRest (cs.dropWhile fun c => !endsAddress kind c)) := by
  unfold checkAddress checkHost
  generalize cs.takeWhile (fun c => !endsAddress kind c) = address
  generalize cs.dropWhile (fun c => !endsAddress kind c) = after
  simp only [decide_eq_true_eq]
  generalize hq : (splitCredentials address).getD ([], address) = q
  generalize hr : splitHost false q.2 = r
  by_cases hempty : (splitCredentials address).isSome = true ∧ q.1 = [] ∧ q.2 = [] ∧ after ≠ []
  · rw [if_pos hempty, if_pos hempty]
    rfl
  · rw [if_neg hempty, if_neg hempty]
    by_cases hother : kind = .other
    · rw [if_pos hother, if_pos hother]
      cases checkOpaque r.1 with
      | error e => rfl
      | ok u =>
          by_cases hbare : r.1 = [] ∧ r.2 ≠ []
          · simp only [bind, Except.bind]
            rw [if_pos hbare, if_pos hbare]
            rfl
          · simp only [bind, Except.bind]
            rw [if_neg hbare, if_neg hbare]
            exact (checkRest_portOf r.2 after _).symm
    · rw [if_neg hother, if_neg hother]
      by_cases hbare : r.1 = []
      · rw [if_pos hbare, if_pos hbare]
        rfl
      · rw [if_neg hbare, if_neg hbare]
        cases checkDomain r.1 with
        | error e => rfl
        | ok name => exact (checkRest_portOf r.2 after _).symm

theorem endsAddress_stop (kind : Kind) {x : Char} (hx : x = '/' ∨ isMark x = true) :
    endsAddress kind x = true := by
  unfold endsAddress isSlash
  rcases hx with rfl | hx
  · rfl
  · unfold isMark at hx
    rw [Bool.or_assoc, hx, Bool.or_true]

theorem eq_of_stop {x : Char} (hx : x = '/' ∨ isMark x = true) : x = '/' ∨ x = '?' ∨ x = '#' := by
  rcases hx with rfl | hx
  · exact Or.inl rfl
  · unfold isMark at hx
    simpa using Or.inr hx

/-- The text behind an address is what is there, but for digits of a port: either every text
behind the stop is refused for the same reason, or none is looked at. -/
def StopsAt (x : Char) (f : List Char → Except Fault (List Char)) (a : List Char) : Prop :=
  (∃ e, ∀ rest, f (a ++ x :: rest) = .error e) ∨
    ∃ b, (∀ c ∈ b, c ∈ a) ∧ ∀ rest, f (a ++ x :: rest) = .ok (b ++ x :: rest)

theorem checkPort_stop {x : Char} (hx : x = '/' ∨ isMark x = true) (a : List Char) :
    StopsAt x (checkPort endsPort) a := by
  have hdigit : isDigit x = false := by
    rcases eq_of_stop hx with rfl | rfl | rfl <;> rfl
  have hends : endsPort x = true := by
    rcases eq_of_stop hx with rfl | rfl | rfl <;> rfl
  unfold StopsAt checkPort
  simp only [takeWhile_stop hdigit, dropWhile_stop hdigit]
  by_cases hdigits : a.takeWhile isDigit ≠ [] ∧
      Text.Numeral.readBelow? 65536 (a.takeWhile isDigit) = none
  · left
    refine ⟨.portNumber, ?_⟩
    intro rest
    rw [if_pos hdigits]
  · cases hd : a.dropWhile isDigit with
    | nil =>
        right
        refine ⟨[], by simp, ?_⟩
        intro rest
        rw [if_neg hdigits]
        simp only [List.nil_append, hends, if_true]
    | cons c b =>
        cases hc : endsPort c with
        | true =>
            right
            refine ⟨c :: b, ?_, ?_⟩
            · intro e he
              rw [← hd] at he
              exact mem_of_mem_dropWhile he
            · intro rest
              rw [if_neg hdigits]
              simp only [List.cons_append, hc, if_true]
        | false =>
            left
            refine ⟨.portNumber, ?_⟩
            intro rest
            rw [if_neg hdigits]
            simp only [List.cons_append, hc]
            rfl

theorem mem_of_mem_splitHost {inBrackets : Bool} {cs : List Char} {c : Char}
    (h : c ∈ (splitHost inBrackets cs).2) : c ∈ cs := by
  induction cs generalizing inBrackets with
  | nil => simp [splitHost] at h
  | cons b cs ih =>
      unfold splitHost at h
      by_cases hb : b = ':' ∧ ¬inBrackets = true
      · rw [if_pos hb] at h
        exact h
      · rw [if_neg hb] at h
        exact List.mem_cons_of_mem _ (ih h)

theorem mem_of_mem_splitCredentials {address : List Char} {c : Char}
    (h : c ∈ ((splitCredentials address).getD ([], address)).2) : c ∈ address := by
  unfold splitCredentials at h
  simp only at h
  split at h
  · exact h
  · have hmem := (List.takeWhile_sublist _).subset (List.mem_reverse.1 h)
    exact List.mem_reverse.1 hmem

theorem mem_of_portOf {digits p : List Char} {c : Char} (hport : portOf digits = some p)
    (hc : c ∈ p) : c ∈ digits := by
  unfold portOf at hport
  split at hport
  · cases hport
    exact List.mem_cons_of_mem _ hc
  · cases hport

theorem port_of_checkHost {kind : Kind} {address : List Char} {followed : Bool}
    {head : Option (List Char) × Bool} (h : checkHost kind address followed = .ok head) :
    head.1 = portOf (splitHost false ((splitCredentials address).getD ([], address)).2).2 := by
  unfold checkHost at h
  revert h
  generalize (splitCredentials address).getD ([], address) = q
  simp only
  generalize splitHost false q.2 = r
  intro h
  split at h
  · cases h
  · split at h
    · cases hhost : checkOpaque r.1 with
      | error e =>
          rw [hhost] at h
          cases h
      | ok u =>
          rw [hhost] at h
          simp only [bind, Except.bind] at h
          split at h
          · cases h
          · cases h
            rfl
    · split at h
      · cases h
      · cases hhost : checkDomain r.1 with
        | error e =>
            rw [hhost] at h
            cases h
        | ok name =>
            rw [hhost] at h
            cases h
            rfl

/-- What is left behind an address stops where the address does. -/
theorem checkRest_stop {x : Char} (hx : x = '/' ∨ isMark x = true) {a b : List Char}
    {head : Option (List Char) × Bool} (hport : ∀ p, head.1 = some p → ∀ c ∈ p, c ∈ a)
    (hb : ∀ c ∈ b, c ∈ a) :
    (∃ e, ∀ rest, checkRest (b ++ x :: rest) head = .error e) ∨
      ∃ d, (∀ c ∈ d, c ∈ a) ∧ ∀ rest, checkRest (b ++ x :: rest) head = .ok (d ++ x :: rest) := by
  obtain ⟨port, bare⟩ := head
  -- Without a user that lacks a host, the outcome is that of the port.
  have hrest : ∀ {f : List Char → Except Fault (List Char)} {d : List Char}, (∀ c ∈ d, c ∈ a) →
      StopsAt x f d → (∀ rest, checkRest (b ++ x :: rest) (port, bare)
        = match f (d ++ x :: rest) with
          | .error e => .error e
          | .ok rest => if bare then .error .emptyHost else .ok rest) →
      (∃ e, ∀ rest, checkRest (b ++ x :: rest) (port, bare) = .error e) ∨
        ∃ d, (∀ c ∈ d, c ∈ a) ∧
          ∀ rest, checkRest (b ++ x :: rest) (port, bare) = .ok (d ++ x :: rest) := by
    intro f d hd hf heq
    rcases hf with ⟨e, hf⟩ | ⟨d', hd', hf⟩
    · exact Or.inl ⟨e, fun rest => by rw [heq, hf]⟩
    · cases bare with
      | true => exact Or.inl ⟨.emptyHost, fun rest => by rw [heq, hf]; rfl⟩
      | false =>
          exact Or.inr ⟨d', fun c hc => hd c (hd' c hc), fun rest => by rw [heq, hf]; rfl⟩
  cases port with
  | none => exact hrest hb (Or.inr ⟨b, fun _ h => h, fun _ => rfl⟩) fun _ => rfl
  | some p =>
      refine hrest (d := p ++ b) ?_ (checkPort_stop hx (p ++ b)) ?_
      · intro c hc
        rcases List.mem_append.1 hc with hc | hc
        · exact hport p rfl c hc
        · exact hb c hc
      · intro rest
        rw [List.append_assoc]
        rfl

/-- **The check of an address** stops at a slash or mark behind it. -/
theorem checkAddress_stop (kind : Kind) {x : Char} (hx : x = '/' ∨ isMark x = true)
    (a : List Char) : StopsAt x (checkAddress kind) a := by
  have hend : (fun c => !endsAddress kind c) x = false := by
    simp only [endsAddress_stop kind hx, Bool.not_true]
  have hafter : ∀ rest : List Char,
      decide ((a.dropWhile fun c => !endsAddress kind c) ++ x :: rest ≠ []) = true := by
    intro rest
    simp
  have heq : ∀ rest, checkAddress kind (a ++ x :: rest)
      = (checkHost kind (a.takeWhile fun c => !endsAddress kind c) true).bind
        (checkRest ((a.dropWhile fun c => !endsAddress kind c) ++ x :: rest)) := by
    intro rest
    rw [checkAddress_eq, takeWhile_stop (p := fun c => !endsAddress kind c) hend,
      dropWhile_stop (p := fun c => !endsAddress kind c) hend, hafter]
  cases hhost : checkHost kind (a.takeWhile fun c => !endsAddress kind c) true with
  | error e => exact Or.inl ⟨e, fun rest => by rw [heq, hhost]; rfl⟩
  | ok head =>
      have hport : ∀ p, head.1 = some p → ∀ c ∈ p, c ∈ a := by
        intro p hp c hc
        rw [port_of_checkHost hhost] at hp
        have hmem := mem_of_mem_splitCredentials (mem_of_mem_splitHost (mem_of_portOf hp hc))
        exact (List.takeWhile_sublist _).subset hmem
      rcases checkRest_stop hx hport fun c hc => mem_of_mem_dropWhile hc with ⟨e, h⟩ | ⟨d, hd, h⟩
      · exact Or.inl ⟨e, fun rest => by rw [heq, hhost]; exact h rest⟩
      · exact Or.inr ⟨d, hd, fun rest => by rw [heq, hhost]; exact h rest⟩

end LakeCatalog.Url
