import LakeCatalog.Config.Reader
import LakeCatalog.Config.Validation
import LakeCatalog.ObjectStore.Directory
import LakeCatalog.Text.Quoted

/-!
# Loading a configuration

A configuration is taken from a text or a file only if it is well formed and meets all its
conditions.

* `ConfigError` — why a configuration cannot be had, and its wording;
* `Config.ofYaml`, `Config.load` — the configuration of a text or of a file
  (`ofYaml_eq_ok_iff`).
-/

namespace LakeCatalog

/-- Why a file cannot be read as a text.  A null character is not allowed in its name. -/
inductive FileFault where
  | nullCharacter
  | unreachable (fault : WayFault)
  | directory
  | notText
deriving DecidableEq, Repr

/-- Why a configuration cannot be had. -/
inductive ConfigError where
  | malformed
  | invalid (violations : List Check)
  | unreadable (path : String) (fault : FileFault)
deriving DecidableEq, Repr

/-- The error in words; the words of a layer below stand as `<source>`. -/
def ConfigError.message : ConfigError → String
  | .malformed => "Failed to parse catalog config: <source>"
  | .invalid _ => "Invalid catalog config: <source>"
  | .unreadable path _ =>
    "Failed to read catalog config " ++ Text.Quoted.quote path ++ ": <source>"

/-- The text of a file. -/
def FileTree.readText (t : FileTree) (path : String) : Except FileFault String :=
  if path.toList.contains '\x00' then .error .nullCharacter
  else match t.resolve path with
    | .error fault => .error (.unreachable fault)
    | .ok file =>
      match t.content? file with
      | none => .error .directory
      | some data =>
        match String.fromUTF8? data with
        | some s => .ok s
        | none => .error .notText

namespace Config

/-- The configuration of a text. -/
def ofYaml (text : String) : Except ConfigError Config :=
  match read? text with
  | none => .error .malformed
  | some c => if c.violations = [] then .ok c else .error (.invalid c.violations)

/-- The configuration of a file. -/
def load (t : FileTree) (path : String) : Except ConfigError Config :=
  match t.readText path with
  | .ok text => ofYaml text
  | .error fault => .error (.unreadable path fault)

theorem ofYaml_eq_ok_iff {text : String} {c : Config} :
    ofYaml text = .ok c ↔ read? text = some c ∧ c.IsValid := by
  unfold ofYaml
  cases h : read? text with
  | none => simp
  | some b =>
    simp only [Option.some.injEq]
    split
    · next hv =>
      constructor
      · intro e
        injection e with e
        exact ⟨e, e ▸ b.violations_eq_nil_iff.1 hv⟩
      · rintro ⟨rfl, -⟩
        rfl
    · next hv =>
      constructor
      · intro e
        injection e
      · rintro ⟨rfl, hc⟩
        exact absurd (b.violations_eq_nil_iff.2 hc) hv

end Config

end LakeCatalog
