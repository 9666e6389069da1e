import Mathlib.Data.List.Nodup
import LakeCatalog.Config.Load

/-!
# Which configurations are refused, and what is said about them

The conditions on a configuration are met deep inside it: in the storage it has chosen, in the
credentials if there are any, in the settings of the metastore.  Here they are listed from outside,
each with the full path of its field, and compared with what is found on loading.

* `Config.Breach` — a field breaks its condition;
* `Config.exists_violation_iff` — the violations that are found are the breaches there are;
* `Config.nodup_fields_violations` — and no field has two of them;
* `Config.refused_for_breaches` — what becomes of a text that is a configuration.
-/

namespace LakeCatalog

namespace Config

/-- A field of a configuration breaks its condition.  Fields are named by their full paths; a field
that is absent, or belongs to another kind of storage or credentials, breaks none. -/
inductive Breach (c : Config) : String → Condition → Prop where
  | name : c.name = "" → Breach c "name" (.nonempty c.name)
  | warehouse {url : String} : c.warehouse = some url → Url.isUrl url = false →
      Breach c "warehouse" (.url url)
  | directoryPath {path : String} : c.storage = .directory path → path = "" →
      Breach c "file_io.path" (.nonempty path)
  | bucketRegion {b : BucketSettings} {region : String} : c.storage = .bucket b →
      b.region = some region → region = "" → Breach c "file_io.region" (.nonempty region)
  | bucketName {b : BucketSettings} {bucket : String} : c.storage = .bucket b →
      b.bucket = some bucket → bucket = "" → Breach c "file_io.bucket" (.nonempty bucket)
  | bucketEndpoint {b : BucketSettings} {url : String} : c.storage = .bucket b →
      b.endpoint = some url → Url.isUrl url = false → Breach c "file_io.endpoint" (.url url)
  | keyId {b : BucketSettings} {id secret : String} : c.storage = .bucket b →
      b.credentials = some (.accessKey id secret) → id = "" →
      Breach c "file_io.credentials.aws_access_key_id" (.nonempty id)
  | keySecret {b : BucketSettings} {id secret : String} : c.storage = .bucket b →
      b.credentials = some (.accessKey id secret) → secret = "" →
      Breach c "file_io.credentials.aws_secret_access_key" (.nonempty secret)
  | token {b : BucketSettings} {token : String} : c.storage = .bucket b →
      b.credentials = some (.token token) → token = "" →
      Breach c "file_io.credentials.token" (.token token)
  | glueRegion {region : String} : c.glue.region = some region → region = "" →
      Breach c "glue.region" (.nonempty region)
  | glueEndpoint {url : String} : c.glue.endpoint = some url → Url.isUrl url = false →
      Breach c "glue.endpoint" (.url url)
  | glueCatalogId {id : String} : c.glue.catalogId = some id → id = "" →
      Breach c "glue.catalog_id" (.nonempty id)
  | gluePageSize {n : Int32} : c.glue.pageSize = some n → n < 1 ∨ 100 < n →
      Breach c "glue.page_size" (.pageSize n)

end Config

/-! ### When a condition fails -/

namespace Condition

theorem not_holds_nonempty {s : String} : ¬(nonempty s).Holds ↔ s = "" := Classical.not_not

theorem not_holds_token {s : String} : ¬(token s).Holds ↔ s = "" := Classical.not_not

theorem not_holds_url {s : String} : ¬(url s).Holds ↔ Url.isUrl s = false := by
  simp [Holds]

theorem not_holds_pageSize {n : Int32} : ¬(pageSize n).Holds ↔ n < 1 ∨ 100 < n := by
  simp only [Holds, minPageSize, maxPageSize, Classical.not_and_iff_not_or_not, Int32.not_le]

end Condition

/-! ### The conditions that are checked -/

namespace Check

variable {k : Check} {name : String}

theorem mem_optional {α : Type} {condition : α → Condition} {o : Option α} :
    k ∈ optional name condition o ↔ ∃ a, o = some a ∧ k = ⟨[name], condition a⟩ := by
  cases o <;> simp [optional]

theorem mem_below {ks : List Check} :
    k ∈ below name ks ↔ ∃ j ∈ ks, k = ⟨name :: j.path, j.condition⟩ := by
  simp only [below, List.mem_map, eq_comm]

theorem map_path_optional {α : Type} (name : String) (condition : α → Condition) (o : Option α) :
    ((optional name condition o).map path).Sublist [[name]] := by
  cases o with
  | none => exact List.nil_sublist _
  | some a => exact List.Sublist.refl _

theorem map_path_below (name : String) (ks : List Check) :
    (below name ks).map path = (ks.map path).map (name :: ·) := by
  simp [below]

end Check

namespace Config

open Check (mem_optional mem_below)
open Condition (not_holds_nonempty not_holds_token not_holds_url not_holds_pageSize)

variable {c : Config} {j k : Check}

theorem mem_violations : k ∈ c.violations ↔ k ∈ c.checks ∧ ¬k.condition.Holds := by
  simp [violations]

theorem mem_violations_storage (hj : j ∈ c.storage.checks) (hfails : ¬j.condition.Holds) :
    ⟨"file_io" :: j.path, j.condition⟩ ∈ c.violations := by
  have hbelow : ⟨"file_io" :: j.path, j.condition⟩ ∈ Check.below "file_io" c.storage.checks :=
    mem_below.2 ⟨j, hj, rfl⟩
  exact mem_violations.2 ⟨List.mem_append_left _ (List.mem_append_right _ hbelow), hfails⟩

theorem mem_violations_glue (hj : j ∈ c.glue.checks) (hfails : ¬j.condition.Holds) :
    ⟨"glue" :: j.path, j.condition⟩ ∈ c.violations := by
  have hbelow : ⟨"glue" :: j.path, j.condition⟩ ∈ Check.below "glue" c.glue.checks :=
    mem_below.2 ⟨j, hj, rfl⟩
  exact mem_violations.2 ⟨List.mem_append_right _ hbelow, hfails⟩

theorem mem_violations_credentials {b : BucketSettings} {credentials : Credentials}
    (hb : c.storage = .bucket b) (hcredentials : b.credentials = some credentials)
    (hj : j ∈ credentials.checks) (hfails : ¬j.condition.Holds) :
    ⟨"file_io" :: "credentials" :: j.path, j.condition⟩ ∈ c.violations := by
  have hchecks : ⟨"credentials" :: j.path, j.condition⟩ ∈ c.storage.checks := by
    rw [hb]
    apply List.mem_append_right
    rw [hcredentials]
    exact mem_below.2 ⟨j, hj, rfl⟩
  exact mem_violations_storage hchecks hfails

/-! ### The violations that are found are the breaches there are -/

theorem breach_of_credentials {b : BucketSettings} (hb : c.storage = .bucket b)
    (hj : j ∈ b.credentials.elim [] (·.checks)) (hfails : ¬j.condition.Holds) :
    c.Breach (Check.field ⟨"file_io" :: "credentials" :: j.path, j.condition⟩) j.condition := by
  cases hcredentials : b.credentials with
  | none =>
      rw [hcredentials] at hj
      cases hj
  | some credentials =>
      rw [hcredentials] at hj
      cases credentials with
      | accessKey id secret =>
          simp only [Option.elim, Credentials.checks, List.mem_cons, List.not_mem_nil,
            or_false] at hj
          rcases hj with rfl | rfl
          · exact .keyId hb hcredentials (not_holds_nonempty.1 hfails)
          · exact .keySecret hb hcredentials (not_holds_nonempty.1 hfails)
      | token token =>
          cases List.mem_singleton.1 hj
          exact .token hb hcredentials (not_holds_token.1 hfails)

theorem breach_of_storage (hj : j ∈ c.storage.checks) (hfails : ¬j.condition.Holds) :
    c.Breach (Check.field ⟨"file_io" :: j.path, j.condition⟩) j.condition := by
  cases hstorage : c.storage with
  | memory =>
      rw [hstorage] at hj
      cases hj
  | directory path =>
      rw [hstorage] at hj
      cases List.mem_singleton.1 hj
      exact .directoryPath hstorage (not_holds_nonempty.1 hfails)
  | bucket b =>
      rw [hstorage] at hj
      simp only [Storage.checks, List.mem_append, mem_optional, mem_below, or_assoc] at hj
      rcases hj with ⟨region, hregion, rfl⟩ | ⟨bucket, hbucket, rfl⟩ | ⟨url, hurl, rfl⟩ | ⟨i, hi, rfl⟩
      · exact .bucketRegion hstorage hregion (not_holds_nonempty.1 hfails)
      · exact .bucketName hstorage hbucket (not_holds_nonempty.1 hfails)
      · exact .bucketEndpoint hstorage hurl (not_holds_url.1 hfails)
      · exact breach_of_credentials hstorage hi hfails

theorem breach_of_glue (hj : j ∈ c.glue.checks) (hfails : ¬j.condition.Holds) :
    c.Breach (Check.field ⟨"glue" :: j.path, j.condition⟩) j.condition := by
  simp only [GlueSettings.checks, List.mem_append, mem_optional, or_assoc] at hj
  rcases hj with ⟨region, hregion, rfl⟩ | ⟨url, hurl, rfl⟩ | ⟨id, hid, rfl⟩ | ⟨n, hn, rfl⟩
  · exact .glueRegion hregion (not_holds_nonempty.1 hfails)
  · exact .glueEndpoint hurl (not_holds_url.1 hfails)
  · exact .glueCatalogId hid (not_holds_nonempty.1 hfails)
  · exact .gluePageSize hn (not_holds_pageSize.1 hfails)

/-- **Nothing is found that is not there.** -/
theorem breach_of_mem_violations (h : k ∈ c.violations) : c.Breach k.field k.condition := by
  obtain ⟨hk, hfails⟩ := mem_violations.1 h
  simp only [checks, List.cons_append, List.mem_cons, List.mem_append, mem_optional, mem_below,
    or_assoc] at hk
  rcases hk with rfl | ⟨url, hurl, rfl⟩ | ⟨j, hj, rfl⟩ | ⟨j, hj, rfl⟩
  · exact .name (not_holds_nonempty.1 hfails)
  · exact .warehouse hurl (not_holds_url.1 hfails)
  · exact breach_of_storage hj hfails
  · exact breach_of_glue hj hfails

/-- **Nothing that is there is missed.** -/
theorem exists_violation_of_breach {field : String} {condition : Condition}
    (h : c.Breach field condition) :
    ∃ k ∈ c.violations, k.field = field ∧ k.condition = condition := by
  cases h with
  | name h =>
      refine ⟨⟨["name"], _⟩, mem_violations.2 ⟨?_, not_holds_nonempty.2 h⟩, rfl, rfl⟩
      simp [checks]
  | warehouse hurl h =>
      refine ⟨⟨["warehouse"], _⟩, mem_violations.2 ⟨?_, not_holds_url.2 h⟩, rfl, rfl⟩
      simp [checks, hurl, Check.optional]
  | @directoryPath path hpath h =>
      have hj : ⟨["path"], .nonempty path⟩ ∈ c.storage.checks := by simp [hpath, Storage.checks]
      exact ⟨_, mem_violations_storage hj (not_holds_nonempty.2 h), rfl, rfl⟩
  | @bucketRegion b region hb hregion h =>
      have hj : ⟨["region"], .nonempty region⟩ ∈ c.storage.checks := by
        simp [hb, Storage.checks, mem_optional, hregion]
      exact ⟨_, mem_violations_storage hj (not_holds_nonempty.2 h), rfl, rfl⟩
  | @bucketName b bucket hb hbucket h =>
      have hj : ⟨["bucket"], .nonempty bucket⟩ ∈ c.storage.checks := by
        simp [hb, Storage.checks, mem_optional, hbucket]
      exact ⟨_, mem_violations_storage hj (not_holds_nonempty.2 h), rfl, rfl⟩
  | @bucketEndpoint b url hb hurl h =>
      have hj : ⟨["endpoint"], .url url⟩ ∈ c.storage.checks := by
        simp [hb, Storage.checks, mem_optional, hurl]
      exact ⟨_, mem_violations_storage hj (not_holds_url.2 h), rfl, rfl⟩
  | @keyId b id secret hb hkey h =>
      have hj : ⟨["aws_access_key_id"], .nonempty id⟩ ∈ (Credentials.accessKey id secret).checks :=
        List.mem_cons_self
      exact ⟨_, mem_violations_credentials hb hkey hj (not_holds_nonempty.2 h), rfl, rfl⟩
  | @keySecret b id secret hb hkey h =>
      have hj : ⟨["aws_secret_access_key"], .nonempty secret⟩ ∈
          (Credentials.accessKey id secret).checks :=
        List.mem_cons_of_mem _ List.mem_cons_self
      exact ⟨_, mem_violations_credentials hb hkey hj (not_holds_nonempty.2 h), rfl, rfl⟩
  | @token b token hb htoken h =>
      have hj : ⟨["token"], .token token⟩ ∈ (Credentials.token token).checks := List.mem_cons_self
      exact ⟨_, mem_violations_credentials hb htoken hj (not_holds_token.2 h), rfl, rfl⟩
  | @glueRegion region hregion h =>
      have hj : ⟨["region"], .nonempty region⟩ ∈ c.glue.checks := by
        simp [GlueSettings.checks, mem_optional, hregion]
      exact ⟨_, mem_violations_glue hj (not_holds_nonempty.2 h), rfl, rfl⟩
  | @glueEndpoint url hurl h =>
      have hj : ⟨["endpoint"], .url url⟩ ∈ c.glue.checks := by
        simp [GlueSettings.checks, mem_optional, hurl]
      exact ⟨_, mem_violations_glue hj (not_holds_url.2 h), rfl, rfl⟩
  | @glueCatalogId id hid h =>
      have hj : ⟨["catalog_id"], .nonempty id⟩ ∈ c.glue.checks := by
        simp [GlueSettings.checks, mem_optional, hid]
      exact ⟨_, mem_violations_glue hj (not_holds_nonempty.2 h), rfl, rfl⟩
  | @gluePageSize n hn h =>
      have hj : ⟨["page_size"], .pageSize n⟩ ∈ c.glue.checks := by
        simp [GlueSettings.checks, mem_optional, hn]
      exact ⟨_, mem_violations_glue hj (not_holds_pageSize.2 h), rfl, rfl⟩

theorem exists_violation_iff {field : String} {condition : Condition} :
    (∃ k ∈ c.violations, k.field = field ∧ k.condition = condition) ↔ c.Breach field condition := by
  constructor
  · rintro ⟨k, hk, rfl, rfl⟩
    exact breach_of_mem_violations hk
  · exact exists_violation_of_breach

theorem violations_eq_nil_iff_breach :
    c.violations = [] ↔ ∀ field condition, ¬c.Breach field condition := by
  rw [List.eq_nil_iff_forall_not_mem]
  constructor
  · intro hnone field condition hbreach
    obtain ⟨k, hk, -⟩ := exists_violation_of_breach hbreach
    exact hnone k hk
  · intro hnone k hk
    exact hnone _ _ (breach_of_mem_violations hk)

end Config

/-! ### No field has two conditions -/

/-- The fields of credentials of any kind. -/
def Credentials.paths : List (List String) :=
  [["aws_access_key_id"], ["aws_secret_access_key"], ["token"]]

/-- The fields of a storage of any kind. -/
def Storage.paths : List (List String) :=
  [["path"], ["region"], ["bucket"], ["endpoint"]] ++ Credentials.paths.map ("credentials" :: ·)

/-- The fields of the settings of the metastore. -/
def GlueSettings.paths : List (List String) :=
  [["region"], ["endpoint"], ["catalog_id"], ["page_size"]]

/-- All fields with a condition. -/
def Config.paths : List (List String) :=
  [["name"], ["warehouse"]] ++ Storage.paths.map ("file_io" :: ·)
    ++ GlueSettings.paths.map ("glue" :: ·)

open Check (map_path_optional map_path_below)

theorem Credentials.map_path_checks (c : Credentials) :
    (c.checks.map Check.path).Sublist Credentials.paths := by
  cases c with
  | accessKey id secret =>
      exact List.sublist_append_left [["aws_access_key_id"], ["aws_secret_access_key"]] [["token"]]
  | token token =>
      exact List.sublist_append_right [["aws_access_key_id"], ["aws_secret_access_key"]] [["token"]]

theorem Storage.map_path_checks (s : Storage) :
    (s.checks.map Check.path).Sublist Storage.paths := by
  cases s with
  | memory => exact List.nil_sublist _
  | directory path => exact List.sublist_append_left [["path"]] _
  | bucket b =>
      have hcredentials :
          ((b.credentials.elim [] (·.checks)).map Check.path).Sublist Credentials.paths := by
        cases b.credentials with
        | none => exact List.nil_sublist _
        | some credentials => exact credentials.map_path_checks
      simp only [checks, List.map_append, map_path_below]
      apply List.Sublist.append _ (hcredentials.map _)
      apply List.Sublist.cons
      exact ((map_path_optional _ _ _).append (map_path_optional _ _ _)).append
        (map_path_optional _ _ _)

theorem GlueSettings.map_path_checks (g : GlueSettings) :
    (g.checks.map Check.path).Sublist GlueSettings.paths := by
  simp only [checks, List.map_append]
  exact (((map_path_optional _ _ _).append (map_path_optional _ _ _)).append
    (map_path_optional _ _ _)).append (map_path_optional _ _ _)

namespace Config

theorem map_path_checks (c : Config) : (c.checks.map Check.path).Sublist paths := by
  simp only [checks, List.map_append, List.map_cons, map_path_below]
  apply List.Sublist.append _ (c.glue.map_path_checks.map _)
  apply List.Sublist.append _ (c.storage.map_path_checks.map _)
  exact (map_path_optional _ _ _).cons_cons _

/-- **No field is reported twice**, as all fields have different paths, also as texts. -/
theorem nodup_fields_violations (c : Config) : (c.violations.map Check.field).Nodup := by
  -- Which conditions there are depends on the configuration, but their paths are always some of a
  -- fixed list, in its order.
  have hdistinct : (paths.map ".".intercalate).Nodup := by decide +kernel
  have hsublist : (c.violations.map Check.path).Sublist paths :=
    (List.filter_sublist.map Check.path).trans c.map_path_checks
  have hfields : c.violations.map Check.field
      = (c.violations.map Check.path).map ".".intercalate := by
    rw [List.map_map]
    rfl
  rw [hfields]
  exact hdistinct.sublist (hsublist.map _)

/-! ### What becomes of a text -/

/-- **A text that is a configuration** is taken if and only if no field breaks its condition, and
otherwise refused with one violation for each field that does, under its full path, and nothing
else. -/
theorem refused_for_breaches {text : String} {c : Config} (h : read? text = some c) :
    (ofYaml text = .ok c ↔ ∀ field condition, ¬c.Breach field condition) ∧
      ((∃ field condition, c.Breach field condition) →
        ∃ vs, ofYaml text = .error (.invalid vs) ∧ (vs.map Check.field).Nodup ∧
          ∀ field condition, (∃ k ∈ vs, k.field = field ∧ k.condition = condition) ↔
            c.Breach field condition) := by
  constructor
  · rw [← violations_eq_nil_iff_breach, violations_eq_nil_iff, ofYaml_eq_ok_iff]
    exact and_iff_right h
  · rintro ⟨field, condition, hbreach⟩
    have hne : c.violations ≠ [] := fun hnil =>
      violations_eq_nil_iff_breach.1 hnil field condition hbreach
    refine ⟨c.violations, ?_, c.nodup_fields_violations, ?_⟩
    · rw [ofYaml, h]
      exact if_neg hne
    · intro field condition
      exact exists_violation_iff

/-- A configuration that breaks conditions at every depth. -/
def broken : Config where
  name := ""
  storage := .bucket { credentials := some (.token "") }
  glue := { pageSize := some 101 }

/-- A text for it. -/
def brokenText : String :=
  "name: ''\nfile-io:\n type: s3\n credentials:\n  credential_type: token\n  token: ''\n" ++
  "glue:\n page-size: 101\n"

theorem refused_for_breaches_broken :
    read? brokenText = some broken ∧
      ∃ vs, ofYaml brokenText = .error (.invalid vs) ∧ (vs.map Check.field).Nodup ∧
        (∃ k ∈ vs, k.field = "name" ∧ k.condition = .nonempty "") ∧
        (∃ k ∈ vs, k.field = "file_io.credentials.token" ∧ k.condition = .token "") ∧
        ∃ k ∈ vs, k.field = "glue.page_size" ∧ k.condition = .pageSize 101 := by
  have hread : read? brokenText = some broken := by decide +kernel
  have hname : broken.Breach "name" (.nonempty "") := .name rfl
  have htoken : broken.Breach "file_io.credentials.token" (.token "") := .token rfl rfl rfl
  have hsize : broken.Breach "glue.page_size" (.pageSize 101) := .gluePageSize rfl (by decide)
  obtain ⟨vs, hrefused, hnodup, hexact⟩ := (refused_for_breaches hread).2 ⟨_, _, hname⟩
  exact ⟨hread, vs, hrefused, hnodup, (hexact _ _).2 hname, (hexact _ _).2 htoken,
    (hexact _ _).2 hsize⟩

end Config

end LakeCatalog
