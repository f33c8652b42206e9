import AccessGrants.Proofs.Settings.Influence
import AccessGrants.Proofs.Settings.Layer
import AccessGrants.Proofs.Settings.Reading
import Mathlib.Data.List.Basic

/-!
# AccessGrants.Proofs.Settings.Production

What settings that are accepted can be relied on for, above all in production.

* `Environment.parse_eq_prod_iff`   — the spellings of production.
* `Settings.Sound`                  — the ranges of numbers.
* `Settings.AsGiven`                — no setting of the service is a default.
* `Settings.production_told`        — settings are for production, and as given, exactly if the
  variable of the environment says so; the layer has its own word for it, which is not heard.
-/

namespace AccessGrants

/-- Production is named by two words, in any case. -/
def SpellsProduction (text : String) : Prop :=
  text.toList.map Char.toLower = "prod".toList ∨ text.toList.map Char.toLower = "production".toList

theorem Environment.parse_eq_prod_iff {text : String} :
    Environment.parse text = .ok .prod ↔ SpellsProduction text := by
  have hshort : ∀ d ∈ "prod".toList, Text.isPlain d = true :=
    List.all_eq_true.mp (by decide)
  have hlong : ∀ d ∈ "production".toList, Text.isPlain d = true :=
    List.all_eq_true.mp (by decide)
  rw [SpellsProduction, ← Text.lowercase_eq_iff hshort, ← Text.lowercase_eq_iff hlong]
  unfold Environment.parse
  dsimp only
  constructor
  · intro h
    split at h
    · cases h
    · split at h
      · next hname => exact hname
      · cases h
  · intro hname
    rw [if_neg, if_pos hname]
    rcases hname with hname | hname
    · rw [hname]
      decide
    · rw [hname]
      decide

theorem Environment.parse_dev : Environment.parse "dev" = .ok .dev := by
  have hplain : ∀ d ∈ "dev".toList, Text.isPlain d = true :=
    List.all_eq_true.mp (by decide)
  have hname : Text.lowercase "dev" = "dev" := (Text.lowercase_eq_iff hplain).mpr (by decide)
  unfold Environment.parse
  rw [hname]
  exact if_pos (.inl rfl)

namespace Settings

variable {order : RowOrder} {vars : Variables} {environment : Environment} {key default : String}
  {s : Settings}

/-- The variable of the environment names production. -/
def NamesProduction (vars : Variables) : Prop :=
  ∃ text, vars.lookup "ENVIRONMENT" = some text ∧ SpellsProduction text

/-- The layer names production. It has one spelling there. -/
def LayerNamesProduction (vars : Variables) : Prop :=
  (LayeredSettings.table vars)["environment"]? = some "prod"

structure Sound (s : Settings) : Prop where
  port : 1 ≤ s.port
  pageSize : 1 ≤ s.pageSize
  defaultDuration : 0 < s.policy.defaultDuration
  maxDuration : s.policy.defaultDuration ≤ s.policy.maxDuration

/-- A variable is set to a number. -/
def Holds (vars : Variables) (key : String) (n : Int) : Prop :=
  ∃ (text : String) (m : Nat), vars.lookup key = some text ∧ Text.Unsigned text.toList m ∧
    (m : Int) = n

/-- Every setting of the service is what its variable is set to. -/
structure AsGiven (vars : Variables) (s : Settings) : Prop where
  serviceName : vars.lookup "SERVICE_NAME" = some s.serviceName
  mongoUri : vars.lookup "MONGODB_URI" = some s.mongoUri
  mongoDatabase : vars.lookup "MONGODB_DATABASE" = some s.mongoDatabase
  pageSize : Holds vars "STORE_PAGE_SIZE" s.pageSize
  registryUrl : vars.lookup "PROVIDER_REGISTRY_URL" = some s.registryUrl
  registryTimeout : Holds vars "PROVIDER_REGISTRY_TIMEOUT_SECS" s.registryTimeout
  argOptionsUrl : vars.lookup "ARG_OPTIONS_URL" = some s.argOptionsUrl
  adminGroup : vars.lookup "ADMIN_GROUP" = some s.adminGroup
  defaultDuration : Holds vars "DEFAULT_GRANT_DURATION_SECS" s.policy.defaultDuration
  maxDuration : Holds vars "MAX_GRANT_DURATION_SECS" s.policy.maxDuration

theorem checkPolicy_eq_ok_iff {policy : GrantPolicy} : checkPolicy policy = .ok () ↔
    0 < policy.defaultDuration ∧ policy.defaultDuration ≤ policy.maxDuration := by
  unfold checkPolicy GrantPolicy.validate
  by_cases hpositive : policy.defaultDuration ≤ 0 ∨ policy.maxDuration ≤ 0
  · rw [if_pos hpositive]
    refine iff_of_false (by simp) ?_
    omega
  · rw [if_neg hpositive]
    by_cases hbelow : policy.maxDuration < policy.defaultDuration
    · rw [if_pos hbelow]
      refine iff_of_false (by simp) ?_
      omega
    · rw [if_neg hbelow]
      refine iff_of_true rfl ?_
      omega

theorem sound_of_valid (h : validate s = .ok ()) : Sound s := by
  obtain ⟨hport, hsize, hpolicy⟩ := validate_eq_ok_iff.mp h
  obtain ⟨hpositive, hle⟩ := checkPolicy_eq_ok_iff.mp hpolicy
  exact ⟨Nat.pos_of_ne_zero hport, Nat.pos_of_ne_zero hsize, hpositive, hle⟩

/-! ## What is read in production -/

theorem ReadFrom.prod_iff (h : ReadFrom order vars s) :
    s.environment = .prod ↔ NamesProduction vars := by
  have hread := h.environment
  unfold NamesProduction
  cases hvar : vars.lookup "ENVIRONMENT" with
  | none =>
    rw [hvar, Option.getD_none, Environment.parse_dev] at hread
    simp [← Except.ok.inj hread]
  | some text =>
    rw [hvar, Option.getD_some] at hread
    have hprod : s.environment = .prod ↔ SpellsProduction text := by
      rw [← Environment.parse_eq_prod_iff, hread, Except.ok.injEq]
    simp [hprod]

theorem get_prod {fallback : Option String} {value : String}
    (h : get vars .prod key fallback = .ok value) : vars.lookup key = some value := by
  unfold get at h
  cases hvar : vars.lookup key with
  | none =>
    rw [hvar] at h
    cases h
  | some text =>
    rw [hvar] at h
    cases h
    rfl

theorem readNumber_eq_ok {read : String → Except Text.IntegerError α} {text : String} {a : α}
    (h : readNumber read key text = .ok a) : read text = .ok a := by
  unfold readNumber at h
  split at h
  · next hread =>
    cases h
    exact hread
  · cases h

theorem holds_of_getUnsigned {n : Nat} (h : getUnsigned vars .prod key default = .ok n) :
    Holds vars key n := by
  obtain ⟨text, hvar, h⟩ := exists_of_bind_eq_ok h
  obtain ⟨hwritten, -⟩ := Text.parseUnsigned_eq_ok_iff.mp (readNumber_eq_ok h)
  exact ⟨text, n, get_prod hvar, hwritten, rfl⟩

theorem holds_of_getSigned {n : Int} (h : getSigned vars .prod key default = .ok n)
    (hpositive : 0 < n) : Holds vars key n := by
  obtain ⟨text, hvar, h⟩ := exists_of_bind_eq_ok h
  obtain ⟨m, hwritten, hm⟩ := Text.unsigned_of_parseSigned (readNumber_eq_ok h) hpositive
  exact ⟨text, m, get_prod hvar, hwritten, hm⟩

theorem ReadFrom.asGiven (h : ReadFrom order vars s) (hprod : s.environment = .prod) :
    AsGiven vars s := by
  obtain ⟨-, -, hdefault, hmax⟩ := sound_of_valid h.valid
  obtain ⟨-, -, hserviceName, hmongoUri, hmongoDatabase, hpageSize, hregistryUrl, hregistryTimeout,
    hargOptionsUrl, hadminGroup, -, hdefaultDuration, hmaxDuration, -, -⟩ := h
  rw [hprod] at *
  exact ⟨get_prod hserviceName, get_prod hmongoUri, get_prod hmongoDatabase,
    holds_of_getUnsigned hpageSize, get_prod hregistryUrl, holds_of_getUnsigned hregistryTimeout,
    get_prod hargOptionsUrl, get_prod hadminGroup, holds_of_getSigned hdefaultDuration hdefault,
    holds_of_getSigned hmaxDuration (by omega)⟩

/-- Read on its own, the layer is for production when it names it. -/
theorem LayerNamesProduction.heard {layer : LayeredSettings} (hnames : LayerNamesProduction vars)
    (horder : ∀ rows, (order rows).Perm rows)
    (hplain : ∀ key ∈ LayeredSettings.table vars, LayeredSettings.IsPlain key)
    (h : LayeredSettings.ofVariables order vars = .ok layer) : layer.environment = .prod := by
  obtain ⟨port, -, h⟩ := exists_of_bind_eq_ok h
  obtain ⟨environment, henvironment, h⟩ := exists_of_bind_eq_ok h
  obtain ⟨logLevel, -, h⟩ := exists_of_bind_eq_ok h
  cases h
  rw [LayeredSettings.value?_table horder hplain, hnames] at henvironment
  exact (Except.ok.inj henvironment).symm

/-! ## All settings -/

/-- For all settings that are accepted: their numbers are in range, and no variable that is not read
has a say in them. They are for production if and only if the variable of the environment says so, and
then none of them is a default. So production can be relied on, whichever of the two names it, if and
only if the layer does not name it alone. -/
theorem production_told (h : ofVariables order vars = .ok s) :
    Sound s ∧
    (∀ vars', SameRead vars vars' → ofVariables order vars' = .ok s) ∧
    (s.environment = .prod ↔ NamesProduction vars) ∧
    (NamesProduction vars → AsGiven vars s) ∧
    ((NamesProduction vars ∨ LayerNamesProduction vars →
        s.environment = .prod ∧ AsGiven vars s) ↔
      (LayerNamesProduction vars → NamesProduction vars)) := by
  have hread := readFrom_of_ofVariables h
  have hgiven : NamesProduction vars → AsGiven vars s :=
    fun hnames => hread.asGiven (hread.prod_iff.mpr hnames)
  refine ⟨sound_of_valid hread.valid, fun vars' hsame => hsame.ofVariables_eq ▸ h, hread.prod_iff,
    hgiven, ?_, ?_⟩
  · intro hrelied hlayer
    exact hread.prod_iff.mp (hrelied (.inr hlayer)).1
  · rintro hheard (hnames | hlayer)
    · exact ⟨hread.prod_iff.mpr hnames, hgiven hnames⟩
    · exact ⟨hread.prod_iff.mpr (hheard hlayer), hgiven (hheard hlayer)⟩

namespace Layered

/-- Production named by the layer alone, in a set of variables that is enough for development. -/
def named : Variables :=
  [("APP__ENVIRONMENT", "prod"), ("MONGODB_URI", "mongodb://db"),
    ("PROVIDER_REGISTRY_URL", "http://reg"), ("ARG_OPTIONS_URL", "http://arg")]

def settings : Settings :=
  { port := 8080, environment := .dev, logLevel := "info", serviceName := "access-service",
    mongoUri := "mongodb://db", mongoDatabase := "access_db", pageSize := defaultPageSize,
    registryUrl := "http://reg", registryTimeout := 10, argOptionsUrl := "http://arg",
    adminGroup := "access_admins", schemaValidation := .deferred, policy := .standard,
    otlpEndpoint := none }

/-- The settings are accepted as those of a development, with administrators by default. -/
theorem production_unheard :
    ofVariables id named = .ok settings ∧ LayerNamesProduction named ∧
      settings.environment = .dev ∧ named.lookup "ADMIN_GROUP" = none ∧
      settings.adminGroup = "access_admins" := by
  have haccepted : ofVariables id named = .ok settings := by decide +kernel
  have hlayer : (LayeredSettings.table named)["environment"]? = some "prod" := by decide +kernel
  exact ⟨haccepted, hlayer, rfl, by decide, rfl⟩

end Layered

namespace Declared

/-- Production in another spelling, with every setting of the service. -/
def named : Variables :=
  [("ENVIRONMENT", "Production"), ("SERVICE_NAME", "grants"),
    ("MONGODB_URI", "mongodb://db"), ("MONGODB_DATABASE", "grants"), ("STORE_PAGE_SIZE", "+10"),
    ("PROVIDER_REGISTRY_URL", "http://reg"), ("PROVIDER_REGISTRY_TIMEOUT_SECS", "3"),
    ("ARG_OPTIONS_URL", "http://arg"), ("ADMIN_GROUP", "admins"),
    ("DEFAULT_GRANT_DURATION_SECS", "060"), ("MAX_GRANT_DURATION_SECS", "120")]

def settings : Settings :=
  { port := 8080, environment := .prod, logLevel := "info", serviceName := "grants",
    mongoUri := "mongodb://db", mongoDatabase := "grants", pageSize := 10,
    registryUrl := "http://reg", registryTimeout := 3, argOptionsUrl := "http://arg",
    adminGroup := "admins", schemaValidation := .deferred, policy := ⟨60, 120⟩,
    otlpEndpoint := none }

/-- They are as given, and one more variable that nobody reads changes nothing. -/
theorem production_as_given :
    ofVariables id named = .ok settings ∧ NamesProduction named ∧
      AsGiven named settings ∧ ofVariables id (("HOME", "/root") :: named) = .ok settings := by
  have hlayer : LayeredSettings.table named = ∅ := by
    rw [← table_filter]
    decide +kernel
  have haccepted : ofVariables id named = .ok settings := by
    rw [ofVariables, LayeredSettings.ofVariables, hlayer]
    decide +kernel
  have hvar : named.lookup "ENVIRONMENT" = some "Production" := by decide
  have hnames : NamesProduction named := ⟨"Production", hvar, .inr (by decide)⟩
  have hsame : SameRead named (("HOME", "/root") :: named) := ⟨by decide, by decide⟩
  obtain ⟨-, hunread, -, hgiven, -⟩ := production_told haccepted
  exact ⟨haccepted, hnames, hgiven hnames, hunread _ hsame⟩

end Declared

end Settings

end AccessGrants
