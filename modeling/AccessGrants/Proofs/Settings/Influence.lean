import AccessGrants.Proofs.Text.Lowercase
import AccessGrants.Settings
import Mathlib.Data.List.Basic

/-!
# AccessGrants.Proofs.Settings.Influence

The variables that settings can depend on: those of the layer, and those that the service reads
itself.

* `Settings.SameRead`                — variables that are alike in these.
* `Settings.SameRead.ofVariables_eq` — settings, or the error, are the same then.
-/

namespace AccessGrants

namespace Settings

variable {order : RowOrder} {vars vars' : Variables} {environment : Environment} {key : String}

/-- Whether a variable belongs to the layer: its name starts with `APP__`, in any case. -/
def isLayered (name : String) : Bool :=
  LayeredSettings.layerName.toList.isPrefixOf (name.toList.map Char.toLower)

/-- The variables that the service reads itself. -/
def ownNames : List String :=
  ["ENVIRONMENT", "SERVICE_NAME", "MONGODB_URI", "MONGODB_DATABASE", "STORE_PAGE_SIZE",
    "PROVIDER_REGISTRY_URL", "PROVIDER_REGISTRY_TIMEOUT_SECS", "ARG_OPTIONS_URL", "ADMIN_GROUP",
    "LINK_SCHEMA_VALIDATION", "DEFAULT_GRANT_DURATION_SECS", "MAX_GRANT_DURATION_SECS",
    "OTLP_ENDPOINT"]

/-- Whatever other variables are set, changed, moved or left out. -/
structure SameRead (vars vars' : Variables) : Prop where
  layered : (vars.filter fun v => isLayered v.1) = vars'.filter fun v => isLayered v.1
  own : ∀ name ∈ ownNames, vars.lookup name = vars'.lookup name

/-! ## The layer -/

/-- A name that is compared in lower case is of the layer however it is written. -/
theorem isLayered_of_key? {name key : String} (h : LayeredSettings.key? name = some key) :
    isLayered name = true := by
  unfold LayeredSettings.key? at h
  dsimp only at h
  split at h
  · next hprefix =>
    have hplain : ∀ d ∈ LayeredSettings.layerName.toList, Text.isPlain d = true :=
      List.all_eq_true.mp (by decide)
    have hlower := List.isPrefixOf_iff_prefix.mp hprefix
    rw [Text.lowercase, String.toList_ofList] at hlower
    exact List.isPrefixOf_iff_prefix.mpr (Text.prefix_of_lowercaseFrom hplain (by decide) hlower)
  · cases h

theorem table_filter (vars : Variables) :
    LayeredSettings.table (vars.filter fun v => isLayered v.1) = LayeredSettings.table vars := by
  rw [LayeredSettings.table, LayeredSettings.table, List.filterMap_filter]
  refine congrArg Parameters.ofPairs (List.filterMap_congr fun (name, text) _ => ?_)
  cases hkey : LayeredSettings.key? name with
  | none => simp [hkey]
  | some key => simp [hkey, isLayered_of_key? hkey]

theorem SameRead.table_eq (h : SameRead vars vars') :
    LayeredSettings.table vars = LayeredSettings.table vars' := by
  rw [← table_filter vars, h.layered, table_filter]

/-! ## The settings -/

theorem SameRead.get_eq (h : SameRead vars vars') (hkey : key ∈ ownNames)
    (default : Option String) :
    get vars environment key default = get vars' environment key default := by
  unfold get
  rw [h.own key hkey]

/-- No other variable has a say, neither in the settings nor in an error. -/
theorem SameRead.ofVariables_eq (h : SameRead vars vars') :
    ofVariables order vars = ofVariables order vars' := by
  have htable := h.table_eq
  have hown := h.own
  simp (disch := decide) only [ofVariables, LayeredSettings.ofVariables, htable, getUnsigned,
    getSigned, h.get_eq, hown]

end Settings

end AccessGrants
