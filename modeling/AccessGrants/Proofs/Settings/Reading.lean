import AccessGrants.Proofs.Document.Yield
import AccessGrants.Proofs.Text.Integer
import AccessGrants.Settings

/-!
# AccessGrants.Proofs.Settings.Reading

What settings say of the variables that they were read from.

* `Settings.ReadFrom`     — where every setting comes from, and what was checked at the end.
* `readFrom_of_ofVariables` — settings that are accepted were read in this way.
* `pageSize_of_ofVariables` — their page size is positive and fits a word.
-/

namespace AccessGrants

namespace Settings

variable {order : RowOrder} {vars : Variables} {environment : Environment} {key default : String}
  {s : Settings}

/-- Where the settings come from. Only the environment and the layered settings are read apart from
whether the environment is production. -/
structure ReadFrom (order : RowOrder) (vars : Variables) (s : Settings) : Prop where
  layered : ∃ layer, LayeredSettings.ofVariables order vars = .ok ⟨s.port, layer, s.logLevel⟩
  environment : Environment.parse ((vars.lookup "ENVIRONMENT").getD "dev") = .ok s.environment
  serviceName : get vars s.environment "SERVICE_NAME" (some "access-service") = .ok s.serviceName
  mongoUri : get vars s.environment "MONGODB_URI" none = .ok s.mongoUri
  mongoDatabase :
    get vars s.environment "MONGODB_DATABASE" (some "access_db") = .ok s.mongoDatabase
  pageSize :
    getUnsigned vars s.environment "STORE_PAGE_SIZE" (Nat.repr defaultPageSize) = .ok s.pageSize
  registryUrl : get vars s.environment "PROVIDER_REGISTRY_URL" none = .ok s.registryUrl
  registryTimeout :
    getUnsigned vars s.environment "PROVIDER_REGISTRY_TIMEOUT_SECS" "10" = .ok s.registryTimeout
  argOptionsUrl : get vars s.environment "ARG_OPTIONS_URL" none = .ok s.argOptionsUrl
  adminGroup : get vars s.environment "ADMIN_GROUP" (some "access_admins") = .ok s.adminGroup
  schemaValidation :
    SchemaValidation.parse ((vars.lookup "LINK_SCHEMA_VALIDATION").getD "deferred") =
      .ok s.schemaValidation
  defaultDuration :
    getSigned vars s.environment "DEFAULT_GRANT_DURATION_SECS" "3600" = .ok s.policy.defaultDuration
  maxDuration :
    getSigned vars s.environment "MAX_GRANT_DURATION_SECS" "86400" = .ok s.policy.maxDuration
  otlpEndpoint : s.otlpEndpoint = (vars.lookup "OTLP_ENDPOINT").filter (· ≠ "")
  valid : validate s = .ok ()

theorem readFrom_of_ofVariables (h : ofVariables order vars = .ok s) : ReadFrom order vars s := by
  obtain ⟨layered, hlayered, h⟩ := exists_of_bind_eq_ok h
  obtain ⟨environment, henvironment, h⟩ := exists_of_bind_eq_ok h
  obtain ⟨serviceName, hserviceName, h⟩ := exists_of_bind_eq_ok h
  obtain ⟨mongoUri, hmongoUri, h⟩ := exists_of_bind_eq_ok h
  obtain ⟨mongoDatabase, hmongoDatabase, h⟩ := exists_of_bind_eq_ok h
  obtain ⟨pageSize, hpageSize, h⟩ := exists_of_bind_eq_ok h
  obtain ⟨registryUrl, hregistryUrl, h⟩ := exists_of_bind_eq_ok h
  obtain ⟨registryTimeout, hregistryTimeout, h⟩ := exists_of_bind_eq_ok h
  obtain ⟨argOptionsUrl, hargOptionsUrl, h⟩ := exists_of_bind_eq_ok h
  obtain ⟨adminGroup, hadminGroup, h⟩ := exists_of_bind_eq_ok h
  obtain ⟨schemaValidation, hschemaValidation, h⟩ := exists_of_bind_eq_ok h
  obtain ⟨defaultDuration, hdefaultDuration, h⟩ := exists_of_bind_eq_ok h
  obtain ⟨maxDuration, hmaxDuration, h⟩ := exists_of_bind_eq_ok h
  obtain ⟨_, hvalid, h⟩ := exists_of_bind_eq_ok h
  cases h
  exact ⟨⟨layered.environment, hlayered⟩, henvironment, hserviceName, hmongoUri, hmongoDatabase,
    hpageSize, hregistryUrl, hregistryTimeout, hargOptionsUrl, hadminGroup, hschemaValidation,
    hdefaultDuration, hmaxDuration, rfl, hvalid⟩

theorem le_of_getUnsigned {n : Nat} (h : getUnsigned vars environment key default = .ok n) :
    n ≤ Word.greatest := by
  obtain ⟨text, -, h⟩ := exists_of_bind_eq_ok h
  unfold readNumber at h
  split at h
  · next hread =>
    cases h
    exact Text.parseUnsigned_le hread
  · cases h

theorem validate_eq_ok_iff :
    validate s = .ok () ↔ s.port ≠ 0 ∧ s.pageSize ≠ 0 ∧ checkPolicy s.policy = .ok () := by
  unfold validate
  by_cases hport : s.port = 0
  · simp [hport]
  · by_cases hsize : s.pageSize = 0
    · simp [hport, hsize]
    · simp [hport, hsize]

theorem pageSize_of_ofVariables (h : ofVariables order vars = .ok s) :
    0 < s.pageSize ∧ s.pageSize ≤ Word.greatest := by
  have hread := readFrom_of_ofVariables h
  obtain ⟨-, hsize, -⟩ := validate_eq_ok_iff.mp hread.valid
  exact ⟨Nat.pos_of_ne_zero hsize, le_of_getUnsigned hread.pageSize⟩

end Settings

end AccessGrants
