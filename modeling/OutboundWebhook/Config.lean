import OutboundWebhook.Platform
import Mathlib.Data.List.Dedup
import Mathlib.Data.List.Infix

/-!
# Instance configuration

One plugin instance runs under one immutable configuration. `validate` is the gate it passes
before anything else happens, so every bound the other modules rely on — attempts, lease, retry
delays, queue name — is read off a successful validation (`ValidConfig`).

`activate` derives what the calls need from a validated configuration and the resolved signing
secret.
-/

namespace OutboundWebhook

def maxReferenceBytes : ℕ := 256

def maxPayloadBytes : ℕ := 1024 * 1024

/-- Immutable policy and resource references of one instance. -/
structure OutboundWebhookConfig where
  schema : String
  databaseUrlSecret : String
  signingSecret : String
  endpointUrl : String
  queueName : String
  maxAttempts : ℤ
  maxPayloadBytes : ℕ
  leaseSeconds : ℤ
  retryBaseSeconds : ℤ
  retryMaxSeconds : ℤ
  producerInstances : List String
  adminInstances : List String

/-! ### Names and references -/

/-- `b'.' | b'_' | b'-' | b':'` -/
def isNamePunctuation (b : UInt8) : Bool := b == 0x2e || b == 0x5f || b == 0x2d || b == 0x3a

def validName (value : String) : Bool :=
  !(asBytes value).isEmpty && (asBytes value).length ≤ maxReferenceBytes
    && (asBytes value).all fun b => isAsciiAlphanumeric b || isNamePunctuation b

def validSecretReference (value : String) : Bool :=
  !(asBytes value).isEmpty && (asBytes value).length ≤ maxReferenceBytes
    && value.toList.head? != some '/'
    && value.toList.getLast? != some '/'
    && !decide (['/', '/'] <:+: value.toList)
    && (value.toList.splitOn '/').all (fun segment => segment != ['.'] && segment != ['.', '.'])
    && (asBytes value).all fun b =>
      isAsciiAlphanumeric b || b == 0x2e || b == 0x5f || b == 0x2d || b == 0x2f

/-! ### Validation -/

variable (P : Platform)

def fixedEndpoint (value : String) : Except String Url :=
  match P.parseUrl value with
  | none => .error "endpoint_url is invalid"
  | some endpoint =>
    if !(endpoint.scheme == "http" || endpoint.scheme == "https")
        || endpoint.hostStr.isNone
        || endpoint.username != ""
        || endpoint.password.isSome
        || endpoint.query.isSome
        || endpoint.fragment.isSome then
      .error "endpoint_url must be one fixed HTTP(S) URL without credentials, query, or fragment"
    else .ok endpoint

def validateCallers (values : List String) (role : String) : Except String Unit :=
  if values.isEmpty || values.any (fun value => !validName value) then
    .error ("at least one valid " ++ role ++ " caller is required")
  else if values.dedup.length ≠ values.length then
    .error (role ++ " caller list contains duplicates")
  else .ok ()

def OutboundWebhookConfig.validate (c : OutboundWebhookConfig) : Except String Unit :=
  match P.schemaPlan c.schema with
  | .error error => .error ("invalid owned PostgreSQL schema: " ++ error)
  | .ok () =>
    if !validSecretReference c.databaseUrlSecret || !validSecretReference c.signingSecret
        || c.databaseUrlSecret == c.signingSecret then
      .error "database and signing secret references must be valid and distinct"
    else match fixedEndpoint P c.endpointUrl with
    | .error error => .error error
    | .ok _ =>
      if !validName c.queueName then
        .error "queue_name is invalid"
      else if !(1 ≤ c.maxAttempts && c.maxAttempts ≤ 100) then
        .error "max_attempts must be between 1 and 100"
      else if !(1 ≤ c.maxPayloadBytes && c.maxPayloadBytes ≤ OutboundWebhook.maxPayloadBytes) then
        .error ("max_payload_bytes must be between 1 and "
          ++ toString OutboundWebhook.maxPayloadBytes)
      else if !(1 ≤ c.leaseSeconds && c.leaseSeconds ≤ 3600) then
        .error "lease_seconds must be between 1 and 3600"
      else if !(1 ≤ c.retryBaseSeconds && c.retryBaseSeconds ≤ 86400)
          || !(c.retryBaseSeconds ≤ c.retryMaxSeconds && c.retryMaxSeconds ≤ 86400) then
        .error "retry delays must satisfy 1 <= retry_base_seconds <= retry_max_seconds <= 86400"
      else match validateCallers c.producerInstances "producer" with
      | .error error => .error error
      | .ok () => validateCallers c.adminInstances "admin"

/-- What the rest of the plugin may rely on. -/
structure ValidConfig (c : OutboundWebhookConfig) : Prop where
  endpoint : ∃ endpoint, fixedEndpoint P c.endpointUrl = .ok endpoint
  maxAttempts : 1 ≤ c.maxAttempts ∧ c.maxAttempts ≤ 100
  leaseSeconds : 1 ≤ c.leaseSeconds ∧ c.leaseSeconds ≤ 3600
  retryBaseSeconds : 1 ≤ c.retryBaseSeconds
  retryMaxSeconds : c.retryBaseSeconds ≤ c.retryMaxSeconds ∧ c.retryMaxSeconds ≤ 86400

theorem OutboundWebhookConfig.validConfig_of_validate {c : OutboundWebhookConfig}
    (h : c.validate P = .ok ()) : ValidConfig P c := by
  unfold OutboundWebhookConfig.validate at h
  split at h
  · contradiction
  split at h
  · contradiction
  split at h
  · contradiction
  rename_i endpoint hendpoint
  split at h
  · contradiction
  split at h
  · contradiction
  rename_i hattempts
  split at h
  · contradiction
  split at h
  · contradiction
  rename_i hlease
  split at h
  · contradiction
  rename_i hretry
  simp only [Bool.not_eq_true', Bool.not_eq_false, Bool.or_eq_true, Bool.and_eq_true,
    decide_eq_true_eq, not_or] at hattempts hlease hretry
  exact ⟨⟨endpoint, hendpoint⟩, hattempts, hlease, hretry.1.1, hretry.2⟩

end OutboundWebhook
