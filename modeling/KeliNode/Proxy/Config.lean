import KeliNode.Panel.Types

/-!
# The subscription proxy's configuration (`config.rs`, `subscription_proxy.rs`)

The proxy serves subscriptions (`/sub/<site>/<token>`) and whole websites under a path prefix, both from
upstreams that its profiles name.  A configuration is normalised before anything reads it.

| here | there |
|---|---|
| `SubscriptionProxyConfig` | `config.rs:104` |
| `SubscriptionProxyProfile`, `WebsiteProxyProfile` | `config.rs:156`, `config.rs:166` |
| `normalizeSubscriptionProxyConfig` | `subscription_proxy.rs:476` |
| `isValidUpstreamBaseUrl` | `subscription_proxy.rs:2088` |

The two loops over profiles differ in what they trim and in their key, so they are one loop
(`keepProfiles`) at two sets of values.
-/

namespace KeliNode

open Lib

/-! ## Data -/

structure SubscriptionProxyZeroSslConfig where
  status : Text := []
  certificateId : Text := []
  validationPath : Text := []
  validationContent : Text := []
  certificatePem : Text := []
  caBundlePem : Text := []
  expiresAt : Text := []
  deriving DecidableEq

structure SubscriptionProxyProfile where
  siteId : Text := []
  upstreamBaseUrl : Text := []
  subscribePath : Text := []
  deriving DecidableEq

structure WebsiteProxyProfile where
  siteId : Text := []
  upstreamBaseUrl : Text := []
  pathPrefix : Text := []
  deriving DecidableEq

structure SubscriptionProxyConfig where
  enabled : Bool := false
  httpsListen : Text := []
  httpListen : Text := []
  certFile : Text := []
  keyFile : Text := []
  certificateDomain : Text := []
  challengeDir : Text := []
  zerossl : SubscriptionProxyZeroSslConfig := {}
  siteId : Text := []
  upstreamBaseUrl : Text := []
  subscribePath : Text := []
  allowHttpFallback : Bool := false
  maxResponseBytes : Nat := 0
  profiles : List SubscriptionProxyProfile := []
  websiteProfiles : List WebsiteProxyProfile := []
  deriving DecidableEq

/-- Nothing to serve: the test at the head of `plan_subscription_proxy_apply`. -/
def SubscriptionProxyConfig.isIdle (config : SubscriptionProxyConfig) : Bool :=
  !config.enabled || (config.profiles.isEmpty && config.websiteProfiles.isEmpty)

/-- `DEFAULT_HTTPS_LISTEN` (`subscription_proxy.rs:14`). -/
def defaultHttpsListen : Text := "0.0.0.0:443"

/-- `DEFAULT_CHALLENGE_DIR` (`subscription_proxy.rs:15`). -/
def defaultChallengeDir : Text := "/etc/kelinode/subproxy/challenges"

/-- `DEFAULT_MAX_RESPONSE_BYTES` (`subscription_proxy.rs:16`). -/
def defaultMaxResponseBytes : Nat := 10 * 1024 * 1024

/-! ## Trimming -/

/-- `trim_subscription_path` (`subscription_proxy.rs:2027`). -/
def trimSubscriptionPath (value : Text) : Text := trimMatches (· = '/') (trim value)

/-- `trim_trailing_slashes` (`subscription_proxy.rs:2031`). -/
def trimTrailingSlashes (value : Text) : Text := trimEndMatches (· = '/') value

/-- `normalize_proxy_path_prefix` (`subscription_proxy.rs:2035`). -/
def normalizeProxyPathPrefix (value : Text) : Text :=
  let value := trimEndMatches (· = '/') (trim value)
  if value.isEmpty || value = "/" then "/"
  else if value.head? = some '/' then value
  else '/' :: value

/-- `is_valid_upstream_base_url` (`subscription_proxy.rs:2088`). -/
def isValidUpstreamBaseUrl (value : Text) : Bool :=
  match (Json.stripPrefix "https://" value).or (Json.stripPrefix "http://" value) with
  | none => false
  | some afterScheme => !(trim (afterScheme.takeWhile (· ≠ '/'))).isEmpty

/-! ## Normalisation -/

section

variable {α : Type} (prepare : α → α) (isBlank : α → Bool) (refusal : α → Option Text) (key : α → Text)

/-- A loop of `normalize_subscription_proxy_config`: a blank entry is passed over, an entry with a bad upstream
is an error, and of the entries with one key the first is kept. -/
def keepProfiles (seen : List Text) : List α → Except Text (List α)
  | [] => .ok []
  | profile :: rest =>
    let profile := prepare profile
    if isBlank profile then keepProfiles seen rest
    else match refusal profile with
      | some error => .error error
      | none =>
        if seen.contains (key profile) then keepProfiles seen rest
        else (keepProfiles (key profile :: seen) rest).map (profile :: ·)

end

def SubscriptionProxyProfile.prepare (profile : SubscriptionProxyProfile) : SubscriptionProxyProfile where
  siteId := trim profile.siteId
  upstreamBaseUrl := trimTrailingSlashes (trim profile.upstreamBaseUrl)
  subscribePath := firstNonEmpty (trimSubscriptionPath profile.subscribePath) "s"

def SubscriptionProxyProfile.isBlank (profile : SubscriptionProxyProfile) : Bool :=
  profile.siteId.isEmpty || profile.upstreamBaseUrl.isEmpty

def SubscriptionProxyProfile.refusal (profile : SubscriptionProxyProfile) : Option Text :=
  if isValidUpstreamBaseUrl profile.upstreamBaseUrl then none
  else some ("invalid subscription proxy upstream for site " ++ profile.siteId)

def SubscriptionProxyProfile.key (profile : SubscriptionProxyProfile) : Text := asciiLower profile.siteId

def WebsiteProxyProfile.prepare (profile : WebsiteProxyProfile) : WebsiteProxyProfile where
  siteId := trim profile.siteId
  upstreamBaseUrl := trimTrailingSlashes (trim profile.upstreamBaseUrl)
  pathPrefix := normalizeProxyPathPrefix profile.pathPrefix

def WebsiteProxyProfile.isBlank (profile : WebsiteProxyProfile) : Bool :=
  profile.siteId.isEmpty || profile.upstreamBaseUrl.isEmpty

def WebsiteProxyProfile.refusal (profile : WebsiteProxyProfile) : Option Text :=
  if isValidUpstreamBaseUrl profile.upstreamBaseUrl then none
  else some ("invalid website proxy upstream for site " ++ profile.siteId)

/-- The site and the prefix, with a NUL between them. -/
def WebsiteProxyProfile.key (profile : WebsiteProxyProfile) : Text :=
  asciiLower profile.siteId ++ '\x00' :: profile.pathPrefix

def normalizeProfiles (profiles : List SubscriptionProxyProfile) : Except Text (List SubscriptionProxyProfile) :=
  keepProfiles SubscriptionProxyProfile.prepare SubscriptionProxyProfile.isBlank SubscriptionProxyProfile.refusal
    SubscriptionProxyProfile.key [] profiles

def normalizeWebsiteProfiles (profiles : List WebsiteProxyProfile) : Except Text (List WebsiteProxyProfile) :=
  keepProfiles WebsiteProxyProfile.prepare WebsiteProxyProfile.isBlank WebsiteProxyProfile.refusal
    WebsiteProxyProfile.key [] profiles

/-- The single site of the older configuration form, as a profile after the listed ones. -/
def legacyProfile (config : SubscriptionProxyConfig) : List SubscriptionProxyProfile :=
  if !config.siteId.isEmpty || !config.upstreamBaseUrl.isEmpty then
    [{ siteId := config.siteId, upstreamBaseUrl := config.upstreamBaseUrl, subscribePath := config.subscribePath }]
  else []

/-- The trimming and the defaults at the head of `normalize_subscription_proxy_config`. -/
def trimSubscriptionProxyConfig (source : SubscriptionProxyConfig) : SubscriptionProxyConfig :=
  { source with
    httpsListen := firstNonEmpty (trim source.httpsListen) defaultHttpsListen
    httpListen := trim source.httpListen
    certFile := trim source.certFile
    keyFile := trim source.keyFile
    certificateDomain := trim source.certificateDomain
    challengeDir := firstNonEmpty (trim source.challengeDir) defaultChallengeDir
    siteId := trim source.siteId
    upstreamBaseUrl := trimTrailingSlashes (trim source.upstreamBaseUrl)
    subscribePath := trimSubscriptionPath source.subscribePath
    maxResponseBytes := if source.maxResponseBytes = 0 then defaultMaxResponseBytes else source.maxResponseBytes }

/-- `normalize_subscription_proxy_config` (`subscription_proxy.rs:476`). -/
def normalizeSubscriptionProxyConfig (source : SubscriptionProxyConfig) : Except Text SubscriptionProxyConfig := do
  let config := trimSubscriptionProxyConfig source
  let profiles ← normalizeProfiles (config.profiles ++ legacyProfile config)
  let websiteProfiles ← normalizeWebsiteProfiles config.websiteProfiles
  let enabled := config.enabled || !profiles.isEmpty || !websiteProfiles.isEmpty
  if enabled && profiles.isEmpty && websiteProfiles.isEmpty then
    .error "subscription proxy enabled without profiles"
  else .ok { config with profiles, websiteProfiles, enabled }

end KeliNode
