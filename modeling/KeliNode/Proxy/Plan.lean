import KeliNode.Proxy.Route
import Mathlib.Data.List.Sort

/-!
# Planning the proxy's servers (`subscription_proxy.rs`)

What a configuration asks for: the main server and the challenge server, the validation and certificate files to
write, and the status to report.  A configuration whose fingerprint is the stored one asks for no work.

| here | there |
|---|---|
| `planSubscriptionProxyHttpServer`, `planSubscriptionProxyMainServer` | `subscription_proxy.rs:762`, `subscription_proxy.rs:775` |
| `prepareSubscriptionProxyCertificateStatus` | `subscription_proxy.rs:1138` |
| `planSubscriptionProxyServeMode` | `subscription_proxy.rs:1209` |
| `planSubscriptionProxyValidationFile`, `planSubscriptionProxyCertificateFile` | `subscription_proxy.rs:1229`, `subscription_proxy.rs:1249` |
| `planSubscriptionProxyApply` | `subscription_proxy.rs:1358` |
| `subscriptionProxyFingerprint` | `subscription_proxy.rs:1450` |
-/

namespace KeliNode

open Lib

/-! ## Data -/

structure SubscriptionProxyFileWrite where
  path : Text
  content : Text
  mode : Nat
  deriving DecidableEq

structure SubscriptionProxyStatus where
  status : Text := []
  enabled : Bool := false
  running : Bool := false
  mode : Text := []
  httpsListen : Text := []
  profiles : Nat := 0
  websiteProfiles : Nat := 0
  certificateDomain : Text := []
  certificateOwnerSiteId : Text := []
  certificateId : Text := []
  needCertificate : Bool := false
  csrPem : Text := []
  validationReady : Bool := false
  certNotAfter : Text := []
  lastError : Text := []
  deriving DecidableEq

inductive SubscriptionProxyServeMode where
  | https
  | httpFallback
  deriving DecidableEq, Repr

inductive SubscriptionProxyApplyAction where
  | disabled
  | unchanged
  | start
  | error
  deriving DecidableEq, Repr

structure SubscriptionProxyApplyPlan where
  action : SubscriptionProxyApplyAction
  fingerprint : Text
  status : SubscriptionProxyStatus
  serveMode : Option SubscriptionProxyServeMode
  profiles : List SubscriptionProxyProfile
  websiteProfiles : List WebsiteProxyProfile
  deriving DecidableEq

structure SubscriptionProxyHttpServerPlan where
  listen : Text
  challengeDir : Text
  deriving DecidableEq

structure SubscriptionProxyMainServerPlan where
  listen : Text
  mode : SubscriptionProxyServeMode
  certFile : Text
  keyFile : Text
  maxResponseBytes : Nat
  profiles : List SubscriptionProxyProfile
  websiteProfiles : List WebsiteProxyProfile
  deriving DecidableEq

/-! ## Servers -/

/-- `plan_subscription_proxy_http_server` (`subscription_proxy.rs:762`). -/
def planSubscriptionProxyHttpServer (config : SubscriptionProxyConfig) : Option SubscriptionProxyHttpServerPlan :=
  let listen := trim config.httpListen
  if listen.isEmpty then none
  else some { listen, challengeDir := firstNonEmpty (trim config.challengeDir) defaultChallengeDir }

/-- `plan_subscription_proxy_main_server` (`subscription_proxy.rs:775`). -/
def planSubscriptionProxyMainServer (config : SubscriptionProxyConfig) (mode : SubscriptionProxyServeMode) :
    SubscriptionProxyMainServerPlan where
  listen := firstNonEmpty (trim config.httpsListen) defaultHttpsListen
  mode := mode
  certFile := trim config.certFile
  keyFile := trim config.keyFile
  maxResponseBytes := if config.maxResponseBytes = 0 then defaultMaxResponseBytes else config.maxResponseBytes
  profiles := config.profiles
  websiteProfiles := config.websiteProfiles

/-- `plan_subscription_proxy_serve_mode` (`subscription_proxy.rs:1209`). -/
def planSubscriptionProxyServeMode (config : SubscriptionProxyConfig) (fileReadable : Text → Bool) :
    Except Text SubscriptionProxyServeMode :=
  let certFile := trim config.certFile
  let keyFile := trim config.keyFile
  if fileReadable certFile && fileReadable keyFile then .ok .https
  else if config.allowHttpFallback then .ok .httpFallback
  else .error ("subscription proxy certificate files are not readable: cert=" ++ certFile ++ " key=" ++ keyFile)

/-! ## Files -/

/-- `validation_file_name` (`subscription_proxy.rs:2055`). -/
def validationFileName (path : Text) : Option Text :=
  let cleaned := trimEndMatches (· = '/') (trim path)
  let name := trim (cleaned.reverse.takeWhile (· ≠ '/')).reverse
  if name.isEmpty || name = "." || name = ".." || name.contains '\\' then none else some name

/-- `validation_content_string` (`subscription_proxy.rs:2072`). -/
def validationContentString (content : Text) : Text := trim content ++ "\n"

/-- `plan_subscription_proxy_validation_file` (`subscription_proxy.rs:1229`). -/
def planSubscriptionProxyValidationFile (config : SubscriptionProxyConfig) :
    Except Text (Option SubscriptionProxyFileWrite) :=
  let validationPath := trim config.zerossl.validationPath
  let validationContent := trim config.zerossl.validationContent
  if validationPath.isEmpty || validationContent.isEmpty then .ok none
  else match validationFileName validationPath with
    | none => .error ("invalid validation path: " ++ validationPath)
    | some fileName =>
      .ok (some
        { path := joinPosixPath (firstNonEmpty (trim config.challengeDir) defaultChallengeDir) fileName
          content := validationContentString validationContent
          mode := 0o644 })

/-- `plan_subscription_proxy_certificate_file` (`subscription_proxy.rs:1249`). -/
def planSubscriptionProxyCertificateFile (config : SubscriptionProxyConfig) :
    Except Text (Option SubscriptionProxyFileWrite) :=
  let certificate := trim config.zerossl.certificatePem
  if certificate.isEmpty then .ok none
  else
    let certFile := trim config.certFile
    if certFile.isEmpty then .error "subscription proxy cert file is empty"
    else
      let caBundle := trim config.zerossl.caBundlePem
      let fullchain := if caBundle.isEmpty then certificate else certificate ++ "\n" ++ caBundle
      .ok (some { path := certFile, content := fullchain ++ "\n", mode := 0o644 })

/-! ## Status -/

/-- `subscription_proxy_cert_not_after` (`subscription_proxy.rs:1510`). -/
def subscriptionProxyCertNotAfter (certFile expiresAt : Text) (certificateNotAfter : Text → Text) : Text :=
  firstNonEmpty (trim (certificateNotAfter certFile)) (trim expiresAt)

/-- Write a planned file; an error of the plan or of the write goes to `last_error`. -/
def writePlanned (plan : Except Text (Option SubscriptionProxyFileWrite))
    (writeFile : SubscriptionProxyFileWrite → Except Text Unit)
    (written : SubscriptionProxyStatus → SubscriptionProxyStatus) (status : SubscriptionProxyStatus) :
    SubscriptionProxyStatus :=
  match plan with
  | .error error => { status with lastError := error }
  | .ok none => status
  | .ok (some write) =>
    match writeFile write with
    | .ok () => written status
    | .error error => { status with lastError := error }

/-- `prepare_subscription_proxy_certificate_status_with_file_writes` (`subscription_proxy.rs:1138`). -/
def prepareSubscriptionProxyCertificateStatus (config : SubscriptionProxyConfig) (certificateNotAfter : Text → Text)
    (ensureCsr : Text → Text → Except Text Text) (fileReadable : Text → Bool)
    (writeFile : SubscriptionProxyFileWrite → Except Text Unit) : SubscriptionProxyStatus :=
  let certFile := trim config.certFile
  let keyFile := trim config.keyFile
  let certificateDomain := trim config.certificateDomain
  let certNotAfter := subscriptionProxyCertNotAfter certFile config.zerossl.expiresAt certificateNotAfter
  let status : SubscriptionProxyStatus :=
    { certificateDomain, certificateId := trim config.zerossl.certificateId, certNotAfter }
  let status := writePlanned (planSubscriptionProxyValidationFile config) writeFile
    (fun status => { status with validationReady := true }) status
  let status := writePlanned (planSubscriptionProxyCertificateFile config) writeFile
    (fun status => { status with certNotAfter }) status
  if certificateDomain.isEmpty then status
  else match ensureCsr keyFile certificateDomain with
    | .error error => { status with lastError := error }
    | .ok csrPem =>
      let status := { status with csrPem }
      if !fileReadable certFile || !fileReadable keyFile then { status with needCertificate := true } else status

/-- `merge_subscription_proxy_status` (`subscription_proxy.rs:1487`). -/
def mergeSubscriptionProxyStatus (target source : SubscriptionProxyStatus) : SubscriptionProxyStatus :=
  { target with
    certificateDomain := firstNonEmpty source.certificateDomain target.certificateDomain
    certificateOwnerSiteId := firstNonEmpty source.certificateOwnerSiteId target.certificateOwnerSiteId
    certificateId := firstNonEmpty source.certificateId target.certificateId
    needCertificate := source.needCertificate
    csrPem := source.csrPem
    validationReady := source.validationReady
    certNotAfter := firstNonEmpty source.certNotAfter target.certNotAfter
    lastError := firstNonEmpty source.lastError target.lastError }

/-- `subscription_proxy_certificate_owner_site_id` (`subscription_proxy.rs:1080`). -/
def subscriptionProxyCertificateOwnerSiteId (profiles : List SubscriptionProxyProfile) : Text :=
  ((profiles.map fun profile => trim profile.siteId).find? fun siteId => !siteId.isEmpty).getD []

/-! ## The apply plan -/

/-- The parts of `subscription_proxy_fingerprint` for one list of profiles, behind its sort. -/
def profileParts (profiles : List SubscriptionProxyProfile) : List Text :=
  profiles.flatMap fun profile =>
    [trim profile.siteId, trimTrailingSlashes profile.upstreamBaseUrl, trimMatches (· = '/') profile.subscribePath]

def websiteParts (profiles : List WebsiteProxyProfile) : List Text :=
  profiles.flatMap fun profile =>
    [trim profile.siteId, trimTrailingSlashes profile.upstreamBaseUrl, normalizeProxyPathPrefix profile.pathPrefix]

def sortedProfiles (profiles : List SubscriptionProxyProfile) : List SubscriptionProxyProfile :=
  profiles.insertionSort fun left right => (compare left.siteId right.siteId).isLE = true

def sortedWebsiteProfiles (profiles : List WebsiteProxyProfile) : List WebsiteProxyProfile :=
  profiles.insertionSort fun left right =>
    ((compare left.pathPrefix right.pathPrefix).then (compare left.siteId right.siteId)).isLE = true

def fixedParts (config : SubscriptionProxyConfig) : List Text :=
  [ trim config.httpsListen, trim config.httpListen, trim config.certFile, trim config.keyFile,
    trim config.certificateDomain, trim config.challengeDir, trim config.zerossl.certificateId,
    trim config.zerossl.validationPath, trim config.zerossl.validationContent, trim config.zerossl.certificatePem,
    trim config.zerossl.caBundlePem, if config.allowHttpFallback then "true" else "false",
    decimal config.maxResponseBytes ]

/-- `subscription_proxy_fingerprint` (`subscription_proxy.rs:1450`). -/
def subscriptionProxyFingerprint (config : SubscriptionProxyConfig) : Text :=
  join ['\x00'] (fixedParts config ++ profileParts (sortedProfiles config.profiles) ++
    websiteParts (sortedWebsiteProfiles config.websiteProfiles))

def SubscriptionProxyServeMode.name : SubscriptionProxyServeMode → Text
  | .https => "https"
  | .httpFallback => "http"

/-- `plan_subscription_proxy_apply` (`subscription_proxy.rs:1358`). -/
def planSubscriptionProxyApply (config : SubscriptionProxyConfig) (currentFingerprint : Text)
    (certificateStatus : SubscriptionProxyStatus) (fileReadable : Text → Bool) : SubscriptionProxyApplyPlan :=
  if config.isIdle then
    { action := .disabled
      fingerprint := []
      status := { status := "disabled", mode := "disabled" }
      serveMode := none
      profiles := []
      websiteProfiles := [] }
  else
    let fingerprint := subscriptionProxyFingerprint config
    let profiles := config.profiles
    let websiteProfiles := config.websiteProfiles
    if !currentFingerprint.isEmpty && currentFingerprint = fingerprint then
      { action := .unchanged, fingerprint, status := certificateStatus, serveMode := none, profiles, websiteProfiles }
    else
      let status : SubscriptionProxyStatus :=
        { enabled := true
          httpsListen := trim config.httpsListen
          profiles := profiles.length
          websiteProfiles := websiteProfiles.length
          certificateOwnerSiteId := subscriptionProxyCertificateOwnerSiteId profiles }
      match planSubscriptionProxyServeMode config fileReadable with
      | .ok mode =>
        let status := { status with status := "running", running := true, mode := mode.name }
        { action := .start
          fingerprint
          status := mergeSubscriptionProxyStatus status certificateStatus
          serveMode := some mode
          profiles
          websiteProfiles }
      | .error error =>
        let status := { status with status := "error", mode := "error", lastError := error }
        { action := .error
          fingerprint
          status := mergeSubscriptionProxyStatus status certificateStatus
          serveMode := none
          profiles
          websiteProfiles }

end KeliNode
