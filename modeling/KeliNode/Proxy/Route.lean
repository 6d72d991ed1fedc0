import KeliNode.Proxy.Config
import KeliNode.Lib.MaxBy
import KeliNode.Lib.Utf8

/-!
# Routing a request (`subscription_proxy.rs`)

A request goes to `/health`, to a subscription (`/sub/<site>/<token>`) or to the website with the longest path
prefix.  What is planned is the upstream request; nothing is sent here.

| here | there |
|---|---|
| `planSubscriptionProxyRequest` | `subscription_proxy.rs:604` |
| `buildWebsiteUpstreamUrl` | `subscription_proxy.rs:689` |
| `upstreamForwardedHeaders` | `subscription_proxy.rs:716` |
| `planSubscriptionProxyHttpRequest` | `subscription_proxy.rs:734` |
| `buildSubscriptionUpstreamUrl` | `subscription_proxy.rs:863` |
| `percentEncodePathSegment`, `percentDecodePathSegment` | `subscription_proxy.rs:2128`, `subscription_proxy.rs:2141` |
| `websiteProxyMatch` | `subscription_proxy.rs:2170` |
-/

namespace KeliNode

open Lib

/-! ## Data -/

structure SubscriptionProxyInboundRequest where
  method : Text := []
  path : Text := []
  rawQuery : Text := []
  host : Text := []
  remoteAddr : Text := []
  headers : BTreeMap Text Text := ∅
  body : Bytes := []

structure WebsiteProxyRewriteContext where
  upstreamBaseUrl : Text
  proxyPathPrefix : Text
  deriving DecidableEq

structure SubscriptionProxyUpstreamRequest where
  method : Text
  url : Text
  headers : BTreeMap Text Text
  body : Bytes
  headOnly : Bool
  followRedirects : Bool
  responseRewrite : Option WebsiteProxyRewriteContext

inductive SubscriptionProxyRoute where
  | health
  | challengeFile (path : Text)
  | upstream (request : SubscriptionProxyUpstreamRequest)

inductive SubscriptionProxyRouteError where
  | notFound
  | methodNotAllowed
  | badGateway (error : Text)
  deriving DecidableEq

/-! ## Percent codes -/

/-- The bytes that stand for themselves in a path segment. -/
def isUnreserved (b : UInt8) : Bool :=
  (0x41 ≤ b && b ≤ 0x5a) || (0x61 ≤ b && b ≤ 0x7a) || (0x30 ≤ b && b ≤ 0x39) ||
    b = 0x2d || b = 0x5f || b = 0x2e || b = 0x7e

/-- A digit of `{:02X}`. -/
def upperHexDigit (n : UInt8) : Char := Char.ofNat (if n < 10 then 0x30 + n.toNat else 0x37 + n.toNat)

def percentEncodeByte (b : UInt8) : Text :=
  if isUnreserved b then [Char.ofNat b.toNat] else ['%', upperHexDigit (b / 16), upperHexDigit (b % 16)]

def percentEncodePathSegment (value : Text) : Text := (utf8 value).flatMap percentEncodeByte

/-- `hex_value` (`subscription_proxy.rs:2221`). -/
def hexValue (b : UInt8) : Option UInt8 :=
  if 0x30 ≤ b && b ≤ 0x39 then some (b - 0x30)
  else if 0x61 ≤ b && b ≤ 0x66 then some (b - 0x61 + 10)
  else if 0x41 ≤ b && b ≤ 0x46 then some (b - 0x41 + 10)
  else none

/-- The byte loop of `percent_decode_path_segment`; `none` is a bad escape. -/
def percentDecodeBytes : Bytes → Option Bytes
  | [] => some []
  | b :: rest =>
    if b = 0x25 then
      match rest with
      | hi :: lo :: rest => do
        let hi ← hexValue hi
        let lo ← hexValue lo
        let output ← percentDecodeBytes rest
        some ((hi <<< 4 ||| lo) :: output)
      | _ => none
    else (percentDecodeBytes rest).map (b :: ·)

def percentDecodePathSegment (value : Text) : Except Text Text :=
  match (percentDecodeBytes (utf8 value)).bind fromUtf8 with
  | some text => .ok text
  | none => .error "invalid escaped token"

/-! ## Forwarded headers -/

/-- `is_hop_by_hop_header` (`subscription_proxy.rs:2382`). -/
def isHopByHopHeader (key : Text) : Bool :=
  (["connection", "keep-alive", "proxy-authenticate", "proxy-authorization", "te", "trailer", "transfer-encoding",
    "upgrade"] : List Text).contains (asciiLower key)

/-- `forwarded_headers` (`subscription_proxy.rs:2230`). -/
def forwardedHeaders (source : BTreeMap Text Text) : BTreeMap Text Text :=
  source.filter fun key _ => !isHopByHopHeader key && !eqIgnoreCase key "host" && !eqIgnoreCase key "content-length"

/-- `client_ip` (`subscription_proxy.rs:2396`).  Behind a single colon, splitting at the last one splits there. -/
def clientIp (remoteAddr : Text) : Option Text :=
  let text := trim remoteAddr
  if text.isEmpty then none
  else match (Json.stripPrefix "[" text).bind (splitOnce ']') with
    | some (host, _) => some host
    | none =>
      if text.count ':' = 1 then
        match splitOnce ':' text with
        | none => none
        | some (host, port) => if !host.isEmpty && port.all Char.isDigit then some host else some text
      else some text

/-- `append_forwarded_for` (`subscription_proxy.rs:2359`). -/
def appendForwardedFor (headers : BTreeMap Text Text) (ip : Text) : BTreeMap Text Text :=
  let ip := trim ip
  if ip.isEmpty then headers
  else
    let existingKey := ((headers.keys.find? (eqIgnoreCase · "X-Forwarded-For")).getD "X-Forwarded-For")
    let existing := ((headers.get? existingKey).map trim).getD []
    headers.insert existingKey (if existing.isEmpty then ip else existing ++ ", " ++ ip)

/-- `upstream_forwarded_headers` (`subscription_proxy.rs:716`). -/
def upstreamForwardedHeaders (request : SubscriptionProxyInboundRequest) : BTreeMap Text Text :=
  let headers := forwardedHeaders request.headers
  let host := trim request.host
  let headers := if host.isEmpty then headers else headers.insert "X-Forwarded-Host" host
  let headers := headers.insert "X-Forwarded-Proto" "https"
  match clientIp request.remoteAddr with
  | some ip => appendForwardedFor headers ip
  | none => headers

/-! ## Website prefixes -/

/-- `website_proxy_path_matches` (`subscription_proxy.rs:2194`). -/
def websiteProxyPathMatches (pathPrefix requestPath : Text) : Bool :=
  if pathPrefix = "/" then true
  else requestPath = pathPrefix ||
    match Json.stripPrefix pathPrefix requestPath with
    | some rest => rest.head? = some '/'
    | none => false

/-- `website_proxy_upstream_path` (`subscription_proxy.rs:2205`). -/
def websiteProxyUpstreamPath (pathPrefix requestPath : Text) : Text :=
  if pathPrefix = "/" then (if requestPath.isEmpty then "/" else requestPath)
  else
    let stripped := (Json.stripPrefix pathPrefix requestPath).getD requestPath
    if stripped.isEmpty then "/"
    else if stripped.head? = some '/' then stripped
    else '/' :: stripped

/-- The profiles whose prefix matches, each with the prefix and the path left for the upstream. -/
def websiteProxyCandidates (profiles : List WebsiteProxyProfile) (requestPath : Text) :
    List (WebsiteProxyProfile × Text × Text) :=
  profiles.filterMap fun profile =>
    let pathPrefix := normalizeProxyPathPrefix profile.pathPrefix
    if websiteProxyPathMatches pathPrefix requestPath then
      some (profile, pathPrefix, websiteProxyUpstreamPath pathPrefix requestPath)
    else none

/-- `website_proxy_match` (`subscription_proxy.rs:2170`). -/
def websiteProxyMatch (profiles : List WebsiteProxyProfile) (requestPath : Text) :
    Option (WebsiteProxyProfile × Text × Text) :=
  let requestPath := if requestPath.isEmpty then ("/" : Text) else requestPath
  maxByKey (fun candidate => byteLen candidate.2.1) (websiteProxyCandidates profiles requestPath)

/-! ## Upstream URLs -/

/-- `?` and the raw query, its leading question marks dropped; nothing for an empty one. -/
def querySuffix (rawQuery : Text) : Text :=
  let query := trimStartMatches (· = '?') rawQuery
  if query.isEmpty then [] else '?' :: query

/-- `build_website_upstream_url` (`subscription_proxy.rs:689`). -/
def buildWebsiteUpstreamUrl (profile : WebsiteProxyProfile) (upstreamPath rawQuery : Text) : Except Text Text :=
  let base := trimTrailingSlashes (trim profile.upstreamBaseUrl)
  if !isValidUpstreamBaseUrl base then .error "invalid base url"
  else
    let path := if (trim upstreamPath).isEmpty then ("/" : Text) else upstreamPath
    let url := if path = "/" then base ++ "/" else base ++ "/" ++ trimStartMatches (· = '/') path
    .ok (url ++ querySuffix rawQuery)

/-- `build_subscription_upstream_url` (`subscription_proxy.rs:863`). -/
def buildSubscriptionUpstreamUrl (profile : SubscriptionProxyProfile) (token rawQuery : Text) : Except Text Text :=
  let base := trimTrailingSlashes (trim profile.upstreamBaseUrl)
  if !isValidUpstreamBaseUrl base then .error "invalid base url"
  else
    let subscribePath := firstNonEmpty (trimSubscriptionPath profile.subscribePath) "s"
    let token := trim token
    if token.isEmpty then .error "empty subscription token"
    else .ok (base ++ "/" ++ subscribePath ++ "/" ++ percentEncodePathSegment token ++ querySuffix rawQuery)

/-! ## Routes -/

/-- `is_allowed_website_proxy_method` (`subscription_proxy.rs:2163`). -/
def isAllowedWebsiteProxyMethod (method : Text) : Bool :=
  (["GET", "HEAD", "POST", "PUT", "PATCH", "DELETE", "OPTIONS"] : List Text).contains method

def badGateway {α : Type} (result : Except Text α) : Except SubscriptionProxyRouteError α :=
  result.mapError .badGateway

/-- The `/sub/` branch of `plan_subscription_proxy_request`, on what follows `/sub/`. -/
def planSubscriptionRoute (profiles : List SubscriptionProxyProfile) (request : SubscriptionProxyInboundRequest)
    (rest : Text) : Except SubscriptionProxyRouteError SubscriptionProxyRoute :=
  let method := asciiUpper (trim request.method)
  if method ≠ "GET" ∧ method ≠ "HEAD" then .error .methodNotAllowed
  else match splitOnce '/' rest with
    | none => .error .notFound
    | some (siteId, tokenPart) =>
      if (trim siteId).isEmpty || (trim tokenPart).isEmpty then .error .notFound
      else match profiles.find? fun profile => eqIgnoreCase profile.siteId siteId with
        | none => .error .notFound
        | some profile => do
          let token ← badGateway (percentDecodePathSegment tokenPart)
          if (trim token).isEmpty then .error .notFound
          else
            let url ← badGateway (buildSubscriptionUpstreamUrl profile token request.rawQuery)
            .ok (.upstream
              { method, url
                headers := upstreamForwardedHeaders request
                body := []
                headOnly := eqIgnoreCase (trim request.method) "HEAD"
                followRedirects := true
                responseRewrite := none })

/-- The website branch of `plan_subscription_proxy_request`. -/
def planWebsiteRoute (websiteProfiles : List WebsiteProxyProfile) (request : SubscriptionProxyInboundRequest) :
    Except SubscriptionProxyRouteError SubscriptionProxyRoute :=
  let method := asciiUpper (trim request.method)
  if !isAllowedWebsiteProxyMethod method then .error .methodNotAllowed
  else match websiteProxyMatch websiteProfiles request.path with
    | none => .error .notFound
    | some (profile, pathPrefix, upstreamPath) => do
      let url ← badGateway (buildWebsiteUpstreamUrl profile upstreamPath request.rawQuery)
      let headOnly : Bool := method = "HEAD"
      .ok (.upstream
        { method, url
          headers := upstreamForwardedHeaders request
          body := if headOnly then [] else request.body
          headOnly
          followRedirects := false
          responseRewrite := some
            { upstreamBaseUrl := trimTrailingSlashes (trim profile.upstreamBaseUrl)
              proxyPathPrefix := pathPrefix } })

/-- `plan_subscription_proxy_request` (`subscription_proxy.rs:604`). -/
def planSubscriptionProxyRequest (profiles : List SubscriptionProxyProfile)
    (websiteProfiles : List WebsiteProxyProfile) (request : SubscriptionProxyInboundRequest) :
    Except SubscriptionProxyRouteError SubscriptionProxyRoute :=
  if request.path = "/health" then
    let method := asciiUpper (trim request.method)
    if method ≠ "GET" ∧ method ≠ "HEAD" then .error .methodNotAllowed else .ok .health
  else match Json.stripPrefix "/sub/" request.path with
    | some rest => planSubscriptionRoute profiles request rest
    | none => planWebsiteRoute websiteProfiles request

/-- `challenge_request_file_name` (`subscription_proxy.rs:2064`). -/
def challengeRequestFileName (path : Text) : Option Text :=
  let name := trim path
  if name.isEmpty || name.contains '/' || containsText ".." name || name.contains '\\' then none else some name

/-- `join_posix_path` (`subscription_proxy.rs:2047`). -/
def joinPosixPath (root child : Text) : Text :=
  trimEndMatches (· = '/') root ++ "/" ++ trimStartMatches (· = '/') child

/-- `plan_subscription_proxy_http_request` (`subscription_proxy.rs:734`). -/
def planSubscriptionProxyHttpRequest (config : SubscriptionProxyConfig) (request : SubscriptionProxyInboundRequest) :
    Except SubscriptionProxyRouteError SubscriptionProxyRoute :=
  let method := asciiUpper (trim request.method)
  if method ≠ "GET" ∧ method ≠ "HEAD" then .error .methodNotAllowed
  else if request.path = "/health" then .ok .health
  else match (Json.stripPrefix "/.well-known/pki-validation/" request.path).bind challengeRequestFileName with
    | none => .error .notFound
    | some name =>
      .ok (.challengeFile (joinPosixPath (firstNonEmpty (trim config.challengeDir) defaultChallengeDir) name))

end KeliNode
