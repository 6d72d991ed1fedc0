import KeliNode.Proxy.Route
import KeliNode.Lib.Windows

/-!
# Answering a request (`subscription_proxy.rs`)

The upstream's answer is cut down to the headers that may be forwarded, its `Location` and cookies are moved under
the website's prefix, and what is left is printed.

| here | there |
|---|---|
| `renderSubscriptionProxyHttpResponse` | `subscription_proxy.rs:270` |
| `planSubscriptionProxyResponse` | `subscription_proxy.rs:891` |
| `validHttpHeaderName`, `validHttpHeaderValue` | `subscription_proxy.rs:1947`, `:1973` |
| `rewriteResponseHeaders` | `subscription_proxy.rs:2242` |
| `rewriteWebsiteLocation` | `subscription_proxy.rs:2274` |
| `rewriteWebsiteSetCookie` | `subscription_proxy.rs:2289` |
| `prefixedProxyPath` | `subscription_proxy.rs:2331` |
-/

namespace KeliNode

open Lib

structure SubscriptionProxyUpstreamResponse where
  status : UInt16 := 0
  headers : BTreeMap Text Text := ∅
  setCookieHeaders : List Text := []
  body : Bytes := []
  contentLength : Option Nat := none

structure SubscriptionProxyClientResponse where
  status : UInt16 := 0
  headers : BTreeMap Text Text := ∅
  setCookieHeaders : List Text := []
  body : Bytes := []

/-! ## Rewriting -/

/-- `prefixed_proxy_path` (`subscription_proxy.rs:2331`). -/
def prefixedProxyPath (pathPrefix path : Text) : Text :=
  let path := if (trim path).isEmpty then ("/" : Text) else path
  if path.head? = some '?' then (if pathPrefix = "/" then '/' :: path else pathPrefix ++ path)
  else if pathPrefix = "/" then (if path.head? = some '/' then path else '/' :: path)
  else if path = "/" then pathPrefix
  else trimEndMatches (· = '/') pathPrefix ++ "/" ++ trimStartMatches (· = '/') path

/-- `rewrite_website_location` (`subscription_proxy.rs:2274`). -/
def rewriteWebsiteLocation (value : Text) (rewrite : WebsiteProxyRewriteContext) : Text :=
  let base := trimTrailingSlashes (trim rewrite.upstreamBaseUrl)
  let pathPrefix := normalizeProxyPathPrefix rewrite.proxyPathPrefix
  let value := trim value
  let elsewhere := if value.head? = some '/' then prefixedProxyPath pathPrefix value else value
  match Json.stripPrefix base value with
  | some rest =>
    if rest.isEmpty || rest.head? = some '/' || rest.head? = some '?' then
      prefixedProxyPath pathPrefix (firstNonEmpty rest "/")
    else elsewhere
  | none => elsewhere

/-- `starts_with_header_attr` (`subscription_proxy.rs:2319`): the name in any case, then `=`. -/
def startsWithHeaderAttr (value name : Text) : Bool :=
  eqIgnoreCase (value.take name.length) name && (value.drop name.length).head? = some '='

/-- The attributes of a cookie behind its value: the kept ones, and whether one of them was a path. -/
def rewriteCookieAttributes (pathPrefix : Text) : List Text → List Text × Bool
  | [] => ([], false)
  | part :: parts =>
    let trimmed := trim part
    let (output, hasPath) := rewriteCookieAttributes pathPrefix parts
    if eqIgnoreCase trimmed "domain" || startsWithHeaderAttr trimmed "domain" then (output, hasPath)
    else if startsWithHeaderAttr trimmed "path" then
      ((if pathPrefix ≠ "/" then "Path=" ++ pathPrefix else trimmed) :: output, true)
    else (trimmed :: output, hasPath)

/-- `rewrite_website_set_cookie` (`subscription_proxy.rs:2289`). -/
def rewriteWebsiteSetCookie (value : Text) (rewrite : WebsiteProxyRewriteContext) : Text :=
  let pathPrefix := normalizeProxyPathPrefix rewrite.proxyPathPrefix
  match splitOn ';' value with
  | [] => value
  | first :: parts =>
    let (output, hasPath) := rewriteCookieAttributes pathPrefix parts
    let added := if pathPrefix ≠ "/" && !hasPath then [("Path=" : Text) ++ pathPrefix] else []
    join "; " (trim first :: output ++ added)

/-- The `Set-Cookie` entries of the header map are moved behind the other cookies. -/
def takeCookieHeader (taken : BTreeMap Text Text × List Text) (key : Text) : BTreeMap Text Text × List Text :=
  match taken.1.get? key with
  | some value => (taken.1.erase key, taken.2 ++ [value])
  | none => taken

/-- `rewrite_response_headers` (`subscription_proxy.rs:2242`). -/
def rewriteResponseHeaders (headers : BTreeMap Text Text) (extraSetCookieHeaders : List Text)
    (rewrite : Option WebsiteProxyRewriteContext) : BTreeMap Text Text × List Text :=
  let cookieKeys := headers.keys.filter (eqIgnoreCase · "set-cookie")
  let (headers, setCookieHeaders) := cookieKeys.foldl takeCookieHeader (headers, extraSetCookieHeaders)
  match rewrite with
  | none => (headers, setCookieHeaders)
  | some rewrite =>
    (headers.map fun key value => if eqIgnoreCase key "location" then rewriteWebsiteLocation value rewrite else value,
      setCookieHeaders.map (rewriteWebsiteSetCookie · rewrite))

/-! ## Planning -/

/-- `plan_subscription_proxy_response` (`subscription_proxy.rs:891`). -/
def planSubscriptionProxyResponse (response : SubscriptionProxyUpstreamResponse) (maxResponseBytes : Nat)
    (headOnly : Bool) (rewrite : Option WebsiteProxyRewriteContext) :
    Except SubscriptionProxyRouteError SubscriptionProxyClientResponse :=
  let maxResponseBytes := if maxResponseBytes = 0 then defaultMaxResponseBytes else maxResponseBytes
  if (response.contentLength.any fun length => decide (maxResponseBytes < length)) ||
      maxResponseBytes < response.body.length then
    .error (.badGateway "upstream response too large")
  else
    let (headers, setCookieHeaders) :=
      rewriteResponseHeaders (forwardedHeaders response.headers) response.setCookieHeaders rewrite
    .ok { status := response.status, headers, setCookieHeaders, body := if headOnly then [] else response.body }

/-! ## Printing -/

/-- `http_reason_phrase` (`subscription_proxy.rs:1931`). -/
def httpReasonPhrase (status : UInt16) : Text :=
  match status.toNat with
  | 200 => "OK"
  | 301 => "Moved Permanently"
  | 302 => "Found"
  | 303 => "See Other"
  | 307 => "Temporary Redirect"
  | 308 => "Permanent Redirect"
  | 400 => "Bad Request"
  | 404 => "Not Found"
  | 405 => "Method Not Allowed"
  | 502 => "Bad Gateway"
  | _ => "OK"

/-- The bytes a header name is made of. -/
def isHeaderNameByte (b : UInt8) : Bool :=
  ([0x21, 0x23, 0x24, 0x25, 0x26, 0x27, 0x2a, 0x2b, 0x2d, 0x2e, 0x5e, 0x5f, 0x60, 0x7c, 0x7e] : Bytes).contains b ||
    (0x30 ≤ b && b ≤ 0x39) || (0x41 ≤ b && b ≤ 0x5a) || (0x61 ≤ b && b ≤ 0x7a)

/-- `valid_http_header_name` (`subscription_proxy.rs:1947`). -/
def validHttpHeaderName (value : Text) : Bool := !value.isEmpty && (utf8 value).all isHeaderNameByte

/-- `valid_http_header_value` (`subscription_proxy.rs:1973`). -/
def validHttpHeaderValue (value : Text) : Bool := !(utf8 value).any fun byte => byte = 0x0d || byte = 0x0a

/-- A line of the head with the line end. -/
def printLine (line : Text) : Bytes := utf8 (line ++ "\r\n")

def headerLine (header : Text × Text) : Text := header.1 ++ ": " ++ header.2

def statusLine (response : SubscriptionProxyClientResponse) : Text :=
  join " " ["HTTP/1.1", decimal response.status.toNat, httpReasonPhrase response.status]

def contentLengthLine (response : SubscriptionProxyClientResponse) : Text :=
  headerLine ("Content-Length", decimal response.body.length)

def connectionLine : Text := headerLine ("Connection", "close")

def setCookieLine (value : Text) : Text := headerLine ("Set-Cookie", value)

/-- `render_subscription_proxy_http_response` (`subscription_proxy.rs:270`). -/
def renderSubscriptionProxyHttpResponse (response : SubscriptionProxyClientResponse) : Bytes :=
  printLine (statusLine response) ++ printLine (contentLengthLine response) ++ printLine connectionLine ++
    (response.headers.toList.flatMap fun header =>
      if validHttpHeaderName header.1 && validHttpHeaderValue header.2 then printLine (headerLine header) else []) ++
    (response.setCookieHeaders.flatMap fun value =>
      if validHttpHeaderValue value then printLine (setCookieLine value) else []) ++
    utf8 "\r\n" ++ response.body

end KeliNode
