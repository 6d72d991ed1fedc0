import KeliNode.Proxy.Route
import KeliNode.Lib.Except
import KeliNode.Lib.Windows

/-!
# Parsing a request (`subscription_proxy.rs`)

The head of a request ends at the first empty line; its lines are the request line and the headers.

| here | there |
|---|---|
| `parseSubscriptionProxyHttpRequest` | `subscription_proxy.rs:202` |
| `httpHeaderEnd` | `subscription_proxy.rs:1977` |
-/

namespace KeliNode

open Lib

def httpHeaderEnd (raw : Bytes) : Option Nat := findWindow [0x0d, 0x0a, 0x0d, 0x0a] raw

/-- The lines of a head, `split("\r\n")`. -/
def splitCrlf (head : Text) : List Text := splitPair '\r' '\n' head

/-- `str::split_whitespace`. -/
def splitWhitespace (s : Text) : List Text := (s.splitOnP isWhite).filter (· ≠ [])

/-- One step of the header loop; a later header with one name replaces an earlier one. -/
def addRequestHeader (headers : BTreeMap Text Text) (line : Text) : Except Text (BTreeMap Text Text) :=
  if (trim line).isEmpty then .ok headers
  else match splitOnce ':' line with
    | none => .error "invalid http header"
    | some (key, value) =>
      if (trim key).isEmpty then .error "invalid http header" else .ok (headers.insert (trim key) (trim value))

/-- What is read from the lines of the head. -/
def parseRequestLines (lines : List Text) (body : Bytes) (remoteAddr : Text) : Except Text SubscriptionProxyInboundRequest :=
  match lines with
  | [] => .error "missing http request line"
  | requestLine :: lines =>
    match splitWhitespace requestLine with
    | [] => .error "missing http method"
    | [_] => .error "missing http target"
    | [_, _] => .error "missing http version"
    | method :: target :: version :: _ =>
      if !(("HTTP/" : Text).isPrefixOf version) then .error "invalid http version"
      else
        let (path, rawQuery) := (splitOnce '?' target).getD (target, [])
        if path.head? ≠ some '/' then .error "invalid http path"
        else do
          let headers ← lines.foldlM addRequestHeader ∅
          let host := ((headers.toList.find? fun header => eqIgnoreCase header.1 "host").map (·.2)).getD []
          .ok { method, path, rawQuery, host, remoteAddr, headers, body }

def parseSubscriptionProxyHttpRequest (raw : Bytes) (remoteAddr : Text) : Except Text SubscriptionProxyInboundRequest :=
  match httpHeaderEnd raw with
  | none => .error "incomplete http request"
  | some headerEnd =>
    match fromUtf8 (raw.take headerEnd) with
    | none => .error "invalid utf-8 request"
    | some head => parseRequestLines (splitCrlf head) (raw.drop (headerEnd + 4)) remoteAddr

/-- The path of a request starts with a slash. -/
theorem head?_path_of_parse {raw : Bytes} {remoteAddr : Text} {request : SubscriptionProxyInboundRequest}
    (h : parseSubscriptionProxyHttpRequest raw remoteAddr = .ok request) : request.path.head? = some '/' := by
  unfold parseSubscriptionProxyHttpRequest at h
  split at h
  · cases h
  · split at h
    · cases h
    · unfold parseRequestLines at h
      split at h
      · cases h
      · split at h
        · cases h
        · cases h
        · cases h
        · split at h
          · cases h
          · simp only at h
            split at h
            · cases h
            · rename_i hpath
              obtain ⟨headers, _, h⟩ := bind_eq_ok.1 h
              cases h
              simpa using hpath

end KeliNode
