import KeliNode.Lib.PosixPath
import KeliNode.Proxy.Plan
import KeliNode.Proxy.Normalized

/-!
# The domain validation file

The certificate authority asks for one file; the panel says which (`zerossl.validation_path`) and what is in it.  The
agent writes it below the challenge directory and serves it from there.  The two name filters differ:

| name | `validation_file_name` | `challenge_request_file_name` |
|---|---|---|
| `..` | refused | refused |
| `a..b` | written | refused |
| `.` | refused | served |

So a name with two dots inside is written and never served, and `GET /.well-known/pki-validation/.` answers with the
directory itself (`validation_file_served_iff`).
-/

namespace KeliNode

open Lib

def challengeDirOf (config : SubscriptionProxyConfig) : Text :=
  firstNonEmpty (trim config.challengeDir) defaultChallengeDir

/-- The last segment of a path, behind the slashes at its end. -/
def lastSegment (path : Text) : Text := ((trimEndMatches (· = '/') (trim path)).reverse.takeWhile (· ≠ '/')).reverse

/-- A segment that goes through a request line as it is. -/
def PlainSegment (segment : Text) : Prop := ∀ c ∈ segment, isWhite c = false ∧ c ≠ '?' ∧ c ≠ '%'

def ChallengeGiven (config : SubscriptionProxyConfig) : Prop :=
  trim config.zerossl.validationPath ≠ [] ∧ trim config.zerossl.validationContent ≠ []

/-- The request asks for the file that the panel named. -/
def AsksForChallenge (config : SubscriptionProxyConfig) (request : SubscriptionProxyInboundRequest) : Prop :=
  request.method = "GET" ∧
    request.path = ("/.well-known/pki-validation/" : Text) ++ lastSegment config.zerossl.validationPath

/-- What is written is served, and nothing is served that is not an entry of the challenge directory. -/
structure ValidationServed (config : SubscriptionProxyConfig) (request : SubscriptionProxyInboundRequest) : Prop where
  served : ∀ write, planSubscriptionProxyValidationFile config = .ok (some write) →
    PlainSegment (lastSegment config.zerossl.validationPath) → AsksForChallenge config request →
    planSubscriptionProxyHttpRequest config request = .ok (.challengeFile write.path)
  contained : ∀ path, planSubscriptionProxyHttpRequest config request = .ok (.challengeFile path) →
    Lib.EntryOf (challengeDirOf config) path

/-- The two filters agree on the name that is asked for. -/
structure NamesAgree (config : SubscriptionProxyConfig) (request : SubscriptionProxyInboundRequest) : Prop where
  embedded : ChallengeGiven config → PlainSegment (lastSegment config.zerossl.validationPath) →
    AsksForChallenge config request → validationFileName config.zerossl.validationPath ≠ none →
    containsText ".." (lastSegment config.zerossl.validationPath) = false
  dot : asciiUpper (trim request.method) = "GET" ∨ asciiUpper (trim request.method) = "HEAD" →
    ∀ name, request.path = ("/.well-known/pki-validation/" : Text) ++ name → trim name ≠ "."

section

variable {config : SubscriptionProxyConfig} {request : SubscriptionProxyInboundRequest} {name path segment : Text}
  {write : SubscriptionProxyFileWrite}

theorem challengeDirOf_eq (config : SubscriptionProxyConfig) :
    firstNonEmpty (trim config.challengeDir) defaultChallengeDir = challengeDirOf config := rfl

theorem challengeDirOf_ne_nil : challengeDirOf config ≠ [] := firstNonEmpty_ne_nil (by decide)

/-! ## The two filters -/

theorem slash_notMem_lastSegment : '/' ∉ lastSegment path := by
  intro h
  rw [lastSegment, List.mem_reverse] at h
  simpa using List.mem_takeWhile_imp h

theorem trim_plain (h : PlainSegment segment) : trim segment = segment := by
  apply trim_eq_self
  · exact fun c hc => (h c (List.mem_of_mem_head? hc)).1
  · exact fun c hc => (h c (List.mem_of_getLast? hc)).1

theorem validationFileName_eq_some : validationFileName path = some name ↔
    name = trim (lastSegment path) ∧ name ≠ [] ∧ name ≠ "." ∧ name ≠ ".." ∧ '\\' ∉ name := by
  rw [validationFileName, ← lastSegment]
  simp only [Option.ite_none_left_eq_some, Bool.or_eq_true, List.isEmpty_iff, decide_eq_true_eq, List.contains_iff_mem,
    not_or, Option.some.injEq]
  constructor
  · rintro ⟨⟨⟨⟨hne, hdot⟩, hup⟩, hslash⟩, rfl⟩
    exact ⟨rfl, hne, hdot, hup, hslash⟩
  · rintro ⟨rfl, hne, hdot, hup, hslash⟩
    exact ⟨⟨⟨⟨hne, hdot⟩, hup⟩, hslash⟩, rfl⟩

theorem challengeRequestFileName_eq_some : challengeRequestFileName path = some name ↔
    name = trim path ∧ name ≠ [] ∧ '/' ∉ name ∧ containsText ".." name = false ∧ '\\' ∉ name := by
  rw [challengeRequestFileName]
  simp only [Option.ite_none_left_eq_some, Bool.or_eq_true, List.isEmpty_iff, List.contains_iff_mem, not_or,
    Option.some.injEq, Bool.not_eq_true]
  constructor
  · rintro ⟨⟨⟨⟨hne, hslash⟩, hup⟩, hback⟩, rfl⟩
    exact ⟨rfl, hne, hslash, hup, hback⟩
  · rintro ⟨rfl, hne, hslash, hup, hback⟩
    exact ⟨⟨⟨⟨hne, hslash⟩, hup⟩, hback⟩, rfl⟩

theorem joinPosixPath_of_slashFree (root : Text) (h : '/' ∉ name) :
    joinPosixPath root name = trimEndMatches (· = '/') root ++ "/" ++ name := by
  rw [joinPosixPath, trimStartMatches_eq_self]
  intro c hc
  have hne : c ≠ '/' := fun heq => h (heq ▸ List.mem_of_mem_head? hc)
  simpa using hne

/-! ## The writer -/

theorem planSubscriptionProxyValidationFile_eq_some :
    planSubscriptionProxyValidationFile config = .ok (some write) ↔ ChallengeGiven config ∧
      ∃ name, validationFileName config.zerossl.validationPath = some name ∧
        write = { path := joinPosixPath (challengeDirOf config) name
                  content := validationContentString (trim config.zerossl.validationContent), mode := 0o644 } := by
  have htrim : validationFileName (trim config.zerossl.validationPath) = validationFileName config.zerossl.validationPath := by
    rw [validationFileName, trim_trim, ← validationFileName]
  simp only [planSubscriptionProxyValidationFile, ChallengeGiven, htrim, challengeDirOf_eq, Bool.or_eq_true,
    List.isEmpty_iff, ← not_or]
  by_cases hblank : trim config.zerossl.validationPath = [] ∨ trim config.zerossl.validationContent = []
  · rw [if_pos hblank]
    constructor
    · intro h
      cases h
    · exact fun h => absurd hblank h.1
  · rw [if_neg hblank, and_iff_right hblank]
    cases validationFileName config.zerossl.validationPath with
    | none =>
      constructor
      · intro h
        cases h
      · rintro ⟨name, hname, -⟩
        cases hname
    | some name =>
      constructor
      · intro h
        cases h
        exact ⟨name, rfl, rfl⟩
      · rintro ⟨name', hname, rfl⟩
        cases hname
        rfl

/-- The writer stays in the directory. -/
theorem written_entryOf (h : planSubscriptionProxyValidationFile config = .ok (some write)) :
    Lib.EntryOf (challengeDirOf config) write.path := by
  obtain ⟨-, name, hname, rfl⟩ := planSubscriptionProxyValidationFile_eq_some.1 h
  obtain ⟨heq, hne, hdot, hup, -⟩ := validationFileName_eq_some.1 hname
  have hslash : '/' ∉ name := by
    rw [heq]
    exact fun hmem => slash_notMem_lastSegment (mem_of_mem_trim hmem)
  rw [joinPosixPath_of_slashFree _ hslash, entryOf_join_iff challengeDirOf_ne_nil hslash]
  exact ⟨hne, hdot, hup, hslash⟩

/-! ## The server -/

theorem planSubscriptionProxyHttpRequest_eq_challengeFile :
    planSubscriptionProxyHttpRequest config request = .ok (.challengeFile path) ↔
      (asciiUpper (trim request.method) = "GET" ∨ asciiUpper (trim request.method) = "HEAD") ∧
      ∃ rest name, request.path = ("/.well-known/pki-validation/" : Text) ++ rest ∧
        challengeRequestFileName rest = some name ∧ path = joinPosixPath (challengeDirOf config) name := by
  have hread : ¬ (asciiUpper (trim request.method) ≠ "GET" ∧ asciiUpper (trim request.method) ≠ "HEAD") ↔
      asciiUpper (trim request.method) = "GET" ∨ asciiUpper (trim request.method) = "HEAD" := by
    rw [not_and_or, not_not, not_not]
  rw [← hread, planSubscriptionProxyHttpRequest]
  simp only [challengeDirOf_eq]
  split
  · rename_i hmethod
    constructor
    · intro h
      cases h
    · exact fun h => absurd hmethod h.1
  · rename_i hmethod
    rw [and_iff_right hmethod]
    split
    · rename_i hhealth
      constructor
      · intro h
        cases h
      · rintro ⟨rest, name, hpath, -⟩
        rw [hhealth] at hpath
        have hlen := congrArg List.length hpath
        rw [List.length_append] at hlen
        have hshort : ("/health" : Text).length = 7 := by decide
        have hlong : ("/.well-known/pki-validation/" : Text).length = 28 := by decide
        omega
    · split
      · rename_i hnone
        constructor
        · intro h
          cases h
        · rintro ⟨rest, name, hpath, hname, -⟩
          rw [Json.stripPrefix_eq_some.2 hpath, Option.bind_some, hname] at hnone
          cases hnone
      · rename_i name hsome
        obtain ⟨rest, hrest, hname⟩ := Option.bind_eq_some_iff.1 hsome
        constructor
        · intro h
          cases h
          exact ⟨rest, name, Json.stripPrefix_eq_some.1 hrest, hname, rfl⟩
        · rintro ⟨rest', name', hpath, hname', rfl⟩
          rw [Json.stripPrefix_eq_some.2 hpath] at hrest
          cases hrest
          rw [hname] at hname'
          cases hname'
          rfl

/-- The server keeps to names, except for the single dot. -/
theorem served_entryOf_iff (h : challengeRequestFileName segment = some name) :
    Lib.EntryOf (challengeDirOf config) (joinPosixPath (challengeDirOf config) name) ↔ trim segment ≠ "." := by
  obtain ⟨rfl, hne, hslash, hup, -⟩ := challengeRequestFileName_eq_some.1 h
  rw [joinPosixPath_of_slashFree _ hslash, entryOf_join_iff challengeDirOf_ne_nil hslash]
  constructor
  · exact fun hname => hname.notDot
  · intro hdot
    refine ⟨hne, hdot, ?_, hslash⟩
    intro heq
    rw [heq] at hup
    cases hup

end

/-- **Domain validation**: what is written is served, and only entries of the challenge directory are, exactly if the two
filters agree on the name. -/
theorem validation_file_served_iff (config : SubscriptionProxyConfig) (request : SubscriptionProxyInboundRequest) :
    ValidationServed config request ↔ NamesAgree config request := by
  constructor
  · intro h
    constructor
    · intro hgiven hplain hasks hname
      obtain ⟨name, hname⟩ := Option.ne_none_iff_exists'.1 hname
      obtain ⟨rfl, -⟩ := validationFileName_eq_some.1 hname
      have hserved := h.served _ (planSubscriptionProxyValidationFile_eq_some.2 ⟨hgiven, _, hname, rfl⟩) hplain hasks
      obtain ⟨-, rest, name, hpath, hrest, -⟩ := planSubscriptionProxyHttpRequest_eq_challengeFile.1 hserved
      rw [hasks.2] at hpath
      obtain ⟨rfl, -, -, hup, -⟩ := challengeRequestFileName_eq_some.1 hrest
      rw [← List.append_cancel_left hpath, trim_plain hplain] at hup
      exact hup
    · intro hread name hpath hdot
      have hname : challengeRequestFileName name = some (("." : String) : Text) :=
        challengeRequestFileName_eq_some.2 ⟨hdot.symm, by decide, by decide, by decide, by decide⟩
      have hplan : planSubscriptionProxyHttpRequest config request =
          .ok (.challengeFile (joinPosixPath (challengeDirOf config) ".")) :=
        planSubscriptionProxyHttpRequest_eq_challengeFile.2 ⟨hread, name, _, hpath, hname, rfl⟩
      exact (served_entryOf_iff hname).1 (h.contained _ hplan) hdot
  · intro h
    constructor
    · intro write hwrite hplain hasks
      obtain ⟨hgiven, name, hname, rfl⟩ := planSubscriptionProxyValidationFile_eq_some.1 hwrite
      have hup := h.embedded hgiven hplain hasks (by rw [hname]; exact nofun)
      obtain ⟨rfl, hne, -, -, hback⟩ := validationFileName_eq_some.1 hname
      rw [trim_plain hplain] at hne hback
      have hrest : challengeRequestFileName (lastSegment config.zerossl.validationPath) =
          some (lastSegment config.zerossl.validationPath) :=
        challengeRequestFileName_eq_some.2 ⟨(trim_plain hplain).symm, hne, slash_notMem_lastSegment, hup, hback⟩
      rw [planSubscriptionProxyHttpRequest_eq_challengeFile]
      refine ⟨.inl (by rw [hasks.1]; decide), _, _, hasks.2, hrest, ?_⟩
      rw [trim_plain hplain]
    · intro path hplan
      obtain ⟨hread, rest, name, hpath, hname, rfl⟩ := planSubscriptionProxyHttpRequest_eq_challengeFile.1 hplan
      exact (served_entryOf_iff hname).2 (h.dot hread rest hpath)

/-! ## Where they differ -/

/-- The panel names a file with two dots inside. -/
def twoDotsConfig : SubscriptionProxyConfig where
  zerossl := { validationPath := "/a..b", validationContent := "x" }

def twoDotsRequest : SubscriptionProxyInboundRequest where
  method := "GET"
  path := "/.well-known/pki-validation/a..b"

def dotRequest : SubscriptionProxyInboundRequest where
  method := "GET"
  path := "/.well-known/pki-validation/."

/-- `a..b` is written and not found; `.` is the directory. -/
theorem names_differ :
    (∃ write, planSubscriptionProxyValidationFile twoDotsConfig = .ok (some write)) ∧
      AsksForChallenge twoDotsConfig twoDotsRequest ∧
      planSubscriptionProxyHttpRequest twoDotsConfig twoDotsRequest = .error .notFound ∧
      ¬ ValidationServed twoDotsConfig twoDotsRequest ∧ ¬ ValidationServed twoDotsConfig dotRequest := by
  have hsegment : lastSegment twoDotsConfig.zerossl.validationPath = "a..b" := by decide +kernel
  have hgiven : ChallengeGiven twoDotsConfig := by
    rw [ChallengeGiven]
    decide +kernel
  have hname : validationFileName twoDotsConfig.zerossl.validationPath = some (("a..b" : String) : Text) := by decide +kernel
  have hasks : AsksForChallenge twoDotsConfig twoDotsRequest := by
    refine ⟨rfl, ?_⟩
    rw [hsegment]
    decide +kernel
  have hplain : PlainSegment (lastSegment twoDotsConfig.zerossl.validationPath) := by
    rw [hsegment]
    intro c hc
    have hall : (("a..b" : Text).all fun c => !isWhite c && c != '?' && c != '%') = true := by decide
    simpa [and_assoc] using List.all_eq_true.1 hall c hc
  have hwrite := planSubscriptionProxyValidationFile_eq_some.2 ⟨hgiven, _, hname, rfl⟩
  have hrefused : planSubscriptionProxyHttpRequest twoDotsConfig twoDotsRequest = .error .notFound := by
    have hmethod : ¬ (asciiUpper (trim twoDotsRequest.method) ≠ "GET" ∧ asciiUpper (trim twoDotsRequest.method) ≠ "HEAD") := by
      decide +kernel
    have hhealth : twoDotsRequest.path ≠ "/health" := by decide +kernel
    have hrest : (Json.stripPrefix "/.well-known/pki-validation/" twoDotsRequest.path).bind challengeRequestFileName = none := by
      decide +kernel
    rw [planSubscriptionProxyHttpRequest, hrest]
    simp only [if_neg hmethod, if_neg hhealth]
  have hdot : challengeRequestFileName "." = some (("." : String) : Text) := by decide
  have hdirectory : planSubscriptionProxyHttpRequest twoDotsConfig dotRequest =
      .ok (.challengeFile (joinPosixPath (challengeDirOf twoDotsConfig) ".")) :=
    planSubscriptionProxyHttpRequest_eq_challengeFile.2 ⟨.inl (by decide), ".", _, by decide +kernel, hdot, rfl⟩
  refine ⟨⟨_, hwrite⟩, hasks, hrefused, fun h => ?_, fun h => ?_⟩
  · have hserved := h.served _ hwrite hplain hasks
    rw [hrefused] at hserved
    cases hserved
  · exact (served_entryOf_iff hdot).1 (h.contained _ hdirectory) (by decide)

end KeliNode
