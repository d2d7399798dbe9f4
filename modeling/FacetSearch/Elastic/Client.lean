import FacetSearch.Elastic.Body
import FacetSearch.Elastic.Fault
import FacetSearch.Elastic.Reply
import FacetSearch.Json.Parser
import FacetSearch.Settings.Basic
import FacetSearch.Text.Base64

namespace FacetSearch.Elastic

/-!
# Talking to the engine

A client turns a plan into one request and the outcome of the exchange into an
answer.  The exchange itself is left to whoever owns a connection.
-/

/-- How the engine is reached. -/
structure Client where
  /-- The address, without a slash at its end. -/
  url : String
  username : Option String
  password : Option String
  /-- The milliseconds after which an exchange is given up. -/
  timeout : UInt64
  deriving DecidableEq, Repr

/-- A request to the engine; its body is sent as JSON. -/
structure Request where
  url : String
  authorization : Option String
  body : Json
  deriving DecidableEq, Repr

/-- How an exchange ended. -/
inductive Exchange where
  | timedOut
  | failed (detail : String)
  | replied (status : UInt16) (text : String)
  deriving DecidableEq, Repr, Inhabited

/-- The standard phrases of response statuses. -/
def statusPhrases : List (Nat × String) := [
  (100, "Continue"), (101, "Switching Protocols"), (102, "Processing"),
  (200, "OK"), (201, "Created"), (202, "Accepted"), (203, "Non Authoritative Information"),
  (204, "No Content"), (205, "Reset Content"), (206, "Partial Content"),
  (207, "Multi-Status"), (208, "Already Reported"), (226, "IM Used"),
  (300, "Multiple Choices"), (301, "Moved Permanently"), (302, "Found"), (303, "See Other"),
  (304, "Not Modified"), (305, "Use Proxy"), (307, "Temporary Redirect"),
  (308, "Permanent Redirect"),
  (400, "Bad Request"), (401, "Unauthorized"), (402, "Payment Required"), (403, "Forbidden"),
  (404, "Not Found"), (405, "Method Not Allowed"), (406, "Not Acceptable"),
  (407, "Proxy Authentication Required"), (408, "Request Timeout"), (409, "Conflict"),
  (410, "Gone"), (411, "Length Required"), (412, "Precondition Failed"),
  (413, "Payload Too Large"), (414, "URI Too Long"), (415, "Unsupported Media Type"),
  (416, "Range Not Satisfiable"), (417, "Expectation Failed"), (418, "I'm a teapot"),
  (421, "Misdirected Request"), (422, "Unprocessable Entity"), (423, "Locked"),
  (424, "Failed Dependency"), (425, "Too Early"), (426, "Upgrade Required"),
  (428, "Precondition Required"), (429, "Too Many Requests"),
  (431, "Request Header Fields Too Large"), (451, "Unavailable For Legal Reasons"),
  (500, "Internal Server Error"), (501, "Not Implemented"), (502, "Bad Gateway"),
  (503, "Service Unavailable"), (504, "Gateway Timeout"),
  (505, "HTTP Version Not Supported"), (506, "Variant Also Negotiates"),
  (507, "Insufficient Storage"), (508, "Loop Detected"), (510, "Not Extended"),
  (511, "Network Authentication Required")]

/-- A status with its phrase. -/
def statusText (status : UInt16) : String :=
  toString status.toNat ++ " " ++
    (Entries.lookup? status.toNat statusPhrases).getD "<unknown status code>"

namespace Client

/-- An address without the slashes at its end. -/
def trimSlashes (url : String) : String :=
  String.ofList (url.toList.reverse.dropWhile (· == '/')).reverse

/-- Whether an address names one of the two protocols. -/
def isHttp (url : String) : Bool :=
  "http://".toList.isPrefixOf url.toList || "https://".toList.isPrefixOf url.toList

/-- The client of the configured engine. -/
def ofSettings (settings : EngineSettings) : Except Fault Client :=
  let url := trimSlashes settings.url
  if isHttp url then
    .ok {
      url
      username := settings.username
      password := settings.password
      timeout := settings.requestTimeout
    }
  else .error (.invalidUrl settings.url)

/-- The credentials of a client as a header value. -/
def authorization (client : Client) : Option String :=
  client.username.map fun username =>
    "Basic " ++ Text.base64 (username ++ ":" ++ client.password.getD "")

/-- The request that searches an index. -/
def request
    (client : Client)
    (index : String)
    (body : Json) :
    Request where
  url := client.url ++ "/" ++ index ++ "/_search"
  authorization := client.authorization
  body := body

/-- The fault that a reply with a failure status reports. -/
def statusFault
    (index : String)
    (status : UInt16)
    (body : Option Json) :
    Fault :=
  match body.bind (fun body => body.get? "error") with
  | some error =>
      .status index status
        (((error.get? "type").bind Json.text?).getD "unknown")
        (((error.get? "reason").bind Json.text?).getD "")
        body
  | none => .status index status "unknown" (statusText status) body

/-- The value that the engine replied with. -/
def response
    (client : Client)
    (index : String) :
    Exchange → Except Fault Json
  | .timedOut => .error (.timeout index client.timeout)
  | .failed detail => .error (.transport index detail)
  | .replied status text =>
      let body := (Json.parse? text).map Json.normalize
      if 200 ≤ status ∧ status < 300 then
        match body with
        | some body => .ok body
        | none => .error (.transport index "error decoding response body")
      else .error (statusFault index status body)

/-- Send a body to an index over an exchange. -/
def search
    (client : Client)
    (exchange : Request → Exchange)
    (index : String)
    (body : Json) :
    Except Fault Json :=
  client.response index (exchange (client.request index body))

/-- Run a plan over an exchange. -/
def execute
    (client : Client)
    (exchange : Request → Exchange)
    (plan : Plan) :
    Except Error Answer :=
  match client.search exchange plan.index (Body.ofPlan plan).toJson with
  | .error fault => .error fault.toError
  | .ok value => (parseAnswer plan value).mapError fun fault =>
      (Fault.malformed plan.index fault).toError

end Client

end FacetSearch.Elastic
