import FacetSearch.Elastic.Client
import FacetSearch.Text.Ascii

namespace FacetSearch.Elastic.Http

/-!
# Requests on the wire

The bytes of a request and the reading of a reply.  Each exchange has a
connection of its own, which the other side closes behind its reply.
-/

/-- The place that a request is sent to. -/
structure Address where
  host : String
  /-- The number of the service on the host. -/
  service : UInt16
  isSecure : Bool
  /-- The path and the query, as they are sent. -/
  target : String
  deriving DecidableEq, Repr, Inhabited

/-- Cut a list behind the longest part without a stop. -/
def cutAt (isStop : Char → Bool) (chars : List Char) : List Char × List Char :=
  (chars.takeWhile fun c => !isStop c, chars.dropWhile fun c => !isStop c)

/-- A byte behind a percent sign. -/
def percentByte (byte : UInt8) : List Char :=
  let upper (value : Nat) : Char :=
    if value < 10 then Char.ofNat ('0'.toNat + value) else Char.ofNat ('A'.toNat + (value - 10))
  ['%', upper (byte.toNat / 16), upper (byte.toNat % 16)]

/-- Whether a character of a path or query is sent as it is. -/
def isPlain (c : Char) : Bool :=
  decide ('!' ≤ c ∧ c ≤ '~') &&
    !(c == '"' || c == '<' || c == '>' || c == '\x7b' || c == '\x7d' || c.toNat == 96)

/-- The form in which a path and query are sent. -/
def encodeTarget (chars : List Char) : String :=
  String.ofList (chars.flatMap fun c =>
    if isPlain c then [c] else c.toString.toUTF8.toList.flatMap percentByte)

/-- The service that a text names by number; an empty text stands for the usual one. -/
def service? (isSecure : Bool) (digits : List Char) : Option UInt16 :=
  if digits.isEmpty then some (if isSecure then 443 else 80)
  else if digits.all Text.isDigit && decide (Text.digitsValue digits < UInt16.size) then
    some (UInt16.ofNat (Text.digitsValue digits))
  else none

/-- A host and a service; a host in brackets may hold colons. -/
def hostAndService? (isSecure : Bool) (authority : List Char) : Option (String × UInt16) :=
  let (host, rest) :=
    match authority with
    | '[' :: inner =>
        let (host, rest) := cutAt (· == ']') inner
        (host, rest.drop 1)
    | chars => cutAt (· == ':') chars
  if host.isEmpty then none
  else
    match rest with
    | [] => (service? isSecure []).map (String.ofList host, ·)
    | ':' :: digits => (service? isSecure digits).map (String.ofList host, ·)
    | _ => none

/-- The address that the rest of a text behind its protocol names. -/
def ofRest? (isSecure : Bool) (rest : List Char) : Option Address := do
  let (authority, target) := cutAt (fun c => c == '/' || c == '?' || c == '#') rest
  let (host, service) ← hostAndService? isSecure
    (match (cutAt (· == '@') authority).2 with
      | _ :: host => host
      | [] => authority)
  let sent := (cutAt (· == '#') target).1
  some {
    host
    service
    isSecure
    target := encodeTarget (if sent.head? == some '/' then sent else '/' :: sent)
  }

/-- The address that a text names. -/
def Address.ofUrl? (url : String) : Option Address :=
  let chars := url.toList
  if "http://".toList.isPrefixOf chars then ofRest? false (chars.drop 7)
  else if "https://".toList.isPrefixOf chars then ofRest? true (chars.drop 8)
  else none

/-- The text of an address; the usual service is left out. -/
def Address.text (address : Address) : String :=
  let host := Text.lower address.host
  (if address.isSecure then "https://" else "http://") ++
    (if host.toList.contains ':' then "[" ++ host ++ "]" else host) ++
    (if address.service = (if address.isSecure then 443 else 80) then ""
      else ":" ++ toString address.service.toNat) ++
    address.target

/-- The exchange of a request that never arrives. -/
def unreachable (request : Request) : Exchange :=
  match Address.ofUrl? request.url with
  | none => .failed "builder error"
  | some address => .failed ("error sending request for url (" ++ address.text ++ ")")

/-- The text of a request. -/
def requestText (address : Address) (request : Request) : String :=
  let body := request.body.render
  "POST " ++ address.target ++ " HTTP/1.1\r\n" ++
    "host: " ++ address.host ++ ":" ++ toString address.service.toNat ++ "\r\n" ++
    "accept: */*\r\n" ++
    "content-type: application/json\r\n" ++
    "content-length: " ++ toString body.utf8ByteSize ++ "\r\n" ++
    (match request.authorization with
      | some value => "authorization: " ++ value ++ "\r\n"
      | none => "") ++
    "connection: close\r\n\r\n" ++ body

/-- Cut a list of bytes behind its first line, without the end of the line. -/
def cutLine : List UInt8 → Option (List UInt8 × List UInt8)
  | [] => none
  | 13 :: 10 :: rest => some ([], rest)
  | byte :: rest => (cutLine rest).map fun line => (byte :: line.1, line.2)

/-- The header lines up to an empty one, and what is behind them. -/
def cutHead : Nat → List UInt8 → Option (List (List UInt8) × List UInt8)
  | 0, _ => none
  | fuel + 1, bytes =>
      match cutLine bytes with
      | none => none
      | some ([], rest) => some ([], rest)
      | some (line, rest) =>
          (cutHead fuel rest).map fun head => (line :: head.1, head.2)

/-- Bytes as characters of the same numbers, in lower case. -/
def lowerText (bytes : List UInt8) : List Char :=
  bytes.map fun byte => Text.lowerAscii (Char.ofNat byte.toNat)

/-- The value of a header line. -/
def headerValue? (name : String) (lines : List (List UInt8)) : Option (List Char) :=
  lines.findSome? fun line =>
    let chars := lowerText line
    let start := name.toList ++ [':']
    if start.isPrefixOf chars then
      some ((chars.drop start.length).filter fun c => c != ' ' && c != '\t')
    else none

/-- The number that hexadecimal digits write. -/
def hexNumber? : List Char → Option Nat
  | [] => none
  | digits => digits.foldl
      (fun value c => do some ((← value) * 16 + (← Text.hexDigit? c)))
      (some 0)

/-- Join the chunks of a body. -/
def joinChunks : Nat → List UInt8 → Option (List UInt8)
  | 0, _ => none
  | fuel + 1, bytes => do
      let (line, rest) ← cutLine bytes
      let size ← hexNumber? (lowerText line |>.takeWhile fun c => (Text.hexDigit? c).isSome)
      if size = 0 then some []
      else if rest.length < size then none
      else
        let others ← joinChunks fuel ((rest.drop size).drop 2)
        some (rest.take size ++ others)

/-- The body behind a head; a body that breaks off is none. -/
def bodyOf? (head : List (List UInt8)) (rest : List UInt8) : Option (List UInt8) :=
  if headerValue? "transfer-encoding" head == some "chunked".toList then
    joinChunks (rest.length + 1) rest
  else
    match headerValue? "content-length" head with
    | none => some rest
    | some digits =>
        let size := Text.digitsValue digits
        if rest.length < size then none else some (rest.take size)

/-- The status that a first line names. -/
def statusOf? (line : List UInt8) : Option UInt16 :=
  let digits := ((lowerText line).dropWhile (· != ' ')).drop 1 |>.take 3
  if digits.length = 3 && digits.all Text.isDigit then
    some (UInt16.ofNat (Text.digitsValue digits))
  else none

/-- The outcome of an exchange whose reply is all of the given bytes. -/
def outcomeOf (bytes : List UInt8) : Exchange :=
  let reply := do
    let (line, rest) ← cutLine bytes
    let status ← statusOf? line
    let (head, rest) ← cutHead (rest.length + 1) rest
    let body ← bodyOf? head rest
    some (status, body)
  match reply with
  | none => .failed "error reading a response"
  | some (status, body) =>
      .replied status ((String.fromUTF8? body.toByteArray).getD "")

end FacetSearch.Elastic.Http
