import FacetSearch.Error

namespace FacetSearch.Elastic

/-!
# Faults of the engine connection

What can go wrong between sending a request to the engine and having its
answer, and how a search reports it.
-/

/-- A failed exchange with the engine. -/
inductive Fault where
  | timeout (index : String) (millis : UInt64)
  | status (index : String) (status : UInt16) (type reason : String) (body : Option Json)
  | transport (index detail : String)
  | malformed (index : String) (fault : ReplyFault)
  | invalidUrl (url : String)
  deriving DecidableEq, Repr

namespace Fault

/-- The type of a fault in the engine's own terms. -/
def type : Fault → String
  | .timeout .. => "timeout_exception"
  | .status _ _ kind _ _ => kind
  | .transport .. => "transport_exception"
  | .malformed .. => "parse_exception"
  | .invalidUrl .. => "illegal_argument_exception"

/-- The status of a reply that reports a fault. -/
def status? : Fault → Option UInt16
  | .status _ code _ _ _ => some code
  | _ => none

/-- The wording of a fault. -/
def message : Fault → String
  | .timeout index millis =>
      "Request to index '" ++ index ++ "' timed out after " ++ toString millis.toNat ++ "ms"
  | .status index code kind reason _ =>
      "Elasticsearch returned " ++ toString code.toNat ++ " for index '" ++ index ++ "': " ++
        (Rejection.reported kind reason).message
  | .transport index detail => (Rejection.transport index detail).message
  | .malformed index fault => (Rejection.malformed index fault).message
  | .invalidUrl url => "Invalid engine URL: " ++ url

/-- The error that a search reports for a fault. -/
def toError : Fault → Error
  | .timeout index millis => .engineTimeout index millis
  | .status index code kind reason body =>
      .engineRejected index (some code) (.reported kind reason) body
  | .transport index detail => .engineRejected index none (.transport index detail) none
  | .malformed index fault => .engineRejected index none (.malformed index fault) none
  | .invalidUrl url => .config (.invalidUrl url)

end Fault

end FacetSearch.Elastic
