import FacetSearch.Json.Printer
import FacetSearch.Schema.FieldType
import FacetSearch.Sqon.Basic

namespace FacetSearch

/-!
# Errors

Every failure is a cause.  What a caller sees of it — a kind, a message and,
for a fault in a request, the place of the offending part — is computed from
the cause.
-/

/-- A place in a request. -/
inductive Location where
  /-- A node of the filter tree, by the child positions that lead to it. -/
  | node (steps : List Nat)
  /-- An entry of a list of the request. -/
  | entry (list : String) (position : Nat)
  deriving DecidableEq, Repr, Inhabited

namespace Location

/-- The root of the filter tree. -/
def root : Location := .node []

/-- The place of a child. -/
def child : Location → Nat → Location
  | .node steps, position => .node (steps ++ [position])
  | .entry list _, position => .entry list position

/-- The text of a place. -/
def text : Location → String
  | .node steps =>
      steps.foldl (fun text step => text ++ ".content[" ++ toString step ++ "]") "sqon"
  | .entry list position => list ++ "[" ++ toString position ++ "]"

end Location

/-- What is wrong with a filter tree. -/
inductive SqonFault where
  | tooDeep (limit : Nat)
  | notAnObject
  | missingOp
  | opNotString
  | contentNotArray (op : Combinator)
  | contentNotObject (op : String)
  | missingField (op : String)
  | fieldNotString
  | missingValue (op : String)
  | operandCount (count : Nat)
  | noValues (op : Operator)
  | betweenShape
  | betweenUnbounded
  | containsNotString
  | badValue (value : Json) (type : FieldType) (field : String)
  deriving DecidableEq, Repr

/-- The wording of a fault in a filter tree. -/
def SqonFault.message : SqonFault → String
  | .tooDeep limit => "nesting exceeds maximum depth of " ++ toString limit
  | .notAnObject => "expected an object"
  | .missingOp => "missing 'op'"
  | .opNotString => "'op' must be a string"
  | .contentNotArray op => "'" ++ op.name ++ "' content must be an array"
  | .contentNotObject op => "'" ++ op ++ "' content must be an object"
  | .missingField op => "'" ++ op ++ "' requires a field name"
  | .fieldNotString => "field name must be a string"
  | .missingValue op => "'" ++ op ++ "' requires a value"
  | .operandCount count => "'not' takes exactly one operand, got " ++ toString count
  | .noValues op => "'" ++ op.name ++ "' requires at least one value"
  | .betweenShape => "'between' value must be \x7bfrom, to\x7d or a two-element array"
  | .betweenUnbounded => "'between' needs at least one of 'from' and 'to'"
  | .containsNotString => "'contains' value must be a string"
  | .badValue value type field =>
      "value " ++ value.render ++ " is not a valid " ++ type.name ++
        " for field '" ++ field ++ "'"

/-- What a field is used for. -/
inductive Usage where
  | filter (op : Operator)
  | terms
  | range
  | stats
  | sort
  deriving DecidableEq, Repr

/-- The name of a use, as reported. -/
def Usage.name : Usage → String
  | .filter op => op.name
  | .terms => "terms"
  | .range => "range"
  | .stats => "stats"
  | .sort => "sort"

/-- What is wrong with a requested facet. -/
inductive FacetFault where
  | repeated
  | noRanges
  | termsSize (limit requested : Nat)
  deriving DecidableEq, Repr

/-- The wording of a fault in a facet. -/
def FacetFault.message : FacetFault → String
  | .repeated => "facet requested more than once"
  | .noRanges => "range facet needs at least one range"
  | .termsSize limit requested =>
      "terms size must be between 1 and " ++ toString limit ++ ", got " ++ toString requested

/-- What is wrong with a requested page. -/
inductive PageFault where
  | negativeFirst (first : Int)
  | negativeOffset (offset : Int)
  | firstTooLarge (first limit : Nat)
  | windowTooLarge (offset first limit : Nat)
  deriving DecidableEq, Repr

/-- The wording of a fault in a page. -/
def PageFault.message : PageFault → String
  | .negativeFirst first => "'first' must not be negative, got " ++ toString first
  | .negativeOffset offset => "'offset' must not be negative, got " ++ toString offset
  | .firstTooLarge first limit =>
      "'first' of " ++ toString first ++ " exceeds the maximum page size of " ++ toString limit
  | .windowTooLarge offset first limit =>
      "offset " ++ toString offset ++ " + first " ++ toString first ++
        " exceeds the result window of " ++ toString limit

/-- What is wrong with the configuration. -/
inductive ConfigFault where
  | blankField (type : String)
  | repeatedField (type field : String)
  | sharedPath (type first second path : String)
  | repeatedType (project name : String)
  | missingDirectory (path : String)
  | invalidUrl (url : String)
  | unavailable (reason : String)
  deriving DecidableEq, Repr

/-- The wording of a fault in the configuration. -/
def ConfigFault.message : ConfigFault → String
  | .blankField type => "document type '" ++ type ++ "' has a field with an empty name"
  | .repeatedField type field =>
      "document type '" ++ type ++ "' declares field '" ++ field ++ "' more than once"
  | .sharedPath type first second path =>
      "document type '" ++ type ++ "': fields '" ++ first ++ "' and '" ++ second ++
        "' share path '" ++ path ++ "'"
  | .repeatedType project name => "document type " ++ project ++ "/" ++ name ++ " defined twice"
  | .missingDirectory path => "Projects directory does not exist: " ++ path
  | .invalidUrl url => "Invalid engine URL: " ++ url
  | .unavailable reason => reason

/-- What is wrong with a reply of the engine. -/
inductive ReplyFault where
  | unreadable (detail : String)
  | missingFacet (facet : String)
  | emptyFacet (facet : String)
  | unreadableFacet (facet detail : String)
  deriving DecidableEq, Repr

/-- The wording of a fault in a reply. -/
def ReplyFault.message : ReplyFault → String
  | .unreadable detail => detail
  | .missingFacet facet => "missing aggregation '" ++ facet ++ "'"
  | .emptyFacet facet => "aggregation '" ++ facet ++ "': no buckets or stats found"
  | .unreadableFacet facet detail => "aggregation '" ++ facet ++ "': " ++ detail

/-- What keeps an answer from fitting the plan. -/
inductive AnswerFault where
  | missingFacet (facet : String)
  | bucketCount (facet : String) (expected actual : Nat)
  | wrongShape (facet : String)
  deriving DecidableEq, Repr

/-- The wording of an answer that does not fit. -/
def AnswerFault.message : AnswerFault → String
  | .missingFacet facet => "missing aggregation '" ++ facet ++ "'"
  | .bucketCount facet expected actual =>
      "facet '" ++ facet ++ "' expected " ++ toString expected ++ " range buckets, got " ++
        toString actual
  | .wrongShape facet => "aggregation '" ++ facet ++ "' has an unexpected shape"

/-- Why the engine did not answer a query. -/
inductive Rejection where
  | reported (type reason : String)
  | transport (index detail : String)
  | malformed (index : String) (fault : ReplyFault)
  | mismatch (fault : AnswerFault)
  | unexplained (reason : String)
  deriving DecidableEq, Repr

/-- The wording of a rejection. -/
def Rejection.message : Rejection → String
  | .reported type reason => type ++ ": " ++ reason
  | .transport index detail => "Transport error for index '" ++ index ++ "': " ++ detail
  | .malformed index fault =>
      "Malformed response from index '" ++ index ++ "': " ++ fault.message
  | .mismatch fault => fault.message
  | .unexplained reason => reason

/-- A failed access to a file. -/
inductive FileFault where
  | notFound
  | notADirectory
  | isADirectory
  | notText
  | other (detail : String)
  deriving DecidableEq, Repr

/-- The wording of a failed access. -/
def FileFault.message : FileFault → String
  | .notFound => "No such file or directory (os error 2)"
  | .notADirectory => "Not a directory (os error 20)"
  | .isADirectory => "Is a directory (os error 21)"
  | .notText => "stream did not contain valid UTF-8"
  | .other detail => detail

/-- Every way in which a search, or the set-up for one, can fail. -/
inductive Error where
  | unknownField (field : String) (place : Location)
  | invalidSqon (fault : SqonFault) (place : Location)
  | unsupportedOperator (op : String) (place : Location)
  | typeMismatch (usage : Usage) (field : String) (type : FieldType) (place : Location)
  | invalidFacet (facet : String) (fault : FacetFault)
  | invalidPage (fault : PageFault)
  | engineTimeout (index : String) (millis : UInt64)
  | engineRejected
      (index : String) (status : Option UInt16) (reason : Rejection) (detail : Option Json)
  | documentTypeNotFound (project name : String)
  | config (fault : ConfigFault)
  | file (fault : FileFault)
  | yaml (detail : String)
  | json (detail : String)
  deriving DecidableEq, Repr

namespace Error

/-- A stable label for the kind of an error. -/
def kind : Error → String
  | .unknownField .. => "unknown_field"
  | .invalidSqon .. => "invalid_sqon"
  | .unsupportedOperator .. => "unsupported_operator"
  | .typeMismatch .. => "type_mismatch"
  | .invalidFacet .. => "invalid_aggregation"
  | .invalidPage .. => "invalid_pagination"
  | .engineTimeout .. => "engine_timeout"
  | .engineRejected .. => "engine_query"
  | .documentTypeNotFound .. => "document_type_not_found"
  | .config .. => "config"
  | .file .. => "io"
  | .yaml .. => "yaml"
  | .json .. => "json"

/-- The wording of an error. -/
def message : Error → String
  | .unknownField field place => "Unknown field '" ++ field ++ "' at " ++ place.text
  | .invalidSqon fault place => "Invalid SQON at " ++ place.text ++ ": " ++ fault.message
  | .unsupportedOperator op place => "Unsupported operator '" ++ op ++ "' at " ++ place.text
  | .typeMismatch usage field type place =>
      "Operator '" ++ usage.name ++ "' cannot be applied to field '" ++ field ++
        "' of type " ++ type.name ++ " at " ++ place.text
  | .invalidFacet facet fault =>
      "Invalid aggregation for facet '" ++ facet ++ "': " ++ fault.message
  | .invalidPage fault => "Invalid pagination: " ++ fault.message
  | .engineTimeout index millis =>
      "Search engine timed out after " ++ toString millis.toNat ++ "ms querying index '" ++
        index ++ "'"
  | .engineRejected index _ reason _ =>
      "Search engine rejected query on index '" ++ index ++ "': " ++ reason.message
  | .documentTypeNotFound project name => "Document type not found: " ++ project ++ "/" ++ name
  | .config fault => "Config error: " ++ fault.message
  | .file fault => "IO error: " ++ fault.message
  | .yaml detail => "YAML error: " ++ detail
  | .json detail => "JSON error: " ++ detail

/-- The place of the offending part of a request. -/
def place? : Error → Option Location
  | .unknownField _ place => some place
  | .invalidSqon _ place => some place
  | .unsupportedOperator _ place => some place
  | .typeMismatch _ _ _ place => some place
  | _ => none

/-- Whether an error arises before anything reaches the engine. -/
def isCompileError : Error → Bool
  | .unknownField .. => true
  | .invalidSqon .. => true
  | .unsupportedOperator .. => true
  | .typeMismatch .. => true
  | .invalidFacet .. => true
  | .invalidPage .. => true
  | _ => false

end Error

end FacetSearch
