import FacetSearch.Clause.Basic
import FacetSearch.Clause.Meaning
import FacetSearch.Clause.Scope
import FacetSearch.Clause.Shape
import FacetSearch.CommandLine.Help
import FacetSearch.CommandLine.Options
import FacetSearch.CommandLine.Rehearsal
import FacetSearch.CommandLine.Run
import FacetSearch.Elastic.Aggregation
import FacetSearch.Elastic.Body
import FacetSearch.Elastic.Client
import FacetSearch.Elastic.Fault
import FacetSearch.Elastic.Http
import FacetSearch.Elastic.Meaning
import FacetSearch.Elastic.Outline
import FacetSearch.Elastic.Query
import FacetSearch.Elastic.Reply
import FacetSearch.Encoding
import FacetSearch.Engine.Answer
import FacetSearch.Entries
import FacetSearch.Error
import FacetSearch.Facet.Planner
import FacetSearch.Facet.Result
import FacetSearch.Facet.Spec
import FacetSearch.Files.Access
import FacetSearch.Files.DocumentTypes
import FacetSearch.Files.Memory
import FacetSearch.Indexed
import FacetSearch.Json.Basic
import FacetSearch.Json.Parser
import FacetSearch.Json.Printer
import FacetSearch.Json.Scalar
import FacetSearch.Json.Skip
import FacetSearch.Main
import FacetSearch.Number.Binary64
import FacetSearch.Number.Numeral
import FacetSearch.Number.Shortest
import FacetSearch.Plan
import FacetSearch.Record.Decoder
import FacetSearch.Record.Extract
import FacetSearch.Schema.DocumentType
import FacetSearch.Schema.FieldType
import FacetSearch.Schema.Lint
import FacetSearch.Schema.Path
import FacetSearch.Schema.Registry
import FacetSearch.Search.Page
import FacetSearch.Search.Request
import FacetSearch.Search.Response
import FacetSearch.Search.Service
import FacetSearch.Settings.Basic
import FacetSearch.Settings.File
import FacetSearch.Settings.Home
import FacetSearch.Sqon.Basic
import FacetSearch.Sqon.Compile
import FacetSearch.Sqon.Reader
import FacetSearch.Store.Basic
import FacetSearch.Store.History
import FacetSearch.Store.Key
import FacetSearch.Store.Subscription
import FacetSearch.Text.Ascii
import FacetSearch.Text.Base64
import FacetSearch.Text.Blank
import FacetSearch.Text.Quoted
import FacetSearch.Text.Visible
import FacetSearch.Text.Wildcard
import FacetSearch.Toml.Basic
import FacetSearch.Toml.Document
import FacetSearch.Toml.Number
import FacetSearch.Toml.Parser
import FacetSearch.Toml.Printer
import FacetSearch.Toml.Text
import FacetSearch.Yaml.Basic
import FacetSearch.Yaml.Cursor
import FacetSearch.Yaml.Expansion
import FacetSearch.Yaml.Layout
import FacetSearch.Yaml.Node
import FacetSearch.Yaml.Scalar
import FacetSearch.Yaml.Tag
import FacetSearch.Yaml.Token
import FacetSearch.Yaml.Tree
import FacetSearch.Proofs.Entries
import FacetSearch.Proofs.Encoding
import FacetSearch.Proofs.Json.Normal
import FacetSearch.Proofs.Clause.Connectives
import FacetSearch.Proofs.Elastic.Outline
import FacetSearch.Proofs.Elastic.Meaning
import FacetSearch.Proofs.Clause.Forest
import FacetSearch.Proofs.Clause.SharedObjects
import FacetSearch.Proofs.Schema.CommonChain
import FacetSearch.Proofs.Clause.Alternatives
import FacetSearch.Proofs.Clause.Widening
import FacetSearch.Proofs.Clause.Loosening
import FacetSearch.Proofs.Sqon.LeafOutcome
import FacetSearch.Proofs.Sqon.Outcome
import FacetSearch.Proofs.Sqon.Joining
import FacetSearch.Proofs.Schema.Ancestors
import FacetSearch.Proofs.Sqon.Scoping
import FacetSearch.Proofs.Sqon.Connectives
import FacetSearch.Proofs.Sqon.Frames
import FacetSearch.Proofs.Sqon.EmptyConjunction
import FacetSearch.Proofs.Sqon.Pruning
import FacetSearch.Proofs.Sqon.LeafFault
import FacetSearch.Proofs.Sqon.FirstFault
import FacetSearch.Proofs.Sqon.Reading
import FacetSearch.Proofs.Facet.Planning
import FacetSearch.Proofs.Facet.Blindness
import FacetSearch.Proofs.Facet.Exclusion
import FacetSearch.Proofs.Elastic.Mirror
import FacetSearch.Proofs.Elastic.Agreement
import FacetSearch.Proofs.Sqon.Spelling
import FacetSearch.Proofs.Indexed
import FacetSearch.Proofs.Sqon.Rejection
import FacetSearch.Proofs.Sqon.RoundTrip
import FacetSearch.Proofs.Store.Contents
import FacetSearch.Proofs.Store.Replacement
import FacetSearch.Proofs.Store.Subscription
import FacetSearch.Proofs.Store.Polling
import FacetSearch.Proofs.Facet.Collecting
import FacetSearch.Proofs.Record.Decoding
import FacetSearch.Proofs.Search.Execution
import FacetSearch.Proofs.Sqon.Derived
import FacetSearch.Proofs.Json.Written
import FacetSearch.Proofs.Search.Inputs
import FacetSearch.Proofs.Sqon.Conditions
import FacetSearch.Proofs.Elastic.WrittenBodies
import FacetSearch.Proofs.Search.Responses
import FacetSearch.Proofs.Sqon.NormalForm
import FacetSearch.Proofs.Clause.Inventory
import FacetSearch.Proofs.Sqon.Conservation
import FacetSearch.Proofs.Sqon.ScopeSharing
import FacetSearch.Proofs.Facet.RangePartition
import FacetSearch.Proofs.Text.Wildcard
import FacetSearch.Proofs.Sqon.ContainedTexts
import FacetSearch.Proofs.Record.Extraction
import FacetSearch.Proofs.Sqon.PrunedLeaves
import FacetSearch.Proofs.Facet.Independence
import FacetSearch.Proofs.Facet.BucketOrder
import FacetSearch.Proofs.Schema.Lookup
import FacetSearch.Proofs.Schema.Indexing
import FacetSearch.Proofs.Search.SortKeys
import FacetSearch.Proofs.Search.DocumentOrder
import FacetSearch.Proofs.Search.DefaultRequests
import FacetSearch.Proofs.Search.SortableKeys
import FacetSearch.Proofs.Schema.Lint
import FacetSearch.Proofs.Number.Numeral
import FacetSearch.Proofs.Sqon.ComparedValues
import FacetSearch.Proofs.Facet.OpenBounds
