import CloudTemplate.Catalog.Bounds
import CloudTemplate.Catalog.Defaults
import CloudTemplate.Catalog.Ingress
import CloudTemplate.Catalog.Pattern
import CloudTemplate.Catalog.ResourceType
import CloudTemplate.Catalog.Rule
import CloudTemplate.Catalog.Spec
import CloudTemplate.CommandLine.Arguments
import CloudTemplate.CommandLine.Invocation
import CloudTemplate.CommandLine.Stamp
import CloudTemplate.Dependency.Cycles
import CloudTemplate.Dependency.Graph
import CloudTemplate.Digest.Sha256
import CloudTemplate.Distinct
import CloudTemplate.Document.Decode
import CloudTemplate.Document.Failure
import CloudTemplate.Fingerprint
import CloudTemplate.Generation.Emission
import CloudTemplate.Generation.Generate
import CloudTemplate.Generation.RoleName
import CloudTemplate.Generation.Surroundings
import CloudTemplate.Graph.Basic
import CloudTemplate.Graph.Document
import CloudTemplate.Json.Basic
import CloudTemplate.Json.Canonical
import CloudTemplate.Json.Outline
import CloudTemplate.Json.Printer
import CloudTemplate.Json.Problem
import CloudTemplate.Json.Token
import CloudTemplate.Main
import CloudTemplate.Number.Binary64
import CloudTemplate.Number.Decimal
import CloudTemplate.Number.Layout
import CloudTemplate.Number.Numeral
import CloudTemplate.Number.Shortest
import CloudTemplate.Pipeline
import CloudTemplate.Proofs.Catalog.AddressBlock
import CloudTemplate.Proofs.Catalog.Bounds
import CloudTemplate.Proofs.Catalog.BucketName
import CloudTemplate.Proofs.Catalog.Intrinsic
import CloudTemplate.Proofs.Dependency.Apart
import CloudTemplate.Proofs.Dependency.Circle
import CloudTemplate.Proofs.Dependency.Extension
import CloudTemplate.Proofs.Dependency.Limit
import CloudTemplate.Proofs.Dependency.Names
import CloudTemplate.Proofs.Dependency.Order
import CloudTemplate.Proofs.Dependency.Reported
import CloudTemplate.Proofs.Dependency.Search
import CloudTemplate.Proofs.Dependency.Tally
import CloudTemplate.Proofs.Document.Decode
import CloudTemplate.Proofs.Document.Depth
import CloudTemplate.Proofs.Fingerprint
import CloudTemplate.Proofs.Generation.Acceptance
import CloudTemplate.Proofs.Generation.Bounded
import CloudTemplate.Proofs.Generation.Coherent
import CloudTemplate.Proofs.Generation.Conformance
import CloudTemplate.Proofs.Generation.Content
import CloudTemplate.Proofs.Generation.Dependencies
import CloudTemplate.Proofs.Generation.Drawn
import CloudTemplate.Proofs.Generation.Entries
import CloudTemplate.Proofs.Generation.Findings
import CloudTemplate.Proofs.Generation.Insertion
import CloudTemplate.Proofs.Generation.Latest
import CloudTemplate.Proofs.Generation.Legible
import CloudTemplate.Proofs.Generation.Lookup
import CloudTemplate.Proofs.Generation.Network
import CloudTemplate.Proofs.Generation.NodeOrder
import CloudTemplate.Proofs.Generation.NullAttribute
import CloudTemplate.Proofs.Generation.Outputs
import CloudTemplate.Proofs.Generation.ReadBack
import CloudTemplate.Proofs.Generation.Replaced
import CloudTemplate.Proofs.Generation.RoleIds
import CloudTemplate.Proofs.Generation.RoleName
import CloudTemplate.Proofs.Generation.RoleSearch
import CloudTemplate.Proofs.Generation.Uses
import CloudTemplate.Proofs.Graph.RoundTrip
import CloudTemplate.Proofs.Json.Basic
import CloudTemplate.Proofs.Json.Canonical
import CloudTemplate.Proofs.Json.Lexemes
import CloudTemplate.Proofs.Json.Literal
import CloudTemplate.Proofs.Json.Shown
import CloudTemplate.Proofs.Json.Suffix
import CloudTemplate.Proofs.Number.Decimal
import CloudTemplate.Proofs.Number.Numeral
import CloudTemplate.Proofs.Number.Ratio
import CloudTemplate.Proofs.Number.Whole
import CloudTemplate.Proofs.Reference.Limit
import CloudTemplate.Proofs.Reference.Mentions
import CloudTemplate.Proofs.Reference.Placeholder
import CloudTemplate.Proofs.Reference.Traversal
import CloudTemplate.Proofs.Reference.Within
import CloudTemplate.Proofs.Reference.Work
import CloudTemplate.Proofs.Reordering.Catalog
import CloudTemplate.Proofs.Reordering.Entries
import CloudTemplate.Proofs.Reordering.Report
import CloudTemplate.Proofs.Reordering.Scan
import CloudTemplate.Proofs.Reordering.Value
import CloudTemplate.Proofs.Table
import CloudTemplate.Proofs.Template.Depth
import CloudTemplate.Proofs.Template.Resource
import CloudTemplate.Proofs.Template.RoundTrip
import CloudTemplate.Proofs.Template.WellNamed
import CloudTemplate.Proofs.Text.Ascii
import CloudTemplate.Proofs.Text.Blank
import CloudTemplate.Proofs.Text.Split
import CloudTemplate.Proofs.Validation.About
import CloudTemplate.Proofs.Validation.Addition
import CloudTemplate.Proofs.Validation.Exposure
import CloudTemplate.Proofs.Validation.Policy
import CloudTemplate.Proofs.Validation.Report
import CloudTemplate.Proofs.Validation.Unresolved
import CloudTemplate.Proofs.Validation.Verdict
import CloudTemplate.Proofs.Value.Basic
import CloudTemplate.Proofs.Value.Expansion
import CloudTemplate.Proofs.Value.Reading
import CloudTemplate.Proofs.Value.Replacement
import CloudTemplate.Proofs.Value.Whole
import CloudTemplate.Reference.Basic
import CloudTemplate.Reference.Placeholder
import CloudTemplate.Reference.Scan
import CloudTemplate.Reference.Traversal
import CloudTemplate.Session
import CloudTemplate.Table
import CloudTemplate.Template.Basic
import CloudTemplate.Template.Document
import CloudTemplate.Text.Ascii
import CloudTemplate.Text.Blank
import CloudTemplate.Text.DecimalDigit
import CloudTemplate.Text.Hidden
import CloudTemplate.Text.Quoted
import CloudTemplate.Validation.BestPractices
import CloudTemplate.Validation.Code
import CloudTemplate.Validation.Finding
import CloudTemplate.Validation.Policy
import CloudTemplate.Validation.Properties
import CloudTemplate.Validation.Structure
import CloudTemplate.Validation.Validate
import CloudTemplate.Value.Basic
