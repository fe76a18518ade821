import CratePlan.ApiDocument
import CratePlan.CaseStyle
import CratePlan.CommandLine
import CratePlan.CommandLine.Help
import CratePlan.Endpoint.Graph
import CratePlan.Endpoint.Segment
import CratePlan.Endpoint.Trait
import CratePlan.Endpoint.Tree
import CratePlan.Endpoint.Walk
import CratePlan.Error
import CratePlan.FileTree
import CratePlan.Identifier
import CratePlan.Json.Basic
import CratePlan.Json.Binary
import CratePlan.Json.Writer
import CratePlan.Keyword
import CratePlan.Main
import CratePlan.Model
import CratePlan.ModulePath
import CratePlan.Pattern.Basic
import CratePlan.Pattern.Boundary
import CratePlan.Pattern.CharSet
import CratePlan.Pattern.Class
import CratePlan.Pattern.Escape
import CratePlan.Pattern.Flags
import CratePlan.Pattern.Machine
import CratePlan.Pattern.Match
import CratePlan.Pattern.Property
import CratePlan.Pattern.Reader
import CratePlan.Pattern.Room
import CratePlan.Plan
import CratePlan.Proofs.Declaration
import CratePlan.Proofs.Endpoint.Acceptance
import CratePlan.Proofs.Endpoint.Forest
import CratePlan.Proofs.Endpoint.Growth
import CratePlan.Proofs.Endpoint.History
import CratePlan.Proofs.Endpoint.Inference
import CratePlan.Proofs.Endpoint.Naming
import CratePlan.Proofs.Endpoint.Normalization
import CratePlan.Proofs.Endpoint.PathOrder
import CratePlan.Proofs.Endpoint.Preorder
import CratePlan.Proofs.Endpoint.Projection
import CratePlan.Proofs.Endpoint.Reachability
import CratePlan.Proofs.Endpoint.SegmentName
import CratePlan.Proofs.Endpoint.Settling
import CratePlan.Proofs.Endpoint.SimplePath
import CratePlan.Proofs.Endpoint.TraitModule
import CratePlan.Proofs.Endpoint.UniqueWalk
import CratePlan.Proofs.LegalName
import CratePlan.Proofs.Lowercase
import CratePlan.Proofs.ModuleName
import CratePlan.Proofs.NamedSchemas
import CratePlan.Proofs.Outcome
import CratePlan.Proofs.PathDisplay
import CratePlan.Proofs.Pattern.Accepts
import CratePlan.Proofs.Pattern.Found
import CratePlan.Proofs.Pattern.Groups
import CratePlan.Proofs.Pattern.Search
import CratePlan.Proofs.Pattern.Spans
import CratePlan.Proofs.Pattern.Ways
import CratePlan.Proofs.Plan.Announcement
import CratePlan.Proofs.Plan.Declarations
import CratePlan.Proofs.Plan.DocumentOrder
import CratePlan.Proofs.Plan.LegalNames
import CratePlan.Proofs.Plan.Listing
import CratePlan.Proofs.Plan.ModuleClash
import CratePlan.Proofs.Plan.RefusedNames
import CratePlan.Proofs.Plan.SchemaListing
import CratePlan.Proofs.Plan.Success
import CratePlan.Proofs.Plan.Traits
import CratePlan.Proofs.Plan.Visibility
import CratePlan.Proofs.Registration
import CratePlan.Proofs.Renaming
import CratePlan.Proofs.Respelling
import CratePlan.Proofs.Schema.Agreement
import CratePlan.Proofs.Schema.CanonicalType
import CratePlan.Proofs.Schema.Decomposition
import CratePlan.Proofs.Schema.Models
import CratePlan.Proofs.Schema.NameTexts
import CratePlan.Proofs.Schema.Placement
import CratePlan.Proofs.Schema.Shape
import CratePlan.Proofs.Schema.ShapePattern
import CratePlan.Proofs.Schema.TypeNames
import CratePlan.Proofs.Submodules
import CratePlan.Proofs.TableEntries
import CratePlan.Proofs.TypeSpelling
import CratePlan.Proofs.WordCuts
import CratePlan.Proofs.WordDisplay
import CratePlan.Proofs.Words
import CratePlan.Registry
import CratePlan.Schema.Basic
import CratePlan.Schema.Convention
import CratePlan.Schema.Name
import CratePlan.Schema.Resolver
import CratePlan.Settings
import CratePlan.Table
import CratePlan.Text.Age
import CratePlan.Text.Alphabetic
import CratePlan.Text.Blank
import CratePlan.Text.ByteRows
import CratePlan.Text.CaseOrbit
import CratePlan.Text.Category
import CratePlan.Text.Category.Letter
import CratePlan.Text.Category.Mark
import CratePlan.Text.Category.Sign
import CratePlan.Text.CodeRanges
import CratePlan.Text.Letters
import CratePlan.Text.Lowercase
import CratePlan.Text.Property
import CratePlan.Text.Script
import CratePlan.Text.Segment
import CratePlan.Text.WordCharacter
import CratePlan.Words
import CratePlan.Yaml.Atom
import CratePlan.Yaml.Content
import CratePlan.Yaml.Cursor
import CratePlan.Yaml.Input
import CratePlan.Yaml.Node
import CratePlan.Yaml.Tag
import CratePlan.Yaml.Token
import CratePlan.Yaml.Token.Property
import CratePlan.Yaml.Token.Scalar
import CratePlan.Yaml.Token.Stream
import CratePlan.Yaml.Writer
