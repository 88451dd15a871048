import WsdlTypes.Catalog
import WsdlTypes.CommandLine
import WsdlTypes.Config
import WsdlTypes.Config.Read
import WsdlTypes.Declaration
import WsdlTypes.Diagnostic
import WsdlTypes.DocumentReference
import WsdlTypes.Download
import WsdlTypes.ExpandedName
import WsdlTypes.Export
import WsdlTypes.File.Path
import WsdlTypes.File.Tree
import WsdlTypes.Inheritance
import WsdlTypes.Json
import WsdlTypes.Library
import WsdlTypes.Location
import WsdlTypes.Main
import WsdlTypes.Member
import WsdlTypes.Naming
import WsdlTypes.Operation
import WsdlTypes.Problem
import WsdlTypes.Proofs.Archive
import WsdlTypes.Proofs.Bases
import WsdlTypes.Proofs.Catalog
import WsdlTypes.Proofs.Declaration.Abridged
import WsdlTypes.Proofs.Declaration.Abridgement
import WsdlTypes.Proofs.Declaration.Annotations
import WsdlTypes.Proofs.Declaration.Attributes
import WsdlTypes.Proofs.Declaration.Condensed
import WsdlTypes.Proofs.Declaration.Derivation
import WsdlTypes.Proofs.Declaration.Enumeration
import WsdlTypes.Proofs.Declaration.Groups
import WsdlTypes.Proofs.Declaration.Inline
import WsdlTypes.Proofs.Declaration.Lines
import WsdlTypes.Proofs.Declaration.Members
import WsdlTypes.Proofs.Declaration.Particles
import WsdlTypes.Proofs.Declaration.Prefixes
import WsdlTypes.Proofs.Declaration.ValueName
import WsdlTypes.Proofs.DocumentReference
import WsdlTypes.Proofs.File.Path
import WsdlTypes.Proofs.File.Tree
import WsdlTypes.Proofs.Inheritance
import WsdlTypes.Proofs.Library
import WsdlTypes.Proofs.Lineage
import WsdlTypes.Proofs.Lines
import WsdlTypes.Proofs.Location
import WsdlTypes.Proofs.Lockstep.Declaration
import WsdlTypes.Proofs.Lockstep.Operations
import WsdlTypes.Proofs.Lockstep.Report
import WsdlTypes.Proofs.Lockstep.Session
import WsdlTypes.Proofs.Lockstep.Types
import WsdlTypes.Proofs.Names
import WsdlTypes.Proofs.Naming
import WsdlTypes.Proofs.Operations
import WsdlTypes.Proofs.Parameters
import WsdlTypes.Proofs.Parts
import WsdlTypes.Proofs.References
import WsdlTypes.Proofs.Relative
import WsdlTypes.Proofs.Repetition
import WsdlTypes.Proofs.Report
import WsdlTypes.Proofs.Rereading
import WsdlTypes.Proofs.Service
import WsdlTypes.Proofs.Session.Attributes
import WsdlTypes.Proofs.Session.Calls
import WsdlTypes.Proofs.Session.Checked
import WsdlTypes.Proofs.Session.Clean
import WsdlTypes.Proofs.Session.Counted
import WsdlTypes.Proofs.Session.Counterpart
import WsdlTypes.Proofs.Session.Dependencies
import WsdlTypes.Proofs.Session.Domain
import WsdlTypes.Proofs.Session.ElementReferences
import WsdlTypes.Proofs.Session.Entries
import WsdlTypes.Proofs.Session.Failures
import WsdlTypes.Proofs.Session.Frame
import WsdlTypes.Proofs.Session.Includes
import WsdlTypes.Proofs.Session.Members
import WsdlTypes.Proofs.Session.Merged
import WsdlTypes.Proofs.Session.Naming
import WsdlTypes.Proofs.Session.OneTree
import WsdlTypes.Proofs.Session.Order
import WsdlTypes.Proofs.Session.Orderly
import WsdlTypes.Proofs.Session.Permutation
import WsdlTypes.Proofs.Session.Prefixes
import WsdlTypes.Proofs.Session.Provenance
import WsdlTypes.Proofs.Session.Rereading
import WsdlTypes.Proofs.Session.Schemas
import WsdlTypes.Proofs.Session.Stages
import WsdlTypes.Proofs.Session.Value
import WsdlTypes.Proofs.Session.ValueName
import WsdlTypes.Proofs.Stages
import WsdlTypes.Proofs.Traversal.Attempts
import WsdlTypes.Proofs.Traversal.Broken
import WsdlTypes.Proofs.Traversal.Dependencies
import WsdlTypes.Proofs.Traversal.Heir
import WsdlTypes.Proofs.Traversal.Lead
import WsdlTypes.Proofs.Traversal.Move
import WsdlTypes.Proofs.Traversal.Order
import WsdlTypes.Proofs.Traversal.Origin
import WsdlTypes.Proofs.Traversal.Prefixes
import WsdlTypes.Proofs.Traversal.Traced
import WsdlTypes.Proofs.Url
import WsdlTypes.Proofs.Walk.Abridged
import WsdlTypes.Proofs.Walk.Alike
import WsdlTypes.Proofs.Walk.Declarations
import WsdlTypes.Proofs.Walk.Distinct
import WsdlTypes.Proofs.Walk.Domain
import WsdlTypes.Proofs.Walk.Entries
import WsdlTypes.Proofs.Walk.Growth
import WsdlTypes.Proofs.Walk.Lookup
import WsdlTypes.Proofs.Walk.Merged
import WsdlTypes.Proofs.Walk.Types
import WsdlTypes.Proofs.Walk.Value
import WsdlTypes.Proofs.Xml.Condensed
import WsdlTypes.Proofs.Xml.Models
import WsdlTypes.Proofs.Xml.Places
import WsdlTypes.Proofs.Xml.PrefixedText
import WsdlTypes.Proofs.Xml.Prefixes
import WsdlTypes.QName
import WsdlTypes.References
import WsdlTypes.Repetition
import WsdlTypes.Report
import WsdlTypes.ResolvedType
import WsdlTypes.Scalar
import WsdlTypes.Service
import WsdlTypes.Session
import WsdlTypes.SimpleType
import WsdlTypes.SortedMap
import WsdlTypes.Summary
import WsdlTypes.Text.Blank
import WsdlTypes.Text.CombiningClass
import WsdlTypes.Text.Composed
import WsdlTypes.Text.Count
import WsdlTypes.Text.Direction
import WsdlTypes.Text.Folding
import WsdlTypes.Text.Joining
import WsdlTypes.Text.Mark
import WsdlTypes.Text.Position
import WsdlTypes.Text.Printable
import WsdlTypes.Text.Quoted
import WsdlTypes.Text.Ranges
import WsdlTypes.Text.Scan
import WsdlTypes.Text.Split
import WsdlTypes.Text.Utf8
import WsdlTypes.Text.Word
import WsdlTypes.Toml.Document
import WsdlTypes.Toml.Number
import WsdlTypes.Toml.Table
import WsdlTypes.Toml.Value
import WsdlTypes.Traversal
import WsdlTypes.TypeDescriptor
import WsdlTypes.TypeName
import WsdlTypes.Unvisited
import WsdlTypes.Url.Address
import WsdlTypes.Url.Basic
import WsdlTypes.Url.Domain
import WsdlTypes.Url.Host
import WsdlTypes.Url.Parse
import WsdlTypes.Url.Path
import WsdlTypes.Url.Percent
import WsdlTypes.Url.Punycode
import WsdlTypes.Walk
import WsdlTypes.Xml.Document
import WsdlTypes.Xml.Element
import WsdlTypes.Xml.Error
import WsdlTypes.Xml.Name
import WsdlTypes.Xml.Reference
import WsdlTypes.Xml.Scan
import WsdlTypes.Xml.Token
