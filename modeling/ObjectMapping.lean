import ObjectMapping.Access
import ObjectMapping.Access.Ownership
import ObjectMapping.Access.Primitive
import ObjectMapping.Adapter
import ObjectMapping.Catalogue.Adapters
import ObjectMapping.Catalogue.Types
import ObjectMapping.Error
import ObjectMapping.Factory
import ObjectMapping.Float.Arith
import ObjectMapping.Float.Binary
import ObjectMapping.Float.Parse
import ObjectMapping.Float.Shortest
import ObjectMapping.Float.Text
import ObjectMapping.Format.Json
import ObjectMapping.Format.Trace
import ObjectMapping.Hashing
import ObjectMapping.Json.Error
import ObjectMapping.Json.Reader
import ObjectMapping.Json.Tree
import ObjectMapping.Kind
import ObjectMapping.Manifest.CratePath
import ObjectMapping.Mapper.Read
import ObjectMapping.Mapper.Write
import ObjectMapping.Record.Attributes
import ObjectMapping.Record.Basic
import ObjectMapping.Record.Generate
import ObjectMapping.Schema.Basic
import ObjectMapping.Schema.Descriptor
import ObjectMapping.Schema.Layout
import ObjectMapping.Service.Codec
import ObjectMapping.Service.Describe
import ObjectMapping.Service.Dispatch
import ObjectMapping.Service.Generation
import ObjectMapping.Service.Inspect
import ObjectMapping.Service.Mapping
import ObjectMapping.Service.Session
import ObjectMapping.Service.Setup
import ObjectMapping.Service.Strategies
import ObjectMapping.Service.Utilities
import ObjectMapping.Storage
import ObjectMapping.Syntax.Declaration
import ObjectMapping.Syntax.Grammar
import ObjectMapping.Syntax.Parser
import ObjectMapping.Text.Identifier
import ObjectMapping.Text.Integer
import ObjectMapping.Text.Quote
import ObjectMapping.Text.Unicode
import ObjectMapping.Tokens.Lexer
import ObjectMapping.Tokens.Tree
import ObjectMapping.Toml.Datetime
import ObjectMapping.Toml.Document
import ObjectMapping.Toml.Problem
import ObjectMapping.Toml.Scalar
import ObjectMapping.Toml.Syntax
import ObjectMapping.Toml.Token
import ObjectMapping.Ty
import ObjectMapping.Value.Basic
import ObjectMapping.Value.Indexed
import ObjectMapping.Proofs.ValueMap
import ObjectMapping.Proofs.Writer
import ObjectMapping.Proofs.JsonText
import ObjectMapping.Proofs.JsonScan
import ObjectMapping.Proofs.JsonRead
import ObjectMapping.Proofs.JsonVisit
import ObjectMapping.Proofs.JsonCodec
import ObjectMapping.Proofs.ObjectJson
import ObjectMapping.Proofs.ReadFuel
import ObjectMapping.Proofs.Layout
import ObjectMapping.Proofs.MapperBuild
import ObjectMapping.Proofs.PropertyRead
import ObjectMapping.Proofs.FreshRecord
import ObjectMapping.Proofs.ReadInto
import ObjectMapping.Proofs.FactoryFrame
import ObjectMapping.Proofs.ReadDepth
import ObjectMapping.Proofs.WriteDepth
import ObjectMapping.Proofs.FactoryCalls
import ObjectMapping.Proofs.FactoryRuns
import ObjectMapping.Proofs.WrapperMapper
import ObjectMapping.Proofs.Registration
import ObjectMapping.Proofs.RecordAttributes
import ObjectMapping.Proofs.DerivedRecord
import ObjectMapping.Proofs.DepthGuard
import ObjectMapping.Proofs.FormatCalls
import ObjectMapping.Proofs.ChainResolution
import ObjectMapping.Proofs.ChainComposition
import ObjectMapping.Proofs.ScalarRead
import ObjectMapping.Proofs.ValueRoundTrip
import ObjectMapping.Proofs.TreeExpansion
import ObjectMapping.Proofs.TextNesting
import ObjectMapping.Proofs.StrategyTwins
import ObjectMapping.Proofs.StrategyReads
import ObjectMapping.Proofs.StrategyEquivalence
import ObjectMapping.Proofs.StrategyOutcomes
import ObjectMapping.Proofs.ValueEquality
import ObjectMapping.Proofs.StoredMap
import ObjectMapping.Proofs.PrimitiveAccess
import ObjectMapping.Proofs.DeclaredKinds
import ObjectMapping.Proofs.WrittenBits
import ObjectMapping.Proofs.RawWrites
import ObjectMapping.Proofs.AttributeGrammar
import ObjectMapping.Proofs.PropertyChecks
import ObjectMapping.Proofs.AllocationDefault
import ObjectMapping.Proofs.ErrorPaths
import ObjectMapping.Proofs.PropertyPaths
import ObjectMapping.Proofs.HashFolding
import ObjectMapping.Proofs.CamelNames
import ObjectMapping.Proofs.RawLocations
import ObjectMapping.Proofs.CrateResolution
