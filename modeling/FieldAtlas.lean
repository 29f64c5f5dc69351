import FieldAtlas.Naming
import FieldAtlas.Text.Identifier
import FieldAtlas.Field.KnownType
import FieldAtlas.Session.Run
import FieldAtlas.Source.Lexer
import FieldAtlas.Source.Grammar
import FieldAtlas.Declaration.Read
import FieldAtlas.Declaration.Code
import FieldAtlas.Declaration.Declare
import FieldAtlas.Proofs.Record.Hierarchy
import FieldAtlas.Proofs.First
import FieldAtlas.Proofs.Table
import FieldAtlas.Proofs.Record.Supplier
import FieldAtlas.Proofs.Dict
import FieldAtlas.Proofs.Struct.Inheritance
import FieldAtlas.Proofs.Extract
import FieldAtlas.Proofs.Introspector
import FieldAtlas.Proofs.Migration.Shared
import FieldAtlas.Proofs.Migration.Chain
import FieldAtlas.Proofs.Names
import FieldAtlas.Proofs.Record.Order
import FieldAtlas.Proofs.Struct.Reference
import FieldAtlas.Proofs.Migration.Hierarchy
import FieldAtlas.Proofs.Migration.Order
import FieldAtlas.Proofs.Lasting
import FieldAtlas.Proofs.Program
import FieldAtlas.Proofs.History
import FieldAtlas.Proofs.Cache
import FieldAtlas.Proofs.Struct.Tables
import FieldAtlas.Proofs.Domain
import FieldAtlas.Proofs.Record.Subclass
import FieldAtlas.Proofs.BareSubclass
import FieldAtlas.Proofs.Declaration.Plan
import FieldAtlas.Proofs.Declaration.Reading
import FieldAtlas.Proofs.Declaration.Order
import FieldAtlas.Proofs.Declaration.Validity
import FieldAtlas.Proofs.Declaration.Given
import FieldAtlas.Proofs.Declaration.Described
import FieldAtlas.Proofs.Declaration.Carried
import FieldAtlas.Proofs.Naming
import FieldAtlas.Proofs.Naming.SnakeCase
import FieldAtlas.Proofs.Naming.Underscores
import FieldAtlas.Proofs.Object.Private
import FieldAtlas.Proofs.Object.PublicName
import FieldAtlas.Proofs.Factory.Slots
import FieldAtlas.Proofs.Factory.Calls
import FieldAtlas.Proofs.Descriptor.HashSet
import FieldAtlas.Proofs.Descriptor.Default
import FieldAtlas.Proofs.Session.Declared
import FieldAtlas.Proofs.Positions
import FieldAtlas.Proofs.Object.Contents
import FieldAtlas.Proofs.Table.Faults
import FieldAtlas.Proofs.Identities
import FieldAtlas.Proofs.Acceptance
import FieldAtlas.Proofs.Declaration.Regrouping
