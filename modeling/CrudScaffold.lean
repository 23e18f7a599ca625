import CrudScaffold.Text.Ranges
import CrudScaffold.Text.CaseTable
import CrudScaffold.Text.CaseProperty
import CrudScaffold.Text.Case
import CrudScaffold.Text.Blank
import CrudScaffold.Text.Surrogate
import CrudScaffold.Text.Printable
import CrudScaffold.Text.Quoted
import CrudScaffold.Text.Digit
import CrudScaffold.Naming.Words
import CrudScaffold.Naming.Snake
import CrudScaffold.Naming.Studly
import CrudScaffold.Naming.Plural
import CrudScaffold.Source.Indent
import CrudScaffold.Source.Imports
import CrudScaffold.Text.Split
import CrudScaffold.Data.Value
import CrudScaffold.Data.Decimal
import CrudScaffold.Data.Numeral
import CrudScaffold.Data.Json.Read
import CrudScaffold.Data.Json.Write
import CrudScaffold.Config.Basic
import CrudScaffold.Config.Coerce
import CrudScaffold.Config.Validate
import CrudScaffold.Failure
import CrudScaffold.Model.Basic
import CrudScaffold.Model.Attribute
import CrudScaffold.Model.Host
import CrudScaffold.Namespace
import CrudScaffold.Method.Kind
import CrudScaffold.Method.Names
import CrudScaffold.Method.Fragment
import CrudScaffold.Method.Web
import CrudScaffold.Method.Api
import CrudScaffold.Method.Descriptor
import CrudScaffold.Report
import CrudScaffold.Generator
import CrudScaffold.Data.Yaml.Token
import CrudScaffold.Data.Yaml.Token.Scalar
import CrudScaffold.Data.Yaml.Token.Stream
import CrudScaffold.Data.Yaml.Node
import CrudScaffold.Data.Yaml.Scalar
import CrudScaffold.Data.Yaml.Graph
import CrudScaffold.Data.Yaml.Read
import CrudScaffold.Config.File
import CrudScaffold.Command.Options
import CrudScaffold.Command.Run
import CrudScaffold.Main
import CrudScaffold.Data.Decimal.Shortest
import CrudScaffold.Proofs.Descriptor.Generation
import CrudScaffold.Proofs.Descriptor.Calls
import CrudScaffold.Proofs.Descriptor.ImportLog
import CrudScaffold.Proofs.Source.ImportLines
import CrudScaffold.Proofs.Source.ImportOrder
import CrudScaffold.Proofs.Descriptor.QueryLog
import CrudScaffold.Proofs.Descriptor.Regeneration
import CrudScaffold.Proofs.Descriptor.ImportBlock
import CrudScaffold.Proofs.Generator.Imports
import CrudScaffold.Proofs.Generator.Isolation
import CrudScaffold.Proofs.Descriptor.RequestInput
import CrudScaffold.Proofs.Text.Ascii
import CrudScaffold.Proofs.Naming.Identifiers
import CrudScaffold.Proofs.Naming.Alphanumerics
import CrudScaffold.Proofs.Command.Failures
import CrudScaffold.Proofs.Command.ExitCodes
import CrudScaffold.Proofs.Config.Validity
import CrudScaffold.Proofs.Data.JsonReadBack
import CrudScaffold.Proofs.Config.ReadBack
import CrudScaffold.Proofs.Namespace.Rooting
import CrudScaffold.Proofs.Model.Introspection
import CrudScaffold.Proofs.Host.Importing
import CrudScaffold.Proofs.Text.Cutting
import CrudScaffold.Proofs.Host.ClassExists
import CrudScaffold.Proofs.Host.LoadObject
