import WarehouseAdapter.Backend
import WarehouseAdapter.Calendar.Basic
import WarehouseAdapter.Calendar.Reading
import WarehouseAdapter.Calendar.Text
import WarehouseAdapter.Coercion
import WarehouseAdapter.CommandLine.Arguments
import WarehouseAdapter.CommandLine.Command
import WarehouseAdapter.Config.Basic
import WarehouseAdapter.Config.Document
import WarehouseAdapter.Csv
import WarehouseAdapter.DataType.Basic
import WarehouseAdapter.DataType.Order
import WarehouseAdapter.DataType.Parser
import WarehouseAdapter.DataType.Precedence
import WarehouseAdapter.DataType.Text
import WarehouseAdapter.Double.Basic
import WarehouseAdapter.Double.Decimal
import WarehouseAdapter.Double.Shortest
import WarehouseAdapter.Error
import WarehouseAdapter.Frame
import WarehouseAdapter.Inference.Basic
import WarehouseAdapter.Inference.Report
import WarehouseAdapter.Inference.Sniff
import WarehouseAdapter.Json.Basic
import WarehouseAdapter.Json.Number
import WarehouseAdapter.Json.QueryCodec
import WarehouseAdapter.Json.Reading
import WarehouseAdapter.Json.Struct
import WarehouseAdapter.Json.TableCodec
import WarehouseAdapter.Json.ValueCodec
import WarehouseAdapter.Json.Writing
import WarehouseAdapter.Main
import WarehouseAdapter.Names
import WarehouseAdapter.Parameter.Binding
import WarehouseAdapter.Parameter.Wire
import WarehouseAdapter.Pattern.Basic
import WarehouseAdapter.Pattern.CharSet
import WarehouseAdapter.Pattern.Escape
import WarehouseAdapter.Pattern.Library
import WarehouseAdapter.Pattern.Reading
import WarehouseAdapter.Pattern.Size
import WarehouseAdapter.Pattern.Span
import WarehouseAdapter.PatternLibrary
import WarehouseAdapter.Query.Execution
import WarehouseAdapter.Query.Expr
import WarehouseAdapter.Query.Lineage
import WarehouseAdapter.Schema
import WarehouseAdapter.Text.Basic
import WarehouseAdapter.Text.CaseFold
import WarehouseAdapter.Text.CharRange
import WarehouseAdapter.Text.Hidden
import WarehouseAdapter.Text.Letter
import WarehouseAdapter.Text.Quoted
import WarehouseAdapter.Text.Utf8
import WarehouseAdapter.Text.Word
import WarehouseAdapter.Value.Basic
import WarehouseAdapter.Warehouse.Client
import WarehouseAdapter.Warehouse.Descriptor
import WarehouseAdapter.Warehouse.Import
import WarehouseAdapter.Warehouse.Memory
import WarehouseAdapter.Yaml.Basic
import WarehouseAdapter.Yaml.Place
import WarehouseAdapter.Yaml.Reading
import WarehouseAdapter.Yaml.Scalar
import WarehouseAdapter.Proofs.DataType.Reading
import WarehouseAdapter.Proofs.DataType.RoundTrip
import WarehouseAdapter.Proofs.DataType.Castability
import WarehouseAdapter.Proofs.DataType.Precedence
import WarehouseAdapter.Proofs.Inference.Values
import WarehouseAdapter.Proofs.Inference.Application
import WarehouseAdapter.Proofs.Backend.DatasetNames
import WarehouseAdapter.Proofs.Backend.CurrentDataset
import WarehouseAdapter.Proofs.Parameter.Admission
import WarehouseAdapter.Proofs.FirstColumns
import WarehouseAdapter.Proofs.Parameter.RepeatedKeys
import WarehouseAdapter.Proofs.TakenPlaces
import WarehouseAdapter.Proofs.Coercion.Inhabitants
import WarehouseAdapter.Proofs.Query.Conformance
import WarehouseAdapter.Proofs.Query.Occurrences
import WarehouseAdapter.Proofs.Query.BoundNames
import WarehouseAdapter.Proofs.Query.Lifecycle
import WarehouseAdapter.Proofs.Backend.Submissions
import WarehouseAdapter.Proofs.Schema.Derivations
import WarehouseAdapter.Proofs.DataType.Grammar
import WarehouseAdapter.Proofs.Inference.RowOrder
import WarehouseAdapter.Proofs.Parameter.ReadBack
import WarehouseAdapter.Proofs.Warehouse.DescribedSchemas
import WarehouseAdapter.Proofs.Backend.ShownTables
import WarehouseAdapter.Proofs.ByteOrder
import WarehouseAdapter.Proofs.Inference.Candidates
import WarehouseAdapter.Proofs.Query.ColumnOrder
import WarehouseAdapter.Proofs.Warehouse.OrderedEntries
import WarehouseAdapter.Proofs.Warehouse.Histories
import WarehouseAdapter.Proofs.Inference.OpenColumns
import WarehouseAdapter.Proofs.Coercion.FixedPoints
import WarehouseAdapter.Proofs.Coercion.RecordOrder
import WarehouseAdapter.Proofs.DataType.CanonicalTexts
import WarehouseAdapter.Proofs.DataType.OrderLaws
import WarehouseAdapter.Proofs.Parameter.PairOrder
import WarehouseAdapter.Proofs.Query.PlacedParameters
import WarehouseAdapter.Proofs.Inference.Leniency
import WarehouseAdapter.Proofs.Query.Preparation
import WarehouseAdapter.Proofs.Schema.Undoing
import WarehouseAdapter.Proofs.Calendar.Instants
import WarehouseAdapter.Proofs.Transposition
import WarehouseAdapter.Proofs.Calendar.Layouts
import WarehouseAdapter.Proofs.MachineTypes
import WarehouseAdapter.Proofs.Pattern.Matching
import WarehouseAdapter.Proofs.Pattern.Spans
import WarehouseAdapter.Proofs.Pattern.Progress
import WarehouseAdapter.Proofs.Pattern.Closing
import WarehouseAdapter.Proofs.Pattern.ClosedBodies
import WarehouseAdapter.Proofs.Pattern.Anchoring
import WarehouseAdapter.Proofs.PatternLibrary
import WarehouseAdapter.Proofs.Pattern.Documented
import WarehouseAdapter.Proofs.Backend.ListedNames
import WarehouseAdapter.Proofs.BytePlaces
import WarehouseAdapter.Proofs.DataType.ScannedPlaces
