import SchemaSheet.Main
import SchemaSheet.Proofs.Table.Depth
import SchemaSheet.Proofs.Table.Layout
import SchemaSheet.Proofs.Table.LineEnding
import SchemaSheet.Proofs.Table.RoundTrip
import SchemaSheet.Proofs.Table.WholeText
import SchemaSheet.Proofs.Transfer.Delivery
import SchemaSheet.Table.Sheet
import SchemaSheet.Transfer.Action
import SchemaSheet.Proofs.Table.Grid
import SchemaSheet.Proofs.CommandLine.Loading
import SchemaSheet.Proofs.CommandLine.Requests
import SchemaSheet.Proofs.Table.Halves
import SchemaSheet.Proofs.Transfer.Clipboard
import SchemaSheet.Proofs.Transfer.Screen
import SchemaSheet.Proofs.CommandLine.Course
import SchemaSheet.Proofs.CommandLine.Report
import SchemaSheet.Proofs.CommandLine.Effects
import SchemaSheet.Proofs.Table.HeaderCursor
import SchemaSheet.Proofs.Token.Coverage
import SchemaSheet.Proofs.Table.Provenance
import SchemaSheet.Proofs.Table.ReportedPlace
import SchemaSheet.Proofs.Table.Division
import SchemaSheet.Proofs.Table.Independence
import SchemaSheet.Proofs.Table.NestedType
import SchemaSheet.Proofs.Table.FurtherOpening
import SchemaSheet.Proofs.Token.LiteralContent
import SchemaSheet.Proofs.Token.Coordinates
import SchemaSheet.Proofs.Table.LetterCase
import SchemaSheet.Proofs.Token.WordRun
import SchemaSheet.Proofs.Transfer.LastError
