import NestedQuery.Files.Tree
import NestedQuery.Main
import NestedQuery.Session
import NestedQuery.Proofs.Answers
import NestedQuery.Proofs.OperandTexts
import NestedQuery.Proofs.Sql.Meaning
import NestedQuery.Proofs.Mentions
import NestedQuery.Proofs.Separate
import NestedQuery.Proofs.Kept
import NestedQuery.Proofs.Shapes
import NestedQuery.Proofs.Agreement
import NestedQuery.Proofs.Parsed
import NestedQuery.Proofs.Dangling
import NestedQuery.Proofs.FilterForm
import NestedQuery.Proofs.Canonical
import NestedQuery.Proofs.Calls
import NestedQuery.Proofs.Shorthands
import NestedQuery.Proofs.Wildcards
import NestedQuery.Proofs.SlashNotation
import NestedQuery.Proofs.OrderEntries
import NestedQuery.Proofs.Sql.Restriction
import NestedQuery.Proofs.Sql.Quoting
import NestedQuery.Proofs.DateOperands
import NestedQuery.Proofs.DateRoundTrip
import NestedQuery.Proofs.ScalarSubqueries
import NestedQuery.Proofs.RowCuts
import NestedQuery.Proofs.EntityViews
import NestedQuery.Proofs.MemberOrder
import NestedQuery.Proofs.ConfigPaths
import NestedQuery.Proofs.Records
import NestedQuery.Proofs.SchemaLookups
import NestedQuery.Proofs.SchemaSpelling
