import GraphQuery.Diagram.Edit
import GraphQuery.Main
import GraphQuery.Proofs.Binding
import GraphQuery.Proofs.Uniqueness
import GraphQuery.Proofs.RowsScope
import GraphQuery.Proofs.NodesScope
import GraphQuery.Proofs.FilterPlace
import GraphQuery.Proofs.Literals
import GraphQuery.Proofs.Clauses
import GraphQuery.Proofs.Characters
import GraphQuery.Proofs.QuoteFree
import GraphQuery.Proofs.QuotedValues
import GraphQuery.Proofs.Positions
import GraphQuery.Proofs.ReturnItems
import GraphQuery.Proofs.Session
import GraphQuery.Proofs.Update
import GraphQuery.Proofs.LimitMode
import GraphQuery.Proofs.Renaming
import GraphQuery.Proofs.Wire
import GraphQuery.Proofs.Identifiers
import GraphQuery.Proofs.Idle
import GraphQuery.Proofs.Grouping
import GraphQuery.Proofs.Labels
import GraphQuery.Proofs.Derivation
import GraphQuery.Proofs.Requests
import GraphQuery.Proofs.Growth
import GraphQuery.Proofs.LimitShape
import GraphQuery.Proofs.Refusals
import GraphQuery.Proofs.Moves
import GraphQuery.Proofs.References
import GraphQuery.Proofs.Casts
import GraphQuery.Proofs.Returned
import GraphQuery.Proofs.Canonical
import GraphQuery.Proofs.NestedValues
import GraphQuery.Proofs.DiagramSpelling
import GraphQuery.Proofs.FreeNumbers
import GraphQuery.Proofs.NumeralFaults
import GraphQuery.Proofs.PositionNumerals
import GraphQuery.Proofs.EnvironmentSettings
import GraphQuery.Proofs.CompactJson
import GraphQuery.Proofs.Layouts
