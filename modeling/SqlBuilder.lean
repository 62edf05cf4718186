import SqlBuilder.Server
import SqlBuilder.Proofs.Keys
import SqlBuilder.Proofs.Noninterference
import SqlBuilder.Proofs.Traversal.Statement
import SqlBuilder.Proofs.Grouping
import SqlBuilder.Proofs.Rearrangement
import SqlBuilder.Proofs.Spacing
import SqlBuilder.Proofs.Alignment
import SqlBuilder.Proofs.Sql.Reader
import SqlBuilder.Proofs.Enclosure
import SqlBuilder.Proofs.ConditionLaws
import SqlBuilder.Proofs.Omission
import SqlBuilder.Proofs.Execution
import SqlBuilder.Proofs.Insertion.Widths
import SqlBuilder.Proofs.Target
import SqlBuilder.Proofs.Ident.Grammar
import SqlBuilder.Proofs.Sources
import SqlBuilder.Proofs.Rereading
import SqlBuilder.Proofs.Agreement
import SqlBuilder.Proofs.Template
import SqlBuilder.Proofs.Interchange
import SqlBuilder.Proofs.Members
import SqlBuilder.Proofs.Encoding
import SqlBuilder.Proofs.Casing
import SqlBuilder.Proofs.Row
import SqlBuilder.Proofs.Event
import SqlBuilder.Proofs.Fragment.Laws
import SqlBuilder.Proofs.Record.History
