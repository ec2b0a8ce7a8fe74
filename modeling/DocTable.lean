import DocTable.Datasource.Service
import DocTable.Datasource.Requests
import DocTable.Datasource.Answering
import DocTable.Main
import DocTable.Proofs.Run.Outcome
import DocTable.Proofs.Table.Alignment
import DocTable.Proofs.Query.Clauses
import DocTable.Proofs.Json.Grammar
import DocTable.Proofs.Json.Reading
import DocTable.Proofs.Query.DateCalls
import DocTable.Proofs.Query.Arguments
import DocTable.Proofs.Query.Boundaries
import DocTable.Proofs.Entries
import DocTable.Proofs.Value.Fidelity
import DocTable.Proofs.Table.Rebuilding
import DocTable.Proofs.Table.Clipping
import DocTable.Proofs.Run.Clipping
import DocTable.Proofs.Datasource.Sharing
import DocTable.Proofs.Value.RelaxedText
import DocTable.Proofs.Store.Commands
import DocTable.Proofs.Query.Independence
import DocTable.Proofs.Table.Frames
import DocTable.Proofs.Datasource.Answering
import DocTable.Proofs.Query.Separation
import DocTable.Proofs.Query.Defaults
import DocTable.Proofs.Query.DateLiterals
import DocTable.Proofs.Value.Patching
import DocTable.Proofs.Query.DateRewrite
import DocTable.Proofs.Datasource.Reuse
import DocTable.Proofs.Query.IntegerLiterals
import DocTable.Proofs.Query.Offsets
import DocTable.Proofs.Table.Texts
import DocTable.Proofs.Table.Consistency
