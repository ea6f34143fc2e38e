import QueryKit.Cache.Json
import QueryKit.Engine.Basic
import QueryKit.Engine.File
import QueryKit.Schema.Json
import QueryKit.Value.Json
import QueryKit.Proofs.Cache.Replies
import QueryKit.Proofs.Cache.Capacity
import QueryKit.Proofs.Cache.Shared
import QueryKit.Proofs.Cache.Conservation
import QueryKit.Proofs.Cache.Visibility
import QueryKit.Proofs.Condition.Grammar
import QueryKit.Proofs.Condition.Precedence
import QueryKit.Proofs.Condition.Faults
import QueryKit.Proofs.Query.Agreement
import QueryKit.Proofs.Query.Restriction
import QueryKit.Proofs.Statement.Accounting
import QueryKit.Proofs.Engine.Results
import QueryKit.Proofs.Engine.Keys
import QueryKit.Proofs.Engine.Spaces
import QueryKit.Proofs.Engine.Observation
import QueryKit.Proofs.Optimizer.Alerts
import QueryKit.Proofs.Optimizer.Averages
import QueryKit.Proofs.Json.Literal
import QueryKit.Proofs.Json.Spelling
import QueryKit.Proofs.Json.Rows
import QueryKit.Proofs.Engine.Configuration
import QueryKit.Proofs.Analysis.Pieces
import QueryKit.Proofs.Analysis.Clauses
import QueryKit.Proofs.Analysis.Names
import QueryKit.Proofs.Analysis.Generated
import QueryKit.Proofs.Analysis.Target
import QueryKit.Proofs.Analysis.Columns
import QueryKit.Proofs.Analysis.Scans
import QueryKit.Proofs.Json.Reports
import QueryKit.Proofs.Cache.Sweep
import QueryKit.Proofs.Analysis.Casing
import QueryKit.Proofs.Optimizer.Rankings
import QueryKit.Proofs.Cache.Drain
