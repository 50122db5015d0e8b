import Stylesheet.Cache.Command
import Stylesheet.Cache.Stats
import Stylesheet.Cache.Sweeper
import Stylesheet.Proofs.Cache.Absorption
import Stylesheet.Proofs.Cache.Accounting
import Stylesheet.Proofs.Cache.Backlog
import Stylesheet.Proofs.Cache.Bound
import Stylesheet.Proofs.Cache.Chronicle
import Stylesheet.Proofs.Cache.Deferral
import Stylesheet.Proofs.Cache.Delivery
import Stylesheet.Proofs.Cache.Descent
import Stylesheet.Proofs.Cache.Endurance
import Stylesheet.Proofs.Cache.Idempotence
import Stylesheet.Proofs.Cache.Issue
import Stylesheet.Proofs.Cache.Memory
import Stylesheet.Proofs.Cache.Naming
import Stylesheet.Proofs.Cache.Origin
import Stylesheet.Proofs.Cache.Outcome
import Stylesheet.Proofs.Cache.Ownership
import Stylesheet.Proofs.Cache.Record
import Stylesheet.Proofs.Cache.Refusal
import Stylesheet.Proofs.Cache.Renewal
import Stylesheet.Proofs.Cache.Repetition
import Stylesheet.Proofs.Cache.Run
import Stylesheet.Proofs.Cache.Selection
import Stylesheet.Proofs.Cache.Soundness
import Stylesheet.Proofs.Cache.Spacing
import Stylesheet.Proofs.Cache.Store
import Stylesheet.Proofs.Cache.Sweep
import Stylesheet.Proofs.Cache.Transparency
import Stylesheet.Proofs.Cache.Turnover
import Stylesheet.Proofs.Cache.Waiting
import Stylesheet.Proofs.Compile.Animation
import Stylesheet.Proofs.Compile.Commutation
import Stylesheet.Proofs.Compile.Entries
import Stylesheet.Proofs.Compile.Nesting
import Stylesheet.Proofs.Compile.Rearrangement
import Stylesheet.Proofs.Compile.Sameness
import Stylesheet.Proofs.Compile.Shape
import Stylesheet.Proofs.Compile.Uniformity
import Stylesheet.Proofs.Compile.WellFormed
import Stylesheet.Proofs.Hash.Change
import Stylesheet.Proofs.Identifier.Default
import Stylesheet.Proofs.Identifier.Numeral
import Stylesheet.Proofs.Identifier.Sentinel
import Stylesheet.Proofs.Identifier.Validity
import Stylesheet.Proofs.Number.Canonical
import Stylesheet.Proofs.Request.Scalar
import Stylesheet.Proofs.Request.Writes
import Stylesheet.Proofs.Rule.Outline
import Stylesheet.Proofs.Rule.Reading
import Stylesheet.Proofs.Selector.Commas
import Stylesheet.Proofs.Selector.Fragment
import Stylesheet.Proofs.Selector.Level
import Stylesheet.Proofs.Selector.Marks
import Stylesheet.Proofs.Selector.Mold
import Stylesheet.Proofs.Selector.Nesting
import Stylesheet.Proofs.Selector.Quotation
import Stylesheet.Proofs.Selector.Scan
import Stylesheet.Proofs.Selector.Split
import Stylesheet.Proofs.Style.Spelling
import Stylesheet.Proofs.Text.Collapse
import Stylesheet.Sink.Rack
import Stylesheet.Style.OfJson
import Stylesheet.Template
