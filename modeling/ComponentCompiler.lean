import ComponentCompiler.Artifact
import ComponentCompiler.Assembly
import ComponentCompiler.Build
import ComponentCompiler.Command
import ComponentCompiler.CommandLine
import ComponentCompiler.Component
import ComponentCompiler.Decimal.Binary64
import ComponentCompiler.Decimal.Notation
import ComponentCompiler.Decimal.Shortest
import ComponentCompiler.Dialect
import ComponentCompiler.Discovery
import ComponentCompiler.Disk.Access
import ComponentCompiler.Disk.Lookup
import ComponentCompiler.Disk.Tree
import ComponentCompiler.Json.Fault
import ComponentCompiler.Json.Reader
import ComponentCompiler.Json.Value
import ComponentCompiler.Layout
import ComponentCompiler.Log
import ComponentCompiler.Main
import ComponentCompiler.Naming
import ComponentCompiler.Output
import ComponentCompiler.Path
import ComponentCompiler.Props
import ComponentCompiler.Registry
import ComponentCompiler.Session
import ComponentCompiler.Settings
import ComponentCompiler.Target
import ComponentCompiler.Task
import ComponentCompiler.Template
import ComponentCompiler.Template.Block
import ComponentCompiler.Template.Pieces
import ComponentCompiler.Template.Search
import ComponentCompiler.Template.Token
import ComponentCompiler.Text.Basic
import ComponentCompiler.Text.Fold
import ComponentCompiler.Text.LowerCase
import ComponentCompiler.Text.Quoted
import ComponentCompiler.Text.Utf8
import ComponentCompiler.Text.Word
import ComponentCompiler.Toml.Document
import ComponentCompiler.Toml.Statement
import ComponentCompiler.Toml.Text
import ComponentCompiler.Toml.Value
import ComponentCompiler.Proofs.Command.Batch
import ComponentCompiler.Proofs.Command.Collisions
import ComponentCompiler.Proofs.Command.Containment
import ComponentCompiler.Proofs.Command.DryRun
import ComponentCompiler.Proofs.Command.EarliestCollision
import ComponentCompiler.Proofs.Command.EarlyEnd
import ComponentCompiler.Proofs.Command.Lanes
import ComponentCompiler.Proofs.Command.Order
import ComponentCompiler.Proofs.Command.Run
import ComponentCompiler.Proofs.Command.Steps
import ComponentCompiler.Proofs.Command.Stored
import ComponentCompiler.Proofs.Command.Together
import ComponentCompiler.Proofs.Command.TwoEnds
import ComponentCompiler.Proofs.Component
import ComponentCompiler.Proofs.Dialect
import ComponentCompiler.Proofs.Discovery
import ComponentCompiler.Proofs.Discovery.Names
import ComponentCompiler.Proofs.Discovery.Ways
import ComponentCompiler.Proofs.Disk.Ground
import ComponentCompiler.Proofs.Disk.MakeDirs
import ComponentCompiler.Proofs.Disk.Reach
import ComponentCompiler.Proofs.Interleaving
import ComponentCompiler.Proofs.Json.Written
import ComponentCompiler.Proofs.Layout.Emission
import ComponentCompiler.Proofs.Layout.Stencil
import ComponentCompiler.Proofs.LowerCase
import ComponentCompiler.Proofs.Naming
import ComponentCompiler.Proofs.Naming.Grammar
import ComponentCompiler.Proofs.Occurrence
import ComponentCompiler.Proofs.Output.Plan
import ComponentCompiler.Proofs.Output.Sidecars
import ComponentCompiler.Proofs.Output.Storage
import ComponentCompiler.Proofs.Props
import ComponentCompiler.Proofs.Registry
import ComponentCompiler.Proofs.Template.Document
import ComponentCompiler.Proofs.Template.Extents
import ComponentCompiler.Proofs.Template.Grammar
import ComponentCompiler.Proofs.Template.Hoisting
import ComponentCompiler.Proofs.Template.Lookalikes
import ComponentCompiler.Proofs.Template.Matches
import ComponentCompiler.Proofs.Template.Openings
import ComponentCompiler.Proofs.Template.Removal
import ComponentCompiler.Proofs.Template.Respacing
import ComponentCompiler.Proofs.Template.Substitution
import ComponentCompiler.Proofs.Text
import ComponentCompiler.Proofs.Wiring
