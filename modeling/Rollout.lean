import Rollout.Main
import Rollout.Proofs.Text.Matching
import Rollout.Proofs.Text.Replacing
import Rollout.Proofs.Placeholder.Pieces
import Rollout.Proofs.Outcome
import Rollout.Proofs.Template.Reading
import Rollout.Proofs.Template.Mention
import Rollout.Proofs.Template.Format
import Rollout.Proofs.Template.Substitution
import Rollout.Proofs.Template.Layout
import Rollout.Proofs.Placeholder.Trimming
import Rollout.Proofs.Placeholder.Survival
import Rollout.Proofs.Compile.Provenance
import Rollout.Proofs.Demand
import Rollout.Proofs.Compile.NameFlag
import Rollout.Proofs.Compile.Demands
import Rollout.Proofs.Compile.Completeness
import Rollout.Proofs.Compile.Naming
import Rollout.Proofs.Text.Words
import Rollout.Proofs.Compile.FlagWords
import Rollout.Proofs.Environment
import Rollout.Proofs.Scenario.Fetched
import Rollout.Proofs.Scenario.Settled
import Rollout.Proofs.Template.Alike
import Rollout.Proofs.Placeholder.Escaped
import Rollout.Proofs.Template.Printing
import Rollout.Proofs.Template.Grammar
import Rollout.Proofs.Template.Selector
import Rollout.Proofs.Template.Literal
import Rollout.Proofs.Template.Delimiters
import Rollout.Proofs.Template.Enclosed
import Rollout.Proofs.Template.Agreement
import Rollout.Proofs.Template.Reference
import Rollout.Proofs.Template.Splicing
import Rollout.Proofs.Compile.Selection
import Rollout.Proofs.Compile.Lookup
import Rollout.Proofs.Template.Expansion
import Rollout.Proofs.Template.Concatenation
import Rollout.Proofs.Placeholder.Written
import Rollout.Proofs.Placeholder.Unmasking
import Rollout.Proofs.Placeholder.Literals
import Rollout.Proofs.Placeholder.Transparency
import Rollout.Proofs.Scenario.Normalized
import Rollout.Proofs.Scenario.Places
import Rollout.Proofs.Scenario.Sources
import Rollout.Proofs.Scenario.FirstFailure
import Rollout.Proofs.Scenario.Restaging
import Rollout.Proofs.Backend.Preparation
import Rollout.Proofs.Template.Spelling
import Rollout.Proofs.Template.Nesting
import Rollout.Proofs.File.Tree
import Rollout.Proofs.Backend.Scratch
import Rollout.Proofs.Backend.Isolation
import Rollout.Proofs.Command.Execution
import Rollout.Proofs.Json.Record
import Rollout.Proofs.Scenario.Decoding
import Rollout.Proofs.Template.Fault
import Rollout.Proofs.Template.Stages
