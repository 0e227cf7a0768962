import CommitStyle.Main
import CommitStyle.Proofs.Merge
import CommitStyle.Proofs.RuleSet.Validity
import CommitStyle.Proofs.Resolution.Reach
import CommitStyle.Proofs.Path
import CommitStyle.Proofs.Resolution.Circularity
import CommitStyle.Proofs.Resolution.Idempotence
import CommitStyle.Proofs.Resolution.Wrapper
import CommitStyle.Proofs.Verdict
import CommitStyle.Proofs.Exemption
import CommitStyle.Proofs.Message.Parts
import CommitStyle.Proofs.Message.Cleaning
import CommitStyle.Proofs.Message.Draft
import CommitStyle.Proofs.Message.Edits
import CommitStyle.Proofs.Document.Json
import CommitStyle.Proofs.Document.TomlStrings
import CommitStyle.Proofs.Document.TomlValues
import CommitStyle.Proofs.Document.TomlDocument
import CommitStyle.Proofs.RuleSet.Tree
import CommitStyle.Proofs.RuleSet.Stated
import CommitStyle.Proofs.RuleSet.RoundTrip
import CommitStyle.Proofs.RuleSet.Grammar
import CommitStyle.Proofs.FileTree
import CommitStyle.Proofs.Hook.Step
import CommitStyle.Proofs.Hook.Failure
import CommitStyle.Proofs.Hook.Retention
import CommitStyle.Proofs.Hook.Cycle
import CommitStyle.Proofs.Hook.Forced
import CommitStyle.Proofs.Hook.Shell
import CommitStyle.Proofs.Agreement
import CommitStyle.Proofs.TypeList
import CommitStyle.Proofs.Acceptance
import CommitStyle.Proofs.Revision
import CommitStyle.Proofs.Listing
import CommitStyle.Proofs.Showing
import CommitStyle.Proofs.Usability
import CommitStyle.Proofs.Commits
import CommitStyle.Proofs.Independence
import CommitStyle.Proofs.Replacement
import CommitStyle.Proofs.Conditions
import CommitStyle.Proofs.Message.Division
import CommitStyle.Proofs.Message.Breaking
import CommitStyle.Proofs.Message.Subject
import CommitStyle.Proofs.Resolution.Failure
import CommitStyle.Proofs.Commands
import CommitStyle.Proofs.Regex.Matching
import CommitStyle.Proofs.Regex.FirstLine
import CommitStyle.Proofs.DefaultPatterns
import CommitStyle.Proofs.Message.LeadingBlank
import CommitStyle.Proofs.FieldRules
import CommitStyle.Proofs.Scopes
import CommitStyle.Proofs.Regex.Opening
import CommitStyle.Proofs.Regex.Extent
import CommitStyle.Proofs.Message.FirstLine
import CommitStyle.Proofs.Conventional
import CommitStyle.Proofs.Outcome
import CommitStyle.Proofs.RuleSet.Values
import CommitStyle.Proofs.LongerLists
import CommitStyle.Proofs.Lengths
import CommitStyle.Proofs.Casing.Quoted
import CommitStyle.Proofs.Casing.Shapes
import CommitStyle.Proofs.Casing.Scan
import CommitStyle.Proofs.Guarded.Access
import CommitStyle.Proofs.Guarded.Reading
import CommitStyle.Proofs.Guarded.Linting
import CommitStyle.Proofs.RuleSet.Layers
import CommitStyle.Proofs.Discovery
import CommitStyle.Proofs.ShownHeader
import CommitStyle.Proofs.History
