import Automation.CommandLine
import Automation.Journal
import Automation.Main
import Automation.Proofs.Accounts
import Automation.Proofs.Activities
import Automation.Proofs.Admission
import Automation.Proofs.Branches
import Automation.Proofs.Calm
import Automation.Proofs.Chains
import Automation.Proofs.Cloning
import Automation.Proofs.Containment
import Automation.Proofs.Crashes
import Automation.Proofs.Deadlines
import Automation.Proofs.Diagnostics
import Automation.Proofs.EmbeddedReports
import Automation.Proofs.FanOut
import Automation.Proofs.Fitting
import Automation.Proofs.FixedPaths
import Automation.Proofs.Forward
import Automation.Proofs.Frames
import Automation.Proofs.Hooks
import Automation.Proofs.InPlace
import Automation.Proofs.IntegerComparisons
import Automation.Proofs.IntegerSums
import Automation.Proofs.Isolation
import Automation.Proofs.Jobs
import Automation.Proofs.Joining
import Automation.Proofs.JsonTexts
import Automation.Proofs.KeepingUp
import Automation.Proofs.LikenessLaws
import Automation.Proofs.Limits
import Automation.Proofs.Lines
import Automation.Proofs.ListForms
import Automation.Proofs.Members
import Automation.Proofs.Modes
import Automation.Proofs.Nesting
import Automation.Proofs.NumberReading
import Automation.Proofs.NumberTexts
import Automation.Proofs.Opposites
import Automation.Proofs.OrderLaws
import Automation.Proofs.Orderly
import Automation.Proofs.Outcomes
import Automation.Proofs.Permits
import Automation.Proofs.Polls
import Automation.Proofs.Punctuality
import Automation.Proofs.Rations
import Automation.Proofs.ReadValues
import Automation.Proofs.Records
import Automation.Proofs.Recursion
import Automation.Proofs.ReportDocuments
import Automation.Proofs.Reporting
import Automation.Proofs.RequiredFields
import Automation.Proofs.Rereading
import Automation.Proofs.ResultLookups
import Automation.Proofs.ResultTrees
import Automation.Proofs.Rounding
import Automation.Proofs.RoundingIntervals
import Automation.Proofs.Rousing
import Automation.Proofs.RuleDirectories
import Automation.Proofs.RuleDocuments
import Automation.Proofs.Schedules
import Automation.Proofs.Sequences
import Automation.Proofs.Serving
import Automation.Proofs.Settling
import Automation.Proofs.Shadowing
import Automation.Proofs.Shares
import Automation.Proofs.ShortestDecimals
import Automation.Proofs.SortedDocuments
import Automation.Proofs.SortedRuns
import Automation.Proofs.Speed
import Automation.Proofs.Spellings
import Automation.Proofs.Steps
import Automation.Proofs.StringReading
import Automation.Proofs.Substitution
import Automation.Proofs.Tasks
import Automation.Proofs.Termination
import Automation.Proofs.TokenCost
import Automation.Proofs.Trichotomy
import Automation.Proofs.Trimming
import Automation.Proofs.Turns
import Automation.Proofs.Unfolding
import Automation.Proofs.Validity
import Automation.Proofs.ValueReading
import Automation.Proofs.Verdicts
import Automation.Proofs.Waits
import Automation.Proofs.Wakeups
