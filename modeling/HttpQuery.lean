import HttpQuery.Main
import HttpQuery.Proofs.Grammar.Words
import HttpQuery.Proofs.Grammar.Reports
import HttpQuery.Proofs.Grammar.Meaning
import HttpQuery.Proofs.Grammar.Modes
import HttpQuery.Proofs.Compile.Written
import HttpQuery.Proofs.Compile.LetterCase
import HttpQuery.Proofs.Query.Templates
import HttpQuery.Proofs.Command.Order
import HttpQuery.Proofs.Compile.HeaderNames
import HttpQuery.Proofs.CommandLine.Reports
import HttpQuery.Proofs.Query.PercentRuns
import HttpQuery.Proofs.Query.Gaps
import HttpQuery.Proofs.Query.Printed
import HttpQuery.Proofs.Query.Commas
import HttpQuery.Proofs.Query.Conservation
import HttpQuery.Proofs.Grammar.Alignment
import HttpQuery.Proofs.Compile.Entries
import HttpQuery.Proofs.Compile.Faults
import HttpQuery.Proofs.Compile.Timeouts
import HttpQuery.Proofs.Http.Credentials
import HttpQuery.Proofs.Http.Selection
import HttpQuery.Proofs.Graph.Paths
import HttpQuery.Proofs.Graph.Dot
import HttpQuery.Proofs.Config.FileTree
import HttpQuery.Proofs.CommandLine.Explanations
import HttpQuery.Proofs.CommandLine.Tables
