import Rulebook.Main
import Rulebook.Proofs.Manifest.Canonical
import Rulebook.Proofs.Manifest.Inspection
import Rulebook.Proofs.Registrar.Agreement
import Rulebook.Proofs.Registrar.RoutineSearch
import Rulebook.Proofs.Run.Disk
import Rulebook.Proofs.Run.Modes
import Rulebook.Proofs.Run.Preview
import Rulebook.Proofs.Run.Rerun
import Rulebook.Proofs.Manifest.Recognized
import Rulebook.Proofs.Registrar.Distinction
import Rulebook.Proofs.Run.Transcript
import Rulebook.Proofs.Run.Selection
import Rulebook.Proofs.FileTree.Creation
import Rulebook.Proofs.Sink
import Rulebook.Proofs.CommandLine.Verbosity
import Rulebook.Proofs.Log.Verbosity
import Rulebook.Proofs.CommandLine.Quieter
import Rulebook.Proofs.Json.Recognition
import Rulebook.Proofs.Json.Text
import Rulebook.Proofs.Rule.Spelling
import Rulebook.Proofs.CommandLine.Output
import Rulebook.Proofs.CommandLine.Table
import Rulebook.Proofs.Run.Account
import Rulebook.Proofs.CommandLine.Summary
