import FormatDaemon.Collaborators.Helpers
import FormatDaemon.Collaborators.Planned
import FormatDaemon.Collaborators.Static
import FormatDaemon.Helper.Rehearsed
import FormatDaemon.Main
import FormatDaemon.Pattern.Reader
import FormatDaemon.Proofs.ArgumentOrder
import FormatDaemon.Proofs.Bridge
import FormatDaemon.Proofs.CallShapes
import FormatDaemon.Proofs.HelperLaunches
import FormatDaemon.Proofs.Layering
import FormatDaemon.Proofs.LocalOnly
import FormatDaemon.Proofs.OneEngine
import FormatDaemon.Proofs.ProcessResult
import FormatDaemon.Proofs.RoundTrip
import FormatDaemon.Proofs.RunClassification
import FormatDaemon.Proofs.Stalling
import FormatDaemon.Proofs.TargetPath
import FormatDaemon.Proofs.ArgumentGrammar
import FormatDaemon.Proofs.ExplicitConfig
import FormatDaemon.Proofs.Diagnostics
import FormatDaemon.Proofs.PathFolding
import FormatDaemon.Proofs.PathComposition
import FormatDaemon.Proofs.ConfigQueries
import FormatDaemon.Proofs.FlagTable
import FormatDaemon.Proofs.ReservedOptions
import FormatDaemon.Proofs.EngineSearch
import FormatDaemon.Proofs.ModuleLookup
import FormatDaemon.Proofs.FilterVariable
import FormatDaemon.Proofs.FlagWords
import FormatDaemon.Proofs.FormatNames
