import Corridor.Notice
import Corridor.Main
import Corridor.Proofs.Checked
import Corridor.Proofs.History
import Corridor.Proofs.Evaluation
import Corridor.Proofs.RuleEntry
import Corridor.Proofs.Suppression
import Corridor.Proofs.Streams
import Corridor.Proofs.Inert
import Corridor.Proofs.Pieces
import Corridor.Proofs.Printable
import Corridor.Proofs.NormalForm
import Corridor.Proofs.SingleRecord
import Corridor.Proofs.LoadedTheme
import Corridor.Proofs.WellPlaced
import Corridor.Proofs.Objects
import Corridor.Proofs.SettingsScope
import Corridor.Proofs.HeaderText
import Corridor.Proofs.LevelString
import Corridor.Proofs.Emptiness
import Corridor.Proofs.Locality
import Corridor.Proofs.WindowShape
import Corridor.Proofs.Violations
import Corridor.Proofs.MergedColors
import Corridor.Proofs.LevelText
import Corridor.Proofs.ExitCode
import Corridor.Proofs.Untouched
import Corridor.Proofs.ThemeChoice
import Corridor.Proofs.NumeralGrammar
import Corridor.Proofs.BlockGrammar
import Corridor.Proofs.PlaceholderGrammar
import Corridor.Proofs.FilledBlock
import Corridor.Proofs.ColorForm
import Corridor.Proofs.Spots
import Corridor.Proofs.Diagonals
import Corridor.Proofs.Mirror
import Corridor.Proofs.WallOrder
import Corridor.Proofs.Base64Decoding
import Corridor.Proofs.EncodedText
import Corridor.Proofs.DistanceMarks
import Corridor.Proofs.Recurrence
import Corridor.Proofs.FallbackPlace
import Corridor.Proofs.SlotOrder
import Corridor.Proofs.Shadowing
import Corridor.Proofs.SinglePass
