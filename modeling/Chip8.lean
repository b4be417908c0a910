import Chip8.Console.Progress
import Chip8.Main
import Chip8.Proofs.Fetch
import Chip8.Proofs.Manual
import Chip8.Proofs.BitFields
import Chip8.Proofs.RowCut
import Chip8.Proofs.RowText
import Chip8.Proofs.Characters
import Chip8.Proofs.ReadBack
import Chip8.Proofs.Staleness
import Chip8.Proofs.Correlation
import Chip8.Proofs.Signs
import Chip8.Proofs.Loading
import Chip8.Proofs.Presentation
import Chip8.Proofs.RomIdentity
import Chip8.Proofs.RomFaults
import Chip8.Proofs.LastWriter
import Chip8.Proofs.Patching
import Chip8.Proofs.Unambiguous
import Chip8.Proofs.Transcript
import Chip8.Proofs.PlainRows
import Chip8.Proofs.Highlight
import Chip8.Proofs.Window
import Chip8.Proofs.FixedWidth
import Chip8.Proofs.ColourReader
import Chip8.Proofs.ReportRows
import Chip8.Proofs.ReportReadBack
import Chip8.Proofs.SnapshotSources
import Chip8.Proofs.LogSteps
import Chip8.Proofs.Threshold
import Chip8.Proofs.LogColour
import Chip8.Proofs.SignedBase
