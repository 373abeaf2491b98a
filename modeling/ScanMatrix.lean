import ScanMatrix.Log
import ScanMatrix.Main
import ScanMatrix.Proofs.Lists
import ScanMatrix.Proofs.ByteOrder
import ScanMatrix.Proofs.Designator
import ScanMatrix.Proofs.NameMap
import ScanMatrix.Proofs.Terminal
import ScanMatrix.Proofs.Grid
import ScanMatrix.Proofs.Rendering
import ScanMatrix.Proofs.Nets
import ScanMatrix.Proofs.Addressing
import ScanMatrix.Proofs.Distinctness
import ScanMatrix.Proofs.DiodeWiring
import ScanMatrix.Proofs.Sites
import ScanMatrix.Proofs.Settings
import ScanMatrix.Proofs.Positions
import ScanMatrix.Proofs.Bounds
import ScanMatrix.Proofs.Centering
import ScanMatrix.Proofs.Reading
import ScanMatrix.Proofs.Acceptance
import ScanMatrix.Proofs.Alike
import ScanMatrix.Proofs.Legends
import ScanMatrix.Proofs.Uninterpreted
import ScanMatrix.Proofs.BoardNames
import ScanMatrix.Proofs.Extension
import ScanMatrix.Proofs.Translation
import ScanMatrix.Proofs.NameSequence
import ScanMatrix.Proofs.Store
import ScanMatrix.Proofs.Conversion
import ScanMatrix.Proofs.Reordering
import ScanMatrix.Proofs.Appending
import ScanMatrix.Proofs.Extent
import ScanMatrix.Proofs.Recentering
import ScanMatrix.Proofs.Splitting
import ScanMatrix.Proofs.Fields
import ScanMatrix.Proofs.Decoding
import ScanMatrix.Proofs.Writing
import ScanMatrix.Proofs.Pins
import ScanMatrix.Proofs.Direction
import ScanMatrix.Proofs.Ordinals
import ScanMatrix.Proofs.Paths
import ScanMatrix.Proofs.DefaultOutput
