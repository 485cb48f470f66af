import Textmode.Ansi.Artwork
import Textmode.Charset.Decode
import Textmode.Sauce.Draft
import Textmode.Sauce.Listing.Printer
import Textmode.Text.ColumnWidth
import Textmode.Proofs.Bytes
import Textmode.Proofs.Field
import Textmode.Proofs.Block
import Textmode.Proofs.Comments
import Textmode.Proofs.File
import Textmode.Proofs.RoundTrip
import Textmode.Proofs.Sink
import Textmode.Proofs.Content
import Textmode.Proofs.ClaimedRoom
import Textmode.Proofs.Rewriting
import Textmode.Proofs.Lines
import Textmode.Proofs.Chunks
import Textmode.Proofs.Date
import Textmode.Proofs.Draft
import Textmode.Proofs.WellFormed
import Textmode.Proofs.DraftComments
import Textmode.Proofs.Flags
import Textmode.Proofs.Reopening
import Textmode.Proofs.EscapeSequence
import Textmode.Proofs.Instructions
import Textmode.Proofs.CutPoint
import Textmode.Proofs.Markup
import Textmode.Proofs.Indent
import Textmode.Proofs.Listing.Printer
import Textmode.Proofs.Listing.Members
import Textmode.Proofs.Json.Integers
import Textmode.Proofs.Stack
import Textmode.Proofs.Parameters
import Textmode.Proofs.Blinking
import Textmode.Proofs.Palette
import Textmode.Proofs.Rendering
import Textmode.Proofs.NormalProse
import Textmode.Proofs.Checked.File
import Textmode.Proofs.Columns
import Textmode.Proofs.ScreenSize
import Textmode.Proofs.DraftDates
import Textmode.Proofs.ShortWrite
import Textmode.Proofs.CodePage
import Textmode.Proofs.Pieces
