import Workbench.Check
import Workbench.CommandLine.Interface
import Workbench.CommandLine.Reading
import Workbench.Disk.Folder
import Workbench.Disk.Path
import Workbench.Disk.Tree
import Workbench.Environment
import Workbench.Fault
import Workbench.Finish
import Workbench.Font.Bitmap
import Workbench.Font.Listing
import Workbench.Font.Strike
import Workbench.Font.Table
import Workbench.FontError
import Workbench.FontTool.Run
import Workbench.FontTool.Settings
import Workbench.FrameTool.Run
import Workbench.FrameTool.Settings
import Workbench.Log
import Workbench.Log.Directive
import Workbench.Log.Display
import Workbench.Log.Filter
import Workbench.Log.Pattern
import Workbench.Log.Pattern.Class
import Workbench.Log.Pattern.Escape
import Workbench.Log.Pattern.Expression
import Workbench.Log.Pattern.Mode
import Workbench.Log.Pattern.Nesting
import Workbench.Main
import Workbench.Net.Ethertype
import Workbench.Net.Frame
import Workbench.Net.HexDump
import Workbench.Net.MacAddress
import Workbench.Net.Network
import Workbench.Net.Sender
import Workbench.Number.Binary64
import Workbench.Number.Word
import Workbench.Printer
import Workbench.Proofs.Checks
import Workbench.Proofs.Font.Packing
import Workbench.Proofs.Text.Lines
import Workbench.Proofs.Version.Files
import Workbench.Proofs.Version.Idempotence
import Workbench.Proofs.Version.LastVersion
import Workbench.Proofs.Version.LineEdits
import Workbench.Proofs.Version.Reports
import Workbench.Proofs.Version.Rewriting
import Workbench.Proofs.Version.Settling
import Workbench.Proofs.Version.Trace
import Workbench.Proofs.Version.WholeRun
import Workbench.SystemError
import Workbench.Text.Alphanumeric
import Workbench.Text.Blank
import Workbench.Text.Capitals
import Workbench.Text.Digit
import Workbench.Text.Fields
import Workbench.Text.Line
import Workbench.Text.Octets
import Workbench.Text.Printable
import Workbench.Text.Quoted
import Workbench.Text.Ranges
import Workbench.Text.Remark
import Workbench.Toml.Key
import Workbench.Toml.Moment
import Workbench.Toml.Number
import Workbench.Toml.Quoted
import Workbench.Toml.Reading
import Workbench.Toml.Table
import Workbench.Toml.Trivia
import Workbench.Toml.Value
import Workbench.Tool
import Workbench.Version.Apply
import Workbench.Version.Complaint
import Workbench.Version.Decoding
import Workbench.Version.Document
import Workbench.Version.Patch
import Workbench.Version.Printing
import Workbench.Version.Store
import Workbench.Version.Target
import Workbench.Version.TargetList
import Workbench.VersionTool.Run
import Workbench.VersionTool.Settings
import Workbench.Proofs.Font.Pictures
import Workbench.Proofs.Font.Conversion
import Workbench.Proofs.Font.StandIns
import Workbench.Proofs.Disk.Folders
import Workbench.Proofs.FontTool.Delivery
import Workbench.Proofs.VersionTool.ExitStatus
import Workbench.Proofs.Text.Digits
import Workbench.Proofs.Net.FrameOctets
import Workbench.Proofs.Net.SenderRuns
import Workbench.Proofs.Text.Blanks
import Workbench.Proofs.Net.Addresses
import Workbench.Proofs.Net.HexDumps
import Workbench.Proofs.FrameTool.DryRun
import Workbench.Proofs.Text.JsonArrays
import Workbench.Proofs.Font.Listings
import Workbench.Proofs.Environment.References
import Workbench.Proofs.Toml.Spelling
import Workbench.Proofs.Toml.Statements
import Workbench.Proofs.Version.Documents
import Workbench.Proofs.Toml.Extent
import Workbench.Proofs.Toml.Tables
import Workbench.Proofs.Version.Variables
import Workbench.Proofs.Disk.FileMaps
import Workbench.Proofs.Logging
import Workbench.Proofs.Font.Places
import Workbench.Proofs.Version.Cuts
import Workbench.Proofs.Version.Reordering
import Workbench.Proofs.Version.ReadingBack
import Workbench.Proofs.Version.Separation
import Workbench.Proofs.Text.Numerals
import Workbench.Proofs.Net.Ethertypes
import Workbench.Proofs.Environment.Substitution
import Workbench.Proofs.Font.Calls
import Workbench.Proofs.Version.Validation
import Workbench.Proofs.Font.Buffers
