import GA330.Library.ByteMemory
import GA330.Library.CString
import GA330.Library.Traced
import GA330.Library.Machine
import GA330.Library.FileStream
import GA330.Library.BufferedStream
import GA330.Library.SettledStream
import GA330.Library.Consumer
import GA330.Library.Delimited
import GA330.Library.Unicode
import GA330.Library.PosixPath
import GA330.Library.Placement
import GA330.Library.Stdio
import GA330.Library.Slices
import GA330.Minisys.Builtins
import GA330.Thunks.Generator
import GA330.Thunks.Table
import GA330.Host.GuestMemory
import GA330.Thunks.Dispatch
import GA330.Thunks.Versions
import GA330.Dl.Format
import GA330.Dl.Loader
import GA330.Dl.Link
import GA330.Dl.Lookup
import GA330.Dl.Bounds
import GA330.Dl.Resources
import GA330.Dl.Outcome
import GA330.Dl.Resolve
import GA330.Dl.Reads
import GA330.Dl.Writer
import GA330.Minisys.Start
import GA330.Minisys.Layout
import GA330.Minisys.Heap
import GA330.Minisys.Data
import GA330.Host.Filesystem
import GA330.Host.Api
import GA330.Host.Strings
import GA330.Host.Paths
import GA330.Host.RoundTrip
import GA330.Host.Seeking
import GA330.Host.Transfer
import GA330.Host.StaleData
import GA330.Host.Session
import GA330.Host.Core
import GA330.Host.Arm
import GA330.Host.SaveState
import GA330.Host.Afresh
import GA330.Host.StackWalk
import GA330.Host.MemoryMap
import GA330.Host.Boot
import GA330.Host.Operation
import GA330.Host.BufferedFilesystem
import GA330.Host.Buffering
import GA330.Host.BufferedTransfer
import GA330.Host.Isolation
import GA330.Host.History
import GA330.Host.Imports
import GA330.Minisys.Files
import GA330.Host.Frames
import GA330.Host.Aborted
import GA330.Host.Frontend
import GA330.Minisys.ClosedFiles
import GA330.Minisys.BufferedFiles
