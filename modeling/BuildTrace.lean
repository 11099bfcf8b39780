import BuildTrace.Build.Abandon
import BuildTrace.Build.Dispatch
import BuildTrace.Build.Error
import BuildTrace.Build.Launch
import BuildTrace.Build.LineReader
import BuildTrace.Build.Origins
import BuildTrace.Build.Outcome
import BuildTrace.Build.Progress
import BuildTrace.Build.Run
import BuildTrace.CommandLine.Basic
import BuildTrace.CommandLine.Level
import BuildTrace.CommandLine.Outcome
import BuildTrace.CommandLine.Reader
import BuildTrace.Digest.Blake3
import BuildTrace.Directory.Announcement
import BuildTrace.Directory.Follow
import BuildTrace.Directory.Stack
import BuildTrace.FileSystem.Basic
import BuildTrace.FileSystem.Change
import BuildTrace.FileSystem.Error
import BuildTrace.Invocation.Basic
import BuildTrace.Invocation.Encoding
import BuildTrace.Invocation.Options
import BuildTrace.Invocation.Recognise
import BuildTrace.Json.Basic
import BuildTrace.Json.Decode
import BuildTrace.Json.Token
import BuildTrace.Json.Tree
import BuildTrace.Main
import BuildTrace.Number.Binary64
import BuildTrace.Number.Reading
import BuildTrace.Number.Shortest
import BuildTrace.Number.Width
import BuildTrace.Path.Basic
import BuildTrace.Path.Fold
import BuildTrace.Path.Native
import BuildTrace.Precompile.Cache
import BuildTrace.Precompile.Encoding
import BuildTrace.Precompile.Expand
import BuildTrace.Precompile.Header
import BuildTrace.Precompile.Include
import BuildTrace.Precompile.Key
import BuildTrace.Precompile.Stamp
import BuildTrace.Proofs.Build.Chunking
import BuildTrace.Proofs.Build.Lines
import BuildTrace.Proofs.Build.Log
import BuildTrace.Proofs.Build.Nesting
import BuildTrace.Proofs.Directory.Announcement
import BuildTrace.Proofs.FileSystem.Places
import BuildTrace.Proofs.Invocation.Labelled
import BuildTrace.Proofs.Path.Folding
import BuildTrace.Proofs.Path.Native
import BuildTrace.Proofs.Path.Order
import BuildTrace.Proofs.Path.Segments
import BuildTrace.Proofs.Precompile.CacheOrder
import BuildTrace.Proofs.Precompile.History
import BuildTrace.Proofs.Precompile.IncludeGraph
import BuildTrace.Proofs.Precompile.KeyFlags
import BuildTrace.Proofs.Precompile.NamedFiles
import BuildTrace.Proofs.Precompile.Provenance
import BuildTrace.Proofs.Precompile.Reach
import BuildTrace.Proofs.Precompile.Stamps
import BuildTrace.Proofs.Precompile.Verdict
import BuildTrace.Proofs.Precompile.Visits
import BuildTrace.Proofs.Row
import BuildTrace.Proofs.Shell.Words
import BuildTrace.Proofs.Text.Cut
import BuildTrace.Proofs.Text.Decoding
import BuildTrace.Proofs.Text.Lossy
import BuildTrace.Row
import BuildTrace.Settings.Basic
import BuildTrace.Settings.Encoding
import BuildTrace.Settings.Error
import BuildTrace.Settings.Layer
import BuildTrace.Settings.Printer
import BuildTrace.Settings.Reading
import BuildTrace.Settings.Source
import BuildTrace.Shell.Words
import BuildTrace.Text.Blank
import BuildTrace.Text.Case
import BuildTrace.Text.CharClass
import BuildTrace.Text.Letter
import BuildTrace.Text.Quoted
import BuildTrace.Text.Utf8
import BuildTrace.Toml.Basic
import BuildTrace.Toml.Document
import BuildTrace.Toml.Moment
import BuildTrace.Toml.Node
import BuildTrace.Toml.Printer
import BuildTrace.Toml.Quoted
import BuildTrace.Toml.Scalar
import BuildTrace.Proofs.FileSystem.Layout
import BuildTrace.Proofs.Invocation.Scans
import BuildTrace.Proofs.Precompile.Reproduction
import BuildTrace.Proofs.Build.Interleaving
import BuildTrace.Proofs.Build.Following
import BuildTrace.Proofs.Build.Calls
import BuildTrace.Proofs.Shell.Quoting
import BuildTrace.Proofs.Precompile.KeyOptions
import BuildTrace.Proofs.FileSystem.RealPath
import BuildTrace.Proofs.Precompile.OwnFile
import BuildTrace.Proofs.Directory.Entering
import BuildTrace.Proofs.Precompile.SharedCache
import BuildTrace.Proofs.Precompile.FailedCalls
import BuildTrace.Proofs.Precompile.SourceText
import BuildTrace.Proofs.Invocation.Names
import BuildTrace.Proofs.Invocation.Recognition
import BuildTrace.Proofs.Precompile.KeySpelling
import BuildTrace.Proofs.Invocation.SessionFlags
import BuildTrace.Proofs.Build.Origins
import BuildTrace.Proofs.Directory.OpenDirectories
import BuildTrace.Proofs.Directory.Occurrences
import BuildTrace.Proofs.Path.Action
import BuildTrace.Proofs.Json.Records
import BuildTrace.Proofs.CommandLine.Stream
import BuildTrace.Proofs.Toml.Strings
import BuildTrace.Proofs.Toml.Values
import BuildTrace.Proofs.Toml.Documents
import BuildTrace.Proofs.Settings.Layers
import BuildTrace.Proofs.Settings.Document
import BuildTrace.Proofs.Build.TakenLines
import BuildTrace.Proofs.Precompile.KeyDigest
