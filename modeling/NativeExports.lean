import NativeExports.Assembler.Alias
import NativeExports.Assembler.Ident
import NativeExports.Assembler.Program
import NativeExports.Assembler.TypeText
import NativeExports.Attribute
import NativeExports.Cache
import NativeExports.Cli.Command
import NativeExports.Cli.Completion
import NativeExports.Cli.CompletionScript
import NativeExports.Cli.Flag
import NativeExports.Cli.Help
import NativeExports.Cli.Invocation
import NativeExports.Cli.Reach
import NativeExports.Cli.Run
import NativeExports.Cli.Tool
import NativeExports.Description
import NativeExports.Export.Candidate
import NativeExports.Export.Ordinal
import NativeExports.Fault
import NativeExports.Findings
import NativeExports.Glob
import NativeExports.Glob.Compile
import NativeExports.Glob.Matcher
import NativeExports.Glob.Syntax
import NativeExports.Identity
import NativeExports.Image
import NativeExports.Image.Codec
import NativeExports.Image.Draft
import NativeExports.Image.File
import NativeExports.Loader
import NativeExports.Main
import NativeExports.Marshal.Directive
import NativeExports.Marshal.Kind
import NativeExports.MessagePack.Read
import NativeExports.MessagePack.Library
import NativeExports.MessagePack.Write
import NativeExports.Module
import NativeExports.Path
import NativeExports.Session
import NativeExports.Settings
import NativeExports.Signature
import NativeExports.Signature.Notation
import NativeExports.Text.Blank
import NativeExports.Text.Break
import NativeExports.Text.Bytes
import NativeExports.Text.Case
import NativeExports.Text.Decimal
import NativeExports.Text.Graphic
import NativeExports.Text.Hex
import NativeExports.Text.Integer
import NativeExports.Text.Letter
import NativeExports.Text.Quote
import NativeExports.Text.Split
import NativeExports.Text.Ranges
import NativeExports.Text.Shortest
import NativeExports.Text.Table
import NativeExports.Text.Wide
import NativeExports.Text.Width
import NativeExports.Toml.Decode
import NativeExports.Toml.Lexer
import NativeExports.Toml.Read
import NativeExports.Toml.Value
import NativeExports.Toolchain
import NativeExports.Workspace
import NativeExports.Proofs.OrdinalAllocation
import NativeExports.Proofs.MethodEntries
import NativeExports.Proofs.CandidateScan
import NativeExports.Proofs.AliasResolution
import NativeExports.Proofs.ProgramText
import NativeExports.Proofs.NotationReading
import NativeExports.Proofs.TypeNotation
import NativeExports.Proofs.ExceptSteps
import NativeExports.Proofs.ReferenceBinding
import NativeExports.Proofs.SearchLog
import NativeExports.Proofs.ReferenceTable
import NativeExports.Proofs.MessagePackReading
import NativeExports.Proofs.ImageCodec
import NativeExports.Proofs.PathCleaning
import NativeExports.Proofs.CacheIndexing
import NativeExports.Proofs.WorkspaceFrame
import NativeExports.Proofs.CacheRun
import NativeExports.Proofs.MarshalDirective
import NativeExports.Proofs.IdentityKey
import NativeExports.Proofs.ScanFindings
import NativeExports.Proofs.FindingCollection
import NativeExports.Proofs.AssemblerChoice
import NativeExports.Proofs.ParsedRendering
import NativeExports.Proofs.WrittenNames
import NativeExports.Proofs.TypeTextDecoding
import NativeExports.Proofs.CommandLineSplit
import NativeExports.Proofs.TableLayout
import NativeExports.Proofs.ExportShorthand
import NativeExports.Proofs.BuildCleanup
import NativeExports.Proofs.AliasStability
import NativeExports.Proofs.NotationBudget
