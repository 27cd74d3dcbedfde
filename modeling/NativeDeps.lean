import NativeDeps.Configuration
import NativeDeps.Failure
import NativeDeps.Host
import NativeDeps.Json.AsciiText
import NativeDeps.Json.Reader
import NativeDeps.Rendering
import NativeDeps.Yaml.Document
import NativeDeps.Value.Text
import NativeDeps.Logging.Level
import NativeDeps.Logging.Record
import NativeDeps.Logging.Registry
import NativeDeps.Provisioner
import NativeDeps.Environment
import NativeDeps.CommandLine
import NativeDeps.CommandLine.Places
import NativeDeps.Main
import NativeDeps.Proofs.Nix.Literal
import NativeDeps.Proofs.Resolution
import NativeDeps.Proofs.Nix.Inputs
import NativeDeps.Proofs.Text.Spelling
import NativeDeps.Proofs.Yaml.Escape
import NativeDeps.Proofs.Yaml.QuotedScalar
import NativeDeps.Proofs.Yaml.Character
import NativeDeps.Proofs.Yaml.DoubleQuoted
import NativeDeps.Proofs.Yaml.SingleQuoted
import NativeDeps.Proofs.Yaml.Lexer
import NativeDeps.Proofs.Yaml.PlainScalar
import NativeDeps.Proofs.Yaml.Field
import NativeDeps.Proofs.Yaml.WrittenText
import NativeDeps.Proofs.Manifest.Graph
import NativeDeps.Proofs.Manifest.Value
import NativeDeps.Proofs.Manifest.RoundTrip
import NativeDeps.Proofs.Files.Path
import NativeDeps.Proofs.Files.Tree
import NativeDeps.Proofs.Session.Work
import NativeDeps.Proofs.Session.Writing
import NativeDeps.Proofs.Session.Continuation
import NativeDeps.Proofs.Failure
import NativeDeps.Proofs.Provisioner.Run
import NativeDeps.Proofs.Provisioner.Shell
import NativeDeps.Proofs.Provisioner.Provision
import NativeDeps.Proofs.Session.Foretelling
import NativeDeps.Proofs.Provisioner.DryRun
import NativeDeps.Proofs.Workspace
import NativeDeps.Proofs.Environment
import NativeDeps.Proofs.Request
import NativeDeps.Proofs.DryRun
import NativeDeps.Proofs.ShellStart
import NativeDeps.Proofs.ShellOutcome
import NativeDeps.Proofs.PlatformTable
import NativeDeps.Proofs.Detection
import NativeDeps.Proofs.Validation
import NativeDeps.Proofs.Descriptor.Reading
import NativeDeps.Proofs.Text.LowerCase
import NativeDeps.Proofs.NamedPlatform
import NativeDeps.Proofs.ListedPlatform
import NativeDeps.Proofs.Session.Printing
import NativeDeps.Proofs.ShellExit
import NativeDeps.Proofs.BeforeStart
import NativeDeps.Proofs.WrittenFiles
import NativeDeps.Proofs.Logging.Records
import NativeDeps.Proofs.Descriptor.Violation
import NativeDeps.Proofs.Text.Blank
import NativeDeps.Proofs.Text.Halves
import NativeDeps.Proofs.RepeatedLookup
import NativeDeps.Proofs.Manner
import NativeDeps.Proofs.Session.Mirroring
import NativeDeps.Proofs.StandardOutput
import NativeDeps.Proofs.Session.Telling
import NativeDeps.Proofs.Session.Claims
import NativeDeps.Proofs.Provisioner.Claims
import NativeDeps.Proofs.RenderedExpression
import NativeDeps.Proofs.Nix.SameExpression
import NativeDeps.Proofs.AttributePaths
import NativeDeps.Proofs.LookupOrder
import NativeDeps.Proofs.Question
import NativeDeps.Proofs.NullPart
import NativeDeps.Proofs.LetterCase
import NativeDeps.Proofs.Loading
import NativeDeps.Proofs.ManifestPlace
import NativeDeps.Proofs.Json.RoundTrip
import NativeDeps.Proofs.JsonOutput
import NativeDeps.Proofs.BlankHost
import NativeDeps.Proofs.Logging.FailedOpening
import NativeDeps.Proofs.Logging.FullRecord
import NativeDeps.Proofs.Logging.Colours
import NativeDeps.Proofs.ReportedFiles
import NativeDeps.Proofs.Descriptor.WrittenForm
import NativeDeps.Proofs.PlatformMemory
