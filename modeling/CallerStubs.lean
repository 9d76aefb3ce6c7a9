import CallerStubs.Api.Basic
import CallerStubs.Api.Build
import CallerStubs.ClassFiles
import CallerStubs.CommandLine.Failure
import CallerStubs.CommandLine.Invocation
import CallerStubs.CommandLine.Outcome
import CallerStubs.Document.Basic
import CallerStubs.Document.Markup
import CallerStubs.Exchange
import CallerStubs.Fault
import CallerStubs.FileTree
import CallerStubs.Generation
import CallerStubs.HostType
import CallerStubs.Main
import CallerStubs.Markup.Attribute
import CallerStubs.Markup.Basic
import CallerStubs.Markup.Division
import CallerStubs.Markup.Entry
import CallerStubs.Markup.Part
import CallerStubs.Markup.Prefix
import CallerStubs.Markup.Reader
import CallerStubs.Markup.Reference
import CallerStubs.Marshalling
import CallerStubs.Notice
import CallerStubs.Outline
import CallerStubs.Param
import CallerStubs.Proofs.Api.Description
import CallerStubs.Proofs.Api.FirstFault
import CallerStubs.Proofs.Api.Projection
import CallerStubs.Proofs.Api.Rearrangement
import CallerStubs.Proofs.Api.Shorthand
import CallerStubs.Proofs.Api.Types
import CallerStubs.Proofs.Api.WellFormed
import CallerStubs.Proofs.ClassFiles.Includes
import CallerStubs.Proofs.ClassFiles.Layout
import CallerStubs.Proofs.ClassFiles.Template
import CallerStubs.Proofs.CommandLine.Check
import CallerStubs.Proofs.CommandLine.Override
import CallerStubs.Proofs.CommandLine.Settings
import CallerStubs.Proofs.CommandLine.Summary
import CallerStubs.Proofs.Correspondence
import CallerStubs.Proofs.Document.Markup
import CallerStubs.Proofs.Exchange
import CallerStubs.Proofs.Exchange.Order
import CallerStubs.Proofs.Exchange.Selection
import CallerStubs.Proofs.FileTree.Confinement
import CallerStubs.Proofs.FileTree.Operations
import CallerStubs.Proofs.FileTree.Path
import CallerStubs.Proofs.FileTree.Walk
import CallerStubs.Proofs.Generation.Agreement
import CallerStubs.Proofs.Generation.Alike
import CallerStubs.Proofs.Generation.Brackets
import CallerStubs.Proofs.Generation.Definition
import CallerStubs.Proofs.Generation.Hygiene
import CallerStubs.Proofs.Generation.Methods
import CallerStubs.Proofs.Generation.Names
import CallerStubs.Proofs.Generation.Proxies
import CallerStubs.Proofs.Generation.Release
import CallerStubs.Proofs.Markup.Attribute
import CallerStubs.Proofs.Markup.Entry
import CallerStubs.Proofs.Markup.Reader
import CallerStubs.Proofs.Markup.Reference
import CallerStubs.Proofs.Marshalling
import CallerStubs.Proofs.Outline
import CallerStubs.Proofs.Outline.Writer
import CallerStubs.Proofs.Param
import CallerStubs.Proofs.Param.Modified
import CallerStubs.Proofs.Reference
import CallerStubs.Proofs.Registry
import CallerStubs.Proofs.Registry.History
import CallerStubs.Proofs.Run.Confinement
import CallerStubs.Proofs.Run.Faults
import CallerStubs.Proofs.Run.Generate
import CallerStubs.Proofs.Run.Repetition
import CallerStubs.Proofs.Run.Write
import CallerStubs.Proofs.Settings.File
import CallerStubs.Proofs.Text.Apart
import CallerStubs.Proofs.Text.Blank
import CallerStubs.Proofs.Text.Number
import CallerStubs.Proofs.Text.SnakeCase
import CallerStubs.Proofs.Text.Split
import CallerStubs.Proofs.Text.Words
import CallerStubs.Proofs.TypePath
import CallerStubs.Proofs.Yaml.Block
import CallerStubs.Proofs.Yaml.Character
import CallerStubs.Proofs.Yaml.Layout
import CallerStubs.Proofs.Yaml.Mapping
import CallerStubs.Proofs.Yaml.Plain
import CallerStubs.Proofs.Yaml.Quoted
import CallerStubs.Proofs.Yaml.Style
import CallerStubs.QtRelease
import CallerStubs.Registry
import CallerStubs.Run
import CallerStubs.Settings.Basic
import CallerStubs.Settings.File
import CallerStubs.Stub
import CallerStubs.Text.Blank
import CallerStubs.Text.CaseMap
import CallerStubs.Text.Letter
import CallerStubs.Text.Number
import CallerStubs.Text.Printable
import CallerStubs.Text.Quoted
import CallerStubs.Text.SnakeCase
import CallerStubs.Text.Span
import CallerStubs.Text.Split
import CallerStubs.TypePath
import CallerStubs.Yaml.Block
import CallerStubs.Yaml.Character
import CallerStubs.Yaml.Cursor
import CallerStubs.Yaml.Gap
import CallerStubs.Yaml.Layout
import CallerStubs.Yaml.Node
import CallerStubs.Yaml.Plain
import CallerStubs.Yaml.Quoted
import CallerStubs.Yaml.Style
import CallerStubs.Yaml.Token
import CallerStubs.Yaml.Typed
