import ProgramFacts.Bundle
import ProgramFacts.Command.Arguments
import ProgramFacts.Command.Help
import ProgramFacts.Command.Response
import ProgramFacts.Digest
import ProgramFacts.Extract.Program
import ProgramFacts.Facts.Context
import ProgramFacts.Facts.Document
import ProgramFacts.Facts.Trap
import ProgramFacts.Files.Discovery
import ProgramFacts.Files.Path
import ProgramFacts.Files.Tree
import ProgramFacts.Json.Decoder
import ProgramFacts.Json.Draft
import ProgramFacts.Json.Printer
import ProgramFacts.Main
import ProgramFacts.Proofs.Extract.Bare
import ProgramFacts.Proofs.Extract.Closure
import ProgramFacts.Proofs.Extract.Distinct
import ProgramFacts.Proofs.Extract.Emission
import ProgramFacts.Proofs.Extract.Labelled
import ProgramFacts.Proofs.Extract.Layout
import ProgramFacts.Proofs.Extract.Order
import ProgramFacts.Proofs.Extract.Readback
import ProgramFacts.Proofs.Extract.Reader
import ProgramFacts.Proofs.Extract.Record
import ProgramFacts.Proofs.Extract.Regular
import ProgramFacts.Proofs.Extract.Rows
import ProgramFacts.Proofs.Extract.WalkAgreement
import ProgramFacts.Proofs.Facts.Columns
import ProgramFacts.Proofs.Facts.Identities
import ProgramFacts.Run.Extraction
import ProgramFacts.Run.Summary
import ProgramFacts.Syntax.Decode
import ProgramFacts.Syntax.Encode
import ProgramFacts.Syntax.NodeIndex
import ProgramFacts.Syntax.Spelling
import ProgramFacts.Syntax.Tree
import ProgramFacts.Text.Lines
import ProgramFacts.Text.OneLine
import ProgramFacts.Text.Quoted
import ProgramFacts.Proofs.Extract.Misfit
import ProgramFacts.Proofs.Extract.Renaming
import ProgramFacts.Proofs.Extract.Marks
import ProgramFacts.Proofs.Extract.References
import ProgramFacts.Proofs.Extract.Resolution
import ProgramFacts.Proofs.Extract.Agreement
import ProgramFacts.Proofs.Family
import ProgramFacts.Proofs.Facts.TrapRecords
import ProgramFacts.Proofs.Facts.TrapText
import ProgramFacts.Proofs.Extract.SharedSites
import ProgramFacts.Proofs.Extract.Introduction
import ProgramFacts.Proofs.Syntax.SteeredWalk
import ProgramFacts.Proofs.Dict
import ProgramFacts.Proofs.Json.Reading
import ProgramFacts.Proofs.Syntax.RoundTrip
import ProgramFacts.Proofs.RoundTrip
import ProgramFacts.Proofs.Facts.Requests
import ProgramFacts.Proofs.Extract.Sorts
import ProgramFacts.Proofs.Facts.Document
import ProgramFacts.Proofs.Bundle
import ProgramFacts.Proofs.Extract.Isolation
import ProgramFacts.Proofs.Facts.TrapOrder
import ProgramFacts.Proofs.Text.Lines
import ProgramFacts.Proofs.Text.Slices
import ProgramFacts.Proofs.Facts.Keys
import ProgramFacts.Proofs.Syntax.SchemaNames
import ProgramFacts.Proofs.Extract.Snippets
import ProgramFacts.Proofs.Extract.SnippetWidth
import ProgramFacts.Proofs.Run.Accounting
import ProgramFacts.Proofs.Files.FactPaths
import ProgramFacts.Proofs.Files.Writing
import ProgramFacts.Proofs.Run.FactFiles
import ProgramFacts.Proofs.Files.Containment
import ProgramFacts.Proofs.Json.Faults
import ProgramFacts.Proofs.Rejection
