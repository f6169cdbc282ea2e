import MediaImport.CommandLine.Arguments
import MediaImport.CommandLine.Report
import MediaImport.Exchange.HostFunctions
import MediaImport.Exchange.ObjectReading
import MediaImport.Exchange.ObjectTable
import MediaImport.Exchange.Property
import MediaImport.Exchange.Reading
import MediaImport.Failure
import MediaImport.Importer.Basic
import MediaImport.Importer.Catalogue
import MediaImport.Importer.Context
import MediaImport.Importer.PrintLog
import MediaImport.Importer.ScriptStore
import MediaImport.Json.Basic
import MediaImport.Json.Fields
import MediaImport.Json.Printer
import MediaImport.Json.Reader
import MediaImport.Main
import MediaImport.Media.Object
import MediaImport.Media.ObjectJson
import MediaImport.Media.OnlineService
import MediaImport.Media.Vocabulary
import MediaImport.Number.Decimal
import MediaImport.Number.Double
import MediaImport.Number.Numeral
import MediaImport.Number.Word
import MediaImport.Script.Behaviour
import MediaImport.Script.Evaluation
import MediaImport.Script.Heap
import MediaImport.Script.Interpreter
import MediaImport.Script.Library
import MediaImport.Script.Library.Arguments
import MediaImport.Script.Library.Base
import MediaImport.Script.Library.Coroutines
import MediaImport.Script.Library.Mathematics
import MediaImport.Script.Library.Strings
import MediaImport.Script.Library.System
import MediaImport.Script.Library.Tables
import MediaImport.Script.Machine
import MediaImport.Script.Operation
import MediaImport.Script.Parser
import MediaImport.Script.Pattern
import MediaImport.Script.Syntax
import MediaImport.Script.Token
import MediaImport.Script.Value
import MediaImport.Script.Wellformed
import MediaImport.Script.World
import MediaImport.Settings.Basic
import MediaImport.Settings.Charset
import MediaImport.Settings.Configuration
import MediaImport.Settings.Conversion
import MediaImport.Settings.Key
import MediaImport.Settings.Purpose
import MediaImport.Text.Blank
import MediaImport.Text.Bytes
import MediaImport.Text.Integer
import MediaImport.Text.Utf8
import MediaImport.Proofs.Text.Encoding
import MediaImport.Proofs.Text.Utf8
import MediaImport.Proofs.Script.TableContents
import MediaImport.Proofs.Exchange.PropertyValues
import MediaImport.Proofs.Exchange.ReadingOutcome
import MediaImport.Proofs.Exchange.ShownTable
import MediaImport.Proofs.Exchange.AskedProperties
import MediaImport.Proofs.Exchange.ReturnedObject
import MediaImport.Proofs.Exchange.RoundTrip
import MediaImport.Proofs.Exchange.Refusals
import MediaImport.Proofs.Script.Levels
import MediaImport.Proofs.Script.Endings
import MediaImport.Proofs.Script.ReadingWork
import MediaImport.Proofs.Importer.AddingCall
import MediaImport.Proofs.Importer.Courses
import MediaImport.Proofs.Script.HostState
import MediaImport.Proofs.Importer.History
import MediaImport.Proofs.Importer.Additions
import MediaImport.Proofs.Exchange.DescribedObject
import MediaImport.Proofs.Text.Integer
import MediaImport.Proofs.Exchange.RepeatedPasses
import MediaImport.Proofs.Exchange.PlaylistPass
import MediaImport.Proofs.CommandLine.Outcomes
import MediaImport.Proofs.Script.Assignments
import MediaImport.Proofs.Exchange.DocumentedProperties
import MediaImport.Proofs.Exchange.EditedTable
import MediaImport.Proofs.Text.LeadingInteger
import MediaImport.Proofs.Importer.TrackNumbers
import MediaImport.Proofs.Exchange.PlaylistEntries
import MediaImport.Proofs.Exchange.OmittedProperties
import MediaImport.Proofs.Importer.LiveContexts
import MediaImport.Proofs.Importer.LoadedPrograms
import MediaImport.Proofs.Importer.Halts
import MediaImport.Proofs.CommandLine.Jobs
import MediaImport.Proofs.Importer.Ownership
import MediaImport.Proofs.Importer.Isolation
import MediaImport.Proofs.Text.Separated
import MediaImport.Proofs.Settings.StoredTexts
import MediaImport.Proofs.Json.Numerals
import MediaImport.Proofs.Json.WrittenText
import MediaImport.Proofs.Json.Records
import MediaImport.Proofs.Number.WholeNumbers
import MediaImport.Proofs.Media.StoredForms
import MediaImport.Proofs.CommandLine.ReportedResult
import MediaImport.Proofs.Exchange.MissingType
import MediaImport.Proofs.Exchange.CopiedObject
import MediaImport.Proofs.Importer.CopyingCall
import MediaImport.Proofs.Importer.RepeatedCopies
import MediaImport.Proofs.Importer.AddedCopies
import MediaImport.Proofs.Script.ReachableTables
import MediaImport.Proofs.Importer.SeparateCopies
import MediaImport.Proofs.Number.ExactDoubles
import MediaImport.Proofs.Number.WrappedWords
import MediaImport.Proofs.Exchange.PropertyWords
import MediaImport.Proofs.Number.RationalValues
import MediaImport.Proofs.Exchange.AgreeingReaders
import MediaImport.Proofs.Text.WellFormed
import MediaImport.Proofs.Settings.ExactConversions
import MediaImport.Proofs.Text.Trimmed
import MediaImport.Proofs.Media.ServiceLists
import MediaImport.Proofs.Importer.CatalogueRuns
import MediaImport.Proofs.Text.ClampedInteger
import MediaImport.Proofs.Importer.PrintedLines
import MediaImport.Proofs.Importer.StoredScripts
