import MappingMarkers.Text.Case
import MappingMarkers.Text.Integer
import MappingMarkers.Text.Lines
import MappingMarkers.Text.Utf8
import MappingMarkers.Identifier
import MappingMarkers.Declaration
import MappingMarkers.Attribute
import MappingMarkers.Keys
import MappingMarkers.Marker
import MappingMarkers.SourceBuffer
import MappingMarkers.Log
import MappingMarkers.Injection
import MappingMarkers.Catalog.Session
import MappingMarkers.Failure
import MappingMarkers.Files.Glob
import MappingMarkers.Fault
import MappingMarkers.Settings
import MappingMarkers.Files.Source
import MappingMarkers.Catalog.KeyReader
import MappingMarkers.Catalog.ColumnCheck
import MappingMarkers.Catalog.Connection
import MappingMarkers.Catalog.Injection
import MappingMarkers.FileReport
import MappingMarkers.Run
import MappingMarkers.CommandLine.Program
import MappingMarkers.Main
import MappingMarkers.Proofs.RepeatedInjection
import MappingMarkers.Proofs.FileIsolation
import MappingMarkers.Proofs.DryRunPrediction
import MappingMarkers.Proofs.LinewiseAttributes
import MappingMarkers.Proofs.InjectedAttributes
import MappingMarkers.Proofs.KeyGrouping
import MappingMarkers.Proofs.Validation
import MappingMarkers.Proofs.RunEndings
import MappingMarkers.Proofs.BuildGate
import MappingMarkers.Proofs.ConnectionLifetime
import MappingMarkers.Proofs.BufferInsertions
import MappingMarkers.Proofs.CopyRecognition
import MappingMarkers.Proofs.UserCache
import MappingMarkers.Proofs.ColumnDrift
import MappingMarkers.Proofs.KeyLoading
import MappingMarkers.Proofs.SuccessiveInjection
import MappingMarkers.Proofs.KeyOrder
import MappingMarkers.Proofs.OwnAttributes
import MappingMarkers.Proofs.TableArguments
import MappingMarkers.Proofs.DeclarationGrammar
import MappingMarkers.Proofs.NavigationGrammar
import MappingMarkers.Proofs.ColumnMarkers
import MappingMarkers.Proofs.Utf8RoundTrip
import MappingMarkers.Proofs.LinkedWalk
import MappingMarkers.Proofs.FileRoundTrip
import MappingMarkers.Proofs.SourceSearch
import MappingMarkers.Proofs.DirectoryPaths
import MappingMarkers.Proofs.SourceInventory
import MappingMarkers.Proofs.LineEnds
import MappingMarkers.Proofs.ConnectionStrings
import MappingMarkers.Proofs.PascalNames
import MappingMarkers.Proofs.ConnectionStrings
