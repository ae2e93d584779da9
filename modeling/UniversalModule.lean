import UniversalModule.FileTable
import UniversalModule.CommandLine.OnTree
import UniversalModule.Main
import UniversalModule.SourceMap.Reader
import UniversalModule.Proofs.Emission.Names
import UniversalModule.Proofs.Compile.Layout
import UniversalModule.Proofs.Compile.Bundling
import UniversalModule.Proofs.Compile.Requests
import UniversalModule.Proofs.Compile.Scanning
import UniversalModule.Proofs.SourceMap.Decoding
import UniversalModule.Proofs.Compile.SourceMapping
import UniversalModule.Proofs.Resolution.Selection
import UniversalModule.Proofs.SourceMap.Runs
import UniversalModule.Proofs.Emission.Hygiene
import UniversalModule.Proofs.Compile.Hygiene
import UniversalModule.Proofs.Compile.WithoutMap
import UniversalModule.Proofs.Emission.Statements
import UniversalModule.Proofs.Emission.Branches
import UniversalModule.Proofs.Compile.Exports
import UniversalModule.Proofs.Host.Following
import UniversalModule.Proofs.Host.Changes
import UniversalModule.Proofs.CommandLine.Folders
import UniversalModule.Proofs.CommandLine.Reading
import UniversalModule.Proofs.CommandLine.Effects
import UniversalModule.Proofs.Host.WellFormed
import UniversalModule.Proofs.CommandLine.OutputFolder
import UniversalModule.Proofs.Fragment.Braces
import UniversalModule.Proofs.Host.Writing
import UniversalModule.Proofs.CommandLine.Rebuilding
import UniversalModule.Proofs.Json.Values
import UniversalModule.Proofs.SourceMap.Forms
import UniversalModule.Proofs.Compile.Markers
import UniversalModule.Proofs.Compile.ProviderOrder
import UniversalModule.Proofs.DottedPath
import UniversalModule.Proofs.Requirement
import UniversalModule.Proofs.Dependencies
import UniversalModule.Proofs.CommandLine.Configuring
import UniversalModule.Proofs.SourceMap.Digits
import UniversalModule.Proofs.CommandLine.BundleFolder
import UniversalModule.Proofs.Project.RoundTrip
import UniversalModule.Proofs.Compile.Bookkeeping
