import CompilerDriver.Catalogue.Encoding
import CompilerDriver.Help.SettingsJson
import CompilerDriver.Json.Reader
import CompilerDriver.Main
import CompilerDriver.Registry.Session
import CompilerDriver.Proofs.Catalogue.Encoding
import CompilerDriver.Proofs.Catalogue.Rows
import CompilerDriver.Proofs.Catalogue.Values
import CompilerDriver.Proofs.CommandLine.Runs
import CompilerDriver.Proofs.FileType.Names
import CompilerDriver.Proofs.FileType.Records
import CompilerDriver.Proofs.FileType.Table
import CompilerDriver.Proofs.Help.Delivery
import CompilerDriver.Proofs.Help.Extension
import CompilerDriver.Proofs.Help.Groups
import CompilerDriver.Proofs.Help.Hidden
import CompilerDriver.Proofs.Help.Layout
import CompilerDriver.Proofs.Help.Loading
import CompilerDriver.Proofs.Help.Saving
import CompilerDriver.Proofs.Help.SettingsJson
import CompilerDriver.Proofs.Help.SortKey
import CompilerDriver.Proofs.Registry.Dispatch
import CompilerDriver.Proofs.Registry.Extension
import CompilerDriver.Proofs.Registry.Lineage
import CompilerDriver.Proofs.Registry.Reordering
import CompilerDriver.Proofs.Registry.Reports
import CompilerDriver.Proofs.Registry.Sharing
