import BlockConfig.Main
import BlockConfig.Session
import BlockConfig.Store.Lemmas
import BlockConfig.Proofs.Session.Merge
import BlockConfig.Proofs.Session.ReadOnly
import BlockConfig.Proofs.Path.Refinement
import BlockConfig.Proofs.Session.History
import BlockConfig.Proofs.Session.Sharing
import BlockConfig.Proofs.Session.Client
import BlockConfig.Proofs.Store.Mirror
import BlockConfig.Proofs.Session.Locality
import BlockConfig.Proofs.Session.Twins
import BlockConfig.Proofs.CommandLine.Words
import BlockConfig.Proofs.CommandLine.Reading
import BlockConfig.Proofs.CommandLine.RoundTrip
import BlockConfig.Proofs.CommandLine.Sides
import BlockConfig.Proofs.Program.Verbosity
import BlockConfig.Proofs.Settings.Build
import BlockConfig.Proofs.Program.Causes
import BlockConfig.Proofs.Key.Names
import BlockConfig.Proofs.Session.Chains
import BlockConfig.Proofs.Session.BlockNames
import BlockConfig.Proofs.Session.Nesting
import BlockConfig.Proofs.Program.Blocks
import BlockConfig.Proofs.Program.Rebuilt
import BlockConfig.Proofs.Table.ByteOrder
import BlockConfig.Proofs.Session.Listing
import BlockConfig.Proofs.Session.Restore
import BlockConfig.Proofs.Session.Export
import BlockConfig.Proofs.Session.Layers
import BlockConfig.Proofs.Session.Commuting
import BlockConfig.Proofs.CommandLine.Writable
import BlockConfig.Proofs.Text.Reading
import BlockConfig.Proofs.Program.Assignable
import BlockConfig.Proofs.Program.Readable
import BlockConfig.Proofs.Text.JsonReading
import BlockConfig.Proofs.Session.JsonText
import BlockConfig.Proofs.Table.Range
import BlockConfig.Proofs.Key.Spelling
import BlockConfig.Proofs.Program.Series
import BlockConfig.Proofs.Session.Audit
