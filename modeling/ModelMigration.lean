import ModelMigration.Disk.FileTree
import ModelMigration.Session
import ModelMigration.Main
import ModelMigration.Proofs.Json.FieldLines
import ModelMigration.Proofs.Cache.FramedParts
import ModelMigration.Proofs.Cache.Coverage
import ModelMigration.Proofs.Compile.Endings
import ModelMigration.Proofs.Compile.InMemory
import ModelMigration.Proofs.Session.Runs
import ModelMigration.Proofs.Cache.Keys
import ModelMigration.Proofs.Session.Transparency
import ModelMigration.Proofs.Cache.Listing
import ModelMigration.Proofs.Session.FirstContents
import ModelMigration.Proofs.Path.Route
import ModelMigration.Proofs.Path.Parents
import ModelMigration.Proofs.Disk.Following
import ModelMigration.Proofs.Disk.Places
import ModelMigration.Proofs.Disk.Making
import ModelMigration.Proofs.Disk.Writing
import ModelMigration.Proofs.Compile.Rejection
import ModelMigration.Proofs.Disk.PlainPaths
import ModelMigration.Proofs.Disk.Reaching
import ModelMigration.Proofs.Disk.FilesIn
import ModelMigration.Proofs.Disk.FileNames
import ModelMigration.Proofs.Disk.Mirror
import ModelMigration.Proofs.Disk.MirroredStores
import ModelMigration.Proofs.Disk.MirroredListing
import ModelMigration.Proofs.Compile.OnDisk
import ModelMigration.Proofs.Session.OnDisk
import ModelMigration.Proofs.Text.ByteOrder
import ModelMigration.Proofs.Time.Dates
import ModelMigration.Proofs.Time.Stamps
import ModelMigration.Proofs.Path.PartNames
import ModelMigration.Proofs.Output.Files
import ModelMigration.Proofs.Session.Compiled
import ModelMigration.Proofs.Session.Placement
import ModelMigration.Proofs.Json.Indented
import ModelMigration.Proofs.Document.ReadBack
import ModelMigration.Proofs.Disk.Recording
import ModelMigration.Proofs.CommandLine.Steps
import ModelMigration.Proofs.CommandLine.Reported
import ModelMigration.Proofs.Disk.Leading
import ModelMigration.Proofs.Disk.Filing
import ModelMigration.Proofs.Text.NameSizes
import ModelMigration.Proofs.Compile.InTree
import ModelMigration.Proofs.CommandLine.InTree
import ModelMigration.Proofs.Cache.SharedParts
import ModelMigration.Proofs.Compile.Again
import ModelMigration.Proofs.CommandLine.Rerun
import ModelMigration.Proofs.Columns.Declared
import ModelMigration.Proofs.Text.Trimming
import ModelMigration.Proofs.Text.Identifiers
import ModelMigration.Proofs.Columns.Directives
import ModelMigration.Proofs.Columns.Accepted
import ModelMigration.Proofs.Columns.PrimaryKeys
import ModelMigration.Proofs.Text.Replacing
import ModelMigration.Proofs.Text.Lowering
import ModelMigration.Proofs.Template.Filling
import ModelMigration.Proofs.Template.Placeholders
import ModelMigration.Proofs.Template.Rendering
import ModelMigration.Proofs.Columns.ReadBack
import ModelMigration.Proofs.Extension.SoftDeletes
import ModelMigration.Proofs.Extension.RenderedMigrations
import ModelMigration.Proofs.Path.Templates
import ModelMigration.Proofs.Text.FinalSigma
import ModelMigration.Proofs.Disk.EntryListing
import ModelMigration.Proofs.Compile.Directory
import ModelMigration.Proofs.Json.Grammar
import ModelMigration.Proofs.Json.Skipping
import ModelMigration.Proofs.Json.Respelling
import ModelMigration.Proofs.Json.Accepting
import ModelMigration.Proofs.Json.Alike
import ModelMigration.Proofs.Document.Reformatting
import ModelMigration.Proofs.Disk.Clearing
import ModelMigration.Proofs.Template.Unresolved
import ModelMigration.Proofs.CommandLine.DerivedNames
import ModelMigration.Proofs.Time.CalendarTime
import ModelMigration.Proofs.Session.Dating
import ModelMigration.Proofs.Extension.Calls
import ModelMigration.Proofs.Path.Order
import ModelMigration.Proofs.Output.LastTexts
