import ServiceAtlas.Main
import ServiceAtlas.World
import ServiceAtlas.Proofs.Tables
import ServiceAtlas.Proofs.Template
import ServiceAtlas.Proofs.Traced
import ServiceAtlas.Proofs.UsageLine
import ServiceAtlas.Proofs.Accounting
import ServiceAtlas.Proofs.ClosedReferences
import ServiceAtlas.Proofs.Parameters
import ServiceAtlas.Proofs.TypeSpelling
import ServiceAtlas.Proofs.UsageGrammar
import ServiceAtlas.Proofs.Descriptions
import ServiceAtlas.Proofs.DistinctKeys
import ServiceAtlas.Proofs.Overlay
import ServiceAtlas.Proofs.RecordFields
import ServiceAtlas.Proofs.Runs
import ServiceAtlas.Proofs.Layers
import ServiceAtlas.Proofs.DirectSettings
import ServiceAtlas.Proofs.SettingsFiles
import ServiceAtlas.Proofs.Precedence
import ServiceAtlas.Proofs.FileText
import ServiceAtlas.Proofs.Numerals
import ServiceAtlas.Proofs.JsonReadBack
import ServiceAtlas.Proofs.WholeFiles
import ServiceAtlas.Proofs.WrittenArtifacts
import ServiceAtlas.Proofs.SavedPayloads
import ServiceAtlas.Proofs.Retries
import ServiceAtlas.Proofs.Fetching
import ServiceAtlas.Proofs.RouteListing
import ServiceAtlas.Proofs.CellText
import ServiceAtlas.Proofs.FailedWrites
import ServiceAtlas.Proofs.WithdrawnArtifacts
import ServiceAtlas.Proofs.SchemaFragments
import ServiceAtlas.Proofs.LastEntries
import ServiceAtlas.Proofs.SparedFiles
import ServiceAtlas.Proofs.PartialDumps
import ServiceAtlas.Proofs.FoundFiles
import ServiceAtlas.Proofs.BadFiles
import ServiceAtlas.Proofs.RenamedReferences
import ServiceAtlas.Proofs.RouteKeys
import ServiceAtlas.Proofs.FullTypes
import ServiceAtlas.Proofs.CatalogueEntries
import ServiceAtlas.Proofs.Shapes
import ServiceAtlas.Proofs.OtherVocabularies
import ServiceAtlas.Proofs.CatalogueForms
import ServiceAtlas.Proofs.UsageGrowth
import ServiceAtlas.Proofs.MergedTables
import ServiceAtlas.Proofs.ReaderLimits
import ServiceAtlas.Proofs.ShownSettings
import ServiceAtlas.Proofs.OverrideFiles
import ServiceAtlas.Proofs.CredentialHeader
import ServiceAtlas.Proofs.InputDescriptions
import ServiceAtlas.Proofs.AtomicWrites
import ServiceAtlas.Proofs.WrittenNames
import ServiceAtlas.Proofs.Cursors
import ServiceAtlas.Proofs.TextLayout
import ServiceAtlas.Proofs.QuotedText
import ServiceAtlas.Proofs.PlainText
import ServiceAtlas.Proofs.Patterns
import ServiceAtlas.Proofs.ScalarWords
import ServiceAtlas.Proofs.SeenValues
import ServiceAtlas.Proofs.InlineText
import ServiceAtlas.Proofs.PrintableText
import ServiceAtlas.Proofs.TokenSteps
import ServiceAtlas.Proofs.BlockTokens
import ServiceAtlas.Proofs.NodeGraphs
import ServiceAtlas.Proofs.BuiltData
import ServiceAtlas.Proofs.FaultyTokens
import ServiceAtlas.Proofs.YamlReadBack
