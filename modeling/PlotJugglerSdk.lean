import PlotJugglerSdk.Abi.OutputBlocks
import PlotJugglerSdk.Plugin.OlderRoute
import PlotJugglerSdk.Plugin.ErrorKinds
import PlotJugglerSdk.Plugin.RouteClaims
import PlotJugglerSdk.Builtin.Robustness
import PlotJugglerSdk.Host.AcceptedObjects
import PlotJugglerSdk.ParserModule.BuiltObjects
import PlotJugglerSdk.ParserModule.ModuleExports
import PlotJugglerSdk.Host.ModuleInstance
import PlotJugglerSdk.Host.ProbeCache
import PlotJugglerSdk.Source.JoinableJob
import PlotJugglerSdk.Source.JobJoin
import PlotJugglerSdk.Source.ProviderJob
import PlotJugglerSdk.Source.CacheSafety
import PlotJugglerSdk.Dialog.EventRoundTrip
import PlotJugglerSdk.ParserModule.ProtoScan
import PlotJugglerSdk.Host.ManifestSection
import PlotJugglerSdk.Source.Lifecycle
import PlotJugglerSdk.Host.FunctionalParse
import PlotJugglerSdk.Host.SchemaQueries
import PlotJugglerSdk.Abi.Enumerations
import PlotJugglerSdk.ParserModule.CdrRefinement
import PlotJugglerSdk.ParserModule.ProtoPaths
import PlotJugglerSdk.Dialog.WidgetChannels
import PlotJugglerSdk.Builtin.TimeMath
import PlotJugglerSdk.ParserModule.ScannerAgreement
import PlotJugglerSdk.ParserModule.Timestamps
import PlotJugglerSdk.Builtin.GridLayout
import PlotJugglerSdk.Builtin.BufferLayouts
import PlotJugglerSdk.Host.Spellings
import PlotJugglerSdk.Source.CancelHooks
import PlotJugglerSdk.Source.CleanupRuns
import PlotJugglerSdk.Source.CleanupRace
import PlotJugglerSdk.Base.SliderWindow
import PlotJugglerSdk.Host.SemVer
import PlotJugglerSdk.Host.Precedence
import PlotJugglerSdk.Base.TimeFormat
import PlotJugglerSdk.Base.TypeTree
import PlotJugglerSdk.Source.Sha256
import PlotJugglerSdk.Source.SourceDescriptor
import PlotJugglerSdk.Source.SettingsGroup
import PlotJugglerSdk.Source.Origin
import PlotJugglerSdk.Dialog.EventDispatch
import PlotJugglerSdk.Dialog.TreeSnapshots
import PlotJugglerSdk.Dialog.TableDeltas
import PlotJugglerSdk.Source.TimestampPolicy
import PlotJugglerSdk.Dialog.WidgetTexts
import PlotJugglerSdk.Dialog.Pickers
import PlotJugglerSdk.Source.EvaluationReport
import PlotJugglerSdk.ParserModule.Diagnostics
import PlotJugglerSdk.Host.ProbeReports
import PlotJugglerSdk.Base.TopicMetadata
import PlotJugglerSdk.Dialog.ViewGetters
import PlotJugglerSdk.Source.CacheLayout
import PlotJugglerSdk.Host.ServiceBindings
import PlotJugglerSdk.Dialog.WidgetRoundTrip
import PlotJugglerSdk.Source.IngestCompletion
import PlotJugglerSdk.Widget.WidgetHistory
import PlotJugglerSdk.Widget.WidgetPanel
import PlotJugglerSdk.Host.StrikeTracker
import PlotJugglerSdk.Host.PluginCatalog
import PlotJugglerSdk.Source.StopPoller
import PlotJugglerSdk.Source.DelegatedIngest
import PlotJugglerSdk.Source.SettlementLatch
import PlotJugglerSdk.Source.DescriptorImport
import PlotJugglerSdk.Builtin.FieldTable
import PlotJugglerSdk.Builtin.FieldTables
