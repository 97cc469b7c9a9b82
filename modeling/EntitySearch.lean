import EntitySearch.Analysis.Analyzer
import EntitySearch.Analysis.EnglishStem
import EntitySearch.Analysis.StopWords.Chinese
import EntitySearch.Analysis.StopWords.English
import EntitySearch.Analysis.StopWords.European
import EntitySearch.Analysis.Token
import EntitySearch.Cluster.Broadcast
import EntitySearch.Cluster.Coordination
import EntitySearch.Cluster.Membership
import EntitySearch.Cluster.Message
import EntitySearch.Cluster.Ranking
import EntitySearch.Cluster.Wire
import EntitySearch.Collection.Table
import EntitySearch.Collection.Total
import EntitySearch.CommandLine.Arguments
import EntitySearch.CommandLine.Site
import EntitySearch.Deployment.Background
import EntitySearch.Deployment.Questions
import EntitySearch.Deployment.State
import EntitySearch.Document.Basic
import EntitySearch.Document.Kind
import EntitySearch.Entity
import EntitySearch.Failure
import EntitySearch.Index.Archive
import EntitySearch.Index.Change
import EntitySearch.Index.Content
import EntitySearch.Index.Directory
import EntitySearch.Index.LocalIndex
import EntitySearch.Index.Posting
import EntitySearch.Json.QuotedText
import EntitySearch.Json.Reader
import EntitySearch.Json.Value
import EntitySearch.Json.Writer
import EntitySearch.Main
import EntitySearch.Numeric.BinaryFormat
import EntitySearch.Numeric.Double
import EntitySearch.Numeric.DoubleText
import EntitySearch.Numeric.Logarithm
import EntitySearch.Numeric.Rounding
import EntitySearch.Numeric.Scientific
import EntitySearch.Numeric.Shortest
import EntitySearch.Numeric.Single
import EntitySearch.Pattern.Automaton
import EntitySearch.Pattern.Basic
import EntitySearch.Pattern.Glob
import EntitySearch.Proofs.AlikePlans
import EntitySearch.Proofs.BalancedReading
import EntitySearch.Proofs.BooleanOperators
import EntitySearch.Proofs.BroadcastPassages
import EntitySearch.Proofs.CamelCaseNames
import EntitySearch.Proofs.CarriedVersions
import EntitySearch.Proofs.CatchUpScan
import EntitySearch.Proofs.CheckedRanges
import EntitySearch.Proofs.ChronicledIndex
import EntitySearch.Proofs.ClippedListings
import EntitySearch.Proofs.CommandAnswers
import EntitySearch.Proofs.CommittedDocuments
import EntitySearch.Proofs.CountRounds
import EntitySearch.Proofs.CurrentIndex
import EntitySearch.Proofs.DeclaredFields
import EntitySearch.Proofs.DeploymentLife
import EntitySearch.Proofs.DescribedIndexes
import EntitySearch.Proofs.DocumentTerms
import EntitySearch.Proofs.ExactScores
import EntitySearch.Proofs.FieldClauses
import EntitySearch.Proofs.FoldedWildcards
import EntitySearch.Proofs.FormatExactness
import EntitySearch.Proofs.FreshIndexes
import EntitySearch.Proofs.GatheredAnswers
import EntitySearch.Proofs.GlobLanguage
import EntitySearch.Proofs.IdleBoosts
import EntitySearch.Proofs.IndexChronicle
import EntitySearch.Proofs.IndexLife
import EntitySearch.Proofs.IndexUpkeep
import EntitySearch.Proofs.IntegerRanges
import EntitySearch.Proofs.InterruptedBatches
import EntitySearch.Proofs.IsolatedBroadcasts
import EntitySearch.Proofs.JsonLaws
import EntitySearch.Proofs.LosslessWire
import EntitySearch.Proofs.NodeListings
import EntitySearch.Proofs.NodeWindows
import EntitySearch.Proofs.Outcomes
import EntitySearch.Proofs.OwnedDocuments
import EntitySearch.Proofs.Pagination
import EntitySearch.Proofs.PairedPools
import EntitySearch.Proofs.PlanSigns
import EntitySearch.Proofs.PoolClosing
import EntitySearch.Proofs.PoolCoherence
import EntitySearch.Proofs.PoolHistory
import EntitySearch.Proofs.PoolInventory
import EntitySearch.Proofs.PoolStalls
import EntitySearch.Proofs.PoolSteps
import EntitySearch.Proofs.PoolWakeups
import EntitySearch.Proofs.PoolWorlds
import EntitySearch.Proofs.PrintedParts
import EntitySearch.Proofs.PrintedQueries
import EntitySearch.Proofs.ProjectRemoval
import EntitySearch.Proofs.QuotedSearches
import EntitySearch.Proofs.QuotedTextLaws
import EntitySearch.Proofs.RankedMerge
import EntitySearch.Proofs.ReachedDeployments
import EntitySearch.Proofs.ReadingInGroups
import EntitySearch.Proofs.ReadingProgress
import EntitySearch.Proofs.RemovedEntities
import EntitySearch.Proofs.ReplacedDocuments
import EntitySearch.Proofs.ResumedScans
import EntitySearch.Proofs.ScoreSigns
import EntitySearch.Proofs.SearchRounds
import EntitySearch.Proofs.SeparateNodes
import EntitySearch.Proofs.SeparatedTexts
import EntitySearch.Proofs.ServiceOrder
import EntitySearch.Proofs.StampedDocuments
import EntitySearch.Proofs.StoreOrder
import EntitySearch.Proofs.TableEntries
import EntitySearch.Proofs.TermCharacters
import EntitySearch.Proofs.TextRuns
import EntitySearch.Proofs.TransparentGroups
import EntitySearch.Proofs.UsableConfigurations
import EntitySearch.Proofs.WholeRanking
import EntitySearch.Proofs.WildcardSearches
import EntitySearch.Proofs.WireLaws
import EntitySearch.Proofs.WrittenNumbers
import EntitySearch.Query.Fault
import EntitySearch.Query.Lexicon
import EntitySearch.Query.Plan
import EntitySearch.Query.Reading
import EntitySearch.Query.Syntax
import EntitySearch.Query.Translation
import EntitySearch.Rehearsal.ClusterScript
import EntitySearch.Rehearsal.PoolScript
import EntitySearch.Rehearsal.Session
import EntitySearch.Scheduling.Pool
import EntitySearch.Scheduling.Timeline
import EntitySearch.Scheduling.Work
import EntitySearch.Schema.Configuration
import EntitySearch.Schema.Declaration
import EntitySearch.Schema.Field
import EntitySearch.Schema.Layout
import EntitySearch.Search.FieldFigures
import EntitySearch.Search.Hits
import EntitySearch.Search.Matching
import EntitySearch.Search.Scoring
import EntitySearch.Service.EntityIndex
import EntitySearch.Service.IndexingBatch
import EntitySearch.Settings.Basic
import EntitySearch.Settings.Decoding
import EntitySearch.Settings.Layers
import EntitySearch.Store
import EntitySearch.Text.Blank
import EntitySearch.Text.CharacterRange
import EntitySearch.Text.Duration
import EntitySearch.Text.FilePath
import EntitySearch.Text.Han
import EntitySearch.Text.IndexName
import EntitySearch.Text.Integer
import EntitySearch.Text.LetterCase
import EntitySearch.Text.Lowercase
import EntitySearch.Text.WordCharacter
import EntitySearch.Toml.Moment
import EntitySearch.Toml.Number
import EntitySearch.Toml.QuotedText
import EntitySearch.Toml.Reader
import EntitySearch.Toml.Table
import EntitySearch.Toml.Value
