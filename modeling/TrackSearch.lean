import TrackSearch.Catalog.Export
import TrackSearch.Main
import TrackSearch.Query.Brackets
import TrackSearch.Query.Canonical
import TrackSearch.Query.Depth
import TrackSearch.Query.Mark
import TrackSearch.Query.Descent
import TrackSearch.Query.Leaves
import TrackSearch.Query.Items
import TrackSearch.Query.Meaning
import TrackSearch.Query.Clauses
import TrackSearch.Proofs.ScanRun
import TrackSearch.Proofs.GroupContents
import TrackSearch.Proofs.NestingLimit
import TrackSearch.Proofs.Expansion
import TrackSearch.Proofs.NestedText
import TrackSearch.Proofs.YearText
import TrackSearch.Proofs.ParsedShape
import TrackSearch.Proofs.RoundTrip
import TrackSearch.Proofs.ParsedMeaning
import TrackSearch.Proofs.KeptClauses
import TrackSearch.Proofs.SeparatedText
import TrackSearch.Proofs.BracketedText
import TrackSearch.Proofs.KeptText
import TrackSearch.Proofs.RescannedTokens
import TrackSearch.Proofs.LiteralText
import TrackSearch.Proofs.TokenOrigin
import TrackSearch.Proofs.TokenShape
import TrackSearch.Proofs.FiniteDescent
import TrackSearch.Proofs.ResolvedEscapes
import TrackSearch.Proofs.Juxtaposition
import TrackSearch.Proofs.LetterCase
import TrackSearch.Proofs.LowercaseWithin
import TrackSearch.Proofs.TextMatching
import TrackSearch.Proofs.Words
import TrackSearch.Proofs.TagNames
import TrackSearch.Proofs.TagNormalForm
import TrackSearch.Proofs.TagListing
import TrackSearch.Proofs.HexNumeral
import TrackSearch.Proofs.JsonLexemes
import TrackSearch.Proofs.JsonRoundTrip
import TrackSearch.Proofs.OpenedCatalog
import TrackSearch.Proofs.FirstFault
import TrackSearch.Proofs.SpelledIdentifier
import TrackSearch.Proofs.IdentifierLookup
import TrackSearch.Proofs.ReopenedCatalog
import TrackSearch.Command.Stage
import TrackSearch.Proofs.LoadedConfig
import TrackSearch.Proofs.RunResult
import TrackSearch.Proofs.FailingStage
import TrackSearch.Proofs.SearchListing
import TrackSearch.Proofs.PredicateJson
