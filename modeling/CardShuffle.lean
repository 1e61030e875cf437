import CardShuffle.Main
import CardShuffle.Settings.Json
import CardShuffle.Source
import CardShuffle.Storage.Tree
import CardShuffle.Proofs.Protocol
import CardShuffle.Proofs.Uniformity
import CardShuffle.Proofs.Inverse
import CardShuffle.Proofs.Positions
import CardShuffle.Proofs.Decks
import CardShuffle.Proofs.Inventory
import CardShuffle.Proofs.Ranks
import CardShuffle.Proofs.RankLimits
import CardShuffle.Proofs.Unranking
import CardShuffle.Proofs.Seeds
import CardShuffle.Proofs.Tally
import CardShuffle.Proofs.Chunks
import CardShuffle.Proofs.Scheduling
import CardShuffle.Proofs.Trials
import CardShuffle.Proofs.DeckText
import CardShuffle.Proofs.SeededDraws
import CardShuffle.Proofs.Validated
import CardShuffle.Proofs.Handouts
import CardShuffle.Proofs.Calls
import CardShuffle.Proofs.Accounts
import CardShuffle.Proofs.Turns
import CardShuffle.Proofs.DeckFormats
import CardShuffle.Proofs.DeckOrder
import CardShuffle.Proofs.Lexicographic
import CardShuffle.Proofs.Recordings
import CardShuffle.Proofs.Table
import CardShuffle.Proofs.Inversions
import CardShuffle.Proofs.Precedence
import CardShuffle.Proofs.Verdicts
import CardShuffle.Proofs.Endings
import CardShuffle.Proofs.FirstFault
import CardShuffle.Proofs.HistogramLaws
import CardShuffle.Proofs.ExactReports
import CardShuffle.Proofs.Rotations
import CardShuffle.Proofs.FilterSources
import CardShuffle.Proofs.SettingsFiles
import CardShuffle.Proofs.JsonText
import CardShuffle.Proofs.SettingsText
