import GalaxyScenario.Binary64
import GalaxyScenario.CommandLine.FileSystem
import GalaxyScenario.CommandLine.Options
import GalaxyScenario.CommandLine.Run
import GalaxyScenario.CommandLine.Surroundings
import GalaxyScenario.Config
import GalaxyScenario.Config.Document
import GalaxyScenario.Decimal.Basic
import GalaxyScenario.Decimal.Layout
import GalaxyScenario.Decimal.Numeral
import GalaxyScenario.Decimal.Shortest
import GalaxyScenario.Document
import GalaxyScenario.EmpireCapacity
import GalaxyScenario.Finding
import GalaxyScenario.GalaxyMap
import GalaxyScenario.GalaxyMap.Document
import GalaxyScenario.HomeSystem
import GalaxyScenario.Json.Basic
import GalaxyScenario.Json.Decode
import GalaxyScenario.Json.Number
import GalaxyScenario.Json.Parse
import GalaxyScenario.Json.Quoted
import GalaxyScenario.Json.Token
import GalaxyScenario.KeySet
import GalaxyScenario.Log
import GalaxyScenario.Main
import GalaxyScenario.Point
import GalaxyScenario.Point.Key
import GalaxyScenario.Proofs.Binary64.Comparison
import GalaxyScenario.Proofs.Binary64.Exact
import GalaxyScenario.Proofs.Binary64.Negation
import GalaxyScenario.Proofs.Binary64.Rounding
import GalaxyScenario.Proofs.Binary64.Unpacked
import GalaxyScenario.Proofs.Binary64.Whole
import GalaxyScenario.Proofs.FavouredHomes
import GalaxyScenario.Proofs.GreedySearch
import GalaxyScenario.Proofs.GridSearch
import GalaxyScenario.Proofs.References
import GalaxyScenario.Proofs.StarRoll
import GalaxyScenario.Proofs.ZoneSearch
import GalaxyScenario.Scenario
import GalaxyScenario.Script
import GalaxyScenario.SizeTier
import GalaxyScenario.SizeTier.Document
import GalaxyScenario.SpawnZone
import GalaxyScenario.SpawnZone.Document
import GalaxyScenario.StarIndex
import GalaxyScenario.Text.Blank
import GalaxyScenario.Text.ControlSequence
import GalaxyScenario.Text.Escaped
import GalaxyScenario.Text.Unseen
import GalaxyScenario.Wormhole
import GalaxyScenario.Proofs.Binary64.Nearest
import GalaxyScenario.Proofs.Decimal.Shortest
import GalaxyScenario.Proofs.Decimal.Positional
import GalaxyScenario.Proofs.Decimal.ReadBack
import GalaxyScenario.Proofs.Decimal.Whole
import GalaxyScenario.Proofs.Binary64.SignedZero
import GalaxyScenario.Proofs.StarIdentity
import GalaxyScenario.Proofs.TwinStars
import GalaxyScenario.Proofs.DuplicateStar
import GalaxyScenario.Proofs.ZoneFlags
import GalaxyScenario.Proofs.Json.RoundTrip
import GalaxyScenario.Proofs.Binary64.Division
import GalaxyScenario.Proofs.Json.ShortNumber
import GalaxyScenario.Proofs.EditorExport
import GalaxyScenario.Proofs.FindingKinds
import GalaxyScenario.Proofs.FindingMessages
import GalaxyScenario.Proofs.DanglingEnds
import GalaxyScenario.Proofs.WormholeEnds
import GalaxyScenario.Proofs.HomeCapacity
import GalaxyScenario.Proofs.ScriptLines
import GalaxyScenario.Proofs.ScriptReading
import GalaxyScenario.Proofs.CompiledLines
import GalaxyScenario.Proofs.PaintedHomes
import GalaxyScenario.Proofs.ScriptNesting
import GalaxyScenario.Proofs.DocumentRoundTrip
import GalaxyScenario.Proofs.MergedStars
import GalaxyScenario.Proofs.Binary64.Square
import GalaxyScenario.Proofs.OppositeZones
import GalaxyScenario.Proofs.OwnStar
import GalaxyScenario.Proofs.WrittenFile
import GalaxyScenario.Proofs.Arguments
import GalaxyScenario.Proofs.CommandLineRun
import GalaxyScenario.Proofs.SharedEnds
import GalaxyScenario.Proofs.FlagOrder
import GalaxyScenario.Proofs.HomeAdvice
import GalaxyScenario.Proofs.Text.Words
import GalaxyScenario.Proofs.Text.Separators
import GalaxyScenario.Proofs.HomeLines
import GalaxyScenario.Proofs.Binary64.Rational
import GalaxyScenario.Proofs.CapacityFormula
import GalaxyScenario.Proofs.StandInCount
import GalaxyScenario.Proofs.Decimal.Halves
import GalaxyScenario.Proofs.SystemPositions
