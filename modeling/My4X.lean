import My4X.Ownership
import My4X.Interleaving
import My4X.RegistryRuns
import My4X.EntityRuns
import My4X.Rollback
import My4X.MovePrediction
import My4X.Reconciliation
import My4X.RoundTrip
import My4X.KeepsRules
import My4X.RobustLoading
import My4X.MixedTiles
import My4X.MapBounds
import My4X.MovementRange
import My4X.ZocStops
import My4X.Deliveries
import My4X.TurnFaults
import My4X.Payment
import My4X.Placement
import My4X.Reports
import My4X.Broadcast
import My4X.Elimination
import My4X.Peace
import My4X.MovementBudget
import My4X.TurnFlags
import My4X.TurnBookkeeping
import My4X.Lobby
import My4X.SeededMaps
import My4X.LobbyLife
import My4X.ReconnectionRuns
import My4X.Forfeits
import My4X.Battles
import My4X.Captures
import My4X.GoldAccounts
import My4X.Growth
import My4X.Spawning
import My4X.DeadUnits
import My4X.NeutralUnits
import My4X.DistantMoves
import My4X.CityOrder
import My4X.LocalTurn
import My4X.CombatLogPanel
import My4X.Diplomacy
import My4X.EntityIds
import My4X.SpawnPoints
import My4X.GeneratedMaps
import My4X.GamePersistence
import My4X.Adjacency
import My4X.HexPaths
import My4X.ZocSources
import My4X.UnitHistories
import My4X.SaveFiles
import My4X.SoundStates
import My4X.DemoSetup
import My4X.AppState
import My4X.AppChanges
import My4X.AppRuns
import My4X.WireFormat
import My4X.LoadedGames
import My4X.CombatReports
import My4X.AppHistory
import My4X.Resaving
import My4X.GameStore
import My4X.FogRuns
import My4X.Rendering
import My4X.PictureRuns
import My4X.SessionHistory
import My4X.LobbyListing
import My4X.Rivers
import My4X.Panels
import My4X.FrameRuns
import My4X.ShownEstimates
import My4X.IntQueues
import My4X.IntSight
