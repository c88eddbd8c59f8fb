import KungFuChess.IO.BoardParser
import KungFuChess.Rules
import KungFuChess.Realtime
import KungFuChess.Engine.Castling
import KungFuChess.Engine.Placement
import KungFuChess.Engine.TimeSplitting
import KungFuChess.Messaging.Snapshot
import KungFuChess.Server.Seats
import KungFuChess.Gateway.Winner
import KungFuChess.Gateway.RoomIndexes
import KungFuChess.Engine.EventStream
import KungFuChess.Engine.Scoring
import KungFuChess.Network.Reencoding
import KungFuChess.Network.Rendering
import KungFuChess.Gateway.Bridge
import KungFuChess.Gateway.Usernames
import KungFuChess.Gateway.Moves
import KungFuChess.Network.Transport
import KungFuChess.Server.Requests
import KungFuChess.Gateway.PlayQueue
import KungFuChess.Gateway.Allocator
import KungFuChess.Gateway.Snapshots
import KungFuChess.Gateway.Results
import KungFuChess.Gateway.Rollback
import KungFuChess.Gateway.Tasks
import KungFuChess.Gateway.Router
import KungFuChess.Gateway.RoomTable
import KungFuChess.Gateway.Loops
import KungFuChess.Gateway.LeakedMatches
import KungFuChess.Gateway.Selected
import KungFuChess.Gateway.LostOpponents
import KungFuChess.Engine.Attacks
import KungFuChess.Engine.Pawns
import KungFuChess.Engine.Cooldowns
import KungFuChess.Engine.LoneMoves
import KungFuChess.Client.GameStart
import KungFuChess.Client.GameState
import KungFuChess.Client.Lobby
import KungFuChess.Server.LifecycleEvents
import KungFuChess.Server.ShardReuse
import KungFuChess.IO.BoardPrinter
import KungFuChess.Gateway.Watching
import KungFuChess.Gateway.OtherSockets
import KungFuChess.Gateway.Capacity
import KungFuChess.Gateway.Submissions
import KungFuChess.Gateway.Resending
import KungFuChess.Network.InRange
import KungFuChess.Client.Animation
import KungFuChess.Messaging.MessageBus
import KungFuChess.IO.BoardMapper
import KungFuChess.Control.Controller
import KungFuChess.App.ConsoleApp
import KungFuChess.Client.GameClient
import KungFuChess.Client.Reconnecting
import KungFuChess.Client.NetworkController
import KungFuChess.Library.ExpiringStore
import KungFuChess.Gateway.Sessions
import KungFuChess.Library.UniqueKeys
import KungFuChess.Client.LobbyController
import KungFuChess.Client.LobbyRequests
import KungFuChess.Client.LobbyCommands
import KungFuChess.Client.LobbyForms
import KungFuChess.Gateway.LobbyFeed
import KungFuChess.Gateway.LobbySnapshot
import KungFuChess.Library.TextOrder
import KungFuChess.Gateway.ShardLauncher
import KungFuChess.Gateway.ShardFarm
import KungFuChess.Library.JsonValue
import KungFuChess.Client.LobbyProtocol
import KungFuChess.Gateway.Schemas
import KungFuChess.Gateway.Requests
import KungFuChess.Client.LobbyMessages
import KungFuChess.Client.LobbyRouting
