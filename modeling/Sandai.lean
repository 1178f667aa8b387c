import Sandai.Shared.Types
import Sandai.Shared.Time
import Sandai.Semantics.Proc
import Sandai.Domain.Tournament
import Sandai.Domain.Command
import Sandai.Domain.Group
import Sandai.Domain.Battle
import Sandai.Domain.Player
import Sandai.Domain.Analytics
import Sandai.Service.Bot
import Sandai.Service.Tournaments
import Sandai.Service.Commands
import Sandai.Service.Analytics
import Sandai.Service.Auth
import Sandai.Store.Memory
import Sandai.Store.Refinement
import Sandai.System.Intake
import Sandai.System.Sync
import Sandai.System.Attempts
import Sandai.System.Stored
import Sandai.System.Sessions
import Sandai.System.Accounts
import Sandai.System.Worker
import Sandai.System.Validation
import Sandai.Adapter.TournamentRpc
import Sandai.Adapter.Segment
import Sandai.Adapter.TournamentCallbacks
import Sandai.Runtime.BattleMatch
import Sandai.Runtime.Hooks
import Sandai.Api.Handlers
