import DogetherContracts.Lib.Ascii
import DogetherContracts.Lib.Checked
import DogetherContracts.Lib.Greedy
import DogetherContracts.Lib.Interleave
import DogetherContracts.Lib.LazyIndex
import DogetherContracts.Lib.Levy
import DogetherContracts.Lib.Paging
import DogetherContracts.Lib.Run
import DogetherContracts.Lib.Simulation
import DogetherContracts.Lib.Table
import DogetherContracts.Lib.TimeLock
import DogetherContracts.Lib.Units
import DogetherContracts.Lib.Vault
import DogetherContracts.Lib.Word
import DogetherContracts.CosmWasm.Host
import DogetherContracts.CosmWasm.Message
import DogetherContracts.CosmWasm.Number
import DogetherContracts.Math
import DogetherContracts.Taxation
import DogetherContracts.Cw20.Accounts
import DogetherContracts.Cw20.Contract
import DogetherContracts.Cw20.Format
import DogetherContracts.Cw20.Queries
import DogetherContracts.Cw20.Supply
import DogetherContracts.Staking.Booked
import DogetherContracts.Staking.Claims
import DogetherContracts.Staking.Commute
import DogetherContracts.Staking.Contract
import DogetherContracts.Staking.Eager
import DogetherContracts.Staking.Effects
import DogetherContracts.Staking.Forfeits
import DogetherContracts.Staking.Holders
import DogetherContracts.Staking.Portions
import DogetherContracts.Staking.Range
import DogetherContracts.Staking.Schedules
import DogetherContracts.Staking.Solvency
import DogetherContracts.Staking.State
import DogetherContracts.Staking.Tickets
import DogetherContracts.Staking.User
import DogetherContracts.Pool.Contract
import DogetherContracts.Pool.Effects
import DogetherContracts.Pool.Payouts
import DogetherContracts.Pool.Surplus
import DogetherContracts.System.Accepted
import DogetherContracts.System.Audit
import DogetherContracts.System.Backing
import DogetherContracts.System.Calls
import DogetherContracts.System.Configured
import DogetherContracts.System.Deployed
import DogetherContracts.System.Draws
import DogetherContracts.System.Earnings
import DogetherContracts.System.Exit
import DogetherContracts.System.Forward
import DogetherContracts.System.Funds
import DogetherContracts.System.Idle
import DogetherContracts.System.Ledger
import DogetherContracts.System.Lottery
import DogetherContracts.System.Nesting
import DogetherContracts.System.Principal
import DogetherContracts.System.Reachable
import DogetherContracts.System.Refinement
import DogetherContracts.System.Steps
import DogetherContracts.System.Transactions
import DogetherContracts.System.World
import DogetherContracts.System.Yield
