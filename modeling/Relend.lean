import Relend.Program.Oracles
import Relend.Proof.AggregateDebt
import Relend.Proof.Backing.Runs
import Relend.Proof.BorrowLimit
import Relend.Proof.ClaimSpacing
import Relend.Proof.Client.Declared
import Relend.Proof.Client.Refresh
import Relend.Proof.Compounding
import Relend.Proof.ConfigUpdates
import Relend.Proof.DecoderPanics
import Relend.Proof.EarnIntegral
import Relend.Proof.ExchangeWorth
import Relend.Proof.FlashPairing
import Relend.Proof.Freshness
import Relend.Proof.Integrity
import Relend.Proof.Interest
import Relend.Proof.IsolatedTier
import Relend.Proof.Issuance.Runs
import Relend.Proof.LimiterQueries
import Relend.Proof.Liquidation
import Relend.Proof.LiquidationRedeem
import Relend.Proof.LockerBooks
import Relend.Proof.LockerCustody
import Relend.Proof.LockerRelease
import Relend.Proof.MarketSettings
import Relend.Proof.ObligationRefresh
import Relend.Proof.ObligationShape
import Relend.Proof.OraclePrices
import Relend.Proof.OutflowLimits
import Relend.Proof.OutflowWindow
import Relend.Proof.PendingRewards
import Relend.Proof.ReserveOutflow
import Relend.Proof.Resubmission
import Relend.Proof.RewardAuthority
import Relend.Proof.RewardShares
import Relend.Proof.RewardVaults
import Relend.Proof.RewardWindows
import Relend.Proof.Solvency
import Relend.Proof.StakeBacking
import Relend.Proof.StakerCustody
import Relend.Proof.StakerVaults
import Relend.Proof.TokenCustody
import Relend.Proof.UnstakeReceipts
import Relend.Proof.VestingRuns
import Relend.Proof.VestingSchedule
import Relend.Proof.WithdrawLimit
import Relend.Sdk.InstructionCodec
import Relend.Sdk.ReserveCodec
