import MandateSolver.Api.Venues
import MandateSolver.Autopilot.Arbitration
import MandateSolver.Autopilot.AuctionUpdate
import MandateSolver.Autopilot.Maintenance
import MandateSolver.Autopilot.OrderHistories
import MandateSolver.Autopilot.RefundIndexing
import MandateSolver.Autopilot.TraceSearch
import MandateSolver.BadTokens.Cache
import MandateSolver.BadTokens.TraceCall
import MandateSolver.Balancer.PoolStorage
import MandateSolver.Balancer.WeightedQuotes
import MandateSolver.BaselineSolver.RelevantPairs
import MandateSolver.Boundary.Optimality
import MandateSolver.Conversions
import MandateSolver.Driver.Approvals
import MandateSolver.Driver.MergedSolutions
import MandateSolver.Driver.PreProcessing
import MandateSolver.Driver.ProtocolFees
import MandateSolver.Driver.Replacements
import MandateSolver.Driver.ReportedOrders
import MandateSolver.Driver.SettleOnce
import MandateSolver.Driver.Slippage
import MandateSolver.Driver.SolutionIds
import MandateSolver.Driver.SubmissionLifecycle
import MandateSolver.Mandate.Completeness
import MandateSolver.Mandate.Soundness
import MandateSolver.Mandate.Replay
import MandateSolver.Mandate.Reuse
import MandateSolver.OrderQuoting
import MandateSolver.Orderbook.CancellationAuthority
import MandateSolver.PriceEstimation.BufferLoss
import MandateSolver.PriceEstimation.Competition
import MandateSolver.PriceEstimation.EncodeSettlement
import MandateSolver.PriceEstimation.NativePriceCache
import MandateSolver.RecentBlockCache.Transparency
import MandateSolver.ScoreAgreement
import MandateSolver.SettlementRoundTrip
import MandateSolver.Solvers.Internalization
import MandateSolver.Solvers.SingleOrder
import MandateSolver.UniswapV3.Interleavings
import MandateSolver.UniswapV3.TickReplay
import MandateSolver.WinnerSelection.NativeFairness
import MandateSolver.WinnerSelection.ReferenceScores
