import RouteGuard.Escrow.Conservation
import RouteGuard.Escrow.Authorization
import RouteGuard.Access.FailedClaims
import RouteGuard.Store.LockContention
import RouteGuard.Store.AppendOnly
import RouteGuard.Store.SettlementAuthorization
import RouteGuard.Store.BidBodyRaces
import RouteGuard.Reservation.OutboxValidity
import RouteGuard.Reservation.PaymentExactness
import RouteGuard.Reservation.HistoryPath
import RouteGuard.Reservation.FailureEvidence
import RouteGuard.Reservation.SettleOnce
import RouteGuard.Reservation.OfferExpiry
import RouteGuard.Reservation.ReconciliationTruth
import RouteGuard.Hcs.DecodedIntegrity
import RouteGuard.Auction.Isolation
import RouteGuard.Auction.ManifestIntegrity
import RouteGuard.Auction.Outcome
import RouteGuard.Demo.LinearWrites
import RouteGuard.Access.PaymentBinding
import RouteGuard.Access.UsdcAmount
import RouteGuard.Pod.AnchoredReviews
import RouteGuard.Trust.Registry
import RouteGuard.Store.PaymentClaimAdapters
import RouteGuard.Access.MirrorReconcile
import RouteGuard.Hcs.V2Parse
import RouteGuard.Reservation.LivePublicationResolver
import RouteGuard.Pod.StoredPackages
import RouteGuard.Demo.ExpiredMoney
import RouteGuard.Pod.WarrantedPlans
import RouteGuard.Pod.FailedReviews
import RouteGuard.Auction.SequenceNumbers
import RouteGuard.Demo.RateLimit
import RouteGuard.Reservation.KeyedMutex
import RouteGuard.Demo.ServerFields
import RouteGuard.Demo.ActionReplay
import RouteGuard.FinalDemo.EnvelopeBudget
