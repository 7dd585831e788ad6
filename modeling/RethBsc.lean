import RethBsc.Accountability
import RethBsc.OverProposal
import RethBsc.RecentSigners
import RethBsc.JournalRecovery
import RethBsc.SnapshotProvider
import RethBsc.TurnLength
import RethBsc.BlockImport
import RethBsc.Cas20.GasIndependence
import RethBsc.Cas20.TokenGuarantees
import RethBsc.Cas20.RegistryGuarantees
import RethBsc.MinedBlocks
import RethBsc.LaneMetaCache
import RethBsc.EarlyFinality
import RethBsc.TotalDifficulty
import RethBsc.CometBftRoundTrip
import RethBsc.DoubleSignEvidence
import RethBsc.PromotionPhases
import RethBsc.VoteCapacity
import RethBsc.ForkHashes
import RethBsc.SenderJudgement
import RethBsc.ValidatorIndex
import RethBsc.Election
import RethBsc.EpochAgreement
import RethBsc.TraceStack
import RethBsc.BidRewards
import RethBsc.EvidenceWindow
import RethBsc.RecoveryGate
