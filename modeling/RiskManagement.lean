import RiskManagement.Library.Word64
import RiskManagement.Library.Checked
import RiskManagement.Library.KeyedTable
import RiskManagement.Library.KeyedWindow
import RiskManagement.Library.LinkedChain
import RiskManagement.Library.BigEndian
import RiskManagement.Library.HexDigits
import RiskManagement.Library.Panics
import RiskManagement.Library.PrefixCode
import RiskManagement.Library.HashInputs
import RiskManagement.Library.PairedLevels
import RiskManagement.Library.PaddedTree
import RiskManagement.Library.Loops
import RiskManagement.Library.PartitionPoint
import RiskManagement.Library.Segments
import RiskManagement.Library.SeparatedRanges
import RiskManagement.Library.NumberedRun
import RiskManagement.Library.BestOf
import RiskManagement.Library.EntryMap
import RiskManagement.Library.MapTraversal
import RiskManagement.Library.Outcomes
import RiskManagement.Library.BitSet
import RiskManagement.Library.Cooldown
import RiskManagement.Library.Rlp
import RiskManagement.Minieth.Bytes
import RiskManagement.Minieth.U256
import RiskManagement.Minieth.Keccak
import RiskManagement.Minieth.Rpc
import RiskManagement.Minieth.JsonRpc
import RiskManagement.Minieth.BestAttempt
import RiskManagement.Minieth.BatchPairing
import RiskManagement.Minieth.JsonRpcSystem
import RiskManagement.Minieth.JsonRpcCallers
import RiskManagement.Minieth.Hex
import RiskManagement.Minieth.HexText
import RiskManagement.Minieth.HexDecoding
import RiskManagement.Minieth.SizedHex
import RiskManagement.Minieth.U256Text
import RiskManagement.Minieth.RpcClient
import RiskManagement.Minieth.BatchIntegrity
import RiskManagement.Minieth.Rlp
import RiskManagement.Minieth.Tx
import RiskManagement.Minieth.TxBytes
import RiskManagement.Minieth.LegacyChain
import RiskManagement.Minieth.TxSender
import RiskManagement.Minieth.SendBudget
import RiskManagement.Miniabi.Types
import RiskManagement.Miniabi.DecoderImpl
import RiskManagement.Miniabi.CheckedDecoder
import RiskManagement.Miniabi.AbiDecode
import RiskManagement.Miniabi.EncoderImpl
import RiskManagement.Miniabi.EncodingPrefixFree
import RiskManagement.Miniabi.AbiEncode
import RiskManagement.Miniabi.WordCodec
import RiskManagement.Miniabi.CanonicalLayout
import RiskManagement.Miniabi.DecodeEncode
import RiskManagement.Miniabi.DecodeSafety
import RiskManagement.Miniabi.DecodeBounds
import RiskManagement.Miniabi.CheckedAbiDecode
import RiskManagement.Miniabi.AbiRoundTrip
import RiskManagement.Miniabi.TypedRoundTrip
import RiskManagement.Afn.Common
import RiskManagement.Afn.ChainStatus
import RiskManagement.Afn.ChainStatusWorker
import RiskManagement.Afn.ChainStatusWalk
import RiskManagement.Afn.ChainStatusRebuild
import RiskManagement.Afn.FinalityAppendOnly
import RiskManagement.Afn.FinalityVerdict
import RiskManagement.Afn.FinalityConflict
import RiskManagement.Afn.FinalizedAdoption
import RiskManagement.Afn.ConfirmationDepth
import RiskManagement.Afn.ContractEventStateMachine
import RiskManagement.Afn.LogChain
import RiskManagement.Afn.EventReplay
import RiskManagement.Afn.Evm2EvmOffRamp
import RiskManagement.Afn.DestOffRampState
import RiskManagement.Afn.LogsDb
import RiskManagement.Afn.CachedRpc
import RiskManagement.Afn.LogsDbCoverage
import RiskManagement.Afn.CacheTransparency
import RiskManagement.Afn.SmartGetLogs
import RiskManagement.Afn.LogFetching
import RiskManagement.Afn.LogsClient
import RiskManagement.Afn.ExactlyOnceReplay
import RiskManagement.Afn.UpdateAtomicity
import RiskManagement.Afn.UnstableWorker
import RiskManagement.Afn.PublishedUnstableState
import RiskManagement.Afn.LogsDbRanges
import RiskManagement.Afn.OffRampAnomalyDetector
import RiskManagement.Afn.ReapedExecutions
import RiskManagement.Afn.AnomalyExactness
import RiskManagement.Afn.Merkle
import RiskManagement.Afn.EvmCommonTypes
import RiskManagement.Afn.Hashable
import RiskManagement.Afn.Evm2EvmOnRampV10
import RiskManagement.Afn.Evm2EvmOnRampV12
import RiskManagement.Afn.MessageHashCommits
import RiskManagement.Afn.CommitStoreCommon
import RiskManagement.Afn.MerkleTree
import RiskManagement.Afn.AfnContract
import RiskManagement.Afn.SourceBlessState
import RiskManagement.Afn.SourceWindow
import RiskManagement.Afn.NextMessage
import RiskManagement.Afn.RootVerification
import RiskManagement.Afn.DestBlessState
import RiskManagement.Afn.RootStatus
import RiskManagement.Afn.EventDecoding
import RiskManagement.Afn.DecodeLogSafety
import RiskManagement.Afn.EventFilters
import RiskManagement.Afn.VotableRoots
import RiskManagement.Afn.LaneBlessStatus
import RiskManagement.Afn.BlessSoundness
import RiskManagement.Afn.InflightRootCache
import RiskManagement.Afn.VoteToBlessWorker
import RiskManagement.Afn.Permutation
import RiskManagement.Afn.VotedBatches
import RiskManagement.Afn.VotingDiscipline
import RiskManagement.Afn.CurseBeacon
import RiskManagement.Afn.VoteToCurseWorker
import RiskManagement.Afn.CursingDiscipline
import RiskManagement.Afn.Worker
import RiskManagement.Afn.Config
import RiskManagement.Afn.Monitor
import RiskManagement.Afn.ConfigAcceptance
import RiskManagement.Afn.NodeSupervision
import RiskManagement.Afn.StateInvariant
import RiskManagement.Afn.BlessEvidence
import RiskManagement.Afn.VoteLog
import RiskManagement.Afn.BlessProgress
import RiskManagement.Afn.ChainSelector
import RiskManagement.Afn.BlessNode
import RiskManagement.Afn.BlessSafety
import RiskManagement.Afn.AnomalyCauses
import RiskManagement.Afn.CurseNode
import RiskManagement.Afn.PruningCheck
import RiskManagement.Afn.CurseProvenance
import RiskManagement.Afn.CurseResponse
import RiskManagement.Afn.SignManualTransaction
import RiskManagement.Afn.EventRoundTrip
import RiskManagement.Afn.ContractCalls
import RiskManagement.Afn.CallRoundTrip
import RiskManagement.Afn.OnchainConfigDiscovery
import RiskManagement.Afn.LaneValidation
import RiskManagement.Afn.MachineBreakdown
import RiskManagement.Afn.Startup
import RiskManagement.Afn.StartupConditions
import RiskManagement.Afn.StartedNode
