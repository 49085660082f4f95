import ImsStack.Framing.SegmentationIndependence
import ImsStack.Framing.Progress
import ImsStack.OfferAnswer.Agreement
import ImsStack.Txn.TimerCoverage
import ImsStack.Sdp.RoundTrip
import ImsStack.OfferAnswer.MalformedSdp
import ImsStack.Txn.RprTimeout
import ImsStack.Txn.RprKeys
import ImsStack.Txn.UdpSchedule
import ImsStack.Txn.TransportFallback
import ImsStack.Txn.RprOrder
import ImsStack.SipCore.RemoteCSeq
import ImsStack.Sms.RPduCodec
import ImsStack.Sms.SendQueue
import ImsStack.Sms.IncomingData
import ImsStack.SipCore.DialogRouting
import ImsStack.Library.PendingValues
import ImsStack.SipCore.RemoteTarget
import ImsStack.SipCore.RouteSet
import ImsStack.Call.MtcCall
import ImsStack.Call.PendingLoop
import ImsStack.Call.PendingOperations
import ImsStack.Call.CallEvents
import ImsStack.Call.CallStateProxy
import ImsStack.Call.CallStateReports
import ImsStack.Precondition.QosStatusTable
import ImsStack.Precondition.StatusExchange
import ImsStack.Precondition.MtcPreconditionManager
import ImsStack.Precondition.LocalStatus
import ImsStack.Precondition.BearerStatus
import ImsStack.Library.KeyedStore
import ImsStack.Platform.Dom
import ImsStack.EventPackage.DialogInfo
import ImsStack.EventPackage.DialogDocuments
import ImsStack.EventPackage.RegInfo
import ImsStack.EventPackage.RegInfoDocuments
import ImsStack.Capability.BoundServices
import ImsStack.Library.Tally
import ImsStack.Library.Rounds
import ImsStack.Aos.AosPcscf
import ImsStack.Aos.PcscfRotation
import ImsStack.Media.BaseNego
import ImsStack.Media.MediaNego
import ImsStack.Media.MediaLines
import ImsStack.Media.OaModels
import ImsStack.Media.OwnLines
import ImsStack.Media.Renegotiation
import ImsStack.Conference.RosterUpdate
import ImsStack.Conference.RosterDocuments
import ImsStack.Platform.IpAddress
import ImsStack.Platform.IpParser
import ImsStack.Platform.IpPrinters
import ImsStack.Platform.IpRoundTrip
import ImsStack.Platform.IpGrammar
import ImsStack.Platform.IpReading
import ImsStack.Platform.IpMisreading
import ImsStack.Platform.Base64
import ImsStack.Platform.Base64RoundTrip
import ImsStack.OfferAnswer.SessionViews
import ImsStack.OfferAnswer.MissingViews
import ImsStack.Sdp.SdpMediaFormat
import ImsStack.OfferAnswer.SdpMediaParameter
import ImsStack.OfferAnswer.CodecMatching
import ImsStack.OfferAnswer.SessionParameter
import ImsStack.OfferAnswer.MediaGroups
import ImsStack.Library.BoundedInt
import ImsStack.Call.SessionTimer
import ImsStack.Library.BitList
import ImsStack.Sms.BitwiseInputStream
import ImsStack.Sms.BitReader
import ImsStack.Library.RollingHash
import ImsStack.Platform.SubstringSearch
import ImsStack.SipMsg.SipAbnfUtil
import ImsStack.SipMsg.SipPercentEncoding
import ImsStack.SipMsg.PercentRoundTrip
import ImsStack.Library.Slicing
import ImsStack.Sms.SmsTPdu
import ImsStack.Sms.TPduSlices
import ImsStack.Sms.UsatBasedSms
import ImsStack.Sms.DestinationSplice
import ImsStack.Sms.CdmaSmsMessageHelper
import ImsStack.Sms.CdmaParameters
import ImsStack.Library.HashBuckets
import ImsStack.SipCore.SipStackState
import ImsStack.SipCore.TransactionStore
import ImsStack.SipMsg.SipParameters
import ImsStack.SipMsg.SipUri
import ImsStack.SipMsg.EncodersAgree
import ImsStack.Library.FailureExits
import ImsStack.Call.SessionHeaders
import ImsStack.Call.UnchangedParameters
import ImsStack.Precondition.SdpPrecondition
import ImsStack.Precondition.StatusView
import ImsStack.Precondition.LineDirections
import ImsStack.Precondition.DirectionCalculus
import ImsStack.Retry.RetryTaskHelper
import ImsStack.Retry.RetryInvariant
import ImsStack.Retry.RetryRuns
import ImsStack.Library.ChainedBuckets
import ImsStack.Platform.ImsHashMap
import ImsStack.Platform.HashMapEntries
import ImsStack.Platform.HashMapRefinement
import ImsStack.Library.FirstAccepted
import ImsStack.Platform.NullString
import ImsStack.Media.CapaNego
import ImsStack.Media.PcfgLines
import ImsStack.Media.FirstPcfg
import ImsStack.Media.AudioProfile
import ImsStack.Media.AmrSearch
import ImsStack.Media.AmrSearchesAgree
import ImsStack.Library.DistinctLabels
import ImsStack.Media.PayloadNumbers
import ImsStack.Media.SyncedNumbers
import ImsStack.Media.VideoProfile
import ImsStack.Media.VideoPayloads
import ImsStack.Media.MatchingPayloads
import ImsStack.Media.MatchedPair
import ImsStack.Conference.ConferenceController
import ImsStack.Conference.MergeController
import ImsStack.Txn.KeySearch
import ImsStack.Library.FirstGap
import ImsStack.Call.CallConnectionIdManager
import ImsStack.Call.ConnectionIds
import ImsStack.Platform.TextParser
import ImsStack.Platform.PercentCoding
import ImsStack.Registration.RegBinding
import ImsStack.Registration.ErrorListener
import ImsStack.Registration.ActiveBindings
import ImsStack.Library.FirstFit
import ImsStack.Service.TriggerPoint
import ImsStack.Service.TriggerMeaning
import ImsStack.Library.XmlGrammar
import ImsStack.Library.XmlPrinting
import ImsStack.Xml.XmlStreamWriter
import ImsStack.Xml.WrittenDocument
import ImsStack.Xml.Rendering
import ImsStack.Xml.WriterRuns
import ImsStack.Conference.KnownUsers
import ImsStack.Conference.MergeRuns
import ImsStack.Conference.NobodyLost
import ImsStack.Media.AudioFmtpText
import ImsStack.Media.ValueRanges
import ImsStack.Media.AudioFmtpParameters
import ImsStack.Media.AudioFmtpRoundTrip
import ImsStack.Media.AudioFmtpOrder
import ImsStack.Library.BlockHash
import ImsStack.Platform.Digests
import ImsStack.Call.SessionExpires
