import OpenPeer.TCPMessagingLink
import OpenPeer.TURNSocketDemultiplex
import OpenPeer.ICESessionNomination
import OpenPeer.SubscriptionRuns
import OpenPeer.RUDPChannelResendOrder
import OpenPeer.ConversationThreadMirror
import OpenPeer.RUDPChannelExternalAck
import OpenPeer.RUDPPacketHint
import OpenPeer.RUDPPacketVectorCodec
import OpenPeer.STUNPacketLaidOut
import OpenPeer.STUNPacketSigned
import OpenPeer.KeySplit
import OpenPeer.MessagingLimits
import OpenPeer.TransportStreamWakeups
import OpenPeer.MessageLayerSecurityAlgorithms
import OpenPeer.MessageLayerSecurityWire
import OpenPeer.DiffLocate
import OpenPeer.ICECandidatesOrder
import OpenPeer.ICESocketSessionPairing
import OpenPeer.ICESocketSessionUnsigned
import OpenPeer.DNSSRVResolverCompletion
import OpenPeer.ICESocketPreferences
import OpenPeer.STUNRequesterCompletion
import OpenPeer.TURNSocketAuthorization
import OpenPeer.TURNSocketChannels
import OpenPeer.TURNSocketGivingUp
import OpenPeer.TURNSocketPermissions
import OpenPeer.TURNSocketSending
import OpenPeer.DNSExtract
import OpenPeer.DNSSorting
import OpenPeer.PublicationCompletionRuns
import OpenPeer.PublicationNotificationRuns
import OpenPeer.PublicationNotifying
import OpenPeer.RUDPICESocketSessionTables
import OpenPeer.RUDPChannelParity
import OpenPeer.ConversationThreadFollowing
import OpenPeer.RUDPChannelTransfer
