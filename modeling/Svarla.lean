import Svarla.Android.ActiveNotificationsMatch
import Svarla.Android.AudioRouter
import Svarla.Android.OutboxKeeps
import Svarla.Android.SyncManager
import Svarla.Android.VoiceCallEnds
import Svarla.Buffer.Durability
import Svarla.Buffer.Reopen
import Svarla.Calls.Announcements
import Svarla.Calls.Answering
import Svarla.Calls.BridgeFailure
import Svarla.Calls.History
import Svarla.Calls.HistoryCap
import Svarla.Calls.Lifetimes
import Svarla.Calls.MediaEvents
import Svarla.Calls.Reconcile
import Svarla.Calls.SetUp
import Svarla.Calls.Watchdog
import Svarla.Conversations.LastMessage
import Svarla.Conversations.Migration
import Svarla.Conversations.Paging
import Svarla.Conversations.Retry
import Svarla.Conversations.StatusOrder
import Svarla.Conversations.Store
import Svarla.Conversations.Unread
import Svarla.Delivery.Protocol
import Svarla.Lib.Checked
import Svarla.Lib.Map
import Svarla.Lib.Pages
import Svarla.MediaBridge.AudioSockets
import Svarla.MediaBridge.Bridging
import Svarla.MediaBridge.DtmfDetector
import Svarla.MediaBridge.Events
import Svarla.MediaBridge.Jitter
import Svarla.MediaBridge.JitterOrder
import Svarla.MediaBridge.JitterRestart
import Svarla.MediaBridge.LatestOffer
import Svarla.MediaBridge.ProviderPcm
import Svarla.MediaBridge.RelayedCodecs
import Svarla.MediaBridge.Resampling
import Svarla.MediaBridge.RtpIsolation
import Svarla.MediaBridge.RtpListener
import Svarla.MediaBridge.RtpStreams
import Svarla.MediaBridge.SipLegs
import Svarla.MediaBridge.Teardown
import Svarla.MediaBridge.TrackHandover
import Svarla.ModemGateway.AtLines
import Svarla.ModemGateway.CallAudio
import Svarla.ModemGateway.CallOwnership
import Svarla.ModemGateway.CallReports
import Svarla.ModemGateway.CallerID
import Svarla.ModemGateway.Commands
import Svarla.ModemGateway.MissedCallDelivery
import Svarla.ModemGateway.MissedCalls
import Svarla.ModemGateway.PcmFraming
import Svarla.ModemGateway.ReconnectManager
import Svarla.ModemGateway.RequestText
import Svarla.ModemGateway.Schema
import Svarla.ModemGateway.Ussd
import Svarla.Notifications.OnePerSource
import Svarla.Notifications.PushEndpoint
import Svarla.Notifications.ReadState
import Svarla.Numbers.ColorChoice
import Svarla.Numbers.ColorMigration
import Svarla.Numbers.Colors
import Svarla.Numbers.NormalForm
import Svarla.Numbers.Normalize
import Svarla.Providers.ConfigEncryption
import Svarla.Providers.GatewayRequests
import Svarla.Providers.Registry
import Svarla.Sessions.Broadcaster
import Svarla.Sessions.DeviceCap
import Svarla.Sessions.Reaper
import Svarla.Sessions.Revocation
import Svarla.Sessions.WsTickets
import Svarla.Signaling.HandshakeEnds
import Svarla.Signaling.Registry
import Svarla.Signaling.ReplacedSocket
import Svarla.Sip.Builders
import Svarla.Sip.DialogStore
import Svarla.Sip.DialogTags
import Svarla.Sip.SdesKeys
import Svarla.Sip.SdpOffers
import Svarla.Sip.SrtpAnswers
import Svarla.Sip.Stream
import Svarla.Sms.Addresses
import Svarla.Sms.MessageId
import Svarla.Sms.NoLoss
import Svarla.Sms.PartCount
import Svarla.Sms.PduBounds
import Svarla.Sms.Retention
import Svarla.Sms.RoundTrip
import Svarla.Sms.UserDataLength
import Svarla.Web.AcceptedCalls
import Svarla.Web.ClientLifecycle
import Svarla.Web.DeviceLifecycle
import Svarla.Web.NotificationCenter
import Svarla.Web.StaleFlows
import Svarla.Web.Visibility
import Svarla.Webhooks.Unsigned
