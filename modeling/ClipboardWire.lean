import ClipboardWire.StepRun
import ClipboardWire.BoundedChannel
import ClipboardWire.KeyedMap
import ClipboardWire.Protocol
import ClipboardWire.Hub
import ClipboardWire.HubRelay
import ClipboardWire.Base64
import ClipboardWire.FileConfinement
import ClipboardWire.FileDuplicates
import ClipboardWire.HubFanOut
import ClipboardWire.HubSlowPeer
import ClipboardWire.ClientClipboard
import ClipboardWire.ClientDeadlock
import ClipboardWire.ClipboardAgreement
import ClipboardWire.FrameSizes
import ClipboardWire.SendOnce
import ClipboardWire.BasicAuth
import ClipboardWire.ClientConfig
import ClipboardWire.FrameJson
import ClipboardWire.HubLifetime
import ClipboardWire.SettingsForm
import ClipboardWire.SettingsRoundTrip
import ClipboardWire.UnknownFrames
import ClipboardWire.AndroidDuplicates
import ClipboardWire.AndroidReconnect
import ClipboardWire.AndroidSend
import ClipboardWire.ClipboardOffers
import ClipboardWire.SendOnceWait
import ClipboardWire.TransportShutdown
import ClipboardWire.AndroidSensitive
import ClipboardWire.FileDelivered
import ClipboardWire.FileOrphans
import ClipboardWire.FileProblems
import ClipboardWire.FileRanges
import ClipboardWire.FileShortReads
import ClipboardWire.FileStuckTransfers
import ClipboardWire.ReceivedBatches
import ClipboardWire.TransportBackoff
import ClipboardWire.TrayConsistency
import ClipboardWire.AndroidBackoff
import ClipboardWire.CertificatePem
import ClipboardWire.ClipboardFrames
import ClipboardWire.FileUris
import ClipboardWire.HubCount
import ClipboardWire.SelfSignedCert
import ClipboardWire.TransportStatus
import ClipboardWire.WssAuthority
import ClipboardWire.FileScript
import ClipboardWire.ImageScaling
import ClipboardWire.SettingsCrash
import ClipboardWire.StableNames
import ClipboardWire.SecretFiles
import ClipboardWire.AndroidImages
import ClipboardWire.ClientOrder
import ClipboardWire.ClipJourney
import ClipboardWire.DesktopJourney
import ClipboardWire.FileJourney
import ClipboardWire.InstanceLock
import ClipboardWire.ServerDrain
import ClipboardWire.TrayStatus
import ClipboardWire.TrayStatusSettles
import ClipboardWire.TrayView
import ClipboardWire.PinnedCert
import ClipboardWire.ServerLayers
import ClipboardWire.TraySettings
import ClipboardWire.SyncHandler
