import Lerdr.Terminal.DeltaAgreement
import Lerdr.Terminal.PaneSurface
import Lerdr.E2ee.Channel
import Lerdr.Coord.Commits
import Lerdr.Coord.Notifications
import Lerdr.Coord.Dispatch
import Lerdr.Store.Unblocking
import Lerdr.Classify.EditorPlans
import Lerdr.Watch.Death
import Lerdr.Auth.Durability
import Lerdr.Auth.Guesses
import Lerdr.Relay.Fence
import Lerdr.Relay.Ingress
import Lerdr.Transport.Writes
import Lerdr.Transport.Connection
import Lerdr.Transport.ClientSendBuffer
import Lerdr.Terminal.FrameZstd
import Lerdr.Terminal.Sgr
import Lerdr.Terminal.Linkify
import Lerdr.Pairing.Stores
import Lerdr.Conversation.Client
import Lerdr.Conversation.Ranges
import Lerdr.Actions.Timestamps
import Lerdr.Core.UploadBinary
import Lerdr.Actions.Sniff
import Lerdr.Watch.Render
import Lerdr.Watch.HistorySplit
