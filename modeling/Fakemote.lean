import Fakemote.Library.Program
import Fakemote.Library.Bytes
import Fakemote.Library.Transition
import Fakemote.Library.FirstMatch
import Fakemote.Library.Pairing
import Fakemote.Library.Labelled
import Fakemote.Library.LazyCache
import Fakemote.Library.Trace
import Fakemote.Hci
import Fakemote.Base
import Fakemote.Endpoint
import Fakemote.EndpointRun
import Fakemote.WaitingReads
import Fakemote.Wiimote
import Fakemote.WiimoteCrypto
import Fakemote.ButtonMap
import Fakemote.HciState
import Fakemote.ControllerEvents
import Fakemote.Library.DiffCopy
import Fakemote.World
import Fakemote.InjMessage
import Fakemote.WiimoteState
import Fakemote.InputDevice
import Fakemote.FakeWiimote
import Fakemote.FakeWiimoteMgr
import Fakemote.Main
import Fakemote.Calm
import Fakemote.Steady
import Fakemote.Traffic
import Fakemote.Ledger
import Fakemote.LedgerTrace
import Fakemote.Moves
import Fakemote.Runs
import Fakemote.ControllerPairing
import Fakemote.CommandDispatch
import Fakemote.HostView
import Fakemote.ConnectionLifecycle
import Fakemote.VirtualHandles
import Fakemote.MessageOwnership
import Fakemote.CreditConservation
import Fakemote.OpenHandles
import Fakemote.HandleTranslation
import Fakemote.LiveConnections
import Fakemote.ResetRace
import Fakemote.InjectedPackets
import Fakemote.FreshSession
import Fakemote.SessionDeeds
import Fakemote.SessionTrace
import Fakemote.SessionPackets
import Fakemote.Calls
import Fakemote.Aloof
import Fakemote.CallEffects
import Fakemote.DeedFrames
import Fakemote.KeyCoherence
import Fakemote.OpenChannels
import Fakemote.ExtensionAgreement
import Fakemote.Turns
import Fakemote.HidReports
import Fakemote.HotPlug
import Fakemote.InBounds
import Fakemote.ConfigOptions
import Fakemote.SignalCommands
import Fakemote.MemoryWrites
import Fakemote.HidBounds
import Fakemote.KeyTables
import Fakemote.ReplyEchoes
import Fakemote.PointerEmulation
import Fakemote.Library.BitFields
import Fakemote.Library.GreedyMatch
import Fakemote.PairingTable
import Fakemote.TickRetry
import Fakemote.ChannelSetup
import Fakemote.ReadReplies
import Fakemote.ReadTransaction
import Fakemote.DataReports
import Fakemote.Library.EdgeLatch
import Fakemote.ModeSwitching
import Fakemote.PointerPipeline
import Fakemote.Library.Scan
import Fakemote.Conf
import Fakemote.ConfDirectory
import Fakemote.ConfBounds
import Fakemote.ConfRoundTrip
import Fakemote.DeliverySizes
import Fakemote.ExtensionFormats
import Fakemote.ChannelIds
import Fakemote.InputReports
import Fakemote.Hooks
import Fakemote.Library.LastSet
import Fakemote.TimerPhases
import Fakemote.HostSettings
import Fakemote.StoredLinkKeys
import Fakemote.Reconnection
import Fakemote.Library.Records
import Fakemote.ConfPads
import Fakemote.Boot
import Fakemote.Library.Relational
import Fakemote.UninitialisedMemory
import Fakemote.UninitialisedSession
import Fakemote.UninitialisedTurns
import Fakemote.UninitialisedHandlers
import Fakemote.UninitialisedRuns
import Fakemote.Initialised
import Fakemote.Library.FaultSets
import Fakemote.Faults
import Fakemote.HostFaults
