import CloudVpn.Runs
import CloudVpn.Traces
import CloudVpn.Slots
import CloudVpn.Memory
import CloudVpn.Buffers
import CloudVpn.CStrings
import CloudVpn.Pointers
import CloudVpn.Effects
import CloudVpn.Interleaving
import CloudVpn.Switch
import CloudVpn.Channels
import CloudVpn.Descriptors
import CloudVpn.Registry
import CloudVpn.ClientManager
import CloudVpn.ClientInvariant
import CloudVpn.TimeoutSweep
import CloudVpn.LiveSessions
import CloudVpn.AddressUniqueness
import CloudVpn.PeerMap
import CloudVpn.Crypto
import CloudVpn.KeyManager
import CloudVpn.KeyMap
import CloudVpn.IpcProtocol
import CloudVpn.Enclave
import CloudVpn.EnclaveClient
import CloudVpn.EnclaveSocket
import CloudVpn.EnclaveMain
import CloudVpn.EnclaveBuffers
import CloudVpn.RequestFraming
import CloudVpn.KeyHygiene
import CloudVpn.EnclaveRoundTrip
import CloudVpn.KeyInstall
import CloudVpn.ReplySecrecy
import CloudVpn.IpcPairing
import CloudVpn.Protocol
import CloudVpn.Server
import CloudVpn.ServerInvariant
import CloudVpn.AddClient
import CloudVpn.ServerLoop
import CloudVpn.ServerProcess
import CloudVpn.SessionTables
import CloudVpn.ServerTables
import CloudVpn.KeyAgreement
import CloudVpn.TableCorrespondence
import CloudVpn.FailedConnect
import CloudVpn.Client
import CloudVpn.ConfigFile
import CloudVpn.ConfigInPlace
import CloudVpn.ConfigRoundTrip
import CloudVpn.ConfigGrammar
import CloudVpn.ClientLoop
import CloudVpn.ClientProcess
import CloudVpn.Reconnect
import CloudVpn.HealthyConnection
import CloudVpn.TunAddress
import CloudVpn.ConnectExchange
import CloudVpn.DataPlane
import CloudVpn.DataDecoders
import CloudVpn.Encapsulation
import CloudVpn.ReceivedBytes
import CloudVpn.Replay
import CloudVpn.Network
import CloudVpn.Keepalive
import CloudVpn.Datagrams
import CloudVpn.SwitchRefinement
import CloudVpn.TunnelIntegrity
import CloudVpn.Proxmox
import CloudVpn.ProxmoxTickets
import CloudVpn.ProxmoxRetries
import CloudVpn.VmIds
import CloudVpn.VmService
import CloudVpn.VmRecords
import CloudVpn.VmCorrespondence
import CloudVpn.VmConcurrency
import CloudVpn.VmLifecycle
import CloudVpn.Accounts
import CloudVpn.AccountRegistry
import CloudVpn.AccountSessions
import CloudVpn.AddressPlan
import CloudVpn.PageController
