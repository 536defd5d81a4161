import ShadowsocksGo.Socks5.Stream
import ShadowsocksGo.Socks5.Auth
import ShadowsocksGo.Socks5.MethodSelection
import ShadowsocksGo.Socks5.PrefixedReader
import ShadowsocksGo.Socks5.Request
import ShadowsocksGo.Socks5.Handshake
import ShadowsocksGo.Relay.State
import ShadowsocksGo.Relay.Step
import ShadowsocksGo.Relay.Table
import ShadowsocksGo.Relay.Uplink
import ShadowsocksGo.Relay.Buffers
import ShadowsocksGo.Relay.Swap
import ShadowsocksGo.Relay.Shutdown
import ShadowsocksGo.Relay.Progress
import ShadowsocksGo.Relay.SendmmsgUplink
import ShadowsocksGo.Relay.SendmmsgDownlink
import ShadowsocksGo.Conn.ResolveAddr
import ShadowsocksGo.Mmap.ReadFile
