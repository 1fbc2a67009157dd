import NymVpn.Account.Pausing
import NymVpn.Account.Retries
import NymVpn.Account.Validation
import NymVpn.Adblock.Hosts
import NymVpn.Adblock.Toggles
import NymVpn.Amnezia.Obfuscation
import NymVpn.Bandwidth.Sessions
import NymVpn.Dns.Actor
import NymVpn.Dns.Frame
import NymVpn.Firewall.Exemptions
import NymVpn.Firewall.Fallbacks
import NymVpn.Firewall.Fw3Clear
import NymVpn.Firewall.Memory
import NymVpn.Gateway.Blacklist
import NymVpn.Gateway.Cleared
import NymVpn.Network.CacheRefresh
import NymVpn.Network.ClockBootstrap
import NymVpn.Network.DiscoveryRefresher
import NymVpn.Proto.Exemptions
import NymVpn.Rpcd.Exclusions
import NymVpn.Rpcd.Reached
import NymVpn.Service.AccountRefresh
import NymVpn.Service.Applied
import NymVpn.Service.BootBlock
import NymVpn.Service.Latch
import NymVpn.Service.TwoHop
import NymVpn.Socks5.Lazy
import NymVpn.Tunnel.Arming
import NymVpn.Tunnel.ConnectionMonitor
import NymVpn.Tunnel.Family
import NymVpn.Tunnel.Monitors
import NymVpn.Tunnel.Relaxed
import NymVpn.Tunnel.Sealed
import NymVpn.Tunnel.SelectGateways
