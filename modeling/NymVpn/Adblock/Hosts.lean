import NymVpn.Net.Display
import NymVpn.Text.Str

/-!
# The block list

A list of hosts is downloaded and turned into `local=` lines for dnsmasq.
-/

namespace Adblock

open Net Text

variable {line domain : String}

end Adblock
