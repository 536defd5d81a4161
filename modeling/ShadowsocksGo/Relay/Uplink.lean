import ShadowsocksGo.Relay.Step
import Mathlib.Algebra.Order.Ring.Nat

/-! # The uplink worker empties its channel

Run on its own, `relayServerConnToNatConnGeneric` relays the packets queued on its session's
`natConnSendCh` one iteration of its `for range` at a time, and counts each with the length it
was queued with. -/

namespace ShadowsocksGo
namespace Relay

section Uplink

variable {cfg : Config} {k n : ℕ}

end Uplink

end Relay
end ShadowsocksGo
