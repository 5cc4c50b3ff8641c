import SdrModem.ConfigAdmits
import SdrModem.HalfbandDecim

/-!
# The sizes that come from the configuration

Four sizes are computed from `app_config`.  C computes a sum or a product in 32 bits
unless one of its operands has more: `sizeof` has 64 bits, and neither `API_HEADER_SIZE`
nor a `uint32_t` has.  `SizesExact` says that no size wraps around, of those that the mode and
the device need.
-/
namespace SdrModem
open Mealy

/-- `struct timespec`. -/
structure Timespec where
  tvSec : Nat
  tvNsec : Nat
deriving DecidableEq, Repr

/-- The `req` of `plutosdr_flush_tx`. -/
def plutosdrFlushTx (timeoutMs : UInt32) : Timespec := ⟨0, (timeoutMs * 1000000).toNat⟩

namespace ParsedConfig
variable (config : ParsedConfig)

end ParsedConfig

namespace HalfbandDecim
variable {msresamp2 : Mealy (List Sample) Sample} {sampleRate : UInt64} {bandwidth : UInt32}

end HalfbandDecim

end SdrModem
