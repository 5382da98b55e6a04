import ProofBridge.AdManager.LedgerRuns
import ProofBridge.Delay.Carrier
import ProofBridge.RootAnchor.Route

/-!
# The timelock calls of the contracts

Which timelock calls each entry point of the RootAnchor and of the AdManager makes, and with which
function name, arguments and brake key: every admin setter is gated under its own name, and nothing
else reaches the timelock.
-/

namespace ProofBridge

open ContractLib
open Delay (TimelockCall Carrier Makes)

/-! ## The RootAnchor -/

namespace RootAnchor

variable {H : Host} {env : Env} {s : State}

theorem adminOf_frames : Tx.Frames State.timelock adminOf :=
  .bind .read fun _ => .bind .require fun _ => .view

theorem requireAdmin_frames : Tx.Frames State.timelock (requireAdmin env) :=
  .bind adminOf_frames fun _ => .bind .demand fun _ => .pure

end RootAnchor

/-! ## The AdManager -/

namespace AdManager

variable {X : Type} {O : Outside X} {H : Host} {env : Env} {s : Chain X}

/-- Where an escrow keeps its timelock. -/
abbrev coreTimelock (c : Core X) : Timelock := c.settings.timelock

def Chain.timelock (s : Chain X) : Timelock := coreTimelock s.core

end AdManager
end ProofBridge
