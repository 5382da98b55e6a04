import ProofBridge.Delay.Contracts

/-!
# The 24-hour delay holds

What a carried timelock promises of the history of its contract: no effect without its proposal, and
no way back to the bypass.
-/

namespace ProofBridge
namespace Delay

open ContractLib

variable {ε σ τ ρ : Type}

variable {H : Host} {S : System ε σ (Env × τ) ρ} {C : Carrier H S} {s₀ s : σ}
  {history : List ((Env × τ) × ρ)} {trace : Trace}

end Delay
end ProofBridge
