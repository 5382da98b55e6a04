import ProofBridge.Core.Money

/-!
# A world that keeps its promises

What is assumed of the contracts around an escrow can be met: `bank` is a world of token balances
whose transfers move exactly the amount, or fail where the payer did not authorize them or holds
too little, and whose other contracts answer and move nothing.
-/

namespace ProofBridge

open ContractLib

/-- Token balances, with what each holder received without having asked for it. -/
structure Bank where
  balance : (token holder : Address) → ℤ
  unasked : (token holder : Address) → ℤ

namespace Bank

/-- Raise one entry. -/
def raise (f : Address → Address → ℤ) (token holder : Address) (amount : ℤ) :
    Address → Address → ℤ :=
  fun t a => if t = token ∧ a = holder then f t a + amount else f t a

/-- `transfer`: a holder that pays itself has its tokens back without having asked. -/
def transfer (b : Bank) (env : Env) (token payer payee : Address) (amount : ℤ) : Option Bank :=
  if env.authorized payer = true ∧ 0 ≤ amount ∧ amount ≤ b.balance token payer then
    if payer = payee then some { b with unasked := raise b.unasked token payer amount }
    else some { b with
      balance := raise (raise b.balance token payer (-amount)) token payee amount }
  else none

/-- Somebody else's transfer in. -/
def gift (b b' : Bank) : Prop :=
  ∃ token payee, ∃ amount : ℕ, b' =
    { balance := raise b.balance token payee amount
      unasked := raise b.unasked token payee amount }

/-- A world of balances. -/
def world : Outside Bank where
  transfer := transfer
  balance b token holder := some (b.balance token holder)
  decimals _ _ := some 7
  appendOrderHash b _ _ _ _ _ := some b
  verifyProof _ _ _ _ := true
  isRootValid _ _ _ _ _ _ := some true
  isAnchored _ _ _ _ _ := true
  anchorDelay _ _ _ := some 0
  verifierRegistry _ _ := none
  hasUsableSlot _ _ _ _ := some true
  isApprovedMaker _ _ _ _ := true
  slotUsable _ _ _ _ _ := true
  expiredAt _ _ _ _ := some 0
  repinApproval _ _ _ _ := none
  openDispute b _ _ _ := .ok (0, b)
  settleBond b _ _ _ := .ok b
  recordResponse b _ _ _ := .ok b
  outcomeOf _ _ _ _ := .ok (.none, true, none)
  initiatorOf _ _ _ _ := .ok none
  challengeDeadlineOf _ _ _ _ := .ok 0

theorem transfer_ok {b b' : Bank} {env : Env} {token payer payee : Address} {amount : ℤ}
    (h : transfer b env token payer payee amount = some b') :
    0 ≤ amount ∧ b' = if payer = payee then { b with unasked := raise b.unasked token payer amount }
      else { b with
        balance := raise (raise b.balance token payer (-amount)) token payee amount } := by
  unfold transfer at h
  split at h
  · next hpaid =>
    refine ⟨hpaid.2.1, ?_⟩
    split at h
    · next hsame => rw [if_pos hsame, Option.some.inj h]
    · next hother => rw [if_neg hother, Option.some.inj h]
  · cases h

/-- The transfers are exact for every holder. -/
def exact (holder : Address) : ExactTokens world.toTokens holder where
  held b token := b.balance token holder
  unsolicited b token := b.unasked token holder
  nonneg h := (transfer_ok h).1
  pull {b b' env token payer amount} hpayer h t := by
    obtain ⟨-, rfl⟩ := transfer_ok h
    by_cases ht : t = token <;> simp [hpayer, ht, raise, Ne.symm hpayer]
  push {b b' env token payee amount} hpayee h t := by
    obtain ⟨-, rfl⟩ := transfer_ok h
    by_cases ht : t = token <;> simp [Ne.symm hpayee, ht, raise, Int.sub_eq_add_neg]
  back {b b' env token amount} h t := by
    obtain ⟨-, rfl⟩ := transfer_ok h
    by_cases ht : t = token <;> simp [ht, raise]

/-- Nobody else moves what a holder was asked to hold. -/
theorem handsOff (holder : Address) : HandsOff world (exact holder) gift where
  append h t := by
    cases h
    rfl
  openDispute _ h t := by
    cases h
    rfl
  settleBond h t := by
    cases h
    rfl
  recordResponse h t := by
    cases h
    rfl
  outside h t := by
    obtain ⟨token, payee, amount, rfl⟩ := h
    show raise _ _ _ _ _ _ - raise _ _ _ _ _ _ = _
    unfold raise ExactTokens.net
    split
    · show _ = (_ : ℤ) - _
      exact add_sub_add_right_eq_sub _ _ _
    · rfl

/-- Where everybody starts with `amount` of every token. -/
def endowed (amount : ℤ) (escrow : Address) : Bank where
  balance _ holder := if holder = escrow then 0 else amount
  unasked _ _ := 0

end Bank

/-! ## One order -/

/-- Keccak-256 on the four byte strings that hashing the sample order feeds it. -/
def sampleKeccak (b : Bytes) : BytesN32 :=
  if b.length = 640 then 0x23baf241a196dcf4b542a4355c77176e1788f79471eb856d4a374428bcc28e47
  else if b.length = 96 then 0x30be5c0eff57121410bcfb088c479028b3b8059112c22dff7e7b55f1b3927d7d
  else if b.length = 66 then 0x37fcdb1141fe8260e4abb5066caa8f8da2e70906374e74a739ade58545ba2ba1
  else 0xc673068a64ce0a2cf68f65767ff2c087e6b823c7cea3e59cb0776ff3efcc63d3

def sampleHost (contractId : BytesN32) : Host where
  contractId
  keccak256 := sampleKeccak
  actionId _ _ := 1
  brakeKey _ _ := 2
  argsFromXdr _ := none

/-- It does not collide on an order's preimages, which differ in length. -/
theorem sampleKeccak_injOn (contractId : BytesN32) {adId : AdId} (hadId : adId.length = 4)
    (o : Eip712.Order) :
    Set.InjOn sampleKeccak (Eip712.Preimages (sampleHost contractId) adId o) := by
  have hwords : (Eip712.concat o.words).length = 640 := by simp [Eip712.Order.words]
  have htyped : (Eip712.typedData (sampleHost contractId)
      (Eip712.structHashOrder (sampleHost contractId) o)).length = 66 := by
    simp [Eip712.typedData]
  have h₁ : sampleKeccak adId
      = 0xc673068a64ce0a2cf68f65767ff2c087e6b823c7cea3e59cb0776ff3efcc63d3 := by
    simp [sampleKeccak, hadId]
  have h₂ : sampleKeccak (Eip712.concat o.words)
      = 0x23baf241a196dcf4b542a4355c77176e1788f79471eb856d4a374428bcc28e47 := by
    simp [sampleKeccak, hwords]
  have h₃ : sampleKeccak (Eip712.typedData (sampleHost contractId)
      (Eip712.structHashOrder (sampleHost contractId) o))
      = 0x37fcdb1141fe8260e4abb5066caa8f8da2e70906374e74a739ade58545ba2ba1 := by
    simp [sampleKeccak, htyped]
  rintro b (rfl | rfl | rfl) b' (rfl | rfl | rfl) hkeccak <;> first
    | rfl
    | (simp only [h₁, h₂, h₃] at hkeccak
       exact absurd hkeccak (by decide))

/-- The admin, the maker and the bridger of the sample order sign everything. -/
def sampleSigns (a : Address) : Bool :=
  a = .account 0x0A || a = .account 0x3A || a = .account 0xB1

def sampleEnv (timestamp : U64) : Env where
  timestamp
  authorized := sampleSigns
  authorizedInside := sampleSigns

end ProofBridge
