import ProofBridge.Core.EscrowSpec

/-!
# Following the money

`ExactTokens` is what is assumed of the token contracts: each moves exactly the requested amount or
fails. What a contract holds is split into what it was asked to hold and what came in unsolicited,
and `net` is the first of the two. `HandsOff` is what is assumed of every other contract: none of
them can take a token out of an escrow, which authorizes nobody.

`free` is what of the net holdings no credit is owed from. A best-effort payout lowers it by its
amount whichever way it went, and claiming a credit leaves it alone; so an escrow is solvent when
what is free is what its books say it holds.
-/

namespace ProofBridge

open ContractLib

variable {X : Type}

/-- Token contracts that move exactly the requested amount or fail, as `holder` sees them. -/
structure ExactTokens (T : Tokens X) (holder : Address) where
  /-- What `holder` holds of a token. -/
  held : X → (token : Address) → ℤ
  /-- How much of it came in without `holder` having asked for it. -/
  unsolicited : X → (token : Address) → ℤ
  nonneg : ∀ {x x' env token payer payee amount},
    T.transfer x env token payer payee amount = some x' → 0 ≤ amount
  pull : ∀ {x x' env token payer amount}, payer ≠ holder →
    T.transfer x env token payer holder amount = some x' →
    ∀ t, held x' t = held x t + (if t = token then amount else 0) ∧
      unsolicited x' t = unsolicited x t
  push : ∀ {x x' env token payee amount}, payee ≠ holder →
    T.transfer x env token holder payee amount = some x' →
    ∀ t, held x' t = held x t - (if t = token then amount else 0) ∧
      unsolicited x' t = unsolicited x t
  /-- What `holder` sends itself has left its books and come back unsolicited. -/
  back : ∀ {x x' env token amount},
    T.transfer x env token holder holder amount = some x' →
    ∀ t, held x' t = held x t ∧
      unsolicited x' t = unsolicited x t + (if t = token then amount else 0)

namespace ExactTokens

variable {T : Tokens X} {holder : Address} (P : ExactTokens T holder)

/-- The holdings without the unsolicited transfers in. -/
def net (x : X) (token : Address) : ℤ := P.held x token - P.unsolicited x token

theorem net_pull {x x' : X} {env : Env} {token payer : Address} {amount : ℤ} (hpayer : payer ≠ holder)
    (h : T.transfer x env token payer holder amount = some x') (t : Address) :
    P.net x' t = P.net x t + (if t = token then amount else 0) := by
  obtain ⟨hheld, hunsolicited⟩ := P.pull hpayer h t
  unfold net
  rw [hheld, hunsolicited]
  omega

/-- Whoever is paid, what `holder` sends out leaves its net holdings. -/
theorem net_push {x x' : X} {env : Env} {token payee : Address} {amount : ℤ}
    (h : T.transfer x env token holder payee amount = some x') (t : Address) :
    P.net x' t = P.net x t - (if t = token then amount else 0) := by
  unfold net
  by_cases hback : payee = holder
  · subst hback
    obtain ⟨hheld, hunsolicited⟩ := P.back h t
    rw [hheld, hunsolicited]
    omega
  · obtain ⟨hheld, hunsolicited⟩ := P.push hback h t
    rw [hheld, hunsolicited]
    omega

end ExactTokens

/-- Nobody but `holder` takes anything out of what `holder` holds. -/
structure HandsOff (O : Outside X) {holder : Address} (P : ExactTokens O.toTokens holder)
    (outside : X → X → Prop) : Prop where
  append : ∀ {x x' env merkleManager manager orderHash side},
    O.appendOrderHash x env merkleManager manager orderHash side = some x' →
    ∀ t, P.net x' t = P.net x t
  /-- A filing pulls its bond from the filer. -/
  openDispute : ∀ {x x' env module bond} {filing : Filing}, filing.filer ≠ holder →
    O.openDispute x env module filing = .ok (bond, x') → ∀ t, P.net x' t = P.net x t
  settleBond : ∀ {x x' env module} {settlement : Settlement},
    O.settleBond x env module settlement = .ok x' → ∀ t, P.net x' t = P.net x t
  recordResponse : ∀ {x x' env module} {response : Response},
    O.recordResponse x env module response = .ok x' → ∀ t, P.net x' t = P.net x t
  outside : ∀ {x x'}, outside x x' → ∀ t, P.net x' t = P.net x t

/-! ## Credits -/

/-- What the entry under `(recipient, token)` is worth in `asset`. -/
def creditWorth (wNative asset : Address) (key : BytesN32 × BytesN32) (amount : ℕ) : ℕ :=
  if underlying wNative key.2 = asset then amount else 0

/-- All the credits in `asset`, under either spelling of it. -/
def creditsIn (wNative asset : Address) (l : Ledger) : ℕ :=
  Map.total (creditWorth wNative asset) l.claimable

theorem weightAt_claimable (wNative asset : Address) (l : Ledger) (recipient token : BytesN32) :
    Map.weightAt (creditWorth wNative asset) l.claimable (recipient, token)
      = creditWorth wNative asset (recipient, token) (l.getClaimable recipient token) := by
  unfold Map.weightAt Ledger.getClaimable
  cases l.claimable.get? (recipient, token) <;> simp [creditWorth]

/-- Storing a credit replaces what the key was worth. -/
theorem creditsIn_store (wNative asset : Address) {l l' : Ledger} {recipient token : BytesN32}
    {n : ℕ} (h : l'.claimable = storeNonzero l.claimable (recipient, token) n) :
    creditsIn wNative asset l' + creditWorth wNative asset (recipient, token)
        (l.getClaimable recipient token)
      = creditsIn wNative asset l + creditWorth wNative asset (recipient, token) n := by
  unfold creditsIn
  rw [h, ← weightAt_claimable]
  unfold storeNonzero
  split
  · next hzero =>
    rw [Map.total_remove _ l.claimable (recipient, token), hzero, Nat.add_comm]
    simp [creditWorth]
  · exact Map.total_set _ _ _ _

theorem creditsIn_remove (wNative asset : Address) {l l' : Ledger} {recipient token : BytesN32}
    (h : l'.claimable = l.claimable.remove (recipient, token)) :
    creditsIn wNative asset l' + creditWorth wNative asset (recipient, token)
        (l.getClaimable recipient token) = creditsIn wNative asset l := by
  unfold creditsIn
  rw [h, ← weightAt_claimable, Nat.add_comm]
  exact (Map.total_remove _ _ _).symm

/-- Every credit fits the width it is stored in. -/
def CreditsFit (l : Ledger) : Prop := ∀ recipient token, l.getClaimable recipient token < 2 ^ 128

theorem CreditsFit.of_eq {l l' : Ledger} (h : CreditsFit l) (heq : l'.claimable = l.claimable) :
    CreditsFit l' := by
  intro recipient token
  have hsame : l'.getClaimable recipient token = l.getClaimable recipient token := by
    unfold Ledger.getClaimable
    rw [heq]
  rw [hsame]
  exact h recipient token

theorem CreditsFit.paid {O : Outside X} {H : Host} {env : Env} {wNative : Address}
    {recipient token : BytesN32} {amount : ℕ} {c c' : Core X} (h : CreditsFit c.ledger)
    (hpaid : Escrow.Paid O H env wNative recipient token amount c c') : CreditsFit c'.ledger := by
  cases hpaid with
  | pushed x _ => exact h
  | credited _ hfit =>
    intro r t
    rw [Ledger.getClaimable_of_store rfl]
    split
    · exact hfit
    · exact h r t

theorem CreditsFit.remove {l l' : Ledger} {recipient token : BytesN32} (h : CreditsFit l)
    (heq : l'.claimable = l.claimable.remove (recipient, token)) : CreditsFit l' := by
  intro r t
  have hlookup := h r t
  unfold Ledger.getClaimable at hlookup ⊢
  rw [heq, Map.get?_remove]
  split
  · exact Nat.two_pow_pos _
  · exact hlookup

/-! ## What is free -/

section Free

variable {O : Outside X} {H : Host} {env : Env}

/-- A successful transfer moved the amount it was asked for, not its two's complement. -/
theorem amount_of_transfer (P : ExactTokens O.toTokens H.address) {x x' : X}
    {token payer payee : Address} {amount : ℕ} (hw : amount < 2 ^ 128)
    (h : O.transfer x env token payer payee (asI128 amount) = some x') :
    asI128 amount = amount :=
  asI128_of_nonneg hw (P.nonneg h)

variable (P : ExactTokens O.toTokens H.address)

/-- The net holdings of `asset` that no credit is owed from. -/
def free (wNative asset : Address) (c : Core X) : ℤ :=
  P.net c.outside asset - creditsIn wNative asset c.ledger

/-- What `amount` of `token` is worth in `asset`. -/
def worth (wNative asset : Address) (token : BytesN32) (amount : ℕ) : ℕ :=
  if underlying wNative token = asset then amount else 0

theorem worth_add (wNative asset : Address) (token : BytesN32) (m n : ℕ) :
    worth wNative asset token (m + n)
      = worth wNative asset token m + worth wNative asset token n := by
  unfold worth
  split <;> rfl

variable {P}

theorem free_congr {wNative asset : Address} {c c' : Core X}
    (hnet : P.net c'.outside asset = P.net c.outside asset)
    (hcredits : c'.ledger.claimable = c.ledger.claimable) :
    free P wNative asset c' = free P wNative asset c := by
  unfold free creditsIn
  rw [hnet, hcredits]

/-- A pull raises what is free by its amount. -/
theorem free_pull (asset : Address) {wNative payer : Address} {token : BytesN32} {amount : ℕ}
    {c : Core X} (c' : Core X) {x : X} (hpayer : payer ≠ H.address) (hw : amount < 2 ^ 128)
    (h : O.transfer c.outside (env.inside H.address) (underlying wNative token) payer H.address
      (asI128 amount) = some x)
    (hx : c'.outside = x) (hcredits : c'.ledger.claimable = c.ledger.claimable) :
    free P wNative asset c' = free P wNative asset c + worth wNative asset token amount := by
  have hnet := P.net_pull hpayer h asset
  rw [amount_of_transfer P hw h] at hnet
  unfold free creditsIn worth
  rw [hx, hnet, hcredits]
  simp only [eq_comm (a := asset)]
  split <;> push_cast <;> omega

/-- A push lowers it, whoever is paid. -/
theorem free_push (asset : Address) {wNative payee : Address} {token : BytesN32} {amount : ℕ}
    {c : Core X} (c' : Core X) {x : X} (hw : amount < 2 ^ 128)
    (h : O.transfer c.outside (env.inside H.address) (underlying wNative token) H.address payee
      (asI128 amount) = some x)
    (hx : c'.outside = x) (hcredits : c'.ledger.claimable = c.ledger.claimable) :
    free P wNative asset c' = free P wNative asset c - worth wNative asset token amount := by
  have hnet := P.net_push h asset
  rw [amount_of_transfer P hw h] at hnet
  unfold free creditsIn worth
  rw [hx, hnet, hcredits]
  simp only [eq_comm (a := asset)]
  split <;> push_cast <;> omega

/-- A best-effort payout lowers what is free by its amount, pushed or credited. -/
theorem free_paid (asset : Address) {wNative : Address} {recipient token : BytesN32} {amount : ℕ}
    {c c' : Core X} (hw : amount < 2 ^ 128)
    (h : Escrow.Paid O H env wNative recipient token amount c c') :
    free P wNative asset c' = free P wNative asset c - worth wNative asset token amount := by
  cases h with
  | pushed x h => exact free_push asset _ hw h rfl rfl
  | credited h hfit =>
    unfold free worth
    generalize hl : ({ c.ledger with
      claimable := storeNonzero c.ledger.claimable (recipient, token)
        (c.ledger.getClaimable recipient token + amount) } : Ledger) = l
    have hstored : l.claimable = storeNonzero c.ledger.claimable (recipient, token)
        (c.ledger.getClaimable recipient token + amount) := by rw [← hl]
    have hcredits := creditsIn_store wNative asset hstored
    simp only [creditWorth] at hcredits
    by_cases heq : underlying wNative token = asset
    · simp only [heq, if_true] at hcredits ⊢
      omega
    · simp only [heq, if_false] at hcredits ⊢
      omega

/-- Claiming a credit takes it out of the holdings and of the credits alike. -/
theorem free_claim (asset : Address) {wNative : Address} {recipient token : BytesN32} {c : Core X}
    (c' : Core X) {x : X}
    (hw : c.ledger.getClaimable recipient token < 2 ^ 128)
    (h : O.transfer c.outside (env.inside H.address) (underlying wNative token) H.address
      (.account recipient) (asI128 (c.ledger.getClaimable recipient token)) = some x)
    (hx : c'.outside = x)
    (hcredits : c'.ledger.claimable = c.ledger.claimable.remove (recipient, token)) :
    free P wNative asset c' = free P wNative asset c := by
  have hnet := P.net_push h asset
  rw [amount_of_transfer P hw h] at hnet
  have hremove := creditsIn_remove wNative asset hcredits
  unfold free
  rw [hx, hnet]
  simp only [creditWorth, eq_comm (a := asset)] at hremove ⊢
  by_cases heq : underlying wNative token = asset
  · simp only [heq, if_true] at hremove ⊢
    omega
  · simp only [heq, if_false] at hremove ⊢
    omega

end Free

end ProofBridge
