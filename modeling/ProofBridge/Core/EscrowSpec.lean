import ProofBridge.Core.Escrow

/-!
# What each shared step does

One inversion lemma for each step of the shared escrow code: a successful step passed its checks
and left the state given here. The entry points of both escrows are assembled from these, so no
later proof unfolds a shared step again.
-/

namespace ProofBridge

open ContractLib

variable {X : Type} {O : Outside X} {H : Host} {env : Env} {c : Core X}

namespace Escrow

/-! ## Counting positions -/

theorem get?_storeNonzero {K : Type} [DecidableEq K] (m : Map K ℕ) (k k' : K) (n : ℕ) :
    ((storeNonzero m k n).get? k').getD 0 = if k' = k then n else (m.get? k').getD 0 := by
  unfold storeNonzero
  split
  · next h =>
    rw [Map.get?_remove]
    split <;> simp [h]
  · rw [Map.get?_set]
    split <;> simp

end Escrow

/-! ## The leaves of one order -/

/-- The kinds of leaves appended for one order, the newest first. -/
def leavesOf (orderHash : BytesN32) (leaves : List (BytesN32 × ℕ)) : List ℕ :=
  (leaves.filter fun leaf => leaf.1 = orderHash).map Prod.snd

theorem leavesOf_cons (orderHash k : BytesN32) (side : ℕ) (leaves : List (BytesN32 × ℕ)) :
    leavesOf orderHash ((k, side) :: leaves)
      = if k = orderHash then side :: leavesOf orderHash leaves else leavesOf orderHash leaves := by
  unfold leavesOf
  by_cases h : k = orderHash
  · simp [h]
  · simp [h]

theorem leavesOf_cons_ne {orderHash k : BytesN32} (h : k ≠ orderHash) (side : ℕ)
    (leaves : List (BytesN32 × ℕ)) :
    leavesOf k ((orderHash, side) :: leaves) = leavesOf k leaves := by
  rw [leavesOf_cons, if_neg (Ne.symm h)]

/-- An order's leaf of a kind is among the leaves exactly when the kind is among its kinds. -/
theorem mem_leavesOf {orderHash : BytesN32} {side : ℕ} {leaves : List (BytesN32 × ℕ)} :
    side ∈ leavesOf orderHash leaves ↔ (orderHash, side) ∈ leaves := by
  unfold leavesOf
  rw [List.mem_map]
  constructor
  · rintro ⟨⟨k, d⟩, hmem, rfl⟩
    obtain ⟨hleaf, hk⟩ := List.mem_filter.mp hmem
    obtain rfl : k = orderHash := of_decide_eq_true hk
    exact hleaf
  · intro hmem
    exact ⟨(orderHash, side), List.mem_filter.mpr ⟨hmem, decide_eq_true rfl⟩, rfl⟩

namespace Ledger

variable {l l' : Ledger}

theorem status_of_set {orderHash : BytesN32} {rec : OrderRecord}
    (h : l'.orders = l.orders.set orderHash rec) (k : BytesN32) :
    l'.status k = if k = orderHash then rec.status else l.status k := by
  unfold status getOrder
  rw [h, Map.get?_set]
  split <;> rfl

theorem status_of_eq (h : l'.orders = l.orders) (k : BytesN32) : l'.status k = l.status k := by
  unfold status getOrder
  rw [h]

theorem getInFlight_of_store {account : BytesN32} {n : ℕ}
    (h : l'.inFlight = storeNonzero l.inFlight account n) (a : BytesN32) :
    l'.getInFlight a = if a = account then n else l.getInFlight a := by
  unfold getInFlight
  rw [h]
  exact Escrow.get?_storeNonzero _ _ _ _

theorem getInFlight_of_eq (h : l'.inFlight = l.inFlight) (a : BytesN32) :
    l'.getInFlight a = l.getInFlight a := by
  unfold getInFlight
  rw [h]

theorem getClaimable_of_store {recipient token : BytesN32} {n : ℕ}
    (h : l'.claimable = storeNonzero l.claimable (recipient, token) n) (r t : BytesN32) :
    l'.getClaimable r t = if (r, t) = (recipient, token) then n else l.getClaimable r t := by
  unfold getClaimable
  rw [h]
  exact Escrow.get?_storeNonzero _ _ _ _

theorem isNullifierUsed_of_set {nullifierHash : BytesN32}
    (h : l'.nullifiers = l.nullifiers.set nullifierHash true) (k : BytesN32) :
    l'.isNullifierUsed k = (decide (k = nullifierHash) || l.isNullifierUsed k) := by
  unfold isNullifierUsed
  rw [h, Map.get?_set]
  by_cases heq : k = nullifierHash <;> simp [heq]

theorem isSettledRecorded_of_set {orderHash : BytesN32}
    (h : l'.settled = l.settled.set orderHash true) (k : BytesN32) :
    l'.isSettledRecorded k = (decide (k = orderHash) || l.isSettledRecorded k) := by
  unfold isSettledRecorded
  rw [h, Map.get?_set]
  by_cases heq : k = orderHash <;> simp [heq]

end Ledger

namespace Escrow

theorem countIn_ok {account : BytesN32} {r : Unit × Core X} (ok : countIn account c = .ok r) :
    r.2 = { c with ledger := { c.ledger with
      inFlight := storeNonzero c.ledger.inFlight account (c.ledger.getInFlight account + 1) } } := by
  unfold countIn at ok
  simp only [Tx.bind_read_ok, Tx.bind_lift_ok, Tx.modify_ok, Check.add_ok] at ok
  obtain ⟨_, ⟨-, rfl⟩, rfl⟩ := ok
  rfl

theorem countOut_ok {account : BytesN32} {r : Unit × Core X} (ok : countOut account c = .ok r) :
    1 ≤ c.ledger.getInFlight account ∧
    r.2 = { c with ledger := { c.ledger with
      inFlight := storeNonzero c.ledger.inFlight account (c.ledger.getInFlight account - 1) } } := by
  unfold countOut at ok
  simp only [Tx.bind_read_ok, Tx.bind_lift_ok, Tx.modify_ok, Check.sub_ok] at ok
  obtain ⟨_, ⟨hle, rfl⟩, rfl⟩ := ok
  exact ⟨hle, rfl⟩

theorem countOut_safe {account : BytesN32} (h : 1 ≤ c.ledger.getInFlight account) :
    Tx.Safe .underflow (countOut account) c := by
  unfold countOut
  simp only [Tx.safe_bind, Tx.safe_read, Tx.safe_lift, Tx.safe_modify, Check.safe_sub, true_and]
  rintro c₁ c₂ hread
  cases hread
  exact ⟨fun _ => h, fun _ _ _ => trivial⟩

/-! ## Terminal transitions -/

/-- The ledger after an order ended in `status` and its account was counted out. -/
def closeOrder (orderHash account : BytesN32) (status : Status) (l : Ledger) : Ledger :=
  { l with
    orders := l.orders.set orderHash { l.getOrder orderHash with status }
    claims := l.claims.remove orderHash
    inFlight := storeNonzero l.inFlight account (l.getInFlight account - 1) }

theorem fill_ok {orderHash account : BytesN32} {byEvidence : Bool} {r : Unit × Core X}
    (ok : fill orderHash account byEvidence c = .ok r) :
    1 ≤ c.ledger.getInFlight account ∧
    r.2 = { c with
      ledger := closeOrder orderHash account .filled c.ledger
      events := .orderSettled orderHash byEvidence :: c.events } := by
  unfold fill at ok
  simp only [Tx.bind_modify_ok] at ok
  simp only [Tx.bind_ok, Tx.modify_ok] at ok
  obtain ⟨⟨⟩, c₁, hcount, rfl⟩ := ok
  obtain ⟨hle, rfl⟩ := countOut_ok hcount
  exact ⟨hle, rfl⟩

theorem cancel_ok {orderHash account : BytesN32} {byEvidence : Bool} {r : Unit × Core X}
    (ok : cancel orderHash account byEvidence c = .ok r) :
    1 ≤ c.ledger.getInFlight account ∧
    r.2 = { c with
      ledger := closeOrder orderHash account .cancelled c.ledger
      events := .orderCancelled orderHash byEvidence :: c.events } := by
  unfold cancel at ok
  simp only [Tx.bind_modify_ok] at ok
  simp only [Tx.bind_ok, Tx.modify_ok] at ok
  obtain ⟨⟨⟩, c₁, hcount, rfl⟩ := ok
  obtain ⟨hle, rfl⟩ := countOut_ok hcount
  exact ⟨hle, rfl⟩

/-- Resolving closes no window: filing already did. -/
theorem resolve_ok {orderHash account : BytesN32} {r : Unit × Core X}
    (ok : resolve orderHash account c = .ok r) :
    1 ≤ c.ledger.getInFlight account ∧
    r.2 = { c with ledger := { closeOrder orderHash account .resolved c.ledger with
      claims := c.ledger.claims } } := by
  unfold resolve at ok
  simp only [Tx.bind_modify_ok] at ok
  obtain ⟨hle, h⟩ := countOut_ok ok
  exact ⟨hle, h⟩

theorem countOut_succeeds (account : BytesN32) (h : 1 ≤ c.ledger.getInFlight account) :
    ∃ c', countOut account c = .ok ((), c') := by
  refine ⟨{ c with ledger := { c.ledger with
    inFlight := storeNonzero c.ledger.inFlight account (c.ledger.getInFlight account - 1) } }, ?_⟩
  unfold countOut
  simp only [Tx.bind_read_ok, Tx.bind_lift_ok, Tx.modify_ok, Check.sub_ok]
  exact ⟨_, ⟨h, rfl⟩, rfl⟩

/-- A counted order can always be closed, whichever way. -/
theorem close_succeeds (orderHash : BytesN32) {account : BytesN32} (h : 1 ≤ c.ledger.getInFlight account) :
    (∀ byEvidence, ∃ c', fill orderHash account byEvidence c = .ok ((), c')) ∧
    (∀ byEvidence, ∃ c', cancel orderHash account byEvidence c = .ok ((), c')) ∧
    ∃ c', resolve orderHash account c = .ok ((), c') := by
  refine ⟨fun byEvidence => ?_, fun byEvidence => ?_, ?_⟩
  · obtain ⟨c', hc'⟩ := countOut_succeeds account
      (c := { c with ledger := { c.ledger with
        orders := c.ledger.orders.set orderHash
          { c.ledger.getOrder orderHash with status := .filled }
        claims := c.ledger.claims.remove orderHash } }) h
    refine ⟨{ c' with events := .orderSettled orderHash byEvidence :: c'.events }, ?_⟩
    unfold fill
    rw [Tx.bind_modify_ok, Tx.bind_modify_ok, Tx.bind_ok]
    exact ⟨(), c', hc', rfl⟩
  · obtain ⟨c', hc'⟩ := countOut_succeeds account
      (c := { c with ledger := { c.ledger with
        orders := c.ledger.orders.set orderHash
          { c.ledger.getOrder orderHash with status := .cancelled }
        claims := c.ledger.claims.remove orderHash } }) h
    refine ⟨{ c' with events := .orderCancelled orderHash byEvidence :: c'.events }, ?_⟩
    unfold cancel
    rw [Tx.bind_modify_ok, Tx.bind_modify_ok, Tx.bind_ok]
    exact ⟨(), c', hc', rfl⟩
  · obtain ⟨c', hc'⟩ := countOut_succeeds account
      (c := { c with ledger := { c.ledger with
        orders := c.ledger.orders.set orderHash
          { c.ledger.getOrder orderHash with status := .resolved } } }) h
    refine ⟨c', ?_⟩
    unfold resolve
    rw [Tx.bind_modify_ok]
    exact hc'

theorem fill_safe {orderHash account : BytesN32} {byEvidence : Bool}
    (h : 1 ≤ c.ledger.getInFlight account) :
    Tx.Safe .underflow (fill orderHash account byEvidence) c := by
  unfold fill
  simp only [Tx.safe_bind, Tx.safe_modify, true_and, Tx.modify_ok]
  rintro _ _ heq _ _ heq'
  cases heq
  cases heq'
  exact ⟨countOut_safe h, fun _ _ _ => trivial⟩

theorem cancel_safe {orderHash account : BytesN32} {byEvidence : Bool}
    (h : 1 ≤ c.ledger.getInFlight account) :
    Tx.Safe .underflow (cancel orderHash account byEvidence) c := by
  unfold cancel
  simp only [Tx.safe_bind, Tx.safe_modify, true_and, Tx.modify_ok]
  rintro _ _ heq _ _ heq'
  cases heq
  cases heq'
  exact ⟨countOut_safe h, fun _ _ _ => trivial⟩

theorem resolve_safe {orderHash account : BytesN32} (h : 1 ≤ c.ledger.getInFlight account) :
    Tx.Safe .underflow (resolve orderHash account) c := by
  unfold resolve
  simp only [Tx.safe_bind, Tx.safe_modify, true_and, Tx.modify_ok]
  rintro _ _ heq
  cases heq
  exact countOut_safe h

/-! ## Tokens -/

theorem transferTokens_ok {token : BytesN32} {wNative payer payee : Address} {amount : ℕ}
    {r : Unit × Core X} (ok : transferTokens O H env token wNative payer payee amount c = .ok r) :
    ∃ x, O.transfer c.outside (env.inside H.address) (underlying wNative token) payer payee
        (asI128 amount) = some x ∧ r.2 = { c with outside := x } := by
  unfold transferTokens at ok
  simp only [tokenContract_eq, Tx.bind_lift_ok, Tx.bind_read_ok, Tx.bind_expectTrap_ok,
    Tx.modify_ok, Except.ok.injEq] at ok
  obtain ⟨_, rfl, x, hx, rfl⟩ := ok
  exact ⟨x, hx, rfl⟩

theorem transferFromUser_ok {token : BytesN32} {wNative payer : Address} {amount : ℕ}
    {r : Unit × Core X} (ok : transferFromUser O H env token wNative payer amount c = .ok r) :
    ∃ x, O.transfer c.outside (env.inside H.address) (underlying wNative token) payer H.address
        (asI128 amount) = some x ∧ r.2 = { c with outside := x } := by
  unfold transferFromUser at ok
  rw [Tx.ite_apply] at ok
  split at ok
  · exact transferTokens_ok ok
  · simp only [Tx.bind_lift_ok, Tx.bind_read_ok, Tx.bind_expectTrap_ok] at ok
    obtain ⟨_, -, _, -, ok⟩ := ok
    rw [Tx.bind_ok] at ok
    obtain ⟨⟨⟩, c₁, htransfer, ok⟩ := ok
    simp only [Tx.bind_lift_ok, Tx.bind_read_ok, Tx.bind_expectTrap_ok, Tx.require_ok] at ok
    obtain ⟨_, -, _, -, -, rfl⟩ := ok
    exact transferTokens_ok htransfer

theorem transferToRecipient_ok {token recipient : BytesN32} {wNative : Address} {amount : ℕ}
    {r : Unit × Core X} (ok : transferToRecipient O H env token wNative recipient amount c = .ok r) :
    ∃ x, O.transfer c.outside (env.inside H.address) (underlying wNative token) H.address
        (.account recipient) (asI128 amount) = some x ∧ r.2 = { c with outside := x } := by
  unfold transferToRecipient at ok
  simp only [Tx.bind_lift_ok] at ok
  obtain ⟨payee, hpayee, ok⟩ := ok
  have hpayee' : payee = .account recipient := by
    unfold bytes32ToAccountAddress at hpayee
    split at hpayee
    · cases hpayee
    · exact (Except.ok.inj hpayee).symm
  subst hpayee'
  exact transferTokens_ok ok

theorem transferTokens_safe {token : BytesN32} {wNative payer payee : Address} {amount : ℕ} :
    Tx.Safe .underflow (transferTokens O H env token wNative payer payee amount) c := by
  unfold transferTokens
  simp [Tx.safe_bind, tokenContract_eq]

theorem transferFromUser_safe {token : BytesN32} {wNative payer : Address} {amount : ℕ} :
    Tx.Safe .underflow (transferFromUser O H env token wNative payer amount) c := by
  unfold transferFromUser
  rw [Tx.safe_ite]
  refine ⟨fun _ => transferTokens_safe, fun _ => ?_⟩
  simp [Tx.safe_bind, tokenContract_eq, transferTokens_safe, subI128]

theorem transferToRecipient_safe {token recipient : BytesN32} {wNative : Address} {amount : ℕ} :
    Tx.Safe .underflow (transferToRecipient O H env token wNative recipient amount) c := by
  unfold transferToRecipient
  rw [Tx.safe_bind]
  refine ⟨?_, fun _ _ _ => transferTokens_safe⟩
  unfold bytes32ToAccountAddress
  rw [Tx.safe_lift]
  split <;> simp

/-- What a best-effort payout leaves: the recipient was pushed the amount, or credited it. -/
inductive Paid (O : Outside X) (H : Host) (env : Env) (wNative : Address)
    (recipient token : BytesN32) (amount : ℕ) (c : Core X) : Core X → Prop
  | pushed (x : X)
      (h : O.transfer c.outside (env.inside H.address) (underlying wNative token) H.address
        (.account recipient) (asI128 amount) = some x) :
      Paid O H env wNative recipient token amount c { c with outside := x }
  | credited
      (h : isZeroBytes32 recipient = true ∨
        O.transfer c.outside (env.inside H.address) (underlying wNative token) H.address
          (.account recipient) (asI128 amount) = none)
      (hfit : c.ledger.getClaimable recipient token + amount < 2 ^ 128) :
      Paid O H env wNative recipient token amount c
        { c with
          ledger := { c.ledger with
            claimable := storeNonzero c.ledger.claimable (recipient, token)
              (c.ledger.getClaimable recipient token + amount) }
          events := .payoutCredited recipient token amount :: c.events }

/-- Everything but the credits, the tokens and the log is as it was. -/
def MoneyOnly (c c' : Core X) : Prop :=
  ∃ x claimable events, c' = { c with
    outside := x
    ledger := { c.ledger with claimable }
    events }

theorem MoneyOnly.trans {c c' c'' : Core X} (h : MoneyOnly c c') (h' : MoneyOnly c' c'') :
    MoneyOnly c c'' := by
  obtain ⟨x, claimable, events, rfl⟩ := h
  obtain ⟨x', claimable', events', rfl⟩ := h'
  exact ⟨x', claimable', events', rfl⟩

theorem Paid.moneyOnly {wNative : Address} {recipient token : BytesN32} {amount : ℕ}
    {c' : Core X} (h : Paid O H env wNative recipient token amount c c') : MoneyOnly c c' := by
  cases h with
  | pushed x h => exact ⟨x, c.ledger.claimable, c.events, rfl⟩
  | credited h hfit => exact ⟨c.outside, _, _, rfl⟩

theorem payOrCredit_ok {wNative : Address} {recipient token : BytesN32} {amount : ℕ}
    {r : Unit × Core X} (ok : payOrCredit O H env wNative recipient token amount c = .ok r) :
    Paid O H env wNative recipient token amount c r.2 := by
  unfold payOrCredit at ok
  rw [Tx.bind_read_ok] at ok
  cases hpush : tryTransferToRecipient O H env token wNative recipient amount c with
  | some x =>
    simp only [hpush, Tx.modify_ok] at ok
    subst ok
    unfold tryTransferToRecipient at hpush
    split at hpush
    · cases hpush
    · exact .pushed x hpush
  | none =>
    simp only [hpush] at ok
    unfold credit at ok
    simp only [Tx.bind_read_ok, Tx.bind_lift_ok, Tx.bind_modify_ok, Tx.modify_ok,
      Check.add_ok] at ok
    obtain ⟨_, ⟨hfit, rfl⟩, rfl⟩ := ok
    refine .credited ?_ hfit
    unfold tryTransferToRecipient at hpush
    split at hpush
    · next hzero => exact .inl hzero
    · exact .inr hpush

/-- A payout raises one credit by at most its amount. -/
theorem Paid.getClaimable_le {wNative : Address} {recipient token : BytesN32} {amount : ℕ}
    {c' : Core X} (h : Paid O H env wNative recipient token amount c c') (r t : BytesN32) :
    c'.ledger.getClaimable r t ≤ c.ledger.getClaimable r t + amount := by
  cases h with
  | pushed x h => exact Nat.le_add_right _ _
  | credited h hfit =>
    rw [Ledger.getClaimable_of_store rfl]
    split
    · next heq =>
      obtain ⟨rfl, rfl⟩ := Prod.mk.inj heq
      exact le_rfl
    · exact Nat.le_add_right _ _

/-- A payout succeeds unless it must be credited and the credit would leave its width. -/
theorem payOrCredit_succeeds {wNative : Address} {recipient token : BytesN32} {amount : ℕ}
    (hroom : c.ledger.getClaimable recipient token + amount < 2 ^ 128) :
    ∃ c', payOrCredit O H env wNative recipient token amount c = .ok ((), c') := by
  unfold payOrCredit
  cases hpush : tryTransferToRecipient O H env token wNative recipient amount c with
  | some x =>
    refine ⟨{ c with outside := x }, ?_⟩
    rw [Tx.bind_read_ok]
    simp only [hpush, Tx.modify_ok]
  | none =>
    refine ⟨{ c with
      ledger := { c.ledger with
        claimable := storeNonzero c.ledger.claimable (recipient, token)
          (c.ledger.getClaimable recipient token + amount) }
      events := .payoutCredited recipient token amount :: c.events }, ?_⟩
    rw [Tx.bind_read_ok]
    simp only [hpush]
    unfold credit
    simp only [Tx.bind_read_ok, Tx.bind_lift_ok, Tx.bind_modify_ok, Tx.modify_ok, Check.add_ok]
    exact ⟨_, ⟨hroom, rfl⟩, rfl⟩

theorem payOrCredit_safe {wNative : Address} {recipient token : BytesN32} {amount : ℕ} :
    Tx.Safe .underflow (payOrCredit O H env wNative recipient token amount) c := by
  unfold payOrCredit
  rw [Tx.safe_bind]
  refine ⟨Tx.safe_read, fun c₁ c₂ _ => ?_⟩
  split
  · exact Tx.safe_modify
  · simp [credit, Tx.safe_bind]

theorem claim_ok {config : ContractConfig} {recipient token : BytesN32} {r : Unit × Core X}
    (ok : claim O H env config recipient token c = .ok r) :
    ∃ x, c.ledger.getClaimable recipient token ≠ 0 ∧
      O.transfer c.outside (env.inside H.address) (underlying config.wNativeToken token) H.address
        (.account recipient) (asI128 (c.ledger.getClaimable recipient token)) = some x ∧
      r.2 = { c with
        outside := x
        ledger := { c.ledger with claimable := c.ledger.claimable.remove (recipient, token) }
        events := .payoutClaimed recipient token (c.ledger.getClaimable recipient token)
          :: c.events } := by
  unfold claim at ok
  simp only [Tx.bind_read_ok, Tx.bind_require_ok, Tx.bind_modify_ok] at ok
  simp only [Tx.bind_ok, Tx.modify_ok] at ok
  obtain ⟨hne, ⟨⟩, c₁, htransfer, rfl⟩ := ok
  obtain ⟨x, hx, rfl⟩ := transferToRecipient_ok htransfer
  exact ⟨x, hne, hx, rfl⟩

/-! ## Leaves -/

theorem appendToMerkle_ok {merkleManager : Address} {orderHash : BytesN32} {side : ℕ}
    {r : Unit × Core X} (ok : appendToMerkle O H env merkleManager orderHash side c = .ok r) :
    ∃ x, O.appendOrderHash c.outside (env.inside H.address) merkleManager H.address orderHash side
        = some x ∧ r.2 = { c with outside := x, leaves := (orderHash, side) :: c.leaves } := by
  unfold appendToMerkle at ok
  simp only [Tx.bind_read_ok, Tx.bind_expect_ok, Tx.modify_ok] at ok
  obtain ⟨x, hx, rfl⟩ := ok
  exact ⟨x, hx, rfl⟩

theorem appendToMerkle_safe {merkleManager : Address} {orderHash : BytesN32} {side : ℕ}
    {t : Trap} : Tx.Safe t (appendToMerkle O H env merkleManager orderHash side) c := by
  unfold appendToMerkle
  simp [Tx.safe_bind]

theorem recordSettled_ok {merkleManager : Address} {orderHash : BytesN32} {r : Unit × Core X}
    (ok : recordSettled O H env merkleManager orderHash c = .ok r) :
    ∃ x, c.ledger.status orderHash = .filled ∧ c.ledger.isSettledRecorded orderHash = false ∧
      O.appendOrderHash c.outside (env.inside H.address) merkleManager H.address orderHash
        LEAF_DOMAIN_SETTLED = some x ∧
      r.2 = { c with
        outside := x
        leaves := (orderHash, LEAF_DOMAIN_SETTLED) :: c.leaves
        ledger := { c.ledger with settled := c.ledger.settled.set orderHash true }
        events := .settledRecorded orderHash :: c.events } := by
  unfold recordSettled at ok
  simp only [Tx.bind_read_ok, Tx.bind_require_ok, Tx.bind_modify_ok] at ok
  simp only [Tx.bind_ok, Tx.modify_ok] at ok
  obtain ⟨hfilled, hnew, ⟨⟩, c₁, happend, rfl⟩ := ok
  obtain ⟨x, hx, rfl⟩ := appendToMerkle_ok happend
  exact ⟨x, hfilled, hnew, hx, rfl⟩

/-! ## Windows and disputes -/

theorem openClaim_ok {orderHash : BytesN32} {finalizeAt : ℕ} {r : Unit × Core X}
    (ok : openClaim env orderHash finalizeAt c = .ok r) :
    r.2 = { c with
      ledger := { c.ledger with
        claims := c.ledger.claims.set orderHash { openedAt := env.now, finalizeAt }
        orders := c.ledger.orders.set orderHash
          { c.ledger.getOrder orderHash with status := .claimed } }
      events := .claimOpened orderHash finalizeAt :: c.events } := by
  unfold openClaim at ok
  simp only [Tx.bind_modify_ok, Tx.modify_ok] at ok
  subst ok
  rfl

/-- What a filing left: the module took it, and the order points at that module. -/
theorem openDispute_ok {orderHash evidence : BytesN32} {peerChainId : U128}
    {filer token : Address} {deadline amount : ℕ} {r : ℕ × Core X}
    (ok : openDispute O H env orderHash peerChainId filer evidence deadline token amount c
      = .ok r) :
    ∃ t manager x,
      requireDisputable env orderHash peerChainId deadline c = .ok t ∧
      c.settings.disputeManager = some manager ∧
      O.openDispute c.outside (env.inside H.address) manager
        { escrow := H.address, orderHash, peerChainId, filer, evidence, deadline,
          buffer := t.buffer, token, amount } = .ok (r.1, x) ∧
      r.2 = { c with
        outside := x
        ledger := { c.ledger with
          disputeManagers := c.ledger.disputeManagers.set orderHash manager
          orders := c.ledger.orders.set orderHash
            { c.ledger.getOrder orderHash with status := .disputed }
          claims := c.ledger.claims.remove orderHash } } := by
  unfold openDispute at ok
  simp only [Tx.bind_view_ok, Tx.bind_read_ok, Tx.bind_expect_ok, Tx.bind_lift_ok,
    Tx.bind_modify_ok, Tx.pure_ok, moduleAnswer_ok] at ok
  obtain ⟨t, ht, manager, hmanager, ⟨bond, x⟩, hopen, rfl⟩ := ok
  exact ⟨t, manager, x, ht, hmanager, hopen, rfl⟩

theorem requireDisputable_ok {orderHash : BytesN32} {chainId : U128} {deadline : ℕ}
    {t : RouteTiming} (ok : requireDisputable env orderHash chainId deadline c = .ok t) :
    (c.ledger.status orderHash = .opened ∨ c.ledger.status orderHash = .claimed) ∧
    orderTiming orderHash chainId c = .ok t ∧
    env.now < windowEnd orderHash deadline t.buffer c := by
  simp only [requireDisputable, Check.bind_ok, Check.require_ok, Check.pure_ok] at ok
  obtain ⟨-, hstatus, t', ht, -, hopen, rfl⟩ := ok
  exact ⟨hstatus, ht, hopen⟩

theorem settleBond_ok {orderHash : BytesN32} {outcome : DisputeOutcome}
    {filerIsBridger returnToFiler : Bool} {r : Unit × Core X}
    (ok : settleBond O H env orderHash outcome filerIsBridger returnToFiler c = .ok r) :
    ∃ manager x, c.ledger.disputeManagers.get? orderHash = some manager ∧
      O.settleBond c.outside (env.inside H.address) manager
        { escrow := H.address, orderHash, outcome, filerIsBridger, returnToFiler } = .ok x ∧
      r.2 = { c with outside := x } := by
  unfold settleBond at ok
  simp only [Tx.bind_view_ok, Tx.bind_read_ok, Tx.bind_lift_ok, Tx.modify_ok, moduleAnswer_ok,
    orderDisputeManager, Check.expect_ok] at ok
  obtain ⟨manager, hmanager, x, hx, rfl⟩ := ok
  exact ⟨manager, x, hmanager, hx, rfl⟩

theorem recordResponse_ok {orderHash evidence : BytesN32} {responder : Address}
    {r : Unit × Core X} (ok : recordResponse O H env orderHash responder evidence c = .ok r) :
    ∃ manager x, c.ledger.disputeManagers.get? orderHash = some manager ∧
      O.recordResponse c.outside (env.inside H.address) manager
        { escrow := H.address, orderHash, responder, evidence } = .ok x ∧
      r.2 = { c with outside := x } := by
  unfold recordResponse at ok
  simp only [Tx.bind_view_ok, Tx.bind_read_ok, Tx.bind_lift_ok, Tx.modify_ok, moduleAnswer_ok,
    orderDisputeManager, Check.expect_ok] at ok
  obtain ⟨manager, hmanager, x, hx, rfl⟩ := ok
  exact ⟨manager, x, hmanager, hx, rfl⟩

/-- What an evidence close did: nothing, where there was no record, else it settled the bond. -/
inductive EvidenceClosed (O : Outside X) (H : Host) (env : Env) (orderHash : BytesN32)
    (outcome : DisputeOutcome) (makerOf : Option Address) (denied : Address → Check Fault Bool)
    (c : Core X) : Core X → Prop
  | nothing (hflags : evidenceFlags O env orderHash makerOf denied c = .ok none) :
      EvidenceClosed O H env orderHash outcome makerOf denied c c
  | settled {flags : Bool × Bool} {manager : Address} {x : X}
      (hflags : evidenceFlags O env orderHash makerOf denied c = .ok (some flags))
      (hmanager : c.ledger.disputeManagers.get? orderHash = some manager)
      (hsettle : O.settleBond c.outside (env.inside H.address) manager
        { escrow := H.address, orderHash, outcome, filerIsBridger := flags.1,
          returnToFiler := flags.2 } = .ok x) :
      EvidenceClosed O H env orderHash outcome makerOf denied c { c with outside := x }

theorem closeDisputeByEvidence_ok {orderHash : BytesN32} {outcome : DisputeOutcome}
    {makerOf : Option Address} {denied : Address → Check Fault Bool} {r : Unit × Core X}
    (ok : closeDisputeByEvidence O H env orderHash outcome makerOf denied c = .ok r) :
    EvidenceClosed O H env orderHash outcome makerOf denied c r.2 := by
  unfold closeDisputeByEvidence at ok
  simp only [Tx.bind_view_ok] at ok
  obtain ⟨flags, hflags, ok⟩ := ok
  cases flags with
  | none =>
    obtain rfl := Tx.pure_ok.mp ok
    exact .nothing hflags
  | some flags =>
    obtain ⟨manager, x, hmanager, hx, h⟩ := settleBond_ok ok
    rw [h]
    exact .settled hflags hmanager hx

namespace EvidenceClosed

variable {orderHash : BytesN32} {outcome : DisputeOutcome} {makerOf : Option Address}
  {denied : Address → Check Fault Bool} {c' : Core X}

/-- An evidence close moves nothing this contract stores. -/
theorem frame (h : EvidenceClosed O H env orderHash outcome makerOf denied c c') :
    ∃ x, c' = { c with outside := x } := by
  cases h with
  | nothing => exact ⟨c.outside, rfl⟩
  | settled => exact ⟨_, rfl⟩

end EvidenceClosed

theorem settleBond_safe {orderHash : BytesN32} {outcome : DisputeOutcome}
    {filerIsBridger returnToFiler : Bool} {t : Trap} :
    Tx.Safe t (settleBond O H env orderHash outcome filerIsBridger returnToFiler) c := by
  unfold settleBond orderDisputeManager
  simp [Tx.safe_bind]

/-! ## Checks that subtract nothing -/

theorem requireReached_safe {time : ℕ} {t : Trap} : (requireReached env time).Safe t :=
  Check.safe_require

theorem orderTiming_safe {orderHash : BytesN32} {chainId : U128} {t : Trap} :
    (orderTiming orderHash chainId c).Safe t :=
  Check.safe_expect

theorem currentTiming_safe {chainId : U128} {t : Trap} : (currentTiming chainId c).Safe t := by
  unfold currentTiming
  simp

theorem requireMinWindow_safe {chainId : U128} {deadline : ℕ} :
    (requireMinWindow env chainId deadline c).Safe .underflow := by
  unfold requireMinWindow
  simp [Check.safe_bind, currentTiming_safe]

theorem requireFinalizable_safe {orderHash : BytesN32} {buffer : ℕ} {t : Trap} :
    (requireFinalizable env orderHash buffer c).Safe t := by
  unfold requireFinalizable
  simp [Check.safe_bind, requireReached_safe]

theorem requireAnchored_safe {chainId : U128} {root : BytesN32} {t : Trap} :
    (requireAnchored O env chainId root c).Safe t := by
  unfold requireAnchored
  simp [Check.safe_bind]

theorem tokenDecimals_safe {token : BytesN32} {wNative : Address} :
    (tokenDecimals O token wNative c).Safe .underflow := by
  unfold tokenDecimals
  simp [Check.safe_bind, tokenContract_eq]

theorem bytes32ToAccountAddress_safe {bytes : BytesN32} {t : Trap} :
    (bytes32ToAccountAddress bytes).Safe t := by
  unfold bytes32ToAccountAddress
  simp

theorem buildPublicInputs_safe {nullifierHash targetRoot orderHash : BytesN32} {chainFlag : ℕ}
    {t : Trap} : (buildPublicInputs nullifierHash targetRoot orderHash chainFlag).Safe t := by
  unfold buildPublicInputs
  simp

theorem disputeOutcome_safe {orderHash : BytesN32} {t : Trap} :
    (disputeOutcome O env orderHash c).Safe t := by
  unfold disputeOutcome orderDisputeManager
  simp [Check.safe_bind]

theorem disputeChallengeDeadline_safe {orderHash : BytesN32} {t : Trap} :
    (disputeChallengeDeadline O env orderHash c).Safe t := by
  unfold disputeChallengeDeadline orderDisputeManager
  simp [Check.safe_bind]

theorem evidenceFlags_safe {orderHash : BytesN32} {makerOf : Option Address}
    {denied : Address → Check Fault Bool} {t : Trap} (h : ∀ maker, (denied maker).Safe t) :
    (evidenceFlags O env orderHash makerOf denied c).Safe t := by
  unfold evidenceFlags disputeFiler
  rw [Check.safe_bind]
  constructor
  · split <;> simp
  · intro filer _
    split
    · rw [Check.safe_ite]
      refine ⟨fun _ => Check.safe_pure, fun _ => ?_⟩
      simp [h]
    · exact Check.safe_pure

theorem closeDisputeByEvidence_safe {orderHash : BytesN32} {outcome : DisputeOutcome}
    {makerOf : Option Address} {denied : Address → Check Fault Bool} {t : Trap}
    (h : ∀ maker, (denied maker).Safe t) :
    Tx.Safe t (closeDisputeByEvidence O H env orderHash outcome makerOf denied) c := by
  unfold closeDisputeByEvidence
  rw [Tx.safe_bind_view]
  refine ⟨evidenceFlags_safe h, fun flags _ => ?_⟩
  split
  · exact Tx.safe_pure
  · exact settleBond_safe

theorem openDispute_safe {orderHash evidence : BytesN32} {peerChainId : U128}
    {filer token : Address} {deadline amount : ℕ} {t : Trap} :
    Tx.Safe t (openDispute O H env orderHash peerChainId filer evidence deadline token amount)
      c := by
  unfold openDispute requireDisputable
  simp [Check.safe_bind, orderTiming_safe]

theorem recordResponse_safe {orderHash evidence : BytesN32} {responder : Address} {t : Trap} :
    Tx.Safe t (recordResponse O H env orderHash responder evidence) c := by
  unfold recordResponse orderDisputeManager
  simp

theorem recordSettled_safe {merkleManager : Address} {orderHash : BytesN32} {t : Trap} :
    Tx.Safe t (recordSettled O H env merkleManager orderHash) c := by
  unfold recordSettled
  simp [Tx.safe_bind, appendToMerkle_safe]

theorem claim_safe {config : ContractConfig} {recipient token : BytesN32} :
    Tx.Safe .underflow (claim O H env config recipient token) c := by
  unfold claim
  simp [Tx.safe_bind, transferToRecipient_safe]

theorem countIn_safe {account : BytesN32} : Tx.Safe .underflow (countIn account) c := by
  unfold countIn
  simp

/-! ## The admin surface subtracts nothing but a proposal's delay -/

theorem acceptAdmin_safe {config : ContractConfig} {pending : Address} :
    Tx.Safe .underflow (acceptAdmin config pending) c := by
  unfold acceptAdmin
  simp [Timelock.bumpEpoch_safe]

theorem setRootVerifierGated_safe {admin module : Address} {chainId : U128}
    (h : Timelock.Ripe c.settings.timelock.proposals) :
    Tx.Safe .underflow (setRootVerifierGated H env admin chainId module) c := by
  unfold setRootVerifierGated setRootVerifier
  rw [Tx.safe_bind_zoom]
  refine ⟨Timelock.gateKeyed_safe h, fun _ _ _ => ?_⟩
  simp

theorem unsetRootVerifier_safe {admin : Address} {chainId : U128}
    (h : Timelock.Ripe c.settings.timelock.proposals) :
    Tx.Safe .underflow (unsetRootVerifier H env admin chainId) c := by
  unfold unsetRootVerifier
  rw [Tx.safe_bind_zoom]
  refine ⟨Timelock.gateUnless_safe h, fun _ _ _ => ?_⟩
  simp

theorem setRouteTiming_safe {chainId : U128} {timing : RouteTiming} :
    Tx.Safe .underflow (setRouteTiming chainId timing) c := by
  unfold setRouteTiming
  simp

end Escrow
end ProofBridge
