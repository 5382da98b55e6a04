import ProofBridge.Core.Bank
import ProofBridge.DisputeManager.Step

/-!
# Every bond is in the pot, and leaves it once

A bond is pulled when a dispute is filed, held while its record is open, and paid or credited when
the record is closed. So what the module holds of a token is the open records' bonds in it and the
credits in it; and for one order, filings outnumber closings by one exactly while a record is open.
-/

namespace ProofBridge
namespace DisputeManager

open ContractLib

variable {Y : Type} {T : Tokens Y} {H : Host} {env : Env} {c c' : Chain Y}

/-! ## What the books say -/

/-- What an open record is worth in `token`. -/
def bondWorth (token : Address) (_ : BytesN32) (d : DisputeRecord) : ℕ :=
  if d.bondToken = token then d.bond else 0

/-- The bonds of the open records in `token`. -/
def bondsIn (token : Address) (s : State) : ℕ := Map.total (bondWorth token) s.disputes

/-- All the credits of the wrapped native token's ledger. -/
def nativeCredits (m : Map Address ℕ) : ℕ := Map.total (fun (_ : Address) n => n) m

def creditWorth (token : Address) (key : Address × Address) (n : ℕ) : ℕ :=
  if key.2 = token then n else 0

/-- The credits of the other ledger in `token`. -/
def tokenCredits (token : Address) (m : Map (Address × Address) ℕ) : ℕ :=
  Map.total (creditWorth token) m

/-- The credits in `token`. -/
def creditsIn (token : Address) (s : State) : ℕ :=
  (if s.wNative = some token then nativeCredits s.claimable else 0) +
    tokenCredits token s.tokenClaimable

/-- Every bond and every credit fits the width it is stored in. -/
structure Fits (s : State) : Prop where
  bonds : ∀ orderHash d, s.getDispute orderHash = some d → d.bond < 2 ^ 127
  native : ∀ who, s.getClaimable who < 2 ^ 128
  token : ∀ who token, s.getTokenClaimable who token < 2 ^ 128

/-- What every reachable module satisfies. -/
structure Solvent (P : ExactTokens T H.address) (c : Chain Y) : Prop where
  balanced : ∀ token, P.net c.outside token = bondsIn token c.state + creditsIn token c.state
  fits : Fits c.state
  sound : c.state.Sound
  /-- Nothing is credited in a token that is not wired yet. -/
  unwired : c.state.wNative = none → nativeCredits c.state.claimable = 0

theorem bondsIn_open {s s' : State} {orderHash : BytesN32} {d : DisputeRecord} (token : Address)
    (hnew : s.getDispute orderHash = none) (h : s'.disputes = s.disputes.set orderHash d) :
    bondsIn token s' = bondsIn token s + bondWorth token orderHash d := by
  unfold bondsIn
  rw [h, Map.total_set_of_none hnew]

/-- Rewriting a record without touching its bond moves nothing. -/
theorem bondsIn_rewrite {s s' : State} {orderHash : BytesN32} {d d' : DisputeRecord}
    (token : Address) (hopen : s.getDispute orderHash = some d) (hbond : d'.bond = d.bond)
    (htoken : d'.bondToken = d.bondToken) (h : s'.disputes = s.disputes.set orderHash d') :
    bondsIn token s' = bondsIn token s := by
  have hset := Map.total_set (bondWorth token) s.disputes orderHash d'
  rw [Map.weightAt_of_get? hopen] at hset
  have hsame : bondWorth token orderHash d' = bondWorth token orderHash d := by
    unfold bondWorth
    rw [hbond, htoken]
  unfold bondsIn
  rw [h]
  omega

theorem bondsIn_close {s s' : State} {orderHash : BytesN32} {d : DisputeRecord} (token : Address)
    (hopen : s.getDispute orderHash = some d) (h : s'.disputes = s.disputes.remove orderHash) :
    bondsIn token s' + bondWorth token orderHash d = bondsIn token s := by
  unfold bondsIn
  rw [h, Map.total_remove (bondWorth token) s.disputes orderHash, Map.weightAt_of_get? hopen,
    Nat.add_comm]

theorem nativeCredits_set (s : State) (who : Address) (n : ℕ) :
    nativeCredits (s.claimable.set who n) + s.getClaimable who = nativeCredits s.claimable + n := by
  have hweight : Map.weightAt (fun (_ : Address) n => n) s.claimable who = s.getClaimable who := by
    unfold Map.weightAt State.getClaimable
    cases s.claimable.get? who <;> rfl
  rw [← hweight]
  exact Map.total_set _ _ _ _

theorem tokenCredits_set (asset : Address) (s : State) (who token : Address) (n : ℕ) :
    tokenCredits asset (s.tokenClaimable.set (who, token) n)
        + (if token = asset then s.getTokenClaimable who token else 0)
      = tokenCredits asset s.tokenClaimable + (if token = asset then n else 0) := by
  have hweight : Map.weightAt (creditWorth asset) s.tokenClaimable (who, token)
      = if token = asset then s.getTokenClaimable who token else 0 := by
    unfold Map.weightAt State.getTokenClaimable
    cases s.tokenClaimable.get? (who, token) <;> simp [creditWorth]
  rw [← hweight]
  exact Map.total_set _ _ _ _

/-! ## One payout -/

/-- What a payout takes out of the pot or adds to the credits; the sum loses exactly its amount. -/
theorem Paid.balance {P : ExactTokens T H.address} {payee token : Address} {amount : ℕ}
    (hw : amount < 2 ^ 127) (h : Paid T H env payee token amount c c') (asset : Address) :
    P.net c'.outside asset - creditsIn asset c'.state
      = P.net c.outside asset - creditsIn asset c.state - (if token = asset then amount else 0 : ℕ) := by
  have hamount : asI128 amount = amount := by
    unfold asI128
    rw [if_pos hw]
  cases h with
  | pushed y hpush =>
    have hnet := P.net_push hpush asset
    rw [hamount] at hnet
    rw [hnet]
    simp only [eq_comm (a := asset)]
    split <;> push_cast <;> omega
  | creditedNative hnative hfit =>
    have hset := nativeCredits_set c.state payee (c.state.getClaimable payee + amount)
    simp only [creditsIn, hnative, Option.some.injEq]
    by_cases heq : token = asset
    · simp only [heq, if_true]
      omega
    · simp only [heq, if_false]
      omega
  | creditedToken hnative hne hfit =>
    have hset := tokenCredits_set asset c.state payee token
      (c.state.getTokenClaimable payee token + amount)
    simp only [creditsIn]
    by_cases heq : token = asset
    · simp only [heq, if_true] at hset ⊢
      omega
    · simp only [heq, if_false] at hset ⊢
      omega

theorem Paid.sound {payee token : Address} {amount : ℕ}
    (h : Paid T H env payee token amount c c') (hs : c.state.Sound) : c'.state.Sound := by
  cases h with
  | pushed => exact hs
  | creditedNative => exact ⟨hs.floors, hs.minimums, hs.wired⟩
  | creditedToken => exact ⟨hs.floors, hs.minimums, hs.wired⟩

theorem getClaimable_set {s s' : State} {who : Address} {n : ℕ}
    (h : s'.claimable = s.claimable.set who n) (w : Address) :
    s'.getClaimable w = if w = who then n else s.getClaimable w := by
  unfold State.getClaimable
  rw [h, Map.get?_set]
  split <;> rfl

theorem getTokenClaimable_set {s s' : State} {who token : Address} {n : ℕ}
    (h : s'.tokenClaimable = s.tokenClaimable.set (who, token) n) (w t : Address) :
    s'.getTokenClaimable w t
      = if (w, t) = (who, token) then n else s.getTokenClaimable w t := by
  unfold State.getTokenClaimable
  rw [h, Map.get?_set]
  split <;> rfl

/-- A payout credits within the width, and only in a wired token. -/
theorem Paid.fits {payee token : Address} {amount : ℕ} (hfits : Fits c.state)
    (h : Paid T H env payee token amount c c') : Fits c'.state := by
  cases h with
  | pushed y hpush => exact hfits
  | creditedNative hnative hfit =>
    refine ⟨hfits.bonds, fun who => ?_, hfits.token⟩
    rw [getClaimable_set (s := c.state) rfl]
    split
    · exact hfit
    · exact hfits.native who
  | creditedToken hnative hne hfit =>
    refine ⟨hfits.bonds, hfits.native, fun who asset => ?_⟩
    rw [getTokenClaimable_set (s := c.state) rfl]
    split
    · exact hfit
    · exact hfits.token who asset

theorem Paid.unwired {payee token : Address} {amount : ℕ}
    (h : Paid T H env payee token amount c c')
    (hnone : c.state.wNative = none → nativeCredits c.state.claimable = 0) :
    c'.state.wNative = none → nativeCredits c'.state.claimable = 0 := by
  intro hwired
  cases h with
  | pushed y hpush => exact hnone hwired
  | creditedNative hnative =>
    have hsome : c.state.wNative = none := hwired
    rw [hnative] at hsome
    cases hsome
  | creditedToken hnative hne hfit => exact hnone hwired

/-! ## One call -/

theorem bondOf_lt {s : State} {p : DisputeParams} {chainId : U128} {asset token : Address}
    {amount bond : ℕ} (hs : s.Sound) (hp : s.params.get? chainId = some p)
    (h : bondOf p asset chainId amount s = .ok (token, bond)) : bond < 2 ^ 128 := by
  unfold bondOf at h
  split at h
  · next config hconfig =>
    simp only [routeBond, Check.bind_ok, Check.pure_ok, Prod.mk.injEq] at h
    obtain ⟨_, ⟨scaled, hscaled, rfl⟩, -, rfl⟩ := h
    have hminimum := hs.minimums _ _ hconfig
    have hfit := bpsOf_lt hscaled
    omega
  · simp only [Check.bind_ok, Check.pure_ok, Prod.mk.injEq] at h
    obtain ⟨_, -, -, rfl⟩ := h
    have hfloor := hs.floors _ _ hp
    unfold bondFor
    omega

theorem asI128_lt {amount : ℕ} (hw : amount < 2 ^ 128) (h : 0 ≤ asI128 amount) :
    amount < 2 ^ 127 := by
  unfold asI128 at h
  split at h
  · assumption
  · omega

namespace Solvent

variable {P : ExactTokens T H.address}

/-- What the books read, and nothing else, decides solvency. -/
theorem of_held (h : Solvent P c) (hheld : held c' = held c) (hsound : c'.state.Sound) :
    Solvent P c' := by
  simp only [held, Prod.mk.injEq] at hheld
  obtain ⟨hout, hdisputes, hclaimable, htoken, hnative⟩ := hheld
  refine ⟨fun token => ?_, ⟨?_, ?_, ?_⟩, hsound, ?_⟩
  · have hbalanced := h.balanced token
    unfold bondsIn creditsIn at hbalanced ⊢
    rw [hout, hdisputes, hclaimable, htoken, hnative]
    exact hbalanced
  · unfold State.getDispute
    rw [hdisputes]
    exact h.fits.bonds
  · unfold State.getClaimable
    rw [hclaimable]
    exact h.fits.native
  · unfold State.getTokenClaimable
    rw [htoken]
    exact h.fits.token
  · rw [hclaimable, hnative]
    exact h.unwired

/-- A world that moved none of the module's own holdings. -/
theorem of_net (h : Solvent P c) {y : Y} (hnet : ∀ t, P.net y t = P.net c.outside t) :
    Solvent P { c with outside := y } where
  balanced token := (hnet token).trans (h.balanced token)
  fits := h.fits
  sound := h.sound
  unwired := h.unwired

theorem initialized (h : Solvent P c) {admin wNative : Address} (hnew : c.state.admin = none) :
    Solvent P { c with
      state := { c.state with admin := some admin, wNative := some wNative } } := by
  have hnone := h.sound.wired hnew
  refine ⟨fun token => ?_, ⟨h.fits.bonds, h.fits.native, h.fits.token⟩,
    ⟨h.sound.floors, h.sound.minimums, fun hadmin => by cases hadmin⟩,
    fun hwired => by cases hwired⟩
  have hbalanced := h.balanced token
  have hzero := h.unwired hnone
  simp only [creditsIn, bondsIn, hnone, hzero, ite_self] at hbalanced ⊢
  exact hbalanced

/-- A filing's bond enters the pot with its record. -/
theorem filed (h : Solvent P c) {d : DisputeRecord} {orderHash : BytesN32} {e : DisputeEvent}
    {y : Y} (hnew : c.state.getDispute orderHash = none) (hfiler : d.initiator ≠ H.address)
    (hbond : d.bond < 2 ^ 128)
    (hpull : T.transfer c.outside (env.inside H.address) d.bondToken d.initiator H.address
      (asI128 d.bond) = some y) :
    Solvent P { outside := y, state := c.state.withDispute orderHash d e } := by
  have hnonneg := P.nonneg hpull
  have hamount := asI128_of_nonneg hbond hnonneg
  refine ⟨fun token => ?_, ⟨fun o r hr => ?_, h.fits.native, h.fits.token⟩,
    ⟨h.sound.floors, h.sound.minimums, h.sound.wired⟩, h.unwired⟩
  · have hbalanced := h.balanced token
    have hnet := P.net_pull hfiler hpull token
    have hopened : bondsIn token (c.state.withDispute orderHash d e)
        = bondsIn token c.state + bondWorth token orderHash d := bondsIn_open token hnew rfl
    have hcredits : creditsIn token (c.state.withDispute orderHash d e) = creditsIn token c.state :=
      rfl
    simp only [hnet, hopened, hcredits, hamount, bondWorth, eq_comm (a := token)]
    split <;> push_cast <;> omega
  · rw [getDispute_withDispute] at hr
    split at hr
    · rw [← Option.some.inj hr]
      exact asI128_lt hbond hnonneg
    · exact h.fits.bonds o r hr

/-- A response or a ruling rewrites its record and moves no bond. -/
theorem rewritten (h : Solvent P c) {d d' : DisputeRecord} {orderHash : BytesN32}
    {e : DisputeEvent} (hopen : c.state.getDispute orderHash = some d) (hbond : d'.bond = d.bond)
    (htoken : d'.bondToken = d.bondToken) :
    Solvent P { c with state := c.state.withDispute orderHash d' e } := by
  refine ⟨fun token => ?_, ⟨fun o r hr => ?_, h.fits.native, h.fits.token⟩,
    ⟨h.sound.floors, h.sound.minimums, h.sound.wired⟩, h.unwired⟩
  · have hsame : bondsIn token (c.state.withDispute orderHash d' e) = bondsIn token c.state :=
      bondsIn_rewrite token hopen hbond htoken rfl
    have hbalanced := h.balanced token
    rw [← hsame] at hbalanced
    exact hbalanced
  · rw [getDispute_withDispute] at hr
    split at hr
    · rw [← Option.some.inj hr, hbond]
      exact h.fits.bonds _ _ hopen
    · exact h.fits.bonds o r hr

/-- Closing a record takes its bond out of the pot, or leaves it there as a credit. -/
theorem closed (h : Solvent P c) {d : DisputeRecord} {orderHash : BytesN32} {payee : Address}
    {toFiler : Bool} (hopen : c.state.getDispute orderHash = some d)
    (hrouted : Routed T H env orderHash d payee toFiler
      { c with state := c.state.closed orderHash } c') : Solvent P c' := by
  have hclosed : ∀ token, bondsIn token (c.state.closed orderHash) + bondWorth token orderHash d
      = bondsIn token c.state := fun token => bondsIn_close token hopen rfl
  have hfits : Fits (c.state.closed orderHash) := by
    refine ⟨fun o r hr => ?_, h.fits.native, h.fits.token⟩
    rw [getDispute_closed] at hr
    split at hr
    · cases hr
    · exact h.fits.bonds o r hr
  have hsound : (c.state.closed orderHash).Sound :=
    ⟨h.sound.floors, h.sound.minimums, h.sound.wired⟩
  cases hrouted with
  | nothing hzero =>
    refine ⟨fun token => ?_, hfits, hsound, h.unwired⟩
    have hbalanced := h.balanced token
    have hworth : bondWorth token orderHash d = 0 := by
      unfold bondWorth
      rw [hzero, ite_self]
    have hrest := hclosed token
    rw [hworth, Nat.add_zero] at hrest
    rw [← hrest] at hbalanced
    exact hbalanced
  | @paid c₁ hbond hpaid =>
    have hfits₁ := hpaid.fits hfits
    refine ⟨fun token => ?_, ⟨hfits₁.bonds, hfits₁.native, hfits₁.token⟩, ?_,
      hpaid.unwired h.unwired⟩
    · have hbalance := hpaid.balance (P := P) (h.fits.bonds _ _ hopen) token
      have hbalanced := h.balanced token
      have hrest := hclosed token
      have hbonds : bondsIn token c₁.state = bondsIn token (c.state.closed orderHash) := by
        unfold bondsIn
        rw [hpaid.disputes]
      have hcredits : creditsIn token (c.state.closed orderHash) = creditsIn token c.state := rfl
      show P.net c₁.outside token
        = ((bondsIn token c₁.state : ℕ) : ℤ) + (creditsIn token c₁.state : ℕ)
      simp only [bondWorth] at hrest
      simp only [hcredits] at hbalance
      rw [hbonds]
      omega
    · have hs := hpaid.sound hsound
      exact ⟨hs.floors, hs.minimums, hs.wired⟩

/-- A claim takes a credit out of its ledger and out of the pot. -/
theorem claimedNative (h : Solvent P c) {recipient wNative : Address} {e : DisputeEvent} {y : Y}
    (hnative : c.state.wNative = some wNative)
    (hpush : T.transfer c.outside (env.inside H.address) wNative H.address recipient
      (asI128 (c.state.getClaimable recipient)) = some y) :
    Solvent P { outside := y
                state := { c.state with
                  claimable := c.state.claimable.set recipient 0
                  published := e :: c.state.published } } := by
  have hamount := asI128_of_nonneg (h.fits.native recipient) (P.nonneg hpush)
  have hset := nativeCredits_set c.state recipient 0
  refine ⟨fun token => ?_, ⟨h.fits.bonds, fun who => ?_, h.fits.token⟩,
    ⟨h.sound.floors, h.sound.minimums, h.sound.wired⟩, fun hwired => ?_⟩
  · have hbalanced := h.balanced token
    have hnet := P.net_push hpush token
    simp only [creditsIn, bondsIn, hnative, Option.some.injEq, hamount] at hnet hbalanced ⊢
    by_cases heq : wNative = token
    · simp only [heq, if_true] at hnet hbalanced ⊢
      omega
    · simp only [heq, Ne.symm heq, if_false] at hnet hbalanced ⊢
      omega
  · rw [getClaimable_set (s := c.state) rfl]
    split
    · exact Nat.two_pow_pos _
    · exact h.fits.native who
  · have hnone : c.state.wNative = none := hwired
    rw [hnative] at hnone
    cases hnone

theorem claimedToken (h : Solvent P c) {recipient token : Address} {e : DisputeEvent} {y : Y}
    (hpush : T.transfer c.outside (env.inside H.address) token H.address recipient
      (asI128 (c.state.getTokenClaimable recipient token)) = some y) :
    Solvent P { outside := y
                state := { c.state with
                  tokenClaimable := c.state.tokenClaimable.set (recipient, token) 0
                  published := e :: c.state.published } } := by
  have hamount := asI128_of_nonneg (h.fits.token recipient token) (P.nonneg hpush)
  refine ⟨fun asset => ?_, ⟨h.fits.bonds, h.fits.native, fun who asset => ?_⟩,
    ⟨h.sound.floors, h.sound.minimums, h.sound.wired⟩, h.unwired⟩
  · have hbalanced := h.balanced asset
    have hset := tokenCredits_set asset c.state recipient token 0
    have hnet := P.net_push hpush asset
    simp only [creditsIn, bondsIn, hamount] at hnet hbalanced ⊢
    by_cases heq : token = asset
    · simp only [heq, if_true] at hnet hset ⊢
      omega
    · simp only [heq, Ne.symm heq, if_false] at hnet hset ⊢
      omega
  · rw [getTokenClaimable_set (s := c.state) rfl]
    split
    · exact Nat.two_pow_pos _
    · exact h.fits.token who asset

/-- Every accepted call keeps the books balanced. -/
theorem step {call : Call} {ret : Ret} (h : Solvent P c)
    (hself : env.authorized H.address = false) (hstep : Step T H env c call ret c') :
    Solvent P c' := by
  cases hstep with
  | admin hcall hwired hheld hsound => exact h.of_held hheld (hsound h.sound)
  | initializeContract hnew => exact h.initialized hnew
  | @openDispute filing p token bond deadline y hcaller hescrow hnew hparams hbond hauth hpull
      hdeadline =>
    have hfiler : filing.filer ≠ H.address := by
      intro heq
      rw [heq, hself] at hauth
      cases hauth
    exact h.filed hnew hfiler (bondOf_lt h.sound hparams hbond) hpull
  | settleBond hauth hopen hescrow hrouted => exact h.closed hopen hrouted
  | recordResponse hauth hresponder hopen => exact h.rewritten hopen rfl rfl
  | resolveDispute harbiter hauth houtcome hopen => exact h.rewritten hopen rfl rfl
  | claimNative hcall hnative howed hpush => exact h.claimedNative hnative hpush
  | claimToken hother howed hpush => exact h.claimedToken hpush

end Solvent

/-! ## Whole runs -/

/-- The accepted calls, each with its environment and its answer, the newest first. -/
abbrev History := List ((Env × Call) × Ret)

/-- The bonds posted over `orderHash`. -/
def filings (orderHash : BytesN32) (history : History) : ℕ :=
  history.countP fun e => e.1.2.files orderHash

/-- The bonds that left the pot over `orderHash`. -/
def closings (orderHash : BytesN32) (history : History) : ℕ :=
  history.countP fun e => e.1.2.closes orderHash

/-- A module just deployed into the world `y`. -/
def Chain.fresh (y : Y) : Chain Y where
  state := .fresh
  outside := y

/-- Every bond that was posted has left, except the open record's. -/
def Tally (history : History) (s : State) : Prop :=
  ∀ orderHash, filings orderHash history
    = closings orderHash history + if (s.getDispute orderHash).isSome then 1 else 0

theorem not_closes_of_files {orderHash : BytesN32} {call : Call}
    (h : call.files orderHash = true) : call.closes orderHash = false := by
  cases call <;> first
    | rfl
    | cases h

theorem not_files_of_closes {orderHash : BytesN32} {call : Call}
    (h : call.closes orderHash = true) : call.files orderHash = false := by
  cases call <;> first
    | rfl
    | cases h

theorem Tally.step {history : History} {call : Call} {ret : Ret} (h : Tally history c.state)
    (hstep : Step T H env c call ret c') : Tally (((env, call), ret) :: history) c'.state := by
  intro orderHash
  have hbefore := h orderHash
  simp only [filings, closings, List.countP_cons] at hbefore ⊢
  cases recordStep_of_step hstep orderHash with
  | filed hcall hnew hopen =>
    simp only [hnew, Option.isSome_none, Bool.false_eq_true, if_false] at hbefore
    simp only [hcall, not_closes_of_files hcall, hopen, Option.isSome_some, Bool.false_eq_true,
      if_true, if_false]
    omega
  | closed hcall hopen hgone =>
    simp only [hopen, Option.isSome_some, if_true] at hbefore
    simp only [hcall, not_files_of_closes hcall, hgone, Option.isSome_none, Bool.false_eq_true,
      if_true, if_false]
    omega
  | kept hfiles hcloses hstake =>
    have hsome := congrArg Option.isSome hstake
    rw [Option.isSome_map, Option.isSome_map] at hsome
    simp only [hfiles, hcloses, hsome, Bool.false_eq_true, if_false]
    omega

theorem tally_of_run {outside : Y → Y → Prop} {y : Y} {history : History}
    (run : Run (system T H outside) (Chain.fresh y) history c) : Tally history c.state := by
  refine run.invariant (I := fun history c => Tally history c.state) ?_ ?_ ?_
  · intro orderHash
    rfl
  · intro history s t ret s' _ htally _ ok
    exact htally.step (step_of_exec ok)
  · intro history s s' _ htally hmoved
    obtain ⟨y', -, rfl⟩ := hmoved
    exact htally

theorem solvent_of_run {P : ExactTokens T H.address} {outside : Y → Y → Prop}
    (houtside : ∀ {y y'}, outside y y' → ∀ t, P.net y' t = P.net y t) {y : Y}
    (hstart : ∀ t, P.net y t = 0) {history : History}
    (run : Run (system T H outside) (Chain.fresh y) history c) : Solvent P c := by
  refine run.invariant (I := fun _ c => Solvent P c) ?_ ?_ ?_
  · exact ⟨hstart, ⟨fun _ _ h => (by cases h), fun _ => Nat.two_pow_pos _,
      fun _ _ => Nat.two_pow_pos _⟩, State.sound_fresh, fun _ => rfl⟩
  · intro history s t ret s' _ hsolvent hself ok
    exact hsolvent.step hself (step_of_exec ok)
  · intro history s s' _ hsolvent hmoved
    obtain ⟨y', hmoved, rfl⟩ := hmoved
    exact hsolvent.of_net (houtside hmoved)

/-- A closing took its record out of the book and routed that record's bond to `payee`: the filer
where the filing was vindicated or no pool is set, else the pool. -/
structure BondLeft (T : Tokens Y) (H : Host) (env : Env) (settlement : Settlement)
    (d : DisputeRecord) (payee : Address) (c c' : Chain Y) : Prop where
  opened : c.state.getDispute settlement.orderHash = some d
  gone : c'.state.getDispute settlement.orderHash = none
  routed : Routed T H env settlement.orderHash d payee
    (bondReturnsToFiler settlement.outcome settlement.filerIsBridger settlement.returnToFiler)
    { c with state := c.state.closed settlement.orderHash } c'
  vindicated : bondReturnsToFiler settlement.outcome settlement.filerIsBridger
    settlement.returnToFiler = true → payee = d.initiator
  forfeited : bondReturnsToFiler settlement.outcome settlement.filerIsBridger
    settlement.returnToFiler = false → ∀ pool, c.state.feePool = some pool → payee = pool
  unset : c.state.feePool = none → payee = d.initiator

theorem bondLeft_of_step {settlement : Settlement} {ret : Ret}
    (h : Step T H env c (.settleBond settlement) ret c') :
    ∃ d payee, BondLeft T H env settlement d payee c c' := by
  cases h with
  | admin hcall => cases hcall
  | claimNative hcall => rcases hcall with hcall | hcall <;> cases hcall
  | @settleBond _ d _ hauth hopen hescrow hrouted =>
    refine ⟨d, _, hopen, ?_, hrouted, fun hto => ?_, fun hto pool hpool => ?_, fun hpool => ?_⟩
    · rw [getDispute_of_disputes hrouted.disputes, getDispute_closed, if_pos rfl]
    · rw [hto]
      rfl
    · rw [hto]
      simp [bondPayee, hpool]
    · unfold bondPayee
      rw [hpool]
      split <;> rfl

/-- **Solvency.** In every reachable state, and for every token, what the module holds beyond
unsolicited transfers is the bonds of its open records and what it owes in credits. Over an order
hash every posted bond but the open record's has left; it leaves through the record's closing, to
the filer or to the pool as the outcome says, and until then no call touches its stake. -/
theorem dispute_manager_solvent {P : ExactTokens T H.address} {outside : Y → Y → Prop}
    (houtside : ∀ {y y'}, outside y y' → ∀ t, P.net y' t = P.net y t) {y : Y}
    (hstart : ∀ t, P.held y t = P.unsolicited y t) {history : History}
    (run : Run (system T H outside) (Chain.fresh y) history c) :
    (∀ token, P.held c.outside token - P.unsolicited c.outside token
      = bondsIn token c.state + creditsIn token c.state) ∧
    (∀ orderHash, filings orderHash history = closings orderHash history
      + if (c.state.getDispute orderHash).isSome then 1 else 0) ∧
    ∀ env call ret c', exec T H env call c = .ok (ret, c') →
      (∀ settlement, call = .settleBond settlement →
        ∃ d payee, BondLeft T H env settlement d payee c c') ∧
      ∀ orderHash d, c.state.getDispute orderHash = some d → call.closes orderHash = false →
        ∃ d', c'.state.getDispute orderHash = some d' ∧ stake d' = stake d := by
  have hnet : ∀ t, P.net y t = 0 := by
    intro t
    unfold ExactTokens.net
    rw [hstart, sub_self]
  refine ⟨(solvent_of_run houtside hnet run).balanced, tally_of_run run,
    fun env call ret c' ok => ⟨?_, fun orderHash d hopen hcloses => ?_⟩⟩
  · rintro settlement rfl
    exact bondLeft_of_step (step_of_exec ok)
  · cases recordStep_of_step (step_of_exec ok) orderHash with
    | filed hcall hnew =>
      rw [hopen] at hnew
      cases hnew
    | closed hcall =>
      rw [hcloses] at hcall
      cases hcall
    | kept hfiles hcloses hstake =>
      rw [hopen, Option.map_some] at hstake
      obtain ⟨d', hopen', hstake'⟩ := Option.map_eq_some_iff.mp hstake
      exact ⟨d', hopen', hstake'⟩

/-! ## A run -/

def sampleFiling : Filing where
  escrow := .contract 0xAD
  orderHash := 0x0D
  peerChainId := 1
  filer := .account 0xB1
  evidence := 5
  deadline := 9000
  buffer := 600
  token := .contract 0x22
  amount := 500000

/-- A filing by the bridger, through an escrow the module serves. -/
def sampleCalls : List (Env × Call) :=
  [.initializeContract (.account 0x0A) (.contract 0x79),
    .setEscrow (.contract 0xAD) true,
    .setDisputeParams 1 { challengePeriod := 3600, bondFloor := 1000 },
    .setProtocolFeePool (.account 0x3A),
    .openDispute sampleFiling].map fun call => ((sampleEnv 1000).inside (.contract 0xAD), call)

abbrev sampleSystem : System DisputeManagerError (Chain Bank) (Env × Call) Ret :=
  system Bank.world.toTokens (sampleHost 0xD1) Bank.gift

abbrev sampleStart : Bank := Bank.endowed 1000000 (.contract 0xD1)

def sampleRun : History × Chain Bank :=
  (play sampleSystem sampleCalls [] (Chain.fresh sampleStart)).getD ([], Chain.fresh sampleStart)

theorem run_sample : Run sampleSystem (Chain.fresh sampleStart) sampleRun.1 sampleRun.2 := by
  refine Run.played (by decide +kernel) ?_
  intro t ht s
  obtain ⟨call, -, rfl⟩ := List.mem_map.mp ht
  rfl

def sampleSettlement : Settlement where
  escrow := .contract 0xAD
  orderHash := 0x0D
  outcome := .bridgerForfeit
  filerIsBridger := true
  returnToFiler := false

/-- The sample's module holds the one bond, which a ruling against its filer sends to the pool. -/
theorem dispute_manager_solvent_sample :
    sampleRun.2.outside.balance (.contract 0x79) (.contract 0xD1) = 1000 ∧
    (∀ token, sampleRun.2.outside.balance token (.contract 0xD1)
        - sampleRun.2.outside.unasked token (.contract 0xD1)
      = bondsIn token sampleRun.2.state + creditsIn token sampleRun.2.state) ∧
    ∃ c', exec Bank.world.toTokens (sampleHost 0xD1) ((sampleEnv 13000).inside (.contract 0xAD))
        (.settleBond sampleSettlement) sampleRun.2 = .ok (.unit, c') ∧
      ∃ d, BondLeft Bank.world.toTokens (sampleHost 0xD1)
        ((sampleEnv 13000).inside (.contract 0xAD)) sampleSettlement d (.account 0x3A)
        sampleRun.2 c' := by
  have hempty : ∀ t, (Bank.exact (sampleHost 0xD1).address).held sampleStart t
      = (Bank.exact (sampleHost 0xD1).address).unsolicited sampleStart t := fun _ => rfl
  have hsolvent := dispute_manager_solvent
    (fun hmoved => (Bank.handsOff (sampleHost 0xD1).address).outside hmoved) hempty run_sample
  obtain ⟨c', ok⟩ : ∃ c', exec Bank.world.toTokens (sampleHost 0xD1)
      ((sampleEnv 13000).inside (.contract 0xAD)) (.settleBond sampleSettlement) sampleRun.2
        = .ok (.unit, c') :=
    Check.accepted_of_answer (by decide +kernel)
  have hpool : sampleRun.2.state.feePool = some (.account 0x3A) := by decide +kernel
  obtain ⟨d, payee, hleft⟩ := (hsolvent.2.2 _ _ _ _ ok).1 _ rfl
  have hpayee := hleft.forfeited rfl _ hpool
  subst hpayee
  exact ⟨by decide +kernel, hsolvent.1, c', ok, d, hleft⟩

end DisputeManager
end ProofBridge
