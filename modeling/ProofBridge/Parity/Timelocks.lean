import ProofBridge.Core.Timelock
import ProofBridge.Evm.AdminTimelock
import ProofBridge.Lib.Agree

/-!
# The two timelocks

One script of admin calls, gated setters and brakes handed to the timelock of either chain. On EVM a
proposal is a word that packs its time with its epoch, zero for none, and a brake never pulled reads
as zero; on Soroban both are options. While the clock leaves room for a delay and a grace in 64 bits,
and the Soroban epoch counter is not exhausted, the two accept the same calls and tell the same.
-/

namespace ProofBridge
namespace Parity

open ContractLib

/-- One-to-one names on both chains: of callers, proposal ids, brake keys and gated calls. -/
structure Names (P : Evm.Primitives) (H : Host) (π ι κ α : Type) where
  evmParty : π → Evm.EvmAddress
  party : π → Address
  evmId : ι → BytesN32
  id : ι → BytesN32
  evmKey : κ → BytesN32
  key : κ → BytesN32
  /-- A gated call: the id of its proposal, its calldata, and its function with its arguments. -/
  action : α → ι
  data : α → Bytes
  fnName : α → Symbol
  args : α → List Val
  encoded : α → Bytes
  evmParty_inj : Function.Injective evmParty
  party_inj : Function.Injective party
  evmParty_ne_zero : ∀ p, evmParty p ≠ 0
  evmId_inj : Function.Injective evmId
  id_inj : Function.Injective id
  evmKey_inj : Function.Injective evmKey
  key_inj : Function.Injective key
  /-- On EVM a zero key stands for no key. -/
  evmKey_ne_zero : ∀ k, evmKey k ≠ 0
  keccak_data : ∀ a, P.keccak256 (data a) = evmId (action a)
  actionId : ∀ a, H.actionId (fnName a) (args a) = id (action a)
  decoded : ∀ a, H.argsFromXdr (encoded a) = some (args a)

/-- What either chain is asked. Whom a contract has nominated is its own business; the nominee's
acceptance is the handover. -/
inductive TimelockCall (π ι κ α : Type)
  | nominated (p : π)
  | acceptAdmin
  | activateTimelock
  | proposeAction (a : α)
  | cancelAction (i : ι)
  | setter (a : α) (key : Option κ)
  | setterUnless (brake : Bool) (a : α) (key : κ)

/-- A call with who makes it and when. -/
structure Asked (π ι κ α : Type) where
  caller : π
  time : U64
  call : TimelockCall π ι κ α

/-- The admin of a Soroban contract, as each of them stores it. -/
structure Keeper where
  admin : Address
  pendingAdmin : Option Address
  timelock : Timelock

namespace Keeper

def deployed (admin : Address) : Keeper where
  admin := admin
  pendingAdmin := none
  timelock := .fresh

abbrev onTimelock {α : Type} (x : Tx Fault Timelock α) : Tx Fault Keeper α :=
  Tx.zoom Keeper.timelock (fun s t => { s with timelock := t }) id x

variable (H : Host) (env : Env)

def requireAdmin : Tx Fault Keeper Unit := do
  let s ← Tx.read
  requireAuth env s.admin

def acceptAdmin : Tx Fault Keeper Unit := do
  let s ← Tx.read
  let pending ← Tx.expect s.pendingAdmin .notPendingAdmin
  requireAuth env pending
  Tx.modify fun s => { s with admin := pending, pendingAdmin := none }
  onTimelock Timelock.bumpEpoch

def activateTimelock : Tx Fault Keeper Unit := do
  requireAdmin env
  onTimelock (Timelock.activate env)

def proposeAction (fnName : Symbol) (args : Bytes) : Tx Fault Keeper BytesN32 := do
  requireAdmin env
  onTimelock (Timelock.propose H env fnName args)

def cancelAction (id : BytesN32) : Tx Fault Keeper Unit := do
  requireAdmin env
  onTimelock (Timelock.cancel env id)

def gateKeyed (fnName : Symbol) (args : List Val) (key : Option BytesN32) :
    Tx Fault Keeper Unit := do
  let s ← Tx.read
  onTimelock (Timelock.gateKeyed H env s.admin fnName args key)

def gateUnless (brake : Bool) (fnName : Symbol) (args : List Val) (key : BytesN32) :
    Tx Fault Keeper Unit := do
  let s ← Tx.read
  onTimelock (Timelock.gateUnless H env s.admin brake fnName args key)

theorem requireAdmin_ok {env : Env} {s : Keeper} {r : Unit × Keeper} :
    requireAdmin env s = .ok r ↔ env.authorized s.admin = true ∧ r = ((), s) := by
  rw [requireAdmin, Tx.bind_read_ok, requireAuth, Tx.demand_ok]

end Keeper

section Scripts

variable {P : Evm.Primitives} {H : Host} {π ι κ α : Type} (N : Names P H π ι κ α)

/-- A call as it reaches the EVM contract, with the calldata it carries. -/
def evmMessage (caller : π) (time : U64) (data : Bytes) : Evm.Message where
  timestamp := time.setWidth 256
  sender := N.evmParty caller
  data := data

/-- The same call as it reaches the Soroban contract. -/
def sorobanEnv (caller : π) (time : U64) : Env where
  timestamp := time
  authorized who := who = N.party caller
  authorizedInside _ := false

/-- The brake key of a setter; zero is none. -/
def evmKeyOf : Option κ → BytesN32
  | none => 0
  | some k => N.evmKey k

def onEvm (c : Asked π ι κ α) : Tx Evm.AdminError Evm.AdminTimelock Unit :=
  match c.call with
  | .nominated p => Tx.modify fun s => { s with pendingAdmin := N.evmParty p }
  | .acceptAdmin => Evm.AdminTimelock.acceptAdmin (evmMessage N c.caller c.time [])
  | .activateTimelock => Evm.AdminTimelock.activateTimelock (evmMessage N c.caller c.time [])
  | .proposeAction a =>
    Evm.AdminTimelock.proposeAction P (evmMessage N c.caller c.time []) (N.data a)
  | .cancelAction i => Evm.AdminTimelock.cancelAction (evmMessage N c.caller c.time []) (N.evmId i)
  | .setter a key =>
    Evm.AdminTimelock.timelocked P (evmMessage N c.caller c.time (N.data a)) (evmKeyOf N key)
  | .setterUnless brake a key =>
    Evm.AdminTimelock.timelockedUnless P (evmMessage N c.caller c.time (N.data a)) brake
      (N.evmKey key)

def onSoroban (c : Asked π ι κ α) : Tx Fault Keeper Unit :=
  match c.call with
  | .nominated p => Tx.modify fun s => { s with pendingAdmin := some (N.party p) }
  | .acceptAdmin => Keeper.acceptAdmin (sorobanEnv N c.caller c.time)
  | .activateTimelock => Keeper.activateTimelock (sorobanEnv N c.caller c.time)
  | .proposeAction a =>
    Tx.answer (fun _ => ())
      (Keeper.proposeAction H (sorobanEnv N c.caller c.time) (N.fnName a) (N.encoded a))
  | .cancelAction i => Keeper.cancelAction (sorobanEnv N c.caller c.time) (N.id i)
  | .setter a key =>
    Keeper.gateKeyed H (sorobanEnv N c.caller c.time) (N.fnName a) (N.args a) (key.map N.key)
  | .setterUnless brake a key =>
    Keeper.gateUnless H (sorobanEnv N c.caller c.time) brake (N.fnName a) (N.args a) (N.key key)

/-- The clock is running; it leaves room for a proposal's delay and grace, and the Soroban counter
for another handover. -/
def InRange (_ : Evm.AdminTimelock) (t : Keeper) (c : Asked π ι κ α) : Prop :=
  0 < c.time.toNat ∧
    match c.call with
    | .proposeAction _ => c.time.toNat + DELAY + GRACE < 2 ^ 64
    | .acceptAdmin => t.timelock.epoch + 1 < 2 ^ 32
    | _ => True

/-! ## What the two storages share -/

/-- One proposal's slot on both chains. -/
def SlotAlike (word : Evm.Uint256) : Option (ℕ × ℕ) → Prop
  | none => word = 0
  | some (ripe, epoch) =>
    DELAY < ripe ∧ ripe + GRACE < 2 ^ 64 ∧ epoch < 2 ^ 64 ∧
      word = Evm.Timelock.pack ripe (BitVec.ofNat 64 epoch)

/-- The two timelocks hold the same. -/
structure Alike (s : Evm.Timelock.State) (t : Timelock) : Prop where
  active : s.active = t.active
  epoch : s.epoch.toNat = t.epoch
  slots : ∀ i, SlotAlike (s.proposal (N.evmId i)) (t.proposals.get? (N.id i))
  brakes : ∀ k, (s.braked (N.evmKey k)).toNat = (t.brakes.get? (N.key k)).getD 0

/-- The same admin, the same nominee and the same timelock. -/
structure SameAdmin (s : Evm.AdminTimelock) (t : Keeper) : Prop where
  admin : ∃ p, s.admin = N.evmParty p ∧ t.admin = N.party p
  pending : (s.pendingAdmin = 0 ∧ t.pendingAdmin = none) ∨
    ∃ p, s.pendingAdmin = N.evmParty p ∧ t.pendingAdmin = some (N.party p)
  timelock : Alike N s.timelock t.timelock

end Scripts

/-! ## One slot -/

section Slot

variable {word : Evm.Uint256} {o : Option (ℕ × ℕ)}

theorem epochOf_pack {eta : ℕ} {epoch : BitVec 64} (h : eta < 2 ^ 64) :
    Evm.Timelock.epochOf (Evm.Timelock.pack eta epoch) = epoch.setWidth 256 := by
  apply BitVec.eq_of_getLsbD_eq
  intro i hi
  have hlow : eta.testBit (64 + i) = false :=
    Nat.testBit_lt_two_pow (lt_of_lt_of_le h (Nat.pow_le_pow_right (by norm_num) (by omega)))
  simp only [Evm.Timelock.epochOf, Evm.Timelock.pack, BitVec.getLsbD_ushiftRight,
    BitVec.getLsbD_or, BitVec.getLsbD_shiftLeft, BitVec.getLsbD_setWidth, BitVec.getLsbD_ofNat,
    hlow, hi, decide_true, Bool.and_false, Bool.false_or, Bool.true_and]
  rw [Bool.eq_iff_iff]
  simp only [Bool.and_eq_true, Bool.not_eq_true', decide_eq_true_eq, decide_eq_false_iff_not,
    Nat.add_sub_cancel_left, hi, true_and]
  constructor
  · rintro ⟨-, hbit⟩
    exact hbit
  · intro hbit
    have hwidth := BitVec.lt_of_getLsbD hbit
    exact ⟨⟨by omega, by omega⟩, hbit⟩

theorem SlotAlike.etaOf {ripe epoch : ℕ} (h : SlotAlike word (some (ripe, epoch))) :
    Evm.Timelock.etaOf word = ripe := by
  obtain ⟨-, hroom, -, rfl⟩ := h
  rw [Evm.Timelock.etaOf_pack]
  exact Nat.mod_eq_of_lt (by omega)

theorem SlotAlike.epochOf {ripe epoch : ℕ} (h : SlotAlike word (some (ripe, epoch))) :
    Evm.Timelock.epochOf word = (BitVec.ofNat 64 epoch).setWidth 256 := by
  obtain ⟨-, hroom, -, rfl⟩ := h
  exact epochOf_pack (by omega)

/-- An empty slot is a zero word: a ripe time is never zero. -/
theorem SlotAlike.zero_iff (h : SlotAlike word o) : word = 0 ↔ o = none := by
  rcases o with _ | ⟨ripe, epoch⟩
  · exact ⟨fun _ => rfl, fun _ => h⟩
  · constructor
    · intro hzero
      have hripe := h.etaOf
      rw [hzero, Evm.Timelock.etaOf_zero] at hripe
      obtain ⟨hdelay, -⟩ := h
      omega
    · intro hnone
      cases hnone

end Slot

section Agreement

variable {P : Evm.Primitives} {H : Host} {π ι κ α : Type} {N : Names P H π ι κ α}
  {s : Evm.Timelock.State} {t : Timelock} {msg : Evm.Message} {env : Env}

theorem Alike.epoch_iff (h : Alike N s t) {epoch : ℕ} (hepoch : epoch < 2 ^ 64) :
    (BitVec.ofNat 64 epoch).setWidth 256 = s.epoch.setWidth 256 ↔ epoch = t.epoch := by
  rw [← h.epoch]
  constructor
  · intro heq
    have hnat := congrArg BitVec.toNat heq
    simp only [BitVec.toNat_setWidth, BitVec.toNat_ofNat] at hnat
    have hsmall := s.epoch.isLt
    omega
  · rintro rfl
    rw [BitVec.ofNat_toNat, BitVec.setWidth_eq]

/-- Both report the same eta for every proposal. -/
theorem Alike.eta (h : Alike N s t) (hnow : msg.timestamp.toNat = env.now) (i : ι) :
    ∃ eta, Evm.Timelock.liveEta msg (N.evmId i) s = .ok eta ∧
      Timelock.eta env (N.id i) t = .ok eta := by
  have hslot := h.slots i
  cases hpending : t.proposals.get? (N.id i) with
  | none =>
    rw [hpending] at hslot
    refine ⟨0, Evm.Timelock.liveEta_of_zero hslot, ?_⟩
    rw [Timelock.eta, hpending]
  | some proposal =>
    obtain ⟨ripe, epoch⟩ := proposal
    rw [hpending] at hslot
    obtain ⟨hdelay, hroom, hepoch, -⟩ := id hslot
    have hevm : (Check.add 256 ripe Evm.Timelock.GRACE : Check Evm.AdminError ℕ)
        = .ok (ripe + GRACE) :=
      Check.add_ok.mpr ⟨lt_trans hroom (by norm_num), rfl⟩
    have hsoroban : (Check.add 64 ripe GRACE : Check Fault ℕ) = .ok (ripe + GRACE) :=
      Check.add_ok.mpr ⟨hroom, rfl⟩
    simp only [Evm.Timelock.liveEta, Timelock.eta, hpending, hslot.etaOf, hslot.epochOf, ne_eq,
      h.epoch_iff hepoch, hevm, hsoroban, hnow]
    rw [Check.ok_bind, Check.ok_bind]
    by_cases hlive : epoch = t.epoch
    · rw [if_neg (not_not.mpr hlive), if_pos hlive]
      by_cases hlast : env.now ≤ ripe + GRACE
      · rw [if_neg (not_lt.mpr hlast), if_pos hlast]
        exact ⟨ripe, rfl, rfl⟩
      · rw [if_pos (not_le.mp hlast), if_neg hlast]
        exact ⟨0, rfl, rfl⟩
    · rw [if_pos hlive, if_neg hlive]
      exact ⟨0, rfl, rfl⟩

/-! ## One call on both timelocks -/

theorem activate_agrees (h : Alike N s t) :
    Tx.Agrees (Tx.Leaving (Alike N)) Evm.Timelock.activate (Timelock.activate env) s t := by
  unfold Evm.Timelock.activate Timelock.activate Timelock.setActive
  apply Tx.Agrees.read
  apply Tx.Agrees.require (by rw [h.active])
  intro _
  apply Tx.Agrees.modify_right
  apply Tx.Agrees.modify
  exact ⟨rfl, h.epoch, h.slots, h.brakes⟩

theorem evm_closeBypass_runs :
    Evm.Timelock.closeBypass s = .ok ((), { s with active := true }) := by
  simp only [Evm.Timelock.closeBypass, Evm.Timelock.activate, Tx.bind_read_ok, Tx.ite_apply]
  by_cases hactive : s.active = false
  · rw [if_pos hactive]
    simp only [Tx.bind_read_ok, Tx.bind_require_ok, Tx.modify_ok, hactive, true_and]
  · rw [if_neg hactive]
    rw [Bool.not_eq_false] at hactive
    rw [Tx.pure_ok, ← hactive]

theorem soroban_closeBypass_runs :
    ∃ published, Timelock.closeBypass env t = .ok ((), { t with active := true, published }) := by
  simp only [Timelock.closeBypass, Timelock.setActive, Tx.bind_read_ok, Tx.ite_apply]
  by_cases hactive : t.active = false
  · rw [if_pos hactive]
    exact ⟨_, rfl⟩
  · rw [if_neg hactive]
    rw [Bool.not_eq_false] at hactive
    exact ⟨t.published, by rw [Tx.pure_ok, ← hactive]⟩

theorem closeBypass_agrees (h : Alike N s t) :
    Tx.Agrees (Tx.Leaving (Alike N)) Evm.Timelock.closeBypass (Timelock.closeBypass env) s t := by
  obtain ⟨published, hsoroban⟩ : ∃ published,
      Timelock.closeBypass env t = .ok ((), { t with active := true, published }) :=
    soroban_closeBypass_runs
  exact Tx.Agrees.of_ok evm_closeBypass_runs hsoroban ⟨rfl, h.epoch, h.slots, h.brakes⟩

/-- A new proposal fills the same slot on both. -/
theorem Alike.proposed (h : Alike N s t) (i : ι) {ripe : ℕ} (hdelay : DELAY < ripe)
    (hroom : ripe + GRACE < 2 ^ 64) {published : List Event} :
    Alike N
      { s with proposals := s.proposals.set (N.evmId i) (Evm.Timelock.pack ripe s.epoch) }
      { t with proposals := t.proposals.set (N.id i) (ripe, t.epoch), published } where
  active := h.active
  epoch := h.epoch
  brakes := h.brakes
  slots j := by
    unfold Evm.Timelock.State.proposal
    by_cases hj : j = i
    · rw [hj, Map.get?_set_self, Map.get?_set_self]
      refine ⟨hdelay, hroom, ?_, ?_⟩
      · rw [← h.epoch]
        exact s.epoch.isLt
      · rw [← h.epoch, BitVec.ofNat_toNat, BitVec.setWidth_eq]
        rfl
    · rw [Map.get?_set_ne (fun heq => hj (N.evmId_inj heq)),
        Map.get?_set_ne (fun heq => hj (N.id_inj heq))]
      exact h.slots j

/-- A proposal consumed or cancelled is gone from both. -/
theorem Alike.removed (h : Alike N s t) (i : ι) {published : List Event} :
    Alike N { s with proposals := s.proposals.remove (N.evmId i) }
      { t with proposals := t.proposals.remove (N.id i), published } where
  active := h.active
  epoch := h.epoch
  brakes := h.brakes
  slots j := by
    unfold Evm.Timelock.State.proposal
    by_cases hj : j = i
    · rw [hj, Map.get?_remove_self, Map.get?_remove_self]
      rfl
    · rw [Map.get?_remove_ne (fun heq => hj (N.evmId_inj heq)),
        Map.get?_remove_ne (fun heq => hj (N.id_inj heq))]
      exact h.slots j

theorem propose_agrees (h : Alike N s t) (hnow : msg.timestamp.toNat = env.now)
    (hpositive : 0 < env.now) (hroom : env.now + DELAY + GRACE < 2 ^ 64) (a : α) :
    Tx.Agrees (Tx.Leaving (Alike N)) (Evm.Timelock.propose P msg (N.data a))
      (Timelock.propose H env (N.fnName a) (N.encoded a)) s t := by
  unfold Evm.Timelock.propose Timelock.propose
  apply Tx.Agrees.expect_right (N.decoded a)
  refine (closeBypass_agrees h).bind ?_
  rintro ⟨⟩ s₁ ⟨⟩ t₁ - - h₁
  rw [N.keccak_data, N.actionId]
  obtain ⟨eta, hevm, hsoroban⟩ := h₁.eta hnow (N.action a)
  apply Tx.Agrees.view hevm hsoroban
  apply Tx.Agrees.require Iff.rfl
  intro _
  have hfits : env.now + DELAY < 2 ^ 64 := by omega
  have hevm : (Check.add 256 msg.timestamp.toNat Evm.Timelock.DELAY : Check Evm.AdminError ℕ)
      = .ok (env.now + DELAY) := by
    rw [hnow]
    exact Check.add_ok.mpr ⟨lt_trans hfits (by norm_num), rfl⟩
  have hsoroban : (Check.add 64 env.now DELAY : Check Fault ℕ) = .ok (env.now + DELAY) :=
    Check.add_ok.mpr ⟨hfits, rfl⟩
  rw [hevm, hsoroban]
  apply Tx.Agrees.lift rfl rfl
  exact h₁.proposed (N.action a) (by omega) hroom

theorem cancel_agrees (h : Alike N s t) (i : ι) :
    Tx.Agrees (Tx.Leaving (Alike N)) (Evm.Timelock.cancel (N.evmId i))
      (Timelock.cancel env (N.id i)) s t := by
  unfold Evm.Timelock.cancel Timelock.cancel
  apply Tx.Agrees.read
  apply Tx.Agrees.require
  · rw [ne_eq, (h.slots i).zero_iff, ← ne_eq, Option.ne_none_iff_isSome]
  · intro _
    apply Tx.Agrees.modify_right (x := Tx.modify _)
    exact h.removed i

/-- Both let the same proposal past the brakes: one made after every brake on the key. -/
theorem unbraked_agrees (h : Alike N s t) {ripe : ℕ} (hdelay : DELAY < ripe) (id : BytesN32)
    (key : Option κ) :
    Evm.Timelock.requireUnbraked id (evmKeyOf N key) ripe s = .ok () ↔
      Timelock.requireUnbraked (key.map N.key) ripe t = .ok () := by
  rw [Evm.Timelock.requireUnbraked_ok]
  cases key with
  | none => simp [evmKeyOf, Timelock.requireUnbraked]
  | some k =>
    have hbrake := h.brakes k
    have hDELAY : Evm.Timelock.DELAY = DELAY := rfl
    simp only [evmKeyOf, ne_eq, N.evmKey_ne_zero, not_false_eq_true, forall_const, hbrake, hDELAY,
      Timelock.requireUnbraked, Option.map_some]
    by_cases hnever : (t.brakes.get? (N.key k)).getD 0 = 0
    · rw [if_neg (not_not.mpr hnever), hnever]
      simp only [iff_true]
      omega
    · rw [if_pos hnever]
      simp only [Check.bind_ok, Check.sub_ok, Check.require_ok]
      constructor
      · intro hlt
        exact ⟨ripe - DELAY, ⟨by omega, rfl⟩, by omega⟩
      · rintro ⟨proposed, ⟨-, hproposed⟩, hlt⟩
        omega

/-- The gate of an active timelock: never made, of another epoch, too early, expired or braked, a
proposal is refused by both for the same reason. -/
theorem consume_agrees (h : Alike N s t) (hactive : t.active ≠ false)
    (hnow : msg.timestamp.toNat = env.now) {admin : Address} (a : α) (key : Option κ) :
    Tx.Agrees (Tx.Leaving (Alike N))
      (Evm.Timelock.consume msg (P.keccak256 (N.data a)) (evmKeyOf N key))
      (Timelock.gateKeyed H env admin (N.fnName a) (N.args a) (key.map N.key)) s t := by
  unfold Evm.Timelock.consume Timelock.gateKeyed
  rw [N.keccak_data, N.actionId]
  apply Tx.Agrees.read
  rw [if_neg hactive]
  dsimp only
  have hslot := h.slots (N.action a)
  cases hpending : t.proposals.get? (N.id (N.action a)) with
  | none =>
    rw [hpending] at hslot
    apply Tx.Agrees.of_refused
    · rintro ⟨r, hr⟩
      simp only [Tx.bind_require_ok] at hr
      exact hr.1 (.inl hslot)
    · rintro ⟨r, hr⟩
      simp only [Tx.bind_expect_ok] at hr
      obtain ⟨_, hsome, -⟩ := hr
      cases hsome
  | some proposal =>
    obtain ⟨ripe, epoch⟩ := proposal
    rw [hpending] at hslot
    have hmade : s.proposal (N.evmId (N.action a)) ≠ 0 := by
      rw [ne_eq, hslot.zero_iff]
      simp
    obtain ⟨hdelay, hroom, hepoch, -⟩ := id hslot
    have hevm : (Check.add 256 ripe Evm.Timelock.GRACE : Check Evm.AdminError ℕ)
        = .ok (ripe + GRACE) :=
      Check.add_ok.mpr ⟨lt_trans hroom (by norm_num), rfl⟩
    have hsoroban : (Check.add 64 ripe GRACE : Check Fault ℕ) = .ok (ripe + GRACE) :=
      Check.add_ok.mpr ⟨hroom, rfl⟩
    apply Tx.Agrees.expect_right rfl
    dsimp only
    rw [hslot.etaOf, hslot.epochOf, hevm, hsoroban, hnow]
    apply Tx.Agrees.require
    · rw [ne_eq, h.epoch_iff hepoch, not_or, not_not]
      exact ⟨fun hboth => hboth.2, fun hlive => ⟨hmade, hlive⟩⟩
    · intro _
      apply Tx.Agrees.require Iff.rfl
      intro _
      apply Tx.Agrees.lift rfl rfl
      apply Tx.Agrees.require Iff.rfl
      intro _
      apply Tx.Agrees.check (unbraked_agrees h hdelay _ key)
      intro _
      apply Tx.Agrees.modify_right (x := Tx.modify _)
      exact h.removed (N.action a)

/-- A brake pulled now. -/
theorem Alike.braked (h : Alike N s t) (hnow : msg.timestamp.toNat = env.now) (k : κ) :
    Alike N { s with brakedAt := s.brakedAt.set (N.evmKey k) msg.timestamp }
      { t with brakes := t.brakes.set (N.key k) env.now } where
  active := h.active
  epoch := h.epoch
  slots := h.slots
  brakes j := by
    unfold Evm.Timelock.State.braked
    by_cases hj : j = k
    · rw [hj, Map.get?_set_self, Map.get?_set_self]
      exact hnow
    · rw [Map.get?_set_ne (fun heq => hj (N.evmKey_inj heq)),
        Map.get?_set_ne (fun heq => hj (N.key_inj heq))]
      exact h.brakes j

theorem bumpEpoch_agrees (h : Alike N s t) (hroom : t.epoch + 1 < 2 ^ 32) :
    Tx.Agrees (Tx.Leaving (Alike N)) Evm.EscrowAdmin.bumpEpoch Timelock.bumpEpoch s t := by
  unfold Evm.EscrowAdmin.bumpEpoch Timelock.bumpEpoch
  apply Tx.Agrees.read
  have hevm : (Check.add 64 s.epoch.toNat 1 : Check Evm.AdminError ℕ) = .ok (t.epoch + 1) := by
    rw [h.epoch]
    exact Check.add_ok.mpr ⟨lt_trans hroom (by norm_num), rfl⟩
  have hsoroban : (Check.add 32 t.epoch 1 : Check Fault ℕ) = .ok (t.epoch + 1) :=
    Check.add_ok.mpr ⟨hroom, rfl⟩
  rw [hevm, hsoroban]
  apply Tx.Agrees.lift rfl rfl
  apply Tx.Agrees.modify
  refine ⟨h.active, ?_, h.slots, h.brakes⟩
  rw [BitVec.toNat_ofNat]
  exact Nat.mod_eq_of_lt (lt_trans hroom (by norm_num))

/-! ## One call on both contracts -/

variable {e : Evm.AdminTimelock} {k : Keeper} {caller : π} {time : U64} {data : Bytes}

theorem evmMessage_now :
    (evmMessage N caller time data).timestamp.toNat = (sorobanEnv N caller time).now := by
  show (time.setWidth 256).toNat = time.toNat
  rw [BitVec.toNat_setWidth]
  exact Nat.mod_eq_of_lt (lt_trans time.isLt (by norm_num))

theorem SameAdmin.byAdmin_iff (h : SameAdmin N e k) :
    (evmMessage N caller time data).sender = e.admin ↔
      (sorobanEnv N caller time).authorized k.admin = true := by
  obtain ⟨p, hevm, hsoroban⟩ := h.admin
  show N.evmParty caller = e.admin ↔ decide (k.admin = N.party caller) = true
  rw [hevm, hsoroban, N.evmParty_inj.eq_iff, decide_eq_true_iff, N.party_inj.eq_iff, eq_comm]

/-- Only the admin passes, on both, and nothing is touched. -/
theorem onlyAdmin_agrees (h : SameAdmin N e k) :
    Tx.Agrees (fun _ e' _ k' => e' = e ∧ k' = k)
      (Evm.AdminTimelock.onlyAdmin (evmMessage N caller time data))
      (Keeper.requireAdmin (sorobanEnv N caller time)) e k := by
  exact Tx.Agrees.of_iff (fun _ => Evm.AdminTimelock.onlyAdmin_ok)
    (fun _ => Keeper.requireAdmin_ok) h.byAdmin_iff fun _ => ⟨rfl, rfl⟩

/-- A step of the two timelocks keeps the admins the same. -/
theorem SameAdmin.onTimelock (h : SameAdmin N e k) {γ δ : Type}
    {x : Tx Evm.AdminError Evm.Timelock.State γ} {y : Tx Fault Timelock δ}
    (hxy : Tx.Agrees (Tx.Leaving (Alike N)) x y e.timelock k.timelock) :
    Tx.Agrees (Tx.Leaving (SameAdmin N)) (Evm.AdminTimelock.onTimelock x) (Keeper.onTimelock y)
      e k :=
  hxy.zoom fun _ _ _ _ halike => ⟨h.admin, h.pending, halike⟩

/-- An admin call that only steps the timelock. -/
theorem SameAdmin.asAdmin (h : SameAdmin N e k) {γ δ : Type}
    {x : Tx Evm.AdminError Evm.Timelock.State γ} {y : Tx Fault Timelock δ}
    (hxy : Tx.Agrees (Tx.Leaving (Alike N)) x y e.timelock k.timelock) :
    Tx.Agrees (Tx.Leaving (SameAdmin N))
      (Evm.AdminTimelock.onlyAdmin (evmMessage N caller time data) >>= fun _ =>
        Evm.AdminTimelock.onTimelock x)
      (Keeper.requireAdmin (sorobanEnv N caller time) >>= fun _ => Keeper.onTimelock y) e k := by
  apply (onlyAdmin_agrees h).bind
  rintro ⟨⟩ e' ⟨⟩ k' - - ⟨rfl, rfl⟩
  exact h.onTimelock hxy

theorem acceptAdmin_agrees (h : SameAdmin N e k) (hroom : k.timelock.epoch + 1 < 2 ^ 32) :
    Tx.Agrees (Tx.Leaving (SameAdmin N))
      (Evm.AdminTimelock.acceptAdmin (evmMessage N caller time data))
      (Keeper.acceptAdmin (sorobanEnv N caller time)) e k := by
  unfold Evm.AdminTimelock.acceptAdmin Keeper.acceptAdmin
  apply Tx.Agrees.read
  rcases h.pending with ⟨hzero, hnone⟩ | ⟨p, hevm, hsoroban⟩
  · apply Tx.Agrees.of_refused
    · rintro ⟨r, hr⟩
      rw [Tx.bind_require_ok, hzero] at hr
      exact N.evmParty_ne_zero caller hr.1
    · rintro ⟨r, hr⟩
      rw [Tx.bind_expect_ok, hnone] at hr
      obtain ⟨_, hsome, -⟩ := hr
      cases hsome
  · apply Tx.Agrees.expect_right hsoroban
    by_cases hnominee : caller = p
    · subst hnominee
      refine Tx.Agrees.bind (Q := fun _ e' _ k' => e' = e ∧ k' = k) (Tx.Agrees.of_ok (a := ())
        (b := ()) (Tx.require_ok.mpr ⟨hevm.symm, rfl⟩)
        (Tx.demand_ok.mpr ⟨decide_eq_true rfl, rfl⟩) ⟨rfl, rfl⟩) ?_
      rintro ⟨⟩ e' ⟨⟩ k' - - ⟨rfl, rfl⟩
      apply Tx.Agrees.modify_left
      apply Tx.Agrees.modify_right
      have hnext : SameAdmin N { e' with admin := N.evmParty caller, pendingAdmin := 0 }
          { k' with admin := N.party caller, pendingAdmin := none } :=
        ⟨⟨caller, rfl, rfl⟩, .inl ⟨rfl, rfl⟩, h.timelock⟩
      exact hnext.onTimelock (bumpEpoch_agrees h.timelock hroom)
    · apply Tx.Agrees.of_refused
      · rintro ⟨r, hr⟩
        rw [Tx.bind_require_ok, hevm] at hr
        exact hnominee (N.evmParty_inj hr.1)
      · rintro ⟨r, hr⟩
        rw [requireAuth, Tx.bind_demand_ok] at hr
        exact hnominee (N.party_inj (of_decide_eq_true hr.1)).symm

/-- A gated setter: before activation the admin's, after it a ripe proposal's. -/
theorem setter_agrees (h : SameAdmin N e k) (a : α) (key : Option κ) :
    Tx.Agrees (Tx.Leaving (SameAdmin N))
      (Evm.AdminTimelock.timelocked P (evmMessage N caller time (N.data a)) (evmKeyOf N key))
      (Keeper.gateKeyed H (sorobanEnv N caller time) (N.fnName a) (N.args a) (key.map N.key))
      e k := by
  unfold Evm.AdminTimelock.timelocked Keeper.gateKeyed
  apply Tx.Agrees.read
  by_cases hactive : k.timelock.active = false
  · rw [if_pos (h.timelock.active.trans hactive)]
    have hadmin : (evmMessage N caller time (N.data a)).sender = e.admin ↔
        (sorobanEnv N caller time).authorized k.admin = true := h.byAdmin_iff
    refine Tx.Agrees.of_iff (a := ()) (b := ()) (fun _ => Tx.require_ok) (fun r => ?_) hadmin
      (fun _ => h)
    simp only [Tx.zoom_ok, Timelock.gateKeyed, Tx.bind_read_ok, if_pos hactive, requireAuth,
      Tx.demand_ok, Prod.mk.injEq, true_and]
    constructor
    · rintro ⟨b, timelock, ⟨hauth, rfl⟩, rfl⟩
      exact ⟨hauth, rfl⟩
    · rintro ⟨hauth, rfl⟩
      exact ⟨(), _, ⟨hauth, rfl⟩, rfl⟩
  · rw [if_neg (h.timelock.active.symm ▸ hactive)]
    exact h.onTimelock (consume_agrees h.timelock hactive evmMessage_now a key)

theorem setterUnless_agrees (h : SameAdmin N e k) (brake : Bool) (a : α) (key : κ) :
    Tx.Agrees (Tx.Leaving (SameAdmin N))
      (Evm.AdminTimelock.timelockedUnless P (evmMessage N caller time (N.data a)) brake
        (N.evmKey key))
      (Keeper.gateUnless H (sorobanEnv N caller time) brake (N.fnName a) (N.args a) (N.key key))
      e k := by
  cases brake with
  | false =>
    unfold Evm.AdminTimelock.timelockedUnless Keeper.gateUnless Timelock.gateUnless
    simp only [Bool.false_eq_true, if_false]
    exact setter_agrees h a (some key)
  | true =>
    have hevm : ∀ r, Evm.AdminTimelock.timelockedUnless P (evmMessage N caller time (N.data a)) true
        (N.evmKey key) e = .ok r ↔ (evmMessage N caller time (N.data a)).sender = e.admin ∧
          r = ((), { e with timelock := { e.timelock with
            brakedAt := e.timelock.brakedAt.set (N.evmKey key)
              (evmMessage N caller time (N.data a)).timestamp } }) := by
      intro r
      simp only [Evm.AdminTimelock.timelockedUnless, if_pos, Evm.AdminTimelock.onlyAdmin_ok,
        Tx.bind_ok, Tx.zoom_ok, Tx.modify_ok]
      constructor
      · rintro ⟨_, _, ⟨hadmin, hstate⟩, _, _, hafter, rfl⟩
        cases hstate
        cases hafter
        exact ⟨hadmin, rfl⟩
      · rintro ⟨hadmin, rfl⟩
        exact ⟨(), e, ⟨hadmin, rfl⟩, (), _, rfl, rfl⟩
    have hsoroban : ∀ r, Keeper.gateUnless H (sorobanEnv N caller time) true (N.fnName a)
        (N.args a) (N.key key) k = .ok r ↔ (sorobanEnv N caller time).authorized k.admin = true ∧
          r = ((), { k with timelock := { k.timelock with
            brakes := k.timelock.brakes.set (N.key key) (sorobanEnv N caller time).now } }) := by
      intro r
      simp only [Keeper.gateUnless, Timelock.gateUnless, if_pos, Tx.bind_read_ok, Tx.zoom_ok,
        requireAuth, Tx.bind_demand_ok, Tx.modify_ok]
      constructor
      · rintro ⟨_, _, ⟨hauth, hafter⟩, rfl⟩
        cases hafter
        exact ⟨hauth, rfl⟩
      · rintro ⟨hauth, rfl⟩
        exact ⟨(), _, ⟨hauth, rfl⟩, rfl⟩
    exact Tx.Agrees.of_iff hevm hsoroban h.byAdmin_iff fun _ =>
      ⟨h.admin, h.pending, h.timelock.braked evmMessage_now key⟩

/-- Any call in range: both accept it and stay alike, or both refuse it. -/
theorem asked_agrees (h : SameAdmin N e k) {c : Asked π ι κ α} (hrange : InRange e k c) :
    Tx.Agrees (Tx.Leaving (SameAdmin N)) (onEvm N c) (onSoroban N c) e k := by
  obtain ⟨caller, time, call⟩ := c
  obtain ⟨hpositive, hroom⟩ := hrange
  cases call with
  | nominated p => exact Tx.Agrees.modify ⟨h.admin, .inr ⟨p, rfl, rfl⟩, h.timelock⟩
  | acceptAdmin => exact acceptAdmin_agrees h hroom
  | activateTimelock => exact h.asAdmin (activate_agrees h.timelock)
  | proposeAction a =>
    apply Tx.Agrees.answer_right
    exact h.asAdmin (propose_agrees h.timelock evmMessage_now hpositive hroom a)
  | cancelAction i => exact h.asAdmin (cancel_agrees h.timelock i)
  | setter a key => exact setter_agrees h a key
  | setterUnless brake a key => exact setterUnless_agrees h brake a key

theorem deployed_sameAdmin (p : π) :
    SameAdmin N (.deployed (N.evmParty p)) (.deployed (N.party p)) where
  admin := ⟨p, rfl, rfl⟩
  pending := .inl ⟨rfl, rfl⟩
  timelock := ⟨rfl, rfl, fun _ => rfl, fun _ => rfl⟩

/-- The two timelocks agree: after any calls in range they accept the same next call, tell the same
of the bypass and of every proposal's eta, and hold the same proposals unconsumed. -/
theorem timelocks_agree {p : π} {script : List (Asked π ι κ α)}
    (run : Lockstep (onEvm N) (onSoroban N) InRange (.deployed (N.evmParty p))
      (.deployed (N.party p)) script e k) :
    (∀ c, InRange e k c → ((onEvm N c).Accepts e ↔ (onSoroban N c).Accepts k)) ∧
      e.timelock.active = k.timelock.active ∧
      (∀ i msg env, msg.timestamp.toNat = env.now →
        ∃ eta, Evm.Timelock.liveEta msg (N.evmId i) e.timelock = .ok eta ∧
          Timelock.eta env (N.id i) k.timelock = .ok eta) ∧
      ∀ i, e.timelock.proposal (N.evmId i) ≠ 0 ↔
        (k.timelock.proposals.get? (N.id i)).isSome = true := by
  have h : SameAdmin N e k := run.related (deployed_sameAdmin p) fun hsame hrange =>
    asked_agrees hsame hrange
  refine ⟨fun c hrange => (asked_agrees h hrange).accepts_iff, h.timelock.active, ?_, ?_⟩
  · intro i msg env hnow
    exact h.timelock.eta hnow i
  · intro i
    rw [ne_eq, (h.timelock.slots i).zero_iff, ← ne_eq, Option.ne_none_iff_isSome]

end Agreement

/-! ## One setter, proposed on both chains -/

/-- `setMonotonic(false)` and `set_monotonic(false)`, with the ids and keys the chains hash them
to. -/
def sampleNames : Names
    { keccak256 := fun _ => 0x37e92a4b98903ae87bc5909870a766248e06785f38e330429ce3726acf78525e
      efficientHash := fun _ => 0
      toTypedDataHash := fun _ _ => 0 }
    { contractId := 0x52
      keccak256 := fun _ => 0
      actionId := fun _ _ => 0x09f930d4583b623a4bf04634cf9be9ef62e8509540e0423efe0534755f529f2b
      brakeKey := fun _ _ => 0xb05ee9a59a3b9526fa35ee06fa6bab24fbdb38526361ba3aa854e3d2aee81f70
      argsFromXdr := fun _ => some [.bool false] } Bool Unit Unit Unit where
  evmParty admin := if admin then 0xA1 else 0xB2
  party admin := .account (if admin then 0xA1 else 0xB2)
  evmId _ := 0x37e92a4b98903ae87bc5909870a766248e06785f38e330429ce3726acf78525e
  id _ := 0x09f930d4583b623a4bf04634cf9be9ef62e8509540e0423efe0534755f529f2b
  evmKey _ := 0x8b21d15d26d66df1c6cf92aa1897d2cb99fb8acbaea6c12414ea4c7a8b6d212c
  key _ := 0xb05ee9a59a3b9526fa35ee06fa6bab24fbdb38526361ba3aa854e3d2aee81f70
  action _ := ()
  data _ := [0x9a, 0x2a, 0x2c, 0xad] ++ List.replicate 32 0
  fnName _ := "set_monotonic"
  args _ := [.bool false]
  encoded _ := [0, 0, 0, 0x10, 0, 0, 0, 1, 0, 0, 0, 1, 0, 0, 0, 0, 0, 0, 0, 0]
  evmParty_inj := by decide
  party_inj := by decide
  evmParty_ne_zero := by decide
  evmId_inj _ _ _ := rfl
  id_inj _ _ _ := rfl
  evmKey_inj _ _ _ := rfl
  key_inj _ _ _ := rfl
  evmKey_ne_zero := by decide
  keccak_data _ := rfl
  actionId _ := rfl
  decoded _ := rfl

/-- Proposed by the admin at one time, run a day later by anyone, keyed by its brake. -/
theorem timelocks_agree_sample :
    let proposed : Asked Bool Unit Unit Unit := ⟨true, 1, .proposeAction ()⟩
    (onSoroban sampleNames ⟨false, 86401, .setter () (some ())⟩).Accepts
      ((onSoroban sampleNames proposed).after (.deployed (sampleNames.party true))) := by
  intro proposed
  have run : Lockstep (onEvm sampleNames) (onSoroban sampleNames) InRange
      (.deployed (sampleNames.evmParty true)) (.deployed (sampleNames.party true)) [proposed]
      ((onEvm sampleNames proposed).after (.deployed (sampleNames.evmParty true)))
      ((onSoroban sampleNames proposed).after (.deployed (sampleNames.party true))) :=
    .step .start ⟨by decide, by decide⟩
  have hsame := (timelocks_agree run).1 ⟨false, 86401, .setter () (some ())⟩ ⟨by decide, trivial⟩
  exact hsame.mp (by decide +kernel)

/-- The contract after so many handovers from the admin to itself. -/
def evmAfterHandovers (n : ℕ) : Evm.AdminTimelock where
  admin := 0xA1
  pendingAdmin := 0
  timelock := { Evm.Timelock.State.fresh with epoch := BitVec.ofNat 64 n }

def sorobanAfterHandovers (n : ℕ) : Keeper where
  admin := .account 0xA1
  pendingAdmin := none
  timelock := { Timelock.fresh with epoch := n }

def nominatedOnce : Asked Bool Unit Unit Unit := ⟨true, 1, .nominated true⟩

def acceptedOnce : Asked Bool Unit Unit Unit := ⟨true, 1, .acceptAdmin⟩

theorem evm_handover_ok {n : ℕ} (h : n + 1 < 2 ^ 64) :
    onEvm sampleNames acceptedOnce ((onEvm sampleNames nominatedOnce).after (evmAfterHandovers n))
      = .ok ((), evmAfterHandovers (n + 1)) := by
  have hnominated : (onEvm sampleNames nominatedOnce).after (evmAfterHandovers n)
      = { evmAfterHandovers n with pendingAdmin := 0xA1 } := rfl
  have hepoch : (BitVec.ofNat 64 n).toNat = n := by
    rw [BitVec.toNat_ofNat]
    exact Nat.mod_eq_of_lt (by omega)
  have haccept : onEvm sampleNames acceptedOnce
      = Evm.AdminTimelock.acceptAdmin (evmMessage sampleNames true 1 []) := rfl
  rw [hnominated, haccept]
  simp only [Evm.AdminTimelock.acceptAdmin, Tx.bind_read_ok, Tx.bind_require_ok, Tx.bind_modify_ok,
    Tx.zoom_ok, Evm.EscrowAdmin.bumpEpoch, Tx.bind_lift_ok, Tx.modify_ok, Check.add_ok]
  refine ⟨rfl, (), _, ⟨n + 1, ⟨?_, ?_⟩, rfl⟩, rfl⟩
  · show (BitVec.ofNat 64 n).toNat + 1 < 2 ^ 64
    rw [hepoch]
    exact h
  · show n + 1 = (BitVec.ofNat 64 n).toNat + 1
    rw [hepoch]

theorem soroban_handover_iff {n : ℕ} {r : Unit × Keeper} :
    onSoroban sampleNames acceptedOnce
        ((onSoroban sampleNames nominatedOnce).after (sorobanAfterHandovers n)) = .ok r
      ↔ n + 1 < 2 ^ 32 ∧ r = ((), sorobanAfterHandovers (n + 1)) := by
  have hnominated : (onSoroban sampleNames nominatedOnce).after (sorobanAfterHandovers n)
      = { sorobanAfterHandovers n with pendingAdmin := some (.account 0xA1) } := rfl
  have haccept : onSoroban sampleNames acceptedOnce
      = Keeper.acceptAdmin (sorobanEnv sampleNames true 1) := rfl
  rw [hnominated, haccept]
  simp only [Keeper.acceptAdmin, Tx.bind_read_ok, Tx.bind_expect_ok, requireAuth,
    Tx.bind_demand_ok, Tx.bind_modify_ok, Tx.zoom_ok, Timelock.bumpEpoch, Tx.bind_lift_ok,
    Tx.modify_ok, Check.add_ok]
  constructor
  · rintro ⟨_, hsome, -, _, _, ⟨_, ⟨hfits, rfl⟩, hafter⟩, rfl⟩
    cases hsome
    cases hafter
    exact ⟨hfits, rfl⟩
  · rintro ⟨hfits, rfl⟩
    exact ⟨_, rfl, by decide, (), _, ⟨n + 1, ⟨hfits, rfl⟩, rfl⟩, rfl⟩

/-- So many handovers, one after the other. -/
theorem handovers_run {n : ℕ} (h : n < 2 ^ 32) :
    ∃ script, Lockstep (onEvm sampleNames) (onSoroban sampleNames) (fun _ _ c => 0 < c.time.toNat)
      (.deployed (sampleNames.evmParty true)) (.deployed (sampleNames.party true)) script
      (evmAfterHandovers n) (sorobanAfterHandovers n) := by
  induction n with
  | zero => exact ⟨[], .start⟩
  | succ n ih =>
    obtain ⟨script, run⟩ := ih (by omega)
    refine ⟨acceptedOnce :: nominatedOnce :: script, ?_⟩
    have hevm : (onEvm sampleNames acceptedOnce).after
        ((onEvm sampleNames nominatedOnce).after (evmAfterHandovers n))
          = evmAfterHandovers (n + 1) := by
      rw [Tx.after, evm_handover_ok (lt_trans h (by norm_num))]
    have hsoroban : (onSoroban sampleNames acceptedOnce).after
        ((onSoroban sampleNames nominatedOnce).after (sorobanAfterHandovers n))
          = sorobanAfterHandovers (n + 1) := by
      rw [Tx.after, soroban_handover_iff.mpr ⟨h, rfl⟩]
    rw [← hevm, ← hsoroban]
    exact (run.step (by decide)).step (by decide)

/-- Where the two part: a proposal of the last second of 64 bits, and the handover that exhausts the
32-bit counter. The EVM contract goes on, the Soroban one does not. -/
theorem timelocks_part :
    ((onEvm sampleNames ⟨true, 18446744073709551615, .proposeAction ()⟩).Accepts
        (.deployed (sampleNames.evmParty true)) ∧
      ¬(onSoroban sampleNames ⟨true, 18446744073709551615, .proposeAction ()⟩).Accepts
        (.deployed (sampleNames.party true))) ∧
      ∃ script e k, Lockstep (onEvm sampleNames) (onSoroban sampleNames)
          (fun _ _ c => 0 < c.time.toNat) (.deployed (sampleNames.evmParty true))
          (.deployed (sampleNames.party true)) script e k ∧
        (onEvm sampleNames acceptedOnce).Accepts e ∧
        ¬(onSoroban sampleNames acceptedOnce).Accepts k := by
  refine ⟨by constructor <;> decide +kernel, ?_⟩
  obtain ⟨script, run⟩ := handovers_run (by norm_num : 4294967295 < 2 ^ 32)
  refine ⟨nominatedOnce :: script, _, _, run.step (by decide), ⟨_, evm_handover_ok (by norm_num)⟩, ?_⟩
  rintro ⟨r, hr⟩
  have hfits := (soroban_handover_iff.mp hr).1
  norm_num at hfits

end Parity
end ProofBridge
