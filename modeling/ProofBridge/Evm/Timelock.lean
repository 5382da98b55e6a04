import ProofBridge.Evm.OrderHash
import ProofBridge.Lib.Map
import ProofBridge.Lib.Tx

/-!
# The EVM timelock

A proposal is the Keccak-256 of a setter's exact calldata. Its slot packs when it ripens with the
admin epoch it was made in, into one word. `consume` is the gate of an active timelock: a brake key
of zero stands for no key.
-/

namespace ProofBridge
namespace Evm

open ContractLib

/-- The block and the message of a call. -/
structure Message where
  timestamp : Uint256
  sender : EvmAddress
  /-- `msg.data`: the selector and the encoded arguments, whatever bytes the decoder took them
  from. -/
  data : Bytes
  deriving DecidableEq

/-- What the admin surface of an escrow reverts with. -/
inductive AdminError
  | notAdmin
  | notPendingAdmin
  | invalidAdmin (successor : EvmAddress)
  | alreadyActive
  | alreadyProposed (id : BytesN32)
  | notProposed (id : BytesN32)
  | tooEarly (eta : ℕ)
  | expired (expiredAt : ℕ)
  | cancelledByBrake (id : BytesN32)
  | zeroAddress
  | routeZeroAddress
  | chainNotSupported (chainId : Uint256)
  | invalidTiming (field : ℕ)
  | enforcedPause
  | expectedPause
  deriving DecidableEq, Repr

namespace Timelock

/-- 24 hours. -/
def DELAY : ℕ := 24 * 60 * 60

/-- 14 days. -/
def GRACE : ℕ := 14 * 24 * 60 * 60

/-- `Timelock.State`. An unset slot or brake reads as zero. -/
structure State where
  active : Bool
  /-- Bumped on every admin handover. -/
  epoch : BitVec 64
  /-- `eta | epoch << 64` under a proposal's id. -/
  proposals : Map BytesN32 Uint256
  /-- When the brake on a key was last pulled. -/
  brakedAt : Map BytesN32 Uint256

def State.fresh : State where
  active := false
  epoch := 0
  proposals := ∅
  brakedAt := ∅

namespace State

variable (s : State)

/-- The packed slot of a proposal. -/
def proposal (id : BytesN32) : Uint256 := (s.proposals.get? id).getD 0

def braked (key : BytesN32) : Uint256 := (s.brakedAt.get? key).getD 0

end State

/-- `eta | (uint256(epoch) << 64)`. -/
def pack (eta : ℕ) (epoch : BitVec 64) : Uint256 :=
  BitVec.ofNat 256 eta ||| (epoch.setWidth 256 <<< 64)

/-- `uint64(p)`. -/
def etaOf (p : Uint256) : ℕ := (p.setWidth 64).toNat

/-- `p >> 64`. -/
def epochOf (p : Uint256) : Uint256 := p >>> 64

def activate : Tx AdminError State Unit := do
  let s ← Tx.read
  Tx.require (s.active = false) .alreadyActive
  Tx.modify fun s => { s with active := true }

/-- The eta of a proposal that can still run, else 0. -/
def liveEta (msg : Message) (id : BytesN32) (s : State) : Check AdminError ℕ := do
  let p := s.proposal id
  let eta := etaOf p
  if epochOf p ≠ s.epoch.setWidth 256 then pure 0
  else do
    let last ← Check.add 256 eta GRACE
    if last < msg.timestamp.toNat then pure 0 else pure eta

/-- `if (!s.active) activate(s)`. -/
def closeBypass : Tx AdminError State Unit := do
  let s ← Tx.read
  if s.active = false then activate else pure ()

def propose (P : Primitives) (msg : Message) (data : Bytes) : Tx AdminError State Unit := do
  closeBypass
  let id := P.keccak256 data
  let live ← Tx.view (liveEta msg id)
  Tx.require (live = 0) (.alreadyProposed id)
  let eta ← Tx.lift (Check.add 256 msg.timestamp.toNat DELAY)
  Tx.modify fun s => { s with proposals := s.proposals.set id (pack eta s.epoch) }

def cancel (id : BytesN32) : Tx AdminError State Unit := do
  let s ← Tx.read
  Tx.require (s.proposal id ≠ 0) (.notProposed id)
  Tx.modify fun s => { s with proposals := s.proposals.remove id }

/-- Refused when a brake on `key` was pulled at or after the proposal was made; zero is no key. -/
def requireUnbraked (id key : BytesN32) (eta : ℕ) (s : State) : Check AdminError Unit :=
  if key ≠ 0 then do
    let proposedAt ← Check.sub eta DELAY
    Check.require ((s.braked key).toNat < proposedAt) (.cancelledByBrake id)
  else .ok ()

/-- The active-mode gate. -/
def consume (msg : Message) (id key : BytesN32) : Tx AdminError State Unit := do
  let s ← Tx.read
  let p := s.proposal id
  let eta := etaOf p
  Tx.require (¬(p = 0 ∨ epochOf p ≠ s.epoch.setWidth 256)) (.notProposed id)
  Tx.require (eta ≤ msg.timestamp.toNat) (.tooEarly eta)
  let last ← Tx.lift (Check.add 256 eta GRACE)
  Tx.require (msg.timestamp.toNat ≤ last) (.expired last)
  Tx.view (requireUnbraked id key eta)
  Tx.modify fun s => { s with proposals := s.proposals.remove id }

/-! ## The packed slot -/

theorem etaOf_pack (eta : ℕ) (epoch : BitVec 64) : etaOf (pack eta epoch) = eta % 2 ^ 64 := by
  have hlow : (pack eta epoch).setWidth 64 = BitVec.ofNat 64 eta := by
    apply BitVec.eq_of_getLsbD_eq
    intro i hi
    simp [pack, hi]
  rw [etaOf, hlow, BitVec.toNat_ofNat]

@[simp] theorem etaOf_zero : etaOf 0 = 0 := rfl

/-! ## What each call does -/

variable {P : Primitives} {msg : Message} {s s' : State}

theorem activate_ok (ok : activate s = .ok ((), s')) :
    s.active = false ∧ s' = { s with active := true } := by
  simp only [activate, Tx.bind_read_ok, Tx.bind_require_ok, Tx.modify_ok, Prod.mk.injEq,
    true_and] at ok
  exact ok

theorem closeBypass_ok (ok : closeBypass s = .ok ((), s')) : s' = { s with active := true } := by
  simp only [closeBypass, Tx.bind_read_ok, Tx.ite_apply] at ok
  split at ok
  · exact (activate_ok ok).2
  · next hactive =>
    obtain rfl : s' = s := (Prod.mk.inj (Tx.pure_ok.mp ok)).2
    rw [Bool.not_eq_false] at hactive
    rw [← hactive]

theorem propose_ok {data : Bytes} (ok : propose P msg data s = .ok ((), s')) :
    msg.timestamp.toNat + DELAY < 2 ^ 256 ∧
      s' = { s with
        active := true
        proposals := s.proposals.set (P.keccak256 data)
          (pack (msg.timestamp.toNat + DELAY) s.epoch) } := by
  unfold propose at ok
  rw [Tx.bind_ok] at ok
  obtain ⟨⟨⟩, s₁, hactive, ok⟩ := ok
  obtain rfl := closeBypass_ok hactive
  simp only [Tx.bind_view_ok, Tx.bind_require_ok, Tx.bind_lift_ok, Tx.modify_ok, Check.add_ok,
    Prod.mk.injEq, true_and] at ok
  obtain ⟨_, -, -, eta, ⟨hfits, heta⟩, rfl⟩ := ok
  rw [heta]
  exact ⟨hfits, rfl⟩

theorem liveEta_of_zero {id : BytesN32} (h : s.proposal id = 0) : liveEta msg id s = .ok 0 := by
  have hlast : (Check.add 256 0 GRACE : Check AdminError ℕ) = .ok GRACE := by decide +kernel
  simp only [liveEta, h, etaOf_zero, hlast, Check.ok_bind]
  split
  · rfl
  · split <;> rfl

/-- The first proposal of all closes the bypass. -/
theorem propose_accepted {data : Bytes} (hactive : s.active = false)
    (hnew : ∀ id, s.proposal id = 0) (hfits : msg.timestamp.toNat + DELAY < 2 ^ 256) :
    propose P msg data s = .ok ((), { s with
      active := true
      proposals := s.proposals.set (P.keccak256 data)
        (pack (msg.timestamp.toNat + DELAY) s.epoch) }) := by
  have hopen : activate s = .ok ((), { s with active := true }) := by
    simp only [activate, Tx.bind_read_ok, Tx.bind_require_ok, Tx.modify_ok, hactive, true_and]
  have hclose : closeBypass s = .ok ((), { s with active := true }) := by
    rw [closeBypass, Tx.bind_read_ok, Tx.ite_apply, if_pos hactive, hopen]
  have hlive : liveEta msg (P.keccak256 data) { s with active := true } = .ok 0 :=
    liveEta_of_zero (s := { s with active := true }) (hnew _)
  unfold propose
  rw [Tx.bind_ok]
  refine ⟨(), _, hclose, ?_⟩
  simp only [Tx.bind_view_ok, Tx.bind_require_ok, Tx.bind_lift_ok, Tx.modify_ok, Check.add_ok,
    hlive, Except.ok.injEq, exists_eq_left', true_and]
  exact ⟨_, ⟨hfits, rfl⟩, rfl⟩

theorem cancel_ok {id : BytesN32} (ok : cancel id s = .ok ((), s')) :
    s' = { s with proposals := s.proposals.remove id } := by
  simp only [cancel, Tx.bind_read_ok, Tx.bind_require_ok, Tx.modify_ok, Prod.mk.injEq,
    true_and] at ok
  exact ok.2

/-- What the gate asks of the slot it consumes. -/
structure Ripe (msg : Message) (id key : BytesN32) (s : State) : Prop where
  pending : s.proposal id ≠ 0
  epoch : epochOf (s.proposal id) = s.epoch.setWidth 256
  reached : etaOf (s.proposal id) ≤ msg.timestamp.toNat
  fresh : msg.timestamp.toNat ≤ etaOf (s.proposal id) + GRACE
  unbraked : key ≠ 0 → (s.braked key).toNat + DELAY < etaOf (s.proposal id)

theorem requireUnbraked_ok {id key : BytesN32} {eta : ℕ} :
    requireUnbraked id key eta s = .ok () ↔ (key ≠ 0 → (s.braked key).toNat + DELAY < eta) := by
  unfold requireUnbraked
  split
  · next hkey =>
    simp only [Check.bind_ok, Check.sub_ok, Check.require_ok, hkey, not_false_eq_true, forall_const,
      ne_eq]
    constructor
    · rintro ⟨proposedAt, ⟨hle, heq⟩, hlt⟩
      rw [heq] at hlt
      omega
    · intro h
      exact ⟨eta - DELAY, ⟨by omega, rfl⟩, by omega⟩
  · next hkey =>
    constructor
    · intro _ h
      exact absurd h hkey
    · intro _
      rfl

theorem consume_ok {id key : BytesN32} : consume msg id key s = .ok ((), s') ↔
    Ripe msg id key s ∧ etaOf (s.proposal id) + GRACE < 2 ^ 256 ∧
      s' = { s with proposals := s.proposals.remove id } := by
  simp only [consume, Tx.bind_read_ok, Tx.bind_require_ok, Tx.bind_lift_ok, Tx.bind_view_ok,
    Tx.modify_ok, Check.add_ok, Prod.mk.injEq, true_and, not_or, not_not]
  constructor
  · rintro ⟨⟨hpending, hepoch⟩, hreached, last, ⟨hfits, hlast⟩, hfresh, ⟨⟩, hunbraked, rfl⟩
    rw [hlast] at hfresh
    exact ⟨⟨hpending, hepoch, hreached, hfresh, requireUnbraked_ok.mp hunbraked⟩, hfits, rfl⟩
  · rintro ⟨h, hfits, rfl⟩
    exact ⟨⟨h.pending, h.epoch⟩, h.reached, _, ⟨hfits, rfl⟩, h.fresh, (),
      requireUnbraked_ok.mpr h.unbraked, rfl⟩

end Timelock
end Evm
end ProofBridge
