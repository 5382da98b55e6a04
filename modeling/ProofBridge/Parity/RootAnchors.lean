import ProofBridge.Evm.RootAnchor
import ProofBridge.Lib.Agree
import ProofBridge.RootAnchor.Step

/-!
# The two RootAnchors

One script of calls handed to the RootAnchor of either chain. On EVM an anchored root is one with a
time, signers are a mapping and a refusal rolls back edits made in place; on Soroban a root carries a
flag, signers are a list and a record is stored once it is complete. Whatever the timelocks and the
admins do between the calls, as long as they give both contracts the same verdicts the two notaries
hold the same and accept the same calls. The one difference is by design: a pause of a paused
contract, or an unpause of one that runs, is refused on EVM and idle on Soroban.
-/

namespace ProofBridge
namespace Parity

open ContractLib

/-- The same parties on both chains. -/
structure Parties (π : Type) where
  evm : π → Evm.EvmAddress
  soroban : π → Address
  evm_inj : Function.Injective evm
  soroban_inj : Function.Injective soroban
  evm_ne_zero : ∀ p, evm p ≠ 0

/-- A chain id that both chains can write. -/
def wide (chainId : U128) : Evm.Uint256 := chainId.setWidth 256

theorem wide_inj {c c' : U128} (h : wide c = wide c') : c = c' := by
  apply BitVec.eq_of_toNat_eq
  have hnat := congrArg BitVec.toNat h
  simp only [wide, BitVec.toNat_setWidth] at hnat
  have hc := c.isLt
  have hc' := c'.isLt
  omega

/-- What either RootAnchor is asked. `administered` is whatever happens to the admin and to the
timelock of the two contracts between the other calls. -/
inductive AnchorCall (π : Type)
  | anchor (sourceChainId : U128) (root : BytesN32) (ledgerSeq : U64)
  | setSigners (signers : List π) (threshold : U32)
  | revokeAnchor (sourceChainId : U128) (root : BytesN32)
  | resetLatestSeq (sourceChainId : U128) (seq : U64)
  | setAnchorDelay (sourceChainId : U128) (delay : U64)
  | setMonotonic (monotonic : Bool)
  | pause
  | unpause
  | administered (access : Evm.AdminTimelock) (admin : Address) (pendingAdmin : Option Address)
      (timelock : Timelock)

/-- A call with who makes it, when, and the calldata it has on EVM. -/
structure AnchorAsked (π : Type) where
  caller : π
  time : U64
  data : Bytes
  call : AnchorCall π

namespace AnchorAsked

variable {π : Type} (N : Parties π) (c : AnchorAsked π)

def message : Evm.Message where
  timestamp := c.time.setWidth 256
  sender := N.evm c.caller
  data := c.data

def env : Env where
  timestamp := c.time
  authorized who := who = N.soroban c.caller
  authorizedInside _ := false

theorem message_now : (c.message N).timestamp.toNat = (c.env N).now := by
  show (c.time.setWidth 256).toNat = c.time.toNat
  rw [BitVec.toNat_setWidth]
  exact Nat.mod_eq_of_lt (lt_trans c.time.isLt (by norm_num))

end AnchorAsked

section Scripts

variable {π : Type} (P : Evm.Primitives) (H : Host) (N : Parties π)

def anchorOnEvm (c : AnchorAsked π) : Tx Evm.RootAnchorError Evm.RootAnchor Unit :=
  match c.call with
  | .anchor sourceChainId root ledgerSeq =>
    Evm.RootAnchor.anchor (c.message N) (wide sourceChainId) root ledgerSeq
  | .setSigners signers threshold =>
    Evm.RootAnchor.setSigners P (c.message N) (signers.map N.evm) threshold
  | .revokeAnchor sourceChainId root =>
    Evm.RootAnchor.revokeAnchor (c.message N) (wide sourceChainId) root
  | .resetLatestSeq sourceChainId seq =>
    Evm.RootAnchor.resetLatestSeq P (c.message N) (wide sourceChainId) seq
  | .setAnchorDelay sourceChainId delay =>
    Evm.RootAnchor.setAnchorDelay P (c.message N) (wide sourceChainId) delay
  | .setMonotonic monotonic => Evm.RootAnchor.setMonotonic P (c.message N) monotonic
  | .pause => Evm.RootAnchor.pause (c.message N)
  | .unpause => Evm.RootAnchor.unpause (c.message N)
  | .administered access _ _ _ => Tx.modify fun s => { s with access }

def anchorOnSoroban (c : AnchorAsked π) : Tx RootAnchor.RootAnchorError RootAnchor.State Unit :=
  match c.call with
  | .anchor sourceChainId root ledgerSeq =>
    RootAnchor.anchor (c.env N) (N.soroban c.caller) sourceChainId root ledgerSeq
  | .setSigners signers threshold =>
    RootAnchor.setSigners H (c.env N) (signers.map N.soroban) threshold
  | .revokeAnchor sourceChainId root => RootAnchor.revokeAnchor (c.env N) sourceChainId root
  | .resetLatestSeq sourceChainId seq => RootAnchor.resetLatestSeq H (c.env N) sourceChainId seq
  | .setAnchorDelay sourceChainId delay => RootAnchor.setAnchorDelay H (c.env N) sourceChainId delay
  | .setMonotonic monotonic => RootAnchor.setMonotonic H (c.env N) monotonic
  | .pause => RootAnchor.pause (c.env N)
  | .unpause => RootAnchor.unpause (c.env N)
  | .administered _ admin pendingAdmin timelock =>
    Tx.modify fun s => { s with admin := some admin, pendingAdmin, timelock }

/-- The gate of a setter on EVM, as the setter asks it. -/
def evmGate (s : Evm.RootAnchor) (c : AnchorAsked π) :
    Tx Evm.AdminError Evm.AdminTimelock Unit :=
  match c.call with
  | .setSigners _ _ => Evm.AdminTimelock.timelocked P (c.message N) 0
  | .resetLatestSeq sourceChainId seq =>
    Evm.AdminTimelock.timelockedUnless P (c.message N)
      (s.latestOf (wide sourceChainId) ≤ seq.toNat)
      (Evm.RootAnchor.brakeKey P 0x61354cdc [wide sourceChainId])
  | .setAnchorDelay sourceChainId delay =>
    Evm.AdminTimelock.timelockedUnless P (c.message N)
      (s.delayOf (wide sourceChainId) ≤ delay.toNat)
      (Evm.RootAnchor.brakeKey P 0x5e0694d0 [wide sourceChainId])
  | .setMonotonic monotonic =>
    Evm.AdminTimelock.timelockedUnless P (c.message N) monotonic
      (Evm.RootAnchor.brakeKey P 0x9a2a2cad [])
  | _ => pure ()

/-- The gate of a setter on Soroban, as the setter asks it. -/
def sorobanGate (t : RootAnchor.State) (admin : Address) (c : AnchorAsked π) :
    Tx Fault Timelock Unit :=
  match c.call with
  | .setSigners signers threshold =>
    Timelock.gate H (c.env N) admin "set_signers"
      [.addresses (signers.map N.soroban), .u32 threshold]
  | .resetLatestSeq sourceChainId seq =>
    Timelock.gateUnless H (c.env N) admin (t.notary.getLatestSeq sourceChainId ≤ seq.toNat)
      "reset_latest_seq" [.u128 sourceChainId, .u64 seq]
      (H.brakeKey "reset_latest_seq" (.u128 sourceChainId))
  | .setAnchorDelay sourceChainId delay =>
    Timelock.gateUnless H (c.env N) admin (t.notary.getDelay sourceChainId ≤ delay.toNat)
      "set_anchor_delay" [.u128 sourceChainId, .u64 delay]
      (H.brakeKey "set_anchor_delay" (.u128 sourceChainId))
  | .setMonotonic monotonic =>
    Timelock.gateUnless H (c.env N) admin monotonic "set_monotonic" [.bool monotonic]
      (H.brakeKey "set_monotonic" .unit)
  | _ => pure ()

/-- What is promised of a call: the clock runs, the two timelocks give it one verdict, and the two
contracts keep one admin. -/
structure SameVerdict (s : Evm.RootAnchor) (t : RootAnchor.State) (c : AnchorAsked π) : Prop where
  positive : 0 < c.time.toNat
  gate : ∀ admin, t.admin = some admin →
    ((evmGate P N s c).Accepts s.access ↔ (sorobanGate H N t admin c).Accepts t.timelock)
  admin : ∀ access admin pendingAdmin timelock,
    c.call = .administered access admin pendingAdmin timelock →
      ∃ p, access.admin = N.evm p ∧ admin = N.soroban p

/-- A pause of a paused contract, or an unpause of a running one. -/
def Idle (s : Evm.RootAnchor) (c : AnchorAsked π) : Prop :=
  (c.call = .pause ∧ s.paused = true) ∨ (c.call = .unpause ∧ s.paused = false)

/-! ## What the two storages share -/

/-- One root's record on both chains. -/
structure RecordAlike (a : Evm.Anchor) (r : RootAnchor.AnchorRec) : Prop where
  ledgerSeq : a.ledgerSeq = r.ledgerSeq
  anchored : r.anchored = true ↔ a.anchoredAt ≠ 0
  anchoredAt : a.anchoredAt = r.anchoredAt
  approvals : a.approvals = r.approvals
  setEpoch : a.setEpoch = r.setEpoch
  gen : a.gen = r.gen

/-- Everything but the records and the admins. -/
structure SameRules (s : Evm.RootAnchor) (n : RootAnchor.Notary) : Prop where
  signers : ∃ l : List π, s.signers = l.map N.evm ∧ n.signers = l.map N.soroban
  enrolled : s.Enrolled
  threshold : s.threshold = n.threshold
  epoch : s.signerSetEpoch = n.setEpoch
  started : 0 < n.setEpoch
  monotonic : s.monotonic = n.monotonic
  delays : ∀ c, s.delayOf (wide c) = n.getDelay c
  latest : ∀ c, s.latestOf (wide c) = n.getLatestSeq c
  stamps : ∀ c root p, s.stamp (wide c, root) (N.evm p)
    = (n.getApprovalStamp (c, root) (N.soroban p)).getD 0

/-- The contracts hold the same, where `record` tells what each root's record is by now. -/
structure Midway (s : Evm.RootAnchor) (t : RootAnchor.State)
    (record : RootAnchor.RootKey → RootAnchor.AnchorRec) : Prop where
  initialized : t.initialized = true
  admin : ∃ p, s.access.admin = N.evm p ∧ t.admin = some (N.soroban p)
  paused : s.paused = t.paused
  rules : SameRules N s t.notary
  records : ∀ c root, RecordAlike (s.anchorOf (wide c, root)) (record (c, root))

/-- The contracts hold the same. -/
abbrev SameAnchor (s : Evm.RootAnchor) (t : RootAnchor.State) : Prop :=
  Midway N s t t.notary.recordOf

end Scripts

section Agreement

variable {π : Type} {P : Evm.Primitives} {H : Host} {N : Parties π} {c : AnchorAsked π}
  {s : Evm.RootAnchor} {t : RootAnchor.State} {n : RootAnchor.Notary}
  {record : RootAnchor.RootKey → RootAnchor.AnchorRec}

theorem SameAnchor.adminOf_runs (h : SameAnchor N s t) :
    ∃ p, s.access.admin = N.evm p ∧ t.admin = some (N.soroban p) ∧
      RootAnchor.adminOf t = .ok (N.soroban p, t) := by
  obtain ⟨p, hevm, hsoroban⟩ := h.admin
  refine ⟨p, hevm, hsoroban, ?_⟩
  simp only [RootAnchor.adminOf, Tx.bind_read_ok, Tx.bind_require_ok, Tx.view_ok,
    RootAnchor.getAdmin, Check.expectTrap_ok]
  exact ⟨h.initialized, _, hsoroban, rfl⟩

/-- Only the admin passes, on both, and nothing is touched. -/
theorem requireAdmin_agrees (h : SameAnchor N s t) :
    Tx.Agrees (fun _ s' _ t' => s' = s ∧ t' = t)
      (Evm.RootAnchor.onAccess (Evm.AdminTimelock.onlyAdmin (c.message N)))
      (RootAnchor.requireAdmin (c.env N)) s t := by
  obtain ⟨p, hevm, -, hruns⟩ := h.adminOf_runs
  have hleft : ∀ r, Evm.RootAnchor.onAccess (Evm.AdminTimelock.onlyAdmin (c.message N)) s = .ok r
      ↔ c.caller = p ∧ r = ((), s) := by
    intro r
    rw [Tx.zoom_ok]
    simp only [Evm.AdminTimelock.onlyAdmin_ok, Prod.mk.injEq]
    have hsender : (c.message N).sender = s.access.admin ↔ c.caller = p := by
      rw [hevm]
      exact N.evm_inj.eq_iff
    rw [hsender]
    constructor
    · rintro ⟨_, _, ⟨hp, -, rfl⟩, rfl⟩
      exact ⟨hp, rfl⟩
    · rintro ⟨hp, rfl⟩
      exact ⟨(), _, ⟨hp, trivial, rfl⟩, rfl⟩
  have hright : ∀ r, RootAnchor.requireAdmin (c.env N) t = .ok r
      ↔ c.caller = p ∧ r = (N.soroban p, t) := by
    intro r
    have hauth : (c.env N).authorized (N.soroban p) = true ↔ c.caller = p := by
      show decide (N.soroban p = N.soroban c.caller) = true ↔ _
      rw [decide_eq_true_iff, N.soroban_inj.eq_iff, eq_comm]
    rw [RootAnchor.requireAdmin, Tx.bind_ok]
    simp only [hruns, Except.ok.injEq, Prod.mk.injEq, requireAuth, Tx.bind_demand_ok, Tx.pure_ok]
    constructor
    · rintro ⟨_, _, ⟨rfl, rfl⟩, hp, rfl⟩
      exact ⟨hauth.mp hp, rfl⟩
    · rintro ⟨hp, rfl⟩
      exact ⟨_, _, ⟨rfl, rfl⟩, hauth.mpr hp, rfl⟩
  exact Tx.Agrees.of_iff hleft hright Iff.rfl fun _ => ⟨rfl, rfl⟩

/-- A gated setter: one verdict of the two timelocks, and then the same. -/
theorem gated_agrees (h : SameAnchor N s t) {x : Tx Evm.AdminError Evm.AdminTimelock Unit}
    {y : Tx Fault Timelock Unit} (hverdict : x.Accepts s.access ↔ y.Accepts t.timelock)
    (hadmin : ∀ access, x s.access = .ok ((), access) → access.admin = s.access.admin)
    {f : Unit → Tx Evm.RootAnchorError Evm.RootAnchor Unit}
    {g : Unit → Tx RootAnchor.RootAnchorError RootAnchor.State Unit}
    (hrest : ∀ access timelock, SameAnchor N { s with access } { t with timelock } →
      Tx.Agrees (Tx.Leaving (SameAnchor N)) (f ()) (g ()) { s with access } { t with timelock }) :
    Tx.Agrees (Tx.Leaving (SameAnchor N)) (Evm.RootAnchor.onAccess x >>= f)
      (RootAnchor.onTimelock y >>= g) s t := by
  by_cases hx : x.Accepts s.access
  · obtain ⟨⟨⟨⟩, timelock⟩, hy⟩ := hverdict.mp hx
    obtain ⟨⟨⟨⟩, access⟩, hx⟩ := hx
    apply Tx.Agrees.left (Tx.zoom_ok.mpr ⟨(), access, hx, rfl⟩)
    apply Tx.Agrees.right (Tx.zoom_ok.mpr ⟨(), timelock, hy, rfl⟩)
    apply hrest
    obtain ⟨p, hevm, hsoroban⟩ := h.admin
    exact ⟨h.initialized, ⟨p, (hadmin access hx).trans hevm, hsoroban⟩, h.paused,
      { h.rules with }, h.records⟩
  · apply Tx.Agrees.of_refused
    · rintro ⟨r, hr⟩
      obtain ⟨_, access, hok, -⟩ := Tx.bind_zoom_ok.mp hr
      exact hx ⟨_, hok⟩
    · rintro ⟨r, hr⟩
      obtain ⟨_, timelock, hok, -⟩ := Tx.bind_zoom_ok.mp hr
      exact hx (hverdict.mpr ⟨_, hok⟩)

/-! ## One gated setter on both chains -/

theorem setMonotonic_agrees (h : SameAnchor N s t) {monotonic : Bool}
    (hcall : c.call = .setMonotonic monotonic) (hsame : SameVerdict P H N s t c) :
    Tx.Agrees (Tx.Leaving (SameAnchor N)) (Evm.RootAnchor.setMonotonic P (c.message N) monotonic)
      (RootAnchor.setMonotonic H (c.env N) monotonic) s t := by
  unfold Evm.RootAnchor.setMonotonic RootAnchor.setMonotonic
  obtain ⟨p, -, hadmin, hruns⟩ := h.adminOf_runs
  apply Tx.Agrees.right hruns
  have hverdict := hsame.gate _ hadmin
  simp only [evmGate, sorobanGate, hcall] at hverdict
  apply gated_agrees h hverdict fun _ => Evm.AdminTimelock.timelockedUnless_admin
  intro access timelock h
  apply Tx.Agrees.modify_right (x := Tx.modify _)
  exact ⟨h.initialized, h.admin, h.paused, { h.rules with monotonic := rfl }, h.records⟩

theorem getD_set {K : Type} [DecidableEq K] {m : Map K ℕ} {k k' : K} {v : ℕ} :
    ((m.set k v).get? k').getD 0 = if k' = k then v else (m.get? k').getD 0 := by
  rw [Map.get?_set]
  split <;> rfl

/-- A number set for one chain on both. -/
theorem routes_set {m : Map Evm.Uint256 ℕ} {m' : Map U128 ℕ}
    (h : ∀ c, (m.get? (wide c)).getD 0 = (m'.get? c).getD 0) (chainId : U128) (v : ℕ) (c : U128) :
    ((m.set (wide chainId) v).get? (wide c)).getD 0 = ((m'.set chainId v).get? c).getD 0 := by
  rw [getD_set, getD_set, h]
  by_cases hc : c = chainId
  · rw [if_pos hc, if_pos (congrArg wide hc)]
  · rw [if_neg hc, if_neg fun heq => hc (wide_inj heq)]

theorem resetLatestSeq_agrees (h : SameAnchor N s t) {sourceChainId : U128} {seq : U64}
    (hcall : c.call = .resetLatestSeq sourceChainId seq) (hsame : SameVerdict P H N s t c) :
    Tx.Agrees (Tx.Leaving (SameAnchor N))
      (Evm.RootAnchor.resetLatestSeq P (c.message N) (wide sourceChainId) seq)
      (RootAnchor.resetLatestSeq H (c.env N) sourceChainId seq) s t := by
  unfold Evm.RootAnchor.resetLatestSeq RootAnchor.resetLatestSeq
  obtain ⟨p, -, hadmin, hruns⟩ := h.adminOf_runs
  apply Tx.Agrees.right hruns
  apply Tx.Agrees.read
  have hverdict := hsame.gate _ hadmin
  simp only [evmGate, sorobanGate, hcall] at hverdict
  apply gated_agrees h hverdict fun _ => Evm.AdminTimelock.timelockedUnless_admin
  intro access timelock h
  apply Tx.Agrees.modify_right (x := Tx.modify _)
  exact ⟨h.initialized, h.admin, h.paused,
    { h.rules with latest := routes_set h.rules.latest sourceChainId seq.toNat }, h.records⟩

theorem setAnchorDelay_agrees (h : SameAnchor N s t) {sourceChainId : U128} {delay : U64}
    (hcall : c.call = .setAnchorDelay sourceChainId delay) (hsame : SameVerdict P H N s t c) :
    Tx.Agrees (Tx.Leaving (SameAnchor N))
      (Evm.RootAnchor.setAnchorDelay P (c.message N) (wide sourceChainId) delay)
      (RootAnchor.setAnchorDelay H (c.env N) sourceChainId delay) s t := by
  unfold Evm.RootAnchor.setAnchorDelay RootAnchor.setAnchorDelay
  obtain ⟨p, -, hadmin, hruns⟩ := h.adminOf_runs
  apply Tx.Agrees.right hruns
  apply Tx.Agrees.read
  have hverdict := hsame.gate _ hadmin
  simp only [evmGate, sorobanGate, hcall] at hverdict
  apply gated_agrees h hverdict fun _ => Evm.AdminTimelock.timelockedUnless_admin
  intro access timelock h
  apply Tx.Agrees.require Iff.rfl
  intro _
  apply Tx.Agrees.modify_right (x := Tx.modify _)
  exact ⟨h.initialized, h.admin, h.paused,
    { h.rules with delays := routes_set h.rules.delays sourceChainId delay.toNat }, h.records⟩

theorem not_zero_mem {l : List π} : (0 : Evm.EvmAddress) ∉ l.map N.evm := by
  intro hmem
  obtain ⟨p, -, hp⟩ := List.mem_map.mp hmem
  exact N.evm_ne_zero p hp

/-- What a rotation leaves on Soroban. -/
def rotatedOnSoroban (t : RootAnchor.State) (signers : List Address) (threshold : U32) :
    RootAnchor.State := { t with
  notary := { t.notary with
    signers
    threshold := threshold.toNat
    setEpoch := t.notary.setEpoch + 1 }
  published := .signersSet signers threshold.toNat (t.notary.setEpoch + 1) :: t.published }

theorem applySigners_iff {signers : List Address} {threshold : U32} {r : Unit × RootAnchor.State} :
    RootAnchor.applySigners signers threshold t = .ok r ↔
      ((threshold.toNat ≠ 0 ∧ threshold.toNat ≤ signers.length) ∧ signers.Nodup ∧
        t.notary.setEpoch + 1 < 2 ^ 32) ∧ r = ((), rotatedOnSoroban t signers threshold) := by
  simp only [RootAnchor.applySigners, Tx.bind_require_ok, Tx.bind_read_ok, Tx.bind_lift_ok,
    Tx.bind_modify_ok, Tx.modify_ok, Check.add_ok]
  constructor
  · rintro ⟨hthreshold, hnodup, _, ⟨hfits, rfl⟩, rfl⟩
    exact ⟨⟨hthreshold, hnodup, hfits⟩, rfl⟩
  · rintro ⟨⟨hthreshold, hnodup, hfits⟩, rfl⟩
    exact ⟨hthreshold, hnodup, _, ⟨hfits, rfl⟩, rfl⟩

/-- A new signer set: the same lists are refused, and the same epochs begin. -/
theorem rotate_agrees (h : SameAnchor N s t) (signers : List π) (threshold : U32) :
    Tx.Agrees (Tx.Leaving (SameAnchor N))
      (Evm.RootAnchor.setSignerSet (signers.map N.evm) threshold)
      (RootAnchor.applySigners (signers.map N.soroban) threshold) s t := by
  apply Tx.Agrees.of_iff (fun r => Evm.RootAnchor.setSignerSet_ok h.rules.enrolled)
    (fun r => applySigners_iff)
  · rw [h.rules.epoch, List.length_map, List.length_map, List.nodup_map_iff N.evm_inj,
      List.nodup_map_iff N.soroban_inj]
    simp only [not_zero_mem, not_false_eq_true, true_and]
  · intro _
    exact ⟨h.initialized, h.admin, h.paused,
      { h.rules with
        signers := ⟨signers, rfl, rfl⟩
        enrolled := Evm.RootAnchor.rotated_enrolled h.rules.enrolled
        threshold := rfl
        epoch := congrArg (· + 1) h.rules.epoch
        started := Nat.succ_pos _ }, h.records⟩

theorem setSigners_agrees (h : SameAnchor N s t) {signers : List π} {threshold : U32}
    (hcall : c.call = .setSigners signers threshold) (hsame : SameVerdict P H N s t c) :
    Tx.Agrees (Tx.Leaving (SameAnchor N))
      (Evm.RootAnchor.setSigners P (c.message N) (signers.map N.evm) threshold)
      (RootAnchor.setSigners H (c.env N) (signers.map N.soroban) threshold) s t := by
  unfold Evm.RootAnchor.setSigners RootAnchor.setSigners
  obtain ⟨p, -, hadmin, hruns⟩ := h.adminOf_runs
  apply Tx.Agrees.right hruns
  have hverdict := hsame.gate _ hadmin
  simp only [evmGate, sorobanGate, hcall] at hverdict
  apply gated_agrees h hverdict fun _ => Evm.AdminTimelock.timelocked_admin
  intro access timelock h
  exact rotate_agrees h signers threshold

/-! ## One record -/

/-- An edit of one record: on EVM it is made in place. -/
theorem Midway.edited (h : Midway N s t record) (chainId : U128) (root : BytesN32)
    {a : Evm.Anchor} {r : RootAnchor.AnchorRec} (hr : RecordAlike a r) :
    Midway N { s with anchors := s.anchors.set (wide chainId, root) a } t
      (Function.update record (chainId, root) r) where
  initialized := h.initialized
  admin := h.admin
  paused := h.paused
  rules := { h.rules with }
  records c' root' := by
    unfold Evm.RootAnchor.anchorOf
    by_cases hkey : (c', root') = (chainId, root)
    · obtain ⟨rfl, rfl⟩ := Prod.mk.inj hkey
      rw [Map.get?_set_self, Function.update_self]
      exact hr
    · have hwide : (wide c', root') ≠ (wide chainId, root) := by
        intro heq
        obtain ⟨hc, rfl⟩ := Prod.mk.inj heq
        exact hkey (by rw [wide_inj hc])
      rw [Map.get?_set_ne hwide, Function.update_of_ne hkey]
      exact h.records c' root'

theorem Midway.publish (h : Midway N s t record) {published : List RootAnchor.AnchorEvent} :
    Midway N s { t with published } record :=
  ⟨h.initialized, h.admin, h.paused, h.rules, h.records⟩

/-- What Soroban stores at the end is what the edits made of the record. -/
theorem Midway.stored {key : RootAnchor.RootKey} {r : RootAnchor.AnchorRec}
    (h : Midway N s t (Function.update t.notary.recordOf key r)) :
    SameAnchor N s { t with
      notary := { t.notary with anchors := t.notary.anchors.set key r } } where
  initialized := h.initialized
  admin := h.admin
  paused := h.paused
  rules := { h.rules with }
  records c' root' := by
    have hstored : ({ t.notary with anchors := t.notary.anchors.set key r } :
        RootAnchor.Notary).recordOf (c', root')
          = Function.update t.notary.recordOf key r (c', root') := by
      unfold RootAnchor.Notary.recordOf RootAnchor.Notary.getAnchor
      by_cases hkey : (c', root') = key
      · rw [hkey, Map.get?_set_self, Function.update_self]
        rfl
      · rw [Map.get?_set_ne hkey, Function.update_of_ne hkey]
    rw [hstored]
    exact h.records c' root'

theorem revokeAnchor_agrees (h : SameAnchor N s t) {sourceChainId : U128} {root : BytesN32} :
    Tx.Agrees (Tx.Leaving (SameAnchor N))
      (Evm.RootAnchor.revokeAnchor (c.message N) (wide sourceChainId) root)
      (RootAnchor.revokeAnchor (c.env N) sourceChainId root) s t := by
  unfold Evm.RootAnchor.revokeAnchor RootAnchor.revokeAnchor
  apply (requireAdmin_agrees h).bind
  rintro ⟨⟩ s' admin t' - - ⟨rfl, rfl⟩
  apply Tx.Agrees.read
  have halike := h.records sourceChainId root
  cases hrecord : t'.notary.getAnchor (sourceChainId, root) with
  | none =>
    unfold RootAnchor.Notary.recordOf at halike
    rw [hrecord] at halike
    apply Tx.Agrees.of_refused
    · rintro ⟨r, hr⟩
      refine (Tx.bind_require_ok.mp hr).1 ⟨halike.approvals, ?_⟩
      rw [halike.anchoredAt]
      rfl
    · rintro ⟨r, hr⟩
      obtain ⟨_, hsome, -⟩ := Tx.bind_expect_ok.mp hr
      cases hsome
  | some record =>
    unfold RootAnchor.Notary.recordOf at halike
    rw [hrecord, Option.getD_some] at halike
    apply Tx.Agrees.expect_right rfl
    apply Tx.Agrees.require
    · rw [halike.anchored, halike.approvals]
      tauto
    · intro _
      rw [halike.gen]
      apply Tx.Agrees.lift_same fun gen => by rw [Check.add_ok, Check.add_ok]
      intro gen _
      apply Tx.Agrees.modify_right (x := Tx.modify _)
      have hcleared : RecordAlike
          { s'.anchorOf (wide sourceChainId, root) with
            gen, approvals := 0, anchoredAt := 0, ledgerSeq := 0 }
          { record with
            gen, approvals := 0, anchored := false, anchoredAt := 0, ledgerSeq := 0 } :=
        ⟨rfl, by simp, rfl, rfl, halike.setEpoch, rfl⟩
      exact Tx.Agrees.modify (h.edited sourceChainId root hcleared).stored.publish

/-! ## An approval -/

/-- The stamp of a standing signer set is never zero, so an unset stamp matches none. -/
theorem stampOf_ne_zero {setEpoch gen : ℕ} (h : 0 < setEpoch) :
    RootAnchor.stampOf setEpoch gen ≠ 0 := by
  unfold RootAnchor.stampOf
  intro hzero
  have hshift := (Nat.or_eq_zero_iff.mp hzero).1
  rw [Nat.shiftLeft_eq] at hshift
  omega

/-- Halfway through an approval from `t₀`: the EVM record has been edited so far, the Soroban one is
not stored yet. -/
def Pending (N : Parties π) (t₀ : RootAnchor.State) (key : RootAnchor.RootKey)
    (s : Evm.RootAnchor) (r : RootAnchor.AnchorRec) (t : RootAnchor.State) : Prop :=
  t.notary.anchors = t₀.notary.anchors ∧ r.setEpoch = t.notary.setEpoch ∧
    Midway N s t (Function.update t₀.notary.recordOf key r)

variable {t₀ : RootAnchor.State} {chainId : U128} {root : BytesN32} {r : RootAnchor.AnchorRec}

theorem Pending.alike (h : Pending N t₀ (chainId, root) s r t) :
    RecordAlike (s.anchorOf (wide chainId, root)) r := by
  have halike := h.2.2.records chainId root
  rw [Function.update_self] at halike
  exact halike

theorem Pending.edited (h : Pending N t₀ (chainId, root) s r t) {a : Evm.Anchor}
    {r' : RootAnchor.AnchorRec} (halike : RecordAlike a r') (hepoch : r'.setEpoch = r.setEpoch) :
    Pending N t₀ (chainId, root)
      { s with anchors := s.anchors.set (wide chainId, root) a } r' t := by
  refine ⟨h.1, hepoch.trans h.2.1, ?_⟩
  have hedited := h.2.2.edited chainId root halike
  rw [Function.update_idem] at hedited
  exact hedited

theorem startEpoch_runs (h : SameAnchor N s t) :
    ∃ s', Evm.RootAnchor.startEpoch (wide chainId, root) s = .ok ((), s') ∧
      Pending N t (chainId, root) s'
        ((t.notary.recordOf (chainId, root)).inEpoch t.notary.setEpoch) t := by
  have halike := h.records chainId root
  unfold Evm.RootAnchor.startEpoch RootAnchor.AnchorRec.inEpoch
  simp only [Tx.bind_read_ok, Tx.ite_apply, halike.setEpoch, h.rules.epoch]
  split
  · have hstarted : RecordAlike
        { s.anchorOf (wide chainId, root) with setEpoch := t.notary.setEpoch, approvals := 0 }
        { t.notary.recordOf (chainId, root) with
          setEpoch := t.notary.setEpoch, approvals := 0 } :=
      ⟨halike.ledgerSeq, halike.anchored, halike.anchoredAt, rfl, rfl, halike.gen⟩
    exact ⟨_, rfl, rfl, rfl, h.edited chainId root hstarted⟩
  · next hepoch =>
    refine ⟨s, rfl, rfl, not_not.mp hepoch, ?_⟩
    rw [Function.update_eq_self]
    exact h

theorem nameSeq_agrees (h : Pending N t (chainId, root) s r t) {latest ledgerSeq : ℕ} :
    Tx.Agrees (fun _ s' r' t' => t' = t ∧ Pending N t (chainId, root) s' r' t)
      (Evm.RootAnchor.nameSeq (wide chainId, root) latest ledgerSeq)
      (Tx.lift (r.named t.notary.monotonic latest ledgerSeq)) s t := by
  have halike := h.alike
  unfold Evm.RootAnchor.nameSeq RootAnchor.AnchorRec.named
  apply Tx.Agrees.read_left
  rw [halike.approvals, halike.ledgerSeq, h.2.2.rules.monotonic]
  by_cases hfirst : r.approvals = 0
  · rw [if_pos hfirst, if_pos hfirst]
    by_cases hlow : t.notary.monotonic = true ∧ ledgerSeq ≤ latest
    · rw [if_pos hlow]
      apply Tx.Agrees.of_refused
      · rintro ⟨_, hok⟩
        exact (Tx.bind_require_ok.mp hok).1 hlow
      · rintro ⟨_, hok⟩
        obtain ⟨_, hnamed, -⟩ := Tx.lift_ok.mp hok
        cases hnamed
    · rw [if_neg hlow]
      have hnamed : RecordAlike { s.anchorOf (wide chainId, root) with ledgerSeq }
          { r with ledgerSeq } :=
        ⟨rfl, halike.anchored, halike.anchoredAt, halike.approvals, halike.setEpoch, halike.gen⟩
      exact Tx.Agrees.of_ok (Tx.bind_require_ok.mpr ⟨hlow, Tx.modify_ok.mpr rfl⟩)
        (Tx.lift_ok.mpr ⟨_, rfl, rfl⟩) ⟨rfl, h.edited hnamed rfl⟩
  · rw [if_neg hfirst, if_neg hfirst]
    by_cases hseq : ledgerSeq = r.ledgerSeq
    · rw [if_neg (not_not.mpr hseq)]
      exact Tx.Agrees.of_ok (Tx.require_ok.mpr ⟨hseq, rfl⟩) (Tx.lift_ok.mpr ⟨_, rfl, rfl⟩)
        ⟨rfl, h⟩
    · rw [if_pos hseq]
      apply Tx.Agrees.of_refused
      · rintro ⟨_, hok⟩
        exact hseq (Tx.require_ok.mp hok).1
      · rintro ⟨_, hok⟩
        obtain ⟨_, hnamed, -⟩ := Tx.lift_ok.mp hok
        cases hnamed

/-- The stamp of a signer's approval, recorded on both. -/
theorem Pending.stamped (h : Pending N t₀ (chainId, root) s r t) (p : π) (stamp : ℕ) :
    Pending N t₀ (chainId, root)
      { s with approvalStamps := s.approvalStamps.set ((wide chainId, root), N.evm p) stamp } r
      { t with notary := { t.notary with
        approvalStamps := t.notary.approvalStamps.set ((chainId, root), N.soroban p) stamp } } := by
  refine ⟨h.1, h.2.1, h.2.2.initialized, h.2.2.admin, h.2.2.paused,
    { h.2.2.rules with stamps := ?_ }, h.2.2.records⟩
  intro c' root' p'
  unfold Evm.RootAnchor.stamp RootAnchor.Notary.getApprovalStamp
  rw [getD_set, getD_set]
  have hkey : ((wide c', root'), N.evm p') = ((wide chainId, root), N.evm p) ↔
      ((c', root'), N.soroban p') = ((chainId, root), N.soroban p) := by
    simp only [Prod.mk.injEq, N.evm_inj.eq_iff, N.soroban_inj.eq_iff]
    exact and_congr_left fun _ => and_congr_left fun _ => ⟨wide_inj, congrArg wide⟩
  by_cases hsame : ((c', root'), N.soroban p') = ((chainId, root), N.soroban p)
  · rw [if_pos hsame, if_pos (hkey.mpr hsame)]
  · rw [if_neg hsame, if_neg (hkey.not.mpr hsame)]
    exact h.2.2.rules.stamps c' root' p'

theorem countApproval_agrees (h : Pending N t₀ (chainId, root) s r t) :
    Tx.Agrees (fun _ s' r' t' => Pending N t₀ (chainId, root) s' r' t')
      (Evm.RootAnchor.countApproval (c.message N) (wide chainId, root))
      (RootAnchor.countApproval (chainId, root) (N.soroban c.caller) r) s t := by
  have halike := h.alike
  unfold Evm.RootAnchor.countApproval RootAnchor.countApproval
  apply Tx.Agrees.read
  dsimp only
  rw [halike.setEpoch, halike.gen, halike.approvals]
  have hstamp : s.stamp (wide chainId, root) (c.message N).sender
      = (t.notary.getApprovalStamp (chainId, root) (N.soroban c.caller)).getD 0 :=
    h.2.2.rules.stamps chainId root c.caller
  have hnonzero : RootAnchor.stampOf r.setEpoch r.gen ≠ 0 :=
    stampOf_ne_zero (h.2.1 ▸ h.2.2.rules.started)
  apply Tx.Agrees.ite
  · rw [hstamp]
    show ¬_ = RootAnchor.stampOf r.setEpoch r.gen ↔ _
    cases hget : t.notary.getApprovalStamp (chainId, root) (N.soroban c.caller) with
    | none => simp [Ne.symm hnonzero]
    | some stamp => simp
  · intro _
    apply Tx.Agrees.modify_left
    apply Tx.Agrees.modify_right
    have hstamped := h.stamped c.caller (RootAnchor.stampOf r.setEpoch r.gen)
    apply Tx.Agrees.lift_same fun approvals => by rw [Check.add_ok, Check.add_ok]
    intro approvals _
    apply Tx.Agrees.modify_right (x := Tx.modify _)
    have hcounted : RecordAlike { s.anchorOf (wide chainId, root) with approvals }
        { r with approvals } :=
      ⟨halike.ledgerSeq, halike.anchored, halike.anchoredAt, rfl, halike.setEpoch, halike.gen⟩
    have hedited := hstamped.edited hcounted rfl
    exact ⟨hedited.1, hedited.2.1, hedited.2.2.publish⟩
  · intro _
    exact h

/-- The latest sequence of a chain, raised on both. -/
theorem Midway.raised (h : Midway N s t record) (v : ℕ) (p : Prop) [Decidable p] :
    Midway N { s with latestSeq := if p then s.latestSeq.set (wide chainId) v else s.latestSeq }
      { t with notary := { t.notary with
        latestSeqs := if p then t.notary.latestSeqs.set chainId v else t.notary.latestSeqs } }
      record := by
  refine ⟨h.initialized, h.admin, h.paused, { h.rules with latest := ?_ }, h.records⟩
  by_cases hp : p
  · rw [if_pos hp, if_pos hp]
    exact routes_set h.rules.latest chainId v
  · rw [if_neg hp, if_neg hp]
    exact h.rules.latest

theorem reachThreshold_agrees (h : Pending N t₀ (chainId, root) s r t) {latest : ℕ}
    (hpositive : 0 < c.time.toNat) :
    Tx.Agrees (fun _ s' r' t' => Pending N t₀ (chainId, root) s' r' t')
      (Evm.RootAnchor.reachThreshold (c.message N) (wide chainId, root) latest)
      (RootAnchor.reachThreshold (c.env N) (chainId, root) latest r) s t := by
  have halike := h.alike
  unfold Evm.RootAnchor.reachThreshold RootAnchor.reachThreshold
  apply Tx.Agrees.read
  dsimp only
  have hnow : (c.message N).timestamp.toNat % 2 ^ 64 = (c.env N).now := by
    rw [c.message_now N]
    exact Nat.mod_eq_of_lt (c.env N).now_lt
  rw [halike.approvals, halike.ledgerSeq, h.2.2.rules.threshold, h.2.2.rules.monotonic, hnow]
  apply Tx.Agrees.ite Iff.rfl
  · intro _
    apply Tx.Agrees.require Iff.rfl
    intro _
    apply Tx.Agrees.modify_left
    apply Tx.Agrees.modify_right (x := Tx.modify _)
    apply Tx.Agrees.modify_right (x := Tx.modify _)
    have hreached : RecordAlike
        { s.anchorOf (wide chainId, root) with anchoredAt := (c.env N).now }
        { r with anchored := true, anchoredAt := (c.env N).now } :=
      ⟨halike.ledgerSeq, iff_of_true rfl (Nat.pos_iff_ne_zero.mp hpositive), rfl,
        halike.approvals, halike.setEpoch, halike.gen⟩
    have hedited := h.edited hreached rfl
    exact ⟨hedited.1, hedited.2.1, (hedited.2.2.raised r.ledgerSeq _).publish⟩
  · intro _
    exact h

/-- One approval on both chains: a refused one leaves no trace of its edits. -/
theorem anchor_agrees (h : SameAnchor N s t) {ledgerSeq : U64} (hpositive : 0 < c.time.toNat) :
    Tx.Agrees (Tx.Leaving (SameAnchor N))
      (Evm.RootAnchor.anchor (c.message N) (wide chainId) root ledgerSeq)
      (RootAnchor.anchor (c.env N) (N.soroban c.caller) chainId root ledgerSeq) s t := by
  have halike := h.records chainId root
  unfold Evm.RootAnchor.anchor RootAnchor.anchor
  apply Tx.Agrees.read
  apply Tx.Agrees.right (Tx.require_ok.mpr ⟨h.initialized, rfl⟩)
  apply Tx.Agrees.require (by rw [h.paused])
  intro _
  apply Tx.Agrees.right (Tx.demand_ok.mpr ⟨decide_eq_true rfl, rfl⟩)
  apply Tx.Agrees.require
  · obtain ⟨l, hevm, hsoroban⟩ := h.rules.signers
    rw [h.rules.enrolled, hevm, hsoroban]
    show N.evm c.caller ∈ l.map N.evm ↔ N.soroban c.caller ∈ l.map N.soroban
    rw [List.mem_map_of_injective N.evm_inj, List.mem_map_of_injective N.soroban_inj]
  · intro _
    apply Tx.Agrees.ite halike.anchored.symm
    · intro _
      exact h
    · intro _
      obtain ⟨s', hruns, hpending⟩ : ∃ s',
          Evm.RootAnchor.startEpoch (wide chainId, root) s = .ok ((), s') ∧
            Pending N t (chainId, root) s'
              ((t.notary.recordOf (chainId, root)).inEpoch t.notary.setEpoch) t :=
        startEpoch_runs h
      apply Tx.Agrees.left hruns
      rw [h.rules.latest]
      apply (nameSeq_agrees hpending).bind
      rintro ⟨⟩ s₁ named t₁ - - ⟨rfl, hnamed⟩
      apply (countApproval_agrees hnamed).bind
      rintro ⟨⟩ s₂ counted t₂ - - hcounted
      apply (reachThreshold_agrees hcounted hpositive).then_right
      rintro ⟨⟩ s₃ reached t₃ ⟨hanchors, -, hreached⟩
      have hrecords : t₁.notary.recordOf = t₃.notary.recordOf := by
        funext key
        unfold RootAnchor.Notary.recordOf RootAnchor.Notary.getAnchor
        rw [hanchors]
      rw [hrecords] at hreached
      exact ⟨(), _, rfl, hreached.stored⟩

/-! ## The pause -/

/-- The pause flag, set or cleared by the admin: EVM refuses an idle one. -/
theorem pause_agrees (h : SameAnchor N s t) (hpaused : s.paused = false) :
    Tx.Agrees (Tx.Leaving (SameAnchor N)) (Evm.RootAnchor.pause (c.message N))
      (RootAnchor.pause (c.env N)) s t := by
  unfold Evm.RootAnchor.pause RootAnchor.pause
  apply (requireAdmin_agrees h).bind
  rintro ⟨⟩ s' admin t' - - ⟨rfl, rfl⟩
  apply Tx.Agrees.read_left
  apply Tx.Agrees.left (Tx.require_ok.mpr ⟨hpaused, rfl⟩)
  apply Tx.Agrees.modify_right (x := Tx.modify _)
  exact ⟨h.initialized, h.admin, rfl, { h.rules with }, h.records⟩

theorem unpause_agrees (h : SameAnchor N s t) (hpaused : s.paused = true) :
    Tx.Agrees (Tx.Leaving (SameAnchor N)) (Evm.RootAnchor.unpause (c.message N))
      (RootAnchor.unpause (c.env N)) s t := by
  unfold Evm.RootAnchor.unpause RootAnchor.unpause
  apply (requireAdmin_agrees h).bind
  rintro ⟨⟩ s' admin t' - - ⟨rfl, rfl⟩
  apply Tx.Agrees.read_left
  apply Tx.Agrees.left (Tx.require_ok.mpr ⟨hpaused, rfl⟩)
  apply Tx.Agrees.modify_right (x := Tx.modify _)
  exact ⟨h.initialized, h.admin, rfl, { h.rules with }, h.records⟩

/-- Every call but an idle pause: both accept it and hold the same after, or both refuse it. -/
theorem call_agrees (h : SameAnchor N s t) (hsame : SameVerdict P H N s t c) (hidle : ¬Idle s c) :
    Tx.Agrees (Tx.Leaving (SameAnchor N)) (anchorOnEvm P N c) (anchorOnSoroban H N c) s t := by
  unfold anchorOnEvm anchorOnSoroban
  cases hcall : c.call with
  | anchor sourceChainId root ledgerSeq => exact anchor_agrees h hsame.positive
  | setSigners signers threshold => exact setSigners_agrees h hcall hsame
  | revokeAnchor sourceChainId root => exact revokeAnchor_agrees h
  | resetLatestSeq sourceChainId seq => exact resetLatestSeq_agrees h hcall hsame
  | setAnchorDelay sourceChainId delay => exact setAnchorDelay_agrees h hcall hsame
  | setMonotonic monotonic => exact setMonotonic_agrees h hcall hsame
  | pause =>
    apply pause_agrees h
    rw [← Bool.not_eq_true]
    exact fun hpaused => hidle (.inl ⟨hcall, hpaused⟩)
  | unpause =>
    apply unpause_agrees h
    rw [← Bool.not_eq_false]
    exact fun hpaused => hidle (.inr ⟨hcall, hpaused⟩)
  | administered access admin pendingAdmin timelock =>
    obtain ⟨p, hevm, hsoroban⟩ := hsame.admin access admin pendingAdmin timelock hcall
    exact Tx.Agrees.modify ⟨h.initialized, ⟨p, hevm, congrArg some hsoroban⟩, h.paused,
      { h.rules with }, h.records⟩

/-! ## Whole scripts -/

/-- An idle pause is refused on EVM, and changes nothing on Soroban but what is published. -/
theorem idle_refused (h : SameAnchor N s t) (hidle : Idle s c) :
    ¬(anchorOnEvm P N c).Accepts s ∧
      SameAnchor N ((anchorOnEvm P N c).after s) ((anchorOnSoroban H N c).after t) := by
  obtain ⟨p, -, -, hruns⟩ := h.adminOf_runs
  have hrefused : ¬(anchorOnEvm P N c).Accepts s := by
    rintro ⟨r, hr⟩
    unfold anchorOnEvm at hr
    rcases hidle with ⟨hcall, hpaused⟩ | ⟨hcall, hpaused⟩ <;> rw [hcall] at hr
    · obtain ⟨_, access, -, hrest⟩ := Tx.bind_zoom_ok.mp hr
      exact Bool.noConfusion (hpaused.symm.trans (Tx.bind_require_ok.mp hrest).1)
    · obtain ⟨_, access, -, hrest⟩ := Tx.bind_zoom_ok.mp hr
      exact Bool.noConfusion (hpaused.symm.trans (Tx.bind_require_ok.mp hrest).1)
  have hevm : (anchorOnEvm P N c).after s = s := by
    unfold Tx.after
    cases hx : anchorOnEvm P N c s with
    | ok r => exact absurd ⟨r, hx⟩ hrefused
    | error e => rfl
  refine ⟨hrefused, ?_⟩
  rw [hevm]
  unfold Tx.after
  cases hy : anchorOnSoroban H N c t with
  | error e => exact h
  | ok r =>
    unfold anchorOnSoroban at hy
    have hadmin : ∀ a t', RootAnchor.requireAdmin (c.env N) t = .ok (a, t') → t' = t := by
      intro a t' ok
      rw [RootAnchor.requireAdmin, Tx.bind_ok] at ok
      obtain ⟨_, _, hadminOf, ok⟩ := ok
      rw [hruns] at hadminOf
      cases hadminOf
      rw [requireAuth, Tx.bind_demand_ok, Tx.pure_ok] at ok
      exact (Prod.mk.inj ok.2).2
    rcases hidle with ⟨hcall, hpaused⟩ | ⟨hcall, hpaused⟩ <;> rw [hcall] at hy
    · obtain ⟨a, t', hauth, hrest⟩ := Tx.bind_ok.mp hy
      obtain rfl := hadmin a t' hauth
      rw [Tx.bind_modify_ok, Tx.modify_ok] at hrest
      rw [hrest]
      exact ⟨h.initialized, h.admin, hpaused, h.rules, h.records⟩
    · obtain ⟨a, t', hauth, hrest⟩ := Tx.bind_ok.mp hy
      obtain rfl := hadmin a t' hauth
      rw [Tx.bind_modify_ok, Tx.modify_ok] at hrest
      rw [hrest]
      exact ⟨h.initialized, h.admin, hpaused, h.rules, h.records⟩

theorem isAnchored_agrees (h : SameAnchor N s t) {msg : Evm.Message} {env : Env}
    (hnow : msg.timestamp.toNat = env.now) :
    Evm.RootAnchor.isAnchored msg (wide chainId) root s
      = RootAnchor.isAnchored env chainId root t := by
  have halike := h.records chainId root
  unfold Evm.RootAnchor.isAnchored RootAnchor.isAnchored
  rw [h.rules.delays, hnow]
  dsimp only
  cases hrecord : t.notary.getAnchor (chainId, root) with
  | none =>
    unfold RootAnchor.Notary.recordOf at halike
    rw [hrecord] at halike
    exact if_pos (.inl halike.anchoredAt)
  | some r =>
    unfold RootAnchor.Notary.recordOf at halike
    rw [hrecord, Option.getD_some] at halike
    have hflag := halike.anchored
    rw [halike.anchoredAt] at hflag ⊢
    by_cases hanchored : r.anchored = true
    · by_cases hlate : r.anchoredAt ≤ env.now
      · rw [if_neg (by simpa [not_or] using ⟨hflag.mp hanchored, hlate⟩)]
        simp [hanchored, hlate]
      · rw [if_pos (.inr (not_le.mp hlate))]
        simp [hlate]
    · rw [if_pos (.inl (not_not.mp (hflag.not.mp hanchored)))]
      simp [hanchored]

/-- Both start alike from one admin, one signer set and one threshold. -/
theorem started_alike {admin : π} {signers : List π} {threshold : U32} {s₀ : Evm.RootAnchor}
    {t₀ : RootAnchor.State}
    (hevm : Evm.RootAnchor.construct (N.evm admin) (signers.map N.evm) threshold .blank
      = .ok ((), s₀))
    (hsoroban : RootAnchor.initializeContract (N.soroban admin) (signers.map N.soroban) threshold
      .fresh = .ok ((), t₀)) : SameAnchor N s₀ t₀ := by
  rw [Evm.RootAnchor.construct, Tx.bind_require_ok, Tx.bind_modify_ok] at hevm
  have hblank : Evm.RootAnchor.Enrolled { Evm.RootAnchor.blank with
      access := .deployed (N.evm admin) } := by
    intro who
    simp [Evm.RootAnchor.signs, Evm.RootAnchor.blank]
  obtain ⟨-, hs₀⟩ := (Evm.RootAnchor.setSignerSet_ok hblank).mp hevm.2
  obtain rfl := (Prod.mk.inj hs₀).2
  rw [RootAnchor.initializeContract, Tx.bind_read_ok, Tx.bind_require_ok, Tx.bind_ok] at hsoroban
  obtain ⟨-, ⟨⟩, t₁, hrotate, hrest⟩ := hsoroban
  obtain ⟨-, ht₁⟩ := applySigners_iff.mp hrotate
  obtain rfl := (Prod.mk.inj ht₁).2
  rw [Tx.bind_modify_ok, Tx.modify_ok] at hrest
  obtain rfl := (Prod.mk.inj hrest).2
  exact {
    initialized := rfl
    admin := ⟨admin, rfl, rfl⟩
    paused := rfl
    records := fun _ _ => ⟨rfl, by simp [RootAnchor.Notary.recordOf, RootAnchor.Notary.getAnchor,
      rotatedOnSoroban, RootAnchor.State.fresh, RootAnchor.Notary.fresh,
      RootAnchor.AnchorRec.absent, Evm.RootAnchor.anchorOf, Evm.RootAnchor.rotated,
      Evm.RootAnchor.blank, Evm.Anchor.unset], rfl, rfl, rfl, rfl⟩
    rules := {
      signers := ⟨signers, rfl, rfl⟩
      enrolled := Evm.RootAnchor.rotated_enrolled hblank
      threshold := rfl
      epoch := rfl
      started := Nat.succ_pos _
      monotonic := rfl
      delays := fun _ => rfl
      latest := fun _ => rfl
      stamps := fun _ _ _ => rfl } }

/-- The two RootAnchors agree: started with the same signers and threshold and given the same calls,
they accept the same next one, unless it is an idle pause, and hold the same record of every root,
the same latest sequence of every chain and the same epoch, and `isAnchored` answers the same at
every time. -/
theorem rootAnchors_agree {admin : π} {signers : List π} {threshold : U32} {s₀ : Evm.RootAnchor}
    {t₀ : RootAnchor.State} {script : List (AnchorAsked π)}
    (hevm : Evm.RootAnchor.construct (N.evm admin) (signers.map N.evm) threshold .blank
      = .ok ((), s₀))
    (hsoroban : RootAnchor.initializeContract (N.soroban admin) (signers.map N.soroban) threshold
      .fresh = .ok ((), t₀))
    (run : Lockstep (anchorOnEvm P N) (anchorOnSoroban H N) (SameVerdict P H N) s₀ t₀ script s t) :
    (∀ c, SameVerdict P H N s t c → ¬Idle s c →
        ((anchorOnEvm P N c).Accepts s ↔ (anchorOnSoroban H N c).Accepts t)) ∧
      (∀ c, Idle s c → ¬(anchorOnEvm P N c).Accepts s) ∧
      s.signerSetEpoch = t.notary.setEpoch ∧
      (∀ chainId root, RecordAlike (s.anchorOf (wide chainId, root))
        (t.notary.recordOf (chainId, root))) ∧
      (∀ chainId, s.latestOf (wide chainId) = t.notary.getLatestSeq chainId) ∧
      ∀ chainId root msg env, msg.timestamp.toNat = env.now →
        Evm.RootAnchor.isAnchored msg (wide chainId) root s
          = RootAnchor.isAnchored env chainId root t := by
  have h : SameAnchor N s t := by
    apply run.invariant (started_alike hevm hsoroban)
    intro s t c h hsame
    by_cases hidle : Idle s c
    · exact (idle_refused h hidle).2
    · exact (call_agrees h hsame hidle).after h
  refine ⟨fun c hsame hidle => (call_agrees h hsame hidle).accepts_iff,
    fun c hidle => (idle_refused (H := H) h hidle).1, h.rules.epoch, h.records, h.rules.latest, ?_⟩
  intro chainId root msg env hnow
  exact isAnchored_agrees h hnow

end Agreement

/-! ## One signer, one root -/

theorem sampleEvm_inj :
    Function.Injective fun first : Bool => if first then (0xA1 : Evm.EvmAddress) else 0xB2 := by
  decide

theorem sampleSoroban_inj :
    Function.Injective fun first : Bool => Address.account (if first then 0xA1 else 0xB2) := by
  decide

theorem sampleEvm_ne_zero (first : Bool) :
    (if first then (0xA1 : Evm.EvmAddress) else 0xB2) ≠ 0 := by
  revert first
  decide

def sampleParties : Parties Bool where
  evm first := if first then 0xA1 else 0xB2
  soroban first := .account (if first then 0xA1 else 0xB2)
  evm_inj := sampleEvm_inj
  soroban_inj := sampleSoroban_inj
  evm_ne_zero := sampleEvm_ne_zero

def sampleAnchorPrimitives : Evm.Primitives where
  keccak256 _ := 0x37e92a4b98903ae87bc5909870a766248e06785f38e330429ce3726acf78525e
  efficientHash _ := 0
  toTypedDataHash _ _ := 0

def sampleAnchorHost : Host where
  contractId := 0x52
  keccak256 _ := 0
  actionId _ _ := 0x09f930d4583b623a4bf04634cf9be9ef62e8509540e0423efe0534755f529f2b
  brakeKey _ _ := 0xb05ee9a59a3b9526fa35ee06fa6bab24fbdb38526361ba3aa854e3d2aee81f70
  argsFromXdr _ := none

/-- The signer's approval of a root, at the threshold. -/
def sampleApproval : AnchorAsked Bool := ⟨true, 500, [], .anchor 3 7 9⟩

/-- The admin unpauses a contract that runs. -/
def sampleUnpause : AnchorAsked Bool := ⟨true, 500, [], .unpause⟩

theorem sampleApproval_sameVerdict {s : Evm.RootAnchor} {t : RootAnchor.State} :
    SameVerdict sampleAnchorPrimitives sampleAnchorHost sampleParties s t sampleApproval where
  positive := by decide
  gate _ _ := iff_of_true ⟨_, rfl⟩ ⟨_, rfl⟩
  admin _ _ _ _ h := by cases h

/-- One approval, and both answer alike an hour later. -/
theorem rootAnchors_agree_sample : ∃ s t,
    Evm.RootAnchor.isAnchored ⟨4100, 0, []⟩ (wide 3) 7 s = true ∧
      Evm.RootAnchor.isAnchored ⟨4100, 0, []⟩ (wide 3) 7 s
        = RootAnchor.isAnchored ⟨4100, fun _ => false, fun _ => false⟩ 3 7 t := by
  obtain ⟨s₀, hs₀⟩ : ∃ s₀, s₀ = (Evm.RootAnchor.construct 0xA1 [0xA1] 1).after .blank := ⟨_, rfl⟩
  obtain ⟨t₀, ht₀⟩ : ∃ t₀, t₀ = (RootAnchor.initializeContract (.account 0xA1) [.account 0xA1]
      1).after .fresh := ⟨_, rfl⟩
  have hevm : Evm.RootAnchor.construct (sampleParties.evm true) ([true].map sampleParties.evm) 1
      .blank = .ok ((), s₀) := by
    rw [hs₀]
    rfl
  have hsoroban : RootAnchor.initializeContract (sampleParties.soroban true)
      ([true].map sampleParties.soroban) 1 .fresh = .ok ((), t₀) := by
    rw [ht₀]
    rfl
  have run : Lockstep (anchorOnEvm sampleAnchorPrimitives sampleParties)
      (anchorOnSoroban sampleAnchorHost sampleParties)
      (SameVerdict sampleAnchorPrimitives sampleAnchorHost sampleParties) s₀ t₀ [sampleApproval]
      ((anchorOnEvm sampleAnchorPrimitives sampleParties sampleApproval).after s₀)
      ((anchorOnSoroban sampleAnchorHost sampleParties sampleApproval).after t₀) :=
    .step .start sampleApproval_sameVerdict
  obtain ⟨-, -, -, -, -, hanchored⟩ := rootAnchors_agree hevm hsoroban run
  refine ⟨_, _, ?_, hanchored 3 7 ⟨4100, 0, []⟩ ⟨4100, fun _ => false, fun _ => false⟩ rfl⟩
  rw [hs₀]
  decide +kernel

/-- An idle unpause by the admin: EVM refuses it, Soroban accepts it. -/
theorem idle_unpause_parts :
    let s₀ := (Evm.RootAnchor.construct 0xA1 [0xA1] 1).after .blank
    let t₀ := (RootAnchor.initializeContract (.account 0xA1) [.account 0xA1] 1).after .fresh
    SameVerdict sampleAnchorPrimitives sampleAnchorHost sampleParties s₀ t₀ sampleUnpause ∧
      ¬(anchorOnEvm sampleAnchorPrimitives sampleParties sampleUnpause).Accepts s₀ ∧
      (anchorOnSoroban sampleAnchorHost sampleParties sampleUnpause).Accepts t₀ := by
  refine ⟨⟨by decide, fun _ _ => iff_of_true ⟨_, rfl⟩ ⟨_, rfl⟩, fun _ _ _ _ h => by cases h⟩, ?_⟩
  constructor <;> decide +kernel

end Parity
end ProofBridge
