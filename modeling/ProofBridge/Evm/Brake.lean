import ProofBridge.Evm.EscrowAdmin
import ProofBridge.Lib.Follow

/-!
# The emergency brake of an EVM escrow

Unwiring a chain's root verifier voids every wiring of that chain proposed up to then, whatever is
called in between. The brake's key is the chain id inverted, and the key zero stands for no key, so
the one chain id without a brake is the one whose bits are all set.
-/

namespace ProofBridge
namespace Evm
namespace EscrowAdmin

open ContractLib

variable {P : Primitives} {msg : Message} {s s' : EscrowAdmin} {call : Call}

/-! ## What one call does to the timelock -/

/-- A setter behind the gate; unwiring a verifier is a brake instead. -/
def Call.gated : Call → Bool
  | .setPeerEscrow .. | .setTokenRoute .. | .removeTokenRoute .. | .setRouteTiming ..
  | .setRootAnchor .. | .inherited => true
  | .setRootVerifier _ verifier => verifier ≠ 0
  | _ => false

/-- The brake key of a gated setter; zero is none. -/
def Call.key : Call → BytesN32
  | .setRootVerifier chainId _ => brakeKey chainId
  | _ => 0

/-- What an accepted call did to the timelock. -/
inductive Moves (P : Primitives) (msg : Message) (s s' : EscrowAdmin) : Call → Prop
  | quiet {call : Call} (hcall : call = .pause ∨ call = .unpause ∨ ∃ a, call = .transferAdmin a)
      (htimelock : s'.timelock = s.timelock) : Moves P msg s s' call
  | handover {epoch : BitVec 64} (htimelock : s'.timelock = { s.timelock with epoch }) :
      Moves P msg s s' .acceptAdmin
  | activated (htimelock : s'.timelock = { s.timelock with active := true }) :
      Moves P msg s s' .activateTimelock
  | proposed {data : Bytes} (hfits : msg.timestamp.toNat + Timelock.DELAY < 2 ^ 256)
      (htimelock : s'.timelock = { s.timelock with
        active := true
        proposals := s.timelock.proposals.set (P.keccak256 data)
          (Timelock.pack (msg.timestamp.toNat + Timelock.DELAY) s.timelock.epoch) }) :
      Moves P msg s s' (.proposeAction data)
  | cancelled {id : BytesN32}
      (htimelock : s'.timelock = { s.timelock with
        proposals := s.timelock.proposals.remove id }) : Moves P msg s s' (.cancelAction id)
  | braked {chainId : Uint256}
      (htimelock : s'.timelock = { s.timelock with
        brakedAt := s.timelock.brakedAt.set (brakeKey chainId) msg.timestamp }) :
      Moves P msg s s' (.setRootVerifier chainId 0)
  | bypassed {call : Call} (hcall : call.gated = true) (hactive : s.timelock.active = false)
      (htimelock : s'.timelock = s.timelock) : Moves P msg s s' call
  | consumed {call : Call} (hcall : call.gated = true) (hactive : s.timelock.active = true)
      (hripe : Timelock.Ripe msg (P.keccak256 msg.data) call.key s.timelock)
      (htimelock : s'.timelock = { s.timelock with
        proposals := s.timelock.proposals.remove (P.keccak256 msg.data) }) :
      Moves P msg s s' call

theorem onlyAdmin_ok (ok : onlyAdmin msg s = .ok ((), s')) : msg.sender = s.admin ∧ s' = s := by
  simp only [onlyAdmin, Tx.bind_read_ok, Tx.require_ok, Prod.mk.injEq, true_and] at ok
  exact ok

/-- What follows the admin check runs in the same state. -/
theorem of_onlyAdmin {α : Type} {k : Unit → Tx AdminError EscrowAdmin α} {r : α × EscrowAdmin}
    (ok : (onlyAdmin msg >>= k) s = .ok r) : k () s = .ok r := by
  obtain ⟨⟨⟩, s₁, hadmin, hrest⟩ := Tx.bind_ok.mp ok
  obtain rfl : s₁ = s := (onlyAdmin_ok hadmin).2
  exact hrest

theorem onTimelock_ok {x : Tx AdminError Timelock.State Unit}
    (ok : onTimelock x s = .ok ((), s')) :
    ∃ t, x s.timelock = .ok ((), t) ∧ s' = { s with timelock := t } := by
  obtain ⟨⟨⟩, t, hok, heq⟩ := Tx.zoom_ok.mp ok
  exact ⟨t, hok, (Prod.mk.inj heq).2⟩

/-- The gate: the admin's before activation, a ripe proposal's after. -/
theorem timelocked_ok {key : BytesN32} (ok : timelocked P msg key s = .ok ((), s')) :
    s.timelock.active = false ∧ s' = s ∨
      s.timelock.active = true ∧ Timelock.Ripe msg (P.keccak256 msg.data) key s.timelock ∧
        s' = { s with timelock := { s.timelock with
          proposals := s.timelock.proposals.remove (P.keccak256 msg.data) } } := by
  simp only [timelocked, Tx.bind_read_ok, Tx.ite_apply] at ok
  split at ok
  · next hactive =>
    exact .inl ⟨hactive, (Prod.mk.inj (Tx.require_ok.mp ok).2).2⟩
  · next hactive =>
    rw [Bool.not_eq_false] at hactive
    obtain ⟨t, hconsume, rfl⟩ := onTimelock_ok ok
    obtain ⟨hripe, -, rfl⟩ := Timelock.consume_ok.mp hconsume
    exact .inr ⟨hactive, hripe, rfl⟩

/-- A gated setter whose own writes leave the timelock alone. -/
theorem moves_of_gated {k : Unit → Tx AdminError EscrowAdmin Unit} (hcall : call.gated = true)
    (ok : (timelocked P msg call.key >>= k) s = .ok ((), s'))
    (hk : Tx.Frames EscrowAdmin.timelock (k ())) : Moves P msg s s' call := by
  obtain ⟨⟨⟩, s₁, hgate, ok⟩ := Tx.bind_ok.mp ok
  have hrest := hk _ _ ok
  rcases timelocked_ok hgate with ⟨hactive, rfl⟩ | ⟨hactive, hripe, rfl⟩
  · exact .bypassed hcall hactive hrest
  · exact .consumed hcall hactive hripe hrest

/-- Every accepted call is such a move. -/
theorem moves_of_exec (ok : exec P msg call s = .ok ((), s')) : Moves P msg s s' call := by
  cases call with
  | pause =>
    have ok := of_onlyAdmin ok
    simp only [Tx.bind_read_ok, Tx.bind_require_ok, Tx.modify_ok, Prod.mk.injEq, true_and] at ok
    obtain ⟨-, rfl⟩ := ok
    exact .quiet (.inl rfl) rfl
  | unpause =>
    have ok := of_onlyAdmin ok
    simp only [Tx.bind_read_ok, Tx.bind_require_ok, Tx.modify_ok, Prod.mk.injEq, true_and] at ok
    obtain ⟨-, rfl⟩ := ok
    exact .quiet (.inr (.inl rfl)) rfl
  | transferAdmin successor =>
    have ok := of_onlyAdmin ok
    simp only [Tx.bind_read_ok, Tx.bind_require_ok, Tx.modify_ok, Prod.mk.injEq, true_and] at ok
    obtain ⟨-, rfl⟩ := ok
    exact .quiet (.inr (.inr ⟨successor, rfl⟩)) rfl
  | acceptAdmin =>
    simp only [exec, acceptAdmin, Tx.bind_read_ok, Tx.bind_require_ok, Tx.bind_modify_ok] at ok
    obtain ⟨-, ok⟩ := ok
    obtain ⟨t, hbump, rfl⟩ := onTimelock_ok ok
    simp only [bumpEpoch, Tx.bind_read_ok, Tx.bind_lift_ok, Tx.modify_ok, Prod.mk.injEq,
      true_and] at hbump
    obtain ⟨epoch, -, rfl⟩ := hbump
    exact .handover rfl
  | activateTimelock =>
    obtain ⟨t, hactivate, rfl⟩ := onTimelock_ok (of_onlyAdmin ok)
    obtain ⟨-, rfl⟩ := Timelock.activate_ok hactivate
    exact .activated rfl
  | proposeAction data =>
    obtain ⟨t, hpropose, rfl⟩ := onTimelock_ok (of_onlyAdmin ok)
    obtain ⟨hfits, rfl⟩ := Timelock.propose_ok hpropose
    exact .proposed hfits rfl
  | cancelAction id =>
    obtain ⟨t, hcancel, rfl⟩ := onTimelock_ok (of_onlyAdmin ok)
    obtain rfl := Timelock.cancel_ok hcancel
    exact .cancelled rfl
  | setRootVerifier chainId verifier =>
    by_cases hzero : verifier = 0
    · subst hzero
      simp only [exec, setRootVerifier, timelockedUnless, decide_true, if_true] at ok
      obtain ⟨⟨⟩, s₁, hbrake, ok⟩ := Tx.bind_ok.mp ok
      obtain ⟨t, htimelock, rfl⟩ := onTimelock_ok (of_onlyAdmin hbrake)
      obtain rfl := (Prod.mk.inj (Tx.modify_ok.mp htimelock)).2
      obtain rfl := (Prod.mk.inj (Tx.modify_ok.mp ok)).2
      exact .braked rfl
    · have hgated : (Call.setRootVerifier chainId verifier).gated = true := decide_eq_true hzero
      simp only [exec, setRootVerifier, timelockedUnless, hzero, decide_false, Bool.false_eq_true,
        if_false] at ok
      exact moves_of_gated hgated ok (.modify fun _ => rfl)
  | setPeerEscrow chainId peer =>
    exact moves_of_gated rfl ok (.modify fun _ => rfl)
  | removeTokenRoute localToken peerChainId =>
    exact moves_of_gated rfl ok (.modify fun _ => rfl)
  | setTokenRoute =>
    exact moves_of_gated rfl ok (.bind .require fun _ => .bind .read fun _ => .bind .require
      fun _ => .modify fun _ => rfl)
  | setRouteTiming =>
    exact moves_of_gated rfl ok (.bind .lift fun _ => .bind .read fun _ => .bind .lift
      fun _ => .modify fun _ => rfl)
  | setRootAnchor =>
    exact moves_of_gated rfl ok (.bind .require fun _ => .modify fun _ => rfl)
  | inherited =>
    rcases timelocked_ok ok with ⟨hactive, rfl⟩ | ⟨hactive, hripe, rfl⟩
    · exact .bypassed rfl hactive rfl
    · exact .consumed rfl hactive hripe rfl

/-! ## What a slot says of the history -/

/-- The accepted calls of a run, the newest first. -/
abbrev History := List ((Message × Call) × Unit)

/-- Block time never goes back. -/
def Chronological (history : History) : Prop :=
  history.Pairwise fun later earlier =>
    earlier.1.1.timestamp.toNat ≤ later.1.1.timestamp.toNat

/-- The bypass was closed. -/
def closes : Call → Bool
  | .activateTimelock | .proposeAction _ => true
  | _ => false

def closed (history : History) : Bool := history.any fun e => closes e.1.2

/-- After this call no proposal made under `id` before it stands. -/
def ends (P : Primitives) (id : BytesN32) (e : (Message × Call) × Unit) : Bool :=
  match e.1.2 with
  | .proposeAction data => P.keccak256 data = id
  | .cancelAction id' => id' = id
  | call => call.gated && P.keccak256 e.1.1.data = id

theorem closes_of_gated (hcall : call.gated = true) : closes call = false := by
  cases call
  case activateTimelock | proposeAction => cases hcall
  all_goals rfl

theorem ends_of_gated {id : BytesN32} (hcall : call.gated = true) :
    ends P id ((msg, call), ()) = decide (P.keccak256 msg.data = id) := by
  cases call
  case proposeAction | cancelAction => cases hcall
  all_goals
    simp only [ends, hcall]
    simp

/-- A proposal of the history stands under `id`: `since` is what came after it. -/
structure Standing (P : Primitives) (id : BytesN32) (proposer : Message) (since earlier history :
    History) : Prop where
  split : ∃ data, P.keccak256 data = id ∧
    history = since ++ ((proposer, .proposeAction data), ()) :: earlier
  kept : ∀ e ∈ since, ends P id e = false

theorem Standing.cons {id : BytesN32} {proposer : Message} {since earlier history : History}
    (h : Standing P id proposer since earlier history) {e : (Message × Call) × Unit}
    (he : ends P id e = false) : Standing P id proposer (e :: since) earlier (e :: history) where
  split := by
    obtain ⟨data, hid, hsplit⟩ := h.split
    exact ⟨data, hid, by rw [hsplit, List.cons_append]⟩
  kept := by
    intro e' he'
    rcases List.mem_cons.mp he' with rfl | he'
    · exact he
    · exact h.kept e' he'

/-- The proposal is an entry of the history. -/
theorem Standing.mem {id : BytesN32} {proposer : Message} {since earlier history : History}
    (h : Standing P id proposer since earlier history) :
    ∃ e ∈ history, e.1.1 = proposer ∧ closes e.1.2 = true := by
  obtain ⟨data, -, rfl⟩ := h.split
  exact ⟨((proposer, .proposeAction data), ()), by simp, rfl, rfl⟩

/-- The slot under `id` was packed by a standing proposal. -/
def Filled (P : Primitives) (history : History) (id : BytesN32) (slot : Uint256) : Prop :=
  ∃ proposer since earlier epoch, Standing P id proposer since earlier history ∧
    slot = Timelock.pack (proposer.timestamp.toNat + Timelock.DELAY) epoch

/-- The timelock is what the history made of it. -/
structure Tracks (P : Primitives) (history : History) (s : EscrowAdmin) : Prop where
  active : s.timelock.active = closed history
  filled : ∀ id, s.timelock.proposal id ≠ 0 → Filled P history id (s.timelock.proposal id)
  braked : ∀ chainId, ∀ e ∈ history, e.1.2 = .setRootVerifier chainId 0 →
    e.1.1.timestamp.toNat ≤ (s.timelock.braked (brakeKey chainId)).toNat

theorem Filled.cons {history : History} {id : BytesN32} {slot : Uint256}
    (h : Filled P history id slot) {e : (Message × Call) × Unit} (he : ends P id e = false) :
    Filled P (e :: history) id slot := by
  obtain ⟨proposer, since, earlier, epoch, hstanding, hslot⟩ := h
  exact ⟨proposer, e :: since, earlier, epoch, hstanding.cons he, hslot⟩

theorem brakeKey_injective {c c' : Uint256} (h : brakeKey c = brakeKey c') : c = c' :=
  BitVec.not_inj.mp h

/-- Of all chain ids one is inverted to the key that stands for none. -/
theorem brakeKey_eq_zero {chainId : Uint256} :
    brakeKey chainId = 0 ↔ chainId = BitVec.allOnes 256 := by
  constructor
  · intro h
    have hones : brakeKey chainId = brakeKey (BitVec.allOnes 256) := by
      rw [h]
      decide
    exact brakeKey_injective hones
  · rintro rfl
    decide

theorem proposal_of_set {t : Timelock.State} {id id' : BytesN32} {slot : Uint256}
    {active : Bool} :
    Timelock.State.proposal { t with active, proposals := t.proposals.set id slot } id'
      = if id' = id then slot else t.proposal id' := by
  unfold Timelock.State.proposal
  rw [Map.get?_set]
  split <;> rfl

theorem proposal_of_remove {t : Timelock.State} {id id' : BytesN32} :
    Timelock.State.proposal { t with proposals := t.proposals.remove id } id'
      = if id' = id then 0 else t.proposal id' := by
  unfold Timelock.State.proposal
  rw [Map.get?_remove]
  split <;> rfl

theorem braked_of_set {t : Timelock.State} {key key' : BytesN32} {time : Uint256} :
    Timelock.State.braked { t with brakedAt := t.brakedAt.set key time } key'
      = if key' = key then time else t.braked key' := by
  unfold Timelock.State.braked
  rw [Map.get?_set]
  split <;> rfl

namespace Tracks

variable {history : History}

theorem deployed (admin : EvmAddress) : Tracks P [] (EscrowAdmin.deployed admin) where
  active := rfl
  filled id h := absurd rfl h
  braked chainId e he := by cases he

/-- A call that fills no slot and is no brake. -/
theorem kept (h : Tracks P history s)
    (hactive : s'.timelock.active = (closes call || s.timelock.active))
    (hproposals : ∀ id, s'.timelock.proposal id ≠ 0 →
      s'.timelock.proposal id = s.timelock.proposal id ∧ ends P id ((msg, call), ()) = false)
    (hbrakes : s'.timelock.brakedAt = s.timelock.brakedAt)
    (hcall : ∀ chainId, call ≠ .setRootVerifier chainId 0) :
    Tracks P (((msg, call), ()) :: history) s' where
  active := by rw [hactive, h.active]; rfl
  filled id hslot := by
    obtain ⟨heq, hends⟩ := hproposals id hslot
    rw [heq] at hslot ⊢
    exact (h.filled id hslot).cons hends
  braked chainId e he hbrake := by
    rcases List.mem_cons.mp he with rfl | he
    · exact absurd hbrake (hcall chainId)
    · have hle := h.braked chainId e he hbrake
      unfold Timelock.State.braked at hle ⊢
      rw [hbrakes]
      exact hle

/-- One accepted call. -/
theorem step (h : Tracks P history s)
    (hclock : ∀ e ∈ history, e.1.1.timestamp.toNat ≤ msg.timestamp.toNat)
    (hmoves : Moves P msg s s' call) : Tracks P (((msg, call), ()) :: history) s' := by
  cases hmoves with
  | quiet hcall htimelock =>
    rcases hcall with rfl | rfl | ⟨a, rfl⟩
    all_goals
      exact h.kept (by rw [htimelock]; rfl) (fun id _ => ⟨by rw [htimelock], rfl⟩)
        (by rw [htimelock]) (by simp)
  | handover htimelock =>
    exact h.kept (by rw [htimelock]; rfl) (fun id _ => ⟨by rw [htimelock]; rfl, rfl⟩)
      (by rw [htimelock]) (by simp)
  | activated htimelock =>
    exact h.kept (by rw [htimelock]; rfl) (fun id _ => ⟨by rw [htimelock]; rfl, rfl⟩)
      (by rw [htimelock]) (by simp)
  | @proposed data hfits htimelock =>
    refine ⟨by rw [htimelock]; rfl, ?_, ?_⟩
    · intro id hslot
      rw [htimelock, proposal_of_set] at hslot ⊢
      split at hslot
      · next hid =>
        rw [if_pos hid]
        exact ⟨msg, [], history, _, ⟨⟨data, hid.symm, rfl⟩, by simp⟩, rfl⟩
      · next hid =>
        rw [if_neg hid]
        exact (h.filled id hslot).cons (decide_eq_false (Ne.symm hid))
    · intro chainId e he hbrake
      rcases List.mem_cons.mp he with rfl | he
      · cases hbrake
      · rw [htimelock]
        exact h.braked chainId e he hbrake
  | @cancelled id htimelock =>
    refine h.kept (by rw [htimelock]; rfl) ?_ (by rw [htimelock]) (by simp)
    intro id' hslot
    rw [htimelock, proposal_of_remove] at hslot ⊢
    split at hslot
    · exact absurd rfl hslot
    · next hid =>
      rw [if_neg hid]
      exact ⟨rfl, decide_eq_false (Ne.symm hid)⟩
  | @braked chainId htimelock =>
    refine ⟨by rw [htimelock]; exact h.active, ?_, ?_⟩
    · intro id hslot
      rw [htimelock] at hslot ⊢
      exact (h.filled id hslot).cons rfl
    · intro chainId' e he hbrake
      rw [htimelock, braked_of_set]
      split
      · rcases List.mem_cons.mp he with rfl | he
        · exact le_rfl
        · exact hclock e he
      · next hkey =>
        rcases List.mem_cons.mp he with rfl | he
        · cases hbrake
          exact absurd rfl hkey
        · exact h.braked chainId' e he hbrake
  | bypassed hcall hactive htimelock =>
    -- before activation no proposal exists, so none is ended
    have hnone : ∀ id, s.timelock.proposal id = 0 := by
      intro id
      by_contra hslot
      obtain ⟨proposer, since, earlier, epoch, hstanding, -⟩ := h.filled id hslot
      obtain ⟨e, he, -, hcloses⟩ := hstanding.mem
      have hclosed : closed history = true := List.any_eq_true.mpr ⟨e, he, hcloses⟩
      rw [← h.active, hactive] at hclosed
      cases hclosed
    refine h.kept ?_ ?_ (by rw [htimelock]) ?_
    · rw [htimelock, closes_of_gated hcall]
      rfl
    · intro id hslot
      rw [htimelock, hnone id] at hslot
      exact absurd rfl hslot
    · rintro chainId rfl
      cases hcall
  | consumed hcall hactive hripe htimelock =>
    refine h.kept ?_ ?_ (by rw [htimelock]) ?_
    · rw [htimelock, closes_of_gated hcall]
      rfl
    · intro id hslot
      rw [htimelock, proposal_of_remove] at hslot ⊢
      split at hslot
      · exact absurd rfl hslot
      · next hid =>
        rw [if_neg hid]
        rw [ends_of_gated hcall]
        exact ⟨rfl, decide_eq_false (Ne.symm hid)⟩
    · rintro chainId rfl
      cases hcall

end Tracks

/-- Every reachable state is what its history made of it, as long as block time never goes back. -/
theorem tracks_of_run {admin : EvmAddress} {history : History}
    (run : Run (system P) (EscrowAdmin.deployed admin) history s)
    (hclock : Chronological history) : Tracks P history s := by
  induction run with
  | start => exact .deployed admin
  | @accepted history s s' t r run admitted ok ih =>
    obtain ⟨hlater, hclock⟩ := List.pairwise_cons.mp hclock
    exact (ih hclock).step hlater (moves_of_exec ok)
  | refused run failed ih => exact ih hclock
  | outside run moved ih => exact moved.elim

/-! ## What the brake of one chain leaves alone -/

/-- The same timelock but for the brake on `key`. -/
structure TimelockApart (key : BytesN32) (t t' : Timelock.State) : Prop where
  active : t'.active = t.active
  epoch : t'.epoch = t.epoch
  proposals : t'.proposals = t.proposals
  braked : ∀ key', key' ≠ key → t'.braked key' = t.braked key'

/-- The same escrow but for the verifier of `chainId`, and the brake on it. -/
structure Apart (chainId : Uint256) (s s' : EscrowAdmin) : Prop where
  admin : s'.admin = s.admin
  pendingAdmin : s'.pendingAdmin = s.pendingAdmin
  paused : s'.paused = s.paused
  timelock : TimelockApart (brakeKey chainId) s.timelock s'.timelock
  peerEscrow : s'.peerEscrow = s.peerEscrow
  tokenRoute : s'.tokenRoute = s.tokenRoute
  timingVersion : s'.timingVersion = s.timingVersion
  routeTimingAt : s'.routeTimingAt = s.routeTimingAt
  rootAnchor : s'.rootAnchor = s.rootAnchor

section Spare

variable {chainId : Uint256} {key : BytesN32} {t t' : Timelock.State}

theorem TimelockApart.symm (h : TimelockApart key t t') : TimelockApart key t' t where
  active := h.active.symm
  epoch := h.epoch.symm
  proposals := h.proposals.symm
  braked key' hkey := (h.braked key' hkey).symm

theorem TimelockApart.proposal (h : TimelockApart key t t') (id : BytesN32) :
    t'.proposal id = t.proposal id := by
  unfold Timelock.State.proposal
  rw [h.proposals]

theorem Apart.symm (h : Apart chainId s s') : Apart chainId s' s where
  admin := h.admin.symm
  pendingAdmin := h.pendingAdmin.symm
  paused := h.paused.symm
  timelock := h.timelock.symm
  peerEscrow := h.peerEscrow.symm
  tokenRoute := h.tokenRoute.symm
  timingVersion := h.timingVersion.symm
  routeTimingAt := h.routeTimingAt.symm
  rootAnchor := h.rootAnchor.symm

/-- What a brake leaves is apart from what it found. -/
theorem apart_of_brake (ok : exec P msg (.setRootVerifier chainId 0) s = .ok ((), s')) :
    Apart chainId s s' := by
  simp only [exec, setRootVerifier, timelockedUnless, decide_true, if_true] at ok
  obtain ⟨⟨⟩, s₁, hbrake, ok⟩ := Tx.bind_ok.mp ok
  obtain ⟨t, htimelock, rfl⟩ := onTimelock_ok (of_onlyAdmin hbrake)
  obtain rfl := (Prod.mk.inj (Tx.modify_ok.mp htimelock)).2
  obtain rfl := (Prod.mk.inj (Tx.modify_ok.mp ok)).2
  refine ⟨rfl, rfl, rfl, ⟨rfl, rfl, rfl, ?_⟩, rfl, rfl, rfl, rfl, rfl⟩
  intro key hkey
  exact braked_of_set.trans (if_neg hkey)

/-! ### The timelock's own calls -/

section Timelock

variable (h : TimelockApart key t t')
include h

theorem follows_activate :
    Tx.Follows (TimelockApart key) Timelock.activate Timelock.activate t t' :=
  .read (.bind (.require h fun hactive => by rw [h.active]; exact hactive)
    fun _ _ _ _ h' => .modify { h' with active := rfl })

theorem follows_bumpEpoch : Tx.Follows (TimelockApart key) bumpEpoch bumpEpoch t t' :=
  .read (.bind (.lift h fun _ hepoch => by rw [h.epoch]; exact hepoch)
    fun _ _ _ _ h' => .modify { h' with epoch := rfl })

theorem follows_cancel {id : BytesN32} :
    Tx.Follows (TimelockApart key) (Timelock.cancel id) (Timelock.cancel id) t t' :=
  .read (.bind (.require h fun hslot => by rw [h.proposal]; exact hslot)
    fun _ _ _ _ h' => .modify { h' with
      proposals := congrArg (fun m => Map.remove m id) h'.proposals })

theorem liveEta_of_apart {id : BytesN32} :
    Timelock.liveEta msg id t' = Timelock.liveEta msg id t := by
  unfold Timelock.liveEta
  rw [h.proposal, h.epoch]

theorem follows_propose {data : Bytes} :
    Tx.Follows (TimelockApart key) (Timelock.propose P msg data) (Timelock.propose P msg data)
      t t' := by
  refine .bind (.read (.ite (by rw [h.active]) (fun _ => follows_activate h)
    fun _ => .pure h)) fun _ t₁ t₁' _ h₁ => ?_
  refine .bind (.view h₁ fun _ hlive => by rw [liveEta_of_apart h₁]; exact hlive)
    fun live t₂ t₂' _ h₂ => ?_
  refine .bind (.require h₂ id) fun _ t₃ t₃' _ h₃ => .bind (.lift h₃ fun _ => id)
    fun eta t₄ t₄' _ h₄ => .modify { h₄ with proposals := ?_ }
  show t₄'.proposals.set _ _ = t₄.proposals.set _ _
  rw [h₄.proposals, h₄.epoch]

/-- A gate on another key, or on none, asks the same on both sides. -/
theorem follows_consume {id key' : BytesN32} (hkey : key' ≠ 0 → key' ≠ key) :
    Tx.Follows (TimelockApart key) (Timelock.consume msg id key') (Timelock.consume msg id key')
      t t' := by
  intro a t₁ ok
  obtain ⟨hripe, hfits, rfl⟩ := Timelock.consume_ok.mp ok
  have hripe' : Timelock.Ripe msg id key' t' := by
    constructor
    · rw [h.proposal]
      exact hripe.pending
    · rw [h.proposal, h.epoch]
      exact hripe.epoch
    · rw [h.proposal]
      exact hripe.reached
    · rw [h.proposal]
      exact hripe.fresh
    · intro hne
      rw [h.proposal, h.braked key' (hkey hne)]
      exact hripe.unbraked hne
  refine ⟨_, Timelock.consume_ok.mpr ⟨hripe', by rw [h.proposal]; exact hfits, rfl⟩, ?_⟩
  exact { h with proposals := congrArg (fun m => Map.remove m id) h.proposals }

end Timelock

/-! ### The calls of the escrow -/

variable (h : Apart chainId s s')
include h

theorem follows_onTimelock {x : Tx AdminError Timelock.State Unit}
    (hx : Tx.Follows (TimelockApart (brakeKey chainId)) x x s.timelock s'.timelock) :
    Tx.Follows (Apart chainId) (onTimelock x) (onTimelock x) s s' :=
  .zoom hx fun _ _ ht => { h with timelock := ht }

theorem follows_onlyAdmin : Tx.Follows (Apart chainId) (onlyAdmin msg) (onlyAdmin msg) s s' :=
  .read (.require h fun hadmin => by rw [h.admin]; exact hadmin)

theorem follows_timelocked (hkey : key ≠ 0 → key ≠ brakeKey chainId) :
    Tx.Follows (Apart chainId) (timelocked P msg key) (timelocked P msg key) s s' :=
  .read (.ite (by rw [h.timelock.active])
    (fun _ => .require h fun hadmin => by rw [h.admin]; exact hadmin)
    fun _ => follows_onTimelock h (follows_consume h.timelock hkey))

/-- A call on no verifier of `chainId` does the same on both sides. -/
theorem follows_exec (hcall : ∀ verifier, call ≠ .setRootVerifier chainId verifier) :
    Tx.Follows (Apart chainId) (exec P msg call) (exec P msg call) s s' := by
  have hnone : (0 : BytesN32) ≠ 0 → (0 : BytesN32) ≠ brakeKey chainId := fun h => absurd rfl h
  cases call with
  | pause =>
    exact .bind (follows_onlyAdmin h) fun _ _ _ _ h₁ => .read (.bind
      (.require h₁ fun hp => by rw [h₁.paused]; exact hp)
      fun _ _ _ _ h₂ => .modify { h₂ with paused := rfl })
  | unpause =>
    exact .bind (follows_onlyAdmin h) fun _ _ _ _ h₁ => .read (.bind
      (.require h₁ fun hp => by rw [h₁.paused]; exact hp)
      fun _ _ _ _ h₂ => .modify { h₂ with paused := rfl })
  | transferAdmin successor =>
    exact .bind (follows_onlyAdmin h) fun _ _ _ _ h₁ => .read (.bind
      (.require h₁ fun hne => by rw [h₁.admin]; exact hne)
      fun _ _ _ _ h₂ => .modify { h₂ with pendingAdmin := rfl })
  | acceptAdmin =>
    exact .read (.bind (.require h fun hp => by rw [h.pendingAdmin]; exact hp)
      fun _ _ _ _ h₁ => .bind (.modify { h₁ with admin := rfl, pendingAdmin := rfl })
        fun _ _ _ _ h₂ => follows_onTimelock h₂ (follows_bumpEpoch h₂.timelock))
  | activateTimelock =>
    exact .bind (follows_onlyAdmin h) fun _ _ _ _ h₁ =>
      follows_onTimelock h₁ (follows_activate h₁.timelock)
  | proposeAction data =>
    exact .bind (follows_onlyAdmin h) fun _ _ _ _ h₁ =>
      follows_onTimelock h₁ (follows_propose h₁.timelock)
  | cancelAction id =>
    exact .bind (follows_onlyAdmin h) fun _ _ _ _ h₁ =>
      follows_onTimelock h₁ (follows_cancel h₁.timelock)
  | setPeerEscrow chainId' peer =>
    exact .bind (follows_timelocked h hnone) fun _ _ _ _ h₁ => .modify { h₁ with
      peerEscrow := congrArg (fun m => Map.set m chainId' peer) h₁.peerEscrow }
  | setRootVerifier chainId' verifier =>
    have hne : chainId' ≠ chainId := by
      rintro rfl
      exact hcall verifier rfl
    have hkey : brakeKey chainId' ≠ brakeKey chainId := fun heq => hne (brakeKey_injective heq)
    refine .bind ?_ fun _ _ _ _ h₁ => .modify { h₁ with admin := h₁.admin }
    refine .ite Iff.rfl (fun _ => .bind (follows_onlyAdmin h) fun _ _ _ _ h₁ => ?_)
      fun _ => follows_timelocked h fun _ => hkey
    refine follows_onTimelock h₁ (.modify { h₁.timelock with braked := ?_ })
    intro key' hkey'
    rw [braked_of_set, braked_of_set, h₁.timelock.braked key' hkey']
  | setTokenRoute localToken peerChainId peerToken =>
    exact .bind (follows_timelocked h hnone) fun _ _ _ _ h₁ => .bind (.require h₁ id)
      fun _ _ _ _ h₂ => .read (.bind
        (.require h₂ fun hpeer => by rw [h₂.peerEscrow]; exact hpeer)
        fun _ _ _ _ h₃ => .modify { h₃ with
          tokenRoute := congrArg (fun m => Map.set m (localToken, peerChainId) peerToken)
            h₃.tokenRoute })
  | removeTokenRoute localToken peerChainId =>
    exact .bind (follows_timelocked h hnone) fun _ _ _ _ h₁ => .modify { h₁ with
      tokenRoute := congrArg (fun m => Map.remove m (localToken, peerChainId)) h₁.tokenRoute }
  | setRouteTiming chainId' timing =>
    exact .bind (follows_timelocked h hnone) fun _ _ _ _ h₁ => .bind (.lift h₁ fun _ => id)
      fun _ _ _ _ h₂ => .read (.bind
        (.lift h₂ fun _ hv => by rw [h₂.timingVersion]; exact hv)
        fun v _ _ _ h₃ => .modify { h₃ with
          timingVersion := congrArg (fun m => Map.set m chainId' v) h₃.timingVersion
          routeTimingAt := congrArg (fun m => Map.set m (chainId', v) timing) h₃.routeTimingAt })
  | setRootAnchor anchor =>
    exact .bind (follows_timelocked h hnone) fun _ _ _ _ h₁ => .bind (.require h₁ id)
      fun _ _ _ _ h₂ => .modify { h₂ with rootAnchor := rfl }
  | inherited => exact follows_timelocked h hnone

end Spare

/-! ## The brake -/

/-- Every wiring of `chainId` ran under a proposal made after every brake on it, and the delay
has passed since. Before activation nothing is proposed: the admin wires directly. -/
def Voids (P : Primitives) (chainId : Uint256) : Prop :=
  ∀ (admin : EvmAddress) (history : History) (s s' : EscrowAdmin) (msg : Message)
    (verifier : EvmAddress), Run (system P) (deployed admin) history s →
    Chronological (((msg, .setRootVerifier chainId verifier), ()) :: history) → verifier ≠ 0 →
    s.timelock.active = true → exec P msg (.setRootVerifier chainId verifier) s = .ok ((), s') →
    ∃ proposer since earlier,
      Standing P (P.keccak256 msg.data) proposer since earlier history ∧
      proposer.timestamp.toNat + Timelock.DELAY ≤ msg.timestamp.toNat ∧
      ∀ e ∈ history, e.1.2 = .setRootVerifier chainId 0 →
        e.1.1.timestamp.toNat < proposer.timestamp.toNat

/-- A brake on `chainId` is nothing to any later call on another chain or of another setter:
whatever the escrow would have accepted without it, it accepts after it, and no more. -/
def Spares (P : Primitives) (chainId : Uint256) : Prop :=
  ∀ (admin : EvmAddress) (history : History) (s s' : EscrowAdmin) (msg : Message),
    Run (system P) (deployed admin) history s →
    exec P msg (.setRootVerifier chainId 0) s = .ok ((), s') →
    ∀ script : List (Message × Call),
      (∀ t ∈ script, ∀ verifier, t.2 ≠ .setRootVerifier chainId verifier) →
      (accepts (system P) s' script = true ↔ accepts (system P) s script = true)

/-- The proposal an effect ran under. -/
theorem wired_of_run {admin : EvmAddress} {history : History} {chainId : Uint256}
    {verifier : EvmAddress} (run : Run (system P) (deployed admin) history s)
    (hclock : Chronological (((msg, .setRootVerifier chainId verifier), ()) :: history))
    (hverifier : verifier ≠ 0) (hactive : s.timelock.active = true)
    (ok : exec P msg (.setRootVerifier chainId verifier) s = .ok ((), s')) :
    ∃ proposer since earlier,
      Standing P (P.keccak256 msg.data) proposer since earlier history ∧
      proposer.timestamp.toNat + Timelock.DELAY ≤ msg.timestamp.toNat ∧
      (brakeKey chainId ≠ 0 → ∀ e ∈ history, e.1.2 = .setRootVerifier chainId 0 →
        e.1.1.timestamp.toNat < proposer.timestamp.toNat) := by
  obtain ⟨hlater, hclock⟩ := List.pairwise_cons.mp hclock
  have htracks := tracks_of_run run hclock
  have hripe : Timelock.Ripe msg (P.keccak256 msg.data) (brakeKey chainId) s.timelock := by
    cases moves_of_exec ok with
    | quiet hcall htimelock => simp at hcall
    | braked htimelock => exact absurd rfl hverifier
    | bypassed hcall hopen htimelock =>
      rw [hactive] at hopen
      cases hopen
    | consumed hcall _ hripe htimelock => exact hripe
  obtain ⟨proposer, since, earlier, epoch, hstanding, hslot⟩ := htracks.filled _ hripe.pending
  obtain ⟨e, he, hproposer, -⟩ := hstanding.mem
  have hbefore : e.1.1.timestamp.toNat ≤ msg.timestamp.toNat := hlater e he
  rw [hproposer] at hbefore
  have hreached := hripe.reached
  have hfresh := hripe.fresh
  have hunbraked := hripe.unbraked
  rw [hslot, Timelock.etaOf_pack] at hreached hfresh hunbraked
  -- a slot that ripened past 64 bits reads as one that expired long before it was proposed
  have hmod : (proposer.timestamp.toNat + Timelock.DELAY) % 2 ^ 64
      = proposer.timestamp.toNat + Timelock.DELAY := by
    unfold Timelock.DELAY Timelock.GRACE at *
    omega
  rw [hmod] at hreached hunbraked
  refine ⟨proposer, since, earlier, hstanding, hreached, ?_⟩
  intro hkey e' he' hbrake
  have hle := htracks.braked chainId e' he' hbrake
  have hlt := hunbraked hkey
  omega

theorem spares (P : Primitives) (chainId : Uint256) : Spares P chainId := by
  intro admin history s s' msg run ok script hscript
  have happart := apart_of_brake ok
  constructor
  · exact accepts_of_follows (fun c hc _ _ h => follows_exec h (hscript c hc)) happart.symm
  · exact accepts_of_follows (fun c hc _ _ h => follows_exec h (hscript c hc)) happart

/-! ### The one chain id without a brake -/

section LastChain

theorem onlyAdmin_accepted (hadmin : msg.sender = s.admin) : onlyAdmin msg s = .ok ((), s) := by
  simp only [onlyAdmin, Tx.bind_read_ok, Tx.require_ok, hadmin, true_and]

theorem timelocked_accepted {key : BytesN32} {t : Timelock.State}
    (hactive : s.timelock.active = true)
    (hconsume : Timelock.consume msg (P.keccak256 msg.data) key s.timelock = .ok ((), t)) :
    timelocked P msg key s = .ok ((), { s with timelock := t }) := by
  rw [timelocked, Tx.bind_read_ok, Tx.ite_apply, if_neg (by rw [hactive]; decide)]
  exact Tx.zoom_ok.mpr ⟨(), t, hconsume, rfl⟩

/-- The chain id whose bits are all set. -/
def lastChain : Uint256 := BitVec.allOnes 256

/-- A call of the admin at `time`. -/
def byAdmin (time : Uint256) : Message := ⟨time, 0xAD, []⟩

/-- A wiring is proposed, and the chain unwired 1000 seconds later. -/
def unwound (data : Bytes) : History :=
  [((byAdmin 2000, .setRootVerifier lastChain 0), ()), ((byAdmin 1000, .proposeAction data), ())]

/-- Between the two: the wiring is pending and the bypass closed. -/
def proposedState (P : Primitives) (data : Bytes) : EscrowAdmin :=
  { deployed 0xAD with timelock := {
      active := true
      epoch := 0
      proposals := Map.set ∅ (P.keccak256 data) (Timelock.pack (1000 + Timelock.DELAY) 0)
      brakedAt := ∅ } }

/-- What `unwound` leaves: the proposal still pending, the brake filed under the key of none. -/
def unwoundState (P : Primitives) (data : Bytes) : EscrowAdmin :=
  { proposedState P data with
    timelock := { (proposedState P data).timelock with
      brakedAt := Map.set ∅ (brakeKey lastChain) 2000 }
    wiredChains := [lastChain]
    rootVerifier := Map.set ∅ lastChain 0
    rootVerifierChangedAt := Map.set ∅ lastChain 2000 }

/-- Anyone's call, once the proposal of 1000 is ripe. -/
def byAnyone (data : Bytes) : Message := ⟨90000, 0xE0, data⟩

theorem unwound_run (P : Primitives) (data : Bytes) :
    Run (system P) (deployed 0xAD) (unwound data) (unwoundState P data) := by
  have hpropose : exec P (byAdmin 1000) (.proposeAction data) (deployed 0xAD)
      = .ok ((), proposedState P data) := by
    refine Tx.bind_ok.mpr ⟨(), _, onlyAdmin_accepted rfl, Tx.zoom_ok.mpr ⟨(), _, ?_, rfl⟩⟩
    exact Timelock.propose_accepted rfl (fun _ => rfl) (by decide +kernel)
  have hbrake : exec P (byAdmin 2000) (.setRootVerifier lastChain 0) (proposedState P data)
      = .ok ((), unwoundState P data) := by
    have hpull : timelockedUnless P (byAdmin 2000) true (brakeKey lastChain)
        (proposedState P data) = .ok ((), { proposedState P data with
          timelock := (unwoundState P data).timelock }) :=
      Tx.bind_ok.mpr ⟨(), _, onlyAdmin_accepted rfl, Tx.zoom_ok.mpr ⟨(), _, rfl, rfl⟩⟩
    exact Tx.bind_ok.mpr ⟨(), _, hpull, rfl⟩
  exact .accepted (.accepted .start trivial hpropose) trivial hbrake

theorem rewired (P : Primitives) (data : Bytes) :
    ∃ s', exec P (byAnyone data) (.setRootVerifier lastChain 0x7E) (unwoundState P data)
      = .ok ((), s') := by
  have hslot : (unwoundState P data).timelock.proposal (P.keccak256 data)
      = Timelock.pack (1000 + Timelock.DELAY) 0 := by
    unfold Timelock.State.proposal unwoundState proposedState
    rw [Map.get?_set, if_pos rfl]
    rfl
  have hripe : Timelock.Ripe (byAnyone data) (P.keccak256 data) (brakeKey lastChain)
      (unwoundState P data).timelock := by
    constructor
    · rw [hslot]
      decide +kernel
    · rw [hslot]
      show _ = BitVec.setWidth 256 (0 : BitVec 64)
      decide +kernel
    · rw [hslot]
      show _ ≤ (90000 : Uint256).toNat
      decide +kernel
    · rw [hslot]
      show (90000 : Uint256).toNat ≤ _
      decide +kernel
    · intro hkey
      exact absurd (brakeKey_eq_zero.mpr rfl) hkey
  have hconsume := Timelock.consume_ok.mpr ⟨hripe, by rw [hslot]; decide +kernel, rfl⟩
  exact ⟨_, Tx.bind_ok.mpr ⟨(), _, timelocked_accepted rfl hconsume, rfl⟩⟩

/-- A brake on the last chain stops no pending wiring. -/
theorem not_voids_lastChain (P : Primitives) : ¬ Voids P lastChain := by
  intro hvoids
  obtain ⟨s', hwired⟩ := rewired P []
  obtain ⟨proposer, since, earlier, hstanding, -, hafter⟩ := hvoids 0xAD (unwound []) _ s'
    (byAnyone []) 0x7E (unwound_run P []) (by unfold Chronological; decide) (by decide) rfl hwired
  have hlate := hafter _ List.mem_cons_self rfl
  obtain ⟨e, he, hproposer, -⟩ := hstanding.mem
  rw [← hproposer] at hlate
  have hnone : ∀ e ∈ unwound [], e.1.1.timestamp.toNat ≤ 2000 := by decide
  exact absurd hlate (Nat.not_lt.mpr (hnone e he))

end LastChain

/-- The brake binds on every chain but the one whose id is all ones. -/
theorem brake_binds (P : Primitives) (chainId : Uint256) :
    (Voids P chainId ∧ Spares P chainId) ↔ chainId ≠ BitVec.allOnes 256 := by
  constructor
  · rintro ⟨hvoids, -⟩ rfl
    exact not_voids_lastChain P hvoids
  · intro hchain
    refine ⟨?_, spares P chainId⟩
    intro admin history s s' msg verifier run hclock hverifier hactive ok
    obtain ⟨proposer, since, earlier, hstanding, hdelay, hafter⟩ :=
      wired_of_run run hclock hverifier hactive ok
    exact ⟨proposer, since, earlier, hstanding, hdelay,
      hafter fun hzero => hchain (brakeKey_eq_zero.mp hzero)⟩

/-- The calldata of `setRootVerifier(2^256 - 1, 0x7E)`: the selector and two words. -/
def sampleWiring : Bytes :=
  [0xB1, 0x48, 0x7F, 0x87] ++ Eip712.concat [BitVec.allOnes 256, 0x7E]

/-- Keccak-256, as far as the sample asks it. -/
def samplePrimitives : Primitives where
  keccak256 data :=
    if data = sampleWiring then
      0xA1F78D19D526244F8DA5AC02586E005BB1C3D529405C53762935B352D08A975F
    else 0
  efficientHash _ := 0
  toTypedDataHash _ _ := 0

/-- The wiring of the last chain proposed at 1000 and braked at 2000 is anyone's to run at
90000. -/
theorem brake_lost :
    ¬ Voids samplePrimitives (BitVec.allOnes 256) ∧
    ∃ s s', Run (system samplePrimitives) (deployed 0xAD)
        [((⟨2000, 0xAD, []⟩, .setRootVerifier (BitVec.allOnes 256) 0), ()),
          ((⟨1000, 0xAD, []⟩, .proposeAction sampleWiring), ())] s ∧
      exec samplePrimitives ⟨90000, 0xE0, sampleWiring⟩
        (.setRootVerifier (BitVec.allOnes 256) 0x7E) s = .ok ((), s') := by
  obtain ⟨s', hwired⟩ := rewired samplePrimitives sampleWiring
  exact ⟨not_voids_lastChain samplePrimitives, _, s', unwound_run samplePrimitives sampleWiring,
    hwired⟩

end EscrowAdmin
end Evm
end ProofBridge
