import ProofBridge.CustodyAccount.Calls
import ProofBridge.Evm.Timelock
import ProofBridge.Lib.Run

/-!
# The custody account

A maker's account on an EVM chain and its guard rail. The owner calls its functions; while any ad is
guarded, what loosens or extracts waits for a schedule of exactly that call. The functions that fund
an ad from the owner's wallet and the agent's own call write nothing of this state: they are moves of
the surroundings.
-/

namespace ProofBridge
namespace CustodyAccount

open ContractLib Evm

def MAX_GUARDED_ADS : ℕ := 16

/-- 30 days. -/
def MAX_GUARD_DELAY : ℕ := 30 * 24 * 60 * 60

/-- 1 hour. -/
def MIN_GUARD_WINDOW : ℕ := 60 * 60

structure Guard where
  rail : GuardRail
  bucket : AgentRateLimit.Bucket
  deriving DecidableEq, Repr

/-- The times are `uint64`; what computes one checks it. -/
structure Schedule where
  commitment : BytesN32
  readyAt : ℕ
  expiresAt : ℕ
  deriving DecidableEq, Repr

/-- The slot of a row that was never written, or deleted. -/
def Schedule.zero : Schedule := ⟨0, 0, 0⟩

structure State where
  owner : EvmAddress
  pendingOwner : EvmAddress
  /-- The armed guards, under their ads' keys. -/
  guards : Map BytesN32 Guard
  guarded : List BytesN32
  /-- The rows that were written and not deleted, under their scope and action. -/
  schedules : Map (BytesN32 × Selector) Schedule

/-- The account and everything around it. -/
structure Chain (Y : Type) where
  state : State
  outside : Y

/-- A call the account is told to make. -/
structure OwnerCall where
  target : EvmAddress
  value : Uint256
  data : Bytes
  deriving DecidableEq, Repr

/-- `abi.encode(target, value, data)`. -/
def encodeCall (c : OwnerCall) : Bytes :=
  Eip712.concat [toBytes32 c.target, c.value, 0x60, BitVec.ofNat 256 c.data.length]
    ++ Abi.padRight c.data

namespace State

variable (s : State)

/-- `_schedules[_slot(scope, action)]`. -/
def schedule (scope : BytesN32) (action : Selector) : Schedule :=
  (s.schedules.get? (scope, action)).getD Schedule.zero

def putSchedule (scope : BytesN32) (action : Selector) (row : Schedule) : State :=
  { s with schedules := s.schedules.set (scope, action) row }

def deleteSchedule (scope : BytesN32) (action : Selector) : State :=
  { s with schedules := s.schedules.remove (scope, action) }

def putGuard (key : BytesN32) (g : Guard) : State := { s with guards := s.guards.set key g }

/-- `_guards[key].rail`; the rail of a key without a guard reads as zeros. -/
def rail (key : BytesN32) : GuardRail :=
  ((s.guards.get? key).map Guard.rail).getD ⟨0, 0, 0, 0, 0⟩

/-- The longest delay and the shortest window across guarded ads, leaving one ad out. -/
def accountTimelockWithout (skip : BytesN32) : ℕ × ℕ :=
  s.guarded.foldl
    (fun t key =>
      if key = skip then t
      else
        (if t.1 < (s.rail key).delay.toNat then (s.rail key).delay.toNat else t.1,
          if (s.rail key).window.toNat < t.2 then (s.rail key).window.toNat else t.2))
    (0, maxU64)

/-- The same over every guarded ad: an ad key is a hash, never zero. -/
def accountTimelock : ℕ × ℕ := s.accountTimelockWithout 0

/-- `if (action != bytes4(0)) delete`. -/
def clearRow (scope : BytesN32) (action : Selector) : State :=
  if action ≠ 0 then s.deleteSchedule scope action else s

/-- The ad's rows and the account's go with the settings they were made under. -/
def clearSchedules (adKey : BytesN32) : State :=
  (adActions.zip accountActions).foldl
    (fun s row => (s.clearRow adKey row.1).clearRow ACCOUNT_SCOPE row.2) s

end State

/-- `uint64(block.timestamp)`. -/
def nowTs (msg : Message) : U64 := msg.timestamp.setWidth 64

/-- The last element moves over the one taken out. -/
def swapPop (key : BytesN32) (keys : List BytesN32) : List BytesN32 :=
  match keys.idxOf? key with
  | some i => (keys.set i (keys.getLastD 0)).dropLast
  | none => keys

def limitOf (r : GuardRail) : AgentRateLimit.Limit where
  capacity := r.capacity
  refillPerSecond := r.refillPerSecond

def isTightening (cur next : GuardRail) : Bool :=
  next.threshold.toNat ≤ cur.threshold.toNat && cur.delay.toNat ≤ next.delay.toNat &&
    next.window.toNat ≤ cur.window.toNat && next.capacity.toNat ≤ cur.capacity.toNat &&
    next.refillPerSecond.toNat ≤ cur.refillPerSecond.toNat

def requireInBounds (r : GuardRail) : Check CustodyError Unit :=
  Check.require (¬(MAX_GUARD_DELAY < r.delay.toNat ∨ r.window.toNat < MIN_GUARD_WINDOW)) .outOfBounds

section Functions

variable (D : Deployment) (msg : Message)

/-- `keccak256(abi.encode(target, value, data))`. -/
def Deployment.commitment (c : OwnerCall) : BytesN32 := D.keccak256 (encodeCall c)

/-- The call a function of the account is, as it is announced. -/
def Deployment.ownCall : OwnerCall := ⟨D.this, 0, msg.data⟩

def checkOwner : Tx CustodyError State Unit := do
  let s ← Tx.read
  Tx.require (msg.sender = s.owner) .notOwner

/-! ## Schedules -/

/-- Spend a matured, unexpired schedule committed to exactly this call, or refuse. Single use. -/
def spend (scope : BytesN32) (action : Selector) (c : OwnerCall) : Tx CustodyError State Unit := do
  let s ← Tx.read
  let row := s.schedule scope action
  Tx.require (¬(row.readyAt = 0 ∨ row.commitment ≠ D.commitment c
    ∨ msg.timestamp.toNat < row.readyAt ∨ row.expiresAt ≤ msg.timestamp.toNat)) .notScheduled
  Tx.modify fun s => s.deleteSchedule scope action

def restampRow (scope : BytesN32) (notBefore : ℕ) (action : Selector) :
    Tx CustodyError State Unit := do
  let s ← Tx.read
  let row := s.schedule scope action
  if row.readyAt ≠ 0 ∧ row.readyAt < notBefore then do
    let expiresAt ← Tx.lift (Check.add 64 row.expiresAt (notBefore - row.readyAt))
    Tx.modify fun s => s.putSchedule scope action { row with readyAt := notBefore, expiresAt }
  else pure ()

def clampRow (scope : BytesN32) (window : ℕ) (action : Selector) : Tx CustodyError State Unit := do
  let s ← Tx.read
  let row := s.schedule scope action
  if row.readyAt ≠ 0 then do
    let closes ← Tx.lift (Check.add 64 row.readyAt window)
    if closes < row.expiresAt then
      Tx.modify fun s => s.putSchedule scope action { row with expiresAt := closes }
    else pure ()
  else pure ()

/-- One row after the other. -/
def eachRow (f : Selector → Tx CustodyError State Unit) : List Selector → Tx CustodyError State Unit
  | [] => pure ()
  | action :: actions => do
    f action
    eachRow f actions

def restamp (scope : BytesN32) (notBefore : ℕ) : Tx CustodyError State Unit :=
  eachRow (restampRow scope notBefore) (visited scope)

def clampWindow (scope : BytesN32) (window : ℕ) : Tx CustodyError State Unit :=
  eachRow (clampRow scope window) (visited scope)

/-! ## Owner controls -/

/-- The loosening of a rail spends its schedule. -/
def spendIf (loosening : Bool) (scope : BytesN32) (action : Selector) (c : OwnerCall) :
    Tx CustodyError State Unit :=
  if loosening then spend D msg scope action c else pure ()

/-- The level the new rail starts from: the old bucket settled at the old rate, then clamped. -/
def settledLevel (current : Option Guard) (rail : GuardRail) : Check CustodyError ℕ :=
  match current with
  | some g => do
    let settled ← AgentRateLimit.available (limitOf g.rail) g.bucket (nowTs msg)
    pure (if rail.capacity.toNat < settled then rail.capacity.toNat else settled)
  | none => pure rail.capacity.toNat

/-- A nomination made before the rail was armed would complete with no announcement. -/
def onFirstGuard : Tx CustodyError State Unit := Tx.modify fun s => { s with pendingOwner := 0 }

def beforeGuarded : Tx CustodyError State Unit := do
  let s ← Tx.read
  if s.guarded.length = 0 then onFirstGuard else pure ()

/-- A key new to the roster. -/
def enroll (current : Option Guard) (key : BytesN32) : Tx CustodyError State Unit :=
  if current.isSome then pure ()
  else do
    let s ← Tx.read
    Tx.require (¬MAX_GUARDED_ADS ≤ s.guarded.length) .badGuardRail
    beforeGuarded
    Tx.modify fun s => { s with guarded := s.guarded ++ [key] }

/-- A pending change waits the new, longer delay. -/
def raiseDelay (scope : BytesN32) (before : ℕ) (rail : GuardRail) : Tx CustodyError State Unit :=
  if before < rail.delay.toNat then do
    let notBefore ← Tx.lift (Check.add 64 (nowTs msg).toNat rail.delay.toNat)
    restamp scope notBefore
  else pure ()

/-- What an arming or a tightening does to the pending rows. -/
def retime (key : BytesN32) (adDelayBefore accountDelayBefore : ℕ) (rail : GuardRail) :
    Tx CustodyError State Unit := do
  raiseDelay msg key adDelayBefore rail
  raiseDelay msg ACCOUNT_SCOPE accountDelayBefore rail
  clampWindow key rail.window.toNat
  let s ← Tx.read
  clampWindow ACCOUNT_SCOPE s.accountTimelock.2

/-- Arm or change an ad's guard rail. -/
def setGuardRail (adId : AdId) (rail : GuardRail) : Tx CustodyError State Unit := do
  checkOwner msg
  Tx.require (¬(rail.delay = 0 ∨ rail.window = 0 ∨ rail.capacity = 0 ∨ rail.refillPerSecond = 0))
    .badGuardRail
  Tx.require (¬(AgentRateLimit.U128_MAX < rail.capacity.toNat
    ∨ AgentRateLimit.U128_MAX < rail.refillPerSecond.toNat)) .badGuardRail
  Tx.lift (requireInBounds rail)
  let key := D.adKey adId
  let s ← Tx.read
  let current := s.guards.get? key
  let loosening := current.any fun g => !isTightening g.rail rail
  spendIf D msg loosening key Selector.setGuardRail (D.ownCall msg)
  let adDelayBefore := (current.map fun g => g.rail.delay.toNat).getD 0
  let accountDelayBefore := if s.guarded.length = 0 then 0 else s.accountTimelock.1
  let level ← Tx.lift (settledLevel msg current rail)
  enroll current key
  Tx.modify fun s => s.putGuard key ⟨rail, ⟨BitVec.ofNat 256 level, nowTs msg⟩⟩
  if loosening then Tx.modify fun s => s.clearSchedules key
  else retime msg key adDelayBefore accountDelayBefore rail

def disarm (key : BytesN32) : Tx CustodyError State Unit :=
  Tx.modify fun s => ({ s with
    guards := s.guards.remove key
    guarded := swapPop key s.guarded } : State).clearSchedules key

/-- Take an ad's guard rail off. -/
def disarmGuardRail (adId : AdId) : Tx CustodyError State Unit := do
  checkOwner msg
  let key := D.adKey adId
  let s ← Tx.read
  Tx.require ((s.guards.get? key).isSome = true) .noGuardRail
  spend D msg key Selector.disarmGuardRail (D.ownCall msg)
  disarm key

variable {Y : Type} (N : Neighbors Y) (y : Y)

/-- Take the rail off an ad this account closed on a pinned escrow, at once. -/
def disarmClosedAd (adManager : EvmAddress) (adId : AdId) : Tx CustodyError State Unit := do
  checkOwner msg
  let key := D.adKey adId
  let s ← Tx.read
  Tx.require ((s.guards.get? key).isSome = true) .noGuardRail
  Tx.require (N.isTargetPinned y adManager = true) .notAllowed
  let ad ← Tx.expectTrap (N.ads y adManager adId) .callFailed
  Tx.require (ad.maker = D.this) .notAllowed
  Tx.require (¬(ad.isOpen = true ∨ ad.balance ≠ 0 ∨ ad.locked ≠ 0)) .adStillOpen
  let now := s.accountTimelock
  let after := s.accountTimelockWithout key
  Tx.require (¬(after.1 < now.1 ∨ now.2 < after.2)) .disarmLowersTimelock
  disarm key

/-- The rail a `setGuardRail` names is checked when it is announced. -/
def checkAnnounced (action : Selector) (c : OwnerCall) : Check CustodyError Unit :=
  if c.target = D.this ∧ action = Selector.setGuardRail then do
    let (_, next) ← Check.expect (guardRailArgs (argsOf c.data)) .malformed
    requireInBounds next
  else pure ()

/-- The delay and the window a row of this scope is stored under. -/
def scheduleTerms (scope adKey : BytesN32) (s : State) : Check CustodyError (ℕ × ℕ) :=
  if scope = ACCOUNT_SCOPE then do
    Check.require (adKey = 0) .scopeMismatch
    Check.require (s.guarded.length ≠ 0) .noGuardRail
    pure s.accountTimelock
  else do
    Check.require (adKey = scope) .scopeMismatch
    let g ← Check.expect (s.guards.get? scope) .noGuardRail
    pure (g.rail.delay.toNat, g.rail.window.toNat)

/-- Announce a delayed call and start its clock. -/
def schedule (scope : BytesN32) (c : OwnerCall) : Tx CustodyError State Unit := do
  checkOwner msg
  let (action, adKey) ← Tx.lift (actionOf D c.target c.value c.data)
  let kind ← Tx.lift (kindOf D N y action adKey c.target c.data)
  Tx.require (kind = .delayed ∨ kind = .perAd) .notAllowed
  Tx.lift (checkAnnounced D action c)
  let (delay, window) ← Tx.view (scheduleTerms scope adKey)
  let readyAt ← Tx.lift (Check.add 64 (nowTs msg).toNat delay)
  let expiresAt ← Tx.lift (Check.add 64 readyAt window)
  Tx.modify fun s => s.putSchedule scope action ⟨D.commitment c, readyAt, expiresAt⟩

/-- Stand a schedule down. -/
def cancel (scope : BytesN32) (action : Selector) : Tx CustodyError State Unit := do
  checkOwner msg
  let s ← Tx.read
  Tx.require ((s.schedule scope action).readyAt ≠ 0) .notScheduled
  Tx.modify fun s => s.deleteSchedule scope action

/-! ## The gate -/

def gateAdCall (adKey : BytesN32) (action : Selector) (c : OwnerCall) :
    Tx CustodyError State Unit := do
  let s ← Tx.read
  match s.guards.get? adKey with
  | none => pure ()
  | some g => do
    let amount ← Tx.lift (amountOf action c.data)
    if action = CLOSE ∨ action = SET_SIGNER ∨ g.rail.threshold.toNat < amount then
      spend D msg adKey action c
    else do
      let spent ← Tx.lift (AgentRateLimit.trySpend (limitOf g.rail) g.bucket amount (nowTs msg))
      let next ← Tx.expect spent .volumeExceeded
      Tx.modify fun s => s.putGuard adKey { g with bucket := next }

/-- What the gate does with a call of each kind. -/
def gateKind (kind : Kind) (adKey : BytesN32) (action : Selector) (c : OwnerCall) :
    Tx CustodyError State Unit :=
  match kind with
  | .refused => Tx.fail .notAllowed
  | .instant => pure ()
  | .perAd => gateAdCall D msg adKey action c
  | .delayed => spend D msg ACCOUNT_SCOPE action c

/-- Every owner call the account makes on the owner's behalf comes through here before it runs. -/
def gate (c : OwnerCall) : Tx CustodyError State Unit := do
  Tx.require (c.target ≠ D.this) .selfCall
  let s ← Tx.read
  if s.guarded.length = 0 then pure ()
  else do
    let (action, adKey) ← Tx.lift (actionOf D c.target c.value c.data)
    let kind ← Tx.lift (kindOf D N y action adKey c.target c.data)
    gateKind D msg kind adKey action c

/-- For the account's own functions that extract. -/
def gateSelf (action : Selector) : Tx CustodyError State Unit := do
  let s ← Tx.read
  if s.guarded.length ≠ 0 then spend D msg ACCOUNT_SCOPE action (D.ownCall msg) else pure ()

/-! ## Ownership -/

/-- Standing a nomination down (`newOwner` zero) is instant. -/
def gateNomination (newOwner : EvmAddress) : Tx CustodyError State Unit :=
  if newOwner ≠ 0 then gateSelf D msg Selector.transferOwnership else pure ()

def transferOwnership (newOwner : EvmAddress) : Tx CustodyError State Unit := do
  checkOwner msg
  gateNomination D msg newOwner
  Tx.modify fun s => { s with pendingOwner := newOwner }

def acceptOwnership : Tx CustodyError State Unit := do
  let s ← Tx.read
  Tx.require (msg.sender = s.pendingOwner) .notPendingOwner
  Tx.modify fun s => { s with owner := msg.sender, pendingOwner := 0 }

/-! ## Calls made as the account -/

/-- A part of a call that touches the account's own state only. -/
def onAccount {α : Type} (x : Y → Tx CustodyError State α) : Tx CustodyError (Chain Y) α := do
  let c ← Tx.read
  Tx.zoom Chain.state (fun c s => { c with state := s }) id (x c.outside)

/-- `target.call{value: value}(data)`; a failure is bubbled up. -/
def callOut (c : OwnerCall) : Tx CustodyError (Chain Y) Unit := do
  let chain ← Tx.read
  let y ← Tx.expectTrap (N.call chain.outside c.target c.value c.data) .callFailed
  Tx.modify fun chain => { chain with outside := y }

/-- Each call passes the gate, then is made. -/
def batch : List OwnerCall → Tx CustodyError (Chain Y) Unit
  | [] => pure ()
  | c :: calls => do
    onAccount fun y => gate D msg N y c
    callOut N c
    batch calls

def execute (c : OwnerCall) : Tx CustodyError (Chain Y) Unit := do
  onAccount fun _ => checkOwner msg
  onAccount fun y => gate D msg N y c
  callOut N c

def executeBatch (calls : List OwnerCall) : Tx CustodyError (Chain Y) Unit := do
  onAccount fun _ => checkOwner msg
  batch D msg N calls

/-- The way out for funds at rest in the account. -/
def sweep (token payee : EvmAddress) (amount : Uint256) : Tx CustodyError (Chain Y) Unit := do
  onAccount fun _ => checkOwner msg
  onAccount fun _ => gateSelf D msg Selector.sweep
  let chain ← Tx.read
  let y ← Tx.expectTrap (N.pay chain.outside token payee amount) .callFailed
  Tx.modify fun chain => { chain with outside := y }

end Functions

/-! ## The account as a system -/

inductive Call
  | setGuardRail (adId : AdId) (rail : GuardRail)
  | disarmGuardRail (adId : AdId)
  | disarmClosedAd (adManager : EvmAddress) (adId : AdId)
  | schedule (scope : BytesN32) (c : OwnerCall)
  | cancel (scope : BytesN32) (action : Selector)
  | transferOwnership (newOwner : EvmAddress)
  | acceptOwnership
  | execute (c : OwnerCall)
  | executeBatch (calls : List OwnerCall)
  | sweep (token payee : EvmAddress) (amount : Uint256)
  /-- The rest of a batch, after one of the contracts it called entered the account in between. The
  lock keeps out `execute`, `executeBatch` and `sweep` meanwhile, and nothing else. -/
  | batchRest (calls : List OwnerCall)
  deriving DecidableEq

/-- What `initialize` leaves, called once by the factory. -/
def initialized (owner : EvmAddress) : Check CustodyError State := do
  Check.require (owner ≠ 0) .zeroOwner
  pure { owner, pendingOwner := 0, guards := ∅, guarded := [], schedules := ∅ }

section System

variable {Y : Type} (D : Deployment) (N : Neighbors Y)

def exec (msg : Message) : Call → Tx CustodyError (Chain Y) Unit
  | .setGuardRail adId rail => onAccount fun _ => setGuardRail D msg adId rail
  | .disarmGuardRail adId => onAccount fun _ => disarmGuardRail D msg adId
  | .disarmClosedAd adManager adId => onAccount fun y => disarmClosedAd D msg N y adManager adId
  | .schedule scope c => onAccount fun y => schedule D msg N y scope c
  | .cancel scope action => onAccount fun _ => cancel msg scope action
  | .transferOwnership newOwner => onAccount fun _ => transferOwnership D msg newOwner
  | .acceptOwnership => onAccount fun _ => acceptOwnership msg
  | .execute c => execute D msg N c
  | .executeBatch calls => executeBatch D msg N calls
  | .sweep token payee amount => sweep D msg N token payee amount
  | .batchRest calls => batch D msg N calls

/-- `(address, address, uint256)`. -/
def sweepArgs (args : Bytes) : Option (EvmAddress × EvmAddress × Uint256) := do
  Abi.hasHead args 0 3
  let token ← Abi.uint args 160 0
  let payee ← Abi.uint args 160 32
  let amount ← Abi.uint args 256 64
  pure (token, payee, amount)

/-- `(address)`. -/
def ownerArg (args : Bytes) : Option EvmAddress := do
  Abi.hasHead args 0 1
  Abi.uint args 160 0

/-- The bytes a function that reads `msg.data` was dispatched from. -/
def dispatched (data : Bytes) : Call → Bool
  | .setGuardRail adId rail =>
    selectorOf data = Selector.setGuardRail && guardRailArgs (argsOf data) = some (adId, rail)
  | .disarmGuardRail adId =>
    selectorOf data = Selector.disarmGuardRail && adIdArg (argsOf data) = some adId
  | .sweep token payee amount =>
    selectorOf data = Selector.sweep && sweepArgs (argsOf data) = some (token, payee, amount)
  | .transferOwnership newOwner =>
    selectorOf data = Selector.transferOwnership && ownerArg (argsOf data) = some newOwner
  | _ => true

/-- A block's time is a `uint64`, and nobody sends from the zero address. -/
def system (outside : Y → Y → Prop) : System CustodyError (Chain Y) (Message × Call) Unit where
  call t := exec D N t.1 t.2
  admits _ t := t.1.timestamp.toNat < 2 ^ 64 ∧ t.1.sender ≠ 0 ∧ dispatched t.1.data t.2 = true
  outside c c' := ∃ y, outside c.outside y ∧ c' = { c with outside := y }

end System

abbrev History := List ((Message × Call) × Unit)

/-- The time of a call of a run. -/
def timeOf (e : (Message × Call) × Unit) : ℕ := e.1.1.timestamp.toNat

/-- Blocks come in order: no call is earlier than one before it. -/
def Chronological (h : History) : Prop := h.Pairwise fun e e' => timeOf e' ≤ timeOf e

end CustodyAccount
end ProofBridge
