import ProofBridge.Disputes.Agreement

/-!
# The clock of one dispute

A dispute's deadline is written by the filing and by every ruling, in the module, and read by the
escrow's finalization. `Recorded` ties the record at any time to the rulings and the responses the
run accepted since the filing, so that what is finalized, and when, is read off the history.
-/

namespace ProofBridge
namespace Disputes

open ContractLib

variable {R : Type} {O : Outside R} {H : Host} {env : Env} {s s' : Chain R}
  {outside : R → R → Prop}

/-! ## What a history says of one dispute -/

/-- The ruling a call makes of an order, in the module `id`. -/
def rulingOf (id orderHash : BytesN32) (t : Env × Call) : Option (ℕ × DisputeOutcome) :=
  match t.2 with
  | .module id' (.resolveDispute orderHash' outcome) =>
    if id' = id ∧ orderHash' = orderHash then some (t.1.now, outcome) else none
  | _ => none

/-- The rulings accepted over an order, the newest first, each with its time. -/
def rulings (id orderHash : BytesN32) (history : History) : List (ℕ × DisputeOutcome) :=
  history.filterMap fun e => rulingOf id orderHash e.1

/-- The response a call records for an order, with the responder. -/
def responseOf (H : Host) (chainId : U128) (orderHash : BytesN32) (t : Env × Call) :
    Option (Address × BytesN32) :=
  match t.2 with
  | .escrow (.respondToDispute params responder evidence) =>
    if AdManager.hashOrder H params chainId = .ok orderHash then some (responder, evidence) else none
  | _ => none

/-- The responses accepted over an order, the newest first. -/
def responses (H : Host) (chainId : U128) (orderHash : BytesN32) (history : History) :
    List (Address × BytesN32) :=
  history.filterMap fun e => responseOf H chainId orderHash e.1

theorem rulings_cons (id orderHash : BytesN32) (t : Env × Call) (ret : Ret) (history : History) :
    rulings id orderHash ((t, ret) :: history)
      = (rulingOf id orderHash t).toList ++ rulings id orderHash history := by
  unfold rulings
  rw [List.filterMap_cons]
  cases rulingOf id orderHash t <;> rfl

theorem responses_cons (chainId : U128) (orderHash : BytesN32) (t : Env × Call) (ret : Ret)
    (history : History) :
    responses H chainId orderHash ((t, ret) :: history)
      = (responseOf H chainId orderHash t).toList ++ responses H chainId orderHash history := by
  unfold responses
  rw [List.filterMap_cons]
  cases responseOf H chainId orderHash t <;> rfl

/-- The outcome a finalization applies: the last ruling, or a mutual refund where there is none. -/
def applied : List (ℕ × DisputeOutcome) → DisputeOutcome
  | [] => .mutualRefund
  | (_, outcome) :: _ => outcome

/-- What the record of a dispute says, after these rulings and responses. -/
structure Recorded (filer : Address) (deadline buffer : ℕ) (rulings : List (ℕ × DisputeOutcome))
    (responses : List (Address × BytesN32)) (d : DisputeRecord) : Prop where
  initiator : d.initiator = filer
  orderDeadline : d.orderDeadline = deadline
  orderBuffer : d.buffer = buffer
  /-- No dispute ends before its order's own window. -/
  window : deadline + buffer ≤ d.challengeDeadline
  unruled : rulings = [] → d.ruling = .none
  /-- A full window follows the last ruling. -/
  ruled : ∀ time outcome earlier, rulings = (time, outcome) :: earlier →
    d.ruling = outcome ∧ d.challengeDeadline = max time deadline + buffer
  proper : ∀ r ∈ rulings, r.2 ≠ .tradeProceeds ∧ r.2 ≠ .none
  unanswered : responses = [] → d.responderEvidence = 0
  /-- One response, of the other party, and it stands. -/
  answered : responses ≠ [] → ∃ responder, responder ≠ filer ∧ d.responderEvidence ≠ 0 ∧
    responses = [(responder, d.responderEvidence)]

namespace Recorded

variable {filer : Address} {deadline buffer : ℕ} {ruled : List (ℕ × DisputeOutcome)}
  {answers : List (Address × BytesN32)} {d : DisputeRecord}

/-- A record without a ruling had none. -/
theorem no_ruling (h : Recorded filer deadline buffer ruled answers d) (hnone : d.ruling = .none) :
    ruled = [] := by
  cases hruled : ruled with
  | nil => rfl
  | cons r earlier =>
    have houtcome := (h.ruled r.1 r.2 earlier hruled).1
    have hproper := (h.proper r (by rw [hruled]; exact List.mem_cons_self)).2
    rw [hnone] at houtcome
    exact absurd houtcome.symm hproper

theorem no_answer (h : Recorded filer deadline buffer ruled answers d)
    (hzero : d.responderEvidence = 0) : answers = [] := by
  by_contra hne
  obtain ⟨responder, -, hnonzero, -⟩ := h.answered hne
  exact hnonzero hzero

theorem applied_eq (h : Recorded filer deadline buffer ruled answers d) :
    (if d.ruling = .none then .mutualRefund else d.ruling) = applied ruled := by
  cases hruled : ruled with
  | nil =>
    rw [if_pos (h.unruled hruled)]
    rfl
  | cons r earlier =>
    have houtcome := (h.ruled r.1 r.2 earlier hruled).1
    have hproper := (h.proper r (by rw [hruled]; exact List.mem_cons_self)).2
    rw [houtcome, if_neg hproper]
    rfl

theorem filed {p : DisputeParams} {filing : Filing} {bond challengeDeadline : ℕ} {token : Address}
    (hdeadline : DisputeManager.filingDeadline env p filing.deadline filing.buffer
      = .ok challengeDeadline) :
    Recorded filing.filer filing.deadline filing.buffer [] []
      { initiator := filing.filer, bond, challengeDeadline, initiatorEvidence := filing.evidence
        responderEvidence := 0, ruling := .none, escrow := filing.escrow
        orderDeadline := filing.deadline, buffer := filing.buffer, bondToken := token } := by
  simp only [DisputeManager.filingDeadline, Check.bind_ok, Check.add_ok, Check.pure_ok] at hdeadline
  obtain ⟨_, ⟨-, rfl⟩, _, ⟨-, rfl⟩, rfl⟩ := hdeadline
  exact {
    initiator := rfl
    orderDeadline := rfl
    orderBuffer := rfl
    window := le_max_right _ _
    unruled := fun _ => rfl
    ruled := fun time outcome earlier h => by cases h
    proper := fun r hr => by cases hr
    unanswered := fun _ => rfl
    answered := fun h => absurd rfl h }

theorem rule (h : Recorded filer deadline buffer ruled answers d) {outcome : DisputeOutcome}
    (houtcome : outcome ≠ .tradeProceeds ∧ outcome ≠ .none) (time : ℕ) :
    Recorded filer deadline buffer ((time, outcome) :: ruled) answers
      { d with ruling := outcome, challengeDeadline := max time d.orderDeadline + d.buffer } where
  initiator := h.initiator
  orderDeadline := h.orderDeadline
  orderBuffer := h.orderBuffer
  window := by
    show deadline + buffer ≤ max time d.orderDeadline + d.buffer
    rw [h.orderDeadline, h.orderBuffer]
    exact Nat.add_le_add_right (le_max_right _ _) _
  unruled hnil := by cases hnil
  ruled time' outcome' earlier hcons := by
    cases hcons
    refine ⟨rfl, ?_⟩
    show max time d.orderDeadline + d.buffer = _
    rw [h.orderDeadline, h.orderBuffer]
  proper r hr := by
    rcases List.mem_cons.mp hr with rfl | hr
    · exact houtcome
    · exact h.proper r hr
  unanswered := h.unanswered
  answered := h.answered

theorem answer (h : Recorded filer deadline buffer ruled answers d) {responder : Address}
    {evidence : BytesN32} (hother : d.initiator ≠ responder) (hnonzero : evidence ≠ 0)
    (hfirst : d.responderEvidence = 0) :
    Recorded filer deadline buffer ruled ((responder, evidence) :: answers)
      { d with responderEvidence := evidence } where
  initiator := h.initiator
  orderDeadline := h.orderDeadline
  orderBuffer := h.orderBuffer
  window := h.window
  unruled := h.unruled
  ruled := h.ruled
  proper := h.proper
  unanswered hnil := by cases hnil
  answered _ := by
    refine ⟨responder, ?_, hnonzero, ?_⟩
    · rw [← h.initiator]
      exact Ne.symm hother
    · rw [h.no_answer hfirst]

end Recorded

/-! ## One call -/

/-- The escrow's open dispute over an order, in the module `id`. -/
structure Open (H : Host) (chainId : U128) (filer : Address) (deadline buffer : ℕ)
    (id orderHash : BytesN32) (history : History) (s : Chain R) : Prop where
  disputed : s.core.ledger.status orderHash = .disputed
  manager : s.core.ledger.disputeManagers.get? orderHash = some (.contract id)
  record : ∃ d, s.core.outside.record id orderHash = some d ∧ d.escrow = H.address ∧
    Recorded filer deadline buffer (rulings id orderHash history)
      (responses H chainId orderHash history) d

section Step

variable {chainId : U128} {filer : Address} {deadline buffer : ℕ} {id orderHash : BytesN32}
  {history : History}

/-- A call that leaves the dispute and its record alone. -/
theorem Open.kept (h : Open H chainId filer deadline buffer id orderHash history s)
    {t : Env × Call} {ret : Ret} (hruling : rulingOf id orderHash t = none)
    (hresponse : responseOf H chainId orderHash t = none)
    (hdisputed : s'.core.ledger.status orderHash = .disputed)
    (hmanager : s'.core.ledger.disputeManagers.get? orderHash
      = s.core.ledger.disputeManagers.get? orderHash)
    (hrecord : s'.core.outside.record id orderHash = s.core.outside.record id orderHash) :
    Open H chainId filer deadline buffer id orderHash ((t, ret) :: history) s' := by
  refine ⟨hdisputed, hmanager.trans h.manager, ?_⟩
  rw [hrecord, rulings_cons, responses_cons, hruling, hresponse]
  exact h.record

theorem rulingOf_other {id' : BytesN32} {call : DisputeManager.Call}
    (hother : id' ≠ id ∨ call.order ≠ some orderHash) :
    rulingOf id orderHash (env, .module id' call) = none := by
  cases call with
  | resolveDispute orderHash' outcome =>
    refine if_neg ?_
    rintro ⟨rfl, rfl⟩
    rcases hother with hother | hother <;> exact hother rfl
  | _ => rfl

/-- Another contract's or another order's call. -/
theorem record_of_other {w w' : World R} {id' : BytesN32} {call : DisputeManager.Call}
    {ret : DisputeManager.Ret} {state : DisputeManager.State} {c : DisputeManager.Chain R} {rest : R}
    (hstate : w.modules.get? id' = some state)
    (hstep : DisputeManager.Step O.toTokens (hostAt H id') env { state, outside := rest } call ret c)
    (hmodules : w'.modules = w.modules.set id' c.state)
    (hother : id' ≠ id ∨ call.order ≠ some orderHash) :
    w'.record id orderHash = w.record id orderHash := by
  rw [record_of_modules hmodules]
  split
  · next heq =>
    subst heq
    rw [record_of_state hstate]
    exact DisputeManager.getDispute_of_other hstep (hother.resolve_left fun hne => hne rfl)
  · rfl

/-- A call somebody makes to a module directly: of this dispute, it can only be a ruling. -/
theorem Open.direct (h : Open H chainId filer deadline buffer id orderHash history s)
    (hself : env.authorized H.address = false) {id' : BytesN32} {call : DisputeManager.Call}
    {ret : DisputeManager.Ret} {state : DisputeManager.State} {c : DisputeManager.Chain R}
    (hstate : s.core.outside.modules.get? id' = some state)
    (hstep : DisputeManager.Step O.toTokens (hostAt H id') env
      { state, outside := s.core.outside.rest } call ret c) :
    Open H chainId filer deadline buffer id orderHash
      (((env, .module id' call), .module ret) :: history)
      { s with core := { s.core with
        outside := { modules := s.core.outside.modules.set id' c.state, rest := c.outside } } } := by
  by_cases hother : id' ≠ id ∨ call.order ≠ some orderHash
  · refine h.kept (rulingOf_other hother) rfl h.disputed rfl ?_
    exact record_of_other hstate hstep rfl hother
  obtain ⟨hid, horder⟩ := not_or.mp hother
  obtain rfl := not_not.mp hid
  have horder := not_not.mp horder
  obtain ⟨d, hopen, hescrow, hrecorded⟩ := h.record
  rw [record_of_state hstate] at hopen
  -- whoever acts as the record's escrow acts as this contract, and nobody may
  have hforeign : ∀ who, env.authorized who = true → d.escrow = who → False := by
    rintro who hwho rfl
    rw [hescrow, hself] at hwho
    cases hwho
  cases hstep with
  | openDispute hcaller hserved hnew =>
    rw [Option.some.inj horder, hopen] at hnew
    cases hnew
  | settleBond hauth hopen' hescrow' =>
    rw [Option.some.inj horder, hopen] at hopen'
    cases hopen'
    exact (hforeign _ hauth hescrow').elim
  | recordResponse hauth hresponder hopen' hescrow' =>
    rw [Option.some.inj horder, hopen] at hopen'
    cases hopen'
    exact (hforeign _ hauth hescrow').elim
  | @resolveDispute _ outcome arbiter _ harbiter hauth houtcome hopen' =>
    obtain rfl := Option.some.inj horder
    rw [hopen] at hopen'
    cases hopen'
    refine ⟨h.disputed, h.manager, { d with
      ruling := outcome
      challengeDeadline := max env.now d.orderDeadline + d.buffer }, ?_, hescrow, ?_⟩
    · rw [record_of_modules (w := s.core.outside) rfl, if_pos rfl,
        DisputeManager.getDispute_withDispute, if_pos rfl]
    · rw [rulings_cons, responses_cons]
      simp only [rulingOf, responseOf, and_self, if_true, Option.toList_some, Option.toList_none,
        List.singleton_append, List.nil_append]
      exact hrecorded.rule houtcome env.now
  | admin hcall =>
    rw [DisputeManager.order_of_administrative hcall] at horder
    cases horder
  | initializeContract => cases horder
  | claimNative hcall => rcases hcall with rfl | rfl <;> cases horder
  | claimToken => cases horder

/-- A call of the escrow: of this dispute it can only be a response, or what ends it. -/
theorem Open.touched (h : Open H chainId filer deadline buffer id orderHash history s)
    (hchain : ∀ config, s.core.settings.config = some config → config.chainId = chainId)
    {call : AdManager.Call} {ret : AdManager.Ret} (htouch : Touch O H env call s s') :
    Open H chainId filer deadline buffer id orderHash
        (((env, .escrow call), .escrow ret) :: history) s' ∨
      s'.core.ledger.status orderHash ≠ .disputed := by
  have hquiet : responds call = false →
      responseOf H chainId orderHash (env, .escrow call) = none := by
    intro hcall
    cases call <;> first
      | rfl
      | cases hcall
  cases htouch with
  | apart hcall hmodules hmanagers hdisputed =>
    refine .inl (h.kept rfl (hquiet hcall) ((hdisputed _).mpr h.disputed) (by rw [hmanagers]) ?_)
    unfold World.record
    rw [hmodules]
  | @filed id' filing params config t hcall hparams hconfig hhash htiming hdeadline hbuffer hnew
      hescrow hmoved hmanagers hdisputed =>
    have hne : orderHash ≠ filing.orderHash := by
      rintro rfl
      rw [h.disputed] at hnew
      rcases hnew with hnew | hnew <;> cases hnew
    obtain ⟨hstate, hstep, hmodules⟩ := hmoved
    refine .inl (h.kept rfl (hquiet hcall) ((hdisputed _).mpr (.inr h.disputed)) ?_ ?_)
    · rw [hmanagers, Map.get?_set_ne hne]
    · refine record_of_other hstate hstep hmodules (.inr ?_)
      exact fun heq => hne (Option.some.inj heq).symm
  | @responded id' response params config ad hcall hconfig hhash had hparty hbefore hmanager hescrow
      hmoved hmanagers hdisputed =>
    subst hcall
    rw [hchain _ hconfig] at hhash
    obtain ⟨hstate, hstep, hmodules⟩ := hmoved
    by_cases heq : response.orderHash = orderHash
    · subst heq
      rw [h.manager] at hmanager
      cases hmanager
      obtain ⟨d, hopen, hescrow', hrecorded⟩ := h.record
      rw [record_of_state hstate] at hopen
      have hafter := record_of_modules hmodules id response.orderHash
      cases hstep with
      | admin hcall => cases hcall
      | claimNative hcall => rcases hcall with hcall | hcall <;> cases hcall
      | recordResponse hauth hresponder hopen' _ hother hnonzero hfirst =>
        rw [hopen] at hopen'
        cases hopen'
        rw [if_pos rfl, DisputeManager.getDispute_withDispute, if_pos rfl] at hafter
        refine .inl ⟨(hdisputed _).mpr h.disputed, by rw [hmanagers]; exact h.manager, _, hafter,
          hescrow', ?_⟩
        rw [rulings_cons, responses_cons]
        simp only [rulingOf, responseOf, hhash, if_true, Option.toList_some, Option.toList_none,
          List.singleton_append, List.nil_append]
        exact hrecorded.answer hother hnonzero hfirst
    · refine .inl (h.kept rfl ?_ ((hdisputed _).mpr h.disputed) (by rw [hmanagers]) ?_)
      · unfold responseOf
        simp only [hhash, Except.ok.injEq, heq, if_false]
      · refine record_of_other hstate hstep hmodules (.inr ?_)
        exact fun h => heq (Option.some.inj h)
  | @closed id' settlement hcall hbefore hmanager hescrow hmoved hmanagers hdisputed =>
    by_cases heq : orderHash = settlement.orderHash
    · exact .inr fun hstatus => ((hdisputed _).mp hstatus).1 heq
    · obtain ⟨hstate, hstep, hmodules⟩ := hmoved
      refine .inl (h.kept rfl (hquiet hcall) ((hdisputed _).mpr ⟨heq, h.disputed⟩)
        (by rw [hmanagers]) ?_)
      refine record_of_other hstate hstep hmodules (.inr ?_)
      exact fun h => heq (Option.some.inj h).symm

/-- What happens around the two contracts leaves the dispute alone. -/
theorem Open.around (h : Open H chainId filer deadline buffer id orderHash history s)
    (hmoved : (system O H outside).outside s s') :
    Open H chainId filer deadline buffer id orderHash history s' := by
  obtain ⟨d, hd, hrest⟩ := h.record
  obtain ⟨w, rfl, hw⟩ := hmoved
  refine ⟨h.disputed, h.manager, d, ?_, hrest⟩
  rcases hw with ⟨rest, -, rfl⟩ | ⟨id', hnew, rfl⟩
  · exact hd
  · rw [record_of_modules (w := s.core.outside) rfl, if_neg]
    · exact hd
    · rintro rfl
      unfold World.record at hd
      rw [hnew] at hd
      cases hd

end Step

/-! ## From the filing on -/

/-- A filing opens a dispute nobody ruled or answered yet. -/
theorem open_of_filed {chainId : U128} {id : BytesN32} {filing : Filing}
    (hescrow : filing.escrow = H.address) (hmoved : Moved O H env id (.openDispute filing) s s')
    (hmanagers : s'.core.ledger.disputeManagers.get? filing.orderHash = some (.contract id))
    (hdisputed : s'.core.ledger.status filing.orderHash = .disputed) :
    Open H chainId filing.filer filing.deadline filing.buffer id filing.orderHash [] s' := by
  obtain ⟨hstate, hstep, hmodules⟩ := hmoved
  obtain ⟨-, p, token, bond, challengeDeadline, hdeadline, -, hrecord⟩ :=
    DisputeManager.filed_of_step hstep
  have hafter := record_of_modules hmodules id filing.orderHash
  rw [if_pos rfl] at hafter
  exact ⟨hdisputed, hmanagers, _, hafter.trans hrecord, hescrow, Recorded.filed hdeadline⟩

theorem sound_of_run {rest : R} {history : History}
    (run : Run (system O H outside) (start rest) history s) : s.Sound := by
  refine run.invariant (I := fun _ s => s.Sound) (AdManager.Chain.sound_fresh _) ?_ ?_
  · rintro history s ⟨env, call⟩ ret s' _ hs _ ok
    cases step_of_exec ok with
    | escrow hstep => exact (AdManager.settings_of_step hstep hs).1
    | module => exact ⟨hs.settings, hs.fees⟩
  · rintro history s s' _ hs ⟨w, rfl, -⟩
    exact ⟨hs.settings, hs.fees⟩

theorem legs_of_run {rest : R} {history : History}
    (run : Run (system O H outside) (start rest) history s) (orderHash : BytesN32) :
    (AdManager.leg orderHash s).Sound := by
  refine run.invariant (I := fun _ s => (AdManager.leg orderHash s).Sound) ?_ ?_ ?_
  · exact AdManager.Leg.sound_absent
  · rintro history s ⟨env, call⟩ ret s' _ hs _ ok
    cases step_of_exec ok with
    | escrow hstep => exact (AdManager.legStep_of_step hstep orderHash).sound hs
    | module => exact hs
  · rintro history s s' _ hs ⟨w, rfl, -⟩
    exact hs

/-- Every state a run goes on to, from one that is sound and agrees with its modules. -/
structure Ongoing (H : Host) (chainId : U128) (s : Chain R) : Prop where
  agreement : Agreement H s
  sound : s.Sound
  config : ∃ config, s.core.settings.config = some config ∧ config.chainId = chainId

theorem Ongoing.step {chainId : U128} {call : Call} {ret : Ret} (h : Ongoing H chainId s)
    (hself : env.authorized H.address = false) (hstep : Step O H env s call ret s') :
    Ongoing H chainId s' := by
  refine ⟨h.agreement.step hself hstep, ?_, ?_⟩
  · cases hstep with
    | escrow hstep => exact (AdManager.settings_of_step hstep h.sound).1
    | module => exact ⟨h.sound.settings, h.sound.fees⟩
  · obtain ⟨config, hconfig, hchain⟩ := h.config
    cases hstep with
    | escrow hstep =>
      obtain ⟨admin, hconfig'⟩ :=
        (AdManager.settings_of_step hstep h.sound).2.settings.config config hconfig
      exact ⟨_, hconfig', hchain⟩
    | module => exact ⟨config, hconfig, hchain⟩

theorem Ongoing.around {chainId : U128} (h : Ongoing H chainId s)
    (hmoved : (system O H outside).outside s s') : Ongoing H chainId s' := by
  have hagree := h.agreement.around hmoved
  obtain ⟨w, rfl, -⟩ := hmoved
  exact ⟨hagree, ⟨h.sound.settings, h.sound.fees⟩, h.config⟩

theorem Ongoing.chainId {chainId : U128} (h : Ongoing H chainId s) (config : ContractConfig)
    (hconfig : s.core.settings.config = some config) : config.chainId = chainId := by
  obtain ⟨config', hconfig', hchain⟩ := h.config
  rw [hconfig] at hconfig'
  cases hconfig'
  exact hchain

/-- While a dispute lasts, its record is what the history since its filing makes it. -/
theorem open_of_run {chainId : U128} {filer : Address} {deadline buffer : ℕ}
    {id orderHash : BytesN32} {s₁ : Chain R} {history : History} (hstart : Ongoing H chainId s₁)
    (hopen : Open H chainId filer deadline buffer id orderHash [] s₁)
    (run : Run (system O H outside) s₁ history s) :
    Ongoing H chainId s ∧ (Open H chainId filer deadline buffer id orderHash history s ∨
      (s.core.ledger.status orderHash).terminal = true) := by
  refine run.invariant (I := fun history s => Ongoing H chainId s ∧
    (Open H chainId filer deadline buffer id orderHash history s ∨
      (s.core.ledger.status orderHash).terminal = true)) ⟨hstart, .inl hopen⟩ ?_ ?_
  · rintro history s ⟨env, call⟩ ret s' _ ⟨hgoing, hcase⟩ hself ok
    have hstep := step_of_exec ok
    refine ⟨hgoing.step hself hstep, ?_⟩
    cases hstep with
    | module hstate hmodule =>
      rcases hcase with hopen | hended
      · exact .inl (hopen.direct hself hstate hmodule)
      · exact .inr hended
    | escrow hstep =>
      have hleg := AdManager.legStep_of_step hstep orderHash
      rcases hcase with hopen | hended
      · refine (hopen.touched hgoing.chainId (touch_of_step hgoing.agreement hstep)).imp_right ?_
        intro hleft
        exact (hleg.disputed_or_ended hopen.disputed).resolve_left hleft
      · refine .inr ?_
        show (AdManager.leg orderHash s').record.status.terminal = true
        rw [hleg.terminal hended]
        exact hended
  · rintro history s s' _ ⟨hgoing, hcase⟩ hmoved
    refine ⟨hgoing.around hmoved, ?_⟩
    rcases hcase with hopen | hended
    · exact .inl (hopen.around hmoved)
    · obtain ⟨w, rfl, -⟩ := hmoved
      exact .inr hended

/-! ## The doors of an open dispute -/

theorem outcome_of_record {w : World R} {id orderHash : BytesN32} {d : DisputeRecord}
    (h : w.record id orderHash = some d) (O : Outside R) (H : Host) :
    (withModules O H).outcomeOf w env (.contract id) orderHash
      = .ok (d.ruling, decide (d.challengeDeadline ≤ env.now), some d.initiator) := by
  obtain ⟨state, hstate, hopen⟩ := Option.bind_eq_some_iff.mp h
  show World.consult w (.contract id) (DisputeManager.outcomeOf env orderHash) = _
  rw [World.consult_of_get? hstate, DisputeManager.outcomeOf, hopen]

/-- The verdict the escrow applies, and that its window is over. -/
theorem verdict_of_open {chainId : U128} {filer : Address} {deadline buffer : ℕ}
    {id orderHash : BytesN32} {history : History} {d : DisputeRecord}
    (h : Open H chainId filer deadline buffer id orderHash history s)
    (hrecord : s.core.outside.record id orderHash = some d)
    (hrecorded : Recorded filer deadline buffer (rulings id orderHash history)
      (responses H chainId orderHash history) d) {verdict : DisputeOutcome × Option Address}
    (hverdict : Escrow.disputeOutcome (withModules O H) env orderHash s.core = .ok verdict) :
    d.challengeDeadline ≤ env.now ∧ verdict.1 = applied (rulings id orderHash history) := by
  simp only [Escrow.disputeOutcome, Escrow.orderDisputeManager, h.manager, Check.bind_ok,
    Check.expect_ok, Option.some.injEq, moduleAnswer_ok, Check.require_ok, Check.pure_ok] at hverdict
  obtain ⟨_, rfl, answer, hanswer, _, hover, rfl⟩ := hverdict
  rw [outcome_of_record hrecord] at hanswer
  cases hanswer
  exact ⟨of_decide_eq_true hover, hrecorded.applied_eq⟩

/-- When and how the doors of a dispute open, given the rulings and responses so far. -/
structure Doors (O : Outside R) (H : Host) (chainId : U128) (deadline buffer : ℕ)
    (id orderHash : BytesN32) (ruled : List (ℕ × DisputeOutcome)) (d : DisputeRecord)
    (s : Chain R) : Prop where
  /-- A response is the first, by the order's other party, before the deadline and any ruling. -/
  response : ∀ env params responder evidence ret s',
    exec O H env (.escrow (.respondToDispute params responder evidence)) s = .ok (ret, s') →
    AdManager.hashOrder H params chainId = .ok orderHash →
    env.now < d.challengeDeadline ∧ ruled = [] ∧ d.responderEvidence = 0 ∧ evidence ≠ 0 ∧
      responder ≠ d.initiator ∧ ∃ ad, s.ads.get? params.adId = some ad ∧
        AdManager.requireParty responder ad.maker params.orderRecipient = .ok ()
  /-- A ruling comes before the deadline. -/
  ruling : ∀ env outcome ret s',
    exec O H env (.module id (.resolveDispute orderHash outcome)) s = .ok (ret, s') →
    env.now < d.challengeDeadline ∧ outcome ≠ .tradeProceeds ∧ outcome ≠ .none
  /-- A finalization comes after it, a full window after the last ruling, and applies that. -/
  finalize : ∀ env params ret s',
    exec O H env (.escrow (.finalizeDispute params)) s = .ok (ret, s') →
    AdManager.hashOrder H params chainId = .ok orderHash →
    d.challengeDeadline ≤ env.now ∧ deadline + buffer ≤ env.now ∧
      (∀ r ∈ ruled.head?, max r.1 deadline + buffer ≤ env.now) ∧
      s'.core.leaves = (orderHash, AdManager.rulingDomain (applied ruled)) :: s.core.leaves ∧
      ∃ config amount ad s₁, AdManager.RulingPaid (withModules O H) H env config params orderHash
        (applied ruled) amount ad s s₁ ∧ s'.ads = s₁.ads ∧
        s'.core.events = .disputeFinalized orderHash (applied ruled) :: s₁.core.events
  /-- So nobody rules once somebody could finalize. -/
  apart : ∀ env outcome ret s' env' params ret' s'',
    exec O H env (.module id (.resolveDispute orderHash outcome)) s = .ok (ret, s') →
    exec O H env' (.escrow (.finalizeDispute params)) s = .ok (ret', s'') →
    AdManager.hashOrder H params chainId = .ok orderHash → env.now < env'.now

section Doors

variable {chainId : U128} {filer : Address} {deadline buffer : ℕ} {id orderHash : BytesN32}
  {history : History} {d : DisputeRecord}

theorem response_of_open (hgoing : Ongoing H chainId s)
    (h : Open H chainId filer deadline buffer id orderHash history s)
    (hrecord : s.core.outside.record id orderHash = some d)
    (hrecorded : Recorded filer deadline buffer (rulings id orderHash history)
      (responses H chainId orderHash history) d) {params : AdManager.OrderParams}
    {responder : Address} {evidence : BytesN32} {ret : Ret}
    (ok : exec O H env (.escrow (.respondToDispute params responder evidence)) s = .ok (ret, s'))
    (hhash : AdManager.hashOrder H params chainId = .ok orderHash) :
    env.now < d.challengeDeadline ∧ rulings id orderHash history = [] ∧ d.responderEvidence = 0 ∧
      evidence ≠ 0 ∧ responder ≠ d.initiator ∧ ∃ ad, s.ads.get? params.adId = some ad ∧
        AdManager.requireParty responder ad.maker params.orderRecipient = .ok () := by
  cases step_of_exec ok with
  | escrow hstep =>
    cases touch_of_step hgoing.agreement hstep with
    | apart hcall => cases hcall
    | filed hcall => cases hcall
    | closed hcall => cases hcall
    | responded hcall hconfig hhash' had hparty hbefore hmanager hescrow hmoved =>
      cases hcall
      rw [hgoing.chainId _ hconfig, hhash] at hhash'
      obtain rfl := Except.ok.inj hhash'
      rw [h.manager] at hmanager
      cases hmanager
      obtain ⟨hstate, hmodule, -⟩ := hmoved
      rw [record_of_state hstate] at hrecord
      cases hmodule with
      | admin hcall => cases hcall
      | claimNative hcall => rcases hcall with hcall | hcall <;> cases hcall
      | recordResponse hauth hresponder hopen hescrow' hother hnonzero hfirst hunruled hbefore =>
        rw [hrecord] at hopen
        cases hopen
        exact ⟨hbefore, hrecorded.no_ruling hunruled, hfirst, hnonzero, Ne.symm hother, _, had,
          hparty⟩

theorem ruling_of_open (hrecord : s.core.outside.record id orderHash = some d)
    {outcome : DisputeOutcome} {ret : Ret}
    (ok : exec O H env (.module id (.resolveDispute orderHash outcome)) s = .ok (ret, s')) :
    env.now < d.challengeDeadline ∧ outcome ≠ .tradeProceeds ∧ outcome ≠ .none := by
  cases step_of_exec ok with
  | module hstate hmodule =>
    rw [record_of_state hstate] at hrecord
    cases hmodule with
    | admin hcall => cases hcall
    | claimNative hcall => rcases hcall with hcall | hcall <;> cases hcall
    | resolveDispute harbiter hauth houtcome hopen hbefore =>
      rw [hrecord] at hopen
      cases hopen
      exact ⟨hbefore, houtcome⟩

theorem finalize_of_open (hgoing : Ongoing H chainId s)
    (h : Open H chainId filer deadline buffer id orderHash history s)
    (hrecord : s.core.outside.record id orderHash = some d)
    (hrecorded : Recorded filer deadline buffer (rulings id orderHash history)
      (responses H chainId orderHash history) d) {params : AdManager.OrderParams} {ret : Ret}
    (ok : exec O H env (.escrow (.finalizeDispute params)) s = .ok (ret, s'))
    (hhash : AdManager.hashOrder H params chainId = .ok orderHash) :
    d.challengeDeadline ≤ env.now ∧
      s'.core.leaves = (orderHash, AdManager.rulingDomain (applied (rulings id orderHash history)))
        :: s.core.leaves ∧
      ∃ config amount ad s₁, AdManager.RulingPaid (withModules O H) H env config params orderHash
        (applied (rulings id orderHash history)) amount ad s s₁ ∧ s'.ads = s₁.ads ∧
        s'.core.events = .disputeFinalized orderHash (applied (rulings id orderHash history))
          :: s₁.core.events := by
  cases step_of_exec ok with
  | escrow hstep =>
    cases hstep with
    | admin hcall => cases hcall
    | finalizeDispute hconfig hhash' hdisputed hverdict hamount had hend hreached hlocked hpaid =>
      rw [hgoing.chainId _ hconfig, hhash] at hhash'
      obtain rfl := Except.ok.inj hhash'
      obtain ⟨hover, happlied⟩ := verdict_of_open h hrecord hrecorded hverdict
      rw [happlied] at hpaid
      refine ⟨hover, ?_, _, _, _, _, hpaid, rfl, ?_⟩
      · obtain ⟨c, out, ⟨x, claimable, events, rfl⟩, -, rfl⟩ := AdManager.Locks.ruling_frame hpaid
        rw [happlied]
      · rw [happlied]

theorem doors_of_open (hgoing : Ongoing H chainId s)
    (h : Open H chainId filer deadline buffer id orderHash history s)
    (hrecord : s.core.outside.record id orderHash = some d)
    (hrecorded : Recorded filer deadline buffer (rulings id orderHash history)
      (responses H chainId orderHash history) d) :
    Doors O H chainId deadline buffer id orderHash (rulings id orderHash history) d s where
  response _ _ _ _ _ _ ok hhash := response_of_open hgoing h hrecord hrecorded ok hhash
  ruling _ _ _ _ ok := ruling_of_open hrecord ok
  finalize _ _ _ _ ok hhash := by
    obtain ⟨hover, hrest⟩ := finalize_of_open hgoing h hrecord hrecorded ok hhash
    refine ⟨hover, hrecorded.window.trans hover, fun r hr => ?_, hrest⟩
    obtain ⟨earlier, hruled⟩ : ∃ earlier, rulings id orderHash history = r :: earlier :=
      List.head?_eq_some_iff.mp hr
    rw [← (hrecorded.ruled r.1 r.2 earlier hruled).2]
    exact hover
  apart _ _ _ _ _ _ _ _ okr okf hhash := by
    have hbefore := (ruling_of_open hrecord okr).1
    have hover := (finalize_of_open hgoing h hrecord hrecorded okf hhash).1
    exact lt_of_lt_of_le hbefore hover

end Doors

/-- **The dispute clock.** A dispute is filed; whatever runs after it, while the dispute lasts its
record is what the rulings and the responses since then make of it, and its doors open by it. -/
theorem dispute_clock {rest : R} {history₀ history : History} {s₀ s₁ : Chain R} {env₀ : Env}
    {params : AdManager.OrderParams} {filer : Address} {evidence orderHash : BytesN32} {ret : Ret}
    {config : ContractConfig} (run₀ : Run (system O H outside) (start rest) history₀ s₀)
    (hself : env₀.authorized H.address = false)
    (hfiled : exec O H env₀ (.escrow (.dispute params filer evidence)) s₀ = .ok (ret, s₁))
    (hconfig : s₀.core.settings.config = some config)
    (hhash : AdManager.hashOrder H params config.chainId = .ok orderHash)
    (run : Run (system O H outside) s₁ history s)
    (hdisputed : s.core.ledger.status orderHash = .disputed) :
    ∃ t id d, Escrow.orderTiming orderHash params.orderChainId s₀.core = .ok t ∧
      s.core.ledger.disputeManagers.get? orderHash = some (.contract id) ∧
      s.core.outside.record id orderHash = some d ∧
      Recorded filer params.deadline.toNat t.buffer (rulings id orderHash history)
        (responses H config.chainId orderHash history) d ∧
      Doors O H config.chainId params.deadline.toNat t.buffer id orderHash
        (rulings id orderHash history) d s := by
  have hstart : Ongoing H config.chainId s₀ :=
    ⟨agreement_of_run run₀, sound_of_run run₀, config, hconfig, rfl⟩
  have hstep := step_of_exec hfiled
  have hgoing := hstart.step hself hstep
  obtain ⟨t, id, htiming, hopen⟩ : ∃ t id,
      Escrow.orderTiming orderHash params.orderChainId s₀.core = .ok t ∧
        Open H config.chainId filer params.deadline.toNat t.buffer id orderHash [] s₁ := by
    cases hstep with
    | escrow hstep =>
      cases hstep with
      | admin hcall => cases hcall
      | @dispute _ _ _ config' orderHash' ad amount bond t manager x hconfig' hhash' had hparty
          hamount hdisputable hmanager hopen =>
        rw [hconfig] at hconfig'
        cases hconfig'
        rw [hhash] at hhash'
        obtain rfl := Except.ok.inj hhash'
        obtain ⟨-, htiming, -⟩ := Escrow.requireDisputable_ok hdisputable
        obtain ⟨id, state, c, rfl, hstate, hmodule, hmodules⟩ := openDispute_moved hopen
        refine ⟨t, id, htiming, @open_of_filed _ _ _ _ _ _ _ _
          ⟨H.address, orderHash, params.orderChainId, filer, evidence,
            params.deadline.toNat, t.buffer, underlying config.wNativeToken ad.token, amount⟩
          rfl ⟨hstate, hmodule, hmodules⟩ (Map.get?_set_self _ _ _) ?_⟩
        rw [Ledger.status_of_set (l := s₀.core.ledger) rfl, if_pos rfl]
  obtain ⟨hgoing', hcase⟩ := open_of_run hgoing hopen run
  have hopen' := hcase.resolve_right (by rw [hdisputed]; decide)
  obtain ⟨d, hrecord, -, hrecorded⟩ := hopen'.record
  exact ⟨t, id, d, htiming, hopen'.manager, hrecord, hrecorded,
    doors_of_open hgoing' hopen' hrecord hrecorded⟩

/-! ## The sample's dispute, ruled once -/

/-- The sample's state after one more call. -/
def sampleAfter (t : Env × Call) (s : Chain Bank) : Chain Bank :=
  match exec Bank.world (sampleHost 0xAD) t.1 t.2 s with
  | .ok r => r.2
  | .error _ => s

theorem sampleAfter_ok {t : Env × Call} {s : Chain Bank} {ret : Ret}
    (h : (exec Bank.world (sampleHost 0xAD) t.1 t.2 s).toOption.map Prod.fst = some ret) :
    exec Bank.world (sampleHost 0xAD) t.1 t.2 s = .ok (ret, sampleAfter t s) := by
  obtain ⟨s', ok⟩ := Check.accepted_of_answer h
  rw [sampleAfter, ok]

/-- The sample just before its dispute is filed. -/
def sampleLocked : History × Chain Bank :=
  (play sampleSystem sampleCalls.dropLast [] sampleStart).getD ([], sampleStart)

theorem run_sampleLocked : Run sampleSystem (start (Bank.endowed 1000000 (.contract 0xAD)))
    sampleLocked.1 sampleLocked.2 := by
  have hplayed : Run sampleSystem sampleStart sampleLocked.1 sampleLocked.2 := by
    refine Run.played (by decide +kernel) ?_
    exact fun t ht s => sampleCalls_admitted t (List.dropLast_subset _ ht) s
  simpa using run_sampleStart.trans hplayed

def sampleFiling : Env × Call :=
  (sampleEnv 1000, .escrow (.dispute AdManager.sampleParams (.account 0x3A) 5))

def sampleRuling : Env × Call :=
  (sampleEnv 2000, .module 0xD1 (.resolveDispute sampleOrderHash .bridgerForfeit))

theorem dispute_clock_sample :
    ∃ d, (sampleAfter sampleRuling (sampleAfter sampleFiling sampleLocked.2)).core.outside.record
        0xD1 sampleOrderHash = some d ∧
      Recorded (.account 0x3A) 8200 86400 [(2000, .bridgerForfeit)] [] d ∧
      Doors Bank.world (sampleHost 0xAD) 2 8200 86400 0xD1 sampleOrderHash
        [(2000, .bridgerForfeit)] d
        (sampleAfter sampleRuling (sampleAfter sampleFiling sampleLocked.2)) := by
  have hfiled := @sampleAfter_ok sampleFiling sampleLocked.2
    (.escrow (.bond 1000)) (by decide +kernel)
  have hruled := @sampleAfter_ok sampleRuling (sampleAfter sampleFiling sampleLocked.2)
    (.module .unit) (by decide +kernel)
  have hconfig : sampleLocked.2.core.settings.config
      = some ⟨.account 0x0A, .contract 0x77, .contract 0x78, .contract 0x79, 2⟩ := by
    decide +kernel
  have hhash : AdManager.hashOrder (sampleHost 0xAD) AdManager.sampleParams 2
      = .ok sampleOrderHash := by
    decide +kernel
  have hrun : Run sampleSystem (sampleAfter sampleFiling sampleLocked.2)
      [(sampleRuling, .module .unit)] (sampleAfter sampleRuling (sampleAfter sampleFiling
        sampleLocked.2)) := .accepted .start (by rfl) hruled
  obtain ⟨t, id, d, htiming, hmanager, hrecord, hrecorded, hdoors⟩ :=
    dispute_clock run_sampleLocked rfl hfiled hconfig hhash hrun (by decide +kernel)
  have htiming' : Escrow.orderTiming sampleOrderHash AdManager.sampleParams.orderChainId
      sampleLocked.2.core = .ok ⟨3600, 86400, 600, 600⟩ := by
    decide +kernel
  rw [htiming'] at htiming
  cases htiming
  have hmanager' : (sampleAfter sampleRuling (sampleAfter sampleFiling
      sampleLocked.2)).core.ledger.disputeManagers.get? sampleOrderHash = some (.contract 0xD1) := by
    decide +kernel
  rw [hmanager'] at hmanager
  cases hmanager
  exact ⟨d, hrecord, hrecorded, hdoors⟩

end Disputes
end ProofBridge
