import ProofBridge.Evm.Calldata
import ProofBridge.Lib.Abi

/-!
# What an operation is

The validator reads an operation's `callData` and the hook what the account calls it with, which may
be wrapped once more, padded, or the whole `executeUserOp(PackedUserOperation, bytes32)`. Both go
through `executeArgs`; only the hook looks into the ABI form. Every offset and length is the agent's
to choose, so nothing here may stop the call: it answers `none`.
-/

namespace ProofBridge
namespace AgentPolicy

open ContractLib Evm
open ContractLib.Layout (At bigEndian)

/-- A `bytes calldata`: the decoder of a call takes no length of 2^64 or more. -/
structure Calldata where
  bytes : Bytes
  short : bytes.length < 2 ^ 64

/-- `execute(bytes32,bytes)`. -/
def EXECUTE_SELECTOR : Bytes := [0xe9, 0xae, 0x5c, 0x53]

/-- `executeUserOp(PackedUserOperation,bytes32)`. -/
def EXECUTE_USER_OP_SELECTOR : Bytes := [0x8d, 0xd7, 0x71, 0x2f]

def CALLTYPE_SINGLE : ℕ := 0
def CALLTYPE_BATCH : ℕ := 1

/-- Calls one operation may carry. -/
def MAX_BATCH : ℕ := 8

/-- One call pulled out of an `execute`. -/
structure Call where
  target : EvmAddress
  value : Uint256
  data : Bytes
  deriving DecidableEq, Repr

/-! ## `_executeArgs` -/

section ExecuteArgs

variable {ε : Type}

/-- `op.callData` out of `abi.encode(PackedUserOperation op, bytes32)`. -/
def userOpCallData (args : Bytes) : Check ε (Option Bytes) :=
  if args.length < 64 then pure none
  else do
    let op ← numberAt args 0 32
    -- the struct's head is nine words; the offset of `callData` is the fourth
    if args.length < op then pure none
    else do
      let headEnd ← Check.add 256 op 288
      if args.length < headEnd then pure none
      else do
        let relAt ← Check.add 256 op 96
        let rel ← numberAt args relAt 32
        if args.length < rel then pure none
        else do
          let pos ← Check.add 256 op rel
          let start ← Check.add 256 pos 32
          if args.length < start then pure none
          else do
            let len ← numberAt args pos 32
            if args.length < len then pure none
            else do
              let stop ← Check.add 256 start len
              if args.length < stop then pure none
              else do
                let out ← sliceOf args start (start + len)
                pure (some out)

/-- `mode` and `executionCalldata` of a plain `execute`. -/
def plainArgs (body : Bytes) : Check ε (Option (BytesN32 × Bytes)) :=
  if body.length < 68 then pure none
  else do
    let selector ← sliceOf body 0 (0 + 4)
    if selector ≠ EXECUTE_SELECTOR then pure none
    else do
      let mode ← wordAt body 4
      let offset ← numberAt body 36 32
      if body.length < offset then pure none
      else do
        let pos ← Check.add 256 4 offset
        let start ← Check.add 256 pos 32
        if body.length < start then pure none
        else do
          let len ← numberAt body pos 32
          if body.length < len then pure none
          else do
            let stop ← Check.add 256 start len
            if body.length < stop then pure none
            else do
              let ec ← sliceOf body start (start + len)
              pure (some (mode, ec))

/-- The hook's own form: the real operation's `callData`, which must start with the wrapper. -/
def abiBody (body : Bytes) : Check ε (Option Bytes) := do
  let inner ← userOpCallData body
  match inner with
  | none => pure none
  | some inner =>
    if inner.length < 4 then pure none
    else do
      let selector ← sliceOf inner 0 (0 + 4)
      if selector ≠ EXECUTE_USER_OP_SELECTOR then pure none
      else do
        let rest ← sliceOf inner 4 (4 + (inner.length - 4))
        pure (some rest)

/-- The `execute` inside, with what wraps it stripped. -/
def unwrap (cd : Bytes) (hookPath : Bool) : Check ε (Option Bytes) := do
  let selector ← sliceOf cd 0 (0 + 4)
  if selector ≠ EXECUTE_USER_OP_SELECTOR then pure (some cd)
  else if cd.length < 8 then pure none
  else do
    let body ← sliceOf cd 4 (4 + (cd.length - 4))
    if hookPath = false then pure (some body)
    else do
      let inner ← sliceOf body 0 (0 + 4)
      if inner = EXECUTE_SELECTOR then pure (some body) else abiBody body

/-- `mode` and `executionCalldata` out of an `execute`; `none` for anything else. -/
def executeArgs (cd : Bytes) (hookPath : Bool) : Check ε (Option (BytesN32 × Bytes)) :=
  if cd.length < 4 then pure none
  else do
    let body ← unwrap cd hookPath
    match body with
    | none => pure none
    | some body => plainArgs body

end ExecuteArgs

/-! ## `_decodeCalls` -/

/-- One `Execution` whose head starts at `base`. -/
def executionAt (data : Bytes) (base : ℕ) : Option Call := do
  Abi.hasHead data base 3
  let target ← Abi.uint data 160 base
  let value ← Abi.uint data 256 (base + 32)
  let off ← Abi.offset data (base + 64)
  let callData ← Abi.bytesAt data (base + off)
  pure { target, value, data := callData }

/-- `abi.decode(executionCalldata, (Execution[]))`. -/
def decodeBatch (executionCalldata : Bytes) : Option (List Call) := do
  Abi.hasHead executionCalldata 0 1
  let pos ← Abi.offset executionCalldata 0
  Abi.arrayAt executionCalldata (fun head => do
    let off ← Abi.offset executionCalldata head
    executionAt executionCalldata (pos + 32 + off)) pos

section DecodeCalls

variable {ε : Type}

/-- The one call of a single execution. -/
def decodeSingle (ec : Bytes) : Check ε (Option (List Call)) :=
  if ec.length < 52 then pure none
  else do
    let target ← numberAt ec 0 20
    let value ← wordAt ec 20
    let data ← sliceOf ec 52 (52 + (ec.length - 52))
    pure (some [{ target := BitVec.ofNat 160 target, value, data }])

/-- The calls of a batch, whose declared length is read before anything is decoded. -/
def decodeMany (ec : Bytes) : Check ε (Option (List Call)) :=
  if ec.length < 64 then pure none
  else do
    let offset ← numberAt ec 0 32
    if offset ≠ 32 then pure none
    else do
      let declared ← numberAt ec 32 32
      if declared = 0 ∨ MAX_BATCH < declared then pure none
      else
        match decodeBatch ec with
        | none => pure none
        | some execs =>
          if execs.length = 0 ∨ MAX_BATCH < execs.length then pure none else pure (some execs)

/-- The calls of one execution under its mode. -/
def callsOf (mode : BytesN32) (ec : Bytes) : Check ε (Option (List Call)) :=
  let callType := (mode >>> 248).toNat
  let execType := (mode >>> 240).setWidth 8
  -- a "try" execution would keep the hook's debit although nothing was traded
  if execType ≠ 0 then pure none
  -- the account may read the other bytes as a layout this decoder never read
  else if mode <<< 16 ≠ 0 then pure none
  else if callType = CALLTYPE_SINGLE then decodeSingle ec
  else if callType = CALLTYPE_BATCH then decodeMany ec
  else pure none

def decodeCalls (cd : Bytes) (hookPath : Bool) : Check ε (Option (List Call)) := do
  let args ← executeArgs cd hookPath
  match args with
  | none => pure none
  | some (mode, ec) => callsOf mode ec

end DecodeCalls

/-! ## Nothing the bytes say stops the call -/

section Answers

variable {ε α β : Type}

/-- The check gives an answer: no slice out of bounds, no overflow. -/
def Answers (x : Check ε α) : Prop := ∃ a, x = .ok a

theorem answers_pure {a : α} : Answers (pure a : Check ε α) := ⟨a, rfl⟩

theorem answers_bind {x : Check ε α} {f : α → Check ε β} (hx : Answers x)
    (hf : ∀ a, x = .ok a → Answers (f a)) : Answers (x >>= f) := by
  obtain ⟨a, ha⟩ := hx
  rw [ha, Check.ok_bind]
  exact hf a ha

theorem answers_ite {p : Prop} [Decidable p] {x y : Check ε α} (hx : p → Answers x)
    (hy : ¬p → Answers y) : Answers (if p then x else y) := by
  split
  · next h => exact hx h
  · next h => exact hy h

theorem answers_slice {data : Bytes} {pos n : ℕ} (h : pos + n ≤ data.length) :
    Answers (sliceOf data pos (pos + n) : Check ε Bytes) := by
  refine ⟨(data.drop pos).take n, sliceOf_ok.mpr ⟨?_, ?_, h⟩⟩
  · rw [List.length_take, List.length_drop]
    omega
  · exact ⟨(data.drop pos).drop n, (List.take_append_drop n _).symm⟩

theorem answers_number {data : Bytes} {pos n : ℕ} (h : pos + n ≤ data.length) :
    Answers (numberAt data pos n : Check ε ℕ) :=
  answers_bind (answers_slice h) fun _ _ => answers_pure

theorem answers_word {data : Bytes} {pos : ℕ} (h : pos + 32 ≤ data.length) :
    Answers (wordAt data pos : Check ε BytesN32) :=
  answers_bind (answers_number h) fun _ _ => answers_pure

theorem answers_add {m n : ℕ} (h : m + n < 2 ^ 256) : Answers (Check.add 256 m n : Check ε ℕ) :=
  ⟨m + n, Check.add_ok.mpr ⟨h, rfl⟩⟩

theorem add_ok_eq {m n k : ℕ} (h : (Check.add 256 m n : Check ε ℕ) = .ok k) : k = m + n :=
  (Check.add_ok.mp h).2

variable {data : Bytes}

theorem userOpCallData_answers (hdata : data.length < 2 ^ 64) :
    Answers (userOpCallData data : Check ε (Option Bytes)) := by
  unfold userOpCallData
  refine answers_ite (fun _ => answers_pure) fun hlong => ?_
  refine answers_bind (answers_number (by omega)) fun op _ => ?_
  refine answers_ite (fun _ => answers_pure) fun hop => ?_
  refine answers_bind (answers_add (by omega)) fun headEnd hheadEnd => ?_
  obtain rfl := add_ok_eq hheadEnd
  refine answers_ite (fun _ => answers_pure) fun hhead => ?_
  refine answers_bind (answers_add (by omega)) fun relAt hrelAt => ?_
  obtain rfl := add_ok_eq hrelAt
  refine answers_bind (answers_number (by omega)) fun rel _ => ?_
  refine answers_ite (fun _ => answers_pure) fun hrel => ?_
  refine answers_bind (answers_add (by omega)) fun pos hpos => ?_
  obtain rfl := add_ok_eq hpos
  refine answers_bind (answers_add (by omega)) fun start hstart => ?_
  obtain rfl := add_ok_eq hstart
  refine answers_ite (fun _ => answers_pure) fun hstart => ?_
  refine answers_bind (answers_number (by omega)) fun len _ => ?_
  refine answers_ite (fun _ => answers_pure) fun hlen => ?_
  refine answers_bind (answers_add (by omega)) fun stop hstop => ?_
  obtain rfl := add_ok_eq hstop
  refine answers_ite (fun _ => answers_pure) fun hstop => ?_
  exact answers_bind (answers_slice (by omega)) fun _ _ => answers_pure

theorem plainArgs_answers (hdata : data.length < 2 ^ 64) :
    Answers (plainArgs data : Check ε (Option (BytesN32 × Bytes))) := by
  unfold plainArgs
  refine answers_ite (fun _ => answers_pure) fun hlong => ?_
  refine answers_bind (answers_slice (by omega)) fun selector _ => ?_
  refine answers_ite (fun _ => answers_pure) fun _ => ?_
  refine answers_bind (answers_word (by omega)) fun mode _ => ?_
  refine answers_bind (answers_number (by omega)) fun offset _ => ?_
  refine answers_ite (fun _ => answers_pure) fun hoffset => ?_
  refine answers_bind (answers_add (by omega)) fun pos hpos => ?_
  obtain rfl := add_ok_eq hpos
  refine answers_bind (answers_add (by omega)) fun start hstart => ?_
  obtain rfl := add_ok_eq hstart
  refine answers_ite (fun _ => answers_pure) fun hstart => ?_
  refine answers_bind (answers_number (by omega)) fun len _ => ?_
  refine answers_ite (fun _ => answers_pure) fun hlen => ?_
  refine answers_bind (answers_add (by omega)) fun stop hstop => ?_
  obtain rfl := add_ok_eq hstop
  refine answers_ite (fun _ => answers_pure) fun hstop => ?_
  exact answers_bind (answers_slice (by omega)) fun _ _ => answers_pure

end Answers

/-! ## What is read, by what stands where -/

section Reads

variable {ε α : Type} {body args out padding : Bytes} {mode : BytesN32} {ec : Bytes}

theorem some_of_ite {p : Prop} [Decidable p] {x : Check ε (Option α)} {a : α} :
    (if p then pure none else x) = .ok (some a) ↔ ¬p ∧ x = .ok (some a) := by
  split
  · next h => simp [h]
  · next h => simp [h]

/-- An `execute` of `mode` and `ec`: its selector, its mode, and the offset that leads to `ec`. -/
structure Plain (body : Bytes) (mode : BytesN32) (ec : Bytes) (offset : ℕ) : Prop where
  long : 68 ≤ body.length
  selector_at : At body 0 EXECUTE_SELECTOR
  mode_at : At body 4 (encodeWord mode)
  offset_lt : offset < 256 ^ 32
  offset_at : At body 36 (bigEndian 32 offset)
  length_lt : ec.length < 256 ^ 32
  length_at : At body (4 + offset) (bigEndian 32 ec.length)
  content : At body (4 + offset + 32) ec
  inside : 4 + offset + 32 + ec.length ≤ body.length

/-- Whatever follows an `execute` does not change what it says. -/
theorem Plain.append {offset : ℕ} (h : Plain body mode ec offset) :
    Plain (body ++ padding) mode ec offset where
  long := by rw [List.length_append]; exact Nat.le_add_right_of_le h.long
  selector_at := h.selector_at.append_right
  mode_at := h.mode_at.append_right
  offset_lt := h.offset_lt
  offset_at := h.offset_at.append_right
  length_lt := h.length_lt
  length_at := h.length_at.append_right
  content := h.content.append_right
  inside := by rw [List.length_append]; exact Nat.le_add_right_of_le h.inside

theorem plainArgs_sound (h : (plainArgs body : Check ε _) = .ok (some (mode, ec))) :
    ∃ offset, Plain body mode ec offset := by
  unfold plainArgs at h
  obtain ⟨hlong, h⟩ := some_of_ite.mp h
  obtain ⟨selector, hselector, h⟩ := Check.bind_ok.mp h
  obtain ⟨hne, h⟩ := some_of_ite.mp h
  obtain rfl := not_not.mp hne
  obtain ⟨mode', hmode, h⟩ := Check.bind_ok.mp h
  obtain ⟨offset, hoffset, h⟩ := Check.bind_ok.mp h
  obtain ⟨-, h⟩ := some_of_ite.mp h
  obtain ⟨pos, hpos, h⟩ := Check.bind_ok.mp h
  obtain rfl := add_ok_eq hpos
  obtain ⟨start, hstart, h⟩ := Check.bind_ok.mp h
  obtain rfl := add_ok_eq hstart
  obtain ⟨-, h⟩ := some_of_ite.mp h
  obtain ⟨len, hlen, h⟩ := Check.bind_ok.mp h
  obtain ⟨-, h⟩ := some_of_ite.mp h
  obtain ⟨stop, hstop, h⟩ := Check.bind_ok.mp h
  obtain ⟨hinside, h⟩ := some_of_ite.mp h
  obtain ⟨content, hcontent, h⟩ := Check.bind_ok.mp h
  obtain ⟨rfl, rfl⟩ := Prod.mk.inj (Option.some.inj (Check.pure_ok.mp h))
  obtain ⟨rfl, hat, hend⟩ := sliceOf_ok.mp hcontent
  obtain ⟨hoffsetLt, hoffsetAt⟩ := (numberAt_ok (by norm_num)).mp hoffset
  obtain ⟨hlenLt, hlenAt⟩ := (numberAt_ok (by norm_num)).mp hlen
  exact ⟨offset, not_lt.mp hlong, (sliceOf_ok.mp hselector).2.1, wordAt_ok.mp hmode, hoffsetLt,
    hoffsetAt, hlenLt, hlenAt, hat, hend⟩

theorem add_ok_of_lt {m n : ℕ} (h : m + n < 2 ^ 256) :
    (Check.add 256 m n : Check ε ℕ) = .ok (m + n) :=
  Check.add_ok.mpr ⟨h, rfl⟩

theorem plainArgs_complete {offset : ℕ} (hbody : body.length < 2 ^ 64)
    (h : Plain body mode ec offset) : (plainArgs body : Check ε _) = .ok (some (mode, ec)) := by
  have hinside := h.inside
  have hselector : (sliceOf body 0 (0 + 4) : Check ε Bytes) = .ok EXECUTE_SELECTOR :=
    sliceOf_ok.mpr ⟨rfl, h.selector_at, le_trans (by norm_num) h.long⟩
  have hoffset : (numberAt body 36 32 : Check ε ℕ) = .ok offset :=
    (numberAt_ok (by norm_num)).mpr ⟨h.offset_lt, h.offset_at⟩
  have hlen : (numberAt body (4 + offset) 32 : Check ε ℕ) = .ok ec.length :=
    (numberAt_ok (by norm_num)).mpr ⟨h.length_lt, h.length_at⟩
  have hcontent : (sliceOf body (4 + offset + 32) (4 + offset + 32 + ec.length) : Check ε Bytes)
      = .ok ec := sliceOf_ok.mpr ⟨rfl, h.content, h.inside⟩
  unfold plainArgs
  rw [if_neg (not_lt.mpr h.long), hselector, Check.ok_bind, if_neg (not_not.mpr rfl),
    wordAt_ok.mpr h.mode_at, Check.ok_bind, hoffset, Check.ok_bind, if_neg (by omega),
    add_ok_of_lt (by omega), Check.ok_bind, add_ok_of_lt (by omega), Check.ok_bind,
    if_neg (by omega), hlen, Check.ok_bind, if_neg (by omega), add_ok_of_lt (by omega),
    Check.ok_bind, if_neg (by omega), hcontent]
  rfl

/-- An ABI-encoded operation whose `callData` is `out`. -/
structure Nested (args out : Bytes) (op rel : ℕ) : Prop where
  long : 64 ≤ args.length
  op_lt : op < 256 ^ 32
  op_at : At args 0 (bigEndian 32 op)
  head : op + 288 ≤ args.length
  rel_lt : rel < 256 ^ 32
  rel_at : At args (op + 96) (bigEndian 32 rel)
  length_lt : out.length < 256 ^ 32
  length_at : At args (op + rel) (bigEndian 32 out.length)
  content : At args (op + rel + 32) out
  inside : op + rel + 32 + out.length ≤ args.length

theorem Nested.append {op rel : ℕ} (h : Nested args out op rel) :
    Nested (args ++ padding) out op rel where
  long := by rw [List.length_append]; exact Nat.le_add_right_of_le h.long
  op_lt := h.op_lt
  op_at := h.op_at.append_right
  head := by rw [List.length_append]; exact Nat.le_add_right_of_le h.head
  rel_lt := h.rel_lt
  rel_at := h.rel_at.append_right
  length_lt := h.length_lt
  length_at := h.length_at.append_right
  content := h.content.append_right
  inside := by rw [List.length_append]; exact Nat.le_add_right_of_le h.inside

theorem userOpCallData_complete {op rel : ℕ} (hargs : args.length < 2 ^ 64)
    (h : Nested args out op rel) : (userOpCallData args : Check ε _) = .ok (some out) := by
  have hlong := h.long
  have hhead := h.head
  have hinside := h.inside
  have hop : (numberAt args 0 32 : Check ε ℕ) = .ok op :=
    (numberAt_ok (by norm_num)).mpr ⟨h.op_lt, h.op_at⟩
  have hrel : (numberAt args (op + 96) 32 : Check ε ℕ) = .ok rel :=
    (numberAt_ok (by norm_num)).mpr ⟨h.rel_lt, h.rel_at⟩
  have hlen : (numberAt args (op + rel) 32 : Check ε ℕ) = .ok out.length :=
    (numberAt_ok (by norm_num)).mpr ⟨h.length_lt, h.length_at⟩
  have hcontent : (sliceOf args (op + rel + 32) (op + rel + 32 + out.length) : Check ε Bytes)
      = .ok out := sliceOf_ok.mpr ⟨rfl, h.content, h.inside⟩
  unfold userOpCallData
  rw [if_neg (by omega), hop, Check.ok_bind, if_neg (by omega), add_ok_of_lt (by omega),
    Check.ok_bind, if_neg (by omega), add_ok_of_lt (by omega), Check.ok_bind, hrel, Check.ok_bind,
    if_neg (by omega), add_ok_of_lt (by omega), Check.ok_bind, add_ok_of_lt (by omega),
    Check.ok_bind, if_neg (by omega), hlen, Check.ok_bind, if_neg (by omega),
    add_ok_of_lt (by omega), Check.ok_bind, if_neg (by omega), hcontent]
  rfl

/-- What is cut out of an ABI-encoded operation is no longer than it. -/
theorem userOpCallData_le (h : (userOpCallData args : Check ε _) = .ok (some out)) :
    out.length ≤ args.length := by
  unfold userOpCallData at h
  obtain ⟨-, h⟩ := some_of_ite.mp h
  obtain ⟨op, -, h⟩ := Check.bind_ok.mp h
  obtain ⟨-, h⟩ := some_of_ite.mp h
  obtain ⟨headEnd, -, h⟩ := Check.bind_ok.mp h
  obtain ⟨-, h⟩ := some_of_ite.mp h
  obtain ⟨relAt, -, h⟩ := Check.bind_ok.mp h
  obtain ⟨rel, -, h⟩ := Check.bind_ok.mp h
  obtain ⟨-, h⟩ := some_of_ite.mp h
  obtain ⟨pos, -, h⟩ := Check.bind_ok.mp h
  obtain ⟨start, -, h⟩ := Check.bind_ok.mp h
  obtain ⟨-, h⟩ := some_of_ite.mp h
  obtain ⟨len, -, h⟩ := Check.bind_ok.mp h
  obtain ⟨hlen, h⟩ := some_of_ite.mp h
  obtain ⟨stop, -, h⟩ := Check.bind_ok.mp h
  obtain ⟨-, h⟩ := some_of_ite.mp h
  obtain ⟨content, hcontent, h⟩ := Check.bind_ok.mp h
  obtain rfl := Option.some.inj (Check.pure_ok.mp h)
  rw [(sliceOf_ok.mp hcontent).1]
  exact not_lt.mp hlen

end Reads

/-! ## `executeArgs` answers -/

section ExecuteArgs

variable {ε : Type} {data : Bytes}

theorem abiBody_answers (hdata : data.length < 2 ^ 64) :
    Answers (abiBody data : Check ε (Option Bytes)) := by
  unfold abiBody
  refine answers_bind (userOpCallData_answers hdata) fun inner hinner => ?_
  cases inner with
  | none => exact answers_pure
  | some inner =>
    refine answers_ite (fun _ => answers_pure) fun hlong => ?_
    refine answers_bind (answers_slice (by omega)) fun selector _ => ?_
    refine answers_ite (fun _ => answers_pure) fun _ => ?_
    exact answers_bind (answers_slice (by omega)) fun _ _ => answers_pure

/-- What is unwrapped is no longer than what was wrapped. -/
theorem unwrap_le {hookPath : Bool} {body : Bytes}
    (h : (unwrap data hookPath : Check ε _) = .ok (some body)) : body.length ≤ data.length := by
  unfold unwrap at h
  obtain ⟨selector, -, h⟩ := Check.bind_ok.mp h
  split at h
  · obtain rfl := Option.some.inj (Check.pure_ok.mp h)
    exact le_rfl
  · obtain ⟨-, h⟩ := some_of_ite.mp h
    obtain ⟨rest, hrest, h⟩ := Check.bind_ok.mp h
    have hlen := (sliceOf_ok.mp hrest).1
    split at h
    · obtain rfl := Option.some.inj (Check.pure_ok.mp h)
      omega
    · obtain ⟨inner, -, h⟩ := Check.bind_ok.mp h
      split at h
      · obtain rfl := Option.some.inj (Check.pure_ok.mp h)
        omega
      · unfold abiBody at h
        obtain ⟨out, hout, h⟩ := Check.bind_ok.mp h
        cases out with
        | none => cases h
        | some out =>
          have hle := userOpCallData_le hout
          dsimp only at h
          obtain ⟨-, h⟩ := some_of_ite.mp h
          obtain ⟨selector, -, h⟩ := Check.bind_ok.mp h
          obtain ⟨-, h⟩ := some_of_ite.mp h
          obtain ⟨tail, htail, h⟩ := Check.bind_ok.mp h
          obtain rfl := Option.some.inj (Check.pure_ok.mp h)
          have := (sliceOf_ok.mp htail).1
          omega

theorem unwrap_answers {hookPath : Bool} (hlong : 4 ≤ data.length) (hdata : data.length < 2 ^ 64) :
    Answers (unwrap data hookPath : Check ε (Option Bytes)) := by
  unfold unwrap
  refine answers_bind (answers_slice (by omega)) fun selector _ => ?_
  refine answers_ite (fun _ => answers_pure) fun _ => ?_
  refine answers_ite (fun _ => answers_pure) fun hlong => ?_
  refine answers_bind (answers_slice (by omega)) fun body hbody => ?_
  have hlen := (sliceOf_ok.mp hbody).1
  refine answers_ite (fun _ => answers_pure) fun _ => ?_
  refine answers_bind (answers_slice (by omega)) fun inner _ => ?_
  exact answers_ite (fun _ => answers_pure) fun _ => abiBody_answers (by omega)

/-- No byte string stops the decoding of an operation. -/
theorem executeArgs_answers {hookPath : Bool} (hdata : data.length < 2 ^ 64) :
    Answers (executeArgs data hookPath : Check ε (Option (BytesN32 × Bytes))) := by
  unfold executeArgs
  refine answers_ite (fun _ => answers_pure) fun hlong => ?_
  refine answers_bind (unwrap_answers (by omega) hdata) fun body hbody => ?_
  cases body with
  | none => exact answers_pure
  | some body => exact plainArgs_answers (lt_of_le_of_lt (unwrap_le hbody) hdata)

/-! ## One operation in all its forms -/

variable {body args : Bytes} {mode : BytesN32} {ec : Bytes} {offset : ℕ} {hookPath : Bool}

theorem sliceOf_wrapper {rest : Bytes} :
    (sliceOf (EXECUTE_USER_OP_SELECTOR ++ rest) 0 (0 + 4) : Check ε Bytes)
      = .ok EXECUTE_USER_OP_SELECTOR := by
  refine sliceOf_ok.mpr ⟨rfl, ⟨rest, rfl⟩, ?_⟩
  rw [List.length_append]
  exact Nat.le_add_right _ _

theorem sliceOf_wrapped {rest : Bytes} :
    (sliceOf (EXECUTE_USER_OP_SELECTOR ++ rest) 4
      (4 + ((EXECUTE_USER_OP_SELECTOR ++ rest).length - 4)) : Check ε Bytes) = .ok rest := by
  have hlen : (EXECUTE_USER_OP_SELECTOR ++ rest).length = 4 + rest.length := by
    rw [List.length_append]
    rfl
  refine sliceOf_ok.mpr ⟨by omega, ⟨[], ?_⟩, by omega⟩
  rw [List.append_nil]
  rfl

/-- An operation the validator reads is a plain `execute`, bare or behind the wrapper. -/
theorem executeArgs_sound (h : (executeArgs data false : Check ε _) = .ok (some (mode, ec))) :
    ∃ body offset, Plain body mode ec offset ∧
      (data = body ∨ data = EXECUTE_USER_OP_SELECTOR ++ body) := by
  unfold executeArgs at h
  obtain ⟨-, h⟩ := some_of_ite.mp h
  obtain ⟨found, hfound, h⟩ := Check.bind_ok.mp h
  cases found with
  | none => cases h
  | some body =>
    obtain ⟨offset, hplain⟩ := plainArgs_sound h
    refine ⟨body, offset, hplain, ?_⟩
    unfold unwrap at hfound
    obtain ⟨selector, hselector, hfound⟩ := Check.bind_ok.mp hfound
    split at hfound
    · exact .inl (Option.some.inj (Check.pure_ok.mp hfound)).symm
    · next hwrapped =>
      obtain rfl := not_not.mp hwrapped
      obtain ⟨-, hfound⟩ := some_of_ite.mp hfound
      obtain ⟨rest, hrest, hfound⟩ := Check.bind_ok.mp hfound
      rw [if_pos rfl] at hfound
      obtain rfl := Option.some.inj (Check.pure_ok.mp hfound)
      obtain ⟨hlen, hat, hend⟩ := sliceOf_ok.mp hrest
      refine .inr (Layout.at_zero.mp ⟨Layout.at_append.mpr ⟨(sliceOf_ok.mp hselector).2.1, ?_⟩, ?_⟩)
      · exact hat
      · rw [List.length_append, hlen]
        exact Nat.add_sub_cancel' (le_trans (Nat.le_add_right 4 _) hend)

theorem executeArgs_plain (hbody : body.length < 2 ^ 64) (h : Plain body mode ec offset) :
    (executeArgs body hookPath : Check ε _) = .ok (some (mode, ec)) := by
  have hselector : (sliceOf body 0 (0 + 4) : Check ε Bytes) = .ok EXECUTE_SELECTOR :=
    sliceOf_ok.mpr ⟨rfl, h.selector_at, le_trans (by norm_num) h.long⟩
  have hlong := h.long
  unfold executeArgs unwrap
  rw [if_neg (by omega), hselector, Check.ok_bind, if_pos (by decide)]
  exact plainArgs_complete hbody h

theorem executeArgs_wrapped (hbody : (EXECUTE_USER_OP_SELECTOR ++ body).length < 2 ^ 64)
    (h : Plain body mode ec offset) :
    (executeArgs (EXECUTE_USER_OP_SELECTOR ++ body) hookPath : Check ε _)
      = .ok (some (mode, ec)) := by
  have hlong := h.long
  have hlen : (EXECUTE_USER_OP_SELECTOR ++ body).length = 4 + body.length := by
    rw [List.length_append]
    rfl
  have hselector : (sliceOf body 0 (0 + 4) : Check ε Bytes) = .ok EXECUTE_SELECTOR :=
    sliceOf_ok.mpr ⟨rfl, h.selector_at, le_trans (by norm_num) h.long⟩
  unfold executeArgs unwrap
  rw [if_neg (by omega), sliceOf_wrapper, Check.ok_bind, if_neg (not_not.mpr rfl),
    if_neg (by omega), sliceOf_wrapped, Check.ok_bind]
  have hunwrapped : (if hookPath = false then (pure (some body) : Check ε (Option Bytes))
      else do
        let inner ← sliceOf body 0 (0 + 4)
        if inner = EXECUTE_SELECTOR then pure (some body) else abiBody body)
      = .ok (some body) := by
    rw [hselector, Check.ok_bind, if_pos rfl, ite_self]
    rfl
  rw [hunwrapped]
  exact plainArgs_complete (by omega) h

/-- The hook reads the ABI form as the operation inside. -/
theorem executeArgs_nested {op rel : ℕ} (hargs : (EXECUTE_USER_OP_SELECTOR ++ args).length < 2 ^ 64)
    (hstart : At args 0 [0, 0, 0, 0]) (hnested : Nested args (EXECUTE_USER_OP_SELECTOR ++ body) op rel)
    (h : Plain body mode ec offset) :
    (executeArgs (EXECUTE_USER_OP_SELECTOR ++ args) true : Check ε _) = .ok (some (mode, ec)) := by
  have hlong := hnested.long
  have hinside := hnested.inside
  have hlen : (EXECUTE_USER_OP_SELECTOR ++ args).length = 4 + args.length := by
    rw [List.length_append]
    rfl
  have hbodyLen : (EXECUTE_USER_OP_SELECTOR ++ body).length = 4 + body.length := by
    rw [List.length_append]
    rfl
  have hselector : (sliceOf args 0 (0 + 4) : Check ε Bytes) = .ok [0, 0, 0, 0] :=
    sliceOf_ok.mpr ⟨rfl, hstart, by omega⟩
  unfold executeArgs unwrap abiBody
  rw [if_neg (by omega), sliceOf_wrapper, Check.ok_bind, if_neg (not_not.mpr rfl),
    if_neg (by omega), sliceOf_wrapped, Check.ok_bind, if_neg (by decide), hselector,
    Check.ok_bind, if_neg (by decide), userOpCallData_complete (by omega) hnested, Check.ok_bind]
  dsimp only
  rw [if_neg (by omega), sliceOf_wrapper, Check.ok_bind, if_neg (not_not.mpr rfl),
    sliceOf_wrapped, Check.ok_bind]
  exact plainArgs_complete (by omega) h

end ExecuteArgs

/-! ## The account's own encoding -/

structure PackedUserOperation where
  sender : EvmAddress
  nonce : Uint256
  initCode : Bytes
  callData : Bytes
  accountGasLimits : BytesN32
  preVerificationGas : Uint256
  gasFees : BytesN32
  paymasterAndData : Bytes
  signature : Bytes
  deriving DecidableEq, Repr

/-- A value of no fixed size: its length, and its content up to a whole word. -/
def encodeTail (b : Bytes) : Bytes := bigEndian 32 b.length ++ Abi.padRight b

/-- The struct: nine words of head, then what the four offsets lead to. -/
def encodeUserOp (op : PackedUserOperation) : Bytes :=
  let initCodeAt := 288
  let callDataAt := initCodeAt + (encodeTail op.initCode).length
  let paymasterAt := callDataAt + (encodeTail op.callData).length
  let signatureAt := paymasterAt + (encodeTail op.paymasterAndData).length
  encodeWord (toBytes32 op.sender) ++ encodeWord op.nonce ++ bigEndian 32 initCodeAt ++
    bigEndian 32 callDataAt ++ encodeWord op.accountGasLimits ++ encodeWord op.preVerificationGas ++
    encodeWord op.gasFees ++ bigEndian 32 paymasterAt ++ bigEndian 32 signatureAt ++
    encodeTail op.initCode ++ encodeTail op.callData ++ encodeTail op.paymasterAndData ++
    encodeTail op.signature

/-- `abi.encodeCall(executeUserOp, (op, userOpHash))`. -/
def encodeExecuteUserOp (op : PackedUserOperation) (userOpHash : BytesN32) : Bytes :=
  EXECUTE_USER_OP_SELECTOR ++ (bigEndian 32 64 ++ encodeWord userOpHash ++ encodeUserOp op)

theorem le_padRight (b : Bytes) : b.length ≤ (Abi.padRight b).length := by
  rw [Abi.padRight, List.length_append]
  exact Nat.le_add_right _ _

theorem length_encodeTail {b : Bytes} :
    (encodeTail b).length = 32 + (Abi.padRight b).length := by
  rw [encodeTail, List.length_append, Layout.length_bigEndian]

theorem at_encodeTail {data b : Bytes} {pos : ℕ} (h : At data pos (encodeTail b)) :
    At data pos (bigEndian 32 b.length) ∧ At data (pos + 32) b := by
  rw [encodeTail, Abi.padRight, Layout.at_append, Layout.at_append, Layout.length_bigEndian] at h
  exact ⟨h.1, h.2.1⟩

/-- In the account's own encoding the operation's `callData` is where its reader looks. -/
theorem nested_encode {op : PackedUserOperation} {userOpHash : BytesN32} {args : Bytes}
    (hargs : args = bigEndian 32 64 ++ encodeWord userOpHash ++ encodeUserOp op)
    (hshort : args.length < 2 ^ 64) :
    Nested args op.callData 64 (288 + (encodeTail op.initCode).length) := by
  have hcallData := le_padRight op.callData
  obtain ⟨hat, hlen⟩ := Layout.at_zero.mpr hargs
  simp only [encodeUserOp, List.length_append, Layout.length_bigEndian, length_encodeWord] at hlen
  rw [length_encodeTail (b := op.callData)] at hlen
  simp only [encodeUserOp, Layout.at_append, List.length_append, Layout.length_bigEndian,
    length_encodeWord, Nat.zero_add, Nat.reduceAdd, and_assoc] at hat
  obtain ⟨hop, -, -, -, -, hrel, -, -, -, -, -, -, htail, -, -⟩ := hat
  obtain ⟨hlength, hcontent⟩ := at_encodeTail htail
  constructor
  · omega
  · norm_num
  · exact hop
  · omega
  · exact lt_trans (by omega : _ < 2 ^ 64) (by norm_num)
  · exact hrel
  · exact lt_trans (by omega : _ < 2 ^ 64) (by norm_num)
  · exact hlength
  · exact hcontent
  · omega

/-! ## The validator and the hook read one operation -/

/-- An operation without the wrapper. -/
def bare (cd : Bytes) : Bytes := if cd.take 4 = EXECUTE_USER_OP_SELECTOR then cd.drop 4 else cd

/-- An operation behind the wrapper, once. -/
def wrapped (cd : Bytes) : Bytes := EXECUTE_USER_OP_SELECTOR ++ bare cd

/-- What an account may call the hook with for the operation `cd`, padding apart. -/
inductive Form (cd : Bytes) : Bytes → Prop
  | same : Form cd cd
  | bare : Form cd (bare cd)
  | wrapped : Form cd (wrapped cd)
  | whole (op : PackedUserOperation) (userOpHash : BytesN32) (h : op.callData = AgentPolicy.wrapped cd) :
    Form cd (encodeExecuteUserOp op userOpHash)

section Markers

variable (P : Primitives)

def MARKER_NAMESPACE : BytesN32 := P.keccak256 (bytesOf "ProofBridge.AgentPolicy.marker")

/-- The marker's slot, keyed by the account and by what the operation does. -/
def markerSlot (account : EvmAddress) (mode : BytesN32) (ec : Bytes) : BytesN32 :=
  P.keccak256 (Eip712.concat [toBytes32 account,
    P.keccak256 (Eip712.concat [MARKER_NAMESPACE P, mode, P.keccak256 ec])])

/-- The slot of an operation's marker, if it decodes. -/
def markerSlotOf {ε : Type} (account : EvmAddress) (cd : Bytes) (hookPath : Bool) :
    Check ε (Option BytesN32) := do
  let args ← executeArgs cd hookPath
  pure (args.map fun a => markerSlot P account a.1 a.2)

end Markers

section Forms

variable {ε : Type} {cd form padding : Bytes} {mode : BytesN32} {ec : Bytes}

theorem bare_of_plain {body : Bytes} {offset : ℕ} (h : Plain body mode ec offset) :
    bare body = body := by
  obtain ⟨rest, hrest⟩ := h.selector_at
  rw [List.drop_zero] at hrest
  rw [bare, hrest, if_neg]
  exact (by decide : EXECUTE_SELECTOR ≠ EXECUTE_USER_OP_SELECTOR)

theorem bare_of_wrapped {body : Bytes} : bare (EXECUTE_USER_OP_SELECTOR ++ body) = body :=
  if_pos rfl

/-- Every form of an operation is that operation to the hook. -/
theorem executeArgs_form (h : (executeArgs cd false : Check ε _) = .ok (some (mode, ec)))
    (hform : Form cd form) (hshort : (form ++ padding).length < 2 ^ 64) :
    (executeArgs (form ++ padding) true : Check ε _) = .ok (some (mode, ec)) := by
  obtain ⟨body, offset, hplain, hcd⟩ := executeArgs_sound h
  have hbare : bare cd = body := by
    rcases hcd with rfl | rfl
    · exact bare_of_plain hplain
    · exact bare_of_wrapped
  have hwrapped : wrapped cd = EXECUTE_USER_OP_SELECTOR ++ body := by rw [wrapped, hbare]
  cases hform with
  | same =>
    rcases hcd with rfl | rfl
    · exact executeArgs_plain hshort hplain.append
    · rw [List.append_assoc] at hshort ⊢
      exact executeArgs_wrapped hshort hplain.append
  | bare =>
    rw [hbare] at hshort ⊢
    exact executeArgs_plain hshort hplain.append
  | wrapped =>
    rw [hwrapped, List.append_assoc] at hshort ⊢
    exact executeArgs_wrapped hshort hplain.append
  | whole op userOpHash hop =>
    rw [encodeExecuteUserOp, List.append_assoc] at hshort ⊢
    have hargsShort : (bigEndian 32 64 ++ encodeWord userOpHash ++ encodeUserOp op).length < 2 ^ 64 := by
      rw [List.length_append, List.length_append] at hshort
      omega
    have hnested := @nested_encode op userOpHash _ rfl hargsShort
    rw [hop, hwrapped] at hnested
    refine executeArgs_nested hshort ?_ hnested.append hplain
    have hzeros : bigEndian 32 64 = [0, 0, 0, 0] ++ bigEndian 28 64 := by decide
    rw [hzeros, List.append_assoc, List.append_assoc, List.append_assoc]
    exact ⟨_, rfl⟩

end Forms

/-- The validator and the hook read the same operation, and nothing an agent writes stops the
reading. -/
theorem read_alike {ε : Type} (P : Primitives) :
    (∀ (cd : Calldata) (calls : List Call),
      (decodeCalls cd.bytes false : Check ε _) = .ok (some calls) →
      ∃ mode ec, (executeArgs cd.bytes false : Check ε _) = .ok (some (mode, ec)) ∧
        ∀ form, Form cd.bytes form → ∀ (padding : Bytes) (msg : Calldata),
          msg.bytes = form ++ padding →
          (executeArgs msg.bytes true : Check ε _) = .ok (some (mode, ec)) ∧
            (decodeCalls msg.bytes true : Check ε _) = .ok (some calls) ∧
            ∀ account, (markerSlotOf P account msg.bytes true : Check ε _)
              = markerSlotOf P account cd.bytes false) ∧
      (∀ (cd : Calldata) hookPath,
        ∃ answer, (executeArgs cd.bytes hookPath : Check ε _) = .ok answer) ∧
      ∀ args : Calldata, ∃ answer, (userOpCallData args.bytes : Check ε _) = .ok answer := by
  refine ⟨?_, fun cd hookPath => executeArgs_answers cd.short,
    fun args => userOpCallData_answers args.short⟩
  intro cd calls h
  obtain ⟨args, hargs, hcalls⟩ := Check.bind_ok.mp h
  cases args with
  | none => cases hcalls
  | some args =>
    obtain ⟨mode, ec⟩ := args
    refine ⟨mode, ec, hargs, fun form hform padding msg hmsg => ?_⟩
    have hread : (executeArgs msg.bytes true : Check ε _) = .ok (some (mode, ec)) := by
      rw [hmsg]
      exact executeArgs_form hargs hform (hmsg ▸ msg.short)
    refine ⟨hread, ?_, fun account => ?_⟩
    · rw [decodeCalls, hread]
      exact hcalls
    · rw [markerSlotOf, markerSlotOf, hread, hargs]

end AgentPolicy
end ProofBridge
