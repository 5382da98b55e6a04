import ProofBridge.Evm.KeyRegistry
import ProofBridge.Lib.Text

/-!
# The owner's key messages on EVM

The EIP-712 words and the fixed text a wallet signs, as the EVM registry builds them. One `time`
carries whatever times a kind has: a deadline, a retirement's date, or both slots of a re-pin.
-/

namespace ProofBridge
namespace Evm
namespace KeyMessages

open ContractLib
open Evm.KeyRegistry (Kind KeyLeg)

def KEY_LEG_TYPE : String := "KeyLeg(uint256 chainId,bytes32 registry,uint256 nonce)"

def REGISTER_KEY_TYPE : String :=
  "RegisterKey(bytes32 account,bytes32 keyCommitment,KeyLeg[] legs,uint64 deadline)" ++ KEY_LEG_TYPE

def REVOKE_KEYS_TYPE : String := "RevokeKeys(bytes32 account,KeyLeg[] legs)" ++ KEY_LEG_TYPE

def CANCEL_PENDING_TYPE : String := "CancelPending(bytes32 account,KeyLeg[] legs)" ++ KEY_LEG_TYPE

def RETIRE_KEY_TYPE : String := "RetireKey(bytes32 account,bytes32 keyCommitment,uint64 validUntil)"

def APPROVE_MAKER_TYPE : String :=
  "ApproveMaker(bytes32 account,bytes32 maker,bool approved,KeyLeg[] legs,uint64 deadline)"
    ++ KEY_LEG_TYPE

def REPIN_ORDER_TYPE : String :=
  "RepinOrder(bytes32 account,bytes32 orderHash,uint32 fromSlot,uint32 toSlot,KeyLeg[] legs)"
    ++ KEY_LEG_TYPE

/-- What one signature says. A kind reads its own fields only: `subject` is the key fingerprint, the
maker or the order hash; only `approveMaker` reads `approved`. -/
structure Message where
  kind : Kind
  account : BytesN32
  subject : BytesN32
  legs : List KeyLeg
  time : U64
  approved : Bool
  deriving DecidableEq

/-! ## EIP-712 -/

section StructHash

variable (P : Primitives)

def typehash (type : String) : BytesN32 := P.keccak256 (bytesOf type)

/-- One leg's preimage. -/
def legWords (l : KeyLeg) : List BytesN32 :=
  [typehash P KEY_LEG_TYPE, l.chainId, l.registry, l.nonce]

/-- The preimage of the legs: the hashes of the elements. -/
def legHashes (legs : List KeyLeg) : List BytesN32 :=
  legs.map fun l => P.keccak256 (Eip712.concat (legWords P l))

def legsHash (legs : List KeyLeg) : BytesN32 := P.keccak256 (Eip712.concat (legHashes P legs))

/-- `uint32(time >> 32)`. -/
def fromSlot (time : U64) : U32 := (time >>> 32).setWidth 32

/-- `uint32(time)`. -/
def toSlot (time : U64) : U32 := time.setWidth 32

/-- The words of a message's struct. -/
def words (m : Message) : List BytesN32 :=
  match m.kind with
  | .approveMaker =>
    [typehash P APPROVE_MAKER_TYPE, m.account, m.subject,
      (BitVec.ofBool m.approved).setWidth 256, legsHash P m.legs, m.time.setWidth 256]
  | .repin =>
    [typehash P REPIN_ORDER_TYPE, m.account, m.subject, (fromSlot m.time).setWidth 256,
      (toSlot m.time).setWidth 256, legsHash P m.legs]
  | .register =>
    [typehash P REGISTER_KEY_TYPE, m.account, m.subject, legsHash P m.legs, m.time.setWidth 256]
  | .revoke => [typehash P REVOKE_KEYS_TYPE, m.account, legsHash P m.legs]
  | .cancel => [typehash P CANCEL_PENDING_TYPE, m.account, legsHash P m.legs]
  | .retire => [typehash P RETIRE_KEY_TYPE, m.account, m.subject, m.time.setWidth 256]

def structHash (m : Message) : BytesN32 := P.keccak256 (Eip712.concat (words P m))

end StructHash

/-! ## The fixed text -/

/-- The loop of `pad`: a zero before anything shorter than `width`. -/
def padLoop (width : ℕ) : ℕ → Bytes → Bytes
  | 0, out => out
  | n + 1, out => if out.length < width then padLoop width n (bytesOf "0" ++ out) else out

/-- Decimal, zero-padded to at least `width` digits. -/
def pad (v width : ℕ) : Bytes := padLoop width width (Text.decimal v)

/-- The civil date of a day counted from 1970. -/
def date (days : ℕ) : Bytes :=
  let z := days + 719468
  let era := z / 146097
  let doe := z - era * 146097
  let yoe := (doe - doe / 1460 + doe / 36524 - doe / 146096) / 365
  let doy := doe - (365 * yoe + yoe / 4 - yoe / 100)
  let mp := (5 * doy + 2) / 153
  let mo := if mp < 10 then mp + 3 else mp - 9
  pad (yoe + era * 400 + if mo ≤ 2 then 1 else 0) 4 ++ bytesOf "-" ++ pad mo 2 ++ bytesOf "-" ++
    pad (doy - (153 * mp + 2) / 5 + 1) 2

/-- Unix seconds as "YYYY-MM-DD HH:MM:SS UTC". -/
def utc (t : ℕ) : Bytes :=
  let sod := t % 86400
  date (t / 86400) ++ bytesOf " " ++ pad (sod / 3600) 2 ++ bytesOf ":" ++
    pad (sod % 3600 / 60) 2 ++ bytesOf ":" ++ pad (sod % 60) 2 ++ bytesOf " UTC"

def HEX_ALPHABET : Bytes := bytesOf "0123456789abcdef"

/-- Lowercase "0x" and 64 hex digits. -/
def hex32 (b : BytesN32) : Bytes :=
  bytesOf "0x" ++ (Eip712.toArray b).flatMap fun byte =>
    [HEX_ALPHABET.getD (byte.toNat / 16) 0, HEX_ALPHABET.getD (byte.toNat % 16) 0]

def heading (kind : Kind) (approved : Bool) : Bytes :=
  match kind with
  | .approveMaker =>
    if approved = true then
      bytesOf "ProofBridge: allow a maker to name this account as settlement signer"
    else
      bytesOf "ProofBridge: withdraw a maker's permission to name this account as settlement signer"
  | .register => bytesOf "ProofBridge: register a settlement key"
  | .revoke => bytesOf "ProofBridge: remove every settlement key"
  | .cancel => bytesOf "ProofBridge: cancel a pending key registration"
  | .repin => bytesOf "ProofBridge: move an order's settlement key to another slot"
  | .retire => bytesOf "ProofBridge: retire a settlement key"

def subjectLines (m : Message) : Bytes :=
  match m.kind with
  | .register | .retire => bytesOf "\nKey fingerprint: " ++ hex32 m.subject
  | .approveMaker => bytesOf "\nMaker: " ++ hex32 m.subject
  | .repin =>
    bytesOf "\nOrder: " ++ hex32 m.subject ++ bytesOf "\nFrom slot: " ++
      Text.decimal (fromSlot m.time).toNat ++ bytesOf "\nTo slot: " ++
      Text.decimal (toSlot m.time).toNat
  | _ => []

def deadlineLine (m : Message) : Bytes :=
  match m.kind with
  | .register | .approveMaker =>
    bytesOf "\nValid until: " ++ utc m.time.toNat ++ bytesOf " (" ++ Text.decimal m.time.toNat ++
      bytesOf ")"
  | _ => []

def legLine (l : KeyLeg) : Bytes :=
  bytesOf "\nChain " ++ Text.decimal l.chainId.toNat ++ bytesOf ", registry " ++ hex32 l.registry ++
    bytesOf ", nonce " ++ Text.decimal l.nonce.toNat

/-- What ends the text: a retirement's date, or every leg in the order signed. -/
def tail (m : Message) : Bytes :=
  match m.kind with
  | .retire => bytesOf "\nValid until: " ++ Text.decimal m.time.toNat
  | _ => m.legs.flatMap legLine

/-- Lines joined by a line feed, none at the end. -/
def text (env : Bytes) (m : Message) : Bytes :=
  heading m.kind m.approved ++ bytesOf "\n\nNetwork: " ++ env ++ bytesOf "\nAccount: " ++
    hex32 m.account ++ subjectLines m ++ deadlineLine m ++ bytesOf "\n" ++ tail m

/-! ## What a message says -/

/-- Two messages say the same: they agree on everything their kind signs. -/
structure SaysSame (m m' : Message) : Prop where
  kind : m.kind = m'.kind
  account : m.account = m'.account
  subject : m.kind ≠ .revoke → m.kind ≠ .cancel → m.subject = m'.subject
  legs : m.kind ≠ .retire → m.legs = m'.legs
  time : m.kind ≠ .revoke → m.kind ≠ .cancel → m.time = m'.time
  approved : m.kind = .approveMaker → m.approved = m'.approved

/-! ## The parts of a text show their ends -/

variable {m m' : Message}

theorem padLoop_digits {width n : ℕ} {out : Bytes} (h : ∀ b ∈ out, Text.IsDigit b) :
    ∀ b ∈ padLoop width n out, Text.IsDigit b := by
  induction n generalizing out with
  | zero => exact h
  | succ n ih =>
    unfold padLoop
    split
    · apply ih
      intro b hb
      rcases List.mem_append.mp hb with hzero | hout
      · rw [List.mem_singleton.mp (hzero : b ∈ [48])]
        decide
      · exact h b hout
    · exact h

theorem pad_digits {v width : ℕ} : ∀ b ∈ pad v width, Text.IsDigit b :=
  padLoop_digits fun _ => Text.isDigit_of_mem_decimal

/-- A date holds no bracket, so that the bracket after it ends it. -/
theorem utc_no_bracket {t : ℕ} {b : UInt8} (h : b ∈ utc t ++ bytesOf " ") : b ≠ 40 := by
  have hpad : ∀ {v width : ℕ}, b ∈ pad v width → b ≠ 40 := by
    rintro v width hmem rfl
    exact absurd (pad_digits _ hmem) (by decide)
  have hlit : ∀ {l : Bytes}, (40 ∉ l) → b ∈ l → b ≠ 40 := by
    rintro l hout hmem rfl
    exact hout hmem
  simp only [utc, date, List.mem_append] at h
  rcases h with (((((((((((h | h) | h) | h) | h) | h) | h) | h) | h) | h) | h) | h) | h
  all_goals first
    | exact hpad h
    | exact hlit (by decide) h

theorem hexDigit_lt (byte : UInt8) : byte.toNat / 16 < 16 ∧ byte.toNat % 16 < 16 := by
  have hlt := byte.toNat_lt
  omega

theorem hexAlphabet_inj : ∀ i < 16, ∀ j < 16,
    HEX_ALPHABET.getD i 0 = HEX_ALPHABET.getD j 0 → i = j := by
  decide

theorem hexBytes_inj {l l' : Bytes} (h : (l.flatMap fun byte =>
      [HEX_ALPHABET.getD (byte.toNat / 16) 0, HEX_ALPHABET.getD (byte.toNat % 16) 0])
    = l'.flatMap fun byte =>
      [HEX_ALPHABET.getD (byte.toNat / 16) 0, HEX_ALPHABET.getD (byte.toNat % 16) 0]) :
    l = l' := by
  induction l generalizing l' with
  | nil =>
    cases l' with
    | nil => rfl
    | cons b l' => cases h
  | cons a l ih =>
    cases l' with
    | nil => cases h
    | cons b l' =>
      simp only [List.flatMap_cons, List.cons_append, List.nil_append, List.cons.injEq] at h
      obtain ⟨hhigh, hlow, hrest⟩ := h
      have ha := hexDigit_lt a
      have hb := hexDigit_lt b
      have hdiv := hexAlphabet_inj _ ha.1 _ hb.1 hhigh
      have hmod := hexAlphabet_inj _ ha.2 _ hb.2 hlow
      have heq : a = b := UInt8.toNat_inj.mp (by omega)
      rw [heq, ih hrest]

theorem length_hex32 (b : BytesN32) : (hex32 b).length = 66 := by
  have hlist : ∀ l : Bytes, (l.flatMap fun byte =>
      [HEX_ALPHABET.getD (byte.toNat / 16) 0, HEX_ALPHABET.getD (byte.toNat % 16) 0]).length
        = 2 * l.length := by
    intro l
    induction l with
    | nil => rfl
    | cons a l ih =>
      rw [List.flatMap_cons, List.length_append, ih, List.length_cons]
      simp only [List.length_cons, List.length_nil]
      omega
  rw [hex32, List.length_append, hlist, Eip712.length_toArray]
  rfl

/-- A word's spelling has a fixed length. -/
theorem hex32_append_inj {a b : BytesN32} {rest rest' : Bytes}
    (h : hex32 a ++ rest = hex32 b ++ rest') : a = b ∧ rest = rest' := by
  obtain ⟨hhex, hrest⟩ := List.append_inj h (by rw [length_hex32, length_hex32])
  exact ⟨Eip712.toArray_injective (hexBytes_inj (List.append_cancel_left hhex)), hrest⟩

/-- The first line tells the kind, and whether a maker is allowed or withdrawn. -/
def ofHeading (line : Bytes) : Option (Kind × Bool) :=
  [(Kind.register, false), (.revoke, false), (.retire, false), (.cancel, false),
    (.approveMaker, true), (.approveMaker, false), (.repin, false)].find? fun k =>
      heading k.1 k.2 = line

theorem ofHeading_heading {kind : Kind} {approved : Bool} :
    ofHeading (heading kind approved) = some (kind, approved && decide (kind = .approveMaker)) := by
  cases kind <;> cases approved <;> decide +kernel

theorem heading_no_feed {kind : Kind} {approved : Bool} : ∀ b ∈ heading kind approved, b ≠ 10 := by
  cases kind <;> cases approved <;> decide +kernel

/-- A literal that starts with a byte that is no `p` ends a part of `p`s. -/
theorem ends_literal {p : UInt8 → Prop} {b : UInt8} {l lit rest : Bytes} (hlit : lit = b :: l)
    (hb : ¬p b) : Text.Ends p (lit ++ rest) := by
  rw [hlit, List.cons_append]
  exact Text.ends_cons hb

theorem decimal_literal_inj {v v' : ℕ} {b : UInt8} {l lit rest rest' : Bytes} (hlit : lit = b :: l)
    (hb : ¬Text.IsDigit b)
    (h : Text.decimal v ++ (lit ++ rest) = Text.decimal v' ++ (lit ++ rest')) :
    v = v' ∧ rest = rest' := by
  obtain ⟨hv, hrest⟩ :=
    Text.decimal_append_inj (ends_literal hlit hb) (ends_literal hlit hb) h
  exact ⟨hv, List.append_cancel_left hrest⟩

/-- A leg's line is told apart from what follows it: another leg's line, or nothing. -/
theorem legs_inj {legs legs' : List KeyLeg} (h : legs.flatMap legLine = legs'.flatMap legLine) :
    legs = legs' := by
  have hline : ∀ (l : KeyLeg) (rest : Bytes), legLine l ++ rest ≠ [] := by
    intro l rest hnil
    have hlit : bytesOf "\nChain " = 10 :: bytesOf "Chain " := by decide +kernel
    rw [legLine, hlit] at hnil
    simp at hnil
  have hends : ∀ legs : List KeyLeg, Text.Ends Text.IsDigit (legs.flatMap legLine) := by
    intro legs
    cases legs with
    | nil => exact Text.ends_nil
    | cons l legs =>
      rw [List.flatMap_cons, legLine]
      simp only [List.append_assoc]
      exact ends_literal (b := 10) (l := bytesOf "Chain ") (by decide +kernel) (by decide)
  induction legs generalizing legs' with
  | nil =>
    cases legs' with
    | nil => rfl
    | cons l' legs' => exact absurd h.symm (hline _ _)
  | cons l legs ih =>
    cases legs' with
    | nil => exact absurd h (hline _ _)
    | cons l' legs' =>
      simp only [List.flatMap_cons, legLine, List.append_assoc] at h
      obtain ⟨hchain, h⟩ := decimal_literal_inj (b := 44) (l := bytesOf " registry ")
        (by decide +kernel) (by decide) (List.append_cancel_left h)
      obtain ⟨hregistry, h⟩ := hex32_append_inj h
      obtain ⟨hnonce, h⟩ := Text.decimal_append_inj (hends legs) (hends legs')
        (List.append_cancel_left h)
      rw [ih h]
      cases l
      cases l'
      simp only [KeyLeg.mk.injEq, List.cons.injEq, and_true]
      exact ⟨BitVec.eq_of_toNat_eq hchain, hregistry, BitVec.eq_of_toNat_eq hnonce⟩

/-- A deadline is spelt as a date and in seconds; the seconds tell it. -/
theorem deadline_inj {t t' : U64} {rest rest' : Bytes}
    (h : bytesOf "\nValid until: " ++ (utc t.toNat ++ (bytesOf " (" ++ (Text.decimal t.toNat ++
        (bytesOf ")" ++ rest))))
      = bytesOf "\nValid until: " ++ (utc t'.toNat ++ (bytesOf " (" ++ (Text.decimal t'.toNat ++
        (bytesOf ")" ++ rest'))))) : t = t' ∧ rest = rest' := by
  have hopen : bytesOf " (" = bytesOf " " ++ bytesOf "(" := by decide +kernel
  rw [hopen] at h
  have hsplit : (utc t.toNat ++ bytesOf " ") ++ (bytesOf "(" ++ (Text.decimal t.toNat ++
        (bytesOf ")" ++ rest)))
      = (utc t'.toNat ++ bytesOf " ") ++ (bytesOf "(" ++ (Text.decimal t'.toNat ++
        (bytesOf ")" ++ rest'))) := by
    simpa only [List.append_assoc] using List.append_cancel_left h
  have hends : ∀ r : Bytes, Text.Ends (· ≠ 40) (bytesOf "(" ++ r) := fun r =>
    ends_literal (b := 40) (l := []) (by decide +kernel) (by simp)
  have hclose : bytesOf ")" = 41 :: [] := by decide +kernel
  obtain ⟨-, hrest⟩ := Text.append_inj_of_ends (fun _ => utc_no_bracket) (fun _ => utc_no_bracket)
    (hends _) (hends _) hsplit
  obtain ⟨htime, hrest⟩ :=
    decimal_literal_inj hclose (by decide) (List.append_cancel_left hrest)
  exact ⟨BitVec.eq_of_toNat_eq htime, hrest⟩

theorem slots_inj {t t' : U64} (hfrom : fromSlot t = fromSlot t') (hto : toSlot t = toSlot t') :
    t = t' := by
  apply BitVec.eq_of_toNat_eq
  have hhigh := congrArg BitVec.toNat hfrom
  have hlow := congrArg BitVec.toNat hto
  simp only [fromSlot, toSlot, BitVec.toNat_setWidth, BitVec.toNat_ushiftRight,
    Nat.shiftRight_eq_div_pow] at hhigh hlow
  have ht := t.isLt
  have ht' := t'.isLt
  omega

/-- The text says what the message says. -/
theorem text_inj {env : Bytes} (h : text env m = text env m') : SaysSame m m' := by
  obtain ⟨kind, account, subject, legs, time, approved⟩ := m
  obtain ⟨kind', account', subject', legs', time', approved'⟩ := m'
  have hfeed : bytesOf "\n\nNetwork: " = 10 :: bytesOf "\nNetwork: " := by decide +kernel
  simp only [text, List.append_assoc] at h
  obtain ⟨hheading, h⟩ := Text.append_inj_of_ends (heading_no_feed) (heading_no_feed)
    (ends_literal hfeed (by simp)) (ends_literal hfeed (by simp)) h
  have hkind := congrArg ofHeading hheading
  rw [ofHeading_heading, ofHeading_heading] at hkind
  obtain ⟨rfl, happroved⟩ := Prod.mk.inj (Option.some.inj hkind)
  obtain ⟨haccount, h⟩ := hex32_append_inj
    (List.append_cancel_left (List.append_cancel_left (List.append_cancel_left h)))
  subst haccount
  cases kind with
  | register =>
    simp only [subjectLines, deadlineLine, tail, List.append_assoc] at h
    obtain ⟨hsubject, h⟩ := hex32_append_inj (List.append_cancel_left h)
    obtain ⟨htime, h⟩ := deadline_inj h
    exact ⟨rfl, rfl, fun _ _ => hsubject, fun _ => legs_inj (List.append_cancel_left h),
      fun _ _ => htime, fun hkind => by cases hkind⟩
  | revoke =>
    simp only [subjectLines, deadlineLine, tail, List.nil_append] at h
    exact ⟨rfl, rfl, fun hkind => absurd rfl hkind,
      fun _ => legs_inj (List.append_cancel_left h), fun hkind => absurd rfl hkind,
      fun hkind => by cases hkind⟩
  | retire =>
    simp only [subjectLines, deadlineLine, tail, List.append_assoc, List.nil_append] at h
    obtain ⟨hsubject, h⟩ := hex32_append_inj (List.append_cancel_left h)
    have htime := Text.decimal_injective
      (List.append_cancel_left (List.append_cancel_left h))
    exact ⟨rfl, rfl, fun _ _ => hsubject, fun hkind => absurd rfl hkind,
      fun _ _ => BitVec.eq_of_toNat_eq htime, fun hkind => by cases hkind⟩
  | cancel =>
    simp only [subjectLines, deadlineLine, tail, List.nil_append] at h
    exact ⟨rfl, rfl, fun _ hkind => absurd rfl hkind,
      fun _ => legs_inj (List.append_cancel_left h), fun _ hkind => absurd rfl hkind,
      fun hkind => by cases hkind⟩
  | approveMaker =>
    simp only [subjectLines, deadlineLine, tail, List.append_assoc] at h
    obtain ⟨hsubject, h⟩ := hex32_append_inj (List.append_cancel_left h)
    obtain ⟨htime, h⟩ := deadline_inj h
    simp only [decide_true, Bool.and_true] at happroved
    exact ⟨rfl, rfl, fun _ _ => hsubject, fun _ => legs_inj (List.append_cancel_left h),
      fun _ _ => htime, fun _ => happroved⟩
  | repin =>
    simp only [subjectLines, deadlineLine, tail, List.append_assoc, List.nil_append] at h
    have hto : bytesOf "\nTo slot: " = 10 :: bytesOf "To slot: " := by decide +kernel
    have hend : bytesOf "\n" = 10 :: [] := by decide +kernel
    obtain ⟨hsubject, h⟩ := hex32_append_inj (List.append_cancel_left h)
    obtain ⟨hfrom, h⟩ := decimal_literal_inj hto (by decide) (List.append_cancel_left h)
    obtain ⟨hto, h⟩ := decimal_literal_inj hend (by decide) h
    have htime := slots_inj (BitVec.eq_of_toNat_eq hfrom) (BitVec.eq_of_toNat_eq hto)
    exact ⟨rfl, rfl, fun _ _ => hsubject, fun _ => legs_inj h, fun _ _ => htime,
      fun hkind => by cases hkind⟩

/-! ## The struct hash says what the message says -/

/-- keccak256 of the type string of a kind, as the Soroban registry writes it. -/
def typeLiteral : Kind → BytesN32
  | .register => 0x86b4f5a5d0735e9a7a9eb9dfa32f81364b1602f5098d95182da506eef7027c92
  | .revoke => 0xd2cc9644d4c5bccccd706cafc58d84449d6f6d113297aa878f49d24ac672a825
  | .retire => 0x1abc6df038c182ce0998121f306e7bd9a9f4b4a010fc40d909308c8e77cb90fd
  | .cancel => 0x3528ec7f948a36baeb9610767aa9f05922e7e14d2eabe51142e58c743778d12f
  | .approveMaker => 0x1acb1f6ffc960ff061d0ad70e584831841b1fa26815ced608b798b3b50d0ab72
  | .repin => 0xf41df3e8e10a8c2c5347b10a398ea576045b4b3f01c43233858369db38d512c5

/-- The type strings hash to the literals the Soroban registry writes. -/
structure TypeHashes (P : Primitives) : Prop where
  keyLeg : typehash P KEY_LEG_TYPE
    = 0xfa75af9d4f7f233233f7046e929ef40cd6d17ee3c0f579aeae91b2c8697b9599
  registerKey : typehash P REGISTER_KEY_TYPE = typeLiteral .register
  revokeKeys : typehash P REVOKE_KEYS_TYPE = typeLiteral .revoke
  retireKey : typehash P RETIRE_KEY_TYPE = typeLiteral .retire
  cancelPending : typehash P CANCEL_PENDING_TYPE = typeLiteral .cancel
  approveMaker : typehash P APPROVE_MAKER_TYPE = typeLiteral .approveMaker
  repinOrder : typehash P REPIN_ORDER_TYPE = typeLiteral .repin

/-- Every byte string keccak reads while a message is hashed. -/
def preimages (P : Primitives) (m : Message) : Set Bytes :=
  {Eip712.concat (words P m), Eip712.concat (legHashes P m.legs)} ∪
    {data | ∃ l ∈ m.legs, data = Eip712.concat (legWords P l)}

variable {P : Primitives}

theorem legHashes_inj {s : Set Bytes} (hinj : Set.InjOn P.keccak256 s) {legs legs' : List KeyLeg}
    (hs : ∀ l ∈ legs, Eip712.concat (legWords P l) ∈ s)
    (hs' : ∀ l ∈ legs', Eip712.concat (legWords P l) ∈ s)
    (h : legHashes P legs = legHashes P legs') : legs = legs' := by
  induction legs generalizing legs' with
  | nil =>
    cases legs' with
    | nil => rfl
    | cons l' legs' => cases h
  | cons l legs ih =>
    cases legs' with
    | nil => cases h
    | cons l' legs' =>
      obtain ⟨hhead, htail⟩ := List.cons.inj h
      have hwords := Eip712.concat_injective
        (hinj (hs l List.mem_cons_self) (hs' l' List.mem_cons_self) hhead)
      simp only [legWords, List.cons.injEq, true_and, and_true] at hwords
      obtain ⟨hchain, hregistry, hnonce⟩ := hwords
      have hleg : l = l' := by
        cases l
        cases l'
        simp only [KeyLeg.mk.injEq]
        exact ⟨hchain, hregistry, hnonce⟩
      rw [hleg, ih (fun x hx => hs x (List.mem_cons_of_mem _ hx))
        (fun x hx => hs' x (List.mem_cons_of_mem _ hx)) htail]

theorem legsHash_inj (hinj : Set.InjOn P.keccak256 (preimages P m ∪ preimages P m'))
    (h : legsHash P m.legs = legsHash P m'.legs) : m.legs = m'.legs := by
  have hhashes := hinj (.inl (.inl (.inr rfl))) (.inr (.inl (.inr rfl))) h
  exact legHashes_inj hinj (fun l hl => .inl (.inr ⟨l, hl, rfl⟩))
    (fun l hl => .inr (.inr ⟨l, hl, rfl⟩)) (Eip712.concat_injective hhashes)

theorem typeLiteral_inj {kind kind' : Kind} (h : typeLiteral kind = typeLiteral kind') :
    kind = kind' := by
  cases kind <;> cases kind' <;> first
    | rfl
    | exact absurd h (by decide)

theorem words_head (htypes : TypeHashes P) :
    ∃ rest, words P m = typeLiteral m.kind :: rest := by
  unfold words
  cases m.kind with
  | register => exact ⟨_, by rw [htypes.registerKey]⟩
  | revoke => exact ⟨_, by rw [htypes.revokeKeys]⟩
  | retire => exact ⟨_, by rw [htypes.retireKey]⟩
  | cancel => exact ⟨_, by rw [htypes.cancelPending]⟩
  | approveMaker => exact ⟨_, by rw [htypes.approveMaker]⟩
  | repin => exact ⟨_, by rw [htypes.repinOrder]⟩

theorem word_inj {w : ℕ} (hw : w ≤ 256) {a b : BitVec w}
    (h : a.setWidth 256 = b.setWidth 256) : a = b :=
  Eip712.abiEncodeUint256_injective hw h

theorem ofBool_inj {b b' : Bool} (h : BitVec.ofBool b = BitVec.ofBool b') : b = b' := by
  cases b <;> cases b' <;> first
    | rfl
    | exact absurd h (by decide)

/-- The struct hash says what the message says, where keccak does not collide on its preimages. -/
theorem structHash_inj (htypes : TypeHashes P)
    (hinj : Set.InjOn P.keccak256 (preimages P m ∪ preimages P m'))
    (h : structHash P m = structHash P m') : SaysSame m m' := by
  have hwords := Eip712.concat_injective (hinj (.inl (.inl (.inl rfl))) (.inr (.inl (.inl rfl))) h)
  have hlegs := legsHash_inj hinj
  obtain ⟨rest, hhead⟩ := words_head htypes (m := m)
  obtain ⟨rest', hhead'⟩ := words_head htypes (m := m')
  have hkind : m.kind = m'.kind := by
    rw [hhead, hhead'] at hwords
    exact typeLiteral_inj (List.cons.inj hwords).1
  obtain ⟨kind, account, subject, legs, time, approved⟩ := m
  obtain ⟨kind', account', subject', legs', time', approved'⟩ := m'
  obtain rfl : kind = kind' := hkind
  cases kind with
  | register =>
    simp only [words, List.cons.injEq, true_and, and_true] at hwords
    obtain ⟨haccount, hsubject, hhash, htime⟩ := hwords
    exact ⟨rfl, haccount, fun _ _ => hsubject, fun _ => hlegs hhash,
      fun _ _ => word_inj (by norm_num) htime, fun hkind => by cases hkind⟩
  | revoke =>
    simp only [words, List.cons.injEq, true_and, and_true] at hwords
    obtain ⟨haccount, hhash⟩ := hwords
    exact ⟨rfl, haccount, fun hkind => absurd rfl hkind, fun _ => hlegs hhash,
      fun hkind => absurd rfl hkind, fun hkind => by cases hkind⟩
  | retire =>
    simp only [words, List.cons.injEq, true_and, and_true] at hwords
    obtain ⟨haccount, hsubject, htime⟩ := hwords
    exact ⟨rfl, haccount, fun _ _ => hsubject, fun hkind => absurd rfl hkind,
      fun _ _ => word_inj (by norm_num) htime, fun hkind => by cases hkind⟩
  | cancel =>
    simp only [words, List.cons.injEq, true_and, and_true] at hwords
    obtain ⟨haccount, hhash⟩ := hwords
    exact ⟨rfl, haccount, fun _ hkind => absurd rfl hkind, fun _ => hlegs hhash,
      fun _ hkind => absurd rfl hkind, fun hkind => by cases hkind⟩
  | approveMaker =>
    simp only [words, List.cons.injEq, true_and, and_true] at hwords
    obtain ⟨haccount, hsubject, happroved, hhash, htime⟩ := hwords
    have hflag : BitVec.ofBool approved = BitVec.ofBool approved' :=
      word_inj (by norm_num) happroved
    exact ⟨rfl, haccount, fun _ _ => hsubject, fun _ => hlegs hhash,
      fun _ _ => word_inj (by norm_num) htime, fun _ => ofBool_inj hflag⟩
  | repin =>
    simp only [words, List.cons.injEq, true_and, and_true] at hwords
    obtain ⟨haccount, hsubject, hfrom, hto, hhash⟩ := hwords
    have htime := slots_inj (word_inj (by norm_num) hfrom) (word_inj (by norm_num) hto)
    exact ⟨rfl, haccount, fun _ _ => hsubject, fun _ => hlegs hhash, fun _ _ => htime,
      fun hkind => by cases hkind⟩

end KeyMessages
end Evm
end ProofBridge
