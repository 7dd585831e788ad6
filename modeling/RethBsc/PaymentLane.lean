import RethBsc.SystemTransactions
import RethBsc.Trace

/-!
The payment lane of a block.

A share of the gas limit is reserved for payment transactions, and general transactions leave
free what the payment transactions have not claimed of it. The rule for a finished block looks at
the gas of all of its transactions, system transactions included. A producer does not know yet
what those will use: it admits a transaction only if the block would still be legal after the
system transactions used all that is set aside for them.
-/

namespace RethBsc

def ratioDenom : ℕ := 10000
def maxLaneRatio : ℕ := 1000
def pageSize : ℕ := 128
def maxListedContracts : ℕ := 100000

inductive LaneType
  | generalLane | paymentLane
  deriving DecidableEq

/-- The quota of a block and the payment gas booked so far. -/
structure Budget where
  paymentLaneQuota : ℕ
  paymentLaneUsed : ℕ
  deriving DecidableEq

inductive LaneError
  | violated (gasLimit gasUsed quota paymentGasUsed : ℕ)
  | bidEatsReservation (idle shared : ℕ)
  | corruptConfig (text : String)
  | stateUnavailable (text : String)
  deriving DecidableEq

def LaneError.message : LaneError → String
  | violated gasLimit gasUsed quota paymentGasUsed =>
    s!"payment lane inequality violated: gas used {gasUsed} payment {paymentGasUsed} " ++
      s!"quota {quota} limit {gasLimit}"
  | bidEatsReservation idle shared =>
    s!"payment lane inequality violated: idle lane {idle} exceeds the {shared} gas left in " ++
      "the pool"
  | corruptConfig text => s!"corrupt payment lane config: {text}"
  | stateUnavailable text => s!"payment lane state unavailable: {text}"

/-- What governance set, as of the parent of a block. -/
structure LaneMeta where
  ratio : ℕ
  listed : Finset Address
  deriving DecidableEq

/-! ### Rules -/

/-- The getter answers with a `U256`. -/
def checkRatio (ratio : ℕ) : Except LaneError ℕ :=
  if ratio ≤ u64Max ∧ 0 < ratio ∧ ratio ≤ maxLaneRatio then .ok ratio
  else .error
    (.corruptConfig s!"payment lane ratio {ratio} outside 0 < ratio <= {maxLaneRatio}")

/-- The product is taken in 128 bits; `quota_le` says why the conversion back cannot fail. -/
def quota (ratio gasLimit : ℕ) : ℕ := ratio * gasLimit / ratioDenom

def checkInequality (gasLimit gasUsed paymentGasUsed paymentLaneQuota : ℕ) :
    Except LaneError Unit :=
  let idle := paymentLaneQuota - paymentGasUsed
  if gasUsed + idle ≤ u64Max ∧ gasUsed + idle ≤ gasLimit then .ok ()
  else .error (.violated gasLimit gasUsed paymentLaneQuota paymentGasUsed)

/-- A creation has no recipient. The last argument reads the code of an account as it is now. -/
def classify (isSystem : Bool) (recipient : Option Address) (txType value : ℕ)
    (listed : Finset Address) (codeAtToIsEmpty : Address → Except LaneError Bool) :
    Except LaneError LaneType :=
  if isSystem then .ok .generalLane
  else
    match recipient with
    | none => .ok .generalLane
    | some recipient =>
      if ¬ txType ≤ 2 then .ok .generalLane
      else if recipient ∈ listed then .ok .paymentLane
      else if value = 0 then .ok .generalLane
      else do
        if ← codeAtToIsEmpty recipient then .ok .paymentLane else .ok .generalLane

namespace Budget

variable (b : Budget)

def idleLane : ℕ := b.paymentLaneQuota - b.paymentLaneUsed

def maxAvailableGas (shared : ℕ) : LaneType → ℕ
  | .paymentLane => shared
  | .generalLane => shared - b.idleLane

def admits (shared : ℕ) (lane : LaneType) (txGasLimit : ℕ) : Bool :=
  decide (txGasLimit ≤ b.maxAvailableGas shared lane)

def recordUsed (lane : LaneType) (delta : ℕ) : Budget :=
  if lane = .paymentLane then { b with paymentLaneUsed := b.paymentLaneUsed + delta } else b

def verify (gasLimit gasUsed : ℕ) : Except LaneError Unit :=
  checkInequality gasLimit gasUsed b.paymentLaneUsed b.paymentLaneQuota

end Budget

/-! ### The lane of one block -/

structure Active where
  laneMeta : LaneMeta
  budget : Budget
  gasLimit : ℕ
  deriving DecidableEq

/-- `none` for a lane that is off: it restricts nothing. -/
abbrev LaneState := Option Active

def TxType.ty : TxType → ℕ
  | .legacy => 0
  | .eip2930 => 1
  | .eip1559 => 2
  | .eip4844 => 3
  | .eip7702 => 4

namespace LaneState

def off : LaneState := none

/-- The lane of a block with the given gas limit, from what `load` found for its parent. -/
def activate (laneMeta : LaneMeta) (gasLimit : ℕ) : LaneState :=
  some ⟨laneMeta, ⟨quota laneMeta.ratio gasLimit, 0⟩, gasLimit⟩

variable (lane : LaneState)

def on : Bool := lane.isSome

def classify (codeIsEmpty : Address → Except LaneError Bool) (isSystem : Bool)
    (tx : Transaction) : Except LaneError LaneType :=
  match lane with
  | none => .ok .generalLane
  | some active =>
    RethBsc.classify isSystem tx.toAddress tx.txType.ty tx.value active.laneMeta.listed codeIsEmpty

def recordUsed (laneType : LaneType) (delta : ℕ) : LaneState :=
  lane.map fun active => { active with budget := active.budget.recordUsed laneType delta }

def admits (shared : ℕ) (laneType : LaneType) (txGasLimit : ℕ) : Bool :=
  match lane with
  | none => true
  | some active => active.budget.admits shared laneType txGasLimit

def verifyPackedBid (shared : ℕ) : Except LaneError Unit :=
  match lane with
  | none => .ok ()
  | some active =>
    if active.budget.idleLane > shared then
      .error (.bidEatsReservation active.budget.idleLane shared)
    else .ok ()

def verify (gasUsed : ℕ) : Except LaneError Unit :=
  match lane with
  | none => .ok ()
  | some active => active.budget.verify active.gasLimit gasUsed

end LaneState

/-! ### The executor -/

structure LaneExecutor where
  mode : BscExecutionMode
  beneficiary : Address
  gasLimit : ℕ
  /-- `estimate_gas_reserved_for_system_txs` for the block. -/
  reserved : ℕ
  gasUsed : ℕ
  lane : LaneState
  deriving DecidableEq

inductive PackError
  | laneReject (error : LaneError)
  | gasLimitMoreThanAvailableBlockGas (transactionGasLimit blockAvailableGas : ℕ)
  | callerGasLimitMoreThanBlock
  deriving DecidableEq

namespace LaneExecutor

variable (ex : LaneExecutor)

def producerSharedGas : ℕ := ex.gasLimit - ex.reserved - ex.gasUsed

def laneAdmits (txGasLimit : ℕ) (laneType : LaneType) (shared : ℕ) : Bool :=
  ex.lane.admits shared laneType txGasLimit

def laneAdmitsPoolTx (codeIsEmpty : Address → Except LaneError Bool) (tx : Transaction)
    (signer : Address) (shared : ℕ) : Except PackError Bool :=
  match ex.lane.classify codeIsEmpty (isSystemTransaction tx signer ex.beneficiary) tx with
  | .error e => .error (.laneReject e)
  | .ok laneType => .ok (ex.laneAdmits tx.gasLimit laneType shared)

/-- The checks of a transaction before the EVM runs it. A system transaction is put aside. -/
def executeTransactionWithoutCommit (codeIsEmpty : Address → Except LaneError Bool)
    (tx : Transaction) (signer : Address) : Except PackError (Bool × LaneType) :=
  let isSystem := isSystemTransaction tx signer ex.beneficiary
  match ex.lane.classify codeIsEmpty isSystem tx with
  | .error e => .error (.laneReject e)
  | .ok laneType =>
    if isSystem then .ok (true, laneType)
    else if tx.gasLimit > ex.gasLimit - ex.gasUsed then
      .error (.gasLimitMoreThanAvailableBlockGas tx.gasLimit (ex.gasLimit - ex.gasUsed))
    else if ex.mode = .mining ∧ ex.lane.on = true ∧
        ex.laneAdmits tx.gasLimit laneType ex.producerSharedGas = false then
      .error .callerGasLimitMoreThanBlock
    else .ok (false, laneType)

def commitTransaction (isSystem : Bool) (laneType : LaneType) (txGasUsed : ℕ) : LaneExecutor :=
  if isSystem then ex
  else { ex with gasUsed := ex.gasUsed + txGasUsed, lane := ex.lane.recordUsed laneType txGasUsed }

/-- The check of a whole bid, before its system transactions. -/
def verifyPackedBid : Except LaneError Unit := ex.lane.verifyPackedBid ex.producerSharedGas

def verifyPaymentLane (gasUsed : ℕ) : Except LaneError Unit :=
  if ex.lane.on then ex.lane.verify gasUsed else .ok ()

/-- The executor of a block before its first transaction. -/
def start (mode : BscExecutionMode) (beneficiary : Address) (laneMeta : LaneMeta)
    (gasLimit reserved : ℕ) : LaneExecutor :=
  ⟨mode, beneficiary, gasLimit, reserved, 0, LaneState.activate laneMeta gasLimit⟩

end LaneExecutor

/-! ### Runs -/

/-- A transaction of a block under construction: its lane, the gas it declares and the gas it
uses. -/
structure LaneTx where
  laneType : LaneType
  gasLimit : ℕ
  gasUsed : ℕ
  deriving DecidableEq

namespace LaneExecutor

/-- A transaction that fits what is left of the block. -/
def Packs (tx : LaneTx) (ex ex' : LaneExecutor) : Prop :=
  tx.gasLimit ≤ ex.gasLimit - ex.gasUsed ∧ tx.gasUsed ≤ tx.gasLimit ∧
    ex' = ex.commitTransaction false tx.laneType tx.gasUsed

/-- A transaction that the producer rule admits. -/
def Mines (tx : LaneTx) (ex ex' : LaneExecutor) : Prop :=
  ex.laneAdmits tx.gasLimit tx.laneType ex.producerSharedGas = true ∧
    tx.gasUsed ≤ tx.gasLimit ∧ ex' = ex.commitTransaction false tx.laneType tx.gasUsed

end LaneExecutor

/-! ### Facts on the rules -/

lemma checkRatio_eq_ok {ratio k : ℕ} (h : checkRatio ratio = .ok k) :
    k = ratio ∧ 0 < k ∧ k ≤ maxLaneRatio := by
  unfold checkRatio at h
  split at h
  · rename_i hr
    obtain rfl : ratio = k := by simpa using h
    exact ⟨rfl, hr.2.1, hr.2.2⟩
  · exact absurd h (by simp)

lemma quota_le {ratio k : ℕ} (h : checkRatio ratio = .ok k) (gasLimit : ℕ) :
    10 * quota k gasLimit ≤ gasLimit := by
  have hk : k ≤ 1000 := (checkRatio_eq_ok h).2.2
  have hmul : k * gasLimit ≤ 1000 * gasLimit := Nat.mul_le_mul_right _ hk
  unfold quota ratioDenom
  omega

lemma checkInequality_eq_ok {gasLimit gasUsed paymentGasUsed paymentLaneQuota : ℕ} :
    checkInequality gasLimit gasUsed paymentGasUsed paymentLaneQuota = .ok () ↔
      gasUsed + (paymentLaneQuota - paymentGasUsed) ≤ min u64Max gasLimit := by
  unfold checkInequality
  simp only [le_min_iff]
  split <;> simp_all

namespace Budget

variable (b : Budget) {shared txGasLimit : ℕ} {lane : LaneType}

lemma admits_iff : b.admits shared lane txGasLimit ↔ txGasLimit ≤ b.maxAvailableGas shared lane :=
  decide_eq_true_iff

lemma not_admits_iff :
    b.admits shared lane txGasLimit = false ↔ b.maxAvailableGas shared lane < txGasLimit := by
  rw [Bool.eq_false_iff, ne_eq, admits_iff, not_le]

lemma idleLane_recordUsed (lane : LaneType) (delta : ℕ) : (b.recordUsed lane delta).idleLane =
      if lane = .paymentLane then b.idleLane - delta else b.idleLane := by
  unfold recordUsed idleLane
  split
  · rw [Nat.sub_sub]
  · rfl

lemma admits_keeps {used : ℕ} (hidle : b.idleLane ≤ shared)
    (hadmits : b.admits shared lane txGasLimit) (hused : used ≤ txGasLimit) :
    used + (b.recordUsed lane used).idleLane ≤ shared := by
  rw [admits_iff] at hadmits
  rw [idleLane_recordUsed]
  cases lane with
  | generalLane =>
    simp only [maxAvailableGas] at hadmits
    simp only [reduceCtorEq, if_false]
    omega
  | paymentLane =>
    simp only [maxAvailableGas] at hadmits
    simp only [if_true]
    omega

lemma exists_use_of_not_admits (h : b.admits shared lane txGasLimit = false) :
    ∃ used ≤ txGasLimit, used ≤ shared + 1 ∧ shared < used + (b.recordUsed lane used).idleLane := by
  rw [not_admits_iff] at h
  cases lane with
  | generalLane =>
    simp only [maxAvailableGas] at h
    refine ⟨shared - b.idleLane + 1, h, by omega, ?_⟩
    rw [idleLane_recordUsed]
    simp only [reduceCtorEq, if_false]
    omega
  | paymentLane => exact ⟨shared + 1, h, le_rfl, by omega⟩

end Budget

/-! ### Facts on the executor -/

namespace LaneExecutor

def Laned (ex : LaneExecutor) (b : Budget) : Prop :=
  ∃ laneMeta, ex.lane = some ⟨laneMeta, b, ex.gasLimit⟩

variable {ex ex' : LaneExecutor} {b : Budget} {tx : LaneTx} {txs : List LaneTx}

open LaneState

lemma Laned.commitTransaction (h : ex.Laned b) (laneType : LaneType) (used : ℕ) :
    (ex.commitTransaction false laneType used).Laned (b.recordUsed laneType used) := by
  obtain ⟨laneMeta, hlane⟩ := h
  refine ⟨laneMeta, ?_⟩
  simp [LaneExecutor.commitTransaction, recordUsed, hlane]

lemma Laned.laneAdmits (h : ex.Laned b) (txGasLimit : ℕ) (laneType : LaneType) (shared : ℕ) :
    ex.laneAdmits txGasLimit laneType shared = b.admits shared laneType txGasLimit := by
  obtain ⟨laneMeta, hlane⟩ := h
  simp [LaneExecutor.laneAdmits, admits, hlane]

lemma Laned.verifyPaymentLane (h : ex.Laned b) (hlimit : ex.gasLimit ≤ u64Max) (gasUsed : ℕ) :
    ex.verifyPaymentLane gasUsed = .ok () ↔ gasUsed + b.idleLane ≤ ex.gasLimit := by
  obtain ⟨laneMeta, hlane⟩ := h
  have hverify : ex.verifyPaymentLane gasUsed = b.verify ex.gasLimit gasUsed := by
    simp [LaneExecutor.verifyPaymentLane, on, verify, hlane]
  rw [hverify, Budget.verify, checkInequality_eq_ok, min_eq_right hlimit, Budget.idleLane]

lemma Laned.verifyPackedBid (h : ex.Laned b) :
    ex.verifyPackedBid = .ok () ↔ b.idleLane ≤ ex.producerSharedGas := by
  obtain ⟨laneMeta, hlane⟩ := h
  simp only [LaneExecutor.verifyPackedBid, LaneState.verifyPackedBid, hlane]
  split <;> simp_all

lemma error_of_ne_ok {e : Except LaneError Unit} (h : e ≠ .ok ()) : ∃ error, e = .error error := by
  cases e with
  | error error => exact ⟨error, rfl⟩
  | ok _ => exact absurd rfl h

/-! A run changes the gas used and the budget, and nothing else. -/

@[simp] lemma commitTransaction_gasUsed (laneType : LaneType) (used : ℕ) :
    (ex.commitTransaction false laneType used).gasUsed = ex.gasUsed + used := rfl

@[simp] lemma commitTransaction_gasLimit (laneType : LaneType) (used : ℕ) :
    (ex.commitTransaction false laneType used).gasLimit = ex.gasLimit := rfl

@[simp] lemma commitTransaction_reserved (laneType : LaneType) (used : ℕ) :
    (ex.commitTransaction false laneType used).reserved = ex.reserved := rfl

/-- Where a block stands: its lane is on, and it has not used more than its limit. -/
structure Stands (gasLimit reserved : ℕ) (ex : LaneExecutor) : Prop where
  limit_eq : ex.gasLimit = gasLimit
  reserved_eq : ex.reserved = reserved
  laned : ∃ b, ex.Laned b
  used_le : ex.gasUsed ≤ gasLimit

/-- The invariant of the producer: reserve and reservation still fit. -/
structure Keeps (gasLimit reserved : ℕ) (ex : LaneExecutor) : Prop where
  limit_eq : ex.gasLimit = gasLimit
  reserved_eq : ex.reserved = reserved
  fits : ∃ b, ex.Laned b ∧ ex.gasUsed + b.idleLane + reserved ≤ gasLimit

variable {gasLimit reserved : ℕ}

lemma Keeps.stands (h : Keeps gasLimit reserved ex) : Stands gasLimit reserved ex := by
  obtain ⟨b, hlaned, hfits⟩ := h.fits
  exact ⟨h.limit_eq, h.reserved_eq, ⟨b, hlaned⟩, by omega⟩

lemma Stands.sharedGas_eq (h : Stands gasLimit reserved ex) :
    ex.producerSharedGas = gasLimit - reserved - ex.gasUsed := by
  rw [producerSharedGas, h.limit_eq, h.reserved_eq]

lemma Keeps.mines (h : Keeps gasLimit reserved ex) (hstep : Mines tx ex ex') :
    Keeps gasLimit reserved ex' := by
  obtain ⟨b, hlaned, hfits⟩ := h.fits
  obtain ⟨hadmits, hused, rfl⟩ := hstep
  rw [hlaned.laneAdmits, h.stands.sharedGas_eq] at hadmits
  have hroom := b.admits_keeps (by omega) hadmits hused
  refine ⟨by simp [h.limit_eq], by simp [h.reserved_eq], _, hlaned.commitTransaction _ _, ?_⟩
  simp only [commitTransaction_gasUsed]
  omega

lemma Stands.packs (h : Stands gasLimit reserved ex) (hstep : Packs tx ex ex') :
    Stands gasLimit reserved ex' := by
  obtain ⟨b, hlaned⟩ := h.laned
  obtain ⟨hroom, hused, rfl⟩ := hstep
  have hle := h.used_le
  rw [h.limit_eq] at hroom
  refine ⟨by simp [h.limit_eq], by simp [h.reserved_eq], ⟨_, hlaned.commitTransaction _ _⟩, ?_⟩
  simp only [commitTransaction_gasUsed]
  omega

lemma Keeps.verifies (h : Keeps gasLimit reserved ex) (hlimit : gasLimit ≤ u64Max) {systemGas : ℕ}
    (hsystem : systemGas ≤ reserved) : ex.verifyPaymentLane (ex.gasUsed + systemGas) = .ok () := by
  obtain ⟨b, hlaned, hfits⟩ := h.fits
  rw [hlaned.verifyPaymentLane (h.limit_eq ▸ hlimit), h.limit_eq]
  omega

lemma Stands.bid_verifies (h : Stands gasLimit reserved ex) (hlimit : gasLimit ≤ u64Max)
    (hbid : ex.verifyPackedBid = .ok ()) :
    (∀ systemGas ≤ reserved, ex.verifyPaymentLane (ex.gasUsed + systemGas) = .ok ()) ↔
      ex.gasUsed + reserved ≤ gasLimit := by
  obtain ⟨b, hlaned⟩ := h.laned
  rw [hlaned.verifyPackedBid, h.sharedGas_eq] at hbid
  simp only [hlaned.verifyPaymentLane (h.limit_eq ▸ hlimit), h.limit_eq]
  constructor
  · intro hall
    have := hall reserved le_rfl
    omega
  · intro hle systemGas hsystem
    omega

variable {laneType : LaneType} {codeIsEmpty : Address → Except LaneError Bool}
  {transaction : Transaction} {signer : Address}

/-- After a refused transaction the block could break the rule. The gas that shows it exceeds the
limit of the block by at most one, so no count overflows on the way. -/
lemma Stands.refusal_needed (h : Stands gasLimit reserved ex) (hlimit : gasLimit ≤ u64Max)
    {declared : ℕ} (hrefused : ex.laneAdmits declared laneType ex.producerSharedGas = false) :
    ∃ used ≤ declared, ∃ systemGas ≤ reserved, ex.gasUsed + used + systemGas ≤ gasLimit + 1 ∧
      ∃ error, (ex.commitTransaction false laneType used).verifyPaymentLane
        (ex.gasUsed + used + systemGas) = .error error := by
  obtain ⟨b, hlaned⟩ := h.laned
  have hle := h.used_le
  rw [hlaned.laneAdmits, h.sharedGas_eq] at hrefused
  have hfails : ∀ used systemGas,
      gasLimit < ex.gasUsed + used + systemGas + (b.recordUsed laneType used).idleLane →
      ∃ error, (ex.commitTransaction false laneType used).verifyPaymentLane
        (ex.gasUsed + used + systemGas) = .error error := by
    intro used systemGas hover
    refine error_of_ne_ok fun hok => ?_
    rw [(hlaned.commitTransaction laneType used).verifyPaymentLane (by simp [h.limit_eq, hlimit]),
      commitTransaction_gasLimit, h.limit_eq] at hok
    omega
  obtain ⟨used, hused, hbound, hover⟩ := b.exists_use_of_not_admits hrefused
  -- Where the reserve is already eaten into, the block overflows without the transaction.
  rcases le_or_gt (ex.gasUsed + reserved) gasLimit with hroom | hroom
  · exact ⟨used, hused, reserved, le_rfl, by omega, hfails _ _ (by omega)⟩
  · exact ⟨0, Nat.zero_le _, gasLimit + 1 - ex.gasUsed, by omega, by omega, hfails _ _ (by omega)⟩

section Executed

variable
  (h : ex.executeTransactionWithoutCommit codeIsEmpty transaction signer = .ok (false, laneType))
include h

lemma executeTransactionWithoutCommit_eq_ok :
    transaction.gasLimit ≤ ex.gasLimit - ex.gasUsed ∧ (ex.mode = .mining → ex.lane.on →
        ex.laneAdmits transaction.gasLimit laneType ex.producerSharedGas) := by
  unfold executeTransactionWithoutCommit at h
  cases hclass : ex.lane.classify codeIsEmpty
      (isSystemTransaction transaction signer ex.beneficiary) transaction with
  | error e => simp [hclass] at h
  | ok lane =>
    simp only [hclass] at h
    split_ifs at h with hsystem hgas hrefused
    · simp at h
    · obtain rfl : lane = laneType := by simpa using h
      refine ⟨not_lt.mp hgas, fun hmode hon => ?_⟩
      simpa [hmode, hon] using hrefused

variable {used : ℕ} (hused : used ≤ transaction.gasLimit)
include hused

lemma mines_of_executeTransactionWithoutCommit (hmode : ex.mode = .mining) (hlaned : ex.Laned b) :
    Mines ⟨laneType, transaction.gasLimit, used⟩ ex (ex.commitTransaction false laneType used) := by
  have hon : ex.lane.on := by
    obtain ⟨laneMeta, hlane⟩ := hlaned
    simp [hlane, on]
  exact ⟨(executeTransactionWithoutCommit_eq_ok h).2 hmode hon, hused, rfl⟩

lemma packs_of_executeTransactionWithoutCommit :
    Packs ⟨laneType, transaction.gasLimit, used⟩ ex (ex.commitTransaction false laneType used) :=
  ⟨(executeTransactionWithoutCommit_eq_ok h).1, hused, rfl⟩

end Executed

variable (codeIsEmpty) in
/-- A transaction of a signer that the executor lets through and that uses so much gas. -/
def Executes (step : Transaction × Address × ℕ) (ex ex' : LaneExecutor) : Prop :=
  ∃ laneType,
    ex.executeTransactionWithoutCommit codeIsEmpty step.1 step.2.1 = .ok (false, laneType) ∧
      step.2.2 ≤ step.1.gasLimit ∧ ex' = ex.commitTransaction false laneType step.2.2

variable {k : ℕ} {beneficiary : Address} {listed : Finset Address}

section

variable (hquota : quota k gasLimit + reserved ≤ gasLimit)
include hquota

lemma Keeps.start (mode : BscExecutionMode) :
    Keeps gasLimit reserved (.start mode beneficiary ⟨k, listed⟩ gasLimit reserved) := by
  refine ⟨rfl, rfl, _, ⟨_, rfl⟩, ?_⟩
  simp only [LaneExecutor.start, Budget.idleLane]
  omega

lemma Keeps.of_trace
    (hrun : Trace Mines txs (.start .mining beneficiary ⟨k, listed⟩ gasLimit reserved) ex) :
    Keeps gasLimit reserved ex :=
  hrun.keeps (fun _ _ _ hstep hinv => Keeps.mines hinv hstep) (.start hquota .mining)

lemma Stands.of_trace
    (hrun : Trace Packs txs (.start .bidSimulation beneficiary ⟨k, listed⟩ gasLimit reserved) ex) :
    Stands gasLimit reserved ex :=
  hrun.keeps (fun _ _ _ hstep hinv => Stands.packs hinv hstep)
    (Keeps.start hquota .bidSimulation).stands

/-- The blocks of the executor itself: a mined one obeys the lane, and a bid that passed its check
does exactly if it left the reserve untouched. -/
theorem executed_block_obeys (hlimit : gasLimit ≤ u64Max)
    {steps : List (Transaction × Address × ℕ)} :
    (Trace (Executes codeIsEmpty) steps
        (.start .mining beneficiary ⟨k, listed⟩ gasLimit reserved) ex →
      ∀ systemGas ≤ reserved, ex.verifyPaymentLane (ex.gasUsed + systemGas) = .ok ()) ∧
    (Trace (Executes codeIsEmpty) steps
        (.start .bidSimulation beneficiary ⟨k, listed⟩ gasLimit reserved) ex →
      ex.verifyPackedBid = .ok () →
      ((∀ systemGas ≤ reserved, ex.verifyPaymentLane (ex.gasUsed + systemGas) = .ok ()) ↔
        ex.gasUsed + reserved ≤ gasLimit)) := by
  refine ⟨fun hrun systemGas hsystem => ?_, fun hrun hbid => ?_⟩
  · have hkeeps : Keeps gasLimit reserved ex ∧ ex.mode = .mining := by
      refine hrun.keeps (I := fun ex => Keeps gasLimit reserved ex ∧ ex.mode = .mining) ?_
        ⟨.start hquota .mining, rfl⟩
      rintro step ex ex' ⟨laneType, hexec, hused, rfl⟩ ⟨hkeeps, hmode⟩
      obtain ⟨b, hlaned, -⟩ := hkeeps.fits
      exact ⟨hkeeps.mines (mines_of_executeTransactionWithoutCommit hexec hused hmode hlaned),
        hmode⟩
    exact hkeeps.1.verifies hlimit hsystem
  · have hstands : Stands gasLimit reserved ex := by
      refine hrun.keeps ?_ (Keeps.start hquota .bidSimulation).stands
      rintro step ex ex' ⟨laneType, hexec, hused, rfl⟩ hstands
      exact hstands.packs (packs_of_executeTransactionWithoutCommit hexec hused)
    exact hstands.bid_verifies hlimit hbid

end

end LaneExecutor

/-- The rule of a producer is sound and tight. Whatever it admits, the finished block obeys the
lane as long as the system transactions keep to their reserve. A bid that passed its check obeys
the lane in the same sense exactly if it left that reserve untouched. And whatever the producer
refuses could have broken the rule. -/
theorem producer_rule_sound_tight (ratio k gasLimit reserved : ℕ) (beneficiary : Address)
    (listed : Finset Address) (hratio : checkRatio ratio = .ok k) (hlimit : gasLimit ≤ u64Max)
    (hquota : quota k gasLimit + reserved ≤ gasLimit) :
    quota k gasLimit ≤ u64Max ∧
    (∀ txs ex, Trace LaneExecutor.Mines txs
        (.start .mining beneficiary ⟨k, listed⟩ gasLimit reserved) ex →
      ∀ systemGas ≤ reserved, ex.verifyPaymentLane (ex.gasUsed + systemGas) = .ok ()) ∧
    (∀ txs ex, Trace LaneExecutor.Packs txs
        (.start .bidSimulation beneficiary ⟨k, listed⟩ gasLimit reserved) ex →
      ex.verifyPackedBid = .ok () →
      ((∀ systemGas ≤ reserved, ex.verifyPaymentLane (ex.gasUsed + systemGas) = .ok ()) ↔
        ex.gasUsed + reserved ≤ gasLimit)) ∧
    (∀ txs ex, Trace LaneExecutor.Mines txs
        (.start .mining beneficiary ⟨k, listed⟩ gasLimit reserved) ex ∨
        Trace LaneExecutor.Packs txs
          (.start .bidSimulation beneficiary ⟨k, listed⟩ gasLimit reserved) ex →
      ∀ laneType declared, ex.laneAdmits declared laneType ex.producerSharedGas = false →
      ∃ used ≤ declared, ∃ systemGas ≤ reserved, ex.gasUsed + used + systemGas ≤ gasLimit + 1 ∧
        ∃ error, (ex.commitTransaction false laneType used).verifyPaymentLane
          (ex.gasUsed + used + systemGas) = .error error) := by
  refine ⟨?_, fun txs ex hrun systemGas hsystem => ?_, fun txs ex hrun hbid => ?_,
    fun txs ex hrun laneType declared hrefused => ?_⟩
  · have := quota_le hratio gasLimit
    omega
  · exact (LaneExecutor.Keeps.of_trace hquota hrun).verifies hlimit hsystem
  · exact (LaneExecutor.Stands.of_trace hquota hrun).bid_verifies hlimit hbid
  · have hstands : LaneExecutor.Stands gasLimit reserved ex :=
      hrun.elim (fun h => (LaneExecutor.Keeps.of_trace hquota h).stands) (.of_trace hquota)
    exact hstands.refusal_needed hlimit hrefused

/-- A mined block with transactions of both lanes, filled to the last unit of gas. -/
def mixedBlock : LaneExecutor :=
  { LaneExecutor.start .mining 0 ⟨1000, ∅⟩ 100 20 with
    gasUsed := 76
    lane := some ⟨⟨1000, ∅⟩, ⟨10, 6⟩, 100⟩ }

def mixedTxs : List LaneTx :=
  [⟨.generalLane, 50, 40⟩, ⟨.paymentLane, 15, 6⟩, ⟨.generalLane, 30, 30⟩]

lemma mixedBlock_run :
    Trace LaneExecutor.Mines mixedTxs (.start .mining 0 ⟨1000, ∅⟩ 100 20) mixedBlock :=
  .cons ⟨rfl, by decide, rfl⟩ <| .cons ⟨rfl, by decide, rfl⟩ <| .cons ⟨rfl, by decide, rfl⟩ (.nil _)

theorem producer_rule_sound_tight_mixed :
    mixedBlock.verifyPaymentLane (mixedBlock.gasUsed + 20) = .ok () ∧
    mixedBlock.laneAdmits 1 .generalLane mixedBlock.producerSharedGas = false ∧
    ∃ used ≤ 1, ∃ systemGas ≤ 20, mixedBlock.gasUsed + used + systemGas ≤ 100 + 1 ∧
      ∃ error, (mixedBlock.commitTransaction false .generalLane used).verifyPaymentLane
        (mixedBlock.gasUsed + used + systemGas) = .error error := by
  have h := producer_rule_sound_tight 1000 1000 100 20 0 ∅ rfl (by decide) (by decide)
  exact ⟨h.2.1 _ _ mixedBlock_run 20 le_rfl, rfl,
    h.2.2.2 _ _ (.inl mixedBlock_run) .generalLane 1 rfl⟩

/-- One payment transaction that eats into the reserve leaves no idle reservation, so the check of
the bid passes; ten units of system gas then break the rule. -/
theorem packed_bid_eats_reserve : ∃ ex : LaneExecutor,
      Trace LaneExecutor.Packs [⟨.paymentLane, 95, 95⟩]
        (.start .bidSimulation 0 ⟨1000, ∅⟩ 100 20) ex ∧
      checkRatio 1000 = .ok 1000 ∧ quota 1000 100 + 20 ≤ 100 ∧
      ex.verifyPackedBid = .ok () ∧ 10 ≤ ex.reserved ∧
      ex.verifyPaymentLane (ex.gasUsed + 10) = .error (.violated 100 105 10 95) :=
  ⟨_, Trace.single ⟨by decide, by decide, rfl⟩, rfl, by decide, rfl, by decide, rfl⟩

end RethBsc
