import RethBsc.BidSidecars

/-!
The gas of a block that is packed from a bid.

Transactions of the bid are not compared with what is left of the block, only the gas that the bid
declares is. If its transactions declare no more than there is, the bid leaves room for the one that
pays and for the system transactions, the pool fills what is left, and no subtraction goes below
zero.
-/

namespace RethBsc

namespace BidEnv

variable {World : Type} {env : BidEnv World} {slot : BidSlot World} {header : Header}
  {pass : Pass} {index : ℕ} {recovered : Recovered} {s s' : PackState World}

/-! ### Subtractions -/

lemma u64Sub_of_le {checks : Bool} {a b : ℕ} (h : b ≤ a) : u64Sub checks a b = .ok (a - b) := by
  unfold u64Sub
  rw [decide_eq_false (not_lt.mpr h), Bool.and_false, wrappingSub_of_le h]
  rfl

lemma screen_ne_overflow (h : pass.fromPool → s.runtime.gasUsed ≤ pass.blockGasLimit) :
    env.screen slot header pass index recovered s ≠ .error .overflow := by
  intro herror
  unfold screen at herror
  by_cases hpool : pass.fromPool = true
  · rw [if_pos hpool, u64Sub_of_le (h hpool)] at herror
    obtain ⟨-, herror⟩ := ite_eq_of_ne herror (by simp)
    rcases bind_eq_error herror with herror | ⟨left, -, herror⟩
    · cases herror
    iterate 3 obtain ⟨-, herror⟩ := ite_eq_of_ne herror (by simp)
    rcases bind_eq_error herror with herror | ⟨nonce, -, herror⟩
    · cases hnonce : env.nonce s.builder.world recovered.signer <;>
        rw [hnonce] at herror <;> cases herror
    iterate 4 obtain ⟨-, herror⟩ := ite_eq_of_ne herror (by simp)
    rcases bind_eq_error herror with herror | ⟨admitted, -, herror⟩
    · cases hlane : s.builder.executor.laneAdmitsPoolTx (env.codeIsEmpty s.builder.world)
        recovered.tx.transaction recovered.signer
        (pass.blockGasLimit - s.runtime.gasUsed) <;> rw [hlane] at herror <;> cases herror
    · cases herror
  · rw [if_neg hpool] at herror
    obtain ⟨-, herror⟩ := ite_eq_of_ne herror (by simp)
    obtain ⟨-, herror⟩ := ite_eq_of_ne herror (by simp)
    cases herror

lemma account_ne_overflow {tx : Transaction} {baseFee gasUsed : ℕ} :
    s.account tx baseFee gasUsed ≠ .error .overflow := by
  unfold PackState.account
  split <;> simp

lemma pack_ne_overflow : env.pack slot header pass index recovered s ≠ .error .overflow := by
  unfold pack settle
  intro h
  simp only at h
  repeat' split at h
  all_goals first
    | exact account_ne_overflow h
    | cases h

/-- No subtraction of a pass goes below zero if the gas so far always fits. -/
lemma commitTransactionRecovered_ne_overflow {P : PackState World → Prop} {txs : List Recovered}
    (hfits : ∀ s, P s → pass.fromPool → s.runtime.gasUsed ≤ pass.blockGasLimit)
    (hstep : ∀ header index, ∀ recovered ∈ txs, ∀ s s',
      env.Step slot header pass index recovered s s' → P s → P s')
    (hP : P { s with skippedSenders := [] }) :
    env.commitTransactionRecovered slot pass txs s ≠ .error .overflow := by
  unfold commitTransactionRecovered
  cases slot.header with
  | none => simp
  | some header =>
    intro h
    have hspec := commitFrom_spec (P := fun _ => P) []
      (fun done => hstep header done.length) hP
    simp only [List.length_nil, h] at hspec
    obtain ⟨done, recovered, t, ht, hscreen | hpack⟩ := hspec
    · exact screen_ne_overflow (hfits t ht) hscreen
    · exact pack_ne_overflow hpack

lemma tryIntoRecovered_ne_overflow {txs : List TransactionSigned} :
    env.tryIntoRecovered txs ≠ .error .overflow := by
  induction txs with
  | nil => simp [tryIntoRecovered]
  | cons tx txs ih =>
    rw [tryIntoRecovered]
    cases env.recoverSigner tx with
    | none => simp
    | some signer =>
      cases hrest : env.tryIntoRecovered txs with
      | error e =>
        intro h
        exact ih (hrest.trans h)
      | ok rest => simp [Except.map]

lemma commitTransaction_ne_overflow {txs : List TransactionSigned} (hpass : pass.fromPool = false) :
    env.commitTransaction slot pass txs s ≠ .error .overflow := by
  intro h
  rcases bind_eq_error h with h | ⟨recovereds, -, h⟩
  · exact tryIntoRecovered_ne_overflow h
  · refine commitTransactionRecovered_ne_overflow (P := fun _ => True) ?_ ?_ trivial h
    · intro _ _ hpool
      rw [hpass] at hpool
      cases hpool
    · intros
      trivial

/-! ### The gas so far -/

/-- The gas that was written down is the gas that was used, and both are within a bound. -/
structure Tallied (bid : Bid) (bound : ℕ) (s : PackState World) : Prop where
  bid : s.runtime.bid = bid
  gas : s.runtime.gasUsed = s.builder.executor.gasUsed
  le : s.builder.executor.gasUsed ≤ bound

variable {bid : Bid} {bound : ℕ}

lemma Tallied.of_eq (h : Tallied bid bound s) (hbid : s'.runtime.bid = s.runtime.bid)
    (hgas : s'.runtime.gasUsed = s.runtime.gasUsed) (hbuilder : s'.builder = s.builder) :
    Tallied bid bound s' :=
  ⟨hbid.trans h.bid, by rw [hgas, hbuilder]; exact h.gas, by rw [hbuilder]; exact h.le⟩

lemma Tallied.rewarded (h : Tallied bid bound s) : Tallied bid bound (rewarded slot s) :=
  h.of_eq rfl rfl rfl

lemma Tallied.idle (h : env.Idle slot header pass recovered s s') (hs : Tallied bid bound s) :
    Tallied bid bound s' := by
  have hruntime : s'.runtime.bid = s.runtime.bid ∧ s'.runtime.gasUsed = s.runtime.gasUsed := by
    rcases h.runtime with hruntime | ⟨hruntime, -⟩ <;> rw [hruntime] <;> exact ⟨rfl, rfl⟩
  exact hs.of_eq hruntime.1 hruntime.2 h.builder

lemma Tallied.executed {gasUsed bound' : ℕ}
    (h : env.Executed slot header pass index recovered s s' gasUsed)
    (hinsert : pass.fromPool → ∀ sidecar,
      bid.blobSidecars (env.txHash recovered.tx) = some sidecar →
        env.insertBlob (env.txHash recovered.tx) sidecar)
    (hbound : s.builder.executor.gasUsed + gasUsed ≤ bound') (hs : Tallied bid bound s) :
    Tallied bid bound' s' := by
  have hgas := (executeTransaction_eq_ok h.executes).2.1
  refine ⟨h.bid.trans hs.bid, ?_, by rw [hgas]; exact hbound⟩
  rcases h.settled with hwritten | ⟨hpool, sidecar, hsidecar, hrefused⟩
  · rw [hwritten, hgas, hs.gas]
  · rw [hs.bid] at hsidecar
    rw [hinsert hpool sidecar hsidecar] at hrefused
    cases hrefused

lemma gasUsed_le_gasLimit {gasUsed : ℕ}
    (h : env.Executed slot header pass index recovered s s' gasUsed) :
    gasUsed ≤ recovered.tx.transaction.gasLimit := by
  rcases (executeTransaction_eq_ok h.executes).2.2 with rfl | ⟨out, hout, rfl⟩
  · exact Nat.zero_le _
  · exact env.transact_le _ _ _ hout

lemma Tallied.pool (h : env.Step slot header pass index recovered s s')
    (hpool : pass.fromPool) (hlimit : pass.blockGasLimit = bound)
    (hinsert : ∀ sidecar, bid.blobSidecars (env.txHash recovered.tx) = some sidecar →
      env.insertBlob (env.txHash recovered.tx) sidecar)
    (hs : Tallied bid bound s) : Tallied bid bound s' := by
  rcases h with hidle | ⟨gasUsed, hexec⟩
  · exact hs.idle hidle
  · have hle := gasUsed_le_gasLimit hexec
    have hshared := hexec.shared hpool
    have hgas := hs.gas
    have hbound := hs.le
    exact hs.executed hexec (fun _ => hinsert) (by omega)

def gasLimits (txs : List TransactionSigned) : ℕ := (txs.map fun tx => tx.transaction.gasLimit).sum

/-- A pass over transactions of the bid uses at most the gas they declare. -/
lemma tallied_commitTransaction {txs : List TransactionSigned} (hpass : pass.fromPool = false)
    (h : env.commitTransaction slot pass txs s = .ok s') (hs : Tallied bid bound s) :
    Tallied bid (bound + gasLimits txs) s' := by
  obtain ⟨done, hdone, hall⟩ := commitTransaction_keeps
    (P := fun done => Tallied bid (bound + gasLimits (done.map Recovered.tx)))
    (fun _ _ done recovered _ s s' hstep hs => by
      rcases hstep with hidle | ⟨gasUsed, hexec⟩
      · rw [hidle.pool] at hpass
        cases hpass
      · refine hs.executed hexec (by simp [hpass]) ?_
        have hbound := hs.le
        have hle := gasUsed_le_gasLimit hexec
        simp only [gasLimits, List.map_append, List.sum_append, List.map_cons, List.map_nil,
          List.sum_cons, List.sum_nil] at hbound ⊢
        omega)
    h (hs.of_eq rfl rfl rfl)
  rwa [hall hpass] at hdone

/-! ### Bids that fit -/

/-- The transactions of a bid declare no more gas than there is for them, in a block with room for
the system: the one that pays no more than is set aside for it. The pool takes the sidecars of the
bid. -/
structure HonestGas (env : BidEnv World) (slot : BidSlot World) (bid : Bid) : Prop where
  room : slot.systemTxsGas + payBidTxGasLimit ≤ slot.gasLimit
  declared : gasLimits bid.txs.dropLast ≤ blockGasLimit slot
  payBid : ∀ tx, bid.txs.getLast? = some tx → tx.transaction.gasLimit ≤ payBidTxGasLimit
  inserts : slot.greedyMerge = true → ∀ blobFee,
    ∀ recovered ∈ env.bestTransactions slot.baseFee blobFee, ∀ sidecar,
      bid.blobSidecars (env.txHash recovered.tx) = some sidecar →
        env.insertBlob (env.txHash recovered.tx) sidecar = true

section Honest

variable {runtime : BidRuntime} (hhonest : env.HonestGas slot bid)
  (hs : Tallied bid (blockGasLimit slot) s)

include hhonest in
lemma tallied_commitBidTxs (hbid : runtime.bid = bid) (hnew : runtime.gasUsed = 0)
    (h : env.commitBidTxs slot runtime = .ok s) : Tallied bid (blockGasLimit slot) s := by
  obtain ⟨-, world, lane, h⟩ := commitBidTxs_eq_ok h
  have hstart : Tallied bid 0 (startState slot runtime world lane) := ⟨hbid, hnew, le_rfl⟩
  rw [hbid] at h
  have hs := tallied_commitTransaction rfl h hstart
  exact ⟨hs.bid, hs.gas, hs.le.trans (by rw [Nat.zero_add]; exact hhonest.declared)⟩

include hhonest hs

lemma tallied_mergePool (h : env.mergePool slot s = .ok s') :
    Tallied bid (blockGasLimit slot) s' := by
  rcases mergePool_eq_ok h with rfl | ⟨hgreedy, blobFee, pendingTxs, t, hmem, hpool, rfl⟩
  · exact hs
  · obtain ⟨-, ht, -⟩ := commitTransactionRecovered_keeps
      (P := fun _ => Tallied bid (blockGasLimit slot))
      (fun header _ _ recovered hpending s s' hstep => by
        exact Tallied.pool hstep rfl rfl
          (hhonest.inserts hgreedy blobFee recovered (hmem recovered hpending)))
      hpool (hs.of_eq rfl rfl rfl)
    exact ht.of_eq rfl rfl rfl

lemma tallied_commitPayBid (h : env.commitPayBid slot s = .ok s') :
    Tallied bid (blockGasLimit slot + payBidTxGasLimit) s' := by
  obtain ⟨payBidTx, hlast, hpay⟩ := commitPayBid_eq_ok h
  rw [hs.bid] at hlast
  have hs' := tallied_commitTransaction rfl hpay hs
  have hle := hhonest.payBid payBidTx hlast
  refine ⟨hs'.bid, hs'.gas, hs'.le.trans (Nat.add_le_add_left ?_ _)⟩
  simpa [gasLimits] using hle

lemma mergePool_ne_overflow : env.mergePool slot s ≠ .error .overflow := by
  intro h
  unfold mergePool at h
  split at h
  · cases h
  next hgreedy =>
    split at h
    · cases h
    split at h
    · cases h
    rcases bind_eq_error h with h | ⟨t, -, h⟩
    · unfold fillTxFromPool at h
      simp only at h
      split at h
      · cases h
      · refine commitTransactionRecovered_ne_overflow
          (P := Tallied bid (blockGasLimit slot)) ?_ ?_ (hs.of_eq rfl rfl rfl) h
        · intro s hs _
          rw [hs.gas]
          exact hs.le
        · intro header index recovered hpending s s' hstep
          exact Tallied.pool hstep rfl rfl (hhonest.inserts (by simpa using hgreedy) _ recovered
            (List.mem_filter.mp hpending).1)
    · cases h

end Honest

variable {runtime : BidRuntime}

lemma commitBidTxs_ne_overflow (hroom : slot.systemTxsGas + payBidTxGasLimit ≤ slot.gasLimit) :
    env.commitBidTxs slot runtime ≠ .error .overflow := by
  have hsystem : slot.systemTxsGas ≤ slot.gasLimit := by omega
  have hpay : payBidTxGasLimit ≤ slot.gasLimit - slot.systemTxsGas := by omega
  intro h
  unfold commitBidTxs at h
  split at h
  · cases h
  split at h
  · cases h
  rw [u64Sub_of_le hsystem] at h
  rcases bind_eq_error h with h | ⟨left, hleft, h⟩
  · cases h
  rw [← Except.ok.inj hleft, u64Sub_of_le hpay] at h
  rcases bind_eq_error h with h | ⟨left', -, h⟩
  · cases h
  split at h
  · cases h
  split at h
  · cases h
  · exact commitTransaction_ne_overflow rfl h

lemma checkRewards_ne_overflow : checkRewards slot s ≠ .error .overflow := by
  unfold checkRewards
  intro h
  simp only at h
  repeat' split at h
  all_goals cases h

lemma commitPayBid_ne_overflow : env.commitPayBid slot s ≠ .error .overflow := by
  unfold commitPayBid
  split
  · simp
  · exact commitTransaction_ne_overflow rfl

lemma packBid_ne_overflow (hhonest : env.HonestGas slot bid) (hbid : runtime.bid = bid)
    (hnew : runtime.gasUsed = 0) : env.packBid slot runtime ≠ .error .overflow := by
  intro h
  rcases bind_eq_error h with h | ⟨s1, hfirst, h⟩
  · exact commitBidTxs_ne_overflow hhonest.room h
  rcases bind_eq_error h with h | ⟨s1', hrewards, h⟩
  · exact checkRewards_ne_overflow h
  rcases bind_eq_error h with h | ⟨s2, -, h⟩
  · rw [(checkRewards_eq_ok hrewards).1] at h
    exact mergePool_ne_overflow hhonest (tallied_commitBidTxs hhonest hbid hnew hfirst).rewarded h
  · exact commitPayBid_ne_overflow h

lemma buildPayload_ne_overflow : env.buildPayload s ≠ .error .overflow := by
  intro h
  rcases bind_eq_error h with h | ⟨⟨block, receipts⟩, -, h⟩
  · cases hfinish : env.finish s.builder <;> rw [hfinish] at h <;> cases h
  · simp only at h
    split at h <;> cases h

end BidEnv

/-! ### Bids that declare little -/

/-- A transaction of the bid that uses the given gas, and the one that pays. -/
def gasTxs (gasUsed : ℕ) : List TransactionSigned :=
  [packTx .eip1559 0 gasUsed, packTx .eip1559 1 21000]

/-- The simulation of a bid that declares 21000. -/
def gasRuntime (gasUsed : ℕ) : BidRuntime where
  bid := packBidOf (gasTxs gasUsed) 21000
  expectedBlockReward := 1
  expectedValidatorReward := 1
  packedBlockReward := 0
  packedValidatorReward := 0
  gasUsed := 0
  gasFee := 0
  systemBalance := 0
  blobSidecars := []
  blockBlobCount := 0
  income := 0
  packedIncome := 0

def gasEnv (overflowChecks : Bool) : BidEnv Unit :=
  { packEnv [packTx .eip1559 2 21000] with overflowChecks := overflowChecks }

end RethBsc
