import RethBsc.BidSimulator

/-!
The sidecars of a block that is packed from a bid.

The index written into a sidecar is that of the pass, and a sidecar is only there if the bid
brought it. For the blob transactions of the bid itself the two agree with the block; transactions
of the pool and the one that pays for the bid come in later passes.
-/

namespace RethBsc

open List BscBlobTransactionSidecar

namespace BidEnv

variable {World : Type} {env : BidEnv World} {slot : BidSlot World} {header : Header}
  {pass : Pass} {index : ℕ} {recovered : Recovered} {s s' : PackState World} {bid : Bid}

/-! ### The number of blobs -/

def blobsIn (env : BidEnv World) (txs : List TransactionSigned) : ℕ := (txs.map env.blobCount).sum

/-- The blobs of the block have been counted, and are not too many. -/
structure Counted (env : BidEnv World) (slot : BidSlot World) (header : Header)
    (s : PackState World) : Prop where
  counted : env.blobsIn (s.builder.transactions.map Recovered.tx) ≤ s.runtime.blockBlobCount
  within : s.runtime.blockBlobCount ≤ env.maxBlobCount slot header

lemma blobCount_of_not_isEip4844 {tx : TransactionSigned} (h : tx.isEip4844 = false) :
    env.blobCount tx = 0 := by
  simp [blobCount, h]

lemma count_within {count : ℕ} {tx : TransactionSigned}
    (hwithin : tx.isEip4844 → count + env.blobCount tx ≤ env.maxBlobCount slot header)
    (hcount : count ≤ env.maxBlobCount slot header) :
    count + env.blobCount tx ≤ env.maxBlobCount slot header := by
  cases htype : tx.isEip4844 with
  | true => exact hwithin htype
  | false =>
    rw [blobCount_of_not_isEip4844 htype]
    exact hcount

lemma Counted.step (h : env.Step slot header pass index recovered s s')
    (hs : env.Counted slot header s) : env.Counted slot header s' := by
  rcases h with hidle | ⟨gasUsed, hexec⟩
  · rcases hidle.runtime with hruntime | ⟨hruntime, hwithin⟩
    · exact ⟨by rw [hidle.builder, hruntime]; exact hs.counted, by rw [hruntime]; exact hs.within⟩
    · refine ⟨?_, ?_⟩
      · rw [hidle.builder, hruntime]
        exact hs.counted.trans (Nat.le_add_right _ _)
      · rw [hruntime]
        exact count_within hwithin hs.within
  · have htxs := (executeTransaction_eq_ok hexec.executes).1
    refine ⟨?_, ?_⟩
    · rw [htxs, hexec.counted, blobsIn, map_append, map_append, sum_append]
      have hcounted := hs.counted
      unfold blobsIn at hcounted
      simp only [map_cons, map_nil, sum_cons, sum_nil]
      omega
    · rw [hexec.counted]
      exact count_within (fun htype => hexec.counted ▸ hexec.within htype) hs.within

/-! ### One sidecar to each blob transaction -/

/-- Transactions with the index of each. -/
def indexed (txs : List TransactionSigned) : List (ℕ × TransactionSigned) :=
  txs.zipIdx.map Prod.swap

/-- The transactions of the block, each with its index in the pass that packed it. The sidecars so
far are those that came with them. -/
structure Placed (env : BidEnv World) (bid : Bid) (placed : List (ℕ × TransactionSigned))
    (s : PackState World) : Prop where
  same : s.runtime.bid = bid
  txs : s.builder.transactions.map Recovered.tx = placed.map Prod.snd
  sidecars : List.Forall₂ (Matches env.txHash)
    (placed.filter fun e => (env.carried bid e.2).isSome) s.runtime.blobSidecars

/-- Each blob transaction comes with its sidecar, and has the index in its pass that it has in the
block. -/
def WellPlaced (env : BidEnv World) (bid : Bid) (placed : List (ℕ × TransactionSigned)) : Prop :=
  ∀ e ∈ placed.zipIdx, e.1.2.isEip4844 = true → (env.carried bid e.1.2).isSome ∧ e.1.1 = e.2

variable {placed : List (ℕ × TransactionSigned)}

lemma indexed_append (done : List Recovered) (recovered : Recovered) :
    indexed ((done ++ [recovered]).map Recovered.tx) =
      indexed (done.map Recovered.tx) ++ [(done.length, recovered.tx)] := by
  simp [indexed, zipIdx_append]

lemma Placed.step (h : env.Step slot header pass index recovered s s')
    (hs : env.Placed bid placed s) : pass.fromPool = true ∧ env.Placed bid placed s' ∨
      env.Placed bid (placed ++ [(index, recovered.tx)]) s' := by
  rcases h with hidle | ⟨gasUsed, hexec⟩
  · have hruntime : s'.runtime.bid = s.runtime.bid ∧
        s'.runtime.blobSidecars = s.runtime.blobSidecars := by
      rcases hidle.runtime with hruntime | ⟨hruntime, -⟩ <;> rw [hruntime] <;> exact ⟨rfl, rfl⟩
    exact .inl ⟨hidle.pool, hruntime.1.trans hs.same, by rw [hidle.builder, hs.txs],
      by rw [hruntime.2]; exact hs.sidecars⟩
  · refine .inr ⟨hexec.bid.trans hs.same, ?_, ?_⟩
    · rw [(executeTransaction_eq_ok hexec.executes).1, map_append, map_append, hs.txs]
      rfl
    · rw [filter_append, hexec.sidecars, hs.same]
      refine rel_append hs.sidecars ?_
      cases hcarried : env.carried bid recovered.tx with
      | none => simp [hcarried]
      | some sidecar => simp [hcarried, Matches, bscSidecar]

/-- A pass over transactions of the bid. -/
lemma placed_commitTransaction {txs : List TransactionSigned} (hpass : pass.fromPool = false)
    (h : env.commitTransaction slot pass txs s = .ok s') (hs : env.Placed bid placed s) :
    env.Placed bid (placed ++ indexed txs) s' := by
  obtain ⟨done, hdone, hall⟩ := commitTransaction_keeps
    (P := fun done => env.Placed bid (placed ++ indexed (done.map Recovered.tx)))
    (fun _ _ done recovered _ s s' hstep hs => by
      rcases hs.step hstep with ⟨hpool, -⟩ | hs'
      · rw [hpass] at hpool
        cases hpool
      · rwa [indexed_append, ← append_assoc])
    h ⟨hs.same, by simpa [indexed] using hs.txs, by simpa [indexed] using hs.sidecars⟩
  rwa [hall hpass] at hdone

/-- Transactions of the pool, each with its index among those the pass looks at. -/
def Merged (env : BidEnv World) (slot : BidSlot World) (merged : List (ℕ × TransactionSigned)) :
    Prop :=
  merged = [] ∨ slot.greedyMerge = true ∧ ∃ blobFee, ∃ looked : List Recovered,
    looked ⊆ env.bestTransactions slot.baseFee blobFee ∧ merged <+ indexed (looked.map Recovered.tx)

lemma placed_mergePool (h : env.mergePool slot s = .ok s') (hs : env.Placed bid placed s) :
    ∃ merged, env.Merged slot merged ∧ env.Placed bid (placed ++ merged) s' := by
  rcases mergePool_eq_ok h with rfl | ⟨hgreedy, blobFee, pendingTxs, t, hmem, hpool, rfl⟩
  · exact ⟨[], .inl rfl, by rwa [append_nil]⟩
  · obtain ⟨looked, ⟨hlooked, merged, hmerged, ht⟩, -⟩ := commitTransactionRecovered_keeps
      (P := fun looked s => looked ⊆ env.bestTransactions slot.baseFee blobFee ∧
        ∃ merged, merged <+ indexed (looked.map Recovered.tx) ∧ env.Placed bid (placed ++ merged) s)
      (fun _ _ looked recovered hpending s s' hstep hs => by
        obtain ⟨hlooked, merged, hmerged, hs⟩ := hs
        refine ⟨append_subset.mpr ⟨hlooked, by simpa using hmem recovered hpending⟩, ?_⟩
        rw [indexed_append]
        rcases hs.step hstep with ⟨-, hs'⟩ | hs'
        · exact ⟨merged, hmerged.trans (sublist_append_left _ _), hs'⟩
        · exact ⟨_, hmerged.append_right _, by rwa [← append_assoc]⟩)
      hpool ⟨nil_subset _, [], .slnil, by
        rw [append_nil]
        exact ⟨hs.same, hs.txs, hs.sidecars⟩⟩
    exact ⟨merged, .inr ⟨hgreedy, blobFee, looked, hlooked, hmerged⟩, ht.same, ht.txs, ht.sidecars⟩

variable {sidecars : List BscBlobTransactionSidecar} {runtime : BidRuntime}

lemma map_txIndex_of_matches {txHash : TransactionSigned → B256}
    {txs : List (ℕ × TransactionSigned)}
    (h : List.Forall₂ (Matches txHash) txs sidecars) :
    sidecars.map txIndex = txs.map Prod.fst := by
  induction h with
  | nil => rfl
  | cons hmatch _ ih => rw [map_cons, map_cons, ih, hmatch.2]

lemma blobTxs_map_snd (placed : List (ℕ × TransactionSigned)) (k : ℕ) :
    blobTxs k (placed.map Prod.snd) = ((placed.zipIdx k).filter fun e => e.1.2.isEip4844).map
      fun e => (e.2, e.1.2) := by
  induction placed generalizing k with
  | nil => rfl
  | cons e placed ih =>
    rw [map_cons, blobTxs, zipIdx_cons, filter_cons, ih]
    simp only [TransactionSigned.isEip4844, decide_eq_true_eq]
    split <;> rfl

lemma matches_iff_wellPlaced (h : List.Forall₂ (Matches env.txHash)
      (placed.filter fun e => (env.carried bid e.2).isSome) sidecars) :
    List.Forall₂ (Matches env.txHash) (blobTxs 0 (placed.map Prod.snd)) sidecars ↔
      env.WellPlaced bid placed := by
  have hcarried : placed.filter (fun e => (env.carried bid e.2).isSome) =
      (placed.zipIdx.filter fun e => (env.carried bid e.1.2).isSome).map Prod.fst := by
    rw [← zipIdx_map_fst 0 placed, filter_map, zipIdx_map_fst]
    rfl
  rw [hcarried] at h
  rw [blobTxs_map_snd]
  constructor
  · intro hmatches
    -- as many blob transactions as carried ones: they are the same
    have hsub : placed.zipIdx.filter (fun e => (env.carried bid e.1.2).isSome) <+
        placed.zipIdx.filter fun e => e.1.2.isEip4844 := by
      refine monotone_filter_right _ fun e he => ?_
      by_contra hne
      simp [carried, hne] at he
    have hlen := h.length_eq.trans hmatches.length_eq.symm
    rw [length_map, length_map] at hlen
    have hsame := hsub.eq_of_length hlen
    have hindex := (map_txIndex_of_matches h).symm.trans (map_txIndex_of_matches hmatches)
    rw [hsame, map_map, map_map, map_inj_left] at hindex
    intro e he hblob
    have hmem : e ∈ placed.zipIdx.filter fun e => e.1.2.isEip4844 := mem_filter.mpr ⟨he, hblob⟩
    refine ⟨?_, hindex e hmem⟩
    rw [← hsame] at hmem
    exact (mem_filter.mp hmem).2
  · intro hplaced
    have hsame : (placed.zipIdx.filter fun e => e.1.2.isEip4844) =
        placed.zipIdx.filter fun e => (env.carried bid e.1.2).isSome := by
      refine filter_congr fun e he => Bool.eq_iff_iff.mpr ⟨fun hblob => (hplaced e he hblob).1, ?_⟩
      intro hsome
      by_contra hne
      simp [carried, hne] at hsome
    rw [← hsame] at h
    refine Eq.subst (motive := fun l => List.Forall₂ (Matches env.txHash) l sidecars)
      (map_congr_left fun e he => ?_) h
    obtain ⟨he, hblob⟩ := mem_filter.mp he
    exact Prod.ext (hplaced e he hblob).2 rfl

/-! ### Stored payloads -/

lemma counted_of_packBid (hheader : slot.header = some header)
    (hcount : runtime.blockBlobCount = 0) (h : env.packBid slot runtime = .ok s) :
    env.Counted slot header s := by
  refine packBid_keeps (fun s hs => ⟨hs.counted, hs.within⟩) (fun s hs => ⟨hs.counted, hs.within⟩)
    ?_ ?_ h
  · intro header' hheader' pass index recovered s s' hstep hs
    obtain rfl : header = header' := Option.some.inj (hheader.symm.trans hheader')
    exact Counted.step hstep hs
  · intro world lane
    exact ⟨Nat.zero_le _, le_of_eq_of_le hcount (Nat.zero_le _)⟩

lemma placed_of_packBid (hbid : runtime.bid = bid)
    (hsidecars : runtime.blobSidecars = []) (h : env.packBid slot runtime = .ok s) :
    ∃ merged payBidTx, env.Merged slot merged ∧ bid.txs.getLast? = some payBidTx ∧
      env.Placed bid (indexed bid.txs.dropLast ++ merged ++ [(0, payBidTx)]) s := by
  obtain ⟨s1, s2, hfirst, hmerge, hpay⟩ := packBid_eq_ok h
  obtain ⟨-, world, lane, hfirst⟩ := commitBidTxs_eq_ok hfirst
  have hstart : env.Placed bid [] (startState slot runtime world lane) :=
    ⟨hbid, rfl, by rw [startState, hsidecars]; exact .nil⟩
  rw [hbid] at hfirst
  have h1 := placed_commitTransaction rfl hfirst hstart
  obtain ⟨merged, hmerged, h2⟩ :=
    placed_mergePool hmerge (⟨h1.same, h1.txs, h1.sidecars⟩ : env.Placed bid _ (rewarded slot s1))
  obtain ⟨payBidTx, hlast, hpay⟩ := commitPayBid_eq_ok hpay
  rw [h2.same] at hlast
  exact ⟨merged, payBidTx, hmerged, hlast, placed_commitTransaction rfl hpay h2⟩

end BidEnv

/-! ### Bids with a blob -/

/-- Transactions told apart by their nonces, which use all the gas they declare. -/
def packTx (txType : TxType) (nonce gasLimit : ℕ) : TransactionSigned :=
  ⟨⟨txType, some 56, nonce, gasLimit, 1, some 1, some (Fin.ofNat _ 0x42), 0, [], []⟩, []⟩

/-- A chain with Cancun, and a pool. -/
def packEnv (pool : List TransactionSigned) : BidEnv Unit where
  spec := releaseSpec
  blobs := plainBlobs
  txHash tx := BitVec.ofNat 256 tx.transaction.nonce
  hashSlow := numberHash
  recoverSigner _ := some (Fin.ofNat _ 5)
  blobVersionedHashes _ := [1]
  nonce _ _ := .ok 0
  codeIsEmpty _ _ := .ok true
  transact _ recovered := .ok ⟨(), recovered.tx.transaction.gasLimit, true⟩
  transact_le := by
    intro _ _ _ h
    cases h
    exact le_rfl
  finalizeNewBlock _ gasUsed := .ok ⟨[], gasUsed, []⟩
  finalize_legacy := by
    intro _ _ _ h
    cases h
    simp
  assemble _ _ _ := .ok (sealingBid.header, none)
  calcBlobFee _ := 0
  bestTransactions _ _ := pool.map fun tx => ⟨tx, Fin.ofNat _ 6⟩
  insertBlob _ _ := true
  overflowChecks := false

def packSlot (gasLimit : ℕ) : BidSlot Unit where
  header := some sealingBid.header
  parent := sealingParent
  timestamp := 303
  beneficiary := Fin.ofNat _ 7
  gasLimit := gasLimit
  systemTxsGas := 1000000
  baseFee := 0
  minGasTip := 0
  minGasPrice := 0
  validatorCommission := 10000
  greedyMerge := true
  stateProvider := some ()
  start _ := some ((), LaneState.off)
  delayAtStart := 1
  delayAfterBid := 1
  delayAtMerge := 1
  elapsed _ := 0
  interrupted _ _ := false

/-- A bid that brings the sidecars of its transactions, which have nonces zero and one. -/
def packBidOf (txs : List TransactionSigned) (gasUsed : ℕ) : Bid where
  builder := Fin.ofNat _ 9
  blockNumber := 101
  txs := txs
  blobSidecars hash := if hash.toNat < 2 then some ⟨[[1]], [[2]], [[3]]⟩ else none
  unRevertible := []
  gasUsed := gasUsed
  gasFee := 1
  builderFee := 0

def packedBlock (pool txs : List TransactionSigned) : Except SimulateError BscBlock := do
  let runtime ← newBidRuntime (packBidOf txs 21000) 10000
  let out ← (packEnv pool).simulateBidInner (packSlot 30000000) runtime none
  .ok out.block

lemma exists_simulated {pool txs : List TransactionSigned} {β : Type} {f : BscBlock → β} {b : β}
    (h : (packedBlock pool txs).toOption.map f = some b) : ∃ runtime out,
      newBidRuntime (packBidOf txs 21000) 10000 = .ok runtime ∧
      (packEnv pool).simulateBidInner (packSlot 30000000) runtime none = .ok out ∧
      f out.block = b := by
  obtain ⟨block, hblock, hb⟩ := exists_ok_of_toOption_map h
  obtain ⟨runtime, hnew, hblock⟩ := bind_eq_ok hblock
  obtain ⟨out, hout, hblock⟩ := bind_eq_ok hblock
  cases hblock
  exact ⟨runtime, out, hnew, hout, hb⟩

end RethBsc
