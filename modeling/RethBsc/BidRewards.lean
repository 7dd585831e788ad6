import RethBsc.BidGas

/-!
The rewards of a bid.

What a builder declares is multiplied and subtracted modulo `2 ^ 256`. A declared fee that makes a
product wrap is more than can be collected, so that the check of the block reward refuses it;
below that nothing wraps.
-/

namespace RethBsc

namespace BidEnv

variable {World : Type} {env : BidEnv World} {slot : BidSlot World} {header : Header} {pass : Pass}
  {index : ℕ} {recovered : Recovered} {s s' : PackState World} {bid : Bid} {r r' : BidRuntime}

/-- Up to wrapping, the runtime keeps the true numbers of the bid. -/
structure Keeps (slot : BidSlot World) (bid : Bid) (r : BidRuntime) : Prop where
  same : r.bid = bid
  expected : r.expectedBlockReward = bid.gasFee
  fee : bid.builderFee ≤ commissionOf slot.validatorCommission bid.gasFee
  booked : r.Booked

/-- The rewards were written down when `m` or more had been earned. -/
structure Packed (slot : BidSlot World) (bid : Bid) (m : ℕ) (r : BidRuntime) : Prop extends
    Keeps slot bid r where
  earned : m ≤ r.packedIncome
  le : r.packedIncome ≤ r.income
  block : r.packedBlockReward = BitVec.ofNat 256 r.packedIncome
  validator : r.packedValidatorReward =
    commissionOf slot.validatorCommission (BitVec.ofNat 256 r.packedIncome) - bid.builderFee

lemma keeps_new (h : newBidRuntime bid slot.validatorCommission = .ok r) : Keeps slot bid r := by
  unfold newBidRuntime at h
  dsimp only at h
  split at h
  · cases h
  · next hfee =>
    cases h
    exact ⟨rfl, rfl, BitVec.not_lt.mp hfee, rfl⟩

lemma Step.earned (h : env.Step slot header pass index recovered s s') :
    s'.runtime.bid = s.runtime.bid ∧ Earned s.runtime s'.runtime := by
  rcases h with hidle | ⟨gasUsed, hexec⟩
  · rcases hidle.runtime with hr | ⟨hr, -⟩ <;> rw [hr] <;>
      exact ⟨rfl, id, le_rfl, rfl, rfl, rfl, rfl⟩
  · exact ⟨hexec.bid, hexec.earned⟩

lemma Keeps.step (h : Keeps slot bid s.runtime)
    (hstep : env.Step slot header pass index recovered s s') : Keeps slot bid s'.runtime := by
  obtain ⟨hbid, hbooked, -, hexpected, -⟩ := hstep.earned
  exact ⟨hbid.trans h.same, hexpected.trans h.expected, h.fee, hbooked h.booked⟩

lemma Packed.step {m : ℕ} (h : Packed slot bid m s.runtime)
    (hstep : env.Step slot header pass index recovered s s') : Packed slot bid m s'.runtime := by
  obtain ⟨-, -, hle, -, hblock, hvalidator, hpacked⟩ := hstep.earned
  refine ⟨h.toKeeps.step hstep, hpacked ▸ h.earned, hpacked ▸ h.le.trans hle, ?_, ?_⟩
  · rw [hblock, h.block, hpacked]
  · rw [hvalidator, h.validator, hpacked]

lemma Keeps.packReward (h : Keeps slot bid r) :
    Packed slot bid r.income (r.packReward slot.validatorCommission) := by
  refine ⟨⟨h.same, h.expected, h.fee, h.booked⟩, le_rfl, le_rfl, h.booked, ?_⟩
  have hbooked : r.systemBalance = BitVec.ofNat 256 r.income := h.booked
  simp only [BidRuntime.packReward, hbooked, h.same]

/-- The share of the validator, without bound. -/
def trueShare (slot : BidSlot World) (reward : ℕ) : ℕ := reward * slot.validatorCommission / 10000

/-- The rewards are the true ones of the income they were written down for, which is what the bid
declares or more. -/
def Exact (slot : BidSlot World) (bid : Bid) (r : BidRuntime) : Prop :=
  r.packedBlockReward.toNat = r.packedIncome ∧ bid.gasFee.toNat ≤ r.packedIncome ∧
    bid.builderFee.toNat ≤ trueShare slot bid.gasFee.toNat ∧
    trueShare slot bid.gasFee.toNat ≤ trueShare slot r.packedIncome ∧
    r.packedValidatorReward.toNat = trueShare slot r.packedIncome - bid.builderFee.toNat

lemma toNat_commissionOf (hc : slot.validatorCommission ≤ 10000) {reward : U256}
    (h : reward.toNat < 2 ^ 192) :
    (commissionOf slot.validatorCommission reward).toNat = trueShare slot reward.toNat := by
  have hmul : reward.toNat * slot.validatorCommission < 2 ^ 256 :=
    lt_of_le_of_lt (Nat.mul_le_mul h.le hc) (by norm_num)
  rw [commissionOf, BitVec.toNat_udiv, BitVec.toNat_mul, BitVec.toNat_ofNat,
    Nat.mod_eq_of_lt (by omega : slot.validatorCommission < 2 ^ 256), Nat.mod_eq_of_lt hmul]
  rfl

variable {m : ℕ} (h : Packed slot bid m r) (hn : r.income < 2 ^ 192)
include h hn

lemma Packed.exact (hc : slot.validatorCommission ≤ 10000)
    (hdeclared : bid.gasFee.toNat ≤ r.packedIncome) : Exact slot bid r := by
  obtain ⟨⟨-, -, hfee, -⟩, -, hle, hblock, hvalidator⟩ := h
  have hm : (BitVec.ofNat 256 r.packedIncome).toNat = r.packedIncome := Nat.mod_eq_of_lt (by omega)
  have hcommission := toNat_commissionOf hc (lt_of_eq_of_lt hm (lt_of_le_of_lt hle hn))
  rw [hm] at hcommission
  rw [BitVec.le_def, toNat_commissionOf hc (by omega)] at hfee
  have hshare : trueShare slot bid.gasFee.toNat ≤ trueShare slot r.packedIncome :=
    Nat.div_le_div_right (Nat.mul_le_mul_right _ hdeclared)
  refine ⟨hblock ▸ hm, hdeclared, hfee, hshare, ?_⟩
  rw [hvalidator, BitVec.toNat_sub_of_le, hcommission]
  rw [BitVec.le_def, hcommission]
  exact hfee.trans hshare

lemma Packed.declared (hvalid : r.validReward) : bid.gasFee.toNat ≤ r.packedIncome := by
  have hle := h.le
  rw [BidRuntime.validReward, h.expected, h.block, Bool.and_eq_true, decide_eq_true_eq,
    BitVec.le_def, BitVec.toNat_ofNat, Nat.mod_eq_of_lt (by omega)] at hvalid
  exact hvalid.1

omit h hn

lemma keeps_of_commitBidTxs (hnew : newBidRuntime bid slot.validatorCommission = .ok r)
    (hbid : env.commitBidTxs slot r = .ok s) : Keeps slot bid s.runtime := by
  obtain ⟨-, world, lane, hbid⟩ := commitBidTxs_eq_ok hbid
  obtain ⟨-, hs, -⟩ := commitTransaction_keeps (P := fun _ s => Keeps slot bid s.runtime)
    (fun _ _ _ _ _ _ _ hstep h => h.step hstep) hbid (keeps_new hnew)
  exact hs

/-- **Rewards are not fooled by wrapping**, neither where the bid transactions pass `valid_reward`
nor in what is stored with the bid, if the fees come to less than `2 ^ 192`. -/
theorem rewards_exact (env : BidEnv World) (slot : BidSlot World) (bid : Bid) (runtime : BidRuntime)
    (hc : slot.validatorCommission ≤ 10000)
    (hnew : newBidRuntime bid slot.validatorCommission = .ok runtime) :
    (∀ s, env.commitBidTxs slot runtime = .ok s → s.runtime.income < 2 ^ 192 →
      (s.runtime.packReward slot.validatorCommission).validReward →
      Exact slot bid (s.runtime.packReward slot.validatorCommission)) ∧
    ∀ best out, env.simulateBidInner slot runtime best = .ok out →
      out.runtime.income < 2 ^ 192 → Exact slot bid out.runtime := by
  constructor
  · intro s hbid hn hvalid
    have hpacked := (keeps_of_commitBidTxs hnew hbid).packReward
    exact hpacked.exact hn hc (hpacked.declared hn hvalid)
  · intro best out h hn
    obtain ⟨s, hpack, h⟩ := bind_eq_ok h
    obtain ⟨block, -, h⟩ := bind_eq_ok h
    cases h
    obtain ⟨s1, hbid, hpack⟩ := bind_eq_ok hpack
    obtain ⟨s1', hrewards, hpack⟩ := bind_eq_ok hpack
    obtain ⟨s2, hmerge, hpay⟩ := bind_eq_ok hpack
    obtain ⟨rfl, hvalid⟩ := checkRewards_eq_ok hrewards
    -- what the check saw is part of what is packed later
    have h1 := (keeps_of_commitBidTxs hnew hbid).packReward
    have h2 : Packed slot bid s1.runtime.income s2.runtime := by
      rcases mergePool_eq_ok hmerge with rfl | ⟨-, blobFee, pendingTxs, t, -, hpool, rfl⟩
      · exact h1
      · obtain ⟨-, ht, -⟩ := commitTransactionRecovered_keeps
          (P := fun _ t => Packed slot bid s1.runtime.income t.runtime)
          (fun _ _ _ _ _ _ _ hstep ht => ht.step hstep) hpool h1
        have hmore := ht.packReward
        exact { hmore with earned := ht.earned.trans (ht.le.trans hmore.earned) }
    obtain ⟨payBidTx, -, hpay⟩ := commitPayBid_eq_ok hpay
    obtain ⟨-, h3, -⟩ := commitTransaction_keeps
      (P := fun _ t => Packed slot bid s1.runtime.income t.runtime)
      (fun _ _ _ _ _ _ _ hstep ht => ht.step hstep) hpay h2
    have hle := h3.earned.trans h3.le
    exact h3.exact hn hc ((h1.declared (lt_of_le_of_lt hle hn) hvalid).trans h3.earned)

/-- A bid with a transaction of the pool behind it: of the fees, all but those of the payment are
in the rewards. -/
theorem rewards_exact_stored : ∃ out,
    (gasEnv true).simulateBidInner (packSlot 30000000) (gasRuntime 21000) none = .ok out ∧
    out.runtime.packedIncome = 42000 ∧ out.runtime.income = 63000 ∧
    Exact (packSlot 30000000) (packBidOf (gasTxs 21000) 21000) out.runtime := by
  have hstored : ((gasEnv true).simulateBidInner (packSlot 30000000) (gasRuntime 21000)
      none).toOption.map (fun out => (out.runtime.packedIncome, out.runtime.income)) =
        some (42000, 63000) := by decide +kernel
  obtain ⟨out, hout, hincome⟩ := exists_ok_of_toOption_map hstored
  obtain ⟨hpacked, hincome⟩ := Prod.mk.inj hincome
  refine ⟨out, hout, hpacked, hincome, (rewards_exact (gasEnv true) (packSlot 30000000)
    (packBidOf (gasTxs 21000) 21000) (gasRuntime 21000) (by decide) rfl).2 none out hout ?_⟩
  rw [hincome]
  norm_num

end BidEnv

end RethBsc
