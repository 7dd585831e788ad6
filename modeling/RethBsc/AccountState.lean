import RethBsc.OrdMap
import RethBsc.Primitives

/-!
Accounts, and the change sets by which they change.

Executing a transaction yields a set of accounts with what became of them. The database takes
such a set account by account: it skips what was not touched, removes what destroyed itself or
ended up empty, starts a created account with blank storage, and otherwise takes over the account
and those slots that changed.
-/

namespace RethBsc

/-- The hash of no code. -/
def keccakEmpty : B256 := 0xc5d2460186f7233c927e7db2dcc703c0e500b653ca82273b7bfad8045d85a470

structure DbInfo where
  balance : ℕ
  nonce : ℕ
  codeHash : B256
  deriving DecidableEq

namespace DbInfo

def default : DbInfo := ⟨0, 0, keccakEmpty⟩

def hasNoCode (info : DbInfo) : Bool :=
  decide (info.codeHash = keccakEmpty) || decide (info.codeHash = 0)

def isEmpty (info : DbInfo) : Bool :=
  info.hasNoCode && decide (info.balance = 0) && decide (info.nonce = 0)

end DbInfo

structure StorageSlot where
  originalValue : B256
  presentValue : B256
  deriving DecidableEq

def StorageSlot.isChanged (slot : StorageSlot) : Bool :=
  decide (slot.originalValue ≠ slot.presentValue)

structure RevmAccount where
  info : DbInfo
  touched : Bool
  created : Bool
  selfdestructed : Bool
  storage : OrdMap B256 StorageSlot

namespace RevmAccount

/-- `Account::from(info)`, marked as touched. -/
def touchedFrom (info : DbInfo) : RevmAccount := ⟨info, true, false, false, OrdMap.empty⟩

def changedStorageSlots (account : RevmAccount) : List (B256 × StorageSlot) :=
  account.storage.entries.filter fun e => e.2.isChanged

/-- The storage after a change set, slot by slot. -/
def applyStorage (account : RevmAccount) (old : B256 → B256) (slot : B256) : B256 :=
  match account.storage.get slot with
  | some s => if s.isChanged then s.presentValue else old slot
  | none => old slot

end RevmAccount

abbrev EvmState := OrdMap Address RevmAccount

structure DbAccount where
  info : DbInfo
  storage : B256 → B256

/-- The database. An account that was never written, or was removed, is absent. -/
abbrev AccountDb := Address → Option DbAccount

namespace AccountDb

def basic (db : AccountDb) (address : Address) : Option DbInfo :=
  (db address).map fun account => account.info

/-- The account as the state trie sees it: an absent one is empty. -/
def infoAt (db : AccountDb) (address : Address) : DbInfo := (db.basic address).getD .default

def slotAt (db : AccountDb) (address : Address) (slot : B256) : B256 :=
  ((db address).map fun account => account.storage slot).getD 0

def commitAccount (account : RevmAccount) (old : Option DbAccount) : Option DbAccount :=
  if !account.touched then old
  else if account.selfdestructed then none
  else if account.created then some ⟨account.info, account.applyStorage fun _ => 0⟩
  else if account.info.isEmpty then none
  else some ⟨account.info, account.applyStorage ((old.map DbAccount.storage).getD fun _ => 0)⟩

def commit (db : AccountDb) (changes : EvmState) : AccountDb := fun address =>
  match changes.get address with
  | some account => commitAccount account (db address)
  | none => db address

/-- The database after change sets in order. -/
def commitAll (db : AccountDb) (changes : List EvmState) : AccountDb := changes.foldl commit db

variable {db db' : AccountDb} {changes : EvmState} {address : Address}

lemma commit_of_none (h : changes.get address = none) : db.commit changes address = db address := by
  simp [commit, h]

variable {account : RevmAccount}

lemma commit_of_some (h : changes.get address = some account) :
    db.commit changes address = commitAccount account (db address) := by
  simp [commit, h]

/-- Accounts change independently of each other. -/
lemma commit_congr (h : db address = db' address) :
    db.commit changes address = db'.commit changes address := by
  simp [commit, h]

lemma commitAll_congr {l : List EvmState} (h : db address = db' address) :
    db.commitAll l address = db'.commitAll l address := by
  induction l generalizing db db' with
  | nil => exact h
  | cons changes l ih => exact ih (commit_congr h)

lemma commitAll_append (l l' : List EvmState) :
    db.commitAll (l ++ l') = (db.commitAll l).commitAll l' := List.foldl_append

@[simp] lemma commitAll_concat (l : List EvmState) :
    db.commitAll (l ++ [changes]) = (db.commitAll l).commit changes := by
  simp [commitAll]

/-- Two databases show the same account. -/
def AgreeAt (db db' : AccountDb) (address : Address) : Prop :=
  db.infoAt address = db'.infoAt address ∧ ∀ slot, db.slotAt address slot = db'.slotAt address slot

lemma AgreeAt.of_eq (h : db address = db' address) : AgreeAt db db' address := by
  simp [AgreeAt, infoAt, basic, slotAt, h]

lemma AgreeAt.iff_of_eq {db₁ db₁' : AccountDb} (h : db address = db₁ address)
    (h' : db' address = db₁' address) : AgreeAt db db' address ↔ AgreeAt db₁ db₁' address := by
  simp [AgreeAt, infoAt, basic, slotAt, h, h']

lemma infoAt_congr (h : db address = db' address) : db.infoAt address = db'.infoAt address := by
  simp [infoAt, basic, h]

lemma storage_eq_slotAt (db : AccountDb) (address : Address) :
    ((db address).map DbAccount.storage).getD (fun _ => 0) = db.slotAt address := by
  funext slot
  cases h : db address <;> simp [slotAt, h]

lemma commit_of_not_touched (hget : changes.get address = some account)
    (htouched : account.touched = false) : db.commit changes address = db address := by
  rw [commit_of_some hget]
  simp [commitAccount, htouched]

end AccountDb

end RethBsc
