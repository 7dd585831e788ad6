import RethBsc.Hardforks

/-!
The contexts that calls of precompiles are traced with.

A thread keeps a stack of them. Who executes a block pushes the context of a transaction and pops
it afterwards, whatever the result. The handler pushes one more when it checks the intrinsic gas,
and pops it in the phase that makes the result of the transaction: an error of a phase between the
two leaves it on the stack.
-/

namespace RethBsc

structure PrecompileTraceContext where
  blockNumber : ℕ
  spec : BscHardfork
  isSystemTx : Bool
  txHash : Option B256
  txTo : Option Address
  txSelector : Option Bytes
  txInputLen : ℕ
  deriving DecidableEq

def PrecompileTraceContext.mergeWithParent (ctx : PrecompileTraceContext) :
    Option PrecompileTraceContext → PrecompileTraceContext
  | none => ctx
  | some parent =>
    { ctx with
      txHash := ctx.txHash <|> parent.txHash
      txTo := ctx.txTo <|> parent.txTo
      txSelector := ctx.txSelector <|> parent.txSelector
      txInputLen := if ctx.txInputLen = 0 then parent.txInputLen else ctx.txInputLen
      isSystemTx := ctx.isSystemTx || parent.isSystemTx }

abbrev TraceStack := List PrecompileTraceContext

def TraceStack.push (ctx : PrecompileTraceContext) (stack : TraceStack) : TraceStack :=
  ctx.mergeWithParent stack.head? :: stack

def TraceStack.pop (stack : TraceStack) : TraceStack := stack.tail

/-- What revm does in the phases of a transaction. Precompiles look at the stack; what one phase
hands to the next is part of the EVM. -/
structure BscHandler (E ε : Type) where
  validateEnv : E → TraceStack → Except ε E
  initialTxGas : E → TraceStack → Except ε E
  preExecution : E → TraceStack → Except ε E
  execution : E → TraceStack → Except ε E
  postExecution : E → TraceStack → Except ε E
  outcome : E → TraceStack → Except ε E
  catchError : ε → E → E

namespace BscHandler

variable {E ε : Type} (h : BscHandler E ε) (ctx : PrecompileTraceContext)

def validateInitialTxGas (evm : E) (stack : TraceStack) : Except ε E × TraceStack :=
  let stack := stack.push ctx
  match if ctx.isSystemTx then .ok evm else h.initialTxGas evm stack with
  | .error e => (.error e, stack.pop)
  | .ok evm => (.ok evm, stack)

/-- The phases between the two that the handler overrides. -/
def beforeResult (evm : E) (stack : TraceStack) : Except ε E := do
  let evm ← h.preExecution evm stack
  let evm ← h.execution evm stack
  h.postExecution evm stack

/-- The guard pops on every return. -/
def executionResult (evm : E) (stack : TraceStack) : Except ε E × TraceStack :=
  (h.outcome evm stack, stack.pop)

def run (evm : E) (stack : TraceStack) : Except ε E × TraceStack :=
  match h.validateEnv evm stack with
  | .error e => (.error e, stack)
  | .ok evm =>
    match h.validateInitialTxGas ctx evm stack with
    | (.error e, stack) => (.error e, stack)
    | (.ok evm, stack) =>
      match h.beforeResult evm stack with
      | .error e => (.error e, stack)
      | .ok evm => h.executionResult evm stack

/-- A transaction on its own, or with the context and the guard of who executes the block. -/
def transact (outer : Option PrecompileTraceContext) (t : E × TraceStack) : E × TraceStack :=
  let (r, stack) := h.run ctx t.1 ((outer.map t.2.push).getD t.2)
  (match r with
    | .error e => h.catchError e t.1
    | .ok evm => evm,
    if outer.isSome then stack.pop else stack)

/-- The transaction fails in its validation or gets to its result. -/
def settles (evm : E) (stack : TraceStack) : Bool :=
  match h.validateEnv evm stack with
  | .error _ => true
  | .ok evm =>
    match h.validateInitialTxGas ctx evm stack with
    | (.error _, _) => true
    | (.ok evm, stack) => (h.beforeResult evm stack).isOk

/-- Each transaction settles, on the EVM and the stack that those before it leave. -/
def Settled : List (PrecompileTraceContext × Option PrecompileTraceContext) → E × TraceStack → Prop
  | [], _ => True
  | (ctx, outer) :: txs, t => h.settles ctx t.1 ((outer.map t.2.push).getD t.2) ∧
      Settled txs (h.transact ctx outer t)

variable {h ctx} {evm : E} {stack stack' : TraceStack}

lemma stack_validateInitialTxGas {r : Except ε E}
    (hv : h.validateInitialTxGas ctx evm stack = (r, stack')) :
    stack' = bif r.isOk then stack.push ctx else stack := by
  unfold validateInitialTxGas at hv
  dsimp only at hv
  split at hv <;> cases hv <;> rfl

lemma stack_run (evm : E) (stack : TraceStack) :
    (h.run ctx evm stack).2 = bif h.settles ctx evm stack then stack else stack.push ctx := by
  unfold run settles
  cases h.validateEnv evm stack with
  | error e => rfl
  | ok evm =>
    dsimp only
    rcases hv : h.validateInitialTxGas ctx evm stack with ⟨e | evm', stack'⟩
    · exact stack_validateInitialTxGas hv
    · obtain rfl := stack_validateInitialTxGas hv
      dsimp only
      cases h.beforeResult evm' _ <;> rfl

lemma stack_transact (ctx : PrecompileTraceContext) (outer : Option PrecompileTraceContext)
    (t : E × TraceStack) :
    (h.transact ctx outer t).2 = bif h.settles ctx t.1 ((outer.map t.2.push).getD t.2) then t.2
      else t.2.push (outer.getD ctx) := by
  cases outer with
  | none => exact stack_run t.1 t.2
  | some outer =>
    refine (congrArg List.tail (stack_run t.1 (t.2.push outer))).trans ?_
    exact Bool.apply_cond List.tail

variable (h)

/-- What one transaction leaves behind, no later one removes. -/
lemma length_le_foldl (txs : List (PrecompileTraceContext × Option PrecompileTraceContext))
    (t : E × TraceStack) :
    t.2.length ≤ (txs.foldl (fun t tx => h.transact tx.1 tx.2 t) t).2.length := by
  induction txs generalizing t with
  | nil => exact le_rfl
  | cons tx txs ih =>
    refine le_trans ?_ (ih (h.transact tx.1 tx.2 t))
    rw [stack_transact]
    cases h.settles tx.1 t.1 _ with
    | false => exact Nat.le_succ _
    | true => exact le_rfl

/-- **The stack is balanced** by exactly the sequences in which no transaction fails between the
two phases: each succeeds, reverts or halts, or fails before or after them. -/
theorem stack_balanced (txs : List (PrecompileTraceContext × Option PrecompileTraceContext))
    (t : E × TraceStack) :
    (txs.foldl (fun t tx => h.transact tx.1 tx.2 t) t).2 = t.2 ↔ h.Settled txs t := by
  induction txs generalizing t with
  | nil => exact iff_of_true rfl trivial
  | cons tx txs ih =>
    obtain ⟨ctx, outer⟩ := tx
    have hstack := stack_transact (h := h) ctx outer t
    rw [List.foldl_cons, Settled]
    cases hs : h.settles ctx t.1 ((outer.map t.2.push).getD t.2) with
    | true =>
      rw [hs, cond_true] at hstack
      rw [← hstack]
      exact (ih (h.transact ctx outer t)).trans (and_iff_right rfl).symm
    | false =>
      rw [hs, cond_false] at hstack
      refine iff_of_false (fun heq => ?_) fun hs => Bool.false_ne_true hs.1
      have hle := length_le_foldl h txs (h.transact ctx outer t)
      rw [heq, hstack] at hle
      exact absurd hle (Nat.not_succ_le_self _)

end BscHandler

/-- An account with its nonce, and the nonces of its transactions to come: `pre_execution` fails
for a wrong one. -/
def nonceHandler : BscHandler (ℕ × List ℕ) Unit where
  validateEnv evm _ := .ok evm
  initialTxGas evm _ := .ok evm
  preExecution evm _ := if evm.2.head? = some evm.1 then .ok (evm.1 + 1, evm.2.tail) else .error ()
  execution evm _ := .ok evm
  postExecution evm _ := .ok evm
  outcome evm _ := .ok evm
  catchError _ evm := (evm.1, evm.2.tail)

def sampleContext (txHash : B256) : PrecompileTraceContext :=
  ⟨3, .jenner, false, some txHash, some 1, none, 0⟩

/-- Of three transactions, the one with a wrong nonce leaves a context behind. -/
theorem stack_left_behind :
    [(sampleContext 7, some (sampleContext 7)), (sampleContext 8, some (sampleContext 8)),
      (sampleContext 9, some (sampleContext 9))].foldl
        (fun t tx => nonceHandler.transact tx.1 tx.2 t) ((0, [0, 5, 1]), []) =
      ((2, []), [sampleContext 8]) := rfl

end RethBsc
