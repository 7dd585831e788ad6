import RethBsc.Primitives

/-!
Fork schedules.

A schedule gives every fork an activation condition; which forks are active at a block is
read off the block's number and timestamp. Forks scheduled by time also need London to be
active at the block.
-/

namespace RethBsc

inductive BscHardfork
  | frontier | ramanujan | niels | mirrorSync | bruno | euler | nano | moran | gibbs | planck
  | luban | plato | hertz | hertzFix | kepler | feynman | feynmanFix | cancun | haber | haberFix
  | bohr | tycho | pascal | lorentz | maxwell | fermi | osaka | mendel | pasteur | jenner
  deriving DecidableEq

inductive ForkCondition
  | block (n : ℕ)
  | ttd (forkBlock : Option ℕ)
  | timestamp (t : ℕ)
  | never
  deriving DecidableEq

def ForkCondition.activeAtBlock : ForkCondition → ℕ → Bool
  | .block n, b => decide (n ≤ b)
  | .ttd (some n), b => decide (n ≤ b)
  | _, _ => false

def ForkCondition.activeAtTimestamp : ForkCondition → ℕ → Bool
  | .timestamp t, ts => decide (t ≤ ts)
  | _, _ => false

def ForkCondition.transitionsAtBlock : ForkCondition → ℕ → Bool
  | .block n, b => decide (n = b)
  | _, _ => false

structure ChainSpec where
  chainId : ℕ
  bscForkActivation : BscHardfork → ForkCondition
  /-- The activation of `EthereumHardfork::London`. -/
  london : ForkCondition
  /-- The activation of `EthereumHardfork::Prague`. -/
  prague : ForkCondition

namespace ChainSpec

variable (spec : ChainSpec)

def isActiveAtBlock (fork : BscHardfork) (n : ℕ) : Bool :=
  (spec.bscForkActivation fork).activeAtBlock n

def isActiveAtTimestamp (fork : BscHardfork) (n ts : ℕ) : Bool :=
  spec.london.activeAtBlock n && (spec.bscForkActivation fork).activeAtTimestamp ts

def isLubanActiveAtBlock (n : ℕ) : Bool := spec.isActiveAtBlock .luban n
def isLubanTransitionAtBlock (n : ℕ) : Bool := (spec.bscForkActivation .luban).transitionsAtBlock n
def isPlatoActiveAtBlock (n : ℕ) : Bool := spec.isActiveAtBlock .plato n
variable (n ts : ℕ)

def isBohrActiveAtTimestamp : Bool := spec.isActiveAtTimestamp .bohr n ts
def isLorentzActiveAtTimestamp : Bool := spec.isActiveAtTimestamp .lorentz n ts
def isMaxwellActiveAtTimestamp : Bool := spec.isActiveAtTimestamp .maxwell n ts
def isFermiActiveAtTimestamp : Bool := spec.isActiveAtTimestamp .fermi n ts
def isKeplerActiveAtTimestamp : Bool := spec.isActiveAtTimestamp .kepler n ts
def isFeynmanActiveAtTimestamp : Bool := spec.isActiveAtTimestamp .feynman n ts
def isFeynmanTransitionAtTimestamp (n ts parentTs : ℕ) : Bool :=
  !spec.isFeynmanActiveAtTimestamp (n - 1) parentTs && spec.isFeynmanActiveAtTimestamp n ts
def isCancunActiveAtTimestamp : Bool := spec.isActiveAtTimestamp .cancun n ts
def isMendelActiveAtTimestamp : Bool := spec.isActiveAtTimestamp .mendel n ts
def isPragueActiveAtBlockAndTimestamp : Bool :=
  spec.london.activeAtBlock n && spec.prague.activeAtTimestamp ts

/-- Bohr is active only with Cancun, and Prague only with Bohr. -/
structure ForksInOrder : Prop where
  bohr : spec.isBohrActiveAtTimestamp n ts = true → spec.isCancunActiveAtTimestamp n ts = true
  prague : spec.isPragueActiveAtBlockAndTimestamp n ts = true →
    spec.isBohrActiveAtTimestamp n ts = true

end ChainSpec

lemma ForkCondition.activeAtBlock_mono {c : ForkCondition} {b b' : ℕ} (h : b ≤ b')
    (hb : c.activeAtBlock b) : c.activeAtBlock b' := by
  rcases c with n | (_ | n) | t | _ <;> simp [activeAtBlock] at hb ⊢ <;> omega

lemma ChainSpec.isActiveAtTimestamp_mono {spec : ChainSpec} {fork : BscHardfork} {n n' ts ts' : ℕ}
    (hn : n ≤ n') (hts : ts ≤ ts') (h : spec.isActiveAtTimestamp fork n ts) :
    spec.isActiveAtTimestamp fork n' ts' := by
  simp only [isActiveAtTimestamp, Bool.and_eq_true] at h ⊢
  refine ⟨ForkCondition.activeAtBlock_mono hn h.1, ?_⟩
  have h2 := h.2
  revert h2
  rcases spec.bscForkActivation fork with m | m | t | _ <;>
    simp only [ForkCondition.activeAtTimestamp, decide_eq_true_eq, Bool.false_eq_true, imp_self]
  omega

end RethBsc
