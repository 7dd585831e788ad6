import RethBsc.RlpReader
import RethBsc.SystemTransactions

/-!
Raw transactions of a bid.

A builder sends its transactions as bytes. The decoder of signed transactions and that of the
fields of a legacy transaction come with other crates and are parameters. Builders leave the
system transactions unsigned: they are legacy transactions with three zeros at the end, which the
decoder of signed transactions refuses and the client has a decoder of its own for.
-/

namespace RethBsc

open Reader Rlp

/-- A signature as bytes: the two numbers and the parity. -/
def signatureBytes (r s : ℕ) (v : Bool) : Bytes :=
  wordBytes 32 r ++ wordBytes 32 s ++ [if v then 1 else 0]

def signatureR (signature : Bytes) : ℕ := beNat (signature.take 32)
def signatureS (signature : Bytes) : ℕ := beNat ((signature.drop 32).take 32)
def signatureV (signature : Bytes) : Bool := decide (byteAt signature 64 ≠ 0)

structure TxDecoders where
  /-- `TransactionSigned::decode_2718`; an error is its text. -/
  decode2718 : Bytes → Except String TransactionSigned
  /-- `TxLegacy::rlp_decode_fields`. -/
  rlpDecodeFields : Reader Transaction

namespace TxDecoders

variable (decoders : TxDecoders)

def unsignedLegacyFields : Reader (Transaction × ℕ × ℕ × ℕ) := do
  let tx ← decoders.rlpDecodeFields
  let v ← uint 32
  let r ← uint 32
  let s ← uint 32
  pure (tx, v, r, s)

def unsignedLegacy : Reader TransactionSigned := do
  let (tx, v, r, s) ← list decoders.unsignedLegacyFields
  if v ≠ 0 ∨ r ≠ 0 ∨ s ≠ 0 then throw (.custom "invalid parity value")
  else pure ⟨tx, signatureBytes 0 0 false⟩

def decodeUnsignedLegacyTx (bytes : Bytes) : Except RlpError TransactionSigned :=
  (decoders.unsignedLegacy bytes).map Prod.fst

/-- The error is that of the first decoder, also where both fail. -/
def decodeBidBlockTx (bytes : Bytes) : Except String TransactionSigned :=
  match decoders.decode2718 bytes with
  | .ok tx => .ok tx
  | .error primary => (decoders.decodeUnsignedLegacyTx bytes).mapError fun _ => primary

end TxDecoders

end RethBsc
