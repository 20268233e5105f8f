import RpcPipeline.Number.Scalar
import RpcPipeline.Random.ChaCha

/-!
# `RpcPipeline.Random.Stream`: random draws

A random stream is an endless sequence of words with a position in it. Every
draw takes words from the position on and returns the stream behind them, so
that equal streams give equal draws. Statements about random choices quantify
over the words.

* `RandomStream.ofSeed`: the stream of a seed.
* `RandomStream.unit53`, `RandomStream.unit52`: a number from zero up to one.
* `RandomStream.below`: a whole number below a bound.
-/

set_option autoImplicit false

namespace RpcPipeline

/-- An endless sequence of words and a position in it. -/
structure RandomStream where
  word : Nat → UInt32
  position : Nat

namespace RandomStream

/-- The stream of a seed, from its beginning. -/
def ofSeed (seed : UInt64) : RandomStream :=
  let key := ChaCha.expand seed
  ⟨ChaCha.word key, 0⟩

/-- Draws one word. -/
def next32 (s : RandomStream) : Nat × RandomStream :=
  ((s.word s.position).toNat, { s with position := s.position + 1 })

/-- Draws two words as one number, the lower half first. -/
def next64 (s : RandomStream) : Nat × RandomStream :=
  let (low, s) := s.next32
  let (high, s) := s.next32
  (low + UInt32.size * high, s)

variable {α : Type} [Scalar α]

/-- Draws a number from zero up to one, in steps of `2 ^ -53`. -/
def unit53 (s : RandomStream) : α × RandomStream :=
  let (bits, s) := s.next64
  (Scalar.ofNat (bits / Nat.pow 2 11) / Scalar.ofNat (Nat.pow 2 53), s)

/-- Draws a number from zero up to one, in steps of `2 ^ -52`. -/
def unit52 (s : RandomStream) : α × RandomStream :=
  let (bits, s) := s.next64
  (Scalar.ofNat (bits / Nat.pow 2 12) / Scalar.ofNat (Nat.pow 2 52), s)

/-- Draws a whole number below `n`, for `n` up to `2 ^ 32`: the upper half of a
random word times `n`. If the lower half is so high that the next digits could
carry into the result, one more word is drawn to find out. -/
def below (n : Nat) (s : RandomStream) : Nat × RandomStream :=
  let (draw, s) := s.next32
  let product := draw * n
  let low := product % UInt32.size
  let result := product / UInt32.size
  if UInt32.size - n < low then
    let (more, s) := s.next32
    (if UInt32.size ≤ low + more * n / UInt32.size then result + 1 else result, s)
  else (result, s)

end RandomStream

end RpcPipeline
