/-!
# `RpcPipeline.Random.ChaCha`: a keystream of random words

The ChaCha block function with twelve rounds, a 64-bit block counter and no
nonce. A key of eight words fixes the whole stream, and each word of it can be
computed on its own.

* `block`: the sixteen words of one block.
* `word`: one word of the stream.
* `expand`: a key from a 64-bit seed.
-/

set_option autoImplicit false

namespace RpcPipeline.ChaCha

/-- The sixteen words of a block, or of the state it is computed from. -/
abbrev Block := Vector UInt32 16

/-- A key of eight words. -/
abbrev Key := Vector UInt32 8

/-- Turns the bits of a word to the left. -/
def rotate (x : UInt32) (n : UInt32) : UInt32 := (x <<< n) ||| (x >>> (32 - n))

/-- Mixes four words of a block. -/
def quarter (s : Block) (a b c d : Fin 16) : Block :=
  let s := s.set a (s[a] + s[b])
  let s := s.set d (rotate (s[d] ^^^ s[a]) 16)
  let s := s.set c (s[c] + s[d])
  let s := s.set b (rotate (s[b] ^^^ s[c]) 12)
  let s := s.set a (s[a] + s[b])
  let s := s.set d (rotate (s[d] ^^^ s[a]) 8)
  let s := s.set c (s[c] + s[d])
  s.set b (rotate (s[b] ^^^ s[c]) 7)

/-- Two rounds: the columns of a block, then its diagonals. -/
def doubleRound (s : Block) : Block :=
  let s := quarter s 0 4 8 12
  let s := quarter s 1 5 9 13
  let s := quarter s 2 6 10 14
  let s := quarter s 3 7 11 15
  let s := quarter s 0 5 10 15
  let s := quarter s 1 6 11 12
  let s := quarter s 2 7 8 13
  quarter s 3 4 9 14

/-- Applies a function `n` times. -/
def times {β : Type} (f : β → β) : Nat → β → β
  | 0, s => s
  | n + 1, s => times f n (f s)

/-- The state of a block before its rounds: four constants, the key, the number
of the block in two words, and two words of zero. -/
def start (key : Key) (number : UInt64) : Block :=
  let constants : Vector UInt32 4 := #v[0x61707865, 0x3320646e, 0x79622d32, 0x6b206574]
  let tail : Vector UInt32 4 := #v[number.toUInt32, (number >>> 32).toUInt32, 0, 0]
  constants ++ key ++ tail

/-- One block of the stream: twelve rounds, then the sum with the state before
them. -/
def block (key : Key) (number : UInt64) : Block :=
  let first := start key number
  (times doubleRound 6 first).zipWith (· + ·) first

/-- One word of the stream. -/
def word (key : Key) (position : Nat) : UInt32 :=
  (block key (UInt64.ofNat (position / 16))).get ⟨position % 16, Nat.mod_lt _ (by decide)⟩

/-- The state that follows a state of the seed expander. -/
def advance (state : UInt64) : UInt64 := state * 6364136223846793005 + 11634580027462260723

/-- The word that a state of the seed expander puts out. -/
def output (state : UInt64) : UInt32 :=
  let mixed := (((state >>> 18) ^^^ state) >>> 27).toUInt32
  let turn := (state >>> 59).toUInt32
  (mixed >>> turn) ||| (mixed <<< (32 - turn))

/-- The key that a 64-bit seed stands for. -/
def expand (seed : UInt64) : Key :=
  Vector.ofFn fun i => output (times advance (i.val + 1) seed)

end RpcPipeline.ChaCha
