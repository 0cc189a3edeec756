/-!
# The BLAKE3 hash

The unkeyed hash with a digest of 32 bytes, for messages of any length. A message is cut into
*chunks* of 1024 bytes, a chunk into *blocks* of 64; the chunks are the leaves of a binary tree in
which every left subtree is full and as large as it can be. Every block of a chunk and every pair
of subtrees passes through one compression function, which flags tell what it is applied to.

Only the sizes are subtle, and they are kept in one place each: `blocks` always yields at least one
block, and `leftSize` is the largest number of bytes in full chunks, a power of two of them, that
leaves something for the right subtree.
-/

set_option autoImplicit false

namespace OutOfDomain.Blake3

/-! ## The compression function -/

/-- Eight words that carry the hash of what came before. -/
abbrev Chain := Vector UInt32 8

/-- Sixteen words: a block of the message, or the state that is being mixed. -/
abbrev Words := Vector UInt32 16

/-- The words that every hash starts from. -/
def initialChain : Chain :=
  #v[0x6A09E667, 0xBB67AE85, 0x3C6EF372, 0xA54FF53A, 0x510E527F, 0x9B05688C, 0x1F83D9AB, 0x5BE0CD19]

/-- What a compression is applied to, as a set of bits. -/
abbrev Flags := UInt32

/-- The first block of a chunk. -/
def chunkStart : Flags := 1

/-- The last block of a chunk. -/
def chunkEnd : Flags := 2

/-- A pair of subtrees. -/
def parent : Flags := 4

/-- The last compression of all. -/
def root : Flags := 8

/-- Rotation to the right. -/
def rotate (w count : UInt32) : UInt32 := (w >>> count) ||| (w <<< (32 - count))

/-- Mix two words of the message into four words of the state. -/
def mix (s : Words) (a b c d : Fin 16) (x y : UInt32) : Words :=
  let s := s.set a (s[a] + s[b] + x)
  let s := s.set d (rotate (s[d] ^^^ s[a]) 16)
  let s := s.set c (s[c] + s[d])
  let s := s.set b (rotate (s[b] ^^^ s[c]) 12)
  let s := s.set a (s[a] + s[b] + y)
  let s := s.set d (rotate (s[d] ^^^ s[a]) 8)
  let s := s.set c (s[c] + s[d])
  s.set b (rotate (s[b] ^^^ s[c]) 7)

/-- Mix a block into the columns and then into the diagonals of the state. -/
def round (s m : Words) : Words :=
  let s := mix s 0 4 8 12 m[0] m[1]
  let s := mix s 1 5 9 13 m[2] m[3]
  let s := mix s 2 6 10 14 m[4] m[5]
  let s := mix s 3 7 11 15 m[6] m[7]
  let s := mix s 0 5 10 15 m[8] m[9]
  let s := mix s 1 6 11 12 m[10] m[11]
  let s := mix s 2 7 8 13 m[12] m[13]
  mix s 3 4 9 14 m[14] m[15]

/-- The order in which the next round takes the words of a block. -/
def permute (m : Words) : Words :=
  #v[m[2], m[6], m[3], m[10], m[7], m[0], m[4], m[13],
    m[1], m[11], m[12], m[5], m[9], m[14], m[15], m[8]]

/-- The given number of rounds, each on the permuted block of the one before. -/
def rounds : (count : Nat) → (s m : Words) → Words
  | 0, s, _ => s
  | count + 1, s, m => rounds count (round s m) (permute m)

/-- One application of the compression function, not yet carried out: the last one of a message
is carried out with one more flag than it would be elsewhere. -/
structure Compression where
  chain : Chain
  block : Words
  counter : UInt64
  length : UInt32
  flags : Flags

/-- The eight words that a compression yields. -/
def Compression.run (c : Compression) (extra : Flags) : Chain :=
  let start : Words := c.chain ++ (#v[initialChain[0], initialChain[1], initialChain[2],
    initialChain[3], c.counter.toUInt32, (c.counter >>> 32).toUInt32, c.length,
    c.flags ||| extra] : Vector UInt32 8)
  let s := rounds 7 start c.block
  .ofFn fun i => s[i.val] ^^^ s[i.val + 8]

/-! ## Bytes and words -/

/-- Cut off blocks of 64 bytes; the last one may be shorter, and there is always one. -/
def blocks (bytes : List UInt8) : List (List UInt8) :=
  if _h : bytes.length ≤ 64 then [bytes] else bytes.take 64 :: blocks (bytes.drop 64)
termination_by bytes.length
decreasing_by rw [List.length_drop]; omega

/-- The sixteen words of a block, low byte first, with zeros for what is missing. -/
def blockWords (bytes : List UInt8) : Words :=
  .ofFn fun i =>
    let byte (k : Nat) : UInt32 := (bytes[4 * i.val + k]?.getD 0).toUInt32
    byte 0 ||| (byte 1 <<< 8) ||| (byte 2 <<< 16) ||| (byte 3 <<< 24)

/-- The four bytes of a word, low byte first. -/
def wordBytes (w : UInt32) : List UInt8 :=
  [w.toUInt8, (w >>> 8).toUInt8, (w >>> 16).toUInt8, (w >>> 24).toUInt8]

/-! ## Chunks and trees -/

/-- Compress the blocks of a chunk one after the other, up to the last. -/
def chunkBlocks (counter : UInt64) (chain : Chain) (flags : Flags) :
    List (List UInt8) → Compression
  | [] => ⟨chain, blockWords [], counter, 0, flags ||| chunkEnd⟩
  | [last] => ⟨chain, blockWords last, counter, last.length.toUInt32, flags ||| chunkEnd⟩
  | block :: next :: rest =>
    let step : Compression := ⟨chain, blockWords block, counter, block.length.toUInt32, flags⟩
    chunkBlocks counter (step.run 0) 0 (next :: rest)

/-- The size of the left subtree over more bytes than one chunk holds. -/
def leftSize (size : Nat) : Nat := 1024 <<< ((size - 1) / 1024).log2

theorem leftSize_pos (size : Nat) : 0 < leftSize size := by
  rw [leftSize, Nat.shiftLeft_eq]
  exact Nat.mul_pos (by decide) (Nat.two_pow_pos _)

theorem leftSize_lt {size : Nat} (h : 1024 < size) : leftSize size < size := by
  have hne : (size - 1) / 1024 ≠ 0 := by omega
  have hlog := Nat.log2_self_le hne
  have := Nat.div_mul_le_self (size - 1) 1024
  rw [leftSize, Nat.shiftLeft_eq]
  omega

/-- The compression at the top of the tree over the chunks from `counter` on. -/
def tree (counter : Nat) (bytes : List UInt8) : Compression :=
  if _h : bytes.length ≤ 1024 then
    chunkBlocks counter.toUInt64 initialChain chunkStart (blocks bytes)
  else
    let size := leftSize bytes.length
    let left := (tree counter (bytes.take size)).run 0
    let right := (tree (counter + size / 1024) (bytes.drop size)).run 0
    ⟨initialChain, left ++ right, 0, 64, parent⟩
termination_by bytes.length
decreasing_by
  · have := leftSize_lt (Nat.lt_of_not_le _h)
    rw [List.length_take]; omega
  · have := leftSize_pos bytes.length
    rw [List.length_drop]; omega

/-- The digest of a message, of 32 bytes. -/
def hash (message : List UInt8) : List UInt8 :=
  ((tree 0 message).run root).toList.flatMap wordBytes

end OutOfDomain.Blake3
