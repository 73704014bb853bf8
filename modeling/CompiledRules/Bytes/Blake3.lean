import CompiledRules.Bytes.Basic

/-!
# The BLAKE3 hash

The unkeyed hash with a digest of 32 bytes. A chunk of 1024 bytes is compressed block by block; chunks are
joined pairwise, level by level, and the last join marks the root.
-/

namespace CompiledRules.Blake3

/-- A chaining value. -/
abbrev Chaining := Vector UInt32 8

/-- The words of a block. -/
abbrev Block := Vector UInt32 16

def initialValue : Chaining :=
  #v[0x6A09E667, 0xBB67AE85, 0x3C6EF372, 0xA54FF53A, 0x510E527F, 0x9B05688C, 0x1F83D9AB, 0x5BE0CD19]

def chunkStart : UInt32 := 1
def chunkEnd : UInt32 := 2
def parentNode : UInt32 := 4
def rootNode : UInt32 := 8

def rotateRight (word count : UInt32) : UInt32 := (word >>> count) ||| (word <<< (32 - count))

/-- Mixes two message words into four words of the state. -/
def mix (state : Block) (a b c d : Fin 16) (x y : UInt32) : Block :=
  let va := state[a] + state[b] + x
  let vd := rotateRight (state[d] ^^^ va) 16
  let vc := state[c] + vd
  let vb := rotateRight (state[b] ^^^ vc) 12
  let va := va + vb + y
  let vd := rotateRight (vd ^^^ va) 8
  let vc := vc + vd
  let vb := rotateRight (vb ^^^ vc) 7
  (((state.set a va).set b vb).set c vc).set d vd

/-- One round: the columns, then the diagonals. -/
def round (state message : Block) : Block :=
  let s := mix state 0 4 8 12 message[0] message[1]
  let s := mix s 1 5 9 13 message[2] message[3]
  let s := mix s 2 6 10 14 message[4] message[5]
  let s := mix s 3 7 11 15 message[6] message[7]
  let s := mix s 0 5 10 15 message[8] message[9]
  let s := mix s 1 6 11 12 message[10] message[11]
  let s := mix s 2 7 8 13 message[12] message[13]
  mix s 3 4 9 14 message[14] message[15]

/-- The order in which the next round takes the words of the message. -/
def schedule : Vector (Fin 16) 16 := #v[2, 6, 3, 10, 7, 0, 4, 13, 1, 11, 12, 5, 9, 14, 15, 8]

/-- The given number of rounds, with the message permuted in between. -/
def rounds : Nat → Block → Block → Block
  | 0, state, _ => state
  | count + 1, state, message => rounds count (round state message) (schedule.map fun i => message[i])

/-- The compression function, cut to the words of a chaining value. -/
def compress (chaining : Chaining) (block : Block) (counter : Nat) (length flags : UInt32) : Chaining :=
  let state : Block :=
    #v[chaining[0], chaining[1], chaining[2], chaining[3], chaining[4], chaining[5], chaining[6], chaining[7],
      initialValue[0], initialValue[1], initialValue[2], initialValue[3],
      counter.toUInt32, (counter / 0x100000000).toUInt32, length, flags]
  let mixed := rounds 7 state block
  Vector.ofFn fun i : Fin 8 => mixed[i.val] ^^^ mixed[i.val + 8]

/-- The words of at most 64 bytes, with zeros behind them. -/
def blockWords (bytes : Bytes) : Block :=
  let words := (Bytes.pieces 4 bytes).toArray.map fun word => (Bytes.ofLittleEndian word).toUInt32
  Vector.ofFn fun i : Fin 16 => words.getD i.val 0

/-- Compresses the blocks of a chunk one after the other. -/
def compressBlocks (counter : Nat) (last : UInt32) : Chaining → UInt32 → List Bytes → Chaining
  | chaining, _, [] => chaining
  | chaining, first, [block] =>
      compress chaining (blockWords block) counter block.length.toUInt32 (first ||| chunkEnd ||| last)
  | chaining, first, block :: rest =>
      compressBlocks counter last (compress chaining (blockWords block) counter 64 first) 0 rest

/-- The chaining value of the chunk with the given number. -/
def chunk (counter : Nat) (last : UInt32) (bytes : Bytes) : Chaining :=
  let blocks := if bytes.isEmpty then [[]] else Bytes.pieces 64 bytes
  compressBlocks counter last initialValue chunkStart blocks

/-- The chaining value above two others. -/
def parent (flags : UInt32) (left right : Chaining) : Chaining :=
  compress initialValue (left ++ right) 0 64 (parentNode ||| flags)

/-- Joins neighbours; one that is left over moves up as it is. -/
def joinPairs : List Chaining → List Chaining
  | left :: right :: rest => parent 0 left right :: joinPairs rest
  | rest => rest

/-- Joins level by level, at most `levels` times, until the root is reached. -/
def joinLevels : Nat → List Chaining → Chaining
  | _, [] => initialValue
  | _, [only] => only
  | _, [left, right] => parent rootNode left right
  | 0, first :: _ => first
  | levels + 1, nodes => joinLevels levels (joinPairs nodes)

/-- The root of the tree over the chunks of a byte string. -/
def root (bytes : Bytes) : Chaining :=
  if bytes.length ≤ 1024 then chunk 0 rootNode bytes
  else
    let chunks := (Bytes.pieces 1024 bytes).zipIdx.map fun (piece, counter) => chunk counter 0 piece
    joinLevels chunks.length chunks

/-- The digest of 32 bytes. -/
def digest (bytes : Bytes) : Bytes :=
  (root bytes).toList.flatMap fun word => Bytes.littleEndian 4 word.toNat

end CompiledRules.Blake3
