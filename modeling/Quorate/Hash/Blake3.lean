import Quorate.Text.Numeral

/-!
The hash function BLAKE3 in its plain mode, without a key. Input is cut into blocks of 64 bytes
and chunks of 16 blocks; the chunks are the leaves of a binary tree whose left subtrees are
complete. Only the first 32 bytes of output are produced.
-/

namespace Quorate.Hash.Blake3

structure Row where
  first : UInt32
  second : UInt32
  third : UInt32
  fourth : UInt32
deriving DecidableEq, Repr

structure Block where
  row0 : Row
  row1 : Row
  row2 : Row
  row3 : Row
deriving DecidableEq, Repr

structure Chaining where
  low : Row
  high : Row
deriving DecidableEq, Repr

def initialLow : Row := ⟨0x6A09E667, 0xBB67AE85, 0x3C6EF372, 0xA54FF53A⟩

def initialHigh : Row := ⟨0x510E527F, 0x9B05688C, 0x1F83D9AB, 0x5BE0CD19⟩

def initial : Chaining := ⟨initialLow, initialHigh⟩

def chunkStart : UInt32 := 1
def chunkEnd : UInt32 := 2
def parent : UInt32 := 4
def root : UInt32 := 8

namespace Row

def zipWith (combine : UInt32 → UInt32 → UInt32) (left right : Row) : Row :=
  ⟨combine left.first right.first, combine left.second right.second,
   combine left.third right.third, combine left.fourth right.fourth⟩

def add (left right : Row) : Row := zipWith (· + ·) left right

def xor (left right : Row) : Row := zipWith (· ^^^ ·) left right

def map (transform : UInt32 → UInt32) (row : Row) : Row :=
  ⟨transform row.first, transform row.second, transform row.third, transform row.fourth⟩

def turn (amount : UInt32) (row : Row) : Row :=
  row.map fun word => (word >>> amount) ||| (word <<< (32 - amount))

def shift (row : Row) : Row := ⟨row.second, row.third, row.fourth, row.first⟩

def toList (row : Row) : List UInt32 := [row.first, row.second, row.third, row.fourth]

end Row

structure State where
  row0 : Row
  row1 : Row
  row2 : Row
  row3 : Row

def State.mix (state : State) (left right : Row) : State :=
  let row0 := (state.row0.add state.row1).add left
  let row3 := (state.row3.xor row0).turn 16
  let row2 := state.row2.add row3
  let row1 := (state.row1.xor row2).turn 12
  let row0 := (row0.add row1).add right
  let row3 := (row3.xor row0).turn 8
  let row2 := row2.add row3
  let row1 := (row1.xor row2).turn 7
  ⟨row0, row1, row2, row3⟩

def State.slant (state : State) : State :=
  ⟨state.row0, state.row1.shift, state.row2.shift.shift, state.row3.shift.shift.shift⟩

def State.unslant (state : State) : State :=
  ⟨state.row0, state.row1.shift.shift.shift, state.row2.shift.shift, state.row3.shift⟩

/-- One round: the columns with the first half of the message, the diagonals with the second. -/
def State.round (state : State) (block : Block) : State :=
  let columns := state.mix
    ⟨block.row0.first, block.row0.third, block.row1.first, block.row1.third⟩
    ⟨block.row0.second, block.row0.fourth, block.row1.second, block.row1.fourth⟩
  let diagonals := columns.slant.mix
    ⟨block.row2.first, block.row2.third, block.row3.first, block.row3.third⟩
    ⟨block.row2.second, block.row2.fourth, block.row3.second, block.row3.fourth⟩
  diagonals.unslant

def Block.permute (block : Block) : Block :=
  { row0 := ⟨block.row0.third, block.row1.third, block.row0.fourth, block.row2.third⟩
    row1 := ⟨block.row1.fourth, block.row0.first, block.row1.first, block.row3.second⟩
    row2 := ⟨block.row0.second, block.row2.fourth, block.row3.first, block.row1.second⟩
    row3 := ⟨block.row2.second, block.row3.third, block.row3.fourth, block.row2.first⟩ }

def State.rounds : Nat → State → Block → State
  | 0, state, _ => state
  | count + 1, state, block => rounds count (state.round block) block.permute

structure Node where
  chaining : Chaining
  block : Block
  counter : UInt64
  size : UInt32
  flags : UInt32

def Node.compress (node : Node) : Chaining :=
  let state : State :=
    { row0 := node.chaining.low
      row1 := node.chaining.high
      row2 := initialLow
      row3 := ⟨node.counter.toUInt32, (node.counter >>> 32).toUInt32, node.size, node.flags⟩ }
  let mixed := state.rounds 7 node.block
  ⟨mixed.row0.xor mixed.row2, mixed.row1.xor mixed.row3⟩

/-- The little-endian word of the first four bytes; absent bytes count as zero. -/
def word (bytes : List UInt8) : UInt32 :=
  match bytes with
  | [] => 0
  | [a] => a.toUInt32
  | [a, b] => a.toUInt32 ||| (b.toUInt32 <<< 8)
  | [a, b, c] => a.toUInt32 ||| (b.toUInt32 <<< 8) ||| (c.toUInt32 <<< 16)
  | a :: b :: c :: d :: _ =>
      a.toUInt32 ||| (b.toUInt32 <<< 8) ||| (c.toUInt32 <<< 16) ||| (d.toUInt32 <<< 24)

def rowAt (bytes : List UInt8) : Row :=
  ⟨word bytes, word (bytes.drop 4), word (bytes.drop 8), word (bytes.drop 12)⟩

def blockAt (bytes : List UInt8) : Block :=
  ⟨rowAt bytes, rowAt (bytes.drop 16), rowAt (bytes.drop 32), rowAt (bytes.drop 48)⟩

/-- Cuts a list into pieces of the given length; the last may be shorter. An empty list is one
empty piece. The first argument bounds the number of cuts. -/
def pieces (length : Nat) : Nat → List UInt8 → List (List UInt8)
  | 0, bytes => [bytes]
  | cuts + 1, bytes =>
      let rest := bytes.drop length
      if rest.isEmpty then [bytes] else bytes.take length :: pieces length cuts rest

/-- Runs through the blocks of a chunk up to the last, which is left to its caller. -/
def chunkNode (counter : UInt64) (flags : UInt32) (chaining : Chaining) :
    List (List UInt8) → Node
  | [] => ⟨chaining, blockAt [], counter, 0, flags ||| chunkEnd⟩
  | [last] => ⟨chaining, blockAt last, counter, UInt32.ofNat last.length, flags ||| chunkEnd⟩
  | bytes :: rest =>
      let node : Node := ⟨chaining, blockAt bytes, counter, UInt32.ofNat bytes.length, flags⟩
      chunkNode counter 0 node.compress rest

def leaf (counter : Nat) (chunk : List UInt8) : Node :=
  chunkNode (UInt64.ofNat counter) chunkStart initial (pieces 64 16 chunk)

def join (left right : Node) : Node :=
  let leftOutput := left.compress
  let rightOutput := right.compress
  ⟨initial, ⟨leftOutput.low, leftOutput.high, rightOutput.low, rightOutput.high⟩, 0, 64, parent⟩

/-- The largest power of two below the given number, for numbers above one. -/
def leftSize (count : Nat) : Nat := Nat.pow 2 (Nat.log2 (count - 1))

/-- The tree over a row of chunks, the first of which has the given number. The first argument
bounds the height. -/
def tree : Nat → Nat → List (List UInt8) → Node
  | _, counter, [] => leaf counter []
  | _, counter, [chunk] => leaf counter chunk
  | 0, counter, chunk :: _ => leaf counter chunk
  | height + 1, counter, chunks =>
      let size := leftSize chunks.length
      join (tree height counter (chunks.take size))
        (tree height (counter + size) (chunks.drop size))

def hashWords (bytes : List UInt8) : Chaining :=
  let chunks := pieces 1024 (bytes.length / 1024) bytes
  let top := tree chunks.length 0 chunks
  { top with flags := top.flags ||| root }.compress

def wordBytes (word : UInt32) : List UInt8 :=
  [word.toUInt8, (word >>> 8).toUInt8, (word >>> 16).toUInt8, (word >>> 24).toUInt8]

def hash (bytes : List UInt8) : List UInt8 :=
  let words := hashWords bytes
  (words.low.toList ++ words.high.toList).flatMap wordBytes

/-- The first eight bytes of the hash as a little-endian number. -/
def hashPrefix (bytes : List UInt8) : UInt64 :=
  let words := hashWords bytes
  words.low.first.toUInt64 ||| (words.low.second.toUInt64 <<< 32)

end Quorate.Hash.Blake3

namespace Quorate.Hash

/-- By this digest contents and recipients are named in texts. -/
def shortDigest (bytes : List UInt8) : String := Text.hex ((Blake3.hash bytes).take 8)

end Quorate.Hash
