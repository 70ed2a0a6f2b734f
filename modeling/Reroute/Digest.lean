import Reroute.Text

/-!
The BLAKE3 digest of a text.

The UTF-8 bytes of the text are cut into chunks and these into blocks. The blocks of a chunk are
compressed one after the other, and the results of the chunks are joined in pairs until one node
is left. Its last compression gives the digest.
-/

namespace Reroute

/-- A digest of 32 bytes, as eight words of which the low byte comes first. -/
structure Digest where
  words : Vector UInt32 8
  deriving DecidableEq, Repr

namespace Digest

def start : Vector UInt32 8 := #v[
  0x6A09E667, 0xBB67AE85, 0x3C6EF372, 0xA54FF53A, 0x510E527F, 0x9B05688C, 0x1F83D9AB, 0x5BE0CD19]

/-- Which word of a block takes which place in the next round. -/
def schedule : Vector (Fin 16) 16 := #v[2, 6, 3, 10, 7, 0, 4, 13, 1, 11, 12, 5, 9, 14, 15, 8]

def chunkBytes : Nat := 1024

def blockBytes : Nat := 64

def rotateRight (x : UInt32) (count : UInt32) : UInt32 := (x >>> count) ||| (x <<< (32 - count))

def mix (v : Vector UInt32 16) (a b c d : Fin 16) (x y : UInt32) : Vector UInt32 16 :=
  let v := v.set a (v[a] + v[b] + x)
  let v := v.set d (rotateRight (v[d] ^^^ v[a]) 16)
  let v := v.set c (v[c] + v[d])
  let v := v.set b (rotateRight (v[b] ^^^ v[c]) 12)
  let v := v.set a (v[a] + v[b] + y)
  let v := v.set d (rotateRight (v[d] ^^^ v[a]) 8)
  let v := v.set c (v[c] + v[d])
  v.set b (rotateRight (v[b] ^^^ v[c]) 7)

def round (m v : Vector UInt32 16) : Vector UInt32 16 :=
  let v := mix v 0 4 8 12 m[0] m[1]
  let v := mix v 1 5 9 13 m[2] m[3]
  let v := mix v 2 6 10 14 m[4] m[5]
  let v := mix v 3 7 11 15 m[6] m[7]
  let v := mix v 0 5 10 15 m[8] m[9]
  let v := mix v 1 6 11 12 m[10] m[11]
  let v := mix v 2 7 8 13 m[12] m[13]
  mix v 3 4 9 14 m[14] m[15]

def rounds : Nat → Vector UInt32 16 → Vector UInt32 16 → Vector UInt32 16
  | 0, _, v => v
  | n + 1, m, v => rounds n (schedule.map fun i => m[i]) (round m v)

/-- A compression that is still to be done: a chain, a block, and what is known of the block. -/
structure Node where
  chain : Vector UInt32 8
  block : Vector UInt32 16
  counter : UInt64
  length : UInt32
  flags : UInt32

def chunkStart : UInt32 := 1

def chunkEnd : UInt32 := 2

def parentFlag : UInt32 := 4

def rootFlag : UInt32 := 8

namespace Node

def compress (node : Node) : Vector UInt32 8 :=
  let tail : Vector UInt32 8 := #v[start[0], start[1], start[2], start[3],
    node.counter.toUInt32, (node.counter >>> 32).toUInt32, node.length, node.flags]
  let v := rounds 7 node.block (node.chain ++ tail)
  Vector.ofFn fun i : Fin 8 => v[i] ^^^ v[i.val + 8]

def join (left right : Node) : Node where
  chain := start
  block := left.compress ++ right.compress
  counter := 0
  length := 64
  flags := parentFlag

/-- Neighbours joined in pairs. A last node without a neighbour stays as it is. -/
def pairs : List Node → List Node
  | left :: right :: rest => left.join right :: pairs rest
  | rest => rest

theorem length_pairs_le : ∀ nodes : List Node, (pairs nodes).length ≤ nodes.length
  | [] => by simp [pairs]
  | [_] => by simp [pairs]
  | _ :: _ :: rest => by
    have := length_pairs_le rest
    simp only [pairs, List.length_cons]
    omega

def root (first : Node) : List Node → Node
  | [] => first
  | second :: rest => root (first.join second) (pairs rest)
termination_by rest => rest.length
decreasing_by
  have := length_pairs_le rest
  simp only [List.length_cons]
  omega

end Node

def word (bytes : Array UInt8) (place : Nat) : UInt32 :=
  let byte i := (bytes.getD (place + i) 0).toUInt32
  byte 0 ||| (byte 1 <<< 8) ||| (byte 2 <<< 16) ||| (byte 3 <<< 24)

def block (bytes : Array UInt8) : Vector UInt32 16 := Vector.ofFn fun i => word bytes (4 * i.val)

/-- The bytes in pieces of `size`, the last of which can be shorter. There is at least one. -/
def pieces (size : Nat) (bytes : Array UInt8) : List (Array UInt8) :=
  (List.range (max 1 ((bytes.size + size - 1) / size))).map fun i =>
    bytes.extract (i * size) ((i + 1) * size)

def chain (counter : UInt64) (words : Vector UInt32 8) (flags : UInt32) (first : Array UInt8) :
    List (Array UInt8) → Node
  | [] => { chain := words, block := block first, counter, length := first.size.toUInt32
            flags := flags ||| chunkEnd }
  | second :: rest =>
    let node : Node := { chain := words, block := block first, counter
                         length := first.size.toUInt32, flags }
    chain counter node.compress 0 second rest

def chunk (counter : Nat) (bytes : Array UInt8) : Node :=
  match pieces blockBytes bytes with
  | [] => chain counter.toUInt64 start chunkStart #[] []
  | first :: rest => chain counter.toUInt64 start chunkStart first rest

def ofBytes (bytes : Array UInt8) : Digest :=
  let nodes := (pieces chunkBytes bytes).zipIdx.map fun (piece, i) => chunk i piece
  let root := match nodes with
    | [] => chunk 0 #[]
    | first :: rest => Node.root first rest
  ⟨{ root with flags := root.flags ||| rootFlag }.compress⟩

def ofText (t : Text) : Digest := ofBytes (String.ofList t).toUTF8.data

def hexByte (n : Nat) : Text := [Nat.digitChar (n / 16 % 16), Nat.digitChar (n % 16)]

def hex (digest : Digest) : Text :=
  digest.words.toList.flatMap fun w =>
    [0, 8, 16, 24].flatMap fun shift => hexByte (w.toNat >>> shift % 256)

end Digest

end Reroute
