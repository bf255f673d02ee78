import Custody.Bytes

/-!
# `Custody.Crypto.Argon2.Memory`: the blocks that the password hash fills

A block is 1024 bytes: eight rows of sixteen 64-bit words, read as an 8 × 8 matrix of word
pairs. `Cell.compress` joins two cells into a new one by permuting the rows of their exclusive
or, then its columns (RFC 9106, section 3.5). Rows are structures of sixteen words so that a
permutation runs on words alone.
-/

set_option autoImplicit false

namespace Custody.Crypto.Argon2

/-- Sixteen words: one row, or one column, of a cell's matrix of word pairs. -/
structure Row where
  w0 : UInt64
  w1 : UInt64
  w2 : UInt64
  w3 : UInt64
  w4 : UInt64
  w5 : UInt64
  w6 : UInt64
  w7 : UInt64
  w8 : UInt64
  w9 : UInt64
  w10 : UInt64
  w11 : UInt64
  w12 : UInt64
  w13 : UInt64
  w14 : UInt64
  w15 : UInt64

/-- The four words of one mixing. -/
structure Quad where
  a : UInt64
  b : UInt64
  c : UInt64
  d : UInt64

/-- A word, turned right by some bits. -/
@[inline] def rotr (x n : UInt64) : UInt64 := (x >>> n) ||| (x <<< (64 - n))

/-- Sum with twice the product of the low halves. -/
@[inline] def addMul (x y : UInt64) : UInt64 :=
  x + y + 2 * ((x &&& 0xffffffff) * (y &&& 0xffffffff))

/-- The mixing of BLAKE2b with `addMul` in place of addition and no message. -/
@[inline] def mix (a b c d : UInt64) : Quad :=
  let a := addMul a b
  let d := rotr (d ^^^ a) 32
  let c := addMul c d
  let b := rotr (b ^^^ c) 24
  let a := addMul a b
  let d := rotr (d ^^^ a) 16
  let c := addMul c d
  let b := rotr (b ^^^ c) 63
  ⟨a, b, c, d⟩

namespace Row

def zero : Row := ⟨0, 0, 0, 0, 0, 0, 0, 0, 0, 0, 0, 0, 0, 0, 0, 0⟩

def xor (x y : Row) : Row :=
  ⟨x.w0 ^^^ y.w0, x.w1 ^^^ y.w1, x.w2 ^^^ y.w2, x.w3 ^^^ y.w3,
   x.w4 ^^^ y.w4, x.w5 ^^^ y.w5, x.w6 ^^^ y.w6, x.w7 ^^^ y.w7,
   x.w8 ^^^ y.w8, x.w9 ^^^ y.w9, x.w10 ^^^ y.w10, x.w11 ^^^ y.w11,
   x.w12 ^^^ y.w12, x.w13 ^^^ y.w13, x.w14 ^^^ y.w14, x.w15 ^^^ y.w15⟩

/-- One round of mixing: the four columns of the 4 × 4 square of words, then its diagonals. -/
def permute (r : Row) : Row :=
  let p := mix r.w0 r.w4 r.w8 r.w12
  let q := mix r.w1 r.w5 r.w9 r.w13
  let s := mix r.w2 r.w6 r.w10 r.w14
  let t := mix r.w3 r.w7 r.w11 r.w15
  -- The diagonals, each from the column in which it starts.
  let e := mix p.a q.b s.c t.d
  let f := mix q.a s.b t.c p.d
  let g := mix s.a t.b p.c q.d
  let h := mix t.a p.b q.c s.d
  ⟨e.a, f.a, g.a, h.a, h.b, e.b, f.b, g.b, g.c, h.c, e.c, f.c, f.d, g.d, h.d, e.d⟩

def ofWords (w : Array UInt64) : Row :=
  ⟨w.getD 0 0, w.getD 1 0, w.getD 2 0, w.getD 3 0, w.getD 4 0, w.getD 5 0, w.getD 6 0,
   w.getD 7 0, w.getD 8 0, w.getD 9 0, w.getD 10 0, w.getD 11 0, w.getD 12 0, w.getD 13 0,
   w.getD 14 0, w.getD 15 0⟩

def words (r : Row) : List UInt64 :=
  [r.w0, r.w1, r.w2, r.w3, r.w4, r.w5, r.w6, r.w7, r.w8, r.w9, r.w10, r.w11, r.w12, r.w13,
   r.w14, r.w15]

end Row

/-- One block of the memory. -/
structure Cell where
  r0 : Row
  r1 : Row
  r2 : Row
  r3 : Row
  r4 : Row
  r5 : Row
  r6 : Row
  r7 : Row

namespace Cell

def zero : Cell :=
  ⟨Row.zero, Row.zero, Row.zero, Row.zero, Row.zero, Row.zero, Row.zero, Row.zero⟩

def xor (x y : Cell) : Cell :=
  ⟨x.r0.xor y.r0, x.r1.xor y.r1, x.r2.xor y.r2, x.r3.xor y.r3,
   x.r4.xor y.r4, x.r5.xor y.r5, x.r6.xor y.r6, x.r7.xor y.r7⟩

/-- Permutes every row of the cell. -/
def permuteRows (x : Cell) : Cell :=
  ⟨x.r0.permute, x.r1.permute, x.r2.permute, x.r3.permute,
   x.r4.permute, x.r5.permute, x.r6.permute, x.r7.permute⟩

/-- The row made of two chosen words of every row. -/
@[inline] def gather (x : Cell) (f g : Row → UInt64) : Row :=
  ⟨f x.r0, g x.r0, f x.r1, g x.r1, f x.r2, g x.r2, f x.r3, g x.r3,
   f x.r4, g x.r4, f x.r5, g x.r5, f x.r6, g x.r6, f x.r7, g x.r7⟩

/-- Rows and columns of the matrix of word pairs change places. -/
def transpose (x : Cell) : Cell :=
  ⟨x.gather Row.w0 Row.w1, x.gather Row.w2 Row.w3, x.gather Row.w4 Row.w5,
   x.gather Row.w6 Row.w7, x.gather Row.w8 Row.w9, x.gather Row.w10 Row.w11,
   x.gather Row.w12 Row.w13, x.gather Row.w14 Row.w15⟩

/-- The compression of two cells. -/
def compress (x y : Cell) : Cell :=
  let r := x.xor y
  r.permuteRows.transpose.permuteRows.transpose.xor r

def ofWords (words : List UInt64) : Cell :=
  let row (i : Nat) := Row.ofWords ((words.drop (16 * i)).take 16).toArray
  ⟨row 0, row 1, row 2, row 3, row 4, row 5, row 6, row 7⟩

def words (x : Cell) : List UInt64 :=
  [x.r0, x.r1, x.r2, x.r3, x.r4, x.r5, x.r6, x.r7].flatMap Row.words

/-- The cell with these bytes. -/
def ofBytes (bytes : Bytes) : Cell := ofWords ((bytes.chunks 8).map Bytes.toUInt64LE)

/-- The cell as bytes, each word lowest byte first. -/
def bytes (x : Cell) : Bytes := x.words.flatMap Bytes.ofUInt64LE

end Cell

end Custody.Crypto.Argon2
