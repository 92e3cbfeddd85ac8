import CloudTemplate.Text.Ascii

/-!
# SHA-256

The fingerprints of graphs and templates are SHA-256 digests of their canonical texts, written as
hexadecimal digits.  The message is padded with a one bit, zeros and its length to whole blocks of
sixteen words; each block is spread over sixty-four rounds, and the registers of the last round are
added to those before the block.
-/

namespace CloudTemplate

namespace Sha256

/-- The eight working registers. -/
structure Registers where
  a : UInt32
  b : UInt32
  c : UInt32
  d : UInt32
  e : UInt32
  f : UInt32
  g : UInt32
  h : UInt32

/-- The registers before the first block: the fractional parts of the square roots of the first
eight primes. -/
def initial : Registers :=
  ⟨0x6A09E667, 0xBB67AE85, 0x3C6EF372, 0xA54FF53A,
    0x510E527F, 0x9B05688C, 0x1F83D9AB, 0x5BE0CD19⟩

/-- The words of the rounds: the fractional parts of the cube roots of the first 64 primes. -/
def roundWords : List UInt32 :=
  [0x428A2F98, 0x71374491, 0xB5C0FBCF, 0xE9B5DBA5, 0x3956C25B, 0x59F111F1, 0x923F82A4, 0xAB1C5ED5,
    0xD807AA98, 0x12835B01, 0x243185BE, 0x550C7DC3, 0x72BE5D74, 0x80DEB1FE, 0x9BDC06A7,
    0xC19BF174, 0xE49B69C1, 0xEFBE4786, 0x0FC19DC6, 0x240CA1CC, 0x2DE92C6F, 0x4A7484AA,
    0x5CB0A9DC, 0x76F988DA, 0x983E5152, 0xA831C66D, 0xB00327C8, 0xBF597FC7, 0xC6E00BF3,
    0xD5A79147, 0x06CA6351, 0x14292967, 0x27B70A85, 0x2E1B2138, 0x4D2C6DFC, 0x53380D13,
    0x650A7354, 0x766A0ABB, 0x81C2C92E, 0x92722C85, 0xA2BFE8A1, 0xA81A664B, 0xC24B8B70,
    0xC76C51A3, 0xD192E819, 0xD6990624, 0xF40E3585, 0x106AA070, 0x19A4C116, 0x1E376C08,
    0x2748774C, 0x34B0BCB5, 0x391C0CB3, 0x4ED8AA4A, 0x5B9CCA4F, 0x682E6FF3, 0x748F82EE,
    0x78A5636F, 0x84C87814, 0x8CC70208, 0x90BEFFFA, 0xA4506CEB, 0xBEF9A3F7, 0xC67178F2]

/-- A word with its bits turned to the right by less than 32 places. -/
def turn (x places : UInt32) : UInt32 := (x >>> places) ||| (x <<< (32 - places))

/-- The bytes of a natural number, the most significant first. -/
def bigEndian (width n : Nat) : List UInt8 :=
  (List.range width).reverse.map fun place => UInt8.ofNat (n >>> (8 * place))

/-- A message with its padding, a whole number of blocks of 64 bytes. -/
def padded (message : List UInt8) : List UInt8 :=
  let zeros := (119 - message.length % 64) % 64
  message ++ 0x80 :: List.replicate zeros 0 ++ bigEndian 8 (8 * message.length)

/-- Bytes joined to words of four; a rest of fewer bytes is dropped. -/
def words : List UInt8 → List UInt32
  | a :: b :: c :: d :: rest =>
    ((a.toUInt32 <<< 24) ||| (b.toUInt32 <<< 16) ||| (c.toUInt32 <<< 8) ||| d.toUInt32) ::
      words rest
  | _ => []

/-- Words joined to blocks of sixteen. -/
def blocks (ws : List UInt32) : List (List UInt32) :=
  (List.range (ws.length / 16)).map fun i => (ws.drop (16 * i)).take 16

/-- The next word of a schedule, from the words before it. -/
def nextWord (schedule : Array UInt32) : UInt32 :=
  let back (distance : Nat) : UInt32 := schedule.getD (schedule.size - distance) 0
  let x := back 15
  let y := back 2
  back 16 + (turn x 7 ^^^ turn x 18 ^^^ (x >>> 3)) + back 7 +
    (turn y 17 ^^^ turn y 19 ^^^ (y >>> 10))

/-- The sixty-four words of the rounds of a block. -/
def schedule (block : List UInt32) : List UInt32 :=
  ((List.range 48).foldl (fun ws _ => ws.push (nextWord ws)) block.toArray).toList

/-- One round, with its word and the word of the schedule. -/
def round (r : Registers) (word : UInt32 × UInt32) : Registers :=
  let choice := (r.e &&& r.f) ^^^ (~~~r.e &&& r.g)
  let majority := (r.a &&& r.b) ^^^ (r.a &&& r.c) ^^^ (r.b &&& r.c)
  let first := r.h + (turn r.e 6 ^^^ turn r.e 11 ^^^ turn r.e 25) + choice + word.1 + word.2
  let second := (turn r.a 2 ^^^ turn r.a 13 ^^^ turn r.a 22) + majority
  ⟨first + second, r.a, r.b, r.c, r.d + first, r.e, r.f, r.g⟩

/-- The registers after a block. -/
def absorb (r : Registers) (block : List UInt32) : Registers :=
  let s := (roundWords.zip (schedule block)).foldl round r
  ⟨r.a + s.a, r.b + s.b, r.c + s.c, r.d + s.d, r.e + s.e, r.f + s.f, r.g + s.g, r.h + s.h⟩

/-- The digest of a message, as eight words. -/
def digest (message : List UInt8) : List UInt32 :=
  let r := (blocks (words (padded message))).foldl absorb initial
  [r.a, r.b, r.c, r.d, r.e, r.f, r.g, r.h]

/-- A word as eight hexadecimal digits. -/
def hexWord (w : UInt32) : List Char :=
  let ds := hexDigits w.toNat
  List.replicate (8 - ds.length) '0' ++ ds

end Sha256

/-- The SHA-256 digest of a message, as hexadecimal digits. -/
def sha256 (message : List UInt8) : String :=
  String.ofList ((Sha256.digest message).flatMap Sha256.hexWord)

/-- The SHA-256 digest of the UTF-8 bytes of a text. -/
def sha256OfText (text : String) : String := sha256 text.toUTF8.toList

end CloudTemplate
