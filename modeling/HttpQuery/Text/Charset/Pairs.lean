import HttpQuery.Text.Charset.Big5
import HttpQuery.Text.Charset.Gb2312
import HttpQuery.Text.Charset.JisX0208
import HttpQuery.Text.Charset.JisX0212
import HttpQuery.Text.Charset.KsX1001
import HttpQuery.Text.Utf8
/-! # Charsets of two bytes

In the East Asian charsets ASCII characters take one byte and most others two, of which the first is
not ASCII. A pair without a character is a fault, and if its second byte is ASCII, this byte is read
again. Two charsets have longer forms too: of three bytes, or of four bytes, which are counted
through all characters that have no pair.

* `decodePairs`: the characters of bytes in a charset that has pairs only.
* `decodeEucJp`, `decodeGb`: the characters of bytes in the charsets with longer forms. -/

namespace HttpQuery.Text

/-- The character in a row and a column of a table, if there is one; both count from zero. -/
def cell? (rows : Array String) (row column : Nat) : Option Char :=
  (rows[row]?.bind fun text => text.toList[column]?).filter (· ≠ ' ')

/-- Whether a byte is an ASCII character. -/
def isAsciiByte (b : UInt8) : Bool := b < 0x80

/-- Whether a byte lies between two others. -/
def isWithin (first last b : UInt8) : Bool := first ≤ b && b ≤ last

/-- **A charset that has pairs only.** -/
structure PairCharset where
  /-- The characters of single bytes that are not ASCII. -/
  single : UInt8 → Option Char
  isLead : UInt8 → Bool
  /-- The characters of a pair; nearly always one. -/
  pair : UInt8 → UInt8 → Option (List Char)

/-- **The characters of bytes in a charset that has pairs only.** -/
def decodePairs (charset : PairCharset) : Bytes → List Char
  | [] => []
  | b :: rest =>
    if isAsciiByte b then Char.ofNat b.toNat :: decodePairs charset rest
    else match charset.single b with
      | some c => c :: decodePairs charset rest
      | none =>
        if charset.isLead b then
          match rest with
          | [] => [faultMark]
          | second :: more =>
            match charset.pair b second with
            | some cs => cs ++ decodePairs charset more
            | none =>
              faultMark :: (if isAsciiByte second then decodePairs charset (second :: more)
                else decodePairs charset more)
        else faultMark :: decodePairs charset rest

/-! ### Big5 -/

/-- The table of Big5 for low second bytes. -/
def big5LowTable : Array String := big5Low.toArray

/-- The table of Big5 for high second bytes. -/
def big5HighTable : Array String := big5High.toArray

/-- The pairs that stand for a letter and a mark over it. -/
def big5Marked : List ((UInt8 × UInt8) × List Char) :=
  [((0x88, 0x62), ['\u00CA', '\u0304']), ((0x88, 0x64), ['\u00CA', '\u030C']),
   ((0x88, 0xA3), ['\u00EA', '\u0304']), ((0x88, 0xA5), ['\u00EA', '\u030C'])]

/-- The characters of a pair in Big5. -/
def big5Pair (first second : UInt8) : Option (List Char) :=
  match big5Marked.lookup (first, second) with
  | some cs => some cs
  | none =>
    if first < 0x87 then none
    else if isWithin 0x40 0x7E second then
      (cell? big5LowTable (first.toNat - 0x87) (second.toNat - 0x40)).map ([·])
    else if isWithin 0xA1 0xFE second then
      (cell? big5HighTable (first.toNat - 0x87) (second.toNat - 0xA1)).map ([·])
    else none

/-- **Big5.** -/
def big5 : PairCharset where
  single _ := none
  isLead := isWithin 0x81 0xFE
  pair := big5Pair

/-! ### Korean -/

/-- The table of KS X 1001. -/
def ksTable : Array String := ksX1001.toArray

/-- The syllables that KS X 1001 lacks, in order. -/
def furtherSyllables : Array Char :=
  let known := ksX1001.foldl
    (fun set row => row.toList.foldl (fun set c => set.set! c.toNat true) set)
    (Array.replicate 0x10000 false)
  ((List.range 11172).filterMap fun i =>
    if known[0xAC00 + i]?.getD false then none else some (Char.ofNat (0xAC00 + i))).toArray

/-- The column of a second byte among letters and high bytes. -/
def letterColumn? (second : UInt8) : Option Nat :=
  if isWithin 0x41 0x5A second then some (second.toNat - 0x41)
  else if isWithin 0x61 0x7A second then some (second.toNat - 0x61 + 26)
  else if isWithin 0x81 0xFE second then some (second.toNat - 0x81 + 52)
  else none

/-- The character of a pair in the Korean charset: two high bytes stand for a place in KS X 1001,
and the pairs before it count through the other syllables. -/
def koreanPair (first second : UInt8) : Option (List Char) := do
  if 0xA1 ≤ first ∧ 0xA1 ≤ second then
    (cell? ksTable (first.toNat - 0xA1) (second.toNat - 0xA1)).map ([·])
  else
    let column ← letterColumn? second
    let place :=
      if first < 0xA1 then (first.toNat - 0x81) * 178 + column
      else 32 * 178 + (first.toNat - 0xA1) * 84 + column
    furtherSyllables[place]?.map ([·])

/-- **The Korean charset.** -/
def korean : PairCharset where
  single _ := none
  isLead := isWithin 0x81 0xFE
  pair := koreanPair

/-! ### Japanese -/

/-- The table of JIS X 0208. -/
def jisTable : Array String := jisX0208.toArray

/-- The table of JIS X 0212. -/
def jisFurtherTable : Array String := jisX0212.toArray

/-- The character of a byte of half-width kana. -/
def halfWidthKana (b : UInt8) : Char := Char.ofNat (0xFF61 + (b.toNat - 0xA1))

/-- The character of a pair in the shifted Japanese charset: pairs count through the table, two rows
for each first byte; some rows are for private use. -/
def shiftedPair (first second : UInt8) : Option (List Char) :=
  if isWithin 0x40 0x7E second || isWithin 0x80 0xFC second then
    let column := second.toNat - (if second < 0x7F then 0x40 else 0x41)
    let place := (first.toNat - (if first < 0xA0 then 0x81 else 0xC1)) * 188 + column
    if 8836 ≤ place ∧ place ≤ 10715 then some [Char.ofNat (0xE000 + (place - 8836))]
    else (cell? jisTable (place / 94) (place % 94)).map ([·])
  else none

/-- **The shifted Japanese charset.** -/
def shiftedJapanese : PairCharset where
  single b :=
    if b = 0x80 then some '\u0080'
    else if isWithin 0xA1 0xDF b then some (halfWidthKana b)
    else none
  isLead b := isWithin 0x81 0x9F b || isWithin 0xE0 0xFC b
  pair := shiftedPair

/-- Whether a byte is one of a place in a table of 94 rows. -/
def isPlaceByte (b : UInt8) : Bool := isWithin 0xA1 0xFE b

/-- The character in the place of two bytes. -/
def placed? (table : Array String) (first second : UInt8) : Option Char :=
  cell? table (first.toNat - 0xA1) (second.toNat - 0xA1)

/-- **The characters of bytes in the extended Japanese charset.** After 8E comes a kana, and after
8F a place in JIS X 0212. -/
def decodeEucJp : Bytes → List Char
  | [] => []
  | b :: rest =>
    if isAsciiByte b then Char.ofNat b.toNat :: decodeEucJp rest
    else if b = 0x8E || b = 0x8F || isPlaceByte b then
      match rest with
      | [] => [faultMark]
      | second :: more =>
        if b = 0x8E && isWithin 0xA1 0xDF second then halfWidthKana second :: decodeEucJp more
        else if b = 0x8F && isPlaceByte second then
          match more with
          | [] => [faultMark]
          | third :: further =>
            if isPlaceByte third then
              (placed? jisFurtherTable second third).getD faultMark :: decodeEucJp further
            else
              faultMark :: (if isAsciiByte third then decodeEucJp (third :: further)
                else decodeEucJp further)
        else if isPlaceByte b && isPlaceByte second then
          (placed? jisTable b second).getD faultMark :: decodeEucJp more
        else
          faultMark :: (if isAsciiByte second then decodeEucJp (second :: more)
            else decodeEucJp more)
    else faultMark :: decodeEucJp rest

/-! ### Chinese -/

/-- The table of GB 2312. -/
def gbTable : Array String := gb2312.toArray

/-- The table of the further signs. -/
def gbSignTable : Array String := gbSigns.toArray

/-- The ideographs from 4E00 to 9FA5 that GB 2312 lacks, in order, and the last characters. -/
def furtherIdeographs : Array Char :=
  let known := gb2312.foldl
    (fun set row => row.toList.foldl (fun set c => set.set! c.toNat true) set)
    (Array.replicate 0x10000 false)
  ((List.range 20902).filterMap fun i =>
    if known[0x4E00 + i]?.getD false then none else some (Char.ofNat (0x4E00 + i))).toArray ++
    gbLast.toList.toArray

/-- The character of a pair in the Chinese charset. Two high bytes stand for a place in GB 2312. The
other pairs count through further ideographs: all pairs with a first byte before the table, and then
those with a second byte before it. What is left is for further signs and for private use. -/
def gbPair? (first second : UInt8) : Option Char :=
  let lead := first.toNat
  if isWithin 0xA1 0xFE second && 0xA1 ≤ first then
    let column := second.toNat - 0xA1
    if isWithin 0xAA 0xAF first then some (Char.ofNat (0xE000 + (lead - 0xAA) * 94 + column))
    else if 0xF8 ≤ first then some (Char.ofNat (0xE234 + (lead - 0xF8) * 94 + column))
    else cell? gbTable (lead - 0xA1) column
  else if isWithin 0x40 0x7E second || isWithin 0x80 0xFE second then
    let column := second.toNat - (if second < 0x7F then 0x40 else 0x41)
    if first < 0xA1 then furtherIdeographs[(lead - 0x81) * 190 + column]?
    else if 0xAA ≤ first then furtherIdeographs[32 * 190 + (lead - 0xAA) * 96 + column]?
    else if 0xA8 ≤ first then cell? gbSignTable (lead - 0xA8) column
    else if first = 0xA3 ∧ second = 0xA0 then some '\u3000'
    else some (Char.ofNat (0xE4C6 + (lead - 0xA1) * 96 + column))
  else none

/-- Where runs of characters begin that have no pair: the count of such characters before the run,
and its first character. -/
def gbRuns : List (Nat × Nat) :=
  [(0, 0x80), (36, 0xA5), (38, 0xA9), (45, 0xB2), (50, 0xB8), (81, 0xD8), (89, 0xE2), (95, 0xEB),
   (96, 0xEE), (100, 0xF4), (103, 0xF8), (104, 0xFB), (105, 0xFD), (109, 0x102), (126, 0x114),
   (133, 0x11C), (148, 0x12C), (172, 0x145), (175, 0x149), (179, 0x14E), (208, 0x16C), (306, 0x1CF),
   (307, 0x1D1), (308, 0x1D3), (309, 0x1D5), (310, 0x1D7), (311, 0x1D9), (312, 0x1DB), (313, 0x1DD),
   (341, 0x1FA), (428, 0x252), (443, 0x262), (544, 0x2C8), (545, 0x2CC), (558, 0x2DA), (741, 0x3A2),
   (742, 0x3AA), (749, 0x3C2), (750, 0x3CA), (805, 0x402), (819, 0x450), (820, 0x452),
   (7922, 0x2011), (7924, 0x2017), (7925, 0x201A), (7927, 0x201E), (7934, 0x2027), (7943, 0x2031),
   (7944, 0x2034), (7945, 0x2036), (7950, 0x203C), (8062, 0x20AD), (8148, 0x2104), (8149, 0x2106),
   (8152, 0x210A), (8164, 0x2117), (8174, 0x2122), (8236, 0x216C), (8240, 0x217A), (8262, 0x2194),
   (8264, 0x219A), (8374, 0x2209), (8380, 0x2210), (8381, 0x2212), (8384, 0x2216), (8388, 0x221B),
   (8390, 0x2221), (8392, 0x2224), (8393, 0x2226), (8394, 0x222C), (8396, 0x222F), (8401, 0x2238),
   (8406, 0x223E), (8416, 0x2249), (8419, 0x224D), (8424, 0x2253), (8437, 0x2262), (8439, 0x2268),
   (8445, 0x2270), (8482, 0x2296), (8485, 0x229A), (8496, 0x22A6), (8521, 0x22C0), (8603, 0x2313),
   (8936, 0x246A), (8946, 0x249C), (9046, 0x254C), (9050, 0x2574), (9063, 0x2590), (9066, 0x2596),
   (9076, 0x25A2), (9092, 0x25B4), (9100, 0x25BE), (9108, 0x25C8), (9111, 0x25CC), (9113, 0x25D0),
   (9131, 0x25E6), (9162, 0x2607), (9164, 0x260A), (9218, 0x2641), (9219, 0x2643), (11329, 0x2E82),
   (11331, 0x2E85), (11334, 0x2E89), (11336, 0x2E8D), (11346, 0x2E98), (11361, 0x2EA8),
   (11363, 0x2EAB), (11366, 0x2EAF), (11370, 0x2EB4), (11372, 0x2EB8), (11375, 0x2EBC),
   (11389, 0x2ECB), (11682, 0x2FFC), (11686, 0x3004), (11687, 0x3018), (11692, 0x301F),
   (11694, 0x302A), (11714, 0x303F), (11716, 0x3094), (11723, 0x309F), (11725, 0x30F7),
   (11730, 0x30FF), (11736, 0x312A), (11982, 0x322A), (11989, 0x3232), (12102, 0x32A4),
   (12336, 0x3390), (12348, 0x339F), (12350, 0x33A2), (12384, 0x33C5), (12393, 0x33CF),
   (12395, 0x33D3), (12397, 0x33D6), (12510, 0x3448), (12553, 0x3474), (12851, 0x359F),
   (12962, 0x360F), (12973, 0x361B), (13738, 0x3919), (13823, 0x396F), (13919, 0x39D1),
   (13933, 0x39E0), (14080, 0x3A74), (14298, 0x3B4F), (14585, 0x3C6F), (14698, 0x3CE1),
   (15583, 0x4057), (15847, 0x4160), (16318, 0x4338), (16434, 0x43AD), (16438, 0x43B2),
   (16481, 0x43DE), (16729, 0x44D7), (17102, 0x464D), (17122, 0x4662), (17315, 0x4724),
   (17320, 0x472A), (17402, 0x477D), (17418, 0x478E), (17859, 0x4948), (17909, 0x497B),
   (17911, 0x497E), (17915, 0x4984), (17916, 0x4987), (17936, 0x499C), (17939, 0x49A0),
   (17961, 0x49B8), (18664, 0x4C78), (18703, 0x4CA4), (18814, 0x4D1A), (18962, 0x4DAF),
   (19043, 0x9FA6), (33469, 0xE76C), (33470, 0xE7C8), (33471, 0xE7E7), (33484, 0xE815),
   (33485, 0xE819), (33490, 0xE81F), (33497, 0xE827), (33501, 0xE82D), (33505, 0xE833),
   (33513, 0xE83C), (33520, 0xE844), (33536, 0xE856), (33550, 0xE865), (37845, 0xF92D),
   (37921, 0xF97A), (37948, 0xF996), (38029, 0xF9E8), (38038, 0xF9F2), (38064, 0xFA10),
   (38065, 0xFA12), (38066, 0xFA15), (38069, 0xFA19), (38075, 0xFA22), (38076, 0xFA25),
   (38078, 0xFA2A), (39108, 0xFE32), (39109, 0xFE45), (39113, 0xFE53), (39114, 0xFE58),
   (39115, 0xFE67), (39116, 0xFE6C), (39265, 0xFF5F), (39394, 0xFFE6), (189000, 0x10000)]

/-- The character that is the one of a number among those that have no pair. -/
def gbCounted? (n : Nat) : Option Char :=
  if (39419 < n ∧ n < 189000) ∨ 1237575 < n then none
  else if n = 7457 then some '\uE7C7'
  else
    let (before, first) := (gbRuns.takeWhile fun run => run.1 ≤ n).getLast?.getD (0, 0x80)
    some (Char.ofNat (first + (n - before)))

/-- The number of a form of four bytes. -/
def fourByteNumber (a b c d : UInt8) : Nat :=
  (((a.toNat - 0x81) * 10 + (b.toNat - 0x30)) * 126 + (c.toNat - 0x81)) * 10 + (d.toNat - 0x30)

/-- Whether a byte is an ASCII digit. -/
def isDigitByte (b : UInt8) : Bool := isWithin 0x30 0x39 b

/-- **The characters of bytes in the Chinese charset.** A digit after the first byte opens a form of
four bytes; where the form breaks off, all bytes but the first are read again. -/
def decodeGb : Bytes → List Char
  | [] => []
  | b :: rest =>
    if isAsciiByte b then Char.ofNat b.toNat :: decodeGb rest
    else if b = 0x80 then '\u20AC' :: decodeGb rest
    else if b = 0xFF then faultMark :: decodeGb rest
    else
      match rest with
      | [] => [faultMark]
      | second :: more =>
        if isDigitByte second then
          match more with
          | [] => [faultMark]
          | [third] =>
            if isWithin 0x81 0xFE third then [faultMark]
            else faultMark :: decodeGb (second :: [third])
          | third :: fourth :: further =>
            if isWithin 0x81 0xFE third && isDigitByte fourth then
              (gbCounted? (fourByteNumber b second third fourth)).getD faultMark ::
                decodeGb further
            else faultMark :: decodeGb (second :: third :: fourth :: further)
        else match gbPair? b second with
          | some c => c :: decodeGb more
          | none =>
            faultMark :: (if isAsciiByte second then decodeGb (second :: more) else decodeGb more)

end HttpQuery.Text
