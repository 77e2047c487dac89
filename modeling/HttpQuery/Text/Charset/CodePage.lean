import HttpQuery.Text.Utf8
/-! # Code pages

A code page gives characters to the bytes from 80 on; the bytes below are ASCII. In many pages the
bytes from 80 to 9F are control characters. In the tables a blank is a byte without a character.

* `CodePage.decode`: the characters of some bytes. -/

namespace HttpQuery.Text

/-- **A code page.** -/
inductive CodePage where
  | cp866
  | latin2
  | latin3
  | latin4
  | isoCyrillic
  | isoArabic
  | isoGreek
  | isoHebrew
  | latin6
  | latin7
  | latin8
  | latin9
  | latin10
  | koi8r
  | koi8u
  | macRoman
  | macCyrillic
  | cp874
  | cp1250
  | cp1251
  | cp1252
  | cp1253
  | cp1254
  | cp1255
  | cp1256
  | cp1257
  | cp1258
deriving DecidableEq, Repr

namespace CodePage

/-- The control characters from 80 to 9F. -/
def controls : String := String.ofList ((List.range 32).map fun i => Char.ofNat (0x80 + i))

/-- The characters of the bytes from 80 to 9F. -/
def lower : CodePage → String
  | .cp866 =>
    "АБВГДЕЖЗИЙКЛМНОПРСТУФХЦЧШЩЪЫЬЭЮЯ"
  | .koi8r =>
    "─│┌┐└┘├┤┬┴┼▀▄█▌▐░▒▓⌠■∙√≈≤≥\u00a0⌡°²·÷"
  | .koi8u =>
    "─│┌┐└┘├┤┬┴┼▀▄█▌▐░▒▓⌠■∙√≈≤≥\u00a0⌡°²·÷"
  | .macRoman =>
    "ÄÅÇÉÑÖÜáàâäãåçéèêëíìîïñóòôöõúùûü"
  | .macCyrillic =>
    "АБВГДЕЖЗИЙКЛМНОПРСТУФХЦЧШЩЪЫЬЭЮЯ"
  | .cp874 =>
    "€\u0081\u0082\u0083\u0084…\u0086\u0087\u0088\u0089\u008a\u008b\u008c\u008d\u008e\u008f" ++
      "\u0090‘’“”•–—\u0098\u0099\u009a\u009b\u009c\u009d\u009e\u009f"
  | .cp1250 =>
    "€\u0081‚\u0083„…†‡\u0088‰Š‹ŚŤŽŹ\u0090‘’“”•–—\u0098™š›śťžź"
  | .cp1251 =>
    "ЂЃ‚ѓ„…†‡€‰Љ‹ЊЌЋЏђ‘’“”•–—\u0098™љ›њќћџ"
  | .cp1252 =>
    "€\u0081‚ƒ„…†‡ˆ‰Š‹Œ\u008dŽ\u008f\u0090‘’“”•–—˜™š›œ\u009džŸ"
  | .cp1253 =>
    "€\u0081‚ƒ„…†‡\u0088‰\u008a‹\u008c\u008d\u008e\u008f\u0090‘’“”•–—\u0098™\u009a›\u009c\u009d" ++
      "\u009e\u009f"
  | .cp1254 =>
    "€\u0081‚ƒ„…†‡ˆ‰Š‹Œ\u008d\u008e\u008f\u0090‘’“”•–—˜™š›œ\u009d\u009eŸ"
  | .cp1255 =>
    "€\u0081‚ƒ„…†‡ˆ‰\u008a‹\u008c\u008d\u008e\u008f\u0090‘’“”•–—˜™\u009a›\u009c\u009d\u009e\u009f"
  | .cp1256 =>
    "€\u067e‚ƒ„…†‡ˆ‰\u0679‹Œ\u0686\u0698\u0688\u06af‘’“”•–—\u06a9™\u0691›œ\u200c\u200d\u06ba"
  | .cp1257 =>
    "€\u0081‚\u0083„…†‡\u0088‰\u008a‹\u008c¨ˇ¸\u0090‘’“”•–—\u0098™\u009a›\u009c¯˛\u009f"
  | .cp1258 =>
    "€\u0081‚ƒ„…†‡ˆ‰\u008a‹Œ\u008d\u008e\u008f\u0090‘’“”•–—˜™\u009a›œ\u009d\u009eŸ"
  | _ => controls

/-- The characters of the bytes from A0 on. -/
def upper : CodePage → String
  | .cp866 =>
    "абвгдежзийклмноп░▒▓│┤╡╢╖╕╣║╗╝╜╛┐└┴┬├─┼╞╟╚╔╩╦╠═╬╧╨╤╥╙╘╒╓╫╪┘┌█▄▌▐▀рстуфхцчшщъыьэюяЁёЄєЇїЎў°∙·" ++
      "√№¤■\u00a0"
  | .latin2 =>
    "\u00a0Ą˘Ł¤ĽŚ§¨ŠŞŤŹ\u00adŽŻ°ą˛ł´ľśˇ¸šşťź˝žżŔÁÂĂÄĹĆÇČÉĘËĚÍÎĎĐŃŇÓÔŐÖ×ŘŮÚŰÜÝŢßŕáâăäĺćçčéęëěíîďđ" ++
      "ńňóôőö÷řůúűüýţ˙"
  | .latin3 =>
    "\u00a0Ħ˘£¤ Ĥ§¨İŞĞĴ\u00ad Ż°ħ²³´µĥ·¸ışğĵ½ żÀÁÂ ÄĊĈÇÈÉÊËÌÍÎÏ ÑÒÓÔĠÖ×ĜÙÚÛÜŬŜßàáâ äċĉçèéêëìíîï " ++
      "ñòóôġö÷ĝùúûüŭŝ˙"
  | .latin4 =>
    "\u00a0ĄĸŖ¤ĨĻ§¨ŠĒĢŦ\u00adŽ¯°ą˛ŗ´ĩļˇ¸šēģŧŊžŋĀÁÂÃÄÅÆĮČÉĘËĖÍÎĪĐŅŌĶÔÕÖ×ØŲÚÛÜŨŪßāáâãäåæįčéęëėíîīđ" ++
      "ņōķôõö÷øųúûüũū˙"
  | .isoCyrillic =>
    "\u00a0ЁЂЃЄЅІЇЈЉЊЋЌ\u00adЎЏАБВГДЕЖЗИЙКЛМНОПРСТУФХЦЧШЩЪЫЬЭЮЯабвгдежзийклмнопрстуфхцчшщъыьэюя№" ++
      "ёђѓєѕіїјљњћќ§ўџ"
  | .isoArabic =>
    "\u00a0   ¤       ،\u00ad             \u061b   \u061f \u0621\u0622\u0623\u0624\u0625\u0626" ++
      "\u0627\u0628\u0629\u062a\u062b\u062c\u062d\u062e\u062f\u0630\u0631\u0632\u0633\u0634" ++
      "\u0635\u0636\u0637\u0638\u0639\u063a     \u0640\u0641\u0642\u0643\u0644\u0645\u0646\u0647" ++
      "\u0648\u0649\u064a\u064b\u064c\u064d\u064e\u064f\u0650\u0651\u0652"
  | .isoGreek =>
    "\u00a0‘’£€₯¦§¨©ͺ«¬\u00ad ―°±²³΄΅Ά·ΈΉΊ»Ό½ΎΏΐΑΒΓΔΕΖΗΘΙΚΛΜΝΞΟΠΡ ΣΤΥΦΧΨΩΪΫάέήίΰαβγδεζηθικλμνξοπ" ++
      "ρςστυφχψωϊϋόύώ"
  | .isoHebrew =>
    "\u00a0 ¢£¤¥¦§¨©×«¬\u00ad®¯°±²³´µ¶·¸¹÷»¼½¾                                ‗\u05d0\u05d1" ++
      "\u05d2\u05d3\u05d4\u05d5\u05d6\u05d7\u05d8\u05d9\u05da\u05db\u05dc\u05dd\u05de\u05df" ++
      "\u05e0\u05e1\u05e2\u05e3\u05e4\u05e5\u05e6\u05e7\u05e8\u05e9\u05ea  \u200e\u200f"
  | .latin6 =>
    "\u00a0ĄĒĢĪĨĶ§ĻĐŠŦŽ\u00adŪŊ°ąēģīĩķ·ļđšŧž―ūŋĀÁÂÃÄÅÆĮČÉĘËĖÍÎÏÐŅŌÓÔÕÖŨØŲÚÛÜÝÞßāáâãäåæįčéęëėíîïð" ++
      "ņōóôõöũøųúûüýþĸ"
  | .latin7 =>
    "\u00a0”¢£¤„¦§Ø©Ŗ«¬\u00ad®Æ°±²³“µ¶·ø¹ŗ»¼½¾æĄĮĀĆÄÅĘĒČÉŹĖĢĶĪĻŠŃŅÓŌÕÖ×ŲŁŚŪÜŻŽßąįāćäåęēčéźėģķīļš" ++
      "ńņóōõö÷ųłśūüżž’"
  | .latin8 =>
    "\u00a0Ḃḃ£ĊċḊ§Ẁ©ẂḋỲ\u00ad®ŸḞḟĠġṀṁ¶ṖẁṗẃṠỳẄẅṡÀÁÂÃÄÅÆÇÈÉÊËÌÍÎÏŴÑÒÓÔÕÖṪØÙÚÛÜÝŶßàáâãäåæçèéêëìíîïŵ" ++
      "ñòóôõöṫøùúûüýŷÿ"
  | .latin9 =>
    "\u00a0¡¢£€¥Š§š©ª«¬\u00ad®¯°±²³Žµ¶·ž¹º»ŒœŸ¿ÀÁÂÃÄÅÆÇÈÉÊËÌÍÎÏÐÑÒÓÔÕÖ×ØÙÚÛÜÝÞßàáâãäåæçèéêëìíîïð" ++
      "ñòóôõö÷øùúûüýþÿ"
  | .latin10 =>
    "\u00a0ĄąŁ€„Š§š©Ș«Ź\u00adźŻ°±ČłŽ”¶·žčș»ŒœŸżÀÁÂĂÄĆÆÇÈÉÊËÌÍÎÏĐŃÒÓÔŐÖŚŰÙÚÛÜĘȚßàáâăäćæçèéêëìíîïđ" ++
      "ńòóôőöśűùúûüęțÿ"
  | .koi8r =>
    "═║╒ё╓╔╕╖╗╘╙╚╛╜╝╞╟╠╡Ё╢╣╤╥╦╧╨╩╪╫╬©юабцдефгхийклмнопярстужвьызшэщчъЮАБЦДЕФГХИЙКЛМНОПЯРСТУЖВЬЫЗ" ++
      "ШЭЩЧЪ"
  | .koi8u =>
    "═║╒ёє╔ії╗╘╙╚╛ґў╞╟╠╡ЁЄ╣ІЇ╦╧╨╩╪ҐЎ©юабцдефгхийклмнопярстужвьызшэщчъЮАБЦДЕФГХИЙКЛМНОПЯРСТУЖВЬЫЗ" ++
      "ШЭЩЧЪ"
  | .macRoman =>
    "†°¢£§•¶ß®©™´¨≠ÆØ∞±≤≥¥µ∂∑∏π∫ªºΩæø¿¡¬√ƒ≈∆«»…\u00a0ÀÃÕŒœ–—“”‘’÷◊ÿŸ⁄€‹›ﬁﬂ‡·‚„‰ÂÊÁËÈÍÎÏÌÓÔ\uf8ff" ++
      "ÒÚÛÙıˆ˜¯˘˙˚¸˝˛ˇ"
  | .macCyrillic =>
    "†°Ґ£§•¶І®©™Ђђ≠Ѓѓ∞±≤≥іµґЈЄєЇїЉљЊњјЅ¬√ƒ≈∆«»…\u00a0ЋћЌќѕ–—“”‘’÷„ЎўЏџ№Ёёяабвгдежзийклмнопрстуфх" ++
      "цчшщъыьэю€"
  | .cp874 =>
    "\u00a0กขฃคฅฆงจฉชซฌญฎฏฐฑฒณดตถทธนบปผฝพฟภมยรฤลฦวศษสหฬอฮฯะ\u0e31าำ\u0e34\u0e35\u0e36\u0e37" ++
      "\u0e38\u0e39\u0e3a    ฿เแโใไๅๆ\u0e47\u0e48\u0e49\u0e4a\u0e4b\u0e4c\u0e4d\u0e4e๏๐๑๒๓๔๕๖๗๘๙๚๛"
  | .cp1250 =>
    "\u00a0ˇ˘Ł¤Ą¦§¨©Ş«¬\u00ad®Ż°±˛ł´µ¶·¸ąş»Ľ˝ľżŔÁÂĂÄĹĆÇČÉĘËĚÍÎĎĐŃŇÓÔŐÖ×ŘŮÚŰÜÝŢßŕáâăäĺćçčéęëěíîďđ" ++
      "ńňóôőö÷řůúűüýţ˙"
  | .cp1251 =>
    "\u00a0ЎўЈ¤Ґ¦§Ё©Є«¬\u00ad®Ї°±Ііґµ¶·ё№є»јЅѕїАБВГДЕЖЗИЙКЛМНОПРСТУФХЦЧШЩЪЫЬЭЮЯабвгдежзийклмнопр" ++
      "стуфхцчшщъыьэюя"
  | .cp1252 =>
    "\u00a0¡¢£¤¥¦§¨©ª«¬\u00ad®¯°±²³´µ¶·¸¹º»¼½¾¿ÀÁÂÃÄÅÆÇÈÉÊËÌÍÎÏÐÑÒÓÔÕÖ×ØÙÚÛÜÝÞßàáâãäåæçèéêëìíîïð" ++
      "ñòóôõö÷øùúûüýþÿ"
  | .cp1253 =>
    "\u00a0΅Ά£¤¥¦§¨© «¬\u00ad®―°±²³΄µ¶·ΈΉΊ»Ό½ΎΏΐΑΒΓΔΕΖΗΘΙΚΛΜΝΞΟΠΡ ΣΤΥΦΧΨΩΪΫάέήίΰαβγδεζηθικλμνξοπ" ++
      "ρςστυφχψωϊϋόύώ"
  | .cp1254 =>
    "\u00a0¡¢£¤¥¦§¨©ª«¬\u00ad®¯°±²³´µ¶·¸¹º»¼½¾¿ÀÁÂÃÄÅÆÇÈÉÊËÌÍÎÏĞÑÒÓÔÕÖ×ØÙÚÛÜİŞßàáâãäåæçèéêëìíîïğ" ++
      "ñòóôõö÷øùúûüışÿ"
  | .cp1255 =>
    "\u00a0¡¢£₪¥¦§¨©×«¬\u00ad®¯°±²³´µ¶·¸¹÷»¼½¾¿\u05b0\u05b1\u05b2\u05b3\u05b4\u05b5\u05b6\u05b7" ++
      "\u05b8\u05b9\u05ba\u05bb\u05bc\u05bd\u05be\u05bf\u05c0\u05c1\u05c2\u05c3\u05f0\u05f1" ++
      "\u05f2\u05f3\u05f4       \u05d0\u05d1\u05d2\u05d3\u05d4\u05d5\u05d6\u05d7\u05d8\u05d9" ++
      "\u05da\u05db\u05dc\u05dd\u05de\u05df\u05e0\u05e1\u05e2\u05e3\u05e4\u05e5\u05e6\u05e7" ++
      "\u05e8\u05e9\u05ea  \u200e\u200f"
  | .cp1256 =>
    "\u00a0،¢£¤¥¦§¨©\u06be«¬\u00ad®¯°±²³´µ¶·¸¹\u061b»¼½¾\u061f\u06c1\u0621\u0622\u0623\u0624" ++
      "\u0625\u0626\u0627\u0628\u0629\u062a\u062b\u062c\u062d\u062e\u062f\u0630\u0631\u0632" ++
      "\u0633\u0634\u0635\u0636×\u0637\u0638\u0639\u063a\u0640\u0641\u0642\u0643à\u0644â\u0645" ++
      "\u0646\u0647\u0648çèéêë\u0649\u064aîï\u064b\u064c\u064d\u064eô\u064f\u0650÷\u0651ù\u0652û" ++
      "ü\u200e\u200f\u06d2"
  | .cp1257 =>
    "\u00a0 ¢£¤ ¦§Ø©Ŗ«¬\u00ad®Æ°±²³´µ¶·ø¹ŗ»¼½¾æĄĮĀĆÄÅĘĒČÉŹĖĢĶĪĻŠŃŅÓŌÕÖ×ŲŁŚŪÜŻŽßąįāćäåęēčéźėģķīļš" ++
      "ńņóōõö÷ųłśūüżž˙"
  | .cp1258 =>
    "\u00a0¡¢£¤¥¦§¨©ª«¬\u00ad®¯°±²³´µ¶·¸¹º»¼½¾¿ÀÁÂĂÄÅÆÇÈÉÊË\u0300ÍÎÏĐÑ\u0309ÓÔƠÖ×ØÙÚÛÜƯ\u0303ßàá" ++
      "âăäåæçèéêë\u0301íîïđñ\u0323óôơö÷øùúûüư₫ÿ"

/-- The characters of a page from 80 on. -/
def characters (page : CodePage) : Array Char := (page.lower.toList ++ page.upper.toList).toArray

/-- The character of a byte by the characters of a page from 80 on. -/
def charOf (characters : Array Char) (b : UInt8) : Char :=
  if b < 0x80 then Char.ofNat b.toNat
  else match characters[b.toNat - 0x80]? with
    | some c => if c = ' ' then faultMark else c
    | none => faultMark

/-- **The characters of some bytes.** -/
def decode (page : CodePage) (bytes : Bytes) : List Char := bytes.map (charOf page.characters)

end CodePage

end HttpQuery.Text
