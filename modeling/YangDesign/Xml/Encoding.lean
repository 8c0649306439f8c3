/-
Encodings of one byte for each character, and the names that documents give them.

The lower half of every encoding is ASCII, so a table holds the upper half only; the replacement character stands for a byte
without a character. Encodings with longer characters are read as far as a text is ASCII.
-/

namespace YangDesign.Xml

/-- names of encodings with the characters from byte 160 on; the bytes before are the control characters of the same numbers -/
def latinTables : List (List String × String) := [
  (["iso-8859-2", "iso_8859-2", "iso8859-2", "latin2", "l2"],
    "\xa0Ą˘Ł¤ĽŚ§¨ŠŞŤŹ\xadŽŻ°ą˛ł´ľśˇ¸šşťź˝žżŔÁÂĂÄĹĆÇČÉĘËĚÍÎĎĐŃŇÓÔŐÖ×ŘŮÚŰÜÝŢßŕáâăäĺćçčéęëěíîďđńňóôőö÷řůúűüý" ++
      "ţ˙"),
  (["iso-8859-3", "iso_8859-3", "iso8859-3", "latin3", "l3"],
    "\xa0Ħ˘£¤\ufffdĤ§¨İŞĞĴ\xad\ufffdŻ°ħ²³´µĥ·¸ışğĵ½\ufffdżÀÁÂ\ufffdÄĊĈÇÈÉÊËÌÍÎÏ\ufffdÑÒÓÔĠÖ×ĜÙÚÛÜŬŜßàáâ" ++
      "\ufffdäċĉçèéêëìíîï\ufffdñòóôġö÷ĝùúûüŭŝ˙"),
  (["iso-8859-4", "iso_8859-4", "iso8859-4", "latin4", "l4"],
    "\xa0ĄĸŖ¤ĨĻ§¨ŠĒĢŦ\xadŽ¯°ą˛ŗ´ĩļˇ¸šēģŧŊžŋĀÁÂÃÄÅÆĮČÉĘËĖÍÎĪĐŅŌĶÔÕÖ×ØŲÚÛÜŨŪßāáâãäåæįčéęëėíîīđņōķôõö÷øųúûüũ" ++
      "ū˙"),
  (["iso-8859-5", "iso_8859-5", "iso8859-5", "cyrillic"],
    "\xa0ЁЂЃЄЅІЇЈЉЊЋЌ\xadЎЏАБВГДЕЖЗИЙКЛМНОПРСТУФХЦЧШЩЪЫЬЭЮЯабвгдежзийклмнопрстуфхцчшщъыьэюя№ёђѓєѕіїјљњћќ§" ++
      "ўџ"),
  (["iso-8859-6", "iso_8859-6", "iso8859-6", "arabic", "ecma-114", "asmo-708"],
    "\xa0\ufffd\ufffd\ufffd¤\ufffd\ufffd\ufffd\ufffd\ufffd\ufffd\ufffd،\xad\ufffd\ufffd\ufffd\ufffd\ufffd" ++
      "\ufffd\ufffd\ufffd\ufffd\ufffd\ufffd\ufffd\ufffd\u061b\ufffd\ufffd\ufffd\u061f\ufffd\u0621\u0622" ++
      "\u0623\u0624\u0625\u0626\u0627\u0628\u0629\u062a\u062b\u062c\u062d\u062e\u062f\u0630\u0631\u0632" ++
      "\u0633\u0634\u0635\u0636\u0637\u0638\u0639\u063a\ufffd\ufffd\ufffd\ufffd\ufffd\u0640\u0641\u0642" ++
      "\u0643\u0644\u0645\u0646\u0647\u0648\u0649\u064a\u064b\u064c\u064d\u064e\u064f\u0650\u0651\u0652" ++
      "\ufffd\ufffd\ufffd\ufffd\ufffd\ufffd\ufffd\ufffd\ufffd\ufffd\ufffd\ufffd\ufffd"),
  (["iso-8859-7", "iso_8859-7", "iso8859-7", "greek", "greek8", "ecma-118", "elot_928"],
    "\xa0‘’£€₯¦§¨©ͺ«¬\xad\ufffd―°±²³΄΅Ά·ΈΉΊ»Ό½ΎΏΐΑΒΓΔΕΖΗΘΙΚΛΜΝΞΟΠΡ\ufffdΣΤΥΦΧΨΩΪΫάέήίΰαβγδεζηθικλμνξοπρςσ" ++
      "τυφχψωϊϋόύώ\ufffd"),
  (["iso-8859-8", "iso_8859-8", "iso8859-8", "hebrew"],
    "\xa0\ufffd¢£¤¥¦§¨©×«¬\xad®¯°±²³´µ¶·¸¹÷»¼½¾\ufffd\ufffd\ufffd\ufffd\ufffd\ufffd\ufffd\ufffd\ufffd" ++
      "\ufffd\ufffd\ufffd\ufffd\ufffd\ufffd\ufffd\ufffd\ufffd\ufffd\ufffd\ufffd\ufffd\ufffd\ufffd\ufffd" ++
      "\ufffd\ufffd\ufffd\ufffd\ufffd\ufffd\ufffd‗\u05d0\u05d1\u05d2\u05d3\u05d4\u05d5\u05d6\u05d7\u05d8" ++
      "\u05d9\u05da\u05db\u05dc\u05dd\u05de\u05df\u05e0\u05e1\u05e2\u05e3\u05e4\u05e5\u05e6\u05e7\u05e8" ++
      "\u05e9\u05ea\ufffd\ufffd\u200e\u200f\ufffd"),
  (["iso-8859-9", "iso_8859-9", "iso8859-9", "latin5", "l5"],
    "\xa0¡¢£¤¥¦§¨©ª«¬\xad®¯°±²³´µ¶·¸¹º»¼½¾¿ÀÁÂÃÄÅÆÇÈÉÊËÌÍÎÏĞÑÒÓÔÕÖ×ØÙÚÛÜİŞßàáâãäåæçèéêëìíîïğñòóôõö÷øùúûüı" ++
      "şÿ"),
  (["iso-8859-10", "iso_8859-10", "iso8859-10", "latin6", "l6"],
    "\xa0ĄĒĢĪĨĶ§ĻĐŠŦŽ\xadŪŊ°ąēģīĩķ·ļđšŧž―ūŋĀÁÂÃÄÅÆĮČÉĘËĖÍÎÏÐŅŌÓÔÕÖŨØŲÚÛÜÝÞßāáâãäåæįčéęëėíîïðņōóôõöũøųúûüý" ++
      "þĸ"),
  (["iso-8859-11", "iso_8859-11", "iso8859-11"],
    "\xa0กขฃคฅฆงจฉชซฌญฎฏฐฑฒณดตถทธนบปผฝพฟภมยรฤลฦวศษสหฬอฮฯะ\u0e31าำ\u0e34\u0e35\u0e36\u0e37\u0e38\u0e39" ++
      "\u0e3a\ufffd\ufffd\ufffd\ufffd฿เแโใไๅๆ\u0e47\u0e48\u0e49\u0e4a\u0e4b\u0e4c\u0e4d\u0e4e๏๐๑๒๓๔๕๖๗๘๙๚๛" ++
      "\ufffd\ufffd\ufffd\ufffd"),
  (["iso-8859-13", "iso_8859-13", "iso8859-13", "latin7", "l7"],
    "\xa0”¢£¤„¦§Ø©Ŗ«¬\xad®Æ°±²³“µ¶·ø¹ŗ»¼½¾æĄĮĀĆÄÅĘĒČÉŹĖĢĶĪĻŠŃŅÓŌÕÖ×ŲŁŚŪÜŻŽßąįāćäåęēčéźėģķīļšńņóōõö÷ųłśūüż" ++
      "ž’"),
  (["iso-8859-14", "iso_8859-14", "iso8859-14", "latin8", "l8"],
    "\xa0Ḃḃ£ĊċḊ§Ẁ©ẂḋỲ\xad®ŸḞḟĠġṀṁ¶ṖẁṗẃṠỳẄẅṡÀÁÂÃÄÅÆÇÈÉÊËÌÍÎÏŴÑÒÓÔÕÖṪØÙÚÛÜÝŶßàáâãäåæçèéêëìíîïŵñòóôõöṫøùúûüý" ++
      "ŷÿ"),
  (["iso-8859-15", "iso_8859-15", "iso8859-15", "latin-9"],
    "\xa0¡¢£€¥Š§š©ª«¬\xad®¯°±²³Žµ¶·ž¹º»ŒœŸ¿ÀÁÂÃÄÅÆÇÈÉÊËÌÍÎÏÐÑÒÓÔÕÖ×ØÙÚÛÜÝÞßàáâãäåæçèéêëìíîïðñòóôõö÷øùúûüý" ++
      "þÿ"),
  (["iso-8859-16", "iso_8859-16", "iso8859-16", "latin10", "l10"],
    "\xa0ĄąŁ€„Š§š©Ș«Ź\xadźŻ°±ČłŽ”¶·žčș»ŒœŸżÀÁÂĂÄĆÆÇÈÉÊËÌÍÎÏĐŃÒÓÔŐÖŚŰÙÚÛÜĘȚßàáâăäćæçèéêëìíîïđńòóôőöśűùúûüę" ++
      "țÿ")]

/-- names of encodings with the characters from byte 128 on -/
def codePages : List (List String × String) := [
  (["windows-1250", "cp1250", "ms-ee"],
    "€\ufffd‚\ufffd„…†‡\ufffd‰Š‹ŚŤŽŹ\ufffd‘’“”•–—\ufffd™š›śťžź\xa0ˇ˘Ł¤Ą¦§¨©Ş«¬\xad®Ż°±˛ł´µ¶·¸ąş»Ľ˝ľżŔÁÂĂÄ" ++
      "ĹĆÇČÉĘËĚÍÎĎĐŃŇÓÔŐÖ×ŘŮÚŰÜÝŢßŕáâăäĺćçčéęëěíîďđńňóôőö÷řůúűüýţ˙"),
  (["windows-1251", "cp1251", "ms-cyrl"],
    "ЂЃ‚ѓ„…†‡€‰Љ‹ЊЌЋЏђ‘’“”•–—\ufffd™љ›њќћџ\xa0ЎўЈ¤Ґ¦§Ё©Є«¬\xad®Ї°±Ііґµ¶·ё№є»јЅѕїАБВГДЕЖЗИЙКЛМНОПРСТУФХЦЧШ" ++
      "ЩЪЫЬЭЮЯабвгдежзийклмнопрстуфхцчшщъыьэюя"),
  (["windows-1252", "cp1252", "ms-ansi"],
    "€\ufffd‚ƒ„…†‡ˆ‰Š‹Œ\ufffdŽ\ufffd\ufffd‘’“”•–—˜™š›œ\ufffdžŸ\xa0¡¢£¤¥¦§¨©ª«¬\xad®¯°±²³´µ¶·¸¹º»¼½¾¿ÀÁÂÃÄ" ++
      "ÅÆÇÈÉÊËÌÍÎÏÐÑÒÓÔÕÖ×ØÙÚÛÜÝÞßàáâãäåæçèéêëìíîïðñòóôõö÷øùúûüýþÿ"),
  (["windows-1253", "cp1253", "ms-greek"],
    "€\ufffd‚ƒ„…†‡\ufffd‰\ufffd‹\ufffd\ufffd\ufffd\ufffd\ufffd‘’“”•–—\ufffd™\ufffd›\ufffd\ufffd\ufffd" ++
      "\ufffd\xa0΅Ά£¤¥¦§¨©\ufffd«¬\xad®―°±²³΄µ¶·ΈΉΊ»Ό½ΎΏΐΑΒΓΔΕΖΗΘΙΚΛΜΝΞΟΠΡ\ufffdΣΤΥΦΧΨΩΪΫάέήίΰαβγδεζηθικλμν" ++
      "ξοπρςστυφχψωϊϋόύώ\ufffd"),
  (["windows-1254", "cp1254", "ms-turk"],
    "€\ufffd‚ƒ„…†‡ˆ‰Š‹Œ\ufffd\ufffd\ufffd\ufffd‘’“”•–—˜™š›œ\ufffd\ufffdŸ\xa0¡¢£¤¥¦§¨©ª«¬\xad®¯°±²³´µ¶·¸¹º" ++
      "»¼½¾¿ÀÁÂÃÄÅÆÇÈÉÊËÌÍÎÏĞÑÒÓÔÕÖ×ØÙÚÛÜİŞßàáâãäåæçèéêëìíîïğñòóôõö÷øùúûüışÿ"),
  (["windows-1255", "cp1255", "ms-hebr"],
    "€\ufffd‚ƒ„…†‡ˆ‰\ufffd‹\ufffd\ufffd\ufffd\ufffd\ufffd‘’“”•–—˜™\ufffd›\ufffd\ufffd\ufffd\ufffd\xa0¡¢£₪" ++
      "¥¦§¨©×«¬\xad®¯°±²³´µ¶·¸¹÷»¼½¾¿\u05b0\u05b1\u05b2\u05b3\u05b4\u05b5\u05b6\u05b7\u05b8\u05b9\ufffd" ++
      "\u05bb\u05bc\u05bd\u05be\u05bf\u05c0\u05c1\u05c2\u05c3\u05f0\u05f1\u05f2\u05f3\u05f4\ufffd\ufffd" ++
      "\ufffd\ufffd\ufffd\ufffd\ufffd\u05d0\u05d1\u05d2\u05d3\u05d4\u05d5\u05d6\u05d7\u05d8\u05d9\u05da" ++
      "\u05db\u05dc\u05dd\u05de\u05df\u05e0\u05e1\u05e2\u05e3\u05e4\u05e5\u05e6\u05e7\u05e8\u05e9\u05ea" ++
      "\ufffd\ufffd\u200e\u200f\ufffd"),
  (["windows-1256", "cp1256", "ms-arab"],
    "€\u067e‚ƒ„…†‡ˆ‰\u0679‹Œ\u0686\u0698\u0688\u06af‘’“”•–—\u06a9™\u0691›œ\u200c\u200d\u06ba\xa0،¢£¤¥¦§¨©" ++
      "\u06be«¬\xad®¯°±²³´µ¶·¸¹\u061b»¼½¾\u061f\u06c1\u0621\u0622\u0623\u0624\u0625\u0626\u0627\u0628\u0629" ++
      "\u062a\u062b\u062c\u062d\u062e\u062f\u0630\u0631\u0632\u0633\u0634\u0635\u0636×\u0637\u0638\u0639" ++
      "\u063a\u0640\u0641\u0642\u0643à\u0644â\u0645\u0646\u0647\u0648çèéêë\u0649\u064aîï\u064b\u064c\u064d" ++
      "\u064eô\u064f\u0650÷\u0651ù\u0652ûü\u200e\u200f\u06d2"),
  (["windows-1257", "cp1257", "winbaltrim"],
    "€\ufffd‚\ufffd„…†‡\ufffd‰\ufffd‹\ufffd¨ˇ¸\ufffd‘’“”•–—\ufffd™\ufffd›\ufffd¯˛\ufffd\xa0\ufffd¢£¤" ++
      "\ufffd¦§Ø©Ŗ«¬\xad®Æ°±²³´µ¶·ø¹ŗ»¼½¾æĄĮĀĆÄÅĘĒČÉŹĖĢĶĪĻŠŃŅÓŌÕÖ×ŲŁŚŪÜŻŽßąįāćäåęēčéźėģķīļšńņóōõö÷ųłśūüżž˙"),
  (["windows-1258", "cp1258"],
    "€\ufffd‚ƒ„…†‡ˆ‰\ufffd‹Œ\ufffd\ufffd\ufffd\ufffd‘’“”•–—˜™\ufffd›œ\ufffd\ufffdŸ\xa0¡¢£¤¥¦§¨©ª«¬\xad®¯°" ++
      "±²³´µ¶·¸¹º»¼½¾¿ÀÁÂĂÄÅÆÇÈÉÊË\u0300ÍÎÏĐÑ\u0309ÓÔƠÖ×ØÙÚÛÜƯ\u0303ßàáâăäåæçèéêë\u0301íîïđñ\u0323óôơö÷øùúû" ++
      "üư₫ÿ"),
  (["koi8-r", "cskoi8r"],
    "─│┌┐└┘├┤┬┴┼▀▄█▌▐░▒▓⌠■∙√≈≤≥\xa0⌡°²·÷═║╒ё╓╔╕╖╗╘╙╚╛╜╝╞╟╠╡Ё╢╣╤╥╦╧╨╩╪╫╬©юабцдефгхийклмнопярстужвьызшэщчъЮ" ++
      "АБЦДЕФГХИЙКЛМНОПЯРСТУЖВЬЫЗШЭЩЧЪ"),
  (["koi8-u"],
    "─│┌┐└┘├┤┬┴┼▀▄█▌▐░▒▓⌠■∙√≈≤≥\xa0⌡°²·÷═║╒ёє╔ії╗╘╙╚╛ґ╝╞╟╠╡ЁЄ╣ІЇ╦╧╨╩╪Ґ╬©юабцдефгхийклмнопярстужвьызшэщчъЮ" ++
      "АБЦДЕФГХИЙКЛМНОПЯРСТУЖВЬЫЗШЭЩЧЪ"),
  (["cp850", "ibm850"],
    "ÇüéâäàåçêëèïîìÄÅÉæÆôöòûùÿÖÜø£Ø×ƒáíóúñÑªº¿®¬½¼¡«»░▒▓│┤ÁÂÀ©╣║╗╝¢¥┐└┴┬├─┼ãÃ╚╔╩╦╠═╬¤ðÐÊËÈıÍÎÏ┘┌█▄¦Ì▀ÓßÔÒ" ++
      "õÕµþÞÚÛÙýÝ¯´\xad±‗¾¶§÷¸°¨·¹³²■\xa0"),
  (["cp866", "ibm866", "csibm866"],
    "АБВГДЕЖЗИЙКЛМНОПРСТУФХЦЧШЩЪЫЬЭЮЯабвгдежзийклмноп░▒▓│┤╡╢╖╕╣║╗╝╜╛┐└┴┬├─┼╞╟╚╔╩╦╠═╬╧╨╤╥╙╘╒╓╫╪┘┌█▄▌▐▀рсту" ++
      "фхцчшщъыьэюяЁёЄєЇїЎў°∙·√№¤■\xa0"),
  (["macintosh", "macroman", "mac", "csmacintosh"],
    "ÄÅÇÉÑÖÜáàâäãåçéèêëíìîïñóòôöõúùûü†°¢£§•¶ß®©™´¨≠ÆØ∞±≤≥¥µ∂∑∏π∫ªºΩæø¿¡¬√ƒ≈∆«»…\xa0ÀÃÕŒœ–—“”‘’÷◊ÿŸ⁄€‹›ﬁﬂ‡" ++
      "·‚„‰ÂÊÁËÈÍÎÏÌÓÔ\uf8ffÒÚÛÙıˆ˜¯˘˙˚¸˝˛ˇ")]

/-- names of encodings in which every byte is the character of its number -/
def latinOneNames : List String :=
  ["iso-8859-1", "iso_8859-1", "iso8859-1", "latin1", "latin-1", "iso-latin-1", "l1", "cp819", "ibm819", "csisolatin1", "iso-ir-100"]

/-- names of UTF-8 -/
def utf8Names : List String :=
  ["utf-8", "utf8"]

/-- names of ASCII, and of encodings with longer characters that agree with it on its characters -/
def asciiNames : List String := [
  "ascii", "us-ascii", "iso646-us", "iso_646.irv", "iso-ir-6", "ansi_x3.4-1968", "ansi_x3.4-1986", "cp367", "ibm367", "us", "csascii",
  "utf-7", "gbk", "cp936", "ms936", "windows-936", "gb2312", "csgb2312", "euc-cn", "euccn", "gb18030", "hz", "hz-gb-2312",
  "big5", "big-5", "big-five", "bigfive", "cn-big5", "csbig5", "cp950", "big5-hkscs", "big5hkscs", "euc-tw", "euctw",
  "shift_jis", "shift-jis", "sjis", "ms_kanji", "csshiftjis", "cp932", "windows-31j", "euc-jp", "eucjp", "iso-2022-jp",
  "iso-2022-jp-1", "iso-2022-jp-2", "iso-2022-cn", "iso-2022-cn-ext", "iso-2022-kr", "euc-kr", "euckr", "cp949", "uhc", "johab",
  "tis-620", "tis620", "windows-874", "cp874", "viscii", "tcvn", "armscii-8", "georgian-academy", "georgian-ps", "koi8-ru",
  "koi8-t", "pt154", "rk1048", "mulelao-1", "cp1133", "cp862", "cp1131", "hp-roman8", "nextstep", "c99", "java"]

/-- the character of a byte above 127 -/
def upperChar? (table : List Char) (start : Nat) (n : Nat) : Option Char :=
  if n < start then some (.ofNat n)
  else (table[n - start]?).filter (· != '\ufffd')

/-- bytes as characters by the table of an upper half -/
def byTable (table : String) (start : Nat) (bs : List UInt8) : Option (List Char) :=
  let table := table.toList
  bs.mapM fun b => if b < 128 then some (.ofNat b.toNat) else upperChar? table start b.toNat

/-- bytes as characters by the name of an encoding in lower case; `cs` is what they are in UTF-8 -/
def decodeBytes? (name : String) (cs : List Char) (bs : List UInt8) : Option (List Char) :=
  let named (entry : List String × String) := entry.1.contains name
  if utf8Names.contains name then some cs
  else if asciiNames.contains name then (if bs.all (· < 128) then some cs else none)
  else if latinOneNames.contains name then byTable "" 256 bs
  else match latinTables.find? named, codePages.find? named with
    | some (_, table), _ => byTable table 160 bs
    | none, some (_, table) => byTable table 128 bs
    | none, none => none

end YangDesign.Xml
