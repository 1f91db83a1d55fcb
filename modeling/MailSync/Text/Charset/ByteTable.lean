/-!
# Tables of bytes

Character sets in which every byte is a character. The bytes below the first one of a table stand
for the character of their own number. A byte that stands for no character has U+FFFD in its place.
-/

namespace MailSync

namespace Charset

/-- A character set of one byte. -/
structure ByteTable where
  /-- The first byte that does not stand for the character of its own number. -/
  first : Nat
  /-- The characters from there on. -/
  chars : String
  deriving DecidableEq, Repr

namespace ByteTable

/-- The text of a byte sequence. -/
def decode (t : ByteTable) (bytes : List UInt8) : String :=
  let chars := t.chars.toList.toArray
  String.ofList (bytes.map fun b =>
    if b.toNat < t.first then Char.ofNat b.toNat else chars.getD (b.toNat - t.first) '\uFFFD')

/-- The Latin alphabet No. 1, ISO 8859-1: every byte stands for the character of its own number. -/
def isoLatin1 : ByteTable :=
  ⟨0x100, ""⟩

/-- The Latin alphabet No. 2, ISO 8859-2. -/
def isoLatin2 : ByteTable :=
  ⟨0xA0,
   "\u00A0Ą˘Ł¤ĽŚ§¨ŠŞŤŹ\u00ADŽŻ°ą˛ł´ľśˇ¸šşťź˝žżŔÁÂĂÄĹĆÇČÉĘËĚÍÎĎĐŃŇÓÔŐÖ×ŘŮÚŰÜÝŢßŕáâăäĺćçčéęëěíîďđń" ++
   "ňóôőö÷řůúűüýţ˙"⟩

/-- The Latin alphabet No. 3, ISO 8859-3. -/
def isoLatin3 : ByteTable :=
  ⟨0xA0,
   "\u00A0Ħ˘£¤�Ĥ§¨İŞĞĴ\u00AD�Ż°ħ²³´µĥ·¸ışğĵ½�żÀÁÂ�ÄĊĈÇÈÉÊËÌÍÎÏ�ÑÒÓÔĠÖ×ĜÙÚÛÜŬŜßàáâ�äċĉçèéêëìíîï�ñ" ++
   "òóôġö÷ĝùúûüŭŝ˙"⟩

/-- The Latin alphabet No. 4, ISO 8859-4. -/
def isoLatin4 : ByteTable :=
  ⟨0xA0,
   "\u00A0ĄĸŖ¤ĨĻ§¨ŠĒĢŦ\u00ADŽ¯°ą˛ŗ´ĩļˇ¸šēģŧŊžŋĀÁÂÃÄÅÆĮČÉĘËĖÍÎĪĐŅŌĶÔÕÖ×ØŲÚÛÜŨŪßāáâãäåæįčéęëėíîīđņ" ++
   "ōķôõö÷øųúûüũū˙"⟩

/-- The Cyrillic alphabet, ISO 8859-5. -/
def isoCyrillic : ByteTable :=
  ⟨0xA0,
   "\u00A0ЁЂЃЄЅІЇЈЉЊЋЌ\u00ADЎЏАБВГДЕЖЗИЙКЛМНОПРСТУФХЦЧШЩЪЫЬЭЮЯабвгдежзийклмнопрстуфхцчшщъыьэюя№ё" ++
   "ђѓєѕіїјљњћќ§ўџ"⟩

/-- The Arabic alphabet, ISO 8859-6. -/
def isoArabic : ByteTable :=
  ⟨0xA0,
   "\u00A0���¤�������،\u00AD�������������؛���؟�ءآأؤإئابةتثجحخدذرزسشصضطظعغ�����ـفقكلمنهوىي\u064B" ++
   "\u064C\u064D\u064E\u064F\u0650\u0651\u0652"⟩

/-- The Greek alphabet, ISO 8859-7, in the edition of 1987. -/
def isoGreek : ByteTable :=
  ⟨0xA0,
   "\u00A0‘’£��¦§¨©�«¬\u00AD�―°±²³΄΅Ά·ΈΉΊ»Ό½ΎΏΐΑΒΓΔΕΖΗΘΙΚΛΜΝΞΟΠΡ�ΣΤΥΦΧΨΩΪΫάέήίΰαβγδεζηθικλμνξοπρ" ++
   "ςστυφχψωϊϋόύώ"⟩

/-- The Hebrew alphabet, ISO 8859-8. -/
def isoHebrew : ByteTable :=
  ⟨0xA0,
   "\u00A0�¢£¤¥¦§¨©×«¬\u00AD®¯°±²³´µ¶·¸¹÷»¼½¾��������������������������������‗אבגדהוזחטיךכלםמןנס" ++
   "עףפץצקרשת��\u200E\u200F"⟩

/-- The Latin alphabet No. 5, ISO 8859-9. -/
def isoLatin5 : ByteTable :=
  ⟨0xA0,
   "\u00A0¡¢£¤¥¦§¨©ª«¬\u00AD®¯°±²³´µ¶·¸¹º»¼½¾¿ÀÁÂÃÄÅÆÇÈÉÊËÌÍÎÏĞÑÒÓÔÕÖ×ØÙÚÛÜİŞßàáâãäåæçèéêëìíîïğñ" ++
   "òóôõö÷øùúûüışÿ"⟩

/-- The Latin alphabet No. 6, ISO 8859-10. -/
def isoLatin6 : ByteTable :=
  ⟨0xA0,
   "\u00A0ĄĒĢĪĨĶ§ĻĐŠŦŽ\u00ADŪŊ°ąēģīĩķ·ļđšŧž―ūŋĀÁÂÃÄÅÆĮČÉĘËĖÍÎÏÐŅŌÓÔÕÖŨØŲÚÛÜÝÞßāáâãäåæįčéęëėíîïðņ" ++
   "ōóôõöũøųúûüýþĸ"⟩

/-- The Thai alphabet, TIS 620. -/
def isoThai : ByteTable :=
  ⟨0x80,
   "���������������������������������กขฃคฅฆงจฉชซฌญฎฏฐฑฒณดตถทธนบปผฝพฟภมยรฤลฦวศษสหฬอฮฯะ\u0E31าำ" ++
   "\u0E34\u0E35\u0E36\u0E37\u0E38\u0E39\u0E3A����฿เแโใไๅๆ\u0E47\u0E48\u0E49\u0E4A\u0E4B\u0E4C" ++
   "\u0E4D\u0E4E๏๐๑๒๓๔๕๖๗๘๙๚๛"⟩

/-- The Latin alphabet No. 7, ISO 8859-13. -/
def isoLatin7 : ByteTable :=
  ⟨0xA0,
   "\u00A0”¢£¤„¦§Ø©Ŗ«¬\u00AD®Æ°±²³“µ¶·ø¹ŗ»¼½¾æĄĮĀĆÄÅĘĒČÉŹĖĢĶĪĻŠŃŅÓŌÕÖ×ŲŁŚŪÜŻŽßąįāćäåęēčéźėģķīļšń" ++
   "ņóōõö÷ųłśūüżž’"⟩

/-- The Latin alphabet No. 8, ISO 8859-14. -/
def isoLatin8 : ByteTable :=
  ⟨0xA0,
   "\u00A0Ḃḃ£ĊċḊ§Ẁ©ẂḋỲ\u00AD®ŸḞḟĠġṀṁ¶ṖẁṗẃṠỳẄẅṡÀÁÂÃÄÅÆÇÈÉÊËÌÍÎÏŴÑÒÓÔÕÖṪØÙÚÛÜÝŶßàáâãäåæçèéêëìíîïŵñ" ++
   "òóôõöṫøùúûüýŷÿ"⟩

/-- The Latin alphabet No. 9, ISO 8859-15. -/
def isoLatin9 : ByteTable :=
  ⟨0xA0,
   "\u00A0¡¢£€¥Š§š©ª«¬\u00AD®¯°±²³Žµ¶·ž¹º»ŒœŸ¿ÀÁÂÃÄÅÆÇÈÉÊËÌÍÎÏÐÑÒÓÔÕÖ×ØÙÚÛÜÝÞßàáâãäåæçèéêëìíîïðñ" ++
   "òóôõö÷øùúûüýþÿ"⟩

/-- The Latin alphabet No. 10, ISO 8859-16, with „ and « in each other's place. -/
def isoLatin10 : ByteTable :=
  ⟨0xA0,
   "\u00A0ĄąŁ€«Š§š©Ș„Ź\u00ADźŻ°±ČłŽ”¶·žčș»ŒœŸżÀÁÂĂÄĆÆÇÈÉÊËÌÍÎÏĐŃÒÓÔŐÖŚŰÙÚÛÜĘȚßàáâăäćæçèéêëìíîïđń" ++
   "òóôőöśűùúûüęțÿ"⟩

/-- The Central European set windows-1250. -/
def windows1250 : ByteTable :=
  ⟨0x80,
   "€�‚�„…†‡�‰Š‹ŚŤŽŹ�‘’“”•–—�™š›śťžź\u00A0ˇ˘Ł¤Ą¦§¨©Ş«¬\u00AD®Ż°±˛ł´µ¶·¸ąş»Ľ˝ľżŔÁÂĂÄĹĆÇČÉĘËĚÍÎĎĐŃ" ++
   "ŇÓÔŐÖ×ŘŮÚŰÜÝŢßŕáâăäĺćçčéęëěíîďđńňóôőö÷řůúűüýţ˙"⟩

/-- The Cyrillic set windows-1251. -/
def windows1251 : ByteTable :=
  ⟨0x80,
   "ЂЃ‚ѓ„…†‡€‰Љ‹ЊЌЋЏђ‘’“”•–—�™љ›њќћџ\u00A0ЎўЈ¤Ґ¦§Ё©Є«¬\u00AD®Ї°±Ііґµ¶·ё№є»јЅѕїАБВГДЕЖЗИЙКЛМНОПРС" ++
   "ТУФХЦЧШЩЪЫЬЭЮЯабвгдежзийклмнопрстуфхцчшщъыьэюя"⟩

/-- The Western European set windows-1252. -/
def windows1252 : ByteTable :=
  ⟨0x80,
   "€�‚ƒ„…†‡ˆ‰Š‹Œ�Ž��‘’“”•–—˜™š›œ�žŸ\u00A0¡¢£¤¥¦§¨©ª«¬\u00AD®¯°±²³´µ¶·¸¹º»¼½¾¿ÀÁÂÃÄÅÆÇÈÉÊËÌÍÎÏÐÑ" ++
   "ÒÓÔÕÖ×ØÙÚÛÜÝÞßàáâãäåæçèéêëìíîïðñòóôõö÷øùúûüýþÿ"⟩

/-- The Greek set windows-1253. -/
def windows1253 : ByteTable :=
  ⟨0x80,
   "€�‚ƒ„…†‡�‰�‹�����‘’“”•–—�™�›����\u00A0΅Ά£¤¥¦§¨©�«¬\u00AD®―°±²³΄µ¶·ΈΉΊ»Ό½ΎΏΐΑΒΓΔΕΖΗΘΙΚΛΜΝΞΟΠΡ" ++
   "�ΣΤΥΦΧΨΩΪΫάέήίΰαβγδεζηθικλμνξοπρςστυφχψωϊϋόύώ"⟩

/-- The Turkish set windows-1254. -/
def windows1254 : ByteTable :=
  ⟨0x80,
   "€�‚ƒ„…†‡ˆ‰Š‹Œ����‘’“”•–—˜™š›œ��Ÿ\u00A0¡¢£¤¥¦§¨©ª«¬\u00AD®¯°±²³´µ¶·¸¹º»¼½¾¿ÀÁÂÃÄÅÆÇÈÉÊËÌÍÎÏĞÑ" ++
   "ÒÓÔÕÖ×ØÙÚÛÜİŞßàáâãäåæçèéêëìíîïğñòóôõö÷øùúûüışÿ"⟩

/-- The Hebrew set windows-1255. -/
def windows1255 : ByteTable :=
  ⟨0x80,
   "€�‚ƒ„…†‡ˆ‰�‹�����‘’“”•–—˜™�›����\u00A0¡¢£₪¥¦§¨©×«¬\u00AD®¯°±²³´µ¶·¸¹÷»¼½¾¿\u05B0\u05B1\u05B2" ++
   "\u05B3\u05B4\u05B5\u05B6\u05B7\u05B8\u05B9�\u05BB\u05BC\u05BD־\u05BF׀\u05C1\u05C2׃װױײ׳״�����" ++
   "��אבגדהוזחטיךכלםמןנסעףפץצקרשת��\u200E\u200F"⟩

/-- The Arabic set windows-1256. -/
def windows1256 : ByteTable :=
  ⟨0x80,
   "€پ‚ƒ„…†‡ˆ‰ٹ‹Œچژڈگ‘’“”•–—ک™ڑ›œ\u200C\u200Dں\u00A0،¢£¤¥¦§¨©ھ«¬\u00AD®¯°±²³´µ¶·¸¹؛»¼½¾؟ہءآأؤإئا" ++
   "بةتثجحخدذرزسشصض×طظعغـفقكàلâمنهوçèéêëىيîï\u064B\u064C\u064D\u064Eô\u064F\u0650÷\u0651ù\u0652û" ++
   "ü\u200E\u200Fے"⟩

/-- The Baltic set windows-1257. -/
def windows1257 : ByteTable :=
  ⟨0x80,
   "€�‚�„…†‡�‰�‹�¨ˇ¸�‘’“”•–—�™�›�¯˛�\u00A0�¢£¤�¦§Ø©Ŗ«¬\u00AD®Æ°±²³´µ¶·ø¹ŗ»¼½¾æĄĮĀĆÄÅĘĒČÉŹĖĢĶĪĻŠŃ" ++
   "ŅÓŌÕÖ×ŲŁŚŪÜŻŽßąįāćäåęēčéźėģķīļšńņóōõö÷ųłśūüżž˙"⟩

/-- The Vietnamese set windows-1258. -/
def windows1258 : ByteTable :=
  ⟨0x80,
   "€�‚ƒ„…†‡ˆ‰�‹Œ����‘’“”•–—˜™�›œ��Ÿ\u00A0¡¢£¤¥¦§¨©ª«¬\u00AD®¯°±²³´µ¶·¸¹º»¼½¾¿ÀÁÂĂÄÅÆÇÈÉÊË\u0300" ++
   "ÍÎÏĐÑ\u0309ÓÔƠÖ×ØÙÚÛÜƯ\u0303ßàáâăäåæçèéêë\u0301íîïđñ\u0323óôơö÷øùúûüư₫ÿ"⟩

/-- The Thai set windows-874. -/
def windows874 : ByteTable :=
  ⟨0x80,
   "€\u0081\u0082\u0083\u0084…\u0086\u0087\u0088\u0089\u008A\u008B\u008C\u008D\u008E\u008F\u0090" ++
   "‘’“”•–—\u0098\u0099\u009A\u009B\u009C\u009D\u009E\u009F\u00A0กขฃคฅฆงจฉชซฌญฎฏฐฑฒณดตถทธนบปผฝพฟ" ++
   "ภมยรฤลฦวศษสหฬอฮฯะ\u0E31าำ\u0E34\u0E35\u0E36\u0E37\u0E38\u0E39\u0E3A����฿เแโใไๅๆ\u0E47\u0E48" ++
   "\u0E49\u0E4A\u0E4B\u0E4C\u0E4D\u0E4E๏๐๑๒๓๔๕๖๗๘๙๚๛"⟩

/-- The Russian set KOI8-R. -/
def koi8r : ByteTable :=
  ⟨0x80,
   "─│┌┐└┘├┤┬┴┼▀▄█▌▐░▒▓⌠■∙√≈≤≥\u00A0⌡°²·÷═║╒ё╓╔╕╖╗╘╙╚╛╜╝╞╟╠╡Ё╢╣╤╥╦╧╨╩╪╫╬©юабцдефгхийклмнопярстуж" ++
   "вьызшэщчъЮАБЦДЕФГХИЙКЛМНОПЯРСТУЖВЬЫЗШЭЩЧЪ"⟩

/-- The Ukrainian set KOI8-U. -/
def koi8u : ByteTable :=
  ⟨0x80,
   "─│┌┐└┘├┤┬┴┼▀▄█▌▐░▒▓⌠■∙√≈≤≥\u00A0⌡°²·÷═║╒ёє╔ії╗╘╙╚╛ґ╝╞╟╠╡ЁЄ╣ІЇ╦╧╨╩╪Ґ╬©юабцдефгхийклмнопярстуж" ++
   "вьызшэщчъЮАБЦДЕФГХИЙКЛМНОПЯРСТУЖВЬЫЗШЭЩЧЪ"⟩

/-- The Western European set macintosh. -/
def macintosh : ByteTable :=
  ⟨0x80,
   "ÄÅÇÉÑÖÜáàâäãåçéèêëíìîïñóòôöõúùûü†°¢£§•¶ß®©™´¨≠ÆØ∞±≤≥¥µ∂∑∏π∫ªºΩæø¿¡¬√ƒ≈∆«»…\u00A0ÀÃÕŒœ–—“”‘’÷" ++
   "◊ÿŸ⁄€‹›ﬁﬂ‡·‚„‰ÂÊÁËÈÍÎÏÌÓÔ\uF8FFÒÚÛÙıˆ˜¯˘˙˚¸˝˛ˇ"⟩

/-- The Western European set IBM850. -/
def ibm850 : ByteTable :=
  ⟨0x80,
   "ÇüéâäàåçêëèïîìÄÅÉæÆôöòûùÿÖÜø£Ø×ƒáíóúñÑªº¿®¬½¼¡«»░▒▓│┤ÁÂÀ©╣║╗╝¢¥┐└┴┬├─┼ãÃ╚╔╩╦╠═╬¤ðÐÊËÈıÍÎÏ┘┌█" ++
   "▄¦Ì▀ÓßÔÒõÕµþÞÚÛÙýÝ¯´\u00AD±‗¾¶§÷¸°¨·¹³²■\u00A0"⟩

/-- The Cyrillic set IBM866. -/
def ibm866 : ByteTable :=
  ⟨0x80,
   "АБВГДЕЖЗИЙКЛМНОПРСТУФХЦЧШЩЪЫЬЭЮЯабвгдежзийклмноп░▒▓│┤╡╢╖╕╣║╗╝╜╛┐└┴┬├─┼╞╟╚╔╩╦╠═╬╧╨╤╥╙╘╒╓╫╪┘┌█" ++
   "▄▌▐▀рстуфхцчшщъыьэюяЁёЄєЇїЎў°∙·√№¤■\u00A0"⟩

end ByteTable

end Charset

end MailSync
