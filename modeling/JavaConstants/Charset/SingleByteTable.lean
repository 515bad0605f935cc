/-!
# Single-byte charsets

The characters of the bytes from 0x80 on, by the byte less 0x80, for every charset that writes each
character as one byte.
-/

namespace JavaConstants.Charset

/-- The upper half of IBM866. -/
def ibm866Text : String := "
0=АБВГДЕЖЗИЙКЛМНОПРСТУФХЦЧШЩЪЫЬЭЮЯабвгдежзийклмноп░▒▓│┤╡╢╖╕╣║╗╝╜╛┐└┴
42=┬├─┼╞╟╚╔╩╦╠═╬╧╨╤╥╙╘╒╓╫╪┘┌█▄▌▐▀рстуфхцчшщъыьэюяЁёЄєЇїЎў
78=°∙·√№¤■ 7F:A0
"

/-- The upper half of ISO-8859-2. -/
def iso8859x2Text : String := "
0-20:80 21=Ą˘Ł¤ĽŚ§¨ŠŞŤŹ 2D:AD
2E=ŽŻ°ą˛ł´ľśˇ¸šşťź˝žżŔÁÂĂÄĹĆÇČÉĘËĚÍÎĎĐŃŇÓÔŐÖ×ŘŮÚŰÜÝŢßŕáâăäĺćçčéęëěíîďđńňóôőö÷řůúűüýţ˙
"

/-- The upper half of ISO-8859-3. -/
def iso8859x3Text : String := "
0-20:80 21=Ħ˘£¤ 26=Ĥ§¨İŞĞĴ 2D:AD 2F=Ż°ħ²³´µĥ·¸ışğĵ½ 3F=żÀÁÂ 44=ÄĊĈÇÈÉÊËÌÍÎÏ 51=ÑÒÓÔĠÖ×ĜÙÚÛÜŬŜßàáâ
64=äċĉçèéêëìíîï 71=ñòóôġö÷ĝùúûüŭŝ˙
"

/-- The upper half of ISO-8859-4. -/
def iso8859x4Text : String := "
0-20:80 21=ĄĸŖ¤ĨĻ§¨ŠĒĢŦ 2D:AD
2E=Ž¯°ą˛ŗ´ĩļˇ¸šēģŧŊžŋĀÁÂÃÄÅÆĮČÉĘËĖÍÎĪĐŅŌĶÔÕÖ×ØŲÚÛÜŨŪßāáâãäåæįčéęëėíîīđņōķôõö÷øųúûüũū˙
"

/-- The upper half of ISO-8859-5. -/
def iso8859x5Text : String := "
0-20:80 21=ЁЂЃЄЅІЇЈЉЊЋЌ 2D:AD
2E=ЎЏАБВГДЕЖЗИЙКЛМНОПРСТУФХЦЧШЩЪЫЬЭЮЯабвгдежзийклмнопрстуфхцчшщъыьэюя№ёђѓєѕіїјљњћќ§ўџ
"

/-- The upper half of ISO-8859-6. -/
def iso8859x6Text : String := "
0-20:80 24=¤ 2C:60C 2D:AD 3B:61B 3F:61F 41-5A:621 60-72:640
"

/-- The upper half of ISO-8859-7. -/
def iso8859x7Text : String := "
0-20:80 21=‘’£€₯¦§¨©ͺ«¬ 2D:AD 2F=―°±²³΄΅Ά·ΈΉΊ»Ό½ΎΏΐΑΒΓΔΕΖΗΘΙΚΛΜΝΞΟΠΡ
53=ΣΤΥΦΧΨΩΪΫάέήίΰαβγδεζηθικλμνξοπρςστυφχψωϊϋόύώ
"

/-- The upper half of ISO-8859-8. -/
def iso8859x8Text : String := "
0-20:80 22=¢£¤¥¦§¨©×«¬ 2D:AD 2E=®¯°±²³´µ¶·¸¹÷»¼½¾ 5F=‗ 60-7A:5D0 7D-7E:200E
"

/-- The upper half of ISO-8859-10. -/
def iso8859x10Text : String := "
0-20:80 21=ĄĒĢĪĨĶ§ĻĐŠŦŽ 2D:AD
2E=ŪŊ°ąēģīĩķ·ļđšŧž―ūŋĀÁÂÃÄÅÆĮČÉĘËĖÍÎÏÐŅŌÓÔÕÖŨØŲÚÛÜÝÞßāáâãäåæįčéęëėíîïðņōóôõöũøųúûüýþĸ
"

/-- The upper half of ISO-8859-13. -/
def iso8859x13Text : String := "
0-20:80 21=”¢£¤„¦§Ø©Ŗ«¬ 2D:AD
2E=®Æ°±²³“µ¶·ø¹ŗ»¼½¾æĄĮĀĆÄÅĘĒČÉŹĖĢĶĪĻŠŃŅÓŌÕÖ×ŲŁŚŪÜŻŽßąįāćäåęēčéźėģķīļšńņóōõö÷ųłśūüżž’
"

/-- The upper half of ISO-8859-14. -/
def iso8859x14Text : String := "
0-20:80 21=Ḃḃ£ĊċḊ§Ẁ©ẂḋỲ 2D:AD
2E=®ŸḞḟĠġṀṁ¶ṖẁṗẃṠỳẄẅṡÀÁÂÃÄÅÆÇÈÉÊËÌÍÎÏŴÑÒÓÔÕÖṪØÙÚÛÜÝŶßàáâãäåæçèéêëìíîïŵñòó
74=ôõöṫøùúûüýŷÿ
"

/-- The upper half of ISO-8859-15. -/
def iso8859x15Text : String := "
0-20:80 21=¡¢£€¥Š§š©ª«¬ 2D:AD
2E=®¯°±²³Žµ¶·ž¹º»ŒœŸ¿ÀÁÂÃÄÅÆÇÈÉÊËÌÍÎÏÐÑÒÓÔÕÖ×ØÙÚÛÜÝÞßàáâãäåæçèéêëìíîïðñòóôõö÷øùúûüýþÿ
"

/-- The upper half of ISO-8859-16. -/
def iso8859x16Text : String := "
0-20:80 21=ĄąŁ€„Š§š©Ș«Ź 2D:AD
2E=źŻ°±ČłŽ”¶·žčș»ŒœŸżÀÁÂĂÄĆÆÇÈÉÊËÌÍÎÏĐŃÒÓÔŐÖŚŰÙÚÛÜĘȚßàáâăäćæçèéêëìíîïđńòóôőöśűùúûüęțÿ
"

/-- The upper half of KOI8-R. -/
def koi8rText : String := "
0=─│┌┐└┘├┤┬┴┼▀▄█▌▐░▒▓⌠■∙√≈≤≥ 1A:A0
1B=⌡°²·÷═║╒ё╓╔╕╖╗╘╙╚╛╜╝╞╟╠╡Ё╢╣╤╥╦╧╨╩╪╫╬©юабцдефгхийклмноп
51=ярстужвьызшэщчъЮАБЦДЕФГХИЙКЛМНОПЯРСТУЖВЬЫЗШЭЩЧЪ
"

/-- The upper half of KOI8-U. -/
def koi8uText : String := "
0=─│┌┐└┘├┤┬┴┼▀▄█▌▐░▒▓⌠■∙√≈≤≥ 1A:A0
1B=⌡°²·÷═║╒ёє╔ії╗╘╙╚╛ґў╞╟╠╡ЁЄ╣ІЇ╦╧╨╩╪ҐЎ©юабцдефгхийклмнопярстужвьыз
5B=шэщчъЮАБЦДЕФГХИЙКЛМНОПЯРСТУЖВЬЫЗШЭЩЧЪ
"

/-- The upper half of macintosh. -/
def macintoshText : String := "
0=ÄÅÇÉÑÖÜáàâäãåçéèêëíìîïñóòôöõúùûü†°¢£§•¶ß®©™´¨≠ÆØ∞±≤≥¥µ∂∑∏π∫ªºΩæø¿¡¬√ƒ≈∆ 47=«»…
4A:A0 4B=ÀÃÕŒœ–—“”‘’÷◊ÿŸ⁄€‹›ﬁﬂ‡·‚„‰ÂÊÁËÈÍÎÏÌÓÔ 70:F8FF 71=ÒÚÛÙıˆ˜¯˘˙˚¸˝˛ˇ
"

/-- The upper half of windows-874. -/
def windows874Text : String := "
0=€ 1-4:81 5=… 6-10:86 11=‘’“”•–— 18-20:98 21-5A:E01 5F-7B:E3F
"

/-- The upper half of windows-1250. -/
def windows1250Text : String := "
0=€ 1:81 2=‚ 3:83 4=„…†‡ 8:88 9=‰Š‹ŚŤŽŹ 10:90 11=‘’“”•–— 18:98 19=™š›śťžź 20:A0
21=ˇ˘Ł¤Ą¦§¨©Ş«¬ 2D:AD
2E=®Ż°±˛ł´µ¶·¸ąş»Ľ˝ľżŔÁÂĂÄĹĆÇČÉĘËĚÍÎĎĐŃŇÓÔŐÖ×ŘŮÚŰÜÝŢßŕáâăäĺćçčéęëěíîďđńňóôőö÷řůúűüýţ˙
"

/-- The upper half of windows-1251. -/
def windows1251Text : String := "
0=ЂЃ‚ѓ„…†‡€‰Љ‹ЊЌЋЏђ‘’“”•–— 18:98 19=™љ›њќћџ 20:A0 21=ЎўЈ¤Ґ¦§Ё©Є«¬ 2D:AD
2E=®Ї°±Ііґµ¶·ё№є»јЅѕїАБВГДЕЖЗИЙКЛМНОПРСТУФХЦЧШЩЪЫЬЭЮЯабвгдежзийклмнопрстуфхцчшщъыьэюя
"

/-- The upper half of windows-1253. -/
def windows1253Text : String := "
0=€ 1:81 2=‚ƒ„…†‡ 8:88 9=‰ A:8A B=‹ C-10:8C 11=‘’“”•–— 18:98 19=™ 1A:9A 1B=›
1C-20:9C 21=΅Ά£¤¥¦§¨© 2B=«¬ 2D:AD 2E=®―°±²³΄µ¶·ΈΉΊ»Ό½ΎΏΐΑΒΓΔΕΖΗΘΙΚΛΜΝΞΟΠΡ
53=ΣΤΥΦΧΨΩΪΫάέήίΰαβγδεζηθικλμνξοπρςστυφχψωϊϋόύώ
"

/-- The upper half of windows-1254. -/
def windows1254Text : String := "
0=€ 1:81 2=‚ƒ„…†‡ˆ‰Š‹Œ D-10:8D 11=‘’“”•–—˜™š›œ 1D-1E:9D 1F=Ÿ 20:A0
21=¡¢£¤¥¦§¨©ª«¬ 2D:AD
2E=®¯°±²³´µ¶·¸¹º»¼½¾¿ÀÁÂÃÄÅÆÇÈÉÊËÌÍÎÏĞÑÒÓÔÕÖ×ØÙÚÛÜİŞßàáâãäåæçèéêëìíîïğñòóôõö÷øùúûüışÿ
"

/-- The upper half of windows-1255. -/
def windows1255Text : String := "
0=€ 1:81 2=‚ƒ„…†‡ˆ‰ A:8A B=‹ C-10:8C 11=‘’“”•–—˜™ 1A:9A 1B=› 1C-20:9C
21=¡¢£₪¥¦§¨©×«¬ 2D:AD 2E=®¯°±²³´µ¶·¸¹÷»¼½¾¿ְֱֲֳִֵֶַָֹ 4B=ֻּֽ־ֿ׀ׁׂ׃ 54-58:5F0 60-7A:5D0 7D-7E:200E
"

/-- The upper half of windows-1256. -/
def windows1256Text : String := "
0=€ 1:67E 2=‚ƒ„…†‡ˆ‰ A:679 B=‹Œ D:686 E:698 F:688 10:6AF 11=‘’“”•–— 18:6A9 19=™
1A:691 1B=›œ 1D-1E:200C 1F:6BA 20:A0 21:60C 22=¢£¤¥¦§¨© 2A:6BE 2B=«¬ 2D:AD 2E=®¯°±²³´µ¶·¸¹ 3A:61B
3B=»¼½¾ 3F:61F 40:6C1 41-56:621 57=× 58-5B:637 5C-5F:640 60=à 61:644 62=â 63-66:645 67=çèéêë
6C-6D:649 6E=îï 70-73:64B 74=ô 75-76:64F 77=÷ 78:651 79=ù 7A:652 7B=ûü 7D-7E:200E 7F:6D2
"

/-- The upper half of windows-1257. -/
def windows1257Text : String := "
0=€ 1:81 2=‚ 3:83 4=„…†‡ 8:88 9=‰ A:8A B=‹ C:8C D=¨ˇ¸ 10:90 11=‘’“”•–— 18:98 19=™
1A:9A 1B=› 1C:9C 1D=¯˛ 1F-20:9F 22=¢£¤ 26=¦§Ø©Ŗ«¬ 2D:AD
2E=®Æ°±²³´µ¶·ø¹ŗ»¼½¾æĄĮĀĆÄÅĘĒČÉŹĖĢĶĪĻŠŃŅÓŌÕÖ×ŲŁŚŪÜŻŽßąįāćäåęēčéźėģķīļšńņóōõö÷ųłśūüżž˙
"

/-- The upper half of windows-1258. -/
def windows1258Text : String := "
0=€ 1:81 2=‚ƒ„…†‡ˆ‰ A:8A B=‹Œ D-10:8D 11=‘’“”•–—˜™ 1A:9A 1B=›œ 1D-1E:9D 1F=Ÿ
20:A0 21=¡¢£¤¥¦§¨©ª«¬ 2D:AD 2E=®¯°±²³´µ¶·¸¹º»¼½¾¿ÀÁÂĂÄÅÆÇÈÉÊË 4C:300 4D=ÍÎÏĐÑ 52:309
53=ÓÔƠÖ×ØÙÚÛÜƯ 5E:303 5F=ßàáâăäåæçèéêë 6C:301 6D=íîïđñ 72:323 73=óôơö÷øùúûüư₫ÿ
"

/-- The upper half of x-mac-cyrillic. -/
def macCyrillicText : String := "
0=АБВГДЕЖЗИЙКЛМНОПРСТУФХЦЧШЩЪЫЬЭЮЯ†°Ґ£§•¶І®©™Ђђ≠Ѓѓ∞±≤≥іµґЈЄєЇїЉљЊњјЅ¬√ƒ≈∆«»… 4A:A0
4B=ЋћЌќѕ–—“”‘’÷„ЎўЏџ№Ёёяабвгдежзийклмнопрстуфхцчшщъыьэю€
"

end JavaConstants.Charset
