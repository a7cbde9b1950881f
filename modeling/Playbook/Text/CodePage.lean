/-!
# Code pages

Encodings with one byte a character that agree with ASCII in their lower half. The upper half of
each is a row of 128 characters, in which a null character stands where there is none.

Main definitions: `CodePage`, `CodePage.all`.
-/

namespace Playbook

/-- An encoding with one byte a character. -/
structure CodePage where
  /-- Its names. -/
  names : List String
  /-- The characters of the upper half. -/
  upper : String
deriving Repr

namespace CodePage

/-- The page `cp437`. -/
def cp437 : CodePage :=
  ⟨["cp437", "437", "cspc8codepage437", "ibm437"],
    "ÇüéâäàåçêëèïîìÄÅÉæÆôöòûùÿÖÜ¢£¥₧ƒáíóúñÑªº¿⌐¬½¼¡«»░▒▓│┤╡╢╖╕╣║╗╝╜╛┐└┴┬├─┼╞╟╚╔╩╦╠═╬╧" ++
    "╨╤╥╙╘╒╓╫╪┘┌█▄▌▐▀αßΓπΣσµτΦΘΩδ∞φε∩≡±≥≤⌠⌡÷≈°∙·√ⁿ²■\u00a0"⟩

/-- The page `cp850`. -/
def cp850 : CodePage :=
  ⟨["cp850", "850", "cspc850multilingual", "ibm850"],
    "ÇüéâäàåçêëèïîìÄÅÉæÆôöòûùÿÖÜø£Ø×ƒáíóúñÑªº¿®¬½¼¡«»░▒▓│┤ÁÂÀ©╣║╗╝¢¥┐└┴┬├─┼ãÃ╚╔╩╦╠═╬¤" ++
    "ðÐÊËÈıÍÎÏ┘┌█▄¦Ì▀ÓßÔÒõÕµþÞÚÛÙýÝ¯´\u00ad±‗¾¶§÷¸°¨·¹³²■\u00a0"⟩

/-- The page `cp852`. -/
def cp852 : CodePage :=
  ⟨["cp852", "852", "cspcp852", "ibm852"],
    "ÇüéâäůćçłëŐőîŹÄĆÉĹĺôöĽľŚśÖÜŤťŁ×čáíóúĄąŽžĘę¬źČş«»░▒▓│┤ÁÂĚŞ╣║╗╝Żż┐└┴┬├─┼Ăă╚╔╩╦╠═╬¤" ++
    "đĐĎËďŇÍÎě┘┌█▄ŢŮ▀ÓßÔŃńňŠšŔÚŕŰýÝţ´\u00ad˝˛ˇ˘§÷¸°¨˙űŘř■\u00a0"⟩

/-- The page `cp855`. -/
def cp855 : CodePage :=
  ⟨["cp855", "855", "csibm855", "ibm855"],
    "ђЂѓЃёЁєЄѕЅіІїЇјЈљЉњЊћЋќЌўЎџЏюЮъЪаАбБцЦдДеЕфФгГ«»░▒▓│┤хХиИ╣║╗╝йЙ┐└┴┬├─┼кК╚╔╩╦╠═╬¤" ++
    "лЛмМнНоОп┘┌█▄Пя▀ЯрРсСтТуУжЖвВьЬ№\u00adыЫзЗшШэЭщЩчЧ§■\u00a0"⟩

/-- The page `cp858`. -/
def cp858 : CodePage :=
  ⟨["cp858", "858", "csibm858", "ibm858"],
    "ÇüéâäàåçêëèïîìÄÅÉæÆôöòûùÿÖÜø£Ø×ƒáíóúñÑªº¿®¬½¼¡«»░▒▓│┤ÁÂÀ©╣║╗╝¢¥┐└┴┬├─┼ãÃ╚╔╩╦╠═╬¤" ++
    "ðÐÊËÈ€ÍÎÏ┘┌█▄¦Ì▀ÓßÔÒõÕµþÞÚÛÙýÝ¯´\u00ad±‗¾¶§÷¸°¨·¹³²■\u00a0"⟩

/-- The page `cp866`. -/
def cp866 : CodePage :=
  ⟨["cp866", "866", "csibm866", "ibm866"],
    "АБВГДЕЖЗИЙКЛМНОПРСТУФХЦЧШЩЪЫЬЭЮЯабвгдежзийклмноп░▒▓│┤╡╢╖╕╣║╗╝╜╛┐└┴┬├─┼╞╟╚╔╩╦╠═╬╧" ++
    "╨╤╥╙╘╒╓╫╪┘┌█▄▌▐▀рстуфхцчшщъыьэюяЁёЄєЇїЎў°∙·√№¤■\u00a0"⟩

/-- The page `cp1250`. -/
def cp1250 : CodePage :=
  ⟨["cp1250", "1250", "windows_1250"],
    "€\x00‚\x00„…†‡\x00‰Š‹ŚŤŽŹ\x00‘’“”•–—\x00™š›śťžź\u00a0ˇ˘Ł¤Ą¦§¨©Ş«¬\u00ad®Ż°±˛ł´µ¶" ++
    "·¸ąş»Ľ˝ľżŔÁÂĂÄĹĆÇČÉĘËĚÍÎĎĐŃŇÓÔŐÖ×ŘŮÚŰÜÝŢßŕáâăäĺćçčéęëěíîďđńňóôőö÷řůúűüýţ˙"⟩

/-- The page `cp1251`. -/
def cp1251 : CodePage :=
  ⟨["cp1251", "1251", "windows_1251"],
    "ЂЃ‚ѓ„…†‡€‰Љ‹ЊЌЋЏђ‘’“”•–—\x00™љ›њќћџ\u00a0ЎўЈ¤Ґ¦§Ё©Є«¬\u00ad®Ї°±Ііґµ¶·ё№є»јЅѕїАБВ" ++
    "ГДЕЖЗИЙКЛМНОПРСТУФХЦЧШЩЪЫЬЭЮЯабвгдежзийклмнопрстуфхцчшщъыьэюя"⟩

/-- The page `cp1252`. -/
def cp1252 : CodePage :=
  ⟨["cp1252", "1252", "windows_1252"],
    "€\x00‚ƒ„…†‡ˆ‰Š‹Œ\x00Ž\x00\x00‘’“”•–—˜™š›œ\x00žŸ\u00a0¡¢£¤¥¦§¨©ª«¬\u00ad®¯°±²³´µ¶" ++
    "·¸¹º»¼½¾¿ÀÁÂÃÄÅÆÇÈÉÊËÌÍÎÏÐÑÒÓÔÕÖ×ØÙÚÛÜÝÞßàáâãäåæçèéêëìíîïðñòóôõö÷øùúûüýþÿ"⟩

/-- The page `cp1253`. -/
def cp1253 : CodePage :=
  ⟨["cp1253", "1253", "windows_1253"],
    "€\x00‚ƒ„…†‡\x00‰\x00‹\x00\x00\x00\x00\x00‘’“”•–—\x00™\x00›\x00\x00\x00\x00\u00a0" ++
    "΅Ά£¤¥¦§¨©\x00«¬\u00ad®―°±²³΄µ¶·ΈΉΊ»Ό½ΎΏΐΑΒΓΔΕΖΗΘΙΚΛΜΝΞΟΠΡ\x00ΣΤΥΦΧΨΩΪΫάέήίΰαβγδε" ++
    "ζηθικλμνξοπρςστυφχψωϊϋόύώ\x00"⟩

/-- The page `cp1254`. -/
def cp1254 : CodePage :=
  ⟨["cp1254", "1254", "windows_1254"],
    "€\x00‚ƒ„…†‡ˆ‰Š‹Œ\x00\x00\x00\x00‘’“”•–—˜™š›œ\x00\x00Ÿ\u00a0¡¢£¤¥¦§¨©ª«¬\u00ad®¯°" ++
    "±²³´µ¶·¸¹º»¼½¾¿ÀÁÂÃÄÅÆÇÈÉÊËÌÍÎÏĞÑÒÓÔÕÖ×ØÙÚÛÜİŞßàáâãäåæçèéêëìíîïğñòóôõö÷øùúûüışÿ"⟩

/-- The page `cp1255`. -/
def cp1255 : CodePage :=
  ⟨["cp1255", "1255", "windows_1255"],
    "€\x00‚ƒ„…†‡ˆ‰\x00‹\x00\x00\x00\x00\x00‘’“”•–—˜™\x00›\x00\x00\x00\x00\u00a0¡¢£₪¥¦" ++
    "§¨©×«¬\u00ad®¯°±²³´µ¶·¸¹÷»¼½¾¿ְֱֲֳִֵֶַָֹ\x00ֻּֽ־ֿ׀ׁׂ׃װױײ׳״\x00\x00\x00\x00\x00" ++
    "\x00\x00אבגדהוזחטיךכלםמןנסעףפץצקרשת\x00\x00\u200e\u200f\x00"⟩

/-- The page `cp1256`. -/
def cp1256 : CodePage :=
  ⟨["cp1256", "1256", "windows_1256"],
    "€پ‚ƒ„…†‡ˆ‰ٹ‹Œچژڈگ‘’“”•–—ک™ڑ›œ\u200c\u200dں\u00a0،¢£¤¥¦§¨©ھ«¬\u00ad®¯°±²³´µ¶·¸¹؛»" ++
    "¼½¾؟ہءآأؤإئابةتثجحخدذرزسشصض×طظعغـفقكàلâمنهوçèéêëىيîïًٌٍَôُِ÷ّùْûü\u200e\u200fے"⟩

/-- The page `cp1257`. -/
def cp1257 : CodePage :=
  ⟨["cp1257", "1257", "windows_1257"],
    "€\x00‚\x00„…†‡\x00‰\x00‹\x00¨ˇ¸\x00‘’“”•–—\x00™\x00›\x00¯˛\x00\u00a0\x00¢£¤\x00¦" ++
    "§Ø©Ŗ«¬\u00ad®Æ°±²³´µ¶·ø¹ŗ»¼½¾æĄĮĀĆÄÅĘĒČÉŹĖĢĶĪĻŠŃŅÓŌÕÖ×ŲŁŚŪÜŻŽßąįāćäåęēčéźėģķīļšń" ++
    "ņóōõö÷ųłśūüżž˙"⟩

/-- The page `cp1258`. -/
def cp1258 : CodePage :=
  ⟨["cp1258", "1258", "windows_1258"],
    "€\x00‚ƒ„…†‡ˆ‰\x00‹Œ\x00\x00\x00\x00‘’“”•–—˜™\x00›œ\x00\x00Ÿ\u00a0¡¢£¤¥¦§¨©ª«¬" ++
    "\u00ad®¯°±²³´µ¶·¸¹º»¼½¾¿ÀÁÂĂÄÅÆÇÈÉÊË̀ÍÎÏĐÑ̉ÓÔƠÖ×ØÙÚÛÜỮßàáâăäåæçèéêë́íîïđṇ̃óôơö÷" ++
    "øùúûüư₫ÿ"⟩

/-- The page `iso8859-2`. -/
def iso8859part2 : CodePage :=
  ⟨["iso8859_2", "csisolatin2", "iso_8859_2", "iso_8859_2_1987", "iso_ir_101", "l2", "latin2"],
    "\u0080\u0081\u0082\u0083\u0084\u0085\u0086\u0087\u0088\u0089\u008a\u008b\u008c" ++
    "\u008d\u008e\u008f\u0090\u0091\u0092\u0093\u0094\u0095\u0096\u0097\u0098\u0099" ++
    "\u009a\u009b\u009c\u009d\u009e\u009f\u00a0Ą˘Ł¤ĽŚ§¨ŠŞŤŹ\u00adŽŻ°ą˛ł´ľśˇ¸šşťź˝žżŔÁ" ++
    "ÂĂÄĹĆÇČÉĘËĚÍÎĎĐŃŇÓÔŐÖ×ŘŮÚŰÜÝŢßŕáâăäĺćçčéęëěíîďđńňóôőö÷řůúűüýţ˙"⟩

/-- The page `iso8859-3`. -/
def iso8859part3 : CodePage :=
  ⟨["iso8859_3", "csisolatin3", "iso_8859_3", "iso_8859_3_1988", "iso_ir_109", "l3", "latin3"],
    "\u0080\u0081\u0082\u0083\u0084\u0085\u0086\u0087\u0088\u0089\u008a\u008b\u008c" ++
    "\u008d\u008e\u008f\u0090\u0091\u0092\u0093\u0094\u0095\u0096\u0097\u0098\u0099" ++
    "\u009a\u009b\u009c\u009d\u009e\u009f\u00a0Ħ˘£¤\x00Ĥ§¨İŞĞĴ\u00ad\x00Ż°ħ²³´µĥ·¸ışğ" ++
    "ĵ½\x00żÀÁÂ\x00ÄĊĈÇÈÉÊËÌÍÎÏ\x00ÑÒÓÔĠÖ×ĜÙÚÛÜŬŜßàáâ\x00äċĉçèéêëìíîï\x00ñòóôġö÷ĝùúûü" ++
    "ŭŝ˙"⟩

/-- The page `iso8859-4`. -/
def iso8859part4 : CodePage :=
  ⟨["iso8859_4", "csisolatin4", "iso_8859_4", "iso_8859_4_1988", "iso_ir_110", "l4", "latin4"],
    "\u0080\u0081\u0082\u0083\u0084\u0085\u0086\u0087\u0088\u0089\u008a\u008b\u008c" ++
    "\u008d\u008e\u008f\u0090\u0091\u0092\u0093\u0094\u0095\u0096\u0097\u0098\u0099" ++
    "\u009a\u009b\u009c\u009d\u009e\u009f\u00a0ĄĸŖ¤ĨĻ§¨ŠĒĢŦ\u00adŽ¯°ą˛ŗ´ĩļˇ¸šēģŧŊžŋĀÁ" ++
    "ÂÃÄÅÆĮČÉĘËĖÍÎĪĐŅŌĶÔÕÖ×ØŲÚÛÜŨŪßāáâãäåæįčéęëėíîīđņōķôõö÷øųúûüũū˙"⟩

/-- The page `iso8859-5`. -/
def iso8859part5 : CodePage :=
  ⟨["iso8859_5", "csisolatincyrillic", "cyrillic", "iso_8859_5", "iso_8859_5_1988", "iso_ir_144"],
    "\u0080\u0081\u0082\u0083\u0084\u0085\u0086\u0087\u0088\u0089\u008a\u008b\u008c" ++
    "\u008d\u008e\u008f\u0090\u0091\u0092\u0093\u0094\u0095\u0096\u0097\u0098\u0099" ++
    "\u009a\u009b\u009c\u009d\u009e\u009f\u00a0ЁЂЃЄЅІЇЈЉЊЋЌ\u00adЎЏАБВГДЕЖЗИЙКЛМНОПРС" ++
    "ТУФХЦЧШЩЪЫЬЭЮЯабвгдежзийклмнопрстуфхцчшщъыьэюя№ёђѓєѕіїјљњћќ§ўџ"⟩

/-- The page `iso8859-6`. -/
def iso8859part6 : CodePage :=
  ⟨["iso8859_6", "arabic", "asmo_708", "csisolatinarabic", "ecma_114", "iso_8859_6",
    "iso_8859_6_1987", "iso_ir_127"],
    "\u0080\u0081\u0082\u0083\u0084\u0085\u0086\u0087\u0088\u0089\u008a\u008b\u008c" ++
    "\u008d\u008e\u008f\u0090\u0091\u0092\u0093\u0094\u0095\u0096\u0097\u0098\u0099" ++
    "\u009a\u009b\u009c\u009d\u009e\u009f\u00a0\x00\x00\x00¤\x00\x00\x00\x00\x00\x00" ++
    "\x00،\u00ad\x00\x00\x00\x00\x00\x00\x00\x00\x00\x00\x00\x00\x00؛\x00\x00\x00؟" ++
    "\x00ءآأؤإئابةتثجحخدذرزسشصضطظعغ\x00\x00\x00\x00\x00ـفقكلمنهوىيًٌٍَُِّْ\x00\x00" ++
    "\x00\x00\x00\x00\x00\x00\x00\x00\x00\x00\x00"⟩

/-- The page `iso8859-7`. -/
def iso8859part7 : CodePage :=
  ⟨["iso8859_7", "csisolatingreek", "ecma_118", "elot_928", "greek", "greek8", "iso_8859_7",
    "iso_8859_7_1987", "iso_ir_126"],
    "\u0080\u0081\u0082\u0083\u0084\u0085\u0086\u0087\u0088\u0089\u008a\u008b\u008c" ++
    "\u008d\u008e\u008f\u0090\u0091\u0092\u0093\u0094\u0095\u0096\u0097\u0098\u0099" ++
    "\u009a\u009b\u009c\u009d\u009e\u009f\u00a0‘’£€₯¦§¨©ͺ«¬\u00ad\x00―°±²³΄΅Ά·ΈΉΊ»Ό½Ύ" ++
    "ΏΐΑΒΓΔΕΖΗΘΙΚΛΜΝΞΟΠΡ\x00ΣΤΥΦΧΨΩΪΫάέήίΰαβγδεζηθικλμνξοπρςστυφχψωϊϋόύώ\x00"⟩

/-- The page `iso8859-8`. -/
def iso8859part8 : CodePage :=
  ⟨["iso8859_8", "csisolatinhebrew", "hebrew", "iso_8859_8", "iso_8859_8_1988", "iso_ir_138"],
    "\u0080\u0081\u0082\u0083\u0084\u0085\u0086\u0087\u0088\u0089\u008a\u008b\u008c" ++
    "\u008d\u008e\u008f\u0090\u0091\u0092\u0093\u0094\u0095\u0096\u0097\u0098\u0099" ++
    "\u009a\u009b\u009c\u009d\u009e\u009f\u00a0\x00¢£¤¥¦§¨©×«¬\u00ad®¯°±²³´µ¶·¸¹÷»¼½¾" ++
    "\x00\x00\x00\x00\x00\x00\x00\x00\x00\x00\x00\x00\x00\x00\x00\x00\x00\x00\x00\x00" ++
    "\x00\x00\x00\x00\x00\x00\x00\x00\x00\x00\x00\x00‗אבגדהוזחטיךכלםמןנסעףפץצקרשת\x00" ++
    "\x00\u200e\u200f\x00"⟩

/-- The page `iso8859-9`. -/
def iso8859part9 : CodePage :=
  ⟨["iso8859_9", "csisolatin5", "iso_8859_9", "iso_8859_9_1989", "iso_ir_148", "l5", "latin5"],
    "\u0080\u0081\u0082\u0083\u0084\u0085\u0086\u0087\u0088\u0089\u008a\u008b\u008c" ++
    "\u008d\u008e\u008f\u0090\u0091\u0092\u0093\u0094\u0095\u0096\u0097\u0098\u0099" ++
    "\u009a\u009b\u009c\u009d\u009e\u009f\u00a0¡¢£¤¥¦§¨©ª«¬\u00ad®¯°±²³´µ¶·¸¹º»¼½¾¿ÀÁ" ++
    "ÂÃÄÅÆÇÈÉÊËÌÍÎÏĞÑÒÓÔÕÖ×ØÙÚÛÜİŞßàáâãäåæçèéêëìíîïğñòóôõö÷øùúûüışÿ"⟩

/-- The page `iso8859-10`. -/
def iso8859part10 : CodePage :=
  ⟨["iso8859_10", "csisolatin6", "iso_8859_10", "iso_8859_10_1992", "iso_ir_157", "l6", "latin6"],
    "\u0080\u0081\u0082\u0083\u0084\u0085\u0086\u0087\u0088\u0089\u008a\u008b\u008c" ++
    "\u008d\u008e\u008f\u0090\u0091\u0092\u0093\u0094\u0095\u0096\u0097\u0098\u0099" ++
    "\u009a\u009b\u009c\u009d\u009e\u009f\u00a0ĄĒĢĪĨĶ§ĻĐŠŦŽ\u00adŪŊ°ąēģīĩķ·ļđšŧž―ūŋĀÁ" ++
    "ÂÃÄÅÆĮČÉĘËĖÍÎÏÐŅŌÓÔÕÖŨØŲÚÛÜÝÞßāáâãäåæįčéęëėíîïðņōóôõöũøųúûüýþĸ"⟩

/-- The page `iso8859-11`. -/
def iso8859part11 : CodePage :=
  ⟨["iso8859_11", "thai", "iso_8859_11", "iso_8859_11_2001"],
    "\u0080\u0081\u0082\u0083\u0084\u0085\u0086\u0087\u0088\u0089\u008a\u008b\u008c" ++
    "\u008d\u008e\u008f\u0090\u0091\u0092\u0093\u0094\u0095\u0096\u0097\u0098\u0099" ++
    "\u009a\u009b\u009c\u009d\u009e\u009f\u00a0กขฃคฅฆงจฉชซฌญฎฏฐฑฒณดตถทธนบปผฝพฟภมยรฤลฦ" ++
    "วศษสหฬอฮฯะัาำิีึืฺุู\x00\x00\x00\x00฿เแโใไๅๆ็่้๊๋์ํ๎๏๐๑๒๓๔๕๖๗๘๙๚๛\x00\x00\x00" ++
    "\x00"⟩

/-- The page `iso8859-13`. -/
def iso8859part13 : CodePage :=
  ⟨["iso8859_13", "iso_8859_13", "l7", "latin7"],
    "\u0080\u0081\u0082\u0083\u0084\u0085\u0086\u0087\u0088\u0089\u008a\u008b\u008c" ++
    "\u008d\u008e\u008f\u0090\u0091\u0092\u0093\u0094\u0095\u0096\u0097\u0098\u0099" ++
    "\u009a\u009b\u009c\u009d\u009e\u009f\u00a0”¢£¤„¦§Ø©Ŗ«¬\u00ad®Æ°±²³“µ¶·ø¹ŗ»¼½¾æĄĮ" ++
    "ĀĆÄÅĘĒČÉŹĖĢĶĪĻŠŃŅÓŌÕÖ×ŲŁŚŪÜŻŽßąįāćäåęēčéźėģķīļšńņóōõö÷ųłśūüżž’"⟩

/-- The page `iso8859-14`. -/
def iso8859part14 : CodePage :=
  ⟨["iso8859_14", "iso_8859_14", "iso_8859_14_1998", "iso_celtic", "iso_ir_199", "l8", "latin8"],
    "\u0080\u0081\u0082\u0083\u0084\u0085\u0086\u0087\u0088\u0089\u008a\u008b\u008c" ++
    "\u008d\u008e\u008f\u0090\u0091\u0092\u0093\u0094\u0095\u0096\u0097\u0098\u0099" ++
    "\u009a\u009b\u009c\u009d\u009e\u009f\u00a0Ḃḃ£ĊċḊ§Ẁ©ẂḋỲ\u00ad®ŸḞḟĠġṀṁ¶ṖẁṗẃṠỳẄẅṡÀÁ" ++
    "ÂÃÄÅÆÇÈÉÊËÌÍÎÏŴÑÒÓÔÕÖṪØÙÚÛÜÝŶßàáâãäåæçèéêëìíîïŵñòóôõöṫøùúûüýŷÿ"⟩

/-- The page `iso8859-15`. -/
def iso8859part15 : CodePage :=
  ⟨["iso8859_15", "iso_8859_15", "l9", "latin9"],
    "\u0080\u0081\u0082\u0083\u0084\u0085\u0086\u0087\u0088\u0089\u008a\u008b\u008c" ++
    "\u008d\u008e\u008f\u0090\u0091\u0092\u0093\u0094\u0095\u0096\u0097\u0098\u0099" ++
    "\u009a\u009b\u009c\u009d\u009e\u009f\u00a0¡¢£€¥Š§š©ª«¬\u00ad®¯°±²³Žµ¶·ž¹º»ŒœŸ¿ÀÁ" ++
    "ÂÃÄÅÆÇÈÉÊËÌÍÎÏÐÑÒÓÔÕÖ×ØÙÚÛÜÝÞßàáâãäåæçèéêëìíîïðñòóôõö÷øùúûüýþÿ"⟩

/-- The page `iso8859-16`. -/
def iso8859part16 : CodePage :=
  ⟨["iso8859_16", "iso_8859_16", "iso_8859_16_2001", "iso_ir_226", "l10", "latin10"],
    "\u0080\u0081\u0082\u0083\u0084\u0085\u0086\u0087\u0088\u0089\u008a\u008b\u008c" ++
    "\u008d\u008e\u008f\u0090\u0091\u0092\u0093\u0094\u0095\u0096\u0097\u0098\u0099" ++
    "\u009a\u009b\u009c\u009d\u009e\u009f\u00a0ĄąŁ€„Š§š©Ș«Ź\u00adźŻ°±ČłŽ”¶·žčș»ŒœŸżÀÁ" ++
    "ÂĂÄĆÆÇÈÉÊËÌÍÎÏĐŃÒÓÔŐÖŚŰÙÚÛÜĘȚßàáâăäćæçèéêëìíîïđńòóôőöśűùúûüęțÿ"⟩

/-- The page `koi8-r`. -/
def koi8R : CodePage :=
  ⟨["koi8_r", "cskoi8r"],
    "─│┌┐└┘├┤┬┴┼▀▄█▌▐░▒▓⌠■∙√≈≤≥\u00a0⌡°²·÷═║╒ё╓╔╕╖╗╘╙╚╛╜╝╞╟╠╡Ё╢╣╤╥╦╧╨╩╪╫╬©юабцдефгхий" ++
    "клмнопярстужвьызшэщчъЮАБЦДЕФГХИЙКЛМНОПЯРСТУЖВЬЫЗШЭЩЧЪ"⟩

/-- The page `koi8-u`. -/
def koi8U : CodePage :=
  ⟨["koi8_u"],
    "─│┌┐└┘├┤┬┴┼▀▄█▌▐░▒▓⌠■∙√≈≤≥\u00a0⌡°²·÷═║╒ёє╔ії╗╘╙╚╛ґ╝╞╟╠╡ЁЄ╣ІЇ╦╧╨╩╪Ґ╬©юабцдефгхий" ++
    "клмнопярстужвьызшэщчъЮАБЦДЕФГХИЙКЛМНОПЯРСТУЖВЬЫЗШЭЩЧЪ"⟩

/-- The page `mac-roman`. -/
def macRoman : CodePage :=
  ⟨["mac_roman", "macintosh", "macroman"],
    "ÄÅÇÉÑÖÜáàâäãåçéèêëíìîïñóòôöõúùûü†°¢£§•¶ß®©™´¨≠ÆØ∞±≤≥¥µ∂∑∏π∫ªºΩæø¿¡¬√ƒ≈∆«»…\u00a0" ++
    "ÀÃÕŒœ–—“”‘’÷◊ÿŸ⁄€‹›ﬁﬂ‡·‚„‰ÂÊÁËÈÍÎÏÌÓÔ\uf8ffÒÚÛÙıˆ˜¯˘˙˚¸˝˛ˇ"⟩

/-- The page `tis-620`. -/
def tis620 : CodePage :=
  ⟨["tis_620", "tis620", "tis_620_0", "tis_620_2529_0", "tis_620_2529_1", "iso_ir_166"],
    "\u0080\u0081\u0082\u0083\u0084\u0085\u0086\u0087\u0088\u0089\u008a\u008b\u008c" ++
    "\u008d\u008e\u008f\u0090\u0091\u0092\u0093\u0094\u0095\u0096\u0097\u0098\u0099" ++
    "\u009a\u009b\u009c\u009d\u009e\u009f\x00กขฃคฅฆงจฉชซฌญฎฏฐฑฒณดตถทธนบปผฝพฟภมยรฤลฦวศ" ++
    "ษสหฬอฮฯะัาำิีึืฺุู\x00\x00\x00\x00฿เแโใไๅๆ็่้๊๋์ํ๎๏๐๑๒๓๔๕๖๗๘๙๚๛\x00\x00\x00\x00"⟩

/-- The page `cp874`. -/
def cp874 : CodePage :=
  ⟨["cp874"],
    "€\x00\x00\x00\x00…\x00\x00\x00\x00\x00\x00\x00\x00\x00\x00\x00‘’“”•–—\x00\x00" ++
    "\x00\x00\x00\x00\x00\x00\u00a0กขฃคฅฆงจฉชซฌญฎฏฐฑฒณดตถทธนบปผฝพฟภมยรฤลฦวศษสหฬอฮฯะัา" ++
    "ำิีึืฺุู\x00\x00\x00\x00฿เแโใไๅๆ็่้๊๋์ํ๎๏๐๑๒๓๔๕๖๗๘๙๚๛\x00\x00\x00\x00"⟩

/-- The page `mac-cyrillic`. -/
def macCyrillic : CodePage :=
  ⟨["mac_cyrillic", "maccyrillic"],
    "АБВГДЕЖЗИЙКЛМНОПРСТУФХЦЧШЩЪЫЬЭЮЯ†°Ґ£§•¶І®©™Ђђ≠Ѓѓ∞±≤≥іµґЈЄєЇїЉљЊњјЅ¬√ƒ≈∆«»…\u00a0" ++
    "ЋћЌќѕ–—“”‘’÷„ЎўЏџ№Ёёяабвгдежзийклмнопрстуфхцчшщъыьэю€"⟩

/-- All pages. -/
def all : List CodePage :=
  [cp437, cp850, cp852, cp855, cp858, cp866, cp1250, cp1251, cp1252, cp1253, cp1254, cp1255,
    cp1256, cp1257, cp1258, iso8859part2, iso8859part3, iso8859part4, iso8859part5, iso8859part6,
    iso8859part7, iso8859part8, iso8859part9, iso8859part10, iso8859part11, iso8859part13,
    iso8859part14, iso8859part15, iso8859part16, koi8R, koi8U, macRoman, tis620, cp874,
    macCyrillic]

/-- The byte of a character, if the page has it. -/
def byte? (p : CodePage) (c : Char) : Option UInt8 :=
  if c.toNat < 128 then some (UInt8.ofNat c.toNat)
  else (p.upper.toList.idxOf? c).map fun n => UInt8.ofNat (n + 128)

/-- The character of a byte, if there is one. -/
def char? (p : CodePage) (b : UInt8) : Option Char :=
  if b.toNat < 128 then some (Char.ofNat b.toNat)
  else p.upper.toList[b.toNat - 128]?.filter (· ≠ Char.ofNat 0)

end CodePage

end Playbook
