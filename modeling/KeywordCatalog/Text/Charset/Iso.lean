import KeywordCatalog.Text.Charset.Basic

/-!
# The parts of the international standard for eight-bit characters

Each with its names and with the characters of the bytes from 128 to 255, in order.
-/

namespace KeywordCatalog.Text

/-- The parts of the international standard for eight-bit characters. -/
def isoCharsets : List Charset :=
  [{ ownNames := ["iso8859_2"]
     otherNames := ["csisolatin2", "iso_8859_2", "iso_8859_2_1987", "iso_ir_101", "l2", "latin2"]
     upper := upperControls
       ++ "\xa0Ą˘Ł¤ĽŚ§¨ŠŞŤŹ\xadŽŻ°ą˛ł´ľśˇ¸šşťź˝žżŔÁÂĂÄĹĆÇČÉĘËĚÍÎĎĐŃŇÓÔŐÖ×ŘŮÚŰÜÝŢßŕáâăäĺćçčéęëěíîď"
       ++ "đńňóôőö÷řůúűüýţ˙" },
   { ownNames := ["iso8859_3"]
     otherNames := ["csisolatin3", "iso_8859_3", "iso_8859_3_1988", "iso_ir_109", "l3", "latin3"]
     upper := upperControls
       ++ "\xa0Ħ˘£¤�Ĥ§¨İŞĞĴ\xad�Ż°ħ²³´µĥ·¸ışğĵ½�żÀÁÂ�ÄĊĈÇÈÉÊËÌÍÎÏ�ÑÒÓÔĠÖ×ĜÙÚÛÜŬŜßàáâ�äċĉçèéêëìíîï"
       ++ "�ñòóôġö÷ĝùúûüŭŝ˙" },
   { ownNames := ["iso8859_4"]
     otherNames := ["csisolatin4", "iso_8859_4", "iso_8859_4_1988", "iso_ir_110", "l4", "latin4"]
     upper := upperControls
       ++ "\xa0ĄĸŖ¤ĨĻ§¨ŠĒĢŦ\xadŽ¯°ą˛ŗ´ĩļˇ¸šēģŧŊžŋĀÁÂÃÄÅÆĮČÉĘËĖÍÎĪĐŅŌĶÔÕÖ×ØŲÚÛÜŨŪßāáâãäåæįčéęëėíîī"
       ++ "đņōķôõö÷øųúûüũū˙" },
   { ownNames := ["iso8859_5"]
     otherNames := ["csisolatincyrillic", "cyrillic", "iso_8859_5", "iso_8859_5_1988",
       "iso_ir_144"]
     upper := upperControls
       ++ "\xa0ЁЂЃЄЅІЇЈЉЊЋЌ\xadЎЏАБВГДЕЖЗИЙКЛМНОПРСТУФХЦЧШЩЪЫЬЭЮЯабвгдежзийклмнопрстуфхцчшщъыьэюя"
       ++ "№ёђѓєѕіїјљњћќ§ўџ" },
   { ownNames := ["iso8859_6"]
     otherNames := ["arabic", "asmo_708", "csisolatinarabic", "ecma_114", "iso_8859_6",
       "iso_8859_6_1987", "iso_ir_127"]
     upper := upperControls
       ++ "\xa0���¤�������،\xad�������������؛���؟�ءآأؤإئابةتثجحخدذرزسشصضطظعغ�����ـفقكلمنهوىي"
       ++ "\u064b\u064c\u064d\u064e\u064f\u0650\u0651\u0652�������������" },
   { ownNames := ["iso8859_7"]
     otherNames := ["csisolatingreek", "ecma_118", "elot_928", "greek", "greek8", "iso_8859_7",
       "iso_8859_7_1987", "iso_ir_126"]
     upper := upperControls
       ++ "\xa0‘’£€₯¦§¨©ͺ«¬\xad�―°±²³΄΅Ά·ΈΉΊ»Ό½ΎΏΐΑΒΓΔΕΖΗΘΙΚΛΜΝΞΟΠΡ�ΣΤΥΦΧΨΩΪΫάέήίΰαβγδεζηθικλμνξο"
       ++ "πρςστυφχψωϊϋόύώ�" },
   { ownNames := ["iso8859_8"]
     otherNames := ["csisolatinhebrew", "hebrew", "iso_8859_8", "iso_8859_8_1988", "iso_ir_138"]
     upper := upperControls
       ++ "\xa0�¢£¤¥¦§¨©×«¬\xad®¯°±²³´µ¶·¸¹÷»¼½¾��������������������������������‗אבגדהוזחטיךכלםמן"
       ++ "נסעףפץצקרשת��\u200e\u200f�" },
   { ownNames := ["iso8859_9"]
     otherNames := ["csisolatin5", "iso_8859_9", "iso_8859_9_1989", "iso_ir_148", "l5", "latin5"]
     upper := upperControls
       ++ "\xa0¡¢£¤¥¦§¨©ª«¬\xad®¯°±²³´µ¶·¸¹º»¼½¾¿ÀÁÂÃÄÅÆÇÈÉÊËÌÍÎÏĞÑÒÓÔÕÖ×ØÙÚÛÜİŞßàáâãäåæçèéêëìíîï"
       ++ "ğñòóôõö÷øùúûüışÿ" },
   { ownNames := ["iso8859_10"]
     otherNames := ["csisolatin6", "iso_8859_10", "iso_8859_10_1992", "iso_ir_157", "l6", "latin6"]
     upper := upperControls
       ++ "\xa0ĄĒĢĪĨĶ§ĻĐŠŦŽ\xadŪŊ°ąēģīĩķ·ļđšŧž―ūŋĀÁÂÃÄÅÆĮČÉĘËĖÍÎÏÐŅŌÓÔÕÖŨØŲÚÛÜÝÞßāáâãäåæįčéęëėíîï"
       ++ "ðņōóôõöũøųúûüýþĸ" },
   { ownNames := ["iso8859_11"]
     otherNames := ["iso_8859_11", "iso_8859_11_2001", "thai"]
     upper := upperControls
       ++ "\xa0กขฃคฅฆงจฉชซฌญฎฏฐฑฒณดตถทธนบปผฝพฟภมยรฤลฦวศษสหฬอฮฯะ\u0e31าำ\u0e34\u0e35\u0e36\u0e37"
       ++ "\u0e38\u0e39\u0e3a����฿เแโใไๅๆ\u0e47\u0e48\u0e49\u0e4a\u0e4b\u0e4c\u0e4d\u0e4e๏๐๑๒๓๔๕๖"
       ++ "๗๘๙๚๛����" },
   { ownNames := ["iso8859_13"]
     otherNames := ["iso_8859_13", "l7", "latin7"]
     upper := upperControls
       ++ "\xa0”¢£¤„¦§Ø©Ŗ«¬\xad®Æ°±²³“µ¶·ø¹ŗ»¼½¾æĄĮĀĆÄÅĘĒČÉŹĖĢĶĪĻŠŃŅÓŌÕÖ×ŲŁŚŪÜŻŽßąįāćäåęēčéźėģķīļ"
       ++ "šńņóōõö÷ųłśūüżž’" },
   { ownNames := ["iso8859_14"]
     otherNames := ["iso_8859_14", "iso_8859_14_1998", "iso_celtic", "iso_ir_199", "l8", "latin8"]
     upper := upperControls
       ++ "\xa0Ḃḃ£ĊċḊ§Ẁ©ẂḋỲ\xad®ŸḞḟĠġṀṁ¶ṖẁṗẃṠỳẄẅṡÀÁÂÃÄÅÆÇÈÉÊËÌÍÎÏŴÑÒÓÔÕÖṪØÙÚÛÜÝŶßàáâãäåæçèéêëìíîï"
       ++ "ŵñòóôõöṫøùúûüýŷÿ" },
   { ownNames := ["iso8859_15"]
     otherNames := ["iso_8859_15", "l9", "latin9"]
     upper := upperControls
       ++ "\xa0¡¢£€¥Š§š©ª«¬\xad®¯°±²³Žµ¶·ž¹º»ŒœŸ¿ÀÁÂÃÄÅÆÇÈÉÊËÌÍÎÏÐÑÒÓÔÕÖ×ØÙÚÛÜÝÞßàáâãäåæçèéêëìíîï"
       ++ "ðñòóôõö÷øùúûüýþÿ" },
   { ownNames := ["iso8859_16"]
     otherNames := ["iso_8859_16", "iso_8859_16_2001", "iso_ir_226", "l10", "latin10"]
     upper := upperControls
       ++ "\xa0ĄąŁ€„Š§š©Ș«Ź\xadźŻ°±ČłŽ”¶·žčș»ŒœŸżÀÁÂĂÄĆÆÇÈÉÊËÌÍÎÏĐŃÒÓÔŐÖŚŰÙÚÛÜĘȚßàáâăäćæçèéêëìíîï"
       ++ "đńòóôőöśűùúûüęțÿ" }]

end KeywordCatalog.Text
