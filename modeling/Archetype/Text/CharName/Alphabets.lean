/-!
# Names of characters: the alphabets and abugidas up to Georgian

One entry a character, divided by `|`, in the order of the code points: the code point in
hexadecimal and a colon where it does not follow the one before, then the number of words that the
name shares with the start of the name before it, then the other words. An entry with `+n` behind it
stands for `n` more names, in which the number at the end is counted on. One or two small letters
stand for a frequent word.
-/

namespace Archetype.Text

/-- names of the alphabets and abugidas up to Georgian -/
def alphabetsNames : String :=
  "20:0SPACE|0EXCLAMATION mr|0QUOTATION mr|0NUMBER i|0DOLLAR i|0PERCENT i|0AMPERSAND|0APOSTROPHE|
  0t pa|0r pa|0as|0pl i|0COMMA|0HYPHEN-MINUS|0FULL STOP|0SOLIDUS|0dg ZERO|1on|1tw|1h|1fo|1fi|1SIX|
  1se|1ei|1ni|0COLON|0SEMICOLON|0le i|0EQUALS i|0gr i|0QUESTION mr|0COMMERCIAL AT|0LATIN c l A|3B|
  3C|3D|3E|3F|3G|3H|3I|3J|3K|3L|3M|3N|3O|3P|3Q|3R|3S|3T|3U|3V|3W|3X|3Y|3Z|0t sq br|0REVERSE SOLIDUS|
  0r sq br|0cc ACCENT|0LOW LINE|0GRAVE ACCENT|0LATIN s l A|3B|3C|3D|3E|3F|3G|3H|3I|3J|3K|3L|3M|3N|
  3O|3P|3Q|3R|3S|3T|3U|3V|3W|3X|3Y|3Z|0t CURLY br|0v LINE|0r CURLY br|0ti|A0:0NO-BREAK SPACE|
  0iv EXCLAMATION mr|0CENT i|0POUND i|0CURRENCY i|0YEN i|0BROKEN BAR|0SECTION i|0di|0COPYRIGHT i|
  0FEMININE ORDINAL INDICATOR|0LEFT-POINTING d ANGLE QUOTATION mr|0NOT i|0SOFT HYPHEN|0REGISTERED i|
  0MACRON|0DEGREE i|0PLUS-MINUS i|0SUPERSCRIPT tw|1h|0ac ACCENT|0MICRO i|0PILCROW i|0mi do|0CEDILLA|
  0SUPERSCRIPT on|0MASCULINE ORDINAL INDICATOR|0ri d ANGLE QUOTATION mr|0VULGAR FRACTION on QUARTER|
  3ha|2h QUARTERS|0iv QUESTION mr|0LATIN c l A w GRAVE|5ac|5cc|5ti|5di|5RING b|3AE|3C w CEDILLA|
  3E w GRAVE|5ac|5cc|5di|3I w GRAVE|5ac|5cc|5di|3ETH|3N w ti|3O w GRAVE|5ac|5cc|5ti|5di|
  0MULTIPLICATION i|0LATIN c l O w k|3U w GRAVE|5ac|5cc|5di|3Y w ac|3THORN|1s l SHARP S|3A w GRAVE|
  5ac|5cc|5ti|5di|5RING b|3AE|3C w CEDILLA|3E w GRAVE|5ac|5cc|5di|3I w GRAVE|5ac|5cc|5di|3ETH|
  3N w ti|3O w GRAVE|5ac|5cc|5ti|5di|0DIVISION i|0LATIN s l O w k|3U w GRAVE|5ac|5cc|5di|3Y w ac|
  3THORN|3Y w di|1c l A w MACRON|1s l A w MACRON|1c l A w BREVE|1s l A w BREVE|1c l A w OGONEK|
  1s l A w OGONEK|1c l C w ac|1s l C w ac|1c l C w cc|1s l C w cc|1c l C w do b|1s l C w do b|
  1c l C w CARON|1s l C w CARON|1c l D w CARON|1s l D w CARON|1c l D w k|1s l D w k|1c l E w MACRON|
  1s l E w MACRON|1c l E w BREVE|1s l E w BREVE|1c l E w do b|1s l E w do b|1c l E w OGONEK|
  1s l E w OGONEK|1c l E w CARON|1s l E w CARON|1c l G w cc|1s l G w cc|1c l G w BREVE|
  1s l G w BREVE|1c l G w do b|1s l G w do b|1c l G w CEDILLA|1s l G w CEDILLA|1c l H w cc|
  1s l H w cc|1c l H w k|1s l H w k|1c l I w ti|1s l I w ti|1c l I w MACRON|1s l I w MACRON|
  1c l I w BREVE|1s l I w BREVE|1c l I w OGONEK|1s l I w OGONEK|1c l I w do b|1s l DOTLESS I|
  1c LIGATURE IJ|1s LIGATURE IJ|1c l J w cc|1s l J w cc|1c l K w CEDILLA|1s l K w CEDILLA|3KRA|
  1c l L w ac|1s l L w ac|1c l L w CEDILLA|1s l L w CEDILLA|1c l L w CARON|1s l L w CARON|
  1c l L w mi do|1s l L w mi do|1c l L w k|1s l L w k|1c l N w ac|1s l N w ac|1c l N w CEDILLA|
  1s l N w CEDILLA|1c l N w CARON|1s l N w CARON|4PRECEDED BY APOSTROPHE|1c l ENG|1s l ENG|
  1c l O w MACRON|1s l O w MACRON|1c l O w BREVE|1s l O w BREVE|1c l O w d ac|1s l O w d ac|
  1c LIGATURE OE|1s LIGATURE OE|1c l R w ac|1s l R w ac|1c l R w CEDILLA|1s l R w CEDILLA|
  1c l R w CARON|1s l R w CARON|1c l S w ac|1s l S w ac|1c l S w cc|1s l S w cc|1c l S w CEDILLA|
  1s l S w CEDILLA|1c l S w CARON|1s l S w CARON|1c l T w CEDILLA|1s l T w CEDILLA|1c l T w CARON|
  1s l T w CARON|1c l T w k|1s l T w k|1c l U w ti|1s l U w ti|1c l U w MACRON|1s l U w MACRON|
  1c l U w BREVE|1s l U w BREVE|1c l U w RING b|1s l U w RING b|1c l U w d ac|1s l U w d ac|
  1c l U w OGONEK|1s l U w OGONEK|1c l W w cc|1s l W w cc|1c l Y w cc|1s l Y w cc|1c l Y w di|
  3Z w ac|1s l Z w ac|1c l Z w do b|1s l Z w do b|1c l Z w CARON|1s l Z w CARON|3LONG S|3B w k|
  1c l B w ho|5TOPBAR|1s l B w TOPBAR|1c l TONE SIX|1s l TONE SIX|1c l OPEN O|3C w ho|1s l C w ho|
  1c l AFRICAN D|3D w ho|5TOPBAR|1s l D w TOPBAR|3tu DELTA|1c l rv E|3SCHWA|3OPEN E|3F w ho|
  1s l F w ho|1c l G w ho|3GAMMA|1s l HV|1c l IOTA|3I w k|3K w ho|1s l K w ho|3L w BAR|3LAMBDA w k|
  1c l tu M|3N w t ho|1s l N w LONG r LEG|1c l O w mi ti|5HORN|1s l O w HORN|1c l OI|1s l OI|
  1c l P w ho|1s l P w ho|1l YR|1c l TONE tw|1s l TONE tw|1c l ESH|1l rv ESH LOOP|
  1s l T w PALATAL ho|1c l T w ho|1s l T w ho|1c l T w re ho|3U w HORN|1s l U w HORN|1c l UPSILON|
  3V w ho|3Y w ho|1s l Y w ho|1c l Z w k|1s l Z w k|1c l EZH|4rv|1s l EZH rv|4w TAIL|1l tw w k|
  1c l TONE fi|1s l TONE fi|1l iv GLOTTAL STOP w k|2WYNN|2DENTAL CLICK|2LATERAL CLICK|
  2ALVEOLAR CLICK|2re CLICK|1c l DZ w CARON|3D w s l Z w CARON|1s l DZ w CARON|1c l LJ|3L w s l J|
  1s l LJ|1c l NJ|3N w s l J|1s l NJ|1c l A w CARON|1s l A w CARON|1c l I w CARON|1s l I w CARON|
  1c l O w CARON|1s l O w CARON|1c l U w CARON|1s l U w CARON|1c l U w di j MACRON|
  1s l U w di j MACRON|1c l U w di j ac|1s l U w di j ac|1c l U w di j CARON|1s l U w di j CARON|
  1c l U w di j GRAVE|1s l U w di j GRAVE|3tu E|1c l A w di j MACRON|1s l A w di j MACRON|
  1c l A w do b j MACRON|1s l A w do b j MACRON|1c l AE w MACRON|1s l AE w MACRON|1c l G w k|
  1s l G w k|1c l G w CARON|1s l G w CARON|1c l K w CARON|1s l K w CARON|1c l O w OGONEK|
  1s l O w OGONEK|1c l O w OGONEK j MACRON|1s l O w OGONEK j MACRON|1c l EZH w CARON|
  1s l EZH w CARON|3J w CARON|1c l DZ|3D w s l Z|1s l DZ|1c l G w ac|1s l G w ac|1c l HWAIR|3WYNN|
  3N w GRAVE|1s l N w GRAVE|1c l A w RING b j ac|1s l A w RING b j ac|1c l AE w ac|1s l AE w ac|
  1c l O w k j ac|1s l O w k j ac|1c l A w d GRAVE|1s l A w d GRAVE|1c l A w iv BREVE|
  1s l A w iv BREVE|1c l E w d GRAVE|1s l E w d GRAVE|1c l E w iv BREVE|1s l E w iv BREVE|
  1c l I w d GRAVE|1s l I w d GRAVE|1c l I w iv BREVE|1s l I w iv BREVE|1c l O w d GRAVE|
  1s l O w d GRAVE|1c l O w iv BREVE|1s l O w iv BREVE|1c l R w d GRAVE|1s l R w d GRAVE|
  1c l R w iv BREVE|1s l R w iv BREVE|1c l U w d GRAVE|1s l U w d GRAVE|1c l U w iv BREVE|
  1s l U w iv BREVE|1c l S w COMMA e|1s l S w COMMA e|1c l T w COMMA e|1s l T w COMMA e|1c l YOGH|
  1s l YOGH|1c l H w CARON|1s l H w CARON|1c l N w LONG r LEG|1s l D w CURL|1c l OU|1s l OU|
  1c l Z w ho|1s l Z w ho|1c l A w do b|1s l A w do b|1c l E w CEDILLA|1s l E w CEDILLA|
  1c l O w di j MACRON|1s l O w di j MACRON|1c l O w ti j MACRON|1s l O w ti j MACRON|1c l O w do b|
  1s l O w do b|1c l O w do b j MACRON|1s l O w do b j MACRON|1c l Y w MACRON|1s l Y w MACRON|
  3L w CURL|3N w CURL|3T w CURL|3DOTLESS J|3DB DIGRAPH|3QP DIGRAPH|1c l A w k|3C w k|1s l C w k|
  1c l L w BAR|3T w DIAGONAL k|1s l S w SWASH TAIL|3Z w SWASH TAIL|1c l GLOTTAL STOP|
  1s l GLOTTAL STOP|1c l B w k|3U BAR|3tu V|3E w k|1s l E w k|1c l J w k|1s l J w k|
  1c l s Q w ho TAIL|1s l Q w ho TAIL|1c l R w k|1s l R w k|1c l Y w k|1s l Y w k|3tu A|3ALPHA|
  3tu ALPHA|3B w ho|3OPEN O|3C w CURL|3D w TAIL|5ho|3rv E|3SCHWA|4w ho|3OPEN E|3rv OPEN E|6w ho|
  3CLOSED rv OPEN E|3DOTLESS J w k|3G w ho|3SCRIPT G|1l s c G|1s l GAMMA|3RAMS HORN|3tu H|3H w ho|
  3HENG w ho|3I w k|3IOTA|1l s c I|1s l L w mi ti|5BELT|5re ho|3LEZH|3tu M|5w LONG LEG|3M w ho|
  3N w t ho|5re ho|1l s c N|1s l BARRED O|1l s c OE|1s l CLOSED OMEGA|3PHI|3tu R|5w LONG LEG|6ho|
  3R w LONG LEG|5TAIL|5FISHHOOK|3rv R w FISHHOOK|1l s c R|4iv R|1s l S w ho|3ESH|
  3DOTLESS J w k j ho|3SQUAT rv ESH|3ESH w CURL|3tu T|3T w re ho|3U BAR|3UPSILON|3V w ho|3tu V|4W|
  4Y|1l s c Y|1s l Z w re ho|5CURL|3EZH|4w CURL|1l GLOTTAL STOP|2PHARYNGEAL VOICED FRICATIVE|
  2iv GLOTTAL STOP|2STRETCHED C|2BILABIAL CLICK|2s c B|1s l CLOSED OPEN E|1l s c G w ho|4H|
  1s l J w CROSSED-TAIL|3tu K|1l s c L|1s l Q w ho|1l GLOTTAL STOP w k|2rv GLOTTAL STOP w k|
  1s l DZ DIGRAPH|3DEZH DIGRAPH|3DZ DIGRAPH w CURL|3TS DIGRAPH|3TESH DIGRAPH|3TC DIGRAPH w CURL|
  3FENG DIGRAPH|3LS DIGRAPH|3LZ DIGRAPH|1l BILABIAL PERCUSSIVE|2BIDENTAL PERCUSSIVE|
  1s l tu H w FISHHOOK|7j TAIL|0MODIFIER l s H|4w ho|3J|3R|3tu R|5w ho|3c iv R|3W|3Y|2PRIME|
  2d PRIME|2tu COMMA|2APOSTROPHE|2rv COMMA|2r ha RING|2t ha RING|2GLOTTAL STOP|2rv GLOTTAL STOP|
  2t ar|2r ar|2UP ar|2dw ar|2cc ACCENT|0CARON|0MODIFIER l v LINE|2MACRON|2ac ACCENT|2GRAVE ACCENT|
  2LOW v LINE|3MACRON|3GRAVE ACCENT|3ac ACCENT|2TRIANGULAR COLON|2ha TRIANGULAR COLON|
  2CENTRED r ha RING|3t ha RING|2UP TACK|2dw TACK|2pl i|2MINUS i|0BREVE|0do b|0RING b|0OGONEK|0s ti|
  0d ac ACCENT|0MODIFIER l RHOTIC ho|2CROSS ACCENT|2s GAMMA|3L|3S|3X|3rv GLOTTAL STOP|
  2EXTRA-HIGH TONE BAR|2HIGH TONE BAR|2MID TONE BAR|2LOW TONE BAR|2EXTRA-LOW TONE BAR|
  2YIN DEPARTING TONE mr|2YANG DEPARTING TONE mr|2VOICING|2UNASPIRATED|2d APOSTROPHE|2LOW dw ar|
  3UP ar|3t ar|3r ar|3RING|2mi GRAVE ACCENT|3d GRAVE ACCENT|4ac ACCENT|2LOW ti|2RAISED COLON|
  2BEGIN HIGH TONE|2END HIGH TONE|2BEGIN LOW TONE|2END LOW TONE|2SHELF|2OPEN SHELF|2LOW t a|
  0co GRAVE ACCENT|1ac ACCENT|1cc ACCENT|1ti|1MACRON|1OVERLINE|1BREVE|1do b|1di|1ho b|1RING b|
  1d ac ACCENT|1CARON|1v LINE b|1d v LINE b|2GRAVE ACCENT|1ca|1iv BREVE|1tu COMMA b|1COMMA b|
  1rv COMMA b|1COMMA b r|1GRAVE ACCENT e|1ac ACCENT e|1t TACK e|1r TACK e|1t ANGLE b|1HORN|
  1t ha RING e|1UP TACK e|1dw TACK e|1pl i e|1MINUS i e|1PALATALIZED ho e|1re ho e|1do e|1di e|
  1RING e|1COMMA e|1CEDILLA|1OGONEK|1v LINE e|1BRIDGE e|1iv d ARCH e|1CARON e|1cc ACCENT e|1BREVE e|
  1iv BREVE e|1ti e|1MACRON e|1LOW LINE|1d LOW LINE|1ti OVERLAY|1SHORT k OVERLAY|1LONG k OVERLAY|
  1SHORT SOLIDUS OVERLAY|1LONG SOLIDUS OVERLAY|1r ha RING e|1iv BRIDGE e|1sq e|1SEAGULL e|1X b|
  1v ti|1d OVERLINE|1GRAVE TONE mr|1ac TONE mr|1GREEK pe|2KORONIS|2DIALYTIKA TONOS|2yp|1BRIDGE b|
  1EQUALS i e|1d v LINE e|1t ANGLE e|1NOT ti b|1HOMOTHETIC b|1ALMOST eq TO b|1t r a e|1up a e|
  1GRAPHEME JOINER|1r ar b|1t ha RING b|1FERMATA|1X e|1t ar e|1r ar e|3j UP ar e|2ha RING b|1do b r|
  1as e|1d RING e|1ZIGZAG b|1d BREVE e|3|2MACRON|3e|2ti|2iv BREVE|2g a e|1LATIN s l A|4E|4I|4O|4U|
  4C|4D|4H|4M|4R|4T|4V|4X|0GREEK c l HETA|1s l HETA|1c l ARCHAIC SAMPI|1s l ARCHAIC SAMPI|
  1NUMERAL i|1lo NUMERAL i|1c l PAMPHYLIAN DIGAMMA|1s l PAMPHYLIAN DIGAMMA|37A:1yp|
  1s rv LUNATE SIGMA y|2DOTTED LUNATE SIGMA y|2rv DOTTED LUNATE SIGMA y|1QUESTION mr|1c l YOT|
  384:1TONOS|1DIALYTIKA TONOS|1c l ALPHA w TONOS|1ANO TELEIA|1c l EPSILON w TONOS|3ETA w TONOS|
  3IOTA w TONOS|38C:3OMICRON w TONOS|38E:3UPSILON w TONOS|3OMEGA w TONOS|
  1s l IOTA w DIALYTIKA j TONOS|1c l ALPHA|3BETA|3GAMMA|3DELTA|3EPSILON|3ZETA|3ETA|3THETA|3IOTA|
  3KAPPA|3LAMDA|3MU|3NU|3XI|3OMICRON|3PI|3RHO|3A3:3SIGMA|3TAU|3UPSILON|3PHI|3CHI|3PSI|3OMEGA|
  3IOTA w DIALYTIKA|3UPSILON w DIALYTIKA|1s l ALPHA w TONOS|3EPSILON w TONOS|3ETA w TONOS|
  3IOTA w TONOS|3UPSILON w DIALYTIKA j TONOS|3ALPHA|3BETA|3GAMMA|3DELTA|3EPSILON|3ZETA|3ETA|3THETA|
  3IOTA|3KAPPA|3LAMDA|3MU|3NU|3XI|3OMICRON|3PI|3RHO|3n SIGMA|3SIGMA|3TAU|3UPSILON|3PHI|3CHI|3PSI|
  3OMEGA|3IOTA w DIALYTIKA|3UPSILON w DIALYTIKA|3OMICRON w TONOS|3UPSILON w TONOS|3OMEGA w TONOS|
  1c KAI y|1BETA y|1THETA y|1UPSILON w ho y|3ac j ho y|3di j ho y|1PHI y|1PI y|1KAI y|
  1l ARCHAIC KOPPA|1s l ARCHAIC KOPPA|1l STIGMA|1s l STIGMA|1l DIGAMMA|1s l DIGAMMA|1l KOPPA|
  1s l KOPPA|1l SAMPI|1s l SAMPI|0COPTIC c l SHEI|1s l SHEI|1c l FEI|1s l FEI|1c l KHEI|1s l KHEI|
  1c l HORI|1s l HORI|1c l GANGIA|1s l GANGIA|1c l SHIMA|1s l SHIMA|1c l DEI|1s l DEI|
  0GREEK KAPPA y|1RHO y|1LUNATE SIGMA y|1l YOT|1c THETA y|1LUNATE EPSILON y|1rv LUNATE EPSILON y|
  1c l SHO|1s l SHO|1c LUNATE SIGMA y|2l SAN|1s l SAN|1RHO w k y|1c rv LUNATE SIGMA y|
  2DOTTED LUNATE SIGMA y|2rv DOTTED LUNATE SIGMA y|0CYRILLIC c l IE w GRAVE|3IO|3DJE|3GJE|
  3UKRAINIAN IE|3DZE|3BYELORUSSIAN-UKRAINIAN I|3YI|3JE|3LJE|3NJE|3TSHE|3KJE|3I w GRAVE|3SHORT U|
  3DZHE|3A|3BE|3VE|3GHE|3DE|3IE|3ZHE|3ZE|3I|3SHORT I|3KA|3EL|3EM|3EN|3O|3PE|3ER|3ES|3TE|3U|3EF|3HA|
  3TSE|3CHE|3SHA|3SHCHA|3HARD i|3YERU|3SOFT i|3E|3YU|3YA|1s l A|3BE|3VE|3GHE|3DE|3IE|3ZHE|3ZE|3I|
  3SHORT I|3KA|3EL|3EM|3EN|3O|3PE|3ER|3ES|3TE|3U|3EF|3HA|3TSE|3CHE|3SHA|3SHCHA|3HARD i|3YERU|
  3SOFT i|3E|3YU|3YA|3IE w GRAVE|3IO|3DJE|3GJE|3UKRAINIAN IE|3DZE|3BYELORUSSIAN-UKRAINIAN I|3YI|3JE|
  3LJE|3NJE|3TSHE|3KJE|3I w GRAVE|3SHORT U|3DZHE|1c l OMEGA|1s l OMEGA|1c l YAT|1s l YAT|
  1c l IOTIFIED E|1s l IOTIFIED E|1c l LITTLE YUS|1s l LITTLE YUS|1c l IOTIFIED LITTLE YUS|
  1s l IOTIFIED LITTLE YUS|1c l BIG YUS|1s l BIG YUS|1c l IOTIFIED BIG YUS|1s l IOTIFIED BIG YUS|
  1c l KSI|1s l KSI|1c l PSI|1s l PSI|1c l FITA|1s l FITA|1c l IZHITSA|1s l IZHITSA|
  1c l IZHITSA w d GRAVE ACCENT|1s l IZHITSA w d GRAVE ACCENT|1c l UK|1s l UK|1c l ROUND OMEGA|
  1s l ROUND OMEGA|1c l OMEGA w TITLO|1s l OMEGA w TITLO|1c l OT|1s l OT|1c l KOPPA|1s l KOPPA|
  1THOUSANDS i|0co CYRILLIC TITLO|2PALATALIZATION|2DASIA PNEUMATA|2PSILI PNEUMATA|2POKRYTIE|
  2hu THOUSANDS i|2MILLIONS i|0CYRILLIC c l SHORT I w TAIL|1s l SHORT I w TAIL|1c l SEMISOFT i|
  1s l SEMISOFT i|1c l ER w TICK|1s l ER w TICK|1c l GHE w UPTURN|1s l GHE w UPTURN|1c l GHE w k|
  1s l GHE w k|1c l GHE w mi ho|1s l GHE w mi ho|1c l ZHE w de|1s l ZHE w de|1c l ZE w de|
  1s l ZE w de|1c l KA w de|1s l KA w de|1c l KA w v k|1s l KA w v k|1c l KA w k|1s l KA w k|
  1c l BASHKIR KA|1s l BASHKIR KA|1c l EN w de|1s l EN w de|1c LIGATURE EN GHE|1s LIGATURE EN GHE|
  1c l PE w mi ho|1s l PE w mi ho|1c l ABKHASIAN HA|1s l ABKHASIAN HA|1c l ES w de|1s l ES w de|
  1c l TE w de|1s l TE w de|1c l STRAIGHT U|1s l STRAIGHT U|1c l STRAIGHT U w k|1s l STRAIGHT U w k|
  1c l HA w de|1s l HA w de|1c LIGATURE TE TSE|1s LIGATURE TE TSE|1c l CHE w de|1s l CHE w de|
  1c l CHE w v k|1s l CHE w v k|1c l SHHA|1s l SHHA|1c l ABKHASIAN CHE|1s l ABKHASIAN CHE|
  1c l ABKHASIAN CHE w de|1s l ABKHASIAN CHE w de|1l PALOCHKA|1c l ZHE w BREVE|1s l ZHE w BREVE|
  1c l KA w ho|1s l KA w ho|1c l EL w TAIL|1s l EL w TAIL|1c l EN w ho|1s l EN w ho|1c l EN w TAIL|
  1s l EN w TAIL|1c l KHAKASSIAN CHE|1s l KHAKASSIAN CHE|1c l EM w TAIL|1s l EM w TAIL|3PALOCHKA|
  1c l A w BREVE|1s l A w BREVE|1c l A w di|1s l A w di|1c LIGATURE A IE|1s LIGATURE A IE|
  1c l IE w BREVE|1s l IE w BREVE|1c l SCHWA|1s l SCHWA|1c l SCHWA w di|1s l SCHWA w di|
  1c l ZHE w di|1s l ZHE w di|1c l ZE w di|1s l ZE w di|1c l ABKHASIAN DZE|1s l ABKHASIAN DZE|
  1c l I w MACRON|1s l I w MACRON|1c l I w di|1s l I w di|1c l O w di|1s l O w di|1c l BARRED O|
  1s l BARRED O|1c l BARRED O w di|1s l BARRED O w di|1c l E w di|1s l E w di|1c l U w MACRON|
  1s l U w MACRON|1c l U w di|1s l U w di|1c l U w d ac|1s l U w d ac|1c l CHE w di|1s l CHE w di|
  1c l GHE w de|1s l GHE w de|1c l YERU w di|1s l YERU w di|1c l GHE w k j ho|1s l GHE w k j ho|
  1c l HA w ho|1s l HA w ho|1c l HA w k|1s l HA w k|1c l KOMI DE|1s l KOMI DE|1c l KOMI DJE|
  1s l KOMI DJE|1c l KOMI ZJE|1s l KOMI ZJE|1c l KOMI DZJE|1s l KOMI DZJE|1c l KOMI LJE|
  1s l KOMI LJE|1c l KOMI NJE|1s l KOMI NJE|1c l KOMI SJE|1s l KOMI SJE|1c l KOMI TJE|1s l KOMI TJE|
  1c l rv ZE|1s l rv ZE|1c l EL w ho|1s l EL w ho|1c l LHA|1s l LHA|1c l RHA|1s l RHA|1c l YAE|
  1s l YAE|1c l QA|1s l QA|1c l WE|1s l WE|1c l ALEUT KA|1s l ALEUT KA|1c l EL w mi ho|
  1s l EL w mi ho|1c l EN w mi ho|1s l EN w mi ho|1c l PE w de|1s l PE w de|1c l SHHA w de|
  1s l SHHA w de|1c l EN w t ho|1s l EN w t ho|1c l DZZHE|1s l DZZHE|1c l DCHE|1s l DCHE|
  1c l EL w de|1s l EL w de|531:0ARMENIAN c l AYB|3BEN|3GIM|3DA|3ECH|3ZA|3EH|3ET|3TO|3ZHE|3INI|
  3LIWN|3XEH|3CA|3KEN|3HO|3JA|3GHAD|3CHEH|3MEN|3YI|3NOW|3SHA|3VO|3CHA|3PEH|3JHEH|3RA|3SEH|3VEW|
  3TIWN|3REH|3CO|3YIWN|3PIWR|3KEH|3OH|3FEH|559:1MODIFIER l t ha RING|1APOSTROPHE|1EMPHASIS mr|
  1EXCLAMATION mr|1COMMA|1QUESTION mr|1ABBREVIATION mr|1s l tu AYB|3AYB|3BEN|3GIM|3DA|3ECH|3ZA|3EH|
  3ET|3TO|3ZHE|3INI|3LIWN|3XEH|3CA|3KEN|3HO|3JA|3GHAD|3CHEH|3MEN|3YI|3NOW|3SHA|3VO|3CHA|3PEH|3JHEH|
  3RA|3SEH|3VEW|3TIWN|3REH|3CO|3YIWN|3PIWR|3KEH|3OH|3FEH|2LIGATURE ECH YIWN|2l YI w k|1FULL STOP|
  1HYPHEN|58D:0RIGHT-FACING ARMENIAN ETERNITY i|0LEFT-FACING ARMENIAN ETERNITY i|0ARMENIAN DRAM i|
  591:0HEBREW ACCENT ETNAHTA|2SEGOL|2SHALSHELET|2ZAQEF QATAN|3GADOL|2TIPEHA|2REVIA|2ZARQA|2PASHTA|
  2YETIV|2TEVIR|2GERESH|3MUQDAM|2GERSHAYIM|2QARNEY PARA|2TELISHA GEDOLA|2PAZER|2ATNAH HAFUKH|2MUNAH|
  2MAHAPAKH|2MERKHA|3KEFULA|2DARGA|2QADMA|2TELISHA QETANA|2YERAH BEN YOMO|2OLE|2ILUY|2DEHI|2ZINOR|
  1mr MASORA ci|1POINT SHEVA|2HATAF SEGOL|3PATAH|3QAMATS|2HIRIQ|2TSERE|2SEGOL|2PATAH|2QAMATS|2HOLAM|
  3HASER FOR VAV|2QUBUTS|2DAGESH OR MAPIQ|2METEG|1pu MAQAF|1POINT RAFE|1pu PASEQ|1POINT SHIN do|
  2SIN do|1pu SOF PASUQ|1mr UPPER do|2lo do|1pu NUN HAFUKHA|1POINT QAMATS QATAN|5D0:1l ALEF|2BET|
  2GIMEL|2DALET|2HE|2VAV|2ZAYIN|2HET|2TET|2YOD|2n KAF|2KAF|2LAMED|2n MEM|2MEM|2n NUN|2NUN|2SAMEKH|
  2AYIN|2n PE|2PE|2n TSADI|2TSADI|2QOF|2RESH|2SHIN|2TAV|5EF:1YOD tr|1LIGATURE YIDDISH d VAV|
  3VAV YOD|3d YOD|1pu GERESH|2GERSHAYIM|600:0ARABIC NUMBER i|1i SANAH|1FOOTNOTE MARKER|1i SAFHA|
  2SAMVAT|1NUMBER mr b|0ARABIC-INDIC CUBE ROOT|1FOURTH ROOT|0ARABIC RAY|0ARABIC-INDIC PER MILLE i|
  2TEN th i|0AFGHANI i|0ARABIC COMMA|1DATE SEPARATOR|1POETIC VERSE i|1i MISRA|
  2SALLALLAHOU ALAYHE WASSALLAM|2ALAYHE ASSALLAM|2RAHMATULLAH ALAYHE|2RADI ALLAHOU ANHU|2TAKHALLUS|
  1s HIGH TAH|3LIGATURE ALEF w LAM w YEH|3ZAIN|2FATHA|2DAMMA|2KASRA|1SEMICOLON|1l mr|
  1END OF TEXT mr|1TRIPLE do pu mr|1QUESTION mr|1l KASHMIRI YEH|2HAMZA|2ALEF w MADDA b|4HAMZA b|
  2WAW w HAMZA b|2ALEF w HAMZA e|2YEH w HAMZA b|2ALEF|2BEH|2TEH MARBUTA|3|2THEH|2JEEM|2HAH|2KHAH|
  2DAL|2THAL|2REH|2ZAIN|2SEEN|2SHEEN|2SAD|2DAD|2TAH|2ZAH|2AIN|2GHAIN|2KEHEH w tw DOTS b|4h DOTS e|
  2FARSI YEH w iv V|5tw DOTS b|5h DOTS b|1TATWEEL|1l FEH|2QAF|2KAF|2LAM|2mm|2NOON|2HEH|2WAW|
  2ALEF ma|2YEH|1FATHATAN|1DAMMATAN|1KASRATAN|1FATHA|1DAMMA|1KASRA|1SHADDA|1SUKUN|1MADDAH b|
  1HAMZA b|2e|1SUBSCRIPT ALEF|1iv DAMMA|1mr NOON GHUNNA|1ZWARAKAY|1vw i s V b|3iv s V b|3do e|
  1rv DAMMA|1FATHA w tw DOTS|1WAVY HAMZA e|0ARABIC-INDIC dg ZERO|2on|2tw|2h|2fo|2fi|2SIX|2se|2ei|
  2ni|0ARABIC PERCENT i|1DECIMAL SEPARATOR|1THOUSANDS SEPARATOR|1fi POINTED STAR|1l DOTLESS BEH|
  3QAF|2SUPERSCRIPT ALEF|2ALEF WASLA|3w WAVY HAMZA b|6e|2HIGH HAMZA|4ALEF|4WAW|2U w HAMZA b|
  2HIGH HAMZA YEH|2TTEH|2TTEHEH|2BEEH|2TEH w RING|4h DOTS b dn|2PEH|2TEHEH|2BEHEH|2HAH w HAMZA b|
  4tw DOTS v b|2NYEH|2DYEH|2HAH w h DOTS b|2TCHEH|2TCHEHEH|2DDAL|2DAL w RING|4do e|6j s TAH|2DAHAL|
  2DDAHAL|2DUL|2DAL w h DOTS b dn|4fo DOTS b|2RREH|2REH w s V|4RING|4do e|4s V e|4do e j do b|
  4tw DOTS b|2JEH|2REH w fo DOTS b|2SEEN w do e j do b|4h DOTS e|7j h DOTS b|2SAD w tw DOTS e|
  4h DOTS b|2TAH w h DOTS b|2AIN w h DOTS b|2DOTLESS FEH|2FEH w do MOVED e|5e|2VEH|2FEH w h DOTS e|
  2PEHEH|2QAF w do b|4h DOTS b|2KEHEH|2SWASH KAF|2KAF w RING|4do b|2NG|2KAF w h DOTS e|2GAF|3w RING|
  2NGOEH|2GAF w tw DOTS e|2GUEH|2GAF w h DOTS b|2LAM w s V|4do b|4h DOTS b|6e|2NOON w do e|3GHUNNA|
  2RNOON|2NOON w RING|4h DOTS b|2HEH DOACHASHMEE|2TCHEH w do b|2HEH w YEH b|3GOAL|4w HAMZA b|
  2TEH MARBUTA GOAL|2WAW w RING|2KIRGHIZ OE|2OE|2U|2YU|2KIRGHIZ YU|2WAW w tw DOTS b|2VE|2FARSI YEH|
  2YEH w TAIL|4s V|2WAW w do b|2E|2YEH w h DOTS e|3BARREE|4w HAMZA b|1FULL STOP|1l AE|
  1s HIGH LIGATURE SAD w LAM w ALEF ma|4QAF w LAM w ALEF ma|3mm p f|3LAM ALEF|3JEEM|3h DOTS|3SEEN|
  1END OF AYAH|1START OF RUB EL HIZB|1s HIGH ROUNDED ZERO|3UPRIGHT RECTANGULAR ZERO|
  3DOTLESS HEAD OF KHAH|3mm o f|2LOW SEEN|2HIGH MADDA|2WAW|2YEH|2HIGH YEH|3NOON|1PLACE OF SAJDAH|
  1EMPTY CENTRE LOW STOP|3HIGH STOP|1ROUNDED HIGH STOP w FILLED CENTRE|1s LOW mm|1l DAL w iv V|
  2REH w iv V|0EXTENDED ARABIC-INDIC dg ZERO|3on|3tw|3h|3fo|3fi|3SIX|3se|3ei|3ni|
  0ARABIC l SHEEN w do e|2DAD w do e|2GHAIN w do e|1i SINDHI AMPERSAND|3POSTPOSITION MEN|
  1l HEH w iv V|0SYRIAC END OF PARAGRAPH|1SUPRALINEAR FULL STOP|1SUBLINEAR FULL STOP|
  1SUPRALINEAR COLON|1SUBLINEAR COLON|1z COLON|1COLON SKEWED t|3r|1SUPRALINEAR COLON SKEWED t|
  1SUBLINEAR COLON SKEWED r|1CONTRACTION|1HARKLEAN OBELUS|2METOBELUS|2ASTERISCUS|
  70F:1ABBREVIATION mr|1l ALAPH|2SUPERSCRIPT ALAPH|2BETH|2GAMAL|3GARSHUNI|2DALATH|
  2DOTLESS DALATH RISH|2HE|2WAW|2ZAIN|2HETH|2TETH|3GARSHUNI|2YUDH|3HE|2KAPH|2LAMADH|2MIM|2NUN|
  2SEMKATH|2n SEMKATH|2E|2PE|2rv PE|2SADHE|2QAPH|2RISH|2SHIN|2TAW|2PERSIAN BHETH|3GHAMAL|3DHALATH|
  1PTHAHA b|2e|2DOTTED|1ZQAPHA b|2e|2DOTTED|1RBASA b|2e|1DOTTED ZLAMA z|3ANGULAR|1HBASA b|2e|
  1HBASA-ESASA DOTTED|1ESASA b|2e|1RWAHA|1FEMININE do|1QUSHSHAYA|1RUKKAKHA|1tw v DOTS b|4e|
  1h DOTS b|3e|1OBLIQUE LINE b|3e|1MUSIC|1BARREKH|74D:1l SOGDIAN ZHAIN|3KHAPH|3FE|
  0ARABIC l BEH w h DOTS HORIZONTALLY e|4do e j h DOTS b|4h DOTS po up e|9j tw DOTS b|
  4tw DOTS e j do b|4iv s V e|4s V|2HAH w tw DOTS b|4h DOTS po up e|
  2DAL w tw DOTS VERTICALLY e j s TAH|4iv s V e|2REH w k|2SEEN w fo DOTS b|2AIN w tw DOTS b|
  4h DOTS po dn b|4tw DOTS VERTICALLY b|2FEH w tw DOTS e|4h DOTS po up e|2KEHEH w do b|4h DOTS b|
  6po up e|2mm w do b|5e|2NOON w tw DOTS e|4s TAH|5V|2LAM w BAR|2REH w tw DOTS VERTICALLY b|
  4HAMZA b|2SEEN w tw DOTS VERTICALLY b|2HAH w s ARABIC l TAH e|8j tw DOTS|
  2SEEN w s ARABIC l TAH j tw DOTS|2REH w s ARABIC l TAH j tw DOTS|2HAH w s ARABIC l TAH b|
  2ALEF w EXTENDED ARABIC-INDIC dg tw b|7h b|2FARSI YEH w EXTENDED ARABIC-INDIC dg tw b|8h b|8fo e|
  2WAW w EXTENDED ARABIC-INDIC dg tw b|7h b|2YEH BARREE w EXTENDED ARABIC-INDIC dg tw b|8h b|
  2HAH w EXTENDED ARABIC-INDIC dg fo e|2SEEN w EXTENDED ARABIC-INDIC dg fo b|4iv V|2KAF w tw DOTS b|
  0THAANA l HAA|2SHAVIYANI|2NOONU|2RAA|2BAA|2LHAVIYANI|2KAAFU|2ALIFU|2VAAVU|2MEEMU|2FAAFU|2DHAALU|
  2THAA|2LAAMU|2GAAFU|2GNAVIYANI|2SEENU|2DAVIYANI|2ZAVIYANI|2TAVIYANI|2YAA|2PAVIYANI|2JAVIYANI|
  2CHAVIYANI|2TTAA|2HHAA|2KHAA|2THAALU|2ZAA|2SHEENU|2SAADHU|2DAADHU|2TO|2ZO|2AINU|2GHAINU|2QAAFU|
  2WAAVU|1ABAFILI|1AABAAFILI|1IBIFILI|1EEBEEFILI|1UBUFILI|1OOBOOFILI|1EBEFILI|1EYBEYFILI|1OBOFILI|
  1OABOAFILI|1SUKUN|1l NAA|7C0:0NKO dg ZERO|2on|2tw|2h|2fo|2fi|2SIX|2se|2ei|2ni|1l A|2EE|2I|2E|2U|
  2OO|2O|2DAGBASINNA|2N|2BA|2PA|2TA|2JA|2CHA|2DA|2RA|2RRA|2SA|2GBA|2FA|2KA|2LA|2NA WOLOSO|2MA|2NYA|
  2NA|2HA|2WA|2YA|2NYA WOLOSO|2JONA JA|3CHA|3RA|1co SHORT HIGH TONE|3LOW TONE|3RISING TONE|
  2LONG DESCENDING TONE|3HIGH TONE|3LOW TONE|3RISING TONE|2NASALIZATION mr|2d do b|
  1HIGH TONE APOSTROPHE|1LOW TONE APOSTROPHE|1y OO DENNEN|2GBAKURUNEN|1COMMA|1EXCLAMATION mr|
  1LAJANYALAN|7FD:1DANTAYALAN|1DOROME i|1TAMAN i|0SAMARITAN l ALAF|2BIT|2GAMAN|2DALAT|2IY|2BAA|2ZEN|
  2IT|2TIT|2YUT|2KAAF|2LABAT|2MIM|2NUN|2SINGAAT|2IN|2FI|2TSAADIY|2QUF|2RISH|2SHAN|2TAAF|1mr IN|
  2IN-ALAF|2OCCLUSION|2DAGESH|1MODIFIER l EPENTHETIC YUT|1mr EPENTHETIC YUT|1vw i LONG E|3E|
  3OVERLONG AA|3LONG AA|3AA|3OVERLONG A|3LONG A|3A|1MODIFIER l SHORT A|1vw i SHORT A|3LONG U|3U|
  1MODIFIER l I|1vw i LONG I|3I|3O|3SUKUN|1mr NEQUDAA|830:1pu NEQUDAA|2AFSAAQ|2ANGED|2BAU|2ATMAAU|
  2SHIYYAALAA|1ABBREVIATION mr|1pu MELODIC QITSA|2ZIQAA|2QITSA|2ZAEF|2TURU|2ARKAANU|2SOF MASHFAAT|
  2ANNAAU|840:0MANDAIC l HALQA|2AB|2AG|2AD|2AH|2USHENNA|2AZ|2IT|2ATT|2AKSA|2AK|2AL|2AM|2AN|2AS|2IN|
  2AP|2ASZ|2AQ|2AR|2ASH|2AT|2DUSHENNA|2KAD|2AIN|1AFFRICATION mr|1VOCALIZATION mr|1GEMINATION mr|
  85E:1pu|860:0SYRIAC l MALAYALAM NGA|3JA|3NYA|3TTA|3NNA|3NNNA|3BHA|3RA|3LLA|3LLLA|3SSA|
  870:0ARABIC l ALEF w ATTACHED FATHA|5TOP r FATHA|4r mi k|4t mi k|4ATTACHED KASRA|5BOTTOM r KASRA|
  5ROUND do b|5r ROUND do|5t ROUND do|5ROUND do e|4do b|4ATTACHED TOP r FATHA j do b|4r mi k j do b|
  4ATTACHED BOTTOM r KASRA j do b|5TOP r FATHA j t RING|4r mi k j t RING|
  4ATTACHED BOTTOM r KASRA j t RING|5r HAMZA|5t HAMZA|1TATWEEL w OVERSTRUCK HAMZA|4WAW|3tw DOTS e|
  1l THIN YEH|1BASELINE ROUND do|1RAISED ROUND do|1l NOON w iv s V|2HAH w iv s V e|2TAH w do e|
  4h DOTS e|2KEHEH w tw DOTS VERTICALLY e|1v TAIL|890:1POUND mr b|1PIASTRE mr b|
  898:1s HIGH WORD AL-JUZ|2LOW WORD ISHMAAM|4IMAALA|4TASHEEL|1MADDA WAAJIB|
  1SUPERSCRIPT ALEF MOKHASSAS|1DOUBLED MADDA|1ha MADDA OVER MADDA|1l BEH w s V e|4HAMZA b|
  2JEEM w tw DOTS b|2TAH w tw DOTS b|2FEH w do e j h DOTS b|2QAF w do e|2LAM w d BAR|2mm w h DOTS b|
  2YEH w tw DOTS e j HAMZA b|8do b|2REH w LOOP|2WAW w do WITHIN|2ROHINGYA YEH|2LOW ALEF|
  2DAL w h DOTS e|2SAD w h DOTS e|2GAF w iv k|2STRAIGHT WAW|2ZAIN w iv V b|2AIN w h DOTS e|
  2KAF w do e|2QAF w do e j NO DOTS b|2BEH w s mm b|2PEH w s mm b|2TEH w s TEH b|2REH w s NOON b|
  2YEH w tw DOTS e j s NOON b|2AFRICAN FEH|3QAF|3NOON|2PEH w s V|2TEH w s V|2TTEH w s V|
  2TCHEH w s V|2KEHEH w s V|2GHAIN w h DOTS b|2AFRICAN QAF w h DOTS b|2JEEM w h DOTS b|6e|
  2LAM w s ARABIC l TAH b|2GRAF|1s FARSI YEH|2HIGH FARSI YEH|3YEH BARREE w tw DOTS e|3WORD SAH|3ZAH|
  1LARGE ROUND do b|4e|1SUKUN e|1LARGE ci e|2ROUND do INSIDE ci e|1s LOW WAW|2HIGH WORD AR-RUB|3SAD|
  3AIN|3QAF|3NOON w KASRA|2LOW NOON w KASRA|2HIGH WORD ATH-THALATHA|4AS-SAJDA|4AN-NISF|4SAKTA|4QIF|
  4WAQFA|3FOOTNOTE MARKER|3i SAFHA|1DISPUTED END OF AYAH|1tu DAMMA e|1CURLY FATHA|2DAMMA|2KASRA|
  2FATHATAN|2DAMMATAN|2KASRATAN|1TONE on do b|2tw DOTS b|2LOOP b|2on do e|2tw DOTS e|2LOOP e|
  1OPEN FATHATAN|2DAMMATAN|2KASRATAN|1s HIGH WAW|1FATHA w RING|3do b|1KASRA w do e|1t ar b|1r ar b|
  1t ar e|1r ar e|1d r ar b|5w do|1r ar b w do|1DAMMA w do|1mr SIDEWAYS NOON GHUNNA|
  0DEVANAGARI i iv ca|2ca|2an|2VISARGA|1l SHORT A|2A|2AA|2I|2II|2U|2UU|2vo R|3L|2CANDRA E|2SHORT E|
  2E|2AI|2CANDRA O|2SHORT O|2O|2AU|2KA|2KHA|2GA|2GHA|2NGA|2CA|2CHA|2JA|2JHA|2NYA|2TTA|2TTHA|2DDA|
  2DDHA|2NNA|2TA|2THA|2DA|2DHA|2NA|2NNNA|2PA|2PHA|2BA|2BHA|2MA|2YA|2RA|2RRA|2LA|2LLA|2LLLA|2VA|2SHA|
  2SSA|2SA|2HA|1vw i OE|3OOE|1i NUKTA|2AVAGRAHA|1vw i AA|3I|3II|3U|3UU|3vo R|4RR|3CANDRA E|3SHORT E|
  3E|3AI|3CANDRA O|3SHORT O|3O|3AU|1i VIRAMA|1vw i PRISHTHAMATRA E|3AW|1OM|1STRESS i UDATTA|
  3ANUDATTA|1GRAVE ACCENT|1ac ACCENT|1vw i CANDRA LONG E|3UE|3UUE|1l QA|2KHHA|2GHHA|2ZA|2DDDHA|2RHA|
  2FA|2YYA|2vo RR|3LL|1vw i vo L|4LL|1DANDA|1d DANDA|1dg ZERO|2on|2tw|2h|2fo|2fi|2SIX|2se|2ei|2ni|
  1ABBREVIATION i|1i HIGH SPACING do|1l CANDRA A|2OE|2OOE|2AW|2UE|2UUE|2MARWARI DDA|2ZHA|2he YA|
  2GGA|2JJA|2GLOTTAL STOP|2DDDA|2BBA|0BENGALI ANJI|1i ca|2an|2VISARGA|985:1l A|2AA|2I|2II|2U|2UU|
  2vo R|3L|98F:2E|2AI|993:2O|2AU|2KA|2KHA|2GA|2GHA|2NGA|2CA|2CHA|2JA|2JHA|2NYA|2TTA|2TTHA|2DDA|
  2DDHA|2NNA|2TA|2THA|2DA|2DHA|2NA|9AA:2PA|2PHA|2BA|2BHA|2MA|2YA|2RA|9B2:2LA|9B6:2SHA|2SSA|2SA|2HA|
  9BC:1i NUKTA|2AVAGRAHA|1vw i AA|3I|3II|3U|3UU|3vo R|4RR|9C7:3E|3AI|9CB:3O|3AU|1i VIRAMA|
  1l KHANDA TA|9D7:1AU LENGTH mr|9DC:1l RRA|2RHA|9DF:2YYA|2vo RR|3LL|1vw i vo L|4LL|9E6:1dg ZERO|
  2on|2tw|2h|2fo|2fi|2SIX|2se|2ei|2ni|1l RA w mi DIAGONAL|4lo DIAGONAL|1RUPEE mr|2i|
  1CURRENCY NUMERATOR on|3tw|3h|3fo|3on LESS THAN THE DENOMINATOR|2DENOMINATOR SIXTEEN|1ISSHAR|
  1GANDA mr|1l VEDIC an|1ABBREVIATION i|1SANDHI mr|A01:0GURMUKHI i ADAK BINDI|2BINDI|2VISARGA|
  A05:1l A|2AA|2I|2II|2U|2UU|A0F:2EE|2AI|A13:2OO|2AU|2KA|2KHA|2GA|2GHA|2NGA|2CA|2CHA|2JA|2JHA|2NYA|
  2TTA|2TTHA|2DDA|2DDHA|2NNA|2TA|2THA|2DA|2DHA|2NA|A2A:2PA|2PHA|2BA|2BHA|2MA|2YA|2RA|A32:2LA|2LLA|
  A35:2VA|2SHA|A38:2SA|2HA|A3C:1i NUKTA|A3E:1vw i AA|3I|3II|3U|3UU|A47:3EE|3AI|A4B:3OO|3AU|
  1i VIRAMA|A51:2UDAAT|A59:1l KHHA|2GHHA|2ZA|2RRA|A5E:2FA|A66:1dg ZERO|2on|2tw|2h|2fo|2fi|2SIX|2se|
  2ei|2ni|1TIPPI|1ADDAK|1IRI|1URA|1EK ONKAR|1i YAKASH|1ABBREVIATION i|A81:0GUJARATI i ca|2an|
  2VISARGA|A85:1l A|2AA|2I|2II|2U|2UU|2vo R|3L|1vw CANDRA E|A8F:1l E|2AI|1vw CANDRA O|A93:1l O|2AU|
  2KA|2KHA|2GA|2GHA|2NGA|2CA|2CHA|2JA|2JHA|2NYA|2TTA|2TTHA|2DDA|2DDHA|2NNA|2TA|2THA|2DA|2DHA|2NA|
  AAA:2PA|2PHA|2BA|2BHA|2MA|2YA|2RA|AB2:2LA|2LLA|AB5:2VA|2SHA|2SSA|2SA|2HA|ABC:1i NUKTA|2AVAGRAHA|
  1vw i AA|3I|3II|3U|3UU|3vo R|4RR|3CANDRA E|AC7:3E|3AI|3CANDRA O|ACB:3O|3AU|1i VIRAMA|AD0:1OM|
  AE0:1l vo RR|3LL|1vw i vo L|4LL|AE6:1dg ZERO|2on|2tw|2h|2fo|2fi|2SIX|2se|2ei|2ni|1ABBREVIATION i|
  1RUPEE i|AF9:1l ZHA|1i SUKUN|2SHADDA|2MADDAH|2THREE-DOT NUKTA b|2ci NUKTA b|2TWO-CIRCLE NUKTA b|
  B01:0ORIYA i ca|2an|2VISARGA|B05:1l A|2AA|2I|2II|2U|2UU|2vo R|3L|B0F:2E|2AI|B13:2O|2AU|2KA|2KHA|
  2GA|2GHA|2NGA|2CA|2CHA|2JA|2JHA|2NYA|2TTA|2TTHA|2DDA|2DDHA|2NNA|2TA|2THA|2DA|2DHA|2NA|B2A:2PA|
  2PHA|2BA|2BHA|2MA|2YA|2RA|B32:2LA|2LLA|B35:2VA|2SHA|2SSA|2SA|2HA|B3C:1i NUKTA|2AVAGRAHA|1vw i AA|
  3I|3II|3U|3UU|3vo R|4RR|B47:3E|3AI|B4B:3O|3AU|1i VIRAMA|B55:2OVERLINE|1AI LENGTH mr|1AU LENGTH mr|
  B5C:1l RRA|2RHA|B5F:2YYA|2vo RR|3LL|1vw i vo L|4LL|B66:1dg ZERO|2on|2tw|2h|2fo|2fi|2SIX|2se|2ei|
  2ni|1ISSHAR|1l WA|1FRACTION on QUARTER|3ha|2h QUARTERS|2on SIXTEENTH|3EIGHTH|2h SIXTEENTHS|
  B82:0TAMIL i an|2VISARGA|B85:1l A|2AA|2I|2II|2U|2UU|B8E:2E|2EE|2AI|B92:2O|2OO|2AU|2KA|B99:2NGA|
  2CA|B9C:2JA|B9E:2NYA|2TTA|BA3:2NNA|2TA|BA8:2NA|2NNNA|2PA|BAE:2MA|2YA|2RA|2RRA|2LA|2LLA|2LLLA|2VA|
  2SHA|2SSA|2SA|2HA|BBE:1vw i AA|3I|3II|3U|3UU|BC6:3E|3EE|3AI|BCA:3O|3OO|3AU|1i VIRAMA|BD0:1OM|
  BD7:1AU LENGTH mr|BE6:1dg ZERO|2on|2tw|2h|2fo|2fi|2SIX|2se|2ei|2ni|1NUMBER TEN|2on hu|3th|1DAY i|
  1MONTH i|1YEAR i|1DEBIT i|1CREDIT i|1AS b i|1RUPEE i|1NUMBER i|C00:0TELUGU i co ca b|2ca|2an|
  2VISARGA|2co an b|1l A|2AA|2I|2II|2U|2UU|2vo R|3L|C0E:2E|2EE|2AI|C12:2O|2OO|2AU|2KA|2KHA|2GA|2GHA|
  2NGA|2CA|2CHA|2JA|2JHA|2NYA|2TTA|2TTHA|2DDA|2DDHA|2NNA|2TA|2THA|2DA|2DHA|2NA|C2A:2PA|2PHA|2BA|
  2BHA|2MA|2YA|2RA|2RRA|2LA|2LLA|2LLLA|2VA|2SHA|2SSA|2SA|2HA|C3C:1i NUKTA|2AVAGRAHA|1vw i AA|3I|3II|
  3U|3UU|3vo R|4RR|C46:3E|3EE|3AI|C4A:3O|3OO|3AU|1i VIRAMA|C55:1LENGTH mr|1AI LENGTH mr|C58:1l TSA|
  2DZA|2RRRA|C5D:2NAKAARA POLLU|C60:2vo RR|3LL|1vw i vo L|4LL|C66:1dg ZERO|2on|2tw|2h|2fo|2fi|2SIX|
  2se|2ei|2ni|C77:1i SIDDHAM|1FRACTION dg ZERO FOR ODD POWERS OF fo|3on FOR ODD POWERS OF fo|
  3tw FOR ODD POWERS OF fo|3h FOR ODD POWERS OF fo|3on FOR EVEN POWERS OF fo|
  3tw FOR EVEN POWERS OF fo|3h FOR EVEN POWERS OF fo|1i TUUMU|0KANNADA i SPACING ca|2ca|2an|
  2VISARGA|2SIDDHAM|1l A|2AA|2I|2II|2U|2UU|2vo R|3L|C8E:2E|2EE|2AI|C92:2O|2OO|2AU|2KA|2KHA|2GA|2GHA|
  2NGA|2CA|2CHA|2JA|2JHA|2NYA|2TTA|2TTHA|2DDA|2DDHA|2NNA|2TA|2THA|2DA|2DHA|2NA|CAA:2PA|2PHA|2BA|
  2BHA|2MA|2YA|2RA|2RRA|2LA|2LLA|CB5:2VA|2SHA|2SSA|2SA|2HA|CBC:1i NUKTA|2AVAGRAHA|1vw i AA|3I|3II|
  3U|3UU|3vo R|4RR|CC6:3E|3EE|3AI|CCA:3O|3OO|3AU|1i VIRAMA|CD5:1LENGTH mr|1AI LENGTH mr|
  CDD:1l NAKAARA POLLU|2FA|CE0:2vo RR|3LL|1vw i vo L|4LL|CE6:1dg ZERO|2on|2tw|2h|2fo|2fi|2SIX|2se|
  2ei|2ni|CF1:1i JIHVAMULIYA|2UPADHMANIYA|D00:0MALAYALAM i co an b|2ca|2an|2VISARGA|1l VEDIC an|2A|
  2AA|2I|2II|2U|2UU|2vo R|3L|D0E:2E|2EE|2AI|D12:2O|2OO|2AU|2KA|2KHA|2GA|2GHA|2NGA|2CA|2CHA|2JA|2JHA|
  2NYA|2TTA|2TTHA|2DDA|2DDHA|2NNA|2TA|2THA|2DA|2DHA|2NA|2NNNA|2PA|2PHA|2BA|2BHA|2MA|2YA|2RA|2RRA|
  2LA|2LLA|2LLLA|2VA|2SHA|2SSA|2SA|2HA|2TTTA|1i v BAR VIRAMA|2CIRCULAR VIRAMA|2AVAGRAHA|1vw i AA|3I|
  3II|3U|3UU|3vo R|4RR|D46:3E|3EE|3AI|D4A:3O|3OO|3AU|1i VIRAMA|1l do REPH|1i PARA|D54:1l CHILLU M|
  3Y|3LLL|1AU LENGTH mr|1FRACTION on ONE-HUNDRED-AND-SIXTIETH|3FORTIETH|2h EIGHTIETHS|2on TWENTIETH|
  3TENTH|2h TWENTIETHS|2on FIFTH|1l ARCHAIC II|2vo RR|3LL|1vw i vo L|4LL|D66:1dg ZERO|2on|2tw|2h|
  2fo|2fi|2SIX|2se|2ei|2ni|1NUMBER TEN|2on hu|3th|1FRACTION on QUARTER|3ha|2h QUARTERS|
  2on SIXTEENTH|3EIGHTH|2h SIXTEENTHS|1DATE mr|1l CHILLU NN|3N|3RR|3L|3LL|3K|D81:0SINHALA i ca|
  2ANUSVARAYA|2VISARGAYA|D85:1l AYANNA|2AAYANNA|2AEYANNA|2AEEYANNA|2IYANNA|2IIYANNA|2UYANNA|
  2UUYANNA|2IRUYANNA|2IRUUYANNA|2ILUYANNA|2ILUUYANNA|2EYANNA|2EEYANNA|2AIYANNA|2OYANNA|2OOYANNA|
  2AUYANNA|D9A:2ALPAPRAANA KAYANNA|2MAHAAPRAANA KAYANNA|2ALPAPRAANA GAYANNA|2MAHAAPRAANA GAYANNA|
  2KANTAJA NAASIKYAYA|2SANYAKA GAYANNA|2ALPAPRAANA CAYANNA|2MAHAAPRAANA CAYANNA|2ALPAPRAANA JAYANNA|
  2MAHAAPRAANA JAYANNA|2TAALUJA NAASIKYAYA|3SANYOOGA NAAKSIKYAYA|2SANYAKA JAYANNA|
  2ALPAPRAANA TTAYANNA|2MAHAAPRAANA TTAYANNA|2ALPAPRAANA DDAYANNA|2MAHAAPRAANA DDAYANNA|
  2MUURDHAJA NAYANNA|2SANYAKA DDAYANNA|2ALPAPRAANA TAYANNA|2MAHAAPRAANA TAYANNA|2ALPAPRAANA DAYANNA|
  2MAHAAPRAANA DAYANNA|2DANTAJA NAYANNA|DB3:2SANYAKA DAYANNA|2ALPAPRAANA PAYANNA|
  2MAHAAPRAANA PAYANNA|2ALPAPRAANA BAYANNA|2MAHAAPRAANA BAYANNA|2MAYANNA|2AMBA BAYANNA|2YAYANNA|
  2RAYANNA|DBD:2DANTAJA LAYANNA|DC0:2VAYANNA|2TAALUJA SAYANNA|2MUURDHAJA SAYANNA|2DANTAJA SAYANNA|
  2HAYANNA|2MUURDHAJA LAYANNA|2FAYANNA|DCA:1i AL-LAKUNA|DCF:1vw i AELA-PILLA|3KETTI AEDA-PILLA|
  3DIGA AEDA-PILLA|3KETTI IS-PILLA|3DIGA IS-PILLA|3KETTI PAA-PILLA|DD6:3DIGA PAA-PILLA|
  DD8:3GAETTA-PILLA|3KOMBUVA|3DIGA KOMBUVA|3KOMBU DEKA|3KOMBUVA HAA AELA-PILLA|5DIGA AELA-PILLA|
  5GAYANUKITTA|3GAYANUKITTA|DE6:1LITH dg ZERO|3on|3tw|3h|3fo|3fi|3SIX|3se|3ei|3ni|
  DF2:1vw i DIGA GAETTA-PILLA|4GAYANUKITTA|1pu KUNDDALIYA|E01:0THAI CHARACTER KO KAI|2KHO KHAI|
  3KHUAT|3KHWAI|3KHON|3RAKHANG|2NGO NGU|2CHO CHAN|3CHING|3CHANG|2SO SO|2CHO CHOE|2YO YING|2DO CHADA|
  2TO PATAK|2THO THAN|3NANGMONTHO|3PHUTHAO|2NO NEN|2DO DEK|2TO TAO|2THO THUNG|3THAHAN|3THONG|2NO NU|
  2BO BAIMAI|2PO PLA|2PHO PHUNG|2FO FA|2PHO PHAN|2FO FAN|2PHO SAMPHAO|2MO MA|2YO YAK|2RO RUA|2RU|
  2LO LING|2LU|2WO WAEN|2SO SALA|3RUSI|3SUA|2HO HIP|2LO CHULA|2O ANG|2HO NOKHUK|2PAIYANNOI|2SARA A|
  2MAI HAN-AKAT|2SARA AA|3AM|3I|3II|3UE|3UEE|3U|3UU|2PHINTHU|E3F:1CURRENCY y BAHT|1CHARACTER SARA E|
  3AE|3O|3AI MAIMUAN|4MAIMALAI|2LAKKHANGYAO|2MAIYAMOK|2MAITAIKHU|2MAI EK|3THO|3TRI|3CHATTAWA|
  2THANTHAKHAT|2NIKHAHIT|2YAMAKKAN|2FONGMAN|1dg ZERO|2on|2tw|2h|2fo|2fi|2SIX|2se|2ei|2ni|
  1CHARACTER ANGKHANKHU|2KHOMUT|E81:0LAO l KO|2KHO SUNG|E84:3TAM|E86:2PALI GHA|2NGO|2CO|2PALI CHA|
  2SO TAM|E8C:2PALI JHA|2NYO|2PALI NYA|3TTA|3TTHA|3DDA|3DDHA|3NNA|2DO|2TO|2THO SUNG|3TAM|2PALI DHA|
  2NO|2BO|2PO|2PHO SUNG|2FO TAM|2PHO TAM|2FO SUNG|2PALI BHA|2MO|2YO|2LO LING|EA5:3LOOT|EA7:2WO|
  2SANSKRIT SHA|3SSA|2SO SUNG|2HO SUNG|2PALI LLA|2O|2HO TAM|1ELLIPSIS|1vw i A|3MAI KAN|3AA|3AM|3I|
  3II|3Y|3YY|3U|3UU|1i PALI VIRAMA|1vw i MAI KON|1SEMIVOWEL i LO|3NYO|EC0:1vw i E|3EI|3O|3AY|3AI|
  EC6:1KO LA|EC8:1TONE MAI EK|3THO|3TI|3CATAWA|1CANCELLATION mr|1NIGGAHITA|ED0:1dg ZERO|2on|2tw|2h|
  2fo|2fi|2SIX|2se|2ei|2ni|EDC:1HO NO|2MO|1l KHMU GO|3NYO|F00:0TIBETAN SYLLABLE OM|
  1mr GTER YIG MGO TRUNCATED A|5-UM RNAM BCAD MA|6GTER TSHEG MA|2p YIG MGO MDUN MA|
  2CLOSING YIG MGO SGAB MA|2CARET YIG MGO PHUR SHAD MA|2YIG MGO TSHEG SHAD MA|2SBRUL SHAD|
  2BSKUR YIG MGO|2BKA- SHOG YIG MGO|2INTERSYLLABIC TSHEG|2DELIMITER TSHEG BSTAR|2SHAD|2NYIS SHAD|
  2TSHEG SHAD|2NYIS TSHEG SHAD|2RIN CHEN SPUNGS SHAD|2RGYA GRAM SHAD|2CARET -DZUD RTAGS ME LONG CAN|
  2GTER TSHEG|1LOGOTYPE i CHAD RTAGS|3LHAG RTAGS|1ASTROLOGICAL i SGRA GCAN -CHAR RTAGS|3-KHYUD PA|
  3SDONG TSHUGS|1i RDEL DKAR GCIG|4GNYIS|4GSUM|3NAG GCIG|4GNYIS|3DKAR RDEL NAG|1dg ZERO|2on|2tw|2h|
  2fo|2fi|2SIX|2se|2ei|2ni|2ha on|3tw|3h|3fo|3fi|3SIX|3se|3ei|3ni|3ZERO|1mr BSDUS RTAGS|
  2NGAS BZUNG NYI ZLA|2CARET -DZUD RTAGS BZHI MIG CAN|2NGAS BZUNG SGOR RTAGS|2CHE MGO|2TSA -PHRU|
  2GUG RTAGS GYON|4GYAS|2ANG KHANG GYON|4GYAS|1i YAR TSHES|2MAR TSHES|1l KA|2KHA|2GA|2GHA|2NGA|2CA|
  2CHA|2JA|F49:2NYA|2TTA|2TTHA|2DDA|2DDHA|2NNA|2TA|2THA|2DA|2DHA|2NA|2PA|2PHA|2BA|2BHA|2MA|2TSA|
  2TSHA|2DZA|2DZHA|2WA|2ZHA|2ZA|2-A|2YA|2RA|2LA|2SHA|2SSA|2SA|2HA|2A|2KSSA|2FIXED-FORM RA|2KKA|2RRA|
  F71:1vw i AA|3I|3II|3U|3UU|3vo R|4RR|4L|4LL|3E|3EE|3O|3OO|1i RJES SU NGA RO|2RNAM BCAD|1vw i rv I|
  4II|1i NYI ZLA NAA DA|2SNA LDAN|1mr HALANTA|2PALUTA|1i LCI RTAGS|2YANG RTAGS|2LCE TSA CAN|
  2MCHU CAN|2GRU CAN RGYINGS|3MED RGYINGS|2iv MCHU CAN|1SUBJOINED i LCE TSA CAN|3MCHU CAN|
  3iv MCHU CAN|2l KA|3KHA|3GA|3GHA|3NGA|3CA|3CHA|3JA|F99:3NYA|3TTA|3TTHA|3DDA|3DDHA|3NNA|3TA|3THA|
  3DA|3DHA|3NA|3PA|3PHA|3BA|3BHA|3MA|3TSA|3TSHA|3DZA|3DZHA|3WA|3ZHA|3ZA|3-A|3YA|3RA|3LA|3SHA|3SSA|
  3SA|3HA|3A|3KSSA|3FIXED-FORM WA|4YA|4RA|FBE:1KU RU KHA|4BZHI MIG CAN|1CANTILLATION i he BEAT|
  3li BEAT|3CANG TE-U|3SBUB -CHAL|1y DRIL BU|2RDO RJE|2PADMA GDAN|2RDO RJE RGYA GRAM|2PHUR PA|
  2NOR BU|4NYIS -KHYIL|4GSUM -KHYIL|4BZHI -KHYIL|FCE:1i RDEL NAG RDEL DKAR|4GSUM|
  1mr BSKA- SHOG GI MGO RGYAN|2MNYAM YIG GI MGO RGYAN|2NYIS TSHEG|2p BRDA RNYING YIG MGO MDUN MA|
  2CLOSING BRDA RNYING YIG MGO SGAB MA|0RIGHT-FACING SVASTI i|0LEFT-FACING SVASTI i|
  0RIGHT-FACING SVASTI i w DOTS|0LEFT-FACING SVASTI i w DOTS|0TIBETAN mr LEADING MCHAN RTAGS|
  2TRAILING MCHAN RTAGS|1000:0MYANMAR l KA|2KHA|2GA|2GHA|2NGA|2CA|2CHA|2JA|2JHA|2NYA|2NNYA|2TTA|
  2TTHA|2DDA|2DDHA|2NNA|2TA|2THA|2DA|2DHA|2NA|2PA|2PHA|2BA|2BHA|2MA|2YA|2RA|2LA|2WA|2SA|2HA|2LLA|2A|
  2SHAN A|2I|2II|2U|2UU|2E|2MON E|2O|2AU|1vw i TALL AA|3AA|3I|3II|3U|3UU|3E|3AI|3MON II|4O|3E b|
  1i an|2do e|2VISARGA|2VIRAMA|2ASAT|1CONSONANT i me YA|4RA|4WA|4HA|1l GREAT SA|1dg ZERO|2on|2tw|2h|
  2fo|2fi|2SIX|2se|2ei|2ni|1i LITTLE SECTION|2SECTION|1y LOCATIVE|2COMPLETED|2AFOREMENTIONED|
  2GENITIVE|1l SHA|2SSA|2vo R|3RR|3L|3LL|1vw i vo R|4RR|4L|4LL|1l MON NGA|3JHA|3BBA|3BBE|
  1CONSONANT i MON me NA|5MA|5LA|1l SGAW KAREN SHA|1vw i SGAW KAREN EU|1TONE mr SGAW KAREN HATHI|
  5KE PHO|1l WESTERN PWO KAREN THA|5PWA|1vw i WESTERN PWO KAREN EU|6UE|
  1i WESTERN PWO KAREN TONE-1+4|1l EASTERN PWO KAREN NNA|5YWA|5GHWA|1vw i GEBA KAREN I|3KAYAH OE|4U|
  4EE|1l SHAN KA|3KHA|3GA|3CA|3ZA|3NYA|3DA|3NA|3PHA|3FA|3BA|3THA|3HA|1CONSONANT i SHAN me WA|
  1vw i SHAN AA|4E|5b|4n Y|1i SHAN TONE-2|3TONE-3|3TONE-5|3TONE-6|3COUNCIL TONE-2|4TONE-3|
  4EMPHATIC TONE|1l RUMAI PALAUNG FA|1i RUMAI PALAUNG TONE-5|1SHAN dg ZERO|3on|3tw|3h|3fo|3fi|3SIX|
  3se|3ei|3ni|1i KHAMTI TONE-1|3TONE-3|1vw i AITON A|4AI|1y SHAN on|3EXCLAMATION|0GEORGIAN c l AN|
  3BAN|3GAN|3DON|3EN|3VIN|3ZEN|3TAN|3IN|3KAN|3LAS|3MAN|3NAR|3ON|3PAR|3ZHAR|3RAE|3SAN|3TAR|3UN|3PHAR|
  3KHAR|3GHAN|3QAR|3SHIN|3CHIN|3CAN|3JIL|3CIL|3CHAR|3XAN|3JHAN|3HAE|3HE|3HIE|3WE|3HAR|3HOE|10C7:3YN|
  10CD:3AEN|10D0:1l AN|2BAN|2GAN|2DON|2EN|2VIN|2ZEN|2TAN|2IN|2KAN|2LAS|2MAN|2NAR|2ON|2PAR|2ZHAR|
  2RAE|2SAN|2TAR|2UN|2PHAR|2KHAR|2GHAN|2QAR|2SHIN|2CHIN|2CAN|2JIL|2CIL|2CHAR|2XAN|2JHAN|2HAE|2HE|
  2HIE|2WE|2HAR|2HOE|2FI|2YN|2ELIFI|2tu GAN|2AIN|1PARAGRAPH SEPARATOR|0MODIFIER l GEORGIAN NAR|
  0GEORGIAN l AEN|2HARD i|2LABIAL i|0HANGUL CHOSEONG KIYEOK|2SSANGKIYEOK|2NIEUN|2TIKEUT|
  2SSANGTIKEUT|2RIEUL|2MIEUM|2PIEUP|2SSANGPIEUP|2SIOS|2SSANGSIOS|2IEUNG|2CIEUC|2SSANGCIEUC|2CHIEUCH|
  2KHIEUKH|2THIEUTH|2PHIEUPH|2HIEUH|2NIEUN-KIYEOK|2SSANGNIEUN|2NIEUN-TIKEUT|2NIEUN-PIEUP|
  2TIKEUT-KIYEOK|2RIEUL-NIEUN|2SSANGRIEUL|2RIEUL-HIEUH|2KAPYEOUNRIEUL|2MIEUM-PIEUP|2KAPYEOUNMIEUM|
  2PIEUP-KIYEOK|2PIEUP-NIEUN|2PIEUP-TIKEUT|2PIEUP-SIOS|2PIEUP-SIOS-KIYEOK|2PIEUP-SIOS-TIKEUT|
  2PIEUP-SIOS-PIEUP|2PIEUP-SSANGSIOS|2PIEUP-SIOS-CIEUC|2PIEUP-CIEUC|2PIEUP-CHIEUCH|2PIEUP-THIEUTH|
  2PIEUP-PHIEUPH|2KAPYEOUNPIEUP|2KAPYEOUNSSANGPIEUP|2SIOS-KIYEOK|2SIOS-NIEUN|2SIOS-TIKEUT|
  2SIOS-RIEUL|2SIOS-MIEUM|2SIOS-PIEUP|2SIOS-PIEUP-KIYEOK|2SIOS-SSANGSIOS|2SIOS-IEUNG|2SIOS-CIEUC|
  2SIOS-CHIEUCH|2SIOS-KHIEUKH|2SIOS-THIEUTH|2SIOS-PHIEUPH|2SIOS-HIEUH|2CHITUEUMSIOS|
  2CHITUEUMSSANGSIOS|2CEONGCHIEUMSIOS|2CEONGCHIEUMSSANGSIOS|2PANSIOS|2IEUNG-KIYEOK|2IEUNG-TIKEUT|
  2IEUNG-MIEUM|2IEUNG-PIEUP|2IEUNG-SIOS|2IEUNG-PANSIOS|2SSANGIEUNG|2IEUNG-CIEUC|2IEUNG-CHIEUCH|
  2IEUNG-THIEUTH|2IEUNG-PHIEUPH|2YESIEUNG|2CIEUC-IEUNG|2CHITUEUMCIEUC|2CHITUEUMSSANGCIEUC|
  2CEONGCHIEUMCIEUC|2CEONGCHIEUMSSANGCIEUC|2CHIEUCH-KHIEUKH|2CHIEUCH-HIEUH|2CHITUEUMCHIEUCH|
  2CEONGCHIEUMCHIEUCH|2PHIEUPH-PIEUP|2KAPYEOUNPHIEUPH|2SSANGHIEUH|2YEORINHIEUH|2KIYEOK-TIKEUT|
  2NIEUN-SIOS|2NIEUN-CIEUC|2NIEUN-HIEUH|2TIKEUT-RIEUL|2FILLER|1JUNGSEONG FILLER|2A|2AE|2YA|2YAE|2EO|
  2E|2YEO|2YE|2O|2WA|2WAE|2OE|2YO|2U|2WEO|2WE|2WI|2YU|2EU|2YI|2I|2A-O|2A-U|2YA-O|2YA-YO|2EO-O|2EO-U|
  2EO-EU|2YEO-O|2YEO-U|2O-EO|2O-E|2O-YE|2O-O|2O-U|2YO-YA|2YO-YAE|2YO-YEO|2YO-O|2YO-I|2U-A|2U-AE|
  2U-EO-EU|2U-YE|2U-U|2YU-A|2YU-EO|2YU-E|2YU-YEO|2YU-YE|2YU-U|2YU-I|2EU-U|2EU-EU|2YI-U|2I-A|2I-YA|
  2I-O|2I-U|2I-EU|2I-ARAEA|2ARAEA|2ARAEA-EO|2ARAEA-U|2ARAEA-I|2SSANGARAEA|2A-EU|2YA-U|2YEO-YA|2O-YA|
  2O-YAE|1JONGSEONG KIYEOK|2SSANGKIYEOK|2KIYEOK-SIOS|2NIEUN|2NIEUN-CIEUC|2NIEUN-HIEUH|2TIKEUT|
  2RIEUL|2RIEUL-KIYEOK|2RIEUL-MIEUM|2RIEUL-PIEUP|2RIEUL-SIOS|2RIEUL-THIEUTH|2RIEUL-PHIEUPH|
  2RIEUL-HIEUH|2MIEUM|2PIEUP|2PIEUP-SIOS|2SIOS|2SSANGSIOS|2IEUNG|2CIEUC|2CHIEUCH|2KHIEUKH|2THIEUTH|
  2PHIEUPH|2HIEUH|2KIYEOK-RIEUL|2KIYEOK-SIOS-KIYEOK|2NIEUN-KIYEOK|2NIEUN-TIKEUT|2NIEUN-SIOS|
  2NIEUN-PANSIOS|2NIEUN-THIEUTH|2TIKEUT-KIYEOK|2TIKEUT-RIEUL|2RIEUL-KIYEOK-SIOS|2RIEUL-NIEUN|
  2RIEUL-TIKEUT|2RIEUL-TIKEUT-HIEUH|2SSANGRIEUL|2RIEUL-MIEUM-KIYEOK|2RIEUL-MIEUM-SIOS|
  2RIEUL-PIEUP-SIOS|2RIEUL-PIEUP-HIEUH|2RIEUL-KAPYEOUNPIEUP|2RIEUL-SSANGSIOS|2RIEUL-PANSIOS|
  2RIEUL-KHIEUKH|2RIEUL-YEORINHIEUH|2MIEUM-KIYEOK|2MIEUM-RIEUL|2MIEUM-PIEUP|2MIEUM-SIOS|
  2MIEUM-SSANGSIOS|2MIEUM-PANSIOS|2MIEUM-CHIEUCH|2MIEUM-HIEUH|2KAPYEOUNMIEUM|2PIEUP-RIEUL|
  2PIEUP-PHIEUPH|2PIEUP-HIEUH|2KAPYEOUNPIEUP|2SIOS-KIYEOK|2SIOS-TIKEUT|2SIOS-RIEUL|2SIOS-PIEUP|
  2PANSIOS|2IEUNG-KIYEOK|2IEUNG-SSANGKIYEOK|2SSANGIEUNG|2IEUNG-KHIEUKH|2YESIEUNG|2YESIEUNG-SIOS|
  2YESIEUNG-PANSIOS|2PHIEUPH-PIEUP|2KAPYEOUNPHIEUPH|2HIEUH-NIEUN|2HIEUH-RIEUL|2HIEUH-MIEUM|
  2HIEUH-PIEUP|2YEORINHIEUH|2KIYEOK-NIEUN|2KIYEOK-PIEUP|2KIYEOK-CHIEUCH|2KIYEOK-KHIEUKH|
  2KIYEOK-HIEUH|2SSANGNIEUN|0ETHIOPIC SYLLABLE HA|2HU|2HI|2HAA|2HEE|2HE|2HO|2HOA|2LA|2LU|2LI|2LAA|
  2LEE|2LE|2LO|2LWA|2HHA|2HHU|2HHI|2HHAA|2HHEE|2HHE|2HHO|2HHWA|2MA|2MU|2MI|2MAA|2MEE|2ME|2MO|2MWA|
  2SZA|2SZU|2SZI|2SZAA|2SZEE|2SZE|2SZO|2SZWA|2RA|2RU|2RI|2RAA|2REE|2RE|2RO|2RWA|2SA|2SU|2SI|2SAA|
  2SEE|2SE|2SO|2SWA|2SHA|2SHU|2SHI|2SHAA|2SHEE|2SHE|2SHO|2SHWA|2QA|2QU|2QI|2QAA|2QEE|2QE|2QO|2QOA|
  2QWA|124A:2QWI|2QWAA|2QWEE|2QWE|1250:2QHA|2QHU|2QHI|2QHAA|2QHEE|2QHE|2QHO|1258:2QHWA|125A:2QHWI|
  2QHWAA|2QHWEE|2QHWE|1260:2BA|2BU|2BI|2BAA|2BEE|2BE|2BO|2BWA|2VA|2VU|2VI|2VAA|2VEE|2VE|2VO|2VWA|
  2TA|2TU|2TI|2TAA|2TEE|2TE|2TO|2TWA|2CA|2CU|2CI|2CAA|2CEE|2CE|2CO|2CWA|2XA|2XU|2XI|2XAA|2XEE|2XE|
  2XO|2XOA|2XWA|128A:2XWI|2XWAA|2XWEE|2XWE|1290:2NA|2NU|2NI|2NAA|2NEE|2NE|2NO|2NWA|2NYA|2NYU|2NYI|
  2NYAA|2NYEE|2NYE|2NYO|2NYWA|2GLOTTAL A|3U|3I|3AA|3EE|3E|3O|3WA|2KA|2KU|2KI|2KAA|2KEE|2KE|2KO|2KOA|
  2KWA|12B2:2KWI|2KWAA|2KWEE|2KWE|12B8:2KXA|2KXU|2KXI|2KXAA|2KXEE|2KXE|2KXO|12C0:2KXWA|12C2:2KXWI|
  2KXWAA|2KXWEE|2KXWE|12C8:2WA|2WU|2WI|2WAA|2WEE|2WE|2WO|2WOA|2PHARYNGEAL A|3U|3I|3AA|3EE|3E|3O|
  12D8:2ZA|2ZU|2ZI|2ZAA|2ZEE|2ZE|2ZO|2ZWA|2ZHA|2ZHU|2ZHI|2ZHAA|2ZHEE|2ZHE|2ZHO|2ZHWA|2YA|2YU|2YI|
  2YAA|2YEE|2YE|2YO|2YOA|2DA|2DU|2DI|2DAA|2DEE|2DE|2DO|2DWA|2DDA|2DDU|2DDI|2DDAA|2DDEE|2DDE|2DDO|
  2DDWA|2JA|2JU|2JI|2JAA|2JEE|2JE|2JO|2JWA|2GA|2GU|2GI|2GAA|2GEE|2GE|2GO|2GOA|2GWA|1312:2GWI|2GWAA|
  2GWEE|2GWE|1318:2GGA|2GGU|2GGI|2GGAA|2GGEE|2GGE|2GGO|2GGWAA|2THA|2THU|2THI|2THAA|2THEE|2THE|2THO|
  2THWA|2CHA|2CHU|2CHI|2CHAA|2CHEE|2CHE|2CHO|2CHWA|2PHA|2PHU|2PHI|2PHAA|2PHEE|2PHE|2PHO|2PHWA|2TSA|
  2TSU|2TSI|2TSAA|2TSEE|2TSE|2TSO|2TSWA|2TZA|2TZU|2TZI|2TZAA|2TZEE|2TZE|2TZO|2TZOA|2FA|2FU|2FI|2FAA|
  2FEE|2FE|2FO|2FWA|2PA|2PU|2PI|2PAA|2PEE|2PE|2PO|2PWA|2RYA|2MYA|2FYA|
  135D:1co GEMINATION j vw LENGTH mr|2vw LENGTH mr|2GEMINATION mr|1SECTION mr|1WORDSPACE|1FULL STOP|
  1COMMA|1SEMICOLON|1COLON|1PREFACE COLON|1QUESTION mr|1PARAGRAPH SEPARATOR|1dg on|2tw|2h|2fo|2fi|
  2SIX|2se|2ei|2ni|1NUMBER TEN|2TWENTY|2THIRTY|2FORTY|2FIFTY|2SIXTY|2SEVENTY|2EIGHTY|2NINETY|2hu|
  2TEN th"

end Archetype.Text
