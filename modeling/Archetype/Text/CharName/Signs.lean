/-!
# Names of characters: punctuation, arrows, mathematics, shapes and dingbats

One entry a character, divided by `|`, in the order of the code points: the code point in
hexadecimal and a colon where it does not follow the one before, then the number of words that the
name shares with the start of the name before it, then the other words. An entry with `+n` behind it
stands for `n` more names, in which the number at the end is counted on. One or two small letters
stand for a frequent word.
-/

namespace Archetype.Text

/-- names of punctuation, arrows, mathematics, shapes and dingbats -/
def signsNames : String :=
  "2000:0EN QUAD|0EM QUAD|0EN SPACE|0EM SPACE|0THREE-PER-EM SPACE|0FOUR-PER-EM SPACE|
  0SIX-PER-EM SPACE|0FIGURE SPACE|0pu SPACE|0THIN SPACE|0HAIR SPACE|0ZERO WIDTH SPACE|2NON-JOINER|
  2JOINER|0LEFT-TO-RIGHT mr|0RIGHT-TO-LEFT mr|0HYPHEN|0NON-BREAKING HYPHEN|0FIGURE DASH|0EN DASH|
  0EM DASH|0z BAR|0d v LINE|1LOW LINE|0t si QUOTATION mr|0r si QUOTATION mr|0si LOW-9 QUOTATION mr|
  1HIGH-REVERSED-9 QUOTATION mr|0t d QUOTATION mr|0r d QUOTATION mr|0d LOW-9 QUOTATION mr|
  1HIGH-REVERSED-9 QUOTATION mr|0DAGGER|0d DAGGER|0BULLET|0TRIANGULAR BULLET|0on do LEADER|
  0tw do LEADER|0z ELLIPSIS|0HYPHENATION POINT|0LINE SEPARATOR|0PARAGRAPH SEPARATOR|
  0LEFT-TO-RIGHT EMBEDDING|0RIGHT-TO-LEFT EMBEDDING|0POP DIRECTIONAL FORMATTING|
  0LEFT-TO-RIGHT OVERRIDE|0RIGHT-TO-LEFT OVERRIDE|0NARROW NO-BREAK SPACE|0PER MILLE i|1TEN th i|
  0PRIME|0d PRIME|0TRIPLE PRIME|0rv PRIME|1d PRIME|1TRIPLE PRIME|0CARET|
  0si LEFT-POINTING ANGLE QUOTATION mr|1ri ANGLE QUOTATION mr|0REFERENCE mr|0d EXCLAMATION mr|
  0INTERROBANG|0OVERLINE|0UNDERTIE|0CHARACTER TIE|0CARET INSERTION POINT|0ASTERISM|0HYPHEN BULLET|
  0FRACTION SLASH|0t sq br w QUILL|0r sq br w QUILL|0d QUESTION mr|0QUESTION EXCLAMATION mr|
  0EXCLAMATION QUESTION mr|0TIRONIAN i ET|0rv PILCROW i|0u m BULLET|1g BULLET|0LOW as|0rv SEMICOLON|
  0CLOSE UP|0tw ASTERISKS ALIGNED VERTICALLY|0COMMERCIAL MINUS i|0SWUNG DASH|0iv UNDERTIE|
  0FLOWER pu mr|0h do pu|0QUADRUPLE PRIME|0fo do pu|0fi do pu|0tw do pu|0fo do mr|0DOTTED CROSS|
  0TRICOLON|0v fo DOTS|0md MATHEMATICAL SPACE|0WORD JOINER|0FUNCTION APPLICATION|0INVISIBLE tm|
  1SEPARATOR|1pl|2066:0LEFT-TO-RIGHT ISOLATE|0RIGHT-TO-LEFT ISOLATE|0FIRST STRONG ISOLATE|
  0POP DIRECTIONAL ISOLATE|0INHIBIT SYMMETRIC SWAPPING|0ACTIVATE SYMMETRIC SWAPPING|
  0INHIBIT ARABIC f SHAPING|0ACTIVATE ARABIC f SHAPING|0NATIONAL dg SHAPES|0NOMINAL dg SHAPES|
  0SUPERSCRIPT ZERO|1LATIN s l I|2074:1fo|1fi|1SIX|1se|1ei|1ni|1pl i|1MINUS|1EQUALS i|1t pa|1r pa|
  1LATIN s l N|0SUBSCRIPT ZERO|1on|1tw|1h|1fo|1fi|1SIX|1se|1ei|1ni|1pl i|1MINUS|1EQUALS i|1t pa|
  1r pa|2090:0LATIN SUBSCRIPT s l A|4E|4O|4X|4SCHWA|4H|4K|4L|4M|4N|4P|4S|4T|20A0:0EURO-CURRENCY i|
  0COLON i|0CRUZEIRO i|0FRENCH FRANC i|0LIRA i|0MILL i|0NAIRA i|0PESETA i|0RUPEE i|0WON i|
  0NEW SHEQEL i|0DONG i|0EURO i|0KIP i|0TUGRIK i|0DRACHMA i|0GERMAN PENNY i|0PESO i|0GUARANI i|
  0AUSTRAL i|0HRYVNIA i|0CEDI i|0LIVRE TOURNOIS i|0SPESMILO i|0TENGE i|0INDIAN RUPEE i|
  0TURKISH LIRA i|0NORDIC mr i|0MANAT i|0RUBLE i|0LARI i|0BITCOIN i|0SOM i|20D0:0co t hr b|1r hr b|
  1LONG v LINE OVERLAY|1SHORT v LINE OVERLAY|1ANTICLOCKWISE a b|1CLOCKWISE a b|1t a b|1r a b|
  1RING OVERLAY|1CLOCKWISE RING OVERLAY|1ANTICLOCKWISE RING OVERLAY|1h DOTS b|1fo DOTS b|
  1ENCLOSING ci|2sq|2DIAMOND|2ci BACKSLASH|1t r a b|1ENCLOSING SCREEN|2KEYCAP|2UPWARD po tr|
  1REVERSE SOLIDUS OVERLAY|1d v k OVERLAY|1ANNUITY y|1TRIPLE UNDERDOT|1WIDE BRIDGE b|1m a OVERLAY|
  1LONG d SOLIDUS OVERLAY|1g hr w BARB dn|1m hr w BARB dn|1t a e|1r a e|1as b|2100:0ACCOUNT OF|
  0ADDRESSED TO THE SUBJECT|0DOUBLE-STRUCK c C|0DEGREE CELSIUS|0CENTRE LINE y|0CARE OF|0CADA UNA|
  0EULER CONSTANT|0SCRUPLE|0DEGREE FAHRENHEIT|0SCRIPT s G|1c H|0BLACK-LETTER c H|0DOUBLE-STRUCK c H|
  0PLANCK CONSTANT|2OVER tw PI|0SCRIPT c I|0BLACK-LETTER c I|0SCRIPT c L|1s L|0L B BAR y|
  0DOUBLE-STRUCK c N|0NUMERO i|0SOUND RECORDING COPYRIGHT|0SCRIPT c P|0DOUBLE-STRUCK c P|2Q|
  0SCRIPT c R|0BLACK-LETTER c R|0DOUBLE-STRUCK c R|0PRESCRIPTION TAKE|0RESPONSE|0SERVICE mr|
  0TELEPHONE i|0TRADE mr i|0VERSICLE|0DOUBLE-STRUCK c Z|0OUNCE i|0OHM i|0iv OHM i|0BLACK-LETTER c Z|
  0tu GREEK s l IOTA|0KELVIN i|0ANGSTROM i|0SCRIPT c B|0BLACK-LETTER c C|0ESTIMATED y|0SCRIPT s E|
  1c E|2F|0tu c F|0SCRIPT c M|1s O|0ALEF y|0BET y|0GIMEL y|0DALET y|0INFORMATION SOURCE|0ro c Q|
  0FACSIMILE i|0DOUBLE-STRUCK s PI|2GAMMA|1c GAMMA|2PI|1N-ARY SUMMATION|0tu SANS-SERIF c G|3L|
  0rv SANS-SERIF c L|0tu SANS-SERIF c Y|0DOUBLE-STRUCK ITALIC c D|2s D|3E|3I|3J|0PROPERTY LINE|
  0tu AMPERSAND|0PER i|0AKTIESELSKAB|0tu s F|0y FOR SAMARITAN SOURCE|0VULGAR FRACTION on SEVENTH|
  3NINTH|3TENTH|3THIRD|2tw THIRDS|2on FIFTH|2tw FIFTHS|2h FIFTHS|2fo FIFTHS|2on SIXTH|2fi SIXTHS|
  2on EIGHTH|2h EIGHTHS|2fi EIGHTHS|2se EIGHTHS|0FRACTION NUMERATOR on|0ROMAN NUMERAL on|2tw|2h|2fo|
  2fi|2SIX|2se|2ei|2ni|2TEN|2ELEVEN|2TWELVE|2FIFTY|2on hu|2fi hu|2on th|0s ROMAN NUMERAL on|3tw|3h|
  3fo|3fi|3SIX|3se|3ei|3ni|3TEN|3ELEVEN|3TWELVE|3FIFTY|3on hu|3fi hu|3on th|
  0ROMAN NUMERAL on th C D|2fi th|2TEN th|2rv on hu|0LATIN s l rv C|0ROMAN NUMERAL SIX LATE f|
  2FIFTY EARLY f|3th|2on hu th|0VULGAR FRACTION ZERO THIRDS|0tu dg tw|2h|2190:0m a|0up a|0g a|0dn a|
  0t r a|0UP dw a|0NORTH WEST a|1EAST a|0SOUTH EAST a|1WEST a|0m a w k|0g a w k|0m WAVE a|0g WAVE a|
  0m tw HEADED a|0up tw HEADED a|0g tw HEADED a|0dn tw HEADED a|0m a w TAIL|0g a w TAIL|
  0m a FROM BAR|0up a FROM BAR|0g a FROM BAR|0dn a FROM BAR|0UP dw a w BASE|0m a w ho|0g a w ho|
  0m a w LOOP|0g a w LOOP|0t r WAVE a|2a w k|0dn ZIGZAG a|0up a w TIP m|4g|0dn a w TIP m|4g|
  0g a w CORNER dn|0dn a w CORNER m|0ANTICLOCKWISE TOP SEMICIRCLE a|0CLOCKWISE TOP SEMICIRCLE a|
  0NORTH WEST a TO LONG BAR|0m a TO BAR OVER g a TO BAR|0ANTICLOCKWISE OPEN ci a|
  0CLOCKWISE OPEN ci a|0m hr w BARB up|4dn|0up hr w BARB g|4m|0g hr w BARB up|4dn|0dn hr w BARB g|
  4m|0g a OVER m a|0up a m OF dn a|0m a OVER g a|1PAIRED ARROWS|0up PAIRED ARROWS|0g PAIRED ARROWS|
  0dn PAIRED ARROWS|0m hr OVER g hr|0g hr OVER m hr|0m d a w k|0t r d a w k|0g d a w k|0m d a|
  0up d a|0g d a|0dn d a|0t r d a|0UP dw d a|0NORTH WEST d a|1EAST d a|0SOUTH EAST d a|1WEST d a|
  0m TRIPLE a|0g TRIPLE a|0m SQUIGGLE a|0g SQUIGGLE a|0up a w d k|0dn a w d k|0m DASHED a|
  0up DASHED a|0g DASHED a|0dn DASHED a|0m a TO BAR|0g a TO BAR|0m x a|0up x a|0g x a|0dn x a|
  0up x a FROM BAR|3ON PEDESTAL|5w z BAR|6v BAR|2d a|4ON PEDESTAL|0g x a FROM WALL|
  0NORTH WEST a TO CORNER|0SOUTH EAST a TO CORNER|0UP dw x a|0r a w s ci|0dn a m OF up a|
  0h g ARROWS|0m a w v k|0g a w v k|0t r a w v k|0m a w d v k|0g a w d v k|0t r a w d v k|
  0m OPEN-HEADED a|0g OPEN-HEADED a|0t r OPEN-HEADED a|0FOR ALL|0COMPLEMENT|0PARTIAL DIFFERENTIAL|
  0THERE EXISTS|1DOES NOT EXIST|0EMPTY SET|0INCREMENT|0NABLA|0ELEMENT OF|0NOT AN ELEMENT OF|
  0s ELEMENT OF|0CONTAINS AS MEMBER|0DOES NOT CONTAIN AS MEMBER|0s CONTAINS AS MEMBER|0END OF PROOF|
  0N-ARY PRODUCT|1COPRODUCT|1SUMMATION|0MINUS i|0MINUS-OR-PLUS i|0do pl|0DIVISION SLASH|0SET MINUS|
  0as OPERATOR|0RING OPERATOR|0BULLET OPERATOR|0sq ROOT|0CUBE ROOT|0FOURTH ROOT|0PROPORTIONAL TO|
  0INFINITY|0r ANGLE|0ANGLE|0MEASURED ANGLE|0SPHERICAL ANGLE|0DIVIDES|0DOES NOT DIVIDE|0PARALLEL TO|
  0NOT PARALLEL TO|0LOGICAL j|1OR|0INTERSECTION|0UNION|0INTEGRAL|0d INTEGRAL|0TRIPLE INTEGRAL|
  0CONTOUR INTEGRAL|0SURFACE INTEGRAL|0VOLUME INTEGRAL|0CLOCKWISE INTEGRAL|1CONTOUR INTEGRAL|
  0ANTICLOCKWISE CONTOUR INTEGRAL|0THEREFORE|0BECAUSE|0RATIO|0PROPORTION|0do MINUS|0EXCESS|
  0GEOMETRIC PROPORTION|0HOMOTHETIC|0ti OPERATOR|0rv ti|0iv LAZY S|0SINE WAVE|0WREATH PRODUCT|
  0NOT ti|0MINUS ti|0ASYMPTOTICALLY eq TO|0NOT ASYMPTOTICALLY eq TO|0APPROXIMATELY eq TO|
  1BUT NOT ACTUALLY eq TO|0NEITHER APPROXIMATELY NOR ACTUALLY eq TO|0ALMOST eq TO|0NOT ALMOST eq TO|
  0ALMOST eq OR eq TO|0TRIPLE ti|0ALL eq TO|0EQUIVALENT TO|0GEOMETRICALLY EQUIVALENT TO|
  0DIFFERENCE BETWEEN|0APPROACHES THE LIMIT|0GEOMETRICALLY eq TO|
  0APPROXIMATELY eq TO OR THE IMAGE OF|0IMAGE OF OR APPROXIMATELY eq TO|0COLON EQUALS|0EQUALS COLON|
  0RING IN eq TO|1eq TO|0CORRESPONDS TO|0ESTIMATES|0EQUIANGULAR TO|0STAR EQUALS|0DELTA eq TO|
  0eq TO BY DEFINITION|0MEASURED BY|0QUESTIONED eq TO|0NOT eq TO|0IDENTICAL TO|0NOT IDENTICAL TO|
  0STRICTLY EQUIVALENT TO|0le OR eq TO|0gr OR eq TO|0le OVER eq TO|0gr OVER eq TO|0le BUT NOT eq TO|
  0gr BUT NOT eq TO|0MUCH le|1gr|0BETWEEN|0NOT EQUIVALENT TO|1le|1gr|0NEITHER le NOR eq TO|
  1gr NOR eq TO|0le OR EQUIVALENT TO|0gr OR EQUIVALENT TO|0NEITHER le NOR EQUIVALENT TO|
  1gr NOR EQUIVALENT TO|0le OR gr|0gr OR le|0NEITHER le NOR gr|1gr NOR le|0PRECEDES|0SUCCEEDS|
  0PRECEDES OR eq TO|0SUCCEEDS OR eq TO|0PRECEDES OR EQUIVALENT TO|0SUCCEEDS OR EQUIVALENT TO|
  0DOES NOT PRECEDE|2SUCCEED|0SUBSET OF|0SUPERSET OF|0NOT A SUBSET OF|2SUPERSET OF|
  0SUBSET OF OR eq TO|0SUPERSET OF OR eq TO|0NEITHER A SUBSET OF NOR eq TO|2SUPERSET OF NOR eq TO|
  0SUBSET OF w NOT eq TO|0SUPERSET OF w NOT eq TO|0MULTISET|1MULTIPLICATION|1UNION|0sq IMAGE OF|
  1ORIGINAL OF|1IMAGE OF OR eq TO|1ORIGINAL OF OR eq TO|1CAP|1CUP|0cr pl|1MINUS|1tm|1DIVISION SLASH|
  1do OPERATOR|1RING OPERATOR|1as OPERATOR|1EQUALS|1DASH|0SQUARED pl|1MINUS|1tm|1do OPERATOR|
  0r TACK|0t TACK|0dw TACK|0UP TACK|0ASSERTION|0MODELS|0TRUE|0FORCES|0TRIPLE v BAR r TURNSTILE|
  0d v BAR d r TURNSTILE|0DOES NOT PROVE|0NOT TRUE|0DOES NOT FORCE|0NEGATED d v BAR d r TURNSTILE|
  0PRECEDES UNDER RELATION|0SUCCEEDS UNDER RELATION|0NORMAL SUBGROUP OF|
  0CONTAINS AS NORMAL SUBGROUP|0NORMAL SUBGROUP OF OR eq TO|0CONTAINS AS NORMAL SUBGROUP OR eq TO|
  0ORIGINAL OF|0IMAGE OF|0MULTIMAP|0HERMITIAN CONJUGATE MATRIX|0INTERCALATE|0XOR|0NAND|0NOR|
  0r ANGLE w ARC|1tr|0N-ARY LOGICAL j|2OR|1INTERSECTION|1UNION|0DIAMOND OPERATOR|0do OPERATOR|
  0STAR OPERATOR|0DIVISION tm|0BOWTIE|0t NORMAL FACTOR SEMIDIRECT PRODUCT|
  0r NORMAL FACTOR SEMIDIRECT PRODUCT|0t SEMIDIRECT PRODUCT|0r SEMIDIRECT PRODUCT|0rv ti EQUALS|
  0CURLY LOGICAL OR|2j|0d SUBSET|1SUPERSET|1INTERSECTION|1UNION|0PITCHFORK|0eq j PARALLEL TO|
  0le w do|0gr w do|0VERY MUCH le|2gr|0le eq TO OR gr|0gr eq TO OR le|0eq TO OR le|3gr|3PRECEDES|
  3SUCCEEDS|0DOES NOT PRECEDE OR eq|2SUCCEED OR eq|0NOT sq IMAGE OF OR eq TO|2ORIGINAL OF OR eq TO|
  0sq IMAGE OF OR NOT eq TO|1ORIGINAL OF OR NOT eq TO|0le BUT NOT EQUIVALENT TO|
  0gr BUT NOT EQUIVALENT TO|0PRECEDES BUT NOT EQUIVALENT TO|0SUCCEEDS BUT NOT EQUIVALENT TO|
  0NOT NORMAL SUBGROUP OF|0DOES NOT CONTAIN AS NORMAL SUBGROUP|0NOT NORMAL SUBGROUP OF OR eq TO|
  0DOES NOT CONTAIN AS NORMAL SUBGROUP OR eq|0v ELLIPSIS|0MIDLINE z ELLIPSIS|
  0UP r DIAGONAL ELLIPSIS|0dw r DIAGONAL ELLIPSIS|0ELEMENT OF w LONG z k|3v BAR AT END OF z k|
  0s ELEMENT OF w v BAR AT END OF z k|0ELEMENT OF w do b|3OVERBAR|0s ELEMENT OF w OVERBAR|
  0ELEMENT OF w UNDERBAR|3tw z STROKES|0CONTAINS w LONG z k|2v BAR AT END OF z k|
  0s CONTAINS w v BAR AT END OF z k|0CONTAINS w OVERBAR|0s CONTAINS w OVERBAR|
  0Z NOTATION BAG MEMBERSHIP|0DIAMETER i|0ELECTRIC a|0HOUSE|0UP ar|0dw ar|0PROJECTIVE|0PERSPECTIVE|
  0WAVY LINE|0t CEILING|0r CEILING|0t FLOOR|0r FLOOR|0BOTTOM r CROP|1t CROP|0TOP r CROP|1t CROP|
  0rv NOT i|0sq LOZENGE|0ARC|0SEGMENT|0SECTOR|0TELEPHONE RECORDER|0POSITION INDICATOR|0VIEWDATA sq|
  0PLACE OF INTEREST i|0tu NOT i|0WATCH|0HOURGLASS|0TOP t CORNER|1r CORNER|0BOTTOM t CORNER|
  1r CORNER|0TOP ha INTEGRAL|0BOTTOM ha INTEGRAL|0FROWN|0SMILE|0UP ar BETWEEN tw z BARS|0OPTION KEY|
  0ERASE TO THE r|0X IN A RECTANGLE BOX|0KEYBOARD|0LEFT-POINTING ANGLE br|0ri ANGLE br|
  0ERASE TO THE t|0BENZENE RING|0CYLINDRICITY|0ALL AROUND-PROFILE|0SYMMETRY|0TOTAL RUNOUT|
  0DIMENSION ORIGIN|0CONICAL TAPER|0SLOPE|0COUNTERBORE|0COUNTERSINK|0APL FUNCTIONAL y I-BEAM|
  3SQUISH QUAD|3QUAD eq|4DIVIDE|4DIAMOND|4JOT|4ci|3ci STILE|4JOT|3SLASH BAR|3BACKSLASH BAR|
  3QUAD SLASH|4BACKSLASH|4le|4gr|3m VANE|3g VANE|3QUAD m a|4g a|3ci BACKSLASH|3dw TACK UNDERBAR|
  3DELTA STILE|3QUAD dw CARET|4DELTA|3dw TACK JOT|3up VANE|3QUAD up a|3UP TACK OVERBAR|3DEL STILE|
  3QUAD UP CARET|4DEL|3UP TACK JOT|3dn VANE|3QUAD dn a|3QUOTE UNDERBAR|3DELTA UNDERBAR|
  3DIAMOND UNDERBAR|3JOT UNDERBAR|3ci UNDERBAR|3UP SHOE JOT|3QUOTE QUAD|3ci STAR|3QUAD COLON|
  3UP TACK di|3DEL di|3STAR di|3JOT di|3ci di|3dw SHOE STILE|3t SHOE STILE|3ti di|3gr di|3COMMA BAR|
  3DEL ti|3ZILDE|3STILE ti|3SEMICOLON UNDERBAR|3QUAD NOT eq|4QUESTION|3dw CARET ti|3UP CARET ti|
  3IOTA|3RHO|3OMEGA|3ALPHA UNDERBAR|3EPSILON UNDERBAR|3IOTA UNDERBAR|3OMEGA UNDERBAR|3ALPHA|
  0NOT CHECK mr|0r ANGLE w dn ZIGZAG a|0SHOULDERED OPEN BOX|0BELL y|0v LINE w mi do|0INSERTION y|
  0CONTINUOUS UNDERLINE y|0DISCONTINUOUS UNDERLINE y|0EMPHASIS y|0COMPOSITION y|
  0x sq w CENTRE v LINE|0ENTER y|0ALTERNATIVE KEY y|0HELM y|0cr z BAR w NOTCH|1tr dw|
  0BROKEN ci w NORTHWEST a|0UNDO y|0MONOSTABLE y|0HYSTERESIS y|0OPEN-CIRCUIT-OUTPUT H-TYPE y|
  1L-TYPE y|0PASSIVE-PULL-DOWN-OUTPUT y|0PASSIVE-PULL-UP-OUTPUT y|0DIRECT CURRENT y f tw|
  0SOFTWARE-FUNCTION y|0APL FUNCTIONAL y QUAD|0DECIMAL SEPARATOR KEY y|0PREVIOUS PAGE|0NEXT PAGE|
  0PRINT SCREEN y|0CLEAR SCREEN y|0t pa UPPER ho|2EXTENSION|2lo ho|0r pa UPPER ho|2EXTENSION|2lo ho|
  0t sq br UPPER CORNER|3EXTENSION|3lo CORNER|0r sq br UPPER CORNER|3EXTENSION|3lo CORNER|
  0t CURLY br UPPER ho|3mi PIECE|3lo ho|0CURLY br EXTENSION|0r CURLY br UPPER ho|3mi PIECE|3lo ho|
  0INTEGRAL EXTENSION|0z LINE EXTENSION|0UPPER t OR lo r CURLY br SECTION|
  1r OR lo t CURLY br SECTION|0SUMMATION TOP|1BOTTOM|0TOP sq br|0BOTTOM sq br|3OVER TOP sq br|
  0RADICAL y BOTTOM|0t v BOX LINE|0r v BOX LINE|0z SCAN LINE-1|2LINE-3|2LINE-7|2LINE-9|
  0DENTISTRY y li v j TOP r|5BOTTOM r|4w ci|3dw j z w ci|3UP j z w ci|3v w tr|3dw j z w tr|
  3UP j z w tr|3v j WAVE|3dw j z w WAVE|3UP j z w WAVE|3dw j z|3UP j z|3v j TOP t|5BOTTOM t|
  0sq FOOT|0RETURN y|0EJECT y|0v LINE EXTENSION|0METRICAL BREVE|1LONG OVER SHORT|1SHORT OVER LONG|
  1LONG OVER tw SHORTS|1tw SHORTS OVER LONG|3JOINED|1TRISEME|1TETRASEME|1PENTASEME|0EARTH GROUND|
  0FUSE|0TOP pa|0BOTTOM pa|0TOP CURLY br|0BOTTOM CURLY br|0TOP TORTOISE SHELL br|
  0BOTTOM TORTOISE SHELL br|0x TRAPEZIUM|0BENZENE RING w ci|0STRAIGHTNESS|0FLATNESS|0AC CURRENT|
  0ELECTRICAL INTERSECTION|0DECIMAL EXPONENT y|0u ri d tr|1LEFT-POINTING d tr|1UP-POINTING d tr|
  1DOWN-POINTING d tr|1ri d tr w v BAR|1LEFT-POINTING d tr w v BAR|1ri tr w d v BAR|0ALARM CLOCK|
  0STOPWATCH|0TIMER CLOCK|0HOURGLASS w FLOWING SAND|0u md LEFT-POINTING tr|2ri tr|2UP-POINTING tr|
  2DOWN-POINTING tr|0d v BAR|0u sq FOR STOP|1ci FOR RECORD|0POWER y|1ON-OFF y|1ON y|1SLEEP y|
  0OBSERVER EYE y|0y FOR NULL|2START OF HEADING|4TEXT|2END OF TEXT|4TRANSMISSION|2ENQUIRY|
  2ACKNOWLEDGE|2BELL|2BACKSPACE|2z TABULATION|2LINE FEED|2v TABULATION|2f FEED|2CARRIAGE RETURN|
  2SHIFT OUT|3IN|2DATA LINK ESCAPE|2DEVICE CONTROL on|4tw|4h|4fo|2NEGATIVE ACKNOWLEDGE|
  2SYNCHRONOUS IDLE|2END OF TRANSMISSION BLOCK|2CANCEL|2END OF md|2SUBSTITUTE|2ESCAPE|
  2FILE SEPARATOR|2GROUP SEPARATOR|2RECORD SEPARATOR|2UNIT SEPARATOR|2SPACE|2DELETE|0BLANK y|
  0OPEN BOX|0y FOR NEWLINE|2DELETE f tw|2SUBSTITUTE f tw|2440:0OCR ho|1CHAIR|1FORK|1iv FORK|
  1BELT BUCKLE|1BOW TIE|1BRANCH BANK IDENTIFICATION|1AMOUNT OF CHECK|1DASH|1CUSTOMER ACCOUNT NUMBER|
  1d BACKSLASH|2460:0cr dg on|2tw|2h|2fo|2fi|2SIX|2se|2ei|2ni|1NUMBER TEN|2ELEVEN|2TWELVE|2THIRTEEN|
  2FOURTEEN|2FIFTEEN|2SIXTEEN|2SEVENTEEN|2EIGHTEEN|2NINETEEN|2TWENTY|0PARENTHESIZED dg on|2tw|2h|
  2fo|2fi|2SIX|2se|2ei|2ni|1NUMBER TEN|2ELEVEN|2TWELVE|2THIRTEEN|2FOURTEEN|2FIFTEEN|2SIXTEEN|
  2SEVENTEEN|2EIGHTEEN|2NINETEEN|2TWENTY|0dg on FULL STOP|1tw FULL STOP|1h FULL STOP|1fo FULL STOP|
  1fi FULL STOP|1SIX FULL STOP|1se FULL STOP|1ei FULL STOP|1ni FULL STOP|0NUMBER TEN FULL STOP|
  1ELEVEN FULL STOP|1TWELVE FULL STOP|1THIRTEEN FULL STOP|1FOURTEEN FULL STOP|1FIFTEEN FULL STOP|
  1SIXTEEN FULL STOP|1SEVENTEEN FULL STOP|1EIGHTEEN FULL STOP|1NINETEEN FULL STOP|1TWENTY FULL STOP|
  0PARENTHESIZED LATIN s l A|4B|4C|4D|4E|4F|4G|4H|4I|4J|4K|4L|4M|4N|4O|4P|4Q|4R|4S|4T|4U|4V|4W|4X|
  4Y|4Z|0cr LATIN c l A|4B|4C|4D|4E|4F|4G|4H|4I|4J|4K|4L|4M|4N|4O|4P|4Q|4R|4S|4T|4U|4V|4W|4X|4Y|4Z|
  2s l A|4B|4C|4D|4E|4F|4G|4H|4I|4J|4K|4L|4M|4N|4O|4P|4Q|4R|4S|4T|4U|4V|4W|4X|4Y|4Z|1dg ZERO|
  0NEGATIVE cr NUMBER ELEVEN|3TWELVE|3THIRTEEN|3FOURTEEN|3FIFTEEN|3SIXTEEN|3SEVENTEEN|3EIGHTEEN|
  3NINETEEN|3TWENTY|0d cr dg on|3tw|3h|3fo|3fi|3SIX|3se|3ei|3ni|2NUMBER TEN|0NEGATIVE cr dg ZERO|
  0BOX DRAWINGS li z|2he z|2li v|2he v|2li TRIPLE DASH z|2he TRIPLE DASH z|2li TRIPLE DASH v|
  2he TRIPLE DASH v|2li QUADRUPLE DASH z|2he QUADRUPLE DASH z|2li QUADRUPLE DASH v|
  2he QUADRUPLE DASH v|2li dw j r|2dw li j r he|3he j r li|2he dw j r|2li dw j t|2dw li j t he|
  3he j t li|2he dw j t|2li UP j r|2UP li j r he|3he j r li|2he UP j r|2li UP j t|2UP li j t he|
  3he j t li|2he UP j t|2li v j r|2v li j r he|2UP he j r dw li|2dw he j r UP li|2v he j r li|
  2dw li j r UP he|2UP li j r dw he|2he v j r|2li v j t|2v li j t he|2UP he j t dw li|
  2dw he j t UP li|2v he j t li|2dw li j t UP he|2UP li j t dw he|2he v j t|2li dw j z|
  2t he j r dw li|2r he j t dw li|2dw li j z he|3he j z li|2r li j t dw he|2t li j r dw he|
  2he dw j z|2li UP j z|2t he j r UP li|2r he j t UP li|2UP li j z he|3he j z li|2r li j t UP he|
  2t li j r UP he|2he UP j z|2li v j z|2t he j r v li|2r he j t v li|2v li j z he|2UP he j dw z li|
  2dw he j UP z li|2v he j z li|2t UP he j r dw li|2r UP he j t dw li|2t dw he j r UP li|
  2r dw he j t UP li|2dw li j UP z he|2UP li j dw z he|2r li j t v he|2t li j r v he|2he v j z|
  2li d DASH z|2he d DASH z|2li d DASH v|2he d DASH v|2d z|3v|2dw si j r d|3d j r si|2d dw j r|
  2dw si j t d|3d j t si|2d dw j t|2UP si j r d|3d j r si|2d UP j r|2UP si j t d|3d j t si|
  2d UP j t|2v si j r d|3d j r si|2d v j r|2v si j t d|3d j t si|2d v j t|2dw si j z d|3d j z si|
  2d dw j z|2UP si j z d|3d j z si|2d UP j z|2v si j z d|3d j z si|2d v j z|2li ARC dw j r|6t|
  4UP j t|6r|3DIAGONAL UPPER r TO lo t|5t TO lo r|4CROSS|3t|3UP|3r|3dw|2he t|3UP|3r|3dw|
  2li t j he r|3UP j he dw|2he t j li r|3UP j li dw|0UPPER ha BLOCK|0lo on EIGHTH BLOCK|
  2QUARTER BLOCK|1h EIGHTHS BLOCK|1ha BLOCK|1fi EIGHTHS BLOCK|1h QUARTERS BLOCK|1se EIGHTHS BLOCK|
  0FULL BLOCK|0t se EIGHTHS BLOCK|1h QUARTERS BLOCK|1fi EIGHTHS BLOCK|1ha BLOCK|1h EIGHTHS BLOCK|
  1on QUARTER BLOCK|2EIGHTH BLOCK|0r ha BLOCK|0li SHADE|0md SHADE|0DARK SHADE|
  0UPPER on EIGHTH BLOCK|0r on EIGHTH BLOCK|0QUADRANT lo t|2r|1UPPER t|3j lo t j lo r|5r|
  4UPPER r j lo t|8r|2r|3j lo t|6j lo r|0u sq|0x sq|2w ROUNDED CORNERS|2CONTAINING u s sq|
  0sq w z FILL|2v FILL|2ORTHOGONAL CROSSHATCH FILL|2UPPER t TO lo r FILL|3r TO lo t FILL|
  2DIAGONAL CROSSHATCH FILL|0u s sq|0x s sq|0u RECTANGLE|0x RECTANGLE|0u v RECTANGLE|0x v RECTANGLE|
  0u PARALLELOGRAM|0x PARALLELOGRAM|0u UP-POINTING tr|0x UP-POINTING tr|0u UP-POINTING s tr|
  0x UP-POINTING s tr|0u ri tr|0x ri tr|0u ri s tr|0x ri s tr|0u ri POINTER|0x ri POINTER|
  0u DOWN-POINTING tr|0x DOWN-POINTING tr|0u DOWN-POINTING s tr|0x DOWN-POINTING s tr|
  0u LEFT-POINTING tr|0x LEFT-POINTING tr|0u LEFT-POINTING s tr|0x LEFT-POINTING s tr|
  0u LEFT-POINTING POINTER|0x LEFT-POINTING POINTER|0u DIAMOND|0x DIAMOND|2CONTAINING u s DIAMOND|
  0FISHEYE|0LOZENGE|0x ci|0DOTTED ci|0ci w v FILL|0BULLSEYE|0u ci|0ci w t ha u|2r ha u|2lo ha u|
  2UPPER ha u|3r QUADRANT u|2ALL BUT UPPER t QUADRANT u|0t ha u ci|0r ha u ci|0INVERSE BULLET|1x ci|
  0UPPER ha INVERSE x ci|0lo ha INVERSE x ci|0UPPER t QUADRANT CIRCULAR ARC|
  1r QUADRANT CIRCULAR ARC|0lo r QUADRANT CIRCULAR ARC|1t QUADRANT CIRCULAR ARC|0UPPER ha ci|
  0lo ha ci|0u lo r tr|2t tr|1UPPER t tr|2r tr|0x BULLET|0sq w t ha u|2r ha u|
  2UPPER t DIAGONAL ha u|2lo r DIAGONAL ha u|0x sq w v BISECTING LINE|1UP-POINTING tr w do|
  0UP-POINTING tr w t ha u|3r ha u|0LARGE ci|0x sq w UPPER t QUADRANT|3lo t QUADRANT|4r QUADRANT|
  3UPPER r QUADRANT|1ci w UPPER t QUADRANT|3lo t QUADRANT|4r QUADRANT|3UPPER r QUADRANT|0UPPER t tr|
  1r tr|0lo t tr|0x md sq|0u md sq|0x md s sq|0u md s sq|0lo r tr|0u SUN w RAYS|0CLOUD|0UMBRELLA|
  0SNOWMAN|0COMET|0u STAR|0x STAR|0LIGHTNING|0THUNDERSTORM|0SUN|0ASCENDING NODE|0DESCENDING NODE|
  0CONJUNCTION|0OPPOSITION|0u TELEPHONE|0x TELEPHONE|0BALLOT BOX|2w CHECK|3X|0SALTIRE|
  0UMBRELLA w RAIN DROPS|0HOT BEVERAGE|0x SHOGI PIECE|0u SHOGI PIECE|0SHAMROCK|
  0rv ro FLORAL HEART BULLET|0u t po in|1r po in|0x t po in|1UP po in|1r po in|1dw po in|
  0SKULL j CROSSBONES|0CAUTION i|0RADIOACTIVE i|0BIOHAZARD i|0CADUCEUS|0ANKH|0ORTHODOX CROSS|
  0CHI RHO|0CROSS OF LORRAINE|2JERUSALEM|0STAR j CRESCENT|0FARSI y|0ADI SHAKTI|0HAMMER j SICKLE|
  0PEACE y|0YIN YANG|0TRIGRAM FOR HEAVEN|2LAKE|2FIRE|2THUNDER|2WIND|2WATER|2MOUNTAIN|2EARTH|
  0WHEEL OF DHARMA|0x FROWNING FACE|1SMILING FACE|0u SMILING FACE|0x SUN w RAYS|0FIRST QUARTER MOON|
  0LAST QUARTER MOON|0MERCURY|0FEMALE i|0EARTH|0MALE i|0JUPITER|0SATURN|0URANUS|0NEPTUNE|0PLUTO|
  0ARIES|0TAURUS|0GEMINI|0CANCER|0LEO|0VIRGO|0LIBRA|0SCORPIUS|0SAGITTARIUS|0CAPRICORN|0AQUARIUS|
  0PISCES|0x CHESS KING|2QUEEN|2ROOK|2BISHOP|2KNIGHT|2PAWN|0u CHESS KING|2QUEEN|2ROOK|2BISHOP|
  2KNIGHT|2PAWN|1SPADE SUIT|0x HEART SUIT|1DIAMOND SUIT|0u CLUB SUIT|0x SPADE SUIT|0u HEART SUIT|
  1DIAMOND SUIT|0x CLUB SUIT|0HOT SPRINGS|0QUARTER NOTE|0EIGHTH NOTE|0BEAMED EIGHTH NOTES|
  1SIXTEENTH NOTES|0MUSIC FLAT i|1NATURAL i|1SHARP i|0WEST SYRIAC CROSS|0EAST SYRIAC CROSS|
  0UNIVERSAL RECYCLING y|0RECYCLING y FOR TYPE-1 PLASTICS|3TYPE-2 PLASTICS|3TYPE-3 PLASTICS|
  3TYPE-4 PLASTICS|3TYPE-5 PLASTICS|3TYPE-6 PLASTICS|3TYPE-7 PLASTICS|3GENERIC MATERIALS|
  0u UNIVERSAL RECYCLING y|0RECYCLED PAPER y|0PARTIALLY-RECYCLED PAPER y|0PERMANENT PAPER i|
  0WHEELCHAIR y|0DIE FACE-1+5|0x ci w do r|3tw DOTS|0u ci w x do r|3tw x DOTS|0MONOGRAM FOR YANG|
  2YIN|0DIGRAM FOR GREATER YANG|2LESSER YIN|3YANG|2GREATER YIN|0x FLAG|0u FLAG|0HAMMER j PICK|
  0ANCHOR|0CROSSED SWORDS|0STAFF OF AESCULAPIUS|0SCALES|0ALEMBIC|0FLOWER|0GEAR|0STAFF OF HERMES|
  0ATOM y|0FLEUR-DE-LIS|0OUTLINED x STAR|0h LINES CONVERGING r|3t|0WARNING i|0HIGH VOLTAGE i|
  0DOUBLED FEMALE i|1MALE i|0INTERLOCKED FEMALE j MALE i|0MALE j FEMALE i|1w k i|3j MALE j FEMALE i|
  0v MALE w k i|0z MALE w k i|0md x ci|1u ci|1s x ci|0MARRIAGE y|0DIVORCE y|
  0UNMARRIED PARTNERSHIP y|0COFFIN|0FUNERAL URN|0NEUTER|0CERES|0PALLAS|0JUNO|0VESTA|0CHIRON|
  0u MOON LILITH|0SEXTILE|0SEMISEXTILE|0QUINCUNX|0SESQUIQUADRATE|0SOCCER BALL|0BASEBALL|
  0SQUARED KEY|0x DRAUGHTS MAN|2KING|0u DRAUGHTS MAN|2KING|0SNOWMAN WITHOUT SNOW|0SUN BEHIND CLOUD|
  0RAIN|0u SNOWMAN|0THUNDER CLOUD j RAIN|0tu x SHOGI PIECE|1u SHOGI PIECE|0x DIAMOND IN sq|
  0CROSSING LANES|0DISABLED CAR|0OPHIUCHUS|0PICK|0CAR SLIDING|0HELMET w x CROSS|0cr CROSSING LANES|
  0CHAINS|0NO ENTRY|0ALTERNATE ONE-WAY t WAY TRAFFIC|0u TWO-WAY t WAY TRAFFIC|
  0x TWO-WAY t WAY TRAFFIC|0u t LANE MERGE|0x t LANE MERGE|0DRIVE SLOW i|0he x DOWN-POINTING tr|
  0t CLOSED ENTRY|0SQUARED SALTIRE|0FALLING DIAGONAL IN x ci IN u sq|0u TRUCK|0RESTRICTED t ENTRY-1|
  2ENTRY-2|0ASTRONOMICAL y FOR URANUS|0he ci w k j tw DOTS b|0PENTAGRAM|
  0RIGHT-HANDED INTERLACED PENTAGRAM|0LEFT-HANDED INTERLACED PENTAGRAM|0iv PENTAGRAM|
  0u CROSS ON SHIELD|0SHINTO SHRINE|0CHURCH|0CASTLE|0HISTORIC SITE|0GEAR WITHOUT HUB|1w HANDLES|
  0MAP y FOR LIGHTHOUSE|0MOUNTAIN|0UMBRELLA ON GROUND|0FOUNTAIN|0FLAG IN HOLE|0FERRY|0SAILBOAT|
  0sq fo CORNERS|0SKIER|0ICE SKATE|0PERSON w BALL|0TENT|0JAPANESE BANK y|0HEADSTONE GRAVEYARD y|
  0FUEL PUMP|0CUP ON u sq|0x FLAG w z mi u STRIPE|0u SAFETY SCISSORS|0UPPER BLADE SCISSORS|
  0u SCISSORS|0lo BLADE SCISSORS|0x SCISSORS|1he CHECK mr|0TELEPHONE LOCATION i|0TAPE DRIVE|
  0AIRPLANE|0ENVELOPE|0RAISED FIST|1HAND|0VICTORY HAND|0WRITING HAND|0lo r PENCIL|0PENCIL|
  0UPPER r PENCIL|0x NIB|0u NIB|0CHECK mr|0he CHECK mr|0MULTIPLICATION X|0he MULTIPLICATION X|
  0BALLOT X|0he BALLOT X|0OUTLINED GREEK CROSS|0he GREEK CROSS|0OPEN CENTRE CROSS|
  0he OPEN CENTRE CROSS|0LATIN CROSS|0SHADOWED x LATIN CROSS|0OUTLINED LATIN CROSS|0MALTESE CROSS|
  0STAR OF DAVID|0fo TEARDROP-SPOKED as|1BALLOON-SPOKED as|0he fo BALLOON-SPOKED as|
  0fo CLUB-SPOKED as|0u fo POINTED STAR|0x fo POINTED STAR|0SPARKLES|0STRESS OUTLINED x STAR|
  0cr x STAR|0OPEN CENTRE u STAR|0u CENTRE x STAR|0OUTLINED u STAR|0he OUTLINED u STAR|
  0PINWHEEL STAR|0SHADOWED x STAR|0he as|0OPEN CENTRE as|0ei SPOKED as|1POINTED u STAR|
  2PINWHEEL STAR|0SIX POINTED u STAR|0ei POINTED RECTILINEAR u STAR|
  0he ei POINTED RECTILINEAR u STAR|0TWELVE POINTED u STAR|0SIXTEEN POINTED as|0TEARDROP-SPOKED as|
  0OPEN CENTRE TEARDROP-SPOKED as|0he TEARDROP-SPOKED as|0SIX PETALLED u j x FLORETTE|0u FLORETTE|
  0x FLORETTE|0ei PETALLED OUTLINED u FLORETTE|0cr OPEN CENTRE ei POINTED STAR|
  0he TEARDROP-SPOKED PINWHEEL as|0SNOWFLAKE|0TIGHT TRIFOLIATE SNOWFLAKE|0he CHEVRON SNOWFLAKE|
  0SPARKLE|0he SPARKLE|0BALLOON-SPOKED as|0ei TEARDROP-SPOKED PROPELLER as|
  0he ei TEARDROP-SPOKED PROPELLER as|0CROSS mr|0SHADOWED x ci|0NEGATIVE SQUARED CROSS mr|
  0lo r DROP-SHADOWED x sq|0UPPER r DROP-SHADOWED x sq|0lo r SHADOWED x sq|0UPPER r SHADOWED x sq|
  0u QUESTION mr or|0x QUESTION mr or|1EXCLAMATION mr or|0u DIAMOND MINUS x X|0he EXCLAMATION mr y|
  0li v BAR|0md v BAR|0he v BAR|1si tu COMMA QUOTATION mr or|2COMMA QUOTATION mr or|
  1d tu COMMA QUOTATION mr or|2COMMA QUOTATION mr or|1LOW si COMMA QUOTATION mr or|
  2d COMMA QUOTATION mr or|0CURVED STEM PARAGRAPH i or|0he EXCLAMATION mr or|
  1HEART EXCLAMATION mr or|1u HEART|0ro he u HEART BULLET|0FLORAL HEART|0ro FLORAL HEART BULLET|
  0md t pa or|1r pa or|1FLATTENED t pa or|2r pa or|1LEFT-POINTING ANGLE br or|1ri ANGLE br or|
  0he LEFT-POINTING ANGLE QUOTATION mr or|1ri ANGLE QUOTATION mr or|1LEFT-POINTING ANGLE br or|
  1ri ANGLE br or|0li t TORTOISE SHELL br or|1r TORTOISE SHELL br or|0md t CURLY br or|
  1r CURLY br or|0DINGBAT NEGATIVE cr dg on|4tw|4h|4fo|4fi|4SIX|4se|4ei|4ni|3NUMBER TEN|
  1cr SANS-SERIF dg on|4tw|4h|4fo|4fi|4SIX|4se|4ei|4ni|3NUMBER TEN|1NEGATIVE cr SANS-SERIF dg on|
  5tw|5h|5fo|5fi|5SIX|5se|5ei|5ni|4NUMBER TEN|0he WIDE-HEADED g a|1pl i|1MINUS i|1DIVISION i|
  1SOUTH EAST a|1g a|1NORTH EAST a|0DRAFTING POINT g a|0he ROUND-TIPPED g a|0q g a|0he q g a|
  0DASHED q g a|0he DASHED q g a|0u g a|0THREE-D TOP-LIGHTED g ar|1BOTTOM-LIGHTED g ar|0u g ar|
  0he u CURVED dn j g a|3up j g a|0SQUAT u g a|0he CONCAVE-POINTED u g a|0RIGHT-SHADED x g a|
  0LEFT-SHADED x g a|0BACK-TILTED SHADOWED x g a|0FRONT-TILTED SHADOWED x g a|
  0he lo RIGHT-SHADOWED x g a|1UPPER RIGHT-SHADOWED x g a|0NOTCHED lo RIGHT-SHADOWED x g a|
  0CURLY LOOP|0NOTCHED UPPER RIGHT-SHADOWED x g a|0cr he x g a|0WHITE-FEATHERED g a|
  0BLACK-FEATHERED SOUTH EAST a|1g a|1NORTH EAST a|0he BLACK-FEATHERED SOUTH EAST a|2g a|
  2NORTH EAST a|0TEARDROP-BARBED g a|0he TEARDROP-SHANKED g a|0WEDGE-TAILED g a|
  0he WEDGE-TAILED g a|0OPEN-OUTLINED g a|0d CURLY LOOP|0h DIMENSIONAL ANGLE|
  0x tr CONTAINING s x tr|0PERPENDICULAR|0OPEN SUBSET|1SUPERSET|0t S-SHAPED BAG DELIMITER|
  0r S-SHAPED BAG DELIMITER|0OR w do INSIDE|0REVERSE SOLIDUS PRECEDING SUBSET|
  0SUPERSET PRECEDING SOLIDUS|0v BAR w z k|0MATHEMATICAL RISING DIAGONAL|0LONG DIVISION|
  0MATHEMATICAL FALLING DIAGONAL|0SQUARED LOGICAL j|2OR|0x DIAMOND w CENTRED do|0j w do|
  0ELEMENT OF OPENING up|0lo r CORNER w do|0UPPER t CORNER w do|0t OUTER JOIN|0r OUTER JOIN|
  0FULL OUTER JOIN|0LARGE UP TACK|1dw TACK|0t j r d TURNSTILE|3TACK|1MULTIMAP|0LONG r TACK|1t TACK|
  0UP TACK w ci b|0LOZENGE DIVIDED BY z RULE|0x CONCAVE-SIDED DIAMOND|3w m TICK|4g TICK|
  1sq w m TICK|3g TICK|0MATHEMATICAL t x sq br|1r x sq br|1t ANGLE br|1r ANGLE br|1t d ANGLE br|
  1r d ANGLE br|1t x TORTOISE SHELL br|1r x TORTOISE SHELL br|1t FLATTENED pa|1r FLATTENED pa|
  0up QUADRUPLE a|0dn QUADRUPLE a|0ANTICLOCKWISE GAPPED ci a|0CLOCKWISE GAPPED ci a|0r a w cr pl|
  0LONG m a|1g a|1t r a|1m d a|1g d a|1t r d a|1m a FROM BAR|1g a FROM BAR|1m d a FROM BAR|
  1g d a FROM BAR|2SQUIGGLE a|0BRAILLE PATTERN BLANK|2DOTS-1|2DOTS-2|2DOTS-12|2DOTS-3|2DOTS-13|
  2DOTS-23|2DOTS-123|2DOTS-4|2DOTS-14|2DOTS-24|2DOTS-124|2DOTS-34|2DOTS-134|2DOTS-234|2DOTS-1234|
  2DOTS-5|2DOTS-15|2DOTS-25|2DOTS-125|2DOTS-35|2DOTS-135|2DOTS-235|2DOTS-1235|2DOTS-45|2DOTS-145|
  2DOTS-245|2DOTS-1245|2DOTS-345|2DOTS-1345|2DOTS-2345|2DOTS-12345|2DOTS-6|2DOTS-16|2DOTS-26|
  2DOTS-126|2DOTS-36|2DOTS-136|2DOTS-236|2DOTS-1236|2DOTS-46|2DOTS-146|2DOTS-246|2DOTS-1246|
  2DOTS-346|2DOTS-1346|2DOTS-2346|2DOTS-12346|2DOTS-56|2DOTS-156|2DOTS-256|2DOTS-1256|2DOTS-356|
  2DOTS-1356|2DOTS-2356|2DOTS-12356|2DOTS-456|2DOTS-1456|2DOTS-2456|2DOTS-12456|2DOTS-3456|
  2DOTS-13456|2DOTS-23456|2DOTS-123456|2DOTS-7|2DOTS-17|2DOTS-27|2DOTS-127|2DOTS-37|2DOTS-137|
  2DOTS-237|2DOTS-1237|2DOTS-47|2DOTS-147|2DOTS-247|2DOTS-1247|2DOTS-347|2DOTS-1347|2DOTS-2347|
  2DOTS-12347|2DOTS-57|2DOTS-157|2DOTS-257|2DOTS-1257|2DOTS-357|2DOTS-1357|2DOTS-2357|2DOTS-12357|
  2DOTS-457|2DOTS-1457|2DOTS-2457|2DOTS-12457|2DOTS-3457|2DOTS-13457|2DOTS-23457|2DOTS-123457|
  2DOTS-67|2DOTS-167|2DOTS-267|2DOTS-1267|2DOTS-367|2DOTS-1367|2DOTS-2367|2DOTS-12367|2DOTS-467|
  2DOTS-1467|2DOTS-2467|2DOTS-12467|2DOTS-3467|2DOTS-13467|2DOTS-23467|2DOTS-123467|2DOTS-567|
  2DOTS-1567|2DOTS-2567|2DOTS-12567|2DOTS-3567|2DOTS-13567|2DOTS-23567|2DOTS-123567|2DOTS-4567|
  2DOTS-14567|2DOTS-24567|2DOTS-124567|2DOTS-34567|2DOTS-134567|2DOTS-234567|2DOTS-1234567|2DOTS-8|
  2DOTS-18|2DOTS-28|2DOTS-128|2DOTS-38|2DOTS-138|2DOTS-238|2DOTS-1238|2DOTS-48|2DOTS-148|2DOTS-248|
  2DOTS-1248|2DOTS-348|2DOTS-1348|2DOTS-2348|2DOTS-12348|2DOTS-58|2DOTS-158|2DOTS-258|2DOTS-1258|
  2DOTS-358|2DOTS-1358|2DOTS-2358|2DOTS-12358|2DOTS-458|2DOTS-1458|2DOTS-2458|2DOTS-12458|
  2DOTS-3458|2DOTS-13458|2DOTS-23458|2DOTS-123458|2DOTS-68|2DOTS-168|2DOTS-268|2DOTS-1268|2DOTS-368|
  2DOTS-1368|2DOTS-2368|2DOTS-12368|2DOTS-468|2DOTS-1468|2DOTS-2468|2DOTS-12468|2DOTS-3468|
  2DOTS-13468|2DOTS-23468|2DOTS-123468|2DOTS-568|2DOTS-1568|2DOTS-2568|2DOTS-12568|2DOTS-3568|
  2DOTS-13568|2DOTS-23568|2DOTS-123568|2DOTS-4568|2DOTS-14568|2DOTS-24568|2DOTS-124568|2DOTS-34568|
  2DOTS-134568|2DOTS-234568|2DOTS-1234568|2DOTS-78|2DOTS-178|2DOTS-278|2DOTS-1278|2DOTS-378|
  2DOTS-1378|2DOTS-2378|2DOTS-12378|2DOTS-478|2DOTS-1478|2DOTS-2478|2DOTS-12478|2DOTS-3478|
  2DOTS-13478|2DOTS-23478|2DOTS-123478|2DOTS-578|2DOTS-1578|2DOTS-2578|2DOTS-12578|2DOTS-3578|
  2DOTS-13578|2DOTS-23578|2DOTS-123578|2DOTS-4578|2DOTS-14578|2DOTS-24578|2DOTS-124578|2DOTS-34578|
  2DOTS-134578|2DOTS-234578|2DOTS-1234578|2DOTS-678|2DOTS-1678|2DOTS-2678|2DOTS-12678|2DOTS-3678|
  2DOTS-13678|2DOTS-23678|2DOTS-123678|2DOTS-4678|2DOTS-14678|2DOTS-24678|2DOTS-124678|2DOTS-34678|
  2DOTS-134678|2DOTS-234678|2DOTS-1234678|2DOTS-5678|2DOTS-15678|2DOTS-25678|2DOTS-125678|
  2DOTS-35678|2DOTS-135678|2DOTS-235678|2DOTS-1235678|2DOTS-45678|2DOTS-145678|2DOTS-245678|
  2DOTS-1245678|2DOTS-345678|2DOTS-1345678|2DOTS-2345678|2DOTS-12345678|0g TWO-HEADED a w v k|
  4d v k|0m d a w v k|0g d a w v k|0t r d a w v k|0g TWO-HEADED a FROM BAR|0m d a FROM BAR|
  0g d a FROM BAR|0dn a w z k|0up a w z k|1TRIPLE a|0dn TRIPLE a|0m d DASH a|0g d DASH a|
  0m TRIPLE DASH a|0g TRIPLE DASH a|1TWO-HEADED TRIPLE DASH a|1a w DOTTED STEM|0up a TO BAR|
  0dn a TO BAR|0g a w TAIL w v k|5d v k|1TWO-HEADED a w TAIL|5w v k|6d v k|0m ARROW-TAIL|
  0g ARROW-TAIL|0m d ARROW-TAIL|0g d ARROW-TAIL|0m a TO u DIAMOND|0g a TO u DIAMOND|
  0m a FROM BAR TO u DIAMOND|0g a FROM BAR TO u DIAMOND|0NORTH WEST j SOUTH EAST a|
  1EAST j SOUTH WEST a|1WEST a w ho|1EAST a w ho|0SOUTH EAST a w ho|1WEST a w ho|
  0NORTH WEST a j NORTH EAST a|1EAST a j SOUTH EAST a|0SOUTH EAST a j SOUTH WEST a|
  1WEST a j NORTH WEST a|0RISING DIAGONAL CROSSING FALLING DIAGONAL|
  0FALLING DIAGONAL CROSSING RISING DIAGONAL|0SOUTH EAST a CROSSING NORTH EAST a|
  0NORTH EAST a CROSSING SOUTH EAST a|0FALLING DIAGONAL CROSSING NORTH EAST a|
  0RISING DIAGONAL CROSSING SOUTH EAST a|0NORTH EAST a CROSSING NORTH WEST a|
  1WEST a CROSSING NORTH EAST a|0WAVE a po DIRECTLY r|0a po g THEN CURVING up|5dn|
  2dn THEN CURVING m|5g|0RIGHT-SIDE ARC CLOCKWISE a|0LEFT-SIDE ARC ANTICLOCKWISE a|
  0TOP ARC ANTICLOCKWISE a|0BOTTOM ARC ANTICLOCKWISE a|0TOP ARC CLOCKWISE a w MINUS|
  2ANTICLOCKWISE a w pl|0lo r SEMICIRCULAR CLOCKWISE a|1t SEMICIRCULAR ANTICLOCKWISE a|
  0ANTICLOCKWISE CLOSED ci a|0CLOCKWISE CLOSED ci a|0g a b SHORT m a|0m a b SHORT g a|
  0SHORT g a b m a|0g a w pl e|0m a w pl e|0g a THROUGH X|0t r a THROUGH s ci|
  0up TWO-HEADED a FROM s ci|0t BARB UP r BARB dw hr|2dw r BARB UP hr|0UP BARB r dw BARB t hr|
  2t dw BARB r hr|0t BARB UP r BARB UP hr|0UP BARB r dw BARB r hr|0t BARB dw r BARB dw hr|
  0UP BARB t dw BARB t hr|0m hr w BARB UP TO BAR|0g hr w BARB UP TO BAR|0up hr w BARB r TO BAR|
  0dn hr w BARB r TO BAR|0m hr w BARB dw TO BAR|0g hr w BARB dw TO BAR|0up hr w BARB t TO BAR|
  0dn hr w BARB t TO BAR|0m hr w BARB UP FROM BAR|0g hr w BARB UP FROM BAR|0up hr w BARB r FROM BAR|
  0dn hr w BARB r FROM BAR|0m hr w BARB dw FROM BAR|0g hr w BARB dw FROM BAR|
  0up hr w BARB t FROM BAR|0dn hr w BARB t FROM BAR|0m hr w BARB UP b m hr w BARB dw|
  0up hr w BARB t BESIDE up hr w BARB r|0g hr w BARB UP b g hr w BARB dw|
  0dn hr w BARB t BESIDE dn hr w BARB r|0m hr w BARB UP b g hr w BARB UP|4dw b g hr w BARB dw|
  0g hr w BARB UP b m hr w BARB UP|4dw b m hr w BARB dw|0m hr w BARB UP b LONG DASH|4dw e LONG DASH|
  0g hr w BARB UP b LONG DASH|4dw e LONG DASH|0up hr w BARB t BESIDE dn hr w BARB r|
  0dn hr w BARB t BESIDE up hr w BARB r|0r d a w ROUNDED HEAD|0EQUALS i b g a|0ti OPERATOR b g a|
  0m a b ti OPERATOR|0g a b ti OPERATOR|3ALMOST eq TO|0le b m a|0m a THROUGH le|0gr b g a|
  0SUBSET b g a|0m a THROUGH SUBSET|0SUPERSET b m a|0t FISH TAIL|0r FISH TAIL|0UP FISH TAIL|
  0dw FISH TAIL|0TRIPLE v BAR DELIMITER|0Z NOTATION SPOT|2TYPE COLON|0t x CURLY br|0r x CURLY br|
  0t x pa|0r x pa|0Z NOTATION t IMAGE br|2r IMAGE br|2t BINDING br|2r BINDING br|
  0t sq br w UNDERBAR|0r sq br w UNDERBAR|0t sq br w TICK IN TOP CORNER|
  0r sq br w TICK IN BOTTOM CORNER|0t sq br w TICK IN BOTTOM CORNER|0r sq br w TICK IN TOP CORNER|
  0t ANGLE br w do|0r ANGLE br w do|0t ARC le br|0r ARC gr br|0d t ARC gr br|1r ARC le br|
  0t u TORTOISE SHELL br|0r u TORTOISE SHELL br|0DOTTED FENCE|0v ZIGZAG LINE|
  0MEASURED ANGLE OPENING t|0r ANGLE VARIANT w sq|0MEASURED r ANGLE w do|0ANGLE w S INSIDE|
  0ac ANGLE|0SPHERICAL ANGLE OPENING t|3UP|0tu ANGLE|0rv ANGLE|0ANGLE w UNDERBAR|
  0rv ANGLE w UNDERBAR|0OBLIQUE ANGLE OPENING UP|3dw|
  0MEASURED ANGLE w OPEN ARM ENDING IN a po UP j r|9UP j t|9dw j r|9dw j t|9r j UP|9t j UP|9r j dw|
  9t j dw|0rv EMPTY SET|0EMPTY SET w OVERBAR|3s ci b|3r a b|3t a b|0ci w z BAR|0cr v BAR|1PARALLEL|
  1REVERSE SOLIDUS|1PERPENDICULAR|0ci DIVIDED BY z BAR j TOP ha DIVIDED BY v BAR|1w SUPERIMPOSED X|
  0cr ANTICLOCKWISE-ROTATED DIVISION i|0UP a THROUGH ci|0cr x BULLET|1BULLET|1le|1gr|
  0ci w s ci TO THE r|2tw z STROKES TO THE r|0SQUARED RISING DIAGONAL SLASH|1FALLING DIAGONAL SLASH|
  1as|1s ci|1sq|0tw JOINED SQUARES|0tr w do b|2UNDERBAR|0S IN tr|0tr w SERIFS AT BOTTOM|
  0r tr b t tr|0t tr BESIDE v BAR|0v BAR BESIDE r tr|0BOWTIE w t ha u|2r ha u|0u BOWTIE|
  0tm w t ha u|2r ha u|0x HOURGLASS|0u HOURGLASS|0t WIGGLY FENCE|0r WIGGLY FENCE|0t d WIGGLY FENCE|
  0r d WIGGLY FENCE|0INCOMPLETE INFINITY|0TIE OVER INFINITY|0INFINITY NEGATED w v BAR|
  0DOUBLE-ENDED MULTIMAP|0sq w CONTOURED OUTLINE|0INCREASES AS|0SHUFFLE PRODUCT|
  0EQUALS i j SLANTED PARALLEL|5w ti b|0IDENTICAL TO j SLANTED PARALLEL|0GLEICH STARK|
  0THERMODYNAMIC|0DOWN-POINTING tr w t ha u|3r ha u|0u DIAMOND w dw a|1LOZENGE|0x ci w dw a|
  0u ci w dw a|0ERROR-BARRED x sq|1u sq|1x DIAMOND|1u DIAMOND|1x ci|1u ci|0RULE-DELAYED|
  0REVERSE SOLIDUS OPERATOR|0SOLIDUS w OVERBAR|0REVERSE SOLIDUS w z k|0BIG SOLIDUS|1REVERSE SOLIDUS|
  0d pl|0TRIPLE pl|0LEFT-POINTING CURVED ANGLE br|0ri CURVED ANGLE br|0TINY|0MINY|
  0N-ARY cr do OPERATOR|2pl OPERATOR|2tm OPERATOR|1UNION OPERATOR w do|4pl|
  1sq INTERSECTION OPERATOR|2UNION OPERATOR|0tw LOGICAL j OPERATOR|2OR OPERATOR|0N-ARY tm OPERATOR|
  0MODULO tw SUM|0SUMMATION w INTEGRAL|0QUADRUPLE INTEGRAL OPERATOR|0FINITE PART INTEGRAL|
  0INTEGRAL w d k|1AVERAGE w SLASH|0CIRCULATION FUNCTION|0ANTICLOCKWISE INTEGRATION|
  0LINE INTEGRATION w RECTANGULAR PATH AROUND POLE|3SEMICIRCULAR PATH AROUND POLE|
  2NOT INCLUDING THE POLE|0INTEGRAL AROUND A POINT OPERATOR|0QUATERNION INTEGRAL OPERATOR|
  0INTEGRAL w m a w ho|2tm i|2INTERSECTION|2UNION|2OVERBAR|2UNDERBAR|0JOIN|0LARGE t tr OPERATOR|
  0Z NOTATION SCHEMA COMPOSITION|3PIPING|3PROJECTION|0pl i w s ci b|3cc ACCENT b|3ti b|3do e|3ti e|
  3SUBSCRIPT tw|3u tr|0MINUS i w COMMA b|3do e|3FALLING DOTS|3RISING DOTS|0pl i IN t ha ci|3r ha ci|
  0VECTOR OR CROSS PRODUCT|0MULTIPLICATION i w do b|3UNDERBAR|0SEMIDIRECT PRODUCT w BOTTOM CLOSED|
  0SMASH PRODUCT|0MULTIPLICATION i IN t ha ci|3r ha ci|0cr MULTIPLICATION i w cc ACCENT|
  0MULTIPLICATION i IN d ci|0cr DIVISION i|0pl i IN tr|0MINUS i IN tr|0MULTIPLICATION i IN tr|
  0INTERIOR PRODUCT|0RIGHTHAND INTERIOR PRODUCT|0Z NOTATION RELATIONAL COMPOSITION|
  0AMALGAMATION OR COPRODUCT|0INTERSECTION w do|0UNION w MINUS i|2OVERBAR|0INTERSECTION w OVERBAR|
  2LOGICAL j|0UNION w LOGICAL OR|1b INTERSECTION|0INTERSECTION b UNION|0UNION b BAR b INTERSECTION|
  0INTERSECTION b BAR b UNION|0UNION BESIDE j JOINED w UNION|
  0INTERSECTION BESIDE j JOINED w INTERSECTION|0CLOSED UNION w SERIFS|1INTERSECTION w SERIFS|
  0d sq INTERSECTION|2UNION|0CLOSED UNION w SERIFS j SMASH PRODUCT|0LOGICAL j w do b|1OR w do b|
  0d LOGICAL j|2OR|0tw INTERSECTING LOGICAL j|3OR|0SLOPING LARGE OR|2j|
  0LOGICAL OR OVERLAPPING LOGICAL j|1j w mi STEM|1OR w mi STEM|1j w z DASH|1OR w z DASH|
  1j w d OVERBAR|3UNDERBAR|3d UNDERBAR|0s VEE w UNDERBAR|0LOGICAL OR w d OVERBAR|4UNDERBAR|
  0Z NOTATION DOMAIN ANTIRESTRICTION|2RANGE ANTIRESTRICTION|0EQUALS i w do e|0IDENTICAL w do b|
  0TRIPLE z BAR w d v k|4TRIPLE v k|0ti OPERATOR w do b|3RISING DOTS|0SIMILAR MINUS SIMILAR|
  0CONGRUENT w do b|0EQUALS w as|0ALMOST eq TO w cc ACCENT|0APPROXIMATELY eq OR eq TO|
  0EQUALS i b pl i|0pl i b EQUALS i|0EQUALS i b ti OPERATOR|0d COLON eq|
  0tw CONSECUTIVE EQUALS SIGNS|0h CONSECUTIVE EQUALS SIGNS|0EQUALS i w tw DOTS b j tw DOTS e|
  0EQUIVALENT w fo DOTS b|0le w ci INSIDE|0gr w ci INSIDE|0le w QUESTION mr b|0gr w QUESTION mr b|
  0le OR SLANTED eq TO|0gr OR SLANTED eq TO|0le OR SLANTED eq TO w do INSIDE|
  0gr OR SLANTED eq TO w do INSIDE|0le OR SLANTED eq TO w do b|0gr OR SLANTED eq TO w do b|
  0le OR SLANTED eq TO w do b r|0gr OR SLANTED eq TO w do b t|0le OR APPROXIMATE|0gr OR APPROXIMATE|
  0le j SINGLE-LINE NOT eq TO|0gr j SINGLE-LINE NOT eq TO|0le j NOT APPROXIMATE|
  0gr j NOT APPROXIMATE|0le b DOUBLE-LINE eq b gr|0gr b DOUBLE-LINE eq b le|0le b SIMILAR OR eq|
  0gr b SIMILAR OR eq|0le b SIMILAR b gr|0gr b SIMILAR b le|0le b gr b DOUBLE-LINE eq|
  0gr b le b DOUBLE-LINE eq|0le b SLANTED eq b gr b SLANTED eq|0gr b SLANTED eq b le b SLANTED eq|
  0SLANTED eq TO OR le|4gr|4le w do INSIDE|4gr w do INSIDE|0DOUBLE-LINE eq TO OR le|4gr|
  1SLANTED eq TO OR le|5gr|0SIMILAR OR le|2gr|1b le b EQUALS i|2gr b EQUALS i|0d NESTED le|2gr|
  2le w UNDERBAR|0gr OVERLAPPING le|1BESIDE le|0le CLOSED BY CURVE|0gr CLOSED BY CURVE|
  0le CLOSED BY CURVE b SLANTED eq|0gr CLOSED BY CURVE b SLANTED eq|0SMALLER THAN|0LARGER THAN|
  0SMALLER THAN OR eq TO|0LARGER THAN OR eq TO|0EQUALS i w BUMPY b|0PRECEDES b SINGLE-LINE EQUALS i|
  0SUCCEEDS b SINGLE-LINE EQUALS i|0PRECEDES b SINGLE-LINE NOT eq TO|
  0SUCCEEDS b SINGLE-LINE NOT eq TO|0PRECEDES b EQUALS i|0SUCCEEDS b EQUALS i|0PRECEDES b NOT eq TO|
  0SUCCEEDS b NOT eq TO|0PRECEDES b ALMOST eq TO|0SUCCEEDS b ALMOST eq TO|
  0PRECEDES b NOT ALMOST eq TO|0SUCCEEDS b NOT ALMOST eq TO|0d PRECEDES|1SUCCEEDS|0SUBSET w do|
  0SUPERSET w do|0SUBSET w pl i e|0SUPERSET w pl i e|0SUBSET w MULTIPLICATION i e|
  0SUPERSET w MULTIPLICATION i e|0SUBSET OF OR eq TO w do b|0SUPERSET OF OR eq TO w do b|
  0SUBSET OF b EQUALS i|0SUPERSET OF b EQUALS i|0SUBSET OF b ti OPERATOR|0SUPERSET OF b ti OPERATOR|
  0SUBSET OF b ALMOST eq TO|0SUPERSET OF b ALMOST eq TO|0SUBSET OF b NOT eq TO|
  0SUPERSET OF b NOT eq TO|0sq t OPEN BOX OPERATOR|1r OPEN BOX OPERATOR|0CLOSED SUBSET|1SUPERSET|
  1SUBSET OR eq TO|1SUPERSET OR eq TO|0SUBSET b SUPERSET|0SUPERSET b SUBSET|0SUBSET b SUBSET|
  0SUPERSET b SUPERSET|1BESIDE SUBSET|2j JOINED BY DASH w SUBSET|0ELEMENT OF OPENING dn|
  0PITCHFORK w TEE TOP|0TRANSVERSAL INTERSECTION|0FORKING|0NONFORKING|0SHORT t TACK|1dw TACK|
  1UP TACK|0PERPENDICULAR w S|0v BAR TRIPLE r TURNSTILE|0d v BAR t TURNSTILE|0v BAR d t TURNSTILE|
  0d v BAR d t TURNSTILE|0LONG DASH FROM t MEMBER OF d v|0SHORT dw TACK w OVERBAR|
  1UP TACK w UNDERBAR|3b SHORT dw TACK|0d dw TACK|1UP TACK|1k NOT i|0rv d k NOT i|
  0DOES NOT DIVIDE w rv NEGATION SLASH|0v LINE w ci b|4e|0dw TACK w ci e|0PARALLEL w z k|
  2ti OPERATOR|0TRIPLE v BAR BINARY RELATION|3w z k|1COLON OPERATOR|1NESTED le|2gr|
  0DOUBLE-LINE SLANTED le OR eq TO|2gr OR eq TO|0TRIPLE SOLIDUS BINARY RELATION|
  0LARGE TRIPLE v BAR OPERATOR|0d SOLIDUS OPERATOR|0x v BAR|0N-ARY x v BAR|0NORTH EAST x a|
  1WEST x a|0SOUTH EAST x a|1WEST x a|0t r x a|0m u a|0up u a|0dn u a|0NORTH EAST u a|1WEST u a|
  0SOUTH EAST u a|1WEST u a|0t r u a|0UP dw u a|0g a w TIP dn|4up|0m a w TIP dn|4up|0sq w TOP ha u|
  2BOTTOM ha u|2UPPER r DIAGONAL ha u|2lo t DIAGONAL ha u|0DIAMOND w t ha u|2r ha u|2TOP ha u|
  2BOTTOM ha u|0DOTTED sq|0u LARGE sq|0x LARGE sq|0u VERY s sq|0x VERY s sq|0u PENTAGON|0x PENTAGON|
  1HEXAGON|0u HEXAGON|0z u HEXAGON|0u LARGE ci|1md DIAMOND|0x md DIAMOND|0u md LOZENGE|
  0x md LOZENGE|0u s DIAMOND|2LOZENGE|0x s LOZENGE|0u z ELLIPSE|0x z ELLIPSE|0u v ELLIPSE|
  0x v ELLIPSE|0t a w s ci|0h m ARROWS|0t a w cr pl|0LONG m SQUIGGLE a|0m TWO-HEADED a w v k|4d v k|
  3FROM BAR|2TRIPLE DASH a|1a w DOTTED STEM|3TAIL w v k|5d v k|1TWO-HEADED a w TAIL|5w v k|6d v k|
  1a THROUGH X|0WAVE a po DIRECTLY t|0EQUALS i b m a|0REVERSE ti OPERATOR b m a|
  0m a b REVERSE ALMOST eq TO|0g a THROUGH gr|3SUPERSET|0m QUADRUPLE a|0g QUADRUPLE a|
  0REVERSE ti OPERATOR b g a|0g a b REVERSE ALMOST eq TO|0ti OPERATOR b m a|0m a b ALMOST eq TO|
  3REVERSE ti OPERATOR|0g a b REVERSE ti OPERATOR|0dn q ZIGZAG a|0SHORT SLANTED NORTH a|
  1BACKSLANTED SOUTH a|0x md STAR|0u s STAR|0x s STAR|0u ri PENTAGON|0x ri PENTAGON|0he LARGE ci|
  1OVAL w OVAL INSIDE|1ci w ci INSIDE|2|1cr SALTIRE|0SLANTED NORTH a w HOOKED HEAD|
  0BACKSLANTED SOUTH a w HOOKED TAIL|0SLANTED NORTH a w z TAIL|0BACKSLANTED SOUTH a w z TAIL|
  0BENT a po dn THEN NORTH EAST|0SHORT BENT a po dn THEN NORTH EAST|0m q a|0up q a|0g q a|0dn q a|
  0t r q a|0UP dw q a|0NORTH WEST q a|1EAST q a|0SOUTH EAST q a|1WEST q a|0m q DASHED a|
  0up q DASHED a|0g q DASHED a|0dn q DASHED a|0CLOCKWISE q OPEN ci a|0ANTICLOCKWISE q OPEN ci a|
  0m q a TO BAR|0up q a TO BAR|0g q a TO BAR|0dn q a TO BAR|2B76:0NORTH WEST q a TO BAR|
  1EAST q a TO BAR|0SOUTH EAST q a TO BAR|1WEST q a TO BAR|0m q a w d z k|0up q a w d z k|
  0g q a w d z k|0dn q a w d z k|0z TAB KEY|0v TAB KEY|0m q a OVER g q a|0up q a m OF dn q a|
  0g q a OVER m q a|0dn q a m OF up q a|0m q PAIRED ARROWS|0up q PAIRED ARROWS|0g q PAIRED ARROWS|
  0dn q PAIRED ARROWS|0m u cr x a|0up u cr x a|0g u cr x a|0dn u cr x a|
  0ANTICLOCKWISE q r U-SHAPED a|2BOTTOM U-SHAPED a|2t U-SHAPED a|2TOP U-SHAPED a|0RETURN t|1r|
  0NEWLINE t|1r|0fo CORNER ARROWS CIRCLING ANTICLOCKWISE|0g u a|2B97:0y FOR TYPE A ELECTRONICS|
  0THREE-D TOP-LIGHTED m EQUILATERAL ar|1RIGHT-LIGHTED up EQUILATERAL ar|
  1TOP-LIGHTED g EQUILATERAL ar|1LEFT-LIGHTED dn EQUILATERAL ar|0u m EQUILATERAL ar|
  1up EQUILATERAL ar|1g EQUILATERAL ar|1dn EQUILATERAL ar|0dn q a w LONG TIP m|6g|
  0up q a w LONG TIP m|6g|0m q a w LONG TIP up|0g q a w LONG TIP up|0m q a w LONG TIP dn|
  0g q a w LONG TIP dn|0u CURVED dn j m a|4g a|2up j m a|4g a|2m j up a|2g j up a|2m j dn a|
  2g j dn a|0RIBBON a dw t|3r|2UP t|3r|2t UP|2r UP|2t dw|2r dw|0up x a FROM BAR w z BAR|
  0UP ar IN A RECTANGLE BOX|0OVERLAPPING x SQUARES|2j u SQUARES|1u SQUARES|0BALLOT BOX w li X|0cr X|
  1BOLD X|0u sq CENTRED|1DIAMOND CENTRED|0tu u PENTAGON|0z u OCTAGON|0u OCTAGON|
  1md UP-POINTING tr CENTRED|2DOWN-POINTING tr CENTRED|2LEFT-POINTING tr CENTRED|2ri tr CENTRED|
  0NEPTUNE f tw|0TOP ha u ci|0BOTTOM ha u ci|0li fo POINTED u CUSP|0ro li fo POINTED u CUSP|
  0x fo POINTED CUSP|0ro x fo POINTED CUSP|0sq POSITION INDICATOR|0UNCERTAINTY i|0GROUP mr|
  0PLUTO f tw|2h|2fo|2fi|0TRANSPLUTO|0PROSERPINA|0ASTRAEA|0HYGIEA|0PHOLUS|0NESSUS|0x MOON SELENA|
  0u DIAMOND ON CROSS|0TRUE li MOON ARTA|0CUPIDO|0HADES|0ZEUS|0KRONOS|0APOLLON|0ADMETOS|0VULCANUS|
  0POSEIDON|0t ha u STAR|0r ha u STAR|0STAR w t ha u|2r ha u|0m TWO-HEADED a w tr ARROWHEADS|
  0up TWO-HEADED a w tr ARROWHEADS|0g TWO-HEADED a w tr ARROWHEADS|0dn TWO-HEADED a w tr ARROWHEADS|
  0ERIS f on|2tw|0SEDNA|0RUSSIAN ASTROLOGICAL y VIGINTILE|3NOVILE|3QUINTILE|3BINOVILE|3SENTAGON|
  3TREDECILE|0EQUALS i w INFINITY e|0UNITED y|0SEPARATED y|0DOUBLED y|0PASSED y|0rv r ANGLE|
  0HELLSCHREIBER PAUSE y|0GLAGOLITIC c l AZU|3BUKY|3VEDE|3GLAGOLI|3DOBRO|3YESTU|3ZHIVETE|3DZELO|
  3ZEMLJA|3IZHE|3p IZHE|3I|3DJERVI|3KAKO|3LJUDIJE|3MYSLITE|3NASHI|3ONU|3POKOJI|3RITSI|3SLOVO|
  3TVRIDO|3UKU|3FRITU|3HERU|3OTU|3PE|3SHTA|3TSI|3CHRIVI|3SHA|3YERU|3YERI|3YATI|3SPIDERY HA|3YU|
  3s YUS|5w TAIL|3YO|3IOTATED s YUS|3BIG YUS|3IOTATED BIG YUS|3FITA|3IZHITSA|3SHTAPIC|3TROKUTASTI A|
  3LATINATE MYSLITE|3CAUDATE CHRIVI|1s l AZU|3BUKY|3VEDE|3GLAGOLI|3DOBRO|3YESTU|3ZHIVETE|3DZELO|
  3ZEMLJA|3IZHE|3p IZHE|3I|3DJERVI|3KAKO|3LJUDIJE|3MYSLITE|3NASHI|3ONU|3POKOJI|3RITSI|3SLOVO|
  3TVRIDO|3UKU|3FRITU|3HERU|3OTU|3PE|3SHTA|3TSI|3CHRIVI|3SHA|3YERU|3YERI|3YATI|3SPIDERY HA|3YU|
  3s YUS|5w TAIL|3YO|3IOTATED s YUS|3BIG YUS|3IOTATED BIG YUS|3FITA|3IZHITSA|3SHTAPIC|3TROKUTASTI A|
  3LATINATE MYSLITE|3CAUDATE CHRIVI|0LATIN c l L w d BAR|1s l L w d BAR|1c l L w mi ti|3P w k|
  3R w TAIL|1s l A w k|3T w DIAGONAL k|1c l H w de|1s l H w de|1c l K w de|1s l K w de|1c l Z w de|
  1s l Z w de|1c l ALPHA|3M w ho|3tu A|4ALPHA|1s l V w r ho|1c l W w ho|1s l W w ho|3V w CURL|
  1c l ha H|1s l ha H|3TAILLESS PHI|3E w NOTCH|3tu R w TAIL|3O w LOW RING INSIDE|1l s c tu E|
  1SUBSCRIPT s l J|0MODIFIER l c V|0LATIN c l S w SWASH TAIL|3Z w SWASH TAIL|0COPTIC c l ALFA|
  1s l ALFA|1c l VIDA|1s l VIDA|1c l GAMMA|1s l GAMMA|1c l DALDA|1s l DALDA|1c l EIE|1s l EIE|
  1c l SOU|1s l SOU|1c l ZATA|1s l ZATA|1c l HATE|1s l HATE|1c l THETHE|1s l THETHE|1c l IAUDA|
  1s l IAUDA|1c l KAPA|1s l KAPA|1c l LAULA|1s l LAULA|1c l MI|1s l MI|1c l NI|1s l NI|1c l KSI|
  1s l KSI|1c l O|1s l O|1c l PI|1s l PI|1c l RO|1s l RO|1c l SIMA|1s l SIMA|1c l TAU|1s l TAU|
  1c l UA|1s l UA|1c l FI|1s l FI|1c l KHI|1s l KHI|1c l PSI|1s l PSI|1c l OOU|1s l OOU|
  1c l DIALECT-P ALEF|1s l DIALECT-P ALEF|1c l OLD COPTIC AIN|1s l OLD COPTIC AIN|
  1c l CRYPTOGRAMMIC EIE|1s l CRYPTOGRAMMIC EIE|1c l DIALECT-P KAPA|1s l DIALECT-P KAPA|
  1c l DIALECT-P NI|1s l DIALECT-P NI|1c l CRYPTOGRAMMIC NI|1s l CRYPTOGRAMMIC NI|
  1c l OLD COPTIC OOU|1s l OLD COPTIC OOU|1c l SAMPI|1s l SAMPI|1c l CROSSED SHEI|1s l CROSSED SHEI|
  1c l OLD COPTIC SHEI|1s l OLD COPTIC SHEI|1c l OLD COPTIC ESH|1s l OLD COPTIC ESH|
  1c l AKHMIMIC KHEI|1s l AKHMIMIC KHEI|1c l DIALECT-P HORI|1s l DIALECT-P HORI|
  1c l OLD COPTIC HORI|1s l OLD COPTIC HORI|1c l OLD COPTIC HA|1s l OLD COPTIC HA|1c l L-SHAPED HA|
  1s l L-SHAPED HA|1c l OLD COPTIC HEI|1s l OLD COPTIC HEI|1c l OLD COPTIC HAT|1s l OLD COPTIC HAT|
  1c l OLD COPTIC GANGIA|1s l OLD COPTIC GANGIA|1c l OLD COPTIC DJA|1s l OLD COPTIC DJA|
  1c l OLD COPTIC SHIMA|1s l OLD COPTIC SHIMA|1c l OLD NUBIAN SHIMA|1s l OLD NUBIAN SHIMA|
  1c l OLD NUBIAN NGI|1s l OLD NUBIAN NGI|1c l OLD NUBIAN NYI|1s l OLD NUBIAN NYI|
  1c l OLD NUBIAN WAU|1s l OLD NUBIAN WAU|1y KAI|2MI RO|2PI RO|2STAUROS|2TAU RO|2KHI RO|2SHIMA SIMA|
  1c l CRYPTOGRAMMIC SHEI|1s l CRYPTOGRAMMIC SHEI|1c l CRYPTOGRAMMIC GANGIA|
  1s l CRYPTOGRAMMIC GANGIA|1co NI b|2SPIRITUS ASPER|3LENIS|1c l BOHAIRIC KHEI|1s l BOHAIRIC KHEI|
  2CF9:1OLD NUBIAN FULL STOP|3DIRECT QUESTION mr|3INDIRECT QUESTION mr|3VERSE DIVIDER|
  1FRACTION on ha|1FULL STOP|1MORPHOLOGICAL DIVIDER|0GEORGIAN s l AN|3BAN|3GAN|3DON|3EN|3VIN|3ZEN|
  3TAN|3IN|3KAN|3LAS|3MAN|3NAR|3ON|3PAR|3ZHAR|3RAE|3SAN|3TAR|3UN|3PHAR|3KHAR|3GHAN|3QAR|3SHIN|3CHIN|
  3CAN|3JIL|3CIL|3CHAR|3XAN|3JHAN|3HAE|3HE|3HIE|3WE|3HAR|3HOE|2D27:3YN|2D2D:3AEN|
  2D30:0TIFINAGH l YA|2YAB|2YABH|2YAG|2YAGHH|2BERBER ACADEMY YAJ|2YAJ|2YAD|2YADH|2YADD|2YADDH|2YEY|
  2YAF|2YAK|2TUAREG YAK|2YAKHH|2YAH|2BERBER ACADEMY YAH|2TUAREG YAH|2YAHH|2YAA|2YAKH|2TUAREG YAKH|
  2YAQ|2TUAREG YAQ|2YI|2YAZH|2AHAGGAR YAZH|2TUAREG YAZH|2YAL|2YAM|2YAN|2TUAREG YAGN|3YANG|2YAP|2YU|
  2YAR|2YARR|2YAGH|2TUAREG YAGH|2AYER YAGH|2YAS|2YASS|2YASH|2YAT|2YATH|2YACH|2YATT|2YAV|2YAW|2YAY|
  2YAZ|2TAWELLEMET YAZ|2YAZZ|2YE|2YO|2D6F:1MODIFIER l LABIALIZATION mr|1SEPARATOR mr|
  2D7F:1CONSONANT JOINER|0ETHIOPIC SYLLABLE LOA|2MOA|2ROA|2SOA|2SHOA|2BOA|2TOA|2COA|2NOA|2NYOA|
  2GLOTTAL OA|2ZOA|2DOA|2DDOA|2JOA|2THOA|2CHOA|2PHOA|2POA|2GGWA|2GGWI|2GGWEE|2GGWE|2DA0:2SSA|2SSU|
  2SSI|2SSAA|2SSEE|2SSE|2SSO|2DA8:2CCA|2CCU|2CCI|2CCAA|2CCEE|2CCE|2CCO|2DB0:2ZZA|2ZZU|2ZZI|2ZZAA|
  2ZZEE|2ZZE|2ZZO|2DB8:2CCHA|2CCHU|2CCHI|2CCHAA|2CCHEE|2CCHE|2CCHO|2DC0:2QYA|2QYU|2QYI|2QYAA|2QYEE|
  2QYE|2QYO|2DC8:2KYA|2KYU|2KYI|2KYAA|2KYEE|2KYE|2KYO|2DD0:2XYA|2XYU|2XYI|2XYAA|2XYEE|2XYE|2XYO|
  2DD8:2GYA|2GYU|2GYI|2GYAA|2GYEE|2GYE|2GYO|2DE0:0co CYRILLIC l BE|3VE|3GHE|3DE|3ZHE|3ZE|3KA|3EL|
  3EM|3EN|3O|3PE|3ER|3ES|3TE|3HA|3TSE|3CHE|3SHA|3SHCHA|3FITA|3ES-TE|3A|3IE|3DJERV|3MONOGRAPH UK|
  3YAT|3YU|3IOTIFIED A|3LITTLE YUS|3BIG YUS|3IOTIFIED BIG YUS|0r ANGLE SUBSTITUTION MARKER|
  2DOTTED SUBSTITUTION MARKER|0t SUBSTITUTION br|0r SUBSTITUTION br|0t DOTTED SUBSTITUTION br|
  0r DOTTED SUBSTITUTION br|0RAISED INTERPOLATION MARKER|1DOTTED INTERPOLATION MARKER|
  0DOTTED TRANSPOSITION MARKER|0t TRANSPOSITION br|0r TRANSPOSITION br|0RAISED sq|
  0t RAISED OMISSION br|0r RAISED OMISSION br|0EDITORIAL CORONIS|0PARAGRAPHOS|0FORKED PARAGRAPHOS|
  0rv FORKED PARAGRAPHOS|0HYPODIASTOLE|0DOTTED OBELOS|0dn ANCORA|0up ANCORA|0DOTTED ri ANGLE|
  0d OBLIQUE HYPHEN|0iv INTERROBANG|0PALM BRANCH|0HYPHEN w di|0ti w RING b|0t LOW PARAPHRASE br|
  0r LOW PARAPHRASE br|0ti w do b|3e|0t v BAR w QUILL|0r v BAR w QUILL|0TOP t ha br|1r ha br|
  0BOTTOM t ha br|1r ha br|0t SIDEWAYS U br|0r SIDEWAYS U br|0t d pa|0r d pa|0tw DOTS OVER on do pu|
  0on do OVER tw DOTS pu|0SQUARED fo do pu|0fi do mr|0rv QUESTION mr|0v ti|0RING POINT|
  0WORD SEPARATOR mi do|0tu COMMA|0RAISED do|1COMMA|0tu SEMICOLON|0DAGGER w t GUARD|2r GUARD|
  0tu DAGGER|0TOP ha SECTION i|0TWO-EM DASH|0THREE-EM DASH|0STENOGRAPHIC FULL STOP|0v SIX DOTS|
  0WIGGLY v LINE|0CAPITULUM|0d HYPHEN|0rv COMMA|0d LOW-REVERSED-9 QUOTATION mr|0DASH w t UPTURN|
  0d SUSPENSION mr|0iv LOW KAVYKA|3w KAVYKA b|0LOW KAVYKA|2w do|0d STACKED COMMA|0DOTTED SOLIDUS|
  0TRIPLE DAGGER|0MEDIEVAL COMMA|0PARAGRAPHUS mr|0PUNCTUS ELEVATUS mr|0CORNISH VERSE DIVIDER|
  0CROSS PATTY w r CROSSBAR|3t CROSSBAR|0TIRONIAN i c ET|0MEDIEVAL EXCLAMATION mr|1QUESTION mr|
  0t sq br w k|0r sq br w k|0t sq br w d k|0r sq br w d k|0TOP ha t pa|2r pa|0BOTTOM ha t pa|2r pa|
  0OBLIQUE HYPHEN|2E80:0CJK RADICAL REPEAT|2CLIFF|2SECOND on|3tw|3h|2PERSON|2BOX|2TABLE|2KNIFE on|
  3tw|2DIVINATION|2SEAL|2s on|3tw|2LAME on|3tw|3h|3fo|2SNAKE|2THREAD|2SNOUT on|3tw|2HEART on|3tw|
  2HAND|2RAP|2E9B:2CHOKE|2SUN|2MOON|2DEATH|2MOTHER|2CIVILIAN|2WATER on|3tw|2FIRE|2PAW on|3tw|
  2SIMPLIFIED ha TREE TRUNK|2COW|2DOG|2JADE|2BOLT OF CLOTH|2EYE|2SPIRIT on|3tw|2BAMBOO|2SILK|
  2C-SIMPLIFIED SILK|2NET on|3tw|3h|3fo|2MESH|2SHEEP|2RAM|2EWE|2OLD|2BRUSH on|3tw|2MEAT|2MORTAR|
  2GRASS on|3tw|3h|2TIGER|2CLOTHES|2WEST on|3tw|2C-SIMPLIFIED SEE|2SIMPLIFIED HORN|2HORN|
  2C-SIMPLIFIED SPEECH|3SHELL|2FOOT|2C-SIMPLIFIED CART|2SIMPLIFIED WALK|2WALK on|3tw|2CITY|
  2C-SIMPLIFIED GOLD|2LONG on|3tw|2C-SIMPLIFIED LONG|3GATE|2MOUND on|3tw|2RAIN|2BLUE|
  2C-SIMPLIFIED TANNED LEATHER|3LEAF|3WIND|3FLY|2EAT on|3tw|3h|2C-SIMPLIFIED EAT|2HEAD|
  2C-SIMPLIFIED HORSE|2BONE|2GHOST|2C-SIMPLIFIED FISH|3BIRD|3SALT|2SIMPLIFIED WHEAT|3YELLOW|
  2C-SIMPLIFIED FROG|2J-SIMPLIFIED EVEN|2C-SIMPLIFIED EVEN|2J-SIMPLIFIED TOOTH|2C-SIMPLIFIED TOOTH|
  2J-SIMPLIFIED DRAGON|2C-SIMPLIFIED DRAGON|2TURTLE|2J-SIMPLIFIED TURTLE|2C-SIMPLIFIED TURTLE|
  2F00:0KANGXI RADICAL on|2LINE|2do|2SLASH|2SECOND|2ho|2tw|2LID|2MAN|2LEGS|2ENTER|2ei|2dw BOX|
  2COVER|2ICE|2TABLE|2OPEN BOX|2KNIFE|2POWER|2WRAP|2SPOON|2r OPEN BOX|2HIDING ENCLOSURE|2TEN|
  2DIVINATION|2SEAL|2CLIFF|2PRIVATE|2AGAIN|2MOUTH|2ENCLOSURE|2EARTH|2SCHOLAR|2GO|3SLOWLY|2EVENING|
  2BIG|2WOMAN|2CHILD|2ROOF|2INCH|2s|2LAME|2CORPSE|2SPROUT|2MOUNTAIN|2RIVER|2WORK|2ONESELF|2TURBAN|
  2DRY|2SHORT THREAD|2DOTTED CLIFF|2LONG STRIDE|2tw HANDS|2SHOOT|2BOW|2SNOUT|2BRISTLE|2STEP|2HEART|
  2HALBERD|2DOOR|2HAND|2BRANCH|2RAP|2SCRIPT|2DIPPER|2AXE|2sq|2NOT|2SUN|2SAY|2MOON|2TREE|2LACK|2STOP|
  2DEATH|2WEAPON|2DO NOT|2COMPARE|2FUR|2CLAN|2STEAM|2WATER|2FIRE|2CLAW|2FATHER|2d X|2ha TREE TRUNK|
  2SLICE|2FANG|2COW|2DOG|2PROFOUND|2JADE|2MELON|2TILE|2SWEET|2LIFE|2USE|2FIELD|2BOLT OF CLOTH|
  2SICKNESS|2DOTTED TENT|2x|2SKIN|2DISH|2EYE|2SPEAR|2a|2STONE|2SPIRIT|2TRACK|2GRAIN|2CAVE|2STAND|
  2BAMBOO|2RICE|2SILK|2JAR|2NET|2SHEEP|2FEATHER|2OLD|2j|2PLOW|2EAR|2BRUSH|2MEAT|2MINISTER|2SELF|
  2ARRIVE|2MORTAR|2TONGUE|2OPPOSE|2BOAT|2STOPPING|2COLOR|2GRASS|2TIGER|2INSECT|2BLOOD|
  2WALK ENCLOSURE|2CLOTHES|2WEST|2SEE|2HORN|2SPEECH|2VALLEY|2BEAN|2PIG|2BADGER|2SHELL|2RED|2RUN|
  2FOOT|2BODY|2CART|2BITTER|2MORNING|2WALK|2CITY|2WINE|2DISTINGUISH|2VILLAGE|2GOLD|2LONG|2GATE|
  2MOUND|2SLAVE|2SHORT TAILED BIRD|2RAIN|2BLUE|2WRONG|2FACE|2LEATHER|2TANNED LEATHER|2LEEK|2SOUND|
  2LEAF|2WIND|2FLY|2EAT|2HEAD|2FRAGRANT|2HORSE|2BONE|2TALL|2HAIR|2FIGHT|2SACRIFICIAL WINE|2CAULDRON|
  2GHOST|2FISH|2BIRD|2SALT|2DEER|2WHEAT|2HEMP|2YELLOW|2MILLET|2u|2EMBROIDERY|2FROG|2TRIPOD|2DRUM|
  2RAT|2NOSE|2EVEN|2TOOTH|2DRAGON|2TURTLE|2FLUTE|2FF0:0IDEOGRAPHIC DESCRIPTION CHARACTER t TO r|
  3b TO e|3t TO mi j r|3b TO mi j e|3FULL SURROUND|3SURROUND FROM b|5e|5t|5UPPER t|6r|5lo t|
  3OVERLAID"

end Archetype.Text
