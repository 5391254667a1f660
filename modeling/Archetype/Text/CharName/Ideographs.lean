/-!
# Names of characters: East Asian signs, Yi, and presentation forms

One entry a character, divided by `|`, in the order of the code points: the code point in
hexadecimal and a colon where it does not follow the one before, then the number of words that the
name shares with the start of the name before it, then the other words. An entry with `+n` behind it
stands for `n` more names, in which the number at the end is counted on. One or two small letters
stand for a frequent word.
-/

namespace Archetype.Text

/-- names of East Asian signs, Yi, and presentation forms -/
def ideographsNames : String :=
  "3000:0IDEOGRAPHIC SPACE|1COMMA|1FULL STOP|0DITTO mr|0JAPANESE INDUSTRIAL STANDARD y|
  0IDEOGRAPHIC ITERATION mr|1CLOSING mr|1NUMBER ZERO|0t ANGLE br|0r ANGLE br|0t d ANGLE br|
  0r d ANGLE br|0t CORNER br|0r CORNER br|0t x CORNER br|0r x CORNER br|0t u LENTICULAR br|
  0r u LENTICULAR br|0POSTAL mr|0GETA mr|0t TORTOISE SHELL br|0r TORTOISE SHELL br|
  0t x LENTICULAR br|0r x LENTICULAR br|0t x TORTOISE SHELL br|0r x TORTOISE SHELL br|0t x sq br|
  0r x sq br|0WAVE DASH|0rv d PRIME QUOTATION mr|0d PRIME QUOTATION mr|0LOW d PRIME QUOTATION mr|
  0POSTAL mr FACE|0HANGZHOU NUMERAL on|2tw|2h|2fo|2fi|2SIX|2se|2ei|2ni|0IDEOGRAPHIC LEVEL TONE mr|
  1RISING TONE mr|1DEPARTING TONE mr|1ENTERING TONE mr|0HANGUL si do TONE mr|1d do TONE mr|
  0WAVY DASH|0v KANA REPEAT mr|3w VOICED SOUND mr|3mr UPPER ha|3w VOICED SOUND mr UPPER ha|
  3mr lo ha|0cr POSTAL mr|0IDEOGRAPHIC TELEGRAPH LINE FEED SEPARATOR y|0HANGZHOU NUMERAL TEN|
  2TWENTY|2THIRTY|0v IDEOGRAPHIC ITERATION mr|0MASU mr|0PART ALTERNATION mr|
  0IDEOGRAPHIC VARIATION INDICATOR|1ha FILL SPACE|3041:0HIRAGANA l s A|2A|2s I|2I|2s U|2U|2s E|2E|
  2s O|2O|2KA|2GA|2KI|2GI|2KU|2GU|2KE|2GE|2KO|2GO|2SA|2ZA|2SI|2ZI|2SU|2ZU|2SE|2ZE|2SO|2ZO|2TA|2DA|
  2TI|2DI|2s TU|2TU|2DU|2TE|2DE|2TO|2DO|2NA|2NI|2NU|2NE|2NO|2HA|2BA|2PA|2HI|2BI|2PI|2HU|2BU|2PU|2HE|
  2BE|2PE|2HO|2BO|2PO|2MA|2MI|2MU|2ME|2MO|2s YA|2YA|2s YU|2YU|2s YO|2YO|2RA|2RI|2RU|2RE|2RO|2s WA|
  2WA|2WI|2WE|2WO|2N|2VU|2s KA|3KE|3099:0co KATAKANA-HIRAGANA VOICED SOUND mr|2SEMI-VOICED SOUND mr|
  0KATAKANA-HIRAGANA VOICED SOUND mr|1SEMI-VOICED SOUND mr|0HIRAGANA ITERATION mr|
  1VOICED ITERATION mr|1DIGRAPH YORI|0KATAKANA-HIRAGANA d HYPHEN|0KATAKANA l s A|2A|2s I|2I|2s U|2U|
  2s E|2E|2s O|2O|2KA|2GA|2KI|2GI|2KU|2GU|2KE|2GE|2KO|2GO|2SA|2ZA|2SI|2ZI|2SU|2ZU|2SE|2ZE|2SO|2ZO|
  2TA|2DA|2TI|2DI|2s TU|2TU|2DU|2TE|2DE|2TO|2DO|2NA|2NI|2NU|2NE|2NO|2HA|2BA|2PA|2HI|2BI|2PI|2HU|2BU|
  2PU|2HE|2BE|2PE|2HO|2BO|2PO|2MA|2MI|2MU|2ME|2MO|2s YA|2YA|2s YU|2YU|2s YO|2YO|2RA|2RI|2RU|2RE|2RO|
  2s WA|2WA|2WI|2WE|2WO|2N|2VU|2s KA|3KE|2VA|2VI|2VE|2VO|1mi do|
  0KATAKANA-HIRAGANA PROLONGED SOUND mr|0KATAKANA ITERATION mr|1VOICED ITERATION mr|1DIGRAPH KOTO|
  3105:0BOPOMOFO l B|2P|2M|2F|2D|2T|2N|2L|2G|2K|2H|2J|2Q|2X|2ZH|2CH|2SH|2R|2Z|2C|2S|2A|2O|2E|2EH|
  2AI|2EI|2AU|2OU|2AN|2EN|2ANG|2ENG|2ER|2I|2U|2IU|2V|2NG|2GN|2IH|2O w do b|2NN|
  3131:0HANGUL l KIYEOK|2SSANGKIYEOK|2KIYEOK-SIOS|2NIEUN|2NIEUN-CIEUC|2NIEUN-HIEUH|2TIKEUT|
  2SSANGTIKEUT|2RIEUL|2RIEUL-KIYEOK|2RIEUL-MIEUM|2RIEUL-PIEUP|2RIEUL-SIOS|2RIEUL-THIEUTH|
  2RIEUL-PHIEUPH|2RIEUL-HIEUH|2MIEUM|2PIEUP|2SSANGPIEUP|2PIEUP-SIOS|2SIOS|2SSANGSIOS|2IEUNG|2CIEUC|
  2SSANGCIEUC|2CHIEUCH|2KHIEUKH|2THIEUTH|2PHIEUPH|2HIEUH|2A|2AE|2YA|2YAE|2EO|2E|2YEO|2YE|2O|2WA|
  2WAE|2OE|2YO|2U|2WEO|2WE|2WI|2YU|2EU|2YI|2I|1FILLER|1l SSANGNIEUN|2NIEUN-TIKEUT|2NIEUN-SIOS|
  2NIEUN-PANSIOS|2RIEUL-KIYEOK-SIOS|2RIEUL-TIKEUT|2RIEUL-PIEUP-SIOS|2RIEUL-PANSIOS|
  2RIEUL-YEORINHIEUH|2MIEUM-PIEUP|2MIEUM-SIOS|2MIEUM-PANSIOS|2KAPYEOUNMIEUM|2PIEUP-KIYEOK|
  2PIEUP-TIKEUT|2PIEUP-SIOS-KIYEOK|2PIEUP-SIOS-TIKEUT|2PIEUP-CIEUC|2PIEUP-THIEUTH|2KAPYEOUNPIEUP|
  2KAPYEOUNSSANGPIEUP|2SIOS-KIYEOK|2SIOS-NIEUN|2SIOS-TIKEUT|2SIOS-PIEUP|2SIOS-CIEUC|2PANSIOS|
  2SSANGIEUNG|2YESIEUNG|2YESIEUNG-SIOS|2YESIEUNG-PANSIOS|2KAPYEOUNPHIEUPH|2SSANGHIEUH|2YEORINHIEUH|
  2YO-YA|2YO-YAE|2YO-I|2YU-YEO|2YU-YE|2YU-I|2ARAEA|2ARAEAE|3190:0IDEOGRAPHIC ANNOTATION LINKING mr|
  2REVERSE mr|2on mr|2tw mr|2h mr|2fo mr|2TOP mr|2mi mr|2BOTTOM mr|2FIRST mr|2SECOND mr|2THIRD mr|
  2FOURTH mr|2HEAVEN mr|2EARTH mr|2MAN mr|0BOPOMOFO l BU|2ZI|2JI|2GU|2EE|2ENN|2OO|2ONN|2IR|2ANN|
  2INN|2UNN|2IM|2NGG|2AINN|2AUNN|2AM|2OM|2ONG|2INNN|1n l P|3T|3K|3H|1l GH|2LH|2ZY|1n l G|1l GW|2KW|
  2OE|2AH|0CJK k T|2WG|2XG|2BXG|2SW|2HZZ|2HZG|2HP|2HZWG|2SZWG|2HZT|2HZZP|2HPWG|2HZW|2HZZZ|2N|2H|2S|
  2P|2SP|2D|2HZ|2HG|2SZ|2SWZ|2ST|2SG|2PD|2PZ|2TN|2SZZ|2SWG|2HXWG|2HZZZG|2PG|2Q|
  31F0:0KATAKANA l s KU|3SI|3SU|3TO|3NU|3HA|3HI|3HU|3HE|3HO|3MU|3RA|3RI|3RU|3RE|3RO|
  0PARENTHESIZED HANGUL KIYEOK|2NIEUN|2TIKEUT|2RIEUL|2MIEUM|2PIEUP|2SIOS|2IEUNG|2CIEUC|2CHIEUCH|
  2KHIEUKH|2THIEUTH|2PHIEUPH|2HIEUH|2KIYEOK A|2NIEUN A|2TIKEUT A|2RIEUL A|2MIEUM A|2PIEUP A|2SIOS A|
  2IEUNG A|2CIEUC A|2CHIEUCH A|2KHIEUKH A|2THIEUTH A|2PHIEUPH A|2HIEUH A|2CIEUC U|
  1KOREAN CHARACTER OJEON|3O HU|3220:1IDEOGRAPH on|2tw|2h|2fo|2fi|2SIX|2se|2ei|2ni|2TEN|2MOON|2FIRE|
  2WATER|2WOOD|2METAL|2EARTH|2SUN|2STOCK|2HAVE|2SOCIETY|2NAME|2SPECIAL|2FINANCIAL|2CONGRATULATION|
  2LABOR|2REPRESENT|2CALL|2STUDY|2SUPERVISE|2ENTERPRISE|2RESOURCE|2ALLIANCE|2FESTIVAL|2REST|2SELF|
  2REACH|0cr IDEOGRAPH QUESTION|2KINDERGARTEN|2SCHOOL|2KOTO|1NUMBER TEN ON u sq|2TWENTY ON u sq|
  2THIRTY ON u sq|2FORTY ON u sq|2FIFTY ON u sq|2SIXTY ON u sq|2SEVENTY ON u sq|2EIGHTY ON u sq|
  0PARTNERSHIP i|0cr NUMBER TWENTY on|3tw|3h|3fo|3fi|3SIX|3se|3ei|3ni|2THIRTY|3on|3tw|3h|3fo|3fi|
  1HANGUL KIYEOK|2NIEUN|2TIKEUT|2RIEUL|2MIEUM|2PIEUP|2SIOS|2IEUNG|2CIEUC|2CHIEUCH|2KHIEUKH|2THIEUTH|
  2PHIEUPH|2HIEUH|2KIYEOK A|2NIEUN A|2TIKEUT A|2RIEUL A|2MIEUM A|2PIEUP A|2SIOS A|2IEUNG A|2CIEUC A|
  2CHIEUCH A|2KHIEUKH A|2THIEUTH A|2PHIEUPH A|2HIEUH A|1KOREAN CHARACTER CHAMKO|3JUEUI|
  1HANGUL IEUNG U|0KOREAN STANDARD y|0cr IDEOGRAPH on|2tw|2h|2fo|2fi|2SIX|2se|2ei|2ni|2TEN|2MOON|
  2FIRE|2WATER|2WOOD|2METAL|2EARTH|2SUN|2STOCK|2HAVE|2SOCIETY|2NAME|2SPECIAL|2FINANCIAL|
  2CONGRATULATION|2LABOR|2SECRET|2MALE|2FEMALE|2SUITABLE|2EXCELLENT|2PRINT|2ATTENTION|2ITEM|2REST|
  2COPY|2CORRECT|2HIGH|2CENTRE|2LOW|2t|2r|2MEDICINE|2RELIGION|2STUDY|2SUPERVISE|2ENTERPRISE|
  2RESOURCE|2ALLIANCE|2NIGHT|1NUMBER THIRTY SIX|3se|3ei|3ni|2FORTY|3on|3tw|3h|3fo|3fi|3SIX|3se|3ei|
  3ni|2FIFTY|0IDEOGRAPHIC TELEGRAPH y FOR JANUARY|4FEBRUARY|4MARCH|4APRIL|4MAY|4JUNE|4JULY|4AUGUST|
  4SEPTEMBER|4OCTOBER|4NOVEMBER|4DECEMBER|0sq HG|1ERG|1EV|0LIMITED LIABILITY i|0cr KATAKANA A|2I|2U|
  2E|2O|2KA|2KI|2KU|2KE|2KO|2SA|2SI|2SU|2SE|2SO|2TA|2TI|2TU|2TE|2TO|2NA|2NI|2NU|2NE|2NO|2HA|2HI|2HU|
  2HE|2HO|2MA|2MI|2MU|2ME|2MO|2YA|2YU|2YO|2RA|2RI|2RU|2RE|2RO|2WA|2WI|2WE|2WO|0sq ERA NAME REIWA|
  1APAATO|1ARUHUA|1ANPEA|1AARU|1ININGU|1INTI|1UON|1ESUKUUDO|1EEKAA|1ONSU|1OOMU|1KAIRI|1KARATTO|
  1KARORII|1GARON|1GANMA|1GIGA|1GINII|1KYURII|1GIRUDAA|1KIRO|1KIROGURAMU|1KIROMEETORU|1KIROWATTO|
  1GURAMU|1GURAMUTON|1KURUZEIRO|1KUROONE|1KEESU|1KORUNA|1KOOPO|1SAIKURU|1SANTIIMU|1SIRINGU|1SENTI|
  1SENTO|1DAASU|1DESI|1DORU|1TON|1NANO|1NOTTO|1HAITU|1PAASENTO|1PAATU|1BAARERU|1PIASUTORU|1PIKURU|
  1PIKO|1BIRU|1HUARADDO|1HUIITO|1BUSSYERU|1HURAN|1HEKUTAARU|1PESO|1PENIHI|1HERUTU|1PENSU|1PEEZI|
  1BEETA|1POINTO|1BORUTO|1HON|1PONDO|1HOORU|1HOON|1MAIKURO|1MAIRU|1MAHHA|1MARUKU|1MANSYON|1MIKURON|
  1MIRI|1MIRIBAARU|1MEGA|1MEGATON|1MEETORU|1YAADO|1YAARU|1YUAN|1RITTORU|1RIRA|1RUPII|1RUUBURU|1REMU|
  1RENTOGEN|1WATTO|0IDEOGRAPHIC TELEGRAPH y FOR HOUR ZERO|5on|5tw|5h|5fo|5fi|5SIX|5se|5ei|5ni|5TEN|
  5ELEVEN|5TWELVE|5THIRTEEN|5FOURTEEN|5FIFTEEN|5SIXTEEN|5SEVENTEEN|5EIGHTEEN|5NINETEEN|5TWENTY|
  5TWENTY-ONE|5TWENTY-TWO|5TWENTY-THREE|5TWENTY-FOUR|0sq HPA|1DA|1AU|1BAR|1OV|1PC|1DM|2SQUARED|
  2CUBED|1IU|1ERA NAME HEISEI|3SYOUWA|3TAISYOU|3MEIZI|1CORPORATION|1PA AMPS|1NA|1MU A|1MA|1KA|1KB|
  1MB|1GB|1CAL|1KCAL|1PF|1NF|1MU F|2G|1MG|1KG|1HZ|1KHZ|1MHZ|1GHZ|1THZ|1MU L|1ML|1DL|1KL|1FM|1NM|
  1MU M|1MM|1CM|1KM|1MM SQUARED|1CM SQUARED|1M SQUARED|1KM SQUARED|1MM CUBED|1CM CUBED|1M CUBED|
  1KM CUBED|1M OVER S|4SQUARED|1PA|1KPA|1MPA|1GPA|1RAD|2OVER S|4SQUARED|1PS|1NS|1MU S|1MS|1PV|1NV|
  1MU V|1MV|1KV|1MV MEGA|1PW|1NW|1MU W|1MW|1KW|1MW MEGA|1K OHM|1M OHM|1AM|1BQ|1CC|1CD|1C OVER KG|
  1CO|1DB|1GY|1HA|1HP|1IN|1KK|1KM c|1KT|1LM|1LN|1LOG|1LX|1MB s|1MIL|1MOL|1PH|1PM|1PPM|1PR|1SR|1SV|
  1WB|1V OVER M|1A OVER M|0IDEOGRAPHIC TELEGRAPH y FOR DAY on|5tw|5h|5fo|5fi|5SIX|5se|5ei|5ni|5TEN|
  5ELEVEN|5TWELVE|5THIRTEEN|5FOURTEEN|5FIFTEEN|5SIXTEEN|5SEVENTEEN|5EIGHTEEN|5NINETEEN|5TWENTY|
  5TWENTY-ONE|5TWENTY-TWO|5TWENTY-THREE|5TWENTY-FOUR|5TWENTY-FIVE|5TWENTY-SIX|5TWENTY-SEVEN|
  5TWENTY-EIGHT|5TWENTY-NINE|5THIRTY|5THIRTY-ONE|0sq GAL|4DC0:0HEXAGRAM FOR THE CREATIVE HEAVEN|
  3RECEPTIVE EARTH|2DIFFICULTY AT THE BEGINNING|2YOUTHFUL FOLLY|2WAITING|2CONFLICT|2THE ARMY|
  2HOLDING TOGETHER|2s TAMING|2TREADING|2PEACE|2STANDSTILL|2FELLOWSHIP|2GREAT POSSESSION|2MODESTY|
  2ENTHUSIASM|2FOLLOWING|2WORK ON THE DECAYED|2APPROACH|2CONTEMPLATION|2BITING THROUGH|2GRACE|
  2SPLITTING APART|2RETURN|2INNOCENCE|2GREAT TAMING|2MOUTH CORNERS|2GREAT PREPONDERANCE|
  2THE ABYSMAL WATER|3CLINGING FIRE|2INFLUENCE|2DURATION|2RETREAT|2GREAT POWER|2PROGRESS|
  2DARKENING OF THE li|2THE FAMILY|2OPPOSITION|2OBSTRUCTION|2DELIVERANCE|2DECREASE|2INCREASE|
  2BREAKTHROUGH|2COMING TO MEET|2GATHERING TOGETHER|2PUSHING UPWARD|2OPPRESSION|2THE WELL|
  2REVOLUTION|2THE CAULDRON|3AROUSING THUNDER|3KEEPING STILL MOUNTAIN|2DEVELOPMENT|
  2THE MARRYING MAIDEN|2ABUNDANCE|2THE WANDERER|3GENTLE WIND|3JOYOUS LAKE|2DISPERSION|2LIMITATION|
  2INNER TRUTH|2s PREPONDERANCE|2AFTER COMPLETION|2BEFORE COMPLETION|A000:0YI SYLLABLE IT|2IX|2I|
  2IP|2IET|2IEX|2IE|2IEP|2AT|2AX|2A|2AP|2UOX|2UO|2UOP|2OT|2OX|2O|2OP|2EX|2E|2WU|2BIT|2BIX|2BI|2BIP|
  2BIET|2BIEX|2BIE|2BIEP|2BAT|2BAX|2BA|2BAP|2BUOX|2BUO|2BUOP|2BOT|2BOX|2BO|2BOP|2BEX|2BE|2BEP|2BUT|
  2BUX|2BU|2BUP|2BURX|2BUR|2BYT|2BYX|2BY|2BYP|2BYRX|2BYR|2PIT|2PIX|2PI|2PIP|2PIEX|2PIE|2PIEP|2PAT|
  2PAX|2PA|2PAP|2PUOX|2PUO|2PUOP|2POT|2POX|2PO|2POP|2PUT|2PUX|2PU|2PUP|2PURX|2PUR|2PYT|2PYX|2PY|
  2PYP|2PYRX|2PYR|2BBIT|2BBIX|2BBI|2BBIP|2BBIET|2BBIEX|2BBIE|2BBIEP|2BBAT|2BBAX|2BBA|2BBAP|2BBUOX|
  2BBUO|2BBUOP|2BBOT|2BBOX|2BBO|2BBOP|2BBEX|2BBE|2BBEP|2BBUT|2BBUX|2BBU|2BBUP|2BBURX|2BBUR|2BBYT|
  2BBYX|2BBY|2BBYP|2NBIT|2NBIX|2NBI|2NBIP|2NBIEX|2NBIE|2NBIEP|2NBAT|2NBAX|2NBA|2NBAP|2NBOT|2NBOX|
  2NBO|2NBOP|2NBUT|2NBUX|2NBU|2NBUP|2NBURX|2NBUR|2NBYT|2NBYX|2NBY|2NBYP|2NBYRX|2NBYR|2HMIT|2HMIX|
  2HMI|2HMIP|2HMIEX|2HMIE|2HMIEP|2HMAT|2HMAX|2HMA|2HMAP|2HMUOX|2HMUO|2HMUOP|2HMOT|2HMOX|2HMO|2HMOP|
  2HMUT|2HMUX|2HMU|2HMUP|2HMURX|2HMUR|2HMYX|2HMY|2HMYP|2HMYRX|2HMYR|2MIT|2MIX|2MI|2MIP|2MIEX|2MIE|
  2MIEP|2MAT|2MAX|2MA|2MAP|2MUOT|2MUOX|2MUO|2MUOP|2MOT|2MOX|2MO|2MOP|2MEX|2ME|2MUT|2MUX|2MU|2MUP|
  2MURX|2MUR|2MYT|2MYX|2MY|2MYP|2FIT|2FIX|2FI|2FIP|2FAT|2FAX|2FA|2FAP|2FOX|2FO|2FOP|2FUT|2FUX|2FU|
  2FUP|2FURX|2FUR|2FYT|2FYX|2FY|2FYP|2VIT|2VIX|2VI|2VIP|2VIET|2VIEX|2VIE|2VIEP|2VAT|2VAX|2VA|2VAP|
  2VOT|2VOX|2VO|2VOP|2VEX|2VEP|2VUT|2VUX|2VU|2VUP|2VURX|2VUR|2VYT|2VYX|2VY|2VYP|2VYRX|2VYR|2DIT|
  2DIX|2DI|2DIP|2DIEX|2DIE|2DIEP|2DAT|2DAX|2DA|2DAP|2DUOX|2DUO|2do|2DOX|2DO|2DOP|2DEX|2DE|2DEP|2DUT|
  2DUX|2DU|2DUP|2DURX|2DUR|2TIT|2TIX|2TI|2TIP|2TIEX|2TIE|2TIEP|2TAT|2TAX|2TA|2TAP|2TUOT|2TUOX|2TUO|
  2TUOP|2TOT|2TOX|2TO|2TOP|2TEX|2TE|2TEP|2TUT|2TUX|2TU|2TUP|2TURX|2TUR|2DDIT|2DDIX|2DDI|2DDIP|
  2DDIEX|2DDIE|2DDIEP|2DDAT|2DDAX|2DDA|2DDAP|2DDUOX|2DDUO|2DDUOP|2DDOT|2DDOX|2DDO|2DDOP|2DDEX|2DDE|
  2DDEP|2DDUT|2DDUX|2DDU|2DDUP|2DDURX|2DDUR|2NDIT|2NDIX|2NDI|2NDIP|2NDIEX|2NDIE|2NDAT|2NDAX|2NDA|
  2NDAP|2NDOT|2NDOX|2NDO|2NDOP|2NDEX|2NDE|2NDEP|2NDUT|2NDUX|2NDU|2NDUP|2NDURX|2NDUR|2HNIT|2HNIX|
  2HNI|2HNIP|2HNIET|2HNIEX|2HNIE|2HNIEP|2HNAT|2HNAX|2HNA|2HNAP|2HNUOX|2HNUO|2HNOT|2HNOX|2HNOP|2HNEX|
  2HNE|2HNEP|2HNUT|2NIT|2NIX|2NI|2NIP|2NIEX|2NIE|2NIEP|2NAX|2NA|2NAP|2NUOX|2NUO|2NUOP|2NOT|2NOX|2NO|
  2NOP|2NEX|2NE|2NEP|2NUT|2NUX|2NU|2NUP|2NURX|2NUR|2HLIT|2HLIX|2HLI|2HLIP|2HLIEX|2HLIE|2HLIEP|2HLAT|
  2HLAX|2HLA|2HLAP|2HLUOX|2HLUO|2HLUOP|2HLOX|2HLO|2HLOP|2HLEX|2HLE|2HLEP|2HLUT|2HLUX|2HLU|2HLUP|
  2HLURX|2HLUR|2HLYT|2HLYX|2HLY|2HLYP|2HLYRX|2HLYR|2LIT|2LIX|2LI|2LIP|2LIET|2LIEX|2LIE|2LIEP|2LAT|
  2LAX|2LA|2LAP|2LUOT|2LUOX|2LUO|2LUOP|2LOT|2LOX|2LO|2LOP|2LEX|2LE|2LEP|2LUT|2LUX|2LU|2LUP|2LURX|
  2LUR|2LYT|2LYX|2LY|2LYP|2LYRX|2LYR|2GIT|2GIX|2GI|2GIP|2GIET|2GIEX|2GIE|2GIEP|2GAT|2GAX|2GA|2GAP|
  2GUOT|2GUOX|2GUO|2GUOP|2GOT|2GOX|2GO|2GOP|2GET|2GEX|2GE|2GEP|2GUT|2GUX|2GU|2GUP|2GURX|2GUR|2KIT|
  2KIX|2KI|2KIP|2KIEX|2KIE|2KIEP|2KAT|2KAX|2KA|2KAP|2KUOX|2KUO|2KUOP|2KOT|2KOX|2KO|2KOP|2KET|2KEX|
  2KE|2KEP|2KUT|2KUX|2KU|2KUP|2KURX|2KUR|2GGIT|2GGIX|2GGI|2GGIEX|2GGIE|2GGIEP|2GGAT|2GGAX|2GGA|
  2GGAP|2GGUOT|2GGUOX|2GGUO|2GGUOP|2GGOT|2GGOX|2GGO|2GGOP|2GGET|2GGEX|2GGE|2GGEP|2GGUT|2GGUX|2GGU|
  2GGUP|2GGURX|2GGUR|2MGIEX|2MGIE|2MGAT|2MGAX|2MGA|2MGAP|2MGUOX|2MGUO|2MGUOP|2MGOT|2MGOX|2MGO|2MGOP|
  2MGEX|2MGE|2MGEP|2MGUT|2MGUX|2MGU|2MGUP|2MGURX|2MGUR|2HXIT|2HXIX|2HXI|2HXIP|2HXIET|2HXIEX|2HXIE|
  2HXIEP|2HXAT|2HXAX|2HXA|2HXAP|2HXUOT|2HXUOX|2HXUO|2HXUOP|2HXOT|2HXOX|2HXO|2HXOP|2HXEX|2HXE|2HXEP|
  2NGIEX|2NGIE|2NGIEP|2NGAT|2NGAX|2NGA|2NGAP|2NGUOT|2NGUOX|2NGUO|2NGOT|2NGOX|2NGO|2NGOP|2NGEX|2NGE|
  2NGEP|2HIT|2HIEX|2HIE|2HAT|2HAX|2HA|2HAP|2HUOT|2HUOX|2HUO|2HUOP|2HOT|2HOX|2HO|2HOP|2HEX|2HE|2HEP|
  2WAT|2WAX|2WA|2WAP|2WUOX|2WUO|2WUOP|2WOX|2WO|2WOP|2WEX|2WE|2WEP|2ZIT|2ZIX|2ZI|2ZIP|2ZIEX|2ZIE|
  2ZIEP|2ZAT|2ZAX|2ZA|2ZAP|2ZUOX|2ZUO|2ZUOP|2ZOT|2ZOX|2ZO|2ZOP|2ZEX|2ZE|2ZEP|2ZUT|2ZUX|2ZU|2ZUP|
  2ZURX|2ZUR|2ZYT|2ZYX|2ZY|2ZYP|2ZYRX|2ZYR|2CIT|2CIX|2CI|2CIP|2CIET|2CIEX|2CIE|2CIEP|2CAT|2CAX|2CA|
  2CAP|2CUOX|2CUO|2CUOP|2COT|2COX|2CO|2COP|2CEX|2CE|2CEP|2CUT|2CUX|2CU|2CUP|2CURX|2CUR|2CYT|2CYX|
  2CY|2CYP|2CYRX|2CYR|2ZZIT|2ZZIX|2ZZI|2ZZIP|2ZZIET|2ZZIEX|2ZZIE|2ZZIEP|2ZZAT|2ZZAX|2ZZA|2ZZAP|
  2ZZOX|2ZZO|2ZZOP|2ZZEX|2ZZE|2ZZEP|2ZZUX|2ZZU|2ZZUP|2ZZURX|2ZZUR|2ZZYT|2ZZYX|2ZZY|2ZZYP|2ZZYRX|
  2ZZYR|2NZIT|2NZIX|2NZI|2NZIP|2NZIEX|2NZIE|2NZIEP|2NZAT|2NZAX|2NZA|2NZAP|2NZUOX|2NZUO|2NZOX|2NZOP|
  2NZEX|2NZE|2NZUX|2NZU|2NZUP|2NZURX|2NZUR|2NZYT|2NZYX|2NZY|2NZYP|2NZYRX|2NZYR|2SIT|2SIX|2SI|2SIP|
  2SIEX|2SIE|2SIEP|2SAT|2SAX|2SA|2SAP|2SUOX|2SUO|2SUOP|2SOT|2SOX|2SO|2SOP|2SEX|2SE|2SEP|2SUT|2SUX|
  2SU|2SUP|2SURX|2SUR|2SYT|2SYX|2SY|2SYP|2SYRX|2SYR|2SSIT|2SSIX|2SSI|2SSIP|2SSIEX|2SSIE|2SSIEP|
  2SSAT|2SSAX|2SSA|2SSAP|2SSOT|2SSOX|2SSO|2SSOP|2SSEX|2SSE|2SSEP|2SSUT|2SSUX|2SSU|2SSUP|2SSYT|2SSYX|
  2SSY|2SSYP|2SSYRX|2SSYR|2ZHAT|2ZHAX|2ZHA|2ZHAP|2ZHUOX|2ZHUO|2ZHUOP|2ZHOT|2ZHOX|2ZHO|2ZHOP|2ZHET|
  2ZHEX|2ZHE|2ZHEP|2ZHUT|2ZHUX|2ZHU|2ZHUP|2ZHURX|2ZHUR|2ZHYT|2ZHYX|2ZHY|2ZHYP|2ZHYRX|2ZHYR|2CHAT|
  2CHAX|2CHA|2CHAP|2CHUOT|2CHUOX|2CHUO|2CHUOP|2CHOT|2CHOX|2CHO|2CHOP|2CHET|2CHEX|2CHE|2CHEP|2CHUX|
  2CHU|2CHUP|2CHURX|2CHUR|2CHYT|2CHYX|2CHY|2CHYP|2CHYRX|2CHYR|2RRAX|2RRA|2RRUOX|2RRUO|2RROT|2RROX|
  2RRO|2RROP|2RRET|2RREX|2RRE|2RREP|2RRUT|2RRUX|2RRU|2RRUP|2RRURX|2RRUR|2RRYT|2RRYX|2RRY|2RRYP|
  2RRYRX|2RRYR|2NRAT|2NRAX|2NRA|2NRAP|2NROX|2NRO|2NROP|2NRET|2NREX|2NRE|2NREP|2NRUT|2NRUX|2NRU|
  2NRUP|2NRURX|2NRUR|2NRYT|2NRYX|2NRY|2NRYP|2NRYRX|2NRYR|2SHAT|2SHAX|2SHA|2SHAP|2SHUOX|2SHUO|2SHUOP|
  2SHOT|2SHOX|2SHO|2SHOP|2SHET|2SHEX|2SHE|2SHEP|2SHUT|2SHUX|2SHU|2SHUP|2SHURX|2SHUR|2SHYT|2SHYX|
  2SHY|2SHYP|2SHYRX|2SHYR|2RAT|2RAX|2RA|2RAP|2RUOX|2RUO|2RUOP|2ROT|2ROX|2RO|2ROP|2REX|2RE|2REP|2RUT|
  2RUX|2RU|2RUP|2RURX|2RUR|2RYT|2RYX|2RY|2RYP|2RYRX|2RYR|2JIT|2JIX|2JI|2JIP|2JIET|2JIEX|2JIE|2JIEP|
  2JUOT|2JUOX|2JUO|2JUOP|2JOT|2JOX|2JO|2JOP|2JUT|2JUX|2JU|2JUP|2JURX|2JUR|2JYT|2JYX|2JY|2JYP|2JYRX|
  2JYR|2QIT|2QIX|2QI|2QIP|2QIET|2QIEX|2QIE|2QIEP|2QUOT|2QUOX|2QUO|2QUOP|2QOT|2QOX|2QO|2QOP|2QUT|
  2QUX|2QU|2QUP|2QURX|2QUR|2QYT|2QYX|2QY|2QYP|2QYRX|2QYR|2JJIT|2JJIX|2JJI|2JJIP|2JJIET|2JJIEX|2JJIE|
  2JJIEP|2JJUOX|2JJUO|2JJUOP|2JJOT|2JJOX|2JJO|2JJOP|2JJUT|2JJUX|2JJU|2JJUP|2JJURX|2JJUR|2JJYT|2JJYX|
  2JJY|2JJYP|2NJIT|2NJIX|2NJI|2NJIP|2NJIET|2NJIEX|2NJIE|2NJIEP|2NJUOX|2NJUO|2NJOT|2NJOX|2NJO|2NJOP|
  2NJUX|2NJU|2NJUP|2NJURX|2NJUR|2NJYT|2NJYX|2NJY|2NJYP|2NJYRX|2NJYR|2NYIT|2NYIX|2NYI|2NYIP|2NYIET|
  2NYIEX|2NYIE|2NYIEP|2NYUOX|2NYUO|2NYUOP|2NYOT|2NYOX|2NYO|2NYOP|2NYUT|2NYUX|2NYU|2NYUP|2XIT|2XIX|
  2XI|2XIP|2XIET|2XIEX|2XIE|2XIEP|2XUOX|2XUO|2XOT|2XOX|2XO|2XOP|2XYT|2XYX|2XY|2XYP|2XYRX|2XYR|2YIT|
  2YIX|2YI|2YIP|2YIET|2YIEX|2YIE|2YIEP|2YUOT|2YUOX|2YUO|2YUOP|2YOT|2YOX|2YO|2YOP|2YUT|2YUX|2YU|2YUP|
  2YURX|2YUR|2YYT|2YYX|2YY|2YYP|2YYRX|2YYR|A490:1RADICAL QOT|2LI|2KIT|2NYIP|2CYP|2SSI|2GGOP|2GEP|
  2MI|2HXIT|2LYR|2BBUT|2MOP|2YO|2PUT|2HXUO|2TAT|2GA|2ZUP|2CYT|2DDUR|2BUR|2GGUO|2NYOP|2TU|2OP|2JJUT|
  2ZOT|2PYT|2HMO|2YIT|2VUR|2SHY|2VEP|2ZA|2JO|2NZUP|2JJY|2GOT|2JJIE|2WO|2DU|2SHUR|2LIE|2CY|2CUOP|
  2CIP|2HXOP|2SHAT|2ZUR|2SHOP|2CHE|2ZZIET|2NBIE|2KE|A4D0:0LISU l BA|2PA|2PHA|2DA|2TA|2THA|2GA|2KA|
  2KHA|2JA|2CA|2CHA|2DZA|2TSA|2TSHA|2MA|2NA|2LA|2SA|2ZHA|2ZA|2NGA|2HA|2XA|2HHA|2FA|2WA|2SHA|2YA|
  2GHA|2A|2AE|2E|2EU|2I|2O|2U|2UE|2UH|2OE|2TONE MYA TI|3NA PO|3MYA CYA|4BO|4NA|4JEU|1pu COMMA|
  2FULL STOP|0VAI SYLLABLE EE|2EEN|2HEE|2WEE|2WEEN|2PEE|2BHEE|2BEE|2MBEE|2KPEE|2MGBEE|2GBEE|2FEE|
  2VEE|2TEE|2THEE|2DHEE|2DHHEE|2LEE|2REE|2DEE|2NDEE|2SEE|2SHEE|2ZEE|2ZHEE|2CEE|2JEE|2NJEE|2YEE|2KEE|
  2NGGEE|2GEE|2MEE|2NEE|2NYEE|2I|2IN|2HI|2HIN|2WI|2WIN|2PI|2BHI|2BI|2MBI|2KPI|2MGBI|2GBI|2FI|2VI|
  2TI|2THI|2DHI|2DHHI|2LI|2RI|2DI|2NDI|2SI|2SHI|2ZI|2ZHI|2CI|2JI|2NJI|2YI|2KI|2NGGI|2GI|2MI|2NI|
  2NYI|2A|2AN|2NGAN|2HA|2HAN|2WA|2WAN|2PA|2BHA|2BA|2MBA|2KPA|2KPAN|2MGBA|2GBA|2FA|2VA|2TA|2THA|2DHA|
  2DHHA|2LA|2RA|2DA|2NDA|2SA|2SHA|2ZA|2ZHA|2CA|2JA|2NJA|2YA|2KA|2KAN|2NGGA|2GA|2MA|2NA|2NYA|2OO|
  2OON|2HOO|2WOO|2WOON|2POO|2BHOO|2BOO|2MBOO|2KPOO|2MGBOO|2GBOO|2FOO|2VOO|2TOO|2THOO|2DHOO|2DHHOO|
  2LOO|2ROO|2DOO|2NDOO|2SOO|2SHOO|2ZOO|2ZHOO|2COO|2JOO|2NJOO|2YOO|2KOO|2NGGOO|2GOO|2MOO|2NOO|2NYOO|
  2U|2UN|2HU|2HUN|2WU|2WUN|2PU|2BHU|2BU|2MBU|2KPU|2MGBU|2GBU|2FU|2VU|2TU|2THU|2DHU|2DHHU|2LU|2RU|
  2DU|2NDU|2SU|2SHU|2ZU|2ZHU|2CU|2JU|2NJU|2YU|2KU|2NGGU|2GU|2MU|2NU|2NYU|2O|2ON|2NGON|2HO|2HON|2WO|
  2WON|2PO|2BHO|2BO|2MBO|2KPO|2MGBO|2GBO|2GBON|2FO|2VO|2TO|2THO|2DHO|2DHHO|2LO|2RO|2DO|2NDO|2SO|
  2SHO|2ZO|2ZHO|2CO|2JO|2NJO|2YO|2KO|2NGGO|2GO|2MO|2NO|2NYO|2E|2EN|2NGEN|2HE|2HEN|2WE|2WEN|2PE|2BHE|
  2BE|2MBE|2KPE|2KPEN|2MGBE|2GBE|2GBEN|2FE|2VE|2TE|2THE|2DHE|2DHHE|2LE|2RE|2DE|2NDE|2SE|2SHE|2ZE|
  2ZHE|2CE|2JE|2NJE|2YE|2KE|2NGGE|2NGGEN|2GE|2GEN|2ME|2NE|2NYE|2NG|2LENGTHENER|1COMMA|1FULL STOP|
  1QUESTION mr|1SYLLABLE NDOLE FA|3KA|3SOO|1y FEENG|2KEENG|2TING|2NII|2BANG|2FAA|2TAA|2DANG|2DOONG|
  2KUNG|2TONG|2DO-O|2JONG|1dg ZERO|2on|2tw|2h|2fo|2fi|2SIX|2se|2ei|2ni|1SYLLABLE NDOLE MA|3DO|
  A640:0CYRILLIC c l ZEMLYA|1s l ZEMLYA|1c l DZELO|1s l DZELO|1c l rv DZE|1s l rv DZE|1c l IOTA|
  1s l IOTA|1c l DJERV|1s l DJERV|1c l MONOGRAPH UK|1s l MONOGRAPH UK|1c l BROAD OMEGA|
  1s l BROAD OMEGA|1c l NEUTRAL YER|1s l NEUTRAL YER|1c l YERU w BACK YER|1s l YERU w BACK YER|
  1c l IOTIFIED YAT|1s l IOTIFIED YAT|1c l rv YU|1s l rv YU|1c l IOTIFIED A|1s l IOTIFIED A|
  1c l CLOSED LITTLE YUS|1s l CLOSED LITTLE YUS|1c l BLENDED YUS|1s l BLENDED YUS|
  1c l IOTIFIED CLOSED LITTLE YUS|1s l IOTIFIED CLOSED LITTLE YUS|1c l YN|1s l YN|1c l rv TSE|
  1s l rv TSE|1c l SOFT DE|1s l SOFT DE|1c l SOFT EL|1s l SOFT EL|1c l SOFT EM|1s l SOFT EM|
  1c l MONOCULAR O|1s l MONOCULAR O|1c l BINOCULAR O|1s l BINOCULAR O|1c l d MONOCULAR O|
  1s l d MONOCULAR O|1l MULTIOCULAR O|0co CYRILLIC VZMET|2TEN MILLIONS i|2hu MILLIONS i|
  2th MILLIONS i|0SLAVONIC as|0co CYRILLIC l UKRAINIAN IE|3I|3YI|3U|3HARD i|3YERU|3SOFT i|3OMEGA|
  2KAVYKA|2PAYEROK|0CYRILLIC KAVYKA|1PAYEROK|1c l DWE|1s l DWE|1c l DZWE|1s l DZWE|1c l ZHWE|
  1s l ZHWE|1c l CCHE|1s l CCHE|1c l DZZE|1s l DZZE|1c l TE w mi ho|1s l TE w mi ho|1c l TWE|
  1s l TWE|1c l TSWE|1s l TSWE|1c l TSSE|1s l TSSE|1c l TCHE|1s l TCHE|1c l HWE|1s l HWE|1c l SHWE|
  1s l SHWE|1c l d O|1s l d O|1c l CROSSED O|1s l CROSSED O|0MODIFIER l CYRILLIC HARD i|3SOFT i|
  0co CYRILLIC l EF|3IOTIFIED E|0BAMUM l A|2KA|2U|2KU|2EE|2REE|2TAE|2O|2NYI|2I|2LA|2PA|2RII|2RIEE|
  2LEEEE|2MEEEE|2TAA|2NDAA|2NJAEM|2M|2SUU|2MU|2SHII|2SI|2SHEUX|2SEUX|2KYEE|2KET|2NUAE|2NU|2NJUAE|
  2YOQ|2SHU|2YUQ|2YA|2NSHA|2KEUX|2PEUX|2NJEE|2NTEE|2PUE|2WUE|2PEE|2FEE|2RU|2LU|2MI|2NI|2REUX|2RAE|
  2KEN|2NGKWAEN|2NGGA|2NGA|2SHO|2PUAE|2FU|2FOM|2WA|2NA|2LI|2PI|2LOQ|2KO|2MBEN|2REN|2MEN|2MA|2TI|2KI|
  2MO|2MBAA|2TET|2KPA|2TEN|2NTUU|2SAMBA|2FAAMAE|2KOVUU|2KOGHOM|1co mr KOQNDON|3TUKWENTIS|1NJAEMLI|
  1FULL STOP|1COLON|1COMMA|1SEMICOLON|1QUESTION mr|A700:0MODIFIER l CHINESE TONE YIN PING|
  4YANG PING|4YIN SHANG|4YANG SHANG|4YIN QU|4YANG QU|4YIN RU|4YANG RU|2EXTRA-HIGH DOTTED TONE BAR|
  2HIGH DOTTED TONE BAR|2MID DOTTED TONE BAR|2LOW DOTTED TONE BAR|2EXTRA-LOW DOTTED TONE BAR|
  2EXTRA-HIGH DOTTED LEFT-STEM TONE BAR|2HIGH DOTTED LEFT-STEM TONE BAR|
  2MID DOTTED LEFT-STEM TONE BAR|2LOW DOTTED LEFT-STEM TONE BAR|
  2EXTRA-LOW DOTTED LEFT-STEM TONE BAR|2EXTRA-HIGH LEFT-STEM TONE BAR|2HIGH LEFT-STEM TONE BAR|
  2MID LEFT-STEM TONE BAR|2LOW LEFT-STEM TONE BAR|2EXTRA-LOW LEFT-STEM TONE BAR|2do v BAR|3SLASH|
  3z BAR|2lo r CORNER ANGLE|2RAISED UP a|3dw a|3EXCLAMATION mr|3iv EXCLAMATION mr|
  2LOW iv EXCLAMATION mr|2STRESS j HIGH TONE|4LOW TONE|0LATIN c l EGYPTOLOGICAL ALEF|
  1s l EGYPTOLOGICAL ALEF|1c l EGYPTOLOGICAL AIN|1s l EGYPTOLOGICAL AIN|1c l HENG|1s l HENG|1c l TZ|
  1s l TZ|1c l TRESILLO|1s l TRESILLO|1c l CUATRILLO|1s l CUATRILLO|1c l CUATRILLO w COMMA|
  1s l CUATRILLO w COMMA|1l s c F|4S|1c l AA|1s l AA|1c l AO|1s l AO|1c l AU|1s l AU|1c l AV|
  1s l AV|1c l AV w z BAR|1s l AV w z BAR|1c l AY|1s l AY|1c l rv C w do|1s l rv C w do|1c l K w k|
  1s l K w k|1c l K w DIAGONAL k|1s l K w DIAGONAL k|1c l K w k j DIAGONAL k|
  1s l K w k j DIAGONAL k|1c l BROKEN L|1s l BROKEN L|1c l L w HIGH k|1s l L w HIGH k|
  1c l O w LONG k OVERLAY|1s l O w LONG k OVERLAY|1c l O w LOOP|1s l O w LOOP|1c l OO|1s l OO|
  1c l P w k THROUGH de|1s l P w k THROUGH de|1c l P w FLOURISH|1s l P w FLOURISH|
  1c l P w SQUIRREL TAIL|1s l P w SQUIRREL TAIL|1c l Q w k THROUGH de|1s l Q w k THROUGH de|
  1c l Q w DIAGONAL k|1s l Q w DIAGONAL k|1c l R ROTUNDA|1s l R ROTUNDA|1c l RUM ROTUNDA|
  1s l RUM ROTUNDA|1c l V w DIAGONAL k|1s l V w DIAGONAL k|1c l VY|1s l VY|1c l VISIGOTHIC Z|
  1s l VISIGOTHIC Z|1c l THORN w k|1s l THORN w k|1c l THORN w k THROUGH de|
  1s l THORN w k THROUGH de|1c l VEND|1s l VEND|1c l ET|1s l ET|1c l IS|1s l IS|1c l CON|1s l CON|
  0MODIFIER l US|0LATIN s l DUM|3LUM|3MUM|3NUM|3RUM|1l s c RUM|1s l TUM|3UM|1c l INSULAR D|
  1s l INSULAR D|1c l INSULAR F|1s l INSULAR F|1c l INSULAR G|3tu INSULAR G|1s l tu INSULAR G|
  1c l tu L|1s l tu L|1c l INSULAR R|1s l INSULAR R|1c l INSULAR S|1s l INSULAR S|1c l INSULAR T|
  1s l INSULAR T|0MODIFIER l LOW cc ACCENT|2COLON|2SHORT EQUALS i|0LATIN c l SALTILLO|1s l SALTILLO|
  1c l tu H|1s l L w re ho j BELT|1l SINOLOGICAL do|1c l N w de|1s l N w de|1c l C w BAR|
  1s l C w BAR|5PALATAL ho|3H w PALATAL ho|1c l B w FLOURISH|1s l B w FLOURISH|1c l F w k|
  1s l F w k|1c l VOLAPUK AE|1s l VOLAPUK AE|1c l VOLAPUK OE|1s l VOLAPUK OE|1c l VOLAPUK UE|
  1s l VOLAPUK UE|1c l G w OBLIQUE k|1s l G w OBLIQUE k|1c l K w OBLIQUE k|1s l K w OBLIQUE k|
  1c l N w OBLIQUE k|1s l N w OBLIQUE k|1c l R w OBLIQUE k|1s l R w OBLIQUE k|1c l S w OBLIQUE k|
  1s l S w OBLIQUE k|1c l H w ho|3rv OPEN E|3SCRIPT G|3L w BELT|3s c I|1l s c Q|1c l tu K|4T|
  3J w CROSSED-TAIL|3CHI|3BETA|1s l BETA|1c l OMEGA|1s l OMEGA|1c l U w k|1s l U w k|1c l GLOTTAL A|
  1s l GLOTTAL A|1c l GLOTTAL I|1s l GLOTTAL I|1c l GLOTTAL U|1s l GLOTTAL U|1c l OLD POLISH O|
  1s l OLD POLISH O|1c l ANGLICANA W|1s l ANGLICANA W|1c l C w PALATAL ho|3S w ho|3Z w PALATAL ho|
  3D w SHORT k OVERLAY|1s l D w SHORT k OVERLAY|1c l S w SHORT k OVERLAY|1s l S w SHORT k OVERLAY|
  A7D0:1c l CLOSED INSULAR G|1s l CLOSED INSULAR G|A7D3:3d THORN|A7D5:4WYNN|1c l mi SCOTS S|
  1s l mi SCOTS S|1c l SIGMOID S|1s l SIGMOID S|A7F2:0MODIFIER l c C|3F|3Q|0LATIN c l rv ha H|
  1s l rv ha H|1EPIGRAPHIC l SIDEWAYS I|0MODIFIER l c H w k|2s LIGATURE OE|0LATIN l s c tu M|
  1EPIGRAPHIC l rv F|4P|3iv M|3I LONGA|3ARCHAIC M|0SYLOTI NAGRI l A|3I|2i DVISVARA|2l U|3E|3O|
  2i HASANTA|2l KO|3KHO|3GO|3GHO|2i an|2l CO|3CHO|3JO|3JHO|3TTO|3TTHO|3DDO|3DDHO|3TO|3THO|3DO|3DHO|
  3NO|3PO|3PHO|3BO|3BHO|3MO|3RO|3LO|3RRO|3SO|3HO|2vw i A|4I|4U|4E|4OO|2POETRY MARK-1+3|
  2i ALTERNATE HASANTA|A830:0NORTH INDIC FRACTION on QUARTER|4ha|3h QUARTERS|3on SIXTEENTH|4EIGHTH|
  3h SIXTEENTHS|2QUARTER mr|2PLACEHOLDER mr|2RUPEE mr|2QUANTITY mr|A840:0PHAGS-PA l KA|2KHA|2GA|
  2NGA|2CA|2CHA|2JA|2NYA|2TA|2THA|2DA|2NA|2PA|2PHA|2BA|2MA|2TSA|2TSHA|2DZA|2WA|2ZHA|2ZA|2s A|2YA|
  2RA|2LA|2SHA|2SA|2HA|2A|2I|2U|2E|2O|2QA|2XA|2FA|2GGA|2EE|1SUBJOINED l WA|3YA|1l TTA|2TTHA|2DDA|
  2NNA|2ALTERNATE YA|2VOICELESS SHA|2VOICED HA|2ASPIRATED FA|1SUBJOINED l RA|1SUPERFIXED l RA|1l ca|
  1si HEAD mr|1d HEAD mr|1mr SHAD|2d SHAD|A880:0SAURASHTRA i an|2VISARGA|1l A|2AA|2I|2II|2U|2UU|
  2vo R|3RR|3L|3LL|2E|2EE|2AI|2O|2OO|2AU|2KA|2KHA|2GA|2GHA|2NGA|2CA|2CHA|2JA|2JHA|2NYA|2TTA|2TTHA|
  2DDA|2DDHA|2NNA|2TA|2THA|2DA|2DHA|2NA|2PA|2PHA|2BA|2BHA|2MA|2YA|2RA|2LA|2VA|2SHA|2SSA|2SA|2HA|
  2LLA|1CONSONANT i HAARU|1vw i AA|3I|3II|3U|3UU|3vo R|4RR|4L|4LL|3E|3EE|3AI|3O|3OO|3AU|1i VIRAMA|
  2ca|A8CE:1DANDA|1d DANDA|1dg ZERO|2on|2tw|2h|2fo|2fi|2SIX|2se|2ei|2ni|A8E0:0co DEVANAGARI dg ZERO|
  3on|3tw|3h|3fo|3fi|3SIX|3se|3ei|3ni|2l A|3U|3KA|3NA|3PA|3RA|3VI|2i AVAGRAHA|
  0DEVANAGARI i SPACING ca|2ca VIRAMA|2d ca VIRAMA|2ca tw|3h|3AVAGRAHA|2PUSHPIKA|1GAP FILLER|1CARET|
  1HEADSTROKE|1i SIDDHAM|1JAIN OM|1l AY|1vw i AY|0KAYAH LI dg ZERO|3on|3tw|3h|3fo|3fi|3SIX|3se|3ei|
  3ni|2l KA|3KHA|3GA|3NGA|3SA|3SHA|3ZA|3NYA|3TA|3HTA|3NA|3PA|3PHA|3MA|3DA|3BA|3RA|3YA|3LA|3WA|3THA|
  3HA|3VA|3CA|3A|3OE|3I|3OO|2vw UE|3E|3U|3EE|3O|2TONE PLOPHU|3CALYA|4PLOPHU|2i CWI|3SHYA|
  0REJANG l KA|2GA|2NGA|2TA|2DA|2NA|2PA|2BA|2MA|2CA|2JA|2NYA|2SA|2RA|2LA|2YA|2WA|2HA|2MBA|2NGGA|
  2NDA|2NYJA|2A|1vw i I|3U|3E|3AI|3O|3AU|3EU|3EA|1CONSONANT i NG|3N|3R|3H|1VIRAMA|A95F:1SECTION mr|
  0HANGUL CHOSEONG TIKEUT-MIEUM|2TIKEUT-PIEUP|2TIKEUT-SIOS|2TIKEUT-CIEUC|2RIEUL-KIYEOK|
  2RIEUL-SSANGKIYEOK|2RIEUL-TIKEUT|2RIEUL-SSANGTIKEUT|2RIEUL-MIEUM|2RIEUL-PIEUP|2RIEUL-SSANGPIEUP|
  2RIEUL-KAPYEOUNPIEUP|2RIEUL-SIOS|2RIEUL-CIEUC|2RIEUL-KHIEUKH|2MIEUM-KIYEOK|2MIEUM-TIKEUT|
  2MIEUM-SIOS|2PIEUP-SIOS-THIEUTH|2PIEUP-KHIEUKH|2PIEUP-HIEUH|2SSANGSIOS-PIEUP|2IEUNG-RIEUL|
  2IEUNG-HIEUH|2SSANGCIEUC-HIEUH|2SSANGTHIEUTH|2PHIEUPH-HIEUH|2HIEUH-SIOS|2SSANGYEORINHIEUH|
  A980:0JAVANESE i PANYANGGA|2CECAK|2LAYAR|2WIGNYAN|1l A|2I KAWI|3|2II|2U|2PA CEREK|2NGA LELET|
  4RASWADI|2E|2AI|2O|2KA|3SASAK|3MURDA|2GA|3MURDA|2NGA|2CA|3MURDA|2JA|2NYA MURDA|2JA MAHAPRANA|2NYA|
  2TTA|3MAHAPRANA|2DDA|3MAHAPRANA|2NA MURDA|2TA|3MURDA|2DA|3MAHAPRANA|2NA|2PA|3MURDA|2BA|3MURDA|2MA|
  2YA|2RA|3AGUNG|2LA|2WA|2SA MURDA|3MAHAPRANA|3|2HA|1i CECAK TELU|1vw i TARUNG|3TOLONG|3WULU|4MELIK|
  3SUKU|4MENDUT|3TALING|3DIRGA MURE|3PEPET|1CONSONANT i KERET|3PENGKAL|3CAKRA|1PANGKON|1t RERENGGAN|
  1r RERENGGAN|1PADA ANDAP|2MADYA|2LUHUR|2WINDU|2PANGKAT|2LINGSA|2LUNGSI|2ADEG|3ADEG|2PISELEH|
  1tu PADA PISELEH|A9CF:1PANGRANGKEP|1dg ZERO|2on|2tw|2h|2fo|2fi|2SIX|2se|2ei|2ni|
  A9DE:1PADA TIRTA TUMETES|2ISEN-ISEN|0MYANMAR l SHAN GHA|3CHA|3JHA|3NNA|3BHA|1i SHAN SAW|
  1MODIFIER l SHAN REDUPLICATION|1l TAI LAING NYA|4FA|4GA|4GHA|4JA|4JHA|4DDA|4DDHA|4NNA|
  1TAI LAING dg ZERO|4on|4tw|4h|4fo|4fi|4SIX|4se|4ei|4ni|1l TAI LAING LLA|4DA|4DHA|4BA|4BHA|
  AA00:0CHAM l A|2I|2U|2E|2AI|2O|2KA|2KHA|2GA|2GHA|2NGUE|2NGA|2CHA|2CHHA|2JA|2JHA|2NHUE|2NHA|2NHJA|
  2TA|2THA|2DA|2DHA|2NUE|2NA|2DDA|2PA|2PPA|2PHA|2BA|2BHA|2MUE|2MA|2BBA|2YA|2RA|2LA|2VA|2SSA|2SA|2HA|
  1vw i AA|3I|3II|3EI|3U|3OE|3O|3AI|3AU|3UE|1CONSONANT i YA|3RA|3LA|3WA|AA40:1l n K|3G|3NG|
  1CONSONANT i n NG|1l n CH|3T|3N|3P|3Y|3R|3L|3SS|1CONSONANT i n M|4H|AA50:1dg ZERO|2on|2tw|2h|2fo|
  2fi|2SIX|2se|2ei|2ni|AA5C:1pu SPIRAL|2DANDA|2d DANDA|2TRIPLE DANDA|0MYANMAR l KHAMTI GA|3CA|3CHA|
  3JA|3JHA|3NYA|3TTA|3TTHA|3DDA|3DDHA|3DHA|3NA|3SA|3HA|3HHA|3FA|1MODIFIER l KHAMTI REDUPLICATION|
  1l KHAMTI XA|3ZA|3RA|1LOGOGRAM KHAMTI OAY|3QN|3HM|1y AITON EXCLAMATION|3on|3tw|1l AITON RA|
  1i PAO KAREN TONE|2TAI LAING TONE-2|4TONE-5|1l SHWE PALAUNG CHA|4SHA|0TAI VIET l LOW KO|3HIGH KO|
  3LOW KHO|3HIGH KHO|3LOW KHHO|3HIGH KHHO|3LOW GO|3HIGH GO|3LOW NGO|3HIGH NGO|3LOW CO|3HIGH CO|
  3LOW CHO|3HIGH CHO|3LOW SO|3HIGH SO|3LOW NYO|3HIGH NYO|3LOW DO|3HIGH DO|3LOW TO|3HIGH TO|3LOW THO|
  3HIGH THO|3LOW NO|3HIGH NO|3LOW BO|3HIGH BO|3LOW PO|3HIGH PO|3LOW PHO|3HIGH PHO|3LOW FO|3HIGH FO|
  3LOW MO|3HIGH MO|3LOW YO|3HIGH YO|3LOW RO|3HIGH RO|3LOW LO|3HIGH LO|3LOW VO|3HIGH VO|3LOW HO|
  3HIGH HO|3LOW O|3HIGH O|2MAI KANG|2vw AA|3I|3UE|3U|3E|3O|2MAI KHIT|2vw IA|3UEA|3UA|3AUE|3AY|3AN|
  3AM|2TONE MAI EK|4NUENG|4THO|4SONG|AADB:2y KON|3NUENG|3SAM|3HO HOI|3KOI KOI|0MEETEI MAYEK l E|3O|
  3CHA|3NYA|3TTA|3TTHA|3DDA|3DDHA|3NNA|3SHA|3SSA|2vw i II|4UU|4AAI|4AU|4AAU|2CHEIKHAN|2AHANG KHUDAM|
  2ANJI|2SYLLABLE REPETITION mr|2WORD REPETITION mr|2vw i VISARGA|2VIRAMA|
  AB01:0ETHIOPIC SYLLABLE TTHU|2TTHI|2TTHAA|2TTHEE|2TTHE|2TTHO|AB09:2DDHU|2DDHI|2DDHAA|2DDHEE|2DDHE|
  2DDHO|AB11:2DZU|2DZI|2DZAA|2DZEE|2DZE|2DZO|AB20:2CCHHA|2CCHHU|2CCHHI|2CCHHAA|2CCHHEE|2CCHHE|
  2CCHHO|AB28:2BBA|2BBU|2BBI|2BBAA|2BBEE|2BBE|2BBO|AB30:0LATIN s l BARRED ALPHA|3A REVERSED-SCHWA|
  3BLACKLETTER E|3BARRED E|3E w FLOURISH|3LENIS F|3SCRIPT G w CROSSED-TAIL|3L w iv LAZY S|5d mi ti|
  5mi RING|3M w CROSSED-TAIL|3N w CROSSED-TAIL|3ENG w CROSSED-TAIL|3BLACKLETTER O|5w k|3OPEN O w k|
  3iv OE|3tu OE w k|6z k|4O OPEN-O|6w k|3STIRRUP R|1l s c R w r LEG|1s l R WITHOUT HANDLE|3d R|
  3R w CROSSED-TAIL|3d R w CROSSED-TAIL|3SCRIPT R|5w RING|3BASELINE ESH|3U w SHORT r LEG|
  4BAR w SHORT r LEG|3UI|3tu UI|3U w t ho|3CHI|4w LOW r RING|6t SERIF|3X w LOW r RING|5LONG t LEG|
  8j LOW r RING|8w SERIF|3Y w SHORT r LEG|0MODIFIER BREVE w iv BREVE|1l s HENG|3L w iv LAZY S|
  5mi ti|3U w t ho|0LATIN s l SAKHA YAT|3IOTIFIED E|3OPEN OE|3UO|3iv ALPHA|0GREEK l s c OMEGA|
  0LATIN s l DZ DIGRAPH w re ho|3TS DIGRAPH w re ho|3tu R w mi ti|0MODIFIER l s tu W|2t TACK|
  2r TACK|AB70:0CHEROKEE s l A|3E|3I|3O|3U|3V|3GA|3KA|3GE|3GI|3GO|3GU|3GV|3HA|3HE|3HI|3HO|3HU|3HV|
  3LA|3LE|3LI|3LO|3LU|3LV|3MA|3ME|3MI|3MO|3MU|3NA|3HNA|3NAH|3NE|3NI|3NO|3NU|3NV|3QUA|3QUE|3QUI|3QUO|
  3QUU|3QUV|3SA|3S|3SE|3SI|3SO|3SU|3SV|3DA|3TA|3DE|3TE|3DI|3TI|3DO|3DU|3DV|3DLA|3TLA|3TLE|3TLI|3TLO|
  3TLU|3TLV|3TSA|3TSE|3TSI|3TSO|3TSU|3TSV|3WA|3WE|3WI|3WO|3WU|3WV|3YA|0MEETEI MAYEK l KOK|3SAM|3LAI|
  3MIT|3PA|3NA|3CHIL|3TIL|3KHOU|3NGOU|3THOU|3WAI|3YANG|3HUK|3UN|3I|3PHAM|3ATIYA|3GOK|3JHAM|3RAI|3BA|
  3JIL|3DIL|3GHOU|3DHOU|3BHAM|3KOK LONSUM|3LAI LONSUM|3MIT LONSUM|3PA LONSUM|3NA LONSUM|3TIL LONSUM|
  3NGOU LONSUM|3I LONSUM|2vw i ONAP|4INAP|4ANAP|4YENAP|4SOUNAP|4UNAP|4CHEINAP|4NUNG|2CHEIKHEI|
  2LUM IYEK|2APUN IYEK|ABF0:2dg ZERO|3on|3tw|3h|3fo|3fi|3SIX|3se|3ei|3ni|
  D7B0:0HANGUL JUNGSEONG O-YEO|2O-O-I|2YO-A|2YO-AE|2YO-EO|2U-YEO|2U-I-I|2YU-AE|2YU-O|2EU-A|2EU-EO|
  2EU-E|2EU-O|2I-YA-O|2I-YAE|2I-YEO|2I-YE|2I-O-I|2I-YO|2I-YU|2I-I|2ARAEA-A|2ARAEA-E|
  D7CB:1JONGSEONG NIEUN-RIEUL|2NIEUN-CHIEUCH|2SSANGTIKEUT|2SSANGTIKEUT-PIEUP|2TIKEUT-PIEUP|
  2TIKEUT-SIOS|2TIKEUT-SIOS-KIYEOK|2TIKEUT-CIEUC|2TIKEUT-CHIEUCH|2TIKEUT-THIEUTH|2RIEUL-SSANGKIYEOK|
  2RIEUL-KIYEOK-HIEUH|2SSANGRIEUL-KHIEUKH|2RIEUL-MIEUM-HIEUH|2RIEUL-PIEUP-TIKEUT|
  2RIEUL-PIEUP-PHIEUPH|2RIEUL-YESIEUNG|2RIEUL-YEORINHIEUH-HIEUH|2KAPYEOUNRIEUL|2MIEUM-NIEUN|
  2MIEUM-SSANGNIEUN|2SSANGMIEUM|2MIEUM-PIEUP-SIOS|2MIEUM-CIEUC|2PIEUP-TIKEUT|2PIEUP-RIEUL-PHIEUPH|
  2PIEUP-MIEUM|2SSANGPIEUP|2PIEUP-SIOS-TIKEUT|2PIEUP-CIEUC|2PIEUP-CHIEUCH|2SIOS-MIEUM|
  2SIOS-KAPYEOUNPIEUP|2SSANGSIOS-KIYEOK|2SSANGSIOS-TIKEUT|2SIOS-PANSIOS|2SIOS-CIEUC|2SIOS-CHIEUCH|
  2SIOS-THIEUTH|2SIOS-HIEUH|2PANSIOS-PIEUP|2PANSIOS-KAPYEOUNPIEUP|2YESIEUNG-MIEUM|2YESIEUNG-HIEUH|
  2CIEUC-PIEUP|2CIEUC-SSANGPIEUP|2SSANGCIEUC|2PHIEUPH-SIOS|2PHIEUPH-THIEUTH|
  FB00:0LATIN s LIGATURE FF|3FI|3FL|3FFI|3FFL|3LONG S T|3ST|FB13:0ARMENIAN s LIGATURE MEN NOW|4ECH|
  4INI|3VEW NOW|3MEN XEH|FB1D:0HEBREW l YOD w HIRIQ|1POINT JUDEO-SPANISH VARIKA|
  1LIGATURE YIDDISH YOD YOD PATAH|1l ALTERNATIVE AYIN|2WIDE ALEF|3DALET|3HE|3KAF|3LAMED|3n MEM|
  3RESH|3TAV|2ALTERNATIVE pl i|2SHIN w SHIN do|4SIN do|4DAGESH j SHIN do|6SIN do|2ALEF w PATAH|
  4QAMATS|4MAPIQ|2BET w DAGESH|2GIMEL w DAGESH|2DALET w DAGESH|2HE w MAPIQ|2VAV w DAGESH|
  2ZAYIN w DAGESH|FB38:2TET w DAGESH|2YOD w DAGESH|2n KAF w DAGESH|2KAF w DAGESH|2LAMED w DAGESH|
  FB3E:2MEM w DAGESH|FB40:2NUN w DAGESH|2SAMEKH w DAGESH|FB43:2n PE w DAGESH|2PE w DAGESH|
  FB46:2TSADI w DAGESH|2QOF w DAGESH|2RESH w DAGESH|2SHIN w DAGESH|2TAV w DAGESH|2VAV w HOLAM|
  2BET w RAFE|2KAF w RAFE|2PE w RAFE|1LIGATURE ALEF LAMED|0ARABIC l ALEF WASLA o f|4n f|2BEEH o f|
  3n f|3p f|3me f|2PEH o f|3n f|3p f|3me f|2BEHEH o f|3n f|3p f|3me f|2TTEHEH o f|3n f|3p f|3me f|
  2TEHEH o f|3n f|3p f|3me f|2TTEH o f|3n f|3p f|3me f|2VEH o f|3n f|3p f|3me f|2PEHEH o f|3n f|
  3p f|3me f|2DYEH o f|3n f|3p f|3me f|2NYEH o f|3n f|3p f|3me f|2TCHEH o f|3n f|3p f|3me f|
  2TCHEHEH o f|3n f|3p f|3me f|2DDAHAL o f|3n f|2DAHAL o f|3n f|2DUL o f|3n f|2DDAL o f|3n f|
  2JEH o f|3n f|2RREH o f|3n f|2KEHEH o f|3n f|3p f|3me f|2GAF o f|3n f|3p f|3me f|2GUEH o f|3n f|
  3p f|3me f|2NGOEH o f|3n f|3p f|3me f|2NOON GHUNNA o f|4n f|2RNOON o f|3n f|3p f|3me f|
  2HEH w YEH b o f|6n f|3GOAL o f|4n f|4p f|4me f|3DOACHASHMEE o f|4n f|4p f|4me f|2YEH BARREE o f|
  4n f|4w HAMZA b o f|7n f|1y do b|3e|2tw DOTS b|4e|2h DOTS b|4e|4po dn b|6e|2fo DOTS b|4e|
  2d v BAR e|2tw DOTS VERTICALLY b|5e|2RING|2s TAH b|4e|2WASLA b|FBD3:1l NG o f|3n f|3p f|3me f|
  2U o f|3n f|2OE o f|3n f|2YU o f|3n f|2U w HAMZA b o f|2VE o f|3n f|2KIRGHIZ OE o f|4n f|3YU o f|
  4n f|2E o f|3n f|3p f|3me f|2UIGHUR KAZAKH KIRGHIZ ALEF ma p f|7me f|
  1LIGATURE YEH w HAMZA b w ALEF o f|8n f|7AE o f|8n f|7WAW o f|8n f|7U o f|8n f|7OE o f|8n f|
  7YU o f|8n f|7E o f|8n f|8p f|2UIGHUR KIRGHIZ YEH w HAMZA b w ALEF ma o f|9ALEF ma n f|
  9ALEF ma p f|1l FARSI YEH o f|4n f|4p f|4me f|1LIGATURE YEH w HAMZA b w JEEM o f|7HAH o f|7mm o f|
  7ALEF ma o f|7YEH o f|2BEH w JEEM o f|4HAH o f|4KHAH o f|4mm o f|4ALEF ma o f|4YEH o f|
  2TEH w JEEM o f|4HAH o f|4KHAH o f|4mm o f|4ALEF ma o f|4YEH o f|2THEH w JEEM o f|4mm o f|
  4ALEF ma o f|4YEH o f|2JEEM w HAH o f|4mm o f|2HAH w JEEM o f|4mm o f|2KHAH w JEEM o f|4HAH o f|
  4mm o f|2SEEN w JEEM o f|4HAH o f|4KHAH o f|4mm o f|2SAD w HAH o f|4mm o f|2DAD w JEEM o f|
  4HAH o f|4KHAH o f|4mm o f|2TAH w HAH o f|4mm o f|2ZAH w mm o f|2AIN w JEEM o f|4mm o f|
  2GHAIN w JEEM o f|4mm o f|2FEH w JEEM o f|4HAH o f|4KHAH o f|4mm o f|4ALEF ma o f|4YEH o f|
  2QAF w HAH o f|4mm o f|4ALEF ma o f|4YEH o f|2KAF w ALEF o f|4JEEM o f|4HAH o f|4KHAH o f|
  4LAM o f|4mm o f|4ALEF ma o f|4YEH o f|2LAM w JEEM o f|4HAH o f|4KHAH o f|4mm o f|4ALEF ma o f|
  4YEH o f|2mm w JEEM o f|4HAH o f|4KHAH o f|4mm o f|4ALEF ma o f|4YEH o f|2NOON w JEEM o f|
  4HAH o f|4KHAH o f|4mm o f|4ALEF ma o f|4YEH o f|2HEH w JEEM o f|4mm o f|4ALEF ma o f|4YEH o f|
  2YEH w JEEM o f|4HAH o f|4KHAH o f|4mm o f|4ALEF ma o f|4YEH o f|2THAL w SUPERSCRIPT ALEF o f|
  2REH w SUPERSCRIPT ALEF o f|2ALEF ma w SUPERSCRIPT ALEF o f|2SHADDA w DAMMATAN o f|4KASRATAN o f|
  4FATHA o f|4DAMMA o f|4KASRA o f|4SUPERSCRIPT ALEF o f|2YEH w HAMZA b w REH n f|7ZAIN n f|7mm n f|
  7NOON n f|7ALEF ma n f|7YEH n f|2BEH w REH n f|4ZAIN n f|4mm n f|4NOON n f|4ALEF ma n f|4YEH n f|
  2TEH w REH n f|4ZAIN n f|4mm n f|4NOON n f|4ALEF ma n f|4YEH n f|2THEH w REH n f|4ZAIN n f|
  4mm n f|4NOON n f|4ALEF ma n f|4YEH n f|2FEH w ALEF ma n f|4YEH n f|2QAF w ALEF ma n f|4YEH n f|
  2KAF w ALEF n f|4LAM n f|4mm n f|4ALEF ma n f|4YEH n f|2LAM w mm n f|4ALEF ma n f|4YEH n f|
  2mm w ALEF n f|4mm n f|2NOON w REH n f|4ZAIN n f|4mm n f|4NOON n f|4ALEF ma n f|4YEH n f|
  2ALEF ma w SUPERSCRIPT ALEF n f|2YEH w REH n f|4ZAIN n f|4mm n f|4NOON n f|4ALEF ma n f|4YEH n f|
  4HAMZA b w JEEM p f|7HAH p f|7KHAH p f|7mm p f|7HEH p f|2BEH w JEEM p f|4HAH p f|4KHAH p f|
  4mm p f|4HEH p f|2TEH w JEEM p f|4HAH p f|4KHAH p f|4mm p f|4HEH p f|2THEH w mm p f|
  2JEEM w HAH p f|4mm p f|2HAH w JEEM p f|4mm p f|2KHAH w JEEM p f|4mm p f|2SEEN w JEEM p f|
  4HAH p f|4KHAH p f|4mm p f|2SAD w HAH p f|4KHAH p f|4mm p f|2DAD w JEEM p f|4HAH p f|4KHAH p f|
  4mm p f|2TAH w HAH p f|2ZAH w mm p f|2AIN w JEEM p f|4mm p f|2GHAIN w JEEM p f|4mm p f|
  2FEH w JEEM p f|4HAH p f|4KHAH p f|4mm p f|2QAF w HAH p f|4mm p f|2KAF w JEEM p f|4HAH p f|
  4KHAH p f|4LAM p f|4mm p f|2LAM w JEEM p f|4HAH p f|4KHAH p f|4mm p f|4HEH p f|2mm w JEEM p f|
  4HAH p f|4KHAH p f|4mm p f|2NOON w JEEM p f|4HAH p f|4KHAH p f|4mm p f|4HEH p f|2HEH w JEEM p f|
  4mm p f|4SUPERSCRIPT ALEF p f|2YEH w JEEM p f|4HAH p f|4KHAH p f|4mm p f|4HEH p f|
  4HAMZA b w mm me f|7HEH me f|2BEH w mm me f|4HEH me f|2TEH w mm me f|4HEH me f|2THEH w mm me f|
  4HEH me f|2SEEN w mm me f|4HEH me f|2SHEEN w mm me f|4HEH me f|2KAF w LAM me f|4mm me f|
  2LAM w mm me f|2NOON w mm me f|4HEH me f|2YEH w mm me f|4HEH me f|2SHADDA w FATHA me f|
  4DAMMA me f|4KASRA me f|2TAH w ALEF ma o f|4YEH o f|2AIN w ALEF ma o f|4YEH o f|
  2GHAIN w ALEF ma o f|4YEH o f|2SEEN w ALEF ma o f|4YEH o f|2SHEEN w ALEF ma o f|4YEH o f|
  2HAH w ALEF ma o f|4YEH o f|2JEEM w ALEF ma o f|4YEH o f|2KHAH w ALEF ma o f|4YEH o f|
  2SAD w ALEF ma o f|4YEH o f|2DAD w ALEF ma o f|4YEH o f|2SHEEN w JEEM o f|4HAH o f|4KHAH o f|
  4mm o f|4REH o f|2SEEN w REH o f|2SAD w REH o f|2DAD w REH o f|2TAH w ALEF ma n f|4YEH n f|
  2AIN w ALEF ma n f|4YEH n f|2GHAIN w ALEF ma n f|4YEH n f|2SEEN w ALEF ma n f|4YEH n f|
  2SHEEN w ALEF ma n f|4YEH n f|2HAH w ALEF ma n f|4YEH n f|2JEEM w ALEF ma n f|4YEH n f|
  2KHAH w ALEF ma n f|4YEH n f|2SAD w ALEF ma n f|4YEH n f|2DAD w ALEF ma n f|4YEH n f|
  2SHEEN w JEEM n f|4HAH n f|4KHAH n f|4mm n f|4REH n f|2SEEN w REH n f|2SAD w REH n f|
  2DAD w REH n f|2SHEEN w JEEM p f|4HAH p f|4KHAH p f|4mm p f|2SEEN w HEH p f|2SHEEN w HEH p f|
  2TAH w mm p f|2SEEN w JEEM me f|4HAH me f|4KHAH me f|2SHEEN w JEEM me f|4HAH me f|4KHAH me f|
  2TAH w mm me f|2ZAH w mm me f|2ALEF w FATHATAN n f|5o f|0ORNATE t pa|1r pa|
  0ARABIC LIGATURE RAHIMAHU ALLAAH|2RADI ALLAAHU ANH|4ANHAA|4ANHUM|4ANHUMAA|4ANHUNNA|
  2SALLALLAAHU ALAYHI WA-AALIH|2ALAYHI AS-SALAAM|2ALAYHIM AS-SALAAM|2ALAYHIMAA AS-SALAAM|
  2ALAYHI AS-SALAATU WAS-SALAAM|2QUDDISA SIRRAH|2SALLALLAHU ALAYHI WAAALIHEE WA-SALLAM|
  2ALAYHAA AS-SALAAM|2TABAARAKA WA-TAAALAA|2RAHIMAHUM ALLAAH|2TEH w JEEM w mm p f|4HAH w JEEM n f|
  7p f|6mm p f|4KHAH w mm p f|4mm w JEEM p f|6HAH p f|6KHAH p f|2JEEM w mm w HAH n f|7p f|
  2HAH w mm w YEH n f|6ALEF ma n f|2SEEN w HAH w JEEM p f|4JEEM w HAH p f|6ALEF ma n f|
  4mm w HAH n f|7p f|6JEEM p f|6mm n f|7p f|2SAD w HAH w HAH n f|7p f|4mm w mm n f|
  2SHEEN w HAH w mm n f|7p f|4JEEM w YEH n f|4mm w KHAH n f|7p f|6mm n f|7p f|
  2DAD w HAH w ALEF ma n f|4KHAH w mm n f|7p f|2TAH w mm w HAH n f|7p f|6mm p f|6YEH n f|
  2AIN w JEEM w mm n f|4mm w mm n f|7p f|6ALEF ma n f|2GHAIN w mm w mm n f|6YEH n f|6ALEF ma n f|
  2FEH w KHAH w mm n f|7p f|2QAF w mm w HAH n f|6mm n f|2LAM w HAH w mm n f|6YEH n f|6ALEF ma n f|
  4JEEM w JEEM p f|7n f|4KHAH w mm n f|7p f|4mm w HAH n f|7p f|2mm w HAH w JEEM p f|6mm p f|
  6YEH n f|4JEEM w HAH p f|6mm p f|4KHAH w JEEM p f|6mm p f|FD92:4JEEM w KHAH p f|
  2HEH w mm w JEEM p f|6mm p f|2NOON w HAH w mm p f|6ALEF ma n f|4JEEM w mm n f|7p f|6ALEF ma n f|
  4mm w YEH n f|6ALEF ma n f|2YEH w mm w mm n f|7p f|2BEH w KHAH w YEH n f|2TEH w JEEM w YEH n f|
  6ALEF ma n f|4KHAH w YEH n f|6ALEF ma n f|4mm w YEH n f|6ALEF ma n f|2JEEM w mm w YEH n f|
  4HAH w ALEF ma n f|4mm w ALEF ma n f|2SEEN w KHAH w ALEF ma n f|2SAD w HAH w YEH n f|
  2SHEEN w HAH w YEH n f|2DAD w HAH w YEH n f|2LAM w JEEM w YEH n f|4mm w YEH n f|
  2YEH w HAH w YEH n f|4JEEM w YEH n f|4mm w YEH n f|2mm w mm w YEH n f|2QAF w mm w YEH n f|
  2NOON w HAH w YEH n f|2QAF w mm w HAH p f|2LAM w HAH w mm p f|2AIN w mm w YEH n f|
  2KAF w mm w YEH n f|2NOON w JEEM w HAH p f|2mm w KHAH w YEH n f|2LAM w JEEM w mm p f|
  2KAF w mm w mm n f|2LAM w JEEM w mm n f|2NOON w JEEM w HAH n f|2JEEM w HAH w YEH n f|
  2HAH w JEEM w YEH n f|2mm w JEEM w YEH n f|2FEH w mm w YEH n f|2BEH w HAH w YEH n f|
  2KAF w mm w mm p f|2AIN w JEEM w mm p f|2SAD w mm w mm p f|2SEEN w KHAH w YEH n f|
  2NOON w JEEM w YEH n f|FDCF:2SALAAMUHU ALAYNAA|FDF0:2SALLA USED AS KORANIC STOP i o f|
  2QALA USED AS KORANIC STOP i o f|2ALLAH o f|2AKBAR o f|2MOHAMMAD o f|2SALAM o f|2RASOUL o f|
  2ALAYHE o f|2WASALLAM o f|2SALLA o f|2SALLALLAHOU ALAYHE WASALLAM|2JALLAJALALOUHOU|0RIAL i|
  0ARABIC LIGATURE BISMILLAH AR-RAHMAN AR-RAHEEM|2SUBHAANAHU WA TAAALAA|2AZZA WA JALL|
  0VARIATION SELECTOR-1+8|1SELECTOR-10+6|0PRESENTATION f FOR v COMMA|4IDEOGRAPHIC COMMA|5FULL STOP|
  4COLON|4SEMICOLON|4EXCLAMATION mr|4QUESTION mr|4t x LENTICULAR br|4r x LENTICULAR BRAKCET|
  4z ELLIPSIS|FE20:0co LIGATURE t ha|2r ha|1d ti t ha|3r ha|1MACRON t ha|2r ha|1CONJOINING MACRON|
  1LIGATURE t ha e|2r ha e|1ti t ha e|2r ha e|1MACRON t ha e|2r ha e|1CONJOINING MACRON e|
  1CYRILLIC TITLO t ha|3r ha|0PRESENTATION f FOR v tw do LEADER|4EM DASH|4EN DASH|4LOW LINE|
  4WAVY LOW LINE|4t pa|4r pa|4t CURLY br|4r CURLY br|4t TORTOISE SHELL br|4r TORTOISE SHELL br|
  4t u LENTICULAR br|4r u LENTICULAR br|4t d ANGLE br|4r d ANGLE br|4t ANGLE br|4r ANGLE br|
  4t CORNER br|4r CORNER br|4t x CORNER br|4r x CORNER br|0SESAME do|0x SESAME do|
  0PRESENTATION f FOR v t sq br|4r sq br|0DASHED OVERLINE|0CENTRELINE OVERLINE|0WAVY OVERLINE|
  0d WAVY OVERLINE|0DASHED LOW LINE|0CENTRELINE LOW LINE|0WAVY LOW LINE|0s COMMA|1IDEOGRAPHIC COMMA|
  1FULL STOP|FE54:1SEMICOLON|1COLON|1QUESTION mr|1EXCLAMATION mr|1EM DASH|1t pa|1r pa|1t CURLY br|
  1r CURLY br|1t TORTOISE SHELL br|1r TORTOISE SHELL br|1NUMBER i|1AMPERSAND|1as|1pl i|
  1HYPHEN-MINUS|1le i|1gr i|1EQUALS i|FE68:1REVERSE SOLIDUS|1DOLLAR i|1PERCENT i|1COMMERCIAL AT|
  FE70:0ARABIC FATHATAN o f|1TATWEEL w FATHATAN b|1DAMMATAN o f|1TAIL FRAGMENT|1KASRATAN o f|
  FE76:1FATHA o f|2me f|1DAMMA o f|2me f|1KASRA o f|2me f|1SHADDA o f|2me f|1SUKUN o f|2me f|
  1l HAMZA o f|2ALEF w MADDA b o f|6n f|4HAMZA b o f|6n f|2WAW w HAMZA b o f|6n f|
  2ALEF w HAMZA e o f|6n f|2YEH w HAMZA b o f|6n f|6p f|6me f|2ALEF o f|3n f|2BEH o f|3n f|3p f|
  3me f|2TEH MARBUTA o f|4n f|3o f|3n f|3p f|3me f|2THEH o f|3n f|3p f|3me f|2JEEM o f|3n f|3p f|
  3me f|2HAH o f|3n f|3p f|3me f|2KHAH o f|3n f|3p f|3me f|2DAL o f|3n f|2THAL o f|3n f|2REH o f|
  3n f|2ZAIN o f|3n f|2SEEN o f|3n f|3p f|3me f|2SHEEN o f|3n f|3p f|3me f|2SAD o f|3n f|3p f|3me f|
  2DAD o f|3n f|3p f|3me f|2TAH o f|3n f|3p f|3me f|2ZAH o f|3n f|3p f|3me f|2AIN o f|3n f|3p f|
  3me f|2GHAIN o f|3n f|3p f|3me f|2FEH o f|3n f|3p f|3me f|2QAF o f|3n f|3p f|3me f|2KAF o f|3n f|
  3p f|3me f|2LAM o f|3n f|3p f|3me f|2mm o f|3n f|3p f|3me f|2NOON o f|3n f|3p f|3me f|2HEH o f|
  3n f|3p f|3me f|2WAW o f|3n f|2ALEF ma o f|4n f|2YEH o f|3n f|3p f|3me f|
  1LIGATURE LAM w ALEF w MADDA b o f|8n f|6HAMZA b o f|8n f|7e o f|8n f|5o f|5n f|
  FEFF:0ZERO WIDTH NO-BREAK SPACE|FF01:0FULLWIDTH EXCLAMATION mr|1QUOTATION mr|1NUMBER i|1DOLLAR i|
  1PERCENT i|1AMPERSAND|1APOSTROPHE|1t pa|1r pa|1as|1pl i|1COMMA|1HYPHEN-MINUS|1FULL STOP|1SOLIDUS|
  1dg ZERO|2on|2tw|2h|2fo|2fi|2SIX|2se|2ei|2ni|1COLON|1SEMICOLON|1le i|1EQUALS i|1gr i|1QUESTION mr|
  1COMMERCIAL AT|1LATIN c l A|4B|4C|4D|4E|4F|4G|4H|4I|4J|4K|4L|4M|4N|4O|4P|4Q|4R|4S|4T|4U|4V|4W|4X|
  4Y|4Z|1t sq br|1REVERSE SOLIDUS|1r sq br|1cc ACCENT|1LOW LINE|1GRAVE ACCENT|1LATIN s l A|4B|4C|4D|
  4E|4F|4G|4H|4I|4J|4K|4L|4M|4N|4O|4P|4Q|4R|4S|4T|4U|4V|4W|4X|4Y|4Z|1t CURLY br|1v LINE|1r CURLY br|
  1ti|1t x pa|1r x pa|0HALFWIDTH IDEOGRAPHIC FULL STOP|1t CORNER br|1r CORNER br|1IDEOGRAPHIC COMMA|
  1KATAKANA mi do|2l WO|3s A|4I|4U|4E|4O|4YA|4YU|4YO|4TU|1KATAKANA-HIRAGANA PROLONGED SOUND mr|
  1KATAKANA l A|3I|3U|3E|3O|3KA|3KI|3KU|3KE|3KO|3SA|3SI|3SU|3SE|3SO|3TA|3TI|3TU|3TE|3TO|3NA|3NI|3NU|
  3NE|3NO|3HA|3HI|3HU|3HE|3HO|3MA|3MI|3MU|3ME|3MO|3YA|3YU|3YO|3RA|3RI|3RU|3RE|3RO|3WA|3N|
  2VOICED SOUND mr|2SEMI-VOICED SOUND mr|1HANGUL FILLER|2l KIYEOK|3SSANGKIYEOK|3KIYEOK-SIOS|3NIEUN|
  3NIEUN-CIEUC|3NIEUN-HIEUH|3TIKEUT|3SSANGTIKEUT|3RIEUL|3RIEUL-KIYEOK|3RIEUL-MIEUM|3RIEUL-PIEUP|
  3RIEUL-SIOS|3RIEUL-THIEUTH|3RIEUL-PHIEUPH|3RIEUL-HIEUH|3MIEUM|3PIEUP|3SSANGPIEUP|3PIEUP-SIOS|
  3SIOS|3SSANGSIOS|3IEUNG|3CIEUC|3SSANGCIEUC|3CHIEUCH|3KHIEUKH|3THIEUTH|3PHIEUPH|3HIEUH|FFC2:3A|3AE|
  3YA|3YAE|3EO|3E|FFCA:3YEO|3YE|3O|3WA|3WAE|3OE|FFD2:3YO|3U|3WEO|3WE|3WI|3YU|FFDA:3EU|3YI|3I|
  FFE0:0FULLWIDTH CENT i|1POUND i|1NOT i|1MACRON|1BROKEN BAR|1YEN i|1WON i|
  FFE8:0HALFWIDTH FORMS li v|1m a|1up a|1g a|1dn a|1u sq|1x ci|FFF9:0INTERLINEAR ANNOTATION ANCHOR|
  2SEPARATOR|2TERMINATOR|0OBJECT REPLACEMENT CHARACTER|0REPLACEMENT CHARACTER"

end Archetype.Text
