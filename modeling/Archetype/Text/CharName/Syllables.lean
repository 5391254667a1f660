/-!
# Names of characters: the syllabaries and letters up to extended Greek

One entry a character, divided by `|`, in the order of the code points: the code point in
hexadecimal and a colon where it does not follow the one before, then the number of words that the
name shares with the start of the name before it, then the other words. An entry with `+n` behind it
stands for `n` more names, in which the number at the end is counted on. One or two small letters
stand for a frequent word.
-/

namespace Archetype.Text

/-- names of the syllabaries and letters up to extended Greek -/
def syllablesNames : String :=
  "1380:0ETHIOPIC SYLLABLE SEBATBEIT MWA|2MWI|2MWEE|2MWE|2SEBATBEIT BWA|2BWI|2BWEE|2BWE|
  2SEBATBEIT FWA|2FWI|2FWEE|2FWE|2SEBATBEIT PWA|2PWI|2PWEE|2PWE|1TONAL mr YIZET|3DERET|3RIKRIK|
  3SHORT RIKRIK|3DIFAT|3KENAT|3CHIRET|3HIDET|3DERET-HIDET|3KURT|13A0:0CHEROKEE l A|2E|2I|2O|2U|2V|
  2GA|2KA|2GE|2GI|2GO|2GU|2GV|2HA|2HE|2HI|2HO|2HU|2HV|2LA|2LE|2LI|2LO|2LU|2LV|2MA|2ME|2MI|2MO|2MU|
  2NA|2HNA|2NAH|2NE|2NI|2NO|2NU|2NV|2QUA|2QUE|2QUI|2QUO|2QUU|2QUV|2SA|2S|2SE|2SI|2SO|2SU|2SV|2DA|
  2TA|2DE|2TE|2DI|2TI|2DO|2DU|2DV|2DLA|2TLA|2TLE|2TLI|2TLO|2TLU|2TLV|2TSA|2TSE|2TSI|2TSO|2TSU|2TSV|
  2WA|2WE|2WI|2WO|2WU|2WV|2YA|2YE|2YI|2YO|2YU|2YV|2MV|13F8:1s l YE|3YI|3YO|3YU|3YV|3MV|
  1400:0CANADIAN SYLLABICS HYPHEN|2E|2AAI|2I|2II|2O|2OO|2Y-CREE OO|2CARRIER EE|3I|2A|2AA|2WE|2we WE|
  2WI|2we WI|2WII|2we WII|2WO|2we WO|2WOO|2we WOO|2NASKAPI WOO|2WA|2we WA|2WAA|2we WAA|2NASKAPI WAA|
  2AI|2Y-CREE W|2GLOTTAL STOP|2n ac|3GRAVE|3BOTTOM ha RING|3TOP ha RING|3r ha RING|3RING|3d ac|
  4SHORT v STROKES|3mi do|3SHORT z k|3pl|3dw TACK|2EN|2IN|2ON|2AN|2PE|2PAAI|2PI|2PII|2PO|2POO|
  2Y-CREE POO|2CARRIER HEE|3HI|2PA|2PAA|2PWE|2we PWE|2PWI|2we PWI|2PWII|2we PWII|2PWO|2we PWO|2PWOO|
  2we PWOO|2PWA|2we PWA|2PWAA|2we PWAA|2Y-CREE PWAA|2P|2we P|2CARRIER H|2TE|2TAAI|2TI|2TII|2TO|2TOO|
  2Y-CREE TOO|2CARRIER DEE|3DI|2TA|2TAA|2TWE|2we TWE|2TWI|2we TWI|2TWII|2we TWII|2tw|2we tw|2TWOO|
  2we TWOO|2TWA|2we TWA|2TWAA|2we TWAA|2NASKAPI TWAA|2T|2TTE|2TTI|2TTO|2TTA|2KE|2KAAI|2KI|2KII|2KO|
  2KOO|2Y-CREE KOO|2KA|2KAA|2KWE|2we KWE|2KWI|2we KWI|2KWII|2we KWII|2KWO|2we KWO|2KWOO|2we KWOO|
  2KWA|2we KWA|2KWAA|2we KWAA|2NASKAPI KWAA|2K|2KW|2SOUTH-SLAVEY KEH|3KIH|3KOH|3KAH|2CE|2CAAI|2CI|
  2CII|2CO|2COO|2Y-CREE COO|2CA|2CAA|2CWE|2we CWE|2CWI|2we CWI|2CWII|2we CWII|2CWO|2we CWO|2CWOO|
  2we CWOO|2CWA|2we CWA|2CWAA|2we CWAA|2NASKAPI CWAA|2C|2SAYISI TH|2ME|2MAAI|2MI|2MII|2MO|2MOO|
  2Y-CREE MOO|2MA|2MAA|2MWE|2we MWE|2MWI|2we MWI|2MWII|2we MWII|2MWO|2we MWO|2MWOO|2we MWOO|2MWA|
  2we MWA|2MWAA|2we MWAA|2NASKAPI MWAA|2M|2we M|2MH|2ATHAPASCAN M|2SAYISI M|2NE|2NAAI|2NI|2NII|2NO|
  2NOO|2Y-CREE NOO|2NA|2NAA|2NWE|2we NWE|2NWA|2we NWA|2NWAA|2we NWAA|2NASKAPI NWAA|2N|2CARRIER NG|
  2NH|2LE|2LAAI|2LI|2LII|2LO|2LOO|2Y-CREE LOO|2LA|2LAA|2LWE|2we LWE|2LWI|2we LWI|2LWII|2we LWII|
  2LWO|2we LWO|2LWOO|2we LWOO|2LWA|2we LWA|2LWAA|2we LWAA|2L|2we L|2me L|2SE|2SAAI|2SI|2SII|2SO|
  2SOO|2Y-CREE SOO|2SA|2SAA|2SWE|2we SWE|2SWI|2we SWI|2SWII|2we SWII|2SWO|2we SWO|2SWOO|2we SWOO|
  2SWA|2we SWA|2SWAA|2we SWAA|2NASKAPI SWAA|2S|2ATHAPASCAN S|2SW|2BLACKFOOT S|2MOOSE-CREE SK|
  2NASKAPI SKW|3S-W|3SPWA|3STWA|3SKWA|3SCWA|2SHE|2SHI|2SHII|2SHO|2SHOO|2SHA|2SHAA|2SHWE|2we SHWE|
  2SHWI|2we SHWI|2SHWII|2we SHWII|2SHWO|2we SHWO|2SHWOO|2we SHWOO|2SHWA|2we SHWA|2SHWAA|2we SHWAA|
  2SH|2YE|2YAAI|2YI|2YII|2YO|2YOO|2Y-CREE YOO|2YA|2YAA|2YWE|2we YWE|2YWI|2we YWI|2YWII|2we YWII|
  2YWO|2we YWO|2YWOO|2we YWOO|2YWA|2we YWA|2YWAA|2we YWAA|2NASKAPI YWAA|2Y|2BIBLE-CREE Y|2we Y|
  2SAYISI YI|2RE|2R-CREE RE|2we LE|2RAAI|2RI|2RII|2RO|2ROO|2we LO|2RA|2RAA|2we LA|2RWAA|2we RWAA|2R|
  2we R|2me R|2FE|2FAAI|2FI|2FII|2FO|2FOO|2FA|2FAA|2FWAA|2we FWAA|2F|2THE|2N-CREE THE|2THI|
  2N-CREE THI|2THII|2N-CREE THII|2THO|2THOO|2THA|2THAA|2THWAA|2we THWAA|2TH|2TTHE|2TTHI|2TTHO|2TTHA|
  2TTH|2TYE|2TYI|2TYO|2TYA|2NUNAVIK HE|3HI|3HII|3HO|3HOO|3HA|3HAA|3H|2NUNAVUT H|2HK|2QAAI|2QI|2QII|
  2QO|2QOO|2QA|2QAA|2Q|2TLHE|2TLHI|2TLHO|2TLHA|2we RE|3RI|3RO|3RA|2NGAAI|2NGI|2NGII|2NGO|2NGOO|2NGA|
  2NGAA|2NG|2NNG|2SAYISI SHE|3SHI|3SHO|3SHA|2WOODS-CREE THE|3THI|3THO|3THA|3TH|2LHI|2LHII|2LHO|
  2LHOO|2LHA|2LHAA|2LH|2TH-CREE THE|3THI|3THII|3THO|3THOO|3THA|3THAA|3TH|2AIVILIK B|2BLACKFOOT E|3I|
  3O|3A|3WE|3WI|3WO|3WA|3NE|3NI|3NO|3NA|3KE|3KI|3KO|3KA|2SAYISI HE|3HI|3HO|3HA|2CARRIER GHU|3GHO|
  3GHE|3GHEE|3GHI|3GHA|3RU|3RO|3RE|3REE|3RI|3RA|3WU|3WO|3WE|3WEE|3WI|3WA|3HWU|3HWO|3HWE|3HWEE|3HWI|
  3HWA|3THU|3THO|3THE|3THEE|3THI|3THA|3TTU|3TTO|3TTE|3TTEE|3TTI|3TTA|3PU|3PO|3PE|3PEE|3PI|3PA|3P|
  3GU|3GO|3GE|3GEE|3GI|3GA|3KHU|3KHO|3KHE|3KHEE|3KHI|3KHA|3KKU|3KKO|3KKE|3KKEE|3KKI|3KKA|3KK|3NU|
  3NO|3NE|3NEE|3NI|3NA|3MU|3MO|3ME|3MEE|3MI|3MA|3YU|3YO|3YE|3YEE|3YI|3YA|3JU|2SAYISI JU|2CARRIER JO|
  3JE|3JEE|3JI|2SAYISI JI|2CARRIER JA|3JJU|3JJO|3JJE|3JJEE|3JJI|3JJA|3LU|3LO|3LE|3LEE|3LI|3LA|3DLU|
  3DLO|3DLE|3DLEE|3DLI|3DLA|3LHU|3LHO|3LHE|3LHEE|3LHI|3LHA|3TLHU|3TLHO|3TLHE|3TLHEE|3TLHI|3TLHA|
  3TLU|3TLO|3TLE|3TLEE|3TLI|3TLA|3ZU|3ZO|3ZE|3ZEE|3ZI|3ZA|3Z|3p Z|3DZU|3DZO|3DZE|3DZEE|3DZI|3DZA|
  3SU|3SO|3SE|3SEE|3SI|3SA|3SHU|3SHO|3SHE|3SHEE|3SHI|3SHA|3SH|3TSU|3TSO|3TSE|3TSEE|3TSI|3TSA|3CHU|
  3CHO|3CHE|3CHEE|3CHI|3CHA|3TTSU|3TTSO|3TTSE|3TTSEE|3TTSI|3TTSA|2CHI i|2FULL STOP|2QAI|2NGAI|2NNGI|
  2NNGII|2NNGO|2NNGOO|2NNGA|2NNGAA|2WOODS-CREE THWEE|3THWI|3THWII|3THWO|3THWOO|3THWA|3THWAA|3n TH|
  2BLACKFOOT W|0OGHAM SPACE mr|1l BEITH|2LUIS|2FEARN|2SAIL|2NION|2UATH|2DAIR|2TINNE|2COLL|2CEIRT|
  2MUIN|2GORT|2NGEADAL|2STRAIF|2RUIS|2AILM|2ONN|2UR|2EADHADH|2IODHADH|2EABHADH|2OR|2UILLEANN|2IFIN|
  2EAMHANCHOLL|2PEITH|1FEATHER mr|1rv FEATHER mr|16A0:0RUNIC l FEHU FEOH FE F|2V|2URUZ UR U|2YR|2Y|
  2W|2THURISAZ THURS THORN|2ETH|2ANSUZ A|2OS O|2AC A|2AESC|2LONG-BRANCH-OSS O|2SHORT-TWIG-OSS O|2O|
  2OE|2ON|2RAIDO RAD REID R|2KAUNA|2CEN|2KAUN K|2G|2ENG|2GEBO GYFU G|2GAR|2WUNJO WYNN W|2HAGLAZ H|
  2HAEGL H|2LONG-BRANCH-HAGALL H|2SHORT-TWIG-HAGALL H|2NAUDIZ NYD NAUD N|2SHORT-TWIG-NAUD N|
  2DOTTED-N|2ISAZ IS ISS I|2E|2JERAN J|2GER|2LONG-BRANCH-AR AE|2SHORT-TWIG-AR A|2IWAZ EOH|
  2PERTHO PEORTH P|2ALGIZ EOLHX|2SOWILO S|2SIGEL LONG-BRANCH-SOL S|2SHORT-TWIG-SOL S|2C|2Z|
  2TIWAZ TIR TYR T|2SHORT-TWIG-TYR T|2D|2BERKANAN BEORC BJARKAN B|2SHORT-TWIG-BJARKAN B|2DOTTED-P|
  2OPEN-P|2EHWAZ EH E|2MANNAZ MAN M|2LONG-BRANCH-MADR M|2SHORT-TWIG-MADR M|2LAUKAZ LAGU LOGR L|
  2DOTTED-L|2INGWAZ|2ING|2DAGAZ DAEG D|2OTHALAN ETHEL O|2EAR|2IOR|2CWEORTH|2CALC|2CEALC|2STAN|
  2LONG-BRANCH-YR|2SHORT-TWIG-YR|2ICELANDIC-YR|2Q|2X|1si pu|1MULTIPLE pu|1CROSS pu|1ARLAUG y|
  1TVIMADUR y|1BELGTHOR y|1l K|2SH|2OO|2FRANKS CASKET OS|4IS|4EH|4AC|4AESC|1700:0TAGALOG l A|2I|2U|
  2KA|2GA|2NGA|2TA|2DA|2NA|2PA|2BA|2MA|2YA|2RA|2LA|2WA|2SA|2HA|1vw i I|3U|1i VIRAMA|2PAMUDPOD|
  171F:1l ARCHAIC RA|0HANUNOO l A|2I|2U|2KA|2GA|2NGA|2TA|2DA|2NA|2PA|2BA|2MA|2YA|2RA|2LA|2WA|2SA|
  2HA|1vw i I|3U|1i PAMUDPOD|0PHILIPPINE si pu|1d pu|1740:0BUHID l A|2I|2U|2KA|2GA|2NGA|2TA|2DA|2NA|
  2PA|2BA|2MA|2YA|2RA|2LA|2WA|2SA|2HA|1vw i I|3U|1760:0TAGBANWA l A|2I|2U|2KA|2GA|2NGA|2TA|2DA|2NA|
  2PA|2BA|2MA|2YA|176E:2LA|2WA|2SA|1772:1vw i I|3U|1780:0KHMER l KA|2KHA|2KO|2KHO|2NGO|2CA|2CHA|2CO|
  2CHO|2NYO|2DA|2TTHA|2DO|2TTHO|2NNO|2TA|2THA|2TO|2THO|2NO|2BA|2PHA|2PO|2PHO|2MO|2YO|2RO|2LO|2VO|
  2SHA|2SSO|2SA|2HA|2LA|2QA|1INDEPENDENT vw QAQ|3QAA|3QI|3QII|3QU|3QUK|3QUU|3QUUV|3RY|3RYY|3LY|3LYY|
  3QE|3QAI|3QOO TYPE on|5tw|3QAU|1vw INHERENT AQ|3AA|2i AA|3I|3II|3Y|3YY|3U|3UU|3UA|3OE|3YA|3IE|3E|
  3AE|3AI|3OO|3AU|1i NIKAHIT|2REAHMUK|2YUUKALEAPINTU|2MUUSIKATOAN|2TRIISAP|2BANTOC|2ROBAT|
  2TOANDAKHIAT|2KAKABAT|2AHSDA|2SAMYOK SANNYA|2VIRIAM|2COENG|2BATHAMASAT|2KHAN|2BARIYOOSAN|
  2CAMNUC PII KUUH|2LEK TOO|2BEYYAL|2PHNAEK MUAN|2KOOMUUT|1CURRENCY y RIEL|1i AVAKRAHASANYA|
  2ATTHACAN|17E0:1dg ZERO|2on|2tw|2h|2fo|2fi|2SIX|2se|2ei|2ni|17F0:1y LEK ATTAK SON|4MUOY|4PII|4BEI|
  4BUON|4PRAM|4PRAM-MUOY|4PRAM-PII|4PRAM-BEI|4PRAM-BUON|1800:0MONGOLIAN BIRGA|1ELLIPSIS|1COMMA|
  1FULL STOP|1COLON|1fo DOTS|1TODO SOFT HYPHEN|1SIBE SYLLABLE BOUNDARY MARKER|1MANCHU COMMA|
  2FULL STOP|1NIRUGU|1FREE VARIATION SELECTOR on|4tw|4h|1vw SEPARATOR|1FREE VARIATION SELECTOR fo|
  1dg ZERO|2on|2tw|2h|2fo|2fi|2SIX|2se|2ei|2ni|1820:1l A|2E|2I|2O|2U|2OE|2UE|2EE|2NA|2ANG|2BA|2PA|
  2QA|2GA|2MA|2LA|2SA|2SHA|2TA|2DA|2CHA|2JA|2YA|2RA|2WA|2FA|2KA|2KHA|2TSA|2ZA|2HAA|2ZRA|2LHA|2ZHI|
  2CHI|2TODO LONG vw i|3E|3I|3O|3U|3OE|3UE|3ANG|3BA|3PA|3QA|3GA|3MA|3TA|3DA|3CHA|3JA|3TSA|3YA|3WA|
  3KA|3GAA|3HAA|3JIA|3NIA|3DZA|2SIBE E|3I|3IY|3UE|3U|3ANG|3KA|3GA|3HA|3PA|3SHA|3TA|3DA|3JA|3FA|3GAA|
  3HAA|3TSA|3ZA|3RAA|3CHA|3ZHA|2MANCHU I|3KA|3RA|3FA|3ZHA|2CHA w tw DOTS|1880:2ALI GALI an on|
  4VISARGA on|4DAMARU|4UBADAMA|4iv UBADAMA|4BALUDA|4h BALUDA|4A|4I|4KA|4NGA|4CA|4TTA|4TTHA|4DDA|
  4NNA|4TA|4DA|4PA|4PHA|4SSA|4ZHA|4ZA|4AH|2TODO ALI GALI TA|5ZHA|2MANCHU ALI GALI GHA|5NGA|5CA|5JHA|
  5TTA|5DDHA|5TA|5DHA|5SSA|5CYA|5ZHA|5ZA|2ALI GALI ha U|5YA|2MANCHU ALI GALI BHA|2ALI GALI DAGALGA|
  2MANCHU ALI GALI LHA|18B0:0CANADIAN SYLLABICS OY|2AY|2AAY|2WAY|2POY|2PAY|2PWOY|2TAY|2KAY|2KWAY|
  2MAY|2NOY|2NAY|2LAY|2SOY|2SAY|2SHOY|2SHAY|2SHWOY|2YOY|2YAY|2RAY|2NWI|2OJIBWAY NWI|2NWII|
  2OJIBWAY NWII|2NWO|2OJIBWAY NWO|2NWOO|2OJIBWAY NWOO|2RWEE|2RWI|2RWII|2RWO|2RWOO|2RWA|2OJIBWAY P|
  3T|3K|3C|3M|3N|3S|3SH|2EASTERN W|2WESTERN W|2n s RING|3RAISED do|2R-CREE RWE|2we LOO|3LAA|2THWE|
  2THWA|2TTHWE|2TTHOO|2TTHAA|2TLHWE|2TLHOO|2SAYISI SHWE|3SHOO|3HOO|2CARRIER GWU|3DENE GEE|3GAA|3GWA|
  2SAYISI JUU|2CARRIER JWA|2BEAVER DENE L|4R|2CARRIER DENTAL S|1900:0LIMBU VOWEL-CARRIER l|1l KA|
  2KHA|2GA|2GHA|2NGA|2CA|2CHA|2JA|2JHA|2YAN|2TA|2THA|2DA|2DHA|2NA|2PA|2PHA|2BA|2BHA|2MA|2YA|2RA|2LA|
  2WA|2SHA|2SSA|2SA|2HA|2GYAN|2TRA|1920:1vw i A|3I|3U|3EE|3AI|3OO|3AU|3E|3O|1SUBJOINED l YA|3RA|3WA|
  1930:1s l KA|3NGA|3an|3TA|3NA|3PA|3MA|3RA|3LA|1i MUKPHRENG|2KEMPHRENG|2SA-I|1940:2LOO|
  1944:1EXCLAMATION mr|1QUESTION mr|1dg ZERO|2on|2tw|2h|2fo|2fi|2SIX|2se|2ei|2ni|0TAI LE l KA|3XA|
  3NGA|3TSA|3SA|3YA|3TA|3THA|3LA|3PA|3PHA|3MA|3FA|3VA|3HA|3QA|3KHA|3TSHA|3NA|3A|3I|3EE|3EH|3U|3OO|
  3O|3UE|3E|3AUE|3AI|1970:3TONE-2+4|1980:0NEW TAI LUE l HIGH QA|4LOW QA|4HIGH KA|5XA|5NGA|4LOW KA|
  5XA|5NGA|4HIGH TSA|5SA|5YA|4LOW TSA|5SA|5YA|4HIGH TA|5THA|5NA|4LOW TA|5THA|5NA|4HIGH PA|5PHA|5MA|
  4LOW PA|5PHA|5MA|4HIGH FA|5VA|5LA|4LOW FA|5VA|5LA|4HIGH HA|5DA|5BA|4LOW HA|5DA|5BA|4HIGH KVA|5XVA|
  4LOW KVA|5XVA|4HIGH SUA|4LOW SUA|19B0:3vw i vw SHORTENER|5AA|5II|5U|5UU|5E|5AE|5O|5OA|5UE|5AY|
  5AAY|5UY|5OY|5OAY|5UEY|5IY|3l n V|5NG|5N|5M|5K|5D|5B|3TONE MARK-1|4MARK-2|19D0:3dg ZERO|4on|4tw|
  4h|4fo|4fi|4SIX|4se|4ei|4ni|3THAM dg on|19DE:3i LAE|4LAEV|0KHMER y PATHAMASAT|2MUOY KOET|
  2PII KOET|2BEI KOET|2BUON KOET|2PRAM KOET|2PRAM-MUOY KOET|2PRAM-PII KOET|2PRAM-BEI KOET|
  2PRAM-BUON KOET|2DAP KOET|2DAP-MUOY KOET|2DAP-PII KOET|2DAP-BEI KOET|2DAP-BUON KOET|
  2DAP-PRAM KOET|2TUTEYASAT|2MUOY ROC|2PII ROC|2BEI ROC|2BUON ROC|2PRAM ROC|2PRAM-MUOY ROC|
  2PRAM-PII ROC|2PRAM-BEI ROC|2PRAM-BUON ROC|2DAP ROC|2DAP-MUOY ROC|2DAP-PII ROC|2DAP-BEI ROC|
  2DAP-BUON ROC|2DAP-PRAM ROC|0BUGINESE l KA|2GA|2NGA|2NGKA|2PA|2BA|2MA|2MPA|2TA|2DA|2NA|2NRA|2CA|
  2JA|2NYA|2NYCA|2YA|2RA|2LA|2VA|2SA|2A|2HA|1vw i I|3U|3E|3O|3AE|1A1E:1PALLAWA|1END OF SECTION|
  0TAI THAM l HIGH KA|4KHA|4KXA|3LOW KA|4KXA|4KHA|3NGA|3HIGH CA|4CHA|3LOW CA|4SA|4CHA|3NYA|3RATA|
  3HIGH RATHA|3DA|3LOW RATHA|3RANA|3HIGH TA|4THA|3LOW TA|4THA|3NA|3BA|3HIGH PA|4PHA|4FA|3LOW PA|4FA|
  4PHA|3MA|3LOW YA|3HIGH YA|3RA|3RUE|3LA|3LUE|3WA|3HIGH SHA|4SSA|4SA|4HA|3LLA|3A|3LOW HA|3I|3II|3U|
  3UU|3EE|3OO|3LAE|3GREAT SA|2CONSONANT i me RA|5LA|4LA TANG LAI|2i MAI KANG LAI|2CONSONANT i n NGA|
  4LOW PA|4HIGH RATHA OR LOW PA|4MA|4BA|4SA|1A60:2i SAKOT|2vw i A|4MAI SAT|4AA|4TALL AA|4I|4II|4UE|
  4UUE|4U|4UU|4O|4OA e|4OY|4E|4AE|4OO|4AI|4THAM AI|4OA b|2i MAI KANG|3TONE-1|3TONE-2|
  3KHUEN TONE-3+2|3RA HAAM|3MAI SAM|3KHUEN-LUE KARAN|1A7F:2co CRYPTOGRAMMIC do|2HORA dg ZERO|4on|
  4tw|4h|4fo|4fi|4SIX|4se|4ei|4ni|1A90:2THAM dg ZERO|4on|4tw|4h|4fo|4fi|4SIX|4se|4ei|4ni|
  1AA0:2i WIANG|3WIANGWAAK|3SAWAN|3KEOW|3HOY|3DOKMAI|3rv ro RANA|3MAI YAMOK|3KAAN|3KAANKUU|3SATKAAN|
  3SATKAANKUU|3HANG|3CAANG|1AB0:0co DOUBLED cc ACCENT|1DIAERESIS-RING|1INFINITY|1dn a|1TRIPLE do|
  1X-X e|1WIGGLY LINE e|1OPEN mr e|1d OPEN mr e|1li CENTRALIZATION k e|1STRONG CENTRALIZATION k e|
  1PARENTHESES b|1d PARENTHESES b|1PARENTHESES e|2OVERLAY|1LATIN s l W e|4tu W e|1t pa b t|
  1r pa b r|1t pa e t|1r pa e r|1sq BRACKETS b|1NUMBER i b|1iv d ARCH b|1pl i b|1d pl i b|4e|
  1TRIPLE ac ACCENT|1LATIN s l INSULAR G|5R|5T|1B00:0BALINESE i ULU RICEM|3CANDRA|2CECEK|2SURANG|
  2BISAH|1l AKARA|3TEDUNG|2IKARA|3TEDUNG|2UKARA|3TEDUNG|2RA REPA|4TEDUNG|2LA LENGA|4TEDUNG|2EKARA|
  2AIKARA|2OKARA|3TEDUNG|2KA|3MAHAPRANA|2GA|3GORA|2NGA|2CA|3LACA|2JA|3JERA|2NYA|2TA LATIK|
  3MURDA MAHAPRANA|2DA MURDA ALPAPRANA|4MAHAPRANA|2NA RAMBAT|2TA|3TAWA|2DA|3MADU|2NA|2PA|3KAPAL|2BA|
  3KEMBANG|2MA|2YA|2RA|2LA|2WA|2SA SAGA|3SAPA|3|2HA|1i REREKAN|1vw i TEDUNG|3ULU|4SARI|3SUKU|4ILUT|
  3RA REPA|5TEDUNG|3LA LENGA|5TEDUNG|3TALING|4REPA|4TEDUNG|4REPA TEDUNG|3PEPET|4TEDUNG|1ADEG ADEG|
  1l KAF SASAK|2KHOT SASAK|2TZIR SASAK|2EF SASAK|2VE SASAK|2ZAL SASAK|2ASYURA SASAK|2ARCHAIC JNYA|
  1B50:1dg ZERO|2on|2tw|2h|2fo|2fi|2SIX|2se|2ei|2ni|1PANTI|1PAMADA|1WINDU|1CARIK PAMUNGKAH|2SIKI|
  2PAREREN|1PAMENENG|1MUSICAL y DONG|3DENG|3DUNG|3DANG|4SURANG|3DING|3DAENG|3DEUNG|3DAING|
  3DANG GEDE|3co TEGEH|4ENDEP|4KEMPUL|4KEMPLI|4JEGOGAN|4KEMPUL w JEGOGAN|4KEMPLI w JEGOGAN|4BENDE|
  4GONG|3RIGHT-HAND OPEN DUG|5DAG|4CLOSED TUK|5TAK|3LEFT-HAND OPEN PANG|5PUNG|4CLOSED PLAK|5PLUK|
  4OPEN PING|1PANTI LANTANG|1PAMADA LANTANG|1B80:0SUNDANESE i PANYECEK|2PANGLAYAR|2PANGWISAD|1l A|
  2I|2U|2AE|2O|2E|2EU|2KA|2QA|2GA|2NGA|2CA|2JA|2ZA|2NYA|2TA|2DA|2NA|2PA|2FA|2VA|2BA|2MA|2YA|2RA|2LA|
  2WA|2SA|2XA|2HA|1CONSONANT i PAMINGKAL|3PANYAKRA|3PANYIKU|1vw i PANGHULU|3PANYUKU|3PANAELAENG|
  3PANOLONG|3PAMEPET|3PANEULEUNG|1i PAMAAEH|2VIRAMA|1CONSONANT i PASANGAN MA|4WA|1l KHA|2SYA|
  1dg ZERO|2on|2tw|2h|2fo|2fi|2SIX|2se|2ei|2ni|1AVAGRAHA|1l REU|2LEU|2BHA|2n K|3M|0BATAK l A|
  2SIMALUNGUN A|2HA|2SIMALUNGUN HA|2MANDAILING HA|2BA|2KARO BA|2PA|2SIMALUNGUN PA|2NA|
  2MANDAILING NA|2WA|2SIMALUNGUN WA|2PAKPAK WA|2GA|2SIMALUNGUN GA|2JA|2DA|2RA|2SIMALUNGUN RA|2MA|
  2SIMALUNGUN MA|2SOUTHERN TA|2NORTHERN TA|2SA|2SIMALUNGUN SA|2MANDAILING SA|2YA|2SIMALUNGUN YA|
  2NGA|2LA|2SIMALUNGUN LA|2NYA|2CA|2NDA|2MBA|2I|2U|1i TOMPI|1vw i E|3PAKPAK E|3EE|3I|3KARO I|3O|
  3KARO O|3U|4FOR SIMALUNGUN SA|1CONSONANT i NG|3H|1PANGOLAT|1PANONGONAN|1BFC:1y BINDU NA METEK|
  3PINARBORAS|3JUDUL|3PANGOLAT|0LEPCHA l KA|2KLA|2KHA|2GA|2GLA|2NGA|2CA|2CHA|2JA|2NYA|2TA|2THA|2DA|
  2NA|2PA|2PLA|2PHA|2FA|2FLA|2BA|2BLA|2MA|2MLA|2TSA|2TSHA|2DZA|2YA|2RA|2LA|2HA|2HLA|2VA|2SA|2SHA|
  2WA|2A|1SUBJOINED l YA|3RA|1vw i AA|3I|3O|3OO|3U|3UU|3E|1CONSONANT i K|3M|3L|3N|3P|3R|3T|3NYIN-DO|
  3KANG|1i RAN|2NUKTA|1C3B:1pu TA-ROL|2NYET THYOOM TA-ROL|2CER-WA|2TSHOOK CER-WA|3|1dg ZERO|2on|2tw|
  2h|2fo|2fi|2SIX|2se|2ei|2ni|1C4D:1l TTA|2TTHA|2DDA|0OL CHIKI dg ZERO|3on|3tw|3h|3fo|3fi|3SIX|3se|
  3ei|3ni|2l LA|3AT|3AG|3ANG|3AL|3LAA|3AAK|3AAJ|3AAM|3AAW|3LI|3IS|3IH|3INY|3IR|3LU|3UC|3UD|3UNN|3UY|
  3LE|3EP|3EDD|3EN|3ERR|3LO|3OTT|3OB|3OV|3OH|2MU TTUDDAG|2GAAHLAA TTUDDAAG|2MU-GAAHLAA TTUDDAAG|
  2RELAA|2PHAARKAA|2AHAD|2pu MUCAAD|3d MUCAAD|0CYRILLIC s l ROUNDED VE|3LONG-LEGGED DE|3NARROW O|
  3WIDE ES|3TALL TE|3THREE-LEGGED TE|3TALL HARD i|4YAT|3UNBLENDED UK|1C90:0GEORGIAN MTAVRULI c l AN|
  4BAN|4GAN|4DON|4EN|4VIN|4ZEN|4TAN|4IN|4KAN|4LAS|4MAN|4NAR|4ON|4PAR|4ZHAR|4RAE|4SAN|4TAR|4UN|4PHAR|
  4KHAR|4GHAN|4QAR|4SHIN|4CHIN|4CAN|4JIL|4CIL|4CHAR|4XAN|4JHAN|4HAE|4HE|4HIE|4WE|4HAR|4HOE|4FI|4YN|
  4ELIFI|4tu GAN|4AIN|1CBD:4AEN|4HARD i|4LABIAL i|0SUNDANESE pu BINDU SURYA|3PANGLONG|3PURNAMA|
  3CAKRA|3LEU SATANGA|3KA SATANGA|3DA SATANGA|3BA SATANGA|1CD0:0VEDIC TONE KARSHANA|2SHARA|2PRENKHA|
  1i NIHSHVASA|2YAJURVEDIC MIDLINE SVARITA|1TONE YAJURVEDIC AGGRAVATED INDEPENDENT SVARITA|
  3INDEPENDENT SVARITA|3KATHAKA INDEPENDENT SVARITA|2CANDRA e|
  2YAJURVEDIC KATHAKA INDEPENDENT SVARITA SCHROEDER|2d SVARITA|2TRIPLE SVARITA|2KATHAKA ANUDATTA|
  2do e|2tw DOTS e|2h DOTS e|2RIGVEDIC KASHMIRI INDEPENDENT SVARITA|
  2ATHARVAVEDIC INDEPENDENT SVARITA|1i VISARGA SVARITA|3UDATTA|2rv VISARGA UDATTA|2VISARGA ANUDATTA|
  2rv VISARGA ANUDATTA|2VISARGA UDATTA w TAIL|3ANUDATTA w TAIL|2an ANTARGOMUKHA|3BAHIRGOMUKHA|
  3VAMAGOMUKHA|4w TAIL|2TIRYAK|2HEXIFORM LONG an|2LONG an|2RTHANG LONG an|2an UBHAYATO MUKHA|
  2ARDHAVISARGA|2ro ARDHAVISARGA|1TONE CANDRA b|1i JIHVAMULIYA|2UPADHMANIYA|2ATIKRAMA|1TONE RING b|
  2d RING b|1i d an ANTARGOMUKHA|1D00:0LATIN l s c A|4AE|1s l tu AE|1l s c BARRED B|4C|4D|4ETH|4E|
  1s l tu OPEN E|4I|1l s c J|4K|4L w k|4M|4rv N|4O|4OPEN O|1s l SIDEWAYS O|4OPEN O|4O w k|3tu OE|
  1l s c OU|1s l TOP ha O|3BOTTOM ha O|1l s c P|4rv R|4tu R|4T|4U|1s l SIDEWAYS U|4DIAERESIZED U|
  4tu M|1l s c V|4W|4Z|4EZH|2VOICED LARYNGEAL SPIRANT|2AIN|0GREEK l s c GAMMA|4LAMDA|4PI|4RHO|4PSI|
  0CYRILLIC l s c EL|0MODIFIER l c A|3AE|3B|3BARRED B|3D|3E|3rv E|3G|3H|3I|3J|3K|3L|3M|3N|3rv N|3O|
  3OU|3P|3R|3T|3U|3W|2s A|3tu A|3ALPHA|3tu AE|3B|3D|3E|3SCHWA|3OPEN E|3tu OPEN E|3G|3tu I|3K|3M|
  3ENG|3O|3OPEN O|3TOP ha O|3BOTTOM ha O|3P|3T|3U|3SIDEWAYS U|3tu M|3V|3AIN|3BETA|3GREEK GAMMA|
  3DELTA|3GREEK PHI|3CHI|0LATIN SUBSCRIPT s l I|4R|4U|4V|0GREEK SUBSCRIPT s l BETA|4GAMMA|4RHO|4PHI|
  4CHI|0LATIN s l UE|3B w mi ti|3D w mi ti|3F w mi ti|3M w mi ti|3N w mi ti|3P w mi ti|3R w mi ti|
  5FISHHOOK j mi ti|3S w mi ti|3T w mi ti|3Z w mi ti|3tu G|0MODIFIER l CYRILLIC EN|
  0LATIN s l INSULAR G|3TH w STRIKETHROUGH|2c l I w k|2l IOTA w k|3P w k|2c l U w k|2l UPSILON w k|
  3B w PALATAL ho|3D w PALATAL ho|3F w PALATAL ho|3G w PALATAL ho|3K w PALATAL ho|3L w PALATAL ho|
  3M w PALATAL ho|3N w PALATAL ho|3P w PALATAL ho|3R w PALATAL ho|3S w PALATAL ho|3ESH w PALATAL ho|
  3V w PALATAL ho|3X w PALATAL ho|3Z w PALATAL ho|3A w re ho|3ALPHA w re ho|3D w ho j TAIL|
  3E w re ho|3OPEN E w re ho|3rv OPEN E w re ho|3SCHWA w re ho|3I w re ho|3OPEN O w re ho|
  3ESH w re ho|3U w re ho|3EZH w re ho|0MODIFIER l s tu ALPHA|3C|4w CURL|3ETH|3rv OPEN E|3F|
  3DOTLESS J w k|3SCRIPT G|3tu H|3I w k|3IOTA|3c I|5w k|3J w CROSSED-TAIL|3L w re ho|5PALATAL ho|
  3c L|3M w ho|3tu M w LONG LEG|3N w t ho|5re ho|3c N|3BARRED O|3PHI|3S w ho|3ESH|3T w PALATAL ho|
  3U BAR|3UPSILON|3c U|3V w ho|3tu V|3Z|4w re ho|5CURL|3EZH|3THETA|0co DOTTED GRAVE ACCENT|
  2ac ACCENT|1SNAKE e|1SUSPENSION mr|1MACRON-ACUTE|1GRAVE-MACRON|1MACRON-GRAVE|1ACUTE-MACRON|
  1GRAVE-ACUTE-GRAVE|1ACUTE-GRAVE-ACUTE|1LATIN s l R e|1BREVE-MACRON|1MACRON-BREVE|1d cc b|
  1OGONEK b|1ZIGZAG e|1IS e|1UR b|1US b|1LATIN s l FLATTENED OPEN A b|4AE|4AO|4AV|4C CEDILLA|
  4INSULAR D|4ETH|4G|2l s c G|2s l K|4L|2l s c L|5M|2s l N|2l s c N|5R|2s l R ROTUNDA|4S|4LONG S|4Z|
  4ALPHA|4B|4BETA|4SCHWA|4F|4L w d mi ti|4O w li CENTRALIZATION k|4P|4ESH|4U w li CENTRALIZATION k|
  4W|4A w di|4O w di|4U w di|1UP TACK b|1KAVYKA b r|3t|1do b t|1WIDE iv BRIDGE e|1do e t|
  1DELETION mr|1d iv BREVE e|1ALMOST eq TO e|1t ar b|1r ar j dw ar e|0LATIN c l A w RING e|
  1s l A w RING e|1c l B w do b|1s l B w do b|1c l B w do e|1s l B w do e|1c l B w LINE e|
  1s l B w LINE e|1c l C w CEDILLA j ac|1s l C w CEDILLA j ac|1c l D w do b|1s l D w do b|
  1c l D w do e|1s l D w do e|1c l D w LINE e|1s l D w LINE e|1c l D w CEDILLA|1s l D w CEDILLA|
  1c l D w cc e|1s l D w cc e|1c l E w MACRON j GRAVE|1s l E w MACRON j GRAVE|1c l E w MACRON j ac|
  1s l E w MACRON j ac|1c l E w cc e|1s l E w cc e|1c l E w ti e|1s l E w ti e|
  1c l E w CEDILLA j BREVE|1s l E w CEDILLA j BREVE|1c l F w do b|1s l F w do b|1c l G w MACRON|
  1s l G w MACRON|1c l H w do b|1s l H w do b|1c l H w do e|1s l H w do e|1c l H w di|1s l H w di|
  1c l H w CEDILLA|1s l H w CEDILLA|1c l H w BREVE e|1s l H w BREVE e|1c l I w ti e|1s l I w ti e|
  1c l I w di j ac|1s l I w di j ac|1c l K w ac|1s l K w ac|1c l K w do e|1s l K w do e|
  1c l K w LINE e|1s l K w LINE e|1c l L w do e|1s l L w do e|1c l L w do e j MACRON|
  1s l L w do e j MACRON|1c l L w LINE e|1s l L w LINE e|1c l L w cc e|1s l L w cc e|1c l M w ac|
  1s l M w ac|1c l M w do b|1s l M w do b|1c l M w do e|1s l M w do e|1c l N w do b|1s l N w do b|
  1c l N w do e|1s l N w do e|1c l N w LINE e|1s l N w LINE e|1c l N w cc e|1s l N w cc e|
  1c l O w ti j ac|1s l O w ti j ac|1c l O w ti j di|1s l O w ti j di|1c l O w MACRON j GRAVE|
  1s l O w MACRON j GRAVE|1c l O w MACRON j ac|1s l O w MACRON j ac|1c l P w ac|1s l P w ac|
  1c l P w do b|1s l P w do b|1c l R w do b|1s l R w do b|1c l R w do e|1s l R w do e|
  1c l R w do e j MACRON|1s l R w do e j MACRON|1c l R w LINE e|1s l R w LINE e|1c l S w do b|
  1s l S w do b|1c l S w do e|1s l S w do e|1c l S w ac j do b|1s l S w ac j do b|
  1c l S w CARON j do b|1s l S w CARON j do b|1c l S w do e j do b|1s l S w do e j do b|
  1c l T w do b|1s l T w do b|1c l T w do e|1s l T w do e|1c l T w LINE e|1s l T w LINE e|
  1c l T w cc e|1s l T w cc e|1c l U w di e|1s l U w di e|1c l U w ti e|1s l U w ti e|1c l U w cc e|
  1s l U w cc e|1c l U w ti j ac|1s l U w ti j ac|1c l U w MACRON j di|1s l U w MACRON j di|
  1c l V w ti|1s l V w ti|1c l V w do e|1s l V w do e|1c l W w GRAVE|1s l W w GRAVE|1c l W w ac|
  1s l W w ac|1c l W w di|1s l W w di|1c l W w do b|1s l W w do b|1c l W w do e|1s l W w do e|
  1c l X w do b|1s l X w do b|1c l X w di|1s l X w di|1c l Y w do b|1s l Y w do b|1c l Z w cc|
  1s l Z w cc|1c l Z w do e|1s l Z w do e|1c l Z w LINE e|1s l Z w LINE e|3H w LINE e|3T w di|
  3W w RING b|3Y w RING b|3A w r ha RING|3LONG S w do b|6DIAGONAL k|6HIGH k|1c l SHARP S|1s l DELTA|
  1c l A w do e|1s l A w do e|1c l A w ho b|1s l A w ho b|1c l A w cc j ac|1s l A w cc j ac|
  1c l A w cc j GRAVE|1s l A w cc j GRAVE|1c l A w cc j ho b|1s l A w cc j ho b|1c l A w cc j ti|
  1s l A w cc j ti|1c l A w cc j do e|1s l A w cc j do e|1c l A w BREVE j ac|1s l A w BREVE j ac|
  1c l A w BREVE j GRAVE|1s l A w BREVE j GRAVE|1c l A w BREVE j ho b|1s l A w BREVE j ho b|
  1c l A w BREVE j ti|1s l A w BREVE j ti|1c l A w BREVE j do e|1s l A w BREVE j do e|1c l E w do e|
  1s l E w do e|1c l E w ho b|1s l E w ho b|1c l E w ti|1s l E w ti|1c l E w cc j ac|
  1s l E w cc j ac|1c l E w cc j GRAVE|1s l E w cc j GRAVE|1c l E w cc j ho b|1s l E w cc j ho b|
  1c l E w cc j ti|1s l E w cc j ti|1c l E w cc j do e|1s l E w cc j do e|1c l I w ho b|
  1s l I w ho b|1c l I w do e|1s l I w do e|1c l O w do e|1s l O w do e|1c l O w ho b|1s l O w ho b|
  1c l O w cc j ac|1s l O w cc j ac|1c l O w cc j GRAVE|1s l O w cc j GRAVE|1c l O w cc j ho b|
  1s l O w cc j ho b|1c l O w cc j ti|1s l O w cc j ti|1c l O w cc j do e|1s l O w cc j do e|
  1c l O w HORN j ac|1s l O w HORN j ac|1c l O w HORN j GRAVE|1s l O w HORN j GRAVE|
  1c l O w HORN j ho b|1s l O w HORN j ho b|1c l O w HORN j ti|1s l O w HORN j ti|
  1c l O w HORN j do e|1s l O w HORN j do e|1c l U w do e|1s l U w do e|1c l U w ho b|1s l U w ho b|
  1c l U w HORN j ac|1s l U w HORN j ac|1c l U w HORN j GRAVE|1s l U w HORN j GRAVE|
  1c l U w HORN j ho b|1s l U w HORN j ho b|1c l U w HORN j ti|1s l U w HORN j ti|
  1c l U w HORN j do e|1s l U w HORN j do e|1c l Y w GRAVE|1s l Y w GRAVE|1c l Y w do e|
  1s l Y w do e|1c l Y w ho b|1s l Y w ho b|1c l Y w ti|1s l Y w ti|1c l MIDDLE-WELSH LL|
  1s l MIDDLE-WELSH LL|1c l MIDDLE-WELSH V|1s l MIDDLE-WELSH V|1c l Y w LOOP|1s l Y w LOOP|
  0GREEK s l ALPHA w PSILI|5DASIA|5PSILI j VARIA|5DASIA j VARIA|5PSILI j OXIA|5DASIA j OXIA|
  5PSILI j pe|5DASIA j pe|1c l ALPHA w PSILI|5DASIA|5PSILI j VARIA|5DASIA j VARIA|5PSILI j OXIA|
  5DASIA j OXIA|5PSILI j pe|5DASIA j pe|1s l EPSILON w PSILI|5DASIA|5PSILI j VARIA|5DASIA j VARIA|
  5PSILI j OXIA|5DASIA j OXIA|1F18:1c l EPSILON w PSILI|5DASIA|5PSILI j VARIA|5DASIA j VARIA|
  5PSILI j OXIA|5DASIA j OXIA|1F20:1s l ETA w PSILI|5DASIA|5PSILI j VARIA|5DASIA j VARIA|
  5PSILI j OXIA|5DASIA j OXIA|5PSILI j pe|5DASIA j pe|1c l ETA w PSILI|5DASIA|5PSILI j VARIA|
  5DASIA j VARIA|5PSILI j OXIA|5DASIA j OXIA|5PSILI j pe|5DASIA j pe|1s l IOTA w PSILI|5DASIA|
  5PSILI j VARIA|5DASIA j VARIA|5PSILI j OXIA|5DASIA j OXIA|5PSILI j pe|5DASIA j pe|
  1c l IOTA w PSILI|5DASIA|5PSILI j VARIA|5DASIA j VARIA|5PSILI j OXIA|5DASIA j OXIA|5PSILI j pe|
  5DASIA j pe|1s l OMICRON w PSILI|5DASIA|5PSILI j VARIA|5DASIA j VARIA|5PSILI j OXIA|5DASIA j OXIA|
  1F48:1c l OMICRON w PSILI|5DASIA|5PSILI j VARIA|5DASIA j VARIA|5PSILI j OXIA|5DASIA j OXIA|
  1F50:1s l UPSILON w PSILI|5DASIA|5PSILI j VARIA|5DASIA j VARIA|5PSILI j OXIA|5DASIA j OXIA|
  5PSILI j pe|5DASIA j pe|1F59:1c l UPSILON w DASIA|1F5B:6j VARIA|1F5D:7OXIA|1F5F:7pe|
  1s l OMEGA w PSILI|5DASIA|5PSILI j VARIA|5DASIA j VARIA|5PSILI j OXIA|5DASIA j OXIA|5PSILI j pe|
  5DASIA j pe|1c l OMEGA w PSILI|5DASIA|5PSILI j VARIA|5DASIA j VARIA|5PSILI j OXIA|5DASIA j OXIA|
  5PSILI j pe|5DASIA j pe|1s l ALPHA w VARIA|5OXIA|3EPSILON w VARIA|5OXIA|3ETA w VARIA|5OXIA|
  3IOTA w VARIA|5OXIA|3OMICRON w VARIA|5OXIA|3UPSILON w VARIA|5OXIA|3OMEGA w VARIA|5OXIA|
  1F80:3ALPHA w PSILI j yp|5DASIA j yp|5PSILI j VARIA j yp|5DASIA j VARIA j yp|5PSILI j OXIA j yp|
  5DASIA j OXIA j yp|5PSILI j pe j yp|5DASIA j pe j yp|1c l ALPHA w PSILI j pr|5DASIA j pr|
  5PSILI j VARIA j pr|5DASIA j VARIA j pr|5PSILI j OXIA j pr|5DASIA j OXIA j pr|5PSILI j pe j pr|
  5DASIA j pe j pr|1s l ETA w PSILI j yp|5DASIA j yp|5PSILI j VARIA j yp|5DASIA j VARIA j yp|
  5PSILI j OXIA j yp|5DASIA j OXIA j yp|5PSILI j pe j yp|5DASIA j pe j yp|1c l ETA w PSILI j pr|
  5DASIA j pr|5PSILI j VARIA j pr|5DASIA j VARIA j pr|5PSILI j OXIA j pr|5DASIA j OXIA j pr|
  5PSILI j pe j pr|5DASIA j pe j pr|1s l OMEGA w PSILI j yp|5DASIA j yp|5PSILI j VARIA j yp|
  5DASIA j VARIA j yp|5PSILI j OXIA j yp|5DASIA j OXIA j yp|5PSILI j pe j yp|5DASIA j pe j yp|
  1c l OMEGA w PSILI j pr|5DASIA j pr|5PSILI j VARIA j pr|5DASIA j VARIA j pr|5PSILI j OXIA j pr|
  5DASIA j OXIA j pr|5PSILI j pe j pr|5DASIA j pe j pr|1s l ALPHA w VRACHY|5MACRON|5VARIA j yp|5yp|
  5OXIA j yp|1FB6:5pe|6j yp|1c l ALPHA w VRACHY|5MACRON|5VARIA|5OXIA|5pr|1KORONIS|1pr|1PSILI|1pe|
  1DIALYTIKA j pe|1s l ETA w VARIA j yp|5yp|5OXIA j yp|1FC6:5pe|6j yp|1c l EPSILON w VARIA|5OXIA|
  3ETA w VARIA|5OXIA|5pr|1PSILI j VARIA|3OXIA|3pe|1s l IOTA w VRACHY|5MACRON|5DIALYTIKA j VARIA|
  7OXIA|1FD6:5pe|5DIALYTIKA j pe|1c l IOTA w VRACHY|5MACRON|5VARIA|5OXIA|1FDD:1DASIA j VARIA|3OXIA|
  3pe|1s l UPSILON w VRACHY|5MACRON|5DIALYTIKA j VARIA|7OXIA|3RHO w PSILI|5DASIA|3UPSILON w pe|
  5DIALYTIKA j pe|1c l UPSILON w VRACHY|5MACRON|5VARIA|5OXIA|3RHO w DASIA|1DIALYTIKA j VARIA|3OXIA|
  1VARIA|1FF2:1s l OMEGA w VARIA j yp|5yp|5OXIA j yp|1FF6:5pe|6j yp|1c l OMICRON w VARIA|5OXIA|
  3OMEGA w VARIA|5OXIA|5pr|1OXIA|1DASIA"

end Archetype.Text
