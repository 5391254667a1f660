/-!
# Names of characters: rare scripts, music, mathematical letters and pictographs

One entry a character, divided by `|`, in the order of the code points: the code point in
hexadecimal and a colon where it does not follow the one before, then the number of words that the
name shares with the start of the name before it, then the other words. An entry with `+n` behind it
stands for `n` more names, in which the number at the end is counted on. One or two small letters
stand for a frequent word.
-/

namespace Archetype.Text

/-- names of rare scripts, music, mathematical letters and pictographs -/
def picturesNames : String :=
  "18800:0TANGUT COMPONENT-001+767|1AFF0:0KATAKANA l MINNAN TONE-2+3|1AFF5:3TONE-7|3TONE-8|
  3NASALIZED TONE-1+4|1AFFD:4TONE-7|4TONE-8|1B000:2ARCHAIC E|0HIRAGANA l ARCHAIC YE|
  0HENTAIGANA l A-1+2|2A-WO|2I-1+3|2U-1+4|2E-2+4|2O-1+2|2KA-1+8|2KA-10|2KA-11|2KA-KE|2KI-1+7|
  2KU-1+6|2KE-1+5|2KO-1+2|2KO-KI|2SA-1+7|2SI-1+5|2SU-1+7|2SE-1+4|2SO-1+6|2TA-1+3|2TI-1+6|2TU-1+3|
  2TU-TO|2TE-1+8|2TO-1+5|2TO-RA|2NA-1+8|2NI-1+6|2NI-TE|2NU-1+2|2NE-1+5|2NE-KO|2NO-1+4|2HA-1+8|
  2HA-10|2HA-11|2HI-1+6|2HU-1+2|2HE-1+6|2HO-1+7|2MA-1+6|2MI-1+6|2MU-1+3|2ME-1|2ME-2|2ME-MA|2MO-1+5|
  2YA-1+4|2YA-YO|2YU-1+3|2YO-1+5|2RA-1+3|2RI-1+6|2RU-1+5|2RE-1+3|2RO-1+5|2WA-1+4|2WI-1+4|2WE-1+3|
  2WO-1+6|2N-MU-MO-1|2N-MU-MO-2|0HIRAGANA l ARCHAIC WU|0KATAKANA l ARCHAIC YI|3YE|3WU|
  1B150:0HIRAGANA l s WI|3WE|3WO|1B164:0KATAKANA l s WI|3WE|3WO|3N|1BC00:0DUPLOYAN l H|2X|2P|2T|2F|
  2K|2L|2B|2D|2V|2G|2R|2P N|2D S|2F N|2K M|2R S|2TH|2SLOAN DH|2DH|2KK|2SLOAN J|2HL|2LH|2RH|2M|2N|2J|
  2S|2M N|2N M|2J M|2S J|2M w do|2N w do|2J w do|4DOTS INSIDE j b|2S w do|5e|2M S|2N S|2J S|2S S|
  2M N S|2N M S|2J M S|2S J S|2J S w do|3N|4S|2S T|4R|3P|4R|2T S|3R S|2W|2WH|2W R|2S N|3M|2K R S|
  2G R S|2S K|4R|2A|2SLOAN OW|2OA|2O|2AOU|2I|2E|2IE|2SHORT I|2UI|2EE|2SLOAN EH|2ROMANIAN I|
  2SLOAN EE|2LONG I|2YE|2U|2EU|2XW|2U N|2LONG U|2ROMANIAN U|2UH|2SLOAN U|2OOH|2OW|2OU|2WA|2WO|2WI|
  2WEI|2WOW|2NASAL U|3O|3I|3A|2PERNIN AN|3AM|2SLOAN EN|3AN|3ON|2vo M|1BC70:1AFFIX t z SECANT|
  2MID z SECANT|2r z SECANT|2LOW v SECANT|2MID v SECANT|2HIGH v SECANT|2ATTACHED SECANT|
  3LEFT-TO-RIGHT SECANT|3TANGENT|3TAIL|3E ho|3I ho|3TANGENT ho|1BC80:2HIGH ac|3TIGHT ac|3GRAVE|
  3LONG GRAVE|3do|3ci|3LINE|3WAVE|3v|1BC90:2LOW ac|3TIGHT ac|3GRAVE|3LONG GRAVE|3do|3ci|3LINE|3WAVE|
  3v|3a|1BC9C:1i O w CROSS|1THICK l SELECTOR|1d mr|1pu CHINOOK FULL STOP|
  0SHORTHAND FORMAT l OVERLAP|2CONTINUING OVERLAP|2dw STEP|2UP STEP|
  1CF00:0ZNAMENNY co mr GORAZDO NIZKO S KRYZHEM ON t|3NIZKO S KRYZHEM ON t|3TSATA ON t|
  3GORAZDO NIZKO ON t|3NIZKO ON t|3SREDNE ON t|3MALO POVYSHE ON t|3POVYSHE ON t|3VYSOKO ON t|
  3MALO POVYSHE S KHOKHLOM ON t|3POVYSHE S KHOKHLOM ON t|3VYSOKO S KHOKHLOM ON t|
  3GORAZDO NIZKO S KRYZHEM ON r|3NIZKO S KRYZHEM ON r|3TSATA ON r|3GORAZDO NIZKO ON r|3NIZKO ON r|
  3SREDNE ON r|3MALO POVYSHE ON r|3POVYSHE ON r|3VYSOKO ON r|3MALO POVYSHE S KHOKHLOM ON r|
  3POVYSHE S KHOKHLOM ON r|3VYSOKO S KHOKHLOM ON r|3TSATA S KRYZHEM|3MALO POVYSHE S KRYZHEM|
  3STRANNO MALO POVYSHE|3POVYSHE S KRYZHEM|4STRANNO|3VYSOKO S KRYZHEM|3MALO POVYSHE STRANNO|
  3GORAZDO VYSOKO|3ZELO|3ON|3RAVNO|3TIKHAYA|3BORZAYA|3UDARKA|3PODVERTKA|3LOMKA|3KUPNAYA|3KACHKA|
  3ZEVOK|3SKOBA|3RAZSEKA|3KRYZH ON t|1CF30:2TONAL RANGE mr MRACHNO|5SVETLO|5TRESVETLO|2mr ZADERZHKA|
  3DEMESTVENNY ZADERZHKA|3OTSECHKA|3PODCHASHIE|4w v k|3CHASHKA|4POLNAYA|3OBLACHKO|3SOROCHYA NOZHKA|
  3TOCHKA|3DVOETOCHIE|2ATTACHING v OMET|2mr CURVED OMET|3KRYZH|2lo TONAL RANGE INDICATOR|
  1PRIZNAK MODIFIER LEVEL-2|3LEVEL-3|3DIRECTION FLIP|3KRYZH|3ROG|1CF50:1NEUME KRYUK|3TIKHY|
  2PARAKLIT|2DVA V CHELNU|2KLYUCH|2ZANOZHEK|2STOPITSA|3S OCHKOM|2PEREVODKA|3NEPOSTOYANNAYA|
  2STOPITSA w SOROCHYA NOZHKA|2CHELYUSTKA|2PALKA|2ZAPYATAYA|2GOLUBCHIK BORZY|3TIKHY|3MRACHNY|
  3SVETLY|3TRESVETLY|2VRAKHIYA PROSTAYA|3MRACHNAYA|3SVETLAYA|3TRESVETLAYA|3KLYUCHEVAYA PROSTAYA|
  4MRACHNAYA|4SVETLAYA|4TRESVETLAYA|2d ZAPYATAYA|2rv CHELYUSTKA|2DERBITSA|2KHAMILO|2CHASHKA|
  2PODCHASHIE|2SKAMEYTSA MRACHNAYA|3SVETLAYA|3TRESVETLAYA|3TIKHAYA|2DEMESTVENNY KLYUCH|
  2SKAMEYTSA KLYUCHEVAYA SVETLAYA|3KLYUCHENEPOSTOYANNAYA|3KLYUCHEVAYA TIKHAYA|
  3DVOECHELNAYA PROSTAYA|4SVETLAYA|4NEPOSTOYANNAYA|4KLYUCHEVAYA|2SLOZHITIE|3S ZAPYATOY|3ZAKRYTOE|
  3S KRYZHEM|2KRYZH|2ROG|2FITA|2KOBYLA|2ZMEYTSA|2STATYA|3S ZAPYATOY|4KRYZHEM|4ZAPYATOY I KRYZHEM|
  4KRYZHEM I ZAPYATOY|3ZAKRYTAYA|4S ZAPYATOY|3S ROGOM|4DVUMYA ZAPYATYMI|4ZAPYATOY I PODCHASHIEM|
  2POLKULIZMY|2STATYA NEPOSTOYANNAYA|2STRELA PROSTAYA|3MRACHNOTIKHAYA|3KRYZHEVAYA|3POLUPOVODNAYA|
  3POVODNAYA|3NEPOSTOYANNAYA|3KLYUCHEPOVODNAYA|3KLYUCHENEPOSTOYANNAYA|3TIKHAYA PUTNAYA|
  3DVOECHELNAYA|3DVOECHELNOKRYZHEVAYA|3DVOECHELNOPOVODNAYA|3DVOECHELNAYA KLYUCHEVAYA|
  3DVOECHELNOPOVODNAYA KLYUCHEVAYA|3GROMNAYA w si ZAPYATAYA|3GROMOPOVODNAYA w si ZAPYATAYA|
  3GROMNAYA|3GROMOPOVODNAYA|4w d ZAPYATAYA|3GROMOKRYZHEVAYA|4POVODNAYA|2MECHIK|3POVODNY|3KLYUCHEVOY|
  3KLYUCHEPOVODNY|3KLYUCHENEPOSTOYANNY|2STRELA TRYASOGLASNAYA|3TRYASOPOVODNAYA|3TRYASOSTRELNAYA|
  2OSOKA|3SVETLAYA|3TRESVETLAYA|3KRYUKOVAYA SVETLAYA|3KLYUCHEVAYA SVETLAYA|4NEPOSTOYANNAYA|
  2STRELA KRYUKOVAYA|4POVODNAYA|4GROMNAYA w si ZAPYATAYA|4GROMOPOVODNAYA w si ZAPYATAYA|4GROMNAYA|
  4GROMOPOVODNAYA|5w d ZAPYATAYA|4GROMOKRYZHEVAYA|5POVODNAYA|4TRYASKA|2KUFISMA|2OBLAKO|2DUDA|2NEMKA|
  2PAUK|1D000:0BYZANTINE MUSICAL y PSILI|3DASEIA|3pe|3OXEIA EKFONITIKON|4DIPLI|3VAREIA EKFONITIKON|
  4DIPLI|3KATHISTI|3SYRMATIKI|3PARAKLITIKI|3YPOKRISIS|4DIPLI|3KREMASTI|3APESO EKFONITIKON|
  3EXO EKFONITIKON|3TELEIA|3KENTIMATA|3APOSTROFOS|4DIPLI|3SYNEVMA|3THITA|3OLIGON ARCHAION|
  3GORGON ARCHAION|3PSILON|3CHAMILON|3VATHY|3ISON ARCHAION|3KENTIMA ARCHAION|3KENTIMATA ARCHAION|
  3SAXIMATA|3PARICHON|3STAVROS APODEXIA|3OXEIAI ARCHAION|3VAREIAI ARCHAION|3APODERMA ARCHAION|
  3APOTHEMA|3KLASMA|3REVMA|3PIASMA ARCHAION|3TINAGMA|3ANATRICHISMA|3SEISMA|3SYNAGMA ARCHAION|
  4META STAVROU|3OYRANISMA ARCHAION|3THEMA|3LEMOI|3DYO|3TRIA|3TESSERA|3KRATIMATA|3APESO EXO NEO|
  3FTHORA ARCHAION|3IMIFTHORA|3TROMIKON ARCHAION|3KATAVA TROMIKON|3PELASTON|3PSIFISTON|3KONTEVMA|
  3CHOREVMA ARCHAION|3RAPISMA|3PARAKALESMA ARCHAION|3PARAKLITIKI ARCHAION|3ICHADIN|3NANA|3PETASMA|
  3KONTEVMA ALLO|3TROMIKON ALLO|3STRAGGISMATA|3GRONTHISMATA|3ISON NEO|3OLIGON NEO|3OXEIA NEO|
  3PETASTI|3KOUFISMA|3PETASTOKOUFISMA|3KRATIMOKOUFISMA|3PELASTON NEO|3KENTIMATA NEO ANO|
  3KENTIMA NEO ANO|3YPSILI|3APOSTROFOS NEO|3APOSTROFOI SYNDESMOS NEO|3YPORROI|3KRATIMOYPORROON|
  3ELAFRON|3CHAMILI|3MIKRON ISON|3VAREIA NEO|3PIASMA NEO|3PSIFISTON NEO|3OMALON|3ANTIKENOMA|
  3LYGISMA|3PARAKLITIKI NEO|3PARAKALESMA NEO|3ETERON PARAKALESMA|3KYLISMA|3ANTIKENOKYLISMA|
  3TROMIKON NEO|3EKSTREPTON|3SYNAGMA NEO|3SYRMA|3CHOREVMA NEO|3EPEGERMA|3SEISMA NEO|3XIRON KLASMA|
  3TROMIKOPSIFISTON|3PSIFISTOLYGISMA|3TROMIKOLYGISMA|3TROMIKOPARAKALESMA|3PSIFISTOPARAKALESMA|
  3TROMIKOSYNAGMA|3PSIFISTOSYNAGMA|3GORGOSYNTHETON|3ARGOSYNTHETON|3ETERON ARGOSYNTHETON|
  3OYRANISMA NEO|3THEMATISMOS ESO|4EXO|3THEMA APLOUN|3THES KAI APOTHES|3KATAVASMA|3ENDOFONON|
  3YFEN KATO|4ANO|3STAVROS|3KLASMA ANO|3DIPLI ARCHAION|3KRATIMA ARCHAION|4ALLO|4NEO|3APODERMA NEO|
  3APLI|3DIPLI|3TRIPLI|3TETRAPLI|3KORONIS|3LEIMMA ENOS CHRONOU|4DYO CHRONON|4TRION CHRONON|
  4TESSARON CHRONON|4IMISEOS CHRONOU|3GORGON NEO ANO|4PARESTIGMENON ARISTERA|5DEXIA|3DIGORGON|
  4PARESTIGMENON ARISTERA KATO|6ANO|5DEXIA|3TRIGORGON|3ARGON|3IMIDIARGON|3DIARGON|3AGOGI POLI ARGI|
  4ARGOTERI|4ARGI|4METRIA|4MESI|4GORGI|4GORGOTERI|4POLI GORGI|3MARTYRIA PROTOS ICHOS|
  4ALLI PROTOS ICHOS|4DEYTEROS ICHOS|4ALLI DEYTEROS ICHOS|4TRITOS ICHOS|4TRIFONIAS|4TETARTOS ICHOS|
  5LEGETOS ICHOS|4LEGETOS ICHOS|4PLAGIOS ICHOS|3ISAKIA TELOUS ICHIMATOS|
  3APOSTROFOI TELOUS ICHIMATOS|3FANEROSIS TETRAFONIAS|4MONOFONIAS|4DIFONIAS|3MARTYRIA VARYS ICHOS|
  4PROTOVARYS ICHOS|4PLAGIOS TETARTOS ICHOS|3GORTHMIKON N APLOUN|5DIPLOUN|3ENARXIS KAI FTHORA VOU|
  3IMIFONON|3IMIFTHORON|3FTHORA ARCHAION DEYTEROU ICHOU|4DIATONIKI PA|5NANA|4NAOS ICHOS|
  4DIATONIKI DI|4SKLIRON DIATONON DI|4DIATONIKI KE|5ZO|5NI KATO|6ANO|4MALAKON CHROMA DIFONIAS|
  6MONOFONIAS|3FHTORA SKLIRON CHROMA VASIS|3FTHORA SKLIRON CHROMA SYNAFI|4NENANO|3CHROA ZYGOS|
  4KLITON|4SPATHI|3FTHORA I YFESIS TETARTIMORION|4ENARMONIOS ANTIFONIA|3YFESIS TRITIMORION|
  3DIESIS TRITIMORION|4TETARTIMORION|4APLI DYO DODEKATA|4MONOGRAMMOS TESSERA DODEKATA|
  4DIGRAMMOS EX DODEKATA|4TRIGRAMMOS OKTO DODEKATA|3YFESIS APLI DYO DODEKATA|
  4MONOGRAMMOS TESSERA DODEKATA|4DIGRAMMOS EX DODEKATA|4TRIGRAMMOS OKTO DODEKATA|3GENIKI DIESIS|
  4YFESIS|3DIASTOLI APLI MIKRI|5MEGALI|4DIPLI|4THESEOS|3SIMANSIS THESEOS|5DISIMOU|5TRISIMOU|
  5TETRASIMOU|4ARSEOS|5DISIMOU|5TRISIMOU|5TETRASIMOU|3DIGRAMMA GG|3DIFTOGGOS OU|3STIGMA|3ARKTIKO PA|
  4VOU|4GA|4DI|4KE|4ZO|4NI|3KENTIMATA NEO MESO|3KENTIMA NEO MESO|3KENTIMATA NEO KATO|
  3KENTIMA NEO KATO|3KLASMA KATO|3GORGON NEO KATO|1D100:0MUSICAL y si BARLINE|2d BARLINE|2n BARLINE|
  2REVERSE n BARLINE|2DASHED BARLINE|2SHORT BARLINE|2t REPEAT i|2r REPEAT i|2REPEAT DOTS|2DAL SEGNO|
  2DA CAPO|2SEGNO|2CODA|2REPEATED FIGURE-1+2|2FERMATA|3e|2BREATH mr|2CAESURA|2BRACE|2br|
  2ONE-LINE STAFF|2TWO-LINE STAFF|2THREE-LINE STAFF|2FOUR-LINE STAFF|2FIVE-LINE STAFF|
  2SIX-LINE STAFF|2SIX-STRING FRETBOARD|2FOUR-STRING FRETBOARD|2G CLEF|4OTTAVA ALTA|5BASSA|2C CLEF|
  2F CLEF|4OTTAVA ALTA|5BASSA|2DRUM CLEF-1|3CLEF-2|1D129:2MULTIPLE MEASURE REST|2d SHARP|3FLAT|
  2FLAT UP|3dw|2NATURAL UP|3dw|2SHARP UP|3dw|2QUARTER TONE SHARP|4FLAT|2COMMON TIME|2CUT TIME|
  2OTTAVA ALTA|3BASSA|2QUINDICESIMA ALTA|3BASSA|2MULTI REST|2WHOLE REST|2ha REST|2QUARTER REST|
  2EIGHTH REST|2SIXTEENTH REST|2THIRTY-SECOND REST|2SIXTY-FOURTH REST|2on hu TWENTY-EIGHTH REST|
  2X NOTEHEAD|2pl NOTEHEAD|2ci X NOTEHEAD|2sq NOTEHEAD x|4u|2tr NOTEHEAD UP x|5u|4t x|5u|4r x|5u|
  4dw x|5u|4UP r x|6u|2MOON NOTEHEAD x|4u|2TRIANGLE-ROUND NOTEHEAD dw x|5u|2pa NOTEHEAD|
  2VOID NOTEHEAD|2NOTEHEAD u|2NULL NOTEHEAD|2CLUSTER NOTEHEAD x|4u|2BREVE|2WHOLE NOTE|2ha NOTE|
  2QUARTER NOTE|2EIGHTH NOTE|2SIXTEENTH NOTE|2THIRTY-SECOND NOTE|2SIXTY-FOURTH NOTE|
  2on hu TWENTY-EIGHTH NOTE|2co STEM|3SPRECHGESANG STEM|3TREMOLO-1+2|2FINGERED TREMOLO-1+2|
  2co AUGMENTATION do|3FLAG-1+4|2BEGIN BEAM|2END BEAM|2BEGIN TIE|2END TIE|2BEGIN SLUR|2END SLUR|
  2BEGIN PHRASE|2END PHRASE|2co ACCENT|3STACCATO|3TENUTO|3STACCATISSIMO|3MARCATO|3MARCATO-STACCATO|
  3ACCENT-STACCATO|3LOURE|2ARPEGGIATO UP|3dw|2co DOIT|3RIP|3FLIP|3SMEAR|3BEND|3d TONGUE|
  3TRIPLE TONGUE|2RINFORZANDO|2SUBITO|2Z|2PIANO|2MEZZO|2FORTE|2CRESCENDO|2DECRESCENDO|
  2GRACE NOTE SLASH|4NO SLASH|2TR|2TURN|2iv TURN|2TURN SLASH|3UP|2or STROKE-1+8|3STROKE-10|
  3STROKE-11|2HAUPTSTIMME|2NEBENSTIMME|2END OF STIMME|2DEGREE SLASH|2co dw BOW|3UP BOW|3HARMONIC|
  3SNAP PIZZICATO|2PEDAL mr|3UP mr|2ha PEDAL mr|2GLISSANDO UP|3dw|2w FINGERNAILS|2DAMP|3ALL|2MAXIMA|
  2LONGA|2BREVIS|2SEMIBREVIS x|3u|2MINIMA|3u|2SEMIMINIMA x|3u|2FUSA x|3u|2LONGA PERFECTA REST|
  3IMPERFECTA REST|2BREVIS REST|2SEMIBREVIS REST|2MINIMA REST|2SEMIMINIMA REST|
  2TEMPUS PERFECTUM CUM PROLATIONE PERFECTA|6IMPERFECTA|6PERFECTA DIMINUTION-1|
  3IMPERFECTUM CUM PROLATIONE PERFECTA|6IMPERFECTA|7DIMINUTION-1+2|2CROIX|2GREGORIAN C CLEF|3F CLEF|
  2sq B|2VIRGA|2PODATUS|2CLIVIS|2SCANDICUS|2CLIMACUS|2TORCULUS|2PORRECTUS|3FLEXUS|2SCANDICUS FLEXUS|
  2TORCULUS RESUPINUS|2PES SUBPUNCTIS|2KIEVAN C CLEF|3END OF PIECE|3n NOTE|3RECITATIVE mr|
  3WHOLE NOTE|3ha NOTE|3QUARTER NOTE STEM dw|6UP|3EIGHTH NOTE STEM dw|6UP|3FLAT i|2SORI|2KORON|
  1D200:0GREEK VOCAL NOTATION SYMBOL-1+8|3SYMBOL-10+14|3SYMBOL-50+4|1INSTRUMENTAL NOTATION SYMBOL-1|
  3SYMBOL-2|3SYMBOL-4|3SYMBOL-5|3SYMBOL-7|3SYMBOL-8|3SYMBOL-11+3|3SYMBOL-17+2|3SYMBOL-23+4|
  3SYMBOL-29|3SYMBOL-30|3SYMBOL-32|3SYMBOL-36+4|3SYMBOL-42|3SYMBOL-43|3SYMBOL-45|3SYMBOL-47+7|
  0co GREEK MUSICAL TRISEME|3TETRASEME|3PENTASEME|0GREEK MUSICAL LEIMMA|1D2E0:0MAYAN NUMERAL ZERO|
  2on|2tw|2h|2fo|2fi|2SIX|2se|2ei|2ni|2TEN|2ELEVEN|2TWELVE|2THIRTEEN|2FOURTEEN|2FIFTEEN|2SIXTEEN|
  2SEVENTEEN|2EIGHTEEN|2NINETEEN|1D300:0MONOGRAM FOR EARTH|0DIGRAM FOR HEAVENLY EARTH|2HUMAN EARTH|
  2EARTHLY HEAVEN|3HUMAN|2EARTH|0TETRAGRAM FOR CENTRE|2FULL ci|2MIRED|2BARRIER|2KEEPING s|
  2CONTRARIETY|2ASCENT|2OPPOSITION|2BRANCHING OUT|2DEFECTIVENESS OR DISTORTION|2DIVERGENCE|
  2YOUTHFULNESS|2INCREASE|2PENETRATION|2REACH|2CONTACT|2HOLDING BACK|2WAITING|2FOLLOWING|2ADVANCE|
  2RELEASE|2RESISTANCE|2EASE|2JOY|2CONTENTION|2ENDEAVOUR|2DUTIES|2CHANGE|2DECISIVENESS|
  2BOLD RESOLUTION|2PACKING|2LEGION|2CLOSENESS|2KINSHIP|2GATHERING|2STRENGTH|2PURITY|2FULLNESS|
  2RESIDENCE|2LAW OR MODEL|2RESPONSE|2GOING TO MEET|2ENCOUNTERS|2STOVE|2GREATNESS|2ENLARGEMENT|
  2PATTERN|2RITUAL|2FLIGHT|2VASTNESS OR WASTING|2CONSTANCY|2MEASURE|2ETERNITY|2UNITY|2DIMINISHMENT|
  2CLOSED MOUTH|2GUARDEDNESS|2GATHERING IN|2MASSING|2ACCUMULATION|2EMBELLISHMENT|2DOUBT|2WATCH|
  2SINKING|2INNER|2DEPARTURE|2DARKENING|2DIMMING|2EXHAUSTION|2SEVERANCE|2STOPPAGE|2HARDNESS|
  2COMPLETION|2CLOSURE|2FAILURE|2AGGRAVATION|2COMPLIANCE|2ON THE VERGE|2DIFFICULTIES|2LABOURING|
  2FOSTERING|1D360:0COUNTING ROD UNIT dg on|4tw|4h|4fo|4fi|4SIX|4se|4ei|4ni|2TENS dg on|4tw|4h|4fo|
  4fi|4SIX|4se|4ei|4ni|0IDEOGRAPHIC TALLY mr on|3tw|3h|3fo|3fi|0TALLY mr on|2fi|
  1D400:0MATHEMATICAL BOLD c A|3B|3C|3D|3E|3F|3G|3H|3I|3J|3K|3L|3M|3N|3O|3P|3Q|3R|3S|3T|3U|3V|3W|3X|
  3Y|3Z|2s A|3B|3C|3D|3E|3F|3G|3H|3I|3J|3K|3L|3M|3N|3O|3P|3Q|3R|3S|3T|3U|3V|3W|3X|3Y|3Z|1ITALIC c A|
  3B|3C|3D|3E|3F|3G|3H|3I|3J|3K|3L|3M|3N|3O|3P|3Q|3R|3S|3T|3U|3V|3W|3X|3Y|3Z|2s A|3B|3C|3D|3E|3F|3G|
  1D456:3I|3J|3K|3L|3M|3N|3O|3P|3Q|3R|3S|3T|3U|3V|3W|3X|3Y|3Z|1BOLD ITALIC c A|4B|4C|4D|4E|4F|4G|4H|
  4I|4J|4K|4L|4M|4N|4O|4P|4Q|4R|4S|4T|4U|4V|4W|4X|4Y|4Z|3s A|4B|4C|4D|4E|4F|4G|4H|4I|4J|4K|4L|4M|4N|
  4O|4P|4Q|4R|4S|4T|4U|4V|4W|4X|4Y|4Z|1SCRIPT c A|1D49E:3C|3D|1D4A2:3G|1D4A5:3J|3K|1D4A9:3N|3O|3P|
  3Q|1D4AE:3S|3T|3U|3V|3W|3X|3Y|3Z|2s A|3B|3C|3D|1D4BB:3F|1D4BD:3H|3I|3J|3K|3L|3M|3N|1D4C5:3P|3Q|3R|
  3S|3T|3U|3V|3W|3X|3Y|3Z|1BOLD SCRIPT c A|4B|4C|4D|4E|4F|4G|4H|4I|4J|4K|4L|4M|4N|4O|4P|4Q|4R|4S|4T|
  4U|4V|4W|4X|4Y|4Z|3s A|4B|4C|4D|4E|4F|4G|4H|4I|4J|4K|4L|4M|4N|4O|4P|4Q|4R|4S|4T|4U|4V|4W|4X|4Y|4Z|
  1FRAKTUR c A|3B|1D507:3D|3E|3F|3G|1D50D:3J|3K|3L|3M|3N|3O|3P|3Q|1D516:3S|3T|3U|3V|3W|3X|3Y|
  1D51E:2s A|3B|3C|3D|3E|3F|3G|3H|3I|3J|3K|3L|3M|3N|3O|3P|3Q|3R|3S|3T|3U|3V|3W|3X|3Y|3Z|
  1DOUBLE-STRUCK c A|3B|1D53B:3D|3E|3F|3G|1D540:3I|3J|3K|3L|3M|1D546:3O|1D54A:3S|3T|3U|3V|3W|3X|3Y|
  1D552:2s A|3B|3C|3D|3E|3F|3G|3H|3I|3J|3K|3L|3M|3N|3O|3P|3Q|3R|3S|3T|3U|3V|3W|3X|3Y|3Z|
  1BOLD FRAKTUR c A|4B|4C|4D|4E|4F|4G|4H|4I|4J|4K|4L|4M|4N|4O|4P|4Q|4R|4S|4T|4U|4V|4W|4X|4Y|4Z|3s A|
  4B|4C|4D|4E|4F|4G|4H|4I|4J|4K|4L|4M|4N|4O|4P|4Q|4R|4S|4T|4U|4V|4W|4X|4Y|4Z|1SANS-SERIF c A|3B|3C|
  3D|3E|3F|3G|3H|3I|3J|3K|3L|3M|3N|3O|3P|3Q|3R|3S|3T|3U|3V|3W|3X|3Y|3Z|2s A|3B|3C|3D|3E|3F|3G|3H|3I|
  3J|3K|3L|3M|3N|3O|3P|3Q|3R|3S|3T|3U|3V|3W|3X|3Y|3Z|2BOLD c A|4B|4C|4D|4E|4F|4G|4H|4I|4J|4K|4L|4M|
  4N|4O|4P|4Q|4R|4S|4T|4U|4V|4W|4X|4Y|4Z|3s A|4B|4C|4D|4E|4F|4G|4H|4I|4J|4K|4L|4M|4N|4O|4P|4Q|4R|4S|
  4T|4U|4V|4W|4X|4Y|4Z|2ITALIC c A|4B|4C|4D|4E|4F|4G|4H|4I|4J|4K|4L|4M|4N|4O|4P|4Q|4R|4S|4T|4U|4V|
  4W|4X|4Y|4Z|3s A|4B|4C|4D|4E|4F|4G|4H|4I|4J|4K|4L|4M|4N|4O|4P|4Q|4R|4S|4T|4U|4V|4W|4X|4Y|4Z|
  2BOLD ITALIC c A|5B|5C|5D|5E|5F|5G|5H|5I|5J|5K|5L|5M|5N|5O|5P|5Q|5R|5S|5T|5U|5V|5W|5X|5Y|5Z|4s A|
  5B|5C|5D|5E|5F|5G|5H|5I|5J|5K|5L|5M|5N|5O|5P|5Q|5R|5S|5T|5U|5V|5W|5X|5Y|5Z|1MONOSPACE c A|3B|3C|
  3D|3E|3F|3G|3H|3I|3J|3K|3L|3M|3N|3O|3P|3Q|3R|3S|3T|3U|3V|3W|3X|3Y|3Z|2s A|3B|3C|3D|3E|3F|3G|3H|3I|
  3J|3K|3L|3M|3N|3O|3P|3Q|3R|3S|3T|3U|3V|3W|3X|3Y|3Z|1ITALIC s DOTLESS I|4J|1D6A8:1BOLD c ALPHA|
  3BETA|3GAMMA|3DELTA|3EPSILON|3ZETA|3ETA|3THETA|3IOTA|3KAPPA|3LAMDA|3MU|3NU|3XI|3OMICRON|3PI|3RHO|
  3THETA y|3SIGMA|3TAU|3UPSILON|3PHI|3CHI|3PSI|3OMEGA|2NABLA|2s ALPHA|3BETA|3GAMMA|3DELTA|3EPSILON|
  3ZETA|3ETA|3THETA|3IOTA|3KAPPA|3LAMDA|3MU|3NU|3XI|3OMICRON|3PI|3RHO|3n SIGMA|3SIGMA|3TAU|3UPSILON|
  3PHI|3CHI|3PSI|3OMEGA|2PARTIAL DIFFERENTIAL|2EPSILON y|2THETA y|2KAPPA y|2PHI y|2RHO y|2PI y|
  1ITALIC c ALPHA|3BETA|3GAMMA|3DELTA|3EPSILON|3ZETA|3ETA|3THETA|3IOTA|3KAPPA|3LAMDA|3MU|3NU|3XI|
  3OMICRON|3PI|3RHO|3THETA y|3SIGMA|3TAU|3UPSILON|3PHI|3CHI|3PSI|3OMEGA|2NABLA|2s ALPHA|3BETA|
  3GAMMA|3DELTA|3EPSILON|3ZETA|3ETA|3THETA|3IOTA|3KAPPA|3LAMDA|3MU|3NU|3XI|3OMICRON|3PI|3RHO|
  3n SIGMA|3SIGMA|3TAU|3UPSILON|3PHI|3CHI|3PSI|3OMEGA|2PARTIAL DIFFERENTIAL|2EPSILON y|2THETA y|
  2KAPPA y|2PHI y|2RHO y|2PI y|1BOLD ITALIC c ALPHA|4BETA|4GAMMA|4DELTA|4EPSILON|4ZETA|4ETA|4THETA|
  4IOTA|4KAPPA|4LAMDA|4MU|4NU|4XI|4OMICRON|4PI|4RHO|4THETA y|4SIGMA|4TAU|4UPSILON|4PHI|4CHI|4PSI|
  4OMEGA|3NABLA|3s ALPHA|4BETA|4GAMMA|4DELTA|4EPSILON|4ZETA|4ETA|4THETA|4IOTA|4KAPPA|4LAMDA|4MU|4NU|
  4XI|4OMICRON|4PI|4RHO|4n SIGMA|4SIGMA|4TAU|4UPSILON|4PHI|4CHI|4PSI|4OMEGA|3PARTIAL DIFFERENTIAL|
  3EPSILON y|3THETA y|3KAPPA y|3PHI y|3RHO y|3PI y|1SANS-SERIF BOLD c ALPHA|4BETA|4GAMMA|4DELTA|
  4EPSILON|4ZETA|4ETA|4THETA|4IOTA|4KAPPA|4LAMDA|4MU|4NU|4XI|4OMICRON|4PI|4RHO|4THETA y|4SIGMA|4TAU|
  4UPSILON|4PHI|4CHI|4PSI|4OMEGA|3NABLA|3s ALPHA|4BETA|4GAMMA|4DELTA|4EPSILON|4ZETA|4ETA|4THETA|
  4IOTA|4KAPPA|4LAMDA|4MU|4NU|4XI|4OMICRON|4PI|4RHO|4n SIGMA|4SIGMA|4TAU|4UPSILON|4PHI|4CHI|4PSI|
  4OMEGA|3PARTIAL DIFFERENTIAL|3EPSILON y|3THETA y|3KAPPA y|3PHI y|3RHO y|3PI y|3ITALIC c ALPHA|
  5BETA|5GAMMA|5DELTA|5EPSILON|5ZETA|5ETA|5THETA|5IOTA|5KAPPA|5LAMDA|5MU|5NU|5XI|5OMICRON|5PI|5RHO|
  5THETA y|5SIGMA|5TAU|5UPSILON|5PHI|5CHI|5PSI|5OMEGA|4NABLA|4s ALPHA|5BETA|5GAMMA|5DELTA|5EPSILON|
  5ZETA|5ETA|5THETA|5IOTA|5KAPPA|5LAMDA|5MU|5NU|5XI|5OMICRON|5PI|5RHO|5n SIGMA|5SIGMA|5TAU|5UPSILON|
  5PHI|5CHI|5PSI|5OMEGA|4PARTIAL DIFFERENTIAL|4EPSILON y|4THETA y|4KAPPA y|4PHI y|4RHO y|4PI y|
  1BOLD c DIGAMMA|2s DIGAMMA|1D7CE:2dg ZERO|3on|3tw|3h|3fo|3fi|3SIX|3se|3ei|3ni|
  1DOUBLE-STRUCK dg ZERO|3on|3tw|3h|3fo|3fi|3SIX|3se|3ei|3ni|1SANS-SERIF dg ZERO|3on|3tw|3h|3fo|3fi|
  3SIX|3se|3ei|3ni|2BOLD dg ZERO|4on|4tw|4h|4fo|4fi|4SIX|4se|4ei|4ni|1MONOSPACE dg ZERO|3on|3tw|3h|
  3fo|3fi|3SIX|3se|3ei|3ni|0SIGNWRITING HAND-FIST in|1HAND-CIRCLE in|1HAND-CUP in|1HAND-OVAL in|
  1HAND-HINGE in|1HAND-ANGLE in|1HAND-FIST in BENT|1HAND-CIRCLE in BENT|
  1HAND-FIST THUMB UNDER in BENT|2in RAISED KNUCKLE|3CUPPED|3HINGED|4LOW|1HAND-CIRCLE in HINGE|
  1HAND-FIST in mi|1HAND-CIRCLE in mi|1HAND-FIST in mi BENT|4RAISED KNUCKLES|4HINGED|3UP mi HINGED|
  3HINGED mi UP|3mi CONJOINED|5in BENT|5mi BENT|5CUPPED|5HINGED|4CROSSED|1HAND-CIRCLE in mi CROSSED|
  1HAND-FIST mi BENT OVER in|2in BENT OVER mi|3mi THUMB|1HAND-CIRCLE in mi THUMB|
  1HAND-FIST in mi STRAIGHT THUMB BENT|4BENT THUMB STRAIGHT|4THUMB BENT|4HINGED SPREAD THUMB SIDE|
  3UP mi HINGED THUMB SIDE|7CONJOINED|3HINGED mi UP THUMB SIDE|3mi UP SPREAD THUMB FORWARD|
  4THUMB CUPPED|5cr|5HOOKED|5HINGED|2THUMB BETWEEN in mi STRAIGHT|2in mi CONJOINED THUMB SIDE|
  7CONJOINED|7BENT|2mi THUMB HOOKED in UP|2in THUMB HOOKED mi UP|3mi CONJOINED HINGED THUMB SIDE|
  4CROSSED THUMB SIDE|4CONJOINED THUMB FORWARD|5CUPPED THUMB FORWARD|2mi THUMB CUPPED in UP|
  2in THUMB CUPPED mi UP|2mi THUMB cr in UP|6HINGED|2in THUMB ANGLED OUT mi UP|5IN mi UP|4cr mi UP|
  3mi THUMB CONJOINED HINGED|5ANGLED OUT|6|2mi THUMB ANGLED OUT in UP|7CROSSED|5in UP|
  2in THUMB HOOKED mi HINGED|1HAND-FLAT fo FINGERS|4BENT|4HINGED|4CONJOINED|5SPLIT|
  1HAND-CLAW fo FINGERS CONJOINED|1HAND-FIST fo FINGERS CONJOINED BENT|
  1HAND-HINGE fo FINGERS CONJOINED|1HAND-FLAT fi FINGERS SPREAD|2HEEL fi FINGERS SPREAD|
  2fi FINGERS SPREAD fo BENT|2HEEL fi FINGERS SPREAD fo BENT|2fi FINGERS SPREAD BENT|
  2HEEL fi FINGERS SPREAD BENT|2fi FINGERS SPREAD THUMB FORWARD|1HAND-CUP fi FINGERS SPREAD|5OPEN|
  1HAND-HINGE fi FINGERS SPREAD OPEN|1HAND-OVAL fi FINGERS SPREAD|
  1HAND-FLAT fi FINGERS SPREAD HINGED|6THUMB SIDE|6NO THUMB|2|2BETWEEN PALM FACINGS|2HEEL|
  2THUMB SIDE|2HEEL THUMB SIDE|2THUMB BENT|3FORWARD|2SPLIT in THUMB SIDE|3CENTRE|4THUMB SIDE|6BENT|
  3LITTLE|1HAND-CLAW|2THUMB SIDE|2NO THUMB|2THUMB FORWARD|1HAND-HOOK CURLICUE|2|1HAND-CUP OPEN|2|
  2OPEN THUMB SIDE|2THUMB SIDE|2OPEN NO THUMB|2NO THUMB|2OPEN THUMB FORWARD|2THUMB FORWARD|
  1HAND-CURLICUE OPEN|2|1HAND-CIRCLE|1HAND-OVAL|2THUMB SIDE|2NO THUMB|2THUMB FORWARD|
  1HAND-HINGE OPEN|3THUMB FORWARD|2|2s|2OPEN THUMB SIDE|2THUMB SIDE|2OPEN NO THUMB|2NO THUMB|
  2THUMB SIDE TOUCHING in|3BETWEEN mi RING|1HAND-ANGLE|1HAND-FIST in mi RING|
  1HAND-CIRCLE in mi RING|1HAND-HINGE in mi RING|1HAND-ANGLE in mi RING|1HAND-HINGE LITTLE|
  1HAND-FIST in mi RING BENT|5CONJOINED|1HAND-HINGE in mi RING CONJOINED|1HAND-FIST LITTLE dw|
  4RIPPLE STRAIGHT|5CURVED|4OTHERS cr|3UP|2THUMB UNDER LITTLE UP|1HAND-CIRCLE LITTLE UP|
  1HAND-OVAL LITTLE UP|1HAND-ANGLE LITTLE UP|1HAND-FIST LITTLE RAISED KNUCKLE|3BENT|3TOUCHES THUMB|
  3THUMB|1HAND-HINGE LITTLE THUMB|1HAND-FIST LITTLE in THUMB|1HAND-HINGE LITTLE in THUMB|
  1HAND-ANGLE LITTLE in THUMB in THUMB OUT|7|1HAND-FIST LITTLE in|1HAND-CIRCLE LITTLE in|
  1HAND-HINGE LITTLE in|1HAND-ANGLE LITTLE in|1HAND-FIST in mi LITTLE|1HAND-CIRCLE in mi LITTLE|
  1HAND-HINGE in mi LITTLE|2RING|1HAND-ANGLE in mi LITTLE|1HAND-FIST in mi CROSS LITTLE|
  1HAND-CIRCLE in mi CROSS LITTLE|1HAND-FIST RING dw|1HAND-HINGE RING dw in THUMB ho mi|
  1HAND-ANGLE RING dw mi THUMB in CROSS|1HAND-FIST RING UP|3RAISED KNUCKLE|3LITTLE|
  1HAND-CIRCLE RING LITTLE|1HAND-OVAL RING LITTLE|1HAND-ANGLE RING LITTLE|1HAND-FIST RING mi|
  4CONJOINED|4RAISED KNUCKLES|3in|3THUMB|1HAND-HOOK RING THUMB|1HAND-FIST in RING LITTLE|
  1HAND-CIRCLE in RING LITTLE|1HAND-CURLICUE in RING LITTLE ON|1HAND-HOOK in RING LITTLE OUT|5IN|
  5UNDER|1HAND-CUP in RING LITTLE|1HAND-HINGE in RING LITTLE|1HAND-ANGLE in RING LITTLE OUT|5|
  1HAND-FIST mi dw|1HAND-HINGE mi|1HAND-FIST mi UP|1HAND-CIRCLE mi UP|1HAND-FIST mi RAISED KNUCKLE|
  3UP THUMB SIDE|1HAND-HOOK mi THUMB|1HAND-FIST mi THUMB LITTLE|3LITTLE|3RING LITTLE|
  1HAND-CIRCLE mi RING LITTLE|1HAND-CURLICUE mi RING LITTLE ON|1HAND-CUP mi RING LITTLE|
  1HAND-HINGE mi RING LITTLE|1HAND-ANGLE mi RING LITTLE OUT|5IN|5|1HAND-CIRCLE mi RING LITTLE BENT|
  1HAND-CLAW mi RING LITTLE CONJOINED|6SIDE|1HAND-HOOK mi RING LITTLE CONJOINED OUT|6IN|6|
  1HAND-HINGE in HINGED|1HAND-FIST in THUMB SIDE|1HAND-HINGE in THUMB SIDE|
  1HAND-FIST in THUMB SIDE THUMB DIAGONAL|6CONJOINED|6BENT|5in BENT|5BOTH BENT|5in HINGE|
  4FORWARD in STRAIGHT|6BENT|4ho|4CURLICUE|4CURVE THUMB INSIDE|
  1HAND-CLAW in THUMB CURVE THUMB INSIDE|1HAND-FIST in THUMB CURVE THUMB UNDER|4ci|
  1HAND-CUP in THUMB|4OPEN|1HAND-HINGE in THUMB OPEN|4LARGE|4|4s|1HAND-ANGLE in THUMB OUT|4IN|4|
  1HAND-FIST THUMB|3HEEL|3SIDE DIAGONAL|4CONJOINED|4BENT|3FORWARD|3BETWEEN in mi|4mi RING|
  4RING LITTLE|3UNDER tw FINGERS|3OVER tw FINGERS|3UNDER h FINGERS|4fo FINGERS|
  3OVER fo RAISED KNUCKLES|2|2HEEL|1TOUCH si|2MULTIPLE|2BETWEEN|1GRASP si|2MULTIPLE|2BETWEEN|
  1STRIKE si|2MULTIPLE|2BETWEEN|1BRUSH si|2MULTIPLE|2BETWEEN|1RUB si|2MULTIPLE|2BETWEEN|
  1SURFACE SYMBOLS|2BETWEEN|1SQUEEZE LARGE si|2s si|2LARGE MULTIPLE|2s MULTIPLE|2SEQUENTIAL|
  1FLICK LARGE si|2s si|2LARGE MULTIPLE|2s MULTIPLE|2SEQUENTIAL|1SQUEEZE FLICK ALTERNATING|
  1MOVEMENT-HINGE UP dw LARGE|4s|3SEQUENTIAL|2dw SEQUENTIAL|2UP dw ALTERNATING LARGE|5s|
  2SIDE TO SIDE SCISSORS|1MOVEMENT-WALLPLANE FINGER CONTACT|1MOVEMENT-FLOORPLANE FINGER CONTACT|
  1MOVEMENT-WALLPLANE si STRAIGHT s|4md|4LARGE|4LARGEST|3WRIST FLEX|2d STRAIGHT|3WRIST FLEX|
  3ALTERNATING|4WRIST FLEX|2CROSS|2TRIPLE STRAIGHT MOVEMENT|3WRIST FLEX|3ALTERNATING|4WRIST FLEX|
  2BEND s|3md|3LARGE|2CORNER s|3md|3LARGE|3ROTATION|2CHECK s|3md|3LARGE|2BOX s|3md|3LARGE|2ZIGZAG s|
  3md|3LARGE|2PEAKS s|3md|3LARGE|1TRAVEL-WALLPLANE ROTATION-WALLPLANE si|3d|3ALTERNATING|
  2ROTATION-FLOORPLANE si|3d|3ALTERNATING|2SHAKING|2ARM SPIRAL si|4d|4TRIPLE|
  1MOVEMENT-DIAGONAL AWAY s|3md|3LARGE|3LARGEST|2TOWARDS s|3md|3LARGE|3LARGEST|2BETWEEN AWAY s|4md|
  4LARGE|4LARGEST|3TOWARDS s|4md|4LARGE|4LARGEST|1MOVEMENT-FLOORPLANE si STRAIGHT s|4md|4LARGE|
  4LARGEST|3WRIST FLEX|2d STRAIGHT|3WRIST FLEX|3ALTERNATING|4WRIST FLEX|2CROSS|
  2TRIPLE STRAIGHT MOVEMENT|3WRIST FLEX|3ALTERNATING MOVEMENT|4WRIST FLEX|2BEND|2CORNER s|3md|
  3LARGE|2CHECK|2BOX s|3md|3LARGE|2ZIGZAG s|3md|3LARGE|2PEAKS s|3md|3LARGE|
  1TRAVEL-FLOORPLANE ROTATION-FLOORPLANE si|3d|3ALTERNATING|2ROTATION-WALLPLANE si|3d|3ALTERNATING|
  2SHAKING|1MOVEMENT-WALLPLANE CURVE QUARTER s|4md|4LARGE|4LARGEST|3HALF-CIRCLE s|4md|4LARGE|
  4LARGEST|3THREE-QUARTER ci s|5md|2HUMP s|3md|3LARGE|2LOOP s|3md|3LARGE|3s d|2WAVE CURVE d s|5md|
  5LARGE|4TRIPLE s|5md|5LARGE|2CURVE THEN STRAIGHT|2CURVED CROSS s|4md|1ROTATION-WALLPLANE si|2d|
  2ALTERNATE|1MOVEMENT-WALLPLANE SHAKING|2CURVE HITTING FRONT WALL|2HUMP HITTING FRONT WALL|
  2LOOP HITTING FRONT WALL|2WAVE HITTING FRONT WALL|1ROTATION-WALLPLANE si HITTING FRONT WALL|
  2d HITTING FRONT WALL|2ALTERNATING HITTING FRONT WALL|1MOVEMENT-WALLPLANE CURVE HITTING CHEST|
  2HUMP HITTING CHEST|2LOOP HITTING CHEST|2WAVE HITTING CHEST|1ROTATION-WALLPLANE si HITTING CHEST|
  2d HITTING CHEST|2ALTERNATING HITTING CHEST|1MOVEMENT-WALLPLANE WAVE DIAGONAL PATH s|5md|5LARGE|
  1MOVEMENT-FLOORPLANE CURVE HITTING CEILING s|5LARGE|2HUMP HITTING CEILING s d|5LARGE d|5s TRIPLE|
  5LARGE TRIPLE|2LOOP HITTING CEILING s si|5LARGE si|5s d|5LARGE d|2WAVE HITTING CEILING s|5LARGE|
  1ROTATION-FLOORPLANE si HITTING CEILING|2d HITTING CEILING|2ALTERNATING HITTING CEILING|
  1MOVEMENT-FLOORPLANE CURVE HITTING FLOOR s|5LARGE|2HUMP HITTING FLOOR s d|5LARGE d|
  5TRIPLE s TRIPLE|6LARGE TRIPLE|2LOOP HITTING FLOOR s si|5LARGE si|5s d|5LARGE d|
  2WAVE HITTING FLOOR s|5LARGE|1ROTATION-FLOORPLANE si HITTING FLOOR|2d HITTING FLOOR|
  2ALTERNATING HITTING FLOOR|1MOVEMENT-FLOORPLANE CURVE s|3md|3LARGE|3LARGEST|3COMBINED|2HUMP s|
  2LOOP s|2WAVE SNAKE|3s|3LARGE|1ROTATION-FLOORPLANE si|2d|2ALTERNATING|
  1MOVEMENT-FLOORPLANE SHAKING PARALLEL|1MOVEMENT-WALLPLANE ARM ci s si|4md si|4s d|4md d|
  1MOVEMENT-FLOORPLANE ARM ci HITTING WALL s si|6md si|6LARGE si|6s d|6md d|6LARGE d|
  1MOVEMENT-WALLPLANE WRIST ci FRONT si|5d|1MOVEMENT-FLOORPLANE WRIST ci HITTING WALL si|6d|
  1MOVEMENT-WALLPLANE FINGER CIRCLES si|4d|1MOVEMENT-FLOORPLANE FINGER CIRCLES HITTING WALL si|6d|
  1DYNAMIC ar s|3LARGE|2FAST|2SLOW|2TENSE|2RELAXED|2SIMULTANEOUS|3ALTERNATING|2EVERY OTHER TIME|
  2GRADUAL|1HEAD|2RIM|2MOVEMENT-WALLPLANE STRAIGHT|3TILT|2MOVEMENT-FLOORPLANE STRAIGHT|
  2MOVEMENT-WALLPLANE CURVE|2MOVEMENT-FLOORPLANE CURVE|2MOVEMENT ci|
  1FACE DIRECTION POSITION NOSE FORWARD TILTING|5UP OR dw|8TILTING|1EYEBROWS STRAIGHT UP|3NEUTRAL|
  3dw|1DREAMY EYEBROWS NEUTRAL dw|3dw NEUTRAL|3UP NEUTRAL|3NEUTRAL UP|1FOREHEAD NEUTRAL|2CONTACT|
  2WRINKLED|1EYES OPEN|2SQUEEZED|2CLOSED|1EYE BLINK si|3MULTIPLE|1EYES ha OPEN|2WIDE OPEN|
  2ha CLOSED|2WIDENING MOVEMENT|1EYE WINK|1EYELASHES UP|2dw|2FLUTTERING|1EYEGAZE-WALLPLANE STRAIGHT|
  3d|3ALTERNATING|1EYEGAZE-FLOORPLANE STRAIGHT|3d|3ALTERNATING|1EYEGAZE-WALLPLANE CURVED|
  1EYEGAZE-FLOORPLANE CURVED|1EYEGAZE-WALLPLANE CIRCLING|1CHEEKS PUFFED|2NEUTRAL|2SUCKED|
  1TENSE CHEEKS HIGH|3mi|3LOW|1EARS|1NOSE NEUTRAL|2CONTACT|2WRINKLES|2WIGGLES|1AIR BLOWING OUT|
  2SUCKING IN|2BLOW s ROTATIONS|2SUCK s ROTATIONS|1BREATH INHALE|2EXHALE|1MOUTH CLOSED NEUTRAL|
  3FORWARD|3CONTACT|2SMILE|3WRINKLED|3OPEN|2FROWN|3WRINKLED|3OPEN|2OPEN ci|3FORWARD|3WRINKLED|3OVAL|
  4WRINKLED|4YAWN|3RECTANGLE|4WRINKLED|4YAWN|2KISS|3FORWARD|3WRINKLED|2TENSE|3FORWARD|3SUCKED|
  1LIPS PRESSED TOGETHER|1LIP lo OVER UPPER|2UPPER OVER lo|1MOUTH CORNERS|2WRINKLES si|3d|
  1TONGUE STICKING OUT FAR|2LICKING LIPS|2TIP BETWEEN LIPS|3TOUCHING INSIDE MOUTH|
  2INSIDE MOUTH RELAXED|2MOVES AGAINST CHEEK|2CENTRE STICKING OUT|3INSIDE MOUTH|1TEETH|2MOVEMENT|
  2ON TONGUE|4MOVEMENT|3LIPS|4MOVEMENT|2BITE LIPS|1MOVEMENT-WALLPLANE JAW|1MOVEMENT-FLOORPLANE JAW|
  1NECK|1HAIR|1EXCITEMENT|1SHOULDER HIP SPINE|3POSITIONS|1WALLPLANE SHOULDER HIP MOVE|
  1FLOORPLANE SHOULDER HIP MOVE|1SHOULDER TILTING FROM WAIST|1TORSO-WALLPLANE STRAIGHT STRETCH|
  2CURVED BEND|1TORSO-FLOORPLANE TWISTING|1UPPER BODY TILTING FROM HIP JOINTS|1LIMB COMBINATION|
  2LENGTH-1+6|1FINGER|1LOCATION-WALLPLANE SPACE|1LOCATION-FLOORPLANE SPACE|1LOCATION HEIGHT|2WIDTH|
  2DEPTH|2HEAD NECK|2TORSO|2LIMBS DIGITS|1COMMA|1FULL STOP|1SEMICOLON|1COLON|1pa|
  1DA9B:1FILL MODIFIER-2+4|1DAA1:1ROTATION MODIFIER-2+7|2MODIFIER-10+6|
  1DF00:0LATIN s l FENG DIGRAPH w TRILL|3rv SCRIPT G|1l s c tu G|1s l rv K|1l s c L w BELT|
  1s l LEZH w re ho|3tu Y w BELT|3rv ENG|3tu R w LONG LEG j re ho|3T w ho j re ho|
  1l re CLICK w re ho|1s l ESH w d BAR|7j CURL|3tu T w CURL|1l iv GLOTTAL STOP w CURL|
  2STRETCHED C w CURL|2s c tu K|1s l L w FISHHOOK|3DEZH DIGRAPH w PALATAL ho|3L w BELT j PALATAL ho|
  3ENG w PALATAL ho|3tu R w PALATAL ho|3R w FISHHOOK j PALATAL ho|3TESH DIGRAPH w PALATAL ho|
  3EZH w PALATAL ho|3DEZH DIGRAPH w re ho|3I w k j re ho|3O w re ho|3TESH DIGRAPH w re ho|
  3C w re ho|3S w CURL|1E000:0co GLAGOLITIC l AZU|3BUKY|3VEDE|3GLAGOLI|3DOBRO|3YESTU|3ZHIVETE|
  1E008:3ZEMLJA|3IZHE|3p IZHE|3I|3DJERVI|3KAKO|3LJUDIJE|3MYSLITE|3NASHI|3ONU|3POKOJI|3RITSI|3SLOVO|
  3TVRIDO|3UKU|3FRITU|3HERU|1E01B:3SHTA|3TSI|3CHRIVI|3SHA|3YERU|3YERI|3YATI|1E023:3YU|3s YUS|
  1E026:3YO|3IOTATED s YUS|3BIG YUS|3IOTATED BIG YUS|3FITA|1E100:0NYIAKENG PUACHUE HMONG l MA|4TSA|
  4NTA|4TA|4HA|4NA|4XA|4NKA|4CA|4LA|4SA|4ZA|4NCA|4NTSA|4KA|4DA|4NYA|4NRA|4VA|4NTXA|4TXA|4FA|4RA|4QA|
  4YA|4NQA|4PA|4XYA|4NPA|4DLA|4NPLA|4HAH|4MLA|4PLA|4GA|4RRA|4A|4AA|4I|4U|4O|4OO|4E|4EE|4W|
  1E130:3TONE-B|3TONE-M|3TONE-J|3TONE-V|3TONE-S|3TONE-G|3TONE-D|3i FOR PERSON|5THING|5LOCATION|
  5ANIMAL|5INVERTEBRATE|4XW XW|3SYLLABLE LENGTHENER|1E140:3dg ZERO|4on|4tw|4h|4fo|4fi|4SIX|4se|4ei|
  4ni|1E14E:3LOGOGRAM NYAJ|3cr CA|1E290:0TOTO l PA|2BA|2TA|2DA|2KA|2GA|2MA|2NA|2NGA|2SA|2CHA|2YA|
  2WA|2JA|2HA|2RA|2LA|2I|2BREATHY I|2IU|2BREATHY IU|2U|2E|2BREATHY E|2EO|2BREATHY EO|2O|2AE|
  2BREATHY AE|2A|1i RISING TONE|1E2C0:0WANCHO l AA|2A|2BA|2CA|2DA|2GA|2YA|2PHA|2LA|2NA|2PA|2TA|2THA|
  2FA|2SA|2SHA|2JA|2ZA|2WA|2VA|2KA|2O|2AU|2RA|2MA|2KHA|2HA|2E|2I|2NGA|2U|2LLHA|2TSA|2TRA|2ONG|2AANG|
  2ANG|2ING|2ON|2EN|2AAN|2NYA|2UEN|2YIH|1TONE TUP|2TUPNI|2KOI|2KOINI|1dg ZERO|2on|2tw|2h|2fo|2fi|
  2SIX|2se|2ei|2ni|1E2FF:1NGUN i|1E7E0:0ETHIOPIC SYLLABLE HHYA|2HHYU|2HHYI|2HHYAA|2HHYEE|2HHYE|
  2HHYO|1E7E8:2GURAGE HHWA|2HHWI|2HHWEE|2HHWE|1E7ED:2GURAGE MWI|3MWEE|1E7F0:3QWI|3QWEE|3QWE|3BWI|
  3BWEE|3KWI|3KWEE|3KWE|3GWI|3GWEE|3GWE|3FWI|3FWEE|3PWI|3PWEE|1E800:0MENDE KIKAKUI SYLLABLE M001 KI|
  3M002 KA|3M003 KU|3M065 KEE|3M095 KE|3M076 KOO|3M048 KO|3M179 KUA|3M004 WI|3M005 WA|3M006 WU|
  3M126 WEE|3M118 WE|3M114 WOO|3M045 WO|3M194 WUI|3M143 WEI|3M061 WVI|3M049 WVA|3M139 WVE|3M007 MIN|
  3M008 MAN|3M009 MUN|3M059 MEN|3M094 MON|3M154 MUAN|3M189 MUEN|3M010 BI|3M011 BA|3M012 BU|
  3M150 BEE|3M097 BE|3M103 BOO|3M138 BO|3M013 I|3M014 A|3M015 U|3M163 EE|3M100 E|3M165 OO|3M147 O|
  3M137 EI|3M131 IN|3M135 IN|3M195 AN|3M178 EN|3M019 SI|3M020 SA|3M021 SU|3M162 SEE|3M116 SE|
  3M136 SOO|3M079 SO|3M196 SIA|3M025 LI|3M026 LA|3M027 LU|3M084 LEE|3M073 LE|3M054 LOO|3M153 LO|
  3M110 LONG LE|3M016 DI|3M017 DA|3M018 DU|3M089 DEE|3M180 DOO|3M181 DO|3M022 TI|3M023 TA|3M024 TU|
  3M091 TEE|3M055 TE|3M104 TOO|3M069 TO|3M028 JI|3M029 JA|3M030 JU|3M157 JEE|3M113 JE|3M160 JOO|
  3M063 JO|3M175 LONG JO|3M031 YI|3M032 YA|3M033 YU|3M109 YEE|3M080 YE|3M141 YOO|3M121 YO|3M034 FI|
  3M035 FA|3M036 FU|3M078 FEE|3M075 FE|3M133 FOO|3M088 FO|3M197 FUA|3M101 FAN|3M037 NIN|3M038 NAN|
  3M039 NUN|3M117 NEN|3M169 NON|3M176 HI|3M041 HA|3M186 HU|3M040 HEE|3M096 HE|3M042 HOO|3M140 HO|
  3M083 HEEI|3M128 HOOU|3M053 HIN|3M130 HAN|3M087 HUN|3M052 HEN|3M193 HON|3M046 HUAN|3M090 NGGI|
  3M043 NGGA|3M082 NGGU|3M115 NGGEE|3M146 NGGE|3M156 NGGOO|3M120 NGGO|3M159 NGGAA|3M127 NGGUA|
  3M086 LONG NGGE|3M106 LONG NGGOO|3M183 LONG NGGO|3M155 GI|3M111 GA|3M168 GU|3M190 GEE|3M166 GUEI|
  3M167 GUAN|3M184 NGEN|3M057 NGON|3M177 NGUAN|3M068 PI|3M099 PA|3M050 PU|3M081 PEE|3M051 PE|
  3M102 POO|3M066 PO|3M145 MBI|3M062 MBA|3M122 MBU|3M047 MBEE|3M188 MBEE|3M072 MBE|3M172 MBOO|
  3M174 MBO|3M187 MBUU|3M161 LONG MBE|3M105 LONG MBOO|3M142 LONG MBO|3M132 KPI|3M092 KPA|3M074 KPU|
  3M044 KPEE|3M108 KPE|3M112 KPOO|3M158 KPO|3M124 GBI|3M056 GBA|3M148 GBU|3M093 GBEE|3M107 GBE|
  3M071 GBOO|3M070 GBO|3M171 RA|3M123 NDI|3M129 NDA|3M125 NDU|3M191 NDEE|3M119 NDE|3M067 NDOO|
  3M064 NDO|3M152 NJA|3M192 NJU|3M149 NJEE|3M134 NJOO|3M182 VI|3M185 VA|3M151 VU|3M173 VEE|3M085 VE|
  3M144 VOO|3M077 VO|3M164 NYIN|3M058 NYAN|3M170 NYUN|3M098 NYEN|3M060 NYON|1E8C7:2dg on|3tw|3h|3fo|
  3fi|3SIX|3se|3ei|3ni|2co NUMBER TEENS|4TENS|4HUNDREDS|4THOUSANDS|4TEN THOUSANDS|4hu THOUSANDS|
  4MILLIONS|1E900:0ADLAM c l ALIF|3DAALI|3LAAM|3MIIM|3BA|3SINNYIIYHE|3PE|3BHE|3RA|3E|3FA|3I|3O|3DHA|
  3YHE|3WAW|3NUN|3KAF|3YA|3U|3JIIM|3CHI|3HA|3QAAF|3GA|3NYA|3TU|3NHA|3VA|3KHA|3GBE|3ZAL|3KPO|3SHA|
  1s l ALIF|3DAALI|3LAAM|3MIIM|3BA|3SINNYIIYHE|3PE|3BHE|3RA|3E|3FA|3I|3O|3DHA|3YHE|3WAW|3NUN|3KAF|
  3YA|3U|3JIIM|3CHI|3HA|3QAAF|3GA|3NYA|3TU|3NHA|3VA|3KHA|3GBE|3ZAL|3KPO|3SHA|1ALIF LENGTHENER|
  1vw LENGTHENER|1GEMINATION mr|1HAMZA|1CONSONANT MODIFIER|1GEMINATE CONSONANT MODIFIER|1NUKTA|
  1NASALIZATION mr|1E950:1dg ZERO|2on|2tw|2h|2fo|2fi|2SIX|2se|2ei|2ni|1E95E:1p EXCLAMATION mr|
  2QUESTION mr|1EC71:0INDIC SIYAQ NUMBER on|3tw|3h|3fo|3fi|3SIX|3se|3ei|3ni|3TEN|3TWENTY|3THIRTY|
  3FORTY|3FIFTY|3SIXTY|3SEVENTY|3EIGHTY|3NINETY|3on hu|3tw hu|3h hu|3fo hu|3fi hu|3SIX hu|3se hu|
  3ei hu|3ni hu|3on th|3tw th|3h th|3fo th|3fi th|3SIX th|3se th|3ei th|3ni th|3TEN th|3TWENTY th|
  3THIRTY th|3FORTY th|3FIFTY th|3SIXTY th|3SEVENTY th|3EIGHTY th|3NINETY th|3LAKH|3LAKHAN|2LAKH mr|
  2NUMBER KAROR|3KARORAN|3PREFIXED on|4tw|4h|4fo|4fi|4SIX|4se|4ei|4ni|2PLACEHOLDER|
  2FRACTION on QUARTER|4ha|3h QUARTERS|2RUPEE mr|2NUMBER ALTERNATE on|4tw|4TEN th|
  2ALTERNATE LAKH mr|1ED01:0OTTOMAN SIYAQ NUMBER on|3tw|3h|3fo|3fi|3SIX|3se|3ei|3ni|3TEN|3TWENTY|
  3THIRTY|3FORTY|3FIFTY|3SIXTY|3SEVENTY|3EIGHTY|3NINETY|3on hu|3tw hu|3h hu|3fo hu|3fi hu|3SIX hu|
  3se hu|3ei hu|3ni hu|3on th|3tw th|3h th|3fo th|3fi th|3SIX th|3se th|3ei th|3ni th|3TEN th|
  3TWENTY th|3THIRTY th|3FORTY th|3FIFTY th|3SIXTY th|3SEVENTY th|3EIGHTY th|3NINETY th|2MARRATAN|
  2ALTERNATE NUMBER tw|4h|4fo|4fi|4SIX|4se|4ei|4ni|4TEN|4fo hu|4SIX hu|4tw th|4TEN th|
  2FRACTION on ha|4SIXTH|1EE00:0ARABIC MATHEMATICAL ALEF|2BEH|2JEEM|2DAL|1EE05:2WAW|2ZAIN|2HAH|2TAH|
  2YEH|2KAF|2LAM|2mm|2NOON|2SEEN|2AIN|2FEH|2SAD|2QAF|2REH|2SHEEN|2TEH|2THEH|2KHAH|2THAL|2DAD|2ZAH|
  2GHAIN|2DOTLESS BEH|3NOON|3FEH|3QAF|1EE21:2p BEH|3JEEM|1EE24:3HEH|1EE27:3HAH|1EE29:3YEH|3KAF|3LAM|
  3mm|3NOON|3SEEN|3AIN|3FEH|3SAD|3QAF|1EE34:3SHEEN|3TEH|3THEH|3KHAH|1EE39:3DAD|1EE3B:3GHAIN|
  1EE42:2TAILED JEEM|1EE47:3HAH|1EE49:3YEH|1EE4B:3LAM|1EE4D:3NOON|3SEEN|3AIN|1EE51:3SAD|3QAF|
  1EE54:3SHEEN|1EE57:3KHAH|1EE59:3DAD|1EE5B:3GHAIN|1EE5D:3DOTLESS NOON|1EE5F:4QAF|
  1EE61:2STRETCHED BEH|3JEEM|1EE64:3HEH|1EE67:3HAH|3TAH|3YEH|3KAF|1EE6C:3mm|3NOON|3SEEN|3AIN|3FEH|
  3SAD|3QAF|1EE74:3SHEEN|3TEH|3THEH|3KHAH|1EE79:3DAD|3ZAH|3GHAIN|3DOTLESS BEH|1EE7E:4FEH|
  1EE80:2LOOPED ALEF|3BEH|3JEEM|3DAL|3HEH|3WAW|3ZAIN|3HAH|3TAH|3YEH|1EE8B:3LAM|3mm|3NOON|3SEEN|3AIN|
  3FEH|3SAD|3QAF|3REH|3SHEEN|3TEH|3THEH|3KHAH|3THAL|3DAD|3ZAH|3GHAIN|1EEA1:2DOUBLE-STRUCK BEH|3JEEM|
  3DAL|1EEA5:3WAW|3ZAIN|3HAH|3TAH|3YEH|1EEAB:3LAM|3mm|3NOON|3SEEN|3AIN|3FEH|3SAD|3QAF|3REH|3SHEEN|
  3TEH|3THEH|3KHAH|3THAL|3DAD|3ZAH|3GHAIN|1EEF0:2OPERATOR mm w HAH w TATWEEL|3HAH w DAL|
  1F000:0MAHJONG TILE EAST WIND|2SOUTH WIND|2WEST WIND|2NORTH WIND|2RED DRAGON|2GREEN DRAGON|
  2x DRAGON|2on OF CHARACTERS|2tw OF CHARACTERS|2h OF CHARACTERS|2fo OF CHARACTERS|
  2fi OF CHARACTERS|2SIX OF CHARACTERS|2se OF CHARACTERS|2ei OF CHARACTERS|2ni OF CHARACTERS|
  2on OF BAMBOOS|2tw OF BAMBOOS|2h OF BAMBOOS|2fo OF BAMBOOS|2fi OF BAMBOOS|2SIX OF BAMBOOS|
  2se OF BAMBOOS|2ei OF BAMBOOS|2ni OF BAMBOOS|2on OF CIRCLES|2tw OF CIRCLES|2h OF CIRCLES|
  2fo OF CIRCLES|2fi OF CIRCLES|2SIX OF CIRCLES|2se OF CIRCLES|2ei OF CIRCLES|2ni OF CIRCLES|2PLUM|
  2ORCHID|2BAMBOO|2CHRYSANTHEMUM|2SPRING|2SUMMER|2AUTUMN|2WINTER|2JOKER|2BACK|
  1F030:0DOMINO TILE z BACK|2HORIZONTAL-00-00+6|2HORIZONTAL-01-00+6|2HORIZONTAL-02-00+6|
  2HORIZONTAL-03-00+6|2HORIZONTAL-04-00+6|2HORIZONTAL-05-00+6|2HORIZONTAL-06-00+6|2v BACK|
  2VERTICAL-00-00+6|2VERTICAL-01-00+6|2VERTICAL-02-00+6|2VERTICAL-03-00+6|2VERTICAL-04-00+6|
  2VERTICAL-05-00+6|2VERTICAL-06-00+6|1F0A0:0PLAYING CARD BACK|2ACE OF SPADES|2tw OF SPADES|
  2h OF SPADES|2fo OF SPADES|2fi OF SPADES|2SIX OF SPADES|2se OF SPADES|2ei OF SPADES|2ni OF SPADES|
  2TEN OF SPADES|2JACK OF SPADES|2KNIGHT OF SPADES|2QUEEN OF SPADES|2KING OF SPADES|
  1F0B1:2ACE OF HEARTS|2tw OF HEARTS|2h OF HEARTS|2fo OF HEARTS|2fi OF HEARTS|2SIX OF HEARTS|
  2se OF HEARTS|2ei OF HEARTS|2ni OF HEARTS|2TEN OF HEARTS|2JACK OF HEARTS|2KNIGHT OF HEARTS|
  2QUEEN OF HEARTS|2KING OF HEARTS|2RED JOKER|1F0C1:2ACE OF DIAMONDS|2tw OF DIAMONDS|2h OF DIAMONDS|
  2fo OF DIAMONDS|2fi OF DIAMONDS|2SIX OF DIAMONDS|2se OF DIAMONDS|2ei OF DIAMONDS|2ni OF DIAMONDS|
  2TEN OF DIAMONDS|2JACK OF DIAMONDS|2KNIGHT OF DIAMONDS|2QUEEN OF DIAMONDS|2KING OF DIAMONDS|
  2u JOKER|1F0D1:2ACE OF CLUBS|2tw OF CLUBS|2h OF CLUBS|2fo OF CLUBS|2fi OF CLUBS|2SIX OF CLUBS|
  2se OF CLUBS|2ei OF CLUBS|2ni OF CLUBS|2TEN OF CLUBS|2JACK OF CLUBS|2KNIGHT OF CLUBS|
  2QUEEN OF CLUBS|2KING OF CLUBS|2x JOKER|2FOOL|2TRUMP-1+8|2TRUMP-10+11|1F100:0dg ZERO FULL STOP|
  2COMMA|1on COMMA|1tw COMMA|1h COMMA|1fo COMMA|1fi COMMA|1SIX COMMA|1se COMMA|1ei COMMA|1ni COMMA|
  0DINGBAT cr SANS-SERIF dg ZERO|1NEGATIVE cr SANS-SERIF dg ZERO|0cr ZERO w SLASH|1ANTICLOCKWISE a|
  1DOLLAR i w OVERLAID BACKSLASH|0PARENTHESIZED LATIN c l A|4B|4C|4D|4E|4F|4G|4H|4I|4J|4K|4L|4M|4N|
  4O|4P|4Q|4R|4S|4T|4U|4V|4W|4X|4Y|4Z|0TORTOISE SHELL BRACKETED LATIN c l S|0cr ITALIC LATIN c l C|
  5R|1CD|1WZ|0COPYLEFT y|0SQUARED LATIN c l A|4B|4C|4D|4E|4F|4G|4H|4I|4J|4K|4L|4M|4N|4O|4P|4Q|4R|4S|
  4T|4U|4V|4W|4X|4Y|4Z|1HV|1MV|1SD|1SS|1PPV|1WC|0NEGATIVE cr LATIN c l A|5B|5C|5D|5E|5F|5G|5H|5I|5J|
  5K|5L|5M|5N|5O|5P|5Q|5R|5S|5T|5U|5V|5W|5X|5Y|5Z|0RAISED MC i|1MD i|1MR i|0cr CC|
  1C w OVERLAID BACKSLASH|1HUMAN FIGURE|0NEGATIVE SQUARED LATIN c l A|5B|5C|5D|5E|5F|5G|5H|5I|5J|5K|
  5L|5M|5N|5O|5P|5Q|5R|5S|5T|5U|5V|5W|5X|5Y|5Z|0CROSSED NEGATIVE SQUARED LATIN c l P|
  0NEGATIVE SQUARED IC|2PA|2SA|2AB|2WC|0sq DJ|0SQUARED CL|1COOL|1FREE|1ID|1NEW|1NG|1OK|1SOS|
  1UP w EXCLAMATION mr|1VS|1h D|1SECOND SCREEN|1tw K|1fo K|1ei K|1fi POINT on|1se POINT on|
  1TWENTY-TWO POINT tw|1SIXTY P|1on hu TWENTY P|1LATIN s l D|1HC|1HDR|1HI-RES|1LOSSLESS|1SHV|1UHD|
  1VOD|0MASK WORK y|1F1E6:0REGIONAL INDICATOR y l A|4B|4C|4D|4E|4F|4G|4H|4I|4J|4K|4L|4M|4N|4O|4P|4Q|
  4R|4S|4T|4U|4V|4W|4X|4Y|4Z|0sq HIRAGANA HOKA|0SQUARED KATAKANA KOKO|2SA|
  1F210:1CJK UNIFIED IDEOGRAPH-624B|3IDEOGRAPH-5B57|3IDEOGRAPH-53CC|1KATAKANA DE|
  1CJK UNIFIED IDEOGRAPH-4E8C|3IDEOGRAPH-591A|3IDEOGRAPH-89E3|3IDEOGRAPH-5929|3IDEOGRAPH-4EA4|
  3IDEOGRAPH-6620|3IDEOGRAPH-7121|3IDEOGRAPH-6599|3IDEOGRAPH-524D|3IDEOGRAPH-5F8C|3IDEOGRAPH-518D|
  3IDEOGRAPH-65B0|3IDEOGRAPH-521D|3IDEOGRAPH-7D42|3IDEOGRAPH-751F|3IDEOGRAPH-8CA9|3IDEOGRAPH-58F0|
  3IDEOGRAPH-5439|3IDEOGRAPH-6F14|3IDEOGRAPH-6295|3IDEOGRAPH-6355|3IDEOGRAPH-4E00|3IDEOGRAPH-4E09|
  3IDEOGRAPH-904A|3IDEOGRAPH-5DE6|3IDEOGRAPH-4E2D|3IDEOGRAPH-53F3|3IDEOGRAPH-6307|3IDEOGRAPH-8D70|
  3IDEOGRAPH-6253|3IDEOGRAPH-7981|3IDEOGRAPH-7A7A|3IDEOGRAPH-5408|3IDEOGRAPH-6E80|3IDEOGRAPH-6709|
  3IDEOGRAPH-6708|3IDEOGRAPH-7533|3IDEOGRAPH-5272|3IDEOGRAPH-55B6|3IDEOGRAPH-914D|
  1F240:0TORTOISE SHELL BRACKETED CJK UNIFIED IDEOGRAPH-672C|5IDEOGRAPH-4E09|5IDEOGRAPH-4E8C|
  5IDEOGRAPH-5B89|5IDEOGRAPH-70B9|5IDEOGRAPH-6253|5IDEOGRAPH-76D7|5IDEOGRAPH-52DD|5IDEOGRAPH-6557|
  1F250:0cr IDEOGRAPH ADVANTAGE|2ACCEPT|1F260:0ROUNDED y FOR FU|3LU|3SHOU|3XI|3SHUANGXI|3CAI|
  1F300:0CYCLONE|0FOGGY|0CLOSED UMBRELLA|0NIGHT w STARS|0SUNRISE OVER MOUNTAINS|1|
  0CITYSCAPE AT DUSK|0SUNSET OVER BUILDINGS|0RAINBOW|0BRIDGE AT NIGHT|0WATER WAVE|0VOLCANO|
  0MILKY WAY|0EARTH GLOBE EUROPE-AFRICA|2AMERICAS|2ASIA-AUSTRALIA|0GLOBE w MERIDIANS|0NEW MOON y|
  0WAXING CRESCENT MOON y|0FIRST QUARTER MOON y|0WAXING GIBBOUS MOON y|0FULL MOON y|
  0WANING GIBBOUS MOON y|0LAST QUARTER MOON y|0WANING CRESCENT MOON y|0CRESCENT MOON|
  0NEW MOON w FACE|0FIRST QUARTER MOON w FACE|0LAST QUARTER MOON w FACE|0FULL MOON w FACE|
  0SUN w FACE|0GLOWING STAR|0SHOOTING STAR|0THERMOMETER|0u DROPLET|0x SUN|2w s CLOUD|2BEHIND CLOUD|
  4w RAIN|0CLOUD w RAIN|2SNOW|2LIGHTNING|2TORNADO|0FOG|0WIND BLOWING FACE|0HOT DOG|0TACO|0BURRITO|
  0CHESTNUT|0SEEDLING|0EVERGREEN TREE|0DECIDUOUS TREE|0PALM TREE|0CACTUS|0HOT PEPPER|0TULIP|
  0CHERRY BLOSSOM|0ROSE|0HIBISCUS|0SUNFLOWER|0BLOSSOM|0EAR OF MAIZE|2RICE|0HERB|0fo LEAF CLOVER|
  0MAPLE LEAF|0FALLEN LEAF|0LEAF FLUTTERING IN WIND|0MUSHROOM|0TOMATO|0AUBERGINE|0GRAPES|0MELON|
  0WATERMELON|0TANGERINE|0LEMON|0BANANA|0PINEAPPLE|0RED APPLE|0GREEN APPLE|0PEAR|0PEACH|0CHERRIES|
  0STRAWBERRY|0HAMBURGER|0SLICE OF PIZZA|0MEAT ON BONE|0POULTRY LEG|0RICE CRACKER|1BALL|
  0COOKED RICE|0CURRY j RICE|0STEAMING BOWL|0SPAGHETTI|0BREAD|0FRENCH FRIES|0ROASTED SWEET POTATO|
  0DANGO|0ODEN|0SUSHI|0FRIED SHRIMP|0FISH CAKE w SWIRL DESIGN|0SOFT ICE CREAM|0SHAVED ICE|
  0ICE CREAM|0DOUGHNUT|0COOKIE|0CHOCOLATE BAR|0CANDY|0LOLLIPOP|0CUSTARD|0HONEY POT|0SHORTCAKE|
  0BENTO BOX|0POT OF FOOD|0COOKING|0FORK j KNIFE|0TEACUP WITHOUT HANDLE|0SAKE BOTTLE j CUP|
  0WINE GLASS|0COCKTAIL GLASS|0TROPICAL DRINK|0BEER MUG|0CLINKING BEER MUGS|0BABY BOTTLE|
  0FORK j KNIFE w PLATE|0BOTTLE w POPPING CORK|0POPCORN|0RIBBON|0WRAPPED PRESENT|0BIRTHDAY CAKE|
  0JACK-O-LANTERN|0CHRISTMAS TREE|0FATHER CHRISTMAS|0FIREWORKS|0FIREWORK SPARKLER|0BALLOON|
  0PARTY POPPER|0CONFETTI BALL|0TANABATA TREE|0CROSSED FLAGS|0PINE DECORATION|0JAPANESE DOLLS|
  0CARP STREAMER|0WIND CHIME|0MOON VIEWING CEREMONY|0SCHOOL SATCHEL|0GRADUATION CAP|
  0HEART w TIP ON THE t|0BOUQUET OF FLOWERS|0MILITARY MEDAL|0REMINDER RIBBON|
  0MUSICAL KEYBOARD w JACKS|0STUDIO MICROPHONE|0LEVEL SLIDER|0CONTROL KNOBS|
  0BEAMED ASCENDING MUSICAL NOTES|1DESCENDING MUSICAL NOTES|0FILM FRAMES|0ADMISSION TICKETS|
  0CAROUSEL HORSE|0FERRIS WHEEL|0ROLLER COASTER|0FISHING POLE j FISH|0MICROPHONE|0MOVIE CAMERA|
  0CINEMA|0HEADPHONE|0ARTIST PALETTE|0TOP HAT|0CIRCUS TENT|0TICKET|0CLAPPER BOARD|0PERFORMING ARTS|
  0VIDEO GAME|0DIRECT HIT|0SLOT MACHINE|0BILLIARDS|0GAME DIE|0BOWLING|0FLOWER PLAYING CARDS|
  0MUSICAL NOTE|0MULTIPLE MUSICAL NOTES|0SAXOPHONE|0GUITAR|0MUSICAL KEYBOARD|0TRUMPET|0VIOLIN|
  0MUSICAL SCORE|0RUNNING SHIRT w SASH|0TENNIS RACQUET j BALL|0SKI j SKI BOOT|0BASKETBALL j HOOP|
  0CHEQUERED FLAG|0SNOWBOARDER|0RUNNER|0SURFER|0SPORTS MEDAL|0TROPHY|0HORSE RACING|
  0AMERICAN FOOTBALL|0RUGBY FOOTBALL|0SWIMMER|0WEIGHT LIFTER|0GOLFER|0RACING MOTORCYCLE|1CAR|
  0CRICKET BAT j BALL|0VOLLEYBALL|0FIELD HOCKEY STICK j BALL|0ICE HOCKEY STICK j PUCK|
  0TABLE TENNIS PADDLE j BALL|0SNOW CAPPED MOUNTAIN|0CAMPING|0BEACH w UMBRELLA|
  0BUILDING CONSTRUCTION|0HOUSE BUILDINGS|0CITYSCAPE|0DERELICT HOUSE BUILDING|0CLASSICAL BUILDING|
  0DESERT|1ISLAND|0NATIONAL PARK|0STADIUM|0HOUSE BUILDING|1w GARDEN|0OFFICE BUILDING|
  0JAPANESE POST OFFICE|0EUROPEAN POST OFFICE|0HOSPITAL|0BANK|0AUTOMATED TELLER MACHINE|0HOTEL|
  0LOVE HOTEL|0CONVENIENCE STORE|0SCHOOL|0DEPARTMENT STORE|0FACTORY|0IZAKAYA LANTERN|
  0JAPANESE CASTLE|0EUROPEAN CASTLE|0x PENNANT|0u PENNANT|0WAVING x FLAG|1u FLAG|0ROSETTE|
  0u ROSETTE|0LABEL|0BADMINTON RACQUET j SHUTTLECOCK|0BOW j a|0AMPHORA|
  0EMOJI MODIFIER FITZPATRICK TYPE-1-2|3TYPE-3+3|0RAT|0MOUSE|0OX|0WATER BUFFALO|0COW|0TIGER|
  0LEOPARD|0RABBIT|0CAT|0DRAGON|0CROCODILE|0WHALE|0SNAIL|0SNAKE|0HORSE|0RAM|0GOAT|0SHEEP|0MONKEY|
  0ROOSTER|0CHICKEN|0DOG|0PIG|0BOAR|0ELEPHANT|0OCTOPUS|0SPIRAL SHELL|0BUG|0ANT|0HONEYBEE|
  0LADY BEETLE|0FISH|0TROPICAL FISH|0BLOWFISH|0TURTLE|0HATCHING CHICK|0BABY CHICK|
  0FRONT-FACING BABY CHICK|0BIRD|0PENGUIN|0KOALA|0POODLE|0DROMEDARY CAMEL|0BACTRIAN CAMEL|0DOLPHIN|
  0MOUSE FACE|0COW FACE|0TIGER FACE|0RABBIT FACE|0CAT FACE|0DRAGON FACE|0SPOUTING WHALE|0HORSE FACE|
  0MONKEY FACE|0DOG FACE|0PIG FACE|0FROG FACE|0HAMSTER FACE|0WOLF FACE|0BEAR FACE|0PANDA FACE|
  0PIG NOSE|0PAW PRINTS|0CHIPMUNK|0EYES|0EYE|0EAR|0NOSE|0MOUTH|0TONGUE|0x UP po BACKHAND in|
  1dw po BACKHAND in|1t po BACKHAND in|1r po BACKHAND in|0FISTED HAND i|0WAVING HAND i|0OK HAND i|
  0THUMBS UP i|1dw i|0CLAPPING HANDS i|0OPEN HANDS i|0CROWN|0WOMANS HAT|0EYEGLASSES|0NECKTIE|
  0T-SHIRT|0JEANS|0DRESS|0KIMONO|0BIKINI|0WOMANS CLOTHES|0PURSE|0HANDBAG|0POUCH|0MANS SHOE|
  0ATHLETIC SHOE|0HIGH-HEELED SHOE|0WOMANS SANDAL|1BOOTS|0FOOTPRINTS|0BUST IN SILHOUETTE|
  0BUSTS IN SILHOUETTE|0BOY|0GIRL|0MAN|0WOMAN|0FAMILY|0MAN j WOMAN HOLDING HANDS|
  0tw MEN HOLDING HANDS|1WOMEN HOLDING HANDS|0POLICE OFFICER|0WOMAN w BUNNY EARS|0BRIDE w VEIL|
  0PERSON w BLOND HAIR|0MAN w GUA PI MAO|2TURBAN|0OLDER MAN|1WOMAN|0BABY|0CONSTRUCTION WORKER|
  0PRINCESS|0JAPANESE OGRE|1GOBLIN|0GHOST|0BABY ANGEL|0EXTRATERRESTRIAL ALIEN|0ALIEN MONSTER|0IMP|
  0SKULL|0INFORMATION DESK PERSON|0GUARDSMAN|0DANCER|0LIPSTICK|0NAIL POLISH|0FACE MASSAGE|0HAIRCUT|
  0BARBER POLE|0SYRINGE|0PILL|0KISS mr|0LOVE l|0RING|0GEM STONE|0KISS|0BOUQUET|0COUPLE w HEART|
  0WEDDING|0BEATING HEART|0BROKEN HEART|0tw HEARTS|0SPARKLING HEART|0GROWING HEART|0HEART w a|
  0BLUE HEART|0GREEN HEART|0YELLOW HEART|0PURPLE HEART|0HEART w RIBBON|0REVOLVING HEARTS|
  0HEART DECORATION|0DIAMOND SHAPE w A do INSIDE|0ELECTRIC li BULB|0ANGER y|0BOMB|0SLEEPING y|
  0COLLISION y|0SPLASHING SWEAT y|0DROPLET|0DASH y|0PILE OF POO|0FLEXED BICEPS|0DIZZY y|
  0SPEECH BALLOON|0THOUGHT BALLOON|0x FLOWER|0hu POINTS y|0MONEY BAG|0CURRENCY EXCHANGE|
  0he DOLLAR i|0CREDIT CARD|0BANKNOTE w YEN i|2DOLLAR i|2EURO i|2POUND i|0MONEY w WINGS|
  0CHART w up TREND j YEN i|0SEAT|0PERSONAL COMPUTER|0BRIEFCASE|0MINIDISC|0FLOPPY DISK|
  0OPTICAL DISC|0DVD|0FILE FOLDER|0OPEN FILE FOLDER|0PAGE w CURL|1FACING UP|0CALENDAR|
  0TEAR-OFF CALENDAR|0CARD in|0CHART w up TREND|2dn TREND|0BAR CHART|0CLIPBOARD|0PUSHPIN|
  0ROUND PUSHPIN|0PAPERCLIP|0STRAIGHT RULER|0TRIANGULAR RULER|0BOOKMARK TABS|0LEDGER|0NOTEBOOK|
  1w DECORATIVE COVER|0CLOSED BOOK|0OPEN BOOK|0GREEN BOOK|0BLUE BOOK|0ORANGE BOOK|0BOOKS|
  0NAME BADGE|0SCROLL|0MEMO|0TELEPHONE RECEIVER|0PAGER|0FAX MACHINE|0SATELLITE ANTENNA|
  0PUBLIC ADDRESS LOUDSPEAKER|0CHEERING MEGAPHONE|0OUTBOX TRAY|0INBOX TRAY|0PACKAGE|0E-MAIL y|
  0INCOMING ENVELOPE|0ENVELOPE w dn a b|0CLOSED MAILBOX w LOWERED FLAG|3RAISED FLAG|
  0OPEN MAILBOX w RAISED FLAG|3LOWERED FLAG|0POSTBOX|0POSTAL HORN|0NEWSPAPER|0MOBILE PHONE|
  2w g a AT t|0VIBRATION MODE|0MOBILE PHONE OFF|0NO MOBILE PHONES|0ANTENNA w BARS|0CAMERA|1w FLASH|
  0VIDEO CAMERA|0TELEVISION|0RADIO|0VIDEOCASSETTE|0FILM PROJECTOR|0PORTABLE STEREO|0PRAYER BEADS|
  0TWISTED g ARROWS|0CLOCKWISE g j m OPEN ci ARROWS|7w cr on OVERLAY|1dn j up OPEN ci ARROWS|
  0ANTICLOCKWISE dn j up OPEN ci ARROWS|0LOW BRIGHTNESS y|0HIGH BRIGHTNESS y|
  0SPEAKER w CANCELLATION k|1|1w on SOUND WAVE|2h SOUND WAVES|0BATTERY|0ELECTRIC PLUG|
  0LEFT-POINTING MAGNIFYING GLASS|0ri MAGNIFYING GLASS|0LOCK w INK PEN|0CLOSED LOCK w KEY|0KEY|
  0LOCK|0OPEN LOCK|0BELL|1w CANCELLATION k|0BOOKMARK|0LINK y|0RADIO BUTTON|0BACK w m a b|
  0END w m a b|0ON w EXCLAMATION mr w t r a b|0SOON w g a b|0TOP w up a b|0NO on UNDER EIGHTEEN y|
  0KEYCAP TEN|0INPUT y FOR LATIN c LETTERS|4s LETTERS|3NUMBERS|3SYMBOLS|3LATIN LETTERS|0FIRE|
  0ELECTRIC TORCH|0WRENCH|0HAMMER|0NUT j BOLT|0HOCHO|0PISTOL|0MICROSCOPE|0TELESCOPE|0CRYSTAL BALL|
  0SIX POINTED STAR w mi do|0JAPANESE y FOR BEGINNER|0TRIDENT EMBLEM|0u sq BUTTON|0x sq BUTTON|
  0LARGE RED ci|1BLUE ci|1ORANGE DIAMOND|1BLUE DIAMOND|0s ORANGE DIAMOND|1BLUE DIAMOND|
  0UP-POINTING RED tr|0DOWN-POINTING RED tr|0UP-POINTING s RED tr|0DOWN-POINTING s RED tr|
  0lo r SHADOWED x ci|0UPPER r SHADOWED x ci|0cr CROSS POMMEE|0CROSS POMMEE w HALF-CIRCLE e|2|
  0NOTCHED t SEMICIRCLE w h DOTS|1r SEMICIRCLE w h DOTS|0y FOR MARKS CHAPTER|0x LATIN CROSS|
  0he LATIN CROSS|0CELTIC CROSS|0OM y|0DOVE OF PEACE|0KAABA|0MOSQUE|0SYNAGOGUE|
  0MENORAH w ni BRANCHES|0BOWL OF HYGIEIA|0CLOCK FACE on OCLOCK|2tw OCLOCK|2h OCLOCK|2fo OCLOCK|
  2fi OCLOCK|2SIX OCLOCK|2se OCLOCK|2ei OCLOCK|2ni OCLOCK|2TEN OCLOCK|2ELEVEN OCLOCK|2TWELVE OCLOCK|
  2ONE-THIRTY|2TWO-THIRTY|2THREE-THIRTY|2FOUR-THIRTY|2FIVE-THIRTY|2SIX-THIRTY|2SEVEN-THIRTY|
  2EIGHT-THIRTY|2NINE-THIRTY|2TEN-THIRTY|2ELEVEN-THIRTY|2TWELVE-THIRTY|0r SPEAKER|2w on SOUND WAVE|
  3h SOUND WAVES|0BULLHORN|1w SOUND WAVES|0RINGING BELL|0BOOK|0CANDLE|0MANTELPIECE CLOCK|
  0u SKULL j CROSSBONES|0NO PIRACY|0HOLE|0MAN IN BUSINESS SUIT LEVITATING|0SLEUTH OR SPY|
  0DARK SUNGLASSES|0SPIDER|1WEB|0JOYSTICK|0MAN DANCING|0t HAND TELEPHONE RECEIVER|
  0TELEPHONE RECEIVER w PAGE|0r HAND TELEPHONE RECEIVER|0x TOUCHTONE TELEPHONE|
  0u TOUCHTONE TELEPHONE|0TELEPHONE ON TOP OF MODEM|0CLAMSHELL MOBILE PHONE|0BACK OF ENVELOPE|
  0STAMPED ENVELOPE|0ENVELOPE w LIGHTNING|0FLYING ENVELOPE|0PEN OVER STAMPED ENVELOPE|
  0LINKED PAPERCLIPS|0u PUSHPIN|0lo t PENCIL|2BALLPOINT PEN|2FOUNTAIN PEN|2PAINTBRUSH|2CRAYON|
  0t WRITING HAND|0tu OK HAND i|0RAISED HAND w FINGERS SPLAYED|0rv RAISED HAND w FINGERS SPLAYED|
  1THUMBS UP i|2dw i|1VICTORY HAND|1HAND w mi FINGER EXTENDED|
  0RAISED HAND w PART BETWEEN mi j RING FINGERS|0x dw po t HAND in|0SIDEWAYS x t po in|2r po in|
  1u t po in|2r po in|0u t po BACKHAND in|1r po BACKHAND in|0SIDEWAYS x UP po in|2dw po in|
  1u UP po in|2dw po in|0u UP po BACKHAND in|1dw po BACKHAND in|1HEART|0DESKTOP COMPUTER|
  0KEYBOARD j MOUSE|0h NETWORKED COMPUTERS|0PRINTER|0POCKET CALCULATOR|0u HARD SHELL FLOPPY DISK|
  0x HARD SHELL FLOPPY DISK|0SOFT SHELL FLOPPY DISK|0TAPE CARTRIDGE|0WIRED KEYBOARD|
  0on BUTTON MOUSE|0tw BUTTON MOUSE|0h BUTTON MOUSE|0TRACKBALL|0OLD PERSONAL COMPUTER|0HARD DISK|
  0SCREEN|0PRINTER ICON|0FAX ICON|0OPTICAL DISC ICON|0DOCUMENT w TEXT|3j PICTURE|2PICTURE|
  0FRAME w PICTURE|2TILES|2AN X|0u FOLDER|0FOLDER|0OPEN FOLDER|0CARD in DIVIDERS|1FILE BOX|
  0FILE CABINET|0EMPTY NOTE|2PAGE|2PAD|0NOTE|1PAGE|1PAD|0EMPTY DOCUMENT|1PAGE|1PAGES|0DOCUMENT|
  0PAGE|0PAGES|0WASTEBASKET|0SPIRAL NOTE PAD|1CALENDAR PAD|0DESKTOP WINDOW|0MINIMIZE|0MAXIMIZE|
  0OVERLAP|0CLOCKWISE r j t SEMICIRCLE ARROWS|0CANCELLATION X|0INCREASE FONT SIZE y|
  0DECREASE FONT SIZE y|0COMPRESSION|0OLD KEY|0ROLLED-UP NEWSPAPER|0PAGE w cr TEXT|0STOCK CHART|
  0DAGGER KNIFE|0LIPS|0SPEAKING HEAD IN SILHOUETTE|0h RAYS b|2e|2t|2r|0t SPEECH BUBBLE|
  0r SPEECH BUBBLE|0tw SPEECH BUBBLES|0h SPEECH BUBBLES|0t THOUGHT BUBBLE|0r THOUGHT BUBBLE|
  0t ANGER BUBBLE|0r ANGER BUBBLE|0MOOD BUBBLE|0LIGHTNING MOOD BUBBLE|2|0BALLOT BOX w BALLOT|
  1SCRIPT X|1BOX w SCRIPT X|1BOLD SCRIPT X|1BOX w BOLD SCRIPT X|0li CHECK mr|
  0BALLOT BOX w BOLD CHECK|0WORLD MAP|0MOUNT FUJI|0TOKYO TOWER|0STATUE OF LIBERTY|
  0SILHOUETTE OF JAPAN|0MOYAI|0GRINNING FACE|2w SMILING EYES|0FACE w TEARS OF JOY|
  0SMILING FACE w OPEN MOUTH|5j SMILING EYES|6COLD SWEAT|6TIGHTLY-CLOSED EYES|3HALO|3HORNS|
  0WINKING FACE|0SMILING FACE w SMILING EYES|0FACE SAVOURING DELICIOUS FOOD|0RELIEVED FACE|
  0SMILING FACE w HEART-SHAPED EYES|3SUNGLASSES|0SMIRKING FACE|0NEUTRAL FACE|0EXPRESSIONLESS FACE|
  0UNAMUSED FACE|0FACE w COLD SWEAT|0PENSIVE FACE|0CONFUSED FACE|0CONFOUNDED FACE|0KISSING FACE|
  0FACE THROWING A KISS|0KISSING FACE w SMILING EYES|3CLOSED EYES|0FACE w STUCK-OUT TONGUE|
  4j WINKING EYE|5TIGHTLY-CLOSED EYES|0DISAPPOINTED FACE|0WORRIED FACE|0ANGRY FACE|0POUTING FACE|
  0CRYING FACE|0PERSEVERING FACE|0FACE w LOOK OF TRIUMPH|0DISAPPOINTED BUT RELIEVED FACE|
  0FROWNING FACE w OPEN MOUTH|0ANGUISHED FACE|0FEARFUL FACE|0WEARY FACE|0SLEEPY FACE|0TIRED FACE|
  0GRIMACING FACE|0LOUDLY CRYING FACE|0FACE w OPEN MOUTH|0HUSHED FACE|
  0FACE w OPEN MOUTH j COLD SWEAT|1SCREAMING IN FEAR|0ASTONISHED FACE|0FLUSHED FACE|0SLEEPING FACE|
  0DIZZY FACE|0FACE WITHOUT MOUTH|1w MEDICAL MASK|0GRINNING CAT FACE w SMILING EYES|
  0CAT FACE w TEARS OF JOY|0SMILING CAT FACE w OPEN MOUTH|4HEART-SHAPED EYES|0CAT FACE w WRY SMILE|
  0KISSING CAT FACE w CLOSED EYES|0POUTING CAT FACE|0CRYING CAT FACE|0WEARY CAT FACE|
  0SLIGHTLY FROWNING FACE|1SMILING FACE|0UPSIDE-DOWN FACE|0FACE w ROLLING EYES|2NO GOOD GESTURE|
  2OK GESTURE|0PERSON BOWING DEEPLY|0SEE-NO-EVIL MONKEY|0HEAR-NO-EVIL MONKEY|0SPEAK-NO-EVIL MONKEY|
  0HAPPY PERSON RAISING on HAND|0PERSON RAISING BOTH HANDS IN CELEBRATION|1FROWNING|1w POUTING FACE|
  2FOLDED HANDS|0NORTH WEST po LEAF|0SOUTH WEST po LEAF|0NORTH EAST po LEAF|0SOUTH EAST po LEAF|
  0tu NORTH WEST po LEAF|1SOUTH WEST po LEAF|1NORTH EAST po LEAF|1SOUTH EAST po LEAF|
  0NORTH WEST po VINE LEAF|0SOUTH WEST po VINE LEAF|0NORTH EAST po VINE LEAF|
  0SOUTH EAST po VINE LEAF|0he NORTH WEST po VINE LEAF|1SOUTH WEST po VINE LEAF|
  1NORTH EAST po VINE LEAF|1SOUTH EAST po VINE LEAF|0NORTH WEST po BUD|0SOUTH WEST po BUD|
  0NORTH EAST po BUD|0SOUTH EAST po BUD|0he NORTH WEST po BUD|1SOUTH WEST po BUD|1NORTH EAST po BUD|
  1SOUTH EAST po BUD|0HOLLOW QUILT sq or|4IN u sq|0SOLID QUILT sq or|4IN u sq|0m ROCKET|0up ROCKET|
  0g ROCKET|0dn ROCKET|0SCRIPT LIGATURE ET or|0he SCRIPT LIGATURE ET or|0LIGATURE OPEN ET or|
  0he LIGATURE OPEN ET or|1AMPERSAND or|0SWASH AMPERSAND or|
  0SANS-SERIF he d tu COMMA QUOTATION mr or|3COMMA QUOTATION mr or|2LOW d COMMA QUOTATION mr or|
  0he INTERROBANG or|0SANS-SERIF INTERROBANG or|0he SANS-SERIF INTERROBANG or|0VERY he SOLIDUS|
  2REVERSE SOLIDUS|0CHECKER BOARD|0REVERSE CHECKER BOARD|0ROCKET|0HELICOPTER|0STEAM LOCOMOTIVE|
  0RAILWAY CAR|0HIGH-SPEED TRAIN|2w BULLET NOSE|0TRAIN|0METRO|0li RAIL|0STATION|0TRAM|1CAR|0BUS|
  0ONCOMING BUS|0TROLLEYBUS|0BUS STOP|0MINIBUS|0AMBULANCE|0FIRE ENGINE|0POLICE CAR|
  0ONCOMING POLICE CAR|0TAXI|0ONCOMING TAXI|0AUTOMOBILE|0ONCOMING AUTOMOBILE|0RECREATIONAL VEHICLE|
  0DELIVERY TRUCK|0ARTICULATED LORRY|0TRACTOR|0MONORAIL|0MOUNTAIN RAILWAY|0SUSPENSION RAILWAY|
  0MOUNTAIN CABLEWAY|0AERIAL TRAMWAY|0SHIP|0ROWBOAT|0SPEEDBOAT|0z TRAFFIC li|0v TRAFFIC li|
  0CONSTRUCTION i|0POLICE CARS REVOLVING li|0TRIANGULAR FLAG ON POST|0DOOR|0NO ENTRY i|0SMOKING y|
  0NO SMOKING y|0PUT LITTER IN ITS PLACE y|0DO NOT LITTER y|0POTABLE WATER y|0NON-POTABLE WATER y|
  0BICYCLE|0NO BICYCLES|0BICYCLIST|0MOUNTAIN BICYCLIST|0PEDESTRIAN|0NO PEDESTRIANS|
  0CHILDREN CROSSING|0MENS y|0WOMENS y|0RESTROOM|0BABY y|0TOILET|0WATER CLOSET|0SHOWER|0BATH|
  0BATHTUB|0PASSPORT CONTROL|0CUSTOMS|0BAGGAGE CLAIM|0t LUGGAGE|0tr w ROUNDED CORNERS|0PROHIBITED i|
  0cr INFORMATION SOURCE|0BOYS y|0GIRLS y|0COUCH j LAMP|0SLEEPING ACCOMMODATION|0SHOPPING BAGS|
  0BELLHOP BELL|0BED|0PLACE OF WORSHIP|0OCTAGONAL i|0SHOPPING TROLLEY|0STUPA|0PAGODA|0HINDU TEMPLE|
  0HUT|0ELEVATOR|1F6DD:0PLAYGROUND SLIDE|0WHEEL|0RING BUOY|0HAMMER j WRENCH|0SHIELD|0OIL DRUM|
  0MOTORWAY|0RAILWAY TRACK|0MOTOR BOAT|0UP-POINTING MILITARY AIRPLANE|1AIRPLANE|1s AIRPLANE|
  0s AIRPLANE|0NORTHEAST-POINTING AIRPLANE|0AIRPLANE DEPARTURE|1ARRIVING|1F6F0:0SATELLITE|
  0ONCOMING FIRE ENGINE|0DIESEL LOCOMOTIVE|0PASSENGER SHIP|0SCOOTER|0MOTOR SCOOTER|0CANOE|0SLED|
  0FLYING SAUCER|0SKATEBOARD|0AUTO RICKSHAW|0PICKUP TRUCK|0ROLLER SKATE|
  1F700:0ALCHEMICAL y FOR QUINTESSENCE|3AIR|3FIRE|3EARTH|3WATER|3AQUAFORTIS|3AQUA REGIA|4REGIA-2|
  4VITAE|4VITAE-2|3VINEGAR|3VINEGAR-2|3VINEGAR-3|3SULFUR|3PHILOSOPHERS SULFUR|3u SULFUR|
  3MERCURY SUBLIMATE|4SUBLIMATE-2|4SUBLIMATE-3|3CINNABAR|3SALT|3NITRE|3VITRIOL|3VITRIOL-2|
  3ROCK SALT|4SALT-2|3GOLD|3SILVER|3IRON ORE|4ORE-2|3CROCUS OF IRON|3REGULUS OF IRON|3COPPER ORE|
  3IRON-COPPER ORE|3SUBLIMATE OF COPPER|3CROCUS OF COPPER|5COPPER-2|3COPPER ANTIMONIATE|
  3SALT OF COPPER ANTIMONIATE|3SUBLIMATE OF SALT OF COPPER|3VERDIGRIS|3TIN ORE|3LEAD ORE|
  3ANTIMONY ORE|3SUBLIMATE OF ANTIMONY|3SALT OF ANTIMONY|3SUBLIMATE OF SALT OF ANTIMONY|
  3VINEGAR OF ANTIMONY|3REGULUS OF ANTIMONY|5ANTIMONY-2|4|3REGULUS-2+2|3ALKALI|3ALKALI-2|3MARCASITE|
  3SAL-AMMONIAC|3ARSENIC|3REALGAR|3REALGAR-2|3AURIPIGMENT|3BISMUTH ORE|3TARTAR|3TARTAR-2|
  3QUICK LIME|3BORAX|3BORAX-2|3BORAX-3|3ALUM|3OIL|3SPIRIT|3TINCTURE|3GUM|3WAX|3POWDER|3CALX|3TUTTY|
  3CAPUT MORTUUM|3SCEPTER OF JOVE|3CADUCEUS|3TRIDENT|3STARRED TRIDENT|3LODESTONE|3SOAP|3URINE|
  3HORSE DUNG|3ASHES|3POT ASHES|3BRICK|3POWDERED BRICK|3AMALGAM|3STRATUM SUPER STRATUM|5STRATUM-2|
  3SUBLIMATION|3PRECIPITATE|3DISTILL|3DISSOLVE|3DISSOLVE-2|3PURIFY|3PUTREFACTION|3CRUCIBLE|
  3CRUCIBLE-2+3|3ALEMBIC|3BATH OF MARY|5VAPOURS|3RETORT|3HOUR|3NIGHT|3DAY-NIGHT|3MONTH|3ha DRAM|
  4OUNCE|1F780:0u LEFT-POINTING ISOSCELES r tr|1UP-POINTING ISOSCELES r tr|1ri ISOSCELES r tr|
  1DOWN-POINTING ISOSCELES r tr|1SLIGHTLY s ci|0md BOLD x ci|0BOLD x ci|0he x ci|0VERY he x ci|
  0EXTREMELY he x ci|0x ci CONTAINING u s ci|0ROUND TARGET|0u TINY sq|1SLIGHTLY s sq|0li x sq|
  0md x sq|0BOLD x sq|0he x sq|0VERY he x sq|0EXTREMELY he x sq|0x sq CONTAINING u VERY s sq|4md sq|
  0sq TARGET|0u TINY DIAMOND|1VERY s DIAMOND|1md s DIAMOND|0x DIAMOND CONTAINING u VERY s DIAMOND|
  4md DIAMOND|0DIAMOND TARGET|0u TINY LOZENGE|1VERY s LOZENGE|1md s LOZENGE|
  0x LOZENGE CONTAINING u s LOZENGE|0THIN GREEK CROSS|0li GREEK CROSS|0md GREEK CROSS|
  0BOLD GREEK CROSS|0VERY BOLD GREEK CROSS|1he GREEK CROSS|0EXTREMELY he GREEK CROSS|0THIN SALTIRE|
  0li SALTIRE|0md SALTIRE|0BOLD SALTIRE|0he SALTIRE|0VERY he SALTIRE|0EXTREMELY he SALTIRE|
  0li fi SPOKED as|0md fi SPOKED as|0BOLD fi SPOKED as|0he fi SPOKED as|0VERY he fi SPOKED as|
  0EXTREMELY he fi SPOKED as|0li SIX SPOKED as|0md SIX SPOKED as|0BOLD SIX SPOKED as|
  0he SIX SPOKED as|0VERY he SIX SPOKED as|0EXTREMELY he SIX SPOKED as|0li ei SPOKED as|
  0md ei SPOKED as|0BOLD ei SPOKED as|0he ei SPOKED as|0VERY he ei SPOKED as|0li h POINTED u STAR|
  0md h POINTED u STAR|0h POINTED u STAR|0md h POINTED PINWHEEL STAR|0li fo POINTED u STAR|
  0md fo POINTED u STAR|0fo POINTED u STAR|0md fo POINTED PINWHEEL STAR|
  0REVERSE li fo POINTED PINWHEEL STAR|0li fi POINTED u STAR|0he fi POINTED u STAR|
  0md SIX POINTED u STAR|0he SIX POINTED u STAR|0SIX POINTED PINWHEEL STAR|0md ei POINTED u STAR|
  0he ei POINTED u STAR|0VERY he ei POINTED u STAR|0he ei POINTED PINWHEEL STAR|
  0li TWELVE POINTED u STAR|0he TWELVE POINTED u STAR|3PINWHEEL STAR|0cr tr|0NEGATIVE cr tr|0cr sq|
  0NEGATIVE cr sq|1F7E0:0LARGE ORANGE ci|1YELLOW ci|1GREEN ci|1PURPLE ci|1BROWN ci|1RED sq|1BLUE sq|
  1ORANGE sq|1YELLOW sq|1GREEN sq|1PURPLE sq|1BROWN sq|1F7F0:0he EQUALS i|1F800:0m a w s tr ar|
  0up a w s tr ar|0g a w s tr ar|0dn a w s tr ar|0m a w md tr ar|0up a w md tr ar|0g a w md tr ar|
  0dn a w md tr ar|0m a w LARGE tr ar|0up a w LARGE tr ar|0g a w LARGE tr ar|0dn a w LARGE tr ar|
  1F810:0m a w s EQUILATERAL ar|0up a w s EQUILATERAL ar|0g a w s EQUILATERAL ar|
  0dn a w s EQUILATERAL ar|0m a w EQUILATERAL ar|0up a w EQUILATERAL ar|0g a w EQUILATERAL ar|
  0dn a w EQUILATERAL ar|0he m a w EQUILATERAL ar|1up a w EQUILATERAL ar|1g a w EQUILATERAL ar|
  1dn a w EQUILATERAL ar|1m a w LARGE EQUILATERAL ar|1up a w LARGE EQUILATERAL ar|
  1g a w LARGE EQUILATERAL ar|1dn a w LARGE EQUILATERAL ar|0m q a w NARROW SHAFT|
  0up q a w NARROW SHAFT|0g q a w NARROW SHAFT|0dn q a w NARROW SHAFT|0m q a w md SHAFT|
  0up q a w md SHAFT|0g q a w md SHAFT|0dn q a w md SHAFT|0m q a w BOLD SHAFT|0up q a w BOLD SHAFT|
  0g q a w BOLD SHAFT|0dn q a w BOLD SHAFT|0m q a w he SHAFT|0up q a w he SHAFT|0g q a w he SHAFT|
  0dn q a w he SHAFT|0m q a w VERY he SHAFT|0up q a w VERY he SHAFT|0g q a w VERY he SHAFT|
  0dn q a w VERY he SHAFT|0m FINGER-POST a|0up FINGER-POST a|0g FINGER-POST a|0dn FINGER-POST a|
  0m SQUARED a|0up SQUARED a|0g SQUARED a|0dn SQUARED a|0m COMPRESSED a|0up COMPRESSED a|
  0g COMPRESSED a|0dn COMPRESSED a|0m he COMPRESSED a|0up he COMPRESSED a|0g he COMPRESSED a|
  0dn he COMPRESSED a|0m he a|0up he a|0g he a|0dn he a|1F850:0m SANS-SERIF a|0up SANS-SERIF a|
  0g SANS-SERIF a|0dn SANS-SERIF a|0NORTH WEST SANS-SERIF a|1EAST SANS-SERIF a|
  0SOUTH EAST SANS-SERIF a|1WEST SANS-SERIF a|0t r SANS-SERIF a|0UP dw SANS-SERIF a|
  1F860:0WIDE-HEADED m li BARB a|1up li BARB a|1g li BARB a|1dn li BARB a|1NORTH WEST li BARB a|
  2EAST li BARB a|1SOUTH EAST li BARB a|2WEST li BARB a|1m BARB a|1up BARB a|1g BARB a|1dn BARB a|
  1NORTH WEST BARB a|2EAST BARB a|1SOUTH EAST BARB a|2WEST BARB a|1m md BARB a|1up md BARB a|
  1g md BARB a|1dn md BARB a|1NORTH WEST md BARB a|2EAST md BARB a|1SOUTH EAST md BARB a|
  2WEST md BARB a|1m he BARB a|1up he BARB a|1g he BARB a|1dn he BARB a|1NORTH WEST he BARB a|
  2EAST he BARB a|1SOUTH EAST he BARB a|2WEST he BARB a|1m VERY he BARB a|1up VERY he BARB a|
  1g VERY he BARB a|1dn VERY he BARB a|1NORTH WEST VERY he BARB a|2EAST VERY he BARB a|
  1SOUTH EAST VERY he BARB a|2WEST VERY he BARB a|1F890:0m tr ar|0up tr ar|0g tr ar|0dn tr ar|
  0m x a WITHIN tr ar|0up x a WITHIN tr ar|0g x a WITHIN tr ar|0dn x a WITHIN tr ar|
  0m a w NOTCHED TAIL|0up a w NOTCHED TAIL|0g a w NOTCHED TAIL|0dn a w NOTCHED TAIL|
  0he a SHAFT WIDTH on|4tw THIRDS|4on ha|5THIRD|0m BOTTOM-SHADED x a|0g BOTTOM SHADED x a|
  0m TOP SHADED x a|0g TOP SHADED x a|0m LEFT-SHADED x a|0g RIGHT-SHADED x a|0m RIGHT-SHADED x a|
  0g LEFT-SHADED x a|0m BACK-TILTED SHADOWED x a|0g BACK-TILTED SHADOWED x a|
  0m FRONT-TILTED SHADOWED x a|0g FRONT-TILTED SHADOWED x a|0x a SHAFT WIDTH on|4tw THIRDS|
  1F8B0:0a po up THEN NORTH WEST|2g THEN CURVING SOUTH WEST|1F900:0cr CROSS FORMEE w fo DOTS|
  4tw DOTS|3|0t ha ci w fo DOTS|4h DOTS|4tw DOTS|4do|3|0DOWNWARD FACING ho|2NOTCHED ho|2ho w do|
  2NOTCHED ho w do|0PINCHED FINGERS|0x HEART|0BROWN HEART|0PINCHING HAND|0ZIPPER-MOUTH FACE|
  0MONEY-MOUTH FACE|0FACE w THERMOMETER|0NERD FACE|0THINKING FACE|0FACE w HEAD-BANDAGE|0ROBOT FACE|
  0HUGGING FACE|0i OF THE HORNS|0CALL ME HAND|0RAISED BACK OF HAND|0LEFT-FACING FIST|
  0RIGHT-FACING FIST|0HANDSHAKE|0HAND w in j mi FINGERS CROSSED|0I LOVE YOU HAND i|
  0FACE w COWBOY HAT|0CLOWN FACE|0NAUSEATED FACE|0ROLLING ON THE FLOOR LAUGHING|0DROOLING FACE|
  0LYING FACE|0FACE PALM|0SNEEZING FACE|0FACE w on EYEBROW RAISED|0GRINNING FACE w STAR EYES|
  3on LARGE j on s EYE|0FACE w FINGER COVERING CLOSED LIPS|0SERIOUS FACE w SYMBOLS COVERING MOUTH|
  0SMILING FACE w SMILING EYES j HAND COVERING MOUTH|0FACE w OPEN MOUTH VOMITING|
  0SHOCKED FACE w EXPLODING HEAD|0PREGNANT WOMAN|0BREAST-FEEDING|0PALMS UP TOGETHER|0SELFIE|0PRINCE|
  0MAN IN TUXEDO|0MOTHER CHRISTMAS|0SHRUG|0PERSON DOING CARTWHEEL|0JUGGLING|0FENCER|
  0MODERN PENTATHLON|0WRESTLERS|0WATER POLO|0HANDBALL|0DIVING MASK|0WILTED FLOWER|
  0DRUM w DRUMSTICKS|0CLINKING GLASSES|0TUMBLER GLASS|0SPOON|0GOAL NET|0RIFLE|0FIRST PLACE MEDAL|
  0SECOND PLACE MEDAL|0THIRD PLACE MEDAL|0BOXING GLOVE|0MARTIAL ARTS UNIFORM|0CURLING STONE|
  0LACROSSE STICK j BALL|0SOFTBALL|0FLYING DISC|0CROISSANT|0AVOCADO|0CUCUMBER|0BACON|0POTATO|
  0CARROT|0BAGUETTE BREAD|0GREEN SALAD|0SHALLOW PAN OF FOOD|0STUFFED FLATBREAD|0EGG|0GLASS OF MILK|
  0PEANUTS|0KIWIFRUIT|0PANCAKES|0DUMPLING|0FORTUNE COOKIE|0TAKEOUT BOX|0CHOPSTICKS|0BOWL w SPOON|
  0CUP w STRAW|0COCONUT|0BROCCOLI|0PIE|0PRETZEL|0CUT OF MEAT|0SANDWICH|0CANNED FOOD|0LEAFY GREEN|
  0MANGO|0MOON CAKE|0BAGEL|0SMILING FACE w SMILING EYES j h HEARTS|0YAWNING FACE|
  0SMILING FACE w TEAR|0FACE w PARTY HORN j PARTY HAT|2UNEVEN EYES j WAVY MOUTH|0OVERHEATED FACE|
  0FREEZING FACE|0NINJA|0DISGUISED FACE|0FACE HOLDING BACK TEARS|1w PLEADING EYES|0SARI|0LAB COAT|
  0GOGGLES|0HIKING BOOT|0FLAT SHOE|0CRAB|0LION FACE|0SCORPION|0TURKEY|0UNICORN FACE|0EAGLE|0DUCK|
  0BAT|0SHARK|0OWL|0FOX FACE|0BUTTERFLY|0DEER|0GORILLA|0LIZARD|0RHINOCEROS|0SHRIMP|0SQUID|
  0GIRAFFE FACE|0ZEBRA FACE|0HEDGEHOG|0SAUROPOD|0T-REX|0CRICKET|0KANGAROO|0LLAMA|0PEACOCK|
  0HIPPOPOTAMUS|0PARROT|0RACCOON|0LOBSTER|0MOSQUITO|0MICROBE|0BADGER|0SWAN|0MAMMOTH|0DODO|0SLOTH|
  0OTTER|0ORANGUTAN|0SKUNK|0FLAMINGO|0OYSTER|0BEAVER|0BISON|0SEAL|0GUIDE DOG|0PROBING CANE|
  0EMOJI COMPONENT RED HAIR|2CURLY HAIR|2BALD|2x HAIR|0BONE|0LEG|0FOOT|0TOOTH|0SUPERHERO|
  0SUPERVILLAIN|0SAFETY VEST|0EAR w HEARING AID|0MOTORIZED WHEELCHAIR|0MANUAL WHEELCHAIR|
  0MECHANICAL ARM|1LEG|0CHEESE WEDGE|0CUPCAKE|0SALT SHAKER|0BEVERAGE BOX|0GARLIC|0ONION|0FALAFEL|
  0WAFFLE|0BUTTER|0MATE DRINK|0ICE CUBE|0BUBBLE TEA|0TROLL|0STANDING PERSON|0KNEELING PERSON|
  0DEAF PERSON|0FACE w MONOCLE|0ADULT|0CHILD|0OLDER ADULT|0BEARDED PERSON|0PERSON w HEADSCARF|
  1IN STEAMY ROOM|1CLIMBING|1IN LOTUS POSITION|0MAGE|0FAIRY|0VAMPIRE|0MERPERSON|0ELF|0GENIE|0ZOMBIE|
  0BRAIN|0ORANGE HEART|0BILLED CAP|0SCARF|0GLOVES|0COAT|0SOCKS|0RED GIFT ENVELOPE|0FIRECRACKER|
  0JIGSAW PUZZLE PIECE|0TEST TUBE|0PETRI DISH|0DNA d HELIX|0COMPASS|0ABACUS|0FIRE EXTINGUISHER|
  0TOOLBOX|0BRICK|0MAGNET|0LUGGAGE|0LOTION BOTTLE|0SPOOL OF THREAD|0BALL OF YARN|0SAFETY PIN|
  0TEDDY BEAR|0BROOM|0BASKET|0ROLL OF PAPER|0BAR OF SOAP|0SPONGE|0RECEIPT|0NAZAR AMULET|
  0NEUTRAL CHESS KING|2QUEEN|2ROOK|2BISHOP|2KNIGHT|2PAWN|0x CHESS KNIGHT ro FORTY-FIVE DEGREES|
  0u CHESS KNIGHT ro FORTY-FIVE DEGREES|0NEUTRAL CHESS KNIGHT ro FORTY-FIVE DEGREES|
  0x CHESS KING ro NINETY DEGREES|2QUEEN ro NINETY DEGREES|2ROOK ro NINETY DEGREES|
  2BISHOP ro NINETY DEGREES|2KNIGHT ro NINETY DEGREES|2PAWN ro NINETY DEGREES|
  0u CHESS KING ro NINETY DEGREES|2QUEEN ro NINETY DEGREES|2ROOK ro NINETY DEGREES|
  2BISHOP ro NINETY DEGREES|2KNIGHT ro NINETY DEGREES|2PAWN ro NINETY DEGREES|
  0NEUTRAL CHESS KING ro NINETY DEGREES|2QUEEN ro NINETY DEGREES|2ROOK ro NINETY DEGREES|
  2BISHOP ro NINETY DEGREES|2KNIGHT ro NINETY DEGREES|2PAWN ro NINETY DEGREES|
  0x CHESS KNIGHT ro on hu THIRTY-FIVE DEGREES|0u CHESS KNIGHT ro on hu THIRTY-FIVE DEGREES|
  0NEUTRAL CHESS KNIGHT ro on hu THIRTY-FIVE DEGREES|0x CHESS tu KING|3QUEEN|3ROOK|3BISHOP|3KNIGHT|
  3PAWN|0u CHESS tu KING|3QUEEN|3ROOK|3BISHOP|3KNIGHT|3PAWN|0NEUTRAL CHESS tu KING|3QUEEN|3ROOK|
  3BISHOP|3KNIGHT|3PAWN|0x CHESS KNIGHT ro tw hu TWENTY-FIVE DEGREES|
  0u CHESS KNIGHT ro tw hu TWENTY-FIVE DEGREES|0NEUTRAL CHESS KNIGHT ro tw hu TWENTY-FIVE DEGREES|
  0x CHESS KING ro tw hu SEVENTY DEGREES|2QUEEN ro tw hu SEVENTY DEGREES|
  2ROOK ro tw hu SEVENTY DEGREES|2BISHOP ro tw hu SEVENTY DEGREES|2KNIGHT ro tw hu SEVENTY DEGREES|
  2PAWN ro tw hu SEVENTY DEGREES|0u CHESS KING ro tw hu SEVENTY DEGREES|
  2QUEEN ro tw hu SEVENTY DEGREES|2ROOK ro tw hu SEVENTY DEGREES|2BISHOP ro tw hu SEVENTY DEGREES|
  2KNIGHT ro tw hu SEVENTY DEGREES|2PAWN ro tw hu SEVENTY DEGREES|
  0NEUTRAL CHESS KING ro tw hu SEVENTY DEGREES|2QUEEN ro tw hu SEVENTY DEGREES|
  2ROOK ro tw hu SEVENTY DEGREES|2BISHOP ro tw hu SEVENTY DEGREES|2KNIGHT ro tw hu SEVENTY DEGREES|
  2PAWN ro tw hu SEVENTY DEGREES|0x CHESS KNIGHT ro h hu FIFTEEN DEGREES|
  0u CHESS KNIGHT ro h hu FIFTEEN DEGREES|0NEUTRAL CHESS KNIGHT ro h hu FIFTEEN DEGREES|
  0x CHESS EQUIHOPPER|0u CHESS EQUIHOPPER|0NEUTRAL CHESS EQUIHOPPER|
  0x CHESS EQUIHOPPER ro NINETY DEGREES|0u CHESS EQUIHOPPER ro NINETY DEGREES|
  0NEUTRAL CHESS EQUIHOPPER ro NINETY DEGREES|0x CHESS KNIGHT-QUEEN|2KNIGHT-ROOK|2KNIGHT-BISHOP|
  0u CHESS KNIGHT-QUEEN|2KNIGHT-ROOK|2KNIGHT-BISHOP|1FA60:0XIANGQI RED GENERAL|2MANDARIN|2ELEPHANT|
  2HORSE|2CHARIOT|2CANNON|2SOLDIER|1u GENERAL|2MANDARIN|2ELEPHANT|2HORSE|2CHARIOT|2CANNON|2SOLDIER|
  1FA70:0BALLET SHOES|0ONE-PIECE SWIMSUIT|0BRIEFS|0SHORTS|0THONG SANDAL|1FA78:0DROP OF BLOOD|
  0ADHESIVE BANDAGE|0STETHOSCOPE|0X-RAY|0CRUTCH|1FA80:0YO-YO|0KITE|0PARACHUTE|0BOOMERANG|
  0MAGIC WAND|0PINATA|0NESTING DOLLS|1FA90:0RINGED PLANET|0CHAIR|0RAZOR|0AXE|0DIYA LAMP|0BANJO|
  0MILITARY HELMET|0ACCORDION|0LONG DRUM|0COIN|0CARPENTRY SAW|0SCREWDRIVER|0LADDER|0ho|0MIRROR|
  0WINDOW|0PLUNGER|0SEWING NEEDLE|0KNOT|0BUCKET|0MOUSE TRAP|0TOOTHBRUSH|0HEADSTONE|0PLACARD|0ROCK|
  0MIRROR BALL|0IDENTIFICATION CARD|0LOW BATTERY|0HAMSA|1FAB0:0FLY|0WORM|0BEETLE|0COCKROACH|
  0POTTED PLANT|0WOOD|0FEATHER|0LOTUS|0CORAL|0EMPTY NEST|0NEST w EGGS|1FAC0:0ANATOMICAL HEART|
  0LUNGS|0PEOPLE HUGGING|0PREGNANT MAN|1PERSON|0PERSON w CROWN|1FAD0:0BLUEBERRIES|0BELL PEPPER|
  0OLIVE|0FLATBREAD|0TAMALE|0FONDUE|0TEAPOT|0POURING LIQUID|0BEANS|0JAR|1FAE0:0MELTING FACE|
  0SALUTING FACE|0FACE w OPEN EYES j HAND OVER MOUTH|2PEEKING EYE|2DIAGONAL MOUTH|0DOTTED LINE FACE|
  0BITING LIP|0BUBBLES|1FAF0:0HAND w in FINGER j THUMB CROSSED|0g HAND|0m HAND|0PALM dw HAND|
  1UP HAND|0in po AT THE VIEWER|0HEART HANDS|1FB00:0BLOCK SEXTANT-1|1SEXTANT-2|1SEXTANT-12|
  1SEXTANT-3|1SEXTANT-13|1SEXTANT-23|1SEXTANT-123|1SEXTANT-4|1SEXTANT-14|1SEXTANT-24|1SEXTANT-124|
  1SEXTANT-34|1SEXTANT-134|1SEXTANT-234|1SEXTANT-1234|1SEXTANT-5|1SEXTANT-15|1SEXTANT-25|
  1SEXTANT-125|1SEXTANT-35|1SEXTANT-235|1SEXTANT-1235|1SEXTANT-45|1SEXTANT-145|1SEXTANT-245|
  1SEXTANT-1245|1SEXTANT-345|1SEXTANT-1345|1SEXTANT-2345|1SEXTANT-12345|1SEXTANT-6|1SEXTANT-16|
  1SEXTANT-26|1SEXTANT-126|1SEXTANT-36|1SEXTANT-136|1SEXTANT-236|1SEXTANT-1236|1SEXTANT-46|
  1SEXTANT-146|1SEXTANT-1246|1SEXTANT-346|1SEXTANT-1346|1SEXTANT-2346|1SEXTANT-12346|1SEXTANT-56|
  1SEXTANT-156|1SEXTANT-256|1SEXTANT-1256|1SEXTANT-356|1SEXTANT-1356|1SEXTANT-2356|1SEXTANT-12356|
  1SEXTANT-456|1SEXTANT-1456|1SEXTANT-2456|1SEXTANT-12456|1SEXTANT-3456|1SEXTANT-13456|
  1SEXTANT-23456|0lo t BLOCK DIAGONAL lo mi t TO lo CENTRE|9r|4UPPER mi t TO lo CENTRE|9r|
  5t TO lo CENTRE|1r BLOCK DIAGONAL UPPER mi t TO UPPER CENTRE|9r|4lo mi t TO UPPER CENTRE|9r|
  5t TO UPPER CENTRE|5mi t TO UPPER mi r|5CENTRE TO lo mi r|5t TO lo mi r|5CENTRE TO UPPER mi r|
  5t TO UPPER mi r|5CENTRE TO UPPER r|1t BLOCK DIAGONAL UPPER CENTRE TO UPPER mi r|5t TO UPPER mi r|
  5CENTRE TO lo mi r|5t TO lo mi r|5CENTRE TO lo r|5mi t TO lo mi r|
  0UPPER r BLOCK DIAGONAL lo mi t TO lo CENTRE|9r|4UPPER mi t TO lo CENTRE|9r|5t TO lo CENTRE|
  1t BLOCK DIAGONAL UPPER mi t TO UPPER CENTRE|9r|4lo mi t TO UPPER CENTRE|9r|5t TO UPPER CENTRE|
  5mi t TO UPPER mi r|5CENTRE TO lo mi r|5t TO lo mi r|5CENTRE TO UPPER mi r|5t TO UPPER mi r|
  5CENTRE TO UPPER r|1r BLOCK DIAGONAL UPPER CENTRE TO UPPER mi r|5t TO UPPER mi r|
  5CENTRE TO lo mi r|5t TO lo mi r|5CENTRE TO lo r|5mi t TO lo mi r|
  1j r j lo TRIANGULAR h QUARTERS BLOCK|0t j lo j r TRIANGULAR h QUARTERS BLOCK|
  0UPPER j t j lo TRIANGULAR h QUARTERS BLOCK|0t j UPPER j r TRIANGULAR h QUARTERS BLOCK|
  1TRIANGULAR on QUARTER BLOCK|0UPPER TRIANGULAR on QUARTER BLOCK|0r TRIANGULAR on QUARTER BLOCK|
  0lo TRIANGULAR on QUARTER BLOCK|0v on EIGHTH BLOCK-2+5|0z on EIGHTH BLOCK-2+5|
  0t j lo on EIGHTH BLOCK|2UPPER on EIGHTH BLOCK|0r j UPPER on EIGHTH BLOCK|2lo on EIGHTH BLOCK|
  0UPPER j lo on EIGHTH BLOCK|0z on EIGHTH BLOCK-1358|0UPPER on QUARTER BLOCK|1h EIGHTHS BLOCK|
  1fi EIGHTHS BLOCK|1h QUARTERS BLOCK|1se EIGHTHS BLOCK|0r on QUARTER BLOCK|1h EIGHTHS BLOCK|
  1fi EIGHTHS BLOCK|1h QUARTERS BLOCK|1se EIGHTHS BLOCK|0t ha md SHADE|0r ha md SHADE|
  0UPPER ha md SHADE|0lo ha md SHADE|0INVERSE md SHADE|0UPPER ha BLOCK j lo ha INVERSE md SHADE|
  2INVERSE md SHADE j lo ha BLOCK|1FB94:0t ha INVERSE md SHADE j r ha BLOCK|0CHECKER BOARD FILL|
  0INVERSE CHECKER BOARD FILL|0he z FILL|0UPPER t TO lo r FILL|1r TO lo t FILL|
  1j lo TRIANGULAR ha BLOCK|0t j r TRIANGULAR ha BLOCK|0UPPER t TRIANGULAR md SHADE|
  1r TRIANGULAR md SHADE|0lo r TRIANGULAR md SHADE|1t TRIANGULAR md SHADE|
  0BOX DRAWINGS li DIAGONAL UPPER CENTRE TO mi t|8r|4mi t TO lo CENTRE|5r TO lo CENTRE|
  4UPPER CENTRE TO mi t TO lo CENTRE|8r TO lo CENTRE|4mi t TO lo CENTRE TO mi r|
  7UPPER CENTRE TO mi r|4UPPER CENTRE TO mi t j mi r TO lo CENTRE|8r j mi t TO lo CENTRE|
  9TO lo CENTRE TO mi t|8t TO lo CENTRE TO mi r|4mi t TO UPPER CENTRE TO mi r TO lo CENTRE|
  5r TO UPPER CENTRE TO mi t TO lo CENTRE|4DIAMOND|3z w v k|0ARROWHEAD-SHAPED POINTER|
  0INVERSE CHECK mr|0t ha RUNNING MAN|0r ha RUNNING MAN|0INVERSE dn a w TIP m|
  0m a j UPPER j lo on EIGHTH BLOCK|0g a j UPPER j lo on EIGHTH BLOCK|0dn a j r on EIGHTH BLOCK|
  0up a j r on EIGHTH BLOCK|0t ha FOLDER|0r ha FOLDER|0VOIDED GREEK CROSS|0r OPEN SQUARED do|
  0NEGATIVE DIAGONAL CROSS|2mi r TO lo CENTRE|2DIAMOND|0x he SALTIRE w ROUNDED CORNERS|
  0t THIRD x r po in|0mi THIRD x r po in|0r THIRD x r po in|0NEGATIVE SQUARED QUESTION mr|
  0STICK FIGURE|2w ARMS RAISED|2LEANING t|3r|2w DRESS|0x UP-POINTING CHEVRON|
  1FBF0:0SEGMENTED dg ZERO|2on|2tw|2h|2fo|2fi|2SIX|2se|2ei|2ni|E0001:0LANGUAGE TAG|E0020:0TAG SPACE|
  1EXCLAMATION mr|1QUOTATION mr|1NUMBER i|1DOLLAR i|1PERCENT i|1AMPERSAND|1APOSTROPHE|1t pa|1r pa|
  1as|1pl i|1COMMA|1HYPHEN-MINUS|1FULL STOP|1SOLIDUS|1dg ZERO|2on|2tw|2h|2fo|2fi|2SIX|2se|2ei|2ni|
  1COLON|1SEMICOLON|1le i|1EQUALS i|1gr i|1QUESTION mr|1COMMERCIAL AT|1LATIN c l A|4B|4C|4D|4E|4F|
  4G|4H|4I|4J|4K|4L|4M|4N|4O|4P|4Q|4R|4S|4T|4U|4V|4W|4X|4Y|4Z|1t sq br|1REVERSE SOLIDUS|1r sq br|
  1cc ACCENT|1LOW LINE|1GRAVE ACCENT|1LATIN s l A|4B|4C|4D|4E|4F|4G|4H|4I|4J|4K|4L|4M|4N|4O|4P|4Q|
  4R|4S|4T|4U|4V|4W|4X|4Y|4Z|1t CURLY br|1v LINE|1r CURLY br|1ti|0CANCEL TAG|
  E0100:0VARIATION SELECTOR-17+82|1SELECTOR-100+156"

end Archetype.Text
