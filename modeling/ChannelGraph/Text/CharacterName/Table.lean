/-!
# The table of names of characters

The names that characters have been given one by one, with their other names, such as those of
control characters. Names that follow from a number or a sound are not in the table.
-/

namespace ChannelGraph.Text.CharacterName

/-- The names by their first letters. Names stand between commas, their words between blanks, and
where a name is listed together with others their words for the same place stand between
slashes. -/
def table : List (Char × String) := [
  ('A', "
ABACUS, AC CURRENT, ACCORDION, ACCOUNT OF, ACK, ACKNOWLEDGE, ACTIVATE ARABIC FORM SHAPING,
ACTIVATE SYMMETRIC SWAPPING, ACUTE ACCENT/ANGLE, ADDRESSED TO THE SUBJECT, ADHESIVE BANDAGE, ADI
SHAKTI, ADLAM ALIF/VOWEL LENGTHENER, ADLAM CAPITAL/SMALL LETTER
ALIF/BA/BHE/CHI/DAALI/DHA/E/FA/GA/GBE/HA/I/JIIM/KAF/KHA/KPO, ADLAM CAPITAL/SMALL LETTER
LAAM/MIIM/NHA/NUN/NYA/O/PE/QAAF/RA/SHA/SINNYIIYHE/TU/U/VA/WAW, ADLAM CAPITAL/SMALL LETTER
YA/YHE/ZAL, ADLAM CONSONANT MODIFIER, ADLAM DIGIT
EIGHT/FIVE/FOUR/NINE/ONE/SEVEN/SIX/THREE/TWO/ZERO, ADLAM GEMINATE CONSONANT MODIFIER, ADLAM
GEMINATION/NASALIZATION MARK, ADLAM HAMZA/NUKTA, ADLAM INITIAL EXCLAMATION/QUESTION MARK,
ADMETOS, ADMISSION TICKETS, ADULT, AEGEAN CHECK MARK, AEGEAN DRY/LIQUID MEASURE FIRST SUBUNIT,
AEGEAN MEASURE/WEIGHT SECOND/THIRD SUBUNIT, AEGEAN NUMBER
EIGHT/EIGHTY/FIFTY/FIVE/FORTY/FOUR/NINE/NINETY/ONE/SEVEN, AEGEAN NUMBER
EIGHT/EIGHTY/FIFTY/FIVE/FORTY/FOUR/NINE/NINETY/ONE/SEVEN THOUSAND, AEGEAN NUMBER
EIGHT/FIVE/FOUR/NINE/ONE/SEVEN/SIX/THREE/TWO HUNDRED, AEGEAN NUMBER
SEVENTY/SIX/SIXTY/TEN/THIRTY/THREE/TWENTY/TWO, AEGEAN NUMBER
SEVENTY/SIX/SIXTY/TEN/THIRTY/THREE/TWENTY/TWO THOUSAND, AEGEAN WEIGHT BASE UNIT, AEGEAN WEIGHT
FIRST/FOURTH SUBUNIT, AEGEAN WORD SEPARATOR DOT/LINE, AERIAL TRAMWAY, AFGHANI SIGN, AHOM
CONSONANT SIGN MEDIAL LA/RA, AHOM CONSONANT SIGN MEDIAL LIGATING RA, AHOM DIGIT
EIGHT/FIVE/FOUR/NINE/ONE/SEVEN/SIX/THREE/TWO/ZERO, AHOM LETTER
A/BA/BHA/CA/CHA/DA/DDA/DDHA/DHA/GA/GHA/HA/JA/JHA/KA/KHA/LA/LLA, AHOM LETTER ALTERNATE BA/GA/TA,
AHOM LETTER MA/NA/NGA/NNA/NYA/PA/PHA/RA/SA/TA/THA/TTA/TTHA, AHOM NUMBER TEN/TWENTY, AHOM SIGN
KILLER/RULAI/SECTION, AHOM SIGN SMALL SECTION, AHOM SYMBOL VI, AHOM VOWEL SIGN
A/AA/AI/AM/AW/E/I/II/O/U/UU, AIRPLANE, AIRPLANE ARRIVING/DEPARTURE, AKTIESELSKAB, ALARM CLOCK,
ALCHEMICAL SYMBOL FOR AIR/ALEMBIC/ALKALI/ALKALI-2/ALUM/AMALGAM/AQUAFORTIS/ARSENIC, ALCHEMICAL
SYMBOL FOR ANTIMONY/BISMUTH/COPPER/IRON/IRON-COPPER/LEAD/TIN ORE, ALCHEMICAL SYMBOL FOR AQUA
REGIA/REGIA-2/VITAE/VITAE-2, ALCHEMICAL SYMBOL FOR
ASHES/AURIPIGMENT/BORAX/BORAX-2/BORAX-3/BRICK/CADUCEUS/CALX, ALCHEMICAL SYMBOL FOR BATH OF
MARY/VAPOURS, ALCHEMICAL SYMBOL FOR BLACK/PHILOSOPHERS SULFUR, ALCHEMICAL SYMBOL FOR CAPUT
MORTUUM, ALCHEMICAL SYMBOL FOR CINNABAR/CRUCIBLE/CRUCIBLE-2/CRUCIBLE-3/CRUCIBLE-4/CRUCIBLE-5,
ALCHEMICAL SYMBOL FOR COPPER ANTIMONIATE, ALCHEMICAL SYMBOL FOR CROCUS OF COPPER-2, ALCHEMICAL
SYMBOL FOR CROCUS/REGULUS OF IRON, ALCHEMICAL SYMBOL FOR CROCUS/SUBLIMATE OF COPPER, ALCHEMICAL
SYMBOL FOR DAY-NIGHT/DISSOLVE/DISSOLVE-2/DISTILL/EARTH/FIRE/GOLD/GUM/HOUR, ALCHEMICAL SYMBOL FOR
HALF DRAM/OUNCE, ALCHEMICAL SYMBOL FOR HORSE DUNG, ALCHEMICAL SYMBOL FOR IRON ORE-2, ALCHEMICAL
SYMBOL FOR LODESTONE/MARCASITE/MONTH/NIGHT/NITRE/OIL/POWDER/PRECIPITATE, ALCHEMICAL SYMBOL FOR
MERCURY SUBLIMATE/SUBLIMATE-2/SUBLIMATE-3, ALCHEMICAL SYMBOL FOR POT ASHES, ALCHEMICAL SYMBOL
FOR POWDERED BRICK, ALCHEMICAL SYMBOL FOR
PURIFY/PUTREFACTION/QUINTESSENCE/REALGAR/REALGAR-2/REGULUS, ALCHEMICAL SYMBOL FOR QUICK LIME,
ALCHEMICAL SYMBOL FOR REGULUS OF ANTIMONY-2, ALCHEMICAL SYMBOL FOR
REGULUS-2/REGULUS-3/REGULUS-4/RETORT/SAL-AMMONIAC/SALT/SILVER, ALCHEMICAL SYMBOL FOR
REGULUS/SALT/SUBLIMATE/VINEGAR OF ANTIMONY, ALCHEMICAL SYMBOL FOR ROCK SALT/SALT-2, ALCHEMICAL
SYMBOL FOR SALT OF COPPER ANTIMONIATE, ALCHEMICAL SYMBOL FOR SCEPTER OF JOVE, ALCHEMICAL SYMBOL
FOR SOAP/SPIRIT/SUBLIMATION/SULFUR/TARTAR/TARTAR-2/TINCTURE/TRIDENT, ALCHEMICAL SYMBOL FOR
STARRED TRIDENT, ALCHEMICAL SYMBOL FOR STRATUM SUPER STRATUM/STRATUM-2, ALCHEMICAL SYMBOL FOR
SUBLIMATE OF SALT OF ANTIMONY/COPPER, ALCHEMICAL SYMBOL FOR
TUTTY/URINE/VERDIGRIS/VINEGAR/VINEGAR-2/VINEGAR-3/VITRIOL, ALCHEMICAL SYMBOL FOR
VITRIOL-2/WATER/WAX, ALEF SYMBOL, ALEMBIC, ALERT, ALIEN MONSTER, ALL AROUND-PROFILE, ALL EQUAL
TO, ALM, ALMOST EQUAL OR EQUAL TO, ALMOST EQUAL TO, ALMOST EQUAL TO WITH CIRCUMFLEX ACCENT,
ALTERNATE ONE-WAY LEFT WAY TRAFFIC, ALTERNATIVE KEY SYMBOL, AMALGAMATION OR COPRODUCT,
AMBULANCE, AMERICAN FOOTBALL, AMPERSAND, AMPHORA, ANATOLIAN HIEROGLYPH
A001/A002/A003/A004/A005/A006/A007/A008/A009/A010/A010A/A011, ANATOLIAN HIEROGLYPH
A012/A013/A014/A015/A016/A017/A018/A019/A020/A021/A022/A023, ANATOLIAN HIEROGLYPH
A024/A025/A026/A026A/A027/A028/A029/A030/A031/A032/A033/A034, ANATOLIAN HIEROGLYPH
A035/A036/A037/A038/A039/A039A/A040/A041/A041A/A042/A043/A044, ANATOLIAN HIEROGLYPH
A045/A045A/A046/A046A/A046B/A047/A048/A049/A050/A051/A052/A053, ANATOLIAN HIEROGLYPH
A054/A055/A056/A057/A058/A059/A060/A061/A062/A063/A064/A065, ANATOLIAN HIEROGLYPH
A066/A066A/A066B/A066C/A067/A068/A069/A070/A071/A072/A073/A074, ANATOLIAN HIEROGLYPH
A075/A076/A077/A078/A079/A080/A081/A082/A083/A084/A085/A086, ANATOLIAN HIEROGLYPH
A087/A088/A089/A090/A091/A092/A093/A094/A095/A096/A097/A097A, ANATOLIAN HIEROGLYPH
A098/A098A/A099/A100/A100A/A101/A101A/A102/A102A/A103/A104, ANATOLIAN HIEROGLYPH
A104A/A104B/A104C/A105/A105A/A105B/A106/A107/A107A/A107B/A107C, ANATOLIAN HIEROGLYPH
A108/A109/A110/A110A/A110B/A111/A112/A113/A114/A115/A115A/A116, ANATOLIAN HIEROGLYPH
A117/A118/A119/A120/A121/A122/A123/A124/A125/A125A/A126/A127, ANATOLIAN HIEROGLYPH
A128/A129/A130/A131/A132/A133/A134/A135/A135A/A136/A137/A138, ANATOLIAN HIEROGLYPH
A139/A140/A141/A142/A143/A144/A145/A146/A147/A148/A149/A150, ANATOLIAN HIEROGLYPH
A151/A152/A153/A154/A155/A156/A157/A158/A159/A160/A161/A162, ANATOLIAN HIEROGLYPH
A163/A164/A165/A166/A167/A168/A169/A170/A171/A172/A173/A174, ANATOLIAN HIEROGLYPH
A175/A176/A177/A178/A179/A180/A181/A182/A183/A184/A185/A186, ANATOLIAN HIEROGLYPH
A187/A188/A189/A190/A191/A192/A193/A194/A195/A196/A197/A198, ANATOLIAN HIEROGLYPH
A199/A200/A201/A202/A202A/A202B/A203/A204/A205/A206/A207/A207A, ANATOLIAN HIEROGLYPH
A208/A209/A209A/A210/A211/A212/A213/A214/A215/A215A/A216/A216A, ANATOLIAN HIEROGLYPH
A217/A218/A219/A220/A221/A222/A223/A224/A225/A226/A227/A227A, ANATOLIAN HIEROGLYPH
A228/A229/A230/A231/A232/A233/A234/A235/A236/A237/A238/A239, ANATOLIAN HIEROGLYPH
A240/A241/A242/A243/A244/A245/A246/A247/A248/A249/A250/A251, ANATOLIAN HIEROGLYPH
A252/A253/A254/A255/A256/A257/A258/A259/A260/A261/A262/A263, ANATOLIAN HIEROGLYPH
A264/A265/A266/A267/A267A/A268/A269/A270/A271/A272/A273/A274, ANATOLIAN HIEROGLYPH
A275/A276/A277/A278/A279/A280/A281/A282/A283/A284/A285/A286, ANATOLIAN HIEROGLYPH
A287/A288/A289/A289A/A290/A291/A292/A293/A294/A294A/A295/A296, ANATOLIAN HIEROGLYPH
A297/A298/A299/A299A/A300/A301/A302/A303/A304/A305/A306/A307, ANATOLIAN HIEROGLYPH
A308/A309/A309A/A310/A311/A312/A313/A314/A315/A316/A317/A318, ANATOLIAN HIEROGLYPH
A319/A320/A321/A322/A323/A324/A325/A326/A327/A328/A329/A329A, ANATOLIAN HIEROGLYPH
A330/A331/A332A/A332B/A332C/A333/A334/A335/A336/A336A/A336B, ANATOLIAN HIEROGLYPH
A336C/A337/A338/A339/A340/A341/A342/A343/A344/A345/A346/A347, ANATOLIAN HIEROGLYPH
A348/A349/A350/A351/A352/A353/A354/A355/A356/A357/A358/A359, ANATOLIAN HIEROGLYPH
A359A/A360/A361/A362/A363/A364/A364A/A365/A366/A367/A368/A368A, ANATOLIAN HIEROGLYPH
A369/A370/A371/A371A/A372/A373/A374/A375/A376/A377/A378/A379, ANATOLIAN HIEROGLYPH
A380/A381/A381A/A382/A383A/A384/A385/A386/A386A/A387/A388/A389, ANATOLIAN HIEROGLYPH A383 RA OR
RI, ANATOLIAN HIEROGLYPH A390/A391/A392/A394/A395/A396/A397/A398/A399/A400/A401/A402, ANATOLIAN
HIEROGLYPH A393 EIGHT, ANATOLIAN HIEROGLYPH
A403/A404/A405/A406/A407/A408/A409/A411/A412/A413/A414/A415, ANATOLIAN HIEROGLYPH A410 BEGIN
LOGOGRAM MARK, ANATOLIAN HIEROGLYPH A410A END LOGOGRAM MARK, ANATOLIAN HIEROGLYPH
A416/A417/A418/A419/A420/A421/A422/A423/A424/A425/A426/A427, ANATOLIAN HIEROGLYPH
A428/A429/A430/A431/A432/A433/A434/A435/A436/A437/A438/A439, ANATOLIAN HIEROGLYPH
A440/A441/A442/A443/A444/A445/A446/A447/A448/A449/A450/A450A, ANATOLIAN HIEROGLYPH
A451/A452/A453/A454/A455/A456/A457/A457A/A458/A459/A460/A461, ANATOLIAN HIEROGLYPH
A462/A463/A464/A465/A466/A467/A468/A469/A470/A471/A472/A473, ANATOLIAN HIEROGLYPH
A474/A475/A476/A477/A478/A479/A480/A481/A482/A483/A484/A485, ANATOLIAN HIEROGLYPH
A486/A487/A488/A489/A490/A491/A492/A493/A494/A495/A496/A497, ANATOLIAN HIEROGLYPH
A501/A502/A503/A504/A505/A506/A507/A508/A509/A510/A511/A512, ANATOLIAN HIEROGLYPH
A513/A514/A515/A516/A517/A518/A519/A520/A521/A522/A523/A524, ANATOLIAN HIEROGLYPH
A525/A526/A527/A528/A529/A530, ANATOMICAL HEART, ANCHOR, AND WITH DOT, ANGER SYMBOL, ANGLE,
ANGLE WITH S INSIDE, ANGLE WITH UNDERBAR, ANGRY FACE, ANGSTROM SIGN, ANGUISHED FACE, ANKH, ANT,
ANTENNA WITH BARS, ANTICLOCKWISE CLOSED/GAPPED/OPEN CIRCLE ARROW, ANTICLOCKWISE CONTOUR
INTEGRAL, ANTICLOCKWISE DOWNWARDS AND UPWARDS OPEN CIRCLE ARROWS, ANTICLOCKWISE INTEGRATION,
ANTICLOCKWISE TOP SEMICIRCLE ARROW, ANTICLOCKWISE TRIANGLE-HEADED BOTTOM/LEFT/RIGHT/TOP U-SHAPED
ARROW, ANTICLOCKWISE TRIANGLE-HEADED OPEN CIRCLE ARROW, APC, APL FUNCTIONAL SYMBOL
ALPHA/CIRCLE/DELTA/DIAMOND/EPSILON/IOTA/JOT/OMEGA/QUOTE UNDERBAR, APL FUNCTIONAL SYMBOL
ALPHA/I-BEAM/IOTA/OMEGA/QUAD/RHO/ZILDE, APL FUNCTIONAL SYMBOL BACKSLASH/COMMA/SLASH BAR, APL
FUNCTIONAL SYMBOL CIRCLE STAR, APL FUNCTIONAL SYMBOL CIRCLE/DEL/DELTA STILE, APL FUNCTIONAL
SYMBOL CIRCLE/DEL/GREATER-THAN/JOT/STAR/TILDE DIAERESIS, APL FUNCTIONAL SYMBOL CIRCLE/QUAD
BACKSLASH/JOT, APL FUNCTIONAL SYMBOL DEL/STILE TILDE, APL FUNCTIONAL SYMBOL DOWN TACK UNDERBAR,
APL FUNCTIONAL SYMBOL DOWN/LEFT SHOE STILE, APL FUNCTIONAL SYMBOL DOWN/UP CARET TILDE, APL
FUNCTIONAL SYMBOL DOWN/UP TACK JOT, APL FUNCTIONAL SYMBOL DOWNWARDS/LEFTWARDS/RIGHTWARDS/UPWARDS
VANE, APL FUNCTIONAL SYMBOL QUAD CIRCLE/COLON/DEL/DELTA/DIAMOND/DIVIDE/EQUAL/GREATER-THAN, APL
FUNCTIONAL SYMBOL QUAD DOWN/UP CARET, APL FUNCTIONAL SYMBOL QUAD
DOWNWARDS/LEFTWARDS/RIGHTWARDS/UPWARDS ARROW, APL FUNCTIONAL SYMBOL QUAD
LESS-THAN/QUESTION/SLASH, APL FUNCTIONAL SYMBOL QUAD NOT EQUAL, APL FUNCTIONAL SYMBOL
QUOTE/SQUISH QUAD, APL FUNCTIONAL SYMBOL SEMICOLON UNDERBAR, APL FUNCTIONAL SYMBOL UP SHOE JOT,
APL FUNCTIONAL SYMBOL UP TACK DIAERESIS/OVERBAR, APOLLON, APOSTROPHE, APPLICATION PROGRAM
COMMAND, APPROACHES THE LIMIT, APPROXIMATELY BUT NOT ACTUALLY EQUAL TO, APPROXIMATELY EQUAL OR
EQUAL TO, APPROXIMATELY EQUAL TO, APPROXIMATELY EQUAL TO OR THE IMAGE OF, AQUARIUS, ARABIC
BASELINE/RAISED ROUND DOT, ARABIC COMMA/DAMMA/DAMMATAN/FATHA/FATHATAN/KASRA/KASRATAN/RAY, ARABIC
CURLY/INVERTED/REVERSED/SMALL DAMMA, ARABIC CURLY/OPEN DAMMATAN/FATHATAN/KASRATAN, ARABIC
CURLY/SMALL FATHA/KASRA, ARABIC DAMMA WITH DOT, ARABIC
DAMMA/DAMMATAN/FATHA/FATHATAN/KASRA/KASRATAN/SHADDA/SUKUN ISOLATED FORM, ARABIC
DAMMA/FATHA/KASRA/SHADDA/SUKUN MEDIAL FORM, ARABIC DATE/DECIMAL/THOUSANDS SEPARATOR, ARABIC
DISPUTED END OF AYAH, ARABIC DOUBLE RIGHT ARROWHEAD ABOVE, ARABIC DOUBLE RIGHT ARROWHEAD ABOVE
WITH DOT, ARABIC DOUBLED MADDA, ARABIC EMPTY CENTRE HIGH/LOW STOP, ARABIC END OF AYAH, ARABIC
END OF TEXT MARK, ARABIC FATHA WITH DOT ABOVE, ARABIC FATHA WITH RING, ARABIC FATHA WITH TWO
DOTS, ARABIC FIVE POINTED STAR, ARABIC FOOTNOTE MARKER, ARABIC FULL STOP, ARABIC HALF MADDA OVER
MADDA, ARABIC HAMZA/MADDAH ABOVE, ARABIC HAMZA/SUKUN BELOW, ARABIC KASRA WITH DOT BELOW, ARABIC
LARGE CIRCLE BELOW, ARABIC LARGE ROUND DOT ABOVE/BELOW, ARABIC LARGE ROUND DOT INSIDE CIRCLE
BELOW, ARABIC LEFT/RIGHT ARROWHEAD ABOVE/BELOW, ARABIC LETTER
AE/BEEH/BEHEH/DAHAL/DDAHAL/DDAL/DUL/DYEH/E/GAF/GRAF/GUEH/HAMZA, ARABIC LETTER AFRICAN
FEH/NOON/QAF, ARABIC LETTER AFRICAN QAF WITH THREE DOTS ABOVE, ARABIC LETTER AIN WITH THREE DOTS
POINTING DOWNWARDS ABOVE, ARABIC LETTER
AIN/ALEF/BEEH/BEH/BEHEH/DAD/DAHAL/DAL/DDAHAL/DDAL/DUL/DYEH/E FINAL FORM, ARABIC LETTER
AIN/ALEF/BEEH/BEH/BEHEH/DAD/DAHAL/DAL/DDAHAL/DDAL/DUL/DYEH/E ISOLATED FORM, ARABIC LETTER
AIN/BEEH/BEH/BEHEH/DAD/DYEH/E/FEH/GAF/GHAIN/GUEH/HAH/HEH/JEEM INITIAL/MEDIAL FORM, ARABIC LETTER
AIN/DAL/FEH/JEEM/KAF/KEHEH/LAM/SAD/SEEN/TAH/YEH WITH THREE DOTS BELOW, ARABIC LETTER
AIN/GAF/GHAIN/HAH/JEEM/KEHEH/LAM/MEEM/NOON/QAF/SAD/TAH WITH THREE DOTS ABOVE, ARABIC LETTER
AIN/HAH/JEEM/KAF/KEHEH/REH/TAH/WAW WITH TWO DOTS ABOVE, ARABIC LETTER AIN/REH/SEEN WITH TWO DOTS
VERTICALLY ABOVE, ARABIC LETTER ALEF MAKSURA/WASLA, ARABIC LETTER ALEF MAKSURA/WASLA
FINAL/ISOLATED FORM, ARABIC LETTER ALEF WITH ATTACHED BOTTOM RIGHT KASRA, ARABIC LETTER ALEF
WITH ATTACHED BOTTOM RIGHT KASRA AND DOT ABOVE, ARABIC LETTER ALEF WITH ATTACHED BOTTOM RIGHT
KASRA AND LEFT RING, ARABIC LETTER ALEF WITH ATTACHED FATHA/KASRA, ARABIC LETTER ALEF WITH
ATTACHED LEFT/RIGHT HAMZA, ARABIC LETTER ALEF WITH ATTACHED LEFT/RIGHT ROUND DOT, ARABIC LETTER
ALEF WITH ATTACHED ROUND DOT ABOVE/BELOW, ARABIC LETTER ALEF WITH ATTACHED TOP RIGHT FATHA,
ARABIC LETTER ALEF WITH ATTACHED TOP RIGHT FATHA AND DOT ABOVE, ARABIC LETTER ALEF WITH ATTACHED
TOP RIGHT FATHA AND LEFT RING, ARABIC LETTER ALEF WITH HAMZA BELOW, ARABIC LETTER ALEF WITH
HAMZA BELOW FINAL/ISOLATED FORM, ARABIC LETTER ALEF WITH LEFT/RIGHT MIDDLE STROKE, ARABIC LETTER
ALEF WITH MADDA ABOVE, ARABIC LETTER ALEF WITH MADDA ABOVE FINAL/ISOLATED FORM, ARABIC LETTER
ALEF WITH RIGHT MIDDLE STROKE AND DOT ABOVE, ARABIC LETTER ALEF WITH RIGHT MIDDLE STROKE AND
LEFT RING, ARABIC LETTER ALEF WITH WAVY HAMZA ABOVE/BELOW, ARABIC LETTER
ALEF/BEH/HAH/REH/U/WAW/YEH WITH HAMZA ABOVE, ARABIC LETTER ALEF/KAF/KEHEH/LAM/MEEM/QAF/TCHEH/WAW
WITH DOT ABOVE, ARABIC LETTER ALEF/U/WAW/YEH WITH HAMZA ABOVE ISOLATED FORM, ARABIC LETTER
ALEF/WAW WITH EXTENDED ARABIC-INDIC DIGIT THREE/TWO ABOVE, ARABIC LETTER ALEF/WAW/YEH WITH HAMZA
ABOVE FINAL FORM, ARABIC LETTER BEH WITH THREE DOTS HORIZONTALLY BELOW, ARABIC LETTER BEH WITH
THREE DOTS POINTING UPWARDS BELOW AND TWO DOTS ABOVE, ARABIC LETTER BEH/DAL/HAH WITH INVERTED
SMALL V BELOW, ARABIC LETTER BEH/FEH WITH DOT BELOW AND THREE DOTS ABOVE, ARABIC LETTER
BEH/FEH/HAH/KEHEH WITH THREE DOTS POINTING UPWARDS BELOW, ARABIC LETTER
BEH/KEHEH/LAM/NOON/PEH/REH/TCHEH/TEH/TTEH/YEH WITH SMALL V, ARABIC LETTER BEH/PEH WITH SMALL
MEEM ABOVE, ARABIC LETTER BEH/REH WITH SMALL V BELOW, ARABIC LETTER BEH/YEH WITH TWO DOTS BELOW
AND DOT ABOVE, ARABIC LETTER DAD/DAL/FEH/GHAIN/KAF/MEEM/NOON/QAF/REH/SHEEN/TAH WITH DOT BELOW,
ARABIC LETTER DAL WITH DOT BELOW AND SMALL TAH, ARABIC LETTER DAL WITH TWO DOTS VERTICALLY BELOW
AND SMALL TAH, ARABIC LETTER DAL/GAF/KAF/NOON/REH/TEH/WAW WITH RING, ARABIC LETTER
DAL/HEH/REH/SEEN WITH INVERTED V, ARABIC LETTER DAL/REH/SEEN WITH FOUR DOTS ABOVE, ARABIC LETTER
DAL/TEH WITH THREE DOTS ABOVE DOWNWARDS, ARABIC LETTER FARSI YEH FINAL/INITIAL/ISOLATED/MEDIAL
FORM, ARABIC LETTER FARSI YEH WITH EXTENDED ARABIC-INDIC DIGIT FOUR BELOW, ARABIC LETTER FARSI
YEH WITH EXTENDED ARABIC-INDIC DIGIT THREE/TWO ABOVE, ARABIC LETTER FARSI YEH WITH INVERTED V,
ARABIC LETTER FARSI YEH WITH THREE/TWO DOTS ABOVE, ARABIC LETTER FEH WITH DOT MOVED BELOW,
ARABIC LETTER FEH/GAF/GHAIN/GUEH/HAH/HAMZA/HEH/JEEM/JEH/KAF/KEHEH/KHAH/LAM ISOLATED FORM, ARABIC
LETTER FEH/GAF/GHAIN/GUEH/HAH/HEH/JEEM/JEH/KAF/KEHEH/KHAH/LAM/MEEM/NG FINAL FORM, ARABIC LETTER
FEH/GAF/NOON/SAD WITH TWO DOTS BELOW, ARABIC LETTER GAF WITH INVERTED STROKE, ARABIC LETTER HAH
WITH EXTENDED ARABIC-INDIC DIGIT FOUR BELOW, ARABIC LETTER HAH WITH SMALL ARABIC LETTER TAH
BELOW, ARABIC LETTER HAH WITH TWO DOTS VERTICAL ABOVE, ARABIC LETTER HAH/LAM WITH SMALL ARABIC
LETTER TAH ABOVE, ARABIC LETTER HAH/REH/SEEN WITH SMALL ARABIC LETTER TAH AND TWO DOTS, ARABIC
LETTER HEH DOACHASHMEE/GOAL, ARABIC LETTER HEH DOACHASHMEE/GOAL FINAL/INITIAL/ISOLATED/MEDIAL
FORM, ARABIC LETTER HEH GOAL WITH HAMZA ABOVE, ARABIC LETTER HEH WITH YEH ABOVE, ARABIC LETTER
HEH WITH YEH ABOVE FINAL/ISOLATED FORM, ARABIC LETTER
HEH/JEH/KEHEH/NG/NGOEH/NYEH/OE/PEH/PEHEH/RNOON/RREH/TCHEH, ARABIC LETTER HIGH HAMZA, ARABIC
LETTER HIGH HAMZA ALEF/WAW/YEH, ARABIC LETTER
KAF/KEHEH/KHAH/LAM/MEEM/NG/NGOEH/NOON/NYEH/PEH/PEHEH/QAF/RNOON INITIAL/MEDIAL FORM, ARABIC
LETTER KASHMIRI/ROHINGYA/THIN YEH, ARABIC LETTER KEHEH WITH TWO DOTS VERTICALLY BELOW, ARABIC
LETTER KIRGHIZ OE/YU, ARABIC LETTER KIRGHIZ OE/YU FINAL/ISOLATED FORM, ARABIC LETTER LAM WITH
BAR, ARABIC LETTER LAM WITH DOUBLE BAR, ARABIC LETTER LOW/SUPERSCRIPT ALEF, ARABIC LETTER
MEEM/NG/NGOEH/NOON/NYEH/OE/PEH/PEHEH/QAF/REH/RNOON/RREH/SAD ISOLATED FORM, ARABIC LETTER
NGOEH/NOON/NYEH/OE/PEH/PEHEH/QAF/REH/RNOON/RREH/SAD/SEEN/SHEEN FINAL FORM, ARABIC LETTER NOON
GHUNNA FINAL/ISOLATED FORM, ARABIC LETTER NOON WITH INVERTED SMALL V, ARABIC LETTER NOON WITH
SMALL TAH, ARABIC LETTER QAF WITH DOT BELOW AND NO DOTS ABOVE, ARABIC LETTER REH WITH
LOOP/STROKE, ARABIC LETTER REH WITH SMALL NOON ABOVE, ARABIC LETTER REH/SEEN WITH DOT BELOW AND
DOT ABOVE, ARABIC LETTER SAD/SEEN/SHEEN/TAH/TCHEH/TCHEHEH/TEH/TEHEH/THEH/TTEH/TTEHEH/VEH
INITIAL/MEDIAL FORM, ARABIC LETTER SEEN WITH EXTENDED ARABIC-INDIC DIGIT FOUR ABOVE, ARABIC
LETTER SEEN WITH THREE DOTS BELOW AND THREE DOTS ABOVE, ARABIC LETTER
SEEN/SHEEN/TAH/TCHEH/TCHEHEH/TEH/TEHEH/THAL/THEH/TTEH/TTEHEH/U ISOLATED FORM, ARABIC LETTER
STRAIGHT WAW, ARABIC LETTER SWASH KAF, ARABIC LETTER
TAH/TCHEH/TCHEHEH/TEH/TEHEH/THAL/THEH/TTEH/TTEHEH/U/VE/VEH/WAW FINAL FORM, ARABIC LETTER
TCHEHEH/TEHEH/TTEH/TTEHEH/U/VE/VEH/YU, ARABIC LETTER TEH MARBUTA, ARABIC LETTER TEH MARBUTA
FINAL/ISOLATED FORM, ARABIC LETTER TEH MARBUTA GOAL, ARABIC LETTER TEH WITH SMALL TEH ABOVE,
ARABIC LETTER UIGHUR KAZAKH KIRGHIZ ALEF MAKSURA INITIAL/MEDIAL FORM, ARABIC LETTER
VE/VEH/WAW/YEH/YU/ZAH/ZAIN ISOLATED FORM, ARABIC LETTER WAW WITH DOT WITHIN, ARABIC LETTER YEH
BARREE, ARABIC LETTER YEH BARREE FINAL/ISOLATED FORM, ARABIC LETTER YEH BARREE WITH EXTENDED
ARABIC-INDIC DIGIT THREE/TWO ABOVE, ARABIC LETTER YEH BARREE WITH HAMZA ABOVE, ARABIC LETTER YEH
BARREE WITH HAMZA ABOVE FINAL/ISOLATED FORM, ARABIC LETTER YEH WITH HAMZA ABOVE INITIAL/MEDIAL
FORM, ARABIC LETTER YEH WITH TAIL, ARABIC LETTER YEH WITH TWO DOTS BELOW AND HAMZA ABOVE, ARABIC
LETTER YEH WITH TWO DOTS BELOW AND SMALL NOON ABOVE, ARABIC LETTER YEH/YU/ZAH/ZAIN FINAL FORM,
ARABIC LETTER YEH/ZAH INITIAL/MEDIAL FORM, ARABIC LETTER ZAIN WITH INVERTED V ABOVE, ARABIC
LETTER/MARK NOON GHUNNA, ARABIC LETTER/MATHEMATICAL
AIN/BEH/DAD/DAL/FEH/GHAIN/HAH/JEEM/KAF/KHAH/LAM/MEEM/NOON/QAF, ARABIC LETTER/MATHEMATICAL
DOTLESS BEH/FEH/QAF, ARABIC LETTER/MATHEMATICAL REH/SAD/SEEN/SHEEN/TAH/TEH/THAL/THEH/ZAH/ZAIN,
ARABIC LETTER/MATHEMATICAL/SMALL WAW/YEH, ARABIC LETTER/MATHEMATICAL/SUBSCRIPT ALEF, ARABIC
LETTER/QUESTION MARK, ARABIC LETTER/SMALL FARSI YEH, ARABIC LIGATURE
AIN/BEH/DAD/FEH/GHAIN/HAH/HEH/JEEM/KAF/KHAH/LAM/MEEM/NOON/QAF WITH ALEF MAKSURA ISOLATED FORM,
ARABIC LIGATURE AIN/BEH/DAD/FEH/GHAIN/HAH/HEH/JEEM/KAF/KHAH/LAM/MEEM/NOON/QAF WITH MEEM
INITIAL/ISOLATED FORM, ARABIC LIGATURE
AIN/BEH/DAD/FEH/GHAIN/HAH/HEH/JEEM/KAF/KHAH/LAM/MEEM/NOON/QAF WITH YEH ISOLATED FORM, ARABIC
LIGATURE AIN/BEH/DAD/FEH/GHAIN/HAH/HEH/KAF/KHAH/LAM/MEEM/NOON/SEEN/SHEEN WITH JEEM INITIAL FORM,
ARABIC LIGATURE AIN/BEH/DAD/FEH/GHAIN/HAH/HEH/KAF/KHAH/LAM/MEEM/NOON/SEEN/SHEEN WITH JEEM
ISOLATED FORM, ARABIC LIGATURE AIN/BEH/DAD/FEH/GHAIN/HAH/JEEM/KAF/KHAH/LAM/NOON/QAF/SAD/SEEN
WITH ALEF MAKSURA FINAL FORM, ARABIC LIGATURE
AIN/BEH/DAD/FEH/GHAIN/HAH/JEEM/KAF/KHAH/LAM/NOON/QAF/SAD/SEEN WITH YEH FINAL FORM, ARABIC
LIGATURE AIN/FEH/GHAIN/HAH/JEEM/KAF/LAM/MEEM/NOON/QAF/TAH/TEH/YEH WITH MEEM WITH YEH FINAL FORM,
ARABIC LIGATURE AIN/GHAIN/HAH/JEEM/NOON/TEH WITH MEEM WITH ALEF MAKSURA FINAL FORM, ARABIC
LIGATURE AIN/GHAIN/KAF/QAF/SAD/SEEN/SHEEN/YEH WITH MEEM WITH MEEM FINAL FORM, ARABIC LIGATURE
AIN/HEH/KAF/SAD/SEEN/SHEEN/TAH/YEH WITH MEEM WITH MEEM INITIAL FORM, ARABIC LIGATURE
AIN/LAM/MEEM/NOON/TEH WITH JEEM WITH MEEM INITIAL FORM, ARABIC LIGATURE AIN/LAM/NOON WITH JEEM
WITH MEEM FINAL FORM, ARABIC LIGATURE AKBAR/ALAYHE/ALLAH/MOHAMMAD/RASOUL/SALAM/SALLA/WASALLAM
ISOLATED FORM, ARABIC LIGATURE ALAYHAA/ALAYHI/ALAYHIM/ALAYHIMAA AS-SALAAM, ARABIC LIGATURE
ALAYHI AS-SALAATU WAS-SALAAM, ARABIC LIGATURE ALEF MAKSURA WITH SUPERSCRIPT ALEF FINAL/ISOLATED
FORM, ARABIC LIGATURE ALEF WITH FATHATAN FINAL/ISOLATED FORM, ARABIC LIGATURE AZZA WA JALL,
ARABIC LIGATURE BEH/DAD/FEH/JEEM/KAF/KHAH/LAM/MEEM/NOON/QAF/SAD/SEEN/SHEEN/TAH WITH HAH ISOLATED
FORM, ARABIC LIGATURE BEH/DAD/FEH/JEEM/KAF/LAM/MEEM/NOON/QAF/SAD/SEEN/SHEEN/TAH/TEH WITH HAH
INITIAL FORM, ARABIC LIGATURE BEH/DAD/FEH/KAF/LAM/MEEM/NOON/SAD/SEEN/SHEEN/TEH/YEH WITH KHAH
INITIAL FORM, ARABIC LIGATURE BEH/DAD/FEH/KAF/LAM/MEEM/NOON/SEEN/SHEEN/TEH/YEH WITH KHAH
ISOLATED FORM, ARABIC LIGATURE BEH/DAD/JEEM/LAM/MEEM/NOON/SAD/SHEEN/YEH WITH HAH WITH YEH FINAL
FORM, ARABIC LIGATURE BEH/DAD/NOON/SAD/SEEN/SHEEN/TEH/THEH/YEH WITH REH FINAL FORM, ARABIC
LIGATURE BEH/KAF/LAM/MEEM/NOON/SHEEN/TEH/THEH/YEH WITH MEEM FINAL FORM, ARABIC LIGATURE
BEH/KAF/LAM/NOON/SEEN/SHEEN/TAH/TEH/THEH/YEH/ZAH WITH MEEM MEDIAL FORM, ARABIC LIGATURE
BEH/LAM/NOON/SEEN/SHEEN/TEH/YEH WITH HEH INITIAL FORM, ARABIC LIGATURE BEH/MEEM/SEEN/TEH WITH
KHAH WITH YEH FINAL FORM, ARABIC LIGATURE BEH/NOON/SEEN/SHEEN/TEH/THEH/YEH WITH HEH MEDIAL FORM,
ARABIC LIGATURE BEH/NOON/TEH/THEH/YEH WITH NOON/ZAIN FINAL FORM, ARABIC LIGATURE BISMILLAH
AR-RAHMAN AR-RAHEEM, ARABIC LIGATURE DAD/FEH/LAM WITH KHAH WITH MEEM FINAL FORM, ARABIC LIGATURE
DAD/FEH/LAM/MEEM/TEH WITH KHAH WITH MEEM INITIAL FORM, ARABIC LIGATURE DAD/JEEM/LAM/NOON WITH
HAH WITH ALEF MAKSURA FINAL FORM, ARABIC LIGATURE DAD/SAD/SEEN/SHEEN WITH REH ISOLATED FORM,
ARABIC LIGATURE HAH/LAM/MEEM/NOON/SHEEN/TEH/YEH WITH JEEM WITH YEH FINAL FORM, ARABIC LIGATURE
HEH WITH SUPERSCRIPT ALEF INITIAL FORM, ARABIC LIGATURE HEH/SEEN/TEH WITH MEEM WITH JEEM INITIAL
FORM, ARABIC LIGATURE JALLAJALALOUHOU, ARABIC LIGATURE JEEM/LAM/QAF/SEEN/TAH WITH MEEM WITH HAH
FINAL FORM, ARABIC LIGATURE JEEM/LAM/QAF/SEEN/TAH/TEH WITH MEEM WITH HAH INITIAL FORM, ARABIC
LIGATURE KAF WITH LAM FINAL/INITIAL/ISOLATED/MEDIAL FORM, ARABIC LIGATURE KAF/LAM WITH ALEF
ISOLATED FORM, ARABIC LIGATURE KAF/LAM/MEEM WITH ALEF FINAL FORM, ARABIC LIGATURE LAM WITH ALEF
WITH HAMZA BELOW FINAL/ISOLATED FORM, ARABIC LIGATURE LAM WITH ALEF WITH HAMZA/MADDA ABOVE
FINAL/ISOLATED FORM, ARABIC LIGATURE LAM WITH JEEM WITH JEEM FINAL/INITIAL FORM, ARABIC LIGATURE
LAM/MEEM/NOON/SHEEN/TEH WITH HAH WITH MEEM INITIAL FORM, ARABIC LIGATURE LAM/SHEEN WITH HAH WITH
MEEM FINAL FORM, ARABIC LIGATURE MEEM WITH JEEM WITH KHAH INITIAL FORM, ARABIC LIGATURE MEEM
WITH KHAH WITH JEEM INITIAL FORM, ARABIC LIGATURE MEEM/NOON/SEEN WITH JEEM WITH HAH INITIAL
FORM, ARABIC LIGATURE MEEM/SEEN/TEH WITH HAH WITH JEEM INITIAL FORM, ARABIC LIGATURE NOON WITH
JEEM WITH HAH FINAL FORM, ARABIC LIGATURE NOON/SEEN/TEH WITH JEEM WITH ALEF MAKSURA FINAL FORM,
ARABIC LIGATURE QALA/SALLA USED AS KORANIC STOP SIGN ISOLATED FORM, ARABIC LIGATURE QUDDISA
SIRRAH, ARABIC LIGATURE RADI ALLAAHU ANH/ANHAA/ANHUM/ANHUMAA/ANHUNNA, ARABIC LIGATURE
RAHIMAHU/RAHIMAHUM ALLAAH, ARABIC LIGATURE REH/SHADDA/THAL WITH SUPERSCRIPT ALEF ISOLATED FORM,
ARABIC LIGATURE SAD WITH HAH WITH HAH FINAL/INITIAL FORM, ARABIC LIGATURE
SAD/SEEN/SHEEN/TAH/TEH/THEH/YEH WITH ALEF MAKSURA ISOLATED FORM, ARABIC LIGATURE
SAD/SEEN/SHEEN/TAH/TEH/THEH/YEH WITH YEH ISOLATED FORM, ARABIC LIGATURE
SAD/SEEN/SHEEN/TAH/TEH/THEH/YEH/ZAH WITH MEEM INITIAL/ISOLATED FORM, ARABIC LIGATURE SALAAMUHU
ALAYNAA, ARABIC LIGATURE SALLALLAAHU ALAYHI WA-AALIH, ARABIC LIGATURE SALLALLAHOU ALAYHE
WASALLAM, ARABIC LIGATURE SALLALLAHU ALAYHI WAAALIHEE WA-SALLAM, ARABIC LIGATURE SEEN/SHEEN WITH
HAH/JEEM/KHAH MEDIAL FORM, ARABIC LIGATURE SEEN/TEH WITH KHAH WITH ALEF MAKSURA FINAL FORM,
ARABIC LIGATURE SHADDA WITH DAMMA/DAMMATAN/FATHA/KASRA/KASRATAN ISOLATED FORM, ARABIC LIGATURE
SHADDA WITH DAMMA/FATHA/KASRA MEDIAL FORM, ARABIC LIGATURE SHEEN WITH HAH/JEEM/KHAH FINAL FORM,
ARABIC LIGATURE SHEEN WITH MEEM WITH KHAH FINAL FORM, ARABIC LIGATURE SHEEN/TAH/TEH/THEH/YEH
WITH ALEF MAKSURA FINAL FORM, ARABIC LIGATURE SHEEN/TAH/TEH/THEH/YEH WITH YEH FINAL FORM, ARABIC
LIGATURE SHEEN/TEH WITH MEEM WITH KHAH INITIAL FORM, ARABIC LIGATURE SUBHAANAHU WA TAAALAA,
ARABIC LIGATURE TABAARAKA WA-TAAALAA, ARABIC LIGATURE TEH WITH HAH WITH JEEM FINAL FORM, ARABIC
LIGATURE TEH/THEH/YEH WITH JEEM ISOLATED FORM, ARABIC LIGATURE TEH/YEH WITH HAH ISOLATED FORM,
ARABIC LIGATURE TEH/YEH WITH JEEM INITIAL FORM, ARABIC LIGATURE UIGHUR KIRGHIZ YEH WITH HAMZA
ABOVE WITH ALEF MAKSURA FINAL/INITIAL/ISOLATED FORM, ARABIC LIGATURE YEH WITH HAH INITIAL FORM,
ARABIC LIGATURE YEH WITH HAMZA ABOVE WITH AE/ALEF/E/HAH/JEEM/MEEM/OE/U/WAW/YEH/YU ISOLATED FORM,
ARABIC LIGATURE YEH WITH HAMZA ABOVE WITH AE/ALEF/E/MEEM/NOON/OE/REH/U/WAW/YEH/YU/ZAIN FINAL
FORM, ARABIC LIGATURE YEH WITH HAMZA ABOVE WITH ALEF MAKSURA FINAL/ISOLATED FORM, ARABIC
LIGATURE YEH WITH HAMZA ABOVE WITH E/HAH/HEH/JEEM/KHAH/MEEM INITIAL FORM, ARABIC LIGATURE YEH
WITH HAMZA ABOVE WITH HEH/MEEM MEDIAL FORM, ARABIC MADDA WAAJIB, ARABIC MARK SIDEWAYS NOON
GHUNNA, ARABIC MATHEMATICAL DOTLESS/DOUBLE-STRUCK/INITIAL/LOOPED/STRETCHED/TAILED NOON, ARABIC
MATHEMATICAL DOUBLE-STRUCK/INITIAL/LOOPED/STRETCHED BEH/FEH/MEEM/TEH/THEH, ARABIC MATHEMATICAL
DOUBLE-STRUCK/INITIAL/LOOPED/STRETCHED/TAILED
AIN/DAD/GHAIN/HAH/JEEM/KHAH/QAF/SAD/SEEN/SHEEN/YEH, ARABIC MATHEMATICAL
DOUBLE-STRUCK/INITIAL/LOOPED/TAILED LAM, ARABIC MATHEMATICAL DOUBLE-STRUCK/LOOPED
DAL/REH/THAL/WAW/ZAIN, ARABIC MATHEMATICAL DOUBLE-STRUCK/LOOPED/STRETCHED TAH/ZAH, ARABIC
MATHEMATICAL INITIAL/LOOPED/STRETCHED HEH, ARABIC MATHEMATICAL INITIAL/STRETCHED KAF, ARABIC
MATHEMATICAL LOOPED ALEF, ARABIC MATHEMATICAL OPERATOR HAH WITH DAL, ARABIC MATHEMATICAL
OPERATOR MEEM WITH HAH WITH TATWEEL, ARABIC MATHEMATICAL STRETCHED DOTLESS BEH/FEH, ARABIC
MATHEMATICAL TAILED DOTLESS NOON/QAF, ARABIC NUMBER/PERCENT SIGN, ARABIC NUMBER/PIASTRE/POUND
MARK ABOVE, ARABIC PLACE OF SAJDAH, ARABIC POETIC VERSE SIGN, ARABIC RIGHT ARROWHEAD ABOVE WITH
DOT, ARABIC ROUNDED HIGH STOP WITH FILLED CENTRE, ARABIC
SEMICOLON/SHADDA/SUKUN/TATWEEL/ZWARAKAY, ARABIC SIGN ALAYHE ASSALLAM, ARABIC SIGN
MISRA/SAFHA/SAMVAT/SANAH/TAKHALLUS, ARABIC SIGN RADI ALLAHOU ANHU, ARABIC SIGN RAHMATULLAH
ALAYHE, ARABIC SIGN SALLALLAHOU ALAYHE WASSALLAM, ARABIC SIGN SINDHI AMPERSAND, ARABIC SIGN
SINDHI POSTPOSITION MEN, ARABIC SMALL HIGH AIN/JEEM/MADDA/NOON/QAF/SAD/TAH/YEH/ZAH/ZAIN, ARABIC
SMALL HIGH DOTLESS HEAD OF KHAH, ARABIC SMALL HIGH FARSI YEH, ARABIC SMALL HIGH FOOTNOTE MARKER,
ARABIC SMALL HIGH LAM ALEF, ARABIC SMALL HIGH LIGATURE ALEF WITH LAM WITH YEH, ARABIC SMALL HIGH
LIGATURE QAF/SAD WITH LAM WITH ALEF MAKSURA, ARABIC SMALL HIGH MEEM INITIAL/ISOLATED FORM,
ARABIC SMALL HIGH ROUNDED ZERO, ARABIC SMALL HIGH SIGN SAFHA, ARABIC SMALL HIGH THREE DOTS,
ARABIC SMALL HIGH UPRIGHT RECTANGULAR ZERO, ARABIC SMALL HIGH WORD
AL-JUZ/AN-NISF/AR-RUB/AS-SAJDA/ATH-THALATHA/QIF/SAH/SAKTA/WAQFA, ARABIC SMALL HIGH YEH BARREE
WITH TWO DOTS BELOW, ARABIC SMALL HIGH/LOW NOON WITH KASRA, ARABIC SMALL HIGH/LOW SEEN/WAW,
ARABIC SMALL LOW MEEM, ARABIC SMALL LOW WORD IMAALA/ISHMAAM/TASHEEL, ARABIC START OF RUB EL
HIZB, ARABIC SUPERSCRIPT ALEF MOKHASSAS, ARABIC SYMBOL DOT BELOW, ARABIC SYMBOL DOT/WASLA ABOVE,
ARABIC SYMBOL DOUBLE VERTICAL BAR BELOW, ARABIC SYMBOL FOUR/THREE DOTS ABOVE/BELOW, ARABIC
SYMBOL RING, ARABIC SYMBOL SMALL TAH ABOVE/BELOW, ARABIC SYMBOL THREE DOTS POINTING DOWNWARDS
ABOVE/BELOW, ARABIC SYMBOL TWO DOTS VERTICALLY ABOVE/BELOW, ARABIC SYMBOL/TONE TWO DOTS
ABOVE/BELOW, ARABIC TAIL FRAGMENT, ARABIC TATWEEL WITH FATHATAN ABOVE, ARABIC TATWEEL WITH
OVERSTRUCK HAMZA/WAW, ARABIC TATWEEL WITH TWO DOTS BELOW, ARABIC TONE LOOP ABOVE/BELOW, ARABIC
TONE ONE DOT ABOVE/BELOW, ARABIC TRIPLE DOT PUNCTUATION MARK, ARABIC TURNED DAMMA BELOW, ARABIC
VERTICAL TAIL, ARABIC VOWEL SIGN DOT BELOW, ARABIC VOWEL SIGN INVERTED SMALL V ABOVE, ARABIC
VOWEL SIGN SMALL V ABOVE, ARABIC WAVY HAMZA BELOW, ARABIC-INDIC CUBE/FOURTH ROOT, ARABIC-INDIC
DIGIT EIGHT/FIVE/FOUR/NINE/ONE/SEVEN/SIX/THREE/TWO/ZERO, ARABIC-INDIC PER MILLE SIGN,
ARABIC-INDIC PER TEN THOUSAND SIGN, ARC, ARIES, ARMENIAN
ABBREVIATION/EMPHASIS/EXCLAMATION/QUESTION MARK, ARMENIAN APOSTROPHE/COMMA/HYPHEN, ARMENIAN
CAPITAL/SMALL LETTER AYB/BEN/CA/CHA/CHEH/CO/DA/ECH/EH/ET/FEH/GHAD/GIM/HO/INI/JA/JHEH, ARMENIAN
CAPITAL/SMALL LETTER KEH/KEN/LIWN/MEN/NOW/OH/PEH/PIWR/RA/REH/SEH/SHA/TIWN/TO/VEW/VO, ARMENIAN
CAPITAL/SMALL LETTER XEH/YI/YIWN/ZA/ZHE, ARMENIAN DRAM SIGN, ARMENIAN FULL STOP, ARMENIAN
MODIFIER LETTER LEFT HALF RING, ARMENIAN SMALL LETTER TURNED AYB, ARMENIAN SMALL LETTER YI WITH
STROKE, ARMENIAN SMALL LIGATURE ECH YIWN, ARMENIAN SMALL LIGATURE MEN ECH/INI/XEH, ARMENIAN
SMALL LIGATURE MEN/VEW NOW, ARROW POINTING DOWNWARDS THEN CURVING LEFTWARDS/RIGHTWARDS, ARROW
POINTING RIGHTWARDS THEN CURVING DOWNWARDS/UPWARDS, ARROW POINTING RIGHTWARDS THEN CURVING SOUTH
WEST, ARROW POINTING UPWARDS THEN NORTH WEST, ARROWHEAD-SHAPED POINTER, ARTICULATED LORRY,
ARTIST PALETTE, ASCENDING NODE, ASCIA SYMBOL, ASSERTION, ASTERISK, ASTERISK OPERATOR, ASTERISM,
ASTONISHED FACE, ASTRAEA, ASTRONOMICAL SYMBOL FOR URANUS, ASYMPTOTICALLY EQUAL TO, ATHLETIC
SHOE, ATOM SYMBOL, AUBERGINE, AUSTRAL SIGN, AUTO RICKSHAW, AUTOMATED TELLER MACHINE, AUTOMOBILE,
AVESTAN ABBREVIATION MARK, AVESTAN LETTER
A/AA/AAN/AAO/AE/AEE/AN/AO/BE/BHE/CE/DE/DHE/E/EE/FE/GE/GGE/GHE, AVESTAN LETTER
HE/HME/I/II/JE/KE/LE/ME/NE/NGE/NGVE/NGYE/NNE/NYE/O/OO/PE/RE/SE, AVESTAN LETTER
SHE/SHYE/SSHE/TE/THE/TTE/U/UU/VE/XE/XVE/XYE/YE/YYE/ZE/ZHE, AVOCADO, AXE"),
  ('B', "
BABY, BABY ANGEL/BOTTLE/CHICK/SYMBOL, BACK OF ENVELOPE, BACK WITH LEFTWARDS ARROW ABOVE,
BACK-TILTED SHADOWED WHITE RIGHTWARDS ARROW, BACKSLANTED SOUTH ARROW WITH HOOKED/HORIZONTAL
TAIL, BACKSPACE, BACON, BACTRIAN CAMEL, BADGER, BADMINTON RACQUET AND SHUTTLECOCK, BAGEL,
BAGGAGE CLAIM, BAGUETTE BREAD, BALINESE ADEG ADEG, BALINESE CARIK PAMUNGKAH/PAREREN/SIKI,
BALINESE DIGIT EIGHT/FIVE/FOUR/NINE/ONE/SEVEN/SIX/THREE/TWO/ZERO, BALINESE LETTER
AIKARA/AKARA/BA/CA/DA/EKARA/GA/HA/IKARA/JA/KA/LA/MA/NA/NGA/NYA, BALINESE LETTER
AKARA/IKARA/OKARA/UKARA TEDUNG, BALINESE LETTER ARCHAIC JNYA, BALINESE LETTER
ASYURA/EF/KAF/KHOT/TZIR/VE/ZAL SASAK, BALINESE LETTER BA KEMBANG, BALINESE LETTER CA LACA,
BALINESE LETTER DA MADU, BALINESE LETTER DA MURDA ALPAPRANA, BALINESE LETTER DA/TA MURDA
MAHAPRANA, BALINESE LETTER GA GORA, BALINESE LETTER JA JERA, BALINESE LETTER KA MAHAPRANA,
BALINESE LETTER LA LENGA, BALINESE LETTER LA LENGA TEDUNG, BALINESE LETTER NA RAMBAT, BALINESE
LETTER OKARA/PA/RA/SA/TA/UKARA/WA/YA, BALINESE LETTER PA KAPAL, BALINESE LETTER RA REPA,
BALINESE LETTER RA REPA TEDUNG, BALINESE LETTER SA SAGA/SAPA, BALINESE LETTER TA LATIK/TAWA,
BALINESE MUSICAL SYMBOL COMBINING BENDE/ENDEP/GONG/JEGOGAN/KEMPLI/KEMPUL/TEGEH, BALINESE MUSICAL
SYMBOL COMBINING KEMPLI/KEMPUL WITH JEGOGAN, BALINESE MUSICAL SYMBOL
DAENG/DAING/DANG/DENG/DEUNG/DING/DONG/DUNG, BALINESE MUSICAL SYMBOL DANG GEDE/SURANG, BALINESE
MUSICAL SYMBOL LEFT-HAND CLOSED PLAK/PLUK, BALINESE MUSICAL SYMBOL LEFT-HAND OPEN
PANG/PING/PUNG, BALINESE MUSICAL SYMBOL RIGHT-HAND CLOSED TAK/TUK, BALINESE MUSICAL SYMBOL
RIGHT-HAND OPEN DAG/DUG, BALINESE PAMADA/PAMENENG/PANTI/WINDU, BALINESE PAMADA/PANTI LANTANG,
BALINESE SIGN BISAH/CECEK/REREKAN/SURANG, BALINESE SIGN ULU CANDRA/RICEM, BALINESE VOWEL SIGN LA
LENGA, BALINESE VOWEL SIGN LA LENGA TEDUNG, BALINESE VOWEL SIGN PEPET/SUKU/TALING/TEDUNG/ULU,
BALINESE VOWEL SIGN PEPET/TALING TEDUNG, BALINESE VOWEL SIGN RA/TALING REPA, BALINESE VOWEL SIGN
RA/TALING REPA TEDUNG, BALINESE VOWEL SIGN SUKU ILUT, BALINESE VOWEL SIGN ULU SARI, BALL OF
YARN, BALLET SHOES, BALLOON, BALLOON-SPOKED ASTERISK, BALLOT BOLD SCRIPT X, BALLOT BOX WITH
BALLOT/CHECK/X, BALLOT BOX WITH BOLD CHECK, BALLOT BOX WITH BOLD SCRIPT X, BALLOT BOX WITH
LIGHT/SCRIPT X, BALLOT BOX/X, BALLOT SCRIPT X, BAMUM COLON/COMMA/NJAEMLI/SEMICOLON, BAMUM
COMBINING MARK KOQNDON/TUKWENTIS, BAMUM FULL STOP, BAMUM LETTER
A/EE/FAAMAE/FEE/FOM/FU/I/KA/KEN/KET/KEUX/KI/KO/KOGHOM/KOVUU/KPA, BAMUM LETTER
KU/KYEE/LA/LEEEE/LI/LOQ/LU/M/MA/MBAA/MBEN/MEEEE/MEN/MI/MO/MU/NA, BAMUM LETTER
NDAA/NGA/NGGA/NGKWAEN/NI/NJAEM/NJEE/NJUAE/NSHA/NTEE/NTUU/NU, BAMUM LETTER
NUAE/NYI/O/PA/PEE/PEUX/PI/PUAE/PUE/RAE/REE/REN/REUX/RIEE/RII/RU, BAMUM LETTER PHASE-A
FIRI/GHEUAEGHEUAE/GHEUAERAE/KAFA/KAQ/KEUKEUTNDA/KPOQ/KUOQ/LAPAQ, BAMUM LETTER PHASE-A GBIEE FON,
BAMUM LETTER PHASE-A LET KUT, BAMUM LETTER PHASE-A
LOMMAE/LUAEP/MAEKEUP/MAEMBGBIEE/MAEMKPEN/MAEMVEUX/MAENYI, BAMUM LETTER PHASE-A
MANSUAE/MBAQ/MEUNJOMNDEUQ/MGBASA/MOOMEUT/MOOMPUQ/MVEUAENGAM, BAMUM LETTER PHASE-A MAP PIEET,
BAMUM LETTER PHASE-A MON NGGEUAET, BAMUM LETTER PHASE-A NAA/NGKUE/NZA/TITA MFON, BAMUM LETTER
PHASE-A NDA/PA LEERAEWA, BAMUM LETTER PHASE-A
NDAANGGEUAET/NEN/NGANGU/NGKUENZEUM/NIKA/NKAARAE/NKINDI/NTOQPEN, BAMUM LETTER PHASE-A NTAP
MFAA/NTAA, BAMUM LETTER PHASE-A NYIT MONGKEUAEQ, BAMUM LETTER PHASE-A NZUN MEUT, BAMUM LETTER
PHASE-A PAARAE/PAMSHAE/PASHAE/PET/PUP/ROM/SEUNYAM/SHIRAE/SHUENSHUET, BAMUM LETTER PHASE-A PON
MFON PIPAEMBA/PIPAEMGBIEE, BAMUM LETTER PHASE-A PON PA NJI PIPAEMBA/PIPAEMGBIEE, BAMUM LETTER
PHASE-A SHINDA PA NJI, BAMUM LETTER PHASE-A SHOQ NSHUT YUM, BAMUM LETTER PHASE-A
SHUM/SISA/SONJAM/SOQ/TEUTEUWEN/TUAEP/UNKNOWN, BAMUM LETTER PHASE-A TU MAEMBA, BAMUM LETTER
PHASE-A U YUQ NAE, BAMUM LETTER PHASE-A/PHASE-C MAESI/MBANYI/NAQ/NGGEN/NJAM, BAMUM LETTER
PHASE-A/PHASE-C/PHASE-D/PHASE-E/PHASE-F KET, BAMUM LETTER PHASE-A/PHASE-C/PHASE-E LU, BAMUM
LETTER PHASE-A/PHASE-D NYET/SOT/TEUAEN, BAMUM LETTER PHASE-A/PHASE-D/PHASE-F NYI/SUU, BAMUM
LETTER PHASE-A/PHASE-E MAEM/NSHIEE/NTAP/PAAM/VEE, BAMUM LETTER PHASE-A/PHASE-F NSHA, BAMUM
LETTER PHASE-B FEUX/GHEUGHEN/GHEUGHEUAEM/KAM/KEUAEM/KEUPUQ/KEUYEUX/KIEEM/KIQ, BAMUM LETTER
PHASE-B LAANAE/MBAARAE/MBEURI/MBUOQ/MEUQ/MFIYAQ/MONTIEEN/NGGUOQ/NSEN, BAMUM LETTER PHASE-B LAM
NSHUT NYAM, BAMUM LETTER PHASE-B LOM/NYI NTEUM, BAMUM LETTER PHASE-B MA NJEUAENA/NJUQA, BAMUM
LETTER PHASE-B MBA MAELEE, BAMUM LETTER PHASE-B MBIT MBAAKET, BAMUM LETTER PHASE-B MEUT NGGEET,
BAMUM LETTER PHASE-B MFON TEUAEQ, BAMUM LETTER PHASE-B NDU NJAA, BAMUM LETTER PHASE-B NGGEU MBU,
BAMUM LETTER PHASE-B NGGUOQ LARGE, BAMUM LETTER PHASE-B NGKINDI MVOP, BAMUM LETTER PHASE-B
NSHUET/NYAEMAE/PARUM/PEESHI/PIT/PUNGAAM/SAKEUAE/SHEUAEQTU/SIEE, BAMUM LETTER PHASE-B NTIEE
SHEUOQ, BAMUM LETTER PHASE-B SET TU, BAMUM LETTER PHASE-B SHET NJAQ, BAMUM LETTER PHASE-B
TAAM/VEUM/WUAET/YEURAE, BAMUM LETTER PHASE-B TU MAEMGBIEE/NSIEE, BAMUM LETTER PHASE-B YAFU
LEERAEWA, BAMUM LETTER PHASE-B/PHASE-C NGOM, BAMUM LETTER PHASE-B/PHASE-D LET/NGGAAM/SUE, BAMUM
LETTER PHASE-B/PHASE-E FEE, BAMUM LETTER PHASE-B/PHASE-E/PHASE-F MA, BAMUM LETTER PHASE-C
BUNG/GBAYI/GHAP/GHARAE/KAA/KEUKAQ/KEUSEUX/KEUSHEUAEP/KPARAQ/LAM, BAMUM LETTER PHASE-C KEN
FATIGUE/LAW, BAMUM LETTER PHASE-C KUOP NKAARAE, BAMUM LETTER PHASE-C
LIQ/MAEMBA/MBEEKEET/MBERAE/MBEUX/MBI/MBIRIEEN/MBIT/MBUAEM/MBUE, BAMUM LETTER PHASE-C MA
KEUAERI/NSIEE, BAMUM LETTER PHASE-C MBAA CABBAGE-TREE/PICKET, BAMUM LETTER PHASE-C
MGBASAQ/NANSANAQ/NDEUAEREE/NDEUT/NDIDA/NDOMBU/NGAQ/NGGU/NGGUEET, BAMUM LETTER PHASE-C NGGUAEN
NYAM, BAMUM LETTER PHASE-C NGGUM/NGGUON/NGKAQ/NJEEEE/NSA/NSEUAEN/NSHAQ/NSOM/NSUN/NTAA/NTEN,
BAMUM LETTER PHASE-C NGKUE MAEMBA, BAMUM LETTER PHASE-C NSUOT NGOM, BAMUM LETTER PHASE-C
NTEUNGBA/NZA/NZEUM/PEN/PIN/PIRIEEN/SETFON/SHUEQ/SUAET/TAASHAE, BAMUM LETTER PHASE-C NTU MBIT,
BAMUM LETTER PHASE-C NYIR MKPARAQ MEUN, BAMUM LETTER PHASE-C
TEUTEUX/TITUAEP/VEUAEPEN/VEUX/WANGKUOQ/WUP/YAA/YEUQ/YUM, BAMUM LETTER PHASE-C TITA YUE, BAMUM
LETTER PHASE-C YU MUOMAE, BAMUM LETTER PHASE-C/PHASE-D KEUM/NDAM/NJUEQ/YUWOQ, BAMUM LETTER
PHASE-C/PHASE-E FUE/KUT/LAP/MBEUM/MIEE/MUAE/NDAP/NJEUX/SHIQ, BAMUM LETTER PHASE-C/PHASE-F
NJAEM/RU/SEUX/TET, BAMUM LETTER PHASE-D
FAA/FEUFEUAET/GHAA/KEUAETMEUN/KEUP/KUN/KUOM/KUQ/KWAET/LEEEE, BAMUM LETTER PHASE-D KEUOT MBUAE,
BAMUM LETTER PHASE-D LEUAEP/LEUM/LIEE/LUM/MAENJET/MALEERI/MBUO/MEUN/MEUT/MFEUAE, BAMUM LETTER
PHASE-D MBAA SEVEN, BAMUM LETTER PHASE-D
MFEUT/MFIEE/MFO/MFON/MGBEUN/MGBIEE/MGBOFUM/MONI/MU/MVOP/NDEE, BAMUM LETTER PHASE-D
NDEUX/NDON/NGGAAMAE/NGGAP/NGGEUX/NGGUOM/NGGWAEN/NGKAP/NGKEUAEQ, BAMUM LETTER PHASE-D
NGKEURI/NGKIEE/NGKUN/NGKYEE/NJAP/NJEUAEM/NJEUT/NJI/NJIEE/NSHEE, BAMUM LETTER PHASE-D
NSHUT/NSIEEP/NSIEET/NSUM/NTEUM/NTUU/NYAM/NYUE/PAP/PEUTAE/PIP, BAMUM LETTER PHASE-D
PUQ/PUUT/RAEM/SAP/SAQ/SEUAEQ/SHEE/SHEUAE/SHEUX/SUAE/TEEEE/TEUN, BAMUM LETTER PHASE-D REN
MUCH/OLD, BAMUM LETTER PHASE-D TEUT/TI/TU/TUOT/WAP/WUAEN/YAEMMAE/YEN/YUOM/YUOP, BAMUM LETTER
PHASE-D/PHASE-E GHEUAE/SHOQ/TOQ, BAMUM LETTER PHASE-D/PHASE-E/PHASE-F LOQ, BAMUM LETTER
PHASE-D/PHASE-F KU/KYEE/M/MBAA/MEEEE/NI/NTEE/NU/PEE/RII/SHII/SHU/TAE, BAMUM LETTER PHASE-E
A/FA/FAQ/FUET/GBET/GBEUX/GHAAMAE/GHET/GHEUN/GHEUX/GHOM/I/KEUAE, BAMUM LETTER PHASE-E FU
CALL/I/REMEDY, BAMUM LETTER PHASE-E
KEUX/KI/KPEUX/KUET/KUOP/LAAM/LAQ/LEUAEM/LOM/LOON/LOOT/MAE/MAP, BAMUM LETTER PHASE-E
MAQ/MBEE/MEN/MFEUQ/MGBA/MGBEN/MI/MON/MVI/NA/NAE/NDIAQ/NDIQ/NDUN, BAMUM LETTER PHASE-E NDAA MY
HOUSE, BAMUM LETTER PHASE-E NDAA SOFTNESS, BAMUM LETTER PHASE-E
NGA/NGEUREUT/NGGEEEE/NGGEUAE/NGGEUAET/NGGUP/NGGURAE/NGKA, BAMUM LETTER PHASE-E NGGUAESHAE NYAM,
BAMUM LETTER PHASE-E NGKAAMI/NGKEUAEM/NGKEUX/NGKUM/NGKUP/NGOP/NGOQ/NGUAE/NGUAET, BAMUM LETTER
PHASE-E NJAEMLI/NJEE/NKOM/NSHUE/NSHUOP/NTUM/NZAQ/NZUQ/O/PAA/PEEM/PEUT, BAMUM LETTER PHASE-E NJEE
EPOCH, BAMUM LETTER PHASE-E NYI BETWEEN/CLEAVER, BAMUM LETTER PHASE-E PA PEOPLE/PLURAL, BAMUM
LETTER PHASE-E PI/PIEEQ/PIET/PO/POON/PU/PUAQ/PUE/PUM/RAE/RAQ/RIMGBA/SAA/SEE, BAMUM LETTER
PHASE-E SET/SHEUAEQ/SOM/SUAEN/TAAQ/TAM/TAQ/TEN/TEU/TEUAEQ/TOO/TOON/TUAE, BAMUM LETTER PHASE-E
TAEN NTEUM, BAMUM LETTER PHASE-E TUM/TUMAE/VEUAE/VOM/WEUX/WUO/YAP/YEUAE/YEUAET/YEUM/YEUX/YIEE,
BAMUM LETTER PHASE-E YIT/YUAEN/YUEQ/YUN/YUQ, BAMUM LETTER PHASE-E YOQ COVER/SWIMMING, BAMUM
LETTER PHASE-E/PHASE-F FOM/KO/PEUX/PUAE/REUX/SHO/TAA/WUE, BAMUM LETTER PHASE-F
EE/KA/KEN/KPA/LA/LI/MBEN/MO/NDAA/NGGA/NGKWAEN/NJUAE/NUAE/REE, BAMUM LETTER PHASE-F
REN/RIEE/SAMBA/SI/U/VUEQ/WA/YA/YOQ, BAMUM LETTER
SAMBA/SEUX/SHEUX/SHII/SHO/SHU/SI/SUU/TAA/TAE/TEN/TET/TI/U/WA, BAMUM LETTER WUE/YA/YOQ/YUQ, BAMUM
QUESTION MARK, BANANA, BANJO, BANK, BANKNOTE WITH DOLLAR/EURO/POUND/YEN SIGN, BAR CHART, BAR OF
SOAP, BARBER POLE, BASEBALL, BASKET, BASKETBALL AND HOOP, BASSA VAH COMBINING
HIGH/HIGH-LOW/LOW/LOW-MID/MID TONE, BASSA VAH FULL STOP, BASSA VAH LETTER
A/BA/CE/DHII/DO/E/EE/ENNI/FA/GAH/GBU/HWAH/I/JO/KA/KPAH/MBE/O/OO, BASSA VAH LETTER
PA/SE/TO/U/UWU/VU/WA/WADDA/YEIN/YIE/ZO, BAT, BATAK CONSONANT SIGN H/NG, BATAK LETTER
A/BA/CA/DA/GA/HA/I/JA/LA/MA/MBA/NA/NDA/NGA/NYA/PA/RA/SA/U/WA/YA, BATAK LETTER KARO BA, BATAK
LETTER MANDAILING NA, BATAK LETTER MANDAILING/SIMALUNGUN HA/SA, BATAK LETTER NORTHERN/SOUTHERN
TA, BATAK LETTER PAKPAK/SIMALUNGUN WA, BATAK LETTER SIMALUNGUN A/GA/LA/MA/PA/RA/YA, BATAK
PANGOLAT/PANONGONAN, BATAK SIGN TOMPI, BATAK SYMBOL BINDU JUDUL/PANGOLAT/PINARBORAS, BATAK
SYMBOL BINDU NA METEK, BATAK VOWEL SIGN E/EE/I/O/U, BATAK VOWEL SIGN KARO I/O, BATAK VOWEL SIGN
PAKPAK E, BATAK VOWEL SIGN U FOR SIMALUNGUN SA, BATH, BATHTUB, BATTERY, BEACH WITH UMBRELLA,
BEAMED ASCENDING/DESCENDING MUSICAL NOTES, BEAMED EIGHTH/SIXTEENTH NOTES, BEANS, BEAR FACE,
BEARDED PERSON, BEATING HEART, BEAVER, BECAUSE, BED, BEER MUG, BEETLE, BEL, BELL, BELL
PEPPER/SYMBOL, BELL WITH CANCELLATION STROKE, BELLHOP BELL, BENGALI ABBREVIATION/RUPEE SIGN,
BENGALI ANJI/ISSHAR, BENGALI AU LENGTH MARK, BENGALI CURRENCY DENOMINATOR SIXTEEN, BENGALI
CURRENCY NUMERATOR FOUR/ONE/THREE/TWO, BENGALI CURRENCY NUMERATOR ONE LESS THAN THE DENOMINATOR,
BENGALI DIGIT EIGHT/FIVE/FOUR/NINE/ONE/SEVEN/SIX/THREE/TWO/ZERO, BENGALI GANDA/RUPEE/SANDHI
MARK, BENGALI LETTER A/AA/AI/AU/BA/BHA/CA/CHA/DA/DDA/DDHA/DHA/E/GA/GHA/HA/I/II/JA, BENGALI
LETTER JHA/KA/KHA/LA/MA/NA/NGA/NNA/NYA/O/PA/PHA/RA/RHA/RRA/SA/SHA/SSA, BENGALI LETTER KHANDA TA,
BENGALI LETTER RA WITH LOWER/MIDDLE DIAGONAL, BENGALI LETTER TA/THA/TTA/TTHA/U/UU/YA/YYA,
BENGALI LETTER VEDIC ANUSVARA, BENGALI LETTER VOCALIC L/LL/R/RR, BENGALI SIGN
ANUSVARA/AVAGRAHA/CANDRABINDU/NUKTA/VIRAMA/VISARGA, BENGALI VOWEL SIGN AA/AI/AU/E/I/II/O/U/UU,
BENGALI VOWEL SIGN VOCALIC L/LL/R/RR, BENT ARROW POINTING DOWNWARDS THEN NORTH EAST, BENTO BOX,
BENZENE RING, BENZENE RING WITH CIRCLE, BET SYMBOL, BETWEEN, BEVERAGE BOX, BHAIKSUKI DANDA,
BHAIKSUKI DIGIT ZERO, BHAIKSUKI DIGIT/NUMBER EIGHT/FIVE/FOUR/NINE/ONE/SEVEN/SIX/THREE/TWO,
BHAIKSUKI DOUBLE DANDA, BHAIKSUKI GAP FILLER-1/FILLER-2, BHAIKSUKI HUNDREDS UNIT MARK, BHAIKSUKI
LETTER A/AA/AI/AU/BA/BHA/CA/CHA/DA/DDA/DDHA/DHA/E/GA/GHA/HA/I/II/JA, BHAIKSUKI LETTER
JHA/KA/KHA/LA/MA/NA/NGA/NNA/NYA/O/PA/PHA/RA/SA/SHA/SSA/TA/THA, BHAIKSUKI LETTER
TTA/TTHA/U/UU/VA/YA, BHAIKSUKI LETTER VOCALIC L/R/RR, BHAIKSUKI NUMBER
EIGHTY/FIFTY/FORTY/NINETY/SEVENTY/SIXTY/TEN/THIRTY/TWENTY, BHAIKSUKI SIGN
ANUSVARA/AVAGRAHA/CANDRABINDU/VIRAMA/VISARGA, BHAIKSUKI VOWEL SIGN AA/AI/AU/E/I/II/O/U/UU,
BHAIKSUKI VOWEL SIGN VOCALIC L/R/RR, BHAIKSUKI WORD SEPARATOR, BICYCLE, BICYCLIST, BIG REVERSE
SOLIDUS, BIG SOLIDUS, BIKINI, BILLED CAP, BILLIARDS, BIOHAZARD SIGN, BIRD, BIRTHDAY CAKE, BISON,
BITCOIN SIGN, BITING LIP, BLACK BOWTIE/CIRCLE/DIAMOND/DROPLET/FLAG/FLORETTE/FOLDER/HEART, BLACK
CENTRE WHITE STAR, BLACK CHESS BISHOP/EQUIHOPPER/KING/KNIGHT/PAWN/QUEEN/ROOK ROTATED NINETY
DEGREES, BLACK CHESS BISHOP/EQUIHOPPER/KNIGHT/KNIGHT-BISHOP/KNIGHT-QUEEN/KNIGHT-ROOK, BLACK
CHESS BISHOP/KING/KNIGHT/PAWN/QUEEN/ROOK ROTATED TWO HUNDRED SEVENTY DEGREES, BLACK CHESS KNIGHT
ROTATED FORTY-FIVE DEGREES, BLACK CHESS KNIGHT ROTATED ONE HUNDRED THIRTY-FIVE DEGREES, BLACK
CHESS KNIGHT ROTATED THREE HUNDRED FIFTEEN DEGREES, BLACK CHESS KNIGHT ROTATED TWO HUNDRED
TWENTY-FIVE DEGREES, BLACK CHESS PAWN/QUEEN/ROOK, BLACK CHESS TURNED
BISHOP/KING/KNIGHT/PAWN/QUEEN/ROOK, BLACK CHESS/DRAUGHTS KING, BLACK CIRCLE FOR RECORD, BLACK
CIRCLE WITH TWO WHITE DOTS, BLACK CIRCLE WITH WHITE DOT RIGHT, BLACK CIRCLE/DIAMOND WITH DOWN
ARROW, BLACK CLUB/DIAMOND/HEART/SPADE SUIT, BLACK CROSS ON SHIELD, BLACK CURVED
DOWNWARDS/UPWARDS AND LEFTWARDS/RIGHTWARDS ARROW, BLACK CURVED LEFTWARDS/RIGHTWARDS AND
DOWNWARDS/UPWARDS ARROW, BLACK DIAMOND MINUS WHITE X, BLACK DIAMOND ON CROSS, BLACK
DIAMOND/SQUARE CENTRED, BLACK DOWN-POINTING/LEFT-POINTING/RIGHT-POINTING/UP-POINTING
DOUBLE/SMALL TRIANGLE, BLACK DOWN-POINTING/LEFT-POINTING/RIGHT-POINTING/UP-POINTING ISOSCELES
RIGHT TRIANGLE, BLACK DOWN-POINTING/LEFT-POINTING/RIGHT-POINTING/UP-POINTING TRIANGLE, BLACK
DOWN/LEFT/RIGHT/UP POINTING BACKHAND INDEX, BLACK DOWNWARDS/LEFTWARDS/RIGHTWARDS/UPWARDS
EQUILATERAL ARROWHEAD, BLACK DRAUGHTS MAN, BLACK FOUR POINTED STAR, BLACK HARD SHELL FLOPPY
DISK, BLACK HEXAGON/HOURGLASS/LOZENGE/NIB/OCTAGON/PARALLELOGRAM/PENNANT, BLACK
HORIZONTAL/VERTICAL ELLIPSE, BLACK LARGE CIRCLE, BLACK LARGE/MEDIUM/SMALL/TINY SQUARE, BLACK
LEFT LANE MERGE, BLACK LEFT-POINTING/RIGHT-POINTING DOUBLE TRIANGLE WITH VERTICAL BAR, BLACK
LEFT-POINTING/RIGHT-POINTING POINTER, BLACK LEFT/RIGHT POINTING INDEX, BLACK
LEFTWARDS/RIGHTWARDS BULLET, BLACK LOWER/UPPER LEFT/RIGHT TRIANGLE, BLACK MEDIUM
DOWN-POINTING/LEFT-POINTING/RIGHT-POINTING/UP-POINTING TRIANGLE, BLACK MEDIUM
DOWN-POINTING/LEFT-POINTING/RIGHT-POINTING/UP-POINTING TRIANGLE CENTRED, BLACK
MEDIUM/SLIGHTLY/VERY SMALL SQUARE, BLACK MEDIUM/SMALL/TINY DIAMOND/LOZENGE, BLACK MEDIUM/VERY
SMALL DIAMOND/LOZENGE, BLACK MOON LILITH, BLACK
PENTAGON/PUSHPIN/RECTANGLE/ROSETTE/SCISSORS/SNOWMAN/SQUARE/STAR, BLACK QUESTION MARK ORNAMENT,
BLACK RIGHT-POINTING PENTAGON, BLACK RIGHT-POINTING TRIANGLE WITH DOUBLE VERTICAL BAR, BLACK
RIGHTWARDS ARROW/ARROWHEAD, BLACK SAFETY SCISSORS, BLACK SHOGI PIECE, BLACK SKULL AND
CROSSBONES, BLACK SLIGHTLY SMALL CIRCLE, BLACK SMALL STAR, BLACK SMILING FACE, BLACK SQUARE
BUTTON, BLACK SQUARE FOR STOP, BLACK SUN WITH RAYS, BLACK TELEPHONE/TRUCK, BLACK TOUCHTONE
TELEPHONE, BLACK TWO-WAY LEFT WAY TRAFFIC, BLACK UNIVERSAL RECYCLING SYMBOL, BLACK VERTICAL
RECTANGLE, BLACK-FEATHERED NORTH/SOUTH EAST ARROW, BLACK-FEATHERED RIGHTWARDS ARROW,
BLACK-LETTER CAPITAL C/H/I/R/Z, BLANK SYMBOL, BLOCK
SEXTANT-1/SEXTANT-12/SEXTANT-123/SEXTANT-1234/SEXTANT-12345, BLOCK
SEXTANT-12346/SEXTANT-1235/SEXTANT-12356/SEXTANT-1236, BLOCK
SEXTANT-124/SEXTANT-1245/SEXTANT-12456/SEXTANT-1246/SEXTANT-125, BLOCK
SEXTANT-1256/SEXTANT-126/SEXTANT-13/SEXTANT-134/SEXTANT-1345, BLOCK
SEXTANT-13456/SEXTANT-1346/SEXTANT-1356/SEXTANT-136/SEXTANT-14, BLOCK
SEXTANT-145/SEXTANT-1456/SEXTANT-146/SEXTANT-15/SEXTANT-156, BLOCK
SEXTANT-16/SEXTANT-2/SEXTANT-23/SEXTANT-234/SEXTANT-2345, BLOCK
SEXTANT-23456/SEXTANT-2346/SEXTANT-235/SEXTANT-2356/SEXTANT-236, BLOCK
SEXTANT-24/SEXTANT-245/SEXTANT-2456/SEXTANT-25/SEXTANT-256, BLOCK
SEXTANT-26/SEXTANT-3/SEXTANT-34/SEXTANT-345/SEXTANT-3456, BLOCK
SEXTANT-346/SEXTANT-35/SEXTANT-356/SEXTANT-36/SEXTANT-4, BLOCK
SEXTANT-45/SEXTANT-456/SEXTANT-46/SEXTANT-5/SEXTANT-56, BLOCK SEXTANT-6, BLOSSOM, BLOWFISH, BLUE
BOOK/HEART, BLUEBERRIES, BOAR, BOLD EIGHT/FIVE/SIX SPOKED ASTERISK, BOLD GREEK CROSS, BOLD
SALTIRE, BOLD WHITE CIRCLE/SQUARE, BOM, BOMB, BONE, BOOK, BOOKMARK, BOOKMARK TABS, BOOKS,
BOOMERANG, BOPOMOFO FINAL LETTER G/H/K/P/T, BOPOMOFO LETTER
A/AH/AI/AINN/AM/AN/ANG/ANN/AU/AUNN/B/BU/C/CH/D/E/EE/EH/EI/EN, BOPOMOFO LETTER
ENG/ENN/ER/F/G/GH/GN/GU/GW/H/I/IH/IM/INN/INNN/IR/IU/J/JI/K/KW/L, BOPOMOFO LETTER
LH/M/N/NG/NGG/NN/O/OE/OM/ONG/ONN/OO/OU/P/Q/R/S/SH/T/U/UNN/V/X/Z, BOPOMOFO LETTER O WITH DOT
ABOVE, BOPOMOFO LETTER ZH/ZI/ZY, BOTTLE WITH POPPING CORK, BOTTOM ARC ANTICLOCKWISE ARROW,
BOTTOM CURLY/SQUARE BRACKET, BOTTOM HALF BLACK CIRCLE, BOTTOM HALF INTEGRAL, BOTTOM HALF
LEFT/RIGHT PARENTHESIS, BOTTOM LEFT/RIGHT CORNER/CROP, BOTTOM LEFT/RIGHT HALF BRACKET, BOTTOM
PARENTHESIS, BOTTOM SQUARE BRACKET OVER TOP SQUARE BRACKET, BOTTOM TORTOISE SHELL BRACKET,
BOUQUET, BOUQUET OF FLOWERS, BOW AND ARROW, BOWL OF HYGIEIA, BOWL WITH SPOON, BOWLING, BOWTIE,
BOWTIE WITH LEFT/RIGHT HALF BLACK, BOX DRAWINGS DOUBLE/HEAVY/LIGHT DOWN/UP/VERTICAL AND
HORIZONTAL/LEFT/RIGHT, BOX DRAWINGS DOUBLE/HEAVY/LIGHT HORIZONTAL/VERTICAL, BOX DRAWINGS DOWN
HEAVY AND UP HORIZONTAL LIGHT, BOX DRAWINGS DOWN LIGHT AND UP HORIZONTAL HEAVY, BOX DRAWINGS
DOWN/LEFT HEAVY AND RIGHT UP LIGHT, BOX DRAWINGS DOWN/LEFT LIGHT AND RIGHT UP HEAVY, BOX
DRAWINGS DOWN/RIGHT HEAVY AND LEFT UP LIGHT, BOX DRAWINGS DOWN/RIGHT LIGHT AND LEFT UP HEAVY,
BOX DRAWINGS DOWN/UP/VERTICAL DOUBLE AND HORIZONTAL/LEFT/RIGHT SINGLE, BOX DRAWINGS
DOWN/UP/VERTICAL HEAVY AND HORIZONTAL/LEFT/RIGHT LIGHT, BOX DRAWINGS DOWN/UP/VERTICAL LIGHT AND
HORIZONTAL/LEFT/RIGHT HEAVY, BOX DRAWINGS DOWN/UP/VERTICAL SINGLE AND HORIZONTAL/LEFT/RIGHT
DOUBLE, BOX DRAWINGS HEAVY LEFT AND LIGHT RIGHT, BOX DRAWINGS HEAVY UP AND LIGHT DOWN, BOX
DRAWINGS HEAVY/LIGHT DOUBLE/QUADRUPLE/TRIPLE DASH HORIZONTAL/VERTICAL, BOX DRAWINGS HEAVY/LIGHT
DOWN/LEFT/RIGHT/UP, BOX DRAWINGS LEFT DOWN HEAVY AND RIGHT UP LIGHT, BOX DRAWINGS LEFT HEAVY AND
RIGHT VERTICAL LIGHT, BOX DRAWINGS LEFT LIGHT AND RIGHT VERTICAL HEAVY, BOX DRAWINGS LEFT UP
HEAVY AND RIGHT DOWN LIGHT, BOX DRAWINGS LEFT/UP HEAVY AND RIGHT DOWN LIGHT, BOX DRAWINGS
LEFT/UP LIGHT AND RIGHT DOWN HEAVY, BOX DRAWINGS LIGHT ARC DOWN/UP AND LEFT/RIGHT, BOX DRAWINGS
LIGHT DIAGONAL CROSS/DIAMOND, BOX DRAWINGS LIGHT DIAGONAL MIDDLE LEFT TO LOWER/UPPER CENTRE TO
MIDDLE RIGHT, BOX DRAWINGS LIGHT DIAGONAL MIDDLE LEFT TO UPPER CENTRE TO MIDDLE RIGHT TO LOWER
CENTRE, BOX DRAWINGS LIGHT DIAGONAL MIDDLE LEFT/RIGHT TO LOWER CENTRE, BOX DRAWINGS LIGHT
DIAGONAL MIDDLE RIGHT TO UPPER CENTRE TO MIDDLE LEFT TO LOWER CENTRE, BOX DRAWINGS LIGHT
DIAGONAL UPPER CENTRE TO MIDDLE LEFT AND MIDDLE RIGHT TO LOWER CENTRE, BOX DRAWINGS LIGHT
DIAGONAL UPPER CENTRE TO MIDDLE LEFT TO LOWER CENTRE TO MIDDLE RIGHT, BOX DRAWINGS LIGHT
DIAGONAL UPPER CENTRE TO MIDDLE LEFT/RIGHT, BOX DRAWINGS LIGHT DIAGONAL UPPER CENTRE TO MIDDLE
LEFT/RIGHT TO LOWER CENTRE, BOX DRAWINGS LIGHT DIAGONAL UPPER CENTRE TO MIDDLE RIGHT AND MIDDLE
LEFT TO LOWER CENTRE, BOX DRAWINGS LIGHT DIAGONAL UPPER CENTRE TO MIDDLE RIGHT TO LOWER CENTRE
TO MIDDLE LEFT, BOX DRAWINGS LIGHT DIAGONAL UPPER LEFT TO LOWER RIGHT, BOX DRAWINGS LIGHT
DIAGONAL UPPER RIGHT TO LOWER LEFT, BOX DRAWINGS LIGHT HORIZONTAL WITH VERTICAL STROKE, BOX
DRAWINGS LIGHT LEFT AND HEAVY RIGHT, BOX DRAWINGS LIGHT UP AND HEAVY DOWN, BOX DRAWINGS RIGHT
DOWN HEAVY AND LEFT UP LIGHT, BOX DRAWINGS RIGHT HEAVY AND LEFT VERTICAL LIGHT, BOX DRAWINGS
RIGHT LIGHT AND LEFT VERTICAL HEAVY, BOX DRAWINGS RIGHT UP HEAVY AND LEFT DOWN LIGHT, BOX
DRAWINGS RIGHT/UP HEAVY AND LEFT DOWN LIGHT, BOX DRAWINGS RIGHT/UP LIGHT AND LEFT DOWN HEAVY,
BOX DRAWINGS UP HEAVY AND DOWN HORIZONTAL LIGHT, BOX DRAWINGS UP LIGHT AND DOWN HORIZONTAL
HEAVY, BOXING GLOVE, BOY, BOYS SYMBOL, BPH, BRAHMI DANDA/VIRAMA, BRAHMI DIGIT ZERO, BRAHMI
DIGIT/NUMBER EIGHT/FIVE/FOUR/NINE/ONE/SEVEN/SIX/THREE/TWO, BRAHMI DOUBLE DANDA, BRAHMI LETTER
A/AA/AI/AU/BA/BHA/CA/CHA/DA/DDA/DDHA/DHA/E/GA/GHA/HA/I/II/JA, BRAHMI LETTER
JHA/KA/KHA/LA/LLA/MA/NA/NGA/NNA/NYA/O/PA/PHA/RA/SA/SHA/SSA/TA, BRAHMI LETTER OLD TAMIL
LLA/LLLA/NNNA/RRA, BRAHMI LETTER OLD TAMIL SHORT E/O, BRAHMI LETTER THA/TTA/TTHA/U/UU/VA/YA,
BRAHMI LETTER VOCALIC L/LL/R/RR, BRAHMI NUMBER
EIGHTY/FIFTY/FORTY/JOINER/NINETY/SEVENTY/SIXTY/TEN/THIRTY, BRAHMI NUMBER ONE HUNDRED/THOUSAND,
BRAHMI NUMBER TWENTY, BRAHMI PUNCTUATION CRESCENT BAR, BRAHMI PUNCTUATION DOT/LINE/LOTUS, BRAHMI
PUNCTUATION DOUBLE DOT, BRAHMI SIGN ANUSVARA/CANDRABINDU/JIHVAMULIYA/UPADHMANIYA/VISARGA, BRAHMI
SIGN OLD TAMIL VIRAMA, BRAHMI VOWEL SIGN AA/AI/AU/E/I/II/O/U/UU, BRAHMI VOWEL SIGN BHATTIPROLU
AA, BRAHMI VOWEL SIGN OLD TAMIL SHORT E/O, BRAHMI VOWEL SIGN VOCALIC L/LL/R/RR, BRAILLE PATTERN
BLANK/DOTS-1/DOTS-12/DOTS-123/DOTS-1234/DOTS-12345/DOTS-123456, BRAILLE PATTERN
DOTS-1234567/DOTS-12345678/DOTS-1234568/DOTS-123457, BRAILLE PATTERN
DOTS-1234578/DOTS-123458/DOTS-12346/DOTS-123467/DOTS-1234678, BRAILLE PATTERN
DOTS-123468/DOTS-12347/DOTS-123478/DOTS-12348/DOTS-1235, BRAILLE PATTERN
DOTS-12356/DOTS-123567/DOTS-1235678/DOTS-123568/DOTS-12357, BRAILLE PATTERN
DOTS-123578/DOTS-12358/DOTS-1236/DOTS-12367/DOTS-123678, BRAILLE PATTERN
DOTS-12368/DOTS-1237/DOTS-12378/DOTS-1238/DOTS-124/DOTS-1245, BRAILLE PATTERN
DOTS-12456/DOTS-124567/DOTS-1245678/DOTS-124568/DOTS-12457, BRAILLE PATTERN
DOTS-124578/DOTS-12458/DOTS-1246/DOTS-12467/DOTS-124678, BRAILLE PATTERN
DOTS-12468/DOTS-1247/DOTS-12478/DOTS-1248/DOTS-125/DOTS-1256, BRAILLE PATTERN
DOTS-12567/DOTS-125678/DOTS-12568/DOTS-1257/DOTS-12578, BRAILLE PATTERN
DOTS-1258/DOTS-126/DOTS-1267/DOTS-12678/DOTS-1268/DOTS-127, BRAILLE PATTERN
DOTS-1278/DOTS-128/DOTS-13/DOTS-134/DOTS-1345/DOTS-13456, BRAILLE PATTERN
DOTS-134567/DOTS-1345678/DOTS-134568/DOTS-13457/DOTS-134578, BRAILLE PATTERN
DOTS-13458/DOTS-1346/DOTS-13467/DOTS-134678/DOTS-13468, BRAILLE PATTERN
DOTS-1347/DOTS-13478/DOTS-1348/DOTS-135/DOTS-1356/DOTS-13567, BRAILLE PATTERN
DOTS-135678/DOTS-13568/DOTS-1357/DOTS-13578/DOTS-1358/DOTS-136, BRAILLE PATTERN
DOTS-1367/DOTS-13678/DOTS-1368/DOTS-137/DOTS-1378/DOTS-138, BRAILLE PATTERN
DOTS-14/DOTS-145/DOTS-1456/DOTS-14567/DOTS-145678/DOTS-14568, BRAILLE PATTERN
DOTS-1457/DOTS-14578/DOTS-1458/DOTS-146/DOTS-1467/DOTS-14678, BRAILLE PATTERN
DOTS-1468/DOTS-147/DOTS-1478/DOTS-148/DOTS-15/DOTS-156, BRAILLE PATTERN
DOTS-1567/DOTS-15678/DOTS-1568/DOTS-157/DOTS-1578/DOTS-158, BRAILLE PATTERN
DOTS-16/DOTS-167/DOTS-1678/DOTS-168/DOTS-17/DOTS-178/DOTS-18, BRAILLE PATTERN
DOTS-2/DOTS-23/DOTS-234/DOTS-2345/DOTS-23456/DOTS-234567, BRAILLE PATTERN
DOTS-2345678/DOTS-234568/DOTS-23457/DOTS-234578/DOTS-23458, BRAILLE PATTERN
DOTS-2346/DOTS-23467/DOTS-234678/DOTS-23468/DOTS-2347, BRAILLE PATTERN
DOTS-23478/DOTS-2348/DOTS-235/DOTS-2356/DOTS-23567/DOTS-235678, BRAILLE PATTERN
DOTS-23568/DOTS-2357/DOTS-23578/DOTS-2358/DOTS-236/DOTS-2367, BRAILLE PATTERN
DOTS-23678/DOTS-2368/DOTS-237/DOTS-2378/DOTS-238/DOTS-24, BRAILLE PATTERN
DOTS-245/DOTS-2456/DOTS-24567/DOTS-245678/DOTS-24568/DOTS-2457, BRAILLE PATTERN
DOTS-24578/DOTS-2458/DOTS-246/DOTS-2467/DOTS-24678/DOTS-2468, BRAILLE PATTERN
DOTS-247/DOTS-2478/DOTS-248/DOTS-25/DOTS-256/DOTS-2567, BRAILLE PATTERN
DOTS-25678/DOTS-2568/DOTS-257/DOTS-2578/DOTS-258/DOTS-26, BRAILLE PATTERN
DOTS-267/DOTS-2678/DOTS-268/DOTS-27/DOTS-278/DOTS-28/DOTS-3, BRAILLE PATTERN
DOTS-34/DOTS-345/DOTS-3456/DOTS-34567/DOTS-345678/DOTS-34568, BRAILLE PATTERN
DOTS-3457/DOTS-34578/DOTS-3458/DOTS-346/DOTS-3467/DOTS-34678, BRAILLE PATTERN
DOTS-3468/DOTS-347/DOTS-3478/DOTS-348/DOTS-35/DOTS-356, BRAILLE PATTERN
DOTS-3567/DOTS-35678/DOTS-3568/DOTS-357/DOTS-3578/DOTS-358, BRAILLE PATTERN
DOTS-36/DOTS-367/DOTS-3678/DOTS-368/DOTS-37/DOTS-378/DOTS-38, BRAILLE PATTERN
DOTS-4/DOTS-45/DOTS-456/DOTS-4567/DOTS-45678/DOTS-4568/DOTS-457, BRAILLE PATTERN
DOTS-4578/DOTS-458/DOTS-46/DOTS-467/DOTS-4678/DOTS-468/DOTS-47, BRAILLE PATTERN
DOTS-478/DOTS-48/DOTS-5/DOTS-56/DOTS-567/DOTS-5678/DOTS-568, BRAILLE PATTERN
DOTS-57/DOTS-578/DOTS-58/DOTS-6/DOTS-67/DOTS-678/DOTS-68/DOTS-7, BRAILLE PATTERN DOTS-78/DOTS-8,
BRAIN, BREAD, BREAK PERMITTED HERE, BREAST-FEEDING, BREVE, BRICK, BRIDE WITH VEIL, BRIDGE AT
NIGHT, BRIEFCASE, BRIEFS, BROCCOLI, BROKEN BAR/HEART, BROKEN CIRCLE WITH NORTHWEST ARROW, BROOM,
BROWN HEART, BS, BUBBLE TEA, BUBBLES, BUCKET, BUG, BUGINESE END OF SECTION, BUGINESE LETTER
A/BA/CA/DA/GA/HA/JA/KA/LA/MA/MPA/NA/NGA/NGKA/NRA/NYA/NYCA/PA/RA, BUGINESE LETTER SA/TA/VA/YA,
BUGINESE PALLAWA, BUGINESE VOWEL SIGN AE/E/I/O/U, BUHID LETTER
A/BA/DA/GA/HA/I/KA/LA/MA/NA/NGA/PA/RA/SA/TA/U/WA/YA, BUHID VOWEL SIGN I/U, BUILDING
CONSTRUCTION, BULLET, BULLET OPERATOR, BULLHORN, BULLHORN WITH SOUND WAVES, BULLSEYE, BURRITO,
BUS, BUS STOP, BUST IN SILHOUETTE, BUSTS IN SILHOUETTE, BUTTER, BUTTERFLY, BYTE ORDER MARK,
BYZANTINE MUSICAL SYMBOL AGOGI ARGI/ARGOTERI/GORGI/GORGOTERI/MESI/METRIA, BYZANTINE MUSICAL
SYMBOL AGOGI POLI ARGI/GORGI, BYZANTINE MUSICAL SYMBOL
ANATRICHISMA/ANTIKENOKYLISMA/ANTIKENOMA/APLI/APOSTROFOS, BYZANTINE MUSICAL SYMBOL APESO EXO NEO,
BYZANTINE MUSICAL SYMBOL APESO/EXO/OXEIA/VAREIA EKFONITIKON, BYZANTINE MUSICAL SYMBOL
APODERMA/APOSTROFOS/CHOREVMA/ISON/KRATIMA/OLIGON/OXEIA NEO, BYZANTINE MUSICAL SYMBOL
APODERMA/CHOREVMA/DIPLI/FTHORA/GORGON/ISON/KENTIMA/KENTIMATA ARCHAION, BYZANTINE MUSICAL SYMBOL
APOSTROFOI SYNDESMOS NEO, BYZANTINE MUSICAL SYMBOL APOSTROFOI/ISAKIA TELOUS ICHIMATOS, BYZANTINE
MUSICAL SYMBOL APOSTROFOS/DIASTOLI/OXEIA/VAREIA/YPOKRISIS DIPLI, BYZANTINE MUSICAL SYMBOL
APOTHEMA/ARGON/ARGOSYNTHETON/CHAMILI/CHAMILON/DASEIA/DIARGON, BYZANTINE MUSICAL SYMBOL ARKTIKO
DI/GA/KE/NI/PA/VOU/ZO, BYZANTINE MUSICAL SYMBOL CHROA KLITON/SPATHI/ZYGOS, BYZANTINE MUSICAL
SYMBOL DIASTOLI APLI MEGALI/MIKRI, BYZANTINE MUSICAL SYMBOL DIASTOLI/SIMANSIS THESEOS, BYZANTINE
MUSICAL SYMBOL DIESIS TETARTIMORION, BYZANTINE MUSICAL SYMBOL DIESIS/YFESIS APLI DYO DODEKATA,
BYZANTINE MUSICAL SYMBOL DIESIS/YFESIS DIGRAMMOS EX DODEKATA, BYZANTINE MUSICAL SYMBOL
DIESIS/YFESIS MONOGRAMMOS TESSERA DODEKATA, BYZANTINE MUSICAL SYMBOL DIESIS/YFESIS TRIGRAMMOS
OKTO DODEKATA, BYZANTINE MUSICAL SYMBOL DIESIS/YFESIS TRITIMORION, BYZANTINE MUSICAL SYMBOL
DIFTOGGOS OU, BYZANTINE MUSICAL SYMBOL DIGORGON PARESTIGMENON ARISTERA ANO/KATO, BYZANTINE
MUSICAL SYMBOL DIGORGON/DIPLI/DYO/EKSTREPTON/ELAFRON/ENDOFONON/EPEGERMA, BYZANTINE MUSICAL
SYMBOL DIGORGON/GORGON PARESTIGMENON DEXIA, BYZANTINE MUSICAL SYMBOL DIGRAMMA GG, BYZANTINE
MUSICAL SYMBOL ENARXIS KAI FTHORA VOU, BYZANTINE MUSICAL SYMBOL ETERON
ARGOSYNTHETON/PARAKALESMA, BYZANTINE MUSICAL SYMBOL FANEROSIS DIFONIAS/MONOFONIAS/TETRAFONIAS,
BYZANTINE MUSICAL SYMBOL FHTORA/FTHORA SKLIRON CHROMA VASIS, BYZANTINE MUSICAL SYMBOL FTHORA
ARCHAION DEYTEROU ICHOU, BYZANTINE MUSICAL SYMBOL FTHORA DIATONIKI DI/KE/NANA/PA/ZO, BYZANTINE
MUSICAL SYMBOL FTHORA DIATONIKI NI ANO/KATO, BYZANTINE MUSICAL SYMBOL FTHORA ENARMONIOS
ANTIFONIA, BYZANTINE MUSICAL SYMBOL FTHORA I YFESIS TETARTIMORION, BYZANTINE MUSICAL SYMBOL
FTHORA MALAKON CHROMA DIFONIAS/MONOFONIAS, BYZANTINE MUSICAL SYMBOL FTHORA NAOS ICHOS, BYZANTINE
MUSICAL SYMBOL FTHORA NENANO, BYZANTINE MUSICAL SYMBOL FTHORA SKLIRON CHROMA SYNAFI, BYZANTINE
MUSICAL SYMBOL FTHORA SKLIRON DIATONON DI, BYZANTINE MUSICAL SYMBOL GENIKI DIESIS/YFESIS,
BYZANTINE MUSICAL SYMBOL GORGON PARESTIGMENON ARISTERA, BYZANTINE MUSICAL SYMBOL
GORGON/KENTIMA/KENTIMATA NEO ANO/KATO, BYZANTINE MUSICAL SYMBOL
GORGOSYNTHETON/GRONTHISMATA/ICHADIN/IMIDIARGON/IMIFONON, BYZANTINE MUSICAL SYMBOL GORTHMIKON N
APLOUN/DIPLOUN, BYZANTINE MUSICAL SYMBOL
IMIFTHORA/IMIFTHORON/KATAVASMA/KATHISTI/KENTIMATA/KLASMA, BYZANTINE MUSICAL SYMBOL KATAVA
TROMIKON, BYZANTINE MUSICAL SYMBOL KENTIMA/KENTIMATA NEO MESO, BYZANTINE MUSICAL SYMBOL
KLASMA/YFEN ANO/KATO, BYZANTINE MUSICAL SYMBOL
KONTEVMA/KORONIS/KOUFISMA/KRATIMATA/KRATIMOKOUFISMA, BYZANTINE MUSICAL SYMBOL
KONTEVMA/KRATIMA/TROMIKON ALLO, BYZANTINE MUSICAL SYMBOL
KRATIMA/OLIGON/OXEIAI/OYRANISMA/PARAKALESMA/PARAKLITIKI/PIASMA ARCHAION, BYZANTINE MUSICAL
SYMBOL KRATIMOYPORROON/KREMASTI/KYLISMA/LEMOI/LYGISMA/NANA/OMALON, BYZANTINE MUSICAL SYMBOL
LEIMMA DYO/TESSARON/TRION CHRONON, BYZANTINE MUSICAL SYMBOL LEIMMA ENOS/IMISEOS CHRONOU,
BYZANTINE MUSICAL SYMBOL MARTYRIA ALLI DEYTEROS/PROTOS ICHOS, BYZANTINE MUSICAL SYMBOL MARTYRIA
DEYTEROS/LEGETOS/PLAGIOS/PROTOS/PROTOVARYS/TETARTOS/TRITOS ICHOS, BYZANTINE MUSICAL SYMBOL
MARTYRIA PLAGIOS TETARTOS ICHOS, BYZANTINE MUSICAL SYMBOL MARTYRIA TETARTOS LEGETOS ICHOS,
BYZANTINE MUSICAL SYMBOL MARTYRIA TRIFONIAS, BYZANTINE MUSICAL SYMBOL MARTYRIA VARYS ICHOS,
BYZANTINE MUSICAL SYMBOL MIKRON ISON, BYZANTINE MUSICAL SYMBOL
OYRANISMA/PARAKALESMA/PARAKLITIKI/PELASTON/PIASMA/PSIFISTON NEO, BYZANTINE MUSICAL SYMBOL
PARAKLITIKI/PARICHON/PELASTON/PERISPOMENI/PETASMA/PETASTI, BYZANTINE MUSICAL SYMBOL
PETASTOKOUFISMA/PSIFISTOLYGISMA/PSIFISTON/PSIFISTOPARAKALESMA, BYZANTINE MUSICAL SYMBOL
PSIFISTOSYNAGMA/PSILI/PSILON/RAPISMA/REVMA/SAXIMATA/SEISMA, BYZANTINE MUSICAL SYMBOL
SEISMA/SYNAGMA/TROMIKON/VAREIA NEO, BYZANTINE MUSICAL SYMBOL SIMANSIS ARSEOS, BYZANTINE MUSICAL
SYMBOL SIMANSIS ARSEOS/THESEOS DISIMOU/TETRASIMOU/TRISIMOU, BYZANTINE MUSICAL SYMBOL STAVROS
APODEXIA, BYZANTINE MUSICAL SYMBOL STAVROS/STIGMA/STRAGGISMATA/SYNEVMA/SYRMA/SYRMATIKI/TELEIA,
BYZANTINE MUSICAL SYMBOL SYNAGMA META STAVROU, BYZANTINE MUSICAL SYMBOL SYNAGMA/TROMIKON/VAREIAI
ARCHAION, BYZANTINE MUSICAL SYMBOL TESSERA/TETRAPLI/THEMA/THITA/TINAGMA/TRIA/TRIGORGON/TRIPLI,
BYZANTINE MUSICAL SYMBOL THEMA APLOUN, BYZANTINE MUSICAL SYMBOL THEMATISMOS ESO/EXO, BYZANTINE
MUSICAL SYMBOL THES KAI APOTHES, BYZANTINE MUSICAL SYMBOL
TROMIKOLYGISMA/TROMIKOPARAKALESMA/TROMIKOPSIFISTON, BYZANTINE MUSICAL SYMBOL
TROMIKOSYNAGMA/VATHY/YPOKRISIS/YPORROI/YPSILI, BYZANTINE MUSICAL SYMBOL XIRON KLASMA"),
  ('C', "
CACTUS, CADA UNA, CADUCEUS, CALENDAR, CALL ME HAND, CAMERA, CAMERA WITH FLASH, CAMPING, CAN,
CANADIAN SYLLABICS A/AA/AAI/AAY/AI/AN/AY/C/CA/CAA/CAAI/CE/CI/CII/CO/COO/CWA/CWAA, CANADIAN
SYLLABICS AIVILIK B, CANADIAN SYLLABICS ATHAPASCAN/BLACKFOOT/OJIBWAY S, CANADIAN SYLLABICS
ATHAPASCAN/OJIBWAY/SAYISI/WEST-CREE M, CANADIAN SYLLABICS BEAVER DENE L/R, CANADIAN SYLLABICS
BIBLE-CREE/WEST-CREE Y, CANADIAN SYLLABICS BLACKFOOT A/E/KA/KE/KI/KO/O, CANADIAN SYLLABICS
BLACKFOOT/CARRIER I/NA/NE/NI/NO, CANADIAN SYLLABICS BLACKFOOT/CARRIER/WEST-CREE WA/WE/WI/WO,
CANADIAN SYLLABICS BLACKFOOT/EASTERN/WESTERN/Y-CREE W, CANADIAN SYLLABICS CARRIER
CHA/CHE/CHEE/CHI/CHO/CHU/DEE/DI/DLA/DLE/DLEE/DLI/DLO/DLU/DZA, CANADIAN SYLLABICS CARRIER DENE
GEE, CANADIAN SYLLABICS CARRIER DENTAL S, CANADIAN SYLLABICS CARRIER
DZE/DZEE/DZI/DZO/DZU/EE/GA/GAA/GE/GEE/GHA/GHE/GHEE/GHI/GHO/GHU, CANADIAN SYLLABICS CARRIER
GI/GO/GU/GWA/GWU/HEE/HWA/HWE/HWEE/HWI/HWO/HWU/JA/JE/JEE/JJA/JJE, CANADIAN SYLLABICS CARRIER
INITIAL Z, CANADIAN SYLLABICS CARRIER
JJEE/JJI/JJO/JJU/JO/JWA/KHA/KHE/KHEE/KHI/KHO/KHU/KK/KKA/KKE, CANADIAN SYLLABICS CARRIER
KKEE/KKI/KKO/KKU/LEE/LHA/LHE/LHEE/LHI/LHO/LHU/LI/LU/MA/ME/MEE, CANADIAN SYLLABICS CARRIER
MI/MO/MU/NEE/NG/NU/PA/PE/PEE/PI/PO/PU/REE/RU/SA/SE/SEE/SHEE/SHU, CANADIAN SYLLABICS CARRIER
SI/SO/SU/THEE/THU/TLA/TLE/TLEE/TLHA/TLHE/TLHEE/TLHI/TLHO/TLHU, CANADIAN SYLLABICS CARRIER
TLI/TLO/TLU/TSA/TSE/TSEE/TSI/TSO/TSU/TTA/TTE/TTEE/TTI/TTO/TTSA, CANADIAN SYLLABICS CARRIER
TTSE/TTSEE/TTSI/TTSO/TTSU/TTU/WEE/WU/YA/YE/YEE/YO/YU/Z/ZA/ZE, CANADIAN SYLLABICS CARRIER
ZEE/ZI/ZO/ZU, CANADIAN SYLLABICS CARRIER/N-CREE/TH-CREE/WOODS-CREE THE/THI, CANADIAN SYLLABICS
CARRIER/NATTILIK/NUNAVIK/SAYISI HI, CANADIAN SYLLABICS CARRIER/NUNAVIK/NUNAVUT H, CANADIAN
SYLLABICS CARRIER/OJIBWAY SH, CANADIAN SYLLABICS CARRIER/OJIBWAY/WEST-CREE P, CANADIAN SYLLABICS
CARRIER/R-CREE/WEST-CREE RE, CANADIAN SYLLABICS CARRIER/SAYISI JI/JU/SHA/SHE/SHI/SHO/YI,
CANADIAN SYLLABICS CARRIER/TH-CREE/WOODS-CREE THA/THO, CANADIAN SYLLABICS CARRIER/WEST-CREE
LA/LE/LO/RA/RI/RO, CANADIAN SYLLABICS CHI SIGN, CANADIAN SYLLABICS
CWE/CWI/CWII/CWO/CWOO/E/EN/F/FA/FAA/FAAI/FE/FI/FII/FO/FOO/FWAA, CANADIAN SYLLABICS FINAL
ACUTE/GRAVE/PLUS/RING, CANADIAN SYLLABICS FINAL BOTTOM/RIGHT/TOP HALF RING, CANADIAN SYLLABICS
FINAL DOUBLE ACUTE, CANADIAN SYLLABICS FINAL DOUBLE SHORT VERTICAL STROKES, CANADIAN SYLLABICS
FINAL DOWN TACK, CANADIAN SYLLABICS FINAL MIDDLE/RAISED DOT, CANADIAN SYLLABICS FINAL SHORT
HORIZONTAL STROKE, CANADIAN SYLLABICS FINAL SMALL RING, CANADIAN SYLLABICS FULL/GLOTTAL STOP,
CANADIAN SYLLABICS HK/HYPHEN/I/II/IN/K/KA/KAA/KAAI/KAY/KE/KI/KII/KO/KOO/KW/KWA, CANADIAN
SYLLABICS KWAA/KWAY/KWE/KWI/KWII/KWO/KWOO/L/LA/LAA/LAAI/LAY/LE/LH/LHA, CANADIAN SYLLABICS
LHAA/LHI/LHII/LHO/LHOO/LI/LII/LO/LOO/LWA/LWAA/LWE/LWI/LWII/LWO, CANADIAN SYLLABICS
LWOO/M/MA/MAA/MAAI/MAY/ME/MH/MI/MII/MO/MOO/MWA/MWAA/MWE/MWI, CANADIAN SYLLABICS MEDIAL/WEST-CREE
L/R, CANADIAN SYLLABICS MOOSE-CREE SK, CANADIAN SYLLABICS
MWII/MWO/MWOO/N/NA/NAA/NAAI/NAY/NE/NG/NGA/NGAA/NGAAI/NGAI/NGI, CANADIAN SYLLABICS N-CREE/TH-CREE
THII, CANADIAN SYLLABICS NASKAPI S-W/SCWA/SKW/SKWA/SPWA/STWA, CANADIAN SYLLABICS
NASKAPI/WEST-CREE CWAA/KWAA/MWAA/NWAA/SWAA/TWAA/WAA/WOO/YWAA, CANADIAN SYLLABICS NATTILIK
SHRA/SHRAA/SHRI/SHRII/SHRO/SHROO, CANADIAN SYLLABICS NATTILIK/NUNAVIK HAA/HII, CANADIAN
SYLLABICS NATTILIK/NUNAVIK/SAYISI HA/HO/HOO, CANADIAN SYLLABICS
NGII/NGO/NGOO/NH/NI/NII/NNG/NNGA/NNGAA/NNGI/NNGII/NNGO/NNGOO/NO, CANADIAN SYLLABICS
NOO/NOY/NWA/NWAA/NWE/NWI/NWII/NWO/NWOO/O/ON/OO/OY/P/PA/PAA/PAAI, CANADIAN SYLLABICS
NUNAVIK/SAYISI HE, CANADIAN SYLLABICS OJIBWAY C/K/N/NWI/NWII/NWO/NWOO/T, CANADIAN SYLLABICS
PAY/PE/PI/PII/PO/POO/POY/PWA/PWAA/PWE/PWI/PWII/PWO/PWOO/PWOY/Q, CANADIAN SYLLABICS
QA/QAA/QAAI/QAI/QI/QII/QO/QOO/R/RA/RAA/RAAI/RAY/RE/RI/RII/RO, CANADIAN SYLLABICS R-CREE RWE,
CANADIAN SYLLABICS ROO/RWA/RWAA/RWEE/RWI/RWII/RWO/RWOO/S/SA/SAA/SAAI/SAY/SE/SH/SHA, CANADIAN
SYLLABICS SAYISI JUU/SHOO, CANADIAN SYLLABICS SAYISI/TH-CREE/WOODS-CREE TH, CANADIAN SYLLABICS
SAYISI/WEST-CREE SHWE, CANADIAN SYLLABICS
SHAA/SHAY/SHE/SHI/SHII/SHO/SHOO/SHOY/SHWA/SHWAA/SHWE/SHWI/SHWII, CANADIAN SYLLABICS
SHWO/SHWOO/SHWOY/SI/SII/SO/SOO/SOY/SPA/SPE/SPI/SPO/SW/SWA/SWAA, CANADIAN SYLLABICS SOUTH-SLAVEY
KAH/KEH/KIH/KOH, CANADIAN SYLLABICS
SWE/SWI/SWII/SWO/SWOO/T/TA/TAA/TAAI/TAY/TE/TH/THA/THAA/THE/THI, CANADIAN SYLLABICS TH-CREE
THAA/THOO, CANADIAN SYLLABICS THII/THO/THOO/THWA/THWAA/THWE/TI/TII/TLHA/TLHE/TLHI/TLHO/TLHOO,
CANADIAN SYLLABICS TLHWE/TO/TOO/TTA/TTE/TTH/TTHA/TTHAA/TTHE/TTHI/TTHO/TTHOO/TTHWE, CANADIAN
SYLLABICS TTI/TTO/TWA/TWAA/TWE/TWI/TWII/TWO/TWOO/TYA/TYE/TYI/TYO/WA/WAA, CANADIAN SYLLABICS
WAY/WE/WI/WII/WO/WOO/Y/YA/YAA/YAAI/YAY/YE/YI/YII/YO/YOO/YOY/YWA, CANADIAN SYLLABICS WEST-CREE
CWA/CWE/CWI/CWII/CWO/CWOO/FWAA/KWA/KWE/KWI/KWII/KWO/KWOO/LAA, CANADIAN SYLLABICS WEST-CREE
LWA/LWAA/LWE/LWI/LWII/LWO/LWOO/MWA/MWE/MWI/MWII/MWO/MWOO/NWA, CANADIAN SYLLABICS WEST-CREE
NWE/PWA/PWE/PWI/PWII/PWO/PWOO/RWAA/SHWA/SHWAA/SHWI/SHWII/SHWO, CANADIAN SYLLABICS WEST-CREE
SHWOO/SWA/SWE/SWI/SWII/SWO/SWOO/TWA/TWE/TWI/TWII/TWO/TWOO/WII, CANADIAN SYLLABICS WEST-CREE
YWA/YWE/YWI/YWII/YWO/YWOO, CANADIAN SYLLABICS WEST-CREE/WOODS-CREE THWAA, CANADIAN SYLLABICS
WEST-CREE/Y-CREE LOO/PWAA, CANADIAN SYLLABICS WOODS-CREE FINAL TH, CANADIAN SYLLABICS WOODS-CREE
THWA/THWEE/THWI/THWII/THWO/THWOO, CANADIAN SYLLABICS Y-CREE COO/KOO/MOO/NOO/OO/POO/SOO/TOO/YOO,
CANADIAN SYLLABICS YWAA/YWE/YWI/YWII/YWO/YWOO, CANCEL, CANCEL CHARACTER/TAG, CANCELLATION X,
CANCER, CANDLE, CANDY, CANNED FOOD, CANOE, CAPITULUM, CAPRICORN, CAR SLIDING, CARD FILE BOX,
CARD INDEX, CARD INDEX DIVIDERS, CARE OF, CARET, CARET INSERTION POINT, CARIAN LETTER
A/A2/B/C-18/C-39/D/D2/E/E2/G/G2/I/II/K/K2/L/LD/LD2/M/MB/MB2/MB3, CARIAN LETTER
MB4/N/ND/NG/NN/O/P/P2/Q/R/RR/S/SH/SH2/SS/ST/ST2/T/TT/TT2/U/UU, CARIAN LETTER
UUU/UUU2/UUU3/UUUU/X, CARON, CAROUSEL HORSE, CARP STREAMER, CARPENTRY SAW, CARRIAGE RETURN,
CARROT, CASTLE, CAT, CAT FACE, CAT FACE WITH TEARS OF JOY, CAT FACE WITH WRY SMILE, CAUCASIAN
ALBANIAN CITATION MARK, CAUCASIAN ALBANIAN LETTER
ALT/AOR/BET/CAR/CAYN/CHA/CHAT/CHI/CHOY/CYAW/CYAY/DAT/DYAN/DZAY, CAUCASIAN ALBANIAN LETTER
DZYAY/EB/EYN/FAM/GHEYS/GIM/HEYT/INYA/IRB/IWN/JAYN/JHOX/KAR/KIW, CAUCASIAN ALBANIAN LETTER
LAN/LYIT/MAQ/NOWC/ON/PEN/PIWR/QAR/QAY/RAT/SEYK/SHA/SHAK/SHOY, CAUCASIAN ALBANIAN LETTER
TAS/TIWR/TYAY/VEYZ/XEYN/YAYD/YOWD/ZARL/ZHA/ZHIL, CAUTION SIGN, CCH, CEDI SIGN, CEDILLA, CELTIC
CROSS, CENT SIGN, CENTRE LINE SYMBOL, CENTRELINE LOW LINE, CENTRELINE OVERLINE, CERES, CGJ,
CHAINS, CHAIR, CHAKMA AU/O/QUESTION/SECTION MARK, CHAKMA DANDA/MAAYYAA/VIRAMA, CHAKMA DIGIT
EIGHT/FIVE/FOUR/NINE/ONE/SEVEN/SIX/THREE/TWO/ZERO, CHAKMA DOUBLE DANDA, CHAKMA LETTER
AA/BAA/BHAA/CAA/CHAA/DAA/DDAA/DDHAA/DHAA/E/GAA/GHAA/HAA/I/JAA, CHAKMA LETTER
JHAA/KAA/KHAA/LAA/LHAA/MAA/NAA/NGAA/NNAA/NYAA/PAA/PHAA/RAA/SAA, CHAKMA LETTER
TAA/THAA/TTAA/TTHAA/U/VAA/WAA/YAA/YYAA, CHAKMA SIGN ANUSVARA/CANDRABINDU/VISARGA, CHAKMA VOWEL
SIGN A/AA/AI/AU/E/EI/I/II/O/OI/U/UU, CHAM CONSONANT SIGN FINAL H/M/NG, CHAM CONSONANT SIGN
LA/RA/WA/YA, CHAM DIGIT EIGHT/FIVE/FOUR/NINE/ONE/SEVEN/SIX/THREE/TWO/ZERO, CHAM LETTER
A/AI/BA/BBA/BHA/CHA/CHHA/DA/DDA/DHA/E/GA/GHA/HA/I/JA/JHA/KA/KHA, CHAM LETTER FINAL
CH/G/K/L/N/NG/P/R/SS/T/Y, CHAM LETTER
LA/MA/MUE/NA/NGA/NGUE/NHA/NHJA/NHUE/NUE/O/PA/PHA/PPA/RA/SA/SSA, CHAM LETTER TA/THA/U/VA/YA, CHAM
PUNCTUATION DANDA/SPIRAL, CHAM PUNCTUATION DOUBLE/TRIPLE DANDA, CHAM VOWEL SIGN
AA/AI/AU/EI/I/II/O/OE/U/UE, CHARACTER TABULATION SET, CHARACTER TABULATION WITH JUSTIFICATION,
CHARACTER TABULATION/TIE, CHART WITH DOWNWARDS/UPWARDS TREND, CHART WITH UPWARDS TREND AND YEN
SIGN, CHECK MARK, CHECKER BOARD, CHECKER BOARD FILL, CHEERING MEGAPHONE, CHEESE WEDGE, CHEQUERED
FLAG, CHEROKEE LETTER A/DA/DE/DI/DLA/DO/DU/DV/E/GA/GE/GI/GO/GU/GV/HA/HE/HI/HNA/HO/HU, CHEROKEE
LETTER HV/I/KA/LA/LE/LI/LO/LU/LV/MA/ME/MI/MO/MU/MV/NA/NAH/NE/NI/NO/NU, CHEROKEE LETTER
NV/O/QUA/QUE/QUI/QUO/QUU/QUV/S/SA/SE/SI/SO/SU/SV/TA/TE/TI/TLA, CHEROKEE LETTER
TLE/TLI/TLO/TLU/TLV/TSA/TSE/TSI/TSO/TSU/TSV/U/V/WA/WE/WI/WO/WU, CHEROKEE LETTER
WV/YA/YE/YI/YO/YU/YV, CHEROKEE SMALL LETTER
A/DA/DE/DI/DLA/DO/DU/DV/E/GA/GE/GI/GO/GU/GV/HA/HE/HI/HNA/HO/HU, CHEROKEE SMALL LETTER
HV/I/KA/LA/LE/LI/LO/LU/LV/MA/ME/MI/MO/MU/MV/NA/NAH/NE/NI/NO/NU, CHEROKEE SMALL LETTER
NV/O/QUA/QUE/QUI/QUO/QUU/QUV/S/SA/SE/SI/SO/SU/SV/TA/TE/TI/TLA, CHEROKEE SMALL LETTER
TLE/TLI/TLO/TLU/TLV/TSA/TSE/TSI/TSO/TSU/TSV/U/V/WA/WE/WI/WO/WU, CHEROKEE SMALL LETTER
WV/YA/YE/YI/YO/YU/YV, CHERRIES, CHERRY BLOSSOM, CHESTNUT, CHI RHO, CHICKEN, CHILD, CHILDREN
CROSSING, CHIPMUNK, CHIRON, CHOCOLATE BAR, CHOPSTICKS, CHORASMIAN LETTER
ALEPH/AYIN/BETH/DALETH/GIMEL/HE/HETH/KAPH/LAMEDH/MEM/NUN/PE, CHORASMIAN LETTER CURLED WAW,
CHORASMIAN LETTER RESH/SAMEKH/SHIN/TAW/WAW/YODH/ZAYIN, CHORASMIAN LETTER SMALL ALEPH, CHORASMIAN
NUMBER FOUR/ONE/TEN/THREE/TWENTY/TWO, CHORASMIAN NUMBER ONE HUNDRED, CHRISTMAS TREE, CHURCH,
CINEMA, CIRCLE DIVIDED BY HORIZONTAL BAR AND TOP HALF DIVIDED BY VERTICAL BAR, CIRCLE WITH ALL
BUT UPPER LEFT QUADRANT BLACK, CIRCLE WITH HORIZONTAL BAR, CIRCLE WITH LEFT/LOWER/RIGHT/UPPER
HALF BLACK, CIRCLE WITH SMALL CIRCLE TO THE RIGHT, CIRCLE WITH SUPERIMPOSED X, CIRCLE WITH TWO
HORIZONTAL STROKES TO THE RIGHT, CIRCLE WITH UPPER RIGHT QUADRANT BLACK, CIRCLE WITH VERTICAL
FILL, CIRCLED ANTICLOCKWISE ARROW, CIRCLED ANTICLOCKWISE-ROTATED DIVISION SIGN, CIRCLED
ASTERISK/DOT/RING OPERATOR, CIRCLED BOLD X, CIRCLED
BULLET/CC/CD/DASH/EQUALS/GREATER-THAN/LESS-THAN/MINUS/PARALLEL, CIRCLED C WITH OVERLAID
BACKSLASH, CIRCLED CROSS FORMEE WITH FOUR/TWO DOTS, CIRCLED CROSS FORMEE/POMMEE, CIRCLED
CROSSING LANES, CIRCLED DIGIT ZERO, CIRCLED DIGIT/IDEOGRAPH
EIGHT/FIVE/FOUR/NINE/ONE/SEVEN/SIX/THREE/TWO, CIRCLED DIVISION SIGN/SLASH, CIRCLED DOLLAR SIGN
WITH OVERLAID BACKSLASH, CIRCLED HANGUL
CHIEUCH/CIEUC/HIEUH/IEUNG/KHIEUKH/KIYEOK/MIEUM/NIEUN/PHIEUPH, CIRCLED HANGUL
CHIEUCH/CIEUC/HIEUH/IEUNG/KHIEUKH/KIYEOK/MIEUM/NIEUN/PHIEUPH A, CIRCLED HANGUL IEUNG U, CIRCLED
HANGUL PIEUP/RIEUL/SIOS/THIEUTH/TIKEUT, CIRCLED HANGUL PIEUP/RIEUL/SIOS/THIEUTH/TIKEUT A,
CIRCLED HEAVY WHITE RIGHTWARDS ARROW, CIRCLED HORIZONTAL BAR WITH NOTCH, CIRCLED HUMAN FIGURE,
CIRCLED IDEOGRAPH ACCEPT/ADVANTAGE/ALLIANCE/ATTENTION/CENTRE/CONGRATULATION/COPY, CIRCLED
IDEOGRAPH CORRECT/EARTH/ENTERPRISE/EXCELLENT/FEMALE/FINANCIAL/FIRE/HAVE, CIRCLED IDEOGRAPH
HIGH/ITEM/KINDERGARTEN/KOTO/LABOR/LEFT/LOW/MALE/MEDICINE/METAL, CIRCLED IDEOGRAPH
MOON/NAME/NIGHT/PRINT/QUESTION/RELIGION/RESOURCE/REST/RIGHT, CIRCLED IDEOGRAPH
SCHOOL/SECRET/SOCIETY/SPECIAL/STOCK/STUDY/SUITABLE/SUN, CIRCLED IDEOGRAPH SUPERVISE/WATER/WOOD,
CIRCLED IDEOGRAPH/NUMBER TEN, CIRCLED INFORMATION SOURCE, CIRCLED ITALIC LATIN CAPITAL LETTER
C/R, CIRCLED KATAKANA A/E/HA/HE/HI/HO/HU/I/KA/KE/KI/KO/KU/MA/ME/MI/MO/MU/NA/NE/NI/NO, CIRCLED
KATAKANA NU/O/RA/RE/RI/RO/RU/SA/SE/SI/SO/SU/TA/TE/TI/TO/TU/U/WA/WE/WI/WO, CIRCLED KATAKANA
YA/YO/YU, CIRCLED KOREAN CHARACTER CHAMKO/JUEUI, CIRCLED LATIN CAPITAL/SMALL LETTER
A/B/C/D/E/F/G/H/I/J/K/L/M/N/O/P/Q/R/S/T/U/V/W/X/Y/Z, CIRCLED MULTIPLICATION SIGN WITH CIRCUMFLEX
ACCENT, CIRCLED NUMBER EIGHTEEN/ELEVEN/FIFTEEN/FIFTY/FORTY/FOURTEEN/NINETEEN/SEVENTEEN, CIRCLED
NUMBER EIGHTY/FIFTY/FORTY/SEVENTY/SIXTY/TEN/THIRTY/TWENTY ON BLACK SQUARE, CIRCLED NUMBER
FORTY/THIRTY/TWENTY EIGHT/FIVE/FOUR/NINE/ONE/SEVEN/SIX/THREE/TWO, CIRCLED NUMBER
SIXTEEN/THIRTEEN/THIRTY/TWELVE/TWENTY, CIRCLED OPEN CENTRE EIGHT POINTED STAR, CIRCLED
PERPENDICULAR/PLUS/SQUARE/TIMES/TRIANGLE/WZ/X, CIRCLED POSTAL MARK, CIRCLED REVERSE SOLIDUS,
CIRCLED TRIANGLE DOWN, CIRCLED VERTICAL BAR, CIRCLED WHITE BULLET/STAR, CIRCLED ZERO WITH SLASH,
CIRCULATION FUNCTION, CIRCUMFLEX ACCENT, CIRCUS TENT, CITYSCAPE, CITYSCAPE AT DUSK, CJK
COMPATIBILITY IDEOGRAPH-2F800/IDEOGRAPH-2F801/IDEOGRAPH-2F802/IDEOGRAPH-2F803, CJK COMPATIBILITY
IDEOGRAPH-2F804/IDEOGRAPH-2F805/IDEOGRAPH-2F806/IDEOGRAPH-2F807, CJK COMPATIBILITY
IDEOGRAPH-2F808/IDEOGRAPH-2F809/IDEOGRAPH-2F80A/IDEOGRAPH-2F80B, CJK COMPATIBILITY
IDEOGRAPH-2F80C/IDEOGRAPH-2F80D/IDEOGRAPH-2F80E/IDEOGRAPH-2F80F, CJK COMPATIBILITY
IDEOGRAPH-2F810/IDEOGRAPH-2F811/IDEOGRAPH-2F812/IDEOGRAPH-2F813, CJK COMPATIBILITY
IDEOGRAPH-2F814/IDEOGRAPH-2F815/IDEOGRAPH-2F816/IDEOGRAPH-2F817, CJK COMPATIBILITY
IDEOGRAPH-2F818/IDEOGRAPH-2F819/IDEOGRAPH-2F81A/IDEOGRAPH-2F81B, CJK COMPATIBILITY
IDEOGRAPH-2F81C/IDEOGRAPH-2F81D/IDEOGRAPH-2F81E/IDEOGRAPH-2F81F, CJK COMPATIBILITY
IDEOGRAPH-2F820/IDEOGRAPH-2F821/IDEOGRAPH-2F822/IDEOGRAPH-2F823, CJK COMPATIBILITY
IDEOGRAPH-2F824/IDEOGRAPH-2F825/IDEOGRAPH-2F826/IDEOGRAPH-2F827, CJK COMPATIBILITY
IDEOGRAPH-2F828/IDEOGRAPH-2F829/IDEOGRAPH-2F82A/IDEOGRAPH-2F82B, CJK COMPATIBILITY
IDEOGRAPH-2F82C/IDEOGRAPH-2F82D/IDEOGRAPH-2F82E/IDEOGRAPH-2F82F, CJK COMPATIBILITY
IDEOGRAPH-2F830/IDEOGRAPH-2F831/IDEOGRAPH-2F832/IDEOGRAPH-2F833, CJK COMPATIBILITY
IDEOGRAPH-2F834/IDEOGRAPH-2F835/IDEOGRAPH-2F836/IDEOGRAPH-2F837, CJK COMPATIBILITY
IDEOGRAPH-2F838/IDEOGRAPH-2F839/IDEOGRAPH-2F83A/IDEOGRAPH-2F83B, CJK COMPATIBILITY
IDEOGRAPH-2F83C/IDEOGRAPH-2F83D/IDEOGRAPH-2F83E/IDEOGRAPH-2F83F, CJK COMPATIBILITY
IDEOGRAPH-2F840/IDEOGRAPH-2F841/IDEOGRAPH-2F842/IDEOGRAPH-2F843, CJK COMPATIBILITY
IDEOGRAPH-2F844/IDEOGRAPH-2F845/IDEOGRAPH-2F846/IDEOGRAPH-2F847, CJK COMPATIBILITY
IDEOGRAPH-2F848/IDEOGRAPH-2F849/IDEOGRAPH-2F84A/IDEOGRAPH-2F84B, CJK COMPATIBILITY
IDEOGRAPH-2F84C/IDEOGRAPH-2F84D/IDEOGRAPH-2F84E/IDEOGRAPH-2F84F, CJK COMPATIBILITY
IDEOGRAPH-2F850/IDEOGRAPH-2F851/IDEOGRAPH-2F852/IDEOGRAPH-2F853, CJK COMPATIBILITY
IDEOGRAPH-2F854/IDEOGRAPH-2F855/IDEOGRAPH-2F856/IDEOGRAPH-2F857, CJK COMPATIBILITY
IDEOGRAPH-2F858/IDEOGRAPH-2F859/IDEOGRAPH-2F85A/IDEOGRAPH-2F85B, CJK COMPATIBILITY
IDEOGRAPH-2F85C/IDEOGRAPH-2F85D/IDEOGRAPH-2F85E/IDEOGRAPH-2F85F, CJK COMPATIBILITY
IDEOGRAPH-2F860/IDEOGRAPH-2F861/IDEOGRAPH-2F862/IDEOGRAPH-2F863, CJK COMPATIBILITY
IDEOGRAPH-2F864/IDEOGRAPH-2F865/IDEOGRAPH-2F866/IDEOGRAPH-2F867, CJK COMPATIBILITY
IDEOGRAPH-2F868/IDEOGRAPH-2F869/IDEOGRAPH-2F86A/IDEOGRAPH-2F86B, CJK COMPATIBILITY
IDEOGRAPH-2F86C/IDEOGRAPH-2F86D/IDEOGRAPH-2F86E/IDEOGRAPH-2F86F, CJK COMPATIBILITY
IDEOGRAPH-2F870/IDEOGRAPH-2F871/IDEOGRAPH-2F872/IDEOGRAPH-2F873, CJK COMPATIBILITY
IDEOGRAPH-2F874/IDEOGRAPH-2F875/IDEOGRAPH-2F876/IDEOGRAPH-2F877, CJK COMPATIBILITY
IDEOGRAPH-2F878/IDEOGRAPH-2F879/IDEOGRAPH-2F87A/IDEOGRAPH-2F87B, CJK COMPATIBILITY
IDEOGRAPH-2F87C/IDEOGRAPH-2F87D/IDEOGRAPH-2F87E/IDEOGRAPH-2F87F, CJK COMPATIBILITY
IDEOGRAPH-2F880/IDEOGRAPH-2F881/IDEOGRAPH-2F882/IDEOGRAPH-2F883, CJK COMPATIBILITY
IDEOGRAPH-2F884/IDEOGRAPH-2F885/IDEOGRAPH-2F886/IDEOGRAPH-2F887, CJK COMPATIBILITY
IDEOGRAPH-2F888/IDEOGRAPH-2F889/IDEOGRAPH-2F88A/IDEOGRAPH-2F88B, CJK COMPATIBILITY
IDEOGRAPH-2F88C/IDEOGRAPH-2F88D/IDEOGRAPH-2F88E/IDEOGRAPH-2F88F, CJK COMPATIBILITY
IDEOGRAPH-2F890/IDEOGRAPH-2F891/IDEOGRAPH-2F892/IDEOGRAPH-2F893, CJK COMPATIBILITY
IDEOGRAPH-2F894/IDEOGRAPH-2F895/IDEOGRAPH-2F896/IDEOGRAPH-2F897, CJK COMPATIBILITY
IDEOGRAPH-2F898/IDEOGRAPH-2F899/IDEOGRAPH-2F89A/IDEOGRAPH-2F89B, CJK COMPATIBILITY
IDEOGRAPH-2F89C/IDEOGRAPH-2F89D/IDEOGRAPH-2F89E/IDEOGRAPH-2F89F, CJK COMPATIBILITY
IDEOGRAPH-2F8A0/IDEOGRAPH-2F8A1/IDEOGRAPH-2F8A2/IDEOGRAPH-2F8A3, CJK COMPATIBILITY
IDEOGRAPH-2F8A4/IDEOGRAPH-2F8A5/IDEOGRAPH-2F8A6/IDEOGRAPH-2F8A7, CJK COMPATIBILITY
IDEOGRAPH-2F8A8/IDEOGRAPH-2F8A9/IDEOGRAPH-2F8AA/IDEOGRAPH-2F8AB, CJK COMPATIBILITY
IDEOGRAPH-2F8AC/IDEOGRAPH-2F8AD/IDEOGRAPH-2F8AE/IDEOGRAPH-2F8AF, CJK COMPATIBILITY
IDEOGRAPH-2F8B0/IDEOGRAPH-2F8B1/IDEOGRAPH-2F8B2/IDEOGRAPH-2F8B3, CJK COMPATIBILITY
IDEOGRAPH-2F8B4/IDEOGRAPH-2F8B5/IDEOGRAPH-2F8B6/IDEOGRAPH-2F8B7, CJK COMPATIBILITY
IDEOGRAPH-2F8B8/IDEOGRAPH-2F8B9/IDEOGRAPH-2F8BA/IDEOGRAPH-2F8BB, CJK COMPATIBILITY
IDEOGRAPH-2F8BC/IDEOGRAPH-2F8BD/IDEOGRAPH-2F8BE/IDEOGRAPH-2F8BF, CJK COMPATIBILITY
IDEOGRAPH-2F8C0/IDEOGRAPH-2F8C1/IDEOGRAPH-2F8C2/IDEOGRAPH-2F8C3, CJK COMPATIBILITY
IDEOGRAPH-2F8C4/IDEOGRAPH-2F8C5/IDEOGRAPH-2F8C6/IDEOGRAPH-2F8C7, CJK COMPATIBILITY
IDEOGRAPH-2F8C8/IDEOGRAPH-2F8C9/IDEOGRAPH-2F8CA/IDEOGRAPH-2F8CB, CJK COMPATIBILITY
IDEOGRAPH-2F8CC/IDEOGRAPH-2F8CD/IDEOGRAPH-2F8CE/IDEOGRAPH-2F8CF, CJK COMPATIBILITY
IDEOGRAPH-2F8D0/IDEOGRAPH-2F8D1/IDEOGRAPH-2F8D2/IDEOGRAPH-2F8D3, CJK COMPATIBILITY
IDEOGRAPH-2F8D4/IDEOGRAPH-2F8D5/IDEOGRAPH-2F8D6/IDEOGRAPH-2F8D7, CJK COMPATIBILITY
IDEOGRAPH-2F8D8/IDEOGRAPH-2F8D9/IDEOGRAPH-2F8DA/IDEOGRAPH-2F8DB, CJK COMPATIBILITY
IDEOGRAPH-2F8DC/IDEOGRAPH-2F8DD/IDEOGRAPH-2F8DE/IDEOGRAPH-2F8DF, CJK COMPATIBILITY
IDEOGRAPH-2F8E0/IDEOGRAPH-2F8E1/IDEOGRAPH-2F8E2/IDEOGRAPH-2F8E3, CJK COMPATIBILITY
IDEOGRAPH-2F8E4/IDEOGRAPH-2F8E5/IDEOGRAPH-2F8E6/IDEOGRAPH-2F8E7, CJK COMPATIBILITY
IDEOGRAPH-2F8E8/IDEOGRAPH-2F8E9/IDEOGRAPH-2F8EA/IDEOGRAPH-2F8EB, CJK COMPATIBILITY
IDEOGRAPH-2F8EC/IDEOGRAPH-2F8ED/IDEOGRAPH-2F8EE/IDEOGRAPH-2F8EF, CJK COMPATIBILITY
IDEOGRAPH-2F8F0/IDEOGRAPH-2F8F1/IDEOGRAPH-2F8F2/IDEOGRAPH-2F8F3, CJK COMPATIBILITY
IDEOGRAPH-2F8F4/IDEOGRAPH-2F8F5/IDEOGRAPH-2F8F6/IDEOGRAPH-2F8F7, CJK COMPATIBILITY
IDEOGRAPH-2F8F8/IDEOGRAPH-2F8F9/IDEOGRAPH-2F8FA/IDEOGRAPH-2F8FB, CJK COMPATIBILITY
IDEOGRAPH-2F8FC/IDEOGRAPH-2F8FD/IDEOGRAPH-2F8FE/IDEOGRAPH-2F8FF, CJK COMPATIBILITY
IDEOGRAPH-2F900/IDEOGRAPH-2F901/IDEOGRAPH-2F902/IDEOGRAPH-2F903, CJK COMPATIBILITY
IDEOGRAPH-2F904/IDEOGRAPH-2F905/IDEOGRAPH-2F906/IDEOGRAPH-2F907, CJK COMPATIBILITY
IDEOGRAPH-2F908/IDEOGRAPH-2F909/IDEOGRAPH-2F90A/IDEOGRAPH-2F90B, CJK COMPATIBILITY
IDEOGRAPH-2F90C/IDEOGRAPH-2F90D/IDEOGRAPH-2F90E/IDEOGRAPH-2F90F, CJK COMPATIBILITY
IDEOGRAPH-2F910/IDEOGRAPH-2F911/IDEOGRAPH-2F912/IDEOGRAPH-2F913, CJK COMPATIBILITY
IDEOGRAPH-2F914/IDEOGRAPH-2F915/IDEOGRAPH-2F916/IDEOGRAPH-2F917, CJK COMPATIBILITY
IDEOGRAPH-2F918/IDEOGRAPH-2F919/IDEOGRAPH-2F91A/IDEOGRAPH-2F91B, CJK COMPATIBILITY
IDEOGRAPH-2F91C/IDEOGRAPH-2F91D/IDEOGRAPH-2F91E/IDEOGRAPH-2F91F, CJK COMPATIBILITY
IDEOGRAPH-2F920/IDEOGRAPH-2F921/IDEOGRAPH-2F922/IDEOGRAPH-2F923, CJK COMPATIBILITY
IDEOGRAPH-2F924/IDEOGRAPH-2F925/IDEOGRAPH-2F926/IDEOGRAPH-2F927, CJK COMPATIBILITY
IDEOGRAPH-2F928/IDEOGRAPH-2F929/IDEOGRAPH-2F92A/IDEOGRAPH-2F92B, CJK COMPATIBILITY
IDEOGRAPH-2F92C/IDEOGRAPH-2F92D/IDEOGRAPH-2F92E/IDEOGRAPH-2F92F, CJK COMPATIBILITY
IDEOGRAPH-2F930/IDEOGRAPH-2F931/IDEOGRAPH-2F932/IDEOGRAPH-2F933, CJK COMPATIBILITY
IDEOGRAPH-2F934/IDEOGRAPH-2F935/IDEOGRAPH-2F936/IDEOGRAPH-2F937, CJK COMPATIBILITY
IDEOGRAPH-2F938/IDEOGRAPH-2F939/IDEOGRAPH-2F93A/IDEOGRAPH-2F93B, CJK COMPATIBILITY
IDEOGRAPH-2F93C/IDEOGRAPH-2F93D/IDEOGRAPH-2F93E/IDEOGRAPH-2F93F, CJK COMPATIBILITY
IDEOGRAPH-2F940/IDEOGRAPH-2F941/IDEOGRAPH-2F942/IDEOGRAPH-2F943, CJK COMPATIBILITY
IDEOGRAPH-2F944/IDEOGRAPH-2F945/IDEOGRAPH-2F946/IDEOGRAPH-2F947, CJK COMPATIBILITY
IDEOGRAPH-2F948/IDEOGRAPH-2F949/IDEOGRAPH-2F94A/IDEOGRAPH-2F94B, CJK COMPATIBILITY
IDEOGRAPH-2F94C/IDEOGRAPH-2F94D/IDEOGRAPH-2F94E/IDEOGRAPH-2F94F, CJK COMPATIBILITY
IDEOGRAPH-2F950/IDEOGRAPH-2F951/IDEOGRAPH-2F952/IDEOGRAPH-2F953, CJK COMPATIBILITY
IDEOGRAPH-2F954/IDEOGRAPH-2F955/IDEOGRAPH-2F956/IDEOGRAPH-2F957, CJK COMPATIBILITY
IDEOGRAPH-2F958/IDEOGRAPH-2F959/IDEOGRAPH-2F95A/IDEOGRAPH-2F95B, CJK COMPATIBILITY
IDEOGRAPH-2F95C/IDEOGRAPH-2F95D/IDEOGRAPH-2F95E/IDEOGRAPH-2F95F, CJK COMPATIBILITY
IDEOGRAPH-2F960/IDEOGRAPH-2F961/IDEOGRAPH-2F962/IDEOGRAPH-2F963, CJK COMPATIBILITY
IDEOGRAPH-2F964/IDEOGRAPH-2F965/IDEOGRAPH-2F966/IDEOGRAPH-2F967, CJK COMPATIBILITY
IDEOGRAPH-2F968/IDEOGRAPH-2F969/IDEOGRAPH-2F96A/IDEOGRAPH-2F96B, CJK COMPATIBILITY
IDEOGRAPH-2F96C/IDEOGRAPH-2F96D/IDEOGRAPH-2F96E/IDEOGRAPH-2F96F, CJK COMPATIBILITY
IDEOGRAPH-2F970/IDEOGRAPH-2F971/IDEOGRAPH-2F972/IDEOGRAPH-2F973, CJK COMPATIBILITY
IDEOGRAPH-2F974/IDEOGRAPH-2F975/IDEOGRAPH-2F976/IDEOGRAPH-2F977, CJK COMPATIBILITY
IDEOGRAPH-2F978/IDEOGRAPH-2F979/IDEOGRAPH-2F97A/IDEOGRAPH-2F97B, CJK COMPATIBILITY
IDEOGRAPH-2F97C/IDEOGRAPH-2F97D/IDEOGRAPH-2F97E/IDEOGRAPH-2F97F, CJK COMPATIBILITY
IDEOGRAPH-2F980/IDEOGRAPH-2F981/IDEOGRAPH-2F982/IDEOGRAPH-2F983, CJK COMPATIBILITY
IDEOGRAPH-2F984/IDEOGRAPH-2F985/IDEOGRAPH-2F986/IDEOGRAPH-2F987, CJK COMPATIBILITY
IDEOGRAPH-2F988/IDEOGRAPH-2F989/IDEOGRAPH-2F98A/IDEOGRAPH-2F98B, CJK COMPATIBILITY
IDEOGRAPH-2F98C/IDEOGRAPH-2F98D/IDEOGRAPH-2F98E/IDEOGRAPH-2F98F, CJK COMPATIBILITY
IDEOGRAPH-2F990/IDEOGRAPH-2F991/IDEOGRAPH-2F992/IDEOGRAPH-2F993, CJK COMPATIBILITY
IDEOGRAPH-2F994/IDEOGRAPH-2F995/IDEOGRAPH-2F996/IDEOGRAPH-2F997, CJK COMPATIBILITY
IDEOGRAPH-2F998/IDEOGRAPH-2F999/IDEOGRAPH-2F99A/IDEOGRAPH-2F99B, CJK COMPATIBILITY
IDEOGRAPH-2F99C/IDEOGRAPH-2F99D/IDEOGRAPH-2F99E/IDEOGRAPH-2F99F, CJK COMPATIBILITY
IDEOGRAPH-2F9A0/IDEOGRAPH-2F9A1/IDEOGRAPH-2F9A2/IDEOGRAPH-2F9A3, CJK COMPATIBILITY
IDEOGRAPH-2F9A4/IDEOGRAPH-2F9A5/IDEOGRAPH-2F9A6/IDEOGRAPH-2F9A7, CJK COMPATIBILITY
IDEOGRAPH-2F9A8/IDEOGRAPH-2F9A9/IDEOGRAPH-2F9AA/IDEOGRAPH-2F9AB, CJK COMPATIBILITY
IDEOGRAPH-2F9AC/IDEOGRAPH-2F9AD/IDEOGRAPH-2F9AE/IDEOGRAPH-2F9AF, CJK COMPATIBILITY
IDEOGRAPH-2F9B0/IDEOGRAPH-2F9B1/IDEOGRAPH-2F9B2/IDEOGRAPH-2F9B3, CJK COMPATIBILITY
IDEOGRAPH-2F9B4/IDEOGRAPH-2F9B5/IDEOGRAPH-2F9B6/IDEOGRAPH-2F9B7, CJK COMPATIBILITY
IDEOGRAPH-2F9B8/IDEOGRAPH-2F9B9/IDEOGRAPH-2F9BA/IDEOGRAPH-2F9BB, CJK COMPATIBILITY
IDEOGRAPH-2F9BC/IDEOGRAPH-2F9BD/IDEOGRAPH-2F9BE/IDEOGRAPH-2F9BF, CJK COMPATIBILITY
IDEOGRAPH-2F9C0/IDEOGRAPH-2F9C1/IDEOGRAPH-2F9C2/IDEOGRAPH-2F9C3, CJK COMPATIBILITY
IDEOGRAPH-2F9C4/IDEOGRAPH-2F9C5/IDEOGRAPH-2F9C6/IDEOGRAPH-2F9C7, CJK COMPATIBILITY
IDEOGRAPH-2F9C8/IDEOGRAPH-2F9C9/IDEOGRAPH-2F9CA/IDEOGRAPH-2F9CB, CJK COMPATIBILITY
IDEOGRAPH-2F9CC/IDEOGRAPH-2F9CD/IDEOGRAPH-2F9CE/IDEOGRAPH-2F9CF, CJK COMPATIBILITY
IDEOGRAPH-2F9D0/IDEOGRAPH-2F9D1/IDEOGRAPH-2F9D2/IDEOGRAPH-2F9D3, CJK COMPATIBILITY
IDEOGRAPH-2F9D4/IDEOGRAPH-2F9D5/IDEOGRAPH-2F9D6/IDEOGRAPH-2F9D7, CJK COMPATIBILITY
IDEOGRAPH-2F9D8/IDEOGRAPH-2F9D9/IDEOGRAPH-2F9DA/IDEOGRAPH-2F9DB, CJK COMPATIBILITY
IDEOGRAPH-2F9DC/IDEOGRAPH-2F9DD/IDEOGRAPH-2F9DE/IDEOGRAPH-2F9DF, CJK COMPATIBILITY
IDEOGRAPH-2F9E0/IDEOGRAPH-2F9E1/IDEOGRAPH-2F9E2/IDEOGRAPH-2F9E3, CJK COMPATIBILITY
IDEOGRAPH-2F9E4/IDEOGRAPH-2F9E5/IDEOGRAPH-2F9E6/IDEOGRAPH-2F9E7, CJK COMPATIBILITY
IDEOGRAPH-2F9E8/IDEOGRAPH-2F9E9/IDEOGRAPH-2F9EA/IDEOGRAPH-2F9EB, CJK COMPATIBILITY
IDEOGRAPH-2F9EC/IDEOGRAPH-2F9ED/IDEOGRAPH-2F9EE/IDEOGRAPH-2F9EF, CJK COMPATIBILITY
IDEOGRAPH-2F9F0/IDEOGRAPH-2F9F1/IDEOGRAPH-2F9F2/IDEOGRAPH-2F9F3, CJK COMPATIBILITY
IDEOGRAPH-2F9F4/IDEOGRAPH-2F9F5/IDEOGRAPH-2F9F6/IDEOGRAPH-2F9F7, CJK COMPATIBILITY
IDEOGRAPH-2F9F8/IDEOGRAPH-2F9F9/IDEOGRAPH-2F9FA/IDEOGRAPH-2F9FB, CJK COMPATIBILITY
IDEOGRAPH-2F9FC/IDEOGRAPH-2F9FD/IDEOGRAPH-2F9FE/IDEOGRAPH-2F9FF, CJK COMPATIBILITY
IDEOGRAPH-2FA00/IDEOGRAPH-2FA01/IDEOGRAPH-2FA02/IDEOGRAPH-2FA03, CJK COMPATIBILITY
IDEOGRAPH-2FA04/IDEOGRAPH-2FA05/IDEOGRAPH-2FA06/IDEOGRAPH-2FA07, CJK COMPATIBILITY
IDEOGRAPH-2FA08/IDEOGRAPH-2FA09/IDEOGRAPH-2FA0A/IDEOGRAPH-2FA0B, CJK COMPATIBILITY
IDEOGRAPH-2FA0C/IDEOGRAPH-2FA0D/IDEOGRAPH-2FA0E/IDEOGRAPH-2FA0F, CJK COMPATIBILITY
IDEOGRAPH-2FA10/IDEOGRAPH-2FA11/IDEOGRAPH-2FA12/IDEOGRAPH-2FA13, CJK COMPATIBILITY
IDEOGRAPH-2FA14/IDEOGRAPH-2FA15/IDEOGRAPH-2FA16/IDEOGRAPH-2FA17, CJK COMPATIBILITY
IDEOGRAPH-2FA18/IDEOGRAPH-2FA19/IDEOGRAPH-2FA1A/IDEOGRAPH-2FA1B, CJK COMPATIBILITY
IDEOGRAPH-2FA1C/IDEOGRAPH-2FA1D/IDEOGRAPH-F900/IDEOGRAPH-F901, CJK COMPATIBILITY
IDEOGRAPH-F902/IDEOGRAPH-F903/IDEOGRAPH-F904/IDEOGRAPH-F905, CJK COMPATIBILITY
IDEOGRAPH-F906/IDEOGRAPH-F907/IDEOGRAPH-F908/IDEOGRAPH-F909, CJK COMPATIBILITY
IDEOGRAPH-F90A/IDEOGRAPH-F90B/IDEOGRAPH-F90C/IDEOGRAPH-F90D, CJK COMPATIBILITY
IDEOGRAPH-F90E/IDEOGRAPH-F90F/IDEOGRAPH-F910/IDEOGRAPH-F911, CJK COMPATIBILITY
IDEOGRAPH-F912/IDEOGRAPH-F913/IDEOGRAPH-F914/IDEOGRAPH-F915, CJK COMPATIBILITY
IDEOGRAPH-F916/IDEOGRAPH-F917/IDEOGRAPH-F918/IDEOGRAPH-F919, CJK COMPATIBILITY
IDEOGRAPH-F91A/IDEOGRAPH-F91B/IDEOGRAPH-F91C/IDEOGRAPH-F91D, CJK COMPATIBILITY
IDEOGRAPH-F91E/IDEOGRAPH-F91F/IDEOGRAPH-F920/IDEOGRAPH-F921, CJK COMPATIBILITY
IDEOGRAPH-F922/IDEOGRAPH-F923/IDEOGRAPH-F924/IDEOGRAPH-F925, CJK COMPATIBILITY
IDEOGRAPH-F926/IDEOGRAPH-F927/IDEOGRAPH-F928/IDEOGRAPH-F929, CJK COMPATIBILITY
IDEOGRAPH-F92A/IDEOGRAPH-F92B/IDEOGRAPH-F92C/IDEOGRAPH-F92D, CJK COMPATIBILITY
IDEOGRAPH-F92E/IDEOGRAPH-F92F/IDEOGRAPH-F930/IDEOGRAPH-F931, CJK COMPATIBILITY
IDEOGRAPH-F932/IDEOGRAPH-F933/IDEOGRAPH-F934/IDEOGRAPH-F935, CJK COMPATIBILITY
IDEOGRAPH-F936/IDEOGRAPH-F937/IDEOGRAPH-F938/IDEOGRAPH-F939, CJK COMPATIBILITY
IDEOGRAPH-F93A/IDEOGRAPH-F93B/IDEOGRAPH-F93C/IDEOGRAPH-F93D, CJK COMPATIBILITY
IDEOGRAPH-F93E/IDEOGRAPH-F93F/IDEOGRAPH-F940/IDEOGRAPH-F941, CJK COMPATIBILITY
IDEOGRAPH-F942/IDEOGRAPH-F943/IDEOGRAPH-F944/IDEOGRAPH-F945, CJK COMPATIBILITY
IDEOGRAPH-F946/IDEOGRAPH-F947/IDEOGRAPH-F948/IDEOGRAPH-F949, CJK COMPATIBILITY
IDEOGRAPH-F94A/IDEOGRAPH-F94B/IDEOGRAPH-F94C/IDEOGRAPH-F94D, CJK COMPATIBILITY
IDEOGRAPH-F94E/IDEOGRAPH-F94F/IDEOGRAPH-F950/IDEOGRAPH-F951, CJK COMPATIBILITY
IDEOGRAPH-F952/IDEOGRAPH-F953/IDEOGRAPH-F954/IDEOGRAPH-F955, CJK COMPATIBILITY
IDEOGRAPH-F956/IDEOGRAPH-F957/IDEOGRAPH-F958/IDEOGRAPH-F959, CJK COMPATIBILITY
IDEOGRAPH-F95A/IDEOGRAPH-F95B/IDEOGRAPH-F95C/IDEOGRAPH-F95D, CJK COMPATIBILITY
IDEOGRAPH-F95E/IDEOGRAPH-F95F/IDEOGRAPH-F960/IDEOGRAPH-F961, CJK COMPATIBILITY
IDEOGRAPH-F962/IDEOGRAPH-F963/IDEOGRAPH-F964/IDEOGRAPH-F965, CJK COMPATIBILITY
IDEOGRAPH-F966/IDEOGRAPH-F967/IDEOGRAPH-F968/IDEOGRAPH-F969, CJK COMPATIBILITY
IDEOGRAPH-F96A/IDEOGRAPH-F96B/IDEOGRAPH-F96C/IDEOGRAPH-F96D, CJK COMPATIBILITY
IDEOGRAPH-F96E/IDEOGRAPH-F96F/IDEOGRAPH-F970/IDEOGRAPH-F971, CJK COMPATIBILITY
IDEOGRAPH-F972/IDEOGRAPH-F973/IDEOGRAPH-F974/IDEOGRAPH-F975, CJK COMPATIBILITY
IDEOGRAPH-F976/IDEOGRAPH-F977/IDEOGRAPH-F978/IDEOGRAPH-F979, CJK COMPATIBILITY
IDEOGRAPH-F97A/IDEOGRAPH-F97B/IDEOGRAPH-F97C/IDEOGRAPH-F97D, CJK COMPATIBILITY
IDEOGRAPH-F97E/IDEOGRAPH-F97F/IDEOGRAPH-F980/IDEOGRAPH-F981, CJK COMPATIBILITY
IDEOGRAPH-F982/IDEOGRAPH-F983/IDEOGRAPH-F984/IDEOGRAPH-F985, CJK COMPATIBILITY
IDEOGRAPH-F986/IDEOGRAPH-F987/IDEOGRAPH-F988/IDEOGRAPH-F989, CJK COMPATIBILITY
IDEOGRAPH-F98A/IDEOGRAPH-F98B/IDEOGRAPH-F98C/IDEOGRAPH-F98D, CJK COMPATIBILITY
IDEOGRAPH-F98E/IDEOGRAPH-F98F/IDEOGRAPH-F990/IDEOGRAPH-F991, CJK COMPATIBILITY
IDEOGRAPH-F992/IDEOGRAPH-F993/IDEOGRAPH-F994/IDEOGRAPH-F995, CJK COMPATIBILITY
IDEOGRAPH-F996/IDEOGRAPH-F997/IDEOGRAPH-F998/IDEOGRAPH-F999, CJK COMPATIBILITY
IDEOGRAPH-F99A/IDEOGRAPH-F99B/IDEOGRAPH-F99C/IDEOGRAPH-F99D, CJK COMPATIBILITY
IDEOGRAPH-F99E/IDEOGRAPH-F99F/IDEOGRAPH-F9A0/IDEOGRAPH-F9A1, CJK COMPATIBILITY
IDEOGRAPH-F9A2/IDEOGRAPH-F9A3/IDEOGRAPH-F9A4/IDEOGRAPH-F9A5, CJK COMPATIBILITY
IDEOGRAPH-F9A6/IDEOGRAPH-F9A7/IDEOGRAPH-F9A8/IDEOGRAPH-F9A9, CJK COMPATIBILITY
IDEOGRAPH-F9AA/IDEOGRAPH-F9AB/IDEOGRAPH-F9AC/IDEOGRAPH-F9AD, CJK COMPATIBILITY
IDEOGRAPH-F9AE/IDEOGRAPH-F9AF/IDEOGRAPH-F9B0/IDEOGRAPH-F9B1, CJK COMPATIBILITY
IDEOGRAPH-F9B2/IDEOGRAPH-F9B3/IDEOGRAPH-F9B4/IDEOGRAPH-F9B5, CJK COMPATIBILITY
IDEOGRAPH-F9B6/IDEOGRAPH-F9B7/IDEOGRAPH-F9B8/IDEOGRAPH-F9B9, CJK COMPATIBILITY
IDEOGRAPH-F9BA/IDEOGRAPH-F9BB/IDEOGRAPH-F9BC/IDEOGRAPH-F9BD, CJK COMPATIBILITY
IDEOGRAPH-F9BE/IDEOGRAPH-F9BF/IDEOGRAPH-F9C0/IDEOGRAPH-F9C1, CJK COMPATIBILITY
IDEOGRAPH-F9C2/IDEOGRAPH-F9C3/IDEOGRAPH-F9C4/IDEOGRAPH-F9C5, CJK COMPATIBILITY
IDEOGRAPH-F9C6/IDEOGRAPH-F9C7/IDEOGRAPH-F9C8/IDEOGRAPH-F9C9, CJK COMPATIBILITY
IDEOGRAPH-F9CA/IDEOGRAPH-F9CB/IDEOGRAPH-F9CC/IDEOGRAPH-F9CD, CJK COMPATIBILITY
IDEOGRAPH-F9CE/IDEOGRAPH-F9CF/IDEOGRAPH-F9D0/IDEOGRAPH-F9D1, CJK COMPATIBILITY
IDEOGRAPH-F9D2/IDEOGRAPH-F9D3/IDEOGRAPH-F9D4/IDEOGRAPH-F9D5, CJK COMPATIBILITY
IDEOGRAPH-F9D6/IDEOGRAPH-F9D7/IDEOGRAPH-F9D8/IDEOGRAPH-F9D9, CJK COMPATIBILITY
IDEOGRAPH-F9DA/IDEOGRAPH-F9DB/IDEOGRAPH-F9DC/IDEOGRAPH-F9DD, CJK COMPATIBILITY
IDEOGRAPH-F9DE/IDEOGRAPH-F9DF/IDEOGRAPH-F9E0/IDEOGRAPH-F9E1, CJK COMPATIBILITY
IDEOGRAPH-F9E2/IDEOGRAPH-F9E3/IDEOGRAPH-F9E4/IDEOGRAPH-F9E5, CJK COMPATIBILITY
IDEOGRAPH-F9E6/IDEOGRAPH-F9E7/IDEOGRAPH-F9E8/IDEOGRAPH-F9E9, CJK COMPATIBILITY
IDEOGRAPH-F9EA/IDEOGRAPH-F9EB/IDEOGRAPH-F9EC/IDEOGRAPH-F9ED, CJK COMPATIBILITY
IDEOGRAPH-F9EE/IDEOGRAPH-F9EF/IDEOGRAPH-F9F0/IDEOGRAPH-F9F1, CJK COMPATIBILITY
IDEOGRAPH-F9F2/IDEOGRAPH-F9F3/IDEOGRAPH-F9F4/IDEOGRAPH-F9F5, CJK COMPATIBILITY
IDEOGRAPH-F9F6/IDEOGRAPH-F9F7/IDEOGRAPH-F9F8/IDEOGRAPH-F9F9, CJK COMPATIBILITY
IDEOGRAPH-F9FA/IDEOGRAPH-F9FB/IDEOGRAPH-F9FC/IDEOGRAPH-F9FD, CJK COMPATIBILITY
IDEOGRAPH-F9FE/IDEOGRAPH-F9FF/IDEOGRAPH-FA00/IDEOGRAPH-FA01, CJK COMPATIBILITY
IDEOGRAPH-FA02/IDEOGRAPH-FA03/IDEOGRAPH-FA04/IDEOGRAPH-FA05, CJK COMPATIBILITY
IDEOGRAPH-FA06/IDEOGRAPH-FA07/IDEOGRAPH-FA08/IDEOGRAPH-FA09, CJK COMPATIBILITY
IDEOGRAPH-FA0A/IDEOGRAPH-FA0B/IDEOGRAPH-FA0C/IDEOGRAPH-FA0D, CJK COMPATIBILITY
IDEOGRAPH-FA0E/IDEOGRAPH-FA0F/IDEOGRAPH-FA10/IDEOGRAPH-FA11, CJK COMPATIBILITY
IDEOGRAPH-FA12/IDEOGRAPH-FA13/IDEOGRAPH-FA14/IDEOGRAPH-FA15, CJK COMPATIBILITY
IDEOGRAPH-FA16/IDEOGRAPH-FA17/IDEOGRAPH-FA18/IDEOGRAPH-FA19, CJK COMPATIBILITY
IDEOGRAPH-FA1A/IDEOGRAPH-FA1B/IDEOGRAPH-FA1C/IDEOGRAPH-FA1D, CJK COMPATIBILITY
IDEOGRAPH-FA1E/IDEOGRAPH-FA1F/IDEOGRAPH-FA20/IDEOGRAPH-FA21, CJK COMPATIBILITY
IDEOGRAPH-FA22/IDEOGRAPH-FA23/IDEOGRAPH-FA24/IDEOGRAPH-FA25, CJK COMPATIBILITY
IDEOGRAPH-FA26/IDEOGRAPH-FA27/IDEOGRAPH-FA28/IDEOGRAPH-FA29, CJK COMPATIBILITY
IDEOGRAPH-FA2A/IDEOGRAPH-FA2B/IDEOGRAPH-FA2C/IDEOGRAPH-FA2D, CJK COMPATIBILITY
IDEOGRAPH-FA2E/IDEOGRAPH-FA2F/IDEOGRAPH-FA30/IDEOGRAPH-FA31, CJK COMPATIBILITY
IDEOGRAPH-FA32/IDEOGRAPH-FA33/IDEOGRAPH-FA34/IDEOGRAPH-FA35, CJK COMPATIBILITY
IDEOGRAPH-FA36/IDEOGRAPH-FA37/IDEOGRAPH-FA38/IDEOGRAPH-FA39, CJK COMPATIBILITY
IDEOGRAPH-FA3A/IDEOGRAPH-FA3B/IDEOGRAPH-FA3C/IDEOGRAPH-FA3D, CJK COMPATIBILITY
IDEOGRAPH-FA3E/IDEOGRAPH-FA3F/IDEOGRAPH-FA40/IDEOGRAPH-FA41, CJK COMPATIBILITY
IDEOGRAPH-FA42/IDEOGRAPH-FA43/IDEOGRAPH-FA44/IDEOGRAPH-FA45, CJK COMPATIBILITY
IDEOGRAPH-FA46/IDEOGRAPH-FA47/IDEOGRAPH-FA48/IDEOGRAPH-FA49, CJK COMPATIBILITY
IDEOGRAPH-FA4A/IDEOGRAPH-FA4B/IDEOGRAPH-FA4C/IDEOGRAPH-FA4D, CJK COMPATIBILITY
IDEOGRAPH-FA4E/IDEOGRAPH-FA4F/IDEOGRAPH-FA50/IDEOGRAPH-FA51, CJK COMPATIBILITY
IDEOGRAPH-FA52/IDEOGRAPH-FA53/IDEOGRAPH-FA54/IDEOGRAPH-FA55, CJK COMPATIBILITY
IDEOGRAPH-FA56/IDEOGRAPH-FA57/IDEOGRAPH-FA58/IDEOGRAPH-FA59, CJK COMPATIBILITY
IDEOGRAPH-FA5A/IDEOGRAPH-FA5B/IDEOGRAPH-FA5C/IDEOGRAPH-FA5D, CJK COMPATIBILITY
IDEOGRAPH-FA5E/IDEOGRAPH-FA5F/IDEOGRAPH-FA60/IDEOGRAPH-FA61, CJK COMPATIBILITY
IDEOGRAPH-FA62/IDEOGRAPH-FA63/IDEOGRAPH-FA64/IDEOGRAPH-FA65, CJK COMPATIBILITY
IDEOGRAPH-FA66/IDEOGRAPH-FA67/IDEOGRAPH-FA68/IDEOGRAPH-FA69, CJK COMPATIBILITY
IDEOGRAPH-FA6A/IDEOGRAPH-FA6B/IDEOGRAPH-FA6C/IDEOGRAPH-FA6D, CJK COMPATIBILITY
IDEOGRAPH-FA70/IDEOGRAPH-FA71/IDEOGRAPH-FA72/IDEOGRAPH-FA73, CJK COMPATIBILITY
IDEOGRAPH-FA74/IDEOGRAPH-FA75/IDEOGRAPH-FA76/IDEOGRAPH-FA77, CJK COMPATIBILITY
IDEOGRAPH-FA78/IDEOGRAPH-FA79/IDEOGRAPH-FA7A/IDEOGRAPH-FA7B, CJK COMPATIBILITY
IDEOGRAPH-FA7C/IDEOGRAPH-FA7D/IDEOGRAPH-FA7E/IDEOGRAPH-FA7F, CJK COMPATIBILITY
IDEOGRAPH-FA80/IDEOGRAPH-FA81/IDEOGRAPH-FA82/IDEOGRAPH-FA83, CJK COMPATIBILITY
IDEOGRAPH-FA84/IDEOGRAPH-FA85/IDEOGRAPH-FA86/IDEOGRAPH-FA87, CJK COMPATIBILITY
IDEOGRAPH-FA88/IDEOGRAPH-FA89/IDEOGRAPH-FA8A/IDEOGRAPH-FA8B, CJK COMPATIBILITY
IDEOGRAPH-FA8C/IDEOGRAPH-FA8D/IDEOGRAPH-FA8E/IDEOGRAPH-FA8F, CJK COMPATIBILITY
IDEOGRAPH-FA90/IDEOGRAPH-FA91/IDEOGRAPH-FA92/IDEOGRAPH-FA93, CJK COMPATIBILITY
IDEOGRAPH-FA94/IDEOGRAPH-FA95/IDEOGRAPH-FA96/IDEOGRAPH-FA97, CJK COMPATIBILITY
IDEOGRAPH-FA98/IDEOGRAPH-FA99/IDEOGRAPH-FA9A/IDEOGRAPH-FA9B, CJK COMPATIBILITY
IDEOGRAPH-FA9C/IDEOGRAPH-FA9D/IDEOGRAPH-FA9E/IDEOGRAPH-FA9F, CJK COMPATIBILITY
IDEOGRAPH-FAA0/IDEOGRAPH-FAA1/IDEOGRAPH-FAA2/IDEOGRAPH-FAA3, CJK COMPATIBILITY
IDEOGRAPH-FAA4/IDEOGRAPH-FAA5/IDEOGRAPH-FAA6/IDEOGRAPH-FAA7, CJK COMPATIBILITY
IDEOGRAPH-FAA8/IDEOGRAPH-FAA9/IDEOGRAPH-FAAA/IDEOGRAPH-FAAB, CJK COMPATIBILITY
IDEOGRAPH-FAAC/IDEOGRAPH-FAAD/IDEOGRAPH-FAAE/IDEOGRAPH-FAAF, CJK COMPATIBILITY
IDEOGRAPH-FAB0/IDEOGRAPH-FAB1/IDEOGRAPH-FAB2/IDEOGRAPH-FAB3, CJK COMPATIBILITY
IDEOGRAPH-FAB4/IDEOGRAPH-FAB5/IDEOGRAPH-FAB6/IDEOGRAPH-FAB7, CJK COMPATIBILITY
IDEOGRAPH-FAB8/IDEOGRAPH-FAB9/IDEOGRAPH-FABA/IDEOGRAPH-FABB, CJK COMPATIBILITY
IDEOGRAPH-FABC/IDEOGRAPH-FABD/IDEOGRAPH-FABE/IDEOGRAPH-FABF, CJK COMPATIBILITY
IDEOGRAPH-FAC0/IDEOGRAPH-FAC1/IDEOGRAPH-FAC2/IDEOGRAPH-FAC3, CJK COMPATIBILITY
IDEOGRAPH-FAC4/IDEOGRAPH-FAC5/IDEOGRAPH-FAC6/IDEOGRAPH-FAC7, CJK COMPATIBILITY
IDEOGRAPH-FAC8/IDEOGRAPH-FAC9/IDEOGRAPH-FACA/IDEOGRAPH-FACB, CJK COMPATIBILITY
IDEOGRAPH-FACC/IDEOGRAPH-FACD/IDEOGRAPH-FACE/IDEOGRAPH-FACF, CJK COMPATIBILITY
IDEOGRAPH-FAD0/IDEOGRAPH-FAD1/IDEOGRAPH-FAD2/IDEOGRAPH-FAD3, CJK COMPATIBILITY
IDEOGRAPH-FAD4/IDEOGRAPH-FAD5/IDEOGRAPH-FAD6/IDEOGRAPH-FAD7, CJK COMPATIBILITY
IDEOGRAPH-FAD8/IDEOGRAPH-FAD9, CJK RADICAL
BAMBOO/BLUE/BONE/BOX/CHOKE/CITY/CIVILIAN/CLIFF/CLOTHES/COW, CJK RADICAL BOLT OF CLOTH, CJK
RADICAL BRUSH/EAT/GRASS/HEART/KNIFE/LAME/LONG/MOUND/NET/PAW/SECOND ONE/TWO, CJK RADICAL
C-SIMPLIFIED BIRD/CART/EAT/FISH/FLY/FROG/GATE/GOLD/HORSE/LEAF/LONG/SALT/SEE, CJK RADICAL
C-SIMPLIFIED SHELL/SILK/SPEECH/WIND, CJK RADICAL C-SIMPLIFIED TANNED LEATHER, CJK RADICAL
C-SIMPLIFIED/J-SIMPLIFIED DRAGON/EVEN/TOOTH/TURTLE, CJK RADICAL
DEATH/DIVINATION/DOG/EWE/EYE/FIRE/FOOT/GHOST/HAND/HEAD/HORN, CJK RADICAL
EAT/GRASS/LAME/NET/SECOND THREE, CJK RADICAL
JADE/MEAT/MESH/MOON/MORTAR/MOTHER/OLD/PERSON/RAIN/RAM/RAP, CJK RADICAL LAME/NET FOUR, CJK
RADICAL REPEAT/SEAL/SHEEP/SILK/SNAKE/SUN/TABLE/THREAD/TIGER/TURTLE, CJK RADICAL SIMPLIFIED HALF
TREE TRUNK, CJK RADICAL SIMPLIFIED HORN/WALK/WHEAT/YELLOW, CJK RADICAL
SMALL/SNOUT/SPIRIT/WALK/WATER/WEST ONE/TWO, CJK STROKE
BXG/D/H/HG/HP/HPWG/HXWG/HZ/HZG/HZT/HZW/HZWG/HZZ/HZZP/HZZZ/HZZZG, CJK STROKE
N/P/PD/PG/PZ/Q/S/SG/SP/ST/SW/SWG/SWZ/SZ/SZWG/SZZ/T/TN/WG/XG, CLAMSHELL MOBILE PHONE, CLAPPER
BOARD, CLAPPING HANDS SIGN, CLASSICAL BUILDING, CLEAR SCREEN SYMBOL, CLINKING BEER MUGS,
CLINKING GLASSES, CLIPBOARD, CLOCK FACE
EIGHT-THIRTY/ELEVEN-THIRTY/FIVE-THIRTY/FOUR-THIRTY/NINE-THIRTY, CLOCK FACE
EIGHT/ELEVEN/FIVE/FOUR/NINE/ONE/SEVEN/SIX/TEN/THREE/TWELVE/TWO OCLOCK, CLOCK FACE
ONE-THIRTY/SEVEN-THIRTY/SIX-THIRTY/TEN-THIRTY/THREE-THIRTY, CLOCK FACE TWELVE-THIRTY/TWO-THIRTY,
CLOCKWISE CLOSED/GAPPED/OPEN CIRCLE ARROW, CLOCKWISE CONTOUR INTEGRAL, CLOCKWISE DOWNWARDS AND
UPWARDS OPEN CIRCLE ARROWS, CLOCKWISE INTEGRAL, CLOCKWISE RIGHT AND LEFT SEMICIRCLE ARROWS,
CLOCKWISE RIGHTWARDS AND LEFTWARDS OPEN CIRCLE ARROWS, CLOCKWISE RIGHTWARDS AND LEFTWARDS OPEN
CIRCLE ARROWS WITH CIRCLED ONE OVERLAY, CLOCKWISE TOP SEMICIRCLE ARROW, CLOCKWISE
TRIANGLE-HEADED OPEN CIRCLE ARROW, CLOSE UP, CLOSED BOOK/SUBSET/SUPERSET/UMBRELLA, CLOSED
INTERSECTION/UNION WITH SERIFS, CLOSED LOCK WITH KEY, CLOSED MAILBOX WITH LOWERED/RAISED FLAG,
CLOSED SUBSET/SUPERSET OR EQUAL TO, CLOSED UNION WITH SERIFS AND SMASH PRODUCT, CLOUD, CLOUD
WITH LIGHTNING/RAIN/SNOW/TORNADO, CLOWN FACE, COAT, COCKROACH, COCKTAIL GLASS, COCONUT, COFFIN,
COIN, COLLISION SYMBOL, COLON, COLON EQUALS/SIGN, COMBINING
ACUTE-GRAVE-ACUTE/ACUTE-MACRON/BREVE/BREVE-MACRON/CANDRABINDU, COMBINING ACUTE/CIRCUMFLEX/GRAVE
ACCENT, COMBINING ACUTE/CIRCUMFLEX/GRAVE ACCENT BELOW, COMBINING ACUTE/GRAVE TONE MARK,
COMBINING ALMOST EQUAL TO ABOVE/BELOW, COMBINING ANNUITY SYMBOL, COMBINING
ANTICLOCKWISE/CLOCKWISE RING OVERLAY, COMBINING ANTICLOCKWISE/CLOCKWISE/LEFT/RIGHT ARROW ABOVE,
COMBINING ASTERISK/BINDU/BREVE/BRIDGE/CARON/COMMA/DIAERESIS/DOT/IS/MACRON BELOW, COMBINING
ASTERISK/BRIDGE/COMMA/DOT/HOMOTHETIC/HOOK/OGONEK/PARENTHESES ABOVE, COMBINING
CARON/CEDILLA/DIAERESIS/DIAERESIS-RING/FERMATA, COMBINING COMMA/DOT/KAVYKA ABOVE RIGHT,
COMBINING CONJOINING/DOUBLE MACRON, COMBINING CONJOINING/DOUBLE MACRON BELOW, COMBINING CYRILLIC
DASIA/PSILI PNEUMATA, COMBINING CYRILLIC HUNDRED THOUSANDS SIGN, COMBINING CYRILLIC
HUNDRED/TEN/THOUSAND MILLIONS SIGN, COMBINING CYRILLIC
KAVYKA/PALATALIZATION/PAYEROK/POKRYTIE/TITLO/VZMET, COMBINING CYRILLIC LETTER
BE/CHE/DE/DJERV/EF/EL/EM/EN/ER/ES/ES-TE/GHE/HA/IE/O/OMEGA/PE, COMBINING CYRILLIC LETTER
HARD/SOFT SIGN, COMBINING CYRILLIC LETTER IOTIFIED A/E, COMBINING CYRILLIC LETTER IOTIFIED BIG
YUS, COMBINING CYRILLIC LETTER LITTLE YUS, COMBINING CYRILLIC LETTER MONOGRAPH UK, COMBINING
CYRILLIC LETTER SHCHA/TE/TSE/VE/YAT/YI/ZE/ZHE, COMBINING CYRILLIC LETTER UKRAINIAN IE, COMBINING
CYRILLIC MILLIONS SIGN, COMBINING CYRILLIC TITLO LEFT/RIGHT HALF, COMBINING CYRILLIC/DEVANAGARI
LETTER U, COMBINING CYRILLIC/DEVANAGARI/GRANTHA LETTER A/KA, COMBINING CYRILLIC/GLAGOLITIC
LETTER BIG YUS, COMBINING CYRILLIC/GLAGOLITIC LETTER FITA/I/SHA/YERU/YU, COMBINING
DELETION/SUSPENSION MARK, COMBINING DEVANAGARI DIGIT EIGHT/NINE/SEVEN, COMBINING DEVANAGARI
LETTER RA, COMBINING DEVANAGARI SIGN AVAGRAHA, COMBINING DEVANAGARI/GRANTHA DIGIT
FIVE/FOUR/ONE/SIX/THREE/TWO/ZERO, COMBINING DEVANAGARI/GRANTHA LETTER NA/PA/VI, COMBINING DOT
BELOW LEFT, COMBINING DOT/KAVYKA ABOVE LEFT, COMBINING DOTTED/DOUBLE GRAVE ACCENT, COMBINING
DOTTED/DOUBLE/TRIPLE ACUTE ACCENT, COMBINING DOUBLE CIRCUMFLEX/PARENTHESES ABOVE, COMBINING
DOUBLE INVERTED BREVE, COMBINING DOUBLE INVERTED BREVE BELOW, COMBINING DOUBLE LOW LINE,
COMBINING DOUBLE OPEN MARK BELOW, COMBINING DOUBLE OVERLINE, COMBINING DOUBLE PLUS SIGN
ABOVE/BELOW, COMBINING DOUBLE RIGHTWARDS ARROW BELOW, COMBINING DOUBLE RING BELOW, COMBINING
DOUBLE TILDE LEFT/RIGHT HALF, COMBINING DOUBLE VERTICAL LINE ABOVE/BELOW, COMBINING DOUBLE
VERTICAL STROKE OVERLAY, COMBINING DOUBLE/INVERTED BREVE, COMBINING DOUBLE/INVERTED BREVE BELOW,
COMBINING DOUBLE/VERTICAL TILDE, COMBINING DOUBLED CIRCUMFLEX ACCENT, COMBINING
DOWN/LEFT/RIGHT/UP TACK BELOW, COMBINING DOWNWARDS ARROW, COMBINING ENCLOSING CIRCLE BACKSLASH,
COMBINING ENCLOSING CIRCLE/DIAMOND/KEYCAP/SCREEN/SQUARE, COMBINING ENCLOSING UPWARD POINTING
TRIANGLE, COMBINING EQUALS/MINUS/PLUS SIGN BELOW, COMBINING FOUR/THREE DOTS ABOVE, COMBINING
GLAGOLITIC LETTER AZU/BUKY/CHRIVI/DJERVI/DOBRO/FRITU/GLAGOLI/HERU/IZHE/KAKO, COMBINING
GLAGOLITIC LETTER INITIAL IZHE, COMBINING GLAGOLITIC LETTER IOTATED BIG/SMALL YUS, COMBINING
GLAGOLITIC LETTER LJUDIJE/MYSLITE/NASHI/ONU/POKOJI/RITSI/SHTA/SLOVO/TSI/TVRIDO, COMBINING
GLAGOLITIC LETTER SMALL YUS, COMBINING GLAGOLITIC LETTER
UKU/VEDE/YATI/YERI/YESTU/YO/ZEMLJA/ZHIVETE, COMBINING GRAPHEME JOINER, COMBINING
GRAVE-ACUTE-GRAVE/GRAVE-MACRON/HORN/INFINITY/MACRON, COMBINING GREEK DIALYTIKA TONOS, COMBINING
GREEK KORONIS/PERISPOMENI/YPOGEGRAMMENI, COMBINING GREEK MUSICAL PENTASEME/TETRASEME/TRISEME,
COMBINING INVERTED BRIDGE BELOW, COMBINING INVERTED DOUBLE ARCH ABOVE/BELOW, COMBINING
KATAKANA-HIRAGANA SEMI-VOICED/VOICED SOUND MARK, COMBINING LATIN LETTER SMALL CAPITAL G/L/M/N/R,
COMBINING LATIN SMALL LETTER A/AE/ALPHA/AO/AV/B/BETA/C/D/E/ESH/ETH/F/G/H/I/K/L/M/N/O/P/R/S,
COMBINING LATIN SMALL LETTER A/O/U WITH DIAERESIS, COMBINING LATIN SMALL LETTER C CEDILLA,
COMBINING LATIN SMALL LETTER FLATTENED OPEN A ABOVE, COMBINING LATIN SMALL LETTER INSULAR
D/G/R/T, COMBINING LATIN SMALL LETTER L WITH DOUBLE MIDDLE TILDE, COMBINING LATIN SMALL LETTER
LONG S, COMBINING LATIN SMALL LETTER O/U WITH LIGHT CENTRALIZATION STROKE, COMBINING LATIN SMALL
LETTER R ROTUNDA, COMBINING LATIN SMALL LETTER R/W BELOW, COMBINING LATIN SMALL LETTER
SCHWA/T/U/V/W/X/Z, COMBINING LATIN SMALL LETTER TURNED W BELOW, COMBINING LEFT ANGLE
ABOVE/BELOW, COMBINING LEFT PARENTHESIS ABOVE/BELOW LEFT, COMBINING LEFT RIGHT ARROW
ABOVE/BELOW, COMBINING LEFT/RIGHT ARROWHEAD BELOW, COMBINING LEFT/RIGHT ARROWHEAD/HARPOON ABOVE,
COMBINING LEFT/RIGHT HALF RING ABOVE/BELOW, COMBINING LEFT/RIGHT/UPWARDS ARROW BELOW, COMBINING
LEFTWARDS ARROW OVERLAY, COMBINING LEFTWARDS/RIGHTWARDS HARPOON WITH BARB DOWNWARDS, COMBINING
LIGATURE/MACRON LEFT/RIGHT HALF, COMBINING LIGATURE/MACRON/TILDE LEFT/RIGHT HALF BELOW,
COMBINING LIGHT/STRONG CENTRALIZATION STROKE BELOW, COMBINING LONG DOUBLE SOLIDUS OVERLAY,
COMBINING LONG/REVERSE/SHORT SOLIDUS OVERLAY, COMBINING LONG/SHORT STROKE OVERLAY, COMBINING
LONG/SHORT VERTICAL LINE OVERLAY, COMBINING LOW LINE, COMBINING
MACRON-ACUTE/MACRON-BREVE/MACRON-GRAVE/OGONEK/OVERLINE/TILDE, COMBINING NOT TILDE ABOVE,
COMBINING NUMBER/PLUS SIGN ABOVE, COMBINING OLD PERMIC LETTER AN/DOI/NENOE/SII/ZATA, COMBINING
OPEN MARK BELOW, COMBINING PALATALIZED/RETROFLEX HOOK BELOW, COMBINING
PARENTHESES/RING/SEAGULL/SNAKE/SQUARE/TILDE/X/X-X/ZIGZAG BELOW, COMBINING PARENTHESES/RING/TILDE
OVERLAY, COMBINING REVERSED/TURNED COMMA ABOVE, COMBINING RIGHT ARROWHEAD AND DOWN/UP ARROWHEAD
BELOW, COMBINING RIGHT PARENTHESIS ABOVE/BELOW RIGHT, COMBINING RING/UR/US/X/ZIGZAG ABOVE,
COMBINING SQUARE BRACKETS ABOVE, COMBINING TRIPLE DOT/UNDERDOT, COMBINING UP TACK ABOVE,
COMBINING VERTICAL LINE ABOVE, COMBINING VERTICAL/WIGGLY LINE BELOW, COMBINING WIDE BRIDGE
ABOVE, COMBINING WIDE INVERTED BRIDGE BELOW, COMET, COMMA, COMMERCIAL AT, COMMERCIAL MINUS SIGN,
COMPASS, COMPLEMENT, COMPOSITION SYMBOL, COMPRESSION, CONFETTI BALL, CONFOUNDED FACE, CONFUSED
FACE, CONGRUENT WITH DOT ABOVE, CONICAL TAPER, CONJUNCTION, CONSTRUCTION SIGN/WORKER, CONTAINS
AS MEMBER, CONTAINS AS NORMAL SUBGROUP, CONTAINS AS NORMAL SUBGROUP OR EQUAL TO, CONTAINS WITH
LONG HORIZONTAL STROKE, CONTAINS WITH OVERBAR, CONTAINS WITH VERTICAL BAR AT END OF HORIZONTAL
STROKE, CONTINUOUS UNDERLINE SYMBOL, CONTOUR INTEGRAL, CONTROL KNOBS, CONTROL SEQUENCE
INTRODUCER, CONVENIENCE STORE, COOKED RICE, COOKIE, COOKING, COPTIC CAPITAL/SMALL LETTER
AKHMIMIC/BOHAIRIC KHEI, COPTIC CAPITAL/SMALL LETTER
ALFA/DALDA/DEI/EIE/FEI/FI/GAMMA/GANGIA/HATE/HORI/IAUDA/KAPA, COPTIC CAPITAL/SMALL LETTER
CROSSED/CRYPTOGRAMMIC SHEI, COPTIC CAPITAL/SMALL LETTER CRYPTOGRAMMIC EIE/GANGIA, COPTIC
CAPITAL/SMALL LETTER CRYPTOGRAMMIC/DIALECT-P NI, COPTIC CAPITAL/SMALL LETTER DIALECT-P
ALEF/HORI/KAPA, COPTIC CAPITAL/SMALL LETTER
KHEI/KHI/KSI/LAULA/MI/NI/O/OOU/PI/PSI/RO/SAMPI/SHEI/SHIMA/SIMA, COPTIC CAPITAL/SMALL LETTER
L-SHAPED HA, COPTIC CAPITAL/SMALL LETTER OLD COPTIC AIN/DJA/ESH/GANGIA/HA/HAT/HEI/HORI/OOU/SHEI,
COPTIC CAPITAL/SMALL LETTER OLD COPTIC/NUBIAN SHIMA, COPTIC CAPITAL/SMALL LETTER OLD NUBIAN
NGI/NYI/WAU, COPTIC CAPITAL/SMALL LETTER SOU/TAU/THETHE/UA/VIDA/ZATA, COPTIC COMBINING NI ABOVE,
COPTIC COMBINING SPIRITUS ASPER/LENIS, COPTIC EPACT DIGIT
EIGHT/FIVE/FOUR/NINE/ONE/SEVEN/SIX/THREE/TWO, COPTIC EPACT NUMBER
EIGHT/FIVE/FOUR/NINE/ONE/SEVEN/SIX/THREE/TWO HUNDRED, COPTIC EPACT NUMBER
EIGHTY/FIFTY/FORTY/NINETY/SEVENTY/SIXTY/TEN/THIRTY/TWENTY, COPTIC EPACT THOUSANDS MARK, COPTIC
FRACTION ONE HALF, COPTIC FULL STOP, COPTIC MORPHOLOGICAL DIVIDER, COPTIC OLD NUBIAN
DIRECT/INDIRECT QUESTION MARK, COPTIC OLD NUBIAN FULL STOP, COPTIC OLD NUBIAN VERSE DIVIDER,
COPTIC SYMBOL KAI/STAUROS, COPTIC SYMBOL KHI/MI/PI/TAU RO, COPTIC SYMBOL SHIMA SIMA, COPYLEFT
SYMBOL, COPYRIGHT SIGN, CORAL, CORNISH VERSE DIVIDER, CORRESPONDS TO, COUCH AND LAMP,
COUNTERBORE, COUNTERSINK, COUNTING ROD TENS/UNIT DIGIT
EIGHT/FIVE/FOUR/NINE/ONE/SEVEN/SIX/THREE/TWO, COUPLE WITH HEART, COW, COW FACE, CR, CRAB, CREDIT
CARD, CRESCENT MOON, CRICKET, CRICKET BAT AND BALL, CROCODILE, CROISSANT, CROSS MARK/POMMEE,
CROSS OF JERUSALEM/LORRAINE, CROSS PATTY WITH LEFT/RIGHT CROSSBAR, CROSS POMMEE WITH HALF-CIRCLE
BELOW, CROSSED FLAGS/SWORDS, CROSSED NEGATIVE SQUARED LATIN CAPITAL LETTER P, CROSSING LANES,
CROWN, CRUTCH, CRUZEIRO SIGN, CRYING CAT FACE, CRYING FACE, CRYSTAL BALL, CSI, CUBE ROOT,
CUCUMBER, CUNEIFORM NUMERIC SIGN EIGHT VARIANT FORM USSU/USSU3, CUNEIFORM NUMERIC SIGN
EIGHT/FIVE/FOUR/NINE/ONE/SEVEN/SIX/THREE/TWO GESH2, CUNEIFORM NUMERIC SIGN
EIGHT/FIVE/FOUR/NINE/SEVEN/SIX U, CUNEIFORM NUMERIC SIGN EIGHT/FIVE/FOUR/NINE/SEVEN/SIX U
VARIANT FORM, CUNEIFORM NUMERIC SIGN EIGHT/FIVE/FOUR/NINE/SEVEN/SIX/THREE DISH, CUNEIFORM
NUMERIC SIGN EIGHT/FIVE/FOUR/NINE/SEVEN/SIX/THREE/TWO ASH/SHAR2, CUNEIFORM NUMERIC SIGN ELAMITE
FIFTY/FORTY, CUNEIFORM NUMERIC SIGN ELAMITE ONE THIRD, CUNEIFORM NUMERIC SIGN ELAMITE TWO
THIRDS, CUNEIFORM NUMERIC SIGN FIVE SIXTHS DISH, CUNEIFORM NUMERIC SIGN FIVE/FOUR BAN2 VARIANT
FORM, CUNEIFORM NUMERIC SIGN FIVE/FOUR/ONE/THREE/TWO BAN2/BURU/GESHU/SHARU, CUNEIFORM NUMERIC
SIGN FIVE/FOUR/SIX/THREE/TWO ASH TENU, CUNEIFORM NUMERIC SIGN FOUR VARIANT FORM LIMMU A/B,
CUNEIFORM NUMERIC SIGN FOUR VARIANT FORM LIMMU/LIMMU4, CUNEIFORM NUMERIC SIGN
NIGIDAESH/NIGIDAMIN, CUNEIFORM NUMERIC SIGN NINE VARIANT FORM ILIMMU A, CUNEIFORM NUMERIC SIGN
NINE VARIANT FORM ILIMMU/ILIMMU3/ILIMMU4, CUNEIFORM NUMERIC SIGN OLD ASSYRIAN ONE QUARTER/SIXTH,
CUNEIFORM NUMERIC SIGN ONE EIGHTH/QUARTER ASH, CUNEIFORM NUMERIC SIGN ONE HALF/QUARTER GUR,
CUNEIFORM NUMERIC SIGN ONE THIRD DISH, CUNEIFORM NUMERIC SIGN ONE THIRD VARIANT FORM A,
CUNEIFORM NUMERIC SIGN ONE/TWO ESHE3, CUNEIFORM NUMERIC SIGN SEVEN VARIANT FORM IMIN A/B,
CUNEIFORM NUMERIC SIGN SEVEN VARIANT FORM IMIN3, CUNEIFORM NUMERIC SIGN SHAR2 TIMES GAL PLUS
DISH/MIN, CUNEIFORM NUMERIC SIGN SIX VARIANT FORM ASH9, CUNEIFORM NUMERIC SIGN THREE
BURU/SHAR2/SHARU VARIANT FORM, CUNEIFORM NUMERIC SIGN THREE VARIANT FORM ESH16/ESH21, CUNEIFORM
NUMERIC SIGN TWO THIRDS DISH, CUNEIFORM NUMERIC SIGN TWO THIRDS VARIANT FORM A, CUNEIFORM
PUNCTUATION SIGN DIAGONAL QUADCOLON/TRICOLON, CUNEIFORM PUNCTUATION SIGN DIAGONAL/VERTICAL
COLON, CUNEIFORM PUNCTUATION SIGN OLD ASSYRIAN WORD DIVIDER, CUNEIFORM SIGN A TIMES LAGAR GUNU,
CUNEIFORM SIGN A TIMES SAG, CUNEIFORM SIGN
A/A2/AB/AB2/AD/AK/AL/ALAN/ALEPH/AMAR/AN/ANSHE/APIN/ARAD/ARKAB, CUNEIFORM SIGN
A/AB/AB2/EN/GA2/GIR3/IL/KA/LU2/NIM/TUM/URU TIMES GAN2 TENU, CUNEIFORM SIGN
A/AB/AL/DUG/EZEN/LAGAB/SAG/UR2/URU TIMES HA, CUNEIFORM SIGN
A/AB2/BI/EZEN/KA/LAGAB/MUSH/MUSH3/NE/PI/SAG/SHA3/SHID/SHIM/URU TIMES A, CUNEIFORM SIGN
A/DIM/GIR3/KA/LAK-449/LAK-648/SHIM/URU TIMES IGI, CUNEIFORM SIGN
A/EZEN/GA2/GISH/HI/KA/KAL/KI/LAGAB/LAK-617/LU/LU2/SHA3/UD TIMES BAD, CUNEIFORM SIGN A/GA2/LAGAB
TIMES MUSH, CUNEIFORM SIGN AB TIMES IMIN/SHESH, CUNEIFORM SIGN AB TIMES NUN TENU, CUNEIFORM SIGN
AB/BI/DUG/EZEN/GA2/GU2/KAK/LAGAB/LAK-648/SAG/SHIM TIMES IGI GUNU, CUNEIFORM SIGN
AB/DU/DUN3/GA/GIR2/GU2/HA/IGI/KUL/LAGAR/MA/MUG/MUSH3/SAG/SI/TA GUNU, CUNEIFORM SIGN AB/EZEN
TIMES DUN3 GUNU, CUNEIFORM SIGN AB/GA2/GU2/HI/KA/NINDA2/SAG/UR2 TIMES NUN, CUNEIFORM SIGN
AB/GA2/HI/KA TIMES ASH2, CUNEIFORM SIGN AB/KA/URU TIMES GAL, CUNEIFORM SIGN AB/LAGAB/LU2/UM
TIMES LAGAB, CUNEIFORM SIGN AB/LAGAB/SHA3 TIMES SHU2, CUNEIFORM SIGN AB/LAGAB/UD TIMES U PLUS U
PLUS U, CUNEIFORM SIGN AB2/DA/GA2/GISH/IM/LAGAB/LU2/MA/SAG/SI/TIR/USH TIMES TAK4, CUNEIFORM SIGN
AB2/GA2/LAGAB/LU2 TIMES ME PLUS EN, CUNEIFORM SIGN AB2/KA TIMES BALAG, CUNEIFORM SIGN AB2/UM
TIMES SHA3, CUNEIFORM SIGN AD/DUB/KA/LU2 TIMES ESH2, CUNEIFORM SIGN AK TIMES SHITA PLUS GISH,
CUNEIFORM SIGN AK/DUG/KA TIMES ERIN2, CUNEIFORM SIGN AL TIMES DIM2, CUNEIFORM SIGN
AL/AMAR/DIM/DUB/DUG/E2/EZEN/GA2/GUM/HI/KA/LAGAR/NINDA2/TAG/URU TIMES SHE, CUNEIFORM SIGN
AL/DUG/KA/NINDA2/SHA3 TIMES GISH, CUNEIFORM SIGN AL/KA/LAGAB/LU2/URU TIMES KI, CUNEIFORM SIGN
AL/KA/LAGAB/NINDA2/SAG TIMES USH, CUNEIFORM SIGN AL/LAGAB/LU2/UR2 TIMES AL, CUNEIFORM SIGN
AL/LU2 TIMES KAD3, CUNEIFORM SIGN AMAR TIMES KUG, CUNEIFORM SIGN AN OVER AN, CUNEIFORM SIGN AN
PLUS NAGA OPPOSING AN PLUS NAGA, CUNEIFORM SIGN AN PLUS NAGA SQUARED, CUNEIFORM SIGN AN THREE
TIMES, CUNEIFORM SIGN ARAD/DAG/DUG/E2/GESHTIN/GUD/LAM/MUSH/SAG/USH TIMES KUR, CUNEIFORM SIGN
ASAL2/ASH/ASH2/ASHGAB/BA/BAD/BAG3/BAHAR2/BAL/BALAG/BAR/BARA2/BI, CUNEIFORM SIGN ASH OVER ASH
OVER ASH, CUNEIFORM SIGN ASH OVER ASH OVER ASH CROSSING ASH OVER ASH OVER ASH, CUNEIFORM SIGN
ASH OVER ASH TUG2 OVER TUG2 TUG2 OVER TUG2 PAP, CUNEIFORM SIGN ASH ZIDA TENU, CUNEIFORM SIGN
ASH/ZIB KABA TENU, CUNEIFORM SIGN BAD TIMES DISH TENU, CUNEIFORM SIGN BAHAR2 TIMES AB2,
CUNEIFORM SIGN BAHAR2/DUG/LAK-648 TIMES NI, CUNEIFORM SIGN BAHAR2/MUSH/MUSH3/PIRIG TIMES ZA,
CUNEIFORM SIGN BAL OVER BAL, CUNEIFORM SIGN BI/E2/GA2/KA/LAGAB/SHIM/URU TIMES GAR, CUNEIFORM
SIGN BU CROSSING BU, CUNEIFORM SIGN BU OVER BU AB/UN, CUNEIFORM SIGN BU OVER BU TIMES NA2,
CUNEIFORM SIGN BU/BULUG/BUR/BUR2/DA/DAG/DAG3/DAM/DAR/DARA3/DARA4/DI/DIB/DIM, CUNEIFORM SIGN
BULUG OVER BULUG, CUNEIFORM SIGN DAG KISIM5 TIMES A/GA/U2 PLUS MASH, CUNEIFORM SIGN DAG KISIM5
TIMES AMAR/BALAG/GA/GI/GIR2/GUD/HA/IR/KAK/LA/LU/LUM/NE/SI/TAK4/USH, CUNEIFORM SIGN DAG KISIM5
TIMES IR PLUS LU, CUNEIFORM SIGN DAG KISIM5 TIMES LU PLUS MASH2, CUNEIFORM SIGN DAG KISIM5 TIMES
PAP PLUS PAP, CUNEIFORM SIGN DAG KISIM5 TIMES U2 PLUS GIR2, CUNEIFORM SIGN DAG/NUNUZ KISIM5
TIMES BI, CUNEIFORM SIGN DIM/KA TIMES U U U, CUNEIFORM SIGN
DIM2/DIN/DISH/DU/DUB/DUB2/DUG/DUGUD/DUH/DUN/DUN3/DUN4/DUR2/E/E2, CUNEIFORM SIGN
DIM2/EZEN/GA2/HUB2/KA/KI/LAGAB/LAK-617/LAK-648/NE/PIRIG/TAG/UR2 TIMES UD, CUNEIFORM SIGN DIN
KASKAL U GUNU DISH, CUNEIFORM SIGN DISH PLUS SHU, CUNEIFORM SIGN DU OVER DU, CUNEIFORM SIGN
DU/LU2/LUGAL/NE/UD/UR SHESHIG, CUNEIFORM SIGN DUG TIMES ASH AT LEFT, CUNEIFORM SIGN DUG TIMES
GIR2/SI GUNU, CUNEIFORM SIGN DUG TIMES LAK-020/MES, CUNEIFORM SIGN DUG TIMES LUH PLUS GISH,
CUNEIFORM SIGN DUG/E2/GA2/KA/SAG/TA/UD TIMES MI, CUNEIFORM SIGN DUG/EZEN/GA2/HUB2/UMUM/UZ3 TIMES
KASKAL, CUNEIFORM SIGN DUG/GA2 TIMES KUSHU2 PLUS KASKAL, CUNEIFORM SIGN DUG/GA2 TIMES LAM,
CUNEIFORM SIGN DUG/GA2 TIMES LAM TIMES KUR, CUNEIFORM SIGN DUG/GA2/HI/LAK-617/NINDA2 TIMES ASH,
CUNEIFORM SIGN DUG/GA2/KA/LAGAB/LAK-648/URU TIMES GA, CUNEIFORM SIGN DUG/GA2/KA/LAGAB/NINDA2
TIMES GI, CUNEIFORM SIGN DUG/KA TIMES ANSHE/PI, CUNEIFORM SIGN DUG/NINDA2 TIMES MASH, CUNEIFORM
SIGN DUG/NINDA2/TA TIMES HI, CUNEIFORM SIGN DUG/SHIM TIMES DIN/KUSHU2, CUNEIFORM SIGN DUG/URU
TIMES DUN, CUNEIFORM SIGN DUN3 GUNU GUNU, CUNEIFORM SIGN E OVER E NUN OVER NUN, CUNEIFORM SIGN
E/E2/LU2 TIMES PAP, CUNEIFORM SIGN E2 TIMES A PLUS HA PLUS DA, CUNEIFORM SIGN
E2/GA2/GESHTIN/GI/HI/KA/KI/LAGAB/NINDA2/PI/SHA3/UM/URUDA TIMES U, CUNEIFORM SIGN E2/GA2/SAG/SHIM
TIMES SAL, CUNEIFORM SIGN EDIN/EGIR/EL/EN/EREN/ERIN2/ESH2/EZEN/GA/GA2/GABA/GAD/GAL/GALAM,
CUNEIFORM SIGN EN CROSSING/OPPOSING EN, CUNEIFORM SIGN EN TIMES GAN2, CUNEIFORM SIGN
EN/IM/LAGAB/LU2/TAB SQUARED, CUNEIFORM SIGN EN/KA/LAGAB/UM TIMES ME, CUNEIFORM SIGN ERIN2 X,
CUNEIFORM SIGN ESH2 CROSSING ESH2, CUNEIFORM SIGN EZEN SHESHIG TIMES ASH/HI/LA/LAL/ME/MES/SU,
CUNEIFORM SIGN EZEN SHESHIG TIMES IGI GUNU, CUNEIFORM SIGN EZEN TIMES A PLUS LAL TIMES LAL,
CUNEIFORM SIGN EZEN TIMES HA GUNU, CUNEIFORM SIGN EZEN TIMES KASKAL SQUARED, CUNEIFORM SIGN EZEN
TIMES LAL TIMES LAL, CUNEIFORM SIGN EZEN TIMES SU, CUNEIFORM SIGN EZEN/GA2/HUB2/LAGAB/NINDA2
TIMES AN, CUNEIFORM SIGN EZEN/GA2/LAK-617 TIMES LA, CUNEIFORM SIGN EZEN/KA TIMES LI, CUNEIFORM
SIGN EZEN/KA/LAGAB TIMES LU, CUNEIFORM SIGN EZEN/KA/LAGAB/NINDA2/TAG TIMES GUD, CUNEIFORM SIGN
EZEN/KA/LAK-617/PI/SAG/UR2 TIMES U2, CUNEIFORM SIGN EZEN/LAGAB TIMES A PLUS LAL, CUNEIFORM SIGN
EZEN/LAGAB/LAK-617 TIMES KU3, CUNEIFORM SIGN EZEN/LAK-617 TIMES DUN3 GUNU GUNU, CUNEIFORM SIGN
GA2 OVER GA2, CUNEIFORM SIGN GA2 TIMES AB2 TENU PLUS TAB, CUNEIFORM SIGN GA2 TIMES AN PLUS KAK
PLUS A, CUNEIFORM SIGN GA2 TIMES ASH2 PLUS GAL, CUNEIFORM SIGN GA2 TIMES
BAHAR2/BUR/DA/EL/EREN/GI4/HUB2/LUH/SHIM/ZIZ2, CUNEIFORM SIGN GA2 TIMES BAR/BUR PLUS RA,
CUNEIFORM SIGN GA2 TIMES DIM TIMES SHE, CUNEIFORM SIGN GA2 TIMES DUG TIMES IGI GUNU, CUNEIFORM
SIGN GA2 TIMES DUG TIMES KASKAL, CUNEIFORM SIGN GA2 TIMES EL/HAL PLUS LA, CUNEIFORM SIGN GA2
TIMES EN TIMES GAN2 TENU, CUNEIFORM SIGN GA2 TIMES GAR PLUS DI/NE, CUNEIFORM SIGN GA2 TIMES
GI4/HA PLUS A, CUNEIFORM SIGN GA2 TIMES GIR2 PLUS SU, CUNEIFORM SIGN GA2 TIMES HA PLUS LU PLUS
ESH2, CUNEIFORM SIGN GA2 TIMES HI PLUS LI, CUNEIFORM SIGN GA2 TIMES ISH PLUS HU PLUS ASH,
CUNEIFORM SIGN GA2 TIMES KID PLUS LAL, CUNEIFORM SIGN GA2 TIMES KU3 PLUS AN, CUNEIFORM SIGN GA2
TIMES NE PLUS E2/GI, CUNEIFORM SIGN GA2 TIMES NUN OVER NUN, CUNEIFORM SIGN GA2 TIMES SHE PLUS
TUR, CUNEIFORM SIGN GA2 TIMES UD PLUS DU, CUNEIFORM SIGN GA2/GIR3 TIMES A PLUS IGI, CUNEIFORM
SIGN GA2/GIR3/KA/UMUM/URU TIMES PA, CUNEIFORM SIGN GA2/GU2/KA/SAG TIMES KAK, CUNEIFORM SIGN
GA2/HUB2/LAGAB/LU2 TIMES HAL, CUNEIFORM SIGN GA2/KA TIMES KID/SAR, CUNEIFORM SIGN
GA2/KA/LAGAB/LU2/NINDA2/SHA3 TIMES NE, CUNEIFORM SIGN GA2/KA/SAG TIMES SHID, CUNEIFORM SIGN
GA2/LAGAB TIMES A PLUS DA PLUS HA, CUNEIFORM SIGN GA2/LAGAB TIMES SUM, CUNEIFORM SIGN
GA2/LAGAB/SAG TIMES EN, CUNEIFORM SIGN GA2/LAK-648/SAG TIMES DUB, CUNEIFORM SIGN GA2/MUSH3 TIMES
DI, CUNEIFORM SIGN GA2/NINDA2 TIMES DIM GUNU, CUNEIFORM SIGN GA2/UR2 TIMES A PLUS HA, CUNEIFORM
SIGN GABA CROSSING GABA, CUNEIFORM SIGN GABA/NU11 ROTATED NINETY DEGREES, CUNEIFORM SIGN GAD
OVER GAD GAR OVER GAR, CUNEIFORM SIGN GAL GAD OVER GAD GAR OVER GAR, CUNEIFORM SIGN
GAM/GAN/GAN2/GAR/GAR3/GASHAN/GE22/GESHTIN/GI/GI4/GIDIM/GIG/GIR2, CUNEIFORM SIGN GAN2
CROSSING/OVER GAN2, CUNEIFORM SIGN GAN2/GISH/HA/LU2/NU11/NUN/SHA6/SHIR/TI/ZA TENU, CUNEIFORM
SIGN GI CROSSING GI, CUNEIFORM SIGN GI/NI/PI TIMES E, CUNEIFORM SIGN GI4 CROSSING/OVER GI4,
CUNEIFORM SIGN GIR3 TIMES LU PLUS IGI, CUNEIFORM SIGN
GIR3/GISAL/GISH/GU/GU2/GUD/GUL/GUM/GUR/GUR7/GURUN/GURUSH/HA/HAL, CUNEIFORM SIGN GISH CROSSING
GISH, CUNEIFORM SIGN GISH/KA TIMES GISH CROSSING GISH, CUNEIFORM SIGN GU CROSSING GU, CUNEIFORM
SIGN GU2 TIMES KAK TIMES IGI GUNU, CUNEIFORM SIGN GU2 TIMES SAL PLUS TUG2, CUNEIFORM SIGN GUD
OVER GUD LUGAL, CUNEIFORM SIGN GUD PLUS GISH TIMES TAK4, CUNEIFORM SIGN GUD TIMES A PLUS KUR,
CUNEIFORM SIGN HA TENU GUNU, CUNEIFORM SIGN HI TIMES ASH OVER HI TIMES ASH, CUNEIFORM SIGN HI
TIMES GAD, CUNEIFORM SIGN HI/HU/HUB2/HUL2/HUSH/I/IB/IDIM/IG/IGI/IL/IL2/IM/IMIN/IN/IR/ISH,
CUNEIFORM SIGN HI/LAGAB TIMES KIN, CUNEIFORM SIGN HI/LU2 TIMES DISH, CUNEIFORM SIGN HUB2/LAGAB
TIMES LISH, CUNEIFORM SIGN I A, CUNEIFORM SIGN IDIM OVER IDIM BUR/SQUARED, CUNEIFORM SIGN IGI
DIB/RI, CUNEIFORM SIGN IGI OVER IGI SHIR OVER SHIR UD OVER UD, CUNEIFORM SIGN IM
CROSSING/OPPOSING IM, CUNEIFORM SIGN KA TIMES AD PLUS KU3, CUNEIFORM SIGN KA TIMES
AD/ASH3/GIR2/GUR7/KA/RU/SA/SHA/SHUL/SIG/SUHUR/UR2/ZI, CUNEIFORM SIGN KA TIMES GAR PLUS SHA3 PLUS
A, CUNEIFORM SIGN KA TIMES GISH PLUS SAR, CUNEIFORM SIGN KA TIMES HI TIMES ASH2, CUNEIFORM SIGN
KA TIMES ME PLUS DU/GI/TE, CUNEIFORM SIGN KA TIMES MI PLUS NUNUZ, CUNEIFORM SIGN KA TIMES UMUM
TIMES PA, CUNEIFORM SIGN KA/KA2/KAB/KAD2/KAD3/KAD4/KAD5/KAK/KAL/KAM2/KAM4/KASKAL/KESH2,
CUNEIFORM SIGN KA/LAGAB/LU2/SHID/URU TIMES IM, CUNEIFORM SIGN KA/LAGAB/PI/TAG TIMES BI,
CUNEIFORM SIGN KA/LAK-449/URU TIMES GU, CUNEIFORM SIGN KA/LAK-617 TIMES TAR, CUNEIFORM SIGN
KA/LU2/TAG TIMES SHU, CUNEIFORM SIGN KA/PI TIMES BU, CUNEIFORM SIGN KA/SAG TIMES UR, CUNEIFORM
SIGN KA/SAG/URU TIMES LUM, CUNEIFORM SIGN KA/URU TIMES BAR/TU, CUNEIFORM SIGN KA2 CROSSING KA2,
CUNEIFORM SIGN KAD5 OVER KAD5, CUNEIFORM SIGN KAL CROSSING KAL, CUNEIFORM SIGN KAP ELAMITE,
CUNEIFORM SIGN KASKAL LAGAB TIMES U OVER LAGAB TIMES U, CUNEIFORM SIGN KASKAL OVER KASKAL LAGAB
TIMES U OVER LAGAB TIMES U, CUNEIFORM SIGN
KI/KID/KIN/KISAL/KISH/KISIM5/KU/KU3/KU4/KU7/KUL/KUN/KUR/KUSHU2, CUNEIFORM SIGN KISIM5 OVER
KISIM5, CUNEIFORM SIGN KU OVER HI TIMES ASH2 KU OVER HI TIMES ASH2, CUNEIFORM SIGN KU4 VARIANT
FORM, CUNEIFORM SIGN KUR OPPOSING KUR, CUNEIFORM SIGN
KWU318/LA/LAGAB/LAGAR/LAHSHU/LAK-003/LAK-021/LAK-025/LAK-030, CUNEIFORM SIGN LAGAB TIMES A PLUS
GAR, CUNEIFORM SIGN LAGAB TIMES ASH ZIDA TENU, CUNEIFORM SIGN LAGAB TIMES DAR/KUL/TAG, CUNEIFORM
SIGN LAGAB TIMES GUD PLUS GUD, CUNEIFORM SIGN LAGAB TIMES HI TIMES NUN, CUNEIFORM SIGN LAGAB
TIMES IM PLUS HA/LU, CUNEIFORM SIGN LAGAB TIMES KUL PLUS HI PLUS A, CUNEIFORM SIGN LAGAB TIMES
SHITA PLUS GISH PLUS ERIN2, CUNEIFORM SIGN LAGAB TIMES SHITA PLUS GISH TENU, CUNEIFORM SIGN
LAGAB TIMES SHU2 PLUS SHU2, CUNEIFORM SIGN LAGAB TIMES TE PLUS A PLUS SU PLUS NA, CUNEIFORM SIGN
LAGAB TIMES ZU OVER ZU, CUNEIFORM SIGN LAGAB/LAGAR TIMES SHE PLUS SUM, CUNEIFORM SIGN
LAGAB/NINDA2/UR2 TIMES U2 PLUS ASH, CUNEIFORM SIGN LAGAB/SHA3 TIMES U PLUS A, CUNEIFORM SIGN
LAGAB/SHIM TIMES LUL, CUNEIFORM SIGN LAGAR GUNU OVER LAGAR GUNU SHE, CUNEIFORM SIGN
LAK-050/LAK-051/LAK-062/LAK-080/LAK-092/LAK-130/LAK-142/LAK-210, CUNEIFORM SIGN LAK-079 OVER
LAK-079 GUNU, CUNEIFORM SIGN LAK-081 OVER LAK-081, CUNEIFORM SIGN
LAK-219/LAK-220/LAK-225/LAK-228/LAK-238/LAK-265/LAK-266/LAK-343, CUNEIFORM SIGN
LAK-347/LAK-348/LAK-383/LAK-384/LAK-390/LAK-441/LAK-449/LAK-450, CUNEIFORM SIGN LAK-449 TIMES
PAP PLUS LU3, CUNEIFORM SIGN LAK-449 TIMES U2 PLUS BA, CUNEIFORM SIGN LAK-449/LAK-648/LU2 TIMES
PAP PLUS PAP PLUS LU3, CUNEIFORM SIGN
LAK-457/LAK-470/LAK-483/LAK-490/LAK-492/LAK-493/LAK-495/LAK-550, CUNEIFORM SIGN
LAK-608/LAK-617/LAK-636/LAK-648/LAK-724/LAK-749/LAL/LAM/LI/LIL, CUNEIFORM SIGN LAK-617 TIMES TE,
CUNEIFORM SIGN LAK-617/LAK-648/NINDA2/URU TIMES URUDA, CUNEIFORM SIGN LAK-648 TIMES SHESH PLUS
KI, CUNEIFORM SIGN LAL TIMES LAL, CUNEIFORM SIGN LAM TIMES KUR PLUS RU, CUNEIFORM SIGN
LIMMU2/LISH/LU/LU2/LU3/LUGAL/LUH/LUL/LUM/MA/MA2/MAH/MAR/MASH, CUNEIFORM SIGN LU2
CROSSING/OPPOSING LU2, CUNEIFORM SIGN LU2 GUNU TIMES ASH, CUNEIFORM SIGN LU2 TIMES ESH2 PLUS
LAL, CUNEIFORM SIGN LU2 TIMES ESH2 TENU, CUNEIFORM SIGN LU2 TIMES HI TIMES BAD, CUNEIFORM SIGN
LU2 TIMES KAD2/NU, CUNEIFORM SIGN LU2 TIMES KAD3/LA/SI PLUS ASH, CUNEIFORM SIGN LU2 TIMES SIK2
PLUS BU, CUNEIFORM SIGN LU2/TAG TIMES TUG2, CUNEIFORM SIGN LU2/UD SHESHIG TIMES BAD, CUNEIFORM
SIGN LUGAL OPPOSING/OVER LUGAL, CUNEIFORM SIGN LUM OVER LUM, CUNEIFORM SIGN LUM OVER LUM GAR
OVER GAR, CUNEIFORM SIGN MASH2/ME/MES/MESH/MI/MIN/MU/MUG/MUNSUB/MURGU2/MUSH/MUSH3/NA/NA2,
CUNEIFORM SIGN MI PLUS ZA7, CUNEIFORM SIGN MU OVER MU, CUNEIFORM SIGN MUSH CROSSING/OVER MUSH,
CUNEIFORM SIGN MUSH OVER MUSH TIMES A PLUS NA, CUNEIFORM SIGN MUSH OVER MUSH TIMES GA/KAK,
CUNEIFORM SIGN MUSH3 TIMES A PLUS DI, CUNEIFORM SIGN
NA4/NAGA/NAGAR/NAM/NAM2/NE/NI/NI2/NIM/NIN/NIN9/NINDA2/NISAG/NU, CUNEIFORM SIGN NAGA OPPOSING
NAGA, CUNEIFORM SIGN NAGA TIMES SHU TENU, CUNEIFORM SIGN NAGA/UR2 INVERTED, CUNEIFORM SIGN
NAM/SAG NUTILLU, CUNEIFORM SIGN NIM TIMES GAR PLUS GAN2 TENU, CUNEIFORM SIGN NINDA2 TIMES
ASH/SHE PLUS ASH, CUNEIFORM SIGN NINDA2 TIMES GUL/KESH2/LAK-050, CUNEIFORM SIGN NINDA2 TIMES ME
PLUS GAN2 TENU, CUNEIFORM SIGN NINDA2 TIMES PAP PLUS PAP, CUNEIFORM SIGN NINDA2 TIMES SHE PLUS A
AN, CUNEIFORM SIGN NINDA2 TIMES SHE PLUS ASH PLUS ASH, CUNEIFORM SIGN NINDA2 TIMES U PLUS U,
CUNEIFORM SIGN NINDA2/SHIM TIMES BAL, CUNEIFORM SIGN NU11 OVER NU11 BUR OVER BUR, CUNEIFORM SIGN
NU11/NUN/NUNUZ/PA/PAD/PAN/PAP/PESH2/PI/PIR2/PIRIG/RA/RAB/RI/RU, CUNEIFORM SIGN NUN CROSSING NUN
LAGAR OVER LAGAR, CUNEIFORM SIGN NUN CROSSING/OVER NUN, CUNEIFORM SIGN NUN LAGAR TIMES
GAR/MASH/SAL/USH, CUNEIFORM SIGN NUN LAGAR TIMES SAL OVER NUN LAGAR TIMES SAL, CUNEIFORM SIGN
NUNUZ AB2 TIMES ASHGAB/BI/DUG/GUD/KAD3/LA/NE/SILA3/U2, CUNEIFORM SIGN NUNUZ AB2 TIMES IGI GUNU,
CUNEIFORM SIGN NUNUZ KISIM5 TIMES BI U, CUNEIFORM SIGN PESH2/TA ASTERISK, CUNEIFORM SIGN PI
CROSSING PI, CUNEIFORM SIGN PI TIMES AB/I/IB, CUNEIFORM SIGN PIRIG OPPOSING PIRIG, CUNEIFORM
SIGN PIRIG TIMES KAL, CUNEIFORM SIGN
SA/SAG/SAL/SANGA2/SAR/SHA/SHA3/SHA6/SHAB6/SHAR2/SHE/SHEG9/SHEN, CUNEIFORM SIGN SAG GUNU TIMES
HA, CUNEIFORM SIGN SAG OVER SAG, CUNEIFORM SIGN SAG TIMES DU/TAB/UB/UM, CUNEIFORM SIGN SAG TIMES
SHE AT LEFT, CUNEIFORM SIGN SAL LAGAB TIMES ASH2, CUNEIFORM SIGN SHA3 TIMES TUR, CUNEIFORM SIGN
SHE HU, CUNEIFORM SIGN SHE OVER SHE, CUNEIFORM SIGN SHE OVER SHE GAD OVER GAD GAR OVER GAR,
CUNEIFORM SIGN SHE OVER SHE TAB OVER TAB GAR OVER GAR, CUNEIFORM SIGN SHE PLUS HUB2/NAM2/SAR,
CUNEIFORM SIGN SHESH/SHESH2/SHESHLAM/SHID/SHIM/SHINIG/SHIR/SHITA/SHU/SHU2, CUNEIFORM SIGN SHIM
TIMES BULUG/MUG, CUNEIFORM SIGN SHIR OVER SHIR BUR OVER BUR, CUNEIFORM SIGN SHU OVER INVERTED
SHU, CUNEIFORM SIGN SHU2 PLUS DUG TIMES NI, CUNEIFORM SIGN SHU2 PLUS E2 TIMES AN, CUNEIFORM SIGN
SHUBUR/SI/SIG/SIG4/SIK2/SILA3/SU/SUD/SUD2/SUHUR/SUM/SUMASH/SUR, CUNEIFORM SIGN SIG4 OVER SIG4
SHU2, CUNEIFORM SIGN SU OVER SU, CUNEIFORM SIGN
SUR9/TA/TAB/TAG/TAK4/TAR/TE/TI/TI2/TIL/TIR/TU/TUG2/TUK/TUM/TUR, CUNEIFORM SIGN TAB OVER TAB NI
OVER NI DISH OVER DISH, CUNEIFORM SIGN TAK4 PLUS SAG, CUNEIFORM SIGN TE/UD/UN GUNU, CUNEIFORM
SIGN TIR OVER TIR, CUNEIFORM SIGN TIR OVER TIR GAD OVER GAD GAR OVER GAR, CUNEIFORM SIGN TUM
TIMES THREE DISH, CUNEIFORM SIGN TUR OVER TUR ZA OVER ZA, CUNEIFORM SIGN U GUD/U, CUNEIFORM SIGN
U OVER U PA OVER PA GAR OVER GAR, CUNEIFORM SIGN U OVER U SUR OVER SUR, CUNEIFORM SIGN U OVER U
U REVERSED OVER U REVERSED, CUNEIFORM SIGN U U U, CUNEIFORM SIGN
U/U2/UB/UD/UDUG/UM/UMBIN/UMUM/UN/UR/UR2/UR4/URI/URI3/URU/URUDA, CUNEIFORM SIGN UD KUSHU2,
CUNEIFORM SIGN UD TIMES U PLUS U PLUS U GUNU, CUNEIFORM SIGN UM TIMES ME PLUS DA, CUNEIFORM SIGN
UR CROSSING UR, CUNEIFORM SIGN UR2 TIMES A PLUS NA, CUNEIFORM SIGN UR2 TIMES U2 PLUS BI,
CUNEIFORM SIGN URU TIMES ASHGAB/DARA3/ISH/LAK-668/LU3/MIN/SIG4, CUNEIFORM SIGN URU TIMES U PLUS
GUD, CUNEIFORM SIGN URU TIMES UD, CUNEIFORM SIGN USH TIMES KU, CUNEIFORM SIGN
USH/USH2/USHUMX/USHX/UTUKI/UZ3/UZU/ZA/ZA7/ZAG/ZAMX/ZE2/ZI/ZI3, CUNEIFORM SIGN USH/ZU5 TIMES A,
CUNEIFORM SIGN ZA SQUARED TIMES KUR, CUNEIFORM SIGN ZI OVER ZI, CUNEIFORM SIGN
ZIB/ZIG/ZIZ2/ZU/ZU5/ZUBUR/ZUM, CUNEIFORM SIGN ZU OVER ZU PLUS SAR, CUNEIFORM SIGN ZU5 TIMES
THREE DISH TENU, CUP ON BLACK SQUARE, CUP WITH STRAW, CUPCAKE, CUPIDO, CURLING STONE, CURLY
BRACKET EXTENSION, CURLY LOGICAL AND/OR, CURLY LOOP, CURRENCY EXCHANGE/SIGN, CURRY AND RICE,
CURVED STEM PARAGRAPH SIGN ORNAMENT, CUSTARD, CUSTOMS, CUT OF MEAT, CYCLONE, CYLINDRICITY,
CYPRIOT SYLLABLE A/E/I/JA/JO/KA/KE/KI/KO/KU/LA/LE/LI/LO/LU/MA/ME/MI/MO/MU/NA/NE, CYPRIOT
SYLLABLE NI/NO/NU/O/PA/PE/PI/PO/PU/RA/RE/RI/RO/RU/SA/SE/SI/SO/SU/TA/TE, CYPRIOT SYLLABLE
TI/TO/TU/U/WA/WE/WI/WO/XA/XE/ZA/ZO, CYPRO-MINOAN SIGN
CM001/CM002/CM004/CM005/CM006/CM007/CM008/CM009/CM010/CM011, CYPRO-MINOAN SIGN
CM012/CM012B/CM013/CM015/CM017/CM019/CM021/CM023/CM024/CM025, CYPRO-MINOAN SIGN
CM026/CM027/CM028/CM029/CM030/CM033/CM034/CM035/CM036/CM037, CYPRO-MINOAN SIGN
CM038/CM039/CM040/CM041/CM044/CM046/CM047/CM049/CM050/CM051, CYPRO-MINOAN SIGN
CM052/CM053/CM054/CM055/CM056/CM058/CM059/CM060/CM061/CM062, CYPRO-MINOAN SIGN
CM063/CM064/CM066/CM067/CM068/CM069/CM070/CM071/CM072/CM073, CYPRO-MINOAN SIGN
CM074/CM075/CM075B/CM076/CM078/CM079/CM080/CM081/CM082/CM083, CYPRO-MINOAN SIGN
CM084/CM085/CM086/CM087/CM088/CM089/CM090/CM091/CM092/CM094, CYPRO-MINOAN SIGN
CM095/CM096/CM097/CM098/CM099/CM100/CM101/CM102/CM103/CM104, CYPRO-MINOAN SIGN
CM105/CM107/CM108/CM109/CM110/CM112/CM114/CM301/CM302, CYRILLIC CAPITAL/SMALL LETTER
A/BE/CCHE/CHE/DCHE/DE/DJE/DJERV/DWE/DZE/DZELO/DZHE/DZWE/DZZE, CYRILLIC CAPITAL/SMALL LETTER
A/CHE/E/I/O/SCHWA/U/YERU/ZE/ZHE WITH DIAERESIS, CYRILLIC CAPITAL/SMALL LETTER A/IE/ZHE WITH
BREVE, CYRILLIC CAPITAL/SMALL LETTER ABKHASIAN CHE WITH DESCENDER, CYRILLIC CAPITAL/SMALL LETTER
ABKHASIAN HA, CYRILLIC CAPITAL/SMALL LETTER ABKHASIAN/KHAKASSIAN CHE, CYRILLIC CAPITAL/SMALL
LETTER ABKHASIAN/REVERSED DZE, CYRILLIC CAPITAL/SMALL LETTER ALEUT/BASHKIR KA, CYRILLIC
CAPITAL/SMALL LETTER BARRED O WITH DIAERESIS, CYRILLIC CAPITAL/SMALL LETTER
BARRED/BINOCULAR/CROSSED/DOUBLE/MONOCULAR O, CYRILLIC CAPITAL/SMALL LETTER BIG/BLENDED/LITTLE
YUS, CYRILLIC CAPITAL/SMALL LETTER BROAD/ROUND OMEGA, CYRILLIC CAPITAL/SMALL LETTER
BYELORUSSIAN-UKRAINIAN/SHORT I, CYRILLIC CAPITAL/SMALL LETTER
CHE/EL/EN/ES/GHE/HA/KA/PE/SHHA/TE/ZE/ZHE WITH DESCENDER, CYRILLIC CAPITAL/SMALL LETTER CHE/KA
WITH VERTICAL STROKE, CYRILLIC CAPITAL/SMALL LETTER CLOSED/IOTIFIED LITTLE YUS, CYRILLIC
CAPITAL/SMALL LETTER DOUBLE MONOCULAR O, CYRILLIC CAPITAL/SMALL LETTER
DZZHE/E/EF/EL/EM/EN/ER/ES/FITA/GHE/GJE/HA/HWE/I/IE/IO/IOTA, CYRILLIC CAPITAL/SMALL LETTER
EL/EM/EN WITH TAIL, CYRILLIC CAPITAL/SMALL LETTER EL/EN/GHE/PE/TE WITH MIDDLE HOOK, CYRILLIC
CAPITAL/SMALL LETTER EL/EN/HA/KA WITH HOOK, CYRILLIC CAPITAL/SMALL LETTER EN WITH LEFT HOOK,
CYRILLIC CAPITAL/SMALL LETTER ER WITH TICK, CYRILLIC CAPITAL/SMALL LETTER GHE WITH STROKE AND
HOOK, CYRILLIC CAPITAL/SMALL LETTER GHE WITH UPTURN, CYRILLIC CAPITAL/SMALL LETTER GHE/HA/KA
WITH STROKE, CYRILLIC CAPITAL/SMALL LETTER HARD/SEMISOFT/SOFT SIGN, CYRILLIC CAPITAL/SMALL
LETTER I/IE WITH GRAVE, CYRILLIC CAPITAL/SMALL LETTER I/U WITH MACRON, CYRILLIC CAPITAL/SMALL
LETTER IOTIFIED A/E/YAT, CYRILLIC CAPITAL/SMALL LETTER IOTIFIED BIG YUS, CYRILLIC CAPITAL/SMALL
LETTER IOTIFIED CLOSED LITTLE YUS, CYRILLIC CAPITAL/SMALL LETTER IZHITSA WITH DOUBLE GRAVE
ACCENT, CYRILLIC CAPITAL/SMALL LETTER
IZHITSA/JE/KA/KJE/KOPPA/KSI/LHA/LJE/NJE/O/OMEGA/OT/PE/PSI/QA, CYRILLIC CAPITAL/SMALL LETTER KOMI
DJE/DZJE/LJE/NJE/SJE/TJE/ZJE, CYRILLIC CAPITAL/SMALL LETTER KOMI/SOFT DE, CYRILLIC CAPITAL/SMALL
LETTER MONOGRAPH UK, CYRILLIC CAPITAL/SMALL LETTER NEUTRAL YER, CYRILLIC CAPITAL/SMALL LETTER
OMEGA WITH TITLO, CYRILLIC CAPITAL/SMALL LETTER REVERSED TSE/YU/ZE, CYRILLIC CAPITAL/SMALL
LETTER RHA/SCHWA/SHA/SHCHA/SHHA/SHWE/TCHE/TE/TSE/TSHE/TSSE/TSWE/TWE/U, CYRILLIC CAPITAL/SMALL
LETTER SHORT I WITH TAIL, CYRILLIC CAPITAL/SMALL LETTER SHORT/STRAIGHT U, CYRILLIC CAPITAL/SMALL
LETTER SOFT EL/EM, CYRILLIC CAPITAL/SMALL LETTER STRAIGHT U WITH STROKE, CYRILLIC CAPITAL/SMALL
LETTER U WITH DOUBLE ACUTE, CYRILLIC CAPITAL/SMALL LETTER
UK/VE/WE/YA/YAE/YAT/YERU/YI/YN/YU/ZE/ZEMLYA/ZHE/ZHWE, CYRILLIC CAPITAL/SMALL LETTER UKRAINIAN
IE, CYRILLIC CAPITAL/SMALL LETTER YERU WITH BACK YER, CYRILLIC CAPITAL/SMALL LIGATURE A IE,
CYRILLIC CAPITAL/SMALL LIGATURE EN GHE, CYRILLIC CAPITAL/SMALL LIGATURE TE TSE, CYRILLIC
KAVYKA/PAYEROK, CYRILLIC LETTER MULTIOCULAR O, CYRILLIC LETTER PALOCHKA, CYRILLIC LETTER SMALL
CAPITAL EL, CYRILLIC SMALL LETTER LONG-LEGGED DE, CYRILLIC SMALL LETTER NARROW O, CYRILLIC SMALL
LETTER PALOCHKA, CYRILLIC SMALL LETTER ROUNDED VE, CYRILLIC SMALL LETTER TALL HARD SIGN,
CYRILLIC SMALL LETTER TALL YAT, CYRILLIC SMALL LETTER TALL/THREE-LEGGED TE, CYRILLIC SMALL
LETTER UNBLENDED UK, CYRILLIC SMALL LETTER WIDE ES, CYRILLIC THOUSANDS SIGN"),
  ('D', "
DAGGER, DAGGER KNIFE, DAGGER WITH LEFT/RIGHT GUARD, DALET SYMBOL, DANCER, DANGO, DARK
SHADE/SUNGLASSES, DASH SYMBOL, DASH WITH LEFT UPTURN, DASHED LOW LINE, DASHED OVERLINE, DASHED
TRIANGLE-HEADED RIGHTWARDS ARROW, DATA LINK ESCAPE, DC1, DC2, DC3, DC4, DCS, DEAF PERSON,
DECIDUOUS TREE, DECIMAL EXPONENT SYMBOL, DECIMAL SEPARATOR KEY SYMBOL, DECREASE FONT SIZE
SYMBOL, DEER, DEGREE CELSIUS/FAHRENHEIT/SIGN, DEL, DELETE, DELIVERY TRUCK, DELTA EQUAL TO,
DENTISTRY SYMBOL LIGHT DOWN/UP AND HORIZONTAL, DENTISTRY SYMBOL LIGHT DOWN/UP AND HORIZONTAL
WITH CIRCLE/TRIANGLE/WAVE, DENTISTRY SYMBOL LIGHT VERTICAL AND BOTTOM/TOP LEFT/RIGHT, DENTISTRY
SYMBOL LIGHT VERTICAL AND WAVE, DENTISTRY SYMBOL LIGHT VERTICAL WITH CIRCLE/TRIANGLE, DEPARTMENT
STORE, DERELICT HOUSE BUILDING, DESCENDING NODE, DESERET CAPITAL/SMALL LETTER
AY/BEE/CHEE/DEE/EF/EL/EM/EN/ENG/ER/ES/ESH/ETH/EW/GAY/H/JEE/KAY, DESERET CAPITAL/SMALL LETTER
LONG/SHORT A/AH/E/I/O/OO, DESERET CAPITAL/SMALL LETTER OI/OW/PEE/TEE/THEE/VEE/WU/YEE/ZEE/ZHEE,
DESERT, DESERT ISLAND, DESKTOP COMPUTER/WINDOW, DEVANAGARI ABBREVIATION SIGN, DEVANAGARI
ACUTE/GRAVE ACCENT, DEVANAGARI CARET/DANDA/HEADSTROKE/OM, DEVANAGARI DIGIT
EIGHT/FIVE/FOUR/NINE/ONE/SEVEN/SIX/THREE/TWO/ZERO, DEVANAGARI DOUBLE DANDA, DEVANAGARI GAP
FILLER, DEVANAGARI JAIN OM, DEVANAGARI LETTER
A/AA/AI/AU/AW/AY/BA/BBA/BHA/CA/CHA/DA/DDA/DDDA/DDDHA/DDHA/DHA/E, DEVANAGARI LETTER CANDRA/SHORT
A/E/O, DEVANAGARI LETTER FA/GA/GGA/GHA/GHHA/HA/I/II/JA/JHA/JJA/KA/KHA/KHHA/LA/LLA/LLLA,
DEVANAGARI LETTER GLOTTAL STOP, DEVANAGARI LETTER HEAVY YA, DEVANAGARI LETTER
MA/NA/NGA/NNA/NNNA/NYA/O/OE/OOE/PA/PHA/QA/RA/RHA/RRA/SA/SHA/SSA, DEVANAGARI LETTER MARWARI DDA,
DEVANAGARI LETTER TA/THA/TTA/TTHA/U/UE/UU/UUE/VA/YA/YYA/ZA/ZHA, DEVANAGARI LETTER VOCALIC
L/LL/R/RR, DEVANAGARI SIGN ANUSVARA/AVAGRAHA/CANDRABINDU/NUKTA/PUSHPIKA/SIDDHAM/VIRAMA,
DEVANAGARI SIGN CANDRABINDU AVAGRAHA/THREE/TWO/VIRAMA, DEVANAGARI SIGN DOUBLE CANDRABINDU
VIRAMA, DEVANAGARI SIGN HIGH SPACING DOT, DEVANAGARI SIGN INVERTED/SPACING CANDRABINDU,
DEVANAGARI SIGN VISARGA, DEVANAGARI STRESS SIGN ANUDATTA/UDATTA, DEVANAGARI VOWEL SIGN
AA/AI/AU/AW/AY/E/I/II/O/OE/OOE/U/UE/UU/UUE, DEVANAGARI VOWEL SIGN CANDRA LONG E, DEVANAGARI
VOWEL SIGN CANDRA/PRISHTHAMATRA/SHORT E, DEVANAGARI VOWEL SIGN CANDRA/SHORT O, DEVANAGARI VOWEL
SIGN VOCALIC L/LL/R/RR, DEVICE CONTROL FOUR/ONE/STRING/THREE/TWO, DIAERESIS, DIAMETER SIGN,
DIAMOND OPERATOR/TARGET, DIAMOND SHAPE WITH A DOT INSIDE, DIAMOND WITH BOTTOM/LEFT/RIGHT/TOP
HALF BLACK, DIE FACE-1/FACE-2/FACE-3/FACE-4/FACE-5/FACE-6, DIESEL LOCOMOTIVE, DIFFERENCE
BETWEEN, DIGIT EIGHT/FIVE/FOUR/NINE/ONE/SEVEN/SIX/THREE/TWO/ZERO, DIGIT
EIGHT/FIVE/FOUR/NINE/ONE/SEVEN/SIX/THREE/TWO/ZERO COMMA, DIGIT
EIGHT/FIVE/FOUR/NINE/ONE/SEVEN/SIX/THREE/TWO/ZERO FULL STOP, DIGRAM FOR EARTH, DIGRAM FOR
EARTHLY HEAVEN/HUMAN, DIGRAM FOR GREATER/LESSER YANG/YIN, DIGRAM FOR HEAVENLY/HUMAN EARTH,
DIMENSION ORIGIN, DINGBAT CIRCLED SANS-SERIF DIGIT
EIGHT/FIVE/FOUR/NINE/ONE/SEVEN/SIX/THREE/TWO/ZERO, DINGBAT CIRCLED SANS-SERIF NUMBER TEN,
DINGBAT NEGATIVE CIRCLED DIGIT EIGHT/FIVE/FOUR/NINE/ONE/SEVEN/SIX/THREE/TWO, DINGBAT NEGATIVE
CIRCLED NUMBER TEN, DINGBAT NEGATIVE CIRCLED SANS-SERIF DIGIT
EIGHT/FIVE/FOUR/NINE/ONE/SEVEN/SIX/THREE/TWO/ZERO, DINGBAT NEGATIVE CIRCLED SANS-SERIF NUMBER
TEN, DIRECT CURRENT SYMBOL FORM TWO, DIRECT HIT, DISABLED CAR, DISAPPOINTED BUT RELIEVED FACE,
DISAPPOINTED FACE, DISCONTINUOUS UNDERLINE SYMBOL, DISGUISED FACE, DITTO MARK, DIVES AKURU DIGIT
EIGHT/FIVE/FOUR/NINE/ONE/SEVEN/SIX/THREE/TWO/ZERO, DIVES AKURU DOUBLE DANDA, DIVES AKURU END OF
TEXT MARK, DIVES AKURU GAP FILLER, DIVES AKURU INITIAL/LETTER/MEDIAL RA, DIVES AKURU LETTER
A/AA/BA/BHA/CA/CHA/DA/DDA/DDHA/DHA/E/GA/GHA/HA/I/II/JA/KA/KHA, DIVES AKURU LETTER
LA/LLA/MA/NA/NGA/NNA/NYA/O/PA/PHA/SA/SHA/SSA/TA/THA/TTA/U/UU/VA, DIVES AKURU LETTER YYA/ZA,
DIVES AKURU LETTER/MEDIAL YA, DIVES AKURU PREFIXED NASAL SIGN, DIVES AKURU SIGN
ANUSVARA/CANDRABINDU/HALANTA/NUKTA, DIVES AKURU VIRAMA, DIVES AKURU VOWEL SIGN
AA/AI/E/I/II/O/U/UU, DIVIDES, DIVING MASK, DIVISION SIGN/SLASH/TIMES, DIVORCE SYMBOL, DIYA LAMP,
DIZZY FACE/SYMBOL, DLE, DNA DOUBLE HELIX, DO NOT LITTER SYMBOL, DOCUMENT, DOCUMENT WITH
PICTURE/TEXT, DOCUMENT WITH TEXT AND PICTURE, DODO, DOES NOT CONTAIN AS MEMBER, DOES NOT CONTAIN
AS NORMAL SUBGROUP, DOES NOT CONTAIN AS NORMAL SUBGROUP OR EQUAL, DOES NOT DIVIDE WITH REVERSED
NEGATION SLASH, DOES NOT DIVIDE/FORCE/PRECEDE/PROVE/SUCCEED, DOES NOT PRECEDE/SUCCEED OR EQUAL,
DOG, DOG FACE, DOGRA ABBREVIATION SIGN, DOGRA LETTER
A/AA/AI/AU/BA/BHA/CA/CHA/DA/DDA/DDHA/DHA/E/GA/GHA/HA/I/II/JA, DOGRA LETTER
JHA/KA/KHA/LA/MA/NA/NGA/NNA/NYA/O/PA/PHA/RA/RRA/SA/SHA/SSA/TA, DOGRA LETTER
THA/TTA/TTHA/U/UU/VA/YA, DOGRA SIGN ANUSVARA/NUKTA/VIRAMA/VISARGA, DOGRA VOWEL SIGN
AA/AI/AU/E/I/II/O/U/UU, DOGRA VOWEL SIGN VOCALIC R/RR, DOLLAR SIGN, DOLPHIN, DOMINO TILE
HORIZONTAL-00-00/HORIZONTAL-00-01/HORIZONTAL-00-02, DOMINO TILE
HORIZONTAL-00-03/HORIZONTAL-00-04/HORIZONTAL-00-05, DOMINO TILE
HORIZONTAL-00-06/HORIZONTAL-01-00/HORIZONTAL-01-01, DOMINO TILE
HORIZONTAL-01-02/HORIZONTAL-01-03/HORIZONTAL-01-04, DOMINO TILE
HORIZONTAL-01-05/HORIZONTAL-01-06/HORIZONTAL-02-00, DOMINO TILE
HORIZONTAL-02-01/HORIZONTAL-02-02/HORIZONTAL-02-03, DOMINO TILE
HORIZONTAL-02-04/HORIZONTAL-02-05/HORIZONTAL-02-06, DOMINO TILE
HORIZONTAL-03-00/HORIZONTAL-03-01/HORIZONTAL-03-02, DOMINO TILE
HORIZONTAL-03-03/HORIZONTAL-03-04/HORIZONTAL-03-05, DOMINO TILE
HORIZONTAL-03-06/HORIZONTAL-04-00/HORIZONTAL-04-01, DOMINO TILE
HORIZONTAL-04-02/HORIZONTAL-04-03/HORIZONTAL-04-04, DOMINO TILE
HORIZONTAL-04-05/HORIZONTAL-04-06/HORIZONTAL-05-00, DOMINO TILE
HORIZONTAL-05-01/HORIZONTAL-05-02/HORIZONTAL-05-03, DOMINO TILE
HORIZONTAL-05-04/HORIZONTAL-05-05/HORIZONTAL-05-06, DOMINO TILE
HORIZONTAL-06-00/HORIZONTAL-06-01/HORIZONTAL-06-02, DOMINO TILE
HORIZONTAL-06-03/HORIZONTAL-06-04/HORIZONTAL-06-05, DOMINO TILE
HORIZONTAL-06-06/VERTICAL-00-00/VERTICAL-00-01/VERTICAL-00-02, DOMINO TILE HORIZONTAL/VERTICAL
BACK, DOMINO TILE VERTICAL-00-03/VERTICAL-00-04/VERTICAL-00-05/VERTICAL-00-06, DOMINO TILE
VERTICAL-01-00/VERTICAL-01-01/VERTICAL-01-02/VERTICAL-01-03, DOMINO TILE
VERTICAL-01-04/VERTICAL-01-05/VERTICAL-01-06/VERTICAL-02-00, DOMINO TILE
VERTICAL-02-01/VERTICAL-02-02/VERTICAL-02-03/VERTICAL-02-04, DOMINO TILE
VERTICAL-02-05/VERTICAL-02-06/VERTICAL-03-00/VERTICAL-03-01, DOMINO TILE
VERTICAL-03-02/VERTICAL-03-03/VERTICAL-03-04/VERTICAL-03-05, DOMINO TILE
VERTICAL-03-06/VERTICAL-04-00/VERTICAL-04-01/VERTICAL-04-02, DOMINO TILE
VERTICAL-04-03/VERTICAL-04-04/VERTICAL-04-05/VERTICAL-04-06, DOMINO TILE
VERTICAL-05-00/VERTICAL-05-01/VERTICAL-05-02/VERTICAL-05-03, DOMINO TILE
VERTICAL-05-04/VERTICAL-05-05/VERTICAL-05-06/VERTICAL-06-00, DOMINO TILE
VERTICAL-06-01/VERTICAL-06-02/VERTICAL-06-03/VERTICAL-06-04, DOMINO TILE
VERTICAL-06-05/VERTICAL-06-06, DONG SIGN, DOOR, DOT ABOVE/MINUS/OPERATOR/PLUS, DOTTED
CIRCLE/CROSS/FENCE/OBELOS/SOLIDUS/SQUARE, DOTTED LINE FACE, DOTTED RIGHT-POINTING ANGLE, DOTTED
TRANSPOSITION MARKER, DOUBLE ACUTE ACCENT, DOUBLE CIRCLED DIGIT
EIGHT/FIVE/FOUR/NINE/ONE/SEVEN/SIX/THREE/TWO, DOUBLE CIRCLED NUMBER TEN, DOUBLE COLON EQUAL,
DOUBLE CURLY LOOP, DOUBLE DAGGER/HYPHEN/INTEGRAL/INTERSECTION/PLUS/PRECEDES/PRIME/SUBSET, DOUBLE
DOWN/UP TACK, DOUBLE EXCLAMATION/QUESTION/SUSPENSION MARK, DOUBLE
HIGH-REVERSED-9/LOW-9/LOW-REVERSED-9/PRIME QUOTATION MARK, DOUBLE LEFT ARC GREATER-THAN BRACKET,
DOUBLE LOGICAL AND/OR, DOUBLE LOW/VERTICAL LINE, DOUBLE NESTED GREATER-THAN/LESS-THAN, DOUBLE
NESTED LESS-THAN WITH UNDERBAR, DOUBLE OBLIQUE HYPHEN, DOUBLE RIGHT ARC LESS-THAN BRACKET,
DOUBLE SOLIDUS OPERATOR, DOUBLE SQUARE INTERSECTION/UNION, DOUBLE STACKED COMMA, DOUBLE STROKE
NOT SIGN, DOUBLE SUCCEEDS/SUPERSET/UNION, DOUBLE VERTICAL BAR, DOUBLE VERTICAL BAR DOUBLE
LEFT/RIGHT TURNSTILE, DOUBLE VERTICAL BAR LEFT TURNSTILE, DOUBLE WAVY OVERLINE, DOUBLE-ENDED
MULTIMAP, DOUBLE-LINE EQUAL TO OR GREATER-THAN/LESS-THAN, DOUBLE-LINE SLANTED EQUAL TO OR
GREATER-THAN/LESS-THAN, DOUBLE-LINE SLANTED GREATER-THAN/LESS-THAN OR EQUAL TO, DOUBLE-STRUCK
CAPITAL C/H/N/P/Q/R/Z, DOUBLE-STRUCK CAPITAL/SMALL GAMMA/PI, DOUBLE-STRUCK ITALIC CAPITAL/SMALL
D, DOUBLE-STRUCK ITALIC SMALL E/I/J, DOUBLE-STRUCK N-ARY SUMMATION, DOUBLED FEMALE/MALE SIGN,
DOUBLED SYMBOL, DOUGHNUT, DOVE OF PEACE, DOWN ARROWHEAD/TACK, DOWN FISH TAIL, DOWN RIGHT
DIAGONAL ELLIPSIS, DOWN TACK WITH CIRCLE BELOW, DOWN-POINTING RED TRIANGLE, DOWN-POINTING SMALL
RED TRIANGLE, DOWN-POINTING TRIANGLE WITH LEFT/RIGHT HALF BLACK, DOWNWARD FACING HOOK, DOWNWARD
FACING HOOK WITH DOT, DOWNWARD FACING NOTCHED HOOK, DOWNWARD FACING NOTCHED HOOK WITH DOT,
DOWNWARDS ANCORA/ARROW/ROCKET, DOWNWARDS ARROW AND RIGHT ONE EIGHTH BLOCK, DOWNWARDS ARROW
FROM/TO BAR, DOWNWARDS ARROW LEFTWARDS OF UPWARDS ARROW, DOWNWARDS ARROW WITH CORNER/TIP
LEFTWARDS, DOWNWARDS ARROW WITH DOUBLE/HORIZONTAL STROKE, DOWNWARDS ARROW WITH EQUILATERAL
ARROWHEAD, DOWNWARDS ARROW WITH LARGE/MEDIUM/SMALL TRIANGLE ARROWHEAD, DOWNWARDS ARROW WITH
NOTCHED TAIL, DOWNWARDS ARROW WITH SMALL EQUILATERAL ARROWHEAD, DOWNWARDS ARROW WITH TIP
RIGHTWARDS, DOWNWARDS BLACK CIRCLED WHITE ARROW, DOWNWARDS
BLACK/COMPRESSED/DASHED/DOUBLE/FINGER-POST/HEAVY/QUADRUPLE ARROW, DOWNWARDS HARPOON WITH BARB
LEFT BESIDE DOWNWARDS/UPWARDS HARPOON WITH BARB RIGHT, DOWNWARDS HARPOON WITH BARB LEFT/RIGHT
FROM/TO BAR, DOWNWARDS HARPOON WITH BARB LEFTWARDS/RIGHTWARDS, DOWNWARDS HEAVY COMPRESSED ARROW,
DOWNWARDS PAIRED ARROWS, DOWNWARDS SANS-SERIF/SQUARED/TRIANGLE-HEADED/TRIPLE/WHITE/ZIGZAG ARROW,
DOWNWARDS TRIANGLE ARROWHEAD, DOWNWARDS TRIANGLE-HEADED ARROW LEFTWARDS OF UPWARDS
TRIANGLE-HEADED ARROW, DOWNWARDS TRIANGLE-HEADED ARROW TO BAR, DOWNWARDS TRIANGLE-HEADED ARROW
WITH BOLD/HEAVY/MEDIUM/NARROW SHAFT, DOWNWARDS TRIANGLE-HEADED ARROW WITH DOUBLE HORIZONTAL
STROKE, DOWNWARDS TRIANGLE-HEADED ARROW WITH LONG TIP LEFTWARDS/RIGHTWARDS, DOWNWARDS
TRIANGLE-HEADED ARROW WITH VERY HEAVY SHAFT, DOWNWARDS TRIANGLE-HEADED DASHED/ZIGZAG ARROW,
DOWNWARDS TRIANGLE-HEADED PAIRED ARROWS, DOWNWARDS TWO HEADED ARROW, DOWNWARDS TWO-HEADED ARROW
WITH TRIANGLE ARROWHEADS, DOWNWARDS WHITE ARROW WITHIN TRIANGLE ARROWHEAD, DRACHMA SIGN,
DRAFTING POINT RIGHTWARDS ARROW, DRAGON, DRAGON FACE, DRESS, DRIVE SLOW SIGN, DROMEDARY CAMEL,
DROOLING FACE, DROP OF BLOOD, DROPLET, DRUM WITH DRUMSTICKS, DUCK, DUMPLING, DUPLOYAN AFFIX
ATTACHED E/I/TANGENT HOOK, DUPLOYAN AFFIX ATTACHED LEFT-TO-RIGHT SECANT, DUPLOYAN AFFIX ATTACHED
SECANT/TAIL/TANGENT, DUPLOYAN AFFIX HIGH/LOW ACUTE/CIRCLE/DOT/GRAVE/LINE/VERTICAL/WAVE, DUPLOYAN
AFFIX HIGH/LOW LONG GRAVE, DUPLOYAN AFFIX HIGH/LOW TIGHT ACUTE, DUPLOYAN AFFIX HIGH/LOW/MID
VERTICAL SECANT, DUPLOYAN AFFIX LEFT/MID/RIGHT HORIZONTAL SECANT, DUPLOYAN AFFIX LOW ARROW,
DUPLOYAN DOUBLE MARK, DUPLOYAN LETTER
A/AOU/B/D/DH/E/EE/EU/F/G/H/HL/I/IE/J/K/KK/L/LH/M/N/O/OA/OOH/OU, DUPLOYAN LETTER D/J/M/N/R/S/T S,
DUPLOYAN LETTER F/J/M/P/S/U N, DUPLOYAN LETTER G/K/T R S, DUPLOYAN LETTER J S WITH DOT, DUPLOYAN
LETTER J WITH DOTS INSIDE AND ABOVE, DUPLOYAN LETTER J/K/N/S/VOCALIC M, DUPLOYAN LETTER J/M N S,
DUPLOYAN LETTER J/M/N/S WITH DOT, DUPLOYAN LETTER J/N M S, DUPLOYAN LETTER
LONG/NASAL/ROMANIAN/SHORT I, DUPLOYAN LETTER LONG/NASAL/ROMANIAN/SLOAN U, DUPLOYAN LETTER NASAL
A/O, DUPLOYAN LETTER OW/P/R/RH/S/T/TH/U/UH/UI/V/W/WA/WEI/WH/WI/WO/WOW/X/XW/YE, DUPLOYAN LETTER
PERNIN AM, DUPLOYAN LETTER PERNIN/SLOAN AN, DUPLOYAN LETTER S J S, DUPLOYAN LETTER S K/P/T,
DUPLOYAN LETTER S K/P/T R, DUPLOYAN LETTER S WITH DOT BELOW, DUPLOYAN LETTER S/SLOAN J, DUPLOYAN
LETTER SLOAN DH/EE/EH/EN/ON/OW, DUPLOYAN LETTER W R, DUPLOYAN PUNCTUATION CHINOOK FULL STOP,
DUPLOYAN SIGN O WITH CROSS, DUPLOYAN THICK LETTER SELECTOR, DVD"),
  ('E', "
E-MAIL SYMBOL, EAGLE, EAR, EAR OF MAIZE/RICE, EAR WITH HEARING AID, EARTH, EARTH GLOBE
AMERICAS/ASIA-AUSTRALIA/EUROPE-AFRICA, EARTH GROUND, EAST SYRIAC CROSS, EDITORIAL CORONIS, EGG,
EGYPTIAN HIEROGLYPH A001/A002/A003/A004/A005/A005A/A006/A006A/A006B/A007/A008/A009, EGYPTIAN
HIEROGLYPH A010/A011/A012/A013/A014/A014A/A015/A016/A017/A017A/A018/A019, EGYPTIAN HIEROGLYPH
A020/A021/A022/A023/A024/A025/A026/A027/A028/A029/A030/A031, EGYPTIAN HIEROGLYPH
A032/A032A/A033/A034/A035/A036/A037/A038/A039/A040/A040A/A041, EGYPTIAN HIEROGLYPH
A042/A042A/A043/A043A/A044/A045/A045A/A046/A047/A048/A049/A050, EGYPTIAN HIEROGLYPH
A051/A052/A053/A054/A055/A056/A057/A058/A059/A060/A061/A062, EGYPTIAN HIEROGLYPH
A063/A064/A065/A066/A067/A068/A069/A070/AA001/AA002/AA003/AA004, EGYPTIAN HIEROGLYPH
AA005/AA006/AA007/AA007A/AA007B/AA008/AA009/AA010/AA011/AA012, EGYPTIAN HIEROGLYPH
AA013/AA014/AA015/AA016/AA017/AA018/AA019/AA020/AA021/AA022, EGYPTIAN HIEROGLYPH
AA023/AA024/AA025/AA026/AA027/AA028/AA029/AA030/AA031/AA032, EGYPTIAN HIEROGLYPH
B001/B002/B003/B004/B005/B005A/B006/B007/B008/B009/C001/C002, EGYPTIAN HIEROGLYPH BEGIN/END
SEGMENT, EGYPTIAN HIEROGLYPH C002A/C002B/C002C/C003/C004/C005/C006/C007/C008/C009/C010/C010A,
EGYPTIAN HIEROGLYPH C011/C012/C013/C014/C015/C016/C017/C018/C019/C020/C021/C022, EGYPTIAN
HIEROGLYPH C023/C024/D001/D002/D003/D004/D005/D006/D007/D008/D008A/D009, EGYPTIAN HIEROGLYPH
D010/D011/D012/D013/D014/D015/D016/D017/D018/D019/D020/D021, EGYPTIAN HIEROGLYPH
D022/D023/D024/D025/D026/D027/D027A/D028/D029/D030/D031/D031A, EGYPTIAN HIEROGLYPH
D032/D033/D034/D034A/D035/D036/D037/D038/D039/D040/D041/D042, EGYPTIAN HIEROGLYPH
D043/D044/D045/D046/D046A/D047/D048/D048A/D049/D050/D050A/D050B, EGYPTIAN HIEROGLYPH
D050C/D050D/D050E/D050F/D050G/D050H/D050I/D051/D052/D052A/D053, EGYPTIAN HIEROGLYPH
D054/D054A/D055/D056/D057/D058/D059/D060/D061/D062/D063/D064, EGYPTIAN HIEROGLYPH
D065/D066/D067/D067A/D067B/D067C/D067D/D067E/D067F/D067G/D067H, EGYPTIAN HIEROGLYPH
E001/E002/E003/E004/E005/E006/E007/E008/E008A/E009/E009A/E010, EGYPTIAN HIEROGLYPH
E011/E012/E013/E014/E015/E016/E016A/E017/E017A/E018/E019/E020, EGYPTIAN HIEROGLYPH
E020A/E021/E022/E023/E024/E025/E026/E027/E028/E028A/E029/E030, EGYPTIAN HIEROGLYPH
E031/E032/E033/E034/E034A/E036/E037/E038/F001/F001A/F002/F003, EGYPTIAN HIEROGLYPH
F004/F005/F006/F007/F008/F009/F010/F011/F012/F013/F013A/F014, EGYPTIAN HIEROGLYPH
F015/F016/F017/F018/F019/F020/F021/F021A/F022/F023/F024/F025, EGYPTIAN HIEROGLYPH
F026/F027/F028/F029/F030/F031/F031A/F032/F033/F034/F035/F036, EGYPTIAN HIEROGLYPH
F037/F037A/F038/F038A/F039/F040/F041/F042/F043/F044/F045/F045A, EGYPTIAN HIEROGLYPH
F046/F046A/F047/F047A/F048/F049/F050/F051/F051A/F051B/F051C, EGYPTIAN HIEROGLYPH
F052/F053/G001/G002/G003/G004/G005/G006/G006A/G007/G007A/G007B, EGYPTIAN HIEROGLYPH
G008/G009/G010/G011/G011A/G012/G013/G014/G015/G016/G017/G018, EGYPTIAN HIEROGLYPH
G019/G020/G020A/G021/G022/G023/G024/G025/G026/G026A/G027/G028, EGYPTIAN HIEROGLYPH
G029/G030/G031/G032/G033/G034/G035/G036/G036A/G037/G037A/G038, EGYPTIAN HIEROGLYPH
G039/G040/G041/G042/G043/G043A/G044/G045/G045A/G046/G047/G048, EGYPTIAN HIEROGLYPH
G049/G050/G051/G052/G053/G054/H001/H002/H003/H004/H005/H006, EGYPTIAN HIEROGLYPH
H006A/H007/H008/I001/I002/I003/I004/I005/I005A/I006/I007/I008, EGYPTIAN HIEROGLYPH
HORIZONTAL/VERTICAL JOINER, EGYPTIAN HIEROGLYPH
I009/I009A/I010/I010A/I011/I011A/I012/I013/I014/I015/K001/K002, EGYPTIAN HIEROGLYPH INSERT AT
BOTTOM/TOP END/START, EGYPTIAN HIEROGLYPH
K003/K004/K005/K006/K007/K008/L001/L002/L002A/L003/L004/L005, EGYPTIAN HIEROGLYPH
L006/L006A/L007/L008/M001/M001A/M001B/M002/M003/M003A/M004/M005, EGYPTIAN HIEROGLYPH
M006/M007/M008/M009/M010/M010A/M011/M012/M012A/M012B/M012C, EGYPTIAN HIEROGLYPH
M012D/M012E/M012F/M012G/M012H/M013/M014/M015/M015A/M016/M016A, EGYPTIAN HIEROGLYPH
M017/M017A/M018/M019/M020/M021/M022/M022A/M023/M024/M024A/M025, EGYPTIAN HIEROGLYPH
M026/M027/M028/M028A/M029/M030/M031/M031A/M032/M033/M033A/M033B, EGYPTIAN HIEROGLYPH
M034/M035/M036/M037/M038/M039/M040/M040A/M041/M042/M043/M044, EGYPTIAN HIEROGLYPH
N001/N002/N003/N004/N005/N006/N007/N008/N009/N010/N011/N012, EGYPTIAN HIEROGLYPH
N013/N014/N015/N016/N017/N018/N018A/N018B/N019/N020/N021/N022, EGYPTIAN HIEROGLYPH
N023/N024/N025/N025A/N026/N027/N028/N029/N030/N031/N032/N033, EGYPTIAN HIEROGLYPH
N033A/N034/N034A/N035/N035A/N036/N037/N037A/N038/N039/N040/N041, EGYPTIAN HIEROGLYPH
N042/NL001/NL002/NL003/NL004/NL005/NL005A/NL006/NL007/NL008, EGYPTIAN HIEROGLYPH
NL009/NL010/NL011/NL012/NL013/NL014/NL015/NL016/NL017/NL017A, EGYPTIAN HIEROGLYPH
NL018/NL019/NL020/NU001/NU002/NU003/NU004/NU005/NU006/NU007, EGYPTIAN HIEROGLYPH
NU008/NU009/NU010/NU010A/NU011/NU011A/NU012/NU013/NU014/NU015, EGYPTIAN HIEROGLYPH
NU016/NU017/NU018/NU018A/NU019/NU020/NU021/NU022/NU022A/O001, EGYPTIAN HIEROGLYPH
O001A/O002/O003/O004/O005/O005A/O006/O006A/O006B/O006C/O006D, EGYPTIAN HIEROGLYPH
O006E/O006F/O007/O008/O009/O010/O010A/O010B/O010C/O011/O012, EGYPTIAN HIEROGLYPH
O013/O014/O015/O016/O017/O018/O019/O019A/O020/O020A/O021/O022, EGYPTIAN HIEROGLYPH
O023/O024/O024A/O025/O025A/O026/O027/O028/O029/O029A/O030/O030A, EGYPTIAN HIEROGLYPH
O031/O032/O033/O033A/O034/O035/O036/O036A/O036B/O036C/O036D, EGYPTIAN HIEROGLYPH
O037/O038/O039/O040/O041/O042/O043/O044/O045/O046/O047/O048, EGYPTIAN HIEROGLYPH
O049/O050/O050A/O050B/O051/P001/P001A/P002/P003/P003A/P004/P005, EGYPTIAN HIEROGLYPH OVERLAY
MIDDLE, EGYPTIAN HIEROGLYPH P006/P007/P008/P009/P010/P011/Q001/Q002/Q003/Q004/Q005/Q006,
EGYPTIAN HIEROGLYPH Q007/R001/R002/R002A/R003/R003A/R003B/R004/R005/R006/R007/R008, EGYPTIAN
HIEROGLYPH R009/R010/R010A/R011/R012/R013/R014/R015/R016/R016A/R017/R018, EGYPTIAN HIEROGLYPH
R019/R020/R021/R022/R023/R024/R025/R026/R027/R028/R029/S001, EGYPTIAN HIEROGLYPH
S002/S002A/S003/S004/S005/S006/S006A/S007/S008/S009/S010/S011, EGYPTIAN HIEROGLYPH
S012/S013/S014/S014A/S014B/S015/S016/S017/S017A/S018/S019/S020, EGYPTIAN HIEROGLYPH
S021/S022/S023/S024/S025/S026/S026A/S026B/S027/S028/S029/S030, EGYPTIAN HIEROGLYPH
S031/S032/S033/S034/S035/S035A/S036/S037/S038/S039/S040/S041, EGYPTIAN HIEROGLYPH
S042/S043/S044/S045/S046/T001/T002/T003/T003A/T004/T005/T006, EGYPTIAN HIEROGLYPH
T007/T007A/T008/T008A/T009/T009A/T010/T011/T011A/T012/T013/T014, EGYPTIAN HIEROGLYPH
T015/T016/T016A/T017/T018/T019/T020/T021/T022/T023/T024/T025, EGYPTIAN HIEROGLYPH
T026/T027/T028/T029/T030/T031/T032/T032A/T033/T033A/T034/T035, EGYPTIAN HIEROGLYPH
T036/U001/U002/U003/U004/U005/U006/U006A/U006B/U007/U008/U009, EGYPTIAN HIEROGLYPH
U010/U011/U012/U013/U014/U015/U016/U017/U018/U019/U020/U021, EGYPTIAN HIEROGLYPH
U022/U023/U023A/U024/U025/U026/U027/U028/U029/U029A/U030/U031, EGYPTIAN HIEROGLYPH
U032/U032A/U033/U034/U035/U036/U037/U038/U039/U040/U041/U042, EGYPTIAN HIEROGLYPH
V001/V001A/V001B/V001C/V001D/V001E/V001F/V001G/V001H/V001I/V002, EGYPTIAN HIEROGLYPH
V002A/V003/V004/V005/V006/V007/V007A/V007B/V008/V009/V010/V011, EGYPTIAN HIEROGLYPH
V011A/V011B/V011C/V012/V012A/V012B/V013/V014/V015/V016/V017, EGYPTIAN HIEROGLYPH
V018/V019/V020/V020A/V020B/V020C/V020D/V020E/V020F/V020G/V020H, EGYPTIAN HIEROGLYPH
V020I/V020J/V020K/V020L/V021/V022/V023/V023A/V024/V025/V026, EGYPTIAN HIEROGLYPH
V027/V028/V028A/V029/V029A/V030/V030A/V031/V031A/V032/V033, EGYPTIAN HIEROGLYPH
V033A/V034/V035/V036/V037/V037A/V038/V039/V040/V040A/W001/W002, EGYPTIAN HIEROGLYPH
W003/W003A/W004/W005/W006/W007/W008/W009/W009A/W010/W010A/W011, EGYPTIAN HIEROGLYPH
W012/W013/W014/W014A/W015/W016/W017/W017A/W018/W018A/W019/W020, EGYPTIAN HIEROGLYPH
W021/W022/W023/W024/W024A/W025/X001/X002/X003/X004/X004A/X004B, EGYPTIAN HIEROGLYPH
X005/X006/X006A/X007/X008/X008A/Y001/Y001A/Y002/Y003/Y004/Y005, EGYPTIAN HIEROGLYPH
Y006/Y007/Y008/Z001/Z002/Z002A/Z002B/Z002C/Z002D/Z003/Z003A, EGYPTIAN HIEROGLYPH
Z003B/Z004/Z004A/Z005/Z005A/Z006/Z007/Z008/Z009/Z010/Z011/Z012, EGYPTIAN HIEROGLYPH
Z013/Z014/Z015/Z015A/Z015B/Z015C/Z015D/Z015E/Z015F/Z015G/Z015H, EGYPTIAN HIEROGLYPH
Z015I/Z016/Z016A/Z016B/Z016C/Z016D/Z016E/Z016F/Z016G/Z016H, EIGHT PETALLED OUTLINED BLACK
FLORETTE, EIGHT POINTED BLACK/PINWHEEL STAR, EIGHT POINTED RECTILINEAR BLACK STAR, EIGHT SPOKED
ASTERISK, EIGHT TEARDROP-SPOKED PROPELLER ASTERISK, EIGHTH NOTE, EJECT SYMBOL, ELBASAN LETTER
A/BE/CE/CHE/DE/DHE/E/EI/FE/GE/GHAMMA/GHE/GJE/HE/I/JE/KE/KHE/LE, ELBASAN LETTER
LLE/ME/NA/NDE/NE/NJE/O/PE/QE/RE/RRE/SE/SHE/TE/THE/U/VE/XE/Y/ZE, ELBASAN LETTER ZHE, ELECTRIC
ARROW/PLUG/TORCH, ELECTRIC LIGHT BULB, ELECTRICAL INTERSECTION, ELEMENT OF, ELEMENT OF OPENING
DOWNWARDS/UPWARDS, ELEMENT OF WITH DOT ABOVE, ELEMENT OF WITH LONG HORIZONTAL STROKE, ELEMENT OF
WITH OVERBAR/UNDERBAR, ELEMENT OF WITH TWO HORIZONTAL STROKES, ELEMENT OF WITH VERTICAL BAR AT
END OF HORIZONTAL STROKE, ELEPHANT, ELEVATOR, ELF, ELYMAIC LETTER
ALEPH/AYIN/BETH/DALETH/GIMEL/HE/HETH/KAPH/LAMEDH/MEM/NUN/PE, ELYMAIC LETTER
QOPH/RESH/SADHE/SAMEKH/SHIN/TAW/TETH/WAW/YODH/ZAYIN, ELYMAIC LIGATURE ZAYIN-YODH, EM
DASH/QUAD/SPACE, EMOJI COMPONENT BALD, EMOJI COMPONENT CURLY/RED/WHITE HAIR, EMOJI MODIFIER
FITZPATRICK TYPE-1-2/TYPE-3/TYPE-4/TYPE-5/TYPE-6, EMPHASIS SYMBOL, EMPTY
DOCUMENT/NEST/NOTE/PAGE/PAGES/SET, EMPTY NOTE PAD/PAGE, EMPTY SET WITH LEFT/RIGHT ARROW ABOVE,
EMPTY SET WITH OVERBAR, EMPTY SET WITH SMALL CIRCLE ABOVE, EN DASH/QUAD/SPACE, END OF
GUARDED/PROTECTED/SELECTED AREA, END OF LINE/MEDIUM/PROOF/TEXT/TRANSMISSION, END OF TRANSMISSION
BLOCK, END WITH LEFTWARDS ARROW ABOVE, ENQ, ENQUIRY, ENTER SYMBOL, ENVELOPE, ENVELOPE WITH
DOWNWARDS ARROW ABOVE, ENVELOPE WITH LIGHTNING, EOL, EOM, EOT, EPA, EQUAL AND PARALLEL TO, EQUAL
TO BY DEFINITION, EQUAL TO OR GREATER-THAN/LESS-THAN/PRECEDES/SUCCEEDS, EQUALS COLON/SIGN,
EQUALS SIGN ABOVE LEFTWARDS/RIGHTWARDS ARROW, EQUALS SIGN ABOVE PLUS SIGN, EQUALS SIGN ABOVE
TILDE OPERATOR, EQUALS SIGN AND SLANTED PARALLEL, EQUALS SIGN AND SLANTED PARALLEL WITH TILDE
ABOVE, EQUALS SIGN WITH BUMPY ABOVE, EQUALS SIGN WITH DOT/INFINITY BELOW, EQUALS SIGN WITH TWO
DOTS ABOVE AND TWO DOTS BELOW, EQUALS WITH ASTERISK, EQUIANGULAR TO, EQUIVALENT TO, EQUIVALENT
WITH FOUR DOTS ABOVE, ERASE TO THE LEFT/RIGHT, ERIS FORM ONE/TWO, ERROR-BARRED BLACK/WHITE
CIRCLE/DIAMOND/SQUARE, ESA, ESC, ESCAPE, ESTIMATED SYMBOL, ESTIMATES, ETB, ETHIOPIC
COLON/COMMA/SEMICOLON/WORDSPACE, ETHIOPIC COMBINING GEMINATION AND VOWEL LENGTH MARK, ETHIOPIC
COMBINING GEMINATION MARK, ETHIOPIC COMBINING VOWEL LENGTH MARK, ETHIOPIC DIGIT
EIGHT/FIVE/FOUR/NINE/ONE/SEVEN/SIX/THREE/TWO, ETHIOPIC FULL STOP, ETHIOPIC NUMBER
EIGHTY/FIFTY/FORTY/HUNDRED/NINETY/SEVENTY/SIXTY/TEN/THIRTY, ETHIOPIC NUMBER TEN THOUSAND,
ETHIOPIC NUMBER TWENTY, ETHIOPIC PARAGRAPH SEPARATOR, ETHIOPIC PREFACE COLON, ETHIOPIC
QUESTION/SECTION MARK, ETHIOPIC SYLLABLE
BA/BAA/BBA/BBAA/BBE/BBEE/BBI/BBO/BBU/BE/BEE/BI/BO/BOA/BU/BWA, ETHIOPIC SYLLABLE
BWE/BWEE/BWI/CA/CAA/CCA/CCAA/CCE/CCEE/CCHA/CCHAA/CCHE/CCHEE, ETHIOPIC SYLLABLE
CCHHA/CCHHAA/CCHHE/CCHHEE/CCHHI/CCHHO/CCHHU/CCHI/CCHO/CCHU/CCI, ETHIOPIC SYLLABLE
CCO/CCU/CE/CEE/CHA/CHAA/CHE/CHEE/CHI/CHO/CHOA/CHU/CHWA/CI/CO, ETHIOPIC SYLLABLE
COA/CU/CWA/DA/DAA/DDA/DDAA/DDE/DDEE/DDHAA/DDHE/DDHEE/DDHI/DDHO, ETHIOPIC SYLLABLE
DDHU/DDI/DDO/DDOA/DDU/DDWA/DE/DEE/DI/DO/DOA/DU/DWA/DZAA/DZE, ETHIOPIC SYLLABLE
DZEE/DZI/DZO/DZU/FA/FAA/FE/FEE/FI/FO/FU/FWA/FWE/FWEE/FWI/FYA/GA, ETHIOPIC SYLLABLE
GAA/GE/GEE/GGA/GGAA/GGE/GGEE/GGI/GGO/GGU/GGWA/GGWAA/GGWE/GGWEE, ETHIOPIC SYLLABLE
GGWI/GI/GO/GOA/GU/GWA/GWAA/GWE/GWEE/GWI/GYA/GYAA/GYE/GYEE/GYI, ETHIOPIC SYLLABLE GLOTTAL OA/WA,
ETHIOPIC SYLLABLE GLOTTAL/PHARYNGEAL A/AA/E/EE/I/O/U, ETHIOPIC SYLLABLE GURAGE
BWEE/BWI/FWEE/FWI/GWE/GWEE/GWI/HHWA/KWE/KWEE/KWI/MWEE/MWI/PWEE, ETHIOPIC SYLLABLE GURAGE
PWI/QWE/QWEE/QWI, ETHIOPIC SYLLABLE
GYO/GYU/HA/HAA/HE/HEE/HHA/HHAA/HHE/HHEE/HHI/HHO/HHU/HHWA/HHWE, ETHIOPIC SYLLABLE
HHWEE/HHWI/HHYA/HHYAA/HHYE/HHYEE/HHYI/HHYO/HHYU/HI/HO/HOA/HU/JA, ETHIOPIC SYLLABLE
JAA/JE/JEE/JI/JO/JOA/JU/JWA/KA/KAA/KE/KEE/KI/KO/KOA/KU/KWA/KWAA, ETHIOPIC SYLLABLE
KWE/KWEE/KWI/KXA/KXAA/KXE/KXEE/KXI/KXO/KXU/KXWA/KXWAA/KXWE, ETHIOPIC SYLLABLE
KXWEE/KXWI/KYA/KYAA/KYE/KYEE/KYI/KYO/KYU/LA/LAA/LE/LEE/LI/LO, ETHIOPIC SYLLABLE
LOA/LU/LWA/MA/MAA/ME/MEE/MI/MO/MOA/MU/MWA/MWE/MWEE/MWI/MYA/NA, ETHIOPIC SYLLABLE
NAA/NE/NEE/NI/NO/NOA/NU/NWA/NYA/NYAA/NYE/NYEE/NYI/NYO/NYOA/NYU, ETHIOPIC SYLLABLE
NYWA/PA/PAA/PE/PEE/PHA/PHAA/PHE/PHEE/PHI/PHO/PHOA/PHU/PHWA/PI, ETHIOPIC SYLLABLE
PO/POA/PU/PWA/PWE/PWEE/PWI/QA/QAA/QE/QEE/QHA/QHAA/QHE/QHEE/QHI, ETHIOPIC SYLLABLE
QHO/QHU/QHWA/QHWAA/QHWE/QHWEE/QHWI/QI/QO/QOA/QU/QWA/QWAA/QWE, ETHIOPIC SYLLABLE
QWEE/QWI/QYA/QYAA/QYE/QYEE/QYI/QYO/QYU/RA/RAA/RE/REE/RI/RO/ROA, ETHIOPIC SYLLABLE
RU/RWA/RYA/SA/SAA/SE/SEE/SHA/SHAA/SHE/SHEE/SHI/SHO/SHOA/SHU, ETHIOPIC SYLLABLE SEBATBEIT
BWA/FWA/MWA/PWA, ETHIOPIC SYLLABLE SHWA/SI/SO/SOA/SSA/SSAA/SSE/SSEE/SSI/SSO/SSU/SU/SWA/SZA/SZAA,
ETHIOPIC SYLLABLE SZE/SZEE/SZI/SZO/SZU/SZWA/TA/TAA/TE/TEE/THA/THAA/THE/THEE/THI, ETHIOPIC
SYLLABLE THO/THOA/THU/THWA/TI/TO/TOA/TSA/TSAA/TSE/TSEE/TSI/TSO/TSU/TSWA, ETHIOPIC SYLLABLE
TTHAA/TTHE/TTHEE/TTHI/TTHO/TTHU/TU/TWA/TZA/TZAA/TZE/TZEE/TZI, ETHIOPIC SYLLABLE
TZO/TZOA/TZU/VA/VAA/VE/VEE/VI/VO/VU/VWA/WA/WAA/WE/WEE/WI/WO/WOA, ETHIOPIC SYLLABLE
WU/XA/XAA/XE/XEE/XI/XO/XOA/XU/XWA/XWAA/XWE/XWEE/XWI/XYA/XYAA, ETHIOPIC SYLLABLE
XYE/XYEE/XYI/XYO/XYU/YA/YAA/YE/YEE/YI/YO/YOA/YU/ZA/ZAA/ZE/ZEE, ETHIOPIC SYLLABLE
ZHA/ZHAA/ZHE/ZHEE/ZHI/ZHO/ZHU/ZHWA/ZI/ZO/ZOA/ZU/ZWA/ZZA/ZZAA, ETHIOPIC SYLLABLE
ZZE/ZZEE/ZZI/ZZO/ZZU, ETHIOPIC TONAL MARK
CHIRET/DERET/DERET-HIDET/DIFAT/HIDET/KENAT/KURT/RIKRIK/YIZET, ETHIOPIC TONAL MARK SHORT RIKRIK,
ETX, EULER CONSTANT, EURO SIGN, EURO-CURRENCY SIGN, EUROPEAN CASTLE, EUROPEAN POST OFFICE,
EVERGREEN TREE, EXCESS, EXCLAMATION MARK, EXCLAMATION QUESTION MARK, EXPRESSIONLESS FACE,
EXTENDED ARABIC-INDIC DIGIT EIGHT/FIVE/FOUR/NINE/ONE/SEVEN/SIX/THREE/TWO/ZERO, EXTRATERRESTRIAL
ALIEN, EXTREMELY HEAVY FIVE/SIX SPOKED ASTERISK, EXTREMELY HEAVY GREEK CROSS, EXTREMELY HEAVY
SALTIRE, EXTREMELY HEAVY WHITE CIRCLE/SQUARE, EYE, EYEGLASSES, EYES"),
  ('F', "
FACE HOLDING BACK TEARS, FACE MASSAGE/PALM, FACE SAVOURING DELICIOUS FOOD, FACE SCREAMING IN
FEAR, FACE THROWING A KISS, FACE WITH COLD SWEAT, FACE WITH COWBOY HAT, FACE WITH DIAGONAL/OPEN
MOUTH, FACE WITH FINGER COVERING CLOSED LIPS, FACE WITH HEAD-BANDAGE/MONOCLE/THERMOMETER, FACE
WITH LOOK OF TRIUMPH, FACE WITH MEDICAL MASK, FACE WITH NO GOOD GESTURE, FACE WITH OK GESTURE,
FACE WITH ONE EYEBROW RAISED, FACE WITH OPEN EYES AND HAND OVER MOUTH, FACE WITH OPEN MOUTH AND
COLD SWEAT, FACE WITH OPEN MOUTH VOMITING, FACE WITH PARTY HORN AND PARTY HAT, FACE WITH PEEKING
EYE, FACE WITH PLEADING/ROLLING EYES, FACE WITH STUCK-OUT TONGUE, FACE WITH STUCK-OUT TONGUE AND
TIGHTLY-CLOSED EYES, FACE WITH STUCK-OUT TONGUE AND WINKING EYE, FACE WITH TEARS OF JOY, FACE
WITH UNEVEN EYES AND WAVY MOUTH, FACE WITHOUT MOUTH, FACSIMILE SIGN, FACTORY, FAIRY, FALAFEL,
FALLEN LEAF, FALLING DIAGONAL CROSSING NORTH EAST ARROW, FALLING DIAGONAL CROSSING RISING
DIAGONAL, FALLING DIAGONAL IN WHITE CIRCLE IN BLACK SQUARE, FAMILY, FARSI SYMBOL, FATHER
CHRISTMAS, FAX ICON/MACHINE, FEARFUL FACE, FEATHER, FEMALE SIGN, FEMININE ORDINAL INDICATOR,
FENCER, FERRIS WHEEL, FERRY, FF, FIELD HOCKEY STICK AND BALL, FIGURE DASH/SPACE, FILE
CABINET/FOLDER/SEPARATOR, FILM FRAMES/PROJECTOR, FINITE PART INTEGRAL, FIRE, FIRE
ENGINE/EXTINGUISHER, FIRECRACKER, FIREWORK SPARKLER, FIREWORKS, FIRST PLACE MEDAL, FIRST QUARTER
MOON, FIRST QUARTER MOON SYMBOL, FIRST QUARTER MOON WITH FACE, FIRST STRONG ISOLATE, FISH, FISH
CAKE WITH SWIRL DESIGN, FISHEYE, FISHING POLE AND FISH, FISTED HAND SIGN, FIVE DOT
MARK/PUNCTUATION, FLAG IN HOLE, FLAMINGO, FLAT SHOE, FLATBREAD, FLATNESS, FLEUR-DE-LIS, FLEXED
BICEPS, FLOPPY DISK, FLORAL HEART, FLOWER, FLOWER PLAYING CARDS, FLOWER PUNCTUATION MARK,
FLUSHED FACE, FLY, FLYING DISC/ENVELOPE/SAUCER, FOG, FOGGY, FOLDER, FONDUE, FOOT, FOOTPRINTS,
FOR ALL, FORCES, FORK AND KNIFE, FORK AND KNIFE WITH PLATE, FORKED PARAGRAPHOS, FORKING, FORM
FEED, FORTUNE COOKIE, FOUNTAIN, FOUR BALLOON-SPOKED/CLUB-SPOKED/TEARDROP-SPOKED ASTERISK, FOUR
CORNER ARROWS CIRCLING ANTICLOCKWISE, FOUR DOT MARK/PUNCTUATION, FOUR LEAF CLOVER, FOUR POINTED
BLACK STAR, FOUR-PER-EM SPACE, FOURTH ROOT, FOX FACE, FRACTION NUMERATOR ONE, FRACTION SLASH,
FRAME WITH AN X, FRAME WITH PICTURE/TILES, FREEZING FACE, FRENCH FRANC SIGN, FRENCH FRIES, FRIED
SHRIMP, FROG FACE, FRONT-FACING BABY CHICK, FRONT-TILTED SHADOWED WHITE RIGHTWARDS ARROW, FROWN,
FROWNING FACE WITH OPEN MOUTH, FS, FSI, FUEL PUMP, FULL BLOCK/STOP, FULL MOON SYMBOL, FULL MOON
WITH FACE, FULL OUTER JOIN, FULLWIDTH
AMPERSAND/APOSTROPHE/ASTERISK/COLON/COMMA/HYPHEN-MINUS/MACRON, FULLWIDTH BROKEN BAR, FULLWIDTH
CENT/DOLLAR/EQUALS/GREATER-THAN/LESS-THAN/NOT/NUMBER/PERCENT SIGN, FULLWIDTH CIRCUMFLEX/GRAVE
ACCENT, FULLWIDTH COMMERCIAL AT, FULLWIDTH DIGIT
EIGHT/FIVE/FOUR/NINE/ONE/SEVEN/SIX/THREE/TWO/ZERO, FULLWIDTH EXCLAMATION/QUESTION/QUOTATION
MARK, FULLWIDTH FULL STOP, FULLWIDTH LATIN CAPITAL/SMALL LETTER
A/B/C/D/E/F/G/H/I/J/K/L/M/N/O/P/Q/R/S/T/U/V/W/X/Y/Z, FULLWIDTH LEFT/RIGHT CURLY/SQUARE BRACKET,
FULLWIDTH LEFT/RIGHT PARENTHESIS, FULLWIDTH LEFT/RIGHT WHITE PARENTHESIS, FULLWIDTH LOW/VERTICAL
LINE, FULLWIDTH PLUS/POUND/WON/YEN SIGN, FULLWIDTH REVERSE SOLIDUS, FULLWIDTH
SEMICOLON/SOLIDUS/TILDE, FUNCTION APPLICATION, FUNERAL URN, FUSE, FVS1, FVS2, FVS3, FVS4"),
  ('G', "
GAME DIE, GARLIC, GEAR, GEAR WITH HANDLES, GEAR WITHOUT HUB, GEM STONE, GEMINI, GENIE, GEOMETRIC
PROPORTION, GEOMETRICALLY EQUAL/EQUIVALENT TO, GEORGIAN CAPITAL/SMALL LETTER
AEN/AN/BAN/CAN/CHAR/CHIN/CIL/DON/EN/GAN/GHAN/HAE/HAR/HE/HIE/HOE, GEORGIAN CAPITAL/SMALL LETTER
IN/JHAN/JIL/KAN/KHAR/LAS/MAN/NAR/ON/PAR/PHAR/QAR/RAE/SAN/SHIN, GEORGIAN CAPITAL/SMALL LETTER
TAN/TAR/UN/VIN/WE/XAN/YN/ZEN/ZHAR, GEORGIAN LETTER
AEN/AIN/AN/BAN/CAN/CHAR/CHIN/CIL/DON/ELIFI/EN/FI/GAN/GHAN/HAE, GEORGIAN LETTER
HAR/HE/HIE/HOE/IN/JHAN/JIL/KAN/KHAR/LAS/MAN/NAR/ON/PAR/PHAR/QAR, GEORGIAN LETTER HARD/LABIAL
SIGN, GEORGIAN LETTER RAE/SAN/SHIN/TAN/TAR/UN/VIN/WE/XAN/YN/ZEN/ZHAR, GEORGIAN LETTER TURNED
GAN, GEORGIAN MTAVRULI CAPITAL LETTER
AEN/AIN/AN/BAN/CAN/CHAR/CHIN/CIL/DON/ELIFI/EN/FI/GAN/GHAN/HAE, GEORGIAN MTAVRULI CAPITAL LETTER
HAR/HE/HIE/HOE/IN/JHAN/JIL/KAN/KHAR/LAS/MAN/NAR/ON/PAR/PHAR/QAR, GEORGIAN MTAVRULI CAPITAL
LETTER HARD/LABIAL SIGN, GEORGIAN MTAVRULI CAPITAL LETTER
RAE/SAN/SHIN/TAN/TAR/UN/VIN/WE/XAN/YN/ZEN/ZHAR, GEORGIAN MTAVRULI CAPITAL LETTER TURNED GAN,
GEORGIAN PARAGRAPH SEPARATOR, GERMAN PENNY SIGN, GETA MARK, GHOST, GIMEL SYMBOL, GIRAFFE FACE,
GIRL, GIRLS SYMBOL, GLAGOLITIC CAPITAL/SMALL LETTER
AZU/BUKY/CHRIVI/DJERVI/DOBRO/DZELO/FITA/FRITU/GLAGOLI/HERU/I, GLAGOLITIC CAPITAL/SMALL LETTER
BIG/SMALL YUS, GLAGOLITIC CAPITAL/SMALL LETTER CAUDATE CHRIVI, GLAGOLITIC CAPITAL/SMALL LETTER
INITIAL IZHE, GLAGOLITIC CAPITAL/SMALL LETTER IOTATED BIG/SMALL YUS, GLAGOLITIC CAPITAL/SMALL
LETTER IZHE/IZHITSA/KAKO/LJUDIJE/MYSLITE/NASHI/ONU/OTU/PE/POKOJI/RITSI, GLAGOLITIC CAPITAL/SMALL
LETTER LATINATE MYSLITE, GLAGOLITIC CAPITAL/SMALL LETTER
SHA/SHTA/SHTAPIC/SLOVO/TSI/TVRIDO/UKU/VEDE/YATI/YERI/YERU/YESTU, GLAGOLITIC CAPITAL/SMALL LETTER
SMALL YUS WITH TAIL, GLAGOLITIC CAPITAL/SMALL LETTER SPIDERY HA, GLAGOLITIC CAPITAL/SMALL LETTER
TROKUTASTI A, GLAGOLITIC CAPITAL/SMALL LETTER YO/YU/ZEMLJA/ZHIVETE, GLASS OF MILK, GLEICH STARK,
GLOBE WITH MERIDIANS, GLOVES, GLOWING STAR, GOAL NET, GOAT, GOGGLES, GOLFER, GORILLA, GOTHIC
LETTER AHSA/AIHVUS/BAIRKAN/DAGS/EIS/FAIHU/GIBA/HAGL/HWAIR/IGGWS/IUJA, GOTHIC LETTER
JER/KUSMA/LAGUS/MANNA/NAUTHS/NINETY/OTHAL/PAIRTHRA/QAIRTHRA, GOTHIC LETTER NINE HUNDRED, GOTHIC
LETTER RAIDA/SAUIL/TEIWS/THIUTH/URUS/WINJA, GRADUATION CAP, GRANTHA AU LENGTH MARK, GRANTHA
LETTER A/AA/AI/AU/BA/BHA/CA/CHA/DA/DDA/DDHA/DHA/EE/GA/GHA/HA/I/II/JA, GRANTHA LETTER
JHA/KA/KHA/LA/LLA/MA/NA/NGA/NNA/NYA/OO/PA/PHA/RA/SA/SHA/SSA/TA, GRANTHA LETTER
THA/TTA/TTHA/U/UU/VA/YA, GRANTHA LETTER VEDIC ANUSVARA, GRANTHA LETTER VEDIC DOUBLE ANUSVARA,
GRANTHA LETTER VOCALIC L/LL/R/RR, GRANTHA OM, GRANTHA SIGN
ANUSVARA/AVAGRAHA/CANDRABINDU/NUKTA/PLUTA/VIRAMA/VISARGA, GRANTHA SIGN COMBINING ANUSVARA ABOVE,
GRANTHA VOWEL SIGN AA/AI/AU/EE/I/II/OO/U/UU, GRANTHA VOWEL SIGN VOCALIC L/LL/R/RR, GRAPES, GRAVE
ACCENT, GREATER-THAN ABOVE DOUBLE-LINE EQUAL ABOVE LESS-THAN, GREATER-THAN ABOVE LESS-THAN ABOVE
DOUBLE-LINE EQUAL, GREATER-THAN ABOVE RIGHTWARDS ARROW, GREATER-THAN ABOVE SIMILAR ABOVE
LESS-THAN, GREATER-THAN ABOVE SIMILAR OR EQUAL, GREATER-THAN ABOVE SLANTED EQUAL ABOVE LESS-THAN
ABOVE SLANTED EQUAL, GREATER-THAN AND NOT APPROXIMATE, GREATER-THAN AND SINGLE-LINE NOT EQUAL
TO, GREATER-THAN BESIDE/OR/OVERLAPPING LESS-THAN, GREATER-THAN BUT NOT EQUAL/EQUIVALENT TO,
GREATER-THAN CLOSED BY CURVE, GREATER-THAN CLOSED BY CURVE ABOVE SLANTED EQUAL, GREATER-THAN
EQUAL TO OR LESS-THAN, GREATER-THAN OR APPROXIMATE, GREATER-THAN OR EQUIVALENT TO, GREATER-THAN
OR SLANTED EQUAL TO, GREATER-THAN OR SLANTED EQUAL TO WITH DOT ABOVE LEFT, GREATER-THAN OR
SLANTED EQUAL TO WITH DOT ABOVE/INSIDE, GREATER-THAN OR/OVER EQUAL TO, GREATER-THAN SIGN,
GREATER-THAN WITH CIRCLE INSIDE, GREATER-THAN WITH DOT, GREATER-THAN WITH QUESTION MARK ABOVE,
GREEK ACROPHONIC ATTIC FIFTY THOUSAND, GREEK ACROPHONIC ATTIC FIFTY/FIVE/TEN STATERS/TALENTS,
GREEK ACROPHONIC ATTIC FIFTY/ONE/TEN THOUSAND STATERS, GREEK ACROPHONIC ATTIC FIVE/ONE HUNDRED
STATERS, GREEK ACROPHONIC ATTIC FIVE/ONE HUNDRED/THOUSAND TALENTS, GREEK ACROPHONIC ATTIC ONE
DRACHMA/HALF/QUARTER, GREEK ACROPHONIC ATTIC TEN MNAS, GREEK ACROPHONIC
ATTIC/CARYSTIAN/EPIDAUREAN/NAXIAN/THESPIAN/TROEZENIAN FIVE HUNDRED, GREEK ACROPHONIC
ATTIC/HERMIONIAN/THESPIAN/TROEZENIAN FIFTY, GREEK ACROPHONIC ATTIC/THESPIAN FIVE THOUSAND, GREEK
ACROPHONIC ATTIC/TROEZENIAN FIVE, GREEK ACROPHONIC CYRENAIC/EPIDAUREAN TWO DRACHMAS, GREEK
ACROPHONIC DELPHIC FIVE MNAS, GREEK ACROPHONIC EPIDAUREAN/THESPIAN TWO, GREEK ACROPHONIC HERAEUM
ONE PLETHRON, GREEK ACROPHONIC HERMIONIAN/MESSENIAN/THESPIAN/TROEZENIAN TEN, GREEK ACROPHONIC
HERMIONIAN/THESPIAN ONE, GREEK ACROPHONIC STRATIAN FIFTY MNAS, GREEK ACROPHONIC THESPIAN ONE
THOUSAND, GREEK ACROPHONIC THESPIAN ONE/THREE HUNDRED, GREEK ACROPHONIC THESPIAN THIRTY, GREEK
ACROPHONIC TROEZENIAN FIFTY/TEN ALTERNATE FORM, GREEK ANO TELEIA, GREEK
AROURA/ARTABE/DRACHMA/GRAMMA/INDICTION/LITRA/METRETES/NUMERAL SIGN, GREEK
BETA/KAI/KAPPA/PHI/PI/RHO/THETA SYMBOL, GREEK CAPITAL KAI/THETA SYMBOL, GREEK CAPITAL LETTER
ALPHA/ETA/OMEGA WITH DASIA/PSILI AND OXIA/PERISPOMENI/VARIA AND PROSGEGRAMMENI, GREEK CAPITAL
LETTER ALPHA/ETA/OMEGA WITH DASIA/PSILI AND PROSGEGRAMMENI, GREEK CAPITAL LETTER ALPHA/ETA/OMEGA
WITH PROSGEGRAMMENI, GREEK CAPITAL LETTER YOT, GREEK CAPITAL LUNATE SIGMA SYMBOL, GREEK
CAPITAL/SMALL DOTTED/REVERSED LUNATE SIGMA SYMBOL, GREEK CAPITAL/SMALL LETTER
ALPHA/BETA/CHI/DELTA/EPSILON/ETA/GAMMA/HETA/IOTA/KAPPA/LAMDA/MU, GREEK CAPITAL/SMALL LETTER
ALPHA/EPSILON/ETA/IOTA/OMEGA/OMICRON WITH PSILI, GREEK CAPITAL/SMALL LETTER
ALPHA/EPSILON/ETA/IOTA/OMEGA/OMICRON WITH PSILI AND OXIA/VARIA, GREEK CAPITAL/SMALL LETTER
ALPHA/EPSILON/ETA/IOTA/OMEGA/OMICRON/RHO/UPSILON WITH DASIA, GREEK CAPITAL/SMALL LETTER
ALPHA/EPSILON/ETA/IOTA/OMEGA/OMICRON/UPSILON WITH DASIA AND OXIA/VARIA, GREEK CAPITAL/SMALL
LETTER ALPHA/EPSILON/ETA/IOTA/OMEGA/OMICRON/UPSILON WITH OXIA/TONOS/VARIA, GREEK CAPITAL/SMALL
LETTER ALPHA/ETA/IOTA/OMEGA WITH PSILI AND PERISPOMENI, GREEK CAPITAL/SMALL LETTER
ALPHA/ETA/IOTA/OMEGA/UPSILON WITH DASIA AND PERISPOMENI, GREEK CAPITAL/SMALL LETTER
ALPHA/IOTA/UPSILON WITH MACRON/VRACHY, GREEK CAPITAL/SMALL LETTER ARCHAIC SAMPI, GREEK
CAPITAL/SMALL LETTER IOTA/UPSILON WITH DIALYTIKA, GREEK CAPITAL/SMALL LETTER
NU/OMEGA/OMICRON/PHI/PI/PSI/RHO/SAN/SHO/SIGMA/TAU/THETA/UPSILON, GREEK CAPITAL/SMALL LETTER
PAMPHYLIAN DIGAMMA, GREEK CAPITAL/SMALL LETTER XI/ZETA, GREEK CAPITAL/SMALL REVERSED DOTTED
LUNATE SIGMA SYMBOL, GREEK DASIA/DIALYTIKA/PSILI AND OXIA/PERISPOMENI/VARIA, GREEK
DASIA/KORONIS/OXIA/PERISPOMENI/PROSGEGRAMMENI/PSILI/TONOS/VARIA, GREEK DIALYTIKA TONOS, GREEK
FIVE/FOUR/THREE/TWO OBOLS SIGN, GREEK INSTRUMENTAL NOTATION
SYMBOL-25/SYMBOL-26/SYMBOL-27/SYMBOL-29/SYMBOL-30/SYMBOL-32, GREEK INSTRUMENTAL NOTATION
SYMBOL-36/SYMBOL-37/SYMBOL-38/SYMBOL-39/SYMBOL-40/SYMBOL-42, GREEK INSTRUMENTAL NOTATION
SYMBOL-43/SYMBOL-45/SYMBOL-47/SYMBOL-48/SYMBOL-49, GREEK INSTRUMENTAL/VOCAL NOTATION
SYMBOL-1/SYMBOL-11/SYMBOL-12/SYMBOL-13/SYMBOL-14/SYMBOL-17, GREEK INSTRUMENTAL/VOCAL NOTATION
SYMBOL-18/SYMBOL-19/SYMBOL-2/SYMBOL-23/SYMBOL-24/SYMBOL-4, GREEK INSTRUMENTAL/VOCAL NOTATION
SYMBOL-5/SYMBOL-50/SYMBOL-51/SYMBOL-52/SYMBOL-53/SYMBOL-54, GREEK INSTRUMENTAL/VOCAL NOTATION
SYMBOL-7/SYMBOL-8, GREEK KYATHOS/TRYBLION BASE SIGN, GREEK LETTER ARCHAIC KOPPA, GREEK LETTER
DIGAMMA/KOPPA/SAMPI/STIGMA/YOT, GREEK LETTER SMALL CAPITAL GAMMA/LAMDA/OMEGA/PI/PSI/RHO, GREEK
LOWER NUMERAL SIGN, GREEK LUNATE EPSILON/SIGMA SYMBOL, GREEK MUSICAL LEIMMA, GREEK
OBOL/OUNKIA/SINUSOID/TALENT/XESTES/YEAR/ZERO SIGN, GREEK ONE HALF SIGN ALTERNATE FORM, GREEK ONE
HALF/QUARTER SIGN, GREEK QUESTION MARK, GREEK REVERSED LUNATE EPSILON SYMBOL, GREEK RHO WITH
STROKE SYMBOL, GREEK SMALL LETTER ALPHA/ETA/IOTA/OMEGA/UPSILON WITH PERISPOMENI, GREEK SMALL
LETTER ALPHA/ETA/OMEGA WITH DASIA/OXIA/PERISPOMENI/PSILI/VARIA AND YPOGEGRAMMENI, GREEK SMALL
LETTER ALPHA/ETA/OMEGA WITH DASIA/PSILI AND OXIA/PERISPOMENI/VARIA AND YPOGEGRAMMENI, GREEK
SMALL LETTER ALPHA/ETA/OMEGA WITH YPOGEGRAMMENI, GREEK SMALL LETTER ARCHAIC KOPPA, GREEK SMALL
LETTER DIGAMMA/KOPPA/SAMPI/STIGMA, GREEK SMALL LETTER FINAL SIGMA, GREEK SMALL LETTER
IOTA/UPSILON WITH DIALYTIKA AND OXIA/PERISPOMENI/TONOS/VARIA, GREEK SMALL LETTER RHO/UPSILON
WITH PSILI, GREEK SMALL LETTER UPSILON WITH PSILI AND OXIA/PERISPOMENI/VARIA, GREEK SUBSCRIPT
SMALL LETTER BETA/CHI/GAMMA/PHI/RHO, GREEK SYMBOL TAU RHO, GREEK THREE QUARTERS SIGN, GREEK TWO
THIRDS SIGN, GREEK UPSILON WITH ACUTE/DIAERESIS AND HOOK SYMBOL, GREEK UPSILON WITH HOOK SYMBOL,
GREEK VOCAL NOTATION SYMBOL-10/SYMBOL-15/SYMBOL-16/SYMBOL-20/SYMBOL-21/SYMBOL-22, GREEK VOCAL
NOTATION SYMBOL-3/SYMBOL-6/SYMBOL-9, GREEK YPOGEGRAMMENI, GREEN APPLE/BOOK/HEART/SALAD,
GRIMACING FACE, GRINNING CAT FACE WITH SMILING EYES, GRINNING FACE, GRINNING FACE WITH ONE LARGE
AND ONE SMALL EYE, GRINNING FACE WITH SMILING/STAR EYES, GROUP MARK/SEPARATOR, GROWING HEART,
GS, GUARANI SIGN, GUARDSMAN, GUIDE DOG, GUITAR, GUJARATI ABBREVIATION/RUPEE SIGN, GUJARATI DIGIT
EIGHT/FIVE/FOUR/NINE/ONE/SEVEN/SIX/THREE/TWO/ZERO, GUJARATI LETTER
A/AA/AI/AU/BA/BHA/CA/CHA/DA/DDA/DDHA/DHA/E/GA/GHA/HA/I/II/JA, GUJARATI LETTER
JHA/KA/KHA/LA/LLA/MA/NA/NGA/NNA/NYA/O/PA/PHA/RA/SA/SHA/SSA/TA, GUJARATI LETTER
THA/TTA/TTHA/U/UU/VA/YA/ZHA, GUJARATI LETTER VOCALIC L/LL/R/RR, GUJARATI OM, GUJARATI SIGN
ANUSVARA/AVAGRAHA/CANDRABINDU/MADDAH/NUKTA/SHADDA/SUKUN/VIRAMA, GUJARATI SIGN
CIRCLE/THREE-DOT/TWO-CIRCLE NUKTA ABOVE, GUJARATI SIGN VISARGA, GUJARATI VOWEL CANDRA/SIGN E/O,
GUJARATI VOWEL SIGN AA/AI/AU/I/II/U/UU, GUJARATI VOWEL SIGN CANDRA E/O, GUJARATI VOWEL SIGN
VOCALIC L/LL/R/RR, GUNJALA GONDI DIGIT EIGHT/FIVE/FOUR/NINE/ONE/SEVEN/SIX/THREE/TWO/ZERO,
GUNJALA GONDI LETTER A/AA/AI/AU/BA/BHA/CA/CHA/DA/DDA/DDHA/DHA/EE/GA/GHA/HA/I/II/JA, GUNJALA
GONDI LETTER JHA/KA/KHA/LA/LLA/MA/NA/NGA/OO/PA/PHA/RA/SA/TA/THA/TTA/TTHA/U, GUNJALA GONDI LETTER
UU/VA/YA, GUNJALA GONDI OM/VIRAMA, GUNJALA GONDI SIGN ANUSVARA/VISARGA, GUNJALA GONDI VOWEL SIGN
AA/AI/AU/EE/I/II/OO/U/UU, GURMUKHI ABBREVIATION SIGN, GURMUKHI ADDAK/IRI/TIPPI/URA, GURMUKHI
DIGIT EIGHT/FIVE/FOUR/NINE/ONE/SEVEN/SIX/THREE/TWO/ZERO, GURMUKHI EK ONKAR, GURMUKHI LETTER
A/AA/AI/AU/BA/BHA/CA/CHA/DA/DDA/DDHA/DHA/EE/FA/GA/GHA/GHHA/HA/I, GURMUKHI LETTER
II/JA/JHA/KA/KHA/KHHA/LA/LLA/MA/NA/NGA/NNA/NYA/OO/PA/PHA/RA/RRA, GURMUKHI LETTER
SA/SHA/TA/THA/TTA/TTHA/U/UU/VA/YA/ZA, GURMUKHI SIGN ADAK BINDI, GURMUKHI SIGN
BINDI/NUKTA/UDAAT/VIRAMA/VISARGA/YAKASH, GURMUKHI VOWEL SIGN AA/AI/AU/EE/I/II/OO/U/UU"),
  ('H', "
HADES, HAIR SPACE, HAIRCUT, HALFWIDTH BLACK SQUARE, HALFWIDTH
DOWNWARDS/LEFTWARDS/RIGHTWARDS/UPWARDS ARROW, HALFWIDTH FORMS LIGHT VERTICAL, HALFWIDTH HANGUL
FILLER, HALFWIDTH HANGUL LETTER AE/CHIEUCH/CIEUC/EO/EU/HIEUH/IEUNG/KHIEUKH/KIYEOK/KIYEOK-SIOS,
HALFWIDTH HANGUL LETTER MIEUM/NIEUN/NIEUN-CIEUC/NIEUN-HIEUH/OE/PHIEUPH/PIEUP/PIEUP-SIOS,
HALFWIDTH HANGUL LETTER RIEUL-PIEUP/RIEUL-SIOS/RIEUL-THIEUTH/SIOS/SSANGCIEUC, HALFWIDTH HANGUL
LETTER RIEUL/RIEUL-HIEUH/RIEUL-KIYEOK/RIEUL-MIEUM/RIEUL-PHIEUPH, HALFWIDTH HANGUL LETTER
SSANGKIYEOK/SSANGPIEUP/SSANGSIOS/SSANGTIKEUT/THIEUTH/TIKEUT/WAE, HALFWIDTH HANGUL LETTER
WE/WEO/WI/YAE/YE/YEO/YI, HALFWIDTH HANGUL/KATAKANA LETTER A/E/I/O/U/WA/YA/YO/YU, HALFWIDTH
IDEOGRAPHIC COMMA, HALFWIDTH IDEOGRAPHIC FULL STOP, HALFWIDTH KATAKANA LETTER
HA/HE/HI/HO/HU/KA/KE/KI/KO/KU/MA/ME/MI/MO/MU/N/NA/NE/NI/NO/NU, HALFWIDTH KATAKANA LETTER
RA/RE/RI/RO/RU/SA/SE/SI/SO/SU/TA/TE/TI/TO/TU/WO, HALFWIDTH KATAKANA LETTER SMALL
A/E/I/O/TU/U/YA/YO/YU, HALFWIDTH KATAKANA MIDDLE DOT, HALFWIDTH KATAKANA SEMI-VOICED/VOICED
SOUND MARK, HALFWIDTH KATAKANA-HIRAGANA PROLONGED SOUND MARK, HALFWIDTH LEFT/RIGHT CORNER
BRACKET, HALFWIDTH WHITE CIRCLE, HAMBURGER, HAMMER, HAMMER AND PICK/SICKLE/WRENCH, HAMSA,
HAMSTER FACE, HAND WITH INDEX AND MIDDLE FINGERS CROSSED, HAND WITH INDEX FINGER AND THUMB
CROSSED, HANDBAG, HANDBALL, HANDSHAKE, HANGUL CHOSEONG
CEONGCHIEUMCHIEUCH/CEONGCHIEUMCIEUC/CEONGCHIEUMSIOS, HANGUL CHOSEONG
CEONGCHIEUMSSANGCIEUC/CEONGCHIEUMSSANGSIOS/CHIEUCH-HIEUH, HANGUL CHOSEONG
CHIEUCH-KHIEUKH/CHITUEUMCHIEUCH/CHITUEUMCIEUC/CHITUEUMSIOS, HANGUL CHOSEONG
CHITUEUMSSANGCIEUC/CHITUEUMSSANGSIOS/CIEUC-IEUNG/HIEUH-SIOS, HANGUL CHOSEONG
IEUNG-CHIEUCH/IEUNG-CIEUC/IEUNG-HIEUH/IEUNG-MIEUM/IEUNG-PANSIOS, HANGUL CHOSEONG
IEUNG-PHIEUPH/IEUNG-PIEUP/IEUNG-RIEUL/IEUNG-SIOS/IEUNG-THIEUTH, HANGUL CHOSEONG
IEUNG-TIKEUT/KIYEOK-TIKEUT/MIEUM-TIKEUT/NIEUN-PIEUP, HANGUL CHOSEONG
PHIEUPH-HIEUH/PIEUP-KHIEUKH/PIEUP-NIEUN/PIEUP-SIOS-CIEUC, HANGUL CHOSEONG
PIEUP-SIOS-PIEUP/PIEUP-SIOS-THIEUTH/PIEUP-SSANGSIOS/RIEUL-CIEUC, HANGUL CHOSEONG
RIEUL-SSANGPIEUP/RIEUL-SSANGTIKEUT/SIOS-IEUNG/SIOS-KHIEUKH, HANGUL CHOSEONG
SIOS-PHIEUPH/SIOS-PIEUP-KIYEOK/SIOS-SSANGSIOS/SSANGCIEUC-HIEUH, HANGUL CHOSEONG
SSANGSIOS-PIEUP/SSANGTHIEUTH/SSANGYEORINHIEUH/TIKEUT-MIEUM, HANGUL CHOSEONG/JONGSEONG
IEUNG-KIYEOK/KAPYEOUNRIEUL/MIEUM-KIYEOK/NIEUN-KIYEOK, HANGUL CHOSEONG/JONGSEONG
PHIEUPH-PIEUP/PIEUP-CHIEUCH/PIEUP-HIEUH/PIEUP-PHIEUPH, HANGUL CHOSEONG/JONGSEONG
RIEUL-KAPYEOUNPIEUP/RIEUL-KHIEUKH/RIEUL-NIEUN/RIEUL-SSANGKIYEOK, HANGUL CHOSEONG/JONGSEONG
SIOS-CHIEUCH/SIOS-HIEUH/SIOS-MIEUM/SIOS-RIEUL/SIOS-THIEUTH, HANGUL CHOSEONG/JONGSEONG
SSANGRIEUL/TIKEUT-CIEUC/TIKEUT-KIYEOK/TIKEUT-PIEUP/TIKEUT-RIEUL, HANGUL CHOSEONG/JONGSEONG
TIKEUT-SIOS, HANGUL CHOSEONG/JONGSEONG/LETTER
CHIEUCH/CIEUC/HIEUH/IEUNG/KAPYEOUNMIEUM/KAPYEOUNPHIEUPH, HANGUL CHOSEONG/JONGSEONG/LETTER
KAPYEOUNPIEUP/KHIEUKH/KIYEOK/MIEUM/MIEUM-PIEUP/MIEUM-SIOS/NIEUN, HANGUL
CHOSEONG/JONGSEONG/LETTER NIEUN-CIEUC/NIEUN-HIEUH/NIEUN-SIOS/NIEUN-TIKEUT/PANSIOS/PHIEUPH,
HANGUL CHOSEONG/JONGSEONG/LETTER PIEUP/PIEUP-CIEUC/PIEUP-SIOS/PIEUP-SIOS-TIKEUT/PIEUP-TIKEUT,
HANGUL CHOSEONG/JONGSEONG/LETTER RIEUL-SIOS/RIEUL-TIKEUT/SIOS/SIOS-CIEUC/SIOS-KIYEOK/SIOS-PIEUP,
HANGUL CHOSEONG/JONGSEONG/LETTER RIEUL/RIEUL-HIEUH/RIEUL-KIYEOK/RIEUL-MIEUM/RIEUL-PIEUP, HANGUL
CHOSEONG/JONGSEONG/LETTER SIOS-TIKEUT/SSANGCIEUC/SSANGIEUNG/SSANGKIYEOK/SSANGNIEUN, HANGUL
CHOSEONG/JONGSEONG/LETTER SSANGPIEUP/SSANGSIOS/SSANGTIKEUT/THIEUTH/TIKEUT/YEORINHIEUH, HANGUL
CHOSEONG/JONGSEONG/LETTER YESIEUNG, HANGUL CHOSEONG/JUNGSEONG FILLER, HANGUL CHOSEONG/LETTER
KAPYEOUNSSANGPIEUP/PIEUP-KIYEOK/PIEUP-SIOS-KIYEOK/PIEUP-THIEUTH, HANGUL CHOSEONG/LETTER
SIOS-NIEUN/SSANGHIEUH, HANGUL DOUBLE/SINGLE DOT TONE MARK, HANGUL FILLER, HANGUL JONGSEONG
CIEUC-PIEUP/CIEUC-SSANGPIEUP/HIEUH-MIEUM/HIEUH-NIEUN, HANGUL JONGSEONG
HIEUH-PIEUP/HIEUH-RIEUL/IEUNG-KHIEUKH/IEUNG-SSANGKIYEOK, HANGUL JONGSEONG
KIYEOK-CHIEUCH/KIYEOK-HIEUH/KIYEOK-KHIEUKH/KIYEOK-NIEUN, HANGUL JONGSEONG
KIYEOK-PIEUP/KIYEOK-RIEUL/KIYEOK-SIOS-KIYEOK/MIEUM-CHIEUCH, HANGUL JONGSEONG
MIEUM-CIEUC/MIEUM-HIEUH/MIEUM-NIEUN/MIEUM-PIEUP-SIOS, HANGUL JONGSEONG
MIEUM-RIEUL/MIEUM-SSANGNIEUN/MIEUM-SSANGSIOS/NIEUN-CHIEUCH, HANGUL JONGSEONG
NIEUN-RIEUL/NIEUN-THIEUTH/PANSIOS-KAPYEOUNPIEUP/PANSIOS-PIEUP, HANGUL JONGSEONG
PHIEUPH-SIOS/PHIEUPH-THIEUTH/PIEUP-MIEUM/PIEUP-RIEUL, HANGUL JONGSEONG
PIEUP-RIEUL-PHIEUPH/RIEUL-KIYEOK-HIEUH/RIEUL-MIEUM-HIEUH, HANGUL JONGSEONG
RIEUL-MIEUM-KIYEOK/RIEUL-MIEUM-SIOS/RIEUL-PIEUP-HIEUH, HANGUL JONGSEONG
RIEUL-PIEUP-PHIEUPH/RIEUL-PIEUP-TIKEUT/RIEUL-SSANGSIOS, HANGUL JONGSEONG
RIEUL-TIKEUT-HIEUH/RIEUL-YEORINHIEUH-HIEUH/RIEUL-YESIEUNG, HANGUL JONGSEONG
SIOS-KAPYEOUNPIEUP/SIOS-PANSIOS/SSANGMIEUM/SSANGRIEUL-KHIEUKH, HANGUL JONGSEONG
SSANGSIOS-KIYEOK/SSANGSIOS-TIKEUT/SSANGTIKEUT-PIEUP, HANGUL JONGSEONG
SSANGYESIEUNG/TIKEUT-CHIEUCH/TIKEUT-SIOS-KIYEOK/TIKEUT-THIEUTH, HANGUL JONGSEONG
YESIEUNG-HIEUH/YESIEUNG-KHIEUKH/YESIEUNG-KIYEOK/YESIEUNG-MIEUM, HANGUL JONGSEONG
YESIEUNG-SSANGKIYEOK, HANGUL JONGSEONG/LETTER
KIYEOK-SIOS/MIEUM-PANSIOS/NIEUN-PANSIOS/RIEUL-KIYEOK-SIOS, HANGUL JONGSEONG/LETTER
RIEUL-PANSIOS/RIEUL-PHIEUPH/RIEUL-PIEUP-SIOS/RIEUL-THIEUTH, HANGUL JONGSEONG/LETTER
RIEUL-YEORINHIEUH/YESIEUNG-PANSIOS/YESIEUNG-SIOS, HANGUL JUNGSEONG
A-EU/A-O/A-U/ARAEA-A/ARAEA-E/ARAEA-EO/ARAEA-I/ARAEA-U/EO-EU, HANGUL JUNGSEONG
EO-O/EO-U/EU-A/EU-E/EU-EO/EU-EU/EU-O/EU-U/I-A/I-ARAEA/I-EU/I-I, HANGUL JUNGSEONG
I-O/I-O-I/I-U/I-YA/I-YA-O/I-YAE/I-YE/I-YEO/I-YO/I-YU/O-E/O-EO, HANGUL JUNGSEONG
O-O/O-O-I/O-U/O-YA/O-YAE/O-YE/O-YEO/SSANGARAEA/U-A/U-AE/U-EO-EU, HANGUL JUNGSEONG
U-I-I/U-U/U-YE/U-YEO/YA-O/YA-U/YA-YO/YEO-O/YEO-U/YEO-YA/YI-U, HANGUL JUNGSEONG
YO-A/YO-AE/YO-EO/YO-O/YO-YEO/YU-A/YU-AE/YU-E/YU-EO/YU-O/YU-U, HANGUL JUNGSEONG/LETTER
A/AE/ARAEA/E/EO/EU/I/O/OE/U/WA/WAE/WE/WEO/WI/YA/YAE/YE/YEO/YI, HANGUL JUNGSEONG/LETTER
YO/YO-I/YO-YA/YO-YAE/YU/YU-I/YU-YE/YU-YEO, HANGUL LETTER ARAEAE, HANGZHOU NUMERAL
EIGHT/FIVE/FOUR/NINE/ONE/SEVEN/SIX/TEN/THIRTY/THREE/TWENTY/TWO, HANIFI ROHINGYA DIGIT
EIGHT/FIVE/FOUR/NINE/ONE/SEVEN/SIX/THREE/TWO/ZERO, HANIFI ROHINGYA LETTER
BA/CA/DA/DDA/FA/GA/HA/JA/KA/KHA/LA/MA/NA/NGA/NYA/PA/RA/RRA/SA, HANIFI ROHINGYA LETTER KINNA
WA/YA, HANIFI ROHINGYA LETTER SHA/TA/TTA/VA/WA/YA/ZA, HANIFI ROHINGYA LETTER/VOWEL A, HANIFI
ROHINGYA MARK NA KHONNA, HANIFI ROHINGYA MARK SAKIN, HANIFI ROHINGYA SIGN
HARBAHAY/TAHALA/TANA/TASSI, HANIFI ROHINGYA VOWEL E/I/O/U, HANUNOO LETTER
A/BA/DA/GA/HA/I/KA/LA/MA/NA/NGA/PA/RA/SA/TA/U/WA/YA, HANUNOO SIGN PAMUDPOD, HANUNOO VOWEL SIGN
I/U, HAPPY PERSON RAISING ONE HAND, HARD DISK, HATCHING CHICK, HATRAN LETTER
ALEPH/AYN/BETH/DALETH-RESH/GIMEL/HE/HETH/KAPH/LAMEDH/MEM/NUN/PE, HATRAN LETTER
QOPH/SADHE/SAMEKH/SHIN/TAW/TETH/WAW/YODH/ZAYN, HATRAN NUMBER FIVE/ONE/TEN/TWENTY, HATRAN NUMBER
ONE HUNDRED, HEADPHONE, HEADSTONE, HEADSTONE GRAVEYARD SYMBOL, HEAR-NO-EVIL MONKEY, HEART
DECORATION/HANDS, HEART WITH ARROW/RIBBON, HEART WITH TIP ON THE LEFT, HEAVY
AMPERSAND/INTERROBANG ORNAMENT, HEAVY ARROW SHAFT WIDTH ONE, HEAVY ARROW SHAFT WIDTH ONE
HALF/THIRD, HEAVY ARROW SHAFT WIDTH TWO THIRDS, HEAVY ASTERISK/CIRCLE/SALTIRE/SPARKLE, HEAVY
BALLOT/MULTIPLICATION X, HEAVY BLACK CURVED DOWNWARDS/UPWARDS AND RIGHTWARDS ARROW, HEAVY BLACK
HEART, HEAVY BLACK-FEATHERED NORTH/SOUTH EAST ARROW, HEAVY
BLACK-FEATHERED/ROUND-TIPPED/TEARDROP-SHANKED/TRIANGLE-HEADED RIGHTWARDS ARROW, HEAVY CHECK
MARK, HEAVY CHEVRON SNOWFLAKE, HEAVY CIRCLE WITH CIRCLE INSIDE, HEAVY CIRCLE WITH STROKE AND TWO
DOTS ABOVE, HEAVY CIRCLED SALTIRE, HEAVY CONCAVE-POINTED BLACK RIGHTWARDS ARROW, HEAVY DASHED
TRIANGLE-HEADED RIGHTWARDS ARROW, HEAVY DIVISION/DOLLAR/EQUALS/MINUS/PLUS SIGN, HEAVY
DOUBLE/SINGLE COMMA QUOTATION MARK ORNAMENT, HEAVY DOUBLE/SINGLE TURNED COMMA QUOTATION MARK
ORNAMENT, HEAVY DOWNWARDS/LEFTWARDS/RIGHTWARDS/UPWARDS ARROW WITH EQUILATERAL ARROWHEAD, HEAVY
DOWNWARDS/LEFTWARDS/RIGHTWARDS/UPWARDS ARROW WITH LARGE EQUILATERAL ARROWHEAD, HEAVY EIGHT
POINTED RECTILINEAR BLACK STAR, HEAVY EIGHT TEARDROP-SPOKED PROPELLER ASTERISK, HEAVY
EIGHT/FIVE/SIX SPOKED ASTERISK, HEAVY EIGHT/FIVE/SIX/TWELVE POINTED BLACK STAR, HEAVY
EIGHT/TWELVE POINTED PINWHEEL STAR, HEAVY EXCLAMATION MARK ORNAMENT/SYMBOL, HEAVY FOUR
BALLOON-SPOKED ASTERISK, HEAVY GREEK/LATIN CROSS, HEAVY HEART EXCLAMATION MARK ORNAMENT, HEAVY
HORIZONTAL FILL, HEAVY LARGE/WHITE CIRCLE, HEAVY LEFT-POINTING/RIGHT-POINTING ANGLE BRACKET
ORNAMENT, HEAVY LEFT-POINTING/RIGHT-POINTING ANGLE QUOTATION MARK ORNAMENT, HEAVY LIGATURE OPEN
ET ORNAMENT, HEAVY LOW DOUBLE/SINGLE COMMA QUOTATION MARK ORNAMENT, HEAVY LOWER/UPPER
RIGHT-SHADOWED WHITE RIGHTWARDS ARROW, HEAVY NORTH/SOUTH EAST ARROW, HEAVY NORTH/SOUTH EAST/WEST
POINTING BUD, HEAVY NORTH/SOUTH EAST/WEST POINTING VINE LEAF, HEAVY OPEN CENTRE CROSS, HEAVY
OUTLINED BLACK STAR, HEAVY OVAL WITH OVAL INSIDE, HEAVY RIGHTWARDS ARROW, HEAVY SANS-SERIF
INTERROBANG ORNAMENT, HEAVY SCRIPT LIGATURE ET ORNAMENT, HEAVY TEARDROP-SPOKED ASTERISK, HEAVY
TEARDROP-SPOKED PINWHEEL ASTERISK, HEAVY VERTICAL BAR, HEAVY WEDGE-TAILED/WIDE-HEADED RIGHTWARDS
ARROW, HEAVY WHITE DOWN-POINTING TRIANGLE, HEAVY WHITE SQUARE, HEBREW ACCENT ATNAH HAFUKH,
HEBREW ACCENT DARGA/DEHI/ETNAHTA/ILUY/MAHAPAKH/MERKHA/MUNAH/OLE/PASHTA/PAZER, HEBREW ACCENT
GERESH MUQDAM, HEBREW ACCENT MERKHA KEFULA, HEBREW ACCENT
QADMA/REVIA/SHALSHELET/TEVIR/TIPEHA/YETIV/ZARQA/ZINOR, HEBREW ACCENT QARNEY PARA, HEBREW ACCENT
TELISHA GEDOLA/QETANA, HEBREW ACCENT YERAH BEN YOMO, HEBREW ACCENT ZAQEF GADOL/QATAN, HEBREW
ACCENT/POINT SEGOL, HEBREW ACCENT/PUNCTUATION GERESH/GERSHAYIM, HEBREW LETTER ALEF WITH
PATAH/QAMATS, HEBREW LETTER ALEF/AYIN/BET/DALET/GIMEL/HE/HET/KAF/LAMED/MEM/NUN/PE/QOF/RESH,
HEBREW LETTER ALEF/HE WITH MAPIQ, HEBREW LETTER ALTERNATIVE AYIN, HEBREW LETTER ALTERNATIVE PLUS
SIGN, HEBREW LETTER BET/DALET/GIMEL/KAF/LAMED/MEM/NUN/PE/QOF/RESH/SAMEKH/SHIN/TAV WITH DAGESH,
HEBREW LETTER BET/KAF/PE WITH RAFE, HEBREW LETTER FINAL KAF/PE WITH DAGESH, HEBREW LETTER FINAL
MEM/NUN/PE/TSADI, HEBREW LETTER FINAL/WIDE KAF, HEBREW LETTER
SAMEKH/SHIN/TAV/TET/TSADI/VAV/YOD/ZAYIN, HEBREW LETTER SHIN WITH DAGESH AND SHIN/SIN DOT, HEBREW
LETTER SHIN WITH SHIN/SIN DOT, HEBREW LETTER TET/TSADI/VAV/YOD/ZAYIN WITH DAGESH, HEBREW LETTER
VAV WITH HOLAM, HEBREW LETTER WIDE ALEF/DALET/HE/LAMED/RESH/TAV, HEBREW LETTER WIDE FINAL MEM,
HEBREW LETTER YOD WITH HIRIQ, HEBREW LIGATURE ALEF LAMED, HEBREW LIGATURE YIDDISH DOUBLE VAV,
HEBREW LIGATURE YIDDISH DOUBLE/VAV YOD, HEBREW LIGATURE YIDDISH YOD YOD PATAH, HEBREW MARK
LOWER/UPPER DOT, HEBREW MARK MASORA CIRCLE, HEBREW POINT DAGESH OR MAPIQ, HEBREW POINT HATAF
PATAH/QAMATS/SEGOL, HEBREW POINT HIRIQ/HOLAM/METEG/PATAH/QAMATS/QUBUTS/RAFE/SHEVA/TSERE, HEBREW
POINT HOLAM HASER FOR VAV, HEBREW POINT JUDEO-SPANISH VARIKA, HEBREW POINT QAMATS QATAN, HEBREW
POINT SHIN/SIN DOT, HEBREW PUNCTUATION MAQAF/PASEQ, HEBREW PUNCTUATION NUN HAFUKHA, HEBREW
PUNCTUATION SOF PASUQ, HEBREW YOD TRIANGLE, HEDGEHOG, HELICOPTER, HELLSCHREIBER PAUSE SYMBOL,
HELM SYMBOL, HELMET WITH WHITE CROSS, HENTAIGANA LETTER
A-1/A-2/A-3/A-WO/E-1/E-2/E-3/E-4/E-5/E-6/HA-1/HA-10/HA-11/HA-2, HENTAIGANA LETTER
HA-3/HA-4/HA-5/HA-6/HA-7/HA-8/HA-9/HE-1/HE-2/HE-3/HE-4/HE-5, HENTAIGANA LETTER
HE-6/HE-7/HI-1/HI-2/HI-3/HI-4/HI-5/HI-6/HI-7/HO-1/HO-2/HO-3, HENTAIGANA LETTER
HO-4/HO-5/HO-6/HO-7/HO-8/HU-1/HU-2/HU-3/I-1/I-2/I-3/I-4/KA-1, HENTAIGANA LETTER
KA-10/KA-11/KA-2/KA-3/KA-4/KA-5/KA-6/KA-7/KA-8/KA-9/KA-KE/KE-1, HENTAIGANA LETTER
KE-2/KE-3/KE-4/KE-5/KE-6/KI-1/KI-2/KI-3/KI-4/KI-5/KI-6/KI-7, HENTAIGANA LETTER
KI-8/KO-1/KO-2/KO-3/KO-KI/KU-1/KU-2/KU-3/KU-4/KU-5/KU-6/KU-7, HENTAIGANA LETTER
MA-1/MA-2/MA-3/MA-4/MA-5/MA-6/MA-7/ME-1/ME-2/ME-MA/MI-1/MI-2, HENTAIGANA LETTER
MI-3/MI-4/MI-5/MI-6/MI-7/MO-1/MO-2/MO-3/MO-4/MO-5/MO-6/MU-1, HENTAIGANA LETTER
MU-2/MU-3/MU-4/N-MU-MO-1/N-MU-MO-2/NA-1/NA-2/NA-3/NA-4/NA-5, HENTAIGANA LETTER
NA-6/NA-7/NA-8/NA-9/NE-1/NE-2/NE-3/NE-4/NE-5/NE-6/NE-KO/NI-1, HENTAIGANA LETTER
NI-2/NI-3/NI-4/NI-5/NI-6/NI-7/NI-TE/NO-1/NO-2/NO-3/NO-4/NO-5, HENTAIGANA LETTER
NU-1/NU-2/NU-3/O-1/O-2/O-3/RA-1/RA-2/RA-3/RA-4/RE-1/RE-2/RE-3, HENTAIGANA LETTER
RE-4/RI-1/RI-2/RI-3/RI-4/RI-5/RI-6/RI-7/RO-1/RO-2/RO-3/RO-4, HENTAIGANA LETTER
RO-5/RO-6/RU-1/RU-2/RU-3/RU-4/RU-5/RU-6/SA-1/SA-2/SA-3/SA-4, HENTAIGANA LETTER
SA-5/SA-6/SA-7/SA-8/SE-1/SE-2/SE-3/SE-4/SE-5/SI-1/SI-2/SI-3, HENTAIGANA LETTER
SI-4/SI-5/SI-6/SO-1/SO-2/SO-3/SO-4/SO-5/SO-6/SO-7/SU-1/SU-2, HENTAIGANA LETTER
SU-3/SU-4/SU-5/SU-6/SU-7/SU-8/TA-1/TA-2/TA-3/TA-4/TE-1/TE-2, HENTAIGANA LETTER
TE-3/TE-4/TE-5/TE-6/TE-7/TE-8/TE-9/TI-1/TI-2/TI-3/TI-4/TI-5, HENTAIGANA LETTER
TI-6/TI-7/TO-1/TO-2/TO-3/TO-4/TO-5/TO-6/TO-RA/TU-1/TU-2/TU-3, HENTAIGANA LETTER
TU-4/TU-TO/U-1/U-2/U-3/U-4/U-5/WA-1/WA-2/WA-3/WA-4/WA-5/WE-1, HENTAIGANA LETTER
WE-2/WE-3/WE-4/WI-1/WI-2/WI-3/WI-4/WI-5/WO-1/WO-2/WO-3/WO-4, HENTAIGANA LETTER
WO-5/WO-6/WO-7/YA-1/YA-2/YA-3/YA-4/YA-5/YA-YO/YO-1/YO-2/YO-3, HENTAIGANA LETTER
YO-4/YO-5/YO-6/YU-1/YU-2/YU-3/YU-4, HERB, HERMITIAN CONJUGATE MATRIX, HEXAGRAM FOR
ABUNDANCE/APPROACH/BREAKTHROUGH/CONFLICT/CONTEMPLATION/DECREASE, HEXAGRAM FOR AFTER/BEFORE
COMPLETION, HEXAGRAM FOR BITING THROUGH, HEXAGRAM FOR COMING TO MEET, HEXAGRAM FOR DARKENING OF
THE LIGHT, HEXAGRAM FOR DELIVERANCE/DEVELOPMENT/DISPERSION/DURATION/ENTHUSIASM, HEXAGRAM FOR
DIFFICULTY AT THE BEGINNING, HEXAGRAM FOR
FELLOWSHIP/FOLLOWING/GRACE/INCREASE/INFLUENCE/INNOCENCE, HEXAGRAM FOR GATHERING/HOLDING
TOGETHER, HEXAGRAM FOR GREAT POSSESSION/POWER, HEXAGRAM FOR GREAT/SMALL PREPONDERANCE/TAMING,
HEXAGRAM FOR INNER TRUTH, HEXAGRAM FOR
LIMITATION/MODESTY/OBSTRUCTION/OPPOSITION/OPPRESSION/PEACE, HEXAGRAM FOR MOUTH CORNERS, HEXAGRAM
FOR PROGRESS/RETREAT/RETURN/REVOLUTION/STANDSTILL/TREADING/WAITING, HEXAGRAM FOR PUSHING UPWARD,
HEXAGRAM FOR SPLITTING APART, HEXAGRAM FOR THE ABYSMAL WATER, HEXAGRAM FOR THE
ARMY/CAULDRON/FAMILY/WANDERER/WELL, HEXAGRAM FOR THE AROUSING THUNDER, HEXAGRAM FOR THE CLINGING
FIRE, HEXAGRAM FOR THE CREATIVE HEAVEN, HEXAGRAM FOR THE GENTLE WIND, HEXAGRAM FOR THE JOYOUS
LAKE, HEXAGRAM FOR THE KEEPING STILL MOUNTAIN, HEXAGRAM FOR THE MARRYING MAIDEN, HEXAGRAM FOR
THE RECEPTIVE EARTH, HEXAGRAM FOR WORK ON THE DECAYED, HEXAGRAM FOR YOUTHFUL FOLLY, HIBISCUS,
HIGH BRIGHTNESS SYMBOL, HIGH OCTET PRESET, HIGH VOLTAGE SIGN, HIGH-HEELED SHOE, HIGH-SPEED
TRAIN, HIGH-SPEED TRAIN WITH BULLET NOSE, HIKING BOOT, HINDU TEMPLE, HIPPOPOTAMUS, HIRAGANA
DIGRAPH YORI, HIRAGANA ITERATION MARK, HIRAGANA LETTER
A/BA/BE/BI/BO/BU/DA/DE/DI/DO/DU/E/GA/GE/GI/GO/GU/HA/HE/HI/HO/HU, HIRAGANA LETTER ARCHAIC WU/YE,
HIRAGANA LETTER I/KA/KE/KI/KO/KU/MA/ME/MI/MO/MU/N/NA/NE/NI/NO/NU/O/PA/PE/PI/PO, HIRAGANA LETTER
PU/RA/RE/RI/RO/RU/SA/SE/SI/SO/SU/TA/TE/TI/TO/TU/U/VU/WA/WE/WI, HIRAGANA LETTER SMALL
A/E/I/KA/KE/O/TU/U/WA/WE/WI/WO/YA/YO/YU, HIRAGANA LETTER WO/YA/YO/YU/ZA/ZE/ZI/ZO/ZU, HIRAGANA
VOICED ITERATION MARK, HISTORIC SITE, HOCHO, HOLE, HOLLOW QUILT SQUARE ORNAMENT, HOLLOW QUILT
SQUARE ORNAMENT IN BLACK SQUARE, HOMOTHETIC, HONEY POT, HONEYBEE, HOOK, HOP, HORIZONTAL
BAR/ELLIPSIS/TABULATION, HORIZONTAL BLACK HEXAGON/OCTAGON, HORIZONTAL LINE EXTENSION, HORIZONTAL
MALE WITH STROKE SIGN, HORIZONTAL ONE EIGHTH
BLOCK-1358/BLOCK-2/BLOCK-3/BLOCK-4/BLOCK-5/BLOCK-6/BLOCK-7, HORIZONTAL SCAN
LINE-1/LINE-3/LINE-7/LINE-9, HORIZONTAL TAB KEY, HORIZONTAL TABULATION SET, HORIZONTAL
TABULATION WITH JUSTIFICATION, HORIZONTAL TRAFFIC LIGHT, HORSE, HORSE FACE/RACING, HOSPITAL, HOT
BEVERAGE/DOG/PEPPER/SPRINGS, HOTEL, HOURGLASS, HOURGLASS WITH FLOWING SAND, HOUSE, HOUSE
BUILDING/BUILDINGS, HOUSE WITH GARDEN, HRYVNIA SIGN, HT, HTJ, HTS, HUGGING FACE, HUNDRED POINTS
SYMBOL, HUSHED FACE, HUT, HYGIEA, HYPHEN, HYPHEN BULLET, HYPHEN WITH DIAERESIS, HYPHEN-MINUS,
HYPHENATION POINT, HYPODIASTOLE, HYSTERESIS SYMBOL"),
  ('I', "
I LOVE YOU HAND SIGN, ICE CREAM/CUBE/SKATE, ICE HOCKEY STICK AND PUCK, IDENTICAL TO, IDENTICAL
TO AND SLANTED PARALLEL, IDENTICAL WITH DOT ABOVE, IDENTIFICATION CARD, IDEOGRAPHIC ANNOTATION
BOTTOM/EARTH/FIRST/FOUR/FOURTH/HEAVEN/LINKING/MAN/MIDDLE/ONE MARK, IDEOGRAPHIC ANNOTATION
REVERSE/SECOND/THIRD/THREE/TOP/TWO MARK, IDEOGRAPHIC CLOSING/ITERATION MARK, IDEOGRAPHIC
COMMA/SPACE, IDEOGRAPHIC DEPARTING/ENTERING/LEVEL/RISING TONE MARK, IDEOGRAPHIC DESCRIPTION
CHARACTER ABOVE TO BELOW, IDEOGRAPHIC DESCRIPTION CHARACTER ABOVE TO MIDDLE AND BELOW,
IDEOGRAPHIC DESCRIPTION CHARACTER FULL SURROUND, IDEOGRAPHIC DESCRIPTION CHARACTER LEFT TO
MIDDLE AND RIGHT, IDEOGRAPHIC DESCRIPTION CHARACTER LEFT TO RIGHT, IDEOGRAPHIC DESCRIPTION
CHARACTER OVERLAID, IDEOGRAPHIC DESCRIPTION CHARACTER SURROUND FROM ABOVE/BELOW/LEFT,
IDEOGRAPHIC DESCRIPTION CHARACTER SURROUND FROM LOWER/UPPER LEFT, IDEOGRAPHIC DESCRIPTION
CHARACTER SURROUND FROM UPPER RIGHT, IDEOGRAPHIC FULL STOP, IDEOGRAPHIC HALF FILL SPACE,
IDEOGRAPHIC NUMBER ZERO, IDEOGRAPHIC TALLY MARK FIVE/FOUR/ONE/THREE/TWO, IDEOGRAPHIC TELEGRAPH
LINE FEED SEPARATOR SYMBOL, IDEOGRAPHIC TELEGRAPH SYMBOL FOR
APRIL/AUGUST/DECEMBER/FEBRUARY/JANUARY/JULY/JUNE/MARCH/MAY, IDEOGRAPHIC TELEGRAPH SYMBOL FOR DAY
THIRTY/THIRTY-ONE/TWENTY-EIGHT/TWENTY-FIVE/TWENTY-NINE, IDEOGRAPHIC TELEGRAPH SYMBOL FOR DAY
TWENTY-SEVEN/TWENTY-SIX, IDEOGRAPHIC TELEGRAPH SYMBOL FOR DAY/HOUR
EIGHT/EIGHTEEN/ELEVEN/FIFTEEN/FIVE/FOUR/FOURTEEN/NINE/NINETEEN, IDEOGRAPHIC TELEGRAPH SYMBOL FOR
DAY/HOUR ONE/SEVEN/SEVENTEEN/SIX/SIXTEEN/TEN/THIRTEEN/THREE/TWELVE, IDEOGRAPHIC TELEGRAPH SYMBOL
FOR DAY/HOUR TWENTY/TWENTY-FOUR/TWENTY-ONE/TWENTY-THREE/TWENTY-TWO/TWO, IDEOGRAPHIC TELEGRAPH
SYMBOL FOR HOUR ZERO, IDEOGRAPHIC TELEGRAPH SYMBOL FOR NOVEMBER/OCTOBER/SEPTEMBER, IDEOGRAPHIC
VARIATION INDICATOR, IMAGE OF, IMAGE OF OR APPROXIMATELY EQUAL TO, IMP, IMPERIAL ARAMAIC LETTER
ALEPH/AYIN/BETH/DALETH/GIMEL/HE/HETH/KAPH/LAMEDH/MEM/NUN/PE, IMPERIAL ARAMAIC LETTER
QOPH/RESH/SADHE/SAMEKH/SHIN/TAW/TETH/WAW/YODH/ZAYIN, IMPERIAL ARAMAIC NUMBER ONE HUNDRED,
IMPERIAL ARAMAIC NUMBER ONE/TEN THOUSAND, IMPERIAL ARAMAIC NUMBER ONE/TEN/THREE/TWENTY/TWO,
IMPERIAL ARAMAIC SECTION SIGN, INBOX TRAY, INCOMING ENVELOPE, INCOMPLETE INFINITY, INCREASE FONT
SIZE SYMBOL, INCREASES AS, INCREMENT, IND, INDEX, INDEX POINTING AT THE VIEWER, INDIAN RUPEE
SIGN, INDIC SIYAQ ALTERNATE LAKH MARK, INDIC SIYAQ FRACTION ONE HALF/QUARTER, INDIC SIYAQ
FRACTION THREE QUARTERS, INDIC SIYAQ LAKH/RUPEE MARK, INDIC SIYAQ NUMBER ALTERNATE TEN THOUSAND,
INDIC SIYAQ NUMBER ALTERNATE/PREFIXED ONE/TWO, INDIC SIYAQ NUMBER
EIGHT/EIGHTY/FIFTY/FIVE/FORTY/FOUR/KAROR/KARORAN/LAKH/LAKHAN, INDIC SIYAQ NUMBER
EIGHT/EIGHTY/FIFTY/FIVE/FORTY/FOUR/NINE/NINETY/ONE/SEVEN THOUSAND, INDIC SIYAQ NUMBER
EIGHT/FIVE/FOUR/NINE/ONE/SEVEN/SIX/THREE/TWO HUNDRED, INDIC SIYAQ NUMBER
NINE/NINETY/ONE/SEVEN/SEVENTY/SIX/SIXTY/TEN/THIRTY/THREE/TWENTY, INDIC SIYAQ NUMBER PREFIXED
EIGHT/FIVE/FOUR/NINE/SEVEN/SIX/THREE, INDIC SIYAQ NUMBER
SEVENTY/SIX/SIXTY/TEN/THIRTY/THREE/TWENTY/TWO THOUSAND, INDIC SIYAQ NUMBER TWO, INDIC SIYAQ
PLACEHOLDER, INFINITY, INFINITY NEGATED WITH VERTICAL BAR, INFORMATION DESK PERSON, INFORMATION
SEPARATOR FOUR/ONE/THREE/TWO, INFORMATION SOURCE, INHIBIT ARABIC FORM SHAPING, INHIBIT SYMMETRIC
SWAPPING, INPUT SYMBOL FOR LATIN CAPITAL/SMALL LETTERS, INPUT SYMBOL FOR LATIN LETTERS, INPUT
SYMBOL FOR NUMBERS/SYMBOLS, INSCRIPTIONAL PAHLAVI LETTER MEM-QOPH/WAW-AYIN-RESH, INSCRIPTIONAL
PAHLAVI/PARTHIAN LETTER ALEPH/BETH/DALETH/GIMEL/HE/HETH/KAPH/LAMEDH/NUN/PE/SADHE/SAMEKH,
INSCRIPTIONAL PAHLAVI/PARTHIAN LETTER SHIN/TAW/TETH/YODH/ZAYIN, INSCRIPTIONAL PAHLAVI/PARTHIAN
NUMBER FOUR/ONE/TEN/THREE/TWENTY/TWO, INSCRIPTIONAL PAHLAVI/PARTHIAN NUMBER ONE
HUNDRED/THOUSAND, INSCRIPTIONAL PARTHIAN LETTER AYIN/MEM/QOPH/RESH/WAW, INSERTION SYMBOL,
INTEGRAL, INTEGRAL AROUND A POINT OPERATOR, INTEGRAL AVERAGE WITH SLASH, INTEGRAL EXTENSION,
INTEGRAL WITH DOUBLE STROKE, INTEGRAL WITH INTERSECTION/OVERBAR/UNDERBAR/UNION, INTEGRAL WITH
LEFTWARDS ARROW WITH HOOK, INTEGRAL WITH TIMES SIGN, INTERCALATE, INTERIOR PRODUCT, INTERLINEAR
ANNOTATION ANCHOR/SEPARATOR/TERMINATOR, INTERLOCKED FEMALE AND MALE SIGN, INTERROBANG,
INTERSECTION, INTERSECTION ABOVE BAR ABOVE UNION, INTERSECTION ABOVE UNION, INTERSECTION BESIDE
AND JOINED WITH INTERSECTION, INTERSECTION WITH DOT/OVERBAR, INTERSECTION WITH LOGICAL AND,
INVERSE BULLET, INVERSE CHECK MARK, INVERSE CHECKER BOARD FILL, INVERSE DOWNWARDS ARROW WITH TIP
LEFTWARDS, INVERSE MEDIUM SHADE, INVERSE WHITE CIRCLE, INVERTED EXCLAMATION/QUESTION MARK,
INVERTED INTERROBANG/PENTAGRAM/UNDERTIE, INVERTED LAZY S, INVERTED LOW KAVYKA, INVERTED LOW
KAVYKA WITH KAVYKA ABOVE, INVERTED OHM SIGN, INVISIBLE PLUS/SEPARATOR/TIMES, IZAKAYA LANTERN"),
  ('J', "
JACK-O-LANTERN, JAPANESE BANK SYMBOL, JAPANESE CASTLE/DOLLS/GOBLIN/OGRE, JAPANESE INDUSTRIAL
STANDARD SYMBOL, JAPANESE POST OFFICE, JAPANESE SYMBOL FOR BEGINNER, JAR, JAVANESE CONSONANT
SIGN CAKRA/KERET/PENGKAL, JAVANESE DIGIT EIGHT/FIVE/FOUR/NINE/ONE/SEVEN/SIX/THREE/TWO/ZERO,
JAVANESE LEFT/RIGHT RERENGGAN, JAVANESE LETTER
A/AI/BA/CA/DA/DDA/E/GA/HA/I/II/JA/KA/LA/MA/NA/NGA/NYA/O/PA/RA, JAVANESE LETTER
BA/CA/GA/KA/NA/NYA/PA/SA/TA MURDA, JAVANESE LETTER DA/DDA/JA/SA/TTA MAHAPRANA, JAVANESE LETTER I
KAWI, JAVANESE LETTER KA SASAK, JAVANESE LETTER NGA LELET, JAVANESE LETTER NGA LELET RASWADI,
JAVANESE LETTER PA CEREK, JAVANESE LETTER RA AGUNG, JAVANESE LETTER SA/TA/TTA/U/WA/YA, JAVANESE
PADA ADEG ADEG, JAVANESE PADA ADEG/ANDAP/ISEN-ISEN/LINGSA/LUHUR/LUNGSI/MADYA/PANGKAT/PISELEH,
JAVANESE PADA TIRTA TUMETES, JAVANESE PADA WINDU, JAVANESE PANGKON/PANGRANGKEP, JAVANESE SIGN
CECAK TELU, JAVANESE SIGN CECAK/LAYAR/PANYANGGA/WIGNYAN, JAVANESE TURNED PADA PISELEH, JAVANESE
VOWEL SIGN DIRGA MURE, JAVANESE VOWEL SIGN PEPET/SUKU/TALING/TARUNG/TOLONG/WULU, JAVANESE VOWEL
SIGN SUKU MENDUT, JAVANESE VOWEL SIGN WULU MELIK, JEANS, JIGSAW PUZZLE PIECE, JOIN, JOYSTICK,
JUGGLING, JUNO, JUPITER"),
  ('K', "
KAABA, KAITHI ABBREVIATION/ENUMERATION/NUMBER SIGN, KAITHI DANDA, KAITHI DOUBLE DANDA, KAITHI
DOUBLE SECTION MARK, KAITHI LETTER
A/AA/AI/AU/BA/BHA/CA/CHA/DA/DDA/DDDHA/DDHA/DHA/E/GA/GHA/HA/I/II, KAITHI LETTER
JA/JHA/KA/KHA/LA/MA/NA/NGA/NNA/NYA/O/PA/PHA/RA/RHA/SA/SHA/SSA, KAITHI LETTER
TA/THA/TTA/TTHA/U/UU/VA/YA, KAITHI NUMBER SIGN ABOVE, KAITHI SECTION MARK, KAITHI SIGN
ANUSVARA/CANDRABINDU/NUKTA/VIRAMA/VISARGA, KAITHI VOWEL SIGN AA/AI/AU/E/I/II/O/U/UU, KAITHI
VOWEL SIGN VOCALIC R, KANGAROO, KANGXI RADICAL
AGAIN/AND/ARRIVE/ARROW/AXE/BADGER/BAMBOO/BEAN/BIG/BIRD/BITTER, KANGXI RADICAL
BLACK/BLOOD/BLUE/BOAT/BODY/BONE/BOW/BRANCH/BRISTLE/BRUSH/CART, KANGXI RADICAL BOLT OF CLOTH,
KANGXI RADICAL CAULDRON/CAVE/CHILD/CITY/CLAN/CLAW/CLIFF/CLOTHES/COLOR/COMPARE, KANGXI RADICAL
CORPSE/COVER/COW/DEATH/DEER/DIPPER/DISH/DISTINGUISH/DIVINATION, KANGXI RADICAL DO NOT, KANGXI
RADICAL DOG/DOOR/DOT/DRAGON/DRUM/DRY/EAR/EARTH/EAT/EIGHT/EMBROIDERY, KANGXI RADICAL DOTTED
CLIFF/TENT, KANGXI RADICAL DOUBLE X, KANGXI RADICAL DOWN/OPEN BOX, KANGXI RADICAL
ENCLOSURE/ENTER/EVEN/EVENING/EYE/FACE/FANG/FATHER/FEATHER/FIELD, KANGXI RADICAL
FIGHT/FIRE/FISH/FLUTE/FLY/FOOT/FRAGRANT/FROG/FUR/GATE/GHOST/GO, KANGXI RADICAL GO SLOWLY, KANGXI
RADICAL GOLD/GRAIN/GRASS/HAIR/HALBERD/HAND/HEAD/HEART/HEMP/HOOK/HORN, KANGXI RADICAL HALF TREE
TRUNK, KANGXI RADICAL HIDING/WALK ENCLOSURE, KANGXI RADICAL
HORSE/ICE/INCH/INSECT/JADE/JAR/KNIFE/LACK/LAME/LEAF/LEATHER, KANGXI RADICAL
LEEK/LEGS/LID/LIFE/LINE/LONG/MAN/MEAT/MELON/MILLET/MINISTER, KANGXI RADICAL LONG STRIDE, KANGXI
RADICAL MOON/MORNING/MORTAR/MOUND/MOUNTAIN/MOUTH/NET/NOSE/NOT/OLD/ONE, KANGXI RADICAL
ONESELF/OPPOSE/PIG/PLOW/POWER/PRIVATE/PROFOUND/RAIN/RAP/RAT/RED, KANGXI RADICAL
RICE/RIVER/ROOF/RUN/SALT/SAY/SCHOLAR/SCRIPT/SEAL/SECOND/SEE, KANGXI RADICAL RIGHT OPEN BOX,
KANGXI RADICAL SACRIFICIAL WINE, KANGXI RADICAL
SELF/SHEEP/SHELL/SHOOT/SICKNESS/SILK/SKIN/SLASH/SLAVE/SLICE, KANGXI RADICAL SHORT TAILED BIRD,
KANGXI RADICAL SHORT THREAD, KANGXI RADICAL
SMALL/SNOUT/SOUND/SPEAR/SPEECH/SPIRIT/SPOON/SPROUT/SQUARE/STAND, KANGXI RADICAL
STEAM/STEP/STONE/STOP/STOPPING/SUN/SWEET/TABLE/TALL/TEN/TIGER, KANGXI RADICAL TANNED LEATHER,
KANGXI RADICAL TILE/TONGUE/TOOTH/TRACK/TREE/TRIPOD/TURBAN/TURTLE/TWO/USE, KANGXI RADICAL TWO
HANDS, KANGXI RADICAL VALLEY/VILLAGE/WALK/WATER/WEAPON/WEST/WHEAT/WHITE/WIND/WINE, KANGXI
RADICAL WOMAN/WORK/WRAP/WRONG/YELLOW, KANNADA AI LENGTH MARK, KANNADA DIGIT
EIGHT/FIVE/FOUR/NINE/ONE/SEVEN/SIX/THREE/TWO/ZERO, KANNADA LENGTH MARK, KANNADA LETTER
A/AA/AI/AU/BA/BHA/CA/CHA/DA/DDA/DDHA/DHA/E/EE/FA/GA/GHA/HA/I/II, KANNADA LETTER
JA/JHA/KA/KHA/LA/LLA/LLLA/MA/NA/NGA/NNA/NYA/O/OO/PA/PHA/RA/RRA, KANNADA LETTER NAKAARA POLLU,
KANNADA LETTER SA/SHA/SSA/TA/THA/TTA/TTHA/U/UU/VA/YA, KANNADA LETTER VOCALIC L/LL/R/RR, KANNADA
SIGN ANUSVARA/AVAGRAHA/CANDRABINDU/JIHVAMULIYA/NUKTA/SIDDHAM, KANNADA SIGN SPACING CANDRABINDU,
KANNADA SIGN UPADHMANIYA/VIRAMA/VISARGA, KANNADA VOWEL SIGN AA/AI/AU/E/EE/I/II/O/OO/U/UU,
KANNADA VOWEL SIGN VOCALIC L/LL/R/RR, KATAKANA DIGRAPH KOTO, KATAKANA ITERATION MARK, KATAKANA
LETTER A/BA/BE/BI/BO/BU/DA/DE/DI/DO/DU/E/GA/GE/GI/GO/GU/HA/HE/HI/HO/HU, KATAKANA LETTER ARCHAIC
WU/YE/YI, KATAKANA LETTER ARCHAIC/SMALL E, KATAKANA LETTER
I/KA/KE/KI/KO/KU/MA/ME/MI/MO/MU/N/NA/NE/NI/NO/NU/O/PA/PE/PI/PO, KATAKANA LETTER MINNAN NASALIZED
TONE-1/TONE-2/TONE-3/TONE-4/TONE-5/TONE-7/TONE-8, KATAKANA LETTER MINNAN
TONE-2/TONE-3/TONE-4/TONE-5/TONE-7/TONE-8, KATAKANA LETTER
PU/RA/RE/RI/RO/RU/SA/SE/SI/SO/SU/TA/TE/TI/TO/TU/U/VA/VE/VI/VO, KATAKANA LETTER SMALL
A/HA/HE/HI/HO/HU/I/KA/KE/KU/MU/N/NU/O/RA/RE/RI/RO/RU/SI/SU/TO, KATAKANA LETTER SMALL
TU/U/WA/WE/WI/WO/YA/YO/YU, KATAKANA LETTER VU/WA/WE/WI/WO/YA/YO/YU/ZA/ZE/ZI/ZO/ZU, KATAKANA
MIDDLE DOT, KATAKANA VOICED ITERATION MARK, KATAKANA-HIRAGANA DOUBLE HYPHEN, KATAKANA-HIRAGANA
PROLONGED/SEMI-VOICED/VOICED SOUND MARK, KAYAH LI DIGIT
EIGHT/FIVE/FOUR/NINE/ONE/SEVEN/SIX/THREE/TWO/ZERO, KAYAH LI LETTER
A/BA/CA/DA/GA/HA/HTA/I/KA/KHA/LA/MA/NA/NGA/NYA/OE/OO/PA/PHA/RA, KAYAH LI LETTER
SA/SHA/TA/THA/VA/WA/YA/ZA, KAYAH LI SIGN CWI/SHYA, KAYAH LI TONE CALYA PLOPHU, KAYAH LI TONE
CALYA/PLOPHU, KAYAH LI VOWEL E/EE/O/U/UE, KELVIN SIGN, KEY, KEYBOARD, KEYBOARD AND MOUSE, KEYCAP
TEN, KHAROSHTHI DIGIT FOUR/ONE/THREE/TWO, KHAROSHTHI FRACTION ONE HALF, KHAROSHTHI LETTER
A/BA/BHA/CA/CHA/DA/DDA/DDHA/DHA/GA/GHA/HA/JA/KA/KHA/KKA/LA/MA, KHAROSHTHI LETTER
NA/NNA/NYA/PA/PHA/RA/SA/SHA/SSA/TA/THA/TTA/TTHA/TTTA/TTTHA/VA, KHAROSHTHI LETTER VHA/YA/ZA,
KHAROSHTHI NUMBER ONE HUNDRED/THOUSAND, KHAROSHTHI NUMBER TEN/TWENTY, KHAROSHTHI PUNCTUATION
CIRCLE/DANDA/DOT/LINES/LOTUS/MANGALAM, KHAROSHTHI PUNCTUATION CRESCENT BAR, KHAROSHTHI
PUNCTUATION DOUBLE DANDA, KHAROSHTHI PUNCTUATION SMALL CIRCLE, KHAROSHTHI SIGN
ANUSVARA/CAUDA/VISARGA, KHAROSHTHI SIGN BAR ABOVE, KHAROSHTHI SIGN DOT BELOW, KHAROSHTHI SIGN
DOUBLE RING BELOW, KHAROSHTHI VIRAMA, KHAROSHTHI VOWEL LENGTH MARK, KHAROSHTHI VOWEL SIGN
E/I/O/U, KHAROSHTHI VOWEL SIGN VOCALIC R, KHITAN SMALL SCRIPT
CHARACTER-18B00/CHARACTER-18B01/CHARACTER-18B02/CHARACTER-18B03, KHITAN SMALL SCRIPT
CHARACTER-18B04/CHARACTER-18B05/CHARACTER-18B06/CHARACTER-18B07, KHITAN SMALL SCRIPT
CHARACTER-18B08/CHARACTER-18B09/CHARACTER-18B0A/CHARACTER-18B0B, KHITAN SMALL SCRIPT
CHARACTER-18B0C/CHARACTER-18B0D/CHARACTER-18B0E/CHARACTER-18B0F, KHITAN SMALL SCRIPT
CHARACTER-18B10/CHARACTER-18B11/CHARACTER-18B12/CHARACTER-18B13, KHITAN SMALL SCRIPT
CHARACTER-18B14/CHARACTER-18B15/CHARACTER-18B16/CHARACTER-18B17, KHITAN SMALL SCRIPT
CHARACTER-18B18/CHARACTER-18B19/CHARACTER-18B1A/CHARACTER-18B1B, KHITAN SMALL SCRIPT
CHARACTER-18B1C/CHARACTER-18B1D/CHARACTER-18B1E/CHARACTER-18B1F, KHITAN SMALL SCRIPT
CHARACTER-18B20/CHARACTER-18B21/CHARACTER-18B22/CHARACTER-18B23, KHITAN SMALL SCRIPT
CHARACTER-18B24/CHARACTER-18B25/CHARACTER-18B26/CHARACTER-18B27, KHITAN SMALL SCRIPT
CHARACTER-18B28/CHARACTER-18B29/CHARACTER-18B2A/CHARACTER-18B2B, KHITAN SMALL SCRIPT
CHARACTER-18B2C/CHARACTER-18B2D/CHARACTER-18B2E/CHARACTER-18B2F, KHITAN SMALL SCRIPT
CHARACTER-18B30/CHARACTER-18B31/CHARACTER-18B32/CHARACTER-18B33, KHITAN SMALL SCRIPT
CHARACTER-18B34/CHARACTER-18B35/CHARACTER-18B36/CHARACTER-18B37, KHITAN SMALL SCRIPT
CHARACTER-18B38/CHARACTER-18B39/CHARACTER-18B3A/CHARACTER-18B3B, KHITAN SMALL SCRIPT
CHARACTER-18B3C/CHARACTER-18B3D/CHARACTER-18B3E/CHARACTER-18B3F, KHITAN SMALL SCRIPT
CHARACTER-18B40/CHARACTER-18B41/CHARACTER-18B42/CHARACTER-18B43, KHITAN SMALL SCRIPT
CHARACTER-18B44/CHARACTER-18B45/CHARACTER-18B46/CHARACTER-18B47, KHITAN SMALL SCRIPT
CHARACTER-18B48/CHARACTER-18B49/CHARACTER-18B4A/CHARACTER-18B4B, KHITAN SMALL SCRIPT
CHARACTER-18B4C/CHARACTER-18B4D/CHARACTER-18B4E/CHARACTER-18B4F, KHITAN SMALL SCRIPT
CHARACTER-18B50/CHARACTER-18B51/CHARACTER-18B52/CHARACTER-18B53, KHITAN SMALL SCRIPT
CHARACTER-18B54/CHARACTER-18B55/CHARACTER-18B56/CHARACTER-18B57, KHITAN SMALL SCRIPT
CHARACTER-18B58/CHARACTER-18B59/CHARACTER-18B5A/CHARACTER-18B5B, KHITAN SMALL SCRIPT
CHARACTER-18B5C/CHARACTER-18B5D/CHARACTER-18B5E/CHARACTER-18B5F, KHITAN SMALL SCRIPT
CHARACTER-18B60/CHARACTER-18B61/CHARACTER-18B62/CHARACTER-18B63, KHITAN SMALL SCRIPT
CHARACTER-18B64/CHARACTER-18B65/CHARACTER-18B66/CHARACTER-18B67, KHITAN SMALL SCRIPT
CHARACTER-18B68/CHARACTER-18B69/CHARACTER-18B6A/CHARACTER-18B6B, KHITAN SMALL SCRIPT
CHARACTER-18B6C/CHARACTER-18B6D/CHARACTER-18B6E/CHARACTER-18B6F, KHITAN SMALL SCRIPT
CHARACTER-18B70/CHARACTER-18B71/CHARACTER-18B72/CHARACTER-18B73, KHITAN SMALL SCRIPT
CHARACTER-18B74/CHARACTER-18B75/CHARACTER-18B76/CHARACTER-18B77, KHITAN SMALL SCRIPT
CHARACTER-18B78/CHARACTER-18B79/CHARACTER-18B7A/CHARACTER-18B7B, KHITAN SMALL SCRIPT
CHARACTER-18B7C/CHARACTER-18B7D/CHARACTER-18B7E/CHARACTER-18B7F, KHITAN SMALL SCRIPT
CHARACTER-18B80/CHARACTER-18B81/CHARACTER-18B82/CHARACTER-18B83, KHITAN SMALL SCRIPT
CHARACTER-18B84/CHARACTER-18B85/CHARACTER-18B86/CHARACTER-18B87, KHITAN SMALL SCRIPT
CHARACTER-18B88/CHARACTER-18B89/CHARACTER-18B8A/CHARACTER-18B8B, KHITAN SMALL SCRIPT
CHARACTER-18B8C/CHARACTER-18B8D/CHARACTER-18B8E/CHARACTER-18B8F, KHITAN SMALL SCRIPT
CHARACTER-18B90/CHARACTER-18B91/CHARACTER-18B92/CHARACTER-18B93, KHITAN SMALL SCRIPT
CHARACTER-18B94/CHARACTER-18B95/CHARACTER-18B96/CHARACTER-18B97, KHITAN SMALL SCRIPT
CHARACTER-18B98/CHARACTER-18B99/CHARACTER-18B9A/CHARACTER-18B9B, KHITAN SMALL SCRIPT
CHARACTER-18B9C/CHARACTER-18B9D/CHARACTER-18B9E/CHARACTER-18B9F, KHITAN SMALL SCRIPT
CHARACTER-18BA0/CHARACTER-18BA1/CHARACTER-18BA2/CHARACTER-18BA3, KHITAN SMALL SCRIPT
CHARACTER-18BA4/CHARACTER-18BA5/CHARACTER-18BA6/CHARACTER-18BA7, KHITAN SMALL SCRIPT
CHARACTER-18BA8/CHARACTER-18BA9/CHARACTER-18BAA/CHARACTER-18BAB, KHITAN SMALL SCRIPT
CHARACTER-18BAC/CHARACTER-18BAD/CHARACTER-18BAE/CHARACTER-18BAF, KHITAN SMALL SCRIPT
CHARACTER-18BB0/CHARACTER-18BB1/CHARACTER-18BB2/CHARACTER-18BB3, KHITAN SMALL SCRIPT
CHARACTER-18BB4/CHARACTER-18BB5/CHARACTER-18BB6/CHARACTER-18BB7, KHITAN SMALL SCRIPT
CHARACTER-18BB8/CHARACTER-18BB9/CHARACTER-18BBA/CHARACTER-18BBB, KHITAN SMALL SCRIPT
CHARACTER-18BBC/CHARACTER-18BBD/CHARACTER-18BBE/CHARACTER-18BBF, KHITAN SMALL SCRIPT
CHARACTER-18BC0/CHARACTER-18BC1/CHARACTER-18BC2/CHARACTER-18BC3, KHITAN SMALL SCRIPT
CHARACTER-18BC4/CHARACTER-18BC5/CHARACTER-18BC6/CHARACTER-18BC7, KHITAN SMALL SCRIPT
CHARACTER-18BC8/CHARACTER-18BC9/CHARACTER-18BCA/CHARACTER-18BCB, KHITAN SMALL SCRIPT
CHARACTER-18BCC/CHARACTER-18BCD/CHARACTER-18BCE/CHARACTER-18BCF, KHITAN SMALL SCRIPT
CHARACTER-18BD0/CHARACTER-18BD1/CHARACTER-18BD2/CHARACTER-18BD3, KHITAN SMALL SCRIPT
CHARACTER-18BD4/CHARACTER-18BD5/CHARACTER-18BD6/CHARACTER-18BD7, KHITAN SMALL SCRIPT
CHARACTER-18BD8/CHARACTER-18BD9/CHARACTER-18BDA/CHARACTER-18BDB, KHITAN SMALL SCRIPT
CHARACTER-18BDC/CHARACTER-18BDD/CHARACTER-18BDE/CHARACTER-18BDF, KHITAN SMALL SCRIPT
CHARACTER-18BE0/CHARACTER-18BE1/CHARACTER-18BE2/CHARACTER-18BE3, KHITAN SMALL SCRIPT
CHARACTER-18BE4/CHARACTER-18BE5/CHARACTER-18BE6/CHARACTER-18BE7, KHITAN SMALL SCRIPT
CHARACTER-18BE8/CHARACTER-18BE9/CHARACTER-18BEA/CHARACTER-18BEB, KHITAN SMALL SCRIPT
CHARACTER-18BEC/CHARACTER-18BED/CHARACTER-18BEE/CHARACTER-18BEF, KHITAN SMALL SCRIPT
CHARACTER-18BF0/CHARACTER-18BF1/CHARACTER-18BF2/CHARACTER-18BF3, KHITAN SMALL SCRIPT
CHARACTER-18BF4/CHARACTER-18BF5/CHARACTER-18BF6/CHARACTER-18BF7, KHITAN SMALL SCRIPT
CHARACTER-18BF8/CHARACTER-18BF9/CHARACTER-18BFA/CHARACTER-18BFB, KHITAN SMALL SCRIPT
CHARACTER-18BFC/CHARACTER-18BFD/CHARACTER-18BFE/CHARACTER-18BFF, KHITAN SMALL SCRIPT
CHARACTER-18C00/CHARACTER-18C01/CHARACTER-18C02/CHARACTER-18C03, KHITAN SMALL SCRIPT
CHARACTER-18C04/CHARACTER-18C05/CHARACTER-18C06/CHARACTER-18C07, KHITAN SMALL SCRIPT
CHARACTER-18C08/CHARACTER-18C09/CHARACTER-18C0A/CHARACTER-18C0B, KHITAN SMALL SCRIPT
CHARACTER-18C0C/CHARACTER-18C0D/CHARACTER-18C0E/CHARACTER-18C0F, KHITAN SMALL SCRIPT
CHARACTER-18C10/CHARACTER-18C11/CHARACTER-18C12/CHARACTER-18C13, KHITAN SMALL SCRIPT
CHARACTER-18C14/CHARACTER-18C15/CHARACTER-18C16/CHARACTER-18C17, KHITAN SMALL SCRIPT
CHARACTER-18C18/CHARACTER-18C19/CHARACTER-18C1A/CHARACTER-18C1B, KHITAN SMALL SCRIPT
CHARACTER-18C1C/CHARACTER-18C1D/CHARACTER-18C1E/CHARACTER-18C1F, KHITAN SMALL SCRIPT
CHARACTER-18C20/CHARACTER-18C21/CHARACTER-18C22/CHARACTER-18C23, KHITAN SMALL SCRIPT
CHARACTER-18C24/CHARACTER-18C25/CHARACTER-18C26/CHARACTER-18C27, KHITAN SMALL SCRIPT
CHARACTER-18C28/CHARACTER-18C29/CHARACTER-18C2A/CHARACTER-18C2B, KHITAN SMALL SCRIPT
CHARACTER-18C2C/CHARACTER-18C2D/CHARACTER-18C2E/CHARACTER-18C2F, KHITAN SMALL SCRIPT
CHARACTER-18C30/CHARACTER-18C31/CHARACTER-18C32/CHARACTER-18C33, KHITAN SMALL SCRIPT
CHARACTER-18C34/CHARACTER-18C35/CHARACTER-18C36/CHARACTER-18C37, KHITAN SMALL SCRIPT
CHARACTER-18C38/CHARACTER-18C39/CHARACTER-18C3A/CHARACTER-18C3B, KHITAN SMALL SCRIPT
CHARACTER-18C3C/CHARACTER-18C3D/CHARACTER-18C3E/CHARACTER-18C3F, KHITAN SMALL SCRIPT
CHARACTER-18C40/CHARACTER-18C41/CHARACTER-18C42/CHARACTER-18C43, KHITAN SMALL SCRIPT
CHARACTER-18C44/CHARACTER-18C45/CHARACTER-18C46/CHARACTER-18C47, KHITAN SMALL SCRIPT
CHARACTER-18C48/CHARACTER-18C49/CHARACTER-18C4A/CHARACTER-18C4B, KHITAN SMALL SCRIPT
CHARACTER-18C4C/CHARACTER-18C4D/CHARACTER-18C4E/CHARACTER-18C4F, KHITAN SMALL SCRIPT
CHARACTER-18C50/CHARACTER-18C51/CHARACTER-18C52/CHARACTER-18C53, KHITAN SMALL SCRIPT
CHARACTER-18C54/CHARACTER-18C55/CHARACTER-18C56/CHARACTER-18C57, KHITAN SMALL SCRIPT
CHARACTER-18C58/CHARACTER-18C59/CHARACTER-18C5A/CHARACTER-18C5B, KHITAN SMALL SCRIPT
CHARACTER-18C5C/CHARACTER-18C5D/CHARACTER-18C5E/CHARACTER-18C5F, KHITAN SMALL SCRIPT
CHARACTER-18C60/CHARACTER-18C61/CHARACTER-18C62/CHARACTER-18C63, KHITAN SMALL SCRIPT
CHARACTER-18C64/CHARACTER-18C65/CHARACTER-18C66/CHARACTER-18C67, KHITAN SMALL SCRIPT
CHARACTER-18C68/CHARACTER-18C69/CHARACTER-18C6A/CHARACTER-18C6B, KHITAN SMALL SCRIPT
CHARACTER-18C6C/CHARACTER-18C6D/CHARACTER-18C6E/CHARACTER-18C6F, KHITAN SMALL SCRIPT
CHARACTER-18C70/CHARACTER-18C71/CHARACTER-18C72/CHARACTER-18C73, KHITAN SMALL SCRIPT
CHARACTER-18C74/CHARACTER-18C75/CHARACTER-18C76/CHARACTER-18C77, KHITAN SMALL SCRIPT
CHARACTER-18C78/CHARACTER-18C79/CHARACTER-18C7A/CHARACTER-18C7B, KHITAN SMALL SCRIPT
CHARACTER-18C7C/CHARACTER-18C7D/CHARACTER-18C7E/CHARACTER-18C7F, KHITAN SMALL SCRIPT
CHARACTER-18C80/CHARACTER-18C81/CHARACTER-18C82/CHARACTER-18C83, KHITAN SMALL SCRIPT
CHARACTER-18C84/CHARACTER-18C85/CHARACTER-18C86/CHARACTER-18C87, KHITAN SMALL SCRIPT
CHARACTER-18C88/CHARACTER-18C89/CHARACTER-18C8A/CHARACTER-18C8B, KHITAN SMALL SCRIPT
CHARACTER-18C8C/CHARACTER-18C8D/CHARACTER-18C8E/CHARACTER-18C8F, KHITAN SMALL SCRIPT
CHARACTER-18C90/CHARACTER-18C91/CHARACTER-18C92/CHARACTER-18C93, KHITAN SMALL SCRIPT
CHARACTER-18C94/CHARACTER-18C95/CHARACTER-18C96/CHARACTER-18C97, KHITAN SMALL SCRIPT
CHARACTER-18C98/CHARACTER-18C99/CHARACTER-18C9A/CHARACTER-18C9B, KHITAN SMALL SCRIPT
CHARACTER-18C9C/CHARACTER-18C9D/CHARACTER-18C9E/CHARACTER-18C9F, KHITAN SMALL SCRIPT
CHARACTER-18CA0/CHARACTER-18CA1/CHARACTER-18CA2/CHARACTER-18CA3, KHITAN SMALL SCRIPT
CHARACTER-18CA4/CHARACTER-18CA5/CHARACTER-18CA6/CHARACTER-18CA7, KHITAN SMALL SCRIPT
CHARACTER-18CA8/CHARACTER-18CA9/CHARACTER-18CAA/CHARACTER-18CAB, KHITAN SMALL SCRIPT
CHARACTER-18CAC/CHARACTER-18CAD/CHARACTER-18CAE/CHARACTER-18CAF, KHITAN SMALL SCRIPT
CHARACTER-18CB0/CHARACTER-18CB1/CHARACTER-18CB2/CHARACTER-18CB3, KHITAN SMALL SCRIPT
CHARACTER-18CB4/CHARACTER-18CB5/CHARACTER-18CB6/CHARACTER-18CB7, KHITAN SMALL SCRIPT
CHARACTER-18CB8/CHARACTER-18CB9/CHARACTER-18CBA/CHARACTER-18CBB, KHITAN SMALL SCRIPT
CHARACTER-18CBC/CHARACTER-18CBD/CHARACTER-18CBE/CHARACTER-18CBF, KHITAN SMALL SCRIPT
CHARACTER-18CC0/CHARACTER-18CC1/CHARACTER-18CC2/CHARACTER-18CC3, KHITAN SMALL SCRIPT
CHARACTER-18CC4/CHARACTER-18CC5/CHARACTER-18CC6/CHARACTER-18CC7, KHITAN SMALL SCRIPT
CHARACTER-18CC8/CHARACTER-18CC9/CHARACTER-18CCA/CHARACTER-18CCB, KHITAN SMALL SCRIPT
CHARACTER-18CCC/CHARACTER-18CCD/CHARACTER-18CCE/CHARACTER-18CCF, KHITAN SMALL SCRIPT
CHARACTER-18CD0/CHARACTER-18CD1/CHARACTER-18CD2/CHARACTER-18CD3, KHITAN SMALL SCRIPT
CHARACTER-18CD4/CHARACTER-18CD5/FILLER, KHMER CURRENCY SYMBOL RIEL, KHMER DIGIT
EIGHT/FIVE/FOUR/NINE/ONE/SEVEN/SIX/THREE/TWO/ZERO, KHMER INDEPENDENT VOWEL
LY/LYY/QAA/QAI/QAQ/QAU/QE/QI/QII/QU/QUK/QUU/QUUV/RY/RYY, KHMER INDEPENDENT VOWEL QOO TYPE
ONE/TWO, KHMER LETTER BA/CA/CHA/CHO/CO/DA/DO/HA/KA/KHA/KHO/KO/LA/LO/MO/NGO/NNO/NO/NYO, KHMER
LETTER PHA/PHO/PO/QA/RO/SA/SHA/SSO/TA/THA/THO/TO/TTHA/TTHO/VO/YO, KHMER SIGN
AHSDA/ATTHACAN/AVAKRAHASANYA/BANTOC/BARIYOOSAN/BATHAMASAT, KHMER SIGN
BEYYAL/COENG/KAKABAT/KHAN/KOOMUUT/MUUSIKATOAN/NIKAHIT/REAHMUK, KHMER SIGN CAMNUC PII KUUH, KHMER
SIGN LEK TOO, KHMER SIGN PHNAEK MUAN, KHMER SIGN ROBAT/TOANDAKHIAT/TRIISAP/VIRIAM/YUUKALEAPINTU,
KHMER SIGN SAMYOK SANNYA, KHMER SYMBOL
BEI/BUON/DAP/DAP-BEI/DAP-BUON/DAP-MUOY/DAP-PII/DAP-PRAM/MUOY KOET/ROC, KHMER SYMBOL LEK ATTAK
BEI/BUON/MUOY/PII/PRAM/PRAM-BEI/PRAM-BUON/PRAM-MUOY/PRAM-PII, KHMER SYMBOL LEK ATTAK SON, KHMER
SYMBOL PATHAMASAT/TUTEYASAT, KHMER SYMBOL PII/PRAM/PRAM-BEI/PRAM-BUON/PRAM-MUOY/PRAM-PII
KOET/ROC, KHMER VOWEL INHERENT AQ, KHMER VOWEL INHERENT/SIGN AA, KHMER VOWEL SIGN
AE/AI/AU/E/I/IE/II/OE/OO/U/UA/UU/Y/YA/YY, KHOJKI ABBREVIATION SIGN, KHOJKI DANDA, KHOJKI DOUBLE
DANDA, KHOJKI DOUBLE SECTION MARK, KHOJKI LETTER
A/AA/AI/AU/BA/BBA/BHA/CA/CHA/DA/DDA/DDDA/DDHA/DHA/E/GA/GGA/GHA, KHOJKI LETTER
HA/I/JA/JJA/KA/KHA/LA/LLA/MA/NA/NGA/NNA/NYA/O/PA/PHA/RA/SA/TA, KHOJKI LETTER
THA/TTA/TTHA/U/VA/YA, KHOJKI SECTION MARK, KHOJKI SIGN ANUSVARA/NUKTA/SHADDA/SUKUN/VIRAMA,
KHOJKI VOWEL SIGN AA/AI/AU/E/I/II/O/U, KHOJKI WORD SEPARATOR, KHUDAWADI DIGIT
EIGHT/FIVE/FOUR/NINE/ONE/SEVEN/SIX/THREE/TWO/ZERO, KHUDAWADI LETTER
A/AA/AI/AU/BA/BBA/BHA/CA/CHA/DA/DDA/DDDA/DDHA/DHA/E/GA/GGA/GHA, KHUDAWADI LETTER
HA/I/II/JA/JHA/JJA/KA/KHA/LA/MA/NA/NGA/NNA/NYA/O/PA/PHA/RA/RRA, KHUDAWADI LETTER
SA/SHA/TA/THA/TTA/TTHA/U/UU/VA/YA, KHUDAWADI SIGN ANUSVARA/NUKTA/VIRAMA, KHUDAWADI VOWEL SIGN
AA/AI/AU/E/I/II/O/U/UU, KIMONO, KIP SIGN, KISS, KISS MARK, KISSING CAT FACE WITH CLOSED EYES,
KISSING FACE, KISSING FACE WITH CLOSED/SMILING EYES, KITE, KIWIFRUIT, KNEELING PERSON, KNOT,
KOALA, KOREAN STANDARD SYMBOL, KRONOS"),
  ('L', "
L B BAR SYMBOL, LAB COAT, LABEL, LACROSSE STICK AND BALL, LADDER, LADY BEETLE, LANGUAGE TAG, LAO
CANCELLATION MARK, LAO DIGIT EIGHT/FIVE/FOUR/NINE/ONE/SEVEN/SIX/THREE/TWO/ZERO, LAO
ELLIPSIS/NIGGAHITA, LAO HO/LETTER MO/NO, LAO KO LA, LAO LETTER
BO/CO/DO/KO/LO/NGO/NYO/O/PO/RO/TO/WO/YO, LAO LETTER FO FAY/FON, LAO LETTER FO/HO/KHO/PHO/SO/THO
SUNG/TAM, LAO LETTER KHMU GO/NYO, LAO LETTER LO LING/LOOT, LAO LETTER PALI
BHA/CHA/DDA/DDHA/DHA/GHA/JHA/LLA/NNA/NYA/TTA/TTHA, LAO LETTER SANSKRIT SHA/SSA, LAO SEMIVOWEL
SIGN LO/NYO, LAO SIGN PALI VIRAMA, LAO TONE MAI CATAWA/EK/THO/TI, LAO VOWEL SIGN
A/AA/AI/AM/AY/E/EI/I/II/O/U/UU/Y/YY, LAO VOWEL SIGN MAI KAN/KON, LARGE
BLUE/BROWN/GREEN/ORANGE/PURPLE/RED/YELLOW CIRCLE/SQUARE, LARGE BLUE/ORANGE DIAMOND, LARGE
CIRCLE, LARGE DOWN/UP TACK, LARGE LEFT TRIANGLE OPERATOR, LARGE ONE DOT OVER TWO DOTS
PUNCTUATION, LARGE ONE RING OVER TWO RINGS PUNCTUATION, LARGE TRIPLE VERTICAL BAR OPERATOR,
LARGE TWO DOTS OVER ONE DOT PUNCTUATION, LARGE TWO RINGS OVER ONE RING PUNCTUATION, LARGER THAN,
LARGER THAN OR EQUAL TO, LARI SIGN, LAST QUARTER MOON, LAST QUARTER MOON SYMBOL, LAST QUARTER
MOON WITH FACE, LATIN CAPITAL LETTER AFRICAN D, LATIN CAPITAL LETTER D WITH SMALL LETTER Z,
LATIN CAPITAL LETTER D WITH SMALL LETTER Z WITH CARON, LATIN CAPITAL LETTER HWAIR/WYNN, LATIN
CAPITAL LETTER I WITH DOT ABOVE, LATIN CAPITAL LETTER L/N WITH SMALL LETTER J, LATIN CAPITAL
LETTER O WITH MIDDLE TILDE, LATIN CAPITAL LETTER SMALL CAPITAL I, LATIN CAPITAL LETTER SMALL Q
WITH HOOK TAIL, LATIN CAPITAL/SMALL LETTER A WITH BREVE AND ACUTE/GRAVE/TILDE, LATIN
CAPITAL/SMALL LETTER A WITH BREVE AND DOT BELOW, LATIN CAPITAL/SMALL LETTER A WITH BREVE AND
HOOK ABOVE, LATIN CAPITAL/SMALL LETTER A WITH RING ABOVE AND ACUTE, LATIN CAPITAL/SMALL LETTER A
WITH RING BELOW, LATIN CAPITAL/SMALL LETTER
A/AA/AE/ALPHA/AO/AU/AV/AY/B/BETA/C/CHI/CON/CUATRILLO/D/DZ/E/ENG, LATIN CAPITAL/SMALL LETTER
A/AE/C/E/G/I/K/L/M/N/O/P/R/S/U/W/Y/Z WITH ACUTE, LATIN CAPITAL/SMALL LETTER A/AE/E/G/I/O/U/Y
WITH MACRON, LATIN CAPITAL/SMALL LETTER A/B/C/D/E/F/G/H/I/J/K/L/O/P/R/T/THORN/U/Y/Z WITH STROKE,
LATIN CAPITAL/SMALL LETTER A/B/C/D/E/F/G/H/M/N/O/P/R/S/T/W/X/Y/Z WITH DOT ABOVE, LATIN
CAPITAL/SMALL LETTER A/B/D/E/H/I/K/L/M/N/O/R/S/T/U/V/W/Y/Z WITH DOT BELOW, LATIN CAPITAL/SMALL
LETTER A/C/D/DZ/E/EZH/G/H/I/K/L/N/O/R/S/T/U/Z WITH CARON, LATIN CAPITAL/SMALL LETTER
A/C/E/G/H/I/J/O/S/U/W/Y/Z WITH CIRCUMFLEX, LATIN CAPITAL/SMALL LETTER A/E/G/I/O/U WITH BREVE,
LATIN CAPITAL/SMALL LETTER A/E/H/I/O/U/W/X/Y WITH DIAERESIS, LATIN CAPITAL/SMALL LETTER
A/E/I/N/O/U/V/Y WITH TILDE, LATIN CAPITAL/SMALL LETTER A/E/I/N/O/U/W/Y WITH GRAVE, LATIN
CAPITAL/SMALL LETTER A/E/I/O/R/U WITH DOUBLE GRAVE, LATIN CAPITAL/SMALL LETTER A/E/I/O/R/U WITH
INVERTED BREVE, LATIN CAPITAL/SMALL LETTER A/E/I/O/U WITH OGONEK, LATIN CAPITAL/SMALL LETTER
A/E/I/O/U/Y WITH HOOK ABOVE, LATIN CAPITAL/SMALL LETTER A/E/O WITH CIRCUMFLEX AND
ACUTE/GRAVE/TILDE, LATIN CAPITAL/SMALL LETTER A/E/O WITH CIRCUMFLEX AND DOT BELOW, LATIN
CAPITAL/SMALL LETTER A/E/O WITH CIRCUMFLEX AND HOOK ABOVE, LATIN CAPITAL/SMALL LETTER A/O WITH
DOT ABOVE AND MACRON, LATIN CAPITAL/SMALL LETTER A/O/U WITH DIAERESIS AND MACRON, LATIN
CAPITAL/SMALL LETTER A/U WITH RING ABOVE, LATIN CAPITAL/SMALL LETTER ANGLICANA W, LATIN
CAPITAL/SMALL LETTER AV WITH HORIZONTAL BAR, LATIN CAPITAL/SMALL LETTER
B/C/D/F/G/H/K/M/P/S/T/V/W/Y/Z WITH HOOK, LATIN CAPITAL/SMALL LETTER B/D WITH TOPBAR, LATIN
CAPITAL/SMALL LETTER B/D/K/L/N/R/T/Z WITH LINE BELOW, LATIN CAPITAL/SMALL LETTER B/P WITH
FLOURISH, LATIN CAPITAL/SMALL LETTER BROKEN/TURNED L, LATIN CAPITAL/SMALL LETTER C WITH CEDILLA
AND ACUTE, LATIN CAPITAL/SMALL LETTER C/D/E/G/H/K/L/N/R/S/T WITH CEDILLA, LATIN CAPITAL/SMALL
LETTER C/L WITH BAR, LATIN CAPITAL/SMALL LETTER C/Z WITH PALATAL HOOK, LATIN CAPITAL/SMALL
LETTER CLOSED/TURNED INSULAR G, LATIN CAPITAL/SMALL LETTER CUATRILLO WITH COMMA, LATIN
CAPITAL/SMALL LETTER D/E/L/N/T/U WITH CIRCUMFLEX BELOW, LATIN CAPITAL/SMALL LETTER D/S WITH
SHORT STROKE OVERLAY, LATIN CAPITAL/SMALL LETTER E WITH CEDILLA AND BREVE, LATIN CAPITAL/SMALL
LETTER E/I/U WITH TILDE BELOW, LATIN CAPITAL/SMALL LETTER E/O WITH MACRON AND ACUTE/GRAVE, LATIN
CAPITAL/SMALL LETTER EGYPTOLOGICAL AIN/ALEF, LATIN CAPITAL/SMALL LETTER
ESH/ET/ETH/EZH/F/G/GAMMA/GHA/H/HENG/I/IOTA/IS/J/K/L/LJ/M/N/NJ/O, LATIN CAPITAL/SMALL LETTER EZH
REVERSED, LATIN CAPITAL/SMALL LETTER G/K/N/R/S WITH OBLIQUE STROKE, LATIN CAPITAL/SMALL LETTER
GLOTTAL I/STOP/U, LATIN CAPITAL/SMALL LETTER GLOTTAL/TURNED A, LATIN CAPITAL/SMALL LETTER H WITH
BREVE BELOW, LATIN CAPITAL/SMALL LETTER H/K/N/Z WITH DESCENDER, LATIN CAPITAL/SMALL LETTER
HALF/TURNED H, LATIN CAPITAL/SMALL LETTER I/U WITH DIAERESIS AND ACUTE, LATIN CAPITAL/SMALL
LETTER INSULAR D/F/R, LATIN CAPITAL/SMALL LETTER INSULAR/SCRIPT G, LATIN CAPITAL/SMALL LETTER
INSULAR/SHARP/SIGMOID S, LATIN CAPITAL/SMALL LETTER INSULAR/TURNED T, LATIN CAPITAL/SMALL LETTER
J WITH CROSSED-TAIL, LATIN CAPITAL/SMALL LETTER K WITH STROKE AND DIAGONAL STROKE, LATIN
CAPITAL/SMALL LETTER K/Q/T/V WITH DIAGONAL STROKE, LATIN CAPITAL/SMALL LETTER L WITH BELT, LATIN
CAPITAL/SMALL LETTER L WITH DOUBLE BAR, LATIN CAPITAL/SMALL LETTER L WITH HIGH STROKE, LATIN
CAPITAL/SMALL LETTER L WITH MIDDLE DOT/TILDE, LATIN CAPITAL/SMALL LETTER L/R WITH DOT BELOW AND
MACRON, LATIN CAPITAL/SMALL LETTER MIDDLE SCOTS S, LATIN CAPITAL/SMALL LETTER MIDDLE-WELSH LL,
LATIN CAPITAL/SMALL LETTER MIDDLE-WELSH/TURNED V, LATIN CAPITAL/SMALL LETTER N WITH LEFT HOOK,
LATIN CAPITAL/SMALL LETTER N WITH LONG RIGHT LEG, LATIN CAPITAL/SMALL LETTER O WITH LONG STROKE
OVERLAY, LATIN CAPITAL/SMALL LETTER O WITH OGONEK/TILDE AND MACRON, LATIN CAPITAL/SMALL LETTER O
WITH STROKE AND ACUTE, LATIN CAPITAL/SMALL LETTER O WITH TILDE AND DIAERESIS, LATIN
CAPITAL/SMALL LETTER O/U WITH DOUBLE ACUTE, LATIN CAPITAL/SMALL LETTER O/U WITH HORN, LATIN
CAPITAL/SMALL LETTER O/U WITH HORN AND DOT BELOW, LATIN CAPITAL/SMALL LETTER O/U WITH HORN AND
GRAVE/TILDE, LATIN CAPITAL/SMALL LETTER O/U WITH HORN AND HOOK ABOVE, LATIN CAPITAL/SMALL LETTER
O/U WITH HORN/TILDE AND ACUTE, LATIN CAPITAL/SMALL LETTER O/Y WITH LOOP, LATIN CAPITAL/SMALL
LETTER OI/OMEGA/OO/OU/P/Q/R/S/SALTILLO/SCHWA/T/THORN/TRESILLO/TZ/U, LATIN CAPITAL/SMALL LETTER
OLD POLISH O, LATIN CAPITAL/SMALL LETTER OPEN O, LATIN CAPITAL/SMALL LETTER OPEN/REVERSED E,
LATIN CAPITAL/SMALL LETTER P WITH SQUIRREL TAIL, LATIN CAPITAL/SMALL LETTER P/Q/THORN WITH
STROKE THROUGH DESCENDER, LATIN CAPITAL/SMALL LETTER R WITH TAIL, LATIN CAPITAL/SMALL LETTER
R/RUM ROTUNDA, LATIN CAPITAL/SMALL LETTER REVERSED C WITH DOT, LATIN CAPITAL/SMALL LETTER
REVERSED HALF H, LATIN CAPITAL/SMALL LETTER REVERSED OPEN E, LATIN CAPITAL/SMALL LETTER S WITH
ACUTE/CARON AND DOT ABOVE, LATIN CAPITAL/SMALL LETTER S WITH DOT BELOW AND DOT ABOVE, LATIN
CAPITAL/SMALL LETTER S/T WITH COMMA BELOW, LATIN CAPITAL/SMALL LETTER S/Z WITH SWASH TAIL, LATIN
CAPITAL/SMALL LETTER T WITH RETROFLEX HOOK, LATIN CAPITAL/SMALL LETTER TONE FIVE/SIX/TWO, LATIN
CAPITAL/SMALL LETTER TURNED ALPHA/K/M, LATIN CAPITAL/SMALL LETTER U BAR, LATIN CAPITAL/SMALL
LETTER U WITH DIAERESIS AND CARON/GRAVE, LATIN CAPITAL/SMALL LETTER U WITH DIAERESIS BELOW,
LATIN CAPITAL/SMALL LETTER U WITH MACRON AND DIAERESIS, LATIN CAPITAL/SMALL LETTER
UPSILON/V/VEND/VY/W/X/Y/YOGH/Z, LATIN CAPITAL/SMALL LETTER VISIGOTHIC Z, LATIN CAPITAL/SMALL
LETTER VOLAPUK AE/OE/UE, LATIN CAPITAL/SMALL LIGATURE IJ/OE, LATIN CROSS, LATIN EPIGRAPHIC
LETTER ARCHAIC/INVERTED M, LATIN EPIGRAPHIC LETTER I LONGA, LATIN EPIGRAPHIC LETTER REVERSED
F/P, LATIN EPIGRAPHIC LETTER SIDEWAYS I, LATIN LETTER AIN/WYNN/YR, LATIN LETTER
ALVEOLAR/BILABIAL/DENTAL/LATERAL/RETROFLEX CLICK, LATIN LETTER BIDENTAL/BILABIAL PERCUSSIVE,
LATIN LETTER GLOTTAL STOP, LATIN LETTER GLOTTAL STOP WITH STROKE, LATIN LETTER INVERTED GLOTTAL
STOP, LATIN LETTER INVERTED GLOTTAL STOP WITH CURL, LATIN LETTER INVERTED/REVERSED GLOTTAL STOP
WITH STROKE, LATIN LETTER PHARYNGEAL VOICED FRICATIVE, LATIN LETTER RETROFLEX CLICK WITH
RETROFLEX HOOK, LATIN LETTER REVERSED ESH LOOP, LATIN LETTER SINOLOGICAL DOT, LATIN LETTER SMALL
CAPITAL A/AE/B/C/D/E/ETH/EZH/F/G/H/I/J/K/L/M/N/O/OE/OU/P/Q/R/RUM/S/T/U, LATIN LETTER SMALL
CAPITAL BARRED B, LATIN LETTER SMALL CAPITAL G WITH HOOK, LATIN LETTER SMALL CAPITAL
INVERTED/REVERSED/TURNED R, LATIN LETTER SMALL CAPITAL L WITH BELT/STROKE, LATIN LETTER SMALL
CAPITAL OPEN O, LATIN LETTER SMALL CAPITAL R WITH RIGHT LEG, LATIN LETTER SMALL CAPITAL REVERSED
N, LATIN LETTER SMALL CAPITAL TURNED E/G/K/M, LATIN LETTER SMALL CAPITAL V/W/Y/Z, LATIN LETTER
STRETCHED C, LATIN LETTER STRETCHED C WITH CURL, LATIN LETTER TWO WITH STROKE, LATIN LETTER
VOICED LARYNGEAL SPIRANT, LATIN SMALL CAPITAL LETTER I/U WITH STROKE, LATIN SMALL LETTER A
REVERSED-SCHWA, LATIN SMALL LETTER A WITH RIGHT HALF RING, LATIN SMALL LETTER
A/ALPHA/C/E/ESH/EZH/I/L/LEZH/N/O/SCHWA/U/Z WITH RETROFLEX HOOK, LATIN SMALL LETTER
B/D/ENG/ESH/EZH/F/G/H/K/L/M/N/P/R/S/T/V/X WITH PALATAL HOOK, LATIN SMALL LETTER
B/D/F/M/N/P/R/S/T/Z WITH MIDDLE TILDE, LATIN SMALL LETTER BARRED/BLACKLETTER/IOTIFIED/TURNED E,
LATIN SMALL LETTER BARRED/BLACKLETTER/SIDEWAYS O, LATIN SMALL LETTER BARRED/INVERTED ALPHA,
LATIN SMALL LETTER BASELINE ESH, LATIN SMALL LETTER BLACKLETTER/OPEN/SIDEWAYS O WITH STROKE,
LATIN SMALL LETTER BOTTOM/TOP HALF O, LATIN SMALL LETTER C/D/ESH/EZH/L/N/S/T/V/Z WITH CURL,
LATIN SMALL LETTER CHI WITH LOW LEFT SERIF, LATIN SMALL LETTER CHI/X WITH LOW RIGHT RING, LATIN
SMALL LETTER CLOSED OMEGA, LATIN SMALL LETTER CLOSED REVERSED OPEN E, LATIN SMALL LETTER
CLOSED/TURNED OPEN E, LATIN SMALL LETTER D WITH HOOK AND TAIL, LATIN SMALL LETTER D/EZH WITH
TAIL, LATIN SMALL LETTER DB/DEZH/DZ/FENG/LS/LZ/QP/TESH/TS DIGRAPH, LATIN SMALL LETTER
DELTA/DUM/HV/KRA/LEZH/LUM/MUM/NUM/PHI/RUM/TUM/UE/UI/UM/UO, LATIN SMALL LETTER DEZH/DZ/TESH/TS
DIGRAPH WITH RETROFLEX HOOK, LATIN SMALL LETTER DEZH/TESH DIGRAPH WITH PALATAL HOOK, LATIN SMALL
LETTER DOTLESS J, LATIN SMALL LETTER DOTLESS J WITH STROKE, LATIN SMALL LETTER DOTLESS J WITH
STROKE AND HOOK, LATIN SMALL LETTER DOTLESS/TURNED I, LATIN SMALL LETTER DOUBLE R WITH
CROSSED-TAIL, LATIN SMALL LETTER DOUBLE THORN/WYNN, LATIN SMALL LETTER
DOUBLE/SCRIPT/STIRRUP/TURNED R, LATIN SMALL LETTER DZ/TC DIGRAPH WITH CURL, LATIN SMALL LETTER E
WITH FLOURISH/NOTCH, LATIN SMALL LETTER ENG/M/N/R WITH CROSSED-TAIL, LATIN SMALL LETTER ESH WITH
DOUBLE BAR, LATIN SMALL LETTER ESH WITH DOUBLE BAR AND CURL, LATIN SMALL LETTER FENG DIGRAPH
WITH TRILL, LATIN SMALL LETTER H WITH LINE BELOW, LATIN SMALL LETTER HENG/Q/SCHWA WITH HOOK,
LATIN SMALL LETTER I WITH STROKE AND RETROFLEX HOOK, LATIN SMALL LETTER INVERTED/OPEN/TURNED OE,
LATIN SMALL LETTER IOTA/LAMBDA/UPSILON WITH STROKE, LATIN SMALL LETTER J WITH CARON, LATIN SMALL
LETTER L WITH BELT AND PALATAL HOOK, LATIN SMALL LETTER L WITH DOUBLE MIDDLE TILDE, LATIN SMALL
LETTER L WITH INVERTED LAZY S, LATIN SMALL LETTER L WITH MIDDLE RING, LATIN SMALL LETTER L WITH
RETROFLEX HOOK AND BELT, LATIN SMALL LETTER L/R WITH FISHHOOK, LATIN SMALL LETTER LENIS F, LATIN
SMALL LETTER LONG S, LATIN SMALL LETTER LONG S WITH DIAGONAL/HIGH STROKE, LATIN SMALL LETTER
LONG S WITH DOT ABOVE, LATIN SMALL LETTER N PRECEDED BY APOSTROPHE, LATIN SMALL LETTER O WITH
LOW RING INSIDE, LATIN SMALL LETTER OPEN E/O WITH RETROFLEX HOOK, LATIN SMALL LETTER Q WITH HOOK
TAIL, LATIN SMALL LETTER R WITH FISHHOOK AND MIDDLE TILDE, LATIN SMALL LETTER R WITH FISHHOOK
AND PALATAL HOOK, LATIN SMALL LETTER R WITH LONG LEG, LATIN SMALL LETTER R WITHOUT HANDLE, LATIN
SMALL LETTER RAMS HORN, LATIN SMALL LETTER REVERSED C/ENG/K, LATIN SMALL LETTER REVERSED OPEN E
WITH HOOK, LATIN SMALL LETTER REVERSED OPEN E WITH RETROFLEX HOOK, LATIN SMALL LETTER REVERSED R
WITH FISHHOOK, LATIN SMALL LETTER REVERSED SCRIPT G, LATIN SMALL LETTER SAKHA YAT, LATIN SMALL
LETTER SCRIPT G WITH CROSSED-TAIL, LATIN SMALL LETTER SCRIPT R WITH RING, LATIN SMALL LETTER
SIDEWAYS DIAERESIZED U, LATIN SMALL LETTER SIDEWAYS OPEN O, LATIN SMALL LETTER SIDEWAYS TURNED
M, LATIN SMALL LETTER SIDEWAYS U, LATIN SMALL LETTER SQUAT REVERSED ESH, LATIN SMALL LETTER T
WITH DIAERESIS, LATIN SMALL LETTER T WITH HOOK AND RETROFLEX HOOK, LATIN SMALL LETTER TAILLESS
PHI, LATIN SMALL LETTER TH WITH STRIKETHROUGH, LATIN SMALL LETTER TURNED AE/DELTA/G/UI/W/Y,
LATIN SMALL LETTER TURNED H WITH FISHHOOK, LATIN SMALL LETTER TURNED H WITH FISHHOOK AND TAIL,
LATIN SMALL LETTER TURNED M/R WITH LONG LEG, LATIN SMALL LETTER TURNED O OPEN-O, LATIN SMALL
LETTER TURNED O OPEN-O WITH STROKE, LATIN SMALL LETTER TURNED OE WITH HORIZONTAL STROKE, LATIN
SMALL LETTER TURNED OE WITH STROKE, LATIN SMALL LETTER TURNED R WITH HOOK/TAIL, LATIN SMALL
LETTER TURNED R WITH LONG LEG AND RETROFLEX HOOK, LATIN SMALL LETTER TURNED R WITH MIDDLE TILDE,
LATIN SMALL LETTER TURNED R WITH PALATAL HOOK, LATIN SMALL LETTER TURNED T WITH CURL, LATIN
SMALL LETTER TURNED Y WITH BELT, LATIN SMALL LETTER U BAR WITH SHORT RIGHT LEG, LATIN SMALL
LETTER U WITH LEFT HOOK, LATIN SMALL LETTER U/Y WITH SHORT RIGHT LEG, LATIN SMALL LETTER V WITH
RIGHT HOOK, LATIN SMALL LETTER W/Y WITH RING ABOVE, LATIN SMALL LETTER X WITH LONG LEFT LEG,
LATIN SMALL LETTER X WITH LONG LEFT LEG AND LOW RIGHT RING, LATIN SMALL LETTER X WITH LONG LEFT
LEG WITH SERIF, LATIN SMALL LIGATURE FF/FFI/FFL/FI/FL/ST, LATIN SMALL LIGATURE LONG S T, LATIN
SUBSCRIPT SMALL LETTER A/E/H/I/J/K/L/M/N/O/P/R/S/SCHWA/T/U/V/X, LEAF FLUTTERING IN WIND, LEAFY
GREEN, LEDGER, LEFT AND LOWER/UPPER AND RIGHT TRIANGULAR THREE QUARTERS BLOCK, LEFT AND
LOWER/UPPER ONE EIGHTH BLOCK, LEFT AND RIGHT DOUBLE TURNSTILE, LEFT AND RIGHT TACK, LEFT AND
RIGHT TRIANGULAR HALF BLOCK, LEFT ANGER/SPEECH/THOUGHT BUBBLE, LEFT ANGLE BRACKET WITH DOT, LEFT
ANGLE/CORNER/CURLY/SQUARE/SUBSTITUTION/TRANSPOSITION BRACKET, LEFT ARC LESS-THAN BRACKET, LEFT
ARROW WITH CIRCLED PLUS, LEFT ARROW WITH SMALL CIRCLE, LEFT BARB DOWN/UP RIGHT BARB DOWN/UP
HARPOON, LEFT BLACK/WHITE LENTICULAR BRACKET, LEFT BLACK/WHITE TORTOISE SHELL BRACKET, LEFT
CEILING/FLOOR/LUGGAGE/MULTIMAP/PARENTHESIS/TACK, LEFT CLOSED ENTRY, LEFT CURLY BRACKET
LOWER/UPPER HOOK, LEFT CURLY BRACKET MIDDLE PIECE, LEFT DOTTED SUBSTITUTION BRACKET, LEFT DOUBLE
ANGLE BRACKET, LEFT DOUBLE WIGGLY FENCE, LEFT DOUBLE/SINGLE QUOTATION MARK, LEFT DOUBLE/WHITE
PARENTHESIS, LEFT FISH TAIL, LEFT FIVE/SEVEN/THREE EIGHTHS BLOCK, LEFT HALF BLACK CIRCLE/STAR,
LEFT HALF BLOCK/CIRCLE/FOLDER, LEFT HALF CIRCLE WITH DOT, LEFT HALF CIRCLE WITH FOUR/THREE/TWO
DOTS, LEFT HALF INVERSE MEDIUM SHADE AND RIGHT HALF BLOCK, LEFT HALF MEDIUM SHADE, LEFT HALF
RUNNING MAN, LEFT HAND TELEPHONE RECEIVER, LEFT LOW PARAPHRASE BRACKET, LEFT NORMAL FACTOR
SEMIDIRECT PRODUCT, LEFT ONE EIGHTH/QUARTER BLOCK, LEFT OUTER JOIN, LEFT PARENTHESIS EXTENSION,
LEFT PARENTHESIS LOWER/UPPER HOOK, LEFT RAISED OMISSION BRACKET, LEFT RIGHT ARROW, LEFT RIGHT
ARROW THROUGH SMALL CIRCLE, LEFT RIGHT ARROW WITH DOUBLE VERTICAL STROKE, LEFT RIGHT ARROW WITH
STROKE, LEFT RIGHT ARROW WITH VERTICAL STROKE, LEFT RIGHT
BLACK/DOUBLE/OPEN-HEADED/SANS-SERIF/TRIANGLE-HEADED/WAVE/WHITE ARROW, LEFT RIGHT DOUBLE ARROW
WITH STROKE, LEFT RIGHT DOUBLE ARROW WITH VERTICAL STROKE, LEFT S-SHAPED BAG DELIMITER, LEFT
SEMIDIRECT PRODUCT, LEFT SIDEWAYS U BRACKET, LEFT SQUARE BRACKET EXTENSION, LEFT SQUARE BRACKET
LOWER/UPPER CORNER, LEFT SQUARE BRACKET WITH DOUBLE STROKE, LEFT SQUARE BRACKET WITH
QUILL/STROKE/UNDERBAR, LEFT SQUARE BRACKET WITH TICK IN BOTTOM/TOP CORNER, LEFT THIRD WHITE
RIGHT POINTING INDEX, LEFT THREE QUARTERS BLOCK, LEFT TORTOISE SHELL BRACKET, LEFT TRIANGLE
BESIDE VERTICAL BAR, LEFT TRIANGULAR ONE QUARTER BLOCK, LEFT VERTICAL BAR WITH QUILL, LEFT
VERTICAL BOX LINE, LEFT WHITE CORNER/CURLY/SQUARE BRACKET, LEFT WIGGLY FENCE, LEFT WRITING HAND,
LEFT-FACING ARMENIAN ETERNITY SIGN, LEFT-FACING FIST, LEFT-FACING SVASTI SIGN, LEFT-FACING
SVASTI SIGN WITH DOTS, LEFT-HANDED INTERLACED PENTAGRAM, LEFT-POINTING ANGLE BRACKET,
LEFT-POINTING CURVED ANGLE BRACKET, LEFT-POINTING DOUBLE ANGLE QUOTATION MARK, LEFT-POINTING
MAGNIFYING GLASS, LEFT-SHADED WHITE RIGHTWARDS ARROW, LEFT-SIDE ARC ANTICLOCKWISE ARROW,
LEFT-TO-RIGHT EMBEDDING/ISOLATE/MARK/OVERRIDE, LEFTWARDS ARROW ABOVE ALMOST EQUAL TO, LEFTWARDS
ARROW ABOVE REVERSE ALMOST EQUAL TO, LEFTWARDS ARROW ABOVE REVERSE TILDE OPERATOR, LEFTWARDS
ARROW ABOVE SHORT RIGHTWARDS ARROW, LEFTWARDS ARROW ABOVE TILDE OPERATOR, LEFTWARDS ARROW AND
UPPER AND LOWER ONE EIGHTH BLOCK, LEFTWARDS ARROW FROM BAR TO BLACK DIAMOND, LEFTWARDS ARROW
FROM/TO BAR, LEFTWARDS ARROW OVER RIGHTWARDS ARROW, LEFTWARDS ARROW THROUGH LESS-THAN/SUBSET/X,
LEFTWARDS ARROW TO BAR OVER RIGHTWARDS ARROW TO BAR, LEFTWARDS ARROW TO BLACK DIAMOND, LEFTWARDS
ARROW WITH DOTTED STEM, LEFTWARDS ARROW WITH DOUBLE VERTICAL STROKE, LEFTWARDS ARROW WITH
EQUILATERAL ARROWHEAD, LEFTWARDS ARROW WITH HOOK/LOOP/STROKE/TAIL, LEFTWARDS ARROW WITH
LARGE/MEDIUM/SMALL TRIANGLE ARROWHEAD, LEFTWARDS ARROW WITH NOTCHED TAIL, LEFTWARDS ARROW WITH
PLUS BELOW, LEFTWARDS ARROW WITH SMALL EQUILATERAL ARROWHEAD, LEFTWARDS ARROW WITH TAIL WITH
DOUBLE VERTICAL STROKE, LEFTWARDS ARROW WITH TAIL WITH VERTICAL STROKE, LEFTWARDS ARROW WITH TIP
DOWNWARDS/UPWARDS, LEFTWARDS ARROW WITH VERTICAL STROKE, LEFTWARDS ARROW/ARROW-TAIL/HAND/ROCKET,
LEFTWARDS BACK-TILTED/FRONT-TILTED SHADOWED WHITE ARROW, LEFTWARDS BLACK CIRCLED WHITE ARROW,
LEFTWARDS BLACK/COMPRESSED/DASHED/DOUBLE/FINGER-POST/HEAVY/OPEN-HEADED ARROW, LEFTWARDS
BOTTOM-SHADED/LEFT-SHADED/RIGHT-SHADED WHITE ARROW, LEFTWARDS DOUBLE ARROW WITH STROKE,
LEFTWARDS DOUBLE ARROW-TAIL, LEFTWARDS DOUBLE/TRIPLE DASH ARROW, LEFTWARDS DOUBLE/TWO-HEADED
ARROW FROM BAR, LEFTWARDS DOUBLE/TWO-HEADED ARROW WITH VERTICAL STROKE, LEFTWARDS HARPOON OVER
RIGHTWARDS HARPOON, LEFTWARDS HARPOON WITH BARB DOWN ABOVE RIGHTWARDS HARPOON WITH BARB DOWN,
LEFTWARDS HARPOON WITH BARB DOWN BELOW LONG DASH, LEFTWARDS HARPOON WITH BARB DOWN/UP FROM/TO
BAR, LEFTWARDS HARPOON WITH BARB DOWNWARDS/UPWARDS, LEFTWARDS HARPOON WITH BARB UP ABOVE
LEFTWARDS HARPOON WITH BARB DOWN, LEFTWARDS HARPOON WITH BARB UP ABOVE LONG DASH, LEFTWARDS
HARPOON WITH BARB UP ABOVE RIGHTWARDS HARPOON WITH BARB UP, LEFTWARDS HEAVY COMPRESSED ARROW,
LEFTWARDS PAIRED ARROWS, LEFTWARDS QUADRUPLE/SANS-SERIF/SQUARED/SQUIGGLE/TRIANGLE-HEADED/TRIPLE
ARROW, LEFTWARDS TOP SHADED WHITE ARROW, LEFTWARDS TRIANGLE ARROWHEAD, LEFTWARDS TRIANGLE-HEADED
ARROW OVER RIGHTWARDS TRIANGLE-HEADED ARROW, LEFTWARDS TRIANGLE-HEADED ARROW TO BAR, LEFTWARDS
TRIANGLE-HEADED ARROW WITH BOLD/HEAVY/MEDIUM/NARROW SHAFT, LEFTWARDS TRIANGLE-HEADED ARROW WITH
DOUBLE HORIZONTAL STROKE, LEFTWARDS TRIANGLE-HEADED ARROW WITH LONG TIP DOWNWARDS/UPWARDS,
LEFTWARDS TRIANGLE-HEADED ARROW WITH VERY HEAVY SHAFT, LEFTWARDS TRIANGLE-HEADED DASHED ARROW,
LEFTWARDS TRIANGLE-HEADED PAIRED ARROWS, LEFTWARDS TRIANGLE-HEADED/TWO-HEADED ARROW WITH DOUBLE
VERTICAL STROKE, LEFTWARDS TWO HEADED ARROW, LEFTWARDS TWO-HEADED ARROW WITH TAIL, LEFTWARDS
TWO-HEADED ARROW WITH TAIL WITH DOUBLE VERTICAL STROKE, LEFTWARDS TWO-HEADED ARROW WITH TAIL
WITH VERTICAL STROKE, LEFTWARDS TWO-HEADED ARROW WITH TRIANGLE ARROWHEADS, LEFTWARDS TWO-HEADED
TRIPLE DASH ARROW, LEFTWARDS WAVE/WHITE ARROW, LEFTWARDS WHITE ARROW WITHIN TRIANGLE ARROWHEAD,
LEG, LEMON, LEO, LEOPARD, LEPCHA CONSONANT SIGN K/KANG/L/M/N/NYIN-DO/P/R/T, LEPCHA DIGIT
EIGHT/FIVE/FOUR/NINE/ONE/SEVEN/SIX/THREE/TWO/ZERO, LEPCHA LETTER
A/BA/BLA/CA/CHA/DA/DDA/DZA/FA/FLA/GA/GLA/HA/HLA/JA/KA/KHA/KLA, LEPCHA LETTER
LA/MA/MLA/NA/NGA/NYA/PA/PHA/PLA/RA/SA/SHA/TA/THA/TSA/TSHA/TTA, LEPCHA LETTER TTHA/VA/WA/YA,
LEPCHA PUNCTUATION CER-WA/TA-ROL/TSHOOK, LEPCHA PUNCTUATION NYET THYOOM TA-ROL, LEPCHA
PUNCTUATION TSHOOK CER-WA, LEPCHA SIGN NUKTA/RAN, LEPCHA SUBJOINED LETTER RA/YA, LEPCHA VOWEL
SIGN AA/E/I/O/OO/U/UU, LESS-THAN ABOVE DOUBLE-LINE EQUAL ABOVE GREATER-THAN, LESS-THAN ABOVE
GREATER-THAN ABOVE DOUBLE-LINE EQUAL, LESS-THAN ABOVE LEFTWARDS ARROW, LESS-THAN ABOVE SIMILAR
ABOVE GREATER-THAN, LESS-THAN ABOVE SIMILAR OR EQUAL, LESS-THAN ABOVE SLANTED EQUAL ABOVE
GREATER-THAN ABOVE SLANTED EQUAL, LESS-THAN AND NOT APPROXIMATE, LESS-THAN AND SINGLE-LINE NOT
EQUAL TO, LESS-THAN BUT NOT EQUAL/EQUIVALENT TO, LESS-THAN CLOSED BY CURVE, LESS-THAN CLOSED BY
CURVE ABOVE SLANTED EQUAL, LESS-THAN EQUAL TO OR GREATER-THAN, LESS-THAN OR
APPROXIMATE/GREATER-THAN, LESS-THAN OR EQUIVALENT TO, LESS-THAN OR SLANTED EQUAL TO, LESS-THAN
OR SLANTED EQUAL TO WITH DOT ABOVE RIGHT, LESS-THAN OR SLANTED EQUAL TO WITH DOT ABOVE/INSIDE,
LESS-THAN OR/OVER EQUAL TO, LESS-THAN SIGN, LESS-THAN WITH CIRCLE INSIDE, LESS-THAN WITH DOT,
LESS-THAN WITH QUESTION MARK ABOVE, LEVEL SLIDER, LF, LIBRA, LIGATURE OPEN ET ORNAMENT, LIGHT
CHECK MARK, LIGHT EIGHT/FIVE/SIX SPOKED ASTERISK, LIGHT FIVE/FOUR/THREE/TWELVE POINTED BLACK
STAR, LIGHT FOUR POINTED BLACK CUSP, LIGHT GREEK CROSS, LIGHT LEFT/RIGHT TORTOISE SHELL BRACKET
ORNAMENT, LIGHT RAIL/SALTIRE/SHADE, LIGHT VERTICAL BAR, LIGHT WHITE SQUARE, LIGHTNING, LIGHTNING
MOOD, LIGHTNING MOOD BUBBLE, LIMBU DIGIT EIGHT/FIVE/FOUR/NINE/ONE/SEVEN/SIX/THREE/TWO/ZERO,
LIMBU EXCLAMATION/QUESTION MARK, LIMBU LETTER
BA/BHA/CA/CHA/DA/DHA/GA/GHA/GYAN/HA/JA/JHA/KA/KHA/LA/MA/NA/NGA, LIMBU LETTER
PA/PHA/RA/SA/SHA/SSA/TA/THA/TRA/WA/YA/YAN, LIMBU SIGN KEMPHRENG/LOO/MUKPHRENG/SA-I, LIMBU SMALL
LETTER ANUSVARA/KA/LA/MA/NA/NGA/PA/TA, LIMBU SMALL/SUBJOINED LETTER RA, LIMBU SUBJOINED LETTER
WA/YA, LIMBU VOWEL SIGN A/AI/AU/E/EE/I/O/OO/U, LIMBU VOWEL-CARRIER LETTER, LIMITED LIABILITY
SIGN, LINE FEED/SEPARATOR/TABULATION, LINE INTEGRATION NOT INCLUDING THE POLE, LINE INTEGRATION
WITH RECTANGULAR/SEMICIRCULAR PATH AROUND POLE, LINE TABULATION SET, LINEAR A SIGN
A028B/A100-102/A120B/A131C/A301/A302/A303/A304/A305/A306/A307, LINEAR A SIGN
A308/A309A/A309B/A309C/A310/A311/A312/A313A/A313B/A313C/A314, LINEAR A SIGN
A315/A316/A317/A318/A319/A320/A321/A322/A323/A324/A325/A326, LINEAR A SIGN
A327/A328/A329/A330/A331/A332/A333/A334/A335/A336/A337/A338, LINEAR A SIGN
A339/A340/A341/A342/A343/A344/A345/A346/A347/A348/A349/A350, LINEAR A SIGN
A351/A352/A353/A354/A355/A356/A357/A358/A359/A360/A361/A362, LINEAR A SIGN
A363/A364/A365/A366/A367/A368/A369/A370/A371/A400-VAS/A401-VAS, LINEAR A SIGN
A402-VAS/A403-VAS/A404-VAS/A405-VAS/A406-VAS/A407-VAS/A408-VAS, LINEAR A SIGN
A409-VAS/A410-VAS/A411-VAS/A412-VAS/A413-VAS/A414-VAS/A415-VAS, LINEAR A SIGN
A416-VAS/A417-VAS/A418-VAS/A501/A502/A503/A504/A505/A506/A508, LINEAR A SIGN
A509/A510/A511/A512/A513/A515/A516/A520/A521/A523/A524/A525, LINEAR A SIGN
A526/A527/A528/A529/A530/A531/A532/A534/A535/A536/A537/A538, LINEAR A SIGN
A539/A540/A541/A542/A545/A547/A548/A549/A550/A551/A552/A553, LINEAR A SIGN
A554/A555/A556/A557/A559/A563/A564/A565/A566/A568/A569/A570, LINEAR A SIGN
A571/A572/A573/A574/A575/A576/A577/A578/A579/A580/A581/A582, LINEAR A SIGN
A583/A584/A585/A586/A587/A588/A589/A591/A592/A594/A595/A596, LINEAR A SIGN
A598/A600/A601/A602/A603/A604/A606/A608/A609/A610/A611/A612, LINEAR A SIGN
A613/A614/A615/A616/A617/A618/A619/A620/A621/A622/A623/A624, LINEAR A SIGN
A626/A627/A628/A629/A634/A637/A638/A640/A642/A643/A644/A645, LINEAR A SIGN
A646/A648/A649/A651/A652/A653/A654/A655/A656/A657/A658/A659, LINEAR A SIGN
A660/A661/A662/A663/A664/A800/A801/A802/A803/A804/A805/A806, LINEAR A SIGN A701 A, LINEAR A SIGN
A702 B, LINEAR A SIGN A703 D, LINEAR A SIGN A704 E, LINEAR A SIGN A705 F, LINEAR A SIGN A706 H,
LINEAR A SIGN A707 J, LINEAR A SIGN A708 K, LINEAR A SIGN A709 L, LINEAR A SIGN A709-2 L2,
LINEAR A SIGN A709-3 L3, LINEAR A SIGN A709-4 L4, LINEAR A SIGN A709-6 L6, LINEAR A SIGN A710 W,
LINEAR A SIGN A711 X, LINEAR A SIGN A712 Y, LINEAR A SIGN A713 OMEGA, LINEAR A SIGN A714 ABB,
LINEAR A SIGN A715 BB, LINEAR A SIGN A717 DD, LINEAR A SIGN A726 EYYY, LINEAR A SIGN A732 JE,
LINEAR A SIGN A807/AB001/AB002/AB003/AB004/AB005/AB006/AB007/AB008/AB009, LINEAR A SIGN
AB010/AB011/AB013/AB016/AB017/AB020/AB021/AB021F/AB021M/AB022, LINEAR A SIGN
AB022F/AB022M/AB023/AB023M/AB024/AB026/AB027/AB028/AB029/AB030, LINEAR A SIGN
AB031/AB034/AB037/AB038/AB039/AB040/AB041/AB044/AB045/AB046, LINEAR A SIGN
AB047/AB048/AB049/AB050/AB051/AB053/AB054/AB055/AB056/AB057, LINEAR A SIGN
AB058/AB059/AB060/AB061/AB065/AB066/AB067/AB069/AB070/AB073, LINEAR A SIGN
AB074/AB076/AB077/AB078/AB079/AB080/AB081/AB082/AB085/AB086, LINEAR A SIGN
AB087/AB118/AB120/AB122/AB123/AB131A/AB131B/AB164/AB171/AB180, LINEAR A SIGN AB188/AB191, LINEAR
B IDEOGRAM B100 MAN, LINEAR B IDEOGRAM B102 WOMAN, LINEAR B IDEOGRAM B104 DEER, LINEAR B
IDEOGRAM B105 EQUID, LINEAR B IDEOGRAM B105F MARE, LINEAR B IDEOGRAM B105M STALLION, LINEAR B
IDEOGRAM B106F EWE, LINEAR B IDEOGRAM B106M RAM, LINEAR B IDEOGRAM B107F SHE-GOAT, LINEAR B
IDEOGRAM B107M HE-GOAT, LINEAR B IDEOGRAM B108F SOW, LINEAR B IDEOGRAM B108M BOAR, LINEAR B
IDEOGRAM B109F COW, LINEAR B IDEOGRAM B109M BULL, LINEAR B IDEOGRAM B120 WHEAT, LINEAR B
IDEOGRAM B121 BARLEY, LINEAR B IDEOGRAM B122 OLIVE, LINEAR B IDEOGRAM B123 SPICE, LINEAR B
IDEOGRAM B125 CYPERUS, LINEAR B IDEOGRAM B130 OIL, LINEAR B IDEOGRAM B131 WINE, LINEAR B
IDEOGRAM B132/B142/B146/B150/B152/B153/B154/B157/B158/B160/B161/B164, LINEAR B IDEOGRAM B140
BRONZE, LINEAR B IDEOGRAM B141 GOLD, LINEAR B IDEOGRAM B145 WOOL, LINEAR B IDEOGRAM B151 HORN,
LINEAR B IDEOGRAM B159 CLOTH, LINEAR B IDEOGRAM B162 GARMENT, LINEAR B IDEOGRAM B163 ARMOUR,
LINEAR B IDEOGRAM B165/B166/B167/B168/B169/B170/B171/B172/B174/B177/B178/B179, LINEAR B IDEOGRAM
B173 MONTH, LINEAR B IDEOGRAM B176 TREE, LINEAR B IDEOGRAM
B180/B181/B182/B183/B184/B185/B189/B190/B232/B234/B236/B245, LINEAR B IDEOGRAM B191 HELMET,
LINEAR B IDEOGRAM B220 FOOTSTOOL, LINEAR B IDEOGRAM B225 BATHTUB, LINEAR B IDEOGRAM B230 SPEAR,
LINEAR B IDEOGRAM B231 ARROW, LINEAR B IDEOGRAM B233 SWORD, LINEAR B IDEOGRAM B240 WHEELED
CHARIOT, LINEAR B IDEOGRAM B241 CHARIOT, LINEAR B IDEOGRAM B242 CHARIOT FRAME, LINEAR B IDEOGRAM
B243 WHEEL, LINEAR B IDEOGRAM B246/B248/B249/B251/B252/B253/B255/B256/B257/B258/B259, LINEAR B
IDEOGRAM B254 DART, LINEAR B IDEOGRAM VESSEL
B155/B200/B201/B202/B203/B204/B205/B206/B207/B208/B209/B210, LINEAR B IDEOGRAM VESSEL
B211/B212/B213/B214/B215/B216/B217/B218/B219/B221/B222/B226, LINEAR B IDEOGRAM VESSEL
B227/B228/B229/B250/B305, LINEAR B MONOGRAM B127 KAPO, LINEAR B MONOGRAM B128 KANAKO, LINEAR B
MONOGRAM B133 AREPA, LINEAR B MONOGRAM B135 MERI, LINEAR B MONOGRAM B156 TURO2, LINEAR B
MONOGRAM B247 DIPTE, LINEAR B SYLLABLE B001 DA, LINEAR B SYLLABLE B002 RO, LINEAR B SYLLABLE
B003 PA, LINEAR B SYLLABLE B004 TE, LINEAR B SYLLABLE B005 TO, LINEAR B SYLLABLE B006 NA, LINEAR
B SYLLABLE B007 DI, LINEAR B SYLLABLE B008 A, LINEAR B SYLLABLE B009 SE, LINEAR B SYLLABLE B010
U, LINEAR B SYLLABLE B011 PO, LINEAR B SYLLABLE B012 SO, LINEAR B SYLLABLE B013 ME, LINEAR B
SYLLABLE B014 DO, LINEAR B SYLLABLE B015 MO, LINEAR B SYLLABLE B016 QA, LINEAR B SYLLABLE B017
ZA, LINEAR B SYLLABLE B020 ZO, LINEAR B SYLLABLE B021 QI, LINEAR B SYLLABLE B023 MU, LINEAR B
SYLLABLE B024 NE, LINEAR B SYLLABLE B025 A2, LINEAR B SYLLABLE B026 RU, LINEAR B SYLLABLE B027
RE, LINEAR B SYLLABLE B028 I, LINEAR B SYLLABLE B029 PU2, LINEAR B SYLLABLE B030 NI, LINEAR B
SYLLABLE B031 SA, LINEAR B SYLLABLE B032 QO, LINEAR B SYLLABLE B033 RA3, LINEAR B SYLLABLE B036
JO, LINEAR B SYLLABLE B037 TI, LINEAR B SYLLABLE B038 E, LINEAR B SYLLABLE B039 PI, LINEAR B
SYLLABLE B040 WI, LINEAR B SYLLABLE B041 SI, LINEAR B SYLLABLE B042 WO, LINEAR B SYLLABLE B043
A3, LINEAR B SYLLABLE B044 KE, LINEAR B SYLLABLE B045 DE, LINEAR B SYLLABLE B046 JE, LINEAR B
SYLLABLE B048 NWA, LINEAR B SYLLABLE B050 PU, LINEAR B SYLLABLE B051 DU, LINEAR B SYLLABLE B052
NO, LINEAR B SYLLABLE B053 RI, LINEAR B SYLLABLE B054 WA, LINEAR B SYLLABLE B055 NU, LINEAR B
SYLLABLE B057 JA, LINEAR B SYLLABLE B058 SU, LINEAR B SYLLABLE B059 TA, LINEAR B SYLLABLE B060
RA, LINEAR B SYLLABLE B061 O, LINEAR B SYLLABLE B062 PTE, LINEAR B SYLLABLE B065 JU, LINEAR B
SYLLABLE B066 TA2, LINEAR B SYLLABLE B067 KI, LINEAR B SYLLABLE B068 RO2, LINEAR B SYLLABLE B069
TU, LINEAR B SYLLABLE B070 KO, LINEAR B SYLLABLE B071 DWE, LINEAR B SYLLABLE B072 PE, LINEAR B
SYLLABLE B073 MI, LINEAR B SYLLABLE B074 ZE, LINEAR B SYLLABLE B075 WE, LINEAR B SYLLABLE B076
RA2, LINEAR B SYLLABLE B077 KA, LINEAR B SYLLABLE B078 QE, LINEAR B SYLLABLE B080 MA, LINEAR B
SYLLABLE B081 KU, LINEAR B SYLLABLE B085 AU, LINEAR B SYLLABLE B087 TWE, LINEAR B SYLLABLE B090
DWO, LINEAR B SYLLABLE B091 TWO, LINEAR B SYMBOL
B018/B019/B022/B034/B047/B049/B056/B063/B064/B079/B082/B083, LINEAR B SYMBOL B086/B089, LINK
SYMBOL, LINKED PAPERCLIPS, LION FACE, LIPS, LIPSTICK, LIRA SIGN, LISU LETTER
A/AE/BA/CA/CHA/DA/DZA/E/EU/FA/GA/GHA/HA/HHA/I/JA/KA/KHA/LA/MA, LISU LETTER
NA/NGA/O/OE/PA/PHA/SA/SHA/TA/THA/TSA/TSHA/U/UE/UH/WA/XA/YA/YHA, LISU LETTER TONE MYA
BO/CYA/JEU/NA/TI, LISU LETTER TONE NA PO, LISU LETTER ZA/ZHA, LISU PUNCTUATION COMMA, LISU
PUNCTUATION FULL STOP, LIVRE TOURNOIS SIGN, LIZARD, LLAMA, LOBSTER, LOCK, LOCK WITH INK PEN,
LOCKING-SHIFT ONE/ZERO, LOGICAL AND WITH UNDERBAR, LOGICAL AND/OR, LOGICAL AND/OR WITH DOT
ABOVE, LOGICAL AND/OR WITH DOUBLE OVERBAR/UNDERBAR, LOGICAL AND/OR WITH HORIZONTAL DASH, LOGICAL
AND/OR WITH MIDDLE STEM, LOGICAL OR OVERLAPPING LOGICAL AND, LOLLIPOP, LONG DASH FROM LEFT
MEMBER OF DOUBLE VERTICAL, LONG DIVISION/DRUM, LONG LEFT RIGHT ARROW, LONG LEFT RIGHT DOUBLE
ARROW, LONG LEFT/RIGHT TACK, LONG LEFTWARDS/RIGHTWARDS ARROW, LONG LEFTWARDS/RIGHTWARDS ARROW
FROM BAR, LONG LEFTWARDS/RIGHTWARDS DOUBLE ARROW FROM BAR, LONG LEFTWARDS/RIGHTWARDS
DOUBLE/SQUIGGLE ARROW, LOTION BOTTLE, LOTUS, LOUDLY CRYING FACE, LOVE HOTEL/LETTER, LOW
ASTERISK/BATTERY/KAVYKA/LINE, LOW BRIGHTNESS SYMBOL, LOW DOUBLE PRIME QUOTATION MARK, LOW KAVYKA
WITH DOT, LOWER BLADE SCISSORS, LOWER FIVE/SEVEN/THREE EIGHTHS BLOCK, LOWER HALF BLOCK/CIRCLE,
LOWER HALF INVERSE WHITE CIRCLE, LOWER HALF MEDIUM SHADE, LOWER LEFT BALLPOINT/FOUNTAIN PEN,
LOWER LEFT BLOCK DIAGONAL LOWER/UPPER MIDDLE LEFT TO LOWER CENTRE/RIGHT, LOWER LEFT BLOCK
DIAGONAL UPPER CENTRE TO LOWER RIGHT, LOWER LEFT BLOCK DIAGONAL UPPER CENTRE/LEFT TO LOWER/UPPER
MIDDLE RIGHT, LOWER LEFT BLOCK DIAGONAL UPPER LEFT TO LOWER CENTRE, LOWER LEFT BLOCK DIAGONAL
UPPER MIDDLE LEFT TO LOWER MIDDLE RIGHT, LOWER LEFT CRAYON/PAINTBRUSH, LOWER LEFT SEMICIRCULAR
ANTICLOCKWISE ARROW, LOWER LEFT/RIGHT PENCIL/TRIANGLE, LOWER LEFT/RIGHT QUADRANT CIRCULAR ARC,
LOWER LEFT/RIGHT TRIANGULAR MEDIUM SHADE, LOWER ONE EIGHTH/QUARTER BLOCK, LOWER RIGHT BLOCK
DIAGONAL LOWER CENTRE TO UPPER RIGHT, LOWER RIGHT BLOCK DIAGONAL LOWER CENTRE/LEFT TO
LOWER/UPPER MIDDLE RIGHT, LOWER RIGHT BLOCK DIAGONAL LOWER LEFT TO UPPER CENTRE, LOWER RIGHT
BLOCK DIAGONAL LOWER MIDDLE LEFT TO UPPER MIDDLE RIGHT, LOWER RIGHT BLOCK DIAGONAL LOWER/UPPER
MIDDLE LEFT TO UPPER CENTRE/RIGHT, LOWER RIGHT CORNER WITH DOT, LOWER RIGHT
DROP-SHADOWED/SHADOWED WHITE SQUARE, LOWER RIGHT SEMICIRCULAR CLOCKWISE ARROW, LOWER RIGHT
SHADOWED WHITE CIRCLE, LOWER THREE QUARTERS BLOCK, LOWER TRIANGULAR ONE QUARTER BLOCK, LOZENGE,
LOZENGE DIVIDED BY HORIZONTAL RULE, LRE, LRI, LRM, LRO, LUGGAGE, LUNGS, LYCIAN LETTER
A/AN/B/BH/D/E/EN/G/H/I/J/K/KK/L/M/MM/N/NN/P/Q/R/S/T/TH/TT/U/W/X, LYCIAN LETTER Z, LYDIAN LETTER
A/AN/B/C/D/E/EN/F/G/I/K/L/LY/M/N/NN/O/Q/R/S/SS/T/TT/U/V/Y, LYDIAN TRIANGULAR MARK, LYING FACE"),
  ('M', "
MACRON, MAGE, MAGIC WAND, MAGNET, MAHAJANI ABBREVIATION SIGN, MAHAJANI LETTER
A/BA/BHA/CA/CHA/DA/DDA/DDHA/DHA/E/GA/GHA/HA/I/JA/JHA/KA/KHA/LA, MAHAJANI LETTER
MA/NA/NNA/NYA/O/PA/PHA/RA/RRA/SA/TA/THA/TTA/TTHA/U/VA, MAHAJANI LIGATURE SHRI, MAHAJANI SECTION
MARK, MAHAJANI SIGN NUKTA, MAHJONG TILE
AUTUMN/BACK/BAMBOO/CHRYSANTHEMUM/JOKER/ORCHID/PLUM/SPRING, MAHJONG TILE EAST/NORTH/SOUTH/WEST
WIND, MAHJONG TILE EIGHT/FIVE/FOUR/NINE/ONE/SEVEN/SIX/THREE/TWO OF BAMBOOS/CHARACTERS/CIRCLES,
MAHJONG TILE GREEN/RED/WHITE DRAGON, MAHJONG TILE SUMMER/WINTER, MAKASAR ANGKA/PASSIMBANG,
MAKASAR END OF SECTION, MAKASAR LETTER A/BA/CA/DA/GA/JA/KA/LA/MA/NA/NGA/NYA/PA/RA/SA/TA/VA/YA,
MAKASAR VOWEL SIGN E/I/O/U, MALAYALAM AU LENGTH MARK, MALAYALAM DATE MARK, MALAYALAM DIGIT
EIGHT/FIVE/FOUR/NINE/ONE/SEVEN/SIX/THREE/TWO/ZERO, MALAYALAM FRACTION ONE
EIGHTH/FIFTH/FORTIETH/HALF/ONE-HUNDRED-AND-SIXTIETH/QUARTER, MALAYALAM FRACTION ONE
SIXTEENTH/TENTH/TWENTIETH, MALAYALAM FRACTION THREE EIGHTIETHS/QUARTERS/SIXTEENTHS/TWENTIETHS,
MALAYALAM LETTER A/AA/AI/AU/BA/BHA/CA/CHA/DA/DDA/DDHA/DHA/E/EE/GA/GHA/HA/I/II/JA, MALAYALAM
LETTER ARCHAIC II, MALAYALAM LETTER CHILLU K/LLL/M/N/NN/Y, MALAYALAM LETTER CHILLU/VOCALIC
L/LL/RR, MALAYALAM LETTER DOT REPH, MALAYALAM LETTER
JHA/KA/KHA/LA/LLA/LLLA/MA/NA/NGA/NNA/NNNA/NYA/O/OO/PA/PHA/RA, MALAYALAM LETTER
RRA/SA/SHA/SSA/TA/THA/TTA/TTHA/TTTA/U/UU/VA/YA, MALAYALAM LETTER VEDIC ANUSVARA, MALAYALAM
LETTER VOCALIC R, MALAYALAM NUMBER ONE HUNDRED/THOUSAND, MALAYALAM NUMBER TEN, MALAYALAM SIGN
ANUSVARA/AVAGRAHA/CANDRABINDU/PARA/VIRAMA/VISARGA, MALAYALAM SIGN CIRCULAR VIRAMA, MALAYALAM
SIGN COMBINING ANUSVARA ABOVE, MALAYALAM SIGN VERTICAL BAR VIRAMA, MALAYALAM VOWEL SIGN
AA/AI/AU/E/EE/I/II/O/OO/U/UU, MALAYALAM VOWEL SIGN VOCALIC L/LL/R/RR, MALE AND FEMALE SIGN, MALE
SIGN, MALE WITH STROKE AND MALE AND FEMALE SIGN, MALE WITH STROKE SIGN, MALTESE CROSS, MAMMOTH,
MAN, MAN AND WOMAN HOLDING HANDS, MAN DANCING, MAN IN BUSINESS SUIT LEVITATING, MAN IN TUXEDO,
MAN WITH GUA PI MAO, MAN WITH TURBAN, MANAT SIGN, MANDAIC AFFRICATION/GEMINATION/VOCALIZATION
MARK, MANDAIC LETTER AB/AD/AG/AH/AIN/AK/AKSA/AL/AM/AN/AP/AQ/AR/AS/ASH/ASZ/AT/ATT/AZ, MANDAIC
LETTER DUSHENNA/HALQA/IN/IT/KAD/USHENNA, MANDAIC PUNCTUATION, MANGO, MANICHAEAN ABBREVIATION
MARK ABOVE/BELOW, MANICHAEAN LETTER
AAYIN/ALEPH/AYIN/BETH/BHETH/DALETH/DHAMEDH/FE/GHIMEL/GIMEL/HE, MANICHAEAN LETTER
HETH/JAYIN/JHAYIN/KAPH/KHAPH/LAMEDH/MEM/NUN/PE/QHOPH/QOPH/RESH, MANICHAEAN LETTER
SADHE/SAMEKH/SHIN/SSHIN/TAW/TETH/THAMEDH/WAW/XAPH/XOPH/YODH, MANICHAEAN LETTER ZAYIN/ZHAYIN,
MANICHAEAN NUMBER FIVE/ONE/TEN/TWENTY, MANICHAEAN NUMBER ONE HUNDRED, MANICHAEAN PUNCTUATION DOT
WITHIN DOT, MANICHAEAN PUNCTUATION DOT/FLEURON/STAR, MANICHAEAN PUNCTUATION DOUBLE DOT WITHIN
DOT, MANICHAEAN PUNCTUATION LINE FILLER, MANICHAEAN PUNCTUATION TWO DOTS, MANICHAEAN SIGN UD,
MANS SHOE, MANTELPIECE CLOCK, MANUAL WHEELCHAIR, MAP SYMBOL FOR LIGHTHOUSE, MAPLE LEAF, MARCHEN
HEAD MARK, MARCHEN LETTER -A/A/BA/CA/CHA/DA/DZA/GA/HA/JA/KA/KHA/LA/MA/NA/NGA/NYA/PA/PHA, MARCHEN
LETTER RA/SA/SHA/TA/THA/TSA/TSHA/WA/YA/ZA/ZHA, MARCHEN MARK SHAD, MARCHEN SIGN
ANUSVARA/CANDRABINDU, MARCHEN SUBJOINED LETTER
A/BA/CA/CHA/DA/DZA/GA/HA/JA/KA/KHA/LA/MA/NA/NGA/NYA/PA/PHA/RA, MARCHEN SUBJOINED LETTER
SA/SHA/TA/THA/TSA/TSHA/WA/YA/ZA/ZHA, MARCHEN VOWEL SIGN AA/E/I/O/U, MARRIAGE SYMBOL, MARTIAL
ARTS UNIFORM, MASARAM GONDI DIGIT EIGHT/FIVE/FOUR/NINE/ONE/SEVEN/SIX/THREE/TWO/ZERO, MASARAM
GONDI LETTER A/AA/AI/AU/BA/BHA/CA/CHA/DA/DDA/DDHA/DHA/E/GA/GHA/HA/I/II/JA, MASARAM GONDI LETTER
JHA/JNYA/KA/KHA/KSSA/LA/LLA/MA/NA/NGA/NNA/NYA/O/PA/PHA/RA/SA, MASARAM GONDI LETTER
SHA/SSA/TA/THA/TRA/TTA/TTHA/U/UU/VA/YA, MASARAM GONDI RA-KARA/REPHA/VIRAMA, MASARAM GONDI SIGN
ANUSVARA/CANDRA/HALANTA/NUKTA/VISARGA, MASARAM GONDI VOWEL SIGN AA/AI/AU/E/I/II/O/U/UU, MASARAM
GONDI VOWEL SIGN VOCALIC R, MASCULINE ORDINAL INDICATOR, MASK WORK SYMBOL, MASU MARK, MATE
DRINK, MATHEMATICAL BOLD CAPITAL/SMALL DIGAMMA, MATHEMATICAL BOLD FRAKTUR/SCRIPT CAPITAL/SMALL
A/B/C/D/E/F/G/H/I/J/K/L/M/N/O/P/Q/R/S/T/U/V/W/X/Y/Z, MATHEMATICAL BOLD ITALIC CAPITAL THETA
SYMBOL, MATHEMATICAL BOLD ITALIC CAPITAL/SMALL
ALPHA/BETA/CHI/DELTA/EPSILON/ETA/GAMMA/IOTA/KAPPA/LAMDA/MU/NU, MATHEMATICAL BOLD ITALIC
CAPITAL/SMALL OMEGA/OMICRON/PHI/PI/PSI/RHO/SIGMA/TAU/THETA/UPSILON/XI/ZETA, MATHEMATICAL BOLD
ITALIC EPSILON/KAPPA/PHI/PI/RHO/THETA SYMBOL, MATHEMATICAL BOLD ITALIC NABLA, MATHEMATICAL BOLD
ITALIC PARTIAL DIFFERENTIAL, MATHEMATICAL BOLD ITALIC SMALL FINAL SIGMA, MATHEMATICAL
BOLD/DOUBLE-STRUCK/FRAKTUR/ITALIC/MONOSPACE/SANS-SERIF CAPITAL B/F/L/M, MATHEMATICAL
BOLD/DOUBLE-STRUCK/FRAKTUR/ITALIC/MONOSPACE/SANS-SERIF CAPITAL/SMALL E, MATHEMATICAL
BOLD/DOUBLE-STRUCK/FRAKTUR/ITALIC/MONOSPACE/SANS-SERIF SMALL G/O, MATHEMATICAL
BOLD/DOUBLE-STRUCK/FRAKTUR/ITALIC/MONOSPACE/SANS-SERIF/SCRIPT CAPITAL G/O, MATHEMATICAL
BOLD/DOUBLE-STRUCK/FRAKTUR/ITALIC/MONOSPACE/SANS-SERIF/SCRIPT CAPITAL/SMALL
A/D/J/K/S/T/U/V/W/X/Y, MATHEMATICAL
BOLD/DOUBLE-STRUCK/FRAKTUR/ITALIC/MONOSPACE/SANS-SERIF/SCRIPT SMALL B/C/F/I/L/M/N/P/Q/R/Z,
MATHEMATICAL BOLD/DOUBLE-STRUCK/FRAKTUR/MONOSPACE/SANS-SERIF/SCRIPT SMALL H, MATHEMATICAL
BOLD/DOUBLE-STRUCK/ITALIC/MONOSPACE/SANS-SERIF CAPITAL I, MATHEMATICAL
BOLD/DOUBLE-STRUCK/MONOSPACE/SANS-SERIF DIGIT EIGHT/FIVE/FOUR/NINE/ONE/SEVEN/SIX/THREE/TWO/ZERO,
MATHEMATICAL BOLD/FRAKTUR/ITALIC/MONOSPACE/SANS-SERIF/SCRIPT CAPITAL N/P/Q, MATHEMATICAL
BOLD/ITALIC CAPITAL THETA SYMBOL, MATHEMATICAL BOLD/ITALIC CAPITAL/SMALL
ALPHA/BETA/CHI/DELTA/EPSILON/ETA/GAMMA/IOTA/KAPPA/LAMDA/MU/NU, MATHEMATICAL BOLD/ITALIC
CAPITAL/SMALL OMEGA/OMICRON/PHI/PI/PSI/RHO/SIGMA/TAU/THETA/UPSILON/XI/ZETA, MATHEMATICAL
BOLD/ITALIC EPSILON/KAPPA/PHI/PI/RHO/THETA SYMBOL, MATHEMATICAL BOLD/ITALIC NABLA, MATHEMATICAL
BOLD/ITALIC PARTIAL DIFFERENTIAL, MATHEMATICAL BOLD/ITALIC SMALL FINAL SIGMA, MATHEMATICAL
BOLD/ITALIC/MONOSPACE/SANS-SERIF CAPITAL H/R, MATHEMATICAL
BOLD/ITALIC/MONOSPACE/SANS-SERIF/SCRIPT CAPITAL C/Z, MATHEMATICAL BOLD/SANS-SERIF ITALIC
CAPITAL/SMALL A/B/C/D/E/F/G/H/I/J/K/L/M/N/O/P/Q/R/S/T/U/V/W/X/Y/Z, MATHEMATICAL FALLING/RISING
DIAGONAL, MATHEMATICAL ITALIC SMALL DOTLESS I/J, MATHEMATICAL LEFT/RIGHT ANGLE BRACKET,
MATHEMATICAL LEFT/RIGHT DOUBLE ANGLE BRACKET, MATHEMATICAL LEFT/RIGHT FLATTENED PARENTHESIS,
MATHEMATICAL LEFT/RIGHT WHITE SQUARE BRACKET, MATHEMATICAL LEFT/RIGHT WHITE TORTOISE SHELL
BRACKET, MATHEMATICAL SANS-SERIF BOLD CAPITAL/ITALIC THETA SYMBOL, MATHEMATICAL SANS-SERIF BOLD
CAPITAL/SMALL A/ALPHA/B/BETA/C/CHI/D/DELTA/E/EPSILON/ETA/F/G/GAMMA/H/I/IOTA/J, MATHEMATICAL
SANS-SERIF BOLD CAPITAL/SMALL K/KAPPA/L/LAMDA/M/MU/N/NU/O/OMEGA/OMICRON/P/PHI/PI/PSI/Q/R/RHO,
MATHEMATICAL SANS-SERIF BOLD CAPITAL/SMALL S/SIGMA/T/TAU/THETA/U/UPSILON/V/W/X/XI/Y/Z/ZETA,
MATHEMATICAL SANS-SERIF BOLD DIGIT EIGHT/FIVE/FOUR/NINE/ONE/SEVEN/SIX/THREE/TWO/ZERO,
MATHEMATICAL SANS-SERIF BOLD EPSILON/KAPPA/PHI/PI/RHO/THETA SYMBOL, MATHEMATICAL SANS-SERIF BOLD
ITALIC CAPITAL THETA SYMBOL, MATHEMATICAL SANS-SERIF BOLD ITALIC CAPITAL/SMALL
A/ALPHA/B/BETA/C/CHI/D/DELTA/E/EPSILON/ETA/F/G/GAMMA/H/I/IOTA/J, MATHEMATICAL SANS-SERIF BOLD
ITALIC CAPITAL/SMALL K/KAPPA/L/LAMDA/M/MU/N/NU/O/OMEGA/OMICRON/P/PHI/PI/PSI/Q/R/RHO,
MATHEMATICAL SANS-SERIF BOLD ITALIC CAPITAL/SMALL
S/SIGMA/T/TAU/THETA/U/UPSILON/V/W/X/XI/Y/Z/ZETA, MATHEMATICAL SANS-SERIF BOLD ITALIC
EPSILON/KAPPA/PHI/PI/RHO SYMBOL, MATHEMATICAL SANS-SERIF BOLD ITALIC NABLA, MATHEMATICAL
SANS-SERIF BOLD ITALIC PARTIAL DIFFERENTIAL, MATHEMATICAL SANS-SERIF BOLD ITALIC SMALL FINAL
SIGMA, MATHEMATICAL SANS-SERIF BOLD NABLA, MATHEMATICAL SANS-SERIF BOLD PARTIAL DIFFERENTIAL,
MATHEMATICAL SANS-SERIF BOLD SMALL FINAL SIGMA, MAXIMIZE, MAYAN NUMERAL
EIGHT/EIGHTEEN/ELEVEN/FIFTEEN/FIVE/FOUR/FOURTEEN/NINE/NINETEEN, MAYAN NUMERAL
ONE/SEVEN/SEVENTEEN/SIX/SIXTEEN/TEN/THIRTEEN/THREE/TWELVE/TWO, MAYAN NUMERAL ZERO, MEASURED
ANGLE OPENING LEFT, MEASURED ANGLE WITH OPEN ARM ENDING IN ARROW POINTING DOWN/UP AND
LEFT/RIGHT, MEASURED ANGLE WITH OPEN ARM ENDING IN ARROW POINTING LEFT/RIGHT AND DOWN/UP,
MEASURED ANGLE/BY, MEASURED RIGHT ANGLE WITH DOT, MEAT ON BONE, MECHANICAL ARM/LEG, MEDEFAIDRIN
CAPITAL/SMALL LETTER A/AI/ATIU/B/C/D/E/F/G/H/HP/I/J/K/KP/L/M/N/NG/NY/O/OE/P/Q/R/S/T, MEDEFAIDRIN
CAPITAL/SMALL LETTER U/V/W/X/Y/YU/Z, MEDEFAIDRIN COMMA, MEDEFAIDRIN DIGIT
EIGHT/FIVE/FOUR/NINE/ONE/SEVEN/SIX/THREE/TWO/ZERO, MEDEFAIDRIN DIGIT ONE/THREE/TWO ALTERNATE
FORM, MEDEFAIDRIN EXCLAMATION OH, MEDEFAIDRIN FULL STOP, MEDEFAIDRIN NUMBER
EIGHTEEN/ELEVEN/FIFTEEN/FOURTEEN/NINETEEN/SEVENTEEN/SIXTEEN/TEN, MEDEFAIDRIN NUMBER
THIRTEEN/TWELVE, MEDEFAIDRIN SYMBOL AIVA, MEDIEVAL COMMA, MEDIEVAL EXCLAMATION/QUESTION MARK,
MEDIUM BLACK/WHITE CIRCLE, MEDIUM BOLD/SMALL WHITE CIRCLE, MEDIUM EIGHT/FIVE/SIX SPOKED
ASTERISK, MEDIUM EIGHT/FOUR/SIX/THREE POINTED BLACK STAR, MEDIUM FLATTENED LEFT/RIGHT
PARENTHESIS ORNAMENT, MEDIUM FOUR/THREE POINTED PINWHEEL STAR, MEDIUM GREEK CROSS, MEDIUM
LEFT-POINTING/RIGHT-POINTING ANGLE BRACKET ORNAMENT, MEDIUM LEFT/RIGHT CURLY BRACKET ORNAMENT,
MEDIUM LEFT/RIGHT PARENTHESIS ORNAMENT, MEDIUM MATHEMATICAL SPACE, MEDIUM SALTIRE/SHADE, MEDIUM
VERTICAL BAR, MEDIUM WHITE SQUARE, MEETEI MAYEK AHANG KHUDAM, MEETEI MAYEK
ANJI/CHEIKHAN/CHEIKHEI/VIRAMA, MEETEI MAYEK APUN/LUM IYEK, MEETEI MAYEK DIGIT
EIGHT/FIVE/FOUR/NINE/ONE/SEVEN/SIX/THREE/TWO/ZERO, MEETEI MAYEK LETTER
ATIYA/BA/BHAM/CHA/CHIL/DDA/DDHA/DHOU/DIL/E/GHOU/GOK/HUK/I/JHAM, MEETEI MAYEK LETTER
I/KOK/LAI/MIT/NA/NGOU/PA/TIL LONSUM, MEETEI MAYEK LETTER
JIL/KHOU/KOK/LAI/MIT/NA/NGOU/NNA/NYA/O/PA/PHAM/RAI/SAM/SHA/SSA, MEETEI MAYEK LETTER
THOU/TIL/TTA/TTHA/UN/WAI/YANG, MEETEI MAYEK SYLLABLE/WORD REPETITION MARK, MEETEI MAYEK VOWEL
SIGN AAI/AAU/ANAP/AU/CHEINAP/II/INAP/NUNG/ONAP/SOUNAP/UNAP/UU, MEETEI MAYEK VOWEL SIGN
VISARGA/YENAP, MELON, MELTING FACE, MEMO, MENDE KIKAKUI COMBINING NUMBER HUNDRED/TEN THOUSANDS,
MENDE KIKAKUI COMBINING NUMBER HUNDREDS/MILLIONS/TEENS/TENS/THOUSANDS, MENDE KIKAKUI DIGIT
EIGHT/FIVE/FOUR/NINE/ONE/SEVEN/SIX/THREE/TWO, MENDE KIKAKUI SYLLABLE M001 KI, MENDE KIKAKUI
SYLLABLE M002 KA, MENDE KIKAKUI SYLLABLE M003 KU, MENDE KIKAKUI SYLLABLE M004 WI, MENDE KIKAKUI
SYLLABLE M005 WA, MENDE KIKAKUI SYLLABLE M006 WU, MENDE KIKAKUI SYLLABLE M007 MIN, MENDE KIKAKUI
SYLLABLE M008 MAN, MENDE KIKAKUI SYLLABLE M009 MUN, MENDE KIKAKUI SYLLABLE M010 BI, MENDE
KIKAKUI SYLLABLE M011 BA, MENDE KIKAKUI SYLLABLE M012 BU, MENDE KIKAKUI SYLLABLE M013 I, MENDE
KIKAKUI SYLLABLE M014 A, MENDE KIKAKUI SYLLABLE M015 U, MENDE KIKAKUI SYLLABLE M016 DI, MENDE
KIKAKUI SYLLABLE M017 DA, MENDE KIKAKUI SYLLABLE M018 DU, MENDE KIKAKUI SYLLABLE M019 SI, MENDE
KIKAKUI SYLLABLE M020 SA, MENDE KIKAKUI SYLLABLE M021 SU, MENDE KIKAKUI SYLLABLE M022 TI, MENDE
KIKAKUI SYLLABLE M023 TA, MENDE KIKAKUI SYLLABLE M024 TU, MENDE KIKAKUI SYLLABLE M025 LI, MENDE
KIKAKUI SYLLABLE M026 LA, MENDE KIKAKUI SYLLABLE M027 LU, MENDE KIKAKUI SYLLABLE M028 JI, MENDE
KIKAKUI SYLLABLE M029 JA, MENDE KIKAKUI SYLLABLE M030 JU, MENDE KIKAKUI SYLLABLE M031 YI, MENDE
KIKAKUI SYLLABLE M032 YA, MENDE KIKAKUI SYLLABLE M033 YU, MENDE KIKAKUI SYLLABLE M034 FI, MENDE
KIKAKUI SYLLABLE M035 FA, MENDE KIKAKUI SYLLABLE M036 FU, MENDE KIKAKUI SYLLABLE M037 NIN, MENDE
KIKAKUI SYLLABLE M038 NAN, MENDE KIKAKUI SYLLABLE M039 NUN, MENDE KIKAKUI SYLLABLE M040 HEE,
MENDE KIKAKUI SYLLABLE M041 HA, MENDE KIKAKUI SYLLABLE M042 HOO, MENDE KIKAKUI SYLLABLE M043
NGGA, MENDE KIKAKUI SYLLABLE M044 KPEE, MENDE KIKAKUI SYLLABLE M045 WO, MENDE KIKAKUI SYLLABLE
M046 HUAN, MENDE KIKAKUI SYLLABLE M047/M188 MBEE, MENDE KIKAKUI SYLLABLE M048 KO, MENDE KIKAKUI
SYLLABLE M049 WVA, MENDE KIKAKUI SYLLABLE M050 PU, MENDE KIKAKUI SYLLABLE M051 PE, MENDE KIKAKUI
SYLLABLE M052 HEN, MENDE KIKAKUI SYLLABLE M053 HIN, MENDE KIKAKUI SYLLABLE M054 LOO, MENDE
KIKAKUI SYLLABLE M055 TE, MENDE KIKAKUI SYLLABLE M056 GBA, MENDE KIKAKUI SYLLABLE M057 NGON,
MENDE KIKAKUI SYLLABLE M058 NYAN, MENDE KIKAKUI SYLLABLE M059 MEN, MENDE KIKAKUI SYLLABLE M060
NYON, MENDE KIKAKUI SYLLABLE M061 WVI, MENDE KIKAKUI SYLLABLE M062 MBA, MENDE KIKAKUI SYLLABLE
M063 JO, MENDE KIKAKUI SYLLABLE M064 NDO, MENDE KIKAKUI SYLLABLE M065 KEE, MENDE KIKAKUI
SYLLABLE M066 PO, MENDE KIKAKUI SYLLABLE M067 NDOO, MENDE KIKAKUI SYLLABLE M068 PI, MENDE
KIKAKUI SYLLABLE M069 TO, MENDE KIKAKUI SYLLABLE M070 GBO, MENDE KIKAKUI SYLLABLE M071 GBOO,
MENDE KIKAKUI SYLLABLE M072 MBE, MENDE KIKAKUI SYLLABLE M073 LE, MENDE KIKAKUI SYLLABLE M074
KPU, MENDE KIKAKUI SYLLABLE M075 FE, MENDE KIKAKUI SYLLABLE M076 KOO, MENDE KIKAKUI SYLLABLE
M077 VO, MENDE KIKAKUI SYLLABLE M078 FEE, MENDE KIKAKUI SYLLABLE M079 SO, MENDE KIKAKUI SYLLABLE
M080 YE, MENDE KIKAKUI SYLLABLE M081 PEE, MENDE KIKAKUI SYLLABLE M082 NGGU, MENDE KIKAKUI
SYLLABLE M083 HEEI, MENDE KIKAKUI SYLLABLE M084 LEE, MENDE KIKAKUI SYLLABLE M085 VE, MENDE
KIKAKUI SYLLABLE M086 LONG NGGE, MENDE KIKAKUI SYLLABLE M087 HUN, MENDE KIKAKUI SYLLABLE M088
FO, MENDE KIKAKUI SYLLABLE M089 DEE, MENDE KIKAKUI SYLLABLE M090 NGGI, MENDE KIKAKUI SYLLABLE
M091 TEE, MENDE KIKAKUI SYLLABLE M092 KPA, MENDE KIKAKUI SYLLABLE M093 GBEE, MENDE KIKAKUI
SYLLABLE M094 MON, MENDE KIKAKUI SYLLABLE M095 KE, MENDE KIKAKUI SYLLABLE M096 HE, MENDE KIKAKUI
SYLLABLE M097 BE, MENDE KIKAKUI SYLLABLE M098 NYEN, MENDE KIKAKUI SYLLABLE M099 PA, MENDE
KIKAKUI SYLLABLE M100 E, MENDE KIKAKUI SYLLABLE M101 FAN, MENDE KIKAKUI SYLLABLE M102 POO, MENDE
KIKAKUI SYLLABLE M103 BOO, MENDE KIKAKUI SYLLABLE M104 TOO, MENDE KIKAKUI SYLLABLE M105 LONG
MBOO, MENDE KIKAKUI SYLLABLE M106 LONG NGGOO, MENDE KIKAKUI SYLLABLE M107 GBE, MENDE KIKAKUI
SYLLABLE M108 KPE, MENDE KIKAKUI SYLLABLE M109 YEE, MENDE KIKAKUI SYLLABLE M110 LONG LE, MENDE
KIKAKUI SYLLABLE M111 GA, MENDE KIKAKUI SYLLABLE M112 KPOO, MENDE KIKAKUI SYLLABLE M113 JE,
MENDE KIKAKUI SYLLABLE M114 WOO, MENDE KIKAKUI SYLLABLE M115 NGGEE, MENDE KIKAKUI SYLLABLE M116
SE, MENDE KIKAKUI SYLLABLE M117 NEN, MENDE KIKAKUI SYLLABLE M118 WE, MENDE KIKAKUI SYLLABLE M119
NDE, MENDE KIKAKUI SYLLABLE M120 NGGO, MENDE KIKAKUI SYLLABLE M121 YO, MENDE KIKAKUI SYLLABLE
M122 MBU, MENDE KIKAKUI SYLLABLE M123 NDI, MENDE KIKAKUI SYLLABLE M124 GBI, MENDE KIKAKUI
SYLLABLE M125 NDU, MENDE KIKAKUI SYLLABLE M126 WEE, MENDE KIKAKUI SYLLABLE M127 NGGUA, MENDE
KIKAKUI SYLLABLE M128 HOOU, MENDE KIKAKUI SYLLABLE M129 NDA, MENDE KIKAKUI SYLLABLE M130 HAN,
MENDE KIKAKUI SYLLABLE M131/M135 IN, MENDE KIKAKUI SYLLABLE M132 KPI, MENDE KIKAKUI SYLLABLE
M133 FOO, MENDE KIKAKUI SYLLABLE M134 NJOO, MENDE KIKAKUI SYLLABLE M136 SOO, MENDE KIKAKUI
SYLLABLE M137 EI, MENDE KIKAKUI SYLLABLE M138 BO, MENDE KIKAKUI SYLLABLE M139 WVE, MENDE KIKAKUI
SYLLABLE M140 HO, MENDE KIKAKUI SYLLABLE M141 YOO, MENDE KIKAKUI SYLLABLE M142 LONG MBO, MENDE
KIKAKUI SYLLABLE M143 WEI, MENDE KIKAKUI SYLLABLE M144 VOO, MENDE KIKAKUI SYLLABLE M145 MBI,
MENDE KIKAKUI SYLLABLE M146 NGGE, MENDE KIKAKUI SYLLABLE M147 O, MENDE KIKAKUI SYLLABLE M148
GBU, MENDE KIKAKUI SYLLABLE M149 NJEE, MENDE KIKAKUI SYLLABLE M150 BEE, MENDE KIKAKUI SYLLABLE
M151 VU, MENDE KIKAKUI SYLLABLE M152 NJA, MENDE KIKAKUI SYLLABLE M153 LO, MENDE KIKAKUI SYLLABLE
M154 MUAN, MENDE KIKAKUI SYLLABLE M155 GI, MENDE KIKAKUI SYLLABLE M156 NGGOO, MENDE KIKAKUI
SYLLABLE M157 JEE, MENDE KIKAKUI SYLLABLE M158 KPO, MENDE KIKAKUI SYLLABLE M159 NGGAA, MENDE
KIKAKUI SYLLABLE M160 JOO, MENDE KIKAKUI SYLLABLE M161 LONG MBE, MENDE KIKAKUI SYLLABLE M162
SEE, MENDE KIKAKUI SYLLABLE M163 EE, MENDE KIKAKUI SYLLABLE M164 NYIN, MENDE KIKAKUI SYLLABLE
M165 OO, MENDE KIKAKUI SYLLABLE M166 GUEI, MENDE KIKAKUI SYLLABLE M167 GUAN, MENDE KIKAKUI
SYLLABLE M168 GU, MENDE KIKAKUI SYLLABLE M169 NON, MENDE KIKAKUI SYLLABLE M170 NYUN, MENDE
KIKAKUI SYLLABLE M171 RA, MENDE KIKAKUI SYLLABLE M172 MBOO, MENDE KIKAKUI SYLLABLE M173 VEE,
MENDE KIKAKUI SYLLABLE M174 MBO, MENDE KIKAKUI SYLLABLE M175 LONG JO, MENDE KIKAKUI SYLLABLE
M176 HI, MENDE KIKAKUI SYLLABLE M177 NGUAN, MENDE KIKAKUI SYLLABLE M178 EN, MENDE KIKAKUI
SYLLABLE M179 KUA, MENDE KIKAKUI SYLLABLE M180 DOO, MENDE KIKAKUI SYLLABLE M181 DO, MENDE
KIKAKUI SYLLABLE M182 VI, MENDE KIKAKUI SYLLABLE M183 LONG NGGO, MENDE KIKAKUI SYLLABLE M184
NGEN, MENDE KIKAKUI SYLLABLE M185 VA, MENDE KIKAKUI SYLLABLE M186 HU, MENDE KIKAKUI SYLLABLE
M187 MBUU, MENDE KIKAKUI SYLLABLE M189 MUEN, MENDE KIKAKUI SYLLABLE M190 GEE, MENDE KIKAKUI
SYLLABLE M191 NDEE, MENDE KIKAKUI SYLLABLE M192 NJU, MENDE KIKAKUI SYLLABLE M193 HON, MENDE
KIKAKUI SYLLABLE M194 WUI, MENDE KIKAKUI SYLLABLE M195 AN, MENDE KIKAKUI SYLLABLE M196 SIA,
MENDE KIKAKUI SYLLABLE M197 FUA, MENORAH WITH NINE BRANCHES, MENS SYMBOL, MERCURY, MEROITIC
CURSIVE FRACTION EIGHT/ELEVEN/FIVE/FOUR/NINE/SEVEN/SIX/TEN/THREE/TWO TWELFTHS, MEROITIC CURSIVE
FRACTION ONE HALF/TWELFTH, MEROITIC CURSIVE LETTER ARCHAIC SA, MEROITIC CURSIVE LOGOGRAM
IMN/RMT, MEROITIC CURSIVE NUMBER EIGHT/EIGHTY/FIFTY/FIVE/FORTY/FOUR/NINE/NINETY/ONE/SEVEN
THOUSAND, MEROITIC CURSIVE NUMBER EIGHT/FIFTY/FIVE/FORTY/FOUR/NINE/ONE/SEVEN/SEVENTY/SIX/SIXTY,
MEROITIC CURSIVE NUMBER EIGHT/FIVE/FOUR/NINE/ONE/SEVEN/SIX/THREE/TWO HUNDRED, MEROITIC CURSIVE
NUMBER EIGHT/FIVE/FOUR/NINE/ONE/SEVEN/SIX/THREE/TWO HUNDRED THOUSAND, MEROITIC CURSIVE NUMBER
SEVENTY/SIX/SIXTY/TEN/THIRTY/THREE/TWENTY/TWO THOUSAND, MEROITIC CURSIVE NUMBER
TEN/THIRTY/THREE/TWENTY/TWO, MEROITIC CURSIVE/HIEROGLYPHIC LETTER
A/BA/DA/E/HHA/I/KA/KHA/LA/MA/NA/NE/O/PA/QA/RA/SA/SE/TA/TE/TO/WA, MEROITIC CURSIVE/HIEROGLYPHIC
LETTER YA, MEROITIC HIEROGLYPHIC LETTER BA-2/NA-2/NE-2/RA-2/SA-2/TA-2/TE-2, MEROITIC
HIEROGLYPHIC SYMBOL VIDJ/VIDJ-2, MERPERSON, MESSAGE WAITING, METRICAL
BREVE/PENTASEME/TETRASEME/TRISEME, METRICAL LONG OVER SHORT, METRICAL LONG OVER TWO SHORTS,
METRICAL SHORT OVER LONG, METRICAL TWO SHORTS JOINED, METRICAL TWO SHORTS OVER LONG, METRO, MIAO
LETTER AH/BA/BRI/DA/DDA/DLHA/DLHYA/DZA/DZHA/DZYI/DZZA/FA/GA/GHA/GHHA, MIAO LETTER ARCHAIC
MA/NA/NGA/ZZA, MIAO LETTER HA/HHA/KA/LA/LHA/LHYA/LYA/MA/MHA/NA/NASALIZATION/NGA/NGHA/NHA, MIAO
LETTER NNA/NNHA/NYA/NYHA/PA/PLA/QA/QGA/RTE/SA/SHA/SSA/SYI/TA/TE/TLHA, MIAO LETTER REFORMED
TONE-1/TONE-2/TONE-4/TONE-5/TONE-6/TONE-8, MIAO LETTER REFORMED/YI TSHA, MIAO LETTER
TLHYA/TONE-2/TONE-3/TONE-4/TONE-5/TONE-6/TONE-7/TONE-8/TSA/TSE, MIAO LETTER
TSHA/TSSA/TTA/VA/VFA/WA/XA/ZA/ZHA/ZSA/ZSHA/ZZA/ZZSA/ZZSYA/ZZYA, MIAO LETTER YI
DZHA/KA/NNA/PA/TA/TSA/TTA, MIAO SIGN ASPIRATION, MIAO SIGN CONSONANT MODIFIER BAR, MIAO SIGN
REFORMED ASPIRATION/VOICING, MIAO TONE ABOVE/BELOW/RIGHT, MIAO TONE TOP RIGHT, MIAO VOWEL SIGN
A/AA/AE/AEE/AHH/AI/AN/ANG/AU/E/EA/EI/EN/ENG/ER/ERR/I/IA/IAN, MIAO VOWEL SIGN
IANG/IE/IG/II/ING/IO/IONG/IU/N/NG/O/OER/OEY/OG/OO/OU/U/UA/UAN, MIAO VOWEL SIGN ROUNDED ER/ERR,
MIAO VOWEL SIGN UANG/UEI/UI/UNG/UOG/UU/VW/W/WO/Y/YI/YUI, MICR DASH SYMBOL, MICR ON US SYMBOL,
MICRO SIGN, MICROBE, MICROPHONE, MICROSCOPE, MIDDLE DOT, MIDDLE THIRD WHITE RIGHT POINTING
INDEX, MIDLINE HORIZONTAL ELLIPSIS, MILITARY HELMET/MEDAL, MILKY WAY, MILL SIGN, MINIBUS,
MINIDISC, MINIMIZE, MINUS SIGN IN TRIANGLE, MINUS SIGN WITH COMMA ABOVE, MINUS SIGN WITH DOT
BELOW, MINUS SIGN WITH FALLING/RISING DOTS, MINUS SIGN/TILDE, MINUS-OR-PLUS SIGN, MINY, MIRROR,
MIRROR BALL, MMSP, MOBILE PHONE, MOBILE PHONE OFF, MOBILE PHONE WITH RIGHTWARDS ARROW AT LEFT,
MODELS, MODERN PENTATHLON, MODI ABBREVIATION SIGN, MODI DANDA, MODI DIGIT
EIGHT/FIVE/FOUR/NINE/ONE/SEVEN/SIX/THREE/TWO/ZERO, MODI DOUBLE DANDA, MODI LETTER
A/AA/AI/AU/BA/BHA/CA/CHA/DA/DDA/DDHA/DHA/E/GA/GHA/HA/I/II/JA, MODI LETTER
JHA/KA/KHA/LA/LLA/MA/NA/NGA/NNA/NYA/O/PA/PHA/RA/SA/SHA/SSA/TA, MODI LETTER
THA/TTA/TTHA/U/UU/VA/YA, MODI LETTER VOCALIC L/LL/R/RR, MODI SIGN
ANUSVARA/ARDHACANDRA/HUVA/VIRAMA/VISARGA, MODI VOWEL SIGN AA/AI/AU/E/I/II/O/U/UU, MODI VOWEL
SIGN VOCALIC L/LL/R/RR, MODIFIER BREVE WITH INVERTED BREVE, MODIFIER LETTER
ACUTE/CIRCUMFLEX/CROSS/GRAVE ACCENT, MODIFIER LETTER ALVEOLAR/BILABIAL/DENTAL/LATERAL CLICK,
MODIFIER LETTER APOSTROPHE/COLON/MACRON/PRIME/SHELF/UNASPIRATED/US/VOICING, MODIFIER LETTER
BEGIN/END HIGH/LOW TONE, MODIFIER LETTER CAPITAL BARRED B, MODIFIER LETTER CAPITAL I/N/OU,
MODIFIER LETTER CAPITAL REVERSED N, MODIFIER LETTER CAPITAL/SMALL
A/AE/B/C/D/E/F/G/H/J/K/L/M/O/P/Q/R/T/U/V/W, MODIFIER LETTER CAPITAL/SMALL H WITH STROKE,
MODIFIER LETTER CAPITAL/SMALL REVERSED E, MODIFIER LETTER CENTRED LEFT/RIGHT HALF RING, MODIFIER
LETTER CHINESE TONE YANG/YIN PING/QU/RU/SHANG, MODIFIER LETTER CYRILLIC EN, MODIFIER LETTER
CYRILLIC HARD/SOFT SIGN, MODIFIER LETTER DOT HORIZONTAL/VERTICAL BAR, MODIFIER LETTER DOT SLASH,
MODIFIER LETTER DOUBLE APOSTROPHE/PRIME, MODIFIER LETTER DOWN/LEFT/RIGHT/UP ARROWHEAD/TACK,
MODIFIER LETTER EXTRA-HIGH/EXTRA-LOW/HIGH/LOW/MID DOTTED LEFT-STEM TONE BAR, MODIFIER LETTER
EXTRA-HIGH/EXTRA-LOW/HIGH/LOW/MID DOTTED/LEFT-STEM TONE BAR, MODIFIER LETTER
EXTRA-HIGH/EXTRA-LOW/HIGH/LOW/MID TONE BAR, MODIFIER LETTER GEORGIAN NAR, MODIFIER LETTER
GLOTTAL STOP, MODIFIER LETTER GLOTTAL STOP WITH STROKE, MODIFIER LETTER HALF/SUPERSCRIPT
TRIANGULAR COLON, MODIFIER LETTER LEFT/RIGHT HALF RING, MODIFIER LETTER LOW ACUTE/CIRCUMFLEX
ACCENT, MODIFIER LETTER LOW DOWN/LEFT/RIGHT/UP ARROWHEAD, MODIFIER LETTER LOW LEFT ARROW,
MODIFIER LETTER LOW MACRON/RING/TILDE, MODIFIER LETTER LOW VERTICAL LINE, MODIFIER LETTER
LOW/MIDDLE GRAVE ACCENT, MODIFIER LETTER LOW/RAISED INVERTED EXCLAMATION MARK, MODIFIER LETTER
LOWER RIGHT CORNER ANGLE, MODIFIER LETTER MIDDLE DOUBLE ACUTE/GRAVE ACCENT, MODIFIER LETTER
MINUS/PLUS SIGN, MODIFIER LETTER OPEN SHELF, MODIFIER LETTER RAISED DOWN/UP ARROW, MODIFIER
LETTER RAISED EXCLAMATION MARK, MODIFIER LETTER RAISED/TRIANGULAR COLON, MODIFIER LETTER
RETROFLEX CLICK WITH RETROFLEX HOOK, MODIFIER LETTER REVERSED GLOTTAL STOP, MODIFIER LETTER
REVERSED GLOTTAL STOP WITH STROKE, MODIFIER LETTER REVERSED/TURNED COMMA, MODIFIER LETTER RHOTIC
HOOK, MODIFIER LETTER SHORT EQUALS SIGN, MODIFIER LETTER SMALL
AIN/ALPHA/BETA/CHI/DELTA/ENG/ESH/ETH/EZH/GAMMA/HENG/IOTA/LEZH, MODIFIER LETTER SMALL
B/D/G/H/HENG/M/S/V WITH HOOK, MODIFIER LETTER SMALL BARRED/OPEN O, MODIFIER LETTER SMALL
BOTTOM/TOP HALF O, MODIFIER LETTER SMALL C/S/Z WITH CURL, MODIFIER LETTER SMALL CAPITAL
AA/B/L/N, MODIFIER LETTER SMALL CAPITAL G WITH HOOK, MODIFIER LETTER SMALL CAPITAL I WITH
STROKE, MODIFIER LETTER SMALL CAPITAL INVERTED R, MODIFIER LETTER SMALL CAPITAL L WITH BELT,
MODIFIER LETTER SMALL CAPITAL/LIGATURE OE, MODIFIER LETTER SMALL CAPITAL/SCRIPT G, MODIFIER
LETTER SMALL CAPITAL/SIDEWAYS U, MODIFIER LETTER SMALL CAPITAL/TURNED H/I/R/Y, MODIFIER LETTER
SMALL CLOSED OMEGA, MODIFIER LETTER SMALL CLOSED REVERSED OPEN E, MODIFIER LETTER SMALL D WITH
HOOK AND TAIL, MODIFIER LETTER SMALL D/R WITH TAIL, MODIFIER LETTER SMALL
DEZH/DZ/FENG/LS/LZ/TESH/TS DIGRAPH, MODIFIER LETTER SMALL DOTLESS J WITH STROKE, MODIFIER LETTER
SMALL DOTLESS J WITH STROKE AND HOOK, MODIFIER LETTER SMALL DZ/TC DIGRAPH WITH CURL, MODIFIER
LETTER SMALL DZ/TS DIGRAPH WITH RETROFLEX HOOK, MODIFIER LETTER SMALL GREEK GAMMA/PHI, MODIFIER
LETTER SMALL I/O WITH STROKE, MODIFIER LETTER SMALL J WITH CROSSED-TAIL, MODIFIER LETTER SMALL L
WITH BELT, MODIFIER LETTER SMALL L WITH INVERTED LAZY S, MODIFIER LETTER SMALL L WITH MIDDLE
TILDE, MODIFIER LETTER SMALL L WITH RETROFLEX HOOK AND BELT, MODIFIER LETTER SMALL L/LEZH/N/T/Z
WITH RETROFLEX HOOK, MODIFIER LETTER SMALL L/T WITH PALATAL HOOK, MODIFIER LETTER SMALL N/U WITH
LEFT HOOK, MODIFIER LETTER SMALL OPEN E, MODIFIER LETTER SMALL PHI/S/SCHWA/THETA/UPSILON/X/Y/Z,
MODIFIER LETTER SMALL R WITH FISHHOOK, MODIFIER LETTER SMALL RAMS HORN, MODIFIER LETTER SMALL
REVERSED GLOTTAL STOP, MODIFIER LETTER SMALL REVERSED/TURNED OPEN E, MODIFIER LETTER SMALL
TURNED A/AE/ALPHA/M/V/W, MODIFIER LETTER SMALL TURNED M/R WITH LONG LEG, MODIFIER LETTER SMALL
TURNED R WITH HOOK, MODIFIER LETTER SMALL TURNED R WITH LONG LEG AND RETROFLEX HOOK, MODIFIER
LETTER SMALL TURNED Y WITH BELT, MODIFIER LETTER SMALL U BAR, MODIFIER LETTER SMALL V WITH RIGHT
HOOK, MODIFIER LETTER STRESS AND HIGH/LOW TONE, MODIFIER LETTER SUPERSCRIPT HALF TRIANGULAR
COLON, MODIFIER LETTER VERTICAL LINE, MODIFIER LETTER YANG/YIN DEPARTING TONE MARK, MODULO TWO
SUM, MONEY BAG, MONEY WITH WINGS, MONEY-MOUTH FACE, MONGOLIAN BIRGA WITH DOUBLE ORNAMENT,
MONGOLIAN BIRGA WITH ORNAMENT, MONGOLIAN BIRGA/COLON/COMMA/ELLIPSIS/NIRUGU, MONGOLIAN DIGIT
EIGHT/FIVE/FOUR/NINE/ONE/SEVEN/SIX/THREE/TWO/ZERO, MONGOLIAN DOUBLE/ROTATED/SWIRL/TRIPLE BIRGA
WITH ORNAMENT, MONGOLIAN FOUR DOTS, MONGOLIAN FREE VARIATION SELECTOR FOUR/ONE/THREE/TWO,
MONGOLIAN FULL STOP, MONGOLIAN INVERTED/ROTATED/SWIRL BIRGA, MONGOLIAN INVERTED/ROTATED/SWIRL
BIRGA WITH DOUBLE ORNAMENT, MONGOLIAN LETTER
A/ANG/BA/CHA/CHI/DA/E/EE/FA/GA/HAA/I/JA/KA/KHA/LA/LHA/MA/NA/O, MONGOLIAN LETTER ALI GALI
A/AH/BALUDA/CA/DA/DAGALGA/DAMARU/DDA/I/KA/NGA/NNA/PA/PHA/SSA/TA, MONGOLIAN LETTER ALI GALI
ANUSVARA/VISARGA ONE, MONGOLIAN LETTER ALI GALI HALF U/YA, MONGOLIAN LETTER ALI GALI INVERTED
UBADAMA, MONGOLIAN LETTER ALI GALI THREE BALUDA, MONGOLIAN LETTER ALI GALI
TTA/TTHA/UBADAMA/ZA/ZHA, MONGOLIAN LETTER CHA WITH TWO DOTS, MONGOLIAN LETTER MANCHU ALI GALI
BHA/CA/CYA/DDHA/DHA/GHA/JHA/LHA/NGA/SSA/TTA/ZA, MONGOLIAN LETTER MANCHU RA, MONGOLIAN LETTER
MANCHU/SIBE FA/ZHA, MONGOLIAN LETTER MANCHU/SIBE/TODO I/KA, MONGOLIAN LETTER MANCHU/TODO ALI
GALI TA/ZHA, MONGOLIAN LETTER OE/PA/QA/RA/SA/SHA/TA/TSA/U/UE/WA/YA/ZA/ZHI/ZRA, MONGOLIAN LETTER
SIBE HA/IY/RAA/SHA/ZA, MONGOLIAN LETTER SIBE/TODO ANG/CHA/DA/E/GA/GAA/HAA/JA/PA/TA/TSA/U/UE,
MONGOLIAN LETTER TODO BA/DZA/JIA/MA/NIA/O/OE/QA/WA/YA, MONGOLIAN LETTER TODO LONG VOWEL SIGN,
MONGOLIAN MANCHU COMMA, MONGOLIAN MANCHU FULL STOP, MONGOLIAN SIBE SYLLABLE BOUNDARY MARKER,
MONGOLIAN TODO SOFT HYPHEN, MONGOLIAN TURNED SWIRL BIRGA WITH DOUBLE ORNAMENT, MONGOLIAN VOWEL
SEPARATOR, MONKEY, MONKEY FACE, MONOGRAM FOR EARTH/YANG/YIN, MONORAIL, MONOSTABLE SYMBOL, MOOD
BUBBLE, MOON CAKE, MOON VIEWING CEREMONY, MOSQUE, MOSQUITO, MOTHER CHRISTMAS, MOTOR
BOAT/SCOOTER, MOTORIZED WHEELCHAIR, MOTORWAY, MOUNT FUJI, MOUNTAIN, MOUNTAIN
BICYCLIST/CABLEWAY/RAILWAY, MOUSE, MOUSE FACE/TRAP, MOUTH, MOVIE CAMERA, MOYAI, MRO DANDA, MRO
DIGIT EIGHT/FIVE/FOUR/NINE/ONE/SEVEN/SIX/THREE/TWO/ZERO, MRO DOUBLE DANDA, MRO LETTER
A/BA/CHU/DA/DAI/E/EA/HAI/HAO/KEAAE/KHAI/KO/LA/LAN/MAEM/MIM/NGI, MRO LETTER
NIN/O/OL/OO/PA/PHI/RI/RO/SHI/TA/TEK/THEA/WA/YO, MUCH GREATER-THAN/LESS-THAN, MULTANI LETTER
A/BA/BHA/CA/CHA/DA/DDA/DDDA/DDHA/DHA/E/GA/GHA/HA/I/JA/JJA/KA, MULTANI LETTER
KHA/LA/MA/NA/NNA/NYA/PA/PHA/RA/RHA/RRA/SA/TA/THA/TTA/TTHA/U/VA, MULTANI LETTER YA, MULTANI
SECTION MARK, MULTIMAP, MULTIPLE MUSICAL NOTES, MULTIPLICATION SIGN IN DOUBLE CIRCLE,
MULTIPLICATION SIGN IN LEFT/RIGHT HALF CIRCLE, MULTIPLICATION SIGN IN TRIANGLE, MULTIPLICATION
SIGN WITH DOT ABOVE, MULTIPLICATION SIGN WITH UNDERBAR, MULTIPLICATION SIGN/X, MULTISET,
MULTISET MULTIPLICATION/UNION, MUSHROOM, MUSIC FLAT/NATURAL/SHARP SIGN, MUSICAL KEYBOARD WITH
JACKS, MUSICAL KEYBOARD/NOTE/SCORE, MUSICAL SYMBOL ARPEGGIATO/FLAT/GLISSANDO/NATURAL/SHARP DOWN,
MUSICAL SYMBOL ARPEGGIATO/FLAT/GLISSANDO/NATURAL/SHARP/TURN UP, MUSICAL SYMBOL BEGIN/END
BEAM/PHRASE/SLUR/TIE, MUSICAL SYMBOL BRACE/BRACKET/BREVE/BREVIS/CAESURA/CLIMACUS/CLIVIS/CODA,
MUSICAL SYMBOL BREATH/PEDAL MARK, MUSICAL SYMBOL
BREVIS/EIGHTH/HALF/MINIMA/MULTI/QUARTER/SEMIBREVIS/SEMIMINIMA REST, MUSICAL SYMBOL C/F/G CLEF,
MUSICAL SYMBOL CIRCLE X NOTEHEAD, MUSICAL SYMBOL CLUSTER/MOON/SQUARE NOTEHEAD BLACK/WHITE,
MUSICAL SYMBOL COMBINING ACCENT/ACCENT-STACCATO/BEND/DOIT/FLAG-1/FLAG-2/FLAG-3/FLAG-4, MUSICAL
SYMBOL COMBINING AUGMENTATION DOT, MUSICAL SYMBOL COMBINING DOUBLE/TRIPLE TONGUE, MUSICAL SYMBOL
COMBINING DOWN/UP BOW, MUSICAL SYMBOL COMBINING
FLAG-5/FLIP/HARMONIC/LOURE/MARCATO/MARCATO-STACCATO/RIP/SMEAR, MUSICAL SYMBOL COMBINING SNAP
PIZZICATO, MUSICAL SYMBOL COMBINING SPRECHGESANG STEM, MUSICAL SYMBOL COMBINING
STACCATISSIMO/STACCATO/STEM/TENUTO, MUSICAL SYMBOL COMBINING/FINGERED
TREMOLO-1/TREMOLO-2/TREMOLO-3, MUSICAL SYMBOL COMMON/CUT TIME, MUSICAL SYMBOL
CRESCENDO/CROIX/DAMP/DECRESCENDO/FERMATA/FORTE/HAUPTSTIMME, MUSICAL SYMBOL DA CAPO, MUSICAL
SYMBOL DAL SEGNO, MUSICAL SYMBOL DAMP ALL, MUSICAL SYMBOL DASHED/DOUBLE/FINAL/SHORT/SINGLE
BARLINE, MUSICAL SYMBOL DEGREE/TURN SLASH, MUSICAL SYMBOL DOUBLE FLAT/SHARP, MUSICAL SYMBOL DRUM
CLEF-1/CLEF-2, MUSICAL SYMBOL EIGHTH/HALF/QUARTER/SIXTEENTH/SIXTY-FOURTH/THIRTY-SECOND/WHOLE
NOTE, MUSICAL SYMBOL END OF STIMME, MUSICAL SYMBOL F/G CLEF OTTAVA ALTA/BASSA, MUSICAL SYMBOL
FERMATA BELOW, MUSICAL SYMBOL FIVE-LINE/FOUR-LINE/ONE-LINE/SIX-LINE/THREE-LINE/TWO-LINE STAFF,
MUSICAL SYMBOL FOUR-STRING/SIX-STRING FRETBOARD, MUSICAL SYMBOL
FUSA/MINIMA/NOTEHEAD/SEMIBREVIS/SEMIMINIMA BLACK, MUSICAL SYMBOL FUSA/SEMIBREVIS/SEMIMINIMA
WHITE, MUSICAL SYMBOL GRACE NOTE NO SLASH, MUSICAL SYMBOL GRACE NOTE SLASH, MUSICAL SYMBOL
GREGORIAN F CLEF, MUSICAL SYMBOL GREGORIAN/KIEVAN C CLEF, MUSICAL SYMBOL HALF PEDAL MARK,
MUSICAL SYMBOL INVERTED TURN, MUSICAL SYMBOL KIEVAN EIGHTH/QUARTER NOTE STEM DOWN/UP, MUSICAL
SYMBOL KIEVAN END OF PIECE, MUSICAL SYMBOL KIEVAN FINAL/HALF/WHOLE NOTE, MUSICAL SYMBOL KIEVAN
FLAT SIGN, MUSICAL SYMBOL KIEVAN RECITATIVE MARK, MUSICAL SYMBOL
KORON/LONGA/MAXIMA/MEZZO/MINIMA/NEBENSTIMME/PIANO/PODATUS, MUSICAL SYMBOL LEFT/RIGHT REPEAT
SIGN, MUSICAL SYMBOL LONGA IMPERFECTA/PERFECTA REST, MUSICAL SYMBOL MULTIPLE MEASURE REST,
MUSICAL SYMBOL NULL/PARENTHESIS/PLUS/VOID/X NOTEHEAD, MUSICAL SYMBOL ONE HUNDRED TWENTY-EIGHTH
NOTE/REST, MUSICAL SYMBOL ORNAMENT STROKE-1/STROKE-10/STROKE-11/STROKE-2/STROKE-3/STROKE-4,
MUSICAL SYMBOL ORNAMENT STROKE-5/STROKE-6/STROKE-7/STROKE-8/STROKE-9, MUSICAL SYMBOL
OTTAVA/QUINDICESIMA ALTA/BASSA, MUSICAL SYMBOL PEDAL UP MARK, MUSICAL SYMBOL PES SUBPUNCTIS,
MUSICAL SYMBOL PORRECTUS/RINFORZANDO/SCANDICUS/SEGNO/SORI/SUBITO/TORCULUS/TR, MUSICAL SYMBOL
PORRECTUS/SCANDICUS FLEXUS, MUSICAL SYMBOL QUARTER TONE FLAT/SHARP, MUSICAL SYMBOL REPEAT DOTS,
MUSICAL SYMBOL REPEATED FIGURE-1/FIGURE-2/FIGURE-3, MUSICAL SYMBOL REVERSE FINAL BARLINE,
MUSICAL SYMBOL SIXTEENTH/SIXTY-FOURTH/THIRTY-SECOND/WHOLE REST, MUSICAL SYMBOL SQUARE B, MUSICAL
SYMBOL TEMPUS IMPERFECTUM CUM PROLATIONE IMPERFECTA DIMINUTION-1/DIMINUTION-2/DIMINUTION-3,
MUSICAL SYMBOL TEMPUS IMPERFECTUM/PERFECTUM CUM PROLATIONE IMPERFECTA/PERFECTA, MUSICAL SYMBOL
TEMPUS PERFECTUM CUM PROLATIONE PERFECTA DIMINUTION-1, MUSICAL SYMBOL TORCULUS RESUPINUS,
MUSICAL SYMBOL TRIANGLE NOTEHEAD LEFT/RIGHT/UP BLACK/WHITE, MUSICAL SYMBOL TRIANGLE NOTEHEAD UP
RIGHT BLACK/WHITE, MUSICAL SYMBOL TRIANGLE/TRIANGLE-ROUND NOTEHEAD DOWN BLACK/WHITE, MUSICAL
SYMBOL TURN/VIRGA/Z, MUSICAL SYMBOL WITH FINGERNAILS, MVS, MW, MYANMAR CONSONANT SIGN MEDIAL
HA/RA/WA/YA, MYANMAR CONSONANT SIGN MON MEDIAL LA/MA/NA, MYANMAR CONSONANT SIGN SHAN MEDIAL WA,
MYANMAR DIGIT EIGHT/FIVE/FOUR/NINE/ONE/SEVEN/SIX/THREE/TWO/ZERO, MYANMAR LETTER
A/AU/BA/BHA/CA/CHA/DA/DDA/DDHA/DHA/E/GA/GHA/HA/I/II/JA/JHA/KA, MYANMAR LETTER AITON/KHAMTI RA,
MYANMAR LETTER EASTERN PWO KAREN GHWA/NNA/YWA, MYANMAR LETTER GREAT/KHAMTI SA, MYANMAR LETTER
KHA/LA/LLA/MA/NA/NGA/NNA/NNYA/NYA/O/PA/PHA/RA/SA/SHA/SSA/TA/THA, MYANMAR LETTER KHAMTI
DDA/DDHA/DHA/HHA/JA/LLA/TTA/TTHA/XA, MYANMAR LETTER KHAMTI/MON/SHAN JHA, MYANMAR LETTER
KHAMTI/SHAN CA/CHA/FA/GA/HA/NA/NYA/ZA, MYANMAR LETTER MON BBA/BBE/E/NGA, MYANMAR LETTER RUMAI
PALAUNG FA, MYANMAR LETTER SGAW KAREN SHA, MYANMAR LETTER SHAN
A/BA/BHA/DA/GHA/KA/KHA/NNA/PHA/THA, MYANMAR LETTER SHWE PALAUNG CHA/SHA, MYANMAR LETTER TAI
LAING BA/BHA/DA/DDA/DDHA/DHA/FA/GA/GHA/JA/JHA/LLA/NNA/NYA, MYANMAR LETTER TTA/TTHA/U/UU/WA/YA,
MYANMAR LETTER VOCALIC L/LL/R/RR, MYANMAR LETTER WESTERN PWO KAREN PWA/THA, MYANMAR LOGOGRAM
KHAMTI HM/OAY/QN, MYANMAR MODIFIER LETTER KHAMTI/SHAN REDUPLICATION, MYANMAR SHAN DIGIT
EIGHT/FIVE/FOUR/NINE/ONE/SEVEN/SIX/THREE/TWO/ZERO, MYANMAR SIGN
ANUSVARA/ASAT/SECTION/VIRAMA/VISARGA, MYANMAR SIGN DOT BELOW, MYANMAR SIGN KHAMTI TONE-1,
MYANMAR SIGN KHAMTI/SHAN TONE-3, MYANMAR SIGN LITTLE SECTION, MYANMAR SIGN PAO KAREN TONE,
MYANMAR SIGN RUMAI PALAUNG TONE-5, MYANMAR SIGN SHAN COUNCIL EMPHATIC TONE, MYANMAR SIGN SHAN
COUNCIL TONE-2/TONE-3, MYANMAR SIGN SHAN SAW/TONE-2/TONE-5/TONE-6, MYANMAR SIGN TAI LAING
TONE-2/TONE-5, MYANMAR SIGN WESTERN PWO KAREN TONE-1/TONE-2/TONE-3/TONE-4/TONE-5, MYANMAR SYMBOL
AFOREMENTIONED/COMPLETED/GENITIVE/LOCATIVE, MYANMAR SYMBOL AITON TWO, MYANMAR SYMBOL AITON/SHAN
EXCLAMATION/ONE, MYANMAR TAI LAING DIGIT EIGHT/FIVE/FOUR/NINE/ONE/SEVEN/SIX/THREE/TWO/ZERO,
MYANMAR TONE MARK SGAW KAREN HATHI, MYANMAR TONE MARK SGAW KAREN KE PHO, MYANMAR VOWEL SIGN
AA/AI/E/I/II/U/UU, MYANMAR VOWEL SIGN AITON A/AI, MYANMAR VOWEL SIGN E ABOVE, MYANMAR VOWEL SIGN
GEBA KAREN I, MYANMAR VOWEL SIGN KAYAH EE/OE/U, MYANMAR VOWEL SIGN MON II/O, MYANMAR VOWEL SIGN
SGAW KAREN EU, MYANMAR VOWEL SIGN SHAN E, MYANMAR VOWEL SIGN SHAN E ABOVE, MYANMAR VOWEL SIGN
SHAN FINAL Y, MYANMAR VOWEL SIGN SHAN/TALL AA, MYANMAR VOWEL SIGN VOCALIC L/LL/R/RR, MYANMAR
VOWEL SIGN WESTERN PWO KAREN EU/UE"),
  ('N', "
N-ARY CIRCLED DOT/PLUS/TIMES OPERATOR, N-ARY COPRODUCT/INTERSECTION/PRODUCT/SUMMATION/UNION,
N-ARY LOGICAL AND/OR, N-ARY SQUARE INTERSECTION/UNION OPERATOR, N-ARY TIMES OPERATOR, N-ARY
UNION OPERATOR WITH DOT/PLUS, N-ARY WHITE VERTICAL BAR, NABATAEAN CRUCIFORM NUMBER FOUR,
NABATAEAN LETTER ALEPH/AYIN/BETH/DALETH/GIMEL/HE/HETH/KAPH/LAMEDH/MEM/NUN/PE, NABATAEAN LETTER
FINAL ALEPH/BETH/HE/KAPH/LAMEDH/MEM/NUN/SHIN/YODH, NABATAEAN LETTER
QOPH/RESH/SADHE/SAMEKH/SHIN/TAW/TETH/WAW/YODH/ZAYIN, NABATAEAN NUMBER
FIVE/FOUR/ONE/TEN/THREE/TWENTY/TWO, NABATAEAN NUMBER ONE HUNDRED, NABLA, NAIL POLISH, NAIRA
SIGN, NAK, NAME BADGE, NAND, NANDINAGARI HEADSTROKE, NANDINAGARI LETTER
A/AA/AI/AU/BA/BHA/CA/CHA/DA/DDA/DDHA/DHA/E/GA/GHA/HA/I/II/JA, NANDINAGARI LETTER
JHA/KA/KHA/LA/LLA/MA/NA/NGA/NNA/NYA/O/PA/PHA/RA/RRA/SA/SHA/SSA, NANDINAGARI LETTER
TA/THA/TTA/TTHA/U/UU/VA/YA, NANDINAGARI LETTER VOCALIC R/RR, NANDINAGARI SIGN
ANUSVARA/AVAGRAHA/SIDDHAM/VIRAMA/VISARGA, NANDINAGARI VOWEL SIGN AA/AI/AU/E/I/II/O/U/UU,
NANDINAGARI VOWEL SIGN PRISHTHAMATRA E, NANDINAGARI VOWEL SIGN VOCALIC R/RR, NARROW NO-BREAK
SPACE, NATIONAL DIGIT SHAPES, NATIONAL PARK, NAUSEATED FACE, NAZAR AMULET, NBH, NBSP, NECKTIE,
NEGATED DOUBLE VERTICAL BAR DOUBLE RIGHT TURNSTILE, NEGATIVE ACKNOWLEDGE, NEGATIVE CIRCLED DIGIT
ZERO, NEGATIVE CIRCLED NUMBER EIGHTEEN/ELEVEN/FIFTEEN/FOURTEEN/NINETEEN/SEVENTEEN/SIXTEEN,
NEGATIVE CIRCLED NUMBER THIRTEEN/TWELVE/TWENTY, NEGATIVE CIRCLED SQUARE/TRIANGLE, NEGATIVE
CIRCLED/SQUARED LATIN CAPITAL LETTER A/B/C/D/E/F/G/H/I/J/K/L/M/N/O/P/Q/R/S/T/U/V/W/X/Y/Z,
NEGATIVE DIAGONAL CROSS/DIAMOND, NEGATIVE DIAGONAL MIDDLE RIGHT TO LOWER CENTRE, NEGATIVE
SQUARED AB/IC/PA/SA/WC, NEGATIVE SQUARED CROSS/QUESTION MARK, NEITHER A SUBSET/SUPERSET OF NOR
EQUAL TO, NEITHER APPROXIMATELY NOR ACTUALLY EQUAL TO, NEITHER GREATER-THAN NOR LESS-THAN,
NEITHER GREATER-THAN/LESS-THAN NOR EQUAL/EQUIVALENT TO, NEITHER LESS-THAN NOR GREATER-THAN, NEL,
NEPTUNE, NEPTUNE FORM TWO, NERD FACE, NESSUS, NEST WITH EGGS, NESTING DOLLS, NEUTER, NEUTRAL
CHESS BISHOP/EQUIHOPPER/KING/KNIGHT/PAWN/QUEEN/ROOK, NEUTRAL CHESS
BISHOP/EQUIHOPPER/KING/KNIGHT/PAWN/QUEEN/ROOK ROTATED NINETY DEGREES, NEUTRAL CHESS
BISHOP/KING/KNIGHT/PAWN/QUEEN/ROOK ROTATED TWO HUNDRED SEVENTY DEGREES, NEUTRAL CHESS KNIGHT
ROTATED FORTY-FIVE DEGREES, NEUTRAL CHESS KNIGHT ROTATED ONE HUNDRED THIRTY-FIVE DEGREES,
NEUTRAL CHESS KNIGHT ROTATED THREE HUNDRED FIFTEEN DEGREES, NEUTRAL CHESS KNIGHT ROTATED TWO
HUNDRED TWENTY-FIVE DEGREES, NEUTRAL CHESS TURNED BISHOP/KING/KNIGHT/PAWN/QUEEN/ROOK, NEUTRAL
FACE, NEW LINE, NEW MOON SYMBOL, NEW MOON WITH FACE, NEW SHEQEL SIGN, NEW TAI LUE DIGIT
EIGHT/FIVE/FOUR/NINE/ONE/SEVEN/SIX/THREE/TWO/ZERO, NEW TAI LUE LETTER FINAL B/D/K/M/N/NG/V, NEW
TAI LUE LETTER HIGH/LOW BA/DA/FA/HA/KA/KVA/LA/MA/NA/NGA/PA/PHA/QA/SA/SUA/TA/THA/TSA/VA, NEW TAI
LUE LETTER HIGH/LOW XA/XVA/YA, NEW TAI LUE SIGN LAE/LAEV, NEW TAI LUE THAM DIGIT ONE, NEW TAI
LUE TONE MARK-1/MARK-2, NEW TAI LUE VOWEL SIGN AA/AAY/AE/AY/E/II/IY/O/OA/OAY/OY/U/UE/UEY/UU/UY,
NEW TAI LUE VOWEL SIGN VOWEL SHORTENER, NEWA ABBREVIATION/INSERTION SIGN, NEWA
COMMA/DANDA/OM/SIDDHI, NEWA DIGIT EIGHT/FIVE/FOUR/NINE/ONE/SEVEN/SIX/THREE/TWO/ZERO, NEWA DOUBLE
COMMA/DANDA, NEWA GAP FILLER, NEWA LETTER
A/AA/AI/AU/BA/BHA/CA/CHA/DA/DDA/DDHA/DHA/E/GA/GHA/HA/I/II/JA, NEWA LETTER
JHA/KA/KHA/LA/LHA/MA/MHA/NA/NGA/NGHA/NHA/NNA/NYA/NYHA/O/PA/PHA, NEWA LETTER
RA/RHA/SA/SHA/SSA/TA/THA/TTA/TTHA/U/UU/WA/YA, NEWA LETTER VEDIC ANUSVARA, NEWA LETTER VOCALIC
L/LL/R/RR, NEWA PLACEHOLDER/SANDHI MARK, NEWA SIGN
ANUSVARA/AVAGRAHA/CANDRABINDU/JIHVAMULIYA/NUKTA/UPADHMANIYA, NEWA SIGN FINAL ANUSVARA, NEWA SIGN
VIRAMA/VISARGA, NEWA VOWEL SIGN AA/AI/AU/E/I/II/O/U/UU, NEWA VOWEL SIGN VOCALIC L/LL/R/RR,
NEWLINE LEFT/RIGHT, NEWSPAPER, NEXT LINE/PAGE, NIGHT WITH STARS, NINJA, NKO COMBINING DOUBLE DOT
ABOVE, NKO COMBINING LONG DESCENDING TONE, NKO COMBINING LONG/SHORT HIGH/LOW/RISING TONE, NKO
COMBINING NASALIZATION MARK, NKO COMMA/DANTAYALAN/LAJANYALAN, NKO DIGIT
EIGHT/FIVE/FOUR/NINE/ONE/SEVEN/SIX/THREE/TWO/ZERO, NKO DOROME/TAMAN SIGN, NKO EXCLAMATION MARK,
NKO HIGH/LOW TONE APOSTROPHE, NKO LETTER
A/BA/CHA/DA/DAGBASINNA/E/EE/FA/GBA/HA/I/JA/KA/LA/MA/N/NA/NYA/O, NKO LETTER JONA CHA/JA/RA, NKO
LETTER NA/NYA WOLOSO, NKO LETTER OO/PA/RA/RRA/SA/TA/U/WA/YA, NKO SYMBOL GBAKURUNEN, NKO SYMBOL
OO DENNEN, NL, NNBSP, NO BICYCLES/ENTRY/PEDESTRIANS/PIRACY, NO BREAK HERE, NO ENTRY SIGN, NO
MOBILE PHONES, NO ONE UNDER EIGHTEEN SYMBOL, NO SMOKING SYMBOL, NO-BREAK SPACE, NOMINAL DIGIT
SHAPES, NOMISMA SIGN, NON-BREAKING HYPHEN, NON-POTABLE WATER SYMBOL, NONFORKING, NOR, NORDIC
MARK SIGN, NORMAL SUBGROUP OF, NORMAL SUBGROUP OF OR EQUAL TO, NORTH EAST AND SOUTH WEST ARROW,
NORTH EAST ARROW AND/CROSSING SOUTH EAST ARROW, NORTH EAST ARROW CROSSING NORTH WEST ARROW,
NORTH EAST/WEST ARROW, NORTH EAST/WEST ARROW WITH HOOK, NORTH EAST/WEST
BLACK/DOUBLE/SANS-SERIF/TRIANGLE-HEADED/WHITE ARROW, NORTH EAST/WEST POINTING BUD/LEAF, NORTH
EAST/WEST POINTING VINE LEAF, NORTH EAST/WEST TRIANGLE-HEADED ARROW TO BAR, NORTH INDIC FRACTION
ONE EIGHTH/HALF/QUARTER/SIXTEENTH, NORTH INDIC FRACTION THREE QUARTERS/SIXTEENTHS, NORTH INDIC
PLACEHOLDER/QUANTITY/QUARTER/RUPEE MARK, NORTH WEST AND SOUTH EAST ARROW, NORTH WEST ARROW
AND/CROSSING NORTH EAST ARROW, NORTH WEST ARROW TO CORNER, NORTH WEST ARROW TO LONG BAR,
NORTHEAST-POINTING AIRPLANE, NOSE, NOT A SUBSET/SUPERSET OF, NOT ALMOST/ASYMPTOTICALLY EQUAL TO,
NOT AN ELEMENT OF, NOT CHECK MARK, NOT EQUAL/EQUIVALENT/IDENTICAL/PARALLEL TO, NOT
GREATER-THAN/LESS-THAN/SIGN/TILDE/TRUE, NOT NORMAL SUBGROUP OF, NOT NORMAL SUBGROUP OF OR EQUAL
TO, NOT SQUARE IMAGE/ORIGINAL OF OR EQUAL TO, NOTCHED LEFT/RIGHT SEMICIRCLE WITH THREE DOTS,
NOTCHED LOWER/UPPER RIGHT-SHADOWED WHITE RIGHTWARDS ARROW, NOTE, NOTE PAD/PAGE, NOTEBOOK,
NOTEBOOK WITH DECORATIVE COVER, NUL, NULL, NUMBER
EIGHTEEN/ELEVEN/FIFTEEN/FOURTEEN/NINETEEN/SEVENTEEN/SIXTEEN/TEN FULL STOP, NUMBER SIGN, NUMBER
THIRTEEN/TWELVE/TWENTY FULL STOP, NUMERO SIGN, NUSHU
CHARACTER-1B170/CHARACTER-1B171/CHARACTER-1B172/CHARACTER-1B173, NUSHU
CHARACTER-1B174/CHARACTER-1B175/CHARACTER-1B176/CHARACTER-1B177, NUSHU
CHARACTER-1B178/CHARACTER-1B179/CHARACTER-1B17A/CHARACTER-1B17B, NUSHU
CHARACTER-1B17C/CHARACTER-1B17D/CHARACTER-1B17E/CHARACTER-1B17F, NUSHU
CHARACTER-1B180/CHARACTER-1B181/CHARACTER-1B182/CHARACTER-1B183, NUSHU
CHARACTER-1B184/CHARACTER-1B185/CHARACTER-1B186/CHARACTER-1B187, NUSHU
CHARACTER-1B188/CHARACTER-1B189/CHARACTER-1B18A/CHARACTER-1B18B, NUSHU
CHARACTER-1B18C/CHARACTER-1B18D/CHARACTER-1B18E/CHARACTER-1B18F, NUSHU
CHARACTER-1B190/CHARACTER-1B191/CHARACTER-1B192/CHARACTER-1B193, NUSHU
CHARACTER-1B194/CHARACTER-1B195/CHARACTER-1B196/CHARACTER-1B197, NUSHU
CHARACTER-1B198/CHARACTER-1B199/CHARACTER-1B19A/CHARACTER-1B19B, NUSHU
CHARACTER-1B19C/CHARACTER-1B19D/CHARACTER-1B19E/CHARACTER-1B19F, NUSHU
CHARACTER-1B1A0/CHARACTER-1B1A1/CHARACTER-1B1A2/CHARACTER-1B1A3, NUSHU
CHARACTER-1B1A4/CHARACTER-1B1A5/CHARACTER-1B1A6/CHARACTER-1B1A7, NUSHU
CHARACTER-1B1A8/CHARACTER-1B1A9/CHARACTER-1B1AA/CHARACTER-1B1AB, NUSHU
CHARACTER-1B1AC/CHARACTER-1B1AD/CHARACTER-1B1AE/CHARACTER-1B1AF, NUSHU
CHARACTER-1B1B0/CHARACTER-1B1B1/CHARACTER-1B1B2/CHARACTER-1B1B3, NUSHU
CHARACTER-1B1B4/CHARACTER-1B1B5/CHARACTER-1B1B6/CHARACTER-1B1B7, NUSHU
CHARACTER-1B1B8/CHARACTER-1B1B9/CHARACTER-1B1BA/CHARACTER-1B1BB, NUSHU
CHARACTER-1B1BC/CHARACTER-1B1BD/CHARACTER-1B1BE/CHARACTER-1B1BF, NUSHU
CHARACTER-1B1C0/CHARACTER-1B1C1/CHARACTER-1B1C2/CHARACTER-1B1C3, NUSHU
CHARACTER-1B1C4/CHARACTER-1B1C5/CHARACTER-1B1C6/CHARACTER-1B1C7, NUSHU
CHARACTER-1B1C8/CHARACTER-1B1C9/CHARACTER-1B1CA/CHARACTER-1B1CB, NUSHU
CHARACTER-1B1CC/CHARACTER-1B1CD/CHARACTER-1B1CE/CHARACTER-1B1CF, NUSHU
CHARACTER-1B1D0/CHARACTER-1B1D1/CHARACTER-1B1D2/CHARACTER-1B1D3, NUSHU
CHARACTER-1B1D4/CHARACTER-1B1D5/CHARACTER-1B1D6/CHARACTER-1B1D7, NUSHU
CHARACTER-1B1D8/CHARACTER-1B1D9/CHARACTER-1B1DA/CHARACTER-1B1DB, NUSHU
CHARACTER-1B1DC/CHARACTER-1B1DD/CHARACTER-1B1DE/CHARACTER-1B1DF, NUSHU
CHARACTER-1B1E0/CHARACTER-1B1E1/CHARACTER-1B1E2/CHARACTER-1B1E3, NUSHU
CHARACTER-1B1E4/CHARACTER-1B1E5/CHARACTER-1B1E6/CHARACTER-1B1E7, NUSHU
CHARACTER-1B1E8/CHARACTER-1B1E9/CHARACTER-1B1EA/CHARACTER-1B1EB, NUSHU
CHARACTER-1B1EC/CHARACTER-1B1ED/CHARACTER-1B1EE/CHARACTER-1B1EF, NUSHU
CHARACTER-1B1F0/CHARACTER-1B1F1/CHARACTER-1B1F2/CHARACTER-1B1F3, NUSHU
CHARACTER-1B1F4/CHARACTER-1B1F5/CHARACTER-1B1F6/CHARACTER-1B1F7, NUSHU
CHARACTER-1B1F8/CHARACTER-1B1F9/CHARACTER-1B1FA/CHARACTER-1B1FB, NUSHU
CHARACTER-1B1FC/CHARACTER-1B1FD/CHARACTER-1B1FE/CHARACTER-1B1FF, NUSHU
CHARACTER-1B200/CHARACTER-1B201/CHARACTER-1B202/CHARACTER-1B203, NUSHU
CHARACTER-1B204/CHARACTER-1B205/CHARACTER-1B206/CHARACTER-1B207, NUSHU
CHARACTER-1B208/CHARACTER-1B209/CHARACTER-1B20A/CHARACTER-1B20B, NUSHU
CHARACTER-1B20C/CHARACTER-1B20D/CHARACTER-1B20E/CHARACTER-1B20F, NUSHU
CHARACTER-1B210/CHARACTER-1B211/CHARACTER-1B212/CHARACTER-1B213, NUSHU
CHARACTER-1B214/CHARACTER-1B215/CHARACTER-1B216/CHARACTER-1B217, NUSHU
CHARACTER-1B218/CHARACTER-1B219/CHARACTER-1B21A/CHARACTER-1B21B, NUSHU
CHARACTER-1B21C/CHARACTER-1B21D/CHARACTER-1B21E/CHARACTER-1B21F, NUSHU
CHARACTER-1B220/CHARACTER-1B221/CHARACTER-1B222/CHARACTER-1B223, NUSHU
CHARACTER-1B224/CHARACTER-1B225/CHARACTER-1B226/CHARACTER-1B227, NUSHU
CHARACTER-1B228/CHARACTER-1B229/CHARACTER-1B22A/CHARACTER-1B22B, NUSHU
CHARACTER-1B22C/CHARACTER-1B22D/CHARACTER-1B22E/CHARACTER-1B22F, NUSHU
CHARACTER-1B230/CHARACTER-1B231/CHARACTER-1B232/CHARACTER-1B233, NUSHU
CHARACTER-1B234/CHARACTER-1B235/CHARACTER-1B236/CHARACTER-1B237, NUSHU
CHARACTER-1B238/CHARACTER-1B239/CHARACTER-1B23A/CHARACTER-1B23B, NUSHU
CHARACTER-1B23C/CHARACTER-1B23D/CHARACTER-1B23E/CHARACTER-1B23F, NUSHU
CHARACTER-1B240/CHARACTER-1B241/CHARACTER-1B242/CHARACTER-1B243, NUSHU
CHARACTER-1B244/CHARACTER-1B245/CHARACTER-1B246/CHARACTER-1B247, NUSHU
CHARACTER-1B248/CHARACTER-1B249/CHARACTER-1B24A/CHARACTER-1B24B, NUSHU
CHARACTER-1B24C/CHARACTER-1B24D/CHARACTER-1B24E/CHARACTER-1B24F, NUSHU
CHARACTER-1B250/CHARACTER-1B251/CHARACTER-1B252/CHARACTER-1B253, NUSHU
CHARACTER-1B254/CHARACTER-1B255/CHARACTER-1B256/CHARACTER-1B257, NUSHU
CHARACTER-1B258/CHARACTER-1B259/CHARACTER-1B25A/CHARACTER-1B25B, NUSHU
CHARACTER-1B25C/CHARACTER-1B25D/CHARACTER-1B25E/CHARACTER-1B25F, NUSHU
CHARACTER-1B260/CHARACTER-1B261/CHARACTER-1B262/CHARACTER-1B263, NUSHU
CHARACTER-1B264/CHARACTER-1B265/CHARACTER-1B266/CHARACTER-1B267, NUSHU
CHARACTER-1B268/CHARACTER-1B269/CHARACTER-1B26A/CHARACTER-1B26B, NUSHU
CHARACTER-1B26C/CHARACTER-1B26D/CHARACTER-1B26E/CHARACTER-1B26F, NUSHU
CHARACTER-1B270/CHARACTER-1B271/CHARACTER-1B272/CHARACTER-1B273, NUSHU
CHARACTER-1B274/CHARACTER-1B275/CHARACTER-1B276/CHARACTER-1B277, NUSHU
CHARACTER-1B278/CHARACTER-1B279/CHARACTER-1B27A/CHARACTER-1B27B, NUSHU
CHARACTER-1B27C/CHARACTER-1B27D/CHARACTER-1B27E/CHARACTER-1B27F, NUSHU
CHARACTER-1B280/CHARACTER-1B281/CHARACTER-1B282/CHARACTER-1B283, NUSHU
CHARACTER-1B284/CHARACTER-1B285/CHARACTER-1B286/CHARACTER-1B287, NUSHU
CHARACTER-1B288/CHARACTER-1B289/CHARACTER-1B28A/CHARACTER-1B28B, NUSHU
CHARACTER-1B28C/CHARACTER-1B28D/CHARACTER-1B28E/CHARACTER-1B28F, NUSHU
CHARACTER-1B290/CHARACTER-1B291/CHARACTER-1B292/CHARACTER-1B293, NUSHU
CHARACTER-1B294/CHARACTER-1B295/CHARACTER-1B296/CHARACTER-1B297, NUSHU
CHARACTER-1B298/CHARACTER-1B299/CHARACTER-1B29A/CHARACTER-1B29B, NUSHU
CHARACTER-1B29C/CHARACTER-1B29D/CHARACTER-1B29E/CHARACTER-1B29F, NUSHU
CHARACTER-1B2A0/CHARACTER-1B2A1/CHARACTER-1B2A2/CHARACTER-1B2A3, NUSHU
CHARACTER-1B2A4/CHARACTER-1B2A5/CHARACTER-1B2A6/CHARACTER-1B2A7, NUSHU
CHARACTER-1B2A8/CHARACTER-1B2A9/CHARACTER-1B2AA/CHARACTER-1B2AB, NUSHU
CHARACTER-1B2AC/CHARACTER-1B2AD/CHARACTER-1B2AE/CHARACTER-1B2AF, NUSHU
CHARACTER-1B2B0/CHARACTER-1B2B1/CHARACTER-1B2B2/CHARACTER-1B2B3, NUSHU
CHARACTER-1B2B4/CHARACTER-1B2B5/CHARACTER-1B2B6/CHARACTER-1B2B7, NUSHU
CHARACTER-1B2B8/CHARACTER-1B2B9/CHARACTER-1B2BA/CHARACTER-1B2BB, NUSHU
CHARACTER-1B2BC/CHARACTER-1B2BD/CHARACTER-1B2BE/CHARACTER-1B2BF, NUSHU
CHARACTER-1B2C0/CHARACTER-1B2C1/CHARACTER-1B2C2/CHARACTER-1B2C3, NUSHU
CHARACTER-1B2C4/CHARACTER-1B2C5/CHARACTER-1B2C6/CHARACTER-1B2C7, NUSHU
CHARACTER-1B2C8/CHARACTER-1B2C9/CHARACTER-1B2CA/CHARACTER-1B2CB, NUSHU
CHARACTER-1B2CC/CHARACTER-1B2CD/CHARACTER-1B2CE/CHARACTER-1B2CF, NUSHU
CHARACTER-1B2D0/CHARACTER-1B2D1/CHARACTER-1B2D2/CHARACTER-1B2D3, NUSHU
CHARACTER-1B2D4/CHARACTER-1B2D5/CHARACTER-1B2D6/CHARACTER-1B2D7, NUSHU
CHARACTER-1B2D8/CHARACTER-1B2D9/CHARACTER-1B2DA/CHARACTER-1B2DB, NUSHU
CHARACTER-1B2DC/CHARACTER-1B2DD/CHARACTER-1B2DE/CHARACTER-1B2DF, NUSHU
CHARACTER-1B2E0/CHARACTER-1B2E1/CHARACTER-1B2E2/CHARACTER-1B2E3, NUSHU
CHARACTER-1B2E4/CHARACTER-1B2E5/CHARACTER-1B2E6/CHARACTER-1B2E7, NUSHU
CHARACTER-1B2E8/CHARACTER-1B2E9/CHARACTER-1B2EA/CHARACTER-1B2EB, NUSHU
CHARACTER-1B2EC/CHARACTER-1B2ED/CHARACTER-1B2EE/CHARACTER-1B2EF, NUSHU
CHARACTER-1B2F0/CHARACTER-1B2F1/CHARACTER-1B2F2/CHARACTER-1B2F3, NUSHU
CHARACTER-1B2F4/CHARACTER-1B2F5/CHARACTER-1B2F6/CHARACTER-1B2F7, NUSHU
CHARACTER-1B2F8/CHARACTER-1B2F9/CHARACTER-1B2FA/CHARACTER-1B2FB, NUSHU ITERATION MARK, NUT AND
BOLT, NYIAKENG PUACHUE HMONG CIRCLED/LETTER CA, NYIAKENG PUACHUE HMONG DIGIT
EIGHT/FIVE/FOUR/NINE/ONE/SEVEN/SIX/THREE/TWO/ZERO, NYIAKENG PUACHUE HMONG LETTER
A/AA/DA/DLA/E/EE/FA/GA/HA/HAH/I/KA/LA/MA/MLA/NA/NCA/NKA/NPA, NYIAKENG PUACHUE HMONG LETTER
NPLA/NQA/NRA/NTA/NTSA/NTXA/NYA/O/OO/PA/PLA/QA/RA/RRA/SA/TA/TSA, NYIAKENG PUACHUE HMONG LETTER
TXA/U/VA/W/XA/XYA/YA/ZA, NYIAKENG PUACHUE HMONG LOGOGRAM NYAJ, NYIAKENG PUACHUE HMONG SIGN FOR
ANIMAL/INVERTEBRATE/LOCATION/PERSON/THING, NYIAKENG PUACHUE HMONG SIGN XW XW, NYIAKENG PUACHUE
HMONG SYLLABLE LENGTHENER, NYIAKENG PUACHUE HMONG
TONE-B/TONE-D/TONE-G/TONE-J/TONE-M/TONE-S/TONE-V"),
  ('O', "
OBJECT REPLACEMENT CHARACTER, OBLIQUE ANGLE OPENING DOWN/UP, OBLIQUE HYPHEN, OBSERVER EYE
SYMBOL, OCR AMOUNT OF CHECK, OCR BELT BUCKLE, OCR BOW TIE, OCR BRANCH BANK IDENTIFICATION, OCR
CHAIR/DASH/FORK/HOOK, OCR CUSTOMER ACCOUNT NUMBER, OCR DOUBLE BACKSLASH, OCR INVERTED FORK,
OCTAGONAL SIGN, OCTOPUS, ODEN, OFFICE BUILDING, OGHAM FEATHER/SPACE MARK, OGHAM LETTER
AILM/BEITH/CEIRT/COLL/DAIR/EABHADH/EADHADH/EAMHANCHOLL/FEARN, OGHAM LETTER
GORT/IFIN/IODHADH/LUIS/MUIN/NGEADAL/NION/ONN/OR/PEITH/RUIS/SAIL, OGHAM LETTER
STRAIF/TINNE/UATH/UILLEANN/UR, OGHAM REVERSED FEATHER MARK, OGONEK, OHM SIGN, OIL DRUM, OK HAND
SIGN, OL CHIKI AHAD/PHAARKAA/RELAA, OL CHIKI DIGIT
EIGHT/FIVE/FOUR/NINE/ONE/SEVEN/SIX/THREE/TWO/ZERO, OL CHIKI GAAHLAA/MU-GAAHLAA TTUDDAAG, OL
CHIKI LETTER AAJ/AAK/AAM/AAW/AG/AL/ANG/AT/EDD/EN/EP/ERR/IH/INY/IR/IS/LA/LAA, OL CHIKI LETTER
LE/LI/LO/LU/OB/OH/OTT/OV/UC/UD/UNN/UY, OL CHIKI MU TTUDDAG, OL CHIKI PUNCTUATION DOUBLE MUCAAD,
OL CHIKI PUNCTUATION MUCAAD, OLD CHINESE HOOK/ITERATION MARK, OLD HUNGARIAN CAPITAL/SMALL LETTER
A/AA/AK/AMB/AND/E/EB/EC/ECH/ECS/ED/EE/EF/EG/EGY/EH/EJ/EK/EL/ELY, OLD HUNGARIAN CAPITAL/SMALL
LETTER CLOSE E, OLD HUNGARIAN CAPITAL/SMALL LETTER
EM/EMP/EN/ENC/ENT/ENY/EP/ER/ES/ESZ/ET/ETY/EV/EZ/EZS/I/II/O/OEE, OLD HUNGARIAN CAPITAL/SMALL
LETTER ENT-SHAPED SIGN, OLD HUNGARIAN CAPITAL/SMALL LETTER NIKOLSBURG/RUDIMENTA OE/UE, OLD
HUNGARIAN CAPITAL/SMALL LETTER OO/U/UNK/US/UU, OLD HUNGARIAN CAPITAL/SMALL LETTER SHORT ER, OLD
HUNGARIAN NUMBER FIFTY, OLD HUNGARIAN NUMBER ONE THOUSAND, OLD HUNGARIAN/PERSIAN/SOGDIAN NUMBER
ONE/TEN, OLD HUNGARIAN/SOGDIAN NUMBER FIVE, OLD HUNGARIAN/SOGDIAN NUMBER ONE HUNDRED, OLD ITALIC
LETTER A/BE/CHE/DE/EKS/EL/EM/EN/ER/ERS/ES/ESH/ESS/II/KA/KE/KHE/KU/PHE, OLD ITALIC LETTER
NORTHERN/SOUTHERN TSE, OLD ITALIC LETTER SHE/TE/THE/UU/VE/YE/ZE, OLD ITALIC NUMERAL
FIFTY/FIVE/ONE/TEN, OLD ITALIC/PERMIC LETTER E/EF/I/O/U, OLD ITALIC/SOGDIAN LETTER HE, OLD
ITALIC/SOGDIAN/UYGHUR LETTER PE, OLD KEY, OLD NORTH ARABIAN LETTER
AIN/BEH/DAD/DAL/ES-1/ES-2/ES-3/FEH/GEEM/GHAIN/HAH/HEH/KAF/KHAH, OLD NORTH ARABIAN LETTER
LAM/MEEM/NOON/QAF/REH/SAD/TAH/TEH/THAL/THEH/YEH/ZAH/ZAIN, OLD NORTH ARABIAN NUMBER TEN/TWENTY,
OLD NORTH/SOUTH ARABIAN LETTER ALEF/WAW, OLD NORTH/SOUTH ARABIAN NUMBER ONE, OLD PERMIC LETTER
AN/BUR/CHERY/DOI/DZHOI/DZITA/GAI/HA/IA/IE/KOKE/LEI/MENOE/NENOE, OLD PERMIC LETTER
OO/PEEI/REI/SHCHOOI/SHOOI/SII/TAI/TSIU/VER/VOOI/YA/YAT/YER/YERI, OLD PERMIC LETTER
YERU/YRY/YU/ZATA/ZHOI, OLD PERSIAN NUMBER HUNDRED, OLD PERSIAN SIGN
A/AURAMAZDAA/AURAMAZDAA-2/AURAMAZDAAHA/BA/BAGA/BUUMISH/CA/DA, OLD PERSIAN SIGN
DAHYAAUSH/DAHYAAUSH-2/DI/DU/FA/GA/GU/HA/I/JA/JI/KA/KU/LA/MA/MI, OLD PERSIAN SIGN
MU/NA/NU/PA/RA/RU/SA/SHA/SSA/TA/THA/TU/U/VA/VI/XA/XSHAAYATHIYA, OLD PERSIAN SIGN YA/ZA, OLD
PERSIAN WORD DIVIDER, OLD PERSIAN/SOGDIAN NUMBER TWENTY/TWO, OLD PERSONAL COMPUTER, OLD SOGDIAN
FRACTION ONE HALF, OLD SOGDIAN LETTER ALTERNATE AYIN, OLD SOGDIAN LETTER
AYIN/GIMEL/HETH/RESH-AYIN-DALETH, OLD SOGDIAN LETTER FINAL ALEPH/BETH/HE/NUN/SADHE/TAW, OLD
SOGDIAN LETTER FINAL NUN/SADHE/TAW WITH VERTICAL TAIL, OLD SOGDIAN LIGATURE AYIN-DALETH, OLD
SOGDIAN NUMBER FOUR/THIRTY/THREE, OLD SOGDIAN/UYGHUR LETTER
ALEPH/BETH/KAPH/LAMEDH/MEM/NUN/SADHE/SAMEKH/SHIN/TAW/WAW/YODH, OLD SOGDIAN/UYGHUR LETTER ZAYIN,
OLD SOUTH ARABIAN LETTER AYN/BETH/DALETH/DHADHE/DHALETH/FE/GHAYN/GIMEL/HE/HETH/KAPH, OLD SOUTH
ARABIAN LETTER KHETH/LAMEDH/MEM/NUN/QOPH/RESH/SADHE/SAMEKH/SAT/SHIN/TAW/TETH, OLD SOUTH ARABIAN
LETTER THAW/THETH/YODH/ZAYN, OLD SOUTH ARABIAN NUMBER FIFTY, OLD SOUTH ARABIAN NUMERIC
INDICATOR, OLD TURKIC LETTER ORKHON AED/AEL/AER/AES/AN/AS/BASH/ELT/EM/ENG/EP/IC/O/OP/OT, OLD
TURKIC LETTER ORKHON/YENISEI A/AB/AD/AEB/AEG/AEK/AEN/AET/AEY/AG/AL/AQ/AR/ASH/AT/AY/EC/ENC, OLD
TURKIC LETTER ORKHON/YENISEI ENT/ENY/ESH/EZ/I/IQ/OE/OEK/OQ, OLD TURKIC LETTER YENISEI
AE/AENG/ANG/E, OLD UYGHUR COMBINING DOT ABOVE/BELOW, OLD UYGHUR COMBINING TWO DOTS ABOVE/BELOW,
OLD UYGHUR LETTER FINAL HETH, OLD UYGHUR LETTER GIMEL-HETH/LESH/RESH, OLD UYGHUR PUNCTUATION
BAR, OLD UYGHUR PUNCTUATION FOUR/TWO DOTS, OLD UYGHUR PUNCTUATION TWO BARS, OLDER
ADULT/MAN/WOMAN, OLIVE, OM SYMBOL, ON WITH EXCLAMATION MARK WITH LEFT RIGHT ARROW ABOVE,
ONCOMING AUTOMOBILE/BUS/TAXI, ONCOMING FIRE ENGINE, ONCOMING POLICE CAR, ONE BUTTON MOUSE, ONE
DOT LEADER, ONE DOT OVER TWO DOTS PUNCTUATION, ONE-PIECE SWIMSUIT, ONION, OPEN
BOOK/BOX/FOLDER/LOCK/SUBSET/SUPERSET, OPEN CENTRE ASTERISK/CROSS, OPEN CENTRE BLACK STAR, OPEN
CENTRE TEARDROP-SPOKED ASTERISK, OPEN FILE FOLDER, OPEN HANDS SIGN, OPEN MAILBOX WITH
LOWERED/RAISED FLAG, OPEN-CIRCUIT-OUTPUT H-TYPE/L-TYPE SYMBOL, OPEN-OUTLINED RIGHTWARDS ARROW,
OPERATING SYSTEM COMMAND, OPHIUCHUS, OPPOSITION, OPTICAL DISC, OPTICAL DISC ICON, OPTION KEY, OR
WITH DOT INSIDE, ORANGE BOOK/HEART, ORANGUTAN, ORIGINAL OF, ORIYA AI/AU LENGTH MARK, ORIYA DIGIT
EIGHT/FIVE/FOUR/NINE/ONE/SEVEN/SIX/THREE/TWO/ZERO, ORIYA FRACTION ONE
EIGHTH/HALF/QUARTER/SIXTEENTH, ORIYA FRACTION THREE QUARTERS/SIXTEENTHS, ORIYA ISSHAR, ORIYA
LETTER A/AA/AI/AU/BA/BHA/CA/CHA/DA/DDA/DDHA/DHA/E/GA/GHA/HA/I/II/JA, ORIYA LETTER
JHA/KA/KHA/LA/LLA/MA/NA/NGA/NNA/NYA/O/PA/PHA/RA/RHA/RRA/SA/SHA, ORIYA LETTER
SSA/TA/THA/TTA/TTHA/U/UU/VA/WA/YA/YYA, ORIYA LETTER VOCALIC L/LL/R/RR, ORIYA SIGN
ANUSVARA/AVAGRAHA/CANDRABINDU/NUKTA/OVERLINE/VIRAMA/VISARGA, ORIYA VOWEL SIGN
AA/AI/AU/E/I/II/O/U/UU, ORIYA VOWEL SIGN VOCALIC L/LL/R/RR, ORNATE LEFT/RIGHT PARENTHESIS,
ORTHODOX CROSS, OSAGE CAPITAL/SMALL LETTER
A/AH/AI/AIN/BRA/CHA/DHA/E/EHCHA/EHKA/EHPA/EHTA/EHTSA/EIN/GHA/HA, OSAGE CAPITAL/SMALL LETTER
HYA/I/KA/KHA/KYA/LA/MA/NA/O/OIN/PA/SA/SHA/TA/TSA/TSHA/U/WA/ZA, OSAGE CAPITAL/SMALL LETTER ZHA,
OSC, OSMANYA DIGIT EIGHT/FIVE/FOUR/NINE/ONE/SEVEN/SIX/THREE/TWO/ZERO, OSMANYA LETTER
A/AA/ALEF/BA/CAYN/DEEL/DHA/E/EE/FA/GA/HA/I/JA/KAAF/KHA/LAAN, OSMANYA LETTER
MIIN/NUUN/O/OO/QAAF/RA/SA/SHIIN/TA/U/WAW/XA/YA, OTTER, OTTOMAN SIYAQ ALTERNATE NUMBER
EIGHT/FIVE/FOUR/NINE/SEVEN/SIX/TEN/THREE/TWO, OTTOMAN SIYAQ ALTERNATE NUMBER FOUR/SIX HUNDRED,
OTTOMAN SIYAQ ALTERNATE NUMBER TEN/TWO THOUSAND, OTTOMAN SIYAQ FRACTION ONE HALF/SIXTH, OTTOMAN
SIYAQ MARRATAN, OTTOMAN SIYAQ NUMBER EIGHT/EIGHTY/FIFTY/FIVE/FORTY/FOUR/NINE/NINETY/ONE/SEVEN,
OTTOMAN SIYAQ NUMBER EIGHT/EIGHTY/FIFTY/FIVE/FORTY/FOUR/NINE/NINETY/ONE/SEVEN THOUSAND, OTTOMAN
SIYAQ NUMBER EIGHT/FIVE/FOUR/NINE/ONE/SEVEN/SIX/THREE/TWO HUNDRED, OTTOMAN SIYAQ NUMBER
SEVENTY/SIX/SIXTY/TEN/THIRTY/THREE/TWENTY/TWO, OTTOMAN SIYAQ NUMBER
SEVENTY/SIX/SIXTY/TEN/THIRTY/THREE/TWENTY/TWO THOUSAND, OUNCE SIGN, OUTBOX TRAY, OUTLINED
BLACK/WHITE STAR, OUTLINED GREEK/LATIN CROSS, OVERHEATED FACE, OVERLAP, OVERLAPPING BLACK/WHITE
SQUARES, OVERLAPPING WHITE AND BLACK SQUARES, OVERLINE, OWL, OX, OYSTER"),
  ('P', "
PACKAGE, PAD, PADDING CHARACTER, PAGE, PAGE FACING UP, PAGE WITH CIRCLED TEXT, PAGE WITH CURL,
PAGER, PAGES, PAGODA, PAHAWH HMONG CLAN SIGN
FAJ/HAM/HAWJ/KHAB/KOO/KWM/LAUJ/LIS/MUAS/PHAB/THOJ/TSAB/TSHEEJ, PAHAWH HMONG CLAN SIGN
TSWB/VAJ/VWJ/XYOOJ/YAJ/YEEG, PAHAWH HMONG CONSONANT
AU/CAU/CHAU/HAU/HLAU/HNAU/LAU/MAU/NAU/NCHAU/NKAU/NLAU/NTHAU, PAHAWH HMONG CONSONANT
NTSAU/PLHAU/QHAU/RAU/VAU/XAU/YAU, PAHAWH HMONG DIGIT
EIGHT/FIVE/FOUR/NINE/ONE/SEVEN/SIX/THREE/TWO/ZERO, PAHAWH HMONG MARK CIM
HOM/KES/KHAV/SO/SUAM/TAUM/TUB, PAHAWH HMONG NUMBER HUNDRED MILLIONS, PAHAWH HMONG NUMBER
HUNDREDS/MILLIONS/TENS/TRILLIONS, PAHAWH HMONG NUMBER TEN BILLIONS/THOUSANDS, PAHAWH HMONG SIGN
AV/HLI/HNUB/LOS/MUS/NQIG/NTUJ/TAU/XAUS/XIAB/XYOO, PAHAWH HMONG SIGN CIM CHEEM/TXWV, PAHAWH HMONG
SIGN CIM CUAM TSHOOJ, PAHAWH HMONG SIGN CIM HAIS LUS NTOG NTOG, PAHAWH HMONG SIGN CIM NRES TOS,
PAHAWH HMONG SIGN CIM PUB DAWB, PAHAWH HMONG SIGN CIM TSOV ROG, PAHAWH HMONG SIGN CIM TXWV CHWV,
PAHAWH HMONG SIGN IB YAM, PAHAWH HMONG SIGN MEEJ SUAB/TSEEB, PAHAWH HMONG SIGN THIRD-STAGE HLI,
PAHAWH HMONG SIGN TXHEEJ CEEV, PAHAWH HMONG SIGN VOS FEEM/LUB/NRUA/SEEV/THIAB/THOM, PAHAWH HMONG
SIGN VOS TSHAB CEEB, PAHAWH HMONG SIGN XYEEM FAIB/NTXIV/RHO/TOV, PAHAWH HMONG SIGN ZWJ THAJ,
PAHAWH HMONG VOWEL KAAB/KAAV/KAB/KAIB/KAIV/KAUB/KAUV/KAV/KAWB/KAWV/KEB/KEEB/KEEV, PAHAWH HMONG
VOWEL KEV/KIAB/KIAV/KIB/KIV/KOB/KOOB/KOOV/KOV/KUAB/KUAV/KUB/KUV/KWB, PAHAWH HMONG VOWEL KWV,
PALLAS, PALM BRANCH/TREE, PALM DOWN/UP HAND, PALMS UP TOGETHER, PALMYRENE
LEFT-POINTING/RIGHT-POINTING FLEURON, PALMYRENE LETTER
ALEPH/AYIN/BETH/DALETH/GIMEL/HE/HETH/KAPH/LAMEDH/MEM/NUN/PE, PALMYRENE LETTER FINAL NUN,
PALMYRENE LETTER QOPH/RESH/SADHE/SAMEKH/SHIN/TAW/TETH/WAW/YODH/ZAYIN, PALMYRENE NUMBER
FIVE/FOUR/ONE/TEN/THREE/TWENTY/TWO, PANCAKES, PANDA FACE, PAPERCLIP, PARACHUTE, PARAGRAPH
SEPARATOR, PARAGRAPHOS, PARAGRAPHUS MARK, PARALLEL TO, PARALLEL WITH HORIZONTAL STROKE, PARALLEL
WITH TILDE OPERATOR, PARENTHESIZED DIGIT/IDEOGRAPH EIGHT/FIVE/FOUR/NINE/ONE/SEVEN/SIX/THREE/TWO,
PARENTHESIZED HANGUL CHIEUCH/CIEUC/HIEUH/IEUNG/KHIEUKH/KIYEOK/MIEUM/NIEUN/PHIEUPH, PARENTHESIZED
HANGUL CHIEUCH/CIEUC/HIEUH/IEUNG/KHIEUKH/KIYEOK/MIEUM/NIEUN/PHIEUPH A, PARENTHESIZED HANGUL
CIEUC U, PARENTHESIZED HANGUL PIEUP/RIEUL/SIOS/THIEUTH/TIKEUT, PARENTHESIZED HANGUL
PIEUP/RIEUL/SIOS/THIEUTH/TIKEUT A, PARENTHESIZED IDEOGRAPH
ALLIANCE/CALL/CONGRATULATION/EARTH/ENTERPRISE/FESTIVAL, PARENTHESIZED IDEOGRAPH
FINANCIAL/FIRE/HAVE/LABOR/METAL/MOON/NAME/REACH/REPRESENT, PARENTHESIZED IDEOGRAPH
RESOURCE/REST/SELF/SOCIETY/SPECIAL/STOCK/STUDY/SUN/SUPERVISE, PARENTHESIZED IDEOGRAPH
WATER/WOOD, PARENTHESIZED IDEOGRAPH/NUMBER TEN, PARENTHESIZED KOREAN CHARACTER O HU,
PARENTHESIZED KOREAN CHARACTER OJEON, PARENTHESIZED LATIN CAPITAL/SMALL LETTER
A/B/C/D/E/F/G/H/I/J/K/L/M/N/O/P/Q/R/S/T/U/V/W/X/Y/Z, PARENTHESIZED NUMBER
EIGHTEEN/ELEVEN/FIFTEEN/FOURTEEN/NINETEEN/SEVENTEEN/SIXTEEN, PARENTHESIZED NUMBER
THIRTEEN/TWELVE/TWENTY, PARROT, PART ALTERNATION MARK, PARTIAL DIFFERENTIAL, PARTIAL LINE
BACKWARD/DOWN/FORWARD/UP, PARTIALLY-RECYCLED PAPER SYMBOL, PARTNERSHIP SIGN, PARTY POPPER,
PASSED SYMBOL, PASSENGER SHIP, PASSIVE-PULL-DOWN-OUTPUT SYMBOL, PASSIVE-PULL-UP-OUTPUT SYMBOL,
PASSPORT CONTROL, PAU CIN HAU GLOTTAL STOP, PAU CIN HAU GLOTTAL STOP FINAL/VARIANT, PAU CIN HAU
LETTER A/BA/CA/CHA/DA/E/FA/GA/HA/I/IA/KA/KHA/LA/MA/NA/NGA/O/PA/PHA/RA, PAU CIN HAU LETTER FINAL
K/L/M/N/NG/P/T/W/Y, PAU CIN HAU LETTER SA/TA/THA/U/UA/VA/ZA, PAU CIN HAU
LOW-FALLING/MID-LEVEL/RISING/SANDHI TONE, PAU CIN HAU LOW-FALLING/MID-LEVEL/RISING/SANDHI TONE
FINAL, PAU CIN HAU LOW-FALLING/MID-LEVEL/RISING/SANDHI TONE LONG FINAL, PAU CIN HAU
LOW-FALLING/RISING/SANDHI TONE LONG, PAU CIN HAU SANDHI GLOTTAL STOP, PAU CIN HAU SANDHI GLOTTAL
STOP FINAL, PAW PRINTS, PDF, PDI, PEACE SYMBOL, PEACH, PEACOCK, PEANUTS, PEAR, PEDESTRIAN, PEN
OVER STAMPED ENVELOPE, PENCIL, PENGUIN, PENSIVE FACE, PENTAGRAM, PEOPLE HUGGING, PER MILLE SIGN,
PER SIGN, PER TEN THOUSAND SIGN, PERCENT SIGN, PERFORMING ARTS, PERMANENT PAPER SIGN,
PERPENDICULAR, PERPENDICULAR WITH S, PERSEVERING FACE, PERSON BOWING DEEPLY, PERSON
CLIMBING/FROWNING, PERSON DOING CARTWHEEL, PERSON IN LOTUS POSITION, PERSON IN STEAMY ROOM,
PERSON RAISING BOTH HANDS IN CELEBRATION, PERSON WITH BALL/CROWN/HEADSCARF, PERSON WITH BLOND
HAIR, PERSON WITH FOLDED HANDS, PERSON WITH POUTING FACE, PERSONAL COMPUTER, PERSPECTIVE, PESETA
SIGN, PESO SIGN, PETRI DISH, PHAGS-PA DOUBLE/SINGLE HEAD MARK, PHAGS-PA LETTER
A/BA/CA/CANDRABINDU/CHA/DA/DDA/DZA/E/EE/FA/GA/GGA/HA/I/JA/KA, PHAGS-PA LETTER ALTERNATE YA,
PHAGS-PA LETTER ASPIRATED FA, PHAGS-PA LETTER
KHA/LA/MA/NA/NGA/NNA/NYA/O/PA/PHA/QA/RA/SA/SHA/TA/THA/TSA/TSHA, PHAGS-PA LETTER SMALL A,
PHAGS-PA LETTER TTA/TTHA/U/WA/XA/YA/ZA/ZHA, PHAGS-PA LETTER VOICED HA, PHAGS-PA LETTER VOICELESS
SHA, PHAGS-PA MARK DOUBLE SHAD, PHAGS-PA MARK SHAD, PHAGS-PA SUBJOINED LETTER WA/YA, PHAGS-PA
SUBJOINED/SUPERFIXED LETTER RA, PHAISTOS DISC SIGN
ARROW/BEE/BEEHIVE/BOOMERANG/BOW/CAPTIVE/CAT/CHILD/CLUB/COLUMN, PHAISTOS DISC SIGN BULLS LEG,
PHAISTOS DISC SIGN CARPENTRY PLANE, PHAISTOS DISC SIGN
COMB/DOLIUM/DOVE/EAGLE/FLUTE/GAUNTLET/GRATER/HELMET/HIDE/HORN, PHAISTOS DISC SIGN COMBINING
OBLIQUE STROKE, PHAISTOS DISC SIGN LID/LILY/MANACLES/MATTOCK/PAPYRUS/PEDESTRIAN/RAM/ROSETTE/SAW,
PHAISTOS DISC SIGN OX BACK, PHAISTOS DISC SIGN PLANE TREE, PHAISTOS DISC SIGN PLUMED/TATTOOED
HEAD, PHAISTOS DISC SIGN SHIELD/SHIP/SLING/STRAINER/TIARA/TUNNY/VINE/WOMAN, PHAISTOS DISC SIGN
SMALL AXE, PHAISTOS DISC SIGN WAVY BAND, PHILIPPINE DOUBLE/SINGLE PUNCTUATION, PHOENICIAN LETTER
AIN/ALF/BET/DELT/GAML/HE/HET/KAF/LAMD/MEM/NUN/PE/QOF/ROSH/SADE, PHOENICIAN LETTER
SEMK/SHIN/TAU/TET/WAU/YOD/ZAI, PHOENICIAN NUMBER ONE HUNDRED, PHOENICIAN NUMBER
ONE/TEN/THREE/TWENTY/TWO, PHOENICIAN WORD SEPARATOR, PHOLUS, PICK, PICKUP TRUCK, PIE, PIG, PIG
FACE/NOSE, PILCROW SIGN, PILE OF POO, PILL, PINATA, PINCHED FINGERS, PINCHING HAND, PINE
DECORATION, PINEAPPLE, PINWHEEL STAR, PISCES, PISTOL, PITCHFORK, PITCHFORK WITH TEE TOP,
PLACARD, PLACE OF INTEREST SIGN, PLACE OF WORSHIP, PLANCK CONSTANT, PLANCK CONSTANT OVER TWO PI,
PLAYGROUND SLIDE, PLAYING CARD ACE/EIGHT/FIVE/FOUR/JACK/KING/KNIGHT/NINE/QUEEN/SEVEN/SIX/TEN OF
CLUBS/DIAMONDS/HEARTS/SPADES, PLAYING CARD
BACK/FOOL/TRUMP-1/TRUMP-10/TRUMP-11/TRUMP-12/TRUMP-13/TRUMP-14, PLAYING CARD BLACK/RED/WHITE
JOKER, PLAYING CARD THREE/TWO OF CLUBS/DIAMONDS/HEARTS/SPADES, PLAYING CARD
TRUMP-15/TRUMP-16/TRUMP-17/TRUMP-18/TRUMP-19/TRUMP-2/TRUMP-20, PLAYING CARD
TRUMP-21/TRUMP-3/TRUMP-4/TRUMP-5/TRUMP-6/TRUMP-7/TRUMP-8, PLAYING CARD TRUMP-9, PLD, PLU,
PLUNGER, PLUS SIGN, PLUS SIGN ABOVE EQUALS SIGN, PLUS SIGN IN LEFT/RIGHT HALF CIRCLE, PLUS SIGN
IN TRIANGLE, PLUS SIGN WITH BLACK TRIANGLE, PLUS SIGN WITH CIRCUMFLEX ACCENT ABOVE, PLUS SIGN
WITH DOT/TILDE BELOW, PLUS SIGN WITH SMALL CIRCLE ABOVE, PLUS SIGN WITH SUBSCRIPT TWO, PLUS SIGN
WITH TILDE ABOVE, PLUS-MINUS SIGN, PLUTO, PLUTO FORM FIVE/FOUR/THREE/TWO, PM, POCKET CALCULATOR,
POLICE CAR/OFFICER, POLICE CARS REVOLVING LIGHT, POODLE, POP DIRECTIONAL FORMATTING/ISOLATE,
POPCORN, PORTABLE STEREO, POSEIDON, POSITION INDICATOR, POSTAL HORN/MARK, POSTAL MARK FACE,
POSTBOX, POT OF FOOD, POTABLE WATER SYMBOL, POTATO, POTTED PLANT, POUCH, POULTRY LEG, POUND
SIGN, POURING LIQUID, POUTING CAT FACE, POUTING FACE, POWER ON/ON-OFF/SLEEP SYMBOL, POWER
SYMBOL, PRAYER BEADS, PRECEDES, PRECEDES ABOVE ALMOST/NOT EQUAL TO, PRECEDES ABOVE EQUALS SIGN,
PRECEDES ABOVE NOT ALMOST EQUAL TO, PRECEDES ABOVE SINGLE-LINE EQUALS SIGN, PRECEDES ABOVE
SINGLE-LINE NOT EQUAL TO, PRECEDES BUT NOT EQUIVALENT TO, PRECEDES OR EQUAL/EQUIVALENT TO,
PRECEDES UNDER RELATION, PREGNANT MAN/PERSON/WOMAN, PRESCRIPTION TAKE, PRESENTATION FORM FOR
VERTICAL COLON/COMMA/SEMICOLON, PRESENTATION FORM FOR VERTICAL EM/EN DASH, PRESENTATION FORM FOR
VERTICAL EXCLAMATION/QUESTION MARK, PRESENTATION FORM FOR VERTICAL HORIZONTAL ELLIPSIS,
PRESENTATION FORM FOR VERTICAL IDEOGRAPHIC COMMA, PRESENTATION FORM FOR VERTICAL IDEOGRAPHIC
FULL STOP, PRESENTATION FORM FOR VERTICAL LEFT/RIGHT ANGLE/CORNER/CURLY/SQUARE BRACKET,
PRESENTATION FORM FOR VERTICAL LEFT/RIGHT BLACK/WHITE LENTICULAR BRACKET, PRESENTATION FORM FOR
VERTICAL LEFT/RIGHT DOUBLE ANGLE BRACKET, PRESENTATION FORM FOR VERTICAL LEFT/RIGHT PARENTHESIS,
PRESENTATION FORM FOR VERTICAL LEFT/RIGHT TORTOISE SHELL BRACKET, PRESENTATION FORM FOR VERTICAL
LEFT/RIGHT WHITE CORNER BRACKET, PRESENTATION FORM FOR VERTICAL LOW LINE, PRESENTATION FORM FOR
VERTICAL RIGHT WHITE LENTICULAR BRAKCET, PRESENTATION FORM FOR VERTICAL TWO DOT LEADER,
PRESENTATION FORM FOR VERTICAL WAVY LOW LINE, PRETZEL, PREVIOUS PAGE, PRIME, PRINCE, PRINCESS,
PRINT SCREEN SYMBOL, PRINTER, PRINTER ICON, PRIVACY MESSAGE, PRIVATE USE ONE/TWO, PRIVATE
USE-1/USE-2, PROBING CANE, PROHIBITED SIGN, PROJECTIVE, PROPERTY LINE, PROPORTION, PROPORTIONAL
TO, PROSERPINA, PSALTER PAHLAVI FOUR DOTS WITH CROSS/DOT, PSALTER PAHLAVI LETTER
ALEPH/BETH/DALETH/GIMEL/HE/HETH/KAPH/LAMEDH/MEM-QOPH/NUN/PE, PSALTER PAHLAVI LETTER
SADHE/SAMEKH/SHIN/TAW/WAW-AYIN-RESH/YODH/ZAYIN, PSALTER PAHLAVI NUMBER
FOUR/ONE/TEN/THREE/TWENTY/TWO, PSALTER PAHLAVI NUMBER ONE HUNDRED, PSALTER PAHLAVI SECTION MARK,
PSALTER PAHLAVI TURNED SECTION MARK, PU1, PU2, PUBLIC ADDRESS LOUDSPEAKER, PUNCTUATION SPACE,
PUNCTUS ELEVATUS MARK, PURPLE HEART, PURSE, PUSHPIN, PUT LITTER IN ITS PLACE SYMBOL"),
  ('Q', "
QUADRANT LOWER/UPPER LEFT/RIGHT, QUADRANT UPPER LEFT AND LOWER RIGHT, QUADRANT UPPER LEFT AND
UPPER RIGHT AND LOWER LEFT/RIGHT, QUADRANT UPPER LEFT/RIGHT AND LOWER LEFT AND LOWER RIGHT,
QUADRANT UPPER RIGHT AND LOWER LEFT, QUADRUPLE INTEGRAL OPERATOR, QUADRUPLE PRIME, QUARTER NOTE,
QUATERNION INTEGRAL OPERATOR, QUESTION EXCLAMATION MARK, QUESTION MARK, QUESTIONED EQUAL TO,
QUINCUNX, QUOTATION MARK"),
  ('R', "
RABBIT, RABBIT FACE, RACCOON, RACING CAR/MOTORCYCLE, RADICAL SYMBOL BOTTOM, RADIO, RADIO BUTTON,
RADIOACTIVE SIGN, RAILWAY CAR/TRACK, RAIN, RAINBOW, RAISED BACK OF HAND, RAISED
COMMA/DOT/FIST/HAND/SQUARE, RAISED DOTTED INTERPOLATION MARKER, RAISED HAND WITH FINGERS
SPLAYED, RAISED HAND WITH PART BETWEEN MIDDLE AND RING FINGERS, RAISED INTERPOLATION MARKER,
RAISED MC/MD/MR SIGN, RAM, RAT, RATIO, RAZOR, RECEIPT, RECORD SEPARATOR, RECREATIONAL VEHICLE,
RECYCLED PAPER SYMBOL, RECYCLING SYMBOL FOR GENERIC MATERIALS, RECYCLING SYMBOL FOR
TYPE-1/TYPE-2/TYPE-3/TYPE-4/TYPE-5/TYPE-6/TYPE-7 PLASTICS, RED APPLE, RED GIFT ENVELOPE,
REFERENCE MARK, REGIONAL INDICATOR SYMBOL LETTER
A/B/C/D/E/F/G/H/I/J/K/L/M/N/O/P/Q/R/S/T/U/V/W/X/Y/Z, REGISTERED SIGN, REJANG CONSONANT SIGN
H/N/NG/R, REJANG LETTER A/BA/CA/DA/GA/HA/JA/KA/LA/MA/MBA/NA/NDA/NGA/NGGA/NYA/NYJA/PA/RA, REJANG
LETTER SA/TA/WA/YA, REJANG SECTION MARK, REJANG VIRAMA, REJANG VOWEL SIGN AI/AU/E/EA/EU/I/O/U,
RELIEVED FACE, REMINDER RIBBON, REPLACEMENT CHARACTER, RESPONSE, RESTRICTED LEFT
ENTRY-1/ENTRY-2, RESTROOM, RETURN LEFT/RIGHT/SYMBOL, REVERSE CHECKER BOARD, REVERSE
INDEX/SOLIDUS, REVERSE LIGHT FOUR POINTED PINWHEEL STAR, REVERSE LINE FEED, REVERSE SOLIDUS
OPERATOR, REVERSE SOLIDUS PRECEDING SUBSET, REVERSE SOLIDUS WITH HORIZONTAL STROKE, REVERSE
TILDE OPERATOR ABOVE LEFTWARDS/RIGHTWARDS ARROW, REVERSED ANGLE WITH UNDERBAR, REVERSED
ANGLE/COMMA/PRIME/SEMICOLON/TILDE, REVERSED DOUBLE PRIME QUOTATION MARK, REVERSED DOUBLE STROKE
NOT SIGN, REVERSED DOUBLE/TRIPLE PRIME, REVERSED EMPTY SET, REVERSED FORKED PARAGRAPHOS,
REVERSED HAND WITH MIDDLE FINGER EXTENDED, REVERSED NOT/PILCROW SIGN, REVERSED QUESTION MARK,
REVERSED RAISED HAND WITH FINGERS SPLAYED, REVERSED RIGHT ANGLE, REVERSED ROTATED FLORAL HEART
BULLET, REVERSED SANS-SERIF CAPITAL L, REVERSED THUMBS DOWN/UP SIGN, REVERSED TILDE EQUALS,
REVERSED VICTORY HAND, REVOLVING HEARTS, RHINOCEROS, RI, RIAL SIGN, RIBBON, RIBBON ARROW DOWN/UP
LEFT/RIGHT, RIBBON ARROW LEFT/RIGHT DOWN/UP, RICE BALL/CRACKER, RIFLE, RIGHT AND LOWER/UPPER ONE
EIGHTH BLOCK, RIGHT ANGER/SPEECH/THOUGHT BUBBLE, RIGHT ANGLE BRACKET WITH DOT, RIGHT ANGLE
DOTTED SUBSTITUTION MARKER, RIGHT ANGLE SUBSTITUTION MARKER, RIGHT ANGLE VARIANT WITH SQUARE,
RIGHT ANGLE WITH ARC, RIGHT ANGLE WITH DOWNWARDS ZIGZAG ARROW, RIGHT
ANGLE/CEILING/FLOOR/PARENTHESIS/SPEAKER/TACK/TRIANGLE, RIGHT
ANGLE/CORNER/CURLY/SQUARE/SUBSTITUTION/TRANSPOSITION BRACKET, RIGHT ARC GREATER-THAN BRACKET,
RIGHT ARROW WITH CIRCLED PLUS, RIGHT ARROW WITH SMALL CIRCLE, RIGHT BLACK/WHITE LENTICULAR
BRACKET, RIGHT BLACK/WHITE TORTOISE SHELL BRACKET, RIGHT CURLY BRACKET LOWER/UPPER HOOK, RIGHT
CURLY BRACKET MIDDLE PIECE, RIGHT DOTTED SUBSTITUTION BRACKET, RIGHT DOUBLE ANGLE BRACKET, RIGHT
DOUBLE ARROW WITH ROUNDED HEAD, RIGHT DOUBLE WIGGLY FENCE, RIGHT DOUBLE/SINGLE QUOTATION MARK,
RIGHT DOUBLE/WHITE PARENTHESIS, RIGHT FISH TAIL, RIGHT FIVE/SEVEN/THREE EIGHTHS BLOCK, RIGHT
HALF BLACK CIRCLE/STAR, RIGHT HALF BLOCK/FOLDER, RIGHT HALF MEDIUM SHADE, RIGHT HALF RUNNING
MAN, RIGHT HAND TELEPHONE RECEIVER, RIGHT LOW PARAPHRASE BRACKET, RIGHT NORMAL FACTOR SEMIDIRECT
PRODUCT, RIGHT ONE EIGHTH/QUARTER BLOCK, RIGHT OPEN SQUARED DOT, RIGHT OUTER JOIN, RIGHT
PARENTHESIS EXTENSION, RIGHT PARENTHESIS LOWER/UPPER HOOK, RIGHT RAISED OMISSION BRACKET, RIGHT
S-SHAPED BAG DELIMITER, RIGHT SEMIDIRECT PRODUCT, RIGHT SIDEWAYS U BRACKET, RIGHT SPEAKER WITH
ONE SOUND WAVE, RIGHT SPEAKER WITH THREE SOUND WAVES, RIGHT SQUARE BRACKET EXTENSION, RIGHT
SQUARE BRACKET LOWER/UPPER CORNER, RIGHT SQUARE BRACKET WITH DOUBLE STROKE, RIGHT SQUARE BRACKET
WITH QUILL/STROKE/UNDERBAR, RIGHT SQUARE BRACKET WITH TICK IN BOTTOM/TOP CORNER, RIGHT THIRD
WHITE RIGHT POINTING INDEX, RIGHT THREE QUARTERS BLOCK, RIGHT TORTOISE SHELL BRACKET, RIGHT
TRIANGLE ABOVE LEFT TRIANGLE, RIGHT TRIANGULAR ONE QUARTER BLOCK, RIGHT VERTICAL BAR WITH QUILL,
RIGHT VERTICAL BOX LINE, RIGHT WHITE CORNER/CURLY/SQUARE BRACKET, RIGHT WIGGLY FENCE,
RIGHT-FACING ARMENIAN ETERNITY SIGN, RIGHT-FACING FIST, RIGHT-FACING SVASTI SIGN, RIGHT-FACING
SVASTI SIGN WITH DOTS, RIGHT-HANDED INTERLACED PENTAGRAM, RIGHT-POINTING ANGLE BRACKET,
RIGHT-POINTING CURVED ANGLE BRACKET, RIGHT-POINTING DOUBLE ANGLE QUOTATION MARK, RIGHT-POINTING
MAGNIFYING GLASS, RIGHT-SHADED WHITE RIGHTWARDS ARROW, RIGHT-SIDE ARC CLOCKWISE ARROW,
RIGHT-TO-LEFT EMBEDDING/ISOLATE/MARK/OVERRIDE, RIGHTHAND INTERIOR PRODUCT, RIGHTWARDS ARROW
ABOVE ALMOST EQUAL TO, RIGHTWARDS ARROW ABOVE REVERSE ALMOST EQUAL TO, RIGHTWARDS ARROW ABOVE
REVERSE TILDE OPERATOR, RIGHTWARDS ARROW ABOVE SHORT LEFTWARDS ARROW, RIGHTWARDS ARROW ABOVE
TILDE OPERATOR, RIGHTWARDS ARROW AND UPPER AND LOWER ONE EIGHTH BLOCK, RIGHTWARDS ARROW FROM BAR
TO BLACK DIAMOND, RIGHTWARDS ARROW FROM/TO BAR, RIGHTWARDS ARROW OVER LEFTWARDS ARROW,
RIGHTWARDS ARROW THROUGH GREATER-THAN/SUPERSET/X, RIGHTWARDS ARROW TO BLACK DIAMOND, RIGHTWARDS
ARROW WITH CORNER/TIP DOWNWARDS, RIGHTWARDS ARROW WITH DOTTED STEM, RIGHTWARDS ARROW WITH DOUBLE
VERTICAL STROKE, RIGHTWARDS ARROW WITH EQUILATERAL ARROWHEAD, RIGHTWARDS ARROW WITH
HOOK/LOOP/STROKE/TAIL, RIGHTWARDS ARROW WITH LARGE/MEDIUM/SMALL TRIANGLE ARROWHEAD, RIGHTWARDS
ARROW WITH NOTCHED TAIL, RIGHTWARDS ARROW WITH PLUS BELOW, RIGHTWARDS ARROW WITH SMALL
EQUILATERAL ARROWHEAD, RIGHTWARDS ARROW WITH TAIL WITH DOUBLE VERTICAL STROKE, RIGHTWARDS ARROW
WITH TAIL WITH VERTICAL STROKE, RIGHTWARDS ARROW WITH TIP UPWARDS, RIGHTWARDS ARROW WITH
VERTICAL STROKE, RIGHTWARDS ARROW/ARROW-TAIL/HAND/ROCKET, RIGHTWARDS BACK-TILTED/FRONT-TILTED
SHADOWED WHITE ARROW, RIGHTWARDS BLACK CIRCLED WHITE ARROW, RIGHTWARDS
BLACK/COMPRESSED/DASHED/DOUBLE/FINGER-POST/HEAVY/OPEN-HEADED ARROW, RIGHTWARDS BOTTOM/TOP SHADED
WHITE ARROW, RIGHTWARDS DOUBLE ARROW WITH STROKE, RIGHTWARDS DOUBLE ARROW-TAIL, RIGHTWARDS
DOUBLE/TRIPLE DASH ARROW, RIGHTWARDS DOUBLE/TWO-HEADED ARROW FROM BAR, RIGHTWARDS
DOUBLE/TWO-HEADED ARROW WITH VERTICAL STROKE, RIGHTWARDS HARPOON OVER LEFTWARDS HARPOON,
RIGHTWARDS HARPOON WITH BARB DOWN ABOVE LEFTWARDS HARPOON WITH BARB DOWN, RIGHTWARDS HARPOON
WITH BARB DOWN BELOW LONG DASH, RIGHTWARDS HARPOON WITH BARB DOWN/UP FROM/TO BAR, RIGHTWARDS
HARPOON WITH BARB DOWNWARDS/UPWARDS, RIGHTWARDS HARPOON WITH BARB UP ABOVE LEFTWARDS HARPOON
WITH BARB UP, RIGHTWARDS HARPOON WITH BARB UP ABOVE LONG DASH, RIGHTWARDS HARPOON WITH BARB UP
ABOVE RIGHTWARDS HARPOON WITH BARB DOWN, RIGHTWARDS HEAVY COMPRESSED ARROW, RIGHTWARDS
LEFT-SHADED/RIGHT-SHADED WHITE ARROW, RIGHTWARDS PAIRED ARROWS, RIGHTWARDS
QUADRUPLE/SANS-SERIF/SQUARED/SQUIGGLE/TRIANGLE-HEADED/TRIPLE ARROW, RIGHTWARDS TRIANGLE
ARROWHEAD, RIGHTWARDS TRIANGLE-HEADED ARROW OVER LEFTWARDS TRIANGLE-HEADED ARROW, RIGHTWARDS
TRIANGLE-HEADED ARROW TO BAR, RIGHTWARDS TRIANGLE-HEADED ARROW WITH BOLD/HEAVY/MEDIUM/NARROW
SHAFT, RIGHTWARDS TRIANGLE-HEADED ARROW WITH DOUBLE HORIZONTAL STROKE, RIGHTWARDS
TRIANGLE-HEADED ARROW WITH LONG TIP DOWNWARDS/UPWARDS, RIGHTWARDS TRIANGLE-HEADED ARROW WITH
VERY HEAVY SHAFT, RIGHTWARDS TRIANGLE-HEADED DASHED ARROW, RIGHTWARDS TRIANGLE-HEADED PAIRED
ARROWS, RIGHTWARDS TRIANGLE-HEADED/TWO-HEADED ARROW WITH DOUBLE VERTICAL STROKE, RIGHTWARDS TWO
HEADED ARROW, RIGHTWARDS TWO-HEADED ARROW WITH TAIL, RIGHTWARDS TWO-HEADED ARROW WITH TAIL WITH
DOUBLE VERTICAL STROKE, RIGHTWARDS TWO-HEADED ARROW WITH TAIL WITH VERTICAL STROKE, RIGHTWARDS
TWO-HEADED ARROW WITH TRIANGLE ARROWHEADS, RIGHTWARDS TWO-HEADED TRIPLE DASH ARROW, RIGHTWARDS
WAVE/WHITE ARROW, RIGHTWARDS WHITE ARROW FROM WALL, RIGHTWARDS WHITE ARROW WITHIN TRIANGLE
ARROWHEAD, RING, RING ABOVE/BUOY/OPERATOR/POINT, RING EQUAL TO, RING IN EQUAL TO, RINGED PLANET,
RINGING BELL, RISING DIAGONAL CROSSING FALLING DIAGONAL, RISING DIAGONAL CROSSING SOUTH EAST
ARROW, RLE, RLI, RLM, RLO, ROASTED SWEET POTATO, ROBOT FACE, ROCK, ROCKET, ROLL OF PAPER,
ROLLED-UP NEWSPAPER, ROLLER COASTER/SKATE, ROLLING ON THE FLOOR LAUGHING, ROMAN
AS/CENTURIAL/DENARIUS/DUPONDIUS/QUINARIUS/SEMUNCIA/SESTERTIUS SIGN, ROMAN DIMIDIA SEXTULA SIGN,
ROMAN NUMERAL EIGHT/ELEVEN/FIFTY/FIVE/FOUR/NINE/ONE/SEVEN/SIX/TEN/THREE, ROMAN NUMERAL FIFTY
EARLY FORM, ROMAN NUMERAL FIFTY/FIVE/ONE/TEN THOUSAND, ROMAN NUMERAL FIVE/ONE HUNDRED, ROMAN
NUMERAL ONE HUNDRED THOUSAND, ROMAN NUMERAL ONE THOUSAND C D, ROMAN NUMERAL REVERSED ONE
HUNDRED, ROMAN NUMERAL SIX LATE FORM, ROMAN NUMERAL TWELVE/TWO, ROMAN
SEXTANS/SEXTULA/SILIQUA/UNCIA SIGN, ROOSTER, ROSE, ROSETTE, ROTATED CAPITAL Q, ROTATED FLORAL
HEART BULLET, ROTATED HEAVY BLACK HEART BULLET, ROTATED LIGHT FOUR POINTED BLACK CUSP, ROTATED
WHITE FOUR POINTED CUSP, ROUND PUSHPIN/TARGET, ROUNDED SYMBOL FOR CAI/FU/LU/SHOU/SHUANGXI/XI,
ROWBOAT, RS, RUBLE SIGN, RUGBY FOOTBALL, RULE-DELAYED, RUMI DIGIT
EIGHT/FIVE/FOUR/NINE/ONE/SEVEN/SIX/THREE/TWO, RUMI FRACTION ONE HALF/QUARTER/THIRD, RUMI
FRACTION TWO THIRDS, RUMI NUMBER EIGHT/FIVE/FOUR/NINE/ONE/SEVEN/SIX/THREE/TWO HUNDRED, RUMI
NUMBER EIGHTY/FIFTY/FORTY/NINETY/SEVENTY/SIXTY/TEN/THIRTY/TWENTY, RUNIC ARLAUG/BELGTHOR/TVIMADUR
SYMBOL, RUNIC CROSS/MULTIPLE/SINGLE PUNCTUATION, RUNIC LETTER AC/ANSUZ/SHORT-TWIG-AR A, RUNIC
LETTER AESC/C/CALC/CEALC/CEN/CWEORTH/D/DOTTED-L/DOTTED-N/DOTTED-P/E, RUNIC LETTER ALGIZ EOLHX,
RUNIC LETTER BERKANAN BEORC BJARKAN B, RUNIC LETTER DAGAZ DAEG D, RUNIC LETTER
EAR/ENG/ETH/G/GAR/GER/ICELANDIC-YR/ING/INGWAZ/IOR/K/KAUNA, RUNIC LETTER EHWAZ EH E, RUNIC LETTER
FEHU FEOH FE F, RUNIC LETTER FRANKS CASKET AC/AESC/EH/IS/OS, RUNIC LETTER GEBO GYFU G, RUNIC
LETTER HAEGL/HAGLAZ/LONG-BRANCH-HAGALL/SHORT-TWIG-HAGALL H, RUNIC LETTER ISAZ IS ISS I, RUNIC
LETTER IWAZ EOH, RUNIC LETTER JERAN J, RUNIC LETTER KAUN K, RUNIC LETTER LAUKAZ LAGU LOGR L,
RUNIC LETTER LONG-BRANCH-AR AE, RUNIC LETTER LONG-BRANCH-MADR/SHORT-TWIG-MADR M, RUNIC LETTER
LONG-BRANCH-OSS/OS/SHORT-TWIG-OSS O, RUNIC LETTER
LONG-BRANCH-YR/O/OE/ON/OO/OPEN-P/Q/SH/SHORT-TWIG-YR/STAN/V/W/X, RUNIC LETTER MANNAZ MAN M, RUNIC
LETTER NAUDIZ NYD NAUD N, RUNIC LETTER OTHALAN ETHEL O, RUNIC LETTER PERTHO PEORTH P, RUNIC
LETTER RAIDO RAD REID R, RUNIC LETTER SHORT-TWIG-BJARKAN B, RUNIC LETTER SHORT-TWIG-NAUD N,
RUNIC LETTER SHORT-TWIG-SOL/SOWILO S, RUNIC LETTER SHORT-TWIG-TYR T, RUNIC LETTER SIGEL
LONG-BRANCH-SOL S, RUNIC LETTER THURISAZ THURS THORN, RUNIC LETTER TIWAZ TIR TYR T, RUNIC LETTER
URUZ UR U, RUNIC LETTER WUNJO WYNN W, RUNIC LETTER Y/YR/Z, RUNNER, RUNNING SHIRT WITH SASH,
RUPEE SIGN, RUSSIAN ASTROLOGICAL SYMBOL BINOVILE/NOVILE/QUINTILE/SENTAGON/TREDECILE/VIGINTILE"),
  ('S', "
S IN TRIANGLE, SAFETY PIN/VEST, SAGITTARIUS, SAILBOAT, SAKE BOTTLE AND CUP, SALT SHAKER,
SALTIRE, SALUTING FACE, SAMARITAN ABBREVIATION MARK, SAMARITAN LETTER
ALAF/BAA/BIT/DALAT/FI/GAMAN/IT/IY/KAAF/LABAT/MIM/NUN/QUF/RISH, SAMARITAN LETTER
SHAN/SINGAAT/TAAF/TIT/TSAADIY/YUT/ZEN, SAMARITAN LETTER/MARK IN, SAMARITAN MARK
DAGESH/IN-ALAF/OCCLUSION, SAMARITAN MARK EPENTHETIC YUT, SAMARITAN MARK/PUNCTUATION NEQUDAA,
SAMARITAN MODIFIER LETTER EPENTHETIC YUT, SAMARITAN MODIFIER LETTER I, SAMARITAN MODIFIER LETTER
SHORT A, SAMARITAN PUNCTUATION AFSAAQ/ANGED/ANNAAU/ARKAANU/ATMAAU/BAU/QITSA/SHIYYAALAA/TURU,
SAMARITAN PUNCTUATION MELODIC QITSA, SAMARITAN PUNCTUATION SOF MASHFAAT, SAMARITAN PUNCTUATION
ZAEF/ZIQAA, SAMARITAN VOWEL SIGN A/AA/E/I/O/SUKUN/U, SAMARITAN VOWEL SIGN LONG E/I/U, SAMARITAN
VOWEL SIGN LONG/OVERLONG AA, SAMARITAN VOWEL SIGN LONG/OVERLONG/SHORT A, SANDWICH, SANS-SERIF
HEAVY DOUBLE COMMA QUOTATION MARK ORNAMENT, SANS-SERIF HEAVY DOUBLE TURNED COMMA QUOTATION MARK
ORNAMENT, SANS-SERIF HEAVY LOW DOUBLE COMMA QUOTATION MARK ORNAMENT, SANS-SERIF INTERROBANG
ORNAMENT, SARI, SATELLITE, SATELLITE ANTENNA, SATURN, SAURASHTRA CONSONANT SIGN HAARU,
SAURASHTRA DANDA, SAURASHTRA DIGIT EIGHT/FIVE/FOUR/NINE/ONE/SEVEN/SIX/THREE/TWO/ZERO, SAURASHTRA
DOUBLE DANDA, SAURASHTRA LETTER A/AA/AI/AU/BA/BHA/CA/CHA/DA/DDA/DDHA/DHA/E/EE/GA/GHA/HA/I/II/JA,
SAURASHTRA LETTER JHA/KA/KHA/LA/LLA/MA/NA/NGA/NNA/NYA/O/OO/PA/PHA/RA/SA/SHA/SSA, SAURASHTRA
LETTER TA/THA/TTA/TTHA/U/UU/VA/YA, SAURASHTRA LETTER VOCALIC L/LL/R/RR, SAURASHTRA SIGN
ANUSVARA/CANDRABINDU/VIRAMA/VISARGA, SAURASHTRA VOWEL SIGN AA/AI/AU/E/EE/I/II/O/OO/U/UU,
SAURASHTRA VOWEL SIGN VOCALIC L/LL/R/RR, SAUROPOD, SAXOPHONE, SCALES, SCARF, SCHOOL, SCHOOL
SATCHEL, SCI, SCOOTER, SCORPION, SCORPIUS, SCREEN, SCREWDRIVER, SCRIPT CAPITAL B/F/H/I/M/P/R,
SCRIPT CAPITAL/SMALL E/L, SCRIPT LIGATURE ET ORNAMENT, SCRIPT SMALL G/O, SCROLL, SCRUPLE, SEAL,
SEAT, SECOND PLACE MEDAL, SECTION SIGN, SECTOR, SEDNA, SEE-NO-EVIL MONKEY, SEEDLING, SEGMENT,
SEGMENTED DIGIT EIGHT/FIVE/FOUR/NINE/ONE/SEVEN/SIX/THREE/TWO/ZERO, SELFIE, SEMICOLON, SEMIDIRECT
PRODUCT WITH BOTTOM CLOSED, SEMISEXTILE, SEPARATED SYMBOL, SERIOUS FACE WITH SYMBOLS COVERING
MOUTH, SERVICE MARK, SESAME DOT, SESQUIQUADRATE, SET MINUS, SET TRANSMIT STATE, SEWING NEEDLE,
SEXTILE, SGC, SHADOWED WHITE CIRCLE/STAR, SHADOWED WHITE LATIN CROSS, SHALLOW PAN OF FOOD,
SHAMROCK, SHARADA ABBREVIATION/CONTINUATION SIGN, SHARADA DANDA/EKAM/HEADSTROKE/OM/SEPARATOR,
SHARADA DIGIT EIGHT/FIVE/FOUR/NINE/ONE/SEVEN/SIX/THREE/TWO/ZERO, SHARADA DOUBLE DANDA, SHARADA
EXTRA SHORT VOWEL MARK, SHARADA LETTER
A/AA/AI/AU/BA/BHA/CA/CHA/DA/DDA/DDHA/DHA/E/GA/GHA/HA/I/II/JA, SHARADA LETTER
JHA/KA/KHA/LA/LLA/MA/NA/NGA/NNA/NYA/O/PA/PHA/RA/SA/SHA/SSA/TA, SHARADA LETTER
THA/TTA/TTHA/U/UU/VA/YA, SHARADA LETTER VOCALIC L/LL/R/RR, SHARADA SANDHI/SUTRA MARK, SHARADA
SECTION MARK-1/MARK-2, SHARADA SIGN ANUSVARA/AVAGRAHA/CANDRABINDU/JIHVAMULIYA/NUKTA/SIDDHAM,
SHARADA SIGN INVERTED CANDRABINDU, SHARADA SIGN UPADHMANIYA/VIRAMA/VISARGA, SHARADA VOWEL
MODIFIER MARK, SHARADA VOWEL SIGN AA/AI/AU/E/I/II/O/U/UU, SHARADA VOWEL SIGN PRISHTHAMATRA E,
SHARADA VOWEL SIGN VOCALIC L/LL/R/RR, SHARK, SHAVED ICE, SHAVIAN LETTER
ADO/AGE/AH/AIR/ARE/ARRAY/ASH/AWE/BIB/CHURCH/DEAD/EAR/EAT/EGG, SHAVIAN LETTER
ERR/FEE/GAG/HA-HA/HUNG/IAN/ICE/IF/JUDGE/KICK/LOLL/MEASURE/MIME, SHAVIAN LETTER
NUN/OAK/OIL/ON/OOZE/OR/OUT/PEEP/ROAR/SO/SURE/THEY/THIGH/TOT/UP, SHAVIAN LETTER
VOW/WOE/WOOL/YEA/YEW/ZOO, SHEEP, SHIELD, SHIFT IN/OUT, SHINTO SHRINE, SHIP, SHOCKED FACE WITH
EXPLODING HEAD, SHOOTING STAR, SHOPPING BAGS/TROLLEY, SHORT BACKSLANTED SOUTH ARROW, SHORT BENT
ARROW POINTING DOWNWARDS THEN NORTH EAST, SHORT DOWN TACK WITH OVERBAR, SHORT DOWN/LEFT/UP TACK,
SHORT RIGHTWARDS ARROW ABOVE LEFTWARDS ARROW, SHORT SLANTED NORTH ARROW, SHORT UP TACK ABOVE
SHORT DOWN TACK, SHORT UP TACK WITH UNDERBAR, SHORTCAKE, SHORTHAND FORMAT CONTINUING/LETTER
OVERLAP, SHORTHAND FORMAT DOWN/UP STEP, SHORTS, SHOULDERED OPEN BOX, SHOWER, SHRIMP, SHRUG,
SHUFFLE PRODUCT, SHY, SI, SIDDHAM DANDA, SIDDHAM DOUBLE DANDA, SIDDHAM END OF TEXT MARK, SIDDHAM
LETTER A/AA/AI/AU/BA/BHA/CA/CHA/DA/DDA/DDHA/DHA/E/GA/GHA/HA/I/II/JA, SIDDHAM LETTER ALTERNATE U,
SIDDHAM LETTER JHA/KA/KHA/LA/MA/NA/NGA/NNA/NYA/O/PA/PHA/RA/SA/SHA/SSA/TA/THA, SIDDHAM LETTER
THREE-CIRCLE/TWO-CIRCLE ALTERNATE I, SIDDHAM LETTER TTA/TTHA/U/UU/VA/YA, SIDDHAM LETTER
TWO-CIRCLE ALTERNATE II, SIDDHAM LETTER VOCALIC L/LL/R/RR, SIDDHAM REPETITION
MARK-1/MARK-2/MARK-3, SIDDHAM SECTION MARK DOUBLE RING, SIDDHAM SECTION MARK DOUBLE RING WITH
RAYS, SIDDHAM SECTION MARK WITH CIRCLES AND FOUR/TWO ENCLOSURES, SIDDHAM SECTION MARK WITH
CIRCLES AND RAYS, SIDDHAM SECTION MARK WITH DOUBLE/QUADRUPLE/SEPTUPLE/TRIPLE CRESCENTS, SIDDHAM
SECTION MARK WITH RAYS AND DOTTED DOUBLE/TRIPLE CRESCENTS, SIDDHAM SECTION MARK WITH
RAYS/TRIDENT AND DOTTED CRESCENTS, SIDDHAM SECTION MARK WITH TRIDENT AND U-SHAPED ORNAMENTS,
SIDDHAM SEPARATOR BAR/DOT, SIDDHAM SIGN ANUSVARA/CANDRABINDU/NUKTA/SIDDHAM/VIRAMA/VISARGA,
SIDDHAM VOWEL SIGN AA/AI/AU/E/I/II/O/U/UU, SIDDHAM VOWEL SIGN ALTERNATE U/UU, SIDDHAM VOWEL SIGN
VOCALIC R/RR, SIDEWAYS BLACK/WHITE DOWN/LEFT/RIGHT/UP POINTING INDEX, SIGN OF THE HORNS,
SIGNWRITING AIR BLOW/SUCK SMALL ROTATIONS, SIGNWRITING AIR BLOWING OUT, SIGNWRITING AIR SUCKING
IN, SIGNWRITING BREATH EXHALE/INHALE, SIGNWRITING
BRUSH/GRASP/ROTATION-FLOORPLANE/ROTATION-WALLPLANE/RUB/STRIKE SINGLE, SIGNWRITING
BRUSH/GRASP/RUB/STRIKE/SURFACE/TOUCH BETWEEN, SIGNWRITING BRUSH/GRASP/RUB/STRIKE/TOUCH MULTIPLE,
SIGNWRITING CHEEKS PUFFED/SUCKED, SIGNWRITING CHEEKS/FOREHEAD/NOSE NEUTRAL, SIGNWRITING
COLON/COMMA/EARS/EXCITEMENT/FINGER/HAIR/HAND-ANGLE/HAND-CIRCLE, SIGNWRITING DREAMY EYEBROWS
DOWN/UP NEUTRAL, SIGNWRITING DREAMY EYEBROWS NEUTRAL DOWN/UP, SIGNWRITING DYNAMIC ARROWHEAD
LARGE/SMALL, SIGNWRITING DYNAMIC EVERY OTHER TIME, SIGNWRITING DYNAMIC
FAST/GRADUAL/RELAXED/SIMULTANEOUS/SLOW, SIGNWRITING DYNAMIC SIMULTANEOUS ALTERNATING,
SIGNWRITING DYNAMIC/MOUTH TENSE, SIGNWRITING EYE BLINK MULTIPLE/SINGLE, SIGNWRITING EYE WINK,
SIGNWRITING EYEBROWS STRAIGHT DOWN/NEUTRAL/UP, SIGNWRITING EYEGAZE-FLOORPLANE/EYEGAZE-WALLPLANE
CURVED/STRAIGHT, SIGNWRITING EYEGAZE-FLOORPLANE/EYEGAZE-WALLPLANE STRAIGHT ALTERNATING/DOUBLE,
SIGNWRITING EYEGAZE-WALLPLANE CIRCLING, SIGNWRITING EYELASHES DOWN/FLUTTERING/UP, SIGNWRITING
EYES CLOSED/SQUEEZED, SIGNWRITING EYES HALF CLOSED, SIGNWRITING EYES HALF/WIDE OPEN, SIGNWRITING
EYES WIDENING MOVEMENT, SIGNWRITING EYES/HAND-CUP/HAND-CURLICUE/HAND-HINGE OPEN, SIGNWRITING
FACE DIRECTION POSITION NOSE FORWARD TILTING, SIGNWRITING FACE DIRECTION POSITION NOSE UP OR
DOWN, SIGNWRITING FACE DIRECTION POSITION NOSE UP OR DOWN TILTING, SIGNWRITING FILL/ROTATION
MODIFIER-2/MODIFIER-3/MODIFIER-4/MODIFIER-5/MODIFIER-6, SIGNWRITING FLICK/SQUEEZE LARGE/SMALL
MULTIPLE/SINGLE, SIGNWRITING FLICK/SQUEEZE SEQUENTIAL, SIGNWRITING FLOORPLANE/WALLPLANE SHOULDER
HIP MOVE, SIGNWRITING FOREHEAD WRINKLED, SIGNWRITING FOREHEAD/NOSE CONTACT, SIGNWRITING FULL
STOP, SIGNWRITING HAND-ANGLE INDEX THUMB IN/OUT, SIGNWRITING HAND-ANGLE LITTLE INDEX THUMB INDEX
THUMB, SIGNWRITING HAND-ANGLE LITTLE INDEX THUMB INDEX THUMB OUT, SIGNWRITING HAND-ANGLE MIDDLE
RING LITTLE IN/OUT, SIGNWRITING HAND-ANGLE RING DOWN MIDDLE THUMB INDEX CROSS, SIGNWRITING
HAND-ANGLE/HAND-CIRCLE/HAND-CUP/HAND-FIST/HAND-HINGE INDEX/MIDDLE RING LITTLE, SIGNWRITING
HAND-ANGLE/HAND-CIRCLE/HAND-CUP/HAND-FIST/HAND-HINGE/HAND-OVAL INDEX, SIGNWRITING
HAND-ANGLE/HAND-CIRCLE/HAND-FIST/HAND-HINGE INDEX MIDDLE LITTLE/RING, SIGNWRITING
HAND-ANGLE/HAND-CIRCLE/HAND-FIST/HAND-HINGE LITTLE INDEX, SIGNWRITING
HAND-ANGLE/HAND-CIRCLE/HAND-FIST/HAND-OVAL LITTLE UP, SIGNWRITING
HAND-ANGLE/HAND-CIRCLE/HAND-FIST/HAND-OVAL RING LITTLE, SIGNWRITING
HAND-ANGLE/HAND-CUP/HAND-HINGE INDEX THUMB, SIGNWRITING HAND-ANGLE/HAND-HOOK INDEX RING LITTLE
OUT, SIGNWRITING HAND-CIRCLE INDEX HINGE, SIGNWRITING HAND-CIRCLE MIDDLE RING LITTLE BENT,
SIGNWRITING HAND-CIRCLE/HAND-FIST INDEX BENT/MIDDLE, SIGNWRITING HAND-CIRCLE/HAND-FIST INDEX
MIDDLE CROSS LITTLE, SIGNWRITING HAND-CIRCLE/HAND-FIST INDEX MIDDLE CROSSED/THUMB, SIGNWRITING
HAND-CIRCLE/HAND-FIST MIDDLE UP, SIGNWRITING HAND-CLAW MIDDLE RING LITTLE CONJOINED SIDE,
SIGNWRITING HAND-CLAW/HAND-CUP/HAND-CURLICUE/HAND-FIST/HAND-FLAT/HAND-HINGE, SIGNWRITING
HAND-CLAW/HAND-CUP/HAND-FIST/HAND-FLAT/HAND-OVAL THUMB FORWARD, SIGNWRITING
HAND-CLAW/HAND-CUP/HAND-FLAT/HAND-HINGE/HAND-OVAL THUMB SIDE, SIGNWRITING
HAND-CLAW/HAND-CUP/HAND-HINGE/HAND-OVAL NO THUMB, SIGNWRITING HAND-CLAW/HAND-FIST INDEX THUMB
CURVE THUMB INSIDE, SIGNWRITING HAND-CLAW/HAND-FLAT/HAND-HINGE FOUR FINGERS CONJOINED,
SIGNWRITING HAND-CLAW/HAND-HOOK MIDDLE RING LITTLE CONJOINED, SIGNWRITING
HAND-CUP/HAND-FLAT/HAND-OVAL FIVE FINGERS SPREAD, SIGNWRITING HAND-CUP/HAND-HINGE FIVE FINGERS
SPREAD OPEN, SIGNWRITING HAND-CUP/HAND-HINGE INDEX THUMB OPEN, SIGNWRITING HAND-CUP/HAND-HINGE
OPEN NO THUMB, SIGNWRITING HAND-CUP/HAND-HINGE OPEN THUMB FORWARD/SIDE, SIGNWRITING
HAND-CURLICUE INDEX/MIDDLE RING LITTLE ON, SIGNWRITING HAND-FIST FOUR FINGERS CONJOINED BENT,
SIGNWRITING HAND-FIST INDEX BENT OVER MIDDLE, SIGNWRITING HAND-FIST INDEX CUPPED, SIGNWRITING
HAND-FIST INDEX HINGED LOW, SIGNWRITING HAND-FIST INDEX HINGED MIDDLE UP, SIGNWRITING HAND-FIST
INDEX HINGED MIDDLE UP THUMB SIDE, SIGNWRITING HAND-FIST INDEX MIDDLE BENT THUMB STRAIGHT,
SIGNWRITING HAND-FIST INDEX MIDDLE BENT/HINGED, SIGNWRITING HAND-FIST INDEX MIDDLE CONJOINED
CUPPED THUMB FORWARD, SIGNWRITING HAND-FIST INDEX MIDDLE CONJOINED HINGED THUMB SIDE,
SIGNWRITING HAND-FIST INDEX MIDDLE CONJOINED INDEX/MIDDLE BENT, SIGNWRITING HAND-FIST INDEX
MIDDLE CONJOINED THUMB FORWARD, SIGNWRITING HAND-FIST INDEX MIDDLE CONJOINED THUMB SIDE
BENT/CONJOINED, SIGNWRITING HAND-FIST INDEX MIDDLE CONJOINED/CROSSED THUMB SIDE, SIGNWRITING
HAND-FIST INDEX MIDDLE CONJOINED/THUMB CUPPED/HINGED, SIGNWRITING HAND-FIST INDEX MIDDLE HINGED
SPREAD THUMB SIDE, SIGNWRITING HAND-FIST INDEX MIDDLE RING/THUMB BENT, SIGNWRITING HAND-FIST
INDEX MIDDLE STRAIGHT THUMB BENT, SIGNWRITING HAND-FIST INDEX MIDDLE THUMB ANGLED OUT,
SIGNWRITING HAND-FIST INDEX MIDDLE THUMB ANGLED/CIRCLED/HOOKED, SIGNWRITING HAND-FIST INDEX
MIDDLE THUMB CONJOINED HINGED, SIGNWRITING HAND-FIST INDEX MIDDLE UP SPREAD THUMB FORWARD,
SIGNWRITING HAND-FIST INDEX THUMB ANGLED IN/OUT MIDDLE UP, SIGNWRITING HAND-FIST INDEX THUMB
CIRCLE/CURLICUE/HOOK, SIGNWRITING HAND-FIST INDEX THUMB CIRCLED/CUPPED/HOOKED MIDDLE UP,
SIGNWRITING HAND-FIST INDEX THUMB CURVE THUMB UNDER, SIGNWRITING HAND-FIST INDEX THUMB FORWARD
INDEX STRAIGHT, SIGNWRITING HAND-FIST INDEX THUMB FORWARD/SIDE INDEX BENT, SIGNWRITING HAND-FIST
INDEX THUMB HOOKED MIDDLE HINGED, SIGNWRITING HAND-FIST INDEX THUMB SIDE BOTH/THUMB BENT,
SIGNWRITING HAND-FIST INDEX THUMB SIDE INDEX HINGE, SIGNWRITING HAND-FIST INDEX THUMB SIDE THUMB
CONJOINED/DIAGONAL, SIGNWRITING HAND-FIST INDEX UP MIDDLE HINGED, SIGNWRITING HAND-FIST INDEX UP
MIDDLE HINGED THUMB CONJOINED/SIDE, SIGNWRITING HAND-FIST INDEX/LITTLE/MIDDLE/RING RAISED
KNUCKLE, SIGNWRITING HAND-FIST INDEX/RING MIDDLE CONJOINED, SIGNWRITING HAND-FIST INDEX/RING
MIDDLE RAISED KNUCKLES, SIGNWRITING HAND-FIST LITTLE BENT, SIGNWRITING HAND-FIST LITTLE DOWN
OTHERS CIRCLED, SIGNWRITING HAND-FIST LITTLE DOWN RIPPLE CURVED/STRAIGHT, SIGNWRITING HAND-FIST
LITTLE TOUCHES THUMB, SIGNWRITING HAND-FIST LITTLE/MIDDLE/RING DOWN, SIGNWRITING HAND-FIST
MIDDLE BENT OVER INDEX, SIGNWRITING HAND-FIST MIDDLE LITTLE, SIGNWRITING HAND-FIST MIDDLE THUMB
ANGLED OUT INDEX CROSSED/UP, SIGNWRITING HAND-FIST MIDDLE THUMB ANGLED/CIRCLED/CUPPED/HOOKED
INDEX UP, SIGNWRITING HAND-FIST MIDDLE THUMB CIRCLED INDEX HINGED, SIGNWRITING HAND-FIST MIDDLE
THUMB LITTLE, SIGNWRITING HAND-FIST MIDDLE UP THUMB SIDE, SIGNWRITING HAND-FIST RING
INDEX/MIDDLE/UP, SIGNWRITING HAND-FIST THUMB, SIGNWRITING HAND-FIST THUMB BETWEEN INDEX MIDDLE,
SIGNWRITING HAND-FIST THUMB BETWEEN INDEX MIDDLE STRAIGHT, SIGNWRITING HAND-FIST THUMB BETWEEN
RING LITTLE, SIGNWRITING HAND-FIST THUMB HEEL, SIGNWRITING HAND-FIST THUMB OVER FOUR RAISED
KNUCKLES, SIGNWRITING HAND-FIST THUMB OVER/UNDER TWO FINGERS, SIGNWRITING HAND-FIST THUMB SIDE
BENT/CONJOINED/DIAGONAL, SIGNWRITING HAND-FIST THUMB UNDER FOUR/THREE FINGERS, SIGNWRITING
HAND-FIST THUMB UNDER INDEX BENT, SIGNWRITING HAND-FIST THUMB UNDER LITTLE UP, SIGNWRITING
HAND-FIST/HAND-FLAT HEEL, SIGNWRITING HAND-FIST/HAND-HINGE INDEX HINGED, SIGNWRITING
HAND-FIST/HAND-HINGE INDEX MIDDLE RING CONJOINED, SIGNWRITING HAND-FIST/HAND-HINGE INDEX THUMB
SIDE, SIGNWRITING HAND-FIST/HAND-HINGE LITTLE INDEX THUMB, SIGNWRITING HAND-FIST/HAND-HINGE
LITTLE THUMB, SIGNWRITING HAND-FIST/HAND-HINGE THUMB BETWEEN MIDDLE RING, SIGNWRITING
HAND-FIST/HAND-HOOK RING THUMB, SIGNWRITING HAND-FLAT BETWEEN PALM FACINGS, SIGNWRITING
HAND-FLAT FIVE FINGERS SPREAD BENT/HINGED, SIGNWRITING HAND-FLAT FIVE FINGERS SPREAD FOUR BENT,
SIGNWRITING HAND-FLAT FIVE FINGERS SPREAD HINGED NO THUMB, SIGNWRITING HAND-FLAT FIVE FINGERS
SPREAD HINGED THUMB SIDE, SIGNWRITING HAND-FLAT FIVE FINGERS SPREAD THUMB FORWARD, SIGNWRITING
HAND-FLAT FOUR FINGERS, SIGNWRITING HAND-FLAT FOUR FINGERS BENT/HINGED, SIGNWRITING HAND-FLAT
FOUR FINGERS CONJOINED SPLIT, SIGNWRITING HAND-FLAT HEEL FIVE FINGERS SPREAD, SIGNWRITING
HAND-FLAT HEEL FIVE FINGERS SPREAD BENT, SIGNWRITING HAND-FLAT HEEL FIVE FINGERS SPREAD FOUR
BENT, SIGNWRITING HAND-FLAT HEEL THUMB SIDE, SIGNWRITING HAND-FLAT SPLIT CENTRE THUMB SIDE BENT,
SIGNWRITING HAND-FLAT SPLIT CENTRE/INDEX THUMB SIDE, SIGNWRITING HAND-FLAT SPLIT CENTRE/LITTLE,
SIGNWRITING HAND-FLAT THUMB BENT, SIGNWRITING HAND-HINGE INDEX THUMB LARGE/SMALL, SIGNWRITING
HAND-HINGE LITTLE/MIDDLE/RING/SMALL, SIGNWRITING HAND-HINGE RING DOWN INDEX THUMB HOOK MIDDLE,
SIGNWRITING HAND-HINGE THUMB SIDE TOUCHING INDEX, SIGNWRITING HAND-HOOK CURLICUE, SIGNWRITING
HAND-HOOK INDEX RING LITTLE IN/UNDER, SIGNWRITING HAND-HOOK MIDDLE RING LITTLE CONJOINED IN/OUT,
SIGNWRITING HAND-HOOK MIDDLE THUMB, SIGNWRITING
HAND-HOOK/HAND-OVAL/HEAD/NECK/PARENTHESIS/SEMICOLON/TEETH, SIGNWRITING HEAD MOVEMENT CIRCLE,
SIGNWRITING HEAD MOVEMENT-FLOORPLANE/MOVEMENT-WALLPLANE CURVE/STRAIGHT, SIGNWRITING HEAD
MOVEMENT-WALLPLANE TILT, SIGNWRITING HEAD RIM, SIGNWRITING LIMB
COMBINATION/LENGTH-1/LENGTH-2/LENGTH-3/LENGTH-4/LENGTH-5, SIGNWRITING LIMB LENGTH-6/LENGTH-7,
SIGNWRITING LIP LOWER OVER UPPER, SIGNWRITING LIP UPPER OVER LOWER, SIGNWRITING LIPS PRESSED
TOGETHER, SIGNWRITING LOCATION DEPTH/HEIGHT/TORSO/WIDTH, SIGNWRITING LOCATION HEAD NECK,
SIGNWRITING LOCATION LIMBS DIGITS, SIGNWRITING LOCATION-FLOORPLANE/LOCATION-WALLPLANE SPACE,
SIGNWRITING MOUTH CLOSED CONTACT/NEUTRAL, SIGNWRITING MOUTH CLOSED/KISS/OPEN/TENSE FORWARD,
SIGNWRITING MOUTH CORNERS/FROWN/KISS/SMILE, SIGNWRITING MOUTH FROWN/KISS/OPEN/SMILE WRINKLED,
SIGNWRITING MOUTH FROWN/SMILE OPEN, SIGNWRITING MOUTH OPEN CIRCLE/OVAL/RECTANGLE, SIGNWRITING
MOUTH OPEN OVAL/RECTANGLE WRINKLED/YAWN, SIGNWRITING MOUTH TENSE SUCKED, SIGNWRITING MOUTH
WRINKLES DOUBLE/SINGLE, SIGNWRITING MOVEMENT-DIAGONAL AWAY/TOWARDS LARGE/LARGEST/MEDIUM/SMALL,
SIGNWRITING MOVEMENT-DIAGONAL BETWEEN AWAY/TOWARDS LARGE/LARGEST/MEDIUM/SMALL, SIGNWRITING
MOVEMENT-FLOORPLANE ARM CIRCLE HITTING WALL LARGE/MEDIUM/SMALL DOUBLE/SINGLE, SIGNWRITING
MOVEMENT-FLOORPLANE BEND/CHECK, SIGNWRITING MOVEMENT-FLOORPLANE CURVE COMBINED/LARGEST/MEDIUM,
SIGNWRITING MOVEMENT-FLOORPLANE CURVE/WAVE HITTING CEILING/FLOOR LARGE/SMALL, SIGNWRITING
MOVEMENT-FLOORPLANE CURVE/WAVE LARGE/SMALL, SIGNWRITING MOVEMENT-FLOORPLANE FINGER CIRCLES
HITTING WALL DOUBLE/SINGLE, SIGNWRITING MOVEMENT-FLOORPLANE HUMP HITTING CEILING LARGE/SMALL
TRIPLE, SIGNWRITING MOVEMENT-FLOORPLANE HUMP HITTING FLOOR TRIPLE LARGE/SMALL TRIPLE,
SIGNWRITING MOVEMENT-FLOORPLANE HUMP/LOOP HITTING CEILING/FLOOR LARGE/SMALL DOUBLE, SIGNWRITING
MOVEMENT-FLOORPLANE LOOP HITTING CEILING/FLOOR LARGE/SMALL SINGLE, SIGNWRITING
MOVEMENT-FLOORPLANE SHAKING PARALLEL, SIGNWRITING MOVEMENT-FLOORPLANE TRIPLE ALTERNATING
MOVEMENT, SIGNWRITING MOVEMENT-FLOORPLANE WAVE SNAKE, SIGNWRITING MOVEMENT-FLOORPLANE WRIST
CIRCLE HITTING WALL DOUBLE/SINGLE, SIGNWRITING MOVEMENT-FLOORPLANE/MOVEMENT-WALLPLANE
BOX/CORNER/HUMP/LOOP/PEAKS/ZIGZAG SMALL, SIGNWRITING MOVEMENT-FLOORPLANE/MOVEMENT-WALLPLANE
BOX/CORNER/PEAKS/ZIGZAG LARGE/MEDIUM, SIGNWRITING MOVEMENT-FLOORPLANE/MOVEMENT-WALLPLANE
CROSS/JAW, SIGNWRITING MOVEMENT-FLOORPLANE/MOVEMENT-WALLPLANE DOUBLE ALTERNATING/STRAIGHT,
SIGNWRITING MOVEMENT-FLOORPLANE/MOVEMENT-WALLPLANE DOUBLE/SINGLE/TRIPLE WRIST FLEX, SIGNWRITING
MOVEMENT-FLOORPLANE/MOVEMENT-WALLPLANE DOUBLE/TRIPLE ALTERNATING WRIST FLEX, SIGNWRITING
MOVEMENT-FLOORPLANE/MOVEMENT-WALLPLANE FINGER CONTACT, SIGNWRITING
MOVEMENT-FLOORPLANE/MOVEMENT-WALLPLANE SINGLE STRAIGHT LARGE/LARGEST/MEDIUM/SMALL, SIGNWRITING
MOVEMENT-FLOORPLANE/MOVEMENT-WALLPLANE TRIPLE STRAIGHT MOVEMENT, SIGNWRITING MOVEMENT-HINGE
DOWN/UP SEQUENTIAL, SIGNWRITING MOVEMENT-HINGE SIDE TO SIDE SCISSORS, SIGNWRITING MOVEMENT-HINGE
UP DOWN ALTERNATING LARGE/SMALL, SIGNWRITING MOVEMENT-HINGE UP DOWN LARGE/SMALL, SIGNWRITING
MOVEMENT-WALLPLANE ARM CIRCLE MEDIUM/SMALL DOUBLE/SINGLE, SIGNWRITING MOVEMENT-WALLPLANE
BEND/CHECK SMALL, SIGNWRITING MOVEMENT-WALLPLANE BEND/CHECK/HUMP/LOOP LARGE/MEDIUM, SIGNWRITING
MOVEMENT-WALLPLANE CORNER ROTATION, SIGNWRITING MOVEMENT-WALLPLANE CURVE HALF-CIRCLE/QUARTER
LARGE/LARGEST/MEDIUM/SMALL, SIGNWRITING MOVEMENT-WALLPLANE CURVE THEN STRAIGHT, SIGNWRITING
MOVEMENT-WALLPLANE CURVE THREE-QUARTER CIRCLE MEDIUM/SMALL, SIGNWRITING MOVEMENT-WALLPLANE
CURVE/HUMP/LOOP/WAVE HITTING CHEST, SIGNWRITING MOVEMENT-WALLPLANE CURVE/HUMP/LOOP/WAVE HITTING
FRONT WALL, SIGNWRITING MOVEMENT-WALLPLANE CURVED CROSS MEDIUM/SMALL, SIGNWRITING
MOVEMENT-WALLPLANE FINGER CIRCLES DOUBLE/SINGLE, SIGNWRITING MOVEMENT-WALLPLANE LOOP SMALL
DOUBLE, SIGNWRITING MOVEMENT-WALLPLANE TRIPLE ALTERNATING, SIGNWRITING MOVEMENT-WALLPLANE WAVE
CURVE DOUBLE/TRIPLE LARGE/MEDIUM/SMALL, SIGNWRITING MOVEMENT-WALLPLANE WAVE DIAGONAL PATH
LARGE/MEDIUM/SMALL, SIGNWRITING MOVEMENT-WALLPLANE WRIST CIRCLE FRONT DOUBLE/SINGLE, SIGNWRITING
MOVEMENT-WALLPLANE/TRAVEL-FLOORPLANE/TRAVEL-WALLPLANE SHAKING, SIGNWRITING NOSE
WIGGLES/WRINKLES, SIGNWRITING ROTATION
MODIFIER-10/MODIFIER-11/MODIFIER-12/MODIFIER-13/MODIFIER-14, SIGNWRITING ROTATION
MODIFIER-15/MODIFIER-16/MODIFIER-7/MODIFIER-8/MODIFIER-9, SIGNWRITING ROTATION-FLOORPLANE
ALTERNATING, SIGNWRITING ROTATION-FLOORPLANE ALTERNATING/DOUBLE/SINGLE HITTING CEILING/FLOOR,
SIGNWRITING ROTATION-FLOORPLANE/ROTATION-WALLPLANE DOUBLE, SIGNWRITING ROTATION-WALLPLANE
ALTERNATE, SIGNWRITING ROTATION-WALLPLANE ALTERNATING/DOUBLE/SINGLE HITTING CHEST, SIGNWRITING
ROTATION-WALLPLANE ALTERNATING/DOUBLE/SINGLE HITTING FRONT WALL, SIGNWRITING SHOULDER HIP
POSITIONS/SPINE, SIGNWRITING SHOULDER TILTING FROM WAIST, SIGNWRITING SQUEEZE FLICK ALTERNATING,
SIGNWRITING SURFACE SYMBOLS, SIGNWRITING TEETH BITE/ON LIPS, SIGNWRITING TEETH MOVEMENT,
SIGNWRITING TEETH ON LIPS/TONGUE MOVEMENT, SIGNWRITING TEETH ON TONGUE, SIGNWRITING TENSE CHEEKS
HIGH/LOW/MIDDLE, SIGNWRITING TONGUE CENTRE INSIDE MOUTH, SIGNWRITING TONGUE CENTRE STICKING OUT,
SIGNWRITING TONGUE INSIDE MOUTH RELAXED, SIGNWRITING TONGUE LICKING LIPS, SIGNWRITING TONGUE
MOVES AGAINST CHEEK, SIGNWRITING TONGUE STICKING OUT FAR, SIGNWRITING TONGUE TIP BETWEEN LIPS,
SIGNWRITING TONGUE TIP TOUCHING INSIDE MOUTH, SIGNWRITING TORSO-FLOORPLANE TWISTING, SIGNWRITING
TORSO-WALLPLANE CURVED BEND, SIGNWRITING TORSO-WALLPLANE STRAIGHT STRETCH, SIGNWRITING TOUCH
SINGLE, SIGNWRITING TRAVEL-FLOORPLANE/TRAVEL-WALLPLANE ROTATION-FLOORPLANE/ROTATION-WALLPLANE
ALTERNATING/DOUBLE/SINGLE, SIGNWRITING TRAVEL-WALLPLANE ARM SPIRAL DOUBLE/SINGLE/TRIPLE,
SIGNWRITING UPPER BODY TILTING FROM HIP JOINTS, SILHOUETTE OF JAPAN, SIMILAR ABOVE
GREATER-THAN/LESS-THAN ABOVE EQUALS SIGN, SIMILAR MINUS SIMILAR, SIMILAR OR
GREATER-THAN/LESS-THAN, SINE WAVE, SINGLE CHARACTER INTRODUCER, SINGLE GRAPHIC CHARACTER
INTRODUCER, SINGLE HIGH-REVERSED-9/LOW-9 QUOTATION MARK, SINGLE LEFT-POINTING/RIGHT-POINTING
ANGLE QUOTATION MARK, SINGLE SHIFT THREE/TWO, SINGLE-SHIFT-2, SINGLE-SHIFT-3, SINHALA ARCHAIC
NUMBER EIGHTY/FIFTY/FORTY/NINETY/SEVENTY/SIXTY/TEN/THIRTY/TWENTY, SINHALA ARCHAIC NUMBER ONE
HUNDRED/THOUSAND, SINHALA ARCHAIC/LITH DIGIT EIGHT/FIVE/FOUR/NINE/ONE/SEVEN/SIX/THREE/TWO,
SINHALA LETTER AAYANNA/AEEYANNA/AEYANNA/AIYANNA/AUYANNA/AYANNA/EEYANNA/EYANNA, SINHALA LETTER
ALPAPRAANA/AMBA/MAHAAPRAANA BAYANNA, SINHALA LETTER ALPAPRAANA/MAHAAPRAANA
CAYANNA/KAYANNA/PAYANNA/TAYANNA/TTAYANNA, SINHALA LETTER ALPAPRAANA/MAHAAPRAANA/SANYAKA
DAYANNA/DDAYANNA/GAYANNA/JAYANNA, SINHALA LETTER DANTAJA/MUURDHAJA LAYANNA/NAYANNA, SINHALA
LETTER DANTAJA/MUURDHAJA/TAALUJA SAYANNA, SINHALA LETTER
FAYANNA/HAYANNA/IIYANNA/ILUUYANNA/ILUYANNA/IRUUYANNA/IRUYANNA, SINHALA LETTER
IYANNA/MAYANNA/OOYANNA/OYANNA/RAYANNA/UUYANNA/UYANNA/VAYANNA, SINHALA LETTER KANTAJA/TAALUJA
NAASIKYAYA, SINHALA LETTER TAALUJA SANYOOGA NAAKSIKYAYA, SINHALA LETTER YAYANNA, SINHALA LITH
DIGIT ZERO, SINHALA PUNCTUATION KUNDDALIYA, SINHALA SIGN
AL-LAKUNA/ANUSVARAYA/CANDRABINDU/VISARGAYA, SINHALA VOWEL SIGN
AELA-PILLA/GAETTA-PILLA/GAYANUKITTA/KOMBUVA, SINHALA VOWEL SIGN DIGA
GAETTA-PILLA/GAYANUKITTA/KOMBUVA, SINHALA VOWEL SIGN DIGA/KETTI AEDA-PILLA/IS-PILLA/PAA-PILLA,
SINHALA VOWEL SIGN KOMBU DEKA, SINHALA VOWEL SIGN KOMBUVA HAA AELA-PILLA/GAYANUKITTA, SINHALA
VOWEL SIGN KOMBUVA HAA DIGA AELA-PILLA, SIX PETALLED BLACK AND WHITE FLORETTE, SIX POINTED
BLACK/PINWHEEL STAR, SIX POINTED STAR WITH MIDDLE DOT, SIX-PER-EM SPACE, SIXTEEN POINTED
ASTERISK, SKATEBOARD, SKI AND SKI BOOT, SKIER, SKULL, SKULL AND CROSSBONES, SKUNK, SLANTED EQUAL
TO OR GREATER-THAN/LESS-THAN, SLANTED EQUAL TO OR GREATER-THAN/LESS-THAN WITH DOT INSIDE,
SLANTED NORTH ARROW WITH HOOKED HEAD, SLANTED NORTH ARROW WITH HORIZONTAL TAIL, SLAVONIC
ASTERISK, SLED, SLEEPING ACCOMMODATION/FACE/SYMBOL, SLEEPY FACE, SLEUTH OR SPY, SLICE OF PIZZA,
SLIGHTLY FROWNING/SMILING FACE, SLOPE, SLOPING LARGE AND/OR, SLOT MACHINE, SLOTH, SMALL
AIRPLANE/AMPERSAND/ASTERISK/COLON/COMMA/HYPHEN-MINUS/SEMICOLON, SMALL BLUE/ORANGE DIAMOND, SMALL
COMMERCIAL AT, SMALL CONTAINS AS MEMBER, SMALL CONTAINS WITH OVERBAR, SMALL CONTAINS WITH
VERTICAL BAR AT END OF HORIZONTAL STROKE, SMALL
DOLLAR/EQUALS/GREATER-THAN/LESS-THAN/NUMBER/PERCENT/PLUS SIGN, SMALL ELEMENT OF, SMALL ELEMENT
OF WITH OVERBAR, SMALL ELEMENT OF WITH VERTICAL BAR AT END OF HORIZONTAL STROKE, SMALL EM DASH,
SMALL EXCLAMATION/QUESTION MARK, SMALL FULL STOP, SMALL IDEOGRAPHIC COMMA, SMALL LEFT/RIGHT
CURLY BRACKET, SMALL LEFT/RIGHT PARENTHESIS, SMALL LEFT/RIGHT TORTOISE SHELL BRACKET, SMALL
REVERSE SOLIDUS, SMALL ROMAN NUMERAL EIGHT/ELEVEN/FIFTY/FIVE/FOUR/NINE/ONE/SEVEN/SIX/TEN/THREE,
SMALL ROMAN NUMERAL FIVE/ONE HUNDRED, SMALL ROMAN NUMERAL ONE THOUSAND, SMALL ROMAN NUMERAL
TWELVE/TWO, SMALL TILDE, SMALL TWO DOTS OVER ONE DOT PUNCTUATION, SMALL VEE WITH UNDERBAR,
SMALLER THAN, SMALLER THAN OR EQUAL TO, SMASH PRODUCT, SMILE, SMILING CAT FACE WITH HEART-SHAPED
EYES, SMILING CAT FACE WITH OPEN MOUTH, SMILING FACE WITH HALO/HORNS/SUNGLASSES/TEAR, SMILING
FACE WITH HEART-SHAPED/SMILING EYES, SMILING FACE WITH OPEN MOUTH, SMILING FACE WITH OPEN MOUTH
AND COLD SWEAT, SMILING FACE WITH OPEN MOUTH AND SMILING/TIGHTLY-CLOSED EYES, SMILING FACE WITH
SMILING EYES AND HAND COVERING MOUTH, SMILING FACE WITH SMILING EYES AND THREE HEARTS, SMIRKING
FACE, SMOKING SYMBOL, SNAIL, SNAKE, SNEEZING FACE, SNOW CAPPED MOUNTAIN, SNOWBOARDER, SNOWFLAKE,
SNOWMAN, SNOWMAN WITHOUT SNOW, SO, SOCCER BALL, SOCKS, SOFT HYPHEN, SOFT ICE CREAM, SOFT SHELL
FLOPPY DISK, SOFTBALL, SOFTWARE-FUNCTION SYMBOL, SOGDIAN COMBINING CURVE/DOT/HOOK ABOVE, SOGDIAN
COMBINING CURVE/DOT/HOOK/RESH/STROKE BELOW, SOGDIAN COMBINING LONG HOOK BELOW, SOGDIAN COMBINING
TWO DOTS ABOVE/BELOW, SOGDIAN INDEPENDENT/LETTER SHIN, SOGDIAN LETTER
ALEPH/AYIN/BETH/FETH/GIMEL/HE/HETH/KAPH/LAMEDH/LESH/MEM/NUN/PE, SOGDIAN LETTER
RESH-AYIN/SADHE/SAMEKH/TAW/WAW/YODH/ZAYIN, SOGDIAN NUMBER ONE HUNDRED, SOGDIAN NUMBER
ONE/TEN/TWENTY, SOGDIAN PUNCTUATION CIRCLE WITH DOT, SOGDIAN PUNCTUATION HALF CIRCLE WITH DOT,
SOGDIAN PUNCTUATION TWO CIRCLES WITH DOTS, SOGDIAN PUNCTUATION TWO VERTICAL BARS, SOGDIAN
PUNCTUATION TWO VERTICAL BARS WITH DOTS, SOH, SOLID QUILT SQUARE ORNAMENT, SOLID QUILT SQUARE
ORNAMENT IN BLACK SQUARE, SOLIDUS, SOLIDUS WITH OVERBAR, SOM SIGN, SOON WITH RIGHTWARDS ARROW
ABOVE, SORA SOMPENG DIGIT EIGHT/FIVE/FOUR/NINE/ONE/SEVEN/SIX/THREE/TWO/ZERO, SORA SOMPENG LETTER
AH/BAH/CAH/DAH/EEH/EH/GAH/HAH/IH/JAH/KAH/LAH/MAE/MAH/NAH/NGAH, SORA SOMPENG LETTER
NYAH/OH/PAH/RAH/SAH/TAH/UH/VAH/YAH, SOS, SOUND RECORDING COPYRIGHT, SOUTH EAST ARROW AND SOUTH
WEST ARROW, SOUTH EAST ARROW CROSSING NORTH EAST ARROW, SOUTH EAST ARROW TO CORNER, SOUTH
EAST/WEST ARROW, SOUTH EAST/WEST ARROW WITH HOOK, SOUTH EAST/WEST
BLACK/DOUBLE/SANS-SERIF/TRIANGLE-HEADED/WHITE ARROW, SOUTH EAST/WEST POINTING BUD/LEAF, SOUTH
EAST/WEST POINTING VINE LEAF, SOUTH EAST/WEST TRIANGLE-HEADED ARROW TO BAR, SOUTH WEST ARROW AND
NORTH WEST ARROW, SOYOMBO CLUSTER-INITIAL LETTER LA/RA/SA/SHA, SOYOMBO FINAL CONSONANT SIGN
-A/B/D/G/K/L/M/N/NG/R/S/SH, SOYOMBO GEMINATION MARK, SOYOMBO HEAD MARK WITH MOON AND SUN,
SOYOMBO HEAD MARK WITH MOON AND SUN AND FLAME, SOYOMBO HEAD MARK WITH MOON AND SUN AND TRIPLE
FLAME, SOYOMBO LETTER -A/A/BA/BHA/CA/CHA/DA/DDA/DDHA/DHA/DZA/GA/GHA/HA/JA/JHA/KA/KHA, SOYOMBO
LETTER KSSA/LA/MA/NA/NGA/NNA/NYA/PA/PHA/RA/SA/SHA/SSA/TA/THA/TSA/TSHA, SOYOMBO LETTER
TTA/TTHA/VA/YA/ZA/ZHA, SOYOMBO MARK DOUBLE SHAD, SOYOMBO MARK PLUTA/SHAD/TSHEG, SOYOMBO SIGN
ANUSVARA/JIHVAMULIYA/UPADHMANIYA/VISARGA, SOYOMBO SUBJOINER, SOYOMBO TERMINAL MARK-1/MARK-2,
SOYOMBO VOWEL LENGTH MARK, SOYOMBO VOWEL SIGN AI/AU/E/I/O/OE/U/UE, SOYOMBO VOWEL SIGN VOCALIC
L/R, SP, SPA, SPACE, SPAGHETTI, SPARKLE, SPARKLES, SPARKLING HEART, SPEAK-NO-EVIL MONKEY,
SPEAKER, SPEAKER WITH CANCELLATION STROKE, SPEAKER WITH ONE SOUND WAVE, SPEAKER WITH THREE SOUND
WAVES, SPEAKING HEAD IN SILHOUETTE, SPEECH BALLOON, SPEEDBOAT, SPESMILO SIGN, SPHERICAL ANGLE,
SPHERICAL ANGLE OPENING LEFT/UP, SPIDER, SPIDER WEB, SPIRAL CALENDAR/NOTE PAD, SPIRAL SHELL,
SPLASHING SWEAT SYMBOL, SPONGE, SPOOL OF THREAD, SPOON, SPORTS MEDAL, SPOUTING WHALE, SQUARE A/V
OVER M, SQUARE AARU/AM/ANPEA/APAATO/ARUHUA/AU/BAARERU/BAR/BEETA/BIRU/BORUTO/BQ, SQUARE
BUSSYERU/CAL/CAP/CC/CD/CM/CO/CORPORATION/CUP/DA/DAASU/DB/DESI, SQUARE C OVER KG, SQUARE
CM/DM/KM/M/MM CUBED/SQUARED, SQUARE
DJ/DL/DM/DORU/EEKAA/ERG/ESUKUUDO/EV/FM/FOOT/GAL/GANMA/GARON/GB, SQUARE ERA NAME
HEISEI/MEIZI/REIWA/SYOUWA/TAISYOU, SQUARE FOUR CORNERS, SQUARE
GHZ/GIGA/GINII/GIRUDAA/GPA/GURAMU/GURAMUTON/GY/HA/HAITU, SQUARE
HEKUTAARU/HERUTU/HG/HON/HOON/HOORU/HP/HPA/HUARADDO/HUIITO/HURAN, SQUARE HIRAGANA HOKA, SQUARE
HZ/IN/ININGU/INTI/IU/KA/KAIRI/KARATTO/KARORII/KB/KCAL/KEESU/KG, SQUARE IMAGE/ORIGINAL OF, SQUARE
IMAGE/ORIGINAL OF OR EQUAL TO, SQUARE IMAGE/ORIGINAL OF OR NOT EQUAL TO, SQUARE K/M OHM, SQUARE
KHZ/KIRO/KIROGURAMU/KIROMEETORU/KIROWATTO/KK/KL/KM/KOOPO/KORUNA, SQUARE KM CAPITAL, SQUARE
KPA/KT/KUROONE/KURUZEIRO/KV/KW/KYURII/LM/LN/LOG/LOZENGE/LX/MA, SQUARE LEFT/RIGHT OPEN BOX
OPERATOR, SQUARE M/RAD OVER S, SQUARE M/RAD OVER S SQUARED, SQUARE
MAHHA/MAIKURO/MAIRU/MANSYON/MARUKU/MB/MEETORU/MEGA/MEGATON/MG, SQUARE MB SMALL, SQUARE
MHZ/MIKURON/MIL/MIRI/MIRIBAARU/ML/MM/MOL/MPA/MS/MV/MW/NA/NANO, SQUARE MU A/F/G/L/M/S/V/W, SQUARE
MV/MW MEGA, SQUARE NF/NM/NOTTO/NS/NV/NW/ONSU/OOMU/OV/PA/PAASENTO/PAATU/PC/PEEZI, SQUARE PA AMPS,
SQUARE PENIHI/PENSU/PESO/PF/PH/PIASUTORU/PIKO/PIKURU/PM/POINTO/PONDO, SQUARE POSITION INDICATOR,
SQUARE PPM/PR/PS/PV/PW/RAD/REMU/RENTOGEN/RIRA/RITTORU/ROOT/RUPII, SQUARE
RUUBURU/SAIKURU/SANTIIMU/SENTI/SENTO/SIRINGU/SR/SV/TARGET/THZ, SQUARE
TON/UON/WATTO/WB/YAADO/YAARU/YUAN, SQUARE WITH BOTTOM/LEFT/RIGHT/TOP HALF BLACK, SQUARE WITH
CONTOURED OUTLINE, SQUARE WITH DIAGONAL/ORTHOGONAL CROSSHATCH FILL, SQUARE WITH
HORIZONTAL/VERTICAL FILL, SQUARE WITH LOWER/UPPER LEFT/RIGHT DIAGONAL HALF BLACK, SQUARE WITH
UPPER LEFT TO LOWER RIGHT FILL, SQUARE WITH UPPER RIGHT TO LOWER LEFT FILL, SQUARED
ASTERISK/CL/COOL/FREE/HC/HDR/HI-RES/HV/ID/KEY/LOSSLESS/MINUS/MV, SQUARED CJK UNIFIED
IDEOGRAPH-4E00/IDEOGRAPH-4E09/IDEOGRAPH-4E2D/IDEOGRAPH-4E8C, SQUARED CJK UNIFIED
IDEOGRAPH-4EA4/IDEOGRAPH-518D/IDEOGRAPH-521D/IDEOGRAPH-524D, SQUARED CJK UNIFIED
IDEOGRAPH-5272/IDEOGRAPH-53CC/IDEOGRAPH-53F3/IDEOGRAPH-5408, SQUARED CJK UNIFIED
IDEOGRAPH-5439/IDEOGRAPH-55B6/IDEOGRAPH-58F0/IDEOGRAPH-591A, SQUARED CJK UNIFIED
IDEOGRAPH-5929/IDEOGRAPH-5B57/IDEOGRAPH-5DE6/IDEOGRAPH-5F8C, SQUARED CJK UNIFIED
IDEOGRAPH-624B/IDEOGRAPH-6253/IDEOGRAPH-6295/IDEOGRAPH-6307, SQUARED CJK UNIFIED
IDEOGRAPH-6355/IDEOGRAPH-6599/IDEOGRAPH-65B0/IDEOGRAPH-6620, SQUARED CJK UNIFIED
IDEOGRAPH-6708/IDEOGRAPH-6709/IDEOGRAPH-6E80/IDEOGRAPH-6F14, SQUARED CJK UNIFIED
IDEOGRAPH-7121/IDEOGRAPH-751F/IDEOGRAPH-7533/IDEOGRAPH-7981, SQUARED CJK UNIFIED
IDEOGRAPH-7A7A/IDEOGRAPH-7D42/IDEOGRAPH-89E3/IDEOGRAPH-8CA9, SQUARED CJK UNIFIED
IDEOGRAPH-8D70/IDEOGRAPH-904A/IDEOGRAPH-914D, SQUARED DOT OPERATOR, SQUARED EIGHT/FOUR/TWO K,
SQUARED FALLING/RISING DIAGONAL SLASH, SQUARED FIVE/SEVEN POINT ONE, SQUARED FOUR DOT
PUNCTUATION, SQUARED KATAKANA DE/KOKO/SA, SQUARED LATIN CAPITAL LETTER
A/B/C/E/F/G/H/I/J/K/L/M/N/O/P/Q/R/S/T/U/V/W/X/Y/Z, SQUARED LATIN CAPITAL/SMALL LETTER D, SQUARED
LOGICAL AND/OR, SQUARED NEW/NG/OK/PLUS/PPV/SALTIRE/SD/SHV/SOS/SQUARE/SS/TIMES/UHD/VOD, SQUARED
ONE HUNDRED TWENTY P, SQUARED SECOND SCREEN, SQUARED SIXTY P, SQUARED SMALL CIRCLE, SQUARED
THREE D, SQUARED TWENTY-TWO POINT TWO, SQUARED UP WITH EXCLAMATION MARK, SQUARED VS/WC, SQUAT
BLACK RIGHTWARDS ARROW, SQUID, SS2, SS3, SSA, ST, STADIUM, STAFF OF AESCULAPIUS/HERMES, STAMPED
ENVELOPE, STANDING PERSON, STAR AND CRESCENT, STAR EQUALS/OPERATOR, STAR OF DAVID, STAR WITH
LEFT/RIGHT HALF BLACK, START OF GUARDED/PROTECTED/SELECTED AREA, START OF HEADING/STRING/TEXT,
STATION, STATUE OF LIBERTY, STEAM LOCOMOTIVE, STEAMING BOWL, STENOGRAPHIC FULL STOP,
STETHOSCOPE, STICK FIGURE, STICK FIGURE LEANING LEFT/RIGHT, STICK FIGURE WITH ARMS RAISED, STICK
FIGURE WITH DRESS, STOCK CHART, STOPWATCH, STRAIGHT RULER, STRAIGHTNESS, STRAWBERRY, STRESS
OUTLINED WHITE STAR, STRICTLY EQUIVALENT TO, STRING TERMINATOR, STS, STUDIO MICROPHONE, STUFFED
FLATBREAD, STUPA, STX, SUB, SUBSCRIPT EIGHT/FIVE/FOUR/MINUS/NINE/ONE/SEVEN/SIX/THREE/TWO/ZERO,
SUBSCRIPT EQUALS/PLUS SIGN, SUBSCRIPT LEFT/RIGHT PARENTHESIS, SUBSET ABOVE RIGHTWARDS ARROW,
SUBSET ABOVE SUBSET/SUPERSET, SUBSET OF, SUBSET OF ABOVE ALMOST EQUAL TO, SUBSET OF ABOVE EQUALS
SIGN, SUBSET OF ABOVE TILDE OPERATOR, SUBSET OF ABOVE/WITH NOT EQUAL TO, SUBSET OF OR EQUAL TO,
SUBSET OF OR EQUAL TO WITH DOT ABOVE, SUBSET WITH DOT, SUBSET WITH MULTIPLICATION/PLUS SIGN
BELOW, SUBSTITUTE, SUCCEEDS, SUCCEEDS ABOVE ALMOST/NOT EQUAL TO, SUCCEEDS ABOVE EQUALS SIGN,
SUCCEEDS ABOVE NOT ALMOST EQUAL TO, SUCCEEDS ABOVE SINGLE-LINE EQUALS SIGN, SUCCEEDS ABOVE
SINGLE-LINE NOT EQUAL TO, SUCCEEDS BUT NOT EQUIVALENT TO, SUCCEEDS OR EQUAL/EQUIVALENT TO,
SUCCEEDS UNDER RELATION, SUMMATION BOTTOM/TOP, SUMMATION WITH INTEGRAL, SUN, SUN BEHIND CLOUD,
SUN WITH FACE, SUNDANESE AVAGRAHA, SUNDANESE CONSONANT SIGN PAMINGKAL/PANYAKRA/PANYIKU,
SUNDANESE CONSONANT SIGN PASANGAN MA/WA, SUNDANESE DIGIT
EIGHT/FIVE/FOUR/NINE/ONE/SEVEN/SIX/THREE/TWO/ZERO, SUNDANESE LETTER
A/AE/BA/BHA/CA/DA/E/EU/FA/GA/HA/I/JA/KA/KHA/LA/LEU/MA/NA/NGA, SUNDANESE LETTER FINAL K/M,
SUNDANESE LETTER NYA/O/PA/QA/RA/REU/SA/SYA/TA/U/VA/WA/XA/YA/ZA, SUNDANESE PUNCTUATION BINDU
BA/DA/KA/LEU SATANGA, SUNDANESE PUNCTUATION BINDU CAKRA/PANGLONG/PURNAMA/SURYA, SUNDANESE SIGN
PAMAAEH/PANGLAYAR/PANGWISAD/PANYECEK/VIRAMA, SUNDANESE VOWEL SIGN
PAMEPET/PANAELAENG/PANEULEUNG/PANGHULU/PANOLONG/PANYUKU, SUNFLOWER, SUNRISE, SUNRISE OVER
MOUNTAINS, SUNSET OVER BUILDINGS, SUPERHERO, SUPERSCRIPT
EIGHT/FIVE/FOUR/MINUS/NINE/ONE/SEVEN/SIX/THREE/TWO/ZERO, SUPERSCRIPT EQUALS/PLUS SIGN,
SUPERSCRIPT LATIN SMALL LETTER I/N, SUPERSCRIPT LEFT/RIGHT PARENTHESIS, SUPERSET ABOVE LEFTWARDS
ARROW, SUPERSET ABOVE SUPERSET, SUPERSET ABOVE/BESIDE SUBSET, SUPERSET BESIDE AND JOINED BY DASH
WITH SUBSET, SUPERSET OF, SUPERSET OF ABOVE ALMOST EQUAL TO, SUPERSET OF ABOVE EQUALS SIGN,
SUPERSET OF ABOVE TILDE OPERATOR, SUPERSET OF ABOVE/WITH NOT EQUAL TO, SUPERSET OF OR EQUAL TO,
SUPERSET OF OR EQUAL TO WITH DOT ABOVE, SUPERSET PRECEDING SOLIDUS, SUPERSET WITH DOT, SUPERSET
WITH MULTIPLICATION/PLUS SIGN BELOW, SUPERVILLAIN, SURFACE INTEGRAL, SURFER, SUSHI, SUSPENSION
RAILWAY, SWAN, SWASH AMPERSAND ORNAMENT, SWIMMER, SWUNG DASH, SYLOTI NAGRI LETTER
A/BHO/BO/CHO/CO/DDHO/DDO/DHO/DO/E/GHO/GO/HO/I/JHO/JO/KHO/KO/LO, SYLOTI NAGRI LETTER
MO/NO/O/PHO/PO/RO/RRO/SO/THO/TO/TTHO/TTO/U, SYLOTI NAGRI POETRY MARK-1/MARK-2/MARK-3/MARK-4,
SYLOTI NAGRI SIGN ALTERNATE HASANTA, SYLOTI NAGRI SIGN ANUSVARA/DVISVARA/HASANTA, SYLOTI NAGRI
VOWEL SIGN A/E/I/OO/U, SYMBOL FOR
ACKNOWLEDGE/BACKSPACE/BELL/CANCEL/DELETE/ENQUIRY/ESCAPE/NEWLINE, SYMBOL FOR CARRIAGE RETURN,
SYMBOL FOR DATA LINK ESCAPE, SYMBOL FOR DELETE/SUBSTITUTE FORM TWO, SYMBOL FOR DEVICE CONTROL
FOUR/ONE/THREE/TWO, SYMBOL FOR END OF MEDIUM/TRANSMISSION, SYMBOL FOR END OF TRANSMISSION BLOCK,
SYMBOL FOR END/START OF TEXT, SYMBOL FOR FILE/GROUP/RECORD/UNIT SEPARATOR, SYMBOL FOR FORM/LINE
FEED, SYMBOL FOR HORIZONTAL/VERTICAL TABULATION, SYMBOL FOR MARKS CHAPTER, SYMBOL FOR NEGATIVE
ACKNOWLEDGE, SYMBOL FOR NULL/SPACE/SUBSTITUTE, SYMBOL FOR SAMARITAN SOURCE, SYMBOL FOR SHIFT
IN/OUT, SYMBOL FOR START OF HEADING, SYMBOL FOR SYNCHRONOUS IDLE, SYMBOL FOR TYPE A ELECTRONICS,
SYMMETRY, SYN, SYNAGOGUE, SYNCHRONOUS IDLE, SYRIAC ABBREVIATION MARK, SYRIAC
BARREKH/CONTRACTION/MUSIC/QUSHSHAYA/RUKKAKHA/RWAHA, SYRIAC COLON SKEWED LEFT/RIGHT, SYRIAC
DOTTED ZLAMA ANGULAR/HORIZONTAL, SYRIAC END OF PARAGRAPH, SYRIAC ESASA/HBASA/PTHAHA/RBASA/ZQAPHA
ABOVE/BELOW, SYRIAC FEMININE DOT, SYRIAC HARKLEAN ASTERISCUS/METOBELUS/OBELUS, SYRIAC
HBASA-ESASA/PTHAHA/ZQAPHA DOTTED, SYRIAC HORIZONTAL/SUBLINEAR/SUPRALINEAR COLON, SYRIAC LETTER
ALAPH/BETH/DALATH/E/GAMAL/HE/HETH/KAPH/LAMADH/MIM/NUN/PE/QAPH, SYRIAC LETTER DOTLESS DALATH
RISH, SYRIAC LETTER FINAL SEMKATH, SYRIAC LETTER GAMAL/TETH GARSHUNI, SYRIAC LETTER MALAYALAM
BHA/JA/LLA/LLLA/NGA/NNA/NNNA/NYA/RA/SSA/TTA, SYRIAC LETTER PERSIAN BHETH/DHALATH/GHAMAL, SYRIAC
LETTER REVERSED PE, SYRIAC LETTER RISH/SADHE/SEMKATH/SHIN/TAW/TETH/WAW/YUDH/ZAIN, SYRIAC LETTER
SOGDIAN FE/KHAPH/ZHAIN, SYRIAC LETTER SUPERSCRIPT ALAPH, SYRIAC LETTER YUDH HE, SYRIAC OBLIQUE
LINE ABOVE/BELOW, SYRIAC SUBLINEAR COLON SKEWED RIGHT, SYRIAC SUBLINEAR/SUPRALINEAR COLON SKEWED
LEFT, SYRIAC SUBLINEAR/SUPRALINEAR FULL STOP, SYRIAC THREE DOTS ABOVE/BELOW, SYRIAC TWO VERTICAL
DOTS ABOVE/BELOW, SYRINGE"),
  ('T', "
T-REX, T-SHIRT, TAB, TABLE TENNIS PADDLE AND BALL, TACO, TAG
AMPERSAND/APOSTROPHE/ASTERISK/COLON/COMMA/HYPHEN-MINUS, TAG CIRCUMFLEX/GRAVE ACCENT, TAG
COMMERCIAL AT, TAG DIGIT EIGHT/FIVE/FOUR/NINE/ONE/SEVEN/SIX/THREE/TWO/ZERO, TAG
DOLLAR/EQUALS/GREATER-THAN/LESS-THAN/NUMBER/PERCENT/PLUS SIGN, TAG
EXCLAMATION/QUESTION/QUOTATION MARK, TAG FULL STOP, TAG LATIN CAPITAL/SMALL LETTER
A/B/C/D/E/F/G/H/I/J/K/L/M/N/O/P/Q/R/S/T/U/V/W/X/Y/Z, TAG LEFT/RIGHT CURLY/SQUARE BRACKET, TAG
LEFT/RIGHT PARENTHESIS, TAG LOW/VERTICAL LINE, TAG REVERSE SOLIDUS, TAG
SEMICOLON/SOLIDUS/SPACE/TILDE, TAGALOG LETTER
A/BA/DA/GA/HA/I/KA/LA/MA/NA/NGA/PA/RA/SA/TA/U/WA/YA, TAGALOG LETTER ARCHAIC RA, TAGALOG SIGN
PAMUDPOD/VIRAMA, TAGALOG VOWEL SIGN I/U, TAGBANWA LETTER
A/BA/DA/GA/I/KA/LA/MA/NA/NGA/PA/SA/TA/U/WA/YA, TAGBANWA VOWEL SIGN I/U, TAI LE LETTER
AI/AUE/E/EH/FA/HA/KA/KHA/O/PA/PHA/QA/SA/TA/THA/TONE-2/TONE-3, TAI LE LETTER
TONE-4/TONE-5/TONE-6/TSA/TSHA/UE/VA/XA/YA, TAI LE/THAM LETTER A/EE/I/LA/MA/NA/NGA/OO/U, TAI THAM
COMBINING CRYPTOGRAMMIC DOT, TAI THAM CONSONANT SIGN BA/MA/SA, TAI THAM CONSONANT SIGN FINAL
NGA, TAI THAM CONSONANT SIGN HIGH RATHA OR LOW PA, TAI THAM CONSONANT SIGN LA TANG LAI, TAI THAM
CONSONANT SIGN LOW PA, TAI THAM CONSONANT SIGN MEDIAL LA/RA, TAI THAM HORA/THAM DIGIT
EIGHT/FIVE/FOUR/NINE/ONE/SEVEN/SIX/THREE/TWO/ZERO, TAI THAM LETTER
BA/DA/II/LAE/LLA/LUE/NYA/RA/RANA/RATA/RUE/UU/WA, TAI THAM LETTER GREAT/HIGH/LOW SA, TAI THAM
LETTER HIGH SHA/SSA, TAI THAM LETTER HIGH/LOW CA/CHA/FA/HA/KA/KHA/KXA/PA/PHA/RATHA/TA/THA/YA,
TAI THAM SIGN CAANG/DOKMAI/HANG/HOY/KAAN/KAANKUU/KEOW/SAKOT/SATKAAN, TAI THAM SIGN KHUEN
TONE-3/TONE-4/TONE-5, TAI THAM SIGN KHUEN-LUE KARAN, TAI THAM SIGN MAI KANG LAI, TAI THAM SIGN
MAI KANG/SAM/YAMOK, TAI THAM SIGN RA HAAM, TAI THAM SIGN REVERSED ROTATED RANA, TAI THAM SIGN
SATKAANKUU/SAWAN/TONE-1/TONE-2/WIANG/WIANGWAAK, TAI THAM VOWEL SIGN
A/AA/AE/AI/E/I/II/O/OO/OY/U/UE/UU/UUE, TAI THAM VOWEL SIGN MAI SAT, TAI THAM VOWEL SIGN OA
ABOVE/BELOW, TAI THAM VOWEL SIGN TALL AA, TAI THAM VOWEL SIGN THAM AI, TAI VIET LETTER HIGH/LOW
BO/CHO/CO/DO/FO/GO/HO/KHHO/KHO/KO/LO/MO/NGO/NO/NYO/O/PHO/PO/RO, TAI VIET LETTER HIGH/LOW
SO/THO/TO/VO/YO, TAI VIET MAI KANG/KHIT, TAI VIET SYMBOL HO HOI, TAI VIET SYMBOL KOI KOI, TAI
VIET SYMBOL KON/NUENG/SAM, TAI VIET TONE MAI EK/NUENG/SONG/THO, TAI VIET VOWEL
AA/AM/AN/AUE/AY/E/I/IA/O/U/UA/UE/UEA, TAKEOUT BOX, TAKRI ABBREVIATION SIGN, TAKRI DIGIT
EIGHT/FIVE/FOUR/NINE/ONE/SEVEN/SIX/THREE/TWO/ZERO, TAKRI LETTER
A/AA/AI/AU/BA/BHA/CA/CHA/DA/DDA/DDHA/DHA/E/GA/GHA/HA/I/II/JA, TAKRI LETTER ARCHAIC KHA, TAKRI
LETTER JHA/KA/KHA/LA/MA/NA/NGA/NNA/NYA/O/PA/PHA/RA/RRA/SA/SHA/TA/THA, TAKRI LETTER
TTA/TTHA/U/UU/VA/YA, TAKRI SIGN ANUSVARA/NUKTA/VIRAMA/VISARGA, TAKRI VOWEL SIGN
AA/AI/AU/E/I/II/O/U/UU, TALLY MARK FIVE/ONE, TAMALE, TAMIL AND ODD SIGN, TAMIL AS ABOVE SIGN,
TAMIL AU LENGTH MARK, TAMIL CREDIT/CURRENT/DAY/DEBIT/LAND/MONTH/NUMBER/RUPEE/SPENT/TOTAL SIGN,
TAMIL DIGIT EIGHT/FIVE/FOUR/NINE/ONE/SEVEN/SIX/THREE/TWO/ZERO, TAMIL DRY/WET CULTIVATION SIGN,
TAMIL FRACTION DOWNSCALING FACTOR KIIZH, TAMIL FRACTION ONE
EIGHTH/EIGHTIETH/FIFTH/FORTIETH/HALF-1/HALF-2, TAMIL FRACTION ONE
ONE-HUNDRED-AND-SIXTIETH/QUARTER/SIXTEENTH-1/SIXTEENTH-2, TAMIL FRACTION ONE
SIXTY-FOURTH/TENTH/THIRTY-SECOND/THREE-HUNDRED-AND-TWENTIETH, TAMIL FRACTION ONE TWENTIETH,
TAMIL FRACTION THREE EIGHTIETHS/QUARTERS/SIXTEENTHS/SIXTY-FOURTHS/TWENTIETHS, TAMIL IN
POSSESSION SIGN, TAMIL LETTER A/AA/AI/AU/CA/E/EE/HA/I/II/JA/KA/LA/LLA/LLLA/MA/NA/NGA/NNA/NNNA,
TAMIL LETTER NYA/O/OO/PA/RA/RRA/SA/SHA/SSA/TA/TTA/U/UU/VA/YA, TAMIL NUMBER ONE HUNDRED/THOUSAND,
TAMIL NUMBER TEN, TAMIL OM, TAMIL PUNCTUATION END OF TEXT, TAMIL SALT PAN SIGN, TAMIL SIGN
AAZHAAKKU/ANUSVARA/CEVITU/KAACU/KURUNI/KUZHI/MUKKURUNI, TAMIL SIGN
MUTHALIYA/MUUVUZHAKKU/NEL/PAARAM/PANAM/PATHAKKU/PON/UZHAKKU, TAMIL SIGN
VAKAIYARAA/VARAAKAN/VELI/VIRAMA/VISARGA, TAMIL STARTING FROM SIGN, TAMIL TRADITIONAL
CREDIT/NUMBER SIGN, TAMIL VOWEL SIGN AA/AI/AU/E/EE/I/II/O/OO/U/UU, TAMIL YEAR SIGN, TANABATA
TREE, TANGERINE, TANGSA DIGIT EIGHT/FIVE/FOUR/NINE/ONE/SEVEN/SIX/THREE/TWO/ZERO, TANGSA LETTER
AC/AQ/AWC/AWQ/AWX/AWZ/AX/AZ/BA/CA/CHA/DA/DHA/EC/EQ/EX/EZ/FA/GA, TANGSA LETTER FINAL NG, TANGSA
LETTER GHA/HA/HTA/HTTA/IC/IQ/IX/IZ/KA/KHA/LA/MA/MC/MQ/MX/MZ/NA/NGA/NHA, TANGSA LETTER LONG UEX,
TANGSA LETTER NYA/OC/OQ/OX/OZ/PA/PHA/RA/SA/SHA/TA/THA/TSA/UC/UEC/UEQ/UEX/UEZ, TANGSA LETTER
SHORT AWX/UEZ, TANGSA LETTER UIC/UIQ/UIUC/UIUQ/UIUX/UIUZ/UIX/UIZ/UQ/UX/UZ/VC/VQ/VX/VZ/WA/XA,
TANGSA LETTER YA/ZA, TANGUT COMPONENT-001/COMPONENT-002/COMPONENT-003/COMPONENT-004, TANGUT
COMPONENT-005/COMPONENT-006/COMPONENT-007/COMPONENT-008, TANGUT
COMPONENT-009/COMPONENT-010/COMPONENT-011/COMPONENT-012, TANGUT
COMPONENT-013/COMPONENT-014/COMPONENT-015/COMPONENT-016, TANGUT
COMPONENT-017/COMPONENT-018/COMPONENT-019/COMPONENT-020, TANGUT
COMPONENT-021/COMPONENT-022/COMPONENT-023/COMPONENT-024, TANGUT
COMPONENT-025/COMPONENT-026/COMPONENT-027/COMPONENT-028, TANGUT
COMPONENT-029/COMPONENT-030/COMPONENT-031/COMPONENT-032, TANGUT
COMPONENT-033/COMPONENT-034/COMPONENT-035/COMPONENT-036, TANGUT
COMPONENT-037/COMPONENT-038/COMPONENT-039/COMPONENT-040, TANGUT
COMPONENT-041/COMPONENT-042/COMPONENT-043/COMPONENT-044, TANGUT
COMPONENT-045/COMPONENT-046/COMPONENT-047/COMPONENT-048, TANGUT
COMPONENT-049/COMPONENT-050/COMPONENT-051/COMPONENT-052, TANGUT
COMPONENT-053/COMPONENT-054/COMPONENT-055/COMPONENT-056, TANGUT
COMPONENT-057/COMPONENT-058/COMPONENT-059/COMPONENT-060, TANGUT
COMPONENT-061/COMPONENT-062/COMPONENT-063/COMPONENT-064, TANGUT
COMPONENT-065/COMPONENT-066/COMPONENT-067/COMPONENT-068, TANGUT
COMPONENT-069/COMPONENT-070/COMPONENT-071/COMPONENT-072, TANGUT
COMPONENT-073/COMPONENT-074/COMPONENT-075/COMPONENT-076, TANGUT
COMPONENT-077/COMPONENT-078/COMPONENT-079/COMPONENT-080, TANGUT
COMPONENT-081/COMPONENT-082/COMPONENT-083/COMPONENT-084, TANGUT
COMPONENT-085/COMPONENT-086/COMPONENT-087/COMPONENT-088, TANGUT
COMPONENT-089/COMPONENT-090/COMPONENT-091/COMPONENT-092, TANGUT
COMPONENT-093/COMPONENT-094/COMPONENT-095/COMPONENT-096, TANGUT
COMPONENT-097/COMPONENT-098/COMPONENT-099/COMPONENT-100, TANGUT
COMPONENT-101/COMPONENT-102/COMPONENT-103/COMPONENT-104, TANGUT
COMPONENT-105/COMPONENT-106/COMPONENT-107/COMPONENT-108, TANGUT
COMPONENT-109/COMPONENT-110/COMPONENT-111/COMPONENT-112, TANGUT
COMPONENT-113/COMPONENT-114/COMPONENT-115/COMPONENT-116, TANGUT
COMPONENT-117/COMPONENT-118/COMPONENT-119/COMPONENT-120, TANGUT
COMPONENT-121/COMPONENT-122/COMPONENT-123/COMPONENT-124, TANGUT
COMPONENT-125/COMPONENT-126/COMPONENT-127/COMPONENT-128, TANGUT
COMPONENT-129/COMPONENT-130/COMPONENT-131/COMPONENT-132, TANGUT
COMPONENT-133/COMPONENT-134/COMPONENT-135/COMPONENT-136, TANGUT
COMPONENT-137/COMPONENT-138/COMPONENT-139/COMPONENT-140, TANGUT
COMPONENT-141/COMPONENT-142/COMPONENT-143/COMPONENT-144, TANGUT
COMPONENT-145/COMPONENT-146/COMPONENT-147/COMPONENT-148, TANGUT
COMPONENT-149/COMPONENT-150/COMPONENT-151/COMPONENT-152, TANGUT
COMPONENT-153/COMPONENT-154/COMPONENT-155/COMPONENT-156, TANGUT
COMPONENT-157/COMPONENT-158/COMPONENT-159/COMPONENT-160, TANGUT
COMPONENT-161/COMPONENT-162/COMPONENT-163/COMPONENT-164, TANGUT
COMPONENT-165/COMPONENT-166/COMPONENT-167/COMPONENT-168, TANGUT
COMPONENT-169/COMPONENT-170/COMPONENT-171/COMPONENT-172, TANGUT
COMPONENT-173/COMPONENT-174/COMPONENT-175/COMPONENT-176, TANGUT
COMPONENT-177/COMPONENT-178/COMPONENT-179/COMPONENT-180, TANGUT
COMPONENT-181/COMPONENT-182/COMPONENT-183/COMPONENT-184, TANGUT
COMPONENT-185/COMPONENT-186/COMPONENT-187/COMPONENT-188, TANGUT
COMPONENT-189/COMPONENT-190/COMPONENT-191/COMPONENT-192, TANGUT
COMPONENT-193/COMPONENT-194/COMPONENT-195/COMPONENT-196, TANGUT
COMPONENT-197/COMPONENT-198/COMPONENT-199/COMPONENT-200, TANGUT
COMPONENT-201/COMPONENT-202/COMPONENT-203/COMPONENT-204, TANGUT
COMPONENT-205/COMPONENT-206/COMPONENT-207/COMPONENT-208, TANGUT
COMPONENT-209/COMPONENT-210/COMPONENT-211/COMPONENT-212, TANGUT
COMPONENT-213/COMPONENT-214/COMPONENT-215/COMPONENT-216, TANGUT
COMPONENT-217/COMPONENT-218/COMPONENT-219/COMPONENT-220, TANGUT
COMPONENT-221/COMPONENT-222/COMPONENT-223/COMPONENT-224, TANGUT
COMPONENT-225/COMPONENT-226/COMPONENT-227/COMPONENT-228, TANGUT
COMPONENT-229/COMPONENT-230/COMPONENT-231/COMPONENT-232, TANGUT
COMPONENT-233/COMPONENT-234/COMPONENT-235/COMPONENT-236, TANGUT
COMPONENT-237/COMPONENT-238/COMPONENT-239/COMPONENT-240, TANGUT
COMPONENT-241/COMPONENT-242/COMPONENT-243/COMPONENT-244, TANGUT
COMPONENT-245/COMPONENT-246/COMPONENT-247/COMPONENT-248, TANGUT
COMPONENT-249/COMPONENT-250/COMPONENT-251/COMPONENT-252, TANGUT
COMPONENT-253/COMPONENT-254/COMPONENT-255/COMPONENT-256, TANGUT
COMPONENT-257/COMPONENT-258/COMPONENT-259/COMPONENT-260, TANGUT
COMPONENT-261/COMPONENT-262/COMPONENT-263/COMPONENT-264, TANGUT
COMPONENT-265/COMPONENT-266/COMPONENT-267/COMPONENT-268, TANGUT
COMPONENT-269/COMPONENT-270/COMPONENT-271/COMPONENT-272, TANGUT
COMPONENT-273/COMPONENT-274/COMPONENT-275/COMPONENT-276, TANGUT
COMPONENT-277/COMPONENT-278/COMPONENT-279/COMPONENT-280, TANGUT
COMPONENT-281/COMPONENT-282/COMPONENT-283/COMPONENT-284, TANGUT
COMPONENT-285/COMPONENT-286/COMPONENT-287/COMPONENT-288, TANGUT
COMPONENT-289/COMPONENT-290/COMPONENT-291/COMPONENT-292, TANGUT
COMPONENT-293/COMPONENT-294/COMPONENT-295/COMPONENT-296, TANGUT
COMPONENT-297/COMPONENT-298/COMPONENT-299/COMPONENT-300, TANGUT
COMPONENT-301/COMPONENT-302/COMPONENT-303/COMPONENT-304, TANGUT
COMPONENT-305/COMPONENT-306/COMPONENT-307/COMPONENT-308, TANGUT
COMPONENT-309/COMPONENT-310/COMPONENT-311/COMPONENT-312, TANGUT
COMPONENT-313/COMPONENT-314/COMPONENT-315/COMPONENT-316, TANGUT
COMPONENT-317/COMPONENT-318/COMPONENT-319/COMPONENT-320, TANGUT
COMPONENT-321/COMPONENT-322/COMPONENT-323/COMPONENT-324, TANGUT
COMPONENT-325/COMPONENT-326/COMPONENT-327/COMPONENT-328, TANGUT
COMPONENT-329/COMPONENT-330/COMPONENT-331/COMPONENT-332, TANGUT
COMPONENT-333/COMPONENT-334/COMPONENT-335/COMPONENT-336, TANGUT
COMPONENT-337/COMPONENT-338/COMPONENT-339/COMPONENT-340, TANGUT
COMPONENT-341/COMPONENT-342/COMPONENT-343/COMPONENT-344, TANGUT
COMPONENT-345/COMPONENT-346/COMPONENT-347/COMPONENT-348, TANGUT
COMPONENT-349/COMPONENT-350/COMPONENT-351/COMPONENT-352, TANGUT
COMPONENT-353/COMPONENT-354/COMPONENT-355/COMPONENT-356, TANGUT
COMPONENT-357/COMPONENT-358/COMPONENT-359/COMPONENT-360, TANGUT
COMPONENT-361/COMPONENT-362/COMPONENT-363/COMPONENT-364, TANGUT
COMPONENT-365/COMPONENT-366/COMPONENT-367/COMPONENT-368, TANGUT
COMPONENT-369/COMPONENT-370/COMPONENT-371/COMPONENT-372, TANGUT
COMPONENT-373/COMPONENT-374/COMPONENT-375/COMPONENT-376, TANGUT
COMPONENT-377/COMPONENT-378/COMPONENT-379/COMPONENT-380, TANGUT
COMPONENT-381/COMPONENT-382/COMPONENT-383/COMPONENT-384, TANGUT
COMPONENT-385/COMPONENT-386/COMPONENT-387/COMPONENT-388, TANGUT
COMPONENT-389/COMPONENT-390/COMPONENT-391/COMPONENT-392, TANGUT
COMPONENT-393/COMPONENT-394/COMPONENT-395/COMPONENT-396, TANGUT
COMPONENT-397/COMPONENT-398/COMPONENT-399/COMPONENT-400, TANGUT
COMPONENT-401/COMPONENT-402/COMPONENT-403/COMPONENT-404, TANGUT
COMPONENT-405/COMPONENT-406/COMPONENT-407/COMPONENT-408, TANGUT
COMPONENT-409/COMPONENT-410/COMPONENT-411/COMPONENT-412, TANGUT
COMPONENT-413/COMPONENT-414/COMPONENT-415/COMPONENT-416, TANGUT
COMPONENT-417/COMPONENT-418/COMPONENT-419/COMPONENT-420, TANGUT
COMPONENT-421/COMPONENT-422/COMPONENT-423/COMPONENT-424, TANGUT
COMPONENT-425/COMPONENT-426/COMPONENT-427/COMPONENT-428, TANGUT
COMPONENT-429/COMPONENT-430/COMPONENT-431/COMPONENT-432, TANGUT
COMPONENT-433/COMPONENT-434/COMPONENT-435/COMPONENT-436, TANGUT
COMPONENT-437/COMPONENT-438/COMPONENT-439/COMPONENT-440, TANGUT
COMPONENT-441/COMPONENT-442/COMPONENT-443/COMPONENT-444, TANGUT
COMPONENT-445/COMPONENT-446/COMPONENT-447/COMPONENT-448, TANGUT
COMPONENT-449/COMPONENT-450/COMPONENT-451/COMPONENT-452, TANGUT
COMPONENT-453/COMPONENT-454/COMPONENT-455/COMPONENT-456, TANGUT
COMPONENT-457/COMPONENT-458/COMPONENT-459/COMPONENT-460, TANGUT
COMPONENT-461/COMPONENT-462/COMPONENT-463/COMPONENT-464, TANGUT
COMPONENT-465/COMPONENT-466/COMPONENT-467/COMPONENT-468, TANGUT
COMPONENT-469/COMPONENT-470/COMPONENT-471/COMPONENT-472, TANGUT
COMPONENT-473/COMPONENT-474/COMPONENT-475/COMPONENT-476, TANGUT
COMPONENT-477/COMPONENT-478/COMPONENT-479/COMPONENT-480, TANGUT
COMPONENT-481/COMPONENT-482/COMPONENT-483/COMPONENT-484, TANGUT
COMPONENT-485/COMPONENT-486/COMPONENT-487/COMPONENT-488, TANGUT
COMPONENT-489/COMPONENT-490/COMPONENT-491/COMPONENT-492, TANGUT
COMPONENT-493/COMPONENT-494/COMPONENT-495/COMPONENT-496, TANGUT
COMPONENT-497/COMPONENT-498/COMPONENT-499/COMPONENT-500, TANGUT
COMPONENT-501/COMPONENT-502/COMPONENT-503/COMPONENT-504, TANGUT
COMPONENT-505/COMPONENT-506/COMPONENT-507/COMPONENT-508, TANGUT
COMPONENT-509/COMPONENT-510/COMPONENT-511/COMPONENT-512, TANGUT
COMPONENT-513/COMPONENT-514/COMPONENT-515/COMPONENT-516, TANGUT
COMPONENT-517/COMPONENT-518/COMPONENT-519/COMPONENT-520, TANGUT
COMPONENT-521/COMPONENT-522/COMPONENT-523/COMPONENT-524, TANGUT
COMPONENT-525/COMPONENT-526/COMPONENT-527/COMPONENT-528, TANGUT
COMPONENT-529/COMPONENT-530/COMPONENT-531/COMPONENT-532, TANGUT
COMPONENT-533/COMPONENT-534/COMPONENT-535/COMPONENT-536, TANGUT
COMPONENT-537/COMPONENT-538/COMPONENT-539/COMPONENT-540, TANGUT
COMPONENT-541/COMPONENT-542/COMPONENT-543/COMPONENT-544, TANGUT
COMPONENT-545/COMPONENT-546/COMPONENT-547/COMPONENT-548, TANGUT
COMPONENT-549/COMPONENT-550/COMPONENT-551/COMPONENT-552, TANGUT
COMPONENT-553/COMPONENT-554/COMPONENT-555/COMPONENT-556, TANGUT
COMPONENT-557/COMPONENT-558/COMPONENT-559/COMPONENT-560, TANGUT
COMPONENT-561/COMPONENT-562/COMPONENT-563/COMPONENT-564, TANGUT
COMPONENT-565/COMPONENT-566/COMPONENT-567/COMPONENT-568, TANGUT
COMPONENT-569/COMPONENT-570/COMPONENT-571/COMPONENT-572, TANGUT
COMPONENT-573/COMPONENT-574/COMPONENT-575/COMPONENT-576, TANGUT
COMPONENT-577/COMPONENT-578/COMPONENT-579/COMPONENT-580, TANGUT
COMPONENT-581/COMPONENT-582/COMPONENT-583/COMPONENT-584, TANGUT
COMPONENT-585/COMPONENT-586/COMPONENT-587/COMPONENT-588, TANGUT
COMPONENT-589/COMPONENT-590/COMPONENT-591/COMPONENT-592, TANGUT
COMPONENT-593/COMPONENT-594/COMPONENT-595/COMPONENT-596, TANGUT
COMPONENT-597/COMPONENT-598/COMPONENT-599/COMPONENT-600, TANGUT
COMPONENT-601/COMPONENT-602/COMPONENT-603/COMPONENT-604, TANGUT
COMPONENT-605/COMPONENT-606/COMPONENT-607/COMPONENT-608, TANGUT
COMPONENT-609/COMPONENT-610/COMPONENT-611/COMPONENT-612, TANGUT
COMPONENT-613/COMPONENT-614/COMPONENT-615/COMPONENT-616, TANGUT
COMPONENT-617/COMPONENT-618/COMPONENT-619/COMPONENT-620, TANGUT
COMPONENT-621/COMPONENT-622/COMPONENT-623/COMPONENT-624, TANGUT
COMPONENT-625/COMPONENT-626/COMPONENT-627/COMPONENT-628, TANGUT
COMPONENT-629/COMPONENT-630/COMPONENT-631/COMPONENT-632, TANGUT
COMPONENT-633/COMPONENT-634/COMPONENT-635/COMPONENT-636, TANGUT
COMPONENT-637/COMPONENT-638/COMPONENT-639/COMPONENT-640, TANGUT
COMPONENT-641/COMPONENT-642/COMPONENT-643/COMPONENT-644, TANGUT
COMPONENT-645/COMPONENT-646/COMPONENT-647/COMPONENT-648, TANGUT
COMPONENT-649/COMPONENT-650/COMPONENT-651/COMPONENT-652, TANGUT
COMPONENT-653/COMPONENT-654/COMPONENT-655/COMPONENT-656, TANGUT
COMPONENT-657/COMPONENT-658/COMPONENT-659/COMPONENT-660, TANGUT
COMPONENT-661/COMPONENT-662/COMPONENT-663/COMPONENT-664, TANGUT
COMPONENT-665/COMPONENT-666/COMPONENT-667/COMPONENT-668, TANGUT
COMPONENT-669/COMPONENT-670/COMPONENT-671/COMPONENT-672, TANGUT
COMPONENT-673/COMPONENT-674/COMPONENT-675/COMPONENT-676, TANGUT
COMPONENT-677/COMPONENT-678/COMPONENT-679/COMPONENT-680, TANGUT
COMPONENT-681/COMPONENT-682/COMPONENT-683/COMPONENT-684, TANGUT
COMPONENT-685/COMPONENT-686/COMPONENT-687/COMPONENT-688, TANGUT
COMPONENT-689/COMPONENT-690/COMPONENT-691/COMPONENT-692, TANGUT
COMPONENT-693/COMPONENT-694/COMPONENT-695/COMPONENT-696, TANGUT
COMPONENT-697/COMPONENT-698/COMPONENT-699/COMPONENT-700, TANGUT
COMPONENT-701/COMPONENT-702/COMPONENT-703/COMPONENT-704, TANGUT
COMPONENT-705/COMPONENT-706/COMPONENT-707/COMPONENT-708, TANGUT
COMPONENT-709/COMPONENT-710/COMPONENT-711/COMPONENT-712, TANGUT
COMPONENT-713/COMPONENT-714/COMPONENT-715/COMPONENT-716, TANGUT
COMPONENT-717/COMPONENT-718/COMPONENT-719/COMPONENT-720, TANGUT
COMPONENT-721/COMPONENT-722/COMPONENT-723/COMPONENT-724, TANGUT
COMPONENT-725/COMPONENT-726/COMPONENT-727/COMPONENT-728, TANGUT
COMPONENT-729/COMPONENT-730/COMPONENT-731/COMPONENT-732, TANGUT
COMPONENT-733/COMPONENT-734/COMPONENT-735/COMPONENT-736, TANGUT
COMPONENT-737/COMPONENT-738/COMPONENT-739/COMPONENT-740, TANGUT
COMPONENT-741/COMPONENT-742/COMPONENT-743/COMPONENT-744, TANGUT
COMPONENT-745/COMPONENT-746/COMPONENT-747/COMPONENT-748, TANGUT
COMPONENT-749/COMPONENT-750/COMPONENT-751/COMPONENT-752, TANGUT
COMPONENT-753/COMPONENT-754/COMPONENT-755/COMPONENT-756, TANGUT
COMPONENT-757/COMPONENT-758/COMPONENT-759/COMPONENT-760, TANGUT
COMPONENT-761/COMPONENT-762/COMPONENT-763/COMPONENT-764, TANGUT
COMPONENT-765/COMPONENT-766/COMPONENT-767/COMPONENT-768, TANGUT ITERATION MARK, TAPE
CARTRIDGE/DRIVE, TAURUS, TAXI, TEACUP WITHOUT HANDLE, TEAPOT, TEAR-OFF CALENDAR, TEARDROP-BARBED
RIGHTWARDS ARROW, TEARDROP-SPOKED ASTERISK, TEDDY BEAR, TELEPHONE LOCATION SIGN, TELEPHONE ON
TOP OF MODEM, TELEPHONE RECEIVER WITH PAGE, TELEPHONE RECEIVER/RECORDER/SIGN, TELESCOPE,
TELEVISION, TELUGU AI LENGTH MARK, TELUGU DIGIT
EIGHT/FIVE/FOUR/NINE/ONE/SEVEN/SIX/THREE/TWO/ZERO, TELUGU FRACTION DIGIT ONE/THREE/TWO FOR EVEN
POWERS OF FOUR, TELUGU FRACTION DIGIT ONE/THREE/TWO/ZERO FOR ODD POWERS OF FOUR, TELUGU LENGTH
MARK, TELUGU LETTER A/AA/AI/AU/BA/BHA/CA/CHA/DA/DDA/DDHA/DHA/DZA/E/EE/GA/GHA/HA/I, TELUGU LETTER
II/JA/JHA/KA/KHA/LA/LLA/LLLA/MA/NA/NGA/NNA/NYA/O/OO/PA/PHA/RA, TELUGU LETTER NAKAARA POLLU,
TELUGU LETTER RRA/RRRA/SA/SHA/SSA/TA/THA/TSA/TTA/TTHA/U/UU/VA/YA, TELUGU LETTER VOCALIC
L/LL/R/RR, TELUGU SIGN ANUSVARA/AVAGRAHA/CANDRABINDU/NUKTA/SIDDHAM/TUUMU/VIRAMA, TELUGU SIGN
COMBINING ANUSVARA/CANDRABINDU ABOVE, TELUGU SIGN VISARGA, TELUGU VOWEL SIGN
AA/AI/AU/E/EE/I/II/O/OO/U/UU, TELUGU VOWEL SIGN VOCALIC L/LL/R/RR, TENGE SIGN, TENNIS RACQUET
AND BALL, TENT, TEST TUBE, TETRAGRAM FOR
ACCUMULATION/ADVANCE/AGGRAVATION/ASCENT/BARRIER/CENTRE/CHANGE, TETRAGRAM FOR BOLD RESOLUTION,
TETRAGRAM FOR BRANCHING OUT, TETRAGRAM FOR CLOSED MOUTH, TETRAGRAM FOR
CLOSENESS/CLOSURE/COMPLETION/COMPLIANCE/CONSTANCY/CONTACT, TETRAGRAM FOR
CONTENTION/CONTRARIETY/DARKENING/DECISIVENESS/DEPARTURE, TETRAGRAM FOR DEFECTIVENESS OR
DISTORTION, TETRAGRAM FOR DIFFICULTIES/DIMINISHMENT/DIMMING/DIVERGENCE/DOUBT/DUTIES/EASE,
TETRAGRAM FOR EMBELLISHMENT/ENCOUNTERS/ENDEAVOUR/ENLARGEMENT/ETERNITY, TETRAGRAM FOR
EXHAUSTION/FAILURE/FLIGHT/FOLLOWING/FOSTERING/FULLNESS, TETRAGRAM FOR FULL CIRCLE, TETRAGRAM FOR
GATHERING IN, TETRAGRAM FOR GATHERING/GREATNESS/GUARDEDNESS/HARDNESS/INCREASE/INNER/JOY,
TETRAGRAM FOR GOING TO MEET, TETRAGRAM FOR HOLDING BACK, TETRAGRAM FOR KEEPING SMALL, TETRAGRAM
FOR KINSHIP/LABOURING/LEGION/MASSING/MEASURE/MIRED/OPPOSITION, TETRAGRAM FOR LAW OR MODEL,
TETRAGRAM FOR ON THE VERGE, TETRAGRAM FOR
PACKING/PATTERN/PENETRATION/PURITY/REACH/RELEASE/RESIDENCE, TETRAGRAM FOR
RESISTANCE/RESPONSE/RITUAL/SEVERANCE/SINKING/STOPPAGE/STOVE, TETRAGRAM FOR
STRENGTH/UNITY/WAITING/WATCH/YOUTHFULNESS, TETRAGRAM FOR VASTNESS OR WASTING, THAANA
AABAAFILI/ABAFILI/EBEFILI/EEBEEFILI/EYBEYFILI/IBIFILI/OABOAFILI, THAANA LETTER
AINU/ALIFU/BAA/CHAVIYANI/DAADHU/DAVIYANI/DHAALU/FAAFU/GAAFU, THAANA LETTER
GHAINU/GNAVIYANI/HAA/HHAA/JAVIYANI/KAAFU/KHAA/LAAMU/LHAVIYANI, THAANA LETTER
MEEMU/NAA/NOONU/PAVIYANI/QAAFU/RAA/SAADHU/SEENU/SHAVIYANI, THAANA LETTER
SHEENU/TAVIYANI/THAA/THAALU/TO/TTAA/VAAVU/WAAVU/YAA/ZAA, THAANA LETTER ZAVIYANI/ZO, THAANA
OBOFILI/OOBOOFILI/SUKUN/UBUFILI, THAI CHARACTER
ANGKHANKHU/FONGMAN/KHOMUT/LAKKHANGYAO/LU/MAITAIKHU/MAIYAMOK, THAI CHARACTER BO BAIMAI, THAI
CHARACTER CHO CHAN/CHANG/CHING/CHOE, THAI CHARACTER DO CHADA/DEK, THAI CHARACTER FO FA/FAN, THAI
CHARACTER HO HIP/NOKHUK, THAI CHARACTER KHO KHAI/KHON/KHUAT/KHWAI/RAKHANG, THAI CHARACTER KO
KAI, THAI CHARACTER LO CHULA/LING, THAI CHARACTER MAI CHATTAWA/EK/HAN-AKAT/THO/TRI, THAI
CHARACTER MO MA, THAI CHARACTER NGO NGU, THAI CHARACTER
NIKHAHIT/PAIYANNOI/PHINTHU/RU/THANTHAKHAT/YAMAKKAN, THAI CHARACTER NO NEN/NU, THAI CHARACTER O
ANG, THAI CHARACTER PHO PHAN/PHUNG/SAMPHAO, THAI CHARACTER PO PLA, THAI CHARACTER RO RUA, THAI
CHARACTER SARA A/AA/AE/AM/E/I/II/O/U/UE/UEE/UU, THAI CHARACTER SARA AI MAIMALAI/MAIMUAN, THAI
CHARACTER SO RUSI/SALA/SO/SUA, THAI CHARACTER THO NANGMONTHO/PHUTHAO/THAHAN/THAN/THONG/THUNG,
THAI CHARACTER TO PATAK/TAO, THAI CHARACTER WO WAEN, THAI CHARACTER YO YAK/YING, THAI CURRENCY
SYMBOL BAHT, THAI DIGIT EIGHT/FIVE/FOUR/NINE/ONE/SEVEN/SIX/THREE/TWO/ZERO, THERE DOES NOT EXIST,
THERE EXISTS, THEREFORE, THERMODYNAMIC, THERMOMETER, THIN GREEK CROSS, THIN SALTIRE/SPACE,
THINKING FACE, THIRD PLACE MEDAL, THONG SANDAL, THOUGHT BALLOON, THREE BUTTON MOUSE, THREE
CONSECUTIVE EQUALS SIGNS, THREE DIMENSIONAL ANGLE, THREE DOT PUNCTUATION, THREE
LEFTWARDS/RIGHTWARDS ARROWS, THREE LINES CONVERGING LEFT/RIGHT, THREE NETWORKED COMPUTERS, THREE
POINTED BLACK STAR, THREE RAYS ABOVE/BELOW/LEFT/RIGHT, THREE SPEECH BUBBLES, THREE-D
BOTTOM-LIGHTED/TOP-LIGHTED RIGHTWARDS ARROWHEAD, THREE-D LEFT-LIGHTED DOWNWARDS EQUILATERAL
ARROWHEAD, THREE-D RIGHT-LIGHTED UPWARDS EQUILATERAL ARROWHEAD, THREE-D TOP-LIGHTED
LEFTWARDS/RIGHTWARDS EQUILATERAL ARROWHEAD, THREE-EM DASH, THREE-PER-EM SPACE, THUMBS DOWN/UP
SIGN, THUNDER CLOUD AND RAIN, THUNDERSTORM, TIBETAN ASTROLOGICAL SIGN -KHYUD PA, TIBETAN
ASTROLOGICAL SIGN SDONG TSHUGS, TIBETAN ASTROLOGICAL SIGN SGRA GCAN -CHAR RTAGS, TIBETAN
CANTILLATION SIGN CANG TE-U, TIBETAN CANTILLATION SIGN HEAVY/LIGHT BEAT, TIBETAN CANTILLATION
SIGN SBUB -CHAL, TIBETAN DIGIT EIGHT/FIVE/FOUR/NINE/ONE/SEVEN/SIX/THREE/TWO/ZERO, TIBETAN DIGIT
HALF EIGHT/FIVE/FOUR/NINE/ONE/SEVEN/SIX/THREE/TWO/ZERO, TIBETAN KU RU KHA, TIBETAN KU RU KHA
BZHI MIG CAN, TIBETAN LETTER -A/A/BA/BHA/CA/CHA/DA/DDA/DDHA/DHA/DZA/DZHA/GA/GHA/HA/JA/KA/KHA,
TIBETAN LETTER FIXED-FORM RA, TIBETAN LETTER
KKA/KSSA/LA/MA/NA/NGA/NNA/NYA/PA/PHA/RA/RRA/SA/SHA/SSA/TA/THA, TIBETAN LETTER
TSA/TSHA/TTA/TTHA/WA/YA/ZA/ZHA, TIBETAN LOGOTYPE SIGN CHAD/LHAG RTAGS, TIBETAN MARK ANG KHANG
GYAS/GYON, TIBETAN MARK BKA- SHOG YIG MGO, TIBETAN MARK BKA-/BSKA- SHOG GI MGO RGYAN, TIBETAN
MARK BSDUS RTAGS, TIBETAN MARK BSKUR YIG MGO, TIBETAN MARK CARET -DZUD RTAGS BZHI MIG CAN,
TIBETAN MARK CARET -DZUD RTAGS ME LONG CAN, TIBETAN MARK CARET YIG MGO PHUR SHAD MA, TIBETAN
MARK CHE MGO, TIBETAN MARK CLOSING BRDA RNYING YIG MGO SGAB MA, TIBETAN MARK CLOSING YIG MGO
SGAB MA, TIBETAN MARK DELIMITER TSHEG BSTAR, TIBETAN MARK GTER YIG MGO -UM GTER TSHEG MA,
TIBETAN MARK GTER YIG MGO -UM RNAM BCAD MA, TIBETAN MARK GTER YIG MGO TRUNCATED A, TIBETAN MARK
GTER/INTERSYLLABIC/NYIS TSHEG, TIBETAN MARK GUG RTAGS GYAS/GYON, TIBETAN MARK
HALANTA/PALUTA/SHAD, TIBETAN MARK INITIAL BRDA RNYING YIG MGO MDUN MA, TIBETAN MARK INITIAL YIG
MGO MDUN MA, TIBETAN MARK LEADING/TRAILING MCHAN RTAGS, TIBETAN MARK MNYAM YIG GI MGO RGYAN,
TIBETAN MARK NGAS BZUNG NYI ZLA, TIBETAN MARK NGAS BZUNG SGOR RTAGS, TIBETAN MARK NYIS TSHEG
SHAD, TIBETAN MARK NYIS/SBRUL/TSHEG SHAD, TIBETAN MARK RGYA GRAM SHAD, TIBETAN MARK RIN CHEN
SPUNGS SHAD, TIBETAN MARK TSA -PHRU, TIBETAN MARK YIG MGO TSHEG SHAD MA, TIBETAN SIGN GRU
CAN/MED RGYINGS, TIBETAN SIGN INVERTED MCHU CAN, TIBETAN SIGN LCE TSA CAN, TIBETAN SIGN LCI/YANG
RTAGS, TIBETAN SIGN MAR/YAR TSHES, TIBETAN SIGN MCHU CAN, TIBETAN SIGN NYI ZLA NAA DA, TIBETAN
SIGN RDEL DKAR RDEL NAG, TIBETAN SIGN RDEL DKAR/NAG GCIG/GNYIS/GSUM, TIBETAN SIGN RDEL NAG RDEL
DKAR, TIBETAN SIGN RJES SU NGA RO, TIBETAN SIGN RNAM BCAD, TIBETAN SIGN SNA LDAN, TIBETAN
SUBJOINED LETTER -A/A/BA/BHA/CA/CHA/DA/DDA/DDHA/DHA/DZA/DZHA/GA/GHA/HA/JA/KA/KHA, TIBETAN
SUBJOINED LETTER FIXED-FORM RA/WA/YA, TIBETAN SUBJOINED LETTER
KSSA/LA/MA/NA/NGA/NNA/NYA/PA/PHA/RA/SA/SHA/SSA/TA/THA/TSA/TSHA, TIBETAN SUBJOINED LETTER
TTA/TTHA/WA/YA/ZA/ZHA, TIBETAN SUBJOINED SIGN INVERTED MCHU CAN, TIBETAN SUBJOINED SIGN LCE TSA
CAN, TIBETAN SUBJOINED SIGN MCHU CAN, TIBETAN SYLLABLE OM, TIBETAN SYMBOL DRIL/NOR BU, TIBETAN
SYMBOL NOR BU BZHI/GSUM/NYIS -KHYIL, TIBETAN SYMBOL PADMA GDAN, TIBETAN SYMBOL PHUR PA, TIBETAN
SYMBOL RDO RJE, TIBETAN SYMBOL RDO RJE RGYA GRAM, TIBETAN VOWEL SIGN AA/E/EE/I/II/O/OO/U/UU,
TIBETAN VOWEL SIGN REVERSED I/II, TIBETAN VOWEL SIGN VOCALIC L/LL/R/RR, TICKET, TIE OVER
INFINITY, TIFINAGH CONSONANT JOINER, TIFINAGH LETTER AHAGGAR/TUAREG YAZH, TIFINAGH LETTER
AYER/TUAREG YAGH, TIFINAGH LETTER BERBER ACADEMY YAH/YAJ, TIFINAGH LETTER TAWELLEMET YAZ,
TIFINAGH LETTER TUAREG YAGN/YAH/YAK/YAKH/YANG/YAQ, TIFINAGH LETTER
YA/YAA/YAB/YABH/YACH/YAD/YADD/YADDH/YADH/YAF/YAG/YAGH/YAGHH/YAH, TIFINAGH LETTER
YAHH/YAJ/YAK/YAKH/YAKHH/YAL/YAM/YAN/YAP/YAQ/YAR/YARR/YAS/YASH, TIFINAGH LETTER
YASS/YAT/YATH/YATT/YAV/YAW/YAY/YAZ/YAZH/YAZZ/YE/YEY/YI/YO/YU, TIFINAGH MODIFIER LETTER
LABIALIZATION MARK, TIFINAGH SEPARATOR MARK, TIGER, TIGER FACE, TIGHT TRIFOLIATE SNOWFLAKE,
TILDE, TILDE OPERATOR, TILDE OPERATOR ABOVE LEFTWARDS/RIGHTWARDS ARROW, TILDE OPERATOR WITH DOT
ABOVE, TILDE OPERATOR WITH RISING DOTS, TILDE WITH DOT BELOW, TILDE WITH DOT/RING ABOVE, TIMER
CLOCK, TIMES WITH LEFT/RIGHT HALF BLACK, TINY, TINY TWO DOTS OVER ONE DOT PUNCTUATION, TIRED
FACE, TIRHUTA ABBREVIATION SIGN, TIRHUTA ANJI/GVANG/OM, TIRHUTA DIGIT
EIGHT/FIVE/FOUR/NINE/ONE/SEVEN/SIX/THREE/TWO/ZERO, TIRHUTA LETTER
A/AA/AI/AU/BA/BHA/CA/CHA/DA/DDA/DDHA/DHA/E/GA/GHA/HA/I/II/JA, TIRHUTA LETTER
JHA/KA/KHA/LA/MA/NA/NGA/NNA/NYA/O/PA/PHA/RA/SA/SHA/SSA/TA/THA, TIRHUTA LETTER
TTA/TTHA/U/UU/VA/YA, TIRHUTA LETTER VOCALIC L/LL/R/RR, TIRHUTA SIGN
ANUSVARA/AVAGRAHA/CANDRABINDU/NUKTA/VIRAMA/VISARGA, TIRHUTA VOWEL SIGN AA/AI/AU/E/I/II/O/U/UU,
TIRHUTA VOWEL SIGN SHORT E/O, TIRHUTA VOWEL SIGN VOCALIC L/LL/R/RR, TIRONIAN SIGN CAPITAL ET,
TIRONIAN SIGN ET, TOILET, TOKYO TOWER, TOMATO, TONGUE, TOOLBOX, TOOTH, TOOTHBRUSH, TOP ARC
ANTICLOCKWISE ARROW, TOP ARC ANTICLOCKWISE ARROW WITH PLUS, TOP ARC CLOCKWISE ARROW WITH MINUS,
TOP CURLY/SQUARE BRACKET, TOP HALF BLACK CIRCLE, TOP HALF INTEGRAL, TOP HALF LEFT/RIGHT
PARENTHESIS, TOP HALF SECTION SIGN, TOP HAT/PARENTHESIS, TOP LEFT/RIGHT CORNER/CROP, TOP
LEFT/RIGHT HALF BRACKET, TOP TORTOISE SHELL BRACKET, TOP WITH UPWARDS ARROW ABOVE, TORTOISE
SHELL BRACKETED CJK UNIFIED IDEOGRAPH-4E09/IDEOGRAPH-4E8C/IDEOGRAPH-52DD/IDEOGRAPH-5B89,
TORTOISE SHELL BRACKETED CJK UNIFIED
IDEOGRAPH-6253/IDEOGRAPH-6557/IDEOGRAPH-672C/IDEOGRAPH-70B9, TORTOISE SHELL BRACKETED CJK
UNIFIED IDEOGRAPH-76D7, TORTOISE SHELL BRACKETED LATIN CAPITAL LETTER S, TOTAL RUNOUT, TOTO
LETTER A/AE/BA/CHA/DA/E/EO/GA/HA/I/IU/JA/KA/LA/MA/NA/NGA/O/PA/RA/SA/TA, TOTO LETTER BREATHY
AE/E/EO/I/IU, TOTO LETTER U/WA/YA, TOTO SIGN RISING TONE, TRACKBALL, TRACTOR, TRADE MARK SIGN,
TRAIN, TRAM, TRAM CAR, TRANSPLUTO, TRANSVERSAL INTERSECTION, TRIANGLE WITH DOT ABOVE, TRIANGLE
WITH ROUNDED CORNERS, TRIANGLE WITH SERIFS AT BOTTOM, TRIANGLE WITH UNDERBAR, TRIANGLE-HEADED
RIGHTWARDS ARROW, TRIANGULAR BULLET/RULER, TRIANGULAR FLAG ON POST, TRICOLON, TRIDENT EMBLEM,
TRIGRAM FOR EARTH/FIRE/HEAVEN/LAKE/MOUNTAIN/THUNDER/WATER/WIND, TRIPLE COLON OPERATOR, TRIPLE
DAGGER/INTEGRAL/PLUS/PRIME/TILDE, TRIPLE HORIZONTAL BAR WITH DOUBLE/TRIPLE VERTICAL STROKE,
TRIPLE NESTED GREATER-THAN/LESS-THAN, TRIPLE SOLIDUS BINARY RELATION, TRIPLE VERTICAL BAR BINARY
RELATION, TRIPLE VERTICAL BAR DELIMITER, TRIPLE VERTICAL BAR RIGHT TURNSTILE, TRIPLE VERTICAL
BAR WITH HORIZONTAL STROKE, TROLL, TROLLEYBUS, TROPHY, TROPICAL DRINK/FISH, TRUE, TRUE LIGHT
MOON ARTA, TRUMPET, TUGRIK SIGN, TULIP, TUMBLER GLASS, TURKEY, TURKISH LIRA SIGN, TURNED
AMPERSAND/ANGLE/COMMA/DAGGER/SEMICOLON, TURNED BLACK PENTAGON, TURNED BLACK/WHITE SHOGI PIECE,
TURNED CAPITAL/SMALL F, TURNED DIGIT THREE/TWO, TURNED GREEK SMALL LETTER IOTA, TURNED
NORTH/SOUTH EAST/WEST POINTING LEAF, TURNED NOT SIGN, TURNED OK HAND SIGN, TURNED SANS-SERIF
CAPITAL G/L/Y, TURTLE, TWELVE POINTED BLACK STAR, TWISTED RIGHTWARDS ARROWS, TWO ASTERISKS
ALIGNED VERTICALLY, TWO BUTTON MOUSE, TWO CONSECUTIVE EQUALS SIGNS, TWO DOT LEADER/PUNCTUATION,
TWO DOTS OVER ONE DOT PUNCTUATION, TWO HEARTS, TWO INTERSECTING LOGICAL AND/OR, TWO JOINED
SQUARES, TWO LOGICAL AND/OR OPERATOR, TWO MEN/WOMEN HOLDING HANDS, TWO SPEECH BUBBLES, TWO-EM
DASH"),
  ('U', "
UGARITIC LETTER AIN/ALPA/BETA/DELTA/DHAL/GAMLA/GHAIN/HO/HOTA/I/KAF/KHA/LAMDA, UGARITIC LETTER
MEM/NUN/PU/QOPA/RASHA/SADE/SAMKA/SHIN/SSU/TET/THANNA/TO/U/WO, UGARITIC LETTER YOD/ZETA/ZU,
UGARITIC WORD DIVIDER, UMBRELLA, UMBRELLA ON GROUND, UMBRELLA WITH RAIN DROPS, UNAMUSED FACE,
UNCERTAINTY SIGN, UNDERTIE, UNDO SYMBOL, UNICORN FACE, UNION, UNION ABOVE BAR ABOVE
INTERSECTION, UNION ABOVE INTERSECTION, UNION BESIDE AND JOINED WITH UNION, UNION WITH LOGICAL
OR, UNION WITH MINUS SIGN, UNION WITH OVERBAR, UNIT SEPARATOR, UNITED SYMBOL, UNIVERSAL
RECYCLING SYMBOL, UNMARRIED PARTNERSHIP SYMBOL, UP ARROW THROUGH CIRCLE, UP ARROWHEAD BETWEEN
TWO HORIZONTAL BARS, UP ARROWHEAD IN A RECTANGLE BOX, UP ARROWHEAD/TACK, UP BARB LEFT/RIGHT DOWN
BARB LEFT/RIGHT HARPOON, UP DOWN ARROW, UP DOWN ARROW WITH BASE, UP DOWN
BLACK/DOUBLE/SANS-SERIF/TRIANGLE-HEADED/WHITE ARROW, UP FISH TAIL, UP RIGHT DIAGONAL ELLIPSIS,
UP TACK WITH CIRCLE ABOVE, UP-POINTING AIRPLANE, UP-POINTING MILITARY/SMALL AIRPLANE,
UP-POINTING RED TRIANGLE, UP-POINTING SMALL RED TRIANGLE, UP-POINTING TRIANGLE WITH LEFT/RIGHT
HALF BLACK, UPPER AND LEFT/RIGHT AND LOWER TRIANGULAR THREE QUARTERS BLOCK, UPPER AND LOWER ONE
EIGHTH BLOCK, UPPER AND LOWER TRIANGULAR HALF BLOCK, UPPER BLADE SCISSORS, UPPER
FIVE/SEVEN/THREE EIGHTHS BLOCK, UPPER HALF BLOCK AND LOWER HALF INVERSE MEDIUM SHADE, UPPER HALF
BLOCK/CIRCLE, UPPER HALF INVERSE MEDIUM SHADE AND LOWER HALF BLOCK, UPPER HALF INVERSE WHITE
CIRCLE, UPPER HALF MEDIUM SHADE, UPPER LEFT BLOCK DIAGONAL LOWER CENTRE TO UPPER RIGHT, UPPER
LEFT BLOCK DIAGONAL LOWER CENTRE/LEFT TO LOWER/UPPER MIDDLE RIGHT, UPPER LEFT BLOCK DIAGONAL
LOWER LEFT TO UPPER CENTRE, UPPER LEFT BLOCK DIAGONAL LOWER MIDDLE LEFT TO UPPER MIDDLE RIGHT,
UPPER LEFT BLOCK DIAGONAL LOWER/UPPER MIDDLE LEFT TO UPPER CENTRE/RIGHT, UPPER LEFT CORNER WITH
DOT, UPPER LEFT OR LOWER RIGHT CURLY BRACKET SECTION, UPPER LEFT TO LOWER RIGHT FILL, UPPER
LEFT/RIGHT QUADRANT CIRCULAR ARC, UPPER LEFT/RIGHT TRIANGLE, UPPER LEFT/RIGHT TRIANGULAR MEDIUM
SHADE, UPPER ONE EIGHTH/QUARTER BLOCK, UPPER RIGHT BLOCK DIAGONAL LOWER/UPPER MIDDLE LEFT TO
LOWER CENTRE/RIGHT, UPPER RIGHT BLOCK DIAGONAL UPPER CENTRE TO LOWER RIGHT, UPPER RIGHT BLOCK
DIAGONAL UPPER CENTRE/LEFT TO LOWER/UPPER MIDDLE RIGHT, UPPER RIGHT BLOCK DIAGONAL UPPER LEFT TO
LOWER CENTRE, UPPER RIGHT BLOCK DIAGONAL UPPER MIDDLE LEFT TO LOWER MIDDLE RIGHT, UPPER RIGHT
DROP-SHADOWED/SHADOWED WHITE SQUARE, UPPER RIGHT OR LOWER LEFT CURLY BRACKET SECTION, UPPER
RIGHT PENCIL, UPPER RIGHT SHADOWED WHITE CIRCLE, UPPER RIGHT TO LOWER LEFT FILL, UPPER THREE
QUARTERS BLOCK, UPPER TRIANGULAR ONE QUARTER BLOCK, UPSIDE-DOWN FACE, UPWARDS
ANCORA/ARROW/ROCKET, UPWARDS ARROW AND RIGHT ONE EIGHTH BLOCK, UPWARDS ARROW FROM/TO BAR,
UPWARDS ARROW LEFTWARDS OF DOWNWARDS ARROW, UPWARDS ARROW WITH DOUBLE/HORIZONTAL STROKE, UPWARDS
ARROW WITH EQUILATERAL ARROWHEAD, UPWARDS ARROW WITH LARGE/MEDIUM/SMALL TRIANGLE ARROWHEAD,
UPWARDS ARROW WITH NOTCHED TAIL, UPWARDS ARROW WITH SMALL EQUILATERAL ARROWHEAD, UPWARDS ARROW
WITH TIP LEFTWARDS/RIGHTWARDS, UPWARDS BLACK CIRCLED WHITE ARROW, UPWARDS
BLACK/COMPRESSED/DASHED/DOUBLE/FINGER-POST/HEAVY/QUADRUPLE ARROW, UPWARDS HARPOON WITH BARB LEFT
BESIDE DOWNWARDS/UPWARDS HARPOON WITH BARB RIGHT, UPWARDS HARPOON WITH BARB LEFT/RIGHT FROM/TO
BAR, UPWARDS HARPOON WITH BARB LEFTWARDS/RIGHTWARDS, UPWARDS HEAVY COMPRESSED ARROW, UPWARDS
PAIRED ARROWS, UPWARDS SANS-SERIF/SQUARED/TRIANGLE-HEADED/TRIPLE/WHITE ARROW, UPWARDS TRIANGLE
ARROWHEAD, UPWARDS TRIANGLE-HEADED ARROW LEFTWARDS OF DOWNWARDS TRIANGLE-HEADED ARROW, UPWARDS
TRIANGLE-HEADED ARROW TO BAR, UPWARDS TRIANGLE-HEADED ARROW WITH BOLD/HEAVY/MEDIUM/NARROW SHAFT,
UPWARDS TRIANGLE-HEADED ARROW WITH DOUBLE HORIZONTAL STROKE, UPWARDS TRIANGLE-HEADED ARROW WITH
LONG TIP LEFTWARDS/RIGHTWARDS, UPWARDS TRIANGLE-HEADED ARROW WITH VERY HEAVY SHAFT, UPWARDS
TRIANGLE-HEADED DASHED ARROW, UPWARDS TRIANGLE-HEADED PAIRED ARROWS, UPWARDS TWO HEADED ARROW,
UPWARDS TWO-HEADED ARROW FROM SMALL CIRCLE, UPWARDS TWO-HEADED ARROW WITH TRIANGLE ARROWHEADS,
UPWARDS WHITE ARROW FROM BAR, UPWARDS WHITE ARROW FROM BAR WITH HORIZONTAL BAR, UPWARDS WHITE
ARROW ON PEDESTAL, UPWARDS WHITE ARROW ON PEDESTAL WITH HORIZONTAL/VERTICAL BAR, UPWARDS WHITE
ARROW WITHIN TRIANGLE ARROWHEAD, UPWARDS WHITE DOUBLE ARROW, UPWARDS WHITE DOUBLE ARROW ON
PEDESTAL, URANUS, US"),
  ('V', "
VAI COMMA, VAI DIGIT EIGHT/FIVE/FOUR/NINE/ONE/SEVEN/SIX/THREE/TWO/ZERO, VAI FULL STOP, VAI
QUESTION MARK, VAI SYLLABLE A/AN/BA/BE/BEE/BHA/BHE/BHEE/BHI/BHO/BHOO/BHU/BI/BO/BOO/BU/CA/CE, VAI
SYLLABLE CEE/CI/CO/COO/CU/DA/DE/DEE/DHA/DHE/DHEE/DHHA/DHHE/DHHEE/DHHI, VAI SYLLABLE
DHHO/DHHOO/DHHU/DHI/DHO/DHOO/DHU/DI/DO/DOO/DU/E/EE/EEN/EN/FA/FE, VAI SYLLABLE
FEE/FI/FO/FOO/FU/GA/GBA/GBE/GBEE/GBEN/GBI/GBO/GBON/GBOO/GBU/GE, VAI SYLLABLE
GEE/GEN/GI/GO/GOO/GU/HA/HAN/HE/HEE/HEN/HI/HIN/HO/HON/HOO/HU/HUN, VAI SYLLABLE
I/IN/JA/JE/JEE/JI/JO/JOO/JU/KA/KAN/KE/KEE/KI/KO/KOO/KPA/KPAN, VAI SYLLABLE
KPE/KPEE/KPEN/KPI/KPO/KPOO/KPU/KU/LA/LE/LEE/LENGTHENER/LI/LO, VAI SYLLABLE
LOO/LU/MA/MBA/MBE/MBEE/MBI/MBO/MBOO/MBU/ME/MEE/MGBA/MGBE/MGBEE, VAI SYLLABLE
MGBI/MGBO/MGBOO/MGBU/MI/MO/MOO/MU/NA/NDA/NDE/NDEE/NDI/NDO/NDOO, VAI SYLLABLE NDOLE
DO/FA/KA/MA/SOO, VAI SYLLABLE NDU/NE/NEE/NG/NGAN/NGEN/NGGA/NGGE/NGGEE/NGGEN/NGGI/NGGO/NGGOO, VAI
SYLLABLE NGGU/NGON/NI/NJA/NJE/NJEE/NJI/NJO/NJOO/NJU/NO/NOO/NU/NYA/NYE, VAI SYLLABLE
NYEE/NYI/NYO/NYOO/NYU/O/ON/OO/OON/PA/PE/PEE/PI/PO/POO/PU/RA/RE, VAI SYLLABLE
REE/RI/RO/ROO/RU/SA/SE/SEE/SHA/SHE/SHEE/SHI/SHO/SHOO/SHU/SI/SO, VAI SYLLABLE
SOO/SU/TA/TE/TEE/THA/THE/THEE/THI/THO/THOO/THU/TI/TO/TOO/TU/U, VAI SYLLABLE
UN/VA/VE/VEE/VI/VO/VOO/VU/WA/WAN/WE/WEE/WEEN/WEN/WI/WIN/WO/WON, VAI SYLLABLE
WOO/WOON/WU/WUN/YA/YE/YEE/YI/YO/YOO/YU/ZA/ZE/ZEE/ZHA/ZHE/ZHEE, VAI SYLLABLE
ZHI/ZHO/ZHOO/ZHU/ZI/ZO/ZOO/ZU, VAI SYMBOL
BANG/DANG/DO-O/DOONG/FAA/FEENG/JONG/KEENG/KUNG/NII/TAA/TING, VAI SYMBOL TONG, VAMPIRE, VARIATION
SELECTOR-1/SELECTOR-10/SELECTOR-100/SELECTOR-101/SELECTOR-102, VARIATION
SELECTOR-103/SELECTOR-104/SELECTOR-105/SELECTOR-106, VARIATION
SELECTOR-107/SELECTOR-108/SELECTOR-109/SELECTOR-11/SELECTOR-110, VARIATION
SELECTOR-111/SELECTOR-112/SELECTOR-113/SELECTOR-114, VARIATION
SELECTOR-115/SELECTOR-116/SELECTOR-117/SELECTOR-118, VARIATION
SELECTOR-119/SELECTOR-12/SELECTOR-120/SELECTOR-121/SELECTOR-122, VARIATION
SELECTOR-123/SELECTOR-124/SELECTOR-125/SELECTOR-126, VARIATION
SELECTOR-127/SELECTOR-128/SELECTOR-129/SELECTOR-13/SELECTOR-130, VARIATION
SELECTOR-131/SELECTOR-132/SELECTOR-133/SELECTOR-134, VARIATION
SELECTOR-135/SELECTOR-136/SELECTOR-137/SELECTOR-138, VARIATION
SELECTOR-139/SELECTOR-14/SELECTOR-140/SELECTOR-141/SELECTOR-142, VARIATION
SELECTOR-143/SELECTOR-144/SELECTOR-145/SELECTOR-146, VARIATION
SELECTOR-147/SELECTOR-148/SELECTOR-149/SELECTOR-15/SELECTOR-150, VARIATION
SELECTOR-151/SELECTOR-152/SELECTOR-153/SELECTOR-154, VARIATION
SELECTOR-155/SELECTOR-156/SELECTOR-157/SELECTOR-158, VARIATION
SELECTOR-159/SELECTOR-16/SELECTOR-160/SELECTOR-161/SELECTOR-162, VARIATION
SELECTOR-163/SELECTOR-164/SELECTOR-165/SELECTOR-166, VARIATION
SELECTOR-167/SELECTOR-168/SELECTOR-169/SELECTOR-17/SELECTOR-170, VARIATION
SELECTOR-171/SELECTOR-172/SELECTOR-173/SELECTOR-174, VARIATION
SELECTOR-175/SELECTOR-176/SELECTOR-177/SELECTOR-178, VARIATION
SELECTOR-179/SELECTOR-18/SELECTOR-180/SELECTOR-181/SELECTOR-182, VARIATION
SELECTOR-183/SELECTOR-184/SELECTOR-185/SELECTOR-186, VARIATION
SELECTOR-187/SELECTOR-188/SELECTOR-189/SELECTOR-19/SELECTOR-190, VARIATION
SELECTOR-191/SELECTOR-192/SELECTOR-193/SELECTOR-194, VARIATION
SELECTOR-195/SELECTOR-196/SELECTOR-197/SELECTOR-198, VARIATION
SELECTOR-199/SELECTOR-2/SELECTOR-20/SELECTOR-200/SELECTOR-201, VARIATION
SELECTOR-202/SELECTOR-203/SELECTOR-204/SELECTOR-205, VARIATION
SELECTOR-206/SELECTOR-207/SELECTOR-208/SELECTOR-209/SELECTOR-21, VARIATION
SELECTOR-210/SELECTOR-211/SELECTOR-212/SELECTOR-213, VARIATION
SELECTOR-214/SELECTOR-215/SELECTOR-216/SELECTOR-217, VARIATION
SELECTOR-218/SELECTOR-219/SELECTOR-22/SELECTOR-220/SELECTOR-221, VARIATION
SELECTOR-222/SELECTOR-223/SELECTOR-224/SELECTOR-225, VARIATION
SELECTOR-226/SELECTOR-227/SELECTOR-228/SELECTOR-229/SELECTOR-23, VARIATION
SELECTOR-230/SELECTOR-231/SELECTOR-232/SELECTOR-233, VARIATION
SELECTOR-234/SELECTOR-235/SELECTOR-236/SELECTOR-237, VARIATION
SELECTOR-238/SELECTOR-239/SELECTOR-24/SELECTOR-240/SELECTOR-241, VARIATION
SELECTOR-242/SELECTOR-243/SELECTOR-244/SELECTOR-245, VARIATION
SELECTOR-246/SELECTOR-247/SELECTOR-248/SELECTOR-249/SELECTOR-25, VARIATION
SELECTOR-250/SELECTOR-251/SELECTOR-252/SELECTOR-253, VARIATION
SELECTOR-254/SELECTOR-255/SELECTOR-256/SELECTOR-26/SELECTOR-27, VARIATION
SELECTOR-28/SELECTOR-29/SELECTOR-3/SELECTOR-30/SELECTOR-31, VARIATION
SELECTOR-32/SELECTOR-33/SELECTOR-34/SELECTOR-35/SELECTOR-36, VARIATION
SELECTOR-37/SELECTOR-38/SELECTOR-39/SELECTOR-4/SELECTOR-40, VARIATION
SELECTOR-41/SELECTOR-42/SELECTOR-43/SELECTOR-44/SELECTOR-45, VARIATION
SELECTOR-46/SELECTOR-47/SELECTOR-48/SELECTOR-49/SELECTOR-5, VARIATION
SELECTOR-50/SELECTOR-51/SELECTOR-52/SELECTOR-53/SELECTOR-54, VARIATION
SELECTOR-55/SELECTOR-56/SELECTOR-57/SELECTOR-58/SELECTOR-59, VARIATION
SELECTOR-6/SELECTOR-60/SELECTOR-61/SELECTOR-62/SELECTOR-63, VARIATION
SELECTOR-64/SELECTOR-65/SELECTOR-66/SELECTOR-67/SELECTOR-68, VARIATION
SELECTOR-69/SELECTOR-7/SELECTOR-70/SELECTOR-71/SELECTOR-72, VARIATION
SELECTOR-73/SELECTOR-74/SELECTOR-75/SELECTOR-76/SELECTOR-77, VARIATION
SELECTOR-78/SELECTOR-79/SELECTOR-8/SELECTOR-80/SELECTOR-81, VARIATION
SELECTOR-82/SELECTOR-83/SELECTOR-84/SELECTOR-85/SELECTOR-86, VARIATION
SELECTOR-87/SELECTOR-88/SELECTOR-89/SELECTOR-9/SELECTOR-90, VARIATION
SELECTOR-91/SELECTOR-92/SELECTOR-93/SELECTOR-94/SELECTOR-95, VARIATION
SELECTOR-96/SELECTOR-97/SELECTOR-98/SELECTOR-99, VECTOR OR CROSS PRODUCT, VEDIC SIGN ANUSVARA
ANTARGOMUKHA/BAHIRGOMUKHA/VAMAGOMUKHA, VEDIC SIGN ANUSVARA UBHAYATO MUKHA, VEDIC SIGN ANUSVARA
VAMAGOMUKHA WITH TAIL, VEDIC SIGN
ARDHAVISARGA/ATIKRAMA/JIHVAMULIYA/NIHSHVASA/TIRYAK/UPADHMANIYA, VEDIC SIGN DOUBLE ANUSVARA
ANTARGOMUKHA, VEDIC SIGN HEXIFORM/RTHANG LONG ANUSVARA, VEDIC SIGN LONG ANUSVARA, VEDIC SIGN
REVERSED VISARGA ANUDATTA/UDATTA, VEDIC SIGN ROTATED ARDHAVISARGA, VEDIC SIGN VISARGA
ANUDATTA/SVARITA/UDATTA, VEDIC SIGN VISARGA ANUDATTA/UDATTA WITH TAIL, VEDIC SIGN YAJURVEDIC
MIDLINE SVARITA, VEDIC TONE ATHARVAVEDIC/YAJURVEDIC INDEPENDENT SVARITA, VEDIC TONE CANDRA/DOT
BELOW, VEDIC TONE CANDRA/RING ABOVE, VEDIC TONE DOUBLE RING ABOVE, VEDIC TONE DOUBLE/TRIPLE
SVARITA, VEDIC TONE KARSHANA/PRENKHA/SHARA, VEDIC TONE KATHAKA ANUDATTA, VEDIC TONE RIGVEDIC
KASHMIRI INDEPENDENT SVARITA, VEDIC TONE THREE/TWO DOTS BELOW, VEDIC TONE YAJURVEDIC
AGGRAVATED/KATHAKA INDEPENDENT SVARITA, VEDIC TONE YAJURVEDIC KATHAKA INDEPENDENT SVARITA
SCHROEDER, VERSICLE, VERTICAL BAR BESIDE RIGHT TRIANGLE, VERTICAL BAR DOUBLE LEFT TURNSTILE,
VERTICAL BAR TRIPLE RIGHT TURNSTILE, VERTICAL BAR WITH HORIZONTAL STROKE, VERTICAL
ELLIPSIS/LINE/TABULATION/TILDE, VERTICAL FOUR/SIX DOTS, VERTICAL IDEOGRAPHIC ITERATION MARK,
VERTICAL KANA REPEAT MARK, VERTICAL KANA REPEAT MARK LOWER/UPPER HALF, VERTICAL KANA REPEAT WITH
VOICED SOUND MARK, VERTICAL KANA REPEAT WITH VOICED SOUND MARK UPPER HALF, VERTICAL LINE
EXTENSION, VERTICAL LINE WITH CIRCLE ABOVE/BELOW, VERTICAL LINE WITH MIDDLE DOT, VERTICAL MALE
WITH STROKE SIGN, VERTICAL ONE EIGHTH BLOCK-2/BLOCK-3/BLOCK-4/BLOCK-5/BLOCK-6/BLOCK-7, VERTICAL
TAB KEY, VERTICAL TABULATION SET, VERTICAL TRAFFIC LIGHT, VERTICAL ZIGZAG LINE, VERY BOLD/HEAVY
GREEK CROSS, VERY HEAVY EIGHT POINTED BLACK STAR, VERY HEAVY EIGHT/FIVE/SIX SPOKED ASTERISK,
VERY HEAVY REVERSE SOLIDUS, VERY HEAVY SALTIRE/SOLIDUS, VERY HEAVY WHITE CIRCLE/SQUARE, VERY
MUCH GREATER-THAN/LESS-THAN, VESTA, VIBRATION MODE, VICTORY HAND, VIDEO CAMERA/GAME,
VIDEOCASSETTE, VIETNAMESE ALTERNATE READING MARK CA/NHAY, VIEWDATA SQUARE, VIOLIN, VIRGO,
VITHKUQI CAPITAL/SMALL LETTER A/BBE/BE/CE/CHE/DE/DHE/E/EI/FE/GA/HA/HHA/I/IJE/JE/KA/LA/LLA/ME,
VITHKUQI CAPITAL/SMALL LETTER NE/NJE/O/PE/QA/RE/SE/SHE/TE/THE/U/VE/XE/Y/ZE, VOIDED GREEK CROSS,
VOLCANO, VOLLEYBALL, VOLUME INTEGRAL, VS1, VS10, VS100, VS101, VS102, VS103, VS104, VS105,
VS106, VS107, VS108, VS109, VS11, VS110, VS111, VS112, VS113, VS114, VS115, VS116, VS117, VS118,
VS119, VS12, VS120, VS121, VS122, VS123, VS124, VS125, VS126, VS127, VS128, VS129, VS13, VS130,
VS131, VS132, VS133, VS134, VS135, VS136, VS137, VS138, VS139, VS14, VS140, VS141, VS142, VS143,
VS144, VS145, VS146, VS147, VS148, VS149, VS15, VS150, VS151, VS152, VS153, VS154, VS155, VS156,
VS157, VS158, VS159, VS16, VS160, VS161, VS162, VS163, VS164, VS165, VS166, VS167, VS168, VS169,
VS17, VS170, VS171, VS172, VS173, VS174, VS175, VS176, VS177, VS178, VS179, VS18, VS180, VS181,
VS182, VS183, VS184, VS185, VS186, VS187, VS188, VS189, VS19, VS190, VS191, VS192, VS193, VS194,
VS195, VS196, VS197, VS198, VS199, VS2, VS20, VS200, VS201, VS202, VS203, VS204, VS205, VS206,
VS207, VS208, VS209, VS21, VS210, VS211, VS212, VS213, VS214, VS215, VS216, VS217, VS218, VS219,
VS22, VS220, VS221, VS222, VS223, VS224, VS225, VS226, VS227, VS228, VS229, VS23, VS230, VS231,
VS232, VS233, VS234, VS235, VS236, VS237, VS238, VS239, VS24, VS240, VS241, VS242, VS243, VS244,
VS245, VS246, VS247, VS248, VS249, VS25, VS250, VS251, VS252, VS253, VS254, VS255, VS256, VS26,
VS27, VS28, VS29, VS3, VS30, VS31, VS32, VS33, VS34, VS35, VS36, VS37, VS38, VS39, VS4, VS40,
VS41, VS42, VS43, VS44, VS45, VS46, VS47, VS48, VS49, VS5, VS50, VS51, VS52, VS53, VS54, VS55,
VS56, VS57, VS58, VS59, VS6, VS60, VS61, VS62, VS63, VS64, VS65, VS66, VS67, VS68, VS69, VS7,
VS70, VS71, VS72, VS73, VS74, VS75, VS76, VS77, VS78, VS79, VS8, VS80, VS81, VS82, VS83, VS84,
VS85, VS86, VS87, VS88, VS89, VS9, VS90, VS91, VS92, VS93, VS94, VS95, VS96, VS97, VS98, VS99,
VT, VTS, VULCANUS, VULGAR FRACTION FIVE SIXTHS, VULGAR FRACTION FIVE/SEVEN/THREE EIGHTHS, VULGAR
FRACTION FOUR/THREE/TWO FIFTHS, VULGAR FRACTION ONE
EIGHTH/FIFTH/HALF/NINTH/QUARTER/SEVENTH/SIXTH/TENTH/THIRD, VULGAR FRACTION THREE QUARTERS,
VULGAR FRACTION TWO/ZERO THIRDS"),
  ('W', "
WAFFLE, WANCHO DIGIT EIGHT/FIVE/FOUR/NINE/ONE/SEVEN/SIX/THREE/TWO/ZERO, WANCHO LETTER
A/AA/AAN/AANG/ANG/AU/BA/CA/DA/E/EN/FA/GA/HA/I/ING/JA/KA/KHA/LA, WANCHO LETTER
LLHA/MA/NA/NGA/NYA/O/ON/ONG/PA/PHA/RA/SA/SHA/TA/THA/TRA/TSA/U, WANCHO LETTER
UEN/VA/WA/YA/YIH/ZA, WANCHO NGUN SIGN, WANCHO TONE KOI/KOINI/TUP/TUPNI, WANING CRESCENT/GIBBOUS
MOON SYMBOL, WARANG CITI CAPITAL/SMALL LETTER
A/AM/ANG/AT/BU/DA/E/ENN/ENY/GA/HAR/HIYO/HOLO/HORR/II/KO/NGAA, WARANG CITI CAPITAL/SMALL LETTER
NUNG/O/ODD/PU/SII/SSUU/TTE/UC/UU/VIYO/WI/YA/YO/YU/YUJ, WARANG CITI DIGIT
EIGHT/FIVE/FOUR/NINE/ONE/SEVEN/SIX/THREE/TWO/ZERO, WARANG CITI NUMBER
EIGHTY/FIFTY/FORTY/NINETY/SEVENTY/SIXTY/TEN/THIRTY/TWENTY, WARANG CITI OM, WARNING SIGN,
WASTEBASKET, WATCH, WATER BUFFALO/CLOSET/POLO/WAVE, WATERMELON, WAVE ARROW POINTING DIRECTLY
LEFT/RIGHT, WAVE DASH, WAVING BLACK/WHITE FLAG, WAVING HAND SIGN, WAVY DASH/LINE/OVERLINE, WAVY
LOW LINE, WAXING CRESCENT/GIBBOUS MOON SYMBOL, WEARY CAT FACE, WEARY FACE, WEDDING, WEDGE-TAILED
RIGHTWARDS ARROW, WEIERSTRASS ELLIPTIC FUNCTION, WEIGHT LIFTER, WEST SYRIAC CROSS, WHALE, WHEEL,
WHEEL OF DHARMA, WHEELCHAIR SYMBOL, WHITE ARROW SHAFT WIDTH ONE, WHITE ARROW SHAFT WIDTH TWO
THIRDS, WHITE BULLET/CIRCLE/DIAMOND/FLAG/FLORETTE/FLOWER/HEART/HEXAGON, WHITE CHESS
BISHOP/EQUIHOPPER/KING/KNIGHT/PAWN/QUEEN/ROOK ROTATED NINETY DEGREES, WHITE CHESS
BISHOP/EQUIHOPPER/KNIGHT/KNIGHT-BISHOP/KNIGHT-QUEEN/KNIGHT-ROOK, WHITE CHESS
BISHOP/KING/KNIGHT/PAWN/QUEEN/ROOK ROTATED TWO HUNDRED SEVENTY DEGREES, WHITE CHESS KNIGHT
ROTATED FORTY-FIVE DEGREES, WHITE CHESS KNIGHT ROTATED ONE HUNDRED THIRTY-FIVE DEGREES, WHITE
CHESS KNIGHT ROTATED THREE HUNDRED FIFTEEN DEGREES, WHITE CHESS KNIGHT ROTATED TWO HUNDRED
TWENTY-FIVE DEGREES, WHITE CHESS PAWN/QUEEN/ROOK, WHITE CHESS TURNED
BISHOP/KING/KNIGHT/PAWN/QUEEN/ROOK, WHITE CHESS/DRAUGHTS KING, WHITE CIRCLE CONTAINING BLACK
SMALL CIRCLE, WHITE CIRCLE WITH DOT RIGHT, WHITE CIRCLE WITH DOWN ARROW, WHITE CIRCLE WITH TWO
DOTS, WHITE CIRCLE/SQUARE WITH LOWER/UPPER LEFT/RIGHT QUADRANT, WHITE CLUB/DIAMOND/HEART/SPADE
SUIT, WHITE CONCAVE-SIDED DIAMOND WITH LEFTWARDS/RIGHTWARDS TICK, WHITE CONCAVE-SIDED/MEDIUM
DIAMOND, WHITE DIAMOND CONTAINING BLACK MEDIUM/SMALL DIAMOND, WHITE DIAMOND CONTAINING BLACK
VERY SMALL DIAMOND, WHITE DIAMOND IN SQUARE, WHITE DIAMOND WITH CENTRED DOT, WHITE DOWN POINTING
LEFT HAND INDEX, WHITE DOWN-POINTING/LEFT-POINTING/RIGHT-POINTING/UP-POINTING SMALL TRIANGLE,
WHITE DOWN-POINTING/LEFT-POINTING/RIGHT-POINTING/UP-POINTING TRIANGLE, WHITE DOWN/LEFT/RIGHT/UP
POINTING BACKHAND INDEX, WHITE DOWN/LEFT/RIGHT/UP POINTING INDEX, WHITE DRAUGHTS MAN, WHITE
EXCLAMATION/QUESTION MARK ORNAMENT, WHITE FLAG WITH HORIZONTAL MIDDLE BLACK STRIPE, WHITE FOUR
POINTED CUSP/STAR, WHITE FROWNING/SMILING FACE, WHITE HARD SHELL FLOPPY DISK, WHITE HEAVY CHECK
MARK, WHITE HEAVY SALTIRE WITH ROUNDED CORNERS, WHITE HORIZONTAL/VERTICAL ELLIPSE, WHITE
HOURGLASS/NIB/PARALLELOGRAM/PENNANT/PENTAGON/RECTANGLE/SCISSORS, WHITE LARGE/MEDIUM/SMALL
SQUARE, WHITE LATIN CROSS, WHITE LEFT LANE MERGE, WHITE LEFT-POINTING/RIGHT-POINTING POINTER,
WHITE LOZENGE CONTAINING BLACK SMALL LOZENGE, WHITE MEDIUM/SMALL LOZENGE/STAR, WHITE MEDIUM/VERY
SMALL SQUARE, WHITE MOON SELENA, WHITE RIGHT-POINTING PENTAGON, WHITE SESAME DOT, WHITE SHOGI
PIECE, WHITE SQUARE BUTTON, WHITE SQUARE CONTAINING BLACK MEDIUM/SMALL SQUARE, WHITE SQUARE
CONTAINING BLACK VERY SMALL SQUARE, WHITE SQUARE WITH CENTRE VERTICAL LINE, WHITE SQUARE WITH
LEFTWARDS/RIGHTWARDS TICK, WHITE SQUARE WITH ROUNDED CORNERS, WHITE SQUARE WITH VERTICAL
BISECTING LINE, WHITE SQUARE/STAR/SUN/TELEPHONE/TRAPEZIUM, WHITE SUN BEHIND CLOUD, WHITE SUN
BEHIND CLOUD WITH RAIN, WHITE SUN WITH RAYS, WHITE SUN WITH SMALL CLOUD, WHITE TOUCHTONE
TELEPHONE, WHITE TRIANGLE CONTAINING SMALL WHITE TRIANGLE, WHITE TWO-WAY LEFT WAY TRAFFIC, WHITE
UP-POINTING CHEVRON, WHITE UP-POINTING TRIANGLE WITH DOT, WHITE VERTICAL BAR/RECTANGLE,
WHITE-FEATHERED RIGHTWARDS ARROW, WIDE-HEADED DOWNWARDS/LEFTWARDS/RIGHTWARDS/UPWARDS BARB ARROW,
WIDE-HEADED DOWNWARDS/LEFTWARDS/RIGHTWARDS/UPWARDS HEAVY/LIGHT/MEDIUM BARB ARROW, WIDE-HEADED
DOWNWARDS/LEFTWARDS/RIGHTWARDS/UPWARDS VERY HEAVY BARB ARROW, WIDE-HEADED NORTH/SOUTH EAST/WEST
BARB ARROW, WIDE-HEADED NORTH/SOUTH EAST/WEST HEAVY/LIGHT/MEDIUM BARB ARROW, WIDE-HEADED
NORTH/SOUTH EAST/WEST VERY HEAVY BARB ARROW, WIGGLY VERTICAL LINE, WILTED FLOWER, WIND BLOWING
FACE, WIND CHIME, WINDOW, WINE GLASS, WINKING FACE, WIRED KEYBOARD, WJ, WOLF FACE, WOMAN, WOMAN
WITH BUNNY EARS, WOMANS BOOTS/CLOTHES/HAT/SANDAL, WOMENS SYMBOL, WON SIGN, WOOD, WORD JOINER,
WORD SEPARATOR MIDDLE DOT, WORLD MAP, WORM, WORRIED FACE, WRAPPED PRESENT, WREATH PRODUCT,
WRENCH, WRESTLERS, WRITING HAND"),
  ('X', "
X IN A RECTANGLE BOX, X-RAY, XIANGQI BLACK/RED
CANNON/CHARIOT/ELEPHANT/GENERAL/HORSE/MANDARIN/SOLDIER, XOR"),
  ('Y', "
YAWNING FACE, YELLOW HEART, YEN SIGN, YEZIDI COMBINING HAMZA/MADDA MARK, YEZIDI HYPHENATION
MARK, YEZIDI LETTER BE/CHHIM/CHIM/CIM/DAD/DAL/ELIF/ET/EW/EYN/FA/GAF/HAY/HHA/JA/KAF, YEZIDI
LETTER KHAF/LAM/MIM/NUN/OW/PE/PHE/QAF/RA/RHA/SAD/SE/SHIN/SIN/TA/THE/UM, YEZIDI LETTER LAM WITH
DOT ABOVE, YEZIDI LETTER VA ALTERNATE FORM, YEZIDI LETTER VA/WAW/XA/XHEYN/YOT/ZA/ZAL/ZE, YEZIDI
LETTER YOT WITH CIRCUMFLEX ABOVE, YI RADICAL/SYLLABLE
BBUT/BUR/CHE/CIP/CUOP/CY/CYP/CYT/DDUR/DU/GA/GEP/GGOP/GGUO/GOT, YI RADICAL/SYLLABLE
HMO/HXIT/HXOP/HXUO/JJIE/JJUT/JJY/JO/KE/KIT/LI/LIE/LYR/MI/MOP, YI RADICAL/SYLLABLE
NBIE/NYIP/NYOP/NZUP/OP/PUT/PYT/QOT/SHAT/SHOP/SHUR/SHY/SSI/TAT, YI RADICAL/SYLLABLE
TU/VEP/VUR/WO/YIT/YO/ZA/ZOT/ZUP/ZUR/ZZIET, YI SYLLABLE
A/AP/AT/AX/BA/BAP/BAT/BAX/BBA/BBAP/BBAT/BBAX/BBE/BBEP/BBEX/BBI, YI SYLLABLE
BBIE/BBIEP/BBIET/BBIEX/BBIP/BBIT/BBIX/BBO/BBOP/BBOT/BBOX/BBU, YI SYLLABLE
BBUO/BBUOP/BBUOX/BBUP/BBUR/BBURX/BBUX/BBY/BBYP/BBYT/BBYX/BE/BEP, YI SYLLABLE
BEX/BI/BIE/BIEP/BIET/BIEX/BIP/BIT/BIX/BO/BOP/BOT/BOX/BU/BUO, YI SYLLABLE
BUOP/BUOX/BUP/BURX/BUT/BUX/BY/BYP/BYR/BYRX/BYT/BYX/CA/CAP/CAT, YI SYLLABLE
CAX/CE/CEP/CEX/CHA/CHAP/CHAT/CHAX/CHEP/CHET/CHEX/CHO/CHOP/CHOT, YI SYLLABLE
CHOX/CHU/CHUO/CHUOP/CHUOT/CHUOX/CHUP/CHUR/CHURX/CHUX/CHY/CHYP, YI SYLLABLE
CHYR/CHYRX/CHYT/CHYX/CI/CIE/CIEP/CIET/CIEX/CIT/CIX/CO/COP/COT, YI SYLLABLE
COX/CU/CUO/CUOX/CUP/CUR/CURX/CUT/CUX/CYR/CYRX/CYX/DA/DAP/DAT, YI SYLLABLE
DAX/DDA/DDAP/DDAT/DDAX/DDE/DDEP/DDEX/DDI/DDIE/DDIEP/DDIEX/DDIP, YI SYLLABLE
DDIT/DDIX/DDO/DDOP/DDOT/DDOX/DDU/DDUO/DDUOP/DDUOX/DDUP/DDURX, YI SYLLABLE
DDUT/DDUX/DE/DEP/DEX/DI/DIE/DIEP/DIEX/DIP/DIT/DIX/DO/DOP/DOT, YI SYLLABLE
DOX/DUO/DUOX/DUP/DUR/DURX/DUT/DUX/E/EX/FA/FAP/FAT/FAX/FI/FIP, YI SYLLABLE
FIT/FIX/FO/FOP/FOX/FU/FUP/FUR/FURX/FUT/FUX/FY/FYP/FYT/FYX/GAP, YI SYLLABLE
GAT/GAX/GE/GET/GEX/GGA/GGAP/GGAT/GGAX/GGE/GGEP/GGET/GGEX/GGI, YI SYLLABLE
GGIE/GGIEP/GGIEX/GGIT/GGIX/GGO/GGOT/GGOX/GGU/GGUOP/GGUOT/GGUOX, YI SYLLABLE
GGUP/GGUR/GGURX/GGUT/GGUX/GI/GIE/GIEP/GIET/GIEX/GIP/GIT/GIX/GO, YI SYLLABLE
GOP/GOX/GU/GUO/GUOP/GUOT/GUOX/GUP/GUR/GURX/GUT/GUX/HA/HAP/HAT, YI SYLLABLE
HAX/HE/HEP/HEX/HIE/HIEX/HIT/HLA/HLAP/HLAT/HLAX/HLE/HLEP/HLEX, YI SYLLABLE
HLI/HLIE/HLIEP/HLIEX/HLIP/HLIT/HLIX/HLO/HLOP/HLOX/HLU/HLUO, YI SYLLABLE
HLUOP/HLUOX/HLUP/HLUR/HLURX/HLUT/HLUX/HLY/HLYP/HLYR/HLYRX/HLYT, YI SYLLABLE
HLYX/HMA/HMAP/HMAT/HMAX/HMI/HMIE/HMIEP/HMIEX/HMIP/HMIT/HMIX, YI SYLLABLE
HMOP/HMOT/HMOX/HMU/HMUO/HMUOP/HMUOX/HMUP/HMUR/HMURX/HMUT/HMUX, YI SYLLABLE
HMY/HMYP/HMYR/HMYRX/HMYX/HNA/HNAP/HNAT/HNAX/HNE/HNEP/HNEX/HNI, YI SYLLABLE
HNIE/HNIEP/HNIET/HNIEX/HNIP/HNIT/HNIX/HNOP/HNOT/HNOX/HNUO/HNUOX, YI SYLLABLE
HNUT/HO/HOP/HOT/HOX/HUO/HUOP/HUOT/HUOX/HXA/HXAP/HXAT/HXAX/HXE, YI SYLLABLE
HXEP/HXEX/HXI/HXIE/HXIEP/HXIET/HXIEX/HXIP/HXIX/HXO/HXOT/HXOX, YI SYLLABLE
HXUOP/HXUOT/HXUOX/I/IE/IEP/IET/IEX/IP/IT/IX/JI/JIE/JIEP/JIET, YI SYLLABLE ITERATION MARK, YI
SYLLABLE JIEX/JIP/JIT/JIX/JJI/JJIEP/JJIET/JJIEX/JJIP/JJIT/JJIX/JJO/JJOP, YI SYLLABLE
JJOT/JJOX/JJU/JJUO/JJUOP/JJUOX/JJUP/JJUR/JJURX/JJUX/JJYP/JJYT, YI SYLLABLE
JJYX/JOP/JOT/JOX/JU/JUO/JUOP/JUOT/JUOX/JUP/JUR/JURX/JUT/JUX/JY, YI SYLLABLE
JYP/JYR/JYRX/JYT/JYX/KA/KAP/KAT/KAX/KEP/KET/KEX/KI/KIE/KIEP, YI SYLLABLE
KIEX/KIP/KIX/KO/KOP/KOT/KOX/KU/KUO/KUOP/KUOX/KUP/KUR/KURX/KUT, YI SYLLABLE
KUX/LA/LAP/LAT/LAX/LE/LEP/LEX/LIEP/LIET/LIEX/LIP/LIT/LIX/LO/LOP, YI SYLLABLE
LOT/LOX/LU/LUO/LUOP/LUOT/LUOX/LUP/LUR/LURX/LUT/LUX/LY/LYP/LYRX, YI SYLLABLE
LYT/LYX/MA/MAP/MAT/MAX/ME/MEX/MGA/MGAP/MGAT/MGAX/MGE/MGEP/MGEX, YI SYLLABLE
MGIE/MGIEX/MGO/MGOP/MGOT/MGOX/MGU/MGUO/MGUOP/MGUOX/MGUP/MGUR, YI SYLLABLE
MGURX/MGUT/MGUX/MIE/MIEP/MIEX/MIP/MIT/MIX/MO/MOT/MOX/MU/MUO, YI SYLLABLE
MUOP/MUOT/MUOX/MUP/MUR/MURX/MUT/MUX/MY/MYP/MYT/MYX/NA/NAP/NAX, YI SYLLABLE
NBA/NBAP/NBAT/NBAX/NBI/NBIEP/NBIEX/NBIP/NBIT/NBIX/NBO/NBOP/NBOT, YI SYLLABLE
NBOX/NBU/NBUP/NBUR/NBURX/NBUT/NBUX/NBY/NBYP/NBYR/NBYRX/NBYT, YI SYLLABLE
NBYX/NDA/NDAP/NDAT/NDAX/NDE/NDEP/NDEX/NDI/NDIE/NDIEX/NDIP/NDIT, YI SYLLABLE
NDIX/NDO/NDOP/NDOT/NDOX/NDU/NDUP/NDUR/NDURX/NDUT/NDUX/NE/NEP, YI SYLLABLE
NEX/NGA/NGAP/NGAT/NGAX/NGE/NGEP/NGEX/NGIE/NGIEP/NGIEX/NGO/NGOP, YI SYLLABLE
NGOT/NGOX/NGUO/NGUOT/NGUOX/NI/NIE/NIEP/NIEX/NIP/NIT/NIX/NJI, YI SYLLABLE
NJIE/NJIEP/NJIET/NJIEX/NJIP/NJIT/NJIX/NJO/NJOP/NJOT/NJOX/NJU, YI SYLLABLE
NJUO/NJUOX/NJUP/NJUR/NJURX/NJUX/NJY/NJYP/NJYR/NJYRX/NJYT/NJYX, YI SYLLABLE
NO/NOP/NOT/NOX/NRA/NRAP/NRAT/NRAX/NRE/NREP/NRET/NREX/NRO/NROP, YI SYLLABLE
NROX/NRU/NRUP/NRUR/NRURX/NRUT/NRUX/NRY/NRYP/NRYR/NRYRX/NRYT, YI SYLLABLE
NRYX/NU/NUO/NUOP/NUOX/NUP/NUR/NURX/NUT/NUX/NYI/NYIE/NYIEP/NYIET, YI SYLLABLE
NYIEX/NYIT/NYIX/NYO/NYOT/NYOX/NYU/NYUO/NYUOP/NYUOX/NYUP/NYUT, YI SYLLABLE
NYUX/NZA/NZAP/NZAT/NZAX/NZE/NZEX/NZI/NZIE/NZIEP/NZIEX/NZIP/NZIT, YI SYLLABLE
NZIX/NZOP/NZOX/NZU/NZUO/NZUOX/NZUR/NZURX/NZUX/NZY/NZYP/NZYR, YI SYLLABLE
NZYRX/NZYT/NZYX/O/OT/OX/PA/PAP/PAT/PAX/PI/PIE/PIEP/PIEX/PIP/PIT, YI SYLLABLE
PIX/PO/POP/POT/POX/PU/PUO/PUOP/PUOX/PUP/PUR/PURX/PUX/PY/PYP/PYR, YI SYLLABLE
PYRX/PYX/QI/QIE/QIEP/QIET/QIEX/QIP/QIT/QIX/QO/QOP/QOX/QU/QUO, YI SYLLABLE
QUOP/QUOT/QUOX/QUP/QUR/QURX/QUT/QUX/QY/QYP/QYR/QYRX/QYT/QYX/RA, YI SYLLABLE
RAP/RAT/RAX/RE/REP/REX/RO/ROP/ROT/ROX/RRA/RRAX/RRE/RREP/RRET, YI SYLLABLE
RREX/RRO/RROP/RROT/RROX/RRU/RRUO/RRUOX/RRUP/RRUR/RRURX/RRUT, YI SYLLABLE
RRUX/RRY/RRYP/RRYR/RRYRX/RRYT/RRYX/RU/RUO/RUOP/RUOX/RUP/RUR, YI SYLLABLE
RURX/RUT/RUX/RY/RYP/RYR/RYRX/RYT/RYX/SA/SAP/SAT/SAX/SE/SEP/SEX, YI SYLLABLE
SHA/SHAP/SHAX/SHE/SHEP/SHET/SHEX/SHO/SHOT/SHOX/SHU/SHUO/SHUOP, YI SYLLABLE
SHUOX/SHUP/SHURX/SHUT/SHUX/SHYP/SHYR/SHYRX/SHYT/SHYX/SI/SIE, YI SYLLABLE
SIEP/SIEX/SIP/SIT/SIX/SO/SOP/SOT/SOX/SSA/SSAP/SSAT/SSAX/SSE, YI SYLLABLE
SSEP/SSEX/SSIE/SSIEP/SSIEX/SSIP/SSIT/SSIX/SSO/SSOP/SSOT/SSOX, YI SYLLABLE
SSU/SSUP/SSUT/SSUX/SSY/SSYP/SSYR/SSYRX/SSYT/SSYX/SU/SUO/SUOP, YI SYLLABLE
SUOX/SUP/SUR/SURX/SUT/SUX/SY/SYP/SYR/SYRX/SYT/SYX/TA/TAP/TAX/TE, YI SYLLABLE
TEP/TEX/TI/TIE/TIEP/TIEX/TIP/TIT/TIX/TO/TOP/TOT/TOX/TUO/TUOP, YI SYLLABLE
TUOT/TUOX/TUP/TUR/TURX/TUT/TUX/UO/UOP/UOX/VA/VAP/VAT/VAX/VEX/VI, YI SYLLABLE
VIE/VIEP/VIET/VIEX/VIP/VIT/VIX/VO/VOP/VOT/VOX/VU/VUP/VURX/VUT, YI SYLLABLE
VUX/VY/VYP/VYR/VYRX/VYT/VYX/WA/WAP/WAT/WAX/WE/WEP/WEX/WOP/WOX, YI SYLLABLE
WU/WUO/WUOP/WUOX/XI/XIE/XIEP/XIET/XIEX/XIP/XIT/XIX/XO/XOP/XOT, YI SYLLABLE
XOX/XUO/XUOX/XY/XYP/XYR/XYRX/XYT/XYX/YI/YIE/YIEP/YIET/YIEX/YIP, YI SYLLABLE
YIX/YOP/YOT/YOX/YU/YUO/YUOP/YUOT/YUOX/YUP/YUR/YURX/YUT/YUX/YY, YI SYLLABLE
YYP/YYR/YYRX/YYT/YYX/ZAP/ZAT/ZAX/ZE/ZEP/ZEX/ZHA/ZHAP/ZHAT/ZHAX, YI SYLLABLE
ZHE/ZHEP/ZHET/ZHEX/ZHO/ZHOP/ZHOT/ZHOX/ZHU/ZHUO/ZHUOP/ZHUOX/ZHUP, YI SYLLABLE
ZHUR/ZHURX/ZHUT/ZHUX/ZHY/ZHYP/ZHYR/ZHYRX/ZHYT/ZHYX/ZI/ZIE/ZIEP, YI SYLLABLE
ZIEX/ZIP/ZIT/ZIX/ZO/ZOP/ZOX/ZU/ZUO/ZUOP/ZUOX/ZURX/ZUT/ZUX/ZY, YI SYLLABLE
ZYP/ZYR/ZYRX/ZYT/ZYX/ZZA/ZZAP/ZZAT/ZZAX/ZZE/ZZEP/ZZEX/ZZI/ZZIE, YI SYLLABLE
ZZIEP/ZZIEX/ZZIP/ZZIT/ZZIX/ZZO/ZZOP/ZZOX/ZZU/ZZUP/ZZUR/ZZURX, YI SYLLABLE
ZZUX/ZZY/ZZYP/ZZYR/ZZYRX/ZZYT/ZZYX, YIN YANG, YO-YO"),
  ('Z', "
Z NOTATION BAG MEMBERSHIP, Z NOTATION DOMAIN/RANGE ANTIRESTRICTION, Z NOTATION LEFT/RIGHT
BINDING/IMAGE BRACKET, Z NOTATION RELATIONAL/SCHEMA COMPOSITION, Z NOTATION SCHEMA
PIPING/PROJECTION, Z NOTATION SPOT, Z NOTATION TYPE COLON, ZANABAZAR SQUARE CLOSING/INITIAL
DOUBLE-LINED HEAD MARK, ZANABAZAR SQUARE CLOSING/INITIAL HEAD MARK, ZANABAZAR SQUARE
CLUSTER-FINAL LETTER LA/VA/YA, ZANABAZAR SQUARE CLUSTER-FINAL/CLUSTER-INITIAL LETTER RA,
ZANABAZAR SQUARE FINAL CONSONANT MARK, ZANABAZAR SQUARE LETTER
-A/A/BA/BHA/CA/CHA/DA/DDA/DDHA/DHA/DZA/DZHA/GA/GHA/HA/JA/KA/KHA, ZANABAZAR SQUARE LETTER
KSSA/LA/MA/NA/NGA/NNA/NYA/PA/PHA/RA/SA/SHA/SSA/TA/THA/TSA/TSHA, ZANABAZAR SQUARE LETTER
TTA/TTHA/VA/YA/ZA/ZHA, ZANABAZAR SQUARE MARK DOUBLE SHAD, ZANABAZAR SQUARE MARK LONG TSHEG,
ZANABAZAR SQUARE MARK SHAD/TSHEG, ZANABAZAR SQUARE SIGN ANUSVARA/CANDRABINDU/VIRAMA/VISARGA,
ZANABAZAR SQUARE SIGN CANDRA/CANDRABINDU WITH ORNAMENT, ZANABAZAR SQUARE SUBJOINER, ZANABAZAR
SQUARE VOWEL LENGTH MARK, ZANABAZAR SQUARE VOWEL SIGN AI/AU/E/I/O/OE/U/UE, ZANABAZAR SQUARE
VOWEL SIGN REVERSED I, ZEBRA FACE, ZERO WIDTH JOINER/NON-JOINER/SPACE, ZERO WIDTH NO-BREAK
SPACE, ZEUS, ZIPPER-MOUTH FACE, ZNAMENNY COMBINING ATTACHING VERTICAL OMET, ZNAMENNY COMBINING
LOWER TONAL RANGE INDICATOR, ZNAMENNY COMBINING MARK
BORZAYA/CHASHKA/DVOETOCHIE/KACHKA/KRYZH/KUPNAYA/LOMKA/OBLACHKO, ZNAMENNY COMBINING MARK CHASHKA
POLNAYA, ZNAMENNY COMBINING MARK CURVED OMET, ZNAMENNY COMBINING MARK DEMESTVENNY ZADERZHKA,
ZNAMENNY COMBINING MARK GORAZDO NIZKO ON LEFT/RIGHT, ZNAMENNY COMBINING MARK GORAZDO NIZKO S
KRYZHEM ON LEFT/RIGHT, ZNAMENNY COMBINING MARK GORAZDO VYSOKO, ZNAMENNY COMBINING MARK
KRYZH/NIZKO/POVYSHE/SREDNE/TSATA/VYSOKO ON LEFT, ZNAMENNY COMBINING MARK MALO POVYSHE ON
LEFT/RIGHT, ZNAMENNY COMBINING MARK MALO POVYSHE S KHOKHLOM ON LEFT/RIGHT, ZNAMENNY COMBINING
MARK MALO POVYSHE S KRYZHEM, ZNAMENNY COMBINING MARK MALO POVYSHE STRANNO, ZNAMENNY COMBINING
MARK NIZKO S KRYZHEM ON LEFT/RIGHT, ZNAMENNY COMBINING MARK NIZKO/POVYSHE/SREDNE/TSATA/VYSOKO ON
RIGHT, ZNAMENNY COMBINING MARK ON/OTSECHKA/PODCHASHIE/PODVERTKA/RAVNO/RAZSEKA/SKOBA/TIKHAYA,
ZNAMENNY COMBINING MARK PODCHASHIE WITH VERTICAL STROKE, ZNAMENNY COMBINING MARK POVYSHE
STRANNO, ZNAMENNY COMBINING MARK POVYSHE/TSATA/VYSOKO S KRYZHEM, ZNAMENNY COMBINING MARK
POVYSHE/VYSOKO S KHOKHLOM ON LEFT/RIGHT, ZNAMENNY COMBINING MARK SOROCHYA NOZHKA, ZNAMENNY
COMBINING MARK STRANNO MALO POVYSHE, ZNAMENNY COMBINING MARK TOCHKA/UDARKA/ZADERZHKA/ZELO/ZEVOK,
ZNAMENNY COMBINING TONAL RANGE MARK MRACHNO/SVETLO/TRESVETLO, ZNAMENNY NEUME
CHASHKA/CHELYUSTKA/DERBITSA/DUDA/FITA/KHAMILO/KLYUCH/KOBYLA, ZNAMENNY NEUME DEMESTVENNY KLYUCH,
ZNAMENNY NEUME DOUBLE ZAPYATAYA, ZNAMENNY NEUME DVA V CHELNU, ZNAMENNY NEUME GOLUBCHIK
BORZY/MRACHNY/SVETLY/TRESVETLY, ZNAMENNY NEUME GOLUBCHIK/KRYUK TIKHY, ZNAMENNY NEUME
KRYUK/KRYZH/KUFISMA/MECHIK/NEMKA/OBLAKO/OSOKA/PALKA/PARAKLIT, ZNAMENNY NEUME MECHIK
KLYUCHENEPOSTOYANNY/KLYUCHEPOVODNY/KLYUCHEVOY/POVODNY, ZNAMENNY NEUME OSOKA KLYUCHEVAYA
NEPOSTOYANNAYA, ZNAMENNY NEUME OSOKA KRYUKOVAYA SVETLAYA, ZNAMENNY NEUME
OSOKA/SKAMEYTSA/VRAKHIYA KLYUCHEVAYA SVETLAYA, ZNAMENNY NEUME OSOKA/SKAMEYTSA/VRAKHIYA
SVETLAYA/TRESVETLAYA, ZNAMENNY NEUME PAUK/PEREVODKA/PODCHASHIE/POLKULIZMY/ROG/SLOZHITIE/STATYA,
ZNAMENNY NEUME PEREVODKA/STATYA/STRELA NEPOSTOYANNAYA, ZNAMENNY NEUME REVERSED CHELYUSTKA,
ZNAMENNY NEUME SKAMEYTSA DVOECHELNAYA NEPOSTOYANNAYA/PROSTAYA/SVETLAYA, ZNAMENNY NEUME SKAMEYTSA
KLYUCHEVAYA TIKHAYA, ZNAMENNY NEUME SKAMEYTSA TIKHAYA, ZNAMENNY NEUME SKAMEYTSA/STRELA
DVOECHELNAYA KLYUCHEVAYA, ZNAMENNY NEUME SKAMEYTSA/STRELA KLYUCHENEPOSTOYANNAYA, ZNAMENNY NEUME
SKAMEYTSA/VRAKHIYA MRACHNAYA, ZNAMENNY NEUME SLOZHITIE ZAKRYTOE, ZNAMENNY NEUME SLOZHITIE/STATYA
S KRYZHEM/ZAPYATOY, ZNAMENNY NEUME STATYA S DVUMYA ZAPYATYMI, ZNAMENNY NEUME STATYA S KRYZHEM I
ZAPYATOY, ZNAMENNY NEUME STATYA S ROGOM, ZNAMENNY NEUME STATYA S ZAPYATOY I KRYZHEM/PODCHASHIEM,
ZNAMENNY NEUME STATYA ZAKRYTAYA, ZNAMENNY NEUME STATYA ZAKRYTAYA S ZAPYATOY, ZNAMENNY NEUME
STOPITSA S OCHKOM, ZNAMENNY NEUME STOPITSA WITH SOROCHYA NOZHKA, ZNAMENNY NEUME
STOPITSA/ZANOZHEK/ZAPYATAYA/ZMEYTSA, ZNAMENNY NEUME STRELA
DVOECHELNAYA/DVOECHELNOKRYZHEVAYA/DVOECHELNOPOVODNAYA/GROMNAYA, ZNAMENNY NEUME STRELA
DVOECHELNOPOVODNAYA KLYUCHEVAYA, ZNAMENNY NEUME STRELA GROMNAYA/GROMOPOVODNAYA WITH SINGLE
ZAPYATAYA, ZNAMENNY NEUME STRELA GROMOKRYZHEVAYA/GROMOPOVODNAYA/KLYUCHEPOVODNAYA/KRYUKOVAYA,
ZNAMENNY NEUME STRELA GROMOKRYZHEVAYA/KRYUKOVAYA POVODNAYA, ZNAMENNY NEUME STRELA GROMOPOVODNAYA
WITH DOUBLE ZAPYATAYA, ZNAMENNY NEUME STRELA KRYUKOVAYA
GROMNAYA/GROMOKRYZHEVAYA/GROMOPOVODNAYA/TRYASKA, ZNAMENNY NEUME STRELA KRYUKOVAYA
GROMNAYA/GROMOPOVODNAYA WITH SINGLE ZAPYATAYA, ZNAMENNY NEUME STRELA KRYUKOVAYA GROMOKRYZHEVAYA
POVODNAYA, ZNAMENNY NEUME STRELA KRYUKOVAYA GROMOPOVODNAYA WITH DOUBLE ZAPYATAYA, ZNAMENNY NEUME
STRELA KRYZHEVAYA/MRACHNOTIKHAYA/POLUPOVODNAYA/POVODNAYA, ZNAMENNY NEUME STRELA TIKHAYA PUTNAYA,
ZNAMENNY NEUME STRELA TRYASOGLASNAYA/TRYASOPOVODNAYA/TRYASOSTRELNAYA, ZNAMENNY NEUME
STRELA/VRAKHIYA PROSTAYA, ZNAMENNY NEUME VRAKHIYA KLYUCHEVAYA MRACHNAYA/PROSTAYA/TRESVETLAYA,
ZNAMENNY PRIZNAK MODIFIER DIRECTION FLIP, ZNAMENNY PRIZNAK MODIFIER KRYZH/LEVEL-2/LEVEL-3/ROG,
ZOMBIE, ZWJ, ZWNBSP, ZWNJ, ZWSP")]

end ChannelGraph.Text.CharacterName
