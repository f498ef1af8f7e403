import Targeting.Unicode.CodePointTable
/-!
# Scripts

Every code point belongs to one script, named here by its abbreviation of four
letters. Some code points are used in more scripts than their own; those
scripts are their extensions.
-/

namespace Targeting.Unicode

namespace Script

/-- The abbreviation of every script with its name. -/
def names : List (String × String) := [
  ("Adlm", "Adlam"),
  ("Aghb", "Caucasian_Albanian"),
  ("Ahom", "Ahom"),
  ("Arab", "Arabic"),
  ("Armi", "Imperial_Aramaic"),
  ("Armn", "Armenian"),
  ("Avst", "Avestan"),
  ("Bali", "Balinese"),
  ("Bamu", "Bamum"),
  ("Bass", "Bassa_Vah"),
  ("Batk", "Batak"),
  ("Beng", "Bengali"),
  ("Berf", "Beria_Erfe"),
  ("Bhks", "Bhaiksuki"),
  ("Bopo", "Bopomofo"),
  ("Brah", "Brahmi"),
  ("Brai", "Braille"),
  ("Bugi", "Buginese"),
  ("Buhd", "Buhid"),
  ("Cakm", "Chakma"),
  ("Cans", "Canadian_Aboriginal"),
  ("Cari", "Carian"),
  ("Cham", "Cham"),
  ("Cher", "Cherokee"),
  ("Chrs", "Chorasmian"),
  ("Copt", "Coptic"),
  ("Cpmn", "Cypro_Minoan"),
  ("Cprt", "Cypriot"),
  ("Cyrl", "Cyrillic"),
  ("Deva", "Devanagari"),
  ("Diak", "Dives_Akuru"),
  ("Dogr", "Dogra"),
  ("Dsrt", "Deseret"),
  ("Dupl", "Duployan"),
  ("Egyp", "Egyptian_Hieroglyphs"),
  ("Elba", "Elbasan"),
  ("Elym", "Elymaic"),
  ("Ethi", "Ethiopic"),
  ("Gara", "Garay"),
  ("Geor", "Georgian"),
  ("Glag", "Glagolitic"),
  ("Gong", "Gunjala_Gondi"),
  ("Gonm", "Masaram_Gondi"),
  ("Goth", "Gothic"),
  ("Gran", "Grantha"),
  ("Grek", "Greek"),
  ("Gujr", "Gujarati"),
  ("Gukh", "Gurung_Khema"),
  ("Guru", "Gurmukhi"),
  ("Hang", "Hangul"),
  ("Hani", "Han"),
  ("Hano", "Hanunoo"),
  ("Hatr", "Hatran"),
  ("Hebr", "Hebrew"),
  ("Hira", "Hiragana"),
  ("Hluw", "Anatolian_Hieroglyphs"),
  ("Hmng", "Pahawh_Hmong"),
  ("Hmnp", "Nyiakeng_Puachue_Hmong"),
  ("Hung", "Old_Hungarian"),
  ("Ital", "Old_Italic"),
  ("Java", "Javanese"),
  ("Kali", "Kayah_Li"),
  ("Kana", "Katakana"),
  ("Kawi", "Kawi"),
  ("Khar", "Kharoshthi"),
  ("Khmr", "Khmer"),
  ("Khoj", "Khojki"),
  ("Kits", "Khitan_Small_Script"),
  ("Knda", "Kannada"),
  ("Krai", "Kirat_Rai"),
  ("Kthi", "Kaithi"),
  ("Lana", "Tai_Tham"),
  ("Laoo", "Lao"),
  ("Latn", "Latin"),
  ("Lepc", "Lepcha"),
  ("Limb", "Limbu"),
  ("Lina", "Linear_A"),
  ("Linb", "Linear_B"),
  ("Lisu", "Lisu"),
  ("Lyci", "Lycian"),
  ("Lydi", "Lydian"),
  ("Mahj", "Mahajani"),
  ("Maka", "Makasar"),
  ("Mand", "Mandaic"),
  ("Mani", "Manichaean"),
  ("Marc", "Marchen"),
  ("Medf", "Medefaidrin"),
  ("Mend", "Mende_Kikakui"),
  ("Merc", "Meroitic_Cursive"),
  ("Mero", "Meroitic_Hieroglyphs"),
  ("Mlym", "Malayalam"),
  ("Modi", "Modi"),
  ("Mong", "Mongolian"),
  ("Mroo", "Mro"),
  ("Mtei", "Meetei_Mayek"),
  ("Mult", "Multani"),
  ("Mymr", "Myanmar"),
  ("Nagm", "Nag_Mundari"),
  ("Nand", "Nandinagari"),
  ("Narb", "Old_North_Arabian"),
  ("Nbat", "Nabataean"),
  ("Newa", "Newa"),
  ("Nkoo", "Nko"),
  ("Nshu", "Nushu"),
  ("Ogam", "Ogham"),
  ("Olck", "Ol_Chiki"),
  ("Onao", "Ol_Onal"),
  ("Orkh", "Old_Turkic"),
  ("Orya", "Oriya"),
  ("Osge", "Osage"),
  ("Osma", "Osmanya"),
  ("Ougr", "Old_Uyghur"),
  ("Palm", "Palmyrene"),
  ("Pauc", "Pau_Cin_Hau"),
  ("Perm", "Old_Permic"),
  ("Phag", "Phags_Pa"),
  ("Phli", "Inscriptional_Pahlavi"),
  ("Phlp", "Psalter_Pahlavi"),
  ("Phnx", "Phoenician"),
  ("Plrd", "Miao"),
  ("Prti", "Inscriptional_Parthian"),
  ("Rjng", "Rejang"),
  ("Rohg", "Hanifi_Rohingya"),
  ("Runr", "Runic"),
  ("Samr", "Samaritan"),
  ("Sarb", "Old_South_Arabian"),
  ("Saur", "Saurashtra"),
  ("Sgnw", "SignWriting"),
  ("Shaw", "Shavian"),
  ("Shrd", "Sharada"),
  ("Sidd", "Siddham"),
  ("Sidt", "Sidetic"),
  ("Sind", "Khudawadi"),
  ("Sinh", "Sinhala"),
  ("Sogd", "Sogdian"),
  ("Sogo", "Old_Sogdian"),
  ("Sora", "Sora_Sompeng"),
  ("Soyo", "Soyombo"),
  ("Sund", "Sundanese"),
  ("Sunu", "Sunuwar"),
  ("Sylo", "Syloti_Nagri"),
  ("Syrc", "Syriac"),
  ("Tagb", "Tagbanwa"),
  ("Takr", "Takri"),
  ("Tale", "Tai_Le"),
  ("Talu", "New_Tai_Lue"),
  ("Taml", "Tamil"),
  ("Tang", "Tangut"),
  ("Tavt", "Tai_Viet"),
  ("Tayo", "Tai_Yo"),
  ("Telu", "Telugu"),
  ("Tfng", "Tifinagh"),
  ("Tglg", "Tagalog"),
  ("Thaa", "Thaana"),
  ("Thai", "Thai"),
  ("Tibt", "Tibetan"),
  ("Tirh", "Tirhuta"),
  ("Tnsa", "Tangsa"),
  ("Todr", "Todhri"),
  ("Tols", "Tolong_Siki"),
  ("Toto", "Toto"),
  ("Tutg", "Tulu_Tigalari"),
  ("Ugar", "Ugaritic"),
  ("Vaii", "Vai"),
  ("Vith", "Vithkuqi"),
  ("Wara", "Warang_Citi"),
  ("Wcho", "Wancho"),
  ("Xpeo", "Old_Persian"),
  ("Xsux", "Cuneiform"),
  ("Yezi", "Yezidi"),
  ("Yiii", "Yi"),
  ("Zanb", "Zanabazar_Square"),
  ("Zinh", "Inherited"),
  ("Zyyy", "Common"),
  ("Zzzz", "Unknown")]

/-- Second abbreviations. -/
def otherAbbreviations : List (String × String) :=
  [("Qaac", "Copt"), ("Qaai", "Zinh")]

/-- How many code points in a row belong to which script. -/
def runs : List String :=
  ["41Zyyy1aLatn6Zyyy1aLatn2fZyyy1LatnfZyyy1Latn5Zyyy17Latn1Zyyy1fLatn1Zyyy1c1Latn27Zyyy5Latn",
  "5Zyyy2Bopo14Zyyy70Zinh4Grek1Zyyy3Grek2Zzzz4Grek1Zyyy1Grek4Zzzz1Grek1Zyyy1Grek1Zyyy3Grek",
  "1Zzzz1Grek1Zzzz14Grek1Zzzz3fGrekeCopt10Grek85Cyrl2Zinha9Cyrl1Zzzz26Armn2Zzzz32Armn2Zzzz",
  "3Armn1Zzzz37Hebr8Zzzz1bHebr4Zzzz6HebrbZzzz5Arab1Zyyy6Arab1ZyyyeArab1Zyyy3Arab1Zyyy20Arab",
  "1ZyyyaArabbZinh1aArab1Zinh6cArab1Zyyy22ArabeSyrc1Zzzz3cSyrc2Zzzz3Syrc30Arab32ThaaeZzzz",
  "3bNkoo2Zzzz3Nkoo2eSamr2ZzzzfSamr1Zzzz1cMand2Zzzz1Mand1ZzzzbSyrc5Zzzz22Arab5Zzzz4bArab1Zyyy",
  "1dArab51Deva4ZinhfDeva2Zyyy1aDeva4Beng1Zzzz8Beng2Zzzz2Beng2Zzzz16Beng1Zzzz7Beng1Zzzz1Beng",
  "3Zzzz4Beng2Zzzz9Beng2Zzzz2Beng2Zzzz4Beng8Zzzz1Beng4Zzzz2Beng1Zzzz5Beng2Zzzz19Beng2Zzzz",
  "3Guru1Zzzz6Guru4Zzzz2Guru2Zzzz16Guru1Zzzz7Guru1Zzzz2Guru1Zzzz2Guru1Zzzz2Guru2Zzzz1Guru",
  "1Zzzz5Guru4Zzzz2Guru2Zzzz3Guru3Zzzz1Guru7Zzzz4Guru1Zzzz1Guru7Zzzz11GuruaZzzz3Gujr1Zzzz",
  "9Gujr1Zzzz3Gujr1Zzzz16Gujr1Zzzz7Gujr1Zzzz2Gujr1Zzzz5Gujr2ZzzzaGujr1Zzzz3Gujr1Zzzz3Gujr",
  "2Zzzz1GujrfZzzz4Gujr2ZzzzcGujr7Zzzz7Gujr1Zzzz3Orya1Zzzz8Orya2Zzzz2Orya2Zzzz16Orya1Zzzz",
  "7Orya1Zzzz2Orya1Zzzz5Orya2Zzzz9Orya2Zzzz2Orya2Zzzz3Orya7Zzzz3Orya4Zzzz2Orya1Zzzz5Orya2Zzzz",
  "12OryaaZzzz2Taml1Zzzz6Taml3Zzzz3Taml1Zzzz4Taml3Zzzz2Taml1Zzzz1Taml1Zzzz2Taml3Zzzz2Taml",
  "3Zzzz3Taml3ZzzzcTaml4Zzzz5Taml3Zzzz3Taml1Zzzz4Taml2Zzzz1Taml6Zzzz1TamleZzzz15Taml5Zzzz",
  "dTelu1Zzzz3Telu1Zzzz17Telu1Zzzz10Telu2Zzzz9Telu1Zzzz3Telu1Zzzz4Telu7Zzzz2Telu1Zzzz3Telu",
  "1Zzzz2Telu2Zzzz4Telu2ZzzzaTelu7Zzzz9TeludKnda1Zzzz3Knda1Zzzz17Knda1ZzzzaKnda1Zzzz5Knda",
  "2Zzzz9Knda1Zzzz3Knda1Zzzz4Knda7Zzzz2Knda5Zzzz3Knda1Zzzz4Knda2ZzzzaKnda1Zzzz3KndacZzzzdMlym",
  "1Zzzz3Mlym1Zzzz33Mlym1Zzzz3Mlym1Zzzz6Mlym4Zzzz10Mlym2Zzzz1aMlym1Zzzz3Sinh1Zzzz12Sinh3Zzzz",
  "18Sinh1Zzzz9Sinh1Zzzz1Sinh2Zzzz7Sinh3Zzzz1Sinh4Zzzz6Sinh1Zzzz1Sinh1Zzzz8Sinh6ZzzzaSinh",
  "2Zzzz3SinhcZzzz3aThai4Zzzz1Zyyy1cThai25Zzzz2Laoo1Zzzz1Laoo1Zzzz5Laoo1Zzzz18Laoo1Zzzz1Laoo",
  "1Zzzz17Laoo2Zzzz5Laoo1Zzzz1Laoo1Zzzz7Laoo1ZzzzaLaoo2Zzzz4Laoo20Zzzz48Tibt1Zzzz24Tibt4Zzzz",
  "27Tibt1Zzzz24Tibt1ZzzzfTibt1Zzzz7Tibt4Zyyy2Tibt25Zzzza0Mymr26Geor1Zzzz1Geor5Zzzz1Geor2Zzzz",
  "2bGeor1Zyyy4Geor100Hang49Ethi1Zzzz4Ethi2Zzzz7Ethi1Zzzz1Ethi1Zzzz4Ethi2Zzzz29Ethi1Zzzz4Ethi",
  "2Zzzz21Ethi1Zzzz4Ethi2Zzzz7Ethi1Zzzz1Ethi1Zzzz4Ethi2ZzzzfEthi1Zzzz39Ethi1Zzzz4Ethi2Zzzz",
  "43Ethi2Zzzz20Ethi3Zzzz1aEthi6Zzzz56Cher2Zzzz6Cher2Zzzz280Cans1dOgam3Zzzz4bRunr3ZyyybRunr",
  "7Zzzz16Tglg9Zzzz1Tglg15Hano2Zyyy9Zzzz14BuhdcZzzzdTagb1Zzzz3Tagb1Zzzz2TagbcZzzz5eKhmr2Zzzz",
  "aKhmr6ZzzzaKhmr6Zzzz2Mong2Zyyy1Mong1Zyyy14Mong6Zzzz59Mong7Zzzz2bMong5Zzzz46CansaZzzz1fLimb",
  "1ZzzzcLimb4ZzzzcLimb4Zzzz1Limb3ZzzzcLimb1eTale2Zzzz5TalebZzzz2cTalu4Zzzz1aTalu6ZzzzbTalu",
  "3Zzzz2Talu20Khmr1cBugi2Zzzz2Bugi3fLana1Zzzz1dLana2ZzzzbLana6ZzzzaLana6ZzzzeLana2Zzzz2eZinh",
  "2ZzzzcZinh14Zzzz4dBali1Zzzz32Bali40Sund34Batk8Zzzz4Batk38Lepc3ZzzzfLepc3Zzzz3Lepc30Olck",
  "bCyrl5Zzzz2bGeor2Zzzz3Geor8Sund8Zzzz3Zinh1ZyyydZinh1Zyyy7Zinh4Zyyy1Zinh6Zyyy1Zinh3Zyyy",
  "2Zinh1Zyyy5Zzzz26Latn5Grek1Cyrl31Latn5Grek4Latn5GrekdLatn1Cyrl46Latn1Grek40Zinh100Latn",
  "16Grek2Zzzz6Grek2Zzzz26Grek2Zzzz6Grek2Zzzz8Grek1Zzzz1Grek1Zzzz1Grek1Zzzz1Grek1Zzzz1fGrek",
  "2Zzzz35Grek1ZzzzfGrek1ZzzzeGrek2Zzzz6Grek1Zzzz13Grek2Zzzz3Grek1Zzzz9Grek1ZzzzcZyyy2Zinh",
  "57Zyyy1ZzzzbZyyy1Latn2ZzzzbZyyy1LatnfZyyy1ZzzzdLatn3Zzzz22ZyyyeZzzz21ZinhfZzzz26Zyyy1Grek",
  "3Zyyy2Latn6Zyyy1Latn1bZyyy1Latn11Zyyy29Latn3Zyyy4Zzzz29aZyyy16ZzzzbZyyy15Zzzz3a0Zyyy",
  "100Brai274Zyyy2Zzzz8aZyyy60Glag20Latn74Copt5Zzzz7Copt26Geor1Zzzz1Geor5Zzzz1Geor2Zzzz38Tfng",
  "7Zzzz2TfngeZzzz1Tfng17Ethi9Zzzz7Ethi1Zzzz7Ethi1Zzzz7Ethi1Zzzz7Ethi1Zzzz7Ethi1Zzzz7Ethi",
  "1Zzzz7Ethi1Zzzz7Ethi1Zzzz20Cyrl5eZyyy22Zzzz1aHani1Zzzz59HanicZzzzd6Hani1aZzzz15Zyyy1Hani",
  "1Zyyy1Hani19Zyyy9Hani4Zinh2Hang8Zyyy4Hani4Zyyy1Zzzz56Hira2Zzzz2Zinh2Zyyy3Hira1Zyyy5aKana",
  "2Zyyy3Kana5Zzzz2bBopo1Zzzz5eHang1Zzzz10Zyyy20Bopo26Zyyy9Zzzz1Zyyy10Kana1fHang1Zzzz40Zyyy",
  "1fHang51Zyyy2fKana1Zyyy58Kanaa8Zyyy19c0Hani40Zyyy5200Hani48dYiii3Zzzz37Yiii9Zzzz30Lisu",
  "12cVaii14Zzzz60Cyrl58Bamu8Zzzz22Zyyy66Latn3Zyyy52Latn14ZzzzfLatn2dSylo3ZzzzaZyyy6Zzzz",
  "38Phag8Zzzz46Saur8ZzzzcSaur6Zzzz20Deva2eKali1Zyyy1Kali24RjngbZzzz1Rjng1dHang3Zzzz4eJava",
  "1Zzzz1ZyyyaJava4Zzzz2Java1fMymr1Zzzz37Cham9ZzzzeCham2ZzzzaCham2Zzzz4Cham20Mymr43Tavt18Zzzz",
  "5Tavt17MteiaZzzz6Ethi2Zzzz6Ethi2Zzzz6Ethi9Zzzz7Ethi1Zzzz7Ethi1Zzzz2bLatn1Zyyy9Latn1Grek",
  "4Latn2Zyyy4Zzzz50Cher2eMtei2ZzzzaMtei6Zzzz2ba4HangcZzzz17Hang4Zzzz31Hang2104Zzzz16eHani",
  "2Zzzz6aHani26Zzzz7LatncZzzz5Armn5Zzzz1aHebr1Zzzz5Hebr1Zzzz1Hebr1Zzzz2Hebr1Zzzz2Hebr1Zzzz",
  "aHebr1eeArab2Zyyy90Arab20Zzzz10Arab10ZinhaZyyy6ZzzzeZinh2Cyrl23Zyyy1Zzzz13Zyyy1Zzzz4Zyyy",
  "4Zzzz5Arab1Zzzz87Arab2Zzzz1Zyyy1Zzzz20Zyyy1aLatn6Zyyy1aLatnbZyyyaKana1Zyyy2dKana2Zyyy",
  "1fHang3Zzzz6Hang2Zzzz6Hang2Zzzz6Hang2Zzzz3Hang3Zzzz7Zyyy1Zzzz7ZyyyaZzzz5Zyyy2ZzzzcLinb",
  "1Zzzz1aLinb1Zzzz13Linb1Zzzz2Linb1ZzzzfLinb2ZzzzeLinb22Zzzz7bLinb5Zzzz3Zyyy4Zzzz2dZyyy3Zzzz",
  "9Zyyy4fGrek1ZzzzdZyyy3Zzzz1Grek2fZzzz2dZyyy1Zinh82Zzzz1dLyci3Zzzz31CarifZzzz1Zinh1bZyyy",
  "4Zzzz24Ital9Zzzz3Ital1bGoth5Zzzz2bPerm5Zzzz1eUgar1Zzzz1Ugar24Xpeo4ZzzzeXpeo2aZzzz50Dsrt",
  "30Shaw1eOsma2ZzzzaOsma6Zzzz24Osge4Zzzz24Osge4Zzzz28Elba8Zzzz34AghbbZzzz1AghbbVith1Zzzz",
  "fVith1Zzzz7Vith1Zzzz2Vith1ZzzzbVith1ZzzzfVith1Zzzz7Vith1Zzzz2Vith3Zzzz34TodrcZzzz137Lina",
  "9Zzzz16LinaaZzzz8Lina18Zzzz6Latn1Zzzz2aLatn1Zzzz9Latn45Zzzz6Cprt2Zzzz1Cprt1Zzzz2cCprt1Zzzz",
  "2Cprt3Zzzz1Cprt2Zzzz1Cprt16Armi1Zzzz9Armi20Palm1fNbat8Zzzz9Nbat30Zzzz13Hatr1Zzzz2Hatr5Zzzz",
  "5Hatr1cPhnx3Zzzz1Phnx1aLydi5Zzzz1Lydi1aSidt26Zzzz20Mero18Merc4Zzzz14Merc2Zzzz2eMerc4Khar",
  "1Zzzz2Khar5Zzzz8Khar1Zzzz3Khar1Zzzz1dKhar2Zzzz3Khar4ZzzzaKhar7Zzzz9Khar7Zzzz20Sarb20Narb",
  "20Zzzz27Mani4ZzzzcMani9Zzzz36Avst3Zzzz7Avst16Prti2Zzzz8Prti13Phli5Zzzz8Phli12Phlp7Zzzz",
  "4PhlpcZzzz7Phlp50Zzzz49Orkh37Zzzz33HungdZzzz33Hung7Zzzz6Hung28Rohg8ZzzzaRohg6Zzzz26Gara",
  "3Zzzz1dGara8Zzzz2Garad0Zzzz1fArab1Zzzz2aYezi1Zzzz3Yezi2Zzzz2Yezi10Zzzz6Arab8Zzzz9Arab",
  "21Zzzz6Arab28Sogo8Zzzz2aSogd16Zzzz1aOugr26Zzzz1cChrs14Zzzz17Elym9Zzzz4eBrah4Zzzz24Brah",
  "9Zzzz1Brah43KthiaZzzz1Kthi2Zzzz19Sora7ZzzzaSora6Zzzz35Cakm1Zzzz12Cakm8Zzzz27Mahj9Zzzz",
  "60Shrd1Zzzz14SinhbZzzz12Khoj1Zzzz2fKhoj3eZzzz7Mult1Zzzz1Mult1Zzzz4Mult1ZzzzfMult1ZzzzbMult",
  "6Zzzz3bSind5ZzzzaSind6Zzzz4Gran1Zzzz8Gran2Zzzz2Gran2Zzzz16Gran1Zzzz7Gran1Zzzz2Gran1Zzzz",
  "5Gran1Zzzz1Zinh9Gran2Zzzz2Gran2Zzzz3Gran2Zzzz1Gran6Zzzz1Gran5Zzzz7Gran2Zzzz7Gran3Zzzz5Gran",
  "bZzzzaTutg1Zzzz1Tutg2Zzzz1Tutg1Zzzz26Tutg1ZzzzaTutg1Zzzz1Tutg2Zzzz1Tutg1Zzzz4Tutg1Zzzz",
  "aTutg1Zzzz2Tutg8Zzzz2Tutg1dZzzz5cNewa1Zzzz5Newa1eZzzz48Tirh8ZzzzaTirha6Zzzz36Sidd2Zzzz",
  "26Sidd22Zzzz45ModibZzzzaModi6ZzzzdMong13Zzzz3aTakr6ZzzzaTakr6Zzzz14Mymr1cZzzz1bAhom2Zzzz",
  "fAhom4Zzzz17Ahomb9Zzzz3cDogr64Zzzz53WaracZzzz1Wara7Diak2Zzzz1Diak2Zzzz8Diak1Zzzz2Diak1Zzzz",
  "1eDiak1Zzzz2Diak2ZzzzcDiak9ZzzzaDiak46Zzzz8Nand2Zzzz2eNand2ZzzzbNand1bZzzz48Zanb8Zzzz",
  "53SoyodZzzz10Cans39Pauc7ZzzzaDeva56Zzzz8Shrd58Zzzz22SunueZzzzaSunu6Zzzz9Bhks1Zzzz2dBhks",
  "1ZzzzeBhksaZzzz1dBhks3Zzzz20Marc2Zzzz16Marc1ZzzzeMarc49Zzzz7Gonm1Zzzz2Gonm1Zzzz2cGonm3Zzzz",
  "1Gonm1Zzzz2Gonm1Zzzz9Gonm8ZzzzaGonm6Zzzz6Gong1Zzzz2Gong1Zzzz25Gong1Zzzz2Gong1Zzzz6Gong",
  "7ZzzzaGong6Zzzz2cTols4ZzzzaTolsf6Zzzz19Maka7Zzzz11Kawi1Zzzz29Kawi3Zzzz1dKawi55Zzzz1Lisu",
  "fZzzz32TamldZzzz1Taml39aXsux66Zzzz6fXsux1Zzzz5XsuxbZzzzc4Xsuxa4cZzzz63CpmndZzzz456Egyp",
  "aZzzzf9bEgyp5Zzzz247Hluw1ab9Zzzz3aGukh6c6Zzzz239Bamu7Zzzz1fMroo1ZzzzaMroo4Zzzz2Mroo4fTnsa",
  "1ZzzzaTnsa6Zzzz1eBass2Zzzz6BassaZzzz46HmngaZzzzaHmng1Zzzz7Hmng1Zzzz15Hmng5Zzzz13Hmng",
  "1b0Zzzz3aKraic6Zzzz5bMedf5Zzzz19Berf2Zzzz19Berf2cZzzz4bPlrd4Zzzz39Plrd7Zzzz11Plrd40Zzzz",
  "1Tang1Nshu2Hani1KitsbZzzz7Hani9Zzzz1b00Tang1d6Kits29Zzzz1Kits1fTang61Zzzz73Tang21fdZzzz",
  "4Kana1Zzzz7Kana1Zzzz2Kana1Zzzz1Kana11fHira3KanafZzzz1Hira1dZzzz3Hira2Zzzz1KanaeZzzz4Kana",
  "8Zzzz18cNshu904Zzzz6bDupl5ZzzzdDupl3Zzzz9Dupl7ZzzzaDupl2Zzzz4Dupl4Zyyyf5cZzzzfdZyyy3Zzzz",
  "1b4Zyyy6Zzzz17ZyyyfZzzz11ZyyyfZzzz2eZinh2Zzzz17Zinh9Zzzz74Zyyy3cZzzzf6ZyyyaZzzz27Zyyy2Zzzz",
  "3eZyyy3Zinh11Zyyy8Zinh2Zyyy7Zinh1eZyyy4Zinh3dZyyy15Zzzz46Grek7aZzzz14ZyyycZzzz14ZyyycZzzz",
  "57Zyyy9Zzzz19Zyyy87Zzzz55Zyyy1Zzzz47Zyyy1Zzzz2Zyyy2Zzzz1Zyyy2Zzzz2Zyyy2Zzzz4Zyyy1ZzzzcZyyy",
  "1Zzzz1Zyyy1Zzzz7Zyyy1Zzzz41Zyyy1Zzzz4Zyyy2Zzzz8Zyyy1Zzzz7Zyyy1Zzzz1cZyyy1Zzzz4Zyyy1Zzzz",
  "5Zyyy1Zzzz1Zyyy3Zzzz7Zyyy1Zzzz154Zyyy2Zzzz124Zyyy2Zzzz32Zyyy28cSgnwfZzzz5Sgnw1ZzzzfSgnw",
  "450Zzzz1fLatn6Zzzz6Latnd5Zzzz7Glag1Zzzz11Glag2Zzzz7Glag1Zzzz2Glag1Zzzz5Glag5Zzzz3eCyrl",
  "21Zzzz1Cyrl70Zzzz2dHmnp3ZzzzeHmnp2ZzzzaHmnp4Zzzz2Hmnp140Zzzz1fToto11Zzzz3aWcho5Zzzz1Wcho",
  "1d0Zzzz2aNagmd6Zzzz2bOnao4Zzzz1Onaoc0Zzzz1fTayo1Zzzz16Tayo8Zzzz2Tayoe0Zzzz7Ethi1Zzzz4Ethi",
  "1Zzzz2Ethi1ZzzzfEthi1Zzzzc5Mend2Zzzz10Mend29Zzzz4cAdlm4ZzzzaAdlm4Zzzz2Adlm311Zzzz44Zyyy",
  "4cZzzz3dZyyyc2Zzzz4Arab1Zzzz1bArab1Zzzz2Arab1Zzzz1Arab2Zzzz1Arab1ZzzzaArab1Zzzz4Arab1Zzzz",
  "1Arab1Zzzz1Arab6Zzzz1Arab4Zzzz1Arab1Zzzz1Arab1Zzzz1Arab1Zzzz3Arab1Zzzz2Arab1Zzzz1Arab2Zzzz",
  "1Arab1Zzzz1Arab1Zzzz1Arab1Zzzz1Arab1Zzzz1Arab1Zzzz2Arab1Zzzz1Arab2Zzzz4Arab1Zzzz7Arab1Zzzz",
  "4Arab1Zzzz4Arab1Zzzz1Arab1ZzzzaArab1Zzzz11Arab5Zzzz3Arab1Zzzz5Arab1Zzzz11Arab34Zzzz2Arab",
  "10eZzzz2cZyyy4Zzzz64ZyyycZzzzfZyyy2ZzzzfZyyy1ZzzzfZyyy1Zzzz25ZyyyaZzzzaeZyyy38Zzzz1aZyyy",
  "1Hira2ZyyydZzzz2cZyyy4Zzzz9Zyyy7Zzzz2ZyyyeZzzz6Zyyy9aZzzz3d9Zyyy3Zzzz11Zyyy3ZzzzdZyyy3Zzzz",
  "daZyyy6ZzzzcZyyy4Zzzz1ZyyyfZzzzcZyyy4Zzzz38Zyyy8ZzzzaZyyy6Zzzz28Zyyy8Zzzz1eZyyy2ZzzzcZyyy",
  "4Zzzz2ZyyyeZzzz9Zyyy27Zzzz158Zyyy8ZzzzeZyyy2ZzzzdZyyy3ZzzzbZyyy3Zzzz39Zyyy1Zzzz1Zyyy4Zzzz",
  "10Zyyy2ZzzzcZyyy4ZzzzaZyyy7Zzzz93Zyyy1Zzzz67Zyyy405Zzzza6e0Hani20Zzzz111eHani2Zzzz168eHani",
  "2Zzzz1d31HanifZzzz26eHani9a2Zzzz21eHani5e2Zzzz134bHani5Zzzz212aHaniacb87Zzzz1Zyyy1eZzzz",
  "60Zyyy80Zzzzf0Zinh2fe10Zzzz"]

def table : CodePointMap String := .decode 4 id "Zzzz" runs

/-- The code points that a script shares, or has no share in though they are
its own, as the set of all in which it is used. -/
def extensions : String → Option (List String)
  | "Adlm" => some
    ["61f 1 20 1 1a0e 1 df1 1 1babe 4c 4 a 4 2"]
  | "Aghb" => some
    ["304 1 2c 1 2c 1 101d1 34 b 1"]
  | "Arab" => some
    ["600 5 1 d7 1 22 50 30 f0 22 5 4b 1 1d 174f 1 df1 1 cd0e 280 20 10 70 5 1 87 3e3 1c b64 1f",
  "43 6 8 9 21 6 df00 4 1 1b 1 2 1 1 2 1 1 a 1 4 1 1 1 1 6 1 4 1 1 1 1 1 1 3 1 2 1 1 2 1 1 1",
  "1 1 1 1 1 1 1 2 1 1 2 4 1 7 1 4 1 4 1 1 1 a 1 11 5 3 1 5 1 11 34 2"]
  | "Armn" => some
    ["308 1 228 26 2 32 2 3 f583 5"]
  | "Avst" => some
    ["b7 1 2d78 2 dcce 36 3 7"]
  | "Beng" => some
    ["2bc 1 694 2 11 2 1a 4 1 8 2 2 2 16 1 7 1 1 3 4 2 9 2 2 2 4 8 1 4 2 1 5 2 19 12d1 1 1 1 2 2",
  "1 1 8 1 8 1 2 1 4 1 2 3 8bf9 1"]
  | "Bopo" => some
    ["2c7 1 1 3 d 1 10 2 2d15 3 4 a 1 d a 4 2 1 6 1 c3 1 9 2b 70 20 cc85 2 11a 5"]
  | "Bugi" => some
    ["1a00 1c 2 2 8faf 1"]
  | "Buhd" => some
    ["1735 2 9 14"]
  | "Cakm" => some
    ["9e6 a 650 a 100b6 35 1 12"]
  | "Cari" => some
    ["b7 1 1fa2 1 2 1 dd3 1 d46e 31"]
  | "Cher" => some
    ["300 3 1 1 6 2 16 2 b 2 106e 56 2 6 9772 50"]
  | "Copt" => some
    ["b7 1 248 1 3 2 1 1 6c 2 6c e 2890 74 5 7 117 1 d4c8 1c"]
  | "Cpmn" => some
    ["10100 2 2e8e 63"]
  | "Cprt" => some
    ["10100 3 4 2d 3 9 6c0 6 2 1 1 2c 1 2 3 1 2 1"]
  | "Cyrl" => some
    ["2bc 1 43 3 1 1 1 1 1 1 2 1 5 1 ee 130 1750 b a0 1 4c 1 7f 1 fe7 20 43 1 77fc 60 578e 2",
  "e200 3e 21 1"]
  | "Deva" => some
    ["2bc 1 643 53 2 2b 1350 27 1 2 3f6 1 873f a a6 20 7200 a"]
  | "Dogr" => some
    ["964 c 9ec0 a 6fc6 3c"]
  | "Dupl" => some
    ["b7 1 24f 2 1 1 18 2 2b17 1 18dc3 6b 5 d 3 9 7 a 2 8"]
  | "Elba" => some
    ["b7 1 24d 1 101fa 28"]
  | "Ethi" => some
    ["30e 1 ef1 49 1 4 2 7 1 1 1 4 2 29 1 4 2 21 1 4 2 7 1 1 1 4 2 f 1 39 1 4 2 43 2 20 3 1a",
  "19e6 17 9 7 1 7 1 7 1 7 1 7 1 7 1 7 1 7 7d22 6 2 6 2 6 9 7 1 7 13cb1 7 1 4 1 2 1 f"]
  | "Gara" => some
    ["60c 1 e 1 3 1 10720 26 3 1d 8 2"]
  | "Geor" => some
    ["b7 1 4d1 1 b16 26 1 1 5 1 2 30 b90 2b 2 3 39a 1 ca5 26 1 1 5 1 103 1"]
  | "Glag" => some
    ["b7 1 24b 1 1 1 17e 1 2 1 101 1 b71 1 f5e 1 ba5 60 1e3 1 782b 1 13990 7 1 11 2 7 1 2 1 5"]
  | "Gong" => some
    ["b7 1 8ac 2 113fa 6 1 2 1 25 1 2 1 6 7 a"]
  | "Gonm" => some
    ["964 2 1139a 7 1 2 1 2c 3 1 1 2 1 9 8 a"]
  | "Goth" => some
    ["b7 1 24c 2 2 1 28 1 fffe 1b"]
  | "Gran" => some
    ["951 2 11 2 280 e 10dc 1 1 2 1e 3 3 2 3f6 1 f20f 4 1 8 2 2 2 16 1 7 1 2 1 5 1 a 2 2 2 3 2 1",
  "6 1 5 7 2 7 3 5 c5b 2 1 1"]
  | "Grek" => some
    ["b7 1 248 2 2 1 1 1 1 1 a 1 2e 1 2 1 2a 8 2 4 1 1 4 1 1 1 1 3 1 1 1 14 1 3f e 10 1926 5 32",
  "5 4 5 54 3 13e 16 2 6 2 26 2 6 2 8 1 1 1 1 1 1 1 1f 2 35 1 f 1 e 2 6 1 13 2 3 1 9 5e 1 c8",
  "1 8a3e 1 55da 4f 11 1 d05f 46"]
  | "Gujr" => some
    ["951 2 11 2 11b 3 1 9 1 3 1 16 1 7 1 2 1 5 2 a 1 3 1 3 2 1 f 4 2 c 7 7 9d30 a"]
  | "Gukh" => some
    ["965 1 1579a 3a"]
  | "Guru" => some
    ["951 2 11 2 9b 3 1 6 4 2 2 16 1 7 1 2 1 2 1 2 2 1 1 5 4 2 2 3 3 1 7 4 1 1 7 11 9db9 a"]
  | "Hang" => some
    ["1100 100 1e01 3 4 a 1 d e 3 6 1 c3 1 35 5e 71 1f 41 1f 76e1 1d 283 2ba4 c 17 4 31 2649 2",
  "11a 5 3a 1f 3 6 2 6 2 6 2 3"]
  | "Hani" => some
    ["b7 1 2dc8 1a 1 59 c d6 1a 10 1 3 1 d 1 d 1 d 2 1 6 9 bb 1 94 10 20 26 9 1 30 28 38 31 f c",
  "33 1 58 19 a 5 60 1f 1 19c0 40 5200 700 8 51f8 16e 2 6a 36b 2 11a 5 707c 2 c 7 6369 12",
  "1ede 2 dae a6e0 20 111e 2 168e 2 1d31 f 26e 9a2 21e 5e2 134b 5 212a"]
  | "Hano" => some
    ["1720 17"]
  | "Hebr" => some
    ["307 2 288 37 8 1b 4 6 f528 1a 1 5 1 1 1 2 1 2 1 a"]
  | "Hira" => some
    ["3001 3 4 a 1 d 10 6 1 1 4 2 3 56 2 8 5a 2 cd48 2 11a 5 a 1 2d 2 b061 11f 12 1 1d 3 40ad 1"]
  | "Hung" => some
    ["205a 1 2 1 dd3 1 f 1 de3e 33 d 33 7 6"]
  | "Java" => some
    ["a980 4e 1 b 4 2"]
  | "Kali" => some
    ["a900 30"]
  | "Kana" => some
    ["305 1 1d 1 2cdd 3 4 a 1 d 10 6 1 1 4 2 5b 4 3 60 f0 10 d0 2f 1 58 caed 2 11a 3f b050 4 1 7",
  "1 2 1 1 11f 3 32 1 e 4"]
  | "Khoj" => some
    ["ae6 a 9d40 a 69c6 12 1 2f"]
  | "Knda" => some
    ["951 2 11 2 31a d 1 3 1 17 1 a 1 5 2 9 1 3 1 4 7 2 5 3 1 4 2 a 1 3 fdc 1 1 2 6 1 17 1 1 1",
  "8b3b 6"]
  | "Kthi" => some
    ["966 a 24c1 1 79fe a 6846 43 a 1"]
  | "Latn" => some
    ["41 1a 6 1a 2f 1 c 1 2 1 5 17 1 1f 1 1c1 3 1 a 1 1 3 1 1 9 1 1 1 6 5 1b f 1 2 1 1 f 3 7 2 1",
  "2 26 1 5 1 4 d 115 2 4ca 2 7a8 1 c04 26 6 31 5 4 5 d 1 46 39 1 7 100 12f 1 41 1 d 1 10 d",
  "53 1 39 2 6 1 1b 1 11 29 ad7 20 197 1 78e8 8 1a 66 3 52 14 f 12e 1 201 2b 1 9 1 4 4f96 7",
  "41a 1a 6 1a 825 6 1 2a 1 9 d745 1f 6 6"]
  | "Limb" => some
    ["965 1 f9a 1f 1 c 4 c 4 1 3 c"]
  | "Lina" => some
    ["10107 2d 4cc 137 9 16 a 8"]
  | "Linb" => some
    ["10000 c 1 1a 1 13 1 2 1 f 2 e 22 7b 5 3 4 2d 3 9"]
  | "Lisu" => some
    ["2bc 1 10 1 2d3c 2 74c4 30 7ab0 1"]
  | "Lyci" => some
    ["205a 1 e225 1d"]
  | "Lydi" => some
    ["b7 1 2d79 1 daee 1a 5 1"]
  | "Mahj" => some
    ["b7 1 8ac c 9ec0 a 6916 27"]
  | "Mand" => some
    ["640 1 1ff 1c 2 1"]
  | "Mani" => some
    ["640 1 1047f 27 4 c"]
  | "Mero" => some
    ["205d 1 e922 20"]
  | "Mlym" => some
    ["951 2 11 2 39a d 1 3 1 33 1 3 1 6 4 10 2 1a f5a 1 17 1 8b3d 3"]
  | "Modi" => some
    ["a830 a 6dc6 45 b a"]
  | "Mong" => some
    ["1800 1a 6 59 7 2b 784 1 fd1 2 5 4 e654 d"]
  | "Mult" => some
    ["a66 a 10810 7 1 1 1 4 1 f 1 b"]
  | "Mymr" => some
    ["1000 a0 988e 1 b1 1f 61 20 6c50 14"]
  | "Nand" => some
    ["951 1 12 2 380 a ff9 1 8 1 7 1 8b35 6 716a 8 2 2e 2 b"]
  | "Newa" => some
    ["951 2 1382 1 1 2 9 1 6 1 1 1 1 1 f712 5c 1 5"]
  | "Nkoo" => some
    ["60c 1 e 1 3 1 1a0 3b 2 3 f53e 2"]
  | "Onao" => some
    ["964 2 1dc6a 2b 4 1"]
  | "Orkh" => some
    ["205a 1 dd5 1 ddcf 49"]
  | "Orya" => some
    ["951 2 11 2 19b 3 1 8 2 2 2 16 1 7 1 2 1 5 2 9 2 2 2 3 7 3 4 2 1 5 2 12 1162 1 17 1"]
  | "Osge" => some
    ["301 1 2 1 6 1 4c 1 10157 24 4 24"]
  | "Ougr" => some
    ["640 1 104b1 1 47d 1a"]
  | "Perm" => some
    ["b7 1 248 1 5 3 a 1 16f 1 fecc 2b"]
  | "Phag" => some
    ["1802 2 1 1 829 1 fd2 1 783d 38"]
  | "Phlp" => some
    ["640 1 1053f 12 7 4 c 7"]
  | "Rohg" => some
    ["60c 1 e 1 3 1 20 1 93 1 1062b 28 8 a"]
  | "Runr" => some
    ["16a0 59"]
  | "Samr" => some
    ["800 2e 2 f 25f2 1"]
  | "Shaw" => some
    ["b7 1 10398 30"]
  | "Shrd" => some
    ["951 1 1385 1 1 1 2 2 2 1 9 1 2 1 8b42 6 2 1 6947 60 980 8"]
  | "Sind" => some
    ["964 2 9eca a 6a76 3b 5 a"]
  | "Sinh" => some
    ["964 2 41b 3 1 12 3 18 1 9 1 1 2 7 3 1 4 6 1 1 1 8 6 a 2 3 efd 1 f4ee 14"]
  | "Sogd" => some
    ["640 1 108ef 2a"]
  | "Sunu" => some
    ["300 2 1 1 9 1 2 1 1c 1 3 1 1188e 22 e a"]
  | "Sylo" => some
    ["964 2 80 a 9e10 2d"]
  | "Syrc" => some
    ["303 2 2 2 1 1 18 3 7 2 1 2 2da 1 e 2 2 1 20 1 a b 1a 1 8f e 1 3c 2 3 110 b 158d 1 1 1"]
  | "Tagb" => some
    ["1735 2 29 d 1 3 1 2"]
  | "Takr" => some
    ["964 2 9eca a 6e46 3a 6 a"]
  | "Tale" => some
    ["300 2 5 2 3 1 d33 a 906 1e 2 5"]
  | "Taml" => some
    ["951 2 11 2 21c 2 1 6 3 3 1 4 3 2 1 1 1 2 3 2 3 3 3 c 4 5 3 3 1 4 2 1 6 1 e 15 10df 1 8c18",
  "1 6a0d 1 1 1 37 2 c83 32 d 1"]
  | "Tang" => some
    ["2ff0 10 1ef 1 13df0 1 1f 1b00 200 1f 61 73"]
  | "Telu" => some
    ["951 2 11 2 29a d 1 3 1 17 1 10 2 9 1 3 1 4 7 2 1 3 1 2 2 4 2 a 7 9 1055 2 1 1 1 1 17 1"]
  | "Tfng" => some
    ["302 1 1 1 1 4 19 1 2a0c 38 7 2 e 1"]
  | "Tglg" => some
    ["1700 16 9 1 15 2"]
  | "Thaa" => some
    ["60c 1 e 2 2 1 40 a 116 32 f640 1 a 1"]
  | "Thai" => some
    ["2bc 1 1a 1 2b 1 2d 1 acf 3a 5 1c"]
  | "Tibt" => some
    ["f00 48 1 24 4 27 1 24 1 f 1 7 4 2 202d 4"]
  | "Tirh" => some
    ["951 2 11 2 136f 1 c 1 f 1 8b3d a 6c46 48 8 a"]
  | "Todr" => some
    ["301 1 2 1 2 1 9 1 1 1 4a 1 10261 34"]
  | "Toto" => some
    ["2bc 1 1dfd3 1f"]
  | "Tutg" => some
    ["ce6 a 1002 1 1 1 8b3b 6 bb 1 6a8e a 1 1 2 1 1 26 1 a 1 1 2 1 1 4 1 a 1 2 8 2"]
  | "Yezi" => some
    ["60c 1 e 1 3 1 40 a 10816 2a 1 3 2 2"]
  | "Yiii" => some
    ["3001 2 5 a 2 8 df 1 6f04 48d 3 37 5a9a 5"]
  | "Zinh" => some
    ["30f 1 2 1 1 f 3 7 2 1 2 10 1 2 1 12 1 5 1 4 5f0 2 115b 2e 2 c 2d6 36 1 1 1 5 20c 2 c2 20",
  "dd10 10 10 e 3cf 1 cd02 2e 2 17 220 3 11 8 2 7 1e 4 c2f52 f0"]
  | "Zyyy" => some
    ["0 41 1a 6 1a 2f 1 c 1 2 1 5 17 1 1f 1 1c1 3 1 a 1 1 3 1 1 9 1 1 1 6 5 5 2 14 7e 1 6 1 1 1",
  "27d 1 d7 1 204 1 55c 1 195 4 1027 c 2 21 1 1f 1 a 1 2 1 7 1 b 3 b 1 f 11 22 3e 26 1 3 2 6",
  "1 1b 1 11 29 3 4 29a 16 b 15 3a0 100 274 2 8a 200 17 1 18 2 a 1 4 1 1 1 1a 1a2 1 3 1 d 1 d",
  "1 15 1 211 18 1f 1 31 f c 4 a1 a 5 60 1f 1 19c0 40 5908 1a 66 3 3d0 1 e 2 52a4 a 16 15 2 c",
  "1 13 1 4 93 1 1 20 1a 6 1a 6 7f 7 1 7 a 5 192 d 33 2d ca03 fd 3 1b4 6 17 f 11 5f 74 3c f6",
  "a 27 2 3e 3 11 8 2 7 1e 4 3d d5 14 c 14 c 57 1b 7 87 55 1 47 1 2 2 1 2 2 2 4 1 c 1 1 1 7 1",
  "41 1 4 2 8 1 7 1 1c 1 4 1 5 1 1 3 7 1 154 2 124 2 32 1471 44 4c 3d 2c2 2c 4 64 c f 2 f 1 f",
  "1 25 a ae 38 1a 1 2 d 2c 4 9 17 6 9a 3d9 3 11 3 d 3 da 6 c 4 1 f c 4 38 8 a 6 28 8 1e 2 c",
  "4 2 e 9 27 158 8 e 2 d 3 b 3 39 1 1 4 10 2 c 4 a 7 93 1 67 c0406 1 1e 60"]
  | _ => none

end Script

/-- The abbreviation of the script of a character. -/
def script (c : Char) : String := Script.table.get c

end Targeting.Unicode
