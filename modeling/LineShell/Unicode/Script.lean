import LineShell.Unicode.Partition

/-!
# Scripts

The script of every character, and for the characters that several scripts share the list of those
scripts. The tables are those of Unicode 16.
-/

namespace LineShell.Partition

/-- The scripts of the code points, in runs. -/
def scriptRuns : List String :=
  ["Zyyy65Latn26Zyyy6Latn26Zyyy47LatnZyyy15LatnZyyy5Latn23ZyyyLatn31ZyyyLatn449Zyyy39Latn5Zyyy5",
    "Bopo2Zyyy20Zinh112Grek4ZyyyGrek3Zzzz2Grek4ZyyyGrekZzzz4GrekZyyyGrekZyyyGrek3ZzzzGrekZzzz",
    "Grek20ZzzzGrek63Copt14Grek16Cyrl133Zinh2Cyrl169ZzzzArmn38Zzzz2Armn50Zzzz2Armn3ZzzzHebr55",
    "Zzzz8Hebr27Zzzz4Hebr6Zzzz11Arab5ZyyyArab6ZyyyArab14ZyyyArab3ZyyyArab32ZyyyArab10Zinh11Arab26",
    "ZinhArab108ZyyyArab34Syrc14ZzzzSyrc60Zzzz2Syrc3Arab48Thaa50Zzzz14Nkoo59Zzzz2Nkoo3Samr46Zzzz2",
    "Samr15ZzzzMand28Zzzz2MandZzzzSyrc11Zzzz5Arab31ZzzzArab2Zzzz5Arab75ZyyyArab29Deva81Zinh4",
    "Deva15Zyyy2Deva26Beng4ZzzzBeng8Zzzz2Beng2Zzzz2Beng22ZzzzBeng7ZzzzBengZzzz3Beng4Zzzz2Beng9",
    "Zzzz2Beng2Zzzz2Beng4Zzzz8BengZzzz4Beng2ZzzzBeng5Zzzz2Beng25Zzzz2Guru3ZzzzGuru6Zzzz4Guru2",
    "Zzzz2Guru22ZzzzGuru7ZzzzGuru2ZzzzGuru2ZzzzGuru2Zzzz2GuruZzzzGuru5Zzzz4Guru2Zzzz2Guru3Zzzz3",
    "GuruZzzz7Guru4ZzzzGuruZzzz7Guru17Zzzz10Gujr3ZzzzGujr9ZzzzGujr3ZzzzGujr22ZzzzGujr7ZzzzGujr2",
    "ZzzzGujr5Zzzz2Gujr10ZzzzGujr3ZzzzGujr3Zzzz2GujrZzzz15Gujr4Zzzz2Gujr12Zzzz7Gujr7ZzzzOrya3Zzzz",
    "Orya8Zzzz2Orya2Zzzz2Orya22ZzzzOrya7ZzzzOrya2ZzzzOrya5Zzzz2Orya9Zzzz2Orya2Zzzz2Orya3Zzzz7",
    "Orya3Zzzz4Orya2ZzzzOrya5Zzzz2Orya18Zzzz10Taml2ZzzzTaml6Zzzz3Taml3ZzzzTaml4Zzzz3Taml2ZzzzTaml",
    "ZzzzTaml2Zzzz3Taml2Zzzz3Taml3Zzzz3Taml12Zzzz4Taml5Zzzz3Taml3ZzzzTaml4Zzzz2TamlZzzz6Taml",
    "Zzzz14Taml21Zzzz5Telu13ZzzzTelu3ZzzzTelu23ZzzzTelu16Zzzz2Telu9ZzzzTelu3ZzzzTelu4Zzzz7Telu2",
    "ZzzzTelu3Zzzz2TeluZzzz2Telu4Zzzz2Telu10Zzzz7Telu9Knda13ZzzzKnda3ZzzzKnda23ZzzzKnda10Zzzz",
    "Knda5Zzzz2Knda9ZzzzKnda3ZzzzKnda4Zzzz7Knda2Zzzz6Knda2ZzzzKnda4Zzzz2Knda10ZzzzKnda3Zzzz12",
    "Mlym13ZzzzMlym3ZzzzMlym51ZzzzMlym3ZzzzMlym6Zzzz4Mlym16Zzzz2Mlym26ZzzzSinh3ZzzzSinh18Zzzz3",
    "Sinh24ZzzzSinh9ZzzzSinhZzzz2Sinh7Zzzz3SinhZzzz4Sinh6ZzzzSinhZzzzSinh8Zzzz6Sinh10Zzzz2Sinh3",
    "Zzzz12Thai58Zzzz4ZyyyThai28Zzzz37Laoo2ZzzzLaooZzzzLaoo5ZzzzLaoo24ZzzzLaooZzzzLaoo23Zzzz2",
    "Laoo5ZzzzLaooZzzzLaoo7ZzzzLaoo10Zzzz2Laoo4Zzzz32Tibt72ZzzzTibt36Zzzz4Tibt39ZzzzTibt36Zzzz",
    "Tibt15ZzzzTibt7Zyyy4Tibt2Zzzz37Mymr160Geor38ZzzzGeorZzzz5GeorZzzz2Geor43ZyyyGeor4Hang256",
    "Ethi73ZzzzEthi4Zzzz2Ethi7ZzzzEthiZzzzEthi4Zzzz2Ethi41ZzzzEthi4Zzzz2Ethi33ZzzzEthi4Zzzz2Ethi7",
    "ZzzzEthiZzzzEthi4Zzzz2Ethi15ZzzzEthi57ZzzzEthi4Zzzz2Ethi67Zzzz2Ethi32Zzzz3Ethi26Zzzz6Cher86",
    "Zzzz2Cher6Zzzz2Cans640Ogam29Zzzz3Runr75Zyyy3Runr11Zzzz7Tglg22Zzzz9TglgHano21Zyyy2Zzzz9Buhd20",
    "Zzzz12Tagb13ZzzzTagb3ZzzzTagb2Zzzz12Khmr94Zzzz2Khmr10Zzzz6Khmr10Zzzz6Mong2Zyyy2MongZyyy",
    "Mong20Zzzz6Mong89Zzzz7Mong43Zzzz5Cans70Zzzz10Limb31ZzzzLimb12Zzzz4Limb12Zzzz4LimbZzzz3Limb12",
    "Tale30Zzzz2Tale5Zzzz11Talu44Zzzz4Talu26Zzzz6Talu11Zzzz3Talu2Khmr32Bugi28Zzzz2Bugi2Lana63Zzzz",
    "Lana29Zzzz2Lana11Zzzz6Lana10Zzzz6Lana14Zzzz2Zinh31Zzzz49Bali77ZzzzBali50Sund64Batk52Zzzz8",
    "Batk4Lepc56Zzzz3Lepc15Zzzz3Lepc3Olck48Cyrl11Zzzz5Geor43Zzzz2Geor3Sund8Zzzz8Zinh3ZyyyZinh13",
    "ZyyyZinh7Zyyy4ZinhZyyy6ZinhZyyy3Zinh2ZyyyZzzz5Latn38Grek5CyrlLatn49Grek5Latn4Grek5Latn13Cyrl",
    "Latn70GrekZinh64Latn256Grek22Zzzz2Grek6Zzzz2Grek38Zzzz2Grek6Zzzz2Grek8ZzzzGrekZzzzGrekZzzz",
    "GrekZzzzGrek31Zzzz2Grek53ZzzzGrek15ZzzzGrek14Zzzz2Grek6ZzzzGrek19Zzzz2Grek3ZzzzGrek9Zzzz",
    "Zyyy12Zinh2Zyyy87ZzzzZyyy11LatnZzzz2Zyyy11LatnZyyy15ZzzzLatn13Zzzz3Zyyy33Zzzz15Zinh33Zzzz15",
    "Zyyy38GrekZyyy3Latn2Zyyy6LatnZyyy27LatnZyyy17Latn41Zyyy3Zzzz4Zyyy666Zzzz22Zyyy11Zzzz21",
    "Zyyy928Brai256Zyyy628Zzzz2Zyyy32ZzzzZyyy105Glag96Latn32Copt116Zzzz5Copt7Geor38ZzzzGeorZzzz5",
    "GeorZzzz2Tfng56Zzzz7Tfng2Zzzz14TfngEthi23Zzzz9Ethi7ZzzzEthi7ZzzzEthi7ZzzzEthi7ZzzzEthi7Zzzz",
    "Ethi7ZzzzEthi7ZzzzEthi7ZzzzCyrl32Zyyy94Zzzz34Hani26ZzzzHani89Zzzz12Hani214Zzzz26Zyyy21Hani",
    "ZyyyHaniZyyy25Hani9Zinh4Hang2Zyyy8Hani4Zyyy4ZzzzHira86Zzzz2Zinh2Zyyy2Hira3ZyyyKana90Zyyy2",
    "Kana3Zzzz5Bopo43ZzzzHang94ZzzzZyyy16Bopo32Zyyy38Zzzz9ZyyyKana16Hang31ZzzzZyyy64Hang31Zyyy81",
    "Kana47ZyyyKana88Zyyy168Hani6592Zyyy64Hani20992Yiii1165Zzzz3Yiii55Zzzz9Lisu48Vaii300Zzzz20",
    "Cyrl96Bamu88Zzzz8Zyyy34Latn102Zyyy3Latn67Zzzz2Latn2ZzzzLatnZzzzLatn8Zzzz21Latn14Sylo45Zzzz3",
    "Zyyy10Zzzz6Phag56Zzzz8Saur70Zzzz8Saur12Zzzz6Deva32Kali46ZyyyKaliRjng36Zzzz11RjngHang29Zzzz3",
    "Java78ZzzzZyyyJava10Zzzz4Java2Mymr31ZzzzCham55Zzzz9Cham14Zzzz2Cham10Zzzz2Cham4Mymr32Tavt67",
    "Zzzz24Tavt5Mtei23Zzzz10Ethi6Zzzz2Ethi6Zzzz2Ethi6Zzzz9Ethi7ZzzzEthi7ZzzzLatn43ZyyyLatn9Grek",
    "Latn4Zyyy2Zzzz4Cher80Mtei46Zzzz2Mtei10Zzzz6Hang11172Zzzz12Hang23Zzzz4Hang49Zzzz8452Hani366",
    "Zzzz2Hani106Zzzz38Latn7Zzzz12Armn5Zzzz5Hebr26ZzzzHebr5ZzzzHebrZzzzHebr2ZzzzHebr2ZzzzHebr10",
    "Arab115Zzzz16Arab363Zyyy2Arab80Zzzz2Arab54Zzzz7ArabZzzz32Arab16Zinh16Zyyy10Zzzz6Zinh14Cyrl2",
    "Zyyy35ZzzzZyyy19ZzzzZyyy4Zzzz4Arab5ZzzzArab135Zzzz2ZyyyZzzzZyyy32Latn26Zyyy6Latn26Zyyy11",
    "Kana10ZyyyKana45Zyyy2Hang31Zzzz3Hang6Zzzz2Hang6Zzzz2Hang6Zzzz2Hang3Zzzz3Zyyy7ZzzzZyyy7Zzzz10",
    "Zyyy5Zzzz2Linb12ZzzzLinb26ZzzzLinb19ZzzzLinb2ZzzzLinb15Zzzz2Linb14Zzzz34Linb123Zzzz5Zyyy3",
    "Zzzz4Zyyy45Zzzz3Zyyy9Grek79ZzzzZyyy13Zzzz3GrekZzzz47Zyyy45ZinhZzzz130Lyci29Zzzz3Cari49Zzzz15",
    "ZinhZyyy27Zzzz4Ital36Zzzz9Ital3Goth27Zzzz5Perm43Zzzz5Ugar30ZzzzUgarXpeo36Zzzz4Xpeo14Zzzz42",
    "Dsrt80Shaw48Osma30Zzzz2Osma10Zzzz6Osge36Zzzz4Osge36Zzzz4Elba40Zzzz8Aghb52Zzzz11AghbVith11",
    "ZzzzVith15ZzzzVith7ZzzzVith2ZzzzVith11ZzzzVith15ZzzzVith7ZzzzVith2Zzzz3Todr52Zzzz12Lina311",
    "Zzzz9Lina22Zzzz10Lina8Zzzz24Latn6ZzzzLatn42ZzzzLatn9Zzzz69Cprt6Zzzz2CprtZzzzCprt44ZzzzCprt2",
    "Zzzz3CprtZzzz2CprtArmi22ZzzzArmi9Palm32Nbat31Zzzz8Nbat9Zzzz48Hatr19ZzzzHatr2Zzzz5Hatr5Phnx28",
    "Zzzz3PhnxLydi26Zzzz5LydiZzzz64Mero32Merc24Zzzz4Merc20Zzzz2Merc46Khar4ZzzzKhar2Zzzz5Khar8Zzzz",
    "Khar3ZzzzKhar29Zzzz2Khar3Zzzz4Khar10Zzzz7Khar9Zzzz7Sarb32Narb32Zzzz32Mani39Zzzz4Mani12Zzzz9",
    "Avst54Zzzz3Avst7Prti22Zzzz2Prti8Phli19Zzzz5Phli8Phlp18Zzzz7Phlp4Zzzz12Phlp7Zzzz80Orkh73",
    "Zzzz55Hung51Zzzz13Hung51Zzzz7Hung6Rohg40Zzzz8Rohg10Zzzz6Gara38Zzzz3Gara29Zzzz8Gara2Zzzz208",
    "Arab31ZzzzYezi42ZzzzYezi3Zzzz2Yezi2Zzzz16Arab3Zzzz55Arab4Sogo40Zzzz8Sogd42Zzzz22Ougr26Zzzz38",
    "Chrs28Zzzz20Elym23Zzzz9Brah78Zzzz4Brah36Zzzz9BrahKthi67Zzzz10KthiZzzz2Sora25Zzzz7Sora10Zzzz6",
    "Cakm53ZzzzCakm18Zzzz8Mahj39Zzzz9Shrd96ZzzzSinh20Zzzz11Khoj18ZzzzKhoj47Zzzz62Mult7ZzzzMult",
    "ZzzzMult4ZzzzMult15ZzzzMult11Zzzz6Sind59Zzzz5Sind10Zzzz6Gran4ZzzzGran8Zzzz2Gran2Zzzz2Gran22",
    "ZzzzGran7ZzzzGran2ZzzzGran5ZzzzZinhGran9Zzzz2Gran2Zzzz2Gran3Zzzz2GranZzzz6GranZzzz5Gran7",
    "Zzzz2Gran7Zzzz3Gran5Zzzz11Tutg10ZzzzTutgZzzz2TutgZzzzTutg38ZzzzTutg10ZzzzTutgZzzz2TutgZzzz",
    "Tutg4ZzzzTutg10ZzzzTutg2Zzzz8Tutg2Zzzz29Newa92ZzzzNewa5Zzzz30Tirh72Zzzz8Tirh10Zzzz166Sidd54",
    "Zzzz2Sidd38Zzzz34Modi69Zzzz11Modi10Zzzz6Mong13Zzzz19Takr58Zzzz6Takr10Zzzz6Mymr20Zzzz28Ahom27",
    "Zzzz2Ahom15Zzzz4Ahom23Zzzz185Dogr60Zzzz100Wara83Zzzz12WaraDiak7Zzzz2DiakZzzz2Diak8ZzzzDiak2",
    "ZzzzDiak30ZzzzDiak2Zzzz2Diak12Zzzz9Diak10Zzzz70Nand8Zzzz2Nand46Zzzz2Nand11Zzzz27Zanb72Zzzz8",
    "Soyo83Zzzz13Cans16Pauc57Zzzz7Deva10Zzzz182Sunu34Zzzz14Sunu10Zzzz6Bhks9ZzzzBhks45ZzzzBhks14",
    "Zzzz10Bhks29Zzzz3Marc32Zzzz2Marc22ZzzzMarc14Zzzz73Gonm7ZzzzGonm2ZzzzGonm44Zzzz3GonmZzzzGonm2",
    "ZzzzGonm9Zzzz8Gonm10Zzzz6Gong6ZzzzGong2ZzzzGong37ZzzzGong2ZzzzGong6Zzzz7Gong10Zzzz310Maka25",
    "Zzzz7Kawi17ZzzzKawi41Zzzz3Kawi29Zzzz85LisuZzzz15Taml50Zzzz13TamlXsux922Zzzz102Xsux111Zzzz",
    "Xsux5Zzzz11Xsux196Zzzz2636Cpmn99Zzzz13Egyp1110Zzzz10Egyp3995Zzzz5Hluw583Zzzz6841Gukh58",
    "Zzzz1734Bamu569Zzzz7Mroo31ZzzzMroo10Zzzz4Mroo2Tnsa79ZzzzTnsa10Zzzz6Bass30Zzzz2Bass6Zzzz10",
    "Hmng70Zzzz10Hmng10ZzzzHmng7ZzzzHmng21Zzzz5Hmng19Zzzz432Krai58Zzzz198Medf91Zzzz101Plrd75Zzzz4",
    "Plrd57Zzzz7Plrd17Zzzz64TangNshuHani2KitsZzzz11Hani2Zzzz14Tang6136Zzzz8Tang768Kits470Zzzz41",
    "KitsTang9Zzzz8935Kana4ZzzzKana7ZzzzKana2ZzzzKanaHira287Kana3Zzzz15HiraZzzz29Hira3Zzzz2Kana",
    "Zzzz14Kana4Zzzz8Nshu396Zzzz2308Dupl107Zzzz5Dupl13Zzzz3Dupl9Zzzz7Dupl10Zzzz2Dupl4Zyyy4",
    "Zzzz3932Zyyy250Zzzz6Zyyy436Zzzz76Zinh46Zzzz2Zinh23Zzzz9Zyyy116Zzzz60Zyyy246Zzzz10Zyyy39Zzzz2",
    "Zyyy62Zinh3Zyyy17Zinh8Zyyy2Zinh7Zyyy30Zinh4Zyyy61Zzzz21Grek70Zzzz122Zyyy20Zzzz12Zyyy20Zzzz12",
    "Zyyy87Zzzz9Zyyy25Zzzz135Zyyy85ZzzzZyyy71ZzzzZyyy2Zzzz2ZyyyZzzz2Zyyy2Zzzz2Zyyy4ZzzzZyyy12Zzzz",
    "ZyyyZzzzZyyy7ZzzzZyyy65ZzzzZyyy4Zzzz2Zyyy8ZzzzZyyy7ZzzzZyyy28ZzzzZyyy4ZzzzZyyy5ZzzzZyyyZzzz3",
    "Zyyy7ZzzzZyyy340Zzzz2Zyyy292Zzzz2Zyyy50Sgnw652Zzzz15Sgnw5ZzzzSgnw15Zzzz1104Latn31Zzzz6Latn6",
    "Zzzz213Glag7ZzzzGlag17Zzzz2Glag7ZzzzGlag2ZzzzGlag5Zzzz5Cyrl62Zzzz33CyrlZzzz112Hmnp45Zzzz3",
    "Hmnp14Zzzz2Hmnp10Zzzz4Hmnp2Zzzz320Toto31Zzzz17Wcho58Zzzz5WchoZzzz464Nagm42Zzzz214Onao43Zzzz4",
    "OnaoZzzz480Ethi7ZzzzEthi4ZzzzEthi2ZzzzEthi15ZzzzMend197Zzzz2Mend16Zzzz41Adlm76Zzzz4Adlm10",
    "Zzzz4Adlm2Zzzz785Zyyy68Zzzz76Zyyy61Zzzz194Arab4ZzzzArab27ZzzzArab2ZzzzArabZzzz2ArabZzzz",
    "Arab10ZzzzArab4ZzzzArabZzzzArabZzzz6ArabZzzz4ArabZzzzArabZzzzArabZzzzArab3ZzzzArab2ZzzzArab",
    "Zzzz2ArabZzzzArabZzzzArabZzzzArabZzzzArabZzzzArab2ZzzzArabZzzz2Arab4ZzzzArab7ZzzzArab4Zzzz",
    "Arab4ZzzzArabZzzzArab10ZzzzArab17Zzzz5Arab3ZzzzArab5ZzzzArab17Zzzz52Arab2Zzzz270Zyyy44Zzzz4",
    "Zyyy100Zzzz12Zyyy15Zzzz2Zyyy15ZzzzZyyy15ZzzzZyyy37Zzzz10Zyyy174Zzzz56Zyyy26HiraZyyy2Zzzz13",
    "Zyyy44Zzzz4Zyyy9Zzzz7Zyyy2Zzzz14Zyyy6Zzzz154Zyyy984Zzzz4Zyyy17Zzzz3Zyyy13Zzzz3Zyyy119Zzzz4",
    "Zyyy95Zzzz6Zyyy12Zzzz4ZyyyZzzz15Zyyy12Zzzz4Zyyy56Zzzz8Zyyy10Zzzz6Zyyy40Zzzz8Zyyy30Zzzz2",
    "Zyyy12Zzzz4Zyyy2Zzzz62Zyyy340Zzzz12Zyyy14Zzzz2Zyyy13Zzzz3Zyyy10Zzzz5Zyyy56Zzzz7Zyyy15Zzzz2",
    "Zyyy11Zzzz6Zyyy9Zzzz7Zyyy147ZzzzZyyy102Zzzz1030Hani42720Zzzz32Hani4154Zzzz6Hani222Zzzz2",
    "Hani5762Zzzz14Hani7473Zzzz15Hani622Zzzz2466Hani542Zzzz1506Hani4939Zzzz5Hani4192Zzzz711761",
    "ZyyyZzzz30Zyyy96Zzzz128Zinh240Zzzz196112"]

/-- The scripts: their codes and their other names. -/
def scriptValues : List (String × List String) :=
  [("Adlm", ["Adlam"]), ("Aghb", ["Caucasian_Albanian"]), ("Ahom", []), ("Arab", ["Arabic"]),
    ("Armi", ["Imperial_Aramaic"]), ("Armn", ["Armenian"]), ("Avst", ["Avestan"]),
    ("Bali", ["Balinese"]), ("Bamu", ["Bamum"]), ("Bass", ["Bassa_Vah"]), ("Batk", ["Batak"]),
    ("Beng", ["Bengali"]), ("Bhks", ["Bhaiksuki"]), ("Bopo", ["Bopomofo"]), ("Brah", ["Brahmi"]),
    ("Brai", ["Braille"]), ("Bugi", ["Buginese"]), ("Buhd", ["Buhid"]), ("Cakm", ["Chakma"]),
    ("Cans", ["Canadian_Aboriginal"]), ("Cari", ["Carian"]), ("Cham", []), ("Cher", ["Cherokee"]),
    ("Chrs", ["Chorasmian"]), ("Copt", ["Coptic", "Qaac"]), ("Cpmn", ["Cypro_Minoan"]),
    ("Cprt", ["Cypriot"]), ("Cyrl", ["Cyrillic"]), ("Deva", ["Devanagari"]),
    ("Diak", ["Dives_Akuru"]), ("Dogr", ["Dogra"]), ("Dsrt", ["Deseret"]), ("Dupl", ["Duployan"]),
    ("Egyp", ["Egyptian_Hieroglyphs"]), ("Elba", ["Elbasan"]), ("Elym", ["Elymaic"]),
    ("Ethi", ["Ethiopic"]), ("Gara", ["Garay"]), ("Geor", ["Georgian"]), ("Glag", ["Glagolitic"]),
    ("Gong", ["Gunjala_Gondi"]), ("Gonm", ["Masaram_Gondi"]), ("Goth", ["Gothic"]),
    ("Gran", ["Grantha"]), ("Grek", ["Greek"]), ("Gujr", ["Gujarati"]),
    ("Gukh", ["Gurung_Khema"]), ("Guru", ["Gurmukhi"]), ("Hang", ["Hangul"]), ("Hani", ["Han"]),
    ("Hano", ["Hanunoo"]), ("Hatr", ["Hatran"]), ("Hebr", ["Hebrew"]), ("Hira", ["Hiragana"]),
    ("Hluw", ["Anatolian_Hieroglyphs"]), ("Hmng", ["Pahawh_Hmong"]),
    ("Hmnp", ["Nyiakeng_Puachue_Hmong"]), ("Hrkt", ["Katakana_Or_Hiragana"]),
    ("Hung", ["Old_Hungarian"]), ("Ital", ["Old_Italic"]), ("Java", ["Javanese"]),
    ("Kali", ["Kayah_Li"]), ("Kana", ["Katakana"]), ("Kawi", []), ("Khar", ["Kharoshthi"]),
    ("Khmr", ["Khmer"]), ("Khoj", ["Khojki"]), ("Kits", ["Khitan_Small_Script"]),
    ("Knda", ["Kannada"]), ("Krai", ["Kirat_Rai"]), ("Kthi", ["Kaithi"]), ("Lana", ["Tai_Tham"]),
    ("Laoo", ["Lao"]), ("Latn", ["Latin"]), ("Lepc", ["Lepcha"]), ("Limb", ["Limbu"]),
    ("Lina", ["Linear_A"]), ("Linb", ["Linear_B"]), ("Lisu", []), ("Lyci", ["Lycian"]),
    ("Lydi", ["Lydian"]), ("Mahj", ["Mahajani"]), ("Maka", ["Makasar"]), ("Mand", ["Mandaic"]),
    ("Mani", ["Manichaean"]), ("Marc", ["Marchen"]), ("Medf", ["Medefaidrin"]),
    ("Mend", ["Mende_Kikakui"]), ("Merc", ["Meroitic_Cursive"]),
    ("Mero", ["Meroitic_Hieroglyphs"]), ("Mlym", ["Malayalam"]), ("Modi", []),
    ("Mong", ["Mongolian"]), ("Mroo", ["Mro"]), ("Mtei", ["Meetei_Mayek"]), ("Mult", ["Multani"]),
    ("Mymr", ["Myanmar"]), ("Nagm", ["Nag_Mundari"]), ("Nand", ["Nandinagari"]),
    ("Narb", ["Old_North_Arabian"]), ("Nbat", ["Nabataean"]), ("Newa", []), ("Nkoo", ["Nko"]),
    ("Nshu", ["Nushu"]), ("Ogam", ["Ogham"]), ("Olck", ["Ol_Chiki"]), ("Onao", ["Ol_Onal"]),
    ("Orkh", ["Old_Turkic"]), ("Orya", ["Oriya"]), ("Osge", ["Osage"]), ("Osma", ["Osmanya"]),
    ("Ougr", ["Old_Uyghur"]), ("Palm", ["Palmyrene"]), ("Pauc", ["Pau_Cin_Hau"]),
    ("Perm", ["Old_Permic"]), ("Phag", ["Phags_Pa"]), ("Phli", ["Inscriptional_Pahlavi"]),
    ("Phlp", ["Psalter_Pahlavi"]), ("Phnx", ["Phoenician"]), ("Plrd", ["Miao"]),
    ("Prti", ["Inscriptional_Parthian"]), ("Rjng", ["Rejang"]), ("Rohg", ["Hanifi_Rohingya"]),
    ("Runr", ["Runic"]), ("Samr", ["Samaritan"]), ("Sarb", ["Old_South_Arabian"]),
    ("Saur", ["Saurashtra"]), ("Sgnw", ["SignWriting"]), ("Shaw", ["Shavian"]),
    ("Shrd", ["Sharada"]), ("Sidd", ["Siddham"]), ("Sind", ["Khudawadi"]), ("Sinh", ["Sinhala"]),
    ("Sogd", ["Sogdian"]), ("Sogo", ["Old_Sogdian"]), ("Sora", ["Sora_Sompeng"]),
    ("Soyo", ["Soyombo"]), ("Sund", ["Sundanese"]), ("Sunu", ["Sunuwar"]),
    ("Sylo", ["Syloti_Nagri"]), ("Syrc", ["Syriac"]), ("Tagb", ["Tagbanwa"]), ("Takr", ["Takri"]),
    ("Tale", ["Tai_Le"]), ("Talu", ["New_Tai_Lue"]), ("Taml", ["Tamil"]), ("Tang", ["Tangut"]),
    ("Tavt", ["Tai_Viet"]), ("Telu", ["Telugu"]), ("Tfng", ["Tifinagh"]), ("Tglg", ["Tagalog"]),
    ("Thaa", ["Thaana"]), ("Thai", []), ("Tibt", ["Tibetan"]), ("Tirh", ["Tirhuta"]),
    ("Tnsa", ["Tangsa"]), ("Todr", ["Todhri"]), ("Toto", []), ("Tutg", ["Tulu_Tigalari"]),
    ("Ugar", ["Ugaritic"]), ("Vaii", ["Vai"]), ("Vith", ["Vithkuqi"]), ("Wara", ["Warang_Citi"]),
    ("Wcho", ["Wancho"]), ("Xpeo", ["Old_Persian"]), ("Xsux", ["Cuneiform"]),
    ("Yezi", ["Yezidi"]), ("Yiii", ["Yi"]), ("Zanb", ["Zanabazar_Square"]),
    ("Zinh", ["Inherited", "Qaai"]), ("Zyyy", ["Common"]), ("Zzzz", ["Unknown"])]

/-- The property `Script`. -/
def script : Partition :=
  ⟨["sc", "script"], namedByCode scriptValues, ["Zzzz", "Hrkt"], scriptRuns⟩

/-- The characters that several scripts share, or one script that is not their own: the codes of
those scripts, and the characters. -/
def scriptExtensions : List (List String × List String) :=
  [(["Avst Cari Copt Dupl Elba Geor Glag Gong Goth Grek Hani Latn Lydi Mahj Perm Shaw"], ["B7"]),
    (["Beng Cyrl Deva Latn Lisu Thai Toto"], ["2BC"]),
    (["Bopo Latn"], ["2C7 2C9-2CB 2D9"]),
    (["Latn Lisu"], ["2CD"]),
    (["Latn Thai"], ["2D7"]),
    (["Cher Copt Cyrl Grek Latn Perm Sunu Tale"], ["300"]),
    (["Cher Cyrl Grek Latn Osge Sunu Tale Todr"], ["301"]),
    (["Cher Cyrl Latn Tfng"], ["302"]),
    (["Glag Latn Sunu Syrc Thai"], ["303"]),
    (["Aghb Cher Copt Cyrl Goth Grek Latn Osge Syrc Tfng Todr"], ["304"]),
    (["Copt Elba Glag Goth Kana Latn"], ["305"]),
    (["Cyrl Grek Latn Perm"], ["306"]),
    (["Copt Dupl Hebr Latn Perm Syrc Tale Tfng Todr"], ["307"]),
    (["Armn Cyrl Dupl Goth Grek Hebr Latn Perm Syrc Tale"], ["308"]),
    (["Latn Tfng"], ["309"]),
    (["Dupl Latn Syrc"], ["30A"]),
    (["Cher Cyrl Latn Osge"], ["30B"]),
    (["Cher Latn Tale"], ["30C"]),
    (["Latn Sunu"], ["30D 310"]),
    (["Ethi Latn"], ["30E"]),
    (["Cyrl Latn Todr"], ["311"]),
    (["Grek Latn Perm Todr"], ["313"]),
    (["Cher Dupl Kana Latn Syrc"], ["323"]),
    (["Cher Dupl Latn Syrc"], ["324"]),
    (["Latn Syrc"], ["320 325 32E"]),
    (["Latn Sunu Syrc"], ["32D"]),
    (["Cher Latn Syrc"], ["330"]),
    (["Aghb Cher Goth Latn Sunu Thai"], ["331"]),
    (["Grek"], ["342 345 1DC0-1DC1"]),
    (["Latn Osge"], ["358"]),
    (["Aghb Latn Todr"], ["35E"]),
    (["Latn"], ["363-36F"]),
    (["Copt Grek"], ["374-375"]),
    (["Cyrl Perm"], ["483"]),
    (["Cyrl Glag"], ["484 487 2E43 A66F"]),
    (["Cyrl Latn"], ["485-486"]),
    (["Armn Geor Glag"], ["589"]),
    (["Arab Gara Nkoo Rohg Syrc Thaa Yezi"], ["60C 61B"]),
    (["Arab Syrc Thaa"], ["61C"]),
    (["Adlm Arab Gara Nkoo Rohg Syrc Thaa Yezi"], ["61F"]),
    (["Adlm Arab Mand Mani Ougr Phlp Rohg Sogd Syrc"], ["640"]),
    (["Arab Syrc"], ["64B-655 670"]),
    (["Arab Thaa Yezi"], ["660-669"]),
    (["Arab Rohg"], ["6D4"]),
    (["Beng Deva Gran Gujr Guru Knda Latn Mlym Orya Shrd Taml Telu Tirh"], ["951"]),
    (["Beng Deva Gran Gujr Guru Knda Latn Mlym Orya Taml Telu Tirh"], ["952"]),
    ([
      "Beng Deva Dogr Gong Gonm Gran Gujr Guru Knda Mahj Mlym Nand Onao Orya Sind Sinh",
      "Sylo Takr Taml Telu Tirh"], ["964"]),
    ([
      "Beng Deva Dogr Gong Gonm Gran Gujr Gukh Guru Knda Limb Mahj Mlym Nand Onao Orya",
      "Sind Sinh Sylo Takr Taml Telu Tirh"], ["965"]),
    (["Deva Dogr Kthi Mahj"], ["966-96F"]),
    (["Beng Cakm Sylo"], ["9E6-9EF"]),
    (["Guru Mult"], ["A66-A6F"]),
    (["Gujr Khoj"], ["AE6-AEF"]),
    (["Gran Taml"], ["BE6-BF3 11301 11303 1133B-1133C 11FD0-11FD1 11FD3"]),
    (["Knda Nand Tutg"], ["CE6-CEF"]),
    (["Cakm Mymr Tale"], ["1040-1049"]),
    (["Geor Glag Latn"], ["10FB"]),
    (["Runr"], ["16EB-16ED"]),
    (["Buhd Hano Tagb Tglg"], ["1735-1736"]),
    (["Mong Phag"], ["1802-1803 1805"]),
    (["Beng Deva Gran Knda"], ["1CD0 1CD2"]),
    (["Deva"], ["1CD1 1CD4 1CDB 1CDE-1CDF 1CE2-1CE8 1CEB-1CEC 1CEE-1CF1"]),
    (["Deva Gran Knda"], ["1CD3"]),
    (["Deva Shrd"], ["1CD7 1CD9 1CDC-1CDD 1CE0"]),
    (["Deva Knda Mlym Orya Taml Telu"], ["1CDA"]),
    (["Beng Deva"], ["1CD5-1CD6 1CD8 1CE1 1CF5-1CF6"]),
    (["Deva Nand"], ["1CE9"]),
    (["Beng Deva Shrd"], ["1CEA 1CED"]),
    (["Beng Deva Gran Knda Mlym Nand Orya Sinh Telu Tirh Tutg"], ["1CF2"]),
    (["Deva Gran"], ["1CF3 1CF8-1CF9"]),
    (["Deva Gran Knda Tutg"], ["1CF4"]),
    (["Beng"], ["1CF7"]),
    (["Nand"], ["1CFA"]),
    (["Cyrl Latn Syrc"], ["1DF8"]),
    (["Syrc"], ["1DFA"]),
    (["Latn Mong Phag"], ["202F"]),
    (["Adlm Arab"], ["204F"]),
    (["Cari Geor Glag Hung Lyci Orkh"], ["205A"]),
    (["Cari Grek Hung Mero"], ["205D"]),
    (["Deva Gran Latn"], ["20F0"]),
    (["Copt Latn"], ["2E17"]),
    (["Avst Orkh"], ["2E30"]),
    (["Avst Cari Geor Hung Kthi Lydi Samr"], ["2E31"]),
    (["Dupl"], ["2E3C 1BCA0-1BCA3"]),
    (["Adlm Arab Hung"], ["2E41"]),
    (["Hani Tang"], ["2FF0-2FFF 31EF"]),
    (["Bopo Hang Hani Hira Kana Mong Yiii"], ["3001"]),
    (["Bopo Hang Hani Hira Kana Mong Phag Yiii"], ["3002"]),
    (["Bopo Hang Hani Hira Kana"], ["3003 3013 301C-301F 3030 3037 FE45-FE46"]),
    (["Hani"], [
      "3006 303E-303F 3190-319F 31C0-31E5 3220-3247 3280-32B0 32C0-32CB 32FF 3358-3370",
      "337B-337F 33E0-33FE 1D360-1D371 1F250-1F251"]),
    (["Bopo Hang Hani Hira Kana Mong Tibt Yiii"], ["3008-3009"]),
    (["Bopo Hang Hani Hira Kana Lisu Mong Tibt Yiii"], ["300A-300B"]),
    (["Bopo Hang Hani Hira Kana Yiii"], ["300C-3011 3014-301B 30FB FF61-FF65"]),
    (["Bopo Hani"], ["302A-302D"]),
    (["Hira Kana"], ["3031-3035 3099-309C 30A0 30FC FF70 FF9E-FF9F"]),
    (["Hani Hira Kana"], ["303C-303D"]),
    (["Hani Latn"], ["A700-A707"]),
    (["Deva Dogr Gujr Guru Khoj Knda Kthi Mahj Mlym Modi Nand Shrd Sind Takr Tirh Tutg"],
      ["A830-A832"]),
    (["Deva Dogr Gujr Guru Khoj Knda Kthi Mahj Modi Nand Shrd Sind Takr Tirh Tutg"], ["A833-A835"]),
    (["Deva Dogr Gujr Guru Khoj Kthi Mahj Modi Sind Takr Tirh"], ["A836-A837 A839"]),
    (["Deva Dogr Gujr Guru Khoj Kthi Mahj Modi Shrd Sind Takr Tirh"], ["A838"]),
    (["Beng Deva Tutg"], ["A8F1"]),
    (["Deva Taml"], ["A8F3"]),
    (["Kali Latn Mymr"], ["A92E"]),
    (["Bugi Java"], ["A9CF"]),
    (["Arab Nkoo"], ["FD3E-FD3F"]),
    (["Arab Thaa"], ["FDF2 FDFD"]),
    (["Cpmn Cprt Linb"], ["10100-10101"]),
    (["Cprt Linb"], ["10102 10137-1013F"]),
    (["Cprt Lina Linb"], ["10107-10133"]),
    (["Arab Copt"], ["102E0-102FB"]),
    (["Mani Ougr"], ["10AF2"])]

/-- The characters that are used in the script of the given code. -/
def usedInScript (code : Text) : CharSet :=
  let shared := CharSet.ofRanges (scriptExtensions.flatMap fun e ↦ Table.ranges e.2)
  let used := scriptExtensions.filter fun e ↦
    (e.1.flatMap fun line ↦ Text.pieces ' ' line.toList).contains code
  ((script.set code).diff shared).union (.ofRanges (used.flatMap fun e ↦ Table.ranges e.2))

end LineShell.Partition
