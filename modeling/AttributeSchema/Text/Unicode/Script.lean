import AttributeSchema.Text.Unicode.Runs

/-!
# Scripts

The Unicode properties `Script` and `Script_Extensions`. Their values are found by their short and long
names.
-/

namespace AttributeSchema.Text.Unicode

/-- The values of the property `Script`. -/
def scripts : List NamedSet := [
  ⟨["adlm", "adlam"], ["HDEuCxejeb"]⟩,
  ⟨["ahom"], ["EBRcBacoew"]⟩,
  ⟨["hluw", "anatolianhieroglyphs"], ["ESSeWk"]⟩,
  ⟨["arab", "arabic"],
    ["CHcebfbnbcbBfbjlzbEdbBhDcBvJgBebbfCwbBcDNTwEkqNycDbcCbhaBgpEiebFeFVnBeCpcCddDGLsdbBabbbacab",
     "jbdbabagaeabababcbbbacabababababbbacdbgbdbdbabjbqfcbebqCab"]⟩,
  ⟨["armn", "armenian"], ["BZdBlcBxccDOZje"]⟩,
  ⟨["avst", "avestan"], ["DXCyCbdg"]⟩,
  ⟨["bali", "balinese"], ["KFwCybBx"]⟩,
  ⟨["bamu", "bamum"], ["CLCqDjCVCqVw"]⟩,
  ⟨["bass", "bassavah"], ["FHKiBdcf"]⟩,
  ⟨["batk", "batak"], ["KNgBzid"]⟩,
  ⟨["beng", "bengali"], ["DPodbhcbcvbgbaddcicbcdiaebbecy"]⟩,
  ⟨["bhks", "bhaiksuki"], ["EDOiibBsbnkBc"]⟩,
  ⟨["bopo", "bopomofo"], ["BCsbRLxBqEiBf"]⟩,
  ⟨["brah", "brahmi"], ["DZAeCzeBjja"]⟩,
  ⟨["brai", "braille"], ["PDwJv"]⟩,
  ⟨["bugi", "buginese"], ["JWaBbcb"]⟩,
  ⟨["buhd", "buhid"], ["IUyt"]⟩,
  ⟨["cans", "canadianaboriginal"], ["HOyYpVoCrDTPqp"]⟩,
  ⟨["cari", "carian"], ["DTYmBw"]⟩,
  ⟨["aghb", "caucasianalbanian"], ["DUXsBzla"]⟩,
  ⟨["cakm", "chakma"], ["DZKaCabr"]⟩,
  ⟨["cham"], ["CMJwCcjncjcd"]⟩,
  ⟨["cher", "cherokee"], ["HLgDhcfCFJeDb"]⟩,
  ⟨["chrs", "chorasmian"], ["DYXcBb"]⟩,
  ⟨["zyyy", "common"],
    ["aCmBafBaBubobexaBfaRhBmfectEmajagabaYnagaoadaBgaGaaTwaEzbBVtaPpdLeaCGlcCtbHvbbaBVhanahdbfbc",
     "caBDtlcDibkdkborBgClBlbccfbBabqBpceZpwkvBJrJwYdcBfbEaTsDpPmubabyphedDnbdaDmbFrpBgBljaBwClBf",
     "DcBvaDkGlJToClBHSiBhDycGjjJkaGeaPfaobBEZqbIajwBibsbdFrabBfBafBakkaBtbCmgbgkeJyceBsdiDcmBzBs",
     "IuBaCSHwdFVgJpgQtGaElCiJlkBmcCjdqibhBdeCiIftmtmDijyFfDgbCsbbcacbcdblbabgbCmbdchbgbBbbdbebad",
     "gbNbcLfcBxHThCpCyCiBBeBreDvmocobobBkkGrCezbbnBreihbofFyBLveqdmdEoeDqgleapleCdijgBniBdclebCk",
     "NbmncmdjfCdhockgihFqbDxBSUXbaBeDr"]⟩,
  ⟨["copt", "qaac", "coptic"], ["BMgnPJkElfg"]⟩,
  ⟨["xsux", "cuneiform"], ["EFBsBJlDyEgbelHn"]⟩,
  ⟨["cprt", "cypriot"], ["DVZkfcabBrbbdaca"]⟩,
  ⟨["cpmn", "cyprominoan"], ["EKYyDu"]⟩,
  ⟨["cyrl", "cyrillic"], ["BNkFccGmIVokGeaCyaGFnBfBTOaDrBHEcbDHPgCjBha"]⟩,
  ⟨["dsrt", "deseret"], ["DUMaDb"]⟩,
  ⟨["deva", "devanagari"], ["DKqDceoczCIJgBfBREmj"]⟩,
  ⟨["diak", "divesakuru"], ["ECKugcachbbbBdbbcljj"]⟩,
  ⟨["dogr", "dogra"], ["ECAyCh"]⟩,
  ⟨["dupl", "duployan"], ["GMDsEcfmdihjcd"]⟩,
  ⟨["egyp", "egyptianhieroglyphs"], ["ELDgBQrkFXq"]⟩,
  ⟨["elba", "elbasan"], ["DUVwBn"]⟩,
  ⟨["elym", "elymaic"], ["DYYyw"]⟩,
  ⟨["ethi", "ethiopic"],
    ["GVgCubdcgbabdcBobdcBgbdcgbabdcobCebdcCocBfdzJVawjgbgbgbgbgbgbgbgBVKcfcfcfjgbgEPYfgbdbbbo"]⟩,
  ⟨["gara", "garay"], ["DXZcBldBcib"]⟩,
  ⟨["geor", "georgian"], ["GHsBlbafacBqbdEJwBqccGEaBlbafa"]⟩,
  ⟨["glag", "glagolitic"], ["QRgDrGIZggbqcgbbbe"]⟩,
  ⟨["goth", "gothic"], ["DUEaBa"]⟩,
  ⟨["gran", "grantha"], ["EADsdbhcbcvbgbbbecicbcccagafgcgde"]⟩,
  ⟨["grek", "greek"],
    ["BHwdbccdbaeababcbabtbCkopJNqeByeeeDgaMivcfcBlcfchbabababBecCabobncfbsccbiLjaCAJeaBGNiDaraDA",
     "XrCr"]⟩,
  ⟨["gujr", "gujarati"], ["DZlcbibcbvbgbbbecjbcbccapdclhg"]⟩,
  ⟨["gong", "gunjalagondi"], ["EEBwfbbbBkbbbfhj"]⟩,
  ⟨["guru", "gurmukhi"], ["DUncbfebcvbgbbbbbbcabeebccdahdbahq"]⟩,
  ⟨["gukh", "gurungkhema"], ["FDRsCf"]⟩,
  ⟨["hani", "han"],
    ["RPwzbDkmIfBvabaziodBLcJTnCmBFBjBHSiObcEbBSIibmbCCOkCLFbBgGDtgIncINpoLBkpXxDQwUvCFyHHyfGFf"]⟩,
  ⟨["hang", "hangul"], ["GLkJvLLebJxDpEjBeCnBeBTAnBcYtQNrmweBwPAiBedfcfcfcc"]⟩,
  ⟨["rohg", "hanifirohingya"], ["DXWqBnij"]⟩,
  ⟨["hano", "hanunoo"], ["ITsu"]⟩,
  ⟨["hatr", "hatran"], ["DWIasbbfe"]⟩,
  ⟨["hebr", "hebrew"], ["CCvCciBaefDOVwzbebabbbbbj"]⟩,
  ⟨["hira", "hiragana"], ["SHdDhgcFPEvLasaBdcYMva"]⟩,
  ⟨["armi", "imperialaramaic"], ["DWBwvbi"]⟩,
  ⟨["zinh", "qaai", "inherited"],
    ["BDoEhKrbRkkBaaBCidGOxBeTtcbmbgeagadbHqClUebHmBgFTxdEdbCZUjpqnBLnaIsaGFaaCTCuBtcwUycrhcgBedB",
     "TLHiJf"]⟩,
  ⟨["phli", "inscriptionalpahlavi"], ["DXGqsfh"]⟩,
  ⟨["prti", "inscriptionalparthian"], ["DXFkvch"]⟩,
  ⟨["java", "javanese"], ["CMEyCzcjeb"]⟩,
  ⟨["kthi", "kaithi"], ["DZFcCoka"]⟩,
  ⟨["knda", "kannada"], ["ETcmbcbwbjbecibcbdhbgbbdcjbc"]⟩,
  ⟨["kana", "katakana"], ["SKvDlccJgpIaBubDjCZHejbBsCOUcdbgbbbaLbcByaod"]⟩,
  ⟨["kawi"], ["EERwqbBodBc"]⟩,
  ⟨["kali", "kayahli"], ["CMAaBtba"]⟩,
  ⟨["khar", "kharoshthi"], ["DWTcdbbfhbcbBcccejhi"]⟩,
  ⟨["kits", "khitansmallscript"], ["FJIiaKGxSbBpa"]⟩,
  ⟨["khmr", "khmer"], ["IXkDpcjgjSsBf"]⟩,
  ⟨["khoj", "khojki"], ["DZTwrbBu"]⟩,
  ⟨["sind", "khudawadi"], ["EAAqCgfj"]⟩,
  ⟨["krai", "kiratrai"], ["FIIiCf"]⟩,
  ⟨["laoo", "lao"], ["FMvbbabebxbabwcebabgbjcd"]⟩,
  ⟨["latn", "latin"],
    ["CnzgzBvapafwbBebRgBneJXbBlgBwfdfmbCrCnJvOfanaqmFlbgaBbarBoECtBfBULmDxdCocbbabhvnBFkBqbibdBE",
     "DqgBOkzgzDCffbBpbiDDNpBegf"]⟩,
  ⟨["lepc", "lepcha"], ["KPsCddodc"]⟩,
  ⟨["limb", "limbu"], ["JMeBebleleadl"]⟩,
  ⟨["lina", "lineara"], ["DVFsLyjvkh"]⟩,
  ⟨["linb", "linearb"], ["DSYqlbzbsbbbocnBiEs"]⟩,
  ⟨["lisu"], ["CKKuBvBUMaa"]⟩,
  ⟨["lyci", "lycian"], ["DTXgBc"]⟩,
  ⟨["lydi", "lydian"], ["DWKmzfa"]⟩,
  ⟨["mahj", "mahajani"], ["DZNcBm"]⟩,
  ⟨["maka", "makasar"], ["EEQqy"]⟩,
  ⟨["mlym", "malayalam"], ["EYambcbBybcbfepcz"]⟩,
  ⟨["mand", "mandaic"], ["DDgBbca"]⟩,
  ⟨["mani", "manichaean"], ["DXAmBmel"]⟩,
  ⟨["marc", "marchen"], ["EDSqBfcvbn"]⟩,
  ⟨["gonm", "masaramgondi"], ["EDYegbbbBrdabbbiij"]⟩,
  ⟨["medf", "medefaidrin"], ["FISeDm"]⟩,
  ⟨["mtei", "meeteimayek"], ["CMSmwHtBtcj"]⟩,
  ⟨["mend", "mendekikakui"], ["HCUyHocp"]⟩,
  ⟨["merc", "meroiticcursive"], ["DWPkxetcBt"]⟩,
  ⟨["mero", "meroitichieroglyphs"], ["DWOeBf"]⟩,
  ⟨["plrd", "miao"], ["FIZoCweCehq"]⟩,
  ⟨["modi"], ["EBHgCqlj"]⟩,
  ⟨["mong", "mongolian"], ["JCibcabtgDkhBqDSCbm"]⟩,
  ⟨["mroo", "mro"], ["FHEuBebjeb"]⟩,
  ⟨["mult", "multani"], ["DZYugbabdbobk"]⟩,
  ⟨["mymr", "myanmar"], ["GBoGdCGAyBeDtBfBPAmt"]⟩,
  ⟨["nbat", "nabataean"], ["DWEiBeii"]⟩,
  ⟨["nagm", "nagmundari"], ["HBPoBp"]⟩,
  ⟨["nand", "nandinagari"], ["ECQyhcBtck"]⟩,
  ⟨["talu", "newtailue"], ["JRcBrezgkdb"]⟩,
  ⟨["newa"], ["EANoDnbe"]⟩,
  ⟨["nkoo", "nko"], ["CYiCgcc"]⟩,
  ⟨["nshu", "nushu"], ["FJIfaYVmPf"]⟩,
  ⟨["hmnp", "nyiakengpuachuehmong"], ["HAEaBsdncjeb"]⟩,
  ⟨["ogam", "ogham"], ["INoBc"]⟩,
  ⟨["olck", "olchiki"], ["KSuBv"]⟩,
  ⟨["onao", "olonal"], ["HBZkBqea"]⟩,
  ⟨["hung", "oldhungarian"], ["DXRsBynByhf"]⟩,
  ⟨["ital", "olditalic"], ["DUCeBjjc"]⟩,
  ⟨["narb", "oldnortharabian"], ["DWYaBf"]⟩,
  ⟨["perm", "oldpermic"], ["DUFgBq"]⟩,
  ⟨["xpeo", "oldpersian"], ["DUIiBjen"]⟩,
  ⟨["sogo", "oldsogdian"], ["DYQiBn"]⟩,
  ⟨["sarb", "oldsoutharabian"], ["DWWuBf"]⟩,
  ⟨["orkh", "oldturkic"], ["DXMuCu"]⟩,
  ⟨["ougr", "olduyghur"], ["DYUqz"]⟩,
  ⟨["orya", "oriya"], ["EEjcbhcbcvbgbbbecicbcchcebbecr"]⟩,
  ⟨["osge", "osage"], ["DUSuBjeBj"]⟩,
  ⟨["osma", "osmanya"], ["DUQyBdcj"]⟩,
  ⟨["hmng", "pahawhhmong"], ["FHMeCrkjbgbufs"]⟩,
  ⟨["palm", "palmyrene"], ["DWDcBf"]⟩,
  ⟨["pauc", "paucinhau"], ["EDCaCe"]⟩,
  ⟨["phag", "phagspa"], ["CLSqCd"]⟩,
  ⟨["phnx", "phoenician"], ["DWJgBbda"]⟩,
  ⟨["phlp", "psalterpahlavi"], ["DXHwrhdmg"]⟩,
  ⟨["rjng", "rejang"], ["CMBwBjla"]⟩,
  ⟨["runr", "runic"], ["IOuCwdk"]⟩,
  ⟨["samr", "samaritan"], ["DAuBtco"]⟩,
  ⟨["saur", "saurashtra"], ["CLVcCril"]⟩,
  ⟨["shrd", "sharada"], ["DZOyDr"]⟩,
  ⟨["shaw", "shavian"], ["DUPcBv"]⟩,
  ⟨["sidd", "siddham"], ["EBCiCbcBl"]⟩,
  ⟨["sgnw", "signwriting"], ["GWTkZbpebo"]⟩,
  ⟨["sinh", "sinhala"], ["FCzcbrdxbibacgdaefbabhgjccDULgt"]⟩,
  ⟨["sogd", "sogdian"], ["DYSeBp"]⟩,
  ⟨["sora", "sorasompeng"], ["DZIeyhj"]⟩,
  ⟨["soyo", "soyombo"], ["ECXsDe"]⟩,
  ⟨["sund", "sundanese"], ["KKuClJwh"]⟩,
  ⟨["sunu", "sunuwar"], ["EDLwBhoj"]⟩,
  ⟨["sylo", "sylotinagri"], ["CLQeBs"]⟩,
  ⟨["syrc", "syriac"], ["CQynbChccKmk"]⟩,
  ⟨["tglg", "tagalog"], ["ISmvja"]⟩,
  ⟨["tagb", "tagbanwa"], ["IWembcbb"]⟩,
  ⟨["tale", "taile"], ["JPgBdce"]⟩,
  ⟨["lana", "taitham"], ["JXgCkbBcckgjgn"]⟩,
  ⟨["tavt", "taiviet"], ["CMOuCoye"]⟩,
  ⟨["takr", "takri"], ["EBMeCfgj"]⟩,
  ⟨["taml", "tamil"], ["EJibbfdcbddbbabbdbdcdleedcbdcagaouEALhBxna"]⟩,
  ⟨["tnsa", "tangsa"], ["FHGqDabj"]⟩,
  ⟨["tang", "tangut"], ["FJIeaBfJBziBDnTsi"]⟩,
  ⟨["telu", "telugu"], ["EOembcbwbpcibcbdhbbccacdcjhi"]⟩,
  ⟨["thaa", "thaana"], ["CVwBx"]⟩,
  ⟨["thai"], ["FHxCffBb"]⟩,
  ⟨["tibt", "tibetan"], ["FRsCtbBjeBmbBjbobgeb"]⟩,
  ⟨["tfng", "tifinagh"], ["RCyCdhboa"]⟩,
  ⟨["tirh", "tirhuta"], ["EASmCtij"]⟩,
  ⟨["todr", "todhri"], ["DVDgBz"]⟩,
  ⟨["toto"], ["HATkBe"]⟩,
  ⟨["tutg", "tulutigalari"], ["EAIqjbacabBlbjbacabdbjbbib"]⟩,
  ⟨["ugar", "ugaritic"], ["DUHcBdba"]⟩,
  ⟨["vaii", "vai"], ["CKMqLn"]⟩,
  ⟨["vith", "vithkuqi"], ["DVAekbobgbbbkbobgbb"]⟩,
  ⟨["wcho", "wancho"], ["HAVgCffa"]⟩,
  ⟨["wara", "warangciti"], ["ECHcDema"]⟩,
  ⟨["yezi", "yezidi"], ["DYLkBpbccb"]⟩,
  ⟨["yiii", "yi"], ["CIPkBSudCc"]⟩,
  ⟨["zanb", "zanabazarsquare"], ["ECUqCt"]⟩]

/-- The values of the property `Script_Extensions` that are not those of `Script`. -/
def sharedScripts : List NamedSet := [
  ⟨["adlm", "adlam"], ["CIhaBgaJWoaFHhaGLRiCxejeb"]⟩,
  ⟨["arab", "arabic"],
    ["CHcebIgbBhDcBvJgBebbfCwbBcIVnaFHhaCZRaEkqRccCbhaBgpEiebFeBMhBbEIeBeCpcCddDGLsdbBabbbacabjbd",
     "babagaeabababcbbbacabababababbbacdbgbdbdbabjbqfcbebqCab"]⟩,
  ⟨["armn", "armenian"], ["BDwaVgBlcBxccDOZje"]⟩,
  ⟨["avst", "avestan"], ["HbaRFsbDFQcCbdg"]⟩,
  ⟨["beng", "bengali"], ["BAyaCMubrbBadbhcbcvbgbaddcicbcdiaebbecyHDhabacbbaiaiacaeaccCBAfa"]⟩,
  ⟨["bopo", "bopomofo"], ["BBjabcnaqbRBxcejbmkdcagaHnajBqEiBfCZLtbKwe"]⟩,
  ⟨["bugi", "buginese"], ["JWaBbcbCCKta"]⟩,
  ⟨["buhd", "buhid"], ["IUnbjt"]⟩,
  ⟨["cari", "carian"], ["HbaLZmacaFGdaDCLqBw"]⟩,
  ⟨["aghb", "caucasianalbanian"], ["BDsaBsaBsaDTQnBzla"]⟩,
  ⟨["cakm", "chakma"], ["DTmjCKejDTFqCabr"]⟩,
  ⟨["cher", "cherokee"], ["BDocbagbwblbGFuDhcfCFJeDb"]⟩,
  ⟨["zyyy", "common"],
    ["aCmBafBaBublbbbexaBfaRhcbjbadabibabffectEwagabaYnaIhaTwaCAuaPpdGDblcBgbBebjbbbgbkdkborBgClB",
     "lbccfbBabqBpceZpwkvBJrJwYdcBfbEaTswbxcjbdbabzQcadananavaUjxBfaBxomdGfjfDrBfaJToClBHSqzDycBL",
     "oaobBFHsjwuclbsbdFrabBfBafBafExgbgkePmmBzBsCYNbJpgQtGaElCiJlkBmcCjdqibhBdeCiIftmtmDiBbgFfDg",
     "bCsbbcacbcdblbabgbCmbdchbgbBbbdbebadgbNbcLfcBxHThCpCyCiBBeBreDvmocobobBkkGrCezbbnBreixfFyBL",
     "veqdmdEoeDqgleapleCdijgBniBdclebCkNbmncmdjfCdhockgihFqbDxBSUXbaBeDr"]⟩,
  ⟨["copt", "qaac", "coptic"], ["HbaWmadbbaEebEenPJkElfgKtaDCPcBb"]⟩,
  ⟨["cprt", "cypriot"], ["DTImceBsdiCOmfcabBrbbdaca"]⟩,
  ⟨["cpmn", "cyprominoan"], ["DTImbRQkDu"]⟩,
  ⟨["cyrl", "cyrillic"], ["BAyaCpcbababacafaJeLrIVokGeaCyaExaGApBfCpaBTLkDrBHEcbDHPgCjBha"]⟩,
  ⟨["deva", "devanagari"], ["BAyaCJrDecBqHIeBmbbBNaaBZFrjGkBfBREmj"]⟩,
  ⟨["dogr", "dogra"], ["DOmlCIDcjBQIoCh"]⟩,
  ⟨["dupl", "duployan"], ["HbaWtbbaybQIhaFUQlEcfmdihjch"]⟩,
  ⟨["elba", "elbasan"], ["HbaWraDTScBn"]⟩,
  ⟨["ethi", "ethiopic"],
    ["BEcaFRdCubdcgbabdcBobdcBgbdcgbabdcobCebdcCocBfdzJVawjgbgbgbgbgbgbgbgBVKcfcfcfjgbgEPYfgbdbbb",
     "o"]⟩,
  ⟨["gara", "garay"], ["CHoaoadaDVQuBldBcib"]⟩,
  ⟨["geor", "georgian"], ["HbaBVlaEFeBlbafacBvEJwBqccBJmaEUnBlbafaJza"]⟩,
  ⟨["glag", "glagolitic"], ["HbaWpabaOsacaJxaEIraFViaEKrDrSpaBTNfaEOTkgbqcgbbbe"]⟩,
  ⟨["goth", "gothic"], ["HbaWqbcaBoaDSYoBa"]⟩,
  ⟨["gran", "grantha"], ["DNtbrbYqnGKaabbBecdbBNaaDNRjdbhcbcvbgbbbebjcbcccagafgcgdeERrbba"]⟩,
  ⟨["grek", "greek"],
    ["HbaWmbcababakaBuacaBqhcdbaeababcbabtbCkopJNqeByeeeDgcMgvcfcBlcfchbabababBecCabobncfbsccbiDq",
     "aHsaCAJeaBGNiDaraDAXrCr"]⟩,
  ⟨["gujr", "gujarati"], ["DNtbrbKxcbibcbvbgbbbecjbcbccapdclhgCHNsj"]⟩,
  ⟨["gong", "gunjalagondi"], ["HbaDHkbEANifbbbBkbbbfhj"]⟩,
  ⟨["guru", "gurmukhi"], ["DNtbrbFzcbfebcvbgbbbbbbcabeebccdahdbahqCHSzj"]⟩,
  ⟨["gukh", "gurungkhema"], ["DOnaFADeCf"]⟩,
  ⟨["hani", "han"],
    ["HbaRIuzbDkmIfBapbcbmbmbmcagiHfaFspBgBljaBwBnCeBwplBzaDkykeDsBebJTnCmBFBjCQyhBFBcObcEbBHrbKw",
     "eBQPobmbBLRarLRybFEsCLFbBgGDtgIncINpoLBkpXxDQwUvCFyHHyfGFf"]⟩,
  ⟨["hang", "hangul"], ["GLkJvLJlcejbmocgaHnaCbDpEjBeCnBeBTAnBcYtQNrmweBwOMzbKweCgBedfcfcfcc"]⟩,
  ⟨["rohg", "hanifirohingya"], ["CHoaoadaBgaFraDVHjBnij"]⟩,
  ⟨["hano", "hanunoo"], ["ITsw"]⟩,
  ⟨["hebr", "hebrew"], ["BDvbYyCciBaefDOVwzbebabbbbbj"]⟩,
  ⟨["hira", "hiragana"], ["SErcejbmqfbaebdDhchDmbCZTgbKwekaBtbCOUrLasaBdcYMva"]⟩,
  ⟨["zinh", "qaai", "inherited"],
    ["BEdacabodgcacpbbbrbebdCGmbGOxBeBDbCbbabeUebHmBfDFSqpqnBLnaCZQoBtcwUycrhcgBedBTLHiJf"]⟩,
  ⟨["java", "javanese"], ["CMEyCzbkeb"]⟩,
  ⟨["kthi", "kaithi"], ["DOojNXxaBUFejBNMsCoka"]⟩,
  ⟨["knda", "kannada"], ["DNtbrbBEombcbwbjbecibcbdhbgbbdcjbcGAeabbgaxabaCASxf"]⟩,
  ⟨["kana", "katakana"], ["BDtaBdaQZtcejbmqfbaebDnddDrJgpIaBubDjCYWbbKwCkCOUadbgbbbaLbcByaod"]⟩,
  ⟨["kali", "kayahli"], ["CMAaBv"]⟩,
  ⟨["khoj", "khojki"], ["EDijCHOijBOBmrbBu"]⟩,
  ⟨["sind", "khudawadi"], ["DOmbCIDmjBOIgCgfj"]⟩,
  ⟨["latn", "latin"],
    ["CnzgzBvamacafwbBebRgdakabcbajabageBbobbbapchbbbBmafaemKrbBVebCXkaEOiBlgBwfdfmbCrCfahJvLraCn",
     "anaqmDfaCfbgaBbarBoECtBfPraBTUmhBaDxdCocbbabhvnLqaTtBqbibdBEDqgBOkzgzDCffbBpbiDDNpBegf"]⟩,
  ⟨["limb", "limbu"], ["DOnaFXqBebleleadl"]⟩,
  ⟨["lina", "lineara"], ["DTItBsBVgLyjvkh"]⟩,
  ⟨["linb", "linearb"], ["DSYqlbzbsbbbocnBiEsfceBsdi"]⟩,
  ⟨["lisu"], ["BAyaqaRDkbBSFsBvBUMaa"]⟩,
  ⟨["lyci", "lycian"], ["MGoaDHQrBc"]⟩,
  ⟨["lydi", "lydian"], ["HbaRFtaDEXqzfa"]⟩,
  ⟨["mahj", "mahajani"], ["HbaDHklCIDcjBNUsBm"]⟩,
  ⟨["mlym", "malayalam"], ["DNtbrbBJmmbcbBybcbfepczFVeaxaCASzc"]⟩,
  ⟨["mand", "mandaic"], ["CJoaTrBbca"]⟩,
  ⟨["mani", "manichaean"], ["CJoaDUQxBmel"]⟩,
  ⟨["gonm", "masaramgondi"], ["DOmbEAJqgbbbBrdabbbiij"]⟩,
  ⟨["mero", "meroitichieroglyphs"], ["MGraDKHmBf"]⟩,
  ⟨["modi"], ["CLSajBPOwCqlj"]⟩,
  ⟨["mong", "mongolian"], ["JCizgDkhBqCWaaFZtbfdDJFwm"]⟩,
  ⟨["mult", "multani"], ["DYkjDWAagbabdbobk"]⟩,
  ⟨["mymr", "myanmar"], ["GBoGdCFUcaGvBeDtBfBPAmt"]⟩,
  ⟨["nand", "nandinagari"], ["DNtasbBImjGBhaiahaCASrfBQYshcBtck"]⟩,
  ⟨["newa"], ["DNtbHKcabbjagababaDPOsDnbe"]⟩,
  ⟨["nkoo", "nko"], ["CHoaoadaQaCgccDOWsb"]⟩,
  ⟨["onao", "olonal"], ["DOmbGYKwBqea"]⟩,
  ⟨["hung", "oldhungarian"], ["MGoacaFGdapaDGEgBynByhf"]⟩,
  ⟨["perm", "oldpermic"], ["HbaWmafckaOdaDSMuBq"]⟩,
  ⟨["orkh", "oldturkic"], ["MGoaFGfaDFZzCu"]⟩,
  ⟨["ougr", "olduyghur"], ["CJoaDUSvaBSfz"]⟩,
  ⟨["orya", "oriya"], ["DNtbrbPvcbhcbcvbgbbbecicbcchcebbecrGPeaxa"]⟩,
  ⟨["osge", "osage"], ["BDpacagaCyaDTLvBjeBj"]⟩,
  ⟨["phag", "phagspa"], ["JCkbbaDCjaFZuaBTNxCd"]⟩,
  ⟨["phlp", "psalterpahlavi"], ["CJoaDUYhrhdmg"]⟩,
  ⟨["runr", "runic"], ["IOuDk"]⟩,
  ⟨["samr", "samaritan"], ["DAuBtcoOJqa"]⟩,
  ⟨["shrd", "sharada"], ["DNtaHKfabacbcajacaCATefcaBNWpDr"]⟩,
  ⟨["shaw", "shavian"], ["HbaDUIaBv"]⟩,
  ⟨["sinh", "sinhala"], ["DOmbBOlcbrdxbibacgdaefbabhgjccFRpaDOTqt"]⟩,
  ⟨["sogd", "sogdian"], ["CJoaDWIpBp"]⟩,
  ⟨["sunu", "sunuwar"], ["BDobbajacaBcadaECGkBhoj"]⟩,
  ⟨["sylo", "sylotinagri"], ["DOmbEyjCHWiBs"]⟩,
  ⟨["syrc", "syriac"], ["BDrbcbbaychbbbBCcaobcaBgakkBaaFnnbChccKmkIEfaba"]⟩,
  ⟨["tglg", "tagalog"], ["ISmvjavb"]⟩,
  ⟨["tagb", "tagbanwa"], ["IUnbBpmbcbb"]⟩,
  ⟨["tale", "taile"], ["BDobfbdaEZzjDKwBdce"]⟩,
  ⟨["takr", "takri"], ["DOmbCIDmjBPTuCfgj"]⟩,
  ⟨["taml", "tamil"], ["DNtbrbUubbfdcbddbbabbdbdcdleedcbdcagaouGKdaCBBkaBOEfabaCdbETfBxna"]⟩,
  ⟨["tang", "tangut"], ["SEapTbaEQKmaBfJBziBDnTsi"]⟩,
  ⟨["telu", "telugu"], ["DNtbrbZqmbcbwbpcibcbdhbbccacdcjhiGEvbbabaxa"]⟩,
  ⟨["thaa", "thaana"], ["CHoaobcaCmjKsBxDPGqaka"]⟩,
  ⟨["thai"], ["BAyaBaaBraBtaEClCffBb"]⟩,
  ⟨["tibt", "tibetan"], ["FRsCtbBjeBmbBjbobgebMEvd"]⟩,
  ⟨["tfng", "tifinagh"], ["BDqababdzaPYaCdhboa"]⟩,
  ⟨["tirh", "tirhuta"], ["DNtbrbHJjamapaCASzjBPAcCtij"]⟩,
  ⟨["todr", "todhri"], ["BDpacacajabaCwaDTWbBz"]⟩,
  ⟨["toto"], ["BAyaGZSlBe"]⟩,
  ⟨["tutg", "tulutigalari"], ["EXajGBqabaCASxfHfaBOJejbacabBlbjbacabdbjbbib"]⟩,
  ⟨["yezi", "yezidi"], ["CHoaoadaCmjDWAgBpbccb"]⟩,
  ⟨["yiii", "yi"], ["SErbfjchIpaBQBcBSudCcBIIce"]⟩]

/-- The characters of a script. -/
def script? (name : String) : Option CharSet := NamedSet.find? scripts name

/-- The characters that a script uses, the ones that it shares with others included. -/
def scriptExtension? (name : String) : Option CharSet :=
  NamedSet.find? sharedScripts name <|> script? name

end AttributeSchema.Text.Unicode
