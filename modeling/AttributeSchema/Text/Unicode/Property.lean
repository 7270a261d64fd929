import AttributeSchema.Text.Unicode.Runs

/-!
# Binary properties

The Unicode properties that a character has or has not.
-/

namespace AttributeSchema.Text.Unicode

/-- The properties that a character has or has not, by their short and long names. -/
def properties : List NamedSet := [
  ⟨["alpha", "alphabetic"],
    ["CnzgzBvakaeafwbBebRpeloehabaDiaBdrbbcdbagabcbabtbDebFiiGjbBlcagBoBnnbabbbbbaiBaedBdkfCdbgoD",
     "xbheheckccaqBvnDwyBgjbeafxcstyhkfxbfiaiBpkldggCxbpbceonsbhcbcvbgbadddhcbcbbaiaebbembkaecbfe",
     "bcvbgbbbbbbeeebcbeahdbarflcbibcbvbgbbbedibcbbdapdvdecbhcbcvbgbbbedhcbcbjbebbenaqbbfdcbddbba",
     "bbdbdcdleedcbcdagaBombcbwbpdhbcbcibbccacdBcdbhbcbwbjbedhbcbcibgbbdncmmbcbBochbcbcbafdhewfbc",
     "brdxbibacgifbabhsbnCffggaBzbbabebxbabsbccebagaodBgaClhbBjesepbBjCpCcbaceqClkdcBlbafacBqbMub",
     "dcgbabdcBobdcBgbdcgbabdcobCebdcCoBlpqDhcfdXvcqbzfCwdkhtlumtmmbcbbmBzcsoaeaCpDkhBqfCrkBeblei",
     "xBdcelBrezCcBbeCkctByaxblcBxBzbobhBzBpcdkBrbkoCcwckBjckfBqccBpdbfbbdafHjtBhlKrcfcBlcfchbaba",
     "babBecCabgbadcbgddcfemfcbgEmanaqmDxaeacjbadegabababdbkcdfeearBoBFhBzCRuIugddbmBlbafacCdhaqw",
     "jgbgbgbgbgbgbgbgbBfBvaSbcziheceeDhgcbDlbdfBqbDprBfBwpTsJTnCmBGUeCpBtcKidpkbuBufhdEiBnicDycC",
     "ocbbabhvtbBgyBzmCpbaBsfdabckBgfBinBcdByblpaqpkebCcjnswdCqbabayccpcdlfcfcfjgbgbBqbngEsvQNrmw",
     "eBwMNcObcEbBmgmeflbmbebabbbbbEdBhNysClcCbBolEmebFeBkzgzlDkdfcfcfccBjlbzbsbbbocnBiEsCrCaKhBc",
     "dBwBvBfnBdfBqfBdcBjehbeBqGbsBjeBjeBniBzmkbobgbbbkbobgbbdBzmLyjvkhyfbBpbiCrfcabBrbbdacwkwjBe",
     "CnsbbkvkzCsCdgbCmdbbfhbcbBcBqBcdBcBjhbBbBbCbkvksnrEgCuCdBynBynBnBiBbdafwJqBpbbdbqcCdadBckai",
     "vBqrBuuBbwjCrBrekCejanyxByrdiBidajClbdjbkabaBjrbBhcagdCkgbabdbobjhCexdbhcbcvbgbbbedhcbcbdag",
     "afgBcjbacabBlbjbacabdbbdabaBsCnbcbducBeCncbbaHcCbcgzfBiCkbadaChCbcaCtBacnvgHdCeDzClBfhcachb",
     "bbBdbbcbcdDphcBtcfbabbBbBycjrCtfasCuHrBgBfibBsbgbaBxBdcvbnCvgbbbBrdabbbcbacbyfbbbBkbbbdbaMp",
     "wjqbBodcEhaDbBJlDyEgrHnDXkDspBPfrfzFXqfWkKDdBuCPdVwhBerDarBdsBvqdBfufsQqBsIdClEyCweCehqCmbb",
     "amboJBziBVpBpjNFrdbgbbbLepaBdccaodiPfDKuEcfmdihjeaIWfDgbCsbbcacbcdblbabgbCmbdchbgbBbbdbebad",
     "gbNbcybybBebybBebybBebybBebybhCSyBegfIfgbqcgbbbefCjBhaEiBskgqaMjBdsBrSqBbIuBdcaTbgbdbbbobHo",
     "ChCpdadaBUidbBabbbacabjbdbabagaeabababcbbbacabababababbbacdbgbdbdbabjbqfcbebqYezgzgzFMkCLFb",
     "BgGDtgIncINpoLBkpXxDQwUvCFyHHyfGFf"]⟩,
  ⟨["ahex", "asciihexdigit"], ["BwjhfBaf"]⟩,
  ⟨["bidic", "bidicontrol"], ["CIeaJVlbBaeCdd"]⟩,
  ⟨["ci", "caseignorable"],
    ["BnagalaBjabaCtaeabaeacbTjHjebeajbbaJrgHzafaBxBsbabbbbbaBsalfkkbaBjakuqaDxhbjbdBhabaBeBaDnkC",
     "gkeacayxBrcBsahbfiBpCfCdabaeheadgkbnapaCgaediaubBaacbCfaebebccdaBebdalbCfaeebbeaubwfbaCgaca",
     "bdiahblbBeaCjamaByadaCdabcfcbdhblbBdaCgacagafbubBcbCfbediaubBdaCuahcbaDmacgliDuacijabgCvbBb",
     "ababaCdnbebbfkbBjjaDydbfbbcbzbecqdnacbgapaDqaXkcBKkcBdbBebBebCmbbgiackdafaBteBzaCnbBiaEoceb",
     "jagcIlbcaCgabgbabachgjcaBnaiBeBxdBwabebafaBoimbBgdcbbcCeabbdabcCghcbCmfDecbmbgeagadbByCknaB",
     "iDwRdabclcncncnbmeibkacaceBxebjbanaqmBzBgEJrbEjcEvapaDsBfBvaSbaBkddefaDpfDpcBQBuaBWcfKkaDud",
     "bjbaBcdDcboBhDaaxcDzcdbiadaeazbfaFvbBarnaBmhzkBucBwacdcbravbCofcbcbmaiaBjalaBzabccbfbbaBbao",
     "bfbbaDwejcEracaeaBDZsaFrqWbpdampBiacaGnahagalaBjabaBvaBtbCpavcTtaIsaFteBNpfbBpbiWkcbbfdBoce",
     "aGjbWbdBmaBaebaMdbDbdCskBxdEtaCcoBpacbkcBxdcbcaeakaBycBkebhCkambCaikdcaDrccabbgacaGbadhvbCf",
     "bdaBlgdeCsfnababaobDhhccbaxaDgfbaebbbJedgbbbBbbDhhcabbEcabacfbaDxabacdbeJzibbJwbbaeaFodcbea",
     "BgjBofcdiajfccBumbbPqgbfbaDevcgbbbbEsfdabbbgbaCubdabaNjblbCaefabaxaHXdqgoQYyldcDSaeChgjdToc",
     "BobSoaClqCmbbbYGpdbgbbEUgbbdGYuBtcwUycjpcgBedFscCYdCceBxiaoaweboCAigbqcgbbbefCjBhaGenOeaCjd",
     "TneJubBCigEfhEBfeBSXXpaBeDrEyJf"]⟩,
  ⟨["cased"],
    ["CnzgzBvakaeafwbBebHmbdeHzbBjhbBeeDsaBqdcbcdbagabcbabtbDebFiiGjbBljBoEFfBlbafacBqbdZwDhcfDFu",
     "kfBqccCmHjCmKrcfcBlcfchbabababBecCabgbadcbgddcfemfcbgEmanaqmDxaeacjbadegabababdbfeacdfeearB",
     "fdbBFlBzCRuIugddbmBlbafaBTWcBtsBdFcDxddbCjcbbabhvebcBFpBqbngDbBEAigmeBNtzgzBTtDbDsBjeBjEmkb",
     "obgbbbkbobgbbRjaccbBpbiBUzBynByDpvkvEFiClBGIqClBMLkDgbCsbbcacbcdblbabgbCmbdchbgbBbbdbebadgb",
     "NbcybybBebybBebybBebybBebybhCSyjbtgfKbCjDGkCpDAazgzgz"]⟩,
  ⟨["cwcf", "changeswhencasefolded"],
    ["CnzDmakwbhBgabababababababababababababababababababababababababababacababababababababbbababa",
     "babababababababababababababababababababbbabababbbabbbccdbbbcdbbbbababbbacabbbcbabbdahbbbbbb",
     "abababababababacababababababababacbbabcbabababababababababababababababababababababababababa",
     "bababahbbbcabdbabababaJmaBqabadaiagabcbabbbqbiwamcdbbababababababababababababbcbbabbcByBwab",
     "abababababababababababababababajabababababababababababababababababababababababababababbbaba",
     "babababacababababababababababababababababababababababababababababababababababababababababab",
     "ababababababacBlBwaEFgBlbafaBFefDFujgBqccMiabababababababababababababababababababababababab",
     "abababababababababababababababababababababababababababababababababababababababababababababa",
     "bababababafbcababababababababababababababababababababababababababababababababababababababab",
     "abababababababababajhifkhihiflabababaihqBvcccffccfldmefccfLladbgaBtptaBFmzCSuBvBwabccababab",
     "dbacaicbabababababababababababababababababababababababababababababababababababababababababa",
     "bababababababaiabaeaBTYjababababababababababababababababababababababatababababababababababa",
     "bababaFfababababababadababababababababababababababababababababababababababababababakababbba",
     "bababaeabacabadababababababababababebebabababababababdbabbdafabababayaBIgDbBEAigmeBNtzBUzBn",
     "FgBjGakbobgbbCQcByGbvEGoBfBGJwBfBULkBh"]⟩,
  ⟨["cwcm", "changeswhencasemapped"],
    ["CnzgzCgakwbBebClbDfbBbcncbbaeDobrgBabbbabbdbbdbecabbcahacabbdffakbGkaBqdcbdcbagabcbabtbBudB",
     "gbebFciGjbBlkBmEFgBlbafacBqccZwDhcfDFukfBqccHdadaqaEjFzcabEncfcBlcfchbabababBecCabgbadcbgdd",
     "cfemfcbgLladbgaBbarBfdbBFlBzCRuEibbbbhDxhddbmBlbafaBTWcBtsBbFencCjjodccebybBdcbegybBHcaBcDb",
     "BEAigmeBNtzgzBTtDbDsBjeBjEmkbobgbbbkbobgbbCOpBynByDpvkvEFiClBGIqClBUKeCp"]⟩,
  ⟨["cwl", "changeswhenlowercased"],
    ["CnzDxwbgBhabababababababababababababababababababababababababababacabababababababacababababa",
     "bababababababababababababababababababbbabadbbabbbccdbbbcdbbbbababbbacabbbcbabbdahbbbbbbabab",
     "abababababacababababababababacbbabcbabababababababababababababababababababababababababababa",
     "bahbbbcabdbabababaLdabadaiagabcbabbbqbiBjaiabababababababababababafacabbcByBwababababababab",
     "abababababababababajabababababababababababababababababababababababababababbbabababababacaba",
     "bababababababababababababababababababababababababababababababababababababababababababababab",
     "acBlEHdBlbafaBBuDhDGlagBqccMiababababababababababababababababababababababababababababababab",
     "abababababababababababababababababababababababababababababababababababababababababababajaba",
     "bababababababababababababababababababababababababababababababababababababababababababababab",
     "abajhifkhihiflabababaihyhihihieleldmeleLladbgaBtptaBFmzCSuBvBwabccabababdbacaicbabababababa",
     "bababababababababababababababababababababababababababababababababababababababababababaiabae",
     "aBTYjababababababababababababababababababababababatabababababababababababababaFfabababababa",
     "badababababababababababababababababababababababababababababababakababbbabababaeabacabadabab",
     "ababababababababebebabababababababdbabbdafabababayaBHAhzBUzBnFgBjGakbobgbbCQcByGbvEGoBfBGJw",
     "BfBULkBh"]⟩,
  ⟨["cwt", "changeswhentitlecased"],
    ["DtzCgaBpxbhbabababababababababababababababababababababababababababacabababababababbbabababa",
     "bababababababababababababababababababacababccabacadafacadccacababacaeacadabacadabaeabbbbbab",
     "abababababababbbababababababababcbabadabababababababababababababababababababadababababababa",
     "babaiacbbaeababababfbbbabbdbbdbecabbcahacabbdffakbGkaBrabadadcsaBbBibbdcbababababababababab",
     "ababebacacaCaBvbababababababababababababababababajababababababababababababababababababababa",
     "babababababacababababababbbabababababababababababababababababababababababababababababababab",
     "abababababababababababababababaBxBmFMefDFuibaJeadaqaEkababababababababababababababababababa",
     "bababababababababababababababababababababababababababababababababababababababababababababab",
     "ababababababababababgfababababababababababababababababababababababababababababababababababa",
     "bababababababababababababiifkhihifkhihinchihihiebbgadcbbidcbihkcbbNeaBhpeaBGlzCTqBvbadbbaba",
     "bagacakabababababababababababababababababababababababababababababababababababababababababab",
     "abababababababaiabaeamBlbafaBTWdababababababababababababababababababababababatababababababa",
     "bababababababaFfababababababadababababababababababababababababababababababababababababababa",
     "kabacababababaeaeabbcabababababababababalabababababababaeabacadafababaBaaBHcaBcDbBEAigmeBOz",
     "zBVhBnFgBjFzkbobgbbCRbByEvvEGoBfBGJwBfBULmBh"]⟩,
  ⟨["cwu", "changeswhenuppercased"],
    ["DtzCgaBpxbhbabababababababababababababababababababababababababababacabababababababbbabababa",
     "bababababababababababababababababababacababccabacadafacadccacababacaeacadabacadabafbbbbbbab",
     "ababababababbbababababababababbbbbadabababababababababababababababababababadabababababababa",
     "baiacbbaeababababfbbbabbdbbdbecabbcahacabbdffakbGkaBrabadadcsaBbBibbdcbabababababababababab",
     "abebacacaCaBvbababababababababababababababababajabababababababababababababababababababababa",
     "bababababacababababababbbababababababababababababababababababababababababababababababababab",
     "ababababababababababababababaBxBmEHcBqccBDgfDFuibaJeadaqaEkabababababababababababababababab",
     "abababababababababababababababababababababababababababababababababababababababababababababa",
     "bababababababababababababgfabababababababababababababababababababababababababababababababab",
     "abababababababababababababababiifkhihifkhihincCabbeabadcbbeaddcbihkcbbeaMzaBhpeaBGlzCTqBvba",
     "dbbababagacakababababababababababababababababababababababababababababababababababababababab",
     "ababababababababababaiabaeamBlbafaBTWdababababababababababababababababababababababatabababa",
     "babababababababababaFfababababababadabababababababababababababababababababababababababababa",
     "bababakabacababababaeaeabbcabababababababababalabababababababaeabacadafababaBaaBHcaBcDbBEAi",
     "gmeBOzzBVhBnFgBjFzkbobgbbCRbByEvvEGoBfBGJwBfBULmBh"]⟩,
  ⟨["dash"], ["BtaCAuaBzaFKjaBNpaDBdfCjaBnapaPaaEOiacaBfbeaBcaReataEhaCZWabBlakaGnaFLoaMga"]⟩,
  ⟨["di", "defaultignorablecodepoint"],
    ["GraZxaBBoaEGwbCKhbDheDApeBaeBxpGKyaCZMppJfaGeaDbiCTLndHWxhBTKZlGBn"]⟩,
  ⟨["dep", "deprecated"], ["MraBYvaDKtabaDCjbDIjfBAvbBZRYka"]⟩,
  ⟨["dia", "diacritic"],
    ["DqabaCtagaeacbTjGcbhffrbeajbJteIbaCdBsbabbbbbaFbhebFebebdcCpBaDnkCgkBibEwhBpjqBbCjaqaddBcaC",
     "waqaEgaqaEgaqaBvcCiaqahaEpaEgaqaEgaqaEfbqaEuaEhamfbaEdaneCxbBbababaebCocbbCkaEiabbBobeezgba",
     "kbBBdcBKmbBeaFskjaNjcLgauhcaBwockEaapaBmiCcbCgalbCobCmfDeyeagaccByCkBwBjflBlkRdabclcncncnbE",
     "XkcMfaTmfEbdDraBSMkambbaBcbDeboBhDycEfbmaBlaFvaBbrCfdBkaDramaBkaFtcCndBzaDwejcEybBDZsaBDppK",
     "kabaBvaBtbCpaBDkaBTnfbBpbiYnceaGjbVzfBmaBaePjcCskBxdHkaBpaCubEqbCkaCyajcEabGwbDcbqaygdeDlcb",
     "bnbDradaEtbJrbEwaEobElaKjbJybeaGaaDfasaDdaQfaJyabbDdaQjbxaHYaoQZpaDSaeChgVsbVaqDcbYGcdbgbbL",
     "ThBtcwUycdfihcgBedFMwCjHmgOlaCjdBDmbBCigEfcbc"]⟩,
  ⟨["emoji"],
    ["BjagafjEhaeaLYramaIiawaDmfpbOdbmaGkazkecHraIxbkajaCgdbejacacbcaeacabbcadadbicfabafllbcabbba",
     "sacbsfbabbdbfacbeblbfbcafbbabbubffbdcaeacacfbacababagadagakbpacaeabaecbalbBwcjaoaoaOibRvctb",
     "BzaeaBVuamaXdabaGMRqaHuaGebmboacjCxzbbxauacivbGsBhcEhcbbccDeccbKcbCklfbxhbchmacdcaebnbcaibj",
     "afcmciccabaeagadagDhBwCrfhccejdabbdacjItleaKxBubjbHcEimdjfCdhockgi"]⟩,
  ⟨["ecomp", "emojicomponent"], ["BjagafjMBjaIfaDFTraDOIwzTneCEadBSVUqDr"]⟩,
  ⟨["emod", "emojimodifier"], ["HHIxe"]⟩,
  ⟨["ebase", "emojimodifierbase"],
    ["OLhaIlaqdGSJvaCiccaccEnbckvsdaecbchabayaHtbeavaebGscdeDfaqcjalaWdacaihgajjccCeaCjbbbbarcbmI",
     "vcBqi"]⟩,
  ⟨["epres", "emojipresentation"],
    ["NHqbHxddacaUbbvbBylBratanaibrbfbiafavahbbaeacahaebBcaBjabaecbaCjcyaoaBHbbBzaeaGPLeaHuaHiacj",
     "CxzbayauacebcvbGsBgmibCrbvmBqeemqdadCsbabHecCkndbxsaBabnaDiDgBwCrgadcccedlbhiItleaKxBubjbHc",
     "EimdjfCdhockgi"]⟩,
  ⟨["extpict", "extendedpictographic"],
    ["GnaeaLYramaIiawaDmfpbOdbmaDraCsazkecHraIxbkajaCgdbfblbEjkEnckbabagadagakbpacaeabaecbaleBtcj",
     "aoaoaOibRvctbBzaeaBVuamaXdabaGMRmJvncBfaCifmboacjsCeBbokauacibdjQrfMfiKfBwExEmlDhBqmdCehkfB",
     "ohBeDdmBubjbQyJwBNh"]⟩,
  ⟨["ext", "extender"],
    ["HbaUqbBHuaQzaYgaFhaDlaBCyaExaDNfaCeaXnaPiaCqaHKjaBreDzbDpcBQBuaCGsaBLaawaFhaEeavbBFZvaDBkbC",
     "FbaBbaeaBVbaLhaEmbTecBVjaBEOfbBTkbbaBQYabBUfaBGuc"]⟩,
  ⟨["grbase", "graphemebase"],
    ["BgDqBhmbWvEihcfegbabtbIphGjbBlcBxccBuabacacajBaefrjlabBtvpbDwiagbcaeBfcabBdBdDklaoBqjgdxeaj",
     "adahobyfabkfBerBpCfCcbabdidbchjcBcbbbhcbcvbgbadddabbgbcbbanbbcexfabfebcvbgbbbbbbecydbahjccb",
     "amabibcbvbgbbbeddiabbdapbelhaibbhcbcvbgbbbedacagbcbpbbcerlabfdcbddbbabbdbdcdlfabbdcbcdavugc",
     "bhbcbwbpdaddtccacbejhjbkbcbwbjbedbcabbybbbejbcokbcbBocabbfcbcbbecbjezcbbrdxbibacgjbgghjccmB",
     "vbblhimBlbbabebxbabjbbjacebajjcdBgxcBabababnbBjsafaceBxhbfbmBlBseagacbcycddpembbcfbobBnbafa",
     "cOmbdcgbabdcBobdcBgbdcgbabdcobCebdcCofBcdzgDhcfcZsdDkhrnsdbjrombcpBzcahhbblidjgjgkfjgDkhecB",
     "hbafCrkBeedccebbfhadBpcelBrezgkdCecbdCdbajabbifnjgjgnDiBvkddhbBcjlcBfebgCdbaccbanBvibfodCjf",
     "BqcklanahdbfbccafHjCmKrcfcBlcfchbabababBecCabobncfbsccbibkfxhBwqbcBabmdBgClFjeZpwkvCRrcBfbN",
     "fdbfBsbafacCdhbpwjgbgbgbgbgbgbgbgBhDpBizbDkmIfBaCfgpbDheDwfBqbDpbDhjBvbBRIqdCcjNjuBueakBfcD",
     "bcfiHxcbbabhvpbcbdbyceejgCdiCpklymbBliylamBdgBvbbebcbbmbkegbybBogbcblcbhbacjcBfbBybadbcecab",
     "ayqchlfcfcfjgbgbCheEmbbbddjgQNrmweBwMNcObcEbBmgmefabxbebabbbbbEuqRccCbhaBgpqjwBibsbdeebFeeG",
     "acBedfcfcfccdgbgnbclbzbsbbbocnBiEsfceBsdDjbmdaBvBsFbBcdBwqBaeBjjBdfBlkBdbBkenBqGbcjgBjeBjeB",
     "niBzllbobgbbbkbobgbbdBzmLyjvkhyfbBpbiCrfcabBrbbdacwbCtiiBwsbbfBgdBafaCmCdetcBupdbcbBckihihC",
     "lBgBkgljCbdBccBafzhdmgDcCuCdBynByhBpmjgBlixibIaBebBpdacbqcChBnivliwredBmBbuwjabCbpgeBdbbcam",
     "BwebcbbdoyhjjBjfajriBibclBzjabhebbpbtlrbBbdbefbbClgbabdbobkgBubcnjibbhcbcvbgbbbedababdcbcbd",
     "amgBcjbacabBlbabbpabbdabcbbBnCdibdabubabcBeBvbbgabbbacacdijGkBubbgdcacBaBkByibbacdljgmtBqba",
     "bbibgjgtBcBadabbeajwHdBujacaDwDemhcachbbbxbebbgdbcjjCshcBpidbdBbakBngbehjagbdBtnacinCuhjHaB",
     "hojgibBloabfkBcdBfzahacaCxgbbbBlvajjgfbbbBkebbabahjLyscdjobBjibdwDiapBxnBJmDyEgbelHnDXkDunB",
     "PfrfzFXqfWkKDdBdmcdjCOsVwhBebjeDcbjgBdhakBvhokjbgbufsQqCfHqDmDxCwfCdlmCmdBcJBziBVpBpjNFrdbg",
     "bbbLepaBdccaodiPfDKuEcfmdihjcacaFVkJpgQtGaElCiJlkBmcChfcwbhBdeCivCndaEstmtmDijyFfDgbCsbbcac",
     "bcdblbabgbCmbdchbgbBbbdbebadgbNbcLfcVpCddByhbnbgBRwBegfKbCjFqBskgcjebMiBdsBrejfaRwBbejIgBdc",
     "keaSmgbdbbbobHociBwCphaejebBEfCpCyCiHmdbBabbbacabjbdbabagaeabababcbbbacabababababbbacdbgbdb",
     "dbabjbqfcbebqCabKkBreDvmocobobBkkGrCeBcnBreihbofFyBLveqdmdEoeDqgleapleCdijgBniBdclebCkNbmnc",
     "mdjfCdhockgihFqbDxBNqCLFbBgGDtgIncINpoLBkpXxDQwUvCFyHHyfGFf"]⟩,
  ⟨["grext", "graphemeextend"],
    ["BDoEhKpgKdBsbabbbbbaCukBwuqaDxgcfcbbdBjaBeBaDnkCgijaydbibcbeBrcChiBqxbBfCdabaeheadgkbBdaCga",
     "bacdiajakbBaacbCfaebebccdaBebdalbCfaeebbeaubwfbaCgabbbdiahckbBeaChabamajaBoadaCdabcfcbdhblb",
     "BdaCgacbbadcbdhblbBcbCfbbacdiajakbBdaCuaeaccbaiaDdacgmhDuacilgCvbBbababaCdnbebbfkbBjjaDydbf",
     "bbcbzbecqdnacbgapaBBbcBKkdBccBdbBebCmbbgiackjaBtcbaEnbBiaEocebjagcIlbcaCgabgbabachgjcaBwBeB",
     "xdBwjecBmimbBgdcfCeabbdabeCehcbFwcbmbgeagadbHqClUeaHnBgEOccFlaDsBfVifEbbBSQedbjBgbDcbKmadae",
     "azbfaFvbBarnaBmhzkbaBscBwacdcbcaBkaCpfcbcbmaiaBvaBzabccbfbbaBqbiaJeacaeaBDZsaBCjpqpOcbXhaIs",
     "aFteCMgcbbfdBoceaGjbWbdCneMfbDbdCskBxdEtaCcoBpacbkcBxdcbhaCjcBkebhCkambCaibaidcaDrccdgacaGb",
     "adhvbCfbbabamajaogdeCpacfbacabcecbaobDhhccbaxaDdacfbacabbbbJbacdgbbbBbbDhhcabbEcabachDxabac",
     "dbeJzibbJlakdeaFodcbeaBgjBofcdiajfccBumbbPqgbfbaDevcgbbbbEsfdabbbgbaCubdabaNjblbCaefcxaHXta",
     "goQYyldcDSaeChgBOiaCldDdalbBDAxbGYzBtcwUwedfihcgBedFscCYdCceBxiaoaweboCAigbqcgbbbeDwaGegOla",
     "CjdTodJubBCigEfgBTCAfDrEyJf"]⟩,
  ⟨["grlink", "graphemelink"],
    ["DNpaExaExaExaExaExaExaExaEfbqaEuaEhaExaHtaGybCPlbBeaGbaZdaItaDxbCsbGQtaBUKkaBlaFvaFmaEeaLxa",
     "JmaBIAtaBaaBQwaCHiaBpaoaCfaErbFjaEmaGyaDuaCbabaiacaBzabbfcEjaExaJsaExaEoaEmaKjaJzbGfaDfasaD",
     "daQfaKabDdaQjbYYohgaEQic"]⟩,
  ⟨["hex", "hexdigit"], ["BwjhfBafDSLljhfBaf"]⟩,
  ⟨["hyphen"], ["BtaExaBVwaGZzaDBdbFIbaBClaCZUlaGnaDja"]⟩,
  ⟨["idcompatmathcontinue"], ["GwbfaMAgadkboOhaeawaGJJeazaBfazaBfazaBfazaBfaza"]⟩,
  ⟨["idcompatmathstart"], ["MWwaeawaGJJeazaBfazaBfazaBfazaBfaza"]⟩,
  ⟨["idc", "idcontinue"],
    ["BwjhzeabzBvakabacafwbBebRpeloehabarEmbbcdbagebabtbDebFibecGjbBlcagBoiBsbabbbbbaiBaedBdkfCve",
     "DxbhcjbscaqCgcDwoCbeacacBtsBbekfxbfiCwbEycjbsbhcbcvbgbaddcicbcdiaebbeclkabaccbfebcvbgbbbbbb",
     "cabeebccdahdbahplcbibcbvbgbbbecjbcbccapdcjjgbcbhcbcvbgbbbecicbcchcebbecjbaqbbfdcbddbbabbdbd",
     "cdleedcbdcagaojqmbcbwbpcibcbdhbbccacdcjqdbhbcbwbjbecibcbdhbgbbdcjbcmmbcbBybcbefdhecjkfbcbrd",
     "xbibacgdaefbabhgjcbnCffobjBnbbabebxbabwcebabgbjcdBgaxbgjlababaejbBjetbrbBjjaCfCvgCzcBlbafac",
     "BqbMubdcgbabdcBobdcBgbdcgbabdcobCebdcCoccjiopqDhcfdXvcqbzfCwdkhvjvltmmbcbbmDfdaebcjBhcbkgDk",
     "hBqfCrkBeblelkBncelBrezgkBlBbeCkbBcckgjnainbpBxCydjrimElmCdijdBwckfBqccqcbBmfUncfcBlcfchbab",
     "ababBecCabgbadcbgddcfemfcbgpbBxbtaBcanaqmBzmeadlraeacjbacfgabababpcdfeearBoDZbIugimBlbafacC",
     "dhapxjgbgbgbgbgbgbgbgbBfTxczobeceeDhcgbDqfBqbDprBfBwpTsJTnCmBGUeCpBtcKidBbuBvejbEkBlicDycCo",
     "cbbabhvCbeatBzmCrkjgxdabBwcBjmBcdCmokgBebCcjncjgwdCuyccpcekfcfcfjgbgbBqbngEsbbcjgQNrmweBwMN",
     "cObcEbBmgmeflbmbebabbbbbEdBhNysClcCbBolepqpdbycBgebFetjhzeabzkDldfcfcfccBjlbzbsbbbocnBiEsCr",
     "CaFgaFaBcdBwpaBfBfnBdfBqfBdcBjehbeBqGbcjgBjeBjeBniBzmkbobgbbbkbobgbbdBzmLyjvkhyfbBpbiCrfcab",
     "BrbbdacwkwjBeCnsbbkvkzCsCdgbCmdbbfhbcbBccceaBgBcdBcBjhbBdzCbkvksnrEgCuCdBynBynBnijgBldebwJq",
     "BpbbdbqcCdBgkaiBgBfvBquBbwjCsBfpjChhanyhjgCabjediBjcajCqedbmbaBjrbBkgdCkgbabdbobjhCgfjgdbhc",
     "bcvbgbbbebjcbcccagafgcgdeljbacabBlbjbacabdbhnbBdCwfjedBeCrbaijGkCbcixfBiCmdaljBmCehjgtBcBac",
     "oejggHdCgDxCvvhcachbbbBdbbcimjCshcBtchbbBbCkiaiCvdasCuHrBgpjgibBsbipjyBdcvbnCvgbbbBrdabbbii",
     "jgfbbbBkbbbfhjLywjqbBodenkDhaDbBJlDyEgrHnDXkDspBPfqvkFXqfWkKDdCfCOsVwhBebjgDabjgBdcelCcjdmj",
     "jufsQqBsdjHqClEyCweCehqCmbbblboJBziBVpBpjNFrdbgbbbLepaBdccaodiPfDKuEcfmdihjdbGErjTyBtcwUwed",
     "fihcgBedFscRbDgbCsbbcacbcdblbabgbCmbdchbgbBbbdbebadgbNbcybybBebybBebybBebybBebybhcBxTsCceBx",
     "iaoaweboBQmBegfIfgbqcgbbbefCjBhaEiBsdncjeaMjBerCfScBpIgBqSrgbdbbbobHolgBpCxejBTudbBabbbacab",
     "jbdbabagaeabababcbbbacabababababbbacdbgbdbdbabjbqfcbebqFAajBNqCLFbBgGDtgIncINpoLBkpXxDQwUvC",
     "FyHHyfGFfBONHgJf"]⟩,
  ⟨["ids", "idstart"],
    ["CnzgzBvakaeafwbBebRpeloehabaEzebbcdbagabcbabtbDebFiiGjbBlcagBoCtBaedBtBqBjbbDubapbhbkccaqab",
     "BdBdDklayBgjbeafveajadaxyhkfxbfrBpCgCbdasahjppehcbcvbgbadddaqanbbcobkaifebcvbgbbbbbbBfdbatc",
     "qibcbvbgbbbedasapbxalhcbcvbgbbbedaBebbcparabfdcbddbbabbdbdcdlwaCahbcbwbpdaBaccacbBeaehbcbwb",
     "jbedaBfbbbpbribcbBocaqafcicyffrdxbibacgCgBvbbmgCgbbabebxbabjbbjacebavdBgaClhbBjBbeElBquaqfe",
     "ddadbhcemmarBlbafacBqbMubdcgbabdcBobdcBgbdcgbabdcobCebdcCoBlpqDhcfdXvcqbzfCwdkhrnsorombcpBz",
     "BjaeaCpDkhBobafCrkBeBxBdcelBrezCcwjCaDeaDpBurhCcBdnbkBrBaBjBpckBjckfBqccBpdbfbbdafHjCmKrcfc",
     "BlcfchbabababBecCabgbadcbgddcfemfcbgEmanaqmDxaeacjbacfgabababpcdfeearBoDZbIugddbmBlbafacCdh",
     "aqwjgbgbgbgbgbgbgbgVecziheceeDheebDlbdfBqbDprBfBwpTsJTnCmBGUeCpBtcKidpkbuBuqBecDbBnicDycCoc",
     "bbabhvpbcbdbwBdBzoBxCkfdabblBbkwzBchBuBcaqebjkebBoxcbhuwdadBxbadbcecabaycckhcmfcfcfjgbgbBqb",
     "ngEkBdQNrmweBwMNcObcEbBmgmefabjbmbebabbbbbEdBhNysClcCbBolEmebFeBkzgzlDkdfcfcfccBjlbzbsbbboc",
     "nBiEsCrCaKhBcdBwBvBfnBdfBlkBdcBjehbeBqGbsBjeBjeBniBzmkbobgbbbkbobgbbdBzmLyjvkhyfbBpbiCrfcab",
     "BrbbdacwkwjBeCnsbbkvkzCsCdgbCmapdbcbBcBqBcdBcBjhbBbBbCbkvksnrEgCuCdBynBynBjBmBbjwJqBpgbqcCh",
     "BckaivBqrBuuBbwmCaCfbcanBsBgyBaBjBdacaiBidamBvodvabaBjrbytbClgbabdbobjhBuBmhcbcvbgbbbedasam",
     "eBejbacabBlbazabaBsCasducBeBvubbaHcBuBpdBkBvuaChBqnaCtBaBlgHdBrEmClBfhcachbbbxpabaDqhcBmqab",
     "aBcakBnhavalBttasCuHrBgBfibBkraBxBdEigbbbBlvazfbbbBfoaMpspabmbBhEuaDbBJlDyEgrHnDXkDspBPfrfz",
     "FXqfWkKDdBdCPuVwhBerDarBdsBvqdBfufsQqBsIdClEyCwfaComCmbbaBcJBziBVpBpjNFrdbgbbbLepaBdccaodiP",
     "fDKuEcfmdihjIWkDgbCsbbcacbcdblbabgbCmbdchbgbBbbdbebadgbNbcybybBebybBebybBebybBebybhCSyBegfK",
     "bCjFqBskgqaMjBdsBrSqBbIuBdcaTbgbdbbbobHoChCphaBUidbBabbbacabjbdbabagaeabababcbbbacababababa",
     "bbbacdbgbdbdbabjbqfcbebqGOaCLFbBgGDtgIncINpoLBkpXxDQwUvCFyHHyfGFf"]⟩,
  ⟨["ideo", "ideographic"],
    ["SEwbziocBLdJTnCmBFBjBHSiObcEbBSIkaBbJBziBVpBpjNUlPfBDEiCLFbBgGDtgIncINpoLBkpXxDQwUvCFyHHyfG",
     "Ff"]⟩,
  ⟨["idsb", "idsbinaryoperator"], ["SEabcjTda"]⟩,
  ⟨["idst", "idstrinaryoperator"], ["SEcb"]⟩,
  ⟨["idsu", "idsunaryoperator"], ["SEob"]⟩,
  ⟨["joinc", "joincontrol"], ["MDob"]⟩,
  ⟨["loe", "logicalorderexception"], ["FKieEteEDsccaCCXmbcabb"]⟩,
  ⟨["lower", "lowercase"],
    ["DtzBvakaeaBkxbhbabababababababababababababababababababababababababababbbabababababababbbaba",
     "bababababababababababababababababababababacababccabacadbeacadccacababacabbbacadabacbccgacac",
     "ababababababababbbababababababababbcabadabababababababababababababababababababababababababa",
     "babababgcacbbaeababababCqbBjhbBeeDsaBrabadacdsaBbBibbdcbabababababababababababebacacbBzBvba",
     "babababababababababababababababajababababababababababababababababababababababababababacabab",
     "ababababbbababababababababababababababababababababababababababababababababababababababababa",
     "bababababababaBwBoEHbBqbdBDgfDFuibaEnHjCnababababababababababababababababababababababababab",
     "abababababababababababababababababababababababababababababababababababababababababababababa",
     "babababibababababababababababababababababababababababababababababababababababababababababab",
     "abababababababiifkhihifkhihinchihihiebbgadcbbidcbihkcbbEranaqmEfadbdaBbaeaeacbideaBhpeaBGlz",
     "CTqBvbadbbababaeabbbhdababababababababababababababababababababababababababababababababababa",
     "bababababababababababababababbhabaeamBlbafaBTWdabababababababababababababababababababababab",
     "atabababababababababababababcFdababababababcbababababababababababababababababababababababab",
     "abababababababjbabacababababaeabacabcbabababababababababafafabababababababaeabacadababababa",
     "bawcbabcBFpBqbngDbBEAigmeBOzzBVhBnFgBjFzkbobgbbRjaccbBpbiBXlByEvvEGoBfBGJwBfBMMkzBagbrBazBa",
     "dbabgbkBazBazBazBazBazBazBazBazBaBbBcybfBaybfBaybfBaybfBaybfbaCSyjbtgfKbCjDHsBh"]⟩,
  ⟨["math"],
    ["BraqcBfaBdabaBtaeaBlaBfaBCaccaBabccUhcJWnaBbcladanaodveleCnmeadbeesaeacjbacfgadbcbbcbfdnbaC",
     "qxbfbbebeBfbagboKhidubDmaBeBabayalgRdbmjefebcbdeoabacflhfbCfabaBddjcMyClJwTrBwucfDASqaBFrfb",
     "aGgaqcBdabaBdabaFbagdFEfbCXDwDgbCsbbcacbcdblbabgbCmbdchbgbBbbdbebadgbNbcLfcBxIIqdbBabbbacab",
     "jbdbabagaeabababcbbbacabababababbbacdbgbdbdbabjbqfcbebqCab"]⟩,
  ⟨["mcm", "modifiercombiningmark"], ["CKibcaFbagadbSnbbcdaBfa"]⟩,
  ⟨["nchar", "noncharactercodepoint"],
    ["DSDcBfUgbDSYobDSYobDSYobDSYobDSYobDSYobDSYobDSYobDSYobDSYobDSYobDSYobDSYobDSYobDSYobDSYob"]⟩,
  ⟨["oalpha", "otheralphabetic"],
    ["BGfaBdmWenbabbbbbaCukBwmbgqaDxgedcbeaBjaBepDykDxbdibcbdEcaCildggtCcbcobbfckbBdcCggcbcbkakbB",
     "dcCgeebcbeaBebdalcCghbcbbvbwcecCggcbcbjbkbBeaChedcbckaBoeCfgbcbciblbBdcCggbcbciblbpamdCggbc",
     "bckakbBdcCxfbabhsbCjacgsaDvacfbbqaGhsjkbBjEglbacdxdecbccgddnlbakdCLobBebBebBebCosHgbBiaEole",
     "iIoeCfjctCwblcBxeBwoCicBeicbCfkBysPwBhCOnBzDKgBfBTQahBibNqaiaxeDkbBypbaCfaBmeBclBtdBwlBlaCp",
     "nmaibBtcByabccbfaBsefaJdhBDZvaDEdeCMgcbbfdBEidCnaMjbDbaJzcCbnBtblcBtijaCjcBklsbCfcBwmobDoic",
     "agacaGbjxdCggcbcbkakbDgibacabdbbDzmbcEcrJdgcgBdbDeobaEckDznJxmJnfbbcbdabaFmgcfeaBcjBqebdskB",
     "unPrhbgDfvbnEsfdabbbcbadaCoebbbdNkdjbbaBwgdcYYnqFJcabCchdDpbBDAyaNKjgbqcgbbbeDwaDHvaCZwzgzg",
     "z"]⟩,
  ⟨["odi", "otherdefaultignorablecodepoint"], ["BGpaFIlbCKhbDHnaGLiaDACpaDbiBWMIhabBdDsExJgFIl"]⟩,
  ⟨["ogrext", "othergraphemeextend"],
    ["DRyayaNuayaDyayaIyabaebbbjbDzayaEpapaDMraBeaBNkafabafbDxaCtbBOiaGCvbBTWtaEeaBGNlbGWmaEmaKea",
     "oajaDsajacabcfaIqamaJhaKcaYjamaCHfaBEOkbBKXnbgfBTLAzDr"]⟩,
  ⟨["oidc", "otheridcontinue"], ["HbaBBraGAjiCLcaCIzbGKraDAEja"]⟩,
  ⟨["oids", "otheridstart"], ["JHlbDGjavaFVwb"]⟩,
  ⟨["olower", "otherlowercase"],
    ["GoapaThihbBeeDsaCaaFCzaEPzCknaBiBkBAnanaqmIdpBGqzCWobBUGkbIcaEzcdbBHidjaBIWsaccbBpbiDDZhCj"]⟩,
  ⟨["omath", "othermath"],
    ["DqaBHxccaBabcbKQyaBbclaBgdybobCnmeadbeesaeacjbadegadbcbbcbfddfeCxecdbbbbbabecbebercbbabgbag",
     "bLedGmbbayaraRdbmifefbcbdeoabacfybCfabaBddjbNebBfjPnvCldBgbDCLfabaeaIdabaDCOvDgbCsbbcacbcdb",
     "lbabgbCmbdchbgbBbbdbebadgbNbcybybBebybBebybBebybBebybhcBxIIqdbBabbbacabjbdbabagaeabababcbbb",
     "acabababababbbacdbgbdbdbabjbqfcbebq"]⟩,
  ⟨["oupper", "otheruppercase"], ["MQqpBGgzGSIyzgzgz"]⟩,
  ⟨["patsyn", "patternsyntax"],
    ["BhokgBadbaBadBigbabbbabbeaeadaxaBfaLUexiocsbjLtBBrGeYfBeBRnTsExOvceypaCZQzbKbb"]⟩,
  ⟨["patws", "patternwhitespace"], ["jesaDwaLYmbyb"]⟩,
  ⟨["pcm", "prependedconcatenationmark"], ["CHcfIhaBxaOubDcaDVXyapa"]⟩,
  ⟨["qmark", "quotationmark"], ["BiaeaFbapaLWuhzbFIdaRpdncDABpdHhaeaDmb"]⟩,
  ⟨["radical"], ["RPwzbDkmIf"]⟩,
  ⟨["ri", "regionalindicator"], ["HGOkz"]⟩,
  ⟨["sterm", "sentenceterminal"],
    ["BhamaqaCAbaFrcGyaBrcJmaCjabadbLhbCPwbBEkaebBDtaHqbGbbBtafaMcbNqdGgbkbcbBdcHfbCnbBJwaxbjcEUx",
     "cLuanawbQnaBSHwaKkbItadaOsbDibDraFwbFrcFobJpaBFCwacbChadbGnamaqaCnaEDwbBXdeBsdHhbEndExcEzbg",
     "aqbDkbbbEeaLmbEnbOjbfoEbbJpcTxabaJrbDjbQebBAqbCwbBCMbbFdaCnblaVhbLkaBDOgaLIma"]⟩,
  ⟨["sd", "softdotted"],
    ["EbbHoaKvaBeaCaauaMiaDuabaJMnaBzanadaFcaGbaQfaIgbEGgaGELhbBybBybBybBybBybBybBybBybBybBybBybB",
     "ybDFyaLtbBaa"]⟩,
  ⟨["term", "terminalpunctuation"],
    ["BhakabalbdaBFyaiaTtaCfaCuaoabcGyaBrkbaJbbCcfbhBfaKbbBWubGqaefLzbBEjhBDtaEucCtbGbcdaBndcbMcb",
     "NqdGgbkbbcBdcHfeCkbBJwaxbjcEUxcLuanaeakabbdbQmbBSHvbKjcIteOsbDibDraFvcFrcExaqbJpaBFCwacbCfc",
     "bdGnakabalbdaCnacaBPqaBwaBSoaHraLybFwfCqfDldBKqeBsdHhgEidExcEzbgaqbDkeEeaLmbEncmbNuddoEbbJp",
     "cTxabaJrbDjbebPycBtaYvbCwbBYxeBAMzbFdaCnckaVhbLjbBDOgaLIld"]⟩,
  ⟨["uideo", "unifiedideograph"],
    ["TSaJTnCmBFBjBICsbbabbkababbccDVEcCLFbBgGDtgIncINpoLBkpXxGRqHHyfGFf"]⟩,
  ⟨["upper", "uppercase"],
    ["CnzDxwbgBhabababababababababababababababababababababababababababacabababababababacababababa",
     "bababababababababababababababababababbbabadbbabbbccdbbbcdbbbbababbbacabbbcbabbdahacacacabab",
     "abababababacababababababababacacabcbabababababababababababababababababababababababababababa",
     "bahbbbcabdbabababaLdabadaiagabcbabbbqbiBjaccdabababababababababababafacabbcByBwabababababab",
     "ababababababababababajabababababababababababababababababababababababababababbbabababababaca",
     "bababababababababababababababababababababababababababababababababababababababababababababab",
     "abacBlEHdBlbafaBBuDhDGlagBqccMiabababababababababababababababababababababababababababababab",
     "ababababababababababababababababababababababababababababababababababababababababababababaja",
     "bababababababababababababababababababababababababababababababababababababababababababababab",
     "ababajhifkhihiflabababaihCudmdmdmeldKcaeadccccadegabababdcdkbfaBaptaBFmzCSuBvBwabccabababdb",
     "acaicbababababababababababababababababababababababababababababababababababababababababababa",
     "babababababaiabaeaBTYjababababababababababababababababababababababatabababababababababababa",
     "babaFfababababababadababababababababababababababababababababababababababababababakababbbaba",
     "babaeabacabadababababababababababebebabababababababdbabbdafabababayaBHAhzBUzBnFgBjGakbobgbb",
     "CQcByGbvEGoBfBGJwBfBMMqzBazBazBaabbcacbcdbhBazBabbdchbgBbbbdbebadgBbzBazBazBazBazBazBeyBhyB",
     "hyBhyBhyBhaGNlBhDBizgzgz"]⟩,
  ⟨["vs", "variationselector"], ["JCtcbaDJCapBWNKyJf"]⟩,
  ⟨["wspace", "space", "whitespace"], ["jesaDwaBaaIHjaDPnkBdbfaBvaFXwa"]⟩,
  ⟨["xidc", "xidcontinue"],
    ["BwjhzeabzBvakabacafwbBebRpeloehabarEmbbdcbagebabtbDebFibecGjbBlcagBoiBsbabbbbbaiBaedBdkfCve",
     "DxbhcjbscaqCgcDwoCbeacacBtsBbekfxbfiCwbEycjbsbhcbcvbgbaddcicbcdiaebbeclkabaccbfebcvbgbbbbbb",
     "cabeebccdahdbahplcbibcbvbgbbbecjbcbccapdcjjgbcbhcbcvbgbbbecicbcchcebbecjbaqbbfdcbddbbabbdbd",
     "cdleedcbdcagaojqmbcbwbpcibcbdhbbccacdcjqdbhbcbwbjbecibcbdhbgbbdcjbcmmbcbBybcbefdhecjkfbcbrd",
     "xbibacgdaefbabhgjcbnCffobjBnbbabebxbabwcebabgbjcdBgaxbgjlababaejbBjetbrbBjjaCfCvgCzcBlbafac",
     "BqbMubdcgbabdcBobdcBgbdcgbabdcobCebdcCoccjiopqDhcfdXvcqbzfCwdkhvjvltmmbcbbmDfdaebcjBhcbkgDk",
     "hBqfCrkBeblelkBncelBrezgkBlBbeCkbBcckgjnainbpBxCydjrimElmCdijdBwckfBqccqcbBmfUncfcBlcfchbab",
     "ababBecCabgbadcbgddcfemfcbgpbBxbtaBcanaqmBzmeadlraeacjbacfgabababpcdfeearBoDZbIugimBlbafacC",
     "dhapxjgbgbgbgbgbgbgbgbBfTxczobeceeDhcbccbDqfBqbDprBfBwpTsJTnCmBGUeCpBtcKidBbuBvejbEkBlicDyc",
     "CocbbabhvCbeatBzmCrkjgxdabBwcBjmBcdCmokgBebCcjncjgwdCuyccpcekfcfcfjgbgbBqbngEsbbcjgQNrmweBw",
     "MNcObcEbBmgmeflbmbebabbbbbEdBhFigIjsClcCbBojgpqpdbycBhabadababababEvtjhzeabzkDldfcfcfccBjlb",
     "zbsbbbocnBiEsCrCaFgaFaBcdBwpaBfBfnBdfBqfBdcBjehbeBqGbcjgBjeBjeBniBzmkbobgbbbkbobgbbdBzmLyjv",
     "khyfbBpbiCrfcabBrbbdacwkwjBeCnsbbkvkzCsCdgbCmdbbfhbcbBccceaBgBcdBcBjhbBdzCbkvksnrEgCuCdBynB",
     "ynBnijgBldebwJqBpbbdbqcCdBgkaiBgBfvBquBbwjCsBfpjChhanyhjgCabjediBjcajCqedbmbaBjrbBkgdCkgbab",
     "dbobjhCgfjgdbhcbcvbgbbbebjcbcccagafgcgdeljbacabBlbjbacabdbhnbBdCwfjedBeCrbaijGkCbcixfBiCmda",
     "ljBmCehjgtBcBacoejggHdCgDxCvvhcachbbbBdbbcimjCshcBtchbbBbCkiaiCvdasCuHrBgpjgibBsbipjyBdcvbn",
     "CvgbbbBrdabbbiijgfbbbBkbbbfhjLywjqbBodenkDhaDbBJlDyEgrHnDXkDspBPfqvkFXqfWkKDdCfCOsVwhBebjgD",
     "abjgBdcelCcjdmjjufsQqBsdjHqClEyCweCehqCmbbblboJBziBVpBpjNFrdbgbbbLepaBdccaodiPfDKuEcfmdihjd",
     "bGErjTyBtcwUwedfihcgBedFscRbDgbCsbbcacbcdblbabgbCmbdchbgbBbbdbebadgbNbcybybBebybBebybBebybB",
     "ebybhcBxTsCceBxiaoaweboBQmBegfIfgbqcgbbbefCjBhaEiBsdncjeaMjBerCfScBpIgBqSrgbdbbbobHolgBpCxe",
     "jBTudbBabbbacabjbdbabagaeabababcbbbacabababababbbacdbgbdbdbabjbqfcbebqFAajBNqCLFbBgGDtgIncI",
     "NpoLBkpXxDQwUvCFyHHyfGFfBONHgJf"]⟩,
  ⟨["xids", "xidstart"],
    ["CnzgzBvakaeafwbBebRpeloehabaEzebbdcbagabcbabtbDebFiiGjbBlcagBoCtBaedBtBqBjbbDubapbhbkccaqab",
     "BdBdDklayBgjbeafveajadaxyhkfxbfrBpCgCbdasahjppehcbcvbgbadddaqanbbcobkaifebcvbgbbbbbbBfdbatc",
     "qibcbvbgbbbedasapbxalhcbcvbgbbbedaBebbcparabfdcbddbbabbdbdcdlwaCahbcbwbpdaBaccacbBeaehbcbwb",
     "jbedaBfbbbpbribcbBocaqafcicyffrdxbibacgCgBvbangCgbbabebxbabjbakacebavdBgaClhbBjBbeElBquaqfe",
     "ddadbhcemmarBlbafacBqbMubdcgbabdcBobdcBgbdcgbabdcobCebdcCoBlpqDhcfdXvcqbzfCwdkhrnsorombcpBz",
     "BjaeaCpDkhBobafCrkBeBxBdcelBrezCcwjCaDeaDpBurhCcBdnbkBrBaBjBpckBjckfBqccBpdbfbbdafHjCmKrcfc",
     "BlcfchbabababBecCabgbadcbgddcfemfcbgEmanaqmDxaeacjbacfgabababpcdfeearBoDZbIugddbmBlbafacCdh",
     "aqwjgbgbgbgbgbgbgbgVecziheceeDhgcbDlbdfBqbDprBfBwpTsJTnCmBGUeCpBtcKidpkbuBuqBecDbBnicDycCoc",
     "bbabhvpbcbdbwBdBzoBxCkfdabblBbkwzBchBuBcaqebjkebBoxcbhuwdadBxbadbcecabaycckhcmfcfcfjgbgbBqb",
     "ngEkBdQNrmweBwMNcObcEbBmgmefabjbmbebabbbbbEdBhFigIjsClcCbBojEpabadababababEvBkzgzlCdcBedfcf",
     "cfccBjlbzbsbbbocnBiEsCrCaKhBcdBwBvBfnBdfBlkBdcBjehbeBqGbsBjeBjeBniBzmkbobgbbbkbobgbbdBzmLyj",
     "vkhyfbBpbiCrfcabBrbbdacwkwjBeCnsbbkvkzCsCdgbCmapdbcbBcBqBcdBcBjhbBbBbCbkvksnrEgCuCdBynBynBj",
     "BmBbjwJqBpgbqcChBckaivBqrBuuBbwmCaCfbcanBsBgyBaBjBdacaiBidamBvodvabaBjrbytbClgbabdbobjhBuBm",
     "hcbcvbgbbbedasameBejbacabBlbazabaBsCasducBeBvubbaHcBuBpdBkBvuaChBqnaCtBaBlgHdBrEmClBfhcachb",
     "bbxpabaDqhcBmqabaBcakBnhavalBttasCuHrBgBfibBkraBxBdEigbbbBlvazfbbbBfoaMpspabmbBhEuaDbBJlDyE",
     "grHnDXkDspBPfrfzFXqfWkKDdBdCPuVwhBerDarBdsBvqdBfufsQqBsIdClEyCwfaComCmbbaBcJBziBVpBpjNFrdbg",
     "bbbLepaBdccaodiPfDKuEcfmdihjIWkDgbCsbbcacbcdblbabgbCmbdchbgbBbbdbebadgbNbcybybBebybBebybBeb",
     "ybBebybhCSyBegfKbCjFqBskgqaMjBdsBrSqBbIuBdcaTbgbdbbbobHoChCphaBUidbBabbbacabjbdbabagaeababa",
     "bcbbbacabababababbbacdbgbdbdbabjbqfcbebqGOaCLFbBgGDtgIncINpoLBkpXxDQwUvCFyHHyfGFf"]⟩]

/-- The set of a property. -/
def property? (name : String) : Option CharSet := NamedSet.find? properties name

end AttributeSchema.Text.Unicode
