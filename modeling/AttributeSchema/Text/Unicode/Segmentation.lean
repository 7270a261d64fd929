import AttributeSchema.Text.Unicode.Runs

/-!
# Text boundaries

The Unicode properties `Grapheme_Cluster_Break`, `Word_Break` and `Sentence_Break`, apart from the value
of the characters without a part in them.
-/

namespace AttributeSchema.Text.Unicode

/-- The values of the property `Grapheme_Cluster_Break`. -/
def graphemeBreaks : List NamedSet := [
  ⟨["cn", "control"], ["ajbbbrDrBgnaCBmaGUraDAqacbygBxpDGHjaJglTUapBZQudHWxhBTKZlBfDsExJgFIl"]⟩,
  ⟨["cr"], ["na"]⟩,
  ⟨["ex", "extend"],
    ["BDoEhKpgKdBsbabbbbbaCukBwuqaDxgcfcbbdBjaBeBaDnkCgijaydbibcbeBrcChiBqxbBfCdabaeheadgkbBdaCga",
     "bacdiajakbBaacbCfaebebccdaBebdalbCfaeebbeaubwfbaCgabbbdiahckbBeaChabamajaBoadaCdabcfcbdhblb",
     "BdaCgacbbadcbdhblbBcbCfbbacdiajakbBdaCuaeaccbaiaDdacgmhDuacilgCvbBbababaCdnbebbfkbBjjaDydbf",
     "bbcbzbecqdnacbgapaBBbcBKkdBccBdbBebCmbbgiackjaBtcbaEnbBiaEocebjagcIlbcaCgabgbabachgjcaBwBeB",
     "xdBwjecBmimbBgdcfCeabbdabeCehcbFwcbmbgeagadbHqClUeaHnBgEOccFlaDsBfVifEbbBSQedbjBgbDcbKmadae",
     "azbfaFvbBarnaBmhzkbaBscBwacdcbcaBkaCpfcbcbmaiaBvaBzabccbfbbaBqbiaJeacaeaBDZsaBCjpqpOcbXhaIs",
     "aFteCMgcbbfdBoceaGjbWbdCneMfbDbdCskBxdEtaCcoBpacbkcBxdcbhaCjcBkebhCkambCaibaidcaDrccdgacaGb",
     "adhvbCfbbabamajaogdeCpacfbacabcecbaobDhhccbaxaDdacfbacabbbbJbacdgbbbBbbDhhcabbEcabachDxabac",
     "dbeJzibbJlakdeaFodcbeaBgjBofcdiajfccBumbbPqgbfbaDevcgbbbbEsfdabbbgbaCubdabaNjblbCaefcxaHXta",
     "goQYyldcDSaeChgBOiaCldDdalbBDAxbGYzBtcwUwedfihcgBedFscCYdCceBxiaoaweboCAigbqcgbbbeDwaGegOla",
     "CjdTodJubBCigEfgEBgeBSXYuDrEyJf"]⟩,
  ⟨["l"], ["GLkDrCFOqBc"]⟩,
  ⟨["lf"], ["ka"]⟩,
  ⟨["lv"],
    ["CNDoaBbaBbaBbaBbaBbaBbaBbaBbaBbaBbaBbaBbaBbaBbaBbaBbaBbaBbaBbaBbaBbaBbaBbaBbaBbaBbaBbaBbaBb",
     "aBbaBbaBbaBbaBbaBbaBbaBbaBbaBbaBbaBbaBbaBbaBbaBbaBbaBbaBbaBbaBbaBbaBbaBbaBbaBbaBbaBbaBbaBba",
     "BbaBbaBbaBbaBbaBbaBbaBbaBbaBbaBbaBbaBbaBbaBbaBbaBbaBbaBbaBbaBbaBbaBbaBbaBbaBbaBbaBbaBbaBbaB",
     "baBbaBbaBbaBbaBbaBbaBbaBbaBbaBbaBbaBbaBbaBbaBbaBbaBbaBbaBbaBbaBbaBbaBbaBbaBbaBbaBbaBbaBbaBb",
     "aBbaBbaBbaBbaBbaBbaBbaBbaBbaBbaBbaBbaBbaBbaBbaBbaBbaBbaBbaBbaBbaBbaBbaBbaBbaBbaBbaBbaBbaBba",
     "BbaBbaBbaBbaBbaBbaBbaBbaBbaBbaBbaBbaBbaBbaBbaBbaBbaBbaBbaBbaBbaBbaBbaBbaBbaBbaBbaBbaBbaBbaB",
     "baBbaBbaBbaBbaBbaBbaBbaBbaBbaBbaBbaBbaBbaBbaBbaBbaBbaBbaBbaBbaBbaBbaBbaBbaBbaBbaBbaBbaBbaBb",
     "aBbaBbaBbaBbaBbaBbaBbaBbaBbaBbaBbaBbaBbaBbaBbaBbaBbaBbaBbaBbaBbaBbaBbaBbaBbaBbaBbaBbaBbaBba",
     "BbaBbaBbaBbaBbaBbaBbaBbaBbaBbaBbaBbaBbaBbaBbaBbaBbaBbaBbaBbaBbaBbaBbaBbaBbaBbaBbaBbaBbaBbaB",
     "baBbaBbaBbaBbaBbaBbaBbaBbaBbaBbaBbaBbaBbaBbaBbaBbaBbaBbaBbaBbaBbaBbaBbaBbaBbaBbaBbaBbaBbaBb",
     "aBbaBbaBbaBbaBbaBbaBbaBbaBbaBbaBbaBbaBbaBbaBbaBbaBbaBbaBbaBbaBbaBbaBbaBbaBbaBbaBbaBbaBbaBba",
     "BbaBbaBbaBbaBbaBbaBbaBbaBbaBbaBbaBbaBbaBbaBbaBbaBbaBbaBbaBbaBbaBbaBbaBbaBbaBbaBbaBbaBbaBbaB",
     "baBbaBbaBbaBbaBbaBbaBbaBbaBbaBbaBbaBbaBbaBbaBbaBbaBbaBbaBbaBbaBbaBbaBbaBbaBbaBbaBbaBbaBbaBb",
     "aBbaBbaBbaBbaBba"]⟩,
  ⟨["lvt"],
    ["CNDpBabBabBabBabBabBabBabBabBabBabBabBabBabBabBabBabBabBabBabBabBabBabBabBabBabBabBabBabBab",
     "BabBabBabBabBabBabBabBabBabBabBabBabBabBabBabBabBabBabBabBabBabBabBabBabBabBabBabBabBabBabB",
     "abBabBabBabBabBabBabBabBabBabBabBabBabBabBabBabBabBabBabBabBabBabBabBabBabBabBabBabBabBabBa",
     "bBabBabBabBabBabBabBabBabBabBabBabBabBabBabBabBabBabBabBabBabBabBabBabBabBabBabBabBabBabBab",
     "BabBabBabBabBabBabBabBabBabBabBabBabBabBabBabBabBabBabBabBabBabBabBabBabBabBabBabBabBabBabB",
     "abBabBabBabBabBabBabBabBabBabBabBabBabBabBabBabBabBabBabBabBabBabBabBabBabBabBabBabBabBabBa",
     "bBabBabBabBabBabBabBabBabBabBabBabBabBabBabBabBabBabBabBabBabBabBabBabBabBabBabBabBabBabBab",
     "BabBabBabBabBabBabBabBabBabBabBabBabBabBabBabBabBabBabBabBabBabBabBabBabBabBabBabBabBabBabB",
     "abBabBabBabBabBabBabBabBabBabBabBabBabBabBabBabBabBabBabBabBabBabBabBabBabBabBabBabBabBabBa",
     "bBabBabBabBabBabBabBabBabBabBabBabBabBabBabBabBabBabBabBabBabBabBabBabBabBabBabBabBabBabBab",
     "BabBabBabBabBabBabBabBabBabBabBabBabBabBabBabBabBabBabBabBabBabBabBabBabBabBabBabBabBabBabB",
     "abBabBabBabBabBabBabBabBabBabBabBabBabBabBabBabBabBabBabBabBabBabBabBabBabBabBabBabBabBabBa",
     "bBabBabBabBabBabBabBabBabBabBabBabBabBabBabBabBabBabBabBabBabBabBabBabBabBabBabBabBabBabBab",
     "BabBabBabBabBabBa"]⟩,
  ⟨["pp", "prepend"], ["CHcfIhaBxaOubDcaBRnaDUGkapaJkbUfaCBlabaJoaCvfBAyaRba"]⟩,
  ⟨["ri", "regionalindicator"], ["HGOkz"]⟩,
  ⟨["sm", "spacingmark"],
    ["DKtaCdaccidbbBybChbgbcbCcaCgcCoaCgciabbCbbCiagbcbEkabbdcbcCacCjdCjbCgacabbBuaobChbfcbcCbbCy",
     "bggtbClaExaFibClaGvajbzbBsaCSvahhbbNidccebbfIqbCgabavfFpaCfdCmaBeaebClaccbaCbhibGpavaCAShbc",
     "aDkbBypFmaBwaBwbebcbEhbcbyaGbacbfaJdbbbbbbaBLXjabaExaBtcebElaybChaBwcjaoaDpcdbGqcBfbChabdcb",
     "cbvbDhbpabbDzcibdaEdbgabbbacaJebgdcaEjcibbaEfabbEgahaKbcjaJoebbhabaFmcideaDgaBdbCkaPraoaEca",
     "hacaIfeebbaNmbmaBwbibYZacFJgCc"]⟩,
  ⟨["t"], ["GRwDjCWXnBw"]⟩,
  ⟨["v"], ["GPcCtCWZwwCERcadd"]⟩,
  ⟨["zwj"], ["MDpa"]⟩]

/-- The values of the property `Word_Break`. -/
def wordBreaks : List NamedSet := [
  ⟨["le", "aletter"],
    ["CnzgzBvakaeafwbBebSlgBhEiebbcdbagabcbabtbDebFiiGjbBlcdbabBobaEaaBsBqBjbbDubapbhbkccaqabBdBd",
     "DklayBgjbeafveajadaxyhkfxbfrBpCgCbdasahjppehcbcvbgbadddaqanbbcobkaifebcvbgbbbbbbBfdbatcqibc",
     "bvbgbbbedasapbxalhcbcvbgbbbedaBebbcparabfdcbddbbabbdbdcdlwaCahbcbwbpdaBaccacbBeaehbcbwbjbed",
     "aBfbbbpbribcbBocaqafcicyffrdxbibacgMbaClhbBjBbeKpBlbafacBqbMubdcgbabdcBobdcBgbdcgbabdcobCeb",
     "dcCoBlpqDhcfdXvcqbzfCwdkhrnsorombcGtDkhecBhbafCrkBeIrwJeBurhCcBdnbkBrBaBjBpckBjckfBqccBpdbf",
     "bbdafHjCmKrcfcBlcfchbabababBecCabgbadcbgddcfemfcbgEmanaqmDxaeacjbadegabababdbkcdfeearBoBFhB",
     "zCRuIugddbmBlbafacCdhaqwjgbgbgbgbgbgbgbgDcaSbaCbbHsBqbDprBfBPToBSuCpBtcKidpkbuBuqBecDbyHpcb",
     "babhvpbcbdbwBdBzoBxCkfdabblBbkwzBchBuBcaBwBoxcbhFskhcmfcfcfjgbgbCfgEkBdQNrmweBwNGugmeCeDtBh",
     "NysClcCbBolEmebFeBkzgzCrBedfcfcfccBjlbzbsbbbocnBiEsCrCaKhBcdBwBvBfnBdfBlkBdcBjehbeBqGbsBjeB",
     "jeBniBzmkbobgbbbkbobgbbdBzmLyjvkhyfbBpbiCrfcabBrbbdacwkwjBeCnsbbkvkzCsCdgbCmapdbcbBcBqBcdBc",
     "BjhbBbBbCbkvksnrEgCuCdBynBynBjBmBbjwJqBpgbqcChBckaivBqrBuuBbwmCaCfbcanBsBgyBaBjBdacaiBidamB",
     "vodvabaBjrbytbClgbabdbobjhBuBmhcbcvbgbbbedasameBejbacabBlbazabaBsCasducBeBvubbaHcBuBpdBkBvu",
     "aChBqnaMpBrEmClBfhcachbbbxpabaDqhcBmqabaBcakBnhavalBttasCuHrBgBfibBkraBxBdEigbbbBlvazfbbbBf",
     "oaMpspabmbBhEuaDbBJlDyEgrHnDXkDspBPfrfzFXqfWkKDdBdCPuVwhBerDarBdsBvqdBfufsQqBsIdClEyCwfaCom",
     "CmbbaBCVkEcfmdihjIWkDgbCsbbcacbcdblbabgbCmbdchbgbBbbdbebadgbNbcybybBebybBebybBebybBebybhCSy",
     "BegfKbCjFqBskgqaMjBdsBrSqBbIuBdcaTbgbdbbbobHoChCphaBUidbBabbbacabjbdbabagaeabababcbbbacabab",
     "abababbbacdbgbdbdbabjbqfcbebqYezgzgz"]⟩,
  ⟨["cr"], ["na"]⟩,
  ⟨["dq", "doublequote"], ["Bia"]⟩,
  ⟨["extend"],
    ["BDoEhKpgKdBsbabbbbbaCukBwuqaDxgcfcbbdBjaBeBaDnkCgijaydbibcbeBrcChiBqxbBgCccbrbgkbBdcCeabgcb",
     "ccjakbBaaccCeabeebccdaBebdalcCeabhbcbcubwfbcCeabgcbcchckbBeaChedcbdjaBoeCdabgbcbdhblbBdcCea",
     "bgbcbdhblbpamdCdbbgbcbdjakbBdcCsaefbabhsbCjacgmhDuacilgCvbBbababaebBxtbbfkbBjjaDwtxdecbccgd",
     "dnlbakdBBbcBKkdBccBdbBebCmBfjaBtcbaEnbBiaEolelIleCfjbBccaBwBeBxeBvqBmimcBemCenBwtFwcbueagac",
     "cHqClUeaHnBgEOccFlaDsBfVifEbbBSQedbjBgbDcbKmadaeaxeeaDfbByrBarnaBmhzmBsdBvnBkaCpnmaibBtcBya",
     "bccbfbbaBpefbJchbbBDZsaBCjpqpOcbXhaIsaFteCMgcbbfdBoceaGjbWbdCneMfbDbdCskBxdEscCboBpacbkdBtk",
     "haCjcBknqbBsamcBwnidbbDolgacaGblvdCdbbgcbccjakbcgdeCpibacabdbebaobDerxaDdtJbgciBbbDeqEcmDxo",
     "JwoJlfbbcdbabbFlgcgdaBcjBogbdiajkBupPphbhDevbnEsfdabbbgbaCoebbbeNjdjbbaBwgdexaHXtagoQYyrDSa",
     "eChgBOiabCchdDdalbBDAxbGYzBtcwUwedfihcgBedFscCYdCceBxiaoaweboCAigbqcgbbbeDwaGegOlaCjdTodJub",
     "BCigEfgEBgeBSXYuDrEyJf"]⟩,
  ⟨["ex", "extendnumlet"], ["DraMBfapbtaDGAobycJfa"]⟩,
  ⟨["fo", "format"], ["GraCAkfwaHkaBxaOubDcaFTjaDAtbBaeBxebjDGHjaJpcGIzapaNKkpBZQudHWxhBTKZma"]⟩,
  ⟨["hl", "hebrewletter"], ["CFgBaedDOVyabjbmbebabbbbbj"]⟩,
  ⟨["ka", "katakana"], ["SGneDxbdDmbdJgpIaBubDjCZHeCdCOUcdbgbbbaLbcByaod"]⟩,
  ⟨["lf"], ["ka"]⟩,
  ⟨["ml", "midletter"], ["CgaEuaBBraSdaFsaJXyaDGBbaCnaHoa"]⟩,
  ⟨["mn", "midnum"], ["BsaoaBGcaUcaFabDqaPfaJFfaDFZvadaChadaHbaoa"]⟩,
  ⟨["mb", "midnumlet"], ["BuaMCfbkaDGDpaGyaga"]⟩,
  ⟨["nl", "newline"], ["lbEqaLZmb"]⟩,
  ⟨["nu", "numeric"],
    ["BwjCIojbaFcjHqjPwjEojEojEojEojEojEojEojEojEojDsjEojCsjKsjCsjCTqjBmjLojEyjGkjgjHajDijFejgjCA",
     "EojBAcjBmjHqjwjDijPqjBFMcjCCkjDFyjgjBEqjEyjCijFojKsjNejEojOkjDyjgtCyjQgjDyjZmjDijJmjCsjQgjY",
     "YgjDMcjDijFejUojBKDyjECqBxDNcjQgjTijJnjBGvjHBaj"]⟩,
  ⟨["ri", "regionalindicator"], ["HGOkz"]⟩,
  ⟨["sq", "singlequote"], ["Bna"]⟩,
  ⟨["wsegspace"], ["BgaIMhaDPngbcDgaFXwa"]⟩,
  ⟨["zwj"], ["MDpa"]⟩]

/-- The values of the property `Sentence_Break`. -/
def sentenceBreaks : List NamedSet := [
  ⟨["at", "aterm"], ["BuaMCraDGDpaHfa"]⟩,
  ⟨["cr"], ["na"]⟩,
  ⟨["cl", "close"],
    ["BiaecBxabaBdabaBtapaFMsdCUnbDPjhzbkbCcbobYjdBdbBPgfhnDbbBfjPnvCldBgbBNmnobcjyashQljchbcCZRq",
     "bIhbBcpcbqfGnbBxabaBdababbbbDPOsc"]⟩,
  ⟨["ex", "extend"],
    ["BDoEhKpgKdBsbabbbbbaCukBwuqaDxgcfcbbdBjaBeBaDnkCgijaydbibcbeBrcChiBqxbBgCccbrbgkbBdcCeabgcb",
     "ccjakbBaaccCeabeebccdaBebdalcCeabhbcbcubwfbcCeabgcbcchckbBeaChedcbdjaBoeCdabgbcbdhblbBdcCea",
     "bgbcbdhblbpamdCdbbgbcbdjakbBdcCsaefbabhsbCjacgmhDuacilgCvbBbababaebBxtbbfkbBjjaDwtxdecbccgd",
     "dnlbakdBBbcBKkdBccBdbBebCmBfjaBtcbaEnbBiaEolelIleCfjbBccaBwBeBxeBvqBmimcBemCenBwtFwcbueagac",
     "cHqClUebHmBgEOccFlaDsBfVifEbbBSQedbjBgbDcbKmadaeaxeeaDfbByrBarnaBmhzmBsdBvnBkaCpnmaibBtcBya",
     "bccbfbbaBpefbJchbbBDZsaBCjpqpOcbXhaIsaFteCMgcbbfdBoceaGjbWbdCneMfbDbdCskBxdEscCboBpacbkdBtk",
     "haCjcBknqbBsamcBwnidbbDolgacaGblvdCdbbgcbccjakbcgdeCpibacabdbebaobDerxaDdtJbgciBbbDeqEcmDxo",
     "JwoJlfbbcdbabbFlgcgdaBcjBogbdiajkBupPphbhDevbnEsfdabbbgbaCoebbbeNjdjbbaBwgdexaHXtagoQYyrDSa",
     "eChgBOiabCchdDdalbBDAxbGYzBtcwUwedfihcgBedFscCYdCceBxiaoaweboCAigbqcgbbbeDwaGegOlaCjdTodJub",
     "BCigEfgBTCAfDrEyJf"]⟩,
  ⟨["fo", "format"], ["GraCAkfwaHkaBxaOubDcaFTjaDAqacbBaeBxebjDGHjaJpcGIzapaNKkpBZQudHWxhBTKZma"]⟩,
  ⟨["lf"], ["ka"]⟩,
  ⟨["lo", "lower"],
    ["DtzBvakaeaBkxbhbabababababababababababababababababababababababababababbbabababababababbbaba",
     "bababababababababababababababababababababacababccabacadbeacadccacababacabbbacadabacbccgacac",
     "ababababababababbbababababababababbcabadabababababababababababababababababababababababababa",
     "babababgcacbbaeababababCqbBjhbBeeFkabadacdsaBbBibbdcbabababababababababababebacacbBzBvbabab",
     "ababababababababababababababajababababababababababababababababababababababababababacabababa",
     "bababbbabababababababababababababababababababababababababababababababababababababababababab",
     "abababababaBwBoEItaBDjfDFuibaEnHjCnabababababababababababababababababababababababababababab",
     "abababababababababababababababababababababababababababababababababababababababababababababa",
     "bibabababababababababababababababababababababababababababababababababababababababababababab",
     "ababababiifkhihifkhihinchihihiebbgadcbbidcbihkcbbEranaqmEfadbdaBbaeaeacbideaBhpeaBGlzCTqBvb",
     "adbbababaeabbbhdabababababababababababababababababababababababababababababababababababababa",
     "babababababababababababbhabaeamBlbafaBTWdababababababababababababababababababababababatabab",
     "abababababababababababcFdababababababcbabababababababababababababababababababababababababab",
     "ababababjbabacababababaeabacabcbabababababababababafafabababababababaeabacadabababababawcba",
     "bcBFpBqbngDbBEAigmeBOzzBVhBnFgBjFzkbobgbbRjaccbBpbiBXlByEvvEGoBfBGJwBfBMMkzBagbrBazBadbabgb",
     "kBazBazBazBazBazBazBazBazBaBbBcybfBaybfBaybfBaybfBaybfbaCSyjbtgfKbCjDHsBh"]⟩,
  ⟨["nu", "numeric"],
    ["BwjCIojbbFbjHqjPwjEojEojEojEojEojEojEojEojEojDsjEojCsjKsjCsjCTqjBmjLojEyjGkjgjHajDijFejgjCA",
     "EojBAcjBmjHqjwjDijPqjBFMcjCCkjDFyjgjBEqjEyjCijFojKsjNejEojOkjDyjgtCyjQgjDyjZmjDijJmjCsjQgjY",
     "YgjDMcjDijFejUojBKDyjECqBxDNcjQgjTijJnjBGvjHBaj"]⟩,
  ⟨["le", "oletter"],
    ["RbaedIaaBkgglBaabaFdaSqaEoBaeeBsBqBjbbDubapbhbkccaqabBdBdDklayBgjbeafveajadaxyhkfxbfrBpCgCb",
     "dasahjppehcbcvbgbadddaqanbbcobkaifebcvbgbbbbbbBfdbatcqibcbvbgbbbedasapbxalhcbcvbgbbbedaBebb",
     "cparabfdcbddbbabbdbdcdlwaCahbcbwbpdaBaccacbBeaehbcbwbjbedaBfbbbpbribcbBocaqafcicyffrdxbibac",
     "gCgBvbbmgCgbbabebxbabjbbjacebavdBgaClhbBjBbeElBquaqfeddadbhcemmaCnBqcMtbdcgbabdcBobdcBgbdcg",
     "babdcobCebdcCoBlpEjXvcqbzfCwdkhrnsorombcpBzBjaeaCpDkhecBhbafCrkBeBxBdcelBrezCcwjCaDeaDpBurh",
     "CcBdnbkBrBaBjBpckBjsBqccBpdbfbbdaBPqdCtccdEKtCdhaqwjgbgbgbgbgbgbgbgDcaSbcziheceeDhgcbDlbdfB",
     "qbDprBfBwpTsJTnCmBGUeCpBtcKidpkbCoaqaBgDbBniEaagaDzadgbcbdbwBdBzoBxCkfdabblBbkwzBchBuBcaqeb",
     "jkebBoxcbhuwdadBxbadbcecabaycckhcmfcfcfjgbgFpBiBdQNrmweBwMNcObcEbCpabjbmbebabbbbbEdBhNysClc",
     "CbBolEmebFeEbCdcBedfcfcfccBjlbzbsbbbocnBiEsCrCaKhBcdBwBvBfnBdfBlkBdcBjehbeEsCzDuBniBzDoBzmL",
     "yjvkhzbEvfcabBrbbdacwkwjBeCnsbbkvkzCsCdgbCmapdbcbBcBqBcdBcBjhbBbBbCbkvksnrEgCuHbBjBmfBfaKmB",
     "pgbqcChBckaivBqrBuuBbwmCaCfbcanBsBgyBaBjBdacaiBidamBvodvabaBjrbytbClgbabdbobjhBuBmhcbcvbgbb",
     "bedasameBejbacabBlbazabaBsCasducBeBvubbaHcBuBpdBkBvuaChBqnaCtBaBlgHdBrIdhcachbbbxpabaDqhcBm",
     "qabaBcakBnhavalBttasCuHrBgBfibBkraBxBdEigbbbBlvazfbbbBfoaMpspabmbBhEuaDbBJlDyEgrHnDXkDspBPf",
     "rfzFXqfWkKDdBdCPuVwhBerDarBdsBvqdBfufsQqBsPnCwfaComCmbbaBcJBziBVpBpjNFrdbgbbbLepaBdccaodiPf",
     "DKuEcfmdihjNBcaThBskgqaMjBdsBrSqBbIuBdcaTbgbdbbbobHoFeaBUidbBabbbacabjbdbabagaeabababcbbbac",
     "abababababbbacdbgbdbdbabjbqfcbebqGOaCLFbBgGDtgIncINpoLBkpXxDQwUvCFyHHyfGFf"]⟩,
  ⟨["sc", "scontinue"], ["BsbmbBGcaSkaGsbSwaGBxafaDBebGAuaDAAwbbbBcbBdbcbcakaGmbmbCua"]⟩,
  ⟨["st", "sterm"],
    ["BhaBdaCAbaFrcGyaBrcJmaCjabadbLhbCPwbBEkaebBDtaHqbGbbBtafaMcbNqdGgbkbcbBdcHfbCnbBKubjcEUxcLu",
     "anawbQnaBSHwaKkbItadaOsbDibDraFwbFrcFobJpaBFCwacbClbGnaBdaCnaEDwbBXdeBsdHhbEndExcEzbgaqbDkb",
     "bbEeaLmbEnbOjbfoEbbJpcTxabaJrbDjbQebBAqbCwbBCMbbFdaCnblaVhbLkaBDOgaLIma"]⟩,
  ⟨["se", "sep"], ["FdaLZmb"]⟩,
  ⟨["sp"], ["jabbtaExaIHjaDPnkBkaBvaFXwa"]⟩,
  ⟨["up", "upper"],
    ["CnzDxwbgBhabababababababababababababababababababababababababababacabababababababacababababa",
     "bababababababababababababababababababbbabadbbabbbccdbbbcdbbbbababbbacabbbcbabbdahbbbbbbabab",
     "abababababacababababababababacbbabcbabababababababababababababababababababababababababababa",
     "bahbbbcabdbabababaLdabadaiagabcbabbbqbiBjaccdabababababababababababafacabbcByBwabababababab",
     "ababababababababababajabababababababababababababababababababababababababababbbabababababaca",
     "bababababababababababababababababababababababababababababababababababababababababababababab",
     "abacBlEHdBlbafaBBuDhDGlaOkababababababababababababababababababababababababababababababababa",
     "babababababababababababababababababababababababababababababababababababababababababajababab",
     "abababababababababababababababababababababababababababababababababababababababababababababa",
     "jhifkhihiflabababaihyhihihieleldmeleKbaeadccccadegabababdcdkbfaBaptaBFmzCSuBvBwabccabababdb",
     "acaicbababababababababababababababababababababababababababababababababababababababababababa",
     "babababababaiabaeaBTYjababababababababababababababababababababababatabababababababababababa",
     "babaFfababababababadababababababababababababababababababababababababababababababakababbbaba",
     "babaeabacabadababababababababababebebabababababababdbabbdafabababayaBHAhzBUzBnFgBjGakbobgbb",
     "CQcByGbvEGoBfBGJwBfBMMqzBazBazBaabbcacbcdbhBazBabbdchbgBbbbdbebadgBbzBazBazBazBazBazBeyBhyB",
     "hyBhyBhyBhaGNlBhDBizgzgz"]⟩]

end AttributeSchema.Text.Unicode
