import AttributeSchema.Text.Unicode.Runs

/-!
# General categories

The Unicode property `General_Category`. Its values are found by their short and long names, and so are
groups of values.
-/

namespace AttributeSchema.Text.Unicode

/-- The values of the property `General_Category`, apart from that of the surrogates. -/
def categories : List NamedSet := [
  ⟨["lu", "uppercaseletter"],
    ["CnzDxwbgBhabababababababababababababababababababababababababababacabababababababacababababa",
     "bababababababababababababababababababbbabadbbabbbccdbbbcdbbbbababbbacabbbcbabbdahacacacabab",
     "abababababacababababababababacacabcbabababababababababababababababababababababababababababa",
     "bahbbbcabdbabababaLdabadaiagabcbabbbqbiBjaccdabababababababababababafacabbcByBwabababababab",
     "ababababababababababajabababababababababababababababababababababababababababbbabababababaca",
     "bababababababababababababababababababababababababababababababababababababababababababababab",
     "abacBlEHdBlbafaBBuDhDGlagBqccMiabababababababababababababababababababababababababababababab",
     "ababababababababababababababababababababababababababababababababababababababababababababaja",
     "bababababababababababababababababababababababababababababababababababababababababababababab",
     "ababajhifkhihiflabababaihCudmdmdmeldKcaeadccccadegabababdcdkbfaCjaDZgBvBwabccabababdbacaicb",
     "abababababababababababababababababababababababababababababababababababababababababababababa",
     "bababaiabaeaBTYjababababababababababababababababababababababatabababababababababababababaFf",
     "ababababababadababababababababababababababababababababababababababababababakababbbabababaea",
     "bacabadababababababababababebebabababababababdbabbdafabababayaBHAhzBUzBnFgBjGakbobgbbCQcByG",
     "bvEGoBfBGJwBfBMMqzBazBazBaabbcacbcdbhBazBabbdchbgBbbbdbebadgBbzBazBazBazBazBazBeyBhyBhyBhyB",
     "hyBhaGNlBh"]⟩,
  ⟨["ll", "lowercaseletter"],
    ["DtzCgaBpxbhbabababababababababababababababababababababababababababbbabababababababbbabababa",
     "bababababababababababababababababababacababccabacadbeacadccacababacabbbacadabacbccgacacabab",
     "ababababababbbababababababababbcabadabababababababababababababababababababababababababababa",
     "babgcacbbaeababababCqbBaHlabadadcsaBbBibbdcbabababababababababababebacacbBzBvbababababababa",
     "babababababababababajababababababababababababababababababababababababababacababababababbbab",
     "abababababababababababababababababababababababababababababababababababababababababababababa",
     "baBwBoEHbBqccBDgfDFuibaEnBrClmbBhDyabababababababababababababababababababababababababababab",
     "abababababababababababababababababababababababababababababababababababababababababababababa",
     "bibabababababababababababababababababababababababababababababababababababababababababababab",
     "ababababiifkhihifkhihinchihihiebbgadcbbidcbihkcbbKoadbdaBbaeaeacbideaCbaEBbBvbadbbababaeabb",
     "bffabababababababababababababababababababababababababababababababababababababababababababab",
     "abababababbhabaeamBlbafaBTWdababababababababababababababababababababababatababababababababa",
     "bababababaFfababababababcbabababababababababababababababababababababababababababababababhba",
     "bacababababaeabacabcbabababababababababafafabababababababaeabacadabababababaBaadaBFpBqfihDb",
     "BEAigmeBOzzBVhBnFgBjFzkbobgbbCRbByEvvEGoBfBGJwBfBMMkzBagbrBazBadbabgbkBazBazBazBazBazBazBaz",
     "BazBaBbBcybfBaybfBaybfBaybfBaybfbaCSyjbtgfDUdBh"]⟩,
  ⟨["lt", "titlecaseletter"], ["RlacacaBmaLFhhihihmapaBva"]⟩,
  ⟨["lm", "modifierletter"],
    ["BAmreloehabaFdafaSkaIwaGibKjbeaBfajadaGeaGlaBVoaExaVtaCPmaEdaXnaRwfGsCknaBiBkBAnanaqmEMxbJh",
     "aHjaSbaBrefaDtbDpcBQBuaBWcfKkaEkaBcbEriDcaxaEbcdbSbawaFhaEeavbDzdjaBFViaBtbCZofbBpbiCCxaBga",
     "BJNsdTocBobVemCmbbaYGqdbgbbSGnCjHtgBKfaBRba"]⟩,
  ⟨["lo", "otherletter"],
    ["GoapaJwaedIaaBFvBaedBtBfbjBjbbDubaybkccaqabBdBdDklayBgvvBqyhkfxbfrBoChCbdasahjqoehcbcvbgbad",
     "ddaqanbbcobkaifebcvbgbbbbbbBfdbatcqibcbvbgbbbedasapbxalhcbcvbgbbbedaBebbcparabfdcbddbbabbdb",
     "dcdlwaCahbcbwbpdaBaccacbBeaehbcbwbjbedaBfbbbpbribcbBocaqafcicyffrdxbibacgCgBvbbmfChbbabebxb",
     "abjbbjacexdBgaClhbBjBbeElBquaqfeddadbhcemmaEjMqbdcgbabdcBobdcBgbdcgbabdcobCebdcCoBlpEjXvcqb",
     "zfCwghhrnsorombcpBzBoaCpBibCahecBhbafCrkBeBxBdcelBrezCcwjCaGuBurhCcBdnbkBrBaBjBpckBdEjdbfbb",
     "daBPqdENvCdywjgbgbgbgbgbgbgbgVfaCbaeDhiabDleafBqbDprBfBwpTsJTnCmBFCebBRyCpBniKhepkbCoaBxCrG",
     "naDzadgbcbdbwBdBzoBxCkfdabblBbkwzBchBuBtecikebBoxcbhupbfdadBxbadbcecabaybdkhaofcfcfjgbgFpBi",
     "BdQNrmweBwMNcObcEbCpabjbmbebabbbbbEdBhNysClcCbBolEmebFeEbjbBscBedfcfcfccBjlbzbsbbbocnBiEsOz",
     "BcdBwBvBfntbhgBlkBdcBjehEyCzDuBniBzDoBzmLyjvkhFwfcabBrbbdacwkwjBeCnsbbkvkzCsCdgbCmapdbcbBcB",
     "qBcdBcBjhbBbBbCbkvksnrEgCuHbBjBmdbaLsBpgbqcChBckaivBqrBuuBbwmCaCfbcanBsBgyBaBjBdacaiBidamBv",
     "odvabaBjrbytbClgbabdbobjhBuBmhcbcvbgbbbedasameBejbacabBlbazabaBsCasducBeBvubbaHcBuBpdBkBvua",
     "ChBqnaCtBaBlgHdBrIdhcachbbbxpabaDqhcBmqabaBcakBnhavalBttasCuHrBgBfibBkraBxBdEigbbbBlvazfbbb",
     "BfoaMpspabmbBhEuaDbBJlIwHnDXkDspBPfrfzFXqfWkKDdBdCPuVwhBerDarBdsBvBzufsQtBnPpCwfaGtJBziBVpB",
     "pjNGhLepaBdccaodiPfDKuEcfmdihjNBcaThBsBhaMjBdsBrSqBaIvBdcaTbgbdbbbobHoBZndbBabbbacabjbdbaba",
     "gaeabababcbbbacabababababbbacdbgbdbdbabjbqfcbebqGOaCLFbBgGDtgIncINpoLBkpXxDQwUvCFyHHyfGFf"]⟩,
  ⟨["mn", "nonspacingmark"],
    ["BDoEhKpeKfBsbabbbbbaCukBwuqaDxgcfcbbdBjaBeBaDnkCgijaydbibcbeBrcChiBqxbBfCdabaeheadgkbBdaCga",
     "ediaubBaacbCfaebebccdaBebdalbCfaeebbeaubwfbaCgacabdiahblbBeaCjamaByadaCdabcfcbdhblbBdaCgaca",
     "gafbubBcbCfbediaubBdaCuahcbaDmacgmhDuacilgCvbBbababaCdnbebbfkbBjjaDydbfbbcbzbecqdnacbgapaBB",
     "bcBKkcBdbBebBebCmbbgiackjaBtcbaEnbBiaEocebjagcIlbcaCgabgbabachgjcaBwnbpBxdBwabebafaBoimbBgd",
     "cbbcCeabbdabcCghcbFwcbmbgeagadbHqClBBsmeadlEOccFlaDsBfVidEdbBSQeaejBgbDcbKmadaeazbfaFvbBarn",
     "aBmhzkBucBwacdcbBnaCpfcbcbmaiaBvaBzabccbfbbaBqbiaJeacaeaBDZsaBCjpqpBLlaIsaFteCMgcbbfdBoceaG",
     "jbWbdCneMfbDbdCskBxdEtaCcoBpacbkcBxdcbhaCjcBkebhCkambCaikdcaDrccabbgacaGbadhvbCfbdaBlgdeCsf",
     "nababaobDhhccbaxaDgfbaebbbJedgbbbBbbDhhcabbEcabacfbaDxabacdbeJzibbJwbbaeaFodcbeaBgjBofcdiaj",
     "fccBumbbPqgbfbaDevcgbbbbEsfdabbbgbaCubdabaNjblbCaefabaxaHXtagoQYyldcDSaeChgBOiaCldDdaBDBkbG",
     "YzBtcwUycrhcgBedFscCYdCceBxiaoaweboCAigbqcgbbbeDwaGegOlaCjdTodJubBCigEfgBTCIvJf"]⟩,
  ⟨["mc", "spacingmark"],
    ["DKtaCdaccidbbBybCgcgbcbkaBraCgcCoaCgciabbCbbCgabagbcbkaDybbbdcbckaBpcCjdCjbCgabecbbbjbBcaob",
     "CgcfcbckaBqbCxcghsbMsbClaGpbeagacbzbkccgvbcfcakcCLsaBeaEzahhbbNidccebbfIqbCgabajabbifFpaBwa",
     "fabebbCjaBeaebcaCiaccbadbBwhibGpavaHHebBTLbbcaDkbBypFmbBvaBwbebccEgbcbyaBtabaEfacbfaJdbbbbb",
     "baBLXjabaExaBtcebElaybChaBwcjbnaDpcdbbaGocBfbCgbbdcbccjakbDgchacabdbbbaDxcibdaEccgabdcaJdcg",
     "dcaEjcibbaEfabbgaDzabbeaKbcjaJnfbbeacabaFmcideaDgaBdbCkaPraoaEcahacaIfeebbaNmbmaBwbibbaYYyc",
     "FJgCcEabBKXnbgf"]⟩,
  ⟨["me", "enclosingmark"], ["BSqbIKqaCIgdbcBYOxc"]⟩,
  ⟨["nd", "decimalnumber", "digit"],
    ["BwjCIojFejHqjPwjEojEojEojEojEojEojEojEojEojDsjEojCsjKsjCsjCTqjBmjLojEyjGkjgjHajDijFejgjCAEo",
     "jBAcjBmjHqjwjDijPqjBFMcjCCkjDFyjgjBEqjEyjCijFojKsjNejEojOkjDyjgtCyjQgjDyjZmjDijJmjCsjQgjYYg",
     "jDMcjDijFejUojBKDyjECqBxDNcjQgjTijJnjBGvjHBaj"]⟩,
  ⟨["nl", "letternumber"], ["IRucDYtBicdFMsaziocBSYljBIFgCaRsaiaFeeMEsEg"]⟩,
  ⟨["no", "othernumber"],
    ["GwbfaccDMrfOmfEqcFdgIjgriQrjBPltBRvjSmaCMvadfgjHqpBpaBByChDavYgBdCBhaBTcdFijBehboBgjBnoBSMi",
     "fBHQnBsCndrbNdBaBkdBZghzgBniCxewfGebcpcBtCmiCabBecCxeEahyhBpgMsfNoBeGcjBqdEigFetOptBZxbQoiB",
     "HnsBGtuBCPqgBEswBLYftmtEeyIBuiBJtCgbcbdCyBsboBLam"]⟩,
  ⟨["pc", "connectorpunctuation"], ["DraMBvbtaDGAobycJfa"]⟩,
  ⟨["pd", "dashpunctuation"], ["BtaCAuaBzaFKjaBNpaDBdfFHxacaBfbeaBcaReataEhaCZWabBlakaGnaFLoaMga"]⟩,
  ⟨["ps", "openpunctuation"],
    ["BoaByaBfaFPeabaCUoaDPmadaBmaCdapaYkabaBeaBPuababababababaDcaBgababababaPoababababababababab",
     "abaCmabaBhaBOvabababazasabababaQmababababadabababacaCZRtaIhaBdabababababababadarababaGoaBya",
     "Bfadaca"]⟩,
  ⟨["pe", "closepunctuation"],
    ["BpaBzaBfaFPdabaCUoaDRdaCdapaYkabaBeaBPuababababababaDcaBgababababaPoababababababababababaCm",
     "abaBhaBOvabababaBsabababaQmababababadabababacbCZRqaIjaBdabababababababadarababaGoaBzaBfacac",
     "a"]⟩,
  ⟨["pi", "initialpunctuation"], ["GpaLXkacbcazaFFsabaeacapada"]⟩,
  ⟨["pf", "finalpunctuation"], ["HfaLWvadaBcaFFsabaeacapada"]⟩,
  ⟨["po", "otherpunctuation"],
    ["BhcbccababbkbdbBbaCqafaobhaBBaaiaRyfBpaCcacacaBsbubbbnabcCwdDyaBrnIzcCcoBfaKbbkaFkaEqaEraPa",
     "amaOdaDmakbGmobaEiaCweebEhfGpaXoiBDtaEucCtbGbcbcBlfbdMbbIibEygbfGebkgBccEudCheCkbCmhlaBGcbi",
     "hiicdccdkbabjEUcdbbEiaFnbeccacibbbacbkebjcdbabmccQmcCfaHhaBRYgbKjcDvakaElfOqdDibBocbaBxbBva",
     "DtmqbEudEwbqbJpaBFCugcawaubcddcbdhcgabbFtcbccababbkbdbBbaBkacbPucZsaBwaPyaBCpaHraBfaKmiBmaE",
     "igCogDldBKqeBsdHhgEfbbdEwdBwbDbdeanabcDkfEdaLmbbbEkekbbaEaaJqwEbcBcmCyaFacJsaKecFzaDohDfcbe",
     "DpjIhaDreBqbYvbCwmGtaBRseEJcbWDvbFdaCneiaVgcLjdMpaBDBoaLIleEItaBHeb"]⟩,
  ⟨["sm", "mathsymbol"],
    ["BraqcCjabaBtaeaBlaBfaBDmaUhcJYhanaBncncFjaBnegaCqefbeacacahaBfbcabaBfKhBgbDmaBeyBofSbajaCch",
     "EhaMyecBekpJwFawCkeBfcJxBwucfDASqaBFsabcGiaqcCjabaFbagdFEfbCYEzazaBfazaBfazaBfazaBfazaIUeb"]⟩,
  ⟨["sc", "currencysymbol"],
    ["BkaEvdBWjaEtaTebTebhaJlaKdaWjaDQpaDIiBgBZHvaBGMlaEeaFyaIlbdbMCsdCVXeaDRka"]⟩,
  ⟨["sk", "modifiersymbol"],
    ["DqabaCtagaeadaUbdmnfgbabqEnaobBXiaIUmabclcncncnbGHobBSVrwjbDzbBLoaobBEKkqBIhabaGgaDOLje"]⟩,
  ⟨["so", "othersymbol"],
    ["GkacaeabaBLpaKgbExbHyakatbJnaTvaOjaFafbaFcaHzaBpaPbcpabccfuababaFdhbfbbfdHpbBCyjBBvaBBuaGbB",
     "hNpjjiCChbbdbbkabbgfbababaealboabbbaCgbjecdbbbbbgbBecbbabBeKihetcgcDcbBdzBngCtwkDdCzwHabibC",
     "biEgbJnBsBrCmJvTsBvvbgBmcBfbEaIvfNtbBuzbDkmIfBapeanbmavbgbMybejBgBljaqBelBdiapBfkBmpMhJToCl",
     "BGUiCcBHhdkbbaWbcBFJapExaBtcSqadaebnbMbiCfqccbmdaBvBsCLubWtaESsaDGnheqBCNidfaBEUwaFVnJfqQtG",
     "aElCiJlkBmcChfcwbhBdeCivCndaHeDiBTxTrCddByhbnbbCOuaEHwaEzaBBtBreDvmocobobBkxGeCeBcnBreihbof",
     "FyJqfBBzeqdmdEoeDqgleapleCdijgBniBdclebCkNbmncmdjfCdhockgihFqbDn"]⟩,
  ⟨["zs", "spaceseparator"], ["BgaExaIHjaDPnkBkaBvaFXwa"]⟩,
  ⟨["zl", "lineseparator"], ["MEqa"]⟩,
  ⟨["zp", "paragraphseparator"], ["MEra"]⟩,
  ⟨["cc", "control", "cntrl"], ["aBfDrBg"]⟩,
  ⟨["cf", "format"],
    ["GraCAkfwaHkaBxaOubDcaFTjaDAqeBaeBxebjDGHjaJpcGIzapaNKkpBZQudHWxhBTKZmaBeDr"]⟩,
  ⟨["co", "privateuse"], ["DGVoJMdCAHXoDSYncDSYn"]⟩,
  ⟨["cn", "unassigned"],
    ["BIebgdhabauaPhaBmbBybdaCdhBbdgkKkaCibDxnChbBxbpaBcbbaleBfaceJdaibcbwahabcebjbcbehbdcafbzbda",
     "gdcbwahacacacbbafdcbdcbgeabgrjdajadawahacafbkadadbboebmghadaibcbwahacafbjbcbdgddcafbsjcagcd",
     "aeccabaccccdcmdfcdaebbfbnvenadaxaqbjadaegcadbbbebkgwadaxakafbjadaegcfcaebkadlnadaBzadagdqbB",
     "aadascyajabbhcbdgabaifkbdlCgdBdBkcabafayabaxbfabahakbeBfCuaBkdBnaBkapanBkHqabebbOnaebhabaeb",
     "BpaebBhaebhabaebpaCfaebCpbBgcBafDibgbZtcDlgwiyiulnadaclDqbkfkfBafDlgBreCsjBfamdmdbcBqbfkBsd",
     "BaflcCkbCnaBdblfkfobBfBwCzaGkhCicpcCkeBrblhBreUobgbBmbgbiabababaBfbCbapaobgatbdajaDxambBban",
     "cBhoBhoFkdZqvluCRsbBgaNleBtabebbCegcnyihahahahahahahahaEwBhBaaDllIgzDcaDibDzeBraDqaDiiBwaBR",
     "IrcCdiNktHchHybcabaiuChckfCehCshmfEmkBecDaaldBhaCdiobkbDzxBcjgbgbgihahaCidEwbkfQNslxdBxdNBa",
     "bEcBlhlfeBaafabacacaEvpRdbCcgbBfBqfBzataedfaFfbbaHicgbgbgbdchahjfbmaBaatacapboBhEteddBtcDka",
     "ncbBuBuEzBdcBxoBcdBkiBeeBreBeaBldoBpGcbkfBkdBkdBohCakmapahacalapahaccCalLziwjixgaBqajCqgbba",
     "BsaccbbxaCuhjBvtaceBhcBbebClCedubByaceiadaBdbddkgjgCmBfBndmiCccBdbBbeBagelhDbCvCcBzmBzgBuhk",
     "fBmcBdhcHzBfaBqadbcpdCcBshBqvBaBlBctxiDadBkiCqjbbzgkfCbashBniDsauksaBvCjhabaeapalfChekfeaib",
     "cbwahacafakbcbdbbfbehbhcfkkabbbaBmakabbbaeakachcBcDoafBdCuhkGjCcbBmBhCrkkfnsCgfkfuBbBbbpdxH",
     "cCiDvDflibbbiacaBeacbmikCribBublBaCuhDfmCvgkGzBinkfjaBtaojBdcBgbwaoCuhacaBscbacajhkfgacaBla",
     "caggkLxzgraBpcBdDgboBymBJnDxEhafkHoDXjDvmBQsjFXreWlKDcCgCOrVxgBfakdDdakfBebgjCsjkahavetQpCg",
     "HpDnDwCxdCfgrClfkcnJCahBVqBokNFqeahacaLfobBcdbbnehPgDKtEdencjgkbiFVfJqfQuCxBubxiEmChJmjBnbH",
     "muCsErululDjizFeDhaCtacbbbcbeamabahaCnaebiahaBcaeafabchaNcbLgbBBaofapBQlBffgIeharbhacafeCkB",
     "gbEhBtcobkdcMhBfqCgebRvBqIfBrdbSlhaeacapaHpbqBoCydkdcBEeCqCxCjHleaBbacabbbakaeababfbdbababa",
     "dacabbbababababacabbeahaeaeabakaredafarBzcKjBsdDwlpbpapaBljGsCdBdmBsdjgcngFxBLwdrcncEpdDrfm",
     "dbomdCehkfBohBebmdcCjNclobnckeCegpblfjgFraDyBNpCLFcBfGDufIobINqnLBloXyDQvUwCFxHHzeGFgBOMXkb",
     "BdDsExJgDSFnDSYobDSYob"]⟩]

/-- Values that have a name in common: the names of the group and those of the values. -/
structure CategoryGroup where
  names : List String
  values : List String

/-- The groups of values of the property `General_Category`. -/
def categoryGroups : List CategoryGroup := [
  ⟨["lc", "casedletter"], ["lu", "ll", "lt"]⟩,
  ⟨["l", "letter"], ["lu", "ll", "lt", "lm", "lo"]⟩,
  ⟨["m", "mark", "combiningmark"], ["mn", "mc", "me"]⟩,
  ⟨["n", "number"], ["nd", "nl", "no"]⟩,
  ⟨["p", "punctuation", "punct"], ["pc", "pd", "ps", "pe", "pi", "pf", "po"]⟩,
  ⟨["s", "symbol"], ["sm", "sc", "sk", "so"]⟩,
  ⟨["z", "separator"], ["zs", "zl", "zp"]⟩]

/-- The set of some values. -/
def ofCategories (values : List String) : CharSet :=
  .unions (values.filterMap (NamedSet.find? categories))

/-- The code points of the surrogates, which are no characters. -/
def surrogates : CharSet := .range 0xd800 0xdfff

/-- The set of a value of the property `General_Category` or of a group of values. -/
def category? (name : String) : Option CharSet :=
  match name with
  | "any" => some .all
  | "ascii" => some (.range 0 0x7f)
  | "assigned" => some (ofCategories ["cn"]).compl
  | "c" | "other" => some (.unions [ofCategories ["cc", "cf", "co", "cn"], surrogates])
  | name =>
    match categoryGroups.find? (·.names.contains name) with
    | some group => some (ofCategories group.values)
    | none => NamedSet.find? categories name

end AttributeSchema.Text.Unicode
