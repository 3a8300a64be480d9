import TripleIndex.CharName.Run

/-!
Names from U+3000 to U+FFFF: kana, syllables, compatibility forms and the scripts among them.
-/

namespace TripleIndex

def eastAsianNames : List NameRun := [
  ⟨0x3000, [":gfmh;cj;fgmp:DITTOib:JAPANESE INDUSTRIAL STANDARDmz:gfgsib;CLOSINGib;jbpj:hgaobm",
    ":ksaobm:hgdzaobm:ksdzaobm:hgcpbm:kscpbm:hgpccpbm:kspccpbm:hgbihlbm:ksbihlbm:POSTALib",
    ":GETAib:hgnvlobm:ksnvlobm:hgpchlbm:kspchlbm:hgpcnvlobm:kspcnvlobm:hgpcmlbm:kspcmlbm:oydc",
    ":krdzPRIMEknib:dzPRIMEknib:hudzPRIMEknib:POSTALibet:HANGZHOU NUMERALjj<oh<nn<fd<ey<lx<lh",
    "<ef<it:gfLEVELnsib;kwnsib;DEPARTINGnsib;ENTERINGnsib:HANGULlwdvnsib;dzdvnsib:WAVYdc",
    ":orKANA REPEATib=pdVOICEDmfib=ibomfr=pdVOICEDmfibomfr=ibhvfr:ccPOSTALib",
    ":gfTELEGRAPHhqFEEDlgmz:HANGZHOU NUMERALnf<og<nk:orgfgsib:MASUib:PART ALTERNATIONib",
    ":gfVARIATIONgi;frFILLmh::HIRAGANAhnmcA<A<mcI<I<mcU<U<mcE<E<mcO<O<KA<GA<KI<GI<KU<GU<KE<GE",
    "<KO<G",
    "O<SA<ZA<SI<ZI<SU<ZU<SE<ZE<SO<ZO<TA<DA<TI<DI<mcTU<TU<DU<TE<DE<TO<DO<NA<NI<NU<NE<NO<HA<BA<PA",
    "<HI<BI<PI<HU<BU<PU<HE<BE<PE<HO<BO<PO<MA<MI<MU<ME<MO<mcYA<YA<mcYU<YU<mcYO<YO<RA<RI<RU<RE<RO",
    "<mcWA<WA<WI<WE<WO<N<VU<mcKA=KE:::ciKATAKANA-HIRAGANA VOICEDmfib=SEMI-VOICEDmfib",
    ":KATAKANA-HIRAGANA VOICEDmfib<SEMI-VOICEDmfib:HIRAGANAgsib;VOICEDgsib;dtYORI",
    ":KATAKANA-HIRAGANAdzHYPHEN;hnmcA<A<mcI<I<mcU<U<mcE<E<mcO<O<KA<GA<KI<GI<KU<GU<KE<GE<KO<G",
    "O<SA<ZA<SI<ZI<SU<ZU<SE<ZE<SO<ZO<TA<DA<TI<DI<mcTU<TU<DU<TE<DE<TO<DO<NA<NI<NU<NE<NO<HA<BA<PA",
    "<HI<BI<PI<HU<BU<PU<HE<BE<PE<HO<BO<PO<MA<MI<MU<ME<MO<mcYA<YA<mcYU<YU<mcYO<YO<RA<RI<RU<RE<RO",
    "<mcWA<WA<WI<WE<WO<N<VU<mcKA=KE<VA<VI<VE<VO;igdv;-HIRAGANA PROLONGEDmfib;gsib;VOICEDgsib",
    ";dtKOTO::::::BOPOMOFOhnB<P<M<F<D<T<N<L<G<K<H<J<Q<X<ZH<CH<SH<R<Z<C<S<A<O<E<EH<AI<EI<AU<OU",
    "<AN<EN<ANG<ENG<ER<I<U<IU<V<NG<GN<IH<Opddvac<NN::HANGULhnKIYEOK<SSANGKIYEOK<KIYEOK-SIOS",
    "<NIEUN=-CIEUC=-HIEUH<TIKEUT<SSANGTIKEUT<RIEUL=-KIYEOK=-MIEUM=-PIEUP=-SIOS=-THIEUTH",
    "=-PHIEUPH=-HIEUH<MIEUM<PIEUP<SSANGPIEUP<PIEUP-SIOS<SIOS<SSANGSIOS<IEUNG<CIEUC<SSANGCIEUC",
    "<CHIEUCH<KHIEUKH<THIEUTH<PHIEUPH<HIEUH<A<AE<YA<YAE<EO<E<YEO<YE<O<WA<WAE<OE<YO<U<WEO<WE<WI",
    "<YU<EU<YI<I;FILLER;hnSSANGNIEUN<NIEUN-TIKEUT=-SIOS=-PANSIOS<RIEUL-KIYEOK-SIOS=-TIKEUT",
    "=-PIEUP-SIOS=-PANSIOS=-YEORINHIEUH<MIEUM-PIEUP=-SIOS=-PANSIOS<KAPYEOUNMIEUM<PIEUP-KIYEOK",
    "=-TIKEUT=-SIOS-KIYEOK>-TIKEUT=-CIEUC=-THIEUTH<KAPYEOUNPIEUP<KAPYEOUNSSANGPIEUP<SIOS-KIYEOK",
    "=-NIEUN=-TIKEUT=-PIEUP=-CIEUC<PANSIOS<SSANGIEUNG<YESIEUNG=-SIOS=-PANSIOS<KAPYEOUNPHIEUPH",
    "<SSANGHIEUH<YEORINHIEUH<YO-YA=-YAE=-I<YU-YEO=-YE=-I<ARAEA<ARAEAE::gfANNOTA",
    "TION LINKINGib<kqib<jjib<ohib<nnib<fdib<nuib<igib<blib<FIRSTib<SECONDib<THIRDib<FOURTHib",
    "<HEAVENib<EARTHib<MANib:BOPOMOFOhnBU<ZI<JI<GU<EE<ENN<OO<ONN<IR<ANN<INN<UNN<IM<NGG<AINN",
    "<AUNN<AM<OM<ONG<INNN;ewhnP=T=K=H;hnGH<LH<ZY;ewhnG;hnGW<KW<OE<AH:CJKmrT<WG<XG<BXG<SW<HZZ",
    "<HZG<HP<HZWG<SZWG<HZT<HZZP<HPWG<HZW<HZZZ<N<H<S<P<SP<D<HZ<HG<SZ<SWZ<ST<SG<PD<PZ<TN<SZZ<SWG",
    "<HXWG<HZZZG<PG<Q:::::::::::::KATAKANAhnmcKU=SI=SU=TO=NU=HA=HI=HU=HE=HO=MU=RA=RI=RU=RE=RO",
    ":PARENTHESIZED HANGUL KIYEOK<NIEUN<TIKEUT<RIEUL<MIEUM<PIEUP<SIOS<IEUNG<CIEUC<CHIEUCH",
    "<KHIEUKH<THIEUTH<PHIEUPH<HIEUH<KIYEOK A<NIEUN A<TIKEUT A<RIEUL A<MIEUM A<PIEUP A<SIOS A",
    "<IEUNG A<CIEUC A<CHIEUCH A<KHIEUKH A<THIEUTH A<PHIEUPH A<HIEUH A<CIEUC U;KOREANbyOJEON",
    "=O HU:;IDEOGRAPHjj<oh<nn<fd<ey<lx<lh<ef<it<nf<ij<FIRE<WATER<WOOD<METAL<EARTH<SUN<STOCK",
    "<HAVE<SOCIETY<NAME<SPECIAL<FINANCIAL<CONGRATULATION<LABOR<REPRESENT<CALL<STUDY<SUPERVISE",
    "<ENTERPRISE<RESOU",
    "RCE<ALLIANCE<FESTIVAL<REST<SELF<REACH:ccIDEOGRAPHkm<KINDERGARTEN<SCHOOL<KOTO;jbnfONbiml",
    "<ogONbiml<nkONbiml<fbONbiml<evONbiml<lzONbiml<ljONbiml<ejONbiml:PARTNERSHIPlu:ccjbogjj=oh",
    "=nn=fd=ey=lx=lh=ef=it<nk=jj=oh=nn=fd=ey;HANGUL KIYEOK<NIEUN<TIKEUT<RIEUL<MIEUM<PIEUP<SIOS",
    "<IEUNG<CIEUC<CHIEUCH<KHIEUKH<THIEUTH<PHIEUPH<HIEUH<KIYEOK A<NIEUN A<TIKEUT A<RIEUL A",
    "<MIEUM A<PIEUP A<SIOS A<IEUNG A<CIEUC A<CHIEUCH A<KHIEUKH A<THIEUTH A<PHIEUPH A<HIEUH A",
    ";KOREANbyCHAMKO=JUEUI;HANGUL IEUNG U:KOREAN STANDARDmz:ccIDEOGRAPHjj<oh<nn<fd<ey<lx<lh<ef",
    "<it<nf<ij<FIRE<WATER<WOOD<METAL<EARTH<SUN<STOCK<HAVE<SOCIETY<NAME<SPECIAL<FINANCIAL",
    "<CONGRATULATION<LABOR<SECRET<MALE<FEMALE<SUITABLE<EXCELLENT<PRINT<ATTENTION<ITEM<REST<COPY",
    "<CORRECT<fy<bw<hu<hg<ks<MEDICINE<RELIGION<STUDY<SUPERVISE<ENTERPRISE<RESOU",
    "RCE<ALLIANCE<NIGHT;jbnklx=lh=ef=it<fb=jj=oh=nn=fd=ey=lx=lh=ef=it<ev:gfTELEGRAPHmzezJANUARY",
    ">FEBRUARY>MARCH>APRIL>MAY>JUNE>JULY>AUGUST>SEPTEMBER>OCTOBER>NOVEMBER>DECEMBER:mlHG;ERG;EV",
    ":LIMITED LIABILITYlu:ccKATAKANA A<I<U<E<O<KA<KI<KU<KE<KO<SA<SI<SU<SE<SO<TA<TI<TU<TE<TO<NA",
    "<NI<NU<NE<NO<HA<HI<HU<HE<HO<MA<MI<MU<ME<MO<YA<YU<YO<RA<RI<RU<RE<RO<WA<WI<WE<WO",
    ":mlERA NAME REIWA;APAATO;ARUHUA;ANPEA;AARU;ININGU;INTI;UON;ESUKUUDO;EEKAA;ONSU;OOMU;KAIRI",
    ";KARATTO;KARORII;GARON;GANMA;GIGA;GINII;KYURII;GIRUDAA;KIRO;KIROGURAMU;KIROMEETORU",
    ";KIROWATTO;GURAMU;GURAMUTON;KURUZEIRO;KUROONE;KEESU;KORUNA;KOOPO;SAIKURU;SANTIIMU;SIRINGU",
    ";SENTI;SENTO;DAASU;DESI;DORU;TON;NANO;NOTTO;HAITU;PAASENTO;PAATU;BAARERU;PIASUTORU;PIKURU",
    ";PIKO;BIRU;HUARADDO;HUIITO;BUSSYERU;HURAN;HEKUTAARU;PESO;PENIHI;HERUTU;PENSU;PEEZI;BEETA",
    ";POINTO;BORUTO;HON;PONDO;HOORU;HOON;MAIKURO;MAIRU;MAHHA;MARUKU;MANSYON;MIKURON;MIRI",
    ";MIRIBAARU;MEGA;MEGATON;MEETORU;YAADO;YAARU;YUAN;RITTORU;RIRA;RUPII;RUUBURU;REMU;RENTOGEN",
    ";WATTO:gfTELEGRAPHmzezHOURpj?jj?oh?nn?fd?ey?lx?lh?ef?it?nf?ELEVEN?of?THIRTEEN?FOURTEEN?eu",
    "?ly?li?eg?NINETEEN?og@-ONE@-TWO@-THREE@-FOUR:mlHPA;DA;AU;bc;OV;PC;DM<mm<CUBED;IU",
    ";ERA NAME HEISEI=SYOUWA=TAISYOU=MEIZI;CORPORATION;PA AMPS;NA;MU A;MA;KA;KB;MB;GB;CAL;KCAL",
    ";PF;NF;MU F<G;MG;KG;HZ;KHZ;MHZ;GHZ;THZ;MU L;ML;DL;KL;FM;NM;MU M;MM;CM;KM;MMmm;CMmm;Mmm",
    ";KMmm;MM CUBED;CM CUBED;M CUBED;KM CUBED;MjoS>mm;PA;KPA;MPA;GPA;RAD<joS>mm;PS;NS;MU S;MS",
    ";PV;NV;MU V;MV;KV;MV MEGA;PW;NW;MU W;MW;KW;MW MEGA;K OHM;M OHM;AM;BQ;CC;CD;CjoKG;CO;DB;GY",
    ";HA;HP;IN;KK;KMbs;KT;LM;LN;LOG;LX;MBmc;MIL;MOL;PH;PM;PPM;PR;SR;SV;WB;VjoM;AjoM",
    ":gfTELEGRAPHmzezDAYjj?oh?nn?fd?ey?lx?lh?ef?it?nf?ELEVEN?of?THIRTEEN?FOURTEEN?eu?ly?li?eg",
    "?NINETEEN?og@-ONE@-TWO@-THREE@-FOUR@-FIVE@-SIX@-SEVEN@-EIGHT@-NINE?nk@-ONE:mlGAL"]⟩,
  ⟨0x4DC0, [":HEXAGRAMezniCREATIVE HEAVEN=RECEPTIVE EARTH<DIFFICULTY ATniBEGINNING",
    "<YOUTHFUL FOLLY<WAITING<CONFLICT<niARMY<HOLDING TOGETHER<mcTAMING<TREADING<PEACE",
    "<STANDSTILL<FELLOWSHIP<GREAT POSSESSION<MODESTY<ENTHUSIASM<FOLLOWING<WORK ONniDECAYED",
    "<APPROACH<CONTEMPLATION<BITINGno<GRACE<SPLITTING APART<RETURN<INNOCENCE<GREAT TAMING",
    "<ikCORNERS<GREAT PREPONDERANCE<niABYSMAL WATER=CLINGING FIRE<INFLUENCE<DURATION<RETREAT",
    "<GREAT POWER<PROGRESS<DARKENING OFnihp<niFAMILY<OPPOSITION<OBSTRUCTION<DELIVERANCE",
    "<DECREASE<INCREASE<BREAKTHROUGH<COMING TO MEET<GATHERING TOGETHER<PUSHING UPWARD",
    "<OPPRESSION<niWELL<REVOLUTION<niCAULDRON=AROUSING THUNDER=KEEPING STILL MOUNTAIN",
    "<DEVELOPMENT<niMARRYING MAIDEN<ABUNDANCE<niWANDERER=GENTLE WIND=JOYOUS LAKE<DISPERSION",
    "<LIMITATION<INNER TRUTH<mcPREPONDERANCE<AFTER COMPLETION<BEFORE COMPLETION"]⟩,
  ⟨0xA000, [":YImyIT<IX<I<IP<IET<IEX<IE<IEP<AT<AX<A<AP<UOX<UO<UOP<OT<OX<O<OP<EX<E<WU<BIT<BIX<BI",
    "<BIP<BIET<BIEX<BIE<BIEP<BAT<BAX<BA<BAP<BUOX<BUO<BUOP<BOT<BOX<BO<BOP<BEX<BE<BEP<BUT<BUX<BU",
    "<BUP<BURX<BUR<BYT<BYX<BY<BYP<BYRX<BYR<PIT<PIX<PI<PIP<PIEX<PIE<PIEP<PAT<PAX<PA<PAP<PUOX<PUO",
    "<PUOP<POT<POX<PO<POP<PUT<PUX<PU<PUP<PURX<PUR<PYT<PYX<P",
    "Y<PYP<PYRX<PYR<BBIT<BBIX<BBI<BBIP<BBIET<BBIEX<BBIE<BBIEP<BBAT<BBAX<BBA<BBAP<BBUOX<BBUO",
    "<BBUOP<BBOT<BBOX<BBO<BBOP<BBEX<BBE<BBEP<BBUT<BBUX<BBU<BBUP<BBURX<BBUR<BBYT<BBYX<BBY<BBYP",
    "<NBIT<NBIX<NBI<NBIP<NBIEX<NBIE<NBIEP<NBAT<NBAX<NBA<NBAP<NBOT<NBOX<NBO<NBOP<NBUT<NBUX<NBU",
    "<NBUP<NBURX<NBUR<NBYT<NBYX<NBY<NBYP<NBYRX<NBYR<HMIT<HMIX<HMI<HMIP<HMIEX<HMIE<HMIEP<HMAT",
    "<HMAX<HMA<HMAP<HMUOX<HMUO<HMUOP<HMOT<HMOX<HMO<HMOP<HMUT<HMUX<HMU<HMUP<HMURX<HMUR<HMYX<HMY",
    "<HMYP<HMYRX<HMYR<MIT<MIX<MI<MIP<MIEX<MIE<MIEP<MAT<MAX<MA<MAP<MUOT<MUOX<MUO<MUOP<MOT<MOX<MO",
    "<MOP<MEX<ME<MUT<MUX<MU<MUP<MURX<MUR<MYT<MYX<MY<MYP<FIT<FIX<FI<FIP<FAT<FAX<FA<FAP<FOX<FO",
    "<FOP<FUT<FUX<FU<FUP<FURX<FUR<FYT<FYX<FY<FYP<VIT<VIX<VI<VIP<VIET<VIEX<VIE<VIEP<VAT<VAX<VA",
    "<VAP<VOT<VOX<VO<VOP<VEX<VEP<VUT<VUX<VU<VUP<VURX<VUR<VYT<VYX<VY<VYP<VYRX<VYR<DIT<DIX<DI<DIP",
    "<DIEX<DIE<DIEP<DAT<DAX<DA<DAP<DUOX<DUO<dv<DOX<DO<DOP<DEX<DE<DEP<DUT<DUX<DU<DUP<DURX<DUR",
    "<TIT<TIX<TI<TIP<TIEX<TIE<TIEP<TAT<TAX<TA<TAP<TUOT<TUOX<TUO<TUOP<TOT<TOX<TO<nu<TEX<TE<TEP",
    "<TUT<TUX<TU<TUP<TURX<TUR<DDIT<DDIX<DDI<DDIP<DDIEX<DDIE<DDIEP<DDAT<DDAX<df<DDAP<DDUOX<DDUO",
    "<DDUOP<DDOT<DDOX<DDO<DDOP<DDEX<DDE<DDEP<DDUT<DDUX<DDU<DDUP<DDURX<DDUR<NDIT<NDIX<NDI<NDIP",
    "<NDIEX<NDIE<NDAT<NDAX<NDA<NDAP<NDOT<NDOX<NDO<NDOP<NDEX<NDE<NDEP<NDUT<NDUX<NDU<NDUP<NDURX",
    "<NDUR<HNIT<HNIX<HNI<HNIP<HNIET<HNIEX<HNIE<HNIEP<HNAT<HNAX<HNA<HNAP<HNUOX<HNUO<HNOT<HNOX",
    "<HNOP<HNEX<HNE<HNEP<HNUT<NIT<NIX<NI<NIP<NIEX<NIE<NIEP<NAX<NA<NAP<NUOX<NUO<NUOP<iy<NOX<NO",
    "<NOP<NEX<NE<NEP<NUT<NUX<NU<NUP<NURX<NUR<HLIT<HLIX<HLI<HLIP<HLIEX<HLIE<HLIEP<HLAT<HLAX<HLA",
    "<HLAP<HLUOX<HLUO<HLUOP<HLOX<HLO<HLOP<HLEX<HLE<HLEP<HLUT<HLUX<HLU<HLUP<HLURX<HLUR<HLYT<HLYX",
    "<HLY<HLYP<HLYRX<HLYR<LIT<LIX<LI<LIP<LIET<LIEX<LIE<LIEP<LAT<LAX<LA<LAP<LUOT<LUOX<LUO<LUOP",
    "<LOT<LOX<LO<LOP<LEX<LE<LEP<LUT<LUX<LU<LUP<LURX<LUR<LYT<LYX<LY<LYP<LYRX<LYR<GIT<GIX<GI<GIP",
    "<GIET<GIEX<GIE<GIEP<GAT<GAX<GA<GAP<GUOT<GUOX<GUO<GUOP<GOT<GOX<G",
    "O<GOP<GET<GEX<GE<GEP<GUT<GUX<GU<GUP<GURX<GUR<KIT<KIX<KI<KIP<KIEX<KIE<KIEP<KAT<KAX<KA<KAP",
    "<KUOX<KUO<KUOP<KOT<KOX<KO<KOP<KET<KEX<KE<KEP<KUT<KUX<KU<KUP<KURX<KUR<GGIT<GGIX<GGI<GGIEX",
    "<GGIE<GGIEP<GGAT<GGAX<GGA<GGAP<GGUOT<GGUOX<GGUO<GGUOP<GGOT<GGOX<GGO<GGOP<GGET<GGEX<GGE",
    "<GGEP<GGUT<GGUX<GGU<GGUP<GGURX<GGUR<MGIEX<MGIE<MGAT<MGAX<MGA<MGAP<MGUOX<MGUO<MGUOP<MGOT",
    "<MGOX<MGO<MGOP<MGEX<MGE<MGEP<MGUT<MGUX<MGU<MGUP<MGURX<MGUR<HXIT<HXIX<HXI<HXIP<HXIET<HXIEX",
    "<HXIE<HXIEP<HXAT<HXAX<HXA<HXAP<HXUOT<HXUOX<HXUO<HXUOP<HXOT<HXOX<HXO<HXOP<HXEX<HXE<HXEP",
    "<NGIEX<NGIE<NGIEP<NGAT<NGAX<is<NGAP<NGUOT<NGUOX<NGUO<NGOT<NGOX<NGO<NGOP<NGEX<NGE<NGEP<HIT",
    "<HIEX<HIE<HAT<HAX<HA<HAP<HUOT<HUOX<HUO<HUOP<HOT<HOX<HO<HOP<HEX<HE<HEP<WAT<WAX<WA<WAP<WUOX",
    "<WUO<WUOP<WOX<WO<WOP<WEX<WE<WEP<ZIT<ZIX<ZI<ZIP<ZIEX<ZIE<ZIEP<ZAT<ZAX<ZA<ZAP<ZUOX<ZUO<ZUOP",
    "<ZOT<ZOX<ZO<ZOP<ZEX<ZE<ZEP<ZUT<ZUX<ZU<ZUP<ZURX<ZUR<ZYT<ZYX<ZY<ZYP<ZYRX<ZYR<CIT<CIX<CI<CIP",
    "<CIET<CIEX<CIE<CIEP<CAT<CAX<CA<CAP<CUOX<CUO<CUOP<COT<COX<CO<COP<CEX<CE<CEP<CUT<CUX<CU<CUP",
    "<CURX<CUR<CYT<CYX<CY<CYP<CYRX<CYR<ZZIT<ZZIX<ZZI<ZZIP<ZZIET<ZZIEX<ZZIE<ZZIEP<ZZAT<ZZAX<ZZA",
    "<ZZAP<ZZOX<ZZO<ZZOP<ZZEX<ZZE<ZZEP<ZZUX<ZZU<ZZUP<ZZURX<ZZUR<ZZYT<ZZYX<ZZY<ZZYP<ZZYRX<ZZYR",
    "<NZIT<NZIX<NZI<NZIP<NZIEX<NZIE<NZIEP<NZAT<NZAX<NZA<NZAP<NZUOX<NZUO<NZOX<NZOP<NZEX<NZE<NZUX",
    "<NZU<NZUP<NZURX<NZUR<NZYT<NZYX<NZY<NZYP<NZYRX<NZYR<SIT<lx<SI<SIP<SIEX<SIE<SIEP<SAT<SAX<SA",
    "<SAP<SUOX<SUO<SUOP<SOT<SOX<SO<SOP<SEX<SE<SEP<SUT<SUX<SU<SUP<SURX<SUR<SYT<SYX<SY<SYP<SYRX",
    "<SYR<SSIT<SSIX<SSI<SSIP<SSIEX<SSIE<SSIEP<SSAT<SSAX<mn<SSAP<SSOT<SSOX<SSO<SSOP<SSEX<SSE",
    "<SSEP<SSUT<SSUX<SSU<SSUP<SSYT<SSYX<SSY<SSYP<SSYRX<SSYR<ZHAT<ZHAX<ZHA<ZHAP<ZHUOX<ZHUO<ZHUOP",
    "<ZHOT<ZHOX<ZHO<ZHOP<ZHET<ZHEX<ZHE<ZHEP<ZHUT<ZHUX<ZHU<ZHUP<ZHURX<ZHUR<ZHYT<ZHYX<ZHY<ZHYP",
    "<ZHYRX<ZHYR<CHAT<CHAX<bx<CHAP<CHUOT<CHUOX<CHUO<CHUOP<CHOT<CHOX<CHO<CHOP<CHET<CHEX<CHE<CHEP",
    "<CHUX<CHU<CHUP<CHURX<CHUR<CHYT<CHYX<CHY<CHYP<CHYRX<CHYR<RRAX<RRA<RRUOX<RRUO<RROT<RROX<RRO",
    "<RROP<RRET<RREX<RRE<RREP<RRUT<RRUX<RRU<RRUP<RRURX<RRUR<RRYT<RRYX<RRY<RRYP<RRYRX<RRYR<NRAT",
    "<NRAX<NRA<NRAP<NROX<NRO<NROP<NRET<NREX<NRE<NREP<NRUT<NRUX<NRU<NRUP<NRURX<NRUR<NRYT<NRYX",
    "<NRY<NRYP<NRYRX<NRYR<SHAT<SHAX<lk<SHAP<SHUOX<SHUO<SHUOP<SHOT<SHOX<SHO<SHOP<SHET<SHEX<SHE",
    "<SHEP<SHUT<SHUX<SHU<SHUP<SHURX<SHUR<SHYT<SHYX<SHY<SHYP<SHYRX<SHYR<RAT<RAX<RA<RAP<RUOX<RUO",
    "<RUOP<ROT<ROX<RO<ROP<REX<RE<REP<RUT<RUX<RU<RUP<RURX<RUR<RYT<RYX<RY<RYP<RYRX<RYR<JIT<JIX<JI",
    "<JIP<JIET<JIEX<JIE<JIEP<JUOT<JUOX<JUO<JUOP<JOT<JOX<JO<JOP<JUT<JUX<JU<JUP<JURX<JUR<JYT<JYX",
    "<JY<JYP<JYRX<JYR<QIT<QIX<QI<QIP<QIET<QIEX<QIE<QIEP<QUOT<QUOX<QUO<QUOP<QOT<QOX<QO<QOP<QUT",
    "<QUX<QU<QUP<QURX<QUR<QYT<QYX<QY<QYP<QYRX<QYR<JJIT<JJIX<JJI<JJIP<JJIET<JJIEX<JJIE<JJIEP",
    "<JJUOX<JJUO<JJUOP<JJOT<JJOX<JJO<JJOP<JJUT<JJUX<JJU<JJUP<JJURX<JJUR<JJYT<JJYX<JJY<JJYP<NJIT",
    "<NJIX<NJI<NJIP<NJIET<NJIEX<NJIE<NJIEP<NJUOX<NJUO<NJOT<NJOX<NJO<NJOP<NJUX<NJU<NJUP<NJURX",
    "<NJUR<NJYT<NJYX<NJY<NJYP<NJYRX<NJYR<NYIT<NYIX<NYI<NYIP<NYIET<NYIEX<NYIE<NYIEP<NYUOX<NYUO",
    "<NYUOP<NYOT<NYOX<NYO<NYOP<NYUT<NYUX<NYU<NYUP<XIT<XIX<XI<XIP<XIET<XIEX<XIE<XIEP<XUOX<XUO",
    "<XOT<XOX<XO<XOP<XYT<XYX<XY<XYP<XYRX<XYR<YIT<YIX<YI<YIP<YIET<YIEX<YIE<YIEP<YUOT<YUOX<YUO",
    "<YUOP<YOT<YOX<YO<YOP<YUT<YUX<YU<YUP<YURX<YUR<YYT<YYX<YY<YYP<YYRX<YYR:::;RADICAL QOT<LI<KIT",
    "<NYIP<CYP<SSI<GGOP<GEP<MI<HXIT<LYR<BBUT<MOP<YO<PUT<HXUO<TAT<GA<ZUP<CYT<DDUR<BUR<GGUO<NYOP",
    "<TU<OP<JJUT<ZOT<PYT<HMO<YIT<VUR<SHY<VEP<ZA<JO<NZUP<JJY<GOT<JJIE<WO<DU<SHUR<LIE<CY<CUOP<CIP",
    "<HXOP<SHAT<ZUR<SHOP<CHE<ZZIET<NBIE<KE::::::::::LISUhnBA<PA<jw<DA<TA<nh<GA<KA<gw<JA<CA<bx",
    "<DZA<TSA<TSHA<MA<NA<LA<SA<ZHA<ZA<is<HA<XA<HHA<FA<WA<lk<YA<fi<A<AE<E<EU<I<O<U<UE<UH<OE",
    "<nsMYA TI=NA PO=MYA CYA>BO>NA>JEU;kgcj<fgmp:VAImyEE<EEN<HEE<WEE<WEEN<PEE<BHEE<BEE<MBEE",
    "<KPEE<MGBEE<GBEE<FEE<VEE<TEE<THEE<DHEE<DHHEE<LEE<REE<DEE<NDEE<SEE<SHEE<ZEE<ZHEE<CEE<JEE",
    "<NJEE<YEE<KEE<NGGEE<GEE<MEE<NEE<NYEE<I<IN<HI<HIN<WI<WIN<PI<BHI<BI<MBI<KPI<MGBI<GBI<FI<VI",
    "<TI<THI<DHI<DHHI<LI<RI<DI<NDI<SI<SHI<ZI<ZHI<CI<JI<NJI<YI<KI<NGGI<GI<MI<NI<NYI<A<AN<NGAN<HA",
    "<HAN<WA<WAN<PA<bh<BA<MBA<KPA<KPAN<MGBA<GBA<FA<VA<TA<nh<dk<DHHA<LA<RA<DA<NDA<SA<lk<ZA<ZHA",
    "<CA<JA<NJA<YA<KA<KAN<NGGA<GA<MA<NA<jd<OO<OON<HOO<WOO<WOON<POO<BHOO<BOO<MBOO<KPOO<MGBOO",
    "<GBOO<FOO<VOO<TOO<THOO<DHOO<DHHOO<LOO<ROO<DOO<NDOO<SOO<SHOO<ZOO<ZHOO<COO<JOO<NJOO<YOO<KOO",
    "<NGGOO<GOO<MOO<NOO<NYOO<U<UN<HU<HUN<WU<WUN<PU<BHU<BU<MBU<KPU<MGBU<GBU<FU<VU<TU<THU<DHU",
    "<DHHU<LU<RU<DU<NDU<SU<SHU<ZU<ZHU<CU<JU<NJU<YU<KU<NGGU<GU<MU<NU<NYU<O<ON<NGON<HO<HON<WO<WON",
    "<PO<BHO<BO<MBO<KPO<MGBO<GBO<GBON<FO<VO<TO<THO<DHO<DHHO<LO<RO<DO<NDO<SO<SHO<ZO<ZHO<CO<JO",
    "<NJO<YO<KO<NGGO<G",
    "O<MO<NO<NYO<E<EN<NGEN<HE<HEN<WE<WEN<PE<BHE<BE<MBE<KPE<KPEN<MGBE<GBE<GBEN<FE<VE<TE<ni<DHE",
    "<DHHE<LE<RE<DE<NDE<SE<SHE<ZE<ZHE<CE<JE<NJE<YE<KE<NGGE<NGGEN<GE<GEN<ME<NE<NYE<NG<LENGTHENER",
    ";cj;fgmp;kmib;myNDOLE FA=KA=SOO;mzFEENG<KEENG<TING<NII<BANG<FAA<TAA<DANG<DOONG<KUNG<TONG",
    "<DO-O<JONG;dspj<jj<oh<nn<fd<ey<lx<lh<ef<it;myNDOLE MA=DO"]⟩,
  ⟨0xA640, [":czbshnZEMLYA;mchnZEMLYA;bshnDZELO;mchnDZELO;bshnkrDZE;mchnkrDZE;bshngp;mchngp",
    ";bshnDJERV;mchnDJERV;bshnMONOGRAPH UK;mchnMONOGRAPH UK;bshnBROADjh;mchnBROADjh;bshnirYER",
    ";mchnirYER;bshnYERUpdBACK YER;mchnYERUpdBACK YER;bshngqYAT;mchngqYAT;bshnkrYU;mchnkrYU",
    ";bshngqA;mchngqA;bshncghrYUS;mchncghrYUS;bshnBLENDED YUS;mchnBLENDED YUS;bshngqcghrYUS",
    ";mchngqcghrYUS;bshnYN;mchnYN;bshnkrTSE;mchnkrTSE;bshnSOFT DE;mchnSOFT DE;bshnSOFT EL",
    ";mchnSOFT EL;bshnSOFT EM;mchnSOFT EM;bshnMONOCULAR O;mchnMONOCULAR O;bshnBINOCULAR O",
    ";mchnBINOCULAR O;bshndzMONOCULAR O;mchndzMONOCULAR O;hnMULTIOCULAR O:ciczVZMET",
    "<nfMILLIONSlu<geMILLIONSlu<nlMILLIONSlu:SLAVONICba:ciczhnUKRAINIAN IE=I=YI=U=HARDlu=YERU",
    "=SOFTlu=jh<KAVYKA<PAYEROK:czKAVYKA;PAYEROK;bshnDWE;mchnDWE;bshnDZWE;mchnDZWE;bshnZHWE",
    ";mchnZHWE;bshnCCHE;mchnCCHE;bshnDZZE;mchnDZZE;bshnTEpdiggb;mchnTEpdiggb;bshnTWE;mchnTWE",
    ";bshnTSWE;mchnTSWE;bshnTSSE;mchnTSSE;bshnTCHE;mchnTCHE;bshnHWE;mchnHWE;bshnSHWE;mchnSHWE",
    ";bshndzO;mchndzO;bshncsO;mchncsO:iihnczHARDlu=SOFTlu:ciczhnEF=gqE:BAMUMhnA<KA<U<KU<EE<REE",
    "<TAE<O<NYI<I<LA<PA<RII<RIEE<LEEEE<MEEEE<TAA<NDAA<NJAEM<M<SUU<MU<SHII<SI<SHEUX<SEUX<KYEE",
    "<KET<NUAE<NU<NJUAE<YOQ<SHU<YUQ<YA<NSHA<KEUX<PEUX<NJEE<NTEE<PUE<WUE<PEE<FEE<RU<LU<MI<NI",
    "<REUX<RAE<KEN<NGKWAEN<NGGA<is<SHO<PUAE<FU<FOM<WA<NA<LI<PI<LOQ<KO<MBEN<REN<MEN<MA<TI<KI<MO",
    "<MBAA<TET<KPA<nf<NTUU<SAMBA<FAAMAE<KOVUU<KOGHOM;ciibKOQNDON=TUKWENTIS;NJAEMLI;fgmp;ch;cj",
    ";lf;kmib:::::::::iihnCHINESEnsYIN PING>YANG PING>YIN SHANG>YANG SHANG>YIN QU>YANG QU",
    ">YIN RU>YANG RU<EXTRA-HIGHdynsbc<fydynsbc<MIDdynsbc<hudynsbc<EXTRA-LOWdynsbc=-HIGHdyhinsbc",
    "<fydyhinsbc<MIDdyhinsbc<hudyhinsbc<EXTRA-LOWdyhinsbc=-HIGHhinsbc<fyhinsbc<MIDhinsbc",
    "<huhinsbc<EXTRA-LOWhinsbc<dvorbc=mb=gcbc<hvkscpao<koUPaw=ebaw=eqib=goeqib<hugoeqib",
    "<STRESSanfyns>huns:hebshnEGYPTOLOGICALaf;mchnEGYPTOLOGICALaf;bshnEGYPTOLOGICAL AIN",
    ";mchnEGYPTOLOGICAL AIN;bshnHENG;mchnHENG;bshnTZ;mchnTZ;bshnTRESILLO;mchnTRESILLO",
    ";bshnCUATRILLO;mchnCUATRILLO;bshnCUATRILLOpdcj;mchnCUATRILLOpdcj;hnmcbsF>S;bshnAA;mchnAA",
    ";bshnAO;mchnAO;bshnAU;mchnAU;bshnAV;mchnAV;bshnAVpdgcbc;mchnAVpdgcbc;bshnAY;mchnAY",
    ";bshnkrCpddv;mchnkrCpddv;bshnKpdmr;mchnKpdmr;bshnKpddmmr;mchnKpddmmr;bshnKpdmrandmmr",
    ";mchnKpdmrandmmr;bshnBROKEN L;mchnBROKEN L;bshnLpdfymr;mchnLpdfymr;bshnOpdhtmrjq",
    ";mchnOpdhtmrjq;bshnOpdLOOP;mchnOpdLOOP;bshnOO;mchnOO;bshnPpdmrnodj;mchnPpdmrnodj",
    ";bshnPpdFLOURISH;mchnPpdFLOURISH;bshnPpdSQUIRRELnb;mchnPpdSQUIRRELnb;bshnQpdmrnodj",
    ";mchnQpdmrnodj;bshnQpddmmr;mchnQpddmmr;bshnR ROTUNDA;mchnR ROTUNDA;bshnRUM ROTUNDA",
    ";mchnRUM ROTUNDA;bshnVpddmmr;mchnVpddmmr;bshnVY;mchnVY;bshnVISIGOTHIC Z;mchnVISIGOTHIC Z",
    ";bshnTHORNpdmr;mchnTHORNpdmr;bshnTHORNpdmrnodj;mchnTHORNpdmrnodj;bshnVEND;mchnVEND;bshnET",
    ";mchnET;bshnIS;mchnIS;bshnCON;mchnCON:iihnUS:hemchnDUM=LUM=MUM=NUM=RUM;hnmcbsRUM;mchnTUM",
    "=UM;bshnglD;mchnglD;bshnglF;mchnglF;bshnglG=ocglG;mchnocglG;bshnocL;mchnocL;bshnglR",
    ";mchnglR;bshnglS;mchnglS;bshnglT;mchnglT:iihnhucead<ch<lqenlu:hebshnSALTILLO;mchnSALTILLO",
    ";bshnocH;mchnLpdkpgbanBELT;hnSINOLOGICALdv;bshnNpddj;mchnNpddj;bshnCpdbc;mchnCpdbc?jsgb",
    "=Hpdjsgb;bshnBpdFLOURISH;mchnBpdFLOURISH;bshnFpdmr;mchnFpdmr;bshnVOLAPUK AE;mchnVOLAPUK AE",
    ";bshnVOLAPUK OE;mchnVOLAPUK OE;bshnVOLAPUK UE;mchnVOLAPUK UE;bshnGpdjemr;mchnGpdjemr",
    ";bshnKpdjemr;mchnKpdjemr;bshnNpdjemr;mchnNpdjemr;bshnRpdjemr;mchnRpdjemr;bshnSpdjemr",
    ";mchnSpdjemr;bshnHpdgb=krjkE=lcG=LpdBELT=mcbsI;hnmcbsQ;bshnocK>T=Jpdct=CHI=BETA;mchnBETA",
    ";bshnjh;mchnjh;bshnUpdmr;mchnUpdmr;bshnflA;mchnflA;bshnflI;mchnflI;bshnflU;mchnflU",
    ";bshnjgPOLISH O;mchnjgPOLISH O;bshnANGLICANA W;mchnANGLICANA W;bshnCpdjsgb=Spdgb=Zpdjsgb",
    "=Dpdlqmrjq;mchnDpdlqmrjq;bshnSpdlqmrjq;mchnSpdlqmrjq:::::;bshncgglG;mchncgglG:=dzTHORN:",
    ">WYNN;bshnigSCOTS S;mchnigSCOTS S;bshnSIGMOID S;mchnSIGMOID S"]⟩,
  ⟨0xA7F2, [":iihnbsC=F=Q:hebshnkrfrH;mchnkrfrH;EPIGRAPHIChnlsI:iihnbsHpdmr<mchoOE:hehnmcbsocM",
    ";EPIGRAPHIChnkrF>P=goM=I LONGA=auM:SYLOTI NAGRIhnA=I<luDVISVARA<hnU=E=O<luHASANTA<hnKO=KHO",
    "=G",
    "O=GHO<luaq<hnCO=CHO=JO=JHO=TTO=TTHO=DDO=DDHO=TO=THO=DO=DHO=NO=PO=PHO=BO=BHO=MO=RO=LO=RRO",
    "=SO=HO<oxluA>I>U>E>OO<POETRY MARK-1>-2>-3>-4<luakHASANTA::::ixINDICfejjkj>fr=nnkk",
    "=jjSIXTEENTH>eh=nnSIXTEENTHS<kjib<PLACEHOLDERib<RUPEEib<QUANTITYib:::::::PHAGS-PAhnKA=gw",
    "=GA=is=CA=bx=JA=jd=TA=nh=DA=NA=PA=jw=BA=MA=TSA=TSHA=DZA=WA=ZHA=ZA=mcA=YA=RA=LA=lk=SA=HA=A",
    "=I=U=E=O=QA=XA=FA=GGA=EE<SUBJOINEDhnWA>YA<hnoa=ob=df=iv=akYA=VOICELESSlk=VOICED HA",
    "=ASPIRATED FA<SUBJOINEDhnRA<SUPERFIXEDhnRA<hnbr<lwHEADib<dzHEADib<ibSHAD=dzSHAD::::::::",
    ":SAURASHTRAluaq<ov;hnA<AA<I<II<U<UU<owR=RR=L=LL<E<EE<AI<O<OO<AU<KA<gw<GA<fi<is<CA<bx<JA<gu",
    "<jd<oa<ob<df<dg<iv<TA<nh<DA<dk<NA<PA<jw<BA<bh<MA<YA<RA<LA<VA<lk<mn<SA<HA<LLA;cmluHAARU",
    ";oxluAA=I=II=U=UU=owR>RR>L>LL=E=EE=AI=O=OO=AU;luou<br::::::::;db;dzdb;dspj<jj<oh<nn<fd<ey",
    "<lx<lh<ef<it:::::::ciDEVANAGARIdspj=jj=oh=nn=fd=ey=lx=lh=ef=it<hnA=U=KA=NA=PA=RA=VI<lubb",
    ":DEVANAGARIluSPACINGbr<brou<dzbrou<broh=nn=bb<PUSHPIKA;GAP FILLER;CARET;HEADSTROKE",
    ";luSIDDHAM;JAIN OM;hnAY;oxluAY:KAYAH LIdspj=jj=oh=nn=fd=ey=lx=lh=ef=it<hnKA=gw=GA=is=SA=lk",
    "=ZA=jd=TA=HTA=NA=PA=jw=MA=DA=BA=RA=YA=LA=WA=nh=HA=VA=CA=A=OE=I=OO<oxUE=E=U=EE=O<nsPLOPHU",
    "=CALYA>PLOPHU<luCWI=SHYA:REJANGhnKA<GA<is<TA<DA<NA<PA<BA<MA<CA<JA<jd<SA<RA<LA<YA<WA<HA<MBA",
    "<NGGA<NDA<NYJA<A;oxluI=U=E=AI=O=AU=EU=EA;cmluNG=N=R=H;ou:::::::::::;ldib",
    ":HANGUL CHOSEONG TIKEUT-MIEUM=-PIEUP=-SIOS=-CIEUC<RIEUL-KIYEOK=-SSANGKIYEOK=-TIKEUT",
    "=-SSANGTIKEUT=-MIEUM=-PIEUP=-SSANGPIEUP=-KAPYEOUNPIEUP=-SIOS=-CIEUC=-KHIEUKH<MIEUM-KIYEOK",
    "=-TIKEUT=-SIOS<PIEUP-SIOS-THIEUTH=-KHIEUKH=-HIEUH<SSANGSIOS-PIEUP<IEUNG-RIEUL=-HIEUH",
    "<SSANGCIEUC-HIEUH<SSANGTHIEUTH<PHIEUPH-HIEUH<HIEUH-SIOS<SSANGYEORINHIEUH:::",
    ":JA",
    "VANESEluPANYANGGA<CECAK<LAYAR<WIGNYAN;hnA<I KAWI<I<II<U<PA CEREK<isLELET>RASWADI<E<AI<O<KA",
    "=SASAK=MURDA<GA=MURDA<is<CA=MURDA<JA<jdMURDA<JAhz<jd<oa=hz<df=hz<NA MURDA<TA=MURDA<DA=hz",
    "<NA<PA=MURDA<BA=MURDA<MA<YA<RA=AGUNG<LA<WA<SA MURDA=hz<SA<HA;luCECAK TELU;oxluTARUNG",
    "=TOLONG=WULU>MELIK=SUKU>MENDUT=TALING=DIRGA MURE=PEPET;cmluKERET=PENGKAL=CAKRA;PANGKON",
    ";hgRERENGGAN;ksRERENGGAN;PADA ANDAP<MADYA<LUHUR<WINDU<PANGKAT<LINGSA<LUNGSI<ADEG=ADEG",
    "<PISELEH;ocPADA PISELEH:;PANGRANGKEP;dspj<jj<oh<nn<fd<ey<lx<lh<ef<it::::",
    ";PADA TIRTA TUMETES<ISEN-ISEN:MYANMARhnSHANfi=bx=gu=iv=bh;luSHAN SAW",
    ";iihnSHAN REDUPLICATION;hnTAI LAINGjd>FA>GA>fi>JA>gu>df>dg>iv;TAI LAINGdspj>jj>oh>nn>fd>ey",
    ">lx>lh>ef>it;hnTAI LAING LLA>DA>dk>BA>bh::CHAMhnA<I<U<E<AI<O<KA<gw<GA<fi<NGUE<is<bx<CHHA",
    "<JA<gu<NHUE<NHA<NHJA<TA<nh<DA<dk<NUE<NA<df<PA<PPA<jw<BA<bh<MUE<MA<BBA<YA<RA<LA<VA<mn<SA<HA",
    ";oxluAA=I=II=EI=U=OE=O=AI=AU=UE;cmluYA=RA=LA=WA:::::::::;hnewK=G=NG;cmluewNG;hnewCH=T=N=P",
    "=Y=R=L=SS;cmluewM>H::;dspj<jj<oh<nn<fd<ey<lx<lh<ef<it::;kgSPIRAL<db<dzdb<nzdb",
    ":MYANMARhnKHAMTI GA=CA=bx=JA=gu=jd=oa=ob=df=dg=dk=NA=SA=HA=HHA=FA;iihnKHAMTI REDUPLICATION",
    ";hnKHAMTI XA=ZA=RA;LOGOGRAM KHAMTI OAY=QN=HM;mzAITONeq=jj=oh;hnAITON RA;luPAO KARENns",
    "<TAI LAING TONE-2?-5;hnSHWE PALAUNGbx>lk:TAI VIEThnhuKO=fyKO=huKHO=fyKHO=huKHHO=fyKHHO",
    "=huGO=fyGO=huNGO=fyNGO=huCO=fyCO=huCHO=fyCHO=huSO=fySO=huNYO=fyNYO=huDO=fyDO=huTO=fyTO",
    "=huTHO=fyTHO=huNO=fyNO=huBO=fyBO=huPO=fyPO=huPHO=fyPHO=huFO=fyFO=huMO=fyMO=huYO=fyYO=huRO",
    "=fyRO=huLO=fyLO=huVO=fyVO=huHO=fyHO=huO=fyO<MAI KANG<oxAA=I=UE=U=E=O<MAI KHIT<oxIA=UEA=UA",
    "=AUE=AY=AN=AM<nsMAI EK>NUENG>THO>SONG"]⟩,
  ⟨0xAADB, [":TAI VIETmzKON=NUENG=SAM=HO HOI=KOI KOI:MEETEI MAYEKhnE=O=bx=jd=oa=ob=df=dg=iv=lk",
    "=mn<oxluII>UU>AAI>AU>AAU<CHEIKHAN<AHANG KHUDAM<ANJI<myREPETITIONib<WORD REPETITIONib",
    "<oxluov<ou:::::::::::ETHIOPICmyTTHU<TTHI<TTHAA<TTHEE<TTHE<TTHO::<DDHU<DDHI<DDHAA<DDHEE",
    "<DDHE<DDHO::<DZU<DZI<DZAA<DZEE<DZE<DZO:::::::::<CCHHA<CCHHU<CCHHI<CCHHAA<CCHHEE<CCHHE",
    "<CCHHO:<BBA<BBU<BBI<BBAA<BBEE<BBE<BBO::hemchnBARREDaj=A REVERSED-SCHWA=BLACKLETTER E",
    "=BARRED E=EpdFLOURISH=LENIS F=lcGpdct=LpdgoLAZY S?dzignq?igkv=Mpdct=Npdct=ENGpdct",
    "=BLACKLETTER O?pdmr=jkOpdmr=goOE=ocOEpdmr@gcmr>O OPEN-O@-Opdmr=STIRRUP R;hnmcbsRpdksLEG",
    ";mchnR WITHOUT HANDLE=dzR=Rpdct=dzRpdct=lcR?pdkv=BASELINE ESH=UpdlqksLEG>bcpdlqksLEG=UI",
    "=ocUI=Updhggb=CHI>pdhukskv@hgSERIF=Xpdhukskv?hthgLEG@hgLEGanhukskv@hgLEGpdSERIF=YpdlqksLEG",
    ":iibnpdgobn;hnmcHENG=LpdgoLAZY S?ignq=Updhggb:hemchnSAKHA YAT=gqE=jkOE=UO=goaj:fohnmcbsjh",
    ":hemchnDZdtpdkpgb=TSdtpdkpgb=ocRpdignq:iihnmcocW<hgna<ksna:::::CHEROKEEmchnA=E=I=O=U=V=GA",
    "=KA=GE=GI=G",
    "O=GU=GV=HA=HE=HI=HO=HU=HV=LA=LE=LI=LO=LU=LV=MA=ME=MI=MO=MU=NA=HNA=NAH=NE=NI=NO=NU=NV=QUA",
    "=QUE=QUI=QUO=QUU=QUV=SA=S=SE=SI=SO=SU=SV=DA=TA=DE=TE=DI=TI=DO=DU=DV=DLA=TLA=TLE=TLI=TLO",
    "=TLU=TLV=TSA=TSE=TSI=TSO=TSU=TSV=WA=WE=WI=WO=WU=WV=YA:MEETEI MAYEKhnKOK=SAM=LAI=MIT=PA=NA",
    "=CHIL=TIL=KHOU=NGOU=THOU=WAI=YANG=HUK=UN=I=PHAM=ATIYA=GOK=JHAM=RAI=BA=JIL=DIL=GHOU=DHOU",
    "=BHAM=KOK LONSUM=LAI LONSUM=MIT LONSUM=PA LONSUM=NA LONSUM=TIL LONSUM=NGOU LONSUM=I LONSUM",
    "<oxluONAP>INAP>ANAP>YENAP>SOUNAP>UNAP>CHEINAP>NUNG<CHEIKHEI<LUM IYEK<APUN IYEK::<dspj=jj",
    "=oh=nn=fd=ey=lx=lh=ef=it"]⟩,
  ⟨0xD7B0, [":HANGUL JUNGSEONG O-YEO=-O-I<YO-A=-AE=-EO<U-YEO=-I-I<YU-AE=-O<EU-A=-EO=-E=-O",
    "<I-YA-O=-YAE=-YEO=-YE=-O-I=-YO=-YU=-I<ARAEA-A=-E::::;JONGSEONG NIEUN-RIEUL=-CHIEUCH",
    "<SSANGTIKEUT=-PIEUP<TIKEUT-PIEUP=-SIOS>-KIYEOK=-CIEUC=-CHIEUCH=-THIEUTH<RIEUL-SSANGKIYEOK",
    "=-KIYEOK-HIEUH<SSANGRIEUL-KHIEUKH<RIEUL-MIEUM-HIEUH=-PIEUP-TIKEUT>-PHIEUPH=-YESIEUNG",
    "=-YEORINHIEUH-HIEUH<KAPYEOUNRIEUL<MIEUM-NIEUN=-SSANGNIEUN<SSANGMIEUM<MIEUM-PIEUP-SIOS",
    "=-CIEUC<PIEUP-TIKEUT=-RIEUL-PHIEUPH=-MIEUM<SSANGPIEUP<PIEUP-SIOS-TIKEUT=-CIEUC=-CHIEUCH",
    "<SIOS-MIEUM=-KAPYEOUNPIEUP<SSANGSIOS-KIYEOK=-TIKEUT<SIOS-PANSIOS=-CIEUC=-CHIEUCH=-THIEUTH",
    "=-HIEUH<PANSIOS-PIEUP=-KAPYEOUNPIEUP<YESIEUNG-MIEUM=-HIEUH<CIEUC-PIEUP=-SSANGPIEUP",
    "<SSANGCIEUC<PHIEUPH-SIOS=-THIEUTH"]⟩,
  ⟨0xFB00, [":hemchoFF=FI=FL=FFI=FFL=htS T=ST:::::::::::::ARMENIANmchoMEN NOW>ECH>INI=VEW NOW",
    "=MEN XEH::::::HEBREWhnYODpdHIRIQ;POINT JUDEO-SPANISH VARIKA;hoYIDDISH YOD YOD PATAH",
    ";hnALTERNATIVE AYIN<WIDEaf=DALET=HE=KAF=LAMED=ewMEM=RESH=TAV<ALTERNATIVEjylu<lppdlpdv",
    ">SINdv>daanlpdv@SINdv<afpdPATAH>QAMATS>MAPIQ<BETpdda<fkpdda<DALETpdda<HEpdMAPIQ<VAVpdda",
    "<ZAYINpdda:<TETpdda<YODpdda<ewKAFpdda<KAFpdda<LAMEDpdda:<MEMpdda:<jcpdda<lapdda:<ewPEpdda",
    "<PEpdda:<TSADIpdda<QOFpdda<RESHpdda<lppdda<TAVpdda<VAVpdHOLAM<BETpdRAFE<KAFpdRAFE<PEpdRAFE",
    ";hoafLAMED:ashnafWASLAgrfa>ewfa<BEEHgrfa=ewfa=gjfa=idfa<PEHgrfa=ewfa=gjfa=idfa<BEHEHgrfa",
    "=ewfa=gjfa=idfa<TTEHEHgrfa=ewfa=gjfa=idfa<TEHEHgrfa=ewfa=gjfa=idfa<TTEHgrfa=ewfa=gjfa=idfa",
    "<VEHgrfa=ewfa=gjfa=idfa<PEHEHgrfa=ewfa=gjfa=idfa<DYEHgrfa=ewfa=gjfa=idfa<NYEHgrfa=ewfa",
    "=gjfa=idfa<TCHEHgrfa=ewfa=gjfa=idfa<TCHEHEHgrfa=ewfa=gjfa=idfa<DDAHALgrfa=ewfa<DAHALgrfa",
    "=ewfa<DULgrfa=ewfa<DDALgrfa=ewfa<JEHgrfa=ewfa<RREHgrfa=ewfa<KEHEHgrfa=ewfa=gjfa=idfa",
    "<GAFgrfa=ewfa=gjfa=idfa<GUEHgrfa=ewfa=gjfa=idfa<NGOEHgrfa=ewfa=gjfa=idfa<iwGHUNNAgrfa>ewfa",
    "<RNOONgrfa=ewfa=gjfa=idfa<HEHpdpfacgrfa@ewfa=GOALgrfa>ewfa>gjfa>idfa=DOACHASHMEEgrfa>ewfa",
    ">gjfa>idfa<pfBARREEgrfa>ewfa>pdfsacgrfa@acewfa;mzdvac=be<ohdxac>be<nndxac>be>kaedac@be",
    "<fddxac>be<dzorbcbe<ohdxosac?be<kv<mcTAHac>be<WASLAac"]⟩,
  ⟨0xFBD3, [":ashnNGgrfa=ewfa=gjfa=idfa<Ugrfa=ewfa<OEgrfa=ewfa<YUgrfa=ewfa<Updfsacgrfa<VEgrfa",
    "=ewfa<KIRGHIZ OEgrfa>ewfa=YUgrfa>ewfa<Egrfa=ewfa=gjfa=idfa<UIGHUR KAZAKH KIRGHIZafiagjfa",
    "@iaidfa;hopfpdfsacpdafgrfa@pdafewfa@pdAEgrfa@pdAEewfa@pdozgrfa@pdozewfa@pdUgrfa@pdUewfa",
    "@pdOEgrfa@pdOEewfa@pdYUgrfa@pdYUewfa@pdEgrfa@pdEewfa@pdEgjfa",
    "<UIGHUR KIRGHIZpfpdfsacpdafiagrfa@fsacpdafiaewfa@fsacpdafiagjfa;hnFARSIpfgrfa>ewfa>gjfa",
    ">idfa;hopfpdfsacpdgtgrfa@pdfqgrfa@pdifgrfa@pdafiagrfa@pdpfgrfa<BEHpdgtgrfa>fqgrfa>gxgrfa",
    ">ifgrfa>afiagrfa>pfgrfa<TEHpdgtgrfa>fqgrfa>gxgrfa>ifgrfa>afiagrfa>pfgrfa<THEHpdgtgrfa",
    ">ifgrfa>afiagrfa>pfgrfa<gtpdfqgrfa>ifgrfa<fqpdgtgrfa>ifgrfa<gxpdgtgrfa>fqgrfa>ifgrfa",
    "<lepdgtgrfa>fqgrfa>gxgrfa>ifgrfa<SADpdfqgrfa>ifgrfa<DADpdgtgrfa>fqgrfa>gxgrfa>ifgrfa",
    "<TAHpdfqgrfa>ifgrfa<ZAHpdifgrfa<AINpdgtgrfa>ifgrfa<fjpdgtgrfa>ifgrfa<FEHpdgtgrfa>fqgrfa",
    ">gxgrfa>ifgrfa>afiagrfa>pfgrfa<QAFpdfqgrfa>ifgrfa>afiagrfa>pfgrfa<KAFpdafgrfa>gtgrfa",
    ">fqgrfa>gxgrfa>hbgrfa>ifgrfa>afiagrfa>pfgrfa<hbpdgtgrfa>fqgrfa>gxgrfa>ifgrfa>afiagrfa",
    ">pfgrfa<ifpdgtgrfa>fqgrfa>gxgrfa>ifgrfa>afiagrfa>pfgrfa<iwpdgtgrfa>fqgrfa>gxgrfa>ifgrfa",
    ">afiagrfa>pfgrfa<HEHpdgtgrfa>ifgrfa>afiagrfa>pfgrfa<pfpdgtgrfa>fqgrfa>gxgrfa>ifgrfa",
    ">afiagrfa>pfgrfa<THALpdmvafgrfa<REHpdmvafgrfa<afiapdmvafgrfa<SHADDApdDAMMATANgrfa",
    ">KASRATANgrfa>FATHAgrfa>DAMMAgrfa>KASRAgrfa>mvafgrfa<pfpdfsacpdREHewfa@pdZAINewfa@pdifewfa",
    "@pdiwewfa@pdafiaewfa@pdpfewfa<BEHpdREHewfa>ZAINewfa>ifewfa>iwewfa>afiaewfa>pfewfa",
    "<TEHpdREHewfa>ZAINewfa>ifewfa>iwewfa>afiaewfa>pfewfa<THEHpdREHewfa>ZAINewfa>ifewfa>iwewfa",
    ">afiaewfa>pfewfa<FEHpdafiaewfa>pfewfa<QAFpdafiaewfa>pfewfa<KAFpdafewfa>hbewfa>ifewfa",
    ">afiaewfa>pfewfa<hbpdifewfa>afiaewfa>pfewfa<ifpdafewfa>ifewfa<iwpdREHewfa>ZAINewfa>ifewfa",
    ">iwewfa>afiaewfa>pfewfa<afiapdmvafewfa<pfpdREHewfa>ZAINewfa>ifewfa>iwewfa>afiaewfa>pfewfa",
    ">fsacpdgtgjfa@pdfqgjfa@pdgxgjfa@pdifgjfa@pdHEHgjfa<BEHpdgtgjfa>fqgjfa>gxgjfa>ifgjfa",
    ">HEHgjfa<TEHpdgtgjfa>fqgjfa>gxgjfa>ifgjfa>HEHgjfa<THEHpdifgjfa<gtpdfqgjfa>ifgjfa",
    "<fqpdgtgjfa>ifgjfa<gxpdgtgjfa>ifgjfa<lepdgtgjfa>fqgjfa>gxgjfa>ifgjfa<SADpdfqgjfa>gxgjfa",
    ">ifgjfa<DADpdgtgjfa>fqgjfa>gxgjfa>ifgjfa<TAHpdfqgjfa<ZAHpdifgjfa<AINpdgtgjfa>ifgjfa",
    "<fjpdgtgjfa>ifgjfa<FEHpdgtgjfa>fqgjfa>gxgjfa>ifgjfa<QAFpdfqgjfa>ifgjfa<KAFpdgtgjfa>fqgjfa",
    ">gxgjfa>hbgjfa>ifgjfa<hbpdgtgjfa>fqgjfa>gxgjfa>ifgjfa>HEHgjfa<ifpdgtgjfa>fqgjfa>gxgjfa",
    ">ifgjfa<iwpdgtgjfa>fqgjfa>gxgjfa>ifgjfa>HEHgjfa<HEHpdgtgjfa>ifgjfa>mvafgjfa<pfpdgtgjfa",
    ">fqgjfa>gxgjfa>ifgjfa>HEHgjfa>fsacpdifidfa@pdHEHidfa<BEHpdifidfa>HEHidfa<TEHpdifidfa",
    ">HEHidfa<THEHpdifidfa>HEHidfa<lepdifidfa>HEHidfa<lnpdifidfa>HEHidfa<KAFpdhbidfa>ifidfa",
    "<hbpdifidfa<iwpdifidfa>HEHidfa<pfpdifidfa>HEHidfa<SHADDApdFATHAidfa>DAMMAidfa>KASRAidfa",
    "<TAHpdafiagrfa>pfgrfa<AINpdafiagrfa>pfgrfa<fjpdafiagrfa>pfgrfa<lepdafiagrfa>pfgrfa",
    "<lnpdafiagrfa>pfgrfa<fqpdafiagrfa>pfgrfa<gtpdafiagrfa>pfgrfa<gxpdafiagrfa>pfgrfa",
    "<SADpdafiagrfa>pfgrfa<DADpdafiagrfa>pfgrfa<lnpdgtgrfa>fqgrfa>gxgrfa>ifgrfa>REHgrfa",
    "<lepdREHgrfa<SADpdREHgrfa<DADpdREHgrfa<TAHpdafiaewfa>pfewfa<AINpdafiaewfa>pfewfa",
    "<fjpdafiaewfa>pfewfa<lepdafiaewfa>pfewfa<lnpdafiaewfa>pfewfa<fqpdafiaewfa>pfewfa",
    "<gtpdafiaewfa>pfewfa<gxpdafiaewfa>pfewfa<SADpdafiaewfa>pfewfa<DADpdafiaewfa>pfewfa",
    "<lnpdgtewfa>fqewfa>gxewfa>ifewfa>REHewfa<lepdREHewfa<SADpdREHewfa<DADpdREHewfa<lnpdgtgjfa",
    ">fqgjfa>gxgjfa>ifgjfa<lepdHEHgjfa<lnpdHEHgjfa<TAHpdifgjfa<lepdgtidfa>fqidfa>gxidfa",
    "<lnpdgtidfa>fqidfa>gxidfa<TAHpdifidfa<ZAHpdifidfa<afpdFATHATANewfa?grfa:ORNATEhgjt;ksjt",
    ":ashoRAHIMAHU ALLAAH<RADI ALLAAHU ANH>ANHAA>ANHUM>ANHUMAA>ANHUNNA",
    "<SALLALLAAHU ALAYHI WA-AALIH<ALAYHI AS-SALAAM<ALAYHIM AS-SALAAM<ALAYHIMAA AS-SALAAM",
    "<ALAYHI AS-SALAATU WAS-SALAAM<QUDDISA SIRRAH<SALLALLAHU ALAYHI WAAALIHEE WA-SALLAM",
    "<ALAYHAA AS-SALAAM<TABAARAKA WA-TAAALAA<RAHIMAHUM ALLAAH<TEHpdgtpdifgjfa>fqpdgtewfa@gtgjfa",
    "@ifgjfa>gxpdifgjfa>ifpdgtgjfa@fqgjfa@gxgjfa<gtpdifpdfqewfa@fqgjfa<fqpdifpdpfewfa@afiaewfa",
    "<lepdfqpdgtgjfa>gtpdfqgjfa@afiaewfa>ifpdfqewfa@fqgjfa@gtgjfa@ifewfa@ifgjfa<SADpdfqpdfqewfa",
    "@fqgjfa>ifpdifewfa<lnpdfqpdifewfa@ifgjfa>gtpdpfewfa>ifpdgxewfa@gxgjfa@ifewfa@ifgjfa",
    "<DADpdfqpdafiaewfa>gxpdifewfa@ifgjfa<TAHpdifpdfqewfa@fqgjfa@ifgjfa@pfewfa<AINpdgtpdifewfa",
    ">ifpdifewfa@ifgjfa@afiaewfa<fjpdifpdifewfa@pfewfa@afiaewfa<FEHpdgxpdifewfa@ifgjfa",
    "<QAFpdifpdfqewfa@ifewfa<hbpdfqpdifewfa@pfewfa@afiaewfa>gtpdgtgjfa@gtewfa>gxpdifewfa@ifgjfa",
    ">ifpdfqewfa@fqgjfa<ifpdfqpdgtgjfa@ifgjfa@pfewfa>gtpdfqgjfa@ifgjfa>gxpdgtgjfa@ifgjfa::",
    ">gtpdgxgjfa<HEHpdifpdgtgjfa@ifgjfa<iwpdfqpdifgjfa@afiaewfa>gtpdifewfa@ifgjfa@afiaewfa",
    ">ifpdpfewfa@afiaewfa<pfpdifpdifewfa@ifgjfa<BEHpdgxpdpfewfa<TEHpdgtpdpfewfa@afiaewfa",
    ">gxpdpfewfa@afiaewfa>ifpdpfewfa@afiaewfa<gtpdifpdpfewfa>fqpdafiaewfa>ifpdafiaewfa",
    "<lepdgxpdafiaewfa<SADpdfqpdpfewfa<lnpdfqpdpfewfa<DADpdfqpdpfewfa<hbpdgtpdpfewfa>ifpdpfewfa",
    "<pfpdfqpdpfewfa>gtpdpfewfa>ifpdpfewfa<ifpdifpdpfewfa<QAFpdifpdpfewfa<iwpdfqpdpfewfa",
    "<QAFpdifpdfqgjfa<hbpdfqpdifgjfa<AINpdifpdpfewfa<KAFpdifpdpfewfa<iwpdgtpdfqgjfa",
    "<ifpdgxpdpfewfa<hbpdgtpdifgjfa<KAFpdifpdifewfa<hbpdgtpdifewfa<iwpdgtpdfqewfa",
    "<gtpdfqpdpfewfa<fqpdgtpdpfewfa<ifpdgtpdpfewfa<FEHpdifpdpfewfa<BEHpdfqpdpfewfa",
    "<KAFpdifpdifgjfa<AINpdgtpdifgjfa<SADpdifpdifgjfa<lepdgxpdpfewfa<iwpdgtpdpfewfa:::::::",
    "<SALAAMUHU ALAYNAA"]⟩,
  ⟨0xFDF0, [":ashoSALLA USED AS KORANICmplugrfa<QALA USED AS KORANICmplugrfa<ALLAHgrfa",
    "<AKBARgrfa<MOHAMMADgrfa<SALAMgrfa<RASOULgrfa<ALAYHEgrfa<WASALLAMgrfa<SALLAgrfa",
    "<SALLALLAHOU ALAYHE WASALLAM<JALLAJALALOUHOU:RIALlu:ashoBISMILLAH AR-RAHMAN AR-RAHEEM",
    "<SUBHAANAHU WA TAAALAA<AZZA WA JALL"]⟩,
  ⟨0xFE10, [":PRESENTATIONfaezorcj>gfcj?fgmp>ch>lf>eqib>kmib>hgpchlbm>kspchlBRAKCET>gcELLIPSIS:",
    "::::::cihohgfr<ksfr;dznqhgfr=ksfr;hxhgfr<ksfr;CONJOININGhx;hohgfrbe<ksfrbe;nqhgfrbe<ksfrbe",
    ";hxhgfrbe<ksfrbe;CONJOININGhxbe;czTITLOhgfr=ksfr:PRESENTATIONfaezorohdvLEADER>EMdc>ENdc",
    ">huhq>WAVYhuhq>hgjt>ksjt>hgcxbm>kscxbm>hgnvlobm>ksnvlobm>hgbihlbm>ksbihlbm>hgdzaobm",
    ">ksdzaobm>hgaobm>ksaobm>hgcpbm>kscpbm>hgpccpbm>kspccpbm:SESAMEdv:pcSESAMEdv",
    ":PRESENTATIONfaezorhgmlbm>ksmlbm:ddOVERLINE:CENTRELINE OVERLINE:WAVY OVERLINE",
    ":dzWAVY OVERLINE:ddhuhq:CENTRELINEhuhq:WAVYhuhq:mccj;gfcj;fgmp:;lf;ch;kmib;eqib;EMdc;hgjt",
    ";ksjt;hgcxbm;kscxbm;hgnvlobm;ksnvlobm;jblu;am;ba;jylu;HYPHEN-MINUS;hmlu;fnlu;enlu:;kqme",
    ";DOLLARlu;PERCENTlu;COMMERCIAL AT:::::asFATHATANgrfa;TATWEELpdFATHATANac;DAMMATANgrfa",
    ";nbFRAGMENT;KASRATANgrfa:;FATHAgrfa<idfa;DAMMAgrfa<idfa;KASRAgrfa<idfa;SHADDAgrfa<idfa",
    ";SUKUNgrfa<idfa;hnfsgrfa<afpdMADDAacgrfa@ewfa>fsacgrfa@ewfa<ozpdfsacgrfa@ewfa<afpdfsbegrfa",
    "@ewfa<pfpdfsacgrfa@ewfa@gjfa@idfa<afgrfa=ewfa<BEHgrfa=ewfa=gjfa=idfa<TEH MARBUTAgrfa>ewfa",
    "=grfa=ewfa=gjfa=idfa<THEHgrfa=ewfa=gjfa=idfa<gtgrfa=ewfa=gjfa=idfa<fqgrfa=ewfa=gjfa=idfa",
    "<gxgrfa=ewfa=gjfa=idfa<DALgrfa=ewfa<THALgrfa=ewfa<REHgrfa=ewfa<ZAINgrfa=ewfa<legrfa=ewfa",
    "=gjfa=idfa<lngrfa=ewfa=gjfa=idfa<SADgrfa=ewfa=gjfa=idfa<DADgrfa=ewfa=gjfa=idfa<TAHgrfa",
    "=ewfa=gjfa=idfa<ZAHgrfa=ewfa=gjfa=idfa<AINgrfa=ewfa=gjfa=idfa<fjgrfa=ewfa=gjfa=idfa",
    "<FEHgrfa=ewfa=gjfa=idfa<QAFgrfa=ewfa=gjfa=idfa<KAFgrfa=ewfa=gjfa=idfa<hbgrfa=ewfa=gjfa",
    "=idfa<ifgrfa=ewfa=gjfa=idfa<iwgrfa=ewfa=gjfa=idfa<HEHgrfa=ewfa=gjfa=idfa<ozgrfa=ewfa",
    "<afiagrfa>ewfa<pfgrfa=ewfa=gjfa=idfa;hohbpdafpdMADDAacgrfa@MADDAacewfa@fsacgrfa@fsacewfa",
    "@fsbegrfa@fsbeewfa?grfa?ewfa:::pjWIDTH NO-BREAKmh::FULLWIDTHeqib;knib;jblu;DOLLARlu",
    ";PERCENTlu;am;ar;hgjt;ksjt;ba;jylu;cj;HYPHEN-MINUS;fgmp;me;dspj<jj<oh<nn<fd<ey<lx<lh<ef<it",
    ";ch;lf;hmlu;enlu;fnlu;kmib;COMMERCIAL AT;hebshnA>B>C>D>E>F>G>H>I>J>K>L>M>N>O>P>Q>R>S>T>U>V",
    ">W>X>Y>Z;hgmlbm;kqme;ksmlbm;cead;huhq;fmad;hemchnA>B>C>D>E>F>G>H>I>J>K>L>M>N>O>P>Q>R>S>T>U",
    ">V>W>X>Y>Z;hgcxbm;orhq;kscxbm;nq;hgpcjt;kspcjt:HALFWIDTHgffgmp;hgcpbm;kscpbm;gfcj",
    ";KATAKANAigdv<hnWO=mcA>I>U>E>O>YA>YU>YO>TU<-HIRAGANA PROLONGEDmfib<hnA=I=U=E=O=KA=KI=KU=KE",
    "=KO=SA=SI=SU=SE=SO=TA=TI=TU=TE=TO=NA=NI=NU=NE=NO=HA=HI=HU=HE=HO=MA=MI=MU=ME=MO=YA=YU=YO=RA",
    "=RI=RU=RE=RO=WA=N<VOICEDmfib<SEMI-VOICEDmfib;HANGUL FILLER<hnKIYEOK=SSANGKIYEOK",
    "=KIYEOK-SIOS=NIEUN>-CIEUC>-HIEUH=TIKEUT=SSANGTIKEUT=RIEUL>-KIYEOK>-MIEUM>-PIEUP>-SIOS",
    ">-THIEUTH>-PHIEUPH>-HIEUH=MIEUM=PIEUP=SSANGPIEUP=PIEUP-SIOS=SIOS=SSANGSIOS=IEUNG=CIEUC",
    "=SSANGCIEUC=CHIEUCH=KHIEUKH=THIEUTH=PHIEUPH=HIEUH:::=A=AE=YA=YAE=EO=E::=YEO=YE=O=WA=WAE=OE",
    "::=YO=U=WEO=WE=WI=YU::=EU=YI=I::::FULLWIDTH CENTlu;POUNDlu;iylu;hx;BROKENbc;YENlu;WONlu:",
    ":HALFWIDTH FORMShpor;hjaw;ooaw;kuaw;edaw;biml;pccb:::::::::::INTERLINEAR ANNOTA",
    "TION ANCHOR<lg<TERMINATOR:OBJECT REPLACEMENTby:REPLACEMENTby"]⟩]

end TripleIndex
