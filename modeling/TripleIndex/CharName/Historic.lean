import TripleIndex.CharName.Run

/-!
Names from U+10000 to U+1CFFF: mostly scripts of the past and of few writers.
-/

namespace TripleIndex

def historicNames : List NameRun := [
  ⟨0x10000, [":LINEAR BmyB008 A=B038 E=B028 I=B061 O=B010 U=B001 DA=B045 DE=B007 DI=B014 DO",
    "=B051 DU=B057 JA=B046 JE:=B036 JO=B065 JU=B077 KA=B044 KE=B067 KI=B070 KO=B081 KU=B080 MA",
    "=B013 ME=B073 MI=B015 MO=B023 MU=B006 NA=B024 NE=B030 NI=B052 NO=B055 NU=B003 PA=B072 PE",
    "=B039 PI=B011 PO=B050 PU=B016 QA=B078 QE=B021 QI=B032 QO:=B060 RA=B027 RE=B053 RI=B002 RO",
    "=B026 RU=B031 SA=B009 SE=B041 SI=B012 SO=B058 SU=B059 TA=B004 TE=B037 TI=B005 TO=B069 TU",
    "=B054 WA=B075 WE=B040 WI=B042 WO:=B017 ZA=B074 ZE:=B020 ZO=B025 A2=B043 A3=B085 AU",
    "=B071 DWE=B090 DWO=B048 NWA=B029 PU2=B062 PTE=B076 RA2=B033 RA3=B068 RO2=B066 TA2=B087 TWE",
    "=B091oh::<mzB018=B019=B022=B034=B047=B049=B056=B063=B064=B079=B082=B083=B086=B089"]⟩,
  ⟨0x10080, [":LINEAR B IDEOGRAM B100 MAN=B102 WOMAN=B104 DEER=B105 EQUID=B105F MARE",
    "=B105M STALLION=B106F EWE=B106M RAM=B107F SHE-GOAT=B107M HE-GOAT=B108F SOW=B108M BOAR",
    "=B109F COW=B109M BULL=B120 WHEAT=B121 BARLEY=B122 OLIVE=B123 SPICE=B125 CYPERUS",
    "<MONOGRAM B127 KAPO=B128 KANAKO<IDEOGRAM B130 OIL=B131 WINE=B132<MONOGRAM B133 AREPA",
    "=B135 MERI<IDEOGRAM B140 BRONZE=B141 GOLD=B142=B145 WOOL=B146=B150=B151gd=B152=B153=B154",
    "<MONOGRAM B156 TURO2<IDEOGRAM B157=B158=B159 CLOTH=B160=B161=B162 GARMENT=B163 ARMOUR=B164",
    "=B165=B166=B167=B168=B169=B170=B171=B172=B173 MONTH=B174=B176 TREE=B177=B178=B179=B180",
    "=B181=B182=B183=B184=B185=B189=B190=B191 HELMET=B220 FOOTSTOOL=B225 BATHTUB=B230 SPEAR",
    "=B231aw=B232=B233 SWORD=B234=B236=B240 WHEELED CHARIOT=B241 CHARIOT=B242 CHARIOT FRAME",
    "=B243 WHEEL=B245=B246<MONOGRAM B247 DIPTE<IDEOGRAM B248=B249=B251=B252=B253=B254 DART=B255",
    "=B256=B257=B258=B259=VESSEL B155>B200>B201>B202>B203>B204>B205>B206>B207>B208>B209>B210",
    ">B211>B212>B213>B214>B215>B216>B217>B218>B219>B221>B222>B226>B227>B228>B229>B250>B305:::::",
    ":AEGEAN WORDlghq=dv;CHECKib::::;jbjj<oh<nn<fd<ey<lx<lh<ef<it<nf<og<nk<fb<ev<lz<lj<ej<iu",
    "<jjge<ohge<nnge<fdge<eyge<lxge<lhge<efge<itge<jjnl<ohnl<nnnl<fdnl<eynl<lxnl<lhnl<efnl<itnl",
    "<nfnl<ognl<nknl<fbnl<evnl<lznl<ljnl<ejnl<iunl:::;WEIGHT BASE UNIT<FIRST SUBUNIT",
    "<SECOND SUBUNIT<THIRD SUBUNIT<FOURTH SUBUNIT;DRY MEASURE FIRST SUBUNIT",
    ";LIQUID MEASURE FIRST SUBUNIT;MEASURE SECOND SUBUNIT<THIRD SUBUNIT:foACROPHONIC ATTICjjkj",
    ">fr>DRACHMA=ey=ev=eyge>nl=evnl=eyTALENTS=nfTALENTS=evTALENTS=jjgeTALENTS=eygeTALENTS",
    "=jjnlTALENTS=eynlTALENTS>STATERS=nfSTATERS=evSTATERS=jjgeSTATERS=eygeSTATERS=jjnlSTATERS",
    "=nfnlSTATERS=evnlSTATERS=nfMNAS<HERAEUMjjPLETHRON<THESPIANjj<HERMIONIANjj<EPIDAUREANoh",
    "<THESPIANoh<CYRENAICohDRACHMAS<EPIDAUREANohDRACHMAS<TROEZENIANey=nf>akfa<HERMIONIANnf",
    "<MESSENIANnf<THESPIANnf=nk<TROEZENIANev>akfa<HERMIONIANev<THESPIANev=jjge=nnge",
    "<EPIDAUREANeyge<TROEZENIANeyge<THESPIANeyge<CARYSTIANeyge<NAXIANeyge<THESPIANjjnl=eynl",
    "<DELPHICeyMNAS<STRATIANevMNAS;jjfrlu>akfa;ohTHIRDSlu;nnkklu;YEARlu;TALENTlu;DRACHMAlu",
    ";OBOLlu;ohOBOLSlu;nnOBOLSlu;fdOBOLSlu;eyOBOLSlu;METRETESlu;KYATHOS BASElu;LITRAlu;OUNKIAlu",
    ";XESTESlu;ARTABElu;AROURAlu;GRAMMAlu;TRYBLION BASElu;pjlu;jjkjlu;SINUSOIDlu;INDICTIONlu",
    ":NOMISMAlu::ROMAN SEXTANSlu;UNCIAlu;SEMUNCIAlu;SEXTULAlu;DIMIDIA SEXTULAlu;SILIQUAlu",
    ";DENARIUSlu;QUINARIUSlu;SESTERTIUSlu;DUPONDIUSlu;ASlu;CENTURIALlu:ASCIAmz::::fomzTAU RHO"]⟩,
  ⟨0x101D0, [":PHAISTOS DISCluPEDESTRIAN=PLUMED HEAD=TATTOOED HEAD=CAPTIVE=CHILD=WOMAN=HELMET",
    "=GAUNTLET=TIARA=aw=BOW=SHIELD=CLUB=MANACLES=MATTOCK=SAW=LID=BOOMERANG=CARPENTRY PLANE",
    "=DOLIUM=COMB=SLING=COLUMN=BEEHIVE=SHIP=gd=HIDE=BULLS LEG=CAT=RAM=EAGLE=DOVE=TUNNY=BEE",
    "=PLANE TREE=VINE=PAPYRUS=ROSETTE=LILY=OX BACK=FLUTE=GRATER=STRAINER=mcAXE=WAVY BAND=cijemr"]⟩,
  ⟨0x10280, [":LYCIANhnA<E<B<BH<G<D<I<W<Z<TH<J<K<Q<L<M<N<MM<NN<U<P<KK<R<S<T<TT<AN<EN<H<X:::",
    ":CARIANhnA<P2<D<L<UUU<R<LD<A2<Q<B<M<O<D2<T<SH<SH2<S<C-18<U<NN<X<N<TT2<P<SS<I<E<UUUU<K<K2",
    "<ND<UU<G<G2<ST<ST2<NG<II<C-39<TT<UUU2<RR<MB<MB2<MB3<MB4<LD2<E2<UUU3"]⟩,
  ⟨0x102E0, [":coEPACTnmib<dsjj=oh=nn=fd=ey=lx=lh=ef=it<jbnf=og=nk=fb=ev=lz=lj=ej=iu=jjge=ohge",
    "=nnge=fdge=eyge=lxge=lhge=efge=itge:::::jgITALIChnA=BE=KE=DE=E=VE=ZE=HE=ni=I=KA=EL=EM=EN",
    "=ESH=O=PE=SHE=KU=ER=ES=TE=U=EKS=PHE=KHE=EF=ERS=CHE=II=UU=ESS<NUMERALjj=ey=nf=ev:::::::::",
    "<hnYE=NORTHERN TSE=SOUTHERN TSE:GOTHIChnAHSA<BAIRKAN<GIBA<DAGS<AIHVUS<QAIRTHRA<IUJA<HAGL",
    "<THIUTH<EIS<KUSMA<LAGUS<MANNA<NAUTHS<JER<URUS<PAIRTHRA<iu<RAIDA<SAUIL<TEIWS<WINJA<FAIHU",
    "<IGGWS<HWAIR<OTHAL<itge::::::jgPERMIChnAN=BUR=GAI=DOI=E=ZHOI=DZHOI=ZATA=DZITA=I=KOKE=LEI",
    "=MENOE=NENOE=VOOI=PEEI=REI=SII=TAI=U=CHERY=SHOOI=SHCHOOI=YRY=YERU=O=OO=EF=HA=TSIU=VER=YER",
    "=YERI=YAT=IE=YU=YA=IA:cijgPERMIChnAN>DOI>ZATA>NENOE>SII::::::UGARITIChnALPA<BETA<GAMLA<gw",
    "<di<HO<WO<ZETA<HOTA<TET<YOD<KAF<lp<LAMDA<MEM<DHAL<jc<ZU<SAMKA<AIN<PU<SADE<QOPA<RASHA",
    "<THANNA<fj<TO<I<U<SSU:;WORD DIVIDER:jgPERSIANluA=I=U=KA=KU=GA=GU=XA=CA=JA=JI=TA=TU=DA=DI",
    "=DU=nh=PA=BA=FA=NA=NU=MA=MI=MU=YA=VA=VI=RA=RU=LA=SA=ZA=lk=mn=HA::::=AURAMAZDAA>-2",
    "=AURAMAZDAAHA=XSHAAYATHIYA=DAHYAAUSH>-2=BAGA=BUUMISH<WORD DIVIDER<jbjj=oh=nf=og=ge"]⟩,
  ⟨0x10400, [":DESERETbshnhtI>E>A>AH>O>OO=lqI>E>A>AH>O>OO=AY=OW=WU=YEE=H=PEE=BEE=TEE=DEE=CHEE",
    "=JEE=KAY=GAY=EF=VEE=ETH=THEE=ES=ZEE=ESH=ZHEE=ER=EL=EM=EN=ENG=OI=EW;mchnhtI>E>A>AH>O>OO=lqI",
    ">E>A>AH>O>OO=AY=OW=WU=YEE=H=PEE=BEE=TEE=DEE=CHEE=JEE=KAY=GAY=EF=VEE=ETH=THEE=ES=ZEE=ESH",
    "=ZHEE=ER=EL=EM=EN=ENG=OI=EW:SHAVIANhnPEEP<TOT<KICK<FEE<THIGH<SO<SURE<CHURCH<YEA<HUNG<BIB",
    "<DEAD<GAG<VOW<THEY<ZOO<MEASURE<JUDGE<WOE<HA-HA<LOLL<MIME<IF<EGG<az<ADO<ON<WOOL<OUT<AH<ROAR",
    "<jc<EAT<AGE<ICE<UP<OAK<OOZE<OIL<AWE<ARE<OR<AIR<ERR<ARRAY<EAR<IAN<YEW:OSMANYAhnaf<BA<TA<JA",
    "<XA<gw<DEEL<RA<SA<SHIIN<dk<CAYN<GA<FA<QAAF<KAAF<LAAN<MIIN<NUUN<oz<HA<YA<A<E<I<O<U<AA<EE<OO",
    "::;dspj<jj<oh<nn<fd<ey<lx<lh<ef<it:::::::OSAGEbshnA=AI=AIN=AH=BRA=bx=EHCHA=E=EIN=HA=HYA=I",
    "=KA=EHKA=KYA=LA=MA=NA=O=OIN=PA=EHPA=SA=lk=TA=EHTA=TSA=EHTSA=TSHA=dk=U=WA=gw=fi=ZA=ZHA::::",
    ";mchnA=AI=AIN=AH=BRA=bx=EHCHA=E=EIN=HA=HYA=I=KA=EHKA=KYA=LA=MA=NA=O=OIN=PA=EHPA=SA=lk=TA",
    "=EHTA=TSA=EHTSA=TSHA=dk=U=WA=gw=fi=ZA=ZHA:::::ELBASANhnA<BE<CE<CHE<DE<NDE<DHE<EI<E<FE<GE",
    "<GJE<HE<I<JE<KE<LE<LLE<ME<NE<NA<NJE<O<PE<QE<RE<RRE<SE<SHE<TE<ni<U<VE<XE<Y<ZE<ZHE<GHE",
    "<GHAMMA<KHE:::::::::CAUCASIAN ALBANIANhnALT=BET=GIM=DAT=EB=ZARL=EYN=ZHIL=TAS=bx=YOWD=ZHA",
    "=IRB=lk=LAN=INYA=XEYN=DYAN=CAR=JHOX=KAR=LYIT=HEYT=QAY=AOR=CHOY=CHI=CYAY=MAQ=QAR=NOWC=DZYAY",
    "=SHAK=JAYN=ON=TYAY=FAM=DZAY=CHAT=PEN=GHEYS=RAT=SEYK=VEYZ=TIWR=SHOY=IWN=CYAW=CAYN=YAYD=PIWR",
    "=KIW:::::::::::<CITATIONib:VITHKUQIbshnA=BBE=BE=CE=CHE=DE=DHE=EI=E=FE=GA:=HA=HHA=I=IJE=JE",
    "=KA=LA=LLA=ME=NE=NJE=O=PE=QA=RE:=SE=SHE=TE=ni=U=VE=XE:=Y=ZE:;mchnA=BBE=BE=CE=CHE=DE=DHE=EI",
    "=E=FE=GA:=HA=HHA=I=IJE=JE=KA=LA=LLA=ME=NE=NJE=O=PE=QA=RE:=SE=SHE=TE=ni=U=VE=XE:=Y=ZE"]⟩,
  ⟨0x10600, [":LINEAR AluAB001=AB002=AB003=AB004=AB005=AB006=AB007=AB008=AB009=AB010=AB011",
    "=AB013=AB016=AB017=AB020=AB021=AB021F=AB021M=AB022=AB022F=AB022M=AB023=AB023M=AB024=AB026",
    "=AB027=AB028=A028B=AB029=AB030=AB031=AB034=AB037=AB038=AB039=AB040=AB041=AB044=AB045=AB046",
    "=AB047=AB048=AB049=AB050=AB051=AB053=AB054=AB055=AB056=AB057=AB058=AB059=AB060=AB061=AB065",
    "=AB066=AB067=AB069=AB070=AB073=AB074=AB076=AB077=AB078=AB079=AB080=AB081=AB082=AB085=AB086",
    "=AB087=A100-102=AB118=AB120=A120B=AB122=AB123=AB131A=AB131B=A131C=AB164=AB171=AB180=AB188",
    "=AB191=A301=A302=A303=A304=A305=A306=A307=A308=A309A=A309B=A309C=A310=A311=A312=A313A",
    "=A313B=A313C=A314=A315=A316=A317=A318=A319=A320=A321=A322=A323=A324=A325=A326=A327=A328",
    "=A329=A330=A331=A332=A333=A334=A335=A336=A337=A338=A339=A340=A341=A342=A343=A344=A345=A346",
    "=A347=A348=A349=A350=A351=A352=A353=A354=A355=A356=A357=A358=A359=A360=A361=A362=A363=A364",
    "=A365=A366=A367=A368=A369=A370=A371=A400-VAS=A401-VAS=A402-VAS=A403-VAS=A404-VAS=A405-VAS",
    "=A406-VAS=A407-VAS=A408-VAS=A409-VAS=A410-VAS=A411-VAS=A412-VAS=A413-VAS=A414-VAS=A415-VAS",
    "=A416-VAS=A417-VAS=A418-VAS=A501=A502=A503=A504=A505=A506=A508=A509=A510=A511=A512=A513",
    "=A515=A516=A520=A521=A523=A524=A525=A526=A527=A528=A529=A530=A531=A532=A534=A535=A536=A537",
    "=A538=A539=A540=A541=A542=A545=A547=A548=A549=A550=A551=A552=A553=A554=A555=A556=A557=A559",
    "=A563=A564=A565=A566=A568=A569=A570=A571=A572=A573=A574=A575=A576=A577=A578=A579=A580=A581",
    "=A582=A583=A584=A585=A586=A587=A588=A589=A591=A592=A594=A595=A596=A598=A600=A601=A602=A603",
    "=A604=A606=A608=A609=A610=A611=A612=A613=A614=A615=A616=A617=A618=A619=A620=A621=A622=A623",
    "=A624=A626=A627=A628=A629=A634=A637=A638=A640=A642=A643=A644=A645=A646=A648=A649=A651=A652",
    "=A653=A654=A655=A656=A657=A658=A659=A660=A661=A662=A663=A664:::::::::=A701 A=A702 B=A703 D",
    "=A704 E=A705 F=A706 H=A707 J=A708 K=A709 L>-2 L2>-3 L3>-4 L4>-6 L6=A710 W=A711 X=A712 Y",
    "=A713jh=A714 ABB=A715 BB=A717 DD=A726 EYYY=A732 JE::::::::::=A800=A801=A802=A803=A804=A805",
    "=A806=A807"]⟩,
  ⟨0x10780, [":iihnmcbsAA<mvnych=frnych<mcAE=bsB=Bpdgb:=DZdt?pdkpgb@cw=DEZHdt=Dpdnb?gb@annb=krE",
    "=cgkrjkE=FENGdt=RAMSgd=bsG=Gpdgb=bsGpdgb=Hpdmr=bsH=HENGpdgb=dwJpdmrangb=LSdt=LZdt=LpdBELT",
    "=bsLpdBELT=LpdkpgbanBELT=LEZH>pdkpgb=ocY?pdBELT=Opdmr=bsOE=cgjh=Q=ocRpdhtLEG@htLEGankpgb",
    "=Rpdnb?FISHHOOK=bsR=TCdtpdcw=TSdt?pdkpgb=TESHdt=Tpdkpgb=Vpdksgb:=bsY<flmppdmr<krflmppdmr",
    "<BILABIAL CLICK<DENTAL CLICK<LATERAL CLICK<ALVEOLAR CLICK<kpCLICKpdkpgb<mcSpdcw"]⟩,
  ⟨0x10800, [":CYPRIOTmyA<E<I<O<U<JA::<JO:<KA<KE<KI<KO<KU<LA<LE<LI<LO<LU<MA<ME<MI<MO<MU<NA<NE",
    "<NI<NO<NU<PA<PE<PI<PO<PU<RA<RE<RI<RO<RU<SA<SE<SI<SO<SU<TA<TE<TI<TO<TU<WA<WE<WI<WO:<XA<XE::",
    ":<ZA::<ZO:IMPERIAL ARAMAIChnag=BETH=fk=DALETH=HE=oz=ZAYIN=HETH=TETH=YODH=KAPH=hc=MEM=jc=la",
    "=AYIN=PE=SADHE=QOPH=RESH=lp=TAW:<ldlu<jbjj=oh=nn=nf=og=jjge>nl=nfnl:PALMYRENEhnag<BETH<fk",
    "<DALETH<HE<oz<ZAYIN<HETH<TETH<YODH<KAPH<hc<MEM<ewjc<jc<la<AYIN<PE<SADHE<QOPH<RESH<lp<TAW",
    ";hhFLEURON;ktFLEURON;jbjj<oh<nn<fd<ey<nf<og:NABATAEANhnewag<ag<ewBETH<BETH<fk<DALETH<ewHE",
    "<HE<oz<ZAYIN<HETH<TETH<ewYODH<YODH<ewKAPH<KAPH<ewhc<hc<ewMEM<MEM<ewjc<jc<la<AYIN<PE<SADHE",
    "<QOPH<RESH<ewlp<lp<TAW::::::::;jbjj<oh<nn<fd;CRUCIFORMjbfd;jbey<nf<og<jjge"]⟩,
  ⟨0x108E0, [":HATRANhnag<BETH<fk<DALETH-RESH<HE<oz<ZAYN<HETH<TETH<YODH<KAPH<hc<MEM<jc<la<AYN",
    "<PE<SADHE<QOPH:<lp<TAW:::::;jbjj<ey<nf<og<jjge:PHOENICIANhnALF<BET<GAML<DELT<HE<WAU<ZAI",
    "<HET<TET<YOD<KAF<LAMD<MEM<jc<SEMK<AIN<PE<SADE<QOF<ROSH<lp<TAU;jbjj<nf<og<jjge<oh<nn:::",
    ";WORDlg:LYDIANhnA<B<G<D<E<V<I<Y<K<L<M<N<O<R<SS<T<U<F<Q<S<TT<AN<EN<LY<NN<C:::::;nyib"]⟩,
  ⟨0x10980, [":MEROITIC HIEROGLYPHIChnA=E=I=O=YA=WA=BA>-2=PA=MA=NA>-2=NE>-2=RA>-2=LA=gw=HHA=SA",
    ">-2=SE=KA=QA=TA>-2=TE>-2=TO=DA<mzVIDJ>-2;CURSIVEhnA=E=I=O=YA=WA=BA=PA=MA=NA=NE=RA=LA=gw",
    "=HHA=SA=auSA=SE=KA=QA=TA=TE=TO=DA::::<feELEVENoe=jjfr<LOGOGRAM RMT=IMN<jbjj=oh=nn=fd=ey=lx",
    "=lh=ef=it=nf=og=nk=fb=ev=lz=lj::=jjge=ohge=nnge=fdge=eyge=lxge=lhge=efge=itge=jjnl=ohnl",
    "=nnnl=fdnl=eynl=lxnl=lhnl=efnl=itnl=nfnl=ognl=nknl=fbnl=evnl=lznl=ljnl=ejnl=iunl=jjgenl",
    "=ohgenl=nngenl=fdgenl=eygenl=lxgenl=lhgenl=efgenl=itgenl<fejjTWELFTH=ohoe=nnoe=fdoe=eyoe",
    "=lxoe=lhoe=efoe=itoe=nfoe:KHAROSHTHIhnA;oxluI=U=owR:=E=O:::::<hkib;ludzkvbe<aq<ov;hnKA<gw",
    "<GA<fi:<CA<bx<JA:<jd<oa<ob<df<dg<iv<TA<nh<DA<dk<NA<PA<jw<BA<bh<MA<YA<RA<LA<VA<lk<mn<SA<ZA",
    "<HA<KKA<TTTHA<TTTA<VHA::;lubcac<CAUDA<dvbe::::;ou;dsjj<oh<nn<fd;jbnf<og<jjge=nl;fejjfr::::",
    ":::;kgdv<mccb<cb<CRESCENTbc<MANGALAM<LOTUS<db<dzdb<LINES::::::::jgmgARABIANhnHE>hc>HETH",
    ">MEM>QOPH>oz>lp>RESH>BETH>TAW>SAT>KAPH>jc>KHETH>SADHE>la>FE>af>AYN>DHADHE>fk>DALETH>GHAYN",
    ">TETH>ZAYN>DHALETH>YODH>THAW>THETH=jbjj>ev=NUMERICgi;ixARABIANhnHEH>hb>fq>if>QAF>oz>ES-2",
    ">REH>BEH>TEH>ES-1>KAF>iw>gx>SAD>ES-3>FEH>af>AIN>DAD>GEEM>DAL>fj>TAH>ZAIN>THAL>pf>THEH>ZAH",
    "=jbjj>nf>og"]⟩,
  ⟨0x10AC0, [":MANICHAEANhnag<BETH<BHETH<fk<GHIMEL<DALETH<HE<oz;luUD;hnZAYIN<ZHAYIN<JAYIN",
    "<JHAYIN<HETH<TETH<YODH<KAPH<XAPH<KHAPH<hc<DHAMEDH<THAMEDH<MEM<jc<la<AYIN<AAYIN<PE<FE<SADHE",
    "<QOPH<XOPH<QHOPH<RESH<lp<SSHIN<TAW;aaibac=be::::;jbjj<ey<nf<og<jjge;kgmo<FLEURON",
    "<dzdvWITHINdv<dvWITHINdv<dv<ohdx<hqFILLER::::::::::AVESTANhnA<AA<AO<AAO<AN<AAN<AE<AEE<E<EE",
    "<O<OO<I<II<U<UU<KE<XE<XYE<XVE<GE<GGE<GHE<CE<JE<TE<ni<DE<DHE<TTE<PE<FE<BE<BHE<NGE<NGYE<NGVE",
    "<NE<NYE<NNE<ME<HME<YYE<YE<VE<RE<LE<SE<ZE<SHE<ZHE<SHYE<SSHE<HE:::;aaib:TINYohdxjojjdvkg",
    ":mcohdxjojjdvkg:hdohdxjojjdvkg;jjdvjoohdxkg;ohRINGSjojjkvkg;jjkvjoohRINGSkg",
    ":INSCRIPTIONAL PARTHIANhnag=BETH=fk=DALETH=HE=oz=ZAYIN=HETH=TETH=YODH=KAPH=hc=MEM=jc=la",
    "=AYIN=PE=SADHE=QOPH=RESH=lp=TAW::<jbjj=oh=nn=fd=nf=og=jjge>nl;PAHLAVIhnag=BETH=fk=DALETH",
    "=HE=WAW-AYIN-RESH=ZAYIN=HETH=TETH=YODH=KAPH=hc=MEM-QOPH=jc=la=PE=SADHE=lp=TAW:::::<jbjj=oh",
    "=nn=fd=nf=og=jjge>nl:PSALTER PAHLAVIhnag=BETH=fk=DALETH=HE=WAW-AYIN-RESH=ZAYIN=HETH=YODH",
    "=KAPH=hc=MEM-QOPH=jc=la=PE=SADHE=lp=TAW:::::::<ldib<ocldib<fddxpdcr?dv::::::::::::<jbjj=oh",
    "=nn=fd=nf=og=jjge"]⟩,
  ⟨0x10C00, [":jgTURKIChnjmA=pgA>AE=jmI=pgI>E=jmO>OE=pgOE=jmAB=pgAB=jmAEB=pgAEB=jmAG=pgAG=jmAEG",
    "=pgAEG=jmAD=pgAD=jmAED>EZ=pgEZ=jmAY=pgAY=jmAEY=pgAEY=jmAEK=pgAEK=jmOEK=pgOEK=jmAL=pgAL",
    "=jmAEL>ELT>EM>AN>AEN=pgAEN=jmENT=pgENT=jmENC=pgENC=jmENY=pgENY>ANG=jmENG=pgAENG=jmEP>OP>IC",
    ">EC=pgEC=jmAQ=pgAQ=jmIQ=pgIQ=jmOQ=pgOQ=jmAR=pgAR=jmAER>AS>AES>az=pgaz=jmESH=pgESH=jmAT",
    "=pgAT=jmAET=pgAET=jmOT>BASH"]⟩,
  ⟨0x10C80, [":jgHUNGARIANbshnA>AA>EB>AMB>EC>ENC>ECS>ED>an>E>CLOSE E>EE>EF>EG>EGY>EH>I>II>EJ>EK",
    ">AK>UNK>EL>ELY>EM>EN>ENY>O>OO>NIKOLSBURG OE>RUDIMENTA OE>OEE>EP>EMP>ER>lqER>ES>ESZ>ET>ENT",
    ">ETY>ECH>U>UU>NIKOLSBURG UE>RUDIMENTA UE>EV>EZ>EZS>ENT-SHAPEDlu>US"]⟩,
  ⟨0x10CC0, [":jgHUNGARIANmchnA>AA>EB>AMB>EC>ENC>ECS>ED>an>E>CLOSE E>EE>EF>EG>EGY>EH>I>II>EJ>EK",
    ">AK>UNK>EL>ELY>EM>EN>ENY>O>OO>NIKOLSBURG OE>RUDIMENTA OE>OEE>EP>EMP>ER>lqER>ES>ESZ>ET>ENT",
    ">ETY>ECH>U>UU>NIKOLSBURG UE>RUDIMENTA UE>EV>EZ>EZS>ENT-SHAPEDlu>US:::::::<jbjj=ey=nf=ev",
    "=jjge>nl:HANIFI ROHINGYAhnA=BA=PA=TA=oa=JA=CA=HA=gw=FA=DA=df=RA=RRA=ZA=SA=lk=KA=GA=LA=MA",
    "=NA=WA=KINNA WA=YA=KINNA YA=is=jd=VA<oxA=I=U=E=O<ibSAKIN=NA KHONNA<luHARBAHAY=TAHALA=TANA",
    "=TASSI::::::::<dspj=jj=oh=nn=fd=ey=lx=lh=ef=it"]⟩,
  ⟨0x10E60, [":RUMIdsjj<oh<nn<fd<ey<lx<lh<ef<it;jbnf<og<nk<fb<ev<lz<lj<ej<iu<jjge<ohge<nnge",
    "<fdge<eyge<lxge<lhge<efge<itge;fejjfr=kj=THIRD<ohTHIRDS::YEZIDIhnELIF<BE<PE<PHE<ni<SE<CIM",
    "<CHIM<CHHIM<HHA<XA<DAL<ZAL<RA<RHA<ZA<JA<SIN<lp<SAD<DAD<TA<ZE<EYN<XHEYN<FA<VA=akfa<QAF<KAF",
    "<KHAF<GAF<hb<MIM<jc<UM<oz<OW<EW<HAY<YOT<ET:;cifsib<MADDAib;HYPHENATIONib::;hnhbpddvac",
    "<YOTpdceac"]⟩,
  ⟨0x10F00, [":jgSOGDIANhnag=ewag=BETH=ewBETH=fk=HE=ewHE=oz=ZAYIN=HETH=YODH=KAPH=hc=MEM=jc=ewjc",
    "?pdornb=la=AYIN=akAYIN=PE=SADHE=ewSADHE?pdornb=RESH-AYIN-DALETH=lp=TAW=ewTAW?pdornb<jbjj",
    "=oh=nn=fd=ey=nf=og=nk=jjge<fejjfr<hoAYIN-DALETH:::::::::SOGDIANhnag<BETH<fk<HE<oz<ZAYIN",
    "<HETH<YODH<KAPH<hc<MEM<jc<la<AYIN<PE<SADHE<RESH-AYIN<lp<TAW<FETH<LESH;gglp;cidvbe<ohdxbe",
    "<dvac<ohdxac<cyac=be<gbac=be<htgbbe<RESHbe<mrbe;jbjj<nf<og<jjge;kgohorBARS?pddx<cbpddv",
    "<ohcdpddx<frcbpddv"]⟩,
  ⟨0x10F70, [":jgUYGHURhnag=BETH=GIMEL-HETH=oz=ZAYIN=ewHETH=YODH=KAPH=hc=MEM=jc=la=PE=SADHE",
    "=RESH=lp=TAW=LESH<cidvac>be=ohdxac?be<kgbc=ohBARS>dx=fddx"]⟩,
  ⟨0x10FB0, [":CHORASMIANhnag<mcag<BETH<fk<DALETH<HE<oz<CURLEDoz<ZAYIN<HETH<YODH<KAPH<hc<MEM<jc",
    "<la<AYIN<PE<RESH<lp<TAW;jbjj<oh<nn<fd<nf<og<jjge"]⟩,
  ⟨0x10FE0, [":ELYMAIChnag<BETH<fk<DALETH<HE<oz<ZAYIN<HETH<TETH<YODH<KAPH<hc<MEM<jc<la<AYIN<PE",
    "<SADHE<QOPH<RESH<lp<TAW;hoZAYIN-YODH::::::::::BRAHMIlubr<aq<ov<JIHVAMULIYA<UPADHMANIYA;hnA",
    "<AA<I<II<U<UU<owR=RR=L=LL<E<AI<O<AU<KA<gw<GA<fi<is<CA<bx<JA<gu<jd<oa<ob<df<dg<iv<TA<nh<DA",
    "<dk<NA<PA<jw<BA<bh<MA<YA<RA<LA<VA<lk<mn<SA<HA<LLA<jgTAMIL LLLA>RRA>NNNA;oxluAA",
    "=BHATTIPROLU AA=I=II=U=UU=owR>RR>L>LL=E=AI=O=AU;ou;db;dzdb;kgdv<dzdv<hq<CRESCENTbc<LOTUS::",
    "::;jbjj<oh<nn<fd<ey<lx<lh<ef<it<nf<og<nk<fb<ev<lz<lj<ej<iu<jjge=nl;dspj<jj<oh<nn<fd<ey<lx",
    "<lh<ef<it;lujgTAMILou;hnjgTAMILlqE?O;oxlujgTAMILlqE@O;hnjgTAMIL LLA:::::::::;jbJOINER",
    ":KAITHIlubr<aq<ov;hnA<AA<I<II<U<UU<E<AI<O<AU<KA<gw<GA<fi<is<CA<bx<JA<gu<jd<oa<ob<df<DDDHA",
    "<dg<RHA<iv<TA<nh<DA<dk<NA<PA<jw<BA<bh<MA<YA<RA<LA<VA<lk<mn<SA<HA;oxluAA=I=II=U=UU=E=AI=O",
    "=AU;luou<ja;aalu;ENUMERATIONlu;jblu;ldib;dzldib;db;dzdb;oxluowR::::::::::;jbluac::",
    ":SORA SOMPENGhnSAH=TAH=BAH=CAH=DAH=GAH=MAH=NGAH=LAH=NAH=VAH=PAH=YAH=RAH=fq=KAH=JAH=NYAH=AH",
    "=EEH=IH=UH=OH=EH=MAE:::::::<dspj=jj=oh=nn=fd=ey=lx=lh=ef=it:::::::CHAKMAlubr<aq<ov;hnAA<I",
    "<U<E<KAA<KHAA<GAA<GHAA<NGAA<CAA<CHAA<JAA<JHAA<NYAA<TTAA<TTHAA<DDAA<DDHAA<NNAA<TAA<THAA<DAA",
    "<DHAA<NAA<PAA<PHAA<BAA<BHAA<MAA<YYAA<YAA<RAA<LAA<WAA<SAA<HAA;oxluA=I=II=U=UU=E=AI=O=AU=OI",
    ";Oib;AUib;ou;MAAYYAA:;dspj<jj<oh<nn<fd<ey<lx<lh<ef<it;ldib;db;dzdb;kmib;hnLHAA;oxluAA=EI",
    ";hnVAA:::::::::MAHAJANIhnA<I<U<E<O<KA<gw<GA<fi<CA<bx<JA<gu<jd<oa<ob<df<dg<iv<TA<nh<DA<dk",
    "<NA<PA<jw<BA<bh<MA<RA<LA<VA<SA<HA<RRA;luja;aalu;ldib;hoSHRI::::::::::SHARADAlubr<aq<ov;hnA",
    "<AA<I<II<U<UU<owR=RR=L=LL<E<AI<O<AU<KA<gw<GA<fi<is<CA<bx<JA<gu<jd<oa<ob<df<dg<iv<TA<nh<DA",
    "<dk<NA<PA<jw<BA<bh<MA<YA<RA<LA<LLA<VA<lk<mn<SA<HA;oxluAA=I=II=U=UU=owR>RR>L>LL=E=AI=O=AU",
    ";luou<bb<JIHVAMULIYA<UPADHMANIYA;OM;db;dzdb;aalu;lg;SANDHIib;luja;oxiiib;EXTRAlqoxib",
    ";SUTRAib;oxluPRISHTHAMATRA E;lugobr;dspj<jj<oh<nn<fd<ey<lx<lh<ef<it;EKAM;luSIDDHAM",
    ";HEADSTROKE;CONTINUATIONlu;ldMARK-1=-2::SINHALAaudsjj=oh=nn=fd=ey=lx=lh=ef=it<jbnf=og=nk",
    "=fb=ev=lz=lj=ej=iu=jjge>nl::::::::::::KHOJKIhnA<AA<I<U<E<AI<O<AU<KA<gw<GA<GGA<fi<is<CA<bx",
    "<JA<JJA:<jd<oa<ob<df<dg<iv<TA<nh<DA<DDDA<dk<NA<PA<jw<BA<BBA<bh<MA<YA<RA<LA<VA<SA<HA<LLA",
    ";oxluAA=I=II=U=E=AI=O=AU;luaq<ou<ja<SHADDA;db;dzdb;WORDlg;ldib;dzldib;aalu;luSUKUN"]⟩,
  ⟨0x11280, [":MULTANIhnA<I<U<E<KA<gw<GA:<fi:<CA<bx<JA<JJA:<jd<oa<ob<df<DDDA<dg<iv<TA<nh<DA<dk",
    "<NA<PA<jw<BA:<bh<MA<YA<RA<LA<VA<SA<HA<RRA<RHA;ldib:::::::KHUDAWADIhnA<AA<I<II<U<UU<E<AI<O",
    "<AU<KA<gw<GA<GGA<fi<is<CA<bx<JA<JJA<gu<jd<oa<ob<df<DDDA<RRA<dg<iv<TA<nh<DA<dk<NA<PA<jw<BA",
    "<BBA<bh<MA<YA<RA<LA<VA<lk<SA<HA;luaq;oxluAA=I=II=U=UU=E=AI=O=AU;luja<ou:::::;dspj<jj<oh<nn",
    "<fd<ey<lx<lh<ef<it:::::::GRANTHAluciaqac<br<aq<ov:;hnA<AA<I<II<U<UU<owR=L::<EE<AI::<OO<AU",
    "<KA<gw<GA<fi<is<CA<bx<JA<gu<jd<oa<ob<df<dg<iv<TA<nh<DA<dk<NA:<PA<jw<BA<bh<MA<YA<RA:<LA<LLA",
    ":<VA<lk<mn<SA<HA::ciBINDUbe:GRANTHAluja<bb;oxluAA=I=II=U=UU=owR>RR::=EE=AI::=OO=AU;luou::",
    ";OM::::::;AUhkib:::::;luPLUTA;hnVEDICaq=dzaq<owRR=LL;oxluowL>LL:::ciGRANTHAdspj=jj=oh=nn",
    "=fd=ey=lx:::<hnA=KA=NA=VI=PA"]⟩,
  ⟨0x11400, [":NEWAhnA<AA<I<II<U<UU<owR=RR=L=LL<E<AI<O<AU<KA<gw<GA<fi<is<NGHA<CA<bx<JA<gu<jd",
    "<NYHA<oa<ob<df<dg<iv<TA<nh<DA<dk<NA<NHA<PA<jw<BA<bh<MA<MHA<YA<RA<RHA<LA<LHA<WA<lk<mn<SA<HA",
    ";oxluAA=I=II=U=UU=owR>RR>L>LL=E=AI=O=AU;luou<br<aq<ov<ja<bb<ewaq;OM;SIDDHI;db;dzdb;cj",
    ";GAP FILLER;aalu;dspj<jj<oh<nn<fd<ey<lx<lh<ef<it;dzcj;PLACEHOLDERib:;INSERTIONlu;SANDHIib",
    ";hnVEDICaq;luJIHVAMULIYA<UPADHMANIYA"]⟩,
  ⟨0x11480, [":TIRHUTA ANJI;hnA<AA<I<II<U<UU<owR=RR=L=LL<E<AI<O<AU<KA<gw<GA<fi<is<CA<bx<JA<gu",
    "<jd<oa<ob<df<dg<iv<TA<nh<DA<dk<NA<PA<jw<BA<bh<MA<YA<RA<LA<VA<lk<mn<SA<HA;oxluAA=I=II=U=UU",
    "=owR>RR>L>LL=E=lqE=AI=O=lqO=AU;lubr<aq<ov<ou<ja<bb;GVANG;aalu;OM::::::::;dspj<jj<oh<nn<fd",
    "<ey<lx<lh<ef<it"]⟩,
  ⟨0x11580, [":SIDDHAMhnA<AA<I<II<U<UU<owR=RR=L=LL<E<AI<O<AU<KA<gw<GA<fi<is<CA<bx<JA<gu<jd<oa",
    "<ob<df<dg<iv<TA<nh<DA<dk<NA<PA<jw<BA<bh<MA<YA<RA<LA<VA<lk<mn<SA<HA;oxluAA=I=II=U=UU=owR>RR",
    "::=E=AI=O=AU;lubr<aq<ov<ou<ja<SIDDHAM;db;dzdb;lgdv<bc;REPETITION MARK-1=-2=-3",
    ";END OF TEXTib;ldibpdTRIDENTanU-SHAPED ORNAMENTS@dycq>RAYSandycq@dydzcq@dynzcq=dzkv?pdRAYS",
    "=pddzcq>nzcq>kicq>SEPTUPLEcq>cdanRAYS@ohENCLOSURES@fdENCLOSURES;hnTHREE-CIRCLEakI",
    "<TWO-CIRCLEakI?II<akU;oxluakU>UU"]⟩,
  ⟨0x11600, [":MODIhnA<AA<I<II<U<UU<owR=RR=L=LL<E<AI<O<AU<KA<gw<GA<fi<is<CA<bx<JA<gu<jd<oa<ob",
    "<df<dg<iv<TA<nh<DA<dk<NA<PA<jw<BA<bh<MA<YA<RA<LA<VA<lk<mn<SA<HA<LLA;oxluAA=I=II=U=UU=owR",
    ">RR>L>LL=E=AI=O=AU;luaq<ov<ou<ARDHACANDRA;db;dzdb;aalu;luHUVA:::::::::::;dspj<jj<oh<nn<fd",
    "<ey<lx<lh<ef<it:::::::MONGOLIAN BIRGApdjn;kxBIRGA;dzBIRGApdjn;nzBIRGApdjn;BIRGApddzjn",
    ";kxBIRGApdjn>dzjn;goBIRGA=pddzjn;SWIRL BIRGA=pdjn>dzjn;ocSWIRL BIRGApddzjn"]⟩,
  ⟨0x11680, [":TAKRIhnA<AA<I<II<U<UU<E<AI<O<AU<KA<gw<GA<fi<is<CA<bx<JA<gu<jd<oa<ob<df<dg<iv<TA",
    "<nh<DA<dk<NA<PA<jw<BA<bh<MA<YA<RA<LA<VA<lk<SA<HA<RRA;luaq<ov;oxluAA=I=II=U=UU=E=AI=O=AU",
    ";luou<ja;hnaugw;aalu::::::;dspj<jj<oh<nn<fd<ey<lx<lh<ef<it"]⟩,
  ⟨0x11700, [":AHOMhnKA<gw<is<NA<TA<akTA<PA<jw<BA<MA<JA<bx<nh<RA<LA<SA<jd<HA<A<DA<dk<GA<akGA<fi",
    "<bh<gu<akBA::;cmluidLA>RA>LIGATING RA;oxluA=AA=I=II=U=UU=E=AW=O=AI=AM;luKILLER::::;dspj<jj",
    "<oh<nn<fd<ey<lx<lh<ef<it;jbnf<og;lumcld<ld<RULAI;mzVI;hnCA<oa<ob<df<dg<iv<LLA"]⟩,
  ⟨0x11800, [":DOGRAhnA<AA<I<II<U<UU<E<AI<O<AU<KA<gw<GA<fi<is<CA<bx<JA<gu<jd<oa<ob<df<dg<iv<TA",
    "<nh<DA<dk<NA<PA<jw<BA<bh<MA<YA<RA<LA<VA<lk<mn<SA<HA<RRA;oxluAA=I=II=U=UU=owR>RR=E=AI=O=AU",
    ";luaq<ov<ou<ja;aalu"]⟩,
  ⟨0x118A0, [":WARANG CITIbshnNGAA>A>WI>YU>YA>YO>II>UU>E>O>ANG>GA>KO>ENY>YUJ>UC>ENN>ODD>TTE",
    ">NUNG>DA>AT>AM>BU>PU>HIYO>HOLO>HORR>HAR>SSUU>SII>VIYO<mchnNGAA>A>WI>YU>YA>YO>II>UU>E>O>ANG",
    ">GA>KO>ENY>YUJ>UC>ENN>ODD>TTE>NUNG>DA>AT>AM>BU>PU>HIYO>HOLO>HORR>HAR>SSUU>SII>VIYO<dspj=jj",
    "=oh=nn=fd=ey=lx=lh=ef=it<jbnf=og=nk=fb=ev=lz=lj=ej=iu::::::::::::<OM:DIVES AKURUhnA=AA=I",
    "=II=U=UU=E::=O::=KA=gw=GA=fi=is=CA=bx=JA:=jd=oa:=df=dg=iv=TA=nh=DA=dk=NA=PA=jw=BA=bh=MA=YA",
    "=YYA=RA=LA=VA=lk=mn=SA=HA=LLA=ZA<oxluAA>I>II>U>UU>E:>AI>O::<luaq=br=HALANTA<ou",
    "<PRE",
    "FIXED NASALlu<idYA<gjRA<idRA<luja<dzdb<GAP FILLER<END OF TEXTib:::::::::<dspj=jj=oh=nn=fd",
    "=ey=lx=lh=ef=it"]⟩,
  ⟨0x119A0, [":NANDINAGARIhnA<AA<I<II<U<UU<owR=RR::<E<AI<O<AU<KA<gw<GA<fi<is<CA<bx<JA<gu<jd<oa",
    "<ob<df<dg<iv<TA<nh<DA<dk<NA<PA<jw<BA<bh<MA<YA<RA<LA<VA<lk<mn<SA<HA<LLA<RRA;oxluAA=I=II=U",
    "=UU=owR>RR::=E=AI=O=AU;luaq<ov<ou<bb<SIDDHAM;HEADSTROKE;oxluPRISHTHAMATRA E"]⟩,
  ⟨0x11A00, [":ZANABAZARmlhnA<oxluI>UE>U>E>OE>O>AI>AU>krI=hkib<hnKA=gw=GA=fi=is=CA=bx=JA=jd=oa",
    "=ob=df=dg=iv=TA=nh=DA=dk=NA=PA=jw=BA=bh=MA=TSA=TSHA=DZA=DZHA=ZHA=ZA= -A=YA=RA=LA=VA=lk=mn",
    "=SA=HA=KSSA<ewcmib<luou=br>pdjn=bqpdjn=aq=ov<CLUSTER-INITIALhnRA=-FINALhnYA?RA?LA?VA",
    "<gjHEADib<CLOSING HEADib<ibTSHEG=SHAD=dzSHAD=htTSHEG<gjDOUBLE-LINED HEADib",
    "<CLOSING DOUBLE-LINED HEADib<SUBJOINER:::::::::SOYOMBOhnA;oxluI=UE=U=E=O=OE=AI=AU=owR>L",
    "<hkib;hnKA<gw<GA<fi<is<CA<bx<JA<gu<jd<oa<ob<df<dg<iv<TA<nh<DA<dk<NA<PA<jw<BA<bh<MA<TSA",
    "<TSHA<DZA<ZHA<ZA< -A<YA<RA<LA<VA<lk<mn<SA<HA<KSSA;luJIHVAMULIYA<UPADHMANIYA",
    ";CLUSTER-INITIALhnRA>LA>lk>SA;ewcmluG>K>NG>D>N>B>M>R>L>SH>S> -A;luaq<ov;GEMINATIONib",
    ";SUBJOINER;ibTSHEG<SHAD<dzSHAD<PLUTA;HEADibpdijanSUNannzFLAME@SUNanFLAME@SUN",
    ";TERMINAL MARK-1=-2"]⟩,
  ⟨0x11AB0, [":CANADIAN SYLLABICS NATTILIK HI=HII=HO=HOO=HA=HAA=SHRI=SHRII=SHRO=SHROO=SHRA",
    "=SHRAA<SPE<SPI<SPO<SPA:PAU CIN HAUhnPA>KA>LA>MA>DA>ZA>VA>is>HA>GA>gw>SA>BA>CA>TA>nh>NA>jw",
    ">RA>FA>bx>A>E>I>O>U>UA>IA>ewP?K?T?M?N?L?W?NG?Y=kwnsht>ns=SANDHIflmp=kwnshtew?ew",
    "=SANDHIflmpew>nsht>ns?htew?ew=MID-LEVELns=flmpoq=MID-LEVELnshtew@ew=LOW-FALLINGnsht?ns",
    "=flmp=LOW-FALLINGnshtew@ew=flmpew"]⟩,
  ⟨0x11C00, [":BHAIKSUKIhnA<AA<I<II<U<UU<owR=RR=L:<E<AI<O<AU<KA<gw<GA<fi<is<CA<bx<JA<gu<jd<oa",
    "<ob<df<dg<iv<TA<nh<DA<dk<NA<PA<jw<BA<bh<MA<YA<RA<LA<VA<lk<mn<SA<HA;oxluAA=I=II=U=UU=owR>RR",
    ">L:=E=AI=O=AU;lubr<aq<ov<ou<bb;db;dzdb;WORDlg;GAP FILLER-1=-2::::::::::;dspj<jj<oh<nn<fd",
    "<ey<lx<lh<ef<it;jbjj<oh<nn<fd<ey<lx<lh<ef<it<nf<og<nk<fb<ev<lz<lj<ej<iu;HUNDREDS UNITib:::",
    ":MARCHEN HEADib;ibSHAD;hnKA<gw<GA<is<CA<bx<JA<jd<TA<nh<DA<NA<PA<jw<BA<MA<TSA<TSHA<DZA<WA",
    "<ZHA<ZA< -A<YA<RA<LA<lk<SA<HA<A::;SUBJOINEDhnKA=gw=GA=is=CA=bx=JA=jd=TA=nh=DA=NA=PA=jw=BA",
    "=MA=TSA=TSHA=DZA=WA=ZHA=ZA:=YA=RA=LA=lk=SA=HA=A;oxluAA=I=U=E=O;luaq<br"]⟩,
  ⟨0x11D00, [":MASARAM GONDIhnA=AA=I=II=U=UU=E:=AI=O:=AU=KA=gw=GA=fi=is=CA=bx=JA=gu=jd=oa=ob=df",
    "=dg=iv=TA=nh=DA=dk=NA=PA=jw=BA=bh=MA=YA=RA=LA=VA=lk=mn=SA=HA=LLA=KSSA=JNYA=TRA<oxluAA>I>II",
    ">U>UU>owR:::>E:>AI>O:>AU<luaq=ov=ja=bq=HALANTA<ou<REPHA<RA-KARA::::::::<dspj=jj=oh=nn=fd",
    "=ey=lx=lh=ef=it:::::::GUNJALA GONDIhnA=AA=I=II=U=UU:=EE=AI:=OO=AU=YA=VA=BA=bh=MA=KA=gw=TA",
    "=nh=LA=GA=fi=DA=dk=NA=CA=bx=oa=ob=LLA=JA=gu=df=dg=is=PA=jw=HA=RA=SA<oxluAA>I>II>U>UU:>EE",
    ">AI:>OO>AU<luaq=ov<ou<OM:::::::<dspj=jj=oh=nn=fd=ey=lx=lh=ef=it"]⟩,
  ⟨0x11EE0, [":MAKASARhnKA<GA<is<PA<BA<MA<TA<DA<NA<CA<JA<jd<YA<RA<LA<VA<SA<A;ANGKA;oxluI=U=E=O",
    ";PASSIMBANG;END OFld"]⟩,
  ⟨0x11FB0, [":LISUhnYHA"]⟩,
  ⟨0x11FC0, [":TAMILfejjTHREE-HUNDRED-AND-TWENTIETH=ONE-HUNDRED-AND-SIXTIETH=EIGHTIETH",
    "=SIXTY-FOURTH=FORTIETH=THIRTY-SECOND<nnEIGHTIETHS=SIXTY-FOURTHS<jjTWENTIETH=SIXTEENTH-1>-2",
    "=TENTH=eh<nnTWENTIETHS=SIXTEENTHS<jjFIFTH=kj=HALF-1>-2<nnkk<DOWNSCALING FACTOR KIIZH;luNEL",
    "<CEVITU<AAZHAAKKU<UZHAKKU<MUUVUZHAKKU<KURUNI<PATHAKKU<MUKKURUNI<KAACU<PANAM<PON<VARAAKAN",
    "<PAARAM<KUZHI<VELI;WET CULTIVATIONlu;DRY CULTIVATIONlu;LANDlu;SALT PANlu",
    ";TRADITIONAL CREDITlu<jblu;CURRENTlu;anODDlu;SPENTlu;TOTALlu;IN POSSESSIONlu;STARTINGfflu",
    ";luMUTHALIYA<VAKAIYARAA"]⟩,
  ⟨0x11FFF, [":TAMILkgEND OF TEXT:CUNEIFORMluA=nrA>BAD>GAN2ng>HA>IGI>LAGARfp>MUSH>SAG<A2<AB",
    "=nrASH2>DUN3fp>GAL>GAN2ng>HA>IGIfp>IMIN>LAGAB>SHESH>UjyUjyU=fp<AB2=nrBALAG>GAN2ng>MEjyEN",
    ">SHA3>TAK4<AD<AK=nrERIN2>SHITAjyGISH<AL=nrAL>DIM2>GISH>HA>KAD3>KI>SHE>USH<ALAN<ag<AMAR",
    "=nrSHE<AN=joAN=nnnr=jyNAGA OPPOSING ANjyNAGA?mm<ANSHE<APIN<ARAD=nrKUR<ARKAB<ASAL2<az",
    "=ZIDAng=KABAng=joazTUG2joTUG2 TUG2joTUG2 PAP?joaz@azcuazjoazjoaz<ASH2<ASHGAB<BA<BAD<BAG3",
    "<BAHAR2<BAL=joBAL<BALAG<bc<BARA2<BI=nrA>GAR>IGIfp<BU=joBU AB?UN=cuBU<BULUG=joBULUG<BUR",
    "<BUR2<DA<DAG=KISIM5nrAjyMASH?AMAR?BALAG?BI?GA@jyMASH?GI?GIR2?GUD?HA?IR@jyLU?KAK?LA?LU",
    "@jyMASH2?LUM?NE?PAPjyPAP?SI?TAK4?U2jyGIR2?USH<DAM<DAR<DARA3<DARA4<DI<DIB<DIM=nrSHE<DIM2",
    "<DIN=KASKAL Ufpdu<du<DU=joDU=fp=SHESHIG<DUB=nrESH2<DUB2<DUG<DUGUD<DUH<DUN<DUN3=fp>fp<DUN4",
    "<DUR2<E=nrPAP=joEjcjojc<E2=nrAjyHAjyDA>GAR>MI>SAL>SHE>U<EDIN<EGIR<EL<EN=nrGAN2?ng>ME=cuEN",
    "=OPPOSING EN=mm<EREN<ERIN2<ESH2<EZEN=nrA?jyLAL@LALnrLAL>AN>BAD>DUN3fp@fp>HA?fp>IGIfp",
    ">KASKAL?mm>KU3>LA>LALnrLAL>LI>LU>U2>UD<GA=fp<GA2=nrAjyDAjyHA@HA@IGI>AB2ngjyTAB>AN>az",
    ">ASH2jyGAL>BAD>bcjyRA>BUR?jyRA>DA>DI>DIMnrSHE>DUB>EL?jyLA>EN?nrGAN2ng>GAN2ng>GAR>GI>GI4",
    "?jyA>GIR2jySU>HAjyLUjyESH2>HAL?jyLA>HIjyLI>HUB2>IGIfp>ISHjyHUjyaz>KAK>KASKAL>KID?jyLAL",
    ">KU3jyAN>LA>MEjyEN>MI>jc?jojc>PA>SAL>SAR>SHE?jyTUR>SHID>SUM>TAK4>U>UD?jyDU=joGA2<GABA",
    "=cuGABA<GAD=joGAD GARjoGAR<GAL=GADjoGAD GARjoGAR<GALAM<GAM<GAN<GAN2=ng=joGAN2=cuGAN2<GAR",
    "<GAR3<GASHAN<GESHTIN=nrKUR<GI=nrE>U=cuGI<GI4=joGI4=cuGI4<GIDIM<GIR2=fp<GIR3=nrAjyIGI",
    ">GAN2ng>IGI>LUjyIGI>PA<GISAL<GISH=cuGISH=nrBAD>TAK4=ng<GU=cuGU<GU2=nrKAK?nrIGIfp>jc",
    ">SALjyTUG2=fp<GUD=nrAjyKUR>KUR=joGUD LUGAL<GUL<GUM=nrSHE<GUR<GUR7<GURUN<GURUSH<HA=ng=fp",
    "<HAL<HI=nraz>ASH2>BAD>du>GAD>KIN>jc>SHE>U<HU<HUB2=nrAN>HAL>KASKAL>LISH>UD<HUL2<I=A<IB<IDIM",
    "=joIDIM BUR?mm<IG<IGI=DIB=RI=joIGI SHIRjoSHIR UDjoUD=fp<IL=nrGAN2ng<IL2<IM=nrTAK4=cuIM",
    "=OPPOSING IM=mm<IMIN<IN<IR<ISH<KA=nrA>AD?jyKU3>ASH2>BAD>BALAG>bc>BI>ERIN2>ESH2>GA>GAL",
    ">GAN2ng>GAR?jySHA3jyA>GI>GIR2>GISHjySAR?cuGISH>GU>GUR7>IGI>IM>KAK>KI>KID>LI>LU>ME?jyDU@GI",
    "@TE>MI?jyNUNUZ>NE>jc>PI>RU>SA>SAR>lk>SHE>SHID>SHU>SIG>SUHUR>TAR>U>U2>UD>UMUMnrPA>USH>ZI",
    "<KA2=cuKA2<KAB<KAD2<KAD3<KAD4<KAD5=joKAD5<KAK=nrIGIfp<KAL=nrBAD=cuKAL<KAM2<KAM4<KASKAL",
    "=LAGABnrUjoLAGABnrU=joKASKAL LAGABnrUjoLAGABnrU<KESH2<KI=nrBAD>U>UD<KID<KIN<KISAL<KISH",
    "<KISIM5=joKISIM5<KU=joHInrASH2 KUjoHInrASH2<KU3<KU4=oqfa<KU7<KUL=fp<KUN<KUR=OPPOSING KUR",
    "<KUSHU2<KWU318<LA<LAGAB=nrA?jyDAjyHA@GAR@LAL>AL>AN>azZIDAng>BAD>BI>DAR>EN>GA>GAR>GUD?jyGUD",
    ">HA>HAL>HInrjc>IGIfp>IM?jyHA@LU>KI>KIN>KU3>KUL?jyHIjyA>LAGAB>LISH>LU>LUL>ME?jyEN>MUSH>NE",
    ">SHEjySUM>SHITAjyGISHjyERIN2@GISHng>SHU2?jySHU2>SUM>TAG>TAK4>TEjyAjySUjyNA>U?jyA@UjyU",
    ">U2jyaz>UD>USH=mm<LAGAR=nrSHE?jySUM=fp>joLAGARfpSHE<LAHSHU<LAL=nrLAL<hb=nrKUR?jyRU<LI<LIL",
    "<LIMMU2<LISH<LU=nrBAD<LU2=nrAL>BAD>ESH2?ng>GAN2ng>HInrBAD>IM>KAD2>KAD3?jyaz>KI>LAjyaz",
    ">LAGAB>MEjyEN>NE>NU>SIjyaz>SIK2jyBU>TUG2=ng=cuLU2=OPPOSING LU2=mm=SHESHIG<LU3<LUGAL",
    "=joLUGAL=OPPOSING LUGAL=SHESHIG<LUH<LUL<LUM=joLUM?GARjoGAR<MA=nrTAK4=fp<MA2<MAH<MAR<MASH",
    "<MASH2<ME<MES<MI<MIN<MU=joMU<MUG=fp<MUNSUB<MURGU2<MUSH=nrA>KUR>ZA=joMUSH?nrAjyNA=cuMUSH",
    "<MUSH3=nrA?jyDI>DI=fp<NA<NA2<NAGA=g",
    "o=nrSHUng=OPPOSING NAGA<NAGAR<NAM NUTILLU<NAM<NAM2<NE=nrA>UD=SHESHIG<NI=nrE<NI2<NIM",
    "=nrGAN2ng>GARjyGAN2ng<NINDA2=nrAN>az?jyaz>GUD>MEjyGAN2ng>NE>jc>SHE?jyA AN@az@azjyaz>U2jyaz",
    ">USH<NISAG<NU<NU11<jc=LAGARnrGAR?MASH?SAL@jojcLAGARnrSAL?USH=ng=jojc=cujc?LAGARjoLAGAR",
    "<NUNUZ=AB2nrASHGAB?BI?DUG?GUD?IGIfp?KAD3?LA?NE?SILA3?U2=KISIM5nrBI@U<PA<PAD<PAN<PAP<PESH2",
    "<PI=nrA>AB>BI>BU>E>I>IB>U>U2=cuPI<PIRIG=nrKAL>UD>ZA=OPPOSING PIRIG<RA<RAB<RI<RU<SA",
    "<SAG NUTILLU<SAG=nrA>DU>DUB>HA>KAK>KUR>LUM>MI>jc>SAL>SHID>TAB>U2>UB>UM>UR>USH=joSAG=fp<SAL",
    "=LAGABnrASH2<SANGA2<SAR<lk<SHA3=nrA>BAD>GISH>NE>SHU2>TUR>U?jyA<SHA6<SHAB6<SHAR2<SHE=HU",
    "=joSHE GADjoGAD GARjoGAR?TABjoTAB GARjoGAR<SHEG9<SHEN<SHESH<SHESH2<SHESHLAM<SHID=nrA>IM",
    "<SHIM=nrA>BAL>BULUG>DIN>GAR>IGI?fp>KUSHU2>LUL>MUG>SAL<SHINIG<SHIR=ng=joSHIR BURjoBUR<SHITA",
    "<SHU=jogoSHU<SHU2<SHUBUR<SI=fp<SIG<SIG4=joSIG4 SHU2<SIK2<SILA3<SU=joSU<SUD<SUD2<SUHUR<SUM",
    "<SUMASH<SUR<SUR9<TA=ba=nrHI>MI=fp<TAB=joTAB NIjoNIdujodu=mm<TAG=nrBI>GUD>SHE>SHU>TUG2>UD",
    "<TAK4<TAR<TE=fp<TI=ng<TIL<TIR=nrTAK4=joTIR?GADjoGAD GARjoGAR<TU<TUG2<TUK<TUM<TUR",
    "=joTUR ZAjoZA<U=GUD=U U=joU PAjoPA GARjoGAR?SURjoSUR?UkrjoUkr<U2<UB<UD=KUSHU2=nrBAD>MI",
    ">UjyUjyU@UjyUfp=fp=SHESHIG>nrBAD<UDUG<UM=nrLAGAB>MEjyDA>SHA3>U<UMBIN<UMUM=nrKASKAL>PA<UN",
    "=fp<UR=cuUR=SHESHIG<UR2=nrAjyHA@NA>AL>HA>jc>U2?jyaz@BI<UR4<URI<URI3<URU=nrA>ASHGAB>bc>DUN",
    ">GA>GAL>GAN2ng>GAR>GU>HA>IGI>IM>ISH>KI>LUM>MIN>PA>SHE>SIG4>TU>UjyGUD>UD>URUDA<URUDA=nrU",
    "<USH=nrA>KU>KUR>TAK4<USHX<USH2<USHUMX<UTUKI<UZ3=nrKASKAL<UZU<ZA=ng=mmnrKUR<ZAG<ZAMX<ZE2<ZI",
    "=joZI<ZI3<ZIB=KABAng<ZIG<ZIZ2<ZU<ZU5=nrA<ZUBUR<ZUM<KAP ELAMITE<ABnrjc<AB2nrA<AMARnrKUG",
    "<DAG KISIM5nrU2jyMASH<DAG3<dujySHU<DUBnrSHE<EZENnrGUD>SHE<GA2nrANjyKAKjyA>ASH2<GE22<GIG",
    "<HUSH<KAnrANSHE>ASH3>GISH>GUD>HInrASH2>LUM>PA>SHUL>TU>UR2<LAGABnrGI<LU2 SHESHIGnrBAD",
    "=nrESH2jyLAL>SHU<MESH<MUSH3nrZA<NA4<NIN<NIN9<NINDA2nrBAL>GI<NU11kxiudh<PESH2ba<PIR2",
    "<SAGnrIGIfp<TI2<UMnrME<U U"]⟩,
  ⟨0x12400, [":CUNEIFORM NUMERICluohaz=nnaz=fdaz=eyaz=lxaz=lhaz=efaz=itaz=nndu=fddu=eydu=lxdu",
    "=lhdu=efdu=itdu=fdU=eyU=lxU=lhU=efU=itU=jjGESH2=ohGESH2=nnGESH2=fdGESH2=eyGESH2=lxGESH2",
    "=lhGESH2=efGESH2=itGESH2=jjGESHU=ohGESHU=nnGESHU=fdGESHU=eyGESHU=ohSHAR2=nnSHAR2?oqfa",
    "=fdSHAR2=eySHAR2=lxSHAR2=lhSHAR2=efSHAR2=itSHAR2=jjSHARU=ohSHARU=nnSHARU?oqfa=fdSHARU",
    "=eySHARU=SHAR2nrGALjydu@jyMIN=jjBURU=ohBURU=nnBURU?oqfa=fdBURU=eyBURU=nnoqfaESH16@ESH21",
    "=fdoqfaLIMMU@LIMMU4@LIMMU A@LIMMU B=lxoqfaASH9=lhoqfaIMIN3@IMIN A@IMIN B=efoqfaUSSU@USSU3",
    "=itoqfaILIMMU@ILIMMU3@ILIMMU4@ILIMMU A=ohazng=nnazng=fdazng=eyazng=lxazng=jjBAN2=ohBAN2",
    "=nnBAN2=fdBAN2?oqfa=eyBAN2?oqfa=NIGIDAMIN=NIGIDAESH=jjESHE3=ohESHE3=jjTHIRDdu=ohTHIRDSdu",
    "=eySIXTHSdu=jjTHIRDoqfaA=ohTHIRDSoqfaA=jjehaz>kjaz=jgASSYRIANjjSIXTH@kj=jjkjGUR>frGUR",
    "=ELAMITEjjTHIRD>ohTHIRDS>fb>ev=fdUoqfa=eyUoqfa=lxUoqfa=lhUoqfa=efUoqfa=itUoqfa:",
    ";kglujgASSYRIAN WORD DIVIDER=orch=dmch>TRICOLON>QUADCOLON:::::::::::;luABnrjcng>SHU2",
    "<ADnrESH2<BADnrdung<BAHAR2nrAB2>NI>ZA<BUjoBUnrNA2<DAnrTAK4<DAGnrKUR<DIMnrIGI>U U U",
    "<DIM2nrUD<DUGnrANSHE>az?AThg>DIN>DUN>ERIN2>GA>GI>GIR2fp>GISH>HA>HI>IGIfp>KASKAL>KUR>KUSHU2",
    "?jyKASKAL>LAK-020>hb?nrKUR>LUHjyGISH>MASH>MES>MI>NI>PI>SHE>SIfp<E2nrKUR>PAP<ERIN2 X",
    "<ESH2cuESH2<EZEN SHESHIGnraz?HI?IGIfp?LA?LAL?ME?MES?SU=nrSU<GA2nrBAHAR2>DIMfp>DUGnrIGIfp",
    "@KASKAL>EREN>GA>GARjyDI@NE>HAjyA>KUSHU2jyKASKAL>hb?nrKUR>LUH>MUSH>NE?jyE2@GI>SHIM>ZIZ2",
    "<GABAkxiudh<GESHTINnrU<GISHnrGISHcuGISH<GU2nrIGIfp<GUDjyGISHnrTAK4<HAngfp<HInrazjoHInraz",
    "<KAnrBU>KA>U U U>UR<LAGABnrZUjoZU<LAK-003=-021=-025=-030=-050=-051=-062=-079joLAK-079fp",
    "=-080=-081joLAK-081=-092=-130=-142=-210=-219=-220=-225=-228=-238=-265=-266=-343=-347=-348",
    "=-383=-384=-390=-441=-449>nrGU?IGI?PAPjyLU3@jyPAPjyLU3?U2jyBA=-450=-457=-470=-483=-490",
    "=-492=-493=-495=-550=-608=-617>nraz?BAD?DUN3fpfp?KU3?LA?TAR?TE?U2?UD?URUDA=-636=-648>nrDUB",
    "?GA?IGI@fp?NI?PAPjyPAPjyLU3?SHESHjyKI?UD?URUDA=-724=-749<LU2fpnraz=nrdu>HAL>PAP?jyPAPjyLU3",
    ">TAK4<MIjyZA7<MUSHjoMUSHnrGA@KAK<NINDA2nrDIMfp>GISH>GUL>HI>KESH2>LAK-050>MASH>PAPjyPAP>U",
    "?jyU>URUDA<SAGfpnrHA=nrEN>SHE AThg>TAK4<SHA6ng<SHEjoSHE=jyHUB2>NAM2>SAR<SHU2jyDUGnrNI",
    ">E2nrAN<SInrTAK4<TAK4jySAG<TUMnrGAN2ng>nndu<UR2go=nrUD<URUnrDARA3>LAK-668>LU3<ZA7",
    "<ZUjoZUjySAR<ZU5nrnndung"]⟩,
  ⟨0x12F90, [":CYPRO-MINOANluCM001=CM002=CM004=CM005=CM006=CM007=CM008=CM009=CM010=CM011=CM012",
    "=CM012B=CM013=CM015=CM017=CM019=CM021=CM023=CM024=CM025=CM026=CM027=CM028=CM029=CM030",
    "=CM033=CM034=CM035=CM036=CM037=CM038=CM039=CM040=CM041=CM044=CM046=CM047=CM049=CM050=CM051",
    "=CM052=CM053=CM054=CM055=CM056=CM058=CM059=CM060=CM061=CM062=CM063=CM064=CM066=CM067=CM068",
    "=CM069=CM070=CM071=CM072=CM073=CM074=CM075=CM075B=CM076=CM078=CM079=CM080=CM081=CM082",
    "=CM083=CM084=CM085=CM086=CM087=CM088=CM089=CM090=CM091=CM092=CM094=CM095=CM096=CM097=CM098",
    "=CM099=CM100=CM101=CM102=CM103=CM104=CM105=CM107=CM108=CM109=CM110=CM112=CM114=CM301=CM302"]⟩,
  ⟨0x13000, [":EGYPTIAN HIEROGLYPH A001<A002<A003<A004<A005<A005A<A006<A006A<A006B<A007<A008",
    "<A009<A010<A011<A012<A013<A014<A014A<A015<A016<A017<A017A<A018<A019<A020<A021<A022<A023",
    "<A024<A025<A026<A027<A028<A029<A030<A031<A032<A032A<A033<A034<A035<A036<A037<A038<A039",
    "<A040<A040A<A041<A042<A042A<A043<A043A<A044<A045<A045A<A046<A047<A048<A049<A050<A051<A052",
    "<A053<A054<A055<A056<A057<A058<A059<A060<A061<A062<A063<A064<A065<A066<A067<A068<A069<A070",
    "<B001<B002<B003<B004<B005<B005A<B006<B007<B008<B009<C001<C002<C002A<C002B<C002C<C003<C004",
    "<C005<C006<C007<C008<C009<C010<C010A<C011<C012<C013<C014<C015<C016<C017<C018<C019<C020",
    "<C021<C022<C023<C024<D001<D002<D003<D004<D005<D006<D007<D008<D008A<D009<D010<D011<D012",
    "<D013<D014<D015<D016<D017<D018<D019<D020<D021<D022<D023<D024<D025<D026<D027<D027A<D028",
    "<D029<D030<D031<D031A<D032<D033<D034<D034A<D035<D036<D037<D038<D039<D040<D041<D042<D043",
    "<D044<D045<D046<D046A<D047<D048<D048A<D049<D050<D050A<D050B<D050C<D050D<D050E<D050F<D050G",
    "<D050H<D050I<D051<D052<D052A<D053<D054<D054A<D055<D056<D057<D058<D059<D060<D061<D062<D063",
    "<D064<D065<D066<D067<D067A<D067B<D067C<D067D<D067E<D067F<D067G<D067H<E001<E002<E003<E004",
    "<E005<E006<E007<E008<E008A<E009<E009A<E010<E011<E012<E013<E014<E015<E016<E016A<E017<E017A",
    "<E018<E019<E020<E020A<E021<E022<E023<E024<E025<E026<E027<E028<E028A<E029<E030<E031<E032",
    "<E033<E034<E034A<E036<E037<E038<F001<F001A<F002<F003<F004<F005<F006<F007<F008<F009<F010",
    "<F011<F012<F013<F013A<F014<F015<F016<F017<F018<F019<F020<F021<F021A<F022<F023<F024<F025",
    "<F026<F027<F028<F029<F030<F031<F031A<F032<F033<F034<F035<F036<F037<F037A<F038<F038A<F039",
    "<F040<F041<F042<F043<F044<F045<F045A<F046<F046A<F047<F047A<F048<F049<F050<F051<F051A<F051B",
    "<F051C<F052<F053<G001<G002<G003<G004<G005<G006<G006A<G007<G007A<G007B<G008<G009<G010<G011",
    "<G011A<G012<G013<G014<G015<G016<G017<G018<G019<G020<G020A<G021<G022<G023<G024<G025<G026",
    "<G026A<G027<G028<G029<G030<G031<G032<G033<G034<G035<G036<G036A<G037<G037A<G038<G039<G040",
    "<G041<G042<G043<G043A<G044<G045<G045A<G046<G047<G048<G049<G050<G051<G052<G053<G054<H001",
    "<H002<H003<H004<H005<H006<H006A<H007<H008<I001<I002<I003<I004<I005<I005A<I006<I007<I008",
    "<I009<I009A<I010<I010A<I011<I011A<I012<I013<I014<I015<K001<K002<K003<K004<K005<K006<K007",
    "<K008<L001<L002<L002A<L003<L004<L005<L006<L006A<L007<L008<M001<M001A<M001B<M002<M003<M003A",
    "<M004<M005<M006<M007<M008<M009<M010<M010A<M011<M012<M012A<M012B<M012C<M012D<M012E<M012F",
    "<M012G<M012H<M013<M014<M015<M015A<M016<M016A<M017<M017A<M018<M019<M020<M021<M022<M022A",
    "<M023<M024<M024A<M025<M026<M027<M028<M028A<M029<M030<M031<M031A<M032<M033<M033A<M033B<M034",
    "<M035<M036<M037<M038<M039<M040<M040A<M041<M042<M043<M044<N001<N002<N003<N004<N005<N006",
    "<N007<N008<N009<N010<N011<N012<N013<N014<N015<N016<N017<N018<N018A<N018B<N019<N020<N021",
    "<N022<N023<N024<N025<N025A<N026<N027<N028<N029<N030<N031<N032<N033<N033A<N034<N034A<N035",
    "<N035A<N036<N037<N037A<N038<N039<N040<N041<N042<NL001<NL002<NL003<NL004<NL005<NL005A<NL006",
    "<NL007<NL008<NL009<NL010<NL011<NL012<NL013<NL014<NL015<NL016<NL017<NL017A<NL018<NL019",
    "<NL020<NU001<NU002<NU003<NU004<NU005<NU006<NU007<NU008<NU009<NU010<NU010A<NU011<NU011A",
    "<NU012<NU013<NU014<NU015<NU016<NU017<NU018<NU018A<NU019<NU020<NU021<NU022<NU022A<O001",
    "<O001A<O002<O003<O004<O005<O005A<O006<O006A<O006B<O006C<O006D<O006E<O006F<O007<O008<O009",
    "<O010<O010A<O010B<O010C<O011<O012<O013<O014<O015<O016<O017<O018<O019<O019A<O020<O020A<O021",
    "<O022<O023<O024<O024A<O025<O025A<O026<O027<O028<O029<O029A<O030<O030A<O031<O032<O033<O033A",
    "<O034<O035<O036<O036A<O036B<O036C<O036D<O037<O038<O039<O040<O041<O042<O043<O044<O045<O046",
    "<O047<O048<O049<O050<O050A<O050B<O051<P001<P001A<P002<P003<P003A<P004<P005<P006<P007<P008",
    "<P009<P010<P011<Q001<Q002<Q003<Q004<Q005<Q006<Q007<R001<R002<R002A<R003<R003A<R003B<R004",
    "<R005<R006<R007<R008<R009<R010<R010A<R011<R012<R013<R014<R015<R016<R016A<R017<R018<R019",
    "<R020<R021<R022<R023<R024<R025<R026<R027<R028<R029<S001<S002<S002A<S003<S004<S005<S006",
    "<S006A<S007<S008<S009<S010<S011<S012<S013<S014<S014A<S014B<S015<S016<S017<S017A<S018<S019",
    "<S020<S021<S022<S023<S024<S025<S026<S026A<S026B<S027<S028<S029<S030<S031<S032<S033<S034",
    "<S035<S035A<S036<S037<S038<S039<S040<S041<S042<S043<S044<S045<S046<T001<T002<T003<T003A",
    "<T004<T005<T006<T007<T007A<T008<T008A<T009<T009A<T010<T011<T011A<T012<T013<T014<T015<T016",
    "<T016A<T017<T018<T019<T020<T021<T022<T023<T024<T025<T026<T027<T028<T029<T030<T031<T032",
    "<T032A<T033<T033A<T034<T035<T036<U001<U002<U003<U004<U005<U006<U006A<U006B<U007<U008<U009",
    "<U010<U011<U012<U013<U014<U015<U016<U017<U018<U019<U020<U021<U022<U023<U023A<U024<U025",
    "<U026<U027<U028<U029<U029A<U030<U031<U032<U032A<U033<U034<U035<U036<U037<U038<U039<U040",
    "<U041<U042<V001<V001A<V001B<V001C<V001D<V001E<V001F<V001G<V001H<V001I<V002<V002A<V003<V004",
    "<V005<V006<V007<V007A<V007B<V008<V009<V010<V011<V011A<V011B<V011C<V012<V012A<V012B<V013",
    "<V014<V015<V016<V017<V018<V019<V020<V020A<V020B<V020C<V020D<V020E<V020F<V020G<V020H<V020I",
    "<V020J<V020K<V020L<V021<V022<V023<V023A<V024<V025<V026<V027<V028<V028A<V029<V029A<V030",
    "<V030A<V031<V031A<V032<V033<V033A<V034<V035<V036<V037<V037A<V038<V039<V040<V040A<W001<W002",
    "<W003<W003A<W004<W005<W006<W007<W008<W009<W009A<W010<W010A<W011<W012<W013<W014<W014A<W015",
    "<W016<W017<W017A<W018<W018A<W019<W020<W021<W022<W023<W024<W024A<W025<X001<X002<X003<X004",
    "<X004A<X004B<X005<X006<X006A<X007<X008<X008A<Y001<Y001A<Y002<Y003<Y004<Y005<Y006<Y007<Y008",
    "<Z001<Z002<Z002A<Z002B<Z002C<Z002D<Z003<Z003A<Z003B<Z004<Z004A<Z005<Z005A<Z006<Z007<Z008",
    "<Z009<Z010<Z011<Z012<Z013<Z014<Z015<Z015A<Z015B<Z015C<Z015D<Z015E<Z015F<Z015G<Z015H<Z015I",
    "<Z016<Z016A<Z016B<Z016C<Z016D<Z016E<Z016F<Z016G<Z016H<AA001<AA002<AA003<AA004<AA005<AA006",
    "<AA007<AA007A<AA007B<AA008<AA009<AA010<AA011<AA012<AA013<AA014<AA015<AA016<AA017<AA018",
    "<AA019<AA020<AA021<AA022<AA023<AA024<AA025<AA026<AA027<AA028<AA029<AA030<AA031<AA032:",
    "<orJOINER<gcJOINER<INSERT ATnuSTART>blSTART>nuEND>blEND<jqig<BEGIN SEGMENT<END SEGMENT"]⟩,
  ⟨0x14400, [":ANATOLIAN HIEROGLYPH A001<A002<A003<A004<A005<A006<A007<A008<A009<A010<A010A",
    "<A011<A012<A013<A014<A015<A016<A017<A018<A019<A020<A021<A022<A023<A024<A025<A026<A026A",
    "<A027<A028<A029<A030<A031<A032<A033<A034<A035<A036<A037<A038<A039<A039A<A040<A041<A041A",
    "<A042<A043<A044<A045<A045A<A046<A046A<A046B<A047<A048<A049<A050<A051<A052<A053<A054<A055",
    "<A056<A057<A058<A059<A060<A061<A062<A063<A064<A065<A066<A066A<A066B<A066C<A067<A068<A069",
    "<A070<A071<A072<A073<A074<A075<A076<A077<A078<A079<A080<A081<A082<A083<A084<A085<A086<A087",
    "<A088<A089<A090<A091<A092<A093<A094<A095<A096<A097<A097A<A098<A098A<A099<A100<A100A<A101",
    "<A101A<A102<A102A<A103<A104<A104A<A104B<A104C<A105<A105A<A105B<A106<A107<A107A<A107B<A107C",
    "<A108<A109<A110<A110A<A110B<A111<A112<A113<A114<A115<A115A<A116<A117<A118<A119<A120<A121",
    "<A122<A123<A124<A125<A125A<A126<A127<A128<A129<A130<A131<A132<A133<A134<A135<A135A<A136",
    "<A137<A138<A139<A140<A141<A142<A143<A144<A145<A146<A147<A148<A149<A150<A151<A152<A153<A154",
    "<A155<A156<A157<A158<A159<A160<A161<A162<A163<A164<A165<A166<A167<A168<A169<A170<A171<A172",
    "<A173<A174<A175<A176<A177<A178<A179<A180<A181<A182<A183<A184<A185<A186<A187<A188<A189<A190",
    "<A191<A192<A193<A194<A195<A196<A197<A198<A199<A200<A201<A202<A202A<A202B<A203<A204<A205",
    "<A206<A207<A207A<A208<A209<A209A<A210<A211<A212<A213<A214<A215<A215A<A216<A216A<A217<A218",
    "<A219<A220<A221<A222<A223<A224<A225<A226<A227<A227A<A228<A229<A230<A231<A232<A233<A234",
    "<A235<A236<A237<A238<A239<A240<A241<A242<A243<A244<A245<A246<A247<A248<A249<A250<A251<A252",
    "<A253<A254<A255<A256<A257<A258<A259<A260<A261<A262<A263<A264<A265<A266<A267<A267A<A268",
    "<A269<A270<A271<A272<A273<A274<A275<A276<A277<A278<A279<A280<A281<A282<A283<A284<A285<A286",
    "<A287<A288<A289<A289A<A290<A291<A292<A293<A294<A294A<A295<A296<A297<A298<A299<A299A<A300",
    "<A301<A302<A303<A304<A305<A306<A307<A308<A309<A309A<A310<A311<A312<A313<A314<A315<A316",
    "<A317<A318<A319<A320<A321<A322<A323<A324<A325<A326<A327<A328<A329<A329A<A330<A331<A332A",
    "<A332B<A332C<A333<A334<A335<A336<A336A<A336B<A336C<A337<A338<A339<A340<A341<A342<A343<A344",
    "<A345<A346<A347<A348<A349<A350<A351<A352<A353<A354<A355<A356<A357<A358<A359<A359A<A360",
    "<A361<A362<A363<A364<A364A<A365<A366<A367<A368<A368A<A369<A370<A371<A371A<A372<A373<A374",
    "<A375<A376<A377<A378<A379<A380<A381<A381A<A382<A383 RA OR RI<A383A<A384<A385<A386<A386A",
    "<A387<A388<A389<A390<A391<A392<A393ef<A394<A395<A396<A397<A398<A399<A400<A401<A402<A403",
    "<A404<A405<A406<A407<A408<A409<A410 BEGIN LOGOGRAMib<A410A END LOGOGRAMib<A411<A412<A413",
    "<A414<A415<A416<A417<A418<A419<A420<A421<A422<A423<A424<A425<A426<A427<A428<A429<A430<A431",
    "<A432<A433<A434<A435<A436<A437<A438<A439<A440<A441<A442<A443<A444<A445<A446<A447<A448<A449",
    "<A450<A450A<A451<A452<A453<A454<A455<A456<A457<A457A<A458<A459<A460<A461<A462<A463<A464",
    "<A465<A466<A467<A468<A469<A470<A471<A472<A473<A474<A475<A476<A477<A478<A479<A480<A481<A482",
    "<A483<A484<A485<A486<A487<A488<A489<A490<A491<A492<A493<A494<A495<A496<A497<A501<A502<A503",
    "<A504<A505<A506<A507<A508<A509<A510<A511<A512<A513<A514<A515<A516<A517<A518<A519<A520<A521",
    "<A522<A523<A524<A525<A526<A527<A528<A529<A530"]⟩,
  ⟨0x16800, [":BAMUMhnPHASE-A NGKUE MFON>GBIEE FON>PON MFON PIPAEMGBIEE@PIPAEMBA>NAA MFON",
    ">SHUENSHUET>TITA MFON>NZA MFON>SHINDA PA NJI>PON PA NJI PIPAEMGBIEE@NJI PIPAEMBA",
    ">MAEMBGBIEE>TU MAEMBA>NGANGU>MAEMVEUX>MANSUAE>MVEUAENGAM>SEUNYAM>NTOQPEN>KEUKEUTNDA>NKINDI",
    ">SUU>NGKUENZEUM>LAPAQ>LET KUT>NTAP MFAA>MAEKEUP>PASHAE>GHEUAERAE>PAMSHAE>MON NGGEUAET",
    ">NZUN MEUT>U YUQ NAE>GHEUAEGHEUAE>NTAP NTAA>SISA>MGBASA>MEUNJOMNDEUQ>MOOMPUQ>KAFA",
    ">PA LEERAEWA>NDA LEERAEWA>PET>MAEMKPEN>NIKA>PUP>TUAEP>LUAEP>SONJAM>TEUTEUWEN>MAENYI>KET",
    ">NDAANGGEUAET>KUOQ>MOOMEUT>SHUM>LOMMAE>FIRI>ROM>KPOQ>SOQ>MAP PIEET>SHIRAE>NTAP",
    ">SHOQ NSHUT YUM>NYIT MONGKEUAEQ>PAARAE>NKAARAE>UNKNOWN>NGGEN>MAESI>NJAM>MBANYI>NYET>TEUAEN",
    ">SOT>PAAM>NSHIEE>MAEM>NYI>KAQ>NSHA>VEE>LU>NEN>NAQ>MBAQ=-B NSHUET>TU MAEMGBIEE>SIEE>SET TU",
    ">LOM NTEUM>MBA MAELEE>KIEEM>YEURAE>MBAARAE>KAM>PEESHI>YAFU LEERAEWA>hbNSHUT NYAM",
    ">NTIEE SHEUOQ>NDU NJAA>GHEUGHEUAEM>PIT>TU NSIEE>SHET NJAQ>SHEUAEQTU>MFON TEUAEQ",
    ">MBIT MBAAKET>NYI NTEUM>KEUPUQ>GHEUGHEN>KEUYEUX>LAANAE>PARUM>VEUM>NGKINDI MVOP>NGGEU MBU",
    ">WUAET>SAKEUAE>TAAM>MEUQ>NGGUOQ?hd>MFIYAQ>SUE>MBEURI>MONTIEEN>NYAEMAE>PUNGAAM>MEUT NGGEET",
    ">FEUX>MBUOQ>FEE>KEUAEM>MA NJEUAENA?NJUQA>LET>NGGAAM>NSEN>MA>KIQ>NGOM=-C NGKUE MAEMBA>NZA",
    ">YUM>WANGKUOQ>NGGEN>NDEUAEREE>NGKAQ>GHARAE>MBEEKEET>GBAYI>NYIR MKPARAQ MEUN>NTU MBIT>MBEUM",
    ">PIRIEEN>NDOMBU>MBAA CABBAGE-TREE>KEUSHEUAEP>GHAP>KEUKAQ>YU MUOMAE>NZEUM>MBUE>NSEUAEN>MBIT",
    ">YEUQ>KPARAQ>KAA>SEUX>NDIDA>TAASHAE>NJUEQ>TITA YUE>SUAET>NGGUAEN NYAM>VEUX>NANSANAQ",
    ">MA KEUAERI>NTAA>NGGUON>LAP>MBIRIEEN>MGBASAQ>NTEUNGBA>TEUTEUX>NGGUM>FUE>NDEUT>NSA>NSHAQ",
    ">BUNG>VEUAEPEN>MBERAE>RU>NJAEM>hb>TITUAEP>NSUOT NGOM>NJEEEE>KET>NGGU>MAESI>MBUAEM>LU>KUT",
    ">NJAM>NGOM>WUP>NGGUEET>NSOM>NTEN>KUOP NKAARAE>NSUN>NDAM>MA NSIEE>YAA>NDAP>SHUEQ>SETFON>MBI",
    ">MAEMBA>MBANYI>KEUSEUX>MBEUX>KEUM>MBAA PICKET>YUWOQ>NJEUX>MIEE>MUAE>SHIQ>KEN LAW?FATIGUE",
    ">NGAQ>NAQ>LIQ>PIN>PEN>TET=-D MBUO>WAP>NJI>MFON>NJIEE>LIEE>NJEUT>NSHEE>NGGAAMAE>NYAM>WUAEN",
    ">NGKUN>SHEE>NGKAP>KEUAETMEUN>TEUT>SHEUAE>NJAP>SUE>KET>YAEMMAE>KUOM>SAP>MFEUT>NDEUX>MALEERI",
    ">MEUT>SEUAEQ>YEN>NJEUAEM>KEUOT MBUAE>NGKEURI>TU>GHAA>NGKYEE>FEUFEUAET>NDEE>MGBOFUM>LEUAEP",
    ">NDON>MONI>MGBEUN>PUUT>MGBIEE>MFO>LUM>NSIEEP>MBAA>KWAET>NYET>TEUAEN>SOT>YUWOQ>KEUM>RAEM",
    ">TEEEE>NGKEUAEQ>MFEUAE>NSIEET>KEUP>PIP>PEUTAE>NYUE>LET>NGGAAM>MFIEE>NGGWAEN>YUOM>PAP>YUOP",
    ">NDAM>NTEUM>SUAE>KUN>NGGEUX>NGKIEE>TUOT>MEUN>KUQ>NSUM>TEUN>MAENJET>NGGAP>LEUM>NGGUOM>NSHUT",
    ">NJUEQ>GHEUAE>KU>RENjg>TAE>TOQ>NYI>RII>LEEEE>MEEEE>M>SUU>MU>SHII>SHEUX>KYEE>NU>SHU>NTEE",
    ">PEE>NI>SHOQ>PUQ>MVOP>LOQ>REN MUCH>TI>NTUU>MBAAlh>SAQ>FAA=-E NDAP>TOON>MBEUM>LAP>VOM>LOON",
    ">PAA>SOM>RAQ>NSHUOP>NDUN>PUAE>TAM>NGKA>KPEUX>WUO>SEE>NGGEUAET>PAAM>TOO>KUOP>LOM>NSHIEE",
    ">NGOP>MAEM>NGKEUX>NGOQ>NSHUE>RIMGBA>NJEUX>PEEM>SAA>NGGURAE>MGBA>GHEUX>NGKEUAEM>NJAEMLI>MAP",
    ">LOOT>NGGEEEE>NDIQ>TAEN NTEUM>SET>PUM>NDAA SOFTNESS>NGGUAESHAE NYAM>YIEE>GHEUN>TUAE>YEUAE",
    ">PO>TUMAE>KEUAE>SUAEN>TEUAEQ>VEUAE>WEUX>LAAM>PU>TAAQ>GHAAMAE>NGEUREUT>SHEUAEQ>MGBEN>MBEE",
    ">NZAQ>NKOM>GBET>TUM>KUET>YAP>NYI CLEAVER>YIT>MFEUQ>NDIAQ>PIEEQ>YUEQ>LEUAEM>FUE>GBEUX>NGKUP",
    ">KET>MAE>NGKAAMI>GHET>FA>NTUM>PEUT>YEUM>NGGEUAE>NYIbg>NZUQ>POON>MIEE>FUET>NAE>MUAE>GHEUAE",
    ">FU I>MVI>PUAQ>NGKUM>KUT>PIET>NTAP>YEUAET>NGGUP>PA PEOPLE>FU CALL>FOM>NJEE>A>TOQ>O>I>LAQ",
    ">PA PLURAL>TAA>TAQ>NDAA MY HOUSE>SHIQ>YEUX>NGUAE>YUAEN>YOQ SWIMMING?COVER>YUQ>YUN>KEUX",
    ">PEUX>NJEE EPOCH>PUE>WUE>FEE>VEE>LU>MI>REUX>RAE>NGUAET>is>SHO>SHOQ>FU REMEDY>NA>PI>LOQ>KO",
    ">MEN>MA>MAQ>TEU>KI>MON>nf>FAQ>GHOM=-F KA>U>KU>EE>REE>TAE>NYI>LA>RII>RIEE>MEEEE>TAA>NDAA",
    ">NJAEM>M>SUU>SHII>SI>SEUX>KYEE>KET>NUAE>NU>NJUAE>YOQ>SHU>YA>NSHA>PEUX>NTEE>WUE>PEE>RU>NI",
    ">REUX>KEN>NGKWAEN>NGGA>SHO>PUAE>FOM>WA>LI>LOQ>KO>MBEN>REN>MA>MO>MBAA>TET>KPA>SAMBA>VUEQ:::",
    ":::::MROhnTA<NGI<YO<MIM<BA<DA<A<PHI<KHAI<HAO<DAI<CHU<KEAAE<OL<MAEM<NIN<PA<OO<O<RO<SHI<THEA",
    "<EA<WA<E<KO<LAN<LA<HAI<RI<TEK:;dspj<jj<oh<nn<fd<ey<lx<lh<ef<it::::;db;dzdb:TANGSAhnOZ<OC",
    "<OQ<OX<AZ<AC<AQ<AX<VZ<VC<VQ<VX<EZ<EC<EQ<EX<IZ<IC<IQ<IX<UZ<UC<UQ<UX<AWZ<AWC<AWQ<AWX<UIZ<UIC",
    "<UIQ<UIX<ewNG<htUEX<lqUEZ=AWX<UEC<UEZ<UEQ<UEX<UIUZ<UIUC<UIUQ<UIUX<MZ<MC<MQ<MX<KA<gw<GA<is",
    "<SA<YA<WA<PA<jd<jw<BA<MA<NA<HA<LA<HTA<TA<DA<RA<NHA<lk<CA<TSA<fi<HTTA<nh<XA<FA<dk<bx<ZA:",
    ";dspj<jj<oh<nn<fd<ey<lx<lh<ef<it:::::::BASSA VAHhnENNI=KA=SE=FA=MBE=YIE=GAH=DHII=KPAH=JO",
    "=HWAH=WA=ZO=GBU=DO=CE=UWU=TO=BA=VU=YEIN=PA=WADDA=A=O=OO=U=EE=E=I::<cifyns=huns=MIDns",
    "=LOW-MIDns=HIGH-LOWns<fgmp:::::::::::PAHAWH HMONGoxKEEB=KEEV=KIB=KIV=KAUB=KAUV=KUB=KUV=KEB",
    "=KEV=KAIB=KAIV=KOOB=KOOV=KAWB=KAWV=KUAB=KUAV=KOB=KOV=KIAB=KIAV=KAB=KAV=KWB=KWV=KAAB=KAAV",
    "<cmVAU=NTSAU=LAU=HAU=NLAU=RAU=NKAU=QHAU=YAU=HLAU=MAU=CHAU=NCHAU=HNAU=PLHAU=NTHAU=NAU=AU",
    "=XAU=CAU<ibCIM TUB>SO>KES>KHAV>SUAM>HOM>TAUM<luVOS THOM>TSHAB CEEB=CIM CHEEM=VOS THIAB",
    ">FEEM=XYEEM NTXIV>RHO>TOV>FAIB=VOS SEEV=MEEJ SUAB=VOS NRUA=IB YAM=XAUS=CIM TSOV ROG:::::::",
    ":::<dspj=jj=oh=nn=fd=ey=lx=lh=ef=it:<jbTENS=HUNDREDS=nfnm=MILLIONS=geMILLIONS=nfBILLIONS",
    "=TRILLIONS:<luVOS LUB=XYOO=HLI=THIRD-STAGE HLI=ZWJ THAJ=HNUB=NQIG=XIAB=NTUJ=AV=TXHEEJ CEEV",
    "=MEEJ TSEEB=TAU=LOS=MUS=CIM HAIS LUS NTOG NTOG>CUAM TSHOOJ>TXWV?CHWV>PUB DAWB>NRES TOS::::",
    ":<CLANluTSHEEJ>YEEG>LIS>LAUJ>XYOOJ>KOO>HAWJ>MUAS>THOJ>TSAB>PHAB>KHAB>HAM>VAJ>FAJ>YAJ>TSWB",
    ">KWM>VWJ"]⟩,
  ⟨0x16E40, [":MEDEFAIDRINbshnM=S=V=W=ATIU=Z=KP=P=T=G=F=I=K=A=J=E=B=C=U=YU=L=Q=HP=NY=X=D=OE=N=R",
    "=O=AI=Y;mchnM=S=V=W=ATIU=Z=KP=P=T=G=F=I=K=A=J=E=B=C=U=YU=L=Q=HP=NY=X=D=OE=N=R=O=AI=Y;dspj",
    "<jj<oh<nn<fd<ey<lx<lh<ef<it;jbnf<ELEVEN<of<THIRTEEN<FOURTEEN<eu<ly<li<eg<NINETEEN;dsjjakfa",
    "<ohakfa<nnakfa;cj;fgmp;mzAIVA;eqOH"]⟩,
  ⟨0x16F00, [":MIAOhnPA<BA<YI PA<PLA<MA<MHA<auMA<FA<VA<VFA<TA<DA<YIoa=TA<oa<df<NA<NHA<YIiv<auNA",
    "<iv<NNHA<LA<LYA<LHA<LHYA<TLHA<DLHA<TLHYA<DLHYA<KA<GA<YI KA<QA<QGA<is<NGHA<auis<HA<XA<fi",
    "<GHHA<TSSA<DZZA<jd<NYHA<TSHA<DZHA<YI TSHA=DZHA<REFORMED TSHA<lk<mn<ZHA<ZSHA<TSA<DZA<YI TSA",
    "<SA<ZA<ZSA<ZZA<ZZSA<auZZA<ZZYA<ZZSYA<WA<AH<HHA<BRI<SYI<DZYI<TE<TSE<RTE::::;lucmiibc",
    ";hnNASALIZATION;luASPIRATION<REFORMED VOICING=ASPIRATION;oxluA=AA=AHH=AN=ANG=O=OO=WO=W=E",
    "=EN=ENG=OEY=I=IA=IAN=IANG=IO=IE=II=IU=ING=U=UA=UAN=UANG=UU=UEI=UNG=Y=YI=AE=AEE=ERR",
    "=ROUNDED ERR=ER=ROUNDED ER=AI=EI=AU=OU=N=NG=UOG=YUI=OG=OER=VW=IG=EA=IONG=UI:::::::;nsks",
    "<nuks<ac<be;hnTONE-2=-3=-4=-5=-6=-7=-8<REFORMED TONE-1>-2>-4>-5>-6>-8"]⟩,
  ⟨0x16FE0, [":TANGUTgsib:NUSHUgsib:jgCHINESEgbib<gsib:KHITANmclcFILLER:::::::::::",
    ":VIETNAMESEakREADINGibCA>NHAY"]⟩,
  ⟨0x1AFF0, [":KATAKANAhnMINNAN TONE-2>-3>-4>-5:>-7>-8=NASALIZED TONE-1?-2?-3?-4?-5:?-7?-8:<auE",
    ":HIRAGANAhnauYE:HENTAIGANAhnA-1=-2=-3=-WO<I-1=-2=-3=-4<U-1=-2=-3=-4=-5<E-2=-3=-4=-5=-6<O-1",
    "=-2=-3<KA-1=-2=-3=-4=-5=-6=-7=-8=-9=-10=-11=-KE<KI-1=-2=-3=-4=-5=-6=-7=-8<KU-1=-2=-3=-4=-5",
    "=-6=-7<KE-1=-2=-3=-4=-5=-6<KO-1=-2=-3=-KI<SA-1=-2=-3=-4=-5=-6=-7=-8<SI-1=-2=-3=-4=-5=-6",
    "<SU-1=-2=-3=-4=-5=-6=-7=-8<SE-1=-2=-3=-4=-5<SO-1=-2=-3=-4=-5=-6=-7<TA-1=-2=-3=-4<TI-1=-2",
    "=-3=-4=-5=-6=-7<TU-1=-2=-3=-4=-TO<TE-1=-2=-3=-4=-5=-6=-7=-8=-9<TO-1=-2=-3=-4=-5=-6=-RA",
    "<NA-1=-2=-3=-4=-5=-6=-7=-8=-9<NI-1=-2=-3=-4=-5=-6=-7=-TE<NU-1=-2=-3<NE-1=-2=-3=-4=-5=-6",
    "=-KO<NO-1=-2=-3=-4=-5<HA-1=-2=-3=-4=-5=-6=-7=-8=-9=-10=-11<HI-1=-2=-3=-4=-5=-6=-7<HU-1=-2",
    "=-3<HE-1=-2=-3=-4=-5=-6=-7<HO-1=-2=-3=-4=-5=-6=-7=-8<MA-1=-2=-3=-4=-5=-6=-7<MI-1=-2=-3=-4",
    "=-5=-6=-7<MU-1=-2=-3=-4<ME-1=-2=-MA<MO-1=-2=-3=-4=-5=-6<YA-1=-2=-3=-4=-5=-YO<YU-1=-2=-3=-4",
    "<YO-1=-2=-3=-4=-5=-6<RA-1=-2=-3=-4<RI-1=-2=-3=-4=-5=-6=-7<RU-1=-2=-3=-4=-5=-6<RE-1=-2=-3",
    "=-4<RO-1=-2=-3=-4=-5=-6<WA-1=-2=-3=-4=-5<WI-1=-2=-3=-4=-5<WE-1=-2=-3=-4<WO-1=-2=-3=-4=-5",
    "=-6=-7<N-MU-MO-1?-2:HIRAGANAhnauWU:KATAKANAhnauYI=YE=WU"]⟩,
  ⟨0x1B150, [":HIRAGANAhnmcWI=WE=WO"]⟩,
  ⟨0x1B164, [":KATAKANAhnmcWI=WE=WO=N"]⟩,
  ⟨0x1BC00, [":DUPLOYANhnH<X<P<T<F<K<L<B<D<V<G<R<P N<D S<F N<K M<R S<TH<SLOAN DH<DH<KK<SLOAN J",
    "<HL<LH<RH<M<N<J<S<M N<N M<J M<S J<Mpddv<Npddv<Jpddv>dxgkanac<Spddv?be<M S<N S<J S<S S",
    "<M N S<N M S<J M S<S J S<J Spddv=N>S<S T>R=P>R<T S=R S<W<WH<W R<S N=M<K R S<G R S<S K>R<A",
    "<SLOAN OW<OA<O<AOU<I<E<IE<lqI<UI<EE<SLOAN EH<ROMANIAN I<SLOAN EE<htI<YE<U<EU<XW<U N<htU",
    "<ROMANIAN U<UH<SLOAN U<OOH<OW<OU<WA<WO<WI<WEI<WOW<NASAL U=O=I=A<PERNIN AN=AM<SLOAN EN=AN",
    "=ON<owM:::::;AFFIXhggcSECANT<MIDgcSECANT<ksgcSECANT<huorSECANT<MIDorSECANT<fyorSECANT",
    "<ATTACHED SECANT=LEFT-TO-RIGHT SECANT=TANGENT=nb=Egb=Igb=TANGENTgb:::<fyae=TIGHTae=fm=htfm",
    "=dv=cb=hq=oy=or:::::::<huae=TIGHTae=fm=htfm=dv=cb=hq=oy=or=aw::;luOpdcr;THICKhnSELECTOR",
    ";dzib;kgCHINOOKfgmp:SHORTHAND FORMAThnOVERLAP<CONTINUING OVERLAP<ebSTEP<UP STEP"]⟩,
  ⟨0x1CF00, [":ZNAMENNYciibGORAZDO NIZKO ShaONhg=NIZKO ShaONhg=TSATA ONhg=GORAZDO NIZKO ONhg",
    "=NIZKO ONhg=SREDNE ONhg=MALOkbONhg=kbONhg=VYSOKO ONhg=MALOkbS KHOKHLOM ONhg",
    "=kbS KHOKHLOM ONhg=VYSOKO S KHOKHLOM ONhg=GORAZDO NIZKO ShaONks=NIZKO ShaONks=TSATA ONks",
    "=GORAZDO NIZKO ONks=NIZKO ONks=SREDNE ONks=MALOkbONks=kbONks=VYSOKO ONks",
    "=MALOkbS KHOKHLOM ONks=kbS KHOKHLOM ONks=VYSOKO S KHOKHLOM ONks=TSATA Sha=MALOkbSha",
    "=STRANNO MALOkb=kbSha>STRANNO=VYSOKO Sha=MALOkbSTRANNO=GORAZDO VYSOKO=ZELO=ON=RAVNO",
    "=TIKHAYA=BORZAYA=UDARKA=PODVERTKA=LOMKA=KUPNAYA=KACHKA=ZEVOK=SKOBA=RAZSEKA=KRYZH ONhg::",
    "<TONAL RANGEibMRACHNO?SVETLO?TRESVETLO<ibZADERZHKA=DEMESTVENNY ZADERZHKA=OTSECHKA",
    "=PODCHASHIE>pdormr=CHASHKA>POLNAYA=OBLACHKO=SOROCHYA NOZHKA=TOCHKA=DVOETOCHIE",
    "<ATTACHINGorOMET<ibCURVED OMET=KRYZH<hvTONAL RANGEgi;PRIZNAKiiLEVEL-2>-3=DIRECTION FLIP",
    "=KRYZH=ROG:::::::::;NEUME KRYUK=TIKHY<PARAKLIT<DVA V CHELNU<KLYUCH<ZANOZHEK<STOPITSA",
    "=S OCHKOM<PEREVODKA=iq<STOPITSApdSOROCHYA NOZHKA<CHELYUSTKA<PALKA<pi<GOLUBCHIK BORZY=TIKHY",
    "=MRACHNY=SVETLY=TRESVETLY<VRAKHIYA PROSTAYA=MRACHNAYA=SVETLAYA=TRESVETLAYA=gyPROSTAYA",
    ">MRACHNAYA>SVETLAYA>TRESVETLAYA<dzpi<krCHELYUSTKA<DERBITSA<KHAMILO<CHASHKA<PODCHASHIE",
    "<SKAMEYTSA MRACHNAYA=SVETLAYA=TRESVETLAYA=TIKHAYA<DEMESTVENNY KLYUCH<SKAMEYTSAgySVETLAYA",
    "=KLYUCHENEPOSTOYANNAYA=gyTIKHAYA=DVOECHELNAYA PROSTAYA>SVETLAYA>iq>gy<SLOZHITIE=S ZAPYATOY",
    "=ZAKRYTOE=Sha<KRYZH<ROG<FITA<KOBYLA<ZMEYTSA<STATYA=S ZAPYATOY>ha>ZAPYATOY Iha>haI ZAPYATOY",
    "=ZAKRYTAYA>S ZAPYATOY=S ROGOM>DVUMYA ZAPYATYMI>ZAPYATOY I PODCHASHIEM<POLKULIZMY<STATYAiq",
    "<STRELA PROSTAYA=MRACHNOTIKHAYA=KRYZHEVAYA=POLUPOVODNAYA=POVODNAYA=iq=KLYUCHEPOVODNAYA",
    "=KLYUCHENEPOSTOYANNAYA=TIKHAYA PUTNAYA=DVOECHELNAYA=DVOECHELNOKRYZHEVAYA",
    "=DVOECHELNOPOVODNAYA=DVOECHELNAYAgy=DVOECHELNOPOVODNAYAgy=GROMNAYApdlwpi",
    "=GROMOPOVODNAYApdlwpi=GROMNAYA=GROMOPOVODNAYA>pddzpi=GROMOKRYZHEVAYA>POVODNAYA<MECHIK",
    "=POVODNY=KLYUCHEVOY=KLYUCHEPOVODNY=KLYUCHENEPOSTOYANNY<STRELA TRYASOGLASNAYA",
    "=TRYASOPOVODNAYA=TRYASOSTRELNAYA<OSOKA=SVETLAYA=TRESVETLAYA=KRYUKOVAYA SVETLAYA=gySVETLAYA",
    ">iq<STRELA KRYUKOVAYA>POVODNAYA>GROMNAYApdlwpi>GROMOPOVODNAYApdlwpi>GROMNAYA",
    ">GROMOPOVODNAYA?pddzpi>GROMOKRYZHEVAYA?POVODNAYA>TRYASKA<KUFISMA<OBLAKO<DUDA<NEMKA<PAUK"]⟩]

end TripleIndex
