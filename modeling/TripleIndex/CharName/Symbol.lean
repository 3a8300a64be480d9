import TripleIndex.CharName.Run

/-!
Names of the punctuation, signs, arrows and shapes, and of the letters among them, from U+2000
to U+2FFF.
-/

namespace TripleIndex

def symbolNames : List NameRun := [
  ⟨0x2000, [":EN QUAD:EM QUAD:ENmh:EMmh:THREE-PER-EMmh:FOUR-PER-EMmh:SIX-PER-EMmh:FIGUREmh:kgmh",
    ":THINmh:HAIRmh:pjWIDTHmh<NON-JOINER<JOINER:LEFT-TO-RIGHTib:RIGHT-TO-LEFTib:HYPHEN",
    ":NON-BREAKING HYPHEN:FIGUREdc:ENdc:EMdc:gcbc:dzorhq;huhq:hglwknib:kslwknib:lwLOW-9knib",
    ";HIGH-REVERSED-9knib:hgdzknib:ksdzknib:dzLOW-9knib;HIGH-REVERSED-9knib:DAGGER:dzDAGGER:bo",
    ":nybo:jjdvLEADER:ohdvLEADER:gcELLIPSIS:HYPHENATION POINT:hqlg:PARAGRAPHlg",
    ":LEFT-TO-RIGHT EMBEDDING:RIGHT-TO-LEFT EMBEDDING:POP DIRECTIONAL FORMATTING",
    ":LEFT-TO-RIGHT OVERRIDE:RIGHT-TO-LEFT OVERRIDE:NARROW NO-BREAKmh:PER MILLElu;nfnllu:PRIME",
    ":dzPRIME:nzPRIME:krPRIME;dzPRIME;nzPRIME:CARET:lwhhaoknib;ktaoknib:REFERENCEib:dzeqib",
    ":INTERROBANG:OVERLINE:UNDERTIE:byTIE:CARET INSERTION POINT:ASTERISM:HYPHENbo:femb",
    ":hgmlbmpdQUILL:ksmlbmpdQUILL:dzkmib:kmeqib:eqkmib:TIRONIANluET:krPILCROWlu:bihjbo;kubo",
    ":huba:krlf:CLOSE UP:ohASTERISKS ALIGNEDos:COMMERCIALihlu:SWUNGdc:goUNDERTIE:FLOWERkgib",
    ":nndvkg:kiPRIME:fddvkg:eydvkg:ohdvkg:fddvib:dycr:TRICOLON:orfddx:ieicmh:WORD JOINER",
    ":FUNCTION APPLICATION:INVISIBLEnr;lg;jy::LEFT-TO-RIGHT ISOLATE:RIGHT-TO-LEFT ISOLATE",
    ":FIRST STRONG ISOLATE:POP DIRECTIONAL ISOLATE:INHIBIT SYMMETRIC SWAPPING",
    ":ACTIVATE SYMMETRIC SWAPPING:INHIBITasfaSHAPING:ACTIVATEasfaSHAPING:NATIONALdsSHAPES",
    ":NOMINALdsSHAPES:mvpj;hemchnI::;fd;ey;lx;lh;ef;it;jylu;ih;enlu;hgjt;ksjt;hemchnN",
    ":SUBSCRIPTpj;jj;oh;nn;fd;ey;lx;lh;ef;it;jylu;ih;enlu;hgjt;ksjt::heSUBSCRIPTmchnA>E>O>X",
    ">SCHWA>H>K>L>M>N>P>S>T::::EURO-CURRENCYlu:chlu:CRUZEIROlu:FRENCH FRANClu:LIRAlu:MILLlu",
    ":NAIRAlu:PESETAlu:RUPEElu:WONlu:NEW SHEQELlu:DONGlu:EUROlu:KIPlu:TUGRIKlu:DRACHMAlu",
    ":GERMAN PENNYlu:PESOlu:GUARANIlu:AUSTRALlu:HRYVNIAlu:CEDIlu:LIVRE TOURNOISlu:SPESMILOlu",
    ":TENGElu:INDIAN RUPEElu:TURKISH LIRAlu:NORDICiblu:MANATlu:RUBLElu:LARIlu:BITCOINlu:SOMlu"]⟩,
  ⟨0x20D0, [":cihgfuac;ksfuac;htorhqjq;lqorhqjq;apawac;cfawac;hgawac;ksawac;kvjq;cfkvjq;apkvjq",
    ";nndxac;fddxac;ENCLOSINGcb<ml<dp<cbBACKSLASH;hgksawac;ENCLOSING SCREEN<KEYCAP<UPWARDkanw",
    ";kqmejq;dzormrjq;ANNUITYmz;nzUNDERDOT;WIDE BRIDGEac;hjawjq;htdzmejq;kufupdbded;hjfupdbded",
    ";hgawbe;ksawbe;baac"]⟩,
  ⟨0x2100, [":ACCOUNT OF:ADDRESSED TOniSUBJECT:eabsC:DEGREE CELSIUS:bwhqmz:CARE OF:CADA UNA",
    ":EULER CONSTANT:SCRUPLE:DEGREE FAHRENHEIT:lcmcG;bsH:BLACK-LETTERbsH:eabsH:PLANCK CONSTANT",
    "<joohPI:lcbsI:BLACK-LETTERbsI:lcbsL;mcL:L Bbcmz:eabsN:NUMEROlu:mfRECORDING COPY",
    "RIGHT:lcbsP:eabsP=Q:lcbsR:BLACK-LETTERbsR:eabsR:PRESCRIPTION TAKE:RESPONSE:SERVICEib:nelu",
    ":TRADEiblu:VERSICLE:eabsZ:OUNCElu:OHMlu:goOHMlu:BLACK-LETTERbsZ:ocfomchngp:KELVINlu",
    ":ANGSTROMlu:lcbsB:BLACK-LETTERbsC:ESTIMATEDmz:lcmcE;bsE<F:ocbsF:lcbsM;mcO:afmz:BETmz:fkmz",
    ":DALETmz:INFORMATION SOU",
    "RCE:kxbsQ:FACSIMILElu:eamcPI=fh<bsfh=PI<N-ARY SUMMATION:oclbbsG>L:krlbbsL:oclbbsY",
    ":eaITALICbsD=mcD>E>I>J:PROPERTYhq:ocam:PERlu:AKTIESELSKAB:ocmcF:mzezSAMARITAN SOU",
    "RCE:VULGARfejjSEVENTH=NINTH=TENTH=THIRD<ohTHIRDS<jjFIFTH<ohFIFTHS<nnFIFTHS<fdFIFTHS",
    "<jjSIXTH<eySIXTHS<jjeh<nnei<eyei<lhei:feNUMERATORjj:ROMAN NUMERALjj<oh<nn<fd<ey<lx<lh<ef",
    "<it<nf<ELEVEN<of<ev<jjge<eyge<jjnl:mcROMAN NUMERALjj=oh=nn=fd=ey=lx=lh=ef=it=nf=ELEVEN=of",
    "=ev=jjge=eyge=jjnl:ROMAN NUMERALjjnlC D<eynl<nfnl<krjjge:hemchnkrC:ROMAN NUMERALlxLATEfa",
    "<evEARLYfa=nl<jjgenl:VULGARfepjTHIRDS:ocdsoh<nn:::::hjaw:ooaw:kuaw:edaw:hgksaw:UPebaw",
    ":ixpaaw;eeaw:mgeeaw;paaw:hjawpdmr:kuawpdmr:hjoyaw:kuoyaw:hjohHEADEDaw:ooohHEADEDaw",
    ":kuohHEADEDaw:edohHEADEDaw:hjawpdnb:kuawpdnb:hjawffbc:ooawffbc:kuawffbc:edawffbc",
    ":UPebawpdBASE:hjawpdgb:kuawpdgb:hjawpdLOOP:kuawpdLOOP:hgksoyaw<awpdmr:edZIGZAGaw",
    ":ooawpdTIPhj>ku:edawpdTIPhj>ku:kuawpdcped:edawpdcphj:apnuSEMICIRCLEaw:cfnuSEMICIRCLEaw",
    ":ixpaawTOhtbc:hjawTObcjokuawTObc:apjkcbaw:cfjkcbaw:hjfupdbdoo>ed:oofupdbdku>hj:kufupdbdoo",
    ">ed:edfupdbdku>hj:kuawjohjaw:ooawhjOFedaw:hjawjokuaw;PAIREDay:ooPAIREDay:kuPAIREDay",
    ":edPAIREDay:hjfujokufu:kufujohjfu:hjdzawpdmr:hgksdzawpdmr:kudzawpdmr:hjdzaw:oodzaw:kudzaw",
    ":eddzaw:hgksdzaw:UPebdzaw:ixpadzaw;eedzaw:mgeedzaw;padzaw:hjnzaw:kunzaw:hjSQUIGGLEaw",
    ":kuSQUIGGLEaw:ooawpddzmr:edawpddzmr:hjddaw:ooddaw:kuddaw:edddaw:hjawTObc:kuawTObc:hjpcaw",
    ":oopcaw:kupcaw:edpcaw:oopcawffbc=ON PEDESTAL?pdgcbc@orbc<dzaw>ON PEDESTAL:kupcawffWALL",
    ":ixpaawTOcp:mgeeawTOcp:UPebpcaw:ksawpdmccb:edawhjOFooaw:nnkuay:hjawpdormr:kuawpdormr",
    ":hgksawpdormr:hjawpddzormr:kuawpddzormr:hgksawpddzormr:hjOPEN-HEADEDaw:kuOPEN-HEADEDaw",
    ":hgksOPEN-HEADEDaw:ezALL:COMPLEMENT:PARTIALdr:THERE EXISTS;DOESiyEXIST:EMPTY SET:INCREMENT",
    ":NABLA:ELEMENT OF:iyAN ELEMENT OF:mcELEMENT OF:CONTAINS AS MEMBER:DOESiyCONTAIN AS MEMBER",
    ":mcCONTAINS AS MEMBER:END OF PROOF:N-ARYkd<COPRODUCT<SUMMATION:ihlu;-OR-PLUSlu:dvjy",
    ":DIVISIONmb:SETih:bajl:kvjl:bojl:mlROOT:CUBE ROOT:FOURTH ROOT:PROPO",
    "RTIONAL TO:INFINITY:ksao:ao:MEASUREDao:SPHERICALao:DIVIDES:DOESiyDIVIDE:PARALLEL TO",
    ":iyPARALLEL TO:hsan;OR:gn:ok:gm:dzgm:nzgm:CONTOURgm:SURFACEgm:VOLUMEgm:cfgm;CONTOURgm",
    ":apCONTOURgm:THEREFORE:BECAUSE:RATIO:PROPO",
    "RTION:dvih:EXCESS:GEOMETRIC PROPO",
    "RTION:HOMOTHETIC:nqjl:krnq:goLAZY S:SINEoy:WREATHkd:iynq:ihnq:ASYMPTOTICALLYemTO",
    ":iyASYMPTOTICALLYemTO:APPROXIMATELYemTO;BUTiyACTUALLYemTO",
    ":NEITHER APPROXIMATELY NOR ACTUALLYemTO:ahemTO:iyahemTO:ahemORemTO:nznq:ALLemTO:epTO",
    ":GEOMETRICALLYepTO:DIFFERENCEbg:APPROACHESniLIMIT:GEOMETRICALLYemTO",
    ":APPROXIMATELYemTO ORniIMAGE OF:IMAGE OF OR APPROXIMATELYemTO:chen:ench:kvINemTO;emTO",
    ":CORRESPONDS TO:ESTIMATES:EQUIANGULAR TO:moen:diemTO:emTO BY DEFINITION:MEASURED BY",
    ":QUESTIONEDemTO:iyemTO:IDENTICAL TO:iyIDENTICAL TO:STRICTLYepTO:hmORemTO:fnORemTO:hmjoemTO",
    ":fnjoemTO:hmBUTiyemTO:fnBUTiyemTO:MUCHhm;fn:bg:iyepTO;hm;fn:NEITHERhmNORemTO;fnNORemTO",
    ":hmORepTO:fnORepTO:NEITHERhmNORepTO;fnNORepTO:hmORfn:fnORhm:NEITHERhmNORfn;fnNORhm:kc:mu",
    ":kcORemTO:muORemTO:kcORepTO:muORepTO:DOESiyPRECEDE<SUCCEED:msOF:mwOF:iyAmsOF<mwOF",
    ":msOF ORemTO:mwOF ORemTO:NEITHER AmsOF NORemTO<mwOF NORemTO:msOFpdiyemTO:mwOFpdiyemTO",
    ":MULTISET;in;ok:mlIMAGE OF;ORIG",
    "INAL OF;IMAGE OF ORemTO;ORIG",
    "INAL OF ORemTO;CAP;CUP:ccjy;ih;nr;DIVISIONmb;dvjl;kvjl;bajl;en;dc:mmjy;ih;nr;dvjl:ksna",
    ":hgna:ebna:UPna:ASSERTION:MODELS:TRUE:FORCES:nzorbcksod:dzorbcdzksod:DOESiyPROVE:iyTRUE",
    ":DOESiyFORCE:NEGATEDdzorbcdzksod:kcUNDER RELATION:muUNDER RELATION:NORMAL SUBGROUP OF",
    ":CONTAINS AS NORMAL SUBGROUP:NORMAL SUBGROUP OF ORemTO:CONTAINS AS NORMAL SUBGROUP ORemTO",
    ":ORIG",
    "INAL OF:IMAGE OF:MULTIMAP:HERMITIAN CONJUGATE MATRIX:INTERCALATE:XOR:NAND:NOR:ksaopdARC;nw",
    ":N-ARYhsan=OR<gn<ok:dpjl:dvjl:mojl:DIVISIONnr:BOWTIE:hgNORMAL FACTOR SEMIDIRECTkd",
    ":ksNORMAL FACTOR SEMIDIRECTkd:hgSEMIDIRECTkd:ksSEMIDIRECTkd:krnqen:cxhsOR<an:dzms;mw;gn;ok",
    ":PITCHFORK:emanPARALLEL TO:hmpddv:fnpddv:otMUCHhm<fn:hmemTO ORfn:fnemTO ORhm:emTO ORhm=fn",
    "=kc=mu:DOESiyPRECEDE ORem<SUCCEED ORem:iymlIMAGE OF ORemTO<ORIG",
    "INAL OF ORemTO:mlIMAGE OF ORiyemTO;ORIG",
    "INAL OF ORiyemTO:hmBUTiyepTO:fnBUTiyepTO:kcBUTiyepTO:muBUTiyepTO:iyNORMAL SUBGROUP OF",
    ":DOESiyCONTAIN AS NORMAL SUBGROUP:iyNORMAL SUBGROUP OF ORemTO",
    ":DOESiyCONTAIN AS NORMAL SUBGROUP ORem:orELLIPSIS:MIDLINEgcELLIPSIS:UPksdmELLIPSIS",
    ":ebksdmELLIPSIS:ELEMENT OFpdhtgcmr=orbcAT END OFgcmr:mcELEMENT OFpdorbcAT END OFgcmr",
    ":ELEMENT OFpddvac=jp:mcELEMENT OFpdjp:ELEMENT OFpdoj=ohgcSTROKES:CONTAINSpdhtgcmr",
    "<orbcAT END OFgcmr:mcCONTAINSpdorbcAT END OFgcmr:CONTAINSpdjp:mcCONTAINSpdjp",
    ":Z NOTA",
    "TION BAG MEMBERSHIP:DIAMETERlu:ELECTRICaw:HOUSE:UPax:ebax:PROJECTIVE:PERSPECTIVE:WAVYhq",
    ":hgCEILING:ksCEILING:hgFLOOR:ksFLOOR:blksCROP;hgCROP:nuksCROP;hgCROP:kriylu:mlhw:ARC",
    ":SEGMENT:SECTOR:neRECORDER:POSITIONgi:VIEWDATAml:PLACE OF INTERESTlu:ociylu:WATCH",
    ":HOURGLASS:nuhgcp;kscp:blhgcp;kscp:nufrgm:blfrgm:FROWN:SMILE:UPaxbgohgcBARS:OPTION KEY",
    ":ERASE TOniks:X IN A RECTANGLE BOX:KEYBOARD:hhaobm:ktaobm:ERASE TOnihg:BENZENEkv",
    ":CYLINDRICITY:ALL AROUND-PROFILE:SYMMETRY:TOTAL RUNOUT:DIMENSION ORIGIN:CONICAL TAPER",
    ":SLOPE:COUNTERBORE:COUNTERSINK:APL FUNCTIONALmzI-BEAM=SQUISH QUAD=QUADem>DIVIDE>dp>JOT>cb",
    "=cbSTILE>JOT=mbbc=BACKSLASHbc=QUADmb>BACKSLASH>hm>fn=hjVANE=kuVANE=QUADhjaw>kuaw",
    "=cbBACKSLASH=ebnaoj=diSTILE=QUADebCARET>di=ebnaJOT=ooVANE=QUADooaw=UPnajp=DEL STILE",
    "=QUAD UP CARET>DEL=UPnaJOT=edVANE=QUADedaw=QUOTEoj=dioj=dpoj=JOToj=cboj=UP SHOE JOT",
    "=QUOTE QUAD=cbmo=QUADch=UPnadl=DELdl=modl=JOTdl=cbdl=ebSHOE STILE=hgSHOE STILE=nqdl=fndl",
    "=cjbc=DELnq=ZILDE=STILEnq=lfoj=QUADiyem>km=ebCARETnq=UP CARETnq=gp=RHO=jh=ajoj=eloj=gpoj",
    "=jhoj=aj:iyCHECKib:ksaopdedZIGZAGaw:SHOULDEREDjkBOX:BELLmz:orhqpdigdv:INSERTIONmz",
    ":CONTINUOUS UNDERLINEmz:DISCONTINUOUS UNDERLINEmz:EMPHASISmz:COMPOSITIONmz:pcmlpdbworhq",
    ":ENTERmz:ALTERNATIVE KEYmz:HELMmz:ccgcbcpdNOTCH;nweb:BROKENcbpdNORTHWESTaw:UNDOmz",
    ":MONOSTABLEmz:HYSTERESISmz:OPEN-CIRCUIT-OUTPUT H-TYPEmz=L-TYPEmz",
    ":PASSIVE-PULL-DOWN-OUTPUTmz<-UP-OUTPUTmz:DIRECT CURRENTmzfaoh:SOFTWARE-FUNCTIONmz",
    ":APL FUNCTIONALmzQUAD:DECIMALlgKEYmz:PREVIOUS PAGE:NEXT PAGE:PRINT SCREENmz:CLEAR SCREENmz",
    ":hgjtomgb<er<hvgb:ksjtomgb<er<hvgb:hgmlbmomcp=er=hvcp:ksmlbmomcp=er=hvcp:hgcxbmomgb",
    "=igPIECE=hvgb:cxbmer:kscxbmomgb=igPIECE=hvgb:gmer:gchqer:omhgORhvkscxbmld;ksORhvhgcxbmld",
    ":SUMMATIONnu;bl:numlbm:blmlbm=jonumlbm:RADICALmzbl:hgorBOXhq:ksorBOXhq:gcSCAN LINE-1=-3=-7",
    "=-9:DENTISTRYmzhporannuks?blks>pdcb=ebangcpdcb=UPangcpdcb=orpdnw=ebangcpdnw=UPangcpdnw",
    "=oranoy=ebangcpdoy=UPangcpdoy=ebangc=UPangc=orannuhg?blhg:mlFOOT:RETURNmz:EJECTmz:orhqer",
    ":METRICALbn;htjolq;lqjoht;htjoohSHORTS;ohSHORTSjoht=JOINED;TRISEME;TETRASEME;PENTASEME",
    ":EARTH GROUND:FUSE:nujt:bljt:nucxbm:blcxbm:nunvlobm:blnvlobm:pcTRAPEZIUM:BENZENEkvpdcb",
    ":STRAIGHTNESS:FLATNESS:AC CURRENT:ELECTRICALgn:DECIMAL EXPONENTmz:biktdznw;hhdznw;oldznw",
    ";ecdznw;ktdznwpdorbc;hhdznwpdorbc;ktnwpddzorbc:ALARM CLOCK:STOPWATCH:TIMER CLOCK",
    ":HOURGLASSpdFLOWING SAND:biiehhnw<ktnw<olnw<ecnw:dzorbc:bimlezmp;cbezRECORD:POWERmz",
    ";ON-OFFmz<mz;SLEEPmz:OBSERVER EYEmz:mzezNULL<START OF HEADING>TEXT<END OF TEXT",
    ">TRANSMISSION<ENQUIRY<ACKNOWLEDGE<BELL<BACKSPACE<gcTABULATION<hqFEED<orTABULATION<faFEED",
    "<CARRIAGE RETURN<SHIFT OUT=IN<DATA LINK ESCAPE<DEVICE CONTROLjj>oh>nn>fd<ipACKNOWLEDGE",
    "<SYNCHRONOUS IDLE<END OF TRANSMISSIONbj<CANCEL<END OFie<SUBSTITUTE<ESCAPE<FILElg<GROUPlg",
    "<RECORDlg<UNITlg<mh<DELETE:BLANKmz:jkBOX:mzezNEWLINE<DELETEfaoh<SUBSTITUTEfaoh"]⟩,
  ⟨0x2440, [":OCRgb;CHAIR;FORK;goFORK;BELT BUCKLE;BOW TIE;BRANCH BANK IDENTIFICATION",
    ";AMOUNT OF CHECK;dc;CUSTOMER ACCOUNTjb;dzBACKSLASH"]⟩,
  ⟨0x2460, [":ccdsjj<oh<nn<fd<ey<lx<lh<ef<it;jbnf<ELEVEN<of<THIRTEEN<FOURTEEN<eu<ly<li<eg",
    "<NINETEEN<og:PARENTHESIZEDdsjj<oh<nn<fd<ey<lx<lh<ef<it;jbnf<ELEVEN<of<THIRTEEN<FOURTEEN<eu",
    "<ly<li<eg<NINETEEN<og:dsjjfgmp;ohfgmp;nnfgmp;fdfgmp;eyfgmp;lxfgmp;lhfgmp;effgmp;itfgmp",
    ":jbnffgmp;ELEVENfgmp;offgmp;THIRTEENfgmp;FOURTEENfgmp;eufgmp;lyfgmp;lifgmp;egfgmp",
    ";NINETEENfgmp;ogfgmp:PARENTHESIZEDhemchnA>B>C>D>E>F>G>H>I>J>K>L>M>N>O>P>Q>R>S>T>U>V>W>X>Y",
    ">Z:cchebshnA>B>C>D>E>F>G>H>I>J>K>L>M>N>O>P>Q>R>S>T>U>V>W>X>Y>Z<mchnA>B>C>D>E>F>G>H>I>J>K>L",
    ">M>N>O>P>Q>R>S>T>U>V>W>X>Y>Z;dspj:ipccjbELEVEN=of=THIRTEEN=FOURTEEN=eu=ly=li=eg=NINETEEN",
    "=og:dzccdsjj=oh=nn=fd=ey=lx=lh=ef=it<jbnf:ipccdspj:BOX DRAWINGShpgc<fxgc<hpor<fxor",
    "<hpnzdcgc<fxnzdcgc<hpnzdcor<fxnzdcor<hpkidcgc<fxkidcgc<hpkidcor<fxkidcor<hpebanks",
    "<ebhpanksfx=fxankshp<fxebanks<hpebanhg<ebhpanhgfx=fxanhghp<fxebanhg<hpUPanks<UPhpanksfx",
    "=fxankshp<fxUPanks<hpUPanhg<UPhpanhgfx=fxanhghp<fxUPanhg<hporanks<orhpanksfx<UPfxanksebhp",
    "<ebfxanksUPhp<orfxankshp<ebhpanksUPfx<UPhpanksebfx<fxoranks<hporanhg<orhpanhgfx",
    "<UPfxanhgebhp<ebfxanhgUPhp<orfxanhghp<ebhpanhgUPfx<UPhpanhgebfx<fxoranhg<hpebangc",
    "<hgfxanksebhp<ksfxanhgebhp<ebhpangcfx=fxangchp<kshpanhgebfx<hghpanksebfx<fxebangc<hpUPangc",
    "<hgfxanksUPhp<ksfxanhgUPhp<UPhpangcfx=fxangchp<kshpanhgUPfx<hghpanksUPfx<fxUPangc<hporangc",
    "<hgfxanksorhp<ksfxanhgorhp<orhpangcfx<UPfxanebgchp<ebfxanUPgchp<orfxangchp<hgUPfxanksebhp",
    "<ksUPfxanhgebhp<hgebfxanksUPhp<ksebfxanhgUPhp<ebhpanUPgcfx<UPhpanebgcfx<kshpanhgorfx",
    "<hghpanksorfx<fxorangc<hpdzdcgc<fxdzdcgc<hpdzdcor<fxdzdcor<dzgc=or<eblwanksdz=dzankslw",
    "<dzebanks<eblwanhgdz=dzanhglw<dzebanhg<UPlwanksdz=dzankslw<dzUPanks<UPlwanhgdz=dzanhglw",
    "<dzUPanhg<orlwanksdz=dzankslw<dzoranks<orlwanhgdz=dzanhglw<dzoranhg<eblwangcdz=dzangclw",
    "<dzebangc<UPlwangcdz=dzangclw<dzUPangc<orlwangcdz=dzangclw<dzorangc<hpARCebanks@hg>UPanhg",
    "@ks=dmomksTOhvhg?hgTOhvks>cr=hg=UP=ks=eb<fxhg=UP=ks=eb<hphganfxks=UPanfxeb<fxhganhpks",
    "=UPanhpeb:omfrbj:hvjjehbj<kjbj;nneibj;frbj;eyeibj;nnkkbj;lheibj:fgbj:hglheibj;nnkkbj",
    ";eyeibj;frbj;nneibj;jjkjbj<ehbj:ksfrbj:hpSHADE:ieSHADE:DARK SHADE:omjjehbj:ksjjehbj:khhvhg",
    "<ks;omhg=anhvhganhvks?ks>omksanhvhg@anhvks<ks=anhvhg@anhvks:biml:pcml<pdROUNDED CORNERS",
    "<cnbimcml:mlpdgcFILL<orFILL<ORTHOGONAL CROSSHATCH FILL<omhgTOhvksFILL=ksTOhvhgFILL",
    "<dmCROSSHATCH FILL:bimcml:pcmcml:biRECTANGLE:pcRECTANGLE:biorRECTANGLE:pcorRECTANGLE",
    ":biPARALLELOGRAM:pcPARALLELOGRAM:biolnw:pcolnw:biolmcnw:pcolmcnw:biktnw:pcktnw:biktmcnw",
    ":pcktmcnw:biktPOINTER:pcktPOINTER:biecnw:pcecnw:biecmcnw:pcecmcnw:bihhnw:pchhnw:bihhmcnw",
    ":pchhmcnw:bihhPOINTER:pchhPOINTER:bidp:pcdp<cnbimcdp:FISHEYE:hw:pccb:dycb:cbpdorFILL",
    ":BULLSEYE:bicb:cbpdhgfrbi<ksfrbi<hvfrbi<omfrbi=kskhbi<ALL BUTomhgkhbi:hgfrbicb:ksfrbicb",
    ":INVERSEbo;pccb:omfrINVERSEpccb:hvfrINVERSEpccb:omhgkhCIRCULAR ARC;kskhCIRCULAR ARC",
    ":hvkskhCIRCULAR ARC;hgkhCIRCULAR ARC:omfrcb:hvfrcb:bihvksnw<hgnw;omhgnw<ksnw:pcbo",
    ":mlpdhgfrbi<ksfrbi<omhgdmfrbi<hvksdmfrbi:pcmlpdorBISECTINGhq;olnwpddv:olnwpdhgfrbi>ksfrbi",
    ":hdcb:pcmlpdomhgkh=hvhgkh>kskh=omkskh;cbpdomhgkh=hvhgkh>kskh=omkskh:omhgnw;ksnw:hvhgnw",
    ":pcieml:biieml:pciemcml:biiemcml:hvksnw:biSUNpdRAYS:CLOUD:UMBRELLA:SNOWMAN:COMET:bimo:pcmo",
    ":LIGHTNING:THUNDERSTORM:SUN:ASCENDING NODE:DESCENDING NODE:CONJUNCTION:OPPOSITION:bine",
    ":pcne:BALLOT BOX<pdCHECK=X:kz:UMBRELLApdRAIN DROPS:HOT BEVERAGE:pcSHOGI PIECE",
    ":biSHOGI PIECE:SHAMROCK:krkxFLORALfvbo:bihgkagh;kskagh:pchgkagh;UPkagh;kskagh;ebkagh",
    ":SKULLanCROSSBONES:CAUTIONlu:RADIOACTIVElu:BIOHAZARDlu:CADUCEUS:ANKH:ORTHODOXcr:CHI RHO",
    ":crOF LORRAINE<JERUSALEM:moanCRESCENT:FARSImz:ADI SHAKTI:HAMMERanSICKLE:PEACEmz:YIN YANG",
    ":TRIGRAMezHEAVEN<LAKE<FIRE<THUNDER<WIND<WATER<MOUNTAIN<EARTH:WHEEL OF DHARMA:pcFROWNINGet",
    ";mdet:bimdet:pcSUNpdRAYS:FIRSTkjij:LASTkjij:MERCURY:FEMALElu:EARTH:MALElu:JUPITER:SATURN",
    ":URANUS:NEPTUNE:PLUTO:ARIES:TAURUS:GEMINI:CANCER:LEO:VIRGO:LIBRA:SCORPIUS:SAGITTARIUS",
    ":CAPRICORN:AQUARIUS:PISCES:pccaKING<kl<ROOK<BISHOP<gz<PAWN:bicaKING<kl<ROOK<BISHOP<gz<PAWN",
    ";SPADE SUIT:pcfvSUIT;dpSUIT:biCLUB SUIT:pcSPADE SUIT:bifvSUIT;dpSUIT:pcCLUB SUIT",
    ":HOT SPRINGS:kjNOTE:ehNOTE:BEAMEDehNOTES;SIXTEENTH NOTES:MUSIC FLATlu;NATURALlu;SHARPlu",
    ":paSYRIACcr:eeSYRIACcr:UNIVERSAL RECYCLINGmz:RECYCLINGmzezTYPE-1 PLASTICS>-2 PLASTICS",
    ">-3 PLASTICS>-4 PLASTICS>-5 PLASTICS>-6 PLASTICS>-7 PLASTICS=GENERIC MATERIALS",
    ":biUNIVERSAL RECYCLINGmz:RECYCLED PAPERmz:PARTIALLY-RECYCLED PAPERmz:PERMANENT PAPERlu",
    ":WHEELCHAIRmz:DIE FACE-1<-2<-3<-4<-5<-6:pccbpddvks=ohdx:bicbpdpcdvks=ohpcdx:MONOGRAMezYANG",
    "<YIN:DIGRAMezGREATER YANG<LESSER YIN=YANG<GREATER YIN:pcFLAG:biFLAG:HAMMERanPICK:ANCHOR",
    ":csSWORDS:STAFF OF AESCULAPIUS:SCALES:ALEMBIC:FLOWER:GEAR:STAFF OF HERMES:ATOMmz",
    ":FLEUR-DE-LIS:OUTLINEDpcmo:nnLINES CONVERGINGks=hg:WARNINGlu:fyVOLTAGElu:DOUBLED FEMALElu",
    ";MALElu:INTERLOCKED FEMALEanMALElu:MALEanFEMALElu;pdmrlu=anMALEanFEMALElu:orMALEpdmrlu",
    ":gcMALEpdmrlu:iepccb;bicb;mcpccb:MARRIAGEmz:DIVORCEmz:UNMARRIED PARTNERSHIPmz:COFFIN",
    ":FUNERAL URN:NEUTER:CERES:PALLAS:JUNO:VESTA:CHIRON:biijLILITH:SEXTILE:SEMISEXTILE:QUINCUNX",
    ":SESQUIQUADRATE:SOCCER BALL:BASEBALL:mmKEY:pcDRAUGHTS MAN<KING:biDRAUGHTS MAN<KING",
    ":SNOWMAN WITHOUT SNOW:SUN BEHIND CLOUD:RAIN:biSNOWMAN:THUNDER CLOUDanRAIN:ocpcSHOGI PIECE",
    ";biSHOGI PIECE:pcdpINml:cuLANES:DISABLED CAR:OPHIUCHUS:PICK:CAR SLIDING:HELMETpdpccr",
    ":cccuLANES:CHAINS:NO ENTRY:akONE-WAYhgWAY TRAFFIC:biTWO-WAYhgWAY TRAFFIC",
    ":pcTWO-WAYhgWAY TRAFFIC:bihgLANE MERGE:pchgLANE MERGE:DRIVE SLOWlu:fxpcecnw:hgcgENTRY:mmkz",
    ":FALLINGdmINpccbINbiml:biTRUCK:RESTRICTEDhgENTRY-1=-2:ASTRONOMICALmzezURANUS",
    ":fxcbpdmranohdxac:PENTAGRAM:RIGHT-HANDED INTERLACED PENTAGRAM",
    ":LEFT-HANDED INTERLACED PENTAGRAM:goPENTAGRAM:bicrON SHIELD:SHINTO SHRINE:CHURCH:CASTLE",
    ":HISTORIC SITE:GEAR WITHOUT HUB;pdHANDLES:MAPmzezLIGHTHOUSE:MOUNTAIN:UMBRELLA ON GROUND",
    ":FOUNTAIN:FLAG IN HOLE:FERRY:SAILBOAT:mlfdCORNERS:SKIER:ICE SKATE:jvpdBALL:TENT",
    ":JAPANESE BANKmz:HEADSTONE GRAVEYARDmz:FUEL PUMP:CUP ONbiml:pcFLAGpdgcigbiSTRIPE",
    ":biSAFETY SCISSORS:omBLADE SCISSORS:biSCISSORS:hvBLADE SCISSORS:pcSCISSORS;fxCHECKib",
    ":neLOCATIONlu:TAPE DRIVE:AIRPLANE:ek:koFIST;ft:VICTORYft:WRITINGft:hvksPENCIL:PENCIL",
    ":omksPENCIL:pcNIB:biNIB:CHECKib:fxCHECKib:inX:fxinX:BALLOT X:fxBALLOT X:OUTLINEDfocr",
    ":fxfocr:jkbwcr:fxjkbwcr:hecr:llpchecr:OUTLINEDhecr:MALTESEcr:moOF DAVID:fdncba",
    ";BALLOON-SPOKEDba:fxfdBALLOON-SPOKEDba:fdCLUB-SPOKEDba:bifdjzmo:pcfdjzmo:SPARKLES",
    ":STRESS OUTLINEDpcmo:ccpcmo:jkbwbimo:bibwpcmo:OUTLINEDbimo:fxOUTLINEDbimo:jxmo:llpcmo:fxba",
    ":jkbwba:efmjba;jzbimo<jxmo:lxjzbimo:efjzRECTILINEARbimo:fxefjzRECTILINEARbimo:ofjzbimo",
    ":lyjzba:ncba:jkbwncba:fxncba:lxPETALLEDbianpcFLORETTE:biFLORETTE:pcFLORETTE",
    ":efPETALLED OUTLINEDbiFLORETTE:ccjkbwefjzmo:fxncjxba:SNOWFLAKE:TIGHT TRIFOLIATE SNOWFLAKE",
    ":fxCHEVRON SNOWFLAKE:SPARKLE:fxSPARKLE:BALLOON-SPOKEDba:efncPROPELLERba:fxefncPROPELLERba",
    ":crib:llpccb:ipmmcrib:hvksDROP-SHADOWEDpcml:omksDROP-SHADOWEDpcml:hvksllpcml:omksllpcml",
    ":bikmibjn:pckmibjn;eqibjn:bidpihpcX:fxeqibmz:hporbc:ieorbc:fxorbc;lwoccjknibjn<cjknibjn",
    ";dzoccjknibjn<cjknibjn;hulwcjknibjn<dzcjknibjn:CURVED STEM PARAGRAPHlujn:fxeqibjn;fveqibjn",
    ";bifv:kxfxbifvbo:FLORALfv:kxFLORALfvbo:iehgjtjn;ksjtjn;FLATTENEDhgjtjn<ksjtjn;hhaobmjn",
    ";ktaobmjn:fxhhaoknibjn;ktaoknibjn;hhaobmjn;ktaobmjn:hphgnvlobmjn;ksnvlobmjn:iehgcxbmjn",
    ";kscxbmjn:DINGBATipccdsjj>oh>nn>fd>ey>lx>lh>ef>it=jbnf;cclbdsjj?oh?nn?fd?ey?lx?lh?ef?it",
    ">jbnf;ipcclbdsjj@oh@nn@fd@ey@lx@lh@ef@it?jbnf:fxWIDE-HEADEDkuaw;jylu;ihlu;DIVISIONlu",
    ";mgeeaw;kuaw;ixeeaw:DRAFTING POINTkuaw:fxROUND-TIPPEDkuaw:nxkuaw:fxnxkuaw:ddnxkuaw",
    ":fxddnxkuaw:bikuaw:THREE-D TOP-LIGHTEDkuax<BOTTOM-LIGHTEDkuax:bikuax:fxbiCURVEDedankuaw",
    "=ooankuaw:SQUATbikuaw:fxCONCAVE-POINTEDbikuaw:RIGHT-SHADEDpckuaw:LEFT-SHADEDpckuaw",
    ":BACK-TILTEDllpckuaw:FRONT-TILTEDllpckuaw:fxhvRIGHT-SHADOWEDpckuaw;omRIGHT-SHADOWEDpckuaw",
    ":NOTCHEDhvRIGHT-SHADOWEDpckuaw:cxLOOP:NOTCHEDomRIGHT-SHADOWEDpckuaw:ccfxpckuaw",
    ":WHITE-FEATHEREDkuaw:BLACK-FEATHEREDmgeeaw<kuaw<ixeeaw:fxBLACK-FEATHEREDmgeeaw=kuaw=ixeeaw",
    ":TEARDROP-BARBEDkuaw:fxTEARDROP-SHANKEDkuaw:WEDGE-TAILEDkuaw:fxWEDGE-TAILEDkuaw",
    ":OPEN-OUTLINEDkuaw:dzcxLOOP:nnDIMENSIONALao:pcnwcnmcpcnw:PERPENDICULAR:jkms;mw",
    ":hgS-SHAPED BAG DELIMITER:ksS-SHAPED BAG DELIMITER:ORpddvgk:kqmePRECEDINGms:mwPRECEDINGme",
    ":orbcpdgcmr:ickwdm:htDIVISION:icFALLINGdm:mmhsan<OR:pcdppdCENTREDdv:anpddv",
    ":ELEMENT OF OPENINGoo:hvkscppddv:omhgcppddv:hgOUTER JOIN:ksOUTER JOIN:fgOUTER JOIN:hdUPna",
    ";ebna:hganksdzod=na;MULTIMAP:htksna;hgna:UPnapdcbac:hwDIVIDED BYgcRULE:pcCONCAVE-SIDEDdp",
    ">pdhjTICK?kuTICK;mlpdhjTICK=kuTICK:ichgpcmlbm;kspcmlbm;hgaobm;ksaobm;hgdzaobm;ksdzaobm",
    ";hgpcnvlobm;kspcnvlobm;hgFLATTENEDjt;ksFLATTENEDjt:ookiaw:edkiaw:apGAPPEDcbaw:cfGAPPEDcbaw",
    ":ksawpdccjy:hthjaw;kuaw;hgksaw;hjdzaw;kudzaw;hgksdzaw;hjawffbc;kuawffbc;hjdzawffbc",
    ";kudzawffbc<SQUIGGLEaw:BRAILLE PATTERN BLANK<DOTS-1=-2=-12=-3=-13=-23=-123=-4=-14=-24=-124",
    "=-34=-134=-234=-1234=-5=-15=-25=-125=-35=-135=-235=-1235=-45=-145=-245=-1245=-345=-1345",
    "=-2345=-12345=-6=-16=-26=-126=-36=-136=-236=-1236=-46=-146=-246=-1246=-346=-1346=-2346",
    "=-12346=-56=-156=-256=-1256=-356=-1356=-2356=-12356=-456=-1456=-2456=-12456=-3456=-13456",
    "=-23456=-123456=-7=-17=-27=-127=-37=-137=-237=-1237=-47=-147=-247=-1247=-347=-1347=-2347",
    "=-12347=-57=-157=-257=-1257=-357=-1357=-2357=-12357=-457=-1457=-2457=-12457=-3457=-13457",
    "=-23457=-123457=-67=-167=-267=-1267=-367=-1367=-2367=-12367=-467=-1467=-2467=-12467=-3467",
    "=-13467=-23467=-123467=-567=-1567=-2567=-12567=-3567=-13567=-23567=-123567=-4567=-14567",
    "=-24567=-124567=-34567=-134567=-234567=-1234567=-8=-18=-28=-128=-38=-138=-238=-1238=-48",
    "=-148=-248=-1248=-348=-1348=-2348=-12348=-58=-158=-258=-1258=-358=-1358=-2358=-12358=-458",
    "=-1458=-2458=-12458=-3458=-13458=-23458=-123458=-68=-168=-268=-1268=-368=-1368=-2368",
    "=-12368=-468=-1468=-2468=-12468=-3468=-13468=-23468=-123468=-568=-1568=-2568=-12568=-3568",
    "=-13568=-23568=-123568=-4568=-14568=-24568=-124568=-34568=-134568=-234568=-1234568=-78",
    "=-178=-278=-1278=-378=-1378=-2378=-12378=-478=-1478=-2478=-12478=-3478=-13478=-23478",
    "=-123478=-578=-1578=-2578=-12578=-3578=-13578=-23578=-123578=-4578=-14578=-24578=-124578",
    "=-34578=-134578=-234578=-1234578=-678=-1678=-2678=-12678=-3678=-13678=-23678=-123678=-4678",
    "=-14678=-24678=-124678=-34678=-134678=-234678=-1234678=-5678=-15678=-25678=-125678=-35678",
    "=-135678=-235678=-1235678=-45678=-145678=-245678=-1245678=-345678=-1345678=-2345678",
    "=-12345678:kuoiawpdormr?dzormr:hjdzawpdormr:kudzawpdormr:hgksdzawpdormr:kuoiawffbc",
    ":hjdzawffbc:kudzawffbc:edawpdgcmr:ooawpdgcmr;nzaw:ednzaw:hjdzdcaw:kudzdcaw:hjnzdcaw",
    ":kunzdcaw;oinzdcaw;awpddySTEM:ooawTObc:edawTObc:kuawpdnbpdormr?dzormr;oiawpdnb@pdormr",
    "@pddzormr:hjARROW-TAIL:kuARROW-TAIL:hjdzARROW-TAIL:kudzARROW-TAIL:hjawTObidp:kuawTObidp",
    ":hjawffbcTObidp:kuawffbcTObidp:ixpaanmgeeaw;eeanmgpaaw;paawpdgb;eeawpdgb:mgeeawpdgb",
    ";paawpdgb:ixpaawanixeeaw;eeawanmgeeaw:mgeeawanmgpaaw;paawanixpaaw:kwdmcuFALLINGdm",
    ":FALLINGdmcukwdm:mgeeawcuixeeaw:ixeeawcumgeeaw:FALLINGdmcuixeeaw:kwdmcumgeeaw",
    ":ixeeawcuixpaaw;paawcuixeeaw:oyawkaDIRECTLYks:awkakuTHEN CURVINGoo?ed<edTHEN CURVINGhj?ku",
    ":RIGHT-SIDE ARCcfaw:LEFT-SIDE ARCapaw:nuARCapaw:blARCapaw:nuARCcfawpdih<apawpdjy",
    ":hvksSEMICIRCULARcfaw;hgSEMICIRCULARapaw:apcgcbaw:cfcgcbaw:kuawaclqhjaw:hjawaclqkuaw",
    ":lqkuawachjaw:kuawpdjybe:hjawpdjybe:kuawnoX:hgksawnomccb:oooiawffmccb:hgbdUPksbdebfu",
    "<ebksbdUPfu:UPbdksebbdhgfu<hgebbdksfu:hgbdUPksbdUPfu:UPbdksebbdksfu:hgbdebksbdebfu",
    ":UPbdhgebbdhgfu:hjfupdbdUP TObc:kufupdbdUP TObc:oofupdbdksTObc:edfupdbdksTObc",
    ":hjfupdbdebTObc:kufupdbdebTObc:oofupdbdhgTObc:edfupdbdhgTObc:hjfupdbdUPffbc:kufupdbdUPffbc",
    ":oofupdbdksffbc:edfupdbdksffbc:hjfupdbdebffbc:kufupdbdebffbc:oofupdbdhgffbc:edfupdbdhgffbc",
    ":hjfupdbdUPachjfupdbdeb:oofupdbdhgBESIDEoofupdbdks:kufupdbdUPackufupdbdeb",
    ":edfupdbdhgBESIDEedfupdbdks:hjfupdbdUPackufupdbdUP>ebackufupdbdeb:kufupdbdUPachjfupdbdUP",
    ">ebachjfupdbdeb:hjfupdbdUPachtdc>ebbehtdc:kufupdbdUPachtdc>ebbehtdc",
    ":oofupdbdhgBESIDEedfupdbdks:edfupdbdhgBESIDEoofupdbdks:ksdzawpdROUNDED HEAD:enluackuaw",
    ":nqjlackuaw:hjawacnqjl:kuawacnqjl=ahemTO:hmachjaw:hjawnohm:fnackuaw:msackuaw:hjawnoms",
    ":mwachjaw:hgFISHnb:ksFISHnb:UP FISHnb:ebFISHnb:nzorbcDELIMITER:Z NOTA",
    "TION SPOT<TYPEch:hgpccxbm:kspccxbm:hgpcjt:kspcjt:Z NOTA",
    "TIONhgIMAGEbm<ksIMAGEbm<hgBINDINGbm<ksBINDINGbm:hgmlbmpdoj:ksmlbmpdoj:hgmlbmpdTICK INnucp",
    ":ksmlbmpdTICK INblcp:hgmlbmpdTICK INblcp:ksmlbmpdTICK INnucp:hgaobmpddv:ksaobmpddv",
    ":hgARChmbm:ksARCfnbm:dzhgARCfnbm;ksARChmbm:hgbinvlobm:ksbinvlobm:dyFENCE:orZIGZAGhq",
    ":MEASUREDaoOPENINGhg:ksaooqpdml:MEASUREDksaopddv:aopdSgk:aeao:SPHERICALaoOPENINGhg=UP:ocao",
    ":krao:aopdoj:kraopdoj:jeaoOPENING UP=eb:MEASUREDaopdjkARM ENDING INawkaUPanks@INawkaUPanhg",
    "@INawkaebanks@INawkaebanhg@INawkaksanUP@INawkahganUP@INawkaksaneb@INawkahganeb:krEMPTY SET",
    ":EMPTY SETpdjp=mccbac=ksawac=hgawac:cbpdgcbc:ccorbc;PARALLEL;kqme;PERPENDICULAR",
    ":cbDIVIDED BYgcbcannufrDIVIDED BYorbc;pdSUPERIMPOSED X:ccANTICLOCKWISE-ROTATED DIVISIONlu",
    ":UPawnocb:ccpcbo;bo;hm;fn:cbpdmccbTOniks<ohgcSTROKES TOniks:mmkwdmmb;FALLINGdmmb;ba;mccb",
    ";ml:ohJOINED SQUARES:nwpddvac<oj:S INnw:nwpdSERIFS ATbl:ksnwachgnw:hgnwBESIDEorbc",
    ":orbcBESIDEksnw:BOWTIEpdhgfrbi<ksfrbi:biBOWTIE:nrpdhgfrbi<ksfrbi:pcHOURGLASS:biHOURGLASS",
    ":hgWIGGLY FENCE:ksWIGGLY FENCE:hgdzWIGGLY FENCE:ksdzWIGGLY FENCE:INCOMPLETE INFINITY",
    ":TIEjoINFINITY:INFINITY NEGATEDpdorbc:DOUBLE-ENDED MULTIMAP:mlpdCONTOURED OUTLINE",
    ":INCREASES AS:SHUFFLEkd:enluanmaPARALLEL?pdnqac:IDENTICAL TOanmaPARALLEL:GLEICH STARK",
    ":THERMODYNAMIC:ecnwpdhgfrbi>ksfrbi:bidppdebaw;hw:pccbpdebaw:bicbpdebaw:ERROR-BARREDpcml",
    "<biml<pcdp<bidp<pccb<bicb:RULE-DELAYED:kqmejl:mepdjp:kqmepdgcmr:BIGme;kqme:dzjy:nzjy",
    ":hhCURVEDaobm:ktCURVEDaobm:TINY:MINY:N-ARYccdvjl=jyjl=nrjl<okjlpddv?jy<mlgnjl=okjl",
    ":ohhsanjl<ORjl:N-ARYnrjl:MODULOohSUM:SUMMATIONpdgm:kigmjl:FINITE PARTgm:gmpddzmr",
    ";AVERAGEpdmb:CIRCULATION FUNCTION:apINTEGRATION",
    ":hqINTEGRATIONpdRECTANGULAR PATH AROUND POLE=SEMICIRCULAR PATH AROUND POLE",
    "<iyINCLUDINGniPOLE:gmAROUND A POINTjl:QUATERNIONgmjl:gmpdhjawpdgb<nrlu<gn<ok<jp<oj:JOIN",
    ":hdhgnwjl:Z NOTA",
    "TION SCHEMA COMPOSITION=PIPING=PROJECTION:jylupdmccbac=ceadac=nqac=dvbe=nqbe=SUBSCRIPToh",
    "=binw:ihlupdcjac=dvbe=FALLINGdx=kwdx:jyluINhgfrcb=ksfrcb:VECTOR ORcrkd:inlupddvac=oj",
    ":SEMIDIRECTkdpdblcg:SMASHkd:inluINhgfrcb=ksfrcb:ccinlupdcead:inluINdzcb:ccDIVISIONlu",
    ":jyluINnw:ihluINnw:inluINnw:INTERIORkd:RIGHTHAND INTERIORkd",
    ":Z NOTA",
    "TION RELATIONAL COMPOSITION:AMALGAMATION OR COPRODUCT:gnpddv:okpdihlu<jp:gnpdjp<hsan",
    ":okpdhsOR;acgn:gnacok:okacbcacgn:gnacbcacok:okBESIDEanJOINEDpdok:gnBESIDEanJOINEDpdgn",
    ":cgokpdSERIFS;gnpdSERIFS:dzmlgn<ok:cgokpdSERIFSanSMASHkd:hsanpddvac;ORpddvac:dzhsan<OR",
    ":ohINTERSECTINGhsan=OR:SLOPINGhdOR<an:hsOR OVERLAPPINGhsan;anpdigSTEM;ORpdigSTEM;anpdgcdc",
    ";ORpdgcdc;anpddzjp=oj=dzoj:mcVEEpdoj:hsORpddzjp>oj:Z NOTA",
    "TION DOMAIN ANTIRESTRICTION<RANGE ANTIRESTRICTION:enlupddvbe:IDENTICALpddvac",
    ":nzgcbcpddzormr>nzormr:nqjlpddvac=kwdx:SIMILARihSIMILAR:CONGRUENTpddvac:enpdba",
    ":ahemTOpdcead:APPROXIMATELYemORemTO:enluacjylu:jyluacenlu:enluacnqjl:dzchem",
    ":ohCONSECUTIVEenSIGNS:nnCONSECUTIVEenSIGNS:enlupdohdxacanohdxbe:eppdfddxac:hmpdcbgk",
    ":fnpdcbgk:hmpdkmibac:fnpdkmibac:hmORmaemTO:fnORmaemTO:hmORmaemTOpddvgk:fnORmaemTOpddvgk",
    ":hmORmaemTOpddvac:fnORmaemTOpddvac:hmORmaemTOpddvacks:fnORmaemTOpddvachg:hmOR APPROXIMATE",
    ":fnOR APPROXIMATE:hmanSINGLE-LINEiyemTO:fnanSINGLE-LINEiyemTO:hmaniyAPPROXIMATE",
    ":fnaniyAPPROXIMATE:hmacDOUBLE-LINEemacfn:fnacDOUBLE-LINEemachm:hmacSIMILAR ORem",
    ":fnacSIMILAR ORem:hmacSIMILARacfn:fnacSIMILARachm:hmacfnacDOUBLE-LINEem",
    ":fnachmacDOUBLE-LINEem:hmacmaemacfnacmaem:fnacmaemachmacmaem:maemTO ORhm>fn>hmpddvgk",
    ">fnpddvgk:DOUBLE-LINEemTO ORhm?fn<maemTO ORhm@fn:SIMILAR ORhm<fn;achmacenlu<fnacenlu",
    ":dzNESTEDhm<fn<hmpdoj:fnOVERLAPPINGhm<BESIDEhm:hmcgBYcy:fncgBYcy:hmcgBYcyacmaem",
    ":fncgBYcyacmaem:SMALLER THAN:LARGER THAN:SMALLER THAN ORemTO:LARGER THAN ORemTO",
    ":enlupdBUMPYac:kcacSINGLE-LINEenlu:muacSINGLE-LINEenlu:kcacSINGLE-LINEiyemTO",
    ":muacSINGLE-LINEiyemTO:kcacenlu:muacenlu:kcaciyemTO:muaciyemTO:kcacahemTO:muacahemTO",
    ":kcaciyahemTO:muaciyahemTO:dzkc;mu:mspddv:mwpddv:mspdjylube:mwpdjylube:mspdinlube",
    ":mwpdinlube:msOF ORemTOpddvac:mwOF ORemTOpddvac:msOFacenlu:mwOFacenlu:msOFacnqjl",
    ":mwOFacnqjl:msOFacahemTO:mwOFacahemTO:msOFaciyemTO:mwOFaciyemTO:mlhgjkBOXjl;ksjkBOXjl:cgms",
    ";mw;msORemTO;mwORemTO:msacmw:mwacms:msacms:mwacmw;BESIDEms<anJOINED BYdcpdms",
    ":ELEMENT OF OPENINGed:PITCHFORKpdTEEnu:TRANSVERSALgn:FORKING:NONFORKING:lqhgna;ebna;UPna",
    ":PERPENDICULARpdS:orbcnzksod:dzorbchgod:orbcdzhgod:dzorbcdzhgod:htdcffhgMEMBER OFdzor",
    ":lqebnapdjp;UPnapdoj=aclqebna:dzebna;UPna;mriylu:krdzmriylu:DOESiyDIVIDEpdkrNEGATIONmb",
    ":orhqpdcbac>be:ebnapdcbbe:PARALLELpdgcmr<nqjl:nzorbcBINARY RELATION=pdgcmr;chjl;NESTEDhm",
    "<fn:DOUBLE-LINEmahmORemTO=fnORemTO:nzmeBINARY RELATION:hdnzorbcjl:dzmejl:pcorbc",
    ":N-ARYpcorbc:ixeepcaw;papcaw:mgeepcaw;papcaw:hgkspcaw:hjbiaw:oobiaw:edbiaw:ixeebiaw;pabiaw",
    ":mgeebiaw;pabiaw:hgksbiaw:UPebbiaw:kuawpdTIPed>oo:hjawpdTIPed>oo:mlpdnufrbi<blfrbi",
    "<omksdmfrbi<hvhgdmfrbi:dppdhgfrbi<ksfrbi<nufrbi<blfrbi:dyml:bihdml:pchdml:biotmcml",
    ":pcotmcml:biPENTAGON:pcPENTAGON;HEXAGON:biHEXAGON:gcbiHEXAGON:bihdcb;iedp:pciedp:biiehw",
    ":pciehw:bimcdp<hw:pcmchw:bigcELLIPSE:pcgcELLIPSE:biorELLIPSE:pcorELLIPSE:hgawpdmccb:nnhjay",
    ":hgawpdccjy:hthjSQUIGGLEaw:hjoiawpdormr?dzormr>ffbc=nzdcaw;awpddySTEM=nbpdormr?dzormr",
    ";oiawpdnb@pdormr@pddzormr;awnoX:oyawkaDIRECTLYhg:enluachjaw:kqnqjlachjaw:hjawackqahemTO",
    ":kuawnofn=mw:hjkiaw:kukiaw:kqnqjlackuaw:kuawackqahemTO:nqjlachjaw:hjawacahemTO=kqnqjl",
    ":kuawackqnqjl:ednxZIGZAGaw:lqmaixaw;BACKSLANTEDmgaw:pciemo:bimcmo:pcmcmo:biktPENTAGON",
    ":pcktPENTAGON:fxhdcb;OVALpdOVALgk;cbpdcbgk;cb;cckz:maixawpdHOOKED HEAD",
    ":BACKSLANTEDmgawpdHOOKEDnb:maixawpdgcnb:BACKSLANTEDmgawpdgcnb:bfawkaedTHENixee",
    ":lqbfawkaedTHENixee:hjnxaw:oonxaw:kunxaw:ednxaw:hgksnxaw:UPebnxaw:ixpanxaw;eenxaw:mgeenxaw",
    ";panxaw:hjnxddaw:oonxddaw:kunxddaw:ednxddaw:cfnxjkcbaw:apnxjkcbaw:hjnxawTObc:oonxawTObc",
    ":kunxawTObc:ednxawTObc:::ixpanxawTObc;eenxawTObc:mgeenxawTObc;panxawTObc:hjnxawpddzgcmr",
    ":oonxawpddzgcmr:kunxawpddzgcmr:ednxawpddzgcmr:gcTAB KEY:orTAB KEY:hjnxawjokunxaw",
    ":oonxawhjOFednxaw:kunxawjohjnxaw:ednxawhjOFoonxaw:hjnxPAIREDay:oonxPAIREDay:kunxPAIREDay",
    ":ednxPAIREDay:hjbiccpcaw:oobiccpcaw:kubiccpcaw:edbiccpcaw:apnxksU-SHAPEDaw=blU-SHAPEDaw",
    "=hgU-SHAPEDaw=nuU-SHAPEDaw:RETURNhg;ks:NEWLINEhg;ks:fdcpayCIRCLINGap:kubiaw:",
    ":mzezTYPE A ELECTRONICS:THREE-D TOP-LIGHTEDhjeoax<RIGHT-LIGHTEDooeoax<TOP-LIGHTEDkueoax",
    "<LEFT-LIGHTEDedeoax:bihjeoax;ooeoax;kueoax;edeoax:ednxawpdhtTIPhj@TIPku:oonxawpdhtTIPhj",
    "@TIPku:hjnxawpdhtTIPoo:kunxawpdhtTIPoo:hjnxawpdhtTIPed:kunxawpdhtTIPed:biCURVEDedanhjaw",
    ">kuaw<ooanhjaw>kuaw<hjanooaw<kuanooaw<hjanedaw<kuanedaw:RIBBONawebhg=ks<UPhg=ks<hgUP<ksUP",
    "<hgeb<kseb:oopcawffbcpdgcbc:UPaxIN A RECTANGLE BOX:OVERLAPPINGpcSQUARES<anbiSQUARES",
    ";biSQUARES:BALLOT BOXpdhpX:ccX;bkX:bimlCENTRED;dpCENTRED:ocbiPENTAGON:gcbiOCTAGON",
    ":biOCTAGON;ieolnwCENTRED<ecnwCENTRED<hhnwCENTRED<ktnwCENTRED:NEPTUNEfaoh:nufrbicb:blfrbicb",
    ":hpfdjzbiCUSP:kxhpfdjzbiCUSP:pcfdjzCUSP:kxpcfdjzCUSP:mlPOSITIONgi:UNCERTAINTYlu:GROUPib",
    ":PLUTOfaoh<nn<fd<ey:TRANSPLUTO:PROSERPINA:ASTRAEA:HYGIEA:PHOLUS:NESSUS:pcijSELENA:bidpONcr",
    ":TRUEhpijARTA:CUPIDO:HADES:ZEUS:KRONOS:APOLLON:ADMETOS:VULCANUS:POSEIDON:hgfrbimo:ksfrbimo",
    ":mopdhgfrbi<ksfrbi:hjoiawpdnwARROWHEADS:oooiawpdnwARROWHEADS:kuoiawpdnwARROWHEADS",
    ":edoiawpdnwARROWHEADS:ERISfajj<oh:SEDNA:RUSSIAN ASTROLOGICALmzVIGINTILE=NOVILE=QUINTILE",
    "=BINOVILE=SENTAGON=TREDECILE:enlupdINFINITYbe:UNITEDmz:SEPARATEDmz:DOUBLEDmz:PASSEDmz",
    ":krksao:HELLSCHREIBER PAUSEmz:GLAGOLITICbshnAZU=BUKY=VEDE=GLAGOLI=DOBRO=YESTU=ZHIVETE",
    "=DZELO=ZEMLJA=IZHE=gjIZHE=I=DJERVI=KAKO=LJUDIJE=MYSLITE=NASHI=ONU=POKOJI=RITSI=SLOVO",
    "=TVRIDO=UKU=FRITU=HERU=OTU=PE=SHTA=TSI=CHRIVI=lk=YERU=YERI=YATI=SPIDERY HA=YU=mcYUS?pdnb",
    "=YO=IOTATEDmcYUS=BIG YUS=IOTATED BIG YUS=FITA=IZHITSA=SHTAPIC=TROKUTASTI A",
    "=LATINATE MYSLITE=CAUDATE CHRIVI;mchnAZU=BUKY=VEDE=GLAGOLI=DOBRO=YESTU=ZHIVETE=DZELO",
    "=ZEMLJA=IZHE=gjIZHE=I=DJERVI=KAKO=LJUDIJE=MYSLITE=NASHI=ONU=POKOJI=RITSI=SLOVO=TVRIDO=UKU",
    "=FRITU=HERU=OTU=PE=SHTA=TSI=CHRIVI=lk=YERU=YERI=YATI=SPIDERY HA=YU=mcYUS?pdnb=YO",
    "=IOTATEDmcYUS=BIG YUS=IOTATED BIG YUS=FITA=IZHITSA=SHTAPIC=TROKUTASTI A=LATINATE MYSLITE",
    "=CAUDATE CHRIVI:hebshnLpddzbc;mchnLpddzbc;bshnLpdignq=Ppdmr=Rpdnb;mchnApdmr=Tpddmmr",
    ";bshnHpddj;mchnHpddj;bshnKpddj;mchnKpddj;bshnZpddj;mchnZpddj;bshnaj=Mpdgb=ocA>aj",
    ";mchnVpdksgb;bshnWpdgb;mchnWpdgb=Vpdcw;bshnfrH;mchnfrH=TAILLESS PHI=EpdNOTCH=ocRpdnb",
    "=Opdhukvgk;hnmcbsocE;SUBSCRIPTmchnJ:iihnbsV:hebshnSpdSWASHnb=ZpdSWASHnb:cobshnALFA",
    ";mchnALFA;bshnVIDA;mchnVIDA;bshnfh;mchnfh;bshnDALDA;mchnDALDA;bshnEIE;mchnEIE;bshnSOU",
    ";mchnSOU;bshnZATA;mchnZATA;bshnHATE;mchnHATE;bshnTHETHE;mchnTHETHE;bshnIAUDA;mchnIAUDA",
    ";bshnKAPA;mchnKAPA;bshnLAULA;mchnLAULA;bshnMI;mchnMI;bshnNI;mchnNI;bshnKSI;mchnKSI;bshnO",
    ";mchnO;bshnPI;mchnPI;bshnRO;mchnRO;bshnSIMA;mchnSIMA;bshnTAU;mchnTAU;bshnUA;mchnUA;bshnFI",
    ";mchnFI;bshnKHI;mchnKHI;bshnPSI;mchnPSI;bshnOOU;mchnOOU;bshndnaf;mchndnaf;bshnjgcoAIN",
    ";mchnjgcoAIN;bshncvEIE;mchncvEIE;bshndnKAPA;mchndnKAPA;bshndnNI;mchndnNI;bshncvNI;mchncvNI",
    ";bshnjgcoOOU;mchnjgcoOOU;bshnSAMPI;mchnSAMPI;bshncsSHEI;mchncsSHEI;bshnjgcoSHEI",
    ";mchnjgcoSHEI;bshnjgcoESH;mchnjgcoESH;bshnAKHMIMIC KHEI;mchnAKHMIMIC KHEI;bshndnHORI",
    ";mchndnHORI;bshnjgcoHORI;mchnjgcoHORI;bshnjgcoHA;mchnjgcoHA;bshnL-SHAPED HA",
    ";mchnL-SHAPED HA;bshnjgcoHEI;mchnjgcoHEI;bshnjgcoHAT;mchnjgcoHAT;bshnjgcoGANGIA",
    ";mchnjgcoGANGIA;bshnjgcoDJA;mchnjgcoDJA;bshnjgcoSHIMA;mchnjgcoSHIMA;bshnjgNUBIAN SHIMA",
    ";mchnjgNUBIAN SHIMA;bshnjgNUBIAN NGI;mchnjgNUBIAN NGI;bshnjgNUBIAN NYI;mchnjgNUBIAN NYI",
    ";bshnjgNUBIAN WAU;mchnjgNUBIAN WAU;mzKAI<MI RO<PI RO<STAUROS<TAU RO<KHI RO<SHIMA SIMA",
    ";bshncvSHEI;mchncvSHEI;bshncvGANGIA;mchncvGANGIA;ciNIac<SPIRITUS ASPER=LENIS",
    ";bshnBOHAIRIC KHEI;mchnBOHAIRIC KHEI:::::;jgNUBIANfgmp=DIRECTkmib=INDIRECTkmib",
    "=VERSE DIVIDER;fejjfr;fgmp;MORPHOLOGICAL DIVIDER:GEORGIANmchnAN=BAN=GAN=DON=EN=VIN=ZEN=TAN",
    "=IN=KAN=LAS=MAN=NAR=ON=PAR=ZHAR=RAE=SAN=TAR=UN=PHAR=KHAR=GHAN=QAR=lp=CHIN=CAN=JIL=CIL=CHAR",
    "=XAN=JHAN=HAE=HE=HIE=WE=HAR=HOE:=YN:::::=AEN:::TIFINAGHhnYA<YAB<YABH<YAG<YAGHH",
    "<BERBER ACADEMY YAJ<YAJ<YAD<YADH<YADD<YADDH<YEY<YAF<YAK<TUAREG YAK<YAKHH<YAH",
    "<BERBER ACADEMY YAH<TUAREG YAH<YAHH<YAA<YAKH<TUAREG YAKH<YAQ<TUAREG YAQ<YI<YAZH",
    "<AHAGGAR YAZH<TUAREG YAZH<YAL<YAM<YAN<TUAREG YAGN=YANG<YAP<YU<YAR<YARR<YAGH<TUAREG YAGH",
    "<AYER YAGH<YAS<YASS<YASH<YAT<YATH<YACH<YATT<YAV<YAW<YAY<YAZ<TAWELLEMET YAZ<YAZZ<YE<YO:::::",
    "::;iihnLABIALIZATIONib;lgib"]⟩,
  ⟨0x2D7F, [":TIFINAGHcmJOINER:ETHIOPICmyLOA<MOA<ROA<SOA<SHOA<BOA<TOA<COA<NOA<NYOA<flOA<ZOA<DOA",
    "<DDOA<JOA<THOA<CHOA<PHOA<POA<GGWA<GGWI<GGWEE<GGWE:::::::::<mn<SSU<SSI<SSAA<SSEE<SSE<SSO:",
    "<CCA<CCU<CCI<CCAA<CCEE<CCE<CCO:<ZZA<ZZU<ZZI<ZZAA<ZZEE<ZZE<ZZO:<CCHA<CCHU<CCHI<CCHAA<CCHEE",
    "<CCHE<CCHO:<QYA<QYU<QYI<QYAA<QYEE<QYE<QYO:<KYA<KYU<KYI<KYAA<KYEE<KYE<KYO:<XYA<XYU<XYI<XYAA",
    "<XYEE<XYE<XYO:<GYA<GYU<GYI<GYAA<GYEE<GYE<GYO::ciczhnBE=VE=GHE=DE=ZHE=ZE=KA=EL=EM=EN=O=PE",
    "=ER=ES=TE=HA=TSE=CHE=lk=SHCHA=FITA=ES-TE=A=IE=DJERV=MONOGRAPH UK=YAT=YU=gqA=hrYUS=BIG YUS",
    "=gqBIG YUS:ksaomtMARKER<dymtMARKER:hgmtbm:ksmtbm:hgdymtbm:ksdymtbm:koINTERPOLATION MARKER",
    ";dyINTERPOLATION MARKER:dyTRANSPOSITION MARKER:hgTRANSPOSITIONbm:ksTRANSPOSITIONbm:koml",
    ":hgkoOMISSIONbm:kskoOMISSIONbm:EDITORIAL CORONIS:PARAGRAPHOS:FORKED PARAGRAPHOS",
    ":krFORKED PARAGRAPHOS:HYPODIASTOLE:dyOBELOS:edANCORA:ooANCORA:dyktao:dzjeHYPHEN",
    ":goINTERROBANG:PALM BRANCH:HYPHENpddl:nqpdkvac:hghuPARAPHRASEbm:kshuPARAPHRASEbm:nqpddvac",
    "=be:hgorbcpdQUILL:ksorbcpdQUILL:nuhgfrbm;ksfrbm:blhgfrbm;ksfrbm:hglsUbm:kslsUbm:hgdzjt",
    ":ksdzjt:ohdxjojjdvkg:jjdvjoohdxkg:mmfddvkg:eydvib:krkmib:ornq:kvPOINT:WORDlgigdv:occj:kodv",
    ";cj:oclf:DAGGERpdhgGUARD<ksGUARD:ocDAGGER:nufrldlu:TWO-EMdc:THREE-EMdc:STENOGRAPHICfgmp",
    ":orlxdx:WIGGLYorhq:CAPITULUM:dzHYPHEN:krcj:dzLOW-REVERSED-9knib:dcpdhgUPTURN",
    ":dzSUSPENSIONib:gohuKAVYKA=pdKAVYKAac:huKAVYKA<pddv:dzSTACKEDcj:dyme:nzDAGGER:MEDIEVALcj",
    ":PARAGRAPHUSib:PUNCTUS ELEVATUSib:CORNISH VERSE DIVIDER:crPATTYpdksCROSSBAR=hgCROSSBAR",
    ":TIRONIANlubsET:MEDIEVALeqib;kmib:hgmlbmpdmr:ksmlbmpdmr:hgmlbmpddzmr:ksmlbmpddzmr:nufrhgjt",
    "<ksjt:blfrhgjt<ksjt:jeHYPHEN"]⟩,
  ⟨0x2E80, [":CJK RADICAL REPEAT<CLIFF<SECONDjj=oh=nn<jv<BOX<TABLE<KNIFEjj=oh<DIVINATION<SEAL",
    "<mcjj=oh<LAMEjj=oh=nn=fd<SNAKE<THREAD<SNOUTjj=oh<fvjj=oh<ft<RAP:<CHOKE<SUN<ij<DEATH<MOTHER",
    "<CIVILIAN<WATERjj=oh<FIRE<PAWjj=oh<SIMPLIFIEDfrTREE TRUNK<COW<DOG<JADE<BOLT OF CLOTH<EYE",
    "<SPIRITjj=oh<BAMBOO<SILK<bpSILK<NETjj=oh=nn=fd<MESH<SHEEP<RAM<EWE<jg<BRUSHjj=oh<MEAT",
    "<MORTAR<GRASSjj=oh=nn<TIGER<CLOTHES<pajj=oh<bpSEE<SIMPLIFIEDgd<gd<bpSPEECH>lo<FOOT<bpCART",
    "<SIMPLIFIED WALK<WALKjj=oh<CITY<bpGOLD<htjj=oh<bpht>GATE<MOUNDjj=oh<RAIN<BLUE",
    "<bpTANNED LEATHER>hf>WIND>FLY<EATjj=oh=nn<bpEAT<HEAD<bpHORSE<BONE<GHOST<bpFISH>BIRD>SALT",
    "<SIMPLIFIED WHEAT=YELLOW<bpFROG<J-SIMPLIFIED EVEN<bpEVEN<J-SIMPLIFIED TOOTH<bpTOOTH",
    "<J-SIMPLIFIED DRAGON<bpDRAGON<TURTLE<J-SIMPLIFIED TURTLE<bpTURTLE::::::::::::",
    ":KANGXI RADICALjj<hq<dv<mb<SECOND<gb<oh<LID<MAN<LEGS<ENTER<ef<ebBOX<COVER<ICE<TABLE<jkBOX",
    "<KNIFE<POWER<WRAP<SPOON<ksjkBOX<HIDING ENCLOSURE<nf<DIVINATION<SEAL<CLIFF<PRIVATE<AGAIN<ik",
    "<ENCLOSURE<EARTH<SCHOLAR<G",
    "O=SLOWLY<EVENING<BIG<WOMAN<CHILD<ROOF<INCH<mc<LAME<CORPSE<SPROUT<MOUNTAIN<RIVER<WORK",
    "<ONESELF<TURBAN<DRY<lqTHREAD<dyCLIFF<htSTRIDE<ohHANDS<SHOOT<BOW<SNOUT<BRISTLE<STEP<fv",
    "<HALBERD<DOOR<ft<BRANCH<RAP<lc<DIPPER<AXE<ml<iy<SUN<SAY<ij<TREE<LACK<mp<DEATH<WEAPON<DOiy",
    "<COMPARE<FUR<CLAN<STEAM<WATER<FIRE<CLAW<FATHER<dzX<frTREE TRUNK<SLICE<FANG<COW<DOG",
    "<PROFOUND<JADE<MELON<TILE<SWEET<LIFE<USE<FIELD<BOLT OF CLOTH<SICKNESS<dyTENT<pc<SKIN<du",
    "<EYE<SPEAR<aw<STONE<SPIRIT<TRACK<GRAIN<CAVE<STAND<BAMBOO<RICE<SILK<JAR<NET<SHEEP<FEATHER",
    "<jg<an<PLOW<EAR<BRUSH<MEAT<MINISTER<SELF<ARRIVE<MORTAR<TONGUE<OPPOSE<BOAT<STOPPING<COLOR",
    "<GRASS<TIGER<INSECT<BLOOD<WALK ENCLOSURE<CLOTHES<pa<SEE<gd<SPEECH<VALLEY<BEAN<PIG<BADGER",
    "<lo<RED<RUN<FOOT<BODY<CART<BITTER<MORNING<WALK<CITY<WINE<DISTINGUISH<VILLAGE<GOLD<ht<GATE",
    "<MOUND<SLAVE<lqTAILED BIRD<RAIN<BLUE<WRONG<et<LEATHER<TANNED LEATHER<LEEK<mf<hf<WIND<FLY",
    "<EAT<HEAD<FRAGRANT<HORSE<BONE<TALL<HAIR<FIGHT<SACRIFICIAL WINE<CAULDRON<GHOST<FISH<BIRD",
    "<SALT<DEER<WHEAT<HEMP<YELLOW<MILLET<bi<EMBROIDERY<FROG<TRIPOD<DRUM<RAT<NOSE<EVEN<TOOTH",
    "<DRAGON<TURTLE<FLUTE"]⟩,
  ⟨0x2FF0, [":gfDESCRIPTIONbyhgTOks=acTObe=hgTOiganks=acTOiganbe=fgSURROUND=SURROUNDffac?be?hg",
    "?omhg@ks?hvhg=OVERLAID"]⟩]

end TripleIndex
