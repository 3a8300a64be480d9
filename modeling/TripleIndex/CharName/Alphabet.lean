import TripleIndex.CharName.Run

/-!
Names of the letters, digits, points and marks below U+2000.
-/

namespace TripleIndex

def alphabetNames : List NameRun := [
  ⟨0x20, [":mh:eqib:knib:jblu:DOLLARlu:PERCENTlu:am:ar:hgjt:ksjt:ba:jylu:cj:HYPHEN-MINUS:fgmp",
    ":me:dspj;jj;oh;nn;fd;ey;lx;lh;ef;it:ch:lf:hmlu:enlu:fnlu:kmib:COMMERCIAL AT:hebshnA=B=C=D",
    "=E=F=G=H=I=J=K=L=M=N=O=P=Q=R=S=T=U=V=W=X=Y=Z:hgmlbm:kqme:ksmlbm:cead:huhq:fmad:hemchnA=B=C",
    "=D=E=F=G=H=I=J=K=L=M=N=O=P=Q=R=S=T=U=V=W=X=Y=Z:hgcxbm:orhq:kscxbm:nq"]⟩,
  ⟨0xA0, [":NO-BREAKmh:goeqib:CENTlu:POUNDlu:CURRENCYlu:YENlu:BROKENbc:ldlu:dl:COPY",
    "RIGHTlu:FEMININE ORDINALgi:hhdzaoknib:iylu:SOFT HYPHEN:REGISTEREDlu:hx:DEGREElu",
    ":PLUS-MINUSlu:mvoh;nn:aead:MICROlu:PILCROWlu:igdv:bv:mvjj:MASCULINE ORDINALgi:ktdzaoknib",
    ":VULGARfejjkj=fr<nnkk:gokmib:hebshnApdfm?ae?ce?nq?dl?kvac=AE=Cpdbv=Epdfm?ae?ce?dl=Ipdfm?ae",
    "?ce?dl=ETH=Npdnq=Opdfm?ae?ce?nq?dl:inlu:hebshnOpdmr=Updfm?ae?ce?dl=Ypdae=THORN;mchnSHARP S",
    "=Apdfm?ae?ce?nq?dl?kvac=AE=Cpdbv=Epdfm?ae?ce?dl=Ipdfm?ae?ce?dl=ETH=Npdnq=Opdfm?ae?ce?nq?dl",
    ":DIVISIONlu:hemchnOpdmr=Updfm?ae?ce?dl=Ypdae=THORN=Ypddl;bshnApdhx;mchnApdhx;bshnApdbn",
    ";mchnApdbn;bshnApdjf;mchnApdjf;bshnCpdae;mchnCpdae;bshnCpdce;mchnCpdce;bshnCpddvac",
    ";mchnCpddvac;bshnCpdbt;mchnCpdbt;bshnDpdbt;mchnDpdbt;bshnDpdmr;mchnDpdmr;bshnEpdhx",
    ";mchnEpdhx;bshnEpdbn;mchnEpdbn;bshnEpddvac;mchnEpddvac;bshnEpdjf;mchnEpdjf;bshnEpdbt",
    ";mchnEpdbt;bshnGpdce;mchnGpdce;bshnGpdbn;mchnGpdbn;bshnGpddvac;mchnGpddvac;bshnGpdbv",
    ";mchnGpdbv;bshnHpdce;mchnHpdce;bshnHpdmr;mchnHpdmr;bshnIpdnq;mchnIpdnq;bshnIpdhx;mchnIpdhx",
    ";bshnIpdbn;mchnIpdbn;bshnIpdjf;mchnIpdjf;bshnIpddvac;mchndwI;bshoIJ;mchoIJ;bshnJpdce",
    ";mchnJpdce;bshnKpdbv;mchnKpdbv=KRA;bshnLpdae;mchnLpdae;bshnLpdbv;mchnLpdbv;bshnLpdbt",
    ";mchnLpdbt;bshnLpdigdv;mchnLpdigdv;bshnLpdmr;mchnLpdmr;bshnNpdae;mchnNpdae;bshnNpdbv",
    ";mchnNpdbv;bshnNpdbt;mchnNpdbt>PRECEDED BYar;bshnENG;mchnENG;bshnOpdhx;mchnOpdhx;bshnOpdbn",
    ";mchnOpdbn;bshnOpddzae;mchnOpddzae;bshoOE;mchoOE;bshnRpdae;mchnRpdae;bshnRpdbv;mchnRpdbv",
    ";bshnRpdbt;mchnRpdbt;bshnSpdae;mchnSpdae;bshnSpdce;mchnSpdce;bshnSpdbv;mchnSpdbv;bshnSpdbt",
    ";mchnSpdbt;bshnTpdbv;mchnTpdbv;bshnTpdbt;mchnTpdbt;bshnTpdmr;mchnTpdmr;bshnUpdnq;mchnUpdnq",
    ";bshnUpdhx;mchnUpdhx;bshnUpdbn;mchnUpdbn;bshnUpdkvac;mchnUpdkvac;bshnUpddzae;mchnUpddzae",
    ";bshnUpdjf;mchnUpdjf;bshnWpdce;mchnWpdce;bshnYpdce;mchnYpdce;bshnYpddl=Zpdae;mchnZpdae",
    ";bshnZpddvac;mchnZpddvac;bshnZpdbt;mchnZpdbt=htS=Bpdmr;bshnBpdgb?TOPBAR;mchnBpdTOPBAR",
    ";bshnnslx;mchnnslx;bshnjkO=Cpdgb;mchnCpdgb;bshnAFRICAN D=Dpdgb?TOPBAR;mchnDpdTOPBAR=ocdi",
    ";bshnkrE=SCHWA=jkE=Fpdgb;mchnFpdgb;bshnGpdgb=fh;mchnHV;bshngp=Ipdmr=Kpdgb;mchnKpdgb=Lpdbc",
    "=LAMBDApdmr;bshnocM=Npdhggb;mchnNpdhtksLEG;bshnOpdignq?gd;mchnOpdgd;bshnOI;mchnOI",
    ";bshnPpdgb;mchnPpdgb;hnYR;bshnnsoh;mchnnsoh;bshnESH;hnkrESH LOOP;mchnTpdjsgb;bshnTpdgb",
    ";mchnTpdgb;bshnTpdkpgb=Updgd;mchnUpdgd;bshnon=Vpdgb=Ypdgb;mchnYpdgb;bshnZpdmr;mchnZpdmr",
    ";bshnEZH>kr;mchnEZHkr>pdnb;hnohpdmr;bshnnsey;mchnnsey;hngoflmppdmr<WYNN<DENTAL CLICK",
    "<LATERAL CLICK<ALVEOLAR CLICK<kpCLICK;bshnDZpdbt=DpdmchnZpdbt;mchnDZpdbt;bshnLJ=LpdmchnJ",
    ";mchnLJ;bshnNJ=NpdmchnJ;mchnNJ;bshnApdbt;mchnApdbt;bshnIpdbt;mchnIpdbt;bshnOpdbt;mchnOpdbt",
    ";bshnUpdbt;mchnUpdbt;bshnUpddlanhx;mchnUpddlanhx;bshnUpddlanae;mchnUpddlanae;bshnUpddlanbt",
    ";mchnUpddlanbt;bshnUpddlanfm;mchnUpddlanfm=ocE;bshnApddlanhx;mchnApddlanhx;bshnApddvacanhx",
    ";mchnApddvacanhx;bshnAEpdhx;mchnAEpdhx;bshnGpdmr;mchnGpdmr;bshnGpdbt;mchnGpdbt;bshnKpdbt",
    ";mchnKpdbt;bshnOpdjf;mchnOpdjf;bshnOpdjfanhx;mchnOpdjfanhx;bshnEZHpdbt;mchnEZHpdbt=Jpdbt",
    ";bshnDZ=DpdmchnZ;mchnDZ;bshnGpdae;mchnGpdae;bshnHWAIR=WYNN=Npdfm;mchnNpdfm;bshnApdkvacanae",
    ";mchnApdkvacanae;bshnAEpdae;mchnAEpdae;bshnOpdmranae;mchnOpdmranae;bshnApddzfm;mchnApddzfm",
    ";bshnApdgobn;mchnApdgobn;bshnEpddzfm;mchnEpddzfm;bshnEpdgobn;mchnEpdgobn;bshnIpddzfm",
    ";mchnIpddzfm;bshnIpdgobn;mchnIpdgobn;bshnOpddzfm;mchnOpddzfm;bshnOpdgobn;mchnOpdgobn",
    ";bshnRpddzfm;mchnRpddzfm;bshnRpdgobn;mchnRpdgobn;bshnUpddzfm;mchnUpddzfm;bshnUpdgobn",
    ";mchnUpdgobn;bshnSpdcjbe;mchnSpdcjbe;bshnTpdcjbe;mchnTpdcjbe;bshnYOGH;mchnYOGH;bshnHpdbt",
    ";mchnHpdbt;bshnNpdhtksLEG;mchnDpdcw;bshnOU;mchnOU;bshnZpdgb;mchnZpdgb;bshnApddvac",
    ";mchnApddvac;bshnEpdbv;mchnEpdbv;bshnOpddlanhx;mchnOpddlanhx;bshnOpdnqanhx;mchnOpdnqanhx",
    ";bshnOpddvac;mchnOpddvac;bshnOpddvacanhx;mchnOpddvacanhx;bshnYpdhx;mchnYpdhx=Lpdcw=Npdcw",
    "=Tpdcw=dwJ=DBdt=QPdt;bshnApdmr=Cpdmr;mchnCpdmr;bshnLpdbc=Tpddmmr;mchnSpdSWASHnb=ZpdSWASHnb",
    ";bshnflmp;mchnflmp;bshnBpdmr=Ubc=ocV=Epdmr;mchnEpdmr;bshnJpdmr;mchnJpdmr;bshnmcQpdgbnb",
    ";mchnQpdgbnb;bshnRpdmr;mchnRpdmr;bshnYpdmr;mchnYpdmr=ocA=aj=ocaj=Bpdgb=jkO=Cpdcw=Dpdnb?gb",
    "=krE=SCHWA>pdgb=jkE=krjkE@pdgb=cgkrjkE=dwJpdmr=Gpdgb=lcG;hnmcbsG;mchnfh=RAMSgd=ocH=Hpdgb",
    "=HENGpdgb=Ipdmr=gp;hnmcbsI;mchnLpdignq?BELT?kpgb=LEZH=ocM?pdhtLEG=Mpdgb=Npdhggb?kpgb",
    ";hnmcbsN;mchnBARRED O;hnmcbsOE;mchncgjh=PHI=ocR?pdhtLEG@gb=RpdhtLEG?nb?FISHHOOK",
    "=krRpdFISHHOOK;hnmcbsR>goR;mchnSpdgb=ESH=dwJpdmrangb=SQUATkrESH=ESHpdcw=ocT=Tpdkpgb=Ubc=on",
    "=Vpdgb=ocV>W>Y;hnmcbsY;mchnZpdkpgb?cw=EZH>pdcw;hnflmp<PHARYNGEAL VOICED FRICATIVE<goflmp",
    "<STRETCHED C<BILABIAL CLICK<mcbsB;mchncgjkE;hnmcbsGpdgb>H;mchnJpdct=ocK;hnmcbsL;mchnQpdgb",
    ";hnflmppdmr<krflmppdmr;mchnDZdt=DEZHdt=DZdtpdcw=TSdt=TESHdt=TCdtpdcw=FENGdt=LSdt=LZdt",
    ";hnBILABIAL PERCUSSIVE<BIDENTAL PERCUSSIVE;mchnocHpdFISHHOOK@FISHHOOKannb:iihnmcH>pdgb=J=R",
    "=ocR?pdgb=bsgoR=W=Y<PRIME<dzPRIME<occj<ar<krcj<ksfrkv<hgfrkv<flmp<krflmp<hgax<ksax<UPax",
    "<ebax<cead:bt:iihnorhq<hx<aead<fmad<huorhq=hx=fmad=aead<nych<frnych<CENTREDksfrkv=hgfrkv",
    "<UPna<ebna<jylu<ihlu:bn:dvac:kvac:jf:mcnq:dzaead:iihnRHOTICgb<crad<mcfh=L=S=X=krflmp",
    "<EXTRA-HIGHnsbc<fynsbc<MIDnsbc<hunsbc<EXTRA-LOWnsbc<YIN DEPARTINGnsib<YANG DEPARTINGnsib",
    "<VOICING<UNASPIRATED<dzar<huebax=UPax=hgax=ksax=kv<igfmad=dzfmad>aead<hunq<koch<BEGINfyns",
    "<ENDfyns<BEGINhuns<ENDhuns<SHELF<jkSHELF<huhgaw:cifmad;aead;cead;nq;hx;OVERLINE;bn;dvac;dl",
    ";gbac;kvac;dzaead;bt;orhqac;dzorhqac<fmad;br;gobn;occjac;cjac;krcjac;cjacks;fmadbe;aeadbe",
    ";hgnabe;ksnabe;hgaoac;gd;hgfrkvbe;UPnabe;ebnabe;jylube;ihlube;PALATALIZEDgbbe;kpgbbe;dvbe",
    ";dlbe;kvbe;cjbe;bv;jf;orhqbe;BRIDGEbe;godzARCHbe;btbe;ceadbe;bnbe;gobnbe;nqbe;hxbe;huhq",
    ";dzhuhq;nqjq;lqmrjq;htmrjq;lqmejq;htmejq;ksfrkvbe;goBRIDGEbe;mlbe;SEAGULLbe;Xac;ornq",
    ";dzOVERLINE;fmnsib;aensib;foju<KORONIS<dont<ph;BRIDGEac;enlube;dzorhqbe;hgaobe;iynqac",
    ";HOMOTHETICac;ahemTOac;hgksawbe;ooawbe;GRAPHEME JOINER;ksaxac;hgfrkvac;FERMATA;Xbe;hgaxbe",
    ";ksaxbe=anUPaxbe<frkvac;dvacks;babe;dzkvbe;ZIGZAGac;dzbnbe<bn<hx=be<nq<gobn<kuawbe;hemchnA",
    ">E>I>O>U>C>D>H>M>R>T>V>X:fobshnHETA;mchnHETA;bshnauSAMPI;mchnauSAMPI;NUMERALlu;hvNUMERALlu",
    ";bshnPAMPHYLIAN DIGAMMA;mchnPAMPHYLIAN DIGAMMA::;ph;mckrLUNATEltmz<dyLUNATEltmz",
    "<krdyLUNATEltmz;kmib;bshnYOT::::;nt;dont;bshnajpdnt;ANO TELEIA;bshnelpdnt=ETApdnt=gppdnt:",
    "=jipdnt:=onpdnt=jhpdnt;mchngppddoannt;bshnaj=BETA=fh=di=el=ZETA=ETA=nj=gp=gv=LAMDA=MU=NU",
    "=XI=ji=PI=RHO:=lt=TAU=on=PHI=CHI=PSI=jh=gppddo=onpddo;mchnajpdnt=elpdnt=ETApdnt=gppdnt",
    "=onpddoannt=aj=BETA=fh=di=el=ZETA=ETA=nj=gp=gv=LAMDA=MU=NU=XI=ji=PI=RHO=ewlt=lt=TAU=on=PHI",
    "=CHI=PSI=jh=gppddo=onpddo=jipdnt=onpdnt=jhpdnt;bsKAImz;BETAmz;njmz;onpdgbmz=aeangbmz",
    "=dlangbmz;PHImz;PImz;KAImz;hnauKOPPA;mchnauKOPPA;hnSTIGMA;mchnSTIGMA;hnDIGAMMA;mchnDIGAMMA",
    ";hnKOPPA;mchnKOPPA;hnSAMPI;mchnSAMPI:cobshnSHEI;mchnSHEI;bshnFEI;mchnFEI;bshnKHEI;mchnKHEI",
    ";bshnHORI;mchnHORI;bshnGANGIA;mchnGANGIA;bshnSHIMA;mchnSHIMA;bshnDEI;mchnDEI:fogvmz;RHOmz",
    ";LUNATEltmz;hnYOT;bsnjmz;LUNATEelmz;krLUNATEelmz;bshnSHO;mchnSHO;bsLUNATEltmz<hnSAN",
    ";mchnSAN;RHOpdmrmz;bskrLUNATEltmz<dyLUNATEltmz<krdyLUNATEltmz:czbshnIEpdfm=IO=DJE=GJE",
    "=UKRAINIAN IE=DZE=BYELORUSSIAN-UKRAINIAN I=YI=JE=LJE=NJE=TSHE=KJE=Ipdfm=lqU=DZHE=A=BE=VE",
    "=GHE=DE=IE=ZHE=ZE=I=lqI=KA=EL=EM=EN=O=PE=ER=ES=TE=U=EF=HA=TSE=CHE=lk=SHCHA=HARDlu=YERU",
    "=SOFTlu=E=YU=YA;mchnA=BE=VE=GHE=DE=IE=ZHE=ZE=I=lqI=KA=EL=EM=EN=O=PE=ER=ES=TE=U=EF=HA=TSE",
    "=CHE=lk=SHCHA=HARDlu=YERU=SOFTlu=E=YU=YA=IEpdfm=IO=DJE=GJE=UKRAINIAN IE=DZE",
    "=BYELORUSSIAN-UKRAINIAN I=YI=JE=LJE=NJE=TSHE=KJE=Ipdfm=lqU=DZHE;bshnjh;mchnjh;bshnYAT",
    ";mchnYAT;bshngqE;mchngqE;bshnhrYUS;mchnhrYUS;bshngqhrYUS;mchngqhrYUS;bshnBIG YUS",
    ";mchnBIG YUS;bshngqBIG YUS;mchngqBIG YUS;bshnKSI;mchnKSI;bshnPSI;mchnPSI;bshnFITA;mchnFITA",
    ";bshnIZHITSA;mchnIZHITSA;bshnIZHITSApddzfmad;mchnIZHITSApddzfmad;bshnUK;mchnUK;bshnROUNDjh",
    ";mchnROUNDjh;bshnjhpdTITLO;mchnjhpdTITLO;bshnOT;mchnOT;bshnKOPPA;mchnKOPPA;nmlu:ciczTITLO",
    "<PALATALIZATION<dePNEUMATA<kfPNEUMATA<POKRYTIE<genmlu<MILLIONSlu:czbshnlqIpdnb;mchnlqIpdnb",
    ";bshnSEMISOFTlu;mchnSEMISOFTlu;bshnERpdTICK;mchnERpdTICK;bshnGHEpdUPTURN;mchnGHEpdUPTURN",
    ";bshnGHEpdmr;mchnGHEpdmr;bshnGHEpdiggb;mchnGHEpdiggb;bshnZHEpddj;mchnZHEpddj;bshnZEpddj",
    ";mchnZEpddj;bshnKApddj;mchnKApddj;bshnKApdormr;mchnKApdormr;bshnKApdmr;mchnKApdmr",
    ";bshnBASHKIR KA;mchnBASHKIR KA;bshnENpddj;mchnENpddj;bshoEN GHE;mchoEN GHE;bshnPEpdiggb",
    ";mchnPEpdiggb;bshnabHA;mchnabHA;bshnESpddj;mchnESpddj;bshnTEpddj;mchnTEpddj;bshnmqU",
    ";mchnmqU;bshnmqUpdmr;mchnmqUpdmr;bshnHApddj;mchnHApddj;bshoTE TSE;mchoTE TSE;bshnCHEpddj",
    ";mchnCHEpddj;bshnCHEpdormr;mchnCHEpdormr;bshnSHHA;mchnSHHA;bshnabCHE;mchnabCHE",
    ";bshnabCHEpddj;mchnabCHEpddj;hnPALOCHKA;bshnZHEpdbn;mchnZHEpdbn;bshnKApdgb;mchnKApdgb",
    ";bshnELpdnb;mchnELpdnb;bshnENpdgb;mchnENpdgb;bshnENpdnb;mchnENpdnb;bshnKHAKASSIAN CHE",
    ";mchnKHAKASSIAN CHE;bshnEMpdnb;mchnEMpdnb=PALOCHKA;bshnApdbn;mchnApdbn;bshnApddl;mchnApddl",
    ";bshoA IE;mchoA IE;bshnIEpdbn;mchnIEpdbn;bshnSCHWA;mchnSCHWA;bshnSCHWApddl;mchnSCHWApddl",
    ";bshnZHEpddl;mchnZHEpddl;bshnZEpddl;mchnZEpddl;bshnabDZE;mchnabDZE;bshnIpdhx;mchnIpdhx",
    ";bshnIpddl;mchnIpddl;bshnOpddl;mchnOpddl;bshnBARRED O;mchnBARRED O;bshnBARRED Opddl",
    ";mchnBARRED Opddl;bshnEpddl;mchnEpddl;bshnUpdhx;mchnUpdhx;bshnUpddl;mchnUpddl;bshnUpddzae",
    ";mchnUpddzae;bshnCHEpddl;mchnCHEpddl;bshnGHEpddj;mchnGHEpddj;bshnYERUpddl;mchnYERUpddl",
    ";bshnGHEpdmrangb;mchnGHEpdmrangb;bshnHApdgb;mchnHApdgb;bshnHApdmr;mchnHApdmr;bshnKOMI DE",
    ";mchnKOMI DE;bshnKOMI DJE;mchnKOMI DJE;bshnKOMI ZJE;mchnKOMI ZJE;bshnKOMI DZJE",
    ";mchnKOMI DZJE;bshnKOMI LJE;mchnKOMI LJE;bshnKOMI NJE;mchnKOMI NJE;bshnKOMI SJE",
    ";mchnKOMI SJE;bshnKOMI TJE;mchnKOMI TJE;bshnkrZE;mchnkrZE;bshnELpdgb;mchnELpdgb;bshnLHA",
    ";mchnLHA;bshnRHA;mchnRHA;bshnYAE;mchnYAE;bshnQA;mchnQA;bshnWE;mchnWE;bshnALEUT KA",
    ";mchnALEUT KA;bshnELpdiggb;mchnELpdiggb;bshnENpdiggb;mchnENpdiggb;bshnPEpddj;mchnPEpddj",
    ";bshnSHHApddj;mchnSHHApddj;bshnENpdhggb;mchnENpdhggb;bshnDZZHE;mchnDZZHE;bshnDCHE;mchnDCHE",
    ";bshnELpddj;mchnELpddj::ARMENIANbshnAYB=BEN=GIM=DA=ECH=ZA=EH=ET=TO=ZHE=INI=LIWN=XEH=CA=KEN",
    "=HO=JA=GHAD=CHEH=MEN=YI=NOW=lk=VO=bx=PEH=JHEH=RA=SEH=VEW=TIWN=REH=CO=YIWN=PIWR=KEH=OH=FEH:",
    ":;iihnhgfrkv;ar;EMPHASISib;eqib;cj;kmib;aaib;mchnocAYB=AYB=BEN=GIM=DA=ECH=ZA=EH=ET=TO=ZHE",
    "=INI=LIWN=XEH=CA=KEN=HO=JA=GHAD=CHEH=MEN=YI=NOW=lk=VO=bx=PEH=JHEH=RA=SEH=VEW=TIWN=REH=CO",
    "=YIWN=PIWR=KEH=OH=FEH<hoECH YIWN<hnYIpdmr;fgmp;HYPHEN:::RIGHT-FACING ARMENIAN ETERNITYlu",
    ":LEFT-FACING ARMENIAN ETERNITYlu:ARMENIAN DRAMlu::HEBREWadETNAHTA<SEGOL<SHALSHELET",
    "<ZAQEF QATAN=GADOL<TIPEHA<REVIA<ZARQA<PASHTA<YETIV<TEVIR<GERESH=MUQDAM<GERSHAYIM",
    "<QARNEY PARA<TELISHA GEDOLA<PAZER<ATNAH HAFUKH<MUNAH<MAHAPAKH<MERKHA=KEFULA<DARGA<QADMA",
    "<TELISHA QETANA<YERAH BEN YOMO<OLE<ILUY<DEHI<ZINOR;ibMASORAcb;POINT SHEVA<HATAF SEGOL",
    "=PATAH=QAMATS<HIRIQ<TSERE<SEGOL<PATAH<QAMATS<HOLAM=HASERezVAV<QUBUTS<daOR MAPIQ<METEG",
    ";kgMAQAF;POINT RAFE;kgPASEQ;POINTlpdv<SINdv;kgSOF PASUQ;ibomdv<hvdv;kgjcHAFUKHA",
    ";POINT QAMATS QATAN::::::::;hnaf<BET<fk<DALET<HE<VAV<ZAYIN<HET<TET<YOD<ewKAF<KAF<LAMED",
    "<ewMEM<MEM<ewjc<jc<la<AYIN<ewPE<PE<ewTSADI<TSADI<QOF<RESH<lp<TAV::::;YODnw;hoYIDDISHdzVAV",
    "=VAV YOD=dzYOD;kgGERESH<GERSHAYIM::::::::::::asjblu;luSANAH;FOOTNOTE MARKER;luSAFHA<SAMVAT",
    ";jbibac;-INDIC CUBE ROOT<FOURTH ROOT;RAY;-INDIC PER MILLElu=nfnllu:AFGHANIlu:ascj;DATElg",
    ";POETIC VERSElu;luMISRA<SALLALLAHOU ALAYHE WASSALLAM<ALAYHE ASSALLAM<RAHMATULLAH ALAYHE",
    "<RADI ALLAHOU ANHU<TAKHALLUS;mcfyTAH=hoafpdhbpdpf=ZAIN<FATHA<DAMMA<KASRA;lf;hnib",
    ";END OF TEXTib;nzdvkgib;kmib;hnKASHMIRIpf<fs<afpdMADDAac>fsac<ozpdfsac<afpdfsbe<pfpdfsac",
    "<af<BEH<TEH MARBUTA<TEH<THEH<gt<fq<gx<DAL<THAL<REH<ZAIN<le<ln<SAD<DAD<TAH<ZAH<AIN<fj",
    "<KEHEHpdohdxac>nndxbe<FARSIpfpdgoV?ohdxac?nndxac;TATWEEL;hnFEH<QAF<KAF<hb<if<iw<HEH<oz",
    "<afia<pf;FATHATAN;DAMMATAN;KASRATAN;FATHA;DAMMA;KASRA;SHADDA;SUKUN;MADDAHac;fsac<be",
    ";SUBSCRIPTaf;goDAMMA;ibiwGHUNNA;ZWARAKAY;oxlumcVac=gomcVac=dvbe;krDAMMA;FATHApdohdx",
    ";WAVYfsbe;-INDICdspj=jj=oh=nn=fd=ey=lx=lh=ef=it;PERCENTlu;DECIMALlg;nmlg;eyjzmo;hndwBEH",
    "=QAF<mvaf<afWASLA=pdWAVYfsac@be<fyfs>af>oz<Updfsac<fyfspf<TTEH<TTEHEH<BEEH<TEHpdkv",
    ">nndxaced<PEH<TEHEH<BEHEH<fqpdfsac>ohdxorac<NYEH<DYEH<fqpdnndxac<TCHEH<TCHEHEH<DDAL",
    "<DALpdkv>dvbe@anmcTAH<DAHAL<DDAHAL<DUL<DALpdnndxaced>fddxac<RREH<REHpdmcV>kv>dvbe>mcVbe",
    ">dvbeandvac>ohdxac<JEH<REHpdfddxac<lepddvbeandvac>nndxbe@beannndxac<SADpdohdxbe>nndxac",
    "<TAHpdnndxac<AINpdnndxac<dwFEH<FEHpddvMOVEDbe?be<VEH<FEHpdnndxbe<PEHEH<QAFpddvac>nndxac",
    "<KEHEH<SWASH KAF<KAFpdkv>dvac<NG<KAFpdnndxbe<GAF=pdkv<NGOEH<GAFpdohdxbe<GUEH<GAFpdnndxac",
    "<hbpdmcV>dvac>nndxac@be<iwpddvbe=GHUNNA<RNOON<iwpdkv>nndxac<HEH DOACHASHMEE<TCHEHpddvac",
    "<HEHpdpfac=GOAL>pdfsac<TEH MARBUTA GOAL<ozpdkv<KIRGHIZ OE<OE<U<YU<KIRGHIZ YU<ozpdohdxac<VE",
    "<FARSIpf<pfpdnb>mcV<ozpddvac<E<pfpdnndxbe=BARREE>pdfsac;fgmp;hnAE;mcfyhoSADpdhbpdafia",
    ">QAFpdhbpdafia=ifgjfa=hbaf=gt=nndx=le;END OF AYAH;START OF RUB EL HIZB;mcfyROUNDEDpj",
    "=UPRIGHT RECTANGULARpj=dwHEAD OFgx=ifgrfa<hule<fyMADDA<oz<pf<fypf=iw;PLACE OF SAJDAH",
    ";EMPTYbwhump=fymp;ROUNDEDfymppdFILLEDbw;mchuif;hnDALpdgoV<REHpdgoV:EXTENDEDatdspj>jj>oh>nn",
    ">fd>ey>lx>lh>ef>it:ashnlnpddvbe<DADpddvbe<fjpddvbe;luSINDHIam=POSTPOSITION MEN;hnHEHpdgoV",
    ":SYRIAC END OF PARAGRAPH;SUPRALINEARfgmp;SUBLINEARfgmp;SUPRALINEARch;SUBLINEARch;gcch",
    ";chSKEWEDhg=ks;SUPRALINEARchSKEWEDhg;SUBLINEARchSKEWEDks;CONTRACTION;HARKLEAN OBELUS",
    "<METOBELUS<ASTERISCUS:;aaib;hnALAPH<mvALAPH<BETH<GAMAL=GARSHUNI<DALATH<dwDALATH RISH<HE<oz",
    "<ZAIN<HETH<TETH=GARSHUNI<YUDH=HE<KAPH<LAMADH<MIM<jc<SEMKATH<ewSEMKATH<E<PE<krPE<SADHE<QAPH",
    "<RISH<lp<TAW<PERSIAN BHETH=GHAMAL=DHALATH;PTHAHAac<be<dy;ZQAPHAac<be<dy;RBASAac<be",
    ";dyZLAMAgc=ANGULAR;HBASAac<be<-ESASAdy;ESASAac<be;RWAHA;FEMININEdv;QUSHSHAYA;RUKKAKHA",
    ";ohordxac>be;nndxac=be;jehqac=be;MUSIC;BARREKH::;hnSOGDIAN ZHAIN=KHAPH=FE",
    ":ashnBEHpdnndxHORIZONTALLYbe>dvbeannndxac>nndxkaoobe@kaoobeanohdxac>ohdxbeandvac>gomcVbe",
    ">mcV<fqpdohdxac>nndxkaoobe<DALpdohdxosbeanmcTAH>gomcVbe<REHpdmr<lepdfddxac<AINpdohdxac",
    ">nndxkaedac>ohdxosac<FEHpdohdxbe>nndxkaoobe<KEHEHpddvac>nndxac@kaoobe<ifpddvac?be",
    "<iwpdohdxbe>mcTAH?V<hbpdbc<REHpdohdxosac>fsac<lepdohdxosac<fqpdmcashnTAHbe@hnTAHanohdx",
    "<lepdmcashnTAHanohdx<REHpdmcashnTAHanohdx<fqpdmcashnTAHac<afpdEXTENDEDatdsohac",
    "@-INDICdsnnac<FARSIpfpdEXTENDEDatdsohac@atdsnnac@atdsfdbe<ozpdEXTENDEDatdsohac",
    "@-INDICdsnnac<pfBARREEpdEXTENDEDatdsohac@atdsnnac<fqpdEXTENDEDatdsfdbe",
    "<lepdEXTENDEDatdsfdac>goV<KAFpdohdxac:THAANAhnHAA<SHAVIYANI<NOONU<RAA<BAA<LHAVIYANI<KAAFU",
    "<ALIFU<VAAVU<MEEMU<FAAFU<DHAALU<THAA<LAAMU<GAAFU<GNAVIYANI<SEENU<DAVIYANI<ZAVIYANI",
    "<TAVIYANI<YAA<PAVIYANI<JAVIYANI<CHAVIYANI<TTAA<HHAA<KHAA<THAALU<ZAA<SHEENU<SAADHU<DAADHU",
    "<TO<ZO<AINU<GHAINU<QAAFU<WAAVU;ABAFILI;AABAAFILI;IBIFILI;EEBEEFILI;UBUFILI;OOBOOFILI",
    ";EBEFILI;EYBEYFILI;OBOFILI;OABOAFILI;SUKUN;hnNAA"]⟩,
  ⟨0x7C0, [":NKOdspj<jj<oh<nn<fd<ey<lx<lh<ef<it;hnA<EE<I<E<U<OO<O<DAGBASINNA<N<BA<PA<TA<JA<bx",
    "<DA<RA<RRA<SA<GBA<FA<KA<LA<NA WOLOSO<MA<jd<NA<HA<WA<YA<jdWOLOSO<JONA JA=bx=RA;cilqfyns",
    "=huns=kwns<htDESCENDINGns=fyns=huns=kwns<NASALIZATIONib<dzdvac;fynsar;hunsar;mzOO DENNEN",
    "<GBAKURUNEN;cj;eqib;LAJANYALAN::;DANTAYALAN;DOROMElu;TAMANlu:SAMARITANhnALAF<BIT<GAMAN",
    "<DALAT<IY<BAA<ZEN<IT<TIT<YUT<KAAF<LABAT<MIM<jc<SINGAAT<IN<FI<TSAADIY<QUF<RISH<SHAN<TAAF",
    ";ibIN=-ALAF<OCCLUSION<da;iihnEPENTHETIC YUT;ibEPENTHETIC YUT;oxluhtE=E=OVERLONG AA=htAA=AA",
    "=OVERLONG A=htA=A;iihnlqA;oxlulqA=htU=U;iihnI;oxluhtI=I=O=SUKUN;ibNEQUDAA::;kgNEQUDAA",
    "<AFSAAQ<ANGED<BAU<ATMAAU<SHIYYAALAA;aaib;kgMELODIC QITSA<ZIQAA<QITSA<ZAEF<TURU<ARKAANU",
    "<SOF MASHFAAT<ANNAAU::MANDAIChnHALQA<AB<AG<AD<AH<USHENNA<AZ<IT<ATT<AKSA<AK<AL<AM<AN<AS<IN",
    "<AP<ASZ<AQ<AR<az<AT<DUSHENNA<KAD<AIN;AFFRICATIONib;VOCALIZATIONib;GEMINATIONib::;kg:",
    ":SYRIAChnMALAYALAMis=JA=jd=oa=iv=NNNA=bh=RA=LLA=LLLA=mn::::::ashnafpdATTACHED FATHA",
    "?nuksFATHA>ksigmr>hgigmr>ATTACHED KASRA?blksKASRA?ROUNDdvac?ksROUNDdv?hgROUNDdv?ROUNDdvbe",
    ">dvac>ATTACHEDnuksFATHAandvac>ksigmrandvac>ATTACHEDblksKASRAandvac?nuksFATHAanhgkv",
    ">ksigmranhgkv>ATTACHEDblksKASRAanhgkv?ksfs?hgfs;TATWEELpdOVERSTRUCKfs>oz=ohdxbe;hnTHINpf",
    ";BASELINE ROUNDdv;koROUNDdv;hniwpdgomcV<fqpdgomcVbe<TAHpddvbe>nndxbe<KEHEHpdohdxosbe;ornb:",
    ";POUNDibac;PIASTREibac::::::;mcfyWORD AL-JUZ<huWORD ISHMAAM>IMAALA>TASHEEL;MADDA WAAJIB",
    ";mvafMOKHASSAS;DOUBLED MADDA;frMADDAjoMADDA;hnBEHpdmcVbe>fsac<gtpdohdxac<TAHpdohdxac",
    "<FEHpddvbeannndxac<QAFpddvbe<hbpddzbc<ifpdnndxac<pfpdohdxbeanfsac@beandvac<REHpdLOOP",
    "<ozpddvWITHIN<ROHINGYApf<huaf<DALpdnndxbe<SADpdnndxbe<GAFpdgomr<mqoz<ZAINpdgoVac",
    "<AINpdnndxbe<KAFpddvbe<QAFpddvbeanNOdxac<BEHpdmcifac<PEHpdmcifac<TEHpdmcTEHac<REHpdmciwac",
    "<pfpdohdxbeanmciwac<AFRICAN FEH=QAF=iw<PEHpdmcV<TEHpdmcV<TTEHpdmcV<TCHEHpdmcV<KEHEHpdmcV",
    "<fjpdnndxac<AFRICAN QAFpdnndxac<gtpdnndxac@be<hbpdmcashnTAHac<GRAF;mcFARSIpf<fyFARSIpf",
    "=pfBARREEpdohdxbe=WORD SAH=ZAH;hdROUNDdvac>be;SUKUNbe;hdcbbe<ROUNDdvgkcbbe;mchuoz",
    "<fyWORD AR-RUB=SAD=AIN=QAF=iwpdKASRA<huiwpdKASRA<fyWORD ATH-THALATHA>AS-SAJDA>AN-NISF",
    ">SAKTA>QIF>WAQFA=FOOTNOTE MARKER=luSAFHA;DISPUTED END OF AYAH;ocDAMMAbe;cxFATHA<DAMMA",
    "<KASRA<FATHATAN<DAMMATAN<KASRATAN;nsjjdvac<ohdxac<LOOPac<jjdvbe<ohdxbe<LOOPbe;jkFATHATAN",
    "<DAMMATAN<KASRATAN;mcfyoz;FATHApdkv=dvac;KASRApddvbe;hgaxac;ksaxac;hgaxbe;ksaxbe;dzksaxac",
    "?pddv;ksaxacpddv;DAMMApddv;iblsiwGHUNNA:DEVANAGARIlugobr<br<aq<ov;hnlqA<A<AA<I<II<U<UU<owR",
    "=L<bqE<lqE<E<AI<bqO<lqO<O<AU<KA<gw<GA<fi<is<CA<bx<JA<gu<jd<oa<ob<df<dg<iv<TA<nh<DA<dk<NA",
    "<NNNA<PA<jw<BA<bh<MA<YA<RA<RRA<LA<LLA<LLLA<VA<lk<mn<SA<HA;oxluOE=OOE;luja<bb;oxluAA=I=II=U",
    "=UU=owR>RR=bqE=lqE=E=AI=bqO=lqO=O=AU;luou;oxluPRISHTHAMATRA E=AW;OM;STRESSluUDATTA",
    "=ANUDATTA;fmad;aead;oxlubqhtE=UE=UUE;hnQA<KHHA<GHHA<ZA<DDDHA<RHA<FA<YYA<owRR=LL;oxluowL>LL",
    ";db;dzdb;dspj<jj<oh<nn<fd<ey<lx<lh<ef<it;aalu;lufySPACINGdv;hnbqA<OE<OOE<AW<UE<UUE",
    "<MARWARIdf<ZHA<fxYA<GGA<JJA<flmp<DDDA<BBA:BENGALI ANJI;lubr<aq<ov:;hnA<AA<I<II<U<UU<owR=L:",
    ":<E<AI::<O<AU<KA<gw<GA<fi<is<CA<bx<JA<gu<jd<oa<ob<df<dg<iv<TA<nh<DA<dk<NA:<PA<jw<BA<bh<MA",
    "<YA<RA:<LA:::<lk<mn<SA<HA::;luja<bb;oxluAA=I=II=U=UU=owR>RR::=E=AI::=O=AU;luou;hnKHANDA TA",
    "::::::::;AUhkib::::;hnRRA<RHA:<YYA<owRR=LL;oxluowL>LL::;dspj<jj<oh<nn<fd<ey<lx<lh<ef<it",
    ";hnRApdigdm>hvdm;RUPEEib<lu;CURRENCY NUMERATORjj=oh=nn=fd=jjLESS THANniDENOMINATOR",
    "<DENOMINATORly;ISSHAR;GANDAib;hnVEDICaq;aalu;SANDHIib:::GURMUKHIluADAK BINDI<BINDI<ov:;hnA",
    "<AA<I<II<U<UU::::<EE<AI::<OO<AU<KA<gw<GA<fi<is<CA<bx<JA<gu<jd<oa<ob<df<dg<iv<TA<nh<DA<dk",
    "<NA:<PA<jw<BA<bh<MA<YA<RA:<LA<LLA:<VA<lk:<SA<HA::;luja:;oxluAA=I=II=U=UU::::=EE=AI::=OO=AU",
    ";luou:::<UDAAT:::::::;hnKHHA<GHHA<ZA<RRA:<FA:::::::;dspj<jj<oh<nn<fd<ey<lx<lh<ef<it;TIPPI",
    ";ADDAK;IRI;URA;EK ONKAR;luYAKASH;aalu:::::::::::GUJARATIlubr<aq<ov:;hnA<AA<I<II<U<UU<owR=L",
    ";oxbqE:;hnE<AI;oxbqO:;hnO<AU<KA<gw<GA<fi<is<CA<bx<JA<gu<jd<oa<ob<df<dg<iv<TA<nh<DA<dk<NA:",
    "<PA<jw<BA<bh<MA<YA<RA:<LA<LLA:<VA<lk<mn<SA<HA::;luja<bb;oxluAA=I=II=U=UU=owR>RR=bqE:=E=AI",
    "=bqO:=O=AU;luou::;OM"]⟩,
  ⟨0xAE0, [":GUJARATIhnowRR=LL;oxluowL>LL::;dspj<jj<oh<nn<fd<ey<lx<lh<ef<it;aalu;RUPEElu:::::::",
    ";hnZHA;luSUKUN<SHADDA<MADDAH<THREE-DOTjaac<cbjaac<TWO-CIRCLEjaac::ORIYAlubr<aq<ov:;hnA<AA",
    "<I<II<U<UU<owR=L::<E<AI::<O<AU<KA<gw<GA<fi<is<CA<bx<JA<gu<jd<oa<ob<df<dg<iv<TA<nh<DA<dk<NA",
    ":<PA<jw<BA<bh<MA<YA<RA:<LA<LLA:<VA<lk<mn<SA<HA::;luja<bb;oxluAA=I=II=U=UU=owR>RR::=E=AI::",
    "=O=AU;luou:::::::<OVERLINE;AIhkib;AUhkib::::;hnRRA<RHA:<YYA<owRR=LL;oxluowL>LL::;dspj<jj",
    "<oh<nn<fd<ey<lx<lh<ef<it;ISSHAR;hnWA;fejjkj=fr<nnkk<jjSIXTEENTH=eh<nnSIXTEENTHS::::::::::",
    ":TAMILluaq<ov:;hnA<AA<I<II<U<UU:::<E<EE<AI:<O<OO<AU<KA:::<is<CA:<JA:<jd<oa:::<iv<TA:::<NA",
    "<NNNA<PA:::<MA<YA<RA<RRA<LA<LLA<LLLA<VA<lk<mn<SA<HA::::;oxluAA=I=II=U=UU:::=E=EE=AI:=O=OO",
    "=AU;luou::;OM::::::;AUhkib"]⟩,
  ⟨0xBE6, [":TAMILdspj<jj<oh<nn<fd<ey<lx<lh<ef<it;jbnf<jjge=nl;DAYlu;MONTHlu;YEARlu;DEBITlu",
    ";CREDITlu;ASaclu;RUPEElu;jblu::::::TELUGUlucibrac<br<aq<ov<ciaqac;hnA<AA<I<II<U<UU<owR=L:",
    "<E<EE<AI:<O<OO<AU<KA<gw<GA<fi<is<CA<bx<JA<gu<jd<oa<ob<df<dg<iv<TA<nh<DA<dk<NA:<PA<jw<BA<bh",
    "<MA<YA<RA<RRA<LA<LLA<LLLA<VA<lk<mn<SA<HA::;luja<bb;oxluAA=I=II=U=UU=owR>RR:=E=EE=AI:=O=OO",
    "=AU;luou:::::::;hkib;AIhkib:;hnTSA<DZA<RRRA::<NAKAARA POLLU::<owRR=LL;oxluowL>LL::;dspj<jj",
    "<oh<nn<fd<ey<lx<lh<ef<it:::::::;luSIDDHAM;fedspjezODD POWERS OFfd=jjezODD POWERS OFfd",
    "=ohezODD POWERS OFfd=nnezODD POWERS OFfd=jjezEVEN POWERS OFfd=ohezEVEN POWERS OFfd",
    "=nnezEVEN POWERS OFfd;luTUUMU:KANNADAluSPACINGbr<br<aq<ov<SIDDHAM;hnA<AA<I<II<U<UU<owR=L:",
    "<E<EE<AI:<O<OO<AU<KA<gw<GA<fi<is<CA<bx<JA<gu<jd<oa<ob<df<dg<iv<TA<nh<DA<dk<NA:<PA<jw<BA<bh",
    "<MA<YA<RA<RRA<LA<LLA:<VA<lk<mn<SA<HA::;luja<bb;oxluAA=I=II=U=UU=owR>RR:=E=EE=AI:=O=OO=AU",
    ";luou:::::::;hkib;AIhkib::::::;hnNAKAARA POLLU<FA:<owRR=LL;oxluowL>LL::;dspj<jj<oh<nn<fd",
    "<ey<lx<lh<ef<it:;luJIHVAMULIYA<UPADHMANIYA"]⟩,
  ⟨0xD00, [":MALAYALAMluciaqac<br<aq<ov;hnVEDICaq<A<AA<I<II<U<UU<owR=L:<E<EE<AI:<O<OO<AU<KA<gw",
    "<GA<fi<is<CA<bx<JA<gu<jd<oa<ob<df<dg<iv<TA<nh<DA<dk<NA<NNNA<PA<jw<BA<bh<MA<YA<RA<RRA<LA",
    "<LLA<LLLA<VA<lk<mn<SA<HA<TTTA;luorbcou<CIRCULARou<bb;oxluAA=I=II=U=UU=owR>RR:=E=EE=AI:=O",
    "=OO=AU;luou;hndvREPH;luPARA::::;hnCHILLU M=Y=LLL;AUhkib;fejjONE-HUNDRED-AND-SIXTIETH",
    "=FORTIETH<nnEIGHTIETHS<jjTWENTIETH=TENTH<nnTWENTIETHS<jjFIFTH;hnauII<owRR=LL;oxluowL>LL::",
    ";dspj<jj<oh<nn<fd<ey<lx<lh<ef<it;jbnf<jjge=nl;fejjkj=fr<nnkk<jjSIXTEENTH=eh<nnSIXTEENTHS",
    ";DATEib;hnCHILLU NN=N=RR=L=LL=K::SINHALAlubr<ANUSVARAYA<VISARGAYA:;hnAYANNA<AAYANNA",
    "<AEYANNA<AEEYANNA<IYANNA<IIYANNA<UYANNA<UUYANNA<IRUYANNA<IRUUYANNA<ILUYANNA<ILUUYANNA",
    "<EYANNA<EEYANNA<AIYANNA<OYANNA<OOYANNA<AUYANNA:::<aiKAYANNA<hyKAYANNA<aiGAYANNA<hyGAYANNA",
    "<KANTAJA NAASIKYAYA<SANYAKA GAYANNA<aiCAYANNA<hyCAYANNA<aiJAYANNA<hyJAYANNA",
    "<TAALUJA NAASIKYAYA=SANYOOGA NAAKSIKYAYA<SANYAKA JAYANNA<aiTTAYANNA<hyTTAYANNA<aiDDAYANNA",
    "<hyDDAYANNA<MUURDHAJA NAYANNA<SANYAKA DDAYANNA<aiTAYANNA<hyTAYANNA<aiDAYANNA<hyDAYANNA",
    "<DANTAJA NAYANNA:<SANYAKA DAYANNA<aiPAYANNA<hyPAYANNA<aiBAYANNA<hyBAYANNA<MAYANNA",
    "<AMBA BAYANNA<YAYANNA<RAYANNA:<DANTAJA LAYANNA::<VAYANNA<TAALUJA SAYANNA<MUURDHAJA SAYANNA",
    "<DANTAJA SAYANNA<HAYANNA<MUURDHAJA LAYANNA<FAYANNA:::;luAL-LAKUNA::::;oxluAELA-PILLA",
    "=KETTI AEDA-PILLA=DIGA AEDA-PILLA=KETTI IS-PILLA=DIGA IS-PILLA=KETTI PAA-PILLA:",
    "=DIGA PAA-PILLA:=GAETTA-PILLA=KOMBUVA=DIGA KOMBUVA=KOMBU DEKA=KOMBUVA HAA AELA-PILLA",
    "?DIGA AELA-PILLA?GAYANUKITTA=GAYANUKITTA::::::;LITHdspj=jj=oh=nn=fd=ey=lx=lh=ef=it::",
    ";oxluDIGA GAETTA-PILLA>GAYANUKITTA;kgKUNDDALIYA:::::::::::::THAIbyKO KAI<KHO KHAI=KHUAT",
    "=KHWAI=KHON=RAKHANG<NGO NGU<CHO CHAN=CHING=CHANG<SO SO<CHO CHOE<YO YING<DO CHADA<TO PATAK",
    "<THO THAN=NANGMONTHO=PHUTHAO<NO NEN<DO DEK<TO TAO<THO THUNG=THAHAN=THONG<NO NU<BO BAIMAI",
    "<PO PLA<PHO PHUNG<FO FA<PHO PHAN<FO FAN<PHO SAMPHAO<MO MA<YO YAK<RO RUA<RU<LO LING<LU",
    "<WO WAEN<SO SALA=RUSI=SUA<HO HIP<LO CHULA<O ANG<HO NOKHUK<PAIYANNOI<SARA A<MAI HAN-AKAT",
    "<SARA AA=AM=I=II=UE=UEE=U=UU<PHINTHU::::;CURRENCYmzBAHT;bySARA E=AE=O=AI MAIMUAN>MAIMALAI",
    "<LAKKHANGYAO<MAIYAMOK<MAITAIKHU<MAI EK=THO=TRI=CHATTAWA<THANTHAKHAT<NIKHAHIT<YAMAKKAN",
    "<FONGMAN;dspj<jj<oh<nn<fd<ey<lx<lh<ef<it;byANGKHANKHU<KHOMUT"]⟩,
  ⟨0xE81, [":LAOhnKO<KHO SUNG:=TAM:<PALIfi<NGO<CO<PALIbx<SO TAM:<PALIgu<NYO<PALIjd=oa=ob=df=dg",
    "=iv<DO<TO<THO SUNG=TAM<PALIdk<NO<BO<PO<PHO SUNG<FO TAM<PHO TAM<FO SUNG<PALIbh<MO<YO",
    "<LO LING:=LOOT:<WO<SANSKRITlk=mn<SO SUNG<HO SUNG<PALI LLA<O<HO TAM;ELLIPSIS;oxluA=MAI KAN",
    "=AA=AM=I=II=Y=YY=U=UU;luPALIou;oxluMAI KON;SEMIVOWELluLO=NYO::;oxluE=EI=O=AY=AI:;KO LA:",
    ";nsMAI EK=THO=TI=CATAWA;CANCELLATIONib;NIGGAHITA::;dspj<jj<oh<nn<fd<ey<lx<lh<ef<it::;HO NO",
    "<MO;hnKHMU G",
    "O=NYO"]⟩,
  ⟨0xF00, [":TIBETANmyOM;ibGTER YIG MGO TRUNCATED A? -UM RNAM BCAD MA@-UM GTER TSHEG MA",
    "<gjYIG MGO MDUN MA<CLOSING YIG MGO SGAB MA<CARET YIG MGO PHUR SHAD MA",
    "<YIG MGO TSHEG SHAD MA<SBRUL SHAD<BSKUR YIG MGO<BKA- SHOG YIG MGO<INTERSYLLABIC TSHEG",
    "<DELIMITER TSHEG BSTAR<SHAD<NYIS SHAD<TSHEG SHAD<NYIS TSHEG SHAD<RIN CHEN SPUNGS SHAD",
    "<RGYA GRAM SHAD<CARET -DZUD RTAGS MEhtCAN<GTER TSHEG;LOGOTYPEluCHAD RTAGS=LHAG RTAGS",
    ";ASTROLOGICALluSGRA GCAN -CHAR RTAGS= -KHYUD PA=SDONG TSHUGS;luRDEL DKAR GCIG>GNYIS>GSUM",
    "=NAG GCIG>GNYIS=DKAR RDEL NAG;dspj<jj<oh<nn<fd<ey<lx<lh<ef<it<frjj=oh=nn=fd=ey=lx=lh=ef=it",
    "=pj;ibBSDUS RTAGS<NGAS BZUNG NYI ZLA<CARET -DZUD RTAGS BZHI MIG CAN<NGAS BZUNG SGOR RTAGS",
    "<CHE MGO<TSA -PHRU<GUG RTAGS GYON>GYAS<ANG KHANG GYON>GYAS;luYAR TSHES<MAR TSHES;hnKA<gw",
    "<GA<fi<is<CA<bx<JA:<jd<oa<ob<df<dg<iv<TA<nh<DA<dk<NA<PA<jw<BA<bh<MA<TSA<TSHA<DZA<DZHA<WA",
    "<ZHA<ZA< -A<YA<RA<LA<lk<mn<SA<HA<A<KSSA<FIXED-FORM RA<KKA<RRA::::;oxluAA=I=II=U=UU=owR>RR",
    ">L>LL=E=EE=O=OO;luRJES SUisRO<RNAM BCAD;oxlukrI>II;luNYI ZLA NAA DA<SNA LDAN;ibHALANTA",
    "<PALUTA;luLCI RTAGS<YANG RTAGS<LCE TSA CAN<MCHU CAN<GRU CAN RGYINGS=MED RGYINGS<goMCHU CAN",
    ";SUBJOINEDluLCE TSA CAN=MCHU CAN=goMCHU CAN<hnKA=gw=GA=fi=is=CA=bx=JA:=jd=oa=ob=df=dg=iv",
    "=TA=nh=DA=dk=NA=PA=jw=BA=bh=MA=TSA=TSHA=DZA=DZHA=WA=ZHA=ZA= -A=YA=RA=LA=lk=mn=SA=HA=A=KSSA",
    "=FIXED-FORM WA?YA?RA:;KU RUgw>BZHI MIG CAN;CANTILLATIONlufxBEAT=hpBEAT=CANG TE-U",
    "=SBUB -CHAL;mzDRIL BU<RDO RJE<PADMA GDAN<RDO RJE RGYA GRAM<PHUR PA<NOR BU>NYIS -KHYIL",
    ">GSUM -KHYIL>BZHI -KHYIL:;luRDEL NAG RDEL DKAR>GSUM;ibBSKA- SHOG GI MGO RGYAN",
    "<MNYAM YIG GI MGO RGYAN<NYIS TSHEG<gjBRDA RNYING YIG MGO MDUN MA",
    "<CLOSING BRDA RNYING YIG MGO SGAB MA:RIGHT-FACING SVASTIlu:LEFT-FACING SVASTIlu",
    ":RIGHT-FACING SVASTIlupddx:LEFT-FACING SVASTIlupddx:TIBETANibLEADING MCHAN RTAGS",
    "<TRAILING MCHAN RTAGS"]⟩,
  ⟨0x1000, [":MYANMARhnKA<gw<GA<fi<is<CA<bx<JA<gu<jd<NNYA<oa<ob<df<dg<iv<TA<nh<DA<dk<NA<PA<jw",
    "<BA<bh<MA<YA<RA<LA<WA<SA<HA<LLA<A<SHAN A<I<II<U<UU<E<MON E<O<AU;oxluTALL AA=AA=I=II=U=UU=E",
    "=AI=MON II>O=Eac;luaq<dvbe<ov<ou<ASAT;cmluidYA>RA>WA>HA;hnGREAT SA;dspj<jj<oh<nn<fd<ey<lx",
    "<lh<ef<it;luhrld<ld;mzLOCATIVE<COMPLETED<AFOREMENTIONED<GENITIVE;hnlk<mn<owR=RR=L=LL",
    ";oxluowR>RR>L>LL;hnMONis=gu=BBA=BBE;cmluMONidNA?MA?LA;hnSGAW KARENlk;oxluSGAW KAREN EU",
    ";nsibSGAW KAREN HATHI?KE PHO;hnWESTERN PWO KARENnh?PWA;oxluWESTERN PWO KAREN EU@UE",
    ";luWESTERN PWO KAREN TONE-1@-2@-3@-4@-5;hnEASTERN PWO KARENiv?YWA?GHWA;oxluGEBA KAREN I",
    "=KAYAH OE>U>EE;hnSHAN KA=gw=GA=CA=ZA=jd=DA=NA=jw=FA=BA=nh=HA;cmluSHANidWA;oxluSHAN AA>E?ac",
    ">ewY;luSHAN TONE-2>-3>-5>-6=COUNCIL TONE-2?-3>EMPHATICns;hnRUMAI PALAUNG FA",
    ";luRUMAI PALAUNG TONE-5;SHANdspj=jj=oh=nn=fd=ey=lx=lh=ef=it;luKHAMTI TONE-1>-3;oxluAITON A",
    ">AI;mzSHANjj=eq:GEORGIANbshnAN=BAN=GAN=DON=EN=VIN=ZEN=TAN=IN=KAN=LAS=MAN=NAR=ON=PAR=ZHAR",
    "=RAE=SAN=TAR=UN=PHAR=KHAR=GHAN=QAR=lp=CHIN=CAN=JIL=CIL=CHAR=XAN=JHAN=HAE=HE=HIE=WE=HAR=HOE",
    ":=YN:::::=AEN::;hnAN<BAN<GAN<DON<EN<VIN<ZEN<TAN<IN<KAN<LAS<MAN<NAR<ON<PAR<ZHAR<RAE<SAN<TAR",
    "<UN<PHAR<KHAR<GHAN<QAR<lp<CHIN<CAN<JIL<CIL<CHAR<XAN<JHAN<HAE<HE<HIE<WE<HAR<HOE<FI<YN<ELIFI",
    "<ocGAN<AIN;PARAGRAPHlg:iihnGEORGIAN NAR:GEORGIANhnAEN<HARDlu<LABIALlu",
    ":HANGUL CHOSEONG KIYEOK<SSANGKIYEOK<NIEUN<TIKEUT<SSANGTIKEUT<RIEUL<MIEUM<PIEUP<SSANGPIEUP",
    "<SIOS<SSANGSIOS<IEUNG<CIEUC<SSANGCIEUC<CHIEUCH<KHIEUKH<THIEUTH<PHIEUPH<HIEUH<NIEUN-KIYEOK",
    "<SSANGNIEUN<NIEUN-TIKEUT=-PIEUP<TIKEUT-KIYEOK<RIEUL-NIEUN<SSANGRIEUL<RIEUL-HIEUH",
    "<KAPYEOUNRIEUL<MIEUM-PIEUP<KAPYEOUNMIEUM<PIEUP-KIYEOK=-NIEUN=-TIKEUT=-SIOS>-KIYEOK>-TIKEUT",
    ">-PIEUP=-SSANGSIOS=-SIOS-CIEUC=-CIEUC=-CHIEUCH=-THIEUTH=-PHIEUPH<KAPYEOUNPIEUP",
    "<KAPYEOUNSSANGPIEUP<SIOS-KIYEOK=-NIEUN=-TIKEUT=-RIEUL=-MIEUM=-PIEUP>-KIYEOK=-SSANGSIOS",
    "=-IEUNG=-CIEUC=-CHIEUCH=-KHIEUKH=-THIEUTH=-PHIEUPH=-HIEUH<CHITUEUMSIOS<CHITUEUMSSANGSIOS",
    "<CEONGCHIEUMSIOS<CEONGCHIEUMSSANGSIOS<PANSIOS<IEUNG-KIYEOK=-TIKEUT=-MIEUM=-PIEUP=-SIOS",
    "=-PANSIOS<SSANGIEUNG<IEUNG-CIEUC=-CHIEUCH=-THIEUTH=-PHIEUPH<YESIEUNG<CIEUC-IEUNG",
    "<CHITUEUMCIEUC<CHITUEUMSSANGCIEUC<CEONGCHIEUMCIEUC<CEONGCHIEUMSSANGCIEUC<CHIEUCH-KHIEUKH",
    "=-HIEUH<CHITUEUMCHIEUCH<CEONGCHIEUMCHIEUCH<PHIEUPH-PIEUP<KAPYEOUNPHIEUPH<SSANGHIEUH",
    "<YEORINHIEUH<KIYEOK-TIKEUT<NIEUN-SIOS=-CIEUC=-HIEUH<TIKEUT-RIEUL<FILLER;JUNGSEONG FILLER<A",
    "<AE<YA<YAE<EO<E<YEO<YE<O<WA<WAE<OE<YO<U<WEO<WE<WI<YU<EU<YI<I<A-O=-U<YA-O=-YO<EO-O=-U=-EU",
    "<YEO-O=-U<O-EO=-E=-YE=-O=-U<YO-YA=-YAE=-YEO=-O=-I<U-A=-AE=-EO-EU=-YE=-U<YU-A=-EO=-E=-YEO",
    "=-YE=-U=-I<EU-U=-EU<YI-U<I-A=-YA=-O=-U=-EU=-ARAEA<ARAEA=-EO=-U=-I<SSANGARAEA<A-EU<YA-U",
    "<YEO-YA<O-YA=-YAE;JONGSEONG KIYEOK<SSANGKIYEOK<KIYEOK-SIOS<NIEUN=-CIEUC=-HIEUH<TIKEUT",
    "<RIEUL=-KIYEOK=-MIEUM=-PIEUP=-SIOS=-THIEUTH=-PHIEUPH=-HIEUH<MIEUM<PIEUP=-SIOS<SIOS",
    "<SSANGSIOS<IEUNG<CIEUC<CHIEUCH<KHIEUKH<THIEUTH<PHIEUPH<HIEUH<KIYEOK-RIEUL=-SIOS-KIYEOK",
    "<NIEUN-KIYEOK=-TIKEUT=-SIOS=-PANSIOS=-THIEUTH<TIKEUT-KIYEOK=-RIEUL<RIEUL-KIYEOK-SIOS",
    "=-NIEUN=-TIKEUT>-HIEUH<SSANGRIEUL<RIEUL-MIEUM-KIYEOK>-SIOS=-PIEUP-SIOS>-HIEUH",
    "=-KAPYEOUNPIEUP=-SSANGSIOS=-PANSIOS=-KHIEUKH=-YEORINHIEUH<MIEUM-KIYEOK=-RIEUL=-PIEUP=-SIOS",
    "=-SSANGSIOS=-PANSIOS=-CHIEUCH=-HIEUH<KAPYEOUNMIEUM<PIEUP-RIEUL=-PHIEUPH=-HIEUH",
    "<KAPYEOUNPIEUP<SIOS-KIYEOK=-TIKEUT=-RIEUL=-PIEUP<PANSIOS<IEUNG-KIYEOK=-SSANGKIYEOK",
    "<SSANGIEUNG<IEUNG-KHIEUKH<YESIEUNG=-SIOS=-PANSIOS<PHIEUPH-PIEUP<KAPYEOUNPHIEUPH",
    "<HIEUH-NIEUN=-RIEUL=-MIEUM=-PIEUP<YEORINHIEUH<KIYEOK-NIEUN=-PIEUP=-CHIEUCH=-KHIEUKH=-HIEUH",
    "<SSANGNIEUN:ETHIOPICmyHA<HU<HI<HAA<HEE<HE<HO<HOA<LA<LU<LI<LAA<LEE<LE<LO<LWA<HHA<HHU<HHI",
    "<HHAA<HHEE<HHE<HHO<HHWA<MA<MU<MI<MAA<MEE<ME<MO<MWA<SZA<SZU<SZI<SZAA<SZEE<SZE<SZO<SZWA<RA",
    "<RU<RI<RAA<REE<RE<RO<RWA<SA<SU<SI<SAA<SEE<SE<SO<SWA<lk<SHU<SHI<SHAA<SHEE<SHE<SHO<SHWA<QA",
    "<QU<QI<QAA<QEE<QE<QO<QOA<QWA:<QWI<QWAA<QWEE<QWE::<QHA<QHU<QHI<QHAA<QHEE<QHE<QHO:<QHWA:",
    "<QHWI<QHWAA<QHWEE<QHWE::<BA<BU<BI<BAA<BEE<BE<BO<BWA<VA<VU<VI<VAA<VEE<VE<VO<VWA<TA<TU<TI",
    "<TAA<TEE<TE<TO<TWA<CA<CU<CI<CAA<CEE<CE<CO<CWA<XA<XU<XI<XAA<XEE<XE<XO<XOA<XWA:<XWI<XWAA",
    "<XWEE<XWE::<NA<NU<NI<NAA<NEE<NE<NO<NWA<jd<NYU<NYI<NYAA<NYEE<NYE<NYO<NYWA<flA=U=I=AA=EE=E=O",
    "=WA<KA<KU<KI<KAA<KEE<KE<KO<KOA<KWA:<KWI<KWAA<KWEE<KWE::<KXA<KXU<KXI<KXAA<KXEE<KXE<KXO:",
    "<KXWA:<KXWI<KXWAA<KXWEE<KXWE::<WA<WU<WI<WAA<WEE<WE<WO<WOA<PHARYNGEAL A=U=I=AA=EE=E=O:<ZA",
    "<ZU<ZI<ZAA<ZEE<ZE<ZO<ZWA<ZHA<ZHU<ZHI<ZHAA<ZHEE<ZHE<ZHO<ZHWA<YA<YU<YI<YAA<YEE<YE<YO<YOA<DA",
    "<DU<DI<DAA<DEE<DE<DO<DWA<df<DDU<DDI<DDAA<DDEE<DDE<DDO<DDWA<JA<JU<JI<JAA<JEE<JE<JO<JWA<GA",
    "<GU<GI<GAA<GEE<GE<G",
    "O<GOA<GWA:<GWI<GWAA<GWEE<GWE::<GGA<GGU<GGI<GGAA<GGEE<GGE<GGO<GGWAA<nh<THU<THI<THAA<THEE<ni",
    "<THO<THWA<bx<CHU<CHI<CHAA<CHEE<CHE<CHO<CHWA<jw<PHU<PHI<PHAA<PHEE<PHE<PHO<PHWA<TSA<TSU<TSI",
    "<TSAA<TSEE<TSE<TSO<TSWA<TZA<TZU<TZI<TZAA<TZEE<TZE<TZO<TZOA<FA<FU<FI<FAA<FEE<FE<FO<FWA<PA",
    "<PU<PI<PAA<PEE<PE<PO<PWA<RYA<MYA<FYA::;ciGEMINATIONanoxhkib<oxhkib<GEMINATIONib;ldib",
    ";WORDSPACE;fgmp;cj;lf;ch;PREFACEch;kmib;PARAGRAPHlg;dsjj<oh<nn<fd<ey<lx<lh<ef<it;jbnf<og",
    "<nk<fb<ev<lz<lj<ej<iu<ge<nfnl:::;mySEBATBEIT MWA<MWI<MWEE<MWE<SEBATBEIT BWA<BWI<BWEE<BWE",
    "<SEBATBEIT FWA<FWI<FWEE<FWE<SEBATBEIT PWA<PWI<PWEE<PWE;TONALibYIZET=DERET=RIKRIK=lqRIKRIK",
    "=DIFAT=KENAT=CHIRET=HIDET=DERET-HIDET=KURT:::::::CHEROKEEhnA<E<I<O<U<V<GA<KA<GE<GI<G",
    "O<GU<GV<HA<HE<HI<HO<HU<HV<LA<LE<LI<LO<LU<LV<MA<ME<MI<MO<MU<NA<HNA<NAH<NE<NI<NO<NU<NV<QUA",
    "<QUE<QUI<QUO<QUU<QUV<SA<S<SE<SI<SO<SU<SV<DA<TA<DE<TE<DI<TI<DO<DU<DV<DLA<TLA<TLE<TLI<TLO",
    "<TLU<TLV<TSA<TSE<TSI<TSO<TSU<TSV<WA<WE<WI<WO<WU<WV<YA<YE<YI<YO<YU<YV<MV::;mchnYE=YI=YO=YU",
    "=YV=MV:::CANADIAN SYLLABICS HYPHEN<E<AAI<I<II<O<OO<peOO<buEE=I<A<AA<WE<pbWE<WI<pbWI<WII",
    "<pbWII<WO<pbWO<WOO<pbWOO<NASKAPI WOO<WA<pbWA<WAA<pbWAA<NASKAPI WAA<AI<peW<flmp<ewae=fm",
    "=blfrkv=nufrkv=ksfrkv=kv=dzae>lqorSTROKES=igdv=lqgcmr=jy=ebna<EN<IN<ON<AN<PE<PAAI<PI<PII",
    "<PO<POO<pePOO<buHEE=HI<PA<PAA<PWE<pbPWE<PWI<pbPWI<PWII<pbPWII<PWO<pbPWO<PWOO<pbPWOO<PWA",
    "<pbPWA<PWAA<pbPWAA<pePWAA<P<pbP<buH<TE<TAAI<TI<TII<TO<TOO<peTOO<buDEE=DI<TA<TAA<TWE<pbTWE",
    "<TWI<pbTWI<TWII<pbTWII<oh<pboh<TWOO<pbTWOO<TWA<pbTWA<TWAA<pbTWAA<NASKAPI TWAA<T<TTE<TTI",
    "<TTO<oa<KE<KAAI<KI<KII<KO<KOO<peKOO<KA<KAA<KWE<pbKWE<KWI<pbKWI<KWII<pbKWII<KWO<pbKWO<KWOO",
    "<pbKWOO<KWA<pbKWA<KWAA<pbKWAA<NASKAPI KWAA<K<KW<SOUTH-SLAVEY KEH>KIH>KOH>KAH<CE<CAAI<CI",
    "<CII<CO<COO<peCOO<CA<CAA<CWE<pbCWE<CWI<pbCWI<CWII<pbCWII<CWO<pbCWO<CWOO<pbCWOO<CWA<pbCWA",
    "<CWAA<pbCWAA<NASKAPI CWAA<C<SAYISI TH<ME<MAAI<MI<MII<MO<MOO<peMOO<MA<MAA<MWE<pbMWE<MWI",
    "<pbMWI<MWII<pbMWII<MWO<pbMWO<MWOO<pbMWOO<MWA<pbMWA<MWAA<pbMWAA<NASKAPI MWAA<M<pbM<MH",
    "<ATHAPASCAN M<SAYISI M<NE<NAAI<NI<NII<NO<NOO<peNOO<NA<NAA<NWE<pbNWE<NWA<pbNWA<NWAA<pbNWAA",
    "<NASKAPI NWAA<N<buNG<NH<LE<LAAI<LI<LII<LO<LOO<peLOO<LA<LAA<LWE<pbLWE<LWI<pbLWI<LWII<pbLWII",
    "<LWO<pbLWO<LWOO<pbLWOO<LWA<pbLWA<LWAA<pbLWAA<L<pbL<idL<SE<SAAI<SI<SII<SO<SOO<peSOO<SA<SAA",
    "<SWE<pbSWE<SWI<pbSWI<SWII<pbSWII<SWO<pbSWO<SWOO<pbSWOO<SWA<pbSWA<SWAA<pbSWAA<NASKAPI SWAA",
    "<S<ATHAPASCAN S<SW<BLACKFOOT S<MOOSE-CREE SK<NASKAPI SKW=S-W=SPWA=STWA=SKWA=SCWA<SHE<SHI",
    "<SHII<SHO<SHOO<lk<SHAA<SHWE<pbSHWE<SHWI<pbSHWI<SHWII<pbSHWII<SHWO<pbSHWO<SHWOO<pbSHWOO",
    "<SHWA<pbSHWA<SHWAA<pbSHWAA<SH<YE<YAAI<YI<YII<YO<YOO<peYOO<YA<YAA<YWE<pbYWE<YWI<pbYWI<YWII",
    "<pbYWII<YWO<pbYWO<YWOO<pbYWOO<YWA<pbYWA<YWAA<pbYWAA<NASKAPI YWAA<Y<BIBLE-CREE Y<pbY",
    "<SAYISI YI<RE<R-CREE RE<pbLE<RAAI<RI<RII<RO<ROO<pbLO<RA<RAA<pbLA<RWAA<pbRWAA<R<pbR<idR<FE",
    "<FAAI<FI<FII<FO<FOO<FA<FAA<FWAA<pbFWAA<F<ni<N-CREEni<THI<N-CREE THI<THII<N-CREE THII<THO",
    "<THOO<nh<THAA<THWAA<pbTHWAA<TH<TTHE<TTHI<TTHO<ob<TTH<TYE<TYI<TYO<TYA<NUNAVIK HE=HI=HII=HO",
    "=HOO=HA=HAA=H<NUNAVUT H<HK<QAAI<QI<QII<QO<QOO<QA<QAA<Q<TLHE<TLHI<TLHO<TLHA<pbRE>RI>RO>RA",
    "<NGAAI<NGI<NGII<NGO<NGOO<is<NGAA<NG<NNG<SAYISI SHE=SHI=SHO=lk<WOODS-CREEni>THI>THO>nh>TH",
    "<LHI<LHII<LHO<LHOO<LHA<LHAA<LH<TH-CREEni>THI>THII>THO>THOO>nh>THAA>TH<AIVILIK B",
    "<BLACKFOOT E=I=O=A=WE=WI=WO=WA=NE=NI=NO=NA=KE=KI=KO=KA<SAYISI HE=HI=HO=HA<buGHU=GHO=GHE",
    "=GHEE=GHI=fi=RU=RO=RE=REE=RI=RA=WU=WO=WE=WEE=WI=WA=HWU=HWO=HWE=HWEE=HWI=HWA=THU=THO=ni",
    "=THEE=THI=nh=TTU=TTO=TTE=TTEE=TTI=oa=PU=PO=PE=PEE=PI=PA=P=GU=G",
    "O=GE=GEE=GI=GA=KHU=KHO=KHE=KHEE=KHI=gw=KKU=KKO=KKE=KKEE=KKI=KKA=KK=NU=NO=NE=NEE=NI=NA=MU",
    "=MO=ME=MEE=MI=MA=YU=YO=YE=YEE=YI=YA=JU<SAYISI JU<buJO=JE=JEE=JI<SAYISI JI<buJA=JJU=JJO=JJE",
    "=JJEE=JJI=JJA=LU=LO=LE=LEE=LI=LA=DLU=DLO=DLE=DLEE=DLI=DLA=LHU=LHO=LHE=LHEE=LHI=LHA=TLHU",
    "=TLHO=TLHE=TLHEE=TLHI=TLHA=TLU=TLO=TLE=TLEE=TLI=TLA=ZU=ZO=ZE=ZEE=ZI=ZA=Z=gjZ=DZU=DZO=DZE",
    "=DZEE=DZI=DZA=SU=SO=SE=SEE=SI=SA=SHU=SHO=SHE=SHEE=SHI=lk=SH=TSU=TSO=TSE=TSEE=TSI=TSA=CHU",
    "=CHO=CHE=CHEE=CHI=bx=TTSU=TTSO=TTSE=TTSEE=TTSI=TTSA<CHIlu<fgmp<QAI<NGAI<NNGI<NNGII<NNGO",
    "<NNGOO<NNGA<NNGAA<WOODS-CREE THWEE>THWI>THWII>THWO>THWOO>THWA>THWAA>ewTH<BLACKFOOT W",
    ":OGHAMmhib;hnBEITH<LUIS<FEARN<SAIL<NION<UATH<DAIR<TINNE<COLL<CEIRT<MUIN<GORT<NGEADAL",
    "<STRAIF<RUIS<AILM<ONN<UR<EADHADH<IODHADH<EABHADH<OR<UILLEANN<IFIN<EAMHANCHOLL<PEITH",
    ";FEATHERib;krFEATHERib::::RUNIChnFEHU FEOH FE F<V<URUZ UR U<YR<Y<W<THURISAZ THURS THORN",
    "<ETH<ANSUZ A<OS O<AC A<AESC<LONG-BRANCH-OSS O<SHORT-TWIG-OSS O<O<OE<ON<RAIDO RAD REID R",
    "<KAUNA<CEN<KAUN K<G<ENG<GEBO GYFU G<GAR<WUNJO WYNN W<HAGLAZ H<HAEGL H<LONG-BRANCH-HAGALL H",
    "<SHORT-TWIG-HAGALL H<NAUDIZ NYD NAUD N<SHORT-TWIG-NAUD N<DOTTED-N<ISAZ IS ISS I<E<JERAN J",
    "<GER<LONG-BRANCH-AR AE<SHORT-TWIG-AR A<IWAZ EOH<PERTHO PEORTH P<ALGIZ EOLHX<SOWILO S",
    "<SIGEL LONG-BRANCH-SOL S<SHORT-TWIG-SOL S<C<Z<TIWAZ TIR TYR T<SHORT-TWIG-TYR T<D",
    "<BERKANAN BEORC BJARKAN B<SHORT-TWIG-BJARKAN B<DOTTED-P<OPEN-P<EHWAZ EH E<MANNAZ MAN M",
    "<LONG-BRANCH-MADR M<SHORT-TWIG-MADR M<LAUKAZ LAGU LOGR L<DOTTED-L<INGWAZ<ING<DAGAZ DAEG D",
    "<OTHALAN ETHEL O<EAR<IOR<CWEORTH<CALC<CEALC<STAN<LONG-BRANCH-YR<SHORT-TWIG-YR<ICELANDIC-YR",
    "<Q<X;lwkg;imkg;crkg;ARLAUGmz;TVIMADURmz;BELGTHORmz;hnK<SH<OO<FRANKS CASKET OS>IS>EH>AC",
    ">AESC::::::::TAGALOGhnA<I<U<KA<GA<is<TA<DA<NA<PA<BA<MA<YA<RA<LA<WA<SA<HA;oxluI=U;luou",
    "<PAMUDPOD:::::::::;hnauRA:HANUNOOhnA<I<U<KA<GA<is<TA<DA<NA<PA<BA<MA<YA<RA<LA<WA<SA<HA",
    ";oxluI=U;luPAMUDPOD:PHILIPPINElwkg;dzkg::::::::::BUHIDhnA<I<U<KA<GA<is<TA<DA<NA<PA<BA<MA",
    "<YA<RA<LA<WA<SA<HA;oxluI=U:::::::::::::TAGBANWAhnA<I<U<KA<GA<is<TA<DA<NA<PA<BA<MA<YA:<LA",
    "<WA<SA:;oxluI=U:::::::::::::KHMERhnKA<gw<KO<KHO<NGO<CA<bx<CO<CHO<NYO<DA<ob<DO<TTHO<NNO<TA",
    "<nh<TO<THO<NO<BA<jw<PO<PHO<MO<YO<RO<LO<VO<lk<SSO<SA<HA<LA<QA;ggoxQAQ=QAA=QI=QII=QU=QUK=QUU",
    "=QUUV=RY=RYY=LY=LYY=QE=QAI=QOO TYPEjj?oh=QAU;oxINHERENT AQ=AA<luAA=I=II=Y=YY=U=UU=UA=OE=YA",
    "=IE=E=AE=AI=OO=AU;luNIKAHIT<REAHMUK<YUUKALEAPINTU<MUUSIKATOAN<TRIISAP<BANTOC<ROBAT",
    "<TOANDAKHIAT<KAKABAT<AHSDA<SAMYOK SANNYA<VIRIAM<COENG<BATHAMASAT<KHAN<BARIYOOSAN",
    "<CAMNUC PII KUUH<LEK TOO<BEYYAL<PHNAEK MUAN<KOOMUUT;CURRENCYmzRIEL;luAVAKRAHASANYA",
    "<ATTHACAN::;dspj<jj<oh<nn<fd<ey<lx<lh<ef<it::::::;mzLEK ATTAK SON>MUOY>PII>BEI>BUON>PRAM",
    "?-MUOY?-PII?-BEI?-BUON:::::::MONGOLIAN BIRGA;ELLIPSIS;cj;fgmp;ch;fddx;TODO SOFT HYPHEN",
    ";SIBEmyBOUNDARY MARKER;MANCHUcj<fgmp;NIRUGU;FREE VARIATION SELECTORjj>oh>nn;oxlg",
    ";FREE VARIATION SELECTORfd;dspj<jj<oh<nn<fd<ey<lx<lh<ef<it::::::;hnA<E<I<O<U<OE<UE<EE<NA",
    "<ANG<BA<PA<QA<GA<MA<LA<SA<lk<TA<DA<bx<JA<YA<RA<WA<FA<KA<gw<TSA<ZA<HAA<ZRA<LHA<ZHI<CHI",
    "<TODOhtoxlu=E=I=O=U=OE=UE=ANG=BA=PA=QA=GA=MA=TA=DA=bx=JA=TSA=YA=WA=KA=GAA=HAA=JIA=NIA=DZA",
    "<SIBE E=I=IY=UE=U=ANG=KA=GA=HA=PA=lk=TA=DA=JA=FA=GAA=HAA=TSA=ZA=RAA=bx=ZHA<MANCHU I=KA=RA",
    "=FA=ZHA<bxpdohdx:::::::<ALI GALIaqjj>ovjj>DAMARU>UBADAMA>goUBADAMA>BALUDA>nnBALUDA>A>I>KA",
    ">is>CA>oa>ob>df>iv>TA>DA>PA>jw>mn>ZHA>ZA>AH<TODO ALI GALI TA?ZHA<MANCHU ALI GALIfi?is?CA",
    "?gu?oa?dg?TA?dk?mn?CYA?ZHA?ZA<ALI GALIfrU?YA<MANCHU ALI GALIbh<ALI GALI DAGALGA",
    "<MANCHU ALI GALI LHA::::::CANADIAN SYLLABICS OY<AY<AAY<WAY<POY<PAY<PWOY<TAY<KAY<KWAY<MAY",
    "<NOY<NAY<LAY<SOY<SAY<SHOY<SHAY<SHWOY<YOY<YAY<RAY<NWI<OJIBWAY NWI<NWII<OJIBWAY NWII<NWO",
    "<OJIBWAY NWO<NWOO<OJIBWAY NWOO<RWEE<RWI<RWII<RWO<RWOO<RWA<OJIBWAY P=T=K=C=M=N=S=SH",
    "<EASTERN W<WESTERN W<ewmckv=kodv<R-CREE RWE<pbLOO>LAA<THWE<THWA<TTHWE<TTHOO<TTHAA<TLHWE",
    "<TLHOO<SAYISI SHWE=SHOO=HOO<buGWU=DENE GEE=GAA=GWA<SAYISI JUU<buJWA<BEAVER DENE L>R",
    "<buDENTAL S:::::::::::LIMBU VOWEL-CARRIERhn;hnKA<gw<GA<fi<is<CA<bx<JA<gu<YAN<TA<nh<DA<dk",
    "<NA<PA<jw<BA<bh<MA<YA<RA<LA<WA<lk<mn<SA<HA<GYAN<TRA:;oxluA=I=U=EE=AI=OO=AU=E=O",
    ";SUBJOINEDhnYA=RA=WA::::;mchnKA=is=aq=TA=NA=PA=MA=RA=LA;luMUKPHRENG<KEMPHRENG<SA-I::::<LOO",
    ":::;eqib;kmib;dspj<jj<oh<nn<fd<ey<lx<lh<ef<it:TAI LEhnKA=XA=is=TSA=SA=YA=TA=nh=LA=PA=jw=MA",
    "=FA=VA=HA=QA=gw=TSHA=NA=A=I=EE=EH=U=OO=O=UE=E=AUE=AI::=TONE-2>-3>-4>-5>-6:::::::::::",
    ":NEW TAI LUEhnfyQA>huQA>fyKA?XA?is>huKA?XA?is>fyTSA?SA?YA>huTSA?SA?YA>fyTA?nh?NA>huTA?nh",
    "?NA>fyPA?jw?MA>huPA?jw?MA>fyFA?VA?LA>huFA?VA?LA>fyHA?DA?BA>huHA?DA?BA>fyKVA?XVA>huKVA?XVA",
    ">fySUA>huSUA::::=oxluoxSHORTENER?AA?II?U?UU?E?AE?O?OA?UE?AY?AAY?UY?OY?OAY?UEY?IY=hnewV?NG",
    "?N?M?K?D?B=nsMARK-1?-2::::::=dspj>jj>oh>nn>fd>ey>lx>lh>ef>it=THAMdsjj:::=luLAE>LAEV",
    ":KHMERmzPATHAMASAT<MUOY KOET<PII KOET<BEI KOET<BUON KOET<PRAM KOET=-MUOY KOET=-PII KOET",
    "=-BEI KOET=-BUON KOET<DAP KOET=-MUOY KOET=-PII KOET=-BEI KOET=-BUON KOET=-PRAM KOET",
    "<TUTEYASAT<MUOY ROC<PII ROC<BEI ROC<BUON ROC<PRAM ROC=-MUOY ROC=-PII ROC=-BEI ROC",
    "=-BUON ROC<DAP ROC=-MUOY ROC=-PII ROC=-BEI ROC=-BUON ROC=-PRAM ROC:BUGINESEhnKA<GA<is<NGKA",
    "<PA<BA<MA<MPA<TA<DA<NA<NRA<CA<JA<jd<NYCA<YA<RA<LA<VA<SA<A<HA;oxluI=U=E=O=AE::;PALLAWA",
    ";END OFld:TAI THAMhnfyKA>gw>KXA=huKA>KXA>gw=is=fyCA>bx=huCA>SA>bx=jd=RATA=fyRATHA=DA",
    "=huRATHA=RANA=fyTA>nh=huTA>nh=NA=BA=fyPA>jw>FA=huPA>FA>jw=MA=huYA=fyYA=RA=RUE=LA=LUE=WA",
    "=fylk>mn>SA>HA=LLA=A=huHA=I=II=U=UU=EE=OO=LAE=GREAT SA<cmluidRA?LA>LA TANG LAI",
    "<luMAI KANG LAI<cmluewis>huPA>fyRATHA ORhuPA>MA>BA>SA:<luSAKOT<oxluA>MAI SAT>AA>TALL AA>I",
    ">II>UE>UUE>U>UU>O>OAbe>OY>E>AE>OO>AI>THAM AI>OAac<luMAI KANG=TONE-1>-2=KHUEN TONE-3?-4?-5",
    "=RA HAAM=MAI SAM=KHUEN-LUE KARAN::<cicvdv<HORAdspj>jj>oh>nn>fd>ey>lx>lh>ef>it::::::",
    "<THAMdspj>jj>oh>nn>fd>ey>lx>lh>ef>it::::::<luWIANG=WIANGWAAK=SAWAN=KEOW=HOY=DOKMAI",
    "=krkxRANA=MAI YAMOK=KAAN=KAANKUU=SATKAAN=SATKAANKUU=HANG=CAANG:::ciDOUBLEDcead",
    ";DIAERESIS-RING;INFINITY;edaw;nzdv;X-Xbe;WIGGLYhqbe;jkibbe;dzjkibbe;hpCENTRALIZATIONmrbe",
    ";STRONG CENTRALIZATIONmrbe;PARENTHESESac;dzPARENTHESESac;PARENTHESESbe<jq;hemchnWbe>ocWbe",
    ";hgjtachg;ksjtacks;hgjtbehg;ksjtbeks;mlBRACKETSac;jbluac;godzARCHac;jyluac;dzjyluac>be",
    ";nzaead;hemchnglG?R?T"]⟩,
  ⟨0x1B00, [":BALINESEluULU RICEM=bq<CECEK<SURANG<BISAH;hnAKARA=nd<IKARA=nd<UKARA=nd<RA REPA>nd",
    "<LA LENGA>nd<EKARA<AIKARA<OKARA=nd<KA=hz<GA=GORA<is<CA=LACA<JA=JERA<jd<TA LATIK=MURDAhz",
    "<DA MURDA ALPAPRANA>hz<NA RAMBAT<TA=TAWA<DA=MADU<NA<PA=KAPAL<BA=KEMBANG<MA<YA<RA<LA<WA",
    "<SA SAGA=SAPA<SA<HA;luREREKAN;oxlund=ULU>SARI=SUKU>ILUT=RA REPA?nd=LA LENGA?nd=TALING>REPA",
    ">nd>REPAnd=PEPET>nd;ADEG ADEG;hnKAF SASAK<KHOT SASAK<TZIR SASAK<EF SASAK<VE SASAK",
    "<ZAL SASAK<ASYURA SASAK<auJNYA:::;dspj<jj<oh<nn<fd<ey<lx<lh<ef<it;PANTI;PAMADA;WINDU",
    ";CARIK PAMUNGKAH<SIKI<PAREREN;PAMENENG;iomzDONG=DENG=DUNG=DANG>SURANG=DING=DAENG=DEUNG",
    "=DAING=DANG GEDE=ciTEGEH>ENDEP>KEMPUL>KEMPLI>JEGOGAN>KEMPULpdJEGOGAN>KEMPLIpdJEGOGAN>BENDE",
    ">GONG=RIGHT-HANDjkDUG@DAG?cgTUK@TAK=LEFT-HANDjkPANG@PUNG?cgPLAK@PLUK?jkPING;PANTI LANTANG",
    ";PAMADA LANTANG::SUNDANESEluPANYECEK<PANGLAYAR<PANGWISAD;hnA<I<U<AE<O<E<EU<KA<QA<GA<is<CA",
    "<JA<ZA<jd<TA<DA<NA<PA<FA<VA<BA<MA<YA<RA<LA<WA<SA<XA<HA;cmluPAMINGKAL=PANYAKRA=PANYIKU",
    ";oxluPANGHULU=PANYUKU=PANAELAENG=PANOLONG=PAMEPET=PANEULEUNG;luPAMAAEH<ou;cmluPASANGAN MA",
    ">WA;hngw<SYA;dspj<jj<oh<nn<fd<ey<lx<lh<ef<it;bb;hnREU<LEU<bh<ewK=M:BATAKhnA<lvA<HA<lvHA",
    "<MANDAILING HA<BA<KARO BA<PA<lvPA<NA<MANDAILING NA<WA<lvWA<PAKPAK WA<GA<lvGA<JA<DA<RA<lvRA",
    "<MA<lvMA<SOUTHERN TA<NORTHERN TA<SA<lvSA<MANDAILING SA<YA<lvYA<is<LA<lvLA<jd<CA<NDA<MBA<I",
    "<U;luTOMPI;oxluE=PAKPAK E=EE=I=KARO I=O=KARO O=U>ezlvSA;cmluNG=H;PANGOLAT;PANONGONAN::::::",
    "::;mzBINDU NA METEK=PINARBORAS=JUDUL=PANGOLAT:LEPCHAhnKA<KLA<gw<GA<GLA<is<CA<bx<JA<jd<TA",
    "<nh<DA<NA<PA<PLA<jw<FA<FLA<BA<BLA<MA<MLA<TSA<TSHA<DZA<YA<RA<LA<HA<HLA<VA<SA<lk<WA<A",
    ";SUBJOINEDhnYA=RA;oxluAA=I=O=OO=U=UU=E;cmluK=M=L=N=P=R=T=NYIN-DO=KANG;luRAN<ja:::;kgTA-ROL",
    "<NYET THYOOM TA-ROL<CER-WA<TSHOOK CER-WA<TSHOOK;dspj<jj<oh<nn<fd<ey<lx<lh<ef<it:::;hnoa<ob",
    "<df:OL CHIKIdspj=jj=oh=nn=fd=ey=lx=lh=ef=it<hnLA=AT=AG=ANG=AL=LAA=AAK=AAJ=AAM=AAW=LI=IS=IH",
    "=INY=IR=LU=UC=UD=UNN=UY=LE=EP=EDD=EN=ERR=LO=OTT=OB=OV=OH<MU TTUDDAG<GAAHLAA TTUDDAAG",
    "<MU-GAAHLAA TTUDDAAG<RELAA<PHAARKAA<AHAD<kgMUCAAD=dzMUCAAD:czmchnROUNDED VE=LONG-LEGGED DE",
    "=NARROW O=WIDE ES=TALL TE=THREE-LEGGED TE=TALL HARDlu>YAT=UNBLENDED UK:::::::",
    ":GEORGIAN MTAVRULIbshnAN>BAN>GAN>DON>EN>VIN>ZEN>TAN>IN>KAN>LAS>MAN>NAR>ON>PAR>ZHAR>RAE>SAN",
    ">TAR>UN>PHAR>KHAR>GHAN>QAR>lp>CHIN>CAN>JIL>CIL>CHAR>XAN>JHAN>HAE>HE>HIE>WE>HAR>HOE>FI>YN",
    ">ELIFI>ocGAN>AIN::>AEN>HARDlu>LABIALlu:SUNDANESEkgBINDU SURYA=PANGLONG=PURNAMA=CAKRA",
    "=LEU SATANGA=KA SATANGA=DA SATANGA=BA SATANGA:::::::::VEDICnsKARSHANA<SHARA<PRENKHA",
    ";luNIHSHVASA<YAJURVEDIC MIDLINEmx;nsYAJURVEDIC AGGRAVATEDggmx=ggmx=KATHAKAggmx<bqbe",
    "<YAJURVEDIC KATHAKAggmxSCHROEDER<dzmx<nzmx<KATHAKA ANUDATTA<dvbe<ohdxbe<nndxbe",
    "<RIGVEDIC KASHMIRIggmx<ATHARVAVEDICggmx;luovmx=UDATTA<krovUDATTA<ovANUDATTA<krovANUDATTA",
    "<ovUDATTApdnb=ANUDATTApdnb<aqANTARGOMUKHA=BAHIRGOMUKHA=VAMAGOMUKHA>pdnb<TIRYAK",
    "<HEXIFORMhtaq<htaq<RTHANGhtaq<aqUBHAYATO MUKHA<ARDHAVISARGA<kxARDHAVISARGA;nsbqac",
    ";luJIHVAMULIYA<UPADHMANIYA<ATIKRAMA;nskvac<dzkvac;ludzaqANTARGOMUKHA::::::hehnmcbsA>AE",
    ";mchnocAE;hnmcbsBARRED B>C>D>ETH>E;mchnocjkE>I;hnmcbsJ>K>Lpdmr>M>krN>O>jkO;mchnlsO>jkO",
    ">Opdmr=ocOE;hnmcbsOU;mchnnufrO=blfrO;hnmcbsP>krR>ocR>T>U;mchnlsU>DIAERESIZED U>ocM;hnmcbsV",
    ">W>Z>EZH<VOICED LARYNGEAL SPIRANT<AIN:fohnmcbsfh>LAMDA>PI>RHO>PSI:czhnmcbsEL:iihnbsA=AE=B",
    "=BARRED B=D=E=krE=G=H=I=J=K=L=M=N=krN=O=OU=P=R=T=U=W<mcA=ocA=aj=ocAE=B=D=E=SCHWA=jkE=ocjkE",
    "=G=ocI=K=M=ENG=O=jkO=nufrO=blfrO=P=T=U=lsU=ocM=V=AIN=BETA=fofh=di=foPHI=CHI",
    ":heSUBSCRIPTmchnI>R>U>V:foSUBSCRIPTmchnBETA>fh>RHO>PHI>CHI:hemchnUE=Bpdignq=Dpdignq",
    "=Fpdignq=Mpdignq=Npdignq=Ppdignq=Rpdignq?FISHHOOKanignq=Spdignq=Tpdignq=Zpdignq=ocG",
    ":iihnczEN:hemchnglG=THpdSTRIKETHROUGH<bshnIpdmr<hngppdmr=Ppdmr<bshnUpdmr<hnonpdmr=Bpdjsgb",
    "=Dpdjsgb=Fpdjsgb=Gpdjsgb=Kpdjsgb=Lpdjsgb=Mpdjsgb=Npdjsgb=Ppdjsgb=Rpdjsgb=Spdjsgb=ESHpdjsgb",
    "=Vpdjsgb=Xpdjsgb=Zpdjsgb=Apdkpgb=ajpdkpgb=Dpdgbannb=Epdkpgb=jkEpdkpgb=krjkEpdkpgb",
    "=SCHWApdkpgb=Ipdkpgb=jkOpdkpgb=ESHpdkpgb=Updkpgb=EZHpdkpgb:iihnmcocaj=C>pdcw=ETH=krjkE=F",
    "=dwJpdmr=lcG=ocH=Ipdmr=gp=bsI?pdmr=Jpdct=Lpdkpgb?jsgb=bsL=Mpdgb=ocMpdhtLEG=Npdhggb?kpgb",
    "=bsN=BARRED O=PHI=Spdgb=ESH=Tpdjsgb=Ubc=on=bsU=Vpdgb=ocV=Z>pdkpgb?cw=EZH=nj:cidyfmad<aead",
    ";SNAKEbe;SUSPENSIONib;MA",
    "CRON-ACUTE;GRAVE-MA",
    "CRON;MA",
    "CRON-GRAVE;ACUTE-MA",
    "CRON;GRAVE-ACUTE-GRAVE;ACUTE-GRAVE-ACUTE;hemchnRbe;BREVE-MA",
    "CRON;MA",
    "CRON-BREVE;dzceac;jfac;ZIGZAGbe;ISbe;URac;USac;hemchnFLATTENEDjkAac>AE>AO>AV>Cbv>glD>ETH>G",
    "<hnmcbsG<mchnK>L<hnmcbsL?M<mchnN<hnmcbsN?R<mchnR ROTUNDA>S>htS>Z>aj>B>BETA>SCHWA>F",
    ">Lpddzignq>OpdhpCENTRALIZATIONmr>P>ESH>UpdhpCENTRALIZATIONmr>W>Apddl>Opddl>Upddl;UPnaac",
    ";KAVYKAacks=hg;dvachg;WIDEgoBRIDGEbe;dvbehg;DELETIONib;dzgobnbe;ahemTObe;hgaxac",
    ";ksaxanebaxbe:hebshnApdkvbe;mchnApdkvbe;bshnBpddvac;mchnBpddvac;bshnBpddvbe;mchnBpddvbe",
    ";bshnBpdhqbe;mchnBpdhqbe;bshnCpdbvanae;mchnCpdbvanae;bshnDpddvac;mchnDpddvac;bshnDpddvbe",
    ";mchnDpddvbe;bshnDpdhqbe;mchnDpdhqbe;bshnDpdbv;mchnDpdbv;bshnDpdcebe;mchnDpdcebe",
    ";bshnEpdhxanfm;mchnEpdhxanfm;bshnEpdhxanae;mchnEpdhxanae;bshnEpdcebe;mchnEpdcebe",
    ";bshnEpdnqbe;mchnEpdnqbe;bshnEpdbvanbn;mchnEpdbvanbn;bshnFpddvac;mchnFpddvac;bshnGpdhx",
    ";mchnGpdhx;bshnHpddvac;mchnHpddvac;bshnHpddvbe;mchnHpddvbe;bshnHpddl;mchnHpddl;bshnHpdbv",
    ";mchnHpdbv;bshnHpdbnbe;mchnHpdbnbe;bshnIpdnqbe;mchnIpdnqbe;bshnIpddlanae;mchnIpddlanae",
    ";bshnKpdae;mchnKpdae;bshnKpddvbe;mchnKpddvbe;bshnKpdhqbe;mchnKpdhqbe;bshnLpddvbe",
    ";mchnLpddvbe;bshnLpddvbeanhx;mchnLpddvbeanhx;bshnLpdhqbe;mchnLpdhqbe;bshnLpdcebe",
    ";mchnLpdcebe;bshnMpdae;mchnMpdae;bshnMpddvac;mchnMpddvac;bshnMpddvbe;mchnMpddvbe",
    ";bshnNpddvac;mchnNpddvac;bshnNpddvbe;mchnNpddvbe;bshnNpdhqbe;mchnNpdhqbe;bshnNpdcebe",
    ";mchnNpdcebe;bshnOpdnqanae;mchnOpdnqanae;bshnOpdnqandl;mchnOpdnqandl;bshnOpdhxanfm",
    ";mchnOpdhxanfm;bshnOpdhxanae;mchnOpdhxanae;bshnPpdae;mchnPpdae;bshnPpddvac;mchnPpddvac",
    ";bshnRpddvac;mchnRpddvac;bshnRpddvbe;mchnRpddvbe;bshnRpddvbeanhx;mchnRpddvbeanhx",
    ";bshnRpdhqbe;mchnRpdhqbe;bshnSpddvac;mchnSpddvac;bshnSpddvbe;mchnSpddvbe;bshnSpdaeandvac",
    ";mchnSpdaeandvac;bshnSpdbtandvac;mchnSpdbtandvac;bshnSpddvbeandvac;mchnSpddvbeandvac",
    ";bshnTpddvac;mchnTpddvac;bshnTpddvbe;mchnTpddvbe;bshnTpdhqbe;mchnTpdhqbe;bshnTpdcebe",
    ";mchnTpdcebe;bshnUpddlbe;mchnUpddlbe;bshnUpdnqbe;mchnUpdnqbe;bshnUpdcebe;mchnUpdcebe",
    ";bshnUpdnqanae;mchnUpdnqanae;bshnUpdhxandl;mchnUpdhxandl;bshnVpdnq;mchnVpdnq;bshnVpddvbe",
    ";mchnVpddvbe;bshnWpdfm;mchnWpdfm;bshnWpdae;mchnWpdae;bshnWpddl;mchnWpddl;bshnWpddvac",
    ";mchnWpddvac;bshnWpddvbe;mchnWpddvbe;bshnXpddvac;mchnXpddvac;bshnXpddl;mchnXpddl",
    ";bshnYpddvac;mchnYpddvac;bshnZpdce;mchnZpdce;bshnZpddvbe;mchnZpddvbe;bshnZpdhqbe",
    ";mchnZpdhqbe=Hpdhqbe=Tpddl=Wpdkvac=Ypdkvac=Apdksfrkv=htSpddvac@dmmr@fymr;bshnSHARP S",
    ";mchndi;bshnApddvbe;mchnApddvbe;bshnApdgbac;mchnApdgbac;bshnApdceanae;mchnApdceanae",
    ";bshnApdceanfm;mchnApdceanfm;bshnApdceangbac;mchnApdceangbac;bshnApdceannq;mchnApdceannq",
    ";bshnApdceandvbe;mchnApdceandvbe;bshnApdbnanae;mchnApdbnanae;bshnApdbnanfm;mchnApdbnanfm",
    ";bshnApdbnangbac;mchnApdbnangbac;bshnApdbnannq;mchnApdbnannq;bshnApdbnandvbe",
    ";mchnApdbnandvbe;bshnEpddvbe;mchnEpddvbe;bshnEpdgbac;mchnEpdgbac;bshnEpdnq;mchnEpdnq",
    ";bshnEpdceanae;mchnEpdceanae;bshnEpdceanfm;mchnEpdceanfm;bshnEpdceangbac;mchnEpdceangbac",
    ";bshnEpdceannq;mchnEpdceannq;bshnEpdceandvbe;mchnEpdceandvbe;bshnIpdgbac;mchnIpdgbac",
    ";bshnIpddvbe;mchnIpddvbe;bshnOpddvbe;mchnOpddvbe;bshnOpdgbac;mchnOpdgbac;bshnOpdceanae",
    ";mchnOpdceanae;bshnOpdceanfm;mchnOpdceanfm;bshnOpdceangbac;mchnOpdceangbac;bshnOpdceannq",
    ";mchnOpdceannq;bshnOpdceandvbe;mchnOpdceandvbe;bshnOpdgdanae;mchnOpdgdanae;bshnOpdgdanfm",
    ";mchnOpdgdanfm;bshnOpdgdangbac;mchnOpdgdangbac;bshnOpdgdannq;mchnOpdgdannq;bshnOpdgdandvbe",
    ";mchnOpdgdandvbe;bshnUpddvbe;mchnUpddvbe;bshnUpdgbac;mchnUpdgbac;bshnUpdgdanae",
    ";mchnUpdgdanae;bshnUpdgdanfm;mchnUpdgdanfm;bshnUpdgdangbac;mchnUpdgdangbac;bshnUpdgdannq",
    ";mchnUpdgdannq;bshnUpdgdandvbe;mchnUpdgdandvbe;bshnYpdfm;mchnYpdfm;bshnYpddvbe;mchnYpddvbe",
    ";bshnYpdgbac;mchnYpdgbac;bshnYpdnq;mchnYpdnq;bshnMIDDLE-WELSH LL;mchnMIDDLE-WELSH LL",
    ";bshnMIDDLE-WELSH V;mchnMIDDLE-WELSH V;bshnYpdLOOP;mchnYpdLOOP:fomchnajpdkf?de?kfanop",
    "?deanop?kfanjr?deanjr?kfanju?deanju;bshnajpdkf?de?kfanop?deanop?kfanjr?deanjr?kfanju",
    "?deanju;mchnelpdkf?de?kfanop?deanop?kfanjr?deanjr::;bshnelpdkf?de?kfanop?deanop?kfanjr",
    "?deanjr::;mchnETApdkf?de?kfanop?deanop?kfanjr?deanjr?kfanju?deanju;bshnETApdkf?de?kfanop",
    "?deanop?kfanjr?deanjr?kfanju?deanju;mchngppdkf?de?kfanop?deanop?kfanjr?deanjr?kfanju",
    "?deanju;bshngppdkf?de?kfanop?deanop?kfanjr?deanjr?kfanju?deanju;mchnjipdkf?de?kfanop",
    "?deanop?kfanjr?deanjr::;bshnjipdkf?de?kfanop?deanop?kfanjr?deanjr::;mchnonpdkf?de?kfanop",
    "?deanop?kfanjr?deanjr?kfanju?deanju:;bshnonpdde:@anop:@anjr:@anju;mchnjhpdkf?de?kfanop",
    "?deanop?kfanjr?deanjr?kfanju?deanju;bshnjhpdkf?de?kfanop?deanop?kfanjr?deanjr?kfanju",
    "?deanju;mchnajpdop?jr=elpdop?jr=ETApdop?jr=gppdop?jr=jipdop?jr=onpdop?jr=jhpdop?jr::",
    "=ajpdkfanph?deanph?kfanopanph?deanopanph?kfanjranph?deanjranph?kfanjuanph?deanjuanph",
    ";bshnajpdkfanke?deanke?kfanopanke?deanopanke?kfanjranke?deanjranke?kfanjuanke?deanjuanke",
    ";mchnETApdkfanph?deanph?kfanopanph?deanopanph?kfanjranph?deanjranph?kfanjuanph?deanjuanph",
    ";bshnETApdkfanke?deanke?kfanopanke?deanopanke?kfanjranke?deanjranke?kfanjuanke?deanjuanke",
    ";mchnjhpdkfanph?deanph?kfanopanph?deanopanph?kfanjranph?deanjranph?kfanjuanph?deanjuanph",
    ";bshnjhpdkfanke?deanke?kfanopanke?deanopanke?kfanjranke?deanjranke?kfanjuanke?deanjuanke",
    ";mchnajpdVRACHY?hx?opanph?ph?jranph:?ju@anph;bshnajpdVRACHY?hx?op?jr?ke;KORONIS;ke;kf;ju",
    ";doanju;mchnETApdopanph?ph?jranph:?ju@anph;bshnelpdop?jr=ETApdop?jr?ke;kfanop=jr=ju",
    ";mchngppdVRACHY?hx?doanop@anjr::?ju?doanju;bshngppdVRACHY?hx?op?jr:;deanop=jr=ju",
    ";mchnonpdVRACHY?hx?doanop@anjr=RHOpdkf?de=onpdju?doanju;bshnonpdVRACHY?hx?op?jr=RHOpdde",
    ";doanop=jr;op::;mchnjhpdopanph?ph?jranph:?ju@anph;bshnjipdop?jr=jhpdop?jr?ke;jr;de"]⟩]

end TripleIndex
