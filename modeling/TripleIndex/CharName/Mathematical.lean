import TripleIndex.CharName.Run

/-!
Names from U+1D000 to U+1EFFF: music, the signing of words, and the letters of mathematics.
-/

namespace TripleIndex

def mathematicalNames : List NameRun := [
  ⟨0x1D000, [":BYZANTINEiomzkf=DASEIA=ju=OXEIA EKFONITIKON>DIPLI=VAREIA EKFONITIKON>DIPLI",
    "=KATHISTI=SYRMATIKI=PARAKLITIKI=YPOKRISIS>DIPLI=KREMASTI=APESO EKFONITIKON=EXO EKFONITIKON",
    "=TELEIA=KENTIMATA=APOSTROFOS>DIPLI=SYNEVMA=THITA=OLIGONav=GORGONav=PSILON=CHAMILON=VATHY",
    "=ISONav=KENTIMAav=KENTIMATAav=SAXIMATA=PARICHON=STAVROS APODEXIA=OXEIAIav=VAREIAIav",
    "=APODERMAav=APOTHEMA=KLASMA=REVMA=PIASMAav=TINAGMA=ANATRICHISMA=SEISMA=SYNAGMAav",
    ">META STAVROU=OYRANISMAav=THEMA=LEMOI=DYO=TRIA=TESSERA=KRATIMATA=APESO EXO NEO=FTHORAav",
    "=IMIFTHORA=TROMIKONav=KATAVA TROMIKON=PELASTON=PSIFISTON=KONTEVMA=CHOREVMAav=RAPISMA",
    "=PARAKALESMAav=PARAKLITIKIav=ICHADIN=NANA=PETASMA=KONTEVMA ALLO=TROMIKON ALLO=STRAGGISMATA",
    "=GRONTHISMATA=ISON NEO=OLIGON NEO=OXEIA NEO=PETASTI=KOUFISMA=PETASTOKOUFISMA",
    "=KRATIMOKOUFISMA=PELASTON NEO=KENTIMATA NEO ANO=KENTIMA NEO ANO=YPSILI=APOSTROFOS NEO",
    "=APOSTROFOI SYNDESMOS NEO=YPORROI=KRATIMOYPORROON=ELAFRON=CHAMILI=MIKRON ISON=VAREIA NEO",
    "=PIASMA NEO=PSIFISTON NEO=OMALON=ANTIKENOMA=LYGISMA=PARAKLITIKI NEO=PARAKALESMA NEO",
    "=ETERON PARAKALESMA=KYLISMA=ANTIKENOKYLISMA=TROMIKON NEO=EKSTREPTON=SYNAGMA NEO=SYRMA",
    "=CHOREVMA NEO=EPEGERMA=SEISMA NEO=XIRON KLASMA=TROMIKOPSIFISTON=PSIFISTOLYGISMA",
    "=TROMIKOLYGISMA=TROMIKOPARAKALESMA=PSIFISTOPARAKALESMA=TROMIKOSYNAGMA=PSIFISTOSYNAGMA",
    "=GORGOSYNTHETON=ARGOSYNTHETON=ETERON ARGOSYNTHETON=OYRANISMA NEO=THEMATISMOS ESO>EXO",
    "=THEMA APLOUN=THES KAI APOTHES=KATAVASMA=ENDOFONON=YFEN KATO>ANO=STAVROS=KLASMA ANO",
    "=DIPLIav=KRATIMAav>ALLO>NEO=APODERMA NEO=APLI=DIPLI=TRIPLI=TETRAPLI=KORONIS",
    "=LEIMMA ENOS CHRONOU>DYO CHRONON>TRION CHRONON>TESSARON CHRONON>IMISEOS CHRONOU",
    "=GORGON NEO ANO>PARESTIGMENON ARISTERA?DEXIA=DIGORGON>PARESTIGMENON ARISTERA KATO@ANO",
    "?DEXIA=TRIGORGON=ARGON=IMIDIARGON=DIARGON=AGOGI POLI ARGI>ARGOTERI>ARGI>METRIA>MESI>GORGI",
    ">GORGOTERI>POLI GORGI=MARTYRIA PROTOS ICHOS>ALLI PROTOS ICHOS>DEYTEROS ICHOS",
    ">ALLI DEYTEROS ICHOS>TRITOS ICHOS>TRIFONIAS>TETARTOS ICHOS?LEGETOS ICHOS>LEGETOS ICHOS",
    ">PLAGIOS ICHOS=ISAKIA TELOUS ICHIMATOS=APOSTROFOI TELOUS ICHIMATOS=FANEROSIS TETRAFONIAS",
    ">MONOFONIAS>DIFONIAS=MARTYRIA VARYS ICHOS>PROTOVARYS ICHOS>PLAGIOS TETARTOS ICHOS",
    "=GORTHMIKON N APLOUN?DIPLOUN=ENARXIS KAI FTHORA VOU=IMIFONON=IMIFTHORON",
    "=FTHORAavDEYTEROU ICHOU>DIATONIKI PA?NANA>NAOS ICHOS>DIATONIKI DI>SKLIRON DIATONON DI",
    ">DIATONIKI KE?ZO?NI KATO@ANO>MALAKON CHROMA DIFONIAS@MONOFONIAS",
    "=FHTORA SKLIRON CHROMA VASIS=FTHORA SKLIRON CHROMA SYNAFI>NENANO=CHROA ZYGOS>KLITON>SPATHI",
    "=FTHORA I YFESIS TETARTIMORION>ENARMONIOS ANTIFONIA=YFESIS TRITIMORION=DIESIS TRITIMORION",
    ">TETARTIMORION>APLI DYO DODEKATA>MONOGRAMMOS TESSERA DODEKATA>DIGRAMMOS EX DODEKATA",
    ">TRIGRAMMOS OKTO DODEKATA=YFESIS APLI DYO DODEKATA>MONOGRAMMOS TESSERA DODEKATA",
    ">DIGRAMMOS EX DODEKATA>TRIGRAMMOS OKTO DODEKATA=GENIKI DIESIS>YFESIS=DIASTOLI APLI MIKRI",
    "?MEGALI>DIPLI>THESEOS=SIMANSIS THESEOS?DISIMOU?TRISIMOU?TETRASIMOU>ARSEOS?DISIMOU?TRISIMOU",
    "?TETRASIMOU=DIGRAMMA GG=DIFTOGGOS OU=STIGMA=ARKTIKO PA>VOU>GA>DI>KE>ZO>NI",
    "=KENTIMATA NEO MESO=KENTIMA NEO MESO=KENTIMATA NEO KATO=KENTIMA NEO KATO=KLASMA KATO",
    "=GORGON NEO KATO:::::::::::iomzlwBARLINE<dzBARLINE<ewBARLINE<kqewBARLINE<ddBARLINE",
    "<lqBARLINE<hgREPEATlu<ksREPEATlu<REPEATdx<DAL SEGNO<DA CAPO<SEGNO<CODA<REPEATED FIGURE-1",
    ">-2>-3<FERMATA=be<BREATHib<CAESURA<BRACE<bm<ONE-LINE STAFF<TWO-LINE STAFF<THREE-LINE STAFF",
    "<FOUR-LINE STAFF<FIVE-LINE STAFF<SIX-LINE STAFF=-STRING FRETBOARD<FOUR-STRING FRETBOARD",
    "<G CLEF>OTTAVA ALTA?BASSA<C CLEF<F CLEF>OTTAVA ALTA?BASSA<DRUM CLEF-1>-2::<imMEASURE REST",
    "<dzSHARP=FLAT<FLAT UP=eb<NATURAL UP=eb<SHARP UP=eb<kjnsSHARP>FLAT<COMMON TIME<CUT TIME",
    "<OTTAVA ALTA=BASSA<QUINDICESIMA ALTA=BASSA<MULTI REST<WHOLE REST<frREST<kjREST<ehREST",
    "<SIXTEENTH REST<THIRTY-SECOND REST<SIXTY-FOURTH REST<jjgeTWENTY-EIGHTH REST<Xiz<jyiz<cbXiz",
    "<mlizpc>bi<nwizUPpc?bi>hgpc?bi>kspc?bi>ebpc?bi>UPkspc@bi<ijizpc>bi<TRIANGLE-ROUNDizebpc@bi",
    "<jtiz<VOIDiz<izbi<NULLiz<CLUSTERizpc>bi<bn<WHOLE NOTE<frNOTE<kjNOTE<ehNOTE<SIXTEENTH NOTE",
    "<THIRTY-SECOND NOTE<SIXTY-FOURTH NOTE<jjgeTWENTY-EIGHTH NOTE<ciSTEM=SPRECHGESANG STEM",
    "=TREMOLO-1>-2>-3<FINGERED TREMOLO-1>-2>-3<ciAUGMENTATIONdv=FLAG-1>-2>-3>-4>-5<BEGIN BEAM",
    "<END BEAM<BEGIN TIE<END TIE<BEGIN SLUR<END SLUR<BEGIN PHRASE<END PHRASE<ciad=STACCATO",
    "=TENUTO=STACCATISSIMO=MARCATO>-STACCATO=ACCENT-STACCATO=LOURE<ARPEGGIATO UP=eb<ciDOIT=RIP",
    "=FLIP=SMEAR=BEND=dzTONGUE=nzTONGUE<RINFORZANDO<SUBITO<Z<PIANO<MEZZO<FORTE<CRESCENDO",
    "<DECRESCENDO<GRACE NOTEmb>NOmb<TR<TURN<goTURN<TURNmb=UP<jnSTROKE-1>-2>-3>-4>-5>-6>-7>-8>-9",
    ">-10>-11<HAUPTSTIMME<NEBENSTIMME<END OF STIMME<DEGREEmb<ciebBOW=UP BOW=HARMONIC",
    "=SNAP PIZZICATO<PEDALib=UPib<frPEDALib<GLISSANDO UP=eb<pdFINGERNAILS<DAMP=ALL<MAXIMA<LONGA",
    "<BREVIS<SEMIBREVISpc=bi<MINIMA=bi<SEMIMINIMApc=bi<FUSApc=bi<LONGA PERFECTA REST",
    "=IMPERFECTA REST<BREVIS REST<SEMIBREVIS REST<MINIMA REST<SEMIMINIMA REST",
    "<TEMPUS PERFECTUM CUM PROLATIONE PERFECTA@IMPERFECTA@PERFECTA DIMINUTION-1",
    "=IMPERFECTUM CUM PROLATIONE PERFECTA@IMPERFECTA@IMPERFECTA DIMINUTION-1",
    "@IMPERFECTA DIMINUTION-2@IMPERFECTA DIMINUTION-3<CROIX<GREGORIAN C CLEF=F CLEF<mlB<VIRGA",
    "<PODATUS<CLIVIS<SCANDICUS<CLIMACUS<TORCULUS<PORRECTUS=FLEXUS<SCANDICUS FLEXUS",
    "<TORCULUS RESUPINUS<PES SUBPUNCTIS<KIEVAN C CLEF=END OF PIECE=ewNOTE=RECITATIVEib",
    "=WHOLE NOTE=frNOTE=kjNOTE STEMeb@UP=ehNOTE STEMeb@UP=FLATlu<SORI<KORON"]⟩,
  ⟨0x1D200, [":foVOCAL NOTA",
    "TION SYMBOL-1>-2>-3>-4>-5>-6>-7>-8>-9>-10>-11>-12>-13>-14>-15>-16>-17>-18>-19>-20>-21>-22",
    ">-23>-24>-50>-51>-52>-53>-54;INSTRUMENTAL NOTA",
    "TION SYMBOL-1>-2>-4>-5>-7>-8>-11>-12>-13>-14>-17>-18>-19>-23>-24>-25>-26>-27>-29>-30>-32",
    ">-36>-37>-38>-39>-40>-42>-43>-45>-47>-48>-49>-50>-51>-52>-53>-54:cifoioTRISEME=TETRASEME",
    "=PENTASEME:foioLEIMMA"]⟩,
  ⟨0x1D2E0, [":MAYAN NUMERALpj<jj<oh<nn<fd<ey<lx<lh<ef<it<nf<ELEVEN<of<THIRTEEN<FOURTEEN<eu<ly",
    "<li<eg<NINETEEN:::::::::::::MONOGRAMezEARTH:DIGRAMezHEAVENLY EARTH<HUMAN EARTH",
    "<EARTHLY HEAVEN=HUMAN<EARTH:TETRAGRAMezbw<fgcb<MIRED<BARRIER<KEEPINGmc<CONTRARIETY<ASCENT",
    "<OPPOSITION<BRANCHING OUT<DEFECTIVENESS OR DISTORTION<DIVERGENCE<YOUTHFULNESS<INCREASE",
    "<PENETRATION<REACH<CONTACT<HOLDING BACK<WAITING<FOLLOWING<ADVANCE<RELEASE<RESISTANCE<EASE",
    "<JOY<CONTENTION<ENDEAVOUR<DUTIES<CHANGE<DECISIVENESS<bkRESOLUTION<PACKING<LEGION<CLOSENESS",
    "<KINSHIP<GATHERING<STRENGTH<PURITY<FULLNESS<RESIDENCE<LAW OR MODEL<RESPONSE<GOING TO MEET",
    "<ENCOUNTERS<STOVE<GREATNESS<ENLARGEMENT<PATTERN<RITUAL<FLIGHT<VASTNESS OR WASTING",
    "<CONSTANCY<MEASURE<ETERNITY<UNITY<DIMINISHMENT<cgik<GUARDEDNESS<GATHERING IN<MASSING",
    "<ACCUMULATION<EMBELLISHMENT<DOUBT<WATCH<SINKING<INNER<DEPARTURE<DARKENING<DIMMING",
    "<EXHAUSTION<SEVERANCE<STOPPAGE<HARDNESS<COMPLETION<CLOSURE<FAILURE<AGGRAVATION<COMPLIANCE",
    "<ONniVERGE<DIFFICULTIES<LABOURING<FOSTERING::::::::::COUNTING ROD UNITdsjj>oh>nn>fd>ey>lx",
    ">lh>ef>it<TENSdsjj>oh>nn>fd>ey>lx>lh>ef>it:gfTALLYibjj=oh=nn=fd=ey:TALLYibjj<ey"]⟩,
  ⟨0x1D400, [":icbkbsA=B=C=D=E=F=G=H=I=J=K=L=M=N=O=P=Q=R=S=T=U=V=W=X=Y=Z<mcA=B=C=D=E=F=G=H=I=J",
    "=K=L=M=N=O=P=Q=R=S=T=U=V=W=X=Y=Z;ITALICbsA=B=C=D=E=F=G=H=I=J=K=L=M=N=O=P=Q=R=S=T=U=V=W=X=Y",
    "=Z<mcA=B=C=D=E=F=G:=I=J=K=L=M=N=O=P=Q=R=S=T=U=V=W=X=Y=Z;bkITALICbsA>B>C>D>E>F>G>H>I>J>K>L",
    ">M>N>O>P>Q>R>S>T>U>V>W>X>Y>Z=mcA>B>C>D>E>F>G>H>I>J>K>L>M>N>O>P>Q>R>S>T>U>V>W>X>Y>Z;lcbsA:",
    "=C=D::=G::=J=K::=N=O=P=Q:=S=T=U=V=W=X=Y=Z<mcA=B=C=D:=F:=H=I=J=K=L=M=N:=P=Q=R=S=T=U=V=W=X=Y",
    "=Z;bklcbsA>B>C>D>E>F>G>H>I>J>K>L>M>N>O>P>Q>R>S>T>U>V>W>X>Y>Z=mcA>B>C>D>E>F>G>H>I>J>K>L>M>N",
    ">O>P>Q>R>S>T>U>V>W>X>Y>Z;FRAKTURbsA=B:=D=E=F=G::=J=K=L=M=N=O=P=Q:=S=T=U=V=W=X=Y:<mcA=B=C=D",
    "=E=F=G=H=I=J=K=L=M=N=O=P=Q=R=S=T=U=V=W=X=Y=Z;eabsA>B:>D>E>F>G:>I>J>K>L>M:>O:::>S>T>U>V>W>X",
    ">Y:=mcA>B>C>D>E>F>G>H>I>J>K>L>M>N>O>P>Q>R>S>T>U>V>W>X>Y>Z;bkFRAKTURbsA>B>C>D>E>F>G>H>I>J>K",
    ">L>M>N>O>P>Q>R>S>T>U>V>W>X>Y>Z=mcA>B>C>D>E>F>G>H>I>J>K>L>M>N>O>P>Q>R>S>T>U>V>W>X>Y>Z;lbbsA",
    ">B>C>D>E>F>G>H>I>J>K>L>M>N>O>P>Q>R>S>T>U>V>W>X>Y>Z=mcA>B>C>D>E>F>G>H>I>J>K>L>M>N>O>P>Q>R>S",
    ">T>U>V>W>X>Y>Z=bkbsA?B?C?D?E?F?G?H?I?J?K?L?M?N?O?P?Q?R?S?T?U?V?W?X?Y?Z>mcA?B?C?D?E?F?G?H?I",
    "?J?K?L?M?N?O?P?Q?R?S?T?U?V?W?X?Y?Z=ITALICbsA?B?C?D?E?F?G?H?I?J?K?L?M?N?O?P?Q?R?S?T?U?V?W?X",
    "?Y?Z>mcA?B?C?D?E?F?G?H?I?J?K?L?M?N?O?P?Q?R?S?T?U?V?W?X?Y?Z=bkITALICbsA@B@C@D@E@F@G@H@I@J@K",
    "@L@M@N@O@P@Q@R@S@T@U@V@W@X@Y@Z?mcA@B@C@D@E@F@G@H@I@J@K@L@M@N@O@P@Q@R@S@T@U@V@W@X@Y@Z",
    ";MONOSPACEbsA=B=C=D=E=F=G=H=I=J=K=L=M=N=O=P=Q=R=S=T=U=V=W=X=Y=Z<mcA=B=C=D=E=F=G=H=I=J=K=L",
    "=M=N=O=P=Q=R=S=T=U=V=W=X=Y=Z;ITALICmcdwI>J::;bkbsaj=BETA=fh=di=el=ZETA=ETA=nj=gp=gv=LAMDA",
    "=MU=NU=XI=ji=PI=RHO=njmz=lt=TAU=on=PHI=CHI=PSI=jh<NABLA<mcaj=BETA=fh=di=el=ZETA=ETA=nj=gp",
    "=gv=LAMDA=MU=NU=XI=ji=PI=RHO=ewlt=lt=TAU=on=PHI=CHI=PSI=jh<PARTIALdr<elmz<njmz<gvmz<PHImz",
    "<RHOmz<PImz;ITALICbsaj=BETA=fh=di=el=ZETA=ETA=nj=gp=gv=LAMDA=MU=NU=XI=ji=PI=RHO=njmz=lt",
    "=TAU=on=PHI=CHI=PSI=jh<NABLA<mcaj=BETA=fh=di=el=ZETA=ETA=nj=gp=gv=LAMDA=MU=NU=XI=ji=PI=RHO",
    "=ewlt=lt=TAU=on=PHI=CHI=PSI=jh<PARTIALdr<elmz<njmz<gvmz<PHImz<RHOmz<PImz;bkITALICbsaj>BETA",
    ">fh>di>el>ZETA>ETA>nj>gp>gv>LAMDA>MU>NU>XI>ji>PI>RHO>njmz>lt>TAU>on>PHI>CHI>PSI>jh=NABLA",
    "=mcaj>BETA>fh>di>el>ZETA>ETA>nj>gp>gv>LAMDA>MU>NU>XI>ji>PI>RHO>ewlt>lt>TAU>on>PHI>CHI>PSI",
    ">jh=PARTIALdr=elmz=njmz=gvmz=PHImz=RHOmz=PImz;lbbkbsaj?BETA?fh?di?el?ZETA?ETA?nj?gp?gv",
    "?LAMDA?MU?NU?XI?ji?PI?RHO?njmz?lt?TAU?on?PHI?CHI?PSI?jh>NABLA>mcaj?BETA?fh?di?el?ZETA?ETA",
    "?nj?gp?gv?LAMDA?MU?NU?XI?ji?PI?RHO?ewlt?lt?TAU?on?PHI?CHI?PSI?jh>PARTIALdr>elmz>njmz>gvmz",
    ">PHImz>RHOmz>PImz>ITALICbsaj@BETA@fh@di@el@ZETA@ETA@nj@gp@gv@LAMDA@MU@NU@XI@ji@PI@RHO@njmz",
    "@lt@TAU@on@PHI@CHI@PSI@jh?NABLA?mcaj@BETA@fh@di@el@ZETA@ETA@nj@gp@gv@LAMDA@MU@NU@XI@ji@PI",
    "@RHO@ewlt@lt@TAU@on@PHI@CHI@PSI@jh?PARTIALdr?elmz?njmz?gvmz?PHImz?RHOmz?PImz;bkbsDIGAMMA",
    "<mcDIGAMMA::<dspj=jj=oh=nn=fd=ey=lx=lh=ef=it;eadspj>jj>oh>nn>fd>ey>lx>lh>ef>it;lbdspj>jj",
    ">oh>nn>fd>ey>lx>lh>ef>it=bkdspj?jj?oh?nn?fd?ey?lx?lh?ef?it;MONOSPACEdspj=jj=oh=nn=fd=ey=lx",
    "=lh=ef=it:SIGNWRITING HAND-FISTgh<-CIRCLEgh<-CUPgh<-OVALgh<-HINGEgh<-ANGLEgh<-FISTghbf",
    "<-CIRCLEghbf<-FISTnpUNDERghbf=ghkoKNUCKLE>CUPPED>fz?hu<-CIRCLEghHINGE<-FISTghig",
    "<-CIRCLEghig<-FISTghigbf?koKNUCKLES?fz>UPigfz>fzigUP>igcl@ghbf@igbf@CUPPED@fz?cs",
    "<-CIRCLEghigcs<-FISTigbfjogh=ghbfjoig>ignp<-CIRCLEghignp<-FISTghigmqnpbf?bfnpmq?npbf",
    "?fzmknplr>UPigfznplr@fznpcl>fzigUPnplr>igUPmknpfc?npCUPPED@cc@HOOKED@fz=npbgghigmq",
    "=ghigclnplr@nplrcl@nplrbf=ignpHOOKEDghUP=ghnpHOOKEDigUP>igclfznplr?csnplr?clnpfc",
    "@CUPPEDnpfc=ignpCUPPEDghUP=ghnpCUPPEDigUP=ignpccghUP@ghfz=ghnpANGLED OUTigUP@INigUP?ccigUP",
    ">ignpclfz@ANGLED OUT@ANGLED=ignpANGLED OUTghUP@OUTghcs@ghUP=ghnpHOOKEDigfz<-FLATfdex?bf?fz",
    "?cl@SPLIT<-CLAWfdexcl<-FISTfdexclbf<-HINGEfdexcl<-FLATeyexmk=HEELeyexmk=eyexmkfdbf",
    "=HEELeyexmkfdbf=eyexmkbf=HEELeyexmkbf=eyexmknpfc<-CUPeyexmk@jk<-HINGEeyexmkjk<-OVALeyexmk",
    "<-FLATeyexmkfz@fznplr@fzNOnp<-FLAT=bgPALM FACINGS=HEEL=nplr=HEELnplr=npbf>fc=SPLITghnplr",
    ">bw?nplr@lrbf>hr<-CLAW=nplr=NOnp=npfc<-HOOK CURLICUE<-HOOK<-CUPjk<-CUP=jknplr=nplr=jkNOnp",
    "=NOnp=jknpfc=npfc<-CURLICUEjk<-CURLICUE<-CIRCLE<-OVAL=nplr=NOnp=npfc<-HINGEjk>npfc<-HINGE",
    "=mc=jknplr=nplr=jkNOnp=NOnp=nplrTOUCHINGgh>bgigkv<-ANGLE<-FISTghigkv<-CIRCLEghigkv",
    "<-HINGEghigkv<-ANGLEghigkv<-HINGEhr<-FISTghigkvbf@cl<-HINGEghigkvcl<-FISThreb?RIPPLEmq",
    "@CURVED?OTHERScc>UP=npUNDERhrUP<-CIRCLEhrUP<-OVALhrUP<-ANGLEhrUP<-FISThrkoKNUCKLE>bf",
    ">TOUCHESnp>np<-HINGEhrnp<-FISThrghnp<-HINGEhrghnp<-ANGLEhrghnpghnpOUT@ghnp<-FISThrgh",
    "<-CIRCLEhrgh<-HINGEhrgh<-ANGLEhrgh<-FISTghighr<-CIRCLEghighr<-HINGEghighr=kv<-ANGLEghighr",
    "<-FISTghigcrhr<-CIRCLEghigcrhr<-FISTkveb<-HINGEkvebghnpgbig<-ANGLEkvebignpghcr<-FISTkvUP",
    ">koKNUCKLE>hr<-CIRCLEkvhr<-OVALkvhr<-ANGLEkvhr<-FISTkvig?cl?koKNUCKLES>gh>np<-HOOKkvnp",
    "<-FISTghkvhr<-CIRCLEghkvhr<-CURLICUEghkvhrON<-HOOKghkvhrOUT@IN@UNDER<-CUPghkvhr",
    "<-HINGEghkvhr<-ANGLEghkvhrOUT?hr<-FISTigeb<-HINGEig<-FISTigUP<-CIRCLEigUP<-FISTigkoKNUCKLE",
    ">UPnplr<-HOOKignp<-FISTignphr>hr>kvhr<-CIRCLEigkvhr<-CURLICUEigkvhrON<-CUPigkvhr",
    "<-HINGEigkvhr<-ANGLEigkvhrOUT@IN?hr<-CIRCLEigkvhrbf<-CLAWigkvhrcl@cllr<-HOOKigkvhrclOUT",
    "@clIN@cl<-HINGEghfz<-FISTghnplr<-HINGEghnplr<-FISTghnplrnpdm@npcl@npbf@ghbf@BOTHbf@ghHINGE",
    "?fcghmq@ghbf?gb?CURLICUE?cynpgk<-CLAWghnpcynpgk<-FISTghnpcynpUNDER?cb<-CUPghnp?jk",
    "<-HINGEghnpjk?hd>np?mc<-ANGLEghnpOUT?IN>np<-FISTnp>HEEL>lrdm?cl?bf>fc>bgghig?igkv?kvhr",
    ">UNDERohex>joohex>UNDERnnex?fdex>jofdkoKNUCKLES<-FIST=HEEL;TOUCHlw<im<bg;GRASPlw<im<bg",
    ";STRIKElw<im<bg;BRUSHlw<im<bg;RUBlw<im<bg;SURFACE SYMBOLS<bg;SQUEEZEhdlw<mclw<hdim<mcim",
    "<SEQUENTIAL;FLICKhdlw<mclw<hdim<mcim<SEQUENTIAL;SQUEEZE FLICKal;MOVEMENT-HINGE UPebhd?mc",
    ">SEQUENTIAL=ebSEQUENTIAL=UPebalhd@mc=lrTOlrSCISSORS<-WALLPLANE FINGER CONTACT",
    "<-FLOORPLANE FINGER CONTACT<-WALLPLANElwmqmc?ie?hd?LARGEST>WRIST FLEX=dzmq>WRIST FLEX>al",
    "?WRIST FLEX=cr=nzmqMOVEMENT>WRIST FLEX>al?WRIST FLEX=BENDmc>ie>hd=cpmc>ie>hd>ROTATION",
    "=CHECKmc>ie>hd=BOXmc>ie>hd=ZIGZAGmc>ie>hd=PEAKSmc>ie>hd",
    ";TRAVEL-WALLPLANE ROTATION-WALLPLANElw?dz?al>-FLOORPLANElw?dz?al=SHAKING=ARM SPIRALlw?dz",
    "?nz;MOVEMENT-DIAGONAL AWAYmc>ie>hd>LARGEST=TOWARDSmc>ie>hd>LARGEST=bgAWAYmc?ie?hd?LARGEST",
    ">TOWARDSmc?ie?hd?LARGEST<-FLOORPLANElwmqmc?ie?hd?LARGEST>WRIST FLEX=dzmq>WRIST FLEX>al",
    "?WRIST FLEX=cr=nzmqMOVEMENT>WRIST FLEX>alMOVEMENT?WRIST FLEX=BEND=cpmc>ie>hd=CHECK=BOXmc",
    ">ie>hd=ZIGZAGmc>ie>hd=PEAKSmc>ie>hd;TRAVEL-FLOORPLANEkylw?dz?al>-WALLPLANElw?dz?al=SHAKING",
    ";ilcykjmc?ie?hd?LARGEST>HALF-CIRCLEmc@ie@hd@LARGEST>THREE-QUARTERcbmc@cbie=HUMPmc>ie>hd",
    "=LOOPmc>ie>hd>mcdz=oycydzmc@ie@hd?nzmc@ie@hd=cyTHENmq=CURVEDcrmc?ie;ROTATION-WALLPLANElw",
    "=dz=ak;ilSHAKING=cygaFRONT WALL=HUMPgaFRONT WALL=LOOPgaFRONT WALL=oygaFRONT WALL",
    ";ROTATION-WALLPLANElwgaFRONT WALL=dzgaFRONT WALL=algaFRONT WALL;ilcygaCHEST=HUMPgaCHEST",
    "=LOOPgaCHEST=oygaCHEST;ROTATION-WALLPLANElwgaCHEST=dzgaCHEST=algaCHEST;iloydmPATHmc@ie@hd",
    "<-FLOORPLANEcygaCEILINGmc@hd=HUMPgaCEILINGmcdz@hddz@mcnz@hdnz=LOOPgaCEILINGmclw@hdlw@mcdz",
    "@hddz=oygaCEILINGmc@hd;kylwgaCEILING=dzgaCEILING=algaCEILING",
    ";MOVEMENT-FLOORPLANEcygaFLOORmc@hd=HUMPgaFLOORmcdz@hddz@nzmcnz@nzhdnz=LOOPgaFLOORmclw@hdlw",
    "@mcdz@hddz=oygaFLOORmc@hd;kylwgaFLOOR=dzgaFLOOR=algaFLOOR;MOVEMENT-FLOORPLANEcymc>ie>hd",
    ">LARGEST>COMBINED=HUMPmc=LOOPmc=oySNAKE>mc>hd;kylw=dz=al",
    ";MOVEMENT-FLOORPLANE SHAKING PARALLEL<-WALLPLANE ARMcbmclw?ielw?mcdz?iedz",
    "<-FLOORPLANE ARMcbgaWALLmclw@WALLielw@WALLhdlw@WALLmcdz@WALLiedz@WALLhddz",
    "<-WALLPLANE WRISTcbFRONTlw@dz<-FLOORPLANE WRISTcbgaWALLlw@WALLdz<-WALLPLANE FINGERcdlw?dz",
    "<-FLOORPLANE FINGERcdgaWALLlw@WALLdz;DYNAMICaxmc=hd<FAST<SLOW<TENSE<RELAXED<SIMULTANEOUS",
    "=al<EVERY OTHER TIME<GRADUAL;HEAD<RIM<ilmq>TILT=-FLOORPLANEmq=-WALLPLANEcy=-FLOORPLANEcy",
    "=cb;etDIRECTION POSITION NOSEfcTILTING?UP OReb@ORebTILTING;EYEBROWSmqUP=ir=eb",
    ";DREAMY EYEBROWSireb=ebir=UPir=irUP;FOREHEADir<CONTACT<WRINKLED;esjk<SQUEEZED<cg",
    ";EYE BLINKlw=im;esfrjk<WIDEjk<frcg<WIDENING MOVEMENT;EYE WINK;EYELASHES UP<eb<FLUTTERING",
    ";EYEGAZE-WALLPLANEmq>dz>al<-FLOORPLANEmq>dz>al<-WALLPLANE CURVED<-FLOORPLANE CURVED",
    "<-WALLPLANE CIRCLING;CHEEKS PUFFED<ir<SUCKED;TENSE CHEEKSfy=ig=hu;EARS;NOSEir<CONTACT",
    "<WRINKLES<WIGGLES;AIR BLOWING OUT<SUCKING IN<BLOWmcROTATIONS<SUCKmcROTATIONS;BREATH INHALE",
    "<EXHALE;ikcgir=fc=CONTACT<SMILE=WRINKLED=jk<FROWN=WRINKLED=jk<jkcb=fc=WRINKLED=OVAL",
    ">WRINKLED>YAWN=RECTANGLE>WRINKLED>YAWN<KISS=fc=WRINKLED<TENSE=fc=SUCKED",
    ";LIPS PRESSED TOGETHER;LIPhvjoom<omjohv;ikCORNERS<WRINKLESlw=dz;TONGUE STICKING OUT FAR",
    "<LICKING LIPS<TIPbgLIPS=TOUCHINGgkik<gkikRELAXED<MOVES AGAINST CHEEK<bwSTICKING OUT=gkik",
    ";TEETH<MOVEMENT<ON TONGUE>MOVEMENT=LIPS>MOVEMENT<BITE LIPS;ilJAW<-FLOORPLANE JAW;NECK;HAIR",
    ";EXCITEMENT;SHOULDER HIP SPINE=POSITIONS;WALLPLANE SHOULDER HIP MOVE",
    ";FLOORPLANE SHOULDER HIP MOVE;SHOULDER TILTINGffWAIST;TORSO-WALLPLANEmqSTRETCH=CURVED BEND",
    "<-FLOORPLANE TWISTING;omBODY TILTINGffHIP JOINTS;LIMB COMBINATION<LENGTH-1=-2=-3=-4=-5=-6",
    "=-7;FINGER;LOCATION-WALLPLANEmh<-FLOORPLANEmh<HEIGHT<WIDTH<DEPTH<HEAD NECK<TORSO",
    "<LIMBS DIGITS;cj;fgmp;lf;ch;jt"]⟩,
  ⟨0x1DA9B, [":SIGNWRITING FILL MODIFIER-2=-3=-4=-5=-6:;ROTATION MODIFIER-2=-3=-4=-5=-6=-7=-8",
    "=-9=-10=-11=-12=-13=-14=-15=-16"]⟩,
  ⟨0x1DF00, [":hemchnFENGdtpdTRILL=krlcG;hnmcbsocG;mchnkrK;hnmcbsLpdBELT;mchnLEZHpdkpgb",
    "=ocYpdBELT=krENG=ocRpdhtLEGankpgb=Tpdgbankpgb;hnkpCLICKpdkpgb;mchnESHpddzbc@bcancw=ocTpdcw",
    ";hngoflmppdcw<STRETCHED Cpdcw<mcbsocK;mchnLpdFISHHOOK=DEZHdtpdjsgb=LpdBELTanjsgb=ENGpdjsgb",
    "=ocRpdjsgb=RpdFISHHOOKanjsgb=TESHdtpdjsgb=EZHpdjsgb=DEZHdtpdkpgb=Ipdmrankpgb=Opdkpgb",
    "=TESHdtpdkpgb=Cpdkpgb=Spdcw"]⟩,
  ⟨0x1E000, [":ciGLAGOLITIChnAZU=BUKY=VEDE=GLAGOLI=DOBRO=YESTU=ZHIVETE:=ZEMLJA=IZHE=gjIZHE=I",
    "=DJERVI=KAKO=LJUDIJE=MYSLITE=NASHI=ONU=POKOJI=RITSI=SLOVO=TVRIDO=UKU=FRITU=HERU::=SHTA=TSI",
    "=CHRIVI=lk=YERU=YERI=YATI:=YU=mcYUS:=YO=IOTATEDmcYUS=BIG YUS=IOTATED BIG YUS=FITA"]⟩,
  ⟨0x1E100, [":NYIAKENG PUACHUE HMONGhnMA>TSA>NTA>TA>HA>NA>XA>NKA>CA>LA>SA>ZA>NCA>NTSA>KA>DA>jd",
    ">NRA>VA>NTXA>TXA>FA>RA>QA>YA>NQA>PA>XYA>NPA>DLA>NPLA>fq>MLA>PLA>GA>RRA>A>AA>I>U>O>OO>E>EE",
    ">W:::=TONE-B>-M>-J>-V>-S>-G>-D=luezjv?THING?LOCATION?ANIMAL?INVERTEBRATE>XW XW",
    "=myLENGTHENER::=dspj>jj>oh>nn>fd>ey>lx>lh>ef>it::::=LOGOGRAM NYAJ=ccCA"]⟩,
  ⟨0x1E290, [":TOTOhnPA<BA<TA<DA<KA<GA<MA<NA<is<SA<bx<YA<WA<JA<HA<RA<LA<I<BREATHY I<IU",
    "<BREATHY IU<U<E<BREATHY E<EO<BREATHY EO<O<AE<BREATHY AE<A;lukwns"]⟩,
  ⟨0x1E2C0, [":WANCHOhnAA<A<BA<CA<DA<GA<YA<jw<LA<NA<PA<TA<nh<FA<SA<lk<JA<ZA<WA<VA<KA<O<AU<RA<MA",
    "<gw<HA<E<I<is<U<LLHA<TSA<TRA<ONG<AANG<ANG<ING<ON<EN<AAN<jd<UEN<YIH;nsTUP<TUPNI<KOI<KOINI",
    ";dspj<jj<oh<nn<fd<ey<lx<lh<ef<it:::::;NGUNlu"]⟩,
  ⟨0x1E7E0, [":ETHIOPICmyHHYA<HHYU<HHYI<HHYAA<HHYEE<HHYE<HHYO:<GURAGE HHWA<HHWI<HHWEE<HHWE:",
    "<GURAGE MWI=MWEE:=QWI=QWEE=QWE=BWI=BWEE=KWI=KWEE=KWE=GWI=GWEE=GWE=FWI=FWEE=PWI=PWEE:",
    ":MENDE KIKAKUImyM001 KI=M002 KA=M003 KU=M065 KEE=M095 KE=M076 KOO=M048 KO=M179 KUA=M004 WI",
    "=M005 WA=M006 WU=M126 WEE=M118 WE=M114 WOO=M045 WO=M194 WUI=M143 WEI=M061 WVI=M049 WVA",
    "=M139 WVE=M007 MIN=M008 MAN=M009 MUN=M059 MEN=M094 MON=M154 MUAN=M189 MUEN=M010 BI=M011 BA",
    "=M012 BU=M150 BEE=M097 BE=M103 BOO=M138 BO=M013 I=M014 A=M015 U=M163 EE=M100 E=M165 OO",
    "=M147 O=M137 EI=M131 IN=M135 IN=M195 AN=M178 EN=M019 SI=M020 SA=M021 SU=M162 SEE=M116 SE",
    "=M136 SOO=M079 SO=M196 SIA=M025 LI=M026 LA=M027 LU=M084 LEE=M073 LE=M054 LOO=M153 LO",
    "=M110htLE=M016 DI=M017 DA=M018 DU=M089 DEE=M180 DOO=M181 DO=M022 TI=M023 TA=M024 TU",
    "=M091 TEE=M055 TE=M104 TOO=M069 TO=M028 JI=M029 JA=M030 JU=M157 JEE=M113 JE=M160 JOO",
    "=M063 JO=M175htJO=M031 YI=M032 YA=M033 YU=M109 YEE=M080 YE=M141 YOO=M121 YO=M034 FI",
    "=M035 FA=M036 FU=M078 FEE=M075 FE=M133 FOO=M088 FO=M197 FUA=M101 FAN=M037 NIN=M038 NAN",
    "=M039jc=M117 NEN=M169 NON=M176 HI=M041 HA=M186 HU=M040 HEE=M096 HE=M042 HOO=M140 HO",
    "=M083 HEEI=M128 HOOU=M053 HIN=M130 HAN=M087 HUN=M052 HEN=M193 HON=M046 HUAN=M090 NGGI",
    "=M043 NGGA=M082 NGGU=M115 NGGEE=M146 NGGE=M156 NGGOO=M120 NGGO=M159 NGGAA=M127 NGGUA",
    "=M086htNGGE=M106htNGGOO=M183htNGGO=M155 GI=M111 GA=M168 GU=M190 GEE=M166 GUEI=M167 GUAN",
    "=M184 NGEN=M057 NGON=M177 NGUAN=M068 PI=M099 PA=M050 PU=M081 PEE=M051 PE=M102 POO=M066 PO",
    "=M145 MBI=M062 MBA=M122 MBU=M047 MBEE=M188 MBEE=M072 MBE=M172 MBOO=M174 MBO=M187 MBUU",
    "=M161htMBE=M105htMBOO=M142htMBO=M132 KPI=M092 KPA=M074 KPU=M044 KPEE=M108 KPE=M112 KPOO",
    "=M158 KPO=M124 GBI=M056 GBA=M148 GBU=M093 GBEE=M107 GBE=M071 GBOO=M070 GBO=M171 RA",
    "=M123 NDI=M129 NDA=M125 NDU=M191 NDEE=M119 NDE=M067 NDOO=M064 NDO=M152 NJA=M192 NJU",
    "=M149 NJEE=M134 NJOO=M182 VI=M185 VA=M151 VU=M173 VEE=M085 VE=M144 VOO=M077 VO=M164 NYIN",
    "=M058 NYAN=M170 NYUN=M098 NYEN=M060 NYON::<dsjj=oh=nn=fd=ey=lx=lh=ef=it<cijbTEENS>TENS",
    ">HUNDREDS>nm>nfnm>genm>MILLIONS"]⟩,
  ⟨0x1E900, [":ADLAMbshnALIF=DAALI=LAAM=MIIM=BA=SINNYIIYHE=PE=BHE=RA=E=FA=I=O=dk=YHE=oz=jc=KAF",
    "=YA=U=JIIM=CHI=HA=QAAF=GA=jd=TU=NHA=VA=gw=GBE=ZAL=KPO=lk;mchnALIF=DAALI=LAAM=MIIM=BA",
    "=SINNYIIYHE=PE=BHE=RA=E=FA=I=O=dk=YHE=oz=jc=KAF=YA=U=JIIM=CHI=HA=QAAF=GA=jd=TU=NHA=VA=gw",
    "=GBE=ZAL=KPO=lk;ALIF LENGTHENER;oxLENGTHENER;GEMINATIONib;fs;cmii;GEMINATEcmii;ja",
    ";NASALIZATIONib::::;dspj<jj<oh<nn<fd<ey<lx<lh<ef<it::::;gjeqib<kmib"]⟩,
  ⟨0x1EC71, [":INDIC SIYAQjbjj=oh=nn=fd=ey=lx=lh=ef=it=nf=og=nk=fb=ev=lz=lj=ej=iu=jjge=ohge",
    "=nnge=fdge=eyge=lxge=lhge=efge=itge=jjnl=ohnl=nnnl=fdnl=eynl=lxnl=lhnl=efnl=itnl=nfnl=ognl",
    "=nknl=fbnl=evnl=lznl=ljnl=ejnl=iunl=LAKH=LAKHAN<LAKHib<jbKAROR=KARORAN=PRE",
    "FIXEDjj>oh>nn>fd>ey>lx>lh>ef>it<PLACEHOLDER<fejjkj>fr=nnkk<RUPEEib<jbakjj>oh>nfnl<akLAKHib"]⟩,
  ⟨0x1ED01, [":OTTOMAN SIYAQjbjj=oh=nn=fd=ey=lx=lh=ef=it=nf=og=nk=fb=ev=lz=lj=ej=iu=jjge=ohge",
    "=nnge=fdge=eyge=lxge=lhge=efge=itge=jjnl=ohnl=nnnl=fdnl=eynl=lxnl=lhnl=efnl=itnl=nfnl=ognl",
    "=nknl=fbnl=evnl=lznl=ljnl=ejnl=iunl<MARRATAN<akjboh>nn>fd>ey>lx>lh>ef>it>nf>fdge>lxge>ohnl",
    ">nfnl<fejjfr>SIXTH"]⟩,
  ⟨0x1EE00, [":asicaf<BEH<gt<DAL:<oz<ZAIN<fq<TAH<pf<KAF<hb<if<iw<le<AIN<FEH<SAD<QAF<REH<ln<TEH",
    "<THEH<gx<THAL<DAD<ZAH<fj<dwBEH=iw=FEH=QAF:<gjBEH=gt:=HEH::=fq:=pf=KAF=hb=if=iw=le=AIN=FEH",
    "=SAD=QAF:=ln=TEH=THEH=gx:=DAD:=fj::::::<TAILEDgt::::=fq:=pf:=hb:=iw=le=AIN:=SAD=QAF:=ln::",
    "=gx:=DAD:=fj:=dwiw:>QAF:<STRETCHED BEH=gt:=HEH::=fq=TAH=pf=KAF:=if=iw=le=AIN=FEH=SAD=QAF:",
    "=ln=TEH=THEH=gx:=DAD=ZAH=fj=dwBEH:>FEH:<LOOPEDaf=BEH=gt=DAL=HEH=oz=ZAIN=fq=TAH=pf:=hb=if",
    "=iw=le=AIN=FEH=SAD=QAF=REH=ln=TEH=THEH=gx=THAL=DAD=ZAH=fj:::::<eaBEH>gt>DAL:>oz>ZAIN>fq",
    ">TAH>pf:>hb>if>iw>le>AIN>FEH>SAD>QAF>REH>ln>TEH>THEH>gx>THAL>DAD>ZAH>fj"]⟩,
  ⟨0x1EEF0, [":asicjlifpdfqpdTATWEEL=fqpdDAL"]⟩]

end TripleIndex
