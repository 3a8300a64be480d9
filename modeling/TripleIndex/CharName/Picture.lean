import TripleIndex.CharName.Run

/-!
Names from U+1F000 on: game pieces, enclosed letters, pictures, and the tags at the end.
-/

namespace TripleIndex

def pictureNames : List NameRun := [
  ⟨0x1F000, [":MAHJONG TILEeeWIND<mgWIND<paWIND<ixWIND<RED DRAGON<GREEN DRAGON<pcDRAGON<jjOFbz",
    "<ohOFbz<nnOFbz<fdOFbz<eyOFbz<lxOFbz<lhOFbz<efOFbz<itOFbz<jjOF BAMBOOS<ohOF BAMBOOS",
    "<nnOF BAMBOOS<fdOF BAMBOOS<eyOF BAMBOOS<lxOF BAMBOOS<lhOF BAMBOOS<efOF BAMBOOS",
    "<itOF BAMBOOS<jjOFcd<ohOFcd<nnOFcd<fdOFcd<eyOFcd<lxOFcd<lhOFcd<efOFcd<itOFcd<PLUM<ORCHID",
    "<BAMBOO<CHRYSANTHEMUM<SPRING<SUMMER<AUTUMN<WINTER<JOKER<BACK:::::DOMINO TILEgcBACK=-00-00",
    ">-01>-02>-03>-04>-05>-06=-01-00>-01>-02>-03>-04>-05>-06=-02-00>-01>-02>-03>-04>-05>-06",
    "=-03-00>-01>-02>-03>-04>-05>-06=-04-00>-01>-02>-03>-04>-05>-06=-05-00>-01>-02>-03>-04>-05",
    ">-06=-06-00>-01>-02>-03>-04>-05>-06<orBACK=-00-00>-01>-02>-03>-04>-05>-06=-01-00>-01>-02",
    ">-03>-04>-05>-06=-02-00>-01>-02>-03>-04>-05>-06=-03-00>-01>-02>-03>-04>-05>-06=-04-00>-01",
    ">-02>-03>-04>-05>-06=-05-00>-01>-02>-03>-04>-05>-06=-06-00>-01>-02>-03>-04>-05>-06::::::::",
    ":::::PLAYING CARD BACK<ACE OFmi<ohOFmi<nnOFmi<fdOFmi<eyOFmi<lxOFmi<lhOFmi<efOFmi<itOFmi",
    "<nfOFmi<JACK OFmi<gzOFmi<klOFmi<KING OFmi::<ACE OFfw<ohOFfw<nnOFfw<fdOFfw<eyOFfw<lxOFfw",
    "<lhOFfw<efOFfw<itOFfw<nfOFfw<JACK OFfw<gzOFfw<klOFfw<KING OFfw<RED JOKER:<ACE OFdq<ohOFdq",
    "<nnOFdq<fdOFdq<eyOFdq<lxOFdq<lhOFdq<efOFdq<itOFdq<nfOFdq<JACK OFdq<gzOFdq<klOFdq<KING OFdq",
    "<biJOKER:<ACE OF CLUBS<ohOF CLUBS<nnOF CLUBS<fdOF CLUBS<eyOF CLUBS<lxOF CLUBS<lhOF CLUBS",
    "<efOF CLUBS<itOF CLUBS<nfOF CLUBS<JACK OF CLUBS<gzOF CLUBS<klOF CLUBS<KING OF CLUBS",
    "<pcJOKER<FOOL<TRUMP-1=-2=-3=-4=-5=-6=-7=-8=-9=-10=-11=-12=-13=-14=-15=-16=-17=-18=-19=-20",
    "=-21:::::::::::dspjfgmp<cj;jjcj;ohcj;nncj;fdcj;eycj;lxcj;lhcj;efcj;itcj:DINGBATcclbdspj",
    ";ipcclbdspj:ccpjpdmb;apaw;DOLLARlupdOVERLAID BACKSLASH:PARENTHESIZEDhebshnA>B>C>D>E>F>G>H",
    ">I>J>K>L>M>N>O>P>Q>R>S>T>U>V>W>X>Y>Z:nvloBRACKETEDhebshnS:ccITALIChebshnC?R;CD;WZ",
    ":COPYLEFTmz:mmhebshnA>B>C>D>E>F>G>H>I>J>K>L>M>N>O>P>Q>R>S>T>U>V>W>X>Y>Z;HV;MV;SD;SS;PPV;WC",
    ":ipcchebshnA?B?C?D?E?F?G?H?I?J?K?L?M?N?O?P?Q?R?S?T?U?V?W?X?Y?Z:koMClu;MDlu;MRlu:ccCC",
    ";CpdOVERLAID BACKSLASH;HUMAN FIGURE:ipmmhebshnA?B?C?D?E?F?G?H?I?J?K?L?M?N?O?P?Q?R?S?T?U?V",
    "?W?X?Y?Z:csipmmhebshnP:ipmmIC<PA<SA<AB<WC:mlDJ:mmCL;COOL;FREE;ID;NEW;NG;OK;SOS;UPpdeqib;VS",
    ";nnD;SECOND SCREEN;ohK;fdK;efK;eyPOINTjj;lhPOINTjj;TWENTY-TWO POINToh;lzP;jjgeogP;hemchnD",
    ";HC;HDR;HI-RES;LOSSLESS;SHV;UHD;VOD:MASK WORKmz"]⟩,
  ⟨0x1F1E6, [":REGIONALgimzhnA>B>C>D>E>F>G>H>I>J>K>L>M>N>O>P>Q>R>S>T>U>V>W>X>Y>Z",
    ":mlHIRAGANA HOKA:mmKATAKANA KOKO<SA"]⟩,
  ⟨0x1F210, [":mmCJK UNIFIED IDEOGRAPH-624B>-5B57>-53CC;KATAKANA DE;CJK UNIFIED IDEOGRAPH-4E8C",
    ">-591A>-89E3>-5929>-4EA4>-6620>-7121>-6599>-524D>-5F8C>-518D>-65B0>-521D>-7D42>-751F>-8CA9",
    ">-58F0>-5439>-6F14>-6295>-6355>-4E00>-4E09>-904A>-5DE6>-4E2D>-53F3>-6307>-8D70>-6253>-7981",
    ">-7A7A>-5408>-6E80>-6709>-6708>-7533>-5272>-55B6>-914D::::",
    ":nvloBRACKETED CJK UNIFIED IDEOGRAPH-672C@-4E09@-4E8C@-5B89@-70B9@-6253@-76D7@-52DD@-6557:",
    ":::::::ccIDEOGRAPH ADVANTAGE<ACCEPT"]⟩,
  ⟨0x1F260, [":ROUNDEDmzezFU=LU=SHOU=XI=SHUANGXI=CAI"]⟩,
  ⟨0x1F300, [":CYCLONE:FOGGY:cgUMBRELLA:NIGHTpdSTARS:SUNRISEjoMOUNTAINS:SUNRISE",
    ":CITYSCAPE AT DUSK:SUNSETjoBUILDINGS:RAINBOW:BRIDGE AT NIGHT:WATERoy:VOLCANO:MILKY WAY",
    ":EARTH GLOBE EUROPE-AFRICA<AMERICAS<ASIA-AUSTRALIA:GLOBEpdMERIDIANS:NEWijmz",
    ":WAXING CRESCENTijmz:FIRSTkjijmz:WAXING GIBBOUSijmz:fgijmz:WANING GIBBOUSijmz:LASTkjijmz",
    ":WANING CRESCENTijmz:CRESCENTij:NEWijpdet:FIRSTkjijpdet:LASTkjijpdet:fgijpdet:SUNpdet",
    ":GLOWINGmo:SHOOTINGmo:THERMOMETER:biDROPLET:pcSUN<pdmcCLOUD<BEHIND CLOUD>pdRAIN",
    ":CLOUDpdRAIN<SNOW<LIGHTNING<TORNADO:FOG:WIND BLOWINGet:HOT DOG:TACO:BURRITO:CHESTNUT",
    ":SEEDLING:EVERGREEN TREE:DECIDUOUS TREE:PALM TREE:CACTUS:HOT PEPPER:TULIP:CHERRY BLOSSOM",
    ":ROSE:HIBISCUS:SUNFLOWER:BLOSSOM:EAR OF MAIZE<RICE:HERB:fdhfCLOVER:MAPLEhf:FALLENhf",
    ":hfFLUTTERING IN WIND:MUSHROOM:TOMATO:AUBERGINE:GRAPES:MELON:WATERMELON:TANGERINE:LEMON",
    ":BANANA:PINEAPPLE:RED APPLE:GREEN APPLE:PEAR:PEACH:CHERRIES:STRAWBERRY:HAMBURGER",
    ":SLICE OF PIZZA:MEAT ON BONE:POULTRY LEG:RICE CRACKER;BALL:COOKED RICE:CURRYanRICE",
    ":STEAMING BOWL:SPAGHETTI:BREAD:FRENCH FRIES:ROASTED SWEET POTATO:DANGO:ODEN:SUSHI",
    ":FRIED SHRIMP:FISH CAKEpdSWIRL DESIGN:SOFT ICE CREAM:SHAVED ICE:ICE CREAM:DOUGHNUT:COOKIE",
    ":CHOCOLATEbc:CANDY:LOLLIPOP:CUSTARD:HONEY POT:SHORTCAKE:BENTO BOX:POT OF FOOD:COOKING",
    ":FORKanKNIFE:TEACUP WITHOUT HANDLE:SAKE BOTTLEanCUP:WINE GLASS:COCKTAIL GLASS",
    ":TROPICAL DRINK:BEER MUG:CLINKING BEER MUGS:BABY BOTTLE:FORKanKNIFEpdPLATE",
    ":BOTTLEpdPOPPING CORK:POPCORN:RIBBON:WRAPPED PRESENT:BIRTHDAY CAKE:JACK-O-LANTERN",
    ":CHRISTMAS TREE:FATHER CHRISTMAS:FIREWORKS:FIREWORK SPARKLER:BALLOON:PARTY POPPER",
    ":CONFETTI BALL:TANABATA TREE:csFLAGS:PINE DECORATION:JAPANESE DOLLS:CARP STREAMER",
    ":WIND CHIME:ijVIEWING CEREMONY:SCHOOL SATCHEL:GRADUATION CAP:fvpdTIP ONnihg",
    ":BOUQUET OF FLOWERS:MILITARY MEDAL:REMINDER RIBBON:ioKEYBOARDpdJACKS:STUDIO MICROPHONE",
    ":LEVEL SLIDER:CONTROL KNOBS:BEAMED ASCENDINGioNOTES;DESCENDINGioNOTES:FILM FRAMES",
    ":ADMISSION TICKETS:CAROUSEL HORSE:FERRIS WHEEL:ROLLER COASTER:FISHING POLEanFISH",
    ":MICROPHONE:MOVIE CAMERA:CINEMA:HEADPHONE:ARTIST PALETTE:nuHAT:CIRCUS TENT:TICKET",
    ":CLAPPER BOARD:PERFORMING ARTS:VIDEO GAME:DIRECT HIT:SLOT MACHINE:BILLIARDS:GAME DIE",
    ":BOWLING:FLOWER PLAYING CARDS:ioNOTE:imioNOTES:SAXOPHONE:GUITAR:ioKEYBOARD:TRUMPET:VIOLIN",
    ":ioSCORE:RUNNING SHIRTpdSASH:TENNIS RACQUETanBALL:SKIanSKI BOOT:BASKETBALLanHOOP",
    ":CHEQUERED FLAG:SNOWBOARDER:RUNNER:SURFER:SPO",
    "RTS MEDAL:TROPHY:HORSE RACING:AMERICAN FOOTBALL:RUGBY FOOTBALL:SWIMMER:WEIGHT LIFTER",
    ":GOLFER:RACING MOTORCYCLE;CAR:CRICKET BATanBALL:VOLLEYBALL:FIELD HOCKEY STICKanBALL",
    ":ICE HOCKEY STICKanPUCK:TABLE TENNIS PADDLEanBALL:SNOW CAPPED MOUNTAIN:CAMPING",
    ":BEACHpdUMBRELLA:BUILDING CONSTRUCTION:HOUSE BUILDINGS:CITYSCAPE:DERELICT HOUSE BUILDING",
    ":CLASSICAL BUILDING:DESERT;ISLAND:NATIONAL PARK:STADIUM:HOUSE BUILDING;pdGARDEN",
    ":OFFICE BUILDING:JAPANESE POST OFFICE:EUROPEAN POST OFFICE:HOSPITAL:BANK",
    ":AUTOMATED TELLER MACHINE:HOTEL:LOVE HOTEL:CONVENIENCE STORE:SCHOOL:DEPARTMENT STORE",
    ":FACTORY:IZAKAYA LANTERN:JAPANESE CASTLE:EUROPEAN CASTLE:pcPENNANT:biPENNANT:WAVINGpcFLAG",
    ";biFLAG:ROSETTE:biROSETTE:LABEL:BADMINTON RACQUETanSHUTTLECOCK:BOWanaw:AMPHORA",
    ":EMOJIiiFITZPATRICK TYPE-1-2>-3>-4>-5>-6:RAT:MOUSE:OX:WATER BUFFALO:COW:TIGER:LEOPARD",
    ":RABBIT:CAT:DRAGON:CROCODILE:WHALE:SNAIL:SNAKE:HORSE:RAM:GOAT:SHEEP:MONKEY:ROOSTER:CHICKEN",
    ":DOG:PIG:BOAR:ELEPHANT:OCTOPUS:SPIRALlo:BUG:ANT:HONEYBEE:LADY BEETLE:FISH:TROPICAL FISH",
    ":BLOWFISH:TURTLE:HATCHING CHICK:BABY CHICK:FRONT-FACING BABY CHICK:BIRD:PENGUIN:KOALA",
    ":POODLE:DROMEDARY CAMEL:BACTRIAN CAMEL:DOLPHIN:MOUSEet:COWet:TIGERet:RABBITet:CATet",
    ":DRAGONet:SPOUTING WHALE:HORSEet:MONKEYet:DOGet:PIGet:FROGet:HAMSTERet:WOLFet:BEARet",
    ":PANDAet:PIG NOSE:PAW PRINTS:CHIPMUNK:es:EYE:EAR:NOSE:ik:TONGUE:pcUPkaBACKHANDgh",
    ";ebkaBACKHANDgh;hgkaBACKHANDgh;kskaBACKHANDgh:FISTEDftlu:WAVINGftlu:OKftlu:THUMBS UPlu",
    ";eblu:CLAPPING HANDSlu:jkHANDSlu:CROWN:WOMANS HAT:EYEGLASSES:NECKTIE:T-SHIRT:JEANS:DRESS",
    ":KIMONO:BIKINI:WOMANS CLOTHES:PURSE:HANDBAG:POUCH:MANS SHOE:ATHLETIC SHOE:HIGH-HEELED SHOE",
    ":WOMANS SANDAL;BOOTS:FOOTPRINTS:BUST IN SILHOUETTE:BUSTS IN SILHOUETTE:BOY:GIRL:MAN:WOMAN",
    ":FAMILY:MANanWOMAN HOLDING HANDS:ohMEN HOLDING HANDS;WOMEN HOLDING HANDS:POLICE OFFICER",
    ":WOMANpdBUNNY EARS:BRIDEpdVEIL:jvpdBLOND HAIR:MANpdGUA PI MAO<TURBAN:OLDER MAN;WOMAN:BABY",
    ":CONSTRUCTION WORKER:PRINCESS:JAPANESE OGRE;GOBLIN:GHOST:BABY ANGEL:EXTRATERRESTRIAL ALIEN",
    ":ALIEN MONSTER:IMP:SKULL:INFORMATION DESKjv:GUARDSMAN:DANCER:LIPSTICK:NAIL POLISH",
    ":etMASSAGE:HAIRCUT:BARBER POLE:SYRINGE:PILL:KISSib:LOVEhn:kv:GEM STONE:KISS:BOUQUET",
    ":COUPLEpdfv:WEDDING:BEATINGfv:BROKENfv:ohfw:SPARKLINGfv:GROWINGfv:fvpdaw:BLUEfv:GREENfv",
    ":YELLOWfv:PURPLEfv:fvpdRIBBON:REVOLVINGfw:fvDECORATION:dpSHAPEpdAdvgk:ELECTRIChpBULB",
    ":ANGERmz:BOMB:SLEEPINGmz:COLLISIONmz:SPLASHING SWEATmz:DROPLET:dcmz:PILE OF POO",
    ":FLEXED BICEPS:DIZZYmz:SPEECH BALLOON:THOUGHT BALLOON:pcFLOWER:gePOINTSmz:MONEY BAG",
    ":CURRENCY EXCHANGE:fxDOLLARlu:CREDIT CARD:BANKNOTEpdYENlu<DOLLARlu<EUROlu<POUNDlu",
    ":MONEYpdWINGS:CHARTpdooTRENDanYENlu:SEAT:PERSONAL COMPUTER:BRIEFCASE:MINIDISC:FLOPPY DISK",
    ":OPTICAL DISC:DVD:FILE FOLDER:jkFILE FOLDER:PAGEpdcw;FACING UP:CALENDAR:TEAR-OFF CALENDAR",
    ":CARDgh:CHARTpdooTREND<edTREND:bcCHART:CLIPBOARD:PUSHPIN:ROUND PUSHPIN:PAPERCLIP:mqRULER",
    ":nyRULER:BOOKMARK TABS:LEDGER:NOTEBOOK;pdDECORATIVE COVER:cgBOOK:jkBOOK:GREEN BOOK",
    ":BLUE BOOK:ORANGE BOOK:BOOKS:NAME BADGE:SCROLL:MEMO:neRECEIVER:PAGER:FAX MACHINE",
    ":SATELLITE ANTENNA:PUBLIC ADDRESS LOUDSPEAKER:CHEERING MEGAPHONE:OUTBOX TRAY:INBOX TRAY",
    ":PACKAGE:E-MAILmz:INCOMINGek:ekpdedawac:cgMAILBOXpdLOWERED FLAG=koFLAG:jkMAILBOXpdkoFLAG",
    "=LOWERED FLAG:POSTBOX:POSTALgd:NEWSPAPER:MOBILE PHONE<pdkuawAThg:VIBRATION MODE",
    ":MOBILE PHONE OFF:NO MOBILE PHONES:ANTENNApdBARS:CAMERA;pdFLASH:VIDEO CAMERA:TELEVISION",
    ":RADIO:VIDEOCASSETTE:FILM PROJECTOR:PO",
    "RTABLE STEREO:PRAYER BEADS:TWISTEDkuay:cfkuanhjjkcbay@aypdccjjjq;edanoojkcbay",
    ":apedanoojkcbay:huBRIGHTNESSmz:fyBRIGHTNESSmz:SPEAKERpdCANCELLATIONmr:SPEAKER;pdjjmfoy",
    "<nnmfWAVES:BATTERY:ELECTRIC PLUG:hhMAGNIFYING GLASS:ktMAGNIFYING GLASS:LOCKpdINK PEN",
    ":cgLOCKpdKEY:KEY:LOCK:jkLOCK:BELL;pdCANCELLATIONmr:BOOKMARK:LINKmz:RADIO BUTTON",
    ":BACKpdhjawac:ENDpdhjawac:ONpdeqibpdhgksawac:SOONpdkuawac:nupdooawac:NOjjUNDERegmz",
    ":KEYCAPnf:INPUTmzezhebsLETTERS>mcLETTERS=NUMBERS=SYMBOLS=heLETTERS:FIRE:ELECTRIC TORCH",
    ":WRENCH:HAMMER:NUTanBOLT:HOCHO:PISTOL:MICROSCOPE:TELESCOPE:CRYSTAL BALL:lxjzmopdigdv",
    ":JAPANESEmzezBEGINNER:TRIDENT EMBLEM:bimlBUTTON:pcmlBUTTON:hdREDcb;BLUEcb;ORANGEdp;BLUEdp",
    ":mcORANGEdp;BLUEdp:olREDnw:ecREDnw:olmcREDnw:ecmcREDnw:hvksllpccb:omksllpccb:cccrPOMMEE",
    ":crPOMMEEpdHALF-CIRCLEbe;POMMEE:NOTCHEDhgSEMICIRCLEpdnndx;ksSEMICIRCLEpdnndx",
    ":mzezMARKS CHAPTER:pchecr:fxhecr:CELTICcr:OMmz:DOVE OF PEACE:KAABA:MOSQUE:SYNAGOGUE",
    ":MENORAHpditBRANCHES:BOWL OF HYGIEIA:CLOCKetjjOCLOCK<ohOCLOCK<nnOCLOCK<fdOCLOCK<eyOCLOCK",
    "<lxOCLOCK<lhOCLOCK<efOCLOCK<itOCLOCK<nfOCLOCK<ELEVEN OCLOCK<ofOCLOCK<ONE-THIRTY<TWO-THIRTY",
    "<THREE-THIRTY<FOUR-THIRTY<FIVE-THIRTY<SIX-THIRTY<SEVEN-THIRTY<EIGHT-THIRTY<NINE-THIRTY",
    "<TEN-THIRTY<ELEVEN-THIRTY<TWELVE-THIRTY:ksSPEAKER<pdjjmfoy=nnmfWAVES:BULLHORN;pdmfWAVES",
    ":RINGING BELL:BOOK:CANDLE:MANTELPIECE CLOCK:biSKULLanCROSSBONES:NO PIRACY:HOLE",
    ":MAN IN BUSINESS SUIT LEVITATING:SLEUTH OR SPY:DARK SUNGLASSES:SPIDER;WEB:JOYSTICK",
    ":MAN DANCING:hgftneRECEIVER:neRECEIVERpdPAGE:ksftneRECEIVER:pcTOUCHTONEne:biTOUCHTONEne",
    ":neONnuOF MODEM:CLAMSHELL MOBILE PHONE:BACK OFek:STAMPEDek:ekpdLIGHTNING:FLYINGek",
    ":PENjoSTAMPEDek:LINKED PAPERCLIPS:biPUSHPIN:hvhgPENCIL<BALLPOINT PEN<FOUNTAIN PEN",
    "<PAINTBRUSH<CRAYON:hgWRITINGft:ocOKftlu:koftpdexSPLAYED:krkoftpdexSPLAYED;THUMBS UPlu<eblu",
    ";VICTORYft;ftpdigFINGER EXTENDED:koftpdPARTbgigankvex:pcebkahgftgh:lspchgkagh<kskagh",
    ";bihgkagh<kskagh:bihgkaBACKHANDgh;kskaBACKHANDgh:lspcUPkagh<ebkagh;biUPkagh<ebkagh",
    ":biUPkaBACKHANDgh;ebkaBACKHANDgh;fv:DESKTOP COMPUTER:KEYBOARDanMOUSE:nnNETWORKED COMPUTERS",
    ":PRINTER:POCKET CALCULATOR:biHARDloFLOPPY DISK:pcHARDloFLOPPY DISK:SOFTloFLOPPY DISK",
    ":TAPE CARTRIDGE:WIRED KEYBOARD:jjBUTTON MOUSE:ohBUTTON MOUSE:nnBUTTON MOUSE:TRACKBALL",
    ":jgPERSONAL COMPUTER:HARD DISK:SCREEN:PRINTER ICON:FAX ICON:OPTICAL DISC ICON",
    ":DOCUMENTpdTEXT=anPICTURE<PICTURE:FRAMEpdPICTURE<TILES<AN X:biFOLDER:FOLDER:jkFOLDER",
    ":CARDghDIVIDERS;FILE BOX:FILE CABINET:EMPTY NOTE<PAGE<PAD:NOTE;PAGE;PAD:EMPTY DOCUMENT",
    ";PAGE;PAGES:DOCUMENT:PAGE:PAGES:WASTEBASKET:SPIRAL NOTE PAD;CALENDAR PAD:DESKTOP WINDOW",
    ":MINIMIZE:MAXIMIZE:OVERLAP:cfksanhgSEMICIRCLEay:CANCELLATION X:INCREASE FONT SIZEmz",
    ":DECREASE FONT SIZEmz:COMPRESSION:jgKEY:ROLLED-UP NEWSPAPER:PAGEpdccTEXT:STOCK CHART",
    ":DAGGER KNIFE:LIPS:SPEAKING HEAD IN SILHOUETTE:nnRAYSac<be<hg<ks:hgSPEECH BUBBLE",
    ":ksSPEECH BUBBLE:ohSPEECH BUBBLES:nnSPEECH BUBBLES:hgTHOUGHT BUBBLE:ksTHOUGHT BUBBLE",
    ":hgANGER BUBBLE:ksANGER BUBBLE:MOOD BUBBLE:LIGHTNING MOOD BUBBLE;MOOD:BALLOT BOXpdBALLOT",
    ";lcX;BOXpdlcX;bklcX;BOXpdbklcX:hpCHECKib:BALLOT BOXpdbkCHECK:WORLD MAP:MOUNT FUJI",
    ":TOKYO TOWER:STATUE OF LIBERTY:SILHOUETTE OF JAPAN:MOYAI:GRINNINGet<pdmdes",
    ":etpdTEARS OF JOY:mdetpdjkik?anmdes@COLD SWEAT@TIGHTLY-CLOSEDes=HALO=HORNS:WINKINGet",
    ":mdetpdmdes:etSAVOURING DELICIOUS FOOD:RELIEVEDet:mdetpdHEART-SHAPEDes=SUNGLASSES",
    ":SMIRKINGet:iret:EXPRESSIONLESSet:UNAMUSEDet:etpdCOLD SWEAT:PENSIVEet:CONFUSEDet",
    ":CONFOUNDEDet:KISSINGet:etTHROWING A KISS:KISSINGetpdmdes=cges:etpdSTUCK-OUT TONGUE",
    "?anWINKING EYE@TIGHTLY-CLOSEDes:DISAPPOINTEDet:WORRIEDet:ANGRYet:POUTINGet:CRYINGet",
    ":PERSEVERINGet:etpdLOOK OF TRIUMPH:DISAPPOINTED BUT RELIEVEDet:FROWNINGetpdjkik",
    ":ANGUISHEDet:FEARFULet:WEARYet:SLEEPYet:TIREDet:GRIMACINGet:LOUDLY CRYINGet:etpdjkik",
    ":HUSHEDet:etpdjkikanCOLD SWEAT;SCREAMING IN FEAR:ASTONISHEDet:FLUSHEDet:SLEEPINGet:DIZZYet",
    ":etWITHOUTik;pdMEDICAL MASK:GRINNING CATetpdmdes:CATetpdTEARS OF JOY:mdCATetpdjkik",
    ">HEART-SHAPEDes:CATetpdWRY SMILE:KISSING CATetpdcges:POUTING CATet:CRYING CATet",
    ":WEARY CATet:SLIGHTLY FROWNINGet;mdet:UPSIDE-DOWNet:etpdROLLINGes<NO GOOD GESTURE",
    "<OK GESTURE:jvBOWING DEEPLY:SEE-NO-EVIL MONKEY:HEAR-NO-EVIL MONKEY:SPEAK-NO-EVIL MONKEY",
    ":HAPPYjvRAISINGjjft:jvRAISING BOTH HANDS IN CELEBRATION;FROWNING;pdPOUTINGet<FOLDED HANDS",
    ":ixpakahf:mgpakahf:ixeekahf:mgeekahf:ocixpakahf;mgpakahf;ixeekahf;mgeekahf:ixpakaVINEhf",
    ":mgpakaVINEhf:ixeekaVINEhf:mgeekaVINEhf:fxixpakaVINEhf;mgpakaVINEhf;ixeekaVINEhf",
    ";mgeekaVINEhf:ixpakaBUD:mgpakaBUD:ixeekaBUD:mgeekaBUD:fxixpakaBUD;mgpakaBUD;ixeekaBUD",
    ";mgeekaBUD:HOLLOW QUILTmljn>INbiml:SOLID QUILTmljn>INbiml:hjROCKET:ooROCKET:kuROCKET",
    ":edROCKET:lchoETjn:fxlchoETjn:hojkETjn:fxhojkETjn;amjn:SWASHamjn:lbfxdzoccjknibjn>cjknibjn",
    "=hudzcjknibjn:fxINTERROBANGjn:lbINTERROBANGjn:fxlbINTERROBANGjn:otfxme<kqme:CHECKER BOARD",
    ":kqCHECKER BOARD:ROCKET:HELICOPTER:STEAM LOCOMOTIVE:RAILWAY CAR:HIGH-SPEED TRAIN=pdboNOSE",
    ":TRAIN:METRO:hpRAIL:STATION:TRAM;CAR:BUS:ONCOMING BUS:TROLLEYBUS:BUSmp:MINIBUS:AMBULANCE",
    ":FIRE ENGINE:POLICE CAR:ONCOMING POLICE CAR:TAXI:ONCOMING TAXI:AUTOMOBILE",
    ":ONCOMING AUTOMOBILE:RECREATIONAL VEHICLE:DELIVERY TRUCK:ARTICULATED LORRY:TRACTOR",
    ":MONORAIL:MOUNTAIN RAILWAY:SUSPENSION RAILWAY:MOUNTAIN CABLEWAY:AERIAL TRAMWAY:SHIP",
    ":ROWBOAT:SPEEDBOAT:gcTRAFFIChp:orTRAFFIChp:CONSTRUCTIONlu:POLICE CARS REVOLVINGhp",
    ":nyFLAG ON POST:DOOR:NO ENTRYlu:SMOKINGmz:NO SMOKINGmz:PUT LITTER IN ITS PLACEmz",
    ":DOiyLITTERmz:POTABLE WATERmz:NON-POTABLE WATERmz:BICYCLE:NO BICYCLES:BICYCLIST",
    ":MOUNTAIN BICYCLIST:PEDESTRIAN:NO PEDESTRIANS:CHILDRENcu:MENSmz:WOMENSmz:RESTROOM:BABYmz",
    ":TOILET:WATER CLOSET:SHOWER:BATH:BATHTUB:PASSPO",
    "RT CONTROL:CUSTOMS:BAGGAGE CL",
    "AIM:hgLUGGAGE:nwpdROUNDED CORNERS:PROHIBITEDlu:ccINFORMATION SOU",
    "RCE:BOYSmz:GIRLSmz:COUCHanLAMP:SLEEPING ACCOMMODATION:SHOPPING BAGS:BELLHOP BELL:BED",
    ":PLACE OF WORSHIP:OCTAGONALlu:SHOPPING TROLLEY:STUPA:PAGODA:HINDU TEMPLE:HUT:ELEVATOR:::::",
    ":PLAYGROUND SLIDE:WHEEL:kvBUOY:HAMMERanWRENCH:SHIELD:OIL DRUM:MOTORWAY:RAILWAY TRACK",
    ":MOTOR BOAT:olMILITARY AIRPLANE<AIRPLANE<mcAIRPLANE:mcAIRPLANE:NORTHEAST-POINTING AIRPLANE",
    ":AIRPLANE DEPARTURE;ARRIVING::::SATELLITE:ONCOMING FIRE ENGINE:DIESEL LOCOMOTIVE",
    ":PASSENGER SHIP:SCOOTER:MOTOR SCOOTER:CANOE:SLED:FLYING SAUCER:SKATEBOARD:AUTO RICKSHAW",
    ":PICKUP TRUCK:ROLLER SKATE::::ALCHEMICALmzezQUINTESSENCE=AIR=FIRE=EARTH=WATER=AQUAFORTIS",
    "=AQUA REGIA?-2>VITAE?-2=VINEGAR>-2>-3=SULFUR=PHILOSOPHERS SULFUR=biSULFUR",
    "=MERCURY SUBLIMATE?-2?-3=CINNABAR=SALT=NITRE=VITRIOL>-2=ROCK SALT?-2=GOLD=SILVER=IRON ORE",
    "?-2=CROCUS OF IRON=REGULUS OF IRON=COPPER ORE=IRON-COPPER ORE=SUBLIMATE OF COPPER",
    "=CROCUS OF COPPER@-2=COPPER ANTIMONIATE=SALT OF COPPER ANTIMONIATE",
    "=SUBLIMATE OF SALT OF COPPER=VERDIGRIS=TIN ORE=LEAD ORE=ANTIMONY ORE=SUBLIMATE OF ANTIMONY",
    "=SALT OF ANTIMONY=SUBLIMATE OF SALT OF ANTIMONY=VINEGAR OF ANTIMONY=REGULUS OF ANTIMONY@-2",
    "=REGULUS>-2>-3>-4=ALKALI>-2=MARCASITE=SAL-AMMONIAC=ARSENIC=REALGAR>-2=AURIPIGMENT",
    "=BISMUTH ORE=TARTAR>-2=QUICK LIME=BORAX>-2>-3=ALUM=OIL=SPIRIT=TINCTURE=GUM=WAX=POWDER=CALX",
    "=TUTTY=CAPUT MORTUUM=SCEPTER OF JOVE=CADUCEUS=TRIDENT=STARRED TRIDENT=LODESTONE=SOAP=URINE",
    "=HORSE DUNG=ASHES=POT ASHES=BRICK=POWDERED BRICK=AMALGAM=STRATUM SUPER STRATUM@-2",
    "=SUBLIMATION=PRECIPITATE=DISTILL=DISSOLVE>-2=PURIFY=PUTREFACTION=CRUCIBLE>-2>-3>-4>-5",
    "=ALEMBIC=BATH OF MARY?VAPOURS=RETORT=HOUR=NIGHT=DAY-NIGHT=MONTH=frDRAM>OUNCE::::::::::::",
    ":bihhISOSCELESksnw;olISOSCELESksnw;ktISOSCELESksnw;ecISOSCELESksnw;SLIGHTLYmccb:iebkpccb",
    ":bkpccb:fxpccb:otfxpccb:EXTREMELYfxpccb:pccbcnbimccb:ROUND TARGET:biTINYml;SLIGHTLYmcml",
    ":hppcml:iepcml:bkpcml:fxpcml:otfxpcml:EXTREMELYfxpcml:pcmlcnbiotmcml>ieml:mlTARGET",
    ":biTINYdp;otmcdp;iemcdp:pcdpcnbiotmcdp>iedp:dpTARGET:biTINYhw;otmchw;iemchw:pchwcnbimchw",
    ":THINfocr:hpfocr:iefocr:bkfocr:otbkfocr;fxfocr:EXTREMELYfxfocr:THINkz:hpkz:iekz:bkkz:fxkz",
    ":otfxkz:EXTREMELYfxkz:hpeymjba:ieeymjba:bkeymjba:fxeymjba:otfxeymjba:EXTREMELYfxeymjba",
    ":hplxmjba:ielxmjba:bklxmjba:fxlxmjba:otfxlxmjba:EXTREMELYfxlxmjba:hpefmjba:ieefmjba",
    ":bkefmjba:fxefmjba:otfxefmjba:hpnnjzbimo:iennjzbimo:nnjzbimo:iennjzjxmo:hpfdjzbimo",
    ":iefdjzbimo:fdjzbimo:iefdjzjxmo:kqhpfdjzjxmo:hpeyjzbimo:fxeyjzbimo:ielxjzbimo:fxlxjzbimo",
    ":lxjzjxmo:ieefjzbimo:fxefjzbimo:otfxefjzbimo:fxefjzjxmo:hpofjzbimo:fxofjzbimo=jxmo:ccnw",
    ":ipccnw:ccml:ipccml::::::::hdORANGEcb;YELLOWcb;GREENcb;PURPLEcb;BROWNcb;REDml;BLUEml",
    ";ORANGEml;YELLOWml;GREENml;PURPLEml;BROWNml:::::fxenlu"]⟩,
  ⟨0x1F800, [":hjawpdmcnwax:ooawpdmcnwax:kuawpdmcnwax:edawpdmcnwax:hjawpdienwax:ooawpdienwax",
    ":kuawpdienwax:edawpdienwax:hjawpdhdnwax:ooawpdhdnwax:kuawpdhdnwax:edawpdhdnwax::::",
    ":hjawpdmceoax:ooawpdmceoax:kuawpdmceoax:edawpdmceoax:hjawpdeoax:ooawpdeoax:kuawpdeoax",
    ":edawpdeoax:fxhjawpdeoax;ooawpdeoax;kuawpdeoax;edawpdeoax;hjawpdhdeoax;ooawpdhdeoax",
    ";kuawpdhdeoax;edawpdhdeoax:hjnxawpdNARROWlm:oonxawpdNARROWlm:kunxawpdNARROWlm",
    ":ednxawpdNARROWlm:hjnxawpdielm:oonxawpdielm:kunxawpdielm:ednxawpdielm:hjnxawpdbklm",
    ":oonxawpdbklm:kunxawpdbklm:ednxawpdbklm:hjnxawpdfxlm:oonxawpdfxlm:kunxawpdfxlm",
    ":ednxawpdfxlm:hjnxawpdotfxlm:oonxawpdotfxlm:kunxawpdotfxlm:ednxawpdotfxlm:hjFINGER-POSTaw",
    ":ooFINGER-POSTaw:kuFINGER-POSTaw:edFINGER-POSTaw:hjmmaw:oommaw:kummaw:edmmaw:hjckaw:oockaw",
    ":kuckaw:edckaw:hjfxckaw:oofxckaw:kufxckaw:edfxckaw:hjfxaw:oofxaw:kufxaw:edfxaw::::::::",
    ":hjlbaw:oolbaw:kulbaw:edlbaw:ixpalbaw;eelbaw:mgeelbaw;palbaw:hgkslbaw:UPeblbaw::::::",
    ":WIDE-HEADEDhjhpbdaw<oohpbdaw<kuhpbdaw<edhpbdaw<ixpahpbdaw=eehpbdaw<mgeehpbdaw=pahpbdaw",
    "<hjbdaw<oobdaw<kubdaw<edbdaw<ixpabdaw=eebdaw<mgeebdaw=pabdaw<hjiebdaw<ooiebdaw<kuiebdaw",
    "<ediebdaw<ixpaiebdaw=eeiebdaw<mgeeiebdaw=paiebdaw<hjfxbdaw<oofxbdaw<kufxbdaw<edfxbdaw",
    "<ixpafxbdaw=eefxbdaw<mgeefxbdaw=pafxbdaw<hjotfxbdaw<oootfxbdaw<kuotfxbdaw<edotfxbdaw",
    "<ixpaotfxbdaw=eeotfxbdaw<mgeeotfxbdaw=paotfxbdaw:::::::::hjnwax:oonwax:kunwax:ednwax",
    ":hjpcawWITHINnwax:oopcawWITHINnwax:kupcawWITHINnwax:edpcawWITHINnwax:hjawpdNOTCHEDnb",
    ":ooawpdNOTCHEDnb:kuawpdNOTCHEDnb:edawpdNOTCHEDnb:fxawlmWIDTHjj>ohTHIRDS>jjfr?THIRD",
    ":hjBOTTOM-SHADEDpcaw:kublSHADEDpcaw:hjnuSHADEDpcaw:kunuSHADEDpcaw:hjLEFT-SHADEDpcaw",
    ":kuRIGHT-SHADEDpcaw:hjRIGHT-SHADEDpcaw:kuLEFT-SHADEDpcaw:hjBACK-TILTEDllpcaw",
    ":kuBACK-TILTEDllpcaw:hjFRONT-TILTEDllpcaw:kuFRONT-TILTEDllpcaw:pcawlmWIDTHjj>ohTHIRDS::",
    ":awkaooTHENixpa<kuTHEN CURVINGmgpa"]⟩,
  ⟨0x1F900, [":cccrFORMEEpdfddx>ohdx<FORMEE:hgfrcbpdfddx>nndx>ohdx>dv<cb:DOWNWARD FACINGgb",
    "<NOTCHEDgb<gbpddv<NOTCHEDgbpddv:PINCHEDex:pcfv:BROWNfv:PINCHINGft:ZIPPER-MOUTHet",
    ":MONEY-MOUTHet:etpdTHERMOMETER:NERDet:THINKINGet:etpdHEAD-BANDAGE:ROBOTet:HUGGINGet",
    ":luOFniHORNS:CALL MEft:koBACK OFft:LEFT-FACING FIST:RIGHT-FACING FIST:HANDSHAKE",
    ":ftpdghanigexcs:I LOVE YOUftlu:etpdCOWBOY HAT:CLOWNet:NAUSEATEDet",
    ":ROLLING ONniFLOOR LAUGHING:DROOLINGet:LYINGet:etPALM:SNEEZINGet:etpdjjEYEBROWko",
    ":GRINNINGetpdmoes=jjhdanjjmcEYE:etpdFINGER COVERINGcgLIPS:SERIOUSetpdSYMBOLS COVERINGik",
    ":mdetpdmdesanftCOVERINGik:etpdjkikVOMITING:SHOCKEDetpdEXPLODING HEAD:PREGNANT WOMAN",
    ":BREAST-FEEDING:PALMS UP TOGETHER:SELFIE:PRINCE:MAN IN TUXEDO:MOTHER CHRISTMAS:SHRUG",
    ":jvDOING CARTWHEEL:JUGGLING:FENCER:MODERN PENTATHLON:WRESTLERS:WATER POLO:HANDBALL",
    ":DIVING MASK:WILTED FLOWER:DRUMpdDRUMSTICKS:CLINKING GLASSES:TUMBLER GLASS:SPOON:GOAL NET",
    ":RIFLE:FIRST PLACE MEDAL:SECOND PLACE MEDAL:THIRD PLACE MEDAL:BOXING GLOVE",
    ":MARTIAL ARTS UNIFORM:CURLING STONE:LACROSSE STICKanBALL:SOFTBALL:FLYING DISC:CROISSANT",
    ":AVOCADO:CUCUMBER:BACON:POTATO:CARROT:BAGUETTE BREAD:GREEN SALAD:SHALLOW PAN OF FOOD",
    ":STUFFED FLATBREAD:EGG:GLASS OF MILK:PEANUTS:KIWIFRUIT:PANCAKES:DUMPLING:FORTUNE COOKIE",
    ":TAKEOUT BOX:CHOPSTICKS:BOWLpdSPOON:CUPpdSTRAW:COCONUT:BROCCOLI:PIE:PRETZEL:CUT OF MEAT",
    ":SANDWICH:CANNED FOOD:LEAFY GREEN:MANGO:ijCAKE:BAGEL:mdetpdmdesannnfw:YAWNINGet:mdetpdTEAR",
    ":etpdPARTYgdanPARTY HAT<UNEVENesanWAVYik:OVERHEATEDet:FREEZINGet:NINJA:DISGUISEDet",
    ":etHOLDING BACK TEARS;pdPLEADINGes:SARI:LAB COAT:GOGGLES:HIKING BOOT:FLAT SHOE:CRAB:LIONet",
    ":SCORPION:TURKEY:UNICORNet:EAGLE:DUCK:BAT:SHARK:OWL:FOXet:BUTTERFLY:DEER:GORILLA:LIZARD",
    ":RHINOCEROS:SHRIMP:SQUID:GIRAFFEet:ZEBRAet:HEDGEHOG:SAUROPOD:T-REX:CRICKET:KANGAROO:LLAMA",
    ":PEACOCK:HIPPOPOTAMUS:PARROT:RACCOON:LOBSTER:MOSQUITO:MICROBE:BADGER:SWAN:MAMMOTH:DODO",
    ":SLOTH:OTTER:ORANGUTAN:SKUNK:FLAMINGO:OYSTER:BEAVER:BISON:SEAL:GUIDE DOG:PROBING CANE",
    ":EMOJI COMPONENT RED HAIR<cxHAIR<BALD<pcHAIR:BONE:LEG:FOOT:TOOTH:SUPERHERO:SUPERVILLAIN",
    ":SAFETY VEST:EARpdHEARING AID:MOTORIZED WHEELCHAIR:MANUAL WHEELCHAIR:MECHANICAL ARM;LEG",
    ":CHEESE WEDGE:CUPCAKE:SALT SHAKER:BEVERAGE BOX:GARLIC:ONION:FALAFEL:WAFFLE:BUTTER",
    ":MATE DRINK:ICE CUBE:BUBBLE TEA:TROLL:STANDINGjv:KNEELINGjv:DEAFjv:etpdMONOCLE:ADULT:CHILD",
    ":OLDER ADULT:BEARDEDjv:jvpdHEADSCARF;IN STEAMY ROOM;CLIMBING;IN LOTUS POSITION:MAGE:FAIRY",
    ":VAMPIRE:MERPERSON:ELF:GENIE:ZOMBIE:BRAIN:ORANGEfv:BILLED CAP:SCARF:GLOVES:COAT:SOCKS",
    ":RED GIFTek:FIRECRACKER:JIGSAW PUZZLE PIECE:TE",
    "ST TUBE:PETRIdu:DNAdzHELIX:COMPASS:ABACUS:FIRE EXTINGUISHER:TOOLBOX:BRICK:MAGNET:LUGGAGE",
    ":LOTION BOTTLE:SPOOL OF THREAD:BALL OF YARN:SAFETY PIN:TEDDY BEAR:BROOM:BASKET",
    ":ROLL OF PAPER:bcOF SOAP:SPONGE:RECEIPT:NAZAR AMULET:ircaKING<kl<ROOK<BISHOP<gz<PAWN",
    ":pccagzkxFORTY-FIVEdh:bicagzkxFORTY-FIVEdh:ircagzkxFORTY-FIVEdh:pccaKINGkxiudh<klkxiudh",
    "<ROOKkxiudh<BISHOPkxiudh<gzkxiudh<PAWNkxiudh:bicaKINGkxiudh<klkxiudh<ROOKkxiudh",
    "<BISHOPkxiudh<gzkxiudh<PAWNkxiudh:ircaKINGkxiudh<klkxiudh<ROOKkxiudh<BISHOPkxiudh<gzkxiudh",
    "<PAWNkxiudh:pccagzkxjjgeTHIRTY-FIVEdh:bicagzkxjjgeTHIRTY-FIVEdh:ircagzkxjjgeTHIRTY-FIVEdh",
    ":pccaocKING=kl=ROOK=BISHOP=gz=PAWN:bicaocKING=kl=ROOK=BISHOP=gz=PAWN:ircaocKING=kl=ROOK",
    "=BISHOP=gz=PAWN:pccagzkxohgeTWENTY-FIVEdh:bicagzkxohgeTWENTY-FIVEdh",
    ":ircagzkxohgeTWENTY-FIVEdh:pccaKINGkxohgeljdh<klkxohgeljdh<ROOKkxohgeljdh<BISHOPkxohgeljdh",
    "<gzkxohgeljdh<PAWNkxohgeljdh:bicaKINGkxohgeljdh<klkxohgeljdh<ROOKkxohgeljdh",
    "<BISHOPkxohgeljdh<gzkxohgeljdh<PAWNkxohgeljdh:ircaKINGkxohgeljdh<klkxohgeljdh",
    "<ROOKkxohgeljdh<BISHOPkxohgeljdh<gzkxohgeljdh<PAWNkxohgeljdh:pccagzkxnngeeudh",
    ":bicagzkxnngeeudh:ircagzkxnngeeudh:pccaEQUIHOPPER:bicaEQUIHOPPER:ircaEQUIHOPPER",
    ":pccaEQUIHOPPERkxiudh:bicaEQUIHOPPERkxiudh:ircaEQUIHOPPERkxiudh:pccaKNIGHT-QUEEN=-ROOK",
    "=-BISHOP:bicaKNIGHT-QUEEN=-ROOK=-BISHOP:::::::::::::XIANGQI RED GENERAL<MANDARIN<ELEPHANT",
    "<HORSE<CHARIOT<CANNON<SOLDIER;biGENERAL<MANDARIN<ELEPHANT<HORSE<CHARIOT<CANNON<SOLDIER::",
    ":BALLET SHOES:ONE-PIECE SWIMSUIT:BRIEFS:SHORTS:THONG SANDAL::::DROP OF BLOOD",
    ":ADHESIVE BANDAGE:STETHOSCOPE:X-RAY:CRUTCH::::YO-YO:KITE:PARACHUTE:BOOMERANG:MAGIC WAND",
    ":PINATA:NESTING DOLLS::::::::::RINGED PLANET:CHAIR:RAZOR:AXE:DIYA LAMP:BANJO",
    ":MILITARY HELMET:ACCORDION:htDRUM:COIN:CARPENTRY SAW:SCREWDRIVER:LADDER:gb:MIR",
    "ROR:WINDOW:PLUNGER:SEWING NEEDLE:KNOT:BUCKET:MOUSE TRAP:TOOTHBRUSH:HEADSTONE:PLACARD:ROCK",
    ":MIR",
    "ROR BALL:IDENTIFICATION CARD:huBATTERY:HAMSA::::FLY:WORM:BEETLE:COCKROACH:POTTED PLANT",
    ":WOOD:FEATHER:LOTUS:CORAL:EMPTY NEST:NESTpdEGGS::::::ANATOMICALfv:LUNGS:PEOPLE HUGGING",
    ":PREGNANT MAN;jv:jvpdCROWN:::::::::::BLUEBERRIES:BELL PEPPER:OLIVE:FLATBREAD:TAMALE:FONDUE",
    ":TEAPOT:POURING LIQUID:BEANS:JAR:::::::MELTINGet:SALUTINGet:etpdjkesanftjoik<PEEKING EYE",
    "<dmik:dyhqet:BITING LIP:BUBBLES:::::::::ftpdghFINGERannpcs:kuft:hjft:PALMebft;UPft",
    ":ghkaATniVIEWER:fvHANDS::::::::::bjSEXTANT-1<-2<-12<-3<-13<-23<-123<-4<-14<-24<-124<-34",
    "<-134<-234<-1234<-5<-15<-25<-125<-35<-235<-1235<-45<-145<-245<-1245<-345<-1345<-2345",
    "<-12345<-6<-16<-26<-126<-36<-136<-236<-1236<-46<-146<-1246<-346<-1346<-2346<-12346<-56",
    "<-156<-256<-1256<-356<-1356<-2356<-12356<-456<-1456<-2456<-12456<-3456<-13456<-23456",
    ":hvhgbjdmhvighgTOhvbw@hgTOhvks>omighgTOhvbw@hgTOhvks?hgTOhvbw;ksbjdmomighgTOombw@hgTOomks",
    ">hvighgTOombw@hgTOomks?hgTOombw?ighgTOomigks?bwTOhvigks?hgTOhvigks?bwTOomigks?hgTOomigks",
    "?bwTOomks;hgbjdmombwTOomigks?hgTOomigks?bwTOhvigks?hgTOhvigks?bwTOhvks?ighgTOhvigks",
    ":omksbjdmhvighgTOhvbw@hgTOhvks>omighgTOhvbw@hgTOhvks?hgTOhvbw;hgbjdmomighgTOombw@hgTOomks",
    ">hvighgTOombw@hgTOomks?hgTOombw?ighgTOomigks?bwTOhvigks?hgTOhvigks?bwTOomigks?hgTOomigks",
    "?bwTOomks;ksbjdmombwTOomigks?hgTOomigks?bwTOhvigks?hgTOhvigks?bwTOhvks?ighgTOhvigks",
    ";anksanhvnynnkkbj:hganhvanksnynnkkbj:omanhganhvnynnkkbj:hganomanksnynnkkbj;nyjjkjbj",
    ":omnyjjkjbj:ksnyjjkjbj:hvnyjjkjbj:orjjehBLOCK-2>-3>-4>-5>-6>-7:gcjjehBLOCK-2>-3>-4>-5>-6",
    ">-7:hganhvjjehbj<omjjehbj:ksanomjjehbj<hvjjehbj:omanhvjjehbj:gcjjehBLOCK-1358:omjjkjbj",
    ";nneibj;eyeibj;nnkkbj;lheibj:ksjjkjbj;nneibj;eyeibj;nnkkbj;lheibj:hgfrieSHADE:ksfrieSHADE",
    ":omfrieSHADE:hvfrieSHADE:INVERSEieSHADE:omfrbjanhvfrINVERSEieSHADE<INVERSEieSHADEanhvfrbj:",
    ":hgfrINVERSEieSHADEanksfrbj:CHECKER BOARD FILL:INVERSE CHECKER BOARD FILL:fxgcFILL",
    ":omhgTOhvksFILL;ksTOhvhgFILL;anhvnyfrbj:hganksnyfrbj:omhgnyieSHADE;ksnyieSHADE",
    ":hvksnyieSHADE;hgnyieSHADE:BOX DRAWINGShpdmombwTOighg@TOigks>ighgTOhvbw?ksTOhvbw",
    ">ombwTOighgTOhvbw@TOigksTOhvbw>ighgTOhvbwTOigks@TOombwTOigks>ombwTOighganigksTOhvbw",
    "@TOigksanighgTOhvbw@TOigksTOhvbwTOighg@TOighgTOhvbwTOigks>ighgTOombwTOigksTOhvbw",
    "?ksTOombwTOighgTOhvbw>dp=gcpdormr:ARROWHEAD-SHAPED POINTER:INVERSE CHECKib:hgfrRUNNING MAN",
    ":ksfrRUNNING MAN:INVERSEedawpdTIPhj:hjawanomanhvjjehbj:kuawanomanhvjjehbj:edawanksjjehbj",
    ":ooawanksjjehbj:hgfrFOLDER:ksfrFOLDER:VOIDEDfocr:ksjkmmdv:ipdmcr<igksTOhvbw<dp",
    ":pcfxkzpdROUNDED CORNERS:hgTHIRDpckskagh:igTHIRDpckskagh:ksTHIRDpckskagh:ipmmkmib",
    ":STICK FIGURE<pdARMSko<LEANINGhg=ks<pdDRESS:pcolCHEVRON"]⟩,
  ⟨0x1FBF0, [":SEGMENTEDdspj<jj<oh<nn<fd<ey<lx<lh<ef<it"]⟩,
  ⟨0xE0001, [":LANGUAGE TAG"]⟩,
  ⟨0xE0020, [":TAGmh;eqib;knib;jblu;DOLLARlu;PERCENTlu;am;ar;hgjt;ksjt;ba;jylu;cj;HYPHEN-MINUS",
    ";fgmp;me;dspj<jj<oh<nn<fd<ey<lx<lh<ef<it;ch;lf;hmlu;enlu;fnlu;kmib;COMMERCIAL AT;hebshnA>B",
    ">C>D>E>F>G>H>I>J>K>L>M>N>O>P>Q>R>S>T>U>V>W>X>Y>Z;hgmlbm;kqme;ksmlbm;cead;huhq;fmad;hemchnA",
    ">B>C>D>E>F>G>H>I>J>K>L>M>N>O>P>Q>R>S>T>U>V>W>X>Y>Z;hgcxbm;orhq;kscxbm;nq:CANCEL TAG"]⟩]

end TripleIndex
