set_option autoImplicit false

/-!
Names of characters from U+10000 to U+11FFF (Unicode 14.0). A row starts with the code of its first character; the
names of neighbours follow. A small letter before a name says how many letters are those of the name before it: `a` none,
`b` one, and so on.
-/
namespace RestDispatch.Text

def scriptNames : List String := [
    "10000 aLINEAR B SYLLABLE B008 Au38 Eu28 Iu61 Ou10 Uu01 DAu45 DEu07 DIu14 DOu51 DUv7 JAu46 JE",
    "1000D u36 JOu65 JUu77 KAu44 KEu67 KIu70 KOu81 KUv0 MAu13 MEu73 MIu15 MOu23 MUu06 NAu24 NEu30 NIu52 NOv5 NUu03 PA",
    "1001F u72 PEu39 PIu11 POu50 PUu16 QAu78 QEu21 QIu32 QO",
    "10028 u60 RAu27 REu53 RIu02 ROu26 RUu31 SAu09 SEu41 SIu12 SOu58 SUv9 TAu04 TEu37 TIu05 TOu69 TUu54 WAu75 WE",
    "10039 u40 WIv2 WO",
    "1003C u17 ZAu74 ZE",
    "1003F u20 ZOv5 A2u43 A3u85 AUu71 DWEu90 DWOu48 NWAu29 PU2u62 PTEu76 RA2u33 RA3u68 RO2v6 TA2u87 TWEu91 TWO",
    "10050 lMBOL B018t9s22s34s47t9s56s63t4s79s82t3t6t9",
    "10080 jIDEOGRAM B100 MANv2 WOMANv4 DEERv5 EQUIDwF MAREwM STALLIONv6F EWEwM RAMv7F SHE-GOATwM HE-GOATv8F SOW",
    "1008B wM BOARv9F COWwM BULLu20 WHEATv1 BARLEYv2 OLIVEv3 SPICEv5 CYPERUSjMONOGRAM B127 KAPOv8 KANAKO",
    "10095 jIDEOGRAM B130 OILv1 WINEv2jMONOGRAM B133 AREPAv5 MERIjIDEOGRAM B140 BRONZEv1 GOLDv2v5 WOOLv6u50v1 HORNv2",
    "100A2 v3v4jMONOGRAM B156 TURO2jIDEOGRAM B157v8v9 CLOTHu60v1v2 GARMENTv3 ARMOURv4v5v6v7v8v9u70v1v2v3 MONTHv4",
    "100B7 v6 TREEv7v8v9u80v1v2v3v4v5v9u90v1 HELMETt220 FOOTSTOOLv5 BATHTUBu30 SPEARv1 ARROWv2v3 SWORDv4v6",
    "100CC u40 WHEELED CHARIOTv1 CHARIOTv2 CHARIOT FRAMEv3 WHEELv5v6jMONOGRAM B247 DIPTEjIDEOGRAM B248v9u51v2v3",
    "100D8 v4 DARTv5v6v7v8v9sVESSEL B155zB200zB201zB202zB203zB204zB205zB206zB207zB208zB209zB210zB211zB212zB213zB214",
    "100EE zB215zB216zB217zB218zB219zB221zB222zB226zB227zB228zB229zB250zB305",
    "10100 aAEGEAN WORD SEPARATOR LINEwDOThCHECK MARK",
    "10107 hNUMBER ONEoTWOpHREEoFOURpIVEoSIXpEVENoEIGHToNINEoTENpWENTYpHIRTYoFORTYpIFTYoSIXTYpEVENTYoEIGHTYoNINETY",
    "10119 oONE HUNDREDoTWO HUNDREDpHREE HUNDREDoFOUR HUNDREDpIVE HUNDREDoSIX HUNDREDpEVEN HUNDREDoEIGHT HUNDRED",
    "10121 oNINE HUNDREDoONE THOUSANDoTWO THOUSANDpHREE THOUSANDoFOUR THOUSANDpIVE THOUSANDoSIX THOUSAND",
    "10128 pEVEN THOUSANDoEIGHT THOUSANDoNINE THOUSANDoTEN THOUSANDpWENTY THOUSANDpHIRTY THOUSANDoFORTY THOUSAND",
    "1012F pIFTY THOUSANDoSIXTY THOUSANDpEVENTY THOUSANDoEIGHTY THOUSANDoNINETY THOUSAND",
    "10137 hWEIGHT BASE UNIToFIRST SUBUNIToSECOND SUBUNIToTHIRD SUBUNIToFOURTH SUBUNIThDRY MEASURE FIRST SUBUNIT",
    "1013D hLIQUID MEASURE FIRST SUBUNIThMEASURE SECOND SUBUNITpTHIRD SUBUNITaGREEK ACROPHONIC ATTIC ONE QUARTER",
    "10141 zE HALFzE DRACHMAxFIVEzFTYzVE HUNDREDzVE THOUSANDzFTY THOUSANDzVE TALENTSxTEN TALENTSxFIFTY TALENTS",
    "1014B xONE HUNDRED TALENTSxFIVE HUNDRED TALENTSxONE THOUSAND TALENTSxFIVE THOUSAND TALENTSzVE STATERS",
    "10150 xTEN STATERSxFIFTY STATERSxONE HUNDRED STATERSxFIVE HUNDRED STATERSxONE THOUSAND STATERS",
    "10155 xTEN THOUSAND STATERSxFIFTY THOUSAND STATERSxTEN MNASrHERAEUM ONE PLETHRONrTHESPIAN ONErHERMIONIAN ONE",
    "1015B rEPIDAUREAN TWOrTHESPIAN TWOrCYRENAIC TWO DRACHMASrEPIDAUREAN TWO DRACHMASrTROEZENIAN FIVEzAN TEN",
    "10161 zAN TEN ALTERNATE FORMrHERMIONIAN TENrMESSENIAN TENrTHESPIAN TENz THIRTYsROEZENIAN FIFTY",
    "10167 zAN FIFTY ALTERNATE FORMrHERMIONIAN FIFTYrTHESPIAN FIFTYz ONE HUNDREDz THREE HUNDRED",
    "1016C rEPIDAUREAN FIVE HUNDREDrTROEZENIAN FIVE HUNDREDsHESPIAN FIVE HUNDREDrCARYSTIAN FIVE HUNDRED",
    "10170 rNAXIAN FIVE HUNDREDrTHESPIAN ONE THOUSANDz FIVE THOUSANDrDELPHIC FIVE MNASrSTRATIAN FIFTY MNAS",
    "10175 gONE HALF SIGNt ALTERNATE FORMgTWO THIRDS SIGNhHREE QUARTERS SIGNgYEAR SIGNgTALENT SIGNgDRACHMA SIGN",
    "1017C gOBOL SIGNgTWO OBOLS SIGNhHREE OBOLS SIGNgFOUR OBOLS SIGNhIVE OBOLS SIGNgMETRETES SIGNgKYATHOS BASE SIGN",
    "10183 gLITRA SIGNgOUNKIA SIGNgXESTES SIGNgARTABE SIGNiOURA SIGNgGRAMMA SIGNgTRYBLION BASE SIGNgZERO SIGN",
    "1018B gONE QUARTER SIGNgSINUSOID SIGNgINDICTION SIGNaNOMISMA SIGN",
    "10190 aROMAN SEXTANS SIGNgUNCIA SIGNgSEMUNCIA SIGNiXTULA SIGNgDIMIDIA SEXTULA SIGNgSILIQUA SIGNgDENARIUS SIGN",
    "10197 gQUINARIUS SIGNgSESTERTIUS SIGNgDUPONDIUS SIGNgAS SIGNgCENTURIAL SIGNaASCIA SYMBOL",
    "101A0 aGREEK SYMBOL TAU RHO",
    "101D0 aPHAISTOS DISC SIGN PEDESTRIANuLUMED HEADtTATTOOED HEADtCAPTIVEuHILDtWOMANtHELMETtGAUNTLETtTIARAtARROWtBOW",
    "101DB tSHIELDtCLUBtMANACLESvTTOCKtSAWtLIDtBOOMERANGtCARPENTRY PLANEtDOLIUMtCOMBtSLINGtCOLUMNtBEEHIVEtSHIPtHORN",
    "101EA uIDEtBULLS LEGtCATtRAMtEAGLEtDOVEtTUNNYtBEEtPLANE TREEtVINEtPAPYRUStROSETTEtLILYtOX BACKtFLUTEtGRATER",
    "101FA tSTRAINERuMALL AXEtWAVY BANDtCOMBINING OBLIQUE STROKE",
    "10280 aLYCIAN LETTER AoEoBpHoGoDoIoWoZoTHoJoKoQoLoMoNoMMoNNoUoPoKKoRoSoTpToANoENoHoX",
    "102A0 aCARIAN LETTER AoP2oDoLoUUUoRoLDoA2oQoBoMoOoD2oToSHq2poC-18oUoNNoXoNoTT2oPoSSoIoEoUUUUoKp2oNDoUUoGp2oSTq2",
    "102C4 oNGoIIoC-39oTToUUU2oRRoMBq2q3q4oLD2oE2oUUU3",
    "102E0 bOPTIC EPACT THOUSANDS MARKnDIGIT ONEtTWOuHREEtFOURuIVEtSIXuEVENtEIGHTtNINEnNUMBER TENvWENTYvHIRTYuFORTY",
    "102EE vIFTYuSIXTYvEVENTYuEIGHTYuNINETYuONE HUNDREDuTWO HUNDREDvHREE HUNDREDuFOUR HUNDREDvIVE HUNDREDuSIX HUNDRED",
    "102F9 vEVEN HUNDREDuEIGHT HUNDREDuNINE HUNDRED",
    "10300 aOLD ITALIC LETTER AsBEsKEsDEsEsVEsZEsHEsTHEsIsKAsELtMtNtSHsOsPEsSHEsKUsERtSsTEsUsEKSsPHEsKHEsEFtRSsCHEsII",
    "1031E sUUsESSlNUMERAL ONEtFIVEtTENtFIFTY",
    "1032D lLETTER YEsNORTHERN TSEsSOUTHERN TSEaGOTHIC LETTER AHSAoBAIRKANoGIBAoDAGSoAIHVUSoQAIRTHRAoIUJAoHAGLoTHIUTH",
    "10339 oEISoKUSMAoLAGUSoMANNAoNAUTHSoJERoURUSoPAIRTHRAoNINETYoRAIDAoSAUILoTEIWSoWINJAoFAIHUoIGGWSoHWAIRoOTHAL",
    "1034A oNINE HUNDRED",
    "10350 aOLD PERMIC LETTER ANsBURsGAIsDOIsEsZHOIsDZHOIsZATAsDZITAsIsKOKEsLEIsMENOEsNENOEsVOOIsPEEIsREIsSIIsTAIsU",
    "10364 sCHERYsSHOOIuCHOOIsYRYtERUsOtOsEFsHAsTSIUsVERsYERvItATsIEsYUtAsIAaCOMBINING OLD PERMIC LETTER ANzER DOI",
    "10378 zER ZATAzER NENOEzER SII",
    "10380 aUGARITIC LETTER ALPAqBETAqGAMLAqKHAqDELTAqHOqWOqZETAqHOTAqTETqYODqKAFqSHINqLAMDAqMEMqDHALqNUNqZUqSAMKA",
    "10393 qAINqPUqSADEqQOPAqRASHAqTHANNAqGHAINqTOqIqUqSSU",
    "1039F jWORD DIVIDERaOLD PERSIAN SIGN ArIrUrKAsUrGAsUrXArCArJAsIrTAsUrDAsIsUrTHArPArBArFArNAsUrMAsIsUrYArVAsIrRA",
    "103BD sUrLArSArZArSHAsSArHA",
    "103C8 rAURAMAZDAAzAA-2zAAHArXSHAAYATHIYArDAHYAAUSHzH-2rBAGAsUUMISHmWORD DIVIDERmNUMBER ONEtTWOuENuWENTYtHUNDRED",
    "10400 aDESERET CAPITAL LETTER LONG IzNG EzNG AzNG AHzNG OzNG OOxSHORT IzORT EzORT AzORT AHzORT OzORT OOxAYxOWxWU",
    "1040F xYEExHxPEExBEExTEExDEExCHEExJEExKAYxGAYxEFxVEExETHxTHEExESxZEExESHxZHEExERyLyMyNzGxOIxEW",
    "10428 iSMALL LETTER LONG Iz Ez Az AHz Oz OOvSHORT IzT EzT AzT AHzT OzT OOvAYvOWvWUvYEEvHvPEEvBEEvTEEvDEEvCHEE",
    "1043E vJEEvKAYvGAYvEFvVEEvETHvTHEEvESvZEEvESHvZHEEvERwLwMwNxGvOIvEWaSHAVIAN LETTER PEEPpTOTpKICKpFEEpTHIGHpSO",
    "10456 qUREpCHURCHpYEApHUNGpBIBpDEADpGAGpVOWpTHEYpZOOpMEASUREpJUDGEpWOEpHA-HApLOLLpMIMEpIFpEGGpASHqDOpONpWOOLpOUT",
    "1046D pAHpROARpNUNpEATpAGEpICEpUPpOAKqOZEqILpAWEqREpORpAIRpERRpARRAYpEARpIANpYEWaOSMANYA LETTER ALEFpBApTApJApXA",
    "10485 pKHApDEELpRApSAqHIINpDHApCAYNpGApFApQAAFpKAAFpLAANpMIINpNUUNpWAWpHApYApApEpIpOpUpAApEEpOO",
    "104A0 iDIGIT ZEROoONEoTWOpHREEoFOURpIVEoSIXpEVENoEIGHToNINE",
    "104B0 cAGE CAPITAL LETTER AwIxNwHvBRAvCHAvEHCHAwwINvHAwYAvIvKAvEHKAvKYAvLAvMAvNAvOwINvPAvEHPAvSAwHAvTAvEHTAvTSA",
    "104CB vEHTSAvTSHAvDHAvUvWAvKHAvGHAvZAwHA",
    "104D8 gSMALL LETTER AuIvNuHtBRAtCHAtEHCHAuuINtHAuYAtItKAtEHKAtKYAtLAtMAtNAtOuINtPAtEHPAtSAuHAtTAtEHTAtTSAtEHTSA",
    "104F4 tTSHAtDHAtUtWAtKHAtGHAtZAuHA",
    "10500 aELBASAN LETTER ApBEpCEqHEpDEpNDEpDHEpEIqpFEpGEqJEpHEpIpJEpKEpLEqLEpMEpNEqAqJEpOpPEpQEpREqREpSEqHEpTEqHEpU",
    "10520 pVEpXEpYpZEqHEpGHErAMMApKHE",
    "10530 aCAUCASIAN ALBANIAN LETTER ALTz BETz GIMz DATz EBz ZARLz EYNz ZHILz TASz CHAz YOWDz ZHAz IRBz SHAz LAN",
    "1053F z INYAz XEYNz DYANz CARz JHOXz KARz LYITz HEYTz QAYz AORz CHOYz CHIz CYAYz MAQz QARz NOWCz DZYAYz SHAK",
    "10551 z JAYNz ONz TYAYz FAMz DZAYz CHATz PENz GHEYSz RATz SEYKz VEYZz TIWRz SHOYz IWNz CYAWz CAYNz YAYDz PIWR",
    "10563 z KIW",
    "1056F tCITATION MARKaVITHKUQI CAPITAL LETTER AyBBEzEyCEzHEyDEzHEyEIzyFEyGA",
    "1057C yHAzHAyIzJEyJEyKAyLAzLAyMEyNEzJEyOyPEyQAyRE",
    "1058C ySEzHEyTEzHEyUyVEyXE",
    "10594 yYyZE",
    "10597 jSMALL LETTER AwBBExEwCExHEwDExHEwEIxwFEwGA",
    "105A3 wHAxHAwIxJEwJEwKAwLAxLAwMEwNExJEwOwPEwQAwRE",
    "105B3 wSExHEwTExHEwUwVEwXE",
    "105BB wYwZE",
    "10600 aLINEAR A SIGN AB001s2s3s4s5s6s7s8s9r10s1s3s6s7r20s1tFtMs2tFtMs3tMs4s6s7s8p028BpB029r30s1s4s7s8s9r40s1s4s5",
    "10627 s6s7s8s9r50s1s3s4s5s6s7s8s9r60s1s5s6s7s9r70s3s4s6s7s8s9r80s1s2s5s6s7p100-102pB118r20p120BpB122s3r31AtB",
    "1064F p131CpB164r71r80s8r91p301r2r3r4r5r6r7r8r9AsBsCq10r1r2r3AsBsCr4r5r6r7r8r9q20r1r2r3r4r5r6r7r8r9q30r1r2r3r4r5",
    "1067C r6r7r8r9q40r1r2r3r4r5r6r7r8r9q50r1r2r3r4r5r6r7r8r9q60r1r2r3r4r5r6r7r8r9q70r1p400-VASr1-VASr2-VASr3-VAS",
    "106A4 r4-VASr5-VASr6-VASr7-VASr8-VASr9-VASq10-VASr1-VASr2-VASr3-VASr4-VASr5-VASr6-VASr7-VASr8-VASp501r2r3r4r5r6",
    "106B9 r8r9q10r1r2r3r5r6q20r1r3r4r5r6r7r8r9q30r1r2r4r5r6r7r8r9q40r1r2r5r7r8r9q50r1r2r3r4r5r6r7r9q63r4r5r6r8r9q70",
    "106EA r1r2r3r4r5r6r7r8r9q80r1r2r3r4r5r6r7r8r9q91r2r4r5r6r8p600r1r2r3r4r6r8r9q10r1r2r3r4r5r6r7r8r9q20r1r2r3r4r6r7",
    "1071C r8r9q34r7r8q40r2r3r4r5r6r8r9q51r2r3r4r5r6r7r8r9q60r1r2r3r4",
    "10740 p701 Ar2 Br3 Dr4 Er5 Fr6 Hr7 Jr8 Kr9 Ls-2 L2t3 L3t4 L4t6 L6q10 Wr1 Xr2 Yr3 OMEGAr4 ABBr5 BBr7 DDq26 EYYY",
    "10755 q32 JE",
    "10760 p800r1r2r3r4r5r6r7",
    "10780 aMODIFIER LETTER SMALL CAPITAL AArUPERSCRIPT TRIANGULAR COLONzPT HALF TRIANGULAR COLONrMALL AEwCAPITAL B",
    "10785 wB WITH HOOK",
    "10787 wDZ DIGRAPHzDIGRAPH WITH RETROFLEX HOOKzDIGRAPH WITH CURLxEZH DIGRAPHx WITH TAILzITH HOOK",
    "1078D zITH HOOK AND TAILwREVERSED EwCLOSED REVERSED OPEN EwFENG DIGRAPHwRAMS HORNwCAPITAL GwG WITH HOOK",
    "10794 wCAPITAL G WITH HOOKwH WITH STROKEwCAPITAL HwHENG WITH HOOKwDOTLESS J WITH STROKE AND HOOKwLS DIGRAPH",
    "1079A xZ DIGRAPHx WITH BELTwCAPITAL L WITH BELTwL WITH RETROFLEX HOOK AND BELTxEZHzH WITH RETROFLEX HOOK",
    "107A0 wTURNED YzNED Y WITH BELTwO WITH STROKEwCAPITAL OExLOSED OMEGAwQwTURNED R WITH LONG LEG",
    "107A7 zNED R WITH LONG LEG AND RETROFLEX HOOKwR WITH TAILzITH FISHHOOKwCAPITAL RwTC DIGRAPH WITH CURLxS DIGRAPH",
    "107AD zDIGRAPH WITH RETROFLEX HOOKxESH DIGRAPHx WITH RETROFLEX HOOKwV WITH RIGHT HOOK",
    "107B2 wCAPITAL YqGLOTTAL STOP WITH STROKEqREVERSED GLOTTAL STOP WITH STROKEqBILABIAL CLICKqDENTAL CLICK",
    "107B7 qLATERAL CLICKqALVEOLAR CLICKqRETROFLEX CLICK WITH RETROFLEX HOOKqSMALL S WITH CURL",
    "10800 aCYPRIOT SYLLABLE ArErIrOrUrJA",
    "10808 sO",
    "1080A rKAsEsIsOsUrLAsEsIsOsUrMAsEsIsOsUrNAsEsIsOsUrPAsEsIsOsUrRAsEsIsOsUrSAsEsIsOsUrTAsEsIsOsUrWAsEsIsO",
    "10837 rXAsE",
    "1083C rZA",
    "1083F sOaIMPERIAL ARAMAIC LETTER ALEPHyBETHyGIMELyDALETHyHEyWAWyZAYINyHETHyTETHyYODHyKAPHyLAMEDHyMEMyNUNySAMEKH",
    "1084F yAYINyPEySADHEyQOPHyRESHySHINyTAW",
    "10857 rSECTION SIGNrNUMBER ONEyTWOzHREEzENzWENTYyONE HUNDREDzNE THOUSANDyTEN THOUSANDaPALMYRENE LETTER ALEPH",
    "10861 rBETHrGIMELrDALETHrHErWAWrZAYINrHETHrTETHrYODHrKAPHrLAMEDHrMEMrFINAL NUNrNUNrSAMEKHrAYINrPErSADHErQOPH",
    "10874 rRESHrSHINrTAWmFT-POINTING FLEURONkRIGHT-POINTING FLEURONkNUMBER ONErTWOsHREErFOURsIVErTENsWENTY",
    "10880 aNABATAEAN LETTER FINAL ALEPHrALEPHrFINAL BETHrBETHrGIMELrDALETHrFINAL HErHErWAWrZAYINrHETHrTETH",
    "1088C rFINAL YODHrYODHrFINAL KAPHrKAPHrFINAL LAMEDHrLAMEDHrFINAL MEMrMEMrFINAL NUNrNUNrSAMEKHrAYINrPErSADHErQOPH",
    "1089B rRESHrFINAL SHINrSHINrTAW",
    "108A7 kNUMBER ONErTWOsHREErFOURkCRUCIFORM NUMBER FOURkNUMBER FIVErTENsWENTYrONE HUNDRED",
    "108E0 aHATRAN LETTER ALEPHoBETHoGIMELoDALETH-RESHoHEoWAWoZAYNoHETHoTETHoYODHoKAPHoLAMEDHoMEMoNUNoSAMEKHoAYNoPE",
    "108F1 oSADHEoQOPH",
    "108F4 oSHINoTAW",
    "108FB hNUMBER ONEoFIVEoTENpWENTYoONE HUNDREDaPHOENICIAN LETTER ALFsBETsGAMLsDELTsHEsWAUsZAIsHETsTETsYODsKAFsLAMD",
    "1090C sMEMsNUNsSEMKsAINsPEsSADEsQOFsROSHsSHINsTAUlNUMBER ONEsTENtWENTYsONE HUNDREDsTWOtHREE",
    "1091F lWORD SEPARATORaLYDIAN LETTER AoBoGoDoEoVoIoYoKoLoMoNoOoRoSSoToUoFoQoSoTToANoENoLYoNNoC",
    "1093F hTRIANGULAR MARK",
    "10980 aMEROITIC HIEROGLYPHIC LETTER AzTER EzTER IzTER OzTER YAzTER WAzTER BAzTER BA-2zTER PAzTER MAzTER NA",
    "1098B zTER NA-2zTER NEzTER NE-2zTER RAzTER RA-2zTER LAzTER KHAzTER HHAzTER SAzTER SA-2zTER SEzTER KAzTER QA",
    "10998 zTER TAzTER TA-2zTER TEzTER TE-2zTER TOzTER DAwSYMBOL VIDJzBOL VIDJ-2jCURSIVE LETTER AyEyIyOyYAyWAyBAyPA",
    "109A8 yMAyNAzEyRAyLAyKHAyHHAySAyARCHAIC SAySEyKAyQAyTAzEzOyDA",
    "109BC rFRACTION ELEVEN TWELFTHSz ONE HALFrLOGOGRAM RMTz IMNrNUMBER ONEyTWOzHREEyFOURzIVEySIXzEVENyEIGHTyNINEyTEN",
    "109CA zWENTYzHIRTYyFORTYzIFTYySIXTYzEVENTY",
    "109D2 yONE HUNDREDyTWO HUNDREDzHREE HUNDREDyFOUR HUNDREDzIVE HUNDREDySIX HUNDREDzEVEN HUNDREDyEIGHT HUNDRED",
    "109DA yNINE HUNDREDyONE THOUSANDyTWO THOUSANDzHREE THOUSANDyFOUR THOUSANDzIVE THOUSANDySIX THOUSAND",
    "109E1 zEVEN THOUSANDyEIGHT THOUSANDyNINE THOUSANDyTEN THOUSANDzWENTY THOUSANDzHIRTY THOUSANDyFORTY THOUSAND",
    "109E8 zIFTY THOUSANDySIXTY THOUSANDzEVENTY THOUSANDyEIGHTY THOUSANDyNINETY THOUSANDyONE HUNDRED THOUSAND",
    "109EE yTWO HUNDRED THOUSANDzHREE HUNDRED THOUSANDyFOUR HUNDRED THOUSANDzIVE HUNDRED THOUSAND",
    "109F2 ySIX HUNDRED THOUSANDzEVEN HUNDRED THOUSANDyEIGHT HUNDRED THOUSANDyNINE HUNDRED THOUSAND",
    "109F6 rFRACTION ONE TWELFTHz TWO TWELFTHSz THREE TWELFTHSz FOUR TWELFTHSz FIVE TWELFTHSz SIX TWELFTHS",
    "109FC z SEVEN TWELFTHSz EIGHT TWELFTHSz NINE TWELFTHSz TEN TWELFTHSaKHAROSHTHI LETTER AlVOWEL SIGN IwUwVOCALIC R",
    "10A05 wEwO",
    "10A0C rLENGTH MARKlSIGN DOUBLE RING BELOWqANUSVARAqVISARGAlLETTER KAtHAsGAtHA",
    "10A15 sCAtHAsJA",
    "10A19 sNYAsTTAuHAsDDAuHAsNNAsTAtHAsDAtHAsNAsPAtHAsBAtHAsMAsYAsRAsLAsVAsSHAtSAtAsZAsHAsKKAsTTTHAvAsVHA",
    "10A38 lSIGN BAR ABOVEqCAUDAqDOT BELOW",
    "10A3F lVIRAMAlDIGIT ONErTWOsHREErFOURlNUMBER TENtWENTYsONE HUNDREDwTHOUSANDlFRACTION ONE HALF",
    "10A50 lPUNCTUATION DOTxSMALL CIRCLExCIRCLEyRESCENT BARxMANGALAMxLOTUSxDANDAyOUBLE DANDAxLINES",
    "10A60 aOLD SOUTH ARABIAN LETTER HEzLAMEDHzHETHzMEMzQOPHzWAWzSHINzRESHzBETHzTAWzSATzKAPHzNUNzKHETHzSADHEzSAMEKH",
    "10A70 zFEzALEFzAYNzDHADHEzGIMELzDALETHzGHAYNzTETHzZAYNzDHALETHzYODHzTHAWzTHETHsNUMBER ONEzFIFTYvERIC INDICATOR",
    "10A80 eNORTH ARABIAN LETTER HEHzLAMzHAHzMEEMzQAFzWAWzES-2zREHzBEHzTEHzES-1zKAFzNOONzKHAHzSADzES-3zFEHzALEFzAIN",
    "10A93 zDADzGEEMzDALzGHAINzTAHzZAINzTHALzYEHzTHEHzZAHsNUMBER ONEzTENzTWENTY",
    "10AC0 aMANICHAEAN LETTER ALEPHsBETHtHETHsGIMELtHIMELsDALETHsHEsWAWlSIGN UDlLETTER ZAYINtHAYINsJAYINtHAYINsHETH",
    "10ACE sTETHsYODHsKAPHsXAPHsKHAPHsLAMEDHsDHAMEDHsTHAMEDHsMEMsNUNsSAMEKHsAYINtAYINsPEsFEsSADHEsQOPHsXOPHsQHOPH",
    "10AE1 sRESHsSHINtSHINsTAWlABBREVIATION MARK ABOVEzARK BELOW",
    "10AEB lNUMBER ONEsFIVEsTENtWENTYsONE HUNDREDlPUNCTUATION STARxFLEURONxDOUBLE DOT WITHIN DOTzT WITHIN DOTzT",
    "10AF5 xTWO DOTSxLINE FILLER",
    "10B00 aAVESTAN LETTER AqAqOqAOqNqANqErEpEqEpOqOpIqIpUqUpKEpXEqYEqVEpGEqGEqHEpCEpJEpTEqHEpDEqHEpTTEpPEpFEpBEqHE",
    "10B22 pNGErYErVEqEqYEqNEpMEpHMEpYYEqEpVEpREpLEpSEpZEpSHEpZHEpSHYEqSHEpHE",
    "10B39 iABBREVIATION MARKaTINY TWO DOTS OVER ONE DOT PUNCTUATIONaSMALL TWO DOTS OVER ONE DOT PUNCTUATION",
    "10B3C aLARGE TWO DOTS OVER ONE DOT PUNCTUATIONgONE DOT OVER TWO DOTS PUNCTUATION",
    "10B3E gTWO RINGS OVER ONE RING PUNCTUATIONgONE RING OVER TWO RINGS PUNCTUATION",
    "10B40 aINSCRIPTIONAL PARTHIAN LETTER ALEPHzTTER BETHzTTER GIMELzTTER DALETHzTTER HEzTTER WAWzTTER ZAYIN",
    "10B47 zTTER HETHzTTER TETHzTTER YODHzTTER KAPHzTTER LAMEDHzTTER MEMzTTER NUNzTTER SAMEKHzTTER AYINzTTER PE",
    "10B51 zTTER SADHEzTTER QOPHzTTER RESHzTTER SHINzTTER TAW",
    "10B58 xNUMBER ONEzMBER TWOzMBER THREEzMBER FOURzMBER TENzMBER TWENTYzMBER ONE HUNDREDzMBER ONE THOUSAND",
    "10B60 qHLAVI LETTER ALEPHzTER BETHzTER GIMELzTER DALETHzTER HEzTER WAW-AYIN-RESHzTER ZAYINzTER HETHzTER TETH",
    "10B69 zTER YODHzTER KAPHzTER LAMEDHzTER MEM-QOPHzTER NUNzTER SAMEKHzTER PEzTER SADHEzTER SHINzTER TAW",
    "10B78 wNUMBER ONEzBER TWOzBER THREEzBER FOURzBER TENzBER TWENTYzBER ONE HUNDREDzBER ONE THOUSAND",
    "10B80 aPSALTER PAHLAVI LETTER ALEPHxBETHxGIMELxDALETHxHExWAW-AYIN-RESHxZAYINxHETHxYODHxKAPHxLAMEDHxMEM-QOPHxNUN",
    "10B8D xSAMEKHxPExSADHEyHINxTAW",
    "10B99 qSECTION MARKqTURNED SECTION MARKqFOUR DOTS WITH CROSSz WITH DOT",
    "10BA9 qNUMBER ONExTWOyHREExFOURxTENyWENTYxONE HUNDRED",
    "10C00 aOLD TURKIC LETTER ORKHON AsYENISEI Az AEsORKHON IsYENISEI Iz EsORKHON OzOEsYENISEI OEsORKHON AB",
    "10C0A sYENISEI ABsORKHON AEBsYENISEI AEBsORKHON AGsYENISEI AGsORKHON AEGsYENISEI AEGsORKHON ADsYENISEI AD",
    "10C13 sORKHON AEDzEZsYENISEI EZsORKHON AYsYENISEI AYsORKHON AEYsYENISEI AEYsORKHON AEKsYENISEI AEKsORKHON OEK",
    "10C1D sYENISEI OEKsORKHON ALsYENISEI ALsORKHON AELzELTzEMzANzAENsYENISEI AENsORKHON ENTsYENISEI ENTsORKHON ENC",
    "10C29 sYENISEI ENCsORKHON ENYsYENISEI ENYz ANGsORKHON ENGsYENISEI AENGsORKHON EPzOPzICzECsYENISEI ECsORKHON AQ",
    "10C35 sYENISEI AQsORKHON IQsYENISEI IQsORKHON OQsYENISEI OQsORKHON ARsYENISEI ARsORKHON AERzASzAESzASH",
    "10C40 sYENISEI ASHsORKHON ESHsYENISEI ESHsORKHON ATsYENISEI ATsORKHON AETsYENISEI AETsORKHON OTzBASH",
    "10C80 eHUNGARIAN CAPITAL LETTER AzTER AAzTER EBzTER AMBzTER ECzTER ENCzTER ECSzTER EDzTER ANDzTER EzTER CLOSE E",
    "10C8B zTER EEzTER EFzTER EGzTER EGYzTER EHzTER IzTER IIzTER EJzTER EKzTER AKzTER UNKzTER ELzTER ELYzTER EM",
    "10C99 zTER ENzTER ENYzTER OzTER OOzTER NIKOLSBURG OEzTER RUDIMENTA OEzTER OEEzTER EPzTER EMPzTER ERzTER SHORT ER",
    "10CA4 zTER ESzTER ESZzTER ETzTER ENTzTER ETYzTER ECHzTER UzTER UUzTER NIKOLSBURG UEzTER RUDIMENTA UEzTER EV",
    "10CAF zTER EZzTER EZSzTER ENT-SHAPED SIGNzTER US",
    "10CC0 oSMALL LETTER AzR AAzR EBzR AMBzR ECzR ENCzR ECSzR EDzR ANDzR EzR CLOSE EzR EEzR EFzR EGzR EGYzR EHzR I",
    "10CD1 zR IIzR EJzR EKzR AKzR UNKzR ELzR ELYzR EMzR ENzR ENYzR OzR OOzR NIKOLSBURG OEzR RUDIMENTA OEzR OEEzR EP",
    "10CE1 zR EMPzR ERzR SHORT ERzR ESzR ESZzR ETzR ENTzR ETYzR ECHzR UzR UUzR NIKOLSBURG UEzR RUDIMENTA UEzR EVzR EZ",
    "10CF0 zR EZSzR ENT-SHAPED SIGNzR US",
    "10CFA oNUMBER ONEvFIVEvTENvFIFTYvONE HUNDREDzTHOUSANDaHANIFI ROHINGYA LETTER AxBAxPAxTAyTAxJAxCAxHAxKHAxFAxDAyDA",
    "10D0C xRAyRAxZAxSAyHAxKAxGAxLAxMAxNAxWAxKINNA WAxYAxKINNA YAxNGAyYAxVAqVOWEL AwIwUwEwOqMARK SAKINvNA KHONNA",
    "10D24 qSIGN HARBAHAYvTAHALAxNAxSSI",
    "10D30 qDIGIT ZEROwONEwTWOxHREEwFOURxIVEwSIXxEVENwEIGHTwNINE",
    "10E60 aRUMI DIGIT ONElTWOmHREElFOURmIVElSIXmEVENlEIGHTlNINEfNUMBER TENnWENTYnHIRTYmFORTYnIFTYmSIXTYnEVENTY",
    "10E70 mEIGHTYmNINETYmONE HUNDREDmTWO HUNDREDnHREE HUNDREDmFOUR HUNDREDnIVE HUNDREDmSIX HUNDREDnEVEN HUNDRED",
    "10E79 mEIGHT HUNDREDmNINE HUNDREDfFRACTION ONE HALFsQUARTERsTHIRDoTWO THIRDS",
    "10E80 aYEZIDI LETTER ELIFoBEoPEpHEoTHEoSEoCIMpHIMqHIMoHHAoXAoDALoZALoRApHAoZAoJAoSINpHINpADoDADoTAoZEoEYNoXHEYN",
    "10E99 oFAoVAq ALTERNATE FORMoQAFoKAFpHAFoGAFoLAMoMIMoNUNoUMoWAWoOWoEWoHAYoYOToET",
    "10EAB hCOMBINING HAMZA MARKrMADDA MARKhHYPHENATION MARK",
    "10EB0 hLETTER LAM WITH DOT ABOVEoYOT WITH CIRCUMFLEX ABOVE",
    "10F00 aOLD SOGDIAN LETTER ALEPHtFINAL ALEPHtBETHtFINAL BETHtGIMELtHEtFINAL HEtWAWtZAYINtHETHtYODHtKAPHtLAMEDH",
    "10F0D tMEMtNUNtFINAL NUNzNUN WITH VERTICAL TAILtSAMEKHtAYINuLTERNATE AYINtPEtSADHEtFINAL SADHE",
    "10F17 zSADHE WITH VERTICAL TAILtRESH-AYIN-DALETHtSHINtTAWtFINAL TAWzTAW WITH VERTICAL TAILmNUMBER ONEtTWOuHREE",
    "10F20 tFOURuIVEtTENuWENTYuHIRTYtONE HUNDREDmFRACTION ONE HALFmLIGATURE AYIN-DALETH",
    "10F30 aSOGDIAN LETTER ALEPHpBETHpGIMELpHEpWAWpZAYINpHETHpYODHpKAPHpLAMEDHpMEMpNUNpSAMEKHpAYINpPEpSADHEpRESH-AYIN",
    "10F41 pSHINpTAWpFETHpLESHiINDEPENDENT SHINiCOMBINING DOT BELOWsTWO DOTS BELOWsDOT ABOVEsTWO DOTS ABOVE",
    "10F4A sCURVE ABOVEyBELOWsHOOK ABOVExBELOWsLONG HOOK BELOWsRESH BELOWsSTROKE BELOWiNUMBER ONEpTENqWENTY",
    "10F54 pONE HUNDREDiPUNCTUATION TWO VERTICAL BARSzERTICAL BARS WITH DOTSuCIRCLE WITH DOTuTWO CIRCLES WITH DOTS",
    "10F59 uHALF CIRCLE WITH DOT",
    "10F70 aOLD UYGHUR LETTER ALEPHsBETHsGIMEL-HETHsWAWsZAYINsFINAL HETHsYODHsKAPHsLAMEDHsMEMsNUNsSAMEKHsPEsSADHE",
    "10F7E sRESHsSHINsTAWsLESHlCOMBINING DOT ABOVEzBELOWvTWO DOTS ABOVEzDOTS BELOWlPUNCTUATION BARxTWO BARSzO DOTS",
    "10F89 xFOUR DOTS",
    "10FB0 aCHORASMIAN LETTER ALEPHsSMALL ALEPHsBETHsGIMELsDALETHsHEsWAWsCURLED WAWsZAYINsHETHsYODHsKAPHsLAMEDHsMEM",
    "10FBE sNUNsSAMEKHsAYINsPEsRESHsSHINsTAWlNUMBER ONEsTWOtHREEsFOURsTENtWENTYsONE HUNDRED",
    "10FE0 aELYMAIC LETTER ALEPHpBETHpGIMELpDALETHpHEpWAWpZAYINpHETHpTETHpYODHpKAPHpLAMEDHpMEMpNUNpSAMEKHpAYINpPE",
    "10FF1 pSADHEpQOPHpRESHpSHINpTAWjIGATURE ZAYIN-YODH",
    "11000 aBRAHMI SIGN CANDRABINDUmANUSVARAmVISARGAmJIHVAMULIYAmUPADHMANIYAhLETTER ApAoIpIoUpUoVOCALIC RxRwLxLoEoAI",
    "11011 oOoAUoKApHAoGApHAoNGAoCApHAoJApHAoNYAoTTAqHAoDDAqHAoNNAoTApHAoDApHAoNAoPApHAoBApHAoMAoYAoRAoLAoVAoSHApSApA",
    "11033 oHAoLLAoOLD TAMIL LLLAyRRAyNNNAhVOWEL SIGN AAsBHATTIPROLU AAsItIsUtUsVOCALIC Rz RRz Lz LLsEsAIsOsAUiIRAMA",
    "11047 hDANDAiOUBLE DANDAhPUNCTUATION DOTvUBLE DOTtLINEtCRESCENT BARtLOTUS",
    "11052 hNUMBER ONEoTWOpHREEoFOURpIVEoSIXpEVENoEIGHToNINEoTENpWENTYpHIRTYoFORTYpIFTYoSIXTYpEVENTYoEIGHTYoNINETY",
    "11064 oONE HUNDREDsTHOUSANDhDIGIT ZEROnONEnTWOoHREEnFOURoIVEnSIXoEVENnEIGHTnNINEhSIGN OLD TAMIL VIRAMA",
    "11071 hLETTER OLD TAMIL SHORT EzHORT OhVOWEL SIGN OLD TAMIL SHORT EzIL SHORT OhLETTER OLD TAMIL LLA",
    "1107F hNUMBER JOINERaKAITHI SIGN CANDRABINDUmANUSVARAmVISARGAhLETTER ApAoIpIoUpUoEoAIoOoAUoKApHAoGApHAoNGAoCApHA",
    "11094 oJApHAoNYAoTTAqHAoDDAqDHAqHAoRHAoNNAoTApHAoDApHAoNAoPApHAoBApHAoMAoYAoRAoLAoVAoSHApSApAoHAhVOWEL SIGN AAsI",
    "110B2 tIsUtUsEsAIsOsAUhSIGN VIRAMAmNUKTAhABBREVIATION SIGNhENUMERATION SIGNhNUMBER SIGNhSECTION MARK",
    "110BF hDOUBLE SECTION MARKiANDAiOUBLE DANDAhVOWEL SIGN VOCALIC R",
    "110CD hNUMBER SIGN ABOVE",
    "110D0 aSORA SOMPENG LETTER SAHuTAHuBAHuCAHuDAHuGAHuMAHuNGAHuLAHuNAHuVAHuPAHuYAHuRAHuHAHuKAHuJAHuNYAHuAHuEEHuIH",
    "110E5 uUHuOHuEHuMAE",
    "110F0 nDIGIT ZEROtONEtTWOuHREEtFOURuIVEtSIXuEVENtEIGHTtNINE",
    "11100 aCHAKMA SIGN CANDRABINDUmANUSVARAmVISARGAhLETTER AAoIoUoEoKAApHAAoGAApHAAoNGAAoCAApHAAoJAApHAAoNYAAoTTAA",
    "11112 qHAAoDDAAqHAAoNNAAoTAApHAAoDAApHAAoNAAoPAApHAAoBAApHAAoMAAoYYAApAAoRAAoLAAoWAAoSAAoHAAhVOWEL SIGN AsItIsU",
    "1112B tUsEsAIsOsAUsOIhO MARKhAU MARKhVIRAMAhMAAYYAA",
    "11136 hDIGIT ZEROnONEnTWOoHREEnFOURoIVEnSIXoEVENnEIGHTnNINEhSECTION MARKhDANDAiOUBLE DANDAhQUESTION MARK",
    "11144 hLETTER LHAAhVOWEL SIGN AAsEIhLETTER VAA",
    "11150 aMAHAJANI LETTER AqIqUqEqOqKArHAqGArHAqCArHAqJArHAqNYAqTTAsHAqDDAsHAqNNAqTArHAqDArHAqNAqPArHAqBArHAqMAqRA",
    "1116E qLAqVAqSAqHAqRRAjSIGN NUKTAjABBREVIATION SIGNjSECTION MARKjLIGATURE SHRI",
    "11180 aSHARADA SIGN CANDRABINDUnANUSVARAnVISARGAiLETTER AqApIqIpUqUpVOCALIC RyRxLyLpEpAIpOpAUpKAqHApGAqHApNGApCA",
    "11197 qHApJAqHApNYApTTArHApDDArHApNNApTAqHApDAqHApNApPAqHApBAqHApMApYApRApLAqLApVApSHAqSAqApHAiVOWEL SIGN AAtIuI",
    "111B6 tUuUtVOCALIC RzC RRzC LzC LLtEtAItOtAUiSIGN VIRAMAnAVAGRAHAnJIHVAMULIYAnUPADHMANIYAiOMiDANDAjOUBLE DANDA",
    "111C7 iABBREVIATION SIGNiSEPARATORjANDHI MARKjIGN NUKTAiVOWEL MODIFIER MARKiEXTRA SHORT VOWEL MARKiSUTRA MARK",
    "111CE iVOWEL SIGN PRISHTHAMATRA EiSIGN INVERTED CANDRABINDUiDIGIT ZEROoONEoTWOpHREEoFOURpIVEoSIXpEVENoEIGHToNINE",
    "111DA iEKAMiSIGN SIDDHAMiHEADSTROKEiCONTINUATION SIGNiSECTION MARK-1v2",
    "111E1 bINHALA ARCHAIC DIGIT ONEwTWOxHREEwFOURxIVEwSIXxEVENwEIGHTwNINEqNUMBER TENyWENTYyHIRTYxFORTYyIFTYxSIXTY",
    "111F0 yEVENTYxEIGHTYxNINETYxONE HUNDREDzE THOUSAND",
    "11200 aKHOJKI LETTER ApAoIoUoEoAIoOoAUoKApHAoGApGApHAoNGAoCApHAoJApJA",
    "11213 oNYAoTTAqHAoDDAqHAoNNAoTApHAoDApDDApHAoNAoPApHAoBApBApHAoMAoYAoRAoLAoVAoSAoHAoLLAhVOWEL SIGN AAsItIsUsEsAI",
    "11232 sOsAUhSIGN ANUSVARAmVIRAMAmNUKTAmSHADDAhDANDAiOUBLE DANDAhWORD SEPARATORhSECTION MARKhDOUBLE SECTION MARK",
    "1123D hABBREVIATION SIGNhSIGN SUKUN",
    "11280 aMULTANI LETTER ApIpUpEpKAqHApGA",
    "11288 qHA",
    "1128A pCAqHApJAqJA",
    "1128F pNYApTTArHApDDArDArHApNNApTAqHApDAqHApNApPAqHApBA",
    "1129F qHApMApYApRApLApVApSApHApRRAqHAiSECTION MARK",
    "112B0 aKHUDAWADI LETTER AsArIsIrUsUrErAIrOrAUrKAsHArGAsGAsHArNGArCAsHArJAsJAsHArNYArTTAtHArDDAtDArRRArDDHArNNA",
    "112CD rTAsHArDAsHArNArPAsHArBAsBAsHArMArYArRArLArVArSHAsArHAkSIGN ANUSVARAkVOWEL SIGN AAvIwIvUwUvEvAIvOvAU",
    "112E9 kSIGN NUKTApVIRAMA",
    "112F0 kDIGIT ZEROqONEqTWOrHREEqFOURrIVEqSIXrEVENqEIGHTqNINE",
    "11300 aGRANTHA SIGN COMBINING ANUSVARA ABOVEoANDRABINDUnANUSVARAnVISARGA",
    "11305 iLETTER AqApIqIpUqUpVOCALIC RxL",
    "1130F pEEpAI",
    "11313 pOOpAUpKAqHApGAqHApNGApCAqHApJAqHApNYApTTArHApDDArHApNNApTAqHApDAqHApNA",
    "1132A pPAqHApBAqHApMApYApRA",
    "11332 pLAqLA",
    "11335 pVApSHAqSAqApHA",
    "1133B aCOMBINING BINDU BELOWaGRANTHA SIGN NUKTAnAVAGRAHAiVOWEL SIGN AAtIuItUuUtVOCALIC RzC RR",
    "11347 tEEtAI",
    "1134B tOOtAUiSIGN VIRAMA",
    "11350 iOM",
    "11357 iAU LENGTH MARK",
    "1135D iSIGN PLUTAiLETTER VEDIC ANUSVARAvDOUBLE ANUSVARAqOCALIC RRxLLiVOWEL SIGN VOCALIC LzC LL",
    "11366 aCOMBINING GRANTHA DIGIT ZEROyONEyTWOzHREEyFOURzIVEySIX",
    "11370 sLETTER AzKAzNAzVIzPA",
    "11400 aNEWA LETTER AnAmInImUnUmVOCALIC RvRuLvLmEmAImOmAUmKAnHAmGAnHAmNGAoHAmCAnHAmJAnHAmNYAoHAmTTAoHAmDDAoHAmNNA",
    "1141F mTAnHAmDAnHAmNAnHAmPAnHAmBAnHAmMAnHAmYAmRAnHAmLAnHAmWAmSHAnSAnAmHAfVOWEL SIGN AAqIrIqUrUqVOCALIC RzRyLzLqE",
    "1143F qAIqOqAUfSIGN VIRAMAkCANDRABINDUkANUSVARAkVISARGAkNUKTAkAVAGRAHAkFINAL ANUSVARAfOMfSIDDHIfDANDA",
    "1144C gOUBLE DANDAfCOMMAfGAP FILLERfABBREVIATION SIGNfDIGIT ZEROlONElTWOmHREElFOURmIVElSIXmEVENlEIGHTlNINE",
    "1145A gOUBLE COMMAfPLACEHOLDER MARK",
    "1145D fINSERTION SIGNfSANDHI MARKfLETTER VEDIC ANUSVARAfSIGN JIHVAMULIYAkUPADHMANIYA",
    "11480 aTIRHUTA ANJIiLETTER AqApIqIpUqUpVOCALIC RyRxLyLpEpAIpOpAUpKAqHApGAqHApNGApCAqHApJAqHApNYApTTArHApDDArHA",
    "1149D pNNApTAqHApDAqHApNApPAqHApBAqHApMApYApRApLApVApSHAqSAqApHAiVOWEL SIGN AAtIuItUuUtVOCALIC RzC RRzC LzC LLtE",
    "114BA tSHORT EtAItOtSHORT OtAUiSIGN CANDRABINDUnANUSVARAnVISARGApRAMAnNUKTAnAVAGRAHAiGVANGiABBREVIATION SIGNiOM",
    "114D0 iDIGIT ZEROoONEoTWOpHREEoFOURpIVEoSIXpEVENoEIGHToNINE",
    "11580 aSIDDHAM LETTER AqApIqIpUqUpVOCALIC RyRxLyLpEpAIpOpAUpKAqHApGAqHApNGApCAqHApJAqHApNYApTTArHApDDArHApNNApTA",
    "1159E qHApDAqHApNApPAqHApBAqHApMApYApRApLApVApSHAqSAqApHAiVOWEL SIGN AAtIuItUuUtVOCALIC RzC RR",
    "115B8 tEtAItOtAUiSIGN CANDRABINDUnANUSVARAnVISARGApRAMAnNUKTAnSIDDHAMiDANDAjOUBLE DANDAiSEPARATOR DOTsBAR",
    "115C6 iREPETITION MARK-1y2y3iEND OF TEXT MARKiSECTION MARK WITH TRIDENT AND U-SHAPED ORNAMENTS",
    "115CB z TRIDENT AND DOTTED CRESCENTSz RAYS AND DOTTED CRESCENTSz RAYS AND DOTTED DOUBLE CRESCENTS",
    "115CE z RAYS AND DOTTED TRIPLE CRESCENTSvDOUBLE RINGzLE RING WITH RAYSvWITH DOUBLE CRESCENTSz TRIPLE CRESCENTS",
    "115D3 z QUADRUPLE CRESCENTSz SEPTUPLE CRESCENTSz CIRCLES AND RAYSz CIRCLES AND TWO ENCLOSURES",
    "115D7 z CIRCLES AND FOUR ENCLOSURESiLETTER THREE-CIRCLE ALTERNATE IqWO-CIRCLE ALTERNATE Iz ALTERNATE II",
    "115DB pALTERNATE UiVOWEL SIGN ALTERNATE UzATE UU",
    "11600 aMODI LETTER AnAmInImUnUmVOCALIC RvRuLvLmEmAImOmAUmKAnHAmGAnHAmNGAmCAnHAmJAnHAmNYAmTTAoHAmDDAoHAmNNAmTAnHA",
    "1161F mDAnHAmNAmPAnHAmBAnHAmMAmYAmRAmLAmVAmSHAnSAnAmHAmLLAfVOWEL SIGN AAqIrIqUrUqVOCALIC RzRyLzLqEqAIqOqAU",
    "1163D fSIGN ANUSVARAkVISARGAmRAMAkARDHACANDRAfDANDAgOUBLE DANDAfABBREVIATION SIGNfSIGN HUVA",
    "11650 fDIGIT ZEROlONElTWOmHREElFOURmIVElSIXmEVENlEIGHTlNINE",
    "11660 cNGOLIAN BIRGA WITH ORNAMENTkROTATED BIRGAkDOUBLE BIRGA WITH ORNAMENTkTRIPLE BIRGA WITH ORNAMENT",
    "11664 kBIRGA WITH DOUBLE ORNAMENTkROTATED BIRGA WITH ORNAMENTzITH DOUBLE ORNAMENTkINVERTED BIRGA",
    "11668 y WITH DOUBLE ORNAMENTkSWIRL BIRGAv WITH ORNAMENTzH DOUBLE ORNAMENT",
    "1166C kTURNED SWIRL BIRGA WITH DOUBLE ORNAMENT",
    "11680 aTAKRI LETTER AoAnIoInUoUnEnAInOnAUnKAoHAnGAoHAnNGAnCAoHAnJAoHAnNYAnTTApHAnDDApHAnNNAnTAoHAnDAoHAnNAnPAoHA",
    "116A0 nBAoHAnMAnYAnRAnLAnVAnSHAoAnHAnRRAgSIGN ANUSVARAlVISARGAgVOWEL SIGN AArIsIrUsUrErAIrOrAUgSIGN VIRAMAlNUKTA",
    "116B8 gLETTER ARCHAIC KHAgABBREVIATION SIGN",
    "116C0 gDIGIT ZEROmONEmTWOnHREEmFOURnIVEmSIXnEVENmEIGHTmNINE",
    "11700 aAHOM LETTER KAnHAmNGAnAmTAmALTERNATE TAmPAnHAmBAmMAmJAmCHAmTHAmRAmLAmSAmNYAmHAmAmDAnHAmGAmALTERNATE GA",
    "11717 mGHAmBHAmJHAmALTERNATE BA",
    "1171D fCONSONANT SIGN MEDIAL LAzL RAzL LIGATING RAfVOWEL SIGN ArAqIrIqUrUqEqAWqOqAIrMfSIGN KILLER",
    "11730 fDIGIT ZEROlONElTWOmHREElFOURmIVElSIXmEVENlEIGHTlNINEfNUMBER TENnWENTYfSIGN SMALL SECTIONlECTIONkRULAI",
    "1173F gYMBOL VIfLETTER CAmTTAoHAmDDAoHAmNNAmLLA",
    "11800 aDOGRA LETTER AoAnIoInUoUnEnAInOnAUnKAoHAnGAoHAnNGAnCAoHAnJAoHAnNYAnTTApHAnDDApHAnNNAnTAoHAnDAoHAnNAnPAoHA",
    "11820 nBAoHAnMAnYAnRAnLAnVAnSHAoSAoAnHAnRRAgVOWEL SIGN AArIsIrUsUrVOCALIC RzRRrErAIrOrAUgSIGN ANUSVARAlVISARGA",
    "11839 nRAMAlNUKTAgABBREVIATION SIGN",
    "118A0 aWARANG CITI CAPITAL LETTER NGAAzR AzR WIzR YUzR YAzR YOzR IIzR UUzR EzR OzR ANGzR GAzR KOzR ENYzR YUJ",
    "118AF zR UCzR ENNzR ODDzR TTEzR NUNGzR DAzR ATzR AMzR BUzR PUzR HIYOzR HOLOzR HORRzR HARzR SSUUzR SIIzR VIYO",
    "118C0 mSMALL LETTER NGAAzAzWIzYUzYAzYOzIIzUUzEzOzANGzGAzKOzENYzYUJzUCzENNzODDzTTEzNUNGzDAzATzAMzBUzPUzHIYOzHOLO",
    "118DB zHORRzHARzSSUUzSIIzVIYOmDIGIT ZEROsONEsTWOtHREEsFOURtIVEsSIXtEVENsEIGHTsNINEmNUMBER TENuWENTYuHIRTYtFORTY",
    "118EE uIFTYtSIXTYuEVENTYtEIGHTYtNINETY",
    "118FF mOMaDIVES AKURU LETTER AuAtIuItUuUtE",
    "11909 tO",
    "1190C tKAuHAtGAuHAtNGAtCAuHAtJA",
    "11915 tNYAtTTA",
    "11918 tDDAvHAtNNAtTAuHAtDAuHAtNAtPAuHAtBAuHAtMAtYAuYAtRAtLAtVAtSHAuSAuAtHAtLLAtZAmVOWEL SIGN AAxIyIxUyUxE",
    "11937 xAIxO",
    "1193B mSIGN ANUSVARArCANDRABINDUrHALANTAmVIRAMAmPREFIXED NASAL SIGNmMEDIAL YAmINITIAL RAmMEDIAL RAmSIGN NUKTA",
    "11944 mDOUBLE DANDAmGAP FILLERmEND OF TEXT MARK",
    "11950 mDIGIT ZEROsONEsTWOtHREEsFOURtIVEsSIXtEVENsEIGHTsNINE",
    "119A0 aNANDINAGARI LETTER AuAtIuItUuUtVOCALIC RzC RR",
    "119AA tEtAItOtAUtKAuHAtGAuHAtNGAtCAuHAtJAuHAtNYAtTTAvHAtDDAvHAtNNAtTAuHAtDAuHAtNAtPAuHAtBAuHAtMAtYAtRAtLAtVAtSHA",
    "119CC uSAuAtHAtLLAtRRAmVOWEL SIGN AAxIyIxUyUxVOCALIC RzCALIC RR",
    "119DA xExAIxOxAUmSIGN ANUSVARArVISARGAtRAMArAVAGRAHArSIDDHAMmHEADSTROKEmVOWEL SIGN PRISHTHAMATRA E",
    "11A00 aZANABAZAR SQUARE LETTER ArVOWEL SIGN IzGN UEzGN UzGN EzGN OEzGN OzGN AIzGN AUzGN REVERSED IxLENGTH MARK",
    "11A0B rLETTER KAzHAyGAzHAyNGAyCAzHAyJAyNYAyTTAzTHAyDDAzDHAyNNAyTAzHAyDAzHAyNAyPAzHAyBAzHAyMAyTSAzSHAyDZAzZHAyZHA",
    "11A28 zAy-AyYAyRAyLAyVAySHAzSAzAyHAyKSSArFINAL CONSONANT MARKrSIGN VIRAMAwCANDRABINDUzDRABINDU WITH ORNAMENT",
    "11A37 zDRA WITH ORNAMENTwANUSVARAwVISARGArCLUSTER-INITIAL LETTER RAzFINAL LETTER YAzFINAL LETTER RA",
    "11A3D zFINAL LETTER LAzFINAL LETTER VArINITIAL HEAD MARKrCLOSING HEAD MARKrMARK TSHEGwSHADwDOUBLE SHAD",
    "11A44 wLONG TSHEGrINITIAL DOUBLE-LINED HEAD MARKrCLOSING DOUBLE-LINED HEAD MARKrSUBJOINER",
    "11A50 aSOYOMBO LETTER AiVOWEL SIGN ItUEutEtOuEtAIuUtVOCALIC RzC LoLENGTH MARKiLETTER KAqHApGAqHApNGApCAqHApJAqHA",
    "11A65 pNYApTTArHApDDArHApNNApTAqHApDAqHApNApPAqHApBAqHApMApTSArHApDZApZHAqAp-ApYApRApLApVApSHAqSAqApHApKSSA",
    "11A84 iSIGN JIHVAMULIYAnUPADHMANIYAiCLUSTER-INITIAL LETTER RAzETTER LAzETTER SHAzETTER SAiFINAL CONSONANT SIGN G",
    "11A8B zIGN KzIGN NGzIGN DzIGN NzIGN BzIGN MzIGN RzIGN LzIGN SHzIGN SzIGN -AiSIGN ANUSVARAnVISARGA",
    "11A98 iGEMINATION MARKiSUBJOINERiMARK TSHEGnSHADnDOUBLE SHADnPLUTAiHEAD MARK WITH MOON AND SUN AND TRIPLE FLAME",
    "11A9F zON AND SUN AND FLAMEzON AND SUNiTERMINAL MARK-1w2",
    "11AB0 aCANADIAN SYLLABICS NATTILIK HIzIK HIIzIK HOzIK HOOzIK HAzIK HAAzIK SHRIzIK SHRIIzIK SHROzIK SHROOzIK SHRA",
    "11ABB zIK SHRAAtSPEvIvOvAaPAU CIN HAU LETTER PAtKAtLAtMAtDAtZAtVAtNGAtHAtGAtKHAtSAtBAtCAtTAuHAtNAtPHAtRAtFAtCHA",
    "11AD5 tAtEtItOtUuAtIAtFINAL PzKzTzMzNzLzWzNGzYmRISING TONE LONGxmSANDHI GLOTTAL STOPmRISING TONE LONG FINAL",
    "11AE9 yFINALmSANDHI GLOTTAL STOP FINALtTONE LONGxx LONG FINALyFINALmMID-LEVEL TONEmGLOTTAL STOP VARIANT",
    "11AF1 mMID-LEVEL TONE LONG FINALzE FINALmLOW-FALLING TONE LONGzONEmGLOTTAL STOPmLOW-FALLING TONE LONG FINAL",
    "11AF7 zONE FINALmGLOTTAL STOP FINAL",
    "11C00 aBHAIKSUKI LETTER AsArIsIrUsUrVOCALIC RzRRzL",
    "11C0A rErAIrOrAUrKAsHArGAsHArNGArCAsHArJAsHArNYArTTAtHArDDAtHArNNArTAsHArDAsHArNArPAsHArBAsHArMArYArRArLArVArSHA",
    "11C2C sSAsArHAkVOWEL SIGN AAvIwIvUwUvVOCALIC RzLIC RRzLIC L",
    "11C38 vEvAIvOvAUkSIGN CANDRABINDUpANUSVARApVISARGArRAMApAVAGRAHAkDANDAlOUBLE DANDAkWORD SEPARATORkGAP FILLER-1v2",
    "11C50 kDIGIT ZEROqONEqTWOrHREEqFOURrIVEqSIXrEVENqEIGHTqNINEkNUMBER ONErTWOsHREErFOURsIVErSIXsEVENrEIGHTrNINErTEN",
    "11C64 sWENTYsHIRTYrFORTYsIFTYrSIXTYsEVENTYrEIGHTYrNINETYkHUNDREDS UNIT MARK",
    "11C70 aMARCHEN HEAD MARKiMARK SHADiLETTER KAqHApGApNGApCAqHApJApNYApTAqHApDApNApPAqHApBApMApTSArHApDZApWApZHAqA",
    "11C88 p-ApYApRApLApSHAqApHApA",
    "11C92 iSUBJOINED LETTER KAzKHAzGAzNGAzCAzCHAzJAzNYAzTAzTHAzDAzNAzPAzPHAzBAzMAzTSAzTSHAzDZAzWAzZHAzZA",
    "11CA9 zYAzRAzLAzSHAzSAzHAzAiVOWEL SIGN AAtItUtEtOiSIGN ANUSVARAnCANDRABINDU",
    "11D00 cSARAM GONDI LETTER AwAvIwIvUwUvE",
    "11D08 vAIvO",
    "11D0B vAUvKAwHAvGAwHAvNGAvCAwHAvJAwHAvNYAvTTAxHAvDDAxHAvNNAvTAwHAvDAwHAvNAvPAwHAvBAwHAvMAvYAvRAvLAvVAvSHAwSAwA",
    "11D2C vHAvLLAvKSSAvJNYAvTRAoVOWEL SIGN AAzIzIIzUzUUzVOCALIC R",
    "11D3A zE",
    "11D3C zAIzO",
    "11D3F zAUoSIGN ANUSVARAtVISARGAtNUKTAtCANDRAtHALANTAoVIRAMAoREPHApA-KARA",
    "11D50 oDIGIT ZEROuONEuTWOvHREEuFOURvIVEuSIXvEVENuEIGHTuNINE",
    "11D60 aGUNJALA GONDI LETTER AwAvIwIvUwU",
    "11D67 vEEvAI",
    "11D6A vOOvAUvYAvVAvBAwHAvMAvKAwHAvTAwHAvLAvGAwHAvDAwHAvNAvCAwHAvTTAxHAvLLAvJAwHAvDDAxHAvNGAvPAwHAvHAvRAvSA",
    "11D8A oVOWEL SIGN AAzIzIIzUzUU",
    "11D90 zEEzAI",
    "11D93 zOOzAUoSIGN ANUSVARAtVISARGAoVIRAMAoOM",
    "11DA0 oDIGIT ZEROuONEuTWOvHREEuFOURvIVEuSIXvEVENuEIGHTuNINE",
    "11EE0 aMAKASAR LETTER KApGApNGApPApBApMApTApDApNApCApJApNYApYApRApLApVApSApAiANGKAiVOWEL SIGN ItUtEtOiPASSIMBANG",
    "11EF8 iEND OF SECTION",
    "11FB0 aLISU LETTER YHA",
    "11FC0 aTAMIL FRACTION ONE THREE-HUNDRED-AND-TWENTIETHtONE-HUNDRED-AND-SIXTIETHtEIGHTIETHtSIXTY-FOURTHtFORTIETH",
    "11FC5 tTHIRTY-SECONDpTHREE EIGHTIETHSvSIXTY-FOURTHSpONE TWENTIETHtSIXTEENTH-1zNTH-2tTENTHtEIGHTH",
    "11FCD pTHREE TWENTIETHSvSIXTEENTHSpONE FIFTHtQUARTERtHALF-1y2pTHREE QUARTERSpDOWNSCALING FACTOR KIIZHgSIGN NEL",
    "11FD6 lCEVITUlAAZHAAKKUlUZHAKKUlMUUVUZHAKKUlKURUNIlPATHAKKUlMUKKURUNIlKAACUlPANAMmONlVARAAKANlPAARAMlKUZHIlVELI",
    "11FE4 gWET CULTIVATION SIGNgDRY CULTIVATION SIGNgLAND SIGNgSALT PAN SIGNgTRADITIONAL CREDIT SIGNsNUMBER SIGN",
    "11FEA gCURRENT SIGNgAND ODD SIGNgSPENT SIGNgTOTAL SIGNgIN POSSESSION SIGNgSTARTING FROM SIGNhIGN MUTHALIYA",
    "11FF1 lVAKAIYARAA",
    "11FFF gPUNCTUATION END OF TEXT" ]

end RestDispatch.Text
