set_option autoImplicit false

/-!
Names of characters up to U+1FFF (Unicode 14.0). A row starts with the code of its first character; the
names of neighbours follow. A small letter before a name says how many letters are those of the name before it: `a` none,
`b` one, and so on.
-/
namespace RestDispatch.Text

def alphabetNames : List String := [
    "20 aSPACEaEXCLAMATION MARKaQUOTATION MARKaNUMBER SIGNaDOLLAR SIGNaPERCENT SIGNaAMPERSANDbPOSTROPHE",
    "28 aLEFT PARENTHESISaRIGHT PARENTHESISaASTERISKaPLUS SIGNaCOMMAaHYPHEN-MINUSaFULL STOPaSOLIDUSaDIGIT ZEROgONE",
    "32 gTWOhHREEgFOURhIVEgSIXhEVENgEIGHTgNINEaCOLONaSEMICOLONaLESS-THAN SIGNaEQUALS SIGNaGREATER-THAN SIGN",
    "3F aQUESTION MARKaCOMMERCIAL ATaLATIN CAPITAL LETTER AvBvCvDvEvFvGvHvIvJvKvLvMvNvOvPvQvRvSvTvUvVvWvXvYvZ",
    "5B bEFT SQUARE BRACKETaREVERSE SOLIDUSbIGHT SQUARE BRACKETaCIRCUMFLEX ACCENTaLOW LINEaGRAVE ACCENT",
    "61 aLATIN SMALL LETTER AtBtCtDtEtFtGtHtItJtKtLtMtNtOtPtQtRtStTtUtVtWtXtYtZbEFT CURLY BRACKETaVERTICAL LINE",
    "7D aRIGHT CURLY BRACKETaTILDE",
    "A0 aNO-BREAK SPACEaINVERTED EXCLAMATION MARKaCENT SIGNaPOUND SIGNaCURRENCY SIGNaYEN SIGNaBROKEN BARaSECTION SIGN",
    "A8 aDIAERESISaCOPYRIGHT SIGNaFEMININE ORDINAL INDICATORaLEFT-POINTING DOUBLE ANGLE QUOTATION MARKaNOT SIGN",
    "AD aSOFT HYPHENaREGISTERED SIGNaMACRONaDEGREE SIGNaPLUS-MINUS SIGNaSUPERSCRIPT TWOnHREEaACUTE ACCENTaMICRO SIGN",
    "B6 aPILCROW SIGNaMIDDLE DOTaCEDILLAaSUPERSCRIPT ONEaMASCULINE ORDINAL INDICATOR",
    "BB aRIGHT-POINTING DOUBLE ANGLE QUOTATION MARKaVULGAR FRACTION ONE QUARTERuHALFqTHREE QUARTERS",
    "BF aINVERTED QUESTION MARKaLATIN CAPITAL LETTER A WITH GRAVEzTH ACUTEzTH CIRCUMFLEXzTH TILDEzTH DIAERESIS",
    "C5 zTH RING ABOVEwEvC WITH CEDILLAvE WITH GRAVEzTH ACUTEzTH CIRCUMFLEXzTH DIAERESISvI WITH GRAVEzTH ACUTE",
    "CE zTH CIRCUMFLEXzTH DIAERESISvETHvN WITH TILDEvO WITH GRAVEzTH ACUTEzTH CIRCUMFLEXzTH TILDEzTH DIAERESIS",
    "D7 aMULTIPLICATION SIGNaLATIN CAPITAL LETTER O WITH STROKEvU WITH GRAVEzTH ACUTEzTH CIRCUMFLEXzTH DIAERESIS",
    "DD vY WITH ACUTEvTHORNgSMALL LETTER SHARP StA WITH GRAVEz ACUTEz CIRCUMFLEXz TILDEz DIAERESISz RING ABOVEuE",
    "E7 tC WITH CEDILLAtE WITH GRAVEz ACUTEz CIRCUMFLEXz DIAERESIStI WITH GRAVEz ACUTEz CIRCUMFLEXz DIAERESIStETH",
    "F1 tN WITH TILDEtO WITH GRAVEz ACUTEz CIRCUMFLEXz TILDEz DIAERESISaDIVISION SIGN",
    "F8 aLATIN SMALL LETTER O WITH STROKEtU WITH GRAVEz ACUTEz CIRCUMFLEXz DIAERESIStY WITH ACUTEtTHORN",
    "FF tY WITH DIAERESISgCAPITAL LETTER A WITH MACRONgSMALL LETTER A WITH MACRONgCAPITAL LETTER A WITH BREVE",
    "103 gSMALL LETTER A WITH BREVEgCAPITAL LETTER A WITH OGONEKgSMALL LETTER A WITH OGONEK",
    "106 gCAPITAL LETTER C WITH ACUTEgSMALL LETTER C WITH ACUTEgCAPITAL LETTER C WITH CIRCUMFLEX",
    "109 gSMALL LETTER C WITH CIRCUMFLEXgCAPITAL LETTER C WITH DOT ABOVEgSMALL LETTER C WITH DOT ABOVE",
    "10C gCAPITAL LETTER C WITH CARONgSMALL LETTER C WITH CARONgCAPITAL LETTER D WITH CARONgSMALL LETTER D WITH CARON",
    "110 gCAPITAL LETTER D WITH STROKEgSMALL LETTER D WITH STROKEgCAPITAL LETTER E WITH MACRON",
    "113 gSMALL LETTER E WITH MACRONgCAPITAL LETTER E WITH BREVEgSMALL LETTER E WITH BREVE",
    "116 gCAPITAL LETTER E WITH DOT ABOVEgSMALL LETTER E WITH DOT ABOVEgCAPITAL LETTER E WITH OGONEK",
    "119 gSMALL LETTER E WITH OGONEKgCAPITAL LETTER E WITH CARONgSMALL LETTER E WITH CARON",
    "11C gCAPITAL LETTER G WITH CIRCUMFLEXgSMALL LETTER G WITH CIRCUMFLEXgCAPITAL LETTER G WITH BREVE",
    "11F gSMALL LETTER G WITH BREVEgCAPITAL LETTER G WITH DOT ABOVEgSMALL LETTER G WITH DOT ABOVE",
    "122 gCAPITAL LETTER G WITH CEDILLAgSMALL LETTER G WITH CEDILLAgCAPITAL LETTER H WITH CIRCUMFLEX",
    "125 gSMALL LETTER H WITH CIRCUMFLEXgCAPITAL LETTER H WITH STROKEgSMALL LETTER H WITH STROKE",
    "128 gCAPITAL LETTER I WITH TILDEgSMALL LETTER I WITH TILDEgCAPITAL LETTER I WITH MACRON",
    "12B gSMALL LETTER I WITH MACRONgCAPITAL LETTER I WITH BREVEgSMALL LETTER I WITH BREVE",
    "12E gCAPITAL LETTER I WITH OGONEKgSMALL LETTER I WITH OGONEKgCAPITAL LETTER I WITH DOT ABOVE",
    "131 gSMALL LETTER DOTLESS IgCAPITAL LIGATURE IJgSMALL LIGATURE IJgCAPITAL LETTER J WITH CIRCUMFLEX",
    "135 gSMALL LETTER J WITH CIRCUMFLEXgCAPITAL LETTER K WITH CEDILLAgSMALL LETTER K WITH CEDILLAuRA",
    "139 gCAPITAL LETTER L WITH ACUTEgSMALL LETTER L WITH ACUTEgCAPITAL LETTER L WITH CEDILLA",
    "13C gSMALL LETTER L WITH CEDILLAgCAPITAL LETTER L WITH CARONgSMALL LETTER L WITH CARON",
    "13F gCAPITAL LETTER L WITH MIDDLE DOTgSMALL LETTER L WITH MIDDLE DOTgCAPITAL LETTER L WITH STROKE",
    "142 gSMALL LETTER L WITH STROKEgCAPITAL LETTER N WITH ACUTEgSMALL LETTER N WITH ACUTE",
    "145 gCAPITAL LETTER N WITH CEDILLAgSMALL LETTER N WITH CEDILLAgCAPITAL LETTER N WITH CARON",
    "148 gSMALL LETTER N WITH CARONvPRECEDED BY APOSTROPHEgCAPITAL LETTER ENGgSMALL LETTER ENG",
    "14C gCAPITAL LETTER O WITH MACRONgSMALL LETTER O WITH MACRONgCAPITAL LETTER O WITH BREVE",
    "14F gSMALL LETTER O WITH BREVEgCAPITAL LETTER O WITH DOUBLE ACUTEgSMALL LETTER O WITH DOUBLE ACUTE",
    "152 gCAPITAL LIGATURE OEgSMALL LIGATURE OEgCAPITAL LETTER R WITH ACUTEgSMALL LETTER R WITH ACUTE",
    "156 gCAPITAL LETTER R WITH CEDILLAgSMALL LETTER R WITH CEDILLAgCAPITAL LETTER R WITH CARON",
    "159 gSMALL LETTER R WITH CARONgCAPITAL LETTER S WITH ACUTEgSMALL LETTER S WITH ACUTE",
    "15C gCAPITAL LETTER S WITH CIRCUMFLEXgSMALL LETTER S WITH CIRCUMFLEXgCAPITAL LETTER S WITH CEDILLA",
    "15F gSMALL LETTER S WITH CEDILLAgCAPITAL LETTER S WITH CARONgSMALL LETTER S WITH CARON",
    "162 gCAPITAL LETTER T WITH CEDILLAgSMALL LETTER T WITH CEDILLAgCAPITAL LETTER T WITH CARON",
    "165 gSMALL LETTER T WITH CARONgCAPITAL LETTER T WITH STROKEgSMALL LETTER T WITH STROKE",
    "168 gCAPITAL LETTER U WITH TILDEgSMALL LETTER U WITH TILDEgCAPITAL LETTER U WITH MACRON",
    "16B gSMALL LETTER U WITH MACRONgCAPITAL LETTER U WITH BREVEgSMALL LETTER U WITH BREVE",
    "16E gCAPITAL LETTER U WITH RING ABOVEgSMALL LETTER U WITH RING ABOVEgCAPITAL LETTER U WITH DOUBLE ACUTE",
    "171 gSMALL LETTER U WITH DOUBLE ACUTEgCAPITAL LETTER U WITH OGONEKgSMALL LETTER U WITH OGONEK",
    "174 gCAPITAL LETTER W WITH CIRCUMFLEXgSMALL LETTER W WITH CIRCUMFLEXgCAPITAL LETTER Y WITH CIRCUMFLEX",
    "177 gSMALL LETTER Y WITH CIRCUMFLEXgCAPITAL LETTER Y WITH DIAERESISvZ WITH ACUTEgSMALL LETTER Z WITH ACUTE",
    "17B gCAPITAL LETTER Z WITH DOT ABOVEgSMALL LETTER Z WITH DOT ABOVEgCAPITAL LETTER Z WITH CARON",
    "17E gSMALL LETTER Z WITH CARONtLONG StB WITH STROKEgCAPITAL LETTER B WITH HOOKzTH TOPBAR",
    "183 gSMALL LETTER B WITH TOPBARgCAPITAL LETTER TONE SIXgSMALL LETTER TONE SIXgCAPITAL LETTER OPEN OvC WITH HOOK",
    "188 gSMALL LETTER C WITH HOOKgCAPITAL LETTER AFRICAN DvD WITH HOOKzTH TOPBARgSMALL LETTER D WITH TOPBAR",
    "18D tTURNED DELTAgCAPITAL LETTER REVERSED EvSCHWAvOPEN EvF WITH HOOKgSMALL LETTER F WITH HOOK",
    "193 gCAPITAL LETTER G WITH HOOKwAMMAgSMALL LETTER HVgCAPITAL LETTER IOTAw WITH STROKEvK WITH HOOK",
    "199 gSMALL LETTER K WITH HOOKtL WITH BARuAMBDA WITH STROKEgCAPITAL LETTER TURNED MvN WITH LEFT HOOK",
    "19E gSMALL LETTER N WITH LONG RIGHT LEGgCAPITAL LETTER O WITH MIDDLE TILDEzTH HORNgSMALL LETTER O WITH HORN",
    "1A2 gCAPITAL LETTER OIgSMALL LETTER OIgCAPITAL LETTER P WITH HOOKgSMALL LETTER P WITH HOOKgLETTER YR",
    "1A7 gCAPITAL LETTER TONE TWOgSMALL LETTER TONE TWOgCAPITAL LETTER ESHgLETTER REVERSED ESH LOOP",
    "1AB gSMALL LETTER T WITH PALATAL HOOKgCAPITAL LETTER T WITH HOOKgSMALL LETTER T WITH HOOK",
    "1AE gCAPITAL LETTER T WITH RETROFLEX HOOKvU WITH HORNgSMALL LETTER U WITH HORNgCAPITAL LETTER UPSILON",
    "1B2 vV WITH HOOKvY WITH HOOKgSMALL LETTER Y WITH HOOKgCAPITAL LETTER Z WITH STROKEgSMALL LETTER Z WITH STROKE",
    "1B7 gCAPITAL LETTER EZHy REVERSEDgSMALL LETTER EZH REVERSEDxWITH TAILgLETTER TWO WITH STROKE",
    "1BC gCAPITAL LETTER TONE FIVEgSMALL LETTER TONE FIVEgLETTER INVERTED GLOTTAL STOP WITH STROKEnWYNNnDENTAL CLICK",
    "1C1 nLATERAL CLICKnALVEOLAR CLICKnRETROFLEX CLICKgCAPITAL LETTER DZ WITH CARONw WITH SMALL LETTER Z WITH CARON",
    "1C6 gSMALL LETTER DZ WITH CARONgCAPITAL LETTER LJw WITH SMALL LETTER JgSMALL LETTER LJgCAPITAL LETTER NJ",
    "1CB w WITH SMALL LETTER JgSMALL LETTER NJgCAPITAL LETTER A WITH CARONgSMALL LETTER A WITH CARON",
    "1CF gCAPITAL LETTER I WITH CARONgSMALL LETTER I WITH CARONgCAPITAL LETTER O WITH CARONgSMALL LETTER O WITH CARON",
    "1D3 gCAPITAL LETTER U WITH CARONgSMALL LETTER U WITH CARONgCAPITAL LETTER U WITH DIAERESIS AND MACRON",
    "1D6 gSMALL LETTER U WITH DIAERESIS AND MACRONgCAPITAL LETTER U WITH DIAERESIS AND ACUTE",
    "1D8 gSMALL LETTER U WITH DIAERESIS AND ACUTEgCAPITAL LETTER U WITH DIAERESIS AND CARON",
    "1DA gSMALL LETTER U WITH DIAERESIS AND CARONgCAPITAL LETTER U WITH DIAERESIS AND GRAVE",
    "1DC gSMALL LETTER U WITH DIAERESIS AND GRAVEtTURNED EgCAPITAL LETTER A WITH DIAERESIS AND MACRON",
    "1DF gSMALL LETTER A WITH DIAERESIS AND MACRONgCAPITAL LETTER A WITH DOT ABOVE AND MACRON",
    "1E1 gSMALL LETTER A WITH DOT ABOVE AND MACRONgCAPITAL LETTER AE WITH MACRONgSMALL LETTER AE WITH MACRON",
    "1E4 gCAPITAL LETTER G WITH STROKEgSMALL LETTER G WITH STROKEgCAPITAL LETTER G WITH CARON",
    "1E7 gSMALL LETTER G WITH CARONgCAPITAL LETTER K WITH CARONgSMALL LETTER K WITH CARON",
    "1EA gCAPITAL LETTER O WITH OGONEKgSMALL LETTER O WITH OGONEKgCAPITAL LETTER O WITH OGONEK AND MACRON",
    "1ED gSMALL LETTER O WITH OGONEK AND MACRONgCAPITAL LETTER EZH WITH CARONgSMALL LETTER EZH WITH CARON",
    "1F0 tJ WITH CARONgCAPITAL LETTER DZw WITH SMALL LETTER ZgSMALL LETTER DZgCAPITAL LETTER G WITH ACUTE",
    "1F5 gSMALL LETTER G WITH ACUTEgCAPITAL LETTER HWAIRvWYNNvN WITH GRAVEgSMALL LETTER N WITH GRAVE",
    "1FA gCAPITAL LETTER A WITH RING ABOVE AND ACUTEgSMALL LETTER A WITH RING ABOVE AND ACUTE",
    "1FC gCAPITAL LETTER AE WITH ACUTEgSMALL LETTER AE WITH ACUTEgCAPITAL LETTER O WITH STROKE AND ACUTE",
    "1FF gSMALL LETTER O WITH STROKE AND ACUTEgCAPITAL LETTER A WITH DOUBLE GRAVEgSMALL LETTER A WITH DOUBLE GRAVE",
    "202 gCAPITAL LETTER A WITH INVERTED BREVEgSMALL LETTER A WITH INVERTED BREVEgCAPITAL LETTER E WITH DOUBLE GRAVE",
    "205 gSMALL LETTER E WITH DOUBLE GRAVEgCAPITAL LETTER E WITH INVERTED BREVEgSMALL LETTER E WITH INVERTED BREVE",
    "208 gCAPITAL LETTER I WITH DOUBLE GRAVEgSMALL LETTER I WITH DOUBLE GRAVEgCAPITAL LETTER I WITH INVERTED BREVE",
    "20B gSMALL LETTER I WITH INVERTED BREVEgCAPITAL LETTER O WITH DOUBLE GRAVEgSMALL LETTER O WITH DOUBLE GRAVE",
    "20E gCAPITAL LETTER O WITH INVERTED BREVEgSMALL LETTER O WITH INVERTED BREVEgCAPITAL LETTER R WITH DOUBLE GRAVE",
    "211 gSMALL LETTER R WITH DOUBLE GRAVEgCAPITAL LETTER R WITH INVERTED BREVEgSMALL LETTER R WITH INVERTED BREVE",
    "214 gCAPITAL LETTER U WITH DOUBLE GRAVEgSMALL LETTER U WITH DOUBLE GRAVEgCAPITAL LETTER U WITH INVERTED BREVE",
    "217 gSMALL LETTER U WITH INVERTED BREVEgCAPITAL LETTER S WITH COMMA BELOWgSMALL LETTER S WITH COMMA BELOW",
    "21A gCAPITAL LETTER T WITH COMMA BELOWgSMALL LETTER T WITH COMMA BELOWgCAPITAL LETTER YOGHgSMALL LETTER YOGH",
    "21E gCAPITAL LETTER H WITH CARONgSMALL LETTER H WITH CARONgCAPITAL LETTER N WITH LONG RIGHT LEG",
    "221 gSMALL LETTER D WITH CURLgCAPITAL LETTER OUgSMALL LETTER OUgCAPITAL LETTER Z WITH HOOK",
    "225 gSMALL LETTER Z WITH HOOKgCAPITAL LETTER A WITH DOT ABOVEgSMALL LETTER A WITH DOT ABOVE",
    "228 gCAPITAL LETTER E WITH CEDILLAgSMALL LETTER E WITH CEDILLAgCAPITAL LETTER O WITH DIAERESIS AND MACRON",
    "22B gSMALL LETTER O WITH DIAERESIS AND MACRONgCAPITAL LETTER O WITH TILDE AND MACRON",
    "22D gSMALL LETTER O WITH TILDE AND MACRONgCAPITAL LETTER O WITH DOT ABOVEgSMALL LETTER O WITH DOT ABOVE",
    "230 gCAPITAL LETTER O WITH DOT ABOVE AND MACRONgSMALL LETTER O WITH DOT ABOVE AND MACRON",
    "232 gCAPITAL LETTER Y WITH MACRONgSMALL LETTER Y WITH MACRONtL WITH CURLtN WITH CURLtT WITH CURLtDOTLESS J",
    "238 uB DIGRAPHtQP DIGRAPHgCAPITAL LETTER A WITH STROKEvC WITH STROKEgSMALL LETTER C WITH STROKE",
    "23D gCAPITAL LETTER L WITH BARvT WITH DIAGONAL STROKEgSMALL LETTER S WITH SWASH TAILtZ WITH SWASH TAIL",
    "241 gCAPITAL LETTER GLOTTAL STOPgSMALL LETTER GLOTTAL STOPgCAPITAL LETTER B WITH STROKEvU BARvTURNED V",
    "246 vE WITH STROKEgSMALL LETTER E WITH STROKEgCAPITAL LETTER J WITH STROKEgSMALL LETTER J WITH STROKE",
    "24A gCAPITAL LETTER SMALL Q WITH HOOK TAILgSMALL LETTER Q WITH HOOK TAILgCAPITAL LETTER R WITH STROKE",
    "24D gSMALL LETTER R WITH STROKEgCAPITAL LETTER Y WITH STROKEgSMALL LETTER Y WITH STROKEtTURNED AtALPHA",
    "252 tTURNED ALPHAtB WITH HOOKtOPEN OtC WITH CURLtD WITH TAILz HOOKtREVERSED EtSCHWAy WITH HOOKtOPEN E",
    "25C tREVERSED OPEN EzED OPEN E WITH HOOKtCLOSED REVERSED OPEN EtDOTLESS J WITH STROKEtG WITH HOOKtSCRIPT G",
    "262 gLETTER SMALL CAPITAL GgSMALL LETTER GAMMAtRAMS HORNtTURNED HtH WITH HOOKuENG WITH HOOKtI WITH STROKEuOTA",
    "26A gLETTER SMALL CAPITAL IgSMALL LETTER L WITH MIDDLE TILDEz BELTz RETROFLEX HOOKuEZHtTURNED Mz M WITH LONG LEG",
    "271 tM WITH HOOKtN WITH LEFT HOOKz RETROFLEX HOOKgLETTER SMALL CAPITAL NgSMALL LETTER BARRED O",
    "276 gLETTER SMALL CAPITAL OEgSMALL LETTER CLOSED OMEGAtPHItTURNED Rz R WITH LONG LEGz R WITH HOOK",
    "27C tR WITH LONG LEGz TAILz FISHHOOKuEVERSED R WITH FISHHOOKgLETTER SMALL CAPITAL RzL INVERTED R",
    "282 gSMALL LETTER S WITH HOOKtESHtDOTLESS J WITH STROKE AND HOOKtSQUAT REVERSED ESHtESH WITH CURLtTURNED T",
    "288 u WITH RETROFLEX HOOKtU BARuPSILONtV WITH HOOKtTURNED Vz Wz YgLETTER SMALL CAPITAL Y",
    "290 gSMALL LETTER Z WITH RETROFLEX HOOKz CURLtEZHw WITH CURLgLETTER GLOTTAL STOPnPHARYNGEAL VOICED FRICATIVE",
    "296 nINVERTED GLOTTAL STOPnSTRETCHED CnBILABIAL CLICKnSMALL CAPITAL BgSMALL LETTER CLOSED OPEN E",
    "29B gLETTER SMALL CAPITAL G WITH HOOKzL HgSMALL LETTER J WITH CROSSED-TAILtTURNED KgLETTER SMALL CAPITAL L",
    "2A0 gSMALL LETTER Q WITH HOOKgLETTER GLOTTAL STOP WITH STROKEnREVERSED GLOTTAL STOP WITH STROKE",
    "2A3 gSMALL LETTER DZ DIGRAPHuEZH DIGRAPHuZ DIGRAPH WITH CURLtTS DIGRAPHuESH DIGRAPHuC DIGRAPH WITH CURL",
    "2A9 tFENG DIGRAPHtLS DIGRAPHuZ DIGRAPHgLETTER BILABIAL PERCUSSIVEpDENTAL PERCUSSIVE",
    "2AE gSMALL LETTER TURNED H WITH FISHHOOKz H WITH FISHHOOK AND TAILaMODIFIER LETTER SMALL Hx WITH HOOKwJwR",
    "2B4 wTURNED RzNED R WITH HOOKwCAPITAL INVERTED RwWwYqPRIMEqDOUBLE PRIMEqTURNED COMMAqAPOSTROPHEqREVERSED COMMA",
    "2BE rIGHT HALF RINGqLEFT HALF RINGqGLOTTAL STOPqREVERSED GLOTTAL STOPqLEFT ARROWHEADqRIGHT ARROWHEAD",
    "2C4 qUP ARROWHEADqDOWN ARROWHEADqCIRCUMFLEX ACCENTaCARONaMODIFIER LETTER VERTICAL LINEqMACRONqACUTE ACCENT",
    "2CB qGRAVE ACCENTqLOW VERTICAL LINEuMACRONuGRAVE ACCENTuACUTE ACCENTqTRIANGULAR COLONqHALF TRIANGULAR COLON",
    "2D2 qCENTRED RIGHT HALF RINGyLEFT HALF RINGqUP TACKqDOWN TACKqPLUS SIGNqMINUS SIGNaBREVEaDOT ABOVEaRING ABOVE",
    "2DB aOGONEKaSMALL TILDEaDOUBLE ACUTE ACCENTaMODIFIER LETTER RHOTIC HOOKqCROSS ACCENTqSMALL GAMMAwLwSwX",
    "2E4 wREVERSED GLOTTAL STOPqEXTRA-HIGH TONE BARqHIGH TONE BARqMID TONE BARqLOW TONE BARqEXTRA-LOW TONE BAR",
    "2EA qYIN DEPARTING TONE MARKrANG DEPARTING TONE MARKqVOICINGqUNASPIRATEDqDOUBLE APOSTROPHEqLOW DOWN ARROWHEAD",
    "2F0 uUP ARROWHEADuLEFT ARROWHEADuRIGHT ARROWHEADwNGqMIDDLE GRAVE ACCENTxDOUBLE GRAVE ACCENTzUBLE ACUTE ACCENT",
    "2F7 qLOW TILDEqRAISED COLONqBEGIN HIGH TONEqEND HIGH TONEqBEGIN LOW TONEqEND LOW TONEqSHELFqOPEN SHELF",
    "2FF qLOW LEFT ARROWaCOMBINING GRAVE ACCENTkACUTE ACCENTkCIRCUMFLEX ACCENTkTILDEkMACRONkOVERLINEkBREVEkDOT ABOVE",
    "308 lIAERESISkHOOK ABOVEkRING ABOVEkDOUBLE ACUTE ACCENTkCARONkVERTICAL LINE ABOVEkDOUBLE VERTICAL LINE ABOVE",
    "30F rGRAVE ACCENTkCANDRABINDUkINVERTED BREVEkTURNED COMMA ABOVEkCOMMA ABOVEkREVERSED COMMA ABOVE",
    "315 kCOMMA ABOVE RIGHTkGRAVE ACCENT BELOWkACUTE ACCENT BELOWkLEFT TACK BELOWkRIGHT TACK BELOWkLEFT ANGLE ABOVE",
    "31B kHORNkLEFT HALF RING BELOWkUP TACK BELOWkDOWN TACK BELOWkPLUS SIGN BELOWkMINUS SIGN BELOW",
    "321 kPALATALIZED HOOK BELOWkRETROFLEX HOOK BELOWkDOT BELOWlIAERESIS BELOWkRING BELOWkCOMMA BELOWlEDILLAkOGONEK",
    "329 kVERTICAL LINE BELOWkBRIDGE BELOWkINVERTED DOUBLE ARCH BELOWkCARON BELOWlIRCUMFLEX ACCENT BELOWkBREVE BELOW",
    "32F kINVERTED BREVE BELOWkTILDE BELOWkMACRON BELOWkLOW LINEkDOUBLE LOW LINEkTILDE OVERLAYkSHORT STROKE OVERLAY",
    "336 kLONG STROKE OVERLAYkSHORT SOLIDUS OVERLAYkLONG SOLIDUS OVERLAYkRIGHT HALF RING BELOWkINVERTED BRIDGE BELOW",
    "33B kSQUARE BELOWlEAGULL BELOWkX ABOVEkVERTICAL TILDEkDOUBLE OVERLINEkGRAVE TONE MARKkACUTE TONE MARK",
    "342 kGREEK PERISPOMENIqKORONISqDIALYTIKA TONOSqYPOGEGRAMMENIkBRIDGE ABOVEkEQUALS SIGN BELOW",
    "348 kDOUBLE VERTICAL LINE BELOWkLEFT ANGLE BELOWkNOT TILDE ABOVEkHOMOTHETIC ABOVEkALMOST EQUAL TO ABOVE",
    "34D kLEFT RIGHT ARROW BELOWkUPWARDS ARROW BELOWkGRAPHEME JOINERkRIGHT ARROWHEAD ABOVEkLEFT HALF RING ABOVE",
    "352 kFERMATAkX BELOWkLEFT ARROWHEAD BELOWkRIGHT ARROWHEAD BELOWz AND UP ARROWHEAD BELOWqHALF RING ABOVE",
    "358 kDOT ABOVE RIGHTkASTERISK BELOWkDOUBLE RING BELOWkZIGZAG ABOVEkDOUBLE BREVE BELOWwrMACRONx BELOWrTILDE",
    "361 rINVERTED BREVErRIGHTWARDS ARROW BELOWkLATIN SMALL LETTER AzTER EzTER IzTER OzTER UzTER CzTER DzTER HzTER M",
    "36C zTER RzTER TzTER VzTER XaGREEK CAPITAL LETTER HETAgSMALL LETTER HETAgCAPITAL LETTER ARCHAIC SAMPI",
    "373 gSMALL LETTER ARCHAIC SAMPIgNUMERAL SIGNgLOWER NUMERAL SIGNgCAPITAL LETTER PAMPHYLIAN DIGAMMA",
    "377 gSMALL LETTER PAMPHYLIAN DIGAMMA",
    "37A gYPOGEGRAMMENIgSMALL REVERSED LUNATE SIGMA SYMBOLmDOTTED LUNATE SIGMA SYMBOL",
    "37D mREVERSED DOTTED LUNATE SIGMA SYMBOLgQUESTION MARKgCAPITAL LETTER YOT",
    "384 gTONOSgDIALYTIKA TONOSgCAPITAL LETTER ALPHA WITH TONOSgANO TELEIAgCAPITAL LETTER EPSILON WITH TONOS",
    "389 wTA WITH TONOSvIOTA WITH TONOS",
    "38C vOMICRON WITH TONOS",
    "38E vUPSILON WITH TONOSvOMEGA WITH TONOSgSMALL LETTER IOTA WITH DIALYTIKA AND TONOSgCAPITAL LETTER ALPHAvBETA",
    "393 vGAMMAvDELTAvEPSILONvZETAvETAvTHETAvIOTAvKAPPAvLAMDAvMUvNUvXIvOMICRONvPIvRHO",
    "3A3 vSIGMAvTAUvUPSILONvPHIvCHIvPSIvOMEGAvIOTA WITH DIALYTIKAvUPSILON WITH DIALYTIKA",
    "3AC gSMALL LETTER ALPHA WITH TONOStEPSILON WITH TONOSuTA WITH TONOStIOTA WITH TONOS",
    "3B0 tUPSILON WITH DIALYTIKA AND TONOStALPHAtBETAtGAMMAtDELTAtEPSILONtZETAtETAtTHETAtIOTAtKAPPAtLAMDAtMUtNUtXI",
    "3BF tOMICRONtPItRHOtFINAL SIGMAtSIGMAtTAUtUPSILONtPHItCHItPSItOMEGAtIOTA WITH DIALYTIKAtUPSILON WITH DIALYTIKA",
    "3CC tOMICRON WITH TONOStUPSILON WITH TONOStOMEGA WITH TONOSgCAPITAL KAI SYMBOLgBETA SYMBOLgTHETA SYMBOL",
    "3D2 gUPSILON WITH HOOK SYMBOLtACUTE AND HOOK SYMBOLtDIAERESIS AND HOOK SYMBOLgPHI SYMBOLhI SYMBOLgKAI SYMBOL",
    "3D8 gLETTER ARCHAIC KOPPAgSMALL LETTER ARCHAIC KOPPAgLETTER STIGMAgSMALL LETTER STIGMAgLETTER DIGAMMA",
    "3DD gSMALL LETTER DIGAMMAgLETTER KOPPAgSMALL LETTER KOPPAgLETTER SAMPIgSMALL LETTER SAMPI",
    "3E2 aCOPTIC CAPITAL LETTER SHEIhSMALL LETTER SHEIhCAPITAL LETTER FEIhSMALL LETTER FEIhCAPITAL LETTER KHEI",
    "3E7 hSMALL LETTER KHEIhCAPITAL LETTER HORIhSMALL LETTER HORIhCAPITAL LETTER GANGIAhSMALL LETTER GANGIA",
    "3EC hCAPITAL LETTER SHIMAhSMALL LETTER SHIMAhCAPITAL LETTER DEIhSMALL LETTER DEIaGREEK KAPPA SYMBOLgRHO SYMBOL",
    "3F2 gLUNATE SIGMA SYMBOLhETTER YOTgCAPITAL THETA SYMBOLgLUNATE EPSILON SYMBOLgREVERSED LUNATE EPSILON SYMBOL",
    "3F7 gCAPITAL LETTER SHOgSMALL LETTER SHOgCAPITAL LUNATE SIGMA SYMBOLpETTER SANgSMALL LETTER SAN",
    "3FC gRHO WITH STROKE SYMBOLgCAPITAL REVERSED LUNATE SIGMA SYMBOLoDOTTED LUNATE SIGMA SYMBOL",
    "3FF oREVERSED DOTTED LUNATE SIGMA SYMBOLaCYRILLIC CAPITAL LETTER IE WITH GRAVEzOyDJEyGJEyUKRAINIAN IEyDZE",
    "406 yBYELORUSSIAN-UKRAINIAN IyYIyJEyLJEyNJEyTSHEyKJEyI WITH GRAVEySHORT UyDZHEyAyBEyVEyGHEyDEyIEyZHEzEyIySHORT I",
    "41A yKAyELzMzNyOyPEyERzSyTEyUyEFyHAyTSEyCHEySHAzHCHAyHARD SIGNyYERUySOFT SIGNyEyYUzAjSMALL LETTER AwBEwVEwGHEwDE",
    "435 wIEwZHExEwIwSHORT IwKAwELxMxNwOwPEwERxSwTEwUwEFwHAwTSEwCHEwSHAyCHAwHARD SIGNwYERUwSOFT SIGNwEwYUxA",
    "450 wIE WITH GRAVExOwDJEwGJEwUKRAINIAN IEwDZEwBYELORUSSIAN-UKRAINIAN IwYIwJEwLJEwNJEwTSHEwKJEwI WITH GRAVE",
    "45E wSHORT UwDZHEjCAPITAL LETTER OMEGAjSMALL LETTER OMEGAjCAPITAL LETTER YATjSMALL LETTER YAT",
    "464 jCAPITAL LETTER IOTIFIED EjSMALL LETTER IOTIFIED EjCAPITAL LETTER LITTLE YUSjSMALL LETTER LITTLE YUS",
    "468 jCAPITAL LETTER IOTIFIED LITTLE YUSjSMALL LETTER IOTIFIED LITTLE YUSjCAPITAL LETTER BIG YUS",
    "46B jSMALL LETTER BIG YUSjCAPITAL LETTER IOTIFIED BIG YUSjSMALL LETTER IOTIFIED BIG YUSjCAPITAL LETTER KSI",
    "46F jSMALL LETTER KSIjCAPITAL LETTER PSIjSMALL LETTER PSIjCAPITAL LETTER FITAjSMALL LETTER FITA",
    "474 jCAPITAL LETTER IZHITSAjSMALL LETTER IZHITSAjCAPITAL LETTER IZHITSA WITH DOUBLE GRAVE ACCENT",
    "477 jSMALL LETTER IZHITSA WITH DOUBLE GRAVE ACCENTjCAPITAL LETTER UKjSMALL LETTER UKjCAPITAL LETTER ROUND OMEGA",
    "47B jSMALL LETTER ROUND OMEGAjCAPITAL LETTER OMEGA WITH TITLOjSMALL LETTER OMEGA WITH TITLOjCAPITAL LETTER OT",
    "47F jSMALL LETTER OTjCAPITAL LETTER KOPPAjSMALL LETTER KOPPAjTHOUSANDS SIGNbOMBINING CYRILLIC TITLO",
    "484 tPALATALIZATIONtDASIA PNEUMATAtPSILI PNEUMATAuOKRYTIEtHUNDRED THOUSANDS SIGNtMILLIONS SIGN",
    "48A bYRILLIC CAPITAL LETTER SHORT I WITH TAILjSMALL LETTER SHORT I WITH TAILjCAPITAL LETTER SEMISOFT SIGN",
    "48D jSMALL LETTER SEMISOFT SIGNjCAPITAL LETTER ER WITH TICKjSMALL LETTER ER WITH TICK",
    "490 jCAPITAL LETTER GHE WITH UPTURNjSMALL LETTER GHE WITH UPTURNjCAPITAL LETTER GHE WITH STROKE",
    "493 jSMALL LETTER GHE WITH STROKEjCAPITAL LETTER GHE WITH MIDDLE HOOKjSMALL LETTER GHE WITH MIDDLE HOOK",
    "496 jCAPITAL LETTER ZHE WITH DESCENDERjSMALL LETTER ZHE WITH DESCENDERjCAPITAL LETTER ZE WITH DESCENDER",
    "499 jSMALL LETTER ZE WITH DESCENDERjCAPITAL LETTER KA WITH DESCENDERjSMALL LETTER KA WITH DESCENDER",
    "49C jCAPITAL LETTER KA WITH VERTICAL STROKEjSMALL LETTER KA WITH VERTICAL STROKEjCAPITAL LETTER KA WITH STROKE",
    "49F jSMALL LETTER KA WITH STROKEjCAPITAL LETTER BASHKIR KAjSMALL LETTER BASHKIR KA",
    "4A2 jCAPITAL LETTER EN WITH DESCENDERjSMALL LETTER EN WITH DESCENDERjCAPITAL LIGATURE EN GHE",
    "4A5 jSMALL LIGATURE EN GHEjCAPITAL LETTER PE WITH MIDDLE HOOKjSMALL LETTER PE WITH MIDDLE HOOK",
    "4A8 jCAPITAL LETTER ABKHASIAN HAjSMALL LETTER ABKHASIAN HAjCAPITAL LETTER ES WITH DESCENDER",
    "4AB jSMALL LETTER ES WITH DESCENDERjCAPITAL LETTER TE WITH DESCENDERjSMALL LETTER TE WITH DESCENDER",
    "4AE jCAPITAL LETTER STRAIGHT UjSMALL LETTER STRAIGHT UjCAPITAL LETTER STRAIGHT U WITH STROKE",
    "4B1 jSMALL LETTER STRAIGHT U WITH STROKEjCAPITAL LETTER HA WITH DESCENDERjSMALL LETTER HA WITH DESCENDER",
    "4B4 jCAPITAL LIGATURE TE TSEjSMALL LIGATURE TE TSEjCAPITAL LETTER CHE WITH DESCENDER",
    "4B7 jSMALL LETTER CHE WITH DESCENDERjCAPITAL LETTER CHE WITH VERTICAL STROKE",
    "4B9 jSMALL LETTER CHE WITH VERTICAL STROKEjCAPITAL LETTER SHHAjSMALL LETTER SHHAjCAPITAL LETTER ABKHASIAN CHE",
    "4BD jSMALL LETTER ABKHASIAN CHEjCAPITAL LETTER ABKHASIAN CHE WITH DESCENDER",
    "4BF jSMALL LETTER ABKHASIAN CHE WITH DESCENDERjLETTER PALOCHKAjCAPITAL LETTER ZHE WITH BREVE",
    "4C2 jSMALL LETTER ZHE WITH BREVEjCAPITAL LETTER KA WITH HOOKjSMALL LETTER KA WITH HOOK",
    "4C5 jCAPITAL LETTER EL WITH TAILjSMALL LETTER EL WITH TAILjCAPITAL LETTER EN WITH HOOKjSMALL LETTER EN WITH HOOK",
    "4C9 jCAPITAL LETTER EN WITH TAILjSMALL LETTER EN WITH TAILjCAPITAL LETTER KHAKASSIAN CHE",
    "4CC jSMALL LETTER KHAKASSIAN CHEjCAPITAL LETTER EM WITH TAILjSMALL LETTER EM WITH TAILwPALOCHKA",
    "4D0 jCAPITAL LETTER A WITH BREVEjSMALL LETTER A WITH BREVEjCAPITAL LETTER A WITH DIAERESIS",
    "4D3 jSMALL LETTER A WITH DIAERESISjCAPITAL LIGATURE A IEjSMALL LIGATURE A IEjCAPITAL LETTER IE WITH BREVE",
    "4D7 jSMALL LETTER IE WITH BREVEjCAPITAL LETTER SCHWAjSMALL LETTER SCHWAjCAPITAL LETTER SCHWA WITH DIAERESIS",
    "4DB jSMALL LETTER SCHWA WITH DIAERESISjCAPITAL LETTER ZHE WITH DIAERESISjSMALL LETTER ZHE WITH DIAERESIS",
    "4DE jCAPITAL LETTER ZE WITH DIAERESISjSMALL LETTER ZE WITH DIAERESISjCAPITAL LETTER ABKHASIAN DZE",
    "4E1 jSMALL LETTER ABKHASIAN DZEjCAPITAL LETTER I WITH MACRONjSMALL LETTER I WITH MACRON",
    "4E4 jCAPITAL LETTER I WITH DIAERESISjSMALL LETTER I WITH DIAERESISjCAPITAL LETTER O WITH DIAERESIS",
    "4E7 jSMALL LETTER O WITH DIAERESISjCAPITAL LETTER BARRED OjSMALL LETTER BARRED O",
    "4EA jCAPITAL LETTER BARRED O WITH DIAERESISjSMALL LETTER BARRED O WITH DIAERESISjCAPITAL LETTER E WITH DIAERESIS",
    "4ED jSMALL LETTER E WITH DIAERESISjCAPITAL LETTER U WITH MACRONjSMALL LETTER U WITH MACRON",
    "4F0 jCAPITAL LETTER U WITH DIAERESISjSMALL LETTER U WITH DIAERESISjCAPITAL LETTER U WITH DOUBLE ACUTE",
    "4F3 jSMALL LETTER U WITH DOUBLE ACUTEjCAPITAL LETTER CHE WITH DIAERESISjSMALL LETTER CHE WITH DIAERESIS",
    "4F6 jCAPITAL LETTER GHE WITH DESCENDERjSMALL LETTER GHE WITH DESCENDERjCAPITAL LETTER YERU WITH DIAERESIS",
    "4F9 jSMALL LETTER YERU WITH DIAERESISjCAPITAL LETTER GHE WITH STROKE AND HOOK",
    "4FB jSMALL LETTER GHE WITH STROKE AND HOOKjCAPITAL LETTER HA WITH HOOKjSMALL LETTER HA WITH HOOK",
    "4FE jCAPITAL LETTER HA WITH STROKEjSMALL LETTER HA WITH STROKEjCAPITAL LETTER KOMI DEjSMALL LETTER KOMI DE",
    "502 jCAPITAL LETTER KOMI DJEjSMALL LETTER KOMI DJEjCAPITAL LETTER KOMI ZJEjSMALL LETTER KOMI ZJE",
    "506 jCAPITAL LETTER KOMI DZJEjSMALL LETTER KOMI DZJEjCAPITAL LETTER KOMI LJEjSMALL LETTER KOMI LJE",
    "50A jCAPITAL LETTER KOMI NJEjSMALL LETTER KOMI NJEjCAPITAL LETTER KOMI SJEjSMALL LETTER KOMI SJE",
    "50E jCAPITAL LETTER KOMI TJEjSMALL LETTER KOMI TJEjCAPITAL LETTER REVERSED ZEjSMALL LETTER REVERSED ZE",
    "512 jCAPITAL LETTER EL WITH HOOKjSMALL LETTER EL WITH HOOKjCAPITAL LETTER LHAjSMALL LETTER LHA",
    "516 jCAPITAL LETTER RHAjSMALL LETTER RHAjCAPITAL LETTER YAEjSMALL LETTER YAEjCAPITAL LETTER QAjSMALL LETTER QA",
    "51C jCAPITAL LETTER WEjSMALL LETTER WEjCAPITAL LETTER ALEUT KAjSMALL LETTER ALEUT KA",
    "520 jCAPITAL LETTER EL WITH MIDDLE HOOKjSMALL LETTER EL WITH MIDDLE HOOKjCAPITAL LETTER EN WITH MIDDLE HOOK",
    "523 jSMALL LETTER EN WITH MIDDLE HOOKjCAPITAL LETTER PE WITH DESCENDERjSMALL LETTER PE WITH DESCENDER",
    "526 jCAPITAL LETTER SHHA WITH DESCENDERjSMALL LETTER SHHA WITH DESCENDERjCAPITAL LETTER EN WITH LEFT HOOK",
    "529 jSMALL LETTER EN WITH LEFT HOOKjCAPITAL LETTER DZZHEjSMALL LETTER DZZHEjCAPITAL LETTER DCHE",
    "52D jSMALL LETTER DCHEjCAPITAL LETTER EL WITH DESCENDERjSMALL LETTER EL WITH DESCENDER",
    "531 aARMENIAN CAPITAL LETTER AYByBENyGIMyDAyECHyZAyEHzTyTOyZHEyINIyLIWNyXEHyCAyKENyHOyJAyGHADyCHEHyMENyYIyNOW",
    "547 ySHAyVOyCHAyPEHyJHEHyRAySEHyVEWyTIWNyREHyCOyYIWNyPIWRyKEHyOHyFEH",
    "559 jMODIFIER LETTER LEFT HALF RINGjAPOSTROPHEjEMPHASIS MARKkXCLAMATION MARKjCOMMAjQUESTION MARK",
    "55F jABBREVIATION MARKjSMALL LETTER TURNED AYBwAYBwBENwGIMwDAwECHwZAwEHxTwTOwZHEwINIwLIWNwXEHwCAwKENwHOwJAwGHAD",
    "573 wCHEHwMENwYIwNOWwSHAwVOwCHAwPEHwJHEHwRAwSEHwVEWwTIWNwREHwCOwYIWNwPIWRwKEHwOHwFEHqIGATURE ECH YIWN",
    "588 qETTER YI WITH STROKEjFULL STOPjHYPHEN",
    "58D aRIGHT-FACING ARMENIAN ETERNITY SIGNaLEFT-FACING ARMENIAN ETERNITY SIGNaARMENIAN DRAM SIGN",
    "591 aHEBREW ACCENT ETNAHTAoSEGOLpHALSHELEToZAQEF QATANuGADOLoTIPEHAoREVIAoZARQAoPASHTAoYETIVoTEVIRoGERESH",
    "59D u MUQDAMrSHAYIMoQARNEY PARAoTELISHA GEDOLAoPAZERoATNAH HAFUKHoMUNAHpAHAPAKHpERKHAu KEFULAoDARGAoQADMA",
    "5A9 oTELISHA QETANAoYERAH BEN YOMOoOLEoILUYoDEHIoZINORhMARK MASORA CIRCLEhPOINT SHEVAnHATAF SEGOLtPATAHtQAMATS",
    "5B4 oIRIQnTSEREnSEGOLnPATAHnQAMATSnHOLAMs HASER FOR VAVnQUBUTSnDAGESH OR MAPIQnMETEGiUNCTUATION MAQAFiOINT RAFE",
    "5C0 iUNCTUATION PASEQiOINT SHIN DOToIN DOTiUNCTUATION SOF PASUQhMARK UPPER DOTmLOWER DOThPUNCTUATION NUN HAFUKHA",
    "5C7 iOINT QAMATS QATAN",
    "5D0 hLETTER ALEFoBEToGIMELoDALEToHEoVAVoZAYINoHEToTEToYODoFINAL KAFoKAFoLAMEDoFINAL MEMoMEMoFINAL NUNoNUNoSAMEKH",
    "5E2 oAYINoFINAL PEoPEoFINAL TSADIoTSADIoQOFoRESHoSHINoTAV",
    "5EF hYOD TRIANGLEhLIGATURE YIDDISH DOUBLE VAVyVAV YODyDOUBLE YODhPUNCTUATION GERESHwSHAYIM",
    "600 aARABIC NUMBER SIGNhSIGN SANAHhFOOTNOTE MARKERhSIGN SAFHAoMVAThNUMBER MARK ABOVEg-INDIC CUBE ROOT",
    "607 nFOURTH ROOTg RAYg-INDIC PER MILLE SIGNrTEN THOUSAND SIGNbFGHANI SIGNbRABIC COMMAhDATE SEPARATOR",
    "60E hPOETIC VERSE SIGNhSIGN MISRAmSALLALLAHOU ALAYHE WASSALLAMmALAYHE ASSALLAMmRAHMATULLAH ALAYHE",
    "613 oDI ALLAHOU ANHUmTAKHALLUSiMALL HIGH TAHsLIGATURE ALEF WITH LAM WITH YEHsZAINnFATHAnDAMMAnKASRAiEMICOLON",
    "61C hLETTER MARKhEND OF TEXT MARKhTRIPLE DOT PUNCTUATION MARKhQUESTION MARKhLETTER KASHMIRI YEHoHAMZA",
    "622 oALEF WITH MADDA ABOVEyHAMZA ABOVEoWAW WITH HAMZA ABOVEoALEF WITH HAMZA BELOWoYEH WITH HAMZA ABOVEoALEFoBEH",
    "629 oTEH MARBUTArpHEHoJEEMoHAHoKHAHoDALoTHALoREHoZAINoSEENpHEENpADoDADoTAHoZAHoAINoGHAIN",
    "63B oKEHEH WITH TWO DOTS ABOVEzTHREE DOTS BELOWoFARSI YEH WITH INVERTED VzITH TWO DOTS ABOVE",
    "63F zITH THREE DOTS ABOVEhTATWEELhLETTER FEHoQAFoKAFoLAMoMEEMoNOONoHEHoWAWoALEF MAKSURAoYEHhFATHATANhDAMMATAN",
    "64D hKASRATANhFATHAhDAMMAhKASRAhSHADDAiUKUNhMADDAH ABOVEhHAMZA ABOVEnBELOWhSUBSCRIPT ALEFhINVERTED DAMMA",
    "658 hMARK NOON GHUNNAhZWARAKAYhVOWEL SIGN SMALL V ABOVEsINVERTED SMALL V ABOVEsDOT BELOWhREVERSED DAMMA",
    "65E hFATHA WITH TWO DOTShWAVY HAMZA BELOWg-INDIC DIGIT ZEROtONEtTWOuHREEtFOURuIVEtSIXuEVENtEIGHTtNINE",
    "66A g PERCENT SIGNhDECIMAL SEPARATORhTHOUSANDS SEPARATORhFIVE POINTED STARhLETTER DOTLESS BEHwQAF",
    "670 oSUPERSCRIPT ALEFoALEF WASLAuITH WAVY HAMZA ABOVEzAVY HAMZA BELOWoHIGH HAMZAy ALEFzWAWoU WITH HAMZA ABOVE",
    "678 oHIGH HAMZA YEHoTTEHsEHoBEEHoTEH WITH RINGxTHREE DOTS ABOVE DOWNWARDSoPEHoTEHEHoBEHEHoHAH WITH HAMZA ABOVE",
    "682 xTWO DOTS VERTICAL ABOVEoNYEHoDYEHoHAH WITH THREE DOTS ABOVEoTCHEHtEHoDDALpAL WITH RINGxDOT BELOW",
    "68B zT BELOW AND SMALL TAHqHALpDAHALpULpAL WITH THREE DOTS ABOVE DOWNWARDSxFOUR DOTS ABOVEoRREHpEH WITH SMALL V",
    "693 xRINGxDOT BELOWxSMALL V BELOWxDOT BELOW AND DOT ABOVExTWO DOTS ABOVEoJEHoREH WITH FOUR DOTS ABOVE",
    "69A oSEEN WITH DOT BELOW AND DOT ABOVEyTHREE DOTS BELOWzHREE DOTS BELOW AND THREE DOTS ABOVE",
    "69D pAD WITH TWO DOTS BELOWyHREE DOTS ABOVEoTAH WITH THREE DOTS ABOVEoAIN WITH THREE DOTS ABOVEoDOTLESS FEH",
    "6A2 oFEH WITH DOT MOVED BELOWzT BELOWoVEHoFEH WITH THREE DOTS BELOWoPEHEHoQAF WITH DOT ABOVExTHREE DOTS ABOVE",
    "6A9 oKEHEHoSWASH KAFoKAF WITH RINGxDOT ABOVEoNGoKAF WITH THREE DOTS BELOWoGAFr WITH RINGoNGOEH",
    "6B2 oGAF WITH TWO DOTS BELOWpUEHpAF WITH THREE DOTS ABOVEoLAM WITH SMALL VxDOT ABOVExTHREE DOTS ABOVE",
    "6B8 zREE DOTS BELOWoNOON WITH DOT BELOWtGHUNNAoRNOONoNOON WITH RINGyTHREE DOTS ABOVEoHEH DOACHASHMEE",
    "6BF oTCHEH WITH DOT ABOVEoHEH WITH YEH ABOVEsGOALw WITH HAMZA ABOVEoTEH MARBUTA GOALoWAW WITH RINGoKIRGHIZ OEoOE",
    "6C7 oUoYUoKIRGHIZ YUoWAW WITH TWO DOTS ABOVEoVEoFARSI YEHoYEH WITH TAILxSMALL VoWAW WITH DOT ABOVEoE",
    "6D1 oYEH WITH THREE DOTS BELOWsBARREEy WITH HAMZA ABOVEhFULL STOPhLETTER AE",
    "6D6 hSMALL HIGH LIGATURE SAD WITH LAM WITH ALEF MAKSURAzE QAF WITH LAM WITH ALEF MAKSURAsMEEM INITIAL FORM",
    "6D9 sLAM ALEFsJEEMsTHREE DOTSsSEENhEND OF AYAHhSTART OF RUB EL HIZBiMALL HIGH ROUNDED ZERO",
    "6E0 sUPRIGHT RECTANGULAR ZEROsDOTLESS HEAD OF KHAHsMEEM ISOLATED FORMnLOW SEENnHIGH MADDAnWAWnYEHnHIGH YEHsNOON",
    "6E9 hPLACE OF SAJDAHhEMPTY CENTRE LOW STOPuHIGH STOPhROUNDED HIGH STOP WITH FILLED CENTREhSMALL LOW MEEM",
    "6EE hLETTER DAL WITH INVERTED VoREH WITH INVERTED VaEXTENDED ARABIC-INDIC DIGIT ZEROzIT ONEzIT TWOzIT THREE",
    "6F4 zIT FOURzIT FIVEzIT SIXzIT SEVENzIT EIGHTzIT NINEaARABIC LETTER SHEEN WITH DOT BELOWoDAD WITH DOT BELOW",
    "6FC oGHAIN WITH DOT BELOWhSIGN SINDHI AMPERSANDtPOSTPOSITION MENhLETTER HEH WITH INVERTED V",
    "700 aSYRIAC END OF PARAGRAPHhSUPRALINEAR FULL STOPjBLINEAR FULL STOPjPRALINEAR COLONjBLINEAR COLON",
    "705 hHORIZONTAL COLONhCOLON SKEWED LEFTuRIGHThSUPRALINEAR COLON SKEWED LEFTjBLINEAR COLON SKEWED RIGHT",
    "70A hCONTRACTIONhHARKLEAN OBELUSqMETOBELUSqASTERISCUS",
    "70F hABBREVIATION MARKhLETTER ALAPHoSUPERSCRIPT ALAPHoBETHoGAMALt GARSHUNIoDALATHpOTLESS DALATH RISHoHEoWAWoZAIN",
    "71A oHETHoTETHs GARSHUNIoYUDHs HEoKAPHoLAMADHoMIMoNUNoSEMKATHoFINAL SEMKATHoEoPEoREVERSED PEoSADHEoQAPHoRISH",
    "72B oSHINoTAWoPERSIAN BHETHwGHAMALwDHALATHhPTHAHA ABOVEoBELOWoDOTTEDhZQAPHA ABOVEoBELOWoDOTTEDhRBASA ABOVEnBELOW",
    "738 hDOTTED ZLAMA HORIZONTALuANGULARhHBASA ABOVEnBELOWm-ESASA DOTTEDhESASA ABOVEnBELOWhRWAHAhFEMININE DOT",
    "741 hQUSHSHAYAhRUKKAKHAhTWO VERTICAL DOTS ABOVEzBELOWiHREE DOTS ABOVEsBELOWhOBLIQUE LINE ABOVEuBELOWhMUSIC",
    "74A hBARREKH",
    "74D hLETTER SOGDIAN ZHAINwKHAPHwFEaARABIC LETTER BEH WITH THREE DOTS HORIZONTALLY BELOW",
    "751 xDOT BELOW AND THREE DOTS ABOVExTHREE DOTS POINTING UPWARDS BELOW",
    "753 zREE DOTS POINTING UPWARDS BELOW AND TWO DOTS ABOVEyWO DOTS BELOW AND DOT ABOVExINVERTED SMALL V BELOW",
    "756 xSMALL VoHAH WITH TWO DOTS ABOVEyHREE DOTS POINTING UPWARDS BELOW",
    "759 oDAL WITH TWO DOTS VERTICALLY BELOW AND SMALL TAHxINVERTED SMALL V BELOWoREH WITH STROKE",
    "75C oSEEN WITH FOUR DOTS ABOVEoAIN WITH TWO DOTS ABOVEyHREE DOTS POINTING DOWNWARDS ABOVE",
    "75F yWO DOTS VERTICALLY ABOVEoFEH WITH TWO DOTS BELOWyHREE DOTS POINTING UPWARDS BELOWoKEHEH WITH DOT ABOVE",
    "763 zTHREE DOTS ABOVEzTHREE DOTS POINTING UPWARDS BELOWoMEEM WITH DOT ABOVEzOT BELOWoNOON WITH TWO DOTS BELOW",
    "768 ySMALL TAHzMALL VoLAM WITH BARoREH WITH TWO DOTS VERTICALLY ABOVExHAMZA ABOVE",
    "76D oSEEN WITH TWO DOTS VERTICALLY ABOVEoHAH WITH SMALL ARABIC LETTER TAH BELOW",
    "76F zALL ARABIC LETTER TAH AND TWO DOTSoSEEN WITH SMALL ARABIC LETTER TAH AND TWO DOTS",
    "771 oREH WITH SMALL ARABIC LETTER TAH AND TWO DOTSoHAH WITH SMALL ARABIC LETTER TAH ABOVE",
    "773 oALEF WITH EXTENDED ARABIC-INDIC DIGIT TWO ABOVEzXTENDED ARABIC-INDIC DIGIT THREE ABOVE",
    "775 oFARSI YEH WITH EXTENDED ARABIC-INDIC DIGIT TWO ABOVEzITH EXTENDED ARABIC-INDIC DIGIT THREE ABOVE",
    "777 zITH EXTENDED ARABIC-INDIC DIGIT FOUR BELOWoWAW WITH EXTENDED ARABIC-INDIC DIGIT TWO ABOVE",
    "779 zTENDED ARABIC-INDIC DIGIT THREE ABOVEoYEH BARREE WITH EXTENDED ARABIC-INDIC DIGIT TWO ABOVE",
    "77B zWITH EXTENDED ARABIC-INDIC DIGIT THREE ABOVEoHAH WITH EXTENDED ARABIC-INDIC DIGIT FOUR BELOW",
    "77D oSEEN WITH EXTENDED ARABIC-INDIC DIGIT FOUR ABOVEyINVERTED VoKAF WITH TWO DOTS ABOVEaTHAANA LETTER HAA",
    "781 oSHAVIYANIoNOONUoRAAoBAAoLHAVIYANIoKAAFUoALIFUoVAAVUoMEEMUoFAAFUoDHAALUoTHAAoLAAMUoGAAFUpNAVIYANIoSEENU",
    "791 oDAVIYANIoZAVIYANIoTAVIYANIoYAAoPAVIYANIoJAVIYANIoCHAVIYANIoTTAAoHHAAoKHAAoTHAALUoZAAoSHEENUpAADHUoDAADHUoTO",
    "7A1 oZOoAINUoGHAINUoQAAFUoWAAVUhABAFILIiABAAFILIhIBIFILIhEEBEEFILIhUBUFILIhOOBOOFILIhEBEFILIiYBEYFILIhOBOFILI",
    "7AF iABOAFILIhSUKUNhLETTER NAA",
    "7C0 aNKO DIGIT ZEROkONEkTWOlHREEkFOURlIVEkSIXlEVENkEIGHTkNINEeLETTER AlEElIlElUlOOmlDAGBASINNAlNlBAlPAlTAlJAlCHA",
    "7D8 lDAlRAmRAlSAlGBAlFAlKAlLAlNA WOLOSOlMAlNYAmAlHAlWAlYAlNYA WOLOSOlJONA JAqCHAqRAeCOMBINING SHORT HIGH TONE",
    "7EC uLOW TONEuRISING TONEoLONG DESCENDING TONEtHIGH TONEtLOW TONEtRISING TONEoNASALIZATION MARKoDOUBLE DOT ABOVE",
    "7F4 eHIGH TONE APOSTROPHEeLOW TONE APOSTROPHEeSYMBOL OO DENNENlGBAKURUNENeCOMMAeEXCLAMATION MARKeLAJANYALAN",
    "7FD eDANTAYALANfOROME SIGNeTAMAN SIGNaSAMARITAN LETTER ALAFrBITrGAMANrDALATrIYrBAArZENrITrTITrYUTrKAAFrLABATrMIM",
    "80D rNUNrSINGAATrINrFIrTSAADIYrQUFrRISHrSHANrTAAFkMARK INr-ALAFpOCCLUSIONpDAGESHlODIFIER LETTER EPENTHETIC YUT",
    "81B lARK EPENTHETIC YUTkVOWEL SIGN LONG EvEvOVERLONG AAvLONG AAvAAvOVERLONG AvLONG AvAkMODIFIER LETTER SHORT A",
    "825 kVOWEL SIGN SHORT AvLONG UvUkMODIFIER LETTER IkVOWEL SIGN LONG IvIvOvSUKUNkMARK NEQUDAA",
    "830 kPUNCTUATION NEQUDAAwAFSAAQxNGEDwBAUwATMAAUwSHIYYAALAAkABBREVIATION MARKkPUNCTUATION MELODIC QITSAwZIQAA",
    "839 wQITSAwZAEFwTURUwARKAANUwSOF MASHFAATwANNAAU",
    "840 aMANDAIC LETTER HALQApABqGqDqHpUSHENNApAZpITpATTqKSArqLqMqNqSpINpAPqSZqQqRqSHqTpDUSHENNApKADpAIN",
    "859 iAFFRICATION MARKiVOCALIZATION MARKiGEMINATION MARK",
    "85E iPUNCTUATION",
    "860 aSYRIAC LETTER MALAYALAM NGAyJAyNYAyTTAyNNAzNNAyBHAyRAyLLAzLLAySSA",
    "870 aARABIC LETTER ALEF WITH ATTACHED FATHAzTTACHED TOP RIGHT FATHAyRIGHT MIDDLE STROKEyLEFT MIDDLE STROKE",
    "874 yATTACHED KASRAzTTACHED BOTTOM RIGHT KASRAzTTACHED ROUND DOT ABOVEzTTACHED RIGHT ROUND DOT",
    "878 zTTACHED LEFT ROUND DOTzTTACHED ROUND DOT BELOWyDOT ABOVEyATTACHED TOP RIGHT FATHA AND DOT ABOVE",
    "87C yRIGHT MIDDLE STROKE AND DOT ABOVEyATTACHED BOTTOM RIGHT KASRA AND DOT ABOVE",
    "87E zTTACHED TOP RIGHT FATHA AND LEFT RINGyRIGHT MIDDLE STROKE AND LEFT RING",
    "880 yATTACHED BOTTOM RIGHT KASRA AND LEFT RINGzTTACHED RIGHT HAMZAzTTACHED LEFT HAMZA",
    "883 hTATWEEL WITH OVERSTRUCK HAMZAzTRUCK WAWuTWO DOTS BELOWhLETTER THIN YEHhBASELINE ROUND DOThRAISED ROUND DOT",
    "889 hLETTER NOON WITH INVERTED SMALL VoHAH WITH INVERTED SMALL V BELOWoTAH WITH DOT BELOWxTHREE DOTS BELOW",
    "88D oKEHEH WITH TWO DOTS VERTICALLY BELOWhVERTICAL TAIL",
    "890 hPOUND MARK ABOVEiIASTRE MARK ABOVE",
    "898 hSMALL HIGH WORD AL-JUZnLOW WORD ISHMAAMxMAALAwTASHEELhMADDA WAAJIBhSUPERSCRIPT ALEF MOKHASSAShDOUBLED MADDA",
    "89F hHALF MADDA OVER MADDAhLETTER BEH WITH SMALL V BELOWxHAMZA ABOVEoJEEM WITH TWO DOTS ABOVE",
    "8A3 oTAH WITH TWO DOTS ABOVEoFEH WITH DOT BELOW AND THREE DOTS ABOVEoQAF WITH DOT BELOWoLAM WITH DOUBLE BAR",
    "8A7 oMEEM WITH THREE DOTS ABOVEoYEH WITH TWO DOTS BELOW AND HAMZA ABOVEzO DOTS BELOW AND DOT ABOVEoREH WITH LOOP",
    "8AB oWAW WITH DOT WITHINoROHINGYA YEHoLOW ALEFoDAL WITH THREE DOTS BELOWoSAD WITH THREE DOTS BELOW",
    "8B0 oGAF WITH INVERTED STROKEoSTRAIGHT WAWoZAIN WITH INVERTED V ABOVEoAIN WITH THREE DOTS BELOW",
    "8B4 oKAF WITH DOT BELOWoQAF WITH DOT BELOW AND NO DOTS ABOVEoBEH WITH SMALL MEEM ABOVEoPEH WITH SMALL MEEM ABOVE",
    "8B8 oTEH WITH SMALL TEH ABOVEoREH WITH SMALL NOON ABOVEoYEH WITH TWO DOTS BELOW AND SMALL NOON ABOVEoAFRICAN FEH",
    "8BC wQAFwNOONoPEH WITH SMALL VoTEH WITH SMALL VpTEH WITH SMALL VpCHEH WITH SMALL VoKEHEH WITH SMALL V",
    "8C3 oGHAIN WITH THREE DOTS ABOVEoAFRICAN QAF WITH THREE DOTS ABOVEoJEEM WITH THREE DOTS ABOVEzHREE DOTS BELOW",
    "8C7 oLAM WITH SMALL ARABIC LETTER TAH ABOVEoGRAFhSMALL FARSI YEHnHIGH FARSI YEHsYEH BARREE WITH TWO DOTS BELOW",
    "8CC sWORD SAHsZAHhLARGE ROUND DOT ABOVExBELOWhSUKUN BELOWhLARGE CIRCLE BELOWnROUND DOT INSIDE CIRCLE BELOW",
    "8D3 hSMALL LOW WAWnHIGH WORD AR-RUBsSADsAINsQAFsNOON WITH KASRAnLOW NOON WITH KASRAnHIGH WORD ATH-THALATHA",
    "8DB yS-SAJDAyN-NISFxSAKTAxQIFxWAQFAsFOOTNOTE MARKERsSIGN SAFHAhDISPUTED END OF AYAHhTURNED DAMMA BELOW",
    "8E4 hCURLY FATHAnDAMMAnKASRAnFATHATANnDAMMATANnKASRATANhTONE ONE DOT ABOVEmTWO DOTS ABOVEmLOOP ABOVE",
    "8ED mONE DOT BELOWmTWO DOTS BELOWmLOOP BELOWhOPEN FATHATANmDAMMATANmKASRATANhSMALL HIGH WAWhFATHA WITH RING",
    "8F5 sDOT ABOVEhKASRA WITH DOT BELOWhLEFT ARROWHEAD ABOVEhRIGHT ARROWHEAD ABOVEhLEFT ARROWHEAD BELOW",
    "8FA hRIGHT ARROWHEAD BELOWhDOUBLE RIGHT ARROWHEAD ABOVEzHEAD ABOVE WITH DOThRIGHT ARROWHEAD ABOVE WITH DOT",
    "8FE hDAMMA WITH DOThMARK SIDEWAYS NOON GHUNNAaDEVANAGARI SIGN INVERTED CANDRABINDUqCANDRABINDUqANUSVARAqVISARGA",
    "904 lLETTER SHORT AsAtAsItIsUtUsVOCALIC Rz LsCANDRA EsSHORT EsEsAIsCANDRA OsSHORT OsOsAUsKAtHAsGAtHAsNGAsCAtHA",
    "91C sJAtHAsNYAsTTAuHAsDDAuHAsNNAsTAtHAsDAtHAsNAtNNAsPAtHAsBAtHAsMAsYAsRAtRAsLAtLAuLAsVAsSHAtSAtAsHA",
    "93A lVOWEL SIGN OExOElSIGN NUKTAqAVAGRAHAlVOWEL SIGN AAwIxIwUxUwVOCALIC RzALIC RRwCANDRA EwSHORT EwEwAIwCANDRA O",
    "94A wSHORT OwOwAUlSIGN VIRAMAlVOWEL SIGN PRISHTHAMATRA EwAWlOMlSTRESS SIGN UDATTAxANUDATTAlGRAVE ACCENT",
    "954 lACUTE ACCENTlVOWEL SIGN CANDRA LONG EwUExUElLETTER QAsKHHAsGHHAsZAsDDDHAsRHAsFAsYYAsVOCALIC RRz LL",
    "962 lVOWEL SIGN VOCALIC LzALIC LLlDANDAmOUBLE DANDAmIGIT ZEROrONErTWOsHREErFOURsIVErSIXsEVENrEIGHTrNINE",
    "970 lABBREVIATION SIGNlSIGN HIGH SPACING DOTlLETTER CANDRA AsOEtOEsAWsUEtUEsMARWARI DDAsZHAsHEAVY YAsGGAsJJA",
    "97D sGLOTTAL STOPsDDDAsBBAaBENGALI ANJIiSIGN CANDRABINDUnANUSVARAnVISARGA",
    "985 iLETTER AqApIqIpUqUpVOCALIC RxL",
    "98F pEpAI",
    "993 pOpAUpKAqHApGAqHApNGApCAqHApJAqHApNYApTTArHApDDArHApNNApTAqHApDAqHApNA",
    "9AA pPAqHApBAqHApMApYApRA",
    "9B2 pLA",
    "9B6 pSHAqSAqApHA",
    "9BC iSIGN NUKTAnAVAGRAHAiVOWEL SIGN AAtIuItUuUtVOCALIC RzC RR",
    "9C7 tEtAI",
    "9CB tOtAUiSIGN VIRAMAiLETTER KHANDA TA",
    "9D7 iAU LENGTH MARK",
    "9DC iLETTER RRAqHA",
    "9DF pYYApVOCALIC RRxLLiVOWEL SIGN VOCALIC LzC LL",
    "9E6 iDIGIT ZEROoONEoTWOpHREEoFOURpIVEoSIXpEVENoEIGHToNINEiLETTER RA WITH MIDDLE DIAGONALxLOWER DIAGONAL",
    "9F2 iRUPEE MARKoSIGNiCURRENCY NUMERATOR ONEzR TWOzR THREEzR FOURzR ONE LESS THAN THE DENOMINATOR",
    "9F9 rDENOMINATOR SIXTEENiISSHARiGANDA MARKiLETTER VEDIC ANUSVARAiABBREVIATION SIGNiSANDHI MARK",
    "A01 aGURMUKHI SIGN ADAK BINDIoBINDIoVISARGA",
    "A05 jLETTER ArAqIrIqUrU",
    "A0F qEEqAI",
    "A13 qOOqAUqKArHAqGArHAqNGAqCArHAqJArHAqNYAqTTAsHAqDDAsHAqNNAqTArHAqDArHAqNA",
    "A2A qPArHAqBArHAqMAqYAqRA",
    "A32 qLArLA",
    "A35 qVAqSHA",
    "A38 rAqHA",
    "A3C jSIGN NUKTA",
    "A3E jVOWEL SIGN AAuIvIuUvU",
    "A47 uEEuAI",
    "A4B uOOuAUjSIGN VIRAMA",
    "A51 oUDAAT",
    "A59 jLETTER KHHAqGHHAqZAqRRA",
    "A5E qFA",
    "A66 jDIGIT ZEROpONEpTWOqHREEpFOURqIVEpSIXqEVENpEIGHTpNINEjTIPPIjADDAKjIRIjURAjEK ONKARjSIGN YAKASH",
    "A76 jABBREVIATION SIGN",
    "A81 cJARATI SIGN CANDRABINDUoANUSVARAoVISARGA",
    "A85 jLETTER ArAqIrIqUrUqVOCALIC RyLjVOWEL CANDRA E",
    "A8F jLETTER EqAIjVOWEL CANDRA O",
    "A93 jLETTER OqAUqKArHAqGArHAqNGAqCArHAqJArHAqNYAqTTAsHAqDDAsHAqNNAqTArHAqDArHAqNA",
    "AAA qPArHAqBArHAqMAqYAqRA",
    "AB2 qLArLA",
    "AB5 qVAqSHArSArAqHA",
    "ABC jSIGN NUKTAoAVAGRAHAjVOWEL SIGN AAuIvIuUvUuVOCALIC RzIC RRuCANDRA E",
    "AC7 uEuAIuCANDRA O",
    "ACB uOuAUjSIGN VIRAMA",
    "AD0 jOM",
    "AE0 jLETTER VOCALIC RRyLLjVOWEL SIGN VOCALIC LzIC LL",
    "AE6 jDIGIT ZEROpONEpTWOqHREEpFOURqIVEpSIXqEVENpEIGHTpNINEjABBREVIATION SIGNjRUPEE SIGN",
    "AF9 jLETTER ZHAjSIGN SUKUNpHADDAoMADDAHoTHREE-DOT NUKTA ABOVEoCIRCLE NUKTA ABOVEoTWO-CIRCLE NUKTA ABOVE",
    "B01 aORIYA SIGN CANDRABINDUlANUSVARAlVISARGA",
    "B05 gLETTER AoAnIoInUoUnVOCALIC RvL",
    "B0F nEnAI",
    "B13 nOnAUnKAoHAnGAoHAnNGAnCAoHAnJAoHAnNYAnTTApHAnDDApHAnNNAnTAoHAnDAoHAnNA",
    "B2A nPAoHAnBAoHAnMAnYAnRA",
    "B32 nLAoLA",
    "B35 nVAnSHAoSAoAnHA",
    "B3C gSIGN NUKTAlAVAGRAHAgVOWEL SIGN AArIsIrUsUrVOCALIC RzRR",
    "B47 rErAI",
    "B4B rOrAUgSIGN VIRAMA",
    "B55 lOVERLINEgAI LENGTH MARKhU LENGTH MARK",
    "B5C gLETTER RRAoHA",
    "B5F nYYAnVOCALIC RRvLLgVOWEL SIGN VOCALIC LzLL",
    "B66 gDIGIT ZEROmONEmTWOnHREEmFOURnIVEmSIXnEVENmEIGHTmNINEgISSHARgLETTER WAgFRACTION ONE QUARTERtHALF",
    "B74 pTHREE QUARTERSpONE SIXTEENTHtEIGHTHpTHREE SIXTEENTHS",
    "B82 aTAMIL SIGN ANUSVARAlVISARGA",
    "B85 gLETTER AoAnIoInUoU",
    "B8E nEoEnAI",
    "B92 nOoOnAUnKA",
    "B99 nNGAnCA",
    "B9C nJA",
    "B9E nNYAnTTA",
    "BA3 nNNAnTA",
    "BA8 nNAoNNAnPA",
    "BAE nMAnYAnRAoRAnLAoLApLAnVAnSHAoSAoAnHA",
    "BBE gVOWEL SIGN AArIsIrUsU",
    "BC6 rEsErAI",
    "BCA rOsOrAUgSIGN VIRAMA",
    "BD0 gOM",
    "BD7 gAU LENGTH MARK",
    "BE6 gDIGIT ZEROmONEmTWOnHREEmFOURnIVEmSIXnEVENmEIGHTmNINEgNUMBER TENnONE HUNDREDrTHOUSANDgDAY SIGNgMONTH SIGN",
    "BF5 gYEAR SIGNgDEBIT SIGNgCREDIT SIGNgAS ABOVE SIGNgRUPEE SIGNgNUMBER SIGN",
    "C00 bELUGU SIGN COMBINING CANDRABINDU ABOVEnANDRABINDUmANUSVARAmVISARGAmCOMBINING ANUSVARA ABOVEhLETTER ApAoIpI",
    "C09 oUpUoVOCALIC RwL",
    "C0E oEpEoAI",
    "C12 oOpOoAUoKApHAoGApHAoNGAoCApHAoJApHAoNYAoTTAqHAoDDAqHAoNNAoTApHAoDApHAoNA",
    "C2A oPApHAoBApHAoMAoYAoRApRAoLApLAqLAoVAoSHApSApAoHA",
    "C3C hSIGN NUKTAmAVAGRAHAhVOWEL SIGN AAsItIsUtUsVOCALIC Rz RR",
    "C46 sEtEsAI",
    "C4A sOtOsAUhSIGN VIRAMA",
    "C55 hLENGTH MARKhAI LENGTH MARK",
    "C58 hLETTER TSAoDZAoRRRA",
    "C5D oNAKAARA POLLU",
    "C60 oVOCALIC RRwLLhVOWEL SIGN VOCALIC Lz LL",
    "C66 hDIGIT ZEROnONEnTWOoHREEnFOURoIVEnSIXoEVENnEIGHTnNINE",
    "C77 hSIGN SIDDHAMhFRACTION DIGIT ZERO FOR ODD POWERS OF FOURwONE FOR ODD POWERS OF FOUR",
    "C7A wTWO FOR ODD POWERS OF FOURxHREE FOR ODD POWERS OF FOURwONE FOR EVEN POWERS OF FOUR",
    "C7D wTWO FOR EVEN POWERS OF FOURxHREE FOR EVEN POWERS OF FOURhSIGN TUUMUaKANNADA SIGN SPACING CANDRABINDU",
    "C81 nCANDRABINDUnANUSVARAnVISARGAnSIDDHAMiLETTER AqApIqIpUqUpVOCALIC RxL",
    "C8E pEqEpAI",
    "C92 pOqOpAUpKAqHApGAqHApNGApCAqHApJAqHApNYApTTArHApDDArHApNNApTAqHApDAqHApNA",
    "CAA pPAqHApBAqHApMApYApRAqRApLAqLA",
    "CB5 pVApSHAqSAqApHA",
    "CBC iSIGN NUKTAnAVAGRAHAiVOWEL SIGN AAtIuItUuUtVOCALIC RzC RR",
    "CC6 tEuEtAI",
    "CCA tOuOtAUiSIGN VIRAMA",
    "CD5 iLENGTH MARKiAI LENGTH MARK",
    "CDD iLETTER NAKAARA POLLUpFA",
    "CE0 pVOCALIC RRxLLiVOWEL SIGN VOCALIC LzC LL",
    "CE6 iDIGIT ZEROoONEoTWOpHREEoFOURpIVEoSIXpEVENoEIGHToNINE",
    "CF1 iSIGN JIHVAMULIYAnUPADHMANIYA",
    "D00 aMALAYALAM SIGN COMBINING ANUSVARA ABOVEqANDRABINDUpANUSVARApVISARGAkLETTER VEDIC ANUSVARArAsArIsIrUsU",
    "D0B rVOCALIC RzL",
    "D0E rEsErAI",
    "D12 rOsOrAUrKAsHArGAsHArNGArCAsHArJAsHArNYArTTAtHArDDAtHArNNArTAsHArDAsHArNAsNNArPAsHArBAsHArMArYArRAsRArLAsLA",
    "D34 tLArVArSHAsSAsArHArTTTAkSIGN VERTICAL BAR VIRAMApCIRCULAR VIRAMApAVAGRAHAkVOWEL SIGN AAvIwIvUwUvVOCALIC R",
    "D44 zLIC RR",
    "D46 vEwEvAI",
    "D4A vOwOvAUkSIGN VIRAMAkLETTER DOT REPHkSIGN PARA",
    "D54 kLETTER CHILLU MyYyLLLkAU LENGTH MARKkFRACTION ONE ONE-HUNDRED-AND-SIXTIETHxFORTIETHtTHREE EIGHTIETHS",
    "D5B tONE TWENTIETHyENTHtTHREE TWENTIETHStONE FIFTHkLETTER ARCHAIC IIrVOCALIC RRzLLkVOWEL SIGN VOCALIC LzLIC LL",
    "D66 kDIGIT ZEROqONEqTWOrHREEqFOURrIVEqSIXrEVENqEIGHTqNINEkNUMBER TENrONE HUNDREDvTHOUSANDkFRACTION ONE QUARTER",
    "D74 xHALFtTHREE QUARTERStONE SIXTEENTHxEIGHTHtTHREE SIXTEENTHSkDATE MARKkLETTER CHILLU NNzyRRyLzLyK",
    "D81 aSINHALA SIGN CANDRABINDUnANUSVARAYAnVISARGAYA",
    "D85 iLETTER AYANNAqAYANNAqEYANNArEYANNApIYANNAqIYANNApUYANNAqUYANNApIRUYANNAsUYANNAqLUYANNAsUYANNApEYANNAqEYANNA",
    "D93 pAIYANNApOYANNAqOYANNApAUYANNA",
    "D9A qLPAPRAANA KAYANNApMAHAAPRAANA KAYANNApALPAPRAANA GAYANNApMAHAAPRAANA GAYANNApKANTAJA NAASIKYAYA",
    "D9F pSANYAKA GAYANNApALPAPRAANA CAYANNApMAHAAPRAANA CAYANNApALPAPRAANA JAYANNApMAHAAPRAANA JAYANNA",
    "DA4 pTAALUJA NAASIKYAYAxSANYOOGA NAAKSIKYAYApSANYAKA JAYANNApALPAPRAANA TTAYANNApMAHAAPRAANA TTAYANNA",
    "DA9 pALPAPRAANA DDAYANNApMAHAAPRAANA DDAYANNAqUURDHAJA NAYANNApSANYAKA DDAYANNApALPAPRAANA TAYANNA",
    "DAE pMAHAAPRAANA TAYANNApALPAPRAANA DAYANNApMAHAAPRAANA DAYANNApDANTAJA NAYANNA",
    "DB3 pSANYAKA DAYANNApALPAPRAANA PAYANNApMAHAAPRAANA PAYANNApALPAPRAANA BAYANNApMAHAAPRAANA BAYANNArYANNA",
    "DB9 pAMBA BAYANNApYAYANNApRAYANNA",
    "DBD pDANTAJA LAYANNA",
    "DC0 pVAYANNApTAALUJA SAYANNApMUURDHAJA SAYANNApDANTAJA SAYANNApHAYANNApMUURDHAJA LAYANNApFAYANNA",
    "DCA iSIGN AL-LAKUNA",
    "DCF iVOWEL SIGN AELA-PILLAtKETTI AEDA-PILLAtDIGA AEDA-PILLAtKETTI IS-PILLAtDIGA IS-PILLAtKETTI PAA-PILLA",
    "DD6 tDIGA PAA-PILLA",
    "DD8 tGAETTA-PILLAtKOMBUVAtDIGA KOMBUVAtKOMBU DEKAyVA HAA AELA-PILLAzA HAA DIGA AELA-PILLAzA HAA GAYANUKITTA",
    "DDF tGAYANUKITTA",
    "DE6 iLITH DIGIT ZEROtONEtTWOuHREEtFOURuIVEtSIXuEVENtEIGHTtNINE",
    "DF2 iVOWEL SIGN DIGA GAETTA-PILLAzAYANUKITTAiPUNCTUATION KUNDDALIYA",
    "E01 aTHAI CHARACTER KO KAIqHO KHAIvUATvWAIvONtRAKHANGpNGO NGUpCHO CHANvINGvANGpSO SOpCHO CHOEpYO YINGpDO CHADA",
    "E0F pTO PATAKqHO THANtNANGMONTHOtPHUTHAOpNO NENpDO DEKpTO TAOqHO THUNGvAHANvONGpNO NUpBO BAIMAIpPO PLAqHO PHUNG",
    "E1D pFO FApPHO PHANpFO FANpPHO SAMPHAOpMO MApYO YAKpRO RUAqUpLO LINGqUpWO WAENpSO SALAsRUSIsSUApHO HIPpLO CHULA",
    "E2D pO ANGpHO NOKHUKpPAIYANNOIpSARA ApMAI HAN-AKATpSARA AAvMuIvIuUEwEvvUpPHINTHU",
    "E3F gURRENCY SYMBOL BAHTgHARACTER SARA EuAEuOuAI MAIMUANzIMALAIpLAKKHANGYAOpMAIYAMOKsTAIKHUs EKtTHOuRItCHATTAWA",
    "E4C pTHANTHAKHATpNIKHAHITpYAMAKKANpFONGMANfDIGIT ZEROlONElTWOmHREElFOURmIVElSIXmEVENlEIGHTlNINE",
    "E5A fCHARACTER ANGKHANKHUpKHOMUT",
    "E81 aLAO LETTER KOmHO SUNG",
    "E84 pTAM",
    "E86 lPALI GHAlNGOlCOlPALI CHAlSO TAM",
    "E8C lPALI JHAlNYOlPALI NYAqTTAsHAqDDAsHAqNNAlDOlTOmHO SUNGpTAMlPALI DHAlNOlBOlPOmHO SUNGlFO TAMlPHO TAMlFO SUNG",
    "EA0 lPALI BHAlMOlYOlLO LING",
    "EA5 pOOT",
    "EA7 lWOlSANSKRIT SHAvSAmO SUNGlHO SUNGlPALI LLAlOlHO TAMeELLIPSISeVOWEL SIGN ApMAI KANpAAqMpIqIpYqYpUqU",
    "EBA eSIGN PALI VIRAMAeVOWEL SIGN MAI KONeSEMIVOWEL SIGN LOtNYO",
    "EC0 eVOWEL SIGN EqIpOpAYqI",
    "EC6 eKO LA",
    "EC8 eTONE MAI EKnTHOoInCATAWAeCANCELLATION MARKeNIGGAHITA",
    "ED0 eDIGIT ZEROkONEkTWOlHREEkFOURlIVEkSIXlEVENkEIGHTkNINE",
    "EDC eHO NOhMOeLETTER KHMU GOqNYO",
    "F00 aTIBETAN SYLLABLE OMiMARK GTER YIG MGO TRUNCATED Az -UM RNAM BCAD MAz -UM GTER TSHEG MA",
    "F04 nINITIAL YIG MGO MDUN MAnCLOSING YIG MGO SGAB MAoARET YIG MGO PHUR SHAD MAnYIG MGO TSHEG SHAD MAnSBRUL SHAD",
    "F09 nBSKUR YIG MGOoKA- SHOG YIG MGOnINTERSYLLABIC TSHEGnDELIMITER TSHEG BSTARnSHADnNYIS SHADnTSHEG SHAD",
    "F10 nNYIS TSHEG SHADnRIN CHEN SPUNGS SHADoGYA GRAM SHADnCARET -DZUD RTAGS ME LONG CANnGTER TSHEG",
    "F15 iLOGOTYPE SIGN CHAD RTAGSwLHAG RTAGSiASTROLOGICAL SIGN SGRA GCAN -CHAR RTAGSz -KHYUD PAz SDONG TSHUGS",
    "F1A iSIGN RDEL DKAR GCIGyNYISySUMsNAG GCIGxNYISsDKAR RDEL NAGiDIGIT ZEROoONEoTWOpHREEoFOURpIVEoSIXpEVENoEIGHT",
    "F29 oNINEoHALF ONEtTWOuHREEtFOURuIVEtSIXuEVENtEIGHTtNINEtZEROiMARK BSDUS RTAGSnNGAS BZUNG NYI ZLA",
    "F36 nCARET -DZUD RTAGS BZHI MIG CANnNGAS BZUNG SGOR RTAGSnCHE MGOnTSA -PHRUnGUG RTAGS GYONzASnANG KHANG GYONzAS",
    "F3E iSIGN YAR TSHESnMAR TSHESiLETTER KAqHApGAqHApNGApCAqHApJA",
    "F49 pNYApTTArHApDDArHApNNApTAqHApDAqHApNApPAqHApBAqHApMApTSArHApDZArHApWApZHAqAp-ApYApRApLApSHAqSAqApHApApKSSA",
    "F6A pFIXED-FORM RApKKApRRA",
    "F71 iVOWEL SIGN AAtIuItUuUtVOCALIC RzC RRzC LzC LLtEuEtOuOiSIGN RJES SU NGA ROoNAM BCADiVOWEL SIGN REVERSED I",
    "F81 zED IIiSIGN NYI ZLA NAA DAnSNA LDANiMARK HALANTAnPALUTAiSIGN LCI RTAGSnYANG RTAGSnLCE TSA CANnMCHU CAN",
    "F8A nGRU CAN RGYINGSrMED RGYINGSnINVERTED MCHU CANjUBJOINED SIGN LCE TSA CANxMCHU CANxINVERTED MCHU CAN",
    "F90 sLETTER KAzKHAzGAzGHAzNGAzCAzCHAzJA",
    "F99 zNYAzTTAzTTHAzDDAzDDHAzNNAzTAzTHAzDAzDHAzNAzPAzPHAzBAzBHAzMAzTSAzTSHAzDZAzDZHAzWAzZHAzZAz-AzYAzRAzLAzSHAzSSA",
    "FB6 zSAzHAzAzKSSAzFIXED-FORM WAzFIXED-FORM YAzFIXED-FORM RA",
    "FBE iKU RU KHAr BZHI MIG CANiCANTILLATION SIGN HEAVY BEATz LIGHT BEATz CANG TE-Uz SBUB -CHALiSYMBOL DRIL BU",
    "FC5 pRDO RJEpPADMA GDANpRDO RJE RGYA GRAMpPHUR PApNOR BUv NYIS -KHYILwGSUM -KHYILwBZHI -KHYIL",
    "FCE jIGN RDEL NAG RDEL DKARwGSUMiMARK BSKA- SHOG GI MGO RGYANnMNYAM YIG GI MGO RGYANnNYIS TSHEG",
    "FD3 nINITIAL BRDA RNYING YIG MGO MDUN MAnCLOSING BRDA RNYING YIG MGO SGAB MAaRIGHT-FACING SVASTI SIGN",
    "FD6 aLEFT-FACING SVASTI SIGNaRIGHT-FACING SVASTI SIGN WITH DOTSaLEFT-FACING SVASTI SIGN WITH DOTS",
    "FD9 aTIBETAN MARK LEADING MCHAN RTAGSnTRAILING MCHAN RTAGS",
    "1000 aMYANMAR LETTER KAqHApGAqHApNGApCAqHApJAqHApNYAqNYApTTArHApDDArHApNNApTAqHApDAqHApNApPAqHApBAqHApMApYApRA",
    "101C pLApWApSApHApLLApApSHAN ApIqIpUqUpEpMON EpOpAUiVOWEL SIGN TALL AAtAAtIuItUuUtEtAItMON IIxOtE ABOVE",
    "1036 iSIGN ANUSVARAnDOT BELOWnVISARGApRAMAnASATiCONSONANT SIGN MEDIAL YAzDIAL RAzDIAL WAzDIAL HAiLETTER GREAT SA",
    "1040 iDIGIT ZEROoONEoTWOpHREEoFOURpIVEoSIXpEVENoEIGHToNINEiSIGN LITTLE SECTIONnSECTIONjYMBOL LOCATIVEpCOMPLETED",
    "104E pAFOREMENTIONEDpGENITIVEiLETTER SHAqSApVOCALIC RyRxLyLiVOWEL SIGN VOCALIC RzC RRzC LzC LLiLETTER MON NGA",
    "105B tJHAtBBAvEiCONSONANT SIGN MON MEDIAL NAzN MEDIAL MAzN MEDIAL LAiLETTER SGAW KAREN SHA",
    "1062 iVOWEL SIGN SGAW KAREN EUiTONE MARK SGAW KAREN HATHIzREN KE PHOiLETTER WESTERN PWO KAREN THAzO KAREN PWA",
    "1067 iVOWEL SIGN WESTERN PWO KAREN EUzN PWO KAREN UEiSIGN WESTERN PWO KAREN TONE-1zKAREN TONE-2zKAREN TONE-3",
    "106C zKAREN TONE-4zKAREN TONE-5iLETTER EASTERN PWO KAREN NNAzO KAREN YWAzO KAREN GHWAiVOWEL SIGN GEBA KAREN I",
    "1072 tKAYAH OEzUzEEiLETTER SHAN KAvHAuGAuCAuZAuNYAuDAuNAuPHAuFAuBAuTHAuHAiCONSONANT SIGN SHAN MEDIAL WA",
    "1083 iVOWEL SIGN SHAN AAyEz ABOVEyFINAL YiSIGN SHAN TONE-2x3x5x6sCOUNCIL TONE-2z TONE-3z EMPHATIC TONE",
    "108E iLETTER RUMAI PALAUNG FAiSIGN RUMAI PALAUNG TONE-5jHAN DIGIT ZEROtONEtTWOuHREEtFOURuIVEtSIXuEVENtEIGHTtNINE",
    "109A jIGN KHAMTI TONE-1z3iVOWEL SIGN AITON AzAIiSYMBOL SHAN ONEuEXCLAMATIONaGEORGIAN CAPITAL LETTER ANyBANyGAN",
    "10A3 yDONyENyVINyZENyTANyINyKANyLASyMANyNARyONyPARyZHARyRAEySANyTARyUNyPHARyKHARyGHANyQARySHINyCHINzANyJILyCIL",
    "10BD zHARyXANyJHANyHAEzEzIEyWEyHARzOE",
    "10C7 yYN",
    "10CD yAEN",
    "10D0 jLETTER ANqBANqGANqDONqENqVINqZENqTANqINqKANqLASqMANqNARqONqPARqZHARqRAEqSANqTARqUNqPHARqKHARqGHANqQARqSHIN",
    "10E9 qCHINrANqJILqCILrHARqXANqJHANqHAErErIEqWEqHARrOEqFIqYNqELIFIqTURNED GANqAINjPARAGRAPH SEPARATOR",
    "10FC aMODIFIER LETTER GEORGIAN NARaGEORGIAN LETTER AENqHARD SIGNqLABIAL SIGNaHANGUL CHOSEONG KIYEOKqSSANGKIYEOK",
    "1102 qNIEUNqTIKEUTqSSANGTIKEUTqRIEULqMIEUMqPIEUPqSSANGPIEUPrIOSrSANGSIOSqIEUNGqCIEUCqSSANGCIEUCqCHIEUCHqKHIEUKH",
    "1110 qTHIEUTHqPHIEUPHqHIEUHqNIEUN-KIYEOKqSSANGNIEUNqNIEUN-TIKEUTwPIEUPqTIKEUT-KIYEOKqRIEUL-NIEUNqSSANGRIEUL",
    "111A qRIEUL-HIEUHqKAPYEOUNRIEULqMIEUM-PIEUPqKAPYEOUNMIEUMqPIEUP-KIYEOKwNIEUNwTIKEUTwSIOSzS-KIYEOKzS-TIKEUT",
    "1124 zS-PIEUPxSANGSIOSxIOS-CIEUCwCIEUCxHIEUCHwTHIEUTHwPHIEUPHqKAPYEOUNPIEUPySSANGPIEUPqSIOS-KIYEOKvNIEUNvTIKEUT",
    "1130 vRIEULvMIEUMvPIEUPzP-KIYEOKvSSANGSIOSvIEUNGvCIEUCwHIEUCHvKHIEUKHvTHIEUTHvPHIEUPHvHIEUHqCHITUEUMSIOS",
    "113D zSANGSIOSrEONGCHIEUMSIOSzUMSSANGSIOSqPANSIOSqIEUNG-KIYEOKwTIKEUTwMIEUMwPIEUPwSIOSwPANSIOSqSSANGIEUNG",
    "1148 qIEUNG-CIEUCxHIEUCHwTHIEUTHwPHIEUPHqYESIEUNGqCIEUC-IEUNGrHITUEUMCIEUCySSANGCIEUCrEONGCHIEUMCIEUC",
    "1151 zUMSSANGCIEUCrHIEUCH-KHIEUKHyHIEUHtTUEUMCHIEUCHrEONGCHIEUMCHIEUCHqPHIEUPH-PIEUPqKAPYEOUNPHIEUPHqSSANGHIEUH",
    "1159 qYEORINHIEUHqKIYEOK-TIKEUTqNIEUN-SIOSwCIEUCwHIEUHqTIKEUT-RIEULqFILLERhJUNGSEONG FILLERrAsErYAtErEOsrYEOtrO",
    "116A rWAtErOErYOrUrWEOtsIrYUrEUrYIrIrA-OtUrYA-OuYOrEO-OuUuEUrYEO-OvUrO-EOutYEtOtUrYO-YAwEvEOuOuIrU-AuEtEO-EUtYE",
    "118D tUrYU-AuEOvuYEOwuUuIrEU-UuEUrYI-UrI-AtYAtOtUtEUtARAEArARAEAw-EOxUxIrSSANGARAEArA-EUrYA-UsEO-YArO-YAvE",
    "11A8 iONGSEONG KIYEOKrSSANGKIYEOKrKIYEOK-SIOSrNIEUNw-CIEUCxHIEUHrTIKEUTrRIEULw-KIYEOKxMIEUMxPIEUPxSIOSxTHIEUTH",
    "11B5 xPHIEUPHxHIEUHrMIEUMrPIEUPw-SIOSrSIOSsSANGSIOSrIEUNGrCIEUCsHIEUCHrKHIEUKHrTHIEUTHrPHIEUPHrHIEUH",
    "11C3 rKIYEOK-RIEULySIOS-KIYEOKrNIEUN-KIYEOKxTIKEUTxSIOSxPANSIOSxTHIEUTHrTIKEUT-KIYEOKyRIEULrRIEUL-KIYEOK-SIOS",
    "11CD xNIEUNxTIKEUTzKEUT-HIEUHrSSANGRIEULrRIEUL-MIEUM-KIYEOKzEUM-SIOSxPIEUP-SIOSzEUP-HIEUHxKAPYEOUNPIEUP",
    "11D6 xSSANGSIOSxPANSIOSxKHIEUKHxYEORINHIEUHrMIEUM-KIYEOKxRIEULxPIEUPxSIOSySANGSIOSxPANSIOSxCHIEUCHxHIEUH",
    "11E2 rKAPYEOUNMIEUMrPIEUP-RIEULxPHIEUPHxHIEUHrKAPYEOUNPIEUPrSIOS-KIYEOKwTIKEUTwRIEULwPIEUPrPANSIOSrIEUNG-KIYEOK",
    "11ED xSSANGKIYEOKrSSANGIEUNGrIEUNG-KHIEUKHrYESIEUNGz-SIOSz-PANSIOSrPHIEUPH-PIEUPrKAPYEOUNPHIEUPHrHIEUH-NIEUN",
    "11F6 xRIEULxMIEUMxPIEUPrYEORINHIEUHrKIYEOK-NIEUNyPIEUPyCHIEUCHyKHIEUKHyHIEUHrSSANGNIEUNaETHIOPIC SYLLABLE HAtUtI",
    "1203 tAAtEEutOuAsLAtUtItAAtEEutOtWAsHHAuUuIuAAuEEvuOuWAsMAtUtItAAtEEutOtWAsSZAuUuIuAAuEEvuOuWAsRAtUtItAAtEEutO",
    "122F tWAsSAtUtItAAtEEutOtWAtHAuUuIuAAuEEvuOuWAsQAtUtItAAtEEutOuAtWA",
    "124A uIuAAuEEv",
    "1250 tHAuUuIuAAuEEvuO",
    "1258 uWA",
    "125A vIvAAvEEw",
    "1260 sBAtUtItAAtEEutOtWAsVAtUtItAAtEEutOtWAsTAtUtItAAtEEutOtWAsCAtUtItAAtEEutOtWAsXAtUtItAAtEEutOuAtWA",
    "128A uIuAAuEEv",
    "1290 sNAtUtItAAtEEutOtWAtYAuUuIuAAuEEvuOuWAsGLOTTAL Az Uz Iz AAz EEz Ez Oz WAsKAtUtItAAtEEutOuAtWA",
    "12B2 uIuAAuEEv",
    "12B8 tXAuUuIuAAuEEvuO",
    "12C0 uWA",
    "12C2 vIvAAvEEw",
    "12C8 sWAtUtItAAtEEutOuAsPHARYNGEAL AzEAL UzEAL IzEAL AAzEAL EEzEAL EzEAL O",
    "12D8 sZAtUtItAAtEEutOtWAtHAuUuIuAAuEEvuOuWAsYAtUtItAAtEEutOuAsDAtUtItAAtEEutOtWAtDAuUuIuAAuEEvuOuWAsJAtUtItAAtEE",
    "1305 utOtWAsGAtUtItAAtEEutOuAtWA",
    "1312 uIuAAuEEv",
    "1318 tGAuUuIuAAuEEvuOuWAAsTHAuUuIuAAuEEvuOuWAsCHAuUuIuAAuEEvuOuWAsPHAuUuIuAAuEEvuOuWAsTSAuUuIuAAuEEvuOuWAtZAuUuI",
    "1343 uAAuEEvuOvAsFAtUtItAAtEEutOtWAsPAtUtItAAtEEutOtWAsRYAsMYAsFYA",
    "135D jCOMBINING GEMINATION AND VOWEL LENGTH MARKtVOWEL LENGTH MARKtGEMINATION MARKjSECTION MARKjWORDSPACE",
    "1362 jFULL STOPjCOMMAjSEMICOLONjCOLONjPREFACE COLONjQUESTION MARKjPARAGRAPH SEPARATORjDIGIT ONEpTWOqHREEpFOUR",
    "136D qIVEpSIXqEVENpEIGHTpNINEjNUMBER TENrWENTYrHIRTYqFORTYrIFTYqSIXTYrEVENTYqEIGHTYqNINETYqHUNDREDqTEN THOUSAND",
    "1380 jSYLLABLE SEBATBEIT MWAsMWIuEEvsSEBATBEIT BWAsBWIuEEvsSEBATBEIT FWAsFWIuEEvsSEBATBEIT PWAsPWIuEEv",
    "1390 jTONAL MARK YIZETuDERETuRIKRIKuSHORT RIKRIKuDIFATuKENATuCHIRETuHIDETuDERET-HIDETuKURT",
    "13A0 aCHEROKEE LETTER AqEqIqOqUqVqGAqKAqGErIrOrUrVqHArErIrOrUrVqLArErIrOrUrVqMArErIrOrUqNAqHNAqNAHrErIrOrUrVqQUA",
    "13C7 sEsIsOsUsVqSArrErIrOrUrVqDAqTAqDEqTEqDIqTIqDOrUrVrLAqTLAsEsIsOsUsVrSAsEsIsOsUsVqWArErIrOrUrVqYArErIrOrUrV",
    "13F5 qMV",
    "13F8 jSMALL LETTER YExIxOxUxVwMV",
    "1400 bANADIAN SYLLABICS HYPHENtEtAAItIuItOuOtY-CREE OOtCARRIER EEzR ItAuAtWEvST-CREE WEuIuEST-CREE WIuII",
    "1411 uEST-CREE WIIuOuEST-CREE WOuOOuEST-CREE WOOtNASKAPI WOOtWAuEST-CREE WAuAAuEST-CREE WAAtNASKAPI WAAtAI",
    "141D tY-CREE WtGLOTTAL STOPtFINAL ACUTEzGRAVEzBOTTOM HALF RINGzTOP HALF RINGzRIGHT HALF RINGzRINGzDOUBLE ACUTE",
    "1426 zDOUBLE SHORT VERTICAL STROKESzMIDDLE DOTzSHORT HORIZONTAL STROKEzPLUSzDOWN TACKtENtINtONtANtPEuAAIuIvIuOvO",
    "1435 tY-CREE POOtCARRIER HEEzR HItPAvAuWEtWEST-CREE PWEtPWItWEST-CREE PWItPWIItWEST-CREE PWIItPWOtWEST-CREE PWO",
    "1442 tPWOOtWEST-CREE PWOOtPWAtWEST-CREE PWAtPWAAtWEST-CREE PWAAtY-CREE PWAAtPtWEST-CREE PtCARRIER HtTEuAAIuIvIuO",
    "1451 vOtY-CREE TOOtCARRIER DEEzR DItTAvAuWEtWEST-CREE TWEtTWItWEST-CREE TWItTWIItWEST-CREE TWIItTWO",
    "145E tWEST-CREE TWOtTWOOtWEST-CREE TWOOtTWAtWEST-CREE TWAtTWAAtWEST-CREE TWAAtNASKAPI TWAAtTuTEvIvOvAtKEuAAIuIvI",
    "146F uOvOtY-CREE KOOtKAvAuWEtWEST-CREE KWEtKWItWEST-CREE KWItKWIItWEST-CREE KWIItKWOtWEST-CREE KWOtKWOO",
    "147D tWEST-CREE KWOOtKWAtWEST-CREE KWAtKWAAtWEST-CREE KWAAtNASKAPI KWAAtKuWtSOUTH-SLAVEY KEHzSLAVEY KIH",
    "1487 zSLAVEY KOHzSLAVEY KAHtCEuAAIuIvIuOvOtY-CREE COOtCAvAuWEtWEST-CREE CWEtCWItWEST-CREE CWItCWII",
    "1497 tWEST-CREE CWIItCWOtWEST-CREE CWOtCWOOtWEST-CREE CWOOtCWAtWEST-CREE CWAtCWAAtWEST-CREE CWAAtNASKAPI CWAAtC",
    "14A2 tSAYISI THtMEuAAIuIvIuOvOtY-CREE MOOtMAvAuWEtWEST-CREE MWEtMWItWEST-CREE MWItMWIItWEST-CREE MWIItMWO",
    "14B3 tWEST-CREE MWOtMWOOtWEST-CREE MWOOtMWAtWEST-CREE MWAtMWAAtWEST-CREE MWAAtNASKAPI MWAAtMtWEST-CREE MtMH",
    "14BE tATHAPASCAN MtSAYISI MtNEuAAIuIvIuOvOtY-CREE NOOtNAvAuWEtWEST-CREE NWEtNWAtWEST-CREE NWAtNWAA",
    "14CE tWEST-CREE NWAAtNASKAPI NWAAutCARRIER NGtNHtLEuAAIuIvIuOvOtY-CREE LOOtLAvAuWEtWEST-CREE LWEtLWI",
    "14DF tWEST-CREE LWItLWIItWEST-CREE LWIItLWOtWEST-CREE LWOtLWOOtWEST-CREE LWOOtLWAtWEST-CREE LWAtLWAA",
    "14E9 tWEST-CREE LWAAtLtWEST-CREE LtMEDIAL LtSEuAAIuIvIuOvOtY-CREE SOOtSAvAuWEtWEST-CREE SWEtSWItWEST-CREE SWI",
    "14FA tSWIItWEST-CREE SWIItSWOtWEST-CREE SWOtSWOOtWEST-CREE SWOOtSWAtWEST-CREE SWAtSWAAtWEST-CREE SWAA",
    "1504 tNASKAPI SWAAtStATHAPASCAN StSWtBLACKFOOT StMOOSE-CREE SKtNASKAPI SKWzI S-WzI SPWAzI STWAzI SKWAzI SCWAtSHE",
    "1511 vIwIvOwOvAwAvWEtWEST-CREE SHWEtSHWItWEST-CREE SHWItSHWIItWEST-CREE SHWIItSHWOtWEST-CREE SHWOtSHWOO",
    "1520 tWEST-CREE SHWOOtSHWAtWEST-CREE SHWAtSHWAAtWEST-CREE SHWAAtSHtYEuAAIuIvIuOvOu-CREE YOOuAvAuWEtWEST-CREE YWE",
    "1531 tYWItWEST-CREE YWItYWIItWEST-CREE YWIItYWOtWEST-CREE YWOtYWOOtWEST-CREE YWOOtYWAtWEST-CREE YWAtYWAA",
    "153C tWEST-CREE YWAAtNASKAPI YWAAtYtBIBLE-CREE YtWEST-CREE YtSAYISI YItREu-CREE REtWEST-CREE LEtRAAIuIvIuOvO",
    "154A tWEST-CREE LOtRAvAtWEST-CREE LAtRWAAtWEST-CREE RWAAtRtWEST-CREE RtMEDIAL RtFEuAAIuIvIuOvOuAvAuWAA",
    "155C tWEST-CREE FWAAtFtTHEtN-CREE THEtTHItN-CREE THItTHIItN-CREE THIItTHOwOvAwAvWAAtWEST-CREE THWAAtTHuTHEwIwOwA",
    "156F wuYEvIvOvAtNUNAVIK HEzK HIzK HIIzK HOzK HOOzK HAzK HAAzK HyUT HtHKtQAAIuIvIuOvOuAvAutTLHEwIwOwA",
    "158A tWEST-CREE REzREE RIzREE ROzREE RAtNGAAIvIwIvOwOvAwAvuNGtSAYISI SHEz SHIz SHOz SHAtWOODS-CREE THEzCREE THI",
    "159D zCREE THOzCREE THAzCREE THtLHIwIvOwOvAwAvtTH-CREE THEzE THIzE THIIzE THOzE THOOzE THAzE THAAzE THtAIVILIK B",
    "15B0 tBLACKFOOT EzOOT IzOOT OzOOT AzOOT WEzOOT WIzOOT WOzOOT WAzOOT NEzOOT NIzOOT NOzOOT NAzOOT KEzOOT KIzOOT KO",
    "15BF zOOT KAtSAYISI HEz HIz HOz HAtCARRIER GHUzR GHOzR GHEzR GHEEzR GHIzR GHAzR RUzR ROzR REzR REEzR RIzR RA",
    "15D0 zR WUzR WOzR WEzR WEEzR WIzR WAzR HWUzR HWOzR HWEzR HWEEzR HWIzR HWAzR THUzR THOzR THEzR THEEzR THIzR THA",
    "15E2 zR TTUzR TTOzR TTEzR TTEEzR TTIzR TTAzR PUzR POzR PEzR PEEzR PIzR PAzR PzR GUzR GOzR GEzR GEEzR GIzR GA",
    "15F5 zR KHUzR KHOzR KHEzR KHEEzR KHIzR KHAzR KKUzR KKOzR KKEzR KKEEzR KKIzR KKAzR KKzR NUzR NOzR NEzR NEEzR NI",
    "1607 zR NAzR MUzR MOzR MEzR MEEzR MIzR MAzR YUzR YOzR YEzR YEEzR YIzR YAzR JUtSAYISI JUtCARRIER JOzR JEzR JEE",
    "1619 zR JItSAYISI JItCARRIER JAzR JJUzR JJOzR JJEzR JJEEzR JJIzR JJAzR LUzR LOzR LEzR LEEzR LIzR LAzR DLUzR DLO",
    "162A zR DLEzR DLEEzR DLIzR DLAzR LHUzR LHOzR LHEzR LHEEzR LHIzR LHAzR TLHUzR TLHOzR TLHEzR TLHEEzR TLHIzR TLHA",
    "163A zR TLUzR TLOzR TLEzR TLEEzR TLIzR TLAzR ZUzR ZOzR ZEzR ZEEzR ZIzR ZAzR ZzR INITIAL ZzR DZUzR DZOzR DZE",
    "164B zR DZEEzR DZIzR DZAzR SUzR SOzR SEzR SEEzR SIzR SAzR SHUzR SHOzR SHEzR SHEEzR SHIzR SHAzR SHzR TSUzR TSO",
    "165D zR TSEzR TSEEzR TSIzR TSAzR CHUzR CHOzR CHEzR CHEEzR CHIzR CHAzR TTSUzR TTSOzR TTSEzR TTSEEzR TTSIzR TTSA",
    "166D uHI SIGNtFULL STOPtQAItNGAIuNGIxIwOxOwAxAtWOODS-CREE THWEEzCREE THWIzCREE THWIIzCREE THWOzCREE THWOO",
    "167C zCREE THWAzCREE THWAAzCREE FINAL THtBLACKFOOT WaOGHAM SPACE MARKgLETTER BEITHnLUISnFEARNnSAILnNIONnUATH",
    "1687 nDAIRnTINNEnCOLLoEIRTnMUINnGORTnNGEADALnSTRAIFnRUISnAILMnONNnURnEADHADHnIODHADHnEABHADHnORnUILLEANNnIFIN",
    "1699 nEAMHANCHOLLnPEITHgFEATHER MARKgREVERSED FEATHER MARK",
    "16A0 aRUNIC LETTER FEHU FEOH FE FnVnURUZ UR UnYRonWnTHURISAZ THURS THORNnETHnANSUZ AnOS OnAC AoESC",
    "16AC nLONG-BRANCH-OSS OnSHORT-TWIG-OSS OnOoEoNnRAIDO RAD REID RnKAUNAnCENnKAUN KnGnENGnGEBO GYFU GoAR",
    "16B9 nWUNJO WYNN WnHAGLAZ HpEGL HnLONG-BRANCH-HAGALL HnSHORT-TWIG-HAGALL HnNAUDIZ NYD NAUD NnSHORT-TWIG-NAUD N",
    "16C0 nDOTTED-NnISAZ IS ISS InEnJERAN JnGERnLONG-BRANCH-AR AEnSHORT-TWIG-AR AnIWAZ EOHnPERTHO PEORTH P",
    "16C9 nALGIZ EOLHXnSOWILO SoIGEL LONG-BRANCH-SOL SoHORT-TWIG-SOL SnCnZnTIWAZ TIR TYR TnSHORT-TWIG-TYR TnD",
    "16D2 nBERKANAN BEORC BJARKAN BnSHORT-TWIG-BJARKAN BnDOTTED-PnOPEN-PnEHWAZ EH EnMANNAZ MAN MnLONG-BRANCH-MADR M",
    "16D9 nSHORT-TWIG-MADR MnLAUKAZ LAGU LOGR LnDOTTED-LnINGWAZqnDAGAZ DAEG DnOTHALAN ETHEL OnEARnIORnCWEORTHoALC",
    "16E4 oEALCnSTANnLONG-BRANCH-YRnSHORT-TWIG-YRnICELANDIC-YRnQnXgSINGLE PUNCTUATIONgMULTIPLE PUNCTUATION",
    "16ED gCROSS PUNCTUATIONgARLAUG SYMBOLgTVIMADUR SYMBOLgBELGTHOR SYMBOLgLETTER KnSHnOOnFRANKS CASKET OSzT ISzT EH",
    "16F7 zT ACzT AESC",
    "1700 aTAGALOG LETTER ApIpUpKApGApNGApTApDApNApPApBApMApYApRApLApWApSApHAiVOWEL SIGN ItUiSIGN VIRAMAnPAMUDPOD",
    "171F iLETTER ARCHAIC RAaHANUNOO LETTER ApIpUpKApGApNGApTApDApNApPApBApMApYApRApLApWApSApHAiVOWEL SIGN ItU",
    "1734 iSIGN PAMUDPODaPHILIPPINE SINGLE PUNCTUATIONlDOUBLE PUNCTUATION",
    "1740 aBUHID LETTER AnInUnKAnGAnNGAnTAnDAnNAnPAnBAnMAnYAnRAnLAnWAnSAnHAgVOWEL SIGN IrU",
    "1760 aTAGBANWA LETTER AqIqUqKAqGAqNGAqTAqDAqNAqPAqBAqMAqYA",
    "176E qLAqWAqSA",
    "1772 jVOWEL SIGN IuU",
    "1780 aKHMER LETTER KAoHAoOoHOnNGOnCAoHAoOoHOnNYOnDAnTTHAnDOnTTHOnNNOnTAoHAoOoHOnNOnBAnPHAoOoHOnMOnYOnROnLOnVO",
    "179D nSHAoSOoAnHAnLAnQAgINDEPENDENT VOWEL QAQzAAzIzIIzUzUKzUUzUUVyRYzYYyLYzYYyQEzAIzOO TYPE ONEzOO TYPE TWOzAU",
    "17B4 gVOWEL INHERENT AQwAmSIGN AArIsIrYsYrUsUsArOErYArIErErAEsIrOOrAUgSIGN NIKAHITlREAHMUKlYUUKALEAPINTU",
    "17C9 lMUUSIKATOANlTRIISAPlBANTOClROBATlTOANDAKHIATlKAKABATlAHSDAlSAMYOK SANNYAlVIRIAMlCOENGlBATHAMASATlKHAN",
    "17D5 lBARIYOOSANlCAMNUC PII KUUHlLEK TOOlBEYYALlPHNAEK MUANlKOOMUUTgCURRENCY SYMBOL RIELgSIGN AVAKRAHASANYA",
    "17DD mTTHACAN",
    "17E0 gDIGIT ZEROmONEmTWOnHREEmFOURnIVEmSIXnEVENmEIGHTmNINE",
    "17F0 gSYMBOL LEK ATTAK SONxMUOYxPIIxBEIyUONxPRAMzAM-MUOYzAM-PIIzAM-BEIzAM-BUON",
    "1800 aMONGOLIAN BIRGAkELLIPSISkCOMMAkFULL STOPkCOLONkFOUR DOTSkTODO SOFT HYPHENkSIBE SYLLABLE BOUNDARY MARKER",
    "1808 kMANCHU COMMArFULL STOPkNIRUGUkFREE VARIATION SELECTOR ONEzSELECTOR TWOzSELECTOR THREEkVOWEL SEPARATOR",
    "180F kFREE VARIATION SELECTOR FOURkDIGIT ZEROqONEqTWOrHREEqFOURrIVEqSIXrEVENqEIGHTqNINE",
    "1820 kLETTER ArErIrOrUrOErUErEErNArANGrBArPArQArGArMArLArSAsHArTArDArCHArJArYArRArWArFArKAsHArTSArZArHAArZRArLHA",
    "1841 rZHIrCHIrTODO LONG VOWEL SIGNwEwIwOwUwOEwUEwANGwBAwPAwQAwGAwMAwTAwDAwCHAwJAwTSAwYAwWAwKAwGAAwHAAwJIAwNIA",
    "185C wDZArSIBE EwIxYwUExwANGwKAwGAwHAwPAwSHAwTAwDAwJAwFAwGAAwHAAwTSAwZAwRAAwCHAwZHArMANCHU IyKAyRAyFAyZHA",
    "1878 rCHA WITH TWO DOTS",
    "1880 rALI GALI ANUSVARA ONEz VISARGA ONEz DAMARUz UBADAMAz INVERTED UBADAMAz BALUDAz THREE BALUDAz Az Iz KAz NGA",
    "188B z CAz TTAz TTHAz DDAz NNAz TAz DAz PAz PHAz SSAz ZHAz ZAz AHrTODO ALI GALI TAz GALI ZHArMANCHU ALI GALI GHA",
    "189B zLI GALI NGAzLI GALI CAzLI GALI JHAzLI GALI TTAzLI GALI DDHAzLI GALI TAzLI GALI DHAzLI GALI SSAzLI GALI CYA",
    "18A4 zLI GALI ZHAzLI GALI ZArALI GALI HALF Uz HALF YArMANCHU ALI GALI BHArALI GALI DAGALGArMANCHU ALI GALI LHA",
    "18B0 aCANADIAN SYLLABICS OYtAYuAYtWAYtPOYuAYuWOYtTAYtKAYuWAYtMAYtNOYuAYtLAYtSOYuAYuHOYvAYvWOYtYOYuAYtRAYtNWI",
    "18C7 tOJIBWAY NWItNWIItOJIBWAY NWIItNWOtOJIBWAY NWOtNWOOtOJIBWAY NWOOtRWEEvIwIvOwOvAtOJIBWAY PzY TzY KzY CzY M",
    "18D9 zY NzY SzY SHtEASTERN WtWESTERN WtFINAL SMALL RINGzRAISED DOTtR-CREE RWEtWEST-CREE LOOzREE LAAtTHWEwAuTHWE",
    "18E6 wOOwAAuLHWEwOOtSAYISI SHWEz SHOOz HOOtCARRIER GWUzR DENE GEEzR GAAzR GWAtSAYISI JUUtCARRIER JWA",
    "18F3 tBEAVER DENE Lz DENE RtCARRIER DENTAL S",
    "1900 aLIMBU VOWEL-CARRIER LETTERgLETTER KAoHAnGAoHAnNGAnCAoHAnJAoHAnYANnTAoHAnDAoHAnNAnPAoHAnBAoHAnMAnYAnRAnLA",
    "1918 nWAnSHAoSAoAnHAnGYANnTRA",
    "1920 gVOWEL SIGN ArIrUrEErAIrOOrAUrErOgSUBJOINED LETTER YAxRAxWA",
    "1930 hMALL LETTER KAtNGAtANUSVARAtTAtNAtPAtMAtRAtLAhIGN MUKPHRENGlKEMPHRENGlSA-I",
    "1940 lLOO",
    "1944 gEXCLAMATION MARKgQUESTION MARKgDIGIT ZEROmONEmTWOnHREEmFOURnIVEmSIXnEVENmEIGHTmNINEaTAI LE LETTER KAoXA",
    "1952 oNGAoTSAoSAoYAoTApHAoLAoPApHAoMAoFAoVAoHAoQAoKHAoTSHAoNAoAoIoEEpHoUoOOpoUEoEoAUEpI",
    "1970 oTONE-2t3t4t5t6",
    "1980 aNEW TAI LUE LETTER HIGH QAtLOW QAtHIGH KAyXAyNGAtLOW KAxXAxNGAtHIGH TSAySAyYAtLOW TSAxSAxYAtHIGH TAzHAyNA",
    "1991 tLOW TAyHAxNAtHIGH PAzHAyMAtLOW PAyHAxMAtHIGH FAyVAyLAtLOW FAxVAxLAtHIGH HAyDAyBAtLOW HAxDAxBAtHIGH KVAyXVA",
    "19A8 tLOW KVAxXVAtHIGH SUAtLOW SUA",
    "19B0 mVOWEL SIGN VOWEL SHORTENERxAAxIIxUyUxExAExOyAxUExAYyAYxUYxOYyAYxUEYxIYmLETTER FINAL VzNGzNzMzKzDzB",
    "19C8 mTONE MARK-1w2",
    "19D0 mDIGIT ZEROsONEsTWOtHREEsFOURtIVEsSIXtEVENsEIGHTsNINEmTHAM DIGIT ONE",
    "19DE mSIGN LAEuVaKHMER SYMBOL PATHAMASATnMUOY KOETnPII KOETnBEI KOEToUON KOETnPRAM KOETr-MUOY KOETsPII KOET",
    "19E8 sBEI KOETtUON KOETnDAP KOETq-MUOY KOETrPII KOETrBEI KOETsUON KOETrPRAM KOETnTUTEYASATnMUOY ROCnPII ROC",
    "19F3 nBEI ROCoUON ROCnPRAM ROCr-MUOY ROCsPII ROCsBEI ROCtUON ROCnDAP ROCq-MUOY ROCrPII ROCrBEI ROCsUON ROC",
    "19FF rPRAM ROCaBUGINESE LETTER KAqGAqNGAsKAqPAqBAqMArPAqTAqDAqNArRAqCAqJAqNYAsCAqYAqRAqLAqVAqSAqAqHA",
    "1A17 jVOWEL SIGN IuUuEuOuAE",
    "1A1E jPALLAWAjEND OF SECTIONaTAI THAM LETTER HIGH KAwHAwXAqLOW KAvXAvHAqNGAqHIGH CAwHAqLOW CAuSAuCHAqNYAqRATA",
    "1A2E qHIGH RATHAqDAqLOW RATHAqRANAqHIGH TAwHAqLOW TAvHAqNAqBAqHIGH PAwHAvFAqLOW PAuFAuPHAqMAqLOW YAqHIGH YAqRA",
    "1A42 rUEqLArUEqWAqHIGH SHAwSAwAvHAqLLAqAqLOW HAqIrIqUrUqEEqOOqLAEqGREAT SAjCONSONANT SIGN MEDIAL RAzEDIAL LA",
    "1A57 yLA TANG LAIjSIGN MAI KANG LAIjCONSONANT SIGN FINAL NGAyLOW PAyHIGH RATHA OR LOW PAyMAyBAySA",
    "1A60 jSIGN SAKOTjVOWEL SIGN AuMAI SATuAAuTALL AAuIvIuUEvUEvvUuOvA BELOWvYuEuAEuOOuAIuTHAM AIuOA ABOVE",
    "1A74 jSIGN MAI KANGoTONE-1t2oKHUEN TONE-3z4z5oRA HAAMoMAI SAMoKHUEN-LUE KARAN",
    "1A7F jCOMBINING CRYPTOGRAMMIC DOTjHORA DIGIT ZEROuONEuTWOvHREEuFOURvIVEuSIXvEVENuEIGHTuNINE",
    "1A90 jTHAM DIGIT ZEROuONEuTWOvHREEuFOURvIVEuSIXvEVENuEIGHTuNINE",
    "1AA0 jSIGN WIANGtWAAKoSAWANoKEOWoHOYoDOKMAIoREVERSED ROTATED RANAoMAI YAMOKoKAANsKUUoSATKAANvKUUoHANGoCAANG",
    "1AB0 aCOMBINING DOUBLED CIRCUMFLEX ACCENTlIAERESIS-RINGkINFINITYkDOWNWARDS ARROWkTRIPLE DOTkX-X BELOW",
    "1AB6 kWIGGLY LINE BELOWkOPEN MARK BELOWkDOUBLE OPEN MARK BELOWkLIGHT CENTRALIZATION STROKE BELOW",
    "1ABA kSTRONG CENTRALIZATION STROKE BELOWkPARENTHESES ABOVEkDOUBLE PARENTHESES ABOVEkPARENTHESES BELOWwOVERLAY",
    "1ABF kLATIN SMALL LETTER W BELOWzTER TURNED W BELOWlEFT PARENTHESIS ABOVE LEFTkRIGHT PARENTHESIS ABOVE RIGHT",
    "1AC3 kLEFT PARENTHESIS BELOW LEFTkRIGHT PARENTHESIS BELOW RIGHTkSQUARE BRACKETS ABOVEkNUMBER SIGN ABOVE",
    "1AC7 kINVERTED DOUBLE ARCH ABOVEkPLUS SIGN ABOVEkDOUBLE PLUS SIGN ABOVEzN BELOWkTRIPLE ACUTE ACCENT",
    "1ACC kLATIN SMALL LETTER INSULAR GzTER INSULAR RzTER INSULAR T",
    "1B00 aBALINESE SIGN ULU RICEMsCANDRAoCECEKoSURANGoBISAHjLETTER AKARAv TEDUNGqIKARAv TEDUNGqUKARAv TEDUNGqRA REPA",
    "1B0C x TEDUNGqLA LENGAy TEDUNGqEKARAqAIKARAqOKARAv TEDUNGqKAs MAHAPRANAqGAs GORAqNGAqCAs LACAqJAs JERAqNYA",
    "1B1D qTA LATIKtMURDA MAHAPRANAqDA MURDA ALPAPRANAzMAHAPRANAqNA RAMBATqTAs TAWAqDAs MADUqNAqPAs KAPALqBAs KEMBANG",
    "1B2B qMAqYAqRAqLAqWAqSA SAGAvPAsqHAjSIGN REREKANjVOWEL SIGN TEDUNGuULUx SARIuSUKUy ILUTuRA REPAzPA TEDUNG",
    "1B3C uLA LENGAzNGA TEDUNGuTALINGzG REPAzG TEDUNGzG REPA TEDUNGuPEPETz TEDUNGjADEG ADEGjLETTER KAF SASAK",
    "1B46 rHOT SASAKqTZIR SASAKqEF SASAKqVE SASAKqZAL SASAKqASYURA SASAKrRCHAIC JNYA",
    "1B50 jDIGIT ZEROpONEpTWOqHREEpFOURqIVEpSIXqEVENpEIGHTpNINEjPANTIlMADAjWINDUjCARIK PAMUNGKAHpSIKIpPAREREN",
    "1B60 jPAMENENGjMUSICAL SYMBOL DONGzENGzUNGzANGzANG SURANGzINGzAENGzEUNGzAINGzANG GEDEyCOMBINING TEGEH",
    "1B6C zOMBINING ENDEPzOMBINING KEMPULzOMBINING KEMPLIzOMBINING JEGOGANzOMBINING KEMPUL WITH JEGOGAN",
    "1B71 zOMBINING KEMPLI WITH JEGOGANzOMBINING BENDEzOMBINING GONGyRIGHT-HAND OPEN DUGzIGHT-HAND OPEN DAG",
    "1B76 zIGHT-HAND CLOSED TUKzIGHT-HAND CLOSED TAKyLEFT-HAND OPEN PANGzEFT-HAND OPEN PUNGzEFT-HAND CLOSED PLAK",
    "1B7B zEFT-HAND CLOSED PLUKzEFT-HAND OPEN PINGjPANTI LANTANGlMADA LANTANG",
    "1B80 aSUNDANESE SIGN PANYECEKsGLAYARtWISADkLETTER ArIrUrAErOrEsUrKArQArGArNGArCArJArZArNYArTArDArNArPArFArVArBA",
    "1B99 rMArYArRArLArWArSArXArHAkCONSONANT SIGN PAMINGKALzPANYAKRAzPANYIKUkVOWEL SIGN PANGHULUyYUKUyAELAENGyOLONG",
    "1BA8 xMEPETxNEULEUNGkSIGN PAMAAEHpVIRAMAkCONSONANT SIGN PASANGAN MAzPASANGAN WAkLETTER KHArSYAkDIGIT ZEROqONE",
    "1BB2 qTWOrHREEqFOURrIVEqSIXrEVENqEIGHTqNINEkAVAGRAHAkLETTER REUrLEUrBHArFINAL KxMaBATAK LETTER AnSIMALUNGUN AnHA",
    "1BC3 nSIMALUNGUN HAnMANDAILING HAnBAnKARO BAnPAnSIMALUNGUN PAnNAnMANDAILING NAnWAnSIMALUNGUN WAnPAKPAK WAnGA",
    "1BCF nSIMALUNGUN GAnJAnDAnRAnSIMALUNGUN RAnMAnSIMALUNGUN MAoOUTHERN TAnNORTHERN TAnSAoIMALUNGUN SAnMANDAILING SA",
    "1BDB nYAnSIMALUNGUN YAnNGAnLAnSIMALUNGUN LAnNYAnCAnNDAnMBAnInUgSIGN TOMPIgVOWEL SIGN ErPAKPAK ErEErIrKARO IrO",
    "1BED rKARO OrUs FOR SIMALUNGUN SAgCONSONANT SIGN NGvHgPANGOLATjONGONAN",
    "1BFC gSYMBOL BINDU NA METEKtPINARBORAStJUDULtPANGOLATaLEPCHA LETTER KApLApHAoGApLAoNGAoCApHAoJAoNYAoTApHAoDAoNA",
    "1C0E oPApLApHAoFApLAoBApLAoMApLAoTSAqHAoDZAoYAoRAoLAoHApLAoVAoSApHAoWAoAhSUBJOINED LETTER YAyRAhVOWEL SIGN AAsI",
    "1C28 sOtOsUtUsEhCONSONANT SIGN KwMwLwNwPwRwTwNYIN-DOwKANGhSIGN RANmNUKTA",
    "1C3B hPUNCTUATION TA-ROLtNYET THYOOM TA-ROLtCER-WAtTSHOOK CER-WAzhDIGIT ZEROnONEnTWOoHREEnFOURoIVEnSIXoEVEN",
    "1C48 nEIGHTnNINE",
    "1C4D hLETTER TTAqHAoDDAaOL CHIKI DIGIT ZEROpONEpTWOqHREEpFOURqIVEpSIXqEVENpEIGHTpNINEjLETTER LAqATrGrNGrLqLAA",
    "1C60 qAAKsJsMsWqLIqISrHrNYrRqLUqUCrDrNNrYqLEqEPrDDrNrRRqLOqOTTrBrVrHjMU TTUDDAGjGAAHLAA TTUDDAAG",
    "1C7A jMU-GAAHLAA TTUDDAAGjRELAAjPHAARKAAjAHADjPUNCTUATION MUCAADvDOUBLE MUCAADaCYRILLIC SMALL LETTER ROUNDED VE",
    "1C81 wLONG-LEGGED DEwNARROW OwWIDE ESwTALL TExHREE-LEGGED TExALL HARD SIGNzL YATwUNBLENDED UK",
    "1C90 aGEORGIAN MTAVRULI CAPITAL LETTER ANz LETTER BANz LETTER GANz LETTER DONz LETTER ENz LETTER VINz LETTER ZEN",
    "1C97 z LETTER TANz LETTER INz LETTER KANz LETTER LASz LETTER MANz LETTER NARz LETTER ONz LETTER PARz LETTER ZHAR",
    "1CA0 z LETTER RAEz LETTER SANz LETTER TARz LETTER UNz LETTER PHARz LETTER KHARz LETTER GHANz LETTER QAR",
    "1CA8 z LETTER SHINz LETTER CHINz LETTER CANz LETTER JILz LETTER CILz LETTER CHARz LETTER XANz LETTER JHAN",
    "1CB0 z LETTER HAEz LETTER HEz LETTER HIEz LETTER WEz LETTER HARz LETTER HOEz LETTER FIz LETTER YNz LETTER ELIFI",
    "1CB9 z LETTER TURNED GANz LETTER AIN",
    "1CBD z LETTER AENz LETTER HARD SIGNz LETTER LABIAL SIGNaSUNDANESE PUNCTUATION BINDU SURYAzDU PANGLONGzDU PURNAMA",
    "1CC3 zDU CAKRAzDU LEU SATANGAzDU KA SATANGAzDU DA SATANGAzDU BA SATANGA",
    "1CD0 aVEDIC TONE KARSHANAlSHARAlPRENKHAgSIGN NIHSHVASAlYAJURVEDIC MIDLINE SVARITA",
    "1CD5 gTONE YAJURVEDIC AGGRAVATED INDEPENDENT SVARITAwINDEPENDENT SVARITAwKATHAKA INDEPENDENT SVARITA",
    "1CD8 lCANDRA BELOWlYAJURVEDIC KATHAKA INDEPENDENT SVARITA SCHROEDERlDOUBLE SVARITAlTRIPLE SVARITA",
    "1CDC lKATHAKA ANUDATTAlDOT BELOWlTWO DOTS BELOWmHREE DOTS BELOWlRIGVEDIC KASHMIRI INDEPENDENT SVARITA",
    "1CE1 lATHARVAVEDIC INDEPENDENT SVARITAgSIGN VISARGA SVARITAtUDATTAlREVERSED VISARGA UDATTAlVISARGA ANUDATTA",
    "1CE6 lREVERSED VISARGA ANUDATTAlVISARGA UDATTA WITH TAILtANUDATTA WITH TAILlANUSVARA ANTARGOMUKHAuBAHIRGOMUKHA",
    "1CEB uVAMAGOMUKHAzOMUKHA WITH TAILlTIRYAKlHEXIFORM LONG ANUSVARAlLONG ANUSVARAlRTHANG LONG ANUSVARA",
    "1CF1 lANUSVARA UBHAYATO MUKHAmRDHAVISARGAlROTATED ARDHAVISARGAgTONE CANDRA ABOVEgSIGN JIHVAMULIYAlUPADHMANIYA",
    "1CF7 lATIKRAMAgTONE RING ABOVElDOUBLE RING ABOVEgSIGN DOUBLE ANUSVARA ANTARGOMUKHA",
    "1D00 aLATIN LETTER SMALL CAPITAL AzL AEgSMALL LETTER TURNED AEgLETTER SMALL CAPITAL BARRED BzL CzL DzL ETHzL E",
    "1D08 gSMALL LETTER TURNED OPEN Ez IgLETTER SMALL CAPITAL JzL KzL L WITH STROKEzL MzL REVERSED NzL OzL OPEN O",
    "1D11 gSMALL LETTER SIDEWAYS OzYS OPEN OzYS O WITH STROKEtTURNED OEgLETTER SMALL CAPITAL OU",
    "1D16 gSMALL LETTER TOP HALF OtBOTTOM HALF OgLETTER SMALL CAPITAL PzL REVERSED RzL TURNED RzL TzL U",
    "1D1D gSMALL LETTER SIDEWAYS UzYS DIAERESIZED UzYS TURNED MgLETTER SMALL CAPITAL VzL WzL ZzL EZH",
    "1D24 nVOICED LARYNGEAL SPIRANTnAINaGREEK LETTER SMALL CAPITAL GAMMAzL LAMDAzL PIzL RHOzL PSI",
    "1D2B aCYRILLIC LETTER SMALL CAPITAL ELaMODIFIER LETTER CAPITAL AzEyBzARRED ByDyEyREVERSED EyGyHyIyJyKyLyMyN",
    "1D3B yREVERSED NyOzUyPyRyTyUyWqSMALL AwTURNED AwALPHAwTURNED AEwBwDwEwSCHWAwOPEN EwTURNED OPEN EwGwTURNED IwKwM",
    "1D51 wENGwOxPEN OwTOP HALF OwBOTTOM HALF OwPwTwUwSIDEWAYS UwTURNED MwVwAINwBETAwGREEK GAMMAwDELTAwGREEK PHIwCHI",
    "1D62 aLATIN SUBSCRIPT SMALL LETTER IzTER RzTER UzTER VaGREEK SUBSCRIPT SMALL LETTER BETAzTER GAMMAzTER RHO",
    "1D69 zTER PHIzTER CHIaLATIN SMALL LETTER UEtB WITH MIDDLE TILDEtD WITH MIDDLE TILDEtF WITH MIDDLE TILDE",
    "1D6F tM WITH MIDDLE TILDEtN WITH MIDDLE TILDEtP WITH MIDDLE TILDEtR WITH MIDDLE TILDEz FISHHOOK AND MIDDLE TILDE",
    "1D74 tS WITH MIDDLE TILDEtT WITH MIDDLE TILDEtZ WITH MIDDLE TILDEtTURNED GaMODIFIER LETTER CYRILLIC EN",
    "1D79 aLATIN SMALL LETTER INSULAR GtTH WITH STRIKETHROUGHmCAPITAL LETTER I WITH STROKEmLETTER IOTA WITH STROKE",
    "1D7D tP WITH STROKEmCAPITAL LETTER U WITH STROKEmLETTER UPSILON WITH STROKEtB WITH PALATAL HOOK",
    "1D81 tD WITH PALATAL HOOKtF WITH PALATAL HOOKtG WITH PALATAL HOOKtK WITH PALATAL HOOKtL WITH PALATAL HOOK",
    "1D86 tM WITH PALATAL HOOKtN WITH PALATAL HOOKtP WITH PALATAL HOOKtR WITH PALATAL HOOKtS WITH PALATAL HOOK",
    "1D8B tESH WITH PALATAL HOOKtV WITH PALATAL HOOKtX WITH PALATAL HOOKtZ WITH PALATAL HOOKtA WITH RETROFLEX HOOK",
    "1D90 uLPHA WITH RETROFLEX HOOKtD WITH HOOK AND TAILtE WITH RETROFLEX HOOKtOPEN E WITH RETROFLEX HOOK",
    "1D94 tREVERSED OPEN E WITH RETROFLEX HOOKtSCHWA WITH RETROFLEX HOOKtI WITH RETROFLEX HOOK",
    "1D97 tOPEN O WITH RETROFLEX HOOKtESH WITH RETROFLEX HOOKtU WITH RETROFLEX HOOKtEZH WITH RETROFLEX HOOK",
    "1D9B aMODIFIER LETTER SMALL TURNED ALPHAwCx WITH CURLwETHwREVERSED OPEN EwFwDOTLESS J WITH STROKEwSCRIPT G",
    "1DA3 wTURNED HwI WITH STROKExOTAwCAPITAL IzITAL I WITH STROKEwJ WITH CROSSED-TAILwL WITH RETROFLEX HOOK",
    "1DAA zITH PALATAL HOOKwCAPITAL LwM WITH HOOKwTURNED M WITH LONG LEGwN WITH LEFT HOOKzITH RETROFLEX HOOK",
    "1DB0 wCAPITAL NwBARRED OwPHIwS WITH HOOKwESHwT WITH PALATAL HOOKwU BARxPSILONwCAPITAL UwV WITH HOOKwTURNED VwZ",
    "1DBC x WITH RETROFLEX HOOKzITH CURLwEZHwTHETAaCOMBINING DOTTED GRAVE ACCENTrACUTE ACCENTkSNAKE BELOW",
    "1DC3 lUSPENSION MARKkMACRON-ACUTEkGRAVE-MACRONkMACRON-GRAVEkACUTE-MACRONkGRAVE-ACUTE-GRAVEkACUTE-GRAVE-ACUTE",
    "1DCA kLATIN SMALL LETTER R BELOWkBREVE-MACRONkMACRON-BREVEkDOUBLE CIRCUMFLEX ABOVEkOGONEK ABOVEkZIGZAG BELOW",
    "1DD0 kIS BELOWkUR ABOVElS ABOVEkLATIN SMALL LETTER FLATTENED OPEN A ABOVEzTER AEzTER AOzTER AVzTER C CEDILLA",
    "1DD8 zTER INSULAR DzTER ETHzTER GqLETTER SMALL CAPITAL GqSMALL LETTER KzTER LqLETTER SMALL CAPITAL L",
    "1DDF zALL CAPITAL MqSMALL LETTER NqLETTER SMALL CAPITAL NzALL CAPITAL RqSMALL LETTER R ROTUNDAzTER SzTER LONG S",
    "1DE6 zTER ZzTER ALPHAzTER BzTER BETAzTER SCHWAzTER FzTER L WITH DOUBLE MIDDLE TILDE",
    "1DED zTER O WITH LIGHT CENTRALIZATION STROKEzTER PzTER ESHzTER U WITH LIGHT CENTRALIZATION STROKEzTER W",
    "1DF2 zTER A WITH DIAERESISzTER O WITH DIAERESISzTER U WITH DIAERESISkUP TACK ABOVEkKAVYKA ABOVE RIGHTxLEFT",
    "1DF8 kDOT ABOVE LEFTkWIDE INVERTED BRIDGE BELOWkDOT BELOW LEFTlELETION MARKlOUBLE INVERTED BREVE BELOW",
    "1DFD kALMOST EQUAL TO BELOWkLEFT ARROWHEAD ABOVEkRIGHT ARROWHEAD AND DOWN ARROWHEAD BELOW",
    "1E00 aLATIN CAPITAL LETTER A WITH RING BELOWgSMALL LETTER A WITH RING BELOWgCAPITAL LETTER B WITH DOT ABOVE",
    "1E03 gSMALL LETTER B WITH DOT ABOVEgCAPITAL LETTER B WITH DOT BELOWgSMALL LETTER B WITH DOT BELOW",
    "1E06 gCAPITAL LETTER B WITH LINE BELOWgSMALL LETTER B WITH LINE BELOWgCAPITAL LETTER C WITH CEDILLA AND ACUTE",
    "1E09 gSMALL LETTER C WITH CEDILLA AND ACUTEgCAPITAL LETTER D WITH DOT ABOVEgSMALL LETTER D WITH DOT ABOVE",
    "1E0C gCAPITAL LETTER D WITH DOT BELOWgSMALL LETTER D WITH DOT BELOWgCAPITAL LETTER D WITH LINE BELOW",
    "1E0F gSMALL LETTER D WITH LINE BELOWgCAPITAL LETTER D WITH CEDILLAgSMALL LETTER D WITH CEDILLA",
    "1E12 gCAPITAL LETTER D WITH CIRCUMFLEX BELOWgSMALL LETTER D WITH CIRCUMFLEX BELOW",
    "1E14 gCAPITAL LETTER E WITH MACRON AND GRAVEgSMALL LETTER E WITH MACRON AND GRAVE",
    "1E16 gCAPITAL LETTER E WITH MACRON AND ACUTEgSMALL LETTER E WITH MACRON AND ACUTE",
    "1E18 gCAPITAL LETTER E WITH CIRCUMFLEX BELOWgSMALL LETTER E WITH CIRCUMFLEX BELOW",
    "1E1A gCAPITAL LETTER E WITH TILDE BELOWgSMALL LETTER E WITH TILDE BELOWgCAPITAL LETTER E WITH CEDILLA AND BREVE",
    "1E1D gSMALL LETTER E WITH CEDILLA AND BREVEgCAPITAL LETTER F WITH DOT ABOVEgSMALL LETTER F WITH DOT ABOVE",
    "1E20 gCAPITAL LETTER G WITH MACRONgSMALL LETTER G WITH MACRONgCAPITAL LETTER H WITH DOT ABOVE",
    "1E23 gSMALL LETTER H WITH DOT ABOVEgCAPITAL LETTER H WITH DOT BELOWgSMALL LETTER H WITH DOT BELOW",
    "1E26 gCAPITAL LETTER H WITH DIAERESISgSMALL LETTER H WITH DIAERESISgCAPITAL LETTER H WITH CEDILLA",
    "1E29 gSMALL LETTER H WITH CEDILLAgCAPITAL LETTER H WITH BREVE BELOWgSMALL LETTER H WITH BREVE BELOW",
    "1E2C gCAPITAL LETTER I WITH TILDE BELOWgSMALL LETTER I WITH TILDE BELOW",
    "1E2E gCAPITAL LETTER I WITH DIAERESIS AND ACUTEgSMALL LETTER I WITH DIAERESIS AND ACUTE",
    "1E30 gCAPITAL LETTER K WITH ACUTEgSMALL LETTER K WITH ACUTEgCAPITAL LETTER K WITH DOT BELOW",
    "1E33 gSMALL LETTER K WITH DOT BELOWgCAPITAL LETTER K WITH LINE BELOWgSMALL LETTER K WITH LINE BELOW",
    "1E36 gCAPITAL LETTER L WITH DOT BELOWgSMALL LETTER L WITH DOT BELOWgCAPITAL LETTER L WITH DOT BELOW AND MACRON",
    "1E39 gSMALL LETTER L WITH DOT BELOW AND MACRONgCAPITAL LETTER L WITH LINE BELOWgSMALL LETTER L WITH LINE BELOW",
    "1E3C gCAPITAL LETTER L WITH CIRCUMFLEX BELOWgSMALL LETTER L WITH CIRCUMFLEX BELOWgCAPITAL LETTER M WITH ACUTE",
    "1E3F gSMALL LETTER M WITH ACUTEgCAPITAL LETTER M WITH DOT ABOVEgSMALL LETTER M WITH DOT ABOVE",
    "1E42 gCAPITAL LETTER M WITH DOT BELOWgSMALL LETTER M WITH DOT BELOWgCAPITAL LETTER N WITH DOT ABOVE",
    "1E45 gSMALL LETTER N WITH DOT ABOVEgCAPITAL LETTER N WITH DOT BELOWgSMALL LETTER N WITH DOT BELOW",
    "1E48 gCAPITAL LETTER N WITH LINE BELOWgSMALL LETTER N WITH LINE BELOWgCAPITAL LETTER N WITH CIRCUMFLEX BELOW",
    "1E4B gSMALL LETTER N WITH CIRCUMFLEX BELOWgCAPITAL LETTER O WITH TILDE AND ACUTE",
    "1E4D gSMALL LETTER O WITH TILDE AND ACUTEgCAPITAL LETTER O WITH TILDE AND DIAERESIS",
    "1E4F gSMALL LETTER O WITH TILDE AND DIAERESISgCAPITAL LETTER O WITH MACRON AND GRAVE",
    "1E51 gSMALL LETTER O WITH MACRON AND GRAVEgCAPITAL LETTER O WITH MACRON AND ACUTE",
    "1E53 gSMALL LETTER O WITH MACRON AND ACUTEgCAPITAL LETTER P WITH ACUTEgSMALL LETTER P WITH ACUTE",
    "1E56 gCAPITAL LETTER P WITH DOT ABOVEgSMALL LETTER P WITH DOT ABOVEgCAPITAL LETTER R WITH DOT ABOVE",
    "1E59 gSMALL LETTER R WITH DOT ABOVEgCAPITAL LETTER R WITH DOT BELOWgSMALL LETTER R WITH DOT BELOW",
    "1E5C gCAPITAL LETTER R WITH DOT BELOW AND MACRONgSMALL LETTER R WITH DOT BELOW AND MACRON",
    "1E5E gCAPITAL LETTER R WITH LINE BELOWgSMALL LETTER R WITH LINE BELOWgCAPITAL LETTER S WITH DOT ABOVE",
    "1E61 gSMALL LETTER S WITH DOT ABOVEgCAPITAL LETTER S WITH DOT BELOWgSMALL LETTER S WITH DOT BELOW",
    "1E64 gCAPITAL LETTER S WITH ACUTE AND DOT ABOVEgSMALL LETTER S WITH ACUTE AND DOT ABOVE",
    "1E66 gCAPITAL LETTER S WITH CARON AND DOT ABOVEgSMALL LETTER S WITH CARON AND DOT ABOVE",
    "1E68 gCAPITAL LETTER S WITH DOT BELOW AND DOT ABOVEgSMALL LETTER S WITH DOT BELOW AND DOT ABOVE",
    "1E6A gCAPITAL LETTER T WITH DOT ABOVEgSMALL LETTER T WITH DOT ABOVEgCAPITAL LETTER T WITH DOT BELOW",
    "1E6D gSMALL LETTER T WITH DOT BELOWgCAPITAL LETTER T WITH LINE BELOWgSMALL LETTER T WITH LINE BELOW",
    "1E70 gCAPITAL LETTER T WITH CIRCUMFLEX BELOWgSMALL LETTER T WITH CIRCUMFLEX BELOW",
    "1E72 gCAPITAL LETTER U WITH DIAERESIS BELOWgSMALL LETTER U WITH DIAERESIS BELOW",
    "1E74 gCAPITAL LETTER U WITH TILDE BELOWgSMALL LETTER U WITH TILDE BELOWgCAPITAL LETTER U WITH CIRCUMFLEX BELOW",
    "1E77 gSMALL LETTER U WITH CIRCUMFLEX BELOWgCAPITAL LETTER U WITH TILDE AND ACUTE",
    "1E79 gSMALL LETTER U WITH TILDE AND ACUTEgCAPITAL LETTER U WITH MACRON AND DIAERESIS",
    "1E7B gSMALL LETTER U WITH MACRON AND DIAERESISgCAPITAL LETTER V WITH TILDEgSMALL LETTER V WITH TILDE",
    "1E7E gCAPITAL LETTER V WITH DOT BELOWgSMALL LETTER V WITH DOT BELOWgCAPITAL LETTER W WITH GRAVE",
    "1E81 gSMALL LETTER W WITH GRAVEgCAPITAL LETTER W WITH ACUTEgSMALL LETTER W WITH ACUTE",
    "1E84 gCAPITAL LETTER W WITH DIAERESISgSMALL LETTER W WITH DIAERESISgCAPITAL LETTER W WITH DOT ABOVE",
    "1E87 gSMALL LETTER W WITH DOT ABOVEgCAPITAL LETTER W WITH DOT BELOWgSMALL LETTER W WITH DOT BELOW",
    "1E8A gCAPITAL LETTER X WITH DOT ABOVEgSMALL LETTER X WITH DOT ABOVEgCAPITAL LETTER X WITH DIAERESIS",
    "1E8D gSMALL LETTER X WITH DIAERESISgCAPITAL LETTER Y WITH DOT ABOVEgSMALL LETTER Y WITH DOT ABOVE",
    "1E90 gCAPITAL LETTER Z WITH CIRCUMFLEXgSMALL LETTER Z WITH CIRCUMFLEXgCAPITAL LETTER Z WITH DOT BELOW",
    "1E93 gSMALL LETTER Z WITH DOT BELOWgCAPITAL LETTER Z WITH LINE BELOWgSMALL LETTER Z WITH LINE BELOW",
    "1E96 tH WITH LINE BELOWtT WITH DIAERESIStW WITH RING ABOVEtY WITH RING ABOVEtA WITH RIGHT HALF RING",
    "1E9B tLONG S WITH DOT ABOVEz WITH DIAGONAL STROKEz WITH HIGH STROKEgCAPITAL LETTER SHARP SgSMALL LETTER DELTA",
    "1EA0 gCAPITAL LETTER A WITH DOT BELOWgSMALL LETTER A WITH DOT BELOWgCAPITAL LETTER A WITH HOOK ABOVE",
    "1EA3 gSMALL LETTER A WITH HOOK ABOVEgCAPITAL LETTER A WITH CIRCUMFLEX AND ACUTE",
    "1EA5 gSMALL LETTER A WITH CIRCUMFLEX AND ACUTEgCAPITAL LETTER A WITH CIRCUMFLEX AND GRAVE",
    "1EA7 gSMALL LETTER A WITH CIRCUMFLEX AND GRAVEgCAPITAL LETTER A WITH CIRCUMFLEX AND HOOK ABOVE",
    "1EA9 gSMALL LETTER A WITH CIRCUMFLEX AND HOOK ABOVEgCAPITAL LETTER A WITH CIRCUMFLEX AND TILDE",
    "1EAB gSMALL LETTER A WITH CIRCUMFLEX AND TILDEgCAPITAL LETTER A WITH CIRCUMFLEX AND DOT BELOW",
    "1EAD gSMALL LETTER A WITH CIRCUMFLEX AND DOT BELOWgCAPITAL LETTER A WITH BREVE AND ACUTE",
    "1EAF gSMALL LETTER A WITH BREVE AND ACUTEgCAPITAL LETTER A WITH BREVE AND GRAVE",
    "1EB1 gSMALL LETTER A WITH BREVE AND GRAVEgCAPITAL LETTER A WITH BREVE AND HOOK ABOVE",
    "1EB3 gSMALL LETTER A WITH BREVE AND HOOK ABOVEgCAPITAL LETTER A WITH BREVE AND TILDE",
    "1EB5 gSMALL LETTER A WITH BREVE AND TILDEgCAPITAL LETTER A WITH BREVE AND DOT BELOW",
    "1EB7 gSMALL LETTER A WITH BREVE AND DOT BELOWgCAPITAL LETTER E WITH DOT BELOWgSMALL LETTER E WITH DOT BELOW",
    "1EBA gCAPITAL LETTER E WITH HOOK ABOVEgSMALL LETTER E WITH HOOK ABOVEgCAPITAL LETTER E WITH TILDE",
    "1EBD gSMALL LETTER E WITH TILDEgCAPITAL LETTER E WITH CIRCUMFLEX AND ACUTE",
    "1EBF gSMALL LETTER E WITH CIRCUMFLEX AND ACUTEgCAPITAL LETTER E WITH CIRCUMFLEX AND GRAVE",
    "1EC1 gSMALL LETTER E WITH CIRCUMFLEX AND GRAVEgCAPITAL LETTER E WITH CIRCUMFLEX AND HOOK ABOVE",
    "1EC3 gSMALL LETTER E WITH CIRCUMFLEX AND HOOK ABOVEgCAPITAL LETTER E WITH CIRCUMFLEX AND TILDE",
    "1EC5 gSMALL LETTER E WITH CIRCUMFLEX AND TILDEgCAPITAL LETTER E WITH CIRCUMFLEX AND DOT BELOW",
    "1EC7 gSMALL LETTER E WITH CIRCUMFLEX AND DOT BELOWgCAPITAL LETTER I WITH HOOK ABOVE",
    "1EC9 gSMALL LETTER I WITH HOOK ABOVEgCAPITAL LETTER I WITH DOT BELOWgSMALL LETTER I WITH DOT BELOW",
    "1ECC gCAPITAL LETTER O WITH DOT BELOWgSMALL LETTER O WITH DOT BELOWgCAPITAL LETTER O WITH HOOK ABOVE",
    "1ECF gSMALL LETTER O WITH HOOK ABOVEgCAPITAL LETTER O WITH CIRCUMFLEX AND ACUTE",
    "1ED1 gSMALL LETTER O WITH CIRCUMFLEX AND ACUTEgCAPITAL LETTER O WITH CIRCUMFLEX AND GRAVE",
    "1ED3 gSMALL LETTER O WITH CIRCUMFLEX AND GRAVEgCAPITAL LETTER O WITH CIRCUMFLEX AND HOOK ABOVE",
    "1ED5 gSMALL LETTER O WITH CIRCUMFLEX AND HOOK ABOVEgCAPITAL LETTER O WITH CIRCUMFLEX AND TILDE",
    "1ED7 gSMALL LETTER O WITH CIRCUMFLEX AND TILDEgCAPITAL LETTER O WITH CIRCUMFLEX AND DOT BELOW",
    "1ED9 gSMALL LETTER O WITH CIRCUMFLEX AND DOT BELOWgCAPITAL LETTER O WITH HORN AND ACUTE",
    "1EDB gSMALL LETTER O WITH HORN AND ACUTEgCAPITAL LETTER O WITH HORN AND GRAVEgSMALL LETTER O WITH HORN AND GRAVE",
    "1EDE gCAPITAL LETTER O WITH HORN AND HOOK ABOVEgSMALL LETTER O WITH HORN AND HOOK ABOVE",
    "1EE0 gCAPITAL LETTER O WITH HORN AND TILDEgSMALL LETTER O WITH HORN AND TILDE",
    "1EE2 gCAPITAL LETTER O WITH HORN AND DOT BELOWgSMALL LETTER O WITH HORN AND DOT BELOW",
    "1EE4 gCAPITAL LETTER U WITH DOT BELOWgSMALL LETTER U WITH DOT BELOWgCAPITAL LETTER U WITH HOOK ABOVE",
    "1EE7 gSMALL LETTER U WITH HOOK ABOVEgCAPITAL LETTER U WITH HORN AND ACUTEgSMALL LETTER U WITH HORN AND ACUTE",
    "1EEA gCAPITAL LETTER U WITH HORN AND GRAVEgSMALL LETTER U WITH HORN AND GRAVE",
    "1EEC gCAPITAL LETTER U WITH HORN AND HOOK ABOVEgSMALL LETTER U WITH HORN AND HOOK ABOVE",
    "1EEE gCAPITAL LETTER U WITH HORN AND TILDEgSMALL LETTER U WITH HORN AND TILDE",
    "1EF0 gCAPITAL LETTER U WITH HORN AND DOT BELOWgSMALL LETTER U WITH HORN AND DOT BELOW",
    "1EF2 gCAPITAL LETTER Y WITH GRAVEgSMALL LETTER Y WITH GRAVEgCAPITAL LETTER Y WITH DOT BELOW",
    "1EF5 gSMALL LETTER Y WITH DOT BELOWgCAPITAL LETTER Y WITH HOOK ABOVEgSMALL LETTER Y WITH HOOK ABOVE",
    "1EF8 gCAPITAL LETTER Y WITH TILDEgSMALL LETTER Y WITH TILDEgCAPITAL LETTER MIDDLE-WELSH LL",
    "1EFB gSMALL LETTER MIDDLE-WELSH LLgCAPITAL LETTER MIDDLE-WELSH VgSMALL LETTER MIDDLE-WELSH V",
    "1EFE gCAPITAL LETTER Y WITH LOOPgSMALL LETTER Y WITH LOOPaGREEK SMALL LETTER ALPHA WITH PSILIzWITH DASIA",
    "1F02 zWITH PSILI AND VARIAzWITH DASIA AND VARIAzWITH PSILI AND OXIAzWITH DASIA AND OXIA",
    "1F06 zWITH PSILI AND PERISPOMENIzWITH DASIA AND PERISPOMENIgCAPITAL LETTER ALPHA WITH PSILIzA WITH DASIA",
    "1F0A zA WITH PSILI AND VARIAzA WITH DASIA AND VARIAzA WITH PSILI AND OXIAzA WITH DASIA AND OXIA",
    "1F0E zA WITH PSILI AND PERISPOMENIzA WITH DASIA AND PERISPOMENIgSMALL LETTER EPSILON WITH PSILIzN WITH DASIA",
    "1F12 zN WITH PSILI AND VARIAzN WITH DASIA AND VARIAzN WITH PSILI AND OXIAzN WITH DASIA AND OXIA",
    "1F18 gCAPITAL LETTER EPSILON WITH PSILIzLON WITH DASIAzLON WITH PSILI AND VARIAzLON WITH DASIA AND VARIA",
    "1F1C zLON WITH PSILI AND OXIAzLON WITH DASIA AND OXIA",
    "1F20 gSMALL LETTER ETA WITH PSILIzTH DASIAzTH PSILI AND VARIAzTH DASIA AND VARIAzTH PSILI AND OXIA",
    "1F25 zTH DASIA AND OXIAzTH PSILI AND PERISPOMENIzTH DASIA AND PERISPOMENIgCAPITAL LETTER ETA WITH PSILI",
    "1F29 zWITH DASIAzWITH PSILI AND VARIAzWITH DASIA AND VARIAzWITH PSILI AND OXIAzWITH DASIA AND OXIA",
    "1F2E zWITH PSILI AND PERISPOMENIzWITH DASIA AND PERISPOMENIgSMALL LETTER IOTA WITH PSILIzITH DASIA",
    "1F32 zITH PSILI AND VARIAzITH DASIA AND VARIAzITH PSILI AND OXIAzITH DASIA AND OXIAzITH PSILI AND PERISPOMENI",
    "1F37 zITH DASIA AND PERISPOMENIgCAPITAL LETTER IOTA WITH PSILIz WITH DASIAz WITH PSILI AND VARIA",
    "1F3B z WITH DASIA AND VARIAz WITH PSILI AND OXIAz WITH DASIA AND OXIAz WITH PSILI AND PERISPOMENI",
    "1F3F z WITH DASIA AND PERISPOMENIgSMALL LETTER OMICRON WITH PSILIzN WITH DASIAzN WITH PSILI AND VARIA",
    "1F43 zN WITH DASIA AND VARIAzN WITH PSILI AND OXIAzN WITH DASIA AND OXIA",
    "1F48 gCAPITAL LETTER OMICRON WITH PSILIzRON WITH DASIAzRON WITH PSILI AND VARIAzRON WITH DASIA AND VARIA",
    "1F4C zRON WITH PSILI AND OXIAzRON WITH DASIA AND OXIA",
    "1F50 gSMALL LETTER UPSILON WITH PSILIzN WITH DASIAzN WITH PSILI AND VARIAzN WITH DASIA AND VARIA",
    "1F54 zN WITH PSILI AND OXIAzN WITH DASIA AND OXIAzN WITH PSILI AND PERISPOMENIzN WITH DASIA AND PERISPOMENI",
    "1F59 gCAPITAL LETTER UPSILON WITH DASIA",
    "1F5B zLON WITH DASIA AND VARIA",
    "1F5D zLON WITH DASIA AND OXIA",
    "1F5F zLON WITH DASIA AND PERISPOMENIgSMALL LETTER OMEGA WITH PSILIzWITH DASIAzWITH PSILI AND VARIA",
    "1F63 zWITH DASIA AND VARIAzWITH PSILI AND OXIAzWITH DASIA AND OXIAzWITH PSILI AND PERISPOMENI",
    "1F67 zWITH DASIA AND PERISPOMENIgCAPITAL LETTER OMEGA WITH PSILIzA WITH DASIAzA WITH PSILI AND VARIA",
    "1F6B zA WITH DASIA AND VARIAzA WITH PSILI AND OXIAzA WITH DASIA AND OXIAzA WITH PSILI AND PERISPOMENI",
    "1F6F zA WITH DASIA AND PERISPOMENIgSMALL LETTER ALPHA WITH VARIAzWITH OXIAtEPSILON WITH VARIAzN WITH OXIA",
    "1F74 uTA WITH VARIAzTH OXIAtIOTA WITH VARIAzITH OXIAtOMICRON WITH VARIAzN WITH OXIAtUPSILON WITH VARIA",
    "1F7B zN WITH OXIAtOMEGA WITH VARIAzWITH OXIA",
    "1F80 tALPHA WITH PSILI AND YPOGEGRAMMENIzWITH DASIA AND YPOGEGRAMMENIzWITH PSILI AND VARIA AND YPOGEGRAMMENI",
    "1F83 zWITH DASIA AND VARIA AND YPOGEGRAMMENIzWITH PSILI AND OXIA AND YPOGEGRAMMENI",
    "1F85 zWITH DASIA AND OXIA AND YPOGEGRAMMENIzWITH PSILI AND PERISPOMENI AND YPOGEGRAMMENI",
    "1F87 zWITH DASIA AND PERISPOMENI AND YPOGEGRAMMENIgCAPITAL LETTER ALPHA WITH PSILI AND PROSGEGRAMMENI",
    "1F89 zA WITH DASIA AND PROSGEGRAMMENIzA WITH PSILI AND VARIA AND PROSGEGRAMMENI",
    "1F8B zA WITH DASIA AND VARIA AND PROSGEGRAMMENIzA WITH PSILI AND OXIA AND PROSGEGRAMMENI",
    "1F8D zA WITH DASIA AND OXIA AND PROSGEGRAMMENIzA WITH PSILI AND PERISPOMENI AND PROSGEGRAMMENI",
    "1F8F zA WITH DASIA AND PERISPOMENI AND PROSGEGRAMMENIgSMALL LETTER ETA WITH PSILI AND YPOGEGRAMMENI",
    "1F91 zTH DASIA AND YPOGEGRAMMENIzTH PSILI AND VARIA AND YPOGEGRAMMENIzTH DASIA AND VARIA AND YPOGEGRAMMENI",
    "1F94 zTH PSILI AND OXIA AND YPOGEGRAMMENIzTH DASIA AND OXIA AND YPOGEGRAMMENI",
    "1F96 zTH PSILI AND PERISPOMENI AND YPOGEGRAMMENIzTH DASIA AND PERISPOMENI AND YPOGEGRAMMENI",
    "1F98 gCAPITAL LETTER ETA WITH PSILI AND PROSGEGRAMMENIzWITH DASIA AND PROSGEGRAMMENI",
    "1F9A zWITH PSILI AND VARIA AND PROSGEGRAMMENIzWITH DASIA AND VARIA AND PROSGEGRAMMENI",
    "1F9C zWITH PSILI AND OXIA AND PROSGEGRAMMENIzWITH DASIA AND OXIA AND PROSGEGRAMMENI",
    "1F9E zWITH PSILI AND PERISPOMENI AND PROSGEGRAMMENIzWITH DASIA AND PERISPOMENI AND PROSGEGRAMMENI",
    "1FA0 gSMALL LETTER OMEGA WITH PSILI AND YPOGEGRAMMENIzWITH DASIA AND YPOGEGRAMMENI",
    "1FA2 zWITH PSILI AND VARIA AND YPOGEGRAMMENIzWITH DASIA AND VARIA AND YPOGEGRAMMENI",
    "1FA4 zWITH PSILI AND OXIA AND YPOGEGRAMMENIzWITH DASIA AND OXIA AND YPOGEGRAMMENI",
    "1FA6 zWITH PSILI AND PERISPOMENI AND YPOGEGRAMMENIzWITH DASIA AND PERISPOMENI AND YPOGEGRAMMENI",
    "1FA8 gCAPITAL LETTER OMEGA WITH PSILI AND PROSGEGRAMMENIzA WITH DASIA AND PROSGEGRAMMENI",
    "1FAA zA WITH PSILI AND VARIA AND PROSGEGRAMMENIzA WITH DASIA AND VARIA AND PROSGEGRAMMENI",
    "1FAC zA WITH PSILI AND OXIA AND PROSGEGRAMMENIzA WITH DASIA AND OXIA AND PROSGEGRAMMENI",
    "1FAE zA WITH PSILI AND PERISPOMENI AND PROSGEGRAMMENIzA WITH DASIA AND PERISPOMENI AND PROSGEGRAMMENI",
    "1FB0 gSMALL LETTER ALPHA WITH VRACHYzWITH MACRONzWITH VARIA AND YPOGEGRAMMENIzWITH YPOGEGRAMMENI",
    "1FB4 zWITH OXIA AND YPOGEGRAMMENI",
    "1FB6 zWITH PERISPOMENIzWITH PERISPOMENI AND YPOGEGRAMMENIgCAPITAL LETTER ALPHA WITH VRACHYzA WITH MACRON",
    "1FBA zA WITH VARIAzA WITH OXIAzA WITH PROSGEGRAMMENIgKORONISgPROSGEGRAMMENIhSILIhERISPOMENI",
    "1FC1 gDIALYTIKA AND PERISPOMENIgSMALL LETTER ETA WITH VARIA AND YPOGEGRAMMENIzTH YPOGEGRAMMENI",
    "1FC4 zTH OXIA AND YPOGEGRAMMENI",
    "1FC6 zTH PERISPOMENIzTH PERISPOMENI AND YPOGEGRAMMENIgCAPITAL LETTER EPSILON WITH VARIAzLON WITH OXIA",
    "1FCA wTA WITH VARIAzWITH OXIAzWITH PROSGEGRAMMENIgPSILI AND VARIAqOXIAqPERISPOMENIgSMALL LETTER IOTA WITH VRACHY",
    "1FD1 zITH MACRONzITH DIALYTIKA AND VARIAzITH DIALYTIKA AND OXIA",
    "1FD6 zITH PERISPOMENIzITH DIALYTIKA AND PERISPOMENIgCAPITAL LETTER IOTA WITH VRACHYz WITH MACRONz WITH VARIA",
    "1FDB z WITH OXIA",
    "1FDD gDASIA AND VARIAqOXIAqPERISPOMENIgSMALL LETTER UPSILON WITH VRACHYzN WITH MACRONzN WITH DIALYTIKA AND VARIA",
    "1FE3 zN WITH DIALYTIKA AND OXIAtRHO WITH PSILIzTH DASIAtUPSILON WITH PERISPOMENI",
    "1FE7 zN WITH DIALYTIKA AND PERISPOMENIgCAPITAL LETTER UPSILON WITH VRACHYzLON WITH MACRONzLON WITH VARIA",
    "1FEB zLON WITH OXIAvRHO WITH DASIAgDIALYTIKA AND VARIAuOXIAgVARIA",
    "1FF2 gSMALL LETTER OMEGA WITH VARIA AND YPOGEGRAMMENIzWITH YPOGEGRAMMENIzWITH OXIA AND YPOGEGRAMMENI",
    "1FF6 zWITH PERISPOMENIzWITH PERISPOMENI AND YPOGEGRAMMENIgCAPITAL LETTER OMICRON WITH VARIAzRON WITH OXIA",
    "1FFA xEGA WITH VARIAzA WITH OXIAzA WITH PROSGEGRAMMENIgOXIAgDASIA" ]

end RestDispatch.Text
