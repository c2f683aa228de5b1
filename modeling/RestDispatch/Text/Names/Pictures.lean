set_option autoImplicit false

/-!
Names of characters from U+1D000 on (Unicode 14.0). A row starts with the code of its first character; the
names of neighbours follow. A small letter before a name says how many letters are those of the name before it: `a` none,
`b` one, and so on.
-/
namespace RestDispatch.Text

def pictureNames : List String := [
    "1D000 aBYZANTINE MUSICAL SYMBOL PSILIzDASEIAzPERISPOMENIzOXEIA EKFONITIKONzOXEIA DIPLIzVAREIA EKFONITIKON",
    "1D006 zVAREIA DIPLIzKATHISTIzSYRMATIKIzPARAKLITIKIzYPOKRISISzYPOKRISIS DIPLIzKREMASTIzAPESO EKFONITIKON",
    "1D00E zEXO EKFONITIKONzTELEIAzKENTIMATAzAPOSTROFOSzAPOSTROFOS DIPLIzSYNEVMAzTHITAzOLIGON ARCHAION",
    "1D016 zGORGON ARCHAIONzPSILONzCHAMILONzVATHYzISON ARCHAIONzKENTIMA ARCHAIONzKENTIMATA ARCHAIONzSAXIMATAzPARICHON",
    "1D01F zSTAVROS APODEXIAzOXEIAI ARCHAIONzVAREIAI ARCHAIONzAPODERMA ARCHAIONzAPOTHEMAzKLASMAzREVMAzPIASMA ARCHAION",
    "1D027 zTINAGMAzANATRICHISMAzSEISMAzSYNAGMA ARCHAIONzSYNAGMA META STAVROUzOYRANISMA ARCHAIONzTHEMAzLEMOIzDYOzTRIA",
    "1D031 zTESSERAzKRATIMATAzAPESO EXO NEOzFTHORA ARCHAIONzIMIFTHORAzTROMIKON ARCHAIONzKATAVA TROMIKONzPELASTON",
    "1D039 zPSIFISTONzKONTEVMAzCHOREVMA ARCHAIONzRAPISMAzPARAKALESMA ARCHAIONzPARAKLITIKI ARCHAIONzICHADINzNANA",
    "1D041 zPETASMAzKONTEVMA ALLOzTROMIKON ALLOzSTRAGGISMATAzGRONTHISMATAzISON NEOzOLIGON NEOzOXEIA NEOzPETASTI",
    "1D04A zKOUFISMAzPETASTOKOUFISMAzKRATIMOKOUFISMAzPELASTON NEOzKENTIMATA NEO ANOzKENTIMA NEO ANOzYPSILI",
    "1D051 zAPOSTROFOS NEOzAPOSTROFOI SYNDESMOS NEOzYPORROIzKRATIMOYPORROONzELAFRONzCHAMILIzMIKRON ISONzVAREIA NEO",
    "1D059 zPIASMA NEOzPSIFISTON NEOzOMALONzANTIKENOMAzLYGISMAzPARAKLITIKI NEOzPARAKALESMA NEOzETERON PARAKALESMA",
    "1D061 zKYLISMAzANTIKENOKYLISMAzTROMIKON NEOzEKSTREPTONzSYNAGMA NEOzSYRMAzCHOREVMA NEOzEPEGERMAzSEISMA NEO",
    "1D06A zXIRON KLASMAzTROMIKOPSIFISTONzPSIFISTOLYGISMAzTROMIKOLYGISMAzTROMIKOPARAKALESMAzPSIFISTOPARAKALESMA",
    "1D070 zTROMIKOSYNAGMAzPSIFISTOSYNAGMAzGORGOSYNTHETONzARGOSYNTHETONzETERON ARGOSYNTHETONzOYRANISMA NEO",
    "1D076 zTHEMATISMOS ESOzTHEMATISMOS EXOzTHEMA APLOUNzTHES KAI APOTHESzKATAVASMAzENDOFONONzYFEN KATOzYFEN ANO",
    "1D07E zSTAVROSzKLASMA ANOzDIPLI ARCHAIONzKRATIMA ARCHAIONzKRATIMA ALLOzKRATIMA NEOzAPODERMA NEOzAPLIzDIPLI",
    "1D087 zTRIPLIzTETRAPLIzKORONISzLEIMMA ENOS CHRONOUzLEIMMA DYO CHRONONzLEIMMA TRION CHRONON",
    "1D08D zLEIMMA TESSARON CHRONONzLEIMMA IMISEOS CHRONOUzGORGON NEO ANOzGORGON PARESTIGMENON ARISTERA",
    "1D091 zGORGON PARESTIGMENON DEXIAzDIGORGONzDIGORGON PARESTIGMENON ARISTERA KATO",
    "1D094 zDIGORGON PARESTIGMENON ARISTERA ANOzDIGORGON PARESTIGMENON DEXIAzTRIGORGONzARGONzIMIDIARGONzDIARGON",
    "1D09A zAGOGI POLI ARGIzAGOGI ARGOTERIzAGOGI ARGIzAGOGI METRIAzAGOGI MESIzAGOGI GORGIzAGOGI GORGOTERI",
    "1D0A1 zAGOGI POLI GORGIzMARTYRIA PROTOS ICHOSzMARTYRIA ALLI PROTOS ICHOSzMARTYRIA DEYTEROS ICHOS",
    "1D0A5 zMARTYRIA ALLI DEYTEROS ICHOSzMARTYRIA TRITOS ICHOSzMARTYRIA TRIFONIASzMARTYRIA TETARTOS ICHOS",
    "1D0A9 zMARTYRIA TETARTOS LEGETOS ICHOSzMARTYRIA LEGETOS ICHOSzMARTYRIA PLAGIOS ICHOSzISAKIA TELOUS ICHIMATOS",
    "1D0AD zAPOSTROFOI TELOUS ICHIMATOSzFANEROSIS TETRAFONIASzFANEROSIS MONOFONIASzFANEROSIS DIFONIAS",
    "1D0B1 zMARTYRIA VARYS ICHOSzMARTYRIA PROTOVARYS ICHOSzMARTYRIA PLAGIOS TETARTOS ICHOSzGORTHMIKON N APLOUN",
    "1D0B5 zGORTHMIKON N DIPLOUNzENARXIS KAI FTHORA VOUzIMIFONONzIMIFTHORONzFTHORA ARCHAION DEYTEROU ICHOU",
    "1D0BA zFTHORA DIATONIKI PAzFTHORA DIATONIKI NANAzFTHORA NAOS ICHOSzFTHORA DIATONIKI DI",
    "1D0BE zFTHORA SKLIRON DIATONON DIzFTHORA DIATONIKI KEzFTHORA DIATONIKI ZOzFTHORA DIATONIKI NI KATO",
    "1D0C2 zFTHORA DIATONIKI NI ANOzFTHORA MALAKON CHROMA DIFONIASzFTHORA MALAKON CHROMA MONOFONIAS",
    "1D0C5 zFHTORA SKLIRON CHROMA VASISzFTHORA SKLIRON CHROMA SYNAFIzFTHORA NENANOzCHROA ZYGOSzCHROA KLITON",
    "1D0CA zCHROA SPATHIzFTHORA I YFESIS TETARTIMORIONzFTHORA ENARMONIOS ANTIFONIAzYFESIS TRITIMORION",
    "1D0CE zDIESIS TRITIMORIONzDIESIS TETARTIMORIONzDIESIS APLI DYO DODEKATAzDIESIS MONOGRAMMOS TESSERA DODEKATA",
    "1D0D2 zDIESIS DIGRAMMOS EX DODEKATAzDIESIS TRIGRAMMOS OKTO DODEKATAzYFESIS APLI DYO DODEKATA",
    "1D0D5 zYFESIS MONOGRAMMOS TESSERA DODEKATAzYFESIS DIGRAMMOS EX DODEKATAzYFESIS TRIGRAMMOS OKTO DODEKATA",
    "1D0D8 zGENIKI DIESISzGENIKI YFESISzDIASTOLI APLI MIKRIzDIASTOLI APLI MEGALIzDIASTOLI DIPLIzDIASTOLI THESEOS",
    "1D0DE zSIMANSIS THESEOSzSIMANSIS THESEOS DISIMOUzSIMANSIS THESEOS TRISIMOUzSIMANSIS THESEOS TETRASIMOU",
    "1D0E2 zSIMANSIS ARSEOSzSIMANSIS ARSEOS DISIMOUzSIMANSIS ARSEOS TRISIMOUzSIMANSIS ARSEOS TETRASIMOUzDIGRAMMA GG",
    "1D0E7 zDIFTOGGOS OUzSTIGMAzARKTIKO PAzARKTIKO VOUzARKTIKO GAzARKTIKO DIzARKTIKO KEzARKTIKO ZOzARKTIKO NI",
    "1D0F0 zKENTIMATA NEO MESOzKENTIMA NEO MESOzKENTIMATA NEO KATOzKENTIMA NEO KATOzKLASMA KATOzGORGON NEO KATO",
    "1D100 aMUSICAL SYMBOL SINGLE BARLINEpDOUBLE BARLINEpFINAL BARLINEpREVERSE FINAL BARLINEpDASHED BARLINE",
    "1D105 pSHORT BARLINEpLEFT REPEAT SIGNpRIGHT REPEAT SIGNqEPEAT DOTSpDAL SEGNOr CAPOpSEGNOpCODApREPEATED FIGURE-1",
    "1D10E zIGURE-2zIGURE-3pFERMATAw BELOWpBREATH MARKpCAESURApBRACEtKETpONE-LINE STAFFpTWO-LINE STAFF",
    "1D118 qHREE-LINE STAFFpFOUR-LINE STAFFqIVE-LINE STAFFpSIX-LINE STAFFtSTRING FRETBOARDpFOUR-STRING FRETBOARD",
    "1D11E pG CLEFv OTTAVA ALTAzAVA BASSApC CLEFpF CLEFv OTTAVA ALTAzAVA BASSApDRUM CLEF-1z2",
    "1D129 pMULTIPLE MEASURE RESTpDOUBLE SHARPwFLATpFLAT UPuDOWNpNATURAL UPxDOWNpSHARP UPvDOWNpQUARTER TONE SHARP",
    "1D133 zNE FLATpCOMMON TIMEqUT TIMEpOTTAVA ALTAwBASSApQUINDICESIMA ALTAzMA BASSApMULTI RESTpWHOLE RESTpHALF REST",
    "1D13D pQUARTER RESTpEIGHTH RESTpSIXTEENTH RESTpTHIRTY-SECOND RESTpSIXTY-FOURTH REST",
    "1D142 pONE HUNDRED TWENTY-EIGHTH RESTpX NOTEHEADpPLUS NOTEHEADpCIRCLE X NOTEHEADpSQUARE NOTEHEAD WHITE",
    "1D147 zEHEAD BLACKpTRIANGLE NOTEHEAD UP WHITEzOTEHEAD UP BLACKzOTEHEAD LEFT WHITEzOTEHEAD LEFT BLACK",
    "1D14C zOTEHEAD RIGHT WHITEzOTEHEAD RIGHT BLACKzOTEHEAD DOWN WHITEzOTEHEAD DOWN BLACKzOTEHEAD UP RIGHT WHITE",
    "1D151 zOTEHEAD UP RIGHT BLACKpMOON NOTEHEAD WHITEzEAD BLACKpTRIANGLE-ROUND NOTEHEAD DOWN WHITE",
    "1D155 zOUND NOTEHEAD DOWN BLACKpPARENTHESIS NOTEHEADpVOID NOTEHEADpNOTEHEAD BLACKqULL NOTEHEAD",
    "1D15A pCLUSTER NOTEHEAD WHITEzTEHEAD BLACKpBREVEpWHOLE NOTEpHALF NOTEpQUARTER NOTEpEIGHTH NOTEpSIXTEENTH NOTE",
    "1D162 pTHIRTY-SECOND NOTEpSIXTY-FOURTH NOTEpONE HUNDRED TWENTY-EIGHTH NOTEpCOMBINING STEMzSPRECHGESANG STEM",
    "1D167 zTREMOLO-1zTREMOLO-2zTREMOLO-3pFINGERED TREMOLO-1zREMOLO-2zREMOLO-3pCOMBINING AUGMENTATION DOTzFLAG-1",
    "1D16F zFLAG-2zFLAG-3zFLAG-4zFLAG-5pBEGIN BEAMpEND BEAMpBEGIN TIEpEND TIEpBEGIN SLURpEND SLURpBEGIN PHRASE",
    "1D17A pEND PHRASEpCOMBINING ACCENTzSTACCATOzTENUTOzSTACCATISSIMOzMARCATOzMARCATO-STACCATOzACCENT-STACCATOzLOURE",
    "1D183 pARPEGGIATO UPz DOWNpCOMBINING DOITzRIPzFLIPzSMEARzBENDzDOUBLE TONGUEzTRIPLE TONGUEpRINFORZANDOpSUBITOpZ",
    "1D18F pPIANOpMEZZOpFORTEpCRESCENDOpDECRESCENDOpGRACE NOTE SLASHz NO SLASHpTRqURNpINVERTED TURNpTURN SLASHuUP",
    "1D19B pORNAMENT STROKE-1zTROKE-2zTROKE-3zTROKE-4zTROKE-5zTROKE-6zTROKE-7zTROKE-8zTROKE-9zTROKE-10zTROKE-11",
    "1D1A6 pHAUPTSTIMMEpNEBENSTIMMEpEND OF STIMMEpDEGREE SLASHpCOMBINING DOWN BOWzUP BOWzHARMONICzSNAP PIZZICATO",
    "1D1AE pPEDAL MARKvUP MARKpHALF PEDAL MARKpGLISSANDO UPzDOWNpWITH FINGERNAILSpDAMPt ALLpMAXIMApLONGApBREVIS",
    "1D1B9 pSEMIBREVIS WHITEz BLACKpMINIMAv BLACKpSEMIMINIMA WHITEz BLACKpFUSA WHITEuBLACKpLONGA PERFECTA REST",
    "1D1C2 vIMPERFECTA RESTpBREVIS RESTpSEMIBREVIS RESTpMINIMA RESTpSEMIMINIMA REST",
    "1D1C7 pTEMPUS PERFECTUM CUM PROLATIONE PERFECTAzFECTUM CUM PROLATIONE IMPERFECTA",
    "1D1C9 zFECTUM CUM PROLATIONE PERFECTA DIMINUTION-1wIMPERFECTUM CUM PROLATIONE PERFECTA",
    "1D1CB zERFECTUM CUM PROLATIONE IMPERFECTAzERFECTUM CUM PROLATIONE IMPERFECTA DIMINUTION-1",
    "1D1CD zERFECTUM CUM PROLATIONE IMPERFECTA DIMINUTION-2zERFECTUM CUM PROLATIONE IMPERFECTA DIMINUTION-3pCROIX",
    "1D1D0 pGREGORIAN C CLEFzF CLEFpSQUARE BpVIRGApPODATUSpCLIVISpSCANDICUSpCLIMACUSpTORCULUSpPORRECTUSy FLEXUS",
    "1D1DB pSCANDICUS FLEXUSpTORCULUS RESUPINUSpPES SUBPUNCTISpKIEVAN C CLEFwEND OF PIECEwFINAL NOTEwRECITATIVE MARK",
    "1D1E2 wWHOLE NOTEwHALF NOTEwQUARTER NOTE STEM DOWNzRTER NOTE STEM UPwEIGHTH NOTE STEM DOWNzHTH NOTE STEM UP",
    "1D1E8 wFLAT SIGNpSORIpKORON",
    "1D200 aGREEK VOCAL NOTATION SYMBOL-1zOL-2zOL-3zOL-4zOL-5zOL-6zOL-7zOL-8zOL-9zOL-10zOL-11zOL-12zOL-13zOL-14zOL-15",
    "1D20F zOL-16zOL-17zOL-18zOL-19zOL-20zOL-21zOL-22zOL-23zOL-24zOL-50zOL-51zOL-52zOL-53zOL-54",
    "1D21D gINSTRUMENTAL NOTATION SYMBOL-1zON SYMBOL-2zON SYMBOL-4zON SYMBOL-5zON SYMBOL-7zON SYMBOL-8zON SYMBOL-11",
    "1D224 zON SYMBOL-12zON SYMBOL-13zON SYMBOL-14zON SYMBOL-17zON SYMBOL-18zON SYMBOL-19zON SYMBOL-23zON SYMBOL-24",
    "1D22C zON SYMBOL-25zON SYMBOL-26zON SYMBOL-27zON SYMBOL-29zON SYMBOL-30zON SYMBOL-32zON SYMBOL-36zON SYMBOL-37",
    "1D234 zON SYMBOL-38zON SYMBOL-39zON SYMBOL-40zON SYMBOL-42zON SYMBOL-43zON SYMBOL-45zON SYMBOL-47zON SYMBOL-48",
    "1D23C zON SYMBOL-49zON SYMBOL-50zON SYMBOL-51zON SYMBOL-52zON SYMBOL-53zON SYMBOL-54",
    "1D242 aCOMBINING GREEK MUSICAL TRISEMEzETRASEMEyPENTASEMEaGREEK MUSICAL LEIMMA",
    "1D2E0 aMAYAN NUMERAL ZEROoONEoTWOpHREEoFOURpIVEoSIXpEVENoEIGHToNINEoTENoELEVENoTWELVEpHIRTEENoFOURTEENpIFTEEN",
    "1D2F0 oSIXTEENpEVENTEENoEIGHTEENoNINETEEN",
    "1D300 bONOGRAM FOR EARTHaDIGRAM FOR HEAVENLY EARTHmUMAN EARTHlEARTHLY HEAVENuUMANqaTETRAGRAM FOR CENTRE",
    "1D307 oFULL CIRCLEoMIREDoBARRIERoKEEPING SMALLoCONTRARIETYoASCENToOPPOSITIONoBRANCHING OUT",
    "1D30F oDEFECTIVENESS OR DISTORTIONpIVERGENCEoYOUTHFULNESSoINCREASEoPENETRATIONoREACHoCONTACToHOLDING BACK",
    "1D317 oWAITINGoFOLLOWINGoADVANCEoRELEASEqSISTANCEoEASEoJOYoCONTENTIONoENDEAVOURoDUTIESoCHANGEoDECISIVENESS",
    "1D323 oBOLD RESOLUTIONoPACKINGoLEGIONoCLOSENESSoKINSHIPoGATHERINGoSTRENGTHoPURITYoFULLNESSoRESIDENCE",
    "1D32D oLAW OR MODELoRESPONSEoGOING TO MEEToENCOUNTERSoSTOVEoGREATNESSoENLARGEMENToPATTERNoRITUALoFLIGHT",
    "1D337 oVASTNESS OR WASTINGoCONSTANCYoMEASUREoETERNITYoUNITYoDIMINISHMENToCLOSED MOUTHoGUARDEDNESSpATHERING IN",
    "1D340 oMASSINGoACCUMULATIONoEMBELLISHMENToDOUBToWATCHoSINKINGoINNERoDEPARTUREpARKENINGpIMMINGoEXHAUSTION",
    "1D34B oSEVERANCEpTOPPAGEoHARDNESSoCOMPLETIONpLOSUREoFAILUREoAGGRAVATIONoCOMPLIANCEoON THE VERGEoDIFFICULTIES",
    "1D355 oLABOURINGoFOSTERING",
    "1D360 aCOUNTING ROD UNIT DIGIT ONEyTWOzHREEyFOURzIVEySIXzEVENyEIGHTyNINEnTENS DIGIT ONEyTWOzHREEyFOURzIVEySIX",
    "1D36F zEVENyEIGHTyNINEaIDEOGRAPHIC TALLY MARK ONExTWOyHREExFOURyIVEaTALLY MARK ONElFIVE",
    "1D400 aMATHEMATICAL BOLD CAPITAL Az Bz Cz Dz Ez Fz Gz Hz Iz Jz Kz Lz Mz Nz Oz Pz Qz Rz Sz Tz Uz Vz Wz Xz Yz Z",
    "1D41A sSMALL AyByCyDyEyFyGyHyIyJyKyLyMyNyOyPyQyRySyTyUyVyWyXyYyZnITALIC CAPITAL AzAL BzAL CzAL DzAL EzAL FzAL G",
    "1D43B zAL HzAL IzAL JzAL KzAL LzAL MzAL NzAL OzAL PzAL QzAL RzAL SzAL TzAL UzAL VzAL WzAL XzAL YzAL ZuSMALL Az B",
    "1D450 z Cz Dz Ez Fz G",
    "1D456 z Iz Jz Kz Lz Mz Nz Oz Pz Qz Rz Sz Tz Uz Vz Wz Xz Yz ZnBOLD ITALIC CAPITAL AzCAPITAL BzCAPITAL CzCAPITAL D",
    "1D46C zCAPITAL EzCAPITAL FzCAPITAL GzCAPITAL HzCAPITAL IzCAPITAL JzCAPITAL KzCAPITAL LzCAPITAL MzCAPITAL N",
    "1D476 zCAPITAL OzCAPITAL PzCAPITAL QzCAPITAL RzCAPITAL SzCAPITAL TzCAPITAL UzCAPITAL VzCAPITAL WzCAPITAL X",
    "1D480 zCAPITAL YzCAPITAL ZzSMALL AzSMALL BzSMALL CzSMALL DzSMALL EzSMALL FzSMALL GzSMALL HzSMALL IzSMALL J",
    "1D48C zSMALL KzSMALL LzSMALL MzSMALL NzSMALL OzSMALL PzSMALL QzSMALL RzSMALL SzSMALL TzSMALL UzSMALL VzSMALL W",
    "1D499 zSMALL XzSMALL YzSMALL ZnSCRIPT CAPITAL A",
    "1D49E zAL CzAL D",
    "1D4A2 zAL G",
    "1D4A5 zAL JzAL K",
    "1D4A9 zAL NzAL OzAL PzAL Q",
    "1D4AE zAL SzAL TzAL UzAL VzAL WzAL XzAL YzAL ZuSMALL Az Bz Cz D",
    "1D4BB z F",
    "1D4BD z Hz Iz Jz Kz Lz Mz N",
    "1D4C5 z Pz Qz Rz Sz Tz Uz Vz Wz Xz Yz ZnBOLD SCRIPT CAPITAL AzCAPITAL BzCAPITAL CzCAPITAL DzCAPITAL EzCAPITAL F",
    "1D4D6 zCAPITAL GzCAPITAL HzCAPITAL IzCAPITAL JzCAPITAL KzCAPITAL LzCAPITAL MzCAPITAL NzCAPITAL OzCAPITAL P",
    "1D4E0 zCAPITAL QzCAPITAL RzCAPITAL SzCAPITAL TzCAPITAL UzCAPITAL VzCAPITAL WzCAPITAL XzCAPITAL YzCAPITAL Z",
    "1D4EA zSMALL AzSMALL BzSMALL CzSMALL DzSMALL EzSMALL FzSMALL GzSMALL HzSMALL IzSMALL JzSMALL KzSMALL LzSMALL M",
    "1D4F7 zSMALL NzSMALL OzSMALL PzSMALL QzSMALL RzSMALL SzSMALL TzSMALL UzSMALL VzSMALL WzSMALL XzSMALL YzSMALL Z",
    "1D504 nFRAKTUR CAPITAL AzTAL B",
    "1D507 zTAL DzTAL EzTAL FzTAL G",
    "1D50D zTAL JzTAL KzTAL LzTAL MzTAL NzTAL OzTAL PzTAL Q",
    "1D516 zTAL SzTAL TzTAL UzTAL VzTAL WzTAL XzTAL Y",
    "1D51E vSMALL AzL BzL CzL DzL EzL FzL GzL HzL IzL JzL KzL LzL MzL NzL OzL PzL QzL RzL SzL TzL UzL VzL WzL XzL Y",
    "1D537 zL ZnDOUBLE-STRUCK CAPITAL AzK CAPITAL B",
    "1D53B zK CAPITAL DzK CAPITAL EzK CAPITAL FzK CAPITAL G",
    "1D540 zK CAPITAL IzK CAPITAL JzK CAPITAL KzK CAPITAL LzK CAPITAL M",
    "1D546 zK CAPITAL O",
    "1D54A zK CAPITAL SzK CAPITAL TzK CAPITAL UzK CAPITAL VzK CAPITAL WzK CAPITAL XzK CAPITAL Y",
    "1D552 zK SMALL AzK SMALL BzK SMALL CzK SMALL DzK SMALL EzK SMALL FzK SMALL GzK SMALL HzK SMALL IzK SMALL J",
    "1D55C zK SMALL KzK SMALL LzK SMALL MzK SMALL NzK SMALL OzK SMALL PzK SMALL QzK SMALL RzK SMALL SzK SMALL T",
    "1D566 zK SMALL UzK SMALL VzK SMALL WzK SMALL XzK SMALL YzK SMALL ZnBOLD FRAKTUR CAPITAL Az CAPITAL Bz CAPITAL C",
    "1D56F z CAPITAL Dz CAPITAL Ez CAPITAL Fz CAPITAL Gz CAPITAL Hz CAPITAL Iz CAPITAL Jz CAPITAL Kz CAPITAL L",
    "1D578 z CAPITAL Mz CAPITAL Nz CAPITAL Oz CAPITAL Pz CAPITAL Qz CAPITAL Rz CAPITAL Sz CAPITAL Tz CAPITAL U",
    "1D581 z CAPITAL Vz CAPITAL Wz CAPITAL Xz CAPITAL Yz CAPITAL Zz SMALL Az SMALL Bz SMALL Cz SMALL Dz SMALL E",
    "1D58B z SMALL Fz SMALL Gz SMALL Hz SMALL Iz SMALL Jz SMALL Kz SMALL Lz SMALL Mz SMALL Nz SMALL Oz SMALL P",
    "1D596 z SMALL Qz SMALL Rz SMALL Sz SMALL Tz SMALL Uz SMALL Vz SMALL Wz SMALL Xz SMALL Yz SMALL Z",
    "1D5A0 nSANS-SERIF CAPITAL AzAPITAL BzAPITAL CzAPITAL DzAPITAL EzAPITAL FzAPITAL GzAPITAL HzAPITAL IzAPITAL J",
    "1D5AA zAPITAL KzAPITAL LzAPITAL MzAPITAL NzAPITAL OzAPITAL PzAPITAL QzAPITAL RzAPITAL SzAPITAL TzAPITAL U",
    "1D5B5 zAPITAL VzAPITAL WzAPITAL XzAPITAL YzAPITAL ZySMALL AzMALL BzMALL CzMALL DzMALL EzMALL FzMALL GzMALL H",
    "1D5C2 zMALL IzMALL JzMALL KzMALL LzMALL MzMALL NzMALL OzMALL PzMALL QzMALL RzMALL SzMALL TzMALL UzMALL VzMALL W",
    "1D5D1 zMALL XzMALL YzMALL ZyBOLD CAPITAL AzOLD CAPITAL BzOLD CAPITAL CzOLD CAPITAL DzOLD CAPITAL EzOLD CAPITAL F",
    "1D5DA zOLD CAPITAL GzOLD CAPITAL HzOLD CAPITAL IzOLD CAPITAL JzOLD CAPITAL KzOLD CAPITAL LzOLD CAPITAL M",
    "1D5E1 zOLD CAPITAL NzOLD CAPITAL OzOLD CAPITAL PzOLD CAPITAL QzOLD CAPITAL RzOLD CAPITAL SzOLD CAPITAL T",
    "1D5E8 zOLD CAPITAL UzOLD CAPITAL VzOLD CAPITAL WzOLD CAPITAL XzOLD CAPITAL YzOLD CAPITAL ZzOLD SMALL A",
    "1D5EF zOLD SMALL BzOLD SMALL CzOLD SMALL DzOLD SMALL EzOLD SMALL FzOLD SMALL GzOLD SMALL HzOLD SMALL I",
    "1D5F7 zOLD SMALL JzOLD SMALL KzOLD SMALL LzOLD SMALL MzOLD SMALL NzOLD SMALL OzOLD SMALL PzOLD SMALL Q",
    "1D5FF zOLD SMALL RzOLD SMALL SzOLD SMALL TzOLD SMALL UzOLD SMALL VzOLD SMALL WzOLD SMALL XzOLD SMALL Y",
    "1D607 zOLD SMALL ZyITALIC CAPITAL AzTALIC CAPITAL BzTALIC CAPITAL CzTALIC CAPITAL DzTALIC CAPITAL E",
    "1D60D zTALIC CAPITAL FzTALIC CAPITAL GzTALIC CAPITAL HzTALIC CAPITAL IzTALIC CAPITAL JzTALIC CAPITAL K",
    "1D613 zTALIC CAPITAL LzTALIC CAPITAL MzTALIC CAPITAL NzTALIC CAPITAL OzTALIC CAPITAL PzTALIC CAPITAL Q",
    "1D619 zTALIC CAPITAL RzTALIC CAPITAL SzTALIC CAPITAL TzTALIC CAPITAL UzTALIC CAPITAL VzTALIC CAPITAL W",
    "1D61F zTALIC CAPITAL XzTALIC CAPITAL YzTALIC CAPITAL ZzTALIC SMALL AzTALIC SMALL BzTALIC SMALL CzTALIC SMALL D",
    "1D626 zTALIC SMALL EzTALIC SMALL FzTALIC SMALL GzTALIC SMALL HzTALIC SMALL IzTALIC SMALL JzTALIC SMALL K",
    "1D62D zTALIC SMALL LzTALIC SMALL MzTALIC SMALL NzTALIC SMALL OzTALIC SMALL PzTALIC SMALL QzTALIC SMALL R",
    "1D634 zTALIC SMALL SzTALIC SMALL TzTALIC SMALL UzTALIC SMALL VzTALIC SMALL WzTALIC SMALL XzTALIC SMALL Y",
    "1D63B zTALIC SMALL ZyBOLD ITALIC CAPITAL AzOLD ITALIC CAPITAL BzOLD ITALIC CAPITAL CzOLD ITALIC CAPITAL D",
    "1D640 zOLD ITALIC CAPITAL EzOLD ITALIC CAPITAL FzOLD ITALIC CAPITAL GzOLD ITALIC CAPITAL HzOLD ITALIC CAPITAL I",
    "1D645 zOLD ITALIC CAPITAL JzOLD ITALIC CAPITAL KzOLD ITALIC CAPITAL LzOLD ITALIC CAPITAL MzOLD ITALIC CAPITAL N",
    "1D64A zOLD ITALIC CAPITAL OzOLD ITALIC CAPITAL PzOLD ITALIC CAPITAL QzOLD ITALIC CAPITAL RzOLD ITALIC CAPITAL S",
    "1D64F zOLD ITALIC CAPITAL TzOLD ITALIC CAPITAL UzOLD ITALIC CAPITAL VzOLD ITALIC CAPITAL WzOLD ITALIC CAPITAL X",
    "1D654 zOLD ITALIC CAPITAL YzOLD ITALIC CAPITAL ZzOLD ITALIC SMALL AzOLD ITALIC SMALL BzOLD ITALIC SMALL C",
    "1D659 zOLD ITALIC SMALL DzOLD ITALIC SMALL EzOLD ITALIC SMALL FzOLD ITALIC SMALL GzOLD ITALIC SMALL H",
    "1D65E zOLD ITALIC SMALL IzOLD ITALIC SMALL JzOLD ITALIC SMALL KzOLD ITALIC SMALL LzOLD ITALIC SMALL M",
    "1D663 zOLD ITALIC SMALL NzOLD ITALIC SMALL OzOLD ITALIC SMALL PzOLD ITALIC SMALL QzOLD ITALIC SMALL R",
    "1D668 zOLD ITALIC SMALL SzOLD ITALIC SMALL TzOLD ITALIC SMALL UzOLD ITALIC SMALL VzOLD ITALIC SMALL W",
    "1D66D zOLD ITALIC SMALL XzOLD ITALIC SMALL YzOLD ITALIC SMALL ZnMONOSPACE CAPITAL AzPITAL BzPITAL CzPITAL D",
    "1D674 zPITAL EzPITAL FzPITAL GzPITAL HzPITAL IzPITAL JzPITAL KzPITAL LzPITAL MzPITAL NzPITAL OzPITAL PzPITAL Q",
    "1D681 zPITAL RzPITAL SzPITAL TzPITAL UzPITAL VzPITAL WzPITAL XzPITAL YzPITAL ZxSMALL AzALL BzALL CzALL DzALL E",
    "1D68F zALL FzALL GzALL HzALL IzALL JzALL KzALL LzALL MzALL NzALL OzALL PzALL QzALL RzALL SzALL TzALL UzALL V",
    "1D6A0 zALL WzALL XzALL YzALL ZnITALIC SMALL DOTLESS Iz DOTLESS J",
    "1D6A8 nBOLD CAPITAL ALPHAz BETAz GAMMAz DELTAz EPSILONz ZETAz ETAz THETAz IOTAz KAPPAz LAMDAz MUz NUz XI",
    "1D6B6 z OMICRONz PIz RHOz THETA SYMBOLz SIGMAz TAUz UPSILONz PHIz CHIz PSIz OMEGAsNABLAsSMALL ALPHAyBETAyGAMMA",
    "1D6C5 yDELTAyEPSILONyZETAyETAyTHETAyIOTAyKAPPAyLAMDAyMUyNUyXIyOMICRONyPIyRHOyFINAL SIGMAySIGMAyTAUyUPSILONyPHI",
    "1D6D8 yCHIyPSIyOMEGAsPARTIAL DIFFERENTIALsEPSILON SYMBOLsTHETA SYMBOLsKAPPA SYMBOLsPHI SYMBOLsRHO SYMBOL",
    "1D6E1 sPI SYMBOLnITALIC CAPITAL ALPHAzAL BETAzAL GAMMAzAL DELTAzAL EPSILONzAL ZETAzAL ETAzAL THETAzAL IOTA",
    "1D6EB zAL KAPPAzAL LAMDAzAL MUzAL NUzAL XIzAL OMICRONzAL PIzAL RHOzAL THETA SYMBOLzAL SIGMAzAL TAUzAL UPSILON",
    "1D6F7 zAL PHIzAL CHIzAL PSIzAL OMEGAuNABLAuSMALL ALPHAz BETAz GAMMAz DELTAz EPSILONz ZETAz ETAz THETAz IOTA",
    "1D705 z KAPPAz LAMDAz MUz NUz XIz OMICRONz PIz RHOz FINAL SIGMAz SIGMAz TAUz UPSILONz PHIz CHIz PSIz OMEGA",
    "1D715 uPARTIAL DIFFERENTIALuEPSILON SYMBOLuTHETA SYMBOLuKAPPA SYMBOLuPHI SYMBOLuRHO SYMBOLuPI SYMBOL",
    "1D71C nBOLD ITALIC CAPITAL ALPHAzCAPITAL BETAzCAPITAL GAMMAzCAPITAL DELTAzCAPITAL EPSILONzCAPITAL ZETA",
    "1D722 zCAPITAL ETAzCAPITAL THETAzCAPITAL IOTAzCAPITAL KAPPAzCAPITAL LAMDAzCAPITAL MUzCAPITAL NUzCAPITAL XI",
    "1D72A zCAPITAL OMICRONzCAPITAL PIzCAPITAL RHOzCAPITAL THETA SYMBOLzCAPITAL SIGMAzCAPITAL TAUzCAPITAL UPSILON",
    "1D731 zCAPITAL PHIzCAPITAL CHIzCAPITAL PSIzCAPITAL OMEGAzNABLAzSMALL ALPHAzSMALL BETAzSMALL GAMMAzSMALL DELTA",
    "1D73A zSMALL EPSILONzSMALL ZETAzSMALL ETAzSMALL THETAzSMALL IOTAzSMALL KAPPAzSMALL LAMDAzSMALL MUzSMALL NU",
    "1D743 zSMALL XIzSMALL OMICRONzSMALL PIzSMALL RHOzSMALL FINAL SIGMAzSMALL SIGMAzSMALL TAUzSMALL UPSILONzSMALL PHI",
    "1D74C zSMALL CHIzSMALL PSIzSMALL OMEGAzPARTIAL DIFFERENTIALzEPSILON SYMBOLzTHETA SYMBOLzKAPPA SYMBOLzPHI SYMBOL",
    "1D754 zRHO SYMBOLzPI SYMBOLnSANS-SERIF BOLD CAPITAL ALPHAzOLD CAPITAL BETAzOLD CAPITAL GAMMAzOLD CAPITAL DELTA",
    "1D75A zOLD CAPITAL EPSILONzOLD CAPITAL ZETAzOLD CAPITAL ETAzOLD CAPITAL THETAzOLD CAPITAL IOTAzOLD CAPITAL KAPPA",
    "1D760 zOLD CAPITAL LAMDAzOLD CAPITAL MUzOLD CAPITAL NUzOLD CAPITAL XIzOLD CAPITAL OMICRONzOLD CAPITAL PI",
    "1D766 zOLD CAPITAL RHOzOLD CAPITAL THETA SYMBOLzOLD CAPITAL SIGMAzOLD CAPITAL TAUzOLD CAPITAL UPSILON",
    "1D76B zOLD CAPITAL PHIzOLD CAPITAL CHIzOLD CAPITAL PSIzOLD CAPITAL OMEGAzOLD NABLAzOLD SMALL ALPHA",
    "1D771 zOLD SMALL BETAzOLD SMALL GAMMAzOLD SMALL DELTAzOLD SMALL EPSILONzOLD SMALL ZETAzOLD SMALL ETA",
    "1D777 zOLD SMALL THETAzOLD SMALL IOTAzOLD SMALL KAPPAzOLD SMALL LAMDAzOLD SMALL MUzOLD SMALL NUzOLD SMALL XI",
    "1D77E zOLD SMALL OMICRONzOLD SMALL PIzOLD SMALL RHOzOLD SMALL FINAL SIGMAzOLD SMALL SIGMAzOLD SMALL TAU",
    "1D784 zOLD SMALL UPSILONzOLD SMALL PHIzOLD SMALL CHIzOLD SMALL PSIzOLD SMALL OMEGAzOLD PARTIAL DIFFERENTIAL",
    "1D78A zOLD EPSILON SYMBOLzOLD THETA SYMBOLzOLD KAPPA SYMBOLzOLD PHI SYMBOLzOLD RHO SYMBOLzOLD PI SYMBOL",
    "1D790 zOLD ITALIC CAPITAL ALPHAzOLD ITALIC CAPITAL BETAzOLD ITALIC CAPITAL GAMMAzOLD ITALIC CAPITAL DELTA",
    "1D794 zOLD ITALIC CAPITAL EPSILONzOLD ITALIC CAPITAL ZETAzOLD ITALIC CAPITAL ETAzOLD ITALIC CAPITAL THETA",
    "1D798 zOLD ITALIC CAPITAL IOTAzOLD ITALIC CAPITAL KAPPAzOLD ITALIC CAPITAL LAMDAzOLD ITALIC CAPITAL MU",
    "1D79C zOLD ITALIC CAPITAL NUzOLD ITALIC CAPITAL XIzOLD ITALIC CAPITAL OMICRONzOLD ITALIC CAPITAL PI",
    "1D7A0 zOLD ITALIC CAPITAL RHOzOLD ITALIC CAPITAL THETA SYMBOLzOLD ITALIC CAPITAL SIGMAzOLD ITALIC CAPITAL TAU",
    "1D7A4 zOLD ITALIC CAPITAL UPSILONzOLD ITALIC CAPITAL PHIzOLD ITALIC CAPITAL CHIzOLD ITALIC CAPITAL PSI",
    "1D7A8 zOLD ITALIC CAPITAL OMEGAzOLD ITALIC NABLAzOLD ITALIC SMALL ALPHAzOLD ITALIC SMALL BETA",
    "1D7AC zOLD ITALIC SMALL GAMMAzOLD ITALIC SMALL DELTAzOLD ITALIC SMALL EPSILONzOLD ITALIC SMALL ZETA",
    "1D7B0 zOLD ITALIC SMALL ETAzOLD ITALIC SMALL THETAzOLD ITALIC SMALL IOTAzOLD ITALIC SMALL KAPPA",
    "1D7B4 zOLD ITALIC SMALL LAMDAzOLD ITALIC SMALL MUzOLD ITALIC SMALL NUzOLD ITALIC SMALL XI",
    "1D7B8 zOLD ITALIC SMALL OMICRONzOLD ITALIC SMALL PIzOLD ITALIC SMALL RHOzOLD ITALIC SMALL FINAL SIGMA",
    "1D7BC zOLD ITALIC SMALL SIGMAzOLD ITALIC SMALL TAUzOLD ITALIC SMALL UPSILONzOLD ITALIC SMALL PHI",
    "1D7C0 zOLD ITALIC SMALL CHIzOLD ITALIC SMALL PSIzOLD ITALIC SMALL OMEGAzOLD ITALIC PARTIAL DIFFERENTIAL",
    "1D7C4 zOLD ITALIC EPSILON SYMBOLzOLD ITALIC THETA SYMBOLzOLD ITALIC KAPPA SYMBOLzOLD ITALIC PHI SYMBOL",
    "1D7C8 zOLD ITALIC RHO SYMBOLzOLD ITALIC PI SYMBOLnBOLD CAPITAL DIGAMMAsSMALL DIGAMMA",
    "1D7CE sDIGIT ZEROyONEyTWOzHREEyFOURzIVEySIXzEVENyEIGHTyNINEnDOUBLE-STRUCK DIGIT ZEROzK DIGIT ONEzK DIGIT TWO",
    "1D7DB zK DIGIT THREEzK DIGIT FOURzK DIGIT FIVEzK DIGIT SIXzK DIGIT SEVENzK DIGIT EIGHTzK DIGIT NINE",
    "1D7E2 nSANS-SERIF DIGIT ZEROzIGIT ONEzIGIT TWOzIGIT THREEzIGIT FOURzIGIT FIVEzIGIT SIXzIGIT SEVENzIGIT EIGHT",
    "1D7EB zIGIT NINEyBOLD DIGIT ZEROzOLD DIGIT ONEzOLD DIGIT TWOzOLD DIGIT THREEzOLD DIGIT FOURzOLD DIGIT FIVE",
    "1D7F2 zOLD DIGIT SIXzOLD DIGIT SEVENzOLD DIGIT EIGHTzOLD DIGIT NINEnMONOSPACE DIGIT ZEROzGIT ONEzGIT TWO",
    "1D7F9 zGIT THREEzGIT FOURzGIT FIVEzGIT SIXzGIT SEVENzGIT EIGHTzGIT NINEaSIGNWRITING HAND-FIST INDEXrCIRCLE INDEX",
    "1D802 sUP INDEXrOVAL INDEXrHINGE INDEXrANGLE INDEXrFIST INDEX BENTrCIRCLE INDEX BENTrFIST THUMB UNDER INDEX BENT",
    "1D809 wINDEX RAISED KNUCKLEzEX CUPPEDzEX HINGEDzEX HINGED LOWrCIRCLE INDEX HINGErFIST INDEX MIDDLE",
    "1D80F rCIRCLE INDEX MIDDLErFIST INDEX MIDDLE BENTzEX MIDDLE RAISED KNUCKLESzEX MIDDLE HINGEDzEX UP MIDDLE HINGED",
    "1D814 zEX HINGED MIDDLE UPzEX MIDDLE CONJOINEDzEX MIDDLE CONJOINED INDEX BENTzEX MIDDLE CONJOINED MIDDLE BENT",
    "1D818 zEX MIDDLE CONJOINED CUPPEDzEX MIDDLE CONJOINED HINGEDzEX MIDDLE CROSSEDrCIRCLE INDEX MIDDLE CROSSED",
    "1D81C rFIST MIDDLE BENT OVER INDEXwINDEX BENT OVER MIDDLEzEX MIDDLE THUMBrCIRCLE INDEX MIDDLE THUMB",
    "1D820 rFIST INDEX MIDDLE STRAIGHT THUMB BENTzEX MIDDLE BENT THUMB STRAIGHTzEX MIDDLE THUMB BENT",
    "1D823 zEX MIDDLE HINGED SPREAD THUMB SIDEzEX UP MIDDLE HINGED THUMB SIDEzEX UP MIDDLE HINGED THUMB CONJOINED",
    "1D826 zEX HINGED MIDDLE UP THUMB SIDEzEX MIDDLE UP SPREAD THUMB FORWARDzEX MIDDLE THUMB CUPPED",
    "1D829 zEX MIDDLE THUMB CIRCLEDzEX MIDDLE THUMB HOOKEDzEX MIDDLE THUMB HINGEDwTHUMB BETWEEN INDEX MIDDLE STRAIGHT",
    "1D82D wINDEX MIDDLE CONJOINED THUMB SIDEzEX MIDDLE CONJOINED THUMB SIDE CONJOINED",
    "1D82F zEX MIDDLE CONJOINED THUMB SIDE BENTwMIDDLE THUMB HOOKED INDEX UPwINDEX THUMB HOOKED MIDDLE UP",
    "1D832 zEX MIDDLE CONJOINED HINGED THUMB SIDEzEX MIDDLE CROSSED THUMB SIDEzEX MIDDLE CONJOINED THUMB FORWARD",
    "1D835 zEX MIDDLE CONJOINED CUPPED THUMB FORWARDwMIDDLE THUMB CUPPED INDEX UPwINDEX THUMB CUPPED MIDDLE UP",
    "1D838 wMIDDLE THUMB CIRCLED INDEX UPzDLE THUMB CIRCLED INDEX HINGEDwINDEX THUMB ANGLED OUT MIDDLE UP",
    "1D83B zEX THUMB ANGLED IN MIDDLE UPzEX THUMB CIRCLED MIDDLE UPzEX MIDDLE THUMB CONJOINED HINGED",
    "1D83E zEX MIDDLE THUMB ANGLED OUTzEX MIDDLE THUMB ANGLEDwMIDDLE THUMB ANGLED OUT INDEX UP",
    "1D841 zDLE THUMB ANGLED OUT INDEX CROSSEDzDLE THUMB ANGLED INDEX UPwINDEX THUMB HOOKED MIDDLE HINGED",
    "1D844 sLAT FOUR FINGERSzR FINGERS BENTzR FINGERS HINGEDzR FINGERS CONJOINEDzR FINGERS CONJOINED SPLIT",
    "1D849 rCLAW FOUR FINGERS CONJOINEDrFIST FOUR FINGERS CONJOINED BENTrHINGE FOUR FINGERS CONJOINED",
    "1D84C rFLAT FIVE FINGERS SPREADwHEEL FIVE FINGERS SPREADwFIVE FINGERS SPREAD FOUR BENT",
    "1D84F wHEEL FIVE FINGERS SPREAD FOUR BENTwFIVE FINGERS SPREAD BENTwHEEL FIVE FINGERS SPREAD BENT",
    "1D852 wFIVE FINGERS SPREAD THUMB FORWARDrCUP FIVE FINGERS SPREADz FINGERS SPREAD OPEN",
    "1D855 rHINGE FIVE FINGERS SPREAD OPENrOVAL FIVE FINGERS SPREADrFLAT FIVE FINGERS SPREAD HINGED",
    "1D858 zE FINGERS SPREAD HINGED THUMB SIDEzE FINGERS SPREAD HINGED NO THUMBvv BETWEEN PALM FACINGSwHEEL",
    "1D85D wTHUMB SIDEwHEEL THUMB SIDEwTHUMB BENTzMB FORWARDwSPLIT INDEX THUMB SIDEzIT CENTREzIT CENTRE THUMB SIDE",
    "1D864 zIT CENTRE THUMB SIDE BENTzIT LITTLErCLAWv THUMB SIDEwNO THUMBwTHUMB FORWARDrHOOK CURLICUEvrCUP OPENu",
    "1D86E u OPEN THUMB SIDEvTHUMB SIDEvOPEN NO THUMBvNO THUMBvOPEN THUMB FORWARDvTHUMB FORWARDtRLICUE OPENzsIRCLE",
    "1D877 rOVALv THUMB SIDEwNO THUMBwTHUMB FORWARDrHINGE OPENzEN THUMB FORWARDww SMALLxOPEN THUMB SIDExTHUMB SIDE",
    "1D881 xOPEN NO THUMBxNO THUMBxTHUMB SIDE TOUCHING INDEXzUMB BETWEEN MIDDLE RINGrANGLErFIST INDEX MIDDLE RING",
    "1D887 rCIRCLE INDEX MIDDLE RINGrHINGE INDEX MIDDLE RINGrANGLE INDEX MIDDLE RINGrHINGE LITTLE",
    "1D88B rFIST INDEX MIDDLE RING BENTzEX MIDDLE RING CONJOINEDrHINGE INDEX MIDDLE RING CONJOINEDrFIST LITTLE DOWN",
    "1D88F zTLE DOWN RIPPLE STRAIGHTzTLE DOWN RIPPLE CURVEDzTLE DOWN OTHERS CIRCLEDzTLE UPwTHUMB UNDER LITTLE UP",
    "1D894 rCIRCLE LITTLE UPrOVAL LITTLE UPrANGLE LITTLE UPrFIST LITTLE RAISED KNUCKLEzTLE BENTzTLE TOUCHES THUMB",
    "1D89A zTLE THUMBrHINGE LITTLE THUMBrFIST LITTLE INDEX THUMBrHINGE LITTLE INDEX THUMB",
    "1D89E rANGLE LITTLE INDEX THUMB INDEX THUMB OUTzTTLE INDEX THUMB INDEX THUMBrFIST LITTLE INDEX",
    "1D8A1 rCIRCLE LITTLE INDEXrHINGE LITTLE INDEXrANGLE LITTLE INDEXrFIST INDEX MIDDLE LITTLE",
    "1D8A5 rCIRCLE INDEX MIDDLE LITTLErHINGE INDEX MIDDLE LITTLExRINGrANGLE INDEX MIDDLE LITTLE",
    "1D8A9 rFIST INDEX MIDDLE CROSS LITTLErCIRCLE INDEX MIDDLE CROSS LITTLErFIST RING DOWN",
    "1D8AC rHINGE RING DOWN INDEX THUMB HOOK MIDDLErANGLE RING DOWN MIDDLE THUMB INDEX CROSSrFIST RING UP",
    "1D8AF zG RAISED KNUCKLEzG LITTLErCIRCLE RING LITTLErOVAL RING LITTLErANGLE RING LITTLErFIST RING MIDDLE",
    "1D8B5 zG MIDDLE CONJOINEDzG MIDDLE RAISED KNUCKLESzG INDEXzG THUMBrHOOK RING THUMBrFIST INDEX RING LITTLE",
    "1D8BB rCIRCLE INDEX RING LITTLEsURLICUE INDEX RING LITTLE ONrHOOK INDEX RING LITTLE OUTzEX RING LITTLE IN",
    "1D8BF zEX RING LITTLE UNDERrCUP INDEX RING LITTLErHINGE INDEX RING LITTLErANGLE INDEX RING LITTLE OUT",
    "1D8C3 zDEX RING LITTLErFIST MIDDLE DOWNrHINGE MIDDLErFIST MIDDLE UPrCIRCLE MIDDLE UPrFIST MIDDLE RAISED KNUCKLE",
    "1D8C9 zDLE UP THUMB SIDErHOOK MIDDLE THUMBrFIST MIDDLE THUMB LITTLEzDLE LITTLEzDLE RING LITTLE",
    "1D8CE rCIRCLE MIDDLE RING LITTLEsURLICUE MIDDLE RING LITTLE ONtP MIDDLE RING LITTLErHINGE MIDDLE RING LITTLE",
    "1D8D2 rANGLE MIDDLE RING LITTLE OUTzDDLE RING LITTLE INzDDLE RING LITTLErCIRCLE MIDDLE RING LITTLE BENT",
    "1D8D6 sLAW MIDDLE RING LITTLE CONJOINEDzDLE RING LITTLE CONJOINED SIDErHOOK MIDDLE RING LITTLE CONJOINED OUT",
    "1D8D9 zDLE RING LITTLE CONJOINED INzDLE RING LITTLE CONJOINEDsINGE INDEX HINGEDrFIST INDEX THUMB SIDE",
    "1D8DD rHINGE INDEX THUMB SIDErFIST INDEX THUMB SIDE THUMB DIAGONALzEX THUMB SIDE THUMB CONJOINED",
    "1D8E0 zEX THUMB SIDE THUMB BENTzEX THUMB SIDE INDEX BENTzEX THUMB SIDE BOTH BENTzEX THUMB SIDE INDEX HINGE",
    "1D8E4 zEX THUMB FORWARD INDEX STRAIGHTzEX THUMB FORWARD INDEX BENTzEX THUMB HOOKzEX THUMB CURLICUE",
    "1D8E8 zEX THUMB CURVE THUMB INSIDErCLAW INDEX THUMB CURVE THUMB INSIDErFIST INDEX THUMB CURVE THUMB UNDER",
    "1D8EB zEX THUMB CIRCLErCUP INDEX THUMBzX THUMB OPENrHINGE INDEX THUMB OPENzDEX THUMB LARGEzDEX THUMB",
    "1D8F1 zDEX THUMB SMALLrANGLE INDEX THUMB OUTzDEX THUMB INzDEX THUMBrFIST THUMBzMB HEELzMB SIDE DIAGONAL",
    "1D8F8 zMB SIDE CONJOINEDzMB SIDE BENTzMB FORWARDzMB BETWEEN INDEX MIDDLEzMB BETWEEN MIDDLE RING",
    "1D8FD zMB BETWEEN RING LITTLEzMB UNDER TWO FINGERSzMB OVER TWO FINGERSzMB UNDER THREE FINGERS",
    "1D901 zMB UNDER FOUR FINGERSzMB OVER FOUR RAISED KNUCKLESvv HEELmTOUCH SINGLEsMULTIPLEsBETWEENmGRASP SINGLE",
    "1D909 sMULTIPLEsBETWEENmSTRIKE SINGLEtMULTIPLEtBETWEENmBRUSH SINGLEsMULTIPLEsBETWEENmRUB SINGLEqMULTIPLEqBETWEEN",
    "1D914 mSURFACE SYMBOLSuBETWEENnQUEEZE LARGE SINGLEuSMALL SINGLEuLARGE MULTIPLEuSMALL MULTIPLEvEQUENTIAL",
    "1D91B mFLICK LARGE SINGLEsSMALL SINGLEsLARGE MULTIPLEsSMALL MULTIPLEtEQUENTIALmSQUEEZE FLICK ALTERNATING",
    "1D921 mMOVEMENT-HINGE UP DOWN LARGEzE UP DOWN SMALLzE UP SEQUENTIALzE DOWN SEQUENTIAL",
    "1D925 zE UP DOWN ALTERNATING LARGEzE UP DOWN ALTERNATING SMALLzE SIDE TO SIDE SCISSORSvWALLPLANE FINGER CONTACT",
    "1D929 vFLOORPLANE FINGER CONTACTvWALLPLANE SINGLE STRAIGHT SMALLzPLANE SINGLE STRAIGHT MEDIUM",
    "1D92C zPLANE SINGLE STRAIGHT LARGEzPLANE SINGLE STRAIGHT LARGESTzPLANE SINGLE WRIST FLEXzPLANE DOUBLE STRAIGHT",
    "1D930 zPLANE DOUBLE WRIST FLEXzPLANE DOUBLE ALTERNATINGzPLANE DOUBLE ALTERNATING WRIST FLEXzPLANE CROSS",
    "1D934 zPLANE TRIPLE STRAIGHT MOVEMENTzPLANE TRIPLE WRIST FLEXzPLANE TRIPLE ALTERNATING",
    "1D937 zPLANE TRIPLE ALTERNATING WRIST FLEXzPLANE BEND SMALLzPLANE BEND MEDIUMzPLANE BEND LARGE",
    "1D93B zPLANE CORNER SMALLzPLANE CORNER MEDIUMzPLANE CORNER LARGEzPLANE CORNER ROTATIONzPLANE CHECK SMALL",
    "1D940 zPLANE CHECK MEDIUMzPLANE CHECK LARGEzPLANE BOX SMALLzPLANE BOX MEDIUMzPLANE BOX LARGEzPLANE ZIGZAG SMALL",
    "1D946 zPLANE ZIGZAG MEDIUMzPLANE ZIGZAG LARGEzPLANE PEAKS SMALLzPLANE PEAKS MEDIUMzPLANE PEAKS LARGE",
    "1D94B mTRAVEL-WALLPLANE ROTATION-WALLPLANE SINGLEzANE ROTATION-WALLPLANE DOUBLE",
    "1D94D zANE ROTATION-WALLPLANE ALTERNATINGzANE ROTATION-FLOORPLANE SINGLEzANE ROTATION-FLOORPLANE DOUBLE",
    "1D950 zANE ROTATION-FLOORPLANE ALTERNATINGzANE SHAKINGzANE ARM SPIRAL SINGLEzANE ARM SPIRAL DOUBLE",
    "1D954 zANE ARM SPIRAL TRIPLEmMOVEMENT-DIAGONAL AWAY SMALLzONAL AWAY MEDIUMzONAL AWAY LARGEzONAL AWAY LARGEST",
    "1D959 zONAL TOWARDS SMALLzONAL TOWARDS MEDIUMzONAL TOWARDS LARGEzONAL TOWARDS LARGESTzONAL BETWEEN AWAY SMALL",
    "1D95E zONAL BETWEEN AWAY MEDIUMzONAL BETWEEN AWAY LARGEzONAL BETWEEN AWAY LARGESTzONAL BETWEEN TOWARDS SMALL",
    "1D962 zONAL BETWEEN TOWARDS MEDIUMzONAL BETWEEN TOWARDS LARGEzONAL BETWEEN TOWARDS LARGEST",
    "1D965 vFLOORPLANE SINGLE STRAIGHT SMALLzRPLANE SINGLE STRAIGHT MEDIUMzRPLANE SINGLE STRAIGHT LARGE",
    "1D968 zRPLANE SINGLE STRAIGHT LARGESTzRPLANE SINGLE WRIST FLEXzRPLANE DOUBLE STRAIGHTzRPLANE DOUBLE WRIST FLEX",
    "1D96C zRPLANE DOUBLE ALTERNATINGzRPLANE DOUBLE ALTERNATING WRIST FLEXzRPLANE CROSS",
    "1D96F zRPLANE TRIPLE STRAIGHT MOVEMENTzRPLANE TRIPLE WRIST FLEXzRPLANE TRIPLE ALTERNATING MOVEMENT",
    "1D972 zRPLANE TRIPLE ALTERNATING WRIST FLEXzRPLANE BENDzRPLANE CORNER SMALLzRPLANE CORNER MEDIUM",
    "1D976 zRPLANE CORNER LARGEzRPLANE CHECKzRPLANE BOX SMALLzRPLANE BOX MEDIUMzRPLANE BOX LARGEzRPLANE ZIGZAG SMALL",
    "1D97C zRPLANE ZIGZAG MEDIUMzRPLANE ZIGZAG LARGEzRPLANE PEAKS SMALLzRPLANE PEAKS MEDIUMzRPLANE PEAKS LARGE",
    "1D981 mTRAVEL-FLOORPLANE ROTATION-FLOORPLANE SINGLEzLANE ROTATION-FLOORPLANE DOUBLE",
    "1D983 zLANE ROTATION-FLOORPLANE ALTERNATINGzLANE ROTATION-WALLPLANE SINGLEzLANE ROTATION-WALLPLANE DOUBLE",
    "1D986 zLANE ROTATION-WALLPLANE ALTERNATINGzLANE SHAKINGmMOVEMENT-WALLPLANE CURVE QUARTER SMALL",
    "1D989 zPLANE CURVE QUARTER MEDIUMzPLANE CURVE QUARTER LARGEzPLANE CURVE QUARTER LARGEST",
    "1D98C zPLANE CURVE HALF-CIRCLE SMALLzPLANE CURVE HALF-CIRCLE MEDIUMzPLANE CURVE HALF-CIRCLE LARGE",
    "1D98F zPLANE CURVE HALF-CIRCLE LARGESTzPLANE CURVE THREE-QUARTER CIRCLE SMALL",
    "1D991 zPLANE CURVE THREE-QUARTER CIRCLE MEDIUMzPLANE HUMP SMALLzPLANE HUMP MEDIUMzPLANE HUMP LARGE",
    "1D995 zPLANE LOOP SMALLzPLANE LOOP MEDIUMzPLANE LOOP LARGEzPLANE LOOP SMALL DOUBLEzPLANE WAVE CURVE DOUBLE SMALL",
    "1D99A zPLANE WAVE CURVE DOUBLE MEDIUMzPLANE WAVE CURVE DOUBLE LARGEzPLANE WAVE CURVE TRIPLE SMALL",
    "1D99D zPLANE WAVE CURVE TRIPLE MEDIUMzPLANE WAVE CURVE TRIPLE LARGEzPLANE CURVE THEN STRAIGHT",
    "1D9A0 zPLANE CURVED CROSS SMALLzPLANE CURVED CROSS MEDIUMmROTATION-WALLPLANE SINGLEzPLANE DOUBLEzPLANE ALTERNATE",
    "1D9A5 mMOVEMENT-WALLPLANE SHAKINGzPLANE CURVE HITTING FRONT WALLzPLANE HUMP HITTING FRONT WALL",
    "1D9A8 zPLANE LOOP HITTING FRONT WALLzPLANE WAVE HITTING FRONT WALLmROTATION-WALLPLANE SINGLE HITTING FRONT WALL",
    "1D9AB zPLANE DOUBLE HITTING FRONT WALLzPLANE ALTERNATING HITTING FRONT WALL",
    "1D9AD mMOVEMENT-WALLPLANE CURVE HITTING CHESTzPLANE HUMP HITTING CHESTzPLANE LOOP HITTING CHEST",
    "1D9B0 zPLANE WAVE HITTING CHESTmROTATION-WALLPLANE SINGLE HITTING CHESTzPLANE DOUBLE HITTING CHEST",
    "1D9B3 zPLANE ALTERNATING HITTING CHESTmMOVEMENT-WALLPLANE WAVE DIAGONAL PATH SMALL",
    "1D9B5 zPLANE WAVE DIAGONAL PATH MEDIUMzPLANE WAVE DIAGONAL PATH LARGEvFLOORPLANE CURVE HITTING CEILING SMALL",
    "1D9B8 zRPLANE CURVE HITTING CEILING LARGEzRPLANE HUMP HITTING CEILING SMALL DOUBLE",
    "1D9BA zRPLANE HUMP HITTING CEILING LARGE DOUBLEzRPLANE HUMP HITTING CEILING SMALL TRIPLE",
    "1D9BC zRPLANE HUMP HITTING CEILING LARGE TRIPLEzRPLANE LOOP HITTING CEILING SMALL SINGLE",
    "1D9BE zRPLANE LOOP HITTING CEILING LARGE SINGLEzRPLANE LOOP HITTING CEILING SMALL DOUBLE",
    "1D9C0 zRPLANE LOOP HITTING CEILING LARGE DOUBLEzRPLANE WAVE HITTING CEILING SMALL",
    "1D9C2 zRPLANE WAVE HITTING CEILING LARGEmROTATION-FLOORPLANE SINGLE HITTING CEILING",
    "1D9C4 zRPLANE DOUBLE HITTING CEILINGzRPLANE ALTERNATING HITTING CEILING",
    "1D9C6 mMOVEMENT-FLOORPLANE CURVE HITTING FLOOR SMALLzRPLANE CURVE HITTING FLOOR LARGE",
    "1D9C8 zRPLANE HUMP HITTING FLOOR SMALL DOUBLEzRPLANE HUMP HITTING FLOOR LARGE DOUBLE",
    "1D9CA zRPLANE HUMP HITTING FLOOR TRIPLE SMALL TRIPLEzRPLANE HUMP HITTING FLOOR TRIPLE LARGE TRIPLE",
    "1D9CC zRPLANE LOOP HITTING FLOOR SMALL SINGLEzRPLANE LOOP HITTING FLOOR LARGE SINGLE",
    "1D9CE zRPLANE LOOP HITTING FLOOR SMALL DOUBLEzRPLANE LOOP HITTING FLOOR LARGE DOUBLE",
    "1D9D0 zRPLANE WAVE HITTING FLOOR SMALLzRPLANE WAVE HITTING FLOOR LARGEmROTATION-FLOORPLANE SINGLE HITTING FLOOR",
    "1D9D3 zRPLANE DOUBLE HITTING FLOORzRPLANE ALTERNATING HITTING FLOORmMOVEMENT-FLOORPLANE CURVE SMALL",
    "1D9D6 zRPLANE CURVE MEDIUMzRPLANE CURVE LARGEzRPLANE CURVE LARGESTzRPLANE CURVE COMBINEDzRPLANE HUMP SMALL",
    "1D9DB zRPLANE LOOP SMALLzRPLANE WAVE SNAKEzRPLANE WAVE SMALLzRPLANE WAVE LARGEmROTATION-FLOORPLANE SINGLE",
    "1D9E0 zRPLANE DOUBLEzRPLANE ALTERNATINGmMOVEMENT-FLOORPLANE SHAKING PARALLELvWALLPLANE ARM CIRCLE SMALL SINGLE",
    "1D9E4 zPLANE ARM CIRCLE MEDIUM SINGLEzPLANE ARM CIRCLE SMALL DOUBLEzPLANE ARM CIRCLE MEDIUM DOUBLE",
    "1D9E7 vFLOORPLANE ARM CIRCLE HITTING WALL SMALL SINGLEzRPLANE ARM CIRCLE HITTING WALL MEDIUM SINGLE",
    "1D9E9 zRPLANE ARM CIRCLE HITTING WALL LARGE SINGLEzRPLANE ARM CIRCLE HITTING WALL SMALL DOUBLE",
    "1D9EB zRPLANE ARM CIRCLE HITTING WALL MEDIUM DOUBLEzRPLANE ARM CIRCLE HITTING WALL LARGE DOUBLE",
    "1D9ED vWALLPLANE WRIST CIRCLE FRONT SINGLEzPLANE WRIST CIRCLE FRONT DOUBLE",
    "1D9EF vFLOORPLANE WRIST CIRCLE HITTING WALL SINGLEzRPLANE WRIST CIRCLE HITTING WALL DOUBLE",
    "1D9F1 vWALLPLANE FINGER CIRCLES SINGLEzPLANE FINGER CIRCLES DOUBLEvFLOORPLANE FINGER CIRCLES HITTING WALL SINGLE",
    "1D9F4 zRPLANE FINGER CIRCLES HITTING WALL DOUBLEmDYNAMIC ARROWHEAD SMALLzHEAD LARGEuFASTuSLOWuTENSEuRELAXED",
    "1D9FB uSIMULTANEOUSzTANEOUS ALTERNATINGuEVERY OTHER TIMEuGRADUALmHEADq RIMrMOVEMENT-WALLPLANE STRAIGHT",
    "1DA02 z-WALLPLANE TILTz-FLOORPLANE STRAIGHTz-WALLPLANE CURVEz-FLOORPLANE CURVEz CIRCLE",
    "1DA07 mFACE DIRECTION POSITION NOSE FORWARD TILTINGzN POSITION NOSE UP OR DOWN",
    "1DA09 zN POSITION NOSE UP OR DOWN TILTINGmEYEBROWS STRAIGHT UPzIGHT NEUTRALzIGHT DOWN",
    "1DA0D mDREAMY EYEBROWS NEUTRAL DOWNzWS DOWN NEUTRALzWS UP NEUTRALzWS NEUTRAL UPmFOREHEAD NEUTRALvCONTACT",
    "1DA13 vWRINKLEDmEYES OPENrSQUEEZEDrCLOSEDp BLINK SINGLEwMULTIPLEpS HALF OPENrWIDE OPENrHALF CLOSED",
    "1DA1C rWIDENING MOVEMENTp WINKpLASHES UPwDOWNwFLUTTERINGpGAZE-WALLPLANE STRAIGHTzLANE STRAIGHT DOUBLE",
    "1DA23 zLANE STRAIGHT ALTERNATINGuFLOORPLANE STRAIGHTzPLANE STRAIGHT DOUBLEzPLANE STRAIGHT ALTERNATING",
    "1DA27 uWALLPLANE CURVEDuFLOORPLANE CURVEDuWALLPLANE CIRCLINGmCHEEKS PUFFEDtNEUTRALtSUCKEDmTENSE CHEEKS HIGH",
    "1DA2E zMIDDLEzLOWmEARSmNOSE NEUTRALrCONTACTrWRINKLESsIGGLESmAIR BLOWING OUTqSUCKING INqBLOW SMALL ROTATIONS",
    "1DA38 qSUCK SMALL ROTATIONSmBREATH INHALEtEXHALEmMOUTH CLOSED NEUTRALzFORWARDzCONTACTsSMILEx WRINKLEDyOPENsFROWN",
    "1DA42 x WRINKLEDyOPENsOPEN CIRCLExFORWARDxWRINKLEDxOVALzAL WRINKLEDzAL YAWNxRECTANGLEzCTANGLE WRINKLED",
    "1DA4C zCTANGLE YAWNsKISSw FORWARDxWRINKLEDsTENSEx FORWARDySUCKEDmLIPS PRESSED TOGETHERp LOWER OVER UPPER",
    "1DA55 qUPPER OVER LOWERmMOUTH CORNERSsWRINKLES SINGLEzS DOUBLEmTONGUE STICKING OUT FARtLICKING LIPS",
    "1DA5B tTIP BETWEEN LIPSxTOUCHING INSIDE MOUTHtINSIDE MOUTH RELAXEDtMOVES AGAINST CHEEKtCENTRE STICKING OUT",
    "1DA60 z INSIDE MOUTHnEETHr MOVEMENTsON TONGUEzUE MOVEMENTvLIPSz MOVEMENTsBITE LIPSmMOVEMENT-WALLPLANE JAW",
    "1DA69 vFLOORPLANE JAWmNECKmHAIRmEXCITEMENTmSHOULDER HIP SPINEzPOSITIONSmWALLPLANE SHOULDER HIP MOVE",
    "1DA70 mFLOORPLANE SHOULDER HIP MOVEmSHOULDER TILTING FROM WAISTmTORSO-WALLPLANE STRAIGHT STRETCHzNE CURVED BEND",
    "1DA74 sFLOORPLANE TWISTINGmUPPER BODY TILTING FROM HIP JOINTSmLIMB COMBINATIONrLENGTH-1y2y3y4y5y6y7mFINGER",
    "1DA7F mLOCATION-WALLPLANE SPACEvFLOORPLANE SPACEu HEIGHTvWIDTHvDEPTHvHEAD NECKvTORSOvLIMBS DIGITSmCOMMA",
    "1DA88 mFULL STOPmSEMICOLONmCOLONmPARENTHESIS",
    "1DA9B mFILL MODIFIER-2z-3z-4z-5z-6",
    "1DAA1 mROTATION MODIFIER-2zFIER-3zFIER-4zFIER-5zFIER-6zFIER-7zFIER-8zFIER-9zFIER-10zFIER-11zFIER-12zFIER-13",
    "1DAAD zFIER-14zFIER-15zFIER-16",
    "1DF00 aLATIN SMALL LETTER FENG DIGRAPH WITH TRILLtREVERSED SCRIPT GgLETTER SMALL CAPITAL TURNED G",
    "1DF03 gSMALL LETTER REVERSED KgLETTER SMALL CAPITAL L WITH BELTgSMALL LETTER LEZH WITH RETROFLEX HOOK",
    "1DF06 tTURNED Y WITH BELTtREVERSED ENGtTURNED R WITH LONG LEG AND RETROFLEX HOOKu WITH HOOK AND RETROFLEX HOOK",
    "1DF0A gLETTER RETROFLEX CLICK WITH RETROFLEX HOOKgSMALL LETTER ESH WITH DOUBLE BARzTH DOUBLE BAR AND CURL",
    "1DF0D tTURNED T WITH CURLgLETTER INVERTED GLOTTAL STOP WITH CURLnSTRETCHED C WITH CURLoMALL CAPITAL TURNED K",
    "1DF11 gSMALL LETTER L WITH FISHHOOKtDEZH DIGRAPH WITH PALATAL HOOKtL WITH BELT AND PALATAL HOOK",
    "1DF14 tENG WITH PALATAL HOOKtTURNED R WITH PALATAL HOOKtR WITH FISHHOOK AND PALATAL HOOK",
    "1DF17 tTESH DIGRAPH WITH PALATAL HOOKtEZH WITH PALATAL HOOKtDEZH DIGRAPH WITH RETROFLEX HOOK",
    "1DF1A tI WITH STROKE AND RETROFLEX HOOKtO WITH RETROFLEX HOOKtTESH DIGRAPH WITH RETROFLEX HOOK",
    "1DF1D tC WITH RETROFLEX HOOKtS WITH CURL",
    "1E000 aCOMBINING GLAGOLITIC LETTER AZUzER BUKYzER VEDEzER GLAGOLIzER DOBROzER YESTUzER ZHIVETE",
    "1E008 zER ZEMLJAzER IZHEzER INITIAL IZHEzER IzER DJERVIzER KAKOzER LJUDIJEzER MYSLITEzER NASHIzER ONUzER POKOJI",
    "1E013 zER RITSIzER SLOVOzER TVRIDOzER UKUzER FRITUzER HERU",
    "1E01B zER SHTAzER TSIzER CHRIVIzER SHAzER YERUzER YERIzER YATI",
    "1E023 zER YUzER SMALL YUS",
    "1E026 zER YOzER IOTATED SMALL YUSzER BIG YUSzER IOTATED BIG YUSzER FITA",
    "1E100 aNYIAKENG PUACHUE HMONG LETTER MAzTTER TSAzTTER NTAzTTER TAzTTER HAzTTER NAzTTER XAzTTER NKAzTTER CA",
    "1E109 zTTER LAzTTER SAzTTER ZAzTTER NCAzTTER NTSAzTTER KAzTTER DAzTTER NYAzTTER NRAzTTER VAzTTER NTXAzTTER TXA",
    "1E115 zTTER FAzTTER RAzTTER QAzTTER YAzTTER NQAzTTER PAzTTER XYAzTTER NPAzTTER DLAzTTER NPLAzTTER HAHzTTER MLA",
    "1E121 zTTER PLAzTTER GAzTTER RRAzTTER AzTTER AAzTTER IzTTER UzTTER OzTTER OOzTTER EzTTER EEzTTER W",
    "1E130 xTONE-BzNE-MzNE-JzNE-VzNE-SzNE-GzNE-DxSIGN FOR PERSONzGN FOR THINGzGN FOR LOCATIONzGN FOR ANIMAL",
    "1E13B zGN FOR INVERTEBRATEzGN XW XWyYLLABLE LENGTHENER",
    "1E140 xDIGIT ZEROzGIT ONEzGIT TWOzGIT THREEzGIT FOURzGIT FIVEzGIT SIXzGIT SEVENzGIT EIGHTzGIT NINE",
    "1E14E xLOGOGRAM NYAJxCIRCLED CA",
    "1E290 aTOTO LETTER PAmBAmTAmDAmKAmGAmMAmNAnGAmSAmCHAmYAmWAmJAmHAmRAmLAmImBREATHY ImIUmBREATHY IUmUmEmBREATHY E",
    "1E2A8 mEOmBREATHY EOmOmAEmBREATHY AEmAfSIGN RISING TONE",
    "1E2C0 aWANCHO LETTER AApoBAoCAoDAoGAoYAoPHAoLAoNAoPAoTApHAoFAoSApHAoJAoZAoWAoVAoKAoOoAUoRAoMAoKHAoHAoEoIoNGAoU",
    "1E2DF oLLHAoTSApRAoONGoAANGpNGoINGoONoENoAANoNYAoUENoYIHhTONE TUPpNImKOIpNIhDIGIT ZEROnONEnTWOoHREEnFOURoIVEnSIX",
    "1E2F7 oEVENnEIGHTnNINE",
    "1E2FF hNGUN SIGN",
    "1E7E0 aETHIOPIC SYLLABLE HHYAvUvIvAAvEEwvO",
    "1E7E8 sGURAGE HHWAsHHWIvEEw",
    "1E7ED sGURAGE MWIzMWEE",
    "1E7F0 zQWIzQWEEzQWEzBWIzBWEEzKWIzKWEEzKWEzGWIzGWEEzGWEzFWIzFWEEzPWIzPWEE",
    "1E800 aMENDE KIKAKUI SYLLABLE M001 KIz02 KAz03 KUz65 KEEz95 KEz76 KOOz48 KOy179 KUAy004 WIz05 WAz06 WUy126 WEE",
    "1E80C z18 WEz14 WOOy045 WOy194 WUIz43 WEIy061 WVIz49 WVAy139 WVEy007 MINz08 MANz09 MUNz59 MENz94 MONy154 MUAN",
    "1E81A z89 MUENy010 BIz11 BAz12 BUy150 BEEy097 BEy103 BOOz38 BOy013 Iz14 Az15 Uy163 EEz00 Ez65 OOz47 Oz37 EI",
    "1E82A z31 INz35 INz95 ANz78 ENy019 SIz20 SAz21 SUy162 SEEz16 SEz36 SOOy079 SOy196 SIAy025 LIz26 LAz27 LUz84 LEE",
    "1E83A z73 LEz54 LOOy153 LOz10 LONG LEy016 DIz17 DAz18 DUz89 DEEy180 DOOz81 DOy022 TIz23 TAz24 TUz91 TEEz55 TE",
    "1E849 y104 TOOy069 TOz28 JIz29 JAz30 JUy157 JEEz13 JEz60 JOOy063 JOy175 LONG JOy031 YIz32 YAz33 YUy109 YEE",
    "1E857 y080 YEy141 YOOz21 YOy034 FIz35 FAz36 FUz78 FEEz75 FEy133 FOOy088 FOy197 FUAz01 FANy037 NINz38 NANz39 NUN",
    "1E866 y117 NENz69 NONz76 HIy041 HAy186 HUy040 HEEz96 HEz42 HOOy140 HOy083 HEEIy128 HOOUy053 HINy130 HANy087 HUN",
    "1E874 z52 HENy193 HONy046 HUANz90 NGGIz43 NGGAz82 NGGUy115 NGGEEz46 NGGEz56 NGGOOz20 NGGOz59 NGGAAz27 NGGUA",
    "1E880 y086 LONG NGGEy106 LONG NGGOOz83 LONG NGGOz55 GIz11 GAz68 GUz90 GEEz66 GUEIz67 GUANz84 NGENy057 NGON",
    "1E88B y177 NGUANy068 PIz99 PAz50 PUz81 PEEz51 PEy102 POOy066 POy145 MBIy062 MBAy122 MBUy047 MBEEy188 MBEE",
    "1E898 y072 MBEy172 MBOOz74 MBOz87 MBUUz61 LONG MBEz05 LONG MBOOz42 LONG MBOz32 KPIy092 KPAz74 KPUz44 KPEE",
    "1E8A3 y108 KPEz12 KPOOz58 KPOz24 GBIy056 GBAy148 GBUy093 GBEEy107 GBEy071 GBOOz70 GBOy171 RAz23 NDIz29 NDA",
    "1E8B0 z25 NDUz91 NDEEz19 NDEy067 NDOOz64 NDOy152 NJAz92 NJUz49 NJEEz34 NJOOz82 VIz85 VAz51 VUz73 VEEy085 VE",
    "1E8BE y144 VOOy077 VOy164 NYINy058 NYANy170 NYUNy098 NYENz60 NYON",
    "1E8C7 oDIGIT ONEuTWOvHREEuFOURvIVEuSIXvEVENuEIGHTuNINEoCOMBINING NUMBER TEENSzUMBER TENSzUMBER HUNDREDS",
    "1E8D3 zUMBER THOUSANDSzUMBER TEN THOUSANDSzUMBER HUNDRED THOUSANDSzUMBER MILLIONS",
    "1E900 aADLAM CAPITAL LETTER ALIFvDAALIvLAAMvMIIMvBAvSINNYIIYHEvPEvBHEvRAvEvFAvIvOvDHAvYHEvWAWvNUNvKAFvYAvUvJIIM",
    "1E915 vCHIvHAvQAAFvGAvNYAvTUvNHAvVAvKHAvGBEvZALvKPOvSHAgSMALL LETTER ALIFtDAALItLAAMtMIIMtBAtSINNYIIYHEtPEtBHE",
    "1E92A tRAtEtFAtItOtDHAtYHEtWAWtNUNtKAFtYAtUtJIIMtCHItHAtQAAFtGAtNYAtTUtNHAtVAtKHAtGBEtZALtKPOtSHA",
    "1E944 gALIF LENGTHENERgVOWEL LENGTHENERgGEMINATION MARKgHAMZAgCONSONANT MODIFIERgGEMINATE CONSONANT MODIFIER",
    "1E94A gNUKTAhASALIZATION MARK",
    "1E950 gDIGIT ZEROmONEmTWOnHREEmFOURnIVEmSIXnEVENmEIGHTmNINE",
    "1E95E gINITIAL EXCLAMATION MARKoQUESTION MARK",
    "1EC71 aINDIC SIYAQ NUMBER ONEtTWOuHREEtFOURuIVEtSIXuEVENtEIGHTtNINEtTENuWENTYuHIRTYtFORTYuIFTYtSIXTYuEVENTY",
    "1EC81 tEIGHTYtNINETYtONE HUNDREDtTWO HUNDREDuHREE HUNDREDtFOUR HUNDREDuIVE HUNDREDtSIX HUNDREDuEVEN HUNDRED",
    "1EC8A tEIGHT HUNDREDtNINE HUNDREDtONE THOUSANDtTWO THOUSANDuHREE THOUSANDtFOUR THOUSANDuIVE THOUSAND",
    "1EC91 tSIX THOUSANDuEVEN THOUSANDtEIGHT THOUSANDtNINE THOUSANDtTEN THOUSANDuWENTY THOUSANDuHIRTY THOUSAND",
    "1EC98 tFORTY THOUSANDuIFTY THOUSANDtSIXTY THOUSANDuEVENTY THOUSANDtEIGHTY THOUSANDtNINETY THOUSANDtLAKHxAN",
    "1ECA0 mLAKH MARKmNUMBER KARORyANtPREFIXED ONEzED TWOzED THREEzED FOURzED FIVEzED SIXzED SEVENzED EIGHTzED NINE",
    "1ECAC mPLACEHOLDERmFRACTION ONE QUARTERzHALFvTHREE QUARTERSmRUPEE MARKmNUMBER ALTERNATE ONEzATE TWO",
    "1ECB3 zATE TEN THOUSANDmALTERNATE LAKH MARK",
    "1ED01 aOTTOMAN SIYAQ NUMBER ONEvTWOwHREEvFOURwIVEvSIXwEVENvEIGHTvNINEvTENwWENTYwHIRTYvFORTYwIFTYvSIXTYwEVENTY",
    "1ED11 vEIGHTYvNINETYvONE HUNDREDvTWO HUNDREDwHREE HUNDREDvFOUR HUNDREDwIVE HUNDREDvSIX HUNDREDwEVEN HUNDRED",
    "1ED1A vEIGHT HUNDREDvNINE HUNDREDvONE THOUSANDvTWO THOUSANDwHREE THOUSANDvFOUR THOUSANDwIVE THOUSAND",
    "1ED21 vSIX THOUSANDwEVEN THOUSANDvEIGHT THOUSANDvNINE THOUSANDvTEN THOUSANDwWENTY THOUSANDwHIRTY THOUSAND",
    "1ED28 vFORTY THOUSANDwIFTY THOUSANDvSIXTY THOUSANDwEVENTY THOUSANDvEIGHTY THOUSANDvNINETY THOUSANDoMARRATAN",
    "1ED2F oALTERNATE NUMBER TWOzUMBER THREEzUMBER FOURzUMBER FIVEzUMBER SIXzUMBER SEVENzUMBER EIGHTzUMBER NINE",
    "1ED37 zUMBER TENzUMBER FOUR HUNDREDzUMBER SIX HUNDREDzUMBER TWO THOUSANDzUMBER TEN THOUSANDoFRACTION ONE HALF",
    "1ED3D zE SIXTH",
    "1EE00 aARABIC MATHEMATICAL ALEFuBEHuJEEMuDAL",
    "1EE05 uWAWuZAINuHAHuTAHuYEHuKAFuLAMuMEEMuNOONuSEENuAINuFEHuSADuQAFuREHuSHEENuTEHvHEHuKHAHuTHALuDADuZAHuGHAIN",
    "1EE1C uDOTLESS BEHzSS NOONzSS FEHzSS QAF",
    "1EE21 uINITIAL BEHzAL JEEM",
    "1EE24 zAL HEH",
    "1EE27 zAL HAH",
    "1EE29 zAL YEHzAL KAFzAL LAMzAL MEEMzAL NOONzAL SEENzAL AINzAL FEHzAL SADzAL QAF",
    "1EE34 zAL SHEENzAL TEHzAL THEHzAL KHAH",
    "1EE39 zAL DAD",
    "1EE3B zAL GHAIN",
    "1EE42 uTAILED JEEM",
    "1EE47 zD HAH",
    "1EE49 zD YEH",
    "1EE4B zD LAM",
    "1EE4D zD NOONzD SEENzD AIN",
    "1EE51 zD SADzD QAF",
    "1EE54 zD SHEEN",
    "1EE57 zD KHAH",
    "1EE59 zD DAD",
    "1EE5B zD GHAIN",
    "1EE5D zD DOTLESS NOON",
    "1EE5F zD DOTLESS QAF",
    "1EE61 uSTRETCHED BEHzCHED JEEM",
    "1EE64 zCHED HEH",
    "1EE67 zCHED HAHzCHED TAHzCHED YEHzCHED KAF",
    "1EE6C zCHED MEEMzCHED NOONzCHED SEENzCHED AINzCHED FEHzCHED SADzCHED QAF",
    "1EE74 zCHED SHEENzCHED TEHzCHED THEHzCHED KHAH",
    "1EE79 zCHED DADzCHED ZAHzCHED GHAINzCHED DOTLESS BEH",
    "1EE7E zCHED DOTLESS FEH",
    "1EE80 uLOOPED ALEFzD BEHzD JEEMzD DALzD HEHzD WAWzD ZAINzD HAHzD TAHzD YEH",
    "1EE8B zD LAMzD MEEMzD NOONzD SEENzD AINzD FEHzD SADzD QAFzD REHzD SHEENzD TEHzD THEHzD KHAHzD THALzD DADzD ZAH",
    "1EE9B zD GHAIN",
    "1EEA1 uDOUBLE-STRUCK BEHzE-STRUCK JEEMzE-STRUCK DAL",
    "1EEA5 zE-STRUCK WAWzE-STRUCK ZAINzE-STRUCK HAHzE-STRUCK TAHzE-STRUCK YEH",
    "1EEAB zE-STRUCK LAMzE-STRUCK MEEMzE-STRUCK NOONzE-STRUCK SEENzE-STRUCK AINzE-STRUCK FEHzE-STRUCK SAD",
    "1EEB2 zE-STRUCK QAFzE-STRUCK REHzE-STRUCK SHEENzE-STRUCK TEHzE-STRUCK THEHzE-STRUCK KHAHzE-STRUCK THAL",
    "1EEB9 zE-STRUCK DADzE-STRUCK ZAHzE-STRUCK GHAIN",
    "1EEF0 uOPERATOR MEEM WITH HAH WITH TATWEELzTOR HAH WITH DAL",
    "1F000 aMAHJONG TILE EAST WINDnSOUTH WINDnWEST WINDnNORTH WINDnRED DRAGONnGREEN DRAGONnWHITE DRAGON",
    "1F007 nONE OF CHARACTERSnTWO OF CHARACTERSoHREE OF CHARACTERSnFOUR OF CHARACTERSoIVE OF CHARACTERS",
    "1F00C nSIX OF CHARACTERSoEVEN OF CHARACTERSnEIGHT OF CHARACTERSnNINE OF CHARACTERSnONE OF BAMBOOSnTWO OF BAMBOOS",
    "1F012 oHREE OF BAMBOOSnFOUR OF BAMBOOSoIVE OF BAMBOOSnSIX OF BAMBOOSoEVEN OF BAMBOOSnEIGHT OF BAMBOOS",
    "1F018 nNINE OF BAMBOOSnONE OF CIRCLESnTWO OF CIRCLESoHREE OF CIRCLESnFOUR OF CIRCLESoIVE OF CIRCLES",
    "1F01E nSIX OF CIRCLESoEVEN OF CIRCLESnEIGHT OF CIRCLESnNINE OF CIRCLESnPLUMnORCHIDnBAMBOOnCHRYSANTHEMUMnSPRING",
    "1F027 oUMMERnAUTUMNnWINTERnJOKERnBACK",
    "1F030 aDOMINO TILE HORIZONTAL BACKw-00-00z-01z-02z-03z-04z-05z-06y1-00z-01z-02z-03z-04z-05z-06y2-00z-01z-02z-03",
    "1F043 z-04z-05z-06y3-00z-01z-02z-03z-04z-05z-06y4-00z-01z-02z-03z-04z-05z-06y5-00z-01z-02z-03z-04z-05z-06y6-00",
    "1F05C z-01z-02z-03z-04z-05z-06mVERTICAL BACKu-00-00z1z2z3z4z5z6w1-00z1z2z3z4z5z6w2-00z1z2z3z4z5z6w3-00z1z2z3z4z5",
    "1F07E z6w4-00z1z2z3z4z5z6w5-00z1z2z3z4z5z6w6-00z1z2z3z4z5z6",
    "1F0A0 aPLAYING CARD BACKnACE OF SPADESnTWO OF SPADESoHREE OF SPADESnFOUR OF SPADESoIVE OF SPADESnSIX OF SPADES",
    "1F0A7 oEVEN OF SPADESnEIGHT OF SPADESnNINE OF SPADESnTEN OF SPADESnJACK OF SPADESnKNIGHT OF SPADES",
    "1F0AD nQUEEN OF SPADESnKING OF SPADES",
    "1F0B1 nACE OF HEARTSnTWO OF HEARTSoHREE OF HEARTSnFOUR OF HEARTSoIVE OF HEARTSnSIX OF HEARTSoEVEN OF HEARTS",
    "1F0B8 nEIGHT OF HEARTSnNINE OF HEARTSnTEN OF HEARTSnJACK OF HEARTSnKNIGHT OF HEARTSnQUEEN OF HEARTS",
    "1F0BE nKING OF HEARTSnRED JOKER",
    "1F0C1 nACE OF DIAMONDSnTWO OF DIAMONDSoHREE OF DIAMONDSnFOUR OF DIAMONDSoIVE OF DIAMONDSnSIX OF DIAMONDS",
    "1F0C7 oEVEN OF DIAMONDSnEIGHT OF DIAMONDSnNINE OF DIAMONDSnTEN OF DIAMONDSnJACK OF DIAMONDSnKNIGHT OF DIAMONDS",
    "1F0CD nQUEEN OF DIAMONDSnKING OF DIAMONDSnBLACK JOKER",
    "1F0D1 nACE OF CLUBSnTWO OF CLUBSoHREE OF CLUBSnFOUR OF CLUBSoIVE OF CLUBSnSIX OF CLUBSoEVEN OF CLUBS",
    "1F0D8 nEIGHT OF CLUBSnNINE OF CLUBSnTEN OF CLUBSnJACK OF CLUBSnKNIGHT OF CLUBSnQUEEN OF CLUBSnKING OF CLUBS",
    "1F0DF nWHITE JOKERnFOOLnTRUMP-1t2t3t4t5t6t7t8t9t10u1u2u3u4u5u6u7u8u9t20u1",
    "1F100 aDIGIT ZERO FULL STOPlCOMMAgONE COMMAgTWO COMMAhHREE COMMAgFOUR COMMAhIVE COMMAgSIX COMMAhEVEN COMMA",
    "1F109 gEIGHT COMMAgNINE COMMAcNGBAT CIRCLED SANS-SERIF DIGIT ZEROiNEGATIVE CIRCLED SANS-SERIF DIGIT ZERO",
    "1F10D aCIRCLED ZERO WITH SLASHiANTICLOCKWISE ARROWiDOLLAR SIGN WITH OVERLAID BACKSLASH",
    "1F110 aPARENTHESIZED LATIN CAPITAL LETTER AzAL LETTER BzAL LETTER CzAL LETTER DzAL LETTER EzAL LETTER F",
    "1F116 zAL LETTER GzAL LETTER HzAL LETTER IzAL LETTER JzAL LETTER KzAL LETTER LzAL LETTER MzAL LETTER N",
    "1F11E zAL LETTER OzAL LETTER PzAL LETTER QzAL LETTER RzAL LETTER SzAL LETTER TzAL LETTER UzAL LETTER V",
    "1F126 zAL LETTER WzAL LETTER XzAL LETTER YzAL LETTER ZaTORTOISE SHELL BRACKETED LATIN CAPITAL LETTER S",
    "1F12B aCIRCLED ITALIC LATIN CAPITAL LETTER CzTAL LETTER RiCDiWZbOPYLEFT SYMBOLaSQUARED LATIN CAPITAL LETTER A",
    "1F131 zTER BzTER CzTER DzTER EzTER FzTER GzTER HzTER IzTER JzTER KzTER LzTER MzTER NzTER OzTER PzTER QzTER R",
    "1F142 zTER SzTER TzTER UzTER VzTER WzTER XzTER YzTER ZiHViMViSDjSiPPViWCaNEGATIVE CIRCLED LATIN CAPITAL LETTER A",
    "1F151 zPITAL LETTER BzPITAL LETTER CzPITAL LETTER DzPITAL LETTER EzPITAL LETTER FzPITAL LETTER GzPITAL LETTER H",
    "1F158 zPITAL LETTER IzPITAL LETTER JzPITAL LETTER KzPITAL LETTER LzPITAL LETTER MzPITAL LETTER NzPITAL LETTER O",
    "1F15F zPITAL LETTER PzPITAL LETTER QzPITAL LETTER RzPITAL LETTER SzPITAL LETTER TzPITAL LETTER UzPITAL LETTER V",
    "1F166 zPITAL LETTER WzPITAL LETTER XzPITAL LETTER YzPITAL LETTER ZaRAISED MC SIGNiD SIGNiR SIGNaCIRCLED CC",
    "1F16E j WITH OVERLAID BACKSLASHiHUMAN FIGUREaNEGATIVE SQUARED LATIN CAPITAL LETTER AzPITAL LETTER B",
    "1F172 zPITAL LETTER CzPITAL LETTER DzPITAL LETTER EzPITAL LETTER FzPITAL LETTER GzPITAL LETTER HzPITAL LETTER I",
    "1F179 zPITAL LETTER JzPITAL LETTER KzPITAL LETTER LzPITAL LETTER MzPITAL LETTER NzPITAL LETTER OzPITAL LETTER P",
    "1F180 zPITAL LETTER QzPITAL LETTER RzPITAL LETTER SzPITAL LETTER TzPITAL LETTER UzPITAL LETTER VzPITAL LETTER W",
    "1F187 zPITAL LETTER XzPITAL LETTER YzPITAL LETTER ZaCROSSED NEGATIVE SQUARED LATIN CAPITAL LETTER P",
    "1F18B aNEGATIVE SQUARED ICrPArSArABrWCaSQUARE DJgD CLjOOLiFREEiIDiNEWjGiOKiSOSiUP WITH EXCLAMATION MARKiVS",
    "1F19B iTHREE DiSECOND SCREENiTWO KiFOUR KiEIGHT KiFIVE POINT ONEiSEVEN POINT ONEiTWENTY-TWO POINT TWOiSIXTY P",
    "1F1A4 iONE HUNDRED TWENTY PiLATIN SMALL LETTER DiHCjDRjI-RESiLOSSLESSiSHViUHDiVODaMASK WORK SYMBOL",
    "1F1E6 aREGIONAL INDICATOR SYMBOL LETTER Az LETTER Bz LETTER Cz LETTER Dz LETTER Ez LETTER Fz LETTER Gz LETTER H",
    "1F1EE z LETTER Iz LETTER Jz LETTER Kz LETTER Lz LETTER Mz LETTER Nz LETTER Oz LETTER Pz LETTER Qz LETTER R",
    "1F1F8 z LETTER Sz LETTER Tz LETTER Uz LETTER Vz LETTER Wz LETTER Xz LETTER Yz LETTER ZaSQUARE HIRAGANA HOKA",
    "1F201 gD KATAKANA KOKOrSA",
    "1F210 iCJK UNIFIED IDEOGRAPH-624BzRAPH-5B57zRAPH-53CCiKATAKANA DEiCJK UNIFIED IDEOGRAPH-4E8CzRAPH-591AzRAPH-89E3",
    "1F217 zRAPH-5929zRAPH-4EA4zRAPH-6620zRAPH-7121zRAPH-6599zRAPH-524DzRAPH-5F8CzRAPH-518DzRAPH-65B0zRAPH-521D",
    "1F221 zRAPH-7D42zRAPH-751FzRAPH-8CA9zRAPH-58F0zRAPH-5439zRAPH-6F14zRAPH-6295zRAPH-6355zRAPH-4E00zRAPH-4E09",
    "1F22B zRAPH-904AzRAPH-5DE6zRAPH-4E2DzRAPH-53F3zRAPH-6307zRAPH-8D70zRAPH-6253zRAPH-7981zRAPH-7A7AzRAPH-5408",
    "1F235 zRAPH-6E80zRAPH-6709zRAPH-6708zRAPH-7533zRAPH-5272zRAPH-55B6zRAPH-914D",
    "1F240 aTORTOISE SHELL BRACKETED CJK UNIFIED IDEOGRAPH-672CzCJK UNIFIED IDEOGRAPH-4E09zCJK UNIFIED IDEOGRAPH-4E8C",
    "1F243 zCJK UNIFIED IDEOGRAPH-5B89zCJK UNIFIED IDEOGRAPH-70B9zCJK UNIFIED IDEOGRAPH-6253",
    "1F246 zCJK UNIFIED IDEOGRAPH-76D7zCJK UNIFIED IDEOGRAPH-52DDzCJK UNIFIED IDEOGRAPH-6557",
    "1F250 aCIRCLED IDEOGRAPH ADVANTAGEtCCEPT",
    "1F260 aROUNDED SYMBOL FOR FUtLUtSHOUtXItSHUANGXItCAI",
    "1F300 aCYCLONEaFOGGYaCLOSED UMBRELLAaNIGHT WITH STARSaSUNRISE OVER MOUNTAINShaCITYSCAPE AT DUSK",
    "1F307 aSUNSET OVER BUILDINGSaRAINBOWaBRIDGE AT NIGHTaWATER WAVEaVOLCANOaMILKY WAYaEARTH GLOBE EUROPE-AFRICA",
    "1F30E mAMERICASnSIA-AUSTRALIAaGLOBE WITH MERIDIANSaNEW MOON SYMBOLaWAXING CRESCENT MOON SYMBOL",
    "1F313 aFIRST QUARTER MOON SYMBOLaWAXING GIBBOUS MOON SYMBOLaFULL MOON SYMBOLaWANING GIBBOUS MOON SYMBOL",
    "1F317 aLAST QUARTER MOON SYMBOLaWANING CRESCENT MOON SYMBOLaCRESCENT MOONaNEW MOON WITH FACE",
    "1F31B aFIRST QUARTER MOON WITH FACEaLAST QUARTER MOON WITH FACEaFULL MOON WITH FACEaSUN WITH FACEaGLOWING STAR",
    "1F320 aSHOOTING STARaTHERMOMETERaBLACK DROPLETaWHITE SUNj WITH SMALL CLOUDkBEHIND CLOUDw WITH RAIN",
    "1F327 aCLOUD WITH RAINlSNOWlLIGHTNINGlTORNADOaFOGaWIND BLOWING FACEaHOT DOGaTACOaBURRITOaCHESTNUTaSEEDLING",
    "1F332 aEVERGREEN TREEaDECIDUOUS TREEaPALM TREEaCACTUSaHOT PEPPERaTULIPaCHERRY BLOSSOMaROSEaHIBISCUSaSUNFLOWER",
    "1F33C aBLOSSOMaEAR OF MAIZEhRICEaHERBaFOUR LEAF CLOVERaMAPLE LEAFaFALLEN LEAFaLEAF FLUTTERING IN WINDaMUSHROOM",
    "1F345 aTOMATOaAUBERGINEaGRAPESaMELONaWATERMELONaTANGERINEaLEMONaBANANAaPINEAPPLEaRED APPLEaGREEN APPLEaPEARdCH",
    "1F352 aCHERRIESaSTRAWBERRYaHAMBURGERaSLICE OF PIZZAaMEAT ON BONEaPOULTRY LEGaRICE CRACKERfBALLaCOOKED RICE",
    "1F35B bURRY AND RICEaSTEAMING BOWLbPAGHETTIaBREADaFRENCH FRIESaROASTED SWEET POTATOaDANGOaODENaSUSHI",
    "1F364 aFRIED SHRIMPbISH CAKE WITH SWIRL DESIGNaSOFT ICE CREAMbHAVED ICEaICE CREAMaDOUGHNUTaCOOKIEbHOCOLATE BAR",
    "1F36C bANDYaLOLLIPOPaCUSTARDaHONEY POTaSHORTCAKEaBENTO BOXaPOT OF FOODaCOOKINGaFORK AND KNIFE",
    "1F375 aTEACUP WITHOUT HANDLEaSAKE BOTTLE AND CUPaWINE GLASSaCOCKTAIL GLASSaTROPICAL DRINKaBEER MUG",
    "1F37B aCLINKING BEER MUGSaBABY BOTTLEaFORK AND KNIFE WITH PLATEaBOTTLE WITH POPPING CORKaPOPCORNaRIBBON",
    "1F381 aWRAPPED PRESENTaBIRTHDAY CAKEaJACK-O-LANTERNaCHRISTMAS TREEaFATHER CHRISTMASbIREWORKSi SPARKLERaBALLOON",
    "1F389 aPARTY POPPERaCONFETTI BALLaTANABATA TREEaCROSSED FLAGSaPINE DECORATIONaJAPANESE DOLLSaCARP STREAMER",
    "1F390 aWIND CHIMEaMOON VIEWING CEREMONYaSCHOOL SATCHELaGRADUATION CAPaHEART WITH TIP ON THE LEFT",
    "1F395 aBOUQUET OF FLOWERSaMILITARY MEDALaREMINDER RIBBONaMUSICAL KEYBOARD WITH JACKSaSTUDIO MICROPHONE",
    "1F39A aLEVEL SLIDERaCONTROL KNOBSaBEAMED ASCENDING MUSICAL NOTEShDESCENDING MUSICAL NOTESaFILM FRAMES",
    "1F39F aADMISSION TICKETSaCAROUSEL HORSEaFERRIS WHEELaROLLER COASTERaFISHING POLE AND FISHaMICROPHONEbOVIE CAMERA",
    "1F3A6 aCINEMAaHEADPHONEaARTIST PALETTEaTOP HATaCIRCUS TENTaTICKETaCLAPPER BOARDaPERFORMING ARTSaVIDEO GAME",
    "1F3AF aDIRECT HITaSLOT MACHINEaBILLIARDSaGAME DIEaBOWLINGaFLOWER PLAYING CARDSaMUSICAL NOTEcLTIPLE MUSICAL NOTES",
    "1F3B7 aSAXOPHONEaGUITARaMUSICAL KEYBOARDaTRUMPETaVIOLINaMUSICAL SCOREaRUNNING SHIRT WITH SASH",
    "1F3BE aTENNIS RACQUET AND BALLaSKI AND SKI BOOTaBASKETBALL AND HOOPaCHEQUERED FLAGaSNOWBOARDERaRUNNERaSURFER",
    "1F3C5 bPORTS MEDALaTROPHYaHORSE RACINGaAMERICAN FOOTBALLaRUGBY FOOTBALLaSWIMMERaWEIGHT LIFTERaGOLFER",
    "1F3CD aRACING MOTORCYCLEhCARaCRICKET BAT AND BALLaVOLLEYBALLaFIELD HOCKEY STICK AND BALL",
    "1F3D2 aICE HOCKEY STICK AND PUCKaTABLE TENNIS PADDLE AND BALLaSNOW CAPPED MOUNTAINaCAMPINGaBEACH WITH UMBRELLA",
    "1F3D7 bUILDING CONSTRUCTIONaHOUSE BUILDINGSaCITYSCAPEaDERELICT HOUSE BUILDINGaCLASSICAL BUILDINGaDESERTg ISLAND",
    "1F3DE aNATIONAL PARKaSTADIUMaHOUSE BUILDINGgWITH GARDENaOFFICE BUILDINGaJAPANESE POST OFFICE",
    "1F3E4 aEUROPEAN POST OFFICEaHOSPITALaBANKaAUTOMATED TELLER MACHINEaHOTELaLOVE HOTELaCONVENIENCE STOREaSCHOOL",
    "1F3EC aDEPARTMENT STOREaFACTORYaIZAKAYA LANTERNaJAPANESE CASTLEaEUROPEAN CASTLEaWHITE PENNANTaBLACK PENNANT",
    "1F3F3 aWAVING WHITE FLAGhBLACK FLAGaROSETTEaBLACK ROSETTEaLABELaBADMINTON RACQUET AND SHUTTLECOCKbOW AND ARROW",
    "1F3FA aAMPHORAaEMOJI MODIFIER FITZPATRICK TYPE-1-2zK TYPE-3zK TYPE-4zK TYPE-5zK TYPE-6aRATaMOUSEaOX",
    "1F403 aWATER BUFFALOaCOWaTIGERaLEOPARDaRABBITaCATaDRAGONaCROCODILEaWHALEaSNAILdKEaHORSEaRAMaGOATaSHEEPaMONKEY",
    "1F413 aROOSTERaCHICKENaDOGaPIGaBOARaELEPHANTaOCTOPUSaSPIRAL SHELLaBUGaANTaHONEYBEEaLADY BEETLEaFISH",
    "1F420 aTROPICAL FISHaBLOWFISHaTURTLEaHATCHING CHICKaBABY CHICKaFRONT-FACING BABY CHICKaBIRDaPENGUINaKOALAaPOODLE",
    "1F42A aDROMEDARY CAMELaBACTRIAN CAMELaDOLPHINaMOUSE FACEaCOW FACEaTIGER FACEaRABBIT FACEaCAT FACEaDRAGON FACE",
    "1F433 aSPOUTING WHALEaHORSE FACEaMONKEY FACEaDOG FACEaPIG FACEaFROG FACEaHAMSTER FACEaWOLF FACEaBEAR FACE",
    "1F43C aPANDA FACEbIG NOSEbAW PRINTSaCHIPMUNKaEYESdbARaNOSEaMOUTHaTONGUEaWHITE UP POINTING BACKHAND INDEX",
    "1F447 gDOWN POINTING BACKHAND INDEXgLEFT POINTING BACKHAND INDEXgRIGHT POINTING BACKHAND INDEXaFISTED HAND SIGN",
    "1F44B aWAVING HAND SIGNaOK HAND SIGNaTHUMBS UP SIGNhDOWN SIGNaCLAPPING HANDS SIGNaOPEN HANDS SIGNaCROWN",
    "1F452 aWOMANS HATaEYEGLASSESaNECKTIEaT-SHIRTaJEANSaDRESSaKIMONOaBIKINIaWOMANS CLOTHESaPURSEaHANDBAGaPOUCH",
    "1F45E aMANS SHOEaATHLETIC SHOEaHIGH-HEELED SHOEaWOMANS SANDALhBOOTSaFOOTPRINTSaBUST IN SILHOUETTE",
    "1F465 eS IN SILHOUETTEbOYaGIRLaMANaWOMANaFAMILYaMAN AND WOMAN HOLDING HANDSaTWO MEN HOLDING HANDS",
    "1F46D eWOMEN HOLDING HANDSaPOLICE OFFICERaWOMAN WITH BUNNY EARSaBRIDE WITH VEILaPERSON WITH BLOND HAIR",
    "1F472 aMAN WITH GUA PI MAOjTURBANaOLDER MANgWOMANaBABYaCONSTRUCTION WORKERaPRINCESSaJAPANESE OGREjGOBLINaGHOST",
    "1F47C aBABY ANGELaEXTRATERRESTRIAL ALIENaALIEN MONSTERaIMPaSKULLaINFORMATION DESK PERSONaGUARDSMANaDANCER",
    "1F484 aLIPSTICKaNAIL POLISHaFACE MASSAGEaHAIRCUTaBARBER POLEaSYRINGEaPILLaKISS MARKaLOVE LETTERaRINGaGEM STONE",
    "1F48F aKISSaBOUQUETaCOUPLE WITH HEARTaWEDDINGaBEATING HEARTbROKEN HEARTaTWO HEARTSaSPARKLING HEARTaGROWING HEART",
    "1F498 aHEART WITH ARROWaBLUE HEARTaGREEN HEARTaYELLOW HEARTaPURPLE HEARTaHEART WITH RIBBONaREVOLVING HEARTS",
    "1F49F aHEART DECORATIONaDIAMOND SHAPE WITH A DOT INSIDEaELECTRIC LIGHT BULBaANGER SYMBOLaBOMBaSLEEPING SYMBOL",
    "1F4A5 aCOLLISION SYMBOLaSPLASHING SWEAT SYMBOLaDROPLETbASH SYMBOLaPILE OF POOaFLEXED BICEPSaDIZZY SYMBOL",
    "1F4AC aSPEECH BALLOONaTHOUGHT BALLOONaWHITE FLOWERaHUNDRED POINTS SYMBOLaMONEY BAGaCURRENCY EXCHANGE",
    "1F4B2 aHEAVY DOLLAR SIGNaCREDIT CARDaBANKNOTE WITH YEN SIGNoDOLLAR SIGNoEURO SIGNoPOUND SIGNaMONEY WITH WINGS",
    "1F4B9 aCHART WITH UPWARDS TREND AND YEN SIGNaSEATaPERSONAL COMPUTERaBRIEFCASEaMINIDISCaFLOPPY DISKaOPTICAL DISC",
    "1F4C0 aDVDaFILE FOLDERaOPEN FILE FOLDERaPAGE WITH CURLfFACING UPaCALENDARaTEAR-OFF CALENDARaCARD INDEX",
    "1F4C8 bHART WITH UPWARDS TRENDlDOWNWARDS TRENDaBAR CHARTaCLIPBOARDaPUSHPINaROUND PUSHPINaPAPERCLIP",
    "1F4CF aSTRAIGHT RULERaTRIANGULAR RULERaBOOKMARK TABSaLEDGERaNOTEBOOKi WITH DECORATIVE COVERaCLOSED BOOK",
    "1F4D6 aOPEN BOOKaGREEN BOOKaBLUE BOOKaORANGE BOOKaBOOKSaNAME BADGEaSCROLLaMEMOaTELEPHONE RECEIVERaPAGER",
    "1F4E0 aFAX MACHINEaSATELLITE ANTENNAaPUBLIC ADDRESS LOUDSPEAKERaCHEERING MEGAPHONEaOUTBOX TRAYaINBOX TRAY",
    "1F4E6 aPACKAGEaE-MAIL SYMBOLaINCOMING ENVELOPEaENVELOPE WITH DOWNWARDS ARROW ABOVE",
    "1F4EA aCLOSED MAILBOX WITH LOWERED FLAGuRAISED FLAGaOPEN MAILBOX WITH RAISED FLAGsLOWERED FLAGaPOSTBOXeAL HORN",
    "1F4F0 aNEWSPAPERaMOBILE PHONEm WITH RIGHTWARDS ARROW AT LEFTaVIBRATION MODEaMOBILE PHONE OFFaNO MOBILE PHONES",
    "1F4F6 aANTENNA WITH BARSaCAMERAg WITH FLASHaVIDEO CAMERAaTELEVISIONaRADIOaVIDEOCASSETTEaFILM PROJECTOR",
    "1F4FE aPORTABLE STEREObRAYER BEADSaTWISTED RIGHTWARDS ARROWS",
    "1F501 aCLOCKWISE RIGHTWARDS AND LEFTWARDS OPEN CIRCLE ARROWS",
    "1F502 zLEFTWARDS OPEN CIRCLE ARROWS WITH CIRCLED ONE OVERLAYkDOWNWARDS AND UPWARDS OPEN CIRCLE ARROWS",
    "1F504 aANTICLOCKWISE DOWNWARDS AND UPWARDS OPEN CIRCLE ARROWSaLOW BRIGHTNESS SYMBOLaHIGH BRIGHTNESS SYMBOL",
    "1F507 aSPEAKER WITH CANCELLATION STROKEhh WITH ONE SOUND WAVEnTHREE SOUND WAVESaBATTERYaELECTRIC PLUG",
    "1F50D aLEFT-POINTING MAGNIFYING GLASSaRIGHT-POINTING MAGNIFYING GLASSaLOCK WITH INK PENaCLOSED LOCK WITH KEYaKEY",
    "1F512 aLOCKaOPEN LOCKaBELLe WITH CANCELLATION STROKEbOOKMARKaLINK SYMBOLaRADIO BUTTON",
    "1F519 aBACK WITH LEFTWARDS ARROW ABOVEaEND WITH LEFTWARDS ARROW ABOVE",
    "1F51B aON WITH EXCLAMATION MARK WITH LEFT RIGHT ARROW ABOVEaSOON WITH RIGHTWARDS ARROW ABOVE",
    "1F51D aTOP WITH UPWARDS ARROW ABOVEaNO ONE UNDER EIGHTEEN SYMBOLaKEYCAP TEN",
    "1F520 aINPUT SYMBOL FOR LATIN CAPITAL LETTERSxSMALL LETTERSrNUMBERSrSYMBOLSrLATIN LETTERSaFIREaELECTRIC TORCH",
    "1F527 aWRENCHaHAMMERaNUT AND BOLTaHOCHOaPISTOLaMICROSCOPEaTELESCOPEaCRYSTAL BALL",
    "1F52F aSIX POINTED STAR WITH MIDDLE DOTaJAPANESE SYMBOL FOR BEGINNERaTRIDENT EMBLEMaBLACK SQUARE BUTTON",
    "1F533 aWHITE SQUARE BUTTONaLARGE RED CIRCLEgBLUE CIRCLEgORANGE DIAMONDgBLUE DIAMONDaSMALL ORANGE DIAMOND",
    "1F539 gBLUE DIAMONDaUP-POINTING RED TRIANGLEaDOWN-POINTING RED TRIANGLEaUP-POINTING SMALL RED TRIANGLE",
    "1F53D aDOWN-POINTING SMALL RED TRIANGLEaLOWER RIGHT SHADOWED WHITE CIRCLEaUPPER RIGHT SHADOWED WHITE CIRCLE",
    "1F540 aCIRCLED CROSS POMMEEbROSS POMMEE WITH HALF-CIRCLE BELOWmaNOTCHED LEFT SEMICIRCLE WITH THREE DOTS",
    "1F544 iRIGHT SEMICIRCLE WITH THREE DOTSaSYMBOL FOR MARKS CHAPTERaWHITE LATIN CROSSaHEAVY LATIN CROSS",
    "1F548 aCELTIC CROSSaOM SYMBOLaDOVE OF PEACEaKAABAaMOSQUEaSYNAGOGUEaMENORAH WITH NINE BRANCHESaBOWL OF HYGIEIA",
    "1F550 aCLOCK FACE ONE OCLOCKlTWO OCLOCKmHREE OCLOCKlFOUR OCLOCKmIVE OCLOCKlSIX OCLOCKmEVEN OCLOCKlEIGHT OCLOCK",
    "1F558 lNINE OCLOCKlTEN OCLOCKlELEVEN OCLOCKlTWELVE OCLOCKlONE-THIRTYlTWO-THIRTYmHREE-THIRTYlFOUR-THIRTY",
    "1F560 mIVE-THIRTYlSIX-THIRTYmEVEN-THIRTYlEIGHT-THIRTYlNINE-THIRTYlTEN-THIRTYlELEVEN-THIRTYlTWELVE-THIRTY",
    "1F568 aRIGHT SPEAKERn WITH ONE SOUND WAVEtTHREE SOUND WAVESaBULLHORNi WITH SOUND WAVESaRINGING BELLaBOOKaCANDLE",
    "1F570 aMANTELPIECE CLOCKaBLACK SKULL AND CROSSBONESaNO PIRACYaHOLEaMAN IN BUSINESS SUIT LEVITATINGaSLEUTH OR SPY",
    "1F576 aDARK SUNGLASSESaSPIDERg WEBaJOYSTICKaMAN DANCINGaLEFT HAND TELEPHONE RECEIVER",
    "1F57C aTELEPHONE RECEIVER WITH PAGEaRIGHT HAND TELEPHONE RECEIVERaWHITE TOUCHTONE TELEPHONE",
    "1F57F aBLACK TOUCHTONE TELEPHONEaTELEPHONE ON TOP OF MODEMaCLAMSHELL MOBILE PHONEaBACK OF ENVELOPE",
    "1F583 aSTAMPED ENVELOPEaENVELOPE WITH LIGHTNINGaFLYING ENVELOPEaPEN OVER STAMPED ENVELOPEaLINKED PAPERCLIPS",
    "1F588 aBLACK PUSHPINaLOWER LEFT PENCILlBALLPOINT PENlFOUNTAIN PENlPAINTBRUSHlCRAYONbEFT WRITING HAND",
    "1F58F aTURNED OK HAND SIGNaRAISED HAND WITH FINGERS SPLAYEDbEVERSED RAISED HAND WITH FINGERS SPLAYED",
    "1F592 jTHUMBS UP SIGNqDOWN SIGNjVICTORY HANDjHAND WITH MIDDLE FINGER EXTENDED",
    "1F596 bAISED HAND WITH PART BETWEEN MIDDLE AND RING FINGERSaWHITE DOWN POINTING LEFT HAND INDEX",
    "1F598 aSIDEWAYS WHITE LEFT POINTING INDEXpRIGHT POINTING INDEXjBLACK LEFT POINTING INDEXpRIGHT POINTING INDEX",
    "1F59C aBLACK LEFT POINTING BACKHAND INDEXgRIGHT POINTING BACKHAND INDEXaSIDEWAYS WHITE UP POINTING INDEX",
    "1F59F pDOWN POINTING INDEXjBLACK UP POINTING INDEXpDOWN POINTING INDEXaBLACK UP POINTING BACKHAND INDEX",
    "1F5A3 gDOWN POINTING BACKHAND INDEXgHEARTaDESKTOP COMPUTERaKEYBOARD AND MOUSEaTHREE NETWORKED COMPUTERSaPRINTER",
    "1F5A9 bOCKET CALCULATORaBLACK HARD SHELL FLOPPY DISKaWHITE HARD SHELL FLOPPY DISKaSOFT SHELL FLOPPY DISK",
    "1F5AD aTAPE CARTRIDGEaWIRED KEYBOARDaONE BUTTON MOUSEaTWO BUTTON MOUSEbHREE BUTTON MOUSEbRACKBALL",
    "1F5B3 aOLD PERSONAL COMPUTERaHARD DISKaSCREENaPRINTER ICONaFAX ICONaOPTICAL DISC ICONaDOCUMENT WITH TEXT",
    "1F5BA s AND PICTUREoPICTUREaFRAME WITH PICTURElTILESlAN XaBLACK FOLDERaFOLDERaOPEN FOLDERaCARD INDEX DIVIDERS",
    "1F5C3 fFILE BOXaFILE CABINETaEMPTY NOTEk PAGEnDaNOTEe PAGEhDaEMPTY DOCUMENTgPAGEkSaDOCUMENTaPAGEeSaWASTEBASKET",
    "1F5D2 aSPIRAL NOTE PADhCALENDAR PADaDESKTOP WINDOWaMINIMIZEbAXIMIZEaOVERLAP",
    "1F5D8 aCLOCKWISE RIGHT AND LEFT SEMICIRCLE ARROWSbANCELLATION XaINCREASE FONT SIZE SYMBOL",
    "1F5DB aDECREASE FONT SIZE SYMBOLaCOMPRESSIONaOLD KEYaROLLED-UP NEWSPAPERaPAGE WITH CIRCLED TEXTaSTOCK CHART",
    "1F5E1 aDAGGER KNIFEaLIPSaSPEAKING HEAD IN SILHOUETTEaTHREE RAYS ABOVElBELOWlLEFTlRIGHTaLEFT SPEECH BUBBLE",
    "1F5E9 aRIGHT SPEECH BUBBLEaTWO SPEECH BUBBLESbHREE SPEECH BUBBLESaLEFT THOUGHT BUBBLEaRIGHT THOUGHT BUBBLE",
    "1F5EE aLEFT ANGER BUBBLEaRIGHT ANGER BUBBLEaMOOD BUBBLEaLIGHTNING MOOD BUBBLEoaBALLOT BOX WITH BALLOThSCRIPT X",
    "1F5F5 hBOX WITH SCRIPT XjLD SCRIPT XjX WITH BOLD SCRIPT XaLIGHT CHECK MARKaBALLOT BOX WITH BOLD CHECKaWORLD MAP",
    "1F5FB aMOUNT FUJIaTOKYO TOWERaSTATUE OF LIBERTYbILHOUETTE OF JAPANaMOYAIaGRINNING FACEn WITH SMILING EYES",
    "1F602 aFACE WITH TEARS OF JOYaSMILING FACE WITH OPEN MOUTHzUTH AND SMILING EYESzUTH AND COLD SWEAT",
    "1F606 zUTH AND TIGHTLY-CLOSED EYESsHALOtORNSaWINKING FACEaSMILING FACE WITH SMILING EYES",
    "1F60B aFACE SAVOURING DELICIOUS FOODaRELIEVED FACEaSMILING FACE WITH HEART-SHAPED EYESsSUNGLASSESdRKING FACE",
    "1F610 aNEUTRAL FACEaEXPRESSIONLESS FACEaUNAMUSED FACEaFACE WITH COLD SWEATaPENSIVE FACEaCONFUSED FACE",
    "1F616 eOUNDED FACEaKISSING FACEaFACE THROWING A KISSaKISSING FACE WITH SMILING EYESsCLOSED EYES",
    "1F61B aFACE WITH STUCK-OUT TONGUEzE AND WINKING EYEzE AND TIGHTLY-CLOSED EYESaDISAPPOINTED FACEaWORRIED FACE",
    "1F620 aANGRY FACEaPOUTING FACEaCRYING FACEaPERSEVERING FACEaFACE WITH LOOK OF TRIUMPH",
    "1F625 aDISAPPOINTED BUT RELIEVED FACEaFROWNING FACE WITH OPEN MOUTHaANGUISHED FACEaFEARFUL FACEaWEARY FACE",
    "1F62A aSLEEPY FACEaTIRED FACEaGRIMACING FACEaLOUDLY CRYING FACEaFACE WITH OPEN MOUTHaHUSHED FACE",
    "1F630 aFACE WITH OPEN MOUTH AND COLD SWEATfSCREAMING IN FEARaASTONISHED FACEaFLUSHED FACEaSLEEPING FACE",
    "1F635 aDIZZY FACEaFACE WITHOUT MOUTHj MEDICAL MASKaGRINNING CAT FACE WITH SMILING EYES",
    "1F639 aCAT FACE WITH TEARS OF JOYaSMILING CAT FACE WITH OPEN MOUTHwHEART-SHAPED EYESaCAT FACE WITH WRY SMILE",
    "1F63D aKISSING CAT FACE WITH CLOSED EYESaPOUTING CAT FACEaCRYING CAT FACEaWEARY CAT FACEaSLIGHTLY FROWNING FACE",
    "1F642 jSMILING FACEaUPSIDE-DOWN FACEaFACE WITH ROLLING EYESkNO GOOD GESTUREkOK GESTUREaPERSON BOWING DEEPLY",
    "1F648 aSEE-NO-EVIL MONKEYaHEAR-NO-EVIL MONKEYaSPEAK-NO-EVIL MONKEYaHAPPY PERSON RAISING ONE HAND",
    "1F64C aPERSON RAISING BOTH HANDS IN CELEBRATIONhFROWNINGhWITH POUTING FACEmFOLDED HANDSaNORTH WEST POINTING LEAF",
    "1F651 aSOUTH WEST POINTING LEAFaNORTH EAST POINTING LEAFaSOUTH EAST POINTING LEAF",
    "1F654 aTURNED NORTH WEST POINTING LEAFhSOUTH WEST POINTING LEAFhNORTH EAST POINTING LEAF",
    "1F657 hSOUTH EAST POINTING LEAFaNORTH WEST POINTING VINE LEAFaSOUTH WEST POINTING VINE LEAF",
    "1F65A aNORTH EAST POINTING VINE LEAFaSOUTH EAST POINTING VINE LEAFaHEAVY NORTH WEST POINTING VINE LEAF",
    "1F65D gSOUTH WEST POINTING VINE LEAFgNORTH EAST POINTING VINE LEAFgSOUTH EAST POINTING VINE LEAF",
    "1F660 aNORTH WEST POINTING BUDaSOUTH WEST POINTING BUDaNORTH EAST POINTING BUDaSOUTH EAST POINTING BUD",
    "1F664 aHEAVY NORTH WEST POINTING BUDgSOUTH WEST POINTING BUDgNORTH EAST POINTING BUDgSOUTH EAST POINTING BUD",
    "1F668 bOLLOW QUILT SQUARE ORNAMENTzENT IN BLACK SQUAREaSOLID QUILT SQUARE ORNAMENTzNT IN BLACK SQUARE",
    "1F66C aLEFTWARDS ROCKETaUPWARDS ROCKETaRIGHTWARDS ROCKETaDOWNWARDS ROCKETaSCRIPT LIGATURE ET ORNAMENT",
    "1F671 aHEAVY SCRIPT LIGATURE ET ORNAMENTaLIGATURE OPEN ET ORNAMENTaHEAVY LIGATURE OPEN ET ORNAMENT",
    "1F674 gAMPERSAND ORNAMENTaSWASH AMPERSAND ORNAMENTbANS-SERIF HEAVY DOUBLE TURNED COMMA QUOTATION MARK ORNAMENT",
    "1F677 yCOMMA QUOTATION MARK ORNAMENTrLOW DOUBLE COMMA QUOTATION MARK ORNAMENTaHEAVY INTERROBANG ORNAMENT",
    "1F67A aSANS-SERIF INTERROBANG ORNAMENTaHEAVY SANS-SERIF INTERROBANG ORNAMENTaVERY HEAVY SOLIDUSlREVERSE SOLIDUS",
    "1F67E aCHECKER BOARDaREVERSE CHECKER BOARDbOCKETaHELICOPTERaSTEAM LOCOMOTIVEaRAILWAY CARaHIGH-SPEED TRAIN",
    "1F685 q WITH BULLET NOSEaTRAINaMETROaLIGHT RAILaSTATIONaTRAMe CARaBUSaONCOMING BUSaTROLLEYBUSaBUS STOPaMINIBUS",
    "1F691 aAMBULANCEaFIRE ENGINEaPOLICE CARaONCOMING POLICE CARaTAXIaONCOMING TAXIaAUTOMOBILEaONCOMING AUTOMOBILE",
    "1F699 aRECREATIONAL VEHICLEaDELIVERY TRUCKaARTICULATED LORRYaTRACTORaMONORAILcUNTAIN RAILWAYaSUSPENSION RAILWAY",
    "1F6A0 aMOUNTAIN CABLEWAYaAERIAL TRAMWAYaSHIPaROWBOATaSPEEDBOATaHORIZONTAL TRAFFIC LIGHTaVERTICAL TRAFFIC LIGHT",
    "1F6A7 aCONSTRUCTION SIGNaPOLICE CARS REVOLVING LIGHTaTRIANGULAR FLAG ON POSTaDOORaNO ENTRY SIGNaSMOKING SYMBOL",
    "1F6AD aNO SMOKING SYMBOLaPUT LITTER IN ITS PLACE SYMBOLaDO NOT LITTER SYMBOLaPOTABLE WATER SYMBOL",
    "1F6B1 aNON-POTABLE WATER SYMBOLaBICYCLEaNO BICYCLESaBICYCLISTaMOUNTAIN BICYCLISTaPEDESTRIANaNO PEDESTRIANS",
    "1F6B8 aCHILDREN CROSSINGaMENS SYMBOLaWOMENS SYMBOLaRESTROOMaBABY SYMBOLaTOILETaWATER CLOSETaSHOWERaBATHeTUB",
    "1F6C2 aPASSPORT CONTROLaCUSTOMSaBAGGAGE CLAIMaLEFT LUGGAGEaTRIANGLE WITH ROUNDED CORNERSaPROHIBITED SIGN",
    "1F6C8 aCIRCLED INFORMATION SOURCEaBOYS SYMBOLaGIRLS SYMBOLaCOUCH AND LAMPaSLEEPING ACCOMMODATIONbHOPPING BAGS",
    "1F6CE aBELLHOP BELLcDaPLACE OF WORSHIPaOCTAGONAL SIGNaSHOPPING TROLLEYbTUPAaPAGODAaHINDU TEMPLEbUTaELEVATOR",
    "1F6DD aPLAYGROUND SLIDEaWHEELaRING BUOYaHAMMER AND WRENCHaSHIELDaOIL DRUMaMOTORWAYaRAILWAY TRACKaMOTOR BOAT",
    "1F6E6 aUP-POINTING MILITARY AIRPLANEmAIRPLANEmSMALL AIRPLANEaSMALL AIRPLANEaNORTHEAST-POINTING AIRPLANE",
    "1F6EB aAIRPLANE DEPARTUREjARRIVING",
    "1F6F0 aSATELLITEaONCOMING FIRE ENGINEaDIESEL LOCOMOTIVEaPASSENGER SHIPaSCOOTERaMOTOR SCOOTERaCANOEaSLED",
    "1F6F8 aFLYING SAUCERaSKATEBOARDaAUTO RICKSHAWaPICKUP TRUCKaROLLER SKATE",
    "1F700 aALCHEMICAL SYMBOL FOR QUINTESSENCEwAIRwFIREwEARTHwWATERwAQUAFORTISzA REGIAzA REGIA-2zA VITAEzA VITAE-2",
    "1F70A wVINEGARzEGAR-2zEGAR-3wSULFURwPHILOSOPHERS SULFURwBLACK SULFURwMERCURY SUBLIMATEzCURY SUBLIMATE-2",
    "1F712 zCURY SUBLIMATE-3wCINNABARwSALTwNITREwVITRIOLzRIOL-2wROCK SALTzK SALT-2wGOLDwSILVERwIRON OREzN ORE-2",
    "1F71E wCROCUS OF IRONwREGULUS OF IRONwCOPPER OREwIRON-COPPER OREwSUBLIMATE OF COPPERwCROCUS OF COPPER",
    "1F724 zCUS OF COPPER-2xOPPER ANTIMONIATEwSALT OF COPPER ANTIMONIATExUBLIMATE OF SALT OF COPPERwVERDIGRISwTIN ORE",
    "1F72A wLEAD OREwANTIMONY OREwSUBLIMATE OF ANTIMONYxALT OF ANTIMONYxUBLIMATE OF SALT OF ANTIMONY",
    "1F72F wVINEGAR OF ANTIMONYwREGULUS OF ANTIMONYzULUS OF ANTIMONY-2zULUSzULUS-2zULUS-3zULUS-4wALKALIzALI-2",
    "1F738 wMARCASITEwSAL-AMMONIACwARSENICwREALGARzLGAR-2wAURIPIGMENTwBISMUTH OREwTARTARzTAR-2wQUICK LIMEwBORAXzAX-2",
    "1F744 zAX-3wALUMwOILwSPIRITwTINCTUREwGUMwWAXwPOWDERwCALXwTUTTYwCAPUT MORTUUMwSCEPTER OF JOVEwCADUCEUSwTRIDENT",
    "1F752 wSTARRED TRIDENTwLODESTONEwSOAPwURINEwHORSE DUNGwASHESwPOT ASHESwBRICKwPOWDERED BRICKwAMALGAM",
    "1F75C wSTRATUM SUPER STRATUMzATUM SUPER STRATUM-2xUBLIMATIONwPRECIPITATEwDISTILLzSOLVEzSOLVE-2wPURIFYyTREFACTION",
    "1F765 wCRUCIBLEzCIBLE-2zCIBLE-3zCIBLE-4zCIBLE-5wALEMBICwBATH OF MARYzH OF VAPOURSwRETORTwHOURwNIGHTwDAY-NIGHT",
    "1F771 wMONTHwHALF DRAMzF OUNCE",
    "1F780 aBLACK LEFT-POINTING ISOSCELES RIGHT TRIANGLEgUP-POINTING ISOSCELES RIGHT TRIANGLE",
    "1F782 gRIGHT-POINTING ISOSCELES RIGHT TRIANGLEgDOWN-POINTING ISOSCELES RIGHT TRIANGLEgSLIGHTLY SMALL CIRCLE",
    "1F785 aMEDIUM BOLD WHITE CIRCLEaBOLD WHITE CIRCLEaHEAVY WHITE CIRCLEaVERY HEAVY WHITE CIRCLE",
    "1F789 aEXTREMELY HEAVY WHITE CIRCLEaWHITE CIRCLE CONTAINING BLACK SMALL CIRCLEaROUND TARGETaBLACK TINY SQUARE",
    "1F78D gSLIGHTLY SMALL SQUAREaLIGHT WHITE SQUAREaMEDIUM WHITE SQUAREaBOLD WHITE SQUAREaHEAVY WHITE SQUARE",
    "1F792 aVERY HEAVY WHITE SQUAREaEXTREMELY HEAVY WHITE SQUAREaWHITE SQUARE CONTAINING BLACK VERY SMALL SQUARE",
    "1F795 zLACK MEDIUM SQUAREaSQUARE TARGETaBLACK TINY DIAMONDgVERY SMALL DIAMONDgMEDIUM SMALL DIAMOND",
    "1F79A aWHITE DIAMOND CONTAINING BLACK VERY SMALL DIAMONDzBLACK MEDIUM DIAMONDaDIAMOND TARGETaBLACK TINY LOZENGE",
    "1F79E gVERY SMALL LOZENGEgMEDIUM SMALL LOZENGEaWHITE LOZENGE CONTAINING BLACK SMALL LOZENGEaTHIN GREEK CROSS",
    "1F7A2 aLIGHT GREEK CROSSaMEDIUM GREEK CROSSaBOLD GREEK CROSSaVERY BOLD GREEK CROSSfHEAVY GREEK CROSS",
    "1F7A7 aEXTREMELY HEAVY GREEK CROSSaTHIN SALTIREaLIGHT SALTIREaMEDIUM SALTIREaBOLD SALTIREaHEAVY SALTIRE",
    "1F7AD aVERY HEAVY SALTIREaEXTREMELY HEAVY SALTIREaLIGHT FIVE SPOKED ASTERISKaMEDIUM FIVE SPOKED ASTERISK",
    "1F7B1 aBOLD FIVE SPOKED ASTERISKaHEAVY FIVE SPOKED ASTERISKaVERY HEAVY FIVE SPOKED ASTERISK",
    "1F7B4 aEXTREMELY HEAVY FIVE SPOKED ASTERISKaLIGHT SIX SPOKED ASTERISKaMEDIUM SIX SPOKED ASTERISK",
    "1F7B7 aBOLD SIX SPOKED ASTERISKaHEAVY SIX SPOKED ASTERISKaVERY HEAVY SIX SPOKED ASTERISK",
    "1F7BA aEXTREMELY HEAVY SIX SPOKED ASTERISKaLIGHT EIGHT SPOKED ASTERISKaMEDIUM EIGHT SPOKED ASTERISK",
    "1F7BD aBOLD EIGHT SPOKED ASTERISKaHEAVY EIGHT SPOKED ASTERISKaVERY HEAVY EIGHT SPOKED ASTERISK",
    "1F7C0 aLIGHT THREE POINTED BLACK STARaMEDIUM THREE POINTED BLACK STARaTHREE POINTED BLACK STAR",
    "1F7C3 aMEDIUM THREE POINTED PINWHEEL STARaLIGHT FOUR POINTED BLACK STARaMEDIUM FOUR POINTED BLACK STAR",
    "1F7C6 aFOUR POINTED BLACK STARaMEDIUM FOUR POINTED PINWHEEL STARaREVERSE LIGHT FOUR POINTED PINWHEEL STAR",
    "1F7C9 aLIGHT FIVE POINTED BLACK STARaHEAVY FIVE POINTED BLACK STARaMEDIUM SIX POINTED BLACK STAR",
    "1F7CC aHEAVY SIX POINTED BLACK STARaSIX POINTED PINWHEEL STARaMEDIUM EIGHT POINTED BLACK STAR",
    "1F7CF aHEAVY EIGHT POINTED BLACK STARaVERY HEAVY EIGHT POINTED BLACK STARaHEAVY EIGHT POINTED PINWHEEL STAR",
    "1F7D2 aLIGHT TWELVE POINTED BLACK STARaHEAVY TWELVE POINTED BLACK STARvPINWHEEL STARaCIRCLED TRIANGLE",
    "1F7D6 aNEGATIVE CIRCLED TRIANGLEaCIRCLED SQUAREaNEGATIVE CIRCLED SQUARE",
    "1F7E0 aLARGE ORANGE CIRCLEgYELLOW CIRCLEgGREEN CIRCLEgPURPLE CIRCLEgBROWN CIRCLEgRED SQUAREgBLUE SQUARE",
    "1F7E7 gORANGE SQUAREgYELLOW SQUAREgGREEN SQUAREgPURPLE SQUAREgBROWN SQUARE",
    "1F7F0 aHEAVY EQUALS SIGN",
    "1F800 aLEFTWARDS ARROW WITH SMALL TRIANGLE ARROWHEADaUPWARDS ARROW WITH SMALL TRIANGLE ARROWHEAD",
    "1F802 aRIGHTWARDS ARROW WITH SMALL TRIANGLE ARROWHEADaDOWNWARDS ARROW WITH SMALL TRIANGLE ARROWHEAD",
    "1F804 aLEFTWARDS ARROW WITH MEDIUM TRIANGLE ARROWHEADaUPWARDS ARROW WITH MEDIUM TRIANGLE ARROWHEAD",
    "1F806 aRIGHTWARDS ARROW WITH MEDIUM TRIANGLE ARROWHEADaDOWNWARDS ARROW WITH MEDIUM TRIANGLE ARROWHEAD",
    "1F808 aLEFTWARDS ARROW WITH LARGE TRIANGLE ARROWHEADaUPWARDS ARROW WITH LARGE TRIANGLE ARROWHEAD",
    "1F80A aRIGHTWARDS ARROW WITH LARGE TRIANGLE ARROWHEADaDOWNWARDS ARROW WITH LARGE TRIANGLE ARROWHEAD",
    "1F810 aLEFTWARDS ARROW WITH SMALL EQUILATERAL ARROWHEADaUPWARDS ARROW WITH SMALL EQUILATERAL ARROWHEAD",
    "1F812 aRIGHTWARDS ARROW WITH SMALL EQUILATERAL ARROWHEADaDOWNWARDS ARROW WITH SMALL EQUILATERAL ARROWHEAD",
    "1F814 aLEFTWARDS ARROW WITH EQUILATERAL ARROWHEADaUPWARDS ARROW WITH EQUILATERAL ARROWHEAD",
    "1F816 aRIGHTWARDS ARROW WITH EQUILATERAL ARROWHEADaDOWNWARDS ARROW WITH EQUILATERAL ARROWHEAD",
    "1F818 aHEAVY LEFTWARDS ARROW WITH EQUILATERAL ARROWHEADgUPWARDS ARROW WITH EQUILATERAL ARROWHEAD",
    "1F81A gRIGHTWARDS ARROW WITH EQUILATERAL ARROWHEADgDOWNWARDS ARROW WITH EQUILATERAL ARROWHEAD",
    "1F81C gLEFTWARDS ARROW WITH LARGE EQUILATERAL ARROWHEADgUPWARDS ARROW WITH LARGE EQUILATERAL ARROWHEAD",
    "1F81E gRIGHTWARDS ARROW WITH LARGE EQUILATERAL ARROWHEADgDOWNWARDS ARROW WITH LARGE EQUILATERAL ARROWHEAD",
    "1F820 aLEFTWARDS TRIANGLE-HEADED ARROW WITH NARROW SHAFTaUPWARDS TRIANGLE-HEADED ARROW WITH NARROW SHAFT",
    "1F822 aRIGHTWARDS TRIANGLE-HEADED ARROW WITH NARROW SHAFTaDOWNWARDS TRIANGLE-HEADED ARROW WITH NARROW SHAFT",
    "1F824 aLEFTWARDS TRIANGLE-HEADED ARROW WITH MEDIUM SHAFTaUPWARDS TRIANGLE-HEADED ARROW WITH MEDIUM SHAFT",
    "1F826 aRIGHTWARDS TRIANGLE-HEADED ARROW WITH MEDIUM SHAFTaDOWNWARDS TRIANGLE-HEADED ARROW WITH MEDIUM SHAFT",
    "1F828 aLEFTWARDS TRIANGLE-HEADED ARROW WITH BOLD SHAFTaUPWARDS TRIANGLE-HEADED ARROW WITH BOLD SHAFT",
    "1F82A aRIGHTWARDS TRIANGLE-HEADED ARROW WITH BOLD SHAFTaDOWNWARDS TRIANGLE-HEADED ARROW WITH BOLD SHAFT",
    "1F82C aLEFTWARDS TRIANGLE-HEADED ARROW WITH HEAVY SHAFTaUPWARDS TRIANGLE-HEADED ARROW WITH HEAVY SHAFT",
    "1F82E aRIGHTWARDS TRIANGLE-HEADED ARROW WITH HEAVY SHAFTaDOWNWARDS TRIANGLE-HEADED ARROW WITH HEAVY SHAFT",
    "1F830 aLEFTWARDS TRIANGLE-HEADED ARROW WITH VERY HEAVY SHAFTaUPWARDS TRIANGLE-HEADED ARROW WITH VERY HEAVY SHAFT",
    "1F832 aRIGHTWARDS TRIANGLE-HEADED ARROW WITH VERY HEAVY SHAFT",
    "1F833 aDOWNWARDS TRIANGLE-HEADED ARROW WITH VERY HEAVY SHAFTaLEFTWARDS FINGER-POST ARROW",
    "1F835 aUPWARDS FINGER-POST ARROWaRIGHTWARDS FINGER-POST ARROWaDOWNWARDS FINGER-POST ARROW",
    "1F838 aLEFTWARDS SQUARED ARROWaUPWARDS SQUARED ARROWaRIGHTWARDS SQUARED ARROWaDOWNWARDS SQUARED ARROW",
    "1F83C aLEFTWARDS COMPRESSED ARROWaUPWARDS COMPRESSED ARROWaRIGHTWARDS COMPRESSED ARROW",
    "1F83F aDOWNWARDS COMPRESSED ARROWaLEFTWARDS HEAVY COMPRESSED ARROWaUPWARDS HEAVY COMPRESSED ARROW",
    "1F842 aRIGHTWARDS HEAVY COMPRESSED ARROWaDOWNWARDS HEAVY COMPRESSED ARROWaLEFTWARDS HEAVY ARROW",
    "1F845 aUPWARDS HEAVY ARROWaRIGHTWARDS HEAVY ARROWaDOWNWARDS HEAVY ARROW",
    "1F850 aLEFTWARDS SANS-SERIF ARROWaUPWARDS SANS-SERIF ARROWaRIGHTWARDS SANS-SERIF ARROW",
    "1F853 aDOWNWARDS SANS-SERIF ARROWaNORTH WEST SANS-SERIF ARROWgEAST SANS-SERIF ARROWaSOUTH EAST SANS-SERIF ARROW",
    "1F857 gWEST SANS-SERIF ARROWaLEFT RIGHT SANS-SERIF ARROWaUP DOWN SANS-SERIF ARROW",
    "1F860 aWIDE-HEADED LEFTWARDS LIGHT BARB ARROWmUPWARDS LIGHT BARB ARROWmRIGHTWARDS LIGHT BARB ARROW",
    "1F863 mDOWNWARDS LIGHT BARB ARROWmNORTH WEST LIGHT BARB ARROWsEAST LIGHT BARB ARROWmSOUTH EAST LIGHT BARB ARROW",
    "1F867 sWEST LIGHT BARB ARROWmLEFTWARDS BARB ARROWmUPWARDS BARB ARROWmRIGHTWARDS BARB ARROWmDOWNWARDS BARB ARROW",
    "1F86C mNORTH WEST BARB ARROWsEAST BARB ARROWmSOUTH EAST BARB ARROWsWEST BARB ARROWmLEFTWARDS MEDIUM BARB ARROW",
    "1F871 mUPWARDS MEDIUM BARB ARROWmRIGHTWARDS MEDIUM BARB ARROWmDOWNWARDS MEDIUM BARB ARROW",
    "1F874 mNORTH WEST MEDIUM BARB ARROWsEAST MEDIUM BARB ARROWmSOUTH EAST MEDIUM BARB ARROWsWEST MEDIUM BARB ARROW",
    "1F878 mLEFTWARDS HEAVY BARB ARROWmUPWARDS HEAVY BARB ARROWmRIGHTWARDS HEAVY BARB ARROW",
    "1F87B mDOWNWARDS HEAVY BARB ARROWmNORTH WEST HEAVY BARB ARROWsEAST HEAVY BARB ARROWmSOUTH EAST HEAVY BARB ARROW",
    "1F87F sWEST HEAVY BARB ARROWmLEFTWARDS VERY HEAVY BARB ARROWmUPWARDS VERY HEAVY BARB ARROW",
    "1F882 mRIGHTWARDS VERY HEAVY BARB ARROWmDOWNWARDS VERY HEAVY BARB ARROWmNORTH WEST VERY HEAVY BARB ARROW",
    "1F885 sEAST VERY HEAVY BARB ARROWmSOUTH EAST VERY HEAVY BARB ARROWsWEST VERY HEAVY BARB ARROW",
    "1F890 aLEFTWARDS TRIANGLE ARROWHEADaUPWARDS TRIANGLE ARROWHEADaRIGHTWARDS TRIANGLE ARROWHEAD",
    "1F893 aDOWNWARDS TRIANGLE ARROWHEADaLEFTWARDS WHITE ARROW WITHIN TRIANGLE ARROWHEAD",
    "1F895 aUPWARDS WHITE ARROW WITHIN TRIANGLE ARROWHEADaRIGHTWARDS WHITE ARROW WITHIN TRIANGLE ARROWHEAD",
    "1F897 aDOWNWARDS WHITE ARROW WITHIN TRIANGLE ARROWHEADaLEFTWARDS ARROW WITH NOTCHED TAIL",
    "1F899 aUPWARDS ARROW WITH NOTCHED TAILaRIGHTWARDS ARROW WITH NOTCHED TAILaDOWNWARDS ARROW WITH NOTCHED TAIL",
    "1F89C aHEAVY ARROW SHAFT WIDTH ONEyTWO THIRDSyONE HALFzNE THIRDaLEFTWARDS BOTTOM-SHADED WHITE ARROW",
    "1F8A1 aRIGHTWARDS BOTTOM SHADED WHITE ARROWaLEFTWARDS TOP SHADED WHITE ARROWaRIGHTWARDS TOP SHADED WHITE ARROW",
    "1F8A4 aLEFTWARDS LEFT-SHADED WHITE ARROWaRIGHTWARDS RIGHT-SHADED WHITE ARROWaLEFTWARDS RIGHT-SHADED WHITE ARROW",
    "1F8A7 aRIGHTWARDS LEFT-SHADED WHITE ARROWaLEFTWARDS BACK-TILTED SHADOWED WHITE ARROW",
    "1F8A9 aRIGHTWARDS BACK-TILTED SHADOWED WHITE ARROWaLEFTWARDS FRONT-TILTED SHADOWED WHITE ARROW",
    "1F8AB aRIGHTWARDS FRONT-TILTED SHADOWED WHITE ARROWaWHITE ARROW SHAFT WIDTH ONEyTWO THIRDS",
    "1F8B0 aARROW POINTING UPWARDS THEN NORTH WESTpRIGHTWARDS THEN CURVING SOUTH WEST",
    "1F900 aCIRCLED CROSS FORMEE WITH FOUR DOTSz TWO DOTSuaLEFT HALF CIRCLE WITH FOUR DOTSwTHREE DOTSxWO DOTSwDOTq",
    "1F908 aDOWNWARD FACING HOOKqNOTCHED HOOKqHOOK WITH DOTqNOTCHED HOOK WITH DOTaPINCHED FINGERSaWHITE HEART",
    "1F90E aBROWN HEARTaPINCHING HANDaZIPPER-MOUTH FACEaMONEY-MOUTH FACEaFACE WITH THERMOMETERaNERD FACE",
    "1F914 aTHINKING FACEaFACE WITH HEAD-BANDAGEaROBOT FACEaHUGGING FACEaSIGN OF THE HORNSaCALL ME HAND",
    "1F91A aRAISED BACK OF HANDaLEFT-FACING FISTaRIGHT-FACING FISTaHANDSHAKEe WITH INDEX AND MIDDLE FINGERS CROSSED",
    "1F91F aI LOVE YOU HAND SIGNaFACE WITH COWBOY HATaCLOWN FACEaNAUSEATED FACEaROLLING ON THE FLOOR LAUGHING",
    "1F924 aDROOLING FACEaLYING FACEaFACE PALMaSNEEZING FACEaFACE WITH ONE EYEBROW RAISED",
    "1F929 aGRINNING FACE WITH STAR EYEStONE LARGE AND ONE SMALL EYEaFACE WITH FINGER COVERING CLOSED LIPS",
    "1F92C aSERIOUS FACE WITH SYMBOLS COVERING MOUTHbMILING FACE WITH SMILING EYES AND HAND COVERING MOUTH",
    "1F92E aFACE WITH OPEN MOUTH VOMITINGaSHOCKED FACE WITH EXPLODING HEADaPREGNANT WOMANaBREAST-FEEDING",
    "1F932 aPALMS UP TOGETHERaSELFIEaPRINCEaMAN IN TUXEDObOTHER CHRISTMASaSHRUGaPERSON DOING CARTWHEELaJUGGLING",
    "1F93A aFENCERaMODERN PENTATHLONaWRESTLERSbATER POLOaHANDBALLaDIVING MASKaWILTED FLOWERaDRUM WITH DRUMSTICKS",
    "1F942 aCLINKING GLASSESaTUMBLER GLASSaSPOONaGOAL NETaRIFLEaFIRST PLACE MEDALaSECOND PLACE MEDAL",
    "1F949 aTHIRD PLACE MEDALaBOXING GLOVEaMARTIAL ARTS UNIFORMaCURLING STONEaLACROSSE STICK AND BALLaSOFTBALL",
    "1F94F aFLYING DISCaCROISSANTaAVOCADOaCUCUMBERaBACONaPOTATOaCARROTaBAGUETTE BREADaGREEN SALADaSHALLOW PAN OF FOOD",
    "1F959 bTUFFED FLATBREADaEGGaGLASS OF MILKaPEANUTSaKIWIFRUITaPANCAKESaDUMPLINGaFORTUNE COOKIEaTAKEOUT BOX",
    "1F962 aCHOPSTICKSaBOWL WITH SPOONaCUP WITH STRAWbOCONUTaBROCCOLIaPIEbRETZELaCUT OF MEATaSANDWICHaCANNED FOOD",
    "1F96C aLEAFY GREENaMANGObOON CAKEaBAGELaSMILING FACE WITH SMILING EYES AND THREE HEARTSaYAWNING FACE",
    "1F972 aSMILING FACE WITH TEARaFACE WITH PARTY HORN AND PARTY HATkUNEVEN EYES AND WAVY MOUTHaOVERHEATED FACE",
    "1F976 aFREEZING FACEaNINJAaDISGUISED FACEaFACE HOLDING BACK TEARSfWITH PLEADING EYESaSARIaLAB COATaGOGGLES",
    "1F97E aHIKING BOOTaFLAT SHOEaCRABaLION FACEaSCORPIONaTURKEYaUNICORN FACEaEAGLEaDUCKaBATaSHARKaOWLaFOX FACE",
    "1F98B aBUTTERFLYaDEERaGORILLAaLIZARDaRHINOCEROSaSHRIMPbQUIDaGIRAFFE FACEaZEBRA FACEaHEDGEHOGaSAUROPODaT-REX",
    "1F997 aCRICKETaKANGAROOaLLAMAaPEACOCKaHIPPOPOTAMUSaPARROTaRACCOONaLOBSTERaMOSQUITObICROBEaBADGERaSWANaMAMMOTH",
    "1F9A4 aDODOaSLOTHaOTTERbRANGUTANaSKUNKaFLAMINGOaOYSTERaBEAVERbISONaSEALaGUIDE DOGaPROBING CANE",
    "1F9B0 aEMOJI COMPONENT RED HAIRqCURLY HAIRqBALDqWHITE HAIRaBONEaLEGaFOOTaTOOTHaSUPERHEROfVILLAINbAFETY VEST",
    "1F9BB aEAR WITH HEARING AIDaMOTORIZED WHEELCHAIRbANUAL WHEELCHAIRbECHANICAL ARMlLEGaCHEESE WEDGEbUPCAKE",
    "1F9C2 aSALT SHAKERaBEVERAGE BOXaGARLICaONIONaFALAFELaWAFFLEaBUTTERaMATE DRINKaICE CUBEaBUBBLE TEAaTROLL",
    "1F9CD aSTANDING PERSONaKNEELING PERSONaDEAF PERSONaFACE WITH MONOCLEaADULTaCHILDaOLDER ADULTaBEARDED PERSON",
    "1F9D5 aPERSON WITH HEADSCARFhIN STEAMY ROOMhCLIMBINGhIN LOTUS POSITIONaMAGEaFAIRYaVAMPIREaMERPERSONaELFaGENIE",
    "1F9DF aZOMBIEaBRAINaORANGE HEARTaBILLED CAPaSCARFaGLOVESaCOATaSOCKSaRED GIFT ENVELOPEaFIRECRACKER",
    "1F9E9 aJIGSAW PUZZLE PIECEaTEST TUBEaPETRI DISHaDNA DOUBLE HELIXaCOMPASSaABACUSaFIRE EXTINGUISHERaTOOLBOXaBRICK",
    "1F9F2 aMAGNETaLUGGAGEbOTION BOTTLEaSPOOL OF THREADaBALL OF YARNaSAFETY PINaTEDDY BEARaBROOMbASKETaROLL OF PAPER",
    "1F9FC aBAR OF SOAPaSPONGEaRECEIPTaNAZAR AMULETbEUTRAL CHESS KINGoQUEENoROOKoBISHOPoKNIGHToPAWN",
    "1FA06 aWHITE CHESS KNIGHT ROTATED FORTY-FIVE DEGREESaBLACK CHESS KNIGHT ROTATED FORTY-FIVE DEGREES",
    "1FA08 aNEUTRAL CHESS KNIGHT ROTATED FORTY-FIVE DEGREESaWHITE CHESS KING ROTATED NINETY DEGREES",
    "1FA0A mQUEEN ROTATED NINETY DEGREESmROOK ROTATED NINETY DEGREESmBISHOP ROTATED NINETY DEGREES",
    "1FA0D mKNIGHT ROTATED NINETY DEGREESmPAWN ROTATED NINETY DEGREESaBLACK CHESS KING ROTATED NINETY DEGREES",
    "1FA10 mQUEEN ROTATED NINETY DEGREESmROOK ROTATED NINETY DEGREESmBISHOP ROTATED NINETY DEGREES",
    "1FA13 mKNIGHT ROTATED NINETY DEGREESmPAWN ROTATED NINETY DEGREESaNEUTRAL CHESS KING ROTATED NINETY DEGREES",
    "1FA16 oQUEEN ROTATED NINETY DEGREESoROOK ROTATED NINETY DEGREESoBISHOP ROTATED NINETY DEGREES",
    "1FA19 oKNIGHT ROTATED NINETY DEGREESoPAWN ROTATED NINETY DEGREES",
    "1FA1B aWHITE CHESS KNIGHT ROTATED ONE HUNDRED THIRTY-FIVE DEGREES",
    "1FA1C aBLACK CHESS KNIGHT ROTATED ONE HUNDRED THIRTY-FIVE DEGREES",
    "1FA1D aNEUTRAL CHESS KNIGHT ROTATED ONE HUNDRED THIRTY-FIVE DEGREESaWHITE CHESS TURNED KINGtQUEENtROOKtBISHOP",
    "1FA22 tKNIGHTtPAWNaBLACK CHESS TURNED KINGtQUEENtROOKtBISHOPtKNIGHTtPAWNaNEUTRAL CHESS TURNED KINGvQUEENvROOK",
    "1FA2D vBISHOPvKNIGHTvPAWNaWHITE CHESS KNIGHT ROTATED TWO HUNDRED TWENTY-FIVE DEGREES",
    "1FA31 aBLACK CHESS KNIGHT ROTATED TWO HUNDRED TWENTY-FIVE DEGREES",
    "1FA32 aNEUTRAL CHESS KNIGHT ROTATED TWO HUNDRED TWENTY-FIVE DEGREES",
    "1FA33 aWHITE CHESS KING ROTATED TWO HUNDRED SEVENTY DEGREESmQUEEN ROTATED TWO HUNDRED SEVENTY DEGREES",
    "1FA35 mROOK ROTATED TWO HUNDRED SEVENTY DEGREESmBISHOP ROTATED TWO HUNDRED SEVENTY DEGREES",
    "1FA37 mKNIGHT ROTATED TWO HUNDRED SEVENTY DEGREESmPAWN ROTATED TWO HUNDRED SEVENTY DEGREES",
    "1FA39 aBLACK CHESS KING ROTATED TWO HUNDRED SEVENTY DEGREESmQUEEN ROTATED TWO HUNDRED SEVENTY DEGREES",
    "1FA3B mROOK ROTATED TWO HUNDRED SEVENTY DEGREESmBISHOP ROTATED TWO HUNDRED SEVENTY DEGREES",
    "1FA3D mKNIGHT ROTATED TWO HUNDRED SEVENTY DEGREESmPAWN ROTATED TWO HUNDRED SEVENTY DEGREES",
    "1FA3F aNEUTRAL CHESS KING ROTATED TWO HUNDRED SEVENTY DEGREESoQUEEN ROTATED TWO HUNDRED SEVENTY DEGREES",
    "1FA41 oROOK ROTATED TWO HUNDRED SEVENTY DEGREESoBISHOP ROTATED TWO HUNDRED SEVENTY DEGREES",
    "1FA43 oKNIGHT ROTATED TWO HUNDRED SEVENTY DEGREESoPAWN ROTATED TWO HUNDRED SEVENTY DEGREES",
    "1FA45 aWHITE CHESS KNIGHT ROTATED THREE HUNDRED FIFTEEN DEGREES",
    "1FA46 aBLACK CHESS KNIGHT ROTATED THREE HUNDRED FIFTEEN DEGREES",
    "1FA47 aNEUTRAL CHESS KNIGHT ROTATED THREE HUNDRED FIFTEEN DEGREESaWHITE CHESS EQUIHOPPERaBLACK CHESS EQUIHOPPER",
    "1FA4A aNEUTRAL CHESS EQUIHOPPERaWHITE CHESS EQUIHOPPER ROTATED NINETY DEGREES",
    "1FA4C aBLACK CHESS EQUIHOPPER ROTATED NINETY DEGREESaNEUTRAL CHESS EQUIHOPPER ROTATED NINETY DEGREES",
    "1FA4E aWHITE CHESS KNIGHT-QUEENtROOKtBISHOPaBLACK CHESS KNIGHT-QUEENtROOKtBISHOP",
    "1FA60 aXIANGQI RED GENERALmMANDARINmELEPHANTmHORSEmCHARIOTnANNONmSOLDIERiBLACK GENERALoMANDARINoELEPHANToHORSE",
    "1FA6B oCHARIOTpANNONoSOLDIER",
    "1FA70 aBALLET SHOESaONE-PIECE SWIMSUITaBRIEFSaSHORTSaTHONG SANDAL",
    "1FA78 aDROP OF BLOODaADHESIVE BANDAGEaSTETHOSCOPEaX-RAYaCRUTCH",
    "1FA80 aYO-YOaKITEaPARACHUTEaBOOMERANGaMAGIC WANDaPINATAaNESTING DOLLS",
    "1FA90 aRINGED PLANETaCHAIRaRAZORaAXEaDIYA LAMPaBANJOaMILITARY HELMETaACCORDIONaLONG DRUMaCOINbARPENTRY SAW",
    "1FA9B aSCREWDRIVERaLADDERaHOOKaMIRRORaWINDOWaPLUNGERaSEWING NEEDLEaKNOTaBUCKETaMOUSE TRAPaTOOTHBRUSHaHEADSTONE",
    "1FAA7 aPLACARDaROCKaMIRROR BALLaIDENTIFICATION CARDaLOW BATTERYaHAMSA",
    "1FAB0 aFLYaWORMaBEETLEaCOCKROACHaPOTTED PLANTaWOODaFEATHERaLOTUSaCORALaEMPTY NESTaNEST WITH EGGS",
    "1FAC0 aANATOMICAL HEARTaLUNGSaPEOPLE HUGGINGbREGNANT MANjPERSONbERSON WITH CROWN",
    "1FAD0 aBLUEBERRIESbELL PEPPERaOLIVEaFLATBREADaTAMALEaFONDUEaTEAPOTaPOURING LIQUIDaBEANSaJAR",
    "1FAE0 aMELTING FACEaSALUTING FACEaFACE WITH OPEN EYES AND HAND OVER MOUTHkPEEKING EYEkDIAGONAL MOUTH",
    "1FAE5 aDOTTED LINE FACEaBITING LIPbUBBLES",
    "1FAF0 aHAND WITH INDEX FINGER AND THUMB CROSSEDaRIGHTWARDS HANDaLEFTWARDS HANDaPALM DOWN HANDfUP HAND",
    "1FAF5 aINDEX POINTING AT THE VIEWERaHEART HANDS",
    "1FB00 aBLOCK SEXTANT-1o2o12o3o13o23o123o4o14o24o124o34o134o234o1234o5o15o25o125o35o235o1235o45o145o245o1245o345",
    "1FB1B o1345o2345o12345o6o16o26o126o36o136o236o1236o46o146p246o346o1346o2346o12346o56o156o256o1256o356o1356o2356",
    "1FB34 o12356o456o1456o2456o12456o3456o13456o23456aLOWER LEFT BLOCK DIAGONAL LOWER MIDDLE LEFT TO LOWER CENTRE",
    "1FB3D z LOWER MIDDLE LEFT TO LOWER RIGHTz UPPER MIDDLE LEFT TO LOWER CENTREz UPPER MIDDLE LEFT TO LOWER RIGHT",
    "1FB40 z UPPER LEFT TO LOWER CENTREgRIGHT BLOCK DIAGONAL UPPER MIDDLE LEFT TO UPPER CENTRE",
    "1FB42 zL UPPER MIDDLE LEFT TO UPPER RIGHTzL LOWER MIDDLE LEFT TO UPPER CENTREzL LOWER MIDDLE LEFT TO UPPER RIGHT",
    "1FB45 zL LOWER LEFT TO UPPER CENTREzL LOWER MIDDLE LEFT TO UPPER MIDDLE RIGHT",
    "1FB47 zL LOWER CENTRE TO LOWER MIDDLE RIGHTzL LOWER LEFT TO LOWER MIDDLE RIGHT",
    "1FB49 zL LOWER CENTRE TO UPPER MIDDLE RIGHTzL LOWER LEFT TO UPPER MIDDLE RIGHTzL LOWER CENTRE TO UPPER RIGHT",
    "1FB4C gLEFT BLOCK DIAGONAL UPPER CENTRE TO UPPER MIDDLE RIGHTz UPPER LEFT TO UPPER MIDDLE RIGHT",
    "1FB4E z UPPER CENTRE TO LOWER MIDDLE RIGHTz UPPER LEFT TO LOWER MIDDLE RIGHTz UPPER CENTRE TO LOWER RIGHT",
    "1FB51 z UPPER MIDDLE LEFT TO LOWER MIDDLE RIGHTaUPPER RIGHT BLOCK DIAGONAL LOWER MIDDLE LEFT TO LOWER CENTRE",
    "1FB53 zL LOWER MIDDLE LEFT TO LOWER RIGHTzL UPPER MIDDLE LEFT TO LOWER CENTREzL UPPER MIDDLE LEFT TO LOWER RIGHT",
    "1FB56 zL UPPER LEFT TO LOWER CENTREgLEFT BLOCK DIAGONAL UPPER MIDDLE LEFT TO UPPER CENTRE",
    "1FB58 z UPPER MIDDLE LEFT TO UPPER RIGHTz LOWER MIDDLE LEFT TO UPPER CENTREz LOWER MIDDLE LEFT TO UPPER RIGHT",
    "1FB5B z LOWER LEFT TO UPPER CENTREz LOWER MIDDLE LEFT TO UPPER MIDDLE RIGHTz LOWER CENTRE TO LOWER MIDDLE RIGHT",
    "1FB5E z LOWER LEFT TO LOWER MIDDLE RIGHTz LOWER CENTRE TO UPPER MIDDLE RIGHTz LOWER LEFT TO UPPER MIDDLE RIGHT",
    "1FB61 z LOWER CENTRE TO UPPER RIGHTgRIGHT BLOCK DIAGONAL UPPER CENTRE TO UPPER MIDDLE RIGHT",
    "1FB63 zL UPPER LEFT TO UPPER MIDDLE RIGHTzL UPPER CENTRE TO LOWER MIDDLE RIGHT",
    "1FB65 zL UPPER LEFT TO LOWER MIDDLE RIGHTzL UPPER CENTRE TO LOWER RIGHT",
    "1FB67 zL UPPER MIDDLE LEFT TO LOWER MIDDLE RIGHTgAND RIGHT AND LOWER TRIANGULAR THREE QUARTERS BLOCK",
    "1FB69 aLEFT AND LOWER AND RIGHT TRIANGULAR THREE QUARTERS BLOCK",
    "1FB6A aUPPER AND LEFT AND LOWER TRIANGULAR THREE QUARTERS BLOCK",
    "1FB6B aLEFT AND UPPER AND RIGHT TRIANGULAR THREE QUARTERS BLOCKfTRIANGULAR ONE QUARTER BLOCK",
    "1FB6D aUPPER TRIANGULAR ONE QUARTER BLOCKaRIGHT TRIANGULAR ONE QUARTER BLOCKaLOWER TRIANGULAR ONE QUARTER BLOCK",
    "1FB70 aVERTICAL ONE EIGHTH BLOCK-2z-3z-4z-5z-6z-7aHORIZONTAL ONE EIGHTH BLOCK-2zCK-3zCK-4zCK-5zCK-6zCK-7",
    "1FB7C aLEFT AND LOWER ONE EIGHTH BLOCKjUPPER ONE EIGHTH BLOCKaRIGHT AND UPPER ONE EIGHTH BLOCK",
    "1FB7F kLOWER ONE EIGHTH BLOCKaUPPER AND LOWER ONE EIGHTH BLOCKaHORIZONTAL ONE EIGHTH BLOCK-1358",
    "1FB82 aUPPER ONE QUARTER BLOCKgTHREE EIGHTHS BLOCKgFIVE EIGHTHS BLOCKgTHREE QUARTERS BLOCKgSEVEN EIGHTHS BLOCK",
    "1FB87 aRIGHT ONE QUARTER BLOCKgTHREE EIGHTHS BLOCKgFIVE EIGHTHS BLOCKgTHREE QUARTERS BLOCKgSEVEN EIGHTHS BLOCK",
    "1FB8C aLEFT HALF MEDIUM SHADEaRIGHT HALF MEDIUM SHADEaUPPER HALF MEDIUM SHADEaLOWER HALF MEDIUM SHADE",
    "1FB90 aINVERSE MEDIUM SHADEaUPPER HALF BLOCK AND LOWER HALF INVERSE MEDIUM SHADE",
    "1FB92 lINVERSE MEDIUM SHADE AND LOWER HALF BLOCK",
    "1FB94 aLEFT HALF INVERSE MEDIUM SHADE AND RIGHT HALF BLOCKaCHECKER BOARD FILLaINVERSE CHECKER BOARD FILL",
    "1FB97 aHEAVY HORIZONTAL FILLaUPPER LEFT TO LOWER RIGHT FILLgRIGHT TO LOWER LEFT FILL",
    "1FB9A gAND LOWER TRIANGULAR HALF BLOCKaLEFT AND RIGHT TRIANGULAR HALF BLOCKaUPPER LEFT TRIANGULAR MEDIUM SHADE",
    "1FB9D gRIGHT TRIANGULAR MEDIUM SHADEaLOWER RIGHT TRIANGULAR MEDIUM SHADEgLEFT TRIANGULAR MEDIUM SHADE",
    "1FBA0 aBOX DRAWINGS LIGHT DIAGONAL UPPER CENTRE TO MIDDLE LEFTzAL UPPER CENTRE TO MIDDLE RIGHT",
    "1FBA2 zAL MIDDLE LEFT TO LOWER CENTREzAL MIDDLE RIGHT TO LOWER CENTRE",
    "1FBA4 zAL UPPER CENTRE TO MIDDLE LEFT TO LOWER CENTREzAL UPPER CENTRE TO MIDDLE RIGHT TO LOWER CENTRE",
    "1FBA6 zAL MIDDLE LEFT TO LOWER CENTRE TO MIDDLE RIGHTzAL MIDDLE LEFT TO UPPER CENTRE TO MIDDLE RIGHT",
    "1FBA8 zAL UPPER CENTRE TO MIDDLE LEFT AND MIDDLE RIGHT TO LOWER CENTRE",
    "1FBA9 zAL UPPER CENTRE TO MIDDLE RIGHT AND MIDDLE LEFT TO LOWER CENTRE",
    "1FBAA zAL UPPER CENTRE TO MIDDLE RIGHT TO LOWER CENTRE TO MIDDLE LEFT",
    "1FBAB zAL UPPER CENTRE TO MIDDLE LEFT TO LOWER CENTRE TO MIDDLE RIGHT",
    "1FBAC zAL MIDDLE LEFT TO UPPER CENTRE TO MIDDLE RIGHT TO LOWER CENTRE",
    "1FBAD zAL MIDDLE RIGHT TO UPPER CENTRE TO MIDDLE LEFT TO LOWER CENTREzAL DIAMONDtHORIZONTAL WITH VERTICAL STROKE",
    "1FBB0 aARROWHEAD-SHAPED POINTERaINVERSE CHECK MARKaLEFT HALF RUNNING MANaRIGHT HALF RUNNING MAN",
    "1FBB4 aINVERSE DOWNWARDS ARROW WITH TIP LEFTWARDSaLEFTWARDS ARROW AND UPPER AND LOWER ONE EIGHTH BLOCK",
    "1FBB6 aRIGHTWARDS ARROW AND UPPER AND LOWER ONE EIGHTH BLOCKaDOWNWARDS ARROW AND RIGHT ONE EIGHTH BLOCK",
    "1FBB8 aUPWARDS ARROW AND RIGHT ONE EIGHTH BLOCKaLEFT HALF FOLDERaRIGHT HALF FOLDERaVOIDED GREEK CROSS",
    "1FBBC aRIGHT OPEN SQUARED DOTaNEGATIVE DIAGONAL CROSSsMIDDLE RIGHT TO LOWER CENTREsDIAMOND",
    "1FBC0 aWHITE HEAVY SALTIRE WITH ROUNDED CORNERSaLEFT THIRD WHITE RIGHT POINTING INDEX",
    "1FBC2 aMIDDLE THIRD WHITE RIGHT POINTING INDEXaRIGHT THIRD WHITE RIGHT POINTING INDEX",
    "1FBC4 aNEGATIVE SQUARED QUESTION MARKaSTICK FIGUREm WITH ARMS RAISEDnLEANING LEFTvRIGHTnWITH DRESS",
    "1FBCA aWHITE UP-POINTING CHEVRON",
    "1FBF0 aSEGMENTED DIGIT ZEROqONEqTWOrHREEqFOURrIVEqSIXrEVENqEIGHTqNINE",
    "E0001 aLANGUAGE TAG",
    "E0020 aTAG SPACEeEXCLAMATION MARKeQUOTATION MARKeNUMBER SIGNeDOLLAR SIGNePERCENT SIGNeAMPERSANDfPOSTROPHE",
    "E0028 eLEFT PARENTHESISeRIGHT PARENTHESISeASTERISKePLUS SIGNeCOMMAeHYPHEN-MINUSeFULL STOPeSOLIDUSeDIGIT ZEROkONE",
    "E0032 kTWOlHREEkFOURlIVEkSIXlEVENkEIGHTkNINEeCOLONeSEMICOLONeLESS-THAN SIGNeEQUALS SIGNeGREATER-THAN SIGN",
    "E003F eQUESTION MARKeCOMMERCIAL ATeLATIN CAPITAL LETTER AzBzCzDzEzFzGzHzIzJzKzLzMzNzOzPzQzRzSzTzUzVzWzXzYzZ",
    "E005B fEFT SQUARE BRACKETeREVERSE SOLIDUSfIGHT SQUARE BRACKETeCIRCUMFLEX ACCENTeLOW LINEeGRAVE ACCENT",
    "E0061 eLATIN SMALL LETTER AxBxCxDxExFxGxHxIxJxKxLxMxNxOxPxQxRxSxTxUxVxWxXxYxZfEFT CURLY BRACKETeVERTICAL LINE",
    "E007D eRIGHT CURLY BRACKETeTILDEaCANCEL TAG",
    "E0100 aVARIATION SELECTOR-17u8u9t20u1u2u3u4u5u6u7u8u9t30u1u2u3u4u5u6u7u8u9t40u1u2u3u4u5u6u7u8u9t50u1u2u3u4u5u6u7",
    "E0129 u8u9t60u1u2u3u4u5u6u7u8u9t70u1u2u3u4u5u6u7u8u9t80u1u2u3u4u5u6u7u8u9t90u1u2u3u4u5u6u7u8u9t100v1v2v3v4v5v6v7",
    "E015B v8v9u10v1v2v3v4v5v6v7v8v9u20v1v2v3v4v5v6v7v8v9u30v1v2v3v4v5v6v7v8v9u40v1v2v3v4v5v6v7v8v9u50v1v2v3v4v5v6v7",
    "E018D v8v9u60v1v2v3v4v5v6v7v8v9u70v1v2v3v4v5v6v7v8v9u80v1v2v3v4v5v6v7v8v9u90v1v2v3v4v5v6v7v8v9t200v1v2v3v4v5v6v7",
    "E01BF v8v9u10v1v2v3v4v5v6v7v8v9u20v1v2v3v4v5v6v7v8v9u30v1v2v3v4v5v6v7v8v9u40v1v2v3v4v5v6v7v8v9u50v1v2v3v4v5v6" ]

end RestDispatch.Text
