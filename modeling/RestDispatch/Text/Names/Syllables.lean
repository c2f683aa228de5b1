set_option autoImplicit false

/-!
Names of characters from U+3000 to U+FFFF (Unicode 14.0). A row starts with the code of its first character; the
names of neighbours follow. A small letter before a name says how many letters are those of the name before it: `a` none,
`b` one, and so on.
-/
namespace RestDispatch.Text

def syllableNames : List String := [
    "3000 aIDEOGRAPHIC SPACEmCOMMAmFULL STOPaDITTO MARKaJAPANESE INDUSTRIAL STANDARD SYMBOL",
    "3005 aIDEOGRAPHIC ITERATION MARKmCLOSING MARKmNUMBER ZEROaLEFT ANGLE BRACKETaRIGHT ANGLE BRACKET",
    "300A aLEFT DOUBLE ANGLE BRACKETaRIGHT DOUBLE ANGLE BRACKETaLEFT CORNER BRACKETaRIGHT CORNER BRACKET",
    "300E aLEFT WHITE CORNER BRACKETaRIGHT WHITE CORNER BRACKETaLEFT BLACK LENTICULAR BRACKET",
    "3011 aRIGHT BLACK LENTICULAR BRACKETaPOSTAL MARKaGETA MARKaLEFT TORTOISE SHELL BRACKET",
    "3015 aRIGHT TORTOISE SHELL BRACKETaLEFT WHITE LENTICULAR BRACKETaRIGHT WHITE LENTICULAR BRACKET",
    "3018 aLEFT WHITE TORTOISE SHELL BRACKETaRIGHT WHITE TORTOISE SHELL BRACKETaLEFT WHITE SQUARE BRACKET",
    "301B aRIGHT WHITE SQUARE BRACKETaWAVE DASHaREVERSED DOUBLE PRIME QUOTATION MARKaDOUBLE PRIME QUOTATION MARK",
    "301F aLOW DOUBLE PRIME QUOTATION MARKaPOSTAL MARK FACEaHANGZHOU NUMERAL ONErTWOsHREErFOURsIVErSIXsEVENrEIGHT",
    "3029 rNINEaIDEOGRAPHIC LEVEL TONE MARKmRISING TONE MARKmDEPARTING TONE MARKmENTERING TONE MARK",
    "302E aHANGUL SINGLE DOT TONE MARKhDOUBLE DOT TONE MARKaWAVY DASHaVERTICAL KANA REPEAT MARK",
    "3032 vWITH VOICED SOUND MARKvMARK UPPER HALFvWITH VOICED SOUND MARK UPPER HALFvMARK LOWER HALF",
    "3036 aCIRCLED POSTAL MARKaIDEOGRAPHIC TELEGRAPH LINE FEED SEPARATOR SYMBOLaHANGZHOU NUMERAL TENsWENTYsHIRTY",
    "303B aVERTICAL IDEOGRAPHIC ITERATION MARKaMASU MARKaPART ALTERNATION MARKaIDEOGRAPHIC VARIATION INDICATOR",
    "303F mHALF FILL SPACE",
    "3041 aHIRAGANA LETTER SMALL AqAqSMALL IqIqSMALL UqUqSMALL EqEqSMALL OqOqKAqGAqKIqGIqKUqGUqKEqGEqKOqGOqSAqZAqSI",
    "3058 qZIqSUqZUqSEqZEqSOqZOqTAqDAqTIqDIqSMALL TUqTUqDUqTEqDEqTOqDOqNArIrUrErOqHAqBAqPAqHIqBIqPIqHUqBUqPUqHEqBEqPE",
    "307B qHOqBOqPOqMArIrUrErOqSMALL YAqYAqSMALL YUqYUqSMALL YOqYOqRArIrUrErOqSMALL WAqWArIrErOqNqVUqSMALL KAxE",
    "3099 aCOMBINING KATAKANA-HIRAGANA VOICED SOUND MARKzNA SEMI-VOICED SOUND MARK",
    "309B aKATAKANA-HIRAGANA VOICED SOUND MARKsSEMI-VOICED SOUND MARKaHIRAGANA ITERATION MARKjVOICED ITERATION MARK",
    "309F jDIGRAPH YORIaKATAKANA-HIRAGANA DOUBLE HYPHENi LETTER SMALL AqAqSMALL IqIqSMALL UqUqSMALL EqEqSMALL OqOqKA",
    "30AC qGAqKIqGIqKUqGUqKEqGEqKOqGOqSAqZAqSIqZIqSUqZUqSEqZEqSOqZOqTAqDAqTIqDIqSMALL TUqTUqDUqTEqDEqTOqDOqNArIrUrErO",
    "30CF qHAqBAqPAqHIqBIqPIqHUqBUqPUqHEqBEqPEqHOqBOqPOqMArIrUrErOqSMALL YAqYAqSMALL YUqYUqSMALL YOqYOqRArIrUrErO",
    "30EE qSMALL WAqWArIrErOqNqVUqSMALL KAxEqVArIrErOjMIDDLE DOTi-HIRAGANA PROLONGED SOUND MARKi ITERATION MARK",
    "30FE jVOICED ITERATION MARKjDIGRAPH KOTO",
    "3105 aBOPOMOFO LETTER BqPqMqFqDqTqNqLqGqKqHqJqQqXqZHqCHqSHqRqZqCqSqAqOqErHqAIqEIqAUqOUqANqENqANGqENGrRqIqUqIUqV",
    "312B qNGqGNqIHqO WITH DOT ABOVEqNN",
    "3131 aHANGUL LETTER KIYEOKoSSANGKIYEOKoKIYEOK-SIOSoNIEUNt-CIEUCuHIEUHoTIKEUToSSANGTIKEUToRIEULt-KIYEOKuMIEUM",
    "313C uPIEUPuSIOSuTHIEUTHuPHIEUPHuHIEUHoMIEUMoPIEUPoSSANGPIEUPoPIEUP-SIOSoSIOSpSANGSIOSoIEUNGoCIEUCoSSANGCIEUC",
    "314A oCHIEUCHoKHIEUKHoTHIEUTHoPHIEUPHoHIEUHoApEoYAqEoEOpoYEOqoOoWAqEoOEoYOoUoWEOqpIoYUoEUoYIoIhFILLER",
    "3165 hLETTER SSANGNIEUNoNIEUN-TIKEUTuSIOSuPANSIOSoRIEUL-KIYEOK-SIOSuTIKEUTuPIEUP-SIOSvANSIOSuYEORINHIEUH",
    "316E oMIEUM-PIEUPuSIOSuPANSIOSoKAPYEOUNMIEUMoPIEUP-KIYEOKuTIKEUTuSIOS-KIYEOKzTIKEUTuCIEUCuTHIEUTHoKAPYEOUNPIEUP",
    "3179 wSSANGPIEUPoSIOS-KIYEOKtNIEUNtTIKEUTtPIEUPtCIEUCoPANSIOSoSSANGIEUNGoYESIEUNGw-SIOSxPANSIOSoKAPYEOUNPHIEUPH",
    "3185 oSSANGHIEUHoYEORINHIEUHpO-YAtErIpU-YEOtrIoARAEAtE",
    "3190 aIDEOGRAPHIC ANNOTATION LINKING MARKxREVERSE MARKxONE MARKxTWO MARKyHREE MARKxFOUR MARKxTOP MARK",
    "3197 xMIDDLE MARKxBOTTOM MARKxFIRST MARKxSECOND MARKxTHIRD MARKxFOURTH MARKxHEAVEN MARKxEARTH MARKxMAN MARK",
    "31A0 aBOPOMOFO LETTER BUqZIqJIqGUqEErNNqOOrNNqIRqANNqINNqUNNqIMqNGGqAINNrUNNrMqOMrNGqINNNjFINAL LETTER PwTwKwH",
    "31B8 jLETTER GHqLHqZYjFINAL LETTER GjLETTER GWqKWqOEqAHaCJK STROKE TlWGlXGlBXGlSWlHZZnGmPmZWGlSZWGlHZTnZPmPWGmZW",
    "31CE nZZlNlHlSlPlSPlDlHZmGlSZmWZmTmGlPDmZlTNlSZZmWGlHXWGmZZZGlPGlQ",
    "31F0 aKATAKANA LETTER SMALL KUwSIxUwTOwNUwHAxIxUxExOwMUwRAxIxUxExOaPARENTHESIZED HANGUL KIYEOKvNIEUNvTIKEUT",
    "3203 vRIEULvMIEUMvPIEUPvSIOSvIEUNGvCIEUCwHIEUCHvKHIEUKHvTHIEUTHvPHIEUPHvHIEUHvKIYEOK AvNIEUN AvTIKEUT AvRIEUL A",
    "3212 vMIEUM AvPIEUP AvSIOS AvIEUNG AvCIEUC AwHIEUCH AvKHIEUKH AvTHIEUTH AvPHIEUPH AvHIEUH AvCIEUC U",
    "321D oKOREAN CHARACTER OJEONzACTER O HU",
    "3220 oIDEOGRAPH ONEyTWOzHREEyFOURzIVEySIXzEVENyEIGHTyNINEyTENyMOONyFIREyWATERzOODyMETALyEARTHySUNzTOCKyHAVE",
    "3233 ySOCIETYyNAMEySPECIALyFINANCIALyCONGRATULATIONyLABORyREPRESENTyCALLySTUDYzUPERVISEyENTERPRISEyRESOURCE",
    "323F yALLIANCEyFESTIVALyRESTySELFyREACHaCIRCLED IDEOGRAPH QUESTIONsKINDERGARTENsSCHOOLsKOTO",
    "3248 iNUMBER TEN ON BLACK SQUAREqWENTY ON BLACK SQUAREqHIRTY ON BLACK SQUAREpFORTY ON BLACK SQUARE",
    "324C qIFTY ON BLACK SQUAREpSIXTY ON BLACK SQUAREqEVENTY ON BLACK SQUAREpEIGHTY ON BLACK SQUAREaPARTNERSHIP SIGN",
    "3251 aCIRCLED NUMBER TWENTY ONEwTWOxHREEwFOURxIVEwSIXxEVENwEIGHTwNINEqHIRTYv ONEwTWOxHREEwFOURxIVEiHANGUL KIYEOK",
    "3261 pNIEUNpTIKEUTpRIEULpMIEUMpPIEUPpSIOSpIEUNGpCIEUCqHIEUCHpKHIEUKHpTHIEUTHpPHIEUPHpHIEUHpKIYEOK ApNIEUN A",
    "3270 pTIKEUT ApRIEUL ApMIEUM ApPIEUP ApSIOS ApIEUNG ApCIEUC AqHIEUCH ApKHIEUKH ApTHIEUTH ApPHIEUPH ApHIEUH A",
    "327C iKOREAN CHARACTER CHAMKOzJUEUIiHANGUL IEUNG UaKOREAN STANDARD SYMBOLaCIRCLED IDEOGRAPH ONEsTWOtHREEsFOUR",
    "3284 tIVEsSIXtEVENsEIGHTsNINEsTENsMOONsFIREsWATERtOODsMETALsEARTHsSUNtTOCKsHAVEsSOCIETYsNAMEsSPECIALsFINANCIAL",
    "3297 sCONGRATULATIONsLABORsSECRETsMALEsFEMALEsSUITABLEsEXCELLENTsPRINTsATTENTIONsITEMsRESTsCOPYuRRECTsHIGH",
    "32A5 sCENTREsLOWtEFTsRIGHTsMEDICINEsRELIGIONsSTUDYtUPERVISEsENTERPRISEsRESOURCEsALLIANCEsNIGHTiNUMBER THIRTY SIX",
    "32B2 xEVENwEIGHTwNINEpFORTYu ONEvTWOwHREEvFOURwIVEvSIXwEVENvEIGHTvNINEqIFTY",
    "32C0 aIDEOGRAPHIC TELEGRAPH SYMBOL FOR JANUARYzBOL FOR FEBRUARYzBOL FOR MARCHzBOL FOR APRILzBOL FOR MAY",
    "32C5 zBOL FOR JUNEzBOL FOR JULYzBOL FOR AUGUSTzBOL FOR SEPTEMBERzBOL FOR OCTOBERzBOL FOR NOVEMBER",
    "32CB zBOL FOR DECEMBERaSQUARE HGhERGiVaLIMITED LIABILITY SIGNaCIRCLED KATAKANA ArIrUrErOrKAsIsUsEsOrSAsIsUsEsO",
    "32DF rTAsIsUsEsOrNAsIsUsEsOrHAsIsUsEsOrMAsIsUsEsOrYAsUsOrRAsIsUsEsOrWAsIsEsOaSQUARE ERA NAME REIWAhAPAATOiRUHUA",
    "3302 iNPEAiARUhININGUjTIhUONhESUKUUDOiEKAAhONSUiOMUhKAIRIjRATTOkORIIhGARONjNMAiIGAjNIIhKYURIIhGIRUDAAhKIRO",
    "3315 lGURAMUlMEETORUlWATTOhGURAMUnTONhKURUZEIROkOONEiEESUiORUNAjOPOhSAIKURUjNTIIMUiIRINGUiENTIlOhDAASUiESIiORU",
    "3327 hTONhNANOiOTTOhHAITUhPAASENTOkTUhBAARERUhPIASUTORUjKURUkOhBIRUhHUARADDOjIITOhBUSSYERUhHURANiEKUTAARUhPESO",
    "3338 jNIHIhHERUTUhPENSUjEZIhBEETAhPOINTOhBORUTOhHONhPONDOhHOORUkNhMAIKUROkRUjHHAjRUKUjNSYONiIKURONjRIlBAARUiEGA",
    "334C lTONjETORUhYAADOkRUiUANhRITTORUjRAiUPIIjUBURUiEMUjNTOGENhWATTOaIDEOGRAPHIC TELEGRAPH SYMBOL FOR HOUR ZERO",
    "3359 zBOL FOR HOUR ONEzBOL FOR HOUR TWOzBOL FOR HOUR THREEzBOL FOR HOUR FOURzBOL FOR HOUR FIVEzBOL FOR HOUR SIX",
    "335F zBOL FOR HOUR SEVENzBOL FOR HOUR EIGHTzBOL FOR HOUR NINEzBOL FOR HOUR TENzBOL FOR HOUR ELEVEN",
    "3364 zBOL FOR HOUR TWELVEzBOL FOR HOUR THIRTEENzBOL FOR HOUR FOURTEENzBOL FOR HOUR FIFTEENzBOL FOR HOUR SIXTEEN",
    "3369 zBOL FOR HOUR SEVENTEENzBOL FOR HOUR EIGHTEENzBOL FOR HOUR NINETEENzBOL FOR HOUR TWENTY",
    "336D zBOL FOR HOUR TWENTY-ONEzBOL FOR HOUR TWENTY-TWOzBOL FOR HOUR TWENTY-THREEzBOL FOR HOUR TWENTY-FOUR",
    "3371 aSQUARE HPAhDAhAUhBARhOVhPChDMj SQUAREDkCUBEDhIUhERA NAME HEISEIqSYOUWAqTAISYOUqMEIZIhCORPORATIONhPA AMPS",
    "3381 hNAhMU AiAhKAiBhMBhGBhCALhKCALhPFhNFhMU FkGiGhKGhHZhKHZhMHZhGHZhTHZhMU LiLhDLhKLhFMhNMhMU MiMhCMhKM",
    "339F hMM SQUAREDhCM SQUAREDhM SQUAREDhKM SQUAREDhMM CUBEDhCM CUBEDhM CUBEDhKM CUBEDhM OVER Sp SQUAREDhPAhKPAhMPA",
    "33AC hGPAhRADk OVER Sr SQUAREDhPShNShMU SiShPVhNVhMU ViVhKVhMV MEGAhPWhNWhMU WiWhKWhMW MEGAhK OHMhM OHMhAMhBQhCC",
    "33C5 iDi OVER KGiOhDBhGYhHAiPhINhKKiM CAPITALiThLMiNiOGiXhMB SMALLiILiOLhPHiMiPMiRhSRiVhWBhV OVER MhA OVER M",
    "33E0 aIDEOGRAPHIC TELEGRAPH SYMBOL FOR DAY ONEzBOL FOR DAY TWOzBOL FOR DAY THREEzBOL FOR DAY FOUR",
    "33E4 zBOL FOR DAY FIVEzBOL FOR DAY SIXzBOL FOR DAY SEVENzBOL FOR DAY EIGHTzBOL FOR DAY NINEzBOL FOR DAY TEN",
    "33EA zBOL FOR DAY ELEVENzBOL FOR DAY TWELVEzBOL FOR DAY THIRTEENzBOL FOR DAY FOURTEENzBOL FOR DAY FIFTEEN",
    "33EF zBOL FOR DAY SIXTEENzBOL FOR DAY SEVENTEENzBOL FOR DAY EIGHTEENzBOL FOR DAY NINETEENzBOL FOR DAY TWENTY",
    "33F4 zBOL FOR DAY TWENTY-ONEzBOL FOR DAY TWENTY-TWOzBOL FOR DAY TWENTY-THREEzBOL FOR DAY TWENTY-FOUR",
    "33F8 zBOL FOR DAY TWENTY-FIVEzBOL FOR DAY TWENTY-SIXzBOL FOR DAY TWENTY-SEVENzBOL FOR DAY TWENTY-EIGHT",
    "33FC zBOL FOR DAY TWENTY-NINEzBOL FOR DAY THIRTYzBOL FOR DAY THIRTY-ONEaSQUARE GAL",
    "4DC0 aHEXAGRAM FOR THE CREATIVE HEAVENrRECEPTIVE EARTHnDIFFICULTY AT THE BEGINNINGnYOUTHFUL FOLLYnWAITING",
    "4DC5 nCONFLICTnTHE ARMYnHOLDING TOGETHERnSMALL TAMINGnTREADINGnPEACEnSTANDSTILLnFELLOWSHIPnGREAT POSSESSION",
    "4DCE nMODESTYnENTHUSIASMnFOLLOWINGnWORK ON THE DECAYEDnAPPROACHnCONTEMPLATIONnBITING THROUGHnGRACE",
    "4DD6 nSPLITTING APARTnRETURNnINNOCENCEnGREAT TAMINGnMOUTH CORNERSnGREAT PREPONDERANCEnTHE ABYSMAL WATER",
    "4DDD rCLINGING FIREnINFLUENCEnDURATIONnRETREATnGREAT POWERnPROGRESSnDARKENING OF THE LIGHTnTHE FAMILYnOPPOSITION",
    "4DE6 oBSTRUCTIONnDELIVERANCEpCREASEnINCREASEnBREAKTHROUGHnCOMING TO MEETnGATHERING TOGETHERnPUSHING UPWARD",
    "4DEE nOPPRESSIONnTHE WELLnREVOLUTIONnTHE CAULDRONrAROUSING THUNDERrKEEPING STILL MOUNTAINnDEVELOPMENT",
    "4DF5 nTHE MARRYING MAIDENnABUNDANCEnTHE WANDERERrGENTLE WINDrJOYOUS LAKEnDISPERSIONnLIMITATIONnINNER TRUTH",
    "4DFD nSMALL PREPONDERANCEnAFTER COMPLETIONnBEFORE COMPLETION",
    "A000 aYI SYLLABLE ITnXnnPnEToXooPmATnXnnPmUOXooPmOTnXnnPmEXnmWUmBIToXooPoETpXppPnAToXooPnUOXppPnOToXooPnEXooPnUT",
    "A02D oXooPoRXpnYToXooPoRXpmPIToXooPoEXppPnAToXooPnUOXppPnOToXooPnUToXooPoRXpnYToXooPoRXpmBBITpXppPpETqXqqPoATpXp",
    "A061 pPoUOXqqPoOTpXppPoEXppPoUTpXppPpRXqoYTpXppPmNBITpXppPpEXqqPoATpXppPoOTpXppPoUTpXppPpRXqoYTpXppPpRXqmHMITpXp",
    "A094 pPpEXqqPoATpXppPoUOXqqPoOTpXppPoUTpXppPpRXqoYXppPpRXqmMIToXooPoEXppPnAToXooPnUOTpXppPnOToXooPnEXonUToXooP",
    "A0C7 oRXpnYToXooPmFIToXooPnAToXooPnOXooPnUToXooPoRXpnYToXooPmVIToXooPoETpXppPnAToXooPnOToXooPnEXoPnUToXooPoRXp",
    "A0FA nYToXooPoRXpmDIToXooPoEXppPnAToXooPnUOXpnOToXooPnEXooPnUToXooPoRXpmTIToXooPoEXppPnAToXooPnUOTpXppPnOToXooP",
    "A12D nEXooPnUToXooPoRXpmDDITpXppPpEXqqPoATpXppPoUOXqqPoOTpXppPoEXppPoUTpXppPpRXqmNDITpXppPpEXqoATpXppPoOTpXppP",
    "A15F oEXppPoUTpXppPpRXqmHNITpXppPpETqXqqPoATpXppPoUOXqoOTpXpPoEXppPoUTmNIToXooPoEXppPnAXooPnUOXppPnOToXooPnEXooP",
    "A191 nUToXooPoRXpmHLITpXppPpEXqqPoATpXppPoUOXqqPoOXppPoEXppPoUTpXppPpRXqoYTpXppPpRXqmLIToXooPoETpXppPnAToXooP",
    "A1C3 nUOTpXppPnOToXooPnEXooPnUToXooPoRXpnYToXooPoRXpmGIToXooPoETpXppPnAToXooPnUOTpXppPnOToXooPnEToXooPnUToXooP",
    "A1F6 oRXpmKIToXooPoEXppPnAToXooPnUOXppPnOToXooPnEToXooPnUToXooPoRXpmGGITpXppEXqqPoATpXppPoUOTqXqqPoOTpXppPoETpXp",
    "A229 pPoUTpXppPpRXqmMGIEXqoATpXppPoUOXqqPoOTpXppPoEXppPoUTpXppPpRXqmHXITpXppPpETqXqqPoATpXppPoUOTqXqqPoOTpXppP",
    "A25A oEXppPmNGIEXqqPoATpXppPoUOTqXqoOTpXppPoEXppPmHIToEXpnAToXooPnUOTpXppPnOToXooPnEXooPmWAToXooPnUOXppPnOXooP",
    "A28A nEXooPmZIToXooPoEXppPnAToXooPnUOXppPnOToXooPnEXooPnUToXooPoRXpnYToXooPoRXpmCIToXooPoETpXppPnAToXooPnUOXppP",
    "A2BD nOToXooPnEXooPnUToXooPoRXpnYToXooPoRXpmZZITpXppPpETqXqqPoATpXppPoOXppPoEXppPoUXppPpRXqoYTpXppPpRXqmNZITpXp",
    "A2F0 pPpEXqqPoATpXppPoUOXqoOXpPoEXpoUXppPpRXqoYTpXppPpRXqmSIToXooPoEXppPnAToXooPnUOXppPnOToXooPnEXooPnUToXooPoRX",
    "A323 pnYToXooPoRXpnSITpXppPpEXqqPoATpXppPoOTpXppPoEXppPoUTpXppPoYTpXppPpRXqmZHATpXppPoUOXqqPoOTpXppPoETpXppPoUT",
    "A356 pXppPpRXqoYTpXppPpRXqmCHATpXppPoUOTqXqqPoOTpXppPoETpXppPoUXppPpRXqoYTpXppPpRXqmRRAXpoUOXqoOTpXppPoETpXppP",
    "A388 oUTpXppPpRXqoYTpXppPpRXqmNRATpXppPoOXppPoETpXppPoUTpXppPpRXqoYTpXppPpRXqmSHATpXppPoUOXqqPoOTpXppPoETpXppP",
    "A3BA oUTpXppPpRXqoYTpXppPpRXqmRAToXooPnUOXppPnOToXooPnEXooPnUToXooPoRXpnYToXooPoRXpmJIToXooPoETpXppPnUOTpXppPnOT",
    "A3ED oXooPnUToXooPoRXpnYToXooPoRXpmQIToXooPoETpXppPnUOTpXppPnOToXooPnUToXooPoRXpnYToXooPoRXpmJJITpXppPpETqXqqP",
    "A420 oUOXqqPoOTpXppPoUTpXppPpRXqoYTpXppPmNJITpXppPpETqXqqPoUOXqoOTpXppPoUXppPpRXqoYTpXppPpRXqnYITpXppPpETqXqqP",
    "A452 oUOXqqPoOTpXppPoUTpXppPmXIToXooPoETpXppPnUOXpnOToXooPnYToXooPoRXpmYIToXooPoETpXppPnUOTpXppPnOToXooPnUToXooP",
    "A485 oRXpnYToXooPoRXp",
    "A490 dRADICAL QOTlLIlKITlNYIPlCYPlSSIlGGOPmEPlMIlHXITlLYRlBBUTlMOPlYOlPUTlHXUOlTATlGAlZUPlCYTlDDURlBURlGGUOlNYOP",
    "A4A8 lTUlOPlJJUTlZOTlPYTlHMOlYITlVURlSHYlVEPlZAlJOlNZUPlJJYlGOTlJJIElWOlDUlSHURlLIElCYmUOPmIPlHXOPlSHATlZURlSHOP",
    "A4C3 lCHElZZIETlNBIElKE",
    "A4D0 aLISU LETTER BAmPAnHAmDAmTAnHAmGAmKAnHAmJAmCAnHAmDZAmTSAoHAmMAmNAmLAmSAmZHAnAmNGAmHAmXAmHHAmFAmWAmSHAmYA",
    "A4ED mGHAmAnEmEnUmImOmUnEnHmOEmTONE MYA TIrNA POrMYA CYAvBOvNAvJEUfPUNCTUATION COMMArFULL STOPaVAI SYLLABLE EEpN",
    "A502 nHEEnWEEqNnPEEnBHEEoEEnMBEEnKPEEnMGBEEnGBEEnFEEnVEEnTEEoHEEnDHEEpHEEnLEEnREEnDEEnNDEEnSEEoHEEnZEEoHEEnCEE",
    "A51B nJEEnNJEEnYEEnKEEnNGGEEnGEEnMEEnNEEoYEEnIoNnHIpNnWIpNnPInBHIoInMBInKPInMGBInGBInFInVInTIoHInDHIpHInLInRInDI",
    "A53A nNDInSIoHInZIoHInCInJInNJInYInKInNGGInGInMInNIoYInAoNnNGANnHApNnWApNnPAnBHAoAnMBAnKPAqNnMGBAnGBAnFAnVAnTA",
    "A55B oHAnDHApHAnLAnRAnDAnNDAnSAoHAnZAoHAnCAnJAnNJAnYAnKApNnNGGAnGAnMAnNAoYAnOOpNnHOOnWOOqNnPOOnBHOOoOOnMBOOnKPOO",
    "A57B nMGBOOnGBOOnFOOnVOOnTOOoHOOnDHOOpHOOnLOOnROOnDOOnNDOOnSOOoHOOnZOOoHOOnCOOnJOOnNJOOnYOOnKOOnNGGOOnGOOnMOO",
    "A593 nNOOoYOOnUoNnHUpNnWUpNnPUnBHUoUnMBUnKPUnMGBUnGBUnFUnVUnTUoHUnDHUpHUnLUnRUnDUnNDUnSUoHUnZUoHUnCUnJUnNJUnYU",
    "A5B4 nKUnNGGUnGUnMUnNUoYUnOoNnNGONnHOpNnWOpNnPOnBHOoOnMBOnKPOnMGBOnGBOqNnFOnVOnTOoHOnDHOpHOnLOnROnDOnNDOnSOoHO",
    "A5D5 nZOoHOnCOnJOnNJOnYOnKOnNGGOnGOnMOnNOoYOnEoNnNGENnHEpNnWEpNnPEnBHEoEnMBEnKPEqNnMGBEnGBEqNnFEnVEnTEoHEnDHEpHE",
    "A5F7 nLEnREnDEnNDEnSEoHEnZEoHEnCEnJEnNJEnYEnKEnNGGErNnGEpNnMEnNEoYEoGnLENGTHENEReCOMMAeFULL STOPeQUESTION MARK",
    "A610 eSYLLABLE NDOLE FAtKAtSOOgMBOL FEENGlKEENGlTINGlNIIlBANGlFAAlTAAlDANGmOONGlKUNGlTONGlDO-OlJONGeDIGIT ZERO",
    "A621 kONEkTWOlHREEkFOURlIVEkSIXlEVENkEIGHTkNINEeSYLLABLE NDOLE MAtDO",
    "A640 aCYRILLIC CAPITAL LETTER ZEMLYAjSMALL LETTER ZEMLYAjCAPITAL LETTER DZELOjSMALL LETTER DZELO",
    "A644 jCAPITAL LETTER REVERSED DZEjSMALL LETTER REVERSED DZEjCAPITAL LETTER IOTAjSMALL LETTER IOTA",
    "A648 jCAPITAL LETTER DJERVjSMALL LETTER DJERVjCAPITAL LETTER MONOGRAPH UKjSMALL LETTER MONOGRAPH UK",
    "A64C jCAPITAL LETTER BROAD OMEGAjSMALL LETTER BROAD OMEGAjCAPITAL LETTER NEUTRAL YERjSMALL LETTER NEUTRAL YER",
    "A650 jCAPITAL LETTER YERU WITH BACK YERjSMALL LETTER YERU WITH BACK YERjCAPITAL LETTER IOTIFIED YAT",
    "A653 jSMALL LETTER IOTIFIED YATjCAPITAL LETTER REVERSED YUjSMALL LETTER REVERSED YUjCAPITAL LETTER IOTIFIED A",
    "A657 jSMALL LETTER IOTIFIED AjCAPITAL LETTER CLOSED LITTLE YUSjSMALL LETTER CLOSED LITTLE YUS",
    "A65A jCAPITAL LETTER BLENDED YUSjSMALL LETTER BLENDED YUSjCAPITAL LETTER IOTIFIED CLOSED LITTLE YUS",
    "A65D jSMALL LETTER IOTIFIED CLOSED LITTLE YUSjCAPITAL LETTER YNjSMALL LETTER YNjCAPITAL LETTER REVERSED TSE",
    "A661 jSMALL LETTER REVERSED TSEjCAPITAL LETTER SOFT DEjSMALL LETTER SOFT DEjCAPITAL LETTER SOFT EL",
    "A665 jSMALL LETTER SOFT ELjCAPITAL LETTER SOFT EMjSMALL LETTER SOFT EMjCAPITAL LETTER MONOCULAR O",
    "A669 jSMALL LETTER MONOCULAR OjCAPITAL LETTER BINOCULAR OjSMALL LETTER BINOCULAR O",
    "A66C jCAPITAL LETTER DOUBLE MONOCULAR OjSMALL LETTER DOUBLE MONOCULAR OjLETTER MULTIOCULAR O",
    "A66F bOMBINING CYRILLIC VZMETtTEN MILLIONS SIGNtHUNDRED MILLIONS SIGNtTHOUSAND MILLIONS SIGNaSLAVONIC ASTERISK",
    "A674 aCOMBINING CYRILLIC LETTER UKRAINIAN IEz Iz YIz Uz HARD SIGNz YERUz SOFT SIGNz OMEGAtKAVYKAtPAYEROK",
    "A67E bYRILLIC KAVYKAjPAYEROKjCAPITAL LETTER DWEjSMALL LETTER DWEjCAPITAL LETTER DZWEjSMALL LETTER DZWE",
    "A684 jCAPITAL LETTER ZHWEjSMALL LETTER ZHWEjCAPITAL LETTER CCHEjSMALL LETTER CCHEjCAPITAL LETTER DZZE",
    "A689 jSMALL LETTER DZZEjCAPITAL LETTER TE WITH MIDDLE HOOKjSMALL LETTER TE WITH MIDDLE HOOKjCAPITAL LETTER TWE",
    "A68D jSMALL LETTER TWEjCAPITAL LETTER TSWEjSMALL LETTER TSWEjCAPITAL LETTER TSSEjSMALL LETTER TSSE",
    "A692 jCAPITAL LETTER TCHEjSMALL LETTER TCHEjCAPITAL LETTER HWEjSMALL LETTER HWEjCAPITAL LETTER SHWE",
    "A697 jSMALL LETTER SHWEjCAPITAL LETTER DOUBLE OjSMALL LETTER DOUBLE OjCAPITAL LETTER CROSSED O",
    "A69B jSMALL LETTER CROSSED OaMODIFIER LETTER CYRILLIC HARD SIGNzSOFT SIGNaCOMBINING CYRILLIC LETTER EF",
    "A69F z IOTIFIED EaBAMUM LETTER AnKAnUnKUnEEnREEnTAEnOnNYInInLAnPAnRIIpEEnLEEEEnMEEEEnTAAnNDAAoJAEMnMnSUUnMUnSHII",
    "A6B7 oIoHEUXoEUXnKYEEoETnNUAEpoJUAEnYOQnSHUnYUQoAnNSHAnKEUXnPEUXnNJEEoTEEnPUEnWUEnPEEnFEEnRUnLUnMInNInREUXoAE",
    "A6D2 nKENnNGKWAENpGApAnSHOnPUAEnFUoOMnWAnNAnLInPInLOQnKOnMBENnRENnMENoAnTInKInMOoBAAnTETnKPAnTENnNTUUnSAMBA",
    "A6ED nFAAMAEnKOVUUpGHOMgCOMBINING MARK KOQNDONvTUKWENTISgNJAEMLIgFULL STOPgCOLONiMMAgSEMICOLONgQUESTION MARK",
    "A700 aMODIFIER LETTER CHINESE TONE YIN PINGzONE YANG PINGzONE YIN SHANGzONE YANG SHANGzONE YIN QUzONE YANG QU",
    "A706 zONE YIN RUzONE YANG RUqEXTRA-HIGH DOTTED TONE BARqHIGH DOTTED TONE BARqMID DOTTED TONE BAR",
    "A70B qLOW DOTTED TONE BARqEXTRA-LOW DOTTED TONE BARwHIGH DOTTED LEFT-STEM TONE BAR",
    "A70E qHIGH DOTTED LEFT-STEM TONE BARqMID DOTTED LEFT-STEM TONE BARqLOW DOTTED LEFT-STEM TONE BAR",
    "A711 qEXTRA-LOW DOTTED LEFT-STEM TONE BARwHIGH LEFT-STEM TONE BARqHIGH LEFT-STEM TONE BARqMID LEFT-STEM TONE BAR",
    "A715 qLOW LEFT-STEM TONE BARqEXTRA-LOW LEFT-STEM TONE BARqDOT VERTICAL BARuSLASHuHORIZONTAL BAR",
    "A71A qLOWER RIGHT CORNER ANGLEqRAISED UP ARROWxDOWN ARROWxEXCLAMATION MARKxINVERTED EXCLAMATION MARK",
    "A71F qLOW INVERTED EXCLAMATION MARKqSTRESS AND HIGH TONEzD LOW TONEaLATIN CAPITAL LETTER EGYPTOLOGICAL ALEF",
    "A723 gSMALL LETTER EGYPTOLOGICAL ALEFgCAPITAL LETTER EGYPTOLOGICAL AINgSMALL LETTER EGYPTOLOGICAL AIN",
    "A726 gCAPITAL LETTER HENGgSMALL LETTER HENGgCAPITAL LETTER TZgSMALL LETTER TZgCAPITAL LETTER TRESILLO",
    "A72B gSMALL LETTER TRESILLOgCAPITAL LETTER CUATRILLOgSMALL LETTER CUATRILLOgCAPITAL LETTER CUATRILLO WITH COMMA",
    "A72F gSMALL LETTER CUATRILLO WITH COMMAgLETTER SMALL CAPITAL FzL SgCAPITAL LETTER AAgSMALL LETTER AA",
    "A734 gCAPITAL LETTER AOgSMALL LETTER AOgCAPITAL LETTER AUgSMALL LETTER AUgCAPITAL LETTER AVgSMALL LETTER AV",
    "A73A gCAPITAL LETTER AV WITH HORIZONTAL BARgSMALL LETTER AV WITH HORIZONTAL BARgCAPITAL LETTER AY",
    "A73D gSMALL LETTER AYgCAPITAL LETTER REVERSED C WITH DOTgSMALL LETTER REVERSED C WITH DOT",
    "A740 gCAPITAL LETTER K WITH STROKEgSMALL LETTER K WITH STROKEgCAPITAL LETTER K WITH DIAGONAL STROKE",
    "A743 gSMALL LETTER K WITH DIAGONAL STROKEgCAPITAL LETTER K WITH STROKE AND DIAGONAL STROKE",
    "A745 gSMALL LETTER K WITH STROKE AND DIAGONAL STROKEgCAPITAL LETTER BROKEN LgSMALL LETTER BROKEN L",
    "A748 gCAPITAL LETTER L WITH HIGH STROKEgSMALL LETTER L WITH HIGH STROKE",
    "A74A gCAPITAL LETTER O WITH LONG STROKE OVERLAYgSMALL LETTER O WITH LONG STROKE OVERLAY",
    "A74C gCAPITAL LETTER O WITH LOOPgSMALL LETTER O WITH LOOPgCAPITAL LETTER OOgSMALL LETTER OO",
    "A750 gCAPITAL LETTER P WITH STROKE THROUGH DESCENDERgSMALL LETTER P WITH STROKE THROUGH DESCENDER",
    "A752 gCAPITAL LETTER P WITH FLOURISHgSMALL LETTER P WITH FLOURISHgCAPITAL LETTER P WITH SQUIRREL TAIL",
    "A755 gSMALL LETTER P WITH SQUIRREL TAILgCAPITAL LETTER Q WITH STROKE THROUGH DESCENDER",
    "A757 gSMALL LETTER Q WITH STROKE THROUGH DESCENDERgCAPITAL LETTER Q WITH DIAGONAL STROKE",
    "A759 gSMALL LETTER Q WITH DIAGONAL STROKEgCAPITAL LETTER R ROTUNDAgSMALL LETTER R ROTUNDA",
    "A75C gCAPITAL LETTER RUM ROTUNDAgSMALL LETTER RUM ROTUNDAgCAPITAL LETTER V WITH DIAGONAL STROKE",
    "A75F gSMALL LETTER V WITH DIAGONAL STROKEgCAPITAL LETTER VYgSMALL LETTER VYgCAPITAL LETTER VISIGOTHIC Z",
    "A763 gSMALL LETTER VISIGOTHIC ZgCAPITAL LETTER THORN WITH STROKEgSMALL LETTER THORN WITH STROKE",
    "A766 gCAPITAL LETTER THORN WITH STROKE THROUGH DESCENDERgSMALL LETTER THORN WITH STROKE THROUGH DESCENDER",
    "A768 gCAPITAL LETTER VENDgSMALL LETTER VENDgCAPITAL LETTER ETgSMALL LETTER ETgCAPITAL LETTER ISgSMALL LETTER IS",
    "A76E gCAPITAL LETTER CONgSMALL LETTER CONaMODIFIER LETTER USaLATIN SMALL LETTER DUMtLUMtMUMtNUMtRUM",
    "A776 gLETTER SMALL CAPITAL RUMgSMALL LETTER TUMtUMgCAPITAL LETTER INSULAR DgSMALL LETTER INSULAR D",
    "A77B gCAPITAL LETTER INSULAR FgSMALL LETTER INSULAR FgCAPITAL LETTER INSULAR GvTURNED INSULAR G",
    "A77F gSMALL LETTER TURNED INSULAR GgCAPITAL LETTER TURNED LgSMALL LETTER TURNED LgCAPITAL LETTER INSULAR R",
    "A783 gSMALL LETTER INSULAR RgCAPITAL LETTER INSULAR SgSMALL LETTER INSULAR SgCAPITAL LETTER INSULAR T",
    "A787 gSMALL LETTER INSULAR TaMODIFIER LETTER LOW CIRCUMFLEX ACCENTqCOLONqSHORT EQUALS SIGN",
    "A78B aLATIN CAPITAL LETTER SALTILLOgSMALL LETTER SALTILLOgCAPITAL LETTER TURNED H",
    "A78E gSMALL LETTER L WITH RETROFLEX HOOK AND BELTgLETTER SINOLOGICAL DOTgCAPITAL LETTER N WITH DESCENDER",
    "A791 gSMALL LETTER N WITH DESCENDERgCAPITAL LETTER C WITH BARgSMALL LETTER C WITH BARz PALATAL HOOK",
    "A795 tH WITH PALATAL HOOKgCAPITAL LETTER B WITH FLOURISHgSMALL LETTER B WITH FLOURISH",
    "A798 gCAPITAL LETTER F WITH STROKEgSMALL LETTER F WITH STROKEgCAPITAL LETTER VOLAPUK AEgSMALL LETTER VOLAPUK AE",
    "A79C gCAPITAL LETTER VOLAPUK OEgSMALL LETTER VOLAPUK OEgCAPITAL LETTER VOLAPUK UEgSMALL LETTER VOLAPUK UE",
    "A7A0 gCAPITAL LETTER G WITH OBLIQUE STROKEgSMALL LETTER G WITH OBLIQUE STROKE",
    "A7A2 gCAPITAL LETTER K WITH OBLIQUE STROKEgSMALL LETTER K WITH OBLIQUE STROKE",
    "A7A4 gCAPITAL LETTER N WITH OBLIQUE STROKEgSMALL LETTER N WITH OBLIQUE STROKE",
    "A7A6 gCAPITAL LETTER R WITH OBLIQUE STROKEgSMALL LETTER R WITH OBLIQUE STROKE",
    "A7A8 gCAPITAL LETTER S WITH OBLIQUE STROKEgSMALL LETTER S WITH OBLIQUE STROKEgCAPITAL LETTER H WITH HOOK",
    "A7AB vREVERSED OPEN EvSCRIPT GvL WITH BELTvSMALL CAPITAL IgLETTER SMALL CAPITAL QgCAPITAL LETTER TURNED KzED T",
    "A7B2 vJ WITH CROSSED-TAILvCHIvBETAgSMALL LETTER BETAgCAPITAL LETTER OMEGAgSMALL LETTER OMEGA",
    "A7B8 gCAPITAL LETTER U WITH STROKEgSMALL LETTER U WITH STROKEgCAPITAL LETTER GLOTTAL AgSMALL LETTER GLOTTAL A",
    "A7BC gCAPITAL LETTER GLOTTAL IgSMALL LETTER GLOTTAL IgCAPITAL LETTER GLOTTAL UgSMALL LETTER GLOTTAL U",
    "A7C0 gCAPITAL LETTER OLD POLISH OgSMALL LETTER OLD POLISH OgCAPITAL LETTER ANGLICANA WgSMALL LETTER ANGLICANA W",
    "A7C4 gCAPITAL LETTER C WITH PALATAL HOOKvS WITH HOOKvZ WITH PALATAL HOOKvD WITH SHORT STROKE OVERLAY",
    "A7C8 gSMALL LETTER D WITH SHORT STROKE OVERLAYgCAPITAL LETTER S WITH SHORT STROKE OVERLAY",
    "A7CA gSMALL LETTER S WITH SHORT STROKE OVERLAY",
    "A7D0 gCAPITAL LETTER CLOSED INSULAR GgSMALL LETTER CLOSED INSULAR G",
    "A7D3 tDOUBLE THORN",
    "A7D5 z WYNNgCAPITAL LETTER MIDDLE SCOTS SgSMALL LETTER MIDDLE SCOTS SgCAPITAL LETTER SIGMOID S",
    "A7D9 gSMALL LETTER SIGMOID S",
    "A7F2 aMODIFIER LETTER CAPITAL CyFyQaLATIN CAPITAL LETTER REVERSED HALF HgSMALL LETTER REVERSED HALF H",
    "A7F7 gEPIGRAPHIC LETTER SIDEWAYS IaMODIFIER LETTER CAPITAL H WITH STROKEqSMALL LIGATURE OE",
    "A7FA aLATIN LETTER SMALL CAPITAL TURNED MgEPIGRAPHIC LETTER REVERSED FzEVERSED PyINVERTED Mz LONGAyARCHAIC M",
    "A800 aSYLOTI NAGRI LETTER AuInSIGN DVISVARAnLETTER UuEuOnSIGN HASANTAnLETTER KOvHOuGOvHOnSIGN ANUSVARAnLETTER CO",
    "A80D vHOuJOvHOuTTOwHOuDDOwHOuTOvHOuDOvHOuNOuPOvHOuBOvHOuMOuROuLOuRROuSOuHOnVOWEL SIGN AyIyUyEyOOnPOETRY MARK-1z2",
    "A82A z3z4nSIGN ALTERNATE HASANTA",
    "A830 aNORTH INDIC FRACTION ONE QUARTERzHALFvTHREE QUARTERSvONE SIXTEENTHzEIGHTHvTHREE SIXTEENTHSmQUARTER MARK",
    "A837 mPLACEHOLDER MARKmRUPEE MARKmQUANTITY MARK",
    "A840 aPHAGS-PA LETTER KArHAqGAqNGAqCArHAqJAqNYAqTArHAqDAqNAqPArHAqBAqMAqTSAsHAqDZAqWAqZHArAqSMALL AqYAqRAqLAqSHA",
    "A85B rAqHAqAqIqUqEqOqQAqXAqFAqGGAqEEjSUBJOINED LETTER WAz YAjLETTER TTAsHAqDDAqNNAqALTERNATE YAqVOICELESS SHA",
    "A86F vD HAqASPIRATED FAjSUBJOINED LETTER RAlPERFIXED LETTER RAjLETTER CANDRABINDUjSINGLE HEAD MARK",
    "A875 jDOUBLE HEAD MARKjMARK SHADoDOUBLE SHAD",
    "A880 aSAURASHTRA SIGN ANUSVARAqVISARGAlLETTER AtAsItIsUtUsVOCALIC Rz RRz Lz LLsEtEsAIsOtOsAUsKAtHAsGAtHAsNGAsCA",
    "A898 tHAsJAtHAsNYAsTTAuHAsDDAuHAsNNAsTAtHAsDAtHAsNAsPAtHAsBAtHAsMAsYAsRAsLAsVAsSHAtSAtAsHAsLLA",
    "A8B4 lCONSONANT SIGN HAARUlVOWEL SIGN AAwIxIwUxUwVOCALIC RzALIC RRzALIC LzALIC LLwExEwAIwOxOwAUlSIGN VIRAMA",
    "A8C5 qCANDRABINDU",
    "A8CE lDANDAmOUBLE DANDAmIGIT ZEROrONErTWOsHREErFOURsIVErSIXsEVENrEIGHTrNINE",
    "A8E0 aCOMBINING DEVANAGARI DIGIT ZEROzT ONEzT TWOzT THREEzT FOURzT FIVEzT SIXzT SEVENzT EIGHTzT NINEvLETTER A",
    "A8EB zER UzER KAzER NAzER PAzER RAzER VIvSIGN AVAGRAHAaDEVANAGARI SIGN SPACING CANDRABINDUqCANDRABINDU VIRAMA",
    "A8F4 qDOUBLE CANDRABINDU VIRAMAqCANDRABINDU TWOzDU THREEzDU AVAGRAHAqPUSHPIKAlGAP FILLERlCARETlHEADSTROKE",
    "A8FC lSIGN SIDDHAMlJAIN OMlLETTER AYlVOWEL SIGN AYaKAYAH LI DIGIT ZEROpONEpTWOqHREEpFOURqIVEpSIXqEVENpEIGHTpNINE",
    "A90A jLETTER KArHAqGAqNGAqSArHAqZAqNYAqTAqHTAqNAqPArHAqMAqDAqBAqRAqYAqLAqWAqTHAqHAqVAqCAqAqOEqIqOOjVOWEL UEpEpU",
    "A929 pEEpOjTONE PLOPHUoCALYAt PLOPHUjSIGN CWIoSHYAaREJANG LETTER KAoGAoNGAoTAoDAoNAoPAoBAoMAoCAoJAoNYAoSAoRAoLA",
    "A93F oYAoWAoHAoMBAoNGGApDApYJAoAhVOWEL SIGN IsUsEsAIsOsAUsEUtAhCONSONANT SIGN NGxwRwHhVIRAMA",
    "A95F hSECTION MARKaHANGUL CHOSEONG TIKEUT-MIEUMxPIEUPxSIOSxCIEUCqRIEUL-KIYEOKwSSANGKIYEOKwTIKEUTwSSANGTIKEUT",
    "A968 wMIEUMwPIEUPwSSANGPIEUPwKAPYEOUNPIEUPwSIOSwCIEUCwKHIEUKHqMIEUM-KIYEOKwTIKEUTwSIOSqPIEUP-SIOS-THIEUTH",
    "A973 wKHIEUKHwHIEUHqSSANGSIOS-PIEUPqIEUNG-RIEULwHIEUHqSSANGCIEUC-HIEUHvTHIEUTHqPHIEUPH-HIEUHqHIEUH-SIOS",
    "A97C qSSANGYEORINHIEUH",
    "A980 aJAVANESE SIGN PANYANGGAoCECAKoLAYARoWIGNYANjLETTER AqI KAWIrrIqUqPA CEREKqNGA LELETz RASWADIqEqAIqOqKA",
    "A990 s SASAKtMURDAqGAs MURDAqNGAqCAs MURDAqJAqNYA MURDAqJA MAHAPRANAqNYAqTTAt MAHAPRANAqDDAt MAHAPRANAqNA MURDA",
    "A9A0 qTAs MURDAqDAs MAHAPRANAqNAqPAs MURDAqBAs MURDAqMAqYAqRAs AGUNGqLAqWAqSA MURDAuAHAPRANAsqHAjSIGN CECAK TELU",
    "A9B4 jVOWEL SIGN TARUNGvOLONGuWULUy MELIKuSUKUy MENDUTuTALINGuDIRGA MUREuPEPETjCONSONANT SIGN KERETyPENGKAL",
    "A9BF yCAKRAjPANGKONjLEFT RERENGGANjRIGHT RERENGGANjPADA ANDAPoMADYAoLUHURoWINDUoPANGKAToLINGSApUNGSIoADEGs ADEG",
    "A9CC oPISELEHjTURNED PADA PISELEH",
    "A9CF jPANGRANGKEPjDIGIT ZEROpONEpTWOqHREEpFOURqIVEpSIXqEVENpEIGHTpNINE",
    "A9DE jPADA TIRTA TUMETESoISEN-ISENaMYANMAR LETTER SHAN GHAuCHAuJHAuNNAuBHAiSIGN SHAN SAW",
    "A9E6 iMODIFIER LETTER SHAN REDUPLICATIONiLETTER TAI LAING NYAzFAzGAzGHAzJAzJHAzDDAzDDHAzNNAiTAI LAING DIGIT ZERO",
    "A9F1 yONEyTWOzHREEyFOURzIVEySIXzEVENyEIGHTyNINEiLETTER TAI LAING LLAzDAzDHAzBAzBHA",
    "AA00 aCHAM LETTER AmImUmEmAImOmKAnHAmGAnHAmNGUEoAmCHAoHAmJAnHAmNHUEoAoJAmTAnHAmDAnHAmNUEnAmDDAmPAnPAnHAmBAnHA",
    "AA1F mMUEnAmBBAmYAmRAmLAmVAmSSAnAmHAfVOWEL SIGN AAqIrIqEIqUqOErqAIrUqUEfCONSONANT SIGN YAuRAuLAuWA",
    "AA40 fLETTER FINAL KsGsNGfCONSONANT SIGN FINAL NGfLETTER FINAL CHsTsNsPsYsRsLsSSfCONSONANT SIGN FINAL Mz H",
    "AA50 fDIGIT ZEROlONElTWOmHREElFOURmIVElSIXmEVENlEIGHTlNINE",
    "AA5C fPUNCTUATION SPIRALrDANDAsOUBLE DANDArTRIPLE DANDAaMYANMAR LETTER KHAMTI GAwCAxHAwJAxHAwNYAwTTAyHAwDDAyHA",
    "AA6A xHAwNAwSAwHAxHAwFAiMODIFIER LETTER KHAMTI REDUPLICATIONiLETTER KHAMTI XAwZAwRAjOGOGRAM KHAMTI OAYyQNyHM",
    "AA77 iSYMBOL AITON EXCLAMATIONvONEvTWOiLETTER AITON RAiSIGN PAO KAREN TONEnTAI LAING TONE-2zNE-5",
    "AA7E iLETTER SHWE PALAUNG CHAzNG SHAaTAI VIET LETTER LOW KOqHIGH KOqLOW KHOqHIGH KHOqLOW KHHOqHIGH KHHOqLOW GO",
    "AA87 qHIGH GOqLOW NGOqHIGH NGOqLOW COqHIGH COqLOW CHOqHIGH CHOqLOW SOqHIGH SOqLOW NYOqHIGH NYOqLOW DOqHIGH DO",
    "AA94 qLOW TOqHIGH TOqLOW THOqHIGH THOqLOW NOqHIGH NOqLOW BOqHIGH BOqLOW POqHIGH POqLOW PHOqHIGH PHOqLOW FO",
    "AAA1 qHIGH FOqLOW MOqHIGH MOqLOW YOqHIGH YOqLOW ROqHIGH ROqLOW LOqHIGH LOqLOW VOqHIGH VOqLOW HOqHIGH HOqLOW O",
    "AAAF qHIGH OjMAI KANGjVOWEL AApIpUEqpEpOjMAI KHITjVOWEL IApUEAqApAUEqYqNqMjTONE MAI EKsNUENGsTHOsSONG",
    "AADB jSYMBOL KONqNUENGqSAMqHO HOIqKOI KOIaMEETEI MAYEK LETTER EuOuCHAuNYAuTTAwHAuDDAwHAuNNAuSHAvSAnVOWEL SIGN II",
    "AAEC yUUyAAIzUzAUnCHEIKHANnAHANG KHUDAMoNJInSYLLABLE REPETITION MARKnWORD REPETITION MARKnVOWEL SIGN VISARGA",
    "AAF6 oIRAMA",
    "AB01 aETHIOPIC SYLLABLE TTHUvIvAAvEEwvO",
    "AB09 sDDHUvIvAAvEEwvO",
    "AB11 tZUuIuAAuEEvuO",
    "AB20 sCCHHAwUwIwAAwEExwO",
    "AB28 sBBAuUuIuAAuEEvuO",
    "AB30 aLATIN SMALL LETTER BARRED ALPHAtA REVERSED-SCHWAtBLACKLETTER EuARRED EtE WITH FLOURISHtLENIS F",
    "AB36 tSCRIPT G WITH CROSSED-TAILtL WITH INVERTED LAZY Sz DOUBLE MIDDLE TILDEz MIDDLE RINGtM WITH CROSSED-TAIL",
    "AB3B tN WITH CROSSED-TAILtENG WITH CROSSED-TAILtBLACKLETTER OzETTER O WITH STROKEtOPEN O WITH STROKEtINVERTED OE",
    "AB41 tTURNED OE WITH STROKEz OE WITH HORIZONTAL STROKEz O OPEN-Oz O OPEN-O WITH STROKEtSTIRRUP R",
    "AB46 gLETTER SMALL CAPITAL R WITH RIGHT LEGgSMALL LETTER R WITHOUT HANDLEtDOUBLE RtR WITH CROSSED-TAIL",
    "AB4A tDOUBLE R WITH CROSSED-TAILtSCRIPT Rz R WITH RINGtBASELINE ESHtU WITH SHORT RIGHT LEG",
    "AB4F vBAR WITH SHORT RIGHT LEGuItTURNED UItU WITH LEFT HOOKtCHIw WITH LOW RIGHT RINGzTH LOW LEFT SERIF",
    "AB56 tX WITH LOW RIGHT RINGz LONG LEFT LEGz LONG LEFT LEG AND LOW RIGHT RINGz LONG LEFT LEG WITH SERIF",
    "AB5A tY WITH SHORT RIGHT LEGaMODIFIER BREVE WITH INVERTED BREVEjLETTER SMALL HENGwL WITH INVERTED LAZY S",
    "AB5E zITH MIDDLE TILDEwU WITH LEFT HOOKaLATIN SMALL LETTER SAKHA YATtIOTIFIED EtOPEN OEtUOtINVERTED ALPHA",
    "AB65 aGREEK LETTER SMALL CAPITAL OMEGAaLATIN SMALL LETTER DZ DIGRAPH WITH RETROFLEX HOOK",
    "AB67 tTS DIGRAPH WITH RETROFLEX HOOKuURNED R WITH MIDDLE TILDEaMODIFIER LETTER SMALL TURNED WqLEFT TACK",
    "AB6B qRIGHT TACK",
    "AB70 aCHEROKEE SMALL LETTER AwEwIwOwUwVwGAwKAwGExIxOxUxVwHAxExIxOxUxVwLAxExIxOxUxVwMAxExIxOxUwNAwHNAwNAHxExIxOxU",
    "AB95 xVwQUAyEyIyOyUyVwSAxxExIxOxUxVwDAwTAwDEwTEwDIwTIwDOxUxVxLAwTLAyEyIyOyUyVxSAyEyIyOyUyVwWAxExIxOxUxVwYA",
    "ABC0 aMEETEI MAYEK LETTER KOKuSAMuLAIuMITuPAuNAuCHILuTILuKHOUuNGOUuTHOUuWAIuYANGuHUKuUNuIuPHAMuATIYAuGOKuJHAM",
    "ABD4 uRAIuBAuJILuDILuGHOUuDHOUuBHAMuKOK LONSUMuLAI LONSUMuMIT LONSUMuPA LONSUMuNA LONSUMuTIL LONSUMuNGOU LONSUM",
    "ABE2 uI LONSUMnVOWEL SIGN ONAPyINAPyANAPyYENAPySOUNAPyUNAPyCHEINAPyNUNGnCHEIKHEInLUM IYEKnAPUN IYEK",
    "ABF0 nDIGIT ZEROtONEtTWOuHREEtFOURuIVEtSIXuEVENtEIGHTtNINE",
    "D7B0 aHANGUL JUNGSEONG O-YEOtO-IrYO-AvEuEOrU-YEOtI-IrYU-AEuOrEU-AuEOvuOrI-YA-OvEuEOvtO-ItYOuUtIrARAEA-AxE",
    "D7CB iONGSEONG NIEUN-RIEULxCHIEUCHrSSANGTIKEUTzEUT-PIEUPrTIKEUT-PIEUPySIOSzIOS-KIYEOKyCIEUCzHIEUCHyTHIEUTH",
    "D7D5 rRIEUL-SSANGKIYEOKxKIYEOK-HIEUHrSSANGRIEUL-KHIEUKHrRIEUL-MIEUM-HIEUHxPIEUP-TIKEUTzEUP-PHIEUPHxYESIEUNG",
    "D7DC zORINHIEUH-HIEUHrKAPYEOUNRIEULrMIEUM-NIEUNxSSANGNIEUNrSSANGMIEUMrMIEUM-PIEUP-SIOSxCIEUCrPIEUP-TIKEUT",
    "D7E4 xRIEUL-PHIEUPHxMIEUMrSSANGPIEUPrPIEUP-SIOS-TIKEUTxCIEUCyHIEUCHrSIOS-MIEUMwKAPYEOUNPIEUPsSANGSIOS-KIYEOK",
    "D7ED zS-TIKEUTsIOS-PANSIOSwCIEUCxHIEUCHwTHIEUTHwHIEUHrPANSIOS-PIEUPzKAPYEOUNPIEUPrYESIEUNG-MIEUMz-HIEUH",
    "D7F7 rCIEUC-PIEUPxSSANGPIEUPrSSANGCIEUCrPHIEUPH-SIOSzTHIEUTH",
    "FB00 aLATIN SMALL LIGATURE FFwIwLwFIxLvLONG S TvST",
    "FB13 aARMENIAN SMALL LIGATURE MEN NOWzEN ECHzEN INIyVEW NOWyMEN XEH",
    "FB1D aHEBREW LETTER YOD WITH HIRIQhPOINT JUDEO-SPANISH VARIKAhLIGATURE YIDDISH YOD YOD PATAH",
    "FB20 iETTER ALTERNATIVE AYINoWIDE ALEFtDALETtHEtKAFtLAMEDtFINAL MEMtRESHtTAVoALTERNATIVE PLUS SIGN",
    "FB2A oSHIN WITH SHIN DOTzIN DOTyDAGESH AND SHIN DOTzAGESH AND SIN DOToALEF WITH PATAHyQAMATSyMAPIQ",
    "FB31 oBET WITH DAGESHoGIMEL WITH DAGESHoDALET WITH DAGESHoHE WITH MAPIQoVAV WITH DAGESHoZAYIN WITH DAGESH",
    "FB38 oTET WITH DAGESHoYOD WITH DAGESHoFINAL KAF WITH DAGESHoKAF WITH DAGESHoLAMED WITH DAGESH",
    "FB3E oMEM WITH DAGESH",
    "FB40 oNUN WITH DAGESHoSAMEKH WITH DAGESH",
    "FB43 oFINAL PE WITH DAGESHoPE WITH DAGESH",
    "FB46 oTSADI WITH DAGESHoQOF WITH DAGESHoRESH WITH DAGESHoSHIN WITH DAGESHoTAV WITH DAGESHoVAV WITH HOLAM",
    "FB4C oBET WITH RAFEoKAF WITH RAFEoPE WITH RAFEiIGATURE ALEF LAMEDaARABIC LETTER ALEF WASLA ISOLATED FORM",
    "FB51 zFINAL FORMoBEEH ISOLATED FORMtFINAL FORMtINITIAL FORMtMEDIAL FORMoPEH ISOLATED FORMsFINAL FORM",
    "FB58 sINITIAL FORMsMEDIAL FORMoBEHEH ISOLATED FORMuFINAL FORMuINITIAL FORMuMEDIAL FORMoTTEHEH ISOLATED FORM",
    "FB5F vFINAL FORMvINITIAL FORMvMEDIAL FORMpEHEH ISOLATED FORMuFINAL FORMuINITIAL FORMuMEDIAL FORM",
    "FB66 pTEH ISOLATED FORMtFINAL FORMtINITIAL FORMtMEDIAL FORMoVEH ISOLATED FORMsFINAL FORMsINITIAL FORM",
    "FB6D sMEDIAL FORMoPEHEH ISOLATED FORMuFINAL FORMuINITIAL FORMuMEDIAL FORMoDYEH ISOLATED FORMtFINAL FORM",
    "FB74 tINITIAL FORMtMEDIAL FORMoNYEH ISOLATED FORMtFINAL FORMtINITIAL FORMtMEDIAL FORMoTCHEH ISOLATED FORM",
    "FB7B uFINAL FORMuINITIAL FORMuMEDIAL FORMtEH ISOLATED FORMwFINAL FORMwINITIAL FORMwMEDIAL FORM",
    "FB82 oDDAHAL ISOLATED FORMvFINAL FORMpAHAL ISOLATED FORMuFINAL FORMpUL ISOLATED FORMsFINAL FORM",
    "FB88 pDAL ISOLATED FORMtFINAL FORMoJEH ISOLATED FORMsFINAL FORMoRREH ISOLATED FORMtFINAL FORM",
    "FB8E oKEHEH ISOLATED FORMuFINAL FORMuINITIAL FORMuMEDIAL FORMoGAF ISOLATED FORMsFINAL FORMsINITIAL FORM",
    "FB95 sMEDIAL FORMpUEH ISOLATED FORMtFINAL FORMtINITIAL FORMtMEDIAL FORMoNGOEH ISOLATED FORMuFINAL FORM",
    "FB9C uINITIAL FORMuMEDIAL FORMpOON GHUNNA ISOLATED FORMz FINAL FORMoRNOON ISOLATED FORMuFINAL FORMuINITIAL FORM",
    "FBA3 uMEDIAL FORMoHEH WITH YEH ABOVE ISOLATED FORMzH ABOVE FINAL FORMsGOAL ISOLATED FORMxFINAL FORMxINITIAL FORM",
    "FBA9 xMEDIAL FORMsDOACHASHMEE ISOLATED FORMzHMEE FINAL FORMzHMEE INITIAL FORMzHMEE MEDIAL FORM",
    "FBAE oYEH BARREE ISOLATED FORMzFINAL FORMzWITH HAMZA ABOVE ISOLATED FORMzWITH HAMZA ABOVE FINAL FORM",
    "FBB2 hSYMBOL DOT ABOVEsBELOWoTWO DOTS ABOVExBELOWpHREE DOTS ABOVEzBELOWzPOINTING DOWNWARDS ABOVE",
    "FBB9 zPOINTING DOWNWARDS BELOWoFOUR DOTS ABOVEyBELOWoDOUBLE VERTICAL BAR BELOWoTWO DOTS VERTICALLY ABOVE",
    "FBBE zRTICALLY BELOWoRINGoSMALL TAH ABOVEyBELOWoWASLA ABOVE",
    "FBD3 hLETTER NG ISOLATED FORMrFINAL FORMrINITIAL FORMrMEDIAL FORMoU ISOLATED FORMqFINAL FORMoOE ISOLATED FORM",
    "FBDA rFINAL FORMoYU ISOLATED FORMrFINAL FORMoU WITH HAMZA ABOVE ISOLATED FORMoVE ISOLATED FORMrFINAL FORM",
    "FBE0 oKIRGHIZ OE ISOLATED FORMzFINAL FORMwYU ISOLATED FORMzFINAL FORMoE ISOLATED FORMqFINAL FORMqINITIAL FORM",
    "FBE7 qMEDIAL FORMoUIGHUR KAZAKH KIRGHIZ ALEF MAKSURA INITIAL FORMzKH KIRGHIZ ALEF MAKSURA MEDIAL FORM",
    "FBEA iIGATURE YEH WITH HAMZA ABOVE WITH ALEF ISOLATED FORMzHAMZA ABOVE WITH ALEF FINAL FORM",
    "FBEC zHAMZA ABOVE WITH AE ISOLATED FORMzHAMZA ABOVE WITH AE FINAL FORMzHAMZA ABOVE WITH WAW ISOLATED FORM",
    "FBEF zHAMZA ABOVE WITH WAW FINAL FORMzHAMZA ABOVE WITH U ISOLATED FORMzHAMZA ABOVE WITH U FINAL FORM",
    "FBF2 zHAMZA ABOVE WITH OE ISOLATED FORMzHAMZA ABOVE WITH OE FINAL FORMzHAMZA ABOVE WITH YU ISOLATED FORM",
    "FBF5 zHAMZA ABOVE WITH YU FINAL FORMzHAMZA ABOVE WITH E ISOLATED FORMzHAMZA ABOVE WITH E FINAL FORM",
    "FBF8 zHAMZA ABOVE WITH E INITIAL FORMqUIGHUR KIRGHIZ YEH WITH HAMZA ABOVE WITH ALEF MAKSURA ISOLATED FORM",
    "FBFA zRGHIZ YEH WITH HAMZA ABOVE WITH ALEF MAKSURA FINAL FORM",
    "FBFB zRGHIZ YEH WITH HAMZA ABOVE WITH ALEF MAKSURA INITIAL FORMiETTER FARSI YEH ISOLATED FORMyFINAL FORM",
    "FBFE yINITIAL FORMyMEDIAL FORMiIGATURE YEH WITH HAMZA ABOVE WITH JEEM ISOLATED FORM",
    "FC01 zHAMZA ABOVE WITH HAH ISOLATED FORMzHAMZA ABOVE WITH MEEM ISOLATED FORM",
    "FC03 zHAMZA ABOVE WITH ALEF MAKSURA ISOLATED FORMzHAMZA ABOVE WITH YEH ISOLATED FORMqBEH WITH JEEM ISOLATED FORM",
    "FC06 zHAH ISOLATED FORMzKHAH ISOLATED FORMzMEEM ISOLATED FORMzALEF MAKSURA ISOLATED FORMzYEH ISOLATED FORM",
    "FC0B qTEH WITH JEEM ISOLATED FORMzHAH ISOLATED FORMzKHAH ISOLATED FORMzMEEM ISOLATED FORM",
    "FC0F zALEF MAKSURA ISOLATED FORMzYEH ISOLATED FORMrHEH WITH JEEM ISOLATED FORMz MEEM ISOLATED FORM",
    "FC13 z ALEF MAKSURA ISOLATED FORMz YEH ISOLATED FORMqJEEM WITH HAH ISOLATED FORMz MEEM ISOLATED FORM",
    "FC17 qHAH WITH JEEM ISOLATED FORMzMEEM ISOLATED FORMqKHAH WITH JEEM ISOLATED FORMz HAH ISOLATED FORM",
    "FC1B z MEEM ISOLATED FORMqSEEN WITH JEEM ISOLATED FORMz HAH ISOLATED FORMz KHAH ISOLATED FORM",
    "FC1F z MEEM ISOLATED FORMrAD WITH HAH ISOLATED FORMzMEEM ISOLATED FORMqDAD WITH JEEM ISOLATED FORM",
    "FC23 zHAH ISOLATED FORMzKHAH ISOLATED FORMzMEEM ISOLATED FORMqTAH WITH HAH ISOLATED FORMzMEEM ISOLATED FORM",
    "FC28 qZAH WITH MEEM ISOLATED FORMqAIN WITH JEEM ISOLATED FORMzMEEM ISOLATED FORMqGHAIN WITH JEEM ISOLATED FORM",
    "FC2C zH MEEM ISOLATED FORMqFEH WITH JEEM ISOLATED FORMzHAH ISOLATED FORMzKHAH ISOLATED FORMzMEEM ISOLATED FORM",
    "FC31 zALEF MAKSURA ISOLATED FORMzYEH ISOLATED FORMqQAF WITH HAH ISOLATED FORMzMEEM ISOLATED FORM",
    "FC35 zALEF MAKSURA ISOLATED FORMzYEH ISOLATED FORMqKAF WITH ALEF ISOLATED FORMzJEEM ISOLATED FORM",
    "FC39 zHAH ISOLATED FORMzKHAH ISOLATED FORMzLAM ISOLATED FORMzMEEM ISOLATED FORMzALEF MAKSURA ISOLATED FORM",
    "FC3E zYEH ISOLATED FORMqLAM WITH JEEM ISOLATED FORMzHAH ISOLATED FORMzKHAH ISOLATED FORMzMEEM ISOLATED FORM",
    "FC43 zALEF MAKSURA ISOLATED FORMzYEH ISOLATED FORMqMEEM WITH JEEM ISOLATED FORMz HAH ISOLATED FORM",
    "FC47 z KHAH ISOLATED FORMz MEEM ISOLATED FORMz ALEF MAKSURA ISOLATED FORMz YEH ISOLATED FORM",
    "FC4B qNOON WITH JEEM ISOLATED FORMz HAH ISOLATED FORMz KHAH ISOLATED FORMz MEEM ISOLATED FORM",
    "FC4F z ALEF MAKSURA ISOLATED FORMz YEH ISOLATED FORMqHEH WITH JEEM ISOLATED FORMzMEEM ISOLATED FORM",
    "FC53 zALEF MAKSURA ISOLATED FORMzYEH ISOLATED FORMqYEH WITH JEEM ISOLATED FORMzHAH ISOLATED FORM",
    "FC57 zKHAH ISOLATED FORMzMEEM ISOLATED FORMzALEF MAKSURA ISOLATED FORMzYEH ISOLATED FORM",
    "FC5B qTHAL WITH SUPERSCRIPT ALEF ISOLATED FORMqREH WITH SUPERSCRIPT ALEF ISOLATED FORM",
    "FC5D qALEF MAKSURA WITH SUPERSCRIPT ALEF ISOLATED FORMqSHADDA WITH DAMMATAN ISOLATED FORM",
    "FC5F zTH KASRATAN ISOLATED FORMzTH FATHA ISOLATED FORMzTH DAMMA ISOLATED FORMzTH KASRA ISOLATED FORM",
    "FC63 zTH SUPERSCRIPT ALEF ISOLATED FORMqYEH WITH HAMZA ABOVE WITH REH FINAL FORM",
    "FC65 zHAMZA ABOVE WITH ZAIN FINAL FORMzHAMZA ABOVE WITH MEEM FINAL FORMzHAMZA ABOVE WITH NOON FINAL FORM",
    "FC68 zHAMZA ABOVE WITH ALEF MAKSURA FINAL FORMzHAMZA ABOVE WITH YEH FINAL FORMqBEH WITH REH FINAL FORM",
    "FC6B zZAIN FINAL FORMzMEEM FINAL FORMzNOON FINAL FORMzALEF MAKSURA FINAL FORMzYEH FINAL FORM",
    "FC70 qTEH WITH REH FINAL FORMzZAIN FINAL FORMzMEEM FINAL FORMzNOON FINAL FORMzALEF MAKSURA FINAL FORM",
    "FC75 zYEH FINAL FORMrHEH WITH REH FINAL FORMz ZAIN FINAL FORMz MEEM FINAL FORMz NOON FINAL FORM",
    "FC7A z ALEF MAKSURA FINAL FORMz YEH FINAL FORMqFEH WITH ALEF MAKSURA FINAL FORMzYEH FINAL FORM",
    "FC7E qQAF WITH ALEF MAKSURA FINAL FORMzYEH FINAL FORMqKAF WITH ALEF FINAL FORMzLAM FINAL FORMzMEEM FINAL FORM",
    "FC83 zALEF MAKSURA FINAL FORMzYEH FINAL FORMqLAM WITH MEEM FINAL FORMzALEF MAKSURA FINAL FORMzYEH FINAL FORM",
    "FC88 qMEEM WITH ALEF FINAL FORMz MEEM FINAL FORMqNOON WITH REH FINAL FORMz ZAIN FINAL FORMz MEEM FINAL FORM",
    "FC8D z NOON FINAL FORMz ALEF MAKSURA FINAL FORMz YEH FINAL FORMqALEF MAKSURA WITH SUPERSCRIPT ALEF FINAL FORM",
    "FC91 qYEH WITH REH FINAL FORMzZAIN FINAL FORMzMEEM FINAL FORMzNOON FINAL FORMzALEF MAKSURA FINAL FORM",
    "FC96 zYEH FINAL FORMzHAMZA ABOVE WITH JEEM INITIAL FORMzHAMZA ABOVE WITH HAH INITIAL FORM",
    "FC99 zHAMZA ABOVE WITH KHAH INITIAL FORMzHAMZA ABOVE WITH MEEM INITIAL FORMzHAMZA ABOVE WITH HEH INITIAL FORM",
    "FC9C qBEH WITH JEEM INITIAL FORMzHAH INITIAL FORMzKHAH INITIAL FORMzMEEM INITIAL FORMzHEH INITIAL FORM",
    "FCA1 qTEH WITH JEEM INITIAL FORMzHAH INITIAL FORMzKHAH INITIAL FORMzMEEM INITIAL FORMzHEH INITIAL FORM",
    "FCA6 rHEH WITH MEEM INITIAL FORMqJEEM WITH HAH INITIAL FORMz MEEM INITIAL FORMqHAH WITH JEEM INITIAL FORM",
    "FCAA zMEEM INITIAL FORMqKHAH WITH JEEM INITIAL FORMz MEEM INITIAL FORMqSEEN WITH JEEM INITIAL FORM",
    "FCAE z HAH INITIAL FORMz KHAH INITIAL FORMz MEEM INITIAL FORMrAD WITH HAH INITIAL FORMzKHAH INITIAL FORM",
    "FCB3 zMEEM INITIAL FORMqDAD WITH JEEM INITIAL FORMzHAH INITIAL FORMzKHAH INITIAL FORMzMEEM INITIAL FORM",
    "FCB8 qTAH WITH HAH INITIAL FORMqZAH WITH MEEM INITIAL FORMqAIN WITH JEEM INITIAL FORMzMEEM INITIAL FORM",
    "FCBC qGHAIN WITH JEEM INITIAL FORMzH MEEM INITIAL FORMqFEH WITH JEEM INITIAL FORMzHAH INITIAL FORM",
    "FCC0 zKHAH INITIAL FORMzMEEM INITIAL FORMqQAF WITH HAH INITIAL FORMzMEEM INITIAL FORMqKAF WITH JEEM INITIAL FORM",
    "FCC5 zHAH INITIAL FORMzKHAH INITIAL FORMzLAM INITIAL FORMzMEEM INITIAL FORMqLAM WITH JEEM INITIAL FORM",
    "FCCA zHAH INITIAL FORMzKHAH INITIAL FORMzMEEM INITIAL FORMzHEH INITIAL FORMqMEEM WITH JEEM INITIAL FORM",
    "FCCF z HAH INITIAL FORMz KHAH INITIAL FORMz MEEM INITIAL FORMqNOON WITH JEEM INITIAL FORMz HAH INITIAL FORM",
    "FCD4 z KHAH INITIAL FORMz MEEM INITIAL FORMz HEH INITIAL FORMqHEH WITH JEEM INITIAL FORMzMEEM INITIAL FORM",
    "FCD9 zSUPERSCRIPT ALEF INITIAL FORMqYEH WITH JEEM INITIAL FORMzHAH INITIAL FORMzKHAH INITIAL FORM",
    "FCDD zMEEM INITIAL FORMzHEH INITIAL FORMzHAMZA ABOVE WITH MEEM MEDIAL FORMzHAMZA ABOVE WITH HEH MEDIAL FORM",
    "FCE1 qBEH WITH MEEM MEDIAL FORMzHEH MEDIAL FORMqTEH WITH MEEM MEDIAL FORMzHEH MEDIAL FORM",
    "FCE5 rHEH WITH MEEM MEDIAL FORMz HEH MEDIAL FORMqSEEN WITH MEEM MEDIAL FORMz HEH MEDIAL FORM",
    "FCE9 rHEEN WITH MEEM MEDIAL FORMzH HEH MEDIAL FORMqKAF WITH LAM MEDIAL FORMzMEEM MEDIAL FORM",
    "FCED qLAM WITH MEEM MEDIAL FORMqNOON WITH MEEM MEDIAL FORMz HEH MEDIAL FORMqYEH WITH MEEM MEDIAL FORM",
    "FCF1 zHEH MEDIAL FORMqSHADDA WITH FATHA MEDIAL FORMzTH DAMMA MEDIAL FORMzTH KASRA MEDIAL FORM",
    "FCF5 qTAH WITH ALEF MAKSURA ISOLATED FORMzYEH ISOLATED FORMqAIN WITH ALEF MAKSURA ISOLATED FORM",
    "FCF8 zYEH ISOLATED FORMqGHAIN WITH ALEF MAKSURA ISOLATED FORMzH YEH ISOLATED FORM",
    "FCFB qSEEN WITH ALEF MAKSURA ISOLATED FORMz YEH ISOLATED FORMrHEEN WITH ALEF MAKSURA ISOLATED FORM",
    "FCFE zH YEH ISOLATED FORMqHAH WITH ALEF MAKSURA ISOLATED FORMzYEH ISOLATED FORM",
    "FD01 qJEEM WITH ALEF MAKSURA ISOLATED FORMz YEH ISOLATED FORMqKHAH WITH ALEF MAKSURA ISOLATED FORM",
    "FD04 z YEH ISOLATED FORMqSAD WITH ALEF MAKSURA ISOLATED FORMzYEH ISOLATED FORM",
    "FD07 qDAD WITH ALEF MAKSURA ISOLATED FORMzYEH ISOLATED FORMqSHEEN WITH JEEM ISOLATED FORMzH HAH ISOLATED FORM",
    "FD0B zH KHAH ISOLATED FORMzH MEEM ISOLATED FORMzH REH ISOLATED FORMrEEN WITH REH ISOLATED FORM",
    "FD0F rAD WITH REH ISOLATED FORMqDAD WITH REH ISOLATED FORMqTAH WITH ALEF MAKSURA FINAL FORMzYEH FINAL FORM",
    "FD13 qAIN WITH ALEF MAKSURA FINAL FORMzYEH FINAL FORMqGHAIN WITH ALEF MAKSURA FINAL FORMzH YEH FINAL FORM",
    "FD17 qSEEN WITH ALEF MAKSURA FINAL FORMz YEH FINAL FORMrHEEN WITH ALEF MAKSURA FINAL FORMzH YEH FINAL FORM",
    "FD1B qHAH WITH ALEF MAKSURA FINAL FORMzYEH FINAL FORMqJEEM WITH ALEF MAKSURA FINAL FORMz YEH FINAL FORM",
    "FD1F qKHAH WITH ALEF MAKSURA FINAL FORMz YEH FINAL FORMqSAD WITH ALEF MAKSURA FINAL FORMzYEH FINAL FORM",
    "FD23 qDAD WITH ALEF MAKSURA FINAL FORMzYEH FINAL FORMqSHEEN WITH JEEM FINAL FORMzH HAH FINAL FORM",
    "FD27 zH KHAH FINAL FORMzH MEEM FINAL FORMzH REH FINAL FORMrEEN WITH REH FINAL FORMrAD WITH REH FINAL FORM",
    "FD2C qDAD WITH REH FINAL FORMqSHEEN WITH JEEM INITIAL FORMzH HAH INITIAL FORMzH KHAH INITIAL FORM",
    "FD30 zH MEEM INITIAL FORMrEEN WITH HEH INITIAL FORMrHEEN WITH HEH INITIAL FORMqTAH WITH MEEM INITIAL FORM",
    "FD34 qSEEN WITH JEEM MEDIAL FORMz HAH MEDIAL FORMz KHAH MEDIAL FORMrHEEN WITH JEEM MEDIAL FORMzH HAH MEDIAL FORM",
    "FD39 zH KHAH MEDIAL FORMqTAH WITH MEEM MEDIAL FORMqZAH WITH MEEM MEDIAL FORMqALEF WITH FATHATAN FINAL FORM",
    "FD3D z FATHATAN ISOLATED FORMaORNATE LEFT PARENTHESIShRIGHT PARENTHESISaARABIC LIGATURE RAHIMAHU ALLAAH",
    "FD41 sDI ALLAAHU ANHzAHU ANHAAzAHU ANHUMzAHU ANHUMAAzAHU ANHUNNAqSALLALLAAHU ALAYHI WA-AALIHqALAYHI AS-SALAAM",
    "FD48 wM AS-SALAAMxAA AS-SALAAMw AS-SALAATU WAS-SALAAMqQUDDISA SIRRAHqSALLALLAHU ALAYHI WAAALIHEE WA-SALLAM",
    "FD4D qALAYHAA AS-SALAAMqTABAARAKA WA-TAAALAAqRAHIMAHUM ALLAAHqTEH WITH JEEM WITH MEEM INITIAL FORM",
    "FD51 zHAH WITH JEEM FINAL FORMzHAH WITH JEEM INITIAL FORMzHAH WITH MEEM INITIAL FORMzKHAH WITH MEEM INITIAL FORM",
    "FD55 zMEEM WITH JEEM INITIAL FORMzMEEM WITH HAH INITIAL FORMzMEEM WITH KHAH INITIAL FORM",
    "FD58 qJEEM WITH MEEM WITH HAH FINAL FORMz MEEM WITH HAH INITIAL FORMqHAH WITH MEEM WITH YEH FINAL FORM",
    "FD5B zMEEM WITH ALEF MAKSURA FINAL FORMqSEEN WITH HAH WITH JEEM INITIAL FORMz JEEM WITH HAH INITIAL FORM",
    "FD5E z JEEM WITH ALEF MAKSURA FINAL FORMz MEEM WITH HAH FINAL FORMz MEEM WITH HAH INITIAL FORM",
    "FD61 z MEEM WITH JEEM INITIAL FORMz MEEM WITH MEEM FINAL FORMz MEEM WITH MEEM INITIAL FORM",
    "FD64 rAD WITH HAH WITH HAH FINAL FORMzHAH WITH HAH INITIAL FORMzMEEM WITH MEEM FINAL FORM",
    "FD67 rHEEN WITH HAH WITH MEEM FINAL FORMzH HAH WITH MEEM INITIAL FORMzH JEEM WITH YEH FINAL FORM",
    "FD6A zH MEEM WITH KHAH FINAL FORMzH MEEM WITH KHAH INITIAL FORMzH MEEM WITH MEEM FINAL FORM",
    "FD6D zH MEEM WITH MEEM INITIAL FORMqDAD WITH HAH WITH ALEF MAKSURA FINAL FORMzKHAH WITH MEEM FINAL FORM",
    "FD70 zKHAH WITH MEEM INITIAL FORMqTAH WITH MEEM WITH HAH FINAL FORMzMEEM WITH HAH INITIAL FORM",
    "FD73 zMEEM WITH MEEM INITIAL FORMzMEEM WITH YEH FINAL FORMqAIN WITH JEEM WITH MEEM FINAL FORM",
    "FD76 zMEEM WITH MEEM FINAL FORMzMEEM WITH MEEM INITIAL FORMzMEEM WITH ALEF MAKSURA FINAL FORM",
    "FD79 qGHAIN WITH MEEM WITH MEEM FINAL FORMzH MEEM WITH YEH FINAL FORMzH MEEM WITH ALEF MAKSURA FINAL FORM",
    "FD7C qFEH WITH KHAH WITH MEEM FINAL FORMzKHAH WITH MEEM INITIAL FORMqQAF WITH MEEM WITH HAH FINAL FORM",
    "FD7F zMEEM WITH MEEM FINAL FORMqLAM WITH HAH WITH MEEM FINAL FORMzHAH WITH YEH FINAL FORM",
    "FD82 zHAH WITH ALEF MAKSURA FINAL FORMzJEEM WITH JEEM INITIAL FORMzJEEM WITH JEEM FINAL FORM",
    "FD85 zKHAH WITH MEEM FINAL FORMzKHAH WITH MEEM INITIAL FORMzMEEM WITH HAH FINAL FORMzMEEM WITH HAH INITIAL FORM",
    "FD89 qMEEM WITH HAH WITH JEEM INITIAL FORMz HAH WITH MEEM INITIAL FORMz HAH WITH YEH FINAL FORM",
    "FD8C z JEEM WITH HAH INITIAL FORMz JEEM WITH MEEM INITIAL FORMz KHAH WITH JEEM INITIAL FORM",
    "FD8F z KHAH WITH MEEM INITIAL FORM",
    "FD92 z JEEM WITH KHAH INITIAL FORMqHEH WITH MEEM WITH JEEM INITIAL FORMzMEEM WITH MEEM INITIAL FORM",
    "FD95 qNOON WITH HAH WITH MEEM INITIAL FORMz HAH WITH ALEF MAKSURA FINAL FORMz JEEM WITH MEEM FINAL FORM",
    "FD98 z JEEM WITH MEEM INITIAL FORMz JEEM WITH ALEF MAKSURA FINAL FORMz MEEM WITH YEH FINAL FORM",
    "FD9B z MEEM WITH ALEF MAKSURA FINAL FORMqYEH WITH MEEM WITH MEEM FINAL FORMzMEEM WITH MEEM INITIAL FORM",
    "FD9E qBEH WITH KHAH WITH YEH FINAL FORMqTEH WITH JEEM WITH YEH FINAL FORMzJEEM WITH ALEF MAKSURA FINAL FORM",
    "FDA1 zKHAH WITH YEH FINAL FORMzKHAH WITH ALEF MAKSURA FINAL FORMzMEEM WITH YEH FINAL FORM",
    "FDA4 zMEEM WITH ALEF MAKSURA FINAL FORMqJEEM WITH MEEM WITH YEH FINAL FORMz HAH WITH ALEF MAKSURA FINAL FORM",
    "FDA7 z MEEM WITH ALEF MAKSURA FINAL FORMqSEEN WITH KHAH WITH ALEF MAKSURA FINAL FORM",
    "FDA9 rAD WITH HAH WITH YEH FINAL FORMrHEEN WITH HAH WITH YEH FINAL FORMqDAD WITH HAH WITH YEH FINAL FORM",
    "FDAC qLAM WITH JEEM WITH YEH FINAL FORMzMEEM WITH YEH FINAL FORMqYEH WITH HAH WITH YEH FINAL FORM",
    "FDAF zJEEM WITH YEH FINAL FORMzMEEM WITH YEH FINAL FORMqMEEM WITH MEEM WITH YEH FINAL FORM",
    "FDB2 qQAF WITH MEEM WITH YEH FINAL FORMqNOON WITH HAH WITH YEH FINAL FORMqQAF WITH MEEM WITH HAH INITIAL FORM",
    "FDB5 qLAM WITH HAH WITH MEEM INITIAL FORMqAIN WITH MEEM WITH YEH FINAL FORMqKAF WITH MEEM WITH YEH FINAL FORM",
    "FDB8 qNOON WITH JEEM WITH HAH INITIAL FORMqMEEM WITH KHAH WITH YEH FINAL FORM",
    "FDBA qLAM WITH JEEM WITH MEEM INITIAL FORMqKAF WITH MEEM WITH MEEM FINAL FORMqLAM WITH JEEM WITH MEEM FINAL FORM",
    "FDBD qNOON WITH JEEM WITH HAH FINAL FORMqJEEM WITH HAH WITH YEH FINAL FORMqHAH WITH JEEM WITH YEH FINAL FORM",
    "FDC0 qMEEM WITH JEEM WITH YEH FINAL FORMqFEH WITH MEEM WITH YEH FINAL FORMqBEH WITH HAH WITH YEH FINAL FORM",
    "FDC3 qKAF WITH MEEM WITH MEEM INITIAL FORMqAIN WITH JEEM WITH MEEM INITIAL FORM",
    "FDC5 qSAD WITH MEEM WITH MEEM INITIAL FORMrEEN WITH KHAH WITH YEH FINAL FORMqNOON WITH JEEM WITH YEH FINAL FORM",
    "FDCF qSALAAMUHU ALAYNAA",
    "FDF0 tLA USED AS KORANIC STOP SIGN ISOLATED FORMqQALA USED AS KORANIC STOP SIGN ISOLATED FORM",
    "FDF2 qALLAH ISOLATED FORMrKBAR ISOLATED FORMqMOHAMMAD ISOLATED FORMqSALAM ISOLATED FORMqRASOUL ISOLATED FORM",
    "FDF7 qALAYHE ISOLATED FORMqWASALLAM ISOLATED FORMqSALLA ISOLATED FORMvLLAHOU ALAYHE WASALLAMqJALLAJALALOUHOU",
    "FDFC aRIAL SIGNaARABIC LIGATURE BISMILLAH AR-RAHMAN AR-RAHEEMqSUBHAANAHU WA TAAALAAqAZZA WA JALL",
    "FE00 aVARIATION SELECTOR-1t2t3t4t5t6t7t8t9t10u1u2u3u4u5u6aPRESENTATION FORM FOR VERTICAL COMMA",
    "FE11 zTICAL IDEOGRAPHIC COMMAzTICAL IDEOGRAPHIC FULL STOPzTICAL COLONzTICAL SEMICOLONzTICAL EXCLAMATION MARK",
    "FE16 zTICAL QUESTION MARKzTICAL LEFT WHITE LENTICULAR BRACKETzTICAL RIGHT WHITE LENTICULAR BRAKCET",
    "FE19 zTICAL HORIZONTAL ELLIPSIS",
    "FE20 aCOMBINING LIGATURE LEFT HALFtRIGHT HALFkDOUBLE TILDE LEFT HALFxRIGHT HALFkMACRON LEFT HALFrRIGHT HALF",
    "FE26 kCONJOINING MACRONkLIGATURE LEFT HALF BELOWtRIGHT HALF BELOWkTILDE LEFT HALF BELOWqRIGHT HALF BELOW",
    "FE2B kMACRON LEFT HALF BELOWrRIGHT HALF BELOWkCONJOINING MACRON BELOWlYRILLIC TITLO LEFT HALFzRIGHT HALF",
    "FE30 aPRESENTATION FORM FOR VERTICAL TWO DOT LEADERzTICAL EM DASHzTICAL EN DASHzTICAL LOW LINE",
    "FE34 zTICAL WAVY LOW LINEzTICAL LEFT PARENTHESISzTICAL RIGHT PARENTHESISzTICAL LEFT CURLY BRACKET",
    "FE38 zTICAL RIGHT CURLY BRACKETzTICAL LEFT TORTOISE SHELL BRACKETzTICAL RIGHT TORTOISE SHELL BRACKET",
    "FE3B zTICAL LEFT BLACK LENTICULAR BRACKETzTICAL RIGHT BLACK LENTICULAR BRACKETzTICAL LEFT DOUBLE ANGLE BRACKET",
    "FE3E zTICAL RIGHT DOUBLE ANGLE BRACKETzTICAL LEFT ANGLE BRACKETzTICAL RIGHT ANGLE BRACKET",
    "FE41 zTICAL LEFT CORNER BRACKETzTICAL RIGHT CORNER BRACKETzTICAL LEFT WHITE CORNER BRACKET",
    "FE44 zTICAL RIGHT WHITE CORNER BRACKETaSESAME DOTaWHITE SESAME DOT",
    "FE47 aPRESENTATION FORM FOR VERTICAL LEFT SQUARE BRACKETzTICAL RIGHT SQUARE BRACKETaDASHED OVERLINE",
    "FE4A aCENTRELINE OVERLINEaWAVY OVERLINEaDOUBLE WAVY OVERLINEbASHED LOW LINEaCENTRELINE LOW LINEaWAVY LOW LINE",
    "FE50 aSMALL COMMAgIDEOGRAPHIC COMMAgFULL STOP",
    "FE54 gSEMICOLONgCOLONgQUESTION MARKgEXCLAMATION MARKhM DASHgLEFT PARENTHESISgRIGHT PARENTHESIS",
    "FE5B gLEFT CURLY BRACKETgRIGHT CURLY BRACKETgLEFT TORTOISE SHELL BRACKETgRIGHT TORTOISE SHELL BRACKET",
    "FE5F gNUMBER SIGNgAMPERSANDhSTERISKgPLUS SIGNgHYPHEN-MINUSgLESS-THAN SIGNgGREATER-THAN SIGNgEQUALS SIGN",
    "FE68 gREVERSE SOLIDUSgDOLLAR SIGNgPERCENT SIGNgCOMMERCIAL AT",
    "FE70 aARABIC FATHATAN ISOLATED FORMhTATWEEL WITH FATHATAN ABOVEhDAMMATAN ISOLATED FORMhTAIL FRAGMENT",
    "FE74 hKASRATAN ISOLATED FORM",
    "FE76 hFATHA ISOLATED FORMnMEDIAL FORMhDAMMA ISOLATED FORMnMEDIAL FORMhKASRA ISOLATED FORMnMEDIAL FORM",
    "FE7C hSHADDA ISOLATED FORMoMEDIAL FORMiUKUN ISOLATED FORMnMEDIAL FORMhLETTER HAMZA ISOLATED FORM",
    "FE81 oALEF WITH MADDA ABOVE ISOLATED FORMzADDA ABOVE FINAL FORMyHAMZA ABOVE ISOLATED FORMzAMZA ABOVE FINAL FORM",
    "FE85 oWAW WITH HAMZA ABOVE ISOLATED FORMzMZA ABOVE FINAL FORMoALEF WITH HAMZA BELOW ISOLATED FORM",
    "FE88 zAMZA BELOW FINAL FORMoYEH WITH HAMZA ABOVE ISOLATED FORMzMZA ABOVE FINAL FORMzMZA ABOVE INITIAL FORM",
    "FE8C zMZA ABOVE MEDIAL FORMoALEF ISOLATED FORMtFINAL FORMoBEH ISOLATED FORMsFINAL FORMsINITIAL FORMsMEDIAL FORM",
    "FE93 oTEH MARBUTA ISOLATED FORMz FINAL FORMsISOLATED FORMsFINAL FORMsINITIAL FORMsMEDIAL FORMpHEH ISOLATED FORM",
    "FE9A tFINAL FORMtINITIAL FORMtMEDIAL FORMoJEEM ISOLATED FORMtFINAL FORMtINITIAL FORMtMEDIAL FORM",
    "FEA1 oHAH ISOLATED FORMsFINAL FORMsINITIAL FORMsMEDIAL FORMoKHAH ISOLATED FORMtFINAL FORMtINITIAL FORM",
    "FEA8 tMEDIAL FORMoDAL ISOLATED FORMsFINAL FORMoTHAL ISOLATED FORMtFINAL FORMoREH ISOLATED FORMsFINAL FORM",
    "FEAF oZAIN ISOLATED FORMtFINAL FORMoSEEN ISOLATED FORMtFINAL FORMtINITIAL FORMtMEDIAL FORMpHEEN ISOLATED FORM",
    "FEB6 uFINAL FORMuINITIAL FORMuMEDIAL FORMpAD ISOLATED FORMsFINAL FORMsINITIAL FORMsMEDIAL FORMoDAD ISOLATED FORM",
    "FEBE sFINAL FORMsINITIAL FORMsMEDIAL FORMoTAH ISOLATED FORMsFINAL FORMsINITIAL FORMsMEDIAL FORM",
    "FEC5 oZAH ISOLATED FORMsFINAL FORMsINITIAL FORMsMEDIAL FORMoAIN ISOLATED FORMsFINAL FORMsINITIAL FORM",
    "FECC sMEDIAL FORMoGHAIN ISOLATED FORMuFINAL FORMuINITIAL FORMuMEDIAL FORMoFEH ISOLATED FORMsFINAL FORM",
    "FED3 sINITIAL FORMsMEDIAL FORMoQAF ISOLATED FORMsFINAL FORMsINITIAL FORMsMEDIAL FORMoKAF ISOLATED FORM",
    "FEDA sFINAL FORMsINITIAL FORMsMEDIAL FORMoLAM ISOLATED FORMsFINAL FORMsINITIAL FORMsMEDIAL FORM",
    "FEE1 oMEEM ISOLATED FORMtFINAL FORMtINITIAL FORMtMEDIAL FORMoNOON ISOLATED FORMtFINAL FORMtINITIAL FORM",
    "FEE8 tMEDIAL FORMoHEH ISOLATED FORMsFINAL FORMsINITIAL FORMsMEDIAL FORMoWAW ISOLATED FORMsFINAL FORM",
    "FEEF oALEF MAKSURA ISOLATED FORMzA FINAL FORMoYEH ISOLATED FORMsFINAL FORMsINITIAL FORMsMEDIAL FORM",
    "FEF5 iIGATURE LAM WITH ALEF WITH MADDA ABOVE ISOLATED FORMzALEF WITH MADDA ABOVE FINAL FORM",
    "FEF7 zALEF WITH HAMZA ABOVE ISOLATED FORMzALEF WITH HAMZA ABOVE FINAL FORMzALEF WITH HAMZA BELOW ISOLATED FORM",
    "FEFA zALEF WITH HAMZA BELOW FINAL FORMzALEF ISOLATED FORMzALEF FINAL FORM",
    "FEFF aZERO WIDTH NO-BREAK SPACE",
    "FF01 aFULLWIDTH EXCLAMATION MARKkQUOTATION MARKkNUMBER SIGNkDOLLAR SIGNkPERCENT SIGNkAMPERSANDlPOSTROPHE",
    "FF08 kLEFT PARENTHESISkRIGHT PARENTHESISkASTERISKkPLUS SIGNkCOMMAkHYPHEN-MINUSkFULL STOPkSOLIDUSkDIGIT ZEROqONE",
    "FF12 qTWOrHREEqFOURrIVEqSIXrEVENqEIGHTqNINEkCOLONkSEMICOLONkLESS-THAN SIGNkEQUALS SIGNkGREATER-THAN SIGN",
    "FF1F kQUESTION MARKkCOMMERCIAL ATkLATIN CAPITAL LETTER AzETTER BzETTER CzETTER DzETTER EzETTER FzETTER GzETTER H",
    "FF29 zETTER IzETTER JzETTER KzETTER LzETTER MzETTER NzETTER OzETTER PzETTER QzETTER RzETTER SzETTER TzETTER U",
    "FF36 zETTER VzETTER WzETTER XzETTER YzETTER ZlEFT SQUARE BRACKETkREVERSE SOLIDUSlIGHT SQUARE BRACKET",
    "FF3E kCIRCUMFLEX ACCENTkLOW LINEkGRAVE ACCENTkLATIN SMALL LETTER AzTER BzTER CzTER DzTER EzTER FzTER GzTER H",
    "FF49 zTER IzTER JzTER KzTER LzTER MzTER NzTER OzTER PzTER QzTER RzTER SzTER TzTER UzTER VzTER WzTER XzTER Y",
    "FF5A zTER ZlEFT CURLY BRACKETkVERTICAL LINEkRIGHT CURLY BRACKETkTILDEkLEFT WHITE PARENTHESIS",
    "FF60 kRIGHT WHITE PARENTHESISaHALFWIDTH IDEOGRAPHIC FULL STOPkLEFT CORNER BRACKETkRIGHT CORNER BRACKET",
    "FF64 kIDEOGRAPHIC COMMAkKATAKANA MIDDLE DOTtLETTER WOz SMALL Az SMALL Iz SMALL Uz SMALL Ez SMALL Oz SMALL YA",
    "FF6D z SMALL YUz SMALL YOz SMALL TUs-HIRAGANA PROLONGED SOUND MARKs LETTER Az Iz Uz Ez Oz KAz KIz KUz KEz KOz SA",
    "FF7C z SIz SUz SEz SOz TAz TIz TUz TEz TOz NAz NIz NUz NEz NOz HAz HIz HUz HEz HOz MAz MIz MUz MEz MOz YAz YU",
    "FF96 z YOz RAz RIz RUz REz ROz WAz NtVOICED SOUND MARKtSEMI-VOICED SOUND MARKkHANGUL FILLERrLETTER KIYEOK",
    "FFA2 ySSANGKIYEOKyKIYEOK-SIOSyNIEUNzIEUN-CIEUCzIEUN-HIEUHyTIKEUTySSANGTIKEUTyRIEULzIEUL-KIYEOKzIEUL-MIEUM",
    "FFAC zIEUL-PIEUPzIEUL-SIOSzIEUL-THIEUTHzIEUL-PHIEUPHzIEUL-HIEUHyMIEUMyPIEUPySSANGPIEUPyPIEUP-SIOSySIOSzSANGSIOS",
    "FFB7 yIEUNGyCIEUCySSANGCIEUCyCHIEUCHyKHIEUKHyTHIEUTHyPHIEUPHyHIEUH",
    "FFC2 yAzEyYAzAEyEOz",
    "FFCA yYEOzEyOyWAzAEyOE",
    "FFD2 yYOyUyWEOzEzIyYU",
    "FFDA yEUyYIyI",
    "FFE0 aFULLWIDTH CENT SIGNkPOUND SIGNkNOT SIGNkMACRONkBROKEN BARkYEN SIGNkWON SIGN",
    "FFE8 aHALFWIDTH FORMS LIGHT VERTICALkLEFTWARDS ARROWkUPWARDS ARROWkRIGHTWARDS ARROWkDOWNWARDS ARROWkBLACK SQUARE",
    "FFEE kWHITE CIRCLE",
    "FFF9 aINTERLINEAR ANNOTATION ANCHORxSEPARATORxTERMINATORaOBJECT REPLACEMENT CHARACTERaREPLACEMENT CHARACTER" ]

end RestDispatch.Text
