set_option autoImplicit false

/-!
Names of characters from U+12000 to U+1CFFF (Unicode 14.0). A row starts with the code of its first character; the
names of neighbours follow. A small letter before a name says how many letters are those of the name before it: `a` none,
`b` one, and so on.
-/
namespace RestDispatch.Text

def hieroglyphNames : List String := [
    "12000 aCUNEIFORM SIGN Aq TIMES AxBADxGAN2 TENUxHAxIGIxLAGAR GUNUxMUSHxSAGq2qBr TIMES ASH2yDUN3 GUNUyGALzAN2 TENU",
    "1200F yHAyIGI GUNUzMINyLAGABySHESHyU PLUS U PLUS UsGUNUr2s TIMES BALAGzGAN2 TENUzME PLUS ENzSHA3zTAK4qDqK",
    "1201E r TIMES ERIN2ySHITA PLUS GISHqLr TIMES ALyDIM2yGISHyHAyKAD3zIySHEyUSHrANrEPHqMARt TIMES SHEqNr OVER AN",
    "1202F sTHREE TIMESsPLUS NAGA OPPOSING AN PLUS NAGAzGA SQUAREDrSHEqPINqRADt TIMES KURrKABqSAL2rHs ZIDA TENU",
    "1203A tKABA TENUtOVER ASH TUG2 OVER TUG2 TUG2 OVER TUG2 PAPzSH OVER ASH",
    "1203D zSH OVER ASH CROSSING ASH OVER ASH OVER ASHs2sGABpBArDrG3rHAR2rLs OVER BALsAGrRsA2qIr TIMES AyGARyIGI GUNU",
    "1204D qUr OVER BU ABz UNsCROSSING BUrLUGu OVER BULUGrRs2pDArGs KISIM5 TIMES A PLUS MASHz TIMES AMARz TIMES BALAG",
    "1205A z TIMES BIz TIMES GAz TIMES GA PLUS MASHz TIMES GIz TIMES GIR2z TIMES GUDz TIMES HAz TIMES IR",
    "12062 z TIMES IR PLUS LUz TIMES KAKz TIMES LAz TIMES LUz TIMES LU PLUS MASH2z TIMES LUMz TIMES NE",
    "12069 z TIMES PAP PLUS PAPz TIMES SIz TIMES TAK4z TIMES U2 PLUS GIR2z TIMES USHrMrRsA3t4qIrBrMs TIMES SHEs2rN",
    "12078 s KASKAL U GUNU DISHrSHqUr OVER DUsGUNUsSHESHIGrBs TIMES ESH2s2rGsUDrHrNs3t GUNUy GUNUs4rR2pEq TIMES PAP",
    "1208C rOVER E NUN OVER NUNq2r TIMES A PLUS HA PLUS DAyGARyMIySALzHEyUqDINqGIRqLqNr TIMES GAN2zAN2 TENUyME",
    "1209B sCROSSING ENsOPPOSING ENsSQUAREDqRENrIN2qSH2qZENt TIMES Az A PLUS LALz A PLUS LAL TIMES LALz ANz BAD",
    "120A7 z DUN3 GUNUz DUN3 GUNU GUNUz HAz HA GUNUz IGI GUNUz KASKALz KASKAL SQUAREDz KU3z LAz LAL TIMES LALz LIz LU",
    "120B3 z U2z UDpGAr GUNUr2s TIMES A PLUS DA PLUS HAzA PLUS HAzA PLUS IGIzAB2 TENU PLUS TABzANzASHzASH2 PLUS GAL",
    "120BF zBADzBAR PLUS RAzBURzBUR PLUS RAzDAzDIzDIM TIMES SHEzDUBzELzEL PLUS LAzENzEN TIMES GAN2 TENUzGAN2 TENUzGAR",
    "120CD zGIzGI4zGI4 PLUS AzGIR2 PLUS SUzHA PLUS LU PLUS ESH2zHALzHAL PLUS LAzHI PLUS LIzHUB2zIGI GUNU",
    "120D7 zISH PLUS HU PLUS ASHzKAKzKASKALzKIDzKID PLUS LALzKU3 PLUS ANzLAzME PLUS ENzMIzNUNzNUN OVER NUNzPAzSALzSAR",
    "120E5 zSHEzSHE PLUS TURzSHIDzSUMzTAK4zUzUDzUD PLUS DUtOVER GA2rBAt CROSSING GABArDs OVER GAD GAR OVER GARrL",
    "120F3 s GAD OVER GAD GAR OVER GARsAMrMrNs2t TENUuOVER GAN2uCROSSING GAN2rRs3rSHANqESHTINw TIMES KURqIr TIMES EyU",
    "12103 sCROSSING GIr4s OVER GI4tCROSSING GI4rDIMrR2t GUNUs3t TIMES A PLUS IGIz GAN2 TENUz IGIz LU PLUS IGIz PA",
    "12110 rSALsHt CROSSING GISHuTIMES BADz TAK4vENUqUr CROSSING GUr2s TIMES KAKzKAK TIMES IGI GUNUzNUNzSAL PLUS TUG2",
    "1211D tGUNUrDs TIMES A PLUS KURzKURtOVER GUD LUGALrLrMs TIMES SHErRs7sUNtSHpHAr TENUsGUNUrLqIr TIMES ASHzSH2yBAD",
    "12131 yDISHyGADyKINyNUNySHEyUqUrB2t TIMES ANz HALz KASKALz LISHz UDrL2pIq AqBqDIMt OVER IDIM BURzIDIM SQUAREDqG",
    "12146 rIs DIBtRItOVER IGI SHIR OVER SHIR UD OVER UDtGUNUqLr TIMES GAN2 TENUr2qMr TIMES TAK4sCROSSING IM",
    "12151 sOPPOSING IMsSQUAREDrINqNqRqSHpKAr TIMES AzDzD PLUS KU3zSH2yBADzALAGzARzIyERIN2zSH2yGAzALzAN2 TENUzAR",
    "12166 zAR PLUS SHA3 PLUS AzIzIR2zISH PLUS SARzISH CROSSING GISHzUzUR7yIGIzMyKAKzIzIDyLIzUyMEzE PLUS DUzE PLUS GI",
    "12177 zE PLUS TEzIzI PLUS NUNUZyNEzUNyPIyRUySAzARzHAzHEzHIDzHUzIGzUHURyTARyUz2zDzMUM TIMES PAzSHyZIr2",
    "1218E s CROSSING KA2rBrD2s3s4s5t OVER KAD5rKs TIMES IGI GUNUrLs TIMES BADtCROSSING KALrM2s4rSKAL",
    "1219D v LAGAB TIMES U OVER LAGAB TIMES UwOVER KASKAL LAGAB TIMES U OVER LAGAB TIMES UqESH2qIr TIMES BADyUzDrDrN",
    "121A6 rSALsHsIM5v OVER KISIM5qUr OVER HI TIMES ASH2 KU OVER HI TIMES ASH2r3r4s VARIANT FORMr7rLs GUNUrNrR",
    "121B4 s OPPOSING KURrSHU2qWU318pLArGABu TIMES AzS A PLUS DA PLUS HAzS A PLUS GARzS A PLUS LALzS ALzS AN",
    "121BF zS ASH ZIDA TENUzS BADzS BIzS DARzS ENzS GAzS GARzS GUDzS GUD PLUS GUDzS HAzS HALzS HI TIMES NUN",
    "121CB zS IGI GUNUzS IMzS IM PLUS HAzS IM PLUS LUzS KIzS KINzS KU3zS KULzS KUL PLUS HI PLUS AzS LAGABzS LISHzS LU",
    "121D7 zS LULzS MEzS ME PLUS ENzS MUSHzS NEzS SHE PLUS SUMzS SHITA PLUS GISH PLUS ERIN2zS SHITA PLUS GISH TENU",
    "121DF zS SHU2zS SHU2 PLUS SHU2zS SUMzS TAGzS TAK4zS TE PLUS A PLUS SU PLUS NAzS UzS U PLUS AzS U PLUS U PLUS U",
    "121E8 zS U2 PLUS ASHzS UDzS USHvSQUAREDtRu TIMES SHEzS SHE PLUS SUMvGUNUz OVER LAGAR GUNU SHErHSHUrLs TIMES LAL",
    "121F4 rMs TIMES KURzKUR PLUS RUqIrLrMMU2rSHqUr TIMES BADr2s TIMES ALzBADzESH2zESH2 TENUzGAN2 TENUzHI TIMES BAD",
    "12204 zIMzKAD2zKAD3zKAD3 PLUS ASHzKIzLA PLUS ASHzLAGABzME PLUS ENzNEzNUzSI PLUS ASHzSIK2 PLUS BUzTUG2uENU",
    "12212 tCROSSING LU2tOPPOSING LU2tSQUAREDuHESHIGr3rGALu OVER LUGALwPPOSING LUGALvSHESHIGrHrLrMs OVER LUM",
    "1221F zUM GAR OVER GARpMAr TIMES TAK4sGUNUr2rHrRrSHt2qErSqIrNqUr OVER MUrGs GUNUrNSUBrRGU2rSHt TIMES Az KURz ZA",
    "12236 uOVER MUSHzMUSH TIMES A PLUS NAuCROSSING MUSHt3u TIMES AzS A PLUS DIzS DIvGUNUpNAr2rGAt INVERTED",
    "12242 uTIMES SHU TENUuOPPOSING NAGAtRrM NUTILLUss2qEr TIMES AyUDsSHESHIGqIr TIMES Er2rMs TIMES GAN2 TENU",
    "12251 zGAR PLUS GAN2 TENUrNDA2v TIMES ANzES ASHzES ASH PLUS ASHzES GUDzES ME PLUS GAN2 TENUzES NEzES NUNzES SHE",
    "1225B zES SHE PLUS A ANzES SHE PLUS ASHzES SHE PLUS ASH PLUS ASHzES U2 PLUS ASHzES USHrSAGqUr11rN",
    "12264 s LAGAR TIMES GARzTIMES MASHzTIMES SALzTIMES SAL OVER NUN LAGAR TIMES SALzTIMES USHtTENUtOVER NUN",
    "1226B tCROSSING NUNzNG NUN LAGAR OVER LAGARsUZu AB2 TIMES ASHGABzTIMES BIzTIMES DUGzTIMES GUDzTIMES IGI GUNU",
    "12273 zTIMES KAD3zTIMES LAzTIMES NEzTIMES SILA3zTIMES U2vKISIM5 TIMES BIzM5 TIMES BI UpPArDrNrPqESH2qIr TIMES A",
    "12281 zByBIzUyEyIzByUz2sCROSSING PIrRIGu TIMES KALzS UDzS ZAvOPPOSING PIRIGpRArBqIqUpSArG NUTILLUss TIMES AzDU",
    "12298 zDUBzHAzKAKzKURzLUMzMIzNUNzSALzSHIDzTABzU2zUBzUMzURzUSHtOVER SAGtGUNUrLs LAGAB TIMES ASH2rNGA2rRqHAs3",
    "122AF t TIMES Az BADz GISHz NEz SHU2z TURz Uz U PLUS As6sB6sR2rEs HUtOVER SHE GAD OVER GAD GAR OVER GAR",
    "122BD zHE TAB OVER TAB GAR OVER GARsG9sNsSHu2uLAMrIDt TIMES Az IMsMt TIMES Az BALz BULUGz DINz GARz IGI",
    "122CD z IGI GUNUz KUSHU2z LULz MUGz SALsNIGsRt TENUuOVER SHIR BUR OVER BURsTArUs OVER INVERTED SHUs2sBURqIr GUNU",
    "122DD rGs4t OVER SIG4 SHU2rK2rLA3qUr OVER SUrDs2rHURrMsASHrRs9pTAr ASTERISKsTIMES HIyMIsGUNUrB",
    "122F1 s OVER TAB NI OVER NI DISH OVER DISHtSQUAREDrGs TIMES BIzGUDzSHEzSHUzTUG2zUDrK4rRqEr GUNUqIr TENUrLrR",
    "12302 s TIMES TAK4tOVER TIRzIR GAD OVER GAD GAR OVER GARqUrG2rKrMrRs OVER TUR ZA OVER ZApUq GUDrU U",
    "1230E rOVER U PA OVER PA GAR OVER GARySUR OVER SURyU REVERSED OVER U REVERSEDq2qBqDr KUSHU2sTIMES BADyMI",
    "12317 yU PLUS U PLUS Uz PLUS U PLUS U GUNUsGUNUsSHESHIGz TIMES BADrUGqMr TIMES LAGAByME PLUS DAySHA3yUrBINrUM",
    "12324 t TIMES KASKALz PAqNr GUNUqRr CROSSING URsSHESHIGr2s TIMES A PLUS HAzA PLUS NAzALzHAzNUNzU2zU2 PLUS ASH",
    "12333 zU2 PLUS BIr4rIs3rUs TIMES AzASHGABzBARzDUNzGAzGALzGAN2 TENUzGARzGUzHAzIGIzIMzISHzKIzLUMzMINzPAzSHEzSIG4",
    "1234B zTUzU PLUS GUDzUDzURUDAsDAu TIMES UqSHs TIMES AzKUzKURzTAK4sXs2sUMXqTUKIqZ3s TIMES KASKALrUpZAr TENU",
    "1235F sSQUARED TIMES KURrGrMXqE2qIr OVER ZIr3rBs KABA TENUrGrZ2qUr5s TIMES ArBURrMpKAP ELAMITEpAB TIMES NUN",
    "12371 r2 TIMES AqMAR TIMES KUGpDAG KISIM5 TIMES U2 PLUS MASHs3qISH PLUS SHUqUB TIMES SHEpEZEN TIMES GUDz SHE",
    "12379 pGA2 TIMES AN PLUS KAK PLUS AzASH2qE22qIGpHUSHpKA TIMES ANSHEzSH3yGISHzUDyHI TIMES ASH2yLUMyPAySHULyTUyUR2",
    "12388 pLAGAB TIMES GIqU2 SHESHIG TIMES BADtTIMES ESH2 PLUS LALzSHUpMESHqUSH3 TIMES ZApNA4qINs9sDA2 TIMES BAL",
    "12392 zES GIqU11 ROTATED NINETY DEGREESpPESH2 ASTERISKqIR2pSAG TIMES IGI GUNUpTI2pUM TIMES MEq U",
    "12400 kNUMERIC SIGN TWO ASHyHREE ASHxFOUR ASHyIVE ASHxSIX ASHyEVEN ASHxEIGHT ASHxNINE ASHxTHREE DISHxFOUR DISH",
    "1240A yIVE DISHxSIX DISHyEVEN DISHxEIGHT DISHxNINE DISHxFOUR UyIVE UxSIX UyEVEN UxEIGHT UxNINE UxONE GESH2",
    "12416 xTWO GESH2yHREE GESH2xFOUR GESH2yIVE GESH2xSIX GESH2yEVEN GESH2xEIGHT GESH2xNINE GESH2xONE GESHUxTWO GESHU",
    "12420 yHREE GESHUxFOUR GESHUyIVE GESHUxTWO SHAR2yHREE SHAR2zREE SHAR2 VARIANT FORMxFOUR SHAR2yIVE SHAR2",
    "12428 xSIX SHAR2yEVEN SHAR2xEIGHT SHAR2xNINE SHAR2xONE SHARUxTWO SHARUyHREE SHARUzREE SHARU VARIANT FORM",
    "12430 xFOUR SHARUyIVE SHARUxSHAR2 TIMES GAL PLUS DISHzAR2 TIMES GAL PLUS MINxONE BURUxTWO BURUyHREE BURU",
    "12437 zREE BURU VARIANT FORMxFOUR BURUyIVE BURUxTHREE VARIANT FORM ESH16zREE VARIANT FORM ESH21",
    "1243C xFOUR VARIANT FORM LIMMUzUR VARIANT FORM LIMMU4zUR VARIANT FORM LIMMU AzUR VARIANT FORM LIMMU B",
    "12440 xSIX VARIANT FORM ASH9yEVEN VARIANT FORM IMIN3zVEN VARIANT FORM IMIN AzVEN VARIANT FORM IMIN B",
    "12444 xEIGHT VARIANT FORM USSUzGHT VARIANT FORM USSU3xNINE VARIANT FORM ILIMMUzNE VARIANT FORM ILIMMU3",
    "12448 zNE VARIANT FORM ILIMMU4zNE VARIANT FORM ILIMMU AxTWO ASH TENUyHREE ASH TENUxFOUR ASH TENUyIVE ASH TENU",
    "1244E xSIX ASH TENUxONE BAN2xTWO BAN2yHREE BAN2xFOUR BAN2zUR BAN2 VARIANT FORMyIVE BAN2zVE BAN2 VARIANT FORM",
    "12456 xNIGIDAMINzGIDAESHxONE ESHE3xTWO ESHE3xONE THIRD DISHxTWO THIRDS DISHxFIVE SIXTHS DISH",
    "1245D xONE THIRD VARIANT FORM AxTWO THIRDS VARIANT FORM AxONE EIGHTH ASHzE QUARTER ASHyLD ASSYRIAN ONE SIXTH",
    "12462 zD ASSYRIAN ONE QUARTERyNE QUARTER GURzE HALF GURxELAMITE ONE THIRDzAMITE TWO THIRDSzAMITE FORTY",
    "12468 zAMITE FIFTYxFOUR U VARIANT FORMyIVE U VARIANT FORMxSIX U VARIANT FORMyEVEN U VARIANT FORM",
    "1246D xEIGHT U VARIANT FORMxNINE U VARIANT FORM",
    "12470 kPUNCTUATION SIGN OLD ASSYRIAN WORD DIVIDERzN VERTICAL COLONzN DIAGONAL COLONzN DIAGONAL TRICOLON",
    "12474 zN DIAGONAL QUADCOLON",
    "12480 kSIGN AB TIMES NUN TENUySHU2qD TIMES ESH2pBAD TIMES DISH TENUrHAR2 TIMES AB2zES NIzES ZA",
    "12487 qU OVER BU TIMES NA2pDA TIMES TAK4rG TIMES KURqIM TIMES IGIzU U Us2 TIMES UDqUG TIMES ANSHEzASH",
    "1248F zASH AT LEFTzDINzDUNzERIN2zGAzGIzGIR2 GUNUzGISHzHAzHIzIGI GUNUzKASKALzKURzKUSHU2zKUSHU2 PLUS KASKAL",
    "1249E zLAK-020zLAMzLAM TIMES KURzLUH PLUS GISHzMASHzMESzMIzNIzPIzSHEzSI GUNUpE2 TIMES KURyPAPqRIN2 X",
    "124AC qSH2 CROSSING ESH2qZEN SHESHIG TIMES ASHzIG TIMES HIzIG TIMES IGI GUNUzIG TIMES LAzIG TIMES LAL",
    "124B2 zIG TIMES MEzIG TIMES MESzIG TIMES SUuTIMES SUpGA2 TIMES BAHAR2zDIM GUNUzDUG TIMES IGI GUNU",
    "124B9 zDUG TIMES KASKALzERENzGAzGAR PLUS DIzGAR PLUS NEzHA PLUS AzKUSHU2 PLUS KASKALzLAMzLAM TIMES KURzLUHzMUSH",
    "124C4 zNEzNE PLUS E2zNE PLUS GIzSHIMzZIZ2rBA ROTATED NINETY DEGREESqESHTIN TIMES UqISH TIMES GISH CROSSING GISH",
    "124CC qU2 TIMES IGI GUNUrD PLUS GISH TIMES TAK4pHA TENU GUNUqI TIMES ASH OVER HI TIMES ASHpKA TIMES BUyKAyU U U",
    "124D3 zRpLAGAB TIMES ZU OVER ZUrK-003u21v5u30u50v1u62u79 OVER LAK-079 GUNUu80v1 OVER LAK-081u92t130u42t210v9u20",
    "124E5 v5v8u38u65v6t343v7v8u83v4u90t441v9w TIMES GUzMES IGIzMES PAP PLUS LU3zMES PAP PLUS PAP PLUS LU3",
    "124F6 zMES U2 PLUS BAu50v7u70u83u90v2v3v5t550t608u17w TIMES ASHzMES BADzMES DUN3 GUNU GUNUzMES KU3zMES LA",
    "12507 zMES TARzMES TEzMES U2zMES UDzMES URUDAu36u48w TIMES DUBzMES GAzMES IGIzMES IGI GUNUzMES NI",
    "12513 zMES PAP PLUS PAP PLUS LU3zMES SHESH PLUS KIzMES UDzMES URUDAt724u49qU2 GUNU TIMES ASHtTIMES DISHzHALzPAP",
    "1251D zPAP PLUS PAP PLUS LU3zTAK4pMI PLUS ZA7qUSH OVER MUSH TIMES GAzMUSH TIMES KAKpNINDA2 TIMES DIM GUNU",
    "12523 zES GISHzES GULzES HIzES KESH2zES LAK-050zES MASHzES PAP PLUS PAPzES UzES U PLUS UzES URUDA",
    "1252D pSAG GUNU TIMES HAtTIMES ENzSHE AT LEFTzTAK4qHA6 TENUrE OVER SHEtPLUS HUB2yNAM2ySARrU2 PLUS DUG TIMES NI",
    "12537 zE2 TIMES ANqI TIMES TAK4pTAK4 PLUS SAGqUM TIMES GAN2 TENUzTHREE DISHpUR2 INVERTEDtTIMES UDrU TIMES DARA3",
    "1253F zLAK-668zLU3pZA7qU OVER ZU PLUS SARr5 TIMES THREE DISH TENU",
    "12F90 bYPRO-MINOAN SIGN CM001w2w4w5w6w7w8w9v10w1w2xBw3w5w7w9v21w3w4w5w6w7w8w9v30w3w4w5w6w7w8w9v40w1w4w6w7w9v50w1",
    "12FB8 w2w3w4w5w6w8w9v60w1w2w3w4w6w7w8w9v70w1w2w3w4w5xBw6w8w9v80w1w2w3w4w5w6w7w8w9v90w1w2w4w5w6w7w8w9u100w1w2w3w4",
    "12FEA w5w7w8w9v10w2w4u301w2",
    "13000 aEGYPTIAN HIEROGLYPH A001x2x3x4x5yAx6yAyBx7x8x9w10x1x2x3x4yAx5x6x7yAx8x9w20x1x2x3x4x5x6x7x8x9w30x1x2yAx3x4",
    "13028 x5x6x7x8x9w40yAx1x2yAx3yAx4x5yAx6x7x8x9w50x1x2x3x4x5x6x7x8x9w60x1x2x3x4x5x6x7x8x9w70uB001x2x3x4x5yAx6x7x8",
    "13059 x9uC001x2yAyByCx3x4x5x6x7x8x9w10yAx1x2x3x4x5x6x7x8x9w20x1x2x3x4uD001x2x3x4x5x6x7x8yAx9w10x1x2x3x4x5x6x7x8",
    "13089 x9w20x1x2x3x4x5x6x7yAx8x9w30x1yAx2x3x4yAx5x6x7x8x9w40x1x2x3x4x5x6yAx7x8yAx9w50yAyByCyDyEyFyGyHyIx1x2yAx3x4",
    "130BC yAx5x6x7x8x9w60x1x2x3x4x5x6x7yAyByCyDyEyFyGyHuE001x2x3x4x5x6x7x8yAx9yAw10x1x2x3x4x5x6yAx7yAx8x9w20yAx1x2x3",
    "130EE x4x5x6x7x8yAx9w30x1x2x3x4yAx6x7x8uF001yAx2x3x4x5x6x7x8x9w10x1x2x3yAx4x5x6x7x8x9w20x1yAx2x3x4x5x6x7x8x9w30",
    "1311F x1yAx2x3x4x5x6x7yAx8yAx9w40x1x2x3x4x5yAx6yAx7yAx8x9w50x1yAyByCx2x3uG001x2x3x4x5x6yAx7yAyBx8x9w10x1yAx2x3x4",
    "13151 x5x6x7x8x9w20yAx1x2x3x4x5x6yAx7x8x9w30x1x2x3x4x5x6yAx7yAx8x9w40x1x2x3yAx4x5yAx6x7x8x9w50x1x2x3x4uH001x2x3",
    "13182 x4x5x6yAx7x8uI001x2x3x4x5yAx6x7x8x9yAw10yAx1yAx2x3x4x5uK001x2x3x4x5x6x7x8uL001x2yAx3x4x5x6yAx7x8uM001yAyB",
    "131B0 x2x3yAx4x5x6x7x8x9w10yAx1x2yAyByCyDyEyFyGyHx3x4x5yAx6yAx7yAx8x9w20x1x2yAx3x4yAx5x6x7x8yAx9w30x1yAx2x3yAyB",
    "131E3 x4x5x6x7x8x9w40yAx1x2x3x4uN001x2x3x4x5x6x7x8x9w10x1x2x3x4x5x6x7x8yAyBx9w20x1x2x3x4x5yAx6x7x8x9w30x1x2x3yA",
    "13214 x4yAx5yAx6x7yAx8x9w40x1x2vL001y2y3y4y5zAy6y7y8y9x10y1y2y3y4y5y6y7zAy8y9x20vU001y2y3y4y5y6y7y8y9x10zAy1zAy2",
    "13244 y3y4y5y6y7y8zAy9x20y1y2zAuO001yAx2x3x4x5yAx6yAyByCyDyEyFx7x8x9w10yAyByCx1x2x3x4x5x6x7x8x9yAw20yAx1x2x3x4yA",
    "13276 x5yAx6x7x8x9yAw30yAx1x2x3yAx4x5x6yAyByCyDx7x8x9w40x1x2x3x4x5x6x7x8x9w50yAyBx1uP001yAx2x3yAx4x5x6x7x8x9w10",
    "132A7 x1uQ001x2x3x4x5x6x7uR001x2yAx3yAyBx4x5x6x7x8x9w10yAx1x2x3x4x5x6yAx7x8x9w20x1x2x3x4x5x6x7x8x9uS001x2yAx3x4",
    "132D6 x5x6yAx7x8x9w10x1x2x3x4yAyBx5x6x7yAx8x9w20x1x2x3x4x5x6yAyBx7x8x9w30x1x2x3x4x5yAx6x7x8x9w40x1x2x3x4x5x6",
    "13307 uT001x2x3yAx4x5x6x7yAx8yAx9yAw10x1yAx2x3x4x5x6yAx7x8x9w20x1x2x3x4x5x6x7x8x9w30x1x2yAx3yAx4x5x6uU001x2x3x4",
    "13337 x5x6yAyBx7x8x9w10x1x2x3x4x5x6x7x8x9w20x1x2x3yAx4x5x6x7x8x9yAw30x1x2yAx3x4x5x6x7x8x9w40x1x2uV001yAyByCyDyE",
    "13368 yFyGyHyIx2yAx3x4x5x6x7yAyBx8x9w10x1yAyByCx2yAyBx3x4x5x6x7x8x9w20yAyByCyDyEyFyGyHyIyJyKyLx1x2x3yAx4x5x6x7x8",
    "1339C yAx9yAw30yAx1yAx2x3yAx4x5x6x7yAx8x9w40yAuW001x2x3yAx4x5x6x7x8x9yAw10yAx1x2x3x4yAx5x6x7yAx8yAx9w20x1x2x3x4",
    "133CD yAx5uX001x2x3x4yAyBx5x6yAx7x8yAuY001yAx2x3x4x5x6x7x8uZ001x2yAyByCyDx3yAyBx4yAx5yAx6x7x8x9w10x1x2x3x4x5yAyB",
    "133FD yCyDyEyFyGyHyIx6yAyByCyDyEyFyGyHuAA001y2y3y4y5y6y7zAzBy8y9x10y1y2y3y4y5y6y7y8y9x20y1y2y3y4y5y6y7y8y9x30y1",
    "1342E y2",
    "13430 uVERTICAL JOINERuHORIZONTAL JOINERuINSERT AT TOP STARTzT AT BOTTOM STARTzT AT TOP ENDzT AT BOTTOM END",
    "13436 uOVERLAY MIDDLEuBEGIN SEGMENTuEND SEGMENT",
    "14400 aANATOLIAN HIEROGLYPH A001y2y3y4y5y6y7y8y9x10zAy1y2y3y4y5y6y7y8y9x20y1y2y3y4y5y6zAy7y8y9x30y1y2y3y4y5y6y7",
    "14427 y8y9zAx40y1zAy2y3y4y5zAy6zAzBy7y8y9x50y1y2y3y4y5y6y7y8y9x60y1y2y3y4y5y6zAzBzCy7y8y9x70y1y2y3y4y5y6y7y8y9",
    "14459 x80y1y2y3y4y5y6y7y8y9x90y1y2y3y4y5y6y7zAy8zAy9w100zAy1zAy2zAy3y4zAzBzCy5zAzBy6y7zAzBzCy8y9x10zAzBy1y2y3y4",
    "1448B y5zAy6y7y8y9x20y1y2y3y4y5zAy6y7y8y9x30y1y2y3y4y5zAy6y7y8y9x40y1y2y3y4y5y6y7y8y9x50y1y2y3y4y5y6y7y8y9x60y1",
    "144BD y2y3y4y5y6y7y8y9x70y1y2y3y4y5y6y7y8y9x80y1y2y3y4y5y6y7y8y9x90y1y2y3y4y5y6y7y8y9w200y1y2zAzBy3y4y5y6y7zAy8",
    "144EF y9zAx10y1y2y3y4y5zAy6zAy7y8y9x20y1y2y3y4y5y6y7zAy8y9x30y1y2y3y4y5y6y7y8y9x40y1y2y3y4y5y6y7y8y9x50y1y2y3y4",
    "14521 y5y6y7y8y9x60y1y2y3y4y5y6y7zAy8y9x70y1y2y3y4y5y6y7y8y9x80y1y2y3y4y5y6y7y8y9zAx90y1y2y3y4zAy5y6y7y8y9zAw300",
    "14553 y1y2y3y4y5y6y7y8y9zAx10y1y2y3y4y5y6y7y8y9x20y1y2y3y4y5y6y7y8y9zAx30y1y2AzBzCy3y4y5y6zAzBzCy7y8y9x40y1y2y3",
    "14585 y4y5y6y7y8y9x50y1y2y3y4y5y6y7y8y9zAx60y1y2y3y4zAy5y6y7y8zAy9x70y1zAy2y3y4y5y6y7y8y9x80y1zAy2y3 RA OR RIzA",
    "145B3 y4y5y6zAy7y8y9x90y1y2y3 EIGHTy4y5y6y7y8y9w400y1y2y3y4y5y6y7y8y9x10 BEGIN LOGOGRAM MARKzA END LOGOGRAM MARK",
    "145D0 y1y2y3y4y5y6y7y8y9x20y1y2y3y4y5y6y7y8y9x30y1y2y3y4y5y6y7y8y9x40y1y2y3y4y5y6y7y8y9x50zAy1y2y3y4y5y6y7zAy8y9",
    "14603 x60y1y2y3y4y5y6y7y8y9x70y1y2y3y4y5y6y7y8y9x80y1y2y3y4y5y6y7y8y9x90y1y2y3y4y5y6y7w501y2y3y4y5y6y7y8y9x10y1",
    "14634 y2y3y4y5y6y7y8y9x20y1y2y3y4y5y6y7y8y9x30",
    "16800 aBAMUM LETTER PHASE-A NGKUE MFONvGBIEE FONvPON MFON PIPAEMGBIEEzMFON PIPAEMBAvNAA MFONvSHUENSHUET",
    "16806 vTITA MFONvNZA MFONvSHINDA PA NJIvPON PA NJI PIPAEMGBIEEzPA NJI PIPAEMBAvMAEMBGBIEEvTU MAEMBAvNGANGU",
    "1680E vMAEMVEUXxNSUAEwVEUAENGAMvSEUNYAMvNTOQPENvKEUKEUTNDAvNKINDIvSUUvNGKUENZEUMvLAPAQwET KUTvNTAP MFAAvMAEKEUP",
    "1681B vPASHAEvGHEUAERAEvPAMSHAEvMON NGGEUAETvNZUN MEUTvU YUQ NAEvGHEUAEGHEUAEvNTAP NTAAvSISAvMGBASAwEUNJOMNDEUQ",
    "16826 wOOMPUQvKAFAvPA LEERAEWAvNDA LEERAEWAvPETvMAEMKPENvNIKAvPUPvTUAEPvLUAEPvSONJAMvTEUTEUWENvMAENYIvKET",
    "16834 vNDAANGGEUAETvKUOQvMOOMEUTvSHUMvLOMMAEvFIRIvROMvKPOQvSOQvMAP PIEETvSHIRAEvNTAPvSHOQ NSHUT YUM",
    "16841 vNYIT MONGKEUAEQvPAARAEvNKAARAEvUNKNOWNvNGGENvMAESIvNJAMvMBANYIvNYETvTEUAENvSOTvPAAMvNSHIEEvMAEMvNYIvKAQ",
    "16851 vNSHAvVEEvLUvNENwAQvMBAQtB NSHUETvTU MAEMGBIEEvSIEEwET TUvLOM NTEUMvMBA MAELEEvKIEEMvYEURAEvMBAARAEvKAM",
    "16861 vPEESHIvYAFU LEERAEWAvLAM NSHUT NYAMvNTIEE SHEUOQwDU NJAAvGHEUGHEUAEMvPITvTU NSIEEvSHET NJAQyUAEQTU",
    "1686B vMFON TEUAEQwBIT MBAAKETvNYI NTEUMvKEUPUQvGHEUGHENvKEUYEUXvLAANAEvPARUMvVEUMvNGKINDI MVOPxGEU MBUvWUAET",
    "16877 vSAKEUAEvTAAMvMEUQvNGGUOQzOQ LARGEvMFIYAQvSUEvMBEURIwONTIEENvNYAEMAEvPUNGAAMvMEUT NGGEETvFEUXvMBUOQvFEE",
    "16886 vKEUAEMvMA NJEUAENAzJUQAvLETvNGGAAMwSENvMAvKIQvNGOMtC NGKUE MAEMBAwZAvYUMvWANGKUOQvNGGENwDEUAEREEwGKAQ",
    "16896 vGHARAEvMBEEKEETvGBAYIvNYIR MKPARAQ MEUNwTU MBITvMBEUMvPIRIEENvNDOMBUvMBAA CABBAGE-TREEvKEUSHEUAEPvGHAP",
    "168A1 vKEUKAQvYU MUOMAEvNZEUMvMBUEvNSEUAENvMBITvYEUQvKPARAQwAAvSEUXvNDIDAvTAASHAEvNJUEQvTITA YUEvSUAET",
    "168B0 vNGGUAEN NYAMvVEUXvNANSANAQvMA KEUAERIvNTAAwGGUONvLAPvMBIRIEENwGBASAQvNTEUNGBAvTEUTEUXvNGGUMvFUEvNDEUTwSA",
    "168BF xHAQvBUNGvVEUAEPENvMBERAEvRUvNJAEMvLAMvTITUAEPvNSUOT NGOMwJEEEEvKETvNGGUvMAESIwBUAEMvLUvKUTvNJAMwGOMvWUP",
    "168D2 vNGGUEETwSOMwTENvKUOP NKAARAEvNSUNwDAMvMA NSIEEvYAAvNDAPvSHUEQwETFONvMBIwAEMBAwBANYIvKEUSEUXvMBEUXvKEUM",
    "168E3 vMBAA PICKETvYUWOQvNJEUXvMIEEwUAEvSHIQvKEN LAWzFATIGUEvNGAQwAQvLIQvPINwENvTETtD MBUOvWAPvNJIvMFONvNJIEE",
    "168F6 vLIEEvNJEUTwSHEEwGGAAMAEwYAMvWUAENvNGKUNvSHEEvNGKAPvKEUAETMEUNvTEUTvSHEUAEvNJAPvSUEvKETvYAEMMAEvKUOMvSAP",
    "16908 vMFEUTvNDEUXvMALEERIwEUTvSEUAEQvYENvNJEUAEMvKEUOT MBUAEvNGKEURIvTUvGHAAvNGKYEEvFEUFEUAETvNDEEvMGBOFUM",
    "16917 vLEUAEPvNDONvMONIwGBEUNvPUUTvMGBIEEwFOvLUMvNSIEEPvMBAAvKWAETvNYETvTEUAENvSOTvYUWOQvKEUMvRAEMvTEEEE",
    "16929 vNGKEUAEQvMFEUAEvNSIEETvKEUPvPIPwEUTAEvNYUEvLETvNGGAAMvMFIEEvNGGWAENvYUOMvPAPvYUOPvNDAMwTEUMvSUAEvKUN",
    "1693B vNGGEUXxKIEEvTUOTvMEUNvKUQvNSUMvTEUNvMAENJETvNGGAPvLEUMvNGGUOMwSHUTwJUEQvGHEUAEvKUvREN OLDvTAEwOQvNYIvRII",
    "1694F vLEEEEvMEEEEwvSUUvMUvSHIIxEUXvKYEEvNUvSHUvNTEEvPEEvNIvSHOQvPUQvMVOPvLOQvREN MUCHvTIvNTUUvMBAA SEVENvSAQ",
    "16965 vFAAtE NDAPvTOONvMBEUMvLAPvVOMvLOONvPAAvSOMvRAQvNSHUOPwDUNvPUAEvTAMvNGKAvKPEUXvWUOvSEEvNGGEUAETvPAAMvTOO",
    "1697A vKUOPvLOMvNSHIEEwGOPvMAEMvNGKEUXxOQwSHUEvRIMGBAvNJEUXvPEEMvSAAvNGGURAEvMGBAvGHEUXvNGKEUAEMwJAEMLIvMAPvLOOT",
    "1698D vNGGEEEEwDIQvTAEN NTEUMvSETvPUMvNDAA SOFTNESSwGGUAESHAE NYAMvYIEEvGHEUNvTUAEvYEUAEvPOvTUMAEvKEUAEvSUAEN",
    "1699C vTEUAEQvVEUAEvWEUXvLAAMvPUvTAAQvGHAAMAEvNGEUREUTvSHEUAEQvMGBENwBEEvNZAQwKOMvGBETvTUMvKUETvYAPvNYI CLEAVER",
    "169AE vYITvMFEUQvNDIAQvPIEEQvYUEQvLEUAEMvFUEvGBEUXvNGKUPvKETvMAEvNGKAAMIvGHETvFAvNTUMvPEUTvYEUMvNGGEUAE",
    "169C0 wYI BETWEENwZUQvPOONvMIEEvFUETvNAEvMUAEvGHEUAEvFU IvMVIvPUAQvNGKUMvKUTvPIETvNTAPvYEUAETvNGGUPvPA PEOPLE",
    "169D2 vFU CALLwOMvNJEEvAvTOQvOvIvLAQvPA PLURALvTAAxQvNDAA MY HOUSEvSHIQvYEUXvNGUAEvYUAENwOQ SWIMMINGzCOVERwUQxN",
    "169E6 vKEUXvPEUXvNJEE EPOCHvPUEvWUEvFEEvVEEvLUvMIvREUXwAEvNGUAETxAvSHOyQvFU REMEDYvNAvPIvLOQvKOvMENwAxQvTEUvKI",
    "169FF vMONvTENvFAQvGHOMtF KAvUvKUvEEvREEvTAEvNYIvLAvRIIxEEvMEEEEvTAAvNDAAwJAEMvMvSUUwHIIwIwEUXvKYEEwETvNUAEx",
    "16A1A wJUAEvYOQvSHUvYAvNSHAvPEUXvNTEEvWUEvPEEvRUvNIvREUXvKENvNGKWAENxGAvSHOvPUAEvFOMvWAvLIwOQvKOvMBENvRENvMAwO",
    "16A34 wBAAvTETvKPAvSAMBAvVUEQ",
    "16A40 aMRO LETTER TAlNGIlYOlMIMlBAlDAlAlPHIlKHAIlHAOlDAIlCHUlKEAAElOLlMAEMlNINlPAlOOmlROlSHIlTHEAlEAlWAlElKOlLAN",
    "16A5B nlHAIlRIlTEK",
    "16A60 eDIGIT ZEROkONEkTWOlHREEkFOURlIVEkSIXlEVENkEIGHTkNINE",
    "16A6E fANDAfOUBLE DANDAaTANGSA LETTER OZpCpQpXoAZpCpQpXoVZpCpQpXoEZpCpQpXoIZpCpQpXoUZpCpQpXoAWZqCqQqXoUIZqCqQqX",
    "16A90 oFINAL NGoLONG UEXoSHORT UEZuAWXoUECqZqQqXpIUZrCrQrXoMZpCpQpXoKApHAoGAoNGAoSAoYAoWAoPAoNYAoPHAoBAoMAoNAoHA",
    "16AAE oLAoHTAoTAoDAoRAoNHAoSHAoCAoTSAoGHAoHTTAoTHAoXAoFAoDHAoCHAoZA",
    "16AC0 hDIGIT ZEROnONEnTWOoHREEnFOURoIVEnSIXoEVENnEIGHTnNINE",
    "16AD0 aBASSA VAH LETTER ENNIrKArSErFArMBErYIErGAHrDHIIrKPAHrJOrHWAHrWArZOrGBUrDOrCErUWUrTOrBArVUrYEINrPArWADDArA",
    "16AE8 rOsOrUrEEsrI",
    "16AF0 kCOMBINING HIGH TONEuLOW TONEuMID TONEuLOW-MID TONEuHIGH-LOW TONEkFULL STOP",
    "16B00 aPAHAWH HMONG VOWEL KEEBwVuIBvVuAUBwVuUBvVuEBvVuAIBwVuOOBwVuAWBwVuUABwVuOBvVuIABwVuABvVuWBvVuAABwV",
    "16B1C nCONSONANT VAUxNTSAUxLAUxHAUxNLAUxRAUxNKAUxQHAUxYAUxHLAUxMAUxCHAUxNCHAUxHNAUxPLHAUxNTHAUyAUxAUxXAUxCAU",
    "16B30 nMARK CIM TUBwSOwKESxHAVwSUAMwHOMwTAUMnSIGN VOS THOMxSHAB CEEBsCIM CHEEMsVOS THIABwFEEMsXYEEM NTXIVyRHO",
    "16B3E yTOVyFAIBsVOS SEEVsMEEJ SUABsVOS NRUAsIB YAMsXAUSsCIM TSOV ROG",
    "16B50 nDIGIT ZEROtONEtTWOuHREEtFOURuIVEtSIXuEVENtEIGHTtNINE",
    "16B5B nNUMBER TENSuHUNDREDSuTEN THOUSANDSuMILLIONSuHUNDRED MILLIONSuTEN BILLIONSvRILLIONS",
    "16B63 nSIGN VOS LUBsXYOOsHLIsTHIRD-STAGE HLIsZWJ THAJsHNUBsNQIGsXIABsNTUJsAVsTXHEEJ CEEVsMEEJ TSEEBsTAUsLOSsMUS",
    "16B72 sCIM HAIS LUS NTOG NTOGwCUAM TSHOOJwTXWVzV CHWVwPUB DAWBwNRES TOS",
    "16B7D nCLAN SIGN TSHEEJxYEEGxLISyAUJxXYOOJxKOOxHAWJxMUASxTHOJySABxPHABxKHABxHAMxVAJxFAJxYAJxTSWBxKWMxVWJ",
    "16E40 aMEDEFAIDRIN CAPITAL LETTER MzR SzR VzR WzR ATIUzR ZzR KPzR PzR TzR GzR FzR IzR KzR AzR JzR EzR BzR CzR U",
    "16E53 zR YUzR LzR QzR HPzR NYzR XzR DzR OEzR NzR RzR OzR AIzR YmSMALL LETTER MzSzVzWzATIUzZzKPzPzTzGzFzIzKzAzJzE",
    "16E70 zBzCzUzYUzLzQzHPzNYzXzDzOEzNzRzOzAIzYmDIGIT ZEROsONEsTWOtHREEsFOURtIVEsSIXtEVENsEIGHTsNINEmNUMBER TEN",
    "16E8B tELEVENtTWELVEuHIRTEENtFOURTEENuIFTEENtSIXTEENuEVENTEENtEIGHTEENtNINETEENmDIGIT ONE ALTERNATE FORM",
    "16E95 sTWO ALTERNATE FORMtHREE ALTERNATE FORMmCOMMAmFULL STOPmSYMBOL AIVAmEXCLAMATION OH",
    "16F00 bIAO LETTER PAmBAmYI PAmPLAmMAnHAmARCHAIC MAmFAmVAnFAmTAmDAmYI TTAqAmTTAmDDAmNAnHAmYI NNAmARCHAIC NAmNNA",
    "16F15 oHAmLAnYAnHAoYAmTLHAmDLHAmTLHYAmDLHYAmKAmGAmYI KAmQAnGAmNGAoHAmARCHAIC NGAmHAmXAmGHAoHAmTSSAmDZZAmNYAoHA",
    "16F2E mTSHAmDZHAmYI TSHApDZHAmREFORMED TSHAmSHAnSAmZHAnSHAmTSAmDZAmYI TSAmSAmZAnSAnZAoSAmARCHAIC ZZAmZZYAoSYAmWA",
    "16F43 mAHmHHAmBRImSYImDZYImTEnSEmRTE",
    "16F4F fSIGN CONSONANT MODIFIER BARfLETTER NASALIZATIONfSIGN ASPIRATIONkREFORMED VOICINGtASPIRATIONfVOWEL SIGN A",
    "16F55 rArHHrNsGqOrOqWOrqErNsGqOEYqIrAsNtGrOrErIrUrNGqUrAsNtGrUrEIrNGqYrIqAEsEqERRqROUNDED ERRqERqROUNDED ERqAI",
    "16F7A qEIqAUqOUqNrGqUOGqYUIqOGrERqVWqIGqEAqIONGqUI",
    "16F8F fTONE RIGHTkTOP RIGHTkABOVEkBELOWfLETTER TONE-2r3r4r5r6r7r8mREFORMED TONE-1z-2z-4z-5z-6z-8",
    "16FE0 aTANGUT ITERATION MARKaNUSHU ITERATION MARKaOLD CHINESE HOOK MARKmITERATION MARK",
    "16FE4 aKHITAN SMALL SCRIPT FILLER",
    "16FF0 aVIETNAMESE ALTERNATE READING MARK CAzING MARK NHAY",
    "18800 aTANGUT COMPONENT-001t2t3t4t5t6t7t8t9s10t1t2t3t4t5t6t7t8t9s20t1t2t3t4t5t6t7t8t9s30t1t2t3t4t5t6t7t8t9s40t1",
    "18829 t2t3t4t5t6t7t8t9s50t1t2t3t4t5t6t7t8t9s60t1t2t3t4t5t6t7t8t9s70t1t2t3t4t5t6t7t8t9s80t1t2t3t4t5t6t7t8t9s90t1",
    "1885B t2t3t4t5t6t7t8t9r100t1t2t3t4t5t6t7t8t9s10t1t2t3t4t5t6t7t8t9s20t1t2t3t4t5t6t7t8t9s30t1t2t3t4t5t6t7t8t9s40t1",
    "1888D t2t3t4t5t6t7t8t9s50t1t2t3t4t5t6t7t8t9s60t1t2t3t4t5t6t7t8t9s70t1t2t3t4t5t6t7t8t9s80t1t2t3t4t5t6t7t8t9s90t1",
    "188BF t2t3t4t5t6t7t8t9r200t1t2t3t4t5t6t7t8t9s10t1t2t3t4t5t6t7t8t9s20t1t2t3t4t5t6t7t8t9s30t1t2t3t4t5t6t7t8t9s40t1",
    "188F1 t2t3t4t5t6t7t8t9s50t1t2t3t4t5t6t7t8t9s60t1t2t3t4t5t6t7t8t9s70t1t2t3t4t5t6t7t8t9s80t1t2t3t4t5t6t7t8t9s90t1",
    "18923 t2t3t4t5t6t7t8t9r300t1t2t3t4t5t6t7t8t9s10t1t2t3t4t5t6t7t8t9s20t1t2t3t4t5t6t7t8t9s30t1t2t3t4t5t6t7t8t9s40t1",
    "18955 t2t3t4t5t6t7t8t9s50t1t2t3t4t5t6t7t8t9s60t1t2t3t4t5t6t7t8t9s70t1t2t3t4t5t6t7t8t9s80t1t2t3t4t5t6t7t8t9s90t1",
    "18987 t2t3t4t5t6t7t8t9r400t1t2t3t4t5t6t7t8t9s10t1t2t3t4t5t6t7t8t9s20t1t2t3t4t5t6t7t8t9s30t1t2t3t4t5t6t7t8t9s40t1",
    "189B9 t2t3t4t5t6t7t8t9s50t1t2t3t4t5t6t7t8t9s60t1t2t3t4t5t6t7t8t9s70t1t2t3t4t5t6t7t8t9s80t1t2t3t4t5t6t7t8t9s90t1",
    "189EB t2t3t4t5t6t7t8t9r500t1t2t3t4t5t6t7t8t9s10t1t2t3t4t5t6t7t8t9s20t1t2t3t4t5t6t7t8t9s30t1t2t3t4t5t6t7t8t9s40t1",
    "18A1D t2t3t4t5t6t7t8t9s50t1t2t3t4t5t6t7t8t9s60t1t2t3t4t5t6t7t8t9s70t1t2t3t4t5t6t7t8t9s80t1t2t3t4t5t6t7t8t9s90t1",
    "18A4F t2t3t4t5t6t7t8t9r600t1t2t3t4t5t6t7t8t9s10t1t2t3t4t5t6t7t8t9s20t1t2t3t4t5t6t7t8t9s30t1t2t3t4t5t6t7t8t9s40t1",
    "18A81 t2t3t4t5t6t7t8t9s50t1t2t3t4t5t6t7t8t9s60t1t2t3t4t5t6t7t8t9s70t1t2t3t4t5t6t7t8t9s80t1t2t3t4t5t6t7t8t9s90t1",
    "18AB3 t2t3t4t5t6t7t8t9r700t1t2t3t4t5t6t7t8t9s10t1t2t3t4t5t6t7t8t9s20t1t2t3t4t5t6t7t8t9s30t1t2t3t4t5t6t7t8t9s40t1",
    "18AE5 t2t3t4t5t6t7t8t9s50t1t2t3t4t5t6t7t8t9s60t1t2t3t4t5t6t7t8",
    "1AFF0 aKATAKANA LETTER MINNAN TONE-2zNE-3zNE-4zNE-5",
    "1AFF5 zNE-7zNE-8xNASALIZED TONE-1zSALIZED TONE-2zSALIZED TONE-3zSALIZED TONE-4zSALIZED TONE-5",
    "1AFFD zSALIZED TONE-7zSALIZED TONE-8",
    "1B000 qARCHAIC EaHIRAGANA LETTER ARCHAIC YEbENTAIGANA LETTER A-1u2u3uWOsI-1u2u3u4sU-1u2u3u4u5sE-2u3u4u5u6sO-1u2",
    "1B016 u3sKA-1v2v3v4v5v6v7v8v9v10w1vKEtI-1v2v3v4v5v6v7v8tU-1v2v3v4v5v6v7tE-1v2v3v4v5v6tO-1v2v3vKIsSA-1v2v3v4v5v6",
    "1B042 v7v8tI-1v2v3v4v5v6tU-1v2v3v4v5v6v7v8tE-1v2v3v4v5tO-1v2v3v4v5v6v7sTA-1v2v3v4tI-1v2v3v4v5v6v7tU-1v2v3v4vTO",
    "1B06E tE-1v2v3v4v5v6v7v8v9tO-1v2v3v4v5v6vRAsNA-1v2v3v4v5v6v7v8v9tI-1v2v3v4v5v6v7vTEtU-1v2v3tE-1v2v3v4v5v6vKOtO-1",
    "1B09A v2v3v4v5sHA-1v2v3v4v5v6v7v8v9v10w1tI-1v2v3v4v5v6v7tU-1v2v3tE-1v2v3v4v5v6v7tO-1v2v3v4v5v6v7v8sMA-1v2v3v4v5",
    "1B0C7 v6v7tI-1v2v3v4v5v6v7tU-1v2v3v4tE-1v2vMAtO-1v2v3v4v5v6sYA-1v2v3v4v5vYOtU-1v2v3v4tO-1v2v3v4v5v6sRA-1v2v3v4",
    "1B0F1 tI-1v2v3v4v5v6v7tU-1v2v3v4v5v6tE-1v2v3v4tO-1v2v3v4v5v6sWA-1v2v3v4v5tI-1v2v3v4v5tE-1v2v3v4tO-1v2v3v4v5v6v7",
    "1B11D sN-MU-MO-1z-2bIRAGANA LETTER ARCHAIC WUaKATAKANA LETTER ARCHAIC YIzEyWU",
    "1B150 aHIRAGANA LETTER SMALL WIxExO",
    "1B164 aKATAKANA LETTER SMALL WIxExOwN",
    "1BC00 aDUPLOYAN LETTER HqXqPqTqFqKqLqBqDqVqGqRqP NqD SqF NqK MqR SqTHqSLOAN DHqDHqKKqSLOAN JqHLqLHqRHqMqNqJqS",
    "1BC1D qM NqN MqJ MqS JqM WITH DOTqN WITH DOTqJ WITH DOTzTS INSIDE AND ABOVEqS WITH DOTzT BELOWqM SqN SqJ SqS S",
    "1BC2B qM N SqN M SqJ M SqS J SqJ S WITH DOTsNt SqS Tt RsPt RqT SsR SqWrHr RqS NsMqK R SqG R SqS Kt RqAqSLOAN OW",
    "1BC43 qOArqAOUqIqEqIEqSHORT IqUIqEEqSLOAN EHqROMANIAN IqSLOAN EEqLONG IqYEqUqEUqXWqU NqLONG UqROMANIAN UqUH",
    "1BC58 qSLOAN UqOOHrWrUqWArOrIrEIrOWqNASAL UwOwIwAqPERNIN ANyMqSLOAN ENwANwONqVOCALIC M",
    "1BC70 jAFFIX LEFT HORIZONTAL SECANTpMID HORIZONTAL SECANTpRIGHT HORIZONTAL SECANTpLOW VERTICAL SECANT",
    "1BC74 pMID VERTICAL SECANTpHIGH VERTICAL SECANTpATTACHED SECANTyLEFT-TO-RIGHT SECANTyTANGENTzAILyE HOOKyI HOOK",
    "1BC7C yTANGENT HOOK",
    "1BC80 pHIGH ACUTEuTIGHT ACUTEuGRAVEuLONG GRAVEuDOTuCIRCLEuLINEuWAVEuVERTICAL",
    "1BC90 pLOW ACUTEtTIGHT ACUTEtGRAVEtLONG GRAVEtDOTtCIRCLEtLINEtWAVEtVERTICALtARROW",
    "1BC9C jSIGN O WITH CROSSjTHICK LETTER SELECTORjDOUBLE MARKjPUNCTUATION CHINOOK FULL STOP",
    "1BCA0 aSHORTHAND FORMAT LETTER OVERLAPrCONTINUING OVERLAPrDOWN STEPrUP STEP",
    "1CF00 aZNAMENNY COMBINING MARK GORAZDO NIZKO S KRYZHEM ON LEFTyNIZKO S KRYZHEM ON LEFTyTSATA ON LEFT",
    "1CF03 yGORAZDO NIZKO ON LEFTyNIZKO ON LEFTySREDNE ON LEFTyMALO POVYSHE ON LEFTyPOVYSHE ON LEFTyVYSOKO ON LEFT",
    "1CF09 yMALO POVYSHE S KHOKHLOM ON LEFTyPOVYSHE S KHOKHLOM ON LEFTyVYSOKO S KHOKHLOM ON LEFT",
    "1CF0C yGORAZDO NIZKO S KRYZHEM ON RIGHTyNIZKO S KRYZHEM ON RIGHTyTSATA ON RIGHTyGORAZDO NIZKO ON RIGHT",
    "1CF10 yNIZKO ON RIGHTySREDNE ON RIGHTyMALO POVYSHE ON RIGHTyPOVYSHE ON RIGHTyVYSOKO ON RIGHT",
    "1CF15 yMALO POVYSHE S KHOKHLOM ON RIGHTyPOVYSHE S KHOKHLOM ON RIGHTyVYSOKO S KHOKHLOM ON RIGHTyTSATA S KRYZHEM",
    "1CF19 yMALO POVYSHE S KRYZHEMySTRANNO MALO POVYSHEyPOVYSHE S KRYZHEMzOVYSHE STRANNOyVYSOKO S KRYZHEM",
    "1CF1E yMALO POVYSHE STRANNOyGORAZDO VYSOKOyZELOyONyRAVNOyTIKHAYAyBORZAYAyUDARKAyPODVERTKAyLOMKAyKUPNAYAzACHKA",
    "1CF2A yZEVOKySKOBAyRAZSEKAyKRYZH ON LEFT",
    "1CF30 tTONAL RANGE MARK MRACHNOzRANGE MARK SVETLOzRANGE MARK TRESVETLOtMARK ZADERZHKAyDEMESTVENNY ZADERZHKA",
    "1CF35 yOTSECHKAyPODCHASHIEzODCHASHIE WITH VERTICAL STROKEyCHASHKAzHASHKA POLNAYAyOBLACHKOySOROCHYA NOZHKAyTOCHKA",
    "1CF3D yDVOETOCHIEtATTACHING VERTICAL OMETtMARK CURVED OMETyKRYZHtLOWER TONAL RANGE INDICATOR",
    "1CF42 jPRIZNAK MODIFIER LEVEL-2z LEVEL-3z DIRECTION FLIPz KRYZHz ROG",
    "1CF50 jNEUME KRYUKu TIKHYpPARAKLITpDVA V CHELNUpKLYUCHpZANOZHEKpSTOPITSAx S OCHKOMpPEREVODKAy NEPOSTOYANNAYA",
    "1CF5A pSTOPITSA WITH SOROCHYA NOZHKApCHELYUSTKApPALKApZAPYATAYApGOLUBCHIK BORZYzTIKHYzMRACHNYzSVETLYzTRESVETLY",
    "1CF63 pVRAKHIYA PROSTAYAyMRACHNAYAySVETLAYAyTRESVETLAYAyKLYUCHEVAYA PROSTAYAzLYUCHEVAYA MRACHNAYA",
    "1CF69 zLYUCHEVAYA SVETLAYAzLYUCHEVAYA TRESVETLAYApDOUBLE ZAPYATAYApREVERSED CHELYUSTKApDERBITSApKHAMILOpCHASHKA",
    "1CF70 pPODCHASHIEpSKAMEYTSA MRACHNAYAzSVETLAYAzTRESVETLAYAzTIKHAYApDEMESTVENNY KLYUCH",
    "1CF76 pSKAMEYTSA KLYUCHEVAYA SVETLAYAzKLYUCHENEPOSTOYANNAYAzKLYUCHEVAYA TIKHAYAzDVOECHELNAYA PROSTAYA",
    "1CF7A zDVOECHELNAYA SVETLAYAzDVOECHELNAYA NEPOSTOYANNAYAzDVOECHELNAYA KLYUCHEVAYAqLOZHITIEy S ZAPYATOYzZAKRYTOE",
    "1CF80 zS KRYZHEMpKRYZHpROGpFITApKOBYLApZMEYTSApSTATYAv S ZAPYATOYyKRYZHEMyZAPYATOY I KRYZHEMyKRYZHEM I ZAPYATOY",
    "1CF8B wZAKRYTAYAzRYTAYA S ZAPYATOYwS ROGOMyDVUMYA ZAPYATYMIyZAPYATOY I PODCHASHIEMpPOLKULIZMY",
    "1CF91 pSTATYA NEPOSTOYANNAYArRELA PROSTAYAwMRACHNOTIKHAYAwKRYZHEVAYAwPOLUPOVODNAYAyVODNAYAwNEPOSTOYANNAYA",
    "1CF98 wKLYUCHEPOVODNAYAzUCHENEPOSTOYANNAYAwTIKHAYA PUTNAYAwDVOECHELNAYAzECHELNOKRYZHEVAYAzECHELNOPOVODNAYA",
    "1CF9E zECHELNAYA KLYUCHEVAYAzECHELNOPOVODNAYA KLYUCHEVAYAwGROMNAYA WITH SINGLE ZAPYATAYA",
    "1CFA1 zMOPOVODNAYA WITH SINGLE ZAPYATAYAzMNAYAzMOPOVODNAYAzMOPOVODNAYA WITH DOUBLE ZAPYATAYAzMOKRYZHEVAYA",
    "1CFA6 zMOKRYZHEVAYA POVODNAYApMECHIKv POVODNYwKLYUCHEVOYzUCHEPOVODNYzUCHENEPOSTOYANNYpSTRELA TRYASOGLASNAYA",
    "1CFAD zASOPOVODNAYAzASOSTRELNAYApOSOKAu SVETLAYAvTRESVETLAYAvKRYUKOVAYA SVETLAYAwLYUCHEVAYA SVETLAYA",
    "1CFB4 zCHEVAYA NEPOSTOYANNAYApSTRELA KRYUKOVAYAzUKOVAYA POVODNAYAzUKOVAYA GROMNAYA WITH SINGLE ZAPYATAYA",
    "1CFB8 zUKOVAYA GROMOPOVODNAYA WITH SINGLE ZAPYATAYAzUKOVAYA GROMNAYAzUKOVAYA GROMOPOVODNAYA",
    "1CFBB zUKOVAYA GROMOPOVODNAYA WITH DOUBLE ZAPYATAYAzUKOVAYA GROMOKRYZHEVAYAzUKOVAYA GROMOKRYZHEVAYA POVODNAYA",
    "1CFBE zUKOVAYA TRYASKApKUFISMApOBLAKOpDUDApNEMKApPAUK" ]

end RestDispatch.Text
