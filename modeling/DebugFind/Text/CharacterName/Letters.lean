/-
Names of letters and digits, with the signs that stand between them: ASCII, the Latin letters of the European languages,
Greek, Cyrillic, Hebrew and the two Japanese syllabaries.
-/
import DebugFind.Text.CharacterName.Run

namespace DebugFind.Text.CharacterName

/-- the runs of letters -/
def letterRuns : List NameRun := [
  -- ASCII
  ⟨0x20, ["SPACE,EXCLAMATION MARK,QUOTATIONa,NUMBER SIGN,DOLLARa,PERCENTa,AMPERSAND,APOSTROPHE,LEFT PARENTHESIS,RIGHTa",
    "ASTERISK,PLUS SIGN,COMMA,HYPHEN-MINUS,FULL STOP,SOLIDUS,DIGIT ZERO,aONE,aTWO,aTHREE,aFOUR,aFIVE,aSIX,aSEVEN",
    "aEIGHT,aNINE,COLON,SEMICOLON,LESS-THAN SIGN,EQUALSa,GREATER-THANa,QUESTION MARK,COMMERCIAL AT",
    "LATIN CAPITAL LETTER A,cB,cC,cD,cE,cF,cG,cH,cI,cJ,cK,cL,cM,cN,cO,cP,cQ,cR,cS,cT,cU,cV,cW,cX,cY,cZ",
    "LEFT SQUARE BRACKET,REVERSE SOLIDUS,RIGHT SQUARE BRACKET,CIRCUMFLEX ACCENT,LOW LINE,GRAVE ACCENT",
    "LATIN SMALL LETTER A,cB,cC,cD,cE,cF,cG,cH,cI,cJ,cK,cL,cM,cN,cO,cP,cQ,cR,cS,cT,cU,cV,cW,cX,cY,cZ",
    "LEFT CURLY BRACKET,VERTICAL LINE,RIGHT CURLY BRACKET,TILDE"]⟩,
  -- the Latin letters beyond ASCII and the signs among them
  ⟨0xa0, ["NO-BREAK SPACE,INVERTED EXCLAMATION MARK,CENT SIGN,POUNDa,CURRENCYa,YENa,BROKEN BAR,SECTION SIGN,DIAERESIS",
    "COPYR\x49GHT SIGN,FEMININE ORDINAL INDICATOR,LEFT-POINTING DOUBLE ANGLE QUOTATION MARK,NOT SIGN,SOFT HYPHEN",
    "REGISTERED SIGN,MACRON,DEGREE SIGN,PLUS-MINUSa,SUPERSCRIPT TWO,aTHREE,ACUTE ACCENT,MICRO SIGN,PILCROWa,MIDDLE DOT",
    "CEDILLA,SUPERSCRIPT ONE,MASCULINE ORDINAL INDICATOR,RIGHT-POINTING DOUBLE ANGLE QUOTATION MARK",
    "VULGAR FRACTION ONE QUARTER,cHALF,bTHREE QUARTERS,INVERTED QUESTION MARK,LATIN CAPITAL LETTER A WITH GRAVE,eACUTE",
    "eCIRCUMFLEX,eTILDE,eDIAERESIS,eRING ABOVE,cAE,cC WITH CEDILLA,cE WITH GRAVE,eACUTE,eCIRCUMFLEX,eDIAERESIS",
    "cI WITH GRAVE,eACUTE,eCIRCUMFLEX,eDIAERESIS,cETH,cN WITH TILDE,cO WITH GRAVE,eACUTE,eCIRCUMFLEX,eTILDE,eDIAERESIS",
    "MULTIPLICATION SIGN,LATIN CAPITAL LETTER O WITH STROKE,cU WITH GRAVE,eACUTE,eCIRCUMFLEX,eDIAERESIS,cY WITH ACUTE",
    "cTHORN,aSMALL LETTER SHARP S,cA WITH GRAVE,eACUTE,eCIRCUMFLEX,eTILDE,eDIAERESIS,eRING ABOVE,cAE,cC WITH CEDILLA",
    "cE WITH GRAVE,eACUTE,eCIRCUMFLEX,eDIAERESIS,cI WITH GRAVE,eACUTE,eCIRCUMFLEX,eDIAERESIS,cETH,cN WITH TILDE",
    "cO WITH GRAVE,eACUTE,eCIRCUMFLEX,eTILDE,eDIAERESIS,DIVISION SIGN,LATIN SMALL LETTER O WITH STROKE,cU WITH GRAVE",
    "eACUTE,eCIRCUMFLEX,eDIAERESIS,cY WITH ACUTE,cTHORN,cY WITH DIAERESIS,aCAPITAL LETTER A WITH MACRON,aSMALLd",
    "aCAPITAL LETTER A WITH BREVE,aSMALLd,aCAPITAL LETTER A WITH OGONEK,aSMALLd,aCAPITAL LETTER C WITH ACUTE,aSMALLd",
    "aCAPITAL LETTER C WITH CIRCUMFLEX,aSMALLd,aCAPITAL LETTER C WITH DOT ABOVE,aSMALLe,aCAPITAL LETTER C WITH CARON",
    "aSMALLd,aCAPITAL LETTER Db,aSMALLd,aCAPITAL LETTER D WITH STROKE,aSMALLd,aCAPITAL LETTER E WITH MACRON,aSMALLd",
    "aCAPITAL LETTER E WITH BREVE,aSMALLd,aCAPITAL LETTER E WITH DOT ABOVE,aSMALLe,aCAPITAL LETTER E WITH OGONEK",
    "aSMALLd,aCAPITAL LETTER E WITH CARON,aSMALLd,aCAPITAL LETTER G WITH CIRCUMFLEX,aSMALLd",
    "aCAPITAL LETTER G WITH BREVE,aSMALLd,aCAPITAL LETTER G WITH DOT ABOVE,aSMALLe,aCAPITAL LETTER G WITH CEDILLA",
    "aSMALLd,aCAPITAL LETTER H WITH CIRCUMFLEX,aSMALLd,aCAPITAL LETTER H WITH STROKE,aSMALLd",
    "aCAPITAL LETTER I WITH TILDE,aSMALLd,aCAPITAL LETTER I WITH MACRON,aSMALLd,aCAPITAL LETTER I WITH BREVE,aSMALLd",
    "aCAPITAL LETTER I WITH OGONEK,aSMALLd,aCAPITAL LETTER I WITH DOT ABOVE,aSMALL LETTER DOTLESS I",
    "aCAPITAL LIGATURE IJ,aSMALLb,aCAPITAL LETTER J WITH CIRCUMFLEX,aSMALLd,aCAPITAL LETTER K WITH CEDILLA,aSMALLd",
    "cKRA,aCAPITAL LETTER L WITH ACUTE,aSMALLd,aCAPITAL LETTER L WITH CEDILLA,aSMALLd,aCAPITAL LETTER L WITH CARON",
    "aSMALLd,aCAPITAL LETTER L WITH MIDDLE DOT,aSMALLe,aCAPITAL LETTER L WITH STROKE,aSMALLd",
    "aCAPITAL LETTER N WITH ACUTE,aSMALLd,aCAPITAL LETTER N WITH CEDILLA,aSMALLd,aCAPITAL LETTER N WITH CARON,aSMALLd",
    "dPRECEDED BY APOSTROPHE,aCAPITAL LETTER ENG,aSMALLb,aCAPITAL LETTER O WITH MACRON,aSMALLd",
    "aCAPITAL LETTER O WITH BREVE,aSMALLd,aCAPITAL LETTER O WITH DOUBLE ACUTE,aSMALLe,aCAPITAL LIGATURE OE,aSMALLb",
    "aCAPITAL LETTER R WITH ACUTE,aSMALLd,aCAPITAL LETTER R WITH CEDILLA,aSMALLd,aCAPITAL LETTER R WITH CARON,aSMALLd",
    "aCAPITAL LETTER S WITH ACUTE,aSMALLd,aCAPITAL LETTER S WITH CIRCUMFLEX,aSMALLd,aCAPITAL LETTER S WITH CEDILLA",
    "aSMALLd,aCAPITAL LETTER S WITH CARON,aSMALLd,aCAPITAL LETTER T WITH CEDILLA,aSMALLd,aCAPITAL LETTER T WITH CARON",
    "aSMALLd,aCAPITAL LETTER T WITH STROKE,aSMALLd,aCAPITAL LETTER U WITH TILDE,aSMALLd,aCAPITAL LETTER U WITH MACRON",
    "aSMALLd,aCAPITAL LETTER U WITH BREVE,aSMALLd,aCAPITAL LETTER U WITH RING ABOVE,aSMALLe",
    "aCAPITAL LETTER U WITH DOUBLE ACUTE,aSMALLe,aCAPITAL LETTER U WITH OGONEK,aSMALLd",
    "aCAPITAL LETTER W WITH CIRCUMFLEX,aSMALLd,aCAPITAL LETTER Yb,aSMALLd,aCAPITAL LETTER Y WITH DIAERESIS",
    "cZ WITH ACUTE,aSMALLd,aCAPITAL LETTER Z WITH DOT ABOVE,aSMALLe,aCAPITAL LETTER Z WITH CARON,aSMALLd,cLONG S"]⟩,
  -- the Greek letters
  ⟨0x370, ["GREEK CAPITAL LETTER HETA,aSMALLb,aCAPITAL LETTER ARCHAIC SAMPI,aSMALLc,aNUMERAL SIGN,aLOWERb",
    "aCAPITAL LETTER PAMPHYLIAN DIGAMMA,aSMALLc,,,aYPOGEGRAMMENI,aSMALL REVERSED LUNATE SIGMA SYMBOL,bDOTTEDc",
    "bREVERSEDd,aQUESTION MARK,aCAPITAL LETTER YOT,,,,,aTONOS,aDIALYTIKAa,aCAPITAL LETTER ALPHA WITHa,aANO TELEIA",
    "aCAPITAL LETTER EPSILON WITH TONOS,cETAb,cIOTAb,,cOMICRONb,,cUPSILONb,cOMEGAb",
    "aSMALL LETTER IOTA WITH DIALYTIKA ANDa,aCAPITAL LETTER ALPHA,cBETA,cGAMMA,cDELTA,cEPSILON,cZETA,cETA,cTHETA,cIOTA",
    "cKAPPA,cLAMDA,cMU,cNU,cXI,cOMICRON,cPI,cRHO,,cSIGMA,cTAU,cUPSILON,cPHI,cCHI,cPSI,cOMEGA,cIOTA WITH DIALYTIKA",
    "cUPSILONb,aSMALL LETTER ALPHA WITH TONOS,cEPSILONb,cETAb,cIOTAb,cUPSILON WITH DIALYTIKA ANDa,cALPHA,cBETA,cGAMMA",
    "cDELTA,cEPSILON,cZETA,cETA,cTHETA,cIOTA,cKAPPA,cLAMDA,cMU,cNU,cXI,cOMICRON,cPI,cRHO,cFINAL SIGMA,cSIGMA,cTAU",
    "cUPSILON,cPHI,cCHI,cPSI,cOMEGA,cIOTA WITH DIALYTIKA,cUPSILONb,cOMICRON WITH TONOS,cUPSILONb,cOMEGAb",
    "aCAPITAL KAI SYMBOL,aBETAa,aTHETAa,aUPSILON WITH HOOKa,cACUTE ANDb,cDIAERESISc,aPHIa,aPIa,aKAIa",
    "aLETTER ARCHAIC KOPPA,aSMALLc,aLETTER STIGMA,aSMALLb,aLETTER DIGAMMA,aSMALLb,aLETTER KOPPA,aSMALLb,aLETTER SAMPI",
    "aSMALLb,COPTIC CAPITAL LETTER SHEI,aSMALLb,aCAPITAL LETTER FEI,aSMALLb,aCAPITAL LETTER KHEI,aSMALLb",
    "aCAPITAL LETTER HORI,aSMALLb,aCAPITAL LETTER GANGIA,aSMALLb,aCAPITAL LETTER SHIMA,aSMALLb,aCAPITAL LETTER DEI",
    "aSMALLb,GREEK KAPPA SYMBOL,aRHOa,aLUNATE SIGMAa,aLETTER YOT,aCAPITAL THETA SYMBOL,aLUNATE EPSILONa,aREVERSEDc",
    "aCAPITAL LETTER SHO,aSMALLb,aCAPITAL LUNATE SIGMA SYMBOL,bLETTER SAN,aSMALLb,aRHO WITH STROKE SYMBOL",
    "aCAPITAL REVERSED LUNATE SIGMAa,bDOTTEDc,bREVERSEDd"]⟩,
  -- the Cyrillic letters
  ⟨0x400, ["CYRILLIC CAPITAL LETTER IE WITH GRAVE,cIO,cDJE,cGJE,cUKRAINIAN IE,cDZE,cBYELORUSSIAN-UKRAINIAN I,cYI,cJE",
    "cLJE,cNJE,cTSHE,cKJE,cI WITH GRAVE,cSHORT U,cDZHE,cA,cBE,cVE,cGHE,cDE,cIE,cZHE,cZE,cI,cSHORTa,cKA,cEL,cEM,cEN,cO",
    "cPE,cER,cES,cTE,cU,cEF,cHA,cTSE,cCHE,cSHA,cSHCHA,cHARD SIGN,cYERU,cSOFT SIGN,cE,cYU,cYA,aSMALL LETTER A,cBE,cVE",
    "cGHE,cDE,cIE,cZHE,cZE,cI,cSHORTa,cKA,cEL,cEM,cEN,cO,cPE,cER,cES,cTE,cU,cEF,cHA,cTSE,cCHE,cSHA,cSHCHA,cHARD SIGN",
    "cYERU,cSOFT SIGN,cE,cYU,cYA,cIE WITH GRAVE,cIO,cDJE,cGJE,cUKRAINIAN IE,cDZE,cBYELORUSSIAN-UKRAINIAN I,cYI,cJE",
    "cLJE,cNJE,cTSHE,cKJE,cI WITH GRAVE,cSHORT U,cDZHE"]⟩,
  -- the Hebrew letters
  ⟨0x5d0, ["HEBREW LETTER ALEF,bBET,bGIMEL,bDALET,bHE,bVAV,bZAYIN,bHET,bTET,bYOD,bFINAL KAF,bKAF,bLAMED,bFINAL MEM",
    "bMEM,bFINAL NUN,bNUN,bSAMEKH,bAYIN,bFINAL PE,bPE,bFINAL TSADI,bTSADI,bQOF,bRESH,bSHIN,bTAV"]⟩,
  -- Hiragana
  ⟨0x3041, ["HIRAGANA LETTER SMALL A,bA,bSMALL I,bI,bSMALL U,bU,bSMALL E,bE,bSMALL O,bO,bKA,bGA,bKI,bGI,bKU,bGU,bKE",
    "bGE,bKO,bGO,bSA,bZA,bSI,bZI,bSU,bZU,bSE,bZE,bSO,bZO,bTA,bDA,bTI,bDI,bSMALL TU,bTU,bDU,bTE,bDE,bTO,bDO,bNA,bNI,bNU",
    "bNE,bNO,bHA,bBA,bPA,bHI,bBI,bPI,bHU,bBU,bPU,bHE,bBE,bPE,bHO,bBO,bPO,bMA,bMI,bMU,bME,bMO,bSMALL YA,bYA,bSMALL YU",
    "bYU,bSMALL YO,bYO,bRA,bRI,bRU,bRE,bRO,bSMALL WA,bWA,bWI,bWE,bWO,bN,bVU,bSMALL KA,cKE,,",
    "COMBINING KATAKANA-HIRAGANA VOICED SOUND MARK,bSEMI-VOICEDb,KATAKANA-HIRAGANA VOICEDb,aSEMI-VOICEDb",
    "HIRAGANA ITERATIONa,aVOICEDb,aDIGRAPH YORI"]⟩,
  -- Katakana
  ⟨0x30a0, ["KATAKANA-HIRAGANA DOUBLE HYPHEN,KATAKANA LETTER SMALL A,bA,bSMALL I,bI,bSMALL U,bU,bSMALL E,bE,bSMALL O",
    "bO,bKA,bGA,bKI,bGI,bKU,bGU,bKE,bGE,bKO,bGO,bSA,bZA,bSI,bZI,bSU,bZU,bSE,bZE,bSO,bZO,bTA,bDA,bTI,bDI,bSMALL TU,bTU",
    "bDU,bTE,bDE,bTO,bDO,bNA,bNI,bNU,bNE,bNO,bHA,bBA,bPA,bHI,bBI,bPI,bHU,bBU,bPU,bHE,bBE,bPE,bHO,bBO,bPO,bMA,bMI,bMU",
    "bME,bMO,bSMALL YA,bYA,bSMALL YU,bYU,bSMALL YO,bYO,bRA,bRI,bRU,bRE,bRO,bSMALL WA,bWA,bWI,bWE,bWO,bN,bVU,bSMALL KA",
    "cKE,bVA,bVI,bVE,bVO,aMIDDLE DOT,KATAKANA-HIRAGANA PROLONGED SOUND MARK,KATAKANA ITERATIONa,aVOICEDb,aDIGRAPH KOTO"]⟩]

end DebugFind.Text.CharacterName
