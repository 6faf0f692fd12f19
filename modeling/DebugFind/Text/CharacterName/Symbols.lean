/-
Names of signs: punctuation, currencies, arrows, operators, the lines of boxes, shapes, ornaments and faces.
-/
import DebugFind.Text.CharacterName.Run

namespace DebugFind.Text.CharacterName

/-- the runs of signs -/
def symbolRuns : List NameRun := [
  -- spaces, dashes, quotes and invisible marks
  ⟨0x2000, ["EN QUAD,EMa,EN SPACE,EMa,THREE-PER-EMa,FOUR-PER-EMa,SIX-PER-EMa,FIGUREa,PUNCTUATIONa,THINa,HAIRa",
    "ZERO WIDTHa,bNON-JOINER,bJOINER,LEFT-TO-RIGHT MARK,RIGHT-TO-LEFTa,HYPHEN,NON-BREAKINGa,FIGURE DASH,ENa,EMa",
    "HORIZONTAL BAR,DOUBLE VERTICAL LINE,aLOWa,LEFT SINGLE QUOTATION MARK,RIGHTc,SINGLE LOW-9b,aHIGH-REVERSED-9b",
    "LEFT DOUBLEb,RIGHTc,DOUBLE LOW-9b,aHIGH-REVERSED-9b,DAGGER,DOUBLEa,BULLET,TRIANGULARa,ONE DOT LEADER,TWOb",
    "HORIZONTAL ELLIPSIS,HYPHENATION POINT,LINE SEPARATOR,PARAGRAPHa,LEFT-TO-RIGHT EMBEDDING,RIGHT-TO-LEFTa",
    "POP DIRECTIONAL FORMATTING,LEFT-TO-RIGHT OVERRIDE,RIGHT-TO-LEFTa,NARROW NO-BREAK SPACE,PER MILLE SIGN",
    "aTEN THOUSANDa,PRIME,DOUBLEa,TRIPLEa,REVERSEDa,aDOUBLEa,aTRIPLEa,CARET,SINGLE LEFT-POINTING ANGLE QUOTATION MARK",
    "aRIGHT-POINTINGc,REFERENCEa,DOUBLE EXCLAMATIONa,INTERROBANG,OVERLINE,UNDERTIE,CHARACTER TIE,CARET INSERTION POINT",
    "ASTERISM,HYPHEN BULLET,FRACTION SLASH,LEFT SQUARE BRACKET WITH QUILL,RIGHTd,DOUBLE QUESTION MARK",
    "QUESTION EXCLAMATIONa,EXCLAMATION QUESTIONa,TIRONIAN SIGN ET,REVERSED PILCROW SIGN,BLACK LEFTWARDS BULLET",
    "aRIGHTWARDSa,LOW ASTERISK,REVERSED SEMICOLON,CLOSE UP,TWO ASTERISKS ALIGNED VERTICALLY,COMMERCIAL MINUS SIGN",
    "SWUNG DASH,INVERTED UNDERTIE,FLOWER PUNCTUATION MARK,THREE DOT PUNCTUATION,QUADRUPLE PRIME,FOUR DOT PUNCTUATION",
    "FIVEb,TWOb,FOUR DOT MARK,DOTTED CROSS,TRICOLON,VERTICAL FOUR DOTS,MEDIUM MATHEMATICAL SPACE,WORD JOINER",
    "FUNCTION APPLICATION,INVISIBLE TIMES,aSEPARATOR,aPLUS,,LEFT-TO-RIGHT ISOLATE,RIGHT-TO-LEFTa,FIRST STRONGa",
    "POP DIRECTIONALa,INHIBIT SYMMETRIC SWAPPING,ACTIVATEb,INHIBIT ARABIC FORM SHAPING,ACTIVATEc,NATIONAL DIGIT SHAPES",
    "NOMINALb"]⟩,
  -- raised and lowered digits and letters
  ⟨0x2070, ["SUPERSCRIPT ZERO,aLATIN SMALL LETTER I,,,aFOUR,aFIVE,aSIX,aSEVEN,aEIGHT,aNINE,aPLUS SIGN,aMINUS",
    "aEQUALS SIGN,aLEFT PARENTHESIS,aRIGHTa,aLATIN SMALL LETTER N,SUBSCRIPT ZERO,aONE,aTWO,aTHREE,aFOUR,aFIVE,aSIX",
    "aSEVEN,aEIGHT,aNINE,aPLUS SIGN,aMINUS,aEQUALS SIGN,aLEFT PARENTHESIS,aRIGHTa,,LATIN SUBSCRIPT SMALL LETTER A,dE",
    "dO,dX,dSCHWA,dH,dK,dL,dM,dN,dP,dS,dT"]⟩,
  -- currencies
  ⟨0x20a0, ["EURO-CURRENCY SIGN,COLONa,CRUZEIROa,FRENCH FRANCa,LIRAa,MILLa,NAIRAa,PESETAa,RUPEEa,WONa,NEW SHEQELa",
    "DONGa,EUROa,KIPa,TUGRIKa,DRACHMAa,GERMAN PENNYa,PESOa,GUARANIa,AUSTRALa,HRYVNIAa,CEDIa,LIVRE TOURNOISa,SPESMILOa",
    "TENGEa,INDIAN RUPEEa,TURKISH LIRAa,NORDIC MARKa,MANATa,RUBLEa,LARIa,BITCOINa,SOMa"]⟩,
  -- signs made of letters
  ⟨0x2100, ["ACCOUNT OF,ADDRESSED TO THE SUBJECT,DOUBLE-STRUCK CAPITAL C,DEGREE CELSIUS,CENTRE LINE SYMBOL,CARE OF",
    "CADA UNA,EULER CONSTANT,SCRUPLE,DEGREE FAHRENHEIT,SCRIPT SMALL G,aCAPITAL H,BLACK-LETTERb,DOUBLE-STRUCKb",
    "PLANCK CONSTANT,bOVER TWO PI,SCRIPT CAPITAL I,BLACK-LETTERb,SCRIPT CAPITAL L,aSMALLa,L B BAR SYMBOL",
    "DOUBLE-STRUCK CAPITAL N,NUMERO SIGN,SOUND RECORDING COPYR\x49GHT,SCRIPT CAPITAL P,DOUBLE-STRUCKb,bQ",
    "SCRIPT CAPITAL R,BLACK-LETTERb,DOUBLE-STRUCKb,PRESCRIPTION TAKE,RESPONSE,SERVICE MARK,TELEPHONE SIGN,TRADE MARKa",
    "VERSICLE,DOUBLE-STRUCK CAPITAL Z,OUNCE SIGN,OHMa,INVERTEDb,BLACK-LETTER CAPITAL Z,TURNED GREEK SMALL LETTER IOTA",
    "KELVIN SIGN,ANGSTROMa,SCRIPT CAPITAL B,BLACK-LETTER CAPITAL C,ESTIMATED SYMBOL,SCRIPT SMALL E,aCAPITALa,bF",
    "TURNEDb,SCRIPT CAPITAL M,aSMALL O,ALEF SYMBOL,BETa,GIMELa,DALETa,INFORMATION SOURCE,ROTATED CAPITAL Q",
    "FACSIMILE SIGN,DOUBLE-STRUCK SMALL PI,bGAMMA,aCAPITALa,bPI,aN-ARY SUMMATION,TURNED SANS-SERIF CAPITAL G,cL",
    "REVERSEDc,TURNED SANS-SERIF CAPITAL Y,DOUBLE-STRUCK ITALIC CAPITAL D,bSMALLa,cE,cI,cJ,PROPERTY LINE",
    "TURNED AMPERSAND,PER SIGN,AKTIESELSKAB,TURNED SMALL F,SYMBOL FOR SAMARITAN SOURCE"]⟩,
  -- fractions and Roman numerals
  ⟨0x2150, ["VULGAR FRACTION ONE SEVENTH,cNINTH,cTENTH,cTHIRD,bTWO THIRDS,bONE FIFTH,bTWO FIFTHS,bTHREEa,bFOURa",
    "bONE SIXTH,bFIVE SIXTHS,bONE EIGHTH,bTHREE EIGHTHS,bFIVEa,bSEVENa,FRACTION NUMERATOR ONE,ROMAN NUMERALa,bTWO",
    "bTHREE,bFOUR,bFIVE,bSIX,bSEVEN,bEIGHT,bNINE,bTEN,bELEVEN,bTWELVE,bFIFTY,bONE HUNDRED,bFIVEa,bONE THOUSAND",
    "SMALL ROMAN NUMERAL ONE,cTWO,cTHREE,cFOUR,cFIVE,cSIX,cSEVEN,cEIGHT,cNINE,cTEN,cELEVEN,cTWELVE,cFIFTY,cONE HUNDRED",
    "cFIVEa,cONE THOUSAND,ROMAN NUMERAL ONE THOUSAND C D,bFIVE THOUSAND,bTENa,bREVERSED ONE HUNDRED",
    "LATIN SMALL LETTER REVERSED C,ROMAN NUMERAL SIX LATE FORM,bFIFTY EARLYa,cTHOUSAND,bONE HUNDREDa",
    "VULGAR FRACTION ZERO THIRDS,TURNED DIGIT TWO,bTHREE"]⟩,
  -- arrows
  ⟨0x2190, ["LEFTWARDS ARROW,UPWARDSa,RIGHTWARDSa,DOWNWARDSa,LEFT RIGHTa,UP DOWNa,NORTH WESTa,aEASTa,SOUTHb,aWESTa",
    "LEFTWARDS ARROW WITH STROKE,RIGHTWARDSc,LEFTWARDS WAVE ARROW,RIGHTWARDSb,LEFTWARDS TWO HEADEDa,UPWARDSc",
    "RIGHTWARDSc,DOWNWARDSc,LEFTWARDS ARROW WITH TAIL,RIGHTWARDSc,LEFTWARDS ARROW FROM BAR,UPWARDSc,RIGHTWARDSc",
    "DOWNWARDSc,UP DOWN ARROW WITH BASE,LEFTWARDS ARROW WITH HOOK,RIGHTWARDSc,LEFTWARDS ARROW WITH LOOP,RIGHTWARDSc",
    "LEFT RIGHT WAVE ARROW,bARROW WITH STROKE,DOWNWARDS ZIGZAG ARROW,UPWARDS ARROW WITH TIP LEFTWARDS,dRIGHTWARDS",
    "DOWNWARDS ARROW WITH TIP LEFTWARDS,dRIGHTWARDS,RIGHTWARDS ARROW WITH CORNER DOWNWARDS",
    "DOWNWARDS ARROW WITH CORNER LEFTWARDS,ANTICLOCKWISE TOP SEMICIRCLE ARROW,CLOCKWISEc,NORTH WEST ARROW TO LONG BAR",
    "LEFTWARDS ARROW TO BAR OVER RIGHTWARDS ARROW TOa,ANTICLOCKWISE OPEN CIRCLE ARROW,CLOCKWISEc",
    "LEFTWARDS HARPOON WITH BARB UPWARDS,dDOWNWARDS,UPWARDS HARPOON WITH BARB RIGHTWARDS,dLEFTWARDS",
    "RIGHTWARDS HARPOON WITH BARB UPWARDS,dDOWNWARDS,DOWNWARDS HARPOON WITH BARB RIGHTWARDS,dLEFTWARDS",
    "RIGHTWARDS ARROW OVER LEFTWARDS ARROW,UPWARDS ARROW LEFTWARDS OF DOWNWARDSa,LEFTWARDS ARROW OVER RIGHTWARDSa",
    "aPAIRED ARROWS,UPWARDSb,RIGHTWARDSb,DOWNWARDSb,LEFTWARDS HARPOON OVER RIGHTWARDS HARPOON",
    "RIGHTWARDS HARPOON OVER LEFTWARDSa,LEFTWARDS DOUBLE ARROW WITH STROKE,LEFT RIGHTd,RIGHTWARDSd",
    "LEFTWARDS DOUBLE ARROW,UPWARDSb,RIGHTWARDSb,DOWNWARDSb,LEFT RIGHTb,UP DOWNb,NORTH WESTb,aEASTb,SOUTHc,aWESTb",
    "LEFTWARDS TRIPLEa,RIGHTWARDSb,LEFTWARDS SQUIGGLEa,RIGHTWARDSb,UPWARDS ARROW WITH DOUBLE STROKE,DOWNWARDSd",
    "LEFTWARDS DASHED ARROW,UPWARDSb,RIGHTWARDSb,DOWNWARDSb,LEFTWARDS ARROW TO BAR,RIGHTWARDSc,LEFTWARDS WHITE ARROW",
    "UPWARDSb,RIGHTWARDSb,DOWNWARDSb,UPWARDS WHITE ARROW FROM BAR,cON PEDESTAL,eWITH HORIZONTAL BAR,fVERTICALa",
    "bDOUBLE ARROW,dON PEDESTAL,RIGHTWARDS WHITE ARROW FROM WALL,NORTH WEST ARROW TO CORNER,SOUTH EASTc",
    "UP DOWN WHITE ARROW,RIGHT ARROW WITH SMALL CIRCLE,DOWNWARDS ARROW LEFTWARDS OF UPWARDS ARROW",
    "THREE RIGHTWARDS ARROWS,LEFTWARDS ARROW WITH VERTICAL STROKE,RIGHTWARDSd,LEFT RIGHTd,LEFTWARDS ARROW WITH DOUBLEb",
    "RIGHTWARDSe,LEFT RIGHTe,LEFTWARDS OPEN-HEADED ARROW,RIGHTWARDSb,LEFT RIGHTb"]⟩,
  -- operators
  ⟨0x2200, ["FOR ALL,COMPLEMENT,PARTIAL DIFFERENTIAL,THERE EXISTS,aDOES NOT EXIST,EMPTY SET,INCREMENT,NABLA,ELEMENT OF",
    "NOT ANb,SMALLb,CONTAINS AS MEMBER,DOES NOT CONTAINb,SMALL CONTAINSb,END OF PROOF,N-ARY PRODUCT,aCOPRODUCT",
    "aSUMMATION,MINUS SIGN,MINUS-OR-PLUSa,DOT PLUS,DIVISION SLASH,SET MINUS,ASTERISK OPERATOR,RINGa,BULLETa",
    "SQUARE ROOT,CUBEa,FOURTHa,PROPORTIONAL TO,INFINITY,RIGHT ANGLE,ANGLE,MEASUREDa,SPHERICALa,DIVIDES,DOES NOT DIVIDE",
    "PARALLEL TO,NOTb,LOGICAL AND,aOR,INTERSECTION,UNION,INTEGRAL,DOUBLEa,TRIPLEa,CONTOURa,SURFACEa,VOLUMEa,CLOCKWISEa",
    "aCONTOURa,ANTICLOCKWISEb,THEREFORE,BECAUSE,RATIO,PROPORTION,DOT MINUS,EXCESS,GEOMETRIC PROPORTION,HOMOTHETIC",
    "TILDE OPERATOR,REVERSED TILDE,INVERTED LAZY S,SINE WAVE,WREATH PRODUCT,NOT TILDE,MINUSa,ASYMPTOTICALLY EQUAL TO",
    "NOTc,APPROXIMATELYb,aBUT NOT ACTUALLYb,NEITHER APPROXIMATELY NORc,ALMOSTb,NOTc,ALMOST EQUAL ORb,TRIPLE TILDE",
    "ALL EQUAL TO,EQUIVALENTa,GEOMETRICALLYb,DIFFERENCE BETWEEN,APPROACHES THE LIMIT,GEOMETRICALLY EQUAL TO",
    "APPROXIMATELY EQUAL TO OR THE IMAGE OF,IMAGE OF OR APPROXIMATELY EQUAL TO,COLON EQUALS,EQUALS COLON",
    "RING IN EQUAL TO,aEQUALa,CORRESPONDSa,ESTIMATES,EQUIANGULAR TO,STAR EQUALS,DELTA EQUAL TO,EQUAL TO BY DEFINITION",
    "MEASURED BY,QUESTIONED EQUAL TO,NOTb,IDENTICALa,NOTb,STRICTLY EQUIVALENTa,LESS-THAN OR EQUALa,GREATER-THANc",
    "LESS-THAN OVERb,GREATER-THANc,LESS-THAN BUT NOTb,GREATER-THANd,MUCH LESS-THAN,aGREATER-THAN,BETWEEN",
    "NOT EQUIVALENT TO,aLESS-THAN,aGREATER-THAN,NEITHER LESS-THAN NOR EQUAL TO,aGREATER-THANc,LESS-THAN OR EQUIVALENTa",
    "GREATER-THANc,NEITHER LESS-THAN NORb,aGREATER-THANc,LESS-THAN OR GREATER-THAN,GREATER-THAN OR LESS-THAN",
    "NEITHER LESS-THAN NOR GREATER-THAN,aGREATER-THAN NOR LESS-THAN,PRECEDES,SUCCEEDS,PRECEDES OR EQUAL TO,SUCCEEDSc",
    "PRECEDES OR EQUIVALENTa,SUCCEEDSc,DOES NOT PRECEDE,bSUCCEED,SUBSET OF,SUPERSETa,NOT A SUBSETa,bSUPERSETa",
    "SUBSET OF OR EQUAL TO,SUPERSETd,NEITHER A SUBSET OF NORb,bSUPERSETd,SUBSET OF WITH NOTb,SUPERSETe,MULTISET",
    "aMULTIPLICATION,aUNION,SQUARE IMAGE OF,aORIG\x49NALa,aIMAGE OF OR EQUAL TO,aORIG\x49NALd,aCAP,aCUP,CIRCLED PLUS",
    "aMINUS,aTIMES,aDIVISION SLASH,aDOT OPERATOR,aRINGa,aASTERISKa,aEQUALS,aDASH,SQUARED PLUS,aMINUS,aTIMES",
    "aDOT OPERATOR,RIGHT TACK,LEFTa,DOWNa,UPa,ASSERTION,MODELS,TRUE,FORCES,TRIPLE VERTICAL BAR RIGHT TURNSTILE",
    "DOUBLE VERTICAL BAR DOUBLEb,DOES NOT PROVE,NOT TRUE,DOES NOT FORCE",
    "NEGATED DOUBLE VERTICAL BAR DOUBLE RIGHT TURNSTILE,PRECEDES UNDER RELATION,SUCCEEDSb,NORMAL SUBGROUP OF",
    "CONTAINS AS NORMAL SUBGROUP,NORMAL SUBGROUP OF OR EQUAL TO,CONTAINS AS NORMAL SUBGROUPc,ORIG\x49NAL OF,IMAGEa",
    "MULTIMAP,HERMITIAN CONJUGATE MATRIX,INTERCALATE,XOR,NAND,NOR,RIGHT ANGLE WITH ARC,aTRIANGLE,N-ARY LOGICAL AND,bOR",
    "aINTERSECTION,aUNION,DIAMOND OPERATOR,DOTa,STARa,DIVISION TIMES,BOWTIE,LEFT NORMAL FACTOR SEMIDIRECT PRODUCT",
    "RIGHTd,LEFTb,RIGHTb,REVERSED TILDE EQUALS,CURLY LOGICAL OR,bAND,DOUBLE SUBSET,aSUPERSET,aINTERSECTION,aUNION",
    "PITCHFORK,EQUAL AND PARALLEL TO,LESS-THAN WITH DOT,GREATER-THANb,VERY MUCH LESS-THAN,bGREATER-THAN",
    "LESS-THAN EQUAL TO ORa,GREATER-THAN EQUAL TO OR LESS-THAN,EQUALc,cGREATER-THAN,cPRECEDES,cSUCCEEDS",
    "DOES NOT PRECEDE OR EQUAL,bSUCCEEDb,NOT SQUARE IMAGE OF OR EQUAL TO,bORIG\x49NALd,SQUARE IMAGE OF OR NOTb",
    "aORIG\x49NALe,LESS-THAN BUT NOT EQUIVALENTa,GREATER-THANd,PRECEDESd,SUCCEEDSd,NOT NORMAL SUBGROUP OF",
    "DOES NOT CONTAIN AS NORMAL SUBGROUP,NOT NORMAL SUBGROUP OF OR EQUAL TO",
    "DOES NOT CONTAIN AS NORMAL SUBGROUP OR EQUAL,VERTICAL ELLIPSIS,MIDLINE HORIZONTALa,UP RIGHT DIAGONALa,DOWNc",
    "ELEMENT OF WITH LONG HORIZONTAL STROKE,cVERTICAL BAR AT END OFb,SMALLj,ELEMENT OF WITH DOT ABOVE,cOVERBAR,SMALLd",
    "ELEMENT OF WITH UNDERBAR,cTWO HORIZONTAL STROKES,CONTAINS WITH LONG HORIZONTAL STROKE,bVERTICAL BAR AT END OFb",
    "SMALLi,CONTAINS WITH OVERBAR,SMALLc,Z NOTATION BAG MEMBERSHIP"]⟩,
  -- pictures of the control characters
  ⟨0x2400, ["SYMBOL FOR NULL,bSTART OF HEADING,dTEXT,bENDb,dTRANSMISSION,bENQUIRY,bACKNOWLEDGE,bBELL,bBACKSPACE",
    "bHORIZONTAL TABULATION,bLINE FEED,bVERTICAL TABULATION,bFORM FEED,bCARRIAGE RETURN,bSHIFT OUT,cIN",
    "bDATA LINK ESCAPE,bDEVICE CONTROL ONE,dTWO,dTHREE,dFOUR,bNEGATIVE ACKNOWLEDGE,bSYNCHRONOUS IDLE",
    "bEND OF TRANSMISSION BLOCK,bCANCEL,bEND OF MEDIUM,bSUBSTITUTE,bESCAPE,bFILE SEPARATOR,bGROUPa,bRECORDa,bUNITa",
    "bSPACE,bDELETE,BLANK SYMBOL,OPEN BOX,SYMBOL FOR NEWLINE,bDELETE FORM TWO,bSUBSTITUTEb"]⟩,
  -- lines of boxes
  ⟨0x2500, ["BOX DRAWINGS LIGHT HORIZONTAL,bHEAVYa,bLIGHT VERTICAL,bHEAVYa,bLIGHT TRIPLE DASH HORIZONTAL,bHEAVYc",
    "bLIGHT TRIPLE DASH VERTICAL,bHEAVYc,bLIGHT QUADRUPLE DASH HORIZONTAL,bHEAVYc,bLIGHT QUADRUPLE DASH VERTICAL",
    "bHEAVYc,bLIGHT DOWN AND RIGHT,bDOWN LIGHT AND RIGHT HEAVY,cHEAVY AND RIGHT LIGHT,bHEAVY DOWN AND RIGHT",
    "bLIGHT DOWN AND LEFT,bDOWN LIGHT AND LEFT HEAVY,cHEAVY AND LEFT LIGHT,bHEAVY DOWN AND LEFT,bLIGHT UP AND RIGHT",
    "bUP LIGHT AND RIGHT HEAVY,cHEAVY AND RIGHT LIGHT,bHEAVY UP AND RIGHT,bLIGHT UP AND LEFT,bUP LIGHT AND LEFT HEAVY",
    "cHEAVY AND LEFT LIGHT,bHEAVY UP AND LEFT,bLIGHT VERTICAL AND RIGHT,bVERTICAL LIGHT AND RIGHT HEAVY",
    "bUP HEAVY AND RIGHT DOWN LIGHT,bDOWN HEAVY AND RIGHT UPa,bVERTICAL HEAVY AND RIGHTa",
    "bDOWN LIGHT AND RIGHT UP HEAVY,bUP LIGHT AND RIGHT DOWNa,bHEAVY VERTICAL AND RIGHT,bLIGHT VERTICAL AND LEFT",
    "bVERTICAL LIGHT AND LEFT HEAVY,bUP HEAVY AND LEFT DOWN LIGHT,bDOWN HEAVY AND LEFT UPa,bVERTICAL HEAVY AND LEFTa",
    "bDOWN LIGHT AND LEFT UP HEAVY,bUP LIGHT AND LEFT DOWNa,bHEAVY VERTICAL AND LEFT,bLIGHT DOWN AND HORIZONTAL",
    "bLEFT HEAVY AND RIGHT DOWN LIGHT,bRIGHT HEAVY AND LEFTb,bDOWN LIGHT AND HORIZONTAL HEAVY",
    "cHEAVY AND HORIZONTAL LIGHT,bRIGHT LIGHT AND LEFT DOWN HEAVY,bLEFT LIGHT AND RIGHTb,bHEAVY DOWN AND HORIZONTAL",
    "bLIGHT UPb,bLEFT HEAVY AND RIGHT UP LIGHT,bRIGHT HEAVY AND LEFTb,bUP LIGHT AND HORIZONTAL HEAVY",
    "cHEAVY AND HORIZONTAL LIGHT,bRIGHT LIGHT AND LEFT UP HEAVY,bLEFT LIGHT AND RIGHTb,bHEAVY UP AND HORIZONTAL",
    "bLIGHT VERTICALb,bLEFT HEAVY AND RIGHT VERTICAL LIGHT,bRIGHT HEAVY AND LEFTb,bVERTICAL LIGHT AND HORIZONTAL HEAVY",
    "bUP HEAVY AND DOWN HORIZONTAL LIGHT,bDOWN HEAVY AND UPb,bVERTICAL HEAVY ANDb,bLEFT UP HEAVY AND RIGHT DOWNa",
    "bRIGHT UP HEAVY AND LEFTb,bLEFT DOWN HEAVY AND RIGHT UPa,bRIGHT DOWN HEAVY AND LEFTb",
    "bDOWN LIGHT AND UP HORIZONTAL HEAVY,bUP LIGHT AND DOWNb,bRIGHT LIGHT AND LEFT VERTICALa,bLEFT LIGHT AND RIGHTb",
    "bHEAVY VERTICAL AND HORIZONTAL,bLIGHT DOUBLE DASHa,bHEAVYc,bLIGHT DOUBLE DASH VERTICAL,bHEAVYc,bDOUBLE HORIZONTAL",
    "cVERTICAL,bDOWN SINGLE AND RIGHT DOUBLE,cDOUBLE AND RIGHT SINGLE,bDOUBLE DOWN AND RIGHT",
    "bDOWN SINGLE AND LEFT DOUBLE,cDOUBLE AND LEFT SINGLE,bDOUBLE DOWN AND LEFT,bUP SINGLE AND RIGHT DOUBLE",
    "cDOUBLE AND RIGHT SINGLE,bDOUBLE UP AND RIGHT,bUP SINGLE AND LEFT DOUBLE,cDOUBLE AND LEFT SINGLE",
    "bDOUBLE UP AND LEFT,bVERTICAL SINGLE AND RIGHT DOUBLE,cDOUBLE AND RIGHT SINGLE,bDOUBLE VERTICAL AND RIGHT",
    "bVERTICAL SINGLE AND LEFT DOUBLE,cDOUBLE AND LEFT SINGLE,bDOUBLE VERTICAL AND LEFT",
    "bDOWN SINGLE AND HORIZONTAL DOUBLE,cDOUBLE AND HORIZONTAL SINGLE,bDOUBLE DOWN AND HORIZONTAL",
    "bUP SINGLE AND HORIZONTAL DOUBLE,cDOUBLE AND HORIZONTAL SINGLE,bDOUBLE UP AND HORIZONTAL",
    "bVERTICAL SINGLE AND HORIZONTAL DOUBLE,cDOUBLE AND HORIZONTAL SINGLE,bDOUBLE VERTICAL AND HORIZONTAL",
    "bLIGHT ARC DOWN AND RIGHT,fLEFT,dUPb,fRIGHT,cDIAGONAL UPPER RIGHT TO LOWER LEFT,eLEFT TO LOWER RIGHT,dCROSS,cLEFT",
    "cUP,cRIGHT,cDOWN,bHEAVY LEFT,cUP,cRIGHT,cDOWN,bLIGHT LEFT AND HEAVY RIGHT,cUP AND HEAVY DOWN",
    "bHEAVY LEFT AND LIGHT RIGHT,cUP AND LIGHT DOWN"]⟩,
  -- blocks and shapes
  ⟨0x2580, ["UPPER HALF BLOCK,LOWER ONE EIGHTHa,bQUARTERa,aTHREE EIGHTHSa,aHALFa,aFIVE EIGHTHSa,aTHREE QUARTERSa",
    "aSEVEN EIGHTHSa,FULLa,LEFT SEVEN EIGHTHSa,aTHREE QUARTERSa,aFIVE EIGHTHSa,aHALFa,aTHREE EIGHTHSa,aONE QUARTERa",
    "bEIGHTHa,RIGHT HALFa,LIGHT SHADE,MEDIUMa,DARKa,UPPER ONE EIGHTH BLOCK,RIGHTc,QUADRANT LOWER LEFT,bRIGHT",
    "aUPPER LEFT,cAND LOWER LEFT AND LOWER RIGHT,eRIGHT,dUPPER RIGHT AND LOWER LEFT,hRIGHT,bRIGHT,cAND LOWER LEFT",
    "fAND LOWER RIGHT,BLACK SQUARE,WHITEa,bWITH ROUNDED CORNERS,bCONTAINING BLACK SMALL SQUARE",
    "SQUARE WITH HORIZONTAL FILL,bVERTICALa,bORTHOGONAL CROSSHATCHa,bUPPER LEFT TO LOWER RIGHTa,cRIGHT TO LOWER LEFTa",
    "bDIAGONAL CROSSHATCHa,BLACK SMALL SQUARE,WHITEb,BLACK RECTANGLE,WHITEa,BLACK VERTICALa,WHITEb,BLACK PARALLELOGRAM",
    "WHITEa,BLACK UP-POINTING TRIANGLE,WHITEb,BLACK UP-POINTING SMALLa,WHITEc,BLACK RIGHT-POINTINGa,WHITEb",
    "BLACK RIGHT-POINTING SMALLa,WHITEc,BLACK RIGHT-POINTING POINTER,WHITEb,BLACK DOWN-POINTING TRIANGLE,WHITEb",
    "BLACK DOWN-POINTING SMALLa,WHITEc,BLACK LEFT-POINTINGa,WHITEb,BLACK LEFT-POINTING SMALLa,WHITEc",
    "BLACK LEFT-POINTING POINTER,WHITEb,BLACK DIAMOND,WHITEa,bCONTAINING BLACK SMALL DIAMOND,FISHEYE,LOZENGE",
    "WHITE CIRCLE,DOTTEDa,CIRCLE WITH VERTICAL FILL,BULLSEYE,BLACK CIRCLE,CIRCLE WITH LEFT HALF BLACK,bRIGHTb,bLOWERb",
    "bUPPERb,cRIGHT QUADRANTa,bALL BUT UPPER LEFTb,LEFT HALF BLACK CIRCLE,RIGHTc,INVERSE BULLET,aWHITE CIRCLE",
    "UPPER HALFc,LOWERd,UPPER LEFT QUADRANT CIRCULAR ARC,aRIGHTc,LOWERd,aLEFTc,UPPER HALF CIRCLE,LOWERb",
    "BLACK LOWER RIGHT TRIANGLE,bLEFTa,aUPPERb,bRIGHTa,WHITE BULLET,SQUARE WITH LEFT HALF BLACK,bRIGHTb",
    "bUPPER LEFT DIAGONALb,bLOWER RIGHTc,WHITE SQUARE WITH VERTICAL BISECTING LINE,aUP-POINTING TRIANGLE WITH DOT",
    "UP-POINTING TRIANGLE WITH LEFT HALF BLACK,cRIGHTb,LARGE CIRCLE,WHITE SQUARE WITH UPPER LEFT QUADRANT,cLOWERb",
    "dRIGHTa,cUPPERb,aCIRCLE WITH UPPER LEFTa,cLOWERb,dRIGHTa,cUPPERb,UPPER LEFT TRIANGLE,aRIGHTa,LOWER LEFTa",
    "WHITE MEDIUM SQUARE,BLACKb,WHITE MEDIUM SMALLa,BLACKc,LOWER RIGHT TRIANGLE"]⟩,
  -- signs of all kinds
  ⟨0x2600, ["BLACK SUN WITH RAYS,CLOUD,UMBRELLA,SNOWMAN,COMET,BLACK STAR,WHITEa,LIGHTNING,THUNDERSTORM,SUN",
    "ASCENDING NODE,DESCENDINGa,CONJUNCTION,OPPOSITION,BLACK TELEPHONE,WHITEa,BALLOT BOX,bWITH CHECK,cX,SALTIRE",
    "UMBRELLA WITH RAIN DROPS,HOT BEVERAGE,WHITE SHOGI PIECE,BLACKb,SHAMROCK,REVERSED ROTATED FLORAL HEART BULLET",
    "BLACK LEFT POINTING INDEX,aRIGHTb,WHITE LEFTb,aUPb,aRIGHTb,aDOWNb,SKULL AND CROSSBONES,CAUTION SIGN,RADIOACTIVEa",
    "BIOHAZARDa,CADUCEUS,ANKH,ORTHODOX CROSS,CHI RHO,CROSS OF LORRAINE,bJERUSALEM,STAR AND CRESCENT,FARSI SYMBOL",
    "ADI SHAKTI,HAMMER AND SICKLE,PEACE SYMBOL,YIN YANG,TRIGRAM FOR HEAVEN,bLAKE,bFIRE,bTHUNDER,bWIND,bWATER,bMOUNTAIN",
    "bEARTH,WHEEL OF DHARMA,WHITE FROWNING FACE,aSMILINGa,BLACKb,WHITE SUN WITH RAYS,FIRST QUARTER MOON,LASTb,MERCURY",
    "FEMALE SIGN,EARTH,MALE SIGN,JUPITER,SATURN,URANUS,NEPTUNE,PLUTO,ARIES,TAURUS,GEMINI,CANCER,LEO,VIRGO,LIBRA",
    "SCORPIUS,SAGITTARIUS,CAPRICORN,AQUARIUS,PISCES,WHITE CHESS KING,bQUEEN,bROOK,bBISHOP,bKNIGHT,bPAWN",
    "BLACK CHESS KING,bQUEEN,bROOK,bBISHOP,bKNIGHT,bPAWN,aSPADE SUIT,WHITE HEARTa,aDIAMONDa,BLACK CLUBa,WHITE SPADEa",
    "BLACK HEARTa,aDIAMONDa,WHITE CLUBa,HOT SPRINGS,QUARTER NOTE,EIGHTHa,BEAMED EIGHTH NOTES,aSIXTEENTHa",
    "MUSIC FLAT SIGN,aNATURALa,aSHARPa,WEST SYRIAC CROSS,EASTb,UNIVERSAL RECYCLING SYMBOL",
    "RECYCLING SYMBOL FOR TYPE-1 PLASTICS,cTYPE-2a,cTYPE-3a,cTYPE-4a,cTYPE-5a,cTYPE-6a,cTYPE-7a,cGENERIC MATERIALS",
    "BLACK UNIVERSAL RECYCLING SYMBOL,RECYCLED PAPERa,PARTIALLY-RECYCLEDb,PERMANENT PAPER SIGN,WHEELCHAIR SYMBOL",
    "DIE FACE-1,aFACE-2,aFACE-3,aFACE-4,aFACE-5,aFACE-6,WHITE CIRCLE WITH DOT RIGHT,cTWO DOTS",
    "BLACK CIRCLE WITH WHITE DOT RIGHT,cTWO WHITE DOTS,MONOGRAM FOR YANG,bYIN,DIGRAM FOR GREATER YANG,bLESSER YIN",
    "cYANG,bGREATER YIN,WHITE FLAG,BLACKa,HAMMER AND PICK,ANCHOR,CROSSED SWORDS,STAFF OF AESCULAPIUS,SCALES,ALEMBIC",
    "FLOWER,GEAR,STAFF OF HERMES,ATOM SYMBOL,FLEUR-DE-LIS,OUTLINED WHITE STAR,THREE LINES CONVERGING RIGHT,cLEFT",
    "WARNING SIGN,HIGH VOLTAGEa,DOUBLED FEMALEa,aMALEa,INTERLOCKED FEMALE ANDb,MALE AND FEMALEa,aWITH STROKEa",
    "cAND MALE AND FEMALEa,VERTICAL MALE WITH STROKEa,HORIZONTALd,MEDIUM WHITE CIRCLE,aBLACKa,aSMALL WHITEa",
    "MARRIAGE SYMBOL,DIVORCEa,UNMARRIED PARTNERSHIPa,COFFIN,FUNERAL URN,NEUTER,CERES,PALLAS,JUNO,VESTA,CHIRON",
    "BLACK MOON LILITH,SEXTILE,SEMISEXTILE,QUINCUNX,SESQUIQUADRATE,SOCCER BALL,BASEBALL,SQUARED KEY,WHITE DRAUGHTS MAN",
    "bKING,BLACK DRAUGHTS MAN,bKING,SNOWMAN WITHOUT SNOW,SUN BEHIND CLOUD,RAIN,BLACK SNOWMAN,THUNDER CLOUD AND RAIN",
    "TURNED WHITE SHOGI PIECE,aBLACKb,WHITE DIAMOND IN SQUARE,CROSSING LANES,DISABLED CAR,OPHIUCHUS,PICK,CAR SLIDING",
    "HELMET WITH WHITE CROSS,CIRCLED CROSSING LANES,CHAINS,NO ENTRY,ALTERNATE ONE-WAY LEFT WAY TRAFFIC,BLACK TWO-WAYc",
    "WHITEd,BLACK LEFT LANE MERGE,WHITEc,DRIVE SLOW SIGN,HEAVY WHITE DOWN-POINTING TRIANGLE,LEFT CLOSED ENTRY",
    "SQUARED SALTIRE,FALLING DIAGONAL IN WHITE CIRCLE IN BLACK SQUARE,BLACK TRUCK,RESTRICTED LEFT ENTRY-1,bENTRY-2",
    "ASTRONOMICAL SYMBOL FOR URANUS,HEAVY CIRCLE WITH STROKE AND TWO DOTS ABOVE,PENTAGRAM,RIGHT-HANDED INTERLACEDa",
    "LEFT-HANDEDb,INVERTEDa,BLACK CROSS ON SHIELD,SHINTO SHRINE,CHURCH,CASTLE,HISTORIC SITE,GEAR WITHOUT HUB",
    "aWITH HANDLES,MAP SYMBOL FOR LIGHTHOUSE,MOUNTAIN,UMBRELLA ON GROUND,FOUNTAIN,FLAG IN HOLE,FERRY,SAILBOAT",
    "SQUARE FOUR CORNERS,SKIER,ICE SKATE,PERSON WITH BALL,TENT,JAPANESE BANK SYMBOL,HEADSTONE GRAVEYARDa,FUEL PUMP",
    "CUP ON BLACK SQUARE,WHITE FLAG WITH HORIZONTAL MIDDLE BLACK STRIPE"]⟩,
  -- ornaments
  ⟨0x2700, ["BLACK SAFETY SCISSORS,UPPER BLADEa,BLACKa,LOWER BLADEa,WHITEa,aHEAVY CHECK MARK,TELEPHONE LOCATION SIGN",
    "TAPE DRIVE,AIRPLANE,ENVELOPE,RAISED FIST,aHAND,VICTORYa,WRITINGa,LOWER RIGHT PENCIL,PENCIL,UPPER RIGHTa,WHITE NIB",
    "BLACKa,CHECK MARK,HEAVYb,MULTIPLICATION X,HEAVYb,BALLOTa,HEAVYb,OUTLINED GREEK CROSS,HEAVYb,OPEN CENTREa,HEAVYc",
    "LATINa,SHADOWED WHITEb,OUTLINEDb,MALTESEa,STAR OF DAVID,FOUR TEARDROP-SPOKED ASTERISK,aBALLOON-SPOKEDa,HEAVYc",
    "FOUR CLUB-SPOKEDa,BLACK FOUR POINTED STAR,WHITEc,SPARKLES,STRESS OUTLINED WHITE STAR,CIRCLEDb,OPEN CENTRE BLACKa",
    "BLACK CENTRE WHITEa,OUTLINED BLACKa,HEAVYc,PINWHEELa,SHADOWED WHITEa,HEAVY ASTERISK,OPEN CENTREa,EIGHT SPOKEDa",
    "aPOINTED BLACK STAR,bPINWHEELa,SIX POINTED BLACKa,EIGHT POINTED RECTILINEARb,HEAVYe,TWELVE POINTEDb",
    "SIXTEEN POINTED ASTERISK,TEARDROP-SPOKEDa,OPEN CENTREb,HEAVYb,SIX PETALLED BLACK AND WHITE FLORETTE,BLACKa,WHITEa",
    "EIGHT PETALLED OUTLINED BLACKa,CIRCLED OPEN CENTRE EIGHT POINTED STAR,HEAVY TEARDROP-SPOKED PINWHEEL ASTERISK",
    "SNOWFLAKE,TIGHT TRIFOLIATEa,HEAVY CHEVRONa,SPARKLE,HEAVYa,BALLOON-SPOKED ASTERISK",
    "EIGHT TEARDROP-SPOKED PROPELLERa,HEAVYd,CROSS MARK,SHADOWED WHITE CIRCLE,NEGATIVE SQUARED CROSS MARK",
    "LOWER RIGHT DROP-SHADOWED WHITE SQUARE,UPPERd,LOWER RIGHT SHADOWEDb,UPPERd,BLACK QUESTION MARK ORNAMENT,WHITEc",
    "aEXCLAMATIONb,BLACK DIAMOND MINUS WHITE X,HEAVY EXCLAMATION MARK SYMBOL,LIGHT VERTICAL BAR,MEDIUMb,HEAVYb",
    "aSINGLE TURNED COMMA QUOTATION MARK ORNAMENT,bCOMMAc,aDOUBLE TURNEDd,bCOMMAc,aLOW SINGLEd,bDOUBLEd",
    "CURVED STEM PARAGRAPH SIGNa,HEAVY EXCLAMATION MARKa,aHEARTc,aBLACK HEART,ROTATED HEAVY BLACK HEART BULLET",
    "FLORAL HEART,ROTATED FLORAL HEART BULLET,MEDIUM LEFT PARENTHESIS ORNAMENT,aRIGHTb,aFLATTENED LEFTb,bRIGHTb",
    "aLEFT-POINTING ANGLE BRACKETa,aRIGHT-POINTINGc,HEAVY LEFT-POINTING ANGLE QUOTATION MARKa,aRIGHT-POINTINGd",
    "aLEFT-POINTING ANGLE BRACKETa,aRIGHT-POINTINGc,LIGHT LEFT TORTOISE SHELLb,aRIGHTd,MEDIUM LEFT CURLYb,aRIGHTc",
    "DINGBAT NEGATIVE CIRCLED DIGIT ONE,dTWO,dTHREE,dFOUR,dFIVE,dSIX,dSEVEN,dEIGHT,dNINE,cNUMBER TEN",
    "aCIRCLED SANS-SERIF DIGIT ONE,dTWO,dTHREE,dFOUR,dFIVE,dSIX,dSEVEN,dEIGHT,dNINE,cNUMBER TEN",
    "aNEGATIVE CIRCLED SANS-SERIF DIGIT ONE,eTWO,eTHREE,eFOUR,eFIVE,eSIX,eSEVEN,eEIGHT,eNINE,dNUMBER TEN",
    "HEAVY WIDE-HEADED RIGHTWARDS ARROW,aPLUS SIGN,aMINUSa,aDIVISIONa,aSOUTH EAST ARROW,aRIGHTWARDSa,aNORTH EASTa",
    "DRAFTING POINT RIGHTWARDSa,HEAVY ROUND-TIPPEDb,TRIANGLE-HEADEDb,HEAVYc,DASHEDc,HEAVYd,BLACKb",
    "THREE-D TOP-LIGHTED RIGHTWARDS ARROWHEAD,aBOTTOM-LIGHTEDb,BLACKb",
    "HEAVY BLACK CURVED DOWNWARDS AND RIGHTWARDS ARROW,cUPWARDSc,SQUAT BLACKb,HEAVY CONCAVE-POINTEDc",
    "RIGHT-SHADED WHITEb,LEFT-SHADEDc,BACK-TILTED SHADOWEDc,FRONT-TILTEDd,HEAVY LOWER RIGHT-SHADOWEDc,aUPPERd",
    "NOTCHED LOWERd,CURLY LOOP,NOTCHED UPPER RIGHT-SHADOWED WHITE RIGHTWARDS ARROW,CIRCLED HEAVYc,WHITE-FEATHEREDb",
    "BLACK-FEATHERED SOUTH EASTa,aRIGHTWARDSa,aNORTH EASTa,HEAVY BLACK-FEATHERED SOUTHb,bRIGHTWARDSa,bNORTH EASTa",
    "TEARDROP-BARBED RIGHTWARDSa,HEAVY TEARDROP-SHANKEDb,WEDGE-TAILEDb,HEAVYc,OPEN-OUTLINEDb,DOUBLE CURLY LOOP"]⟩,
  -- marks of East Asian text
  ⟨0x3000, ["IDEOGRAPHIC SPACE,aCOMMA,aFULL STOP,DITTO MARK,JAPANESE INDUSTRIAL STANDARD SYMBOL",
    "IDEOGRAPHIC ITERATION MARK,aCLOSINGa,aNUMBER ZERO,LEFT ANGLE BRACKET,RIGHTb,LEFT DOUBLEb,RIGHTc,LEFT CORNERa",
    "RIGHTb,LEFT WHITEb,RIGHTc,LEFT BLACK LENTICULARa,RIGHTc,POSTAL MARK,GETAa,LEFT TORTOISE SHELL BRACKET,RIGHTc",
    "LEFT WHITE LENTICULARa,RIGHTc,LEFT WHITE TORTOISE SHELLa,RIGHTd,LEFT WHITE SQUAREa,RIGHTc,WAVE DASH",
    "REVERSED DOUBLE PRIME QUOTATION MARK,DOUBLEc,LOWd,POSTAL MARK FACE,HANGZHOU NUMERAL ONE,bTWO,bTHREE,bFOUR,bFIVE",
    "bSIX,bSEVEN,bEIGHT,bNINE,IDEOGRAPHIC LEVEL TONE MARK,aRISINGb,aDEPARTINGb,aENTERINGb,HANGUL SINGLE DOTb,aDOUBLEc",
    "WAVY DASH,VERTICAL KANA REPEAT MARK,cWITH VOICED SOUNDa,cMARK UPPER HALF,cWITH VOICED SOUNDc,cMARK LOWERa",
    "CIRCLED POSTAL MARK,IDEOGRAPHIC TELEGRAPH LINE FEED SEPARATOR SYMBOL,HANGZHOU NUMERAL TEN,bTWENTY,bTHIRTY",
    "VERTICAL IDEOGRAPHIC ITERATION MARK,MASUa,PART ALTERNATIONa,IDEOGRAPHIC VARIATION INDICATOR,aHALF FILL SPACE"]⟩,
  -- the byte order mark
  ⟨0xfeff, ["ZERO WIDTH NO-BREAK SPACE"]⟩,
  -- the replacement characters
  ⟨0xfffc, ["OBJECT REPLACEMENT CHARACTER,REPLACEMENTa"]⟩,
  -- faces
  ⟨0x1f600, ["GRINNING FACE,bWITH SMILING EYES,FACE WITH TEARS OF JOY,SMILING FACE WITH OPEN MOUTH,eAND SMILING EYES",
    "fCOLD SWEAT,fTIGHTLY-CLOSED EYES,cHALO,cHORNS,WINKING FACE,SMILING FACE WITH SMILING EYES",
    "FACE SAVOURING DELICIOUS FOOD,RELIEVED FACE,SMILING FACE WITH HEART-SHAPED EYES,cSUNGLASSES,SMIRKING FACE",
    "NEUTRALa,EXPRESSIONLESSa,UNAMUSEDa,FACE WITH COLD SWEAT,PENSIVE FACE,CONFUSEDa,CONFOUNDEDa,KISSINGa",
    "FACE THROWING A KISS,KISSING FACE WITH SMILING EYES,cCLOSEDa,FACE WITH STUCK-OUT TONGUE,dAND WINKING EYE",
    "eTIGHTLY-CLOSED EYES,DISAPPOINTED FACE,WORRIEDa,ANGRYa,POUTINGa,CRYINGa,PERSEVERINGa,FACE WITH LOOK OF TRIUMPH",
    "DISAPPOINTED BUT RELIEVED FACE,FROWNING FACE WITH OPEN MOUTH,ANGUISHED FACE,FEARFULa,WEARYa,SLEEPYa,TIREDa",
    "GRIMACINGa,LOUDLY CRYINGa,FACE WITH OPEN MOUTH,HUSHED FACE,FACE WITH OPEN MOUTH AND COLD SWEAT,aSCREAMING IN FEAR",
    "ASTONISHED FACE,FLUSHEDa,SLEEPINGa,DIZZYa,FACE WITHOUT MOUTH,aWITH MEDICAL MASK",
    "GRINNING CAT FACE WITH SMILING EYES,CAT FACE WITH TEARS OF JOY,SMILING CAT FACE WITH OPEN MOUTH",
    "dHEART-SHAPED EYES,CAT FACE WITH WRY SMILE,KISSING CAT FACE WITH CLOSED EYES,POUTING CAT FACE,CRYINGb,WEARYb",
    "SLIGHTLY FROWNINGa,aSMILINGa,UPSIDE-DOWNa,FACE WITH ROLLING EYES,bNO GOOD GESTURE,bOKa,PERSON BOWING DEEPLY",
    "SEE-NO-EVIL MONKEY,HEAR-NO-EVILa,SPEAK-NO-EVILa,HAPPY PERSON RAISING ONE HAND",
    "PERSON RAISING BOTH HANDS IN CELEBRATION,aFROWNING,aWITH POUTING FACE,bFOLDED HANDS"]⟩]

end DebugFind.Text.CharacterName
