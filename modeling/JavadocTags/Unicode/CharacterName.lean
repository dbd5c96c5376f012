/-!
# Names of characters

A pattern may refer to a character by its name. Which names there are is a parameter of all that
reads patterns. To run the program, it is given the names of the characters in the Latin, Greek,
Cyrillic and Hebrew blocks, of punctuation, currency signs, letterlike symbols, number forms,
arrows, operators, box drawings, shapes, symbols and faces, the aliases of control and format
characters, and the names of the ideographs, which are built from their code points.
-/
namespace JavadocTags.Unicode

/-- The characters that have a name. -/
class CharacterNames where
  /-- The code point of the character with a name. -/
  codePoint? : List Char → Option Nat

/-- Aliases of control and format characters. -/
def characterAliases : List (Nat × String) :=
  [(0x0, "NULL"), (0x0, "NUL"), (0x1, "START OF HEADING"), (0x1, "SOH"), (0x2, "START OF TEXT"),
   (0x2, "STX"), (0x3, "END OF TEXT"), (0x3, "ETX"), (0x4, "END OF TRANSMISSION"), (0x4, "EOT"),
   (0x5, "ENQUIRY"), (0x5, "ENQ"), (0x6, "ACKNOWLEDGE"), (0x6, "ACK"), (0x7, "ALERT"),
   (0x7, "BEL"), (0x8, "BACKSPACE"), (0x8, "BS"), (0x9, "CHARACTER TABULATION"),
   (0x9, "HORIZONTAL TABULATION"), (0x9, "HT"), (0x9, "TAB"), (0xA, "LINE FEED"),
   (0xA, "NEW LINE"), (0xA, "END OF LINE"), (0xA, "LF"), (0xA, "NL"), (0xA, "EOL"),
   (0xB, "LINE TABULATION"), (0xB, "VERTICAL TABULATION"), (0xB, "VT"), (0xC, "FORM FEED"),
   (0xC, "FF"), (0xD, "CARRIAGE RETURN"), (0xD, "CR"), (0xE, "SHIFT OUT"), (0xF, "SHIFT IN"),
   (0x10, "DATA LINK ESCAPE"), (0x1A, "SUBSTITUTE"), (0x1B, "ESCAPE"), (0x1B, "ESC"),
   (0x7F, "DELETE"), (0x7F, "DEL"), (0x85, "NEXT LINE"), (0x85, "NEL"), (0x20, "SPACE"),
   (0x20, "SP"), (0xA0, "NBSP"), (0xAD, "SHY"), (0x200B, "ZWSP"), (0x200C, "ZWNJ"),
   (0x200D, "ZWJ"), (0x200E, "LRM"), (0x200F, "RLM"), (0xFEFF, "BOM"),
   (0xFEFF, "BYTE ORDER MARK"), (0xFEFF, "ZWNBSP"), (0x1C, "INFORMATION SEPARATOR FOUR"),
   (0x1D, "INFORMATION SEPARATOR THREE"), (0x1E, "INFORMATION SEPARATOR TWO"),
   (0x1F, "INFORMATION SEPARATOR ONE"), (0x1C, "FILE SEPARATOR"), (0x1D, "GROUP SEPARATOR"),
   (0x1E, "RECORD SEPARATOR"), (0x1F, "UNIT SEPARATOR"), (0x1C, "FS"), (0x1D, "GS"), (0x1E, "RS"),
   (0x1F, "US")]

def names0020 : List (Nat × String) :=
  [(0x20, "SPACE"), (0x21, "EXCLAMATION MARK"), (0x22, "QUOTATION MARK"), (0x23, "NUMBER SIGN"),
   (0x24, "DOLLAR SIGN"), (0x25, "PERCENT SIGN"), (0x26, "AMPERSAND"), (0x27, "APOSTROPHE"),
   (0x28, "LEFT PARENTHESIS"), (0x29, "RIGHT PARENTHESIS"), (0x2A, "ASTERISK"),
   (0x2B, "PLUS SIGN"), (0x2C, "COMMA"), (0x2D, "HYPHEN-MINUS"), (0x2E, "FULL STOP"),
   (0x2F, "SOLIDUS"), (0x30, "DIGIT ZERO"), (0x31, "DIGIT ONE"), (0x32, "DIGIT TWO"),
   (0x33, "DIGIT THREE"), (0x34, "DIGIT FOUR"), (0x35, "DIGIT FIVE"), (0x36, "DIGIT SIX"),
   (0x37, "DIGIT SEVEN"), (0x38, "DIGIT EIGHT"), (0x39, "DIGIT NINE"), (0x3A, "COLON"),
   (0x3B, "SEMICOLON"), (0x3C, "LESS-THAN SIGN"), (0x3D, "EQUALS SIGN"),
   (0x3E, "GREATER-THAN SIGN"), (0x3F, "QUESTION MARK"), (0x40, "COMMERCIAL AT"),
   (0x41, "LATIN CAPITAL LETTER A"), (0x42, "LATIN CAPITAL LETTER B"),
   (0x43, "LATIN CAPITAL LETTER C"), (0x44, "LATIN CAPITAL LETTER D"),
   (0x45, "LATIN CAPITAL LETTER E"), (0x46, "LATIN CAPITAL LETTER F"),
   (0x47, "LATIN CAPITAL LETTER G"), (0x48, "LATIN CAPITAL LETTER H"),
   (0x49, "LATIN CAPITAL LETTER I"), (0x4A, "LATIN CAPITAL LETTER J"),
   (0x4B, "LATIN CAPITAL LETTER K"), (0x4C, "LATIN CAPITAL LETTER L"),
   (0x4D, "LATIN CAPITAL LETTER M"), (0x4E, "LATIN CAPITAL LETTER N"),
   (0x4F, "LATIN CAPITAL LETTER O"), (0x50, "LATIN CAPITAL LETTER P"),
   (0x51, "LATIN CAPITAL LETTER Q"), (0x52, "LATIN CAPITAL LETTER R"),
   (0x53, "LATIN CAPITAL LETTER S"), (0x54, "LATIN CAPITAL LETTER T"),
   (0x55, "LATIN CAPITAL LETTER U"), (0x56, "LATIN CAPITAL LETTER V"),
   (0x57, "LATIN CAPITAL LETTER W"), (0x58, "LATIN CAPITAL LETTER X"),
   (0x59, "LATIN CAPITAL LETTER Y"), (0x5A, "LATIN CAPITAL LETTER Z"),
   (0x5B, "LEFT SQUARE BRACKET"), (0x5C, "REVERSE SOLIDUS"), (0x5D, "RIGHT SQUARE BRACKET"),
   (0x5E, "CIRCUMFLEX ACCENT"), (0x5F, "LOW LINE"), (0x60, "GRAVE ACCENT"),
   (0x61, "LATIN SMALL LETTER A"), (0x62, "LATIN SMALL LETTER B"), (0x63, "LATIN SMALL LETTER C"),
   (0x64, "LATIN SMALL LETTER D"), (0x65, "LATIN SMALL LETTER E"), (0x66, "LATIN SMALL LETTER F"),
   (0x67, "LATIN SMALL LETTER G"), (0x68, "LATIN SMALL LETTER H"), (0x69, "LATIN SMALL LETTER I"),
   (0x6A, "LATIN SMALL LETTER J"), (0x6B, "LATIN SMALL LETTER K"), (0x6C, "LATIN SMALL LETTER L"),
   (0x6D, "LATIN SMALL LETTER M"), (0x6E, "LATIN SMALL LETTER N"), (0x6F, "LATIN SMALL LETTER O"),
   (0x70, "LATIN SMALL LETTER P"), (0x71, "LATIN SMALL LETTER Q"), (0x72, "LATIN SMALL LETTER R"),
   (0x73, "LATIN SMALL LETTER S"), (0x74, "LATIN SMALL LETTER T"), (0x75, "LATIN SMALL LETTER U"),
   (0x76, "LATIN SMALL LETTER V"), (0x77, "LATIN SMALL LETTER W"), (0x78, "LATIN SMALL LETTER X"),
   (0x79, "LATIN SMALL LETTER Y"), (0x7A, "LATIN SMALL LETTER Z"), (0x7B, "LEFT CURLY BRACKET"),
   (0x7C, "VERTICAL LINE"), (0x7D, "RIGHT CURLY BRACKET"), (0x7E, "TILDE"),
   (0xA0, "NO-BREAK SPACE"), (0xA1, "INVERTED EXCLAMATION MARK"), (0xA2, "CENT SIGN"),
   (0xA3, "POUND SIGN"), (0xA4, "CURRENCY SIGN"), (0xA5, "YEN SIGN"), (0xA6, "BROKEN BAR"),
   (0xA7, "SECTION SIGN"), (0xA8, "DIAERESIS"), (0xA9, "COPYRIGHT SIGN"),
   (0xAA, "FEMININE ORDINAL INDICATOR"), (0xAB, "LEFT-POINTING DOUBLE ANGLE QUOTATION MARK"),
   (0xAC, "NOT SIGN"), (0xAD, "SOFT HYPHEN"), (0xAE, "REGISTERED SIGN"), (0xAF, "MACRON"),
   (0xB0, "DEGREE SIGN"), (0xB1, "PLUS-MINUS SIGN"), (0xB2, "SUPERSCRIPT TWO"),
   (0xB3, "SUPERSCRIPT THREE"), (0xB4, "ACUTE ACCENT"), (0xB5, "MICRO SIGN"),
   (0xB6, "PILCROW SIGN"), (0xB7, "MIDDLE DOT"), (0xB8, "CEDILLA"), (0xB9, "SUPERSCRIPT ONE"),
   (0xBA, "MASCULINE ORDINAL INDICATOR"), (0xBB, "RIGHT-POINTING DOUBLE ANGLE QUOTATION MARK"),
   (0xBC, "VULGAR FRACTION ONE QUARTER"), (0xBD, "VULGAR FRACTION ONE HALF"),
   (0xBE, "VULGAR FRACTION THREE QUARTERS"), (0xBF, "INVERTED QUESTION MARK"),
   (0xC0, "LATIN CAPITAL LETTER A WITH GRAVE"), (0xC1, "LATIN CAPITAL LETTER A WITH ACUTE"),
   (0xC2, "LATIN CAPITAL LETTER A WITH CIRCUMFLEX"), (0xC3, "LATIN CAPITAL LETTER A WITH TILDE"),
   (0xC4, "LATIN CAPITAL LETTER A WITH DIAERESIS"),
   (0xC5, "LATIN CAPITAL LETTER A WITH RING ABOVE"), (0xC6, "LATIN CAPITAL LETTER AE"),
   (0xC7, "LATIN CAPITAL LETTER C WITH CEDILLA"), (0xC8, "LATIN CAPITAL LETTER E WITH GRAVE"),
   (0xC9, "LATIN CAPITAL LETTER E WITH ACUTE"), (0xCA, "LATIN CAPITAL LETTER E WITH CIRCUMFLEX"),
   (0xCB, "LATIN CAPITAL LETTER E WITH DIAERESIS"), (0xCC, "LATIN CAPITAL LETTER I WITH GRAVE"),
   (0xCD, "LATIN CAPITAL LETTER I WITH ACUTE"), (0xCE, "LATIN CAPITAL LETTER I WITH CIRCUMFLEX"),
   (0xCF, "LATIN CAPITAL LETTER I WITH DIAERESIS"), (0xD0, "LATIN CAPITAL LETTER ETH"),
   (0xD1, "LATIN CAPITAL LETTER N WITH TILDE"), (0xD2, "LATIN CAPITAL LETTER O WITH GRAVE"),
   (0xD3, "LATIN CAPITAL LETTER O WITH ACUTE"), (0xD4, "LATIN CAPITAL LETTER O WITH CIRCUMFLEX"),
   (0xD5, "LATIN CAPITAL LETTER O WITH TILDE"), (0xD6, "LATIN CAPITAL LETTER O WITH DIAERESIS"),
   (0xD7, "MULTIPLICATION SIGN"), (0xD8, "LATIN CAPITAL LETTER O WITH STROKE"),
   (0xD9, "LATIN CAPITAL LETTER U WITH GRAVE"), (0xDA, "LATIN CAPITAL LETTER U WITH ACUTE"),
   (0xDB, "LATIN CAPITAL LETTER U WITH CIRCUMFLEX"),
   (0xDC, "LATIN CAPITAL LETTER U WITH DIAERESIS"), (0xDD, "LATIN CAPITAL LETTER Y WITH ACUTE"),
   (0xDE, "LATIN CAPITAL LETTER THORN"), (0xDF, "LATIN SMALL LETTER SHARP S"),
   (0xE0, "LATIN SMALL LETTER A WITH GRAVE"), (0xE1, "LATIN SMALL LETTER A WITH ACUTE"),
   (0xE2, "LATIN SMALL LETTER A WITH CIRCUMFLEX"), (0xE3, "LATIN SMALL LETTER A WITH TILDE"),
   (0xE4, "LATIN SMALL LETTER A WITH DIAERESIS"), (0xE5, "LATIN SMALL LETTER A WITH RING ABOVE"),
   (0xE6, "LATIN SMALL LETTER AE"), (0xE7, "LATIN SMALL LETTER C WITH CEDILLA"),
   (0xE8, "LATIN SMALL LETTER E WITH GRAVE"), (0xE9, "LATIN SMALL LETTER E WITH ACUTE"),
   (0xEA, "LATIN SMALL LETTER E WITH CIRCUMFLEX"), (0xEB, "LATIN SMALL LETTER E WITH DIAERESIS"),
   (0xEC, "LATIN SMALL LETTER I WITH GRAVE"), (0xED, "LATIN SMALL LETTER I WITH ACUTE"),
   (0xEE, "LATIN SMALL LETTER I WITH CIRCUMFLEX"), (0xEF, "LATIN SMALL LETTER I WITH DIAERESIS"),
   (0xF0, "LATIN SMALL LETTER ETH"), (0xF1, "LATIN SMALL LETTER N WITH TILDE"),
   (0xF2, "LATIN SMALL LETTER O WITH GRAVE"), (0xF3, "LATIN SMALL LETTER O WITH ACUTE"),
   (0xF4, "LATIN SMALL LETTER O WITH CIRCUMFLEX"), (0xF5, "LATIN SMALL LETTER O WITH TILDE"),
   (0xF6, "LATIN SMALL LETTER O WITH DIAERESIS"), (0xF7, "DIVISION SIGN"),
   (0xF8, "LATIN SMALL LETTER O WITH STROKE"), (0xF9, "LATIN SMALL LETTER U WITH GRAVE"),
   (0xFA, "LATIN SMALL LETTER U WITH ACUTE"), (0xFB, "LATIN SMALL LETTER U WITH CIRCUMFLEX"),
   (0xFC, "LATIN SMALL LETTER U WITH DIAERESIS"), (0xFD, "LATIN SMALL LETTER Y WITH ACUTE"),
   (0xFE, "LATIN SMALL LETTER THORN"), (0xFF, "LATIN SMALL LETTER Y WITH DIAERESIS"),
   (0x100, "LATIN CAPITAL LETTER A WITH MACRON"), (0x101, "LATIN SMALL LETTER A WITH MACRON"),
   (0x102, "LATIN CAPITAL LETTER A WITH BREVE"), (0x103, "LATIN SMALL LETTER A WITH BREVE"),
   (0x104, "LATIN CAPITAL LETTER A WITH OGONEK"), (0x105, "LATIN SMALL LETTER A WITH OGONEK"),
   (0x106, "LATIN CAPITAL LETTER C WITH ACUTE"), (0x107, "LATIN SMALL LETTER C WITH ACUTE"),
   (0x108, "LATIN CAPITAL LETTER C WITH CIRCUMFLEX"),
   (0x109, "LATIN SMALL LETTER C WITH CIRCUMFLEX"),
   (0x10A, "LATIN CAPITAL LETTER C WITH DOT ABOVE"),
   (0x10B, "LATIN SMALL LETTER C WITH DOT ABOVE"), (0x10C, "LATIN CAPITAL LETTER C WITH CARON"),
   (0x10D, "LATIN SMALL LETTER C WITH CARON"), (0x10E, "LATIN CAPITAL LETTER D WITH CARON"),
   (0x10F, "LATIN SMALL LETTER D WITH CARON"), (0x110, "LATIN CAPITAL LETTER D WITH STROKE"),
   (0x111, "LATIN SMALL LETTER D WITH STROKE"), (0x112, "LATIN CAPITAL LETTER E WITH MACRON"),
   (0x113, "LATIN SMALL LETTER E WITH MACRON"), (0x114, "LATIN CAPITAL LETTER E WITH BREVE"),
   (0x115, "LATIN SMALL LETTER E WITH BREVE"), (0x116, "LATIN CAPITAL LETTER E WITH DOT ABOVE"),
   (0x117, "LATIN SMALL LETTER E WITH DOT ABOVE"), (0x118, "LATIN CAPITAL LETTER E WITH OGONEK"),
   (0x119, "LATIN SMALL LETTER E WITH OGONEK"), (0x11A, "LATIN CAPITAL LETTER E WITH CARON"),
   (0x11B, "LATIN SMALL LETTER E WITH CARON"), (0x11C, "LATIN CAPITAL LETTER G WITH CIRCUMFLEX"),
   (0x11D, "LATIN SMALL LETTER G WITH CIRCUMFLEX"), (0x11E, "LATIN CAPITAL LETTER G WITH BREVE"),
   (0x11F, "LATIN SMALL LETTER G WITH BREVE"), (0x120, "LATIN CAPITAL LETTER G WITH DOT ABOVE"),
   (0x121, "LATIN SMALL LETTER G WITH DOT ABOVE"), (0x122, "LATIN CAPITAL LETTER G WITH CEDILLA"),
   (0x123, "LATIN SMALL LETTER G WITH CEDILLA"),
   (0x124, "LATIN CAPITAL LETTER H WITH CIRCUMFLEX"),
   (0x125, "LATIN SMALL LETTER H WITH CIRCUMFLEX"), (0x126, "LATIN CAPITAL LETTER H WITH STROKE"),
   (0x127, "LATIN SMALL LETTER H WITH STROKE"), (0x128, "LATIN CAPITAL LETTER I WITH TILDE"),
   (0x129, "LATIN SMALL LETTER I WITH TILDE"), (0x12A, "LATIN CAPITAL LETTER I WITH MACRON"),
   (0x12B, "LATIN SMALL LETTER I WITH MACRON"), (0x12C, "LATIN CAPITAL LETTER I WITH BREVE"),
   (0x12D, "LATIN SMALL LETTER I WITH BREVE"), (0x12E, "LATIN CAPITAL LETTER I WITH OGONEK"),
   (0x12F, "LATIN SMALL LETTER I WITH OGONEK"), (0x130, "LATIN CAPITAL LETTER I WITH DOT ABOVE"),
   (0x131, "LATIN SMALL LETTER DOTLESS I"), (0x132, "LATIN CAPITAL LIGATURE IJ"),
   (0x133, "LATIN SMALL LIGATURE IJ"), (0x134, "LATIN CAPITAL LETTER J WITH CIRCUMFLEX"),
   (0x135, "LATIN SMALL LETTER J WITH CIRCUMFLEX"),
   (0x136, "LATIN CAPITAL LETTER K WITH CEDILLA"), (0x137, "LATIN SMALL LETTER K WITH CEDILLA"),
   (0x138, "LATIN SMALL LETTER KRA"), (0x139, "LATIN CAPITAL LETTER L WITH ACUTE"),
   (0x13A, "LATIN SMALL LETTER L WITH ACUTE"), (0x13B, "LATIN CAPITAL LETTER L WITH CEDILLA"),
   (0x13C, "LATIN SMALL LETTER L WITH CEDILLA"), (0x13D, "LATIN CAPITAL LETTER L WITH CARON"),
   (0x13E, "LATIN SMALL LETTER L WITH CARON"), (0x13F, "LATIN CAPITAL LETTER L WITH MIDDLE DOT"),
   (0x140, "LATIN SMALL LETTER L WITH MIDDLE DOT"), (0x141, "LATIN CAPITAL LETTER L WITH STROKE"),
   (0x142, "LATIN SMALL LETTER L WITH STROKE"), (0x143, "LATIN CAPITAL LETTER N WITH ACUTE"),
   (0x144, "LATIN SMALL LETTER N WITH ACUTE"), (0x145, "LATIN CAPITAL LETTER N WITH CEDILLA"),
   (0x146, "LATIN SMALL LETTER N WITH CEDILLA"), (0x147, "LATIN CAPITAL LETTER N WITH CARON"),
   (0x148, "LATIN SMALL LETTER N WITH CARON"),
   (0x149, "LATIN SMALL LETTER N PRECEDED BY APOSTROPHE"), (0x14A, "LATIN CAPITAL LETTER ENG"),
   (0x14B, "LATIN SMALL LETTER ENG"), (0x14C, "LATIN CAPITAL LETTER O WITH MACRON"),
   (0x14D, "LATIN SMALL LETTER O WITH MACRON"), (0x14E, "LATIN CAPITAL LETTER O WITH BREVE"),
   (0x14F, "LATIN SMALL LETTER O WITH BREVE"),
   (0x150, "LATIN CAPITAL LETTER O WITH DOUBLE ACUTE"),
   (0x151, "LATIN SMALL LETTER O WITH DOUBLE ACUTE"), (0x152, "LATIN CAPITAL LIGATURE OE"),
   (0x153, "LATIN SMALL LIGATURE OE"), (0x154, "LATIN CAPITAL LETTER R WITH ACUTE"),
   (0x155, "LATIN SMALL LETTER R WITH ACUTE"), (0x156, "LATIN CAPITAL LETTER R WITH CEDILLA"),
   (0x157, "LATIN SMALL LETTER R WITH CEDILLA"), (0x158, "LATIN CAPITAL LETTER R WITH CARON"),
   (0x159, "LATIN SMALL LETTER R WITH CARON"), (0x15A, "LATIN CAPITAL LETTER S WITH ACUTE"),
   (0x15B, "LATIN SMALL LETTER S WITH ACUTE"), (0x15C, "LATIN CAPITAL LETTER S WITH CIRCUMFLEX"),
   (0x15D, "LATIN SMALL LETTER S WITH CIRCUMFLEX"),
   (0x15E, "LATIN CAPITAL LETTER S WITH CEDILLA"), (0x15F, "LATIN SMALL LETTER S WITH CEDILLA"),
   (0x160, "LATIN CAPITAL LETTER S WITH CARON"), (0x161, "LATIN SMALL LETTER S WITH CARON"),
   (0x162, "LATIN CAPITAL LETTER T WITH CEDILLA"), (0x163, "LATIN SMALL LETTER T WITH CEDILLA"),
   (0x164, "LATIN CAPITAL LETTER T WITH CARON"), (0x165, "LATIN SMALL LETTER T WITH CARON"),
   (0x166, "LATIN CAPITAL LETTER T WITH STROKE"), (0x167, "LATIN SMALL LETTER T WITH STROKE"),
   (0x168, "LATIN CAPITAL LETTER U WITH TILDE"), (0x169, "LATIN SMALL LETTER U WITH TILDE"),
   (0x16A, "LATIN CAPITAL LETTER U WITH MACRON"), (0x16B, "LATIN SMALL LETTER U WITH MACRON"),
   (0x16C, "LATIN CAPITAL LETTER U WITH BREVE"), (0x16D, "LATIN SMALL LETTER U WITH BREVE"),
   (0x16E, "LATIN CAPITAL LETTER U WITH RING ABOVE"),
   (0x16F, "LATIN SMALL LETTER U WITH RING ABOVE"),
   (0x170, "LATIN CAPITAL LETTER U WITH DOUBLE ACUTE"),
   (0x171, "LATIN SMALL LETTER U WITH DOUBLE ACUTE"),
   (0x172, "LATIN CAPITAL LETTER U WITH OGONEK"), (0x173, "LATIN SMALL LETTER U WITH OGONEK"),
   (0x174, "LATIN CAPITAL LETTER W WITH CIRCUMFLEX"),
   (0x175, "LATIN SMALL LETTER W WITH CIRCUMFLEX"),
   (0x176, "LATIN CAPITAL LETTER Y WITH CIRCUMFLEX"),
   (0x177, "LATIN SMALL LETTER Y WITH CIRCUMFLEX"),
   (0x178, "LATIN CAPITAL LETTER Y WITH DIAERESIS"), (0x179, "LATIN CAPITAL LETTER Z WITH ACUTE"),
   (0x17A, "LATIN SMALL LETTER Z WITH ACUTE"), (0x17B, "LATIN CAPITAL LETTER Z WITH DOT ABOVE"),
   (0x17C, "LATIN SMALL LETTER Z WITH DOT ABOVE"), (0x17D, "LATIN CAPITAL LETTER Z WITH CARON"),
   (0x17E, "LATIN SMALL LETTER Z WITH CARON"), (0x17F, "LATIN SMALL LETTER LONG S"),
   (0x2B0, "MODIFIER LETTER SMALL H"), (0x2B1, "MODIFIER LETTER SMALL H WITH HOOK"),
   (0x2B2, "MODIFIER LETTER SMALL J"), (0x2B3, "MODIFIER LETTER SMALL R"),
   (0x2B4, "MODIFIER LETTER SMALL TURNED R"), (0x2B5, "MODIFIER LETTER SMALL TURNED R WITH HOOK"),
   (0x2B6, "MODIFIER LETTER SMALL CAPITAL INVERTED R"), (0x2B7, "MODIFIER LETTER SMALL W"),
   (0x2B8, "MODIFIER LETTER SMALL Y"), (0x2B9, "MODIFIER LETTER PRIME"),
   (0x2BA, "MODIFIER LETTER DOUBLE PRIME"), (0x2BB, "MODIFIER LETTER TURNED COMMA"),
   (0x2BC, "MODIFIER LETTER APOSTROPHE"), (0x2BD, "MODIFIER LETTER REVERSED COMMA"),
   (0x2BE, "MODIFIER LETTER RIGHT HALF RING"), (0x2BF, "MODIFIER LETTER LEFT HALF RING"),
   (0x2C0, "MODIFIER LETTER GLOTTAL STOP"), (0x2C1, "MODIFIER LETTER REVERSED GLOTTAL STOP"),
   (0x2C2, "MODIFIER LETTER LEFT ARROWHEAD"), (0x2C3, "MODIFIER LETTER RIGHT ARROWHEAD"),
   (0x2C4, "MODIFIER LETTER UP ARROWHEAD"), (0x2C5, "MODIFIER LETTER DOWN ARROWHEAD"),
   (0x2C6, "MODIFIER LETTER CIRCUMFLEX ACCENT"), (0x2C7, "CARON"),
   (0x2C8, "MODIFIER LETTER VERTICAL LINE"), (0x2C9, "MODIFIER LETTER MACRON"),
   (0x2CA, "MODIFIER LETTER ACUTE ACCENT"), (0x2CB, "MODIFIER LETTER GRAVE ACCENT"),
   (0x2CC, "MODIFIER LETTER LOW VERTICAL LINE"), (0x2CD, "MODIFIER LETTER LOW MACRON"),
   (0x2CE, "MODIFIER LETTER LOW GRAVE ACCENT"), (0x2CF, "MODIFIER LETTER LOW ACUTE ACCENT"),
   (0x2D0, "MODIFIER LETTER TRIANGULAR COLON"), (0x2D1, "MODIFIER LETTER HALF TRIANGULAR COLON"),
   (0x2D2, "MODIFIER LETTER CENTRED RIGHT HALF RING"),
   (0x2D3, "MODIFIER LETTER CENTRED LEFT HALF RING"), (0x2D4, "MODIFIER LETTER UP TACK"),
   (0x2D5, "MODIFIER LETTER DOWN TACK"), (0x2D6, "MODIFIER LETTER PLUS SIGN"),
   (0x2D7, "MODIFIER LETTER MINUS SIGN"), (0x2D8, "BREVE"), (0x2D9, "DOT ABOVE"),
   (0x2DA, "RING ABOVE"), (0x2DB, "OGONEK"), (0x2DC, "SMALL TILDE"),
   (0x2DD, "DOUBLE ACUTE ACCENT"), (0x2DE, "MODIFIER LETTER RHOTIC HOOK"),
   (0x2DF, "MODIFIER LETTER CROSS ACCENT"), (0x2E0, "MODIFIER LETTER SMALL GAMMA"),
   (0x2E1, "MODIFIER LETTER SMALL L"), (0x2E2, "MODIFIER LETTER SMALL S"),
   (0x2E3, "MODIFIER LETTER SMALL X"), (0x2E4, "MODIFIER LETTER SMALL REVERSED GLOTTAL STOP"),
   (0x2E5, "MODIFIER LETTER EXTRA-HIGH TONE BAR"), (0x2E6, "MODIFIER LETTER HIGH TONE BAR"),
   (0x2E7, "MODIFIER LETTER MID TONE BAR"), (0x2E8, "MODIFIER LETTER LOW TONE BAR"),
   (0x2E9, "MODIFIER LETTER EXTRA-LOW TONE BAR"),
   (0x2EA, "MODIFIER LETTER YIN DEPARTING TONE MARK"),
   (0x2EB, "MODIFIER LETTER YANG DEPARTING TONE MARK"), (0x2EC, "MODIFIER LETTER VOICING"),
   (0x2ED, "MODIFIER LETTER UNASPIRATED"), (0x2EE, "MODIFIER LETTER DOUBLE APOSTROPHE"),
   (0x2EF, "MODIFIER LETTER LOW DOWN ARROWHEAD"), (0x2F0, "MODIFIER LETTER LOW UP ARROWHEAD"),
   (0x2F1, "MODIFIER LETTER LOW LEFT ARROWHEAD"), (0x2F2, "MODIFIER LETTER LOW RIGHT ARROWHEAD"),
   (0x2F3, "MODIFIER LETTER LOW RING"), (0x2F4, "MODIFIER LETTER MIDDLE GRAVE ACCENT"),
   (0x2F5, "MODIFIER LETTER MIDDLE DOUBLE GRAVE ACCENT"),
   (0x2F6, "MODIFIER LETTER MIDDLE DOUBLE ACUTE ACCENT"), (0x2F7, "MODIFIER LETTER LOW TILDE"),
   (0x2F8, "MODIFIER LETTER RAISED COLON"), (0x2F9, "MODIFIER LETTER BEGIN HIGH TONE"),
   (0x2FA, "MODIFIER LETTER END HIGH TONE"), (0x2FB, "MODIFIER LETTER BEGIN LOW TONE"),
   (0x2FC, "MODIFIER LETTER END LOW TONE"), (0x2FD, "MODIFIER LETTER SHELF"),
   (0x2FE, "MODIFIER LETTER OPEN SHELF"), (0x2FF, "MODIFIER LETTER LOW LEFT ARROW"),
   (0x300, "COMBINING GRAVE ACCENT")]

def names0301 : List (Nat × String) :=
  [(0x301, "COMBINING ACUTE ACCENT"), (0x302, "COMBINING CIRCUMFLEX ACCENT"),
   (0x303, "COMBINING TILDE"), (0x304, "COMBINING MACRON"), (0x305, "COMBINING OVERLINE"),
   (0x306, "COMBINING BREVE"), (0x307, "COMBINING DOT ABOVE"), (0x308, "COMBINING DIAERESIS"),
   (0x309, "COMBINING HOOK ABOVE"), (0x30A, "COMBINING RING ABOVE"),
   (0x30B, "COMBINING DOUBLE ACUTE ACCENT"), (0x30C, "COMBINING CARON"),
   (0x30D, "COMBINING VERTICAL LINE ABOVE"), (0x30E, "COMBINING DOUBLE VERTICAL LINE ABOVE"),
   (0x30F, "COMBINING DOUBLE GRAVE ACCENT"), (0x310, "COMBINING CANDRABINDU"),
   (0x311, "COMBINING INVERTED BREVE"), (0x312, "COMBINING TURNED COMMA ABOVE"),
   (0x313, "COMBINING COMMA ABOVE"), (0x314, "COMBINING REVERSED COMMA ABOVE"),
   (0x315, "COMBINING COMMA ABOVE RIGHT"), (0x316, "COMBINING GRAVE ACCENT BELOW"),
   (0x317, "COMBINING ACUTE ACCENT BELOW"), (0x318, "COMBINING LEFT TACK BELOW"),
   (0x319, "COMBINING RIGHT TACK BELOW"), (0x31A, "COMBINING LEFT ANGLE ABOVE"),
   (0x31B, "COMBINING HORN"), (0x31C, "COMBINING LEFT HALF RING BELOW"),
   (0x31D, "COMBINING UP TACK BELOW"), (0x31E, "COMBINING DOWN TACK BELOW"),
   (0x31F, "COMBINING PLUS SIGN BELOW"), (0x320, "COMBINING MINUS SIGN BELOW"),
   (0x321, "COMBINING PALATALIZED HOOK BELOW"), (0x322, "COMBINING RETROFLEX HOOK BELOW"),
   (0x323, "COMBINING DOT BELOW"), (0x324, "COMBINING DIAERESIS BELOW"),
   (0x325, "COMBINING RING BELOW"), (0x326, "COMBINING COMMA BELOW"),
   (0x327, "COMBINING CEDILLA"), (0x328, "COMBINING OGONEK"),
   (0x329, "COMBINING VERTICAL LINE BELOW"), (0x32A, "COMBINING BRIDGE BELOW"),
   (0x32B, "COMBINING INVERTED DOUBLE ARCH BELOW"), (0x32C, "COMBINING CARON BELOW"),
   (0x32D, "COMBINING CIRCUMFLEX ACCENT BELOW"), (0x32E, "COMBINING BREVE BELOW"),
   (0x32F, "COMBINING INVERTED BREVE BELOW"), (0x330, "COMBINING TILDE BELOW"),
   (0x331, "COMBINING MACRON BELOW"), (0x332, "COMBINING LOW LINE"),
   (0x333, "COMBINING DOUBLE LOW LINE"), (0x334, "COMBINING TILDE OVERLAY"),
   (0x335, "COMBINING SHORT STROKE OVERLAY"), (0x336, "COMBINING LONG STROKE OVERLAY"),
   (0x337, "COMBINING SHORT SOLIDUS OVERLAY"), (0x338, "COMBINING LONG SOLIDUS OVERLAY"),
   (0x339, "COMBINING RIGHT HALF RING BELOW"), (0x33A, "COMBINING INVERTED BRIDGE BELOW"),
   (0x33B, "COMBINING SQUARE BELOW"), (0x33C, "COMBINING SEAGULL BELOW"),
   (0x33D, "COMBINING X ABOVE"), (0x33E, "COMBINING VERTICAL TILDE"),
   (0x33F, "COMBINING DOUBLE OVERLINE"), (0x340, "COMBINING GRAVE TONE MARK"),
   (0x341, "COMBINING ACUTE TONE MARK"), (0x342, "COMBINING GREEK PERISPOMENI"),
   (0x343, "COMBINING GREEK KORONIS"), (0x344, "COMBINING GREEK DIALYTIKA TONOS"),
   (0x345, "COMBINING GREEK YPOGEGRAMMENI"), (0x346, "COMBINING BRIDGE ABOVE"),
   (0x347, "COMBINING EQUALS SIGN BELOW"), (0x348, "COMBINING DOUBLE VERTICAL LINE BELOW"),
   (0x349, "COMBINING LEFT ANGLE BELOW"), (0x34A, "COMBINING NOT TILDE ABOVE"),
   (0x34B, "COMBINING HOMOTHETIC ABOVE"), (0x34C, "COMBINING ALMOST EQUAL TO ABOVE"),
   (0x34D, "COMBINING LEFT RIGHT ARROW BELOW"), (0x34E, "COMBINING UPWARDS ARROW BELOW"),
   (0x34F, "COMBINING GRAPHEME JOINER"), (0x350, "COMBINING RIGHT ARROWHEAD ABOVE"),
   (0x351, "COMBINING LEFT HALF RING ABOVE"), (0x352, "COMBINING FERMATA"),
   (0x353, "COMBINING X BELOW"), (0x354, "COMBINING LEFT ARROWHEAD BELOW"),
   (0x355, "COMBINING RIGHT ARROWHEAD BELOW"),
   (0x356, "COMBINING RIGHT ARROWHEAD AND UP ARROWHEAD BELOW"),
   (0x357, "COMBINING RIGHT HALF RING ABOVE"), (0x358, "COMBINING DOT ABOVE RIGHT"),
   (0x359, "COMBINING ASTERISK BELOW"), (0x35A, "COMBINING DOUBLE RING BELOW"),
   (0x35B, "COMBINING ZIGZAG ABOVE"), (0x35C, "COMBINING DOUBLE BREVE BELOW"),
   (0x35D, "COMBINING DOUBLE BREVE"), (0x35E, "COMBINING DOUBLE MACRON"),
   (0x35F, "COMBINING DOUBLE MACRON BELOW"), (0x360, "COMBINING DOUBLE TILDE"),
   (0x361, "COMBINING DOUBLE INVERTED BREVE"), (0x362, "COMBINING DOUBLE RIGHTWARDS ARROW BELOW"),
   (0x363, "COMBINING LATIN SMALL LETTER A"), (0x364, "COMBINING LATIN SMALL LETTER E"),
   (0x365, "COMBINING LATIN SMALL LETTER I"), (0x366, "COMBINING LATIN SMALL LETTER O"),
   (0x367, "COMBINING LATIN SMALL LETTER U"), (0x368, "COMBINING LATIN SMALL LETTER C"),
   (0x369, "COMBINING LATIN SMALL LETTER D"), (0x36A, "COMBINING LATIN SMALL LETTER H"),
   (0x36B, "COMBINING LATIN SMALL LETTER M"), (0x36C, "COMBINING LATIN SMALL LETTER R"),
   (0x36D, "COMBINING LATIN SMALL LETTER T"), (0x36E, "COMBINING LATIN SMALL LETTER V"),
   (0x36F, "COMBINING LATIN SMALL LETTER X"), (0x370, "GREEK CAPITAL LETTER HETA"),
   (0x371, "GREEK SMALL LETTER HETA"), (0x372, "GREEK CAPITAL LETTER ARCHAIC SAMPI"),
   (0x373, "GREEK SMALL LETTER ARCHAIC SAMPI"), (0x374, "GREEK NUMERAL SIGN"),
   (0x375, "GREEK LOWER NUMERAL SIGN"), (0x376, "GREEK CAPITAL LETTER PAMPHYLIAN DIGAMMA"),
   (0x377, "GREEK SMALL LETTER PAMPHYLIAN DIGAMMA"), (0x37A, "GREEK YPOGEGRAMMENI"),
   (0x37B, "GREEK SMALL REVERSED LUNATE SIGMA SYMBOL"),
   (0x37C, "GREEK SMALL DOTTED LUNATE SIGMA SYMBOL"),
   (0x37D, "GREEK SMALL REVERSED DOTTED LUNATE SIGMA SYMBOL"), (0x37E, "GREEK QUESTION MARK"),
   (0x37F, "GREEK CAPITAL LETTER YOT"), (0x384, "GREEK TONOS"), (0x385, "GREEK DIALYTIKA TONOS"),
   (0x386, "GREEK CAPITAL LETTER ALPHA WITH TONOS"), (0x387, "GREEK ANO TELEIA"),
   (0x388, "GREEK CAPITAL LETTER EPSILON WITH TONOS"),
   (0x389, "GREEK CAPITAL LETTER ETA WITH TONOS"),
   (0x38A, "GREEK CAPITAL LETTER IOTA WITH TONOS"),
   (0x38C, "GREEK CAPITAL LETTER OMICRON WITH TONOS"),
   (0x38E, "GREEK CAPITAL LETTER UPSILON WITH TONOS"),
   (0x38F, "GREEK CAPITAL LETTER OMEGA WITH TONOS"),
   (0x390, "GREEK SMALL LETTER IOTA WITH DIALYTIKA AND TONOS"),
   (0x391, "GREEK CAPITAL LETTER ALPHA"), (0x392, "GREEK CAPITAL LETTER BETA"),
   (0x393, "GREEK CAPITAL LETTER GAMMA"), (0x394, "GREEK CAPITAL LETTER DELTA"),
   (0x395, "GREEK CAPITAL LETTER EPSILON"), (0x396, "GREEK CAPITAL LETTER ZETA"),
   (0x397, "GREEK CAPITAL LETTER ETA"), (0x398, "GREEK CAPITAL LETTER THETA"),
   (0x399, "GREEK CAPITAL LETTER IOTA"), (0x39A, "GREEK CAPITAL LETTER KAPPA"),
   (0x39B, "GREEK CAPITAL LETTER LAMDA"), (0x39C, "GREEK CAPITAL LETTER MU"),
   (0x39D, "GREEK CAPITAL LETTER NU"), (0x39E, "GREEK CAPITAL LETTER XI"),
   (0x39F, "GREEK CAPITAL LETTER OMICRON"), (0x3A0, "GREEK CAPITAL LETTER PI"),
   (0x3A1, "GREEK CAPITAL LETTER RHO"), (0x3A3, "GREEK CAPITAL LETTER SIGMA"),
   (0x3A4, "GREEK CAPITAL LETTER TAU"), (0x3A5, "GREEK CAPITAL LETTER UPSILON"),
   (0x3A6, "GREEK CAPITAL LETTER PHI"), (0x3A7, "GREEK CAPITAL LETTER CHI"),
   (0x3A8, "GREEK CAPITAL LETTER PSI"), (0x3A9, "GREEK CAPITAL LETTER OMEGA"),
   (0x3AA, "GREEK CAPITAL LETTER IOTA WITH DIALYTIKA"),
   (0x3AB, "GREEK CAPITAL LETTER UPSILON WITH DIALYTIKA"),
   (0x3AC, "GREEK SMALL LETTER ALPHA WITH TONOS"),
   (0x3AD, "GREEK SMALL LETTER EPSILON WITH TONOS"), (0x3AE, "GREEK SMALL LETTER ETA WITH TONOS"),
   (0x3AF, "GREEK SMALL LETTER IOTA WITH TONOS"),
   (0x3B0, "GREEK SMALL LETTER UPSILON WITH DIALYTIKA AND TONOS"),
   (0x3B1, "GREEK SMALL LETTER ALPHA"), (0x3B2, "GREEK SMALL LETTER BETA"),
   (0x3B3, "GREEK SMALL LETTER GAMMA"), (0x3B4, "GREEK SMALL LETTER DELTA"),
   (0x3B5, "GREEK SMALL LETTER EPSILON"), (0x3B6, "GREEK SMALL LETTER ZETA"),
   (0x3B7, "GREEK SMALL LETTER ETA"), (0x3B8, "GREEK SMALL LETTER THETA"),
   (0x3B9, "GREEK SMALL LETTER IOTA"), (0x3BA, "GREEK SMALL LETTER KAPPA"),
   (0x3BB, "GREEK SMALL LETTER LAMDA"), (0x3BC, "GREEK SMALL LETTER MU"),
   (0x3BD, "GREEK SMALL LETTER NU"), (0x3BE, "GREEK SMALL LETTER XI"),
   (0x3BF, "GREEK SMALL LETTER OMICRON"), (0x3C0, "GREEK SMALL LETTER PI"),
   (0x3C1, "GREEK SMALL LETTER RHO"), (0x3C2, "GREEK SMALL LETTER FINAL SIGMA"),
   (0x3C3, "GREEK SMALL LETTER SIGMA"), (0x3C4, "GREEK SMALL LETTER TAU"),
   (0x3C5, "GREEK SMALL LETTER UPSILON"), (0x3C6, "GREEK SMALL LETTER PHI"),
   (0x3C7, "GREEK SMALL LETTER CHI"), (0x3C8, "GREEK SMALL LETTER PSI"),
   (0x3C9, "GREEK SMALL LETTER OMEGA"), (0x3CA, "GREEK SMALL LETTER IOTA WITH DIALYTIKA"),
   (0x3CB, "GREEK SMALL LETTER UPSILON WITH DIALYTIKA"),
   (0x3CC, "GREEK SMALL LETTER OMICRON WITH TONOS"),
   (0x3CD, "GREEK SMALL LETTER UPSILON WITH TONOS"),
   (0x3CE, "GREEK SMALL LETTER OMEGA WITH TONOS"), (0x3CF, "GREEK CAPITAL KAI SYMBOL"),
   (0x3D0, "GREEK BETA SYMBOL"), (0x3D1, "GREEK THETA SYMBOL"),
   (0x3D2, "GREEK UPSILON WITH HOOK SYMBOL"), (0x3D3, "GREEK UPSILON WITH ACUTE AND HOOK SYMBOL"),
   (0x3D4, "GREEK UPSILON WITH DIAERESIS AND HOOK SYMBOL"), (0x3D5, "GREEK PHI SYMBOL"),
   (0x3D6, "GREEK PI SYMBOL"), (0x3D7, "GREEK KAI SYMBOL"), (0x3D8, "GREEK LETTER ARCHAIC KOPPA"),
   (0x3D9, "GREEK SMALL LETTER ARCHAIC KOPPA"), (0x3DA, "GREEK LETTER STIGMA"),
   (0x3DB, "GREEK SMALL LETTER STIGMA"), (0x3DC, "GREEK LETTER DIGAMMA"),
   (0x3DD, "GREEK SMALL LETTER DIGAMMA"), (0x3DE, "GREEK LETTER KOPPA"),
   (0x3DF, "GREEK SMALL LETTER KOPPA"), (0x3E0, "GREEK LETTER SAMPI"),
   (0x3E1, "GREEK SMALL LETTER SAMPI"), (0x3E2, "COPTIC CAPITAL LETTER SHEI"),
   (0x3E3, "COPTIC SMALL LETTER SHEI"), (0x3E4, "COPTIC CAPITAL LETTER FEI"),
   (0x3E5, "COPTIC SMALL LETTER FEI"), (0x3E6, "COPTIC CAPITAL LETTER KHEI"),
   (0x3E7, "COPTIC SMALL LETTER KHEI"), (0x3E8, "COPTIC CAPITAL LETTER HORI"),
   (0x3E9, "COPTIC SMALL LETTER HORI"), (0x3EA, "COPTIC CAPITAL LETTER GANGIA"),
   (0x3EB, "COPTIC SMALL LETTER GANGIA"), (0x3EC, "COPTIC CAPITAL LETTER SHIMA"),
   (0x3ED, "COPTIC SMALL LETTER SHIMA"), (0x3EE, "COPTIC CAPITAL LETTER DEI"),
   (0x3EF, "COPTIC SMALL LETTER DEI"), (0x3F0, "GREEK KAPPA SYMBOL"), (0x3F1, "GREEK RHO SYMBOL"),
   (0x3F2, "GREEK LUNATE SIGMA SYMBOL"), (0x3F3, "GREEK LETTER YOT"),
   (0x3F4, "GREEK CAPITAL THETA SYMBOL"), (0x3F5, "GREEK LUNATE EPSILON SYMBOL"),
   (0x3F6, "GREEK REVERSED LUNATE EPSILON SYMBOL"), (0x3F7, "GREEK CAPITAL LETTER SHO"),
   (0x3F8, "GREEK SMALL LETTER SHO"), (0x3F9, "GREEK CAPITAL LUNATE SIGMA SYMBOL"),
   (0x3FA, "GREEK CAPITAL LETTER SAN"), (0x3FB, "GREEK SMALL LETTER SAN"),
   (0x3FC, "GREEK RHO WITH STROKE SYMBOL"), (0x3FD, "GREEK CAPITAL REVERSED LUNATE SIGMA SYMBOL"),
   (0x3FE, "GREEK CAPITAL DOTTED LUNATE SIGMA SYMBOL"),
   (0x3FF, "GREEK CAPITAL REVERSED DOTTED LUNATE SIGMA SYMBOL"),
   (0x400, "CYRILLIC CAPITAL LETTER IE WITH GRAVE"), (0x401, "CYRILLIC CAPITAL LETTER IO"),
   (0x402, "CYRILLIC CAPITAL LETTER DJE"), (0x403, "CYRILLIC CAPITAL LETTER GJE"),
   (0x404, "CYRILLIC CAPITAL LETTER UKRAINIAN IE"), (0x405, "CYRILLIC CAPITAL LETTER DZE"),
   (0x406, "CYRILLIC CAPITAL LETTER BYELORUSSIAN-UKRAINIAN I"),
   (0x407, "CYRILLIC CAPITAL LETTER YI"), (0x408, "CYRILLIC CAPITAL LETTER JE"),
   (0x409, "CYRILLIC CAPITAL LETTER LJE"), (0x40A, "CYRILLIC CAPITAL LETTER NJE"),
   (0x40B, "CYRILLIC CAPITAL LETTER TSHE"), (0x40C, "CYRILLIC CAPITAL LETTER KJE"),
   (0x40D, "CYRILLIC CAPITAL LETTER I WITH GRAVE"), (0x40E, "CYRILLIC CAPITAL LETTER SHORT U"),
   (0x40F, "CYRILLIC CAPITAL LETTER DZHE"), (0x410, "CYRILLIC CAPITAL LETTER A"),
   (0x411, "CYRILLIC CAPITAL LETTER BE"), (0x412, "CYRILLIC CAPITAL LETTER VE"),
   (0x413, "CYRILLIC CAPITAL LETTER GHE"), (0x414, "CYRILLIC CAPITAL LETTER DE"),
   (0x415, "CYRILLIC CAPITAL LETTER IE"), (0x416, "CYRILLIC CAPITAL LETTER ZHE"),
   (0x417, "CYRILLIC CAPITAL LETTER ZE"), (0x418, "CYRILLIC CAPITAL LETTER I"),
   (0x419, "CYRILLIC CAPITAL LETTER SHORT I"), (0x41A, "CYRILLIC CAPITAL LETTER KA"),
   (0x41B, "CYRILLIC CAPITAL LETTER EL"), (0x41C, "CYRILLIC CAPITAL LETTER EM"),
   (0x41D, "CYRILLIC CAPITAL LETTER EN"), (0x41E, "CYRILLIC CAPITAL LETTER O"),
   (0x41F, "CYRILLIC CAPITAL LETTER PE"), (0x420, "CYRILLIC CAPITAL LETTER ER"),
   (0x421, "CYRILLIC CAPITAL LETTER ES"), (0x422, "CYRILLIC CAPITAL LETTER TE"),
   (0x423, "CYRILLIC CAPITAL LETTER U"), (0x424, "CYRILLIC CAPITAL LETTER EF"),
   (0x425, "CYRILLIC CAPITAL LETTER HA"), (0x426, "CYRILLIC CAPITAL LETTER TSE"),
   (0x427, "CYRILLIC CAPITAL LETTER CHE"), (0x428, "CYRILLIC CAPITAL LETTER SHA"),
   (0x429, "CYRILLIC CAPITAL LETTER SHCHA"), (0x42A, "CYRILLIC CAPITAL LETTER HARD SIGN"),
   (0x42B, "CYRILLIC CAPITAL LETTER YERU"), (0x42C, "CYRILLIC CAPITAL LETTER SOFT SIGN"),
   (0x42D, "CYRILLIC CAPITAL LETTER E"), (0x42E, "CYRILLIC CAPITAL LETTER YU"),
   (0x42F, "CYRILLIC CAPITAL LETTER YA"), (0x430, "CYRILLIC SMALL LETTER A"),
   (0x431, "CYRILLIC SMALL LETTER BE"), (0x432, "CYRILLIC SMALL LETTER VE"),
   (0x433, "CYRILLIC SMALL LETTER GHE"), (0x434, "CYRILLIC SMALL LETTER DE"),
   (0x435, "CYRILLIC SMALL LETTER IE"), (0x436, "CYRILLIC SMALL LETTER ZHE"),
   (0x437, "CYRILLIC SMALL LETTER ZE"), (0x438, "CYRILLIC SMALL LETTER I"),
   (0x439, "CYRILLIC SMALL LETTER SHORT I"), (0x43A, "CYRILLIC SMALL LETTER KA"),
   (0x43B, "CYRILLIC SMALL LETTER EL"), (0x43C, "CYRILLIC SMALL LETTER EM"),
   (0x43D, "CYRILLIC SMALL LETTER EN"), (0x43E, "CYRILLIC SMALL LETTER O"),
   (0x43F, "CYRILLIC SMALL LETTER PE"), (0x440, "CYRILLIC SMALL LETTER ER"),
   (0x441, "CYRILLIC SMALL LETTER ES"), (0x442, "CYRILLIC SMALL LETTER TE"),
   (0x443, "CYRILLIC SMALL LETTER U"), (0x444, "CYRILLIC SMALL LETTER EF"),
   (0x445, "CYRILLIC SMALL LETTER HA"), (0x446, "CYRILLIC SMALL LETTER TSE"),
   (0x447, "CYRILLIC SMALL LETTER CHE"), (0x448, "CYRILLIC SMALL LETTER SHA"),
   (0x449, "CYRILLIC SMALL LETTER SHCHA"), (0x44A, "CYRILLIC SMALL LETTER HARD SIGN"),
   (0x44B, "CYRILLIC SMALL LETTER YERU"), (0x44C, "CYRILLIC SMALL LETTER SOFT SIGN"),
   (0x44D, "CYRILLIC SMALL LETTER E"), (0x44E, "CYRILLIC SMALL LETTER YU"),
   (0x44F, "CYRILLIC SMALL LETTER YA"), (0x450, "CYRILLIC SMALL LETTER IE WITH GRAVE"),
   (0x451, "CYRILLIC SMALL LETTER IO"), (0x452, "CYRILLIC SMALL LETTER DJE"),
   (0x453, "CYRILLIC SMALL LETTER GJE"), (0x454, "CYRILLIC SMALL LETTER UKRAINIAN IE"),
   (0x455, "CYRILLIC SMALL LETTER DZE"),
   (0x456, "CYRILLIC SMALL LETTER BYELORUSSIAN-UKRAINIAN I"), (0x457, "CYRILLIC SMALL LETTER YI"),
   (0x458, "CYRILLIC SMALL LETTER JE"), (0x459, "CYRILLIC SMALL LETTER LJE"),
   (0x45A, "CYRILLIC SMALL LETTER NJE"), (0x45B, "CYRILLIC SMALL LETTER TSHE"),
   (0x45C, "CYRILLIC SMALL LETTER KJE"), (0x45D, "CYRILLIC SMALL LETTER I WITH GRAVE"),
   (0x45E, "CYRILLIC SMALL LETTER SHORT U"), (0x45F, "CYRILLIC SMALL LETTER DZHE"),
   (0x5D0, "HEBREW LETTER ALEF"), (0x5D1, "HEBREW LETTER BET"), (0x5D2, "HEBREW LETTER GIMEL"),
   (0x5D3, "HEBREW LETTER DALET"), (0x5D4, "HEBREW LETTER HE"), (0x5D5, "HEBREW LETTER VAV"),
   (0x5D6, "HEBREW LETTER ZAYIN"), (0x5D7, "HEBREW LETTER HET"), (0x5D8, "HEBREW LETTER TET"),
   (0x5D9, "HEBREW LETTER YOD"), (0x5DA, "HEBREW LETTER FINAL KAF"), (0x5DB, "HEBREW LETTER KAF"),
   (0x5DC, "HEBREW LETTER LAMED"), (0x5DD, "HEBREW LETTER FINAL MEM"),
   (0x5DE, "HEBREW LETTER MEM"), (0x5DF, "HEBREW LETTER FINAL NUN"), (0x5E0, "HEBREW LETTER NUN"),
   (0x5E1, "HEBREW LETTER SAMEKH"), (0x5E2, "HEBREW LETTER AYIN"),
   (0x5E3, "HEBREW LETTER FINAL PE"), (0x5E4, "HEBREW LETTER PE"),
   (0x5E5, "HEBREW LETTER FINAL TSADI"), (0x5E6, "HEBREW LETTER TSADI"),
   (0x5E7, "HEBREW LETTER QOF"), (0x5E8, "HEBREW LETTER RESH"), (0x5E9, "HEBREW LETTER SHIN"),
   (0x5EA, "HEBREW LETTER TAV"), (0x2000, "EN QUAD"), (0x2001, "EM QUAD"), (0x2002, "EN SPACE"),
   (0x2003, "EM SPACE"), (0x2004, "THREE-PER-EM SPACE"), (0x2005, "FOUR-PER-EM SPACE"),
   (0x2006, "SIX-PER-EM SPACE"), (0x2007, "FIGURE SPACE"), (0x2008, "PUNCTUATION SPACE"),
   (0x2009, "THIN SPACE"), (0x200A, "HAIR SPACE"), (0x200B, "ZERO WIDTH SPACE"),
   (0x200C, "ZERO WIDTH NON-JOINER"), (0x200D, "ZERO WIDTH JOINER"),
   (0x200E, "LEFT-TO-RIGHT MARK"), (0x200F, "RIGHT-TO-LEFT MARK"), (0x2010, "HYPHEN"),
   (0x2011, "NON-BREAKING HYPHEN"), (0x2012, "FIGURE DASH"), (0x2013, "EN DASH"),
   (0x2014, "EM DASH"), (0x2015, "HORIZONTAL BAR"), (0x2016, "DOUBLE VERTICAL LINE"),
   (0x2017, "DOUBLE LOW LINE"), (0x2018, "LEFT SINGLE QUOTATION MARK"),
   (0x2019, "RIGHT SINGLE QUOTATION MARK"), (0x201A, "SINGLE LOW-9 QUOTATION MARK"),
   (0x201B, "SINGLE HIGH-REVERSED-9 QUOTATION MARK"), (0x201C, "LEFT DOUBLE QUOTATION MARK"),
   (0x201D, "RIGHT DOUBLE QUOTATION MARK"), (0x201E, "DOUBLE LOW-9 QUOTATION MARK")]

def names201F : List (Nat × String) :=
  [(0x201F, "DOUBLE HIGH-REVERSED-9 QUOTATION MARK"), (0x2020, "DAGGER"),
   (0x2021, "DOUBLE DAGGER"), (0x2022, "BULLET"), (0x2023, "TRIANGULAR BULLET"),
   (0x2024, "ONE DOT LEADER"), (0x2025, "TWO DOT LEADER"), (0x2026, "HORIZONTAL ELLIPSIS"),
   (0x2027, "HYPHENATION POINT"), (0x2028, "LINE SEPARATOR"), (0x2029, "PARAGRAPH SEPARATOR"),
   (0x202A, "LEFT-TO-RIGHT EMBEDDING"), (0x202B, "RIGHT-TO-LEFT EMBEDDING"),
   (0x202C, "POP DIRECTIONAL FORMATTING"), (0x202D, "LEFT-TO-RIGHT OVERRIDE"),
   (0x202E, "RIGHT-TO-LEFT OVERRIDE"), (0x202F, "NARROW NO-BREAK SPACE"),
   (0x2030, "PER MILLE SIGN"), (0x2031, "PER TEN THOUSAND SIGN"), (0x2032, "PRIME"),
   (0x2033, "DOUBLE PRIME"), (0x2034, "TRIPLE PRIME"), (0x2035, "REVERSED PRIME"),
   (0x2036, "REVERSED DOUBLE PRIME"), (0x2037, "REVERSED TRIPLE PRIME"), (0x2038, "CARET"),
   (0x2039, "SINGLE LEFT-POINTING ANGLE QUOTATION MARK"),
   (0x203A, "SINGLE RIGHT-POINTING ANGLE QUOTATION MARK"), (0x203B, "REFERENCE MARK"),
   (0x203C, "DOUBLE EXCLAMATION MARK"), (0x203D, "INTERROBANG"), (0x203E, "OVERLINE"),
   (0x203F, "UNDERTIE"), (0x2040, "CHARACTER TIE"), (0x2041, "CARET INSERTION POINT"),
   (0x2042, "ASTERISM"), (0x2043, "HYPHEN BULLET"), (0x2044, "FRACTION SLASH"),
   (0x2045, "LEFT SQUARE BRACKET WITH QUILL"), (0x2046, "RIGHT SQUARE BRACKET WITH QUILL"),
   (0x2047, "DOUBLE QUESTION MARK"), (0x2048, "QUESTION EXCLAMATION MARK"),
   (0x2049, "EXCLAMATION QUESTION MARK"), (0x204A, "TIRONIAN SIGN ET"),
   (0x204B, "REVERSED PILCROW SIGN"), (0x204C, "BLACK LEFTWARDS BULLET"),
   (0x204D, "BLACK RIGHTWARDS BULLET"), (0x204E, "LOW ASTERISK"), (0x204F, "REVERSED SEMICOLON"),
   (0x2050, "CLOSE UP"), (0x2051, "TWO ASTERISKS ALIGNED VERTICALLY"),
   (0x2052, "COMMERCIAL MINUS SIGN"), (0x2053, "SWUNG DASH"), (0x2054, "INVERTED UNDERTIE"),
   (0x2055, "FLOWER PUNCTUATION MARK"), (0x2056, "THREE DOT PUNCTUATION"),
   (0x2057, "QUADRUPLE PRIME"), (0x2058, "FOUR DOT PUNCTUATION"),
   (0x2059, "FIVE DOT PUNCTUATION"), (0x205A, "TWO DOT PUNCTUATION"), (0x205B, "FOUR DOT MARK"),
   (0x205C, "DOTTED CROSS"), (0x205D, "TRICOLON"), (0x205E, "VERTICAL FOUR DOTS"),
   (0x205F, "MEDIUM MATHEMATICAL SPACE"), (0x2060, "WORD JOINER"),
   (0x2061, "FUNCTION APPLICATION"), (0x2062, "INVISIBLE TIMES"), (0x2063, "INVISIBLE SEPARATOR"),
   (0x2064, "INVISIBLE PLUS"), (0x2066, "LEFT-TO-RIGHT ISOLATE"),
   (0x2067, "RIGHT-TO-LEFT ISOLATE"), (0x2068, "FIRST STRONG ISOLATE"),
   (0x2069, "POP DIRECTIONAL ISOLATE"), (0x206A, "INHIBIT SYMMETRIC SWAPPING"),
   (0x206B, "ACTIVATE SYMMETRIC SWAPPING"), (0x206C, "INHIBIT ARABIC FORM SHAPING"),
   (0x206D, "ACTIVATE ARABIC FORM SHAPING"), (0x206E, "NATIONAL DIGIT SHAPES"),
   (0x206F, "NOMINAL DIGIT SHAPES"), (0x20A0, "EURO-CURRENCY SIGN"), (0x20A1, "COLON SIGN"),
   (0x20A2, "CRUZEIRO SIGN"), (0x20A3, "FRENCH FRANC SIGN"), (0x20A4, "LIRA SIGN"),
   (0x20A5, "MILL SIGN"), (0x20A6, "NAIRA SIGN"), (0x20A7, "PESETA SIGN"), (0x20A8, "RUPEE SIGN"),
   (0x20A9, "WON SIGN"), (0x20AA, "NEW SHEQEL SIGN"), (0x20AB, "DONG SIGN"),
   (0x20AC, "EURO SIGN"), (0x20AD, "KIP SIGN"), (0x20AE, "TUGRIK SIGN"), (0x20AF, "DRACHMA SIGN"),
   (0x20B0, "GERMAN PENNY SIGN"), (0x20B1, "PESO SIGN"), (0x20B2, "GUARANI SIGN"),
   (0x20B3, "AUSTRAL SIGN"), (0x20B4, "HRYVNIA SIGN"), (0x20B5, "CEDI SIGN"),
   (0x20B6, "LIVRE TOURNOIS SIGN"), (0x20B7, "SPESMILO SIGN"), (0x20B8, "TENGE SIGN"),
   (0x20B9, "INDIAN RUPEE SIGN"), (0x20BA, "TURKISH LIRA SIGN"), (0x20BB, "NORDIC MARK SIGN"),
   (0x20BC, "MANAT SIGN"), (0x20BD, "RUBLE SIGN"), (0x20BE, "LARI SIGN"),
   (0x20BF, "BITCOIN SIGN"), (0x2100, "ACCOUNT OF"), (0x2101, "ADDRESSED TO THE SUBJECT"),
   (0x2102, "DOUBLE-STRUCK CAPITAL C"), (0x2103, "DEGREE CELSIUS"),
   (0x2104, "CENTRE LINE SYMBOL"), (0x2105, "CARE OF"), (0x2106, "CADA UNA"),
   (0x2107, "EULER CONSTANT"), (0x2108, "SCRUPLE"), (0x2109, "DEGREE FAHRENHEIT"),
   (0x210A, "SCRIPT SMALL G"), (0x210B, "SCRIPT CAPITAL H"), (0x210C, "BLACK-LETTER CAPITAL H"),
   (0x210D, "DOUBLE-STRUCK CAPITAL H"), (0x210E, "PLANCK CONSTANT"),
   (0x210F, "PLANCK CONSTANT OVER TWO PI"), (0x2110, "SCRIPT CAPITAL I"),
   (0x2111, "BLACK-LETTER CAPITAL I"), (0x2112, "SCRIPT CAPITAL L"), (0x2113, "SCRIPT SMALL L"),
   (0x2114, "L B BAR SYMBOL"), (0x2115, "DOUBLE-STRUCK CAPITAL N"), (0x2116, "NUMERO SIGN"),
   (0x2117, "SOUND RECORDING COPYRIGHT"), (0x2118, "SCRIPT CAPITAL P"),
   (0x2119, "DOUBLE-STRUCK CAPITAL P"), (0x211A, "DOUBLE-STRUCK CAPITAL Q"),
   (0x211B, "SCRIPT CAPITAL R"), (0x211C, "BLACK-LETTER CAPITAL R"),
   (0x211D, "DOUBLE-STRUCK CAPITAL R"), (0x211E, "PRESCRIPTION TAKE"), (0x211F, "RESPONSE"),
   (0x2120, "SERVICE MARK"), (0x2121, "TELEPHONE SIGN"), (0x2122, "TRADE MARK SIGN"),
   (0x2123, "VERSICLE"), (0x2124, "DOUBLE-STRUCK CAPITAL Z"), (0x2125, "OUNCE SIGN"),
   (0x2126, "OHM SIGN"), (0x2127, "INVERTED OHM SIGN"), (0x2128, "BLACK-LETTER CAPITAL Z"),
   (0x2129, "TURNED GREEK SMALL LETTER IOTA"), (0x212A, "KELVIN SIGN"), (0x212B, "ANGSTROM SIGN"),
   (0x212C, "SCRIPT CAPITAL B"), (0x212D, "BLACK-LETTER CAPITAL C"), (0x212E, "ESTIMATED SYMBOL"),
   (0x212F, "SCRIPT SMALL E"), (0x2130, "SCRIPT CAPITAL E"), (0x2131, "SCRIPT CAPITAL F"),
   (0x2132, "TURNED CAPITAL F"), (0x2133, "SCRIPT CAPITAL M"), (0x2134, "SCRIPT SMALL O"),
   (0x2135, "ALEF SYMBOL"), (0x2136, "BET SYMBOL"), (0x2137, "GIMEL SYMBOL"),
   (0x2138, "DALET SYMBOL"), (0x2139, "INFORMATION SOURCE"), (0x213A, "ROTATED CAPITAL Q"),
   (0x213B, "FACSIMILE SIGN"), (0x213C, "DOUBLE-STRUCK SMALL PI"),
   (0x213D, "DOUBLE-STRUCK SMALL GAMMA"), (0x213E, "DOUBLE-STRUCK CAPITAL GAMMA"),
   (0x213F, "DOUBLE-STRUCK CAPITAL PI"), (0x2140, "DOUBLE-STRUCK N-ARY SUMMATION"),
   (0x2141, "TURNED SANS-SERIF CAPITAL G"), (0x2142, "TURNED SANS-SERIF CAPITAL L"),
   (0x2143, "REVERSED SANS-SERIF CAPITAL L"), (0x2144, "TURNED SANS-SERIF CAPITAL Y"),
   (0x2145, "DOUBLE-STRUCK ITALIC CAPITAL D"), (0x2146, "DOUBLE-STRUCK ITALIC SMALL D"),
   (0x2147, "DOUBLE-STRUCK ITALIC SMALL E"), (0x2148, "DOUBLE-STRUCK ITALIC SMALL I"),
   (0x2149, "DOUBLE-STRUCK ITALIC SMALL J"), (0x214A, "PROPERTY LINE"),
   (0x214B, "TURNED AMPERSAND"), (0x214C, "PER SIGN"), (0x214D, "AKTIESELSKAB"),
   (0x214E, "TURNED SMALL F"), (0x214F, "SYMBOL FOR SAMARITAN SOURCE"),
   (0x2150, "VULGAR FRACTION ONE SEVENTH"), (0x2151, "VULGAR FRACTION ONE NINTH"),
   (0x2152, "VULGAR FRACTION ONE TENTH"), (0x2153, "VULGAR FRACTION ONE THIRD"),
   (0x2154, "VULGAR FRACTION TWO THIRDS"), (0x2155, "VULGAR FRACTION ONE FIFTH"),
   (0x2156, "VULGAR FRACTION TWO FIFTHS"), (0x2157, "VULGAR FRACTION THREE FIFTHS"),
   (0x2158, "VULGAR FRACTION FOUR FIFTHS"), (0x2159, "VULGAR FRACTION ONE SIXTH"),
   (0x215A, "VULGAR FRACTION FIVE SIXTHS"), (0x215B, "VULGAR FRACTION ONE EIGHTH"),
   (0x215C, "VULGAR FRACTION THREE EIGHTHS"), (0x215D, "VULGAR FRACTION FIVE EIGHTHS"),
   (0x215E, "VULGAR FRACTION SEVEN EIGHTHS"), (0x215F, "FRACTION NUMERATOR ONE"),
   (0x2160, "ROMAN NUMERAL ONE"), (0x2161, "ROMAN NUMERAL TWO"), (0x2162, "ROMAN NUMERAL THREE"),
   (0x2163, "ROMAN NUMERAL FOUR"), (0x2164, "ROMAN NUMERAL FIVE"), (0x2165, "ROMAN NUMERAL SIX"),
   (0x2166, "ROMAN NUMERAL SEVEN"), (0x2167, "ROMAN NUMERAL EIGHT"),
   (0x2168, "ROMAN NUMERAL NINE"), (0x2169, "ROMAN NUMERAL TEN"),
   (0x216A, "ROMAN NUMERAL ELEVEN"), (0x216B, "ROMAN NUMERAL TWELVE"),
   (0x216C, "ROMAN NUMERAL FIFTY"), (0x216D, "ROMAN NUMERAL ONE HUNDRED"),
   (0x216E, "ROMAN NUMERAL FIVE HUNDRED"), (0x216F, "ROMAN NUMERAL ONE THOUSAND"),
   (0x2170, "SMALL ROMAN NUMERAL ONE"), (0x2171, "SMALL ROMAN NUMERAL TWO"),
   (0x2172, "SMALL ROMAN NUMERAL THREE"), (0x2173, "SMALL ROMAN NUMERAL FOUR"),
   (0x2174, "SMALL ROMAN NUMERAL FIVE"), (0x2175, "SMALL ROMAN NUMERAL SIX"),
   (0x2176, "SMALL ROMAN NUMERAL SEVEN"), (0x2177, "SMALL ROMAN NUMERAL EIGHT"),
   (0x2178, "SMALL ROMAN NUMERAL NINE"), (0x2179, "SMALL ROMAN NUMERAL TEN"),
   (0x217A, "SMALL ROMAN NUMERAL ELEVEN"), (0x217B, "SMALL ROMAN NUMERAL TWELVE"),
   (0x217C, "SMALL ROMAN NUMERAL FIFTY"), (0x217D, "SMALL ROMAN NUMERAL ONE HUNDRED"),
   (0x217E, "SMALL ROMAN NUMERAL FIVE HUNDRED"), (0x217F, "SMALL ROMAN NUMERAL ONE THOUSAND"),
   (0x2180, "ROMAN NUMERAL ONE THOUSAND C D"), (0x2181, "ROMAN NUMERAL FIVE THOUSAND"),
   (0x2182, "ROMAN NUMERAL TEN THOUSAND"), (0x2183, "ROMAN NUMERAL REVERSED ONE HUNDRED"),
   (0x2184, "LATIN SMALL LETTER REVERSED C"), (0x2185, "ROMAN NUMERAL SIX LATE FORM"),
   (0x2186, "ROMAN NUMERAL FIFTY EARLY FORM"), (0x2187, "ROMAN NUMERAL FIFTY THOUSAND"),
   (0x2188, "ROMAN NUMERAL ONE HUNDRED THOUSAND"), (0x2189, "VULGAR FRACTION ZERO THIRDS"),
   (0x218A, "TURNED DIGIT TWO"), (0x218B, "TURNED DIGIT THREE"), (0x2190, "LEFTWARDS ARROW"),
   (0x2191, "UPWARDS ARROW"), (0x2192, "RIGHTWARDS ARROW"), (0x2193, "DOWNWARDS ARROW"),
   (0x2194, "LEFT RIGHT ARROW"), (0x2195, "UP DOWN ARROW"), (0x2196, "NORTH WEST ARROW"),
   (0x2197, "NORTH EAST ARROW"), (0x2198, "SOUTH EAST ARROW"), (0x2199, "SOUTH WEST ARROW"),
   (0x219A, "LEFTWARDS ARROW WITH STROKE"), (0x219B, "RIGHTWARDS ARROW WITH STROKE"),
   (0x219C, "LEFTWARDS WAVE ARROW"), (0x219D, "RIGHTWARDS WAVE ARROW"),
   (0x219E, "LEFTWARDS TWO HEADED ARROW"), (0x219F, "UPWARDS TWO HEADED ARROW"),
   (0x21A0, "RIGHTWARDS TWO HEADED ARROW"), (0x21A1, "DOWNWARDS TWO HEADED ARROW"),
   (0x21A2, "LEFTWARDS ARROW WITH TAIL"), (0x21A3, "RIGHTWARDS ARROW WITH TAIL"),
   (0x21A4, "LEFTWARDS ARROW FROM BAR"), (0x21A5, "UPWARDS ARROW FROM BAR"),
   (0x21A6, "RIGHTWARDS ARROW FROM BAR"), (0x21A7, "DOWNWARDS ARROW FROM BAR"),
   (0x21A8, "UP DOWN ARROW WITH BASE"), (0x21A9, "LEFTWARDS ARROW WITH HOOK"),
   (0x21AA, "RIGHTWARDS ARROW WITH HOOK"), (0x21AB, "LEFTWARDS ARROW WITH LOOP"),
   (0x21AC, "RIGHTWARDS ARROW WITH LOOP"), (0x21AD, "LEFT RIGHT WAVE ARROW"),
   (0x21AE, "LEFT RIGHT ARROW WITH STROKE"), (0x21AF, "DOWNWARDS ZIGZAG ARROW"),
   (0x21B0, "UPWARDS ARROW WITH TIP LEFTWARDS"), (0x21B1, "UPWARDS ARROW WITH TIP RIGHTWARDS"),
   (0x21B2, "DOWNWARDS ARROW WITH TIP LEFTWARDS"),
   (0x21B3, "DOWNWARDS ARROW WITH TIP RIGHTWARDS"),
   (0x21B4, "RIGHTWARDS ARROW WITH CORNER DOWNWARDS"),
   (0x21B5, "DOWNWARDS ARROW WITH CORNER LEFTWARDS"),
   (0x21B6, "ANTICLOCKWISE TOP SEMICIRCLE ARROW"), (0x21B7, "CLOCKWISE TOP SEMICIRCLE ARROW"),
   (0x21B8, "NORTH WEST ARROW TO LONG BAR"),
   (0x21B9, "LEFTWARDS ARROW TO BAR OVER RIGHTWARDS ARROW TO BAR"),
   (0x21BA, "ANTICLOCKWISE OPEN CIRCLE ARROW"), (0x21BB, "CLOCKWISE OPEN CIRCLE ARROW"),
   (0x21BC, "LEFTWARDS HARPOON WITH BARB UPWARDS"),
   (0x21BD, "LEFTWARDS HARPOON WITH BARB DOWNWARDS"),
   (0x21BE, "UPWARDS HARPOON WITH BARB RIGHTWARDS"),
   (0x21BF, "UPWARDS HARPOON WITH BARB LEFTWARDS"),
   (0x21C0, "RIGHTWARDS HARPOON WITH BARB UPWARDS"),
   (0x21C1, "RIGHTWARDS HARPOON WITH BARB DOWNWARDS"),
   (0x21C2, "DOWNWARDS HARPOON WITH BARB RIGHTWARDS"),
   (0x21C3, "DOWNWARDS HARPOON WITH BARB LEFTWARDS"),
   (0x21C4, "RIGHTWARDS ARROW OVER LEFTWARDS ARROW"),
   (0x21C5, "UPWARDS ARROW LEFTWARDS OF DOWNWARDS ARROW"),
   (0x21C6, "LEFTWARDS ARROW OVER RIGHTWARDS ARROW"), (0x21C7, "LEFTWARDS PAIRED ARROWS"),
   (0x21C8, "UPWARDS PAIRED ARROWS"), (0x21C9, "RIGHTWARDS PAIRED ARROWS"),
   (0x21CA, "DOWNWARDS PAIRED ARROWS"), (0x21CB, "LEFTWARDS HARPOON OVER RIGHTWARDS HARPOON"),
   (0x21CC, "RIGHTWARDS HARPOON OVER LEFTWARDS HARPOON"),
   (0x21CD, "LEFTWARDS DOUBLE ARROW WITH STROKE"),
   (0x21CE, "LEFT RIGHT DOUBLE ARROW WITH STROKE"),
   (0x21CF, "RIGHTWARDS DOUBLE ARROW WITH STROKE"), (0x21D0, "LEFTWARDS DOUBLE ARROW"),
   (0x21D1, "UPWARDS DOUBLE ARROW"), (0x21D2, "RIGHTWARDS DOUBLE ARROW"),
   (0x21D3, "DOWNWARDS DOUBLE ARROW"), (0x21D4, "LEFT RIGHT DOUBLE ARROW"),
   (0x21D5, "UP DOWN DOUBLE ARROW"), (0x21D6, "NORTH WEST DOUBLE ARROW"),
   (0x21D7, "NORTH EAST DOUBLE ARROW"), (0x21D8, "SOUTH EAST DOUBLE ARROW"),
   (0x21D9, "SOUTH WEST DOUBLE ARROW"), (0x21DA, "LEFTWARDS TRIPLE ARROW"),
   (0x21DB, "RIGHTWARDS TRIPLE ARROW"), (0x21DC, "LEFTWARDS SQUIGGLE ARROW"),
   (0x21DD, "RIGHTWARDS SQUIGGLE ARROW"), (0x21DE, "UPWARDS ARROW WITH DOUBLE STROKE"),
   (0x21DF, "DOWNWARDS ARROW WITH DOUBLE STROKE"), (0x21E0, "LEFTWARDS DASHED ARROW"),
   (0x21E1, "UPWARDS DASHED ARROW"), (0x21E2, "RIGHTWARDS DASHED ARROW"),
   (0x21E3, "DOWNWARDS DASHED ARROW"), (0x21E4, "LEFTWARDS ARROW TO BAR"),
   (0x21E5, "RIGHTWARDS ARROW TO BAR"), (0x21E6, "LEFTWARDS WHITE ARROW"),
   (0x21E7, "UPWARDS WHITE ARROW"), (0x21E8, "RIGHTWARDS WHITE ARROW"),
   (0x21E9, "DOWNWARDS WHITE ARROW"), (0x21EA, "UPWARDS WHITE ARROW FROM BAR"),
   (0x21EB, "UPWARDS WHITE ARROW ON PEDESTAL"),
   (0x21EC, "UPWARDS WHITE ARROW ON PEDESTAL WITH HORIZONTAL BAR"),
   (0x21ED, "UPWARDS WHITE ARROW ON PEDESTAL WITH VERTICAL BAR"),
   (0x21EE, "UPWARDS WHITE DOUBLE ARROW"), (0x21EF, "UPWARDS WHITE DOUBLE ARROW ON PEDESTAL"),
   (0x21F0, "RIGHTWARDS WHITE ARROW FROM WALL"), (0x21F1, "NORTH WEST ARROW TO CORNER"),
   (0x21F2, "SOUTH EAST ARROW TO CORNER"), (0x21F3, "UP DOWN WHITE ARROW"),
   (0x21F4, "RIGHT ARROW WITH SMALL CIRCLE"),
   (0x21F5, "DOWNWARDS ARROW LEFTWARDS OF UPWARDS ARROW"), (0x21F6, "THREE RIGHTWARDS ARROWS"),
   (0x21F7, "LEFTWARDS ARROW WITH VERTICAL STROKE"),
   (0x21F8, "RIGHTWARDS ARROW WITH VERTICAL STROKE"),
   (0x21F9, "LEFT RIGHT ARROW WITH VERTICAL STROKE"),
   (0x21FA, "LEFTWARDS ARROW WITH DOUBLE VERTICAL STROKE"),
   (0x21FB, "RIGHTWARDS ARROW WITH DOUBLE VERTICAL STROKE"),
   (0x21FC, "LEFT RIGHT ARROW WITH DOUBLE VERTICAL STROKE"),
   (0x21FD, "LEFTWARDS OPEN-HEADED ARROW"), (0x21FE, "RIGHTWARDS OPEN-HEADED ARROW"),
   (0x21FF, "LEFT RIGHT OPEN-HEADED ARROW"), (0x2200, "FOR ALL"), (0x2201, "COMPLEMENT"),
   (0x2202, "PARTIAL DIFFERENTIAL"), (0x2203, "THERE EXISTS"), (0x2204, "THERE DOES NOT EXIST"),
   (0x2205, "EMPTY SET"), (0x2206, "INCREMENT"), (0x2207, "NABLA"), (0x2208, "ELEMENT OF"),
   (0x2209, "NOT AN ELEMENT OF"), (0x220A, "SMALL ELEMENT OF"), (0x220B, "CONTAINS AS MEMBER"),
   (0x220C, "DOES NOT CONTAIN AS MEMBER"), (0x220D, "SMALL CONTAINS AS MEMBER"),
   (0x220E, "END OF PROOF"), (0x220F, "N-ARY PRODUCT"), (0x2210, "N-ARY COPRODUCT"),
   (0x2211, "N-ARY SUMMATION"), (0x2212, "MINUS SIGN"), (0x2213, "MINUS-OR-PLUS SIGN"),
   (0x2214, "DOT PLUS"), (0x2215, "DIVISION SLASH"), (0x2216, "SET MINUS"),
   (0x2217, "ASTERISK OPERATOR"), (0x2218, "RING OPERATOR"), (0x2219, "BULLET OPERATOR"),
   (0x221A, "SQUARE ROOT"), (0x221B, "CUBE ROOT"), (0x221C, "FOURTH ROOT"),
   (0x221D, "PROPORTIONAL TO"), (0x221E, "INFINITY"), (0x221F, "RIGHT ANGLE"), (0x2220, "ANGLE"),
   (0x2221, "MEASURED ANGLE"), (0x2222, "SPHERICAL ANGLE"), (0x2223, "DIVIDES")]

def names2224 : List (Nat × String) :=
  [(0x2224, "DOES NOT DIVIDE"), (0x2225, "PARALLEL TO"), (0x2226, "NOT PARALLEL TO"),
   (0x2227, "LOGICAL AND"), (0x2228, "LOGICAL OR"), (0x2229, "INTERSECTION"), (0x222A, "UNION"),
   (0x222B, "INTEGRAL"), (0x222C, "DOUBLE INTEGRAL"), (0x222D, "TRIPLE INTEGRAL"),
   (0x222E, "CONTOUR INTEGRAL"), (0x222F, "SURFACE INTEGRAL"), (0x2230, "VOLUME INTEGRAL"),
   (0x2231, "CLOCKWISE INTEGRAL"), (0x2232, "CLOCKWISE CONTOUR INTEGRAL"),
   (0x2233, "ANTICLOCKWISE CONTOUR INTEGRAL"), (0x2234, "THEREFORE"), (0x2235, "BECAUSE"),
   (0x2236, "RATIO"), (0x2237, "PROPORTION"), (0x2238, "DOT MINUS"), (0x2239, "EXCESS"),
   (0x223A, "GEOMETRIC PROPORTION"), (0x223B, "HOMOTHETIC"), (0x223C, "TILDE OPERATOR"),
   (0x223D, "REVERSED TILDE"), (0x223E, "INVERTED LAZY S"), (0x223F, "SINE WAVE"),
   (0x2240, "WREATH PRODUCT"), (0x2241, "NOT TILDE"), (0x2242, "MINUS TILDE"),
   (0x2243, "ASYMPTOTICALLY EQUAL TO"), (0x2244, "NOT ASYMPTOTICALLY EQUAL TO"),
   (0x2245, "APPROXIMATELY EQUAL TO"), (0x2246, "APPROXIMATELY BUT NOT ACTUALLY EQUAL TO"),
   (0x2247, "NEITHER APPROXIMATELY NOR ACTUALLY EQUAL TO"), (0x2248, "ALMOST EQUAL TO"),
   (0x2249, "NOT ALMOST EQUAL TO"), (0x224A, "ALMOST EQUAL OR EQUAL TO"),
   (0x224B, "TRIPLE TILDE"), (0x224C, "ALL EQUAL TO"), (0x224D, "EQUIVALENT TO"),
   (0x224E, "GEOMETRICALLY EQUIVALENT TO"), (0x224F, "DIFFERENCE BETWEEN"),
   (0x2250, "APPROACHES THE LIMIT"), (0x2251, "GEOMETRICALLY EQUAL TO"),
   (0x2252, "APPROXIMATELY EQUAL TO OR THE IMAGE OF"),
   (0x2253, "IMAGE OF OR APPROXIMATELY EQUAL TO"), (0x2254, "COLON EQUALS"),
   (0x2255, "EQUALS COLON"), (0x2256, "RING IN EQUAL TO"), (0x2257, "RING EQUAL TO"),
   (0x2258, "CORRESPONDS TO"), (0x2259, "ESTIMATES"), (0x225A, "EQUIANGULAR TO"),
   (0x225B, "STAR EQUALS"), (0x225C, "DELTA EQUAL TO"), (0x225D, "EQUAL TO BY DEFINITION"),
   (0x225E, "MEASURED BY"), (0x225F, "QUESTIONED EQUAL TO"), (0x2260, "NOT EQUAL TO"),
   (0x2261, "IDENTICAL TO"), (0x2262, "NOT IDENTICAL TO"), (0x2263, "STRICTLY EQUIVALENT TO"),
   (0x2264, "LESS-THAN OR EQUAL TO"), (0x2265, "GREATER-THAN OR EQUAL TO"),
   (0x2266, "LESS-THAN OVER EQUAL TO"), (0x2267, "GREATER-THAN OVER EQUAL TO"),
   (0x2268, "LESS-THAN BUT NOT EQUAL TO"), (0x2269, "GREATER-THAN BUT NOT EQUAL TO"),
   (0x226A, "MUCH LESS-THAN"), (0x226B, "MUCH GREATER-THAN"), (0x226C, "BETWEEN"),
   (0x226D, "NOT EQUIVALENT TO"), (0x226E, "NOT LESS-THAN"), (0x226F, "NOT GREATER-THAN"),
   (0x2270, "NEITHER LESS-THAN NOR EQUAL TO"), (0x2271, "NEITHER GREATER-THAN NOR EQUAL TO"),
   (0x2272, "LESS-THAN OR EQUIVALENT TO"), (0x2273, "GREATER-THAN OR EQUIVALENT TO"),
   (0x2274, "NEITHER LESS-THAN NOR EQUIVALENT TO"),
   (0x2275, "NEITHER GREATER-THAN NOR EQUIVALENT TO"), (0x2276, "LESS-THAN OR GREATER-THAN"),
   (0x2277, "GREATER-THAN OR LESS-THAN"), (0x2278, "NEITHER LESS-THAN NOR GREATER-THAN"),
   (0x2279, "NEITHER GREATER-THAN NOR LESS-THAN"), (0x227A, "PRECEDES"), (0x227B, "SUCCEEDS"),
   (0x227C, "PRECEDES OR EQUAL TO"), (0x227D, "SUCCEEDS OR EQUAL TO"),
   (0x227E, "PRECEDES OR EQUIVALENT TO"), (0x227F, "SUCCEEDS OR EQUIVALENT TO"),
   (0x2280, "DOES NOT PRECEDE"), (0x2281, "DOES NOT SUCCEED"), (0x2282, "SUBSET OF"),
   (0x2283, "SUPERSET OF"), (0x2284, "NOT A SUBSET OF"), (0x2285, "NOT A SUPERSET OF"),
   (0x2286, "SUBSET OF OR EQUAL TO"), (0x2287, "SUPERSET OF OR EQUAL TO"),
   (0x2288, "NEITHER A SUBSET OF NOR EQUAL TO"), (0x2289, "NEITHER A SUPERSET OF NOR EQUAL TO"),
   (0x228A, "SUBSET OF WITH NOT EQUAL TO"), (0x228B, "SUPERSET OF WITH NOT EQUAL TO"),
   (0x228C, "MULTISET"), (0x228D, "MULTISET MULTIPLICATION"), (0x228E, "MULTISET UNION"),
   (0x228F, "SQUARE IMAGE OF"), (0x2290, "SQUARE ORIGINAL OF"),
   (0x2291, "SQUARE IMAGE OF OR EQUAL TO"), (0x2292, "SQUARE ORIGINAL OF OR EQUAL TO"),
   (0x2293, "SQUARE CAP"), (0x2294, "SQUARE CUP"), (0x2295, "CIRCLED PLUS"),
   (0x2296, "CIRCLED MINUS"), (0x2297, "CIRCLED TIMES"), (0x2298, "CIRCLED DIVISION SLASH"),
   (0x2299, "CIRCLED DOT OPERATOR"), (0x229A, "CIRCLED RING OPERATOR"),
   (0x229B, "CIRCLED ASTERISK OPERATOR"), (0x229C, "CIRCLED EQUALS"), (0x229D, "CIRCLED DASH"),
   (0x229E, "SQUARED PLUS"), (0x229F, "SQUARED MINUS"), (0x22A0, "SQUARED TIMES"),
   (0x22A1, "SQUARED DOT OPERATOR"), (0x22A2, "RIGHT TACK"), (0x22A3, "LEFT TACK"),
   (0x22A4, "DOWN TACK"), (0x22A5, "UP TACK"), (0x22A6, "ASSERTION"), (0x22A7, "MODELS"),
   (0x22A8, "TRUE"), (0x22A9, "FORCES"), (0x22AA, "TRIPLE VERTICAL BAR RIGHT TURNSTILE"),
   (0x22AB, "DOUBLE VERTICAL BAR DOUBLE RIGHT TURNSTILE"), (0x22AC, "DOES NOT PROVE"),
   (0x22AD, "NOT TRUE"), (0x22AE, "DOES NOT FORCE"),
   (0x22AF, "NEGATED DOUBLE VERTICAL BAR DOUBLE RIGHT TURNSTILE"),
   (0x22B0, "PRECEDES UNDER RELATION"), (0x22B1, "SUCCEEDS UNDER RELATION"),
   (0x22B2, "NORMAL SUBGROUP OF"), (0x22B3, "CONTAINS AS NORMAL SUBGROUP"),
   (0x22B4, "NORMAL SUBGROUP OF OR EQUAL TO"),
   (0x22B5, "CONTAINS AS NORMAL SUBGROUP OR EQUAL TO"), (0x22B6, "ORIGINAL OF"),
   (0x22B7, "IMAGE OF"), (0x22B8, "MULTIMAP"), (0x22B9, "HERMITIAN CONJUGATE MATRIX"),
   (0x22BA, "INTERCALATE"), (0x22BB, "XOR"), (0x22BC, "NAND"), (0x22BD, "NOR"),
   (0x22BE, "RIGHT ANGLE WITH ARC"), (0x22BF, "RIGHT TRIANGLE"), (0x22C0, "N-ARY LOGICAL AND"),
   (0x22C1, "N-ARY LOGICAL OR"), (0x22C2, "N-ARY INTERSECTION"), (0x22C3, "N-ARY UNION"),
   (0x22C4, "DIAMOND OPERATOR"), (0x22C5, "DOT OPERATOR"), (0x22C6, "STAR OPERATOR"),
   (0x22C7, "DIVISION TIMES"), (0x22C8, "BOWTIE"),
   (0x22C9, "LEFT NORMAL FACTOR SEMIDIRECT PRODUCT"),
   (0x22CA, "RIGHT NORMAL FACTOR SEMIDIRECT PRODUCT"), (0x22CB, "LEFT SEMIDIRECT PRODUCT"),
   (0x22CC, "RIGHT SEMIDIRECT PRODUCT"), (0x22CD, "REVERSED TILDE EQUALS"),
   (0x22CE, "CURLY LOGICAL OR"), (0x22CF, "CURLY LOGICAL AND"), (0x22D0, "DOUBLE SUBSET"),
   (0x22D1, "DOUBLE SUPERSET"), (0x22D2, "DOUBLE INTERSECTION"), (0x22D3, "DOUBLE UNION"),
   (0x22D4, "PITCHFORK"), (0x22D5, "EQUAL AND PARALLEL TO"), (0x22D6, "LESS-THAN WITH DOT"),
   (0x22D7, "GREATER-THAN WITH DOT"), (0x22D8, "VERY MUCH LESS-THAN"),
   (0x22D9, "VERY MUCH GREATER-THAN"), (0x22DA, "LESS-THAN EQUAL TO OR GREATER-THAN"),
   (0x22DB, "GREATER-THAN EQUAL TO OR LESS-THAN"), (0x22DC, "EQUAL TO OR LESS-THAN"),
   (0x22DD, "EQUAL TO OR GREATER-THAN"), (0x22DE, "EQUAL TO OR PRECEDES"),
   (0x22DF, "EQUAL TO OR SUCCEEDS"), (0x22E0, "DOES NOT PRECEDE OR EQUAL"),
   (0x22E1, "DOES NOT SUCCEED OR EQUAL"), (0x22E2, "NOT SQUARE IMAGE OF OR EQUAL TO"),
   (0x22E3, "NOT SQUARE ORIGINAL OF OR EQUAL TO"), (0x22E4, "SQUARE IMAGE OF OR NOT EQUAL TO"),
   (0x22E5, "SQUARE ORIGINAL OF OR NOT EQUAL TO"), (0x22E6, "LESS-THAN BUT NOT EQUIVALENT TO"),
   (0x22E7, "GREATER-THAN BUT NOT EQUIVALENT TO"), (0x22E8, "PRECEDES BUT NOT EQUIVALENT TO"),
   (0x22E9, "SUCCEEDS BUT NOT EQUIVALENT TO"), (0x22EA, "NOT NORMAL SUBGROUP OF"),
   (0x22EB, "DOES NOT CONTAIN AS NORMAL SUBGROUP"),
   (0x22EC, "NOT NORMAL SUBGROUP OF OR EQUAL TO"),
   (0x22ED, "DOES NOT CONTAIN AS NORMAL SUBGROUP OR EQUAL"), (0x22EE, "VERTICAL ELLIPSIS"),
   (0x22EF, "MIDLINE HORIZONTAL ELLIPSIS"), (0x22F0, "UP RIGHT DIAGONAL ELLIPSIS"),
   (0x22F1, "DOWN RIGHT DIAGONAL ELLIPSIS"), (0x22F2, "ELEMENT OF WITH LONG HORIZONTAL STROKE"),
   (0x22F3, "ELEMENT OF WITH VERTICAL BAR AT END OF HORIZONTAL STROKE"),
   (0x22F4, "SMALL ELEMENT OF WITH VERTICAL BAR AT END OF HORIZONTAL STROKE"),
   (0x22F5, "ELEMENT OF WITH DOT ABOVE"), (0x22F6, "ELEMENT OF WITH OVERBAR"),
   (0x22F7, "SMALL ELEMENT OF WITH OVERBAR"), (0x22F8, "ELEMENT OF WITH UNDERBAR"),
   (0x22F9, "ELEMENT OF WITH TWO HORIZONTAL STROKES"),
   (0x22FA, "CONTAINS WITH LONG HORIZONTAL STROKE"),
   (0x22FB, "CONTAINS WITH VERTICAL BAR AT END OF HORIZONTAL STROKE"),
   (0x22FC, "SMALL CONTAINS WITH VERTICAL BAR AT END OF HORIZONTAL STROKE"),
   (0x22FD, "CONTAINS WITH OVERBAR"), (0x22FE, "SMALL CONTAINS WITH OVERBAR"),
   (0x22FF, "Z NOTATION BAG MEMBERSHIP"), (0x2500, "BOX DRAWINGS LIGHT HORIZONTAL"),
   (0x2501, "BOX DRAWINGS HEAVY HORIZONTAL"), (0x2502, "BOX DRAWINGS LIGHT VERTICAL"),
   (0x2503, "BOX DRAWINGS HEAVY VERTICAL"), (0x2504, "BOX DRAWINGS LIGHT TRIPLE DASH HORIZONTAL"),
   (0x2505, "BOX DRAWINGS HEAVY TRIPLE DASH HORIZONTAL"),
   (0x2506, "BOX DRAWINGS LIGHT TRIPLE DASH VERTICAL"),
   (0x2507, "BOX DRAWINGS HEAVY TRIPLE DASH VERTICAL"),
   (0x2508, "BOX DRAWINGS LIGHT QUADRUPLE DASH HORIZONTAL"),
   (0x2509, "BOX DRAWINGS HEAVY QUADRUPLE DASH HORIZONTAL"),
   (0x250A, "BOX DRAWINGS LIGHT QUADRUPLE DASH VERTICAL"),
   (0x250B, "BOX DRAWINGS HEAVY QUADRUPLE DASH VERTICAL"),
   (0x250C, "BOX DRAWINGS LIGHT DOWN AND RIGHT"),
   (0x250D, "BOX DRAWINGS DOWN LIGHT AND RIGHT HEAVY"),
   (0x250E, "BOX DRAWINGS DOWN HEAVY AND RIGHT LIGHT"),
   (0x250F, "BOX DRAWINGS HEAVY DOWN AND RIGHT"), (0x2510, "BOX DRAWINGS LIGHT DOWN AND LEFT"),
   (0x2511, "BOX DRAWINGS DOWN LIGHT AND LEFT HEAVY"),
   (0x2512, "BOX DRAWINGS DOWN HEAVY AND LEFT LIGHT"),
   (0x2513, "BOX DRAWINGS HEAVY DOWN AND LEFT"), (0x2514, "BOX DRAWINGS LIGHT UP AND RIGHT"),
   (0x2515, "BOX DRAWINGS UP LIGHT AND RIGHT HEAVY"),
   (0x2516, "BOX DRAWINGS UP HEAVY AND RIGHT LIGHT"), (0x2517, "BOX DRAWINGS HEAVY UP AND RIGHT"),
   (0x2518, "BOX DRAWINGS LIGHT UP AND LEFT"), (0x2519, "BOX DRAWINGS UP LIGHT AND LEFT HEAVY"),
   (0x251A, "BOX DRAWINGS UP HEAVY AND LEFT LIGHT"), (0x251B, "BOX DRAWINGS HEAVY UP AND LEFT"),
   (0x251C, "BOX DRAWINGS LIGHT VERTICAL AND RIGHT"),
   (0x251D, "BOX DRAWINGS VERTICAL LIGHT AND RIGHT HEAVY"),
   (0x251E, "BOX DRAWINGS UP HEAVY AND RIGHT DOWN LIGHT"),
   (0x251F, "BOX DRAWINGS DOWN HEAVY AND RIGHT UP LIGHT"),
   (0x2520, "BOX DRAWINGS VERTICAL HEAVY AND RIGHT LIGHT"),
   (0x2521, "BOX DRAWINGS DOWN LIGHT AND RIGHT UP HEAVY"),
   (0x2522, "BOX DRAWINGS UP LIGHT AND RIGHT DOWN HEAVY"),
   (0x2523, "BOX DRAWINGS HEAVY VERTICAL AND RIGHT"),
   (0x2524, "BOX DRAWINGS LIGHT VERTICAL AND LEFT"),
   (0x2525, "BOX DRAWINGS VERTICAL LIGHT AND LEFT HEAVY"),
   (0x2526, "BOX DRAWINGS UP HEAVY AND LEFT DOWN LIGHT"),
   (0x2527, "BOX DRAWINGS DOWN HEAVY AND LEFT UP LIGHT"),
   (0x2528, "BOX DRAWINGS VERTICAL HEAVY AND LEFT LIGHT"),
   (0x2529, "BOX DRAWINGS DOWN LIGHT AND LEFT UP HEAVY"),
   (0x252A, "BOX DRAWINGS UP LIGHT AND LEFT DOWN HEAVY"),
   (0x252B, "BOX DRAWINGS HEAVY VERTICAL AND LEFT"),
   (0x252C, "BOX DRAWINGS LIGHT DOWN AND HORIZONTAL"),
   (0x252D, "BOX DRAWINGS LEFT HEAVY AND RIGHT DOWN LIGHT"),
   (0x252E, "BOX DRAWINGS RIGHT HEAVY AND LEFT DOWN LIGHT"),
   (0x252F, "BOX DRAWINGS DOWN LIGHT AND HORIZONTAL HEAVY"),
   (0x2530, "BOX DRAWINGS DOWN HEAVY AND HORIZONTAL LIGHT"),
   (0x2531, "BOX DRAWINGS RIGHT LIGHT AND LEFT DOWN HEAVY"),
   (0x2532, "BOX DRAWINGS LEFT LIGHT AND RIGHT DOWN HEAVY"),
   (0x2533, "BOX DRAWINGS HEAVY DOWN AND HORIZONTAL"),
   (0x2534, "BOX DRAWINGS LIGHT UP AND HORIZONTAL"),
   (0x2535, "BOX DRAWINGS LEFT HEAVY AND RIGHT UP LIGHT"),
   (0x2536, "BOX DRAWINGS RIGHT HEAVY AND LEFT UP LIGHT"),
   (0x2537, "BOX DRAWINGS UP LIGHT AND HORIZONTAL HEAVY"),
   (0x2538, "BOX DRAWINGS UP HEAVY AND HORIZONTAL LIGHT"),
   (0x2539, "BOX DRAWINGS RIGHT LIGHT AND LEFT UP HEAVY"),
   (0x253A, "BOX DRAWINGS LEFT LIGHT AND RIGHT UP HEAVY"),
   (0x253B, "BOX DRAWINGS HEAVY UP AND HORIZONTAL"),
   (0x253C, "BOX DRAWINGS LIGHT VERTICAL AND HORIZONTAL"),
   (0x253D, "BOX DRAWINGS LEFT HEAVY AND RIGHT VERTICAL LIGHT"),
   (0x253E, "BOX DRAWINGS RIGHT HEAVY AND LEFT VERTICAL LIGHT"),
   (0x253F, "BOX DRAWINGS VERTICAL LIGHT AND HORIZONTAL HEAVY"),
   (0x2540, "BOX DRAWINGS UP HEAVY AND DOWN HORIZONTAL LIGHT"),
   (0x2541, "BOX DRAWINGS DOWN HEAVY AND UP HORIZONTAL LIGHT"),
   (0x2542, "BOX DRAWINGS VERTICAL HEAVY AND HORIZONTAL LIGHT"),
   (0x2543, "BOX DRAWINGS LEFT UP HEAVY AND RIGHT DOWN LIGHT"),
   (0x2544, "BOX DRAWINGS RIGHT UP HEAVY AND LEFT DOWN LIGHT"),
   (0x2545, "BOX DRAWINGS LEFT DOWN HEAVY AND RIGHT UP LIGHT"),
   (0x2546, "BOX DRAWINGS RIGHT DOWN HEAVY AND LEFT UP LIGHT"),
   (0x2547, "BOX DRAWINGS DOWN LIGHT AND UP HORIZONTAL HEAVY"),
   (0x2548, "BOX DRAWINGS UP LIGHT AND DOWN HORIZONTAL HEAVY"),
   (0x2549, "BOX DRAWINGS RIGHT LIGHT AND LEFT VERTICAL HEAVY"),
   (0x254A, "BOX DRAWINGS LEFT LIGHT AND RIGHT VERTICAL HEAVY"),
   (0x254B, "BOX DRAWINGS HEAVY VERTICAL AND HORIZONTAL"),
   (0x254C, "BOX DRAWINGS LIGHT DOUBLE DASH HORIZONTAL"),
   (0x254D, "BOX DRAWINGS HEAVY DOUBLE DASH HORIZONTAL"),
   (0x254E, "BOX DRAWINGS LIGHT DOUBLE DASH VERTICAL"),
   (0x254F, "BOX DRAWINGS HEAVY DOUBLE DASH VERTICAL"),
   (0x2550, "BOX DRAWINGS DOUBLE HORIZONTAL"), (0x2551, "BOX DRAWINGS DOUBLE VERTICAL"),
   (0x2552, "BOX DRAWINGS DOWN SINGLE AND RIGHT DOUBLE"),
   (0x2553, "BOX DRAWINGS DOWN DOUBLE AND RIGHT SINGLE"),
   (0x2554, "BOX DRAWINGS DOUBLE DOWN AND RIGHT"),
   (0x2555, "BOX DRAWINGS DOWN SINGLE AND LEFT DOUBLE"),
   (0x2556, "BOX DRAWINGS DOWN DOUBLE AND LEFT SINGLE"),
   (0x2557, "BOX DRAWINGS DOUBLE DOWN AND LEFT"),
   (0x2558, "BOX DRAWINGS UP SINGLE AND RIGHT DOUBLE"),
   (0x2559, "BOX DRAWINGS UP DOUBLE AND RIGHT SINGLE"),
   (0x255A, "BOX DRAWINGS DOUBLE UP AND RIGHT"),
   (0x255B, "BOX DRAWINGS UP SINGLE AND LEFT DOUBLE"),
   (0x255C, "BOX DRAWINGS UP DOUBLE AND LEFT SINGLE"),
   (0x255D, "BOX DRAWINGS DOUBLE UP AND LEFT"),
   (0x255E, "BOX DRAWINGS VERTICAL SINGLE AND RIGHT DOUBLE"),
   (0x255F, "BOX DRAWINGS VERTICAL DOUBLE AND RIGHT SINGLE"),
   (0x2560, "BOX DRAWINGS DOUBLE VERTICAL AND RIGHT"),
   (0x2561, "BOX DRAWINGS VERTICAL SINGLE AND LEFT DOUBLE"),
   (0x2562, "BOX DRAWINGS VERTICAL DOUBLE AND LEFT SINGLE"),
   (0x2563, "BOX DRAWINGS DOUBLE VERTICAL AND LEFT"),
   (0x2564, "BOX DRAWINGS DOWN SINGLE AND HORIZONTAL DOUBLE"),
   (0x2565, "BOX DRAWINGS DOWN DOUBLE AND HORIZONTAL SINGLE"),
   (0x2566, "BOX DRAWINGS DOUBLE DOWN AND HORIZONTAL"),
   (0x2567, "BOX DRAWINGS UP SINGLE AND HORIZONTAL DOUBLE"),
   (0x2568, "BOX DRAWINGS UP DOUBLE AND HORIZONTAL SINGLE"),
   (0x2569, "BOX DRAWINGS DOUBLE UP AND HORIZONTAL"),
   (0x256A, "BOX DRAWINGS VERTICAL SINGLE AND HORIZONTAL DOUBLE"),
   (0x256B, "BOX DRAWINGS VERTICAL DOUBLE AND HORIZONTAL SINGLE"),
   (0x256C, "BOX DRAWINGS DOUBLE VERTICAL AND HORIZONTAL"),
   (0x256D, "BOX DRAWINGS LIGHT ARC DOWN AND RIGHT"),
   (0x256E, "BOX DRAWINGS LIGHT ARC DOWN AND LEFT"),
   (0x256F, "BOX DRAWINGS LIGHT ARC UP AND LEFT"),
   (0x2570, "BOX DRAWINGS LIGHT ARC UP AND RIGHT"),
   (0x2571, "BOX DRAWINGS LIGHT DIAGONAL UPPER RIGHT TO LOWER LEFT"),
   (0x2572, "BOX DRAWINGS LIGHT DIAGONAL UPPER LEFT TO LOWER RIGHT"),
   (0x2573, "BOX DRAWINGS LIGHT DIAGONAL CROSS"), (0x2574, "BOX DRAWINGS LIGHT LEFT"),
   (0x2575, "BOX DRAWINGS LIGHT UP"), (0x2576, "BOX DRAWINGS LIGHT RIGHT"),
   (0x2577, "BOX DRAWINGS LIGHT DOWN"), (0x2578, "BOX DRAWINGS HEAVY LEFT"),
   (0x2579, "BOX DRAWINGS HEAVY UP"), (0x257A, "BOX DRAWINGS HEAVY RIGHT"),
   (0x257B, "BOX DRAWINGS HEAVY DOWN"), (0x257C, "BOX DRAWINGS LIGHT LEFT AND HEAVY RIGHT"),
   (0x257D, "BOX DRAWINGS LIGHT UP AND HEAVY DOWN"),
   (0x257E, "BOX DRAWINGS HEAVY LEFT AND LIGHT RIGHT"),
   (0x257F, "BOX DRAWINGS HEAVY UP AND LIGHT DOWN"), (0x2580, "UPPER HALF BLOCK"),
   (0x2581, "LOWER ONE EIGHTH BLOCK"), (0x2582, "LOWER ONE QUARTER BLOCK"),
   (0x2583, "LOWER THREE EIGHTHS BLOCK"), (0x2584, "LOWER HALF BLOCK"),
   (0x2585, "LOWER FIVE EIGHTHS BLOCK"), (0x2586, "LOWER THREE QUARTERS BLOCK"),
   (0x2587, "LOWER SEVEN EIGHTHS BLOCK"), (0x2588, "FULL BLOCK"),
   (0x2589, "LEFT SEVEN EIGHTHS BLOCK"), (0x258A, "LEFT THREE QUARTERS BLOCK"),
   (0x258B, "LEFT FIVE EIGHTHS BLOCK"), (0x258C, "LEFT HALF BLOCK"),
   (0x258D, "LEFT THREE EIGHTHS BLOCK"), (0x258E, "LEFT ONE QUARTER BLOCK"),
   (0x258F, "LEFT ONE EIGHTH BLOCK"), (0x2590, "RIGHT HALF BLOCK"), (0x2591, "LIGHT SHADE"),
   (0x2592, "MEDIUM SHADE"), (0x2593, "DARK SHADE"), (0x2594, "UPPER ONE EIGHTH BLOCK"),
   (0x2595, "RIGHT ONE EIGHTH BLOCK"), (0x2596, "QUADRANT LOWER LEFT"),
   (0x2597, "QUADRANT LOWER RIGHT"), (0x2598, "QUADRANT UPPER LEFT"),
   (0x2599, "QUADRANT UPPER LEFT AND LOWER LEFT AND LOWER RIGHT"),
   (0x259A, "QUADRANT UPPER LEFT AND LOWER RIGHT"),
   (0x259B, "QUADRANT UPPER LEFT AND UPPER RIGHT AND LOWER LEFT"),
   (0x259C, "QUADRANT UPPER LEFT AND UPPER RIGHT AND LOWER RIGHT"),
   (0x259D, "QUADRANT UPPER RIGHT"), (0x259E, "QUADRANT UPPER RIGHT AND LOWER LEFT"),
   (0x259F, "QUADRANT UPPER RIGHT AND LOWER LEFT AND LOWER RIGHT"), (0x25A0, "BLACK SQUARE"),
   (0x25A1, "WHITE SQUARE"), (0x25A2, "WHITE SQUARE WITH ROUNDED CORNERS"),
   (0x25A3, "WHITE SQUARE CONTAINING BLACK SMALL SQUARE"),
   (0x25A4, "SQUARE WITH HORIZONTAL FILL"), (0x25A5, "SQUARE WITH VERTICAL FILL"),
   (0x25A6, "SQUARE WITH ORTHOGONAL CROSSHATCH FILL"),
   (0x25A7, "SQUARE WITH UPPER LEFT TO LOWER RIGHT FILL"),
   (0x25A8, "SQUARE WITH UPPER RIGHT TO LOWER LEFT FILL"),
   (0x25A9, "SQUARE WITH DIAGONAL CROSSHATCH FILL"), (0x25AA, "BLACK SMALL SQUARE"),
   (0x25AB, "WHITE SMALL SQUARE"), (0x25AC, "BLACK RECTANGLE"), (0x25AD, "WHITE RECTANGLE"),
   (0x25AE, "BLACK VERTICAL RECTANGLE"), (0x25AF, "WHITE VERTICAL RECTANGLE"),
   (0x25B0, "BLACK PARALLELOGRAM"), (0x25B1, "WHITE PARALLELOGRAM"),
   (0x25B2, "BLACK UP-POINTING TRIANGLE"), (0x25B3, "WHITE UP-POINTING TRIANGLE")]

def names25B4 : List (Nat × String) :=
  [(0x25B4, "BLACK UP-POINTING SMALL TRIANGLE"), (0x25B5, "WHITE UP-POINTING SMALL TRIANGLE"),
   (0x25B6, "BLACK RIGHT-POINTING TRIANGLE"), (0x25B7, "WHITE RIGHT-POINTING TRIANGLE"),
   (0x25B8, "BLACK RIGHT-POINTING SMALL TRIANGLE"),
   (0x25B9, "WHITE RIGHT-POINTING SMALL TRIANGLE"), (0x25BA, "BLACK RIGHT-POINTING POINTER"),
   (0x25BB, "WHITE RIGHT-POINTING POINTER"), (0x25BC, "BLACK DOWN-POINTING TRIANGLE"),
   (0x25BD, "WHITE DOWN-POINTING TRIANGLE"), (0x25BE, "BLACK DOWN-POINTING SMALL TRIANGLE"),
   (0x25BF, "WHITE DOWN-POINTING SMALL TRIANGLE"), (0x25C0, "BLACK LEFT-POINTING TRIANGLE"),
   (0x25C1, "WHITE LEFT-POINTING TRIANGLE"), (0x25C2, "BLACK LEFT-POINTING SMALL TRIANGLE"),
   (0x25C3, "WHITE LEFT-POINTING SMALL TRIANGLE"), (0x25C4, "BLACK LEFT-POINTING POINTER"),
   (0x25C5, "WHITE LEFT-POINTING POINTER"), (0x25C6, "BLACK DIAMOND"), (0x25C7, "WHITE DIAMOND"),
   (0x25C8, "WHITE DIAMOND CONTAINING BLACK SMALL DIAMOND"), (0x25C9, "FISHEYE"),
   (0x25CA, "LOZENGE"), (0x25CB, "WHITE CIRCLE"), (0x25CC, "DOTTED CIRCLE"),
   (0x25CD, "CIRCLE WITH VERTICAL FILL"), (0x25CE, "BULLSEYE"), (0x25CF, "BLACK CIRCLE"),
   (0x25D0, "CIRCLE WITH LEFT HALF BLACK"), (0x25D1, "CIRCLE WITH RIGHT HALF BLACK"),
   (0x25D2, "CIRCLE WITH LOWER HALF BLACK"), (0x25D3, "CIRCLE WITH UPPER HALF BLACK"),
   (0x25D4, "CIRCLE WITH UPPER RIGHT QUADRANT BLACK"),
   (0x25D5, "CIRCLE WITH ALL BUT UPPER LEFT QUADRANT BLACK"), (0x25D6, "LEFT HALF BLACK CIRCLE"),
   (0x25D7, "RIGHT HALF BLACK CIRCLE"), (0x25D8, "INVERSE BULLET"),
   (0x25D9, "INVERSE WHITE CIRCLE"), (0x25DA, "UPPER HALF INVERSE WHITE CIRCLE"),
   (0x25DB, "LOWER HALF INVERSE WHITE CIRCLE"), (0x25DC, "UPPER LEFT QUADRANT CIRCULAR ARC"),
   (0x25DD, "UPPER RIGHT QUADRANT CIRCULAR ARC"), (0x25DE, "LOWER RIGHT QUADRANT CIRCULAR ARC"),
   (0x25DF, "LOWER LEFT QUADRANT CIRCULAR ARC"), (0x25E0, "UPPER HALF CIRCLE"),
   (0x25E1, "LOWER HALF CIRCLE"), (0x25E2, "BLACK LOWER RIGHT TRIANGLE"),
   (0x25E3, "BLACK LOWER LEFT TRIANGLE"), (0x25E4, "BLACK UPPER LEFT TRIANGLE"),
   (0x25E5, "BLACK UPPER RIGHT TRIANGLE"), (0x25E6, "WHITE BULLET"),
   (0x25E7, "SQUARE WITH LEFT HALF BLACK"), (0x25E8, "SQUARE WITH RIGHT HALF BLACK"),
   (0x25E9, "SQUARE WITH UPPER LEFT DIAGONAL HALF BLACK"),
   (0x25EA, "SQUARE WITH LOWER RIGHT DIAGONAL HALF BLACK"),
   (0x25EB, "WHITE SQUARE WITH VERTICAL BISECTING LINE"),
   (0x25EC, "WHITE UP-POINTING TRIANGLE WITH DOT"),
   (0x25ED, "UP-POINTING TRIANGLE WITH LEFT HALF BLACK"),
   (0x25EE, "UP-POINTING TRIANGLE WITH RIGHT HALF BLACK"), (0x25EF, "LARGE CIRCLE"),
   (0x25F0, "WHITE SQUARE WITH UPPER LEFT QUADRANT"),
   (0x25F1, "WHITE SQUARE WITH LOWER LEFT QUADRANT"),
   (0x25F2, "WHITE SQUARE WITH LOWER RIGHT QUADRANT"),
   (0x25F3, "WHITE SQUARE WITH UPPER RIGHT QUADRANT"),
   (0x25F4, "WHITE CIRCLE WITH UPPER LEFT QUADRANT"),
   (0x25F5, "WHITE CIRCLE WITH LOWER LEFT QUADRANT"),
   (0x25F6, "WHITE CIRCLE WITH LOWER RIGHT QUADRANT"),
   (0x25F7, "WHITE CIRCLE WITH UPPER RIGHT QUADRANT"), (0x25F8, "UPPER LEFT TRIANGLE"),
   (0x25F9, "UPPER RIGHT TRIANGLE"), (0x25FA, "LOWER LEFT TRIANGLE"),
   (0x25FB, "WHITE MEDIUM SQUARE"), (0x25FC, "BLACK MEDIUM SQUARE"),
   (0x25FD, "WHITE MEDIUM SMALL SQUARE"), (0x25FE, "BLACK MEDIUM SMALL SQUARE"),
   (0x25FF, "LOWER RIGHT TRIANGLE"), (0x2600, "BLACK SUN WITH RAYS"), (0x2601, "CLOUD"),
   (0x2602, "UMBRELLA"), (0x2603, "SNOWMAN"), (0x2604, "COMET"), (0x2605, "BLACK STAR"),
   (0x2606, "WHITE STAR"), (0x2607, "LIGHTNING"), (0x2608, "THUNDERSTORM"), (0x2609, "SUN"),
   (0x260A, "ASCENDING NODE"), (0x260B, "DESCENDING NODE"), (0x260C, "CONJUNCTION"),
   (0x260D, "OPPOSITION"), (0x260E, "BLACK TELEPHONE"), (0x260F, "WHITE TELEPHONE"),
   (0x2610, "BALLOT BOX"), (0x2611, "BALLOT BOX WITH CHECK"), (0x2612, "BALLOT BOX WITH X"),
   (0x2613, "SALTIRE"), (0x2614, "UMBRELLA WITH RAIN DROPS"), (0x2615, "HOT BEVERAGE"),
   (0x2616, "WHITE SHOGI PIECE"), (0x2617, "BLACK SHOGI PIECE"), (0x2618, "SHAMROCK"),
   (0x2619, "REVERSED ROTATED FLORAL HEART BULLET"), (0x261A, "BLACK LEFT POINTING INDEX"),
   (0x261B, "BLACK RIGHT POINTING INDEX"), (0x261C, "WHITE LEFT POINTING INDEX"),
   (0x261D, "WHITE UP POINTING INDEX"), (0x261E, "WHITE RIGHT POINTING INDEX"),
   (0x261F, "WHITE DOWN POINTING INDEX"), (0x2620, "SKULL AND CROSSBONES"),
   (0x2621, "CAUTION SIGN"), (0x2622, "RADIOACTIVE SIGN"), (0x2623, "BIOHAZARD SIGN"),
   (0x2624, "CADUCEUS"), (0x2625, "ANKH"), (0x2626, "ORTHODOX CROSS"), (0x2627, "CHI RHO"),
   (0x2628, "CROSS OF LORRAINE"), (0x2629, "CROSS OF JERUSALEM"), (0x262A, "STAR AND CRESCENT"),
   (0x262B, "FARSI SYMBOL"), (0x262C, "ADI SHAKTI"), (0x262D, "HAMMER AND SICKLE"),
   (0x262E, "PEACE SYMBOL"), (0x262F, "YIN YANG"), (0x2630, "TRIGRAM FOR HEAVEN"),
   (0x2631, "TRIGRAM FOR LAKE"), (0x2632, "TRIGRAM FOR FIRE"), (0x2633, "TRIGRAM FOR THUNDER"),
   (0x2634, "TRIGRAM FOR WIND"), (0x2635, "TRIGRAM FOR WATER"), (0x2636, "TRIGRAM FOR MOUNTAIN"),
   (0x2637, "TRIGRAM FOR EARTH"), (0x2638, "WHEEL OF DHARMA"), (0x2639, "WHITE FROWNING FACE"),
   (0x263A, "WHITE SMILING FACE"), (0x263B, "BLACK SMILING FACE"),
   (0x263C, "WHITE SUN WITH RAYS"), (0x263D, "FIRST QUARTER MOON"), (0x263E, "LAST QUARTER MOON"),
   (0x263F, "MERCURY"), (0x2640, "FEMALE SIGN"), (0x2641, "EARTH"), (0x2642, "MALE SIGN"),
   (0x2643, "JUPITER"), (0x2644, "SATURN"), (0x2645, "URANUS"), (0x2646, "NEPTUNE"),
   (0x2647, "PLUTO"), (0x2648, "ARIES"), (0x2649, "TAURUS"), (0x264A, "GEMINI"),
   (0x264B, "CANCER"), (0x264C, "LEO"), (0x264D, "VIRGO"), (0x264E, "LIBRA"),
   (0x264F, "SCORPIUS"), (0x2650, "SAGITTARIUS"), (0x2651, "CAPRICORN"), (0x2652, "AQUARIUS"),
   (0x2653, "PISCES"), (0x2654, "WHITE CHESS KING"), (0x2655, "WHITE CHESS QUEEN"),
   (0x2656, "WHITE CHESS ROOK"), (0x2657, "WHITE CHESS BISHOP"), (0x2658, "WHITE CHESS KNIGHT"),
   (0x2659, "WHITE CHESS PAWN"), (0x265A, "BLACK CHESS KING"), (0x265B, "BLACK CHESS QUEEN"),
   (0x265C, "BLACK CHESS ROOK"), (0x265D, "BLACK CHESS BISHOP"), (0x265E, "BLACK CHESS KNIGHT"),
   (0x265F, "BLACK CHESS PAWN"), (0x2660, "BLACK SPADE SUIT"), (0x2661, "WHITE HEART SUIT"),
   (0x2662, "WHITE DIAMOND SUIT"), (0x2663, "BLACK CLUB SUIT"), (0x2664, "WHITE SPADE SUIT"),
   (0x2665, "BLACK HEART SUIT"), (0x2666, "BLACK DIAMOND SUIT"), (0x2667, "WHITE CLUB SUIT"),
   (0x2668, "HOT SPRINGS"), (0x2669, "QUARTER NOTE"), (0x266A, "EIGHTH NOTE"),
   (0x266B, "BEAMED EIGHTH NOTES"), (0x266C, "BEAMED SIXTEENTH NOTES"),
   (0x266D, "MUSIC FLAT SIGN"), (0x266E, "MUSIC NATURAL SIGN"), (0x266F, "MUSIC SHARP SIGN"),
   (0x2670, "WEST SYRIAC CROSS"), (0x2671, "EAST SYRIAC CROSS"),
   (0x2672, "UNIVERSAL RECYCLING SYMBOL"), (0x2673, "RECYCLING SYMBOL FOR TYPE-1 PLASTICS"),
   (0x2674, "RECYCLING SYMBOL FOR TYPE-2 PLASTICS"),
   (0x2675, "RECYCLING SYMBOL FOR TYPE-3 PLASTICS"),
   (0x2676, "RECYCLING SYMBOL FOR TYPE-4 PLASTICS"),
   (0x2677, "RECYCLING SYMBOL FOR TYPE-5 PLASTICS"),
   (0x2678, "RECYCLING SYMBOL FOR TYPE-6 PLASTICS"),
   (0x2679, "RECYCLING SYMBOL FOR TYPE-7 PLASTICS"),
   (0x267A, "RECYCLING SYMBOL FOR GENERIC MATERIALS"),
   (0x267B, "BLACK UNIVERSAL RECYCLING SYMBOL"), (0x267C, "RECYCLED PAPER SYMBOL"),
   (0x267D, "PARTIALLY-RECYCLED PAPER SYMBOL"), (0x267E, "PERMANENT PAPER SIGN"),
   (0x267F, "WHEELCHAIR SYMBOL"), (0x2680, "DIE FACE-1"), (0x2681, "DIE FACE-2"),
   (0x2682, "DIE FACE-3"), (0x2683, "DIE FACE-4"), (0x2684, "DIE FACE-5"), (0x2685, "DIE FACE-6"),
   (0x2686, "WHITE CIRCLE WITH DOT RIGHT"), (0x2687, "WHITE CIRCLE WITH TWO DOTS"),
   (0x2688, "BLACK CIRCLE WITH WHITE DOT RIGHT"), (0x2689, "BLACK CIRCLE WITH TWO WHITE DOTS"),
   (0x268A, "MONOGRAM FOR YANG"), (0x268B, "MONOGRAM FOR YIN"),
   (0x268C, "DIGRAM FOR GREATER YANG"), (0x268D, "DIGRAM FOR LESSER YIN"),
   (0x268E, "DIGRAM FOR LESSER YANG"), (0x268F, "DIGRAM FOR GREATER YIN"), (0x2690, "WHITE FLAG"),
   (0x2691, "BLACK FLAG"), (0x2692, "HAMMER AND PICK"), (0x2693, "ANCHOR"),
   (0x2694, "CROSSED SWORDS"), (0x2695, "STAFF OF AESCULAPIUS"), (0x2696, "SCALES"),
   (0x2697, "ALEMBIC"), (0x2698, "FLOWER"), (0x2699, "GEAR"), (0x269A, "STAFF OF HERMES"),
   (0x269B, "ATOM SYMBOL"), (0x269C, "FLEUR-DE-LIS"), (0x269D, "OUTLINED WHITE STAR"),
   (0x269E, "THREE LINES CONVERGING RIGHT"), (0x269F, "THREE LINES CONVERGING LEFT"),
   (0x26A0, "WARNING SIGN"), (0x26A1, "HIGH VOLTAGE SIGN"), (0x26A2, "DOUBLED FEMALE SIGN"),
   (0x26A3, "DOUBLED MALE SIGN"), (0x26A4, "INTERLOCKED FEMALE AND MALE SIGN"),
   (0x26A5, "MALE AND FEMALE SIGN"), (0x26A6, "MALE WITH STROKE SIGN"),
   (0x26A7, "MALE WITH STROKE AND MALE AND FEMALE SIGN"),
   (0x26A8, "VERTICAL MALE WITH STROKE SIGN"), (0x26A9, "HORIZONTAL MALE WITH STROKE SIGN"),
   (0x26AA, "MEDIUM WHITE CIRCLE"), (0x26AB, "MEDIUM BLACK CIRCLE"),
   (0x26AC, "MEDIUM SMALL WHITE CIRCLE"), (0x26AD, "MARRIAGE SYMBOL"), (0x26AE, "DIVORCE SYMBOL"),
   (0x26AF, "UNMARRIED PARTNERSHIP SYMBOL"), (0x26B0, "COFFIN"), (0x26B1, "FUNERAL URN"),
   (0x26B2, "NEUTER"), (0x26B3, "CERES"), (0x26B4, "PALLAS"), (0x26B5, "JUNO"), (0x26B6, "VESTA"),
   (0x26B7, "CHIRON"), (0x26B8, "BLACK MOON LILITH"), (0x26B9, "SEXTILE"),
   (0x26BA, "SEMISEXTILE"), (0x26BB, "QUINCUNX"), (0x26BC, "SESQUIQUADRATE"),
   (0x26BD, "SOCCER BALL"), (0x26BE, "BASEBALL"), (0x26BF, "SQUARED KEY"),
   (0x26C0, "WHITE DRAUGHTS MAN"), (0x26C1, "WHITE DRAUGHTS KING"),
   (0x26C2, "BLACK DRAUGHTS MAN"), (0x26C3, "BLACK DRAUGHTS KING"),
   (0x26C4, "SNOWMAN WITHOUT SNOW"), (0x26C5, "SUN BEHIND CLOUD"), (0x26C6, "RAIN"),
   (0x26C7, "BLACK SNOWMAN"), (0x26C8, "THUNDER CLOUD AND RAIN"),
   (0x26C9, "TURNED WHITE SHOGI PIECE"), (0x26CA, "TURNED BLACK SHOGI PIECE"),
   (0x26CB, "WHITE DIAMOND IN SQUARE"), (0x26CC, "CROSSING LANES"), (0x26CD, "DISABLED CAR"),
   (0x26CE, "OPHIUCHUS"), (0x26CF, "PICK"), (0x26D0, "CAR SLIDING"),
   (0x26D1, "HELMET WITH WHITE CROSS"), (0x26D2, "CIRCLED CROSSING LANES"), (0x26D3, "CHAINS"),
   (0x26D4, "NO ENTRY"), (0x26D5, "ALTERNATE ONE-WAY LEFT WAY TRAFFIC"),
   (0x26D6, "BLACK TWO-WAY LEFT WAY TRAFFIC"), (0x26D7, "WHITE TWO-WAY LEFT WAY TRAFFIC"),
   (0x26D8, "BLACK LEFT LANE MERGE"), (0x26D9, "WHITE LEFT LANE MERGE"),
   (0x26DA, "DRIVE SLOW SIGN"), (0x26DB, "HEAVY WHITE DOWN-POINTING TRIANGLE"),
   (0x26DC, "LEFT CLOSED ENTRY"), (0x26DD, "SQUARED SALTIRE"),
   (0x26DE, "FALLING DIAGONAL IN WHITE CIRCLE IN BLACK SQUARE"), (0x26DF, "BLACK TRUCK"),
   (0x26E0, "RESTRICTED LEFT ENTRY-1"), (0x26E1, "RESTRICTED LEFT ENTRY-2"),
   (0x26E2, "ASTRONOMICAL SYMBOL FOR URANUS"),
   (0x26E3, "HEAVY CIRCLE WITH STROKE AND TWO DOTS ABOVE"), (0x26E4, "PENTAGRAM"),
   (0x26E5, "RIGHT-HANDED INTERLACED PENTAGRAM"), (0x26E6, "LEFT-HANDED INTERLACED PENTAGRAM"),
   (0x26E7, "INVERTED PENTAGRAM"), (0x26E8, "BLACK CROSS ON SHIELD"), (0x26E9, "SHINTO SHRINE"),
   (0x26EA, "CHURCH"), (0x26EB, "CASTLE"), (0x26EC, "HISTORIC SITE"),
   (0x26ED, "GEAR WITHOUT HUB"), (0x26EE, "GEAR WITH HANDLES"),
   (0x26EF, "MAP SYMBOL FOR LIGHTHOUSE"), (0x26F0, "MOUNTAIN"), (0x26F1, "UMBRELLA ON GROUND"),
   (0x26F2, "FOUNTAIN"), (0x26F3, "FLAG IN HOLE"), (0x26F4, "FERRY"), (0x26F5, "SAILBOAT"),
   (0x26F6, "SQUARE FOUR CORNERS"), (0x26F7, "SKIER"), (0x26F8, "ICE SKATE"),
   (0x26F9, "PERSON WITH BALL"), (0x26FA, "TENT"), (0x26FB, "JAPANESE BANK SYMBOL"),
   (0x26FC, "HEADSTONE GRAVEYARD SYMBOL"), (0x26FD, "FUEL PUMP"), (0x26FE, "CUP ON BLACK SQUARE"),
   (0x26FF, "WHITE FLAG WITH HORIZONTAL MIDDLE BLACK STRIPE"), (0x2700, "BLACK SAFETY SCISSORS"),
   (0x2701, "UPPER BLADE SCISSORS"), (0x2702, "BLACK SCISSORS"), (0x2703, "LOWER BLADE SCISSORS"),
   (0x2704, "WHITE SCISSORS"), (0x2705, "WHITE HEAVY CHECK MARK"),
   (0x2706, "TELEPHONE LOCATION SIGN"), (0x2707, "TAPE DRIVE"), (0x2708, "AIRPLANE"),
   (0x2709, "ENVELOPE"), (0x270A, "RAISED FIST"), (0x270B, "RAISED HAND"),
   (0x270C, "VICTORY HAND"), (0x270D, "WRITING HAND"), (0x270E, "LOWER RIGHT PENCIL"),
   (0x270F, "PENCIL"), (0x2710, "UPPER RIGHT PENCIL"), (0x2711, "WHITE NIB"),
   (0x2712, "BLACK NIB"), (0x2713, "CHECK MARK"), (0x2714, "HEAVY CHECK MARK"),
   (0x2715, "MULTIPLICATION X"), (0x2716, "HEAVY MULTIPLICATION X"), (0x2717, "BALLOT X"),
   (0x2718, "HEAVY BALLOT X"), (0x2719, "OUTLINED GREEK CROSS"), (0x271A, "HEAVY GREEK CROSS"),
   (0x271B, "OPEN CENTRE CROSS"), (0x271C, "HEAVY OPEN CENTRE CROSS"), (0x271D, "LATIN CROSS"),
   (0x271E, "SHADOWED WHITE LATIN CROSS"), (0x271F, "OUTLINED LATIN CROSS"),
   (0x2720, "MALTESE CROSS"), (0x2721, "STAR OF DAVID"),
   (0x2722, "FOUR TEARDROP-SPOKED ASTERISK"), (0x2723, "FOUR BALLOON-SPOKED ASTERISK"),
   (0x2724, "HEAVY FOUR BALLOON-SPOKED ASTERISK"), (0x2725, "FOUR CLUB-SPOKED ASTERISK"),
   (0x2726, "BLACK FOUR POINTED STAR"), (0x2727, "WHITE FOUR POINTED STAR"), (0x2728, "SPARKLES"),
   (0x2729, "STRESS OUTLINED WHITE STAR"), (0x272A, "CIRCLED WHITE STAR"),
   (0x272B, "OPEN CENTRE BLACK STAR"), (0x272C, "BLACK CENTRE WHITE STAR"),
   (0x272D, "OUTLINED BLACK STAR"), (0x272E, "HEAVY OUTLINED BLACK STAR"),
   (0x272F, "PINWHEEL STAR"), (0x2730, "SHADOWED WHITE STAR"), (0x2731, "HEAVY ASTERISK"),
   (0x2732, "OPEN CENTRE ASTERISK"), (0x2733, "EIGHT SPOKED ASTERISK"),
   (0x2734, "EIGHT POINTED BLACK STAR"), (0x2735, "EIGHT POINTED PINWHEEL STAR"),
   (0x2736, "SIX POINTED BLACK STAR"), (0x2737, "EIGHT POINTED RECTILINEAR BLACK STAR"),
   (0x2738, "HEAVY EIGHT POINTED RECTILINEAR BLACK STAR"), (0x2739, "TWELVE POINTED BLACK STAR"),
   (0x273A, "SIXTEEN POINTED ASTERISK"), (0x273B, "TEARDROP-SPOKED ASTERISK"),
   (0x273C, "OPEN CENTRE TEARDROP-SPOKED ASTERISK"), (0x273D, "HEAVY TEARDROP-SPOKED ASTERISK"),
   (0x273E, "SIX PETALLED BLACK AND WHITE FLORETTE"), (0x273F, "BLACK FLORETTE"),
   (0x2740, "WHITE FLORETTE"), (0x2741, "EIGHT PETALLED OUTLINED BLACK FLORETTE"),
   (0x2742, "CIRCLED OPEN CENTRE EIGHT POINTED STAR"),
   (0x2743, "HEAVY TEARDROP-SPOKED PINWHEEL ASTERISK")]

def names2744 : List (Nat × String) :=
  [(0x2744, "SNOWFLAKE"), (0x2745, "TIGHT TRIFOLIATE SNOWFLAKE"),
   (0x2746, "HEAVY CHEVRON SNOWFLAKE"), (0x2747, "SPARKLE"), (0x2748, "HEAVY SPARKLE"),
   (0x2749, "BALLOON-SPOKED ASTERISK"), (0x274A, "EIGHT TEARDROP-SPOKED PROPELLER ASTERISK"),
   (0x274B, "HEAVY EIGHT TEARDROP-SPOKED PROPELLER ASTERISK"), (0x274C, "CROSS MARK"),
   (0x274D, "SHADOWED WHITE CIRCLE"), (0x274E, "NEGATIVE SQUARED CROSS MARK"),
   (0x274F, "LOWER RIGHT DROP-SHADOWED WHITE SQUARE"),
   (0x2750, "UPPER RIGHT DROP-SHADOWED WHITE SQUARE"),
   (0x2751, "LOWER RIGHT SHADOWED WHITE SQUARE"), (0x2752, "UPPER RIGHT SHADOWED WHITE SQUARE"),
   (0x2753, "BLACK QUESTION MARK ORNAMENT"), (0x2754, "WHITE QUESTION MARK ORNAMENT"),
   (0x2755, "WHITE EXCLAMATION MARK ORNAMENT"), (0x2756, "BLACK DIAMOND MINUS WHITE X"),
   (0x2757, "HEAVY EXCLAMATION MARK SYMBOL"), (0x2758, "LIGHT VERTICAL BAR"),
   (0x2759, "MEDIUM VERTICAL BAR"), (0x275A, "HEAVY VERTICAL BAR"),
   (0x275B, "HEAVY SINGLE TURNED COMMA QUOTATION MARK ORNAMENT"),
   (0x275C, "HEAVY SINGLE COMMA QUOTATION MARK ORNAMENT"),
   (0x275D, "HEAVY DOUBLE TURNED COMMA QUOTATION MARK ORNAMENT"),
   (0x275E, "HEAVY DOUBLE COMMA QUOTATION MARK ORNAMENT"),
   (0x275F, "HEAVY LOW SINGLE COMMA QUOTATION MARK ORNAMENT"),
   (0x2760, "HEAVY LOW DOUBLE COMMA QUOTATION MARK ORNAMENT"),
   (0x2761, "CURVED STEM PARAGRAPH SIGN ORNAMENT"), (0x2762, "HEAVY EXCLAMATION MARK ORNAMENT"),
   (0x2763, "HEAVY HEART EXCLAMATION MARK ORNAMENT"), (0x2764, "HEAVY BLACK HEART"),
   (0x2765, "ROTATED HEAVY BLACK HEART BULLET"), (0x2766, "FLORAL HEART"),
   (0x2767, "ROTATED FLORAL HEART BULLET"), (0x2768, "MEDIUM LEFT PARENTHESIS ORNAMENT"),
   (0x2769, "MEDIUM RIGHT PARENTHESIS ORNAMENT"),
   (0x276A, "MEDIUM FLATTENED LEFT PARENTHESIS ORNAMENT"),
   (0x276B, "MEDIUM FLATTENED RIGHT PARENTHESIS ORNAMENT"),
   (0x276C, "MEDIUM LEFT-POINTING ANGLE BRACKET ORNAMENT"),
   (0x276D, "MEDIUM RIGHT-POINTING ANGLE BRACKET ORNAMENT"),
   (0x276E, "HEAVY LEFT-POINTING ANGLE QUOTATION MARK ORNAMENT"),
   (0x276F, "HEAVY RIGHT-POINTING ANGLE QUOTATION MARK ORNAMENT"),
   (0x2770, "HEAVY LEFT-POINTING ANGLE BRACKET ORNAMENT"),
   (0x2771, "HEAVY RIGHT-POINTING ANGLE BRACKET ORNAMENT"),
   (0x2772, "LIGHT LEFT TORTOISE SHELL BRACKET ORNAMENT"),
   (0x2773, "LIGHT RIGHT TORTOISE SHELL BRACKET ORNAMENT"),
   (0x2774, "MEDIUM LEFT CURLY BRACKET ORNAMENT"),
   (0x2775, "MEDIUM RIGHT CURLY BRACKET ORNAMENT"),
   (0x2776, "DINGBAT NEGATIVE CIRCLED DIGIT ONE"), (0x2777, "DINGBAT NEGATIVE CIRCLED DIGIT TWO"),
   (0x2778, "DINGBAT NEGATIVE CIRCLED DIGIT THREE"),
   (0x2779, "DINGBAT NEGATIVE CIRCLED DIGIT FOUR"),
   (0x277A, "DINGBAT NEGATIVE CIRCLED DIGIT FIVE"),
   (0x277B, "DINGBAT NEGATIVE CIRCLED DIGIT SIX"),
   (0x277C, "DINGBAT NEGATIVE CIRCLED DIGIT SEVEN"),
   (0x277D, "DINGBAT NEGATIVE CIRCLED DIGIT EIGHT"),
   (0x277E, "DINGBAT NEGATIVE CIRCLED DIGIT NINE"),
   (0x277F, "DINGBAT NEGATIVE CIRCLED NUMBER TEN"),
   (0x2780, "DINGBAT CIRCLED SANS-SERIF DIGIT ONE"),
   (0x2781, "DINGBAT CIRCLED SANS-SERIF DIGIT TWO"),
   (0x2782, "DINGBAT CIRCLED SANS-SERIF DIGIT THREE"),
   (0x2783, "DINGBAT CIRCLED SANS-SERIF DIGIT FOUR"),
   (0x2784, "DINGBAT CIRCLED SANS-SERIF DIGIT FIVE"),
   (0x2785, "DINGBAT CIRCLED SANS-SERIF DIGIT SIX"),
   (0x2786, "DINGBAT CIRCLED SANS-SERIF DIGIT SEVEN"),
   (0x2787, "DINGBAT CIRCLED SANS-SERIF DIGIT EIGHT"),
   (0x2788, "DINGBAT CIRCLED SANS-SERIF DIGIT NINE"),
   (0x2789, "DINGBAT CIRCLED SANS-SERIF NUMBER TEN"),
   (0x278A, "DINGBAT NEGATIVE CIRCLED SANS-SERIF DIGIT ONE"),
   (0x278B, "DINGBAT NEGATIVE CIRCLED SANS-SERIF DIGIT TWO"),
   (0x278C, "DINGBAT NEGATIVE CIRCLED SANS-SERIF DIGIT THREE"),
   (0x278D, "DINGBAT NEGATIVE CIRCLED SANS-SERIF DIGIT FOUR"),
   (0x278E, "DINGBAT NEGATIVE CIRCLED SANS-SERIF DIGIT FIVE"),
   (0x278F, "DINGBAT NEGATIVE CIRCLED SANS-SERIF DIGIT SIX"),
   (0x2790, "DINGBAT NEGATIVE CIRCLED SANS-SERIF DIGIT SEVEN"),
   (0x2791, "DINGBAT NEGATIVE CIRCLED SANS-SERIF DIGIT EIGHT"),
   (0x2792, "DINGBAT NEGATIVE CIRCLED SANS-SERIF DIGIT NINE"),
   (0x2793, "DINGBAT NEGATIVE CIRCLED SANS-SERIF NUMBER TEN"),
   (0x2794, "HEAVY WIDE-HEADED RIGHTWARDS ARROW"), (0x2795, "HEAVY PLUS SIGN"),
   (0x2796, "HEAVY MINUS SIGN"), (0x2797, "HEAVY DIVISION SIGN"),
   (0x2798, "HEAVY SOUTH EAST ARROW"), (0x2799, "HEAVY RIGHTWARDS ARROW"),
   (0x279A, "HEAVY NORTH EAST ARROW"), (0x279B, "DRAFTING POINT RIGHTWARDS ARROW"),
   (0x279C, "HEAVY ROUND-TIPPED RIGHTWARDS ARROW"), (0x279D, "TRIANGLE-HEADED RIGHTWARDS ARROW"),
   (0x279E, "HEAVY TRIANGLE-HEADED RIGHTWARDS ARROW"),
   (0x279F, "DASHED TRIANGLE-HEADED RIGHTWARDS ARROW"),
   (0x27A0, "HEAVY DASHED TRIANGLE-HEADED RIGHTWARDS ARROW"), (0x27A1, "BLACK RIGHTWARDS ARROW"),
   (0x27A2, "THREE-D TOP-LIGHTED RIGHTWARDS ARROWHEAD"),
   (0x27A3, "THREE-D BOTTOM-LIGHTED RIGHTWARDS ARROWHEAD"),
   (0x27A4, "BLACK RIGHTWARDS ARROWHEAD"),
   (0x27A5, "HEAVY BLACK CURVED DOWNWARDS AND RIGHTWARDS ARROW"),
   (0x27A6, "HEAVY BLACK CURVED UPWARDS AND RIGHTWARDS ARROW"),
   (0x27A7, "SQUAT BLACK RIGHTWARDS ARROW"),
   (0x27A8, "HEAVY CONCAVE-POINTED BLACK RIGHTWARDS ARROW"),
   (0x27A9, "RIGHT-SHADED WHITE RIGHTWARDS ARROW"),
   (0x27AA, "LEFT-SHADED WHITE RIGHTWARDS ARROW"),
   (0x27AB, "BACK-TILTED SHADOWED WHITE RIGHTWARDS ARROW"),
   (0x27AC, "FRONT-TILTED SHADOWED WHITE RIGHTWARDS ARROW"),
   (0x27AD, "HEAVY LOWER RIGHT-SHADOWED WHITE RIGHTWARDS ARROW"),
   (0x27AE, "HEAVY UPPER RIGHT-SHADOWED WHITE RIGHTWARDS ARROW"),
   (0x27AF, "NOTCHED LOWER RIGHT-SHADOWED WHITE RIGHTWARDS ARROW"), (0x27B0, "CURLY LOOP"),
   (0x27B1, "NOTCHED UPPER RIGHT-SHADOWED WHITE RIGHTWARDS ARROW"),
   (0x27B2, "CIRCLED HEAVY WHITE RIGHTWARDS ARROW"), (0x27B3, "WHITE-FEATHERED RIGHTWARDS ARROW"),
   (0x27B4, "BLACK-FEATHERED SOUTH EAST ARROW"), (0x27B5, "BLACK-FEATHERED RIGHTWARDS ARROW"),
   (0x27B6, "BLACK-FEATHERED NORTH EAST ARROW"),
   (0x27B7, "HEAVY BLACK-FEATHERED SOUTH EAST ARROW"),
   (0x27B8, "HEAVY BLACK-FEATHERED RIGHTWARDS ARROW"),
   (0x27B9, "HEAVY BLACK-FEATHERED NORTH EAST ARROW"),
   (0x27BA, "TEARDROP-BARBED RIGHTWARDS ARROW"),
   (0x27BB, "HEAVY TEARDROP-SHANKED RIGHTWARDS ARROW"), (0x27BC, "WEDGE-TAILED RIGHTWARDS ARROW"),
   (0x27BD, "HEAVY WEDGE-TAILED RIGHTWARDS ARROW"), (0x27BE, "OPEN-OUTLINED RIGHTWARDS ARROW"),
   (0x27BF, "DOUBLE CURLY LOOP"), (0x3000, "IDEOGRAPHIC SPACE"), (0x3001, "IDEOGRAPHIC COMMA"),
   (0x3002, "IDEOGRAPHIC FULL STOP"), (0x3003, "DITTO MARK"),
   (0x3004, "JAPANESE INDUSTRIAL STANDARD SYMBOL"), (0x3005, "IDEOGRAPHIC ITERATION MARK"),
   (0x3006, "IDEOGRAPHIC CLOSING MARK"), (0x3007, "IDEOGRAPHIC NUMBER ZERO"),
   (0x3008, "LEFT ANGLE BRACKET"), (0x3009, "RIGHT ANGLE BRACKET"),
   (0x300A, "LEFT DOUBLE ANGLE BRACKET"), (0x300B, "RIGHT DOUBLE ANGLE BRACKET"),
   (0x300C, "LEFT CORNER BRACKET"), (0x300D, "RIGHT CORNER BRACKET"),
   (0x300E, "LEFT WHITE CORNER BRACKET"), (0x300F, "RIGHT WHITE CORNER BRACKET"),
   (0x3010, "LEFT BLACK LENTICULAR BRACKET"), (0x3011, "RIGHT BLACK LENTICULAR BRACKET"),
   (0x3012, "POSTAL MARK"), (0x3013, "GETA MARK"), (0x3014, "LEFT TORTOISE SHELL BRACKET"),
   (0x3015, "RIGHT TORTOISE SHELL BRACKET"), (0x3016, "LEFT WHITE LENTICULAR BRACKET"),
   (0x3017, "RIGHT WHITE LENTICULAR BRACKET"), (0x3018, "LEFT WHITE TORTOISE SHELL BRACKET"),
   (0x3019, "RIGHT WHITE TORTOISE SHELL BRACKET"), (0x301A, "LEFT WHITE SQUARE BRACKET"),
   (0x301B, "RIGHT WHITE SQUARE BRACKET"), (0x301C, "WAVE DASH"),
   (0x301D, "REVERSED DOUBLE PRIME QUOTATION MARK"), (0x301E, "DOUBLE PRIME QUOTATION MARK"),
   (0x301F, "LOW DOUBLE PRIME QUOTATION MARK"), (0x3020, "POSTAL MARK FACE"),
   (0x3021, "HANGZHOU NUMERAL ONE"), (0x3022, "HANGZHOU NUMERAL TWO"),
   (0x3023, "HANGZHOU NUMERAL THREE"), (0x3024, "HANGZHOU NUMERAL FOUR"),
   (0x3025, "HANGZHOU NUMERAL FIVE"), (0x3026, "HANGZHOU NUMERAL SIX"),
   (0x3027, "HANGZHOU NUMERAL SEVEN"), (0x3028, "HANGZHOU NUMERAL EIGHT"),
   (0x3029, "HANGZHOU NUMERAL NINE"), (0x302A, "IDEOGRAPHIC LEVEL TONE MARK"),
   (0x302B, "IDEOGRAPHIC RISING TONE MARK"), (0x302C, "IDEOGRAPHIC DEPARTING TONE MARK"),
   (0x302D, "IDEOGRAPHIC ENTERING TONE MARK"), (0x302E, "HANGUL SINGLE DOT TONE MARK"),
   (0x302F, "HANGUL DOUBLE DOT TONE MARK"), (0x3030, "WAVY DASH"),
   (0x3031, "VERTICAL KANA REPEAT MARK"), (0x3032, "VERTICAL KANA REPEAT WITH VOICED SOUND MARK"),
   (0x3033, "VERTICAL KANA REPEAT MARK UPPER HALF"),
   (0x3034, "VERTICAL KANA REPEAT WITH VOICED SOUND MARK UPPER HALF"),
   (0x3035, "VERTICAL KANA REPEAT MARK LOWER HALF"), (0x3036, "CIRCLED POSTAL MARK"),
   (0x3037, "IDEOGRAPHIC TELEGRAPH LINE FEED SEPARATOR SYMBOL"), (0x3038, "HANGZHOU NUMERAL TEN"),
   (0x3039, "HANGZHOU NUMERAL TWENTY"), (0x303A, "HANGZHOU NUMERAL THIRTY"),
   (0x303B, "VERTICAL IDEOGRAPHIC ITERATION MARK"), (0x303C, "MASU MARK"),
   (0x303D, "PART ALTERNATION MARK"), (0x303E, "IDEOGRAPHIC VARIATION INDICATOR"),
   (0x303F, "IDEOGRAPHIC HALF FILL SPACE"), (0xFE00, "VARIATION SELECTOR-1"),
   (0xFE01, "VARIATION SELECTOR-2"), (0xFE02, "VARIATION SELECTOR-3"),
   (0xFE03, "VARIATION SELECTOR-4"), (0xFE04, "VARIATION SELECTOR-5"),
   (0xFE05, "VARIATION SELECTOR-6"), (0xFE06, "VARIATION SELECTOR-7"),
   (0xFE07, "VARIATION SELECTOR-8"), (0xFE08, "VARIATION SELECTOR-9"),
   (0xFE09, "VARIATION SELECTOR-10"), (0xFE0A, "VARIATION SELECTOR-11"),
   (0xFE0B, "VARIATION SELECTOR-12"), (0xFE0C, "VARIATION SELECTOR-13"),
   (0xFE0D, "VARIATION SELECTOR-14"), (0xFE0E, "VARIATION SELECTOR-15"),
   (0xFE0F, "VARIATION SELECTOR-16"), (0xFEFF, "ZERO WIDTH NO-BREAK SPACE"),
   (0xFFF9, "INTERLINEAR ANNOTATION ANCHOR"), (0xFFFA, "INTERLINEAR ANNOTATION SEPARATOR"),
   (0xFFFB, "INTERLINEAR ANNOTATION TERMINATOR"), (0xFFFC, "OBJECT REPLACEMENT CHARACTER"),
   (0xFFFD, "REPLACEMENT CHARACTER"), (0x1F600, "GRINNING FACE"),
   (0x1F601, "GRINNING FACE WITH SMILING EYES"), (0x1F602, "FACE WITH TEARS OF JOY"),
   (0x1F603, "SMILING FACE WITH OPEN MOUTH"),
   (0x1F604, "SMILING FACE WITH OPEN MOUTH AND SMILING EYES"),
   (0x1F605, "SMILING FACE WITH OPEN MOUTH AND COLD SWEAT"),
   (0x1F606, "SMILING FACE WITH OPEN MOUTH AND TIGHTLY-CLOSED EYES"),
   (0x1F607, "SMILING FACE WITH HALO"), (0x1F608, "SMILING FACE WITH HORNS"),
   (0x1F609, "WINKING FACE"), (0x1F60A, "SMILING FACE WITH SMILING EYES"),
   (0x1F60B, "FACE SAVOURING DELICIOUS FOOD"), (0x1F60C, "RELIEVED FACE"),
   (0x1F60D, "SMILING FACE WITH HEART-SHAPED EYES"), (0x1F60E, "SMILING FACE WITH SUNGLASSES"),
   (0x1F60F, "SMIRKING FACE"), (0x1F610, "NEUTRAL FACE"), (0x1F611, "EXPRESSIONLESS FACE"),
   (0x1F612, "UNAMUSED FACE"), (0x1F613, "FACE WITH COLD SWEAT"), (0x1F614, "PENSIVE FACE"),
   (0x1F615, "CONFUSED FACE"), (0x1F616, "CONFOUNDED FACE"), (0x1F617, "KISSING FACE"),
   (0x1F618, "FACE THROWING A KISS"), (0x1F619, "KISSING FACE WITH SMILING EYES"),
   (0x1F61A, "KISSING FACE WITH CLOSED EYES"), (0x1F61B, "FACE WITH STUCK-OUT TONGUE"),
   (0x1F61C, "FACE WITH STUCK-OUT TONGUE AND WINKING EYE"),
   (0x1F61D, "FACE WITH STUCK-OUT TONGUE AND TIGHTLY-CLOSED EYES"),
   (0x1F61E, "DISAPPOINTED FACE"), (0x1F61F, "WORRIED FACE"), (0x1F620, "ANGRY FACE"),
   (0x1F621, "POUTING FACE"), (0x1F622, "CRYING FACE"), (0x1F623, "PERSEVERING FACE"),
   (0x1F624, "FACE WITH LOOK OF TRIUMPH"), (0x1F625, "DISAPPOINTED BUT RELIEVED FACE"),
   (0x1F626, "FROWNING FACE WITH OPEN MOUTH"), (0x1F627, "ANGUISHED FACE"),
   (0x1F628, "FEARFUL FACE"), (0x1F629, "WEARY FACE"), (0x1F62A, "SLEEPY FACE"),
   (0x1F62B, "TIRED FACE"), (0x1F62C, "GRIMACING FACE"), (0x1F62D, "LOUDLY CRYING FACE"),
   (0x1F62E, "FACE WITH OPEN MOUTH"), (0x1F62F, "HUSHED FACE"),
   (0x1F630, "FACE WITH OPEN MOUTH AND COLD SWEAT"), (0x1F631, "FACE SCREAMING IN FEAR"),
   (0x1F632, "ASTONISHED FACE"), (0x1F633, "FLUSHED FACE"), (0x1F634, "SLEEPING FACE"),
   (0x1F635, "DIZZY FACE"), (0x1F636, "FACE WITHOUT MOUTH"), (0x1F637, "FACE WITH MEDICAL MASK"),
   (0x1F638, "GRINNING CAT FACE WITH SMILING EYES"), (0x1F639, "CAT FACE WITH TEARS OF JOY"),
   (0x1F63A, "SMILING CAT FACE WITH OPEN MOUTH"),
   (0x1F63B, "SMILING CAT FACE WITH HEART-SHAPED EYES"), (0x1F63C, "CAT FACE WITH WRY SMILE"),
   (0x1F63D, "KISSING CAT FACE WITH CLOSED EYES"), (0x1F63E, "POUTING CAT FACE"),
   (0x1F63F, "CRYING CAT FACE"), (0x1F640, "WEARY CAT FACE"), (0x1F641, "SLIGHTLY FROWNING FACE"),
   (0x1F642, "SLIGHTLY SMILING FACE"), (0x1F643, "UPSIDE-DOWN FACE"),
   (0x1F644, "FACE WITH ROLLING EYES"), (0x1F645, "FACE WITH NO GOOD GESTURE"),
   (0x1F646, "FACE WITH OK GESTURE"), (0x1F647, "PERSON BOWING DEEPLY"),
   (0x1F648, "SEE-NO-EVIL MONKEY"), (0x1F649, "HEAR-NO-EVIL MONKEY"),
   (0x1F64A, "SPEAK-NO-EVIL MONKEY"), (0x1F64B, "HAPPY PERSON RAISING ONE HAND"),
   (0x1F64C, "PERSON RAISING BOTH HANDS IN CELEBRATION"), (0x1F64D, "PERSON FROWNING"),
   (0x1F64E, "PERSON WITH POUTING FACE"), (0x1F64F, "PERSON WITH FOLDED HANDS")]

def characterNames : List (Nat × String) :=
  characterAliases ++ names0020 ++ names0301 ++ names201F ++ names2224 ++ names25B4 ++ names2744

/-- The ranges of the unified ideographs. -/
def ideographRanges : List (Nat × Nat) :=
  [(0x3400, 0x4DBF), (0x4E00, 0x9FFF), (0x20000, 0x2A6DF), (0x2A700, 0x2B738),
    (0x2B740, 0x2B81D), (0x2B820, 0x2CEA1), (0x2CEB0, 0x2EBE0), (0x30000, 0x3134A)]

def upperHexDigit? (c : Char) : Option Nat :=
  if '0' ≤ c ∧ c ≤ '9' then some (c.toNat - '0'.toNat)
  else if 'A' ≤ c ∧ c ≤ 'F' then some (c.toNat - 'A'.toNat + 10)
  else none

/-- The ideograph whose code point follows the common beginning of their names. -/
def ideographNamed? (name : List Char) : Option Nat := do
  let start := "CJK UNIFIED IDEOGRAPH-".toList
  if !start.isPrefixOf name then none
  else
    let digits ← (name.drop start.length).mapM upperHexDigit?
    let n := digits.foldl (fun n d => n * 16 + d) 0
    if (digits.length == 4 || digits.length == 5)
        && ideographRanges.any (fun (lo, hi) => lo ≤ n && n ≤ hi) then some n
    else none

/-- The code point of the character with a name, in which case makes no difference. -/
def characterNamed? (name : List Char) : Option Nat :=
  let upper := name.map Char.toUpper
  let wanted := String.ofList upper
  match characterNames.find? (·.2 == wanted) with
  | some (n, _) => some n
  | none => ideographNamed? upper

namespace CharacterNames

/-- Names to run the program with: those of the table above. -/
scoped instance standard : CharacterNames := ⟨characterNamed?⟩

end CharacterNames

end JavadocTags.Unicode
