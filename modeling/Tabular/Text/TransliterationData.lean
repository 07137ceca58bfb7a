/-!
# Data for transliteration

ASCII texts that stand for other characters: Latin, Greek and Cyrillic letters, punctuation, and a
selection of other scripts. A replacement that ends in a space is a whole word.
-/

namespace Tabular.Text

/-- Part of `asciiReplacements`. -/
def asciiReplacementsFirst : List (Nat × String) :=
  [(0x7F, ""), (0xA0, " "), (0xA1, "!"), (0xA2, "C/"), (0xA3, "PS"), (0xA4, "$?"), (0xA5, "Y="),
   (0xA6, "|"), (0xA7, "SS"), (0xA8, "\""), (0xA9, "(c)"), (0xAA, "a"), (0xAB, "<<"), (0xAC, "!"),
   (0xAD, ""), (0xAE, "(r)"), (0xAF, "-"), (0xB0, "deg"), (0xB1, "+-"), (0xB2, "2"), (0xB3, "3"),
   (0xB4, "'"), (0xB5, "u"), (0xB6, "P"), (0xB7, "*"), (0xB8, ","), (0xB9, "1"), (0xBA, "o"),
   (0xBB, ">>"), (0xBC, "1/4"), (0xBD, "1/2"), (0xBE, "3/4"), (0xBF, "?"), (0xC0, "A"),
   (0xC1, "A"), (0xC2, "A"), (0xC3, "A"), (0xC4, "A"), (0xC5, "A"), (0xC6, "AE"), (0xC7, "C"),
   (0xC8, "E"), (0xC9, "E"), (0xCA, "E"), (0xCB, "E"), (0xCC, "I"), (0xCD, "I"), (0xCE, "I"),
   (0xCF, "I"), (0xD0, "D"), (0xD1, "N"), (0xD2, "O"), (0xD3, "O"), (0xD4, "O"), (0xD5, "O"),
   (0xD6, "O"), (0xD7, "x"), (0xD8, "O"), (0xD9, "U"), (0xDA, "U"), (0xDB, "U"), (0xDC, "U"),
   (0xDD, "Y"), (0xDE, "Th"), (0xDF, "ss"), (0xE0, "a"), (0xE1, "a"), (0xE2, "a"), (0xE3, "a"),
   (0xE4, "a"), (0xE5, "a"), (0xE6, "ae"), (0xE7, "c"), (0xE8, "e"), (0xE9, "e"), (0xEA, "e"),
   (0xEB, "e"), (0xEC, "i"), (0xED, "i"), (0xEE, "i"), (0xEF, "i"), (0xF0, "d"), (0xF1, "n"),
   (0xF2, "o"), (0xF3, "o"), (0xF4, "o"), (0xF5, "o"), (0xF6, "o"), (0xF7, "/"), (0xF8, "o"),
   (0xF9, "u"), (0xFA, "u"), (0xFB, "u"), (0xFC, "u"), (0xFD, "y"), (0xFE, "th"), (0xFF, "y"),
   (0x100, "A"), (0x101, "a"), (0x102, "A"), (0x103, "a"), (0x104, "A"), (0x105, "a"),
   (0x106, "C"), (0x107, "c"), (0x108, "C"), (0x109, "c"), (0x10A, "C"), (0x10B, "c"),
   (0x10C, "C"), (0x10D, "c"), (0x10E, "D"), (0x10F, "d"), (0x110, "D"), (0x111, "d"),
   (0x112, "E"), (0x113, "e"), (0x114, "E"), (0x115, "e"), (0x116, "E"), (0x117, "e"),
   (0x118, "E"), (0x119, "e"), (0x11A, "E"), (0x11B, "e"), (0x11C, "G"), (0x11D, "g"),
   (0x11E, "G"), (0x11F, "g"), (0x120, "G")]

/-- Part of `asciiReplacements`. -/
def asciiReplacementsSecond : List (Nat × String) :=
  [(0x121, "g"), (0x122, "G"), (0x123, "g"), (0x124, "H"), (0x125, "h"), (0x126, "H"),
   (0x127, "h"), (0x128, "I"), (0x129, "i"), (0x12A, "I"), (0x12B, "i"), (0x12C, "I"),
   (0x12D, "i"), (0x12E, "I"), (0x12F, "i"), (0x130, "I"), (0x131, "i"), (0x132, "IJ"),
   (0x133, "ij"), (0x134, "J"), (0x135, "j"), (0x136, "K"), (0x137, "k"), (0x138, "k"),
   (0x139, "L"), (0x13A, "l"), (0x13B, "L"), (0x13C, "l"), (0x13D, "L"), (0x13E, "l"),
   (0x13F, "L"), (0x140, "l"), (0x141, "L"), (0x142, "l"), (0x143, "N"), (0x144, "n"),
   (0x145, "N"), (0x146, "n"), (0x147, "N"), (0x148, "n"), (0x149, "'n"), (0x14A, "ng"),
   (0x14B, "NG"), (0x14C, "O"), (0x14D, "o"), (0x14E, "O"), (0x14F, "o"), (0x150, "O"),
   (0x151, "o"), (0x152, "OE"), (0x153, "oe"), (0x154, "R"), (0x155, "r"), (0x156, "R"),
   (0x157, "r"), (0x158, "R"), (0x159, "r"), (0x15A, "S"), (0x15B, "s"), (0x15C, "S"),
   (0x15D, "s"), (0x15E, "S"), (0x15F, "s"), (0x160, "S"), (0x161, "s"), (0x162, "T"),
   (0x163, "t"), (0x164, "T"), (0x165, "t"), (0x166, "T"), (0x167, "t"), (0x168, "U"),
   (0x169, "u"), (0x16A, "U"), (0x16B, "u"), (0x16C, "U"), (0x16D, "u"), (0x16E, "U"),
   (0x16F, "u"), (0x170, "U"), (0x171, "u"), (0x172, "U"), (0x173, "u"), (0x174, "W"),
   (0x175, "w"), (0x176, "Y"), (0x177, "y"), (0x178, "Y"), (0x179, "Z"), (0x17A, "z"),
   (0x17B, "Z"), (0x17C, "z"), (0x17D, "Z"), (0x17E, "z"), (0x17F, "s"), (0x301, ""), (0x307, ""),
   (0x386, "A"), (0x387, ";"), (0x388, "E"), (0x389, "E"), (0x38A, "I"), (0x38C, "O"),
   (0x38E, "U"), (0x38F, "O"), (0x390, "I"), (0x391, "A"), (0x392, "B"), (0x393, "G"),
   (0x394, "D"), (0x395, "E"), (0x396, "Z"), (0x397, "E"), (0x398, "Th"), (0x399, "I"),
   (0x39A, "K"), (0x39B, "L"), (0x39C, "M"), (0x39D, "N"), (0x39E, "Ks"), (0x39F, "O"),
   (0x3A0, "P"), (0x3A1, "R"), (0x3A3, "S"), (0x3A4, "T"), (0x3A5, "U"), (0x3A6, "Ph"),
   (0x3A7, "Kh"), (0x3A8, "Ps"), (0x3A9, "O")]

/-- Part of `asciiReplacements`. -/
def asciiReplacementsThird : List (Nat × String) :=
  [(0x3AA, "I"), (0x3AB, "U"), (0x3AC, "a"), (0x3AD, "e"), (0x3AE, "e"), (0x3AF, "i"),
   (0x3B0, "u"), (0x3B1, "a"), (0x3B2, "b"), (0x3B3, "g"), (0x3B4, "d"), (0x3B5, "e"),
   (0x3B6, "z"), (0x3B7, "e"), (0x3B8, "th"), (0x3B9, "i"), (0x3BA, "k"), (0x3BB, "l"),
   (0x3BC, "m"), (0x3BD, "n"), (0x3BE, "x"), (0x3BF, "o"), (0x3C0, "p"), (0x3C1, "r"),
   (0x3C2, "s"), (0x3C3, "s"), (0x3C4, "t"), (0x3C5, "u"), (0x3C6, "ph"), (0x3C7, "kh"),
   (0x3C8, "ps"), (0x3C9, "o"), (0x3CA, "i"), (0x3CB, "u"), (0x3CC, "o"), (0x3CD, "u"),
   (0x3CE, "o"), (0x400, "Ie"), (0x401, "Io"), (0x402, "Dj"), (0x403, "Gj"), (0x404, "E"),
   (0x405, "Dz"), (0x406, "I"), (0x407, "Yi"), (0x408, "J"), (0x409, "Lj"), (0x40A, "Nj"),
   (0x40B, "Tsh"), (0x40C, "Kj"), (0x40D, "I"), (0x40E, "U"), (0x40F, "Dzh"), (0x410, "A"),
   (0x411, "B"), (0x412, "V"), (0x413, "G"), (0x414, "D"), (0x415, "E"), (0x416, "Zh"),
   (0x417, "Z"), (0x418, "I"), (0x419, "I"), (0x41A, "K"), (0x41B, "L"), (0x41C, "M"),
   (0x41D, "N"), (0x41E, "O"), (0x41F, "P"), (0x420, "R"), (0x421, "S"), (0x422, "T"),
   (0x423, "U"), (0x424, "F"), (0x425, "Kh"), (0x426, "Ts"), (0x427, "Ch"), (0x428, "Sh"),
   (0x429, "Shch"), (0x42A, "'"), (0x42B, "Y"), (0x42C, "'"), (0x42D, "E"), (0x42E, "Iu"),
   (0x42F, "Ia"), (0x430, "a"), (0x431, "b"), (0x432, "v"), (0x433, "g"), (0x434, "d"),
   (0x435, "e"), (0x436, "zh"), (0x437, "z"), (0x438, "i"), (0x439, "i"), (0x43A, "k"),
   (0x43B, "l"), (0x43C, "m"), (0x43D, "n"), (0x43E, "o"), (0x43F, "p"), (0x440, "r"),
   (0x441, "s"), (0x442, "t"), (0x443, "u"), (0x444, "f"), (0x445, "kh"), (0x446, "ts"),
   (0x447, "ch"), (0x448, "sh"), (0x449, "shch"), (0x44A, "'"), (0x44B, "y"), (0x44C, "'"),
   (0x44D, "e"), (0x44E, "iu"), (0x44F, "ia"), (0x450, "ie"), (0x451, "io"), (0x452, "dj"),
   (0x453, "gj"), (0x454, "ie"), (0x455, "dz"), (0x456, "i"), (0x457, "yi"), (0x458, "j"),
   (0x459, "lj"), (0x45A, "nj"), (0x45B, "tsh"), (0x45C, "kj")]

/-- Part of `asciiReplacements`. -/
def asciiReplacementsFourth : List (Nat × String) :=
  [(0x45D, "i"), (0x45E, "u"), (0x45F, "dzh"), (0x663, "3"), (0x665, "5"), (0x968, "2"),
   (0x96B, "5"), (0x2003, " "), (0x200B, " "), (0x2010, "-"), (0x2014, "--"), (0x2025, ".."),
   (0x2026, "..."), (0x2028, "\n"), (0x20AC, "EUR"), (0x20B9, "Rs"), (0x2212, "-"),
   (0x2265, ">="), (0x3000, " "), (0x30AD, "ki"), (0x30B9, "su"), (0x30C6, "te"), (0x30C8, "to"),
   (0x4EAC, "Jing "), (0x5317, "Bei "), (0x65E5, "Ri "), (0x672C, "Ben "), (0x674E, "Li "),
   (0x8A9E, "Yu "), (0x90FD, "Du "), (0xAD6D, "gug"), (0xC2A4, "seu"), (0xC5B4, "eo"),
   (0xD14D, "teg"), (0xD2B8, "teu"), (0xD55C, "han"), (0xFB01, "fi"), (0xFF10, "0"),
   (0xFF11, "1"), (0xFF12, "2"), (0xFF14, "4"), (0xFF1E, ">"), (0xFF46, "f"), (0xFF4C, "l"),
   (0xFF55, "u"), (0xFFFD, "?"), (0x1F642, "slight smile ")]

/-- Code points with the ASCII texts that stand for them. -/
def asciiReplacements : List (Nat × String) :=
  asciiReplacementsFirst ++ asciiReplacementsSecond ++ asciiReplacementsThird
    ++ asciiReplacementsFourth

end Tabular.Text
