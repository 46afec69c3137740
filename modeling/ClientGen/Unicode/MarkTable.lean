/-!
# Marks and numbers by general category

The general categories of the combining marks and the numbers, Unicode 16.0. Each list holds ascending
bounds: membership begins at the first bound, ends at the second, begins again at the third
and so on, as `ClientGen.Unicode.inBounds` reads it.

## Main definitions

* `nonspacingMarks`
* `spacingMarks`
* `enclosingMarks`
* `decimalNumbers`
* `letterNumbers`
* `otherNumbers`
-/

set_option autoImplicit false

namespace ClientGen.Unicode.MarkTable

/-- Bounds of the non-spacing marks (`Mn`). -/
def nonspacingMarks : List Nat := [
  0x300, 0x370, 0x483, 0x488, 0x591, 0x5BE, 0x5BF, 0x5C0, 0x5C1, 0x5C3, 0x5C4, 0x5C6, 0x5C7,
  0x5C8, 0x610, 0x61B, 0x64B, 0x660, 0x670, 0x671, 0x6D6, 0x6DD, 0x6DF, 0x6E5, 0x6E7, 0x6E9,
  0x6EA, 0x6EE, 0x711, 0x712, 0x730, 0x74B, 0x7A6, 0x7B1, 0x7EB, 0x7F4, 0x7FD, 0x7FE, 0x816,
  0x81A, 0x81B, 0x824, 0x825, 0x828, 0x829, 0x82E, 0x859, 0x85C, 0x897, 0x8A0, 0x8CA, 0x8E2,
  0x8E3, 0x903, 0x93A, 0x93B, 0x93C, 0x93D, 0x941, 0x949, 0x94D, 0x94E, 0x951, 0x958, 0x962,
  0x964, 0x981, 0x982, 0x9BC, 0x9BD, 0x9C1, 0x9C5, 0x9CD, 0x9CE, 0x9E2, 0x9E4, 0x9FE, 0x9FF,
  0xA01, 0xA03, 0xA3C, 0xA3D, 0xA41, 0xA43, 0xA47, 0xA49, 0xA4B, 0xA4E, 0xA51, 0xA52, 0xA70,
  0xA72, 0xA75, 0xA76, 0xA81, 0xA83, 0xABC, 0xABD, 0xAC1, 0xAC6, 0xAC7, 0xAC9, 0xACD, 0xACE,
  0xAE2, 0xAE4, 0xAFA, 0xB00, 0xB01, 0xB02, 0xB3C, 0xB3D, 0xB3F, 0xB40, 0xB41, 0xB45, 0xB4D,
  0xB4E, 0xB55, 0xB57, 0xB62, 0xB64, 0xB82, 0xB83, 0xBC0, 0xBC1, 0xBCD, 0xBCE, 0xC00, 0xC01,
  0xC04, 0xC05, 0xC3C, 0xC3D, 0xC3E, 0xC41, 0xC46, 0xC49, 0xC4A, 0xC4E, 0xC55, 0xC57, 0xC62,
  0xC64, 0xC81, 0xC82, 0xCBC, 0xCBD, 0xCBF, 0xCC0, 0xCC6, 0xCC7, 0xCCC, 0xCCE, 0xCE2, 0xCE4,
  0xD00, 0xD02, 0xD3B, 0xD3D, 0xD41, 0xD45, 0xD4D, 0xD4E, 0xD62, 0xD64, 0xD81, 0xD82, 0xDCA,
  0xDCB, 0xDD2, 0xDD5, 0xDD6, 0xDD7, 0xE31, 0xE32, 0xE34, 0xE3B, 0xE47, 0xE4F, 0xEB1, 0xEB2,
  0xEB4, 0xEBD, 0xEC8, 0xECF, 0xF18, 0xF1A, 0xF35, 0xF36, 0xF37, 0xF38, 0xF39, 0xF3A, 0xF71,
  0xF7F, 0xF80, 0xF85, 0xF86, 0xF88, 0xF8D, 0xF98, 0xF99, 0xFBD, 0xFC6, 0xFC7, 0x102D, 0x1031,
  0x1032, 0x1038, 0x1039, 0x103B, 0x103D, 0x103F, 0x1058, 0x105A, 0x105E, 0x1061, 0x1071, 0x1075,
  0x1082, 0x1083, 0x1085, 0x1087, 0x108D, 0x108E, 0x109D, 0x109E, 0x135D, 0x1360, 0x1712, 0x1715,
  0x1732, 0x1734, 0x1752, 0x1754, 0x1772, 0x1774, 0x17B4, 0x17B6, 0x17B7, 0x17BE, 0x17C6, 0x17C7,
  0x17C9, 0x17D4, 0x17DD, 0x17DE, 0x180B, 0x180E, 0x180F, 0x1810, 0x1885, 0x1887, 0x18A9, 0x18AA,
  0x1920, 0x1923, 0x1927, 0x1929, 0x1932, 0x1933, 0x1939, 0x193C, 0x1A17, 0x1A19, 0x1A1B, 0x1A1C,
  0x1A56, 0x1A57, 0x1A58, 0x1A5F, 0x1A60, 0x1A61, 0x1A62, 0x1A63, 0x1A65, 0x1A6D, 0x1A73, 0x1A7D,
  0x1A7F, 0x1A80, 0x1AB0, 0x1ABE, 0x1ABF, 0x1ACF, 0x1B00, 0x1B04, 0x1B34, 0x1B35, 0x1B36, 0x1B3B,
  0x1B3C, 0x1B3D, 0x1B42, 0x1B43, 0x1B6B, 0x1B74, 0x1B80, 0x1B82, 0x1BA2, 0x1BA6, 0x1BA8, 0x1BAA,
  0x1BAB, 0x1BAE, 0x1BE6, 0x1BE7, 0x1BE8, 0x1BEA, 0x1BED, 0x1BEE, 0x1BEF, 0x1BF2, 0x1C2C, 0x1C34,
  0x1C36, 0x1C38, 0x1CD0, 0x1CD3, 0x1CD4, 0x1CE1, 0x1CE2, 0x1CE9, 0x1CED, 0x1CEE, 0x1CF4, 0x1CF5,
  0x1CF8, 0x1CFA, 0x1DC0, 0x1E00, 0x20D0, 0x20DD, 0x20E1, 0x20E2, 0x20E5, 0x20F1, 0x2CEF, 0x2CF2,
  0x2D7F, 0x2D80, 0x2DE0, 0x2E00, 0x302A, 0x302E, 0x3099, 0x309B, 0xA66F, 0xA670, 0xA674, 0xA67E,
  0xA69E, 0xA6A0, 0xA6F0, 0xA6F2, 0xA802, 0xA803, 0xA806, 0xA807, 0xA80B, 0xA80C, 0xA825, 0xA827,
  0xA82C, 0xA82D, 0xA8C4, 0xA8C6, 0xA8E0, 0xA8F2, 0xA8FF, 0xA900, 0xA926, 0xA92E, 0xA947, 0xA952,
  0xA980, 0xA983, 0xA9B3, 0xA9B4, 0xA9B6, 0xA9BA, 0xA9BC, 0xA9BE, 0xA9E5, 0xA9E6, 0xAA29, 0xAA2F,
  0xAA31, 0xAA33, 0xAA35, 0xAA37, 0xAA43, 0xAA44, 0xAA4C, 0xAA4D, 0xAA7C, 0xAA7D, 0xAAB0, 0xAAB1,
  0xAAB2, 0xAAB5, 0xAAB7, 0xAAB9, 0xAABE, 0xAAC0, 0xAAC1, 0xAAC2, 0xAAEC, 0xAAEE, 0xAAF6, 0xAAF7,
  0xABE5, 0xABE6, 0xABE8, 0xABE9, 0xABED, 0xABEE, 0xFB1E, 0xFB1F, 0xFE00, 0xFE10, 0xFE20, 0xFE30,
  0x101FD, 0x101FE, 0x102E0, 0x102E1, 0x10376, 0x1037B, 0x10A01, 0x10A04, 0x10A05, 0x10A07,
  0x10A0C, 0x10A10, 0x10A38, 0x10A3B, 0x10A3F, 0x10A40, 0x10AE5, 0x10AE7, 0x10D24, 0x10D28,
  0x10D69, 0x10D6E, 0x10EAB, 0x10EAD, 0x10EFC, 0x10F00, 0x10F46, 0x10F51, 0x10F82, 0x10F86,
  0x11001, 0x11002, 0x11038, 0x11047, 0x11070, 0x11071, 0x11073, 0x11075, 0x1107F, 0x11082,
  0x110B3, 0x110B7, 0x110B9, 0x110BB, 0x110C2, 0x110C3, 0x11100, 0x11103, 0x11127, 0x1112C,
  0x1112D, 0x11135, 0x11173, 0x11174, 0x11180, 0x11182, 0x111B6, 0x111BF, 0x111C9, 0x111CD,
  0x111CF, 0x111D0, 0x1122F, 0x11232, 0x11234, 0x11235, 0x11236, 0x11238, 0x1123E, 0x1123F,
  0x11241, 0x11242, 0x112DF, 0x112E0, 0x112E3, 0x112EB, 0x11300, 0x11302, 0x1133B, 0x1133D,
  0x11340, 0x11341, 0x11366, 0x1136D, 0x11370, 0x11375, 0x113BB, 0x113C1, 0x113CE, 0x113CF,
  0x113D0, 0x113D1, 0x113D2, 0x113D3, 0x113E1, 0x113E3, 0x11438, 0x11440, 0x11442, 0x11445,
  0x11446, 0x11447, 0x1145E, 0x1145F, 0x114B3, 0x114B9, 0x114BA, 0x114BB, 0x114BF, 0x114C1,
  0x114C2, 0x114C4, 0x115B2, 0x115B6, 0x115BC, 0x115BE, 0x115BF, 0x115C1, 0x115DC, 0x115DE,
  0x11633, 0x1163B, 0x1163D, 0x1163E, 0x1163F, 0x11641, 0x116AB, 0x116AC, 0x116AD, 0x116AE,
  0x116B0, 0x116B6, 0x116B7, 0x116B8, 0x1171D, 0x1171E, 0x1171F, 0x11720, 0x11722, 0x11726,
  0x11727, 0x1172C, 0x1182F, 0x11838, 0x11839, 0x1183B, 0x1193B, 0x1193D, 0x1193E, 0x1193F,
  0x11943, 0x11944, 0x119D4, 0x119D8, 0x119DA, 0x119DC, 0x119E0, 0x119E1, 0x11A01, 0x11A0B,
  0x11A33, 0x11A39, 0x11A3B, 0x11A3F, 0x11A47, 0x11A48, 0x11A51, 0x11A57, 0x11A59, 0x11A5C,
  0x11A8A, 0x11A97, 0x11A98, 0x11A9A, 0x11C30, 0x11C37, 0x11C38, 0x11C3E, 0x11C3F, 0x11C40,
  0x11C92, 0x11CA8, 0x11CAA, 0x11CB1, 0x11CB2, 0x11CB4, 0x11CB5, 0x11CB7, 0x11D31, 0x11D37,
  0x11D3A, 0x11D3B, 0x11D3C, 0x11D3E, 0x11D3F, 0x11D46, 0x11D47, 0x11D48, 0x11D90, 0x11D92,
  0x11D95, 0x11D96, 0x11D97, 0x11D98, 0x11EF3, 0x11EF5, 0x11F00, 0x11F02, 0x11F36, 0x11F3B,
  0x11F40, 0x11F41, 0x11F42, 0x11F43, 0x11F5A, 0x11F5B, 0x13440, 0x13441, 0x13447, 0x13456,
  0x1611E, 0x1612A, 0x1612D, 0x16130, 0x16AF0, 0x16AF5, 0x16B30, 0x16B37, 0x16F4F, 0x16F50,
  0x16F8F, 0x16F93, 0x16FE4, 0x16FE5, 0x1BC9D, 0x1BC9F, 0x1CF00, 0x1CF2E, 0x1CF30, 0x1CF47,
  0x1D167, 0x1D16A, 0x1D17B, 0x1D183, 0x1D185, 0x1D18C, 0x1D1AA, 0x1D1AE, 0x1D242, 0x1D245,
  0x1DA00, 0x1DA37, 0x1DA3B, 0x1DA6D, 0x1DA75, 0x1DA76, 0x1DA84, 0x1DA85, 0x1DA9B, 0x1DAA0,
  0x1DAA1, 0x1DAB0, 0x1E000, 0x1E007, 0x1E008, 0x1E019, 0x1E01B, 0x1E022, 0x1E023, 0x1E025,
  0x1E026, 0x1E02B, 0x1E08F, 0x1E090, 0x1E130, 0x1E137, 0x1E2AE, 0x1E2AF, 0x1E2EC, 0x1E2F0,
  0x1E4EC, 0x1E4F0, 0x1E5EE, 0x1E5F0, 0x1E8D0, 0x1E8D7, 0x1E944, 0x1E94B, 0xE0100, 0xE01F0]

/-- Bounds of the spacing combining marks (`Mc`). -/
def spacingMarks : List Nat := [
  0x903, 0x904, 0x93B, 0x93C, 0x93E, 0x941, 0x949, 0x94D, 0x94E, 0x950, 0x982, 0x984, 0x9BE,
  0x9C1, 0x9C7, 0x9C9, 0x9CB, 0x9CD, 0x9D7, 0x9D8, 0xA03, 0xA04, 0xA3E, 0xA41, 0xA83, 0xA84,
  0xABE, 0xAC1, 0xAC9, 0xACA, 0xACB, 0xACD, 0xB02, 0xB04, 0xB3E, 0xB3F, 0xB40, 0xB41, 0xB47,
  0xB49, 0xB4B, 0xB4D, 0xB57, 0xB58, 0xBBE, 0xBC0, 0xBC1, 0xBC3, 0xBC6, 0xBC9, 0xBCA, 0xBCD,
  0xBD7, 0xBD8, 0xC01, 0xC04, 0xC41, 0xC45, 0xC82, 0xC84, 0xCBE, 0xCBF, 0xCC0, 0xCC5, 0xCC7,
  0xCC9, 0xCCA, 0xCCC, 0xCD5, 0xCD7, 0xCF3, 0xCF4, 0xD02, 0xD04, 0xD3E, 0xD41, 0xD46, 0xD49,
  0xD4A, 0xD4D, 0xD57, 0xD58, 0xD82, 0xD84, 0xDCF, 0xDD2, 0xDD8, 0xDE0, 0xDF2, 0xDF4, 0xF3E,
  0xF40, 0xF7F, 0xF80, 0x102B, 0x102D, 0x1031, 0x1032, 0x1038, 0x1039, 0x103B, 0x103D, 0x1056,
  0x1058, 0x1062, 0x1065, 0x1067, 0x106E, 0x1083, 0x1085, 0x1087, 0x108D, 0x108F, 0x1090, 0x109A,
  0x109D, 0x1715, 0x1716, 0x1734, 0x1735, 0x17B6, 0x17B7, 0x17BE, 0x17C6, 0x17C7, 0x17C9, 0x1923,
  0x1927, 0x1929, 0x192C, 0x1930, 0x1932, 0x1933, 0x1939, 0x1A19, 0x1A1B, 0x1A55, 0x1A56, 0x1A57,
  0x1A58, 0x1A61, 0x1A62, 0x1A63, 0x1A65, 0x1A6D, 0x1A73, 0x1B04, 0x1B05, 0x1B35, 0x1B36, 0x1B3B,
  0x1B3C, 0x1B3D, 0x1B42, 0x1B43, 0x1B45, 0x1B82, 0x1B83, 0x1BA1, 0x1BA2, 0x1BA6, 0x1BA8, 0x1BAA,
  0x1BAB, 0x1BE7, 0x1BE8, 0x1BEA, 0x1BED, 0x1BEE, 0x1BEF, 0x1BF2, 0x1BF4, 0x1C24, 0x1C2C, 0x1C34,
  0x1C36, 0x1CE1, 0x1CE2, 0x1CF7, 0x1CF8, 0x302E, 0x3030, 0xA823, 0xA825, 0xA827, 0xA828, 0xA880,
  0xA882, 0xA8B4, 0xA8C4, 0xA952, 0xA954, 0xA983, 0xA984, 0xA9B4, 0xA9B6, 0xA9BA, 0xA9BC, 0xA9BE,
  0xA9C1, 0xAA2F, 0xAA31, 0xAA33, 0xAA35, 0xAA4D, 0xAA4E, 0xAA7B, 0xAA7C, 0xAA7D, 0xAA7E, 0xAAEB,
  0xAAEC, 0xAAEE, 0xAAF0, 0xAAF5, 0xAAF6, 0xABE3, 0xABE5, 0xABE6, 0xABE8, 0xABE9, 0xABEB, 0xABEC,
  0xABED, 0x11000, 0x11001, 0x11002, 0x11003, 0x11082, 0x11083, 0x110B0, 0x110B3, 0x110B7,
  0x110B9, 0x1112C, 0x1112D, 0x11145, 0x11147, 0x11182, 0x11183, 0x111B3, 0x111B6, 0x111BF,
  0x111C1, 0x111CE, 0x111CF, 0x1122C, 0x1122F, 0x11232, 0x11234, 0x11235, 0x11236, 0x112E0,
  0x112E3, 0x11302, 0x11304, 0x1133E, 0x11340, 0x11341, 0x11345, 0x11347, 0x11349, 0x1134B,
  0x1134E, 0x11357, 0x11358, 0x11362, 0x11364, 0x113B8, 0x113BB, 0x113C2, 0x113C3, 0x113C5,
  0x113C6, 0x113C7, 0x113CB, 0x113CC, 0x113CE, 0x113CF, 0x113D0, 0x11435, 0x11438, 0x11440,
  0x11442, 0x11445, 0x11446, 0x114B0, 0x114B3, 0x114B9, 0x114BA, 0x114BB, 0x114BF, 0x114C1,
  0x114C2, 0x115AF, 0x115B2, 0x115B8, 0x115BC, 0x115BE, 0x115BF, 0x11630, 0x11633, 0x1163B,
  0x1163D, 0x1163E, 0x1163F, 0x116AC, 0x116AD, 0x116AE, 0x116B0, 0x116B6, 0x116B7, 0x1171E,
  0x1171F, 0x11720, 0x11722, 0x11726, 0x11727, 0x1182C, 0x1182F, 0x11838, 0x11839, 0x11930,
  0x11936, 0x11937, 0x11939, 0x1193D, 0x1193E, 0x11940, 0x11941, 0x11942, 0x11943, 0x119D1,
  0x119D4, 0x119DC, 0x119E0, 0x119E4, 0x119E5, 0x11A39, 0x11A3A, 0x11A57, 0x11A59, 0x11A97,
  0x11A98, 0x11C2F, 0x11C30, 0x11C3E, 0x11C3F, 0x11CA9, 0x11CAA, 0x11CB1, 0x11CB2, 0x11CB4,
  0x11CB5, 0x11D8A, 0x11D8F, 0x11D93, 0x11D95, 0x11D96, 0x11D97, 0x11EF5, 0x11EF7, 0x11F03,
  0x11F04, 0x11F34, 0x11F36, 0x11F3E, 0x11F40, 0x11F41, 0x11F42, 0x1612A, 0x1612D, 0x16F51,
  0x16F88, 0x16FF0, 0x16FF2, 0x1D165, 0x1D167, 0x1D16D, 0x1D173]

/-- Bounds of the enclosing marks (`Me`). -/
def enclosingMarks : List Nat := [
  0x488, 0x48A, 0x1ABE, 0x1ABF, 0x20DD, 0x20E1, 0x20E2, 0x20E5, 0xA670, 0xA673]

/-- Bounds of the decimal digits (`Nd`). -/
def decimalNumbers : List Nat := [
  0x30, 0x3A, 0x660, 0x66A, 0x6F0, 0x6FA, 0x7C0, 0x7CA, 0x966, 0x970, 0x9E6, 0x9F0, 0xA66, 0xA70,
  0xAE6, 0xAF0, 0xB66, 0xB70, 0xBE6, 0xBF0, 0xC66, 0xC70, 0xCE6, 0xCF0, 0xD66, 0xD70, 0xDE6,
  0xDF0, 0xE50, 0xE5A, 0xED0, 0xEDA, 0xF20, 0xF2A, 0x1040, 0x104A, 0x1090, 0x109A, 0x17E0,
  0x17EA, 0x1810, 0x181A, 0x1946, 0x1950, 0x19D0, 0x19DA, 0x1A80, 0x1A8A, 0x1A90, 0x1A9A, 0x1B50,
  0x1B5A, 0x1BB0, 0x1BBA, 0x1C40, 0x1C4A, 0x1C50, 0x1C5A, 0xA620, 0xA62A, 0xA8D0, 0xA8DA, 0xA900,
  0xA90A, 0xA9D0, 0xA9DA, 0xA9F0, 0xA9FA, 0xAA50, 0xAA5A, 0xABF0, 0xABFA, 0xFF10, 0xFF1A,
  0x104A0, 0x104AA, 0x10D30, 0x10D3A, 0x10D40, 0x10D4A, 0x11066, 0x11070, 0x110F0, 0x110FA,
  0x11136, 0x11140, 0x111D0, 0x111DA, 0x112F0, 0x112FA, 0x11450, 0x1145A, 0x114D0, 0x114DA,
  0x11650, 0x1165A, 0x116C0, 0x116CA, 0x116D0, 0x116E4, 0x11730, 0x1173A, 0x118E0, 0x118EA,
  0x11950, 0x1195A, 0x11BF0, 0x11BFA, 0x11C50, 0x11C5A, 0x11D50, 0x11D5A, 0x11DA0, 0x11DAA,
  0x11F50, 0x11F5A, 0x16130, 0x1613A, 0x16A60, 0x16A6A, 0x16AC0, 0x16ACA, 0x16B50, 0x16B5A,
  0x16D70, 0x16D7A, 0x1CCF0, 0x1CCFA, 0x1D7CE, 0x1D800, 0x1E140, 0x1E14A, 0x1E2F0, 0x1E2FA,
  0x1E4F0, 0x1E4FA, 0x1E5F1, 0x1E5FB, 0x1E950, 0x1E95A, 0x1FBF0, 0x1FBFA]

/-- Bounds of the letter-like numbers (`Nl`). -/
def letterNumbers : List Nat := [
  0x16EE, 0x16F1, 0x2160, 0x2183, 0x2185, 0x2189, 0x3007, 0x3008, 0x3021, 0x302A, 0x3038, 0x303B,
  0xA6E6, 0xA6F0, 0x10140, 0x10175, 0x10341, 0x10342, 0x1034A, 0x1034B, 0x103D1, 0x103D6,
  0x12400, 0x1246F]

/-- Bounds of the other numbers (`No`). -/
def otherNumbers : List Nat := [
  0xB2, 0xB4, 0xB9, 0xBA, 0xBC, 0xBF, 0x9F4, 0x9FA, 0xB72, 0xB78, 0xBF0, 0xBF3, 0xC78, 0xC7F,
  0xD58, 0xD5F, 0xD70, 0xD79, 0xF2A, 0xF34, 0x1369, 0x137D, 0x17F0, 0x17FA, 0x19DA, 0x19DB,
  0x2070, 0x2071, 0x2074, 0x207A, 0x2080, 0x208A, 0x2150, 0x2160, 0x2189, 0x218A, 0x2460, 0x249C,
  0x24EA, 0x2500, 0x2776, 0x2794, 0x2CFD, 0x2CFE, 0x3192, 0x3196, 0x3220, 0x322A, 0x3248, 0x3250,
  0x3251, 0x3260, 0x3280, 0x328A, 0x32B1, 0x32C0, 0xA830, 0xA836, 0x10107, 0x10134, 0x10175,
  0x10179, 0x1018A, 0x1018C, 0x102E1, 0x102FC, 0x10320, 0x10324, 0x10858, 0x10860, 0x10879,
  0x10880, 0x108A7, 0x108B0, 0x108FB, 0x10900, 0x10916, 0x1091C, 0x109BC, 0x109BE, 0x109C0,
  0x109D0, 0x109D2, 0x10A00, 0x10A40, 0x10A49, 0x10A7D, 0x10A7F, 0x10A9D, 0x10AA0, 0x10AEB,
  0x10AF0, 0x10B58, 0x10B60, 0x10B78, 0x10B80, 0x10BA9, 0x10BB0, 0x10CFA, 0x10D00, 0x10E60,
  0x10E7F, 0x10F1D, 0x10F27, 0x10F51, 0x10F55, 0x10FC5, 0x10FCC, 0x11052, 0x11066, 0x111E1,
  0x111F5, 0x1173A, 0x1173C, 0x118EA, 0x118F3, 0x11C5A, 0x11C6D, 0x11FC0, 0x11FD5, 0x16B5B,
  0x16B62, 0x16E80, 0x16E97, 0x1D2C0, 0x1D2D4, 0x1D2E0, 0x1D2F4, 0x1D360, 0x1D379, 0x1E8C7,
  0x1E8D0, 0x1EC71, 0x1ECAC, 0x1ECAD, 0x1ECB0, 0x1ECB1, 0x1ECB5, 0x1ED01, 0x1ED2E, 0x1ED2F,
  0x1ED3E, 0x1F100, 0x1F10D]

end ClientGen.Unicode.MarkTable
