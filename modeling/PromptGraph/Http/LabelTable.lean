/-!
# `PromptGraph.Http.LabelTable` — the characters of international host names

Each class of characters is the list of code points at which membership changes, in increasing order: a code point
is in the class when an odd number of changes lies at or before it.

## Contents
- **Classes.** `isMember`; `labelTurns`, `markTurns`, and the classes that decide on direction, joiners, context and
  final letters.
- **Composition.** `combiningClass`: the place of a mark among the marks of a letter; `compositions`: for each mark
  the letters with which it has a composed form.
-/

namespace PromptGraph.Http

/-! ## Classes -/

/-- Whether a code point is in a class. -/
def isMember (turns : List Nat) (c : Char) : Bool := (turns.takeWhile (· ≤ c.toNat)).length % 2 == 1

/-- The characters of labels; capitals, which have no place in a label in lower case, may count as either. -/
def labelTurns : List Nat :=
  [
   0x2D, 0x2E, 0x30, 0x3A, 0x61, 0x7B, 0xDF, 0xF7, 0xF8, 0x132, 0x135, 0x13F, 0x142, 0x149, 0x14B, 0x17F, 0x180,
   0x1C4, 0x1CE, 0x1F1, 0x1F5, 0x2B0, 0x2B9, 0x2C2, 0x2C6, 0x2D2, 0x2EC, 0x2ED, 0x2EE, 0x2EF, 0x300, 0x340, 0x342,
   0x343, 0x346, 0x34F, 0x350, 0x374, 0x377, 0x378, 0x37B, 0x37E, 0x390, 0x391, 0x3AC, 0x3CF, 0x3D7, 0x3F0, 0x3F3,
   0x3F4, 0x3F8, 0x482, 0x483, 0x488, 0x48B, 0x530, 0x559, 0x55A, 0x560, 0x587, 0x588, 0x589, 0x591, 0x5BE, 0x5BF,
   0x5C0, 0x5C1, 0x5C3, 0x5C4, 0x5C6, 0x5C7, 0x5C8, 0x5D0, 0x5EB, 0x5EF, 0x5F3, 0x610, 0x61B, 0x620, 0x640, 0x641,
   0x660, 0x66E, 0x675, 0x679, 0x6D4, 0x6D5, 0x6DD, 0x6DF, 0x6E9, 0x6EA, 0x6F0, 0x6FA, 0x700, 0x710, 0x74B, 0x74D,
   0x7B2, 0x7C0, 0x7F6, 0x7FD, 0x7FE, 0x800, 0x82E, 0x840, 0x85C, 0x860, 0x86B, 0x870, 0x888, 0x889, 0x88F, 0x898,
   0x8E2, 0x8E3, 0x958, 0x960, 0x964, 0x966, 0x970, 0x971, 0x984, 0x985, 0x98D, 0x98F, 0x991, 0x993, 0x9A9, 0x9AA,
   0x9B1, 0x9B2, 0x9B3, 0x9B6, 0x9BA, 0x9BC, 0x9C5, 0x9C7, 0x9C9, 0x9CB, 0x9CF, 0x9D7, 0x9D8, 0x9E0, 0x9E4, 0x9E6,
   0x9F2, 0x9FC, 0x9FD, 0x9FE, 0x9FF, 0xA01, 0xA04, 0xA05, 0xA0B, 0xA0F, 0xA11, 0xA13, 0xA29, 0xA2A, 0xA31, 0xA32,
   0xA33, 0xA35, 0xA36, 0xA38, 0xA3A, 0xA3C, 0xA3D, 0xA3E, 0xA43, 0xA47, 0xA49, 0xA4B, 0xA4E, 0xA51, 0xA52, 0xA5C,
   0xA5D, 0xA66, 0xA76, 0xA81, 0xA84, 0xA85, 0xA8E, 0xA8F, 0xA92, 0xA93, 0xAA9, 0xAAA, 0xAB1, 0xAB2, 0xAB4, 0xAB5,
   0xABA, 0xABC, 0xAC6, 0xAC7, 0xACA, 0xACB, 0xACE, 0xAD0, 0xAD1, 0xAE0, 0xAE4, 0xAE6, 0xAF0, 0xAF9, 0xB00, 0xB01,
   0xB04, 0xB05, 0xB0D, 0xB0F, 0xB11, 0xB13, 0xB29, 0xB2A, 0xB31, 0xB32, 0xB34, 0xB35, 0xB3A, 0xB3C, 0xB45, 0xB47,
   0xB49, 0xB4B, 0xB4E, 0xB55, 0xB58, 0xB5F, 0xB64, 0xB66, 0xB70, 0xB71, 0xB72, 0xB82, 0xB84, 0xB85, 0xB8B, 0xB8E,
   0xB91, 0xB92, 0xB96, 0xB99, 0xB9B, 0xB9C, 0xB9D, 0xB9E, 0xBA0, 0xBA3, 0xBA5, 0xBA8, 0xBAB, 0xBAE, 0xBBA, 0xBBE,
   0xBC3, 0xBC6, 0xBC9, 0xBCA, 0xBCE, 0xBD0, 0xBD1, 0xBD7, 0xBD8, 0xBE6, 0xBF0, 0xC00, 0xC0D, 0xC0E, 0xC11, 0xC12,
   0xC29, 0xC2A, 0xC3A, 0xC3C, 0xC45, 0xC46, 0xC49, 0xC4A, 0xC4E, 0xC55, 0xC57, 0xC58, 0xC5B, 0xC5D, 0xC5E, 0xC60,
   0xC64, 0xC66, 0xC70, 0xC80, 0xC84, 0xC85, 0xC8D, 0xC8E, 0xC91, 0xC92, 0xCA9, 0xCAA, 0xCB4, 0xCB5, 0xCBA, 0xCBC,
   0xCC5, 0xCC6, 0xCC9, 0xCCA, 0xCCE, 0xCD5, 0xCD7, 0xCDD, 0xCDF, 0xCE0, 0xCE4, 0xCE6, 0xCF0, 0xCF1, 0xCF3, 0xD00,
   0xD0D, 0xD0E, 0xD11, 0xD12, 0xD45, 0xD46, 0xD49, 0xD4A, 0xD4F, 0xD54, 0xD58, 0xD5F, 0xD64, 0xD66, 0xD70, 0xD7A,
   0xD80, 0xD81, 0xD84, 0xD85, 0xD97, 0xD9A, 0xDB2, 0xDB3, 0xDBC, 0xDBD, 0xDBE, 0xDC0, 0xDC7, 0xDCA, 0xDCB, 0xDCF,
   0xDD5, 0xDD6, 0xDD7, 0xDD8, 0xDE0, 0xDE6, 0xDF0, 0xDF2, 0xDF4, 0xE01, 0xE33, 0xE34, 0xE3B, 0xE40, 0xE4F, 0xE50,
   0xE5A, 0xE81, 0xE83, 0xE84, 0xE85, 0xE86, 0xE8B, 0xE8C, 0xEA4, 0xEA5, 0xEA6, 0xEA7, 0xEB3, 0xEB4, 0xEBE, 0xEC0,
   0xEC5, 0xEC6, 0xEC7, 0xEC8, 0xECE, 0xED0, 0xEDA, 0xEDE, 0xEE0, 0xF00, 0xF01, 0xF0B, 0xF0C, 0xF18, 0xF1A, 0xF20,
   0xF2A, 0xF35, 0xF36, 0xF37, 0xF38, 0xF39, 0xF3A, 0xF3E, 0xF43, 0xF44, 0xF48, 0xF49, 0xF4D, 0xF4E, 0xF52, 0xF53,
   0xF57, 0xF58, 0xF5C, 0xF5D, 0xF69, 0xF6A, 0xF6D, 0xF71, 0xF73, 0xF74, 0xF75, 0xF7A, 0xF81, 0xF82, 0xF85, 0xF86,
   0xF93, 0xF94, 0xF98, 0xF99, 0xF9D, 0xF9E, 0xFA2, 0xFA3, 0xFA7, 0xFA8, 0xFAC, 0xFAD, 0xFB9, 0xFBA, 0xFBD, 0xFC6,
   0xFC7, 0x1000, 0x104A, 0x1050, 0x109E, 0x10D0, 0x10FB, 0x10FD, 0x1100, 0x1200, 0x1249, 0x124A, 0x124E, 0x1250,
   0x1257, 0x1258, 0x1259, 0x125A, 0x125E, 0x1260, 0x1289, 0x128A, 0x128E, 0x1290, 0x12B1, 0x12B2, 0x12B6, 0x12B8,
   0x12BF, 0x12C0, 0x12C1, 0x12C2, 0x12C6, 0x12C8, 0x12D7, 0x12D8, 0x1311, 0x1312, 0x1316, 0x1318, 0x135B, 0x135D,
   0x1360, 0x1380, 0x1390, 0x13A0, 0x13F6, 0x1401, 0x166D, 0x166F, 0x1680, 0x1681, 0x169B, 0x16A0, 0x16EB, 0x16F1,
   0x16F9, 0x1700, 0x1716, 0x171F, 0x1735, 0x1740, 0x1754, 0x1760, 0x176D, 0x176E, 0x1771, 0x1772, 0x1774, 0x1780,
   0x17B4, 0x17B6, 0x17D4, 0x17D7, 0x17D8, 0x17DC, 0x17DE, 0x17E0, 0x17EA, 0x1810, 0x181A, 0x1820, 0x1879, 0x1880,
   0x18AB, 0x18B0, 0x18F6, 0x1900, 0x191F, 0x1920, 0x192C, 0x1930, 0x193C, 0x1946, 0x196E, 0x1970, 0x1975, 0x1980,
   0x19AC, 0x19B0, 0x19CA, 0x19D0, 0x19DA, 0x1A00, 0x1A1C, 0x1A20, 0x1A5F, 0x1A60, 0x1A7D, 0x1A7F, 0x1A8A, 0x1A90,
   0x1A9A, 0x1AA7, 0x1AA8, 0x1AB0, 0x1ABE, 0x1ABF, 0x1ACF, 0x1B00, 0x1B4D, 0x1B50, 0x1B5A, 0x1B6B, 0x1B74, 0x1B80,
   0x1BF4, 0x1C00, 0x1C38, 0x1C40, 0x1C4A, 0x1C4D, 0x1C7E, 0x1CD0, 0x1CD3, 0x1CD4, 0x1CFB, 0x1D00, 0x1D2C, 0x1D2F,
   0x1D30, 0x1D3B, 0x1D3C, 0x1D4E, 0x1D4F, 0x1D6B, 0x1D78, 0x1D79, 0x1D9B, 0x1DC0, 0x1E9A, 0x1E9C, 0x1F16, 0x1F20,
   0x1F46, 0x1F50, 0x1F58, 0x1F60, 0x1F71, 0x1F72, 0x1F73, 0x1F74, 0x1F75, 0x1F76, 0x1F77, 0x1F78, 0x1F79, 0x1F7A,
   0x1F7B, 0x1F7C, 0x1F7D, 0x1FB0, 0x1FB2, 0x1FB6, 0x1FB7, 0x1FC6, 0x1FC7, 0x1FD0, 0x1FD3, 0x1FD6, 0x1FD8, 0x1FE0,
   0x1FE3, 0x1FE4, 0x1FE8, 0x1FF6, 0x1FF7, 0x214E, 0x214F, 0x2184, 0x2185, 0x2C30, 0x2C7C, 0x2C81, 0x2CE5, 0x2CEC,
   0x2CF4, 0x2D00, 0x2D26, 0x2D27, 0x2D28, 0x2D2D, 0x2D2E, 0x2D30, 0x2D68, 0x2D7F, 0x2D97, 0x2DA0, 0x2DA7, 0x2DA8,
   0x2DAF, 0x2DB0, 0x2DB7, 0x2DB8, 0x2DBF, 0x2DC0, 0x2DC7, 0x2DC8, 0x2DCF, 0x2DD0, 0x2DD7, 0x2DD8, 0x2DDF, 0x2DE0,
   0x2E00, 0x2E2F, 0x2E30, 0x3005, 0x3008, 0x302A, 0x302E, 0x303C, 0x303D, 0x3041, 0x3097, 0x3099, 0x309B, 0x309D,
   0x309F, 0x30A1, 0x30FB, 0x30FC, 0x30FF, 0x3105, 0x3130, 0x31A0, 0x31C0, 0x31F0, 0x3200, 0x3400, 0x4DC0, 0x4E00,
   0xA48D, 0xA4D0, 0xA4FE, 0xA500, 0xA60D, 0xA610, 0xA62C, 0xA641, 0xA670, 0xA674, 0xA67E, 0xA67F, 0xA69C, 0xA69E,
   0xA6E6, 0xA6F0, 0xA6F2, 0xA717, 0xA720, 0xA723, 0xA770, 0xA771, 0xA789, 0xA78C, 0xA7CB, 0xA7D1, 0xA7D2, 0xA7D3,
   0xA7D4, 0xA7D5, 0xA7DA, 0xA7F6, 0xA7F8, 0xA7FA, 0xA828, 0xA82C, 0xA82D, 0xA840, 0xA874, 0xA880, 0xA8C6, 0xA8D0,
   0xA8DA, 0xA8E0, 0xA8F8, 0xA8FB, 0xA8FC, 0xA8FD, 0xA92E, 0xA930, 0xA954, 0xA980, 0xA9C1, 0xA9CF, 0xA9DA, 0xA9E0,
   0xA9FF, 0xAA00, 0xAA37, 0xAA40, 0xAA4E, 0xAA50, 0xAA5A, 0xAA60, 0xAA77, 0xAA7A, 0xAAC3, 0xAADB, 0xAADE, 0xAAE0,
   0xAAF0, 0xAAF2, 0xAAF7, 0xAB01, 0xAB07, 0xAB09, 0xAB0F, 0xAB11, 0xAB17, 0xAB20, 0xAB27, 0xAB28, 0xAB2F, 0xAB30,
   0xAB5B, 0xAB60, 0xAB69, 0xABC0, 0xABEB, 0xABEC, 0xABEE, 0xABF0, 0xABFA, 0xAC00, 0xD7A4, 0xFA0E, 0xFA10, 0xFA11,
   0xFA12, 0xFA13, 0xFA15, 0xFA1F, 0xFA20, 0xFA21, 0xFA22, 0xFA23, 0xFA25, 0xFA27, 0xFA2A, 0xFB1E, 0xFB1F, 0xFE20,
   0xFE30, 0xFE73, 0xFE74, 0x10000, 0x1000C, 0x1000D, 0x10027, 0x10028, 0x1003B, 0x1003C, 0x1003E, 0x1003F,
   0x1004E, 0x10050, 0x1005E, 0x10080, 0x100FB, 0x101FD, 0x101FE, 0x10280, 0x1029D, 0x102A0, 0x102D1, 0x102E0,
   0x102E1, 0x10300, 0x10320, 0x1032D, 0x10341, 0x10342, 0x1034A, 0x10350, 0x1037B, 0x10380, 0x1039E, 0x103A0,
   0x103C4, 0x103C8, 0x103D0, 0x10428, 0x1049E, 0x104A0, 0x104AA, 0x104D8, 0x104FC, 0x10500, 0x10528, 0x10530,
   0x10564, 0x10597, 0x105A2, 0x105A3, 0x105B2, 0x105B3, 0x105BA, 0x105BB, 0x105BD, 0x10600, 0x10737, 0x10740,
   0x10756, 0x10760, 0x10768, 0x10780, 0x10781, 0x10800, 0x10806, 0x10808, 0x10809, 0x1080A, 0x10836, 0x10837,
   0x10839, 0x1083C, 0x1083D, 0x1083F, 0x10856, 0x10860, 0x10877, 0x10880, 0x1089F, 0x108E0, 0x108F3, 0x108F4,
   0x108F6, 0x10900, 0x10916, 0x10920, 0x1093A, 0x10980, 0x109B8, 0x109BE, 0x109C0, 0x10A00, 0x10A04, 0x10A05,
   0x10A07, 0x10A0C, 0x10A14, 0x10A15, 0x10A18, 0x10A19, 0x10A36, 0x10A38, 0x10A3B, 0x10A3F, 0x10A40, 0x10A60,
   0x10A7D, 0x10A80, 0x10A9D, 0x10AC0, 0x10AC8, 0x10AC9, 0x10AE7, 0x10B00, 0x10B36, 0x10B40, 0x10B56, 0x10B60,
   0x10B73, 0x10B80, 0x10B92, 0x10C00, 0x10C49, 0x10CC0, 0x10CF3, 0x10D00, 0x10D28, 0x10D30, 0x10D3A, 0x10E80,
   0x10EAA, 0x10EAB, 0x10EAD, 0x10EB0, 0x10EB2, 0x10F00, 0x10F1D, 0x10F27, 0x10F28, 0x10F30, 0x10F51, 0x10F70,
   0x10F86, 0x10FB0, 0x10FC5, 0x10FE0, 0x10FF7, 0x11000, 0x11047, 0x11066, 0x11076, 0x1107F, 0x110BB, 0x110C2,
   0x110C3, 0x110D0, 0x110E9, 0x110F0, 0x110FA, 0x11100, 0x11135, 0x11136, 0x11140, 0x11144, 0x11148, 0x11150,
   0x11174, 0x11176, 0x11177, 0x11180, 0x111C5, 0x111C9, 0x111CD, 0x111CE, 0x111DB, 0x111DC, 0x111DD, 0x11200,
   0x11212, 0x11213, 0x11238, 0x1123E, 0x1123F, 0x11280, 0x11287, 0x11288, 0x11289, 0x1128A, 0x1128E, 0x1128F,
   0x1129E, 0x1129F, 0x112A9, 0x112B0, 0x112EB, 0x112F0, 0x112FA, 0x11300, 0x11304, 0x11305, 0x1130D, 0x1130F,
   0x11311, 0x11313, 0x11329, 0x1132A, 0x11331, 0x11332, 0x11334, 0x11335, 0x1133A, 0x1133B, 0x11345, 0x11347,
   0x11349, 0x1134B, 0x1134E, 0x11350, 0x11351, 0x11357, 0x11358, 0x1135D, 0x11364, 0x11366, 0x1136D, 0x11370,
   0x11375, 0x11400, 0x1144B, 0x11450, 0x1145A, 0x1145E, 0x11462, 0x11480, 0x114C6, 0x114C7, 0x114C8, 0x114D0,
   0x114DA, 0x11580, 0x115B6, 0x115B8, 0x115C1, 0x115D8, 0x115DE, 0x11600, 0x11641, 0x11644, 0x11645, 0x11650,
   0x1165A, 0x11680, 0x116B9, 0x116C0, 0x116CA, 0x11700, 0x1171B, 0x1171D, 0x1172C, 0x11730, 0x1173A, 0x11740,
   0x11747, 0x11800, 0x1183B, 0x118C0, 0x118EA, 0x118FF, 0x11907, 0x11909, 0x1190A, 0x1190C, 0x11914, 0x11915,
   0x11917, 0x11918, 0x11936, 0x11937, 0x11939, 0x1193B, 0x11944, 0x11950, 0x1195A, 0x119A0, 0x119A8, 0x119AA,
   0x119D8, 0x119DA, 0x119E2, 0x119E3, 0x119E5, 0x11A00, 0x11A3F, 0x11A47, 0x11A48, 0x11A50, 0x11A9A, 0x11A9D,
   0x11A9E, 0x11AB0, 0x11AF9, 0x11C00, 0x11C09, 0x11C0A, 0x11C37, 0x11C38, 0x11C41, 0x11C50, 0x11C5A, 0x11C72,
   0x11C90, 0x11C92, 0x11CA8, 0x11CA9, 0x11CB7, 0x11D00, 0x11D07, 0x11D08, 0x11D0A, 0x11D0B, 0x11D37, 0x11D3A,
   0x11D3B, 0x11D3C, 0x11D3E, 0x11D3F, 0x11D48, 0x11D50, 0x11D5A, 0x11D60, 0x11D66, 0x11D67, 0x11D69, 0x11D6A,
   0x11D8F, 0x11D90, 0x11D92, 0x11D93, 0x11D99, 0x11DA0, 0x11DAA, 0x11EE0, 0x11EF7, 0x11FB0, 0x11FB1, 0x12000,
   0x1239A, 0x12480, 0x12544, 0x12F90, 0x12FF1, 0x13000, 0x1342F, 0x14400, 0x14647, 0x16800, 0x16A39, 0x16A40,
   0x16A5F, 0x16A60, 0x16A6A, 0x16A70, 0x16ABF, 0x16AC0, 0x16ACA, 0x16AD0, 0x16AEE, 0x16AF0, 0x16AF5, 0x16B00,
   0x16B37, 0x16B40, 0x16B44, 0x16B50, 0x16B5A, 0x16B63, 0x16B78, 0x16B7D, 0x16B90, 0x16E60, 0x16E80, 0x16F00,
   0x16F4B, 0x16F4F, 0x16F88, 0x16F8F, 0x16FA0, 0x16FE0, 0x16FE2, 0x16FE3, 0x16FE5, 0x16FF0, 0x16FF2, 0x17000,
   0x187F8, 0x18800, 0x18CD6, 0x18D00, 0x18D09, 0x1AFF0, 0x1AFF4, 0x1AFF5, 0x1AFFC, 0x1AFFD, 0x1AFFF, 0x1B000,
   0x1B123, 0x1B150, 0x1B153, 0x1B164, 0x1B168, 0x1B170, 0x1B2FC, 0x1BC00, 0x1BC6B, 0x1BC70, 0x1BC7D, 0x1BC80,
   0x1BC89, 0x1BC90, 0x1BC9A, 0x1BC9D, 0x1BC9F, 0x1CF00, 0x1CF2E, 0x1CF30, 0x1CF47, 0x1DA00, 0x1DA37, 0x1DA3B,
   0x1DA6D, 0x1DA75, 0x1DA76, 0x1DA84, 0x1DA85, 0x1DA9B, 0x1DAA0, 0x1DAA1, 0x1DAB0, 0x1DF00, 0x1DF1F, 0x1E000,
   0x1E007, 0x1E008, 0x1E019, 0x1E01B, 0x1E022, 0x1E023, 0x1E025, 0x1E026, 0x1E02B, 0x1E100, 0x1E12D, 0x1E130,
   0x1E13E, 0x1E140, 0x1E14A, 0x1E14E, 0x1E14F, 0x1E290, 0x1E2AF, 0x1E2C0, 0x1E2FA, 0x1E7E0, 0x1E7E7, 0x1E7E8,
   0x1E7EC, 0x1E7ED, 0x1E7EF, 0x1E7F0, 0x1E7FF, 0x1E800, 0x1E8C5, 0x1E8D0, 0x1E8D7, 0x1E922, 0x1E94C, 0x1E950,
   0x1E95A, 0x20000, 0x2A6E0, 0x2A700, 0x2B739, 0x2B740, 0x2B81E, 0x2B820, 0x2CEA2, 0x2CEB0, 0x2EBE1, 0x30000,
   0x3134B]

/-- The marks that combine with the character before them. -/
def markTurns : List Nat :=
  [
   0x300, 0x340, 0x342, 0x343, 0x346, 0x34F, 0x350, 0x370, 0x483, 0x488, 0x591, 0x5BE, 0x5BF, 0x5C0, 0x5C1, 0x5C3,
   0x5C4, 0x5C6, 0x5C7, 0x5C8, 0x610, 0x61B, 0x64B, 0x660, 0x670, 0x671, 0x6D6, 0x6DD, 0x6DF, 0x6E5, 0x6E7, 0x6E9,
   0x6EA, 0x6EE, 0x711, 0x712, 0x730, 0x74B, 0x7A6, 0x7B1, 0x7EB, 0x7F4, 0x7FD, 0x7FE, 0x816, 0x81A, 0x81B, 0x824,
   0x825, 0x828, 0x829, 0x82E, 0x859, 0x85C, 0x898, 0x8A0, 0x8CA, 0x8E2, 0x8E3, 0x904, 0x93A, 0x93D, 0x93E, 0x950,
   0x951, 0x958, 0x962, 0x964, 0x981, 0x984, 0x9BC, 0x9BD, 0x9BE, 0x9C5, 0x9C7, 0x9C9, 0x9CB, 0x9CE, 0x9D7, 0x9D8,
   0x9E2, 0x9E4, 0x9FE, 0x9FF, 0xA01, 0xA04, 0xA3C, 0xA3D, 0xA3E, 0xA43, 0xA47, 0xA49, 0xA4B, 0xA4E, 0xA51, 0xA52,
   0xA70, 0xA72, 0xA75, 0xA76, 0xA81, 0xA84, 0xABC, 0xABD, 0xABE, 0xAC6, 0xAC7, 0xACA, 0xACB, 0xACE, 0xAE2, 0xAE4,
   0xAFA, 0xB00, 0xB01, 0xB04, 0xB3C, 0xB3D, 0xB3E, 0xB45, 0xB47, 0xB49, 0xB4B, 0xB4E, 0xB55, 0xB58, 0xB62, 0xB64,
   0xB82, 0xB83, 0xBBE, 0xBC3, 0xBC6, 0xBC9, 0xBCA, 0xBCE, 0xBD7, 0xBD8, 0xC00, 0xC05, 0xC3C, 0xC3D, 0xC3E, 0xC45,
   0xC46, 0xC49, 0xC4A, 0xC4E, 0xC55, 0xC57, 0xC62, 0xC64, 0xC81, 0xC84, 0xCBC, 0xCBD, 0xCBE, 0xCC5, 0xCC6, 0xCC9,
   0xCCA, 0xCCE, 0xCD5, 0xCD7, 0xCE2, 0xCE4, 0xD00, 0xD04, 0xD3B, 0xD3D, 0xD3E, 0xD45, 0xD46, 0xD49, 0xD4A, 0xD4E,
   0xD57, 0xD58, 0xD62, 0xD64, 0xD81, 0xD84, 0xDCA, 0xDCB, 0xDCF, 0xDD5, 0xDD6, 0xDD7, 0xDD8, 0xDE0, 0xDF2, 0xDF4,
   0xE31, 0xE32, 0xE34, 0xE3B, 0xE47, 0xE4F, 0xEB1, 0xEB2, 0xEB4, 0xEBD, 0xEC8, 0xECE, 0xF18, 0xF1A, 0xF35, 0xF36,
   0xF37, 0xF38, 0xF39, 0xF3A, 0xF3E, 0xF40, 0xF71, 0xF73, 0xF74, 0xF75, 0xF7A, 0xF81, 0xF82, 0xF85, 0xF86, 0xF88,
   0xF8D, 0xF93, 0xF94, 0xF98, 0xF99, 0xF9D, 0xF9E, 0xFA2, 0xFA3, 0xFA7, 0xFA8, 0xFAC, 0xFAD, 0xFB9, 0xFBA, 0xFBD,
   0xFC6, 0xFC7, 0x102B, 0x103F, 0x1056, 0x105A, 0x105E, 0x1061, 0x1062, 0x1065, 0x1067, 0x106E, 0x1071, 0x1075,
   0x1082, 0x108E, 0x108F, 0x1090, 0x109A, 0x109E, 0x135D, 0x1360, 0x1712, 0x1716, 0x1732, 0x1735, 0x1752, 0x1754,
   0x1772, 0x1774, 0x17B6, 0x17D4, 0x17DD, 0x17DE, 0x1885, 0x1887, 0x18A9, 0x18AA, 0x1920, 0x192C, 0x1930, 0x193C,
   0x1A17, 0x1A1C, 0x1A55, 0x1A5F, 0x1A60, 0x1A7D, 0x1A7F, 0x1A80, 0x1AB0, 0x1ABE, 0x1ABF, 0x1ACF, 0x1B00, 0x1B05,
   0x1B34, 0x1B45, 0x1B6B, 0x1B74, 0x1B80, 0x1B83, 0x1BA1, 0x1BAE, 0x1BE6, 0x1BF4, 0x1C24, 0x1C38, 0x1CD0, 0x1CD3,
   0x1CD4, 0x1CE9, 0x1CED, 0x1CEE, 0x1CF4, 0x1CF5, 0x1CF7, 0x1CFA, 0x1DC0, 0x1E00, 0x2CEF, 0x2CF2, 0x2D7F, 0x2D80,
   0x2DE0, 0x2E00, 0x302A, 0x302E, 0x3099, 0x309B, 0xA66F, 0xA670, 0xA674, 0xA67E, 0xA69E, 0xA6A0, 0xA6F0, 0xA6F2,
   0xA802, 0xA803, 0xA806, 0xA807, 0xA80B, 0xA80C, 0xA823, 0xA828, 0xA82C, 0xA82D, 0xA880, 0xA882, 0xA8B4, 0xA8C6,
   0xA8E0, 0xA8F2, 0xA8FF, 0xA900, 0xA926, 0xA92E, 0xA947, 0xA954, 0xA980, 0xA984, 0xA9B3, 0xA9C1, 0xA9E5, 0xA9E6,
   0xAA29, 0xAA37, 0xAA43, 0xAA44, 0xAA4C, 0xAA4E, 0xAA7B, 0xAA7E, 0xAAB0, 0xAAB1, 0xAAB2, 0xAAB5, 0xAAB7, 0xAAB9,
   0xAABE, 0xAAC0, 0xAAC1, 0xAAC2, 0xAAEB, 0xAAF0, 0xAAF5, 0xAAF7, 0xABE3, 0xABEB, 0xABEC, 0xABEE, 0xFB1E, 0xFB1F,
   0xFE20, 0xFE30, 0x101FD, 0x101FE, 0x102E0, 0x102E1, 0x10376, 0x1037B, 0x10A01, 0x10A04, 0x10A05, 0x10A07,
   0x10A0C, 0x10A10, 0x10A38, 0x10A3B, 0x10A3F, 0x10A40, 0x10AE5, 0x10AE7, 0x10D24, 0x10D28, 0x10EAB, 0x10EAD,
   0x10F46, 0x10F51, 0x10F82, 0x10F86, 0x11000, 0x11003, 0x11038, 0x11047, 0x11070, 0x11071, 0x11073, 0x11075,
   0x1107F, 0x11083, 0x110B0, 0x110BB, 0x110C2, 0x110C3, 0x11100, 0x11103, 0x11127, 0x11135, 0x11145, 0x11147,
   0x11173, 0x11174, 0x11180, 0x11183, 0x111B3, 0x111C1, 0x111C9, 0x111CD, 0x111CE, 0x111D0, 0x1122C, 0x11238,
   0x1123E, 0x1123F, 0x112DF, 0x112EB, 0x11300, 0x11304, 0x1133B, 0x1133D, 0x1133E, 0x11345, 0x11347, 0x11349,
   0x1134B, 0x1134E, 0x11357, 0x11358, 0x11362, 0x11364, 0x11366, 0x1136D, 0x11370, 0x11375, 0x11435, 0x11447,
   0x1145E, 0x1145F, 0x114B0, 0x114C4, 0x115AF, 0x115B6, 0x115B8, 0x115C1, 0x115DC, 0x115DE, 0x11630, 0x11641,
   0x116AB, 0x116B8, 0x1171D, 0x1172C, 0x1182C, 0x1183B, 0x11930, 0x11936, 0x11937, 0x11939, 0x1193B, 0x1193F,
   0x11940, 0x11941, 0x11942, 0x11944, 0x119D1, 0x119D8, 0x119DA, 0x119E1, 0x119E4, 0x119E5, 0x11A01, 0x11A0B,
   0x11A33, 0x11A3A, 0x11A3B, 0x11A3F, 0x11A47, 0x11A48, 0x11A51, 0x11A5C, 0x11A8A, 0x11A9A, 0x11C2F, 0x11C37,
   0x11C38, 0x11C40, 0x11C92, 0x11CA8, 0x11CA9, 0x11CB7, 0x11D31, 0x11D37, 0x11D3A, 0x11D3B, 0x11D3C, 0x11D3E,
   0x11D3F, 0x11D46, 0x11D47, 0x11D48, 0x11D8A, 0x11D8F, 0x11D90, 0x11D92, 0x11D93, 0x11D98, 0x11EF3, 0x11EF7,
   0x16AF0, 0x16AF5, 0x16B30, 0x16B37, 0x16F4F, 0x16F50, 0x16F51, 0x16F88, 0x16F8F, 0x16F93, 0x16FE4, 0x16FE5,
   0x16FF0, 0x16FF2, 0x1BC9D, 0x1BC9F, 0x1CF00, 0x1CF2E, 0x1CF30, 0x1CF47, 0x1DA00, 0x1DA37, 0x1DA3B, 0x1DA6D,
   0x1DA75, 0x1DA76, 0x1DA84, 0x1DA85, 0x1DA9B, 0x1DAA0, 0x1DAA1, 0x1DAB0, 0x1E000, 0x1E007, 0x1E008, 0x1E019,
   0x1E01B, 0x1E022, 0x1E023, 0x1E025, 0x1E026, 0x1E02B, 0x1E130, 0x1E137, 0x1E2AE, 0x1E2AF, 0x1E2EC, 0x1E2F0,
   0x1E8D0, 0x1E8D7, 0x1E944, 0x1E94B]

/-- The marks that take room of their own. -/
def spacingTurns : List Nat :=
  [
   0x903, 0x93A, 0x93B, 0x93C, 0x93E, 0x941, 0x949, 0x94D, 0x94E, 0x951, 0x982, 0x9BC, 0x9BE, 0x9C1, 0x9C7, 0x9CD,
   0x9D7, 0x9E2, 0xA03, 0xA3C, 0xA3E, 0xA41, 0xA83, 0xABC, 0xABE, 0xAC1, 0xAC9, 0xACD, 0xB02, 0xB3C, 0xB3E, 0xB3F,
   0xB40, 0xB41, 0xB47, 0xB4D, 0xB57, 0xB62, 0xBBE, 0xBC0, 0xBC1, 0xBCD, 0xBD7, 0xC00, 0xC01, 0xC04, 0xC41, 0xC46,
   0xC82, 0xCBC, 0xCBE, 0xCCC, 0xCD5, 0xCE2, 0xD02, 0xD3B, 0xD3E, 0xD41, 0xD46, 0xD4D, 0xD57, 0xD62, 0xD82, 0xDCA,
   0xDCF, 0xDD2, 0xDD8, 0xE31, 0xF3E, 0xF71, 0xF7F, 0xF80, 0x102B, 0x102D, 0x1031, 0x1032, 0x1038, 0x1039, 0x103B,
   0x103D, 0x1056, 0x1058, 0x1062, 0x1071, 0x1083, 0x1085, 0x1087, 0x108D, 0x108F, 0x109D, 0x1715, 0x1732, 0x1734,
   0x1752, 0x17B6, 0x17B7, 0x17BE, 0x17C6, 0x17C7, 0x17C9, 0x1923, 0x1927, 0x1929, 0x1932, 0x1933, 0x1939, 0x1A19,
   0x1A1B, 0x1A55, 0x1A56, 0x1A57, 0x1A58, 0x1A61, 0x1A62, 0x1A63, 0x1A65, 0x1A6D, 0x1A73, 0x1B04, 0x1B34, 0x1B35,
   0x1B36, 0x1B3B, 0x1B3C, 0x1B3D, 0x1B42, 0x1B43, 0x1B6B, 0x1B82, 0x1BA2, 0x1BA6, 0x1BA8, 0x1BAA, 0x1BAB, 0x1BE7,
   0x1BE8, 0x1BEA, 0x1BED, 0x1BEE, 0x1BEF, 0x1BF2, 0x1C2C, 0x1C34, 0x1C36, 0x1CE1, 0x1CE2, 0x1CF7, 0x1CF8, 0xA823,
   0xA825, 0xA827, 0xA82C, 0xA880, 0xA8C4, 0xA952, 0xA980, 0xA983, 0xA9B3, 0xA9B4, 0xA9B6, 0xA9BA, 0xA9BC, 0xA9BE,
   0xA9E5, 0xAA2F, 0xAA31, 0xAA33, 0xAA35, 0xAA4D, 0xAA7C, 0xAA7D, 0xAAB0, 0xAAEB, 0xAAEC, 0xAAEE, 0xAAF6, 0xABE3,
   0xABE5, 0xABE6, 0xABE8, 0xABE9, 0xABED, 0x11000, 0x11001, 0x11002, 0x11038, 0x11082, 0x110B3, 0x110B7, 0x110B9,
   0x1112C, 0x1112D, 0x11145, 0x11173, 0x11182, 0x111B6, 0x111BF, 0x111C9, 0x111CE, 0x111CF, 0x1122C, 0x1122F,
   0x11232, 0x11234, 0x11235, 0x11236, 0x112E0, 0x112E3, 0x11302, 0x1133B, 0x1133E, 0x11340, 0x11341, 0x11366,
   0x11435, 0x11438, 0x11440, 0x11442, 0x11445, 0x11446, 0x114B0, 0x114B3, 0x114B9, 0x114BA, 0x114BB, 0x114BF,
   0x114C1, 0x114C2, 0x115AF, 0x115B2, 0x115B8, 0x115BC, 0x115BE, 0x115BF, 0x11630, 0x11633, 0x1163B, 0x1163D,
   0x1163E, 0x1163F, 0x116AC, 0x116AD, 0x116AE, 0x116B0, 0x116B6, 0x116B7, 0x11720, 0x11722, 0x11726, 0x11727,
   0x1182C, 0x1182F, 0x11838, 0x11839, 0x11930, 0x1193B, 0x1193D, 0x1193E, 0x11940, 0x11943, 0x119D1, 0x119D4,
   0x119DC, 0x119E0, 0x119E4, 0x11A01, 0x11A07, 0x11A09, 0x11A39, 0x11A3B, 0x11A57, 0x11A59, 0x11A97, 0x11A98,
   0x11C2F, 0x11C30, 0x11C3E, 0x11C92, 0x11CA9, 0x11CAA, 0x11CB1, 0x11CB2, 0x11CB4, 0x11CB5, 0x11D8A, 0x11D90,
   0x11D93, 0x11D95, 0x11D96, 0x11D97, 0x11EF5, 0x16AF0, 0x16F51, 0x16F8F, 0x16FF0, 0x1BC9D]

/-- The letters that are written from right to left. -/
def rightToLeftTurns : List Nat :=
  [
   0x5D0, 0x5EB, 0x5EF, 0x5F5, 0x620, 0x640, 0x641, 0x64B, 0x66E, 0x670, 0x671, 0x675, 0x679, 0x6D4, 0x6D5, 0x6D6,
   0x6E5, 0x6E7, 0x6EE, 0x6F0, 0x6FA, 0x700, 0x710, 0x711, 0x712, 0x730, 0x74D, 0x7A6, 0x7B1, 0x7B2, 0x7C0, 0x7EB,
   0x7F4, 0x7F6, 0x800, 0x816, 0x81A, 0x81B, 0x824, 0x825, 0x828, 0x829, 0x840, 0x859, 0x860, 0x86B, 0x870, 0x888,
   0x889, 0x88F, 0x8A0, 0x8CA, 0xFE73, 0xFE74, 0x10800, 0x10806, 0x10808, 0x10809, 0x1080A, 0x10836, 0x10837,
   0x10839, 0x1083C, 0x1083D, 0x1083F, 0x10856, 0x10860, 0x10877, 0x10880, 0x1089F, 0x108E0, 0x108F3, 0x108F4,
   0x108F6, 0x10900, 0x10916, 0x10920, 0x1093A, 0x10980, 0x109B8, 0x109BE, 0x109C0, 0x10A00, 0x10A01, 0x10A10,
   0x10A14, 0x10A15, 0x10A18, 0x10A19, 0x10A36, 0x10A60, 0x10A7D, 0x10A80, 0x10A9D, 0x10AC0, 0x10AC8, 0x10AC9,
   0x10AE5, 0x10B00, 0x10B36, 0x10B40, 0x10B56, 0x10B60, 0x10B73, 0x10B80, 0x10B92, 0x10C00, 0x10C49, 0x10CC0,
   0x10CF3, 0x10D00, 0x10D24, 0x10E80, 0x10EAA, 0x10EB0, 0x10EB2, 0x10F00, 0x10F1D, 0x10F27, 0x10F28, 0x10F30,
   0x10F46, 0x10F70, 0x10F82, 0x10FB0, 0x10FC5, 0x10FE0, 0x10FF7, 0x1E800, 0x1E8C5, 0x1E922, 0x1E944, 0x1E94B,
   0x1E94C, 0x1E950, 0x1E95A]

/-- The digits that are written among letters from right to left. -/
def arabicDigitTurns : List Nat :=
  [
   0x660, 0x66A, 0x10D30, 0x10D3A]

/-- The characters without a direction of their own. -/
def neutralTurns : List Nat :=
  [
   0x2D, 0x2E, 0xB7, 0xB8, 0x2B9, 0x2BB, 0x2C6, 0x2D0, 0x2EC, 0x2ED, 0x375, 0x376, 0x200C, 0x200E, 0x2E2F, 0x2E30,
   0x30FB, 0x30FC, 0xA67F, 0xA680, 0xA717, 0xA720, 0xA788, 0xA789]

/-- The letters that join the letter after them. -/
def joinsAfterTurns : List Nat :=
  [
   0x620, 0x621, 0x626, 0x627, 0x628, 0x629, 0x62A, 0x62F, 0x633, 0x640, 0x641, 0x648, 0x649, 0x64B, 0x66E, 0x670,
   0x679, 0x688, 0x69A, 0x6C0, 0x6C1, 0x6C3, 0x6CC, 0x6CD, 0x6CE, 0x6CF, 0x6D0, 0x6D2, 0x6FA, 0x6FD, 0x6FF, 0x700,
   0x712, 0x715, 0x71A, 0x71E, 0x71F, 0x728, 0x729, 0x72A, 0x72B, 0x72C, 0x72D, 0x72F, 0x74E, 0x759, 0x75C, 0x76B,
   0x76D, 0x771, 0x772, 0x773, 0x775, 0x778, 0x77A, 0x780, 0x7CA, 0x7EB, 0x841, 0x846, 0x848, 0x849, 0x84A, 0x854,
   0x855, 0x856, 0x860, 0x861, 0x862, 0x866, 0x868, 0x869, 0x886, 0x887, 0x889, 0x88E, 0x8A0, 0x8AA, 0x8AF, 0x8B1,
   0x8B3, 0x8B9, 0x8BA, 0x8C9, 0x1820, 0x1879, 0x1887, 0x18A9, 0x18AA, 0x18AB, 0xA840, 0xA873, 0x10AC0, 0x10AC5,
   0x10ACD, 0x10ACE, 0x10AD3, 0x10ADD, 0x10ADE, 0x10AE1, 0x10B80, 0x10B81, 0x10B82, 0x10B83, 0x10B86, 0x10B89,
   0x10B8A, 0x10B8C, 0x10B8D, 0x10B8E, 0x10B90, 0x10B91, 0x10D00, 0x10D22, 0x10D23, 0x10D24, 0x10F30, 0x10F33,
   0x10F34, 0x10F45, 0x10F70, 0x10F74, 0x10F76, 0x10F82, 0x10FB0, 0x10FB1, 0x10FB2, 0x10FB4, 0x10FB8, 0x10FB9,
   0x10FBB, 0x10FBD, 0x10FBE, 0x10FC0, 0x10FC1, 0x10FC2, 0x10FC4, 0x10FC5, 0x1E922, 0x1E944]

/-- The letters that join the letter before them. -/
def joinsBeforeTurns : List Nat :=
  [
   0x620, 0x621, 0x622, 0x640, 0x641, 0x64B, 0x66E, 0x670, 0x671, 0x674, 0x679, 0x6D4, 0x6D5, 0x6D6, 0x6EE, 0x6F0,
   0x6FA, 0x6FD, 0x6FF, 0x700, 0x710, 0x711, 0x712, 0x730, 0x74D, 0x780, 0x7CA, 0x7EB, 0x840, 0x859, 0x860, 0x861,
   0x862, 0x866, 0x867, 0x86B, 0x870, 0x883, 0x886, 0x887, 0x889, 0x88F, 0x8A0, 0x8AD, 0x8AE, 0x8C9, 0x1820,
   0x1879, 0x1887, 0x18A9, 0x18AA, 0x18AB, 0xA840, 0xA872, 0x10AC0, 0x10AC6, 0x10AC7, 0x10AC8, 0x10AC9, 0x10ACB,
   0x10ACE, 0x10AD7, 0x10AD8, 0x10AE2, 0x10AE4, 0x10AE5, 0x10B80, 0x10B92, 0x10D01, 0x10D24, 0x10F30, 0x10F45,
   0x10F70, 0x10F82, 0x10FB0, 0x10FB1, 0x10FB2, 0x10FB7, 0x10FB8, 0x10FC0, 0x10FC1, 0x10FC5, 0x1E922, 0x1E944]

/-- Greek characters. -/
def greekTurns : List Nat :=
  [
   0x371, 0x372, 0x373, 0x374, 0x375, 0x376, 0x377, 0x378, 0x37B, 0x37E, 0x390, 0x391, 0x3AC, 0x3CF, 0x3D7, 0x3D8,
   0x3D9, 0x3DA, 0x3DB, 0x3DC, 0x3DD, 0x3DE, 0x3DF, 0x3E0, 0x3E1, 0x3E2, 0x3F3, 0x3F4, 0x3F8, 0x3F9, 0x3FB, 0x3FD,
   0x1D26, 0x1D2B, 0x1F00, 0x1F08, 0x1F10, 0x1F16, 0x1F20, 0x1F28, 0x1F30, 0x1F38, 0x1F40, 0x1F46, 0x1F50, 0x1F58,
   0x1F60, 0x1F68, 0x1F70, 0x1F71, 0x1F72, 0x1F73, 0x1F74, 0x1F75, 0x1F76, 0x1F77, 0x1F78, 0x1F79, 0x1F7A, 0x1F7B,
   0x1F7C, 0x1F7D, 0x1FB0, 0x1FB2, 0x1FB6, 0x1FB7, 0x1FC6, 0x1FC7, 0x1FD0, 0x1FD3, 0x1FD6, 0x1FD8, 0x1FE0, 0x1FE3,
   0x1FE4, 0x1FE8, 0x1FF6, 0x1FF7, 0xAB65, 0xAB66]

/-- Hebrew characters. -/
def hebrewTurns : List Nat :=
  [
   0x591, 0x5BE, 0x5BF, 0x5C0, 0x5C1, 0x5C3, 0x5C4, 0x5C6, 0x5C7, 0x5C8, 0x5D0, 0x5EB, 0x5EF, 0x5F5, 0xFB1E,
   0xFB1F]

/-- Kana and Chinese characters. -/
def japaneseTurns : List Nat :=
  [
   0x3005, 0x3006, 0x3007, 0x3008, 0x3041, 0x3097, 0x309D, 0x309F, 0x30A1, 0x30FB, 0x30FD, 0x30FF, 0x31F0, 0x3200,
   0x3400, 0x4DC0, 0x4E00, 0xA000, 0xFA0E, 0xFA10, 0xFA11, 0xFA12, 0xFA13, 0xFA15, 0xFA1F, 0xFA20, 0xFA21, 0xFA22,
   0xFA23, 0xFA25, 0xFA27, 0xFA2A, 0x16FE3, 0x16FE4, 0x16FF0, 0x16FF2, 0x1AFF0, 0x1AFF4, 0x1AFF5, 0x1AFFC, 0x1AFFD,
   0x1AFFF, 0x1B000, 0x1B123, 0x1B150, 0x1B153, 0x1B164, 0x1B168, 0x20000, 0x2A6E0, 0x2A700, 0x2B739, 0x2B740,
   0x2B81E, 0x2B820, 0x2CEA2, 0x2CEB0, 0x2EBE1, 0x30000, 0x3134B]

/-- Letters that are a capital or have one. -/
def casedTurns : List Nat :=
  [
   0x41, 0xB7, 0xC0, 0x1BB, 0x1BC, 0x1C0, 0x1CD, 0x294, 0x295, 0x2B9, 0x370, 0x375, 0x376, 0x483, 0x48A, 0x559,
   0x560, 0x591, 0x10A0, 0x1200, 0x1C90, 0x1CD0, 0x1D00, 0x1D2F, 0x1D6B, 0x1DC0, 0x1E00, 0x200C, 0x2126, 0x2CEF,
   0x2CF2, 0x2D30, 0xA640, 0xA66E, 0xA680, 0xA69E, 0xA722, 0xA788, 0xA78B, 0xA78F, 0xA790, 0xA7CD, 0xA7D0, 0xA7DB,
   0xA7F5, 0xA7F7, 0xA7FA, 0xA7FB, 0xAB30, 0xABC0, 0x10400, 0x10450, 0x104B0, 0x10500, 0x10570, 0x105C0, 0x10C80,
   0x10D00, 0x118A0, 0x118E0, 0x16E40, 0x16EBB, 0x1DF00, 0x1DF0A, 0x1DF0B, 0x1DF25, 0x1E900, 0x1E944]

/-- Signs besides the marks that do not part one letter from the next. -/
def silentTurns : List Nat :=
  [
   0x2E, 0x30, 0xB7, 0xC0, 0x2B9, 0x370, 0x375, 0x376, 0x559, 0x560, 0x5F4, 0x620, 0x6E5, 0x6EE, 0x7F4, 0x800, 0x81A,
   0x840, 0x8C9, 0x904, 0x971, 0x972, 0xE46, 0xE50, 0xEC6, 0xECE, 0x17D7, 0x17DC, 0x1843, 0x1844, 0x1AA7, 0x1ACF,
   0x1C78, 0x1C8A, 0x1D2F, 0x1D6B, 0x200C, 0x2126, 0x2E2F, 0x3002, 0x3005, 0x3006, 0x309D, 0x30A1, 0x30FC, 0x3105,
   0xA015, 0xA016, 0xA4F8, 0xA500, 0xA60C, 0xA610, 0xA67F, 0xA680, 0xA717, 0xA722, 0xA788, 0xA78B, 0xA9CF, 0xA9D0,
   0xA9E6, 0xA9E7, 0xAA70, 0xAA71, 0xAADD, 0xAAE0, 0xAAF3, 0xAB01, 0xFF0E, 0xFF61, 0x10780, 0x10800, 0x16B40,
   0x16B50, 0x16F93, 0x16FF2, 0x1AFF0, 0x1B000, 0x1E137, 0x1E140, 0x1E94B, 0x1E950]

/-! ## Composition -/

/-- The combining classes of marks: the marks at which the class changes, each with its class. -/
def classTurns : List (Nat × Nat) :=
  [
   (0x300, 230), (0x315, 232), (0x316, 220), (0x31A, 232), (0x31B, 216), (0x31C, 220), (0x321, 202), (0x323, 220),
   (0x327, 202), (0x329, 220), (0x334, 1), (0x339, 220), (0x33D, 230), (0x347, 220), (0x34A, 230), (0x34D, 220),
   (0x350, 230), (0x353, 220), (0x357, 230), (0x358, 232), (0x359, 220), (0x35B, 230), (0x35C, 233), (0x35D, 234),
   (0x35F, 233), (0x360, 234), (0x362, 233), (0x363, 230), (0x591, 220), (0x592, 230), (0x596, 220), (0x597, 230),
   (0x59A, 222), (0x59B, 220), (0x59C, 230), (0x5A2, 220), (0x5A8, 230), (0x5AA, 220), (0x5AB, 230), (0x5AD, 222),
   (0x5AE, 228), (0x5AF, 230), (0x5B0, 10), (0x5B1, 11), (0x5B2, 12), (0x5B3, 13), (0x5B4, 14), (0x5B5, 15),
   (0x5B6, 16), (0x5B7, 17), (0x5B8, 18), (0x5B9, 19), (0x5BB, 20), (0x5BC, 21), (0x5BD, 22), (0x5BF, 23),
   (0x5C1, 24), (0x5C2, 25), (0x5C4, 230), (0x5C5, 220), (0x5C7, 18), (0x610, 230), (0x618, 30), (0x619, 31),
   (0x61A, 32), (0x64B, 27), (0x64C, 28), (0x64D, 29), (0x64E, 30), (0x64F, 31), (0x650, 32), (0x651, 33),
   (0x652, 34), (0x653, 230), (0x655, 220), (0x657, 230), (0x65C, 220), (0x65D, 230), (0x65F, 220), (0x670, 35),
   (0x6D6, 230), (0x6E3, 220), (0x6E4, 230), (0x6EA, 220), (0x6EB, 230), (0x6ED, 220), (0x711, 36), (0x730, 230),
   (0x731, 220), (0x732, 230), (0x734, 220), (0x735, 230), (0x737, 220), (0x73A, 230), (0x73B, 220), (0x73D, 230),
   (0x73E, 220), (0x73F, 230), (0x742, 220), (0x743, 230), (0x744, 220), (0x745, 230), (0x746, 220), (0x747, 230),
   (0x748, 220), (0x749, 230), (0x7A6, 0), (0x7EB, 230), (0x7F2, 220), (0x7F3, 230), (0x7FD, 220), (0x816, 230),
   (0x859, 220), (0x898, 230), (0x899, 220), (0x89C, 230), (0x8CF, 220), (0x8D4, 230), (0x8E3, 220), (0x8E4, 230),
   (0x8E6, 220), (0x8E7, 230), (0x8E9, 220), (0x8EA, 230), (0x8ED, 220), (0x8F0, 27), (0x8F1, 28), (0x8F2, 29),
   (0x8F3, 230), (0x8F6, 220), (0x8F7, 230), (0x8F9, 220), (0x8FB, 230), (0x900, 0), (0x93C, 7), (0x93E, 0),
   (0x94D, 9), (0x94E, 0), (0x951, 230), (0x952, 220), (0x953, 230), (0x955, 0), (0x9BC, 7), (0x9BE, 0), (0x9CD, 9),
   (0x9D7, 0), (0x9FE, 230), (0xA01, 0), (0xA3C, 7), (0xA3E, 0), (0xA4D, 9), (0xA51, 0), (0xABC, 7), (0xABE, 0),
   (0xACD, 9), (0xAE2, 0), (0xB3C, 7), (0xB3E, 0), (0xB4D, 9), (0xB55, 0), (0xBCD, 9), (0xBD7, 0), (0xC3C, 7),
   (0xC3E, 0), (0xC4D, 9), (0xC55, 84), (0xC56, 91), (0xC62, 0), (0xCBC, 7), (0xCBE, 0), (0xCCD, 9), (0xCD5, 0),
   (0xD3B, 9), (0xD3E, 0), (0xD4D, 9), (0xD57, 0), (0xDCA, 9), (0xDCF, 0), (0xE38, 103), (0xE3A, 9), (0xE47, 0),
   (0xE48, 107), (0xE4C, 0), (0xEB8, 118), (0xEBA, 9), (0xEBB, 0), (0xEC8, 122), (0xECC, 0), (0xF18, 220),
   (0xF39, 216), (0xF3E, 0), (0xF71, 129), (0xF72, 130), (0xF74, 132), (0xF7A, 130), (0xF7E, 0), (0xF80, 130),
   (0xF82, 230), (0xF84, 9), (0xF86, 230), (0xF8D, 0), (0xFC6, 220), (0x102B, 0), (0x1037, 7), (0x1038, 0),
   (0x1039, 9), (0x103B, 0), (0x108D, 220), (0x108F, 0), (0x135D, 230), (0x1712, 0), (0x1714, 9), (0x1732, 0),
   (0x1734, 9), (0x1752, 0), (0x17D2, 9), (0x17D3, 0), (0x17DD, 230), (0x1885, 0), (0x18A9, 228), (0x1920, 0),
   (0x1939, 222), (0x193A, 230), (0x193B, 220), (0x1A17, 230), (0x1A18, 220), (0x1A19, 0), (0x1A60, 9), (0x1A61, 0),
   (0x1A75, 230), (0x1A7F, 220), (0x1AB0, 230), (0x1AB5, 220), (0x1ABB, 230), (0x1ABD, 220), (0x1AC1, 230),
   (0x1AC3, 220), (0x1AC5, 230), (0x1ACA, 220), (0x1ACB, 230), (0x1B00, 0), (0x1B34, 7), (0x1B35, 0), (0x1B44, 9),
   (0x1B6B, 230), (0x1B6C, 220), (0x1B6D, 230), (0x1B80, 0), (0x1BAA, 9), (0x1BAC, 0), (0x1BE6, 7), (0x1BE7, 0),
   (0x1BF2, 9), (0x1C24, 0), (0x1C37, 7), (0x1CD0, 230), (0x1CD4, 1), (0x1CD5, 220), (0x1CDA, 230), (0x1CDC, 220),
   (0x1CE0, 230), (0x1CE1, 0), (0x1CE2, 1), (0x1CED, 220), (0x1CF4, 230), (0x1CF7, 0), (0x1CF8, 230), (0x1DC2, 220),
   (0x1DC3, 230), (0x1DCA, 220), (0x1DCB, 230), (0x1DCD, 234), (0x1DCE, 214), (0x1DCF, 220), (0x1DD0, 202),
   (0x1DD1, 230), (0x1DF6, 232), (0x1DF7, 228), (0x1DF9, 220), (0x1DFA, 218), (0x1DFB, 230), (0x1DFC, 233),
   (0x1DFD, 220), (0x1DFE, 230), (0x1DFF, 220), (0x2CEF, 230), (0x2D7F, 9), (0x2DE0, 230), (0x302A, 218),
   (0x302B, 228), (0x302C, 232), (0x302D, 222), (0x3099, 8), (0xA66F, 230), (0xA802, 0), (0xA806, 9), (0xA80B, 0),
   (0xA82C, 9), (0xA880, 0), (0xA8C4, 9), (0xA8C5, 0), (0xA8E0, 230), (0xA8FF, 0), (0xA92B, 220), (0xA947, 0),
   (0xA953, 9), (0xA980, 0), (0xA9B3, 7), (0xA9B4, 0), (0xA9C0, 9), (0xA9E5, 0), (0xAAB0, 230), (0xAAB4, 220),
   (0xAAB7, 230), (0xAAEB, 0), (0xAAF6, 9), (0xABE3, 0), (0xABED, 9), (0xFB1E, 26), (0xFE20, 230), (0xFE27, 220),
   (0xFE2E, 230), (0x101FD, 220), (0x10376, 230), (0x10A01, 0), (0x10A0D, 220), (0x10A0E, 0), (0x10A0F, 230),
   (0x10A39, 1), (0x10A3A, 220), (0x10A3F, 9), (0x10AE5, 230), (0x10AE6, 220), (0x10D24, 230), (0x10F46, 220),
   (0x10F48, 230), (0x10F4B, 220), (0x10F4C, 230), (0x10F4D, 220), (0x10F82, 230), (0x10F83, 220), (0x10F84, 230),
   (0x10F85, 220), (0x11000, 0), (0x11046, 9), (0x11073, 0), (0x1107F, 9), (0x11080, 0), (0x110B9, 9), (0x110BA, 7),
   (0x110C2, 0), (0x11100, 230), (0x11127, 0), (0x11133, 9), (0x11145, 0), (0x11173, 7), (0x11180, 0), (0x111C0, 9),
   (0x111C9, 0), (0x111CA, 7), (0x111CB, 0), (0x11235, 9), (0x11236, 7), (0x11237, 0), (0x112E9, 7), (0x112EA, 9),
   (0x11300, 0), (0x1133B, 7), (0x1133E, 0), (0x1134D, 9), (0x11357, 0), (0x11366, 230), (0x11435, 0), (0x11442, 9),
   (0x11443, 0), (0x11446, 7), (0x1145E, 230), (0x114B0, 0), (0x114C2, 9), (0x114C3, 7), (0x115AF, 0), (0x115BF, 9),
   (0x115C0, 7), (0x115DC, 0), (0x1163F, 9), (0x11640, 0), (0x116B6, 9), (0x116B7, 7), (0x1171D, 0), (0x1172B, 9),
   (0x1182C, 0), (0x11839, 9), (0x1183A, 7), (0x11930, 0), (0x1193D, 9), (0x11940, 0), (0x11943, 7), (0x119D1, 0),
   (0x119E0, 9), (0x119E4, 0), (0x11A34, 9), (0x11A35, 0), (0x11A47, 9), (0x11A51, 0), (0x11A99, 9), (0x11C2F, 0),
   (0x11C3F, 9), (0x11C92, 0), (0x11D42, 7), (0x11D43, 0), (0x11D44, 9), (0x11D47, 0), (0x11D97, 9), (0x11EF3, 0),
   (0x16AF0, 1), (0x16B30, 230), (0x16F4F, 0), (0x16FF0, 6), (0x1BC9D, 0), (0x1BC9E, 1), (0x1CF00, 0),
   (0x1E000, 230), (0x1E8D0, 220), (0x1E944, 230), (0x1E94A, 7)]

/-- The combining class of a character; it is zero for what is no mark, and for some marks. -/
def combiningClass (c : Char) : Nat :=
  if isMember markTurns c then (((classTurns.takeWhile fun turn => turn.1 ≤ c.toNat).getLast?).map Prod.snd).getD 0 else 0

/-- The marks with the letters with which each has a composed form. -/
def compositions : List (Nat × List Nat) :=
  [
    (0x300, [0x61, 0x65, 0x69, 0x6E, 0x6F, 0x75, 0x77, 0x79, 0xE2, 0xEA, 0xF4, 0xFC, 0x103, 0x113, 0x14D, 0x1A1,
      0x1B0, 0x3B1, 0x3B5, 0x3B7, 0x3B9, 0x3BF, 0x3C5, 0x3C9, 0x3CA, 0x3CB, 0x435, 0x438, 0x1F00, 0x1F01, 0x1F10,
      0x1F11, 0x1F20, 0x1F21, 0x1F30, 0x1F31, 0x1F40, 0x1F41, 0x1F50, 0x1F51, 0x1F60, 0x1F61]),
    (0x301, [0x61, 0x63, 0x65, 0x67, 0x69, 0x6B, 0x6C, 0x6D, 0x6E, 0x6F, 0x70, 0x72, 0x73, 0x75, 0x77, 0x79, 0x7A,
      0xE2, 0xE5, 0xE6, 0xE7, 0xEA, 0xEF, 0xF4, 0xF5, 0xF8, 0xFC, 0x103, 0x113, 0x14D, 0x169, 0x1A1, 0x1B0, 0x3B1,
      0x3B5, 0x3B7, 0x3B9, 0x3BF, 0x3C5, 0x3C9, 0x3CA, 0x3CB, 0x433, 0x43A, 0x1F00, 0x1F01, 0x1F10, 0x1F11, 0x1F20,
      0x1F21, 0x1F30, 0x1F31, 0x1F40, 0x1F41, 0x1F50, 0x1F51, 0x1F60, 0x1F61]),
    (0x302, [0x61, 0x63, 0x65, 0x67, 0x68, 0x69, 0x6A, 0x6F, 0x73, 0x75, 0x77, 0x79, 0x7A, 0x1EA1, 0x1EB9,
      0x1ECD]),
    (0x303, [0x61, 0x65, 0x69, 0x6E, 0x6F, 0x75, 0x76, 0x79, 0xE2, 0xEA, 0xF4, 0x103, 0x1A1, 0x1B0]),
    (0x304, [0x61, 0x65, 0x67, 0x69, 0x6F, 0x75, 0x79, 0xE4, 0xE6, 0xF5, 0xF6, 0xFC, 0x1EB, 0x227, 0x22F, 0x3B1,
      0x3B9, 0x3C5, 0x438, 0x443, 0x1E37, 0x1E5B]),
    (0x306, [0x61, 0x65, 0x67, 0x69, 0x6F, 0x75, 0x229, 0x3B1, 0x3B9, 0x3C5, 0x430, 0x435, 0x436, 0x438, 0x443,
      0x1EA1]),
    (0x307, [0x61, 0x62, 0x63, 0x64, 0x65, 0x66, 0x67, 0x68, 0x6D, 0x6E, 0x6F, 0x70, 0x72, 0x73, 0x74, 0x77, 0x78,
      0x79, 0x7A, 0x15B, 0x161, 0x1E63]),
    (0x308, [0x61, 0x65, 0x68, 0x69, 0x6F, 0x74, 0x75, 0x77, 0x78, 0x79, 0xF5, 0x16B, 0x3B9, 0x3C5, 0x430, 0x435,
      0x436, 0x437, 0x438, 0x43E, 0x443, 0x447, 0x44B, 0x44D, 0x456, 0x4D9, 0x4E9]),
    (0x309, [0x61, 0x65, 0x69, 0x6F, 0x75, 0x79, 0xE2, 0xEA, 0xF4, 0x103, 0x1A1, 0x1B0]),
    (0x30A, [0x61, 0x75, 0x77, 0x79]),
    (0x30B, [0x6F, 0x75, 0x443]),
    (0x30C, [0x61, 0x63, 0x64, 0x65, 0x67, 0x68, 0x69, 0x6A, 0x6B, 0x6C, 0x6E, 0x6F, 0x72, 0x73, 0x74, 0x75, 0x7A,
      0xFC, 0x292]),
    (0x30F, [0x61, 0x65, 0x69, 0x6F, 0x72, 0x75, 0x475]),
    (0x311, [0x61, 0x65, 0x69, 0x6F, 0x72, 0x75]),
    (0x313, [0x3B1, 0x3B5, 0x3B7, 0x3B9, 0x3BF, 0x3C1, 0x3C5, 0x3C9]),
    (0x314, [0x3B1, 0x3B5, 0x3B7, 0x3B9, 0x3BF, 0x3C1, 0x3C5, 0x3C9]),
    (0x31B, [0x6F, 0x75]),
    (0x323, [0x61, 0x62, 0x64, 0x65, 0x68, 0x69, 0x6B, 0x6C, 0x6D, 0x6E, 0x6F, 0x72, 0x73, 0x74, 0x75, 0x76, 0x77,
      0x79, 0x7A, 0x1A1, 0x1B0]),
    (0x324, [0x75]),
    (0x325, [0x61]),
    (0x326, [0x73, 0x74]),
    (0x327, [0x63, 0x64, 0x65, 0x67, 0x68, 0x6B, 0x6C, 0x6E, 0x72, 0x73, 0x74]),
    (0x328, [0x61, 0x65, 0x69, 0x6F, 0x75]),
    (0x32D, [0x64, 0x65, 0x6C, 0x6E, 0x74, 0x75]),
    (0x32E, [0x68]),
    (0x330, [0x65, 0x69, 0x75]),
    (0x331, [0x62, 0x64, 0x68, 0x6B, 0x6C, 0x6E, 0x72, 0x74, 0x7A]),
    (0x342, [0x3B1, 0x3B7, 0x3B9, 0x3C5, 0x3C9, 0x3CA, 0x3CB, 0x1F00, 0x1F01, 0x1F20, 0x1F21, 0x1F30, 0x1F31,
      0x1F50, 0x1F51, 0x1F60, 0x1F61]),
    (0x653, [0x627]),
    (0x654, [0x627, 0x648, 0x64A, 0x6C1, 0x6D2, 0x6D5]),
    (0x655, [0x627]),
    (0x93C, [0x928, 0x930, 0x933]),
    (0x9BE, [0x9C7]),
    (0x9D7, [0x9C7]),
    (0xB3E, [0xB47]),
    (0xB56, [0xB47]),
    (0xB57, [0xB47]),
    (0xBBE, [0xBC6, 0xBC7]),
    (0xBD7, [0xB92, 0xBC6]),
    (0xC56, [0xC46]),
    (0xCC2, [0xCC6]),
    (0xCD5, [0xCBF, 0xCC6, 0xCCA]),
    (0xCD6, [0xCC6]),
    (0xD3E, [0xD46, 0xD47]),
    (0xD57, [0xD46]),
    (0xDCA, [0xDD9, 0xDDC]),
    (0xDCF, [0xDD9]),
    (0xDDF, [0xDD9]),
    (0x102E, [0x1025]),
    (0x1B35, [0x1B05, 0x1B07, 0x1B09, 0x1B0B, 0x1B0D, 0x1B11, 0x1B3A, 0x1B3C, 0x1B3E, 0x1B3F, 0x1B42]),
    (0x3099, [0x3046, 0x304B, 0x304D, 0x304F, 0x3051, 0x3053, 0x3055, 0x3057, 0x3059, 0x305B, 0x305D, 0x305F,
      0x3061, 0x3064, 0x3066, 0x3068, 0x306F, 0x3072, 0x3075, 0x3078, 0x307B, 0x309D, 0x30A6, 0x30AB, 0x30AD,
      0x30AF, 0x30B1, 0x30B3, 0x30B5, 0x30B7, 0x30B9, 0x30BB, 0x30BD, 0x30BF, 0x30C1, 0x30C4, 0x30C6, 0x30C8,
      0x30CF, 0x30D2, 0x30D5, 0x30D8, 0x30DB, 0x30EF, 0x30F0, 0x30F1, 0x30F2, 0x30FD]),
    (0x309A, [0x306F, 0x3072, 0x3075, 0x3078, 0x307B, 0x30CF, 0x30D2, 0x30D5, 0x30D8, 0x30DB]),
    (0x110BA, [0x11099, 0x1109B, 0x110A5]),
    (0x11127, [0x11131, 0x11132]),
    (0x1133E, [0x11347]),
    (0x11357, [0x11347]),
    (0x114B0, [0x114B9]),
    (0x114BA, [0x114B9]),
    (0x114BD, [0x114B9]),
    (0x115AF, [0x115B8, 0x115B9]),
    (0x11930, [0x11935])]

end PromptGraph.Http
