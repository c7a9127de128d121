import Watchdesk.Text.Chart

/-!
# Letters that fold on their own

Capital letters whose small letter stands somewhere else, variants of letters, radicals of
ideographs, and so on, each with the one character that it folds to.
-/

namespace Watchdesk.Domain

open Text

/-- What letters below 0x3000 fold to. -/
def lettersLow : Rows Nat := [
  (0xA0, [0x20]), (0xAA, [0x61]), (0xB2, [0x32, 0x33]), (0xB5, [0x3BC]), (0xB9, [0x31, 0x6F]),
  (0x134, [0x135]), (0x136, [0x137]), (0x178, [0xFF]), (0x17F, [0x73]), (0x181, [0x253, 0x183]),
  (0x184, [0x185]), (0x186, [0x254, 0x188]), (0x189, [0x256, 0x257, 0x18C]), (0x18E, [0x1DD, 0x259,
  0x25B, 0x192]), (0x193, [0x260, 0x263]), (0x196, [0x269, 0x268, 0x199]), (0x19C, [0x26F, 0x272]),
  (0x19F, [0x275]), (0x1A6, [0x280, 0x1A8]), (0x1A9, [0x283]), (0x1AC, [0x1AD]), (0x1AE, [0x288,
  0x1B0]), (0x1B1, [0x28A, 0x28B, 0x1B4]), (0x1B5, [0x1B6]), (0x1B7, [0x292, 0x1B9]),
  (0x1BC, [0x1BD]), (0x1F4, [0x1F5]), (0x1F6, [0x195, 0x1BF]), (0x220, [0x19E]), (0x23A, [0x2C65,
  0x23C]), (0x23D, [0x19A, 0x2C66]), (0x241, [0x242]), (0x243, [0x180, 0x289, 0x28C]),
  (0x2B0, [0x68, 0x266, 0x6A, 0x72, 0x279, 0x27B, 0x281, 0x77, 0x79]), (0x2E0, [0x263, 0x6C, 0x73,
  0x78, 0x295]), (0x345, [0x3B9]), (0x370, [0x371]), (0x372, [0x373]), (0x376, [0x377]),
  (0x37F, [0x3F3]), (0x386, [0x3AC]), (0x38C, [0x3CC]), (0x38E, [0x3CD, 0x3CE]), (0x3CF, [0x3D7,
  0x3B2, 0x3B8, 0x3C5, 0x3CD, 0x3CB, 0x3C6, 0x3C0]), (0x3F0, [0x3BA, 0x3C1, 0x3C3]), (0x3F4, [0x3B8,
  0x3B5]), (0x3F7, [0x3F8]), (0x3F9, [0x3C3, 0x3FB]), (0x4C0, [0x4CF]), (0xF0C, [0xF0B]),
  (0x10C7, [0x2D27]), (0x10CD, [0x2D2D]), (0x10FC, [0x10DC]), (0x1C80, [0x432, 0x434, 0x43E, 0x441,
  0x442, 0x442, 0x44A, 0x463, 0xA64B, 0x1C8A]), (0x1D2C, [0x61, 0xE6, 0x62]), (0x1D30, [0x64]),
  (0x1D32, [0x1DD]), (0x1D3C, [0x6F, 0x223, 0x70, 0x72, 0x74, 0x75, 0x77, 0x61, 0x250, 0x251,
  0x1D02, 0x62, 0x64, 0x65, 0x259, 0x25B, 0x25C, 0x67]), (0x1D4F, [0x6B, 0x6D, 0x14B, 0x6F, 0x254,
  0x1D16, 0x1D17, 0x70, 0x74, 0x75, 0x1D1D, 0x26F, 0x76, 0x1D25]), (0x1D60, [0x3C6, 0x3C7, 0x69,
  0x72, 0x75, 0x76, 0x3B2, 0x3B3, 0x3C1, 0x3C6, 0x3C7]), (0x1D78, [0x43D]), (0x1D9B, [0x252, 0x63,
  0x255, 0xF0, 0x25C, 0x66, 0x25F, 0x261, 0x265]), (0x1DA7, [0x1D7B, 0x29D, 0x26D, 0x1D85, 0x29F,
  0x271, 0x270]), (0x1DB2, [0x278, 0x282, 0x283, 0x1AB, 0x289, 0x28A, 0x1D1C, 0x28B, 0x28C, 0x7A]),
  (0x1DBF, [0x3B8]), (0x1E9B, [0x1E61]), (0x1E9E, [0xDF]), (0x1FB8, [0x1FB0, 0x1FB1, 0x1F70,
  0x3AC]), (0x1FC8, [0x1F72, 0x3AD, 0x1F74, 0x3AE]), (0x1FD8, [0x1FD0, 0x1FD1, 0x1F76, 0x3AF]),
  (0x1FE8, [0x1FE0, 0x1FE1, 0x1F7A, 0x3CD, 0x1FE5]), (0x1FF8, [0x1F78, 0x3CC, 0x1F7C, 0x3CE]),
  (0x2000, [0x20, 0x20, 0x20, 0x20, 0x20, 0x20, 0x20, 0x20, 0x20, 0x20, 0x20]), (0x2011, [0x2010]),
  (0x202F, [0x20]), (0x205F, [0x20]), (0x2070, [0x30, 0x69]), (0x207A, [0x2B, 0x2212, 0x3D, 0x28,
  0x29, 0x6E]), (0x208A, [0x2B, 0x2212, 0x3D, 0x28, 0x29]), (0x2090, [0x61, 0x65, 0x6F, 0x78, 0x259,
  0x68]), (0x209A, [0x70, 0x73, 0x74]), (0x2102, [0x63]), (0x2107, [0x25B]), (0x210A, [0x67, 0x68,
  0x68, 0x68, 0x68, 0x127, 0x69, 0x69, 0x6C, 0x6C]), (0x2115, [0x6E]), (0x211C, [0x72, 0x72]),
  (0x2124, [0x7A]), (0x2126, [0x3C9]), (0x2128, [0x7A]), (0x212A, [0x6B, 0xE5, 0x62, 0x63]),
  (0x212F, [0x65, 0x65, 0x66, 0x214E, 0x6D, 0x6F]), (0x2139, [0x69]), (0x213C, [0x3C0, 0x3B3, 0x3B3,
  0x3C0, 0x2211]), (0x2145, [0x64, 0x64, 0x65, 0x69, 0x6A]), (0x2160, [0x69]), (0x2164, [0x76]),
  (0x2169, [0x78]), (0x216C, [0x6C, 0x63, 0x64, 0x6D, 0x69]), (0x2174, [0x76]), (0x2179, [0x78]),
  (0x217C, [0x6C, 0x63, 0x64, 0x6D]), (0x2183, [0x2184]), (0x24EA, [0x30]), (0x2C60, [0x2C61]),
  (0x2C62, [0x26B, 0x1D7D, 0x27D]), (0x2C6D, [0x251, 0x271, 0x250, 0x252]), (0x2C72, [0x2C73]),
  (0x2C75, [0x2C76]), (0x2C7C, [0x6A, 0x76, 0x23F, 0x240]), (0x2CEB, [0x2CEC]), (0x2CED, [0x2CEE]),
  (0x2CF2, [0x2CF3]), (0x2D6F, [0x2D61]), (0x2E9F, [0x6BCD]), (0x2EF3, [0x9F9F]), (0x2F00, [0x4E00,
  0x4E28, 0x4E36, 0x4E3F, 0x4E59, 0x4E85, 0x4E8C, 0x4EA0, 0x4EBA, 0x513F, 0x5165, 0x516B, 0x5182,
  0x5196, 0x51AB, 0x51E0, 0x51F5, 0x5200, 0x529B, 0x52F9, 0x5315, 0x531A, 0x5338, 0x5341, 0x535C,
  0x5369, 0x5382, 0x53B6, 0x53C8, 0x53E3, 0x56D7, 0x571F, 0x58EB, 0x5902, 0x590A, 0x5915, 0x5927,
  0x5973, 0x5B50, 0x5B80, 0x5BF8, 0x5C0F, 0x5C22, 0x5C38, 0x5C6E, 0x5C71, 0x5DDB, 0x5DE5, 0x5DF1,
  0x5DFE, 0x5E72, 0x5E7A, 0x5E7F, 0x5EF4, 0x5EFE, 0x5F0B, 0x5F13, 0x5F50, 0x5F61, 0x5F73, 0x5FC3,
  0x6208, 0x6236, 0x624B, 0x652F, 0x6534, 0x6587, 0x6597, 0x65A4, 0x65B9, 0x65E0, 0x65E5, 0x66F0,
  0x6708, 0x6728, 0x6B20, 0x6B62, 0x6B79, 0x6BB3, 0x6BCB, 0x6BD4, 0x6BDB, 0x6C0F, 0x6C14, 0x6C34,
  0x706B, 0x722A, 0x7236, 0x723B, 0x723F, 0x7247, 0x7259, 0x725B, 0x72AC, 0x7384, 0x7389, 0x74DC,
  0x74E6, 0x7518, 0x751F, 0x7528, 0x7530, 0x758B, 0x7592, 0x7676, 0x767D, 0x76AE, 0x76BF, 0x76EE,
  0x77DB, 0x77E2, 0x77F3, 0x793A, 0x79B8, 0x79BE, 0x7A74, 0x7ACB, 0x7AF9, 0x7C73, 0x7CF8, 0x7F36,
  0x7F51, 0x7F8A, 0x7FBD, 0x8001, 0x800C, 0x8012, 0x8033, 0x807F, 0x8089, 0x81E3, 0x81EA, 0x81F3,
  0x81FC, 0x820C, 0x821B, 0x821F, 0x826E, 0x8272, 0x8278, 0x864D, 0x866B, 0x8840, 0x884C, 0x8863,
  0x897E, 0x898B, 0x89D2, 0x8A00, 0x8C37, 0x8C46, 0x8C55, 0x8C78, 0x8C9D, 0x8D64, 0x8D70, 0x8DB3,
  0x8EAB, 0x8ECA, 0x8F9B, 0x8FB0, 0x8FB5, 0x9091, 0x9149, 0x91C6, 0x91CC, 0x91D1, 0x9577, 0x9580,
  0x961C, 0x96B6, 0x96B9, 0x96E8, 0x9751, 0x975E, 0x9762, 0x9769, 0x97CB, 0x97ED, 0x97F3, 0x9801,
  0x98A8, 0x98DB, 0x98DF, 0x9996, 0x9999, 0x99AC, 0x9AA8, 0x9AD8, 0x9ADF, 0x9B25, 0x9B2F, 0x9B32,
  0x9B3C, 0x9B5A, 0x9CE5, 0x9E75, 0x9E7F, 0x9EA5, 0x9EBB, 0x9EC3, 0x9ECD, 0x9ED1, 0x9EF9, 0x9EFD,
  0x9F0E, 0x9F13, 0x9F20, 0x9F3B, 0x9F4A, 0x9F52, 0x9F8D, 0x9F9C, 0x9FA0])]

/-- What letters from 0x3000 on fold to. -/
def lettersHigh : Rows Nat := [
  (0x3000, [0x20]), (0x3002, [0x2E]), (0x3036, [0x3012]), (0x3038, [0x5341, 0x5344, 0x5345]),
  (0x3131, [0x1100, 0x1101, 0x11AA, 0x1102, 0x11AC, 0x11AD]), (0x3140, [0x111A]),
  (0x3144, [0x1121]), (0x3165, [0x1114, 0x1115, 0x11C7, 0x11C8, 0x11CC, 0x11CE, 0x11D3, 0x11D7,
  0x11D9, 0x111C, 0x11DD, 0x11DF, 0x111D, 0x111E, 0x1120, 0x1122, 0x1123, 0x1127, 0x1129]),
  (0x317D, [0x1132, 0x1136, 0x1140, 0x1147, 0x114C, 0x11F1, 0x11F2]), (0x3187, [0x1184, 0x1185,
  0x1188, 0x1191, 0x1192, 0x1194, 0x119E, 0x11A1]), (0x3192, [0x4E00, 0x4E8C, 0x4E09, 0x56DB,
  0x4E0A, 0x4E2D, 0x4E0B, 0x7532, 0x4E59, 0x4E19, 0x4E01, 0x5929, 0x5730, 0x4EBA]),
  (0x3244, [0x554F, 0x5E7C, 0x6587, 0x7B8F]), (0x3260, [0x1100, 0x1102, 0x1103]), (0x3266, [0x1109,
  0x110B, 0x110C]), (0x326E, [0xAC00, 0xB098, 0xB2E4, 0xB77C, 0xB9C8, 0xBC14, 0xC0AC, 0xC544,
  0xC790, 0xCC28, 0xCE74, 0xD0C0, 0xD30C, 0xD558]), (0x327E, [0xC6B0]), (0x3280, [0x4E00, 0x4E8C,
  0x4E09, 0x56DB, 0x4E94, 0x516D, 0x4E03, 0x516B, 0x4E5D, 0x5341, 0x6708, 0x706B, 0x6C34, 0x6728,
  0x91D1, 0x571F, 0x65E5, 0x682A, 0x6709, 0x793E, 0x540D, 0x7279, 0x8CA1, 0x795D, 0x52B4, 0x79D8,
  0x7537, 0x5973, 0x9069, 0x512A, 0x5370, 0x6CE8, 0x9805, 0x4F11, 0x5199, 0x6B63, 0x4E0A, 0x4E2D,
  0x4E0B, 0x5DE6, 0x53F3, 0x533B, 0x5B97, 0x5B66, 0x76E3, 0x4F01, 0x8CC7, 0x5354, 0x591C]),
  (0x32D0, [0x30A2, 0x30A4, 0x30A6, 0x30A8, 0x30AA, 0x30AB, 0x30AD, 0x30AF, 0x30B1, 0x30B3, 0x30B5,
  0x30B7, 0x30B9, 0x30BB, 0x30BD, 0x30BF, 0x30C1, 0x30C4, 0x30C6, 0x30C8]), (0x32EA, [0x30D2,
  0x30D5, 0x30D8, 0x30DB]), (0x32F3, [0x30E4, 0x30E6]), (0xA69C, [0x44A, 0x44C]),
  (0xA770, [0xA76F]), (0xA779, [0xA77A]), (0xA77B, [0xA77C]), (0xA77D, [0x1D79]),
  (0xA78B, [0xA78C]), (0xA78D, [0x265]), (0xA790, [0xA791]), (0xA792, [0xA793]), (0xA7AA, [0x266,
  0x25C, 0x261, 0x26C, 0x26A]), (0xA7B0, [0x29E, 0x287, 0x29D, 0xAB53]), (0xA7C4, [0xA794, 0x282,
  0x1D8E, 0xA7C8]), (0xA7C9, [0xA7CA]), (0xA7CB, [0x264]), (0xA7DC, [0x19B]), (0xA7F1, [0x73, 0x63,
  0x66, 0x71, 0xA7F6]), (0xA7F8, [0x127, 0x153]), (0xAB5C, [0xA727, 0xAB37, 0x26B, 0xAB52]),
  (0xAB69, [0x28D]), (0xFB20, [0x5E2, 0x5D0, 0x5D3, 0x5D4]), (0xFB27, [0x5E8, 0x5EA, 0x2B]),
  (0xFB50, [0x671, 0x671, 0x67B, 0x67B, 0x67B, 0x67B, 0x67E, 0x67E, 0x67E, 0x67E, 0x680, 0x680,
  0x680, 0x680, 0x67A, 0x67A, 0x67A, 0x67A, 0x67F, 0x67F, 0x67F, 0x67F, 0x679, 0x679, 0x679, 0x679,
  0x6A4, 0x6A4, 0x6A4, 0x6A4, 0x6A6, 0x6A6, 0x6A6, 0x6A6, 0x684, 0x684, 0x684, 0x684, 0x683, 0x683,
  0x683, 0x683, 0x686, 0x686, 0x686, 0x686, 0x687, 0x687, 0x687, 0x687, 0x68D, 0x68D, 0x68C, 0x68C,
  0x68E, 0x68E, 0x688, 0x688, 0x698, 0x698, 0x691, 0x691, 0x6A9, 0x6A9, 0x6A9, 0x6A9, 0x6AF, 0x6AF,
  0x6AF, 0x6AF, 0x6B3, 0x6B3, 0x6B3, 0x6B3, 0x6B1, 0x6B1, 0x6B1, 0x6B1, 0x6BA, 0x6BA, 0x6BB, 0x6BB,
  0x6BB, 0x6BB, 0x6C0, 0x6C0, 0x6C1, 0x6C1, 0x6C1, 0x6C1, 0x6BE, 0x6BE, 0x6BE, 0x6BE, 0x6D2, 0x6D2,
  0x6D3, 0x6D3]), (0xFBD3, [0x6AD, 0x6AD, 0x6AD, 0x6AD, 0x6C7, 0x6C7, 0x6C6, 0x6C6, 0x6C8, 0x6C8]),
  (0xFBDE, [0x6CB, 0x6CB, 0x6C5, 0x6C5, 0x6C9, 0x6C9, 0x6D0, 0x6D0, 0x6D0, 0x6D0, 0x649, 0x649]),
  (0xFBFC, [0x6CC, 0x6CC, 0x6CC, 0x6CC]), (0xFE10, [0x2C, 0x3001]), (0xFE13, [0x3A, 0x3B, 0x21,
  0x3F, 0x3016, 0x3017]), (0xFE31, [0x2014, 0x2013, 0x5F, 0x5F, 0x28, 0x29, 0x7B, 0x7D, 0x3014,
  0x3015, 0x3010, 0x3011, 0x300A, 0x300B, 0x3008, 0x3009]), (0xFE47, [0x5B, 0x5D]), (0xFE4D, [0x5F,
  0x5F, 0x5F, 0x2C, 0x3001]), (0xFE54, [0x3B, 0x3A, 0x3F, 0x21, 0x2014, 0x28, 0x29, 0x7B, 0x7D,
  0x3014, 0x3015, 0x23, 0x26, 0x2A, 0x2B, 0x2D, 0x3C, 0x3E, 0x3D]), (0xFE68, [0x5C, 0x24, 0x25,
  0x40]), (0xFE80, [0x621, 0x622, 0x622, 0x623, 0x623, 0x624, 0x624, 0x625, 0x625, 0x626, 0x626,
  0x626, 0x626, 0x627, 0x627, 0x628, 0x628, 0x628, 0x628, 0x629, 0x629, 0x62A, 0x62A, 0x62A, 0x62A,
  0x62B, 0x62B, 0x62B, 0x62B, 0x62C, 0x62C, 0x62C, 0x62C, 0x62D, 0x62D, 0x62D, 0x62D, 0x62E, 0x62E,
  0x62E, 0x62E, 0x62F, 0x62F, 0x630, 0x630, 0x631, 0x631, 0x632, 0x632, 0x633, 0x633, 0x633, 0x633,
  0x634, 0x634, 0x634, 0x634, 0x635, 0x635, 0x635, 0x635, 0x636, 0x636, 0x636, 0x636, 0x637, 0x637,
  0x637, 0x637, 0x638, 0x638, 0x638, 0x638, 0x639, 0x639, 0x639, 0x639, 0x63A, 0x63A, 0x63A, 0x63A,
  0x641, 0x641, 0x641, 0x641, 0x642, 0x642, 0x642, 0x642, 0x643, 0x643, 0x643, 0x643, 0x644, 0x644,
  0x644, 0x644, 0x645, 0x645, 0x645, 0x645, 0x646, 0x646, 0x646, 0x646, 0x647, 0x647, 0x647, 0x647,
  0x648, 0x648, 0x649, 0x649, 0x64A, 0x64A, 0x64A, 0x64A]), (0xFF5F, [0x2985, 0x2986, 0x2E, 0x300C,
  0x300D, 0x3001, 0x30FB, 0x30F2, 0x30A1, 0x30A3, 0x30A5, 0x30A7, 0x30A9, 0x30E3, 0x30E5, 0x30E7,
  0x30C3, 0x30FC, 0x30A2, 0x30A4, 0x30A6, 0x30A8, 0x30AA, 0x30AB, 0x30AD, 0x30AF, 0x30B1, 0x30B3,
  0x30B5, 0x30B7, 0x30B9, 0x30BB, 0x30BD, 0x30BF, 0x30C1, 0x30C4, 0x30C6, 0x30C8]),
  (0xFF8B, [0x30D2, 0x30D5, 0x30D8, 0x30DB]), (0xFF94, [0x30E4, 0x30E6]), (0xFF9C, [0x30EF, 0x30F3,
  0x3099, 0x309A]), (0xFFA1, [0x1100, 0x1101, 0x11AA, 0x1102, 0x11AC, 0x11AD]), (0xFFB0, [0x111A]),
  (0xFFB4, [0x1121]), (0xFFE0, [0xA2, 0xA3, 0xAC]), (0xFFE4, [0xA6, 0xA5, 0x20A9]),
  (0xFFE8, [0x2502]), (0xFFED, [0x25A0, 0x25CB]), (0x10595, [0x105BC]), (0x10781, [0x2D0, 0x2D1,
  0xE6, 0x299, 0x253]), (0x10787, [0x2A3, 0xAB66, 0x2A5, 0x2A4, 0x256, 0x257, 0x1D91, 0x258, 0x25E,
  0x2A9, 0x264, 0x262, 0x260, 0x29B, 0x127, 0x29C, 0x267, 0x284, 0x2AA, 0x2AB, 0x26C, 0x1DF04,
  0xA78E, 0x26E, 0x1DF05, 0x28E, 0x1DF06, 0xF8, 0x276, 0x277, 0x71, 0x27A, 0x1DF08, 0x27D, 0x27E,
  0x280, 0x2A8, 0x2A6, 0xAB67, 0x2A7, 0x288, 0x2C71]), (0x107B2, [0x28F, 0x2A1, 0x2A2, 0x298]),
  (0x107B9, [0x1DF0A, 0x1DF1E]), (0x1D49C, [0x61]), (0x1D49E, [0x63, 0x64]), (0x1D4A2, [0x67]),
  (0x1D4A5, [0x6A, 0x6B]), (0x1D504, [0x61]), (0x1D508, [0x65]), (0x1D50A, [0x67]),
  (0x1D538, [0x61]), (0x1D541, [0x6A]), (0x1D543, [0x6C]), (0x1D6A4, [0x131, 0x237]),
  (0x1D6B9, [0x3B8]), (0x1D6C1, [0x2207]), (0x1D6D3, [0x3C3]), (0x1D6DB, [0x2202, 0x3B5, 0x3B8,
  0x3BA, 0x3C6, 0x3C1, 0x3C0]), (0x1D6F3, [0x3B8]), (0x1D6FB, [0x2207]), (0x1D70D, [0x3C3]),
  (0x1D715, [0x2202, 0x3B5, 0x3B8, 0x3BA, 0x3C6, 0x3C1, 0x3C0]), (0x1D72D, [0x3B8]),
  (0x1D735, [0x2207]), (0x1D747, [0x3C3]), (0x1D74F, [0x2202, 0x3B5, 0x3B8, 0x3BA, 0x3C6, 0x3C1,
  0x3C0]), (0x1D767, [0x3B8]), (0x1D76F, [0x2207]), (0x1D781, [0x3C3]), (0x1D789, [0x2202, 0x3B5,
  0x3B8, 0x3BA, 0x3C6, 0x3C1, 0x3C0]), (0x1D7A1, [0x3B8]), (0x1D7A9, [0x2207]), (0x1D7BB, [0x3C3]),
  (0x1D7C3, [0x2202, 0x3B5, 0x3B8, 0x3BA, 0x3C6, 0x3C1, 0x3C0, 0x3DD, 0x3DD]), (0x1E047, [0x44B,
  0x44D, 0x44E, 0xA689, 0x4D9, 0x456, 0x458, 0x4E9, 0x4AF, 0x4CF]), (0x1E05A, [0x43A, 0x43B, 0x43E,
  0x43F, 0x441]), (0x1E065, [0x44A, 0x44B, 0x491, 0x456, 0x455, 0x45F, 0x4AB, 0xA651, 0x4B1]),
  (0x1EE00, [0x627, 0x628, 0x62C, 0x62F]), (0x1EE05, [0x648, 0x632, 0x62D, 0x637, 0x64A]),
  (0x1EE0E, [0x633, 0x639, 0x641, 0x635, 0x642, 0x631, 0x634, 0x62A, 0x62B, 0x62E, 0x630, 0x636,
  0x638, 0x63A, 0x66E, 0x6BA, 0x6A1, 0x66F]), (0x1EE21, [0x628, 0x62C]), (0x1EE24, [0x647]),
  (0x1EE27, [0x62D]), (0x1EE29, [0x64A]), (0x1EE2E, [0x633, 0x639, 0x641, 0x635, 0x642]),
  (0x1EE34, [0x634, 0x62A, 0x62B, 0x62E]), (0x1EE39, [0x636]), (0x1EE3B, [0x63A]),
  (0x1EE42, [0x62C]), (0x1EE47, [0x62D]), (0x1EE49, [0x64A]), (0x1EE4B, [0x644]), (0x1EE4D, [0x646,
  0x633, 0x639]), (0x1EE51, [0x635, 0x642]), (0x1EE54, [0x634]), (0x1EE57, [0x62E]),
  (0x1EE59, [0x636]), (0x1EE5B, [0x63A]), (0x1EE5D, [0x6BA]), (0x1EE5F, [0x66F]), (0x1EE61, [0x628,
  0x62C]), (0x1EE64, [0x647]), (0x1EE67, [0x62D, 0x637, 0x64A, 0x643]), (0x1EE6C, [0x645, 0x646,
  0x633, 0x639, 0x641, 0x635, 0x642]), (0x1EE74, [0x634, 0x62A, 0x62B, 0x62E]), (0x1EE79, [0x636,
  0x638, 0x63A, 0x66E]), (0x1EE7E, [0x6A1]), (0x1EE80, [0x627, 0x628, 0x62C, 0x62F, 0x647, 0x648,
  0x632, 0x62D, 0x637, 0x64A]), (0x1EE8E, [0x633, 0x639, 0x641, 0x635, 0x642, 0x631, 0x634, 0x62A,
  0x62B, 0x62E, 0x630, 0x636, 0x638, 0x63A]), (0x1EEA1, [0x628, 0x62C, 0x62F]), (0x1EEA5, [0x648,
  0x632, 0x62D, 0x637, 0x64A]), (0x1EEAE, [0x633, 0x639, 0x641, 0x635, 0x642, 0x631, 0x634, 0x62A,
  0x62B, 0x62E, 0x630, 0x636, 0x638, 0x63A]), (0x1F12B, [0x63, 0x72]), (0x1F202, [0x30B5]),
  (0x1F210, [0x624B, 0x5B57, 0x53CC, 0x30C7, 0x4E8C, 0x591A, 0x89E3, 0x5929, 0x4EA4, 0x6620, 0x7121,
  0x6599, 0x524D, 0x5F8C, 0x518D, 0x65B0, 0x521D, 0x7D42, 0x751F, 0x8CA9, 0x58F0, 0x5439, 0x6F14,
  0x6295, 0x6355, 0x4E00, 0x4E09, 0x904A, 0x5DE6, 0x4E2D, 0x53F3, 0x6307, 0x8D70, 0x6253, 0x7981,
  0x7A7A, 0x5408, 0x6E80, 0x6709, 0x6708, 0x7533, 0x5272, 0x55B6, 0x914D]), (0x1F250, [0x5F97,
  0x53EF])]

end Watchdesk.Domain
