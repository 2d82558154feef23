import NativeExports.Text.Ranges
/-!
Grapheme cluster break properties of Unicode 15.0, the data by which text is cut into
user-perceived characters (Unicode Standard Annex 29).  Each property is a table of code point
ranges: characters that extend the cluster before them, spacing marks, prepended characters,
controls, and the extended pictographs that a zero-width joiner may chain.
-/

namespace NativeExports.Text

/-- Characters that join the cluster before them: nonspacing and enclosing marks, some spacing vowel signs, the zero-width non-joiner, emoji modifiers and tags. -/
def extendTable : RangeTable := [
  (0x300, 0x36F),
  (0x483, 0x489),
  (0x591, 0x5BD),
  (0x5BF, 0x5BF),
  (0x5C1, 0x5C2),
  (0x5C4, 0x5C5),
  (0x5C7, 0x5C7),
  (0x610, 0x61A),
  (0x64B, 0x65F),
  (0x670, 0x670),
  (0x6D6, 0x6DC),
  (0x6DF, 0x6E4),
  (0x6E7, 0x6E8),
  (0x6EA, 0x6ED),
  (0x711, 0x711),
  (0x730, 0x74A),
  (0x7A6, 0x7B0),
  (0x7EB, 0x7F3),
  (0x7FD, 0x7FD),
  (0x816, 0x819),
  (0x81B, 0x823),
  (0x825, 0x827),
  (0x829, 0x82D),
  (0x859, 0x85B),
  (0x898, 0x89F),
  (0x8CA, 0x8E1),
  (0x8E3, 0x902),
  (0x93A, 0x93A),
  (0x93C, 0x93C),
  (0x941, 0x948),
  (0x94D, 0x94D),
  (0x951, 0x957),
  (0x962, 0x963),
  (0x981, 0x981),
  (0x9BC, 0x9BC),
  (0x9BE, 0x9BE),
  (0x9C1, 0x9C4),
  (0x9CD, 0x9CD),
  (0x9D7, 0x9D7),
  (0x9E2, 0x9E3),
  (0x9FE, 0x9FE),
  (0xA01, 0xA02),
  (0xA3C, 0xA3C),
  (0xA41, 0xA42),
  (0xA47, 0xA48),
  (0xA4B, 0xA4D),
  (0xA51, 0xA51),
  (0xA70, 0xA71),
  (0xA75, 0xA75),
  (0xA81, 0xA82),
  (0xABC, 0xABC),
  (0xAC1, 0xAC5),
  (0xAC7, 0xAC8),
  (0xACD, 0xACD),
  (0xAE2, 0xAE3),
  (0xAFA, 0xAFF),
  (0xB01, 0xB01),
  (0xB3C, 0xB3C),
  (0xB3E, 0xB3F),
  (0xB41, 0xB44),
  (0xB4D, 0xB4D),
  (0xB55, 0xB57),
  (0xB62, 0xB63),
  (0xB82, 0xB82),
  (0xBBE, 0xBBE),
  (0xBC0, 0xBC0),
  (0xBCD, 0xBCD),
  (0xBD7, 0xBD7),
  (0xC00, 0xC00),
  (0xC04, 0xC04),
  (0xC3C, 0xC3C),
  (0xC3E, 0xC40),
  (0xC46, 0xC48),
  (0xC4A, 0xC4D),
  (0xC55, 0xC56),
  (0xC62, 0xC63),
  (0xC81, 0xC81),
  (0xCBC, 0xCBC),
  (0xCBF, 0xCBF),
  (0xCC2, 0xCC2),
  (0xCC6, 0xCC6),
  (0xCCC, 0xCCD),
  (0xCD5, 0xCD6),
  (0xCE2, 0xCE3),
  (0xD00, 0xD01),
  (0xD3B, 0xD3C),
  (0xD3E, 0xD3E),
  (0xD41, 0xD44),
  (0xD4D, 0xD4D),
  (0xD57, 0xD57),
  (0xD62, 0xD63),
  (0xD81, 0xD81),
  (0xDCA, 0xDCA),
  (0xDCF, 0xDCF),
  (0xDD2, 0xDD4),
  (0xDD6, 0xDD6),
  (0xDDF, 0xDDF),
  (0xE31, 0xE31),
  (0xE34, 0xE3A),
  (0xE47, 0xE4E),
  (0xEB1, 0xEB1),
  (0xEB4, 0xEBC),
  (0xEC8, 0xECE),
  (0xF18, 0xF19),
  (0xF35, 0xF35),
  (0xF37, 0xF37),
  (0xF39, 0xF39),
  (0xF71, 0xF7E),
  (0xF80, 0xF84),
  (0xF86, 0xF87),
  (0xF8D, 0xF97),
  (0xF99, 0xFBC),
  (0xFC6, 0xFC6),
  (0x102D, 0x1030),
  (0x1032, 0x1037),
  (0x1039, 0x103A),
  (0x103D, 0x103E),
  (0x1058, 0x1059),
  (0x105E, 0x1060),
  (0x1071, 0x1074),
  (0x1082, 0x1082),
  (0x1085, 0x1086),
  (0x108D, 0x108D),
  (0x109D, 0x109D),
  (0x135D, 0x135F),
  (0x1712, 0x1714),
  (0x1732, 0x1733),
  (0x1752, 0x1753),
  (0x1772, 0x1773),
  (0x17B4, 0x17B5),
  (0x17B7, 0x17BD),
  (0x17C6, 0x17C6),
  (0x17C9, 0x17D3),
  (0x17DD, 0x17DD),
  (0x180B, 0x180D),
  (0x180F, 0x180F),
  (0x1885, 0x1886),
  (0x18A9, 0x18A9),
  (0x1920, 0x1922),
  (0x1927, 0x1928),
  (0x1932, 0x1932),
  (0x1939, 0x193B),
  (0x1A17, 0x1A18),
  (0x1A1B, 0x1A1B),
  (0x1A56, 0x1A56),
  (0x1A58, 0x1A5E),
  (0x1A60, 0x1A60),
  (0x1A62, 0x1A62),
  (0x1A65, 0x1A6C),
  (0x1A73, 0x1A7C),
  (0x1A7F, 0x1A7F),
  (0x1AB0, 0x1ACE),
  (0x1B00, 0x1B03),
  (0x1B34, 0x1B3A),
  (0x1B3C, 0x1B3C),
  (0x1B42, 0x1B42),
  (0x1B6B, 0x1B73),
  (0x1B80, 0x1B81),
  (0x1BA2, 0x1BA5),
  (0x1BA8, 0x1BA9),
  (0x1BAB, 0x1BAD),
  (0x1BE6, 0x1BE6),
  (0x1BE8, 0x1BE9),
  (0x1BED, 0x1BED),
  (0x1BEF, 0x1BF1),
  (0x1C2C, 0x1C33),
  (0x1C36, 0x1C37),
  (0x1CD0, 0x1CD2),
  (0x1CD4, 0x1CE0),
  (0x1CE2, 0x1CE8),
  (0x1CED, 0x1CED),
  (0x1CF4, 0x1CF4),
  (0x1CF8, 0x1CF9),
  (0x1DC0, 0x1DFF),
  (0x200C, 0x200C),
  (0x20D0, 0x20F0),
  (0x2CEF, 0x2CF1),
  (0x2D7F, 0x2D7F),
  (0x2DE0, 0x2DFF),
  (0x302A, 0x302F),
  (0x3099, 0x309A),
  (0xA66F, 0xA672),
  (0xA674, 0xA67D),
  (0xA69E, 0xA69F),
  (0xA6F0, 0xA6F1),
  (0xA802, 0xA802),
  (0xA806, 0xA806),
  (0xA80B, 0xA80B),
  (0xA825, 0xA826),
  (0xA82C, 0xA82C),
  (0xA8C4, 0xA8C5),
  (0xA8E0, 0xA8F1),
  (0xA8FF, 0xA8FF),
  (0xA926, 0xA92D),
  (0xA947, 0xA951),
  (0xA980, 0xA982),
  (0xA9B3, 0xA9B3),
  (0xA9B6, 0xA9B9),
  (0xA9BC, 0xA9BD),
  (0xA9E5, 0xA9E5),
  (0xAA29, 0xAA2E),
  (0xAA31, 0xAA32),
  (0xAA35, 0xAA36),
  (0xAA43, 0xAA43),
  (0xAA4C, 0xAA4C),
  (0xAA7C, 0xAA7C),
  (0xAAB0, 0xAAB0),
  (0xAAB2, 0xAAB4),
  (0xAAB7, 0xAAB8),
  (0xAABE, 0xAABF),
  (0xAAC1, 0xAAC1),
  (0xAAEC, 0xAAED),
  (0xAAF6, 0xAAF6),
  (0xABE5, 0xABE5),
  (0xABE8, 0xABE8),
  (0xABED, 0xABED),
  (0xFB1E, 0xFB1E),
  (0xFE00, 0xFE0F),
  (0xFE20, 0xFE2F),
  (0xFF9E, 0xFF9F),
  (0x101FD, 0x101FD),
  (0x102E0, 0x102E0),
  (0x10376, 0x1037A),
  (0x10A01, 0x10A03),
  (0x10A05, 0x10A06),
  (0x10A0C, 0x10A0F),
  (0x10A38, 0x10A3A),
  (0x10A3F, 0x10A3F),
  (0x10AE5, 0x10AE6),
  (0x10D24, 0x10D27),
  (0x10EAB, 0x10EAC),
  (0x10EFD, 0x10EFF),
  (0x10F46, 0x10F50),
  (0x10F82, 0x10F85),
  (0x11001, 0x11001),
  (0x11038, 0x11046),
  (0x11070, 0x11070),
  (0x11073, 0x11074),
  (0x1107F, 0x11081),
  (0x110B3, 0x110B6),
  (0x110B9, 0x110BA),
  (0x110C2, 0x110C2),
  (0x11100, 0x11102),
  (0x11127, 0x1112B),
  (0x1112D, 0x11134),
  (0x11173, 0x11173),
  (0x11180, 0x11181),
  (0x111B6, 0x111BE),
  (0x111C9, 0x111CC),
  (0x111CF, 0x111CF),
  (0x1122F, 0x11231),
  (0x11234, 0x11234),
  (0x11236, 0x11237),
  (0x1123E, 0x1123E),
  (0x11241, 0x11241),
  (0x112DF, 0x112DF),
  (0x112E3, 0x112EA),
  (0x11300, 0x11301),
  (0x1133B, 0x1133C),
  (0x1133E, 0x1133E),
  (0x11340, 0x11340),
  (0x11357, 0x11357),
  (0x11366, 0x1136C),
  (0x11370, 0x11374),
  (0x11438, 0x1143F),
  (0x11442, 0x11444),
  (0x11446, 0x11446),
  (0x1145E, 0x1145E),
  (0x114B0, 0x114B0),
  (0x114B3, 0x114B8),
  (0x114BA, 0x114BA),
  (0x114BD, 0x114BD),
  (0x114BF, 0x114C0),
  (0x114C2, 0x114C3),
  (0x115AF, 0x115AF),
  (0x115B2, 0x115B5),
  (0x115BC, 0x115BD),
  (0x115BF, 0x115C0),
  (0x115DC, 0x115DD),
  (0x11633, 0x1163A),
  (0x1163D, 0x1163D),
  (0x1163F, 0x11640),
  (0x116AB, 0x116AB),
  (0x116AD, 0x116AD),
  (0x116B0, 0x116B5),
  (0x116B7, 0x116B7),
  (0x1171D, 0x1171F),
  (0x11722, 0x11725),
  (0x11727, 0x1172B),
  (0x1182F, 0x11837),
  (0x11839, 0x1183A),
  (0x11930, 0x11930),
  (0x1193B, 0x1193C),
  (0x1193E, 0x1193E),
  (0x11943, 0x11943),
  (0x119D4, 0x119D7),
  (0x119DA, 0x119DB),
  (0x119E0, 0x119E0),
  (0x11A01, 0x11A0A),
  (0x11A33, 0x11A38),
  (0x11A3B, 0x11A3E),
  (0x11A47, 0x11A47),
  (0x11A51, 0x11A56),
  (0x11A59, 0x11A5B),
  (0x11A8A, 0x11A96),
  (0x11A98, 0x11A99),
  (0x11C30, 0x11C36),
  (0x11C38, 0x11C3D),
  (0x11C3F, 0x11C3F),
  (0x11C92, 0x11CA7),
  (0x11CAA, 0x11CB0),
  (0x11CB2, 0x11CB3),
  (0x11CB5, 0x11CB6),
  (0x11D31, 0x11D36),
  (0x11D3A, 0x11D3A),
  (0x11D3C, 0x11D3D),
  (0x11D3F, 0x11D45),
  (0x11D47, 0x11D47),
  (0x11D90, 0x11D91),
  (0x11D95, 0x11D95),
  (0x11D97, 0x11D97),
  (0x11EF3, 0x11EF4),
  (0x11F00, 0x11F01),
  (0x11F36, 0x11F3A),
  (0x11F40, 0x11F40),
  (0x11F42, 0x11F42),
  (0x13440, 0x13440),
  (0x13447, 0x13455),
  (0x16AF0, 0x16AF4),
  (0x16B30, 0x16B36),
  (0x16F4F, 0x16F4F),
  (0x16F8F, 0x16F92),
  (0x16FE4, 0x16FE4),
  (0x1BC9D, 0x1BC9E),
  (0x1CF00, 0x1CF2D),
  (0x1CF30, 0x1CF46),
  (0x1D165, 0x1D165),
  (0x1D167, 0x1D169),
  (0x1D16E, 0x1D172),
  (0x1D17B, 0x1D182),
  (0x1D185, 0x1D18B),
  (0x1D1AA, 0x1D1AD),
  (0x1D242, 0x1D244),
  (0x1DA00, 0x1DA36),
  (0x1DA3B, 0x1DA6C),
  (0x1DA75, 0x1DA75),
  (0x1DA84, 0x1DA84),
  (0x1DA9B, 0x1DA9F),
  (0x1DAA1, 0x1DAAF),
  (0x1E000, 0x1E006),
  (0x1E008, 0x1E018),
  (0x1E01B, 0x1E021),
  (0x1E023, 0x1E024),
  (0x1E026, 0x1E02A),
  (0x1E08F, 0x1E08F),
  (0x1E130, 0x1E136),
  (0x1E2AE, 0x1E2AE),
  (0x1E2EC, 0x1E2EF),
  (0x1E4EC, 0x1E4EF),
  (0x1E8D0, 0x1E8D6),
  (0x1E944, 0x1E94A),
  (0x1F3FB, 0x1F3FF),
  (0xE0020, 0xE007F),
  (0xE0100, 0xE01EF)]

/-- Spacing marks, which join the cluster before them. -/
def spacingMarkTable : RangeTable := [
  (0x903, 0x903),
  (0x93B, 0x93B),
  (0x93E, 0x940),
  (0x949, 0x94C),
  (0x94E, 0x94F),
  (0x982, 0x983),
  (0x9BF, 0x9C0),
  (0x9C7, 0x9C8),
  (0x9CB, 0x9CC),
  (0xA03, 0xA03),
  (0xA3E, 0xA40),
  (0xA83, 0xA83),
  (0xABE, 0xAC0),
  (0xAC9, 0xAC9),
  (0xACB, 0xACC),
  (0xB02, 0xB03),
  (0xB40, 0xB40),
  (0xB47, 0xB48),
  (0xB4B, 0xB4C),
  (0xBBF, 0xBBF),
  (0xBC1, 0xBC2),
  (0xBC6, 0xBC8),
  (0xBCA, 0xBCC),
  (0xC01, 0xC03),
  (0xC41, 0xC44),
  (0xC82, 0xC83),
  (0xCBE, 0xCBE),
  (0xCC0, 0xCC1),
  (0xCC3, 0xCC4),
  (0xCC7, 0xCC8),
  (0xCCA, 0xCCB),
  (0xCF3, 0xCF3),
  (0xD02, 0xD03),
  (0xD3F, 0xD40),
  (0xD46, 0xD48),
  (0xD4A, 0xD4C),
  (0xD82, 0xD83),
  (0xDD0, 0xDD1),
  (0xDD8, 0xDDE),
  (0xDF2, 0xDF3),
  (0xE33, 0xE33),
  (0xEB3, 0xEB3),
  (0xF3E, 0xF3F),
  (0xF7F, 0xF7F),
  (0x1031, 0x1031),
  (0x103B, 0x103C),
  (0x1056, 0x1057),
  (0x1084, 0x1084),
  (0x1715, 0x1715),
  (0x1734, 0x1734),
  (0x17B6, 0x17B6),
  (0x17BE, 0x17C5),
  (0x17C7, 0x17C8),
  (0x1923, 0x1926),
  (0x1929, 0x192B),
  (0x1930, 0x1931),
  (0x1933, 0x1938),
  (0x1A19, 0x1A1A),
  (0x1A55, 0x1A55),
  (0x1A57, 0x1A57),
  (0x1A6D, 0x1A72),
  (0x1B04, 0x1B04),
  (0x1B3B, 0x1B3B),
  (0x1B3D, 0x1B41),
  (0x1B43, 0x1B44),
  (0x1B82, 0x1B82),
  (0x1BA1, 0x1BA1),
  (0x1BA6, 0x1BA7),
  (0x1BAA, 0x1BAA),
  (0x1BE7, 0x1BE7),
  (0x1BEA, 0x1BEC),
  (0x1BEE, 0x1BEE),
  (0x1BF2, 0x1BF3),
  (0x1C24, 0x1C2B),
  (0x1C34, 0x1C35),
  (0x1CE1, 0x1CE1),
  (0x1CF7, 0x1CF7),
  (0xA823, 0xA824),
  (0xA827, 0xA827),
  (0xA880, 0xA881),
  (0xA8B4, 0xA8C3),
  (0xA952, 0xA953),
  (0xA983, 0xA983),
  (0xA9B4, 0xA9B5),
  (0xA9BA, 0xA9BB),
  (0xA9BE, 0xA9C0),
  (0xAA2F, 0xAA30),
  (0xAA33, 0xAA34),
  (0xAA4D, 0xAA4D),
  (0xAAEB, 0xAAEB),
  (0xAAEE, 0xAAEF),
  (0xAAF5, 0xAAF5),
  (0xABE3, 0xABE4),
  (0xABE6, 0xABE7),
  (0xABE9, 0xABEA),
  (0xABEC, 0xABEC),
  (0x11000, 0x11000),
  (0x11002, 0x11002),
  (0x11082, 0x11082),
  (0x110B0, 0x110B2),
  (0x110B7, 0x110B8),
  (0x1112C, 0x1112C),
  (0x11145, 0x11146),
  (0x11182, 0x11182),
  (0x111B3, 0x111B5),
  (0x111BF, 0x111C0),
  (0x111CE, 0x111CE),
  (0x1122C, 0x1122E),
  (0x11232, 0x11233),
  (0x11235, 0x11235),
  (0x112E0, 0x112E2),
  (0x11302, 0x11303),
  (0x1133F, 0x1133F),
  (0x11341, 0x11344),
  (0x11347, 0x11348),
  (0x1134B, 0x1134D),
  (0x11362, 0x11363),
  (0x11435, 0x11437),
  (0x11440, 0x11441),
  (0x11445, 0x11445),
  (0x114B1, 0x114B2),
  (0x114B9, 0x114B9),
  (0x114BB, 0x114BC),
  (0x114BE, 0x114BE),
  (0x114C1, 0x114C1),
  (0x115B0, 0x115B1),
  (0x115B8, 0x115BB),
  (0x115BE, 0x115BE),
  (0x11630, 0x11632),
  (0x1163B, 0x1163C),
  (0x1163E, 0x1163E),
  (0x116AC, 0x116AC),
  (0x116AE, 0x116AF),
  (0x116B6, 0x116B6),
  (0x11726, 0x11726),
  (0x1182C, 0x1182E),
  (0x11838, 0x11838),
  (0x11931, 0x11935),
  (0x11937, 0x11938),
  (0x1193D, 0x1193D),
  (0x11940, 0x11940),
  (0x11942, 0x11942),
  (0x119D1, 0x119D3),
  (0x119DC, 0x119DF),
  (0x119E4, 0x119E4),
  (0x11A39, 0x11A39),
  (0x11A57, 0x11A58),
  (0x11A97, 0x11A97),
  (0x11C2F, 0x11C2F),
  (0x11C3E, 0x11C3E),
  (0x11CA9, 0x11CA9),
  (0x11CB1, 0x11CB1),
  (0x11CB4, 0x11CB4),
  (0x11D8A, 0x11D8E),
  (0x11D93, 0x11D94),
  (0x11D96, 0x11D96),
  (0x11EF5, 0x11EF6),
  (0x11F03, 0x11F03),
  (0x11F34, 0x11F35),
  (0x11F3E, 0x11F3F),
  (0x11F41, 0x11F41),
  (0x16F51, 0x16F87),
  (0x16FF0, 0x16FF1),
  (0x1D166, 0x1D166),
  (0x1D16D, 0x1D16D)]

/-- Prepended characters, which join the cluster after them. -/
def prependTable : RangeTable := [
  (0x600, 0x605),
  (0x6DD, 0x6DD),
  (0x70F, 0x70F),
  (0x890, 0x891),
  (0x8E2, 0x8E2),
  (0xD4E, 0xD4E),
  (0x110BD, 0x110BD),
  (0x110CD, 0x110CD),
  (0x111C2, 0x111C3),
  (0x1193F, 0x1193F),
  (0x11941, 0x11941),
  (0x11A3A, 0x11A3A),
  (0x11A84, 0x11A89),
  (0x11D46, 0x11D46),
  (0x11F02, 0x11F02)]

/-- Controls, separators and format characters, each a cluster of its own (CR and LF apart). -/
def controlTable : RangeTable := [
  (0x0, 0x9),
  (0xB, 0xC),
  (0xE, 0x1F),
  (0x7F, 0x9F),
  (0xAD, 0xAD),
  (0x61C, 0x61C),
  (0x180E, 0x180E),
  (0x200B, 0x200B),
  (0x200E, 0x200F),
  (0x2028, 0x202E),
  (0x2060, 0x206F),
  (0xFEFF, 0xFEFF),
  (0xFFF0, 0xFFFB),
  (0x13430, 0x1343F),
  (0x1BCA0, 0x1BCA3),
  (0x1D173, 0x1D17A),
  (0xE0000, 0xE001F),
  (0xE0080, 0xE00FF),
  (0xE01F0, 0xE0FFF)]

/-- Extended pictographs: emoji and the symbols reserved for them. -/
def pictographicTable : RangeTable := [
  (0xA9, 0xA9),
  (0xAE, 0xAE),
  (0x203C, 0x203C),
  (0x2049, 0x2049),
  (0x2122, 0x2122),
  (0x2139, 0x2139),
  (0x2194, 0x2199),
  (0x21A9, 0x21AA),
  (0x231A, 0x231B),
  (0x2328, 0x2328),
  (0x2388, 0x2388),
  (0x23CF, 0x23CF),
  (0x23E9, 0x23F3),
  (0x23F8, 0x23FA),
  (0x24C2, 0x24C2),
  (0x25AA, 0x25AB),
  (0x25B6, 0x25B6),
  (0x25C0, 0x25C0),
  (0x25FB, 0x25FE),
  (0x2600, 0x2605),
  (0x2607, 0x2612),
  (0x2614, 0x2685),
  (0x2690, 0x2705),
  (0x2708, 0x2712),
  (0x2714, 0x2714),
  (0x2716, 0x2716),
  (0x271D, 0x271D),
  (0x2721, 0x2721),
  (0x2728, 0x2728),
  (0x2733, 0x2734),
  (0x2744, 0x2744),
  (0x2747, 0x2747),
  (0x274C, 0x274C),
  (0x274E, 0x274E),
  (0x2753, 0x2755),
  (0x2757, 0x2757),
  (0x2763, 0x2767),
  (0x2795, 0x2797),
  (0x27A1, 0x27A1),
  (0x27B0, 0x27B0),
  (0x27BF, 0x27BF),
  (0x2934, 0x2935),
  (0x2B05, 0x2B07),
  (0x2B1B, 0x2B1C),
  (0x2B50, 0x2B50),
  (0x2B55, 0x2B55),
  (0x3030, 0x3030),
  (0x303D, 0x303D),
  (0x3297, 0x3297),
  (0x3299, 0x3299),
  (0x1F000, 0x1F0FF),
  (0x1F10D, 0x1F10F),
  (0x1F12F, 0x1F12F),
  (0x1F16C, 0x1F171),
  (0x1F17E, 0x1F17F),
  (0x1F18E, 0x1F18E),
  (0x1F191, 0x1F19A),
  (0x1F1AD, 0x1F1E5),
  (0x1F201, 0x1F20F),
  (0x1F21A, 0x1F21A),
  (0x1F22F, 0x1F22F),
  (0x1F232, 0x1F23A),
  (0x1F23C, 0x1F23F),
  (0x1F249, 0x1F3FA),
  (0x1F400, 0x1F53D),
  (0x1F546, 0x1F64F),
  (0x1F680, 0x1F6FF),
  (0x1F774, 0x1F77F),
  (0x1F7D5, 0x1F7FF),
  (0x1F80C, 0x1F80F),
  (0x1F848, 0x1F84F),
  (0x1F85A, 0x1F85F),
  (0x1F888, 0x1F88F),
  (0x1F8AE, 0x1F8FF),
  (0x1F90C, 0x1F93A),
  (0x1F93C, 0x1F945),
  (0x1F947, 0x1FAFF),
  (0x1FC00, 0x1FFFD)]

end NativeExports.Text
