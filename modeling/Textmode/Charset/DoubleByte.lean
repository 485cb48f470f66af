import Textmode.Text.Blank

/-! The characters of two octets in the East Asian sets, as far as art is known to use
them. An entry holds the two octets as one number, and the character they stand for. -/

set_option autoImplicit false

namespace Textmode.Charset

abbrev Index := List (Nat × Nat)

/-- Common to GBK and GB18030. -/
def gbIndex : Index :=
  [(0x8881, 0x5787), (0x88A1, 0x57BA), (0xA1A1, 0x3000), (0xA1A3, 0x3002), (0xA1A4, 0x00B7),
   (0xA1A7, 0x00A8), (0xA1AA, 0x2014), (0xA1AD, 0x2026), (0xA1B8, 0x300C), (0xA1B9, 0x300D),
   (0xA1C0, 0x00B1), (0xA1C1, 0x00D7), (0xA1C2, 0x00F7), (0xA1E3, 0x00B0), (0xA1E8, 0x00A4),
   (0xA1EC, 0x00A7), (0xA1EE, 0x2606), (0xA1EF, 0x2605), (0xA1F5, 0x25A1), (0xA1F6, 0x25A0),
   (0xA1FA, 0x2192), (0xA1FB, 0x2190), (0xA2E3, 0x20AC), (0xA3A1, 0xFF01), (0xA3B1, 0xFF11),
   (0xA3B2, 0xFF12), (0xA3C1, 0xFF21), (0xA4A2, 0x3042), (0xA5A2, 0x30A2), (0xA7D3, 0x0432),
   (0xA7D6, 0x0435), (0xA7DA, 0x0438), (0xA7E1, 0x043F), (0xA7E2, 0x0440), (0xA7E4, 0x0442),
   (0xA854, 0x2550), (0xA855, 0x2551), (0xA880, 0x2588), (0xA888, 0x2593), (0xA8A6, 0x00E9),
   (0xA9A4, 0x2500), (0xA9A6, 0x2502), (0xB1BE, 0x672C), (0xBAC3, 0x597D), (0xBDCD, 0x9175),
   (0xBDE7, 0x754C), (0xBDEF, 0x65A4), (0xBED5, 0x83CA), (0xBFBD, 0x62F7), (0xC0BD, 0x6F9C),
   (0xC3A8, 0x732B), (0xC441, 0x8141), (0xC4E3, 0x4F60), (0xC8D5, 0x65E5), (0xCAC0, 0x4E16),
   (0xCDBB, 0x7A81), (0xCEC4, 0x6587), (0xD0CE, 0x5F62), (0xD55A, 0x8A9E), (0xD5B1, 0x6BE1),
   (0xD6D0, 0x4E2D), (0xE3BA, 0x612B), (0xE7A8, 0x7ECB), (0xEFA1, 0x94E9), (0xEFBF, 0x951F),
   (0xF6A1, 0x89E5), (0xFAD6, 0xE325)]

def big5Index : Index :=
  [(0xA140, 0x3000), (0xA143, 0x3002), (0xA175, 0x300C), (0xA1B9, 0x2605), (0xA1BD, 0x25A0),
   (0xA1F6, 0x2190), (0xA1F7, 0x2192), (0xA269, 0x2588), (0xA2A4, 0x2550), (0xA440, 0x4E00),
   (0xA4A1, 0x4E11), (0xA4A2, 0x4E10), (0xA4A4, 0x4E2D), (0xA4A5, 0x4E30), (0xA4E5, 0x6587),
   (0xA4E9, 0x65E5), (0xA540, 0x4E16), (0xA5BB, 0x672C), (0xA66E, 0x597D), (0xA741, 0x4F60),
   (0xACC9, 0x754C), (0xB9A1, 0x98FD), (0xBBBB, 0x9059), (0xBDA1, 0x7FE9), (0xC6E8, 0x3042),
   (0xC77C, 0x30A2), (0xC9A2, 0x6C43), (0xE541, 0x5640), (0xE9A5, 0x64D6), (0xF7A4, 0x9AD0),
   (0xF9F8, 0x2551), (0xF9F9, 0x2550), (0xF9FE, 0xFFED)]

/-- The pairs of Big5 that stand for a letter with a mark after it. -/
def big5Marked : List (Nat × Nat × Nat) :=
  [(0x8862, 0x00CA, 0x0304), (0x8864, 0x00CA, 0x030C), (0x88A3, 0x00EA, 0x0304),
   (0x88A5, 0x00EA, 0x030C)]

def shiftJisIndex : Index :=
  [(0x8140, 0x3000), (0x8141, 0x3001), (0x8142, 0x3002), (0x814E, 0x00A8), (0x815C, 0x2015),
   (0x8163, 0x2026), (0x8175, 0x300C), (0x8176, 0x300D), (0x817D, 0x00B1), (0x817E, 0x00D7),
   (0x8180, 0x00F7), (0x818B, 0x00B0), (0x8198, 0x00A7), (0x8199, 0x2606), (0x819A, 0x2605),
   (0x81A0, 0x25A1), (0x81A1, 0x25A0), (0x81A8, 0x2192), (0x81A9, 0x2190), (0x8250, 0xFF11),
   (0x8251, 0xFF12), (0x8260, 0xFF21), (0x82A0, 0x3042), (0x8341, 0x30A2), (0x8472, 0x0432),
   (0x8475, 0x0435), (0x8479, 0x0438), (0x8481, 0x043F), (0x8482, 0x0440), (0x8484, 0x0442),
   (0x849F, 0x2500), (0x84A0, 0x2502), (0x889F, 0x4E9C), (0x8A45, 0x754C), (0x8CEA, 0x8A9E),
   (0x8D44, 0x597D), (0x90A2, 0x4E16), (0x9286, 0x4E2D), (0x93FA, 0x65E5), (0x95B6, 0x6587),
   (0x967B, 0x672C), (0x9A81, 0x5664), (0xFA96, 0x5759)]

def eucKrIndex : Index :=
  [(0xA1A1, 0x3000), (0xA1A3, 0x3002), (0xA1A6, 0x2026), (0xA1B8, 0x300C), (0xA1B9, 0x300D),
   (0xA1DA, 0x2605), (0xA1E0, 0x25A1), (0xA1E1, 0x25A0), (0xA1E6, 0x2192), (0xA2C6, 0x2592),
   (0xA3A1, 0xFF01), (0xA3A2, 0xFF02), (0xA6CD, 0x2526), (0xBFE1, 0xC689), (0xC6A1, 0xD264),
   (0xCDA3, 0x754C), (0xD9FE, 0x6587), (0xDAA1, 0x6C76), (0xDCE2, 0x672C), (0xE1A1, 0x8056),
   (0xE1A6, 0x4E16), (0xE2E5, 0x6A53), (0xE6F1, 0xF9A0), (0xE9D9, 0x65F4), (0xECED, 0x65E5),
   (0xEDDC, 0x4ED7), (0xF1E9, 0x4E2D), (0xFBBF, 0x597D)]

/-- Where runs of the four-octet forms of GB18030 start, and the first character of each
run. The forms are counted in order. -/
def gbFourRuns : List (Nat × Nat) :=
  [(0, 0x0080), (36, 0x00A5), (38, 0x00A9), (45, 0x00B2), (50, 0x00B8), (81, 0x00D8),
   (89, 0x00E2), (95, 0x00EB), (96, 0x00EE), (100, 0x00F4), (103, 0x00F8), (104, 0x00FB),
   (105, 0x00FD), (109, 0x0102), (126, 0x0114), (133, 0x011C), (148, 0x012C), (172, 0x0145),
   (175, 0x0149), (179, 0x014E), (208, 0x016C), (306, 0x01CF), (307, 0x01D1), (308, 0x01D3),
   (309, 0x01D5), (310, 0x01D7), (311, 0x01D9), (312, 0x01DB), (313, 0x01DD), (341, 0x01FA),
   (428, 0x0252), (443, 0x0262), (544, 0x02C8), (545, 0x02CC), (558, 0x02DA), (741, 0x03A2),
   (742, 0x03AA), (749, 0x03C2), (750, 0x03CA), (805, 0x0402), (819, 0x0450), (820, 0x0452),
   (7922, 0x2011), (7924, 0x2017), (7925, 0x201A), (7927, 0x201E), (7934, 0x2027), (7943, 0x2031),
   (7944, 0x2034), (7945, 0x2036), (7950, 0x203C), (8062, 0x20AD), (8148, 0x2104), (8149, 0x2106),
   (8152, 0x210A), (8164, 0x2117), (8174, 0x2122), (8236, 0x216C), (8240, 0x217A), (8262, 0x2194),
   (8264, 0x219A), (8374, 0x2209), (8380, 0x2210), (8381, 0x2212), (8384, 0x2216), (8388, 0x221B),
   (8390, 0x2221), (8392, 0x2224), (8393, 0x2226), (8394, 0x222C), (8396, 0x222F), (8401, 0x2238),
   (8406, 0x223E), (8416, 0x2249), (8419, 0x224D), (8424, 0x2253), (8437, 0x2262), (8439, 0x2268),
   (8445, 0x2270), (8482, 0x2296), (8485, 0x229A), (8496, 0x22A6), (8521, 0x22C0), (8603, 0x2313),
   (8936, 0x246A), (8946, 0x249C), (9046, 0x254C), (9050, 0x2574), (9063, 0x2590), (9066, 0x2596),
   (9076, 0x25A2), (9092, 0x25B4), (9100, 0x25BE), (9108, 0x25C8), (9111, 0x25CC), (9113, 0x25D0),
   (9131, 0x25E6), (9162, 0x2607), (9164, 0x260A), (9218, 0x2641), (9219, 0x2643),
   (11329, 0x2E82), (11331, 0x2E85), (11334, 0x2E89), (11336, 0x2E8D), (11346, 0x2E98),
   (11361, 0x2EA8), (11363, 0x2EAB), (11366, 0x2EAF), (11370, 0x2EB4), (11372, 0x2EB8),
   (11375, 0x2EBC), (11389, 0x2ECB), (11682, 0x2FFC), (11686, 0x3004), (11687, 0x3018),
   (11692, 0x301F), (11694, 0x302A), (11714, 0x303F), (11716, 0x3094), (11723, 0x309F),
   (11725, 0x30F7), (11730, 0x30FF), (11736, 0x312A), (11982, 0x322A), (11989, 0x3232),
   (12102, 0x32A4), (12336, 0x3390), (12348, 0x339F), (12350, 0x33A2), (12384, 0x33C5),
   (12393, 0x33CF), (12395, 0x33D3), (12397, 0x33D6), (12510, 0x3448), (12553, 0x3474),
   (12851, 0x359F), (12962, 0x360F), (12973, 0x361B), (13738, 0x3919), (13823, 0x396F),
   (13919, 0x39D1), (13933, 0x39E0), (14080, 0x3A74), (14298, 0x3B4F), (14585, 0x3C6F),
   (14698, 0x3CE1), (15583, 0x4057), (15847, 0x4160), (16318, 0x4338), (16434, 0x43AD),
   (16438, 0x43B2), (16481, 0x43DE), (16729, 0x44D7), (17102, 0x464D), (17122, 0x4662),
   (17315, 0x4724), (17320, 0x472A), (17402, 0x477D), (17418, 0x478E), (17859, 0x4948),
   (17909, 0x497B), (17911, 0x497E), (17915, 0x4984), (17916, 0x4987), (17936, 0x499C),
   (17939, 0x49A0), (17961, 0x49B8), (18664, 0x4C78), (18703, 0x4CA4), (18814, 0x4D1A),
   (18962, 0x4DAF), (19043, 0x9FA6), (33469, 0xE76C), (33470, 0xE7C8), (33471, 0xE7E7),
   (33484, 0xE815), (33485, 0xE819), (33490, 0xE81F), (33497, 0xE827), (33501, 0xE82D),
   (33505, 0xE833), (33513, 0xE83C), (33520, 0xE844), (33536, 0xE856), (33550, 0xE865),
   (37845, 0xF92D), (37921, 0xF97A), (37948, 0xF996), (38029, 0xF9E8), (38038, 0xF9F2),
   (38064, 0xFA10), (38065, 0xFA12), (38066, 0xFA15), (38069, 0xFA19), (38075, 0xFA22),
   (38076, 0xFA25), (38078, 0xFA2A), (39108, 0xFE32), (39109, 0xFE45), (39113, 0xFE53),
   (39114, 0xFE58), (39115, 0xFE67), (39116, 0xFE6C), (39265, 0xFF5F), (39394, 0xFFE6)]

def Index.char? (index : Index) (pair : Nat) : Option Char := (index.lookup pair).map Char.ofNat

def Index.has (index : Index) (c : Char) : Bool := index.any (·.2 = c.toNat)

/-! ## Characters that have a pair

The indices above are for reading. What is written is only counted, so it is enough to tell which
characters have a pair. Han characters are left to the indices: they count as two columns where a
set lacks them, just as their pairs do. -/

def gbFourBasicEnd : Nat := 39419

/-- Whether GB18030 has a four-octet form for the character, and GBK nothing. Two characters have
changed places since the runs were laid out. -/
def takesFour (c : Char) : Bool :=
  let stops := gbFourRuns.tail.map (·.1) ++ [gbFourBasicEnd + 1]
  let inRun := (gbFourRuns.zip stops).any fun ((start, code), stop) =>
    code ≤ c.toNat && start + (c.toNat - code) < stop
  0xFFFF < c.toNat || c = '\uE7C7' || (c ≠ '\u1E3F' && inRun)

def big5Symbols : List (Nat × Nat) :=
  [(0x00A7, 0x00A8), (0x00AF, 0x00B1), (0x00B7, 0x00B7), (0x00D7, 0x00D7), (0x00F7, 0x00F8),
   (0x014B, 0x014B), (0x0153, 0x0153), (0x0250, 0x0250), (0x0254, 0x0254), (0x025B, 0x025B),
   (0x026A, 0x026A), (0x0275, 0x0275), (0x0283, 0x0283), (0x028A, 0x028A), (0x02C6, 0x02C7),
   (0x02C9, 0x02CB), (0x02CD, 0x02CD), (0x02D9, 0x02D9), (0x0391, 0x03A1), (0x03A3, 0x03A9),
   (0x03B1, 0x03C1), (0x03C3, 0x03C9), (0x0401, 0x0401), (0x0410, 0x044F), (0x0451, 0x0451),
   (0x2013, 0x2014), (0x2018, 0x2019), (0x201C, 0x201D), (0x2025, 0x2027), (0x2032, 0x2032),
   (0x2035, 0x2035), (0x203B, 0x203B), (0x20AC, 0x20AC), (0x2103, 0x2103), (0x2105, 0x2105),
   (0x2109, 0x2109), (0x2116, 0x2116), (0x2121, 0x2121), (0x2160, 0x2169), (0x2170, 0x2179),
   (0x2190, 0x2193), (0x2196, 0x2199), (0x21B8, 0x21B9), (0x21E7, 0x21E7), (0x2215, 0x2215),
   (0x221A, 0x221A), (0x221E, 0x2220), (0x2223, 0x2223), (0x2225, 0x2225), (0x2229, 0x222B),
   (0x222E, 0x222E), (0x2234, 0x2235), (0x2252, 0x2252), (0x2260, 0x2261), (0x2266, 0x2267),
   (0x2295, 0x2295), (0x2299, 0x2299), (0x22A5, 0x22A5), (0x22BF, 0x22BF), (0x2460, 0x2469),
   (0x2474, 0x247D), (0x2500, 0x2500), (0x2502, 0x2502), (0x250C, 0x250C), (0x2510, 0x2510),
   (0x2514, 0x2514), (0x2518, 0x2518), (0x251C, 0x251C), (0x2524, 0x2524), (0x252C, 0x252C),
   (0x2534, 0x2534), (0x253C, 0x253C), (0x2550, 0x2574), (0x2581, 0x258F), (0x2594, 0x2595),
   (0x25A0, 0x25A1), (0x25B2, 0x25B3), (0x25BC, 0x25BD), (0x25C6, 0x25C7), (0x25CB, 0x25CB),
   (0x25CE, 0x25CF), (0x25E2, 0x25E5), (0x2605, 0x2606), (0x2640, 0x2640), (0x2642, 0x2642),
   (0x273D, 0x273D), (0x2E80, 0x2E80), (0x2E84, 0x2E84), (0x2E86, 0x2E88), (0x2E8A, 0x2E8A),
   (0x2E8C, 0x2E8D), (0x2E95, 0x2E95), (0x2E9C, 0x2E9D), (0x2EA5, 0x2EA5), (0x2EA7, 0x2EA7),
   (0x2EAA, 0x2EAA), (0x2EAC, 0x2EAC), (0x2EAE, 0x2EAE), (0x2EB6, 0x2EB6), (0x2EBC, 0x2EBC),
   (0x2EBE, 0x2EBE), (0x2EC6, 0x2EC6), (0x2ECA, 0x2ECA), (0x2ECC, 0x2ECD), (0x2ECF, 0x2ECF),
   (0x2ED6, 0x2ED7), (0x2EDE, 0x2EDE), (0x2EE3, 0x2EE3), (0x2F33, 0x2F33), (0x3000, 0x3003),
   (0x3005, 0x3012), (0x3014, 0x3015), (0x301D, 0x301E), (0x3021, 0x3029), (0x3041, 0x3093),
   (0x309B, 0x309E), (0x30A1, 0x30F6), (0x30FC, 0x30FE), (0x3105, 0x3129), (0x31CF, 0x31CF),
   (0x3231, 0x3231), (0x32A3, 0x32A3), (0x338E, 0x338F), (0x339C, 0x339E), (0x33A1, 0x33A1),
   (0x33C4, 0x33C4), (0x33CE, 0x33CE), (0x33D1, 0x33D2), (0x33D5, 0x33D5), (0xFE30, 0xFE31),
   (0xFE33, 0xFE44), (0xFE49, 0xFE52), (0xFE54, 0xFE57), (0xFE59, 0xFE66), (0xFE68, 0xFE6B),
   (0xFF01, 0xFF3D), (0xFF3F, 0xFF3F), (0xFF41, 0xFF5E), (0xFFE0, 0xFFE5), (0xFFED, 0xFFED)]

def shiftJisSymbols : List (Nat × Nat) :=
  [(0x00A7, 0x00A8), (0x00B0, 0x00B1), (0x00B4, 0x00B4), (0x00B6, 0x00B6), (0x00D7, 0x00D7),
   (0x00F7, 0x00F7), (0x0391, 0x03A1), (0x03A3, 0x03A9), (0x03B1, 0x03C1), (0x03C3, 0x03C9),
   (0x0401, 0x0401), (0x0410, 0x044F), (0x0451, 0x0451), (0x2010, 0x2010), (0x2015, 0x2015),
   (0x2018, 0x2019), (0x201C, 0x201D), (0x2020, 0x2021), (0x2025, 0x2026), (0x2030, 0x2030),
   (0x2032, 0x2033), (0x203B, 0x203B), (0x2103, 0x2103), (0x2116, 0x2116), (0x2121, 0x2121),
   (0x212B, 0x212B), (0x2160, 0x2169), (0x2170, 0x2179), (0x2190, 0x2193), (0x21D2, 0x21D2),
   (0x21D4, 0x21D4), (0x2200, 0x2200), (0x2202, 0x2203), (0x2207, 0x2208), (0x220B, 0x220B),
   (0x2211, 0x2212), (0x221A, 0x221A), (0x221D, 0x2220), (0x2225, 0x2225), (0x2227, 0x222C),
   (0x222E, 0x222E), (0x2234, 0x2235), (0x223D, 0x223D), (0x2252, 0x2252), (0x2260, 0x2261),
   (0x2266, 0x2267), (0x226A, 0x226B), (0x2282, 0x2283), (0x2286, 0x2287), (0x22A5, 0x22A5),
   (0x22BF, 0x22BF), (0x2312, 0x2312), (0x2460, 0x2473), (0x2500, 0x2503), (0x250C, 0x250C),
   (0x250F, 0x2510), (0x2513, 0x2514), (0x2517, 0x2518), (0x251B, 0x251D), (0x2520, 0x2520),
   (0x2523, 0x2525), (0x2528, 0x2528), (0x252B, 0x252C), (0x252F, 0x2530), (0x2533, 0x2534),
   (0x2537, 0x2538), (0x253B, 0x253C), (0x253F, 0x253F), (0x2542, 0x2542), (0x254B, 0x254B),
   (0x25A0, 0x25A1), (0x25B2, 0x25B3), (0x25BC, 0x25BD), (0x25C6, 0x25C7), (0x25CB, 0x25CB),
   (0x25CE, 0x25CF), (0x25EF, 0x25EF), (0x2605, 0x2606), (0x2640, 0x2640), (0x2642, 0x2642),
   (0x266A, 0x266A), (0x266D, 0x266D), (0x266F, 0x266F), (0x3000, 0x3003), (0x3005, 0x3015),
   (0x301D, 0x301D), (0x301F, 0x301F), (0x3041, 0x3093), (0x309B, 0x309E), (0x30A1, 0x30F6),
   (0x30FB, 0x30FE), (0x3231, 0x3232), (0x3239, 0x3239), (0x32A4, 0x32A8), (0x3303, 0x3303),
   (0x330D, 0x330D), (0x3314, 0x3314), (0x3318, 0x3318), (0x3322, 0x3323), (0x3326, 0x3327),
   (0x332B, 0x332B), (0x3336, 0x3336), (0x333B, 0x333B), (0x3349, 0x334A), (0x334D, 0x334D),
   (0x3351, 0x3351), (0x3357, 0x3357), (0x337B, 0x337E), (0x338E, 0x338F), (0x339C, 0x339E),
   (0x33A1, 0x33A1), (0x33C4, 0x33C4), (0x33CD, 0x33CD), (0xFF01, 0xFF5E), (0xFFE0, 0xFFE5)]

def eucKrSymbols : List (Nat × Nat) :=
  [(0x00A1, 0x00A1), (0x00A4, 0x00A4), (0x00A7, 0x00A8), (0x00AA, 0x00AA), (0x00AD, 0x00AE),
   (0x00B0, 0x00B4), (0x00B6, 0x00BA), (0x00BC, 0x00BF), (0x00C6, 0x00C6), (0x00D0, 0x00D0),
   (0x00D7, 0x00D8), (0x00DE, 0x00DF), (0x00E6, 0x00E6), (0x00F0, 0x00F0), (0x00F7, 0x00F8),
   (0x00FE, 0x00FE), (0x0111, 0x0111), (0x0126, 0x0127), (0x0131, 0x0133), (0x0138, 0x0138),
   (0x013F, 0x0142), (0x0149, 0x014B), (0x0152, 0x0153), (0x0166, 0x0167), (0x02C7, 0x02C7),
   (0x02D0, 0x02D0), (0x02D8, 0x02DB), (0x02DD, 0x02DD), (0x0391, 0x03A1), (0x03A3, 0x03A9),
   (0x03B1, 0x03C1), (0x03C3, 0x03C9), (0x0401, 0x0401), (0x0410, 0x044F), (0x0451, 0x0451),
   (0x2015, 0x2015), (0x2018, 0x2019), (0x201C, 0x201D), (0x2020, 0x2021), (0x2025, 0x2026),
   (0x2030, 0x2030), (0x2032, 0x2033), (0x203B, 0x203B), (0x2074, 0x2074), (0x207F, 0x207F),
   (0x2081, 0x2084), (0x20AC, 0x20AC), (0x2103, 0x2103), (0x2109, 0x2109), (0x2113, 0x2113),
   (0x2116, 0x2116), (0x2121, 0x2122), (0x2126, 0x2126), (0x212B, 0x212B), (0x2153, 0x2154),
   (0x215B, 0x215E), (0x2160, 0x2169), (0x2170, 0x2179), (0x2190, 0x2199), (0x21D2, 0x21D2),
   (0x21D4, 0x21D4), (0x2200, 0x2200), (0x2202, 0x2203), (0x2207, 0x2208), (0x220B, 0x220B),
   (0x220F, 0x220F), (0x2211, 0x2211), (0x221A, 0x221A), (0x221D, 0x221E), (0x2220, 0x2220),
   (0x2225, 0x2225), (0x2227, 0x222C), (0x222E, 0x222E), (0x2234, 0x2235), (0x223C, 0x223D),
   (0x2252, 0x2252), (0x2260, 0x2261), (0x2264, 0x2265), (0x226A, 0x226B), (0x2282, 0x2283),
   (0x2286, 0x2287), (0x2299, 0x2299), (0x22A5, 0x22A5), (0x2312, 0x2312), (0x2460, 0x246E),
   (0x2474, 0x2482), (0x249C, 0x24B5), (0x24D0, 0x24E9), (0x2500, 0x2503), (0x250C, 0x254B),
   (0x2592, 0x2592), (0x25A0, 0x25A1), (0x25A3, 0x25A9), (0x25B2, 0x25B3), (0x25B6, 0x25B7),
   (0x25BC, 0x25BD), (0x25C0, 0x25C1), (0x25C6, 0x25C8), (0x25CB, 0x25CB), (0x25CE, 0x25D1),
   (0x2605, 0x2606), (0x260E, 0x260F), (0x261C, 0x261C), (0x261E, 0x261E), (0x2640, 0x2640),
   (0x2642, 0x2642), (0x2660, 0x2661), (0x2663, 0x2665), (0x2667, 0x266A), (0x266C, 0x266D),
   (0x3000, 0x3003), (0x3008, 0x3011), (0x3013, 0x3015), (0x3041, 0x3093), (0x30A1, 0x30F6),
   (0x3131, 0x318E), (0x3200, 0x321C), (0x3260, 0x327B), (0x327F, 0x327F), (0x3380, 0x3384),
   (0x3388, 0x33CA), (0x33CF, 0x33D0), (0x33D3, 0x33D3), (0x33D6, 0x33D6), (0x33D8, 0x33D8),
   (0x33DB, 0x33DD), (0xFF01, 0xFF5E), (0xFFE0, 0xFFE3), (0xFFE5, 0xFFE6)]

end Textmode.Charset
