namespace Stencil.Text

/-!
# Compatibility decomposition

A composed character is taken apart into a base character and its marks, and a variant form
(ligature, full-width or styled letter, circled digit, fraction) into the plain characters it stands
for. The tables hold the characters whose decomposition has a part that can be transliterated; a
Hangul syllable is decomposed by arithmetic, and every other character stays whole.

* `decompose` — the decomposition of a text.
-/

/-- Runs `(first, last, target)`: the characters from `first` to `last` decompose to the characters
from `target` on. -/
def variantRuns : Array (Nat × Nat × Nat) := #[
  (0xA0, 0xA0, 0x20), (0xAA, 0xAA, 0x61), (0xB2, 0xB3, 0x32), (0xB9, 0xB9, 0x31),
  (0xBA, 0xBA, 0x6F), (0x17F, 0x17F, 0x73), (0x2B0, 0x2B0, 0x68), (0x2B2, 0x2B2, 0x6A),
  (0x2B3, 0x2B3, 0x72), (0x2B7, 0x2B7, 0x77), (0x2B8, 0x2B8, 0x79), (0x2E1, 0x2E1, 0x6C),
  (0x2E2, 0x2E2, 0x73), (0x2E3, 0x2E3, 0x78), (0x340, 0x341, 0x300), (0x37E, 0x37E, 0x3B),
  (0x3D0, 0x3D0, 0x3B2), (0x3F0, 0x3F0, 0x3BA), (0x1D2C, 0x1D2C, 0x41), (0x1D2D, 0x1D2D, 0xC6),
  (0x1D2E, 0x1D2E, 0x42), (0x1D30, 0x1D31, 0x44), (0x1D33, 0x1D3A, 0x47), (0x1D3C, 0x1D3C, 0x4F),
  (0x1D3E, 0x1D3E, 0x50), (0x1D3F, 0x1D3F, 0x52), (0x1D40, 0x1D41, 0x54), (0x1D42, 0x1D42, 0x57),
  (0x1D43, 0x1D43, 0x61), (0x1D47, 0x1D47, 0x62), (0x1D48, 0x1D49, 0x64), (0x1D4D, 0x1D4D, 0x67),
  (0x1D4F, 0x1D4F, 0x6B), (0x1D50, 0x1D50, 0x6D), (0x1D52, 0x1D52, 0x6F), (0x1D56, 0x1D56, 0x70),
  (0x1D57, 0x1D58, 0x74), (0x1D5B, 0x1D5B, 0x76), (0x1D5D, 0x1D5E, 0x3B2),
  (0x1D62, 0x1D62, 0x69), (0x1D63, 0x1D63, 0x72), (0x1D64, 0x1D65, 0x75),
  (0x1D66, 0x1D67, 0x3B2), (0x1D9C, 0x1D9C, 0x63), (0x1DA0, 0x1DA0, 0x66),
  (0x1DBB, 0x1DBB, 0x7A), (0x1FBE, 0x1FBE, 0x3B9), (0x1FEF, 0x1FEF, 0x60),
  (0x2000, 0x2000, 0x20), (0x2001, 0x2001, 0x20), (0x2002, 0x2002, 0x20), (0x2003, 0x2003, 0x20),
  (0x2004, 0x2004, 0x20), (0x2005, 0x2005, 0x20), (0x2006, 0x2006, 0x20), (0x2007, 0x2007, 0x20),
  (0x2008, 0x2008, 0x20), (0x2009, 0x2009, 0x20), (0x200A, 0x200A, 0x20), (0x2024, 0x2024, 0x2E),
  (0x202F, 0x202F, 0x20), (0x205F, 0x205F, 0x20), (0x2070, 0x2070, 0x30), (0x2071, 0x2071, 0x69),
  (0x2074, 0x2079, 0x34), (0x207A, 0x207A, 0x2B), (0x207C, 0x207C, 0x3D), (0x207D, 0x207E, 0x28),
  (0x207F, 0x207F, 0x6E), (0x2080, 0x2089, 0x30), (0x208A, 0x208A, 0x2B), (0x208C, 0x208C, 0x3D),
  (0x208D, 0x208E, 0x28), (0x2090, 0x2090, 0x61), (0x2091, 0x2091, 0x65), (0x2092, 0x2092, 0x6F),
  (0x2093, 0x2093, 0x78), (0x2095, 0x2095, 0x68), (0x2096, 0x2099, 0x6B), (0x209A, 0x209A, 0x70),
  (0x209B, 0x209C, 0x73), (0x2102, 0x2102, 0x43), (0x210A, 0x210A, 0x67), (0x210B, 0x210B, 0x48),
  (0x210C, 0x210C, 0x48), (0x210D, 0x210D, 0x48), (0x210E, 0x210E, 0x68), (0x2110, 0x2110, 0x49),
  (0x2111, 0x2111, 0x49), (0x2112, 0x2112, 0x4C), (0x2113, 0x2113, 0x6C), (0x2115, 0x2115, 0x4E),
  (0x2119, 0x211B, 0x50), (0x211C, 0x211C, 0x52), (0x211D, 0x211D, 0x52), (0x2124, 0x2124, 0x5A),
  (0x2128, 0x2128, 0x5A), (0x212A, 0x212A, 0x4B), (0x212C, 0x212D, 0x42), (0x212F, 0x212F, 0x65),
  (0x2130, 0x2131, 0x45), (0x2133, 0x2133, 0x4D), (0x2134, 0x2134, 0x6F), (0x2139, 0x2139, 0x69),
  (0x213D, 0x213D, 0x3B3), (0x2145, 0x2145, 0x44), (0x2146, 0x2147, 0x64),
  (0x2148, 0x2149, 0x69), (0x2160, 0x2160, 0x49), (0x2164, 0x2164, 0x56), (0x2169, 0x2169, 0x58),
  (0x216C, 0x216C, 0x4C), (0x216D, 0x216E, 0x43), (0x216F, 0x216F, 0x4D), (0x2170, 0x2170, 0x69),
  (0x2174, 0x2174, 0x76), (0x2179, 0x2179, 0x78), (0x217C, 0x217C, 0x6C), (0x217D, 0x217E, 0x63),
  (0x217F, 0x217F, 0x6D), (0x2460, 0x2468, 0x31), (0x24B6, 0x24CF, 0x41), (0x24D0, 0x24E9, 0x61),
  (0x24EA, 0x24EA, 0x30), (0x2C7C, 0x2C7C, 0x6A), (0x2C7D, 0x2C7D, 0x56),
  (0x2F42, 0x2F42, 0x6587), (0x2F47, 0x2F47, 0x65E5), (0x3000, 0x3000, 0x20),
  (0x3131, 0x3131, 0x1100), (0x314E, 0x314E, 0x1112), (0x314F, 0x314F, 0x1161),
  (0x315C, 0x315C, 0x116E), (0x3197, 0x3197, 0x4E2D), (0x3246, 0x3246, 0x6587),
  (0x3260, 0x3260, 0x1100), (0x326D, 0x326D, 0x1112), (0x3290, 0x3290, 0x65E5),
  (0x32A5, 0x32A5, 0x4E2D), (0xA7F2, 0xA7F2, 0x43), (0xA7F3, 0xA7F3, 0x46),
  (0xA7F4, 0xA7F4, 0x51), (0xA7F9, 0xA7F9, 0x153), (0xF963, 0xF963, 0x5317),
  (0xFB29, 0xFB29, 0x2B), (0xFE10, 0xFE10, 0x2C), (0xFE13, 0xFE14, 0x3A), (0xFE15, 0xFE15, 0x21),
  (0xFE16, 0xFE16, 0x3F), (0xFE31, 0xFE31, 0x2014), (0xFE32, 0xFE32, 0x2013),
  (0xFE33, 0xFE33, 0x5F), (0xFE34, 0xFE34, 0x5F), (0xFE35, 0xFE36, 0x28), (0xFE37, 0xFE37, 0x7B),
  (0xFE38, 0xFE38, 0x7D), (0xFE47, 0xFE47, 0x5B), (0xFE48, 0xFE48, 0x5D), (0xFE4D, 0xFE4D, 0x5F),
  (0xFE4E, 0xFE4E, 0x5F), (0xFE4F, 0xFE4F, 0x5F), (0xFE50, 0xFE50, 0x2C), (0xFE52, 0xFE52, 0x2E),
  (0xFE54, 0xFE54, 0x3B), (0xFE55, 0xFE55, 0x3A), (0xFE56, 0xFE56, 0x3F), (0xFE57, 0xFE57, 0x21),
  (0xFE58, 0xFE58, 0x2014), (0xFE59, 0xFE5A, 0x28), (0xFE5B, 0xFE5B, 0x7B),
  (0xFE5C, 0xFE5C, 0x7D), (0xFE5F, 0xFE5F, 0x23), (0xFE60, 0xFE60, 0x26), (0xFE61, 0xFE62, 0x2A),
  (0xFE63, 0xFE63, 0x2D), (0xFE64, 0xFE64, 0x3C), (0xFE65, 0xFE65, 0x3E), (0xFE66, 0xFE66, 0x3D),
  (0xFE68, 0xFE68, 0x5C), (0xFE69, 0xFE6A, 0x24), (0xFE6B, 0xFE6B, 0x40), (0xFF01, 0xFF5E, 0x21),
  (0xFF9E, 0xFF9E, 0x3099), (0xFFA1, 0xFFA1, 0x1100), (0xFFBE, 0xFFBE, 0x1112),
  (0xFFC2, 0xFFC2, 0x1161), (0xFFD3, 0xFFD3, 0x116E), (0xFFE1, 0xFFE1, 0xA3),
  (0x107A2, 0x107A2, 0xF8), (0x107A5, 0x107A5, 0x71), (0x1D400, 0x1D419, 0x41),
  (0x1D41A, 0x1D433, 0x61), (0x1D434, 0x1D44D, 0x41), (0x1D44E, 0x1D454, 0x61),
  (0x1D456, 0x1D467, 0x69), (0x1D468, 0x1D481, 0x41), (0x1D482, 0x1D49B, 0x61),
  (0x1D49C, 0x1D49C, 0x41), (0x1D49E, 0x1D49F, 0x43), (0x1D4A2, 0x1D4A2, 0x47),
  (0x1D4A5, 0x1D4A6, 0x4A), (0x1D4A9, 0x1D4AC, 0x4E), (0x1D4AE, 0x1D4B5, 0x53),
  (0x1D4B6, 0x1D4B9, 0x61), (0x1D4BB, 0x1D4BB, 0x66), (0x1D4BD, 0x1D4C3, 0x68),
  (0x1D4C5, 0x1D4CF, 0x70), (0x1D4D0, 0x1D4E9, 0x41), (0x1D4EA, 0x1D503, 0x61),
  (0x1D504, 0x1D505, 0x41), (0x1D507, 0x1D50A, 0x44), (0x1D50D, 0x1D514, 0x4A),
  (0x1D516, 0x1D51C, 0x53), (0x1D51E, 0x1D537, 0x61), (0x1D538, 0x1D539, 0x41),
  (0x1D53B, 0x1D53E, 0x44), (0x1D540, 0x1D544, 0x49), (0x1D546, 0x1D546, 0x4F),
  (0x1D54A, 0x1D550, 0x53), (0x1D552, 0x1D56B, 0x61), (0x1D56C, 0x1D585, 0x41),
  (0x1D586, 0x1D59F, 0x61), (0x1D5A0, 0x1D5B9, 0x41), (0x1D5BA, 0x1D5D3, 0x61),
  (0x1D5D4, 0x1D5ED, 0x41), (0x1D5EE, 0x1D607, 0x61), (0x1D608, 0x1D621, 0x41),
  (0x1D622, 0x1D63B, 0x61), (0x1D63C, 0x1D655, 0x41), (0x1D656, 0x1D66F, 0x61),
  (0x1D670, 0x1D689, 0x41), (0x1D68A, 0x1D6A3, 0x61), (0x1D6A4, 0x1D6A4, 0x131),
  (0x1D6AC, 0x1D6AC, 0x395), (0x1D6C2, 0x1D6C4, 0x3B1), (0x1D6C8, 0x1D6C8, 0x3B7),
  (0x1D6CA, 0x1D6CC, 0x3B9), (0x1D6CE, 0x1D6CE, 0x3BD), (0x1D6DE, 0x1D6DE, 0x3BA),
  (0x1D6E6, 0x1D6E6, 0x395), (0x1D6FC, 0x1D6FE, 0x3B1), (0x1D702, 0x1D702, 0x3B7),
  (0x1D704, 0x1D706, 0x3B9), (0x1D708, 0x1D708, 0x3BD), (0x1D718, 0x1D718, 0x3BA),
  (0x1D720, 0x1D720, 0x395), (0x1D736, 0x1D738, 0x3B1), (0x1D73C, 0x1D73C, 0x3B7),
  (0x1D73E, 0x1D740, 0x3B9), (0x1D742, 0x1D742, 0x3BD), (0x1D752, 0x1D752, 0x3BA),
  (0x1D75A, 0x1D75A, 0x395), (0x1D770, 0x1D772, 0x3B1), (0x1D776, 0x1D776, 0x3B7),
  (0x1D778, 0x1D77A, 0x3B9), (0x1D77C, 0x1D77C, 0x3BD), (0x1D78C, 0x1D78C, 0x3BA),
  (0x1D794, 0x1D794, 0x395), (0x1D7AA, 0x1D7AC, 0x3B1), (0x1D7B0, 0x1D7B0, 0x3B7),
  (0x1D7B2, 0x1D7B4, 0x3B9), (0x1D7B6, 0x1D7B6, 0x3BD), (0x1D7C6, 0x1D7C6, 0x3BA),
  (0x1D7CE, 0x1D7D7, 0x30), (0x1D7D8, 0x1D7E1, 0x30), (0x1D7E2, 0x1D7EB, 0x30),
  (0x1D7EC, 0x1D7F5, 0x30), (0x1D7F6, 0x1D7FF, 0x30), (0x1F12B, 0x1F12B, 0x43),
  (0x1F12C, 0x1F12C, 0x52), (0x1F130, 0x1F149, 0x41), (0x1F22D, 0x1F22D, 0x4E2D),
  (0x1FBF0, 0x1FBF9, 0x30), (0x2F82B, 0x2F82B, 0x5317)]

/-- Decompositions into several characters: items end with a semicolon, an item holds the character
and its parts as hexadecimal code points. -/
def composedForms : String :=
  "A8 20 308;AF 20 304;B4 20 301;B8 20 327;BC 31 2044 34;BD 31 2044 32;BE 33 2044 34;
C0 41 300;C1 41 301;C2 41 302;C3 41 303;C4 41 308;C5 41 30A;C7 43 327;C8 45 300;
C9 45 301;CA 45 302;CB 45 308;CC 49 300;CD 49 301;CE 49 302;CF 49 308;D1 4E 303;
D2 4F 300;D3 4F 301;D4 4F 302;D5 4F 303;D6 4F 308;D9 55 300;DA 55 301;DB 55 302;
DC 55 308;DD 59 301;E0 61 300;E1 61 301;E2 61 302;E3 61 303;E4 61 308;E5 61 30A;
E7 63 327;E8 65 300;E9 65 301;EA 65 302;EB 65 308;EC 69 300;ED 69 301;EE 69 302;
EF 69 308;F1 6E 303;F2 6F 300;F3 6F 301;F4 6F 302;F5 6F 303;F6 6F 308;F9 75 300;
FA 75 301;FB 75 302;FC 75 308;FD 79 301;FF 79 308;100 41 304;101 61 304;102 41 306;
103 61 306;104 41 328;105 61 328;106 43 301;107 63 301;108 43 302;109 63 302;10A 43 307;
10B 63 307;10C 43 30C;10D 63 30C;10E 44 30C;10F 64 30C;112 45 304;113 65 304;114 45 306;
115 65 306;116 45 307;117 65 307;118 45 328;119 65 328;11A 45 30C;11B 65 30C;11C 47 302;
11D 67 302;11E 47 306;11F 67 306;120 47 307;121 67 307;122 47 327;123 67 327;124 48 302;
125 68 302;128 49 303;129 69 303;12A 49 304;12B 69 304;12C 49 306;12D 69 306;12E 49 328;
12F 69 328;130 49 307;132 49 4A;133 69 6A;134 4A 302;135 6A 302;136 4B 327;137 6B 327;
139 4C 301;13A 6C 301;13B 4C 327;13C 6C 327;13D 4C 30C;13E 6C 30C;13F 4C B7;140 6C B7;
143 4E 301;144 6E 301;145 4E 327;146 6E 327;147 4E 30C;148 6E 30C;149 2BC 6E;14C 4F 304;
14D 6F 304;14E 4F 306;14F 6F 306;150 4F 30B;151 6F 30B;154 52 301;155 72 301;156 52 327;
157 72 327;158 52 30C;159 72 30C;15A 53 301;15B 73 301;15C 53 302;15D 73 302;15E 53 327;
15F 73 327;160 53 30C;161 73 30C;162 54 327;163 74 327;164 54 30C;165 74 30C;168 55 303;
169 75 303;16A 55 304;16B 75 304;16C 55 306;16D 75 306;16E 55 30A;16F 75 30A;170 55 30B;
171 75 30B;172 55 328;173 75 328;174 57 302;175 77 302;176 59 302;177 79 302;178 59 308;
179 5A 301;17A 7A 301;17B 5A 307;17C 7A 307;17D 5A 30C;17E 7A 30C;1A0 4F 31B;1A1 6F 31B;
1AF 55 31B;1B0 75 31B;1C4 44 5A 30C;1C5 44 7A 30C;1C6 64 7A 30C;1C7 4C 4A;1C8 4C 6A;
1C9 6C 6A;1CA 4E 4A;1CB 4E 6A;1CC 6E 6A;1CD 41 30C;1CE 61 30C;1CF 49 30C;1D0 69 30C;
1D1 4F 30C;1D2 6F 30C;1D3 55 30C;1D4 75 30C;1D5 55 308 304;1D6 75 308 304;1D7 55 308 301;
1D8 75 308 301;1D9 55 308 30C;1DA 75 308 30C;1DB 55 308 300;1DC 75 308 300;
1DE 41 308 304;1DF 61 308 304;1E0 41 307 304;1E1 61 307 304;1E2 C6 304;1E6 47 30C;
1E7 67 30C;1E8 4B 30C;1E9 6B 30C;1EA 4F 328;1EB 6F 328;1EC 4F 328 304;1ED 6F 328 304;
1EE 1B7 30C;1EF 292 30C;1F0 6A 30C;1F1 44 5A;1F2 44 7A;1F3 64 7A;1F4 47 301;1F5 67 301;
1F8 4E 300;1F9 6E 300;1FA 41 30A 301;1FB 61 30A 301;1FC C6 301;1FD E6 301;1FE D8 301;
1FF F8 301;200 41 30F;201 61 30F;202 41 311;203 61 311;204 45 30F;205 65 30F;206 45 311;
207 65 311;208 49 30F;209 69 30F;20A 49 311;20B 69 311;20C 4F 30F;20D 6F 30F;20E 4F 311;
20F 6F 311;210 52 30F;211 72 30F;212 52 311;213 72 311;214 55 30F;215 75 30F;216 55 311;
217 75 311;218 53 326;219 73 326;21A 54 326;21B 74 326;21E 48 30C;21F 68 30C;226 41 307;
227 61 307;228 45 327;229 65 327;22A 4F 308 304;22B 6F 308 304;22C 4F 303 304;
22D 6F 303 304;22E 4F 307;22F 6F 307;230 4F 307 304;231 6F 307 304;232 59 304;233 79 304;
2D8 20 306;2D9 20 307;2DA 20 30A;2DB 20 328;2DC 20 303;2DD 20 30B;344 308 301;37A 20 345;
384 20 301;385 20 308 301;386 391 301;388 395 301;389 397 301;38A 399 301;38C 39F 301;
38E 3A5 301;38F 3A9 301;390 3B9 308 301;3AA 399 308;3AB 3A5 308;3AC 3B1 301;3AD 3B5 301;
3AE 3B7 301;3AF 3B9 301;3B0 3C5 308 301;3CA 3B9 308;3CB 3C5 308;3CC 3BF 301;3CD 3C5 301;
3CE 3C9 301;3D3 3A5 301;3D4 3A5 308;400 415 300;401 415 308;403 413 301;407 406 308;
40C 41A 301;40D 418 300;40E 423 306;419 418 306;439 438 306;450 435 300;451 435 308;
453 433 301;457 456 308;45C 43A 301;45D 438 300;45E 443 306;4C1 416 306;4C2 436 306;
4D0 410 306;4D1 430 306;4D2 410 308;4D3 430 308;4D6 415 306;4D7 435 306;4DA 4D8 308;
4DB 4D9 308;4DC 416 308;4DD 436 308;4DE 417 308;4DF 437 308;4E3 438 304;4E4 418 308;
4E5 438 308;4E6 41E 308;4E7 43E 308;4EA 4E8 308;4EB 4E9 308;4EC 42D 308;4ED 44D 308;
4F0 423 308;4F1 443 308;4F4 427 308;4F5 447 308;4F8 42B 308;4F9 44B 308;1E00 41 325;
1E01 61 325;1E02 42 307;1E03 62 307;1E04 42 323;1E05 62 323;1E06 42 331;1E07 62 331;
1E08 43 327 301;1E09 63 327 301;1E0A 44 307;1E0B 64 307;1E0C 44 323;1E0D 64 323;
1E0E 44 331;1E0F 64 331;1E10 44 327;1E11 64 327;1E12 44 32D;1E13 64 32D;1E14 45 304 300;
1E15 65 304 300;1E16 45 304 301;1E17 65 304 301;1E18 45 32D;1E19 65 32D;1E1A 45 330;
1E1B 65 330;1E1C 45 327 306;1E1D 65 327 306;1E1E 46 307;1E1F 66 307;1E20 47 304;
1E21 67 304;1E22 48 307;1E23 68 307;1E24 48 323;1E25 68 323;1E26 48 308;1E27 68 308;
1E28 48 327;1E29 68 327;1E2A 48 32E;1E2B 68 32E;1E2C 49 330;1E2D 69 330;1E2E 49 308 301;
1E2F 69 308 301;1E30 4B 301;1E31 6B 301;1E32 4B 323;1E33 6B 323;1E34 4B 331;1E35 6B 331;
1E36 4C 323;1E37 6C 323;1E38 4C 323 304;1E39 6C 323 304;1E3A 4C 331;1E3B 6C 331;
1E3C 4C 32D;1E3D 6C 32D;1E3E 4D 301;1E3F 6D 301;1E40 4D 307;1E41 6D 307;1E42 4D 323;
1E43 6D 323;1E44 4E 307;1E45 6E 307;1E46 4E 323;1E47 6E 323;1E48 4E 331;1E49 6E 331;
1E4A 4E 32D;1E4B 6E 32D;1E4C 4F 303 301;1E4D 6F 303 301;1E4E 4F 303 308;1E4F 6F 303 308;
1E50 4F 304 300;1E51 6F 304 300;1E52 4F 304 301;1E53 6F 304 301;1E54 50 301;1E55 70 301;
1E56 50 307;1E57 70 307;1E58 52 307;1E59 72 307;1E5A 52 323;1E5B 72 323;1E5C 52 323 304;
1E5D 72 323 304;1E5E 52 331;1E5F 72 331;1E60 53 307;1E61 73 307;1E62 53 323;1E63 73 323;
1E64 53 301 307;1E65 73 301 307;1E66 53 30C 307;1E67 73 30C 307;1E68 53 323 307;
1E69 73 323 307;1E6A 54 307;1E6B 74 307;1E6C 54 323;1E6D 74 323;1E6E 54 331;1E6F 74 331;
1E70 54 32D;1E71 74 32D;1E72 55 324;1E73 75 324;1E74 55 330;1E75 75 330;1E76 55 32D;
1E77 75 32D;1E78 55 303 301;1E79 75 303 301;1E7A 55 304 308;1E7B 75 304 308;1E7C 56 303;
1E7D 76 303;1E7E 56 323;1E7F 76 323;1E80 57 300;1E81 77 300;1E82 57 301;1E83 77 301;
1E84 57 308;1E85 77 308;1E86 57 307;1E87 77 307;1E88 57 323;1E89 77 323;1E8A 58 307;
1E8B 78 307;1E8C 58 308;1E8D 78 308;1E8E 59 307;1E8F 79 307;1E90 5A 302;1E91 7A 302;
1E92 5A 323;1E93 7A 323;1E94 5A 331;1E95 7A 331;1E96 68 331;1E97 74 308;1E98 77 30A;
1E99 79 30A;1E9A 61 2BE;1E9B 73 307;1EA0 41 323;1EA1 61 323;1EA2 41 309;1EA3 61 309;
1EA4 41 302 301;1EA5 61 302 301;1EA6 41 302 300;1EA7 61 302 300;1EA8 41 302 309;
1EA9 61 302 309;1EAA 41 302 303;1EAB 61 302 303;1EAC 41 323 302;1EAD 61 323 302;
1EAE 41 306 301;1EAF 61 306 301;1EB0 41 306 300;1EB1 61 306 300;1EB2 41 306 309;
1EB3 61 306 309;1EB4 41 306 303;1EB5 61 306 303;1EB6 41 323 306;1EB7 61 323 306;
1EB8 45 323;1EB9 65 323;1EBA 45 309;1EBB 65 309;1EBC 45 303;1EBD 65 303;1EBE 45 302 301;
1EBF 65 302 301;1EC0 45 302 300;1EC1 65 302 300;1EC2 45 302 309;1EC3 65 302 309;
1EC4 45 302 303;1EC5 65 302 303;1EC6 45 323 302;1EC7 65 323 302;1EC8 49 309;1EC9 69 309;
1ECA 49 323;1ECB 69 323;1ECC 4F 323;1ECD 6F 323;1ECE 4F 309;1ECF 6F 309;1ED0 4F 302 301;
1ED1 6F 302 301;1ED2 4F 302 300;1ED3 6F 302 300;1ED4 4F 302 309;1ED5 6F 302 309;
1ED6 4F 302 303;1ED7 6F 302 303;1ED8 4F 323 302;1ED9 6F 323 302;1EDA 4F 31B 301;
1EDB 6F 31B 301;1EDC 4F 31B 300;1EDD 6F 31B 300;1EDE 4F 31B 309;1EDF 6F 31B 309;
1EE0 4F 31B 303;1EE1 6F 31B 303;1EE2 4F 31B 323;1EE3 6F 31B 323;1EE4 55 323;1EE5 75 323;
1EE6 55 309;1EE7 75 309;1EE8 55 31B 301;1EE9 75 31B 301;1EEA 55 31B 300;1EEB 75 31B 300;
1EEC 55 31B 309;1EED 75 31B 309;1EEE 55 31B 303;1EEF 75 31B 303;1EF0 55 31B 323;
1EF1 75 31B 323;1EF2 59 300;1EF3 79 300;1EF4 59 323;1EF5 79 323;1EF6 59 309;1EF7 79 309;
1EF8 59 303;1EF9 79 303;1F00 3B1 313;1F01 3B1 314;1F02 3B1 313 300;1F03 3B1 314 300;
1F04 3B1 313 301;1F05 3B1 314 301;1F06 3B1 313 342;1F07 3B1 314 342;1F0A 391 313 300;
1F0B 391 314 300;1F0C 391 313 301;1F0D 391 314 301;1F12 3B5 313 300;1F13 3B5 314 300;
1F14 3B5 313 301;1F15 3B5 314 301;1F18 395 313;1F19 395 314;1F1A 395 313 300;
1F1B 395 314 300;1F1C 395 313 301;1F1D 395 314 301;1F20 3B7 313;1F21 3B7 314;
1F22 3B7 313 300;1F23 3B7 314 300;1F24 3B7 313 301;1F25 3B7 314 301;1F26 3B7 313 342;
1F27 3B7 314 342;1F2A 397 313 300;1F2B 397 314 300;1F2C 397 313 301;1F2D 397 314 301;
1F30 3B9 313;1F31 3B9 314;1F32 3B9 313 300;1F33 3B9 314 300;1F34 3B9 313 301;
1F35 3B9 314 301;1F36 3B9 313 342;1F37 3B9 314 342;1F3A 399 313 300;1F3B 399 314 300;
1F3C 399 313 301;1F3D 399 314 301;1F42 3BF 313 300;1F43 3BF 314 300;1F44 3BF 313 301;
1F45 3BF 314 301;1F4A 39F 313 300;1F4B 39F 314 300;1F4C 39F 313 301;1F4D 39F 314 301;
1F52 3C5 313 300;1F53 3C5 314 300;1F54 3C5 313 301;1F55 3C5 314 301;1F5B 3A5 314 300;
1F5D 3A5 314 301;1F62 3C9 313 300;1F63 3C9 314 300;1F64 3C9 313 301;1F65 3C9 314 301;
1F6A 3A9 313 300;1F6B 3A9 314 300;1F6C 3A9 313 301;1F6D 3A9 314 301;1F70 3B1 300;
1F71 3B1 301;1F72 3B5 300;1F73 3B5 301;1F74 3B7 300;1F75 3B7 301;1F76 3B9 300;
1F77 3B9 301;1F78 3BF 300;1F79 3BF 301;1F7A 3C5 300;1F7B 3C5 301;1F7C 3C9 300;
1F7D 3C9 301;1F80 3B1 313 345;1F81 3B1 314 345;1F82 3B1 313 300 345;1F83 3B1 314 300 345;
1F84 3B1 313 301 345;1F85 3B1 314 301 345;1F86 3B1 313 342 345;1F87 3B1 314 342 345;
1F8A 391 313 300 345;1F8B 391 314 300 345;1F8C 391 313 301 345;1F8D 391 314 301 345;
1F90 3B7 313 345;1F91 3B7 314 345;1F92 3B7 313 300 345;1F93 3B7 314 300 345;
1F94 3B7 313 301 345;1F95 3B7 314 301 345;1F96 3B7 313 342 345;1F97 3B7 314 342 345;
1F9A 397 313 300 345;1F9B 397 314 300 345;1F9C 397 313 301 345;1F9D 397 314 301 345;
1FA2 3C9 313 300 345;1FA3 3C9 314 300 345;1FA4 3C9 313 301 345;1FA5 3C9 314 301 345;
1FAA 3A9 313 300 345;1FAB 3A9 314 300 345;1FAC 3A9 313 301 345;1FAD 3A9 314 301 345;
1FB0 3B1 306;1FB1 3B1 304;1FB2 3B1 300 345;1FB3 3B1 345;1FB4 3B1 301 345;1FB6 3B1 342;
1FB7 3B1 342 345;1FB8 391 306;1FBA 391 300;1FBB 391 301;1FBD 20 313;1FBF 20 313;
1FC0 20 342;1FC1 20 308 342;1FC2 3B7 300 345;1FC3 3B7 345;1FC4 3B7 301 345;1FC6 3B7 342;
1FC7 3B7 342 345;1FC8 395 300;1FC9 395 301;1FCA 397 300;1FCB 397 301;1FCD 20 313 300;
1FCE 20 313 301;1FCF 20 313 342;1FD0 3B9 306;1FD1 3B9 304;1FD2 3B9 308 300;
1FD3 3B9 308 301;1FD6 3B9 342;1FD7 3B9 308 342;1FD8 399 306;1FDA 399 300;1FDB 399 301;
1FDD 20 314 300;1FDE 20 314 301;1FDF 20 314 342;1FE0 3C5 306;1FE2 3C5 308 300;
1FE3 3C5 308 301;1FE7 3C5 308 342;1FE8 3A5 306;1FEA 3A5 300;1FEB 3A5 301;1FED 20 308 300;
1FEE 20 308 301;1FF2 3C9 300 345;1FF4 3C9 301 345;1FF8 39F 300;1FF9 39F 301;1FFA 3A9 300;
1FFB 3A9 301;1FFD 20 301;1FFE 20 314;2017 20 333;2025 2E 2E;2026 2E 2E 2E;203C 21 21;
203E 20 305;2047 3F 3F;2048 3F 21;2049 21 3F;20A8 52 73;2100 61 2F 63;2101 61 2F 73;
2103 B0 43;2105 63 2F 6F;2106 63 2F 75;2109 B0 46;2116 4E 6F;2120 53 4D;2121 54 45 4C;
2122 54 4D;212B 41 30A;213B 46 41 58;2150 31 2044 37;2151 31 2044 39;2152 31 2044 31 30;
2153 31 2044 33;2154 32 2044 33;2155 31 2044 35;2156 32 2044 35;2157 33 2044 35;
2158 34 2044 35;2159 31 2044 36;215A 35 2044 36;215B 31 2044 38;215C 33 2044 38;
215D 35 2044 38;215E 37 2044 38;215F 31 2044;2161 49 49;2162 49 49 49;2163 49 56;
2165 56 49;2166 56 49 49;2167 56 49 49 49;2168 49 58;216A 58 49;216B 58 49 49;2171 69 69;
2172 69 69 69;2173 69 76;2175 76 69;2176 76 69 69;2177 76 69 69 69;2178 69 78;217A 78 69;
217B 78 69 69;2189 30 2044 33;2260 3D 338;226E 3C 338;226F 3E 338;2469 31 30;246A 31 31;
246B 31 32;246C 31 33;246D 31 34;246E 31 35;246F 31 36;2470 31 37;2471 31 38;2472 31 39;
2473 32 30;2474 28 31 29;2475 28 32 29;2476 28 33 29;2477 28 34 29;2478 28 35 29;
2479 28 36 29;247A 28 37 29;247B 28 38 29;247C 28 39 29;247D 28 31 30 29;
247E 28 31 31 29;247F 28 31 32 29;2480 28 31 33 29;2481 28 31 34 29;2482 28 31 35 29;
2483 28 31 36 29;2484 28 31 37 29;2485 28 31 38 29;2486 28 31 39 29;2487 28 32 30 29;
2488 31 2E;2489 32 2E;248A 33 2E;248B 34 2E;248C 35 2E;248D 36 2E;248E 37 2E;248F 38 2E;
2490 39 2E;2491 31 30 2E;2492 31 31 2E;2493 31 32 2E;2494 31 33 2E;2495 31 34 2E;
2496 31 35 2E;2497 31 36 2E;2498 31 37 2E;2499 31 38 2E;249A 31 39 2E;249B 32 30 2E;
249C 28 61 29;249D 28 62 29;249E 28 63 29;249F 28 64 29;24A0 28 65 29;24A1 28 66 29;
24A2 28 67 29;24A3 28 68 29;24A4 28 69 29;24A5 28 6A 29;24A6 28 6B 29;24A7 28 6C 29;
24A8 28 6D 29;24A9 28 6E 29;24AA 28 6F 29;24AB 28 70 29;24AC 28 71 29;24AD 28 72 29;
24AE 28 73 29;24AF 28 74 29;24B0 28 75 29;24B1 28 76 29;24B2 28 77 29;24B3 28 78 29;
24B4 28 79 29;24B5 28 7A 29;2A74 3A 3A 3D;2A75 3D 3D;2A76 3D 3D 3D;304C 304B 3099;
304E 304D 3099;3050 304F 3099;3052 3051 3099;3054 3053 3099;3056 3055 3099;
3058 3057 3099;305A 3059 3099;305C 305B 3099;305E 305D 3099;3060 305F 3099;
3062 3061 3099;3065 3064 3099;3067 3066 3099;3069 3068 3099;3070 306F 3099;
3073 3072 3099;3074 3072 309A;3076 3075 3099;3079 3078 3099;307C 307B 3099;
3094 3046 3099;309B 20 3099;309C 20 309A;309E 309D 3099;30AC 30AB 3099;30AE 30AD 3099;
30B0 30AF 3099;30B2 30B1 3099;30B4 30B3 3099;30B6 30B5 3099;30B8 30B7 3099;
30BA 30B9 3099;30BC 30BB 3099;30BE 30BD 3099;30C0 30BF 3099;30C2 30C1 3099;
30C5 30C4 3099;30C7 30C6 3099;30C9 30C8 3099;30D0 30CF 3099;30D3 30D2 3099;
30D6 30D5 3099;30D9 30D8 3099;30DC 30DB 3099;30F4 30A6 3099;30F7 30EF 3099;
30F8 30F0 3099;30F9 30F1 3099;30FA 30F2 3099;30FE 30FD 3099;3200 28 1100 29;
3201 28 1102 29;3202 28 1103 29;3203 28 1105 29;3204 28 1106 29;3205 28 1107 29;
3206 28 1109 29;3207 28 110B 29;3208 28 110C 29;3209 28 110E 29;320A 28 110F 29;
320B 28 1110 29;320C 28 1111 29;320D 28 1112 29;320E 28 1100 1161 29;
320F 28 1102 1161 29;3210 28 1103 1161 29;3211 28 1105 1161 29;3212 28 1106 1161 29;
3213 28 1107 1161 29;3214 28 1109 1161 29;3215 28 110B 1161 29;3216 28 110C 1161 29;
3217 28 110E 1161 29;3218 28 110F 1161 29;3219 28 1110 1161 29;321A 28 1111 1161 29;
321B 28 1112 1161 29;321C 28 110C 116E 29;321D 28 110B 1169 110C 1165 11AB 29;
321E 28 110B 1169 1112 116E 29;3220 28 4E00 29;3221 28 4E8C 29;3222 28 4E09 29;
3223 28 56DB 29;3224 28 4E94 29;3225 28 516D 29;3226 28 4E03 29;3227 28 516B 29;
3228 28 4E5D 29;3229 28 5341 29;322A 28 6708 29;322B 28 706B 29;322C 28 6C34 29;
322D 28 6728 29;322E 28 91D1 29;322F 28 571F 29;3230 28 65E5 29;3231 28 682A 29;
3232 28 6709 29;3233 28 793E 29;3234 28 540D 29;3235 28 7279 29;3236 28 8CA1 29;
3237 28 795D 29;3238 28 52B4 29;3239 28 4EE3 29;323A 28 547C 29;323B 28 5B66 29;
323C 28 76E3 29;323D 28 4F01 29;323E 28 8CC7 29;323F 28 5354 29;3240 28 796D 29;
3241 28 4F11 29;3242 28 81EA 29;3243 28 81F3 29;3250 50 54 45;3251 32 31;3252 32 32;
3253 32 33;3254 32 34;3255 32 35;3256 32 36;3257 32 37;3258 32 38;3259 32 39;325A 33 30;
325B 33 31;325C 33 32;325D 33 33;325E 33 34;325F 33 35;326E 1100 1161;326F 1102 1161;
3270 1103 1161;3271 1105 1161;3272 1106 1161;3273 1107 1161;3274 1109 1161;
3275 110B 1161;3276 110C 1161;3277 110E 1161;3278 110F 1161;3279 1110 1161;
327A 1111 1161;327B 1112 1161;327C 110E 1161 11B7 1100 1169;327D 110C 116E 110B 1174;
327E 110B 116E;32B1 33 36;32B2 33 37;32B3 33 38;32B4 33 39;32B5 34 30;32B6 34 31;
32B7 34 32;32B8 34 33;32B9 34 34;32BA 34 35;32BB 34 36;32BC 34 37;32BD 34 38;32BE 34 39;
32BF 35 30;32C0 31 6708;32C1 32 6708;32C2 33 6708;32C3 34 6708;32C4 35 6708;32C5 36 6708;
32C6 37 6708;32C7 38 6708;32C8 39 6708;32C9 31 30 6708;32CA 31 31 6708;32CB 31 32 6708;
32CC 48 67;32CD 65 72 67;32CE 65 56;32CF 4C 54 44;3304 30A4 30CB 30F3 30AF 3099;
3307 30A8 30B9 30AF 30FC 30C8 3099;330E 30AB 3099 30ED 30F3;330F 30AB 3099 30F3 30DE;
3310 30AD 3099 30AB 3099;3311 30AD 3099 30CB 30FC;3313 30AD 3099 30EB 30BF 3099 30FC;
3315 30AD 30ED 30AF 3099 30E9 30E0;3318 30AF 3099 30E9 30E0;
3319 30AF 3099 30E9 30E0 30C8 30F3;331A 30AF 30EB 30BB 3099 30A4 30ED;
3321 30B7 30EA 30F3 30AF 3099;3324 30BF 3099 30FC 30B9;3325 30C6 3099 30B7;
3326 30C8 3099 30EB;332D 30CF 3099 30FC 30EC 30EB;3331 30D2 3099 30EB;
3332 30D5 30A1 30E9 30C3 30C8 3099;3334 30D5 3099 30C3 30B7 30A7 30EB;
333B 30D8 309A 30FC 30B7 3099;333C 30D8 3099 30FC 30BF;333E 30DB 3099 30EB 30C8;
3340 30DB 309A 30F3 30C8 3099;334A 30DF 30EA 30CF 3099 30FC 30EB;334B 30E1 30AB 3099;
334C 30E1 30AB 3099 30C8 30F3;334E 30E4 30FC 30C8 3099;3354 30EB 30FC 30D5 3099 30EB;
3356 30EC 30F3 30C8 30B1 3099 30F3;3358 30 70B9;3359 31 70B9;335A 32 70B9;335B 33 70B9;
335C 34 70B9;335D 35 70B9;335E 36 70B9;335F 37 70B9;3360 38 70B9;3361 39 70B9;
3362 31 30 70B9;3363 31 31 70B9;3364 31 32 70B9;3365 31 33 70B9;3366 31 34 70B9;
3367 31 35 70B9;3368 31 36 70B9;3369 31 37 70B9;336A 31 38 70B9;336B 31 39 70B9;
336C 32 30 70B9;336D 32 31 70B9;336E 32 32 70B9;336F 32 33 70B9;3370 32 34 70B9;
3371 68 50 61;3372 64 61;3373 41 55;3374 62 61 72;3375 6F 56;3376 70 63;3377 64 6D;
3378 64 6D 32;3379 64 6D 33;337A 49 55;3380 70 41;3381 6E 41;3382 3BC 41;3383 6D 41;
3384 6B 41;3385 4B 42;3386 4D 42;3387 47 42;3388 63 61 6C;3389 6B 63 61 6C;338A 70 46;
338B 6E 46;338C 3BC 46;338D 3BC 67;338E 6D 67;338F 6B 67;3390 48 7A;3391 6B 48 7A;
3392 4D 48 7A;3393 47 48 7A;3394 54 48 7A;3395 3BC 6C;3396 6D 6C;3397 64 6C;3398 6B 6C;
3399 66 6D;339A 6E 6D;339B 3BC 6D;339C 6D 6D;339D 63 6D;339E 6B 6D;339F 6D 6D 32;
33A0 63 6D 32;33A1 6D 32;33A2 6B 6D 32;33A3 6D 6D 33;33A4 63 6D 33;33A5 6D 33;
33A6 6B 6D 33;33A7 6D 2215 73;33A8 6D 2215 73 32;33A9 50 61;33AA 6B 50 61;33AB 4D 50 61;
33AC 47 50 61;33AD 72 61 64;33AE 72 61 64 2215 73;33AF 72 61 64 2215 73 32;33B0 70 73;
33B1 6E 73;33B2 3BC 73;33B3 6D 73;33B4 70 56;33B5 6E 56;33B6 3BC 56;33B7 6D 56;
33B8 6B 56;33B9 4D 56;33BA 70 57;33BB 6E 57;33BC 3BC 57;33BD 6D 57;33BE 6B 57;33BF 4D 57;
33C0 6B 3A9;33C1 4D 3A9;33C2 61 2E 6D 2E;33C3 42 71;33C4 63 63;33C5 63 64;
33C6 43 2215 6B 67;33C7 43 6F 2E;33C8 64 42;33C9 47 79;33CA 68 61;33CB 48 50;33CC 69 6E;
33CD 4B 4B;33CE 4B 4D;33CF 6B 74;33D0 6C 6D;33D1 6C 6E;33D2 6C 6F 67;33D3 6C 78;
33D4 6D 62;33D5 6D 69 6C;33D6 6D 6F 6C;33D7 50 48;33D8 70 2E 6D 2E;33D9 50 50 4D;
33DA 50 52;33DB 73 72;33DC 53 76;33DD 57 62;33DE 56 2215 6D;33DF 41 2215 6D;33E0 31 65E5;
33E1 32 65E5;33E2 33 65E5;33E3 34 65E5;33E4 35 65E5;33E5 36 65E5;33E6 37 65E5;
33E7 38 65E5;33E8 39 65E5;33E9 31 30 65E5;33EA 31 31 65E5;33EB 31 32 65E5;
33EC 31 33 65E5;33ED 31 34 65E5;33EE 31 35 65E5;33EF 31 36 65E5;33F0 31 37 65E5;
33F1 31 38 65E5;33F2 31 39 65E5;33F3 32 30 65E5;33F4 32 31 65E5;33F5 32 32 65E5;
33F6 32 33 65E5;33F7 32 34 65E5;33F8 32 35 65E5;33F9 32 36 65E5;33FA 32 37 65E5;
33FB 32 38 65E5;33FC 32 39 65E5;33FD 33 30 65E5;33FE 33 31 65E5;33FF 67 61 6C;FB00 66 66;
FB01 66 69;FB02 66 6C;FB03 66 66 69;FB04 66 66 6C;FB05 73 74;FB06 73 74;FC5E 20 64C 651;
FC5F 20 64D 651;FC60 20 64E 651;FC61 20 64F 651;FC62 20 650 651;FC63 20 651 670;
FDFA 635 644 649 20 627 644 644 647 20 639 644 64A 647 20 648 633 644 645;
FDFB 62C 644 20 62C 644 627 644 647;FE19 2E 2E 2E;FE30 2E 2E;FE49 20 305;FE4A 20 305;
FE4B 20 305;FE4C 20 305;FE70 20 64B;FE72 20 64C;FE74 20 64D;FE76 20 64E;FE78 20 64F;
FE7A 20 650;FE7C 20 651;FE7E 20 652;FFE3 20 304;1F100 30 2E;1F101 30 2C;1F102 31 2C;
1F103 32 2C;1F104 33 2C;1F105 34 2C;1F106 35 2C;1F107 36 2C;1F108 37 2C;1F109 38 2C;
1F10A 39 2C;1F110 28 41 29;1F111 28 42 29;1F112 28 43 29;1F113 28 44 29;1F114 28 45 29;
1F115 28 46 29;1F116 28 47 29;1F117 28 48 29;1F118 28 49 29;1F119 28 4A 29;
1F11A 28 4B 29;1F11B 28 4C 29;1F11C 28 4D 29;1F11D 28 4E 29;1F11E 28 4F 29;
1F11F 28 50 29;1F120 28 51 29;1F121 28 52 29;1F122 28 53 29;1F123 28 54 29;
1F124 28 55 29;1F125 28 56 29;1F126 28 57 29;1F127 28 58 29;1F128 28 59 29;
1F129 28 5A 29;1F12A 3014 53 3015;1F12D 43 44;1F12E 57 5A;1F14A 48 56;1F14B 4D 56;
1F14C 53 44;1F14D 53 53;1F14E 50 50 56;1F14F 57 43;1F16A 4D 43;1F16B 4D 44;1F16C 4D 52;
1F190 44 4A;1F200 307B 304B;1F213 30C6 3099;1F240 3014 672C 3015;"

/-- Read the items of a table of forms: each is a code point followed by the code points it
decomposes to. -/
def readForms (table : String) : Array (Nat × List Char) :=
  let step : Array (Nat × List Char) × List Nat × Nat → Char →
      Array (Nat × List Char) × List Nat × Nat := fun (done, item, n) c =>
    if c == ';' then
      match (n :: item).reverse with
      | [] => (done, [], 0)
      | code :: parts => (done.push (code, parts.map Char.ofNat), [], 0)
    else if c == ' ' then (done, n :: item, 0)
    else if c == '\n' then (done, item, n)
    else (done, item, 16 * n + (if c.isDigit then c.toNat - 48 else c.toNat - 55))
  (table.toList.foldl step (#[], [], 0)).1

/-- The table of decompositions into several characters. -/
def composedTable : Array (Nat × List Char) :=
  readForms composedForms

/-- A Hangul syllable as its leading consonant, vowel and trailing consonant. -/
def decomposeSyllable (n : Nat) : List Char :=
  let i := n - 0xAC00
  let lead := Char.ofNat (0x1100 + i / 588)
  let vowel := Char.ofNat (0x1161 + i % 588 / 28)
  if i % 28 = 0 then [lead, vowel] else [lead, vowel, Char.ofNat (0x11A7 + i % 28)]

/-- The parts of one character; a character of the basic Latin block has no parts but itself. -/
def decomposeChar (c : Char) : List Char :=
  let n := c.toNat
  if n < 128 then [c]
  else if 0xAC00 ≤ n && n ≤ 0xD7A3 then decomposeSyllable n
  else match variantRuns.find? fun (first, last, _) => first ≤ n && n ≤ last with
    | some (first, _, target) => [Char.ofNat (target + (n - first))]
    | none =>
      match composedTable.find? fun (code, _) => code == n with
      | some (_, parts) => parts
      | none => [c]

/-- A text with every character replaced by its parts. -/
def decompose (s : List Char) : List Char :=
  s.flatMap decomposeChar

end Stencil.Text
