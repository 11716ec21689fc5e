import SmartyLayout.Text.Table

/-!
# SmartyLayout.Server.Domain.Folding — characters of domain names

What each character becomes in a domain name: most stand for themselves, capital letters and
typographic variants stand for other characters, some are left out, and some may not be used. The
tables hold no character that is made of others; such a one becomes what its parts become.
-/

namespace SmartyLayout

namespace Domain

/-- Characters in rows that stand for characters in rows: the first character, their number, the
step to the next one, the first character they stand for, and the step there. -/
def runs : List (List Nat) :=
  Table.rows "
  41 1A 1 61 1, B2 2 1 32 1, 182 2 2 183 2, 189 2 1 256 1, 18F 2 1 259 2, 1A2 2 2 1A3 2,
  1B1 2 1 28A 1, 1B3 2 2 1B4 2, 222 2 2 223 2, 246 5 2 247 2, 2B0 2 2 68 2, 2B4 2 1 279 2,
  2B7 2 1 77 2, 370 2 2 371 2, 391 11 1 3B1 1, 3A3 7 1 3C3 1, 3D8 C 2 3D9 2, 3F1 2 1 3C1 2,
  3FD 3 1 37B 1, 402 5 2 452 2, 409 2 2 459 2, 410 10 2 430 2, 411 4 2 431 2, 41B B 2 43B 2,
  460 B 2 461 2, 478 5 2 479 2, 48A 1B 2 48B 2, 4C3 6 2 4C4 2, 4FA 1B 2 4FB 2, 531 26 1 561 1,
  10A0 26 1 2D00 1, 13F8 6 1 13F0 1, 1C80 2 1 432 2, 1C83 2 1 441 1, 1C90 2B 1 10D0 1,
  1CBD 3 1 10FD 1, 1D2C 2 2 61 1, 1D30 2 1 64 1, 1D33 8 1 67 1, 1D3C 2 2 6F 1, 1D3F 2 1 72 2,
  1D41 2 1 75 2, 1D44 2 1 250 1, 1D47 2 1 62 2, 1D4A 2 1 259 2, 1D4F 2 1 6B 2, 1D54 2 1 1D16 1,
  1D57 2 1 74 1, 1D5D 3 1 3B2 1, 1D60 2 1 3C6 1, 1D64 2 1 75 1, 1D66 2 1 3B2 1, 1D69 2 1 3C6 1,
  1DA1 2 1 25F 2, 1DA4 3 1 268 1, 1DAC 2 2 271 1, 1DAF 3 1 273 1, 1DB3 2 1 282 1, 1DB6 2 1 289 1,
  1DB9 2 1 28B 1, 1DBC 3 1 290 1, 1EFA 3 2 1EFB 2, 2002 9 1 20 0, 2074 6 1 34 1, 207D 2 1 28 1,
  2080 A 1 30 1, 208D 2 1 28 1, 2096 4 1 6B 1, 209B 2 1 73 1, 210A 2 1 67 1, 210C 3 1 68 0,
  2110 2 1 69 0, 2112 2 1 6C 0, 2119 3 1 70 1, 211C 2 1 72 0, 212C 2 1 62 1, 212F 2 1 65 0,
  2133 2 1 6D 2, 2135 4 1 5D0 1, 213D 2 1 3B3 0, 2145 2 1 64 0, 2148 2 1 69 1, 216D 2 1 63 1,
  217D 2 1 63 1, 2460 9 1 31 1, 24B6 1A 1 61 1, 24D0 1A 1 61 1, 2C00 30 1 2C30 1, 2C67 3 2 2C68 2,
  2C6F 2 1 250 2, 2C7E 2 1 23F 1, 2C80 32 2 2C81 2, 2CEB 2 2 2CEC 2, 2F5B 2 1 7259 2,
  3039 2 1 5344 1, 3131 2 1 1100 1, 3133 2 2 11AA 2, 3137 3 1 1103 1, 313A 6 1 11B0 1,
  3141 3 1 1106 1, 3145 A 1 1109 1, 314F 15 1 1161 1, 3165 2 1 1114 1, 3167 2 1 11C7 1,
  3169 2 1 11CC 2, 316C 2 1 11D7 2, 316F 2 1 11DD 2, 3171 2 1 111D 1, 3173 2 1 1120 2,
  3176 3 1 1127 2, 3179 4 1 112C 1, 3182 2 1 11F1 1, 3184 3 1 1157 1, 3187 2 1 1184 1,
  318A 2 1 1191 1, 3194 3 2 4E09 1, 3260 2 1 1100 2, 3262 2 1 1103 2, 3264 2 1 1106 1,
  3266 2 1 1109 2, 3268 2 1 110C 2, 326A 4 1 110F 1, 32A4 2 2 4E0A 1, 32D0 5 1 30A2 2,
  32D5 C 1 30AB 2, 32E1 4 1 30C4 2, 32E5 5 1 30CB 1, 32EE 5 1 30DE 1, 32F3 3 1 30E4 2,
  32F6 5 1 30E9 1, 32FB 4 1 30EF 1, A640 17 2 A641 2, A680 E 2 A681 2, A69C 2 1 44A 2,
  A722 7 2 A723 2, A732 1F 2 A733 2, A779 2 2 A77A 2, A77E 5 2 A77F 2, A790 2 2 A791 2,
  A796 A 2 A797 2, A7B4 8 2 A7B5 2, A7C7 2 2 A7C8 2, A7CC 8 2 A7CD 2, AB70 50 1 13A0 1,
  FB22 2 1 5D3 1, FB24 3 1 5DB 1, FB27 2 1 5E8 2, FB50 2 1 671 0, FB52 4 1 67B 0, FB56 4 1 67E 0,
  FB5A 4 1 680 0, FB5E 4 1 67A 0, FB62 4 1 67F 0, FB66 4 1 679 0, FB6A 4 1 6A4 0, FB6E 4 1 6A6 0,
  FB72 4 1 684 0, FB76 4 1 683 0, FB7A 4 1 686 0, FB7E 4 1 687 0, FB82 2 1 68D 0, FB84 2 1 68C 0,
  FB86 2 1 68E 0, FB88 2 1 688 0, FB8A 2 1 698 0, FB8C 2 1 691 0, FB8E 4 1 6A9 0, FB92 4 1 6AF 0,
  FB96 4 1 6B3 0, FB9A 4 1 6B1 0, FB9E 2 1 6BA 0, FBA0 4 1 6BB 0, FBA4 2 1 6C0 0, FBA6 4 1 6C1 0,
  FBAA 4 1 6BE 0, FBAE 2 1 6D2 0, FBB0 2 1 6D3 0, FBD3 4 1 6AD 0, FBD7 2 1 6C7 0, FBD9 2 1 6C6 0,
  FBDB 2 1 6C8 0, FBDE 2 1 6CB 0, FBE0 2 1 6C5 0, FBE2 2 1 6C9 0, FBE4 4 1 6D0 0, FBE8 2 1 649 0,
  FBFC 4 1 6CC 0, FE13 2 1 3A 1, FE17 2 1 3016 1, FE33 2 1 5F 0, FE35 2 1 28 1, FE37 2 1 7B 2,
  FE39 2 1 3014 1, FE3B 2 1 3010 1, FE3D 2 1 300A 1, FE3F 2 1 3008 1, FE41 4 1 300C 1,
  FE47 2 1 5B 2, FE4D 3 1 5F 0, FE59 2 1 28 1, FE5B 2 1 7B 2, FE5D 2 1 3014 1, FE61 2 1 2A 1,
  FE64 2 1 3C 2, FE69 2 1 24 1, FE80 6 2 621 1, FE81 5 2 622 1, FE8B 3 2 626 1, FE8C 3 2 626 1,
  FE91 3 2 628 1, FE92 3 2 628 1, FE97 2 1 62A 0, FE99 4 1 62B 0, FE9D 4 1 62C 0, FEA1 4 1 62D 0,
  FEA5 4 1 62E 0, FEA9 5 2 62F 1, FEAA 5 2 62F 1, FEB3 2 1 633 0, FEB5 4 1 634 0, FEB9 4 1 635 0,
  FEBD 4 1 636 0, FEC1 4 1 637 0, FEC5 4 1 638 0, FEC9 4 1 639 0, FECD 4 1 63A 0, FED1 4 1 641 0,
  FED5 4 1 642 0, FED9 4 1 643 0, FEDD 4 1 644 0, FEE1 4 1 645 0, FEE5 4 1 646 0, FEE9 4 1 647 0,
  FEED 3 2 648 1, FEEE 3 2 648 1, FEF3 2 1 64A 0, FF01 20 1 21 1, FF21 1A 1 61 1, FF3B 24 1 5B 1,
  FF5F 2 1 2985 1, FF62 2 1 300C 1, FF67 5 1 30A1 2, FF6C 3 1 30E3 2, FF71 5 1 30A2 2,
  FF76 C 1 30AB 2, FF82 4 1 30C4 2, FF86 5 1 30CB 1, FF8F 5 1 30DE 1, FF94 3 1 30E4 2,
  FF97 5 1 30E9 1, FF9E 2 1 3099 1, FFA1 2 1 1100 1, FFA3 2 2 11AA 2, FFA7 3 1 1103 1,
  FFAA 6 1 11B0 1, FFB1 3 1 1106 1, FFB5 A 1 1109 1, FFC2 6 1 1161 1, FFCA 6 1 1167 1,
  FFD2 6 1 116D 1, FFDA 3 1 1173 1, FFE0 2 1 A2 1, FFE9 4 1 2190 1, 10400 28 1 10428 1,
  104B0 24 1 104D8 1, 10570 13 2 10597 2, 10571 5 2 10598 2, 1057D 7 2 105A4 2, 1058D 3 2 105B4 2,
  10781 2 1 2D0 1, 10787 2 2 2A3 2, 1078B 2 1 256 1, 10794 2 2 29B 1, 10799 2 1 2AA 1,
  1079F 2 2 1DF05 1, 107A3 2 1 276 1, 107A8 2 1 27D 1, 107AC 2 2 2A6 1, 107B3 2 1 2A1 1,
  107B6 3 1 1C0 1, 10C80 33 1 10CC0 1, 10D50 16 1 10D70 1, 118A0 20 1 118C0 1, 16E40 20 1 16E60 1,
  16EA0 19 1 16EBB 1, 1CCD6 1A 1 61 1, 1CCF0 A 1 30 1, 1D400 1A 1 61 1, 1D41A 1A 1 61 1,
  1D434 1A 1 61 1, 1D44E D 2 61 2, 1D44F 3 2 62 2, 1D457 9 2 6A 2, 1D468 1A 1 61 1,
  1D482 1A 1 61 1, 1D49C 2 2 61 2, 1D4A5 2 1 6A 1, 1D4A9 4 1 6E 1, 1D4AE 8 1 73 1, 1D4B6 4 1 61 1,
  1D4BB B 2 66 2, 1D4BE 3 2 69 2, 1D4C6 5 2 71 2, 1D4D0 1A 1 61 1, 1D4EA 1A 1 61 1, 1D504 2 1 61 1,
  1D507 4 1 64 1, 1D50D 8 1 6A 1, 1D516 7 1 73 1, 1D51E 1A 1 61 1, 1D538 2 1 61 1, 1D53B 4 1 64 1,
  1D540 5 1 69 1, 1D54A 7 1 73 1, 1D552 1A 1 61 1, 1D56C 1A 1 61 1, 1D586 1A 1 61 1,
  1D5A0 1A 1 61 1, 1D5BA 1A 1 61 1, 1D5D4 1A 1 61 1, 1D5EE 1A 1 61 1, 1D608 1A 1 61 1,
  1D622 1A 1 61 1, 1D63C 1A 1 61 1, 1D656 1A 1 61 1, 1D670 1A 1 61 1, 1D68A 1A 1 61 1,
  1D6A8 11 1 3B1 1, 1D6BA 7 1 3C3 1, 1D6C2 11 1 3B1 1, 1D6D3 2 1 3C3 0, 1D6D5 6 1 3C4 1,
  1D6DD 2 1 3B8 2, 1D6E2 11 1 3B1 1, 1D6F4 7 1 3C3 1, 1D6FC 11 1 3B1 1, 1D70D 2 1 3C3 0,
  1D70F 6 1 3C4 1, 1D717 2 1 3B8 2, 1D71C 11 1 3B1 1, 1D72E 7 1 3C3 1, 1D736 11 1 3B1 1,
  1D747 2 1 3C3 0, 1D749 6 1 3C4 1, 1D751 2 1 3B8 2, 1D756 11 1 3B1 1, 1D768 7 1 3C3 1,
  1D770 11 1 3B1 1, 1D781 2 1 3C3 0, 1D783 6 1 3C4 1, 1D78B 2 1 3B8 2, 1D790 11 1 3B1 1,
  1D7A2 7 1 3C3 1, 1D7AA 11 1 3B1 1, 1D7BB 2 1 3C3 0, 1D7BD 6 1 3C4 1, 1D7C5 2 1 3B8 2,
  1D7CA 2 1 3DD 0, 1D7CE A 1 30 1, 1D7D8 A 1 30 1, 1D7E2 A 1 30 1, 1D7EC A 1 30 1, 1D7F6 A 1 30 1,
  1E030 9 1 430 1, 1E039 3 1 43A 1, 1E03C B 1 43E 1, 1E047 2 1 44B 2, 1E04C 2 1 456 2,
  1E051 9 1 430 1, 1E05A 2 1 43A 1, 1E05C 2 1 43E 1, 1E05E 2 1 441 2, 1E060 5 1 444 1,
  1E065 2 1 44A 1, 1E900 22 1 1E922 1, 1EE00 2 1 627 1, 1EE0A 4 1 643 1, 1EE10 2 2 641 1,
  1EE15 2 1 62A 1, 1EE17 2 1 62E 2, 1EE19 3 1 636 2, 1EE2A 4 1 643 1, 1EE30 2 2 641 1,
  1EE35 2 1 62A 1, 1EE4B 2 2 644 2, 1EE6A 2 2 643 2, 1EE70 2 2 641 1, 1EE75 2 1 62A 1,
  1EE79 3 1 636 2, 1EE80 2 1 627 1, 1EE84 2 1 647 1, 1EE8B 3 1 644 1, 1EE90 2 2 641 1,
  1EE95 2 1 62A 1, 1EE97 2 1 62E 2, 1EE99 3 1 636 2, 1EEAB 3 1 644 1, 1EEB0 2 2 641 1,
  1EEB5 2 1 62A 1, 1EEB7 2 1 62E 2, 1EEB9 3 1 636 2, 1F130 1A 1 61 1, 1FBF0 A 1 30 1"

/-- Single characters that stand for another one. -/
def variants : List (List Nat) :=
  Table.countedRows "
  A0 20,, AA 61,, B5 3BC,, B9 31, 6F,, C6 E6,, D0 F0,, D8 F8,, DE FE,, 110 111,, 126 127,, 141 142,,
  14A 14B,, 152 153,, 166 167,, 17F 73,, 181 253,, 186 254, 188,, 18B 18C,, 18E 1DD,, 191 192,,
  193 260, 263,, 196 269, 268, 199,, 19C 26F, 272,, 19F 275,, 1A6 280, 1A8,, 1A9 283,, 1AC 1AD,,
  1AE 288,, 1B7 292, 1B9,, 1BC 1BD,, 1E4 1E5,, 1F6 195, 1BF,, 21C 21D,, 220 19E,, 23A 2C65, 23C,,
  23D 19A, 2C66,, 241 242,, 243 180, 289, 28C,, 2B1 266,, 2B3 72,, 2B6 281,, 2E0 263, 6C, 73, 78,
  295,, 345 3B9,, 376 377,, 37F 3F3,, 3CF 3D7, 3B2, 3B8, 3C5,, 3D5 3C6, 3C0,, 3F0 3BA,, 3F4 3B8,
  3B5,, 3F7 3F8,, 3F9 3C3, 3FB,, 405 455,, 40F 45F,, 4C0 4CF,, 4D4 4D5,, 4D8 4D9,, 4E0 4E1,,
  4E8 4E9,, 4F6 4F7,, F0C F0B,, 10C7 2D27,, 10CD 2D2D,, 10FC 10DC,, 1C82 43E,, 1C85 442, 44A, 463,
  A64B, 1C8A,, 1D2D E6,, 1D32 1DD,, 1D3D 223,, 1D43 61,, 1D46 1D02,, 1D49 65,, 1D4C 25C, 67,,
  1D51 14B, 6F, 254,, 1D56 70,, 1D59 1D1D, 26F, 76, 1D25,, 1D62 69, 72,, 1D68 3C1,, 1D78 43D,,
  1D9B 252, 63, 255, F0, 25C, 66,, 1DA3 265,, 1DA7 1D7B, 29D, 26D, 1D85, 29F,, 1DAD 270,, 1DB2 278,,
  1DB5 1AB,, 1DB8 1D1C,, 1DBB 7A,, 1DBF 3B8,, 1E9E DF,, 2011 2010,, 202F 20,, 205F 20,, 2070 30,
  69,, 207A 2B, 2212, 3D,, 207F 6E,, 208A 2B, 2212, 3D,, 2090 61, 65, 6F, 78, 259, 68,, 209A 70,,
  2102 63,, 2107 25B,, 210F 127,, 2115 6E,, 2124 7A,, 2128 7A,, 2131 66, 214E,, 2139 69,, 213C 3C0,,
  213F 3C0, 2211,, 2147 65,, 2160 69,, 2164 76,, 2169 78,, 216C 6C,, 216F 6D, 69,, 2174 76,,
  2179 78,, 217C 6C,, 217F 6D,, 2183 2184,, 24EA 30,, 2C60 2C61,, 2C62 26B, 1D7D, 27D,, 2C6D 251,
  271,, 2C72 2C73,, 2C75 2C76,, 2C7C 6A, 76,, 2CF2 2CF3,, 2D6F 2D61,, 2E9F 6BCD,, 2EF3 9F9F,,
  2F00 4E00, 4E28, 4E36, 4E3F, 4E59, 4E85, 4E8C, 4EA0, 4EBA, 513F, 5165, 516B, 5182, 5196, 51AB,
  51E0, 51F5, 5200, 529B, 52F9, 5315, 531A, 5338, 5341, 535C, 5369, 5382, 53B6, 53C8, 53E3, 56D7,
  571F, 58EB, 5902, 590A, 5915, 5927, 5973, 5B50, 5B80, 5BF8, 5C0F, 5C22, 5C38, 5C6E, 5C71, 5DDB,
  5DE5, 5DF1, 5DFE, 5E72, 5E7A, 5E7F, 5EF4, 5EFE, 5F0B, 5F13, 5F50, 5F61, 5F73, 5FC3, 6208, 6236,
  624B, 652F, 6534, 6587, 6597, 65A4, 65B9, 65E0, 65E5, 66F0, 6708, 6728, 6B20, 6B62, 6B79, 6BB3,
  6BCB, 6BD4, 6BDB, 6C0F, 6C14, 6C34, 706B, 722A, 7236, 723B, 723F, 7247,, 2F5D 72AC, 7384, 7389,
  74DC, 74E6, 7518, 751F, 7528, 7530, 758B, 7592, 7676, 767D, 76AE, 76BF, 76EE, 77DB, 77E2, 77F3,
  793A, 79B8, 79BE, 7A74, 7ACB, 7AF9, 7C73, 7CF8, 7F36, 7F51, 7F8A, 7FBD, 8001, 800C, 8012, 8033,
  807F, 8089, 81E3, 81EA, 81F3, 81FC, 820C, 821B, 821F, 826E, 8272, 8278, 864D, 866B, 8840, 884C,
  8863, 897E, 898B, 89D2, 8A00, 8C37, 8C46, 8C55, 8C78, 8C9D, 8D64, 8D70, 8DB3, 8EAB, 8ECA, 8F9B,
  8FB0, 8FB5, 9091, 9149, 91C6, 91CC, 91D1, 9577, 9580, 961C, 96B6, 96B9, 96E8, 9751, 975E, 9762,
  9769, 97CB, 97ED, 97F3, 9801, 98A8, 98DB, 98DF, 9996, 9999, 99AC, 9AA8, 9AD8, 9ADF, 9B25, 9B2F,
  9B32, 9B3C, 9B5A, 9CE5, 9E75, 9E7F, 9EA5, 9EBB, 9EC3, 9ECD, 9ED1, 9EF9, 9EFD, 9F0E, 9F13, 9F20,
  9F3B, 9F4A, 9F52, 9F8D, 9F9C, 9FA0,, 3000 20,, 3002 2E,, 3036 3012,, 3038 5341,, 3134 1102,,
  3136 11AD,, 3140 111A,, 3144 1121,, 316B 11D3,, 316E 111C,, 3175 1123,, 317D 1132, 1136, 1140,
  1147, 114C,, 3189 1188,, 318C 1194, 119E, 11A1,, 3192 4E00, 4E8C,, 3195 56DB,, 3197 4E2D,,
  3199 7532, 4E59, 4E19, 4E01, 5929, 5730, 4EBA,, 3244 554F, 5E7C, 6587, 7B8F,, 326E AC00, B098,
  B2E4, B77C, B9C8, BC14, C0AC, C544, C790, CC28, CE74, D0C0, D30C, D558,, 327E C6B0,, 3280 4E00,
  4E8C, 4E09, 56DB, 4E94, 516D, 4E03, 516B, 4E5D, 5341, 6708, 706B, 6C34, 6728, 91D1, 571F, 65E5,
  682A, 6709, 793E, 540D, 7279, 8CA1, 795D, 52B4, 79D8, 7537, 5973, 9069, 512A, 5370, 6CE8, 9805,
  4F11, 5199, 6B63,, 32A5 4E2D,, 32A7 5DE6, 53F3, 533B, 5B97, 5B66, 76E3, 4F01, 8CC7, 5354, 591C,,
  32EA 30D2, 30D5, 30D8, 30DB,, A770 A76F,, A77D 1D79,, A78B A78C,, A78D 265,, A7AA 266, 25C, 261,
  26C, 26A,, A7B0 29E, 287, 29D, AB53,, A7C4 A794, 282, 1D8E,, A7CB 264,, A7DC 19B,, A7F1 73, 63,
  66, 71, A7F6,, A7F8 127, 153,, AB5C A727, AB37, 26B, AB52,, AB69 28D,, FB20 5E2, 5D0,, FB29 2B,,
  FE10 2C, 3001,, FE15 21, 3F,, FE31 2014, 2013,, FE50 2C, 3001,, FE54 3B, 3A, 3F, 21, 2014,,
  FE5F 23, 26,, FE63 2D,, FE66 3D,, FE68 5C,, FE6B 40,, FF61 2E,, FF64 3001, 30FB, 30F2,, FF6F 30C3,
  30FC,, FF8B 30D2, 30D5, 30D8, 30DB,, FF9C 30EF, 30F3,, FFA4 1102,, FFA6 11AD,, FFB0 111A,,
  FFB4 1121,, FFE2 AC,, FFE4 A6, A5, 20A9,, FFE8 2502,, FFED 25A0, 25CB,, 10595 105BC,, 10783 E6,
  299, 253,, 10788 AB66,, 1078A 2A4,, 1078D 1D91, 258, 25E, 2A9, 264, 262, 260,, 10795 127,,
  10797 267, 284,, 1079B 26C, 1DF04, A78E, 26E,, 107A0 28E,, 107A2 F8,, 107A5 71, 27A, 1DF08,,
  107AA 280, 2A8,, 107AD AB67,, 107AF 288, 2C71,, 107B2 28F,, 107B5 298,, 107B9 1DF0A, 1DF1E,,
  1D49F 64,, 1D4A2 67,, 1D546 6F,, 1D6A4 131, 237,, 1D6B9 3B8,, 1D6C1 2207,, 1D6DB 2202, 3B5,,
  1D6DF 3C6, 3C1, 3C0,, 1D6F3 3B8,, 1D6FB 2207,, 1D715 2202, 3B5,, 1D719 3C6, 3C1, 3C0,, 1D72D 3B8,,
  1D735 2207,, 1D74F 2202, 3B5,, 1D753 3C6, 3C1, 3C0,, 1D767 3B8,, 1D76F 2207,, 1D789 2202, 3B5,,
  1D78D 3C6, 3C1, 3C0,, 1D7A1 3B8,, 1D7A9 2207,, 1D7C3 2202, 3B5,, 1D7C7 3C6, 3C1, 3C0,, 1E049 44E,
  A689, 4D9,, 1E04E 4E9, 4AF, 4CF,, 1E067 491, 456, 455, 45F, 4AB, A651, 4B1,, 1EE02 62C, 62F,,
  1EE05 648, 632, 62D, 637, 64A,, 1EE0E 633, 639,, 1EE11 635,, 1EE13 631, 634,, 1EE1C 66E, 6BA, 6A1,
  66F,, 1EE21 628, 62C,, 1EE24 647,, 1EE27 62D,, 1EE29 64A,, 1EE2E 633, 639,, 1EE31 635,,
  1EE34 634,, 1EE37 62E,, 1EE39 636,, 1EE3B 63A,, 1EE42 62C,, 1EE47 62D,, 1EE49 64A,, 1EE4E 633,
  639,, 1EE51 635, 642,, 1EE54 634,, 1EE57 62E,, 1EE59 636,, 1EE5B 63A,, 1EE5D 6BA,, 1EE5F 66F,,
  1EE61 628, 62C,, 1EE64 647,, 1EE67 62D, 637, 64A,, 1EE6D 646, 633, 639,, 1EE71 635,, 1EE74 634,,
  1EE77 62E,, 1EE7C 66E,, 1EE7E 6A1,, 1EE82 62C, 62F,, 1EE86 632, 62D, 637, 64A,, 1EE8E 633, 639,,
  1EE91 635,, 1EE93 631, 634,, 1EEA1 628, 62C, 62F,, 1EEA5 648, 632, 62D, 637, 64A,, 1EEAE 633,
  639,, 1EEB1 635,, 1EEB3 631, 634,, 1F12B 63, 72,, 1F202 30B5,, 1F210 624B, 5B57, 53CC, 30C7, 4E8C,
  591A, 89E3, 5929, 4EA4, 6620, 7121, 6599, 524D, 5F8C, 518D, 65B0, 521D, 7D42, 751F, 8CA9, 58F0,
  5439, 6F14, 6295, 6355, 4E00, 4E09, 904A, 5DE6, 4E2D, 53F3, 6307, 8D70, 6253, 7981, 7A7A, 5408,
  6E80, 6709, 6708, 7533, 5272, 55B6, 914D,, 1F250 5F97, 53EF"

/-- Characters that stand for several others. -/
def spellings : List (List Nat) :=
  Table.countedRows "
  A8 20 308,, AF 20 304,, B4 20 301,, B8 20 327,, BC 31 2044 34, 31 2044 32, 33 2044 34,, 132 69 6A,
  69 6A,, 13F 6C B7, 6C B7,, 149 2BC 6E,, 1C4 64 17E, 64 17E, 64 17E, 6C 6A, 6C 6A, 6C 6A, 6E 6A,
  6E 6A, 6E 6A,, 1F1 64 7A, 64 7A, 64 7A,, 2D8 20 306, 20 307, 20 30A, 20 328, 20 303, 20 30B,,
  37A 20 3B9,, 384 20 301,, 587 565 582,, 675 627 674, 648 674, 6C7 674, 64A 674,, E33 E4D E32,,
  EB3 ECD EB2,, EDC EAB E99, EAB EA1,, F77 FB2 F71 F80,, F79 FB3 F71 F80,, 1E9A 61 2BE,,
  1FBD 20 313,, 1FBF 20 313, 20 342,, 1FFE 20 314,, 2017 20 333,, 2033 2032 2032, 2032 2032 2032,,
  2036 2035 2035, 2035 2035 2035,, 203C 21 21,, 203E 20 305,, 2047 3F 3F, 3F 21, 21 3F,,
  2057 2032 2032 2032 2032,, 20A8 72 73,, 2100 61 2F 63, 61 2F 73,, 2103 B0 63,, 2105 63 2F 6F,
  63 2F 75,, 2109 B0 66,, 2116 6E 6F,, 2120 73 6D, 74 65 6C, 74 6D,, 213B 66 61 78,,
  2150 31 2044 37, 31 2044 39, 31 2044 31 30, 31 2044 33, 32 2044 33, 31 2044 35, 32 2044 35,
  33 2044 35, 34 2044 35, 31 2044 36, 35 2044 36, 31 2044 38, 33 2044 38, 35 2044 38, 37 2044 38,
  31 2044,, 2161 69 69, 69 69 69, 69 76,, 2165 76 69, 76 69 69, 76 69 69 69, 69 78,, 216A 78 69,
  78 69 69,, 2171 69 69, 69 69 69, 69 76,, 2175 76 69, 76 69 69, 76 69 69 69, 69 78,, 217A 78 69,
  78 69 69,, 2189 30 2044 33,, 222C 222B 222B, 222B 222B 222B,, 222F 222E 222E, 222E 222E 222E,,
  2469 31 30, 31 31, 31 32, 31 33, 31 34, 31 35, 31 36, 31 37, 31 38, 31 39, 32 30, 28 31 29,
  28 32 29, 28 33 29, 28 34 29, 28 35 29, 28 36 29, 28 37 29, 28 38 29, 28 39 29, 28 31 30 29,
  28 31 31 29, 28 31 32 29, 28 31 33 29, 28 31 34 29, 28 31 35 29, 28 31 36 29, 28 31 37 29,
  28 31 38 29, 28 31 39 29, 28 32 30 29,, 249C 28 61 29, 28 62 29, 28 63 29, 28 64 29, 28 65 29,
  28 66 29, 28 67 29, 28 68 29, 28 69 29, 28 6A 29, 28 6B 29, 28 6C 29, 28 6D 29, 28 6E 29,
  28 6F 29, 28 70 29, 28 71 29, 28 72 29, 28 73 29, 28 74 29, 28 75 29, 28 76 29, 28 77 29,
  28 78 29, 28 79 29, 28 7A 29,, 2A0C 222B 222B 222B 222B,, 2A74 3A 3A 3D, 3D 3D, 3D 3D 3D,,
  309B 20 3099, 20 309A,, 309F 3088 308A,, 30FF 30B3 30C8,, 3200 28 1100 29, 28 1102 29, 28 1103 29,
  28 1105 29, 28 1106 29, 28 1107 29, 28 1109 29, 28 110B 29, 28 110C 29, 28 110E 29, 28 110F 29,
  28 1110 29, 28 1111 29, 28 1112 29, 28 AC00 29, 28 B098 29, 28 B2E4 29, 28 B77C 29, 28 B9C8 29,
  28 BC14 29, 28 C0AC 29, 28 C544 29, 28 C790 29, 28 CC28 29, 28 CE74 29, 28 D0C0 29, 28 D30C 29,
  28 D558 29, 28 C8FC 29, 28 C624 C804 29, 28 C624 D6C4 29,, 3220 28 4E00 29, 28 4E8C 29,
  28 4E09 29, 28 56DB 29, 28 4E94 29, 28 516D 29, 28 4E03 29, 28 516B 29, 28 4E5D 29, 28 5341 29,
  28 6708 29, 28 706B 29, 28 6C34 29, 28 6728 29, 28 91D1 29, 28 571F 29, 28 65E5 29, 28 682A 29,
  28 6709 29, 28 793E 29, 28 540D 29, 28 7279 29, 28 8CA1 29, 28 795D 29, 28 52B4 29, 28 4EE3 29,
  28 547C 29, 28 5B66 29, 28 76E3 29, 28 4F01 29, 28 8CC7 29, 28 5354 29, 28 796D 29, 28 4F11 29,
  28 81EA 29, 28 81F3 29,, 3250 70 74 65, 32 31, 32 32, 32 33, 32 34, 32 35, 32 36, 32 37, 32 38,
  32 39, 33 30, 33 31, 33 32, 33 33, 33 34, 33 35,, 327C CC38 ACE0, C8FC C758,, 32B1 33 36, 33 37,
  33 38, 33 39, 34 30, 34 31, 34 32, 34 33, 34 34, 34 35, 34 36, 34 37, 34 38, 34 39, 35 30,
  31 6708, 32 6708, 33 6708, 34 6708, 35 6708, 36 6708, 37 6708, 38 6708, 39 6708, 31 30 6708,
  31 31 6708, 31 32 6708, 68 67, 65 72 67, 65 76, 6C 74 64,, 32FF 4EE4 548C, 30A2 30D1 30FC 30C8,
  30A2 30EB 30D5 30A1, 30A2 30F3 30DA 30A2, 30A2 30FC 30EB, 30A4 30CB 30F3 30B0, 30A4 30F3 30C1,
  30A6 30A9 30F3, 30A8 30B9 30AF 30FC 30C9, 30A8 30FC 30AB 30FC, 30AA 30F3 30B9, 30AA 30FC 30E0,
  30AB 30A4 30EA, 30AB 30E9 30C3 30C8, 30AB 30ED 30EA 30FC, 30AC 30ED 30F3, 30AC 30F3 30DE,
  30AE 30AC, 30AE 30CB 30FC, 30AD 30E5 30EA 30FC, 30AE 30EB 30C0 30FC, 30AD 30ED,
  30AD 30ED 30B0 30E9 30E0, 30AD 30ED 30E1 30FC 30C8 30EB, 30AD 30ED 30EF 30C3 30C8, 30B0 30E9 30E0,
  30B0 30E9 30E0 30C8 30F3, 30AF 30EB 30BC 30A4 30ED, 30AF 30ED 30FC 30CD, 30B1 30FC 30B9,
  30B3 30EB 30CA, 30B3 30FC 30DD, 30B5 30A4 30AF 30EB, 30B5 30F3 30C1 30FC 30E0,
  30B7 30EA 30F3 30B0, 30BB 30F3 30C1, 30BB 30F3 30C8, 30C0 30FC 30B9, 30C7 30B7, 30C9 30EB,
  30C8 30F3, 30CA 30CE, 30CE 30C3 30C8, 30CF 30A4 30C4, 30D1 30FC 30BB 30F3 30C8, 30D1 30FC 30C4,
  30D0 30FC 30EC 30EB, 30D4 30A2 30B9 30C8 30EB, 30D4 30AF 30EB, 30D4 30B3, 30D3 30EB,
  30D5 30A1 30E9 30C3 30C9, 30D5 30A3 30FC 30C8, 30D6 30C3 30B7 30A7 30EB, 30D5 30E9 30F3,
  30D8 30AF 30BF 30FC 30EB, 30DA 30BD, 30DA 30CB 30D2, 30D8 30EB 30C4, 30DA 30F3 30B9,
  30DA 30FC 30B8, 30D9 30FC 30BF, 30DD 30A4 30F3 30C8, 30DC 30EB 30C8, 30DB 30F3, 30DD 30F3 30C9,
  30DB 30FC 30EB, 30DB 30FC 30F3, 30DE 30A4 30AF 30ED, 30DE 30A4 30EB, 30DE 30C3 30CF,
  30DE 30EB 30AF, 30DE 30F3 30B7 30E7 30F3, 30DF 30AF 30ED 30F3, 30DF 30EA,
  30DF 30EA 30D0 30FC 30EB, 30E1 30AC, 30E1 30AC 30C8 30F3, 30E1 30FC 30C8 30EB, 30E4 30FC 30C9,
  30E4 30FC 30EB, 30E6 30A2 30F3, 30EA 30C3 30C8 30EB, 30EA 30E9, 30EB 30D4 30FC,
  30EB 30FC 30D6 30EB, 30EC 30E0, 30EC 30F3 30C8 30B2 30F3, 30EF 30C3 30C8, 30 70B9, 31 70B9,
  32 70B9, 33 70B9, 34 70B9, 35 70B9, 36 70B9, 37 70B9, 38 70B9, 39 70B9, 31 30 70B9, 31 31 70B9,
  31 32 70B9, 31 33 70B9, 31 34 70B9, 31 35 70B9, 31 36 70B9, 31 37 70B9, 31 38 70B9, 31 39 70B9,
  32 30 70B9, 32 31 70B9, 32 32 70B9, 32 33 70B9, 32 34 70B9, 68 70 61, 64 61, 61 75, 62 61 72,
  6F 76, 70 63, 64 6D, 64 6D 32, 64 6D 33, 69 75, 5E73 6210, 662D 548C, 5927 6B63, 660E 6CBB,
  682A 5F0F 4F1A 793E, 70 61, 6E 61, 3BC 61, 6D 61, 6B 61, 6B 62, 6D 62, 67 62, 63 61 6C,
  6B 63 61 6C, 70 66, 6E 66, 3BC 66, 3BC 67, 6D 67, 6B 67, 68 7A, 6B 68 7A, 6D 68 7A, 67 68 7A,
  74 68 7A, 3BC 6C, 6D 6C, 64 6C, 6B 6C, 66 6D, 6E 6D, 3BC 6D, 6D 6D, 63 6D, 6B 6D, 6D 6D 32,
  63 6D 32, 6D 32, 6B 6D 32, 6D 6D 33, 63 6D 33, 6D 33, 6B 6D 33, 6D 2215 73, 6D 2215 73 32, 70 61,
  6B 70 61, 6D 70 61, 67 70 61, 72 61 64, 72 61 64 2215 73, 72 61 64 2215 73 32, 70 73, 6E 73,
  3BC 73, 6D 73, 70 76, 6E 76, 3BC 76, 6D 76, 6B 76, 6D 76, 70 77, 6E 77, 3BC 77, 6D 77, 6B 77,
  6D 77, 6B 3C9, 6D 3C9,, 33C3 62 71, 63 63, 63 64, 63 2215 6B 67,, 33C8 64 62, 67 79, 68 61, 68 70,
  69 6E, 6B 6B, 6B 6D, 6B 74, 6C 6D, 6C 6E, 6C 6F 67, 6C 78, 6D 62, 6D 69 6C, 6D 6F 6C, 70 68,,
  33D9 70 70 6D, 70 72, 73 72, 73 76, 77 62, 76 2215 6D, 61 2215 6D, 31 65E5, 32 65E5, 33 65E5,
  34 65E5, 35 65E5, 36 65E5, 37 65E5, 38 65E5, 39 65E5, 31 30 65E5, 31 31 65E5, 31 32 65E5,
  31 33 65E5, 31 34 65E5, 31 35 65E5, 31 36 65E5, 31 37 65E5, 31 38 65E5, 31 39 65E5, 32 30 65E5,
  32 31 65E5, 32 32 65E5, 32 33 65E5, 32 34 65E5, 32 35 65E5, 32 36 65E5, 32 37 65E5, 32 38 65E5,
  32 39 65E5, 33 30 65E5, 33 31 65E5, 67 61 6C,, FB00 66 66, 66 69, 66 6C, 66 66 69, 66 66 6C,
  73 74, 73 74,, FB13 574 576, 574 565, 574 56B, 57E 576, 574 56D,, FB4F 5D0 5DC,, FBDD 6C7 674,,
  FBEA 626 627, 626 627, 626 6D5, 626 6D5, 626 648, 626 648, 626 6C7, 626 6C7, 626 6C6, 626 6C6,
  626 6C8, 626 6C8, 626 6D0, 626 6D0, 626 6D0, 626 649, 626 649, 626 649,, FC00 626 62C, 626 62D,
  626 645, 626 649, 626 64A, 628 62C, 628 62D, 628 62E, 628 645, 628 649, 628 64A, 62A 62C, 62A 62D,
  62A 62E, 62A 645, 62A 649, 62A 64A, 62B 62C, 62B 645, 62B 649, 62B 64A, 62C 62D, 62C 645, 62D 62C,
  62D 645, 62E 62C, 62E 62D, 62E 645, 633 62C, 633 62D, 633 62E, 633 645, 635 62D, 635 645, 636 62C,
  636 62D, 636 62E, 636 645, 637 62D, 637 645, 638 645, 639 62C, 639 645, 63A 62C, 63A 645, 641 62C,
  641 62D, 641 62E, 641 645, 641 649, 641 64A, 642 62D, 642 645, 642 649, 642 64A, 643 627, 643 62C,
  643 62D, 643 62E, 643 644, 643 645, 643 649, 643 64A, 644 62C, 644 62D, 644 62E, 644 645, 644 649,
  644 64A, 645 62C, 645 62D, 645 62E, 645 645, 645 649, 645 64A, 646 62C, 646 62D, 646 62E, 646 645,
  646 649, 646 64A, 647 62C, 647 645, 647 649, 647 64A, 64A 62C, 64A 62D, 64A 62E, 64A 645, 64A 649,
  64A 64A, 630 670, 631 670, 649 670, 20 64C 651, 20 64D 651, 20 64E 651, 20 64F 651, 20 650 651,
  20 651 670, 626 631, 626 632, 626 645, 626 646, 626 649, 626 64A, 628 631, 628 632, 628 645,
  628 646, 628 649, 628 64A, 62A 631, 62A 632, 62A 645, 62A 646, 62A 649, 62A 64A, 62B 631, 62B 632,
  62B 645, 62B 646, 62B 649, 62B 64A, 641 649, 641 64A, 642 649, 642 64A, 643 627, 643 644, 643 645,
  643 649, 643 64A, 644 645, 644 649, 644 64A, 645 627, 645 645, 646 631, 646 632, 646 645, 646 646,
  646 649, 646 64A, 649 670, 64A 631, 64A 632, 64A 645, 64A 646, 64A 649, 64A 64A, 626 62C, 626 62D,
  626 62E, 626 645, 626 647, 628 62C, 628 62D, 628 62E, 628 645, 628 647, 62A 62C, 62A 62D, 62A 62E,
  62A 645, 62A 647, 62B 645, 62C 62D, 62C 645, 62D 62C, 62D 645, 62E 62C, 62E 645, 633 62C, 633 62D,
  633 62E, 633 645, 635 62D, 635 62E, 635 645, 636 62C, 636 62D, 636 62E, 636 645, 637 62D, 638 645,
  639 62C, 639 645, 63A 62C, 63A 645, 641 62C, 641 62D, 641 62E, 641 645, 642 62D, 642 645, 643 62C,
  643 62D, 643 62E, 643 644, 643 645, 644 62C, 644 62D, 644 62E, 644 645, 644 647, 645 62C, 645 62D,
  645 62E, 645 645, 646 62C, 646 62D, 646 62E, 646 645, 646 647, 647 62C, 647 645, 647 670, 64A 62C,
  64A 62D, 64A 62E, 64A 645, 64A 647, 626 645, 626 647, 628 645, 628 647, 62A 645, 62A 647, 62B 645,
  62B 647, 633 645, 633 647, 634 645, 634 647, 643 644, 643 645, 644 645, 646 645, 646 647, 64A 645,
  64A 647, 640 64E 651, 640 64F 651, 640 650 651, 637 649, 637 64A, 639 649, 639 64A, 63A 649,
  63A 64A, 633 649, 633 64A, 634 649, 634 64A, 62D 649, 62D 64A, 62C 649, 62C 64A, 62E 649, 62E 64A,
  635 649, 635 64A, 636 649, 636 64A, 634 62C, 634 62D, 634 62E, 634 645, 634 631, 633 631, 635 631,
  636 631, 637 649, 637 64A, 639 649, 639 64A, 63A 649, 63A 64A, 633 649, 633 64A, 634 649, 634 64A,
  62D 649, 62D 64A, 62C 649, 62C 64A, 62E 649, 62E 64A, 635 649, 635 64A, 636 649, 636 64A, 634 62C,
  634 62D, 634 62E, 634 645, 634 631, 633 631, 635 631, 636 631, 634 62C, 634 62D, 634 62E, 634 645,
  633 647, 634 647, 637 645, 633 62C, 633 62D, 633 62E, 634 62C, 634 62D, 634 62E, 637 645, 638 645,
  627 64B, 627 64B,, FD50 62A 62C 645, 62A 62D 62C, 62A 62D 62C, 62A 62D 645, 62A 62E 645,
  62A 645 62C, 62A 645 62D, 62A 645 62E, 62C 645 62D, 62C 645 62D, 62D 645 64A, 62D 645 649,
  633 62D 62C, 633 62C 62D, 633 62C 649, 633 645 62D, 633 645 62D, 633 645 62C, 633 645 645,
  633 645 645, 635 62D 62D, 635 62D 62D, 635 645 645, 634 62D 645, 634 62D 645, 634 62C 64A,
  634 645 62E, 634 645 62E, 634 645 645, 634 645 645, 636 62D 649, 636 62E 645, 636 62E 645,
  637 645 62D, 637 645 62D, 637 645 645, 637 645 64A, 639 62C 645, 639 645 645, 639 645 645,
  639 645 649, 63A 645 645, 63A 645 64A, 63A 645 649, 641 62E 645, 641 62E 645, 642 645 62D,
  642 645 645, 644 62D 645, 644 62D 64A, 644 62D 649, 644 62C 62C, 644 62C 62C, 644 62E 645,
  644 62E 645, 644 645 62D, 644 645 62D, 645 62D 62C, 645 62D 645, 645 62D 64A, 645 62C 62D,
  645 62C 645, 645 62E 62C, 645 62E 645,, FD92 645 62C 62E, 647 645 62C, 647 645 645, 646 62D 645,
  646 62D 649, 646 62C 645, 646 62C 645, 646 62C 649, 646 645 64A, 646 645 649, 64A 645 645,
  64A 645 645, 628 62E 64A, 62A 62C 64A, 62A 62C 649, 62A 62E 64A, 62A 62E 649, 62A 645 64A,
  62A 645 649, 62C 645 64A, 62C 62D 649, 62C 645 649, 633 62E 649, 635 62D 64A, 634 62D 64A,
  636 62D 64A, 644 62C 64A, 644 645 64A, 64A 62D 64A, 64A 62C 64A, 64A 645 64A, 645 645 64A,
  642 645 64A, 646 62D 64A, 642 645 62D, 644 62D 645, 639 645 64A, 643 645 64A, 646 62C 62D,
  645 62E 64A, 644 62C 645, 643 645 645, 644 62C 645, 646 62C 62D, 62C 62D 64A, 62D 62C 64A,
  645 62C 64A, 641 645 64A, 628 62D 64A, 643 645 645, 639 62C 645, 635 645 645, 633 62E 64A,
  646 62C 64A,, FDF0 635 644 6D2, 642 644 6D2, 627 644 644 647, 627 643 628 631, 645 62D 645 62F,
  635 644 639 645, 631 633 648 644, 639 644 64A 647, 648 633 644 645, 635 644 649,
  635 644 649 20 627 644 644 647 20 639 644 64A 647 20 648 633 644 645,
  62C 644 20 62C 644 627 644 647, 631 6CC 627 644,, FE49 20 305, 20 305, 20 305, 20 305,,
  FE70 20 64B, 640 64B, 20 64C,, FE74 20 64D,, FE76 20 64E, 640 64E, 20 64F, 640 64F, 20 650,
  640 650, 20 651, 640 651, 20 652, 640 652,, FEF5 644 622, 644 622, 644 623, 644 623, 644 625,
  644 625, 644 627, 644 627,, FFE3 20 304,, 1F101 30 2C, 31 2C, 32 2C, 33 2C, 34 2C, 35 2C, 36 2C,
  37 2C, 38 2C, 39 2C,, 1F110 28 61 29, 28 62 29, 28 63 29, 28 64 29, 28 65 29, 28 66 29, 28 67 29,
  28 68 29, 28 69 29, 28 6A 29, 28 6B 29, 28 6C 29, 28 6D 29, 28 6E 29, 28 6F 29, 28 70 29,
  28 71 29, 28 72 29, 28 73 29, 28 74 29, 28 75 29, 28 76 29, 28 77 29, 28 78 29, 28 79 29,
  28 7A 29, 3014 73 3015,, 1F12D 63 64, 77 7A,, 1F14A 68 76, 6D 76, 73 64, 73 73, 70 70 76, 77 63,,
  1F16A 6D 63, 6D 64, 6D 72,, 1F190 64 6A,, 1F200 307B 304B, 30B3 30B3,, 1F240 3014 672C 3015,
  3014 4E09 3015, 3014 4E8C 3015, 3014 5B89 3015, 3014 70B9 3015, 3014 6253 3015, 3014 76D7 3015,
  3014 52DD 3015, 3014 6557 3015"

/-- Characters without a shape of their own, which are left out. -/
def shapeless : List (Nat × Nat) :=
  Table.ranges "
  AD, 34F, 115F 1160, 17B4 17B5, 180B 180F, 200B, 2060 2064, 206A 206F, 3164, FE00 FE0F, FEFF,
  FFA0, 1BCA0 1BCA3, 1D173 1D17A, E0100 E01EF"

/-- Characters that stand in no domain name. -/
def barred : List (Nat × Nat) :=
  Table.ranges "
  80 9F, 378 379, 380 383, 38B 38D, 3A2, 530, 557 558, 58B 58C, 590, 5C8 5CF, 5EB 5EE, 5F5 605,
  61C, 6DD, 70E 70F, 74B 74C, 7B2 7BF, 7FB 7FC, 82E 82F, 83F, 85C 85D, 85F, 86B 86F, 890 896, 8E2,
  984, 98D 98E, 991 992, 9A9, 9B1, 9B3 9B5, 9BA 9BB, 9C5 9C6, 9C9 9CA, 9CF 9D6, 9D8 9DE, 9E4 9E5,
  9FF A00, A04, A0B A0E, A11 A12, A29, A31, A34, A37, A3A A3B, A3D, A43 A46, A49 A4A, A4E A50,
  A52 A58, A5D A65, A77 A80, A84, A8E, A92, AA9, AB1, AB4, ABA ABB, AC6, ACA, ACE ACF, AD1 ADF,
  AE4 AE5, AF2 AF8, B00, B04, B0D B0E, B11 B12, B29, B31, B34, B3A B3B, B45 B46, B49 B4A, B4E B54,
  B58 B5E, B64 B65, B78 B81, B84, B8B B8D, B91, B96 B98, B9B, B9D, BA0 BA2, BA5 BA7, BAB BAD,
  BBA BBD, BC3 BC5, BC9, BCE BCF, BD1 BD6, BD8 BE5, BFB BFF, C0D, C11, C29, C3A C3B, C45, C49,
  C4E C54, C57, C5B, C5E C5F, C64 C65, C70 C76, C8D, C91, CA9, CB4, CBA CBB, CC5, CC9, CCE CD4,
  CD7 CDB, CDF, CE4 CE5, CF0, CF4 CFF, D0D, D11, D45, D49, D50 D53, D64 D65, D80, D84, D97 D99,
  DB2, DBC, DBE DBF, DC7 DC9, DCB DCE, DD5, DD7, DE0 DE5, DF0 DF1, DF5 E00, E3B E3E, E5C E80, E83,
  E85, E8B, EA4, EA6, EBE EBF, EC5, EC7, ECF, EDA EDB, EE0 EFF, F48, F6D F70, F98, FBD, FCD,
  FDB FFF, 10C6, 10C8 10CC, 10CE 10CF, 1249, 124E 124F, 1257, 1259, 125E 125F, 1289, 128E 128F,
  12B1, 12B6 12B7, 12BF, 12C1, 12C6 12C7, 12D7, 1311, 1316 1317, 135B 135C, 137D 137F, 139A 139F,
  13F6 13F7, 13FE 13FF, 1680, 169D 169F, 16F9 16FF, 1716 171E, 1737 173F, 1754 175F, 176D, 1771,
  1774 177F, 17DE 17DF, 17EA 17EF, 17FA 17FF, 181A 181F, 1879 187F, 18AB 18AF, 18F6 18FF, 191F,
  192C 192F, 193C 193F, 1941 1943, 196E 196F, 1975 197F, 19AC 19AF, 19CA 19CF, 19DB 19DD,
  1A1C 1A1D, 1A5F, 1A7D 1A7E, 1A8A 1A8F, 1A9A 1A9F, 1AAE 1AAF, 1ADE 1ADF, 1AEC 1AFF, 1B4D,
  1BF4 1BFB, 1C38 1C3A, 1C4A 1C4C, 1C8B 1C8F, 1CBB 1CBC, 1CC8 1CCF, 1CFB 1CFF, 1F16 1FB5,
  1FC5 1FF5, 1FFF, 200E 200F, 2024 2026, 2028 202E, 2065 2069, 2072 2073, 208F, 209D 209F,
  20C2 20CF, 20F1 20FF, 218C 218F, 242A 243F, 244B 245F, 2488 249B, 2B74 2B75, 2CF4 2CF8, 2D26,
  2D28 2D2C, 2D2E 2D2F, 2D68 2D6E, 2D71 2D7E, 2D97 2D9F, 2DA7, 2DAF, 2DB7, 2DBF, 2DC7, 2DCF, 2DD7,
  2DDF, 2E5E 2E7F, 2E9A, 2EF4 2EFF, 2FD6 2FFF, 3040, 3097 3098, 3100 3104, 3130, 318F, 31E6 31EF,
  321F, 33C2, 33C7, 33D8, A48D A48F, A4C7 A4CF, A62C A63F, A6F8 A6FF, A7DD A7F0, A82D A82F,
  A83A A83F, A878 A87F, A8C6 A8CD, A8DA A8DF, A954 A95E, A97D A97F, A9CE, A9DA A9DD, A9FF,
  AA37 AA3F, AA4E AA4F, AA5A AA5B, AAC3 AADA, AAF7 AB00, AB07 AB08, AB0F AB10, AB17 AB1F, AB27,
  AB2F, AB6C AB6F, ABEE ABEF, ABFA D7AF, D7C7 D7CA, D7FC F8FF, FA6E FAFF, FB07 FB12, FB18 FB1C,
  FB37 FB45, FDD0 FDEF, FE12, FE19 FE1F, FE30, FE52 FE53, FE67, FE6C FE6F, FE75, FEFD FEFE, FF00,
  FFBF FFC1, FFC8 FFC9, FFD0 FFD1, FFD8 FFD9, FFDD FFDF, FFE7, FFEF FFFF, 1000C, 10027, 1003B,
  1003E, 1004E 1004F, 1005E 1007F, 100FB 100FF, 10103 10106, 10134 10136, 1018F, 1019D 1019F,
  101A1 101CF, 101FE 1027F, 1029D 1029F, 102D1 102DF, 102FC 102FF, 10324 1032C, 1034B 1034F,
  1037B 1037F, 1039E, 103C4 103C7, 103D6 103FF, 1049E 1049F, 104AA 104AF, 104D4 104D7, 104FC 104FF,
  10528 1052F, 10564 1056E, 1057B, 1058B, 10593, 10596, 105A2, 105B2, 105BA, 105BD 105BF,
  105F4 105FF, 10737 1073F, 10756 1075F, 10768 1077F, 10786, 107B1, 107BB 107FF, 10806 10807,
  10809, 10836, 10839 1083B, 1083D 1083E, 10856, 1089F 108A6, 108B0 108DF, 108F3, 108F6 108FA,
  1091C 1091E, 1093A 1093E, 1095A 1097F, 109B8 109BB, 109D0 109D1, 10A04, 10A07 10A0B, 10A14,
  10A18, 10A36 10A37, 10A3B 10A3E, 10A49 10A4F, 10A59 10A5F, 10AA0 10ABF, 10AE7 10AEA, 10AF7 10AFF,
  10B36 10B38, 10B56 10B57, 10B73 10B77, 10B92 10B98, 10B9D 10BA8, 10BB0 10BFF, 10C49 10C7F,
  10CB3 10CBF, 10CF3 10CF9, 10D28 10D2F, 10D3A 10D3F, 10D66 10D68, 10D86 10D8D, 10D90 10E5F, 10E7F,
  10EAA, 10EAE 10EAF, 10EB2 10EC1, 10EC8 10ECF, 10ED9 10EF9, 10F28 10F2F, 10F5A 10F6F, 10F8A 10FAF,
  10FCC 10FDF, 10FF7 10FFF, 1104E 11051, 11076 1107E, 110BD, 110C3 110CF, 110E9 110EF, 110FA 110FF,
  11135, 11148 1114F, 11177 1117F, 111E0, 111F5 111FF, 11212, 11242 1127F, 11287, 11289, 1128E,
  1129E, 112AA 112AF, 112EB 112EF, 112FA 112FF, 11304, 1130D 1130E, 11311 11312, 11329, 11331,
  11334, 1133A, 11345 11346, 11349 1134A, 1134E 1134F, 11351 11356, 11358 1135C, 11364 11365,
  1136D 1136F, 11375 1137F, 1138A, 1138C 1138F, 113B6, 113C1, 113C3 113C6, 113CB, 113D6,
  113D9 113E0, 113E3 113FF, 1145C, 11462 1147F, 114C8 114CF, 114DA 1157F, 115B6 115B7, 115DE 115FF,
  11645 1164F, 1165A 1165F, 1166D 1167F, 116BA 116BF, 116CA 116CF, 116E4 116FF, 1171B 1171C,
  1172C 1172F, 11747 117FF, 1183C 1189F, 118F3 118FE, 11907 11908, 1190A 1190B, 11914, 11917,
  11936, 11939 1193A, 11947 1194F, 1195A 1199F, 119A8 119A9, 119D8 119D9, 119E5 119FF, 11A48 11A4F,
  11AA3 11AAF, 11AF9 11AFF, 11B0A 11B5F, 11B68 11BBF, 11BE2 11BEF, 11BFA 11BFF, 11C09, 11C37,
  11C46 11C4F, 11C6D 11C6F, 11C90 11C91, 11CA8, 11CB7 11CFF, 11D07, 11D0A, 11D37 11D39, 11D3B,
  11D3E, 11D48 11D4F, 11D5A 11D5F, 11D66, 11D69, 11D8F, 11D92, 11D99 11D9F, 11DAA 11DAF,
  11DDC 11DDF, 11DEA 11EDF, 11EF9 11EFF, 11F11, 11F3B 11F3D, 11F5B 11FAF, 11FB1 11FBF, 11FF2 11FFE,
  1239A 123FF, 1246F, 12475 1247F, 12544 12F8F, 12FF3 12FFF, 13430 1343F, 13456 1345F, 143FB 143FF,
  14647 160FF, 1613A 167FF, 16A39 16A3F, 16A5F, 16A6A 16A6D, 16ABF, 16ACA 16ACF, 16AEE 16AEF,
  16AF6 16AFF, 16B46 16B4F, 16B5A, 16B62, 16B78 16B7C, 16B90 16D3F, 16D7A 16E3F, 16E9B 16E9F,
  16EB9 16EBA, 16ED4 16EFF, 16F4B 16F4E, 16F88 16F8E, 16FA0 16FDF, 16FE5 16FEF, 16FF7 16FFF,
  18CD6 18CFE, 18D1F 18D7F, 18DF3 1AFEF, 1AFF4, 1AFFC, 1AFFF, 1B123 1B131, 1B133 1B14F,
  1B153 1B154, 1B156 1B163, 1B168 1B16F, 1B2FC 1BBFF, 1BC6B 1BC6F, 1BC7D 1BC7F, 1BC89 1BC8F,
  1BC9A 1BC9B, 1BCA4 1CBFF, 1CCFD 1CCFF, 1CEB4 1CEB9, 1CED1 1CEDF, 1CEF1 1CEFF, 1CF2E 1CF2F,
  1CF47 1CF4F, 1CFC4 1CFFF, 1D0F6 1D0FF, 1D127 1D128, 1D1EB 1D1FF, 1D246 1D2BF, 1D2D4 1D2DF,
  1D2F4 1D2FF, 1D357 1D35F, 1D379 1D3FF, 1D455, 1D49D, 1D4A0 1D4A1, 1D4A3 1D4A4, 1D4A7 1D4A8,
  1D4AD, 1D4BA, 1D4BC, 1D4C4, 1D506, 1D50B 1D50C, 1D515, 1D51D, 1D53A, 1D53F, 1D545, 1D547 1D549,
  1D551, 1D6A6 1D6A7, 1D7CC 1D7CD, 1DA8C 1DA9A, 1DAA0, 1DAB0 1DEFF, 1DF1F 1DF24, 1DF2B 1DFFF,
  1E007, 1E019 1E01A, 1E022, 1E025, 1E02B 1E02F, 1E06E 1E08E, 1E090 1E0FF, 1E12D 1E12F,
  1E13E 1E13F, 1E14A 1E14D, 1E150 1E28F, 1E2AF 1E2BF, 1E2FA 1E2FE, 1E300 1E4CF, 1E4FA 1E5CF,
  1E5FB 1E5FE, 1E600 1E6BF, 1E6DF, 1E6F6 1E6FD, 1E700 1E7DF, 1E7E7, 1E7EC, 1E7EF, 1E7FF,
  1E8C5 1E8C6, 1E8D7 1E8FF, 1E94C 1E94F, 1E95A 1E95D, 1E960 1EC70, 1ECB5 1ED00, 1ED3E 1EDFF, 1EE04,
  1EE20, 1EE23, 1EE25 1EE26, 1EE28, 1EE33, 1EE38, 1EE3A, 1EE3C 1EE41, 1EE43 1EE46, 1EE48, 1EE4A,
  1EE4C, 1EE50, 1EE53, 1EE55 1EE56, 1EE58, 1EE5A, 1EE5C, 1EE5E, 1EE60, 1EE63, 1EE65 1EE66, 1EE6B,
  1EE73, 1EE78, 1EE7D, 1EE7F, 1EE8A, 1EE9C 1EEA0, 1EEA4, 1EEAA, 1EEBC 1EEEF, 1EEF2 1EFFF,
  1F02C 1F02F, 1F094 1F09F, 1F0AF 1F0B0, 1F0C0, 1F0D0, 1F0F6 1F100, 1F1AE 1F1E5, 1F203 1F20F,
  1F23C 1F23F, 1F249 1F24F, 1F252 1F25F, 1F266 1F2FF, 1F6D9 1F6DB, 1F6ED 1F6EF, 1F6FD 1F6FF,
  1F7DA 1F7DF, 1F7EC 1F7EF, 1F7F1 1F7FF, 1F80C 1F80F, 1F848 1F84F, 1F85A 1F85F, 1F888 1F88F,
  1F8AE 1F8AF, 1F8BC 1F8BF, 1F8C2 1F8CF, 1F8D9 1F8FF, 1FA58 1FA5F, 1FA6E 1FA6F, 1FA7D 1FA7F,
  1FA8B 1FA8D, 1FAC7, 1FAC9 1FACC, 1FADD 1FADE, 1FAEB 1FAEE, 1FAF9 1FAFF, 1FB93, 1FBFB 1FFFF,
  2A6E0 2A6FF, 2B81E 2B81F, 2CEAE 2CEAF, 2EBE1 2EBEF, 2EE5E 2FFFF, 3134B 3134F, 3347A E00FF,
  E01F0 10FFFF"

/-- The character that a row of characters leads to. -/
def inRun? (n : Nat) : List Nat → Option Nat
  | [first, count, step, target, targetStep] =>
    if first ≤ n ∧ (n - first) % step = 0 ∧ (n - first) / step < count then
      some (target + (n - first) / step * targetStep)
    else none
  | _ => none

/-- What a character that is not made of others becomes; nothing if it may not be used. -/
def folded? (n : Nat) : Option (List Nat) :=
  if Table.covers barred n then none
  else if Table.covers shapeless n then some []
  else
    match runs.findSome? (inRun? n) with
    | some target => some [target]
    | none =>
      some (((variants.find? (·.head? == some n) <|> spellings.find? (·.head? == some n)).map
        List.tail).getD [n])

end Domain

end SmartyLayout
