import FeatureStore.Text.CodePoints

/-!
How the characters of a domain name are written: letters in lower case and without variants of style
or width. Some characters may not stand in a name, and some do not count in it.
-/
namespace FeatureStore.DomainName
open Text (Ranges hexOf cutAt partsOf)

def refused : Ranges := .ofTable "
  80-9F 378-379 380-383 38B 38D 3A2 530 557-558 58B-58C 590 5C8-5CF 5EB-5EE 5F5-605 61C 6DD 70E-70F
  74B-74C 7B2-7BF 7FB-7FC 82E-82F 83F 85C-85D 85F 86B-86F 890-896 8E2 984 98D-98E 991-992 9A9 9B1
  9B3-9B5 9BA-9BB 9C5-9C6 9C9-9CA 9CF-9D6 9D8-9DB 9DE 9E4-9E5 9FF-A00 A04 A0B-A0E A11-A12 A29 A31
  A34 A37 A3A-A3B A3D A43-A46 A49-A4A A4E-A50 A52-A58 A5D A5F-A65 A77-A80 A84 A8E A92 AA9 AB1 AB4
  ABA-ABB AC6 ACA ACE-ACF AD1-ADF AE4-AE5 AF2-AF8 B00 B04 B0D-B0E B11-B12 B29 B31 B34 B3A-B3B
  B45-B46 B49-B4A B4E-B54 B58-B5B B5E B64-B65 B78-B81 B84 B8B-B8D B91 B96-B98 B9B B9D BA0-BA2
  BA5-BA7 BAB-BAD BBA-BBD BC3-BC5 BC9 BCE-BCF BD1-BD6 BD8-BE5 BFB-BFF C0D C11 C29 C3A-C3B C45 C49
  C4E-C54 C57 C5B C5E-C5F C64-C65 C70-C76 C8D C91 CA9 CB4 CBA-CBB CC5 CC9 CCE-CD4 CD7-CDB CDF
  CE4-CE5 CF0 CF4-CFF D0D D11 D45 D49 D50-D53 D64-D65 D80 D84 D97-D99 DB2 DBC DBE-DBF DC7-DC9
  DCB-DCE DD5 DD7 DE0-DE5 DF0-DF1 DF5-E00 E3B-E3E E5C-E80 E83 E85 E8B EA4 EA6 EBE-EBF EC5 EC7 ECF
  EDA-EDB EE0-EFF F48 F6D-F70 F98 FBD FCD FDB-FFF 10C6 10C8-10CC 10CE-10CF 1249 124E-124F 1257 1259
  125E-125F 1289 128E-128F 12B1 12B6-12B7 12BF 12C1 12C6-12C7 12D7 1311 1316-1317 135B-135C
  137D-137F 139A-139F 13F6-13F7 13FE-13FF 1680 169D-169F 16F9-16FF 1716-171E 1737-173F 1754-175F
  176D 1771 1774-177F 17DE-17DF 17EA-17EF 17FA-17FF 181A-181F 1879-187F 18AB-18AF 18F6-18FF 191F
  192C-192F 193C-193F 1941-1943 196E-196F 1975-197F 19AC-19AF 19CA-19CF 19DB-19DD 1A1C-1A1D 1A5F
  1A7D-1A7E 1A8A-1A8F 1A9A-1A9F 1AAE-1AAF 1ADE-1ADF 1AEC-1AFF 1B4D 1BF4-1BFB 1C38-1C3A 1C4A-1C4C
  1C8B-1C8F 1CBB-1CBC 1CC8-1CCF 1CFB-1CFF 1F16-1F17 1F1E-1F1F 1F46-1F47 1F4E-1F4F 1F58 1F5A 1F5C
  1F5E 1F7E-1F7F 1FB5 1FC5 1FD4-1FD5 1FDC 1FF0-1FF1 1FF5 1FFF 200E-200F 2024-2026 2028-202E
  2065-2069 2072-2073 208F 209D-209F 20C2-20CF 20F1-20FF 218C-218F 242A-243F 244B-245F 2488-249B
  2B74-2B75 2CF4-2CF8 2D26 2D28-2D2C 2D2E-2D2F 2D68-2D6E 2D71-2D7E 2D97-2D9F 2DA7 2DAF 2DB7 2DBF
  2DC7 2DCF 2DD7 2DDF 2E5E-2E7F 2E9A 2EF4-2EFF 2FD6-2FFF 3040 3097-3098 3100-3104 3130 318F
  31E6-31EF 321F 33C2 33C7 33D8 A48D-A48F A4C7-A4CF A62C-A63F A6F8-A6FF A7DD-A7F0 A82D-A82F
  A83A-A83F A878-A87F A8C6-A8CD A8DA-A8DF A954-A95E A97D-A97F A9CE A9DA-A9DD A9FF AA37-AA3F
  AA4E-AA4F AA5A-AA5B AAC3-AADA AAF7-AB00 AB07-AB08 AB0F-AB10 AB17-AB1F AB27 AB2F AB6C-AB6F
  ABEE-ABEF ABFA-ABFF D7A4-D7AF D7C7-D7CA D7FC-D7FF E000-F8FF FA6E-FA6F FADA-FAFF FB07-FB12
  FB18-FB1C FB37 FB3D FB3F FB42 FB45 FDD0-FDEF FE12 FE19-FE1F FE30 FE52-FE53 FE67 FE6C-FE6F FE75
  FEFD-FEFE FF00 FFBF-FFC1 FFC8-FFC9 FFD0-FFD1 FFD8-FFD9 FFDD-FFDF FFE7 FFEF-FFFF 1000C 10027 1003B
  1003E 1004E-1004F 1005E-1007F 100FB-100FF 10103-10106 10134-10136 1018F 1019D-1019F 101A1-101CF
  101FE-1027F 1029D-1029F 102D1-102DF 102FC-102FF 10324-1032C 1034B-1034F 1037B-1037F 1039E
  103C4-103C7 103D6-103FF 1049E-1049F 104AA-104AF 104D4-104D7 104FC-104FF 10528-1052F 10564-1056E
  1057B 1058B 10593 10596 105A2 105B2 105BA 105BD-105BF 105F4-105FF 10737-1073F 10756-1075F
  10768-1077F 10786 107B1 107BB-107FF 10806-10807 10809 10836 10839-1083B 1083D-1083E 10856
  1089F-108A6 108B0-108DF 108F3 108F6-108FA 1091C-1091E 1093A-1093E 1095A-1097F 109B8-109BB
  109D0-109D1 10A04 10A07-10A0B 10A14 10A18 10A36-10A37 10A3B-10A3E 10A49-10A4F 10A59-10A5F
  10AA0-10ABF 10AE7-10AEA 10AF7-10AFF 10B36-10B38 10B56-10B57 10B73-10B77 10B92-10B98 10B9D-10BA8
  10BB0-10BFF 10C49-10C7F 10CB3-10CBF 10CF3-10CF9 10D28-10D2F 10D3A-10D3F 10D66-10D68 10D86-10D8D
  10D90-10E5F 10E7F 10EAA 10EAE-10EAF 10EB2-10EC1 10EC8-10ECF 10ED9-10EF9 10F28-10F2F 10F5A-10F6F
  10F8A-10FAF 10FCC-10FDF 10FF7-10FFF 1104E-11051 11076-1107E 110BD 110C3-110CF 110E9-110EF
  110FA-110FF 11135 11148-1114F 11177-1117F 111E0 111F5-111FF 11212 11242-1127F 11287 11289 1128E
  1129E 112AA-112AF 112EB-112EF 112FA-112FF 11304 1130D-1130E 11311-11312 11329 11331 11334 1133A
  11345-11346 11349-1134A 1134E-1134F 11351-11356 11358-1135C 11364-11365 1136D-1136F 11375-1137F
  1138A 1138C-1138D 1138F 113B6 113C1 113C3-113C4 113C6 113CB 113D6 113D9-113E0 113E3-113FF 1145C
  11462-1147F 114C8-114CF 114DA-1157F 115B6-115B7 115DE-115FF 11645-1164F 1165A-1165F 1166D-1167F
  116BA-116BF 116CA-116CF 116E4-116FF 1171B-1171C 1172C-1172F 11747-117FF 1183C-1189F 118F3-118FE
  11907-11908 1190A-1190B 11914 11917 11936 11939-1193A 11947-1194F 1195A-1199F 119A8-119A9
  119D8-119D9 119E5-119FF 11A48-11A4F 11AA3-11AAF 11AF9-11AFF 11B0A-11B5F 11B68-11BBF 11BE2-11BEF
  11BFA-11BFF 11C09 11C37 11C46-11C4F 11C6D-11C6F 11C90-11C91 11CA8 11CB7-11CFF 11D07 11D0A
  11D37-11D39 11D3B 11D3E 11D48-11D4F 11D5A-11D5F 11D66 11D69 11D8F 11D92 11D99-11D9F 11DAA-11DAF
  11DDC-11DDF 11DEA-11EDF 11EF9-11EFF 11F11 11F3B-11F3D 11F5B-11FAF 11FB1-11FBF 11FF2-11FFE
  1239A-123FF 1246F 12475-1247F 12544-12F8F 12FF3-12FFF 13430-1343F 13456-1345F 143FB-143FF
  14647-160FF 1613A-167FF 16A39-16A3F 16A5F 16A6A-16A6D 16ABF 16ACA-16ACF 16AEE-16AEF 16AF6-16AFF
  16B46-16B4F 16B5A 16B62 16B78-16B7C 16B90-16D3F 16D7A-16E3F 16E9B-16E9F 16EB9-16EBA 16ED4-16EFF
  16F4B-16F4E 16F88-16F8E 16FA0-16FDF 16FE5-16FEF 16FF7-16FFF 18CD6-18CFE 18D1F-18D7F 18DF3-1AFEF
  1AFF4 1AFFC 1AFFF 1B123-1B131 1B133-1B14F 1B153-1B154 1B156-1B163 1B168-1B16F 1B2FC-1BBFF
  1BC6B-1BC6F 1BC7D-1BC7F 1BC89-1BC8F 1BC9A-1BC9B 1BCA4-1CBFF 1CCFD-1CCFF 1CEB4-1CEB9 1CED1-1CEDF
  1CEF1-1CEFF 1CF2E-1CF2F 1CF47-1CF4F 1CFC4-1CFFF 1D0F6-1D0FF 1D127-1D128 1D1EB-1D1FF 1D246-1D2BF
  1D2D4-1D2DF 1D2F4-1D2FF 1D357-1D35F 1D379-1D3FF 1D455 1D49D 1D4A0-1D4A1 1D4A3-1D4A4 1D4A7-1D4A8
  1D4AD 1D4BA 1D4BC 1D4C4 1D506 1D50B-1D50C 1D515 1D51D 1D53A 1D53F 1D545 1D547-1D549 1D551
  1D6A6-1D6A7 1D7CC-1D7CD 1DA8C-1DA9A 1DAA0 1DAB0-1DEFF 1DF1F-1DF24 1DF2B-1DFFF 1E007 1E019-1E01A
  1E022 1E025 1E02B-1E02F 1E06E-1E08E 1E090-1E0FF 1E12D-1E12F 1E13E-1E13F 1E14A-1E14D 1E150-1E28F
  1E2AF-1E2BF 1E2FA-1E2FE 1E300-1E4CF 1E4FA-1E5CF 1E5FB-1E5FE 1E600-1E6BF 1E6DF 1E6F6-1E6FD
  1E700-1E7DF 1E7E7 1E7EC 1E7EF 1E7FF 1E8C5-1E8C6 1E8D7-1E8FF 1E94C-1E94F 1E95A-1E95D 1E960-1EC70
  1ECB5-1ED00 1ED3E-1EDFF 1EE04 1EE20 1EE23 1EE25-1EE26 1EE28 1EE33 1EE38 1EE3A 1EE3C-1EE41
  1EE43-1EE46 1EE48 1EE4A 1EE4C 1EE50 1EE53 1EE55-1EE56 1EE58 1EE5A 1EE5C 1EE5E 1EE60 1EE63
  1EE65-1EE66 1EE6B 1EE73 1EE78 1EE7D 1EE7F 1EE8A 1EE9C-1EEA0 1EEA4 1EEAA 1EEBC-1EEEF 1EEF2-1EFFF
  1F02C-1F02F 1F094-1F09F 1F0AF-1F0B0 1F0C0 1F0D0 1F0F6-1F100 1F1AE-1F1E5 1F203-1F20F 1F23C-1F23F
  1F249-1F24F 1F252-1F25F 1F266-1F2FF 1F6D9-1F6DB 1F6ED-1F6EF 1F6FD-1F6FF 1F7DA-1F7DF 1F7EC-1F7EF
  1F7F1-1F7FF 1F80C-1F80F 1F848-1F84F 1F85A-1F85F 1F888-1F88F 1F8AE-1F8AF 1F8BC-1F8BF 1F8C2-1F8CF
  1F8D9-1F8FF 1FA58-1FA5F 1FA6E-1FA6F 1FA7D-1FA7F 1FA8B-1FA8D 1FAC7 1FAC9-1FACC 1FADD-1FADE
  1FAEB-1FAEE 1FAF9-1FAFF 1FB93 1FBFB-1FFFF 2A6E0-2A6FF 2B81E-2B81F 2CEAE-2CEAF 2EBE1-2EBEF
  2EE5E-2F7FF 2FA1E-2FFFF 3134B-3134F 3347A-E00FF E01F0-10FFFF"

def ignored : Ranges := .ofTable "
  AD 34F 115F-1160 17B4-17B5 180B-180F 200B 2060-2064 206A-206F 3164 FE00-FE0F FEFF FFA0 1BCA0-1BCA3
  1D173-1D17A E0100-E01EF"

abbrev Replacements := List (Nat × Nat × List Char)

def charsOf (word : List Char) : List Char := (cutAt (· == ',') word).map fun n => Char.ofNat (hexOf n)

/- Replacements from a code point on. A word is the text for the next character, a point leaves it as
it is, and a plus sign with a count stands for as many characters in a row. -/
def replacementsFrom : Nat → List (List Char) → Replacements
  | _, [] => []
  | n, word :: rest =>
    match cutAt (· == '+') word with
    | [first, count] => (n, hexOf count, charsOf first) :: replacementsFrom (n + hexOf count) rest
    | _ =>
      if word == ['.'] then replacementsFrom (n + 1) rest
      else (n, 1, charsOf word) :: replacementsFrom (n + 1) rest

/- Where a row of characters begins, how many it has, and how its first is written; the others are
written as the characters behind that. -/
def replacements : Replacements :=
  (partsOf "
  41: 61+1A A0: 20 A8: 20,308 . 61 AF: 20,304 . . 32 33 20,301 3BC . . 20,327 31 6F . 31,2044,34
  31,2044,32 33,2044,34 . E0+17 . F8+7 100: 101 . 103 . 105 . 107 . 109 . 10B . 10D . 10F . 111 .
  113 . 115 . 117 . 119 . 11B . 11D . 11F . 121 . 123 . 125 . 127 . 129 . 12B . 12D . 12F . 69,307 .
  69,6A 69,6A 135 . 137 . . 13A . 13C . 13E . 6C,B7 6C,B7 142 . 144 . 146 . 148 . 2BC,6E 14B . 14D .
  14F . 151 . 153 . 155 . 157 . 159 . 15B . 15D . 15F . 161 . 163 . 165 . 167 . 169 . 16B . 16D .
  16F . 171 . 173 . 175 . 177 . FF 17A . 17C . 17E . 73 . 253 183 . 185 . 254 188 . 256 257 18C . .
  1DD 259 25B 192 . 260 263 . 269 268 199 . . . 26F 272 . 275 1A1 . 1A3 . 1A5 . 280 1A8 . 283 . .
  1AD . 288 1B0 . 28A 28B 1B4 . 1B6 . 292 1B9 . . . 1BD 1C4: 64,17E 64,17E 64,17E 6C,6A 6C,6A 6C,6A
  6E,6A 6E,6A 6E,6A 1CE . 1D0 . 1D2 . 1D4 . 1D6 . 1D8 . 1DA . 1DC . . 1DF . 1E1 . 1E3 . 1E5 . 1E7 .
  1E9 . 1EB . 1ED . 1EF . . 64,7A 64,7A 64,7A 1F5 . 195 1BF 1F9 . 1FB . 1FD . 1FF . 201 . 203 . 205
  . 207 . 209 . 20B . 20D . 20F . 211 . 213 . 215 . 217 . 219 . 21B . 21D . 21F . 19E . 223 . 225 .
  227 . 229 . 22B . 22D . 22F . 231 . 233 23A: 2C65 23C . 19A 2C66 . . 242 . 180 289 28C 247 . 249 .
  24B . 24D . 24F 2B0: 68 266 6A 72 279 27B 281 77 79 2D8: 20,306 20,307 20,30A 20,328 20,303 20,30B
  . . 263 6C 73 78 295 340: 300 301 . 313 308,301 3B9 370: 371 . 373 . 2B9 . 377 . . . 20,3B9 . . .
  3B 3F3 384: 20,301 20,308,301 3AC B7 3AD+3 . 3CC . 3CD 3CE . 3B1+11 . 3C3+9 3CF: 3D7 3B2 3B8 3C5
  3CD 3CB 3C6 3C0 . 3D9 . 3DB . 3DD . 3DF . 3E1 . 3E3 . 3E5 . 3E7 . 3E9 . 3EB . 3ED . 3EF . 3BA 3C1
  3C3 . 3B8 3B5 . 3F8 . 3C3 3FB . . 37B+3 450+10 430+20 460: 461 . 463 . 465 . 467 . 469 . 46B . 46D
  . 46F . 471 . 473 . 475 . 477 . 479 . 47B . 47D . 47F . 481 48A: 48B . 48D . 48F . 491 . 493 . 495
  . 497 . 499 . 49B . 49D . 49F . 4A1 . 4A3 . 4A5 . 4A7 . 4A9 . 4AB . 4AD . 4AF . 4B1 . 4B3 . 4B5 .
  4B7 . 4B9 . 4BB . 4BD . 4BF . 4CF 4C2 . 4C4 . 4C6 . 4C8 . 4CA . 4CC . 4CE . . 4D1 . 4D3 . 4D5 .
  4D7 . 4D9 . 4DB . 4DD . 4DF . 4E1 . 4E3 . 4E5 . 4E7 . 4E9 . 4EB . 4ED . 4EF . 4F1 . 4F3 . 4F5 .
  4F7 . 4F9 . 4FB . 4FD . 4FF . 501 . 503 . 505 . 507 . 509 . 50B . 50D . 50F . 511 . 513 . 515 .
  517 . 519 . 51B . 51D . 51F . 521 . 523 . 525 . 527 . 529 . 52B . 52D . 52F . . 561+26 587:
  565,582 675: 627,674 648,674 6C7,674 64A,674 958: 915,93C 916,93C 917,93C 91C,93C 921,93C 922,93C
  92B,93C 92F,93C 9DC: 9A1,9BC 9A2,9BC . 9AF,9BC A33: A32,A3C . . A38,A3C A59: A16,A3C A17,A3C
  A1C,A3C . . A2B,A3C B5C: B21,B3C B22,B3C E33: E4D,E32 EB3: ECD,EB2 EDC: EAB,E99 EAB,EA1 F0C: F0B
  F43: F42,FB7 F4D: F4C,FB7 F52: F51,FB7 F57: F56,FB7 F5C: F5B,FB7 F69: F40,FB5 F73: F71,F72 .
  F71,F74 FB2,F80 FB2,F71,F80 FB3,F80 FB3,F71,F80 F81: F71,F80 F93: F92,FB7 F9D: F9C,FB7 FA2:
  FA1,FB7 FA7: FA6,FB7 FAC: FAB,FB7 FB9: F90,FB5 10A0: 2D00+26 . 2D27 10CD: 2D2D 10FC: 10DC 13F8:
  13F0+6 1C80: 432 434 43E 441 442 442 44A 463 A64B 1C8A 1C90: 10D0+2B . . 10FD+3 1D2C: 61 E6 62 .
  64 65 1DD 67+8 . 6F 223 70 72 74 75 77 61 250 251 1D02 62 64 65 259 25B 25C 67 . 6B 6D 14B 6F 254
  1D16 1D17 70 74 75 1D1D 26F 76 1D25 3B2+3 3C6 3C7 69 72 75 76 3B2 3B3 3C1 3C6 3C7 1D78: 43D 1D9B:
  252 63 255 F0 25C 66 25F 261 265 268+3 1D7B 29D 26D 1D85 29F 271 270 272+4 278 282 283 1AB 289 28A
  1D1C 28B 28C 7A 290+3 3B8 1E00: 1E01 . 1E03 . 1E05 . 1E07 . 1E09 . 1E0B . 1E0D . 1E0F . 1E11 .
  1E13 . 1E15 . 1E17 . 1E19 . 1E1B . 1E1D . 1E1F . 1E21 . 1E23 . 1E25 . 1E27 . 1E29 . 1E2B . 1E2D .
  1E2F . 1E31 . 1E33 . 1E35 . 1E37 . 1E39 . 1E3B . 1E3D . 1E3F . 1E41 . 1E43 . 1E45 . 1E47 . 1E49 .
  1E4B . 1E4D . 1E4F . 1E51 . 1E53 . 1E55 . 1E57 . 1E59 . 1E5B . 1E5D . 1E5F . 1E61 . 1E63 . 1E65 .
  1E67 . 1E69 . 1E6B . 1E6D . 1E6F . 1E71 . 1E73 . 1E75 . 1E77 . 1E79 . 1E7B . 1E7D . 1E7F . 1E81 .
  1E83 . 1E85 . 1E87 . 1E89 . 1E8B . 1E8D . 1E8F . 1E91 . 1E93 . 1E95 1E9A: 61,2BE 1E61 . . DF .
  1EA1 . 1EA3 . 1EA5 . 1EA7 . 1EA9 . 1EAB . 1EAD . 1EAF . 1EB1 . 1EB3 . 1EB5 . 1EB7 . 1EB9 . 1EBB .
  1EBD . 1EBF . 1EC1 . 1EC3 . 1EC5 . 1EC7 . 1EC9 . 1ECB . 1ECD . 1ECF . 1ED1 . 1ED3 . 1ED5 . 1ED7 .
  1ED9 . 1EDB . 1EDD . 1EDF . 1EE1 . 1EE3 . 1EE5 . 1EE7 . 1EE9 . 1EEB . 1EED . 1EEF . 1EF1 . 1EF3 .
  1EF5 . 1EF7 . 1EF9 . 1EFB . 1EFD . 1EFF 1F08: 1F00+8 1F18: 1F10+6 1F28: 1F20+8 1F38: 1F30+8 1F48:
  1F40+6 1F59: 1F51 . 1F53 . 1F55 . 1F57 1F68: 1F60+8 . 3AC . 3AD . 3AE . 3AF . 3CC . 3CD . 3CE . .
  1F00,3B9 1F01,3B9 1F02,3B9 1F03,3B9 1F04,3B9 1F05,3B9 1F06,3B9 1F07,3B9 1F00,3B9 1F01,3B9 1F02,3B9
  1F03,3B9 1F04,3B9 1F05,3B9 1F06,3B9 1F07,3B9 1F20,3B9 1F21,3B9 1F22,3B9 1F23,3B9 1F24,3B9 1F25,3B9
  1F26,3B9 1F27,3B9 1F20,3B9 1F21,3B9 1F22,3B9 1F23,3B9 1F24,3B9 1F25,3B9 1F26,3B9 1F27,3B9 1F60,3B9
  1F61,3B9 1F62,3B9 1F63,3B9 1F64,3B9 1F65,3B9 1F66,3B9 1F67,3B9 1F60,3B9 1F61,3B9 1F62,3B9 1F63,3B9
  1F64,3B9 1F65,3B9 1F66,3B9 1F67,3B9 . . 1F70,3B9 3B1,3B9 3AC,3B9 . . 1FB6,3B9 1FB0 1FB1 1F70 3AC
  3B1,3B9 20,313 3B9 20,313 20,342 20,308,342 1F74,3B9 3B7,3B9 3AE,3B9 . . 1FC6,3B9 1F72 3AD 1F74
  3AE 3B7,3B9 20,313,300 20,313,301 20,313,342 . . . 390 1FD8: 1FD0 1FD1 1F76 3AF . 20,314,300
  20,314,301 20,314,342 . . . 3B0 1FE8: 1FE0 1FE1 1F7A 3CD 1FE5 20,308,300 20,308,301 60 . .
  1F7C,3B9 3C9,3B9 3CE,3B9 . . 1FF6,3B9 1F78 3CC 1F7C 3CE 3C9,3B9 20,301 20,314 . 20 20 20 20 20 20
  20 20 20 20 20 2011: 2010 2017: 20,333 202F: 20 . . . 2032,2032 2032,2032,2032 . 2035,2035
  2035,2035,2035 203C: 21,21 . 20,305 2047: 3F,3F 3F,21 21,3F 2057: 2032,2032,2032,2032 205F: 20
  2070: 30 69 . . 34+6 2B 2212 3D 28 29 6E 30+A 2B 2212 3D 28 29 . 61 65 6F 78 259 68 6B+4 70 73 74
  20A8: 72,73 2100: 61,2F,63 61,2F,73 63 B0,63 . 63,2F,6F 63,2F,75 25B . B0,66 67 68 68 68 68 127 69
  69 6C 6C . 6E 6E,6F . . 70+3 72 72 . . 73,6D 74,65,6C 74,6D . 7A . 3C9 . 7A . 6B E5 62 63 . 65 65
  66 214E 6D 6F 5D0+4 69 . 66,61,78 3C0 3B3 3B3 3C0 2211 2145: 64 64 65 69 6A 2150: 31,2044,37
  31,2044,39 31,2044,31,30 31,2044,33 32,2044,33 31,2044,35 32,2044,35 33,2044,35 34,2044,35
  31,2044,36 35,2044,36 31,2044,38 33,2044,38 35,2044,38 37,2044,38 31,2044 69 69,69 69,69,69 69,76
  76 76,69 76,69,69 76,69,69,69 69,78 78 78,69 78,69,69 6C 63 64 6D 69 69,69 69,69,69 69,76 76 76,69
  76,69,69 76,69,69,69 69,78 78 78,69 78,69,69 6C 63 64 6D . . . 2184 2189: 30,2044,33 222C:
  222B,222B 222B,222B,222B . 222E,222E 222E,222E,222E 2329: 3008 3009 2460: 31+9 31,30 31,31 31,32
  31,33 31,34 31,35 31,36 31,37 31,38 31,39 32,30 28,31,29 28,32,29 28,33,29 28,34,29 28,35,29
  28,36,29 28,37,29 28,38,29 28,39,29 28,31,30,29 28,31,31,29 28,31,32,29 28,31,33,29 28,31,34,29
  28,31,35,29 28,31,36,29 28,31,37,29 28,31,38,29 28,31,39,29 28,32,30,29 249C: 28,61,29 28,62,29
  28,63,29 28,64,29 28,65,29 28,66,29 28,67,29 28,68,29 28,69,29 28,6A,29 28,6B,29 28,6C,29 28,6D,29
  28,6E,29 28,6F,29 28,70,29 28,71,29 28,72,29 28,73,29 28,74,29 28,75,29 28,76,29 28,77,29 28,78,29
  28,79,29 28,7A,29 61+1A 61+1A 30 2A0C: 222B,222B,222B,222B 2A74: 3A,3A,3D 3D,3D 3D,3D,3D 2ADC:
  2ADD,338 2C00: 2C30+30 2C60: 2C61 . 26B 1D7D 27D . . 2C68 . 2C6A . 2C6C . 251 271 250 252 . 2C73 .
  . 2C76 2C7C: 6A 76 23F 240 2C81 . 2C83 . 2C85 . 2C87 . 2C89 . 2C8B . 2C8D . 2C8F . 2C91 . 2C93 .
  2C95 . 2C97 . 2C99 . 2C9B . 2C9D . 2C9F . 2CA1 . 2CA3 . 2CA5 . 2CA7 . 2CA9 . 2CAB . 2CAD . 2CAF .
  2CB1 . 2CB3 . 2CB5 . 2CB7 . 2CB9 . 2CBB . 2CBD . 2CBF . 2CC1 . 2CC3 . 2CC5 . 2CC7 . 2CC9 . 2CCB .
  2CCD . 2CCF . 2CD1 . 2CD3 . 2CD5 . 2CD7 . 2CD9 . 2CDB . 2CDD . 2CDF . 2CE1 . 2CE3 2CEB: 2CEC .
  2CEE 2CF2: 2CF3 2D6F: 2D61 2E9F: 6BCD 2EF3: 9F9F 2F00: 4E00 4E28 4E36 4E3F 4E59 4E85 4E8C 4EA0
  4EBA 513F 5165 516B 5182 5196 51AB 51E0 51F5 5200 529B 52F9 5315 531A 5338 5341 535C 5369 5382
  53B6 53C8 53E3 56D7 571F 58EB 5902 590A 5915 5927 5973 5B50 5B80 5BF8 5C0F 5C22 5C38 5C6E 5C71
  5DDB 5DE5 5DF1 5DFE 5E72 5E7A 5E7F 5EF4 5EFE 5F0B 5F13 5F50 5F61 5F73 5FC3 6208 6236 624B 652F
  6534 6587 6597 65A4 65B9 65E0 65E5 66F0 6708 6728 6B20 6B62 6B79 6BB3 6BCB 6BD4 6BDB 6C0F 6C14
  6C34 706B 722A 7236 723B 723F 7247 7259 725B 72AC 7384 7389 74DC 74E6 7518 751F 7528 7530 758B
  7592 7676 767D 76AE 76BF 76EE 77DB 77E2 77F3 793A 79B8 79BE 7A74 7ACB 7AF9 7C73 7CF8 7F36 7F51
  7F8A 7FBD 8001 800C 8012 8033 807F 8089 81E3 81EA 81F3 81FC 820C 821B 821F 826E 8272 8278 864D
  866B 8840 884C 8863 897E 898B 89D2 8A00 8C37 8C46 8C55 8C78 8C9D 8D64 8D70 8DB3 8EAB 8ECA 8F9B
  8FB0 8FB5 9091 9149 91C6 91CC 91D1 9577 9580 961C 96B6 96B9 96E8 9751 975E 9762 9769 97CB 97ED
  97F3 9801 98A8 98DB 98DF 9996 9999 99AC 9AA8 9AD8 9ADF 9B25 9B2F 9B32 9B3C 9B5A 9CE5 9E75 9E7F
  9EA5 9EBB 9EC3 9ECD 9ED1 9EF9 9EFD 9F0E 9F13 9F20 9F3B 9F4A 9F52 9F8D 9F9C 9FA0 3000: 20 . 2E
  3036: 3012 . 5341 5344 5345 309B: 20,3099 20,309A . . 3088,308A 30FF: 30B3,30C8 3131: 1100 1101
  11AA 1102 11AC 11AD 1103+3 11B0+6 111A 1106+3 1121 1109+A 1161+15 . 1114 1115 11C7 11C8 11CC 11CE
  11D3 11D7 11D9 111C 11DD 11DF 111D 111E 1120 1122 1123 1127 1129 112B+5 1132 1136 1140 1147 114C
  11F1 11F2 1157+3 1184 1185 1188 1191 1192 1194 119E 11A1 . . . 4E00 4E8C 4E09 56DB 4E0A 4E2D 4E0B
  7532 4E59 4E19 4E01 5929 5730 4EBA 3200: 28,1100,29 28,1102,29 28,1103,29 28,1105,29 28,1106,29
  28,1107,29 28,1109,29 28,110B,29 28,110C,29 28,110E,29 28,110F,29 28,1110,29 28,1111,29 28,1112,29
  28,AC00,29 28,B098,29 28,B2E4,29 28,B77C,29 28,B9C8,29 28,BC14,29 28,C0AC,29 28,C544,29 28,C790,29
  28,CC28,29 28,CE74,29 28,D0C0,29 28,D30C,29 28,D558,29 28,C8FC,29 28,C624,C804,29 28,C624,D6C4,29
  . 28,4E00,29 28,4E8C,29 28,4E09,29 28,56DB,29 28,4E94,29 28,516D,29 28,4E03,29 28,516B,29
  28,4E5D,29 28,5341,29 28,6708,29 28,706B,29 28,6C34,29 28,6728,29 28,91D1,29 28,571F,29 28,65E5,29
  28,682A,29 28,6709,29 28,793E,29 28,540D,29 28,7279,29 28,8CA1,29 28,795D,29 28,52B4,29 28,4EE3,29
  28,547C,29 28,5B66,29 28,76E3,29 28,4F01,29 28,8CC7,29 28,5354,29 28,796D,29 28,4F11,29 28,81EA,29
  28,81F3,29 554F 5E7C 6587 7B8F 3250: 70,74,65 32,31 32,32 32,33 32,34 32,35 32,36 32,37 32,38
  32,39 33,30 33,31 33,32 33,33 33,34 33,35 1100 1102 1103 1105+3 1109 110B 110C 110E+5 AC00 B098
  B2E4 B77C B9C8 BC14 C0AC C544 C790 CC28 CE74 D0C0 D30C D558 CC38,ACE0 C8FC,C758 C6B0 . 4E00 4E8C
  4E09 56DB 4E94 516D 4E03 516B 4E5D 5341 6708 706B 6C34 6728 91D1 571F 65E5 682A 6709 793E 540D
  7279 8CA1 795D 52B4 79D8 7537 5973 9069 512A 5370 6CE8 9805 4F11 5199 6B63 4E0A 4E2D 4E0B 5DE6
  53F3 533B 5B97 5B66 76E3 4F01 8CC7 5354 591C 33,36 33,37 33,38 33,39 34,30 34,31 34,32 34,33 34,34
  34,35 34,36 34,37 34,38 34,39 35,30 31,6708 32,6708 33,6708 34,6708 35,6708 36,6708 37,6708
  38,6708 39,6708 31,30,6708 31,31,6708 31,32,6708 68,67 65,72,67 65,76 6C,74,64 30A2 30A4 30A6 30A8
  30AA 30AB 30AD 30AF 30B1 30B3 30B5 30B7 30B9 30BB 30BD 30BF 30C1 30C4 30C6 30C8 30CA+6 30D2 30D5
  30D8 30DB 30DE+5 30E4 30E6 30E8+6 30EF+4 4EE4,548C 30A2,30D1,30FC,30C8 30A2,30EB,30D5,30A1
  30A2,30F3,30DA,30A2 30A2,30FC,30EB 30A4,30CB,30F3,30B0 30A4,30F3,30C1 30A6,30A9,30F3
  30A8,30B9,30AF,30FC,30C9 30A8,30FC,30AB,30FC 30AA,30F3,30B9 30AA,30FC,30E0 30AB,30A4,30EA
  30AB,30E9,30C3,30C8 30AB,30ED,30EA,30FC 30AC,30ED,30F3 30AC,30F3,30DE 30AE,30AC 30AE,30CB,30FC
  30AD,30E5,30EA,30FC 30AE,30EB,30C0,30FC 30AD,30ED 30AD,30ED,30B0,30E9,30E0
  30AD,30ED,30E1,30FC,30C8,30EB 30AD,30ED,30EF,30C3,30C8 30B0,30E9,30E0 30B0,30E9,30E0,30C8,30F3
  30AF,30EB,30BC,30A4,30ED 30AF,30ED,30FC,30CD 30B1,30FC,30B9 30B3,30EB,30CA 30B3,30FC,30DD
  30B5,30A4,30AF,30EB 30B5,30F3,30C1,30FC,30E0 30B7,30EA,30F3,30B0 30BB,30F3,30C1 30BB,30F3,30C8
  30C0,30FC,30B9 30C7,30B7 30C9,30EB 30C8,30F3 30CA,30CE 30CE,30C3,30C8 30CF,30A4,30C4
  30D1,30FC,30BB,30F3,30C8 30D1,30FC,30C4 30D0,30FC,30EC,30EB 30D4,30A2,30B9,30C8,30EB
  30D4,30AF,30EB 30D4,30B3 30D3,30EB 30D5,30A1,30E9,30C3,30C9 30D5,30A3,30FC,30C8
  30D6,30C3,30B7,30A7,30EB 30D5,30E9,30F3 30D8,30AF,30BF,30FC,30EB 30DA,30BD 30DA,30CB,30D2
  30D8,30EB,30C4 30DA,30F3,30B9 30DA,30FC,30B8 30D9,30FC,30BF 30DD,30A4,30F3,30C8 30DC,30EB,30C8
  30DB,30F3 30DD,30F3,30C9 30DB,30FC,30EB 30DB,30FC,30F3 30DE,30A4,30AF,30ED 30DE,30A4,30EB
  30DE,30C3,30CF 30DE,30EB,30AF 30DE,30F3,30B7,30E7,30F3 30DF,30AF,30ED,30F3 30DF,30EA
  30DF,30EA,30D0,30FC,30EB 30E1,30AC 30E1,30AC,30C8,30F3 30E1,30FC,30C8,30EB 30E4,30FC,30C9
  30E4,30FC,30EB 30E6,30A2,30F3 30EA,30C3,30C8,30EB 30EA,30E9 30EB,30D4,30FC 30EB,30FC,30D6,30EB
  30EC,30E0 30EC,30F3,30C8,30B2,30F3 30EF,30C3,30C8 30,70B9 31,70B9 32,70B9 33,70B9 34,70B9 35,70B9
  36,70B9 37,70B9 38,70B9 39,70B9 31,30,70B9 31,31,70B9 31,32,70B9 31,33,70B9 31,34,70B9 31,35,70B9
  31,36,70B9 31,37,70B9 31,38,70B9 31,39,70B9 32,30,70B9 32,31,70B9 32,32,70B9 32,33,70B9 32,34,70B9
  68,70,61 64,61 61,75 62,61,72 6F,76 70,63 64,6D 64,6D,32 64,6D,33 69,75 5E73,6210 662D,548C
  5927,6B63 660E,6CBB 682A,5F0F,4F1A,793E 70,61 6E,61 3BC,61 6D,61 6B,61 6B,62 6D,62 67,62 63,61,6C
  6B,63,61,6C 70,66 6E,66 3BC,66 3BC,67 6D,67 6B,67 68,7A 6B,68,7A 6D,68,7A 67,68,7A 74,68,7A 3BC,6C
  6D,6C 64,6C 6B,6C 66,6D 6E,6D 3BC,6D 6D,6D 63,6D 6B,6D 6D,6D,32 63,6D,32 6D,32 6B,6D,32 6D,6D,33
  63,6D,33 6D,33 6B,6D,33 6D,2215,73 6D,2215,73,32 70,61 6B,70,61 6D,70,61 67,70,61 72,61,64
  72,61,64,2215,73 72,61,64,2215,73,32 70,73 6E,73 3BC,73 6D,73 70,76 6E,76 3BC,76 6D,76 6B,76 6D,76
  70,77 6E,77 3BC,77 6D,77 6B,77 6D,77 6B,3C9 6D,3C9 . 62,71 63,63 63,64 63,2215,6B,67 . 64,62 67,79
  68,61 68,70 69,6E 6B,6B 6B,6D 6B,74 6C,6D 6C,6E 6C,6F,67 6C,78 6D,62 6D,69,6C 6D,6F,6C 70,68 .
  70,70,6D 70,72 73,72 73,76 77,62 76,2215,6D 61,2215,6D 31,65E5 32,65E5 33,65E5 34,65E5 35,65E5
  36,65E5 37,65E5 38,65E5 39,65E5 31,30,65E5 31,31,65E5 31,32,65E5 31,33,65E5 31,34,65E5 31,35,65E5
  31,36,65E5 31,37,65E5 31,38,65E5 31,39,65E5 32,30,65E5 32,31,65E5 32,32,65E5 32,33,65E5 32,34,65E5
  32,35,65E5 32,36,65E5 32,37,65E5 32,38,65E5 32,39,65E5 33,30,65E5 33,31,65E5 67,61,6C A640: A641 .
  A643 . A645 . A647 . A649 . A64B . A64D . A64F . A651 . A653 . A655 . A657 . A659 . A65B . A65D .
  A65F . A661 . A663 . A665 . A667 . A669 . A66B . A66D A680: A681 . A683 . A685 . A687 . A689 .
  A68B . A68D . A68F . A691 . A693 . A695 . A697 . A699 . A69B . 44A 44C A722: A723 . A725 . A727 .
  A729 . A72B . A72D . A72F . . . A733 . A735 . A737 . A739 . A73B . A73D . A73F . A741 . A743 .
  A745 . A747 . A749 . A74B . A74D . A74F . A751 . A753 . A755 . A757 . A759 . A75B . A75D . A75F .
  A761 . A763 . A765 . A767 . A769 . A76B . A76D . A76F . A76F A779: A77A . A77C . 1D79 A77F . A781
  . A783 . A785 . A787 A78B: A78C . 265 . . A791 . A793 . . . A797 . A799 . A79B . A79D . A79F .
  A7A1 . A7A3 . A7A5 . A7A7 . A7A9 . 266 25C 261 26C 26A . 29E 287 29D AB53 A7B5 . A7B7 . A7B9 .
  A7BB . A7BD . A7BF . A7C1 . A7C3 . A794 282 1D8E A7C8 . A7CA . 264 A7CD . A7CF . A7D1 . A7D3 .
  A7D5 . A7D7 . A7D9 . A7DB . 19B A7F1: 73 63 66 71 A7F6 . . 127 153 AB5C: A727 AB37 26B AB52 AB69:
  28D AB70: 13A0+50 F900: 8C48 66F4 8ECA 8CC8 6ED1 4E32 53E5 9F9C 9F9C 5951 91D1 5587 5948 61F6 7669
  7F85 863F 87BA 88F8 908F 6A02 6D1B 70D9 73DE 843D 916A 99F1 4E82 5375 6B04 721B 862D 9E1E 5D50
  6FEB 85CD 8964 62C9 81D8 881F 5ECA 6717 6D6A 72FC 90CE 4F86 51B7 52DE 64C4 6AD3 7210 76E7 8001
  8606 865C 8DEF 9732 9B6F 9DFA 788C 797F 7DA0 83C9 9304 9E7F 8AD6 58DF 5F04 7C60 807E 7262 78CA
  8CC2 96F7 58D8 5C62 6A13 6DDA 6F0F 7D2F 7E37 964B 52D2 808B 51DC 51CC 7A1C 7DBE 83F1 9675 8B80
  62CF 6A02 8AFE 4E39 5BE7 6012 7387 7570 5317 78FB 4FBF 5FA9 4E0D 6CCC 6578 7D22 53C3 585E 7701
  8449 8AAA 6BBA 8FB0 6C88 62FE 82E5 63A0 7565 4EAE 5169 51C9 6881 7CE7 826F 8AD2 91CF 52F5 5442
  5973 5EEC 65C5 6FFE 792A 95AD 9A6A 9E97 9ECE 529B 66C6 6B77 8F62 5E74 6190 6200 649A 6F23 7149
  7489 79CA 7DF4 806F 8F26 84EE 9023 934A 5217 52A3 54BD 70C8 88C2 8AAA 5EC9 5FF5 637B 6BAE 7C3E
  7375 4EE4 56F9 5BE7 5DBA 601C 73B2 7469 7F9A 8046 9234 96F6 9748 9818 4F8B 79AE 91B4 96B8 60E1
  4E86 50DA 5BEE 5C3F 6599 6A02 71CE 7642 84FC 907C 9F8D 6688 962E 5289 677B 67F3 6D41 6E9C 7409
  7559 786B 7D10 985E 516D 622E 9678 502B 5D19 6DEA 8F2A 5F8B 6144 6817 7387 9686 5229 540F 5C65
  6613 674E 68A8 6CE5 7406 75E2 7F79 88CF 88E1 91CC 96E2 533F 6EBA 541D 71D0 7498 85FA 96A3 9C57
  9E9F 6797 6DCB 81E8 7ACB 7B20 7C92 72C0 7099 8B58 4EC0 8336 523A 5207 5EA6 62D3 7CD6 5B85 6D1E
  66B4 8F3B 884C 964D 898B 5ED3 5140 55C0 . . 585A . 6674 . . 51DE 732A 76CA 793C 795E 7965 798F
  9756 7CBE 7FBD . 8612 . 8AF8 . . 9038 90FD . . . 98EF 98FC 9928 9DB4 90DE 96B7 4FAE 50E7 514D 52C9
  52E4 5351 559D 5606 5668 5840 58A8 5C64 5C6E 6094 6168 618E 61F2 654F 65E2 6691 6885 6D77 6E1A
  6F22 716E 722B 7422 7891 793E 7949 7948 7950 7956 795D 798D 798E 7A40 7A81 7BC0 7DF4 7E09 7E41
  7F72 8005 81ED 8279 8279 8457 8910 8996 8B01 8B39 8CD3 8D08 8FB6 9038 96E3 97FF 983B 6075 242EE
  8218 . . 4E26 51B5 5168 4F80 5145 5180 52C7 52FA 559D 5555 5599 55E2 585A 58B3 5944 5954 5A62 5B28
  5ED2 5ED9 5F69 5FAD 60D8 614E 6108 618E 6160 61F2 6234 63C4 641C 6452 6556 6674 6717 671B 6756
  6B79 6BBA 6D41 6EDB 6ECB 6F22 701E 716E 77A7 7235 72AF 732A 7471 7506 753B 761D 761F 76CA 76DB
  76F4 774A 7740 78CC 7AB1 7BC0 7C7B 7D5B 7DF4 7F3E 8005 8352 83EF 8779 8941 8986 8996 8ABF 8AF8
  8ACB 8B01 8AFE 8AED 8B39 8B8A 8D08 8F38 9072 9199 9276 967C 96E3 9756 97DB 97FF 980B 983B 9B12
  9F9C 2284A 22844 233D5 3B9D 4018 4039 25249 25CD0 27ED3 9F43 9F8E FB00: 66,66 66,69 66,6C 66,66,69
  66,66,6C 73,74 73,74 FB13: 574,576 574,565 574,56B 57E,576 574,56D FB1D: 5D9,5B4 . 5F2,5B7 5E2 5D0
  5D3 5D4 5DB+3 5E8 5EA 2B 5E9,5C1 5E9,5C2 5E9,5BC,5C1 5E9,5BC,5C2 5D0,5B7 5D0,5B8 5D0,5BC 5D1,5BC
  5D2,5BC 5D3,5BC 5D4,5BC 5D5,5BC 5D6,5BC . 5D8,5BC 5D9,5BC 5DA,5BC 5DB,5BC 5DC,5BC . 5DE,5BC .
  5E0,5BC 5E1,5BC . 5E3,5BC 5E4,5BC . 5E6,5BC 5E7,5BC 5E8,5BC 5E9,5BC 5EA,5BC 5D5,5B9 5D1,5BF
  5DB,5BF 5E4,5BF 5D0,5DC 671 671 67B 67B 67B 67B 67E 67E 67E 67E 680 680 680 680 67A 67A 67A 67A
  67F 67F 67F 67F 679 679 679 679 6A4 6A4 6A4 6A4 6A6 6A6 6A6 6A6 684 684 684 684 683 683 683 683
  686 686 686 686 687 687 687 687 68D 68D 68C 68C 68E 68E 688 688 698 698 691 691 6A9 6A9 6A9 6A9
  6AF 6AF 6AF 6AF 6B3 6B3 6B3 6B3 6B1 6B1 6B1 6B1 6BA 6BA 6BB 6BB 6BB 6BB 6C0 6C0 6C1 6C1 6C1 6C1
  6BE 6BE 6BE 6BE 6D2 6D2 6D3 6D3 FBD3: 6AD 6AD 6AD 6AD 6C7 6C7 6C6 6C6 6C8 6C8 6C7,674 6CB 6CB 6C5
  6C5 6C9 6C9 6D0 6D0 6D0 6D0 649 649 626,627 626,627 626,6D5 626,6D5 626,648 626,648 626,6C7
  626,6C7 626,6C6 626,6C6 626,6C8 626,6C8 626,6D0 626,6D0 626,6D0 626,649 626,649 626,649 6CC 6CC
  6CC 6CC 626,62C 626,62D 626,645 626,649 626,64A 628,62C 628,62D 628,62E 628,645 628,649 628,64A
  62A,62C 62A,62D 62A,62E 62A,645 62A,649 62A,64A 62B,62C 62B,645 62B,649 62B,64A 62C,62D 62C,645
  62D,62C 62D,645 62E,62C 62E,62D 62E,645 633,62C 633,62D 633,62E 633,645 635,62D 635,645 636,62C
  636,62D 636,62E 636,645 637,62D 637,645 638,645 639,62C 639,645 63A,62C 63A,645 641,62C 641,62D
  641,62E 641,645 641,649 641,64A 642,62D 642,645 642,649 642,64A 643,627 643,62C 643,62D 643,62E
  643,644 643,645 643,649 643,64A 644,62C 644,62D 644,62E 644,645 644,649 644,64A 645,62C 645,62D
  645,62E 645,645 645,649 645,64A 646,62C 646,62D 646,62E 646,645 646,649 646,64A 647,62C 647,645
  647,649 647,64A 64A,62C 64A,62D 64A,62E 64A,645 64A,649 64A,64A 630,670 631,670 649,670 20,64C,651
  20,64D,651 20,64E,651 20,64F,651 20,650,651 20,651,670 626,631 626,632 626,645 626,646 626,649
  626,64A 628,631 628,632 628,645 628,646 628,649 628,64A 62A,631 62A,632 62A,645 62A,646 62A,649
  62A,64A 62B,631 62B,632 62B,645 62B,646 62B,649 62B,64A 641,649 641,64A 642,649 642,64A 643,627
  643,644 643,645 643,649 643,64A 644,645 644,649 644,64A 645,627 645,645 646,631 646,632 646,645
  646,646 646,649 646,64A 649,670 64A,631 64A,632 64A,645 64A,646 64A,649 64A,64A 626,62C 626,62D
  626,62E 626,645 626,647 628,62C 628,62D 628,62E 628,645 628,647 62A,62C 62A,62D 62A,62E 62A,645
  62A,647 62B,645 62C,62D 62C,645 62D,62C 62D,645 62E,62C 62E,645 633,62C 633,62D 633,62E 633,645
  635,62D 635,62E 635,645 636,62C 636,62D 636,62E 636,645 637,62D 638,645 639,62C 639,645 63A,62C
  63A,645 641,62C 641,62D 641,62E 641,645 642,62D 642,645 643,62C 643,62D 643,62E 643,644 643,645
  644,62C 644,62D 644,62E 644,645 644,647 645,62C 645,62D 645,62E 645,645 646,62C 646,62D 646,62E
  646,645 646,647 647,62C 647,645 647,670 64A,62C 64A,62D 64A,62E 64A,645 64A,647 626,645 626,647
  628,645 628,647 62A,645 62A,647 62B,645 62B,647 633,645 633,647 634,645 634,647 643,644 643,645
  644,645 646,645 646,647 64A,645 64A,647 640,64E,651 640,64F,651 640,650,651 637,649 637,64A
  639,649 639,64A 63A,649 63A,64A 633,649 633,64A 634,649 634,64A 62D,649 62D,64A 62C,649 62C,64A
  62E,649 62E,64A 635,649 635,64A 636,649 636,64A 634,62C 634,62D 634,62E 634,645 634,631 633,631
  635,631 636,631 637,649 637,64A 639,649 639,64A 63A,649 63A,64A 633,649 633,64A 634,649 634,64A
  62D,649 62D,64A 62C,649 62C,64A 62E,649 62E,64A 635,649 635,64A 636,649 636,64A 634,62C 634,62D
  634,62E 634,645 634,631 633,631 635,631 636,631 634,62C 634,62D 634,62E 634,645 633,647 634,647
  637,645 633,62C 633,62D 633,62E 634,62C 634,62D 634,62E 637,645 638,645 627,64B 627,64B FD50:
  62A,62C,645 62A,62D,62C 62A,62D,62C 62A,62D,645 62A,62E,645 62A,645,62C 62A,645,62D 62A,645,62E
  62C,645,62D 62C,645,62D 62D,645,64A 62D,645,649 633,62D,62C 633,62C,62D 633,62C,649 633,645,62D
  633,645,62D 633,645,62C 633,645,645 633,645,645 635,62D,62D 635,62D,62D 635,645,645 634,62D,645
  634,62D,645 634,62C,64A 634,645,62E 634,645,62E 634,645,645 634,645,645 636,62D,649 636,62E,645
  636,62E,645 637,645,62D 637,645,62D 637,645,645 637,645,64A 639,62C,645 639,645,645 639,645,645
  639,645,649 63A,645,645 63A,645,64A 63A,645,649 641,62E,645 641,62E,645 642,645,62D 642,645,645
  644,62D,645 644,62D,64A 644,62D,649 644,62C,62C 644,62C,62C 644,62E,645 644,62E,645 644,645,62D
  644,645,62D 645,62D,62C 645,62D,645 645,62D,64A 645,62C,62D 645,62C,645 645,62E,62C 645,62E,645 .
  . 645,62C,62E 647,645,62C 647,645,645 646,62D,645 646,62D,649 646,62C,645 646,62C,645 646,62C,649
  646,645,64A 646,645,649 64A,645,645 64A,645,645 628,62E,64A 62A,62C,64A 62A,62C,649 62A,62E,64A
  62A,62E,649 62A,645,64A 62A,645,649 62C,645,64A 62C,62D,649 62C,645,649 633,62E,649 635,62D,64A
  634,62D,64A 636,62D,64A 644,62C,64A 644,645,64A 64A,62D,64A 64A,62C,64A 64A,645,64A 645,645,64A
  642,645,64A 646,62D,64A 642,645,62D 644,62D,645 639,645,64A 643,645,64A 646,62C,62D 645,62E,64A
  644,62C,645 643,645,645 644,62C,645 646,62C,62D 62C,62D,64A 62D,62C,64A 645,62C,64A 641,645,64A
  628,62D,64A 643,645,645 639,62C,645 635,645,645 633,62E,64A 646,62C,64A FDF0: 635,644,6D2
  642,644,6D2 627,644,644,647 627,643,628,631 645,62D,645,62F 635,644,639,645 631,633,648,644
  639,644,64A,647 648,633,644,645 635,644,649
  635,644,649,20,627,644,644,647,20,639,644,64A,647,20,648,633,644,645
  62C,644,20,62C,644,627,644,647 631,6CC,627,644 FE10: 2C 3001 . 3A 3B 21 3F 3016 3017 FE31: 2014
  2013 5F 5F 28 29 7B 7D 3014 3015 3010 3011 300A 300B 3008 3009 300C+4 . . 5B 5D 20,305 20,305
  20,305 20,305 5F 5F 5F 2C 3001 . . 3B 3A 3F 21 2014 28 29 7B 7D 3014 3015 23 26 2A 2B 2D 3C 3E 3D
  . 5C 24 25 40 FE70: 20,64B 640,64B 20,64C . 20,64D . 20,64E 640,64E 20,64F 640,64F 20,650 640,650
  20,651 640,651 20,652 640,652 621 622 622 623 623 624 624 625 625 626 626 626 626 627 627 628 628
  628 628 629 629 62A 62A 62A 62A 62B 62B 62B 62B 62C 62C 62C 62C 62D 62D 62D 62D 62E 62E 62E 62E
  62F 62F 630 630 631 631 632 632 633 633 633 633 634 634 634 634 635 635 635 635 636 636 636 636
  637 637 637 637 638 638 638 638 639 639 639 639 63A 63A 63A 63A 641 641 641 641 642 642 642 642
  643 643 643 643 644 644 644 644 645 645 645 645 646 646 646 646 647 647 647 647 648 648 649 649
  64A 64A 64A 64A 644,622 644,622 644,623 644,623 644,625 644,625 644,627 644,627 FF01: 21+20 61+1A
  5B+24 2985 2986 2E 300C 300D 3001 30FB 30F2 30A1 30A3 30A5 30A7 30A9 30E3 30E5 30E7 30C3 30FC 30A2
  30A4 30A6 30A8 30AA 30AB 30AD 30AF 30B1 30B3 30B5 30B7 30B9 30BB 30BD 30BF 30C1 30C4 30C6 30C8
  30CA+6 30D2 30D5 30D8 30DB 30DE+5 30E4 30E6 30E8+6 30EF 30F3 3099 309A . 1100 1101 11AA 1102 11AC
  11AD 1103+3 11B0+6 111A 1106+3 1121 1109+A . . . 1161+6 . . 1167+6 . . 116D+6 . . 1173+3 . . . A2
  A3 AC 20,304 A6 A5 20A9 . 2502 2190+4 25A0 25CB 10400: 10428+28 104B0: 104D8+24 10570: 10597+B .
  105A3+F . 105B3+7 . 105BB 105BC 10781: 2D0 2D1 E6 299 253 . 2A3 AB66 2A5 2A4 256 257 1D91 258 25E
  2A9 264 262 260 29B 127 29C 267 284 2AA 2AB 26C 1DF04 A78E 26E 1DF05 28E 1DF06 F8 276 277 71 27A
  1DF08 27D 27E 280 2A8 2A6 AB67 2A7 288 2C71 . 28F 2A1 2A2 298 1C0+3 1DF0A 1DF1E 10C80: 10CC0+33
  10D50: 10D70+16 118A0: 118C0+20 16E40: 16E60+20 16EA0: 16EBB+19 1CCD6: 61+1A 30+A 1D15E:
  1D157,1D165 1D158,1D165 1D158,1D165,1D16E 1D158,1D165,1D16F 1D158,1D165,1D170 1D158,1D165,1D171
  1D158,1D165,1D172 1D1BB: 1D1B9,1D165 1D1BA,1D165 1D1B9,1D165,1D16E 1D1BA,1D165,1D16E
  1D1B9,1D165,1D16F 1D1BA,1D165,1D16F 1D400: 61+1A 61+1A 61+1A 61+7 . 69+12 61+1A 61+1A 61 . 63 64 .
  . 67 . . 6A 6B . . 6E+4 . 73+8 61+4 . 66 . 68+7 . 70+B 61+1A 61+1A 61 62 . 64+4 . . 6A+8 . 73+7 .
  61+1A 61 62 . 64+4 . 69+5 . 6F . . . 73+7 . 61+1A 61+1A 61+1A 61+1A 61+1A 61+1A 61+1A 61+1A 61+1A
  61+1A 61+1A 61+1A 61+1A 131 237 . . 3B1+11 3B8 3C3+7 2207 3B1+11 3C3 3C3+7 2202 3B5 3B8 3BA 3C6
  3C1 3C0 3B1+11 3B8 3C3+7 2207 3B1+11 3C3 3C3+7 2202 3B5 3B8 3BA 3C6 3C1 3C0 3B1+11 3B8 3C3+7 2207
  3B1+11 3C3 3C3+7 2202 3B5 3B8 3BA 3C6 3C1 3C0 3B1+11 3B8 3C3+7 2207 3B1+11 3C3 3C3+7 2202 3B5 3B8
  3BA 3C6 3C1 3C0 3B1+11 3B8 3C3+7 2207 3B1+11 3C3 3C3+7 2202 3B5 3B8 3BA 3C6 3C1 3C0 3DD 3DD . .
  30+A 30+A 30+A 30+A 30+A 1E030: 430+9 43A+3 43E+B 44B 44D 44E A689 4D9 456 458 4E9 4AF 4CF 430+9
  43A 43B 43E 43F 441 443+6 44A 44B 491 456 455 45F 4AB A651 4B1 1E900: 1E922+22 1EE00: 627 628 62C
  62F . 648 632 62D 637 64A 643+4 633 639 641 635 642 631 634 62A 62B 62E 630 636 638 63A 66E 6BA
  6A1 66F . 628 62C . 647 . . 62D . 64A 643+4 633 639 641 635 642 . 634 62A 62B 62E . 636 . 63A
  1EE42: 62C 1EE47: 62D . 64A . 644 . 646 633 639 . 635 642 . 634 . . 62E . 636 . 63A . 6BA . 66F .
  628 62C . 647 . . 62D 637 64A 643 . 645 646 633 639 641 635 642 . 634 62A 62B 62E . 636 638 63A
  66E . 6A1 . 627 628 62C 62F 647 648 632 62D 637 64A . 644+3 633 639 641 635 642 631 634 62A 62B
  62E 630 636 638 63A 1EEA1: 628 62C 62F . 648 632 62D 637 64A . 644+3 633 639 641 635 642 631 634
  62A 62B 62E 630 636 638 63A 1F101: 30,2C 31,2C 32,2C 33,2C 34,2C 35,2C 36,2C 37,2C 38,2C 39,2C
  1F110: 28,61,29 28,62,29 28,63,29 28,64,29 28,65,29 28,66,29 28,67,29 28,68,29 28,69,29 28,6A,29
  28,6B,29 28,6C,29 28,6D,29 28,6E,29 28,6F,29 28,70,29 28,71,29 28,72,29 28,73,29 28,74,29 28,75,29
  28,76,29 28,77,29 28,78,29 28,79,29 28,7A,29 3014,73,3015 63 72 63,64 77,7A . 61+1A 68,76 6D,76
  73,64 73,73 70,70,76 77,63 1F16A: 6D,63 6D,64 6D,72 1F190: 64,6A 1F200: 307B,304B 30B3,30B3 30B5
  1F210: 624B 5B57 53CC 30C7 4E8C 591A 89E3 5929 4EA4 6620 7121 6599 524D 5F8C 518D 65B0 521D 7D42
  751F 8CA9 58F0 5439 6F14 6295 6355 4E00 4E09 904A 5DE6 4E2D 53F3 6307 8D70 6253 7981 7A7A 5408
  6E80 6709 6708 7533 5272 55B6 914D 1F240: 3014,672C,3015 3014,4E09,3015 3014,4E8C,3015
  3014,5B89,3015 3014,70B9,3015 3014,6253,3015 3014,76D7,3015 3014,52DD,3015 3014,6557,3015 1F250:
  5F97 53EF 1FBF0: 30+A 2F800: 4E3D 4E38 4E41 20122 4F60 4FAE 4FBB 5002 507A 5099 50E7 50CF 349E
  2063A 514D 5154 5164 5177 2051C 34B9 5167 518D 2054B 5197 51A4 4ECC 51AC 51B5 291DF 51F5 5203 34DF
  523B 5246 5272 5277 3515 52C7 52C9 52E4 52FA 5305 5306 5317 5349 5351 535A 5373 537D 537F 537F
  537F 20A2C 7070 53CA 53DF 20B63 53EB 53F1 5406 549E 5438 5448 5468 54A2 54F6 5510 5553 5563 5584
  5584 5599 55AB 55B3 55C2 5716 5606 5717 5651 5674 5207 58EE 57CE 57F4 580D 578B 5832 5831 58AC
  214E4 58F2 58F7 5906 591A 5922 5962 216A8 216EA 59EC 5A1B 5A27 59D8 5A66 36EE 36FC 5B08 5B3E 5B3E
  219C8 5BC3 5BD8 5BE7 5BF3 21B18 5BFF 5C06 5F53 5C22 3781 5C60 5C6E 5CC0 5C8D 21DE4 5D43 21DE6 5D6E
  5D6B 5D7C 5DE1 5DE2 382F 5DFD 5E28 5E3D 5E69 3862 22183 387C 5EB0 5EB3 5EB6 5ECA 2A392 5EFE 22331
  22331 8201 5F22 5F22 38C7 232B8 261DA 5F62 5F6B 38E3 5F9A 5FCD 5FD7 5FF9 6081 393A 391C 6094 226D4
  60C7 6148 614C 614E 614C 617A 618E 61B2 61A4 61AF 61DE 61F2 61F6 6210 621B 625D 62B1 62D4 6350
  22B0C 633D 62FC 6368 6383 63E4 22BF1 6422 63C5 63A9 3A2E 6469 647E 649D 6477 3A6C 654F 656C 2300A
  65E3 66F8 6649 3B19 6691 3B08 3AE4 5192 5195 6700 669C 80AD 43D9 6717 671B 6721 675E 6753 233C3
  3B49 67FA 6785 6852 6885 2346D 688E 681F 6914 3B9D 6942 69A3 69EA 6AA8 236A3 6ADB 3C18 6B21 238A7
  6B54 3C4E 6B72 6B9F 6BBA 6BBB 23A8D 21D0B 23AFA 6C4E 23CBC 6CBF 6CCD 6C67 6D16 6D3E 6D77 6D41 6D69
  6D78 6D85 23D1E 6D34 6E2F 6E6E 3D33 6ECB 6EC7 23ED1 6DF9 6F6E 23F5E 23F8E 6FC6 7039 701E 701B 3D96
  704A 707D 7077 70AD 20525 7145 24263 719C 243AB 7228 7235 7250 24608 7280 7295 24735 24814 737A
  738B 3EAC 73A5 3EB8 3EB8 7447 745C 7471 7485 74CA 3F1B 7524 24C36 753E 24C92 7570 2219F 7610 24FA1
  24FB8 25044 3FFC 4008 76F4 250F3 250F2 25119 25133 771E 771F 771F 774A 4039 778B 4046 4096 2541D
  784E 788C 78CC 40E3 25626 7956 2569A 256C5 798F 79EB 412F 7A40 7A4A 7A4F 2597C 25AA7 25AA7 7AEE
  4202 25BAB 7BC6 7BC9 4227 25C80 7CD2 42A0 7CE8 7CE3 7D00 25F86 7D63 4301 7DC7 7E02 7E45 4334 26228
  26247 4359 262D9 7F7A 2633E 7F95 7FFA 8005 264DA 26523 8060 265A8 8070 2335F 43D5 80B2 8103 440B
  813E 5AB5 267A7 267B5 23393 2339C 8201 8204 8F9E 446B 8291 828B 829D 52B3 82B1 82B3 82BD 82E6
  26B3C 82E5 831D 8363 83AD 8323 83BD 83E7 8457 8353 83CA 83CC 83DC 26C36 26D6B 26CD5 452B 84F1 84F3
  8516 273CA 8564 26F2C 455D 4561 26FB1 270D2 456B 8650 865C 8667 8669 86A9 8688 870E 86E2 8779 8728
  876B 8786 45D7 87E1 8801 45F9 8860 8863 27667 88D7 88DE 4635 88FA 34BB 278AE 27966 46BE 46C7 8AA0
  8AED 8B8A 8C55 27CA8 8CAB 8CC1 8D1B 8D77 27F2F 20804 8DCB 8DBC 8DF0 208DE 8ED4 8F38 285D2 285ED
  9094 90F1 9111 2872E 911B 9238 92D7 92D8 927C 93F9 9415 28BFA 958B 4995 95B7 28D77 49E6 96C3 5DB2
  9723 29145 2921A 4A6E 4A76 97E0 2940A 4AB2 29496 980B 980B 9829 295B6 98E2 4B33 9929 99A7 99C2
  99FE 4BCE 29B30 9B12 9C40 9CFD 4CCE 4CED 9D67 2A0CE 4CF8 2A105 2A20E 2A291 9EBB 4D56 9EF9 9EFE
  9F05 9F0F 9F16 9F3B 2A600").flatMap fun part => replacementsFrom (hexOf part.1) part.2

def replacement? (c : Char) : Option (List Char) :=
  match replacements.find? fun r => r.1 ≤ c.toNat && c.toNat < r.1 + r.2.1 with
  | some (n, _, text) => some (text.map fun d => Char.ofNat (d.toNat + (c.toNat - n)))
  | none => none

def mapped? (c : Char) : Option (List Char) :=
  match replacement? c with
  | some text => some text
  | none =>
    if c.toNat < 0x80 then some [c]
    else if refused.has c then none
    else if ignored.has c then some []
    else some [c]

def isOwnForm (c : Char) : Bool := mapped? c == some [c]

end FeatureStore.DomainName
