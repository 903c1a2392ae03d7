import BucketLifecycle.Text.RunTable

/-!
# Directions of writing

Each character has a direction of its own, takes one from its neighbours, or belongs to a number.
The table follows Unicode 17.
-/

set_option autoImplicit false

namespace BucketLifecycle.Text

/-- What a character means for the direction of writing. -/
inductive Direction where
  | leftToRight
  /-- the letters of scripts such as Hebrew -/
  | rightToLeft
  /-- the letters of scripts such as Arabic -/
  | arabicLetter
  /-- European digits -/
  | europeanNumber
  /-- signs such as plus and minus -/
  | europeanSeparator
  /-- signs beside a number -/
  | europeanTerminator
  /-- Arabic digits -/
  | arabicNumber
  /-- signs inside a number -/
  | commonSeparator
  /-- marks that follow the direction of their letter -/
  | nonspacingMark
  /-- characters without a place -/
  | boundaryNeutral
  /-- signs that take any direction -/
  | otherNeutral
  /-- separators of lines and explicit changes of direction -/
  | control
  deriving DecidableEq, Repr

/-- The directions other than that from left to right, by their place in `Direction.listed`. -/
def directions : RunTable := .ofText "
  0-8:8 9-D:A E-1B:8 1C-20:A 21-22:9 23-25:4 26-2A:9 2B:3 2C:6 2D:3 2E-2F:6 30-39:2 3A:6 3B-40:9
  5B-60:9 7B-7E:9 7F-84:8 85:A 86-9F:8 A0:6 A1:9 A2-A5:4 A6-A9:9 AB-AC:9 AD:8 AE-AF:9 B0-B1:4
  B2-B3:2 B4:9 B6-B8:9 B9:2 BB-BF:9 D7:9 F7:9 2B9-2BA:9 2C2-2CF:9 2D2-2DF:9 2E5-2ED:9 2EF-2FF:9
  300-36F:7 374-375:9 37E:9 384-385:9 387:9 3F6:9 483-489:7 58A:9 58D-58E:9 58F:4 590:0 591-5BD:7
  5BE:0 5BF:7 5C0:0 5C1-5C2:7 5C3:0 5C4-5C5:7 5C6:0 5C7:7 5C8-5FF:0 600-605:5 606-607:9 608:1
  609-60A:4 60B:1 60C:6 60D:1 60E-60F:9 610-61A:7 61B-64A:1 64B-65F:7 660-669:5 66A:4 66B-66C:5
  66D-66F:1 670:7 671-6D5:1 6D6-6DC:7 6DD:5 6DE:9 6DF-6E4:7 6E5-6E6:1 6E7-6E8:7 6E9:9 6EA-6ED:7
  6EE-6EF:1 6F0-6F9:2 6FA-710:1 711:7 712-72F:1 730-74A:7 74B-7A5:1 7A6-7B0:7 7B1-7BF:1 7C0-7EA:0
  7EB-7F3:7 7F4-7F5:0 7F6-7F9:9 7FA-7FC:0 7FD:7 7FE-815:0 816-819:7 81A:0 81B-823:7 824:0 825-827:7
  828:0 829-82D:7 82E-858:0 859-85B:7 85C-85F:0 860-88F:1 890-891:5 892-896:1 897-89F:7 8A0-8C9:1
  8CA-8E1:7 8E2:5 8E3-902:7 93A:7 93C:7 941-948:7 94D:7 951-957:7 962-963:7 981:7 9BC:7 9C1-9C4:7
  9CD:7 9E2-9E3:7 9F2-9F3:4 9FB:4 9FE:7 A01-A02:7 A3C:7 A41-A42:7 A47-A48:7 A4B-A4D:7 A51:7
  A70-A71:7 A75:7 A81-A82:7 ABC:7 AC1-AC5:7 AC7-AC8:7 ACD:7 AE2-AE3:7 AF1:4 AFA-AFF:7 B01:7 B3C:7
  B3F:7 B41-B44:7 B4D:7 B55-B56:7 B62-B63:7 B82:7 BC0:7 BCD:7 BF3-BF8:9 BF9:4 BFA:9 C00:7 C04:7
  C3C:7 C3E-C40:7 C46-C48:7 C4A-C4D:7 C55-C56:7 C62-C63:7 C78-C7E:9 C81:7 CBC:7 CCC-CCD:7 CE2-CE3:7
  D00-D01:7 D3B-D3C:7 D41-D44:7 D4D:7 D62-D63:7 D81:7 DCA:7 DD2-DD4:7 DD6:7 E31:7 E34-E3A:7 E3F:4
  E47-E4E:7 EB1:7 EB4-EBC:7 EC8-ECE:7 F18-F19:7 F35:7 F37:7 F39:7 F3A-F3D:9 F71-F7E:7 F80-F84:7
  F86-F87:7 F8D-F97:7 F99-FBC:7 FC6:7 102D-1030:7 1032-1037:7 1039-103A:7 103D-103E:7 1058-1059:7
  105E-1060:7 1071-1074:7 1082:7 1085-1086:7 108D:7 109D:7 135D-135F:7 1390-1399:9 1400:9 1680:A
  169B-169C:9 1712-1714:7 1732-1733:7 1752-1753:7 1772-1773:7 17B4-17B5:7 17B7-17BD:7 17C6:7
  17C9-17D3:7 17DB:4 17DD:7 17F0-17F9:9 1800-180A:9 180B-180D:7 180E:8 180F:7 1885-1886:7 18A9:7
  1920-1922:7 1927-1928:7 1932:7 1939-193B:7 1940:9 1944-1945:9 19DE-19FF:9 1A17-1A18:7 1A1B:7
  1A56:7 1A58-1A5E:7 1A60:7 1A62:7 1A65-1A6C:7 1A73-1A7C:7 1A7F:7 1AB0-1ADD:7 1AE0-1AEB:7
  1B00-1B03:7 1B34:7 1B36-1B3A:7 1B3C:7 1B42:7 1B6B-1B73:7 1B80-1B81:7 1BA2-1BA5:7 1BA8-1BA9:7
  1BAB-1BAD:7 1BE6:7 1BE8-1BE9:7 1BED:7 1BEF-1BF1:7 1C2C-1C33:7 1C36-1C37:7 1CD0-1CD2:7 1CD4-1CE0:7
  1CE2-1CE8:7 1CED:7 1CF4:7 1CF8-1CF9:7 1DC0-1DFF:7 1FBD:9 1FBF-1FC1:9 1FCD-1FCF:9 1FDD-1FDF:9
  1FED-1FEF:9 1FFD-1FFE:9 2000-200A:A 200B-200D:8 200F:0 2010-2027:9 2028-202E:A 202F:6 2030-2034:4
  2035-2043:9 2044:6 2045-205E:9 205F:A 2060-2065:8 2066-2069:A 206A-206F:8 2070:2 2074-2079:2
  207A-207B:3 207C-207E:9 2080-2089:2 208A-208B:3 208C-208E:9 20A0-20CF:4 20D0-20F0:7 2100-2101:9
  2103-2106:9 2108-2109:9 2114:9 2116-2118:9 211E-2123:9 2125:9 2127:9 2129:9 212E:4 213A-213B:9
  2140-2144:9 214A-214D:9 2150-215F:9 2189-218B:9 2190-2211:9 2212:3 2213:4 2214-2335:9 237B-2394:9
  2396-2429:9 2440-244A:9 2460-2487:9 2488-249B:2 24EA-26AB:9 26AD-27FF:9 2900-2B73:9 2B76-2BFF:9
  2CE5-2CEA:9 2CEF-2CF1:7 2CF9-2CFF:9 2D7F:7 2DE0-2DFF:7 2E00-2E5D:9 2E80-2E99:9 2E9B-2EF3:9
  2F00-2FD5:9 2FF0-2FFF:9 3000:A 3001-3004:9 3008-3020:9 302A-302D:7 3030:9 3036-3037:9 303D-303F:9
  3099-309A:7 309B-309C:9 30A0:9 30FB:9 31C0-31E5:9 31EF:9 321D-321E:9 3250-325F:9 327C-327E:9
  32B1-32BF:9 32CC-32CF:9 3377-337A:9 33DE-33DF:9 33FF:9 4DC0-4DFF:9 A490-A4C6:9 A60D-A60F:9
  A66F-A672:7 A673:9 A674-A67D:7 A67E-A67F:9 A69E-A69F:7 A6F0-A6F1:7 A700-A721:9 A788:9 A802:7
  A806:7 A80B:7 A825-A826:7 A828-A82B:9 A82C:7 A838-A839:4 A874-A877:9 A8C4-A8C5:7 A8E0-A8F1:7
  A8FF:7 A926-A92D:7 A947-A951:7 A980-A982:7 A9B3:7 A9B6-A9B9:7 A9BC-A9BD:7 A9E5:7 AA29-AA2E:7
  AA31-AA32:7 AA35-AA36:7 AA43:7 AA4C:7 AA7C:7 AAB0:7 AAB2-AAB4:7 AAB7-AAB8:7 AABE-AABF:7 AAC1:7
  AAEC-AAED:7 AAF6:7 AB6A-AB6B:9 ABE5:7 ABE8:7 ABED:7 FB1D:0 FB1E:7 FB1F-FB28:0 FB29:3 FB2A-FB4F:0
  FB50-FBC2:1 FBC3-FBD2:9 FBD3-FD3D:1 FD3E-FD4F:9 FD50-FD8F:1 FD90-FD91:9 FD92-FDC7:1 FDC8-FDCF:9
  FDD0-FDEF:8 FDF0-FDFC:1 FDFD-FDFF:9 FE00-FE0F:7 FE10-FE19:9 FE20-FE2F:7 FE30-FE4F:9 FE50:6 FE51:9
  FE52:6 FE54:9 FE55:6 FE56-FE5E:9 FE5F:4 FE60-FE61:9 FE62-FE63:3 FE64-FE66:9 FE68:9 FE69-FE6A:4
  FE6B:9 FE70-FEFE:1 FEFF:8 FF01-FF02:9 FF03-FF05:4 FF06-FF0A:9 FF0B:3 FF0C:6 FF0D:3 FF0E-FF0F:6
  FF10-FF19:2 FF1A:6 FF1B-FF20:9 FF3B-FF40:9 FF5B-FF65:9 FFE0-FFE1:4 FFE2-FFE4:9 FFE5-FFE6:4
  FFE8-FFEE:9 FFF0-FFF8:8 FFF9-FFFD:9 FFFE-FFFF:8 10101:9 10140-1018C:9 10190-1019C:9 101A0:9
  101FD:7 102E0:7 102E1-102FB:2 10376-1037A:7 10800-1091E:0 1091F:9 10920-10A00:0 10A01-10A03:7
  10A04:0 10A05-10A06:7 10A07-10A0B:0 10A0C-10A0F:7 10A10-10A37:0 10A38-10A3A:7 10A3B-10A3E:0
  10A3F:7 10A40-10AE4:0 10AE5-10AE6:7 10AE7-10B38:0 10B39-10B3F:9 10B40-10CFF:0 10D00-10D23:1
  10D24-10D27:7 10D28-10D2F:1 10D30-10D39:5 10D3A-10D3F:1 10D40-10D49:5 10D4A-10D68:0 10D69-10D6D:7
  10D6E:9 10D6F-10E5F:0 10E60-10E7E:5 10E7F-10EAA:0 10EAB-10EAC:7 10EAD-10EBF:0 10EC0-10ECF:1
  10ED0-10ED8:9 10ED9-10EF9:1 10EFA-10EFF:7 10F00-10F2F:0 10F30-10F45:1 10F46-10F50:7 10F51-10F6F:1
  10F70-10F81:0 10F82-10F85:7 10F86-10FFF:0 11001:7 11038-11046:7 11052-11065:9 11070:7
  11073-11074:7 1107F-11081:7 110B3-110B6:7 110B9-110BA:7 110C2:7 11100-11102:7 11127-1112B:7
  1112D-11134:7 11173:7 11180-11181:7 111B6-111BE:7 111C9-111CC:7 111CF:7 1122F-11231:7 11234:7
  11236-11237:7 1123E:7 11241:7 112DF:7 112E3-112EA:7 11300-11301:7 1133B-1133C:7 11340:7
  11366-1136C:7 11370-11374:7 113BB-113C0:7 113CE:7 113D0:7 113D2:7 113E1-113E2:7 11438-1143F:7
  11442-11444:7 11446:7 1145E:7 114B3-114B8:7 114BA:7 114BF-114C0:7 114C2-114C3:7 115B2-115B5:7
  115BC-115BD:7 115BF-115C0:7 115DC-115DD:7 11633-1163A:7 1163D:7 1163F-11640:7 11660-1166C:9
  116AB:7 116AD:7 116B0-116B5:7 116B7:7 1171D:7 1171F:7 11722-11725:7 11727-1172B:7 1182F-11837:7
  11839-1183A:7 1193B-1193C:7 1193E:7 11943:7 119D4-119D7:7 119DA-119DB:7 119E0:7 11A01-11A06:7
  11A09-11A0A:7 11A33-11A38:7 11A3B-11A3E:7 11A47:7 11A51-11A56:7 11A59-11A5B:7 11A8A-11A96:7
  11A98-11A99:7 11B60:7 11B62-11B64:7 11B66:7 11C30-11C36:7 11C38-11C3D:7 11C92-11CA7:7
  11CAA-11CB0:7 11CB2-11CB3:7 11CB5-11CB6:7 11D31-11D36:7 11D3A:7 11D3C-11D3D:7 11D3F-11D45:7
  11D47:7 11D90-11D91:7 11D95:7 11D97:7 11EF3-11EF4:7 11F00-11F01:7 11F36-11F3A:7 11F40:7 11F42:7
  11F5A:7 11FD5-11FDC:9 11FDD-11FE0:4 11FE1-11FF1:9 13440:7 13447-13455:7 1611E-16129:7
  1612D-1612F:7 16AF0-16AF4:7 16B30-16B36:7 16F4F:7 16F8F-16F92:7 16FE2:9 16FE4:7 1BC9D-1BC9E:7
  1BCA0-1BCA3:8 1CC00-1CCD5:9 1CCF0-1CCF9:2 1CCFA-1CCFC:9 1CD00-1CEB3:9 1CEBA-1CED0:9 1CEE0-1CEF0:9
  1CF00-1CF2D:7 1CF30-1CF46:7 1D167-1D169:7 1D173-1D17A:8 1D17B-1D182:7 1D185-1D18B:7 1D1AA-1D1AD:7
  1D1E9-1D1EA:9 1D200-1D241:9 1D242-1D244:7 1D245:9 1D300-1D356:9 1D6C1:9 1D6DB:9 1D6FB:9 1D715:9
  1D735:9 1D74F:9 1D76F:9 1D789:9 1D7A9:9 1D7C3:9 1D7CE-1D7FF:2 1DA00-1DA36:7 1DA3B-1DA6C:7 1DA75:7
  1DA84:7 1DA9B-1DA9F:7 1DAA1-1DAAF:7 1E000-1E006:7 1E008-1E018:7 1E01B-1E021:7 1E023-1E024:7
  1E026-1E02A:7 1E08F:7 1E130-1E136:7 1E2AE:7 1E2EC-1E2EF:7 1E2FF:4 1E4EC-1E4EF:7 1E5EE-1E5EF:7
  1E6E3:7 1E6E6:7 1E6EE-1E6EF:7 1E6F5:7 1E800-1E8CF:0 1E8D0-1E8D6:7 1E8D7-1E943:0 1E944-1E94A:7
  1E94B-1EC6F:0 1EC70-1ECBF:1 1ECC0-1ECFF:0 1ED00-1ED4F:1 1ED50-1EDFF:0 1EE00-1EEEF:1 1EEF0-1EEF1:9
  1EEF2-1EEFF:1 1EF00-1EFFF:0 1F000-1F02B:9 1F030-1F093:9 1F0A0-1F0AE:9 1F0B1-1F0BF:9 1F0C1-1F0CF:9
  1F0D1-1F0F5:9 1F100-1F10A:2 1F10B-1F10F:9 1F12F:9 1F16A-1F16F:9 1F1AD:9 1F260-1F265:9
  1F300-1F6D8:9 1F6DC-1F6EC:9 1F6F0-1F6FC:9 1F700-1F7D9:9 1F7E0-1F7EB:9 1F7F0:9 1F800-1F80B:9
  1F810-1F847:9 1F850-1F859:9 1F860-1F887:9 1F890-1F8AD:9 1F8B0-1F8BB:9 1F8C0-1F8C1:9 1F8D0-1F8D8:9
  1F900-1FA57:9 1FA60-1FA6D:9 1FA70-1FA7C:9 1FA80-1FA8A:9 1FA8E-1FAC6:9 1FAC8:9 1FACD-1FADC:9
  1FADF-1FAEA:9 1FAEF-1FAF8:9 1FB00-1FB92:9 1FB94-1FBEF:9 1FBF0-1FBF9:2 1FBFA:9 1FFFE-1FFFF:8
  2FFFE-2FFFF:8 3FFFE-3FFFF:8 4FFFE-4FFFF:8 5FFFE-5FFFF:8 6FFFE-6FFFF:8 7FFFE-7FFFF:8 8FFFE-8FFFF:8
  9FFFE-9FFFF:8 AFFFE-AFFFF:8 BFFFE-BFFFF:8 CFFFE-CFFFF:8 DFFFE-E00FF:8 E0100-E01EF:7 E01F0-E0FFF:8
  EFFFE-EFFFF:8 FFFFE-FFFFF:8 10FFFE-10FFFF:8"

def Direction.listed : List Direction :=
  [.rightToLeft, .arabicLetter, .europeanNumber, .europeanSeparator, .europeanTerminator,
    .arabicNumber, .commonSeparator, .nonspacingMark, .boundaryNeutral, .otherNeutral, .control]

def direction (c : Char) : Direction :=
  match directions.value? c with
  | none => .leftToRight
  | some place => (Direction.listed[place]?).getD .control

end BucketLifecycle.Text
