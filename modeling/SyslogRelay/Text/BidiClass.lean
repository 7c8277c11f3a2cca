import SyslogRelay.Text.CodePointTable

namespace SyslogRelay.Text

/-- The bidirectional class of a character. -/
inductive BidiClass
  | leftToRight
  | rightToLeft
  | arabicLetter
  | europeanNumber
  | europeanSeparator
  | europeanTerminator
  | arabicNumber
  | commonSeparator
  | nonspacingMark
  | boundaryNeutral
  | paragraphSeparator
  | segmentSeparator
  | whiteSpace
  | otherNeutral
  | leftToRightEmbedding
  | leftToRightOverride
  | rightToLeftEmbedding
  | rightToLeftOverride
  | popDirectionalFormat
  | leftToRightIsolate
  | rightToLeftIsolate
  | firstStrongIsolate
  | popDirectionalIsolate
  deriving DecidableEq, Repr

/-- A class by its abbreviation. -/
def BidiClass.ofAbbreviation? : String → Option BidiClass
  | "L" => some .leftToRight
  | "R" => some .rightToLeft
  | "AL" => some .arabicLetter
  | "EN" => some .europeanNumber
  | "ES" => some .europeanSeparator
  | "ET" => some .europeanTerminator
  | "AN" => some .arabicNumber
  | "CS" => some .commonSeparator
  | "NSM" => some .nonspacingMark
  | "BN" => some .boundaryNeutral
  | "B" => some .paragraphSeparator
  | "S" => some .segmentSeparator
  | "WS" => some .whiteSpace
  | "ON" => some .otherNeutral
  | "LRE" => some .leftToRightEmbedding
  | "LRO" => some .leftToRightOverride
  | "RLE" => some .rightToLeftEmbedding
  | "RLO" => some .rightToLeftOverride
  | "PDF" => some .popDirectionalFormat
  | "LRI" => some .leftToRightIsolate
  | "RLI" => some .rightToLeftIsolate
  | "FSI" => some .firstStrongIsolate
  | "PDI" => some .popDirectionalIsolate
  | _ => none

/-- The bidirectional classes of code points, by ranges. -/
def bidiClassText : List String :=
  [
    "0:BN 9:S A:B B:S C:WS D:B E:BN 1C:B 1F:S 20:WS 21:ON 23:ET 26:ON 2B:ES 2C:CS 2D:ES 2E:CS 30:EN",
    "3A:CS 3B:ON 41:L 5B:ON 61:L 7B:ON 7F:BN 85:B 86:BN A0:CS A1:ON A2:ET A6:ON AA:L AB:ON AD:BN",
    "AE:ON B0:ET B2:EN B4:ON B5:L B6:ON B9:EN BA:L BB:ON C0:L D7:ON D8:L F7:ON F8:L 2B9:ON 2BB:L",
    "2C2:ON 2D0:L 2D2:ON 2E0:L 2E5:ON 2EE:L 2EF:ON 300:NSM 370:L 374:ON 376:L 37E:ON 37F:L 384:ON",
    "386:L 387:ON 388:L 3F6:ON 3F7:L 483:NSM 48A:L 58A:ON 58F:ET 590:R 591:NSM 5BE:R 5BF:NSM 5C0:R",
    "5C1:NSM 5C3:R 5C4:NSM 5C6:R 5C7:NSM 5D0:R 600:AN 606:ON 608:AL 609:ET 60B:AL 60C:CS 60D:AL",
    "60E:ON 610:NSM 61B:AL 64B:NSM 660:AN 66A:ET 66B:AN 66D:AL 670:NSM 671:AL 6D6:NSM 6DD:AN 6DE:ON",
    "6DF:NSM 6E5:AL 6E7:NSM 6E9:ON 6EA:NSM 6EE:AL 6F0:EN 6FA:AL 711:NSM 712:AL 730:NSM 74D:AL 7A6:NSM",
    "7B1:AL 7C0:R 7EB:NSM 7F4:R 7F6:ON 7FA:R 7FD:NSM 7FE:R 816:NSM 81A:R 81B:NSM 824:R 825:NSM 828:R",
    "829:NSM 830:R 859:NSM 85E:R 860:AL 890:AN 897:NSM 8A0:AL 8CA:NSM 8E2:AN 8E3:NSM 903:L 93A:NSM",
    "93B:L 93C:NSM 93D:L 941:NSM 949:L 94D:NSM 94E:L 951:NSM 958:L 962:NSM 964:L 981:NSM 982:L",
    "9BC:NSM 9BD:L 9C1:NSM 9C7:L 9CD:NSM 9CE:L 9E2:NSM 9E6:L 9F2:ET 9F4:L 9FB:ET 9FC:L 9FE:NSM A00:L",
    "A01:NSM A03:L A3C:NSM A3E:L A41:NSM A59:L A70:NSM A72:L A75:NSM A76:L A81:NSM A83:L ABC:NSM",
    "ABD:L AC1:NSM AC9:L ACD:NSM AD0:L AE2:NSM AE6:L AF1:ET AF9:L AFA:NSM B00:L B01:NSM B02:L B3C:NSM",
    "B3D:L B3F:NSM B40:L B41:NSM B47:L B4D:NSM B57:L B62:NSM B66:L B82:NSM B83:L BC0:NSM BC1:L",
    "BCD:NSM BD0:L BF3:ON BF9:ET BFA:ON C00:NSM C01:L C04:NSM C05:L C3C:NSM C3D:L C3E:NSM C41:L",
    "C46:NSM C58:L C62:NSM C66:L C78:ON C7F:L C81:NSM C82:L CBC:NSM CBD:L CCC:NSM CD5:L CE2:NSM CE6:L",
    "D00:NSM D02:L D3B:NSM D3D:L D41:NSM D46:L D4D:NSM D4E:L D62:NSM D66:L D81:NSM D82:L DCA:NSM",
    "DCF:L DD2:NSM DD8:L E31:NSM E32:L E34:NSM E3F:ET E40:L E47:NSM E4F:L EB1:NSM EB2:L EB4:NSM EBD:L",
    "EC8:NSM ED0:L F18:NSM F1A:L F35:NSM F36:L F37:NSM F38:L F39:NSM F3A:ON F3E:L F71:NSM F7F:L",
    "F80:NSM F85:L F86:NSM F88:L F8D:NSM FBE:L FC6:NSM FC7:L 102D:NSM 1031:L 1032:NSM 1038:L 1039:NSM",
    "103B:L 103D:NSM 103F:L 1058:NSM 105A:L 105E:NSM 1061:L 1071:NSM 1075:L 1082:NSM 1083:L 1085:NSM",
    "1087:L 108D:NSM 108E:L 109D:NSM 109E:L 135D:NSM 1360:L 1390:ON 13A0:L 1400:ON 1401:L 1680:WS",
    "1681:L 169B:ON 16A0:L 1712:NSM 1715:L 1732:NSM 1734:L 1752:NSM 1760:L 1772:NSM 1780:L 17B4:NSM",
    "17B6:L 17B7:NSM 17BE:L 17C6:NSM 17C7:L 17C9:NSM 17D4:L 17DB:ET 17DC:L 17DD:NSM 17E0:L 17F0:ON",
    "180B:NSM 180E:BN 180F:NSM 1810:L 1885:NSM 1887:L 18A9:NSM 18AA:L 1920:NSM 1923:L 1927:NSM 1929:L",
    "1932:NSM 1933:L 1939:NSM 1940:ON 1946:L 19DE:ON 1A00:L 1A17:NSM 1A19:L 1A1B:NSM 1A1E:L 1A56:NSM",
    "1A57:L 1A58:NSM 1A61:L 1A62:NSM 1A63:L 1A65:NSM 1A6D:L 1A73:NSM 1A80:L 1AB0:NSM 1B04:L 1B34:NSM",
    "1B35:L 1B36:NSM 1B3A:L 1B4E:ON 1B50:L 1B6B:NSM 1B74:L 1B7F:ON 1B80:NSM 1B82:L 1BA2:NSM 1BA6:L",
    "1BA8:NSM 1BAA:L 1BAB:NSM 1BAE:L 1BE6:NSM 1BE7:L 1BE8:NSM 1BEA:L 1BED:NSM 1BEE:L 1BEF:NSM 1BF2:L",
    "1C2C:NSM 1C34:L 1C36:NSM 1C3B:L 1CD0:NSM 1CD3:L 1CD4:NSM 1CE1:L 1CE2:NSM 1CE9:L 1CED:NSM 1CEE:L",
    "1CF4:NSM 1CF5:L 1CF8:NSM 1CFA:L 1DC0:NSM 1E00:L 1FBD:ON 1FBE:L 1FBF:ON 1FC2:L 1FCD:ON 1FD0:L",
    "1FDD:ON 1FE0:L 1FED:ON 1FF2:L 1FFD:ON 2000:WS 200B:BN 200E:L 200F:R 2010:ON 2028:WS 2029:B",
    "202A:LRE 202B:RLE 202C:PDF 202D:LRO 202E:RLO 202F:CS 2030:ET 2035:ON 2044:CS 2045:ON 205F:WS",
    "2060:BN 2066:LRI 2067:RLI 2068:FSI 2069:PDI 206A:BN 2070:EN 2071:L 2074:EN 207A:ES 207C:ON",
    "207F:L 2080:EN 208A:ES 208C:ON 2090:L 20A0:ET 20D0:NSM 2100:ON 2102:L 2103:ON 2107:L 2108:ON",
    "210A:L 2114:ON 2115:L 2116:ON 2119:L 211E:ON 2124:L 2125:ON 2126:L 2127:ON 2128:L 2129:ON 212A:L",
    "212E:ET 212F:L 213A:ON 213C:L 2140:ON 2145:L 214A:ON 214E:L 2150:ON 2160:L 2189:ON 2212:ES",
    "2213:ET 2214:ON 2336:L 237B:ON 2395:L 2396:ON 2488:EN 249C:L 24EA:ON 26AC:L 26AD:ON 2800:L",
    "2900:ON 2C00:L 2CE5:ON 2CEB:L 2CEF:NSM 2CF2:L 2CF9:ON 2D00:L 2D7F:NSM 2D80:L 2DE0:NSM 2E00:ON",
    "2FE0:L 2FF0:ON 3000:WS 3001:ON 3005:L 3008:ON 3021:L 302A:NSM 302E:L 3030:ON 3031:L 3036:ON",
    "3038:L 303D:ON 3040:L 3099:NSM 309B:ON 309D:L 30A0:ON 30A1:L 30FB:ON 30FC:L 31C0:ON 31F0:L",
    "321D:ON 3220:L 3250:ON 3260:L 327C:ON 327F:L 32B1:ON 32C0:L 32CC:ON 32D0:L 3377:ON 337B:L",
    "33DE:ON 33E0:L 33FF:ON 3400:L 4DC0:ON 4E00:L A490:ON A4D0:L A60D:ON A610:L A66F:NSM A673:ON",
    "A674:NSM A67E:ON A680:L A69E:NSM A6A0:L A6F0:NSM A6F2:L A700:ON A722:L A788:ON A789:L A802:NSM",
    "A803:L A806:NSM A807:L A80B:NSM A80C:L A825:NSM A827:L A828:ON A82C:NSM A830:L A838:ET A840:L",
    "A874:ON A880:L A8C4:NSM A8CE:L A8E0:NSM A8F2:L A8FF:NSM A900:L A926:NSM A92E:L A947:NSM A952:L",
    "A980:NSM A983:L A9B3:NSM A9B4:L A9B6:NSM A9BA:L A9BC:NSM A9BE:L A9E5:NSM A9E6:L AA29:NSM AA2F:L",
    "AA31:NSM AA33:L AA35:NSM AA40:L AA43:NSM AA44:L AA4C:NSM AA4D:L AA7C:NSM AA7D:L AAB0:NSM AAB1:L",
    "AAB2:NSM AAB5:L AAB7:NSM AAB9:L AABE:NSM AAC0:L AAC1:NSM AAC2:L AAEC:NSM AAEE:L AAF6:NSM AB00:L",
    "AB6A:ON AB70:L ABE5:NSM ABE6:L ABE8:NSM ABE9:L ABED:NSM ABF0:L FB1D:R FB1E:NSM FB1F:R FB29:ES",
    "FB2A:R FB50:AL FBC3:ON FBD3:AL FD3E:ON FD50:AL FD90:ON FD92:AL FDC8:ON FDD0:BN FDF0:AL FDFD:ON",
    "FE00:NSM FE10:ON FE20:NSM FE30:ON FE50:CS FE51:ON FE52:CS FE54:ON FE55:CS FE56:ON FE5F:ET",
    "FE60:ON FE62:ES FE64:ON FE69:ET FE6B:ON FE70:AL FEFF:BN FF00:L FF01:ON FF03:ET FF06:ON FF0B:ES",
    "FF0C:CS FF0D:ES FF0E:CS FF10:EN FF1A:CS FF1B:ON FF21:L FF3B:ON FF41:L FF5B:ON FF66:L FFE0:ET",
    "FFE2:ON FFE5:ET FFE8:ON FFF0:BN FFF9:ON FFFE:BN 10000:L 10101:ON 10102:L 10140:ON 1018D:L",
    "10190:ON 101D0:L 101FD:NSM 10200:L 102E0:NSM 102E1:EN 10300:L 10376:NSM 10380:L 10800:R 1091F:ON",
    "10920:R 10A01:NSM 10A10:R 10A38:NSM 10A40:R 10AE5:NSM 10AEB:R 10B39:ON 10B40:R 10D00:AL",
    "10D24:NSM 10D30:AN 10D4A:R 10D69:NSM 10D6E:ON 10D6F:R 10D8E:ON 10D90:R 10E60:AN 10E80:R",
    "10EAB:NSM 10EAD:R 10EC0:AL 10ED0:ON 10EFA:NSM 10F00:R 10F30:AL 10F46:NSM 10F51:AL 10F70:R",
    "10F82:NSM 10F86:R 11000:L 11001:NSM 11002:L 11038:NSM 11047:L 11052:ON 11066:L 11070:NSM 11071:L",
    "11073:NSM 11075:L 1107F:NSM 11082:L 110B3:NSM 110B7:L 110B9:NSM 110BB:L 110C2:NSM 110CD:L",
    "11100:NSM 11103:L 11127:NSM 1112C:L 1112D:NSM 11136:L 11173:NSM 11174:L 11180:NSM 11182:L",
    "111B6:NSM 111BF:L 111C9:NSM 111CD:L 111CF:NSM 111D0:L 1122F:NSM 11232:L 11234:NSM 11235:L",
    "11236:NSM 11238:L 1123E:NSM 1123F:L 11241:NSM 11250:L 112DF:NSM 112E0:L 112E3:NSM 112F0:L",
    "11300:NSM 11302:L 1133B:NSM 1133D:L 11340:NSM 11341:L 11366:NSM 11380:L 113BB:NSM 113C1:L",
    "113CE:NSM 113CF:L 113D0:NSM 113D1:L 113D2:NSM 113D3:L 113D4:ON 113D6:L 113D7:ON 113D9:L",
    "113E1:NSM 113E3:L 11438:NSM 11440:L 11442:NSM 11445:L 11446:NSM 11447:L 1145E:NSM 1145F:L",
    "114B3:NSM 114B9:L 114BA:NSM 114BB:L 114BF:NSM 114C1:L 114C2:NSM 114C4:L 115B2:NSM 115B8:L",
    "115BC:NSM 115BE:L 115BF:NSM 115C1:L 115DC:NSM 11600:L 11633:NSM 1163B:L 1163D:NSM 1163E:L",
    "1163F:NSM 11641:L 11660:ON 11680:L 116AB:NSM 116AC:L 116AD:NSM 116AE:L 116B0:NSM 116B6:L",
    "116B7:NSM 116B8:L 1171D:NSM 1171E:L 1171F:NSM 11720:L 11722:NSM 11726:L 11727:NSM 11730:L",
    "1182F:NSM 11838:L 11839:NSM 1183B:L 1193B:NSM 1193D:L 1193E:NSM 1193F:L 11943:NSM 11944:L",
    "119D4:NSM 119DC:L 119E0:NSM 119E1:L 11A01:NSM 11A07:L 11A09:NSM 11A0B:L 11A33:NSM 11A39:L",
    "11A3B:NSM 11A3F:L 11A47:NSM 11A50:L 11A51:NSM 11A57:L 11A59:NSM 11A5C:L 11A8A:NSM 11A97:L",
    "11A98:NSM 11A9A:L 11B60:NSM 11B61:L 11B62:NSM 11B65:L 11B66:NSM 11B67:L 11BE1:ON 11BE2:L",
    "11C30:NSM 11C3E:L 11C92:NSM 11CA9:L 11CAA:NSM 11CB1:L 11CB2:NSM 11CB4:L 11CB5:NSM 11CC0:L",
    "11D31:NSM 11D46:L 11D47:NSM 11D50:L 11D90:NSM 11D93:L 11D95:NSM 11D96:L 11D97:NSM 11D98:L",
    "11EF3:NSM 11EF5:L 11F00:NSM 11F02:L 11F36:NSM 11F3E:L 11F40:NSM 11F41:L 11F42:NSM 11F43:L",
    "11F5A:NSM 11F60:L 11FD5:ON 11FDD:ET 11FE1:ON 11FFF:L 13440:NSM 13441:L 13447:NSM 13460:L",
    "1611E:NSM 1612A:L 1612D:NSM 16130:L 16AF0:NSM 16AF5:L 16B30:NSM 16B37:L 16D6D:ON 16D70:L",
    "16F4F:NSM 16F50:L 16F8F:NSM 16F93:L 16FE2:ON 16FE3:L 16FE4:NSM 16FF0:L 1BC9D:NSM 1BC9F:L",
    "1BCA0:BN 1BCB0:L 1CC00:ON 1CCF0:L 1CCFA:ON 1CCFD:L 1CD00:ON 1CEB4:L 1CEBA:ON 1CED1:L 1CEE0:ON",
    "1CEF1:L 1CF00:NSM 1CF50:L 1D167:NSM 1D16A:L 1D173:BN 1D17B:NSM 1D183:L 1D185:NSM 1D18C:L",
    "1D1AA:NSM 1D1AE:L 1D1E9:ON 1D242:NSM 1D245:ON 1D250:L 1D300:ON 1D360:L 1D6DB:ON 1D6DC:L 1D715:ON",
    "1D716:L 1D74F:ON 1D750:L 1D789:ON 1D78A:L 1D7C3:ON 1D7C4:L 1D7CE:EN 1D800:L 1DA00:NSM 1DA37:L",
    "1DA3B:NSM 1DA6D:L 1DA75:NSM 1DA76:L 1DA84:NSM 1DA85:L 1DA9B:NSM 1DAB0:L 1E000:NSM 1E030:L",
    "1E08F:NSM 1E090:L 1E130:NSM 1E137:L 1E2AE:NSM 1E2C0:L 1E2EC:NSM 1E2F0:L 1E2FF:ET 1E300:L",
    "1E4EC:NSM 1E4F0:L 1E5EE:NSM 1E5F0:L 1E5FF:ON 1E600:L 1E6E3:NSM 1E6E4:L 1E6E6:NSM 1E6E7:L",
    "1E6EE:NSM 1E6F0:L 1E6F5:NSM 1E6F6:L 1E800:R 1E8D0:NSM 1E8E0:R 1E944:NSM 1E94B:R 1EC70:AL 1ECC0:R",
    "1ED00:AL 1ED50:R 1EE00:AL 1EEF0:ON 1EF00:R 1F000:ON 1F100:EN 1F10B:ON 1F110:L 1F12F:ON 1F130:L",
    "1F16A:ON 1F170:L 1F1AD:ON 1F1E6:L 1F260:ON 1FBF0:EN 1FBFA:ON 1FC00:L 1FFFE:BN 20000:L 2FFFE:BN",
    "30000:L 3FFFE:BN 40000:L 4FFFE:BN 50000:L 5FFFE:BN 60000:L 6FFFE:BN 70000:L 7FFFE:BN 80000:L",
    "8FFFE:BN 90000:L 9FFFE:BN A0000:L AFFFE:BN B0000:L BFFFE:BN C0000:L CFFFE:BN D0000:L DFFFE:BN",
    "E0100:NSM E01F0:BN E1000:L EFFFE:BN F0000:L FFFFE:BN 100000:L 10FFFE:BN"]

/-- A row of the bidirectional class table from its word. -/
def bidiClassRow? (w : List Char) : Option (Nat × BidiClass) :=
  let (start, rest) := leadingHex w
  (BidiClass.ofAbbreviation? (String.ofList (rest.drop 1))).map (start, ·)

/-- The bidirectional class table. -/
def bidiClassTable : CodePointTable BidiClass :=
  .ofRows ((tableWords bidiClassText).filterMap bidiClassRow?)

/-- The bidirectional class of a character. -/
def bidiClass (c : Char) : BidiClass := bidiClassTable.valueAt .leftToRight c.toNat

end SyslogRelay.Text
