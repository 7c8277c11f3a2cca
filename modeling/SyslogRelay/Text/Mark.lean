import SyslogRelay.Text.CodePointTable

namespace SyslogRelay.Text

/-- The ranges of marks, as words `start-end` in hexadecimal. -/
def markText : List String :=
  [
    "300-36F 483-489 591-5BD 5BF 5C1-5C2 5C4-5C5 5C7-5CF 610-61A 64B-65F 670 6D6-6DC 6DF-6E4 6E7-6E8",
    "6EA-6ED 711 730-74C 7A6-7B0 7EB-7F3 7FD 816-819 81B-823 825-827 829-82F 859-85D 897-89F 8CA-8E1",
    "8E3-903 93A-93C 93E-94F 951-957 962-963 981-984 9BC 9BE-9CD 9D7-9DB 9E2-9E5 9FE-9FF A01-A04",
    "A3C-A58 A70-A71 A75 A81-A84 ABC ABE-ACF AE2-AE5 AFA-AFF B01-B04 B3C B3E-B5B B62-B65 B82 BBE-BCF",
    "BD7-BE5 C00-C04 C3C C3E-C57 C62-C65 C81-C83 CBC CBE-CDB CE2-CE5 CF3-D03 D3B-D3C D3E-D4D D57",
    "D62-D65 D81-D84 DCA-DE5 DF2-DF3 E31 E34-E3E E47-E4E EB1 EB4-EBC EC8-ECF F18-F19 F35 F37 F39",
    "F3E-F3F F71-F84 F86-F87 F8D-FBD FC6 102B-103E 1056-1059 105E-1060 1062-1064 1067-106D 1071-1074",
    "1082-108D 108F 109A-109D 135D-135F 1712-171E 1732-1734 1752-175F 1772-177F 17B4-17D3 17DD-17DF",
    "180B-180D 180F 1885-1886 18A9 1920-193F 1A17-1A1D 1A55-1A7F 1AB0-1B04 1B34-1B44 1B6B-1B73",
    "1B80-1B82 1BA1-1BAD 1BE6-1BFB 1C24-1C3A 1CD0-1CD2 1CD4-1CE8 1CED 1CF4 1CF7-1CF9 1DC0-1DFF",
    "20D0-20FF 2CEF-2CF1 2D7F 2DE0-2DFF 302A-302F 3099-309A A66F-A672 A674-A67D A69E-A69F A6F0-A6F1",
    "A802 A806 A80B A823-A827 A82C-A82F A880-A881 A8B4-A8CD A8E0-A8F1 A8FF A926-A92D A947-A95E",
    "A980-A983 A9B3-A9C0 A9E5 AA29-AA3F AA43 AA4C-AA4F AA7B-AA7D AAB0 AAB2-AAB4 AAB7-AAB8 AABE-AABF",
    "AAC1 AAEB-AAEF AAF5-AAFF ABE3-ABEA ABEC-ABEF FB1E FE00-FE0F FE20-FE2F 101FD-101FF 102E0",
    "10376-1037F 10A01-10A0F 10A38-10A3F 10AE5-10AEA 10D24-10D2F 10D69-10D6D 10EAB-10EAC 10EFA-10EFF",
    "10F46-10F50 10F82-10F85 11000-11002 11038-11046 11070 11073-11074 1107F-11082 110B0-110BA",
    "110C2-110CC 11100-11102 11127-11135 11145-11146 11173 11180-11182 111B3-111C0 111C9-111CC",
    "111CE-111CF 1122C-11237 1123E 11241-1124F 112DF-112EF 11300-11304 1133B-1133C 1133E-1134F",
    "11357-1135C 11362-1137F 113B8-113C0 113C2 113C5 113C7-113CA 113CC-113D0 113D2 113E1-113E2",
    "11435-11446 1145E 114B0-114C3 115AF-115C0 115DC-115FF 11630-11640 116AB-116B7 1171D-1172F",
    "1182C-1183A 11930-1193E 11940 11942-11943 119D1-119E0 119E4-119FF 11A01-11A0A 11A33-11A39",
    "11A3B-11A3E 11A47-11A4F 11A51-11A5B 11A8A-11A99 11B60-11B67 11C2F-11C3F 11C92-11CBF 11D31-11D45",
    "11D47-11D4F 11D8A-11D97 11EF3-11EF6 11F00-11F01 11F03 11F34-11F42 11F5A-11F5F 13440 13447-1345F",
    "1611E-1612F 16AF0-16AF4 16B30-16B36 16F4F 16F51-16F92 16FE4-16FF1 1BC9D-1BC9E 1CF00-1CF4F",
    "1D165-1D169 1D16D-1D172 1D17B-1D182 1D185-1D18B 1D1AA-1D1AD 1D242-1D244 1DA00-1DA36 1DA3B-1DA6C",
    "1DA75 1DA84 1DA9B-1DAAF 1E000-1E02F 1E08F 1E130-1E136 1E2AE-1E2BF 1E2EC-1E2EF 1E4EC-1E4EF",
    "1E5EE-1E5EF 1E6E3 1E6E6 1E6EE-1E6EF 1E6F5 1E8D0-1E8DF 1E944-1E94A E0100-E01EF"]

/-- The marks as a table. -/
def markTable : CodePointTable Bool := .ofRanges (rangeWords markText)

/-- Whether a character is a combining mark. -/
def isMark (c : Char) : Bool := markTable.valueAt false c.toNat

end SyslogRelay.Text
