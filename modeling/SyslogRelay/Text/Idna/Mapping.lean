import SyslogRelay.Text.CodePointTable

namespace SyslogRelay.Text.Idna

/-- What the mapping table says about a code point. -/
inductive Status
  | valid
  | ignored
  | mapped (replacement : List Char)
  | deviation
  | disallowed
  deriving DecidableEq, Repr

/-- A row of the mapping table, for the code points from its start to the next
row's. -/
inductive MappingRow
  /-- Every code point of the row has this status. -/
  | uniform (status : Status)
  /-- The code point `k` places after the start maps to `target + k`. -/
  | shifted (target : Nat)
  /-- Code points an even number of places after the start map to the next
  code point; the others are valid. -/
  | alternating
  deriving DecidableEq, Repr

/-- The rows of the mapping table. -/
def mappingText : List String :=
  [
    "0V 41R61 5BV 80X A0M20 A1V A8M20,308 A9V AAM61 ABV ADI AEV AFM20,304 B0V B2R32 B4M20,301 B5M3BC",
    "B6V B8M20,327 B9M31 BAM6F BBV BCM31,2044,34 BDM31,2044,32 BEM33,2044,34 BFV C0RE0 D7V D8RF8 DFT",
    "E0V 100P 130M69,307 131V 132M69,6A 133M69,6A 134M135 135V 136M137 137V 139P 13FM6C,B7 140M6C,B7",
    "141P 149M2BC,6E 14AP 178MFF 179P 17FM73 180V 181M253 182P 186M254 187M188 188V 189R256 18BM18C",
    "18CV 18EM1DD 18FM259 190M25B 191M192 192V 193M260 194M263 195V 196M269 197M268 198M199 199V",
    "19CM26F 19DM272 19EV 19FM275 1A0P 1A6M280 1A7M1A8 1A8V 1A9M283 1AAV 1ACM1AD 1ADV 1AEM288 1AFM1B0",
    "1B0V 1B1R28A 1B3P 1B7M292 1B8M1B9 1B9V 1BCM1BD 1BDV 1C4M64,17E 1C5M64,17E 1C6M64,17E 1C7M6C,6A",
    "1C8M6C,6A 1C9M6C,6A 1CAM6E,6A 1CBM6E,6A 1CCM6E,6A 1CDP 1DBM1DC 1DCV 1DEP 1EEM1EF 1EFV 1F1M64,7A",
    "1F2M64,7A 1F3M64,7A 1F4M1F5 1F5V 1F6M195 1F7M1BF 1F8P 220M19E 221V 222P 232M233 233V 23AM2C65",
    "23BM23C 23CV 23DM19A 23EM2C66 23FV 241M242 242V 243M180 244M289 245M28C 246P 24EM24F 24FV 2B0M68",
    "2B1M266 2B2M6A 2B3M72 2B4M279 2B5M27B 2B6M281 2B7M77 2B8M79 2B9V 2D8M20,306 2D9M20,307",
    "2DAM20,30A 2DBM20,328 2DCM20,303 2DDM20,30B 2DEV 2E0M263 2E1M6C 2E2M73 2E3M78 2E4M295 2E5V",
    "340R300 342V 343M313 344M308,301 345M3B9 346V 34FI 350V 370P 374M2B9 375V 376M377 377V",
    "37AM20,3B9 37BV 37EM3B 37FM3F3 380V 384M20,301 385M20,308,301 386M3AC 387MB7 388R3AD 38BV",
    "38CM3CC 38DV 38ER3CD 390V 391R3B1 3A2V 3A3R3C3 3ACV 3C2T 3C3V 3CFM3D7 3D0M3B2 3D1M3B8 3D2M3C5",
    "3D3M3CD 3D4M3CB 3D5M3C6 3D6M3C0 3D7V 3D8P 3F0M3BA 3F1M3C1 3F2M3C3 3F3V 3F4M3B8 3F5M3B5 3F6V",
    "3F7M3F8 3F8V 3F9M3C3 3FAM3FB 3FBV 3FDR37B 400R450 410R430 430V 460P 480M481 481V 48AP 4C0M4CF",
    "4C1P 4CDM4CE 4CEV 4D0P 52EM52F 52FV 531R561 557V 587M565,582 588V 600X 606V 61CX 61DV",
    "675M627,674 676M648,674 677M6C7,674 678M64A,674 679V 6DDX 6DEV 70FX 710V 890X 892V 8E2X 8E3V",
    "958M915,93C 959M916,93C 95AM917,93C 95BM91C,93C 95CM921,93C 95DM922,93C 95EM92B,93C 95FM92F,93C",
    "960V 9DCM9A1,9BC 9DDM9A2,9BC 9DEV 9DFM9AF,9BC 9E0V A33MA32,A3C A34V A36MA38,A3C A37V A59MA16,A3C",
    "A5AMA17,A3C A5BMA1C,A3C A5CV A5EMA2B,A3C A5FV B5CMB21,B3C B5DMB22,B3C B5EV E33ME4D,E32 E34V",
    "EB3MECD,EB2 EB4V EDCMEAB,E99 EDDMEAB,EA1 EDEV F0CMF0B F0DV F43MF42,FB7 F44V F4DMF4C,FB7 F4EV",
    "F52MF51,FB7 F53V F57MF56,FB7 F58V F5CMF5B,FB7 F5DV F69MF40,FB5 F6AV F73MF71,F72 F74V F75MF71,F74",
    "F76MFB2,F80 F77MFB2,F71,F80 F78MFB3,F80 F79MFB3,F71,F80 F7AV F81MF71,F80 F82V F93MF92,FB7 F94V",
    "F9DMF9C,FB7 F9EV FA2MFA1,FB7 FA3V FA7MFA6,FB7 FA8V FACMFAB,FB7 FADV FB9MF90,FB5 FBAV 10A0R2D00",
    "10C6V 10C7M2D27 10C8V 10CDM2D2D 10CEV 10FCM10DC 10FDV 115FI 1161V 13F8R13F0 13FEV 1680X 1681V",
    "17B4I 17B6V 180BI 1810V 1C80M432 1C81M434 1C82M43E 1C83R441 1C85M442 1C86M44A 1C87M463 1C88MA64B",
    "1C89M1C8A 1C8AV 1C90R10D0 1CBBV 1CBDR10FD 1CC0V 1D2CM61 1D2DME6 1D2EM62 1D2FV 1D30R64 1D32M1DD",
    "1D33R67 1D3BV 1D3CM6F 1D3DM223 1D3EM70 1D3FM72 1D40R74 1D42M77 1D43M61 1D44R250 1D46M1D02",
    "1D47M62 1D48R64 1D4AM259 1D4BR25B 1D4DM67 1D4EV 1D4FM6B 1D50M6D 1D51M14B 1D52M6F 1D53M254",
    "1D54R1D16 1D56M70 1D57R74 1D59M1D1D 1D5AM26F 1D5BM76 1D5CM1D25 1D5DR3B2 1D60R3C6 1D62M69 1D63M72",
    "1D64R75 1D66R3B2 1D68M3C1 1D69R3C6 1D6BV 1D78M43D 1D79V 1D9BM252 1D9CM63 1D9DM255 1D9EMF0",
    "1D9FM25C 1DA0M66 1DA1M25F 1DA2M261 1DA3M265 1DA4R268 1DA7M1D7B 1DA8M29D 1DA9M26D 1DAAM1D85",
    "1DABM29F 1DACM271 1DADM270 1DAER272 1DB2M278 1DB3R282 1DB5M1AB 1DB6R289 1DB8M1D1C 1DB9R28B",
    "1DBBM7A 1DBCR290 1DBFM3B8 1DC0V 1E00P 1E94M1E95 1E95V 1E9AM61,2BE 1E9BM1E61 1E9CV 1E9EMDF 1E9FV",
    "1EA0P 1EFEM1EFF 1EFFV 1F08R1F00 1F10V 1F18R1F10 1F1EV 1F28R1F20 1F30V 1F38R1F30 1F40V 1F48R1F40",
    "1F4EV 1F59M1F51 1F5AV 1F5BM1F53 1F5CV 1F5DM1F55 1F5EV 1F5FM1F57 1F60V 1F68R1F60 1F70V 1F71M3AC",
    "1F72V 1F73M3AD 1F74V 1F75M3AE 1F76V 1F77M3AF 1F78V 1F79M3CC 1F7AV 1F7BM3CD 1F7CV 1F7DM3CE 1F7EV",
    "1F80M1F00,3B9 1F81M1F01,3B9 1F82M1F02,3B9 1F83M1F03,3B9 1F84M1F04,3B9 1F85M1F05,3B9",
    "1F86M1F06,3B9 1F87M1F07,3B9 1F88M1F00,3B9 1F89M1F01,3B9 1F8AM1F02,3B9 1F8BM1F03,3B9",
    "1F8CM1F04,3B9 1F8DM1F05,3B9 1F8EM1F06,3B9 1F8FM1F07,3B9 1F90M1F20,3B9 1F91M1F21,3B9",
    "1F92M1F22,3B9 1F93M1F23,3B9 1F94M1F24,3B9 1F95M1F25,3B9 1F96M1F26,3B9 1F97M1F27,3B9",
    "1F98M1F20,3B9 1F99M1F21,3B9 1F9AM1F22,3B9 1F9BM1F23,3B9 1F9CM1F24,3B9 1F9DM1F25,3B9",
    "1F9EM1F26,3B9 1F9FM1F27,3B9 1FA0M1F60,3B9 1FA1M1F61,3B9 1FA2M1F62,3B9 1FA3M1F63,3B9",
    "1FA4M1F64,3B9 1FA5M1F65,3B9 1FA6M1F66,3B9 1FA7M1F67,3B9 1FA8M1F60,3B9 1FA9M1F61,3B9",
    "1FAAM1F62,3B9 1FABM1F63,3B9 1FACM1F64,3B9 1FADM1F65,3B9 1FAEM1F66,3B9 1FAFM1F67,3B9 1FB0V",
    "1FB2M1F70,3B9 1FB3M3B1,3B9 1FB4M3AC,3B9 1FB5V 1FB7M1FB6,3B9 1FB8R1FB0 1FBAM1F70 1FBBM3AC",
    "1FBCM3B1,3B9 1FBDM20,313 1FBEM3B9 1FBFM20,313 1FC0M20,342 1FC1M20,308,342 1FC2M1F74,3B9",
    "1FC3M3B7,3B9 1FC4M3AE,3B9 1FC5V 1FC7M1FC6,3B9 1FC8M1F72 1FC9M3AD 1FCAM1F74 1FCBM3AE 1FCCM3B7,3B9",
    "1FCDM20,313,300 1FCEM20,313,301 1FCFM20,313,342 1FD0V 1FD3M390 1FD4V 1FD8R1FD0 1FDAM1F76",
    "1FDBM3AF 1FDCV 1FDDM20,314,300 1FDEM20,314,301 1FDFM20,314,342 1FE0V 1FE3M3B0 1FE4V 1FE8R1FE0",
    "1FEAM1F7A 1FEBM3CD 1FECM1FE5 1FEDM20,308,300 1FEEM20,308,301 1FEFM60 1FF0V 1FF2M1F7C,3B9",
    "1FF3M3C9,3B9 1FF4M3CE,3B9 1FF5V 1FF7M1FF6,3B9 1FF8M1F78 1FF9M3CC 1FFAM1F7C 1FFBM3CE 1FFCM3C9,3B9",
    "1FFDM20,301 1FFEM20,314 1FFFV 2000M20 2001M20 2002M20 2003M20 2004M20 2005M20 2006M20 2007M20",
    "2008M20 2009M20 200AM20 200BI 200CT 200EX 2010V 2011M2010 2012V 2017M20,333 2018V 2024X 2027V",
    "2028X 202FM20 2030V 2033M2032,2032 2034M2032,2032,2032 2035V 2036M2035,2035 2037M2035,2035,2035",
    "2038V 203CM21,21 203DV 203EM20,305 203FV 2047M3F,3F 2048M3F,21 2049M21,3F 204AV",
    "2057M2032,2032,2032,2032 2058V 205FM20 2060I 2065V 2066X 206AI 2070M30 2071M69 2072V 2074R34",
    "207AM2B 207BM2212 207CM3D 207DR28 207FM6E 2080R30 208AM2B 208BM2212 208CM3D 208DR28 208FV",
    "2090M61 2091M65 2092M6F 2093M78 2094M259 2095M68 2096R6B 209AM70 209BR73 209DM209D 209EV",
    "20A8M72,73 20A9V 2100M61,2F,63 2101M61,2F,73 2102M63 2103MB0,63 2104V 2105M63,2F,6F",
    "2106M63,2F,75 2107M25B 2108V 2109MB0,66 210AR67 210CM68 210DM68 210EM68 210FM127 2110M69 2111M69",
    "2112M6C 2113M6C 2114V 2115M6E 2116M6E,6F 2117V 2119R70 211CM72 211DM72 211EV 2120M73,6D",
    "2121M74,65,6C 2122M74,6D 2123V 2124M7A 2125V 2126M3C9 2127V 2128M7A 2129V 212AM6B 212BME5",
    "212CR62 212EV 212FM65 2130R65 2132M214E 2133M6D 2134M6F 2135R5D0 2139M69 213AV 213BM66,61,78",
    "213CM3C0 213DM3B3 213EM3B3 213FM3C0 2140M2211 2141V 2145M64 2146R64 2148R69 214AV",
    "2150M31,2044,37 2151M31,2044,39 2152M31,2044,31,30 2153M31,2044,33 2154M32,2044,33",
    "2155M31,2044,35 2156M32,2044,35 2157M33,2044,35 2158M34,2044,35 2159M31,2044,36 215AM35,2044,36",
    "215BM31,2044,38 215CM33,2044,38 215DM35,2044,38 215EM37,2044,38 215FM31,2044 2160M69 2161M69,69",
    "2162M69,69,69 2163M69,76 2164M76 2165M76,69 2166M76,69,69 2167M76,69,69,69 2168M69,78 2169M78",
    "216AM78,69 216BM78,69,69 216CM6C 216DR63 216FM6D 2170M69 2171M69,69 2172M69,69,69 2173M69,76",
    "2174M76 2175M76,69 2176M76,69,69 2177M76,69,69,69 2178M69,78 2179M78 217AM78,69 217BM78,69,69",
    "217CM6C 217DR63 217FM6D 2180V 2183M2184 2184V 2189M30,2044,33 218AV 222CM222B,222B",
    "222DM222B,222B,222B 222EV 222FM222E,222E 2230M222E,222E,222E 2231V 2329R3008 232BV 2460R31",
    "2469M31,30 246AM31,31 246BM31,32 246CM31,33 246DM31,34 246EM31,35 246FM31,36 2470M31,37",
    "2471M31,38 2472M31,39 2473M32,30 2474M28,31,29 2475M28,32,29 2476M28,33,29 2477M28,34,29",
    "2478M28,35,29 2479M28,36,29 247AM28,37,29 247BM28,38,29 247CM28,39,29 247DM28,31,30,29",
    "247EM28,31,31,29 247FM28,31,32,29 2480M28,31,33,29 2481M28,31,34,29 2482M28,31,35,29",
    "2483M28,31,36,29 2484M28,31,37,29 2485M28,31,38,29 2486M28,31,39,29 2487M28,32,30,29 2488X",
    "249CM28,61,29 249DM28,62,29 249EM28,63,29 249FM28,64,29 24A0M28,65,29 24A1M28,66,29",
    "24A2M28,67,29 24A3M28,68,29 24A4M28,69,29 24A5M28,6A,29 24A6M28,6B,29 24A7M28,6C,29",
    "24A8M28,6D,29 24A9M28,6E,29 24AAM28,6F,29 24ABM28,70,29 24ACM28,71,29 24ADM28,72,29",
    "24AEM28,73,29 24AFM28,74,29 24B0M28,75,29 24B1M28,76,29 24B2M28,77,29 24B3M28,78,29",
    "24B4M28,79,29 24B5M28,7A,29 24B6R61 24D0R61 24EAM30 24EBV 2A0CM222B,222B,222B,222B 2A0DV",
    "2A74M3A,3A,3D 2A75M3D,3D 2A76M3D,3D,3D 2A77V 2ADCM2ADD,338 2ADDV 2C00R2C30 2C30V 2C60M2C61 2C61V",
    "2C62M26B 2C63M1D7D 2C64M27D 2C65V 2C67P 2C6DM251 2C6EM271 2C6FM250 2C70M252 2C71V 2C72M2C73",
    "2C73V 2C75M2C76 2C76V 2C7CM6A 2C7DM76 2C7ER23F 2C80P 2CE2M2CE3 2CE3V 2CEBM2CEC 2CECV 2CEDM2CEE",
    "2CEEV 2CF2M2CF3 2CF3V 2D6FM2D61 2D70V 2E9FM6BCD 2EA0V 2EF3M9F9F 2EF4V 2F00M4E00 2F01M4E28",
    "2F02M4E36 2F03M4E3F 2F04M4E59 2F05M4E85 2F06M4E8C 2F07M4EA0 2F08M4EBA 2F09M513F 2F0AM5165",
    "2F0BM516B 2F0CM5182 2F0DM5196 2F0EM51AB 2F0FM51E0 2F10M51F5 2F11M5200 2F12M529B 2F13M52F9",
    "2F14M5315 2F15M531A 2F16M5338 2F17M5341 2F18M535C 2F19M5369 2F1AM5382 2F1BM53B6 2F1CM53C8",
    "2F1DM53E3 2F1EM56D7 2F1FM571F 2F20M58EB 2F21M5902 2F22M590A 2F23M5915 2F24M5927 2F25M5973",
    "2F26M5B50 2F27M5B80 2F28M5BF8 2F29M5C0F 2F2AM5C22 2F2BM5C38 2F2CM5C6E 2F2DM5C71 2F2EM5DDB",
    "2F2FM5DE5 2F30M5DF1 2F31M5DFE 2F32M5E72 2F33M5E7A 2F34M5E7F 2F35M5EF4 2F36M5EFE 2F37M5F0B",
    "2F38M5F13 2F39M5F50 2F3AM5F61 2F3BM5F73 2F3CM5FC3 2F3DM6208 2F3EM6236 2F3FM624B 2F40M652F",
    "2F41M6534 2F42M6587 2F43M6597 2F44M65A4 2F45M65B9 2F46M65E0 2F47M65E5 2F48M66F0 2F49M6708",
    "2F4AM6728 2F4BM6B20 2F4CM6B62 2F4DM6B79 2F4EM6BB3 2F4FM6BCB 2F50M6BD4 2F51M6BDB 2F52M6C0F",
    "2F53M6C14 2F54M6C34 2F55M706B 2F56M722A 2F57M7236 2F58M723B 2F59M723F 2F5AM7247 2F5BM7259",
    "2F5CM725B 2F5DM72AC 2F5EM7384 2F5FM7389 2F60M74DC 2F61M74E6 2F62M7518 2F63M751F 2F64M7528",
    "2F65M7530 2F66M758B 2F67M7592 2F68M7676 2F69M767D 2F6AM76AE 2F6BM76BF 2F6CM76EE 2F6DM77DB",
    "2F6EM77E2 2F6FM77F3 2F70M793A 2F71M79B8 2F72M79BE 2F73M7A74 2F74M7ACB 2F75M7AF9 2F76M7C73",
    "2F77M7CF8 2F78M7F36 2F79M7F51 2F7AM7F8A 2F7BM7FBD 2F7CM8001 2F7DM800C 2F7EM8012 2F7FM8033",
    "2F80M807F 2F81M8089 2F82M81E3 2F83M81EA 2F84M81F3 2F85M81FC 2F86M820C 2F87M821B 2F88M821F",
    "2F89M826E 2F8AM8272 2F8BM8278 2F8CM864D 2F8DM866B 2F8EM8840 2F8FM884C 2F90M8863 2F91M897E",
    "2F92M898B 2F93M89D2 2F94M8A00 2F95M8C37 2F96M8C46 2F97M8C55 2F98M8C78 2F99M8C9D 2F9AM8D64",
    "2F9BM8D70 2F9CM8DB3 2F9DM8EAB 2F9EM8ECA 2F9FM8F9B 2FA0M8FB0 2FA1M8FB5 2FA2M9091 2FA3M9149",
    "2FA4M91C6 2FA5M91CC 2FA6M91D1 2FA7M9577 2FA8M9580 2FA9M961C 2FAAM96B6 2FABM96B9 2FACM96E8",
    "2FADM9751 2FAEM975E 2FAFM9762 2FB0M9769 2FB1M97CB 2FB2M97ED 2FB3M97F3 2FB4M9801 2FB5M98A8",
    "2FB6M98DB 2FB7M98DF 2FB8M9996 2FB9M9999 2FBAM99AC 2FBBM9AA8 2FBCM9AD8 2FBDM9ADF 2FBEM9B25",
    "2FBFM9B2F 2FC0M9B32 2FC1M9B3C 2FC2M9B5A 2FC3M9CE5 2FC4M9E75 2FC5M9E7F 2FC6M9EA5 2FC7M9EBB",
    "2FC8M9EC3 2FC9M9ECD 2FCAM9ED1 2FCBM9EF9 2FCCM9EFD 2FCDM9F0E 2FCEM9F13 2FCFM9F20 2FD0M9F3B",
    "2FD1M9F4A 2FD2M9F52 2FD3M9F8D 2FD4M9F9C 2FD5M9FA0 2FD6V 2FF0X 3000M20 3001V 3002M2E 3003V",
    "3036M3012 3037V 3038M5341 3039R5344 303BV 309BM20,3099 309CM20,309A 309DV 309FM3088,308A 30A0V",
    "30FFM30B3,30C8 3100V 3131R1100 3133M11AA 3134M1102 3135R11AC 3137R1103 313AR11B0 3140M111A",
    "3141R1106 3144M1121 3145R1109 314FR1161 3164I 3165R1114 3167R11C7 3169M11CC 316AM11CE 316BM11D3",
    "316CM11D7 316DM11D9 316EM111C 316FM11DD 3170M11DF 3171R111D 3173M1120 3174R1122 3176M1127",
    "3177M1129 3178R112B 317DM1132 317EM1136 317FM1140 3180M1147 3181M114C 3182R11F1 3184R1157",
    "3187R1184 3189M1188 318AR1191 318CM1194 318DM119E 318EM11A1 318FV 3192M4E00 3193M4E8C 3194M4E09",
    "3195M56DB 3196M4E0A 3197M4E2D 3198M4E0B 3199M7532 319AM4E59 319BM4E19 319CM4E01 319DM5929",
    "319EM5730 319FM4EBA 31A0V 31EFX 31F0V 3200M28,1100,29 3201M28,1102,29 3202M28,1103,29",
    "3203M28,1105,29 3204M28,1106,29 3205M28,1107,29 3206M28,1109,29 3207M28,110B,29 3208M28,110C,29",
    "3209M28,110E,29 320AM28,110F,29 320BM28,1110,29 320CM28,1111,29 320DM28,1112,29 320EM28,AC00,29",
    "320FM28,B098,29 3210M28,B2E4,29 3211M28,B77C,29 3212M28,B9C8,29 3213M28,BC14,29 3214M28,C0AC,29",
    "3215M28,C544,29 3216M28,C790,29 3217M28,CC28,29 3218M28,CE74,29 3219M28,D0C0,29 321AM28,D30C,29",
    "321BM28,D558,29 321CM28,C8FC,29 321DM28,C624,C804,29 321EM28,C624,D6C4,29 321FV 3220M28,4E00,29",
    "3221M28,4E8C,29 3222M28,4E09,29 3223M28,56DB,29 3224M28,4E94,29 3225M28,516D,29 3226M28,4E03,29",
    "3227M28,516B,29 3228M28,4E5D,29 3229M28,5341,29 322AM28,6708,29 322BM28,706B,29 322CM28,6C34,29",
    "322DM28,6728,29 322EM28,91D1,29 322FM28,571F,29 3230M28,65E5,29 3231M28,682A,29 3232M28,6709,29",
    "3233M28,793E,29 3234M28,540D,29 3235M28,7279,29 3236M28,8CA1,29 3237M28,795D,29 3238M28,52B4,29",
    "3239M28,4EE3,29 323AM28,547C,29 323BM28,5B66,29 323CM28,76E3,29 323DM28,4F01,29 323EM28,8CC7,29",
    "323FM28,5354,29 3240M28,796D,29 3241M28,4F11,29 3242M28,81EA,29 3243M28,81F3,29 3244M554F",
    "3245M5E7C 3246M6587 3247M7B8F 3248V 3250M70,74,65 3251M32,31 3252M32,32 3253M32,33 3254M32,34",
    "3255M32,35 3256M32,36 3257M32,37 3258M32,38 3259M32,39 325AM33,30 325BM33,31 325CM33,32",
    "325DM33,33 325EM33,34 325FM33,35 3260M1100 3261R1102 3263R1105 3266M1109 3267R110B 3269R110E",
    "326EMAC00 326FMB098 3270MB2E4 3271MB77C 3272MB9C8 3273MBC14 3274MC0AC 3275MC544 3276MC790",
    "3277MCC28 3278MCE74 3279MD0C0 327AMD30C 327BMD558 327CMCC38,ACE0 327DMC8FC,C758 327EMC6B0 327FV",
    "3280M4E00 3281M4E8C 3282M4E09 3283M56DB 3284M4E94 3285M516D 3286M4E03 3287M516B 3288M4E5D",
    "3289M5341 328AM6708 328BM706B 328CM6C34 328DM6728 328EM91D1 328FM571F 3290M65E5 3291M682A",
    "3292M6709 3293M793E 3294M540D 3295M7279 3296M8CA1 3297M795D 3298M52B4 3299M79D8 329AM7537",
    "329BM5973 329CM9069 329DM512A 329EM5370 329FM6CE8 32A0M9805 32A1M4F11 32A2M5199 32A3M6B63",
    "32A4M4E0A 32A5M4E2D 32A6M4E0B 32A7M5DE6 32A8M53F3 32A9M533B 32AAM5B97 32ABM5B66 32ACM76E3",
    "32ADM4F01 32AEM8CC7 32AFM5354 32B0M591C 32B1M33,36 32B2M33,37 32B3M33,38 32B4M33,39 32B5M34,30",
    "32B6M34,31 32B7M34,32 32B8M34,33 32B9M34,34 32BAM34,35 32BBM34,36 32BCM34,37 32BDM34,38",
    "32BEM34,39 32BFM35,30 32C0M31,6708 32C1M32,6708 32C2M33,6708 32C3M34,6708 32C4M35,6708",
    "32C5M36,6708 32C6M37,6708 32C7M38,6708 32C8M39,6708 32C9M31,30,6708 32CAM31,31,6708",
    "32CBM31,32,6708 32CCM68,67 32CDM65,72,67 32CEM65,76 32CFM6C,74,64 32D0M30A2 32D1M30A4 32D2M30A6",
    "32D3M30A8 32D4R30AA 32D6M30AD 32D7M30AF 32D8M30B1 32D9M30B3 32DAM30B5 32DBM30B7 32DCM30B9",
    "32DDM30BB 32DEM30BD 32DFM30BF 32E0M30C1 32E1M30C4 32E2M30C6 32E3M30C8 32E4R30CA 32EAM30D2",
    "32EBM30D5 32ECM30D8 32EDM30DB 32EER30DE 32F3M30E4 32F4M30E6 32F5R30E8 32FBR30EF 32FFM4EE4,548C",
    "3300M30A2,30D1,30FC,30C8 3301M30A2,30EB,30D5,30A1 3302M30A2,30F3,30DA,30A2 3303M30A2,30FC,30EB",
    "3304M30A4,30CB,30F3,30B0 3305M30A4,30F3,30C1 3306M30A6,30A9,30F3 3307M30A8,30B9,30AF,30FC,30C9",
    "3308M30A8,30FC,30AB,30FC 3309M30AA,30F3,30B9 330AM30AA,30FC,30E0 330BM30AB,30A4,30EA",
    "330CM30AB,30E9,30C3,30C8 330DM30AB,30ED,30EA,30FC 330EM30AC,30ED,30F3 330FM30AC,30F3,30DE",
    "3310M30AE,30AC 3311M30AE,30CB,30FC 3312M30AD,30E5,30EA,30FC 3313M30AE,30EB,30C0,30FC",
    "3314M30AD,30ED 3315M30AD,30ED,30B0,30E9,30E0 3316M30AD,30ED,30E1,30FC,30C8,30EB",
    "3317M30AD,30ED,30EF,30C3,30C8 3318M30B0,30E9,30E0 3319M30B0,30E9,30E0,30C8,30F3",
    "331AM30AF,30EB,30BC,30A4,30ED 331BM30AF,30ED,30FC,30CD 331CM30B1,30FC,30B9 331DM30B3,30EB,30CA",
    "331EM30B3,30FC,30DD 331FM30B5,30A4,30AF,30EB 3320M30B5,30F3,30C1,30FC,30E0",
    "3321M30B7,30EA,30F3,30B0 3322M30BB,30F3,30C1 3323M30BB,30F3,30C8 3324M30C0,30FC,30B9",
    "3325M30C7,30B7 3326M30C9,30EB 3327M30C8,30F3 3328M30CA,30CE 3329M30CE,30C3,30C8",
    "332AM30CF,30A4,30C4 332BM30D1,30FC,30BB,30F3,30C8 332CM30D1,30FC,30C4 332DM30D0,30FC,30EC,30EB",
    "332EM30D4,30A2,30B9,30C8,30EB 332FM30D4,30AF,30EB 3330M30D4,30B3 3331M30D3,30EB",
    "3332M30D5,30A1,30E9,30C3,30C9 3333M30D5,30A3,30FC,30C8 3334M30D6,30C3,30B7,30A7,30EB",
    "3335M30D5,30E9,30F3 3336M30D8,30AF,30BF,30FC,30EB 3337M30DA,30BD 3338M30DA,30CB,30D2",
    "3339M30D8,30EB,30C4 333AM30DA,30F3,30B9 333BM30DA,30FC,30B8 333CM30D9,30FC,30BF",
    "333DM30DD,30A4,30F3,30C8 333EM30DC,30EB,30C8 333FM30DB,30F3 3340M30DD,30F3,30C9",
    "3341M30DB,30FC,30EB 3342M30DB,30FC,30F3 3343M30DE,30A4,30AF,30ED 3344M30DE,30A4,30EB",
    "3345M30DE,30C3,30CF 3346M30DE,30EB,30AF 3347M30DE,30F3,30B7,30E7,30F3 3348M30DF,30AF,30ED,30F3",
    "3349M30DF,30EA 334AM30DF,30EA,30D0,30FC,30EB 334BM30E1,30AC 334CM30E1,30AC,30C8,30F3",
    "334DM30E1,30FC,30C8,30EB 334EM30E4,30FC,30C9 334FM30E4,30FC,30EB 3350M30E6,30A2,30F3",
    "3351M30EA,30C3,30C8,30EB 3352M30EA,30E9 3353M30EB,30D4,30FC 3354M30EB,30FC,30D6,30EB",
    "3355M30EC,30E0 3356M30EC,30F3,30C8,30B2,30F3 3357M30EF,30C3,30C8 3358M30,70B9 3359M31,70B9",
    "335AM32,70B9 335BM33,70B9 335CM34,70B9 335DM35,70B9 335EM36,70B9 335FM37,70B9 3360M38,70B9",
    "3361M39,70B9 3362M31,30,70B9 3363M31,31,70B9 3364M31,32,70B9 3365M31,33,70B9 3366M31,34,70B9",
    "3367M31,35,70B9 3368M31,36,70B9 3369M31,37,70B9 336AM31,38,70B9 336BM31,39,70B9 336CM32,30,70B9",
    "336DM32,31,70B9 336EM32,32,70B9 336FM32,33,70B9 3370M32,34,70B9 3371M68,70,61 3372M64,61",
    "3373M61,75 3374M62,61,72 3375M6F,76 3376M70,63 3377M64,6D 3378M64,6D,32 3379M64,6D,33 337AM69,75",
    "337BM5E73,6210 337CM662D,548C 337DM5927,6B63 337EM660E,6CBB 337FM682A,5F0F,4F1A,793E 3380M70,61",
    "3381M6E,61 3382M3BC,61 3383M6D,61 3384M6B,61 3385M6B,62 3386M6D,62 3387M67,62 3388M63,61,6C",
    "3389M6B,63,61,6C 338AM70,66 338BM6E,66 338CM3BC,66 338DM3BC,67 338EM6D,67 338FM6B,67 3390M68,7A",
    "3391M6B,68,7A 3392M6D,68,7A 3393M67,68,7A 3394M74,68,7A 3395M3BC,6C 3396M6D,6C 3397M64,6C",
    "3398M6B,6C 3399M66,6D 339AM6E,6D 339BM3BC,6D 339CM6D,6D 339DM63,6D 339EM6B,6D 339FM6D,6D,32",
    "33A0M63,6D,32 33A1M6D,32 33A2M6B,6D,32 33A3M6D,6D,33 33A4M63,6D,33 33A5M6D,33 33A6M6B,6D,33",
    "33A7M6D,2215,73 33A8M6D,2215,73,32 33A9M70,61 33AAM6B,70,61 33ABM6D,70,61 33ACM67,70,61",
    "33ADM72,61,64 33AEM72,61,64,2215,73 33AFM72,61,64,2215,73,32 33B0M70,73 33B1M6E,73 33B2M3BC,73",
    "33B3M6D,73 33B4M70,76 33B5M6E,76 33B6M3BC,76 33B7M6D,76 33B8M6B,76 33B9M6D,76 33BAM70,77",
    "33BBM6E,77 33BCM3BC,77 33BDM6D,77 33BEM6B,77 33BFM6D,77 33C0M6B,3C9 33C1M6D,3C9 33C2X 33C3M62,71",
    "33C4M63,63 33C5M63,64 33C6M63,2215,6B,67 33C7X 33C8M64,62 33C9M67,79 33CAM68,61 33CBM68,70",
    "33CCM69,6E 33CDM6B,6B 33CEM6B,6D 33CFM6B,74 33D0M6C,6D 33D1M6C,6E 33D2M6C,6F,67 33D3M6C,78",
    "33D4M6D,62 33D5M6D,69,6C 33D6M6D,6F,6C 33D7M70,68 33D8X 33D9M70,70,6D 33DAM70,72 33DBM73,72",
    "33DCM73,76 33DDM77,62 33DEM76,2215,6D 33DFM61,2215,6D 33E0M31,65E5 33E1M32,65E5 33E2M33,65E5",
    "33E3M34,65E5 33E4M35,65E5 33E5M36,65E5 33E6M37,65E5 33E7M38,65E5 33E8M39,65E5 33E9M31,30,65E5",
    "33EAM31,31,65E5 33EBM31,32,65E5 33ECM31,33,65E5 33EDM31,34,65E5 33EEM31,35,65E5 33EFM31,36,65E5",
    "33F0M31,37,65E5 33F1M31,38,65E5 33F2M31,39,65E5 33F3M32,30,65E5 33F4M32,31,65E5 33F5M32,32,65E5",
    "33F6M32,33,65E5 33F7M32,34,65E5 33F8M32,35,65E5 33F9M32,36,65E5 33FAM32,37,65E5 33FBM32,38,65E5",
    "33FCM32,39,65E5 33FDM33,30,65E5 33FEM33,31,65E5 33FFM67,61,6C 3400V A640P A66CMA66D A66DV A680P",
    "A69CM44A A69DM44C A69EV A722P A72EMA72F A72FV A732P A770MA76F A771V A779P A77DM1D79 A77EP",
    "A786MA787 A787V A78BMA78C A78CV A78DM265 A78EV A790MA791 A791V A792MA793 A793V A796P A7AAM266",
    "A7ABM25C A7ACM261 A7ADM26C A7AEM26A A7AFV A7B0M29E A7B1M287 A7B2M29D A7B3MAB53 A7B4P A7C4MA794",
    "A7C5M282 A7C6M1D8E A7C7P A7CBM264 A7CCP A7DCM19B A7DDMA7DD A7DEV A7F1M73 A7F2M63 A7F3M66 A7F4M71",
    "A7F5MA7F6 A7F6V A7F8M127 A7F9M153 A7FAV AB5CMA727 AB5DMAB37 AB5EM26B AB5FMAB52 AB60V AB69M28D",
    "AB6AV AB70R13A0 ABC0V D7FCX F900M8C48 F901M66F4 F902M8ECA F903M8CC8 F904M6ED1 F905M4E32",
    "F906M53E5 F907M9F9C F908M9F9C F909M5951 F90AM91D1 F90BM5587 F90CM5948 F90DM61F6 F90EM7669",
    "F90FM7F85 F910M863F F911M87BA F912M88F8 F913M908F F914M6A02 F915M6D1B F916M70D9 F917M73DE",
    "F918M843D F919M916A F91AM99F1 F91BM4E82 F91CM5375 F91DM6B04 F91EM721B F91FM862D F920M9E1E",
    "F921M5D50 F922M6FEB F923M85CD F924M8964 F925M62C9 F926M81D8 F927M881F F928M5ECA F929M6717",
    "F92AM6D6A F92BM72FC F92CM90CE F92DM4F86 F92EM51B7 F92FM52DE F930M64C4 F931M6AD3 F932M7210",
    "F933M76E7 F934M8001 F935M8606 F936M865C F937M8DEF F938M9732 F939M9B6F F93AM9DFA F93BM788C",
    "F93CM797F F93DM7DA0 F93EM83C9 F93FM9304 F940M9E7F F941M8AD6 F942M58DF F943M5F04 F944M7C60",
    "F945M807E F946M7262 F947M78CA F948M8CC2 F949M96F7 F94AM58D8 F94BM5C62 F94CM6A13 F94DM6DDA",
    "F94EM6F0F F94FM7D2F F950M7E37 F951M964B F952M52D2 F953M808B F954M51DC F955M51CC F956M7A1C",
    "F957M7DBE F958M83F1 F959M9675 F95AM8B80 F95BM62CF F95CM6A02 F95DM8AFE F95EM4E39 F95FM5BE7",
    "F960M6012 F961M7387 F962M7570 F963M5317 F964M78FB F965M4FBF F966M5FA9 F967M4E0D F968M6CCC",
    "F969M6578 F96AM7D22 F96BM53C3 F96CM585E F96DM7701 F96EM8449 F96FM8AAA F970M6BBA F971M8FB0",
    "F972M6C88 F973M62FE F974M82E5 F975M63A0 F976M7565 F977M4EAE F978M5169 F979M51C9 F97AM6881",
    "F97BM7CE7 F97CM826F F97DM8AD2 F97EM91CF F97FM52F5 F980M5442 F981M5973 F982M5EEC F983M65C5",
    "F984M6FFE F985M792A F986M95AD F987M9A6A F988M9E97 F989M9ECE F98AM529B F98BM66C6 F98CM6B77",
    "F98DM8F62 F98EM5E74 F98FM6190 F990M6200 F991M649A F992M6F23 F993M7149 F994M7489 F995M79CA",
    "F996M7DF4 F997M806F F998M8F26 F999M84EE F99AM9023 F99BM934A F99CM5217 F99DM52A3 F99EM54BD",
    "F99FM70C8 F9A0M88C2 F9A1M8AAA F9A2M5EC9 F9A3M5FF5 F9A4M637B F9A5M6BAE F9A6M7C3E F9A7M7375",
    "F9A8M4EE4 F9A9M56F9 F9AAM5BE7 F9ABM5DBA F9ACM601C F9ADM73B2 F9AEM7469 F9AFM7F9A F9B0M8046",
    "F9B1M9234 F9B2M96F6 F9B3M9748 F9B4M9818 F9B5M4F8B F9B6M79AE F9B7M91B4 F9B8M96B8 F9B9M60E1",
    "F9BAM4E86 F9BBM50DA F9BCM5BEE F9BDM5C3F F9BEM6599 F9BFM6A02 F9C0M71CE F9C1M7642 F9C2M84FC",
    "F9C3M907C F9C4M9F8D F9C5M6688 F9C6M962E F9C7M5289 F9C8M677B F9C9M67F3 F9CAM6D41 F9CBM6E9C",
    "F9CCM7409 F9CDM7559 F9CEM786B F9CFM7D10 F9D0M985E F9D1M516D F9D2M622E F9D3M9678 F9D4M502B",
    "F9D5M5D19 F9D6M6DEA F9D7M8F2A F9D8M5F8B F9D9M6144 F9DAM6817 F9DBM7387 F9DCM9686 F9DDM5229",
    "F9DEM540F F9DFM5C65 F9E0M6613 F9E1M674E F9E2M68A8 F9E3M6CE5 F9E4M7406 F9E5M75E2 F9E6M7F79",
    "F9E7M88CF F9E8M88E1 F9E9M91CC F9EAM96E2 F9EBM533F F9ECM6EBA F9EDM541D F9EEM71D0 F9EFM7498",
    "F9F0M85FA F9F1M96A3 F9F2M9C57 F9F3M9E9F F9F4M6797 F9F5M6DCB F9F6M81E8 F9F7M7ACB F9F8M7B20",
    "F9F9M7C92 F9FAM72C0 F9FBM7099 F9FCM8B58 F9FDM4EC0 F9FEM8336 F9FFM523A FA00M5207 FA01M5EA6",
    "FA02M62D3 FA03M7CD6 FA04M5B85 FA05M6D1E FA06M66B4 FA07M8F3B FA08M884C FA09M964D FA0AM898B",
    "FA0BM5ED3 FA0CM5140 FA0DM55C0 FA0EV FA10M585A FA11V FA12M6674 FA13V FA15M51DE FA16M732A",
    "FA17M76CA FA18M793C FA19M795E FA1AM7965 FA1BM798F FA1CM9756 FA1DM7CBE FA1EM7FBD FA1FV FA20M8612",
    "FA21V FA22M8AF8 FA23V FA25M9038 FA26M90FD FA27V FA2AM98EF FA2BM98FC FA2CM9928 FA2DM9DB4",
    "FA2EM90DE FA2FM96B7 FA30M4FAE FA31M50E7 FA32M514D FA33M52C9 FA34M52E4 FA35M5351 FA36M559D",
    "FA37M5606 FA38M5668 FA39M5840 FA3AM58A8 FA3BM5C64 FA3CM5C6E FA3DM6094 FA3EM6168 FA3FM618E",
    "FA40M61F2 FA41M654F FA42M65E2 FA43M6691 FA44M6885 FA45M6D77 FA46M6E1A FA47M6F22 FA48M716E",
    "FA49M722B FA4AM7422 FA4BM7891 FA4CM793E FA4DM7949 FA4EM7948 FA4FM7950 FA50M7956 FA51M795D",
    "FA52R798D FA54M7A40 FA55M7A81 FA56M7BC0 FA57M7DF4 FA58M7E09 FA59M7E41 FA5AM7F72 FA5BM8005",
    "FA5CM81ED FA5DM8279 FA5EM8279 FA5FM8457 FA60M8910 FA61M8996 FA62M8B01 FA63M8B39 FA64M8CD3",
    "FA65M8D08 FA66M8FB6 FA67M9038 FA68M96E3 FA69M97FF FA6AM983B FA6BM6075 FA6CM242EE FA6DM8218 FA6EV",
    "FA70M4E26 FA71M51B5 FA72M5168 FA73M4F80 FA74M5145 FA75M5180 FA76M52C7 FA77M52FA FA78M559D",
    "FA79M5555 FA7AM5599 FA7BM55E2 FA7CM585A FA7DM58B3 FA7EM5944 FA7FM5954 FA80M5A62 FA81M5B28",
    "FA82M5ED2 FA83M5ED9 FA84M5F69 FA85M5FAD FA86M60D8 FA87M614E FA88M6108 FA89M618E FA8AM6160",
    "FA8BM61F2 FA8CM6234 FA8DM63C4 FA8EM641C FA8FM6452 FA90M6556 FA91M6674 FA92M6717 FA93M671B",
    "FA94M6756 FA95M6B79 FA96M6BBA FA97M6D41 FA98M6EDB FA99M6ECB FA9AM6F22 FA9BM701E FA9CM716E",
    "FA9DM77A7 FA9EM7235 FA9FM72AF FAA0M732A FAA1M7471 FAA2M7506 FAA3M753B FAA4M761D FAA5M761F",
    "FAA6M76CA FAA7M76DB FAA8M76F4 FAA9M774A FAAAM7740 FAABM78CC FAACM7AB1 FAADM7BC0 FAAEM7C7B",
    "FAAFM7D5B FAB0M7DF4 FAB1M7F3E FAB2M8005 FAB3M8352 FAB4M83EF FAB5M8779 FAB6M8941 FAB7M8986",
    "FAB8M8996 FAB9M8ABF FABAM8AF8 FABBM8ACB FABCM8B01 FABDM8AFE FABEM8AED FABFM8B39 FAC0M8B8A",
    "FAC1M8D08 FAC2M8F38 FAC3M9072 FAC4M9199 FAC5M9276 FAC6M967C FAC7M96E3 FAC8M9756 FAC9M97DB",
    "FACAM97FF FACBM980B FACCM983B FACDM9B12 FACEM9F9C FACFM2284A FAD0M22844 FAD1M233D5 FAD2M3B9D",
    "FAD3M4018 FAD4M4039 FAD5M25249 FAD6M25CD0 FAD7M27ED3 FAD8M9F43 FAD9M9F8E FADAV FB00M66,66",
    "FB01M66,69 FB02M66,6C FB03M66,66,69 FB04M66,66,6C FB05M73,74 FB06M73,74 FB07V FB13M574,576",
    "FB14M574,565 FB15M574,56B FB16M57E,576 FB17M574,56D FB18V FB1DM5D9,5B4 FB1EV FB1FM5F2,5B7",
    "FB20M5E2 FB21M5D0 FB22R5D3 FB24R5DB FB27M5E8 FB28M5EA FB29M2B FB2AM5E9,5C1 FB2BM5E9,5C2",
    "FB2CM5E9,5BC,5C1 FB2DM5E9,5BC,5C2 FB2EM5D0,5B7 FB2FM5D0,5B8 FB30M5D0,5BC FB31M5D1,5BC",
    "FB32M5D2,5BC FB33M5D3,5BC FB34M5D4,5BC FB35M5D5,5BC FB36M5D6,5BC FB37V FB38M5D8,5BC FB39M5D9,5BC",
    "FB3AM5DA,5BC FB3BM5DB,5BC FB3CM5DC,5BC FB3DV FB3EM5DE,5BC FB3FV FB40M5E0,5BC FB41M5E1,5BC FB42V",
    "FB43M5E3,5BC FB44M5E4,5BC FB45V FB46M5E6,5BC FB47M5E7,5BC FB48M5E8,5BC FB49M5E9,5BC FB4AM5EA,5BC",
    "FB4BM5D5,5B9 FB4CM5D1,5BF FB4DM5DB,5BF FB4EM5E4,5BF FB4FM5D0,5DC FB50M671 FB51M671 FB52M67B",
    "FB53M67B FB54M67B FB55M67B FB56M67E FB57M67E FB58M67E FB59M67E FB5AM680 FB5BM680 FB5CM680",
    "FB5DM680 FB5EM67A FB5FM67A FB60M67A FB61M67A FB62M67F FB63M67F FB64M67F FB65M67F FB66M679",
    "FB67M679 FB68M679 FB69M679 FB6AM6A4 FB6BM6A4 FB6CM6A4 FB6DM6A4 FB6EM6A6 FB6FM6A6 FB70M6A6",
    "FB71M6A6 FB72M684 FB73M684 FB74M684 FB75M684 FB76M683 FB77M683 FB78M683 FB79M683 FB7AM686",
    "FB7BM686 FB7CM686 FB7DR686 FB7FM687 FB80M687 FB81M687 FB82M68D FB83M68D FB84M68C FB85M68C",
    "FB86M68E FB87M68E FB88M688 FB89M688 FB8AM698 FB8BM698 FB8CM691 FB8DM691 FB8EM6A9 FB8FM6A9",
    "FB90M6A9 FB91M6A9 FB92M6AF FB93M6AF FB94M6AF FB95M6AF FB96M6B3 FB97M6B3 FB98M6B3 FB99M6B3",
    "FB9AM6B1 FB9BM6B1 FB9CM6B1 FB9DM6B1 FB9EM6BA FB9FR6BA FBA1M6BB FBA2M6BB FBA3M6BB FBA4M6C0",
    "FBA5R6C0 FBA7M6C1 FBA8M6C1 FBA9M6C1 FBAAM6BE FBABM6BE FBACM6BE FBADM6BE FBAEM6D2 FBAFR6D2",
    "FBB1M6D3 FBB2V FBD3M6AD FBD4M6AD FBD5M6AD FBD6M6AD FBD7M6C7 FBD8M6C7 FBD9M6C6 FBDAM6C6 FBDBM6C8",
    "FBDCM6C8 FBDDM6C7,674 FBDEM6CB FBDFM6CB FBE0M6C5 FBE1M6C5 FBE2M6C9 FBE3M6C9 FBE4M6D0 FBE5M6D0",
    "FBE6M6D0 FBE7M6D0 FBE8M649 FBE9M649 FBEAM626,627 FBEBM626,627 FBECM626,6D5 FBEDM626,6D5",
    "FBEEM626,648 FBEFM626,648 FBF0M626,6C7 FBF1M626,6C7 FBF2M626,6C6 FBF3M626,6C6 FBF4M626,6C8",
    "FBF5M626,6C8 FBF6M626,6D0 FBF7M626,6D0 FBF8M626,6D0 FBF9M626,649 FBFAM626,649 FBFBM626,649",
    "FBFCM6CC FBFDM6CC FBFEM6CC FBFFM6CC FC00M626,62C FC01M626,62D FC02M626,645 FC03M626,649",
    "FC04M626,64A FC05M628,62C FC06M628,62D FC07M628,62E FC08M628,645 FC09M628,649 FC0AM628,64A",
    "FC0BM62A,62C FC0CM62A,62D FC0DM62A,62E FC0EM62A,645 FC0FM62A,649 FC10M62A,64A FC11M62B,62C",
    "FC12M62B,645 FC13M62B,649 FC14M62B,64A FC15M62C,62D FC16M62C,645 FC17M62D,62C FC18M62D,645",
    "FC19M62E,62C FC1AM62E,62D FC1BM62E,645 FC1CM633,62C FC1DM633,62D FC1EM633,62E FC1FM633,645",
    "FC20M635,62D FC21M635,645 FC22M636,62C FC23M636,62D FC24M636,62E FC25M636,645 FC26M637,62D",
    "FC27M637,645 FC28M638,645 FC29M639,62C FC2AM639,645 FC2BM63A,62C FC2CM63A,645 FC2DM641,62C",
    "FC2EM641,62D FC2FM641,62E FC30M641,645 FC31M641,649 FC32M641,64A FC33M642,62D FC34M642,645",
    "FC35M642,649 FC36M642,64A FC37M643,627 FC38M643,62C FC39M643,62D FC3AM643,62E FC3BM643,644",
    "FC3CM643,645 FC3DM643,649 FC3EM643,64A FC3FM644,62C FC40M644,62D FC41M644,62E FC42M644,645",
    "FC43M644,649 FC44M644,64A FC45M645,62C FC46M645,62D FC47M645,62E FC48M645,645 FC49M645,649",
    "FC4AM645,64A FC4BM646,62C FC4CM646,62D FC4DM646,62E FC4EM646,645 FC4FM646,649 FC50M646,64A",
    "FC51M647,62C FC52M647,645 FC53M647,649 FC54M647,64A FC55M64A,62C FC56M64A,62D FC57M64A,62E",
    "FC58M64A,645 FC59M64A,649 FC5AM64A,64A FC5BM630,670 FC5CM631,670 FC5DM649,670 FC5EM20,64C,651",
    "FC5FM20,64D,651 FC60M20,64E,651 FC61M20,64F,651 FC62M20,650,651 FC63M20,651,670 FC64M626,631",
    "FC65M626,632 FC66M626,645 FC67M626,646 FC68M626,649 FC69M626,64A FC6AM628,631 FC6BM628,632",
    "FC6CM628,645 FC6DM628,646 FC6EM628,649 FC6FM628,64A FC70M62A,631 FC71M62A,632 FC72M62A,645",
    "FC73M62A,646 FC74M62A,649 FC75M62A,64A FC76M62B,631 FC77M62B,632 FC78M62B,645 FC79M62B,646",
    "FC7AM62B,649 FC7BM62B,64A FC7CM641,649 FC7DM641,64A FC7EM642,649 FC7FM642,64A FC80M643,627",
    "FC81M643,644 FC82M643,645 FC83M643,649 FC84M643,64A FC85M644,645 FC86M644,649 FC87M644,64A",
    "FC88M645,627 FC89M645,645 FC8AM646,631 FC8BM646,632 FC8CM646,645 FC8DM646,646 FC8EM646,649",
    "FC8FM646,64A FC90M649,670 FC91M64A,631 FC92M64A,632 FC93M64A,645 FC94M64A,646 FC95M64A,649",
    "FC96M64A,64A FC97M626,62C FC98M626,62D FC99M626,62E FC9AM626,645 FC9BM626,647 FC9CM628,62C",
    "FC9DM628,62D FC9EM628,62E FC9FM628,645 FCA0M628,647 FCA1M62A,62C FCA2M62A,62D FCA3M62A,62E",
    "FCA4M62A,645 FCA5M62A,647 FCA6M62B,645 FCA7M62C,62D FCA8M62C,645 FCA9M62D,62C FCAAM62D,645",
    "FCABM62E,62C FCACM62E,645 FCADM633,62C FCAEM633,62D FCAFM633,62E FCB0M633,645 FCB1M635,62D",
    "FCB2M635,62E FCB3M635,645 FCB4M636,62C FCB5M636,62D FCB6M636,62E FCB7M636,645 FCB8M637,62D",
    "FCB9M638,645 FCBAM639,62C FCBBM639,645 FCBCM63A,62C FCBDM63A,645 FCBEM641,62C FCBFM641,62D",
    "FCC0M641,62E FCC1M641,645 FCC2M642,62D FCC3M642,645 FCC4M643,62C FCC5M643,62D FCC6M643,62E",
    "FCC7M643,644 FCC8M643,645 FCC9M644,62C FCCAM644,62D FCCBM644,62E FCCCM644,645 FCCDM644,647",
    "FCCEM645,62C FCCFM645,62D FCD0M645,62E FCD1M645,645 FCD2M646,62C FCD3M646,62D FCD4M646,62E",
    "FCD5M646,645 FCD6M646,647 FCD7M647,62C FCD8M647,645 FCD9M647,670 FCDAM64A,62C FCDBM64A,62D",
    "FCDCM64A,62E FCDDM64A,645 FCDEM64A,647 FCDFM626,645 FCE0M626,647 FCE1M628,645 FCE2M628,647",
    "FCE3M62A,645 FCE4M62A,647 FCE5M62B,645 FCE6M62B,647 FCE7M633,645 FCE8M633,647 FCE9M634,645",
    "FCEAM634,647 FCEBM643,644 FCECM643,645 FCEDM644,645 FCEEM646,645 FCEFM646,647 FCF0M64A,645",
    "FCF1M64A,647 FCF2M640,64E,651 FCF3M640,64F,651 FCF4M640,650,651 FCF5M637,649 FCF6M637,64A",
    "FCF7M639,649 FCF8M639,64A FCF9M63A,649 FCFAM63A,64A FCFBM633,649 FCFCM633,64A FCFDM634,649",
    "FCFEM634,64A FCFFM62D,649 FD00M62D,64A FD01M62C,649 FD02M62C,64A FD03M62E,649 FD04M62E,64A",
    "FD05M635,649 FD06M635,64A FD07M636,649 FD08M636,64A FD09M634,62C FD0AM634,62D FD0BM634,62E",
    "FD0CM634,645 FD0DM634,631 FD0EM633,631 FD0FM635,631 FD10M636,631 FD11M637,649 FD12M637,64A",
    "FD13M639,649 FD14M639,64A FD15M63A,649 FD16M63A,64A FD17M633,649 FD18M633,64A FD19M634,649",
    "FD1AM634,64A FD1BM62D,649 FD1CM62D,64A FD1DM62C,649 FD1EM62C,64A FD1FM62E,649 FD20M62E,64A",
    "FD21M635,649 FD22M635,64A FD23M636,649 FD24M636,64A FD25M634,62C FD26M634,62D FD27M634,62E",
    "FD28M634,645 FD29M634,631 FD2AM633,631 FD2BM635,631 FD2CM636,631 FD2DM634,62C FD2EM634,62D",
    "FD2FM634,62E FD30M634,645 FD31M633,647 FD32M634,647 FD33M637,645 FD34M633,62C FD35M633,62D",
    "FD36M633,62E FD37M634,62C FD38M634,62D FD39M634,62E FD3AM637,645 FD3BM638,645 FD3CM627,64B",
    "FD3DM627,64B FD3EV FD50M62A,62C,645 FD51M62A,62D,62C FD52M62A,62D,62C FD53M62A,62D,645",
    "FD54M62A,62E,645 FD55M62A,645,62C FD56M62A,645,62D FD57M62A,645,62E FD58M62C,645,62D",
    "FD59M62C,645,62D FD5AM62D,645,64A FD5BM62D,645,649 FD5CM633,62D,62C FD5DM633,62C,62D",
    "FD5EM633,62C,649 FD5FM633,645,62D FD60M633,645,62D FD61M633,645,62C FD62M633,645,645",
    "FD63M633,645,645 FD64M635,62D,62D FD65M635,62D,62D FD66M635,645,645 FD67M634,62D,645",
    "FD68M634,62D,645 FD69M634,62C,64A FD6AM634,645,62E FD6BM634,645,62E FD6CM634,645,645",
    "FD6DM634,645,645 FD6EM636,62D,649 FD6FM636,62E,645 FD70M636,62E,645 FD71M637,645,62D",
    "FD72M637,645,62D FD73M637,645,645 FD74M637,645,64A FD75M639,62C,645 FD76M639,645,645",
    "FD77M639,645,645 FD78M639,645,649 FD79M63A,645,645 FD7AM63A,645,64A FD7BM63A,645,649",
    "FD7CM641,62E,645 FD7DM641,62E,645 FD7EM642,645,62D FD7FM642,645,645 FD80M644,62D,645",
    "FD81M644,62D,64A FD82M644,62D,649 FD83M644,62C,62C FD84M644,62C,62C FD85M644,62E,645",
    "FD86M644,62E,645 FD87M644,645,62D FD88M644,645,62D FD89M645,62D,62C FD8AM645,62D,645",
    "FD8BM645,62D,64A FD8CM645,62C,62D FD8DM645,62C,645 FD8EM645,62E,62C FD8FM645,62E,645 FD90V",
    "FD92M645,62C,62E FD93M647,645,62C FD94M647,645,645 FD95M646,62D,645 FD96M646,62D,649",
    "FD97M646,62C,645 FD98M646,62C,645 FD99M646,62C,649 FD9AM646,645,64A FD9BM646,645,649",
    "FD9CM64A,645,645 FD9DM64A,645,645 FD9EM628,62E,64A FD9FM62A,62C,64A FDA0M62A,62C,649",
    "FDA1M62A,62E,64A FDA2M62A,62E,649 FDA3M62A,645,64A FDA4M62A,645,649 FDA5M62C,645,64A",
    "FDA6M62C,62D,649 FDA7M62C,645,649 FDA8M633,62E,649 FDA9M635,62D,64A FDAAM634,62D,64A",
    "FDABM636,62D,64A FDACM644,62C,64A FDADM644,645,64A FDAEM64A,62D,64A FDAFM64A,62C,64A",
    "FDB0M64A,645,64A FDB1M645,645,64A FDB2M642,645,64A FDB3M646,62D,64A FDB4M642,645,62D",
    "FDB5M644,62D,645 FDB6M639,645,64A FDB7M643,645,64A FDB8M646,62C,62D FDB9M645,62E,64A",
    "FDBAM644,62C,645 FDBBM643,645,645 FDBCM644,62C,645 FDBDM646,62C,62D FDBEM62C,62D,64A",
    "FDBFM62D,62C,64A FDC0M645,62C,64A FDC1M641,645,64A FDC2M628,62D,64A FDC3M643,645,645",
    "FDC4M639,62C,645 FDC5M635,645,645 FDC6M633,62E,64A FDC7M646,62C,64A FDC8V FDD0X FDF0M635,644,6D2",
    "FDF1M642,644,6D2 FDF2M627,644,644,647 FDF3M627,643,628,631 FDF4M645,62D,645,62F",
    "FDF5M635,644,639,645 FDF6M631,633,648,644 FDF7M639,644,64A,647 FDF8M648,633,644,645",
    "FDF9M635,644,649 FDFAM635,644,649,20,627,644,644,647,20,639,644,64A,647,20,648,633,644,645",
    "FDFBM62C,644,20,62C,644,627,644,647 FDFCM631,6CC,627,644 FDFDV FE00I FE10M2C FE11M3001 FE12X",
    "FE13R3A FE15M21 FE16M3F FE17R3016 FE19X FE1AV FE30X FE31M2014 FE32M2013 FE33M5F FE34M5F FE35R28",
    "FE37M7B FE38M7D FE39R3014 FE3BR3010 FE3DR300A FE3FR3008 FE41R300C FE45V FE47M5B FE48M5D",
    "FE49M20,305 FE4AM20,305 FE4BM20,305 FE4CM20,305 FE4DM5F FE4EM5F FE4FM5F FE50M2C FE51M3001 FE52X",
    "FE53V FE54M3B FE55M3A FE56M3F FE57M21 FE58M2014 FE59R28 FE5BM7B FE5CM7D FE5DR3014 FE5FM23",
    "FE60M26 FE61R2A FE63M2D FE64M3C FE65M3E FE66M3D FE67V FE68M5C FE69R24 FE6BM40 FE6CV FE70M20,64B",
    "FE71M640,64B FE72M20,64C FE73V FE74M20,64D FE75V FE76M20,64E FE77M640,64E FE78M20,64F",
    "FE79M640,64F FE7AM20,650 FE7BM640,650 FE7CM20,651 FE7DM640,651 FE7EM20,652 FE7FM640,652 FE80R621",
    "FE82R622 FE84R623 FE86R624 FE88R625 FE8AM626 FE8BM626 FE8CR626 FE8ER627 FE90M628 FE91M628",
    "FE92R628 FE94R629 FE96M62A FE97M62A FE98R62A FE9AM62B FE9BM62B FE9CR62B FE9EM62C FE9FM62C",
    "FEA0R62C FEA2M62D FEA3M62D FEA4R62D FEA6M62E FEA7M62E FEA8R62E FEAAR62F FEACR630 FEAER631",
    "FEB0R632 FEB2M633 FEB3M633 FEB4R633 FEB6M634 FEB7M634 FEB8R634 FEBAM635 FEBBM635 FEBCR635",
    "FEBEM636 FEBFM636 FEC0R636 FEC2M637 FEC3M637 FEC4R637 FEC6M638 FEC7M638 FEC8R638 FECAM639",
    "FECBM639 FECCR639 FECEM63A FECFM63A FED0M63A FED1M641 FED2M641 FED3M641 FED4R641 FED6M642",
    "FED7M642 FED8R642 FEDAM643 FEDBM643 FEDCR643 FEDEM644 FEDFM644 FEE0R644 FEE2M645 FEE3M645",
    "FEE4R645 FEE6M646 FEE7M646 FEE8R646 FEEAM647 FEEBM647 FEECR647 FEEER648 FEF0R649 FEF2M64A",
    "FEF3M64A FEF4M64A FEF5M644,622 FEF6M644,622 FEF7M644,623 FEF8M644,623 FEF9M644,625 FEFAM644,625",
    "FEFBM644,627 FEFCM644,627 FEFDV FEFFI FF00V FF01R21 FF21R61 FF3BR5B FF5FR2985 FF61M2E FF62R300C",
    "FF64M3001 FF65M30FB FF66M30F2 FF67M30A1 FF68M30A3 FF69M30A5 FF6AM30A7 FF6BM30A9 FF6CM30E3",
    "FF6DM30E5 FF6EM30E7 FF6FM30C3 FF70M30FC FF71M30A2 FF72M30A4 FF73M30A6 FF74M30A8 FF75R30AA",
    "FF77M30AD FF78M30AF FF79M30B1 FF7AM30B3 FF7BM30B5 FF7CM30B7 FF7DM30B9 FF7EM30BB FF7FM30BD",
    "FF80M30BF FF81M30C1 FF82M30C4 FF83M30C6 FF84M30C8 FF85R30CA FF8BM30D2 FF8CM30D5 FF8DM30D8",
    "FF8EM30DB FF8FR30DE FF94M30E4 FF95M30E6 FF96R30E8 FF9CM30EF FF9DM30F3 FF9ER3099 FFA0I FFA1R1100",
    "FFA3M11AA FFA4M1102 FFA5R11AC FFA7R1103 FFAAR11B0 FFB0M111A FFB1R1106 FFB4M1121 FFB5R1109 FFBFV",
    "FFC2R1161 FFC8V FFCAR1167 FFD0V FFD2R116D FFD8V FFDAR1173 FFDDV FFE0RA2 FFE2MAC FFE3M20,304",
    "FFE4MA6 FFE5MA5 FFE6M20A9 FFE7V FFE8M2502 FFE9R2190 FFEDM25A0 FFEEM25CB FFEFV FFF9X 10000V",
    "10400R10428 10428V 104B0R104D8 104D4V 10570R10597 1057BV 1057CR105A3 1058BV 1058CR105B3 10593V",
    "10594R105BB 10596V 10781R2D0 10783ME6 10784M299 10785M253 10786V 10787M2A3 10788MAB66 10789M2A5",
    "1078AM2A4 1078BR256 1078DM1D91 1078EM258 1078FM25E 10790M2A9 10791M264 10792M262 10793M260",
    "10794M29B 10795M127 10796M29C 10797M267 10798M284 10799R2AA 1079BM26C 1079CM1DF04 1079DMA78E",
    "1079EM26E 1079FM1DF05 107A0M28E 107A1M1DF06 107A2MF8 107A3R276 107A5M71 107A6M27A 107A7M1DF08",
    "107A8R27D 107AAM280 107ABM2A8 107ACM2A6 107ADMAB67 107AEM2A7 107AFM288 107B0M2C71 107B1V",
    "107B2M28F 107B3R2A1 107B5M298 107B6R1C0 107B9M1DF0A 107BAM1DF1E 107BBV 10C80R10CC0 10CB3V",
    "10D50R10D70 10D66V 110BDX 110BEV 110CDX 110CEV 118A0R118C0 118C0V 13430X 13440V 16E40R16E60",
    "16E60V 16EA0R16EBB 16EB9V 1BCA0I 1BCA4V 1CCD6R61 1CCF0R30 1CCFAV 1D15EM1D157,1D165",
    "1D15FM1D158,1D165 1D160M1D158,1D165,1D16E 1D161M1D158,1D165,1D16F 1D162M1D158,1D165,1D170",
    "1D163M1D158,1D165,1D171 1D164M1D158,1D165,1D172 1D165V 1D173I 1D17BV 1D1BBM1D1B9,1D165",
    "1D1BCM1D1BA,1D165 1D1BDM1D1B9,1D165,1D16E 1D1BEM1D1BA,1D165,1D16E 1D1BFM1D1B9,1D165,1D16F",
    "1D1C0M1D1BA,1D165,1D16F 1D1C1V 1D400R61 1D41AR61 1D434R61 1D44ER61 1D455V 1D456R69 1D468R61",
    "1D482R61 1D49CM61 1D49DV 1D49ER63 1D4A0V 1D4A2M67 1D4A3V 1D4A5R6A 1D4A7V 1D4A9R6E 1D4ADV",
    "1D4AER73 1D4B6R61 1D4BAV 1D4BBM66 1D4BCV 1D4BDR68 1D4C4V 1D4C5R70 1D4D0R61 1D4EAR61 1D504R61",
    "1D506V 1D507R64 1D50BV 1D50DR6A 1D515V 1D516R73 1D51DV 1D51ER61 1D538R61 1D53AV 1D53BR64 1D53FV",
    "1D540R69 1D545V 1D546M6F 1D547V 1D54AR73 1D551V 1D552R61 1D56CR61 1D586R61 1D5A0R61 1D5BAR61",
    "1D5D4R61 1D5EER61 1D608R61 1D622R61 1D63CR61 1D656R61 1D670R61 1D68AR61 1D6A4M131 1D6A5M237",
    "1D6A6V 1D6A8R3B1 1D6B9M3B8 1D6BAR3C3 1D6C1M2207 1D6C2R3B1 1D6D3M3C3 1D6D4R3C3 1D6DBM2202",
    "1D6DCM3B5 1D6DDM3B8 1D6DEM3BA 1D6DFM3C6 1D6E0M3C1 1D6E1M3C0 1D6E2R3B1 1D6F3M3B8 1D6F4R3C3",
    "1D6FBM2207 1D6FCR3B1 1D70DM3C3 1D70ER3C3 1D715M2202 1D716M3B5 1D717M3B8 1D718M3BA 1D719M3C6",
    "1D71AM3C1 1D71BM3C0 1D71CR3B1 1D72DM3B8 1D72ER3C3 1D735M2207 1D736R3B1 1D747M3C3 1D748R3C3",
    "1D74FM2202 1D750M3B5 1D751M3B8 1D752M3BA 1D753M3C6 1D754M3C1 1D755M3C0 1D756R3B1 1D767M3B8",
    "1D768R3C3 1D76FM2207 1D770R3B1 1D781M3C3 1D782R3C3 1D789M2202 1D78AM3B5 1D78BM3B8 1D78CM3BA",
    "1D78DM3C6 1D78EM3C1 1D78FM3C0 1D790R3B1 1D7A1M3B8 1D7A2R3C3 1D7A9M2207 1D7AAR3B1 1D7BBM3C3",
    "1D7BCR3C3 1D7C3M2202 1D7C4M3B5 1D7C5M3B8 1D7C6M3BA 1D7C7M3C6 1D7C8M3C1 1D7C9M3C0 1D7CAM3DD",
    "1D7CBM3DD 1D7CCV 1D7CER30 1D7D8R30 1D7E2R30 1D7ECR30 1D7F6R30 1D800V 1E030R430 1E039R43A",
    "1E03CR43E 1E047M44B 1E048R44D 1E04AMA689 1E04BM4D9 1E04CM456 1E04DM458 1E04EM4E9 1E04FM4AF",
    "1E050M4CF 1E051R430 1E05AR43A 1E05CR43E 1E05EM441 1E05FR443 1E065R44A 1E067M491 1E068M456",
    "1E069M455 1E06AM45F 1E06BM4AB 1E06CMA651 1E06DM4B1 1E06EV 1E900R1E922 1E922V 1EE00R627 1EE02M62C",
    "1EE03M62F 1EE04V 1EE05M648 1EE06M632 1EE07M62D 1EE08M637 1EE09M64A 1EE0AR643 1EE0EM633 1EE0FM639",
    "1EE10M641 1EE11M635 1EE12M642 1EE13M631 1EE14M634 1EE15R62A 1EE17M62E 1EE18M630 1EE19M636",
    "1EE1AM638 1EE1BM63A 1EE1CM66E 1EE1DM6BA 1EE1EM6A1 1EE1FM66F 1EE20V 1EE21M628 1EE22M62C 1EE23V",
    "1EE24M647 1EE25V 1EE27M62D 1EE28V 1EE29M64A 1EE2AR643 1EE2EM633 1EE2FM639 1EE30M641 1EE31M635",
    "1EE32M642 1EE33V 1EE34M634 1EE35R62A 1EE37M62E 1EE38V 1EE39M636 1EE3AV 1EE3BM63A 1EE3CV",
    "1EE42M62C 1EE43V 1EE47M62D 1EE48V 1EE49M64A 1EE4AV 1EE4BM644 1EE4CV 1EE4DM646 1EE4EM633",
    "1EE4FM639 1EE50V 1EE51M635 1EE52M642 1EE53V 1EE54M634 1EE55V 1EE57M62E 1EE58V 1EE59M636 1EE5AV",
    "1EE5BM63A 1EE5CV 1EE5DM6BA 1EE5EV 1EE5FM66F 1EE60V 1EE61M628 1EE62M62C 1EE63V 1EE64M647 1EE65V",
    "1EE67M62D 1EE68M637 1EE69M64A 1EE6AM643 1EE6BV 1EE6CR645 1EE6EM633 1EE6FM639 1EE70M641 1EE71M635",
    "1EE72M642 1EE73V 1EE74M634 1EE75R62A 1EE77M62E 1EE78V 1EE79M636 1EE7AM638 1EE7BM63A 1EE7CM66E",
    "1EE7DV 1EE7EM6A1 1EE7FV 1EE80R627 1EE82M62C 1EE83M62F 1EE84R647 1EE86M632 1EE87M62D 1EE88M637",
    "1EE89M64A 1EE8AV 1EE8BR644 1EE8EM633 1EE8FM639 1EE90M641 1EE91M635 1EE92M642 1EE93M631 1EE94M634",
    "1EE95R62A 1EE97M62E 1EE98M630 1EE99M636 1EE9AM638 1EE9BM63A 1EE9CV 1EEA1M628 1EEA2M62C 1EEA3M62F",
    "1EEA4V 1EEA5M648 1EEA6M632 1EEA7M62D 1EEA8M637 1EEA9M64A 1EEAAV 1EEABR644 1EEAEM633 1EEAFM639",
    "1EEB0M641 1EEB1M635 1EEB2M642 1EEB3M631 1EEB4M634 1EEB5R62A 1EEB7M62E 1EEB8M630 1EEB9M636",
    "1EEBAM638 1EEBBM63A 1EEBCV 1F100X 1F101M30,2C 1F102M31,2C 1F103M32,2C 1F104M33,2C 1F105M34,2C",
    "1F106M35,2C 1F107M36,2C 1F108M37,2C 1F109M38,2C 1F10AM39,2C 1F10BV 1F110M28,61,29 1F111M28,62,29",
    "1F112M28,63,29 1F113M28,64,29 1F114M28,65,29 1F115M28,66,29 1F116M28,67,29 1F117M28,68,29",
    "1F118M28,69,29 1F119M28,6A,29 1F11AM28,6B,29 1F11BM28,6C,29 1F11CM28,6D,29 1F11DM28,6E,29",
    "1F11EM28,6F,29 1F11FM28,70,29 1F120M28,71,29 1F121M28,72,29 1F122M28,73,29 1F123M28,74,29",
    "1F124M28,75,29 1F125M28,76,29 1F126M28,77,29 1F127M28,78,29 1F128M28,79,29 1F129M28,7A,29",
    "1F12AM3014,73,3015 1F12BM63 1F12CM72 1F12DM63,64 1F12EM77,7A 1F12FV 1F130R61 1F14AM68,76",
    "1F14BM6D,76 1F14CM73,64 1F14DM73,73 1F14EM70,70,76 1F14FM77,63 1F150V 1F16AM6D,63 1F16BM6D,64",
    "1F16CM6D,72 1F16DV 1F190M64,6A 1F191V 1F200M307B,304B 1F201M30B3,30B3 1F202M30B5 1F203V",
    "1F210M624B 1F211M5B57 1F212M53CC 1F213M30C7 1F214M4E8C 1F215M591A 1F216M89E3 1F217M5929",
    "1F218M4EA4 1F219M6620 1F21AM7121 1F21BM6599 1F21CM524D 1F21DM5F8C 1F21EM518D 1F21FM65B0",
    "1F220M521D 1F221M7D42 1F222M751F 1F223M8CA9 1F224M58F0 1F225M5439 1F226M6F14 1F227M6295",
    "1F228M6355 1F229M4E00 1F22AM4E09 1F22BM904A 1F22CM5DE6 1F22DM4E2D 1F22EM53F3 1F22FM6307",
    "1F230M8D70 1F231M6253 1F232M7981 1F233M7A7A 1F234M5408 1F235M6E80 1F236M6709 1F237M6708",
    "1F238M7533 1F239M5272 1F23AM55B6 1F23BM914D 1F23CV 1F240M3014,672C,3015 1F241M3014,4E09,3015",
    "1F242M3014,4E8C,3015 1F243M3014,5B89,3015 1F244M3014,70B9,3015 1F245M3014,6253,3015",
    "1F246M3014,76D7,3015 1F247M3014,52DD,3015 1F248M3014,6557,3015 1F249V 1F250M5F97 1F251M53EF",
    "1F252V 1FBF0R30 1FBFAV 1FFFEX 20000V 2F800M4E3D 2F801M4E38 2F802M4E41 2F803M20122 2F804M4F60",
    "2F805M4FAE 2F806M4FBB 2F807M5002 2F808M507A 2F809M5099 2F80AM50E7 2F80BM50CF 2F80CM349E",
    "2F80DM2063A 2F80EM514D 2F80FM5154 2F810M5164 2F811M5177 2F812M2051C 2F813M34B9 2F814M5167",
    "2F815M518D 2F816M2054B 2F817M5197 2F818M51A4 2F819M4ECC 2F81AM51AC 2F81BM51B5 2F81CM291DF",
    "2F81DM51F5 2F81EM5203 2F81FM34DF 2F820M523B 2F821M5246 2F822M5272 2F823M5277 2F824M3515",
    "2F825M52C7 2F826M52C9 2F827M52E4 2F828M52FA 2F829R5305 2F82BM5317 2F82CM5349 2F82DM5351",
    "2F82EM535A 2F82FM5373 2F830M537D 2F831M537F 2F832M537F 2F833M537F 2F834M20A2C 2F835M7070",
    "2F836M53CA 2F837M53DF 2F838M20B63 2F839M53EB 2F83AM53F1 2F83BM5406 2F83CM549E 2F83DM5438",
    "2F83EM5448 2F83FM5468 2F840M54A2 2F841M54F6 2F842M5510 2F843M5553 2F844M5563 2F845M5584",
    "2F846M5584 2F847M5599 2F848M55AB 2F849M55B3 2F84AM55C2 2F84BM5716 2F84CM5606 2F84DM5717",
    "2F84EM5651 2F84FM5674 2F850M5207 2F851M58EE 2F852M57CE 2F853M57F4 2F854M580D 2F855M578B",
    "2F856M5832 2F857M5831 2F858M58AC 2F859M214E4 2F85AM58F2 2F85BM58F7 2F85CM5906 2F85DM591A",
    "2F85EM5922 2F85FM5962 2F860M216A8 2F861M216EA 2F862M59EC 2F863M5A1B 2F864M5A27 2F865M59D8",
    "2F866M5A66 2F867M36EE 2F868M36FC 2F869M5B08 2F86AM5B3E 2F86BM5B3E 2F86CM219C8 2F86DM5BC3",
    "2F86EM5BD8 2F86FM5BE7 2F870M5BF3 2F871M21B18 2F872M5BFF 2F873M5C06 2F874M5F53 2F875M5C22",
    "2F876M3781 2F877M5C60 2F878M5C6E 2F879M5CC0 2F87AM5C8D 2F87BM21DE4 2F87CM5D43 2F87DM21DE6",
    "2F87EM5D6E 2F87FM5D6B 2F880M5D7C 2F881R5DE1 2F883M382F 2F884M5DFD 2F885M5E28 2F886M5E3D",
    "2F887M5E69 2F888M3862 2F889M22183 2F88AM387C 2F88BM5EB0 2F88CM5EB3 2F88DM5EB6 2F88EM5ECA",
    "2F88FM2A392 2F890M5EFE 2F891M22331 2F892M22331 2F893M8201 2F894M5F22 2F895M5F22 2F896M38C7",
    "2F897M232B8 2F898M261DA 2F899M5F62 2F89AM5F6B 2F89BM38E3 2F89CM5F9A 2F89DM5FCD 2F89EM5FD7",
    "2F89FM5FF9 2F8A0M6081 2F8A1M393A 2F8A2M391C 2F8A3M6094 2F8A4M226D4 2F8A5M60C7 2F8A6M6148",
    "2F8A7M614C 2F8A8M614E 2F8A9M614C 2F8AAM617A 2F8ABM618E 2F8ACM61B2 2F8ADM61A4 2F8AEM61AF",
    "2F8AFM61DE 2F8B0M61F2 2F8B1M61F6 2F8B2M6210 2F8B3M621B 2F8B4M625D 2F8B5M62B1 2F8B6M62D4",
    "2F8B7M6350 2F8B8M22B0C 2F8B9M633D 2F8BAM62FC 2F8BBM6368 2F8BCM6383 2F8BDM63E4 2F8BEM22BF1",
    "2F8BFM6422 2F8C0M63C5 2F8C1M63A9 2F8C2M3A2E 2F8C3M6469 2F8C4M647E 2F8C5M649D 2F8C6M6477",
    "2F8C7M3A6C 2F8C8M654F 2F8C9M656C 2F8CAM2300A 2F8CBM65E3 2F8CCM66F8 2F8CDM6649 2F8CEM3B19",
    "2F8CFM6691 2F8D0M3B08 2F8D1M3AE4 2F8D2M5192 2F8D3M5195 2F8D4M6700 2F8D5M669C 2F8D6M80AD",
    "2F8D7M43D9 2F8D8M6717 2F8D9M671B 2F8DAM6721 2F8DBM675E 2F8DCM6753 2F8DDM233C3 2F8DEM3B49",
    "2F8DFM67FA 2F8E0M6785 2F8E1M6852 2F8E2M6885 2F8E3M2346D 2F8E4M688E 2F8E5M681F 2F8E6M6914",
    "2F8E7M3B9D 2F8E8M6942 2F8E9M69A3 2F8EAM69EA 2F8EBM6AA8 2F8ECM236A3 2F8EDM6ADB 2F8EEM3C18",
    "2F8EFM6B21 2F8F0M238A7 2F8F1M6B54 2F8F2M3C4E 2F8F3M6B72 2F8F4M6B9F 2F8F5R6BBA 2F8F7M23A8D",
    "2F8F8M21D0B 2F8F9M23AFA 2F8FAM6C4E 2F8FBM23CBC 2F8FCM6CBF 2F8FDM6CCD 2F8FEM6C67 2F8FFM6D16",
    "2F900M6D3E 2F901M6D77 2F902M6D41 2F903M6D69 2F904M6D78 2F905M6D85 2F906M23D1E 2F907M6D34",
    "2F908M6E2F 2F909M6E6E 2F90AM3D33 2F90BM6ECB 2F90CM6EC7 2F90DM23ED1 2F90EM6DF9 2F90FM6F6E",
    "2F910M23F5E 2F911M23F8E 2F912M6FC6 2F913M7039 2F914M701E 2F915M701B 2F916M3D96 2F917M704A",
    "2F918M707D 2F919M7077 2F91AM70AD 2F91BM20525 2F91CM7145 2F91DM24263 2F91EM719C 2F91FM243AB",
    "2F920M7228 2F921M7235 2F922M7250 2F923M24608 2F924M7280 2F925M7295 2F926M24735 2F927M24814",
    "2F928M737A 2F929M738B 2F92AM3EAC 2F92BM73A5 2F92CM3EB8 2F92DM3EB8 2F92EM7447 2F92FM745C",
    "2F930M7471 2F931M7485 2F932M74CA 2F933M3F1B 2F934M7524 2F935M24C36 2F936M753E 2F937M24C92",
    "2F938M7570 2F939M2219F 2F93AM7610 2F93BM24FA1 2F93CM24FB8 2F93DM25044 2F93EM3FFC 2F93FM4008",
    "2F940M76F4 2F941M250F3 2F942M250F2 2F943M25119 2F944M25133 2F945R771E 2F947M771F 2F948M774A",
    "2F949M4039 2F94AM778B 2F94BM4046 2F94CM4096 2F94DM2541D 2F94EM784E 2F94FM788C 2F950M78CC",
    "2F951M40E3 2F952M25626 2F953M7956 2F954M2569A 2F955M256C5 2F956M798F 2F957M79EB 2F958M412F",
    "2F959M7A40 2F95AM7A4A 2F95BM7A4F 2F95CM2597C 2F95DM25AA7 2F95EM25AA7 2F95FM7AEE 2F960M4202",
    "2F961M25BAB 2F962M7BC6 2F963M7BC9 2F964M4227 2F965M25C80 2F966M7CD2 2F967M42A0 2F968M7CE8",
    "2F969M7CE3 2F96AM7D00 2F96BM25F86 2F96CM7D63 2F96DM4301 2F96EM7DC7 2F96FM7E02 2F970M7E45",
    "2F971M4334 2F972M26228 2F973M26247 2F974M4359 2F975M262D9 2F976M7F7A 2F977M2633E 2F978M7F95",
    "2F979M7FFA 2F97AM8005 2F97BM264DA 2F97CM26523 2F97DM8060 2F97EM265A8 2F97FM8070 2F980M2335F",
    "2F981M43D5 2F982M80B2 2F983M8103 2F984M440B 2F985M813E 2F986M5AB5 2F987M267A7 2F988M267B5",
    "2F989M23393 2F98AM2339C 2F98BM8201 2F98CM8204 2F98DM8F9E 2F98EM446B 2F98FM8291 2F990M828B",
    "2F991M829D 2F992M52B3 2F993M82B1 2F994M82B3 2F995M82BD 2F996M82E6 2F997M26B3C 2F998M82E5",
    "2F999M831D 2F99AM8363 2F99BM83AD 2F99CM8323 2F99DM83BD 2F99EM83E7 2F99FM8457 2F9A0M8353",
    "2F9A1M83CA 2F9A2M83CC 2F9A3M83DC 2F9A4M26C36 2F9A5M26D6B 2F9A6M26CD5 2F9A7M452B 2F9A8M84F1",
    "2F9A9M84F3 2F9AAM8516 2F9ABM273CA 2F9ACM8564 2F9ADM26F2C 2F9AEM455D 2F9AFM4561 2F9B0M26FB1",
    "2F9B1M270D2 2F9B2M456B 2F9B3M8650 2F9B4M865C 2F9B5M8667 2F9B6M8669 2F9B7M86A9 2F9B8M8688",
    "2F9B9M870E 2F9BAM86E2 2F9BBM8779 2F9BCM8728 2F9BDM876B 2F9BEM8786 2F9BFM45D7 2F9C0M87E1",
    "2F9C1M8801 2F9C2M45F9 2F9C3M8860 2F9C4M8863 2F9C5M27667 2F9C6M88D7 2F9C7M88DE 2F9C8M4635",
    "2F9C9M88FA 2F9CAM34BB 2F9CBM278AE 2F9CCM27966 2F9CDM46BE 2F9CEM46C7 2F9CFM8AA0 2F9D0M8AED",
    "2F9D1M8B8A 2F9D2M8C55 2F9D3M27CA8 2F9D4M8CAB 2F9D5M8CC1 2F9D6M8D1B 2F9D7M8D77 2F9D8M27F2F",
    "2F9D9M20804 2F9DAM8DCB 2F9DBM8DBC 2F9DCM8DF0 2F9DDM208DE 2F9DEM8ED4 2F9DFM8F38 2F9E0M285D2",
    "2F9E1M285ED 2F9E2M9094 2F9E3M90F1 2F9E4M9111 2F9E5M2872E 2F9E6M911B 2F9E7M9238 2F9E8R92D7",
    "2F9EAM927C 2F9EBM93F9 2F9ECM9415 2F9EDM28BFA 2F9EEM958B 2F9EFM4995 2F9F0M95B7 2F9F1M28D77",
    "2F9F2M49E6 2F9F3M96C3 2F9F4M5DB2 2F9F5M9723 2F9F6M29145 2F9F7M2921A 2F9F8M4A6E 2F9F9M4A76",
    "2F9FAM97E0 2F9FBM2940A 2F9FCM4AB2 2F9FDM29496 2F9FEM980B 2F9FFM980B 2FA00M9829 2FA01M295B6",
    "2FA02M98E2 2FA03M4B33 2FA04M9929 2FA05M99A7 2FA06M99C2 2FA07M99FE 2FA08M4BCE 2FA09M29B30",
    "2FA0AM9B12 2FA0BM9C40 2FA0CM9CFD 2FA0DM4CCE 2FA0EM4CED 2FA0FM9D67 2FA10M2A0CE 2FA11M4CF8",
    "2FA12M2A105 2FA13M2A20E 2FA14M2A291 2FA15M9EBB 2FA16M4D56 2FA17M9EF9 2FA18M9EFE 2FA19M9F05",
    "2FA1AM9F0F 2FA1BM9F16 2FA1CM9F3B 2FA1DM2A600 2FA1EV 2FFFEX 30000V 3FFFEX E0100I E01F0X"]

/-- A row of the mapping table from its word. -/
def mappingRow? (w : List Char) : Option (Nat × MappingRow) :=
  let (start, rest) := leadingHex w
  match rest with
  | ['V'] => some (start, .uniform .valid)
  | ['I'] => some (start, .uniform .ignored)
  | ['T'] => some (start, .uniform .deviation)
  | ['X'] => some (start, .uniform .disallowed)
  | 'M' :: cps => some (start, .uniform (.mapped ((hexList cps).map Char.ofNat)))
  | 'R' :: target => some (start, .shifted (hexNumber target))
  | ['P'] => some (start, .alternating)
  | _ => none

/-- The mapping table. -/
def mappingTable : CodePointTable MappingRow :=
  .ofRows ((tableWords mappingText).filterMap mappingRow?)

/-- The status of a code point. -/
def status (c : Char) : Status :=
  match mappingTable.find? c.toNat with
  | some (_, .uniform s) => s
  | some (start, .shifted target) => .mapped [Char.ofNat (target + (c.toNat - start))]
  | some (start, .alternating) =>
    if (c.toNat - start) % 2 = 0 then .mapped [Char.ofNat (c.toNat + 1)] else .valid
  | none => .disallowed

end SyslogRelay.Text.Idna
