import BeanGraph.Unicode.CodeSet

/-!
# Script extensions

The code points that are used with a script, whether or not they belong to it alone.
`scriptExtensions` lists the sets with the names of their scripts, in lower case and without
underscores.
-/

namespace BeanGraph.Unicode

/-- Code points used with the script Adlam. -/
def adlamUse : CodeSet := .ofText
  "061F 0640 204F 2E41 1E900-1E94B 1E950-1E959 1E95E-1E95F"

/-- Code points used with the script Ahom. -/
def ahomUse : CodeSet := .ofText
  "11700-1171A 1171D-1172B 11730-11746"

/-- Code points used with the script Anatolian Hieroglyphs. -/
def anatolianHieroglyphsUse : CodeSet := .ofText
  "14400-14646"

/-- Code points used with the script Arabic. -/
def arabicUse : CodeSet := .ofText
  "0600-0604 0606-06DC 06DE-06FF 0750-077F 0870-0891 0897-08E1 08E3-08FF 204F 2E41 FB50-FDCF
    FDF0-FDFF FE70-FE74 FE76-FEFC 102E0-102FB 10E60-10E7E 10EC2-10EC7 10ED0-10ED8 10EFA-10EFF
    1EE00-1EE03 1EE05-1EE1F 1EE21-1EE22 1EE24 1EE27 1EE29-1EE32 1EE34-1EE37 1EE39 1EE3B 1EE42
    1EE47 1EE49 1EE4B 1EE4D-1EE4F 1EE51-1EE52 1EE54 1EE57 1EE59 1EE5B 1EE5D 1EE5F 1EE61-1EE62
    1EE64 1EE67-1EE6A 1EE6C-1EE72 1EE74-1EE77 1EE79-1EE7C 1EE7E 1EE80-1EE89 1EE8B-1EE9B
    1EEA1-1EEA3 1EEA5-1EEA9 1EEAB-1EEBB 1EEF0-1EEF1"

/-- Code points used with the script Armenian. -/
def armenianUse : CodeSet := .ofText
  "0308 0531-0556 0559-058A 058D-058F FB13-FB17"

/-- Code points used with the script Avestan. -/
def avestanUse : CodeSet := .ofText
  "00B7 2E30-2E31 10B00-10B35 10B39-10B3F"

/-- Code points used with the script Balinese. -/
def balineseUse : CodeSet := .ofText
  "1B00-1B4C 1B4E-1B7F"

/-- Code points used with the script Bamum. -/
def bamumUse : CodeSet := .ofText
  "A6A0-A6F7 16800-16A38"

/-- Code points used with the script Bassa Vah. -/
def bassaVahUse : CodeSet := .ofText
  "16AD0-16AED 16AF0-16AF5"

/-- Code points used with the script Batak. -/
def batakUse : CodeSet := .ofText
  "1BC0-1BF3 1BFC-1BFF"

/-- Code points used with the script Bengali. -/
def bengaliUse : CodeSet := .ofText
  "02BC 0951-0952 0964-0965 0980-0983 0985-098C 098F-0990 0993-09A8 09AA-09B0 09B2 09B6-09B9
    09BC-09C4 09C7-09C8 09CB-09CE 09D7 09DC-09DD 09DF-09E3 09E6-09FE 1CD0 1CD2 1CD5-1CD6 1CD8
    1CE1 1CEA 1CED 1CF2 1CF5-1CF7 A8F1"

/-- Code points used with the script Bhaiksuki. -/
def bhaiksukiUse : CodeSet := .ofText
  "11C00-11C08 11C0A-11C36 11C38-11C45 11C50-11C6C"

/-- Code points used with the script Bopomofo. -/
def bopomofoUse : CodeSet := .ofText
  "02C7 02C9-02CB 02D9 02EA-02EB 3001-3003 3008-3011 3013-301F 302A-302D 3030 3037 30FB
    3105-312F 31A0-31BF FE45-FE46 FF61-FF65"

/-- Code points used with the script Brahmi. -/
def brahmiUse : CodeSet := .ofText
  "11000-1104D 11052-11075 1107F"

/-- Code points used with the script Braille. -/
def brailleUse : CodeSet := .ofText
  "2800-28FF"

/-- Code points used with the script Buginese. -/
def bugineseUse : CodeSet := .ofText
  "1A00-1A1B 1A1E-1A1F A9CF"

/-- Code points used with the script Buhid. -/
def buhidUse : CodeSet := .ofText
  "1735-1736 1740-1753"

/-- Code points used with the script Canadian Aboriginal. -/
def canadianAboriginalUse : CodeSet := .ofText
  "1400-167F 18B0-18F5 11AB0-11ABF"

/-- Code points used with the script Carian. -/
def carianUse : CodeSet := .ofText
  "00B7 205A 205D 2E31 102A0-102D0"

/-- Code points used with the script Caucasian Albanian. -/
def caucasianAlbanianUse : CodeSet := .ofText
  "0304 0331 035E 10530-10563 1056F"

/-- Code points used with the script Chakma. -/
def chakmaUse : CodeSet := .ofText
  "09E6-09EF 1040-1049 11100-11134 11136-11147"

/-- Code points used with the script Cham. -/
def chamUse : CodeSet := .ofText
  "AA00-AA36 AA40-AA4D AA50-AA59 AA5C-AA5F"

/-- Code points used with the script Cherokee. -/
def cherokeeUse : CodeSet := .ofText
  "0300-0302 0304 030B-030C 0323-0324 0330-0331 13A0-13F5 13F8-13FD AB70-ABBF"

/-- Code points used with the script Chorasmian. -/
def chorasmianUse : CodeSet := .ofText
  "10FB0-10FCB"

/-- Code points used with the script Common. -/
def commonUse : CodeSet := .ofText
  "0000-0040 005B-0060 007B-00A9 00AB-00B6 00B8-00B9 00BB-00BF 00D7 00F7 02B9-02BB 02BD-02C6
    02C8 02CC 02CE-02D6 02D8 02DA-02DF 02E5-02E9 02EC-02FF 037E 0385 0387 0605 06DD 08E2 0E3F
    0FD5-0FD8 2000-200B 200E-202E 2030-204E 2050-2059 205B-205C 205E-2064 2066-2070 2074-207E
    2080-208E 20A0-20C1 2100-2125 2127-2129 212C-2131 2133-214D 214F-215F 2189-218B 2190-2429
    2440-244A 2460-27FF 2900-2B73 2B76-2BFF 2E00-2E16 2E18-2E2F 2E32-2E3B 2E3D-2E40 2E42
    2E44-2E5D 3000 3004 3012 3020 3036 3248-325F 327F 32B1-32BF 32CC-32CF 3371-337A 3380-33DF
    33FF 4DC0-4DFF A708-A721 A788-A78A AB5B AB6A-AB6B FE10-FE19 FE30-FE44 FE47-FE52 FE54-FE66
    FE68-FE6B FEFF FF01-FF20 FF3B-FF40 FF5B-FF60 FFE0-FFE6 FFE8-FFEE FFF9-FFFD 10190-1019C
    101D0-101FC 1CC00-1CCFC 1CD00-1CEB3 1CEBA-1CED0 1CEE0-1CEF0 1CF50-1CFC3 1D000-1D0F5
    1D100-1D126 1D129-1D166 1D16A-1D17A 1D183-1D184 1D18C-1D1A9 1D1AE-1D1EA 1D2C0-1D2D3
    1D2E0-1D2F3 1D300-1D356 1D372-1D378 1D400-1D454 1D456-1D49C 1D49E-1D49F 1D4A2 1D4A5-1D4A6
    1D4A9-1D4AC 1D4AE-1D4B9 1D4BB 1D4BD-1D4C3 1D4C5-1D505 1D507-1D50A 1D50D-1D514 1D516-1D51C
    1D51E-1D539 1D53B-1D53E 1D540-1D544 1D546 1D54A-1D550 1D552-1D6A5 1D6A8-1D7CB 1D7CE-1D7FF
    1EC71-1ECB4 1ED01-1ED3D 1F000-1F02B 1F030-1F093 1F0A0-1F0AE 1F0B1-1F0BF 1F0C1-1F0CF
    1F0D1-1F0F5 1F100-1F1AD 1F1E6-1F1FF 1F201-1F202 1F210-1F23B 1F240-1F248 1F260-1F265
    1F300-1F6D8 1F6DC-1F6EC 1F6F0-1F6FC 1F700-1F7D9 1F7E0-1F7EB 1F7F0 1F800-1F80B 1F810-1F847
    1F850-1F859 1F860-1F887 1F890-1F8AD 1F8B0-1F8BB 1F8C0-1F8C1 1F8D0-1F8D8 1F900-1FA57
    1FA60-1FA6D 1FA70-1FA7C 1FA80-1FA8A 1FA8E-1FAC6 1FAC8 1FACD-1FADC 1FADF-1FAEA 1FAEF-1FAF8
    1FB00-1FB92 1FB94-1FBFA E0001 E0020-E007F"

/-- Code points used with the script Coptic. -/
def copticUse : CodeSet := .ofText
  "00B7 0300 0304-0305 0307 0374-0375 03E2-03EF 2C80-2CF3 2CF9-2CFF 2E17 102E0-102FB"

/-- Code points used with the script Cuneiform. -/
def cuneiformUse : CodeSet := .ofText
  "12000-12399 12400-1246E 12470-12474 12480-12543"

/-- Code points used with the script Cypriot. -/
def cypriotUse : CodeSet := .ofText
  "10100-10102 10107-10133 10137-1013F 10800-10805 10808 1080A-10835 10837-10838 1083C 1083F"

/-- Code points used with the script Cypro Minoan. -/
def cyproMinoanUse : CodeSet := .ofText
  "10100-10101 12F90-12FF2"

/-- Code points used with the script Cyrillic. -/
def cyrillicUse : CodeSet := .ofText
  "02BC 0300-0302 0304 0306 0308 030B 0311 0400-052F 1C80-1C8A 1D2B 1D78 1DF8 2DE0-2DFF 2E43
    A640-A69F FE2E-FE2F 1E030-1E06D 1E08F"

/-- Code points used with the script Deseret. -/
def deseretUse : CodeSet := .ofText
  "10400-1044F"

/-- Code points used with the script Devanagari. -/
def devanagariUse : CodeSet := .ofText
  "02BC 0900-0952 0955-097F 1CD0-1CF6 1CF8-1CF9 20F0 A830-A839 A8E0-A8FF 11B00-11B09"

/-- Code points used with the script Dives Akuru. -/
def divesAkuruUse : CodeSet := .ofText
  "11900-11906 11909 1190C-11913 11915-11916 11918-11935 11937-11938 1193B-11946 11950-11959"

/-- Code points used with the script Dogra. -/
def dograUse : CodeSet := .ofText
  "0964-096F A830-A839 11800-1183B"

/-- Code points used with the script Duployan. -/
def duployanUse : CodeSet := .ofText
  "00B7 0307-0308 030A 0323-0324 2E3C 1BC00-1BC6A 1BC70-1BC7C 1BC80-1BC88 1BC90-1BC99
    1BC9C-1BCA3"

/-- Code points used with the script Egyptian Hieroglyphs. -/
def egyptianHieroglyphsUse : CodeSet := .ofText
  "13000-13455 13460-143FA"

/-- Code points used with the script Elbasan. -/
def elbasanUse : CodeSet := .ofText
  "00B7 0305 10500-10527"

/-- Code points used with the script Elymaic. -/
def elymaicUse : CodeSet := .ofText
  "10FE0-10FF6"

/-- Code points used with the script Ethiopic. -/
def ethiopicUse : CodeSet := .ofText
  "030E 1200-1248 124A-124D 1250-1256 1258 125A-125D 1260-1288 128A-128D 1290-12B0 12B2-12B5
    12B8-12BE 12C0 12C2-12C5 12C8-12D6 12D8-1310 1312-1315 1318-135A 135D-137C 1380-1399
    2D80-2D96 2DA0-2DA6 2DA8-2DAE 2DB0-2DB6 2DB8-2DBE 2DC0-2DC6 2DC8-2DCE 2DD0-2DD6 2DD8-2DDE
    AB01-AB06 AB09-AB0E AB11-AB16 AB20-AB26 AB28-AB2E 1E7E0-1E7E6 1E7E8-1E7EB 1E7ED-1E7EE
    1E7F0-1E7FE"

/-- Code points used with the script Garay. -/
def garayUse : CodeSet := .ofText
  "060C 061B 061F 10D40-10D65 10D69-10D85 10D8E-10D8F"

/-- Code points used with the script Georgian. -/
def georgianUse : CodeSet := .ofText
  "00B7 0589 10A0-10C5 10C7 10CD 10D0-10FF 1C90-1CBA 1CBD-1CBF 205A 2D00-2D25 2D27 2D2D 2E31"

/-- Code points used with the script Glagolitic. -/
def glagoliticUse : CodeSet := .ofText
  "00B7 0303 0305 0484 0487 0589 10FB 205A 2C00-2C5F 2E43 A66F 1E000-1E006 1E008-1E018
    1E01B-1E021 1E023-1E024 1E026-1E02A"

/-- Code points used with the script Gothic. -/
def gothicUse : CodeSet := .ofText
  "00B7 0304-0305 0308 0331 10330-1034A"

/-- Code points used with the script Grantha. -/
def granthaUse : CodeSet := .ofText
  "0951-0952 0964-0965 0BE6-0BF3 1CD0 1CD2-1CD3 1CF2-1CF4 1CF8-1CF9 20F0 11300-11303
    11305-1130C 1130F-11310 11313-11328 1132A-11330 11332-11333 11335-11339 1133B-11344
    11347-11348 1134B-1134D 11350 11357 1135D-11363 11366-1136C 11370-11374 11FD0-11FD1 11FD3"

/-- Code points used with the script Greek. -/
def greekUse : CodeSet := .ofText
  "00B7 0300-0301 0304 0306 0308 0313 0342 0345 0370-0377 037A-037D 037F 0384 0386 0388-038A
    038C 038E-03A1 03A3-03E1 03F0-03FF 1D26-1D2A 1D5D-1D61 1D66-1D6A 1DBF-1DC1 1F00-1F15
    1F18-1F1D 1F20-1F45 1F48-1F4D 1F50-1F57 1F59 1F5B 1F5D 1F5F-1F7D 1F80-1FB4 1FB6-1FC4
    1FC6-1FD3 1FD6-1FDB 1FDD-1FEF 1FF2-1FF4 1FF6-1FFE 205D 2126 AB65 10140-1018E 101A0
    1D200-1D245"

/-- Code points used with the script Gujarati. -/
def gujaratiUse : CodeSet := .ofText
  "0951-0952 0964-0965 0A81-0A83 0A85-0A8D 0A8F-0A91 0A93-0AA8 0AAA-0AB0 0AB2-0AB3 0AB5-0AB9
    0ABC-0AC5 0AC7-0AC9 0ACB-0ACD 0AD0 0AE0-0AE3 0AE6-0AF1 0AF9-0AFF A830-A839"

/-- Code points used with the script Gunjala Gondi. -/
def gunjalaGondiUse : CodeSet := .ofText
  "00B7 0964-0965 11D60-11D65 11D67-11D68 11D6A-11D8E 11D90-11D91 11D93-11D98 11DA0-11DA9"

/-- Code points used with the script Gurmukhi. -/
def gurmukhiUse : CodeSet := .ofText
  "0951-0952 0964-0965 0A01-0A03 0A05-0A0A 0A0F-0A10 0A13-0A28 0A2A-0A30 0A32-0A33 0A35-0A36
    0A38-0A39 0A3C 0A3E-0A42 0A47-0A48 0A4B-0A4D 0A51 0A59-0A5C 0A5E 0A66-0A76 A830-A839"

/-- Code points used with the script Gurung Khema. -/
def gurungKhemaUse : CodeSet := .ofText
  "0965 16100-16139"

/-- Code points used with the script Han. -/
def hanUse : CodeSet := .ofText
  "00B7 2E80-2E99 2E9B-2EF3 2F00-2FD5 2FF0-2FFF 3001-3003 3005-3011 3013-301F 3021-302D 3030
    3037-303F 30FB 3190-319F 31C0-31E5 31EF 3220-3247 3280-32B0 32C0-32CB 32FF 3358-3370
    337B-337F 33E0-33FE 3400-4DBF 4E00-9FFF A700-A707 F900-FA6D FA70-FAD9 FE45-FE46 FF61-FF65
    16FE2-16FE3 16FF0-16FF6 1D360-1D371 1F250-1F251 20000-2A6DF 2A700-2B81D 2B820-2CEAD
    2CEB0-2EBE0 2EBF0-2EE5D 2F800-2FA1D 30000-3134A 31350-33479"

/-- Code points used with the script Hangul. -/
def hangulUse : CodeSet := .ofText
  "1100-11FF 3001-3003 3008-3011 3013-301F 302E-3030 3037 30FB 3131-318E 3200-321E 3260-327E
    A960-A97C AC00-D7A3 D7B0-D7C6 D7CB-D7FB FE45-FE46 FF61-FF65 FFA0-FFBE FFC2-FFC7 FFCA-FFCF
    FFD2-FFD7 FFDA-FFDC"

/-- Code points used with the script Hanifi Rohingya. -/
def hanifiRohingyaUse : CodeSet := .ofText
  "060C 061B 061F 0640 06D4 10D00-10D27 10D30-10D39"

/-- Code points used with the script Hanunoo. -/
def hanunooUse : CodeSet := .ofText
  "1720-1736"

/-- Code points used with the script Hatran. -/
def hatranUse : CodeSet := .ofText
  "108E0-108F2 108F4-108F5 108FB-108FF"

/-- Code points used with the script Hebrew. -/
def hebrewUse : CodeSet := .ofText
  "0307-0308 0591-05C7 05D0-05EA 05EF-05F4 FB1D-FB36 FB38-FB3C FB3E FB40-FB41 FB43-FB44
    FB46-FB4F"

/-- Code points used with the script Hiragana. -/
def hiraganaUse : CodeSet := .ofText
  "3001-3003 3008-3011 3013-301F 3030-3035 3037 303C-303D 3041-3096 3099-30A0 30FB-30FC
    FE45-FE46 FF61-FF65 FF70 FF9E-FF9F 1B001-1B11F 1B132 1B150-1B152 1F200"

/-- Code points used with the script Imperial Aramaic. -/
def imperialAramaicUse : CodeSet := .ofText
  "10840-10855 10857-1085F"

/-- Code points used with the script Inherited. -/
def inheritedUse : CodeSet := .ofText
  "030F 0312 0314-0322 0326-032C 032F 0332-0341 0343-0344 0346-0357 0359-035D 035F-0362
    0953-0954 1AB0-1ADD 1AE0-1AEB 1DC2-1DF7 1DF9 1DFB-1DFF 200C-200D 20D0-20EF FE00-FE0F
    FE20-FE2D 101FD 1CF00-1CF2D 1CF30-1CF46 1D167-1D169 1D17B-1D182 1D185-1D18B 1D1AA-1D1AD
    E0100-E01EF"

/-- Code points used with the script Inscriptional Pahlavi. -/
def inscriptionalPahlaviUse : CodeSet := .ofText
  "10B60-10B72 10B78-10B7F"

/-- Code points used with the script Inscriptional Parthian. -/
def inscriptionalParthianUse : CodeSet := .ofText
  "10B40-10B55 10B58-10B5F"

/-- Code points used with the script Javanese. -/
def javaneseUse : CodeSet := .ofText
  "A980-A9CD A9CF-A9D9 A9DE-A9DF"

/-- Code points used with the script Kaithi. -/
def kaithiUse : CodeSet := .ofText
  "0966-096F 2E31 A830-A839 11080-110C2 110CD"

/-- Code points used with the script Kannada. -/
def kannadaUse : CodeSet := .ofText
  "0951-0952 0964-0965 0C80-0C8C 0C8E-0C90 0C92-0CA8 0CAA-0CB3 0CB5-0CB9 0CBC-0CC4 0CC6-0CC8
    0CCA-0CCD 0CD5-0CD6 0CDC-0CDE 0CE0-0CE3 0CE6-0CEF 0CF1-0CF3 1CD0 1CD2-1CD3 1CDA 1CF2 1CF4
    A830-A835"

/-- Code points used with the script Katakana. -/
def katakanaUse : CodeSet := .ofText
  "0305 0323 3001-3003 3008-3011 3013-301F 3030-3035 3037 303C-303D 3099-309C 30A0-30FF
    31F0-31FF 32D0-32FE 3300-3357 FE45-FE46 FF61-FF9F 1AFF0-1AFF3 1AFF5-1AFFB 1AFFD-1AFFE 1B000
    1B120-1B122 1B155 1B164-1B167"

/-- Code points used with the script Kawi. -/
def kawiUse : CodeSet := .ofText
  "11F00-11F10 11F12-11F3A 11F3E-11F5A"

/-- Code points used with the script Kayah Li. -/
def kayahLiUse : CodeSet := .ofText
  "A900-A92F"

/-- Code points used with the script Kharoshthi. -/
def kharoshthiUse : CodeSet := .ofText
  "10A00-10A03 10A05-10A06 10A0C-10A13 10A15-10A17 10A19-10A35 10A38-10A3A 10A3F-10A48
    10A50-10A58"

/-- Code points used with the script Khitan Small Script. -/
def khitanSmallScriptUse : CodeSet := .ofText
  "16FE4 18B00-18CD5 18CFF"

/-- Code points used with the script Khmer. -/
def khmerUse : CodeSet := .ofText
  "1780-17DD 17E0-17E9 17F0-17F9 19E0-19FF"

/-- Code points used with the script Khojki. -/
def khojkiUse : CodeSet := .ofText
  "0AE6-0AEF A830-A839 11200-11211 11213-11241"

/-- Code points used with the script Khudawadi. -/
def khudawadiUse : CodeSet := .ofText
  "0964-0965 A830-A839 112B0-112EA 112F0-112F9"

/-- Code points used with the script Kirat Rai. -/
def kiratRaiUse : CodeSet := .ofText
  "16D40-16D79"

/-- Code points used with the script Lao. -/
def laoUse : CodeSet := .ofText
  "0E81-0E82 0E84 0E86-0E8A 0E8C-0EA3 0EA5 0EA7-0EBD 0EC0-0EC4 0EC6 0EC8-0ECE 0ED0-0ED9
    0EDC-0EDF"

/-- Code points used with the script Latin. -/
def latinUse : CodeSet := .ofText
  "0041-005A 0061-007A 00AA 00B7 00BA 00C0-00D6 00D8-00F6 00F8-02B8 02BC 02C7 02C9-02CB 02CD
    02D7 02D9 02E0-02E4 0300-030E 0310-0311 0313 0323-0325 032D-032E 0330-0331 0358 035E
    0363-036F 0485-0486 0951-0952 10FB 1D00-1D25 1D2C-1D5C 1D62-1D65 1D6B-1D77 1D79-1DBE 1DF8
    1E00-1EFF 202F 2071 207F 2090-209C 20F0 212A-212B 2132 214E 2160-2188 2C60-2C7F 2E17
    A700-A707 A722-A787 A78B-A7DC A7F1-A7FF A92E AB30-AB5A AB5C-AB64 AB66-AB69 FB00-FB06
    FF21-FF3A FF41-FF5A 10780-10785 10787-107B0 107B2-107BA 1DF00-1DF1E 1DF25-1DF2A"

/-- Code points used with the script Lepcha. -/
def lepchaUse : CodeSet := .ofText
  "1C00-1C37 1C3B-1C49 1C4D-1C4F"

/-- Code points used with the script Limbu. -/
def limbuUse : CodeSet := .ofText
  "0965 1900-191E 1920-192B 1930-193B 1940 1944-194F"

/-- Code points used with the script Linear A. -/
def linearAUse : CodeSet := .ofText
  "10107-10133 10600-10736 10740-10755 10760-10767"

/-- Code points used with the script Linear B. -/
def linearBUse : CodeSet := .ofText
  "10000-1000B 1000D-10026 10028-1003A 1003C-1003D 1003F-1004D 10050-1005D 10080-100FA
    10100-10102 10107-10133 10137-1013F"

/-- Code points used with the script Lisu. -/
def lisuUse : CodeSet := .ofText
  "02BC 02CD 300A-300B A4D0-A4FF 11FB0"

/-- Code points used with the script Lycian. -/
def lycianUse : CodeSet := .ofText
  "205A 10280-1029C"

/-- Code points used with the script Lydian. -/
def lydianUse : CodeSet := .ofText
  "00B7 2E31 10920-10939 1093F"

/-- Code points used with the script Mahajani. -/
def mahajaniUse : CodeSet := .ofText
  "00B7 0964-096F A830-A839 11150-11176"

/-- Code points used with the script Makasar. -/
def makasarUse : CodeSet := .ofText
  "11EE0-11EF8"

/-- Code points used with the script Malayalam. -/
def malayalamUse : CodeSet := .ofText
  "0951-0952 0964-0965 0D00-0D0C 0D0E-0D10 0D12-0D44 0D46-0D48 0D4A-0D4F 0D54-0D63 0D66-0D7F
    1CDA 1CF2 A830-A832"

/-- Code points used with the script Mandaic. -/
def mandaicUse : CodeSet := .ofText
  "0640 0840-085B 085E"

/-- Code points used with the script Manichaean. -/
def manichaeanUse : CodeSet := .ofText
  "0640 10AC0-10AE6 10AEB-10AF6"

/-- Code points used with the script Marchen. -/
def marchenUse : CodeSet := .ofText
  "11C70-11C8F 11C92-11CA7 11CA9-11CB6"

/-- Code points used with the script Masaram Gondi. -/
def masaramGondiUse : CodeSet := .ofText
  "0964-0965 11D00-11D06 11D08-11D09 11D0B-11D36 11D3A 11D3C-11D3D 11D3F-11D47 11D50-11D59"

/-- Code points used with the script Medefaidrin. -/
def medefaidrinUse : CodeSet := .ofText
  "16E40-16E9A"

/-- Code points used with the script Meetei Mayek. -/
def meeteiMayekUse : CodeSet := .ofText
  "AAE0-AAF6 ABC0-ABED ABF0-ABF9"

/-- Code points used with the script Mende Kikakui. -/
def mendeKikakuiUse : CodeSet := .ofText
  "1E800-1E8C4 1E8C7-1E8D6"

/-- Code points used with the script Meroitic Cursive. -/
def meroiticCursiveUse : CodeSet := .ofText
  "109A0-109B7 109BC-109CF 109D2-109FF"

/-- Code points used with the script Meroitic Hieroglyphs. -/
def meroiticHieroglyphsUse : CodeSet := .ofText
  "205D 10980-1099F"

/-- Code points used with the script Miao. -/
def miaoUse : CodeSet := .ofText
  "16F00-16F4A 16F4F-16F87 16F8F-16F9F"

/-- Code points used with the script Modi. -/
def modiUse : CodeSet := .ofText
  "A830-A839 11600-11644 11650-11659"

/-- Code points used with the script Mongolian. -/
def mongolianUse : CodeSet := .ofText
  "1800-1819 1820-1878 1880-18AA 202F 3001-3002 3008-300B 11660-1166C"

/-- Code points used with the script Mro. -/
def mroUse : CodeSet := .ofText
  "16A40-16A5E 16A60-16A69 16A6E-16A6F"

/-- Code points used with the script Multani. -/
def multaniUse : CodeSet := .ofText
  "0A66-0A6F 11280-11286 11288 1128A-1128D 1128F-1129D 1129F-112A9"

/-- Code points used with the script Myanmar. -/
def myanmarUse : CodeSet := .ofText
  "1000-109F A92E A9E0-A9FE AA60-AA7F 116D0-116E3"

/-- Code points used with the script Nabataean. -/
def nabataeanUse : CodeSet := .ofText
  "10880-1089E 108A7-108AF"

/-- Code points used with the script Nag Mundari. -/
def nagMundariUse : CodeSet := .ofText
  "1E4D0-1E4F9"

/-- Code points used with the script Nandinagari. -/
def nandinagariUse : CodeSet := .ofText
  "0951 0964-0965 0CE6-0CEF 1CE9 1CF2 1CFA A830-A835 119A0-119A7 119AA-119D7 119DA-119E4"

/-- Code points used with the script New Tai Lue. -/
def newTaiLueUse : CodeSet := .ofText
  "1980-19AB 19B0-19C9 19D0-19DA 19DE-19DF"

/-- Code points used with the script Newa. -/
def newaUse : CodeSet := .ofText
  "0951-0952 1CD5 1CD7-1CD8 1CE2 1CE9 1CEB 1CED 11400-1145B 1145D-11461"

/-- Code points used with the script Nko. -/
def nkoUse : CodeSet := .ofText
  "060C 061B 061F 07C0-07FA 07FD-07FF FD3E-FD3F"

/-- Code points used with the script Nushu. -/
def nushuUse : CodeSet := .ofText
  "16FE1 1B170-1B2FB"

/-- Code points used with the script Nyiakeng Puachue Hmong. -/
def nyiakengPuachueHmongUse : CodeSet := .ofText
  "1E100-1E12C 1E130-1E13D 1E140-1E149 1E14E-1E14F"

/-- Code points used with the script Ogham. -/
def oghamUse : CodeSet := .ofText
  "1680-169C"

/-- Code points used with the script Ol Chiki. -/
def olChikiUse : CodeSet := .ofText
  "1C50-1C7F"

/-- Code points used with the script Ol Onal. -/
def olOnalUse : CodeSet := .ofText
  "0964-0965 1E5D0-1E5FA 1E5FF"

/-- Code points used with the script Old Hungarian. -/
def oldHungarianUse : CodeSet := .ofText
  "205A 205D 2E31 2E41 10C80-10CB2 10CC0-10CF2 10CFA-10CFF"

/-- Code points used with the script Old Italic. -/
def oldItalicUse : CodeSet := .ofText
  "10300-10323 1032D-1032F"

/-- Code points used with the script Old North Arabian. -/
def oldNorthArabianUse : CodeSet := .ofText
  "10A80-10A9F"

/-- Code points used with the script Old Permic. -/
def oldPermicUse : CodeSet := .ofText
  "00B7 0300 0306-0308 0313 0483 10350-1037A"

/-- Code points used with the script Old Persian. -/
def oldPersianUse : CodeSet := .ofText
  "103A0-103C3 103C8-103D5"

/-- Code points used with the script Old Sogdian. -/
def oldSogdianUse : CodeSet := .ofText
  "10F00-10F27"

/-- Code points used with the script Old South Arabian. -/
def oldSouthArabianUse : CodeSet := .ofText
  "10A60-10A7F"

/-- Code points used with the script Old Turkic. -/
def oldTurkicUse : CodeSet := .ofText
  "205A 2E30 10C00-10C48"

/-- Code points used with the script Old Uyghur. -/
def oldUyghurUse : CodeSet := .ofText
  "0640 10AF2 10F70-10F89"

/-- Code points used with the script Oriya. -/
def oriyaUse : CodeSet := .ofText
  "0951-0952 0964-0965 0B01-0B03 0B05-0B0C 0B0F-0B10 0B13-0B28 0B2A-0B30 0B32-0B33 0B35-0B39
    0B3C-0B44 0B47-0B48 0B4B-0B4D 0B55-0B57 0B5C-0B5D 0B5F-0B63 0B66-0B77 1CDA 1CF2"

/-- Code points used with the script Osage. -/
def osageUse : CodeSet := .ofText
  "0301 0304 030B 0358 104B0-104D3 104D8-104FB"

/-- Code points used with the script Osmanya. -/
def osmanyaUse : CodeSet := .ofText
  "10480-1049D 104A0-104A9"

/-- Code points used with the script Pahawh Hmong. -/
def pahawhHmongUse : CodeSet := .ofText
  "16B00-16B45 16B50-16B59 16B5B-16B61 16B63-16B77 16B7D-16B8F"

/-- Code points used with the script Palmyrene. -/
def palmyreneUse : CodeSet := .ofText
  "10860-1087F"

/-- Code points used with the script Pau Cin Hau. -/
def pauCinHauUse : CodeSet := .ofText
  "11AC0-11AF8"

/-- Code points used with the script Phags Pa. -/
def phagsPaUse : CodeSet := .ofText
  "1802-1803 1805 202F 3002 A840-A877"

/-- Code points used with the script Phoenician. -/
def phoenicianUse : CodeSet := .ofText
  "10900-1091B 1091F"

/-- Code points used with the script Psalter Pahlavi. -/
def psalterPahlaviUse : CodeSet := .ofText
  "0640 10B80-10B91 10B99-10B9C 10BA9-10BAF"

/-- Code points used with the script Rejang. -/
def rejangUse : CodeSet := .ofText
  "A930-A953 A95F"

/-- Code points used with the script Runic. -/
def runicUse : CodeSet := .ofText
  "16A0-16F8"

/-- Code points used with the script Samaritan. -/
def samaritanUse : CodeSet := .ofText
  "0800-082D 0830-083E 2E31"

/-- Code points used with the script Saurashtra. -/
def saurashtraUse : CodeSet := .ofText
  "A880-A8C5 A8CE-A8D9"

/-- Code points used with the script Sharada. -/
def sharadaUse : CodeSet := .ofText
  "0951 1CD7 1CD9 1CDC-1CDD 1CE0 1CEA 1CED A830-A835 A838 11180-111DF 11B60-11B67"

/-- Code points used with the script Shavian. -/
def shavianUse : CodeSet := .ofText
  "00B7 10450-1047F"

/-- Code points used with the script Siddham. -/
def siddhamUse : CodeSet := .ofText
  "11580-115B5 115B8-115DD"

/-- Code points used with the script SignWriting. -/
def signWritingUse : CodeSet := .ofText
  "1D800-1DA8B 1DA9B-1DA9F 1DAA1-1DAAF"

/-- Code points used with the script Sinhala. -/
def sinhalaUse : CodeSet := .ofText
  "0964-0965 0D81-0D83 0D85-0D96 0D9A-0DB1 0DB3-0DBB 0DBD 0DC0-0DC6 0DCA 0DCF-0DD4 0DD6
    0DD8-0DDF 0DE6-0DEF 0DF2-0DF4 1CF2 111E1-111F4"

/-- Code points used with the script Sogdian. -/
def sogdianUse : CodeSet := .ofText
  "0640 10F30-10F59"

/-- Code points used with the script Sora Sompeng. -/
def soraSompengUse : CodeSet := .ofText
  "110D0-110E8 110F0-110F9"

/-- Code points used with the script Soyombo. -/
def soyomboUse : CodeSet := .ofText
  "11A50-11AA2"

/-- Code points used with the script Sundanese. -/
def sundaneseUse : CodeSet := .ofText
  "1B80-1BBF 1CC0-1CC7"

/-- Code points used with the script Sunuwar. -/
def sunuwarUse : CodeSet := .ofText
  "0300-0301 0303 030D 0310 032D 0331 11BC0-11BE1 11BF0-11BF9"

/-- Code points used with the script Syloti Nagri. -/
def sylotiNagriUse : CodeSet := .ofText
  "0964-0965 09E6-09EF A800-A82C"

/-- Code points used with the script Syriac. -/
def syriacUse : CodeSet := .ofText
  "0303-0304 0307-0308 030A 0323-0325 032D-032E 0330-0331 060C 061B-061C 061F 0640 064B-0655
    0670 0700-070D 070F-074A 074D-074F 0860-086A 1DF8 1DFA"

/-- Code points used with the script Tagalog. -/
def tagalogUse : CodeSet := .ofText
  "1700-1715 171F 1735-1736"

/-- Code points used with the script Tagbanwa. -/
def tagbanwaUse : CodeSet := .ofText
  "1735-1736 1760-176C 176E-1770 1772-1773"

/-- Code points used with the script Tai Le. -/
def taiLeUse : CodeSet := .ofText
  "0300-0301 0307-0308 030C 1040-1049 1950-196D 1970-1974"

/-- Code points used with the script Tai Tham. -/
def taiThamUse : CodeSet := .ofText
  "1A20-1A5E 1A60-1A7C 1A7F-1A89 1A90-1A99 1AA0-1AAD"

/-- Code points used with the script Tai Viet. -/
def taiVietUse : CodeSet := .ofText
  "AA80-AAC2 AADB-AADF"

/-- Code points used with the script Takri. -/
def takriUse : CodeSet := .ofText
  "0964-0965 A830-A839 11680-116B9 116C0-116C9"

/-- Code points used with the script Tamil. -/
def tamilUse : CodeSet := .ofText
  "0951-0952 0964-0965 0B82-0B83 0B85-0B8A 0B8E-0B90 0B92-0B95 0B99-0B9A 0B9C 0B9E-0B9F
    0BA3-0BA4 0BA8-0BAA 0BAE-0BB9 0BBE-0BC2 0BC6-0BC8 0BCA-0BCD 0BD0 0BD7 0BE6-0BFA 1CDA A8F3
    11301 11303 1133B-1133C 11FC0-11FF1 11FFF"

/-- Code points used with the script Tangsa. -/
def tangsaUse : CodeSet := .ofText
  "16A70-16ABE 16AC0-16AC9"

/-- Code points used with the script Tangut. -/
def tangutUse : CodeSet := .ofText
  "2FF0-2FFF 31EF 16FE0 17000-18AFF 18D00-18D1E 18D80-18DF2"

/-- Code points used with the script Telugu. -/
def teluguUse : CodeSet := .ofText
  "0951-0952 0964-0965 0C00-0C0C 0C0E-0C10 0C12-0C28 0C2A-0C39 0C3C-0C44 0C46-0C48 0C4A-0C4D
    0C55-0C56 0C58-0C5A 0C5C-0C5D 0C60-0C63 0C66-0C6F 0C77-0C7F 1CD5-1CD6 1CD8 1CDA 1CF2"

/-- Code points used with the script Thaana. -/
def thaanaUse : CodeSet := .ofText
  "060C 061B-061C 061F 0660-0669 0780-07B1 FDF2 FDFD"

/-- Code points used with the script Thai. -/
def thaiUse : CodeSet := .ofText
  "02BC 02D7 0303 0331 0E01-0E3A 0E40-0E5B"

/-- Code points used with the script Tibetan. -/
def tibetanUse : CodeSet := .ofText
  "0F00-0F47 0F49-0F6C 0F71-0F97 0F99-0FBC 0FBE-0FCC 0FCE-0FD4 0FD9-0FDA 3008-300B"

/-- Code points used with the script Tifinagh. -/
def tifinaghUse : CodeSet := .ofText
  "0302 0304 0306-0309 0323 2D30-2D67 2D6F-2D70 2D7F"

/-- Code points used with the script Tirhuta. -/
def tirhutaUse : CodeSet := .ofText
  "0951-0952 0964-0965 1CD5 1CE2 1CF2 A830-A839 11480-114C7 114D0-114D9"

/-- Code points used with the script Todhri. -/
def todhriUse : CodeSet := .ofText
  "0301 0304 0307 0311 0313 035E 105C0-105F3"

/-- Code points used with the script Toto. -/
def totoUse : CodeSet := .ofText
  "02BC 1E290-1E2AE"

/-- Code points used with the script Tulu Tigalari. -/
def tuluTigalariUse : CodeSet := .ofText
  "0CE6-0CEF 1CF2 1CF4 A830-A835 A8F1 11380-11389 1138B 1138E 11390-113B5 113B7-113C0 113C2
    113C5 113C7-113CA 113CC-113D5 113D7-113D8 113E1-113E2"

/-- Code points used with the script Ugaritic. -/
def ugariticUse : CodeSet := .ofText
  "10380-1039D 1039F"

/-- Code points used with the script Vai. -/
def vaiUse : CodeSet := .ofText
  "A500-A62B"

/-- Code points used with the script Vithkuqi. -/
def vithkuqiUse : CodeSet := .ofText
  "10570-1057A 1057C-1058A 1058C-10592 10594-10595 10597-105A1 105A3-105B1 105B3-105B9
    105BB-105BC"

/-- Code points used with the script Wancho. -/
def wanchoUse : CodeSet := .ofText
  "1E2C0-1E2F9 1E2FF"

/-- Code points used with the script Warang Citi. -/
def warangCitiUse : CodeSet := .ofText
  "118A0-118F2 118FF"

/-- Code points used with the script Yezidi. -/
def yezidiUse : CodeSet := .ofText
  "060C 061B 061F 0660-0669 10E80-10EA9 10EAB-10EAD 10EB0-10EB1"

/-- Code points used with the script Yi. -/
def yiUse : CodeSet := .ofText
  "3001-3002 3008-3011 3014-301B 30FB A000-A48C A490-A4C6 FF61-FF65"

/-- Code points used with the script Zanabazar Square. -/
def zanabazarSquareUse : CodeSet := .ofText
  "11A00-11A47"

/-- The sets by the names of their scripts. -/
def scriptExtensions : List (List String × CodeSet) :=
  [(["adlam", "adlm"], adlamUse),
   (["ahom"], ahomUse),
   (["anatolianhieroglyphs", "hluw"], anatolianHieroglyphsUse),
   (["arabic", "arab"], arabicUse),
   (["armenian", "armn"], armenianUse),
   (["avestan", "avst"], avestanUse),
   (["balinese", "bali"], balineseUse),
   (["bamum", "bamu"], bamumUse),
   (["bassavah", "bass"], bassaVahUse),
   (["batak", "batk"], batakUse),
   (["bengali", "beng"], bengaliUse),
   (["bhaiksuki", "bhks"], bhaiksukiUse),
   (["bopomofo", "bopo"], bopomofoUse),
   (["brahmi", "brah"], brahmiUse),
   (["braille", "brai"], brailleUse),
   (["buginese", "bugi"], bugineseUse),
   (["buhid", "buhd"], buhidUse),
   (["canadianaboriginal", "cans"], canadianAboriginalUse),
   (["carian", "cari"], carianUse),
   (["caucasianalbanian", "aghb"], caucasianAlbanianUse),
   (["chakma", "cakm"], chakmaUse),
   (["cham"], chamUse),
   (["cherokee", "cher"], cherokeeUse),
   (["chorasmian", "chrs"], chorasmianUse),
   (["common", "zyyy"], commonUse),
   (["coptic", "copt", "qaac"], copticUse),
   (["cuneiform", "xsux"], cuneiformUse),
   (["cypriot", "cprt"], cypriotUse),
   (["cyprominoan", "cpmn"], cyproMinoanUse),
   (["cyrillic", "cyrl"], cyrillicUse),
   (["deseret", "dsrt"], deseretUse),
   (["devanagari", "deva"], devanagariUse),
   (["divesakuru", "diak"], divesAkuruUse),
   (["dogra", "dogr"], dograUse),
   (["duployan", "dupl"], duployanUse),
   (["egyptianhieroglyphs", "egyp"], egyptianHieroglyphsUse),
   (["elbasan", "elba"], elbasanUse),
   (["elymaic", "elym"], elymaicUse),
   (["ethiopic", "ethi"], ethiopicUse),
   (["garay", "gara"], garayUse),
   (["georgian", "geor"], georgianUse),
   (["glagolitic", "glag"], glagoliticUse),
   (["gothic", "goth"], gothicUse),
   (["grantha", "gran"], granthaUse),
   (["greek", "grek"], greekUse),
   (["gujarati", "gujr"], gujaratiUse),
   (["gunjalagondi", "gong"], gunjalaGondiUse),
   (["gurmukhi", "guru"], gurmukhiUse),
   (["gurungkhema", "gukh"], gurungKhemaUse),
   (["han", "hani"], hanUse),
   (["hangul", "hang"], hangulUse),
   (["hanifirohingya", "rohg"], hanifiRohingyaUse),
   (["hanunoo", "hano"], hanunooUse),
   (["hatran", "hatr"], hatranUse),
   (["hebrew", "hebr"], hebrewUse),
   (["hiragana", "hira"], hiraganaUse),
   (["imperialaramaic", "armi"], imperialAramaicUse),
   (["inherited", "qaai", "zinh"], inheritedUse),
   (["inscriptionalpahlavi", "phli"], inscriptionalPahlaviUse),
   (["inscriptionalparthian", "prti"], inscriptionalParthianUse),
   (["javanese", "java"], javaneseUse),
   (["kaithi", "kthi"], kaithiUse),
   (["kannada", "knda"], kannadaUse),
   (["katakana", "kana"], katakanaUse),
   (["kawi"], kawiUse),
   (["kayahli", "kali"], kayahLiUse),
   (["kharoshthi", "khar"], kharoshthiUse),
   (["khitansmallscript", "kits"], khitanSmallScriptUse),
   (["khmer", "khmr"], khmerUse),
   (["khojki", "khoj"], khojkiUse),
   (["khudawadi", "sind"], khudawadiUse),
   (["kiratrai", "krai"], kiratRaiUse),
   (["lao", "laoo"], laoUse),
   (["latin", "latn"], latinUse),
   (["lepcha", "lepc"], lepchaUse),
   (["limbu", "limb"], limbuUse),
   (["lineara", "lina"], linearAUse),
   (["linearb", "linb"], linearBUse),
   (["lisu"], lisuUse),
   (["lycian", "lyci"], lycianUse),
   (["lydian", "lydi"], lydianUse),
   (["mahajani", "mahj"], mahajaniUse),
   (["makasar", "maka"], makasarUse),
   (["malayalam", "mlym"], malayalamUse),
   (["mandaic", "mand"], mandaicUse),
   (["manichaean", "mani"], manichaeanUse),
   (["marchen", "marc"], marchenUse),
   (["masaramgondi", "gonm"], masaramGondiUse),
   (["medefaidrin", "medf"], medefaidrinUse),
   (["meeteimayek", "mtei"], meeteiMayekUse),
   (["mendekikakui", "mend"], mendeKikakuiUse),
   (["meroiticcursive", "merc"], meroiticCursiveUse),
   (["meroitichieroglyphs", "mero"], meroiticHieroglyphsUse),
   (["miao", "plrd"], miaoUse),
   (["modi"], modiUse),
   (["mongolian", "mong"], mongolianUse),
   (["mro", "mroo"], mroUse),
   (["multani", "mult"], multaniUse),
   (["myanmar", "mymr"], myanmarUse),
   (["nabataean", "nbat"], nabataeanUse),
   (["nagmundari", "nagm"], nagMundariUse),
   (["nandinagari", "nand"], nandinagariUse),
   (["newtailue", "talu"], newTaiLueUse),
   (["newa"], newaUse),
   (["nko", "nkoo"], nkoUse),
   (["nushu", "nshu"], nushuUse),
   (["nyiakengpuachuehmong", "hmnp"], nyiakengPuachueHmongUse),
   (["ogham", "ogam"], oghamUse),
   (["olchiki", "olck"], olChikiUse),
   (["olonal", "onao"], olOnalUse),
   (["oldhungarian", "hung"], oldHungarianUse),
   (["olditalic", "ital"], oldItalicUse),
   (["oldnortharabian", "narb"], oldNorthArabianUse),
   (["oldpermic", "perm"], oldPermicUse),
   (["oldpersian", "xpeo"], oldPersianUse),
   (["oldsogdian", "sogo"], oldSogdianUse),
   (["oldsoutharabian", "sarb"], oldSouthArabianUse),
   (["oldturkic", "orkh"], oldTurkicUse),
   (["olduyghur", "ougr"], oldUyghurUse),
   (["oriya", "orya"], oriyaUse),
   (["osage", "osge"], osageUse),
   (["osmanya", "osma"], osmanyaUse),
   (["pahawhhmong", "hmng"], pahawhHmongUse),
   (["palmyrene", "palm"], palmyreneUse),
   (["paucinhau", "pauc"], pauCinHauUse),
   (["phagspa", "phag"], phagsPaUse),
   (["phoenician", "phnx"], phoenicianUse),
   (["psalterpahlavi", "phlp"], psalterPahlaviUse),
   (["rejang", "rjng"], rejangUse),
   (["runic", "runr"], runicUse),
   (["samaritan", "samr"], samaritanUse),
   (["saurashtra", "saur"], saurashtraUse),
   (["sharada", "shrd"], sharadaUse),
   (["shavian", "shaw"], shavianUse),
   (["siddham", "sidd"], siddhamUse),
   (["signwriting", "sgnw"], signWritingUse),
   (["sinhala", "sinh"], sinhalaUse),
   (["sogdian", "sogd"], sogdianUse),
   (["sorasompeng", "sora"], soraSompengUse),
   (["soyombo", "soyo"], soyomboUse),
   (["sundanese", "sund"], sundaneseUse),
   (["sunuwar", "sunu"], sunuwarUse),
   (["sylotinagri", "sylo"], sylotiNagriUse),
   (["syriac", "syrc"], syriacUse),
   (["tagalog", "tglg"], tagalogUse),
   (["tagbanwa", "tagb"], tagbanwaUse),
   (["taile", "tale"], taiLeUse),
   (["taitham", "lana"], taiThamUse),
   (["taiviet", "tavt"], taiVietUse),
   (["takri", "takr"], takriUse),
   (["tamil", "taml"], tamilUse),
   (["tangsa", "tnsa"], tangsaUse),
   (["tangut", "tang"], tangutUse),
   (["telugu", "telu"], teluguUse),
   (["thaana", "thaa"], thaanaUse),
   (["thai"], thaiUse),
   (["tibetan", "tibt"], tibetanUse),
   (["tifinagh", "tfng"], tifinaghUse),
   (["tirhuta", "tirh"], tirhutaUse),
   (["todhri", "todr"], todhriUse),
   (["toto"], totoUse),
   (["tulutigalari", "tutg"], tuluTigalariUse),
   (["ugaritic", "ugar"], ugariticUse),
   (["vai", "vaii"], vaiUse),
   (["vithkuqi", "vith"], vithkuqiUse),
   (["wancho", "wcho"], wanchoUse),
   (["warangciti", "wara"], warangCitiUse),
   (["yezidi", "yezi"], yezidiUse),
   (["yi", "yiii"], yiUse),
   (["zanabazarsquare", "zanb"], zanabazarSquareUse)]

end BeanGraph.Unicode
