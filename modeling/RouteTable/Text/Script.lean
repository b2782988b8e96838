import RouteTable.Text.Category

/-!
The scripts of Unicode 16, and the code points that are used in each of them.
-/

namespace RouteTable.Text

def adlamPoints : CodePoints := .ofNumerals [0x01E900_01E94B, 0x01E950_01E959, 0x01E95E_01E95F]

def ahomPoints : CodePoints := .ofNumerals [0x011700_01171A, 0x01171D_01172B, 0x011730_011746]

def anatolianhieroglyphsPoints : CodePoints := .ofNumerals [0x014400_014646]

def arabicPoints : CodePoints := .ofNumerals
  [0x000600_000604, 0x000606_00060B, 0x00060D_00061A, 0x00061C_00061E, 0x000620_00063F,
   0x000641_00064A, 0x000656_00066F, 0x000671_0006DC, 0x0006DE_0006FF, 0x000750_00077F,
   0x000870_00088E, 0x000890_000891, 0x000897_0008E1, 0x0008E3_0008FF, 0x00FB50_00FBC2,
   0x00FBD3_00FD3D, 0x00FD40_00FD8F, 0x00FD92_00FDC7, 0x00FDCF_00FDCF, 0x00FDF0_00FDFF,
   0x00FE70_00FE74, 0x00FE76_00FEFC, 0x010E60_010E7E, 0x010EC2_010EC4, 0x010EFC_010EFF,
   0x01EE00_01EE03, 0x01EE05_01EE1F, 0x01EE21_01EE22, 0x01EE24_01EE24, 0x01EE27_01EE27,
   0x01EE29_01EE32, 0x01EE34_01EE37, 0x01EE39_01EE39, 0x01EE3B_01EE3B, 0x01EE42_01EE42,
   0x01EE47_01EE47, 0x01EE49_01EE49, 0x01EE4B_01EE4B, 0x01EE4D_01EE4F, 0x01EE51_01EE52,
   0x01EE54_01EE54, 0x01EE57_01EE57, 0x01EE59_01EE59, 0x01EE5B_01EE5B, 0x01EE5D_01EE5D,
   0x01EE5F_01EE5F, 0x01EE61_01EE62, 0x01EE64_01EE64, 0x01EE67_01EE6A, 0x01EE6C_01EE72,
   0x01EE74_01EE77, 0x01EE79_01EE7C, 0x01EE7E_01EE7E, 0x01EE80_01EE89, 0x01EE8B_01EE9B,
   0x01EEA1_01EEA3, 0x01EEA5_01EEA9, 0x01EEAB_01EEBB, 0x01EEF0_01EEF1]

def armenianPoints : CodePoints := .ofNumerals
  [0x000531_000556, 0x000559_00058A, 0x00058D_00058F, 0x00FB13_00FB17]

def avestanPoints : CodePoints := .ofNumerals [0x010B00_010B35, 0x010B39_010B3F]

def balinesePoints : CodePoints := .ofNumerals [0x001B00_001B4C, 0x001B4E_001B7F]

def bamumPoints : CodePoints := .ofNumerals [0x00A6A0_00A6F7, 0x016800_016A38]

def bassavahPoints : CodePoints := .ofNumerals [0x016AD0_016AED, 0x016AF0_016AF5]

def batakPoints : CodePoints := .ofNumerals [0x001BC0_001BF3, 0x001BFC_001BFF]

def bengaliPoints : CodePoints := .ofNumerals
  [0x000980_000983, 0x000985_00098C, 0x00098F_000990, 0x000993_0009A8, 0x0009AA_0009B0,
   0x0009B2_0009B2, 0x0009B6_0009B9, 0x0009BC_0009C4, 0x0009C7_0009C8, 0x0009CB_0009CE,
   0x0009D7_0009D7, 0x0009DC_0009DD, 0x0009DF_0009E3, 0x0009E6_0009FE]

def bhaiksukiPoints : CodePoints := .ofNumerals
  [0x011C00_011C08, 0x011C0A_011C36, 0x011C38_011C45, 0x011C50_011C6C]

def bopomofoPoints : CodePoints := .ofNumerals [0x0002EA_0002EB, 0x003105_00312F, 0x0031A0_0031BF]

def brahmiPoints : CodePoints := .ofNumerals [0x011000_01104D, 0x011052_011075, 0x01107F_01107F]

def braillePoints : CodePoints := .ofNumerals [0x002800_0028FF]

def buginesePoints : CodePoints := .ofNumerals [0x001A00_001A1B, 0x001A1E_001A1F]

def buhidPoints : CodePoints := .ofNumerals [0x001740_001753]

def canadianaboriginalPoints : CodePoints := .ofNumerals
  [0x001400_00167F, 0x0018B0_0018F5, 0x011AB0_011ABF]

def carianPoints : CodePoints := .ofNumerals [0x0102A0_0102D0]

def caucasianalbanianPoints : CodePoints := .ofNumerals [0x010530_010563, 0x01056F_01056F]

def chakmaPoints : CodePoints := .ofNumerals [0x011100_011134, 0x011136_011147]

def chamPoints : CodePoints := .ofNumerals
  [0x00AA00_00AA36, 0x00AA40_00AA4D, 0x00AA50_00AA59, 0x00AA5C_00AA5F]

def cherokeePoints : CodePoints := .ofNumerals [0x0013A0_0013F5, 0x0013F8_0013FD, 0x00AB70_00ABBF]

def chorasmianPoints : CodePoints := .ofNumerals [0x010FB0_010FCB]

def commonPoints : CodePoints := .ofNumerals
  [0x000000_000040, 0x00005B_000060, 0x00007B_0000A9, 0x0000AB_0000B9, 0x0000BB_0000BF,
   0x0000D7_0000D7, 0x0000F7_0000F7, 0x0002B9_0002DF, 0x0002E5_0002E9, 0x0002EC_0002FF,
   0x000374_000374, 0x00037E_00037E, 0x000385_000385, 0x000387_000387, 0x000605_000605,
   0x00060C_00060C, 0x00061B_00061B, 0x00061F_00061F, 0x000640_000640, 0x0006DD_0006DD,
   0x0008E2_0008E2, 0x000964_000965, 0x000E3F_000E3F, 0x000FD5_000FD8, 0x0010FB_0010FB,
   0x0016EB_0016ED, 0x001735_001736, 0x001802_001803, 0x001805_001805, 0x001CD3_001CD3,
   0x001CE1_001CE1, 0x001CE9_001CEC, 0x001CEE_001CF3, 0x001CF5_001CF7, 0x001CFA_001CFA,
   0x002000_00200B, 0x00200E_002064, 0x002066_002070, 0x002074_00207E, 0x002080_00208E,
   0x0020A0_0020C0, 0x002100_002125, 0x002127_002129, 0x00212C_002131, 0x002133_00214D,
   0x00214F_00215F, 0x002189_00218B, 0x002190_002429, 0x002440_00244A, 0x002460_0027FF,
   0x002900_002B73, 0x002B76_002B95, 0x002B97_002BFF, 0x002E00_002E5D, 0x002FF0_003004,
   0x003006_003006, 0x003008_003020, 0x003030_003037, 0x00303C_00303F, 0x00309B_00309C,
   0x0030A0_0030A0, 0x0030FB_0030FC, 0x003190_00319F, 0x0031C0_0031E5, 0x0031EF_0031EF,
   0x003220_00325F, 0x00327F_0032CF, 0x0032FF_0032FF, 0x003358_0033FF, 0x004DC0_004DFF,
   0x00A700_00A721, 0x00A788_00A78A, 0x00A830_00A839, 0x00A92E_00A92E, 0x00A9CF_00A9CF,
   0x00AB5B_00AB5B, 0x00AB6A_00AB6B, 0x00FD3E_00FD3F, 0x00FE10_00FE19, 0x00FE30_00FE52,
   0x00FE54_00FE66, 0x00FE68_00FE6B, 0x00FEFF_00FEFF, 0x00FF01_00FF20, 0x00FF3B_00FF40,
   0x00FF5B_00FF65, 0x00FF70_00FF70, 0x00FF9E_00FF9F, 0x00FFE0_00FFE6, 0x00FFE8_00FFEE,
   0x00FFF9_00FFFD, 0x010100_010102, 0x010107_010133, 0x010137_01013F, 0x010190_01019C,
   0x0101D0_0101FC, 0x0102E1_0102FB, 0x01BCA0_01BCA3, 0x01CC00_01CCF9, 0x01CD00_01CEB3,
   0x01CF50_01CFC3, 0x01D000_01D0F5, 0x01D100_01D126, 0x01D129_01D166, 0x01D16A_01D17A,
   0x01D183_01D184, 0x01D18C_01D1A9, 0x01D1AE_01D1EA, 0x01D2C0_01D2D3, 0x01D2E0_01D2F3,
   0x01D300_01D356, 0x01D360_01D378, 0x01D400_01D454, 0x01D456_01D49C, 0x01D49E_01D49F,
   0x01D4A2_01D4A2, 0x01D4A5_01D4A6, 0x01D4A9_01D4AC, 0x01D4AE_01D4B9, 0x01D4BB_01D4BB,
   0x01D4BD_01D4C3, 0x01D4C5_01D505, 0x01D507_01D50A, 0x01D50D_01D514, 0x01D516_01D51C,
   0x01D51E_01D539, 0x01D53B_01D53E, 0x01D540_01D544, 0x01D546_01D546, 0x01D54A_01D550,
   0x01D552_01D6A5, 0x01D6A8_01D7CB, 0x01D7CE_01D7FF, 0x01EC71_01ECB4, 0x01ED01_01ED3D,
   0x01F000_01F02B, 0x01F030_01F093, 0x01F0A0_01F0AE, 0x01F0B1_01F0BF, 0x01F0C1_01F0CF,
   0x01F0D1_01F0F5, 0x01F100_01F1AD, 0x01F1E6_01F1FF, 0x01F201_01F202, 0x01F210_01F23B,
   0x01F240_01F248, 0x01F250_01F251, 0x01F260_01F265, 0x01F300_01F6D7, 0x01F6DC_01F6EC,
   0x01F6F0_01F6FC, 0x01F700_01F776, 0x01F77B_01F7D9, 0x01F7E0_01F7EB, 0x01F7F0_01F7F0,
   0x01F800_01F80B, 0x01F810_01F847, 0x01F850_01F859, 0x01F860_01F887, 0x01F890_01F8AD,
   0x01F8B0_01F8BB, 0x01F8C0_01F8C1, 0x01F900_01FA53, 0x01FA60_01FA6D, 0x01FA70_01FA7C,
   0x01FA80_01FA89, 0x01FA8F_01FAC6, 0x01FACE_01FADC, 0x01FADF_01FAE9, 0x01FAF0_01FAF8,
   0x01FB00_01FB92, 0x01FB94_01FBF9, 0x0E0001_0E0001, 0x0E0020_0E007F]

def copticPoints : CodePoints := .ofNumerals [0x0003E2_0003EF, 0x002C80_002CF3, 0x002CF9_002CFF]

def cuneiformPoints : CodePoints := .ofNumerals
  [0x012000_012399, 0x012400_01246E, 0x012470_012474, 0x012480_012543]

def cypriotPoints : CodePoints := .ofNumerals
  [0x010800_010805, 0x010808_010808, 0x01080A_010835, 0x010837_010838, 0x01083C_01083C,
   0x01083F_01083F]

def cyprominoanPoints : CodePoints := .ofNumerals [0x012F90_012FF2]

def cyrillicPoints : CodePoints := .ofNumerals
  [0x000400_000484, 0x000487_00052F, 0x001C80_001C8A, 0x001D2B_001D2B, 0x001D78_001D78,
   0x002DE0_002DFF, 0x00A640_00A69F, 0x00FE2E_00FE2F, 0x01E030_01E06D, 0x01E08F_01E08F]

def deseretPoints : CodePoints := .ofNumerals [0x010400_01044F]

def devanagariPoints : CodePoints := .ofNumerals
  [0x000900_000950, 0x000955_000963, 0x000966_00097F, 0x00A8E0_00A8FF, 0x011B00_011B09]

def divesakuruPoints : CodePoints := .ofNumerals
  [0x011900_011906, 0x011909_011909, 0x01190C_011913, 0x011915_011916, 0x011918_011935,
   0x011937_011938, 0x01193B_011946, 0x011950_011959]

def dograPoints : CodePoints := .ofNumerals [0x011800_01183B]

def duployanPoints : CodePoints := .ofNumerals
  [0x01BC00_01BC6A, 0x01BC70_01BC7C, 0x01BC80_01BC88, 0x01BC90_01BC99, 0x01BC9C_01BC9F]

def egyptianhieroglyphsPoints : CodePoints := .ofNumerals [0x013000_013455, 0x013460_0143FA]

def elbasanPoints : CodePoints := .ofNumerals [0x010500_010527]

def elymaicPoints : CodePoints := .ofNumerals [0x010FE0_010FF6]

def ethiopicPoints : CodePoints := .ofNumerals
  [0x001200_001248, 0x00124A_00124D, 0x001250_001256, 0x001258_001258, 0x00125A_00125D,
   0x001260_001288, 0x00128A_00128D, 0x001290_0012B0, 0x0012B2_0012B5, 0x0012B8_0012BE,
   0x0012C0_0012C0, 0x0012C2_0012C5, 0x0012C8_0012D6, 0x0012D8_001310, 0x001312_001315,
   0x001318_00135A, 0x00135D_00137C, 0x001380_001399, 0x002D80_002D96, 0x002DA0_002DA6,
   0x002DA8_002DAE, 0x002DB0_002DB6, 0x002DB8_002DBE, 0x002DC0_002DC6, 0x002DC8_002DCE,
   0x002DD0_002DD6, 0x002DD8_002DDE, 0x00AB01_00AB06, 0x00AB09_00AB0E, 0x00AB11_00AB16,
   0x00AB20_00AB26, 0x00AB28_00AB2E, 0x01E7E0_01E7E6, 0x01E7E8_01E7EB, 0x01E7ED_01E7EE,
   0x01E7F0_01E7FE]

def garayPoints : CodePoints := .ofNumerals [0x010D40_010D65, 0x010D69_010D85, 0x010D8E_010D8F]

def georgianPoints : CodePoints := .ofNumerals
  [0x0010A0_0010C5, 0x0010C7_0010C7, 0x0010CD_0010CD, 0x0010D0_0010FA, 0x0010FC_0010FF,
   0x001C90_001CBA, 0x001CBD_001CBF, 0x002D00_002D25, 0x002D27_002D27, 0x002D2D_002D2D]

def glagoliticPoints : CodePoints := .ofNumerals
  [0x002C00_002C5F, 0x01E000_01E006, 0x01E008_01E018, 0x01E01B_01E021, 0x01E023_01E024,
   0x01E026_01E02A]

def gothicPoints : CodePoints := .ofNumerals [0x010330_01034A]

def granthaPoints : CodePoints := .ofNumerals
  [0x011300_011303, 0x011305_01130C, 0x01130F_011310, 0x011313_011328, 0x01132A_011330,
   0x011332_011333, 0x011335_011339, 0x01133C_011344, 0x011347_011348, 0x01134B_01134D,
   0x011350_011350, 0x011357_011357, 0x01135D_011363, 0x011366_01136C, 0x011370_011374]

def greekPoints : CodePoints := .ofNumerals
  [0x000370_000373, 0x000375_000377, 0x00037A_00037D, 0x00037F_00037F, 0x000384_000384,
   0x000386_000386, 0x000388_00038A, 0x00038C_00038C, 0x00038E_0003A1, 0x0003A3_0003E1,
   0x0003F0_0003FF, 0x001D26_001D2A, 0x001D5D_001D61, 0x001D66_001D6A, 0x001DBF_001DBF,
   0x001F00_001F15, 0x001F18_001F1D, 0x001F20_001F45, 0x001F48_001F4D, 0x001F50_001F57,
   0x001F59_001F59, 0x001F5B_001F5B, 0x001F5D_001F5D, 0x001F5F_001F7D, 0x001F80_001FB4,
   0x001FB6_001FC4, 0x001FC6_001FD3, 0x001FD6_001FDB, 0x001FDD_001FEF, 0x001FF2_001FF4,
   0x001FF6_001FFE, 0x002126_002126, 0x00AB65_00AB65, 0x010140_01018E, 0x0101A0_0101A0,
   0x01D200_01D245]

def gujaratiPoints : CodePoints := .ofNumerals
  [0x000A81_000A83, 0x000A85_000A8D, 0x000A8F_000A91, 0x000A93_000AA8, 0x000AAA_000AB0,
   0x000AB2_000AB3, 0x000AB5_000AB9, 0x000ABC_000AC5, 0x000AC7_000AC9, 0x000ACB_000ACD,
   0x000AD0_000AD0, 0x000AE0_000AE3, 0x000AE6_000AF1, 0x000AF9_000AFF]

def gunjalagondiPoints : CodePoints := .ofNumerals
  [0x011D60_011D65, 0x011D67_011D68, 0x011D6A_011D8E, 0x011D90_011D91, 0x011D93_011D98,
   0x011DA0_011DA9]

def gurmukhiPoints : CodePoints := .ofNumerals
  [0x000A01_000A03, 0x000A05_000A0A, 0x000A0F_000A10, 0x000A13_000A28, 0x000A2A_000A30,
   0x000A32_000A33, 0x000A35_000A36, 0x000A38_000A39, 0x000A3C_000A3C, 0x000A3E_000A42,
   0x000A47_000A48, 0x000A4B_000A4D, 0x000A51_000A51, 0x000A59_000A5C, 0x000A5E_000A5E,
   0x000A66_000A76]

def gurungkhemaPoints : CodePoints := .ofNumerals [0x016100_016139]

def hanPoints : CodePoints := .ofNumerals
  [0x002E80_002E99, 0x002E9B_002EF3, 0x002F00_002FD5, 0x003005_003005, 0x003007_003007,
   0x003021_003029, 0x003038_00303B, 0x003400_004DBF, 0x004E00_009FFF, 0x00F900_00FA6D,
   0x00FA70_00FAD9, 0x016FE2_016FE3, 0x016FF0_016FF1, 0x020000_02A6DF, 0x02A700_02B739,
   0x02B740_02B81D, 0x02B820_02CEA1, 0x02CEB0_02EBE0, 0x02EBF0_02EE5D, 0x02F800_02FA1D,
   0x030000_03134A, 0x031350_0323AF]

def hangulPoints : CodePoints := .ofNumerals
  [0x001100_0011FF, 0x00302E_00302F, 0x003131_00318E, 0x003200_00321E, 0x003260_00327E,
   0x00A960_00A97C, 0x00AC00_00D7A3, 0x00D7B0_00D7C6, 0x00D7CB_00D7FB, 0x00FFA0_00FFBE,
   0x00FFC2_00FFC7, 0x00FFCA_00FFCF, 0x00FFD2_00FFD7, 0x00FFDA_00FFDC]

def hanifirohingyaPoints : CodePoints := .ofNumerals [0x010D00_010D27, 0x010D30_010D39]

def hanunooPoints : CodePoints := .ofNumerals [0x001720_001734]

def hatranPoints : CodePoints := .ofNumerals [0x0108E0_0108F2, 0x0108F4_0108F5, 0x0108FB_0108FF]

def hebrewPoints : CodePoints := .ofNumerals
  [0x000591_0005C7, 0x0005D0_0005EA, 0x0005EF_0005F4, 0x00FB1D_00FB36, 0x00FB38_00FB3C,
   0x00FB3E_00FB3E, 0x00FB40_00FB41, 0x00FB43_00FB44, 0x00FB46_00FB4F]

def hiraganaPoints : CodePoints := .ofNumerals
  [0x003041_003096, 0x00309D_00309F, 0x01B001_01B11F, 0x01B132_01B132, 0x01B150_01B152,
   0x01F200_01F200]

def imperialaramaicPoints : CodePoints := .ofNumerals [0x010840_010855, 0x010857_01085F]

def inheritedPoints : CodePoints := .ofNumerals
  [0x000300_00036F, 0x000485_000486, 0x00064B_000655, 0x000670_000670, 0x000951_000954,
   0x001AB0_001ACE, 0x001CD0_001CD2, 0x001CD4_001CE0, 0x001CE2_001CE8, 0x001CED_001CED,
   0x001CF4_001CF4, 0x001CF8_001CF9, 0x001DC0_001DFF, 0x00200C_00200D, 0x0020D0_0020F0,
   0x00302A_00302D, 0x003099_00309A, 0x00FE00_00FE0F, 0x00FE20_00FE2D, 0x0101FD_0101FD,
   0x0102E0_0102E0, 0x01133B_01133B, 0x01CF00_01CF2D, 0x01CF30_01CF46, 0x01D167_01D169,
   0x01D17B_01D182, 0x01D185_01D18B, 0x01D1AA_01D1AD, 0x0E0100_0E01EF]

def inscriptionalpahlaviPoints : CodePoints := .ofNumerals [0x010B60_010B72, 0x010B78_010B7F]

def inscriptionalparthianPoints : CodePoints := .ofNumerals [0x010B40_010B55, 0x010B58_010B5F]

def javanesePoints : CodePoints := .ofNumerals [0x00A980_00A9CD, 0x00A9D0_00A9D9, 0x00A9DE_00A9DF]

def kaithiPoints : CodePoints := .ofNumerals [0x011080_0110C2, 0x0110CD_0110CD]

def kannadaPoints : CodePoints := .ofNumerals
  [0x000C80_000C8C, 0x000C8E_000C90, 0x000C92_000CA8, 0x000CAA_000CB3, 0x000CB5_000CB9,
   0x000CBC_000CC4, 0x000CC6_000CC8, 0x000CCA_000CCD, 0x000CD5_000CD6, 0x000CDD_000CDE,
   0x000CE0_000CE3, 0x000CE6_000CEF, 0x000CF1_000CF3]

def katakanaPoints : CodePoints := .ofNumerals
  [0x0030A1_0030FA, 0x0030FD_0030FF, 0x0031F0_0031FF, 0x0032D0_0032FE, 0x003300_003357,
   0x00FF66_00FF6F, 0x00FF71_00FF9D, 0x01AFF0_01AFF3, 0x01AFF5_01AFFB, 0x01AFFD_01AFFE,
   0x01B000_01B000, 0x01B120_01B122, 0x01B155_01B155, 0x01B164_01B167]

def kawiPoints : CodePoints := .ofNumerals [0x011F00_011F10, 0x011F12_011F3A, 0x011F3E_011F5A]

def kayahliPoints : CodePoints := .ofNumerals [0x00A900_00A92D, 0x00A92F_00A92F]

def kharoshthiPoints : CodePoints := .ofNumerals
  [0x010A00_010A03, 0x010A05_010A06, 0x010A0C_010A13, 0x010A15_010A17, 0x010A19_010A35,
   0x010A38_010A3A, 0x010A3F_010A48, 0x010A50_010A58]

def khitansmallscriptPoints : CodePoints := .ofNumerals
  [0x016FE4_016FE4, 0x018B00_018CD5, 0x018CFF_018CFF]

def khmerPoints : CodePoints := .ofNumerals
  [0x001780_0017DD, 0x0017E0_0017E9, 0x0017F0_0017F9, 0x0019E0_0019FF]

def khojkiPoints : CodePoints := .ofNumerals [0x011200_011211, 0x011213_011241]

def khudawadiPoints : CodePoints := .ofNumerals [0x0112B0_0112EA, 0x0112F0_0112F9]

def kiratraiPoints : CodePoints := .ofNumerals [0x016D40_016D79]

def laoPoints : CodePoints := .ofNumerals
  [0x000E81_000E82, 0x000E84_000E84, 0x000E86_000E8A, 0x000E8C_000EA3, 0x000EA5_000EA5,
   0x000EA7_000EBD, 0x000EC0_000EC4, 0x000EC6_000EC6, 0x000EC8_000ECE, 0x000ED0_000ED9,
   0x000EDC_000EDF]

def latinPoints : CodePoints := .ofNumerals
  [0x000041_00005A, 0x000061_00007A, 0x0000AA_0000AA, 0x0000BA_0000BA, 0x0000C0_0000D6,
   0x0000D8_0000F6, 0x0000F8_0002B8, 0x0002E0_0002E4, 0x001D00_001D25, 0x001D2C_001D5C,
   0x001D62_001D65, 0x001D6B_001D77, 0x001D79_001DBE, 0x001E00_001EFF, 0x002071_002071,
   0x00207F_00207F, 0x002090_00209C, 0x00212A_00212B, 0x002132_002132, 0x00214E_00214E,
   0x002160_002188, 0x002C60_002C7F, 0x00A722_00A787, 0x00A78B_00A7CD, 0x00A7D0_00A7D1,
   0x00A7D3_00A7D3, 0x00A7D5_00A7DC, 0x00A7F2_00A7FF, 0x00AB30_00AB5A, 0x00AB5C_00AB64,
   0x00AB66_00AB69, 0x00FB00_00FB06, 0x00FF21_00FF3A, 0x00FF41_00FF5A, 0x010780_010785,
   0x010787_0107B0, 0x0107B2_0107BA, 0x01DF00_01DF1E, 0x01DF25_01DF2A]

def lepchaPoints : CodePoints := .ofNumerals [0x001C00_001C37, 0x001C3B_001C49, 0x001C4D_001C4F]

def limbuPoints : CodePoints := .ofNumerals
  [0x001900_00191E, 0x001920_00192B, 0x001930_00193B, 0x001940_001940, 0x001944_00194F]

def linearaPoints : CodePoints := .ofNumerals [0x010600_010736, 0x010740_010755, 0x010760_010767]

def linearbPoints : CodePoints := .ofNumerals
  [0x010000_01000B, 0x01000D_010026, 0x010028_01003A, 0x01003C_01003D, 0x01003F_01004D,
   0x010050_01005D, 0x010080_0100FA]

def lisuPoints : CodePoints := .ofNumerals [0x00A4D0_00A4FF, 0x011FB0_011FB0]

def lycianPoints : CodePoints := .ofNumerals [0x010280_01029C]

def lydianPoints : CodePoints := .ofNumerals [0x010920_010939, 0x01093F_01093F]

def mahajaniPoints : CodePoints := .ofNumerals [0x011150_011176]

def makasarPoints : CodePoints := .ofNumerals [0x011EE0_011EF8]

def malayalamPoints : CodePoints := .ofNumerals
  [0x000D00_000D0C, 0x000D0E_000D10, 0x000D12_000D44, 0x000D46_000D48, 0x000D4A_000D4F,
   0x000D54_000D63, 0x000D66_000D7F]

def mandaicPoints : CodePoints := .ofNumerals [0x000840_00085B, 0x00085E_00085E]

def manichaeanPoints : CodePoints := .ofNumerals [0x010AC0_010AE6, 0x010AEB_010AF6]

def marchenPoints : CodePoints := .ofNumerals [0x011C70_011C8F, 0x011C92_011CA7, 0x011CA9_011CB6]

def masaramgondiPoints : CodePoints := .ofNumerals
  [0x011D00_011D06, 0x011D08_011D09, 0x011D0B_011D36, 0x011D3A_011D3A, 0x011D3C_011D3D,
   0x011D3F_011D47, 0x011D50_011D59]

def medefaidrinPoints : CodePoints := .ofNumerals [0x016E40_016E9A]

def meeteimayekPoints : CodePoints := .ofNumerals
  [0x00AAE0_00AAF6, 0x00ABC0_00ABED, 0x00ABF0_00ABF9]

def mendekikakuiPoints : CodePoints := .ofNumerals [0x01E800_01E8C4, 0x01E8C7_01E8D6]

def meroiticcursivePoints : CodePoints := .ofNumerals
  [0x0109A0_0109B7, 0x0109BC_0109CF, 0x0109D2_0109FF]

def meroitichieroglyphsPoints : CodePoints := .ofNumerals [0x010980_01099F]

def miaoPoints : CodePoints := .ofNumerals [0x016F00_016F4A, 0x016F4F_016F87, 0x016F8F_016F9F]

def modiPoints : CodePoints := .ofNumerals [0x011600_011644, 0x011650_011659]

def mongolianPoints : CodePoints := .ofNumerals
  [0x001800_001801, 0x001804_001804, 0x001806_001819, 0x001820_001878, 0x001880_0018AA,
   0x011660_01166C]

def mroPoints : CodePoints := .ofNumerals [0x016A40_016A5E, 0x016A60_016A69, 0x016A6E_016A6F]

def multaniPoints : CodePoints := .ofNumerals
  [0x011280_011286, 0x011288_011288, 0x01128A_01128D, 0x01128F_01129D, 0x01129F_0112A9]

def myanmarPoints : CodePoints := .ofNumerals
  [0x001000_00109F, 0x00A9E0_00A9FE, 0x00AA60_00AA7F, 0x0116D0_0116E3]

def nabataeanPoints : CodePoints := .ofNumerals [0x010880_01089E, 0x0108A7_0108AF]

def nagmundariPoints : CodePoints := .ofNumerals [0x01E4D0_01E4F9]

def nandinagariPoints : CodePoints := .ofNumerals
  [0x0119A0_0119A7, 0x0119AA_0119D7, 0x0119DA_0119E4]

def newtailuePoints : CodePoints := .ofNumerals
  [0x001980_0019AB, 0x0019B0_0019C9, 0x0019D0_0019DA, 0x0019DE_0019DF]

def newaPoints : CodePoints := .ofNumerals [0x011400_01145B, 0x01145D_011461]

def nkoPoints : CodePoints := .ofNumerals [0x0007C0_0007FA, 0x0007FD_0007FF]

def nushuPoints : CodePoints := .ofNumerals [0x016FE1_016FE1, 0x01B170_01B2FB]

def nyiakengpuachuehmongPoints : CodePoints := .ofNumerals
  [0x01E100_01E12C, 0x01E130_01E13D, 0x01E140_01E149, 0x01E14E_01E14F]

def oghamPoints : CodePoints := .ofNumerals [0x001680_00169C]

def olchikiPoints : CodePoints := .ofNumerals [0x001C50_001C7F]

def olonalPoints : CodePoints := .ofNumerals [0x01E5D0_01E5FA, 0x01E5FF_01E5FF]

def oldhungarianPoints : CodePoints := .ofNumerals
  [0x010C80_010CB2, 0x010CC0_010CF2, 0x010CFA_010CFF]

def olditalicPoints : CodePoints := .ofNumerals [0x010300_010323, 0x01032D_01032F]

def oldnortharabianPoints : CodePoints := .ofNumerals [0x010A80_010A9F]

def oldpermicPoints : CodePoints := .ofNumerals [0x010350_01037A]

def oldpersianPoints : CodePoints := .ofNumerals [0x0103A0_0103C3, 0x0103C8_0103D5]

def oldsogdianPoints : CodePoints := .ofNumerals [0x010F00_010F27]

def oldsoutharabianPoints : CodePoints := .ofNumerals [0x010A60_010A7F]

def oldturkicPoints : CodePoints := .ofNumerals [0x010C00_010C48]

def olduyghurPoints : CodePoints := .ofNumerals [0x010F70_010F89]

def oriyaPoints : CodePoints := .ofNumerals
  [0x000B01_000B03, 0x000B05_000B0C, 0x000B0F_000B10, 0x000B13_000B28, 0x000B2A_000B30,
   0x000B32_000B33, 0x000B35_000B39, 0x000B3C_000B44, 0x000B47_000B48, 0x000B4B_000B4D,
   0x000B55_000B57, 0x000B5C_000B5D, 0x000B5F_000B63, 0x000B66_000B77]

def osagePoints : CodePoints := .ofNumerals [0x0104B0_0104D3, 0x0104D8_0104FB]

def osmanyaPoints : CodePoints := .ofNumerals [0x010480_01049D, 0x0104A0_0104A9]

def pahawhhmongPoints : CodePoints := .ofNumerals
  [0x016B00_016B45, 0x016B50_016B59, 0x016B5B_016B61, 0x016B63_016B77, 0x016B7D_016B8F]

def palmyrenePoints : CodePoints := .ofNumerals [0x010860_01087F]

def paucinhauPoints : CodePoints := .ofNumerals [0x011AC0_011AF8]

def phagspaPoints : CodePoints := .ofNumerals [0x00A840_00A877]

def phoenicianPoints : CodePoints := .ofNumerals [0x010900_01091B, 0x01091F_01091F]

def psalterpahlaviPoints : CodePoints := .ofNumerals
  [0x010B80_010B91, 0x010B99_010B9C, 0x010BA9_010BAF]

def rejangPoints : CodePoints := .ofNumerals [0x00A930_00A953, 0x00A95F_00A95F]

def runicPoints : CodePoints := .ofNumerals [0x0016A0_0016EA, 0x0016EE_0016F8]

def samaritanPoints : CodePoints := .ofNumerals [0x000800_00082D, 0x000830_00083E]

def saurashtraPoints : CodePoints := .ofNumerals [0x00A880_00A8C5, 0x00A8CE_00A8D9]

def sharadaPoints : CodePoints := .ofNumerals [0x011180_0111DF]

def shavianPoints : CodePoints := .ofNumerals [0x010450_01047F]

def siddhamPoints : CodePoints := .ofNumerals [0x011580_0115B5, 0x0115B8_0115DD]

def signwritingPoints : CodePoints := .ofNumerals
  [0x01D800_01DA8B, 0x01DA9B_01DA9F, 0x01DAA1_01DAAF]

def sinhalaPoints : CodePoints := .ofNumerals
  [0x000D81_000D83, 0x000D85_000D96, 0x000D9A_000DB1, 0x000DB3_000DBB, 0x000DBD_000DBD,
   0x000DC0_000DC6, 0x000DCA_000DCA, 0x000DCF_000DD4, 0x000DD6_000DD6, 0x000DD8_000DDF,
   0x000DE6_000DEF, 0x000DF2_000DF4, 0x0111E1_0111F4]

def sogdianPoints : CodePoints := .ofNumerals [0x010F30_010F59]

def sorasompengPoints : CodePoints := .ofNumerals [0x0110D0_0110E8, 0x0110F0_0110F9]

def soyomboPoints : CodePoints := .ofNumerals [0x011A50_011AA2]

def sundanesePoints : CodePoints := .ofNumerals [0x001B80_001BBF, 0x001CC0_001CC7]

def sunuwarPoints : CodePoints := .ofNumerals [0x011BC0_011BE1, 0x011BF0_011BF9]

def sylotinagriPoints : CodePoints := .ofNumerals [0x00A800_00A82C]

def syriacPoints : CodePoints := .ofNumerals
  [0x000700_00070D, 0x00070F_00074A, 0x00074D_00074F, 0x000860_00086A]

def tagalogPoints : CodePoints := .ofNumerals [0x001700_001715, 0x00171F_00171F]

def tagbanwaPoints : CodePoints := .ofNumerals [0x001760_00176C, 0x00176E_001770, 0x001772_001773]

def tailePoints : CodePoints := .ofNumerals [0x001950_00196D, 0x001970_001974]

def taithamPoints : CodePoints := .ofNumerals
  [0x001A20_001A5E, 0x001A60_001A7C, 0x001A7F_001A89, 0x001A90_001A99, 0x001AA0_001AAD]

def taivietPoints : CodePoints := .ofNumerals [0x00AA80_00AAC2, 0x00AADB_00AADF]

def takriPoints : CodePoints := .ofNumerals [0x011680_0116B9, 0x0116C0_0116C9]

def tamilPoints : CodePoints := .ofNumerals
  [0x000B82_000B83, 0x000B85_000B8A, 0x000B8E_000B90, 0x000B92_000B95, 0x000B99_000B9A,
   0x000B9C_000B9C, 0x000B9E_000B9F, 0x000BA3_000BA4, 0x000BA8_000BAA, 0x000BAE_000BB9,
   0x000BBE_000BC2, 0x000BC6_000BC8, 0x000BCA_000BCD, 0x000BD0_000BD0, 0x000BD7_000BD7,
   0x000BE6_000BFA, 0x011FC0_011FF1, 0x011FFF_011FFF]

def tangsaPoints : CodePoints := .ofNumerals [0x016A70_016ABE, 0x016AC0_016AC9]

def tangutPoints : CodePoints := .ofNumerals
  [0x016FE0_016FE0, 0x017000_0187F7, 0x018800_018AFF, 0x018D00_018D08]

def teluguPoints : CodePoints := .ofNumerals
  [0x000C00_000C0C, 0x000C0E_000C10, 0x000C12_000C28, 0x000C2A_000C39, 0x000C3C_000C44,
   0x000C46_000C48, 0x000C4A_000C4D, 0x000C55_000C56, 0x000C58_000C5A, 0x000C5D_000C5D,
   0x000C60_000C63, 0x000C66_000C6F, 0x000C77_000C7F]

def thaanaPoints : CodePoints := .ofNumerals [0x000780_0007B1]

def thaiPoints : CodePoints := .ofNumerals [0x000E01_000E3A, 0x000E40_000E5B]

def tibetanPoints : CodePoints := .ofNumerals
  [0x000F00_000F47, 0x000F49_000F6C, 0x000F71_000F97, 0x000F99_000FBC, 0x000FBE_000FCC,
   0x000FCE_000FD4, 0x000FD9_000FDA]

def tifinaghPoints : CodePoints := .ofNumerals [0x002D30_002D67, 0x002D6F_002D70, 0x002D7F_002D7F]

def tirhutaPoints : CodePoints := .ofNumerals [0x011480_0114C7, 0x0114D0_0114D9]

def todhriPoints : CodePoints := .ofNumerals [0x0105C0_0105F3]

def totoPoints : CodePoints := .ofNumerals [0x01E290_01E2AE]

def tulutigalariPoints : CodePoints := .ofNumerals
  [0x011380_011389, 0x01138B_01138B, 0x01138E_01138E, 0x011390_0113B5, 0x0113B7_0113C0,
   0x0113C2_0113C2, 0x0113C5_0113C5, 0x0113C7_0113CA, 0x0113CC_0113D5, 0x0113D7_0113D8,
   0x0113E1_0113E2]

def ugariticPoints : CodePoints := .ofNumerals [0x010380_01039D, 0x01039F_01039F]

def vaiPoints : CodePoints := .ofNumerals [0x00A500_00A62B]

def vithkuqiPoints : CodePoints := .ofNumerals
  [0x010570_01057A, 0x01057C_01058A, 0x01058C_010592, 0x010594_010595, 0x010597_0105A1,
   0x0105A3_0105B1, 0x0105B3_0105B9, 0x0105BB_0105BC]

def wanchoPoints : CodePoints := .ofNumerals [0x01E2C0_01E2F9, 0x01E2FF_01E2FF]

def warangcitiPoints : CodePoints := .ofNumerals [0x0118A0_0118F2, 0x0118FF_0118FF]

def yezidiPoints : CodePoints := .ofNumerals [0x010E80_010EA9, 0x010EAB_010EAD, 0x010EB0_010EB1]

def yiPoints : CodePoints := .ofNumerals [0x00A000_00A48C, 0x00A490_00A4C6]

def zanabazarsquarePoints : CodePoints := .ofNumerals [0x011A00_011A47]

def scripts : List NamedSet :=
  [⟨["adlam", "adlm"], adlamPoints⟩,
   ⟨["ahom"], ahomPoints⟩,
   ⟨["anatolianhieroglyphs", "hluw"], anatolianhieroglyphsPoints⟩,
   ⟨["arabic", "arab"], arabicPoints⟩,
   ⟨["armenian", "armn"], armenianPoints⟩,
   ⟨["avestan", "avst"], avestanPoints⟩,
   ⟨["balinese", "bali"], balinesePoints⟩,
   ⟨["bamum", "bamu"], bamumPoints⟩,
   ⟨["bassavah", "bass"], bassavahPoints⟩,
   ⟨["batak", "batk"], batakPoints⟩,
   ⟨["bengali", "beng"], bengaliPoints⟩,
   ⟨["bhaiksuki", "bhks"], bhaiksukiPoints⟩,
   ⟨["bopomofo", "bopo"], bopomofoPoints⟩,
   ⟨["brahmi", "brah"], brahmiPoints⟩,
   ⟨["braille", "brai"], braillePoints⟩,
   ⟨["buginese", "bugi"], buginesePoints⟩,
   ⟨["buhid", "buhd"], buhidPoints⟩,
   ⟨["canadianaboriginal", "cans"], canadianaboriginalPoints⟩,
   ⟨["carian", "cari"], carianPoints⟩,
   ⟨["caucasianalbanian", "aghb"], caucasianalbanianPoints⟩,
   ⟨["chakma", "cakm"], chakmaPoints⟩,
   ⟨["cham"], chamPoints⟩,
   ⟨["cherokee", "cher"], cherokeePoints⟩,
   ⟨["chorasmian", "chrs"], chorasmianPoints⟩,
   ⟨["common", "zyyy"], commonPoints⟩,
   ⟨["coptic", "copt", "qaac"], copticPoints⟩,
   ⟨["cuneiform", "xsux"], cuneiformPoints⟩,
   ⟨["cypriot", "cprt"], cypriotPoints⟩,
   ⟨["cyprominoan", "cpmn"], cyprominoanPoints⟩,
   ⟨["cyrillic", "cyrl"], cyrillicPoints⟩,
   ⟨["deseret", "dsrt"], deseretPoints⟩,
   ⟨["devanagari", "deva"], devanagariPoints⟩,
   ⟨["divesakuru", "diak"], divesakuruPoints⟩,
   ⟨["dogra", "dogr"], dograPoints⟩,
   ⟨["duployan", "dupl"], duployanPoints⟩,
   ⟨["egyptianhieroglyphs", "egyp"], egyptianhieroglyphsPoints⟩,
   ⟨["elbasan", "elba"], elbasanPoints⟩,
   ⟨["elymaic", "elym"], elymaicPoints⟩,
   ⟨["ethiopic", "ethi"], ethiopicPoints⟩,
   ⟨["garay", "gara"], garayPoints⟩,
   ⟨["georgian", "geor"], georgianPoints⟩,
   ⟨["glagolitic", "glag"], glagoliticPoints⟩,
   ⟨["gothic", "goth"], gothicPoints⟩,
   ⟨["grantha", "gran"], granthaPoints⟩,
   ⟨["greek", "grek"], greekPoints⟩,
   ⟨["gujarati", "gujr"], gujaratiPoints⟩,
   ⟨["gunjalagondi", "gong"], gunjalagondiPoints⟩,
   ⟨["gurmukhi", "guru"], gurmukhiPoints⟩,
   ⟨["gurungkhema", "gukh"], gurungkhemaPoints⟩,
   ⟨["han", "hani"], hanPoints⟩,
   ⟨["hangul", "hang"], hangulPoints⟩,
   ⟨["hanifirohingya", "rohg"], hanifirohingyaPoints⟩,
   ⟨["hanunoo", "hano"], hanunooPoints⟩,
   ⟨["hatran", "hatr"], hatranPoints⟩,
   ⟨["hebrew", "hebr"], hebrewPoints⟩,
   ⟨["hiragana", "hira"], hiraganaPoints⟩,
   ⟨["imperialaramaic", "armi"], imperialaramaicPoints⟩,
   ⟨["inherited", "zinh", "qaai"], inheritedPoints⟩,
   ⟨["inscriptionalpahlavi", "phli"], inscriptionalpahlaviPoints⟩,
   ⟨["inscriptionalparthian", "prti"], inscriptionalparthianPoints⟩,
   ⟨["javanese", "java"], javanesePoints⟩,
   ⟨["kaithi", "kthi"], kaithiPoints⟩,
   ⟨["kannada", "knda"], kannadaPoints⟩,
   ⟨["katakana", "kana"], katakanaPoints⟩,
   ⟨["kawi"], kawiPoints⟩,
   ⟨["kayahli", "kali"], kayahliPoints⟩,
   ⟨["kharoshthi", "khar"], kharoshthiPoints⟩,
   ⟨["khitansmallscript", "kits"], khitansmallscriptPoints⟩,
   ⟨["khmer", "khmr"], khmerPoints⟩,
   ⟨["khojki", "khoj"], khojkiPoints⟩,
   ⟨["khudawadi", "sind"], khudawadiPoints⟩,
   ⟨["kiratrai", "krai"], kiratraiPoints⟩,
   ⟨["lao", "laoo"], laoPoints⟩,
   ⟨["latin", "latn"], latinPoints⟩,
   ⟨["lepcha", "lepc"], lepchaPoints⟩,
   ⟨["limbu", "limb"], limbuPoints⟩,
   ⟨["lineara", "lina"], linearaPoints⟩,
   ⟨["linearb", "linb"], linearbPoints⟩,
   ⟨["lisu"], lisuPoints⟩,
   ⟨["lycian", "lyci"], lycianPoints⟩,
   ⟨["lydian", "lydi"], lydianPoints⟩,
   ⟨["mahajani", "mahj"], mahajaniPoints⟩,
   ⟨["makasar", "maka"], makasarPoints⟩,
   ⟨["malayalam", "mlym"], malayalamPoints⟩,
   ⟨["mandaic", "mand"], mandaicPoints⟩,
   ⟨["manichaean", "mani"], manichaeanPoints⟩,
   ⟨["marchen", "marc"], marchenPoints⟩,
   ⟨["masaramgondi", "gonm"], masaramgondiPoints⟩,
   ⟨["medefaidrin", "medf"], medefaidrinPoints⟩,
   ⟨["meeteimayek", "mtei"], meeteimayekPoints⟩,
   ⟨["mendekikakui", "mend"], mendekikakuiPoints⟩,
   ⟨["meroiticcursive", "merc"], meroiticcursivePoints⟩,
   ⟨["meroitichieroglyphs", "mero"], meroitichieroglyphsPoints⟩,
   ⟨["miao", "plrd"], miaoPoints⟩,
   ⟨["modi"], modiPoints⟩,
   ⟨["mongolian", "mong"], mongolianPoints⟩,
   ⟨["mro", "mroo"], mroPoints⟩,
   ⟨["multani", "mult"], multaniPoints⟩,
   ⟨["myanmar", "mymr"], myanmarPoints⟩,
   ⟨["nabataean", "nbat"], nabataeanPoints⟩,
   ⟨["nagmundari", "nagm"], nagmundariPoints⟩,
   ⟨["nandinagari", "nand"], nandinagariPoints⟩,
   ⟨["newtailue", "talu"], newtailuePoints⟩,
   ⟨["newa"], newaPoints⟩,
   ⟨["nko", "nkoo"], nkoPoints⟩,
   ⟨["nushu", "nshu"], nushuPoints⟩,
   ⟨["nyiakengpuachuehmong", "hmnp"], nyiakengpuachuehmongPoints⟩,
   ⟨["ogham", "ogam"], oghamPoints⟩,
   ⟨["olchiki", "olck"], olchikiPoints⟩,
   ⟨["olonal", "onao"], olonalPoints⟩,
   ⟨["oldhungarian", "hung"], oldhungarianPoints⟩,
   ⟨["olditalic", "ital"], olditalicPoints⟩,
   ⟨["oldnortharabian", "narb"], oldnortharabianPoints⟩,
   ⟨["oldpermic", "perm"], oldpermicPoints⟩,
   ⟨["oldpersian", "xpeo"], oldpersianPoints⟩,
   ⟨["oldsogdian", "sogo"], oldsogdianPoints⟩,
   ⟨["oldsoutharabian", "sarb"], oldsoutharabianPoints⟩,
   ⟨["oldturkic", "orkh"], oldturkicPoints⟩,
   ⟨["olduyghur", "ougr"], olduyghurPoints⟩,
   ⟨["oriya", "orya"], oriyaPoints⟩,
   ⟨["osage", "osge"], osagePoints⟩,
   ⟨["osmanya", "osma"], osmanyaPoints⟩,
   ⟨["pahawhhmong", "hmng"], pahawhhmongPoints⟩,
   ⟨["palmyrene", "palm"], palmyrenePoints⟩,
   ⟨["paucinhau", "pauc"], paucinhauPoints⟩,
   ⟨["phagspa", "phag"], phagspaPoints⟩,
   ⟨["phoenician", "phnx"], phoenicianPoints⟩,
   ⟨["psalterpahlavi", "phlp"], psalterpahlaviPoints⟩,
   ⟨["rejang", "rjng"], rejangPoints⟩,
   ⟨["runic", "runr"], runicPoints⟩,
   ⟨["samaritan", "samr"], samaritanPoints⟩,
   ⟨["saurashtra", "saur"], saurashtraPoints⟩,
   ⟨["sharada", "shrd"], sharadaPoints⟩,
   ⟨["shavian", "shaw"], shavianPoints⟩,
   ⟨["siddham", "sidd"], siddhamPoints⟩,
   ⟨["signwriting", "sgnw"], signwritingPoints⟩,
   ⟨["sinhala", "sinh"], sinhalaPoints⟩,
   ⟨["sogdian", "sogd"], sogdianPoints⟩,
   ⟨["sorasompeng", "sora"], sorasompengPoints⟩,
   ⟨["soyombo", "soyo"], soyomboPoints⟩,
   ⟨["sundanese", "sund"], sundanesePoints⟩,
   ⟨["sunuwar", "sunu"], sunuwarPoints⟩,
   ⟨["sylotinagri", "sylo"], sylotinagriPoints⟩,
   ⟨["syriac", "syrc"], syriacPoints⟩,
   ⟨["tagalog", "tglg"], tagalogPoints⟩,
   ⟨["tagbanwa", "tagb"], tagbanwaPoints⟩,
   ⟨["taile", "tale"], tailePoints⟩,
   ⟨["taitham", "lana"], taithamPoints⟩,
   ⟨["taiviet", "tavt"], taivietPoints⟩,
   ⟨["takri", "takr"], takriPoints⟩,
   ⟨["tamil", "taml"], tamilPoints⟩,
   ⟨["tangsa", "tnsa"], tangsaPoints⟩,
   ⟨["tangut", "tang"], tangutPoints⟩,
   ⟨["telugu", "telu"], teluguPoints⟩,
   ⟨["thaana", "thaa"], thaanaPoints⟩,
   ⟨["thai"], thaiPoints⟩,
   ⟨["tibetan", "tibt"], tibetanPoints⟩,
   ⟨["tifinagh", "tfng"], tifinaghPoints⟩,
   ⟨["tirhuta", "tirh"], tirhutaPoints⟩,
   ⟨["todhri", "todr"], todhriPoints⟩,
   ⟨["toto"], totoPoints⟩,
   ⟨["tulutigalari", "tutg"], tulutigalariPoints⟩,
   ⟨["ugaritic", "ugar"], ugariticPoints⟩,
   ⟨["vai", "vaii"], vaiPoints⟩,
   ⟨["vithkuqi", "vith"], vithkuqiPoints⟩,
   ⟨["wancho", "wcho"], wanchoPoints⟩,
   ⟨["warangciti", "wara"], warangcitiPoints⟩,
   ⟨["yezidi", "yezi"], yezidiPoints⟩,
   ⟨["yi", "yiii"], yiPoints⟩,
   ⟨["zanabazarsquare", "zanb"], zanabazarsquarePoints⟩]

/-- A set of code points that are used in several scripts. -/
structure SharedPoints where
  scripts : List String
  points : CodePoints

/-- The code points used in other scripts than their own, with all the scripts they are used in. -/
def sharedPoints : List SharedPoints :=
  [⟨["avst", "cari", "copt", "dupl", "elba", "geor", "glag", "gong", "goth", "grek", "hani",
    "latn", "lydi", "mahj", "perm", "shaw"],
    .ofNumerals [0x0000B7_0000B7]⟩,
   ⟨["beng", "cyrl", "deva", "latn", "lisu", "thai", "toto"],
    .ofNumerals [0x0002BC_0002BC]⟩,
   ⟨["bopo", "latn"],
    .ofNumerals [0x0002C7_0002C7, 0x0002C9_0002CB, 0x0002D9_0002D9]⟩,
   ⟨["latn", "lisu"],
    .ofNumerals [0x0002CD_0002CD]⟩,
   ⟨["latn", "thai"],
    .ofNumerals [0x0002D7_0002D7]⟩,
   ⟨["cher", "copt", "cyrl", "grek", "latn", "perm", "sunu", "tale"],
    .ofNumerals [0x000300_000300]⟩,
   ⟨["cher", "cyrl", "grek", "latn", "osge", "sunu", "tale", "todr"],
    .ofNumerals [0x000301_000301]⟩,
   ⟨["cher", "cyrl", "latn", "tfng"],
    .ofNumerals [0x000302_000302]⟩,
   ⟨["glag", "latn", "sunu", "syrc", "thai"],
    .ofNumerals [0x000303_000303]⟩,
   ⟨["aghb", "cher", "copt", "cyrl", "goth", "grek", "latn", "osge", "syrc", "tfng", "todr"],
    .ofNumerals [0x000304_000304]⟩,
   ⟨["copt", "elba", "glag", "goth", "kana", "latn"],
    .ofNumerals [0x000305_000305]⟩,
   ⟨["cyrl", "grek", "latn", "perm", "tfng"],
    .ofNumerals [0x000306_000306]⟩,
   ⟨["copt", "dupl", "hebr", "latn", "perm", "syrc", "tale", "tfng", "todr"],
    .ofNumerals [0x000307_000307]⟩,
   ⟨["armn", "cyrl", "dupl", "goth", "grek", "hebr", "latn", "perm", "syrc", "tale", "tfng"],
    .ofNumerals [0x000308_000308]⟩,
   ⟨["latn", "tfng"],
    .ofNumerals [0x000309_000309]⟩,
   ⟨["dupl", "latn", "syrc"],
    .ofNumerals [0x00030A_00030A]⟩,
   ⟨["cher", "cyrl", "latn", "osge"],
    .ofNumerals [0x00030B_00030B]⟩,
   ⟨["cher", "latn", "tale"],
    .ofNumerals [0x00030C_00030C]⟩,
   ⟨["latn", "sunu"],
    .ofNumerals [0x00030D_00030D, 0x000310_000310]⟩,
   ⟨["ethi", "latn"],
    .ofNumerals [0x00030E_00030E]⟩,
   ⟨["cyrl", "latn", "todr"],
    .ofNumerals [0x000311_000311]⟩,
   ⟨["grek", "latn", "perm", "todr"],
    .ofNumerals [0x000313_000313]⟩,
   ⟨["cher", "dupl", "kana", "latn", "syrc", "tfng"],
    .ofNumerals [0x000323_000323]⟩,
   ⟨["cher", "dupl", "latn", "syrc"],
    .ofNumerals [0x000324_000324]⟩,
   ⟨["latn", "syrc"],
    .ofNumerals [0x000325_000325, 0x00032E_00032E]⟩,
   ⟨["latn", "sunu", "syrc"],
    .ofNumerals [0x00032D_00032D]⟩,
   ⟨["cher", "latn", "syrc"],
    .ofNumerals [0x000330_000330]⟩,
   ⟨["aghb", "cher", "goth", "latn", "sunu", "syrc", "thai"],
    .ofNumerals [0x000331_000331]⟩,
   ⟨["grek"],
    .ofNumerals [0x000342_000342, 0x000345_000345, 0x001DC0_001DC1]⟩,
   ⟨["latn", "osge"],
    .ofNumerals [0x000358_000358]⟩,
   ⟨["aghb", "latn", "todr"],
    .ofNumerals [0x00035E_00035E]⟩,
   ⟨["latn"],
    .ofNumerals [0x000363_00036F]⟩,
   ⟨["copt", "grek"],
    .ofNumerals [0x000374_000375]⟩,
   ⟨["cyrl", "perm"],
    .ofNumerals [0x000483_000483]⟩,
   ⟨["cyrl", "glag"],
    .ofNumerals [0x000484_000484, 0x000487_000487, 0x002E43_002E43, 0x00A66F_00A66F]⟩,
   ⟨["cyrl", "latn"],
    .ofNumerals [0x000485_000486]⟩,
   ⟨["armn", "geor", "glag"],
    .ofNumerals [0x000589_000589]⟩,
   ⟨["arab", "gara", "nkoo", "rohg", "syrc", "thaa", "yezi"],
    .ofNumerals [0x00060C_00060C, 0x00061B_00061B]⟩,
   ⟨["arab", "syrc", "thaa"],
    .ofNumerals [0x00061C_00061C]⟩,
   ⟨["adlm", "arab", "gara", "nkoo", "rohg", "syrc", "thaa", "yezi"],
    .ofNumerals [0x00061F_00061F]⟩,
   ⟨["adlm", "arab", "mand", "mani", "ougr", "phlp", "rohg", "sogd", "syrc"],
    .ofNumerals [0x000640_000640]⟩,
   ⟨["arab", "syrc"],
    .ofNumerals [0x00064B_000655, 0x000670_000670]⟩,
   ⟨["arab", "thaa", "yezi"],
    .ofNumerals [0x000660_000669]⟩,
   ⟨["arab", "rohg"],
    .ofNumerals [0x0006D4_0006D4]⟩,
   ⟨["beng", "deva", "gran", "gujr", "guru", "knda", "latn", "mlym", "nand", "newa", "orya",
    "shrd", "taml", "telu", "tirh"],
    .ofNumerals [0x000951_000951]⟩,
   ⟨["beng", "deva", "gran", "gujr", "guru", "knda", "latn", "mlym", "newa", "orya", "taml",
    "telu", "tirh"],
    .ofNumerals [0x000952_000952]⟩,
   ⟨["beng", "deva", "dogr", "gong", "gonm", "gran", "gujr", "guru", "knda", "mahj", "mlym",
    "nand", "onao", "orya", "sind", "sinh", "sylo", "takr", "taml", "telu", "tirh"],
    .ofNumerals [0x000964_000964]⟩,
   ⟨["beng", "deva", "dogr", "gong", "gonm", "gran", "gujr", "gukh", "guru", "knda", "limb",
    "mahj", "mlym", "nand", "onao", "orya", "sind", "sinh", "sylo", "takr", "taml", "telu",
    "tirh"],
    .ofNumerals [0x000965_000965]⟩,
   ⟨["deva", "dogr", "kthi", "mahj"],
    .ofNumerals [0x000966_00096F]⟩,
   ⟨["beng", "cakm", "sylo"],
    .ofNumerals [0x0009E6_0009EF]⟩,
   ⟨["guru", "mult"],
    .ofNumerals [0x000A66_000A6F]⟩,
   ⟨["gujr", "khoj"],
    .ofNumerals [0x000AE6_000AEF]⟩,
   ⟨["gran", "taml"],
    .ofNumerals [0x000BE6_000BF3, 0x011301_011301, 0x011303_011303, 0x01133B_01133C,
      0x011FD0_011FD1, 0x011FD3_011FD3]⟩,
   ⟨["knda", "nand", "tutg"],
    .ofNumerals [0x000CE6_000CEF]⟩,
   ⟨["cakm", "mymr", "tale"],
    .ofNumerals [0x001040_001049]⟩,
   ⟨["geor", "glag", "latn"],
    .ofNumerals [0x0010FB_0010FB]⟩,
   ⟨["runr"],
    .ofNumerals [0x0016EB_0016ED]⟩,
   ⟨["buhd", "hano", "tagb", "tglg"],
    .ofNumerals [0x001735_001736]⟩,
   ⟨["mong", "phag"],
    .ofNumerals [0x001802_001803, 0x001805_001805]⟩,
   ⟨["beng", "deva", "gran", "knda"],
    .ofNumerals [0x001CD0_001CD0, 0x001CD2_001CD2]⟩,
   ⟨["deva"],
    .ofNumerals [0x001CD1_001CD1, 0x001CD4_001CD4, 0x001CDB_001CDB, 0x001CDE_001CDF,
      0x001CE3_001CE8, 0x001CEC_001CEC, 0x001CEE_001CF1]⟩,
   ⟨["deva", "gran", "knda"],
    .ofNumerals [0x001CD3_001CD3]⟩,
   ⟨["beng", "deva", "newa", "telu", "tirh"],
    .ofNumerals [0x001CD5_001CD5]⟩,
   ⟨["beng", "deva", "telu"],
    .ofNumerals [0x001CD6_001CD6]⟩,
   ⟨["deva", "newa", "shrd"],
    .ofNumerals [0x001CD7_001CD7]⟩,
   ⟨["beng", "deva", "newa", "telu"],
    .ofNumerals [0x001CD8_001CD8]⟩,
   ⟨["deva", "shrd"],
    .ofNumerals [0x001CD9_001CD9, 0x001CDC_001CDD, 0x001CE0_001CE0]⟩,
   ⟨["deva", "knda", "mlym", "orya", "taml", "telu"],
    .ofNumerals [0x001CDA_001CDA]⟩,
   ⟨["beng", "deva"],
    .ofNumerals [0x001CE1_001CE1, 0x001CF5_001CF6]⟩,
   ⟨["deva", "newa", "tirh"],
    .ofNumerals [0x001CE2_001CE2]⟩,
   ⟨["deva", "nand", "newa"],
    .ofNumerals [0x001CE9_001CE9]⟩,
   ⟨["beng", "deva", "shrd"],
    .ofNumerals [0x001CEA_001CEA]⟩,
   ⟨["deva", "newa"],
    .ofNumerals [0x001CEB_001CEB]⟩,
   ⟨["beng", "deva", "newa", "shrd"],
    .ofNumerals [0x001CED_001CED]⟩,
   ⟨["beng", "deva", "gran", "knda", "mlym", "nand", "orya", "sinh", "telu", "tirh", "tutg"],
    .ofNumerals [0x001CF2_001CF2]⟩,
   ⟨["deva", "gran"],
    .ofNumerals [0x001CF3_001CF3, 0x001CF8_001CF9]⟩,
   ⟨["deva", "gran", "knda", "tutg"],
    .ofNumerals [0x001CF4_001CF4]⟩,
   ⟨["beng"],
    .ofNumerals [0x001CF7_001CF7]⟩,
   ⟨["nand"],
    .ofNumerals [0x001CFA_001CFA]⟩,
   ⟨["cyrl", "latn", "syrc"],
    .ofNumerals [0x001DF8_001DF8]⟩,
   ⟨["syrc"],
    .ofNumerals [0x001DFA_001DFA]⟩,
   ⟨["latn", "mong", "phag"],
    .ofNumerals [0x00202F_00202F]⟩,
   ⟨["adlm", "arab"],
    .ofNumerals [0x00204F_00204F]⟩,
   ⟨["cari", "geor", "glag", "hung", "lyci", "orkh"],
    .ofNumerals [0x00205A_00205A]⟩,
   ⟨["cari", "grek", "hung", "mero"],
    .ofNumerals [0x00205D_00205D]⟩,
   ⟨["deva", "gran", "latn"],
    .ofNumerals [0x0020F0_0020F0]⟩,
   ⟨["copt", "latn"],
    .ofNumerals [0x002E17_002E17]⟩,
   ⟨["avst", "orkh"],
    .ofNumerals [0x002E30_002E30]⟩,
   ⟨["avst", "cari", "geor", "hung", "kthi", "lydi", "samr"],
    .ofNumerals [0x002E31_002E31]⟩,
   ⟨["dupl"],
    .ofNumerals [0x002E3C_002E3C, 0x01BCA0_01BCA3]⟩,
   ⟨["adlm", "arab", "hung"],
    .ofNumerals [0x002E41_002E41]⟩,
   ⟨["hani", "tang"],
    .ofNumerals [0x002FF0_002FFF, 0x0031EF_0031EF]⟩,
   ⟨["bopo", "hang", "hani", "hira", "kana", "mong", "yiii"],
    .ofNumerals [0x003001_003001]⟩,
   ⟨["bopo", "hang", "hani", "hira", "kana", "mong", "phag", "yiii"],
    .ofNumerals [0x003002_003002]⟩,
   ⟨["bopo", "hang", "hani", "hira", "kana"],
    .ofNumerals [0x003003_003003, 0x003013_003013, 0x00301C_00301F, 0x003030_003030,
      0x003037_003037, 0x00FE45_00FE46]⟩,
   ⟨["hani"],
    .ofNumerals [0x003006_003006, 0x00303E_00303F, 0x003190_00319F, 0x0031C0_0031E5,
      0x003220_003247, 0x003280_0032B0, 0x0032C0_0032CB, 0x0032FF_0032FF, 0x003358_003370,
      0x00337B_00337F, 0x0033E0_0033FE, 0x01D360_01D371, 0x01F250_01F251]⟩,
   ⟨["bopo", "hang", "hani", "hira", "kana", "mong", "tibt", "yiii"],
    .ofNumerals [0x003008_003009]⟩,
   ⟨["bopo", "hang", "hani", "hira", "kana", "lisu", "mong", "tibt", "yiii"],
    .ofNumerals [0x00300A_00300B]⟩,
   ⟨["bopo", "hang", "hani", "hira", "kana", "yiii"],
    .ofNumerals [0x00300C_003011, 0x003014_00301B, 0x0030FB_0030FB, 0x00FF61_00FF65]⟩,
   ⟨["bopo", "hani"],
    .ofNumerals [0x00302A_00302D]⟩,
   ⟨["hira", "kana"],
    .ofNumerals [0x003031_003035, 0x003099_00309C, 0x0030A0_0030A0, 0x0030FC_0030FC,
      0x00FF70_00FF70, 0x00FF9E_00FF9F]⟩,
   ⟨["hani", "hira", "kana"],
    .ofNumerals [0x00303C_00303D]⟩,
   ⟨["hani", "latn"],
    .ofNumerals [0x00A700_00A707]⟩,
   ⟨["deva", "dogr", "gujr", "guru", "khoj", "knda", "kthi", "mahj", "mlym", "modi", "nand",
    "shrd", "sind", "takr", "tirh", "tutg"],
    .ofNumerals [0x00A830_00A832]⟩,
   ⟨["deva", "dogr", "gujr", "guru", "khoj", "knda", "kthi", "mahj", "modi", "nand", "shrd",
    "sind", "takr", "tirh", "tutg"],
    .ofNumerals [0x00A833_00A835]⟩,
   ⟨["deva", "dogr", "gujr", "guru", "khoj", "kthi", "mahj", "modi", "sind", "takr", "tirh"],
    .ofNumerals [0x00A836_00A837, 0x00A839_00A839]⟩,
   ⟨["deva", "dogr", "gujr", "guru", "khoj", "kthi", "mahj", "modi", "shrd", "sind", "takr",
    "tirh"],
    .ofNumerals [0x00A838_00A838]⟩,
   ⟨["beng", "deva", "tutg"],
    .ofNumerals [0x00A8F1_00A8F1]⟩,
   ⟨["deva", "taml"],
    .ofNumerals [0x00A8F3_00A8F3]⟩,
   ⟨["kali", "latn", "mymr"],
    .ofNumerals [0x00A92E_00A92E]⟩,
   ⟨["bugi", "java"],
    .ofNumerals [0x00A9CF_00A9CF]⟩,
   ⟨["arab", "nkoo"],
    .ofNumerals [0x00FD3E_00FD3F]⟩,
   ⟨["arab", "thaa"],
    .ofNumerals [0x00FDF2_00FDF2, 0x00FDFD_00FDFD]⟩,
   ⟨["cpmn", "cprt", "linb"],
    .ofNumerals [0x010100_010101]⟩,
   ⟨["cprt", "linb"],
    .ofNumerals [0x010102_010102, 0x010137_01013F]⟩,
   ⟨["cprt", "lina", "linb"],
    .ofNumerals [0x010107_010133]⟩,
   ⟨["arab", "copt"],
    .ofNumerals [0x0102E0_0102FB]⟩,
   ⟨["mani", "ougr"],
    .ofNumerals [0x010AF2_010AF2]⟩]

def extendedScript (script : NamedSet) : NamedSet :=
  let shared := CodePoints.unions (sharedPoints.map (·.points))
  let added := sharedPoints.filter fun shared => shared.scripts.any script.names.contains
  ⟨script.names, (script.points.difference shared).union (.unions (added.map (·.points)))⟩

end RouteTable.Text
