import RouteTable.Text.CodePoints

/-!
Properties of characters that Unicode 16 gives by lists.
-/

namespace RouteTable.Text

def asciiHexDigitPoints : CodePoints := .ofNumerals
  [0x000030_000039, 0x000041_000046, 0x000061_000066]

def bidiControlPoints : CodePoints := .ofNumerals
  [0x00061C_00061C, 0x00200E_00200F, 0x00202A_00202E, 0x002066_002069]

def bidiMirroredPoints : CodePoints := .ofNumerals
  [0x000028_000029, 0x00003C_00003C, 0x00003E_00003E, 0x00005B_00005B, 0x00005D_00005D,
   0x00007B_00007B, 0x00007D_00007D, 0x0000AB_0000AB, 0x0000BB_0000BB, 0x000F3A_000F3D,
   0x00169B_00169C, 0x002039_00203A, 0x002045_002046, 0x00207D_00207E, 0x00208D_00208E,
   0x002140_002140, 0x002201_002204, 0x002208_00220D, 0x002211_002211, 0x002215_002216,
   0x00221A_00221D, 0x00221F_002222, 0x002224_002224, 0x002226_002226, 0x00222B_002233,
   0x002239_002239, 0x00223B_00224C, 0x002252_002255, 0x00225F_002260, 0x002262_002262,
   0x002264_00226B, 0x00226D_00228C, 0x00228F_002292, 0x002298_002298, 0x0022A2_0022A3,
   0x0022A6_0022B8, 0x0022BE_0022BF, 0x0022C9_0022CD, 0x0022D0_0022D1, 0x0022D6_0022ED,
   0x0022F0_0022FF, 0x002308_00230B, 0x002320_002321, 0x002329_00232A, 0x002768_002775,
   0x0027C0_0027C0, 0x0027C3_0027C6, 0x0027C8_0027C9, 0x0027CB_0027CD, 0x0027D3_0027D6,
   0x0027DC_0027DE, 0x0027E2_0027EF, 0x002983_002998, 0x00299B_0029A0, 0x0029A2_0029AF,
   0x0029B8_0029B8, 0x0029C0_0029C5, 0x0029C9_0029C9, 0x0029CE_0029D2, 0x0029D4_0029D5,
   0x0029D8_0029DC, 0x0029E1_0029E1, 0x0029E3_0029E5, 0x0029E8_0029E9, 0x0029F4_0029F9,
   0x0029FC_0029FD, 0x002A0A_002A1C, 0x002A1E_002A21, 0x002A24_002A24, 0x002A26_002A26,
   0x002A29_002A29, 0x002A2B_002A2E, 0x002A34_002A35, 0x002A3C_002A3E, 0x002A57_002A58,
   0x002A64_002A65, 0x002A6A_002A6D, 0x002A6F_002A70, 0x002A73_002A74, 0x002A79_002AA3,
   0x002AA6_002AAD, 0x002AAF_002AD6, 0x002ADC_002ADC, 0x002ADE_002ADE, 0x002AE2_002AE6,
   0x002AEC_002AEE, 0x002AF3_002AF3, 0x002AF7_002AFB, 0x002AFD_002AFD, 0x002BFE_002BFE,
   0x002E02_002E05, 0x002E09_002E0A, 0x002E0C_002E0D, 0x002E1C_002E1D, 0x002E20_002E29,
   0x002E55_002E5C, 0x003008_003011, 0x003014_00301B, 0x00FE59_00FE5E, 0x00FE64_00FE65,
   0x00FF08_00FF09, 0x00FF1C_00FF1C, 0x00FF1E_00FF1E, 0x00FF3B_00FF3B, 0x00FF3D_00FF3D,
   0x00FF5B_00FF5B, 0x00FF5D_00FF5D, 0x00FF5F_00FF60, 0x00FF62_00FF63, 0x01D6DB_01D6DB,
   0x01D715_01D715, 0x01D74F_01D74F, 0x01D789_01D789, 0x01D7C3_01D7C3]

def dashPoints : CodePoints := .ofNumerals
  [0x00002D_00002D, 0x00058A_00058A, 0x0005BE_0005BE, 0x001400_001400, 0x001806_001806,
   0x002010_002015, 0x002053_002053, 0x00207B_00207B, 0x00208B_00208B, 0x002212_002212,
   0x002E17_002E17, 0x002E1A_002E1A, 0x002E3A_002E3B, 0x002E40_002E40, 0x002E5D_002E5D,
   0x00301C_00301C, 0x003030_003030, 0x0030A0_0030A0, 0x00FE31_00FE32, 0x00FE58_00FE58,
   0x00FE63_00FE63, 0x00FF0D_00FF0D, 0x010D6E_010D6E, 0x010EAD_010EAD]

def deprecatedPoints : CodePoints := .ofNumerals
  [0x000149_000149, 0x000673_000673, 0x000F77_000F77, 0x000F79_000F79, 0x0017A3_0017A4,
   0x00206A_00206F, 0x002329_00232A, 0x0E0001_0E0001]

def diacriticPoints : CodePoints := .ofNumerals
  [0x00005E_00005E, 0x000060_000060, 0x0000A8_0000A8, 0x0000AF_0000AF, 0x0000B4_0000B4,
   0x0000B7_0000B8, 0x0002B0_00034E, 0x000350_000357, 0x00035D_000362, 0x000374_000375,
   0x00037A_00037A, 0x000384_000385, 0x000483_000487, 0x000559_000559, 0x000591_0005A1,
   0x0005A3_0005BD, 0x0005BF_0005BF, 0x0005C1_0005C2, 0x0005C4_0005C4, 0x00064B_000652,
   0x000657_000658, 0x0006DF_0006E0, 0x0006E5_0006E6, 0x0006EA_0006EC, 0x000730_00074A,
   0x0007A6_0007B0, 0x0007EB_0007F5, 0x000818_000819, 0x000898_00089F, 0x0008C9_0008D2,
   0x0008E3_0008FE, 0x00093C_00093C, 0x00094D_00094D, 0x000951_000954, 0x000971_000971,
   0x0009BC_0009BC, 0x0009CD_0009CD, 0x000A3C_000A3C, 0x000A4D_000A4D, 0x000ABC_000ABC,
   0x000ACD_000ACD, 0x000AFD_000AFF, 0x000B3C_000B3C, 0x000B4D_000B4D, 0x000B55_000B55,
   0x000BCD_000BCD, 0x000C3C_000C3C, 0x000C4D_000C4D, 0x000CBC_000CBC, 0x000CCD_000CCD,
   0x000D3B_000D3C, 0x000D4D_000D4D, 0x000DCA_000DCA, 0x000E3A_000E3A, 0x000E47_000E4C,
   0x000E4E_000E4E, 0x000EBA_000EBA, 0x000EC8_000ECC, 0x000F18_000F19, 0x000F35_000F35,
   0x000F37_000F37, 0x000F39_000F39, 0x000F3E_000F3F, 0x000F82_000F84, 0x000F86_000F87,
   0x000FC6_000FC6, 0x001037_001037, 0x001039_00103A, 0x001063_001064, 0x001069_00106D,
   0x001087_00108D, 0x00108F_00108F, 0x00109A_00109B, 0x00135D_00135F, 0x001714_001715,
   0x001734_001734, 0x0017C9_0017D3, 0x0017DD_0017DD, 0x001939_00193B, 0x001A60_001A60,
   0x001A75_001A7C, 0x001A7F_001A7F, 0x001AB0_001ABE, 0x001AC1_001ACB, 0x001B34_001B34,
   0x001B44_001B44, 0x001B6B_001B73, 0x001BAA_001BAB, 0x001BE6_001BE6, 0x001BF2_001BF3,
   0x001C36_001C37, 0x001C78_001C7D, 0x001CD0_001CE8, 0x001CED_001CED, 0x001CF4_001CF4,
   0x001CF7_001CF9, 0x001D2C_001D6A, 0x001DC4_001DCF, 0x001DF5_001DFF, 0x001FBD_001FBD,
   0x001FBF_001FC1, 0x001FCD_001FCF, 0x001FDD_001FDF, 0x001FED_001FEF, 0x001FFD_001FFE,
   0x002CEF_002CF1, 0x002E2F_002E2F, 0x00302A_00302F, 0x003099_00309C, 0x0030FC_0030FC,
   0x00A66F_00A66F, 0x00A67C_00A67D, 0x00A67F_00A67F, 0x00A69C_00A69D, 0x00A6F0_00A6F1,
   0x00A700_00A721, 0x00A788_00A78A, 0x00A7F8_00A7F9, 0x00A806_00A806, 0x00A82C_00A82C,
   0x00A8C4_00A8C4, 0x00A8E0_00A8F1, 0x00A92B_00A92E, 0x00A953_00A953, 0x00A9B3_00A9B3,
   0x00A9C0_00A9C0, 0x00A9E5_00A9E5, 0x00AA7B_00AA7D, 0x00AABF_00AAC2, 0x00AAF6_00AAF6,
   0x00AB5B_00AB5F, 0x00AB69_00AB6B, 0x00ABEC_00ABED, 0x00FB1E_00FB1E, 0x00FE20_00FE2F,
   0x00FF3E_00FF3E, 0x00FF40_00FF40, 0x00FF70_00FF70, 0x00FF9E_00FF9F, 0x00FFE3_00FFE3,
   0x0102E0_0102E0, 0x010780_010785, 0x010787_0107B0, 0x0107B2_0107BA, 0x010A38_010A3A,
   0x010A3F_010A3F, 0x010AE5_010AE6, 0x010D22_010D27, 0x010D4E_010D4E, 0x010D69_010D6D,
   0x010EFD_010EFF, 0x010F46_010F50, 0x010F82_010F85, 0x011046_011046, 0x011070_011070,
   0x0110B9_0110BA, 0x011133_011134, 0x011173_011173, 0x0111C0_0111C0, 0x0111CA_0111CC,
   0x011235_011236, 0x0112E9_0112EA, 0x01133B_01133C, 0x01134D_01134D, 0x011366_01136C,
   0x011370_011374, 0x0113CE_0113D0, 0x0113D2_0113D3, 0x0113E1_0113E2, 0x011442_011442,
   0x011446_011446, 0x0114C2_0114C3, 0x0115BF_0115C0, 0x01163F_01163F, 0x0116B6_0116B7,
   0x01172B_01172B, 0x011839_01183A, 0x01193D_01193E, 0x011943_011943, 0x0119E0_0119E0,
   0x011A34_011A34, 0x011A47_011A47, 0x011A99_011A99, 0x011C3F_011C3F, 0x011D42_011D42,
   0x011D44_011D45, 0x011D97_011D97, 0x011F41_011F42, 0x011F5A_011F5A, 0x013447_013455,
   0x01612F_01612F, 0x016AF0_016AF4, 0x016B30_016B36, 0x016D6B_016D6C, 0x016F8F_016F9F,
   0x016FF0_016FF1, 0x01AFF0_01AFF3, 0x01AFF5_01AFFB, 0x01AFFD_01AFFE, 0x01CF00_01CF2D,
   0x01CF30_01CF46, 0x01D167_01D169, 0x01D16D_01D172, 0x01D17B_01D182, 0x01D185_01D18B,
   0x01D1AA_01D1AD, 0x01E030_01E06D, 0x01E130_01E136, 0x01E2AE_01E2AE, 0x01E2EC_01E2EF,
   0x01E5EE_01E5EF, 0x01E8D0_01E8D6, 0x01E944_01E946, 0x01E948_01E94A]

def emojiPoints : CodePoints := .ofNumerals
  [0x000023_000023, 0x00002A_00002A, 0x000030_000039, 0x0000A9_0000A9, 0x0000AE_0000AE,
   0x00203C_00203C, 0x002049_002049, 0x002122_002122, 0x002139_002139, 0x002194_002199,
   0x0021A9_0021AA, 0x00231A_00231B, 0x002328_002328, 0x0023CF_0023CF, 0x0023E9_0023F3,
   0x0023F8_0023FA, 0x0024C2_0024C2, 0x0025AA_0025AB, 0x0025B6_0025B6, 0x0025C0_0025C0,
   0x0025FB_0025FE, 0x002600_002604, 0x00260E_00260E, 0x002611_002611, 0x002614_002615,
   0x002618_002618, 0x00261D_00261D, 0x002620_002620, 0x002622_002623, 0x002626_002626,
   0x00262A_00262A, 0x00262E_00262F, 0x002638_00263A, 0x002640_002640, 0x002642_002642,
   0x002648_002653, 0x00265F_002660, 0x002663_002663, 0x002665_002666, 0x002668_002668,
   0x00267B_00267B, 0x00267E_00267F, 0x002692_002697, 0x002699_002699, 0x00269B_00269C,
   0x0026A0_0026A1, 0x0026A7_0026A7, 0x0026AA_0026AB, 0x0026B0_0026B1, 0x0026BD_0026BE,
   0x0026C4_0026C5, 0x0026C8_0026C8, 0x0026CE_0026CF, 0x0026D1_0026D1, 0x0026D3_0026D4,
   0x0026E9_0026EA, 0x0026F0_0026F5, 0x0026F7_0026FA, 0x0026FD_0026FD, 0x002702_002702,
   0x002705_002705, 0x002708_00270D, 0x00270F_00270F, 0x002712_002712, 0x002714_002714,
   0x002716_002716, 0x00271D_00271D, 0x002721_002721, 0x002728_002728, 0x002733_002734,
   0x002744_002744, 0x002747_002747, 0x00274C_00274C, 0x00274E_00274E, 0x002753_002755,
   0x002757_002757, 0x002763_002764, 0x002795_002797, 0x0027A1_0027A1, 0x0027B0_0027B0,
   0x0027BF_0027BF, 0x002934_002935, 0x002B05_002B07, 0x002B1B_002B1C, 0x002B50_002B50,
   0x002B55_002B55, 0x003030_003030, 0x00303D_00303D, 0x003297_003297, 0x003299_003299,
   0x01F004_01F004, 0x01F0CF_01F0CF, 0x01F170_01F171, 0x01F17E_01F17F, 0x01F18E_01F18E,
   0x01F191_01F19A, 0x01F1E6_01F1FF, 0x01F201_01F202, 0x01F21A_01F21A, 0x01F22F_01F22F,
   0x01F232_01F23A, 0x01F250_01F251, 0x01F300_01F321, 0x01F324_01F393, 0x01F396_01F397,
   0x01F399_01F39B, 0x01F39E_01F3F0, 0x01F3F3_01F3F5, 0x01F3F7_01F4FD, 0x01F4FF_01F53D,
   0x01F549_01F54E, 0x01F550_01F567, 0x01F56F_01F570, 0x01F573_01F57A, 0x01F587_01F587,
   0x01F58A_01F58D, 0x01F590_01F590, 0x01F595_01F596, 0x01F5A4_01F5A5, 0x01F5A8_01F5A8,
   0x01F5B1_01F5B2, 0x01F5BC_01F5BC, 0x01F5C2_01F5C4, 0x01F5D1_01F5D3, 0x01F5DC_01F5DE,
   0x01F5E1_01F5E1, 0x01F5E3_01F5E3, 0x01F5E8_01F5E8, 0x01F5EF_01F5EF, 0x01F5F3_01F5F3,
   0x01F5FA_01F64F, 0x01F680_01F6C5, 0x01F6CB_01F6D2, 0x01F6D5_01F6D7, 0x01F6DC_01F6E5,
   0x01F6E9_01F6E9, 0x01F6EB_01F6EC, 0x01F6F0_01F6F0, 0x01F6F3_01F6FC, 0x01F7E0_01F7EB,
   0x01F7F0_01F7F0, 0x01F90C_01F93A, 0x01F93C_01F945, 0x01F947_01F9FF, 0x01FA70_01FA7C,
   0x01FA80_01FA89, 0x01FA8F_01FAC6, 0x01FACE_01FADC, 0x01FADF_01FAE9, 0x01FAF0_01FAF8]

def emojiComponentPoints : CodePoints := .ofNumerals
  [0x000023_000023, 0x00002A_00002A, 0x000030_000039, 0x00200D_00200D, 0x0020E3_0020E3,
   0x00FE0F_00FE0F, 0x01F1E6_01F1FF, 0x01F3FB_01F3FF, 0x01F9B0_01F9B3, 0x0E0020_0E007F]

def emojiModifierPoints : CodePoints := .ofNumerals [0x01F3FB_01F3FF]

def emojiModifierBasePoints : CodePoints := .ofNumerals
  [0x00261D_00261D, 0x0026F9_0026F9, 0x00270A_00270D, 0x01F385_01F385, 0x01F3C2_01F3C4,
   0x01F3C7_01F3C7, 0x01F3CA_01F3CC, 0x01F442_01F443, 0x01F446_01F450, 0x01F466_01F478,
   0x01F47C_01F47C, 0x01F481_01F483, 0x01F485_01F487, 0x01F48F_01F48F, 0x01F491_01F491,
   0x01F4AA_01F4AA, 0x01F574_01F575, 0x01F57A_01F57A, 0x01F590_01F590, 0x01F595_01F596,
   0x01F645_01F647, 0x01F64B_01F64F, 0x01F6A3_01F6A3, 0x01F6B4_01F6B6, 0x01F6C0_01F6C0,
   0x01F6CC_01F6CC, 0x01F90C_01F90C, 0x01F90F_01F90F, 0x01F918_01F91F, 0x01F926_01F926,
   0x01F930_01F939, 0x01F93C_01F93E, 0x01F977_01F977, 0x01F9B5_01F9B6, 0x01F9B8_01F9B9,
   0x01F9BB_01F9BB, 0x01F9CD_01F9CF, 0x01F9D1_01F9DD, 0x01FAC3_01FAC5, 0x01FAF0_01FAF8]

def emojiPresentationPoints : CodePoints := .ofNumerals
  [0x00231A_00231B, 0x0023E9_0023EC, 0x0023F0_0023F0, 0x0023F3_0023F3, 0x0025FD_0025FE,
   0x002614_002615, 0x002648_002653, 0x00267F_00267F, 0x002693_002693, 0x0026A1_0026A1,
   0x0026AA_0026AB, 0x0026BD_0026BE, 0x0026C4_0026C5, 0x0026CE_0026CE, 0x0026D4_0026D4,
   0x0026EA_0026EA, 0x0026F2_0026F3, 0x0026F5_0026F5, 0x0026FA_0026FA, 0x0026FD_0026FD,
   0x002705_002705, 0x00270A_00270B, 0x002728_002728, 0x00274C_00274C, 0x00274E_00274E,
   0x002753_002755, 0x002757_002757, 0x002795_002797, 0x0027B0_0027B0, 0x0027BF_0027BF,
   0x002B1B_002B1C, 0x002B50_002B50, 0x002B55_002B55, 0x01F004_01F004, 0x01F0CF_01F0CF,
   0x01F18E_01F18E, 0x01F191_01F19A, 0x01F1E6_01F1FF, 0x01F201_01F201, 0x01F21A_01F21A,
   0x01F22F_01F22F, 0x01F232_01F236, 0x01F238_01F23A, 0x01F250_01F251, 0x01F300_01F320,
   0x01F32D_01F335, 0x01F337_01F37C, 0x01F37E_01F393, 0x01F3A0_01F3CA, 0x01F3CF_01F3D3,
   0x01F3E0_01F3F0, 0x01F3F4_01F3F4, 0x01F3F8_01F43E, 0x01F440_01F440, 0x01F442_01F4FC,
   0x01F4FF_01F53D, 0x01F54B_01F54E, 0x01F550_01F567, 0x01F57A_01F57A, 0x01F595_01F596,
   0x01F5A4_01F5A4, 0x01F5FB_01F64F, 0x01F680_01F6C5, 0x01F6CC_01F6CC, 0x01F6D0_01F6D2,
   0x01F6D5_01F6D7, 0x01F6DC_01F6DF, 0x01F6EB_01F6EC, 0x01F6F4_01F6FC, 0x01F7E0_01F7EB,
   0x01F7F0_01F7F0, 0x01F90C_01F93A, 0x01F93C_01F945, 0x01F947_01F9FF, 0x01FA70_01FA7C,
   0x01FA80_01FA89, 0x01FA8F_01FAC6, 0x01FACE_01FADC, 0x01FADF_01FAE9, 0x01FAF0_01FAF8]

def extendedPictographicPoints : CodePoints := .ofNumerals
  [0x0000A9_0000A9, 0x0000AE_0000AE, 0x00203C_00203C, 0x002049_002049, 0x002122_002122,
   0x002139_002139, 0x002194_002199, 0x0021A9_0021AA, 0x00231A_00231B, 0x002328_002328,
   0x002388_002388, 0x0023CF_0023CF, 0x0023E9_0023F3, 0x0023F8_0023FA, 0x0024C2_0024C2,
   0x0025AA_0025AB, 0x0025B6_0025B6, 0x0025C0_0025C0, 0x0025FB_0025FE, 0x002600_002605,
   0x002607_002612, 0x002614_002685, 0x002690_002705, 0x002708_002712, 0x002714_002714,
   0x002716_002716, 0x00271D_00271D, 0x002721_002721, 0x002728_002728, 0x002733_002734,
   0x002744_002744, 0x002747_002747, 0x00274C_00274C, 0x00274E_00274E, 0x002753_002755,
   0x002757_002757, 0x002763_002767, 0x002795_002797, 0x0027A1_0027A1, 0x0027B0_0027B0,
   0x0027BF_0027BF, 0x002934_002935, 0x002B05_002B07, 0x002B1B_002B1C, 0x002B50_002B50,
   0x002B55_002B55, 0x003030_003030, 0x00303D_00303D, 0x003297_003297, 0x003299_003299,
   0x01F000_01F0FF, 0x01F10D_01F10F, 0x01F12F_01F12F, 0x01F16C_01F171, 0x01F17E_01F17F,
   0x01F18E_01F18E, 0x01F191_01F19A, 0x01F1AD_01F1E5, 0x01F201_01F20F, 0x01F21A_01F21A,
   0x01F22F_01F22F, 0x01F232_01F23A, 0x01F23C_01F23F, 0x01F249_01F3FA, 0x01F400_01F53D,
   0x01F546_01F64F, 0x01F680_01F6FF, 0x01F774_01F77F, 0x01F7D5_01F7FF, 0x01F80C_01F80F,
   0x01F848_01F84F, 0x01F85A_01F85F, 0x01F888_01F88F, 0x01F8AE_01F8FF, 0x01F90C_01F93A,
   0x01F93C_01F945, 0x01F947_01FAFF, 0x01FC00_01FFFD]

def extenderPoints : CodePoints := .ofNumerals
  [0x0000B7_0000B7, 0x0002D0_0002D1, 0x000640_000640, 0x0007FA_0007FA, 0x000A71_000A71,
   0x000AFB_000AFB, 0x000B55_000B55, 0x000E46_000E46, 0x000EC6_000EC6, 0x00180A_00180A,
   0x001843_001843, 0x001AA7_001AA7, 0x001C36_001C36, 0x001C7B_001C7B, 0x003005_003005,
   0x003031_003035, 0x00309D_00309E, 0x0030FC_0030FE, 0x00A015_00A015, 0x00A60C_00A60C,
   0x00A9CF_00A9CF, 0x00A9E6_00A9E6, 0x00AA70_00AA70, 0x00AADD_00AADD, 0x00AAF3_00AAF4,
   0x00FF70_00FF70, 0x010781_010782, 0x010D4E_010D4E, 0x010D6A_010D6A, 0x010D6F_010D6F,
   0x011237_011237, 0x01135D_01135D, 0x0113D2_0113D3, 0x0115C6_0115C8, 0x011A98_011A98,
   0x016B42_016B43, 0x016FE0_016FE1, 0x016FE3_016FE3, 0x01E13C_01E13D, 0x01E5EF_01E5EF,
   0x01E944_01E946]

def graphemeLinkPoints : CodePoints := .ofNumerals
  [0x00094D_00094D, 0x0009CD_0009CD, 0x000A4D_000A4D, 0x000ACD_000ACD, 0x000B4D_000B4D,
   0x000BCD_000BCD, 0x000C4D_000C4D, 0x000CCD_000CCD, 0x000D3B_000D3C, 0x000D4D_000D4D,
   0x000DCA_000DCA, 0x000E3A_000E3A, 0x000EBA_000EBA, 0x000F84_000F84, 0x001039_00103A,
   0x001714_001715, 0x001734_001734, 0x0017D2_0017D2, 0x001A60_001A60, 0x001B44_001B44,
   0x001BAA_001BAB, 0x001BF2_001BF3, 0x002D7F_002D7F, 0x00A806_00A806, 0x00A82C_00A82C,
   0x00A8C4_00A8C4, 0x00A953_00A953, 0x00A9C0_00A9C0, 0x00AAF6_00AAF6, 0x00ABED_00ABED,
   0x010A3F_010A3F, 0x011046_011046, 0x011070_011070, 0x01107F_01107F, 0x0110B9_0110B9,
   0x011133_011134, 0x0111C0_0111C0, 0x011235_011235, 0x0112EA_0112EA, 0x01134D_01134D,
   0x0113CE_0113D0, 0x011442_011442, 0x0114C2_0114C2, 0x0115BF_0115BF, 0x01163F_01163F,
   0x0116B6_0116B6, 0x01172B_01172B, 0x011839_011839, 0x01193D_01193E, 0x0119E0_0119E0,
   0x011A34_011A34, 0x011A47_011A47, 0x011A99_011A99, 0x011C3F_011C3F, 0x011D44_011D45,
   0x011D97_011D97, 0x011F41_011F42, 0x01612F_01612F]

def hexDigitPoints : CodePoints := .ofNumerals
  [0x000030_000039, 0x000041_000046, 0x000061_000066, 0x00FF10_00FF19, 0x00FF21_00FF26,
   0x00FF41_00FF46]

def hyphenPoints : CodePoints := .ofNumerals
  [0x00002D_00002D, 0x0000AD_0000AD, 0x00058A_00058A, 0x001806_001806, 0x002010_002011,
   0x002E17_002E17, 0x0030FB_0030FB, 0x00FE63_00FE63, 0x00FF0D_00FF0D, 0x00FF65_00FF65]

def idsBinaryOperatorPoints : CodePoints := .ofNumerals
  [0x002FF0_002FF1, 0x002FF4_002FFD, 0x0031EF_0031EF]

def idsTrinaryOperatorPoints : CodePoints := .ofNumerals [0x002FF2_002FF3]

def idsUnaryOperatorPoints : CodePoints := .ofNumerals [0x002FFE_002FFF]

def idCompatMathContinuePoints : CodePoints := .ofNumerals
  [0x0000B2_0000B3, 0x0000B9_0000B9, 0x002070_002070, 0x002074_00207E, 0x002080_00208E,
   0x002202_002202, 0x002207_002207, 0x00221E_00221E, 0x01D6C1_01D6C1, 0x01D6DB_01D6DB,
   0x01D6FB_01D6FB, 0x01D715_01D715, 0x01D735_01D735, 0x01D74F_01D74F, 0x01D76F_01D76F,
   0x01D789_01D789, 0x01D7A9_01D7A9, 0x01D7C3_01D7C3]

def idCompatMathStartPoints : CodePoints := .ofNumerals
  [0x002202_002202, 0x002207_002207, 0x00221E_00221E, 0x01D6C1_01D6C1, 0x01D6DB_01D6DB,
   0x01D6FB_01D6FB, 0x01D715_01D715, 0x01D735_01D735, 0x01D74F_01D74F, 0x01D76F_01D76F,
   0x01D789_01D789, 0x01D7A9_01D7A9, 0x01D7C3_01D7C3]

def ideographicPoints : CodePoints := .ofNumerals
  [0x003006_003007, 0x003021_003029, 0x003038_00303A, 0x003400_004DBF, 0x004E00_009FFF,
   0x00F900_00FA6D, 0x00FA70_00FAD9, 0x016FE4_016FE4, 0x017000_0187F7, 0x018800_018CD5,
   0x018CFF_018D08, 0x01B170_01B2FB, 0x020000_02A6DF, 0x02A700_02B739, 0x02B740_02B81D,
   0x02B820_02CEA1, 0x02CEB0_02EBE0, 0x02EBF0_02EE5D, 0x02F800_02FA1D, 0x030000_03134A,
   0x031350_0323AF]

def joinControlPoints : CodePoints := .ofNumerals [0x00200C_00200D]

def logicalOrderExceptionPoints : CodePoints := .ofNumerals
  [0x000E40_000E44, 0x000EC0_000EC4, 0x0019B5_0019B7, 0x0019BA_0019BA, 0x00AAB5_00AAB6,
   0x00AAB9_00AAB9, 0x00AABB_00AABC]

def modifierCombiningMarkPoints : CodePoints := .ofNumerals
  [0x000654_000655, 0x000658_000658, 0x0006DC_0006DC, 0x0006E3_0006E3, 0x0006E7_0006E8,
   0x0008CA_0008CB, 0x0008CD_0008CF, 0x0008D3_0008D3, 0x0008F3_0008F3]

def noncharacterPoints : CodePoints := .ofNumerals
  [0x00FDD0_00FDEF, 0x00FFFE_00FFFF, 0x01FFFE_01FFFF, 0x02FFFE_02FFFF, 0x03FFFE_03FFFF,
   0x04FFFE_04FFFF, 0x05FFFE_05FFFF, 0x06FFFE_06FFFF, 0x07FFFE_07FFFF, 0x08FFFE_08FFFF,
   0x09FFFE_09FFFF, 0x0AFFFE_0AFFFF, 0x0BFFFE_0BFFFF, 0x0CFFFE_0CFFFF, 0x0DFFFE_0DFFFF,
   0x0EFFFE_0EFFFF, 0x0FFFFE_0FFFFF, 0x10FFFE_10FFFF]

def otherAlphabeticPoints : CodePoints := .ofNumerals
  [0x000345_000345, 0x000363_00036F, 0x0005B0_0005BD, 0x0005BF_0005BF, 0x0005C1_0005C2,
   0x0005C4_0005C5, 0x0005C7_0005C7, 0x000610_00061A, 0x00064B_000657, 0x000659_00065F,
   0x000670_000670, 0x0006D6_0006DC, 0x0006E1_0006E4, 0x0006E7_0006E8, 0x0006ED_0006ED,
   0x000711_000711, 0x000730_00073F, 0x0007A6_0007B0, 0x000816_000817, 0x00081B_000823,
   0x000825_000827, 0x000829_00082C, 0x000897_000897, 0x0008D4_0008DF, 0x0008E3_0008E9,
   0x0008F0_000903, 0x00093A_00093B, 0x00093E_00094C, 0x00094E_00094F, 0x000955_000957,
   0x000962_000963, 0x000981_000983, 0x0009BE_0009C4, 0x0009C7_0009C8, 0x0009CB_0009CC,
   0x0009D7_0009D7, 0x0009E2_0009E3, 0x000A01_000A03, 0x000A3E_000A42, 0x000A47_000A48,
   0x000A4B_000A4C, 0x000A51_000A51, 0x000A70_000A71, 0x000A75_000A75, 0x000A81_000A83,
   0x000ABE_000AC5, 0x000AC7_000AC9, 0x000ACB_000ACC, 0x000AE2_000AE3, 0x000AFA_000AFC,
   0x000B01_000B03, 0x000B3E_000B44, 0x000B47_000B48, 0x000B4B_000B4C, 0x000B56_000B57,
   0x000B62_000B63, 0x000B82_000B82, 0x000BBE_000BC2, 0x000BC6_000BC8, 0x000BCA_000BCC,
   0x000BD7_000BD7, 0x000C00_000C04, 0x000C3E_000C44, 0x000C46_000C48, 0x000C4A_000C4C,
   0x000C55_000C56, 0x000C62_000C63, 0x000C81_000C83, 0x000CBE_000CC4, 0x000CC6_000CC8,
   0x000CCA_000CCC, 0x000CD5_000CD6, 0x000CE2_000CE3, 0x000CF3_000CF3, 0x000D00_000D03,
   0x000D3E_000D44, 0x000D46_000D48, 0x000D4A_000D4C, 0x000D57_000D57, 0x000D62_000D63,
   0x000D81_000D83, 0x000DCF_000DD4, 0x000DD6_000DD6, 0x000DD8_000DDF, 0x000DF2_000DF3,
   0x000E31_000E31, 0x000E34_000E3A, 0x000E4D_000E4D, 0x000EB1_000EB1, 0x000EB4_000EB9,
   0x000EBB_000EBC, 0x000ECD_000ECD, 0x000F71_000F83, 0x000F8D_000F97, 0x000F99_000FBC,
   0x00102B_001036, 0x001038_001038, 0x00103B_00103E, 0x001056_001059, 0x00105E_001060,
   0x001062_001064, 0x001067_00106D, 0x001071_001074, 0x001082_00108D, 0x00108F_00108F,
   0x00109A_00109D, 0x001712_001713, 0x001732_001733, 0x001752_001753, 0x001772_001773,
   0x0017B6_0017C8, 0x001885_001886, 0x0018A9_0018A9, 0x001920_00192B, 0x001930_001938,
   0x001A17_001A1B, 0x001A55_001A5E, 0x001A61_001A74, 0x001ABF_001AC0, 0x001ACC_001ACE,
   0x001B00_001B04, 0x001B35_001B43, 0x001B80_001B82, 0x001BA1_001BA9, 0x001BAC_001BAD,
   0x001BE7_001BF1, 0x001C24_001C36, 0x001DD3_001DF4, 0x0024B6_0024E9, 0x002DE0_002DFF,
   0x00A674_00A67B, 0x00A69E_00A69F, 0x00A802_00A802, 0x00A80B_00A80B, 0x00A823_00A827,
   0x00A880_00A881, 0x00A8B4_00A8C3, 0x00A8C5_00A8C5, 0x00A8FF_00A8FF, 0x00A926_00A92A,
   0x00A947_00A952, 0x00A980_00A983, 0x00A9B4_00A9BF, 0x00A9E5_00A9E5, 0x00AA29_00AA36,
   0x00AA43_00AA43, 0x00AA4C_00AA4D, 0x00AA7B_00AA7D, 0x00AAB0_00AAB0, 0x00AAB2_00AAB4,
   0x00AAB7_00AAB8, 0x00AABE_00AABE, 0x00AAEB_00AAEF, 0x00AAF5_00AAF5, 0x00ABE3_00ABEA,
   0x00FB1E_00FB1E, 0x010376_01037A, 0x010A01_010A03, 0x010A05_010A06, 0x010A0C_010A0F,
   0x010D24_010D27, 0x010D69_010D69, 0x010EAB_010EAC, 0x010EFC_010EFC, 0x011000_011002,
   0x011038_011045, 0x011073_011074, 0x011080_011082, 0x0110B0_0110B8, 0x0110C2_0110C2,
   0x011100_011102, 0x011127_011132, 0x011145_011146, 0x011180_011182, 0x0111B3_0111BF,
   0x0111CE_0111CF, 0x01122C_011234, 0x011237_011237, 0x01123E_01123E, 0x011241_011241,
   0x0112DF_0112E8, 0x011300_011303, 0x01133E_011344, 0x011347_011348, 0x01134B_01134C,
   0x011357_011357, 0x011362_011363, 0x0113B8_0113C0, 0x0113C2_0113C2, 0x0113C5_0113C5,
   0x0113C7_0113CA, 0x0113CC_0113CD, 0x011435_011441, 0x011443_011445, 0x0114B0_0114C1,
   0x0115AF_0115B5, 0x0115B8_0115BE, 0x0115DC_0115DD, 0x011630_01163E, 0x011640_011640,
   0x0116AB_0116B5, 0x01171D_01172A, 0x01182C_011838, 0x011930_011935, 0x011937_011938,
   0x01193B_01193C, 0x011940_011940, 0x011942_011942, 0x0119D1_0119D7, 0x0119DA_0119DF,
   0x0119E4_0119E4, 0x011A01_011A0A, 0x011A35_011A39, 0x011A3B_011A3E, 0x011A51_011A5B,
   0x011A8A_011A97, 0x011C2F_011C36, 0x011C38_011C3E, 0x011C92_011CA7, 0x011CA9_011CB6,
   0x011D31_011D36, 0x011D3A_011D3A, 0x011D3C_011D3D, 0x011D3F_011D41, 0x011D43_011D43,
   0x011D47_011D47, 0x011D8A_011D8E, 0x011D90_011D91, 0x011D93_011D96, 0x011EF3_011EF6,
   0x011F00_011F01, 0x011F03_011F03, 0x011F34_011F3A, 0x011F3E_011F40, 0x01611E_01612E,
   0x016F4F_016F4F, 0x016F51_016F87, 0x016F8F_016F92, 0x016FF0_016FF1, 0x01BC9E_01BC9E,
   0x01E000_01E006, 0x01E008_01E018, 0x01E01B_01E021, 0x01E023_01E024, 0x01E026_01E02A,
   0x01E08F_01E08F, 0x01E947_01E947, 0x01F130_01F149, 0x01F150_01F169, 0x01F170_01F189]

def otherDefaultIgnorablePoints : CodePoints := .ofNumerals
  [0x00034F_00034F, 0x00115F_001160, 0x0017B4_0017B5, 0x002065_002065, 0x003164_003164,
   0x00FFA0_00FFA0, 0x00FFF0_00FFF8, 0x0E0000_0E0000, 0x0E0002_0E001F, 0x0E0080_0E00FF,
   0x0E01F0_0E0FFF]

def otherGraphemeExtendPoints : CodePoints := .ofNumerals
  [0x0009BE_0009BE, 0x0009D7_0009D7, 0x000B3E_000B3E, 0x000B57_000B57, 0x000BBE_000BBE,
   0x000BD7_000BD7, 0x000CC0_000CC0, 0x000CC2_000CC2, 0x000CC7_000CC8, 0x000CCA_000CCB,
   0x000CD5_000CD6, 0x000D3E_000D3E, 0x000D57_000D57, 0x000DCF_000DCF, 0x000DDF_000DDF,
   0x001715_001715, 0x001734_001734, 0x001B35_001B35, 0x001B3B_001B3B, 0x001B3D_001B3D,
   0x001B43_001B44, 0x001BAA_001BAA, 0x001BF2_001BF3, 0x00200C_00200C, 0x00302E_00302F,
   0x00A953_00A953, 0x00A9C0_00A9C0, 0x00FF9E_00FF9F, 0x0111C0_0111C0, 0x011235_011235,
   0x01133E_01133E, 0x01134D_01134D, 0x011357_011357, 0x0113B8_0113B8, 0x0113C2_0113C2,
   0x0113C5_0113C5, 0x0113C7_0113C9, 0x0113CF_0113CF, 0x0114B0_0114B0, 0x0114BD_0114BD,
   0x0115AF_0115AF, 0x0116B6_0116B6, 0x011930_011930, 0x01193D_01193D, 0x011F41_011F41,
   0x016FF0_016FF1, 0x01D165_01D166, 0x01D16D_01D172, 0x0E0020_0E007F]

def otherIdContinuePoints : CodePoints := .ofNumerals
  [0x0000B7_0000B7, 0x000387_000387, 0x001369_001371, 0x0019DA_0019DA, 0x00200C_00200D,
   0x0030FB_0030FB, 0x00FF65_00FF65]

def otherIdStartPoints : CodePoints := .ofNumerals
  [0x001885_001886, 0x002118_002118, 0x00212E_00212E, 0x00309B_00309C]

def otherLowercasePoints : CodePoints := .ofNumerals
  [0x0000AA_0000AA, 0x0000BA_0000BA, 0x0002B0_0002B8, 0x0002C0_0002C1, 0x0002E0_0002E4,
   0x000345_000345, 0x00037A_00037A, 0x0010FC_0010FC, 0x001D2C_001D6A, 0x001D78_001D78,
   0x001D9B_001DBF, 0x002071_002071, 0x00207F_00207F, 0x002090_00209C, 0x002170_00217F,
   0x0024D0_0024E9, 0x002C7C_002C7D, 0x00A69C_00A69D, 0x00A770_00A770, 0x00A7F2_00A7F4,
   0x00A7F8_00A7F9, 0x00AB5C_00AB5F, 0x00AB69_00AB69, 0x010780_010780, 0x010783_010785,
   0x010787_0107B0, 0x0107B2_0107BA, 0x01E030_01E06D]

def otherMathPoints : CodePoints := .ofNumerals
  [0x00005E_00005E, 0x0003D0_0003D2, 0x0003D5_0003D5, 0x0003F0_0003F1, 0x0003F4_0003F5,
   0x002016_002016, 0x002032_002034, 0x002040_002040, 0x002061_002064, 0x00207D_00207E,
   0x00208D_00208E, 0x0020D0_0020DC, 0x0020E1_0020E1, 0x0020E5_0020E6, 0x0020EB_0020EF,
   0x002102_002102, 0x002107_002107, 0x00210A_002113, 0x002115_002115, 0x002119_00211D,
   0x002124_002124, 0x002128_002129, 0x00212C_00212D, 0x00212F_002131, 0x002133_002138,
   0x00213C_00213F, 0x002145_002149, 0x002195_002199, 0x00219C_00219F, 0x0021A1_0021A2,
   0x0021A4_0021A5, 0x0021A7_0021A7, 0x0021A9_0021AD, 0x0021B0_0021B1, 0x0021B6_0021B7,
   0x0021BC_0021CD, 0x0021D0_0021D1, 0x0021D3_0021D3, 0x0021D5_0021DB, 0x0021DD_0021DD,
   0x0021E4_0021E5, 0x002308_00230B, 0x0023B4_0023B5, 0x0023B7_0023B7, 0x0023D0_0023D0,
   0x0023E2_0023E2, 0x0025A0_0025A1, 0x0025AE_0025B6, 0x0025BC_0025C0, 0x0025C6_0025C7,
   0x0025CA_0025CB, 0x0025CF_0025D3, 0x0025E2_0025E2, 0x0025E4_0025E4, 0x0025E7_0025EC,
   0x002605_002606, 0x002640_002640, 0x002642_002642, 0x002660_002663, 0x00266D_00266E,
   0x0027C5_0027C6, 0x0027E6_0027EF, 0x002983_002998, 0x0029D8_0029DB, 0x0029FC_0029FD,
   0x00FE61_00FE61, 0x00FE63_00FE63, 0x00FE68_00FE68, 0x00FF3C_00FF3C, 0x00FF3E_00FF3E,
   0x01D400_01D454, 0x01D456_01D49C, 0x01D49E_01D49F, 0x01D4A2_01D4A2, 0x01D4A5_01D4A6,
   0x01D4A9_01D4AC, 0x01D4AE_01D4B9, 0x01D4BB_01D4BB, 0x01D4BD_01D4C3, 0x01D4C5_01D505,
   0x01D507_01D50A, 0x01D50D_01D514, 0x01D516_01D51C, 0x01D51E_01D539, 0x01D53B_01D53E,
   0x01D540_01D544, 0x01D546_01D546, 0x01D54A_01D550, 0x01D552_01D6A5, 0x01D6A8_01D6C0,
   0x01D6C2_01D6DA, 0x01D6DC_01D6FA, 0x01D6FC_01D714, 0x01D716_01D734, 0x01D736_01D74E,
   0x01D750_01D76E, 0x01D770_01D788, 0x01D78A_01D7A8, 0x01D7AA_01D7C2, 0x01D7C4_01D7CB,
   0x01D7CE_01D7FF, 0x01EE00_01EE03, 0x01EE05_01EE1F, 0x01EE21_01EE22, 0x01EE24_01EE24,
   0x01EE27_01EE27, 0x01EE29_01EE32, 0x01EE34_01EE37, 0x01EE39_01EE39, 0x01EE3B_01EE3B,
   0x01EE42_01EE42, 0x01EE47_01EE47, 0x01EE49_01EE49, 0x01EE4B_01EE4B, 0x01EE4D_01EE4F,
   0x01EE51_01EE52, 0x01EE54_01EE54, 0x01EE57_01EE57, 0x01EE59_01EE59, 0x01EE5B_01EE5B,
   0x01EE5D_01EE5D, 0x01EE5F_01EE5F, 0x01EE61_01EE62, 0x01EE64_01EE64, 0x01EE67_01EE6A,
   0x01EE6C_01EE72, 0x01EE74_01EE77, 0x01EE79_01EE7C, 0x01EE7E_01EE7E, 0x01EE80_01EE89,
   0x01EE8B_01EE9B, 0x01EEA1_01EEA3, 0x01EEA5_01EEA9, 0x01EEAB_01EEBB]

def otherUppercasePoints : CodePoints := .ofNumerals
  [0x002160_00216F, 0x0024B6_0024CF, 0x01F130_01F149, 0x01F150_01F169, 0x01F170_01F189]

def patternSyntaxPoints : CodePoints := .ofNumerals
  [0x000021_00002F, 0x00003A_000040, 0x00005B_00005E, 0x000060_000060, 0x00007B_00007E,
   0x0000A1_0000A7, 0x0000A9_0000A9, 0x0000AB_0000AC, 0x0000AE_0000AE, 0x0000B0_0000B1,
   0x0000B6_0000B6, 0x0000BB_0000BB, 0x0000BF_0000BF, 0x0000D7_0000D7, 0x0000F7_0000F7,
   0x002010_002027, 0x002030_00203E, 0x002041_002053, 0x002055_00205E, 0x002190_00245F,
   0x002500_002775, 0x002794_002BFF, 0x002E00_002E7F, 0x003001_003003, 0x003008_003020,
   0x003030_003030, 0x00FD3E_00FD3F, 0x00FE45_00FE46]

def patternWhiteSpacePoints : CodePoints := .ofNumerals
  [0x000009_00000D, 0x000020_000020, 0x000085_000085, 0x00200E_00200F, 0x002028_002029]

def prependedConcatenationMarkPoints : CodePoints := .ofNumerals
  [0x000600_000605, 0x0006DD_0006DD, 0x00070F_00070F, 0x000890_000891, 0x0008E2_0008E2,
   0x0110BD_0110BD, 0x0110CD_0110CD]

def quotationMarkPoints : CodePoints := .ofNumerals
  [0x000022_000022, 0x000027_000027, 0x0000AB_0000AB, 0x0000BB_0000BB, 0x002018_00201F,
   0x002039_00203A, 0x002E42_002E42, 0x00300C_00300F, 0x00301D_00301F, 0x00FE41_00FE44,
   0x00FF02_00FF02, 0x00FF07_00FF07, 0x00FF62_00FF63]

def radicalPoints : CodePoints := .ofNumerals [0x002E80_002E99, 0x002E9B_002EF3, 0x002F00_002FD5]

def regionalIndicatorPoints : CodePoints := .ofNumerals [0x01F1E6_01F1FF]

def sentenceTerminalPoints : CodePoints := .ofNumerals
  [0x000021_000021, 0x00002E_00002E, 0x00003F_00003F, 0x000589_000589, 0x00061D_00061F,
   0x0006D4_0006D4, 0x000700_000702, 0x0007F9_0007F9, 0x000837_000837, 0x000839_000839,
   0x00083D_00083E, 0x000964_000965, 0x00104A_00104B, 0x001362_001362, 0x001367_001368,
   0x00166E_00166E, 0x001735_001736, 0x0017D4_0017D5, 0x001803_001803, 0x001809_001809,
   0x001944_001945, 0x001AA8_001AAB, 0x001B4E_001B4F, 0x001B5A_001B5B, 0x001B5E_001B5F,
   0x001B7D_001B7F, 0x001C3B_001C3C, 0x001C7E_001C7F, 0x002024_002024, 0x00203C_00203D,
   0x002047_002049, 0x002CF9_002CFB, 0x002E2E_002E2E, 0x002E3C_002E3C, 0x002E53_002E54,
   0x003002_003002, 0x00A4FF_00A4FF, 0x00A60E_00A60F, 0x00A6F3_00A6F3, 0x00A6F7_00A6F7,
   0x00A876_00A877, 0x00A8CE_00A8CF, 0x00A92F_00A92F, 0x00A9C8_00A9C9, 0x00AA5D_00AA5F,
   0x00AAF0_00AAF1, 0x00ABEB_00ABEB, 0x00FE12_00FE12, 0x00FE15_00FE16, 0x00FE52_00FE52,
   0x00FE56_00FE57, 0x00FF01_00FF01, 0x00FF0E_00FF0E, 0x00FF1F_00FF1F, 0x00FF61_00FF61,
   0x010A56_010A57, 0x010F55_010F59, 0x010F86_010F89, 0x011047_011048, 0x0110BE_0110C1,
   0x011141_011143, 0x0111C5_0111C6, 0x0111CD_0111CD, 0x0111DE_0111DF, 0x011238_011239,
   0x01123B_01123C, 0x0112A9_0112A9, 0x0113D4_0113D5, 0x01144B_01144C, 0x0115C2_0115C3,
   0x0115C9_0115D7, 0x011641_011642, 0x01173C_01173E, 0x011944_011944, 0x011946_011946,
   0x011A42_011A43, 0x011A9B_011A9C, 0x011C41_011C42, 0x011EF7_011EF8, 0x011F43_011F44,
   0x016A6E_016A6F, 0x016AF5_016AF5, 0x016B37_016B38, 0x016B44_016B44, 0x016D6E_016D6F,
   0x016E98_016E98, 0x01BC9F_01BC9F, 0x01DA88_01DA88]

def softDottedPoints : CodePoints := .ofNumerals
  [0x000069_00006A, 0x00012F_00012F, 0x000249_000249, 0x000268_000268, 0x00029D_00029D,
   0x0002B2_0002B2, 0x0003F3_0003F3, 0x000456_000456, 0x000458_000458, 0x001D62_001D62,
   0x001D96_001D96, 0x001DA4_001DA4, 0x001DA8_001DA8, 0x001E2D_001E2D, 0x001ECB_001ECB,
   0x002071_002071, 0x002148_002149, 0x002C7C_002C7C, 0x01D422_01D423, 0x01D456_01D457,
   0x01D48A_01D48B, 0x01D4BE_01D4BF, 0x01D4F2_01D4F3, 0x01D526_01D527, 0x01D55A_01D55B,
   0x01D58E_01D58F, 0x01D5C2_01D5C3, 0x01D5F6_01D5F7, 0x01D62A_01D62B, 0x01D65E_01D65F,
   0x01D692_01D693, 0x01DF1A_01DF1A, 0x01E04C_01E04D, 0x01E068_01E068]

def terminalPunctuationPoints : CodePoints := .ofNumerals
  [0x000021_000021, 0x00002C_00002C, 0x00002E_00002E, 0x00003A_00003B, 0x00003F_00003F,
   0x00037E_00037E, 0x000387_000387, 0x000589_000589, 0x0005C3_0005C3, 0x00060C_00060C,
   0x00061B_00061B, 0x00061D_00061F, 0x0006D4_0006D4, 0x000700_00070A, 0x00070C_00070C,
   0x0007F8_0007F9, 0x000830_000835, 0x000837_00083E, 0x00085E_00085E, 0x000964_000965,
   0x000E5A_000E5B, 0x000F08_000F08, 0x000F0D_000F12, 0x00104A_00104B, 0x001361_001368,
   0x00166E_00166E, 0x0016EB_0016ED, 0x001735_001736, 0x0017D4_0017D6, 0x0017DA_0017DA,
   0x001802_001805, 0x001808_001809, 0x001944_001945, 0x001AA8_001AAB, 0x001B4E_001B4F,
   0x001B5A_001B5B, 0x001B5D_001B5F, 0x001B7D_001B7F, 0x001C3B_001C3F, 0x001C7E_001C7F,
   0x002024_002024, 0x00203C_00203D, 0x002047_002049, 0x002CF9_002CFB, 0x002E2E_002E2E,
   0x002E3C_002E3C, 0x002E41_002E41, 0x002E4C_002E4C, 0x002E4E_002E4F, 0x002E53_002E54,
   0x003001_003002, 0x00A4FE_00A4FF, 0x00A60D_00A60F, 0x00A6F3_00A6F7, 0x00A876_00A877,
   0x00A8CE_00A8CF, 0x00A92F_00A92F, 0x00A9C7_00A9C9, 0x00AA5D_00AA5F, 0x00AADF_00AADF,
   0x00AAF0_00AAF1, 0x00ABEB_00ABEB, 0x00FE12_00FE12, 0x00FE15_00FE16, 0x00FE50_00FE52,
   0x00FE54_00FE57, 0x00FF01_00FF01, 0x00FF0C_00FF0C, 0x00FF0E_00FF0E, 0x00FF1A_00FF1B,
   0x00FF1F_00FF1F, 0x00FF61_00FF61, 0x00FF64_00FF64, 0x01039F_01039F, 0x0103D0_0103D0,
   0x010857_010857, 0x01091F_01091F, 0x010A56_010A57, 0x010AF0_010AF5, 0x010B3A_010B3F,
   0x010B99_010B9C, 0x010F55_010F59, 0x010F86_010F89, 0x011047_01104D, 0x0110BE_0110C1,
   0x011141_011143, 0x0111C5_0111C6, 0x0111CD_0111CD, 0x0111DE_0111DF, 0x011238_01123C,
   0x0112A9_0112A9, 0x0113D4_0113D5, 0x01144B_01144D, 0x01145A_01145B, 0x0115C2_0115C5,
   0x0115C9_0115D7, 0x011641_011642, 0x01173C_01173E, 0x011944_011944, 0x011946_011946,
   0x011A42_011A43, 0x011A9B_011A9C, 0x011AA1_011AA2, 0x011C41_011C43, 0x011C71_011C71,
   0x011EF7_011EF8, 0x011F43_011F44, 0x012470_012474, 0x016A6E_016A6F, 0x016AF5_016AF5,
   0x016B37_016B39, 0x016B44_016B44, 0x016D6E_016D6F, 0x016E97_016E98, 0x01BC9F_01BC9F,
   0x01DA87_01DA8A]

def unifiedIdeographPoints : CodePoints := .ofNumerals
  [0x003400_004DBF, 0x004E00_009FFF, 0x00FA0E_00FA0F, 0x00FA11_00FA11, 0x00FA13_00FA14,
   0x00FA1F_00FA1F, 0x00FA21_00FA21, 0x00FA23_00FA24, 0x00FA27_00FA29, 0x020000_02A6DF,
   0x02A700_02B739, 0x02B740_02B81D, 0x02B820_02CEA1, 0x02CEB0_02EBE0, 0x02EBF0_02EE5D,
   0x030000_03134A, 0x031350_0323AF]

def variationSelectorPoints : CodePoints := .ofNumerals
  [0x00180B_00180D, 0x00180F_00180F, 0x00FE00_00FE0F, 0x0E0100_0E01EF]

def whiteSpacePoints : CodePoints := .ofNumerals
  [0x000009_00000D, 0x000020_000020, 0x000085_000085, 0x0000A0_0000A0, 0x001680_001680,
   0x002000_00200A, 0x002028_002029, 0x00202F_00202F, 0x00205F_00205F, 0x003000_003000]

def listedProperties : List NamedSet :=
  [⟨["asciihexdigit", "ahex"], asciiHexDigitPoints⟩,
   ⟨["bidicontrol", "bidic"], bidiControlPoints⟩,
   ⟨["bidimirrored", "bidim"], bidiMirroredPoints⟩,
   ⟨["dash"], dashPoints⟩,
   ⟨["deprecated", "dep"], deprecatedPoints⟩,
   ⟨["diacritic", "dia"], diacriticPoints⟩,
   ⟨["emoji"], emojiPoints⟩,
   ⟨["emojicomponent", "ecomp"], emojiComponentPoints⟩,
   ⟨["emojimodifier", "emod"], emojiModifierPoints⟩,
   ⟨["emojimodifierbase", "ebase"], emojiModifierBasePoints⟩,
   ⟨["emojipresentation", "epres"], emojiPresentationPoints⟩,
   ⟨["extendedpictographic", "extpict"], extendedPictographicPoints⟩,
   ⟨["extender", "ext"], extenderPoints⟩,
   ⟨["graphemelink", "grlink"], graphemeLinkPoints⟩,
   ⟨["hexdigit", "hex"], hexDigitPoints⟩,
   ⟨["hyphen"], hyphenPoints⟩,
   ⟨["idsbinaryoperator", "idsb"], idsBinaryOperatorPoints⟩,
   ⟨["idstrinaryoperator", "idst"], idsTrinaryOperatorPoints⟩,
   ⟨["idsunaryoperator", "idsu"], idsUnaryOperatorPoints⟩,
   ⟨["idcompatmathcontinue"], idCompatMathContinuePoints⟩,
   ⟨["idcompatmathstart"], idCompatMathStartPoints⟩,
   ⟨["ideographic", "ideo"], ideographicPoints⟩,
   ⟨["joincontrol", "joinc"], joinControlPoints⟩,
   ⟨["logicalorderexception", "loe"], logicalOrderExceptionPoints⟩,
   ⟨["modifiercombiningmark", "mcm"], modifierCombiningMarkPoints⟩,
   ⟨["noncharactercodepoint", "nchar"], noncharacterPoints⟩,
   ⟨["otheralphabetic", "oalpha"], otherAlphabeticPoints⟩,
   ⟨["otherdefaultignorablecodepoint", "odi"], otherDefaultIgnorablePoints⟩,
   ⟨["othergraphemeextend", "ogrext"], otherGraphemeExtendPoints⟩,
   ⟨["otheridcontinue", "oidc"], otherIdContinuePoints⟩,
   ⟨["otheridstart", "oids"], otherIdStartPoints⟩,
   ⟨["otherlowercase", "olower"], otherLowercasePoints⟩,
   ⟨["othermath", "omath"], otherMathPoints⟩,
   ⟨["otheruppercase", "oupper"], otherUppercasePoints⟩,
   ⟨["patternsyntax", "patsyn"], patternSyntaxPoints⟩,
   ⟨["patternwhitespace", "patws"], patternWhiteSpacePoints⟩,
   ⟨["prependedconcatenationmark", "pcm"], prependedConcatenationMarkPoints⟩,
   ⟨["quotationmark", "qmark"], quotationMarkPoints⟩,
   ⟨["radical"], radicalPoints⟩,
   ⟨["regionalindicator", "ri"], regionalIndicatorPoints⟩,
   ⟨["sentenceterminal", "sterm"], sentenceTerminalPoints⟩,
   ⟨["softdotted", "sd"], softDottedPoints⟩,
   ⟨["terminalpunctuation", "term"], terminalPunctuationPoints⟩,
   ⟨["unifiedideograph", "uideo"], unifiedIdeographPoints⟩,
   ⟨["variationselector", "vs"], variationSelectorPoints⟩,
   ⟨["whitespace", "wspace", "space"], whiteSpacePoints⟩]

end RouteTable.Text
