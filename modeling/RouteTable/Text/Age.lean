import RouteTable.Text.CodePoints

/-!
The versions of Unicode, and the characters that each of them added.
-/

namespace RouteTable.Text

/-- The characters that a version of Unicode added. -/
structure Version where
  major : Nat
  minor : Nat
  added : CodePoints

def added1v1 : CodePoints := .ofNumerals
  [0x000000_0001F5, 0x0001FA_000217, 0x000250_0002A8, 0x0002B0_0002DE, 0x0002E0_0002E9,
   0x000300_000345, 0x000360_000361, 0x000374_000375, 0x00037A_00037A, 0x00037E_00037E,
   0x000384_00038A, 0x00038C_00038C, 0x00038E_0003A1, 0x0003A3_0003CE, 0x0003D0_0003D6,
   0x0003DA_0003DA, 0x0003DC_0003DC, 0x0003DE_0003DE, 0x0003E0_0003E0, 0x0003E2_0003F3,
   0x000401_00040C, 0x00040E_00044F, 0x000451_00045C, 0x00045E_000486, 0x000490_0004C4,
   0x0004C7_0004C8, 0x0004CB_0004CC, 0x0004D0_0004EB, 0x0004EE_0004F5, 0x0004F8_0004F9,
   0x000531_000556, 0x000559_00055F, 0x000561_000587, 0x000589_000589, 0x0005B0_0005B9,
   0x0005BB_0005C3, 0x0005D0_0005EA, 0x0005F0_0005F4, 0x00060C_00060C, 0x00061B_00061B,
   0x00061F_00061F, 0x000621_00063A, 0x000640_000652, 0x000660_00066D, 0x000670_0006B7,
   0x0006BA_0006BE, 0x0006C0_0006CE, 0x0006D0_0006ED, 0x0006F0_0006F9, 0x000901_000903,
   0x000905_000939, 0x00093C_00094D, 0x000950_000954, 0x000958_000970, 0x000981_000983,
   0x000985_00098C, 0x00098F_000990, 0x000993_0009A8, 0x0009AA_0009B0, 0x0009B2_0009B2,
   0x0009B6_0009B9, 0x0009BC_0009BC, 0x0009BE_0009C4, 0x0009C7_0009C8, 0x0009CB_0009CD,
   0x0009D7_0009D7, 0x0009DC_0009DD, 0x0009DF_0009E3, 0x0009E6_0009FA, 0x000A02_000A02,
   0x000A05_000A0A, 0x000A0F_000A10, 0x000A13_000A28, 0x000A2A_000A30, 0x000A32_000A33,
   0x000A35_000A36, 0x000A38_000A39, 0x000A3C_000A3C, 0x000A3E_000A42, 0x000A47_000A48,
   0x000A4B_000A4D, 0x000A59_000A5C, 0x000A5E_000A5E, 0x000A66_000A74, 0x000A81_000A83,
   0x000A85_000A8B, 0x000A8D_000A8D, 0x000A8F_000A91, 0x000A93_000AA8, 0x000AAA_000AB0,
   0x000AB2_000AB3, 0x000AB5_000AB9, 0x000ABC_000AC5, 0x000AC7_000AC9, 0x000ACB_000ACD,
   0x000AD0_000AD0, 0x000AE0_000AE0, 0x000AE6_000AEF, 0x000B01_000B03, 0x000B05_000B0C,
   0x000B0F_000B10, 0x000B13_000B28, 0x000B2A_000B30, 0x000B32_000B33, 0x000B36_000B39,
   0x000B3C_000B43, 0x000B47_000B48, 0x000B4B_000B4D, 0x000B56_000B57, 0x000B5C_000B5D,
   0x000B5F_000B61, 0x000B66_000B70, 0x000B82_000B83, 0x000B85_000B8A, 0x000B8E_000B90,
   0x000B92_000B95, 0x000B99_000B9A, 0x000B9C_000B9C, 0x000B9E_000B9F, 0x000BA3_000BA4,
   0x000BA8_000BAA, 0x000BAE_000BB5, 0x000BB7_000BB9, 0x000BBE_000BC2, 0x000BC6_000BC8,
   0x000BCA_000BCD, 0x000BD7_000BD7, 0x000BE7_000BF2, 0x000C01_000C03, 0x000C05_000C0C,
   0x000C0E_000C10, 0x000C12_000C28, 0x000C2A_000C33, 0x000C35_000C39, 0x000C3E_000C44,
   0x000C46_000C48, 0x000C4A_000C4D, 0x000C55_000C56, 0x000C60_000C61, 0x000C66_000C6F,
   0x000C82_000C83, 0x000C85_000C8C, 0x000C8E_000C90, 0x000C92_000CA8, 0x000CAA_000CB3,
   0x000CB5_000CB9, 0x000CBE_000CC4, 0x000CC6_000CC8, 0x000CCA_000CCD, 0x000CD5_000CD6,
   0x000CDE_000CDE, 0x000CE0_000CE1, 0x000CE6_000CEF, 0x000D02_000D03, 0x000D05_000D0C,
   0x000D0E_000D10, 0x000D12_000D28, 0x000D2A_000D39, 0x000D3E_000D43, 0x000D46_000D48,
   0x000D4A_000D4D, 0x000D57_000D57, 0x000D60_000D61, 0x000D66_000D6F, 0x000E01_000E3A,
   0x000E3F_000E5B, 0x000E81_000E82, 0x000E84_000E84, 0x000E87_000E88, 0x000E8A_000E8A,
   0x000E8D_000E8D, 0x000E94_000E97, 0x000E99_000E9F, 0x000EA1_000EA3, 0x000EA5_000EA5,
   0x000EA7_000EA7, 0x000EAA_000EAB, 0x000EAD_000EB9, 0x000EBB_000EBD, 0x000EC0_000EC4,
   0x000EC6_000EC6, 0x000EC8_000ECD, 0x000ED0_000ED9, 0x000EDC_000EDD, 0x0010A0_0010C5,
   0x0010D0_0010F6, 0x0010FB_0010FB, 0x001100_001159, 0x00115F_0011A2, 0x0011A8_0011F9,
   0x001E00_001E9A, 0x001EA0_001EF9, 0x001F00_001F15, 0x001F18_001F1D, 0x001F20_001F45,
   0x001F48_001F4D, 0x001F50_001F57, 0x001F59_001F59, 0x001F5B_001F5B, 0x001F5D_001F5D,
   0x001F5F_001F7D, 0x001F80_001FB4, 0x001FB6_001FC4, 0x001FC6_001FD3, 0x001FD6_001FDB,
   0x001FDD_001FEF, 0x001FF2_001FF4, 0x001FF6_001FFE, 0x002000_00202E, 0x002030_002046,
   0x00206A_002070, 0x002074_00208E, 0x0020A0_0020AA, 0x0020D0_0020E1, 0x002100_002138,
   0x002153_002182, 0x002190_0021EA, 0x002200_0022F1, 0x002300_002300, 0x002302_00237A,
   0x002400_002424, 0x002440_00244A, 0x002460_0024EA, 0x002500_002595, 0x0025A0_0025EF,
   0x002600_002613, 0x00261A_00266F, 0x002701_002704, 0x002706_002709, 0x00270C_002727,
   0x002729_00274B, 0x00274D_00274D, 0x00274F_002752, 0x002756_002756, 0x002758_00275E,
   0x002761_002767, 0x002776_002794, 0x002798_0027AF, 0x0027B1_0027BE, 0x003000_003037,
   0x00303F_00303F, 0x003041_003094, 0x003099_00309E, 0x0030A1_0030FE, 0x003105_00312C,
   0x003131_00318E, 0x003190_00319F, 0x003200_00321C, 0x003220_003243, 0x003260_00327B,
   0x00327F_0032B0, 0x0032C0_0032CB, 0x0032D0_0032FE, 0x003300_003376, 0x00337B_0033DD,
   0x0033E0_0033FE, 0x004E00_009FA5, 0x00E000_00FA2D, 0x00FB00_00FB06, 0x00FB13_00FB17,
   0x00FB1E_00FB36, 0x00FB38_00FB3C, 0x00FB3E_00FB3E, 0x00FB40_00FB41, 0x00FB43_00FB44,
   0x00FB46_00FBB1, 0x00FBD3_00FD3F, 0x00FD50_00FD8F, 0x00FD92_00FDC7, 0x00FDF0_00FDFB,
   0x00FE20_00FE23, 0x00FE30_00FE44, 0x00FE49_00FE52, 0x00FE54_00FE66, 0x00FE68_00FE6B,
   0x00FE70_00FE72, 0x00FE74_00FE74, 0x00FE76_00FEFC, 0x00FEFF_00FEFF, 0x00FF01_00FF5E,
   0x00FF61_00FFBE, 0x00FFC2_00FFC7, 0x00FFCA_00FFCF, 0x00FFD2_00FFD7, 0x00FFDA_00FFDC,
   0x00FFE0_00FFE6, 0x00FFE8_00FFEE, 0x00FFFD_00FFFF]

def added2v0 : CodePoints := .ofNumerals
  [0x000591_0005A1, 0x0005A3_0005AF, 0x0005C4_0005C4, 0x000F00_000F47, 0x000F49_000F69,
   0x000F71_000F8B, 0x000F90_000F95, 0x000F97_000F97, 0x000F99_000FAD, 0x000FB1_000FB7,
   0x000FB9_000FB9, 0x001E9B_001E9B, 0x0020AB_0020AB, 0x00AC00_00D7A3, 0x01FFFE_01FFFF,
   0x02FFFE_02FFFF, 0x03FFFE_03FFFF, 0x04FFFE_04FFFF, 0x05FFFE_05FFFF, 0x06FFFE_06FFFF,
   0x07FFFE_07FFFF, 0x08FFFE_08FFFF, 0x09FFFE_09FFFF, 0x0AFFFE_0AFFFF, 0x0BFFFE_0BFFFF,
   0x0CFFFE_0CFFFF, 0x0DFFFE_0DFFFF, 0x0EFFFE_10FFFF]

def added2v1 : CodePoints := .ofNumerals [0x0020AC_0020AC, 0x00FFFC_00FFFC]

def added3v0 : CodePoints := .ofNumerals
  [0x0001F6_0001F9, 0x000218_00021F, 0x000222_000233, 0x0002A9_0002AD, 0x0002DF_0002DF,
   0x0002EA_0002EE, 0x000346_00034E, 0x000362_000362, 0x0003D7_0003D7, 0x0003DB_0003DB,
   0x0003DD_0003DD, 0x0003DF_0003DF, 0x0003E1_0003E1, 0x000400_000400, 0x00040D_00040D,
   0x000450_000450, 0x00045D_00045D, 0x000488_000489, 0x00048C_00048F, 0x0004EC_0004ED,
   0x00058A_00058A, 0x000653_000655, 0x0006B8_0006B9, 0x0006BF_0006BF, 0x0006CF_0006CF,
   0x0006FA_0006FE, 0x000700_00070D, 0x00070F_00072C, 0x000730_00074A, 0x000780_0007B0,
   0x000D82_000D83, 0x000D85_000D96, 0x000D9A_000DB1, 0x000DB3_000DBB, 0x000DBD_000DBD,
   0x000DC0_000DC6, 0x000DCA_000DCA, 0x000DCF_000DD4, 0x000DD6_000DD6, 0x000DD8_000DDF,
   0x000DF2_000DF4, 0x000F6A_000F6A, 0x000F96_000F96, 0x000FAE_000FB0, 0x000FB8_000FB8,
   0x000FBA_000FBC, 0x000FBE_000FCC, 0x000FCF_000FCF, 0x001000_001021, 0x001023_001027,
   0x001029_00102A, 0x00102C_001032, 0x001036_001039, 0x001040_001059, 0x001200_001206,
   0x001208_001246, 0x001248_001248, 0x00124A_00124D, 0x001250_001256, 0x001258_001258,
   0x00125A_00125D, 0x001260_001286, 0x001288_001288, 0x00128A_00128D, 0x001290_0012AE,
   0x0012B0_0012B0, 0x0012B2_0012B5, 0x0012B8_0012BE, 0x0012C0_0012C0, 0x0012C2_0012C5,
   0x0012C8_0012CE, 0x0012D0_0012D6, 0x0012D8_0012EE, 0x0012F0_00130E, 0x001310_001310,
   0x001312_001315, 0x001318_00131E, 0x001320_001346, 0x001348_00135A, 0x001361_00137C,
   0x0013A0_0013F4, 0x001401_001676, 0x001680_00169C, 0x0016A0_0016F0, 0x001780_0017DC,
   0x0017E0_0017E9, 0x001800_00180E, 0x001810_001819, 0x001820_001877, 0x001880_0018A9,
   0x00202F_00202F, 0x002048_00204D, 0x0020AD_0020AF, 0x0020E2_0020E3, 0x002139_00213A,
   0x002183_002183, 0x0021EB_0021F3, 0x002301_002301, 0x00237B_00237B, 0x00237D_00239A,
   0x002425_002426, 0x0025F0_0025F7, 0x002619_002619, 0x002670_002671, 0x002800_0028FF,
   0x002E80_002E99, 0x002E9B_002EF3, 0x002F00_002FD5, 0x002FF0_002FFB, 0x003038_00303A,
   0x00303E_00303E, 0x0031A0_0031B7, 0x003400_004DB5, 0x00A000_00A48C, 0x00A490_00A4A1,
   0x00A4A4_00A4B3, 0x00A4B5_00A4C0, 0x00A4C2_00A4C4, 0x00A4C6_00A4C6, 0x00FB1D_00FB1D,
   0x00FFF9_00FFFB]

def added3v1 : CodePoints := .ofNumerals
  [0x0003F4_0003F5, 0x00FDD0_00FDEF, 0x010300_01031E, 0x010320_010323, 0x010330_01034A,
   0x010400_010425, 0x010428_01044D, 0x01D000_01D0F5, 0x01D100_01D126, 0x01D12A_01D1DD,
   0x01D400_01D454, 0x01D456_01D49C, 0x01D49E_01D49F, 0x01D4A2_01D4A2, 0x01D4A5_01D4A6,
   0x01D4A9_01D4AC, 0x01D4AE_01D4B9, 0x01D4BB_01D4BB, 0x01D4BD_01D4C0, 0x01D4C2_01D4C3,
   0x01D4C5_01D505, 0x01D507_01D50A, 0x01D50D_01D514, 0x01D516_01D51C, 0x01D51E_01D539,
   0x01D53B_01D53E, 0x01D540_01D544, 0x01D546_01D546, 0x01D54A_01D550, 0x01D552_01D6A3,
   0x01D6A8_01D7C9, 0x01D7CE_01D7FF, 0x020000_02A6D6, 0x02F800_02FA1D, 0x0E0001_0E0001,
   0x0E0020_0E007F]

def added3v2 : CodePoints := .ofNumerals
  [0x000220_000220, 0x00034F_00034F, 0x000363_00036F, 0x0003D8_0003D9, 0x0003F6_0003F6,
   0x00048A_00048B, 0x0004C5_0004C6, 0x0004C9_0004CA, 0x0004CD_0004CE, 0x000500_00050F,
   0x00066E_00066F, 0x0007B1_0007B1, 0x0010F7_0010F8, 0x001700_00170C, 0x00170E_001714,
   0x001720_001736, 0x001740_001753, 0x001760_00176C, 0x00176E_001770, 0x001772_001773,
   0x002047_002047, 0x00204E_002052, 0x002057_002057, 0x00205F_002063, 0x002071_002071,
   0x0020B0_0020B1, 0x0020E4_0020EA, 0x00213D_00214B, 0x0021F4_0021FF, 0x0022F2_0022FF,
   0x00237C_00237C, 0x00239B_0023CE, 0x0024EB_0024FE, 0x002596_00259F, 0x0025F8_0025FF,
   0x002616_002617, 0x002672_00267D, 0x002680_002689, 0x002768_002775, 0x0027D0_0027EB,
   0x0027F0_0027FF, 0x002900_002AFF, 0x00303B_00303D, 0x003095_003096, 0x00309F_0030A0,
   0x0030FF_0030FF, 0x0031F0_0031FF, 0x003251_00325F, 0x0032B1_0032BF, 0x00A4A2_00A4A3,
   0x00A4B4_00A4B4, 0x00A4C1_00A4C1, 0x00A4C5_00A4C5, 0x00FA30_00FA6A, 0x00FDFC_00FDFC,
   0x00FE00_00FE0F, 0x00FE45_00FE46, 0x00FE73_00FE73, 0x00FF5F_00FF60]

def added4v0 : CodePoints := .ofNumerals
  [0x000221_000221, 0x000234_000236, 0x0002AE_0002AF, 0x0002EF_0002FF, 0x000350_000357,
   0x00035D_00035F, 0x0003F7_0003FB, 0x000600_000603, 0x00060D_000615, 0x000656_000658,
   0x0006EE_0006EF, 0x0006FF_0006FF, 0x00072D_00072F, 0x00074D_00074F, 0x000904_000904,
   0x0009BD_0009BD, 0x000A01_000A01, 0x000A03_000A03, 0x000A8C_000A8C, 0x000AE1_000AE3,
   0x000AF1_000AF1, 0x000B35_000B35, 0x000B71_000B71, 0x000BF3_000BFA, 0x000CBC_000CBD,
   0x0017DD_0017DD, 0x0017F0_0017F9, 0x001900_00191C, 0x001920_00192B, 0x001930_00193B,
   0x001940_001940, 0x001944_00196D, 0x001970_001974, 0x0019E0_0019FF, 0x001D00_001D6B,
   0x002053_002054, 0x00213B_00213B, 0x0023CF_0023D0, 0x0024FF_0024FF, 0x002614_002615,
   0x00268A_002691, 0x0026A0_0026A1, 0x002B00_002B0D, 0x00321D_00321E, 0x003250_003250,
   0x00327C_00327D, 0x0032CC_0032CF, 0x003377_00337A, 0x0033DE_0033DF, 0x0033FF_0033FF,
   0x004DC0_004DFF, 0x00FDFD_00FDFD, 0x00FE47_00FE48, 0x010000_01000B, 0x01000D_010026,
   0x010028_01003A, 0x01003C_01003D, 0x01003F_01004D, 0x010050_01005D, 0x010080_0100FA,
   0x010100_010102, 0x010107_010133, 0x010137_01013F, 0x010380_01039D, 0x01039F_01039F,
   0x010426_010427, 0x01044E_01049D, 0x0104A0_0104A9, 0x010800_010805, 0x010808_010808,
   0x01080A_010835, 0x010837_010838, 0x01083C_01083C, 0x01083F_01083F, 0x01D300_01D356,
   0x01D4C1_01D4C1, 0x0E0100_0E01EF]

def added4v1 : CodePoints := .ofNumerals
  [0x000237_000241, 0x000358_00035C, 0x0003FC_0003FF, 0x0004F6_0004F7, 0x0005A2_0005A2,
   0x0005C5_0005C7, 0x00060B_00060B, 0x00061E_00061E, 0x000659_00065E, 0x000750_00076D,
   0x00097D_00097D, 0x0009CE_0009CE, 0x000BB6_000BB6, 0x000BE6_000BE6, 0x000FD0_000FD1,
   0x0010F9_0010FA, 0x0010FC_0010FC, 0x001207_001207, 0x001247_001247, 0x001287_001287,
   0x0012AF_0012AF, 0x0012CF_0012CF, 0x0012EF_0012EF, 0x00130F_00130F, 0x00131F_00131F,
   0x001347_001347, 0x00135F_001360, 0x001380_001399, 0x001980_0019A9, 0x0019B0_0019C9,
   0x0019D0_0019D9, 0x0019DE_0019DF, 0x001A00_001A1B, 0x001A1E_001A1F, 0x001D6C_001DC3,
   0x002055_002056, 0x002058_00205E, 0x002090_002094, 0x0020B2_0020B5, 0x0020EB_0020EB,
   0x00213C_00213C, 0x00214C_00214C, 0x0023D1_0023DB, 0x002618_002618, 0x00267E_00267F,
   0x002692_00269C, 0x0026A2_0026B1, 0x0027C0_0027C6, 0x002B0E_002B13, 0x002C00_002C2E,
   0x002C30_002C5E, 0x002C80_002CEA, 0x002CF9_002D25, 0x002D30_002D65, 0x002D6F_002D6F,
   0x002D80_002D96, 0x002DA0_002DA6, 0x002DA8_002DAE, 0x002DB0_002DB6, 0x002DB8_002DBE,
   0x002DC0_002DC6, 0x002DC8_002DCE, 0x002DD0_002DD6, 0x002DD8_002DDE, 0x002E00_002E17,
   0x002E1C_002E1D, 0x0031C0_0031CF, 0x00327E_00327E, 0x009FA6_009FBB, 0x00A700_00A716,
   0x00A800_00A82B, 0x00FA70_00FAD9, 0x00FE10_00FE19, 0x010140_01018A, 0x0103A0_0103C3,
   0x0103C8_0103D5, 0x010A00_010A03, 0x010A05_010A06, 0x010A0C_010A13, 0x010A15_010A17,
   0x010A19_010A33, 0x010A38_010A3A, 0x010A3F_010A47, 0x010A50_010A58, 0x01D200_01D245,
   0x01D6A4_01D6A5]

def added5v0 : CodePoints := .ofNumerals
  [0x000242_00024F, 0x00037B_00037D, 0x0004CF_0004CF, 0x0004FA_0004FF, 0x000510_000513,
   0x0005BA_0005BA, 0x0007C0_0007FA, 0x00097B_00097C, 0x00097E_00097F, 0x000CE2_000CE3,
   0x000CF1_000CF2, 0x001B00_001B4B, 0x001B50_001B7C, 0x001DC4_001DCA, 0x001DFE_001DFF,
   0x0020EC_0020EF, 0x00214D_00214E, 0x002184_002184, 0x0023DC_0023E7, 0x0026B2_0026B2,
   0x0027C7_0027CA, 0x002B14_002B1A, 0x002B20_002B23, 0x002C60_002C6C, 0x002C74_002C77,
   0x00A717_00A71A, 0x00A720_00A721, 0x00A840_00A877, 0x010900_010919, 0x01091F_01091F,
   0x012000_01236E, 0x012400_012462, 0x012470_012473, 0x01D360_01D371, 0x01D7CA_01D7CB]

def added5v1 : CodePoints := .ofNumerals
  [0x000370_000373, 0x000376_000377, 0x0003CF_0003CF, 0x000487_000487, 0x000514_000523,
   0x000606_00060A, 0x000616_00061A, 0x00063B_00063F, 0x00076E_00077F, 0x000971_000972,
   0x000A51_000A51, 0x000A75_000A75, 0x000B44_000B44, 0x000B62_000B63, 0x000BD0_000BD0,
   0x000C3D_000C3D, 0x000C58_000C59, 0x000C62_000C63, 0x000C78_000C7F, 0x000D3D_000D3D,
   0x000D44_000D44, 0x000D62_000D63, 0x000D70_000D75, 0x000D79_000D7F, 0x000F6B_000F6C,
   0x000FCE_000FCE, 0x000FD2_000FD4, 0x001022_001022, 0x001028_001028, 0x00102B_00102B,
   0x001033_001035, 0x00103A_00103F, 0x00105A_001099, 0x00109E_00109F, 0x0018AA_0018AA,
   0x001B80_001BAA, 0x001BAE_001BB9, 0x001C00_001C37, 0x001C3B_001C49, 0x001C4D_001C7F,
   0x001DCB_001DE6, 0x001E9C_001E9F, 0x001EFA_001EFF, 0x002064_002064, 0x0020F0_0020F0,
   0x00214F_00214F, 0x002185_002188, 0x00269D_00269D, 0x0026B3_0026BC, 0x0026C0_0026C3,
   0x0027CC_0027CC, 0x0027EC_0027EF, 0x002B1B_002B1F, 0x002B24_002B4C, 0x002B50_002B54,
   0x002C6D_002C6F, 0x002C71_002C73, 0x002C78_002C7D, 0x002DE0_002DFF, 0x002E18_002E1B,
   0x002E1E_002E30, 0x00312D_00312D, 0x0031D0_0031E3, 0x009FBC_009FC3, 0x00A500_00A62B,
   0x00A640_00A65F, 0x00A662_00A673, 0x00A67C_00A697, 0x00A71B_00A71F, 0x00A722_00A78C,
   0x00A7FB_00A7FF, 0x00A880_00A8C4, 0x00A8CE_00A8D9, 0x00A900_00A953, 0x00A95F_00A95F,
   0x00AA00_00AA36, 0x00AA40_00AA4D, 0x00AA50_00AA59, 0x00AA5C_00AA5F, 0x00FE24_00FE26,
   0x010190_01019B, 0x0101D0_0101FD, 0x010280_01029C, 0x0102A0_0102D0, 0x010920_010939,
   0x01093F_01093F, 0x01D129_01D129, 0x01F000_01F02B, 0x01F030_01F093]

def added5v2 : CodePoints := .ofNumerals
  [0x000524_000525, 0x000800_00082D, 0x000830_00083E, 0x000900_000900, 0x00094E_00094E,
   0x000955_000955, 0x000979_00097A, 0x0009FB_0009FB, 0x000FD5_000FD8, 0x00109A_00109D,
   0x00115A_00115E, 0x0011A3_0011A7, 0x0011FA_0011FF, 0x001400_001400, 0x001677_00167F,
   0x0018B0_0018F5, 0x0019AA_0019AB, 0x0019DA_0019DA, 0x001A20_001A5E, 0x001A60_001A7C,
   0x001A7F_001A89, 0x001A90_001A99, 0x001AA0_001AAD, 0x001CD0_001CF2, 0x001DFD_001DFD,
   0x0020B6_0020B8, 0x002150_002152, 0x002189_002189, 0x0023E8_0023E8, 0x00269E_00269F,
   0x0026BD_0026BF, 0x0026C4_0026CD, 0x0026CF_0026E1, 0x0026E3_0026E3, 0x0026E8_0026FF,
   0x002757_002757, 0x002B55_002B59, 0x002C70_002C70, 0x002C7E_002C7F, 0x002CEB_002CF1,
   0x002E31_002E31, 0x003244_00324F, 0x009FC4_009FCB, 0x00A4D0_00A4FF, 0x00A6A0_00A6F7,
   0x00A830_00A839, 0x00A8E0_00A8FB, 0x00A960_00A97C, 0x00A980_00A9CD, 0x00A9CF_00A9D9,
   0x00A9DE_00A9DF, 0x00AA60_00AA7B, 0x00AA80_00AAC2, 0x00AADB_00AADF, 0x00ABC0_00ABED,
   0x00ABF0_00ABF9, 0x00D7B0_00D7C6, 0x00D7CB_00D7FB, 0x00FA6B_00FA6D, 0x010840_010855,
   0x010857_01085F, 0x01091A_01091B, 0x010A60_010A7F, 0x010B00_010B35, 0x010B39_010B55,
   0x010B58_010B72, 0x010B78_010B7F, 0x010C00_010C48, 0x010E60_010E7E, 0x011080_0110C1,
   0x013000_01342E, 0x01F100_01F10A, 0x01F110_01F12E, 0x01F131_01F131, 0x01F13D_01F13D,
   0x01F13F_01F13F, 0x01F142_01F142, 0x01F146_01F146, 0x01F14A_01F14E, 0x01F157_01F157,
   0x01F15F_01F15F, 0x01F179_01F179, 0x01F17B_01F17C, 0x01F17F_01F17F, 0x01F18A_01F18D,
   0x01F190_01F190, 0x01F200_01F200, 0x01F210_01F231, 0x01F240_01F248, 0x02A700_02B734]

def added6v0 : CodePoints := .ofNumerals
  [0x000526_000527, 0x000620_000620, 0x00065F_00065F, 0x000840_00085B, 0x00085E_00085E,
   0x00093A_00093B, 0x00094F_00094F, 0x000956_000957, 0x000973_000977, 0x000B72_000B77,
   0x000D29_000D29, 0x000D3A_000D3A, 0x000D4E_000D4E, 0x000F8C_000F8F, 0x000FD9_000FDA,
   0x00135D_00135E, 0x001BC0_001BF3, 0x001BFC_001BFF, 0x001DFC_001DFC, 0x002095_00209C,
   0x0020B9_0020B9, 0x0023E9_0023F3, 0x0026CE_0026CE, 0x0026E2_0026E2, 0x0026E4_0026E7,
   0x002705_002705, 0x00270A_00270B, 0x002728_002728, 0x00274C_00274C, 0x00274E_00274E,
   0x002753_002755, 0x00275F_002760, 0x002795_002797, 0x0027B0_0027B0, 0x0027BF_0027BF,
   0x0027CE_0027CF, 0x002D70_002D70, 0x002D7F_002D7F, 0x0031B8_0031BA, 0x00A660_00A661,
   0x00A78D_00A78E, 0x00A790_00A791, 0x00A7A0_00A7A9, 0x00A7FA_00A7FA, 0x00AB01_00AB06,
   0x00AB09_00AB0E, 0x00AB11_00AB16, 0x00AB20_00AB26, 0x00AB28_00AB2E, 0x00FBB2_00FBC1,
   0x011000_01104D, 0x011052_01106F, 0x016800_016A38, 0x01B000_01B001, 0x01F0A0_01F0AE,
   0x01F0B1_01F0BE, 0x01F0C1_01F0CF, 0x01F0D1_01F0DF, 0x01F130_01F130, 0x01F132_01F13C,
   0x01F13E_01F13E, 0x01F140_01F141, 0x01F143_01F145, 0x01F147_01F149, 0x01F14F_01F156,
   0x01F158_01F15E, 0x01F160_01F169, 0x01F170_01F178, 0x01F17A_01F17A, 0x01F17D_01F17E,
   0x01F180_01F189, 0x01F18E_01F18F, 0x01F191_01F19A, 0x01F1E6_01F1FF, 0x01F201_01F202,
   0x01F232_01F23A, 0x01F250_01F251, 0x01F300_01F320, 0x01F330_01F335, 0x01F337_01F37C,
   0x01F380_01F393, 0x01F3A0_01F3C4, 0x01F3C6_01F3CA, 0x01F3E0_01F3F0, 0x01F400_01F43E,
   0x01F440_01F440, 0x01F442_01F4F7, 0x01F4F9_01F4FC, 0x01F500_01F53D, 0x01F550_01F567,
   0x01F5FB_01F5FF, 0x01F601_01F610, 0x01F612_01F614, 0x01F616_01F616, 0x01F618_01F618,
   0x01F61A_01F61A, 0x01F61C_01F61E, 0x01F620_01F625, 0x01F628_01F62B, 0x01F62D_01F62D,
   0x01F630_01F633, 0x01F635_01F640, 0x01F645_01F64F, 0x01F680_01F6C5, 0x01F700_01F773,
   0x02B740_02B81D]

def added6v1 : CodePoints := .ofNumerals
  [0x00058F_00058F, 0x000604_000604, 0x0008A0_0008A0, 0x0008A2_0008AC, 0x0008E4_0008FE,
   0x000AF0_000AF0, 0x000EDE_000EDF, 0x0010C7_0010C7, 0x0010CD_0010CD, 0x0010FD_0010FF,
   0x001BAB_001BAD, 0x001BBA_001BBF, 0x001CC0_001CC7, 0x001CF3_001CF6, 0x0027CB_0027CB,
   0x0027CD_0027CD, 0x002CF2_002CF3, 0x002D27_002D27, 0x002D2D_002D2D, 0x002D66_002D67,
   0x002E32_002E3B, 0x009FCC_009FCC, 0x00A674_00A67B, 0x00A69F_00A69F, 0x00A792_00A793,
   0x00A7AA_00A7AA, 0x00A7F8_00A7F9, 0x00AAE0_00AAF6, 0x00FA2E_00FA2F, 0x010980_0109B7,
   0x0109BE_0109BF, 0x0110D0_0110E8, 0x0110F0_0110F9, 0x011100_011134, 0x011136_011143,
   0x011180_0111C8, 0x0111D0_0111D9, 0x011680_0116B7, 0x0116C0_0116C9, 0x016F00_016F44,
   0x016F50_016F7E, 0x016F8F_016F9F, 0x01EE00_01EE03, 0x01EE05_01EE1F, 0x01EE21_01EE22,
   0x01EE24_01EE24, 0x01EE27_01EE27, 0x01EE29_01EE32, 0x01EE34_01EE37, 0x01EE39_01EE39,
   0x01EE3B_01EE3B, 0x01EE42_01EE42, 0x01EE47_01EE47, 0x01EE49_01EE49, 0x01EE4B_01EE4B,
   0x01EE4D_01EE4F, 0x01EE51_01EE52, 0x01EE54_01EE54, 0x01EE57_01EE57, 0x01EE59_01EE59,
   0x01EE5B_01EE5B, 0x01EE5D_01EE5D, 0x01EE5F_01EE5F, 0x01EE61_01EE62, 0x01EE64_01EE64,
   0x01EE67_01EE6A, 0x01EE6C_01EE72, 0x01EE74_01EE77, 0x01EE79_01EE7C, 0x01EE7E_01EE7E,
   0x01EE80_01EE89, 0x01EE8B_01EE9B, 0x01EEA1_01EEA3, 0x01EEA5_01EEA9, 0x01EEAB_01EEBB,
   0x01EEF0_01EEF1, 0x01F16A_01F16B, 0x01F540_01F543, 0x01F600_01F600, 0x01F611_01F611,
   0x01F615_01F615, 0x01F617_01F617, 0x01F619_01F619, 0x01F61B_01F61B, 0x01F61F_01F61F,
   0x01F626_01F627, 0x01F62C_01F62C, 0x01F62E_01F62F, 0x01F634_01F634]

def added6v2 : CodePoints := .ofNumerals [0x0020BA_0020BA]

def added6v3 : CodePoints := .ofNumerals [0x00061C_00061C, 0x002066_002069]

def added7v0 : CodePoints := .ofNumerals
  [0x00037F_00037F, 0x000528_00052F, 0x00058D_00058E, 0x000605_000605, 0x0008A1_0008A1,
   0x0008AD_0008B2, 0x0008FF_0008FF, 0x000978_000978, 0x000980_000980, 0x000C00_000C00,
   0x000C34_000C34, 0x000C81_000C81, 0x000D01_000D01, 0x000DE6_000DEF, 0x0016F1_0016F8,
   0x00191D_00191E, 0x001AB0_001ABE, 0x001CF8_001CF9, 0x001DE7_001DF5, 0x0020BB_0020BD,
   0x0023F4_0023FA, 0x002700_002700, 0x002B4D_002B4F, 0x002B5A_002B73, 0x002B76_002B95,
   0x002B98_002BB9, 0x002BBD_002BC8, 0x002BCA_002BD1, 0x002E3C_002E42, 0x00A698_00A69D,
   0x00A794_00A79F, 0x00A7AB_00A7AD, 0x00A7B0_00A7B1, 0x00A7F7_00A7F7, 0x00A9E0_00A9FE,
   0x00AA7C_00AA7F, 0x00AB30_00AB5F, 0x00AB64_00AB65, 0x00FE27_00FE2D, 0x01018B_01018C,
   0x0101A0_0101A0, 0x0102E0_0102FB, 0x01031F_01031F, 0x010350_01037A, 0x010500_010527,
   0x010530_010563, 0x01056F_01056F, 0x010600_010736, 0x010740_010755, 0x010760_010767,
   0x010860_01089E, 0x0108A7_0108AF, 0x010A80_010A9F, 0x010AC0_010AE6, 0x010AEB_010AF6,
   0x010B80_010B91, 0x010B99_010B9C, 0x010BA9_010BAF, 0x01107F_01107F, 0x011150_011176,
   0x0111CD_0111CD, 0x0111DA_0111DA, 0x0111E1_0111F4, 0x011200_011211, 0x011213_01123D,
   0x0112B0_0112EA, 0x0112F0_0112F9, 0x011301_011303, 0x011305_01130C, 0x01130F_011310,
   0x011313_011328, 0x01132A_011330, 0x011332_011333, 0x011335_011339, 0x01133C_011344,
   0x011347_011348, 0x01134B_01134D, 0x011357_011357, 0x01135D_011363, 0x011366_01136C,
   0x011370_011374, 0x011480_0114C7, 0x0114D0_0114D9, 0x011580_0115B5, 0x0115B8_0115C9,
   0x011600_011644, 0x011650_011659, 0x0118A0_0118F2, 0x0118FF_0118FF, 0x011AC0_011AF8,
   0x01236F_012398, 0x012463_01246E, 0x012474_012474, 0x016A40_016A5E, 0x016A60_016A69,
   0x016A6E_016A6F, 0x016AD0_016AED, 0x016AF0_016AF5, 0x016B00_016B45, 0x016B50_016B59,
   0x016B5B_016B61, 0x016B63_016B77, 0x016B7D_016B8F, 0x01BC00_01BC6A, 0x01BC70_01BC7C,
   0x01BC80_01BC88, 0x01BC90_01BC99, 0x01BC9C_01BCA3, 0x01E800_01E8C4, 0x01E8C7_01E8D6,
   0x01F0BF_01F0BF, 0x01F0E0_01F0F5, 0x01F10B_01F10C, 0x01F321_01F32C, 0x01F336_01F336,
   0x01F37D_01F37D, 0x01F394_01F39F, 0x01F3C5_01F3C5, 0x01F3CB_01F3CE, 0x01F3D4_01F3DF,
   0x01F3F1_01F3F7, 0x01F43F_01F43F, 0x01F441_01F441, 0x01F4F8_01F4F8, 0x01F4FD_01F4FE,
   0x01F53E_01F53F, 0x01F544_01F54A, 0x01F568_01F579, 0x01F57B_01F5A3, 0x01F5A5_01F5FA,
   0x01F641_01F642, 0x01F650_01F67F, 0x01F6C6_01F6CF, 0x01F6E0_01F6EC, 0x01F6F0_01F6F3,
   0x01F780_01F7D4, 0x01F800_01F80B, 0x01F810_01F847, 0x01F850_01F859, 0x01F860_01F887,
   0x01F890_01F8AD]

def added8v0 : CodePoints := .ofNumerals
  [0x0008B3_0008B4, 0x0008E3_0008E3, 0x000AF9_000AF9, 0x000C5A_000C5A, 0x000D5F_000D5F,
   0x0013F5_0013F5, 0x0013F8_0013FD, 0x0020BE_0020BE, 0x00218A_00218B, 0x002BEC_002BEF,
   0x009FCD_009FD5, 0x00A69E_00A69E, 0x00A78F_00A78F, 0x00A7B2_00A7B7, 0x00A8FC_00A8FD,
   0x00AB60_00AB63, 0x00AB70_00ABBF, 0x00FE2E_00FE2F, 0x0108E0_0108F2, 0x0108F4_0108F5,
   0x0108FB_0108FF, 0x0109BC_0109BD, 0x0109C0_0109CF, 0x0109D2_0109FF, 0x010C80_010CB2,
   0x010CC0_010CF2, 0x010CFA_010CFF, 0x0111C9_0111CC, 0x0111DB_0111DF, 0x011280_011286,
   0x011288_011288, 0x01128A_01128D, 0x01128F_01129D, 0x01129F_0112A9, 0x011300_011300,
   0x011350_011350, 0x0115CA_0115DD, 0x011700_011719, 0x01171D_01172B, 0x011730_01173F,
   0x012399_012399, 0x012480_012543, 0x014400_014646, 0x01D1DE_01D1E8, 0x01D800_01DA8B,
   0x01DA9B_01DA9F, 0x01DAA1_01DAAF, 0x01F32D_01F32F, 0x01F37E_01F37F, 0x01F3CF_01F3D3,
   0x01F3F8_01F3FF, 0x01F4FF_01F4FF, 0x01F54B_01F54F, 0x01F643_01F644, 0x01F6D0_01F6D0,
   0x01F910_01F918, 0x01F980_01F984, 0x01F9C0_01F9C0, 0x02B820_02CEA1]

def added9v0 : CodePoints := .ofNumerals
  [0x0008B6_0008BD, 0x0008D4_0008E2, 0x000C80_000C80, 0x000D4F_000D4F, 0x000D54_000D56,
   0x000D58_000D5E, 0x000D76_000D78, 0x001C80_001C88, 0x001DFB_001DFB, 0x0023FB_0023FE,
   0x002E43_002E44, 0x00A7AE_00A7AE, 0x00A8C5_00A8C5, 0x01018D_01018E, 0x0104B0_0104D3,
   0x0104D8_0104FB, 0x01123E_01123E, 0x011400_011459, 0x01145B_01145B, 0x01145D_01145D,
   0x011660_01166C, 0x011C00_011C08, 0x011C0A_011C36, 0x011C38_011C45, 0x011C50_011C6C,
   0x011C70_011C8F, 0x011C92_011CA7, 0x011CA9_011CB6, 0x016FE0_016FE0, 0x017000_0187EC,
   0x018800_018AF2, 0x01E000_01E006, 0x01E008_01E018, 0x01E01B_01E021, 0x01E023_01E024,
   0x01E026_01E02A, 0x01E900_01E94A, 0x01E950_01E959, 0x01E95E_01E95F, 0x01F19B_01F1AC,
   0x01F23B_01F23B, 0x01F57A_01F57A, 0x01F5A4_01F5A4, 0x01F6D1_01F6D2, 0x01F6F4_01F6F6,
   0x01F919_01F91E, 0x01F920_01F927, 0x01F930_01F930, 0x01F933_01F93E, 0x01F940_01F94B,
   0x01F950_01F95E, 0x01F985_01F991]

def added10v0 : CodePoints := .ofNumerals
  [0x000860_00086A, 0x0009FC_0009FD, 0x000AFA_000AFF, 0x000D00_000D00, 0x000D3B_000D3C,
   0x001CF7_001CF7, 0x001DF6_001DF9, 0x0020BF_0020BF, 0x0023FF_0023FF, 0x002BD2_002BD2,
   0x002E45_002E49, 0x00312E_00312E, 0x009FD6_009FEA, 0x01032D_01032F, 0x011A00_011A47,
   0x011A50_011A83, 0x011A86_011A9C, 0x011A9E_011AA2, 0x011D00_011D06, 0x011D08_011D09,
   0x011D0B_011D36, 0x011D3A_011D3A, 0x011D3C_011D3D, 0x011D3F_011D47, 0x011D50_011D59,
   0x016FE1_016FE1, 0x01B002_01B11E, 0x01B170_01B2FB, 0x01F260_01F265, 0x01F6D3_01F6D4,
   0x01F6F7_01F6F8, 0x01F900_01F90B, 0x01F91F_01F91F, 0x01F928_01F92F, 0x01F931_01F932,
   0x01F94C_01F94C, 0x01F95F_01F96B, 0x01F992_01F997, 0x01F9D0_01F9E6, 0x02CEB0_02EBE0]

def added11v0 : CodePoints := .ofNumerals
  [0x000560_000560, 0x000588_000588, 0x0005EF_0005EF, 0x0007FD_0007FF, 0x0008D3_0008D3,
   0x0009FE_0009FE, 0x000A76_000A76, 0x000C04_000C04, 0x000C84_000C84, 0x001878_001878,
   0x001C90_001CBA, 0x001CBD_001CBF, 0x002BBA_002BBC, 0x002BD3_002BEB, 0x002BF0_002BFE,
   0x002E4A_002E4E, 0x00312F_00312F, 0x009FEB_009FEF, 0x00A7AF_00A7AF, 0x00A7B8_00A7B9,
   0x00A8FE_00A8FF, 0x010A34_010A35, 0x010A48_010A48, 0x010D00_010D27, 0x010D30_010D39,
   0x010F00_010F27, 0x010F30_010F59, 0x0110CD_0110CD, 0x011144_011146, 0x01133B_01133B,
   0x01145E_01145E, 0x01171A_01171A, 0x011800_01183B, 0x011A9D_011A9D, 0x011D60_011D65,
   0x011D67_011D68, 0x011D6A_011D8E, 0x011D90_011D91, 0x011D93_011D98, 0x011DA0_011DA9,
   0x011EE0_011EF8, 0x016E40_016E9A, 0x0187ED_0187F1, 0x01D2E0_01D2F3, 0x01D372_01D378,
   0x01EC71_01ECB4, 0x01F12F_01F12F, 0x01F6F9_01F6F9, 0x01F7D5_01F7D8, 0x01F94D_01F94F,
   0x01F96C_01F970, 0x01F973_01F976, 0x01F97A_01F97A, 0x01F97C_01F97F, 0x01F998_01F9A2,
   0x01F9B0_01F9B9, 0x01F9C1_01F9C2, 0x01F9E7_01F9FF, 0x01FA60_01FA6D]

def added12v0 : CodePoints := .ofNumerals
  [0x000C77_000C77, 0x000E86_000E86, 0x000E89_000E89, 0x000E8C_000E8C, 0x000E8E_000E93,
   0x000E98_000E98, 0x000EA0_000EA0, 0x000EA8_000EA9, 0x000EAC_000EAC, 0x000EBA_000EBA,
   0x001CFA_001CFA, 0x002BC9_002BC9, 0x002BFF_002BFF, 0x002E4F_002E4F, 0x00A7BA_00A7BF,
   0x00A7C2_00A7C6, 0x00AB66_00AB67, 0x010FE0_010FF6, 0x01145F_01145F, 0x0116B8_0116B8,
   0x0119A0_0119A7, 0x0119AA_0119D7, 0x0119DA_0119E4, 0x011A84_011A85, 0x011FC0_011FF1,
   0x011FFF_011FFF, 0x013430_013438, 0x016F45_016F4A, 0x016F4F_016F4F, 0x016F7F_016F87,
   0x016FE2_016FE3, 0x0187F2_0187F7, 0x01B150_01B152, 0x01B164_01B167, 0x01E100_01E12C,
   0x01E130_01E13D, 0x01E140_01E149, 0x01E14E_01E14F, 0x01E2C0_01E2F9, 0x01E2FF_01E2FF,
   0x01E94B_01E94B, 0x01ED01_01ED3D, 0x01F16C_01F16C, 0x01F6D5_01F6D5, 0x01F6FA_01F6FA,
   0x01F7E0_01F7EB, 0x01F90D_01F90F, 0x01F93F_01F93F, 0x01F971_01F971, 0x01F97B_01F97B,
   0x01F9A5_01F9AA, 0x01F9AE_01F9AF, 0x01F9BA_01F9BF, 0x01F9C3_01F9CA, 0x01F9CD_01F9CF,
   0x01FA00_01FA53, 0x01FA70_01FA73, 0x01FA78_01FA7A, 0x01FA80_01FA82, 0x01FA90_01FA95]

def added12v1 : CodePoints := .ofNumerals [0x0032FF_0032FF]

def added13v0 : CodePoints := .ofNumerals
  [0x0008BE_0008C7, 0x000B55_000B55, 0x000D04_000D04, 0x000D81_000D81, 0x001ABF_001AC0,
   0x002B97_002B97, 0x002E50_002E52, 0x0031BB_0031BF, 0x004DB6_004DBF, 0x009FF0_009FFC,
   0x00A7C7_00A7CA, 0x00A7F5_00A7F6, 0x00A82C_00A82C, 0x00AB68_00AB6B, 0x01019C_01019C,
   0x010E80_010EA9, 0x010EAB_010EAD, 0x010EB0_010EB1, 0x010FB0_010FCB, 0x011147_011147,
   0x0111CE_0111CF, 0x01145A_01145A, 0x011460_011461, 0x011900_011906, 0x011909_011909,
   0x01190C_011913, 0x011915_011916, 0x011918_011935, 0x011937_011938, 0x01193B_011946,
   0x011950_011959, 0x011FB0_011FB0, 0x016FE4_016FE4, 0x016FF0_016FF1, 0x018AF3_018CD5,
   0x018D00_018D08, 0x01F10D_01F10F, 0x01F16D_01F16F, 0x01F1AD_01F1AD, 0x01F6D6_01F6D7,
   0x01F6FB_01F6FC, 0x01F8B0_01F8B1, 0x01F90C_01F90C, 0x01F972_01F972, 0x01F977_01F978,
   0x01F9A3_01F9A4, 0x01F9AB_01F9AD, 0x01F9CB_01F9CB, 0x01FA74_01FA74, 0x01FA83_01FA86,
   0x01FA96_01FAA8, 0x01FAB0_01FAB6, 0x01FAC0_01FAC2, 0x01FAD0_01FAD6, 0x01FB00_01FB92,
   0x01FB94_01FBCA, 0x01FBF0_01FBF9, 0x02A6D7_02A6DD, 0x030000_03134A]

def added14v0 : CodePoints := .ofNumerals
  [0x00061D_00061D, 0x000870_00088E, 0x000890_000891, 0x000898_00089F, 0x0008B5_0008B5,
   0x0008C8_0008D2, 0x000C3C_000C3C, 0x000C5D_000C5D, 0x000CDD_000CDD, 0x00170D_00170D,
   0x001715_001715, 0x00171F_00171F, 0x00180F_00180F, 0x001AC1_001ACE, 0x001B4C_001B4C,
   0x001B7D_001B7E, 0x001DFA_001DFA, 0x0020C0_0020C0, 0x002C2F_002C2F, 0x002C5F_002C5F,
   0x002E53_002E5D, 0x009FFD_009FFF, 0x00A7C0_00A7C1, 0x00A7D0_00A7D1, 0x00A7D3_00A7D3,
   0x00A7D5_00A7D9, 0x00A7F2_00A7F4, 0x00FBC2_00FBC2, 0x00FD40_00FD4F, 0x00FDCF_00FDCF,
   0x00FDFE_00FDFF, 0x010570_01057A, 0x01057C_01058A, 0x01058C_010592, 0x010594_010595,
   0x010597_0105A1, 0x0105A3_0105B1, 0x0105B3_0105B9, 0x0105BB_0105BC, 0x010780_010785,
   0x010787_0107B0, 0x0107B2_0107BA, 0x010F70_010F89, 0x011070_011075, 0x0110C2_0110C2,
   0x0116B9_0116B9, 0x011740_011746, 0x011AB0_011ABF, 0x012F90_012FF2, 0x016A70_016ABE,
   0x016AC0_016AC9, 0x01AFF0_01AFF3, 0x01AFF5_01AFFB, 0x01AFFD_01AFFE, 0x01B11F_01B122,
   0x01CF00_01CF2D, 0x01CF30_01CF46, 0x01CF50_01CFC3, 0x01D1E9_01D1EA, 0x01DF00_01DF1E,
   0x01E290_01E2AE, 0x01E7E0_01E7E6, 0x01E7E8_01E7EB, 0x01E7ED_01E7EE, 0x01E7F0_01E7FE,
   0x01F6DD_01F6DF, 0x01F7F0_01F7F0, 0x01F979_01F979, 0x01F9CC_01F9CC, 0x01FA7B_01FA7C,
   0x01FAA9_01FAAC, 0x01FAB7_01FABA, 0x01FAC3_01FAC5, 0x01FAD7_01FAD9, 0x01FAE0_01FAE7,
   0x01FAF0_01FAF6, 0x02A6DE_02A6DF, 0x02B735_02B738]

def added15v0 : CodePoints := .ofNumerals
  [0x000CF3_000CF3, 0x000ECE_000ECE, 0x010EFD_010EFF, 0x01123F_011241, 0x011B00_011B09,
   0x011F00_011F10, 0x011F12_011F3A, 0x011F3E_011F59, 0x01342F_01342F, 0x013439_013455,
   0x01B132_01B132, 0x01B155_01B155, 0x01D2C0_01D2D3, 0x01DF25_01DF2A, 0x01E030_01E06D,
   0x01E08F_01E08F, 0x01E4D0_01E4F9, 0x01F6DC_01F6DC, 0x01F774_01F776, 0x01F77B_01F77F,
   0x01F7D9_01F7D9, 0x01FA75_01FA77, 0x01FA87_01FA88, 0x01FAAD_01FAAF, 0x01FABB_01FABD,
   0x01FABF_01FABF, 0x01FACE_01FACF, 0x01FADA_01FADB, 0x01FAE8_01FAE8, 0x01FAF7_01FAF8,
   0x02B739_02B739, 0x031350_0323AF]

def added15v1 : CodePoints := .ofNumerals [0x002FFC_002FFF, 0x0031EF_0031EF, 0x02EBF0_02EE5D]

def added16v0 : CodePoints := .ofNumerals
  [0x000897_000897, 0x001B4E_001B4F, 0x001B7F_001B7F, 0x001C89_001C8A, 0x002427_002429,
   0x0031E4_0031E5, 0x00A7CB_00A7CD, 0x00A7DA_00A7DC, 0x0105C0_0105F3, 0x010D40_010D65,
   0x010D69_010D85, 0x010D8E_010D8F, 0x010EC2_010EC4, 0x010EFC_010EFC, 0x011380_011389,
   0x01138B_01138B, 0x01138E_01138E, 0x011390_0113B5, 0x0113B7_0113C0, 0x0113C2_0113C2,
   0x0113C5_0113C5, 0x0113C7_0113CA, 0x0113CC_0113D5, 0x0113D7_0113D8, 0x0113E1_0113E2,
   0x0116D0_0116E3, 0x011BC0_011BE1, 0x011BF0_011BF9, 0x011F5A_011F5A, 0x013460_0143FA,
   0x016100_016139, 0x016D40_016D79, 0x018CFF_018CFF, 0x01CC00_01CCF9, 0x01CD00_01CEB3,
   0x01E5D0_01E5FA, 0x01E5FF_01E5FF, 0x01F8B2_01F8BB, 0x01F8C0_01F8C1, 0x01FA89_01FA89,
   0x01FA8F_01FA8F, 0x01FABE_01FABE, 0x01FAC6_01FAC6, 0x01FADC_01FADC, 0x01FADF_01FADF,
   0x01FAE9_01FAE9, 0x01FBCB_01FBEF]

def versions : List Version :=
  [⟨1, 1, added1v1⟩, ⟨2, 0, added2v0⟩, ⟨2, 1, added2v1⟩, ⟨3, 0, added3v0⟩, ⟨3, 1, added3v1⟩,
   ⟨3, 2, added3v2⟩, ⟨4, 0, added4v0⟩, ⟨4, 1, added4v1⟩, ⟨5, 0, added5v0⟩, ⟨5, 1, added5v1⟩,
   ⟨5, 2, added5v2⟩, ⟨6, 0, added6v0⟩, ⟨6, 1, added6v1⟩, ⟨6, 2, added6v2⟩, ⟨6, 3, added6v3⟩,
   ⟨7, 0, added7v0⟩, ⟨8, 0, added8v0⟩, ⟨9, 0, added9v0⟩, ⟨10, 0, added10v0⟩, ⟨11, 0, added11v0⟩,
   ⟨12, 0, added12v0⟩, ⟨12, 1, added12v1⟩, ⟨13, 0, added13v0⟩, ⟨14, 0, added14v0⟩,
   ⟨15, 0, added15v0⟩, ⟨15, 1, added15v1⟩, ⟨16, 0, added16v0⟩]

/-- A version as it is named in a property: `6.0` or `V6_0`. -/
def Version.names (version : Version) : List String :=
  let major := toString version.major
  let minor := toString version.minor
  [major ++ "." ++ minor, "v" ++ major ++ minor]

def Version.isUpTo (a b : Version) : Bool :=
  a.major < b.major || a.major == b.major && a.minor ≤ b.minor

/-- The characters that were there in each version, under its names. -/
def ages : List NamedSet :=
  versions.map fun version =>
    ⟨version.names, .unions ((versions.filter (·.isUpTo version)).map (·.added))⟩

end RouteTable.Text
