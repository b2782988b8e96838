import RouteTable.Text.CodePoints

/-!
The characters of Unicode 17 that are the same as others in sequence, and the order of the marks
after a letter.
-/

namespace RouteTable.Text

/-- The code points that a numeral gives, twenty-four bits for each. -/
def codePointsOf (numeral : Nat) : List Nat :=
  if numeral = 0 then []
  else codePointsOf (numeral / 0x1000000) ++ [numeral % 0x1000000]
termination_by numeral
decreasing_by exact Nat.div_lt_self (by omega) (by decide)

/-- The characters that are the same as two in sequence, syllables of Hangul apart: each is followed
by the two. -/
def compositeNumerals : List Nat :=
  [0x0000C0_000041_000300, 0x0000C1_000041_000301, 0x0000C2_000041_000302, 0x0000C3_000041_000303,
   0x0000C4_000041_000308, 0x0000C5_000041_00030A, 0x0000C7_000043_000327, 0x0000C8_000045_000300,
   0x0000C9_000045_000301, 0x0000CA_000045_000302, 0x0000CB_000045_000308, 0x0000CC_000049_000300,
   0x0000CD_000049_000301, 0x0000CE_000049_000302, 0x0000CF_000049_000308, 0x0000D1_00004E_000303,
   0x0000D2_00004F_000300, 0x0000D3_00004F_000301, 0x0000D4_00004F_000302, 0x0000D5_00004F_000303,
   0x0000D6_00004F_000308, 0x0000D9_000055_000300, 0x0000DA_000055_000301, 0x0000DB_000055_000302,
   0x0000DC_000055_000308, 0x0000DD_000059_000301, 0x0000E0_000061_000300, 0x0000E1_000061_000301,
   0x0000E2_000061_000302, 0x0000E3_000061_000303, 0x0000E4_000061_000308, 0x0000E5_000061_00030A,
   0x0000E7_000063_000327, 0x0000E8_000065_000300, 0x0000E9_000065_000301, 0x0000EA_000065_000302,
   0x0000EB_000065_000308, 0x0000EC_000069_000300, 0x0000ED_000069_000301, 0x0000EE_000069_000302,
   0x0000EF_000069_000308, 0x0000F1_00006E_000303, 0x0000F2_00006F_000300, 0x0000F3_00006F_000301,
   0x0000F4_00006F_000302, 0x0000F5_00006F_000303, 0x0000F6_00006F_000308, 0x0000F9_000075_000300,
   0x0000FA_000075_000301, 0x0000FB_000075_000302, 0x0000FC_000075_000308, 0x0000FD_000079_000301,
   0x0000FF_000079_000308, 0x000100_000041_000304, 0x000101_000061_000304, 0x000102_000041_000306,
   0x000103_000061_000306, 0x000104_000041_000328, 0x000105_000061_000328, 0x000106_000043_000301,
   0x000107_000063_000301, 0x000108_000043_000302, 0x000109_000063_000302, 0x00010A_000043_000307,
   0x00010B_000063_000307, 0x00010C_000043_00030C, 0x00010D_000063_00030C, 0x00010E_000044_00030C,
   0x00010F_000064_00030C, 0x000112_000045_000304, 0x000113_000065_000304, 0x000114_000045_000306,
   0x000115_000065_000306, 0x000116_000045_000307, 0x000117_000065_000307, 0x000118_000045_000328,
   0x000119_000065_000328, 0x00011A_000045_00030C, 0x00011B_000065_00030C, 0x00011C_000047_000302,
   0x00011D_000067_000302, 0x00011E_000047_000306, 0x00011F_000067_000306, 0x000120_000047_000307,
   0x000121_000067_000307, 0x000122_000047_000327, 0x000123_000067_000327, 0x000124_000048_000302,
   0x000125_000068_000302, 0x000128_000049_000303, 0x000129_000069_000303, 0x00012A_000049_000304,
   0x00012B_000069_000304, 0x00012C_000049_000306, 0x00012D_000069_000306, 0x00012E_000049_000328,
   0x00012F_000069_000328, 0x000130_000049_000307, 0x000134_00004A_000302, 0x000135_00006A_000302,
   0x000136_00004B_000327, 0x000137_00006B_000327, 0x000139_00004C_000301, 0x00013A_00006C_000301,
   0x00013B_00004C_000327, 0x00013C_00006C_000327, 0x00013D_00004C_00030C, 0x00013E_00006C_00030C,
   0x000143_00004E_000301, 0x000144_00006E_000301, 0x000145_00004E_000327, 0x000146_00006E_000327,
   0x000147_00004E_00030C, 0x000148_00006E_00030C, 0x00014C_00004F_000304, 0x00014D_00006F_000304,
   0x00014E_00004F_000306, 0x00014F_00006F_000306, 0x000150_00004F_00030B, 0x000151_00006F_00030B,
   0x000154_000052_000301, 0x000155_000072_000301, 0x000156_000052_000327, 0x000157_000072_000327,
   0x000158_000052_00030C, 0x000159_000072_00030C, 0x00015A_000053_000301, 0x00015B_000073_000301,
   0x00015C_000053_000302, 0x00015D_000073_000302, 0x00015E_000053_000327, 0x00015F_000073_000327,
   0x000160_000053_00030C, 0x000161_000073_00030C, 0x000162_000054_000327, 0x000163_000074_000327,
   0x000164_000054_00030C, 0x000165_000074_00030C, 0x000168_000055_000303, 0x000169_000075_000303,
   0x00016A_000055_000304, 0x00016B_000075_000304, 0x00016C_000055_000306, 0x00016D_000075_000306,
   0x00016E_000055_00030A, 0x00016F_000075_00030A, 0x000170_000055_00030B, 0x000171_000075_00030B,
   0x000172_000055_000328, 0x000173_000075_000328, 0x000174_000057_000302, 0x000175_000077_000302,
   0x000176_000059_000302, 0x000177_000079_000302, 0x000178_000059_000308, 0x000179_00005A_000301,
   0x00017A_00007A_000301, 0x00017B_00005A_000307, 0x00017C_00007A_000307, 0x00017D_00005A_00030C,
   0x00017E_00007A_00030C, 0x0001A0_00004F_00031B, 0x0001A1_00006F_00031B, 0x0001AF_000055_00031B,
   0x0001B0_000075_00031B, 0x0001CD_000041_00030C, 0x0001CE_000061_00030C, 0x0001CF_000049_00030C,
   0x0001D0_000069_00030C, 0x0001D1_00004F_00030C, 0x0001D2_00006F_00030C, 0x0001D3_000055_00030C,
   0x0001D4_000075_00030C, 0x0001D5_0000DC_000304, 0x0001D6_0000FC_000304, 0x0001D7_0000DC_000301,
   0x0001D8_0000FC_000301, 0x0001D9_0000DC_00030C, 0x0001DA_0000FC_00030C, 0x0001DB_0000DC_000300,
   0x0001DC_0000FC_000300, 0x0001DE_0000C4_000304, 0x0001DF_0000E4_000304, 0x0001E0_000226_000304,
   0x0001E1_000227_000304, 0x0001E2_0000C6_000304, 0x0001E3_0000E6_000304, 0x0001E6_000047_00030C,
   0x0001E7_000067_00030C, 0x0001E8_00004B_00030C, 0x0001E9_00006B_00030C, 0x0001EA_00004F_000328,
   0x0001EB_00006F_000328, 0x0001EC_0001EA_000304, 0x0001ED_0001EB_000304, 0x0001EE_0001B7_00030C,
   0x0001EF_000292_00030C, 0x0001F0_00006A_00030C, 0x0001F4_000047_000301, 0x0001F5_000067_000301,
   0x0001F8_00004E_000300, 0x0001F9_00006E_000300, 0x0001FA_0000C5_000301, 0x0001FB_0000E5_000301,
   0x0001FC_0000C6_000301, 0x0001FD_0000E6_000301, 0x0001FE_0000D8_000301, 0x0001FF_0000F8_000301,
   0x000200_000041_00030F, 0x000201_000061_00030F, 0x000202_000041_000311, 0x000203_000061_000311,
   0x000204_000045_00030F, 0x000205_000065_00030F, 0x000206_000045_000311, 0x000207_000065_000311,
   0x000208_000049_00030F, 0x000209_000069_00030F, 0x00020A_000049_000311, 0x00020B_000069_000311,
   0x00020C_00004F_00030F, 0x00020D_00006F_00030F, 0x00020E_00004F_000311, 0x00020F_00006F_000311,
   0x000210_000052_00030F, 0x000211_000072_00030F, 0x000212_000052_000311, 0x000213_000072_000311,
   0x000214_000055_00030F, 0x000215_000075_00030F, 0x000216_000055_000311, 0x000217_000075_000311,
   0x000218_000053_000326, 0x000219_000073_000326, 0x00021A_000054_000326, 0x00021B_000074_000326,
   0x00021E_000048_00030C, 0x00021F_000068_00030C, 0x000226_000041_000307, 0x000227_000061_000307,
   0x000228_000045_000327, 0x000229_000065_000327, 0x00022A_0000D6_000304, 0x00022B_0000F6_000304,
   0x00022C_0000D5_000304, 0x00022D_0000F5_000304, 0x00022E_00004F_000307, 0x00022F_00006F_000307,
   0x000230_00022E_000304, 0x000231_00022F_000304, 0x000232_000059_000304, 0x000233_000079_000304,
   0x000385_0000A8_000301, 0x000386_000391_000301, 0x000388_000395_000301, 0x000389_000397_000301,
   0x00038A_000399_000301, 0x00038C_00039F_000301, 0x00038E_0003A5_000301, 0x00038F_0003A9_000301,
   0x000390_0003CA_000301, 0x0003AA_000399_000308, 0x0003AB_0003A5_000308, 0x0003AC_0003B1_000301,
   0x0003AD_0003B5_000301, 0x0003AE_0003B7_000301, 0x0003AF_0003B9_000301, 0x0003B0_0003CB_000301,
   0x0003CA_0003B9_000308, 0x0003CB_0003C5_000308, 0x0003CC_0003BF_000301, 0x0003CD_0003C5_000301,
   0x0003CE_0003C9_000301, 0x0003D3_0003D2_000301, 0x0003D4_0003D2_000308, 0x000400_000415_000300,
   0x000401_000415_000308, 0x000403_000413_000301, 0x000407_000406_000308, 0x00040C_00041A_000301,
   0x00040D_000418_000300, 0x00040E_000423_000306, 0x000419_000418_000306, 0x000439_000438_000306,
   0x000450_000435_000300, 0x000451_000435_000308, 0x000453_000433_000301, 0x000457_000456_000308,
   0x00045C_00043A_000301, 0x00045D_000438_000300, 0x00045E_000443_000306, 0x000476_000474_00030F,
   0x000477_000475_00030F, 0x0004C1_000416_000306, 0x0004C2_000436_000306, 0x0004D0_000410_000306,
   0x0004D1_000430_000306, 0x0004D2_000410_000308, 0x0004D3_000430_000308, 0x0004D6_000415_000306,
   0x0004D7_000435_000306, 0x0004DA_0004D8_000308, 0x0004DB_0004D9_000308, 0x0004DC_000416_000308,
   0x0004DD_000436_000308, 0x0004DE_000417_000308, 0x0004DF_000437_000308, 0x0004E2_000418_000304,
   0x0004E3_000438_000304, 0x0004E4_000418_000308, 0x0004E5_000438_000308, 0x0004E6_00041E_000308,
   0x0004E7_00043E_000308, 0x0004EA_0004E8_000308, 0x0004EB_0004E9_000308, 0x0004EC_00042D_000308,
   0x0004ED_00044D_000308, 0x0004EE_000423_000304, 0x0004EF_000443_000304, 0x0004F0_000423_000308,
   0x0004F1_000443_000308, 0x0004F2_000423_00030B, 0x0004F3_000443_00030B, 0x0004F4_000427_000308,
   0x0004F5_000447_000308, 0x0004F8_00042B_000308, 0x0004F9_00044B_000308, 0x000622_000627_000653,
   0x000623_000627_000654, 0x000624_000648_000654, 0x000625_000627_000655, 0x000626_00064A_000654,
   0x0006C0_0006D5_000654, 0x0006C2_0006C1_000654, 0x0006D3_0006D2_000654, 0x000929_000928_00093C,
   0x000931_000930_00093C, 0x000934_000933_00093C, 0x0009CB_0009C7_0009BE, 0x0009CC_0009C7_0009D7,
   0x000B48_000B47_000B56, 0x000B4B_000B47_000B3E, 0x000B4C_000B47_000B57, 0x000B94_000B92_000BD7,
   0x000BCA_000BC6_000BBE, 0x000BCB_000BC7_000BBE, 0x000BCC_000BC6_000BD7, 0x000C48_000C46_000C56,
   0x000CC0_000CBF_000CD5, 0x000CC7_000CC6_000CD5, 0x000CC8_000CC6_000CD6, 0x000CCA_000CC6_000CC2,
   0x000CCB_000CCA_000CD5, 0x000D4A_000D46_000D3E, 0x000D4B_000D47_000D3E, 0x000D4C_000D46_000D57,
   0x000DDA_000DD9_000DCA, 0x000DDC_000DD9_000DCF, 0x000DDD_000DDC_000DCA, 0x000DDE_000DD9_000DDF,
   0x001026_001025_00102E, 0x001B06_001B05_001B35, 0x001B08_001B07_001B35, 0x001B0A_001B09_001B35,
   0x001B0C_001B0B_001B35, 0x001B0E_001B0D_001B35, 0x001B12_001B11_001B35, 0x001B3B_001B3A_001B35,
   0x001B3D_001B3C_001B35, 0x001B40_001B3E_001B35, 0x001B41_001B3F_001B35, 0x001B43_001B42_001B35,
   0x001E00_000041_000325, 0x001E01_000061_000325, 0x001E02_000042_000307, 0x001E03_000062_000307,
   0x001E04_000042_000323, 0x001E05_000062_000323, 0x001E06_000042_000331, 0x001E07_000062_000331,
   0x001E08_0000C7_000301, 0x001E09_0000E7_000301, 0x001E0A_000044_000307, 0x001E0B_000064_000307,
   0x001E0C_000044_000323, 0x001E0D_000064_000323, 0x001E0E_000044_000331, 0x001E0F_000064_000331,
   0x001E10_000044_000327, 0x001E11_000064_000327, 0x001E12_000044_00032D, 0x001E13_000064_00032D,
   0x001E14_000112_000300, 0x001E15_000113_000300, 0x001E16_000112_000301, 0x001E17_000113_000301,
   0x001E18_000045_00032D, 0x001E19_000065_00032D, 0x001E1A_000045_000330, 0x001E1B_000065_000330,
   0x001E1C_000228_000306, 0x001E1D_000229_000306, 0x001E1E_000046_000307, 0x001E1F_000066_000307,
   0x001E20_000047_000304, 0x001E21_000067_000304, 0x001E22_000048_000307, 0x001E23_000068_000307,
   0x001E24_000048_000323, 0x001E25_000068_000323, 0x001E26_000048_000308, 0x001E27_000068_000308,
   0x001E28_000048_000327, 0x001E29_000068_000327, 0x001E2A_000048_00032E, 0x001E2B_000068_00032E,
   0x001E2C_000049_000330, 0x001E2D_000069_000330, 0x001E2E_0000CF_000301, 0x001E2F_0000EF_000301,
   0x001E30_00004B_000301, 0x001E31_00006B_000301, 0x001E32_00004B_000323, 0x001E33_00006B_000323,
   0x001E34_00004B_000331, 0x001E35_00006B_000331, 0x001E36_00004C_000323, 0x001E37_00006C_000323,
   0x001E38_001E36_000304, 0x001E39_001E37_000304, 0x001E3A_00004C_000331, 0x001E3B_00006C_000331,
   0x001E3C_00004C_00032D, 0x001E3D_00006C_00032D, 0x001E3E_00004D_000301, 0x001E3F_00006D_000301,
   0x001E40_00004D_000307, 0x001E41_00006D_000307, 0x001E42_00004D_000323, 0x001E43_00006D_000323,
   0x001E44_00004E_000307, 0x001E45_00006E_000307, 0x001E46_00004E_000323, 0x001E47_00006E_000323,
   0x001E48_00004E_000331, 0x001E49_00006E_000331, 0x001E4A_00004E_00032D, 0x001E4B_00006E_00032D,
   0x001E4C_0000D5_000301, 0x001E4D_0000F5_000301, 0x001E4E_0000D5_000308, 0x001E4F_0000F5_000308,
   0x001E50_00014C_000300, 0x001E51_00014D_000300, 0x001E52_00014C_000301, 0x001E53_00014D_000301,
   0x001E54_000050_000301, 0x001E55_000070_000301, 0x001E56_000050_000307, 0x001E57_000070_000307,
   0x001E58_000052_000307, 0x001E59_000072_000307, 0x001E5A_000052_000323, 0x001E5B_000072_000323,
   0x001E5C_001E5A_000304, 0x001E5D_001E5B_000304, 0x001E5E_000052_000331, 0x001E5F_000072_000331,
   0x001E60_000053_000307, 0x001E61_000073_000307, 0x001E62_000053_000323, 0x001E63_000073_000323,
   0x001E64_00015A_000307, 0x001E65_00015B_000307, 0x001E66_000160_000307, 0x001E67_000161_000307,
   0x001E68_001E62_000307, 0x001E69_001E63_000307, 0x001E6A_000054_000307, 0x001E6B_000074_000307,
   0x001E6C_000054_000323, 0x001E6D_000074_000323, 0x001E6E_000054_000331, 0x001E6F_000074_000331,
   0x001E70_000054_00032D, 0x001E71_000074_00032D, 0x001E72_000055_000324, 0x001E73_000075_000324,
   0x001E74_000055_000330, 0x001E75_000075_000330, 0x001E76_000055_00032D, 0x001E77_000075_00032D,
   0x001E78_000168_000301, 0x001E79_000169_000301, 0x001E7A_00016A_000308, 0x001E7B_00016B_000308,
   0x001E7C_000056_000303, 0x001E7D_000076_000303, 0x001E7E_000056_000323, 0x001E7F_000076_000323,
   0x001E80_000057_000300, 0x001E81_000077_000300, 0x001E82_000057_000301, 0x001E83_000077_000301,
   0x001E84_000057_000308, 0x001E85_000077_000308, 0x001E86_000057_000307, 0x001E87_000077_000307,
   0x001E88_000057_000323, 0x001E89_000077_000323, 0x001E8A_000058_000307, 0x001E8B_000078_000307,
   0x001E8C_000058_000308, 0x001E8D_000078_000308, 0x001E8E_000059_000307, 0x001E8F_000079_000307,
   0x001E90_00005A_000302, 0x001E91_00007A_000302, 0x001E92_00005A_000323, 0x001E93_00007A_000323,
   0x001E94_00005A_000331, 0x001E95_00007A_000331, 0x001E96_000068_000331, 0x001E97_000074_000308,
   0x001E98_000077_00030A, 0x001E99_000079_00030A, 0x001E9B_00017F_000307, 0x001EA0_000041_000323,
   0x001EA1_000061_000323, 0x001EA2_000041_000309, 0x001EA3_000061_000309, 0x001EA4_0000C2_000301,
   0x001EA5_0000E2_000301, 0x001EA6_0000C2_000300, 0x001EA7_0000E2_000300, 0x001EA8_0000C2_000309,
   0x001EA9_0000E2_000309, 0x001EAA_0000C2_000303, 0x001EAB_0000E2_000303, 0x001EAC_001EA0_000302,
   0x001EAD_001EA1_000302, 0x001EAE_000102_000301, 0x001EAF_000103_000301, 0x001EB0_000102_000300,
   0x001EB1_000103_000300, 0x001EB2_000102_000309, 0x001EB3_000103_000309, 0x001EB4_000102_000303,
   0x001EB5_000103_000303, 0x001EB6_001EA0_000306, 0x001EB7_001EA1_000306, 0x001EB8_000045_000323,
   0x001EB9_000065_000323, 0x001EBA_000045_000309, 0x001EBB_000065_000309, 0x001EBC_000045_000303,
   0x001EBD_000065_000303, 0x001EBE_0000CA_000301, 0x001EBF_0000EA_000301, 0x001EC0_0000CA_000300,
   0x001EC1_0000EA_000300, 0x001EC2_0000CA_000309, 0x001EC3_0000EA_000309, 0x001EC4_0000CA_000303,
   0x001EC5_0000EA_000303, 0x001EC6_001EB8_000302, 0x001EC7_001EB9_000302, 0x001EC8_000049_000309,
   0x001EC9_000069_000309, 0x001ECA_000049_000323, 0x001ECB_000069_000323, 0x001ECC_00004F_000323,
   0x001ECD_00006F_000323, 0x001ECE_00004F_000309, 0x001ECF_00006F_000309, 0x001ED0_0000D4_000301,
   0x001ED1_0000F4_000301, 0x001ED2_0000D4_000300, 0x001ED3_0000F4_000300, 0x001ED4_0000D4_000309,
   0x001ED5_0000F4_000309, 0x001ED6_0000D4_000303, 0x001ED7_0000F4_000303, 0x001ED8_001ECC_000302,
   0x001ED9_001ECD_000302, 0x001EDA_0001A0_000301, 0x001EDB_0001A1_000301, 0x001EDC_0001A0_000300,
   0x001EDD_0001A1_000300, 0x001EDE_0001A0_000309, 0x001EDF_0001A1_000309, 0x001EE0_0001A0_000303,
   0x001EE1_0001A1_000303, 0x001EE2_0001A0_000323, 0x001EE3_0001A1_000323, 0x001EE4_000055_000323,
   0x001EE5_000075_000323, 0x001EE6_000055_000309, 0x001EE7_000075_000309, 0x001EE8_0001AF_000301,
   0x001EE9_0001B0_000301, 0x001EEA_0001AF_000300, 0x001EEB_0001B0_000300, 0x001EEC_0001AF_000309,
   0x001EED_0001B0_000309, 0x001EEE_0001AF_000303, 0x001EEF_0001B0_000303, 0x001EF0_0001AF_000323,
   0x001EF1_0001B0_000323, 0x001EF2_000059_000300, 0x001EF3_000079_000300, 0x001EF4_000059_000323,
   0x001EF5_000079_000323, 0x001EF6_000059_000309, 0x001EF7_000079_000309, 0x001EF8_000059_000303,
   0x001EF9_000079_000303, 0x001F00_0003B1_000313, 0x001F01_0003B1_000314, 0x001F02_001F00_000300,
   0x001F03_001F01_000300, 0x001F04_001F00_000301, 0x001F05_001F01_000301, 0x001F06_001F00_000342,
   0x001F07_001F01_000342, 0x001F08_000391_000313, 0x001F09_000391_000314, 0x001F0A_001F08_000300,
   0x001F0B_001F09_000300, 0x001F0C_001F08_000301, 0x001F0D_001F09_000301, 0x001F0E_001F08_000342,
   0x001F0F_001F09_000342, 0x001F10_0003B5_000313, 0x001F11_0003B5_000314, 0x001F12_001F10_000300,
   0x001F13_001F11_000300, 0x001F14_001F10_000301, 0x001F15_001F11_000301, 0x001F18_000395_000313,
   0x001F19_000395_000314, 0x001F1A_001F18_000300, 0x001F1B_001F19_000300, 0x001F1C_001F18_000301,
   0x001F1D_001F19_000301, 0x001F20_0003B7_000313, 0x001F21_0003B7_000314, 0x001F22_001F20_000300,
   0x001F23_001F21_000300, 0x001F24_001F20_000301, 0x001F25_001F21_000301, 0x001F26_001F20_000342,
   0x001F27_001F21_000342, 0x001F28_000397_000313, 0x001F29_000397_000314, 0x001F2A_001F28_000300,
   0x001F2B_001F29_000300, 0x001F2C_001F28_000301, 0x001F2D_001F29_000301, 0x001F2E_001F28_000342,
   0x001F2F_001F29_000342, 0x001F30_0003B9_000313, 0x001F31_0003B9_000314, 0x001F32_001F30_000300,
   0x001F33_001F31_000300, 0x001F34_001F30_000301, 0x001F35_001F31_000301, 0x001F36_001F30_000342,
   0x001F37_001F31_000342, 0x001F38_000399_000313, 0x001F39_000399_000314, 0x001F3A_001F38_000300,
   0x001F3B_001F39_000300, 0x001F3C_001F38_000301, 0x001F3D_001F39_000301, 0x001F3E_001F38_000342,
   0x001F3F_001F39_000342, 0x001F40_0003BF_000313, 0x001F41_0003BF_000314, 0x001F42_001F40_000300,
   0x001F43_001F41_000300, 0x001F44_001F40_000301, 0x001F45_001F41_000301, 0x001F48_00039F_000313,
   0x001F49_00039F_000314, 0x001F4A_001F48_000300, 0x001F4B_001F49_000300, 0x001F4C_001F48_000301,
   0x001F4D_001F49_000301, 0x001F50_0003C5_000313, 0x001F51_0003C5_000314, 0x001F52_001F50_000300,
   0x001F53_001F51_000300, 0x001F54_001F50_000301, 0x001F55_001F51_000301, 0x001F56_001F50_000342,
   0x001F57_001F51_000342, 0x001F59_0003A5_000314, 0x001F5B_001F59_000300, 0x001F5D_001F59_000301,
   0x001F5F_001F59_000342, 0x001F60_0003C9_000313, 0x001F61_0003C9_000314, 0x001F62_001F60_000300,
   0x001F63_001F61_000300, 0x001F64_001F60_000301, 0x001F65_001F61_000301, 0x001F66_001F60_000342,
   0x001F67_001F61_000342, 0x001F68_0003A9_000313, 0x001F69_0003A9_000314, 0x001F6A_001F68_000300,
   0x001F6B_001F69_000300, 0x001F6C_001F68_000301, 0x001F6D_001F69_000301, 0x001F6E_001F68_000342,
   0x001F6F_001F69_000342, 0x001F70_0003B1_000300, 0x001F72_0003B5_000300, 0x001F74_0003B7_000300,
   0x001F76_0003B9_000300, 0x001F78_0003BF_000300, 0x001F7A_0003C5_000300, 0x001F7C_0003C9_000300,
   0x001F80_001F00_000345, 0x001F81_001F01_000345, 0x001F82_001F02_000345, 0x001F83_001F03_000345,
   0x001F84_001F04_000345, 0x001F85_001F05_000345, 0x001F86_001F06_000345, 0x001F87_001F07_000345,
   0x001F88_001F08_000345, 0x001F89_001F09_000345, 0x001F8A_001F0A_000345, 0x001F8B_001F0B_000345,
   0x001F8C_001F0C_000345, 0x001F8D_001F0D_000345, 0x001F8E_001F0E_000345, 0x001F8F_001F0F_000345,
   0x001F90_001F20_000345, 0x001F91_001F21_000345, 0x001F92_001F22_000345, 0x001F93_001F23_000345,
   0x001F94_001F24_000345, 0x001F95_001F25_000345, 0x001F96_001F26_000345, 0x001F97_001F27_000345,
   0x001F98_001F28_000345, 0x001F99_001F29_000345, 0x001F9A_001F2A_000345, 0x001F9B_001F2B_000345,
   0x001F9C_001F2C_000345, 0x001F9D_001F2D_000345, 0x001F9E_001F2E_000345, 0x001F9F_001F2F_000345,
   0x001FA0_001F60_000345, 0x001FA1_001F61_000345, 0x001FA2_001F62_000345, 0x001FA3_001F63_000345,
   0x001FA4_001F64_000345, 0x001FA5_001F65_000345, 0x001FA6_001F66_000345, 0x001FA7_001F67_000345,
   0x001FA8_001F68_000345, 0x001FA9_001F69_000345, 0x001FAA_001F6A_000345, 0x001FAB_001F6B_000345,
   0x001FAC_001F6C_000345, 0x001FAD_001F6D_000345, 0x001FAE_001F6E_000345, 0x001FAF_001F6F_000345,
   0x001FB0_0003B1_000306, 0x001FB1_0003B1_000304, 0x001FB2_001F70_000345, 0x001FB3_0003B1_000345,
   0x001FB4_0003AC_000345, 0x001FB6_0003B1_000342, 0x001FB7_001FB6_000345, 0x001FB8_000391_000306,
   0x001FB9_000391_000304, 0x001FBA_000391_000300, 0x001FBC_000391_000345, 0x001FC1_0000A8_000342,
   0x001FC2_001F74_000345, 0x001FC3_0003B7_000345, 0x001FC4_0003AE_000345, 0x001FC6_0003B7_000342,
   0x001FC7_001FC6_000345, 0x001FC8_000395_000300, 0x001FCA_000397_000300, 0x001FCC_000397_000345,
   0x001FCD_001FBF_000300, 0x001FCE_001FBF_000301, 0x001FCF_001FBF_000342, 0x001FD0_0003B9_000306,
   0x001FD1_0003B9_000304, 0x001FD2_0003CA_000300, 0x001FD6_0003B9_000342, 0x001FD7_0003CA_000342,
   0x001FD8_000399_000306, 0x001FD9_000399_000304, 0x001FDA_000399_000300, 0x001FDD_001FFE_000300,
   0x001FDE_001FFE_000301, 0x001FDF_001FFE_000342, 0x001FE0_0003C5_000306, 0x001FE1_0003C5_000304,
   0x001FE2_0003CB_000300, 0x001FE4_0003C1_000313, 0x001FE5_0003C1_000314, 0x001FE6_0003C5_000342,
   0x001FE7_0003CB_000342, 0x001FE8_0003A5_000306, 0x001FE9_0003A5_000304, 0x001FEA_0003A5_000300,
   0x001FEC_0003A1_000314, 0x001FED_0000A8_000300, 0x001FF2_001F7C_000345, 0x001FF3_0003C9_000345,
   0x001FF4_0003CE_000345, 0x001FF6_0003C9_000342, 0x001FF7_001FF6_000345, 0x001FF8_00039F_000300,
   0x001FFA_0003A9_000300, 0x001FFC_0003A9_000345, 0x00219A_002190_000338, 0x00219B_002192_000338,
   0x0021AE_002194_000338, 0x0021CD_0021D0_000338, 0x0021CE_0021D4_000338, 0x0021CF_0021D2_000338,
   0x002204_002203_000338, 0x002209_002208_000338, 0x00220C_00220B_000338, 0x002224_002223_000338,
   0x002226_002225_000338, 0x002241_00223C_000338, 0x002244_002243_000338, 0x002247_002245_000338,
   0x002249_002248_000338, 0x002260_00003D_000338, 0x002262_002261_000338, 0x00226D_00224D_000338,
   0x00226E_00003C_000338, 0x00226F_00003E_000338, 0x002270_002264_000338, 0x002271_002265_000338,
   0x002274_002272_000338, 0x002275_002273_000338, 0x002278_002276_000338, 0x002279_002277_000338,
   0x002280_00227A_000338, 0x002281_00227B_000338, 0x002284_002282_000338, 0x002285_002283_000338,
   0x002288_002286_000338, 0x002289_002287_000338, 0x0022AC_0022A2_000338, 0x0022AD_0022A8_000338,
   0x0022AE_0022A9_000338, 0x0022AF_0022AB_000338, 0x0022E0_00227C_000338, 0x0022E1_00227D_000338,
   0x0022E2_002291_000338, 0x0022E3_002292_000338, 0x0022EA_0022B2_000338, 0x0022EB_0022B3_000338,
   0x0022EC_0022B4_000338, 0x0022ED_0022B5_000338, 0x00304C_00304B_003099, 0x00304E_00304D_003099,
   0x003050_00304F_003099, 0x003052_003051_003099, 0x003054_003053_003099, 0x003056_003055_003099,
   0x003058_003057_003099, 0x00305A_003059_003099, 0x00305C_00305B_003099, 0x00305E_00305D_003099,
   0x003060_00305F_003099, 0x003062_003061_003099, 0x003065_003064_003099, 0x003067_003066_003099,
   0x003069_003068_003099, 0x003070_00306F_003099, 0x003071_00306F_00309A, 0x003073_003072_003099,
   0x003074_003072_00309A, 0x003076_003075_003099, 0x003077_003075_00309A, 0x003079_003078_003099,
   0x00307A_003078_00309A, 0x00307C_00307B_003099, 0x00307D_00307B_00309A, 0x003094_003046_003099,
   0x00309E_00309D_003099, 0x0030AC_0030AB_003099, 0x0030AE_0030AD_003099, 0x0030B0_0030AF_003099,
   0x0030B2_0030B1_003099, 0x0030B4_0030B3_003099, 0x0030B6_0030B5_003099, 0x0030B8_0030B7_003099,
   0x0030BA_0030B9_003099, 0x0030BC_0030BB_003099, 0x0030BE_0030BD_003099, 0x0030C0_0030BF_003099,
   0x0030C2_0030C1_003099, 0x0030C5_0030C4_003099, 0x0030C7_0030C6_003099, 0x0030C9_0030C8_003099,
   0x0030D0_0030CF_003099, 0x0030D1_0030CF_00309A, 0x0030D3_0030D2_003099, 0x0030D4_0030D2_00309A,
   0x0030D6_0030D5_003099, 0x0030D7_0030D5_00309A, 0x0030D9_0030D8_003099, 0x0030DA_0030D8_00309A,
   0x0030DC_0030DB_003099, 0x0030DD_0030DB_00309A, 0x0030F4_0030A6_003099, 0x0030F7_0030EF_003099,
   0x0030F8_0030F0_003099, 0x0030F9_0030F1_003099, 0x0030FA_0030F2_003099, 0x0030FE_0030FD_003099,
   0x0105C9_0105D2_000307, 0x0105E4_0105DA_000307, 0x01109A_011099_0110BA, 0x01109C_01109B_0110BA,
   0x0110AB_0110A5_0110BA, 0x01112E_011131_011127, 0x01112F_011132_011127, 0x01134B_011347_01133E,
   0x01134C_011347_011357, 0x011383_011382_0113C9, 0x011385_011384_0113BB, 0x01138E_01138B_0113C2,
   0x011391_011390_0113C9, 0x0113C5_0113C2_0113C2, 0x0113C7_0113C2_0113B8, 0x0113C8_0113C2_0113C9,
   0x0114BB_0114B9_0114BA, 0x0114BC_0114B9_0114B0, 0x0114BE_0114B9_0114BD, 0x0115BA_0115B8_0115AF,
   0x0115BB_0115B9_0115AF, 0x011938_011935_011930, 0x016121_01611E_01611E, 0x016122_01611E_016129,
   0x016123_01611E_01611F, 0x016124_016129_01611F, 0x016125_01611E_016120, 0x016126_016121_01611F,
   0x016127_016122_01611F, 0x016128_016121_016120, 0x016D68_016D67_016D67, 0x016D69_016D63_016D67,
   0x016D6A_016D69_016D67]

/-- The characters that are the same as others, and that no text in normal form has: each is
followed by the others. -/
def replacedNumerals : List Nat :=
  [0x000340_000300, 0x000341_000301, 0x000343_000313, 0x000344_000308_000301, 0x000374_0002B9,
   0x00037E_00003B, 0x000387_0000B7, 0x000958_000915_00093C, 0x000959_000916_00093C,
   0x00095A_000917_00093C, 0x00095B_00091C_00093C, 0x00095C_000921_00093C, 0x00095D_000922_00093C,
   0x00095E_00092B_00093C, 0x00095F_00092F_00093C, 0x0009DC_0009A1_0009BC, 0x0009DD_0009A2_0009BC,
   0x0009DF_0009AF_0009BC, 0x000A33_000A32_000A3C, 0x000A36_000A38_000A3C, 0x000A59_000A16_000A3C,
   0x000A5A_000A17_000A3C, 0x000A5B_000A1C_000A3C, 0x000A5E_000A2B_000A3C, 0x000B5C_000B21_000B3C,
   0x000B5D_000B22_000B3C, 0x000F43_000F42_000FB7, 0x000F4D_000F4C_000FB7, 0x000F52_000F51_000FB7,
   0x000F57_000F56_000FB7, 0x000F5C_000F5B_000FB7, 0x000F69_000F40_000FB5, 0x000F73_000F71_000F72,
   0x000F75_000F71_000F74, 0x000F76_000FB2_000F80, 0x000F78_000FB3_000F80, 0x000F81_000F71_000F80,
   0x000F93_000F92_000FB7, 0x000F9D_000F9C_000FB7, 0x000FA2_000FA1_000FB7, 0x000FA7_000FA6_000FB7,
   0x000FAC_000FAB_000FB7, 0x000FB9_000F90_000FB5, 0x001F71_0003B1_000301, 0x001F73_0003B5_000301,
   0x001F75_0003B7_000301, 0x001F77_0003B9_000301, 0x001F79_0003BF_000301, 0x001F7B_0003C5_000301,
   0x001F7D_0003C9_000301, 0x001FBB_000391_000301, 0x001FBE_0003B9, 0x001FC9_000395_000301,
   0x001FCB_000397_000301, 0x001FD3_0003B9_000308_000301, 0x001FDB_000399_000301,
   0x001FE3_0003C5_000308_000301, 0x001FEB_0003A5_000301, 0x001FEE_0000A8_000301, 0x001FEF_000060,
   0x001FF9_00039F_000301, 0x001FFB_0003A9_000301, 0x001FFD_0000B4, 0x002000_002002,
   0x002001_002003, 0x002126_0003A9, 0x00212A_00004B, 0x00212B_000041_00030A, 0x002329_003008,
   0x00232A_003009, 0x002ADC_002ADD_000338, 0x00FB1D_0005D9_0005B4, 0x00FB1F_0005F2_0005B7,
   0x00FB2A_0005E9_0005C1, 0x00FB2B_0005E9_0005C2, 0x00FB2C_0005E9_0005BC_0005C1,
   0x00FB2D_0005E9_0005BC_0005C2, 0x00FB2E_0005D0_0005B7, 0x00FB2F_0005D0_0005B8,
   0x00FB30_0005D0_0005BC, 0x00FB31_0005D1_0005BC, 0x00FB32_0005D2_0005BC, 0x00FB33_0005D3_0005BC,
   0x00FB34_0005D4_0005BC, 0x00FB35_0005D5_0005BC, 0x00FB36_0005D6_0005BC, 0x00FB38_0005D8_0005BC,
   0x00FB39_0005D9_0005BC, 0x00FB3A_0005DA_0005BC, 0x00FB3B_0005DB_0005BC, 0x00FB3C_0005DC_0005BC,
   0x00FB3E_0005DE_0005BC, 0x00FB40_0005E0_0005BC, 0x00FB41_0005E1_0005BC, 0x00FB43_0005E3_0005BC,
   0x00FB44_0005E4_0005BC, 0x00FB46_0005E6_0005BC, 0x00FB47_0005E7_0005BC, 0x00FB48_0005E8_0005BC,
   0x00FB49_0005E9_0005BC, 0x00FB4A_0005EA_0005BC, 0x00FB4B_0005D5_0005B9, 0x00FB4C_0005D1_0005BF,
   0x00FB4D_0005DB_0005BF, 0x00FB4E_0005E4_0005BF, 0x01D15E_01D157_01D165, 0x01D15F_01D158_01D165,
   0x01D160_01D158_01D165_01D16E, 0x01D161_01D158_01D165_01D16F, 0x01D162_01D158_01D165_01D170,
   0x01D163_01D158_01D165_01D171, 0x01D164_01D158_01D165_01D172, 0x01D1BB_01D1B9_01D165,
   0x01D1BC_01D1BA_01D165, 0x01D1BD_01D1B9_01D165_01D16E, 0x01D1BE_01D1BA_01D165_01D16E,
   0x01D1BF_01D1B9_01D165_01D16F, 0x01D1C0_01D1BA_01D165_01D16F]

/-- The ideographs that are the same as others: the first of a series, and what each of the series
is. -/
def repeatedIdeographs : List (Nat × List Nat) :=
  [(0xF900,
    [0x8C48, 0x66F4, 0x8ECA, 0x8CC8, 0x6ED1, 0x4E32, 0x53E5, 0x9F9C, 0x9F9C, 0x5951, 0x91D1,
     0x5587, 0x5948, 0x61F6, 0x7669, 0x7F85, 0x863F, 0x87BA, 0x88F8, 0x908F, 0x6A02, 0x6D1B,
     0x70D9, 0x73DE, 0x843D, 0x916A, 0x99F1, 0x4E82, 0x5375, 0x6B04, 0x721B, 0x862D, 0x9E1E,
     0x5D50, 0x6FEB, 0x85CD, 0x8964, 0x62C9, 0x81D8, 0x881F, 0x5ECA, 0x6717, 0x6D6A, 0x72FC,
     0x90CE, 0x4F86, 0x51B7, 0x52DE, 0x64C4, 0x6AD3, 0x7210, 0x76E7, 0x8001, 0x8606, 0x865C,
     0x8DEF, 0x9732, 0x9B6F, 0x9DFA, 0x788C, 0x797F, 0x7DA0, 0x83C9, 0x9304, 0x9E7F, 0x8AD6,
     0x58DF, 0x5F04, 0x7C60, 0x807E, 0x7262, 0x78CA, 0x8CC2, 0x96F7, 0x58D8, 0x5C62, 0x6A13,
     0x6DDA, 0x6F0F, 0x7D2F, 0x7E37, 0x964B, 0x52D2, 0x808B, 0x51DC, 0x51CC, 0x7A1C, 0x7DBE,
     0x83F1, 0x9675, 0x8B80, 0x62CF, 0x6A02, 0x8AFE, 0x4E39, 0x5BE7, 0x6012, 0x7387, 0x7570,
     0x5317, 0x78FB, 0x4FBF, 0x5FA9, 0x4E0D, 0x6CCC, 0x6578, 0x7D22, 0x53C3, 0x585E, 0x7701,
     0x8449, 0x8AAA, 0x6BBA, 0x8FB0, 0x6C88, 0x62FE, 0x82E5, 0x63A0, 0x7565, 0x4EAE, 0x5169,
     0x51C9, 0x6881, 0x7CE7, 0x826F, 0x8AD2, 0x91CF, 0x52F5, 0x5442, 0x5973, 0x5EEC, 0x65C5,
     0x6FFE, 0x792A, 0x95AD, 0x9A6A, 0x9E97, 0x9ECE, 0x529B, 0x66C6, 0x6B77, 0x8F62, 0x5E74,
     0x6190, 0x6200, 0x649A, 0x6F23, 0x7149, 0x7489, 0x79CA, 0x7DF4, 0x806F, 0x8F26, 0x84EE,
     0x9023, 0x934A, 0x5217, 0x52A3, 0x54BD, 0x70C8, 0x88C2, 0x8AAA, 0x5EC9, 0x5FF5, 0x637B,
     0x6BAE, 0x7C3E, 0x7375, 0x4EE4, 0x56F9, 0x5BE7, 0x5DBA, 0x601C, 0x73B2, 0x7469, 0x7F9A,
     0x8046, 0x9234, 0x96F6, 0x9748, 0x9818, 0x4F8B, 0x79AE, 0x91B4, 0x96B8, 0x60E1, 0x4E86,
     0x50DA, 0x5BEE, 0x5C3F, 0x6599, 0x6A02, 0x71CE, 0x7642, 0x84FC, 0x907C, 0x9F8D, 0x6688,
     0x962E, 0x5289, 0x677B, 0x67F3, 0x6D41, 0x6E9C, 0x7409, 0x7559, 0x786B, 0x7D10, 0x985E,
     0x516D, 0x622E, 0x9678, 0x502B, 0x5D19, 0x6DEA, 0x8F2A, 0x5F8B, 0x6144, 0x6817, 0x7387,
     0x9686, 0x5229, 0x540F, 0x5C65, 0x6613, 0x674E, 0x68A8, 0x6CE5, 0x7406, 0x75E2, 0x7F79,
     0x88CF, 0x88E1, 0x91CC, 0x96E2, 0x533F, 0x6EBA, 0x541D, 0x71D0, 0x7498, 0x85FA, 0x96A3,
     0x9C57, 0x9E9F, 0x6797, 0x6DCB, 0x81E8, 0x7ACB, 0x7B20, 0x7C92, 0x72C0, 0x7099, 0x8B58,
     0x4EC0, 0x8336, 0x523A, 0x5207, 0x5EA6, 0x62D3, 0x7CD6, 0x5B85, 0x6D1E, 0x66B4, 0x8F3B,
     0x884C, 0x964D, 0x898B, 0x5ED3, 0x5140, 0x55C0]),
   (0xFA10, [0x585A]),
   (0xFA12, [0x6674]),
   (0xFA15,
    [0x51DE, 0x732A, 0x76CA, 0x793C, 0x795E, 0x7965, 0x798F, 0x9756, 0x7CBE, 0x7FBD]),
   (0xFA20, [0x8612]),
   (0xFA22, [0x8AF8]),
   (0xFA25, [0x9038, 0x90FD]),
   (0xFA2A,
    [0x98EF, 0x98FC, 0x9928, 0x9DB4, 0x90DE, 0x96B7, 0x4FAE, 0x50E7, 0x514D, 0x52C9, 0x52E4,
     0x5351, 0x559D, 0x5606, 0x5668, 0x5840, 0x58A8, 0x5C64, 0x5C6E, 0x6094, 0x6168, 0x618E,
     0x61F2, 0x654F, 0x65E2, 0x6691, 0x6885, 0x6D77, 0x6E1A, 0x6F22, 0x716E, 0x722B, 0x7422,
     0x7891, 0x793E, 0x7949, 0x7948, 0x7950, 0x7956, 0x795D, 0x798D, 0x798E, 0x7A40, 0x7A81,
     0x7BC0, 0x7DF4, 0x7E09, 0x7E41, 0x7F72, 0x8005, 0x81ED, 0x8279, 0x8279, 0x8457, 0x8910,
     0x8996, 0x8B01, 0x8B39, 0x8CD3, 0x8D08, 0x8FB6, 0x9038, 0x96E3, 0x97FF, 0x983B, 0x6075,
     0x242EE, 0x8218]),
   (0xFA70,
    [0x4E26, 0x51B5, 0x5168, 0x4F80, 0x5145, 0x5180, 0x52C7, 0x52FA, 0x559D, 0x5555, 0x5599,
     0x55E2, 0x585A, 0x58B3, 0x5944, 0x5954, 0x5A62, 0x5B28, 0x5ED2, 0x5ED9, 0x5F69, 0x5FAD,
     0x60D8, 0x614E, 0x6108, 0x618E, 0x6160, 0x61F2, 0x6234, 0x63C4, 0x641C, 0x6452, 0x6556,
     0x6674, 0x6717, 0x671B, 0x6756, 0x6B79, 0x6BBA, 0x6D41, 0x6EDB, 0x6ECB, 0x6F22, 0x701E,
     0x716E, 0x77A7, 0x7235, 0x72AF, 0x732A, 0x7471, 0x7506, 0x753B, 0x761D, 0x761F, 0x76CA,
     0x76DB, 0x76F4, 0x774A, 0x7740, 0x78CC, 0x7AB1, 0x7BC0, 0x7C7B, 0x7D5B, 0x7DF4, 0x7F3E,
     0x8005, 0x8352, 0x83EF, 0x8779, 0x8941, 0x8986, 0x8996, 0x8ABF, 0x8AF8, 0x8ACB, 0x8B01,
     0x8AFE, 0x8AED, 0x8B39, 0x8B8A, 0x8D08, 0x8F38, 0x9072, 0x9199, 0x9276, 0x967C, 0x96E3,
     0x9756, 0x97DB, 0x97FF, 0x980B, 0x983B, 0x9B12, 0x9F9C, 0x2284A, 0x22844, 0x233D5, 0x3B9D,
     0x4018, 0x4039, 0x25249, 0x25CD0, 0x27ED3, 0x9F43, 0x9F8E]),
   (0x2F800,
    [0x4E3D, 0x4E38, 0x4E41, 0x20122, 0x4F60, 0x4FAE, 0x4FBB, 0x5002, 0x507A, 0x5099, 0x50E7,
     0x50CF, 0x349E, 0x2063A, 0x514D, 0x5154, 0x5164, 0x5177, 0x2051C, 0x34B9, 0x5167, 0x518D,
     0x2054B, 0x5197, 0x51A4, 0x4ECC, 0x51AC, 0x51B5, 0x291DF, 0x51F5, 0x5203, 0x34DF, 0x523B,
     0x5246, 0x5272, 0x5277, 0x3515, 0x52C7, 0x52C9, 0x52E4, 0x52FA, 0x5305, 0x5306, 0x5317,
     0x5349, 0x5351, 0x535A, 0x5373, 0x537D, 0x537F, 0x537F, 0x537F, 0x20A2C, 0x7070, 0x53CA,
     0x53DF, 0x20B63, 0x53EB, 0x53F1, 0x5406, 0x549E, 0x5438, 0x5448, 0x5468, 0x54A2, 0x54F6,
     0x5510, 0x5553, 0x5563, 0x5584, 0x5584, 0x5599, 0x55AB, 0x55B3, 0x55C2, 0x5716, 0x5606,
     0x5717, 0x5651, 0x5674, 0x5207, 0x58EE, 0x57CE, 0x57F4, 0x580D, 0x578B, 0x5832, 0x5831,
     0x58AC, 0x214E4, 0x58F2, 0x58F7, 0x5906, 0x591A, 0x5922, 0x5962, 0x216A8, 0x216EA, 0x59EC,
     0x5A1B, 0x5A27, 0x59D8, 0x5A66, 0x36EE, 0x36FC, 0x5B08, 0x5B3E, 0x5B3E, 0x219C8, 0x5BC3,
     0x5BD8, 0x5BE7, 0x5BF3, 0x21B18, 0x5BFF, 0x5C06, 0x5F53, 0x5C22, 0x3781, 0x5C60, 0x5C6E,
     0x5CC0, 0x5C8D, 0x21DE4, 0x5D43, 0x21DE6, 0x5D6E, 0x5D6B, 0x5D7C, 0x5DE1, 0x5DE2, 0x382F,
     0x5DFD, 0x5E28, 0x5E3D, 0x5E69, 0x3862, 0x22183, 0x387C, 0x5EB0, 0x5EB3, 0x5EB6, 0x5ECA,
     0x2A392, 0x5EFE, 0x22331, 0x22331, 0x8201, 0x5F22, 0x5F22, 0x38C7, 0x232B8, 0x261DA, 0x5F62,
     0x5F6B, 0x38E3, 0x5F9A, 0x5FCD, 0x5FD7, 0x5FF9, 0x6081, 0x393A, 0x391C, 0x6094, 0x226D4,
     0x60C7, 0x6148, 0x614C, 0x614E, 0x614C, 0x617A, 0x618E, 0x61B2, 0x61A4, 0x61AF, 0x61DE,
     0x61F2, 0x61F6, 0x6210, 0x621B, 0x625D, 0x62B1, 0x62D4, 0x6350, 0x22B0C, 0x633D, 0x62FC,
     0x6368, 0x6383, 0x63E4, 0x22BF1, 0x6422, 0x63C5, 0x63A9, 0x3A2E, 0x6469, 0x647E, 0x649D,
     0x6477, 0x3A6C, 0x654F, 0x656C, 0x2300A, 0x65E3, 0x66F8, 0x6649, 0x3B19, 0x6691, 0x3B08,
     0x3AE4, 0x5192, 0x5195, 0x6700, 0x669C, 0x80AD, 0x43D9, 0x6717, 0x671B, 0x6721, 0x675E,
     0x6753, 0x233C3, 0x3B49, 0x67FA, 0x6785, 0x6852, 0x6885, 0x2346D, 0x688E, 0x681F, 0x6914,
     0x3B9D, 0x6942, 0x69A3, 0x69EA, 0x6AA8, 0x236A3, 0x6ADB, 0x3C18, 0x6B21, 0x238A7, 0x6B54,
     0x3C4E, 0x6B72, 0x6B9F, 0x6BBA, 0x6BBB, 0x23A8D, 0x21D0B, 0x23AFA, 0x6C4E, 0x23CBC, 0x6CBF,
     0x6CCD, 0x6C67, 0x6D16, 0x6D3E, 0x6D77, 0x6D41, 0x6D69, 0x6D78, 0x6D85, 0x23D1E, 0x6D34,
     0x6E2F, 0x6E6E, 0x3D33, 0x6ECB, 0x6EC7, 0x23ED1, 0x6DF9, 0x6F6E, 0x23F5E, 0x23F8E, 0x6FC6,
     0x7039, 0x701E, 0x701B, 0x3D96, 0x704A, 0x707D, 0x7077, 0x70AD, 0x20525, 0x7145, 0x24263,
     0x719C, 0x243AB, 0x7228, 0x7235, 0x7250, 0x24608, 0x7280, 0x7295, 0x24735, 0x24814, 0x737A,
     0x738B, 0x3EAC, 0x73A5, 0x3EB8, 0x3EB8, 0x7447, 0x745C, 0x7471, 0x7485, 0x74CA, 0x3F1B,
     0x7524, 0x24C36, 0x753E, 0x24C92, 0x7570, 0x2219F, 0x7610, 0x24FA1, 0x24FB8, 0x25044, 0x3FFC,
     0x4008, 0x76F4, 0x250F3, 0x250F2, 0x25119, 0x25133, 0x771E, 0x771F, 0x771F, 0x774A, 0x4039,
     0x778B, 0x4046, 0x4096, 0x2541D, 0x784E, 0x788C, 0x78CC, 0x40E3, 0x25626, 0x7956, 0x2569A,
     0x256C5, 0x798F, 0x79EB, 0x412F, 0x7A40, 0x7A4A, 0x7A4F, 0x2597C, 0x25AA7, 0x25AA7, 0x7AEE,
     0x4202, 0x25BAB, 0x7BC6, 0x7BC9, 0x4227, 0x25C80, 0x7CD2, 0x42A0, 0x7CE8, 0x7CE3, 0x7D00,
     0x25F86, 0x7D63, 0x4301, 0x7DC7, 0x7E02, 0x7E45, 0x4334, 0x26228, 0x26247, 0x4359, 0x262D9,
     0x7F7A, 0x2633E, 0x7F95, 0x7FFA, 0x8005, 0x264DA, 0x26523, 0x8060, 0x265A8, 0x8070, 0x2335F,
     0x43D5, 0x80B2, 0x8103, 0x440B, 0x813E, 0x5AB5, 0x267A7, 0x267B5, 0x23393, 0x2339C, 0x8201,
     0x8204, 0x8F9E, 0x446B, 0x8291, 0x828B, 0x829D, 0x52B3, 0x82B1, 0x82B3, 0x82BD, 0x82E6,
     0x26B3C, 0x82E5, 0x831D, 0x8363, 0x83AD, 0x8323, 0x83BD, 0x83E7, 0x8457, 0x8353, 0x83CA,
     0x83CC, 0x83DC, 0x26C36, 0x26D6B, 0x26CD5, 0x452B, 0x84F1, 0x84F3, 0x8516, 0x273CA, 0x8564,
     0x26F2C, 0x455D, 0x4561, 0x26FB1, 0x270D2, 0x456B, 0x8650, 0x865C, 0x8667, 0x8669, 0x86A9,
     0x8688, 0x870E, 0x86E2, 0x8779, 0x8728, 0x876B, 0x8786, 0x45D7, 0x87E1, 0x8801, 0x45F9,
     0x8860, 0x8863, 0x27667, 0x88D7, 0x88DE, 0x4635, 0x88FA, 0x34BB, 0x278AE, 0x27966, 0x46BE,
     0x46C7, 0x8AA0, 0x8AED, 0x8B8A, 0x8C55, 0x27CA8, 0x8CAB, 0x8CC1, 0x8D1B, 0x8D77, 0x27F2F,
     0x20804, 0x8DCB, 0x8DBC, 0x8DF0, 0x208DE, 0x8ED4, 0x8F38, 0x285D2, 0x285ED, 0x9094, 0x90F1,
     0x9111, 0x2872E, 0x911B, 0x9238, 0x92D7, 0x92D8, 0x927C, 0x93F9, 0x9415, 0x28BFA, 0x958B,
     0x4995, 0x95B7, 0x28D77, 0x49E6, 0x96C3, 0x5DB2, 0x9723, 0x29145, 0x2921A, 0x4A6E, 0x4A76,
     0x97E0, 0x2940A, 0x4AB2, 0x29496, 0x980B, 0x980B, 0x9829, 0x295B6, 0x98E2, 0x4B33, 0x9929,
     0x99A7, 0x99C2, 0x99FE, 0x4BCE, 0x29B30, 0x9B12, 0x9C40, 0x9CFD, 0x4CCE, 0x4CED, 0x9D67,
     0x2A0CE, 0x4CF8, 0x2A105, 0x2A20E, 0x2A291, 0x9EBB, 0x4D56, 0x9EF9, 0x9EFE, 0x9F05, 0x9F0F,
     0x9F16, 0x9F3B, 0x2A600])]

/-- Marks by their place among the marks after a letter: the place, and the first and the last of
a block. -/
def placeNumerals : List Nat :=
  [0x0000E6_000300_000314, 0x0000E8_000315_000315, 0x0000DC_000316_000319, 0x0000E8_00031A_00031A,
   0x0000D8_00031B_00031B, 0x0000DC_00031C_000320, 0x0000CA_000321_000322, 0x0000DC_000323_000326,
   0x0000CA_000327_000328, 0x0000DC_000329_000333, 0x000001_000334_000338, 0x0000DC_000339_00033C,
   0x0000E6_00033D_00033F, 0x0000E6_000342_000342, 0x0000F0_000345_000345, 0x0000E6_000346_000346,
   0x0000DC_000347_000349, 0x0000E6_00034A_00034C, 0x0000DC_00034D_00034E, 0x0000E6_000350_000352,
   0x0000DC_000353_000356, 0x0000E6_000357_000357, 0x0000E8_000358_000358, 0x0000DC_000359_00035A,
   0x0000E6_00035B_00035B, 0x0000E9_00035C_00035C, 0x0000EA_00035D_00035E, 0x0000E9_00035F_00035F,
   0x0000EA_000360_000361, 0x0000E9_000362_000362, 0x0000E6_000363_00036F, 0x0000E6_000483_000487,
   0x0000DC_000591_000591, 0x0000E6_000592_000595, 0x0000DC_000596_000596, 0x0000E6_000597_000599,
   0x0000DE_00059A_00059A, 0x0000DC_00059B_00059B, 0x0000E6_00059C_0005A1, 0x0000DC_0005A2_0005A7,
   0x0000E6_0005A8_0005A9, 0x0000DC_0005AA_0005AA, 0x0000E6_0005AB_0005AC, 0x0000DE_0005AD_0005AD,
   0x0000E4_0005AE_0005AE, 0x0000E6_0005AF_0005AF, 0x00000A_0005B0_0005B0, 0x00000B_0005B1_0005B1,
   0x00000C_0005B2_0005B2, 0x00000D_0005B3_0005B3, 0x00000E_0005B4_0005B4, 0x00000F_0005B5_0005B5,
   0x000010_0005B6_0005B6, 0x000011_0005B7_0005B7, 0x000012_0005B8_0005B8, 0x000013_0005B9_0005BA,
   0x000014_0005BB_0005BB, 0x000015_0005BC_0005BC, 0x000016_0005BD_0005BD, 0x000017_0005BF_0005BF,
   0x000018_0005C1_0005C1, 0x000019_0005C2_0005C2, 0x0000E6_0005C4_0005C4, 0x0000DC_0005C5_0005C5,
   0x000012_0005C7_0005C7, 0x0000E6_000610_000617, 0x00001E_000618_000618, 0x00001F_000619_000619,
   0x000020_00061A_00061A, 0x00001B_00064B_00064B, 0x00001C_00064C_00064C, 0x00001D_00064D_00064D,
   0x00001E_00064E_00064E, 0x00001F_00064F_00064F, 0x000020_000650_000650, 0x000021_000651_000651,
   0x000022_000652_000652, 0x0000E6_000653_000654, 0x0000DC_000655_000656, 0x0000E6_000657_00065B,
   0x0000DC_00065C_00065C, 0x0000E6_00065D_00065E, 0x0000DC_00065F_00065F, 0x000023_000670_000670,
   0x0000E6_0006D6_0006DC, 0x0000E6_0006DF_0006E2, 0x0000DC_0006E3_0006E3, 0x0000E6_0006E4_0006E4,
   0x0000E6_0006E7_0006E8, 0x0000DC_0006EA_0006EA, 0x0000E6_0006EB_0006EC, 0x0000DC_0006ED_0006ED,
   0x000024_000711_000711, 0x0000E6_000730_000730, 0x0000DC_000731_000731, 0x0000E6_000732_000733,
   0x0000DC_000734_000734, 0x0000E6_000735_000736, 0x0000DC_000737_000739, 0x0000E6_00073A_00073A,
   0x0000DC_00073B_00073C, 0x0000E6_00073D_00073D, 0x0000DC_00073E_00073E, 0x0000E6_00073F_000741,
   0x0000DC_000742_000742, 0x0000E6_000743_000743, 0x0000DC_000744_000744, 0x0000E6_000745_000745,
   0x0000DC_000746_000746, 0x0000E6_000747_000747, 0x0000DC_000748_000748, 0x0000E6_000749_00074A,
   0x0000E6_0007EB_0007F1, 0x0000DC_0007F2_0007F2, 0x0000E6_0007F3_0007F3, 0x0000DC_0007FD_0007FD,
   0x0000E6_000816_000819, 0x0000E6_00081B_000823, 0x0000E6_000825_000827, 0x0000E6_000829_00082D,
   0x0000DC_000859_00085B, 0x0000E6_000897_000898, 0x0000DC_000899_00089B, 0x0000E6_00089C_00089F,
   0x0000E6_0008CA_0008CE, 0x0000DC_0008CF_0008D3, 0x0000E6_0008D4_0008E1, 0x0000DC_0008E3_0008E3,
   0x0000E6_0008E4_0008E5, 0x0000DC_0008E6_0008E6, 0x0000E6_0008E7_0008E8, 0x0000DC_0008E9_0008E9,
   0x0000E6_0008EA_0008EC, 0x0000DC_0008ED_0008EF, 0x00001B_0008F0_0008F0, 0x00001C_0008F1_0008F1,
   0x00001D_0008F2_0008F2, 0x0000E6_0008F3_0008F5, 0x0000DC_0008F6_0008F6, 0x0000E6_0008F7_0008F8,
   0x0000DC_0008F9_0008FA, 0x0000E6_0008FB_0008FF, 0x000007_00093C_00093C, 0x000009_00094D_00094D,
   0x0000E6_000951_000951, 0x0000DC_000952_000952, 0x0000E6_000953_000954, 0x000007_0009BC_0009BC,
   0x000009_0009CD_0009CD, 0x0000E6_0009FE_0009FE, 0x000007_000A3C_000A3C, 0x000009_000A4D_000A4D,
   0x000007_000ABC_000ABC, 0x000009_000ACD_000ACD, 0x000007_000B3C_000B3C, 0x000009_000B4D_000B4D,
   0x000009_000BCD_000BCD, 0x000007_000C3C_000C3C, 0x000009_000C4D_000C4D, 0x000054_000C55_000C55,
   0x00005B_000C56_000C56, 0x000007_000CBC_000CBC, 0x000009_000CCD_000CCD, 0x000009_000D3B_000D3C,
   0x000009_000D4D_000D4D, 0x000009_000DCA_000DCA, 0x000067_000E38_000E39, 0x000009_000E3A_000E3A,
   0x00006B_000E48_000E4B, 0x000076_000EB8_000EB9, 0x000009_000EBA_000EBA, 0x00007A_000EC8_000ECB,
   0x0000DC_000F18_000F19, 0x0000DC_000F35_000F35, 0x0000DC_000F37_000F37, 0x0000D8_000F39_000F39,
   0x000081_000F71_000F71, 0x000082_000F72_000F72, 0x000084_000F74_000F74, 0x000082_000F7A_000F7D,
   0x000082_000F80_000F80, 0x0000E6_000F82_000F83, 0x000009_000F84_000F84, 0x0000E6_000F86_000F87,
   0x0000DC_000FC6_000FC6, 0x000007_001037_001037, 0x000009_001039_00103A, 0x0000DC_00108D_00108D,
   0x0000E6_00135D_00135F, 0x000009_001714_001715, 0x000009_001734_001734, 0x000009_0017D2_0017D2,
   0x0000E6_0017DD_0017DD, 0x0000E4_0018A9_0018A9, 0x0000DE_001939_001939, 0x0000E6_00193A_00193A,
   0x0000DC_00193B_00193B, 0x0000E6_001A17_001A17, 0x0000DC_001A18_001A18, 0x000009_001A60_001A60,
   0x0000E6_001A75_001A7C, 0x0000DC_001A7F_001A7F, 0x0000E6_001AB0_001AB4, 0x0000DC_001AB5_001ABA,
   0x0000E6_001ABB_001ABC, 0x0000DC_001ABD_001ABD, 0x0000DC_001ABF_001AC0, 0x0000E6_001AC1_001AC2,
   0x0000DC_001AC3_001AC4, 0x0000E6_001AC5_001AC9, 0x0000DC_001ACA_001ACA, 0x0000E6_001ACB_001ADC,
   0x0000DC_001ADD_001ADD, 0x0000E6_001AE0_001AE5, 0x0000DC_001AE6_001AE6, 0x0000E6_001AE7_001AEA,
   0x0000EA_001AEB_001AEB, 0x000007_001B34_001B34, 0x000009_001B44_001B44, 0x0000E6_001B6B_001B6B,
   0x0000DC_001B6C_001B6C, 0x0000E6_001B6D_001B73, 0x000009_001BAA_001BAB, 0x000007_001BE6_001BE6,
   0x000009_001BF2_001BF3, 0x000007_001C37_001C37, 0x0000E6_001CD0_001CD2, 0x000001_001CD4_001CD4,
   0x0000DC_001CD5_001CD9, 0x0000E6_001CDA_001CDB, 0x0000DC_001CDC_001CDF, 0x0000E6_001CE0_001CE0,
   0x000001_001CE2_001CE8, 0x0000DC_001CED_001CED, 0x0000E6_001CF4_001CF4, 0x0000E6_001CF8_001CF9,
   0x0000E6_001DC0_001DC1, 0x0000DC_001DC2_001DC2, 0x0000E6_001DC3_001DC9, 0x0000DC_001DCA_001DCA,
   0x0000E6_001DCB_001DCC, 0x0000EA_001DCD_001DCD, 0x0000D6_001DCE_001DCE, 0x0000DC_001DCF_001DCF,
   0x0000CA_001DD0_001DD0, 0x0000E6_001DD1_001DF5, 0x0000E8_001DF6_001DF6, 0x0000E4_001DF7_001DF8,
   0x0000DC_001DF9_001DF9, 0x0000DA_001DFA_001DFA, 0x0000E6_001DFB_001DFB, 0x0000E9_001DFC_001DFC,
   0x0000DC_001DFD_001DFD, 0x0000E6_001DFE_001DFE, 0x0000DC_001DFF_001DFF, 0x0000E6_0020D0_0020D1,
   0x000001_0020D2_0020D3, 0x0000E6_0020D4_0020D7, 0x000001_0020D8_0020DA, 0x0000E6_0020DB_0020DC,
   0x0000E6_0020E1_0020E1, 0x000001_0020E5_0020E6, 0x0000E6_0020E7_0020E7, 0x0000DC_0020E8_0020E8,
   0x0000E6_0020E9_0020E9, 0x000001_0020EA_0020EB, 0x0000DC_0020EC_0020EF, 0x0000E6_0020F0_0020F0,
   0x0000E6_002CEF_002CF1, 0x000009_002D7F_002D7F, 0x0000E6_002DE0_002DFF, 0x0000DA_00302A_00302A,
   0x0000E4_00302B_00302B, 0x0000E8_00302C_00302C, 0x0000DE_00302D_00302D, 0x0000E0_00302E_00302F,
   0x000008_003099_00309A, 0x0000E6_00A66F_00A66F, 0x0000E6_00A674_00A67D, 0x0000E6_00A69E_00A69F,
   0x0000E6_00A6F0_00A6F1, 0x000009_00A806_00A806, 0x000009_00A82C_00A82C, 0x000009_00A8C4_00A8C4,
   0x0000E6_00A8E0_00A8F1, 0x0000DC_00A92B_00A92D, 0x000009_00A953_00A953, 0x000007_00A9B3_00A9B3,
   0x000009_00A9C0_00A9C0, 0x0000E6_00AAB0_00AAB0, 0x0000E6_00AAB2_00AAB3, 0x0000DC_00AAB4_00AAB4,
   0x0000E6_00AAB7_00AAB8, 0x0000E6_00AABE_00AABF, 0x0000E6_00AAC1_00AAC1, 0x000009_00AAF6_00AAF6,
   0x000009_00ABED_00ABED, 0x00001A_00FB1E_00FB1E, 0x0000E6_00FE20_00FE26, 0x0000DC_00FE27_00FE2D,
   0x0000E6_00FE2E_00FE2F, 0x0000DC_0101FD_0101FD, 0x0000DC_0102E0_0102E0, 0x0000E6_010376_01037A,
   0x0000DC_010A0D_010A0D, 0x0000E6_010A0F_010A0F, 0x0000E6_010A38_010A38, 0x000001_010A39_010A39,
   0x0000DC_010A3A_010A3A, 0x000009_010A3F_010A3F, 0x0000E6_010AE5_010AE5, 0x0000DC_010AE6_010AE6,
   0x0000E6_010D24_010D27, 0x0000E6_010D69_010D6D, 0x0000E6_010EAB_010EAC, 0x0000DC_010EFA_010EFB,
   0x0000DC_010EFD_010EFF, 0x0000DC_010F46_010F47, 0x0000E6_010F48_010F4A, 0x0000DC_010F4B_010F4B,
   0x0000E6_010F4C_010F4C, 0x0000DC_010F4D_010F50, 0x0000E6_010F82_010F82, 0x0000DC_010F83_010F83,
   0x0000E6_010F84_010F84, 0x0000DC_010F85_010F85, 0x000009_011046_011046, 0x000009_011070_011070,
   0x000009_01107F_01107F, 0x000009_0110B9_0110B9, 0x000007_0110BA_0110BA, 0x0000E6_011100_011102,
   0x000009_011133_011134, 0x000007_011173_011173, 0x000009_0111C0_0111C0, 0x000007_0111CA_0111CA,
   0x000009_011235_011235, 0x000007_011236_011236, 0x000007_0112E9_0112E9, 0x000009_0112EA_0112EA,
   0x000007_01133B_01133C, 0x000009_01134D_01134D, 0x0000E6_011366_01136C, 0x0000E6_011370_011374,
   0x000009_0113CE_0113D0, 0x000009_011442_011442, 0x000007_011446_011446, 0x0000E6_01145E_01145E,
   0x000009_0114C2_0114C2, 0x000007_0114C3_0114C3, 0x000009_0115BF_0115BF, 0x000007_0115C0_0115C0,
   0x000009_01163F_01163F, 0x000009_0116B6_0116B6, 0x000007_0116B7_0116B7, 0x000009_01172B_01172B,
   0x000009_011839_011839, 0x000007_01183A_01183A, 0x000009_01193D_01193E, 0x000007_011943_011943,
   0x000009_0119E0_0119E0, 0x000009_011A34_011A34, 0x000009_011A47_011A47, 0x000009_011A99_011A99,
   0x000009_011C3F_011C3F, 0x000007_011D42_011D42, 0x000009_011D44_011D45, 0x000009_011D97_011D97,
   0x000009_011F41_011F42, 0x000009_01612F_01612F, 0x000001_016AF0_016AF4, 0x0000E6_016B30_016B36,
   0x000006_016FF0_016FF1, 0x000001_01BC9E_01BC9E, 0x0000D8_01D165_01D166, 0x000001_01D167_01D169,
   0x0000E2_01D16D_01D16D, 0x0000D8_01D16E_01D172, 0x0000DC_01D17B_01D182, 0x0000E6_01D185_01D189,
   0x0000DC_01D18A_01D18B, 0x0000E6_01D1AA_01D1AD, 0x0000E6_01D242_01D244, 0x0000E6_01E000_01E006,
   0x0000E6_01E008_01E018, 0x0000E6_01E01B_01E021, 0x0000E6_01E023_01E024, 0x0000E6_01E026_01E02A,
   0x0000E6_01E08F_01E08F, 0x0000E6_01E130_01E136, 0x0000E6_01E2AE_01E2AE, 0x0000E6_01E2EC_01E2EF,
   0x0000E8_01E4EC_01E4ED, 0x0000DC_01E4EE_01E4EE, 0x0000E6_01E4EF_01E4EF, 0x0000E6_01E5EE_01E5EE,
   0x0000DC_01E5EF_01E5EF, 0x0000E6_01E6E3_01E6E3, 0x0000E6_01E6E6_01E6E6, 0x0000E6_01E6EE_01E6EF,
   0x0000E6_01E6F5_01E6F5, 0x0000DC_01E8D0_01E8D6, 0x0000E6_01E944_01E949, 0x000007_01E94A_01E94A]

end RouteTable.Text
