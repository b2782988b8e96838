import RouteTable.Text.Category
import RouteTable.Text.Added
import RouteTable.Text.Composite

/-!
What the characters of domains stand for: letters in upper case for those in lower case, letters of
other widths and shapes for the plain ones, and some for none. The characters are those of
Unicode 17. One that is the same as others in sequence is not here, since they are.
-/

namespace RouteTable.Url.Domain

open Text

/-- Characters that no domain holds. -/
def refusedPoints : CodePoints := .ofNumerals
  [0x000080_00009F, 0x000600_000605, 0x00061C_00061C, 0x0006DD_0006DD, 0x00070F_00070F,
   0x000890_000891, 0x0008E2_0008E2, 0x001680_001680, 0x00200E_00200F, 0x002024_002026,
   0x002028_00202E, 0x002066_002069, 0x002488_00249B, 0x002FF0_002FFF, 0x0031EF_0031EF,
   0x0033C2_0033C2, 0x0033C7_0033C7, 0x0033D8_0033D8, 0x00FE12_00FE12, 0x00FE19_00FE19,
   0x00FE30_00FE30, 0x00FE52_00FE52, 0x00FFF9_00FFFD, 0x0110BD_0110BD, 0x0110CD_0110CD,
   0x013430_01343F, 0x01F100_01F100, 0x0E0001_0E0001, 0x0E0020_0E007F]

def assignedPoints : CodePoints :=
  (cnPoints.union coPoints).complement.union addedPoints

/-- Characters that stand for nothing. -/
def silentPoints : CodePoints := .ofNumerals
  [0x0000AD_0000AD, 0x00034F_00034F, 0x00115F_001160, 0x0017B4_0017B5, 0x00180B_00180F,
   0x00200B_00200B, 0x002060_002064, 0x00206A_00206F, 0x003164_003164, 0x00FE00_00FE0F,
   0x00FEFF_00FEFF, 0x00FFA0_00FFA0, 0x01BCA0_01BCA3, 0x01D173_01D17A, 0x0E0100_0E01EF]

/-- Characters, each above the one that it stands for. -/
def singleFolds : List Nat :=
  [0x0000A0_000020, 0x0000AA_000061, 0x0000B5_0003BC, 0x0000B9_000031, 0x0000BA_00006F,
   0x0000C6_0000E6, 0x0000D0_0000F0, 0x0000D8_0000F8, 0x0000DE_0000FE, 0x000110_000111,
   0x000126_000127, 0x000141_000142, 0x00014A_00014B, 0x000152_000153, 0x000166_000167,
   0x00017F_000073, 0x000181_000253, 0x000186_000254, 0x000187_000188, 0x00018B_00018C,
   0x00018E_0001DD, 0x00018F_000259, 0x000190_00025B, 0x000191_000192, 0x000193_000260,
   0x000194_000263, 0x000196_000269, 0x000197_000268, 0x000198_000199, 0x00019C_00026F,
   0x00019D_000272, 0x00019F_000275, 0x0001A6_000280, 0x0001A7_0001A8, 0x0001A9_000283,
   0x0001AC_0001AD, 0x0001AE_000288, 0x0001B7_000292, 0x0001B8_0001B9, 0x0001BC_0001BD,
   0x0001E4_0001E5, 0x0001F6_000195, 0x0001F7_0001BF, 0x00021C_00021D, 0x000220_00019E,
   0x00023A_002C65, 0x00023B_00023C, 0x00023D_00019A, 0x00023E_002C66, 0x000241_000242,
   0x000243_000180, 0x000244_000289, 0x000245_00028C, 0x0002B0_000068, 0x0002B1_000266,
   0x0002B2_00006A, 0x0002B3_000072, 0x0002B4_000279, 0x0002B5_00027B, 0x0002B6_000281,
   0x0002B7_000077, 0x0002B8_000079, 0x0002E0_000263, 0x0002E1_00006C, 0x0002E2_000073,
   0x0002E3_000078, 0x0002E4_000295, 0x000345_0003B9, 0x000376_000377, 0x00037F_0003F3,
   0x0003CF_0003D7, 0x0003D0_0003B2, 0x0003D1_0003B8, 0x0003D2_0003C5, 0x0003D5_0003C6,
   0x0003D6_0003C0, 0x0003F0_0003BA, 0x0003F1_0003C1, 0x0003F2_0003C3, 0x0003F4_0003B8,
   0x0003F5_0003B5, 0x0003F7_0003F8, 0x0003F9_0003C3, 0x0003FA_0003FB, 0x000402_000452,
   0x00040F_00045F, 0x0004C0_0004CF, 0x0004D4_0004D5, 0x0004D8_0004D9, 0x0004E0_0004E1,
   0x0004E8_0004E9, 0x0004F6_0004F7, 0x000F0C_000F0B, 0x0010C7_002D27, 0x0010CD_002D2D,
   0x0010FC_0010DC, 0x001C80_000432, 0x001C81_000434, 0x001C82_00043E, 0x001C85_000442,
   0x001C86_00044A, 0x001C87_000463, 0x001C88_00A64B, 0x001C89_001C8A, 0x001D2C_000061,
   0x001D2D_0000E6, 0x001D2E_000062, 0x001D32_0001DD, 0x001D3C_00006F, 0x001D3D_000223,
   0x001D3E_000070, 0x001D3F_000072, 0x001D42_000077, 0x001D43_000061, 0x001D46_001D02,
   0x001D47_000062, 0x001D4A_000259, 0x001D4D_000067, 0x001D4F_00006B, 0x001D50_00006D,
   0x001D51_00014B, 0x001D52_00006F, 0x001D53_000254, 0x001D56_000070, 0x001D59_001D1D,
   0x001D5A_00026F, 0x001D5B_000076, 0x001D5C_001D25, 0x001D62_000069, 0x001D63_000072,
   0x001D68_0003C1, 0x001D78_00043D, 0x001D9B_000252, 0x001D9C_000063, 0x001D9D_000255,
   0x001D9E_0000F0, 0x001D9F_00025C, 0x001DA0_000066, 0x001DA1_00025F, 0x001DA2_000261,
   0x001DA3_000265, 0x001DA7_001D7B, 0x001DA8_00029D, 0x001DA9_00026D, 0x001DAA_001D85,
   0x001DAB_00029F, 0x001DAC_000271, 0x001DAD_000270, 0x001DB2_000278, 0x001DB5_0001AB,
   0x001DB8_001D1C, 0x001DBB_00007A, 0x001DBF_0003B8, 0x001E9E_0000DF, 0x002011_002010,
   0x00202F_000020, 0x00205F_000020, 0x002070_000030, 0x002071_000069, 0x00207A_00002B,
   0x00207B_002212, 0x00207C_00003D, 0x00207F_00006E, 0x00208A_00002B, 0x00208B_002212,
   0x00208C_00003D, 0x002090_000061, 0x002091_000065, 0x002092_00006F, 0x002093_000078,
   0x002094_000259, 0x002095_000068, 0x00209A_000070, 0x002102_000063, 0x002107_00025B,
   0x00210F_000127, 0x002115_00006E, 0x002124_00007A, 0x002128_00007A, 0x002131_000066,
   0x002132_00214E, 0x002133_00006D, 0x002134_00006F, 0x002139_000069, 0x00213C_0003C0,
   0x00213F_0003C0, 0x002140_002211, 0x002147_000065, 0x002160_000069, 0x002164_000076,
   0x002169_000078, 0x00216C_00006C, 0x00216F_00006D, 0x002170_000069, 0x002174_000076,
   0x002179_000078, 0x00217C_00006C, 0x00217F_00006D, 0x002183_002184, 0x0024EA_000030,
   0x002C60_002C61, 0x002C62_00026B, 0x002C63_001D7D, 0x002C64_00027D, 0x002C6D_000251,
   0x002C6E_000271, 0x002C6F_000250, 0x002C70_000252, 0x002C72_002C73, 0x002C75_002C76,
   0x002C7C_00006A, 0x002C7D_000076, 0x002CF2_002CF3, 0x002D6F_002D61, 0x002E9F_006BCD,
   0x002EF3_009F9F, 0x002F00_004E00, 0x002F01_004E28, 0x002F02_004E36, 0x002F03_004E3F,
   0x002F04_004E59, 0x002F05_004E85, 0x002F06_004E8C, 0x002F07_004EA0, 0x002F08_004EBA,
   0x002F09_00513F, 0x002F0A_005165, 0x002F0B_00516B, 0x002F0C_005182, 0x002F0D_005196,
   0x002F0E_0051AB, 0x002F0F_0051E0, 0x002F10_0051F5, 0x002F11_005200, 0x002F12_00529B,
   0x002F13_0052F9, 0x002F14_005315, 0x002F15_00531A, 0x002F16_005338, 0x002F17_005341,
   0x002F18_00535C, 0x002F19_005369, 0x002F1A_005382, 0x002F1B_0053B6, 0x002F1C_0053C8,
   0x002F1D_0053E3, 0x002F1E_0056D7, 0x002F1F_00571F, 0x002F20_0058EB, 0x002F21_005902,
   0x002F22_00590A, 0x002F23_005915, 0x002F24_005927, 0x002F25_005973, 0x002F26_005B50,
   0x002F27_005B80, 0x002F28_005BF8, 0x002F29_005C0F, 0x002F2A_005C22, 0x002F2B_005C38,
   0x002F2C_005C6E, 0x002F2D_005C71, 0x002F2E_005DDB, 0x002F2F_005DE5, 0x002F30_005DF1,
   0x002F31_005DFE, 0x002F32_005E72, 0x002F33_005E7A, 0x002F34_005E7F, 0x002F35_005EF4,
   0x002F36_005EFE, 0x002F37_005F0B, 0x002F38_005F13, 0x002F39_005F50, 0x002F3A_005F61,
   0x002F3B_005F73, 0x002F3C_005FC3, 0x002F3D_006208, 0x002F3E_006236, 0x002F3F_00624B,
   0x002F40_00652F, 0x002F41_006534, 0x002F42_006587, 0x002F43_006597, 0x002F44_0065A4,
   0x002F45_0065B9, 0x002F46_0065E0, 0x002F47_0065E5, 0x002F48_0066F0, 0x002F49_006708,
   0x002F4A_006728, 0x002F4B_006B20, 0x002F4C_006B62, 0x002F4D_006B79, 0x002F4E_006BB3,
   0x002F4F_006BCB, 0x002F50_006BD4, 0x002F51_006BDB, 0x002F52_006C0F, 0x002F53_006C14,
   0x002F54_006C34, 0x002F55_00706B, 0x002F56_00722A, 0x002F57_007236, 0x002F58_00723B,
   0x002F59_00723F, 0x002F5A_007247, 0x002F5B_007259, 0x002F5C_00725B, 0x002F5D_0072AC,
   0x002F5E_007384, 0x002F5F_007389, 0x002F60_0074DC, 0x002F61_0074E6, 0x002F62_007518,
   0x002F63_00751F, 0x002F64_007528, 0x002F65_007530, 0x002F66_00758B, 0x002F67_007592,
   0x002F68_007676, 0x002F69_00767D, 0x002F6A_0076AE, 0x002F6B_0076BF, 0x002F6C_0076EE,
   0x002F6D_0077DB, 0x002F6E_0077E2, 0x002F6F_0077F3, 0x002F70_00793A, 0x002F71_0079B8,
   0x002F72_0079BE, 0x002F73_007A74, 0x002F74_007ACB, 0x002F75_007AF9, 0x002F76_007C73,
   0x002F77_007CF8, 0x002F78_007F36, 0x002F79_007F51, 0x002F7A_007F8A, 0x002F7B_007FBD,
   0x002F7C_008001, 0x002F7D_00800C, 0x002F7E_008012, 0x002F7F_008033, 0x002F80_00807F,
   0x002F81_008089, 0x002F82_0081E3, 0x002F83_0081EA, 0x002F84_0081F3, 0x002F85_0081FC,
   0x002F86_00820C, 0x002F87_00821B, 0x002F88_00821F, 0x002F89_00826E, 0x002F8A_008272,
   0x002F8B_008278, 0x002F8C_00864D, 0x002F8D_00866B, 0x002F8E_008840, 0x002F8F_00884C,
   0x002F90_008863, 0x002F91_00897E, 0x002F92_00898B, 0x002F93_0089D2, 0x002F94_008A00,
   0x002F95_008C37, 0x002F96_008C46, 0x002F97_008C55, 0x002F98_008C78, 0x002F99_008C9D,
   0x002F9A_008D64, 0x002F9B_008D70, 0x002F9C_008DB3, 0x002F9D_008EAB, 0x002F9E_008ECA,
   0x002F9F_008F9B, 0x002FA0_008FB0, 0x002FA1_008FB5, 0x002FA2_009091, 0x002FA3_009149,
   0x002FA4_0091C6, 0x002FA5_0091CC, 0x002FA6_0091D1, 0x002FA7_009577, 0x002FA8_009580,
   0x002FA9_00961C, 0x002FAA_0096B6, 0x002FAB_0096B9, 0x002FAC_0096E8, 0x002FAD_009751,
   0x002FAE_00975E, 0x002FAF_009762, 0x002FB0_009769, 0x002FB1_0097CB, 0x002FB2_0097ED,
   0x002FB3_0097F3, 0x002FB4_009801, 0x002FB5_0098A8, 0x002FB6_0098DB, 0x002FB7_0098DF,
   0x002FB8_009996, 0x002FB9_009999, 0x002FBA_0099AC, 0x002FBB_009AA8, 0x002FBC_009AD8,
   0x002FBD_009ADF, 0x002FBE_009B25, 0x002FBF_009B2F, 0x002FC0_009B32, 0x002FC1_009B3C,
   0x002FC2_009B5A, 0x002FC3_009CE5, 0x002FC4_009E75, 0x002FC5_009E7F, 0x002FC6_009EA5,
   0x002FC7_009EBB, 0x002FC8_009EC3, 0x002FC9_009ECD, 0x002FCA_009ED1, 0x002FCB_009EF9,
   0x002FCC_009EFD, 0x002FCD_009F0E, 0x002FCE_009F13, 0x002FCF_009F20, 0x002FD0_009F3B,
   0x002FD1_009F4A, 0x002FD2_009F52, 0x002FD3_009F8D, 0x002FD4_009F9C, 0x002FD5_009FA0,
   0x003000_000020, 0x003002_00002E, 0x003036_003012, 0x003038_005341, 0x003133_0011AA,
   0x003134_001102, 0x003140_00111A, 0x003144_001121, 0x003169_0011CC, 0x00316A_0011CE,
   0x00316B_0011D3, 0x00316C_0011D7, 0x00316D_0011D9, 0x00316E_00111C, 0x00316F_0011DD,
   0x003170_0011DF, 0x003173_001120, 0x003176_001127, 0x003177_001129, 0x00317D_001132,
   0x00317E_001136, 0x00317F_001140, 0x003180_001147, 0x003181_00114C, 0x003189_001188,
   0x00318C_001194, 0x00318D_00119E, 0x00318E_0011A1, 0x003192_004E00, 0x003193_004E8C,
   0x003194_004E09, 0x003195_0056DB, 0x003196_004E0A, 0x003197_004E2D, 0x003198_004E0B,
   0x003199_007532, 0x00319A_004E59, 0x00319B_004E19, 0x00319C_004E01, 0x00319D_005929,
   0x00319E_005730, 0x00319F_004EBA, 0x003244_00554F, 0x003245_005E7C, 0x003246_006587,
   0x003247_007B8F, 0x003260_001100, 0x003266_001109, 0x00326E_00AC00, 0x00326F_00B098,
   0x003270_00B2E4, 0x003271_00B77C, 0x003272_00B9C8, 0x003273_00BC14, 0x003274_00C0AC,
   0x003275_00C544, 0x003276_00C790, 0x003277_00CC28, 0x003278_00CE74, 0x003279_00D0C0,
   0x00327A_00D30C, 0x00327B_00D558, 0x00327E_00C6B0, 0x003280_004E00, 0x003281_004E8C,
   0x003282_004E09, 0x003283_0056DB, 0x003284_004E94, 0x003285_00516D, 0x003286_004E03,
   0x003287_00516B, 0x003288_004E5D, 0x003289_005341, 0x00328A_006708, 0x00328B_00706B,
   0x00328C_006C34, 0x00328D_006728, 0x00328E_0091D1, 0x00328F_00571F, 0x003290_0065E5,
   0x003291_00682A, 0x003292_006709, 0x003293_00793E, 0x003294_00540D, 0x003295_007279,
   0x003296_008CA1, 0x003297_00795D, 0x003298_0052B4, 0x003299_0079D8, 0x00329A_007537,
   0x00329B_005973, 0x00329C_009069, 0x00329D_00512A, 0x00329E_005370, 0x00329F_006CE8,
   0x0032A0_009805, 0x0032A1_004F11, 0x0032A2_005199, 0x0032A3_006B63, 0x0032A4_004E0A,
   0x0032A5_004E2D, 0x0032A6_004E0B, 0x0032A7_005DE6, 0x0032A8_0053F3, 0x0032A9_00533B,
   0x0032AA_005B97, 0x0032AB_005B66, 0x0032AC_0076E3, 0x0032AD_004F01, 0x0032AE_008CC7,
   0x0032AF_005354, 0x0032B0_00591C, 0x0032D0_0030A2, 0x0032D1_0030A4, 0x0032D2_0030A6,
   0x0032D3_0030A8, 0x0032D6_0030AD, 0x0032D7_0030AF, 0x0032D8_0030B1, 0x0032D9_0030B3,
   0x0032DA_0030B5, 0x0032DB_0030B7, 0x0032DC_0030B9, 0x0032DD_0030BB, 0x0032DE_0030BD,
   0x0032DF_0030BF, 0x0032E0_0030C1, 0x0032E1_0030C4, 0x0032E2_0030C6, 0x0032E3_0030C8,
   0x0032EA_0030D2, 0x0032EB_0030D5, 0x0032EC_0030D8, 0x0032ED_0030DB, 0x0032F3_0030E4,
   0x0032F4_0030E6, 0x00A69C_00044A, 0x00A69D_00044C, 0x00A770_00A76F, 0x00A77D_001D79,
   0x00A78B_00A78C, 0x00A78D_000265, 0x00A7AA_000266, 0x00A7AB_00025C, 0x00A7AC_000261,
   0x00A7AD_00026C, 0x00A7AE_00026A, 0x00A7B0_00029E, 0x00A7B1_000287, 0x00A7B2_00029D,
   0x00A7B3_00AB53, 0x00A7C4_00A794, 0x00A7C5_000282, 0x00A7C6_001D8E, 0x00A7CB_000264,
   0x00A7DC_00019B, 0x00A7F1_000073, 0x00A7F2_000063, 0x00A7F3_000066, 0x00A7F4_000071,
   0x00A7F5_00A7F6, 0x00A7F8_000127, 0x00A7F9_000153, 0x00AB5C_00A727, 0x00AB5D_00AB37,
   0x00AB5E_00026B, 0x00AB5F_00AB52, 0x00AB69_00028D, 0x00FB20_0005E2, 0x00FB21_0005D0,
   0x00FB27_0005E8, 0x00FB28_0005EA, 0x00FB29_00002B, 0x00FE10_00002C, 0x00FE11_003001,
   0x00FE15_000021, 0x00FE16_00003F, 0x00FE31_002014, 0x00FE32_002013, 0x00FE37_00007B,
   0x00FE38_00007D, 0x00FE47_00005B, 0x00FE48_00005D, 0x00FE50_00002C, 0x00FE51_003001,
   0x00FE54_00003B, 0x00FE55_00003A, 0x00FE56_00003F, 0x00FE57_000021, 0x00FE58_002014,
   0x00FE5B_00007B, 0x00FE5C_00007D, 0x00FE5F_000023, 0x00FE60_000026, 0x00FE63_00002D,
   0x00FE64_00003C, 0x00FE65_00003E, 0x00FE66_00003D, 0x00FE68_00005C, 0x00FE6B_000040,
   0x00FF61_00002E, 0x00FF64_003001, 0x00FF65_0030FB, 0x00FF66_0030F2, 0x00FF67_0030A1,
   0x00FF68_0030A3, 0x00FF69_0030A5, 0x00FF6A_0030A7, 0x00FF6B_0030A9, 0x00FF6C_0030E3,
   0x00FF6D_0030E5, 0x00FF6E_0030E7, 0x00FF6F_0030C3, 0x00FF70_0030FC, 0x00FF71_0030A2,
   0x00FF72_0030A4, 0x00FF73_0030A6, 0x00FF74_0030A8, 0x00FF77_0030AD, 0x00FF78_0030AF,
   0x00FF79_0030B1, 0x00FF7A_0030B3, 0x00FF7B_0030B5, 0x00FF7C_0030B7, 0x00FF7D_0030B9,
   0x00FF7E_0030BB, 0x00FF7F_0030BD, 0x00FF80_0030BF, 0x00FF81_0030C1, 0x00FF82_0030C4,
   0x00FF83_0030C6, 0x00FF84_0030C8, 0x00FF8B_0030D2, 0x00FF8C_0030D5, 0x00FF8D_0030D8,
   0x00FF8E_0030DB, 0x00FF94_0030E4, 0x00FF95_0030E6, 0x00FF9C_0030EF, 0x00FF9D_0030F3,
   0x00FFA3_0011AA, 0x00FFA4_001102, 0x00FFB0_00111A, 0x00FFB4_001121, 0x00FFE2_0000AC,
   0x00FFE4_0000A6, 0x00FFE5_0000A5, 0x00FFE6_0020A9, 0x00FFE8_002502, 0x00FFED_0025A0,
   0x00FFEE_0025CB, 0x010783_0000E6, 0x010784_000299, 0x010785_000253, 0x010787_0002A3,
   0x010788_00AB66, 0x010789_0002A5, 0x01078A_0002A4, 0x01078D_001D91, 0x01078E_000258,
   0x01078F_00025E, 0x010790_0002A9, 0x010791_000264, 0x010792_000262, 0x010793_000260,
   0x010794_00029B, 0x010795_000127, 0x010796_00029C, 0x010797_000267, 0x010798_000284,
   0x01079B_00026C, 0x01079C_01DF04, 0x01079D_00A78E, 0x01079E_00026E, 0x01079F_01DF05,
   0x0107A0_00028E, 0x0107A1_01DF06, 0x0107A2_0000F8, 0x0107A5_000071, 0x0107A6_00027A,
   0x0107A7_01DF08, 0x0107AA_000280, 0x0107AB_0002A8, 0x0107AC_0002A6, 0x0107AD_00AB67,
   0x0107AE_0002A7, 0x0107AF_000288, 0x0107B0_002C71, 0x0107B2_00028F, 0x0107B5_000298,
   0x0107B9_01DF0A, 0x0107BA_01DF1E, 0x01D49C_000061, 0x01D4A2_000067, 0x01D4BB_000066,
   0x01D546_00006F, 0x01D6A4_000131, 0x01D6A5_000237, 0x01D6B9_0003B8, 0x01D6C1_002207,
   0x01D6DB_002202, 0x01D6DC_0003B5, 0x01D6DD_0003B8, 0x01D6DE_0003BA, 0x01D6DF_0003C6,
   0x01D6E0_0003C1, 0x01D6E1_0003C0, 0x01D6F3_0003B8, 0x01D6FB_002207, 0x01D715_002202,
   0x01D716_0003B5, 0x01D717_0003B8, 0x01D718_0003BA, 0x01D719_0003C6, 0x01D71A_0003C1,
   0x01D71B_0003C0, 0x01D72D_0003B8, 0x01D735_002207, 0x01D74F_002202, 0x01D750_0003B5,
   0x01D751_0003B8, 0x01D752_0003BA, 0x01D753_0003C6, 0x01D754_0003C1, 0x01D755_0003C0,
   0x01D767_0003B8, 0x01D76F_002207, 0x01D789_002202, 0x01D78A_0003B5, 0x01D78B_0003B8,
   0x01D78C_0003BA, 0x01D78D_0003C6, 0x01D78E_0003C1, 0x01D78F_0003C0, 0x01D7A1_0003B8,
   0x01D7A9_002207, 0x01D7C3_002202, 0x01D7C4_0003B5, 0x01D7C5_0003B8, 0x01D7C6_0003BA,
   0x01D7C7_0003C6, 0x01D7C8_0003C1, 0x01D7C9_0003C0, 0x01E047_00044B, 0x01E04A_00A689,
   0x01E04B_0004D9, 0x01E04C_000456, 0x01E04D_000458, 0x01E04E_0004E9, 0x01E04F_0004AF,
   0x01E050_0004CF, 0x01E05E_000441, 0x01E067_000491, 0x01E068_000456, 0x01E069_000455,
   0x01E06A_00045F, 0x01E06B_0004AB, 0x01E06C_00A651, 0x01E06D_0004B1, 0x01EE02_00062C,
   0x01EE03_00062F, 0x01EE05_000648, 0x01EE06_000632, 0x01EE07_00062D, 0x01EE08_000637,
   0x01EE09_00064A, 0x01EE0E_000633, 0x01EE0F_000639, 0x01EE10_000641, 0x01EE11_000635,
   0x01EE12_000642, 0x01EE13_000631, 0x01EE14_000634, 0x01EE17_00062E, 0x01EE18_000630,
   0x01EE19_000636, 0x01EE1A_000638, 0x01EE1B_00063A, 0x01EE1C_00066E, 0x01EE1D_0006BA,
   0x01EE1E_0006A1, 0x01EE1F_00066F, 0x01EE21_000628, 0x01EE22_00062C, 0x01EE24_000647,
   0x01EE27_00062D, 0x01EE29_00064A, 0x01EE2E_000633, 0x01EE2F_000639, 0x01EE30_000641,
   0x01EE31_000635, 0x01EE32_000642, 0x01EE34_000634, 0x01EE37_00062E, 0x01EE39_000636,
   0x01EE3B_00063A, 0x01EE42_00062C, 0x01EE47_00062D, 0x01EE49_00064A, 0x01EE4B_000644,
   0x01EE4D_000646, 0x01EE4E_000633, 0x01EE4F_000639, 0x01EE51_000635, 0x01EE52_000642,
   0x01EE54_000634, 0x01EE57_00062E, 0x01EE59_000636, 0x01EE5B_00063A, 0x01EE5D_0006BA,
   0x01EE5F_00066F, 0x01EE61_000628, 0x01EE62_00062C, 0x01EE64_000647, 0x01EE67_00062D,
   0x01EE68_000637, 0x01EE69_00064A, 0x01EE6A_000643, 0x01EE6E_000633, 0x01EE6F_000639,
   0x01EE70_000641, 0x01EE71_000635, 0x01EE72_000642, 0x01EE74_000634, 0x01EE77_00062E,
   0x01EE79_000636, 0x01EE7A_000638, 0x01EE7B_00063A, 0x01EE7C_00066E, 0x01EE7E_0006A1,
   0x01EE82_00062C, 0x01EE83_00062F, 0x01EE86_000632, 0x01EE87_00062D, 0x01EE88_000637,
   0x01EE89_00064A, 0x01EE8E_000633, 0x01EE8F_000639, 0x01EE90_000641, 0x01EE91_000635,
   0x01EE92_000642, 0x01EE93_000631, 0x01EE94_000634, 0x01EE97_00062E, 0x01EE98_000630,
   0x01EE99_000636, 0x01EE9A_000638, 0x01EE9B_00063A, 0x01EEA1_000628, 0x01EEA2_00062C,
   0x01EEA3_00062F, 0x01EEA5_000648, 0x01EEA6_000632, 0x01EEA7_00062D, 0x01EEA8_000637,
   0x01EEA9_00064A, 0x01EEAE_000633, 0x01EEAF_000639, 0x01EEB0_000641, 0x01EEB1_000635,
   0x01EEB2_000642, 0x01EEB3_000631, 0x01EEB4_000634, 0x01EEB7_00062E, 0x01EEB8_000630,
   0x01EEB9_000636, 0x01EEBA_000638, 0x01EEBB_00063A, 0x01F12B_000063, 0x01F12C_000072,
   0x01F202_0030B5, 0x01F210_00624B, 0x01F211_005B57, 0x01F212_0053CC, 0x01F213_0030C7,
   0x01F214_004E8C, 0x01F215_00591A, 0x01F216_0089E3, 0x01F217_005929, 0x01F218_004EA4,
   0x01F219_006620, 0x01F21A_007121, 0x01F21B_006599, 0x01F21C_00524D, 0x01F21D_005F8C,
   0x01F21E_00518D, 0x01F21F_0065B0, 0x01F220_00521D, 0x01F221_007D42, 0x01F222_00751F,
   0x01F223_008CA9, 0x01F224_0058F0, 0x01F225_005439, 0x01F226_006F14, 0x01F227_006295,
   0x01F228_006355, 0x01F229_004E00, 0x01F22A_004E09, 0x01F22B_00904A, 0x01F22C_005DE6,
   0x01F22D_004E2D, 0x01F22E_0053F3, 0x01F22F_006307, 0x01F230_008D70, 0x01F231_006253,
   0x01F232_007981, 0x01F233_007A7A, 0x01F234_005408, 0x01F235_006E80, 0x01F236_006709,
   0x01F237_006708, 0x01F238_007533, 0x01F239_005272, 0x01F23A_0055B6, 0x01F23B_00914D,
   0x01F250_005F97, 0x01F251_0053EF]

/-- Blocks that stand for others: the first and the last of one, and the first of the other. -/
def blockFolds : List Nat :=
  [0x000041_00005A_000061, 0x0000B2_0000B3_000032, 0x000189_00018A_000256, 0x0001B1_0001B2_00028A,
   0x000391_0003A1_0003B1, 0x0003A3_0003A9_0003C3, 0x0003FD_0003FF_00037B, 0x000404_000406_000454,
   0x000408_00040B_000458, 0x000410_000418_000430, 0x00041A_00042F_00043A, 0x000531_000556_000561,
   0x0010A0_0010C5_002D00, 0x0013F8_0013FD_0013F0, 0x001C83_001C84_000441, 0x001C90_001CBA_0010D0,
   0x001CBD_001CBF_0010FD, 0x001D30_001D31_000064, 0x001D33_001D3A_000067, 0x001D40_001D41_000074,
   0x001D44_001D45_000250, 0x001D48_001D49_000064, 0x001D4B_001D4C_00025B, 0x001D54_001D55_001D16,
   0x001D57_001D58_000074, 0x001D5D_001D5F_0003B2, 0x001D60_001D61_0003C6, 0x001D64_001D65_000075,
   0x001D66_001D67_0003B2, 0x001D69_001D6A_0003C6, 0x001DA4_001DA6_000268, 0x001DAE_001DB1_000272,
   0x001DB3_001DB4_000282, 0x001DB6_001DB7_000289, 0x001DB9_001DBA_00028B, 0x001DBC_001DBE_000290,
   0x002074_002079_000034, 0x00207D_00207E_000028, 0x002080_002089_000030, 0x00208D_00208E_000028,
   0x002096_002099_00006B, 0x00209B_00209C_000073, 0x00210A_00210B_000067, 0x002119_00211B_000070,
   0x00212C_00212D_000062, 0x002135_002138_0005D0, 0x002148_002149_000069, 0x00216D_00216E_000063,
   0x00217D_00217E_000063, 0x002460_002468_000031, 0x0024B6_0024CF_000061, 0x0024D0_0024E9_000061,
   0x002C00_002C2F_002C30, 0x002C7E_002C7F_00023F, 0x003039_00303A_005344, 0x003131_003132_001100,
   0x003135_003136_0011AC, 0x003137_003139_001103, 0x00313A_00313F_0011B0, 0x003141_003143_001106,
   0x003145_00314E_001109, 0x00314F_003163_001161, 0x003165_003166_001114, 0x003167_003168_0011C7,
   0x003171_003172_00111D, 0x003174_003175_001122, 0x003178_00317C_00112B, 0x003182_003183_0011F1,
   0x003184_003186_001157, 0x003187_003188_001184, 0x00318A_00318B_001191, 0x003261_003262_001102,
   0x003263_003265_001105, 0x003267_003268_00110B, 0x003269_00326D_00110E, 0x0032D4_0032D5_0030AA,
   0x0032E4_0032E9_0030CA, 0x0032EE_0032F2_0030DE, 0x0032F5_0032FA_0030E8, 0x0032FB_0032FE_0030EF,
   0x00AB70_00ABBF_0013A0, 0x00FB22_00FB23_0005D3, 0x00FB24_00FB26_0005DB, 0x00FE13_00FE14_00003A,
   0x00FE17_00FE18_003016, 0x00FE35_00FE36_000028, 0x00FE39_00FE3A_003014, 0x00FE3B_00FE3C_003010,
   0x00FE3D_00FE3E_00300A, 0x00FE3F_00FE40_003008, 0x00FE41_00FE44_00300C, 0x00FE59_00FE5A_000028,
   0x00FE5D_00FE5E_003014, 0x00FE61_00FE62_00002A, 0x00FE69_00FE6A_000024, 0x00FE80_00FE81_000621,
   0x00FE82_00FE83_000622, 0x00FE84_00FE85_000623, 0x00FE86_00FE87_000624, 0x00FE88_00FE89_000625,
   0x00FF01_00FF20_000021, 0x00FF21_00FF3A_000061, 0x00FF3B_00FF5E_00005B, 0x00FF5F_00FF60_002985,
   0x00FF62_00FF63_00300C, 0x00FF75_00FF76_0030AA, 0x00FF85_00FF8A_0030CA, 0x00FF8F_00FF93_0030DE,
   0x00FF96_00FF9B_0030E8, 0x00FF9E_00FF9F_003099, 0x00FFA1_00FFA2_001100, 0x00FFA5_00FFA6_0011AC,
   0x00FFA7_00FFA9_001103, 0x00FFAA_00FFAF_0011B0, 0x00FFB1_00FFB3_001106, 0x00FFB5_00FFBE_001109,
   0x00FFC2_00FFC7_001161, 0x00FFCA_00FFCF_001167, 0x00FFD2_00FFD7_00116D, 0x00FFDA_00FFDC_001173,
   0x00FFE0_00FFE1_0000A2, 0x00FFE9_00FFEC_002190, 0x010400_010427_010428, 0x0104B0_0104D3_0104D8,
   0x010570_01057A_010597, 0x01057C_01058A_0105A3, 0x01058C_010592_0105B3, 0x010594_010595_0105BB,
   0x010781_010782_0002D0, 0x01078B_01078C_000256, 0x010799_01079A_0002AA, 0x0107A3_0107A4_000276,
   0x0107A8_0107A9_00027D, 0x0107B3_0107B4_0002A1, 0x0107B6_0107B8_0001C0, 0x010C80_010CB2_010CC0,
   0x010D50_010D65_010D70, 0x0118A0_0118BF_0118C0, 0x016E40_016E5F_016E60, 0x016EA0_016EB8_016EBB,
   0x01CCD6_01CCEF_000061, 0x01CCF0_01CCF9_000030, 0x01D400_01D419_000061, 0x01D41A_01D433_000061,
   0x01D434_01D44D_000061, 0x01D44E_01D454_000061, 0x01D456_01D467_000069, 0x01D468_01D481_000061,
   0x01D482_01D49B_000061, 0x01D49E_01D49F_000063, 0x01D4A5_01D4A6_00006A, 0x01D4A9_01D4AC_00006E,
   0x01D4AE_01D4B5_000073, 0x01D4B6_01D4B9_000061, 0x01D4BD_01D4C3_000068, 0x01D4C5_01D4CF_000070,
   0x01D4D0_01D4E9_000061, 0x01D4EA_01D503_000061, 0x01D504_01D505_000061, 0x01D507_01D50A_000064,
   0x01D50D_01D514_00006A, 0x01D516_01D51C_000073, 0x01D51E_01D537_000061, 0x01D538_01D539_000061,
   0x01D53B_01D53E_000064, 0x01D540_01D544_000069, 0x01D54A_01D550_000073, 0x01D552_01D56B_000061,
   0x01D56C_01D585_000061, 0x01D586_01D59F_000061, 0x01D5A0_01D5B9_000061, 0x01D5BA_01D5D3_000061,
   0x01D5D4_01D5ED_000061, 0x01D5EE_01D607_000061, 0x01D608_01D621_000061, 0x01D622_01D63B_000061,
   0x01D63C_01D655_000061, 0x01D656_01D66F_000061, 0x01D670_01D689_000061, 0x01D68A_01D6A3_000061,
   0x01D6A8_01D6B8_0003B1, 0x01D6BA_01D6C0_0003C3, 0x01D6C2_01D6D2_0003B1, 0x01D6D5_01D6DA_0003C4,
   0x01D6E2_01D6F2_0003B1, 0x01D6F4_01D6FA_0003C3, 0x01D6FC_01D70C_0003B1, 0x01D70F_01D714_0003C4,
   0x01D71C_01D72C_0003B1, 0x01D72E_01D734_0003C3, 0x01D736_01D746_0003B1, 0x01D749_01D74E_0003C4,
   0x01D756_01D766_0003B1, 0x01D768_01D76E_0003C3, 0x01D770_01D780_0003B1, 0x01D783_01D788_0003C4,
   0x01D790_01D7A0_0003B1, 0x01D7A2_01D7A8_0003C3, 0x01D7AA_01D7BA_0003B1, 0x01D7BD_01D7C2_0003C4,
   0x01D7CE_01D7D7_000030, 0x01D7D8_01D7E1_000030, 0x01D7E2_01D7EB_000030, 0x01D7EC_01D7F5_000030,
   0x01D7F6_01D7FF_000030, 0x01E030_01E038_000430, 0x01E039_01E03B_00043A, 0x01E03C_01E046_00043E,
   0x01E048_01E049_00044D, 0x01E051_01E059_000430, 0x01E05A_01E05B_00043A, 0x01E05C_01E05D_00043E,
   0x01E05F_01E064_000443, 0x01E065_01E066_00044A, 0x01E900_01E921_01E922, 0x01EE00_01EE01_000627,
   0x01EE0A_01EE0D_000643, 0x01EE15_01EE16_00062A, 0x01EE2A_01EE2D_000643, 0x01EE35_01EE36_00062A,
   0x01EE6C_01EE6D_000645, 0x01EE75_01EE76_00062A, 0x01EE80_01EE81_000627, 0x01EE84_01EE85_000647,
   0x01EE8B_01EE8D_000644, 0x01EE95_01EE96_00062A, 0x01EEAB_01EEAD_000644, 0x01EEB5_01EEB6_00062A,
   0x01F130_01F149_000061, 0x01FBF0_01FBF9_000030]

/-- Blocks that stand for one character. -/
def sharedFolds : List Nat :=
  [0x002002_00200A_000020, 0x00210C_00210E_000068, 0x002110_002111_000069, 0x002112_002113_00006C,
   0x00211C_00211D_000072, 0x00212F_002130_000065, 0x00213D_00213E_0003B3, 0x002145_002146_000064,
   0x00FB50_00FB51_000671, 0x00FB52_00FB55_00067B, 0x00FB56_00FB59_00067E, 0x00FB5A_00FB5D_000680,
   0x00FB5E_00FB61_00067A, 0x00FB62_00FB65_00067F, 0x00FB66_00FB69_000679, 0x00FB6A_00FB6D_0006A4,
   0x00FB6E_00FB71_0006A6, 0x00FB72_00FB75_000684, 0x00FB76_00FB79_000683, 0x00FB7A_00FB7D_000686,
   0x00FB7E_00FB81_000687, 0x00FB82_00FB83_00068D, 0x00FB84_00FB85_00068C, 0x00FB86_00FB87_00068E,
   0x00FB88_00FB89_000688, 0x00FB8A_00FB8B_000698, 0x00FB8C_00FB8D_000691, 0x00FB8E_00FB91_0006A9,
   0x00FB92_00FB95_0006AF, 0x00FB96_00FB99_0006B3, 0x00FB9A_00FB9D_0006B1, 0x00FB9E_00FB9F_0006BA,
   0x00FBA0_00FBA3_0006BB, 0x00FBA4_00FBA5_0006C0, 0x00FBA6_00FBA9_0006C1, 0x00FBAA_00FBAD_0006BE,
   0x00FBAE_00FBAF_0006D2, 0x00FBB0_00FBB1_0006D3, 0x00FBD3_00FBD6_0006AD, 0x00FBD7_00FBD8_0006C7,
   0x00FBD9_00FBDA_0006C6, 0x00FBDB_00FBDC_0006C8, 0x00FBDE_00FBDF_0006CB, 0x00FBE0_00FBE1_0006C5,
   0x00FBE2_00FBE3_0006C9, 0x00FBE4_00FBE7_0006D0, 0x00FBE8_00FBE9_000649, 0x00FBFC_00FBFF_0006CC,
   0x00FE33_00FE34_00005F, 0x00FE4D_00FE4F_00005F, 0x00FE8A_00FE8C_000626, 0x00FE8D_00FE8E_000627,
   0x00FE8F_00FE92_000628, 0x00FE93_00FE94_000629, 0x00FE95_00FE98_00062A, 0x00FE99_00FE9C_00062B,
   0x00FE9D_00FEA0_00062C, 0x00FEA1_00FEA4_00062D, 0x00FEA5_00FEA8_00062E, 0x00FEA9_00FEAA_00062F,
   0x00FEAB_00FEAC_000630, 0x00FEAD_00FEAE_000631, 0x00FEAF_00FEB0_000632, 0x00FEB1_00FEB4_000633,
   0x00FEB5_00FEB8_000634, 0x00FEB9_00FEBC_000635, 0x00FEBD_00FEC0_000636, 0x00FEC1_00FEC4_000637,
   0x00FEC5_00FEC8_000638, 0x00FEC9_00FECC_000639, 0x00FECD_00FED0_00063A, 0x00FED1_00FED4_000641,
   0x00FED5_00FED8_000642, 0x00FED9_00FEDC_000643, 0x00FEDD_00FEE0_000644, 0x00FEE1_00FEE4_000645,
   0x00FEE5_00FEE8_000646, 0x00FEE9_00FEEC_000647, 0x00FEED_00FEEE_000648, 0x00FEEF_00FEF0_000649,
   0x00FEF1_00FEF4_00064A, 0x01D6D3_01D6D4_0003C3, 0x01D70D_01D70E_0003C3, 0x01D747_01D748_0003C3,
   0x01D781_01D782_0003C3, 0x01D7BB_01D7BC_0003C3, 0x01D7CA_01D7CB_0003DD]

/-- Blocks in which every second character from the first on stands for the next. -/
def pairFolds : List Nat :=
  [0x000182_000184, 0x0001A2_0001A4, 0x0001B3_0001B5, 0x000222_000224, 0x000246_00024E,
   0x000370_000372, 0x0003D8_0003EE, 0x000460_000474, 0x000478_000480, 0x00048A_0004BE,
   0x0004C3_0004CD, 0x0004FA_00052E, 0x001EFA_001EFE, 0x002C67_002C6B, 0x002C80_002CE2,
   0x002CEB_002CED, 0x00A640_00A66C, 0x00A680_00A69A, 0x00A722_00A72E, 0x00A732_00A76E,
   0x00A779_00A77B, 0x00A77E_00A786, 0x00A790_00A792, 0x00A796_00A7A8, 0x00A7B4_00A7C2,
   0x00A7C7_00A7C9, 0x00A7CC_00A7DA]

/-- Characters that stand for several, which follow them. -/
def severalFolds : List Nat :=
  [0x0000A8_000020_000308, 0x0000AF_000020_000304, 0x0000B4_000020_000301, 0x0000B8_000020_000327,
   0x0000BC_000031_002044_000034, 0x0000BD_000031_002044_000032, 0x0000BE_000033_002044_000034,
   0x000132_000069_00006A, 0x000133_000069_00006A, 0x00013F_00006C_0000B7, 0x000140_00006C_0000B7,
   0x000149_0002BC_00006E, 0x0001C4_000064_00017E, 0x0001C5_000064_00017E, 0x0001C6_000064_00017E,
   0x0001C7_00006C_00006A, 0x0001C8_00006C_00006A, 0x0001C9_00006C_00006A, 0x0001CA_00006E_00006A,
   0x0001CB_00006E_00006A, 0x0001CC_00006E_00006A, 0x0001F1_000064_00007A, 0x0001F2_000064_00007A,
   0x0001F3_000064_00007A, 0x0002D8_000020_000306, 0x0002D9_000020_000307, 0x0002DA_000020_00030A,
   0x0002DB_000020_000328, 0x0002DC_000020_000303, 0x0002DD_000020_00030B, 0x00037A_000020_0003B9,
   0x000384_000020_000301, 0x000587_000565_000582, 0x000675_000627_000674, 0x000676_000648_000674,
   0x000677_0006C7_000674, 0x000678_00064A_000674, 0x000E33_000E4D_000E32, 0x000EB3_000ECD_000EB2,
   0x000EDC_000EAB_000E99, 0x000EDD_000EAB_000EA1, 0x000F77_000FB2_000F71_000F80,
   0x000F79_000FB3_000F71_000F80, 0x001E9A_000061_0002BE, 0x001FBD_000020_000313,
   0x001FBF_000020_000313, 0x001FC0_000020_000342, 0x001FFE_000020_000314, 0x002017_000020_000333,
   0x002033_002032_002032, 0x002034_002032_002032_002032, 0x002036_002035_002035,
   0x002037_002035_002035_002035, 0x00203C_000021_000021, 0x00203E_000020_000305,
   0x002047_00003F_00003F, 0x002048_00003F_000021, 0x002049_000021_00003F,
   0x002057_002032_002032_002032_002032, 0x0020A8_000072_000073, 0x002100_000061_00002F_000063,
   0x002101_000061_00002F_000073, 0x002103_0000B0_000063, 0x002105_000063_00002F_00006F,
   0x002106_000063_00002F_000075, 0x002109_0000B0_000066, 0x002116_00006E_00006F,
   0x002120_000073_00006D, 0x002121_000074_000065_00006C, 0x002122_000074_00006D,
   0x00213B_000066_000061_000078, 0x002150_000031_002044_000037, 0x002151_000031_002044_000039,
   0x002152_000031_002044_000031_000030, 0x002153_000031_002044_000033,
   0x002154_000032_002044_000033, 0x002155_000031_002044_000035, 0x002156_000032_002044_000035,
   0x002157_000033_002044_000035, 0x002158_000034_002044_000035, 0x002159_000031_002044_000036,
   0x00215A_000035_002044_000036, 0x00215B_000031_002044_000038, 0x00215C_000033_002044_000038,
   0x00215D_000035_002044_000038, 0x00215E_000037_002044_000038, 0x00215F_000031_002044,
   0x002161_000069_000069, 0x002162_000069_000069_000069, 0x002163_000069_000076,
   0x002165_000076_000069, 0x002166_000076_000069_000069, 0x002167_000076_000069_000069_000069,
   0x002168_000069_000078, 0x00216A_000078_000069, 0x00216B_000078_000069_000069,
   0x002171_000069_000069, 0x002172_000069_000069_000069, 0x002173_000069_000076,
   0x002175_000076_000069, 0x002176_000076_000069_000069, 0x002177_000076_000069_000069_000069,
   0x002178_000069_000078, 0x00217A_000078_000069, 0x00217B_000078_000069_000069,
   0x002189_000030_002044_000033, 0x00222C_00222B_00222B, 0x00222D_00222B_00222B_00222B,
   0x00222F_00222E_00222E, 0x002230_00222E_00222E_00222E, 0x002469_000031_000030,
   0x00246A_000031_000031, 0x00246B_000031_000032, 0x00246C_000031_000033, 0x00246D_000031_000034,
   0x00246E_000031_000035, 0x00246F_000031_000036, 0x002470_000031_000037, 0x002471_000031_000038,
   0x002472_000031_000039, 0x002473_000032_000030, 0x002474_000028_000031_000029,
   0x002475_000028_000032_000029, 0x002476_000028_000033_000029, 0x002477_000028_000034_000029,
   0x002478_000028_000035_000029, 0x002479_000028_000036_000029, 0x00247A_000028_000037_000029,
   0x00247B_000028_000038_000029, 0x00247C_000028_000039_000029,
   0x00247D_000028_000031_000030_000029, 0x00247E_000028_000031_000031_000029,
   0x00247F_000028_000031_000032_000029, 0x002480_000028_000031_000033_000029,
   0x002481_000028_000031_000034_000029, 0x002482_000028_000031_000035_000029,
   0x002483_000028_000031_000036_000029, 0x002484_000028_000031_000037_000029,
   0x002485_000028_000031_000038_000029, 0x002486_000028_000031_000039_000029,
   0x002487_000028_000032_000030_000029, 0x00249C_000028_000061_000029,
   0x00249D_000028_000062_000029, 0x00249E_000028_000063_000029, 0x00249F_000028_000064_000029,
   0x0024A0_000028_000065_000029, 0x0024A1_000028_000066_000029, 0x0024A2_000028_000067_000029,
   0x0024A3_000028_000068_000029, 0x0024A4_000028_000069_000029, 0x0024A5_000028_00006A_000029,
   0x0024A6_000028_00006B_000029, 0x0024A7_000028_00006C_000029, 0x0024A8_000028_00006D_000029,
   0x0024A9_000028_00006E_000029, 0x0024AA_000028_00006F_000029, 0x0024AB_000028_000070_000029,
   0x0024AC_000028_000071_000029, 0x0024AD_000028_000072_000029, 0x0024AE_000028_000073_000029,
   0x0024AF_000028_000074_000029, 0x0024B0_000028_000075_000029, 0x0024B1_000028_000076_000029,
   0x0024B2_000028_000077_000029, 0x0024B3_000028_000078_000029, 0x0024B4_000028_000079_000029,
   0x0024B5_000028_00007A_000029, 0x002A0C_00222B_00222B_00222B_00222B,
   0x002A74_00003A_00003A_00003D, 0x002A75_00003D_00003D, 0x002A76_00003D_00003D_00003D,
   0x00309B_000020_003099, 0x00309C_000020_00309A, 0x00309F_003088_00308A, 0x0030FF_0030B3_0030C8,
   0x003200_000028_001100_000029, 0x003201_000028_001102_000029, 0x003202_000028_001103_000029,
   0x003203_000028_001105_000029, 0x003204_000028_001106_000029, 0x003205_000028_001107_000029,
   0x003206_000028_001109_000029, 0x003207_000028_00110B_000029, 0x003208_000028_00110C_000029,
   0x003209_000028_00110E_000029, 0x00320A_000028_00110F_000029, 0x00320B_000028_001110_000029,
   0x00320C_000028_001111_000029, 0x00320D_000028_001112_000029, 0x00320E_000028_00AC00_000029,
   0x00320F_000028_00B098_000029, 0x003210_000028_00B2E4_000029, 0x003211_000028_00B77C_000029,
   0x003212_000028_00B9C8_000029, 0x003213_000028_00BC14_000029, 0x003214_000028_00C0AC_000029,
   0x003215_000028_00C544_000029, 0x003216_000028_00C790_000029, 0x003217_000028_00CC28_000029,
   0x003218_000028_00CE74_000029, 0x003219_000028_00D0C0_000029, 0x00321A_000028_00D30C_000029,
   0x00321B_000028_00D558_000029, 0x00321C_000028_00C8FC_000029,
   0x00321D_000028_00C624_00C804_000029, 0x00321E_000028_00C624_00D6C4_000029,
   0x003220_000028_004E00_000029, 0x003221_000028_004E8C_000029, 0x003222_000028_004E09_000029,
   0x003223_000028_0056DB_000029, 0x003224_000028_004E94_000029, 0x003225_000028_00516D_000029,
   0x003226_000028_004E03_000029, 0x003227_000028_00516B_000029, 0x003228_000028_004E5D_000029,
   0x003229_000028_005341_000029, 0x00322A_000028_006708_000029, 0x00322B_000028_00706B_000029,
   0x00322C_000028_006C34_000029, 0x00322D_000028_006728_000029, 0x00322E_000028_0091D1_000029,
   0x00322F_000028_00571F_000029, 0x003230_000028_0065E5_000029, 0x003231_000028_00682A_000029,
   0x003232_000028_006709_000029, 0x003233_000028_00793E_000029, 0x003234_000028_00540D_000029,
   0x003235_000028_007279_000029, 0x003236_000028_008CA1_000029, 0x003237_000028_00795D_000029,
   0x003238_000028_0052B4_000029, 0x003239_000028_004EE3_000029, 0x00323A_000028_00547C_000029,
   0x00323B_000028_005B66_000029, 0x00323C_000028_0076E3_000029, 0x00323D_000028_004F01_000029,
   0x00323E_000028_008CC7_000029, 0x00323F_000028_005354_000029, 0x003240_000028_00796D_000029,
   0x003241_000028_004F11_000029, 0x003242_000028_0081EA_000029, 0x003243_000028_0081F3_000029,
   0x003250_000070_000074_000065, 0x003251_000032_000031, 0x003252_000032_000032,
   0x003253_000032_000033, 0x003254_000032_000034, 0x003255_000032_000035, 0x003256_000032_000036,
   0x003257_000032_000037, 0x003258_000032_000038, 0x003259_000032_000039, 0x00325A_000033_000030,
   0x00325B_000033_000031, 0x00325C_000033_000032, 0x00325D_000033_000033, 0x00325E_000033_000034,
   0x00325F_000033_000035, 0x00327C_00CC38_00ACE0, 0x00327D_00C8FC_00C758, 0x0032B1_000033_000036,
   0x0032B2_000033_000037, 0x0032B3_000033_000038, 0x0032B4_000033_000039, 0x0032B5_000034_000030,
   0x0032B6_000034_000031, 0x0032B7_000034_000032, 0x0032B8_000034_000033, 0x0032B9_000034_000034,
   0x0032BA_000034_000035, 0x0032BB_000034_000036, 0x0032BC_000034_000037, 0x0032BD_000034_000038,
   0x0032BE_000034_000039, 0x0032BF_000035_000030, 0x0032C0_000031_006708, 0x0032C1_000032_006708,
   0x0032C2_000033_006708, 0x0032C3_000034_006708, 0x0032C4_000035_006708, 0x0032C5_000036_006708,
   0x0032C6_000037_006708, 0x0032C7_000038_006708, 0x0032C8_000039_006708,
   0x0032C9_000031_000030_006708, 0x0032CA_000031_000031_006708, 0x0032CB_000031_000032_006708,
   0x0032CC_000068_000067, 0x0032CD_000065_000072_000067, 0x0032CE_000065_000076,
   0x0032CF_00006C_000074_000064, 0x0032FF_004EE4_00548C, 0x003300_0030A2_0030D1_0030FC_0030C8,
   0x003301_0030A2_0030EB_0030D5_0030A1, 0x003302_0030A2_0030F3_0030DA_0030A2,
   0x003303_0030A2_0030FC_0030EB, 0x003304_0030A4_0030CB_0030F3_0030B0,
   0x003305_0030A4_0030F3_0030C1, 0x003306_0030A6_0030A9_0030F3,
   0x003307_0030A8_0030B9_0030AF_0030FC_0030C9, 0x003308_0030A8_0030FC_0030AB_0030FC,
   0x003309_0030AA_0030F3_0030B9, 0x00330A_0030AA_0030FC_0030E0, 0x00330B_0030AB_0030A4_0030EA,
   0x00330C_0030AB_0030E9_0030C3_0030C8, 0x00330D_0030AB_0030ED_0030EA_0030FC,
   0x00330E_0030AC_0030ED_0030F3, 0x00330F_0030AC_0030F3_0030DE, 0x003310_0030AE_0030AC,
   0x003311_0030AE_0030CB_0030FC, 0x003312_0030AD_0030E5_0030EA_0030FC,
   0x003313_0030AE_0030EB_0030C0_0030FC, 0x003314_0030AD_0030ED,
   0x003315_0030AD_0030ED_0030B0_0030E9_0030E0, 0x003316_0030AD_0030ED_0030E1_0030FC_0030C8_0030EB,
   0x003317_0030AD_0030ED_0030EF_0030C3_0030C8, 0x003318_0030B0_0030E9_0030E0,
   0x003319_0030B0_0030E9_0030E0_0030C8_0030F3, 0x00331A_0030AF_0030EB_0030BC_0030A4_0030ED,
   0x00331B_0030AF_0030ED_0030FC_0030CD, 0x00331C_0030B1_0030FC_0030B9,
   0x00331D_0030B3_0030EB_0030CA, 0x00331E_0030B3_0030FC_0030DD,
   0x00331F_0030B5_0030A4_0030AF_0030EB, 0x003320_0030B5_0030F3_0030C1_0030FC_0030E0,
   0x003321_0030B7_0030EA_0030F3_0030B0, 0x003322_0030BB_0030F3_0030C1,
   0x003323_0030BB_0030F3_0030C8, 0x003324_0030C0_0030FC_0030B9, 0x003325_0030C7_0030B7,
   0x003326_0030C9_0030EB, 0x003327_0030C8_0030F3, 0x003328_0030CA_0030CE,
   0x003329_0030CE_0030C3_0030C8, 0x00332A_0030CF_0030A4_0030C4,
   0x00332B_0030D1_0030FC_0030BB_0030F3_0030C8, 0x00332C_0030D1_0030FC_0030C4,
   0x00332D_0030D0_0030FC_0030EC_0030EB, 0x00332E_0030D4_0030A2_0030B9_0030C8_0030EB,
   0x00332F_0030D4_0030AF_0030EB, 0x003330_0030D4_0030B3, 0x003331_0030D3_0030EB,
   0x003332_0030D5_0030A1_0030E9_0030C3_0030C9, 0x003333_0030D5_0030A3_0030FC_0030C8,
   0x003334_0030D6_0030C3_0030B7_0030A7_0030EB, 0x003335_0030D5_0030E9_0030F3,
   0x003336_0030D8_0030AF_0030BF_0030FC_0030EB, 0x003337_0030DA_0030BD,
   0x003338_0030DA_0030CB_0030D2, 0x003339_0030D8_0030EB_0030C4, 0x00333A_0030DA_0030F3_0030B9,
   0x00333B_0030DA_0030FC_0030B8, 0x00333C_0030D9_0030FC_0030BF,
   0x00333D_0030DD_0030A4_0030F3_0030C8, 0x00333E_0030DC_0030EB_0030C8, 0x00333F_0030DB_0030F3,
   0x003340_0030DD_0030F3_0030C9, 0x003341_0030DB_0030FC_0030EB, 0x003342_0030DB_0030FC_0030F3,
   0x003343_0030DE_0030A4_0030AF_0030ED, 0x003344_0030DE_0030A4_0030EB,
   0x003345_0030DE_0030C3_0030CF, 0x003346_0030DE_0030EB_0030AF,
   0x003347_0030DE_0030F3_0030B7_0030E7_0030F3, 0x003348_0030DF_0030AF_0030ED_0030F3,
   0x003349_0030DF_0030EA, 0x00334A_0030DF_0030EA_0030D0_0030FC_0030EB, 0x00334B_0030E1_0030AC,
   0x00334C_0030E1_0030AC_0030C8_0030F3, 0x00334D_0030E1_0030FC_0030C8_0030EB,
   0x00334E_0030E4_0030FC_0030C9, 0x00334F_0030E4_0030FC_0030EB, 0x003350_0030E6_0030A2_0030F3,
   0x003351_0030EA_0030C3_0030C8_0030EB, 0x003352_0030EA_0030E9, 0x003353_0030EB_0030D4_0030FC,
   0x003354_0030EB_0030FC_0030D6_0030EB, 0x003355_0030EC_0030E0,
   0x003356_0030EC_0030F3_0030C8_0030B2_0030F3, 0x003357_0030EF_0030C3_0030C8,
   0x003358_000030_0070B9, 0x003359_000031_0070B9, 0x00335A_000032_0070B9, 0x00335B_000033_0070B9,
   0x00335C_000034_0070B9, 0x00335D_000035_0070B9, 0x00335E_000036_0070B9, 0x00335F_000037_0070B9,
   0x003360_000038_0070B9, 0x003361_000039_0070B9, 0x003362_000031_000030_0070B9,
   0x003363_000031_000031_0070B9, 0x003364_000031_000032_0070B9, 0x003365_000031_000033_0070B9,
   0x003366_000031_000034_0070B9, 0x003367_000031_000035_0070B9, 0x003368_000031_000036_0070B9,
   0x003369_000031_000037_0070B9, 0x00336A_000031_000038_0070B9, 0x00336B_000031_000039_0070B9,
   0x00336C_000032_000030_0070B9, 0x00336D_000032_000031_0070B9, 0x00336E_000032_000032_0070B9,
   0x00336F_000032_000033_0070B9, 0x003370_000032_000034_0070B9, 0x003371_000068_000070_000061,
   0x003372_000064_000061, 0x003373_000061_000075, 0x003374_000062_000061_000072,
   0x003375_00006F_000076, 0x003376_000070_000063, 0x003377_000064_00006D,
   0x003378_000064_00006D_000032, 0x003379_000064_00006D_000033, 0x00337A_000069_000075,
   0x00337B_005E73_006210, 0x00337C_00662D_00548C, 0x00337D_005927_006B63, 0x00337E_00660E_006CBB,
   0x00337F_00682A_005F0F_004F1A_00793E, 0x003380_000070_000061, 0x003381_00006E_000061,
   0x003382_0003BC_000061, 0x003383_00006D_000061, 0x003384_00006B_000061, 0x003385_00006B_000062,
   0x003386_00006D_000062, 0x003387_000067_000062, 0x003388_000063_000061_00006C,
   0x003389_00006B_000063_000061_00006C, 0x00338A_000070_000066, 0x00338B_00006E_000066,
   0x00338C_0003BC_000066, 0x00338D_0003BC_000067, 0x00338E_00006D_000067, 0x00338F_00006B_000067,
   0x003390_000068_00007A, 0x003391_00006B_000068_00007A, 0x003392_00006D_000068_00007A,
   0x003393_000067_000068_00007A, 0x003394_000074_000068_00007A, 0x003395_0003BC_00006C,
   0x003396_00006D_00006C, 0x003397_000064_00006C, 0x003398_00006B_00006C, 0x003399_000066_00006D,
   0x00339A_00006E_00006D, 0x00339B_0003BC_00006D, 0x00339C_00006D_00006D, 0x00339D_000063_00006D,
   0x00339E_00006B_00006D, 0x00339F_00006D_00006D_000032, 0x0033A0_000063_00006D_000032,
   0x0033A1_00006D_000032, 0x0033A2_00006B_00006D_000032, 0x0033A3_00006D_00006D_000033,
   0x0033A4_000063_00006D_000033, 0x0033A5_00006D_000033, 0x0033A6_00006B_00006D_000033,
   0x0033A7_00006D_002215_000073, 0x0033A8_00006D_002215_000073_000032, 0x0033A9_000070_000061,
   0x0033AA_00006B_000070_000061, 0x0033AB_00006D_000070_000061, 0x0033AC_000067_000070_000061,
   0x0033AD_000072_000061_000064, 0x0033AE_000072_000061_000064_002215_000073,
   0x0033AF_000072_000061_000064_002215_000073_000032, 0x0033B0_000070_000073,
   0x0033B1_00006E_000073, 0x0033B2_0003BC_000073, 0x0033B3_00006D_000073, 0x0033B4_000070_000076,
   0x0033B5_00006E_000076, 0x0033B6_0003BC_000076, 0x0033B7_00006D_000076, 0x0033B8_00006B_000076,
   0x0033B9_00006D_000076, 0x0033BA_000070_000077, 0x0033BB_00006E_000077, 0x0033BC_0003BC_000077,
   0x0033BD_00006D_000077, 0x0033BE_00006B_000077, 0x0033BF_00006D_000077, 0x0033C0_00006B_0003C9,
   0x0033C1_00006D_0003C9, 0x0033C3_000062_000071, 0x0033C4_000063_000063, 0x0033C5_000063_000064,
   0x0033C6_000063_002215_00006B_000067, 0x0033C8_000064_000062, 0x0033C9_000067_000079,
   0x0033CA_000068_000061, 0x0033CB_000068_000070, 0x0033CC_000069_00006E, 0x0033CD_00006B_00006B,
   0x0033CE_00006B_00006D, 0x0033CF_00006B_000074, 0x0033D0_00006C_00006D, 0x0033D1_00006C_00006E,
   0x0033D2_00006C_00006F_000067, 0x0033D3_00006C_000078, 0x0033D4_00006D_000062,
   0x0033D5_00006D_000069_00006C, 0x0033D6_00006D_00006F_00006C, 0x0033D7_000070_000068,
   0x0033D9_000070_000070_00006D, 0x0033DA_000070_000072, 0x0033DB_000073_000072,
   0x0033DC_000073_000076, 0x0033DD_000077_000062, 0x0033DE_000076_002215_00006D,
   0x0033DF_000061_002215_00006D, 0x0033E0_000031_0065E5, 0x0033E1_000032_0065E5,
   0x0033E2_000033_0065E5, 0x0033E3_000034_0065E5, 0x0033E4_000035_0065E5, 0x0033E5_000036_0065E5,
   0x0033E6_000037_0065E5, 0x0033E7_000038_0065E5, 0x0033E8_000039_0065E5,
   0x0033E9_000031_000030_0065E5, 0x0033EA_000031_000031_0065E5, 0x0033EB_000031_000032_0065E5,
   0x0033EC_000031_000033_0065E5, 0x0033ED_000031_000034_0065E5, 0x0033EE_000031_000035_0065E5,
   0x0033EF_000031_000036_0065E5, 0x0033F0_000031_000037_0065E5, 0x0033F1_000031_000038_0065E5,
   0x0033F2_000031_000039_0065E5, 0x0033F3_000032_000030_0065E5, 0x0033F4_000032_000031_0065E5,
   0x0033F5_000032_000032_0065E5, 0x0033F6_000032_000033_0065E5, 0x0033F7_000032_000034_0065E5,
   0x0033F8_000032_000035_0065E5, 0x0033F9_000032_000036_0065E5, 0x0033FA_000032_000037_0065E5,
   0x0033FB_000032_000038_0065E5, 0x0033FC_000032_000039_0065E5, 0x0033FD_000033_000030_0065E5,
   0x0033FE_000033_000031_0065E5, 0x0033FF_000067_000061_00006C, 0x00FB00_000066_000066,
   0x00FB01_000066_000069, 0x00FB02_000066_00006C, 0x00FB03_000066_000066_000069,
   0x00FB04_000066_000066_00006C, 0x00FB05_000073_000074, 0x00FB06_000073_000074,
   0x00FB13_000574_000576, 0x00FB14_000574_000565, 0x00FB15_000574_00056B, 0x00FB16_00057E_000576,
   0x00FB17_000574_00056D, 0x00FB4F_0005D0_0005DC, 0x00FBDD_0006C7_000674, 0x00FBEA_000626_000627,
   0x00FBEB_000626_000627, 0x00FBEC_000626_0006D5, 0x00FBED_000626_0006D5, 0x00FBEE_000626_000648,
   0x00FBEF_000626_000648, 0x00FBF0_000626_0006C7, 0x00FBF1_000626_0006C7, 0x00FBF2_000626_0006C6,
   0x00FBF3_000626_0006C6, 0x00FBF4_000626_0006C8, 0x00FBF5_000626_0006C8, 0x00FBF6_000626_0006D0,
   0x00FBF7_000626_0006D0, 0x00FBF8_000626_0006D0, 0x00FBF9_000626_000649, 0x00FBFA_000626_000649,
   0x00FBFB_000626_000649, 0x00FC00_000626_00062C, 0x00FC01_000626_00062D, 0x00FC02_000626_000645,
   0x00FC03_000626_000649, 0x00FC04_000626_00064A, 0x00FC05_000628_00062C, 0x00FC06_000628_00062D,
   0x00FC07_000628_00062E, 0x00FC08_000628_000645, 0x00FC09_000628_000649, 0x00FC0A_000628_00064A,
   0x00FC0B_00062A_00062C, 0x00FC0C_00062A_00062D, 0x00FC0D_00062A_00062E, 0x00FC0E_00062A_000645,
   0x00FC0F_00062A_000649, 0x00FC10_00062A_00064A, 0x00FC11_00062B_00062C, 0x00FC12_00062B_000645,
   0x00FC13_00062B_000649, 0x00FC14_00062B_00064A, 0x00FC15_00062C_00062D, 0x00FC16_00062C_000645,
   0x00FC17_00062D_00062C, 0x00FC18_00062D_000645, 0x00FC19_00062E_00062C, 0x00FC1A_00062E_00062D,
   0x00FC1B_00062E_000645, 0x00FC1C_000633_00062C, 0x00FC1D_000633_00062D, 0x00FC1E_000633_00062E,
   0x00FC1F_000633_000645, 0x00FC20_000635_00062D, 0x00FC21_000635_000645, 0x00FC22_000636_00062C,
   0x00FC23_000636_00062D, 0x00FC24_000636_00062E, 0x00FC25_000636_000645, 0x00FC26_000637_00062D,
   0x00FC27_000637_000645, 0x00FC28_000638_000645, 0x00FC29_000639_00062C, 0x00FC2A_000639_000645,
   0x00FC2B_00063A_00062C, 0x00FC2C_00063A_000645, 0x00FC2D_000641_00062C, 0x00FC2E_000641_00062D,
   0x00FC2F_000641_00062E, 0x00FC30_000641_000645, 0x00FC31_000641_000649, 0x00FC32_000641_00064A,
   0x00FC33_000642_00062D, 0x00FC34_000642_000645, 0x00FC35_000642_000649, 0x00FC36_000642_00064A,
   0x00FC37_000643_000627, 0x00FC38_000643_00062C, 0x00FC39_000643_00062D, 0x00FC3A_000643_00062E,
   0x00FC3B_000643_000644, 0x00FC3C_000643_000645, 0x00FC3D_000643_000649, 0x00FC3E_000643_00064A,
   0x00FC3F_000644_00062C, 0x00FC40_000644_00062D, 0x00FC41_000644_00062E, 0x00FC42_000644_000645,
   0x00FC43_000644_000649, 0x00FC44_000644_00064A, 0x00FC45_000645_00062C, 0x00FC46_000645_00062D,
   0x00FC47_000645_00062E, 0x00FC48_000645_000645, 0x00FC49_000645_000649, 0x00FC4A_000645_00064A,
   0x00FC4B_000646_00062C, 0x00FC4C_000646_00062D, 0x00FC4D_000646_00062E, 0x00FC4E_000646_000645,
   0x00FC4F_000646_000649, 0x00FC50_000646_00064A, 0x00FC51_000647_00062C, 0x00FC52_000647_000645,
   0x00FC53_000647_000649, 0x00FC54_000647_00064A, 0x00FC55_00064A_00062C, 0x00FC56_00064A_00062D,
   0x00FC57_00064A_00062E, 0x00FC58_00064A_000645, 0x00FC59_00064A_000649, 0x00FC5A_00064A_00064A,
   0x00FC5B_000630_000670, 0x00FC5C_000631_000670, 0x00FC5D_000649_000670,
   0x00FC5E_000020_00064C_000651, 0x00FC5F_000020_00064D_000651, 0x00FC60_000020_00064E_000651,
   0x00FC61_000020_00064F_000651, 0x00FC62_000020_000650_000651, 0x00FC63_000020_000651_000670,
   0x00FC64_000626_000631, 0x00FC65_000626_000632, 0x00FC66_000626_000645, 0x00FC67_000626_000646,
   0x00FC68_000626_000649, 0x00FC69_000626_00064A, 0x00FC6A_000628_000631, 0x00FC6B_000628_000632,
   0x00FC6C_000628_000645, 0x00FC6D_000628_000646, 0x00FC6E_000628_000649, 0x00FC6F_000628_00064A,
   0x00FC70_00062A_000631, 0x00FC71_00062A_000632, 0x00FC72_00062A_000645, 0x00FC73_00062A_000646,
   0x00FC74_00062A_000649, 0x00FC75_00062A_00064A, 0x00FC76_00062B_000631, 0x00FC77_00062B_000632,
   0x00FC78_00062B_000645, 0x00FC79_00062B_000646, 0x00FC7A_00062B_000649, 0x00FC7B_00062B_00064A,
   0x00FC7C_000641_000649, 0x00FC7D_000641_00064A, 0x00FC7E_000642_000649, 0x00FC7F_000642_00064A,
   0x00FC80_000643_000627, 0x00FC81_000643_000644, 0x00FC82_000643_000645, 0x00FC83_000643_000649,
   0x00FC84_000643_00064A, 0x00FC85_000644_000645, 0x00FC86_000644_000649, 0x00FC87_000644_00064A,
   0x00FC88_000645_000627, 0x00FC89_000645_000645, 0x00FC8A_000646_000631, 0x00FC8B_000646_000632,
   0x00FC8C_000646_000645, 0x00FC8D_000646_000646, 0x00FC8E_000646_000649, 0x00FC8F_000646_00064A,
   0x00FC90_000649_000670, 0x00FC91_00064A_000631, 0x00FC92_00064A_000632, 0x00FC93_00064A_000645,
   0x00FC94_00064A_000646, 0x00FC95_00064A_000649, 0x00FC96_00064A_00064A, 0x00FC97_000626_00062C,
   0x00FC98_000626_00062D, 0x00FC99_000626_00062E, 0x00FC9A_000626_000645, 0x00FC9B_000626_000647,
   0x00FC9C_000628_00062C, 0x00FC9D_000628_00062D, 0x00FC9E_000628_00062E, 0x00FC9F_000628_000645,
   0x00FCA0_000628_000647, 0x00FCA1_00062A_00062C, 0x00FCA2_00062A_00062D, 0x00FCA3_00062A_00062E,
   0x00FCA4_00062A_000645, 0x00FCA5_00062A_000647, 0x00FCA6_00062B_000645, 0x00FCA7_00062C_00062D,
   0x00FCA8_00062C_000645, 0x00FCA9_00062D_00062C, 0x00FCAA_00062D_000645, 0x00FCAB_00062E_00062C,
   0x00FCAC_00062E_000645, 0x00FCAD_000633_00062C, 0x00FCAE_000633_00062D, 0x00FCAF_000633_00062E,
   0x00FCB0_000633_000645, 0x00FCB1_000635_00062D, 0x00FCB2_000635_00062E, 0x00FCB3_000635_000645,
   0x00FCB4_000636_00062C, 0x00FCB5_000636_00062D, 0x00FCB6_000636_00062E, 0x00FCB7_000636_000645,
   0x00FCB8_000637_00062D, 0x00FCB9_000638_000645, 0x00FCBA_000639_00062C, 0x00FCBB_000639_000645,
   0x00FCBC_00063A_00062C, 0x00FCBD_00063A_000645, 0x00FCBE_000641_00062C, 0x00FCBF_000641_00062D,
   0x00FCC0_000641_00062E, 0x00FCC1_000641_000645, 0x00FCC2_000642_00062D, 0x00FCC3_000642_000645,
   0x00FCC4_000643_00062C, 0x00FCC5_000643_00062D, 0x00FCC6_000643_00062E, 0x00FCC7_000643_000644,
   0x00FCC8_000643_000645, 0x00FCC9_000644_00062C, 0x00FCCA_000644_00062D, 0x00FCCB_000644_00062E,
   0x00FCCC_000644_000645, 0x00FCCD_000644_000647, 0x00FCCE_000645_00062C, 0x00FCCF_000645_00062D,
   0x00FCD0_000645_00062E, 0x00FCD1_000645_000645, 0x00FCD2_000646_00062C, 0x00FCD3_000646_00062D,
   0x00FCD4_000646_00062E, 0x00FCD5_000646_000645, 0x00FCD6_000646_000647, 0x00FCD7_000647_00062C,
   0x00FCD8_000647_000645, 0x00FCD9_000647_000670, 0x00FCDA_00064A_00062C, 0x00FCDB_00064A_00062D,
   0x00FCDC_00064A_00062E, 0x00FCDD_00064A_000645, 0x00FCDE_00064A_000647, 0x00FCDF_000626_000645,
   0x00FCE0_000626_000647, 0x00FCE1_000628_000645, 0x00FCE2_000628_000647, 0x00FCE3_00062A_000645,
   0x00FCE4_00062A_000647, 0x00FCE5_00062B_000645, 0x00FCE6_00062B_000647, 0x00FCE7_000633_000645,
   0x00FCE8_000633_000647, 0x00FCE9_000634_000645, 0x00FCEA_000634_000647, 0x00FCEB_000643_000644,
   0x00FCEC_000643_000645, 0x00FCED_000644_000645, 0x00FCEE_000646_000645, 0x00FCEF_000646_000647,
   0x00FCF0_00064A_000645, 0x00FCF1_00064A_000647, 0x00FCF2_000640_00064E_000651,
   0x00FCF3_000640_00064F_000651, 0x00FCF4_000640_000650_000651, 0x00FCF5_000637_000649,
   0x00FCF6_000637_00064A, 0x00FCF7_000639_000649, 0x00FCF8_000639_00064A, 0x00FCF9_00063A_000649,
   0x00FCFA_00063A_00064A, 0x00FCFB_000633_000649, 0x00FCFC_000633_00064A, 0x00FCFD_000634_000649,
   0x00FCFE_000634_00064A, 0x00FCFF_00062D_000649, 0x00FD00_00062D_00064A, 0x00FD01_00062C_000649,
   0x00FD02_00062C_00064A, 0x00FD03_00062E_000649, 0x00FD04_00062E_00064A, 0x00FD05_000635_000649,
   0x00FD06_000635_00064A, 0x00FD07_000636_000649, 0x00FD08_000636_00064A, 0x00FD09_000634_00062C,
   0x00FD0A_000634_00062D, 0x00FD0B_000634_00062E, 0x00FD0C_000634_000645, 0x00FD0D_000634_000631,
   0x00FD0E_000633_000631, 0x00FD0F_000635_000631, 0x00FD10_000636_000631, 0x00FD11_000637_000649,
   0x00FD12_000637_00064A, 0x00FD13_000639_000649, 0x00FD14_000639_00064A, 0x00FD15_00063A_000649,
   0x00FD16_00063A_00064A, 0x00FD17_000633_000649, 0x00FD18_000633_00064A, 0x00FD19_000634_000649,
   0x00FD1A_000634_00064A, 0x00FD1B_00062D_000649, 0x00FD1C_00062D_00064A, 0x00FD1D_00062C_000649,
   0x00FD1E_00062C_00064A, 0x00FD1F_00062E_000649, 0x00FD20_00062E_00064A, 0x00FD21_000635_000649,
   0x00FD22_000635_00064A, 0x00FD23_000636_000649, 0x00FD24_000636_00064A, 0x00FD25_000634_00062C,
   0x00FD26_000634_00062D, 0x00FD27_000634_00062E, 0x00FD28_000634_000645, 0x00FD29_000634_000631,
   0x00FD2A_000633_000631, 0x00FD2B_000635_000631, 0x00FD2C_000636_000631, 0x00FD2D_000634_00062C,
   0x00FD2E_000634_00062D, 0x00FD2F_000634_00062E, 0x00FD30_000634_000645, 0x00FD31_000633_000647,
   0x00FD32_000634_000647, 0x00FD33_000637_000645, 0x00FD34_000633_00062C, 0x00FD35_000633_00062D,
   0x00FD36_000633_00062E, 0x00FD37_000634_00062C, 0x00FD38_000634_00062D, 0x00FD39_000634_00062E,
   0x00FD3A_000637_000645, 0x00FD3B_000638_000645, 0x00FD3C_000627_00064B, 0x00FD3D_000627_00064B,
   0x00FD50_00062A_00062C_000645, 0x00FD51_00062A_00062D_00062C, 0x00FD52_00062A_00062D_00062C,
   0x00FD53_00062A_00062D_000645, 0x00FD54_00062A_00062E_000645, 0x00FD55_00062A_000645_00062C,
   0x00FD56_00062A_000645_00062D, 0x00FD57_00062A_000645_00062E, 0x00FD58_00062C_000645_00062D,
   0x00FD59_00062C_000645_00062D, 0x00FD5A_00062D_000645_00064A, 0x00FD5B_00062D_000645_000649,
   0x00FD5C_000633_00062D_00062C, 0x00FD5D_000633_00062C_00062D, 0x00FD5E_000633_00062C_000649,
   0x00FD5F_000633_000645_00062D, 0x00FD60_000633_000645_00062D, 0x00FD61_000633_000645_00062C,
   0x00FD62_000633_000645_000645, 0x00FD63_000633_000645_000645, 0x00FD64_000635_00062D_00062D,
   0x00FD65_000635_00062D_00062D, 0x00FD66_000635_000645_000645, 0x00FD67_000634_00062D_000645,
   0x00FD68_000634_00062D_000645, 0x00FD69_000634_00062C_00064A, 0x00FD6A_000634_000645_00062E,
   0x00FD6B_000634_000645_00062E, 0x00FD6C_000634_000645_000645, 0x00FD6D_000634_000645_000645,
   0x00FD6E_000636_00062D_000649, 0x00FD6F_000636_00062E_000645, 0x00FD70_000636_00062E_000645,
   0x00FD71_000637_000645_00062D, 0x00FD72_000637_000645_00062D, 0x00FD73_000637_000645_000645,
   0x00FD74_000637_000645_00064A, 0x00FD75_000639_00062C_000645, 0x00FD76_000639_000645_000645,
   0x00FD77_000639_000645_000645, 0x00FD78_000639_000645_000649, 0x00FD79_00063A_000645_000645,
   0x00FD7A_00063A_000645_00064A, 0x00FD7B_00063A_000645_000649, 0x00FD7C_000641_00062E_000645,
   0x00FD7D_000641_00062E_000645, 0x00FD7E_000642_000645_00062D, 0x00FD7F_000642_000645_000645,
   0x00FD80_000644_00062D_000645, 0x00FD81_000644_00062D_00064A, 0x00FD82_000644_00062D_000649,
   0x00FD83_000644_00062C_00062C, 0x00FD84_000644_00062C_00062C, 0x00FD85_000644_00062E_000645,
   0x00FD86_000644_00062E_000645, 0x00FD87_000644_000645_00062D, 0x00FD88_000644_000645_00062D,
   0x00FD89_000645_00062D_00062C, 0x00FD8A_000645_00062D_000645, 0x00FD8B_000645_00062D_00064A,
   0x00FD8C_000645_00062C_00062D, 0x00FD8D_000645_00062C_000645, 0x00FD8E_000645_00062E_00062C,
   0x00FD8F_000645_00062E_000645, 0x00FD92_000645_00062C_00062E, 0x00FD93_000647_000645_00062C,
   0x00FD94_000647_000645_000645, 0x00FD95_000646_00062D_000645, 0x00FD96_000646_00062D_000649,
   0x00FD97_000646_00062C_000645, 0x00FD98_000646_00062C_000645, 0x00FD99_000646_00062C_000649,
   0x00FD9A_000646_000645_00064A, 0x00FD9B_000646_000645_000649, 0x00FD9C_00064A_000645_000645,
   0x00FD9D_00064A_000645_000645, 0x00FD9E_000628_00062E_00064A, 0x00FD9F_00062A_00062C_00064A,
   0x00FDA0_00062A_00062C_000649, 0x00FDA1_00062A_00062E_00064A, 0x00FDA2_00062A_00062E_000649,
   0x00FDA3_00062A_000645_00064A, 0x00FDA4_00062A_000645_000649, 0x00FDA5_00062C_000645_00064A,
   0x00FDA6_00062C_00062D_000649, 0x00FDA7_00062C_000645_000649, 0x00FDA8_000633_00062E_000649,
   0x00FDA9_000635_00062D_00064A, 0x00FDAA_000634_00062D_00064A, 0x00FDAB_000636_00062D_00064A,
   0x00FDAC_000644_00062C_00064A, 0x00FDAD_000644_000645_00064A, 0x00FDAE_00064A_00062D_00064A,
   0x00FDAF_00064A_00062C_00064A, 0x00FDB0_00064A_000645_00064A, 0x00FDB1_000645_000645_00064A,
   0x00FDB2_000642_000645_00064A, 0x00FDB3_000646_00062D_00064A, 0x00FDB4_000642_000645_00062D,
   0x00FDB5_000644_00062D_000645, 0x00FDB6_000639_000645_00064A, 0x00FDB7_000643_000645_00064A,
   0x00FDB8_000646_00062C_00062D, 0x00FDB9_000645_00062E_00064A, 0x00FDBA_000644_00062C_000645,
   0x00FDBB_000643_000645_000645, 0x00FDBC_000644_00062C_000645, 0x00FDBD_000646_00062C_00062D,
   0x00FDBE_00062C_00062D_00064A, 0x00FDBF_00062D_00062C_00064A, 0x00FDC0_000645_00062C_00064A,
   0x00FDC1_000641_000645_00064A, 0x00FDC2_000628_00062D_00064A, 0x00FDC3_000643_000645_000645,
   0x00FDC4_000639_00062C_000645, 0x00FDC5_000635_000645_000645, 0x00FDC6_000633_00062E_00064A,
   0x00FDC7_000646_00062C_00064A, 0x00FDF0_000635_000644_0006D2, 0x00FDF1_000642_000644_0006D2,
   0x00FDF2_000627_000644_000644_000647, 0x00FDF3_000627_000643_000628_000631,
   0x00FDF4_000645_00062D_000645_00062F, 0x00FDF5_000635_000644_000639_000645,
   0x00FDF6_000631_000633_000648_000644, 0x00FDF7_000639_000644_00064A_000647,
   0x00FDF8_000648_000633_000644_000645, 0x00FDF9_000635_000644_000649,
   0x00FDFB_00062C_000644_000020_00062C_000644_000627_000644_000647,
   0x00FDFC_000631_0006CC_000627_000644, 0x00FE49_000020_000305, 0x00FE4A_000020_000305,
   0x00FE4B_000020_000305, 0x00FE4C_000020_000305, 0x00FE70_000020_00064B, 0x00FE71_000640_00064B,
   0x00FE72_000020_00064C, 0x00FE74_000020_00064D, 0x00FE76_000020_00064E, 0x00FE77_000640_00064E,
   0x00FE78_000020_00064F, 0x00FE79_000640_00064F, 0x00FE7A_000020_000650, 0x00FE7B_000640_000650,
   0x00FE7C_000020_000651, 0x00FE7D_000640_000651, 0x00FE7E_000020_000652, 0x00FE7F_000640_000652,
   0x00FEF5_000644_000622, 0x00FEF6_000644_000622, 0x00FEF7_000644_000623, 0x00FEF8_000644_000623,
   0x00FEF9_000644_000625, 0x00FEFA_000644_000625, 0x00FEFB_000644_000627, 0x00FEFC_000644_000627,
   0x00FFE3_000020_000304, 0x01F101_000030_00002C, 0x01F102_000031_00002C, 0x01F103_000032_00002C,
   0x01F104_000033_00002C, 0x01F105_000034_00002C, 0x01F106_000035_00002C, 0x01F107_000036_00002C,
   0x01F108_000037_00002C, 0x01F109_000038_00002C, 0x01F10A_000039_00002C,
   0x01F110_000028_000061_000029, 0x01F111_000028_000062_000029, 0x01F112_000028_000063_000029,
   0x01F113_000028_000064_000029, 0x01F114_000028_000065_000029, 0x01F115_000028_000066_000029,
   0x01F116_000028_000067_000029, 0x01F117_000028_000068_000029, 0x01F118_000028_000069_000029,
   0x01F119_000028_00006A_000029, 0x01F11A_000028_00006B_000029, 0x01F11B_000028_00006C_000029,
   0x01F11C_000028_00006D_000029, 0x01F11D_000028_00006E_000029, 0x01F11E_000028_00006F_000029,
   0x01F11F_000028_000070_000029, 0x01F120_000028_000071_000029, 0x01F121_000028_000072_000029,
   0x01F122_000028_000073_000029, 0x01F123_000028_000074_000029, 0x01F124_000028_000075_000029,
   0x01F125_000028_000076_000029, 0x01F126_000028_000077_000029, 0x01F127_000028_000078_000029,
   0x01F128_000028_000079_000029, 0x01F129_000028_00007A_000029, 0x01F12A_003014_000073_003015,
   0x01F12D_000063_000064, 0x01F12E_000077_00007A, 0x01F14A_000068_000076, 0x01F14B_00006D_000076,
   0x01F14C_000073_000064, 0x01F14D_000073_000073, 0x01F14E_000070_000070_000076,
   0x01F14F_000077_000063, 0x01F16A_00006D_000063, 0x01F16B_00006D_000064, 0x01F16C_00006D_000072,
   0x01F190_000064_00006A, 0x01F200_00307B_00304B, 0x01F201_0030B3_0030B3,
   0x01F240_003014_00672C_003015, 0x01F241_003014_004E09_003015, 0x01F242_003014_004E8C_003015,
   0x01F243_003014_005B89_003015, 0x01F244_003014_0070B9_003015, 0x01F245_003014_006253_003015,
   0x01F246_003014_0076D7_003015, 0x01F247_003014_0052DD_003015, 0x01F248_003014_006557_003015]

/-- The character that stands for the most, the words of a blessing, and those. -/
def longestFold : List Nat :=
  [0xFDFA, 0x635, 0x644, 0x649, 0x20, 0x627, 0x644, 0x644, 0x647, 0x20, 0x639, 0x644, 0x64A, 0x647,
   0x20, 0x648, 0x633, 0x644, 0x645]

end RouteTable.Url.Domain
