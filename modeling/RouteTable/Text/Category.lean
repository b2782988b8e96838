import RouteTable.Text.CodePoints

/-!
The general categories of Unicode 16. Surrogates are in none of them.
-/

namespace RouteTable.Text

def luPoints : CodePoints := .ofNumerals
  [0x000041_00005A, 0x0000C0_0000D6, 0x0000D8_0000DE, 0x000100_000100, 0x000102_000102,
   0x000104_000104, 0x000106_000106, 0x000108_000108, 0x00010A_00010A, 0x00010C_00010C,
   0x00010E_00010E, 0x000110_000110, 0x000112_000112, 0x000114_000114, 0x000116_000116,
   0x000118_000118, 0x00011A_00011A, 0x00011C_00011C, 0x00011E_00011E, 0x000120_000120,
   0x000122_000122, 0x000124_000124, 0x000126_000126, 0x000128_000128, 0x00012A_00012A,
   0x00012C_00012C, 0x00012E_00012E, 0x000130_000130, 0x000132_000132, 0x000134_000134,
   0x000136_000136, 0x000139_000139, 0x00013B_00013B, 0x00013D_00013D, 0x00013F_00013F,
   0x000141_000141, 0x000143_000143, 0x000145_000145, 0x000147_000147, 0x00014A_00014A,
   0x00014C_00014C, 0x00014E_00014E, 0x000150_000150, 0x000152_000152, 0x000154_000154,
   0x000156_000156, 0x000158_000158, 0x00015A_00015A, 0x00015C_00015C, 0x00015E_00015E,
   0x000160_000160, 0x000162_000162, 0x000164_000164, 0x000166_000166, 0x000168_000168,
   0x00016A_00016A, 0x00016C_00016C, 0x00016E_00016E, 0x000170_000170, 0x000172_000172,
   0x000174_000174, 0x000176_000176, 0x000178_000179, 0x00017B_00017B, 0x00017D_00017D,
   0x000181_000182, 0x000184_000184, 0x000186_000187, 0x000189_00018B, 0x00018E_000191,
   0x000193_000194, 0x000196_000198, 0x00019C_00019D, 0x00019F_0001A0, 0x0001A2_0001A2,
   0x0001A4_0001A4, 0x0001A6_0001A7, 0x0001A9_0001A9, 0x0001AC_0001AC, 0x0001AE_0001AF,
   0x0001B1_0001B3, 0x0001B5_0001B5, 0x0001B7_0001B8, 0x0001BC_0001BC, 0x0001C4_0001C4,
   0x0001C7_0001C7, 0x0001CA_0001CA, 0x0001CD_0001CD, 0x0001CF_0001CF, 0x0001D1_0001D1,
   0x0001D3_0001D3, 0x0001D5_0001D5, 0x0001D7_0001D7, 0x0001D9_0001D9, 0x0001DB_0001DB,
   0x0001DE_0001DE, 0x0001E0_0001E0, 0x0001E2_0001E2, 0x0001E4_0001E4, 0x0001E6_0001E6,
   0x0001E8_0001E8, 0x0001EA_0001EA, 0x0001EC_0001EC, 0x0001EE_0001EE, 0x0001F1_0001F1,
   0x0001F4_0001F4, 0x0001F6_0001F8, 0x0001FA_0001FA, 0x0001FC_0001FC, 0x0001FE_0001FE,
   0x000200_000200, 0x000202_000202, 0x000204_000204, 0x000206_000206, 0x000208_000208,
   0x00020A_00020A, 0x00020C_00020C, 0x00020E_00020E, 0x000210_000210, 0x000212_000212,
   0x000214_000214, 0x000216_000216, 0x000218_000218, 0x00021A_00021A, 0x00021C_00021C,
   0x00021E_00021E, 0x000220_000220, 0x000222_000222, 0x000224_000224, 0x000226_000226,
   0x000228_000228, 0x00022A_00022A, 0x00022C_00022C, 0x00022E_00022E, 0x000230_000230,
   0x000232_000232, 0x00023A_00023B, 0x00023D_00023E, 0x000241_000241, 0x000243_000246,
   0x000248_000248, 0x00024A_00024A, 0x00024C_00024C, 0x00024E_00024E, 0x000370_000370,
   0x000372_000372, 0x000376_000376, 0x00037F_00037F, 0x000386_000386, 0x000388_00038A,
   0x00038C_00038C, 0x00038E_00038F, 0x000391_0003A1, 0x0003A3_0003AB, 0x0003CF_0003CF,
   0x0003D2_0003D4, 0x0003D8_0003D8, 0x0003DA_0003DA, 0x0003DC_0003DC, 0x0003DE_0003DE,
   0x0003E0_0003E0, 0x0003E2_0003E2, 0x0003E4_0003E4, 0x0003E6_0003E6, 0x0003E8_0003E8,
   0x0003EA_0003EA, 0x0003EC_0003EC, 0x0003EE_0003EE, 0x0003F4_0003F4, 0x0003F7_0003F7,
   0x0003F9_0003FA, 0x0003FD_00042F, 0x000460_000460, 0x000462_000462, 0x000464_000464,
   0x000466_000466, 0x000468_000468, 0x00046A_00046A, 0x00046C_00046C, 0x00046E_00046E,
   0x000470_000470, 0x000472_000472, 0x000474_000474, 0x000476_000476, 0x000478_000478,
   0x00047A_00047A, 0x00047C_00047C, 0x00047E_00047E, 0x000480_000480, 0x00048A_00048A,
   0x00048C_00048C, 0x00048E_00048E, 0x000490_000490, 0x000492_000492, 0x000494_000494,
   0x000496_000496, 0x000498_000498, 0x00049A_00049A, 0x00049C_00049C, 0x00049E_00049E,
   0x0004A0_0004A0, 0x0004A2_0004A2, 0x0004A4_0004A4, 0x0004A6_0004A6, 0x0004A8_0004A8,
   0x0004AA_0004AA, 0x0004AC_0004AC, 0x0004AE_0004AE, 0x0004B0_0004B0, 0x0004B2_0004B2,
   0x0004B4_0004B4, 0x0004B6_0004B6, 0x0004B8_0004B8, 0x0004BA_0004BA, 0x0004BC_0004BC,
   0x0004BE_0004BE, 0x0004C0_0004C1, 0x0004C3_0004C3, 0x0004C5_0004C5, 0x0004C7_0004C7,
   0x0004C9_0004C9, 0x0004CB_0004CB, 0x0004CD_0004CD, 0x0004D0_0004D0, 0x0004D2_0004D2,
   0x0004D4_0004D4, 0x0004D6_0004D6, 0x0004D8_0004D8, 0x0004DA_0004DA, 0x0004DC_0004DC,
   0x0004DE_0004DE, 0x0004E0_0004E0, 0x0004E2_0004E2, 0x0004E4_0004E4, 0x0004E6_0004E6,
   0x0004E8_0004E8, 0x0004EA_0004EA, 0x0004EC_0004EC, 0x0004EE_0004EE, 0x0004F0_0004F0,
   0x0004F2_0004F2, 0x0004F4_0004F4, 0x0004F6_0004F6, 0x0004F8_0004F8, 0x0004FA_0004FA,
   0x0004FC_0004FC, 0x0004FE_0004FE, 0x000500_000500, 0x000502_000502, 0x000504_000504,
   0x000506_000506, 0x000508_000508, 0x00050A_00050A, 0x00050C_00050C, 0x00050E_00050E,
   0x000510_000510, 0x000512_000512, 0x000514_000514, 0x000516_000516, 0x000518_000518,
   0x00051A_00051A, 0x00051C_00051C, 0x00051E_00051E, 0x000520_000520, 0x000522_000522,
   0x000524_000524, 0x000526_000526, 0x000528_000528, 0x00052A_00052A, 0x00052C_00052C,
   0x00052E_00052E, 0x000531_000556, 0x0010A0_0010C5, 0x0010C7_0010C7, 0x0010CD_0010CD,
   0x0013A0_0013F5, 0x001C89_001C89, 0x001C90_001CBA, 0x001CBD_001CBF, 0x001E00_001E00,
   0x001E02_001E02, 0x001E04_001E04, 0x001E06_001E06, 0x001E08_001E08, 0x001E0A_001E0A,
   0x001E0C_001E0C, 0x001E0E_001E0E, 0x001E10_001E10, 0x001E12_001E12, 0x001E14_001E14,
   0x001E16_001E16, 0x001E18_001E18, 0x001E1A_001E1A, 0x001E1C_001E1C, 0x001E1E_001E1E,
   0x001E20_001E20, 0x001E22_001E22, 0x001E24_001E24, 0x001E26_001E26, 0x001E28_001E28,
   0x001E2A_001E2A, 0x001E2C_001E2C, 0x001E2E_001E2E, 0x001E30_001E30, 0x001E32_001E32,
   0x001E34_001E34, 0x001E36_001E36, 0x001E38_001E38, 0x001E3A_001E3A, 0x001E3C_001E3C,
   0x001E3E_001E3E, 0x001E40_001E40, 0x001E42_001E42, 0x001E44_001E44, 0x001E46_001E46,
   0x001E48_001E48, 0x001E4A_001E4A, 0x001E4C_001E4C, 0x001E4E_001E4E, 0x001E50_001E50,
   0x001E52_001E52, 0x001E54_001E54, 0x001E56_001E56, 0x001E58_001E58, 0x001E5A_001E5A,
   0x001E5C_001E5C, 0x001E5E_001E5E, 0x001E60_001E60, 0x001E62_001E62, 0x001E64_001E64,
   0x001E66_001E66, 0x001E68_001E68, 0x001E6A_001E6A, 0x001E6C_001E6C, 0x001E6E_001E6E,
   0x001E70_001E70, 0x001E72_001E72, 0x001E74_001E74, 0x001E76_001E76, 0x001E78_001E78,
   0x001E7A_001E7A, 0x001E7C_001E7C, 0x001E7E_001E7E, 0x001E80_001E80, 0x001E82_001E82,
   0x001E84_001E84, 0x001E86_001E86, 0x001E88_001E88, 0x001E8A_001E8A, 0x001E8C_001E8C,
   0x001E8E_001E8E, 0x001E90_001E90, 0x001E92_001E92, 0x001E94_001E94, 0x001E9E_001E9E,
   0x001EA0_001EA0, 0x001EA2_001EA2, 0x001EA4_001EA4, 0x001EA6_001EA6, 0x001EA8_001EA8,
   0x001EAA_001EAA, 0x001EAC_001EAC, 0x001EAE_001EAE, 0x001EB0_001EB0, 0x001EB2_001EB2,
   0x001EB4_001EB4, 0x001EB6_001EB6, 0x001EB8_001EB8, 0x001EBA_001EBA, 0x001EBC_001EBC,
   0x001EBE_001EBE, 0x001EC0_001EC0, 0x001EC2_001EC2, 0x001EC4_001EC4, 0x001EC6_001EC6,
   0x001EC8_001EC8, 0x001ECA_001ECA, 0x001ECC_001ECC, 0x001ECE_001ECE, 0x001ED0_001ED0,
   0x001ED2_001ED2, 0x001ED4_001ED4, 0x001ED6_001ED6, 0x001ED8_001ED8, 0x001EDA_001EDA,
   0x001EDC_001EDC, 0x001EDE_001EDE, 0x001EE0_001EE0, 0x001EE2_001EE2, 0x001EE4_001EE4,
   0x001EE6_001EE6, 0x001EE8_001EE8, 0x001EEA_001EEA, 0x001EEC_001EEC, 0x001EEE_001EEE,
   0x001EF0_001EF0, 0x001EF2_001EF2, 0x001EF4_001EF4, 0x001EF6_001EF6, 0x001EF8_001EF8,
   0x001EFA_001EFA, 0x001EFC_001EFC, 0x001EFE_001EFE, 0x001F08_001F0F, 0x001F18_001F1D,
   0x001F28_001F2F, 0x001F38_001F3F, 0x001F48_001F4D, 0x001F59_001F59, 0x001F5B_001F5B,
   0x001F5D_001F5D, 0x001F5F_001F5F, 0x001F68_001F6F, 0x001FB8_001FBB, 0x001FC8_001FCB,
   0x001FD8_001FDB, 0x001FE8_001FEC, 0x001FF8_001FFB, 0x002102_002102, 0x002107_002107,
   0x00210B_00210D, 0x002110_002112, 0x002115_002115, 0x002119_00211D, 0x002124_002124,
   0x002126_002126, 0x002128_002128, 0x00212A_00212D, 0x002130_002133, 0x00213E_00213F,
   0x002145_002145, 0x002183_002183, 0x002C00_002C2F, 0x002C60_002C60, 0x002C62_002C64,
   0x002C67_002C67, 0x002C69_002C69, 0x002C6B_002C6B, 0x002C6D_002C70, 0x002C72_002C72,
   0x002C75_002C75, 0x002C7E_002C80, 0x002C82_002C82, 0x002C84_002C84, 0x002C86_002C86,
   0x002C88_002C88, 0x002C8A_002C8A, 0x002C8C_002C8C, 0x002C8E_002C8E, 0x002C90_002C90,
   0x002C92_002C92, 0x002C94_002C94, 0x002C96_002C96, 0x002C98_002C98, 0x002C9A_002C9A,
   0x002C9C_002C9C, 0x002C9E_002C9E, 0x002CA0_002CA0, 0x002CA2_002CA2, 0x002CA4_002CA4,
   0x002CA6_002CA6, 0x002CA8_002CA8, 0x002CAA_002CAA, 0x002CAC_002CAC, 0x002CAE_002CAE,
   0x002CB0_002CB0, 0x002CB2_002CB2, 0x002CB4_002CB4, 0x002CB6_002CB6, 0x002CB8_002CB8,
   0x002CBA_002CBA, 0x002CBC_002CBC, 0x002CBE_002CBE, 0x002CC0_002CC0, 0x002CC2_002CC2,
   0x002CC4_002CC4, 0x002CC6_002CC6, 0x002CC8_002CC8, 0x002CCA_002CCA, 0x002CCC_002CCC,
   0x002CCE_002CCE, 0x002CD0_002CD0, 0x002CD2_002CD2, 0x002CD4_002CD4, 0x002CD6_002CD6,
   0x002CD8_002CD8, 0x002CDA_002CDA, 0x002CDC_002CDC, 0x002CDE_002CDE, 0x002CE0_002CE0,
   0x002CE2_002CE2, 0x002CEB_002CEB, 0x002CED_002CED, 0x002CF2_002CF2, 0x00A640_00A640,
   0x00A642_00A642, 0x00A644_00A644, 0x00A646_00A646, 0x00A648_00A648, 0x00A64A_00A64A,
   0x00A64C_00A64C, 0x00A64E_00A64E, 0x00A650_00A650, 0x00A652_00A652, 0x00A654_00A654,
   0x00A656_00A656, 0x00A658_00A658, 0x00A65A_00A65A, 0x00A65C_00A65C, 0x00A65E_00A65E,
   0x00A660_00A660, 0x00A662_00A662, 0x00A664_00A664, 0x00A666_00A666, 0x00A668_00A668,
   0x00A66A_00A66A, 0x00A66C_00A66C, 0x00A680_00A680, 0x00A682_00A682, 0x00A684_00A684,
   0x00A686_00A686, 0x00A688_00A688, 0x00A68A_00A68A, 0x00A68C_00A68C, 0x00A68E_00A68E,
   0x00A690_00A690, 0x00A692_00A692, 0x00A694_00A694, 0x00A696_00A696, 0x00A698_00A698,
   0x00A69A_00A69A, 0x00A722_00A722, 0x00A724_00A724, 0x00A726_00A726, 0x00A728_00A728,
   0x00A72A_00A72A, 0x00A72C_00A72C, 0x00A72E_00A72E, 0x00A732_00A732, 0x00A734_00A734,
   0x00A736_00A736, 0x00A738_00A738, 0x00A73A_00A73A, 0x00A73C_00A73C, 0x00A73E_00A73E,
   0x00A740_00A740, 0x00A742_00A742, 0x00A744_00A744, 0x00A746_00A746, 0x00A748_00A748,
   0x00A74A_00A74A, 0x00A74C_00A74C, 0x00A74E_00A74E, 0x00A750_00A750, 0x00A752_00A752,
   0x00A754_00A754, 0x00A756_00A756, 0x00A758_00A758, 0x00A75A_00A75A, 0x00A75C_00A75C,
   0x00A75E_00A75E, 0x00A760_00A760, 0x00A762_00A762, 0x00A764_00A764, 0x00A766_00A766,
   0x00A768_00A768, 0x00A76A_00A76A, 0x00A76C_00A76C, 0x00A76E_00A76E, 0x00A779_00A779,
   0x00A77B_00A77B, 0x00A77D_00A77E, 0x00A780_00A780, 0x00A782_00A782, 0x00A784_00A784,
   0x00A786_00A786, 0x00A78B_00A78B, 0x00A78D_00A78D, 0x00A790_00A790, 0x00A792_00A792,
   0x00A796_00A796, 0x00A798_00A798, 0x00A79A_00A79A, 0x00A79C_00A79C, 0x00A79E_00A79E,
   0x00A7A0_00A7A0, 0x00A7A2_00A7A2, 0x00A7A4_00A7A4, 0x00A7A6_00A7A6, 0x00A7A8_00A7A8,
   0x00A7AA_00A7AE, 0x00A7B0_00A7B4, 0x00A7B6_00A7B6, 0x00A7B8_00A7B8, 0x00A7BA_00A7BA,
   0x00A7BC_00A7BC, 0x00A7BE_00A7BE, 0x00A7C0_00A7C0, 0x00A7C2_00A7C2, 0x00A7C4_00A7C7,
   0x00A7C9_00A7C9, 0x00A7CB_00A7CC, 0x00A7D0_00A7D0, 0x00A7D6_00A7D6, 0x00A7D8_00A7D8,
   0x00A7DA_00A7DA, 0x00A7DC_00A7DC, 0x00A7F5_00A7F5, 0x00FF21_00FF3A, 0x010400_010427,
   0x0104B0_0104D3, 0x010570_01057A, 0x01057C_01058A, 0x01058C_010592, 0x010594_010595,
   0x010C80_010CB2, 0x010D50_010D65, 0x0118A0_0118BF, 0x016E40_016E5F, 0x01D400_01D419,
   0x01D434_01D44D, 0x01D468_01D481, 0x01D49C_01D49C, 0x01D49E_01D49F, 0x01D4A2_01D4A2,
   0x01D4A5_01D4A6, 0x01D4A9_01D4AC, 0x01D4AE_01D4B5, 0x01D4D0_01D4E9, 0x01D504_01D505,
   0x01D507_01D50A, 0x01D50D_01D514, 0x01D516_01D51C, 0x01D538_01D539, 0x01D53B_01D53E,
   0x01D540_01D544, 0x01D546_01D546, 0x01D54A_01D550, 0x01D56C_01D585, 0x01D5A0_01D5B9,
   0x01D5D4_01D5ED, 0x01D608_01D621, 0x01D63C_01D655, 0x01D670_01D689, 0x01D6A8_01D6C0,
   0x01D6E2_01D6FA, 0x01D71C_01D734, 0x01D756_01D76E, 0x01D790_01D7A8, 0x01D7CA_01D7CA,
   0x01E900_01E921]

def llPoints : CodePoints := .ofNumerals
  [0x000061_00007A, 0x0000B5_0000B5, 0x0000DF_0000F6, 0x0000F8_0000FF, 0x000101_000101,
   0x000103_000103, 0x000105_000105, 0x000107_000107, 0x000109_000109, 0x00010B_00010B,
   0x00010D_00010D, 0x00010F_00010F, 0x000111_000111, 0x000113_000113, 0x000115_000115,
   0x000117_000117, 0x000119_000119, 0x00011B_00011B, 0x00011D_00011D, 0x00011F_00011F,
   0x000121_000121, 0x000123_000123, 0x000125_000125, 0x000127_000127, 0x000129_000129,
   0x00012B_00012B, 0x00012D_00012D, 0x00012F_00012F, 0x000131_000131, 0x000133_000133,
   0x000135_000135, 0x000137_000138, 0x00013A_00013A, 0x00013C_00013C, 0x00013E_00013E,
   0x000140_000140, 0x000142_000142, 0x000144_000144, 0x000146_000146, 0x000148_000149,
   0x00014B_00014B, 0x00014D_00014D, 0x00014F_00014F, 0x000151_000151, 0x000153_000153,
   0x000155_000155, 0x000157_000157, 0x000159_000159, 0x00015B_00015B, 0x00015D_00015D,
   0x00015F_00015F, 0x000161_000161, 0x000163_000163, 0x000165_000165, 0x000167_000167,
   0x000169_000169, 0x00016B_00016B, 0x00016D_00016D, 0x00016F_00016F, 0x000171_000171,
   0x000173_000173, 0x000175_000175, 0x000177_000177, 0x00017A_00017A, 0x00017C_00017C,
   0x00017E_000180, 0x000183_000183, 0x000185_000185, 0x000188_000188, 0x00018C_00018D,
   0x000192_000192, 0x000195_000195, 0x000199_00019B, 0x00019E_00019E, 0x0001A1_0001A1,
   0x0001A3_0001A3, 0x0001A5_0001A5, 0x0001A8_0001A8, 0x0001AA_0001AB, 0x0001AD_0001AD,
   0x0001B0_0001B0, 0x0001B4_0001B4, 0x0001B6_0001B6, 0x0001B9_0001BA, 0x0001BD_0001BF,
   0x0001C6_0001C6, 0x0001C9_0001C9, 0x0001CC_0001CC, 0x0001CE_0001CE, 0x0001D0_0001D0,
   0x0001D2_0001D2, 0x0001D4_0001D4, 0x0001D6_0001D6, 0x0001D8_0001D8, 0x0001DA_0001DA,
   0x0001DC_0001DD, 0x0001DF_0001DF, 0x0001E1_0001E1, 0x0001E3_0001E3, 0x0001E5_0001E5,
   0x0001E7_0001E7, 0x0001E9_0001E9, 0x0001EB_0001EB, 0x0001ED_0001ED, 0x0001EF_0001F0,
   0x0001F3_0001F3, 0x0001F5_0001F5, 0x0001F9_0001F9, 0x0001FB_0001FB, 0x0001FD_0001FD,
   0x0001FF_0001FF, 0x000201_000201, 0x000203_000203, 0x000205_000205, 0x000207_000207,
   0x000209_000209, 0x00020B_00020B, 0x00020D_00020D, 0x00020F_00020F, 0x000211_000211,
   0x000213_000213, 0x000215_000215, 0x000217_000217, 0x000219_000219, 0x00021B_00021B,
   0x00021D_00021D, 0x00021F_00021F, 0x000221_000221, 0x000223_000223, 0x000225_000225,
   0x000227_000227, 0x000229_000229, 0x00022B_00022B, 0x00022D_00022D, 0x00022F_00022F,
   0x000231_000231, 0x000233_000239, 0x00023C_00023C, 0x00023F_000240, 0x000242_000242,
   0x000247_000247, 0x000249_000249, 0x00024B_00024B, 0x00024D_00024D, 0x00024F_000293,
   0x000295_0002AF, 0x000371_000371, 0x000373_000373, 0x000377_000377, 0x00037B_00037D,
   0x000390_000390, 0x0003AC_0003CE, 0x0003D0_0003D1, 0x0003D5_0003D7, 0x0003D9_0003D9,
   0x0003DB_0003DB, 0x0003DD_0003DD, 0x0003DF_0003DF, 0x0003E1_0003E1, 0x0003E3_0003E3,
   0x0003E5_0003E5, 0x0003E7_0003E7, 0x0003E9_0003E9, 0x0003EB_0003EB, 0x0003ED_0003ED,
   0x0003EF_0003F3, 0x0003F5_0003F5, 0x0003F8_0003F8, 0x0003FB_0003FC, 0x000430_00045F,
   0x000461_000461, 0x000463_000463, 0x000465_000465, 0x000467_000467, 0x000469_000469,
   0x00046B_00046B, 0x00046D_00046D, 0x00046F_00046F, 0x000471_000471, 0x000473_000473,
   0x000475_000475, 0x000477_000477, 0x000479_000479, 0x00047B_00047B, 0x00047D_00047D,
   0x00047F_00047F, 0x000481_000481, 0x00048B_00048B, 0x00048D_00048D, 0x00048F_00048F,
   0x000491_000491, 0x000493_000493, 0x000495_000495, 0x000497_000497, 0x000499_000499,
   0x00049B_00049B, 0x00049D_00049D, 0x00049F_00049F, 0x0004A1_0004A1, 0x0004A3_0004A3,
   0x0004A5_0004A5, 0x0004A7_0004A7, 0x0004A9_0004A9, 0x0004AB_0004AB, 0x0004AD_0004AD,
   0x0004AF_0004AF, 0x0004B1_0004B1, 0x0004B3_0004B3, 0x0004B5_0004B5, 0x0004B7_0004B7,
   0x0004B9_0004B9, 0x0004BB_0004BB, 0x0004BD_0004BD, 0x0004BF_0004BF, 0x0004C2_0004C2,
   0x0004C4_0004C4, 0x0004C6_0004C6, 0x0004C8_0004C8, 0x0004CA_0004CA, 0x0004CC_0004CC,
   0x0004CE_0004CF, 0x0004D1_0004D1, 0x0004D3_0004D3, 0x0004D5_0004D5, 0x0004D7_0004D7,
   0x0004D9_0004D9, 0x0004DB_0004DB, 0x0004DD_0004DD, 0x0004DF_0004DF, 0x0004E1_0004E1,
   0x0004E3_0004E3, 0x0004E5_0004E5, 0x0004E7_0004E7, 0x0004E9_0004E9, 0x0004EB_0004EB,
   0x0004ED_0004ED, 0x0004EF_0004EF, 0x0004F1_0004F1, 0x0004F3_0004F3, 0x0004F5_0004F5,
   0x0004F7_0004F7, 0x0004F9_0004F9, 0x0004FB_0004FB, 0x0004FD_0004FD, 0x0004FF_0004FF,
   0x000501_000501, 0x000503_000503, 0x000505_000505, 0x000507_000507, 0x000509_000509,
   0x00050B_00050B, 0x00050D_00050D, 0x00050F_00050F, 0x000511_000511, 0x000513_000513,
   0x000515_000515, 0x000517_000517, 0x000519_000519, 0x00051B_00051B, 0x00051D_00051D,
   0x00051F_00051F, 0x000521_000521, 0x000523_000523, 0x000525_000525, 0x000527_000527,
   0x000529_000529, 0x00052B_00052B, 0x00052D_00052D, 0x00052F_00052F, 0x000560_000588,
   0x0010D0_0010FA, 0x0010FD_0010FF, 0x0013F8_0013FD, 0x001C80_001C88, 0x001C8A_001C8A,
   0x001D00_001D2B, 0x001D6B_001D77, 0x001D79_001D9A, 0x001E01_001E01, 0x001E03_001E03,
   0x001E05_001E05, 0x001E07_001E07, 0x001E09_001E09, 0x001E0B_001E0B, 0x001E0D_001E0D,
   0x001E0F_001E0F, 0x001E11_001E11, 0x001E13_001E13, 0x001E15_001E15, 0x001E17_001E17,
   0x001E19_001E19, 0x001E1B_001E1B, 0x001E1D_001E1D, 0x001E1F_001E1F, 0x001E21_001E21,
   0x001E23_001E23, 0x001E25_001E25, 0x001E27_001E27, 0x001E29_001E29, 0x001E2B_001E2B,
   0x001E2D_001E2D, 0x001E2F_001E2F, 0x001E31_001E31, 0x001E33_001E33, 0x001E35_001E35,
   0x001E37_001E37, 0x001E39_001E39, 0x001E3B_001E3B, 0x001E3D_001E3D, 0x001E3F_001E3F,
   0x001E41_001E41, 0x001E43_001E43, 0x001E45_001E45, 0x001E47_001E47, 0x001E49_001E49,
   0x001E4B_001E4B, 0x001E4D_001E4D, 0x001E4F_001E4F, 0x001E51_001E51, 0x001E53_001E53,
   0x001E55_001E55, 0x001E57_001E57, 0x001E59_001E59, 0x001E5B_001E5B, 0x001E5D_001E5D,
   0x001E5F_001E5F, 0x001E61_001E61, 0x001E63_001E63, 0x001E65_001E65, 0x001E67_001E67,
   0x001E69_001E69, 0x001E6B_001E6B, 0x001E6D_001E6D, 0x001E6F_001E6F, 0x001E71_001E71,
   0x001E73_001E73, 0x001E75_001E75, 0x001E77_001E77, 0x001E79_001E79, 0x001E7B_001E7B,
   0x001E7D_001E7D, 0x001E7F_001E7F, 0x001E81_001E81, 0x001E83_001E83, 0x001E85_001E85,
   0x001E87_001E87, 0x001E89_001E89, 0x001E8B_001E8B, 0x001E8D_001E8D, 0x001E8F_001E8F,
   0x001E91_001E91, 0x001E93_001E93, 0x001E95_001E9D, 0x001E9F_001E9F, 0x001EA1_001EA1,
   0x001EA3_001EA3, 0x001EA5_001EA5, 0x001EA7_001EA7, 0x001EA9_001EA9, 0x001EAB_001EAB,
   0x001EAD_001EAD, 0x001EAF_001EAF, 0x001EB1_001EB1, 0x001EB3_001EB3, 0x001EB5_001EB5,
   0x001EB7_001EB7, 0x001EB9_001EB9, 0x001EBB_001EBB, 0x001EBD_001EBD, 0x001EBF_001EBF,
   0x001EC1_001EC1, 0x001EC3_001EC3, 0x001EC5_001EC5, 0x001EC7_001EC7, 0x001EC9_001EC9,
   0x001ECB_001ECB, 0x001ECD_001ECD, 0x001ECF_001ECF, 0x001ED1_001ED1, 0x001ED3_001ED3,
   0x001ED5_001ED5, 0x001ED7_001ED7, 0x001ED9_001ED9, 0x001EDB_001EDB, 0x001EDD_001EDD,
   0x001EDF_001EDF, 0x001EE1_001EE1, 0x001EE3_001EE3, 0x001EE5_001EE5, 0x001EE7_001EE7,
   0x001EE9_001EE9, 0x001EEB_001EEB, 0x001EED_001EED, 0x001EEF_001EEF, 0x001EF1_001EF1,
   0x001EF3_001EF3, 0x001EF5_001EF5, 0x001EF7_001EF7, 0x001EF9_001EF9, 0x001EFB_001EFB,
   0x001EFD_001EFD, 0x001EFF_001F07, 0x001F10_001F15, 0x001F20_001F27, 0x001F30_001F37,
   0x001F40_001F45, 0x001F50_001F57, 0x001F60_001F67, 0x001F70_001F7D, 0x001F80_001F87,
   0x001F90_001F97, 0x001FA0_001FA7, 0x001FB0_001FB4, 0x001FB6_001FB7, 0x001FBE_001FBE,
   0x001FC2_001FC4, 0x001FC6_001FC7, 0x001FD0_001FD3, 0x001FD6_001FD7, 0x001FE0_001FE7,
   0x001FF2_001FF4, 0x001FF6_001FF7, 0x00210A_00210A, 0x00210E_00210F, 0x002113_002113,
   0x00212F_00212F, 0x002134_002134, 0x002139_002139, 0x00213C_00213D, 0x002146_002149,
   0x00214E_00214E, 0x002184_002184, 0x002C30_002C5F, 0x002C61_002C61, 0x002C65_002C66,
   0x002C68_002C68, 0x002C6A_002C6A, 0x002C6C_002C6C, 0x002C71_002C71, 0x002C73_002C74,
   0x002C76_002C7B, 0x002C81_002C81, 0x002C83_002C83, 0x002C85_002C85, 0x002C87_002C87,
   0x002C89_002C89, 0x002C8B_002C8B, 0x002C8D_002C8D, 0x002C8F_002C8F, 0x002C91_002C91,
   0x002C93_002C93, 0x002C95_002C95, 0x002C97_002C97, 0x002C99_002C99, 0x002C9B_002C9B,
   0x002C9D_002C9D, 0x002C9F_002C9F, 0x002CA1_002CA1, 0x002CA3_002CA3, 0x002CA5_002CA5,
   0x002CA7_002CA7, 0x002CA9_002CA9, 0x002CAB_002CAB, 0x002CAD_002CAD, 0x002CAF_002CAF,
   0x002CB1_002CB1, 0x002CB3_002CB3, 0x002CB5_002CB5, 0x002CB7_002CB7, 0x002CB9_002CB9,
   0x002CBB_002CBB, 0x002CBD_002CBD, 0x002CBF_002CBF, 0x002CC1_002CC1, 0x002CC3_002CC3,
   0x002CC5_002CC5, 0x002CC7_002CC7, 0x002CC9_002CC9, 0x002CCB_002CCB, 0x002CCD_002CCD,
   0x002CCF_002CCF, 0x002CD1_002CD1, 0x002CD3_002CD3, 0x002CD5_002CD5, 0x002CD7_002CD7,
   0x002CD9_002CD9, 0x002CDB_002CDB, 0x002CDD_002CDD, 0x002CDF_002CDF, 0x002CE1_002CE1,
   0x002CE3_002CE4, 0x002CEC_002CEC, 0x002CEE_002CEE, 0x002CF3_002CF3, 0x002D00_002D25,
   0x002D27_002D27, 0x002D2D_002D2D, 0x00A641_00A641, 0x00A643_00A643, 0x00A645_00A645,
   0x00A647_00A647, 0x00A649_00A649, 0x00A64B_00A64B, 0x00A64D_00A64D, 0x00A64F_00A64F,
   0x00A651_00A651, 0x00A653_00A653, 0x00A655_00A655, 0x00A657_00A657, 0x00A659_00A659,
   0x00A65B_00A65B, 0x00A65D_00A65D, 0x00A65F_00A65F, 0x00A661_00A661, 0x00A663_00A663,
   0x00A665_00A665, 0x00A667_00A667, 0x00A669_00A669, 0x00A66B_00A66B, 0x00A66D_00A66D,
   0x00A681_00A681, 0x00A683_00A683, 0x00A685_00A685, 0x00A687_00A687, 0x00A689_00A689,
   0x00A68B_00A68B, 0x00A68D_00A68D, 0x00A68F_00A68F, 0x00A691_00A691, 0x00A693_00A693,
   0x00A695_00A695, 0x00A697_00A697, 0x00A699_00A699, 0x00A69B_00A69B, 0x00A723_00A723,
   0x00A725_00A725, 0x00A727_00A727, 0x00A729_00A729, 0x00A72B_00A72B, 0x00A72D_00A72D,
   0x00A72F_00A731, 0x00A733_00A733, 0x00A735_00A735, 0x00A737_00A737, 0x00A739_00A739,
   0x00A73B_00A73B, 0x00A73D_00A73D, 0x00A73F_00A73F, 0x00A741_00A741, 0x00A743_00A743,
   0x00A745_00A745, 0x00A747_00A747, 0x00A749_00A749, 0x00A74B_00A74B, 0x00A74D_00A74D,
   0x00A74F_00A74F, 0x00A751_00A751, 0x00A753_00A753, 0x00A755_00A755, 0x00A757_00A757,
   0x00A759_00A759, 0x00A75B_00A75B, 0x00A75D_00A75D, 0x00A75F_00A75F, 0x00A761_00A761,
   0x00A763_00A763, 0x00A765_00A765, 0x00A767_00A767, 0x00A769_00A769, 0x00A76B_00A76B,
   0x00A76D_00A76D, 0x00A76F_00A76F, 0x00A771_00A778, 0x00A77A_00A77A, 0x00A77C_00A77C,
   0x00A77F_00A77F, 0x00A781_00A781, 0x00A783_00A783, 0x00A785_00A785, 0x00A787_00A787,
   0x00A78C_00A78C, 0x00A78E_00A78E, 0x00A791_00A791, 0x00A793_00A795, 0x00A797_00A797,
   0x00A799_00A799, 0x00A79B_00A79B, 0x00A79D_00A79D, 0x00A79F_00A79F, 0x00A7A1_00A7A1,
   0x00A7A3_00A7A3, 0x00A7A5_00A7A5, 0x00A7A7_00A7A7, 0x00A7A9_00A7A9, 0x00A7AF_00A7AF,
   0x00A7B5_00A7B5, 0x00A7B7_00A7B7, 0x00A7B9_00A7B9, 0x00A7BB_00A7BB, 0x00A7BD_00A7BD,
   0x00A7BF_00A7BF, 0x00A7C1_00A7C1, 0x00A7C3_00A7C3, 0x00A7C8_00A7C8, 0x00A7CA_00A7CA,
   0x00A7CD_00A7CD, 0x00A7D1_00A7D1, 0x00A7D3_00A7D3, 0x00A7D5_00A7D5, 0x00A7D7_00A7D7,
   0x00A7D9_00A7D9, 0x00A7DB_00A7DB, 0x00A7F6_00A7F6, 0x00A7FA_00A7FA, 0x00AB30_00AB5A,
   0x00AB60_00AB68, 0x00AB70_00ABBF, 0x00FB00_00FB06, 0x00FB13_00FB17, 0x00FF41_00FF5A,
   0x010428_01044F, 0x0104D8_0104FB, 0x010597_0105A1, 0x0105A3_0105B1, 0x0105B3_0105B9,
   0x0105BB_0105BC, 0x010CC0_010CF2, 0x010D70_010D85, 0x0118C0_0118DF, 0x016E60_016E7F,
   0x01D41A_01D433, 0x01D44E_01D454, 0x01D456_01D467, 0x01D482_01D49B, 0x01D4B6_01D4B9,
   0x01D4BB_01D4BB, 0x01D4BD_01D4C3, 0x01D4C5_01D4CF, 0x01D4EA_01D503, 0x01D51E_01D537,
   0x01D552_01D56B, 0x01D586_01D59F, 0x01D5BA_01D5D3, 0x01D5EE_01D607, 0x01D622_01D63B,
   0x01D656_01D66F, 0x01D68A_01D6A5, 0x01D6C2_01D6DA, 0x01D6DC_01D6E1, 0x01D6FC_01D714,
   0x01D716_01D71B, 0x01D736_01D74E, 0x01D750_01D755, 0x01D770_01D788, 0x01D78A_01D78F,
   0x01D7AA_01D7C2, 0x01D7C4_01D7C9, 0x01D7CB_01D7CB, 0x01DF00_01DF09, 0x01DF0B_01DF1E,
   0x01DF25_01DF2A, 0x01E922_01E943]

def ltPoints : CodePoints := .ofNumerals
  [0x0001C5_0001C5, 0x0001C8_0001C8, 0x0001CB_0001CB, 0x0001F2_0001F2, 0x001F88_001F8F,
   0x001F98_001F9F, 0x001FA8_001FAF, 0x001FBC_001FBC, 0x001FCC_001FCC, 0x001FFC_001FFC]

def lmPoints : CodePoints := .ofNumerals
  [0x0002B0_0002C1, 0x0002C6_0002D1, 0x0002E0_0002E4, 0x0002EC_0002EC, 0x0002EE_0002EE,
   0x000374_000374, 0x00037A_00037A, 0x000559_000559, 0x000640_000640, 0x0006E5_0006E6,
   0x0007F4_0007F5, 0x0007FA_0007FA, 0x00081A_00081A, 0x000824_000824, 0x000828_000828,
   0x0008C9_0008C9, 0x000971_000971, 0x000E46_000E46, 0x000EC6_000EC6, 0x0010FC_0010FC,
   0x0017D7_0017D7, 0x001843_001843, 0x001AA7_001AA7, 0x001C78_001C7D, 0x001D2C_001D6A,
   0x001D78_001D78, 0x001D9B_001DBF, 0x002071_002071, 0x00207F_00207F, 0x002090_00209C,
   0x002C7C_002C7D, 0x002D6F_002D6F, 0x002E2F_002E2F, 0x003005_003005, 0x003031_003035,
   0x00303B_00303B, 0x00309D_00309E, 0x0030FC_0030FE, 0x00A015_00A015, 0x00A4F8_00A4FD,
   0x00A60C_00A60C, 0x00A67F_00A67F, 0x00A69C_00A69D, 0x00A717_00A71F, 0x00A770_00A770,
   0x00A788_00A788, 0x00A7F2_00A7F4, 0x00A7F8_00A7F9, 0x00A9CF_00A9CF, 0x00A9E6_00A9E6,
   0x00AA70_00AA70, 0x00AADD_00AADD, 0x00AAF3_00AAF4, 0x00AB5C_00AB5F, 0x00AB69_00AB69,
   0x00FF70_00FF70, 0x00FF9E_00FF9F, 0x010780_010785, 0x010787_0107B0, 0x0107B2_0107BA,
   0x010D4E_010D4E, 0x010D6F_010D6F, 0x016B40_016B43, 0x016D40_016D42, 0x016D6B_016D6C,
   0x016F93_016F9F, 0x016FE0_016FE1, 0x016FE3_016FE3, 0x01AFF0_01AFF3, 0x01AFF5_01AFFB,
   0x01AFFD_01AFFE, 0x01E030_01E06D, 0x01E137_01E13D, 0x01E4EB_01E4EB, 0x01E94B_01E94B]

def loPoints : CodePoints := .ofNumerals
  [0x0000AA_0000AA, 0x0000BA_0000BA, 0x0001BB_0001BB, 0x0001C0_0001C3, 0x000294_000294,
   0x0005D0_0005EA, 0x0005EF_0005F2, 0x000620_00063F, 0x000641_00064A, 0x00066E_00066F,
   0x000671_0006D3, 0x0006D5_0006D5, 0x0006EE_0006EF, 0x0006FA_0006FC, 0x0006FF_0006FF,
   0x000710_000710, 0x000712_00072F, 0x00074D_0007A5, 0x0007B1_0007B1, 0x0007CA_0007EA,
   0x000800_000815, 0x000840_000858, 0x000860_00086A, 0x000870_000887, 0x000889_00088E,
   0x0008A0_0008C8, 0x000904_000939, 0x00093D_00093D, 0x000950_000950, 0x000958_000961,
   0x000972_000980, 0x000985_00098C, 0x00098F_000990, 0x000993_0009A8, 0x0009AA_0009B0,
   0x0009B2_0009B2, 0x0009B6_0009B9, 0x0009BD_0009BD, 0x0009CE_0009CE, 0x0009DC_0009DD,
   0x0009DF_0009E1, 0x0009F0_0009F1, 0x0009FC_0009FC, 0x000A05_000A0A, 0x000A0F_000A10,
   0x000A13_000A28, 0x000A2A_000A30, 0x000A32_000A33, 0x000A35_000A36, 0x000A38_000A39,
   0x000A59_000A5C, 0x000A5E_000A5E, 0x000A72_000A74, 0x000A85_000A8D, 0x000A8F_000A91,
   0x000A93_000AA8, 0x000AAA_000AB0, 0x000AB2_000AB3, 0x000AB5_000AB9, 0x000ABD_000ABD,
   0x000AD0_000AD0, 0x000AE0_000AE1, 0x000AF9_000AF9, 0x000B05_000B0C, 0x000B0F_000B10,
   0x000B13_000B28, 0x000B2A_000B30, 0x000B32_000B33, 0x000B35_000B39, 0x000B3D_000B3D,
   0x000B5C_000B5D, 0x000B5F_000B61, 0x000B71_000B71, 0x000B83_000B83, 0x000B85_000B8A,
   0x000B8E_000B90, 0x000B92_000B95, 0x000B99_000B9A, 0x000B9C_000B9C, 0x000B9E_000B9F,
   0x000BA3_000BA4, 0x000BA8_000BAA, 0x000BAE_000BB9, 0x000BD0_000BD0, 0x000C05_000C0C,
   0x000C0E_000C10, 0x000C12_000C28, 0x000C2A_000C39, 0x000C3D_000C3D, 0x000C58_000C5A,
   0x000C5D_000C5D, 0x000C60_000C61, 0x000C80_000C80, 0x000C85_000C8C, 0x000C8E_000C90,
   0x000C92_000CA8, 0x000CAA_000CB3, 0x000CB5_000CB9, 0x000CBD_000CBD, 0x000CDD_000CDE,
   0x000CE0_000CE1, 0x000CF1_000CF2, 0x000D04_000D0C, 0x000D0E_000D10, 0x000D12_000D3A,
   0x000D3D_000D3D, 0x000D4E_000D4E, 0x000D54_000D56, 0x000D5F_000D61, 0x000D7A_000D7F,
   0x000D85_000D96, 0x000D9A_000DB1, 0x000DB3_000DBB, 0x000DBD_000DBD, 0x000DC0_000DC6,
   0x000E01_000E30, 0x000E32_000E33, 0x000E40_000E45, 0x000E81_000E82, 0x000E84_000E84,
   0x000E86_000E8A, 0x000E8C_000EA3, 0x000EA5_000EA5, 0x000EA7_000EB0, 0x000EB2_000EB3,
   0x000EBD_000EBD, 0x000EC0_000EC4, 0x000EDC_000EDF, 0x000F00_000F00, 0x000F40_000F47,
   0x000F49_000F6C, 0x000F88_000F8C, 0x001000_00102A, 0x00103F_00103F, 0x001050_001055,
   0x00105A_00105D, 0x001061_001061, 0x001065_001066, 0x00106E_001070, 0x001075_001081,
   0x00108E_00108E, 0x001100_001248, 0x00124A_00124D, 0x001250_001256, 0x001258_001258,
   0x00125A_00125D, 0x001260_001288, 0x00128A_00128D, 0x001290_0012B0, 0x0012B2_0012B5,
   0x0012B8_0012BE, 0x0012C0_0012C0, 0x0012C2_0012C5, 0x0012C8_0012D6, 0x0012D8_001310,
   0x001312_001315, 0x001318_00135A, 0x001380_00138F, 0x001401_00166C, 0x00166F_00167F,
   0x001681_00169A, 0x0016A0_0016EA, 0x0016F1_0016F8, 0x001700_001711, 0x00171F_001731,
   0x001740_001751, 0x001760_00176C, 0x00176E_001770, 0x001780_0017B3, 0x0017DC_0017DC,
   0x001820_001842, 0x001844_001878, 0x001880_001884, 0x001887_0018A8, 0x0018AA_0018AA,
   0x0018B0_0018F5, 0x001900_00191E, 0x001950_00196D, 0x001970_001974, 0x001980_0019AB,
   0x0019B0_0019C9, 0x001A00_001A16, 0x001A20_001A54, 0x001B05_001B33, 0x001B45_001B4C,
   0x001B83_001BA0, 0x001BAE_001BAF, 0x001BBA_001BE5, 0x001C00_001C23, 0x001C4D_001C4F,
   0x001C5A_001C77, 0x001CE9_001CEC, 0x001CEE_001CF3, 0x001CF5_001CF6, 0x001CFA_001CFA,
   0x002135_002138, 0x002D30_002D67, 0x002D80_002D96, 0x002DA0_002DA6, 0x002DA8_002DAE,
   0x002DB0_002DB6, 0x002DB8_002DBE, 0x002DC0_002DC6, 0x002DC8_002DCE, 0x002DD0_002DD6,
   0x002DD8_002DDE, 0x003006_003006, 0x00303C_00303C, 0x003041_003096, 0x00309F_00309F,
   0x0030A1_0030FA, 0x0030FF_0030FF, 0x003105_00312F, 0x003131_00318E, 0x0031A0_0031BF,
   0x0031F0_0031FF, 0x003400_004DBF, 0x004E00_00A014, 0x00A016_00A48C, 0x00A4D0_00A4F7,
   0x00A500_00A60B, 0x00A610_00A61F, 0x00A62A_00A62B, 0x00A66E_00A66E, 0x00A6A0_00A6E5,
   0x00A78F_00A78F, 0x00A7F7_00A7F7, 0x00A7FB_00A801, 0x00A803_00A805, 0x00A807_00A80A,
   0x00A80C_00A822, 0x00A840_00A873, 0x00A882_00A8B3, 0x00A8F2_00A8F7, 0x00A8FB_00A8FB,
   0x00A8FD_00A8FE, 0x00A90A_00A925, 0x00A930_00A946, 0x00A960_00A97C, 0x00A984_00A9B2,
   0x00A9E0_00A9E4, 0x00A9E7_00A9EF, 0x00A9FA_00A9FE, 0x00AA00_00AA28, 0x00AA40_00AA42,
   0x00AA44_00AA4B, 0x00AA60_00AA6F, 0x00AA71_00AA76, 0x00AA7A_00AA7A, 0x00AA7E_00AAAF,
   0x00AAB1_00AAB1, 0x00AAB5_00AAB6, 0x00AAB9_00AABD, 0x00AAC0_00AAC0, 0x00AAC2_00AAC2,
   0x00AADB_00AADC, 0x00AAE0_00AAEA, 0x00AAF2_00AAF2, 0x00AB01_00AB06, 0x00AB09_00AB0E,
   0x00AB11_00AB16, 0x00AB20_00AB26, 0x00AB28_00AB2E, 0x00ABC0_00ABE2, 0x00AC00_00D7A3,
   0x00D7B0_00D7C6, 0x00D7CB_00D7FB, 0x00F900_00FA6D, 0x00FA70_00FAD9, 0x00FB1D_00FB1D,
   0x00FB1F_00FB28, 0x00FB2A_00FB36, 0x00FB38_00FB3C, 0x00FB3E_00FB3E, 0x00FB40_00FB41,
   0x00FB43_00FB44, 0x00FB46_00FBB1, 0x00FBD3_00FD3D, 0x00FD50_00FD8F, 0x00FD92_00FDC7,
   0x00FDF0_00FDFB, 0x00FE70_00FE74, 0x00FE76_00FEFC, 0x00FF66_00FF6F, 0x00FF71_00FF9D,
   0x00FFA0_00FFBE, 0x00FFC2_00FFC7, 0x00FFCA_00FFCF, 0x00FFD2_00FFD7, 0x00FFDA_00FFDC,
   0x010000_01000B, 0x01000D_010026, 0x010028_01003A, 0x01003C_01003D, 0x01003F_01004D,
   0x010050_01005D, 0x010080_0100FA, 0x010280_01029C, 0x0102A0_0102D0, 0x010300_01031F,
   0x01032D_010340, 0x010342_010349, 0x010350_010375, 0x010380_01039D, 0x0103A0_0103C3,
   0x0103C8_0103CF, 0x010450_01049D, 0x010500_010527, 0x010530_010563, 0x0105C0_0105F3,
   0x010600_010736, 0x010740_010755, 0x010760_010767, 0x010800_010805, 0x010808_010808,
   0x01080A_010835, 0x010837_010838, 0x01083C_01083C, 0x01083F_010855, 0x010860_010876,
   0x010880_01089E, 0x0108E0_0108F2, 0x0108F4_0108F5, 0x010900_010915, 0x010920_010939,
   0x010980_0109B7, 0x0109BE_0109BF, 0x010A00_010A00, 0x010A10_010A13, 0x010A15_010A17,
   0x010A19_010A35, 0x010A60_010A7C, 0x010A80_010A9C, 0x010AC0_010AC7, 0x010AC9_010AE4,
   0x010B00_010B35, 0x010B40_010B55, 0x010B60_010B72, 0x010B80_010B91, 0x010C00_010C48,
   0x010D00_010D23, 0x010D4A_010D4D, 0x010D4F_010D4F, 0x010E80_010EA9, 0x010EB0_010EB1,
   0x010EC2_010EC4, 0x010F00_010F1C, 0x010F27_010F27, 0x010F30_010F45, 0x010F70_010F81,
   0x010FB0_010FC4, 0x010FE0_010FF6, 0x011003_011037, 0x011071_011072, 0x011075_011075,
   0x011083_0110AF, 0x0110D0_0110E8, 0x011103_011126, 0x011144_011144, 0x011147_011147,
   0x011150_011172, 0x011176_011176, 0x011183_0111B2, 0x0111C1_0111C4, 0x0111DA_0111DA,
   0x0111DC_0111DC, 0x011200_011211, 0x011213_01122B, 0x01123F_011240, 0x011280_011286,
   0x011288_011288, 0x01128A_01128D, 0x01128F_01129D, 0x01129F_0112A8, 0x0112B0_0112DE,
   0x011305_01130C, 0x01130F_011310, 0x011313_011328, 0x01132A_011330, 0x011332_011333,
   0x011335_011339, 0x01133D_01133D, 0x011350_011350, 0x01135D_011361, 0x011380_011389,
   0x01138B_01138B, 0x01138E_01138E, 0x011390_0113B5, 0x0113B7_0113B7, 0x0113D1_0113D1,
   0x0113D3_0113D3, 0x011400_011434, 0x011447_01144A, 0x01145F_011461, 0x011480_0114AF,
   0x0114C4_0114C5, 0x0114C7_0114C7, 0x011580_0115AE, 0x0115D8_0115DB, 0x011600_01162F,
   0x011644_011644, 0x011680_0116AA, 0x0116B8_0116B8, 0x011700_01171A, 0x011740_011746,
   0x011800_01182B, 0x0118FF_011906, 0x011909_011909, 0x01190C_011913, 0x011915_011916,
   0x011918_01192F, 0x01193F_01193F, 0x011941_011941, 0x0119A0_0119A7, 0x0119AA_0119D0,
   0x0119E1_0119E1, 0x0119E3_0119E3, 0x011A00_011A00, 0x011A0B_011A32, 0x011A3A_011A3A,
   0x011A50_011A50, 0x011A5C_011A89, 0x011A9D_011A9D, 0x011AB0_011AF8, 0x011BC0_011BE0,
   0x011C00_011C08, 0x011C0A_011C2E, 0x011C40_011C40, 0x011C72_011C8F, 0x011D00_011D06,
   0x011D08_011D09, 0x011D0B_011D30, 0x011D46_011D46, 0x011D60_011D65, 0x011D67_011D68,
   0x011D6A_011D89, 0x011D98_011D98, 0x011EE0_011EF2, 0x011F02_011F02, 0x011F04_011F10,
   0x011F12_011F33, 0x011FB0_011FB0, 0x012000_012399, 0x012480_012543, 0x012F90_012FF0,
   0x013000_01342F, 0x013441_013446, 0x013460_0143FA, 0x014400_014646, 0x016100_01611D,
   0x016800_016A38, 0x016A40_016A5E, 0x016A70_016ABE, 0x016AD0_016AED, 0x016B00_016B2F,
   0x016B63_016B77, 0x016B7D_016B8F, 0x016D43_016D6A, 0x016F00_016F4A, 0x016F50_016F50,
   0x017000_0187F7, 0x018800_018CD5, 0x018CFF_018D08, 0x01B000_01B122, 0x01B132_01B132,
   0x01B150_01B152, 0x01B155_01B155, 0x01B164_01B167, 0x01B170_01B2FB, 0x01BC00_01BC6A,
   0x01BC70_01BC7C, 0x01BC80_01BC88, 0x01BC90_01BC99, 0x01DF0A_01DF0A, 0x01E100_01E12C,
   0x01E14E_01E14E, 0x01E290_01E2AD, 0x01E2C0_01E2EB, 0x01E4D0_01E4EA, 0x01E5D0_01E5ED,
   0x01E5F0_01E5F0, 0x01E7E0_01E7E6, 0x01E7E8_01E7EB, 0x01E7ED_01E7EE, 0x01E7F0_01E7FE,
   0x01E800_01E8C4, 0x01EE00_01EE03, 0x01EE05_01EE1F, 0x01EE21_01EE22, 0x01EE24_01EE24,
   0x01EE27_01EE27, 0x01EE29_01EE32, 0x01EE34_01EE37, 0x01EE39_01EE39, 0x01EE3B_01EE3B,
   0x01EE42_01EE42, 0x01EE47_01EE47, 0x01EE49_01EE49, 0x01EE4B_01EE4B, 0x01EE4D_01EE4F,
   0x01EE51_01EE52, 0x01EE54_01EE54, 0x01EE57_01EE57, 0x01EE59_01EE59, 0x01EE5B_01EE5B,
   0x01EE5D_01EE5D, 0x01EE5F_01EE5F, 0x01EE61_01EE62, 0x01EE64_01EE64, 0x01EE67_01EE6A,
   0x01EE6C_01EE72, 0x01EE74_01EE77, 0x01EE79_01EE7C, 0x01EE7E_01EE7E, 0x01EE80_01EE89,
   0x01EE8B_01EE9B, 0x01EEA1_01EEA3, 0x01EEA5_01EEA9, 0x01EEAB_01EEBB, 0x020000_02A6DF,
   0x02A700_02B739, 0x02B740_02B81D, 0x02B820_02CEA1, 0x02CEB0_02EBE0, 0x02EBF0_02EE5D,
   0x02F800_02FA1D, 0x030000_03134A, 0x031350_0323AF]

def mnPoints : CodePoints := .ofNumerals
  [0x000300_00036F, 0x000483_000487, 0x000591_0005BD, 0x0005BF_0005BF, 0x0005C1_0005C2,
   0x0005C4_0005C5, 0x0005C7_0005C7, 0x000610_00061A, 0x00064B_00065F, 0x000670_000670,
   0x0006D6_0006DC, 0x0006DF_0006E4, 0x0006E7_0006E8, 0x0006EA_0006ED, 0x000711_000711,
   0x000730_00074A, 0x0007A6_0007B0, 0x0007EB_0007F3, 0x0007FD_0007FD, 0x000816_000819,
   0x00081B_000823, 0x000825_000827, 0x000829_00082D, 0x000859_00085B, 0x000897_00089F,
   0x0008CA_0008E1, 0x0008E3_000902, 0x00093A_00093A, 0x00093C_00093C, 0x000941_000948,
   0x00094D_00094D, 0x000951_000957, 0x000962_000963, 0x000981_000981, 0x0009BC_0009BC,
   0x0009C1_0009C4, 0x0009CD_0009CD, 0x0009E2_0009E3, 0x0009FE_0009FE, 0x000A01_000A02,
   0x000A3C_000A3C, 0x000A41_000A42, 0x000A47_000A48, 0x000A4B_000A4D, 0x000A51_000A51,
   0x000A70_000A71, 0x000A75_000A75, 0x000A81_000A82, 0x000ABC_000ABC, 0x000AC1_000AC5,
   0x000AC7_000AC8, 0x000ACD_000ACD, 0x000AE2_000AE3, 0x000AFA_000AFF, 0x000B01_000B01,
   0x000B3C_000B3C, 0x000B3F_000B3F, 0x000B41_000B44, 0x000B4D_000B4D, 0x000B55_000B56,
   0x000B62_000B63, 0x000B82_000B82, 0x000BC0_000BC0, 0x000BCD_000BCD, 0x000C00_000C00,
   0x000C04_000C04, 0x000C3C_000C3C, 0x000C3E_000C40, 0x000C46_000C48, 0x000C4A_000C4D,
   0x000C55_000C56, 0x000C62_000C63, 0x000C81_000C81, 0x000CBC_000CBC, 0x000CBF_000CBF,
   0x000CC6_000CC6, 0x000CCC_000CCD, 0x000CE2_000CE3, 0x000D00_000D01, 0x000D3B_000D3C,
   0x000D41_000D44, 0x000D4D_000D4D, 0x000D62_000D63, 0x000D81_000D81, 0x000DCA_000DCA,
   0x000DD2_000DD4, 0x000DD6_000DD6, 0x000E31_000E31, 0x000E34_000E3A, 0x000E47_000E4E,
   0x000EB1_000EB1, 0x000EB4_000EBC, 0x000EC8_000ECE, 0x000F18_000F19, 0x000F35_000F35,
   0x000F37_000F37, 0x000F39_000F39, 0x000F71_000F7E, 0x000F80_000F84, 0x000F86_000F87,
   0x000F8D_000F97, 0x000F99_000FBC, 0x000FC6_000FC6, 0x00102D_001030, 0x001032_001037,
   0x001039_00103A, 0x00103D_00103E, 0x001058_001059, 0x00105E_001060, 0x001071_001074,
   0x001082_001082, 0x001085_001086, 0x00108D_00108D, 0x00109D_00109D, 0x00135D_00135F,
   0x001712_001714, 0x001732_001733, 0x001752_001753, 0x001772_001773, 0x0017B4_0017B5,
   0x0017B7_0017BD, 0x0017C6_0017C6, 0x0017C9_0017D3, 0x0017DD_0017DD, 0x00180B_00180D,
   0x00180F_00180F, 0x001885_001886, 0x0018A9_0018A9, 0x001920_001922, 0x001927_001928,
   0x001932_001932, 0x001939_00193B, 0x001A17_001A18, 0x001A1B_001A1B, 0x001A56_001A56,
   0x001A58_001A5E, 0x001A60_001A60, 0x001A62_001A62, 0x001A65_001A6C, 0x001A73_001A7C,
   0x001A7F_001A7F, 0x001AB0_001ABD, 0x001ABF_001ACE, 0x001B00_001B03, 0x001B34_001B34,
   0x001B36_001B3A, 0x001B3C_001B3C, 0x001B42_001B42, 0x001B6B_001B73, 0x001B80_001B81,
   0x001BA2_001BA5, 0x001BA8_001BA9, 0x001BAB_001BAD, 0x001BE6_001BE6, 0x001BE8_001BE9,
   0x001BED_001BED, 0x001BEF_001BF1, 0x001C2C_001C33, 0x001C36_001C37, 0x001CD0_001CD2,
   0x001CD4_001CE0, 0x001CE2_001CE8, 0x001CED_001CED, 0x001CF4_001CF4, 0x001CF8_001CF9,
   0x001DC0_001DFF, 0x0020D0_0020DC, 0x0020E1_0020E1, 0x0020E5_0020F0, 0x002CEF_002CF1,
   0x002D7F_002D7F, 0x002DE0_002DFF, 0x00302A_00302D, 0x003099_00309A, 0x00A66F_00A66F,
   0x00A674_00A67D, 0x00A69E_00A69F, 0x00A6F0_00A6F1, 0x00A802_00A802, 0x00A806_00A806,
   0x00A80B_00A80B, 0x00A825_00A826, 0x00A82C_00A82C, 0x00A8C4_00A8C5, 0x00A8E0_00A8F1,
   0x00A8FF_00A8FF, 0x00A926_00A92D, 0x00A947_00A951, 0x00A980_00A982, 0x00A9B3_00A9B3,
   0x00A9B6_00A9B9, 0x00A9BC_00A9BD, 0x00A9E5_00A9E5, 0x00AA29_00AA2E, 0x00AA31_00AA32,
   0x00AA35_00AA36, 0x00AA43_00AA43, 0x00AA4C_00AA4C, 0x00AA7C_00AA7C, 0x00AAB0_00AAB0,
   0x00AAB2_00AAB4, 0x00AAB7_00AAB8, 0x00AABE_00AABF, 0x00AAC1_00AAC1, 0x00AAEC_00AAED,
   0x00AAF6_00AAF6, 0x00ABE5_00ABE5, 0x00ABE8_00ABE8, 0x00ABED_00ABED, 0x00FB1E_00FB1E,
   0x00FE00_00FE0F, 0x00FE20_00FE2F, 0x0101FD_0101FD, 0x0102E0_0102E0, 0x010376_01037A,
   0x010A01_010A03, 0x010A05_010A06, 0x010A0C_010A0F, 0x010A38_010A3A, 0x010A3F_010A3F,
   0x010AE5_010AE6, 0x010D24_010D27, 0x010D69_010D6D, 0x010EAB_010EAC, 0x010EFC_010EFF,
   0x010F46_010F50, 0x010F82_010F85, 0x011001_011001, 0x011038_011046, 0x011070_011070,
   0x011073_011074, 0x01107F_011081, 0x0110B3_0110B6, 0x0110B9_0110BA, 0x0110C2_0110C2,
   0x011100_011102, 0x011127_01112B, 0x01112D_011134, 0x011173_011173, 0x011180_011181,
   0x0111B6_0111BE, 0x0111C9_0111CC, 0x0111CF_0111CF, 0x01122F_011231, 0x011234_011234,
   0x011236_011237, 0x01123E_01123E, 0x011241_011241, 0x0112DF_0112DF, 0x0112E3_0112EA,
   0x011300_011301, 0x01133B_01133C, 0x011340_011340, 0x011366_01136C, 0x011370_011374,
   0x0113BB_0113C0, 0x0113CE_0113CE, 0x0113D0_0113D0, 0x0113D2_0113D2, 0x0113E1_0113E2,
   0x011438_01143F, 0x011442_011444, 0x011446_011446, 0x01145E_01145E, 0x0114B3_0114B8,
   0x0114BA_0114BA, 0x0114BF_0114C0, 0x0114C2_0114C3, 0x0115B2_0115B5, 0x0115BC_0115BD,
   0x0115BF_0115C0, 0x0115DC_0115DD, 0x011633_01163A, 0x01163D_01163D, 0x01163F_011640,
   0x0116AB_0116AB, 0x0116AD_0116AD, 0x0116B0_0116B5, 0x0116B7_0116B7, 0x01171D_01171D,
   0x01171F_01171F, 0x011722_011725, 0x011727_01172B, 0x01182F_011837, 0x011839_01183A,
   0x01193B_01193C, 0x01193E_01193E, 0x011943_011943, 0x0119D4_0119D7, 0x0119DA_0119DB,
   0x0119E0_0119E0, 0x011A01_011A0A, 0x011A33_011A38, 0x011A3B_011A3E, 0x011A47_011A47,
   0x011A51_011A56, 0x011A59_011A5B, 0x011A8A_011A96, 0x011A98_011A99, 0x011C30_011C36,
   0x011C38_011C3D, 0x011C3F_011C3F, 0x011C92_011CA7, 0x011CAA_011CB0, 0x011CB2_011CB3,
   0x011CB5_011CB6, 0x011D31_011D36, 0x011D3A_011D3A, 0x011D3C_011D3D, 0x011D3F_011D45,
   0x011D47_011D47, 0x011D90_011D91, 0x011D95_011D95, 0x011D97_011D97, 0x011EF3_011EF4,
   0x011F00_011F01, 0x011F36_011F3A, 0x011F40_011F40, 0x011F42_011F42, 0x011F5A_011F5A,
   0x013440_013440, 0x013447_013455, 0x01611E_016129, 0x01612D_01612F, 0x016AF0_016AF4,
   0x016B30_016B36, 0x016F4F_016F4F, 0x016F8F_016F92, 0x016FE4_016FE4, 0x01BC9D_01BC9E,
   0x01CF00_01CF2D, 0x01CF30_01CF46, 0x01D167_01D169, 0x01D17B_01D182, 0x01D185_01D18B,
   0x01D1AA_01D1AD, 0x01D242_01D244, 0x01DA00_01DA36, 0x01DA3B_01DA6C, 0x01DA75_01DA75,
   0x01DA84_01DA84, 0x01DA9B_01DA9F, 0x01DAA1_01DAAF, 0x01E000_01E006, 0x01E008_01E018,
   0x01E01B_01E021, 0x01E023_01E024, 0x01E026_01E02A, 0x01E08F_01E08F, 0x01E130_01E136,
   0x01E2AE_01E2AE, 0x01E2EC_01E2EF, 0x01E4EC_01E4EF, 0x01E5EE_01E5EF, 0x01E8D0_01E8D6,
   0x01E944_01E94A, 0x0E0100_0E01EF]

def mcPoints : CodePoints := .ofNumerals
  [0x000903_000903, 0x00093B_00093B, 0x00093E_000940, 0x000949_00094C, 0x00094E_00094F,
   0x000982_000983, 0x0009BE_0009C0, 0x0009C7_0009C8, 0x0009CB_0009CC, 0x0009D7_0009D7,
   0x000A03_000A03, 0x000A3E_000A40, 0x000A83_000A83, 0x000ABE_000AC0, 0x000AC9_000AC9,
   0x000ACB_000ACC, 0x000B02_000B03, 0x000B3E_000B3E, 0x000B40_000B40, 0x000B47_000B48,
   0x000B4B_000B4C, 0x000B57_000B57, 0x000BBE_000BBF, 0x000BC1_000BC2, 0x000BC6_000BC8,
   0x000BCA_000BCC, 0x000BD7_000BD7, 0x000C01_000C03, 0x000C41_000C44, 0x000C82_000C83,
   0x000CBE_000CBE, 0x000CC0_000CC4, 0x000CC7_000CC8, 0x000CCA_000CCB, 0x000CD5_000CD6,
   0x000CF3_000CF3, 0x000D02_000D03, 0x000D3E_000D40, 0x000D46_000D48, 0x000D4A_000D4C,
   0x000D57_000D57, 0x000D82_000D83, 0x000DCF_000DD1, 0x000DD8_000DDF, 0x000DF2_000DF3,
   0x000F3E_000F3F, 0x000F7F_000F7F, 0x00102B_00102C, 0x001031_001031, 0x001038_001038,
   0x00103B_00103C, 0x001056_001057, 0x001062_001064, 0x001067_00106D, 0x001083_001084,
   0x001087_00108C, 0x00108F_00108F, 0x00109A_00109C, 0x001715_001715, 0x001734_001734,
   0x0017B6_0017B6, 0x0017BE_0017C5, 0x0017C7_0017C8, 0x001923_001926, 0x001929_00192B,
   0x001930_001931, 0x001933_001938, 0x001A19_001A1A, 0x001A55_001A55, 0x001A57_001A57,
   0x001A61_001A61, 0x001A63_001A64, 0x001A6D_001A72, 0x001B04_001B04, 0x001B35_001B35,
   0x001B3B_001B3B, 0x001B3D_001B41, 0x001B43_001B44, 0x001B82_001B82, 0x001BA1_001BA1,
   0x001BA6_001BA7, 0x001BAA_001BAA, 0x001BE7_001BE7, 0x001BEA_001BEC, 0x001BEE_001BEE,
   0x001BF2_001BF3, 0x001C24_001C2B, 0x001C34_001C35, 0x001CE1_001CE1, 0x001CF7_001CF7,
   0x00302E_00302F, 0x00A823_00A824, 0x00A827_00A827, 0x00A880_00A881, 0x00A8B4_00A8C3,
   0x00A952_00A953, 0x00A983_00A983, 0x00A9B4_00A9B5, 0x00A9BA_00A9BB, 0x00A9BE_00A9C0,
   0x00AA2F_00AA30, 0x00AA33_00AA34, 0x00AA4D_00AA4D, 0x00AA7B_00AA7B, 0x00AA7D_00AA7D,
   0x00AAEB_00AAEB, 0x00AAEE_00AAEF, 0x00AAF5_00AAF5, 0x00ABE3_00ABE4, 0x00ABE6_00ABE7,
   0x00ABE9_00ABEA, 0x00ABEC_00ABEC, 0x011000_011000, 0x011002_011002, 0x011082_011082,
   0x0110B0_0110B2, 0x0110B7_0110B8, 0x01112C_01112C, 0x011145_011146, 0x011182_011182,
   0x0111B3_0111B5, 0x0111BF_0111C0, 0x0111CE_0111CE, 0x01122C_01122E, 0x011232_011233,
   0x011235_011235, 0x0112E0_0112E2, 0x011302_011303, 0x01133E_01133F, 0x011341_011344,
   0x011347_011348, 0x01134B_01134D, 0x011357_011357, 0x011362_011363, 0x0113B8_0113BA,
   0x0113C2_0113C2, 0x0113C5_0113C5, 0x0113C7_0113CA, 0x0113CC_0113CD, 0x0113CF_0113CF,
   0x011435_011437, 0x011440_011441, 0x011445_011445, 0x0114B0_0114B2, 0x0114B9_0114B9,
   0x0114BB_0114BE, 0x0114C1_0114C1, 0x0115AF_0115B1, 0x0115B8_0115BB, 0x0115BE_0115BE,
   0x011630_011632, 0x01163B_01163C, 0x01163E_01163E, 0x0116AC_0116AC, 0x0116AE_0116AF,
   0x0116B6_0116B6, 0x01171E_01171E, 0x011720_011721, 0x011726_011726, 0x01182C_01182E,
   0x011838_011838, 0x011930_011935, 0x011937_011938, 0x01193D_01193D, 0x011940_011940,
   0x011942_011942, 0x0119D1_0119D3, 0x0119DC_0119DF, 0x0119E4_0119E4, 0x011A39_011A39,
   0x011A57_011A58, 0x011A97_011A97, 0x011C2F_011C2F, 0x011C3E_011C3E, 0x011CA9_011CA9,
   0x011CB1_011CB1, 0x011CB4_011CB4, 0x011D8A_011D8E, 0x011D93_011D94, 0x011D96_011D96,
   0x011EF5_011EF6, 0x011F03_011F03, 0x011F34_011F35, 0x011F3E_011F3F, 0x011F41_011F41,
   0x01612A_01612C, 0x016F51_016F87, 0x016FF0_016FF1, 0x01D165_01D166, 0x01D16D_01D172]

def mePoints : CodePoints := .ofNumerals
  [0x000488_000489, 0x001ABE_001ABE, 0x0020DD_0020E0, 0x0020E2_0020E4, 0x00A670_00A672]

def ndPoints : CodePoints := .ofNumerals
  [0x000030_000039, 0x000660_000669, 0x0006F0_0006F9, 0x0007C0_0007C9, 0x000966_00096F,
   0x0009E6_0009EF, 0x000A66_000A6F, 0x000AE6_000AEF, 0x000B66_000B6F, 0x000BE6_000BEF,
   0x000C66_000C6F, 0x000CE6_000CEF, 0x000D66_000D6F, 0x000DE6_000DEF, 0x000E50_000E59,
   0x000ED0_000ED9, 0x000F20_000F29, 0x001040_001049, 0x001090_001099, 0x0017E0_0017E9,
   0x001810_001819, 0x001946_00194F, 0x0019D0_0019D9, 0x001A80_001A89, 0x001A90_001A99,
   0x001B50_001B59, 0x001BB0_001BB9, 0x001C40_001C49, 0x001C50_001C59, 0x00A620_00A629,
   0x00A8D0_00A8D9, 0x00A900_00A909, 0x00A9D0_00A9D9, 0x00A9F0_00A9F9, 0x00AA50_00AA59,
   0x00ABF0_00ABF9, 0x00FF10_00FF19, 0x0104A0_0104A9, 0x010D30_010D39, 0x010D40_010D49,
   0x011066_01106F, 0x0110F0_0110F9, 0x011136_01113F, 0x0111D0_0111D9, 0x0112F0_0112F9,
   0x011450_011459, 0x0114D0_0114D9, 0x011650_011659, 0x0116C0_0116C9, 0x0116D0_0116E3,
   0x011730_011739, 0x0118E0_0118E9, 0x011950_011959, 0x011BF0_011BF9, 0x011C50_011C59,
   0x011D50_011D59, 0x011DA0_011DA9, 0x011F50_011F59, 0x016130_016139, 0x016A60_016A69,
   0x016AC0_016AC9, 0x016B50_016B59, 0x016D70_016D79, 0x01CCF0_01CCF9, 0x01D7CE_01D7FF,
   0x01E140_01E149, 0x01E2F0_01E2F9, 0x01E4F0_01E4F9, 0x01E5F1_01E5FA, 0x01E950_01E959,
   0x01FBF0_01FBF9]

def nlPoints : CodePoints := .ofNumerals
  [0x0016EE_0016F0, 0x002160_002182, 0x002185_002188, 0x003007_003007, 0x003021_003029,
   0x003038_00303A, 0x00A6E6_00A6EF, 0x010140_010174, 0x010341_010341, 0x01034A_01034A,
   0x0103D1_0103D5, 0x012400_01246E]

def noPoints : CodePoints := .ofNumerals
  [0x0000B2_0000B3, 0x0000B9_0000B9, 0x0000BC_0000BE, 0x0009F4_0009F9, 0x000B72_000B77,
   0x000BF0_000BF2, 0x000C78_000C7E, 0x000D58_000D5E, 0x000D70_000D78, 0x000F2A_000F33,
   0x001369_00137C, 0x0017F0_0017F9, 0x0019DA_0019DA, 0x002070_002070, 0x002074_002079,
   0x002080_002089, 0x002150_00215F, 0x002189_002189, 0x002460_00249B, 0x0024EA_0024FF,
   0x002776_002793, 0x002CFD_002CFD, 0x003192_003195, 0x003220_003229, 0x003248_00324F,
   0x003251_00325F, 0x003280_003289, 0x0032B1_0032BF, 0x00A830_00A835, 0x010107_010133,
   0x010175_010178, 0x01018A_01018B, 0x0102E1_0102FB, 0x010320_010323, 0x010858_01085F,
   0x010879_01087F, 0x0108A7_0108AF, 0x0108FB_0108FF, 0x010916_01091B, 0x0109BC_0109BD,
   0x0109C0_0109CF, 0x0109D2_0109FF, 0x010A40_010A48, 0x010A7D_010A7E, 0x010A9D_010A9F,
   0x010AEB_010AEF, 0x010B58_010B5F, 0x010B78_010B7F, 0x010BA9_010BAF, 0x010CFA_010CFF,
   0x010E60_010E7E, 0x010F1D_010F26, 0x010F51_010F54, 0x010FC5_010FCB, 0x011052_011065,
   0x0111E1_0111F4, 0x01173A_01173B, 0x0118EA_0118F2, 0x011C5A_011C6C, 0x011FC0_011FD4,
   0x016B5B_016B61, 0x016E80_016E96, 0x01D2C0_01D2D3, 0x01D2E0_01D2F3, 0x01D360_01D378,
   0x01E8C7_01E8CF, 0x01EC71_01ECAB, 0x01ECAD_01ECAF, 0x01ECB1_01ECB4, 0x01ED01_01ED2D,
   0x01ED2F_01ED3D, 0x01F100_01F10C]

def pcPoints : CodePoints := .ofNumerals
  [0x00005F_00005F, 0x00203F_002040, 0x002054_002054, 0x00FE33_00FE34, 0x00FE4D_00FE4F,
   0x00FF3F_00FF3F]

def pdPoints : CodePoints := .ofNumerals
  [0x00002D_00002D, 0x00058A_00058A, 0x0005BE_0005BE, 0x001400_001400, 0x001806_001806,
   0x002010_002015, 0x002E17_002E17, 0x002E1A_002E1A, 0x002E3A_002E3B, 0x002E40_002E40,
   0x002E5D_002E5D, 0x00301C_00301C, 0x003030_003030, 0x0030A0_0030A0, 0x00FE31_00FE32,
   0x00FE58_00FE58, 0x00FE63_00FE63, 0x00FF0D_00FF0D, 0x010D6E_010D6E, 0x010EAD_010EAD]

def psPoints : CodePoints := .ofNumerals
  [0x000028_000028, 0x00005B_00005B, 0x00007B_00007B, 0x000F3A_000F3A, 0x000F3C_000F3C,
   0x00169B_00169B, 0x00201A_00201A, 0x00201E_00201E, 0x002045_002045, 0x00207D_00207D,
   0x00208D_00208D, 0x002308_002308, 0x00230A_00230A, 0x002329_002329, 0x002768_002768,
   0x00276A_00276A, 0x00276C_00276C, 0x00276E_00276E, 0x002770_002770, 0x002772_002772,
   0x002774_002774, 0x0027C5_0027C5, 0x0027E6_0027E6, 0x0027E8_0027E8, 0x0027EA_0027EA,
   0x0027EC_0027EC, 0x0027EE_0027EE, 0x002983_002983, 0x002985_002985, 0x002987_002987,
   0x002989_002989, 0x00298B_00298B, 0x00298D_00298D, 0x00298F_00298F, 0x002991_002991,
   0x002993_002993, 0x002995_002995, 0x002997_002997, 0x0029D8_0029D8, 0x0029DA_0029DA,
   0x0029FC_0029FC, 0x002E22_002E22, 0x002E24_002E24, 0x002E26_002E26, 0x002E28_002E28,
   0x002E42_002E42, 0x002E55_002E55, 0x002E57_002E57, 0x002E59_002E59, 0x002E5B_002E5B,
   0x003008_003008, 0x00300A_00300A, 0x00300C_00300C, 0x00300E_00300E, 0x003010_003010,
   0x003014_003014, 0x003016_003016, 0x003018_003018, 0x00301A_00301A, 0x00301D_00301D,
   0x00FD3F_00FD3F, 0x00FE17_00FE17, 0x00FE35_00FE35, 0x00FE37_00FE37, 0x00FE39_00FE39,
   0x00FE3B_00FE3B, 0x00FE3D_00FE3D, 0x00FE3F_00FE3F, 0x00FE41_00FE41, 0x00FE43_00FE43,
   0x00FE47_00FE47, 0x00FE59_00FE59, 0x00FE5B_00FE5B, 0x00FE5D_00FE5D, 0x00FF08_00FF08,
   0x00FF3B_00FF3B, 0x00FF5B_00FF5B, 0x00FF5F_00FF5F, 0x00FF62_00FF62]

def pePoints : CodePoints := .ofNumerals
  [0x000029_000029, 0x00005D_00005D, 0x00007D_00007D, 0x000F3B_000F3B, 0x000F3D_000F3D,
   0x00169C_00169C, 0x002046_002046, 0x00207E_00207E, 0x00208E_00208E, 0x002309_002309,
   0x00230B_00230B, 0x00232A_00232A, 0x002769_002769, 0x00276B_00276B, 0x00276D_00276D,
   0x00276F_00276F, 0x002771_002771, 0x002773_002773, 0x002775_002775, 0x0027C6_0027C6,
   0x0027E7_0027E7, 0x0027E9_0027E9, 0x0027EB_0027EB, 0x0027ED_0027ED, 0x0027EF_0027EF,
   0x002984_002984, 0x002986_002986, 0x002988_002988, 0x00298A_00298A, 0x00298C_00298C,
   0x00298E_00298E, 0x002990_002990, 0x002992_002992, 0x002994_002994, 0x002996_002996,
   0x002998_002998, 0x0029D9_0029D9, 0x0029DB_0029DB, 0x0029FD_0029FD, 0x002E23_002E23,
   0x002E25_002E25, 0x002E27_002E27, 0x002E29_002E29, 0x002E56_002E56, 0x002E58_002E58,
   0x002E5A_002E5A, 0x002E5C_002E5C, 0x003009_003009, 0x00300B_00300B, 0x00300D_00300D,
   0x00300F_00300F, 0x003011_003011, 0x003015_003015, 0x003017_003017, 0x003019_003019,
   0x00301B_00301B, 0x00301E_00301F, 0x00FD3E_00FD3E, 0x00FE18_00FE18, 0x00FE36_00FE36,
   0x00FE38_00FE38, 0x00FE3A_00FE3A, 0x00FE3C_00FE3C, 0x00FE3E_00FE3E, 0x00FE40_00FE40,
   0x00FE42_00FE42, 0x00FE44_00FE44, 0x00FE48_00FE48, 0x00FE5A_00FE5A, 0x00FE5C_00FE5C,
   0x00FE5E_00FE5E, 0x00FF09_00FF09, 0x00FF3D_00FF3D, 0x00FF5D_00FF5D, 0x00FF60_00FF60,
   0x00FF63_00FF63]

def piPoints : CodePoints := .ofNumerals
  [0x0000AB_0000AB, 0x002018_002018, 0x00201B_00201C, 0x00201F_00201F, 0x002039_002039,
   0x002E02_002E02, 0x002E04_002E04, 0x002E09_002E09, 0x002E0C_002E0C, 0x002E1C_002E1C,
   0x002E20_002E20]

def pfPoints : CodePoints := .ofNumerals
  [0x0000BB_0000BB, 0x002019_002019, 0x00201D_00201D, 0x00203A_00203A, 0x002E03_002E03,
   0x002E05_002E05, 0x002E0A_002E0A, 0x002E0D_002E0D, 0x002E1D_002E1D, 0x002E21_002E21]

def poPoints : CodePoints := .ofNumerals
  [0x000021_000023, 0x000025_000027, 0x00002A_00002A, 0x00002C_00002C, 0x00002E_00002F,
   0x00003A_00003B, 0x00003F_000040, 0x00005C_00005C, 0x0000A1_0000A1, 0x0000A7_0000A7,
   0x0000B6_0000B7, 0x0000BF_0000BF, 0x00037E_00037E, 0x000387_000387, 0x00055A_00055F,
   0x000589_000589, 0x0005C0_0005C0, 0x0005C3_0005C3, 0x0005C6_0005C6, 0x0005F3_0005F4,
   0x000609_00060A, 0x00060C_00060D, 0x00061B_00061B, 0x00061D_00061F, 0x00066A_00066D,
   0x0006D4_0006D4, 0x000700_00070D, 0x0007F7_0007F9, 0x000830_00083E, 0x00085E_00085E,
   0x000964_000965, 0x000970_000970, 0x0009FD_0009FD, 0x000A76_000A76, 0x000AF0_000AF0,
   0x000C77_000C77, 0x000C84_000C84, 0x000DF4_000DF4, 0x000E4F_000E4F, 0x000E5A_000E5B,
   0x000F04_000F12, 0x000F14_000F14, 0x000F85_000F85, 0x000FD0_000FD4, 0x000FD9_000FDA,
   0x00104A_00104F, 0x0010FB_0010FB, 0x001360_001368, 0x00166E_00166E, 0x0016EB_0016ED,
   0x001735_001736, 0x0017D4_0017D6, 0x0017D8_0017DA, 0x001800_001805, 0x001807_00180A,
   0x001944_001945, 0x001A1E_001A1F, 0x001AA0_001AA6, 0x001AA8_001AAD, 0x001B4E_001B4F,
   0x001B5A_001B60, 0x001B7D_001B7F, 0x001BFC_001BFF, 0x001C3B_001C3F, 0x001C7E_001C7F,
   0x001CC0_001CC7, 0x001CD3_001CD3, 0x002016_002017, 0x002020_002027, 0x002030_002038,
   0x00203B_00203E, 0x002041_002043, 0x002047_002051, 0x002053_002053, 0x002055_00205E,
   0x002CF9_002CFC, 0x002CFE_002CFF, 0x002D70_002D70, 0x002E00_002E01, 0x002E06_002E08,
   0x002E0B_002E0B, 0x002E0E_002E16, 0x002E18_002E19, 0x002E1B_002E1B, 0x002E1E_002E1F,
   0x002E2A_002E2E, 0x002E30_002E39, 0x002E3C_002E3F, 0x002E41_002E41, 0x002E43_002E4F,
   0x002E52_002E54, 0x003001_003003, 0x00303D_00303D, 0x0030FB_0030FB, 0x00A4FE_00A4FF,
   0x00A60D_00A60F, 0x00A673_00A673, 0x00A67E_00A67E, 0x00A6F2_00A6F7, 0x00A874_00A877,
   0x00A8CE_00A8CF, 0x00A8F8_00A8FA, 0x00A8FC_00A8FC, 0x00A92E_00A92F, 0x00A95F_00A95F,
   0x00A9C1_00A9CD, 0x00A9DE_00A9DF, 0x00AA5C_00AA5F, 0x00AADE_00AADF, 0x00AAF0_00AAF1,
   0x00ABEB_00ABEB, 0x00FE10_00FE16, 0x00FE19_00FE19, 0x00FE30_00FE30, 0x00FE45_00FE46,
   0x00FE49_00FE4C, 0x00FE50_00FE52, 0x00FE54_00FE57, 0x00FE5F_00FE61, 0x00FE68_00FE68,
   0x00FE6A_00FE6B, 0x00FF01_00FF03, 0x00FF05_00FF07, 0x00FF0A_00FF0A, 0x00FF0C_00FF0C,
   0x00FF0E_00FF0F, 0x00FF1A_00FF1B, 0x00FF1F_00FF20, 0x00FF3C_00FF3C, 0x00FF61_00FF61,
   0x00FF64_00FF65, 0x010100_010102, 0x01039F_01039F, 0x0103D0_0103D0, 0x01056F_01056F,
   0x010857_010857, 0x01091F_01091F, 0x01093F_01093F, 0x010A50_010A58, 0x010A7F_010A7F,
   0x010AF0_010AF6, 0x010B39_010B3F, 0x010B99_010B9C, 0x010F55_010F59, 0x010F86_010F89,
   0x011047_01104D, 0x0110BB_0110BC, 0x0110BE_0110C1, 0x011140_011143, 0x011174_011175,
   0x0111C5_0111C8, 0x0111CD_0111CD, 0x0111DB_0111DB, 0x0111DD_0111DF, 0x011238_01123D,
   0x0112A9_0112A9, 0x0113D4_0113D5, 0x0113D7_0113D8, 0x01144B_01144F, 0x01145A_01145B,
   0x01145D_01145D, 0x0114C6_0114C6, 0x0115C1_0115D7, 0x011641_011643, 0x011660_01166C,
   0x0116B9_0116B9, 0x01173C_01173E, 0x01183B_01183B, 0x011944_011946, 0x0119E2_0119E2,
   0x011A3F_011A46, 0x011A9A_011A9C, 0x011A9E_011AA2, 0x011B00_011B09, 0x011BE1_011BE1,
   0x011C41_011C45, 0x011C70_011C71, 0x011EF7_011EF8, 0x011F43_011F4F, 0x011FFF_011FFF,
   0x012470_012474, 0x012FF1_012FF2, 0x016A6E_016A6F, 0x016AF5_016AF5, 0x016B37_016B3B,
   0x016B44_016B44, 0x016D6D_016D6F, 0x016E97_016E9A, 0x016FE2_016FE2, 0x01BC9F_01BC9F,
   0x01DA87_01DA8B, 0x01E5FF_01E5FF, 0x01E95E_01E95F]

def smPoints : CodePoints := .ofNumerals
  [0x00002B_00002B, 0x00003C_00003E, 0x00007C_00007C, 0x00007E_00007E, 0x0000AC_0000AC,
   0x0000B1_0000B1, 0x0000D7_0000D7, 0x0000F7_0000F7, 0x0003F6_0003F6, 0x000606_000608,
   0x002044_002044, 0x002052_002052, 0x00207A_00207C, 0x00208A_00208C, 0x002118_002118,
   0x002140_002144, 0x00214B_00214B, 0x002190_002194, 0x00219A_00219B, 0x0021A0_0021A0,
   0x0021A3_0021A3, 0x0021A6_0021A6, 0x0021AE_0021AE, 0x0021CE_0021CF, 0x0021D2_0021D2,
   0x0021D4_0021D4, 0x0021F4_0022FF, 0x002320_002321, 0x00237C_00237C, 0x00239B_0023B3,
   0x0023DC_0023E1, 0x0025B7_0025B7, 0x0025C1_0025C1, 0x0025F8_0025FF, 0x00266F_00266F,
   0x0027C0_0027C4, 0x0027C7_0027E5, 0x0027F0_0027FF, 0x002900_002982, 0x002999_0029D7,
   0x0029DC_0029FB, 0x0029FE_002AFF, 0x002B30_002B44, 0x002B47_002B4C, 0x00FB29_00FB29,
   0x00FE62_00FE62, 0x00FE64_00FE66, 0x00FF0B_00FF0B, 0x00FF1C_00FF1E, 0x00FF5C_00FF5C,
   0x00FF5E_00FF5E, 0x00FFE2_00FFE2, 0x00FFE9_00FFEC, 0x010D8E_010D8F, 0x01D6C1_01D6C1,
   0x01D6DB_01D6DB, 0x01D6FB_01D6FB, 0x01D715_01D715, 0x01D735_01D735, 0x01D74F_01D74F,
   0x01D76F_01D76F, 0x01D789_01D789, 0x01D7A9_01D7A9, 0x01D7C3_01D7C3, 0x01EEF0_01EEF1]

def scPoints : CodePoints := .ofNumerals
  [0x000024_000024, 0x0000A2_0000A5, 0x00058F_00058F, 0x00060B_00060B, 0x0007FE_0007FF,
   0x0009F2_0009F3, 0x0009FB_0009FB, 0x000AF1_000AF1, 0x000BF9_000BF9, 0x000E3F_000E3F,
   0x0017DB_0017DB, 0x0020A0_0020C0, 0x00A838_00A838, 0x00FDFC_00FDFC, 0x00FE69_00FE69,
   0x00FF04_00FF04, 0x00FFE0_00FFE1, 0x00FFE5_00FFE6, 0x011FDD_011FE0, 0x01E2FF_01E2FF,
   0x01ECB0_01ECB0]

def skPoints : CodePoints := .ofNumerals
  [0x00005E_00005E, 0x000060_000060, 0x0000A8_0000A8, 0x0000AF_0000AF, 0x0000B4_0000B4,
   0x0000B8_0000B8, 0x0002C2_0002C5, 0x0002D2_0002DF, 0x0002E5_0002EB, 0x0002ED_0002ED,
   0x0002EF_0002FF, 0x000375_000375, 0x000384_000385, 0x000888_000888, 0x001FBD_001FBD,
   0x001FBF_001FC1, 0x001FCD_001FCF, 0x001FDD_001FDF, 0x001FED_001FEF, 0x001FFD_001FFE,
   0x00309B_00309C, 0x00A700_00A716, 0x00A720_00A721, 0x00A789_00A78A, 0x00AB5B_00AB5B,
   0x00AB6A_00AB6B, 0x00FBB2_00FBC2, 0x00FF3E_00FF3E, 0x00FF40_00FF40, 0x00FFE3_00FFE3,
   0x01F3FB_01F3FF]

def soPoints : CodePoints := .ofNumerals
  [0x0000A6_0000A6, 0x0000A9_0000A9, 0x0000AE_0000AE, 0x0000B0_0000B0, 0x000482_000482,
   0x00058D_00058E, 0x00060E_00060F, 0x0006DE_0006DE, 0x0006E9_0006E9, 0x0006FD_0006FE,
   0x0007F6_0007F6, 0x0009FA_0009FA, 0x000B70_000B70, 0x000BF3_000BF8, 0x000BFA_000BFA,
   0x000C7F_000C7F, 0x000D4F_000D4F, 0x000D79_000D79, 0x000F01_000F03, 0x000F13_000F13,
   0x000F15_000F17, 0x000F1A_000F1F, 0x000F34_000F34, 0x000F36_000F36, 0x000F38_000F38,
   0x000FBE_000FC5, 0x000FC7_000FCC, 0x000FCE_000FCF, 0x000FD5_000FD8, 0x00109E_00109F,
   0x001390_001399, 0x00166D_00166D, 0x001940_001940, 0x0019DE_0019FF, 0x001B61_001B6A,
   0x001B74_001B7C, 0x002100_002101, 0x002103_002106, 0x002108_002109, 0x002114_002114,
   0x002116_002117, 0x00211E_002123, 0x002125_002125, 0x002127_002127, 0x002129_002129,
   0x00212E_00212E, 0x00213A_00213B, 0x00214A_00214A, 0x00214C_00214D, 0x00214F_00214F,
   0x00218A_00218B, 0x002195_002199, 0x00219C_00219F, 0x0021A1_0021A2, 0x0021A4_0021A5,
   0x0021A7_0021AD, 0x0021AF_0021CD, 0x0021D0_0021D1, 0x0021D3_0021D3, 0x0021D5_0021F3,
   0x002300_002307, 0x00230C_00231F, 0x002322_002328, 0x00232B_00237B, 0x00237D_00239A,
   0x0023B4_0023DB, 0x0023E2_002429, 0x002440_00244A, 0x00249C_0024E9, 0x002500_0025B6,
   0x0025B8_0025C0, 0x0025C2_0025F7, 0x002600_00266E, 0x002670_002767, 0x002794_0027BF,
   0x002800_0028FF, 0x002B00_002B2F, 0x002B45_002B46, 0x002B4D_002B73, 0x002B76_002B95,
   0x002B97_002BFF, 0x002CE5_002CEA, 0x002E50_002E51, 0x002E80_002E99, 0x002E9B_002EF3,
   0x002F00_002FD5, 0x002FF0_002FFF, 0x003004_003004, 0x003012_003013, 0x003020_003020,
   0x003036_003037, 0x00303E_00303F, 0x003190_003191, 0x003196_00319F, 0x0031C0_0031E5,
   0x0031EF_0031EF, 0x003200_00321E, 0x00322A_003247, 0x003250_003250, 0x003260_00327F,
   0x00328A_0032B0, 0x0032C0_0033FF, 0x004DC0_004DFF, 0x00A490_00A4C6, 0x00A828_00A82B,
   0x00A836_00A837, 0x00A839_00A839, 0x00AA77_00AA79, 0x00FD40_00FD4F, 0x00FDCF_00FDCF,
   0x00FDFD_00FDFF, 0x00FFE4_00FFE4, 0x00FFE8_00FFE8, 0x00FFED_00FFEE, 0x00FFFC_00FFFD,
   0x010137_01013F, 0x010179_010189, 0x01018C_01018E, 0x010190_01019C, 0x0101A0_0101A0,
   0x0101D0_0101FC, 0x010877_010878, 0x010AC8_010AC8, 0x01173F_01173F, 0x011FD5_011FDC,
   0x011FE1_011FF1, 0x016B3C_016B3F, 0x016B45_016B45, 0x01BC9C_01BC9C, 0x01CC00_01CCEF,
   0x01CD00_01CEB3, 0x01CF50_01CFC3, 0x01D000_01D0F5, 0x01D100_01D126, 0x01D129_01D164,
   0x01D16A_01D16C, 0x01D183_01D184, 0x01D18C_01D1A9, 0x01D1AE_01D1EA, 0x01D200_01D241,
   0x01D245_01D245, 0x01D300_01D356, 0x01D800_01D9FF, 0x01DA37_01DA3A, 0x01DA6D_01DA74,
   0x01DA76_01DA83, 0x01DA85_01DA86, 0x01E14F_01E14F, 0x01ECAC_01ECAC, 0x01ED2E_01ED2E,
   0x01F000_01F02B, 0x01F030_01F093, 0x01F0A0_01F0AE, 0x01F0B1_01F0BF, 0x01F0C1_01F0CF,
   0x01F0D1_01F0F5, 0x01F10D_01F1AD, 0x01F1E6_01F202, 0x01F210_01F23B, 0x01F240_01F248,
   0x01F250_01F251, 0x01F260_01F265, 0x01F300_01F3FA, 0x01F400_01F6D7, 0x01F6DC_01F6EC,
   0x01F6F0_01F6FC, 0x01F700_01F776, 0x01F77B_01F7D9, 0x01F7E0_01F7EB, 0x01F7F0_01F7F0,
   0x01F800_01F80B, 0x01F810_01F847, 0x01F850_01F859, 0x01F860_01F887, 0x01F890_01F8AD,
   0x01F8B0_01F8BB, 0x01F8C0_01F8C1, 0x01F900_01FA53, 0x01FA60_01FA6D, 0x01FA70_01FA7C,
   0x01FA80_01FA89, 0x01FA8F_01FAC6, 0x01FACE_01FADC, 0x01FADF_01FAE9, 0x01FAF0_01FAF8,
   0x01FB00_01FB92, 0x01FB94_01FBEF]

def zsPoints : CodePoints := .ofNumerals
  [0x000020_000020, 0x0000A0_0000A0, 0x001680_001680, 0x002000_00200A, 0x00202F_00202F,
   0x00205F_00205F, 0x003000_003000]

def zlPoints : CodePoints := .ofNumerals [0x002028_002028]

def zpPoints : CodePoints := .ofNumerals [0x002029_002029]

def ccPoints : CodePoints := .ofNumerals [0x000000_00001F, 0x00007F_00009F]

def cfPoints : CodePoints := .ofNumerals
  [0x0000AD_0000AD, 0x000600_000605, 0x00061C_00061C, 0x0006DD_0006DD, 0x00070F_00070F,
   0x000890_000891, 0x0008E2_0008E2, 0x00180E_00180E, 0x00200B_00200F, 0x00202A_00202E,
   0x002060_002064, 0x002066_00206F, 0x00FEFF_00FEFF, 0x00FFF9_00FFFB, 0x0110BD_0110BD,
   0x0110CD_0110CD, 0x013430_01343F, 0x01BCA0_01BCA3, 0x01D173_01D17A, 0x0E0001_0E0001,
   0x0E0020_0E007F]

def coPoints : CodePoints := .ofNumerals [0x00E000_00F8FF, 0x0F0000_0FFFFD, 0x100000_10FFFD]

def letterPoints : CodePoints :=
  .unions [luPoints, llPoints, ltPoints, lmPoints, loPoints]

def markPoints : CodePoints :=
  .unions [mnPoints, mcPoints, mePoints]

def numberPoints : CodePoints :=
  .unions [ndPoints, nlPoints, noPoints]

def punctuationPoints : CodePoints :=
  .unions [pcPoints, pdPoints, psPoints, pePoints, piPoints, pfPoints, poPoints]

def symbolPoints : CodePoints :=
  .unions [smPoints, scPoints, skPoints, soPoints]

def separatorPoints : CodePoints :=
  .unions [zsPoints, zlPoints, zpPoints]

/-- What is no letter, mark, numeral, punctuation, symbol or separator. -/
def otherPoints : CodePoints :=
  (CodePoints.unions
    [letterPoints, markPoints, numberPoints, punctuationPoints, symbolPoints,
     separatorPoints]).complement

/-- The code points that are not assigned. -/
def cnPoints : CodePoints :=
  otherPoints.difference (.unions [ccPoints, cfPoints, coPoints])

def categories : List NamedSet :=
  [⟨["lu", "uppercaseletter"], luPoints⟩,
   ⟨["ll", "lowercaseletter"], llPoints⟩,
   ⟨["lt", "titlecaseletter"], ltPoints⟩,
   ⟨["lm", "modifierletter"], lmPoints⟩,
   ⟨["lo", "otherletter"], loPoints⟩,
   ⟨["mn", "nonspacingmark"], mnPoints⟩,
   ⟨["mc", "spacingmark"], mcPoints⟩,
   ⟨["me", "enclosingmark"], mePoints⟩,
   ⟨["nd", "decimalnumber", "digit"], ndPoints⟩,
   ⟨["nl", "letternumber"], nlPoints⟩,
   ⟨["no", "othernumber"], noPoints⟩,
   ⟨["pc", "connectorpunctuation"], pcPoints⟩,
   ⟨["pd", "dashpunctuation"], pdPoints⟩,
   ⟨["ps", "openpunctuation"], psPoints⟩,
   ⟨["pe", "closepunctuation"], pePoints⟩,
   ⟨["pi", "initialpunctuation"], piPoints⟩,
   ⟨["pf", "finalpunctuation"], pfPoints⟩,
   ⟨["po", "otherpunctuation"], poPoints⟩,
   ⟨["sm", "mathsymbol"], smPoints⟩,
   ⟨["sc", "currencysymbol"], scPoints⟩,
   ⟨["sk", "modifiersymbol"], skPoints⟩,
   ⟨["so", "othersymbol"], soPoints⟩,
   ⟨["zs", "spaceseparator"], zsPoints⟩,
   ⟨["zl", "lineseparator"], zlPoints⟩,
   ⟨["zp", "paragraphseparator"], zpPoints⟩,
   ⟨["cc", "control", "cntrl"], ccPoints⟩,
   ⟨["cf", "format"], cfPoints⟩,
   ⟨["co", "privateuse"], coPoints⟩,
   ⟨["cn", "unassigned"], cnPoints⟩,
   ⟨["l", "letter"], letterPoints⟩,
   ⟨["lc", "casedletter"], .unions [luPoints, llPoints, ltPoints]⟩,
   ⟨["m", "mark", "combiningmark"], markPoints⟩,
   ⟨["n", "number"], numberPoints⟩,
   ⟨["p", "punctuation", "punct"], punctuationPoints⟩,
   ⟨["s", "symbol"], symbolPoints⟩,
   ⟨["z", "separator"], separatorPoints⟩,
   ⟨["c", "other"], otherPoints⟩,
   ⟨["any"], .full⟩,
   ⟨["ascii"], .range 0 0x7F⟩,
   ⟨["assigned"], cnPoints.complement⟩]

end RouteTable.Text
