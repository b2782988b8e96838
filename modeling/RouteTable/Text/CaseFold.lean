import RouteTable.Text.CodePoints

/-!
Simple case folding of Unicode 16. Characters that fold to the same one form an orbit.
-/

namespace RouteTable.Text

/-- The orbits of more than one character. An orbit is one numeral, twenty-four bits for each
code point. -/
def caseOrbits : List Nat :=
  [0x000041_000061, 0x000042_000062, 0x000043_000063, 0x000044_000064,
   0x000045_000065, 0x000046_000066, 0x000047_000067, 0x000048_000068,
   0x000049_000069, 0x00004A_00006A, 0x00004B_00006B_00212A, 0x00004C_00006C,
   0x00004D_00006D, 0x00004E_00006E, 0x00004F_00006F, 0x000050_000070,
   0x000051_000071, 0x000052_000072, 0x000053_000073_00017F, 0x000054_000074,
   0x000055_000075, 0x000056_000076, 0x000057_000077, 0x000058_000078,
   0x000059_000079, 0x00005A_00007A, 0x0000B5_00039C_0003BC, 0x0000C0_0000E0,
   0x0000C1_0000E1, 0x0000C2_0000E2, 0x0000C3_0000E3, 0x0000C4_0000E4,
   0x0000C5_0000E5_00212B, 0x0000C6_0000E6, 0x0000C7_0000E7, 0x0000C8_0000E8,
   0x0000C9_0000E9, 0x0000CA_0000EA, 0x0000CB_0000EB, 0x0000CC_0000EC,
   0x0000CD_0000ED, 0x0000CE_0000EE, 0x0000CF_0000EF, 0x0000D0_0000F0,
   0x0000D1_0000F1, 0x0000D2_0000F2, 0x0000D3_0000F3, 0x0000D4_0000F4,
   0x0000D5_0000F5, 0x0000D6_0000F6, 0x0000D8_0000F8, 0x0000D9_0000F9,
   0x0000DA_0000FA, 0x0000DB_0000FB, 0x0000DC_0000FC, 0x0000DD_0000FD,
   0x0000DE_0000FE, 0x0000DF_001E9E, 0x0000FF_000178, 0x000100_000101,
   0x000102_000103, 0x000104_000105, 0x000106_000107, 0x000108_000109,
   0x00010A_00010B, 0x00010C_00010D, 0x00010E_00010F, 0x000110_000111,
   0x000112_000113, 0x000114_000115, 0x000116_000117, 0x000118_000119,
   0x00011A_00011B, 0x00011C_00011D, 0x00011E_00011F, 0x000120_000121,
   0x000122_000123, 0x000124_000125, 0x000126_000127, 0x000128_000129,
   0x00012A_00012B, 0x00012C_00012D, 0x00012E_00012F, 0x000132_000133,
   0x000134_000135, 0x000136_000137, 0x000139_00013A, 0x00013B_00013C,
   0x00013D_00013E, 0x00013F_000140, 0x000141_000142, 0x000143_000144,
   0x000145_000146, 0x000147_000148, 0x00014A_00014B, 0x00014C_00014D,
   0x00014E_00014F, 0x000150_000151, 0x000152_000153, 0x000154_000155,
   0x000156_000157, 0x000158_000159, 0x00015A_00015B, 0x00015C_00015D,
   0x00015E_00015F, 0x000160_000161, 0x000162_000163, 0x000164_000165,
   0x000166_000167, 0x000168_000169, 0x00016A_00016B, 0x00016C_00016D,
   0x00016E_00016F, 0x000170_000171, 0x000172_000173, 0x000174_000175,
   0x000176_000177, 0x000179_00017A, 0x00017B_00017C, 0x00017D_00017E,
   0x000180_000243, 0x000181_000253, 0x000182_000183, 0x000184_000185,
   0x000186_000254, 0x000187_000188, 0x000189_000256, 0x00018A_000257,
   0x00018B_00018C, 0x00018E_0001DD, 0x00018F_000259, 0x000190_00025B,
   0x000191_000192, 0x000193_000260, 0x000194_000263, 0x000195_0001F6,
   0x000196_000269, 0x000197_000268, 0x000198_000199, 0x00019A_00023D,
   0x00019B_00A7DC, 0x00019C_00026F, 0x00019D_000272, 0x00019E_000220,
   0x00019F_000275, 0x0001A0_0001A1, 0x0001A2_0001A3, 0x0001A4_0001A5,
   0x0001A6_000280, 0x0001A7_0001A8, 0x0001A9_000283, 0x0001AC_0001AD,
   0x0001AE_000288, 0x0001AF_0001B0, 0x0001B1_00028A, 0x0001B2_00028B,
   0x0001B3_0001B4, 0x0001B5_0001B6, 0x0001B7_000292, 0x0001B8_0001B9,
   0x0001BC_0001BD, 0x0001BF_0001F7, 0x0001C4_0001C5_0001C6, 0x0001C7_0001C8_0001C9,
   0x0001CA_0001CB_0001CC, 0x0001CD_0001CE, 0x0001CF_0001D0, 0x0001D1_0001D2,
   0x0001D3_0001D4, 0x0001D5_0001D6, 0x0001D7_0001D8, 0x0001D9_0001DA,
   0x0001DB_0001DC, 0x0001DE_0001DF, 0x0001E0_0001E1, 0x0001E2_0001E3,
   0x0001E4_0001E5, 0x0001E6_0001E7, 0x0001E8_0001E9, 0x0001EA_0001EB,
   0x0001EC_0001ED, 0x0001EE_0001EF, 0x0001F1_0001F2_0001F3, 0x0001F4_0001F5,
   0x0001F8_0001F9, 0x0001FA_0001FB, 0x0001FC_0001FD, 0x0001FE_0001FF,
   0x000200_000201, 0x000202_000203, 0x000204_000205, 0x000206_000207,
   0x000208_000209, 0x00020A_00020B, 0x00020C_00020D, 0x00020E_00020F,
   0x000210_000211, 0x000212_000213, 0x000214_000215, 0x000216_000217,
   0x000218_000219, 0x00021A_00021B, 0x00021C_00021D, 0x00021E_00021F,
   0x000222_000223, 0x000224_000225, 0x000226_000227, 0x000228_000229,
   0x00022A_00022B, 0x00022C_00022D, 0x00022E_00022F, 0x000230_000231,
   0x000232_000233, 0x00023A_002C65, 0x00023B_00023C, 0x00023E_002C66,
   0x00023F_002C7E, 0x000240_002C7F, 0x000241_000242, 0x000244_000289,
   0x000245_00028C, 0x000246_000247, 0x000248_000249, 0x00024A_00024B,
   0x00024C_00024D, 0x00024E_00024F, 0x000250_002C6F, 0x000251_002C6D,
   0x000252_002C70, 0x00025C_00A7AB, 0x000261_00A7AC, 0x000264_00A7CB,
   0x000265_00A78D, 0x000266_00A7AA, 0x00026A_00A7AE, 0x00026B_002C62,
   0x00026C_00A7AD, 0x000271_002C6E, 0x00027D_002C64, 0x000282_00A7C5,
   0x000287_00A7B1, 0x00029D_00A7B2, 0x00029E_00A7B0, 0x000345_000399_0003B9_001FBE,
   0x000370_000371, 0x000372_000373, 0x000376_000377, 0x00037B_0003FD,
   0x00037C_0003FE, 0x00037D_0003FF, 0x00037F_0003F3, 0x000386_0003AC,
   0x000388_0003AD, 0x000389_0003AE, 0x00038A_0003AF, 0x00038C_0003CC,
   0x00038E_0003CD, 0x00038F_0003CE, 0x000390_001FD3, 0x000391_0003B1,
   0x000392_0003B2_0003D0, 0x000393_0003B3, 0x000394_0003B4, 0x000395_0003B5_0003F5,
   0x000396_0003B6, 0x000397_0003B7, 0x000398_0003B8_0003D1_0003F4, 0x00039A_0003BA_0003F0,
   0x00039B_0003BB, 0x00039D_0003BD, 0x00039E_0003BE, 0x00039F_0003BF,
   0x0003A0_0003C0_0003D6, 0x0003A1_0003C1_0003F1, 0x0003A3_0003C2_0003C3, 0x0003A4_0003C4,
   0x0003A5_0003C5, 0x0003A6_0003C6_0003D5, 0x0003A7_0003C7, 0x0003A8_0003C8,
   0x0003A9_0003C9_002126, 0x0003AA_0003CA, 0x0003AB_0003CB, 0x0003B0_001FE3,
   0x0003CF_0003D7, 0x0003D8_0003D9, 0x0003DA_0003DB, 0x0003DC_0003DD,
   0x0003DE_0003DF, 0x0003E0_0003E1, 0x0003E2_0003E3, 0x0003E4_0003E5,
   0x0003E6_0003E7, 0x0003E8_0003E9, 0x0003EA_0003EB, 0x0003EC_0003ED,
   0x0003EE_0003EF, 0x0003F2_0003F9, 0x0003F7_0003F8, 0x0003FA_0003FB,
   0x000400_000450, 0x000401_000451, 0x000402_000452, 0x000403_000453,
   0x000404_000454, 0x000405_000455, 0x000406_000456, 0x000407_000457,
   0x000408_000458, 0x000409_000459, 0x00040A_00045A, 0x00040B_00045B,
   0x00040C_00045C, 0x00040D_00045D, 0x00040E_00045E, 0x00040F_00045F,
   0x000410_000430, 0x000411_000431, 0x000412_000432_001C80, 0x000413_000433,
   0x000414_000434_001C81, 0x000415_000435, 0x000416_000436, 0x000417_000437,
   0x000418_000438, 0x000419_000439, 0x00041A_00043A, 0x00041B_00043B,
   0x00041C_00043C, 0x00041D_00043D, 0x00041E_00043E_001C82, 0x00041F_00043F,
   0x000420_000440, 0x000421_000441_001C83, 0x000422_000442_001C84_001C85, 0x000423_000443,
   0x000424_000444, 0x000425_000445, 0x000426_000446, 0x000427_000447,
   0x000428_000448, 0x000429_000449, 0x00042A_00044A_001C86, 0x00042B_00044B,
   0x00042C_00044C, 0x00042D_00044D, 0x00042E_00044E, 0x00042F_00044F,
   0x000460_000461, 0x000462_000463_001C87, 0x000464_000465, 0x000466_000467,
   0x000468_000469, 0x00046A_00046B, 0x00046C_00046D, 0x00046E_00046F,
   0x000470_000471, 0x000472_000473, 0x000474_000475, 0x000476_000477,
   0x000478_000479, 0x00047A_00047B, 0x00047C_00047D, 0x00047E_00047F,
   0x000480_000481, 0x00048A_00048B, 0x00048C_00048D, 0x00048E_00048F,
   0x000490_000491, 0x000492_000493, 0x000494_000495, 0x000496_000497,
   0x000498_000499, 0x00049A_00049B, 0x00049C_00049D, 0x00049E_00049F,
   0x0004A0_0004A1, 0x0004A2_0004A3, 0x0004A4_0004A5, 0x0004A6_0004A7,
   0x0004A8_0004A9, 0x0004AA_0004AB, 0x0004AC_0004AD, 0x0004AE_0004AF,
   0x0004B0_0004B1, 0x0004B2_0004B3, 0x0004B4_0004B5, 0x0004B6_0004B7,
   0x0004B8_0004B9, 0x0004BA_0004BB, 0x0004BC_0004BD, 0x0004BE_0004BF,
   0x0004C0_0004CF, 0x0004C1_0004C2, 0x0004C3_0004C4, 0x0004C5_0004C6,
   0x0004C7_0004C8, 0x0004C9_0004CA, 0x0004CB_0004CC, 0x0004CD_0004CE,
   0x0004D0_0004D1, 0x0004D2_0004D3, 0x0004D4_0004D5, 0x0004D6_0004D7,
   0x0004D8_0004D9, 0x0004DA_0004DB, 0x0004DC_0004DD, 0x0004DE_0004DF,
   0x0004E0_0004E1, 0x0004E2_0004E3, 0x0004E4_0004E5, 0x0004E6_0004E7,
   0x0004E8_0004E9, 0x0004EA_0004EB, 0x0004EC_0004ED, 0x0004EE_0004EF,
   0x0004F0_0004F1, 0x0004F2_0004F3, 0x0004F4_0004F5, 0x0004F6_0004F7,
   0x0004F8_0004F9, 0x0004FA_0004FB, 0x0004FC_0004FD, 0x0004FE_0004FF,
   0x000500_000501, 0x000502_000503, 0x000504_000505, 0x000506_000507,
   0x000508_000509, 0x00050A_00050B, 0x00050C_00050D, 0x00050E_00050F,
   0x000510_000511, 0x000512_000513, 0x000514_000515, 0x000516_000517,
   0x000518_000519, 0x00051A_00051B, 0x00051C_00051D, 0x00051E_00051F,
   0x000520_000521, 0x000522_000523, 0x000524_000525, 0x000526_000527,
   0x000528_000529, 0x00052A_00052B, 0x00052C_00052D, 0x00052E_00052F,
   0x000531_000561, 0x000532_000562, 0x000533_000563, 0x000534_000564,
   0x000535_000565, 0x000536_000566, 0x000537_000567, 0x000538_000568,
   0x000539_000569, 0x00053A_00056A, 0x00053B_00056B, 0x00053C_00056C,
   0x00053D_00056D, 0x00053E_00056E, 0x00053F_00056F, 0x000540_000570,
   0x000541_000571, 0x000542_000572, 0x000543_000573, 0x000544_000574,
   0x000545_000575, 0x000546_000576, 0x000547_000577, 0x000548_000578,
   0x000549_000579, 0x00054A_00057A, 0x00054B_00057B, 0x00054C_00057C,
   0x00054D_00057D, 0x00054E_00057E, 0x00054F_00057F, 0x000550_000580,
   0x000551_000581, 0x000552_000582, 0x000553_000583, 0x000554_000584,
   0x000555_000585, 0x000556_000586, 0x0010A0_002D00, 0x0010A1_002D01,
   0x0010A2_002D02, 0x0010A3_002D03, 0x0010A4_002D04, 0x0010A5_002D05,
   0x0010A6_002D06, 0x0010A7_002D07, 0x0010A8_002D08, 0x0010A9_002D09,
   0x0010AA_002D0A, 0x0010AB_002D0B, 0x0010AC_002D0C, 0x0010AD_002D0D,
   0x0010AE_002D0E, 0x0010AF_002D0F, 0x0010B0_002D10, 0x0010B1_002D11,
   0x0010B2_002D12, 0x0010B3_002D13, 0x0010B4_002D14, 0x0010B5_002D15,
   0x0010B6_002D16, 0x0010B7_002D17, 0x0010B8_002D18, 0x0010B9_002D19,
   0x0010BA_002D1A, 0x0010BB_002D1B, 0x0010BC_002D1C, 0x0010BD_002D1D,
   0x0010BE_002D1E, 0x0010BF_002D1F, 0x0010C0_002D20, 0x0010C1_002D21,
   0x0010C2_002D22, 0x0010C3_002D23, 0x0010C4_002D24, 0x0010C5_002D25,
   0x0010C7_002D27, 0x0010CD_002D2D, 0x0010D0_001C90, 0x0010D1_001C91,
   0x0010D2_001C92, 0x0010D3_001C93, 0x0010D4_001C94, 0x0010D5_001C95,
   0x0010D6_001C96, 0x0010D7_001C97, 0x0010D8_001C98, 0x0010D9_001C99,
   0x0010DA_001C9A, 0x0010DB_001C9B, 0x0010DC_001C9C, 0x0010DD_001C9D,
   0x0010DE_001C9E, 0x0010DF_001C9F, 0x0010E0_001CA0, 0x0010E1_001CA1,
   0x0010E2_001CA2, 0x0010E3_001CA3, 0x0010E4_001CA4, 0x0010E5_001CA5,
   0x0010E6_001CA6, 0x0010E7_001CA7, 0x0010E8_001CA8, 0x0010E9_001CA9,
   0x0010EA_001CAA, 0x0010EB_001CAB, 0x0010EC_001CAC, 0x0010ED_001CAD,
   0x0010EE_001CAE, 0x0010EF_001CAF, 0x0010F0_001CB0, 0x0010F1_001CB1,
   0x0010F2_001CB2, 0x0010F3_001CB3, 0x0010F4_001CB4, 0x0010F5_001CB5,
   0x0010F6_001CB6, 0x0010F7_001CB7, 0x0010F8_001CB8, 0x0010F9_001CB9,
   0x0010FA_001CBA, 0x0010FD_001CBD, 0x0010FE_001CBE, 0x0010FF_001CBF,
   0x0013A0_00AB70, 0x0013A1_00AB71, 0x0013A2_00AB72, 0x0013A3_00AB73,
   0x0013A4_00AB74, 0x0013A5_00AB75, 0x0013A6_00AB76, 0x0013A7_00AB77,
   0x0013A8_00AB78, 0x0013A9_00AB79, 0x0013AA_00AB7A, 0x0013AB_00AB7B,
   0x0013AC_00AB7C, 0x0013AD_00AB7D, 0x0013AE_00AB7E, 0x0013AF_00AB7F,
   0x0013B0_00AB80, 0x0013B1_00AB81, 0x0013B2_00AB82, 0x0013B3_00AB83,
   0x0013B4_00AB84, 0x0013B5_00AB85, 0x0013B6_00AB86, 0x0013B7_00AB87,
   0x0013B8_00AB88, 0x0013B9_00AB89, 0x0013BA_00AB8A, 0x0013BB_00AB8B,
   0x0013BC_00AB8C, 0x0013BD_00AB8D, 0x0013BE_00AB8E, 0x0013BF_00AB8F,
   0x0013C0_00AB90, 0x0013C1_00AB91, 0x0013C2_00AB92, 0x0013C3_00AB93,
   0x0013C4_00AB94, 0x0013C5_00AB95, 0x0013C6_00AB96, 0x0013C7_00AB97,
   0x0013C8_00AB98, 0x0013C9_00AB99, 0x0013CA_00AB9A, 0x0013CB_00AB9B,
   0x0013CC_00AB9C, 0x0013CD_00AB9D, 0x0013CE_00AB9E, 0x0013CF_00AB9F,
   0x0013D0_00ABA0, 0x0013D1_00ABA1, 0x0013D2_00ABA2, 0x0013D3_00ABA3,
   0x0013D4_00ABA4, 0x0013D5_00ABA5, 0x0013D6_00ABA6, 0x0013D7_00ABA7,
   0x0013D8_00ABA8, 0x0013D9_00ABA9, 0x0013DA_00ABAA, 0x0013DB_00ABAB,
   0x0013DC_00ABAC, 0x0013DD_00ABAD, 0x0013DE_00ABAE, 0x0013DF_00ABAF,
   0x0013E0_00ABB0, 0x0013E1_00ABB1, 0x0013E2_00ABB2, 0x0013E3_00ABB3,
   0x0013E4_00ABB4, 0x0013E5_00ABB5, 0x0013E6_00ABB6, 0x0013E7_00ABB7,
   0x0013E8_00ABB8, 0x0013E9_00ABB9, 0x0013EA_00ABBA, 0x0013EB_00ABBB,
   0x0013EC_00ABBC, 0x0013ED_00ABBD, 0x0013EE_00ABBE, 0x0013EF_00ABBF,
   0x0013F0_0013F8, 0x0013F1_0013F9, 0x0013F2_0013FA, 0x0013F3_0013FB,
   0x0013F4_0013FC, 0x0013F5_0013FD, 0x001C88_00A64A_00A64B, 0x001C89_001C8A,
   0x001D79_00A77D, 0x001D7D_002C63, 0x001D8E_00A7C6, 0x001E00_001E01,
   0x001E02_001E03, 0x001E04_001E05, 0x001E06_001E07, 0x001E08_001E09,
   0x001E0A_001E0B, 0x001E0C_001E0D, 0x001E0E_001E0F, 0x001E10_001E11,
   0x001E12_001E13, 0x001E14_001E15, 0x001E16_001E17, 0x001E18_001E19,
   0x001E1A_001E1B, 0x001E1C_001E1D, 0x001E1E_001E1F, 0x001E20_001E21,
   0x001E22_001E23, 0x001E24_001E25, 0x001E26_001E27, 0x001E28_001E29,
   0x001E2A_001E2B, 0x001E2C_001E2D, 0x001E2E_001E2F, 0x001E30_001E31,
   0x001E32_001E33, 0x001E34_001E35, 0x001E36_001E37, 0x001E38_001E39,
   0x001E3A_001E3B, 0x001E3C_001E3D, 0x001E3E_001E3F, 0x001E40_001E41,
   0x001E42_001E43, 0x001E44_001E45, 0x001E46_001E47, 0x001E48_001E49,
   0x001E4A_001E4B, 0x001E4C_001E4D, 0x001E4E_001E4F, 0x001E50_001E51,
   0x001E52_001E53, 0x001E54_001E55, 0x001E56_001E57, 0x001E58_001E59,
   0x001E5A_001E5B, 0x001E5C_001E5D, 0x001E5E_001E5F, 0x001E60_001E61_001E9B,
   0x001E62_001E63, 0x001E64_001E65, 0x001E66_001E67, 0x001E68_001E69,
   0x001E6A_001E6B, 0x001E6C_001E6D, 0x001E6E_001E6F, 0x001E70_001E71,
   0x001E72_001E73, 0x001E74_001E75, 0x001E76_001E77, 0x001E78_001E79,
   0x001E7A_001E7B, 0x001E7C_001E7D, 0x001E7E_001E7F, 0x001E80_001E81,
   0x001E82_001E83, 0x001E84_001E85, 0x001E86_001E87, 0x001E88_001E89,
   0x001E8A_001E8B, 0x001E8C_001E8D, 0x001E8E_001E8F, 0x001E90_001E91,
   0x001E92_001E93, 0x001E94_001E95, 0x001EA0_001EA1, 0x001EA2_001EA3,
   0x001EA4_001EA5, 0x001EA6_001EA7, 0x001EA8_001EA9, 0x001EAA_001EAB,
   0x001EAC_001EAD, 0x001EAE_001EAF, 0x001EB0_001EB1, 0x001EB2_001EB3,
   0x001EB4_001EB5, 0x001EB6_001EB7, 0x001EB8_001EB9, 0x001EBA_001EBB,
   0x001EBC_001EBD, 0x001EBE_001EBF, 0x001EC0_001EC1, 0x001EC2_001EC3,
   0x001EC4_001EC5, 0x001EC6_001EC7, 0x001EC8_001EC9, 0x001ECA_001ECB,
   0x001ECC_001ECD, 0x001ECE_001ECF, 0x001ED0_001ED1, 0x001ED2_001ED3,
   0x001ED4_001ED5, 0x001ED6_001ED7, 0x001ED8_001ED9, 0x001EDA_001EDB,
   0x001EDC_001EDD, 0x001EDE_001EDF, 0x001EE0_001EE1, 0x001EE2_001EE3,
   0x001EE4_001EE5, 0x001EE6_001EE7, 0x001EE8_001EE9, 0x001EEA_001EEB,
   0x001EEC_001EED, 0x001EEE_001EEF, 0x001EF0_001EF1, 0x001EF2_001EF3,
   0x001EF4_001EF5, 0x001EF6_001EF7, 0x001EF8_001EF9, 0x001EFA_001EFB,
   0x001EFC_001EFD, 0x001EFE_001EFF, 0x001F00_001F08, 0x001F01_001F09,
   0x001F02_001F0A, 0x001F03_001F0B, 0x001F04_001F0C, 0x001F05_001F0D,
   0x001F06_001F0E, 0x001F07_001F0F, 0x001F10_001F18, 0x001F11_001F19,
   0x001F12_001F1A, 0x001F13_001F1B, 0x001F14_001F1C, 0x001F15_001F1D,
   0x001F20_001F28, 0x001F21_001F29, 0x001F22_001F2A, 0x001F23_001F2B,
   0x001F24_001F2C, 0x001F25_001F2D, 0x001F26_001F2E, 0x001F27_001F2F,
   0x001F30_001F38, 0x001F31_001F39, 0x001F32_001F3A, 0x001F33_001F3B,
   0x001F34_001F3C, 0x001F35_001F3D, 0x001F36_001F3E, 0x001F37_001F3F,
   0x001F40_001F48, 0x001F41_001F49, 0x001F42_001F4A, 0x001F43_001F4B,
   0x001F44_001F4C, 0x001F45_001F4D, 0x001F51_001F59, 0x001F53_001F5B,
   0x001F55_001F5D, 0x001F57_001F5F, 0x001F60_001F68, 0x001F61_001F69,
   0x001F62_001F6A, 0x001F63_001F6B, 0x001F64_001F6C, 0x001F65_001F6D,
   0x001F66_001F6E, 0x001F67_001F6F, 0x001F70_001FBA, 0x001F71_001FBB,
   0x001F72_001FC8, 0x001F73_001FC9, 0x001F74_001FCA, 0x001F75_001FCB,
   0x001F76_001FDA, 0x001F77_001FDB, 0x001F78_001FF8, 0x001F79_001FF9,
   0x001F7A_001FEA, 0x001F7B_001FEB, 0x001F7C_001FFA, 0x001F7D_001FFB,
   0x001F80_001F88, 0x001F81_001F89, 0x001F82_001F8A, 0x001F83_001F8B,
   0x001F84_001F8C, 0x001F85_001F8D, 0x001F86_001F8E, 0x001F87_001F8F,
   0x001F90_001F98, 0x001F91_001F99, 0x001F92_001F9A, 0x001F93_001F9B,
   0x001F94_001F9C, 0x001F95_001F9D, 0x001F96_001F9E, 0x001F97_001F9F,
   0x001FA0_001FA8, 0x001FA1_001FA9, 0x001FA2_001FAA, 0x001FA3_001FAB,
   0x001FA4_001FAC, 0x001FA5_001FAD, 0x001FA6_001FAE, 0x001FA7_001FAF,
   0x001FB0_001FB8, 0x001FB1_001FB9, 0x001FB3_001FBC, 0x001FC3_001FCC,
   0x001FD0_001FD8, 0x001FD1_001FD9, 0x001FE0_001FE8, 0x001FE1_001FE9,
   0x001FE5_001FEC, 0x001FF3_001FFC, 0x002132_00214E, 0x002160_002170,
   0x002161_002171, 0x002162_002172, 0x002163_002173, 0x002164_002174,
   0x002165_002175, 0x002166_002176, 0x002167_002177, 0x002168_002178,
   0x002169_002179, 0x00216A_00217A, 0x00216B_00217B, 0x00216C_00217C,
   0x00216D_00217D, 0x00216E_00217E, 0x00216F_00217F, 0x002183_002184,
   0x0024B6_0024D0, 0x0024B7_0024D1, 0x0024B8_0024D2, 0x0024B9_0024D3,
   0x0024BA_0024D4, 0x0024BB_0024D5, 0x0024BC_0024D6, 0x0024BD_0024D7,
   0x0024BE_0024D8, 0x0024BF_0024D9, 0x0024C0_0024DA, 0x0024C1_0024DB,
   0x0024C2_0024DC, 0x0024C3_0024DD, 0x0024C4_0024DE, 0x0024C5_0024DF,
   0x0024C6_0024E0, 0x0024C7_0024E1, 0x0024C8_0024E2, 0x0024C9_0024E3,
   0x0024CA_0024E4, 0x0024CB_0024E5, 0x0024CC_0024E6, 0x0024CD_0024E7,
   0x0024CE_0024E8, 0x0024CF_0024E9, 0x002C00_002C30, 0x002C01_002C31,
   0x002C02_002C32, 0x002C03_002C33, 0x002C04_002C34, 0x002C05_002C35,
   0x002C06_002C36, 0x002C07_002C37, 0x002C08_002C38, 0x002C09_002C39,
   0x002C0A_002C3A, 0x002C0B_002C3B, 0x002C0C_002C3C, 0x002C0D_002C3D,
   0x002C0E_002C3E, 0x002C0F_002C3F, 0x002C10_002C40, 0x002C11_002C41,
   0x002C12_002C42, 0x002C13_002C43, 0x002C14_002C44, 0x002C15_002C45,
   0x002C16_002C46, 0x002C17_002C47, 0x002C18_002C48, 0x002C19_002C49,
   0x002C1A_002C4A, 0x002C1B_002C4B, 0x002C1C_002C4C, 0x002C1D_002C4D,
   0x002C1E_002C4E, 0x002C1F_002C4F, 0x002C20_002C50, 0x002C21_002C51,
   0x002C22_002C52, 0x002C23_002C53, 0x002C24_002C54, 0x002C25_002C55,
   0x002C26_002C56, 0x002C27_002C57, 0x002C28_002C58, 0x002C29_002C59,
   0x002C2A_002C5A, 0x002C2B_002C5B, 0x002C2C_002C5C, 0x002C2D_002C5D,
   0x002C2E_002C5E, 0x002C2F_002C5F, 0x002C60_002C61, 0x002C67_002C68,
   0x002C69_002C6A, 0x002C6B_002C6C, 0x002C72_002C73, 0x002C75_002C76,
   0x002C80_002C81, 0x002C82_002C83, 0x002C84_002C85, 0x002C86_002C87,
   0x002C88_002C89, 0x002C8A_002C8B, 0x002C8C_002C8D, 0x002C8E_002C8F,
   0x002C90_002C91, 0x002C92_002C93, 0x002C94_002C95, 0x002C96_002C97,
   0x002C98_002C99, 0x002C9A_002C9B, 0x002C9C_002C9D, 0x002C9E_002C9F,
   0x002CA0_002CA1, 0x002CA2_002CA3, 0x002CA4_002CA5, 0x002CA6_002CA7,
   0x002CA8_002CA9, 0x002CAA_002CAB, 0x002CAC_002CAD, 0x002CAE_002CAF,
   0x002CB0_002CB1, 0x002CB2_002CB3, 0x002CB4_002CB5, 0x002CB6_002CB7,
   0x002CB8_002CB9, 0x002CBA_002CBB, 0x002CBC_002CBD, 0x002CBE_002CBF,
   0x002CC0_002CC1, 0x002CC2_002CC3, 0x002CC4_002CC5, 0x002CC6_002CC7,
   0x002CC8_002CC9, 0x002CCA_002CCB, 0x002CCC_002CCD, 0x002CCE_002CCF,
   0x002CD0_002CD1, 0x002CD2_002CD3, 0x002CD4_002CD5, 0x002CD6_002CD7,
   0x002CD8_002CD9, 0x002CDA_002CDB, 0x002CDC_002CDD, 0x002CDE_002CDF,
   0x002CE0_002CE1, 0x002CE2_002CE3, 0x002CEB_002CEC, 0x002CED_002CEE,
   0x002CF2_002CF3, 0x00A640_00A641, 0x00A642_00A643, 0x00A644_00A645,
   0x00A646_00A647, 0x00A648_00A649, 0x00A64C_00A64D, 0x00A64E_00A64F,
   0x00A650_00A651, 0x00A652_00A653, 0x00A654_00A655, 0x00A656_00A657,
   0x00A658_00A659, 0x00A65A_00A65B, 0x00A65C_00A65D, 0x00A65E_00A65F,
   0x00A660_00A661, 0x00A662_00A663, 0x00A664_00A665, 0x00A666_00A667,
   0x00A668_00A669, 0x00A66A_00A66B, 0x00A66C_00A66D, 0x00A680_00A681,
   0x00A682_00A683, 0x00A684_00A685, 0x00A686_00A687, 0x00A688_00A689,
   0x00A68A_00A68B, 0x00A68C_00A68D, 0x00A68E_00A68F, 0x00A690_00A691,
   0x00A692_00A693, 0x00A694_00A695, 0x00A696_00A697, 0x00A698_00A699,
   0x00A69A_00A69B, 0x00A722_00A723, 0x00A724_00A725, 0x00A726_00A727,
   0x00A728_00A729, 0x00A72A_00A72B, 0x00A72C_00A72D, 0x00A72E_00A72F,
   0x00A732_00A733, 0x00A734_00A735, 0x00A736_00A737, 0x00A738_00A739,
   0x00A73A_00A73B, 0x00A73C_00A73D, 0x00A73E_00A73F, 0x00A740_00A741,
   0x00A742_00A743, 0x00A744_00A745, 0x00A746_00A747, 0x00A748_00A749,
   0x00A74A_00A74B, 0x00A74C_00A74D, 0x00A74E_00A74F, 0x00A750_00A751,
   0x00A752_00A753, 0x00A754_00A755, 0x00A756_00A757, 0x00A758_00A759,
   0x00A75A_00A75B, 0x00A75C_00A75D, 0x00A75E_00A75F, 0x00A760_00A761,
   0x00A762_00A763, 0x00A764_00A765, 0x00A766_00A767, 0x00A768_00A769,
   0x00A76A_00A76B, 0x00A76C_00A76D, 0x00A76E_00A76F, 0x00A779_00A77A,
   0x00A77B_00A77C, 0x00A77E_00A77F, 0x00A780_00A781, 0x00A782_00A783,
   0x00A784_00A785, 0x00A786_00A787, 0x00A78B_00A78C, 0x00A790_00A791,
   0x00A792_00A793, 0x00A794_00A7C4, 0x00A796_00A797, 0x00A798_00A799,
   0x00A79A_00A79B, 0x00A79C_00A79D, 0x00A79E_00A79F, 0x00A7A0_00A7A1,
   0x00A7A2_00A7A3, 0x00A7A4_00A7A5, 0x00A7A6_00A7A7, 0x00A7A8_00A7A9,
   0x00A7B3_00AB53, 0x00A7B4_00A7B5, 0x00A7B6_00A7B7, 0x00A7B8_00A7B9,
   0x00A7BA_00A7BB, 0x00A7BC_00A7BD, 0x00A7BE_00A7BF, 0x00A7C0_00A7C1,
   0x00A7C2_00A7C3, 0x00A7C7_00A7C8, 0x00A7C9_00A7CA, 0x00A7CC_00A7CD,
   0x00A7D0_00A7D1, 0x00A7D6_00A7D7, 0x00A7D8_00A7D9, 0x00A7DA_00A7DB,
   0x00A7F5_00A7F6, 0x00FB05_00FB06, 0x00FF21_00FF41, 0x00FF22_00FF42,
   0x00FF23_00FF43, 0x00FF24_00FF44, 0x00FF25_00FF45, 0x00FF26_00FF46,
   0x00FF27_00FF47, 0x00FF28_00FF48, 0x00FF29_00FF49, 0x00FF2A_00FF4A,
   0x00FF2B_00FF4B, 0x00FF2C_00FF4C, 0x00FF2D_00FF4D, 0x00FF2E_00FF4E,
   0x00FF2F_00FF4F, 0x00FF30_00FF50, 0x00FF31_00FF51, 0x00FF32_00FF52,
   0x00FF33_00FF53, 0x00FF34_00FF54, 0x00FF35_00FF55, 0x00FF36_00FF56,
   0x00FF37_00FF57, 0x00FF38_00FF58, 0x00FF39_00FF59, 0x00FF3A_00FF5A,
   0x010400_010428, 0x010401_010429, 0x010402_01042A, 0x010403_01042B,
   0x010404_01042C, 0x010405_01042D, 0x010406_01042E, 0x010407_01042F,
   0x010408_010430, 0x010409_010431, 0x01040A_010432, 0x01040B_010433,
   0x01040C_010434, 0x01040D_010435, 0x01040E_010436, 0x01040F_010437,
   0x010410_010438, 0x010411_010439, 0x010412_01043A, 0x010413_01043B,
   0x010414_01043C, 0x010415_01043D, 0x010416_01043E, 0x010417_01043F,
   0x010418_010440, 0x010419_010441, 0x01041A_010442, 0x01041B_010443,
   0x01041C_010444, 0x01041D_010445, 0x01041E_010446, 0x01041F_010447,
   0x010420_010448, 0x010421_010449, 0x010422_01044A, 0x010423_01044B,
   0x010424_01044C, 0x010425_01044D, 0x010426_01044E, 0x010427_01044F,
   0x0104B0_0104D8, 0x0104B1_0104D9, 0x0104B2_0104DA, 0x0104B3_0104DB,
   0x0104B4_0104DC, 0x0104B5_0104DD, 0x0104B6_0104DE, 0x0104B7_0104DF,
   0x0104B8_0104E0, 0x0104B9_0104E1, 0x0104BA_0104E2, 0x0104BB_0104E3,
   0x0104BC_0104E4, 0x0104BD_0104E5, 0x0104BE_0104E6, 0x0104BF_0104E7,
   0x0104C0_0104E8, 0x0104C1_0104E9, 0x0104C2_0104EA, 0x0104C3_0104EB,
   0x0104C4_0104EC, 0x0104C5_0104ED, 0x0104C6_0104EE, 0x0104C7_0104EF,
   0x0104C8_0104F0, 0x0104C9_0104F1, 0x0104CA_0104F2, 0x0104CB_0104F3,
   0x0104CC_0104F4, 0x0104CD_0104F5, 0x0104CE_0104F6, 0x0104CF_0104F7,
   0x0104D0_0104F8, 0x0104D1_0104F9, 0x0104D2_0104FA, 0x0104D3_0104FB,
   0x010570_010597, 0x010571_010598, 0x010572_010599, 0x010573_01059A,
   0x010574_01059B, 0x010575_01059C, 0x010576_01059D, 0x010577_01059E,
   0x010578_01059F, 0x010579_0105A0, 0x01057A_0105A1, 0x01057C_0105A3,
   0x01057D_0105A4, 0x01057E_0105A5, 0x01057F_0105A6, 0x010580_0105A7,
   0x010581_0105A8, 0x010582_0105A9, 0x010583_0105AA, 0x010584_0105AB,
   0x010585_0105AC, 0x010586_0105AD, 0x010587_0105AE, 0x010588_0105AF,
   0x010589_0105B0, 0x01058A_0105B1, 0x01058C_0105B3, 0x01058D_0105B4,
   0x01058E_0105B5, 0x01058F_0105B6, 0x010590_0105B7, 0x010591_0105B8,
   0x010592_0105B9, 0x010594_0105BB, 0x010595_0105BC, 0x010C80_010CC0,
   0x010C81_010CC1, 0x010C82_010CC2, 0x010C83_010CC3, 0x010C84_010CC4,
   0x010C85_010CC5, 0x010C86_010CC6, 0x010C87_010CC7, 0x010C88_010CC8,
   0x010C89_010CC9, 0x010C8A_010CCA, 0x010C8B_010CCB, 0x010C8C_010CCC,
   0x010C8D_010CCD, 0x010C8E_010CCE, 0x010C8F_010CCF, 0x010C90_010CD0,
   0x010C91_010CD1, 0x010C92_010CD2, 0x010C93_010CD3, 0x010C94_010CD4,
   0x010C95_010CD5, 0x010C96_010CD6, 0x010C97_010CD7, 0x010C98_010CD8,
   0x010C99_010CD9, 0x010C9A_010CDA, 0x010C9B_010CDB, 0x010C9C_010CDC,
   0x010C9D_010CDD, 0x010C9E_010CDE, 0x010C9F_010CDF, 0x010CA0_010CE0,
   0x010CA1_010CE1, 0x010CA2_010CE2, 0x010CA3_010CE3, 0x010CA4_010CE4,
   0x010CA5_010CE5, 0x010CA6_010CE6, 0x010CA7_010CE7, 0x010CA8_010CE8,
   0x010CA9_010CE9, 0x010CAA_010CEA, 0x010CAB_010CEB, 0x010CAC_010CEC,
   0x010CAD_010CED, 0x010CAE_010CEE, 0x010CAF_010CEF, 0x010CB0_010CF0,
   0x010CB1_010CF1, 0x010CB2_010CF2, 0x010D50_010D70, 0x010D51_010D71,
   0x010D52_010D72, 0x010D53_010D73, 0x010D54_010D74, 0x010D55_010D75,
   0x010D56_010D76, 0x010D57_010D77, 0x010D58_010D78, 0x010D59_010D79,
   0x010D5A_010D7A, 0x010D5B_010D7B, 0x010D5C_010D7C, 0x010D5D_010D7D,
   0x010D5E_010D7E, 0x010D5F_010D7F, 0x010D60_010D80, 0x010D61_010D81,
   0x010D62_010D82, 0x010D63_010D83, 0x010D64_010D84, 0x010D65_010D85,
   0x0118A0_0118C0, 0x0118A1_0118C1, 0x0118A2_0118C2, 0x0118A3_0118C3,
   0x0118A4_0118C4, 0x0118A5_0118C5, 0x0118A6_0118C6, 0x0118A7_0118C7,
   0x0118A8_0118C8, 0x0118A9_0118C9, 0x0118AA_0118CA, 0x0118AB_0118CB,
   0x0118AC_0118CC, 0x0118AD_0118CD, 0x0118AE_0118CE, 0x0118AF_0118CF,
   0x0118B0_0118D0, 0x0118B1_0118D1, 0x0118B2_0118D2, 0x0118B3_0118D3,
   0x0118B4_0118D4, 0x0118B5_0118D5, 0x0118B6_0118D6, 0x0118B7_0118D7,
   0x0118B8_0118D8, 0x0118B9_0118D9, 0x0118BA_0118DA, 0x0118BB_0118DB,
   0x0118BC_0118DC, 0x0118BD_0118DD, 0x0118BE_0118DE, 0x0118BF_0118DF,
   0x016E40_016E60, 0x016E41_016E61, 0x016E42_016E62, 0x016E43_016E63,
   0x016E44_016E64, 0x016E45_016E65, 0x016E46_016E66, 0x016E47_016E67,
   0x016E48_016E68, 0x016E49_016E69, 0x016E4A_016E6A, 0x016E4B_016E6B,
   0x016E4C_016E6C, 0x016E4D_016E6D, 0x016E4E_016E6E, 0x016E4F_016E6F,
   0x016E50_016E70, 0x016E51_016E71, 0x016E52_016E72, 0x016E53_016E73,
   0x016E54_016E74, 0x016E55_016E75, 0x016E56_016E76, 0x016E57_016E77,
   0x016E58_016E78, 0x016E59_016E79, 0x016E5A_016E7A, 0x016E5B_016E7B,
   0x016E5C_016E7C, 0x016E5D_016E7D, 0x016E5E_016E7E, 0x016E5F_016E7F,
   0x01E900_01E922, 0x01E901_01E923, 0x01E902_01E924, 0x01E903_01E925,
   0x01E904_01E926, 0x01E905_01E927, 0x01E906_01E928, 0x01E907_01E929,
   0x01E908_01E92A, 0x01E909_01E92B, 0x01E90A_01E92C, 0x01E90B_01E92D,
   0x01E90C_01E92E, 0x01E90D_01E92F, 0x01E90E_01E930, 0x01E90F_01E931,
   0x01E910_01E932, 0x01E911_01E933, 0x01E912_01E934, 0x01E913_01E935,
   0x01E914_01E936, 0x01E915_01E937, 0x01E916_01E938, 0x01E917_01E939,
   0x01E918_01E93A, 0x01E919_01E93B, 0x01E91A_01E93C, 0x01E91B_01E93D,
   0x01E91C_01E93E, 0x01E91D_01E93F, 0x01E91E_01E940, 0x01E91F_01E941,
   0x01E920_01E942, 0x01E921_01E943]

def orbitPoints (orbit : Nat) : List Nat :=
  [orbit % 0x1000000, orbit / 0x1000000 % 0x1000000, orbit / 0x1000000000000 % 0x1000000,
    orbit / 0x1000000000000000000].filter (· != 0)

/-- A set with every character that differs from one of its characters in case only. -/
def CodePoints.caseless (set : CodePoints) : CodePoints :=
  let orbits := caseOrbits.map orbitPoints
  let met := orbits.filter (·.any set.holds)
  set.union (.ofBlocks (met.flatten.map fun codePoint => ⟨codePoint, codePoint⟩))

/-- The same among the letters of ASCII. -/
def CodePoints.asciiCaseless (set : CodePoints) : CodePoints :=
  let letters := (List.range 26).flatMap fun i => [(0x41 + i, 0x61 + i), (0x61 + i, 0x41 + i)]
  let met := letters.filter (set.holds ·.1)
  set.union (.ofBlocks (met.map fun letter => ⟨letter.2, letter.2⟩))

end RouteTable.Text
